import QuantarBridge.Lib.Expiry
import QuantarBridge.Lib.Run
import QuantarBridge.PacketData.Codec

/-!
# The packet reassembler

`Reassembler.push` takes one received frame. A data header opens a session for its source, target
and slot, a data block is filed in the session, and the block that fills it closes the session and
emits the packet, unless a packet with the same signature was emitted less than thirty seconds
before.

* `Session`, `sessionKey`, `packetSignature`, `trimPacket`;
* `push` and its parts `pushHeader`, `pushBlock`, `emit`;
* `pushStep`: the reassembler as a machine whose outputs are the emitted packets.
-/

set_option autoImplicit false

namespace PacketData

open Dmr Lib

/-- The time after which a session is given up. -/
def kSessionTimeout : Time := seconds 5

/-- How long a packet counts as a repetition of an earlier one. -/
def kPacketDuplicateWindow : Time := seconds 30

/-- The bound on the blocks of a packet. -/
def kMaxBlocks : ℕ := 64

/-- A reassembled packet. -/
structure Packet where
  sourceRid : ℕ
  targetRid : ℕ
  slotNo : ℕ
  sequenceNo : UInt8
  definedShortData : Bool
  bytes : List UInt8
  deriving DecidableEq

/-- What `push` reports: the frame was packet data, and a packet it completed. -/
structure PushResult where
  consumed : Bool
  packet : Option Packet
  deriving DecidableEq

/-- A packet under reassembly. A block is `none` until it was received. -/
structure Session where
  header : DataHeader
  expectedBlocks : ℕ
  receivedBlocks : ℕ
  nextUnconfirmedBlock : ℕ
  confirmed : Bool
  definedShortData : Bool
  blocks : List (Option (List UInt8))
  updatedAt : Time
  length_blocks : blocks.length = expectedBlocks
  receivedBlocks_eq : receivedBlocks = blocks.countP Option.isSome

/-- The sessions and the signatures of the packets emitted lately. -/
structure Reassembler where
  sessions : Dict ℕ Session
  recentPackets : ExpiryMap UInt64

/-- The key of a session: 24 bits of source, 24 bits of target and the slot. -/
def sessionKey (sourceRid targetRid slotNo : ℕ) : ℕ :=
  ((sourceRid &&& 0xFFFFFF) <<< 25) ||| ((targetRid &&& 0xFFFFFF) <<< 1) |||
    (if slotNo = 2 then 1 else 0)

/-- The session a frame belongs to. -/
def frameKey (frame : NetData) : ℕ := sessionKey frame.srcId frame.dstId frame.slotNo

/-- The FNV-1a hash of addresses, slot and bytes. -/
def packetSignature (packet : Packet) : UInt64 :=
  (bytes32 packet.sourceRid ++ bytes32 packet.targetRid ++ [UInt8.ofNat packet.slotNo] ++
    packet.bytes).foldl (fun hash value => (hash ^^^ value.toUInt64) * (1099511628211 : UInt64))
    (1469598103934665603 : UInt64)

/-- Cut the padding and the CRC off the blocks of a packet. An IPv4 packet is cut at its own total
length. -/
def trimPacket (padLength : ℕ) (definedShortData : Bool) (bytes : List UInt8) : List UInt8 :=
  let padBytes := if definedShortData then (padLength + 7) / 8 else padLength
  let padAndCrc := padBytes + 4
  if 20 ≤ bytes.length ∧ bytes.getD 0 0 >>> 4 = 4 then
    let ipv4Length := readUint16 bytes 2
    let headerLength := (bytes.getD 0 0 &&& 0x0F).toNat * 4
    if headerLength ≤ ipv4Length ∧ ipv4Length ≤ bytes.length then bytes.take ipv4Length else bytes
  else if padAndCrc ≤ bytes.length then bytes.take (bytes.length - padAndCrc)
  else bytes

namespace Session

/-- The session a data header opens. -/
def ofHeader (header : DataHeader) (now : Time) : Session where
  header := header
  expectedBlocks := header.blocksToFollow.toNat
  receivedBlocks := 0
  nextUnconfirmedBlock := 0
  confirmed := header.dpf = .CONFIRMED_DATA ∨
    (header.dpf = .DEFINED_SHORT ∧ header.sap = .SHORT_DATA ∧ header.a)
  definedShortData := header.dpf = .DEFINED_SHORT ∧ header.sap = .SHORT_DATA
  blocks := List.replicate header.blocksToFollow.toNat none
  updatedAt := now
  length_blocks := List.length_replicate
  receivedBlocks_eq := by rw [List.countP_replicate]; rfl

/-- Some frame of the session arrived. -/
def touch (s : Session) (now : Time) : Session := { s with updatedAt := now }

/-- The header the blocks are decoded with. Acknowledged short data uses the confirmed layout. -/
def decodingHeader (s : Session) : DataHeader :=
  if s.definedShortData ∧ s.confirmed then { s.header with dpf := .CONFIRMED_DATA } else s.header

/-- Where a decoded block goes: by its serial number when confirmed, else in order of arrival. -/
def blockIndex (s : Session) (block : DataBlock) : ℕ :=
  if s.confirmed then block.serialNo else s.nextUnconfirmedBlock

/-- Count an unconfirmed block. -/
def countBlock (s : Session) : Session :=
  if s.confirmed then s else { s with nextUnconfirmedBlock := s.nextUnconfirmedBlock + 1 }

theorem countP_set_none (l : List (Option (List UInt8))) (i : ℕ) (b : List UInt8)
    (h : l[i]? = some none) :
    (l.set i (some b)).countP Option.isSome = l.countP Option.isSome + 1 := by
  induction l generalizing i with
  | nil => simp at h
  | cons a l ih =>
    cases i with
    | zero =>
      rw [List.getElem?_cons_zero, Option.some.injEq] at h
      rw [List.set_cons_zero, List.countP_cons, List.countP_cons, h]
      rfl
    | succ i =>
      rw [List.getElem?_cons_succ] at h
      rw [List.set_cons_succ, List.countP_cons, List.countP_cons, ih i h]
      omega

/-- File a block, the first one to arrive stays. -/
def store (s : Session) (i : ℕ) (bytes : List UInt8) : Session :=
  if h : s.blocks[i]? = some none then
    { s with
      blocks := s.blocks.set i (some bytes)
      receivedBlocks := s.receivedBlocks + 1
      length_blocks := by rw [List.length_set, s.length_blocks]
      receivedBlocks_eq := by rw [countP_set_none _ _ _ h, s.receivedBlocks_eq] }
  else s

/-- The received blocks put together. -/
def bytes (s : Session) : List UInt8 := (s.blocks.map (Option.getD · [])).flatten

end Session

namespace Reassembler

/-- Nothing received yet. -/
def init : Reassembler := ⟨Dict.empty, ExpiryMap.empty⟩

/-- Drop stale sessions and forgotten signatures. -/
def expire (s : Reassembler) (now : Time) : Reassembler where
  sessions := s.sessions.filter fun _ session => ¬ kSessionTimeout < now - session.updatedAt
  recentPackets := s.recentPackets.purge now

/-- A data header. -/
def pushHeader (D : Codec) (s : Reassembler) (frame : NetData) (now : Time) :
    Reassembler × PushResult :=
  let key := frameKey frame
  match D.headerDecode frame.data with
  | none => (s, ⟨false, none⟩)
  | some header =>
    let packetData := (header.dpf = .CONFIRMED_DATA ∨ header.dpf = .UNCONFIRMED_DATA) ∧
      header.sap = .PACKET_DATA
    let definedShortData := header.dpf = .DEFINED_SHORT ∧ header.sap = .SHORT_DATA
    if (¬ packetData ∧ ¬ definedShortData) ∨ header.blocksToFollow.toNat = 0 ∨
        kMaxBlocks < header.blocksToFollow.toNat then
      (s, ⟨false, none⟩)
    else
      ({ s with sessions := s.sessions.set key (Session.ofHeader header now) }, ⟨true, none⟩)

/-- The packet of a complete session. -/
def packetOf (frame : NetData) (session : Session) : Packet where
  sourceRid := frame.srcId
  targetRid := frame.dstId
  slotNo := frame.slotNo
  sequenceNo := session.header.ns
  definedShortData := session.definedShortData
  bytes := trimPacket session.header.padLength.toNat session.definedShortData session.bytes

/-- Emit a complete packet unless its signature is still remembered. -/
def emit (s : Reassembler) (packet : Packet) (now : Time) : Reassembler × PushResult :=
  if s.recentPackets.Live now (packetSignature packet) then (s, ⟨true, none⟩)
  else
    let expiry := now + kPacketDuplicateWindow
    ({ s with recentPackets := s.recentPackets.mark (packetSignature packet) expiry },
      ⟨true, some packet⟩)

/-- A data block. -/
def pushBlock (D : Codec) (s : Reassembler) (frame : NetData) (now : Time) :
    Reassembler × PushResult :=
  let key := frameKey frame
  match s.sessions.get? key with
  | none => (s, ⟨false, none⟩)
  | some session =>
    match D.blockDecode frame.dataType session.decodingHeader frame.data with
    | none => ({ s with sessions := s.sessions.set key (session.touch now) }, ⟨true, none⟩)
    | some block =>
      let index := session.blockIndex block
      let counted := (session.touch now).countBlock
      if session.expectedBlocks ≤ index then
        ({ s with sessions := s.sessions.set key counted }, ⟨true, none⟩)
      else
        let stored := counted.store index block.bytes
        if stored.receivedBlocks ≠ stored.expectedBlocks then
          ({ s with sessions := s.sessions.set key stored }, ⟨true, none⟩)
        else emit { s with sessions := s.sessions.erase key } (packetOf frame stored) now

/-- One received frame. -/
def push (D : Codec) (s : Reassembler) (frame : NetData) (now : Time) :
    Reassembler × PushResult :=
  let s := s.expire now
  if frame.dataType = .DATA_HEADER then pushHeader D s frame now
  else if isPayloadDataType frame.dataType then pushBlock D s frame now
  else (s, ⟨false, none⟩)

/-- The packet a data block completes, emitted or not. -/
def completedBlock (D : Codec) (s : Reassembler) (frame : NetData) (now : Time) : Option Packet :=
  match s.sessions.get? (frameKey frame) with
  | none => none
  | some session =>
    match D.blockDecode frame.dataType session.decodingHeader frame.data with
    | none => none
    | some block =>
      let index := session.blockIndex block
      if session.expectedBlocks ≤ index then none
      else
        let stored := (session.touch now).countBlock.store index block.bytes
        if stored.receivedBlocks ≠ stored.expectedBlocks then none
        else some (packetOf frame stored)

/-- The packet a frame completes, emitted or not. -/
def completed (D : Codec) (s : Reassembler) (frame : NetData) (now : Time) : Option Packet :=
  let s := s.expire now
  if frame.dataType = .DATA_HEADER then none
  else if isPayloadDataType frame.dataType then completedBlock D s frame now
  else none

/-- What a frame emits and remembers, given the packet it completes. -/
def Emits (s : Reassembler) (now : Time) (r : Reassembler × PushResult) : Option Packet → Prop
  | none => r.2.packet = none ∧ r.1.recentPackets = s.recentPackets
  | some packet => r.2 = (s.emit packet now).2 ∧
      r.1.recentPackets = (s.emit packet now).1.recentPackets

theorem emit_emits {s : Reassembler} (s' : Reassembler) (h : s'.recentPackets = s.recentPackets)
    (packet : Packet) (now : Time) : Emits s now (s'.emit packet now) (some packet) := by
  unfold Emits emit
  rw [h]
  by_cases hl : s.recentPackets.Live now (packetSignature packet)
  · simp only [if_pos hl, and_self, h]
  · simp only [if_neg hl, and_self]

theorem pushHeader_emits (D : Codec) (s : Reassembler) (frame : NetData) (now : Time) :
    Emits s now (pushHeader D s frame now) none := by
  unfold pushHeader
  cases D.headerDecode frame.data with
  | none => exact ⟨rfl, rfl⟩
  | some header =>
    dsimp only
    split_ifs <;> exact ⟨rfl, rfl⟩

theorem pushBlock_emits (D : Codec) (s : Reassembler) (frame : NetData) (now : Time) :
    Emits s now (pushBlock D s frame now) (completedBlock D s frame now) := by
  cases hs : s.sessions.get? (frameKey frame) with
  | none =>
    simp only [pushBlock, completedBlock, hs]
    exact ⟨rfl, rfl⟩
  | some session =>
    cases hb : D.blockDecode frame.dataType session.decodingHeader frame.data with
    | none =>
      simp only [pushBlock, completedBlock, hs, hb]
      exact ⟨rfl, rfl⟩
    | some block =>
      simp only [pushBlock, completedBlock, hs, hb]
      by_cases h1 : session.expectedBlocks ≤ session.blockIndex block
      · rw [if_pos h1, if_pos h1]
        exact ⟨rfl, rfl⟩
      · rw [if_neg h1, if_neg h1]
        split_ifs
        · exact ⟨rfl, rfl⟩
        · refine emit_emits _ ?_ _ now
          rfl

/-- **What a frame emits.** A frame that completes no packet emits none, and a completed packet goes
through the duplicate check. -/
theorem push_emits (D : Codec) (s : Reassembler) (frame : NetData) (now : Time) :
    Emits (s.expire now) now (s.push D frame now) (s.completed D frame now) := by
  unfold push completed
  dsimp only
  split_ifs
  · exact pushHeader_emits D _ frame now
  · exact pushBlock_emits D _ frame now
  · exact ⟨rfl, rfl⟩

end Reassembler

/-- The reassembler as a machine: a received frame and its time give the emitted packets. -/
def pushStep (D : Codec) (s : Reassembler) (e : NetData × Time) : Reassembler × List Packet :=
  ((s.push D e.1 e.2).1, (s.push D e.1 e.2).2.packet.toList)

end PacketData
