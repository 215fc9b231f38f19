import QuantarBridge.Lib.Program
import QuantarBridge.Sms.Payloads
import QuantarBridge.Sms.Routes

/-!
# Outgoing messages

`processOutboundFile` reads a file of the outbox, sends its message as BrandMeister packet data or as
a UDP datagram, and archives the file. It is a program that may stop: it refuses a file it cannot
send, and a field of the wrong form throws.

* `OutboxDocument`, `OutboundConfig`, `ArchiveOutcome`: what it reads;
* `PacketWriter`: the packet-data writer, over any state;
* `prepare`, `sendOverBrandmeister`, `sendOverUdp`, `processOutboundFile`;
* `Sends`: what a part of the sender keeps.
-/

set_option autoImplicit false

namespace Sms

open Lib PacketData

/-- The fields of an outbox file. -/
structure OutboxDocument where
  channel : Field Bytes
  route : Field Bytes
  sourceRid : Field ℕ
  targetRid : Field ℕ
  rawIpPacketHex : Field Bytes
  hexIpPacket : Field Bytes
  hexPayload : Field Bytes
  text : Field Bytes
  sendArsFirst : Field Bool
  appendNullTerminator : Field Bool
  bmSlot : Field ℕ
  bmSourceIp : Field Bytes
  bmTargetIp : Field Bytes
  arsUdpSrcPort : Field ℕ
  arsUdpDstPort : Field ℕ
  udpSrcPort : Field ℕ
  udpDstPort : Field ℕ

/-- A file of the outbox: no YAML, a scalar, which has no keys, or a document. -/
inductive OutboxContent
  | unparsable
  | unsubscriptable
  | document (d : OutboxDocument)

/-- The configuration of the sender, and which of its targets are known. -/
structure OutboundConfig where
  outboundMode : Bytes
  bmSlot : ℕ
  bmSourceIp : Bytes
  bmTargetIp : Bytes
  outboundArsPort : ℕ
  outboundTmsPort : ℕ
  outboundAppendNullTerminator : Bool
  writerInstalled : Bool
  arsTargetValid : Bool
  tmsTargetValid : Bool

/-- What the file operations and the UDP socket do: a file that cannot be renamed is copied. -/
structure ArchiveOutcome where
  renamed : Bool
  copied : Bool
  datagramSent : Bool

/-- Why a file is not sent. -/
inductive Stop
  | refused
  | threw
  deriving DecidableEq

/-- What sending a file does. -/
inductive OutboundEffect (ε : Type)
  | network (e : ε)
  | datagram (tms : Bool) (payload : Bytes)
  | archived (path : Bytes)
  deriving DecidableEq

/-- The packet-data writer: from its state, source, target, slot and a packet to its answer, its next
state and what happened. -/
abbrev PacketWriter (σ ε : Type) := σ → ℕ → ℕ → ℕ → Bytes → Bool × σ × List ε

/-- The state of the sender. -/
structure OutboundState (σ ε : Type) where
  network : σ
  nextTmsMessageId : UInt8
  effects : List (OutboundEffect ε)

section Programs

variable {σ ε : Type} (cfg : OutboundConfig) (writer : PacketWriter σ ε)

/-- A program of the sender. -/
abbrev Outbound (σ ε : Type) := Program (OutboundState σ ε) Stop

/-- Convert a field; a field of the wrong form throws. -/
def Field.read {α : Type} (f : Field α) (default : α) : Outbound σ ε α :=
  match f.getOr default with
  | some a => pure a
  | none => throw .threw

/-- The field is there. -/
def Field.present {α : Type} : Field α → Bool
  | .absent => false
  | _ => true

/-- A conversion of the standard library that may throw. -/
def orThrow {α : Type} : Option α → Outbound σ ε α
  | some a => pure a
  | none => throw .threw

/-- A check of the sender that may refuse the file. -/
def orRefuse {α : Type} : Option α → Outbound σ ε α
  | some a => pure a
  | none => throw .refused

/-- Something happens. -/
def record (e : OutboundEffect ε) : Outbound σ ε PUnit :=
  modify fun s => { s with effects := s.effects ++ [e] }

/-- What a file says. -/
structure Prepared where
  useTms : Bool
  useLrrp : Bool
  useBrandmeister : Bool
  sourceRid : ℕ
  targetRid : ℕ
  rawIpPacket : Option Bytes
  arsPayload : Option Bytes
  payload : Bytes

/-- The file names both radios. -/
def Prepared.hasRidPair (p : Prepared) : Bool := p.sourceRid ≠ 0 ∧ p.targetRid ≠ 0

/-- The captured packet of a file. -/
def readRawIpPacket (d : OutboxDocument) : Outbound σ ε (Option Bytes) := do
  let node := if d.rawIpPacketHex.present then d.rawIpPacketHex else d.hexIpPacket
  if node.present then
    let hex ← node.read []
    let packet ← orRefuse (hexToBytes hex)
    pure (some packet)
  else pure none

/-- The text message of a file, with the next message id. -/
def readTmsPayload (d : OutboxDocument) (p : Prepared) : Outbound σ ε Prepared := do
  let sendArsFirst ← d.sendArsFirst.read false
  let text ← d.text.read []
  let s ← get
  let messageId := s.nextTmsMessageId &&& 0x1F
  let payload ← orThrow (buildMotorolaTmsPayload p.sourceRid text messageId p.useBrandmeister)
  modify fun s => { s with nextTmsMessageId := (messageId + 1) &&& 0x1F }
  let ars := buildMotorolaArsPayload p.sourceRid p.targetRid
  pure { p with arsPayload := if sendArsFirst then some ars else none, payload := payload }

/-- The payload of a file. -/
def readPayload (d : OutboxDocument) (p : Prepared) : Outbound σ ε Prepared :=
  if p.rawIpPacket.isSome then pure p
  else if d.hexPayload.present then do
    let hex ← d.hexPayload.read []
    let payload ← orRefuse (hexToBytes hex)
    pure { p with payload := payload }
  else if p.hasRidPair ∧ (p.useTms = false ∨ d.text.present) then
    if p.useTms then readTmsPayload d p
    else pure { p with payload := buildMotorolaArsPayload p.sourceRid p.targetRid }
  else if p.useBrandmeister = false ∧ d.text.present then do
    let text ← d.text.read []
    let terminator ← d.appendNullTerminator.read cfg.outboundAppendNullTerminator
    let payload ← orThrow (encodeUtf16Le text terminator)
    pure { p with payload := payload }
  else throw .refused

/-- Read a file. -/
def prepare (d : OutboxDocument) : Outbound σ ε Prepared := do
  let channel ← d.channel.read (ascii ['t', 'm', 's'])
  let route ← d.route.read cfg.outboundMode
  let sourceRid ← d.sourceRid.read 0
  let targetRid ← d.targetRid.read 0
  let rawIpPacket ← readRawIpPacket d
  let p ← readPayload cfg d
    { useTms := channel ≠ ascii ['a', 'r', 's']
      useLrrp := equalsIgnoreCase channel ['l', 'r', 'r', 'p'] ||
        equalsIgnoreCase channel ['l', 'o', 'c', 'a', 't', 'i', 'o', 'n']
      useBrandmeister := equalsIgnoreCase route ['b', 'r', 'a', 'n', 'd', 'm', 'e', 'i', 's', 't',
        'e', 'r'] || equalsIgnoreCase route ['b', 'm']
      sourceRid := sourceRid
      targetRid := targetRid
      rawIpPacket := rawIpPacket
      arsPayload := none
      payload := [] }
  if p.rawIpPacket = none ∧ p.payload = [] then throw .refused else pure p

/-- Archive the file. -/
def archiveSent (o : ArchiveOutcome) (path : Bytes) : Outbound σ ε PUnit :=
  if o.renamed ∨ o.copied then record (.archived path) else pure ⟨⟩

/-- A configured address, or the one of the radio. -/
def resolveBmIp (field : Field Bytes) (configured : Bytes) (rid : ℕ) : Outbound σ ε Bytes := do
  let value ← field.read configured
  pure (if value ≠ [] ∧ ¬ equalsIgnoreCase value ['a', 'u', 't', 'o'] then value
    else motorolaRadioIp rid)

/-- Where a packet comes from and goes to. -/
structure BmAddresses where
  sourceRid : ℕ
  targetRid : ℕ
  slotNo : ℕ
  sourceIp : Bytes
  targetIp : Bytes

/-- Hand a packet to the writer. -/
def sendBmPacket (a : BmAddresses) (payload : Bytes) (sourcePort targetPort : ℕ) :
    Outbound σ ε PUnit :=
  let ipPacket := buildIpv4UdpPacket a.sourceIp a.targetIp sourcePort targetPort payload
  if ipPacket = [] then throw .refused
  else do
    let s ← get
    let w := writer s.network a.sourceRid a.targetRid a.slotNo ipPacket
    set { s with network := w.2.1, effects := s.effects ++ w.2.2.map OutboundEffect.network }
    if w.1 then pure ⟨⟩ else throw .refused

/-- The location report of a captured packet. Nothing else of a captured packet is sent. -/
def sendLocation (a : BmAddresses) (packet : Bytes) (useLrrp : Bool) : Outbound σ ε PUnit :=
  if useLrrp then do
    let report ← orRefuse (extractMotorolaLrrpPayload packet)
    if report.2 then sendBmPacket writer a report.1 4001 4001 else pure ⟨⟩
  else pure ⟨⟩

/-- The ports of the registration and of the text message. -/
structure BmPorts where
  arsSourcePort : ℕ
  arsTargetPort : ℕ
  tmsSourcePort : ℕ
  tmsTargetPort : ℕ

/-- The payload of a file. -/
def sendPayload (a : BmAddresses) (ports : BmPorts) (p : Prepared) : Outbound σ ε PUnit :=
  sendBmPacket writer a p.payload (if p.useTms then ports.tmsSourcePort else ports.arsSourcePort)
    (if p.useTms then ports.tmsTargetPort else ports.arsTargetPort)

/-- The packets of a file. -/
def sendPackets (a : BmAddresses) (ports : BmPorts) (p : Prepared) : Outbound σ ε PUnit :=
  match p.rawIpPacket, p.arsPayload with
  | some packet, _ => sendLocation writer a packet p.useLrrp
  | none, some ars => do
    sendBmPacket writer a ars ports.arsSourcePort ports.arsTargetPort
    sendPayload writer a ports p
  | none, none => sendPayload writer a ports p

/-- Send a file as packet data. -/
def sendOverBrandmeister (d : OutboxDocument) (o : ArchiveOutcome) (path : Bytes) (p : Prepared) :
    Outbound σ ε PUnit :=
  if p.hasRidPair = false ∨ cfg.writerInstalled = false then throw .refused
  else do
    let slot ← d.bmSlot.read cfg.bmSlot
    let sourceIp ← resolveBmIp d.bmSourceIp cfg.bmSourceIp p.sourceRid
    let targetIp ← resolveBmIp d.bmTargetIp cfg.bmTargetIp p.targetRid
    let arsSourcePort ← d.arsUdpSrcPort.read cfg.outboundArsPort
    let arsTargetPort ← d.arsUdpDstPort.read cfg.outboundArsPort
    let tmsSourcePort ← d.udpSrcPort.read cfg.outboundTmsPort
    let tmsTargetPort ← d.udpDstPort.read cfg.outboundTmsPort
    sendPackets writer ⟨p.sourceRid, p.targetRid, slot % 256, sourceIp, targetIp⟩
      ⟨arsSourcePort, arsTargetPort, tmsSourcePort, tmsTargetPort⟩ p
    archiveSent o path

/-- The registration in front of a text message, when its target is known. -/
def sendArsDatagram (p : Prepared) : Outbound σ ε PUnit :=
  match p.arsPayload with
  | some ars => if cfg.arsTargetValid then record (.datagram false ars) else pure ⟨⟩
  | none => pure ⟨⟩

/-- Send a file as a datagram. -/
def sendOverUdp (o : ArchiveOutcome) (path : Bytes) (p : Prepared) : Outbound σ ε PUnit :=
  if (if p.useTms then cfg.tmsTargetValid else cfg.arsTargetValid) = false then throw .refused
  else do
    sendArsDatagram cfg p
    if o.datagramSent then do
      record (.datagram p.useTms p.payload)
      archiveSent o path
    else throw .refused

/-- Send a file of the outbox. -/
def processOutboundFile (content : OutboxContent) (o : ArchiveOutcome) (path : Bytes) :
    Outbound σ ε PUnit :=
  match content with
  | .unparsable => throw .refused
  | .unsubscriptable => throw .threw
  | .document d => do
    let p ← prepare cfg d
    if p.useBrandmeister then sendOverBrandmeister cfg writer d o path p
    else sendOverUdp cfg o path p

/-! ## What sending keeps -/

/-- What the sender does besides calling the writer keeps `J`. -/
structure Undisturbed (J : OutboundState σ ε → Prop) : Prop where
  archived : ∀ s path, J s → J { s with effects := s.effects ++ [.archived path] }
  datagram : ∀ s tms payload, J s → J { s with effects := s.effects ++ [.datagram tms payload] }

variable {cfg writer} {J : OutboundState σ ε → Prop}

/-- The program keeps `J`, also where it stops. -/
def Sends {α : Type} (J : OutboundState σ ε → Prop) (m : Outbound σ ε α) : Prop :=
  Program.Triple J m (fun _ => J) (fun _ => J)

theorem sends_bind {α β : Type} {m : Outbound σ ε α} {f : α → Outbound σ ε β} (hm : Sends J m)
    (hf : ∀ a, Sends J (f a)) : Sends J (m >>= f) := Program.triple_bind hm hf

theorem sends_pure {α : Type} (a : α) : Sends J (pure a : Outbound σ ε α) :=
  Program.triple_pure a fun _ h => h

theorem sends_throw {α : Type} (e : Stop) : Sends J (throw e : Outbound σ ε α) :=
  Program.triple_throw e fun _ h => h

theorem sends_ite {α : Type} {c : Prop} [Decidable c] {m n : Outbound σ ε α} (hm : Sends J m)
    (hn : Sends J n) : Sends J (if c then m else n) :=
  Program.triple_ite (fun _ => hm) fun _ => hn

theorem sends_archiveSent (hU : Undisturbed J) (o : ArchiveOutcome) (path : Bytes) :
    Sends J (archiveSent o path : Outbound σ ε _) :=
  sends_ite (Program.triple_modify _ fun s => hU.archived s path) (sends_pure _)

theorem sends_sendOverUdp (hU : Undisturbed J) (o : ArchiveOutcome) (path : Bytes) (p : Prepared) :
    Sends J (sendOverUdp cfg o path p : Outbound σ ε _) := by
  refine sends_ite (sends_throw _) (sends_bind ?_ fun _ => ?_)
  · unfold sendArsDatagram
    cases p.arsPayload with
    | none => exact sends_pure _
    | some ars =>
      exact sends_ite (Program.triple_modify _ fun s => hU.datagram s false ars) (sends_pure _)
  · refine sends_ite (sends_bind ?_ fun _ => sends_archiveSent hU o path) (sends_throw _)
    exact Program.triple_modify _ fun s => hU.datagram s p.useTms p.payload

end Programs

end Sms
