import QuantarBridge.PacketData.Reassembler
import QuantarBridge.Sms.IpPacket
import QuantarBridge.Sms.Replies
import QuantarBridge.Sms.Tms

/-!
# Handling a received packet

A reassembled packet is handed to the SMS subsystem. It reads the text of an IPv4 packet or of
defined short data, queues it for the P25 side and acknowledges a Motorola message whose text is
queued, also when it was queued before.

* `sendBrandmeisterTmsAcknowledgement`: the packet the writer is called with;
* `handleBrandmeisterPacketData`, `handleBrandmeisterShortData`, `handlePacket`;
* `packetText`, `packetAcknowledgement`: what a packet says, apart from the state it arrives in;
* `handlePacket_text`: a packet with a text is handled as the queueing of its text goes.
-/

set_option autoImplicit false

namespace Sms

open Lib PacketData

/-- Whether the route directory is configured and the packet-data writer is set. -/
structure Wiring where
  routePathSet : Bool
  writerSet : Bool

/-- A call of the packet-data writer. -/
structure PacketDataWrite where
  sourceRid : ℕ
  targetRid : ℕ
  slotNo : ℕ
  ipv4Packet : Bytes
  deriving DecidableEq

/-- What handling a packet did: its return value, what queueing a text gave, and the call of the
packet-data writer. -/
structure HandlerOutcome where
  state : TextState
  handled : Bool
  queued : Option BrandmeisterTextResult
  effects : List FileEffect
  acknowledgement : Option PacketDataWrite

/-- Nothing was done with the packet. -/
def HandlerOutcome.idle (s : TextState) (handled : Bool) : HandlerOutcome :=
  ⟨s, handled, none, [], none⟩

/-- The address at an offset of a packet. -/
def addressAt (packet : Bytes) (i : ℕ) : Address :=
  ⟨packet.getD i 0, packet.getD (i + 1) 0, packet.getD (i + 2) 0, packet.getD (i + 3) 0⟩

/-- Acknowledge a message to its sender. The result of the writer is only logged. -/
def sendBrandmeisterTmsAcknowledgement (w : Wiring) (sourceRid targetRid slotNo : ℕ)
    (ipv4Packet : Bytes) (sourcePort targetPort : ℕ) (requestOperation messageId : UInt8) :
    Option PacketDataWrite :=
  if w.writerSet = false ∨ ipv4Packet.length < 20 then none
  else
    let acknowledgementOperation := 0x9F ||| (requestOperation &&& 0x20)
    let acknowledgementPacket := buildIpv4UdpPacket (addressToString (addressAt ipv4Packet 16))
      (addressToString (addressAt ipv4Packet 12)) targetPort sourcePort
      [0x00, 0x03, acknowledgementOperation, 0x00, messageId &&& 0x1F]
    if acknowledgementPacket = [] then none
    else some ⟨targetRid, sourceRid, slotNo, acknowledgementPacket⟩

/-- A response that only reports a delivery. -/
def isControlResponse (payload : Bytes) : Bool :=
  3 ≤ payload.length ∧ payload.getD 2 0 &&& 0x1F = 0x1F

/-- Handle an IPv4 packet. -/
def handleBrandmeisterPacketData (w : Wiring) (s : TextState) (c : Clocks) (o : FileOutcomes)
    (sourceRid targetRid slotNo : ℕ) (ipv4Packet : Bytes) : HandlerOutcome :=
  match udpPayload ipv4Packet with
  | none => .idle s false
  | some udp =>
    if isControlResponse udp.payload then .idle s true
    else
      let text := messageText udp.payload
      if text = [] then .idle s false
      else
        let q := queueBrandmeisterText w.routePathSet s c o sourceRid targetRid text
        if q.result = .FAILED then ⟨q.state, false, some q.result, q.effects, none⟩
        else
          let acknowledgement := (parseMotorolaTms udp.payload).bind fun parsed =>
            sendBrandmeisterTmsAcknowledgement w sourceRid targetRid slotNo ipv4Packet
              udp.sourcePort udp.targetPort parsed.operation parsed.messageId
          ⟨q.state, true, some q.result, q.effects, acknowledgement⟩

/-- Handle defined short data. -/
def handleBrandmeisterShortData (w : Wiring) (s : TextState) (c : Clocks) (o : FileOutcomes)
    (sourceRid targetRid : ℕ) (shortData : Bytes) : HandlerOutcome :=
  let text := trim (decodeUtf16Be shortData)
  if text = [] then .idle s false
  else
    let q := queueBrandmeisterText w.routePathSet s c o sourceRid targetRid text
    ⟨q.state, q.result ≠ .FAILED, some q.result, q.effects, none⟩

/-- Hand a reassembled packet to the subsystem. -/
def handlePacket (w : Wiring) (s : TextState) (c : Clocks) (o : FileOutcomes) (packet : Packet) :
    HandlerOutcome :=
  if packet.definedShortData then
    handleBrandmeisterShortData w s c o packet.sourceRid packet.targetRid packet.bytes
  else handleBrandmeisterPacketData w s c o packet.sourceRid packet.targetRid packet.slotNo
    packet.bytes

/-! ## What a packet says -/

/-- The text of a packet, empty when it has none. -/
def packetText (packet : Packet) : Bytes :=
  if packet.definedShortData then trim (decodeUtf16Be packet.bytes)
  else match udpPayload packet.bytes with
    | none => []
    | some udp => if isControlResponse udp.payload then [] else messageText udp.payload

/-- The acknowledgement of a packet whose text is queued. -/
def packetAcknowledgement (w : Wiring) (packet : Packet) : Option PacketDataWrite :=
  if packet.definedShortData then none
  else do
    let udp ← udpPayload packet.bytes
    let parsed ← parseMotorolaTms udp.payload
    sendBrandmeisterTmsAcknowledgement w packet.sourceRid packet.targetRid packet.slotNo
      packet.bytes udp.sourcePort udp.targetPort parsed.operation parsed.messageId

section Handle

variable (w : Wiring) (s : TextState) (c : Clocks) (o : FileOutcomes) (packet : Packet)

theorem handlePacket_idle (h : packetText packet = []) :
    ∃ handled, handlePacket w s c o packet = .idle s handled := by
  unfold packetText at h
  unfold handlePacket
  split_ifs at h with hs
  · rw [if_pos hs, handleBrandmeisterShortData]
    exact ⟨_, if_pos h⟩
  · rw [if_neg hs, handleBrandmeisterPacketData]
    cases hu : udpPayload packet.bytes with
    | none => exact ⟨_, rfl⟩
    | some udp =>
      simp only [hu] at h ⊢
      split_ifs at h ⊢
      · exact ⟨_, rfl⟩
      · exact ⟨_, rfl⟩

/-- **A packet with a text is handled as the queueing of its text goes.** -/
theorem handlePacket_text (h : packetText packet ≠ []) :
    let q := queueBrandmeisterText w.routePathSet s c o packet.sourceRid packet.targetRid
      (packetText packet)
    handlePacket w s c o packet = ⟨q.state, q.result ≠ .FAILED, some q.result, q.effects,
      if q.result = .FAILED then none else packetAcknowledgement w packet⟩ := by
  unfold packetText at h ⊢
  unfold handlePacket packetAcknowledgement
  by_cases hs : packet.definedShortData = true
  · simp only [if_pos hs, handleBrandmeisterShortData] at h ⊢
    rw [if_neg h, ite_self]
  · simp only [if_neg hs, handleBrandmeisterPacketData] at h ⊢
    cases hu : udpPayload packet.bytes with
    | none => exact absurd (by rw [hu]) h
    | some udp =>
      simp only [hu, Option.bind_eq_bind, Option.bind_some] at h ⊢
      by_cases hc : isControlResponse udp.payload = true
      · rw [if_pos hc] at h
        exact absurd rfl h
      · rw [if_neg hc] at h
        simp only [if_neg hc, if_neg h]
        split_ifs with hf
        · simp [hf]
        · simp [hf]

end Handle

end Sms
