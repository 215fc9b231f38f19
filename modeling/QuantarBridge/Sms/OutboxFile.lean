import Mathlib.Data.List.Forall2
import QuantarBridge.Sms.Outbound

/-!
# What an outbox file asks for

Sending a file reads it first. What it reads depends on the file, the configuration and the id of
the next text message only, so it is a function of these.

* `header`, `rawIpPacketOf`, `messageOf`, `prepared`: what a file says;
* `bmRequest`, `bmPackets`: the packets it asks the packet-data writer to send;
* `exec_processOutboundFile`: **what sending a file does**;
* `AsksFor`, `final_processOutboundFile`: what handing over its packets keeps is kept by sending it;
* `prepared_alike`: the id changes neither whether a file can be read nor the length of its message.
-/

set_option autoImplicit false

namespace Sms

open Lib PacketData

/-- The value, or why there is none. -/
def elseStop {α : Type} (e : Stop) : Option α → Except Stop α
  | some a => .ok a
  | none => .error e

/-- The converted field. -/
def Field.result {α : Type} (f : Field α) (default : α) : Except Stop α :=
  elseStop .threw (f.getOr default)

section File

variable (cfg : OutboundConfig) (d : OutboxDocument)

/-- The head of a file. -/
def header : Except Stop Prepared := do
  let channel ← d.channel.result (ascii ['t', 'm', 's'])
  let route ← d.route.result cfg.outboundMode
  let sourceRid ← d.sourceRid.result 0
  let targetRid ← d.targetRid.result 0
  return {
    useTms := channel ≠ ascii ['a', 'r', 's']
    useLrrp := equalsIgnoreCase channel ['l', 'r', 'r', 'p'] ||
      equalsIgnoreCase channel ['l', 'o', 'c', 'a', 't', 'i', 'o', 'n']
    useBrandmeister := equalsIgnoreCase route ['b', 'r', 'a', 'n', 'd', 'm', 'e', 'i', 's', 't',
      'e', 'r'] || equalsIgnoreCase route ['b', 'm']
    sourceRid := sourceRid
    targetRid := targetRid
    rawIpPacket := none
    arsPayload := none
    payload := [] }

/-- The field with the captured packet. -/
def rawIpPacketNode : Field Bytes :=
  if d.rawIpPacketHex.present then d.rawIpPacketHex else d.hexIpPacket

/-- The captured packet of a file. -/
def rawIpPacketOf : Except Stop (Option Bytes) :=
  if (rawIpPacketNode d).present then do
    let hex ← (rawIpPacketNode d).result []
    let packet ← elseStop .refused (hexToBytes hex)
    return some packet
  else return none

/-- The text message with an id. -/
def tmsOf (p : Prepared) (id : UInt8) : Except Stop Prepared := do
  let sendArsFirst ← d.sendArsFirst.result false
  let text ← d.text.result []
  let payload ← elseStop .threw
    (buildMotorolaTmsPayload p.sourceRid text (id &&& 0x1F) p.useBrandmeister)
  let ars := buildMotorolaArsPayload p.sourceRid p.targetRid
  return { p with arsPayload := if sendArsFirst then some ars else none, payload := payload }

/-- A file with both radios, whose text message or registration is built from them. -/
def isMotorola (p : Prepared) : Bool := p.hasRidPair ∧ (p.useTms = false ∨ d.text.present)

/-- A text that is sent as it is. -/
def isPlainText (p : Prepared) : Bool := p.useBrandmeister = false ∧ d.text.present

/-- The message of a file, when the next text message has this id. -/
def messageOf (p : Prepared) (id : UInt8) : Except Stop Prepared :=
  if p.rawIpPacket.isSome then .ok p
  else if d.hexPayload.present then do
    let hex ← d.hexPayload.result []
    let payload ← elseStop .refused (hexToBytes hex)
    return { p with payload := payload }
  else if isMotorola d p then
    if p.useTms then tmsOf d p id
    else .ok { p with payload := buildMotorolaArsPayload p.sourceRid p.targetRid }
  else if isPlainText d p then do
    let text ← d.text.result []
    let terminator ← d.appendNullTerminator.result cfg.outboundAppendNullTerminator
    let payload ← elseStop .threw (encodeUtf16Le text terminator)
    return { p with payload := payload }
  else .error .refused

/-- What a file says when the next text message has this id. -/
def prepared (id : UInt8) : Except Stop Prepared := do
  let p ← header cfg d
  let rawIpPacket ← rawIpPacketOf d
  let p ← messageOf cfg d { p with rawIpPacket := rawIpPacket } id
  if p.rawIpPacket = none ∧ p.payload = [] then .error .refused else .ok p

/-- The address of a radio in a packet. -/
def bmIpOf (field : Field Bytes) (configured : Bytes) (rid : ℕ) : Except Stop Bytes := do
  let value ← field.result configured
  return if value ≠ [] ∧ ¬ equalsIgnoreCase value ['a', 'u', 't', 'o'] then value
    else motorolaRadioIp rid

/-- The addresses and ports of the packets of a file. -/
def bmRequest (p : Prepared) : Except Stop (BmAddresses × BmPorts) := do
  let slot ← d.bmSlot.result cfg.bmSlot
  let sourceIp ← bmIpOf d.bmSourceIp cfg.bmSourceIp p.sourceRid
  let targetIp ← bmIpOf d.bmTargetIp cfg.bmTargetIp p.targetRid
  let arsSourcePort ← d.arsUdpSrcPort.result cfg.outboundArsPort
  let arsTargetPort ← d.arsUdpDstPort.result cfg.outboundArsPort
  let tmsSourcePort ← d.udpSrcPort.result cfg.outboundTmsPort
  let tmsTargetPort ← d.udpDstPort.result cfg.outboundTmsPort
  return (⟨p.sourceRid, p.targetRid, slot % 256, sourceIp, targetIp⟩,
    ⟨arsSourcePort, arsTargetPort, tmsSourcePort, tmsTargetPort⟩)

/-- The packet around a payload, empty when it cannot be built. -/
def BmAddresses.packet (a : BmAddresses) (payload : Bytes) (sourcePort targetPort : ℕ) : Bytes :=
  buildIpv4UdpPacket a.sourceIp a.targetIp sourcePort targetPort payload

/-- The packet around the payload of a file. -/
def payloadPacket (a : BmAddresses) (ports : BmPorts) (p : Prepared) : Bytes :=
  a.packet p.payload (if p.useTms then ports.tmsSourcePort else ports.arsSourcePort)
    (if p.useTms then ports.tmsTargetPort else ports.arsTargetPort)

/-- The location report of a captured packet. -/
def locationPackets (a : BmAddresses) (packet : Bytes) (useLrrp : Bool) :
    Except Stop (List Bytes) :=
  if useLrrp then do
    let report ← elseStop .refused (extractMotorolaLrrpPayload packet)
    return if report.2 then [a.packet report.1 4001 4001] else []
  else .ok []

/-- The packets of a file, in the order in which they are sent. -/
def bmPackets (a : BmAddresses) (ports : BmPorts) (p : Prepared) : Except Stop (List Bytes) :=
  match p.rawIpPacket, p.arsPayload with
  | some packet, _ => locationPackets a packet p.useLrrp
  | none, some ars =>
    .ok [a.packet ars ports.arsSourcePort ports.arsTargetPort, payloadPacket a ports p]
  | none, none => .ok [payloadPacket a ports p]

/-- The packets that a file asks the writer to send, with their addresses. -/
def bmPlan (p : Prepared) : Except Stop (BmAddresses × List Bytes) :=
  if p.hasRidPair = false ∨ cfg.writerInstalled = false then .error .refused
  else do
    let r ← bmRequest cfg d p
    let packets ← bmPackets r.1 r.2 p
    return (r.1, packets)

end File

/-! ## Sending a file does what it says -/

section Programs

variable {σ ε : Type} (cfg : OutboundConfig) (writer : PacketWriter σ ε) (d : OutboxDocument)

open Program

theorem read_eq {α : Type} (f : Field α) (default : α) :
    (f.read default : Outbound σ ε α) = ofResult (f.result default) := by
  unfold Field.read Field.result
  cases f.getOr default <;> rfl

theorem orThrow_eq {α : Type} (o : Option α) :
    (orThrow o : Outbound σ ε α) = ofResult (elseStop .threw o) := by
  cases o <;> rfl

theorem orRefuse_eq {α : Type} (o : Option α) :
    (orRefuse o : Outbound σ ε α) = ofResult (elseStop .refused o) := by
  cases o <;> rfl

theorem readRawIpPacket_eq : (readRawIpPacket d : Outbound σ ε _) = ofResult (rawIpPacketOf d) := by
  unfold readRawIpPacket rawIpPacketOf
  change (if (rawIpPacketNode d).present then _ else _) = _
  by_cases h : (rawIpPacketNode d).present = true
  · rw [if_pos h, if_pos h, ofResult_bind, ← read_eq]
    refine bind_congr fun hex => ?_
    rw [ofResult_bind, ← orRefuse_eq]
    rfl
  · rw [if_neg h, if_neg h]
    rfl

theorem resolveBmIp_eq (field : Field Bytes) (configured : Bytes) (rid : ℕ) :
    (resolveBmIp field configured rid : Outbound σ ε _) =
      ofResult (bmIpOf field configured rid) := by
  unfold resolveBmIp bmIpOf
  rw [ofResult_bind, ← read_eq]
  rfl

/-- Sending moves on to another message id at most. -/
def Reads {α : Type} (m : Outbound σ ε α) (r : UInt8 → Except Stop α) : Prop :=
  ∀ s, ∃ id, exec m s = (r s.nextTmsMessageId, { s with nextTmsMessageId := id })

theorem reads_ofResult {α : Type} (r : Except Stop α) :
    Reads (ofResult r : Outbound σ ε α) fun _ => r := fun s => ⟨s.nextTmsMessageId, exec_ofResult r s⟩

theorem reads_bind {α β : Type} {r : Except Stop α} {f : α → Outbound σ ε β}
    {g : α → UInt8 → Except Stop β} (hf : ∀ a, Reads (f a) (g a)) :
    Reads (ofResult r >>= f) fun id => r >>= fun a => g a id := by
  intro s
  rw [exec_ofResult_bind]
  cases r with
  | error e => exact ⟨s.nextTmsMessageId, rfl⟩
  | ok a => exact hf a s

theorem reads_then {α β : Type} {m : Outbound σ ε α} {r : UInt8 → Except Stop α} (hm : Reads m r)
    (k : α → Except Stop β) : Reads (m >>= fun a => ofResult (k a)) fun id => r id >>= k := by
  intro s
  obtain ⟨id, h⟩ := hm s
  refine ⟨id, ?_⟩
  rw [exec_bind, h]
  dsimp only
  cases r s.nextTmsMessageId with
  | error e => rfl
  | ok a => exact exec_ofResult (k a) _

theorem reads_readTmsPayload (p : Prepared) :
    Reads (readTmsPayload d p : Outbound σ ε _) (tmsOf d p) := by
  unfold readTmsPayload
  rw [read_eq, read_eq]
  refine reads_bind fun sendArsFirst => reads_bind fun text => ?_
  intro s
  change ∃ id, exec (orThrow (buildMotorolaTmsPayload p.sourceRid text (s.nextTmsMessageId &&& 0x1F)
    p.useBrandmeister) >>= _) s = _
  rw [orThrow_eq, exec_ofResult_bind]
  cases hp : buildMotorolaTmsPayload p.sourceRid text (s.nextTmsMessageId &&& 0x1F)
    p.useBrandmeister with
  | none => exact ⟨s.nextTmsMessageId, by dsimp only; rw [hp]; rfl⟩
  | some payload => exact ⟨(s.nextTmsMessageId &&& 0x1F) + 1 &&& 0x1F, by dsimp only; rw [hp]; rfl⟩

theorem reads_readPayload (p : Prepared) :
    Reads (readPayload cfg d p : Outbound σ ε _) (messageOf cfg d p) := by
  unfold readPayload
  have hm : (p.hasRidPair = true ∧ (p.useTms = false ∨ d.text.present = true)) ↔
      isMotorola d p = true := decide_eq_true_iff.symm
  have ht : (p.useBrandmeister = false ∧ d.text.present = true) ↔ isPlainText d p = true :=
    decide_eq_true_iff.symm
  change Reads _ fun id => messageOf cfg d p id
  simp only [hm, ht, read_eq, orThrow_eq, orRefuse_eq, messageOf]
  split_ifs
  · exact reads_ofResult (.ok p)
  · exact reads_bind fun hex => reads_bind fun payload => reads_ofResult (.ok _)
  · exact reads_readTmsPayload d p
  · exact reads_ofResult (.ok _)
  · exact reads_bind fun text => reads_bind fun terminator => reads_bind fun payload =>
      reads_ofResult (.ok _)
  · exact reads_ofResult (.error .refused)

theorem reads_prepare : Reads (prepare cfg d : Outbound σ ε _) (prepared cfg d) := by
  change Reads _ fun id => prepared cfg d id
  unfold prepare prepared header
  simp only [read_eq, readRawIpPacket_eq, bind_assoc, pure_bind]
  refine reads_bind fun channel => reads_bind fun route => reads_bind fun sourceRid =>
    reads_bind fun targetRid => reads_bind fun rawIpPacket => ?_
  have hcheck : ∀ p : Prepared,
      ((if p.rawIpPacket = none ∧ p.payload = [] then throw .refused else pure p) : Outbound σ ε _) =
        ofResult (if p.rawIpPacket = none ∧ p.payload = [] then .error .refused else .ok p) := by
    intro p
    split_ifs <;> rfl
  simp only [hcheck]
  exact reads_then (reads_readPayload cfg d _) _

/-- Hand a packet to the writer. An empty one could not be built. -/
def handPacket (a : BmAddresses) (ipPacket : Bytes) : Outbound σ ε PUnit :=
  if ipPacket = [] then throw .refused
  else do
    let s ← get
    let w := writer s.network a.sourceRid a.targetRid a.slotNo ipPacket
    set { s with network := w.2.1, effects := s.effects ++ w.2.2.map OutboundEffect.network }
    if w.1 then pure ⟨⟩ else throw .refused

/-- Hand the packets of a file to the writer, up to the first that it refuses. -/
def handPackets (a : BmAddresses) : List Bytes → Outbound σ ε PUnit
  | [] => pure ⟨⟩
  | packet :: rest => do
    handPacket writer a packet
    handPackets a rest

theorem exec_handPacket (a : BmAddresses) {packet : Bytes}
    (h : packet ≠ []) (s : OutboundState σ ε) :
    exec (handPacket writer a packet) s =
      let r := writer s.network a.sourceRid a.targetRid a.slotNo packet
      (if r.1 then .ok ⟨⟩ else .error .refused,
        { s with
          network := r.2.1
          effects := s.effects ++ r.2.2.map OutboundEffect.network }) := by
  unfold handPacket
  rw [if_neg h]
  change exec (if (writer s.network a.sourceRid a.targetRid a.slotNo packet).1 then _ else _) _ = _
  generalize writer s.network a.sourceRid a.targetRid a.slotNo packet = r
  obtain ⟨accepted, network, events⟩ := r
  cases accepted <;> rfl

theorem exec_handPacket_nil (a : BmAddresses)
    (s : OutboundState σ ε) : exec (handPacket writer a []) s = (.error .refused, s) := rfl

theorem handPacket_eq (a : BmAddresses) (packet : Bytes) :
    handPacket writer a packet = handPackets writer a [packet] :=
  (bind_pure (handPacket writer a packet)).symm

theorem sendLocation_eq (a : BmAddresses) (packet : Bytes) (useLrrp : Bool) :
    sendLocation writer a packet useLrrp =
      ofResult (locationPackets a packet useLrrp) >>= handPackets writer a := by
  unfold sendLocation locationPackets
  cases useLrrp with
  | false => rfl
  | true =>
    rw [if_pos rfl, if_pos rfl, orRefuse_eq, ofResult_bind, bind_assoc]
    refine bind_congr fun report => ?_
    by_cases hp : report.2 = true
    · rw [if_pos hp, if_pos hp]
      exact handPacket_eq writer a _
    · rw [if_neg hp, if_neg hp]
      rfl

theorem sendPackets_eq (a : BmAddresses) (ports : BmPorts) (p : Prepared) :
    sendPackets writer a ports p = ofResult (bmPackets a ports p) >>= handPackets writer a := by
  unfold sendPackets bmPackets
  cases p.rawIpPacket with
  | some packet => exact sendLocation_eq writer a packet p.useLrrp
  | none =>
    cases p.arsPayload with
    | some ars => exact bind_congr fun _ => handPacket_eq writer a _
    | none => exact handPacket_eq writer a _

theorem sendOverBrandmeister_eq (o : ArchiveOutcome) (path : Bytes) (p : Prepared) :
    sendOverBrandmeister cfg writer d o path p = ofResult (bmPlan cfg d p) >>= fun r =>
      handPackets writer r.1 r.2 >>= fun _ => archiveSent o path := by
  unfold sendOverBrandmeister bmPlan bmRequest
  by_cases h : p.hasRidPair = false ∨ cfg.writerInstalled = false
  · rw [if_pos h, if_pos h]
    rfl
  · rw [if_neg h, if_neg h]
    simp only [read_eq, resolveBmIp_eq, sendPackets_eq, ofResult_bind, bind_assoc]
    rfl

/-- **What sending a file does.** It reads the file, and sends what it asks for. -/
theorem exec_processOutboundFile (o : ArchiveOutcome) (path : Bytes) (s : OutboundState σ ε) :
    ∃ id, exec (processOutboundFile cfg writer (.document d) o path) s =
      match prepared cfg d s.nextTmsMessageId with
      | .error e => (.error e, { s with nextTmsMessageId := id })
      | .ok p => exec (if p.useBrandmeister then
            ofResult (bmPlan cfg d p) >>= fun r => handPackets writer r.1 r.2 >>= fun _ =>
              archiveSent o path
          else sendOverUdp cfg o path p) { s with nextTmsMessageId := id } := by
  obtain ⟨id, h⟩ := reads_prepare cfg d s
  refine ⟨id, ?_⟩
  change exec (prepare cfg d >>= _) s = _
  rw [exec_bind, h]
  cases prepared cfg d s.nextTmsMessageId with
  | error e => rfl
  | ok p => simp only [sendOverBrandmeister_eq]

/-- The file asks for a packet between two radios. The next text message has the given id. -/
def AsksFor (content : OutboxContent) (id : UInt8) (a : BmAddresses) (ip : Bytes) : Prop :=
  ∃ d p packets, content = .document d ∧ prepared cfg d id = .ok p ∧ p.useBrandmeister = true ∧
    bmPlan cfg d p = .ok (a, packets) ∧ ip ∈ packets

theorem sends_handPackets {J : OutboundState σ ε → Prop} (a : BmAddresses) (packets : List Bytes)
    (h : ∀ ip ∈ packets, Sends J (handPacket writer a ip)) : Sends J (handPackets writer a packets) := by
  induction packets with
  | nil => exact sends_pure _
  | cons ip packets ih =>
    obtain ⟨hip, hrest⟩ := List.forall_mem_cons.mp h
    exact sends_bind hip fun _ => ih hrest

/-- **The rule of the sender.** What handing over the packets that a file asks for keeps is kept by
sending the file. -/
theorem final_processOutboundFile {J : OutboundState σ ε → Prop} (hU : Undisturbed J)
    {s : OutboundState σ ε} {content : OutboxContent}
    (hW : ∀ a ip, AsksFor cfg content s.nextTmsMessageId a ip → Sends J (handPacket writer a ip))
    (o : ArchiveOutcome) (path : Bytes) (hs : ∀ id, J { s with nextTmsMessageId := id }) :
    J (exec (processOutboundFile cfg writer content o path) s).2 := by
  cases content with
  | unparsable | unsubscriptable => exact hs s.nextTmsMessageId
  | document d =>
    obtain ⟨id, hexec⟩ := exec_processOutboundFile cfg writer d o path s
    rw [hexec]
    cases hp : prepared cfg d s.nextTmsMessageId with
    | error e => exact hs id
    | ok p =>
      refine Program.final_of_triple ?_ (hs id)
      split_ifs with hbm
      · cases hplan : bmPlan cfg d p with
        | error e => exact sends_throw e
        | ok r =>
          show Sends J (handPackets writer r.1 r.2 >>= fun _ => archiveSent o path)
          refine sends_bind (sends_handPackets writer r.1 r.2 fun ip hip => ?_) fun _ =>
            sends_archiveSent hU o path
          exact hW r.1 ip ⟨d, p, r.2, rfl, hp, hbm, hplan, hip⟩
      · exact sends_sendOverUdp hU o path p

end Programs

/-! ## The id of the text message hardly matters -/

/-- Both stop for the same reason, or both go on with related values. -/
def Alike {α : Type} (R : α → α → Prop) : Except Stop α → Except Stop α → Prop
  | .ok a, .ok b => R a b
  | .error e, .error e' => e = e'
  | _, _ => False

theorem alike_of_eq {α : Type} {R : α → α → Prop} (hR : ∀ a, R a a) (r : Except Stop α) :
    Alike R r r := by
  cases r with
  | error e => rfl
  | ok a => exact hR a

theorem alike_bind {α β : Type} {R : α → α → Prop} {S : β → β → Prop} {r r' : Except Stop α}
    {f g : α → Except Stop β} (h : Alike R r r') (hf : ∀ a b, R a b → Alike S (f a) (g b)) :
    Alike S (r >>= f) (r' >>= g) := by
  cases r with
  | error e =>
    cases r' with
    | error e' => exact h
    | ok b => exact h.elim
  | ok a =>
    cases r' with
    | error e' => exact h.elim
    | ok b => exact hf a b h

theorem alike_bind_eq {α β : Type} {S : β → β → Prop} (r : Except Stop α)
    {f g : α → Except Stop β} (hf : ∀ a, Alike S (f a) (g a)) : Alike S (r >>= f) (r >>= g) :=
  alike_bind (alike_of_eq (fun _ => rfl) r) fun a b (h : a = b) => by
    rw [← h]
    exact hf a

/-- The same but for the bytes of the payload. -/
structure Prepared.Similar (p q : Prepared) : Prop where
  eq : q = { p with payload := q.payload }
  length : q.payload.length = p.payload.length

theorem Prepared.Similar.refl (p : Prepared) : p.Similar p := ⟨rfl, rfl⟩

/-- The text message around its text, or nothing when it is too long. -/
def tmsMessage (address : Bytes) (id : UInt8) (textBytes : Bytes) : Bytes :=
  let content := [0xE0, UInt8.ofNat address.length] ++ address ++ [0x80 ||| (id &&& 0x1F), 0x04] ++
    textBytes
  if 0xFFFF < content.length then [] else bytes16 content.length ++ content

theorem tmsMessage_length (address : Bytes) (id : UInt8) (textBytes : Bytes) :
    (tmsMessage address id textBytes).length =
      if 0xFFFF < address.length + textBytes.length + 4 then 0
      else address.length + textBytes.length + 6 := by
  have hlen : ([0xE0, UInt8.ofNat address.length] ++ address ++ [0x80 ||| (id &&& 0x1F), 0x04] ++
      textBytes).length = address.length + textBytes.length + 4 := by
    simp only [List.length_append, List.length_cons, List.length_nil]
    omega
  unfold tmsMessage
  dsimp only
  rw [hlen]
  split_ifs with h
  · rfl
  · rw [List.length_append, hlen]
    simp only [bytes16, List.length_cons, List.length_nil]
    omega

/-- The text in front of which a text message has its line break. -/
def tmsBody (text : Bytes) (bm : Bool) : Bytes := if bm then 0x0D :: 0x0A :: text else text

/-- The address of the sender in front of the text, none for BrandMeister. -/
def tmsAddress (sourceRid : ℕ) (bm : Bool) : Bytes := if bm then [] else decimal sourceRid

theorem buildMotorolaTmsPayload_eq (sourceRid : ℕ) (text : Bytes) (id : UInt8) (bm : Bool) :
    buildMotorolaTmsPayload sourceRid text id bm =
      (encodeUtf16Le (tmsAddress sourceRid bm) false).bind fun address =>
        if 0xFF < address.length then some []
        else (encodeUtf16Le (tmsBody text bm) false).map (tmsMessage address id) := by
  have hsome : ∀ address : Bytes, ((encodeUtf16Le (tmsBody text bm) false).bind fun textBytes =>
      some (tmsMessage address id textBytes)) =
      (encodeUtf16Le (tmsBody text bm) false).map (tmsMessage address id) := fun address =>
    (Option.map_eq_bind (f := tmsMessage address id)).symm
  simp only [← hsome]
  cases bm <;> rfl

theorem tmsPayload_length (sourceRid : ℕ) (text : Bytes) (id id' : UInt8) (bm : Bool) :
    (buildMotorolaTmsPayload sourceRid text id bm).map List.length =
      (buildMotorolaTmsPayload sourceRid text id' bm).map List.length := by
  rw [buildMotorolaTmsPayload_eq, buildMotorolaTmsPayload_eq, Option.map_bind, Option.map_bind]
  refine Option.bind_congr fun address _ => ?_
  dsimp only [Function.comp_apply]
  split_ifs
  · rfl
  · rw [Option.map_map, Option.map_map]
    refine Option.map_congr fun textBytes _ => ?_
    dsimp only [Function.comp_apply]
    rw [tmsMessage_length, tmsMessage_length]

section Similar

variable (cfg : OutboundConfig) (d : OutboxDocument)

theorem tmsOf_alike (p : Prepared) (id id' : UInt8) :
    Alike Prepared.Similar (tmsOf d p id) (tmsOf d p id') := by
  refine alike_bind_eq _ fun sendArsFirst => alike_bind_eq _ fun text => ?_
  have hlen := tmsPayload_length p.sourceRid text (id &&& 0x1F) (id' &&& 0x1F) p.useBrandmeister
  cases hp : buildMotorolaTmsPayload p.sourceRid text (id &&& 0x1F) p.useBrandmeister with
  | none =>
    rw [hp, Option.map_none] at hlen
    rw [Option.map_eq_none_iff.mp hlen.symm]
    rfl
  | some payload =>
    rw [hp, Option.map_some] at hlen
    obtain ⟨payload', hp', hl⟩ := Option.map_eq_some_iff.mp hlen.symm
    rw [hp']
    exact ⟨rfl, hl⟩

theorem messageOf_alike (p : Prepared) (id id' : UInt8) :
    Alike Prepared.Similar (messageOf cfg d p id) (messageOf cfg d p id') := by
  unfold messageOf
  split_ifs
  · exact Prepared.Similar.refl p
  · exact alike_of_eq Prepared.Similar.refl _
  · exact tmsOf_alike d p id id'
  · exact Prepared.Similar.refl _
  · exact alike_of_eq Prepared.Similar.refl _
  · rfl

theorem Prepared.Similar.nil_iff {p q : Prepared} (h : p.Similar q) :
    q.payload = [] ↔ p.payload = [] := by
  rw [← List.length_eq_zero_iff, ← List.length_eq_zero_iff, h.length]

/-- **The id of the text message hardly matters.** -/
theorem prepared_alike (id id' : UInt8) :
    Alike Prepared.Similar (prepared cfg d id) (prepared cfg d id') := by
  refine alike_bind_eq _ fun p => alike_bind_eq _ fun rawIpPacket => ?_
  refine alike_bind (messageOf_alike cfg d _ id id') fun a b h => ?_
  have hraw : b.rawIpPacket = a.rawIpPacket := by rw [h.eq]
  have hempty : (b.rawIpPacket = none ∧ b.payload = []) ↔ (a.rawIpPacket = none ∧ a.payload = []) := by
    rw [hraw, h.nil_iff]
  by_cases ha : a.rawIpPacket = none ∧ a.payload = []
  · rw [if_pos ha, if_pos (hempty.mpr ha)]
    rfl
  · rw [if_neg ha, if_neg (mt hempty.mp ha)]
    exact h

/-- A packet cannot be built between malformed addresses or around too long a payload. -/
theorem packet_eq_nil_iff (a : BmAddresses) (payload : Bytes) (sourcePort targetPort : ℕ) :
    a.packet payload sourcePort targetPort = [] ↔ parseIpv4Address a.sourceIp = none ∨
      parseIpv4Address a.targetIp = none ∨ 0xFFFF < 20 + (8 + payload.length) := by
  unfold BmAddresses.packet buildIpv4UdpPacket
  cases parseIpv4Address a.sourceIp with
  | none => exact iff_of_true rfl (Or.inl rfl)
  | some source =>
    cases parseIpv4Address a.targetIp with
    | none => exact iff_of_true rfl (Or.inr (Or.inl rfl))
    | some target =>
      dsimp only
      by_cases hlen : 0xFFFF < 20 + (8 + payload.length)
      · rw [if_pos hlen]
        exact iff_of_true rfl (Or.inr (Or.inr hlen))
      · rw [if_neg hlen]
        refine iff_of_false (List.append_ne_nil_of_left_ne_nil (List.cons_ne_nil _ _) _) ?_
        simp [hlen]

/-- The same addresses, and as many packets of which the same ones can be built. -/
structure SamePlan (r r' : BmAddresses × List Bytes) : Prop where
  addresses : r'.1 = r.1
  packets : List.Forall₂ (fun x y => y = [] ↔ x = []) r.2 r'.2

theorem samePackets (a : BmAddresses) (ports : BmPorts) {p q : Prepared} (h : p.Similar q) :
    Alike (List.Forall₂ fun x y : Bytes => y = [] ↔ x = []) (bmPackets a ports p)
      (bmPackets a ports q) := by
  have hsame : payloadPacket a ports q = [] ↔ payloadPacket a ports p = [] := by
    unfold payloadPacket
    rw [packet_eq_nil_iff, packet_eq_nil_iff, h.length]
  have hrefl : ∀ packets : List Bytes, packets.Forall₂ (fun x y => y = [] ↔ x = []) packets :=
    fun packets => List.forall₂_same.mpr fun _ _ => Iff.rfl
  rw [h.eq] at hsame ⊢
  unfold bmPackets
  dsimp only at hsame ⊢
  cases p.rawIpPacket with
  | some packet => exact alike_of_eq hrefl _
  | none =>
    cases p.arsPayload with
    | some ars => exact .cons Iff.rfl (.cons hsame .nil)
    | none => exact .cons hsame .nil

theorem bmPlan_alike {p q : Prepared} (h : p.Similar q) :
    Alike SamePlan (bmPlan cfg d p) (bmPlan cfg d q) := by
  obtain ⟨payload, rfl⟩ : ∃ payload, q = { p with payload := payload } := ⟨q.payload, h.eq⟩
  unfold bmPlan
  change Alike SamePlan (if p.hasRidPair = false ∨ cfg.writerInstalled = false then _ else _)
    (if p.hasRidPair = false ∨ cfg.writerInstalled = false then _ else _)
  split_ifs
  · rfl
  · refine alike_bind_eq _ fun r => alike_bind (samePackets r.1 r.2 h) fun packets packets' hp => ?_
    exact ⟨rfl, hp⟩

end Similar

/-! ## A sender and a file to start from -/

/-- A sender that sends packet data and has no addresses of its own. -/
def plainSender : OutboundConfig where
  outboundMode := ascii ['b', 'm']
  bmSlot := 2
  bmSourceIp := ascii ['a', 'u', 't', 'o']
  bmTargetIp := ascii ['a', 'u', 't', 'o']
  outboundArsPort := 4005
  outboundTmsPort := 4007
  outboundAppendNullTerminator := false
  writerInstalled := true
  arsTargetValid := false
  tmsTargetValid := false

/-- A file that says nothing. -/
def OutboxDocument.blank : OutboxDocument where
  channel := .absent
  route := .absent
  sourceRid := .absent
  targetRid := .absent
  rawIpPacketHex := .absent
  hexIpPacket := .absent
  hexPayload := .absent
  text := .absent
  sendArsFirst := .absent
  appendNullTerminator := .absent
  bmSlot := .absent
  bmSourceIp := .absent
  bmTargetIp := .absent
  arsUdpSrcPort := .absent
  arsUdpDstPort := .absent
  udpSrcPort := .absent
  udpDstPort := .absent

end Sms
