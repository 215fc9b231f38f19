import QuantarBridge.Lib.Run
import QuantarBridge.Sms.Handler

/-!
# Acknowledgements between gateways

A gateway acknowledges a Motorola message to its sender, and the sender may be a gateway too. The
acknowledgement is a control response, which every gateway takes up without an answer.

* `addressAt_build`, `udpPayload_build`: a packet that is built is read back;
* `Acknowledges`: what an acknowledgement says;
* `Consumed`, `handle_acknowledges`: **every peer takes it up** and does nothing else;
* `Gateways`, `gatewayStep`: gateways and the packets in flight between them, which may be lost,
  repeated and overtaken;
* `acknowledgements_end`: a message is acknowledged at most once a reception.
-/

set_option autoImplicit false

namespace Sms

open Lib Lib.Run PacketData

/-! ## The packet read back -/

variable {source target : Address} {sourcePort targetPort : ℕ} {payload : Bytes}

theorem addressAt_build (source target : Address) (sourcePort targetPort : ℕ) {payload : Bytes}
    (h : payload.length ≤ 0xFFFF - 28) :
    let packet := buildIpv4UdpPacket (addressToString source) (addressToString target) sourcePort
      targetPort payload
    addressAt packet 12 = source ∧ addressAt packet 16 = target := by
  simp only [buildIpv4UdpPacket, parse_addressToString]
  rw [if_neg (by omega)]
  exact ⟨rfl, rfl⟩

/-- **A packet that is built is read back.** -/
theorem udpPayload_build (hsource : sourcePort < 65536) (htarget : targetPort < 65536)
    (h : payload.length ≤ 0xFFFF - 28) :
    udpPayload (buildIpv4UdpPacket (addressToString source) (addressToString target) sourcePort
      targetPort payload) = some ⟨sourcePort, targetPort, payload⟩ := by
  simp only [buildIpv4UdpPacket, parse_addressToString]
  rw [if_neg (by omega)]
  generalize checksumFinalize _ = ipChecksum
  generalize (if checksumFinalize _ = 0 then 0xFFFF else checksumFinalize _) = udpChecksum
  have htotal := toNat_ofNat_pair (20 + (8 + payload.length)) (by omega)
  have hudp := toNat_ofNat_pair (8 + payload.length) (by omega)
  have hsource' := toNat_ofNat_pair _ hsource
  have htarget' := toNat_ofNat_pair _ htarget
  have hlength : (ipHeader (20 + (8 + payload.length)) ipChecksum source target ++
      udpDatagram sourcePort targetPort (8 + payload.length) udpChecksum payload).length =
        28 + payload.length := by
    simp [ipHeader, udpDatagram, bytes16, Address.bytes]
    omega
  unfold udpPayload
  rw [hlength]
  have hversion : (0x45 : UInt8) >>> 4 = 4 := by decide
  have hihl : ((0x45 : UInt8) &&& 0x0F).toNat * 4 = 20 := by decide
  simp only [ipHeader, udpDatagram, bytes16, Address.bytes, readUint16, List.cons_append,
    List.nil_append, List.getD_cons_zero, List.getD_cons_succ, hihl, List.drop_succ_cons,
    List.drop_zero, htotal, hudp, hsource', htarget']
  rw [if_neg (by simp [hversion]), if_neg (by omega), if_neg (by omega), Nat.add_sub_cancel_left,
    List.take_length]

theorem ports_of_udpPayload {packet : Bytes} {udp : UdpPayload} (h : udpPayload packet = some udp) :
    udp.sourcePort < 65536 ∧ udp.targetPort < 65536 := by
  unfold udpPayload at h
  simp only at h
  split_ifs at h
  rw [Option.some.injEq] at h
  subst h
  exact ⟨readUint16_lt _ _, readUint16_lt _ _⟩

/-! ## One acknowledgement -/

theorem masked_twice (b : UInt8) : b &&& 0x1F &&& 0x1F = b &&& 0x1F := by
  rw [UInt8.and_assoc]
  rfl

theorem messageId_masked {data : Bytes} {parsed : ParsedSmsPacket}
    (h : parseMotorolaTms data = some parsed) : parsed.messageId &&& 0x1F = parsed.messageId := by
  have hmarked : ∀ parsed, parseMarked data = some parsed →
      parsed.messageId &&& 0x1F = parsed.messageId := by
    intro parsed h
    obtain ⟨i, -, rfl⟩ := Option.map_eq_some_iff.mp h
    exact masked_twice _
  unfold parseMotorolaTms at h
  split_ifs at h
  · split at h
    · rename_i rest _
      unfold parseServerText at h
      split at h
      · cases h
      · cases h
      · simp only at h
        split_ifs at h
        rw [Option.some.injEq] at h
        subst h
        exact masked_twice _
    · exact hmarked parsed h
  · exact hmarked parsed h

theorem acknowledgementOperation_masked (requestOperation : UInt8) :
    (0x9F ||| (requestOperation &&& 0x20)) &&& 0x1F = 0x1F := by
  have h : ∀ n : Fin 256, (0x9F ||| (UInt8.ofNat n &&& 0x20)) &&& 0x1F = 0x1F := by decide +kernel
  have := h ⟨requestOperation.toNat, requestOperation.toNat_lt⟩
  rwa [UInt8.ofNat_toNat] at this

/-- The packet acknowledges a message: it goes back, and carries the id of the message. -/
structure Acknowledges (write : PacketDataWrite) (sourceRid targetRid slotNo : ℕ) (packet : Bytes)
    (udp : UdpPayload) (parsed : ParsedSmsPacket) : Prop where
  sourceRid_eq : write.sourceRid = targetRid
  targetRid_eq : write.targetRid = sourceRid
  slotNo_eq : write.slotNo = slotNo
  source_eq : addressAt write.ipv4Packet 12 = addressAt packet 16
  target_eq : addressAt write.ipv4Packet 16 = addressAt packet 12
  payload_eq : ∃ operation, operation &&& 0x1F = 0x1F ∧ udpPayload write.ipv4Packet =
    some ⟨udp.targetPort, udp.sourcePort, [0x00, 0x03, operation, 0x00, parsed.messageId]⟩

/-- A packet that every peer takes up as a control response: nothing is queued or sent back. -/
def Consumed (packet : Bytes) : Prop :=
  ∀ w s c o sourceRid targetRid slotNo,
    handleBrandmeisterPacketData w s c o sourceRid targetRid slotNo packet = .idle s true

theorem Acknowledges.consumed {write : PacketDataWrite} {sourceRid targetRid slotNo : ℕ}
    {packet : Bytes} {udp : UdpPayload} {parsed : ParsedSmsPacket}
    (h : Acknowledges write sourceRid targetRid slotNo packet udp parsed) :
    Consumed write.ipv4Packet := by
  intro w s c o sourceRid' targetRid' slotNo'
  obtain ⟨operation, hmask, hu⟩ := h.payload_eq
  have hc : isControlResponse [0x00, 0x03, operation, 0x00, parsed.messageId] = true := by
    simp [isControlResponse, hmask]
  rw [handleBrandmeisterPacketData, hu]
  simp only [hc, if_true]

theorem send_acknowledges {w : Wiring} {sourceRid targetRid slotNo : ℕ} {packet : Bytes}
    {udp : UdpPayload} {parsed : ParsedSmsPacket} {write : PacketDataWrite}
    (hu : udpPayload packet = some udp) (hp : parseMotorolaTms udp.payload = some parsed)
    (h : sendBrandmeisterTmsAcknowledgement w sourceRid targetRid slotNo packet udp.sourcePort
      udp.targetPort parsed.operation parsed.messageId = some write) :
    Acknowledges write sourceRid targetRid slotNo packet udp parsed := by
  have hports := ports_of_udpPayload hu
  unfold sendBrandmeisterTmsAcknowledgement at h
  split_ifs at h
  simp only at h
  split_ifs at h
  rw [Option.some.injEq] at h
  subst h
  have hshort : [0x00, 0x03, 0x9F ||| (parsed.operation &&& 0x20), 0x00,
      parsed.messageId &&& 0x1F].length ≤ 0xFFFF - 28 := by simp
  have haddress := addressAt_build (addressAt packet 16) (addressAt packet 12) udp.targetPort
    udp.sourcePort hshort
  exact
    { sourceRid_eq := rfl
      targetRid_eq := rfl
      slotNo_eq := rfl
      source_eq := haddress.1
      target_eq := haddress.2
      payload_eq := ⟨_, acknowledgementOperation_masked parsed.operation, by
        rw [udpPayload_build hports.2 hports.1 (by simp), messageId_masked hp]⟩ }

/-- **An acknowledgement of a packet** goes back to its sender and carries its message id. -/
theorem handle_acknowledges {w : Wiring} {s : TextState} {c : Clocks} {o : FileOutcomes}
    {sourceRid targetRid slotNo : ℕ} {packet : Bytes} {write : PacketDataWrite}
    (h : (handleBrandmeisterPacketData w s c o sourceRid targetRid slotNo packet).acknowledgement =
      some write) :
    ∃ udp parsed, udpPayload packet = some udp ∧ parseMotorolaTms udp.payload = some parsed ∧
      Acknowledges write sourceRid targetRid slotNo packet udp parsed := by
  unfold handleBrandmeisterPacketData at h
  cases hu : udpPayload packet with
  | none =>
    rw [hu] at h
    cases h
  | some udp =>
    rw [hu] at h
    simp only at h
    split_ifs at h
    · cases h
    · cases h
    · obtain ⟨parsed, hp, hsend⟩ := Option.bind_eq_some_iff.mp h
      exact ⟨udp, parsed, rfl, hp, send_acknowledges hu hp hsend⟩

/-! ## Gateways and packets in flight -/

section Gateways

variable {π : Type} [DecidableEq π]

/-- A packet on its way. It stems from a message, as the message itself or as an acknowledgement. -/
structure Flight (π : Type) where
  sender : π
  recipient : π
  write : PacketDataWrite
  message : ℕ
  isAcknowledgement : Bool

/-- The gateways, the packets between them, and the number of messages so far. -/
structure Gateways (π : Type) where
  endpoint : π → TextState
  flights : List (Flight π)
  messages : ℕ

/-- A new message, the reception of a packet in flight, which may stay for another one, or a loss. -/
inductive GatewayEvent (π : Type)
  | send (sender recipient : π) (write : PacketDataWrite)
  | receive (i : ℕ) (again : Bool) (clocks : Clocks) (outcomes : FileOutcomes)
  | lose (i : ℕ)

/-- The reception of a packet and what it led to. -/
structure Reception where
  message : ℕ
  isAcknowledgement : Bool
  queued : Option BrandmeisterTextResult
  acknowledgement : Option PacketDataWrite

/-- One step of the network of gateways. -/
def gatewayStep (w : π → Wiring) (n : Gateways π) :
    GatewayEvent π → Gateways π × List Reception
  | .send sender recipient write =>
    ({ n with
      flights := n.flights ++ [⟨sender, recipient, write, n.messages, false⟩]
      messages := n.messages + 1 }, [])
  | .lose i => ({ n with flights := n.flights.eraseIdx i }, [])
  | .receive i again clocks outcomes =>
    match n.flights[i]? with
    | none => (n, [])
    | some f =>
      let h := handleBrandmeisterPacketData (w f.recipient) (n.endpoint f.recipient) clocks outcomes
        f.write.sourceRid f.write.targetRid f.write.slotNo f.write.ipv4Packet
      let reply := h.acknowledgement.map fun write =>
        (⟨f.recipient, f.sender, write, f.message, true⟩ : Flight π)
      ({ n with
        endpoint := Function.update n.endpoint f.recipient h.state
        flights := (if again then n.flights else n.flights.eraseIdx i) ++ reply.toList },
        [⟨f.message, f.isAcknowledgement, h.queued, h.acknowledgement⟩])

/-- Every acknowledgement in flight is taken up without an answer. -/
def Settling (n : Gateways π) : Prop :=
  ∀ f ∈ n.flights, f.isAcknowledgement = true → Consumed f.write.ipv4Packet

variable {w : π → Wiring} {n : Gateways π}

/-- What a step does: the acknowledgements it adds are taken up, and one that is received has no
effect. -/
theorem settling_step (e : GatewayEvent π) (hn : Settling n) :
    Settling (gatewayStep w n e).1 ∧ ∀ r ∈ (gatewayStep w n e).2,
      r.isAcknowledgement = true → r.queued = none ∧ r.acknowledgement = none := by
  cases e with
  | send sender recipient write =>
    refine ⟨fun f hf hack => ?_, fun r hr => absurd hr List.not_mem_nil⟩
    rcases List.mem_append.mp hf with hf | hf
    · exact hn f hf hack
    · rw [List.mem_singleton.mp hf] at hack
      cases hack
  | lose i =>
    exact ⟨fun f hf hack => hn f (List.mem_of_mem_eraseIdx hf) hack,
      fun r hr => absurd hr List.not_mem_nil⟩
  | receive i again clocks outcomes =>
    rw [gatewayStep]
    cases hi : n.flights[i]? with
    | none => exact ⟨hn, fun r hr => absurd hr List.not_mem_nil⟩
    | some f =>
      refine ⟨fun f' hf hack => ?_, fun r hr hack => ?_⟩
      · rcases List.mem_append.mp hf with hf | hf
        · refine hn f' ?_ hack
          split_ifs at hf
          · exact hf
          · exact List.mem_of_mem_eraseIdx hf
        · rw [Option.mem_toList] at hf
          obtain ⟨write, hwrite, rfl⟩ := Option.map_eq_some_iff.mp hf
          obtain ⟨udp, parsed, -, -, hacknowledges⟩ := handle_acknowledges hwrite
          exact hacknowledges.consumed
      · rw [List.mem_singleton] at hr
        subst hr
        have hconsumed := hn f (List.mem_of_getElem? hi) hack
        simp only [hconsumed (w f.recipient)]
        exact ⟨rfl, rfl⟩

/-- **Every run.** The reception of an acknowledgement queues nothing and sends nothing back. -/
theorem receptions_run (es : List (GatewayEvent π)) (hn : Settling n) :
    ∀ r ∈ outputs (gatewayStep w) n es,
      r.isAcknowledgement = true → r.queued = none ∧ r.acknowledgement = none :=
  forall_outputs_of_along (C := fun _ _ => True) Settling _
    (fun _ e _ hs => (settling_step e hs).1) (fun _ e _ hs => (settling_step e hs).2) es n
    (fun _ _ _ _ => trivial) hn

/-- **No acknowledgement loops.** -/
theorem acknowledgements_end :
    (∀ w s c o sourceRid targetRid slotNo packet write,
      (handleBrandmeisterPacketData w s c o sourceRid targetRid slotNo packet).acknowledgement =
        some write →
      (∃ udp parsed, udpPayload packet = some udp ∧ parseMotorolaTms udp.payload = some parsed ∧
        Acknowledges write sourceRid targetRid slotNo packet udp parsed) ∧
      Consumed write.ipv4Packet) ∧
    ∀ (w : π → Wiring) (endpoint : π → TextState) (es : List (GatewayEvent π)) (message : ℕ),
      let receptions := (outputs (gatewayStep w) ⟨endpoint, [], 0⟩ es).filter (·.message = message)
      (∀ r ∈ receptions, r.isAcknowledgement = true →
        r.queued = none ∧ r.acknowledgement = none) ∧
      receptions.countP (·.acknowledgement.isSome) ≤
        receptions.countP (!·.isAcknowledgement) := by
  refine ⟨fun w s c o sourceRid targetRid slotNo packet write h => ?_,
    fun w endpoint es message => ?_⟩
  · obtain ⟨udp, parsed, hu, hp, hacknowledges⟩ := handle_acknowledges h
    exact ⟨⟨udp, parsed, hu, hp, hacknowledges⟩, hacknowledges.consumed⟩
  · have hsettling : Settling (⟨endpoint, [], 0⟩ : Gateways π) :=
      fun f hf => absurd hf List.not_mem_nil
    have hrun := receptions_run (w := w) es hsettling
    refine ⟨fun r hr => hrun r (List.mem_of_mem_filter hr), List.countP_mono_left ?_⟩
    intro r hr hsome
    cases hack : r.isAcknowledgement with
    | false => rfl
    | true =>
      rw [(hrun r (List.mem_of_mem_filter hr) hack).2] at hsome
      cases hsome

end Gateways

/-- A message from a server, with the id 1. -/
def serverMessage : Bytes :=
  buildIpv4UdpPacket (addressToString ⟨10, 0, 0, 1⟩) (addressToString ⟨12, 0, 0, 2⟩) 4007 4007
    [0x00, 0x0C, 0xE0, 0x00, 0x81, 0x04, 0x0D, 0x00, 0x0A, 0x00, 0x48, 0x00, 0x69, 0x00]

theorem acknowledgements_end_sample : ∃ write,
    (handleBrandmeisterPacketData ⟨false, true⟩ .init ⟨0, 0⟩ .ok 1 2 1
      serverMessage).acknowledgement = some write ∧ Consumed write.ipv4Packet := by
  have hsome : ((handleBrandmeisterPacketData ⟨false, true⟩ .init ⟨0, 0⟩ .ok 1 2 1
      serverMessage).acknowledgement).isSome = true := by decide +kernel
  obtain ⟨write, h⟩ := Option.isSome_iff_exists.mp hsome
  exact ⟨write, h, ((acknowledgements_end (π := Bool)).1 _ _ _ _ _ _ _ _ _ h).2⟩

end Sms
