import QuantarBridge.Brandmeister.Queue
import QuantarBridge.Brandmeister.Session
import QuantarBridge.PacketData.PlainCodec
import QuantarBridge.Sms.OutboxFile

/-!
# Archived messages on their way

The sender archives an outbox file as soon as its packet is accepted, and the connection writes the
frames of the packet afterwards, one by one. `Bridge` is the two of them together: any files, turns
of the connection and other calls, in any order.

* `Bridge`, `BridgeEvent`, `bridgeStep`: the machine;
* `Sound`, `sendFile_sound`: what sending a file does to the queue;
* `bridge_carries`: **a step carries the queue** unless it closes the connection;
* `archived_delivered`: the frames of an archived file are written or still queued, unless the
  connection was closed since.
-/

set_option autoImplicit false

namespace Sms

open Dmr Lib PacketData Brandmeister

/-- The connection and the sender. -/
structure Bridge (τ : Type) where
  network : BMNetwork τ
  nextTmsMessageId : UInt8

/-- A file of the outbox is processed, or a call of the connection. -/
inductive BridgeEvent
  | outbox (path : Bytes) (content : OutboxContent) (o : ArchiveOutcome)
  | clock (i : BMNetwork.ClockInput)
  | read
  | write (data : NetData)
  | writePacketData (sourceRid targetRid slotNo : ℕ) (ipPacket : Bytes)
  | close
  | openSocket (resolved : Bool)

section Bridge

variable {τ : Type} (T : Timers τ) (E : Surroundings) (cfg : BMConfig) (D : Codec)
  (ocfg : OutboundConfig)

/-- The connection as the packet-data writer of the sender. -/
def networkWriter : PacketWriter (BMNetwork τ) NetEffect := fun s sourceRid targetRid slotNo ip =>
  let r := s.writePacketData E cfg D sourceRid targetRid slotNo ip
  (r.1, r.2.state, r.2.effects)

/-- Process a file. -/
def sendFile (s : Bridge τ) (path : Bytes) (content : OutboxContent) (o : ArchiveOutcome) :
    OutboundState (BMNetwork τ) NetEffect :=
  ((processOutboundFile ocfg (networkWriter E cfg D) content o path).exec
    ⟨s.network, s.nextTmsMessageId, []⟩).2

/-- A call of the connection. -/
def networkStep (s : BMNetwork τ) : BridgeEvent → NetStep τ
  | .outbox _ _ _ => .idle s
  | .clock i => s.clock T E cfg i
  | .read => .idle s.read.2
  | .write data => (s.write E cfg data).2
  | .writePacketData sourceRid targetRid slotNo ip =>
    (s.writePacketData E cfg D sourceRid targetRid slotNo ip).2
  | .close => s.close T E cfg
  | .openSocket resolved => (s.openSocket T E cfg resolved).2

/-- One event. -/
def bridgeStep (s : Bridge τ) (e : BridgeEvent) : Bridge τ × List (OutboundEffect NetEffect) :=
  match e with
  | .outbox path content o =>
    let r := sendFile E cfg D ocfg s path content o
    (⟨r.network, r.nextTmsMessageId⟩, r.effects)
  | e =>
    let r := networkStep T E cfg D s.network e
    (⟨r.state, s.nextTmsMessageId⟩, r.effects.map .network)

end Bridge

/-- The packets an effect puts into the queue. -/
def queuedOf : OutboundEffect NetEffect → List Bytes
  | .network e => queuedBy e
  | _ => []

/-- The packets an effect writes to the socket. -/
def writtenOf : OutboundEffect NetEffect → List Bytes
  | .network e => writtenBy e
  | _ => []

theorem flatMap_queuedOf (es : List NetEffect) :
    (es.map OutboundEffect.network).flatMap queuedOf = es.flatMap queuedBy := List.flatMap_map ..

theorem flatMap_writtenOf (es : List NetEffect) :
    (es.map OutboundEffect.network).flatMap writtenOf = es.flatMap writtenBy := List.flatMap_map ..

theorem eq_written {o : OutboundEffect NetEffect} {packet : Bytes} (h : packet ∈ writtenOf o) :
    o = .network (.written packet) := by
  cases o with
  | network e =>
    cases e with
    | written p => rw [List.mem_singleton.mp h]
    | queued ps => cases h
    | closed => cases h
  | datagram tms payload => cases h
  | archived path => cases h

theorem carries_network {q q' : List Bytes} {es : List NetEffect}
    (h : Carries queuedBy writtenBy q es q') :
    Carries queuedOf writtenOf q (es.map OutboundEffect.network) q' := by
  unfold Carries at h ⊢
  rw [flatMap_queuedOf, flatMap_writtenOf]
  exact h

section Durable

variable {τ : Type} {T : Timers τ} {E : Surroundings} {cfg : BMConfig} {D : Codec}
  {ocfg : OutboundConfig}

/-- What sending a file has done so far, from the queue `q`: complete transmissions of packets that it
asks for joined the queue, nothing was written and the connection was not closed. -/
structure Sound (cfg : BMConfig) (D : Codec) (Asked : BmAddresses → Bytes → Prop) (q : List Bytes)
    (s : OutboundState (BMNetwork τ) NetEffect) : Prop where
  joined : s.network.packetDataTxQueue = q ++ s.effects.flatMap queuedOf
  stillOpen : .network .closed ∉ s.effects
  complete : ∀ packets, .network (.queued packets) ∈ s.effects → ∃ a ip, Asked a ip ∧
    BMNetwork.IsTransmission cfg D a.sourceRid a.targetRid ip packets

variable {Asked : BmAddresses → Bytes → Prop}

theorem sound_record {q : List Bytes} {s : OutboundState (BMNetwork τ) NetEffect}
    (h : Sound cfg D Asked q s) {e : OutboundEffect NetEffect} (he : ∀ x, e ≠ .network x) :
    Sound cfg D Asked q { s with effects := s.effects ++ [e] } := by
  have hmem : ∀ x, .network x ∈ s.effects ++ [e] → .network x ∈ s.effects := fun x hx =>
    (List.mem_append.mp hx).resolve_right fun hx => he x (List.mem_singleton.mp hx).symm
  refine ⟨?_, fun hx => h.stillOpen (hmem _ hx), fun packets hx => h.complete packets (hmem _ hx)⟩
  have hnone : queuedOf e = [] := by
    cases e with
    | network x => exact absurd rfl (he x)
    | datagram tms payload => rfl
    | archived path => rfl
  rw [List.flatMap_append, List.flatMap_singleton, hnone, List.append_nil]
  exact h.joined

theorem sound_undisturbed (q : List Bytes) : Undisturbed (Sound (τ := τ) cfg D Asked q) where
  archived _ _ h := sound_record h nofun
  datagram _ _ _ h := sound_record h nofun

theorem sound_write {q : List Bytes} {s : OutboundState (BMNetwork τ) NetEffect}
    (h : Sound cfg D Asked q s) {a : BmAddresses} {ip : Bytes} (hasked : Asked a ip) :
    let w := networkWriter E cfg D s.network a.sourceRid a.targetRid a.slotNo ip
    Sound cfg D Asked q { s with
      network := w.2.1, effects := s.effects ++ w.2.2.map OutboundEffect.network } := by
  intro w
  have hw : w.2.1.packetDataTxQueue = s.network.packetDataTxQueue ++ w.2.2.flatMap queuedBy :=
    BMNetwork.writePacketData_queue E cfg s.network D a.sourceRid a.targetRid a.slotNo ip
  have he : w.2.2 = [] ∨ ∃ packets, BMNetwork.IsTransmission cfg D a.sourceRid a.targetRid ip
      packets ∧ w.2.2 = [.queued packets] :=
    (BMNetwork.writePacketData_effects E cfg s.network D a.sourceRid a.targetRid a.slotNo ip).imp
      (fun h => h.2) fun h => h.2
  have hopen : ∀ o ∈ w.2.2, o ≠ .closed := by
    rcases he with he | ⟨packets, -, he⟩ <;> simp [he]
  refine ⟨?_, fun hx => ?_, fun packets hx => ?_⟩
  · rw [List.flatMap_append, flatMap_queuedOf, ← List.append_assoc, ← h.joined]
    exact hw
  · rcases List.mem_append.mp hx with hx | hx
    · exact h.stillOpen hx
    · obtain ⟨o, ho, hxo⟩ := List.mem_map.mp hx
      exact hopen o ho (OutboundEffect.network.inj hxo)
  · rcases List.mem_append.mp hx with hx | hx
    · exact h.complete packets hx
    · obtain ⟨o, ho, hxo⟩ := List.mem_map.mp hx
      rw [OutboundEffect.network.inj hxo] at ho
      rcases he with he | ⟨sent, ht, he⟩
      · rw [he] at ho
        cases ho
      · rw [he, List.mem_singleton, NetEffect.queued.injEq] at ho
        exact ⟨a, ip, hasked, ho ▸ ht⟩

theorem sends_handPacket (q : List Bytes) {a : BmAddresses} {ip : Bytes} (hasked : Asked a ip) :
    Sends (Sound cfg D Asked q) (handPacket (networkWriter (τ := τ) E cfg D) a ip) := by
  refine sends_ite (sends_throw _) ?_
  refine Program.triple_get fun s hs => ?_
  refine Program.triple_bind (Q := fun _ => Sound cfg D Asked q)
    (Program.triple_set _ fun _ _ => sound_write hs hasked) fun _ => ?_
  exact sends_ite (sends_pure _) (sends_throw _)

variable (E cfg D ocfg) in
/-- **Sending a file** carries the queue, closes nothing and queues complete transmissions of the
packets that the file asks for. -/
theorem sendFile_sound (s : Bridge τ) (path : Bytes) (content : OutboxContent)
    (o : ArchiveOutcome) :
    Sound cfg D (AsksFor ocfg content s.nextTmsMessageId) s.network.packetDataTxQueue
      (sendFile E cfg D ocfg s path content o) := by
  let start : OutboundState (BMNetwork τ) NetEffect := ⟨s.network, s.nextTmsMessageId, []⟩
  let J : OutboundState (BMNetwork τ) NetEffect → Prop :=
    Sound cfg D (AsksFor ocfg content s.nextTmsMessageId) s.network.packetDataTxQueue
  have hstart : ∀ id, J { start with nextTmsMessageId := id } := fun _ =>
    ⟨(List.append_nil _).symm, nofun, nofun⟩
  have hhanded : ∀ a ip, AsksFor ocfg content start.nextTmsMessageId a ip →
      Sends J (handPacket (networkWriter E cfg D) a ip) := fun _ _ hasked => sends_handPacket _ hasked
  have hfinal : J ((processOutboundFile ocfg (networkWriter E cfg D) content o path).exec start).2 :=
    final_processOutboundFile ocfg (networkWriter E cfg D) (sound_undisturbed _) hhanded o path hstart
  exact hfinal

variable (T E cfg D ocfg) in
/-- **A step carries the queue** unless it closes the connection. -/
theorem bridge_carries (s : Bridge τ) (e : BridgeEvent)
    (h : ∀ o ∈ (bridgeStep T E cfg D ocfg s e).2, ¬ o = .network .closed) :
    Carries queuedOf writtenOf s.network.packetDataTxQueue (bridgeStep T E cfg D ocfg s e).2
      (bridgeStep T E cfg D ocfg s e).1.network.packetDataTxQueue := by
  have hnet : ∀ r : NetStep τ, Delivers s.network.packetDataTxQueue r →
      (∀ o ∈ r.effects.map OutboundEffect.network, ¬ o = .network .closed) →
      Carries queuedOf writtenOf s.network.packetDataTxQueue
        (r.effects.map OutboundEffect.network) r.state.packetDataTxQueue := fun r hr hn =>
    carries_network (hr fun o ho hc => hn _ (List.mem_map_of_mem ho) (by rw [hc]))
  cases e with
  | outbox path content o =>
    have hjoined := (sendFile_sound E cfg D ocfg s path content o).joined
    exact hjoined ▸ carries_push _ rfl
  | clock i => exact hnet _ (BMNetwork.clock_delivers T E cfg s.network i) h
  | read => exact hnet _ (delivers_idle (BMNetwork.read_queue s.network)) h
  | write data => exact hnet _ (BMNetwork.write_delivers E cfg s.network data) h
  | writePacketData sourceRid targetRid slotNo ip =>
    exact hnet _ (BMNetwork.writePacketData_delivers E cfg s.network D sourceRid targetRid slotNo ip)
      h
  | close => exact hnet _ (BMNetwork.close_delivers T E cfg s.network _) h
  | openSocket resolved => exact hnet _ (BMNetwork.openSocket_delivers T E cfg s.network resolved) h

end Durable

/-! ## A message and the end of the session -/

/-- The text `Hi` from 2621001 to 2621002. -/
def sampleText : OutboxContent := .document { OutboxDocument.blank with
  sourceRid := .value 2621001
  targetRid := .value 2621002
  text := .value (ascii ['H', 'i']) }

/-- A step of the sample bridge. -/
def sampleStep : Bridge (ℕ × ℕ) → BridgeEvent → Bridge (ℕ × ℕ) × List (OutboundEffect NetEffect) :=
  bridgeStep countingTimers sampleSurroundings sampleConfig plainCodec plainSender

/-- A connection that is not open. -/
def sampleBridge : Bridge (ℕ × ℕ) :=
  ⟨BMNetwork.create sampleSurroundings.streamId (0, 10000) (0, 60000) (0, 5000), 0⟩

/-- A turn of five milliseconds that receives a datagram. -/
def sampleTurn (text : List Char) : BridgeEvent := .clock ⟨5, .datagram (ascii text) true, true⟩

/-- The connection is opened and traffic arrives. -/
def sampleLogin : List BridgeEvent := [.openSocket true, sampleTurn ['D', 'M', 'R', 'D']]

/-- The text is processed and its file archived. -/
def sampleFile : BridgeEvent := .outbox (ascii ['a']) sampleText ⟨true, true, true⟩

/-- The text on the running connection. -/
def sampleSent : Bridge (ℕ × ℕ) × List (OutboundEffect NetEffect) :=
  sampleStep (Run.final sampleStep sampleBridge sampleLogin) sampleFile

/-- Its packets. -/
def samplePackets : List Bytes := sampleSent.2.flatMap queuedOf

end Sms
