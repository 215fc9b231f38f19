import QuantarBridge.Lib.Run
import QuantarBridge.PacketData.Encoder
import QuantarBridge.PacketData.PlainCodec
import QuantarBridge.Sms.Handler

/-!
# From the reassembler to the handler

A packet the reassembler emits is handed to the SMS subsystem. Each of the two remembers what it has
seen: the reassembler the signatures of emitted packets for thirty seconds, whatever became of them,
and the subsystem the texts it stored for sixty seconds.

* `Pipeline`, `pipelineStep`, `Handling`: the machine and what it reports;
* `signed_final`: the remembered signatures are those of the packets handed over lately;
* `text_final`: a stored text stays remembered;
* `suppression_composes`: a retransmission is handled as it should be exactly when no packet with
  its signature was handed over less than thirty seconds before.
-/

set_option autoImplicit false

namespace Sms

open Dmr Lib PacketData

/-- The reassembler and the text messages behind it. -/
structure Pipeline where
  reassembler : Reassembler
  text : TextState

/-- A received packet-data frame, with the clocks and the file operations of its handling. -/
structure Arrival where
  frame : NetData
  now : Time
  clocks : Clocks
  outcomes : FileOutcomes

/-- A packet that was handed to the subsystem and what became of it. -/
structure Handling where
  packet : Packet
  now : Time
  handledAt : Time
  handled : Bool
  queued : Option BrandmeisterTextResult
  effects : List FileEffect
  acknowledgement : Option PacketDataWrite
  deriving DecidableEq

/-- What the handler did with a packet. -/
def Handling.of (packet : Packet) (e : Arrival) (h : HandlerOutcome) : Handling :=
  ⟨packet, e.now, e.clocks.now, h.handled, h.queued, h.effects, h.acknowledgement⟩

/-- One received frame. -/
def pipelineStep (D : Codec) (w : Wiring) (s : Pipeline) (e : Arrival) :
    Pipeline × List Handling :=
  let r := s.reassembler.push D e.frame e.now
  match r.2.packet with
  | none => (⟨r.1, s.text⟩, [])
  | some packet =>
    let h := handlePacket w s.text e.clocks e.outcomes packet
    (⟨r.1, h.state⟩, [.of packet e h])

/-- Neither clock goes back. -/
def Steady (es : List Arrival) : Prop :=
  es.Pairwise fun e e' => e.now ≤ e'.now ∧ e.clocks.now ≤ e'.clocks.now

/-- The same packet again; its sequence number may differ. -/
def Retransmits (p' p : Packet) : Prop := p' = { p with sequenceNo := p'.sequenceNo }

/-- No packet with the signature was handed over less than thirty seconds before. -/
def Quiet (hs : List Handling) (p : Packet) (now : Time) : Prop :=
  ∀ h ∈ hs, packetSignature h.packet = packetSignature p → h.now + kPacketDuplicateWindow ≤ now

/-- The packet is handed to the subsystem. -/
def HandedOver (p : Packet) (hs : List Handling) : Prop := ∃ h, hs = [h] ∧ h.packet = p

/-- The packet is acknowledged as it was, and nothing is written. -/
def AcknowledgedAgain (p : Packet) (first : Handling) (hs : List Handling) : Prop :=
  ∃ h, hs = [h] ∧ h.packet = p ∧ h.handled = true ∧ h.effects = [] ∧
    h.acknowledgement = first.acknowledgement

variable {D : Codec} {w : Wiring} {s : Pipeline} {e : Arrival}

/-! ## One step -/

/-- What a step does when it hands nothing over. -/
def Quietly (s : Pipeline) (e : Arrival) (r : Pipeline × List Handling) : Prop :=
  r.2 = [] ∧ r.1.text = s.text ∧
    r.1.reassembler.recentPackets = s.reassembler.recentPackets.purge e.now

/-- What a step does when it hands `p` over. -/
def Hands (w : Wiring) (s : Pipeline) (e : Arrival) (p : Packet) (r : Pipeline × List Handling) :
    Prop :=
  r.2 = [.of p e (handlePacket w s.text e.clocks e.outcomes p)] ∧
    r.1.text = (handlePacket w s.text e.clocks e.outcomes p).state ∧
    r.1.reassembler.recentPackets = (s.reassembler.recentPackets.purge e.now).mark
      (packetSignature p) (e.now + kPacketDuplicateWindow)

theorem step_quietly (hq : (s.reassembler.push D e.frame e.now).2.packet = none)
    (hr : (s.reassembler.push D e.frame e.now).1.recentPackets =
      s.reassembler.recentPackets.purge e.now) :
    Quietly s e (pipelineStep D w s e) := by
  rw [pipelineStep]
  simp only [hq]
  exact ⟨rfl, rfl, hr⟩

theorem step_incomplete (h : s.reassembler.completed D e.frame e.now = none) :
    Quietly s e (pipelineStep D w s e) := by
  have hem := Reassembler.push_emits D s.reassembler e.frame e.now
  rw [h] at hem
  exact step_quietly hem.1 hem.2

theorem step_suppressed {p : Packet} (h : s.reassembler.completed D e.frame e.now = some p)
    (hl : s.reassembler.recentPackets.Live e.now (packetSignature p)) :
    Quietly s e (pipelineStep D w s e) := by
  have hem := Reassembler.push_emits D s.reassembler e.frame e.now
  have hl' : (s.reassembler.expire e.now).recentPackets.Live e.now (packetSignature p) :=
    (ExpiryMap.live_purge_iff _ le_rfl _).mpr hl
  rw [h, Reassembler.Emits, Reassembler.emit, if_pos hl'] at hem
  exact step_quietly (congrArg PushResult.packet hem.1) hem.2

/-- **Any other complete packet is handed over** and its signature is remembered. -/
theorem step_handed {p : Packet} (h : s.reassembler.completed D e.frame e.now = some p)
    (hl : ¬ s.reassembler.recentPackets.Live e.now (packetSignature p)) :
    Hands w s e p (pipelineStep D w s e) := by
  have hem := Reassembler.push_emits D s.reassembler e.frame e.now
  have hl' : ¬ (s.reassembler.expire e.now).recentPackets.Live e.now (packetSignature p) :=
    mt (ExpiryMap.live_purge_iff _ le_rfl _).mp hl
  rw [h, Reassembler.Emits, Reassembler.emit, if_neg hl'] at hem
  have hp := congrArg PushResult.packet hem.1
  rw [pipelineStep]
  simp only [hp]
  exact ⟨rfl, rfl, hem.2⟩

/-- A step hands nothing over, or a packet whose signature is not remembered. -/
theorem step_cases : Quietly s e (pipelineStep D w s e) ∨
    ∃ p, ¬ s.reassembler.recentPackets.Live e.now (packetSignature p) ∧
      Hands w s e p (pipelineStep D w s e) := by
  cases h : s.reassembler.completed D e.frame e.now with
  | none => exact Or.inl (step_incomplete h)
  | some p =>
    by_cases hl : s.reassembler.recentPackets.Live e.now (packetSignature p)
    · exact Or.inl (step_suppressed h hl)
    · exact Or.inr ⟨p, hl, step_handed h hl⟩

/-! ## Runs -/

/-- From `now` on, the remembered signatures are those of the packets of `hs` that were handed over
less than thirty seconds before. -/
def Signed (s : Pipeline) (hs : List Handling) (now : Time) : Prop :=
  ∀ t, now ≤ t → ∀ sig, s.reassembler.recentPackets.Live t sig ↔
    ∃ h ∈ hs, packetSignature h.packet = sig ∧ t < h.now + kPacketDuplicateWindow

theorem signed_step {hs : List Handling} {now : Time} (h : Signed s hs now) (hn : now ≤ e.now) :
    Signed (pipelineStep D w s e).1 (hs ++ (pipelineStep D w s e).2) e.now := by
  intro t ht sig
  have hpurge := ExpiryMap.live_purge_iff s.reassembler.recentPackets ht sig
  obtain ⟨hout, -, hrec⟩ | ⟨p, hl, hout, -, hrec⟩ := step_cases (D := D) (w := w) (s := s) (e := e)
  · rw [hout, hrec, List.append_nil, hpurge]
    exact h t (hn.trans ht) sig
  · rw [hout, hrec, ExpiryMap.live_mark_iff]
    split_ifs with hsig
    · subst hsig
      constructor
      · exact fun hlt => ⟨_, List.mem_append_right _ List.mem_cons_self, rfl, hlt⟩
      · rintro ⟨x, hx, hxs, hlt⟩
        rcases List.mem_append.mp hx with hx | hx
        · exact absurd ((h e.now hn _).mpr ⟨x, hx, hxs, lt_of_le_of_lt ht hlt⟩) hl
        · rw [List.mem_singleton.mp hx] at hlt
          exact hlt
    · rw [hpurge, h t (hn.trans ht) sig]
      constructor
      · rintro ⟨x, hx, hxs⟩
        exact ⟨x, List.mem_append_left _ hx, hxs⟩
      · rintro ⟨x, hx, hxs, hlt⟩
        rcases List.mem_append.mp hx with hx | hx
        · exact ⟨x, hx, hxs, hlt⟩
        · rw [List.mem_singleton.mp hx] at hxs
          exact absurd hxs.symm hsig

/-- **The remembered signatures** after a run are those of the packets handed over lately. -/
theorem signed_final (es : List Arrival) : ∀ {s : Pipeline} {hs : List Handling} {now : Time},
    Signed s hs now → Steady es → (∀ e ∈ es, now ≤ e.now) → ∀ t, now ≤ t →
    (∀ e ∈ es, e.now ≤ t) →
    Signed (Run.final (pipelineStep D w) s es) (hs ++ Run.outputs (pipelineStep D w) s es) t := by
  induction es with
  | nil =>
    intro s hs now h _ _ t ht _ t' ht'
    rw [Run.outputs_nil, List.append_nil]
    exact h t' (ht.trans ht')
  | cons e es ih =>
    intro s hs now h hes hnow t ht hlast
    rw [Run.final_cons, Run.outputs_cons, ← List.append_assoc]
    rw [Steady, List.pairwise_cons] at hes
    exact ih (signed_step h (hnow e List.mem_cons_self)) hes.2 (fun e' he' => (hes.1 e' he').1) t
      (hlast e List.mem_cons_self) fun e' he' => hlast e' (List.mem_cons_of_mem _ he')

theorem text_step {t : Time} {key : Bytes} (ht : e.clocks.now ≤ t)
    (hk : s.text.recentBmTmsReplies.Live t key) :
    (pipelineStep D w s e).1.text.recentBmTmsReplies.Live t key := by
  obtain ⟨-, htext, -⟩ | ⟨p, -, -, htext, -⟩ := step_cases (D := D) (w := w) (s := s) (e := e)
  · rw [htext]
    exact hk
  · rw [htext]
    by_cases hp : packetText p = []
    · obtain ⟨handled, hh⟩ := handlePacket_idle w s.text e.clocks e.outcomes p hp
      rw [hh]
      exact hk
    · rw [handlePacket_text w s.text e.clocks e.outcomes p hp]
      exact queue_keeps _ _ _ _ _ _ _ ht hk

/-- **A remembered text** stays remembered over a run. -/
theorem text_final {t : Time} {key : Bytes} (es : List Arrival)
    (ht : ∀ e ∈ es, e.clocks.now ≤ t) (hk : s.text.recentBmTmsReplies.Live t key) :
    (Run.final (pipelineStep D w) s es).text.recentBmTmsReplies.Live t key :=
  Run.final_of_along (C := fun _ e => e.clocks.now ≤ t)
    (fun s => s.text.recentBmTmsReplies.Live t key) (fun _ _ => text_step) es s
    (fun _ e _ he => ht e (by rw [he]; simp)) hk

/-! ## A packet and its retransmission -/

theorem retransmits_text {p p' : Packet} (h : Retransmits p' p) : packetText p' = packetText p := by
  rw [h]
  rfl

theorem retransmits_acknowledgement {p p' : Packet} (h : Retransmits p' p) :
    packetAcknowledgement w p' = packetAcknowledgement w p := by
  rw [h]
  rfl

theorem retransmits_addresses {p p' : Packet} (h : Retransmits p' p) :
    p'.sourceRid = p.sourceRid ∧ p'.targetRid = p.targetRid := by
  rw [h]
  exact ⟨rfl, rfl⟩

theorem handled_text {p : Packet} {q : BrandmeisterTextResult}
    (h : (handlePacket w s.text e.clocks e.outcomes p).queued = some q) :
    packetText p ≠ [] ∧ (queueBrandmeisterText w.routePathSet s.text e.clocks e.outcomes p.sourceRid
      p.targetRid (packetText p)).result = q := by
  by_cases hp : packetText p = []
  · obtain ⟨handled, hh⟩ := handlePacket_idle w s.text e.clocks e.outcomes p hp
    rw [hh] at h
    cases h
  · rw [handlePacket_text w s.text e.clocks e.outcomes p hp] at h
    exact ⟨hp, Option.some.inj h⟩

/-- The state after receiving `es`, from an empty reassembler. -/
def Pipeline.after (D : Codec) (w : Wiring) (text : TextState) (es : List Arrival) : Pipeline :=
  Run.final (pipelineStep D w) ⟨Reassembler.init, text⟩ es

/-- What receiving `es` handed over, from an empty reassembler. -/
def Pipeline.handed (D : Codec) (w : Wiring) (text : TextState) (es : List Arrival) :
    List Handling :=
  Run.outputs (pipelineStep D w) ⟨Reassembler.init, text⟩ es

section Retransmission

variable {text : TextState} {es : List Arrival}

variable (D w text) in
/-- The duplicate check of the reassembler, as a condition on what was handed over. -/
theorem live_iff_not_quiet (hes : Steady (es ++ [e])) (p : Packet) :
    (Pipeline.after D w text es).reassembler.recentPackets.Live e.now (packetSignature p) ↔
      ¬ Quiet (Pipeline.handed D w text es) p e.now := by
  have hstart : Signed ⟨Reassembler.init, text⟩ [] 0 := fun t _ sig =>
    ⟨fun hl => absurd hl (ExpiryMap.not_live_empty t sig), fun ⟨_, hm, _⟩ => nomatch hm⟩
  rw [Steady, List.pairwise_append] at hes
  have h := signed_final (D := D) (w := w) es hstart hes.1 (fun _ _ => Nat.zero_le _) e.now
    (Nat.zero_le _) (fun e' he' => (hes.2.2 e' he' e List.mem_cons_self).1)
  rw [List.nil_append] at h
  rw [Pipeline.after, h e.now le_rfl, Quiet, Pipeline.handed]
  push Not
  rfl

variable {pre mid : List Arrival} {e₁ e₂ : Arrival} {h₁ : Handling} {p : Packet}

theorem handed_of_step (h : (pipelineStep D w s e).2 = [h₁]) :
    ∃ p, h₁ = .of p e (handlePacket w s.text e.clocks e.outcomes p) ∧
      (pipelineStep D w s e).1.text = (handlePacket w s.text e.clocks e.outcomes p).state := by
  obtain ⟨hout, -, -⟩ | ⟨p, -, hout, htext, -⟩ := step_cases (D := D) (w := w) (s := s) (e := e)
  · rw [hout] at h
    cases h
  · rw [hout, List.singleton_inj] at h
    exact ⟨p, h.symm, htext⟩

/-- The text of a packet that was stored is still remembered when the packet comes again. -/
theorem text_remembered (hes : Steady (pre ++ e₁ :: mid ++ [e₂]))
    (h : (pipelineStep D w (Pipeline.after D w text pre) e₁).2 = [h₁])
    (hq : h₁.queued = some .QUEUED) (hr : Retransmits p h₁.packet)
    (ht : e₂.clocks.now < h₁.handledAt + kBmTmsReplyDuplicateWindow) :
    (Pipeline.after D w text (pre ++ e₁ :: mid)).text.recentBmTmsReplies.Live e₂.clocks.now
      (replyKey p.sourceRid p.targetRid (packetText p)) := by
  obtain ⟨p₁, rfl, htext⟩ := handed_of_step h
  obtain ⟨hp, hres⟩ := handled_text hq
  have hstored : (pipelineStep D w (Pipeline.after D w text pre) e₁).1.text.recentBmTmsReplies.Live
      e₂.clocks.now (replyKey p.sourceRid p.targetRid (packetText p)) := by
    rw [htext, handlePacket_text _ _ _ _ _ hp, (retransmits_addresses hr).1,
      (retransmits_addresses hr).2, retransmits_text hr]
    exact queue_stored _ _ _ _ _ _ _ hres ht
  rw [Pipeline.after, Run.final_append, Run.final_cons]
  refine text_final mid (fun e he => ?_) hstored
  rw [Steady, List.pairwise_append] at hes
  exact (hes.2.2 e (by simp [he]) e₂ List.mem_cons_self).2

/-- **Duplicate suppression and failure.** A packet was handed over, and its retransmission is
complete. If its text could not be stored then the retransmission is handed over again, and if the
text was stored less than sixty seconds before then the retransmission is acknowledged again and
nothing is written: each of them exactly when no packet with its signature was handed over less than
thirty seconds before. -/
theorem suppression_composes (D : Codec) (w : Wiring) (text : TextState) (pre mid : List Arrival)
    (e₁ e₂ : Arrival) (hes : Steady (pre ++ e₁ :: mid ++ [e₂])) (h₁ : Handling) (p : Packet)
    (h : (pipelineStep D w (Pipeline.after D w text pre) e₁).2 = [h₁])
    (hc : (Pipeline.after D w text (pre ++ e₁ :: mid)).reassembler.completed D e₂.frame e₂.now =
      some p)
    (hr : Retransmits p h₁.packet) :
    let again := (pipelineStep D w (Pipeline.after D w text (pre ++ e₁ :: mid)) e₂).2
    let quiet := Quiet (Pipeline.handed D w text (pre ++ e₁ :: mid)) p e₂.now
    (h₁.queued = some .FAILED → (HandedOver p again ↔ quiet)) ∧
    (h₁.queued = some .QUEUED → e₂.clocks.now < h₁.handledAt + kBmTmsReplyDuplicateWindow →
      (AcknowledgedAgain p h₁ again ↔ quiet)) := by
  intro again quiet
  have hlive := live_iff_not_quiet D w text hes p
  by_cases hquiet : quiet
  · have hands : Hands w _ e₂ p _ := step_handed hc fun hl => hlive.mp hl hquiet
    refine ⟨fun _ => iff_of_true ⟨_, hands.1, rfl⟩ hquiet, fun hq ht => iff_of_true ?_ hquiet⟩
    refine ⟨_, hands.1, rfl, ?_⟩
    have hl := text_remembered (D := D) (w := w) hes h hq hr ht
    obtain ⟨p₁, rfl, -⟩ := handed_of_step h
    obtain ⟨hp₁, hres⟩ := handled_text hq
    have hp : packetText p ≠ [] := retransmits_text hr ▸ hp₁
    have hack : packetAcknowledgement w p = packetAcknowledgement w p₁ :=
      retransmits_acknowledgement hr
    rw [handlePacket_text _ _ _ _ _ hp, queue_duplicate _ _ _ _ _ _ _ hl, Handling.of, Handling.of,
      handlePacket_text _ _ _ _ _ hp₁, hres, hack]
    exact ⟨rfl, rfl, rfl⟩
  · have hnone : again = [] := (step_suppressed hc (hlive.mpr hquiet)).1
    refine ⟨fun _ => iff_of_false ?_ hquiet, fun _ _ => iff_of_false ?_ hquiet⟩
    · rintro ⟨x, hx, -⟩
      rw [hnone] at hx
      cases hx
    · rintro ⟨x, hx, -⟩
      rw [hnone] at hx
      cases hx

end Retransmission

/-! ## A text sent twice -/

/-- A Motorola message with the text `Hi!` between two addresses. -/
def tmsBytes : Bytes :=
  buildIpv4UdpPacket (addressToString ⟨12, 0, 0, 1⟩) (addressToString ⟨12, 0, 0, 2⟩) 4007 4007
    [0x00, 0x0B, 0x40, 0x00, 0x81, 0x80, 0x04, 0x48, 0x00, 0x69, 0x00, 0x21, 0x00]

/-- Frame `i` of the message, sent from `start` on. -/
def sampleArrival (start : Time) (o : FileOutcomes) (i : ℕ) : Arrival :=
  let frames := encode plainCodec 262993 2621001 2 1 1 tmsBytes 0
  let now := start + milliseconds 60 * i
  ⟨frames.getD i (makeFrame 0 0 0 0 .IDLE (Payload.ofBytes [])), now, ⟨now, now / 1000000⟩, o⟩

/-- The first frames of the message, and its last one. -/
def sampleStart (start : Time) (o : FileOutcomes) : List Arrival :=
  (List.range 4).map (sampleArrival start o)

/-- No directory for the outbox can be created. -/
def noOutbox : FileOutcomes := { FileOutcomes.ok with outboxCreated := false }

/-- The message as a packet. -/
def tmsPacket : Packet := ⟨262993, 2621001, 2, 1, false, tmsBytes⟩

/-- The message as it is first handed over, at its last frame. -/
def sampleHanded (o : FileOutcomes) : Handling :=
  let e := sampleArrival 0 o 4
  .of tmsPacket e (handlePacket ⟨true, true⟩ .init e.clocks o tmsPacket)

/-- What the message hands over when it is sent again at `start`. -/
def sampleAgain (o : FileOutcomes) (start : Time) : List Handling :=
  (pipelineStep plainCodec ⟨true, true⟩ (Pipeline.after plainCodec ⟨true, true⟩ .init
    (sampleStart 0 o ++ sampleArrival 0 o 4 :: sampleStart start .ok))
    (sampleArrival start .ok 4)).2

example : packetText tmsPacket = ascii ['H', 'i', '!'] := by decide +kernel

/-- Forty seconds after it could not be stored the message is handed over again. -/
theorem handedOver_sample : HandedOver tmsPacket (sampleAgain noOutbox (seconds 40)) :=
  ((suppression_composes plainCodec ⟨true, true⟩ .init (sampleStart 0 noOutbox)
    (sampleStart (seconds 40) .ok) (sampleArrival 0 noOutbox 4) (sampleArrival (seconds 40) .ok 4)
    (by unfold Steady; decide +kernel) (sampleHanded noOutbox) tmsPacket (by decide +kernel)
    (by decide +kernel) (by unfold Retransmits; decide +kernel)).1 (by decide +kernel)).mpr
    (by unfold Quiet; decide +kernel)

/-- **A message that could not be stored** and is sent again ten seconds later is not handed over:
the reassembler remembers its signature. -/
theorem not_handedOver_retransmission : ¬ ∀ (D : Codec) (w : Wiring) (text : TextState)
    (pre mid : List Arrival) (e₁ e₂ : Arrival), Steady (pre ++ e₁ :: mid ++ [e₂]) →
    ∀ (h₁ : Handling) (p : Packet),
    (pipelineStep D w (Pipeline.after D w text pre) e₁).2 = [h₁] →
    (Pipeline.after D w text (pre ++ e₁ :: mid)).reassembler.completed D e₂.frame e₂.now = some p →
    Retransmits p h₁.packet → h₁.queued = some .FAILED →
    HandedOver p
      (pipelineStep D w (Pipeline.after D w text (pre ++ e₁ :: mid)) e₂).2 := by
  intro hall
  have hand : HandedOver tmsPacket (sampleAgain noOutbox (seconds 10)) :=
    hall plainCodec ⟨true, true⟩ .init (sampleStart 0 noOutbox) (sampleStart (seconds 10) .ok)
      (sampleArrival 0 noOutbox 4) (sampleArrival (seconds 10) .ok 4)
      (by unfold Steady; decide +kernel) (sampleHanded noOutbox) tmsPacket (by decide +kernel)
      (by decide +kernel) (by unfold Retransmits; decide +kernel) (by decide +kernel)
  obtain ⟨x, hx, -⟩ := hand
  have hnone : sampleAgain noOutbox (seconds 10) = [] := by decide +kernel
  rw [hnone] at hx
  cases hx

end Sms
