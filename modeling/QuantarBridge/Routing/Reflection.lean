import QuantarBridge.Routing.Loop

/-!
# Frames that come back

The FNE can send back a frame the bridge just wrote to it, and BrandMeister a frame the bridge just
sent. The bridge knows them by their signatures. Toward the FNE it remembers the frame as it was
received, on its own slot, and not as it was written; toward BrandMeister it remembers the frame as
it was sent and compares it with the frame under its local talkgroup.

* `recentInbound_step`, `recentInbound_iff`: the remembered signatures of received frames;
* `ComesBack`, `NoReflection`, `noReflection_iff`: **no frame goes around through the FNE exactly
  when the signatures of those that come back were recorded**;
* `recentOutbound_step`: a sent frame stays remembered for its window;
* `noEcho_of_signature`: **a frame that keeps its signature does not go around through BrandMeister**.
-/

set_option autoImplicit false

namespace Routing

open Dmr Lib PacketData

variable {lc emb : Type} (env : Environment lc emb) (cfg : RoutingConfig)

/-! ## Received frames -/

/-- The frame is remembered under the signature. -/
def MarksInbound (s : State emb) : Event → UInt64 → Prop
  | .bm now inbound, signature =>
    let a := arrive env cfg s now inbound
    ¬ VoiceDisabled cfg inbound ∧ ¬ HeaderMerged s now a ∧ ¬ Duplicate s now a ∧
      dmrFrameSignature a = signature
  | _, _ => False

/-- Until when a received frame is remembered. -/
def inboundExpiry (e : Event) : Time := e.time + kBmDuplicateSuppressWindow

variable {env cfg} {s : State emb} {now t : Time} {inbound : NetData} {signature : UInt64}

theorem screenFrame_recentInbound {mapped : Bool} :
    (screenFrame env cfg s now inbound mapped).state.recentInboundBmFrames =
      if Duplicate s now inbound then s.recentInboundBmFrames
      else (markInbound s now inbound).recentInboundBmFrames := by
  rw [screenFrame_eq]
  split_ifs <;> rfl

theorem deliver_recentInbound :
    (deliver s now inbound).1.recentInboundBmFrames = s.recentInboundBmFrames := by
  unfold deliver
  cases delays now inbound <;> rfl

theorem downlink_recentInbound (hv : ¬ VoiceDisabled cfg inbound) :
    (downlink env cfg s now inbound).1.recentInboundBmFrames =
      let a := arrive env cfg s now inbound
      if HeaderMerged s now a ∨ Duplicate s now a then s.recentInboundBmFrames
      else s.recentInboundBmFrames.mark (dmrFrameSignature a) (now + kBmDuplicateSuppressWindow) := by
  have hver : (verdict env cfg s now inbound).state.recentInboundBmFrames =
      if Duplicate s now (arrive env cfg s now inbound) then s.recentInboundBmFrames
      else s.recentInboundBmFrames.mark (dmrFrameSignature (arrive env cfg s now inbound))
        (now + kBmDuplicateSuppressWindow) := screenFrame_recentInbound
  rw [downlink_eq hv]
  dsimp only
  by_cases hm : HeaderMerged s now (arrive env cfg s now inbound)
  · rw [if_pos hm, if_pos (Or.inl hm)]
    rfl
  have hor : (HeaderMerged s now (arrive env cfg s now inbound) ∨
      Duplicate s now (arrive env cfg s now inbound)) ↔
        Duplicate s now (arrive env cfg s now inbound) := or_iff_right hm
  rw [if_neg hm, if_congr hor rfl rfl, ← hver]
  split_ifs
  · exact deliver_recentInbound
  · rfl

/-- **What a step remembers of received frames.** -/
theorem recentInbound_step (s : State emb) (e : Event) (ht : e.time ≤ t) :
    (step env cfg s e).1.recentInboundBmFrames.Live t signature ↔
      s.recentInboundBmFrames.Live t signature ∨
        (MarksInbound env cfg s e signature ∧ t < inboundExpiry e) := by
  cases e with
  | tick now =>
    exact (ExpiryMap.live_purge_iff _ ht _).trans ⟨Or.inl, fun h => h.resolve_right And.left⟩
  | fne now link data =>
    have hs : (step env cfg s (.fne now link data)).1.recentInboundBmFrames =
        s.recentInboundBmFrames := by
      refine uplink_state env cfg (fun s' => s'.recentInboundBmFrames = s.recentInboundBmFrames) rfl
        (fun _ h => h) (fun s' h => ?_) (fun s' h => ?_) fun _ h => h
      · unfold sendToBM
        split_ifs <;> exact h
      · unfold disconnectCommand
        split_ifs <;> exact h
    rw [hs]
    exact ⟨Or.inl, fun h => h.resolve_right And.left⟩
  | stop now => exact ⟨Or.inl, fun h => h.resolve_right And.left⟩
  | bm now inbound =>
    by_cases hv : VoiceDisabled cfg inbound
    · rw [step, downlink_of_voiceDisabled hv]
      exact ⟨Or.inl, fun h => h.resolve_right fun hm => hm.1.1 hv⟩
    rw [step, downlink_recentInbound hv]
    dsimp only
    split_ifs with hm
    · refine ⟨Or.inl, fun h => h.resolve_right fun hmark => ?_⟩
      exact hm.elim hmark.1.2.1 hmark.1.2.2.1
    · rw [not_or] at hm
      rw [ExpiryMap.live_mark_iff]
      split_ifs with hk
      · subst hk
        have hold : ¬ s.recentInboundBmFrames.Live t
            (dmrFrameSignature (arrive env cfg s now inbound)) :=
          fun h => hm.2 (ExpiryMap.live_of_le ht h)
        exact ⟨fun h => Or.inr ⟨⟨hv, hm.1, hm.2, rfl⟩, h⟩, fun h => (h.resolve_left hold).2⟩
      · exact ⟨Or.inl, fun h => h.resolve_right fun hmark => hk hmark.1.2.2.2.symm⟩

/-- **The received frames a run remembers.** -/
theorem recentInbound_iff {embeddedLC : emb} {restored : Dict ℕ Time} {es : List Event}
    (hes : ∀ e ∈ es, e.time ≤ t) :
    (Run.final (step env cfg) (State.init embeddedLC restored) es).recentInboundBmFrames.Live t
        signature ↔
      ExpiryMap.Marked (step env cfg) (MarksInbound env cfg) inboundExpiry
        (State.init embeddedLC restored) es t signature := by
  refine (ExpiryMap.live_run_iff (fun s e he => recentInbound_step s e he) hes).trans ?_
  exact or_iff_right (ExpiryMap.not_live_empty t signature)

/-! ## Frames that come back from the FNE -/

/-- The frame is the other one up to what the readers fill in: the error rate, the signal strength and
the control byte. -/
def Unchanged (data received : NetData) : Prop :=
  { received with ber := data.ber, rssi := data.rssi, control := data.control } = data

instance (data received : NetData) : Decidable (Unchanged data received) :=
  inferInstanceAs (Decidable (_ = _))

theorem signature_of_unchanged {data received : NetData} (h : Unchanged data received) :
    dmrFrameSignature received = dmrFrameSignature data := by
  rw [← h]
  rfl

/-- The frame an effect writes to the FNE. -/
def Effect.toFne : Effect → Option NetData
  | .written data => some data
  | .flushed _ pending => some pending.data
  | _ => none

variable (env cfg) in
/-- After `pre` the FNE sends a frame that the bridge wrote to it less than fifteen milliseconds
before. -/
def ComesBack (s : State emb) (es pre : List Event) (now : Time) (link : Link) (data : NetData) :
    Prop :=
  ∃ before e mid post, pre = before ++ e :: mid ∧ es = pre ++ .fne now link data :: post ∧
    (∃ x ∈ (step env cfg (Run.final (step env cfg) s before) e).2, ∃ written,
      x.toFne = some written ∧ Unchanged written data) ∧
    now < e.time + kBmDuplicateSuppressWindow

variable (env cfg) in
/-- No frame that comes back from the FNE is forwarded to BrandMeister. -/
def NoReflection (s : State emb) (es : List Event) : Prop :=
  ∀ pre now link data, ComesBack env cfg s es pre now link data →
    ∀ sent, .forwarded sent ∉
      (step env cfg (Run.final (step env cfg) s pre) (.fne now link data)).2

variable (cfg) in
/-- The other reasons for which a frame of the FNE is not forwarded. -/
def UplinkStopped (link : Link) (s : State emb) (now : Time) (data : NetData) : Prop :=
  link.connected = false ∨ UplinkBlocked cfg data ∨ UplinkDuplicate s now data ∨
    (¬ isPrivate data ∧ data.dstId = cfg.disconnectTalkgroup)

variable {link : Link} {data sent : NetData}

variable (env cfg link s data) in
theorem mem_sendToBM_iff :
    (∃ sent, .forwarded sent ∈ (sendToBM env cfg link s data).2) ↔ link.connected = true := by
  unfold sendToBM
  split_ifs with h
  · exact ⟨fun _ => h, fun _ => ⟨_, List.mem_singleton.mpr rfl⟩⟩
  · exact ⟨fun ⟨_, h⟩ => absurd h List.not_mem_nil, fun h' => absurd h' h⟩

theorem not_mem_disconnectCommand :
    .forwarded sent ∉ (disconnectCommand cfg link s now data).2 := by
  unfold disconnectCommand
  intro h
  split_ifs at h
  · exact absurd h List.not_mem_nil
  · exact absurd h List.not_mem_nil
  · rcases List.mem_append.mp h with h | h
    · obtain ⟨talkgroup, h⟩ := mem_publishPrimary h
      cases h
    · rcases List.mem_append.mp h with h | h
      · obtain ⟨d, -, h⟩ := List.mem_map.mp h
        cases h
      · cases List.mem_singleton.mp h
  · rw [List.append_nil] at h
    obtain ⟨talkgroup, h⟩ := mem_publishPrimary h
    cases h

theorem not_mem_activityEffects : .forwarded sent ∉ activityEffects cfg s data := by
  unfold activityEffects
  intro h
  dsimp only at h
  split_ifs at h
  · rcases List.mem_cons.mp h with h | h
    · cases h
    · cases List.mem_singleton.mp h
  · exact absurd h List.not_mem_nil

/-- **When a frame of the FNE is forwarded.** -/
theorem uplink_forwards_iff :
    (∃ sent, .forwarded sent ∈ (uplink env cfg link s now data).2) ↔
      ¬ UplinkStopped cfg link s now data ∧ ¬ Reflected s now data := by
  have hmark : Reflected (markFneFrame s now data) now data ↔ Reflected s now data := Iff.rfl
  unfold uplink UplinkStopped
  dsimp only
  rw [if_congr hmark rfl rfl]
  by_cases hb : UplinkBlocked cfg data
  · simp [hb]
  by_cases hd : UplinkDuplicate s now data
  · simp [hb, hd]
  by_cases hr : Reflected s now data
  · simp [hb, hd, hr]
  by_cases hp : isPrivate data = true
  · simp only [hb, hd, hr, hp, if_true, if_false, mem_sendToBM_iff]
    simp
  by_cases ht : data.dstId = cfg.disconnectTalkgroup
  · rw [if_neg hb, if_neg hd, if_neg hr, if_neg hp, if_pos ht]
    refine ⟨fun ⟨sent, h⟩ => absurd h not_mem_disconnectCommand, fun h => ?_⟩
    exact absurd (Or.inr (Or.inr (Or.inr ⟨hp, ht⟩))) h.1
  · have hstop : ¬ (link.connected = false ∨ UplinkBlocked cfg data ∨ UplinkDuplicate s now data ∨
        ¬ isPrivate data ∧ data.dstId = cfg.disconnectTalkgroup) ↔ link.connected = true := by
      simp [hb, hd, ht]
    rw [if_neg hb, if_neg hd, if_neg hr, if_neg hp, if_neg ht, hstop]
    rw [← mem_sendToBM_iff env cfg (noteRfActivity cfg (markFneFrame s now data) now data) link
      data]
    refine (exists_congr fun sent => ?_).trans (and_iff_left hr).symm
    rw [List.mem_append]
    exact or_iff_right not_mem_activityEffects

variable (env cfg) in
/-- **No frame goes around through the FNE exactly when those that come back were recorded**: another
check stops the frame, or a frame with its signature was received and remembered less than fifteen
milliseconds before. -/
theorem noReflection_iff (embeddedLC : emb) (restored : Dict ℕ Time) (start : Time)
    (es : List Event) (ho : Ordered start es) :
    NoReflection env cfg (State.init embeddedLC restored) es ↔
      ∀ pre now link data, ComesBack env cfg (State.init embeddedLC restored) es pre now link data →
        UplinkStopped cfg link (Run.final (step env cfg) (State.init embeddedLC restored) pre) now
            data ∨
          ExpiryMap.Marked (step env cfg) (MarksInbound env cfg) inboundExpiry
            (State.init embeddedLC restored) pre now (dmrFrameSignature data) := by
  refine forall_congr' fun pre => forall_congr' fun now => forall_congr' fun link =>
    forall_congr' fun data => imp_congr_right fun hback => ?_
  obtain ⟨before, e, mid, post, -, hes, -⟩ := hback
  have hle : ∀ e ∈ pre, e.time ≤ now := time_le_of_ordered (hes ▸ ho)
  rw [← recentInbound_iff hle, ← not_exists, step, uplink_forwards_iff, not_and_or, not_not, not_not]
  exact Iff.rfl

/-- A frame of talkgroup 91 is received on slot 2, written, and comes back five milliseconds
later. -/
def reflected : List Event :=
  [.tick 0, .bm 0 (sampleFrame .VOICE_SYNC 91 1), .tick (milliseconds 5),
    .fne (milliseconds 5) ⟨true, milliseconds 5⟩ (sampleFrame .VOICE_SYNC 91 1)]

theorem noReflection_reflected :
    NoReflection sampleEnvironment sampleConfig (State.init () Dict.empty) reflected := by
  refine (noReflection_iff sampleEnvironment sampleConfig () Dict.empty 0 reflected
    (by decide +kernel)).mpr ?_
  rintro pre now link data ⟨before, e, mid, post, -, hes, -⟩
  right
  rcases pre with _ | ⟨e₁, _ | ⟨e₂, _ | ⟨e₃, _ | ⟨e₄, pre⟩⟩⟩⟩ <;> simp [reflected] at hes
  obtain ⟨rfl, rfl, rfl, ⟨rfl, -, rfl⟩, -⟩ := hes
  exact ⟨[.tick 0], .bm 0 (sampleFrame .VOICE_SYNC 91 1), [.tick (milliseconds 5)], rfl,
    ⟨by decide, by decide +kernel, by decide +kernel, by decide +kernel⟩, by decide⟩

/-- The same on slot 1. -/
def reflectedOnSlotOne : List Event :=
  [.tick 0, .bm 0 { sampleFrame .VOICE_SYNC 91 1 with slotNo := 1 }, .tick (milliseconds 5),
    .fne (milliseconds 5) ⟨true, milliseconds 5⟩ (sampleFrame .VOICE_SYNC 91 1)]

/-- **A frame received on slot 1 goes around**: it is remembered on slot 1 and comes back on
slot 2. -/
theorem not_noReflection_slotOne :
    ¬ NoReflection sampleEnvironment { sampleConfig with timeslot := 1, timeslot_valid := Or.inl rfl }
      (State.init () Dict.empty) reflectedOnSlotOne := by
  intro h
  refine h [.tick 0, .bm 0 { sampleFrame .VOICE_SYNC 91 1 with slotNo := 1 }, .tick (milliseconds 5)]
    (milliseconds 5) ⟨true, milliseconds 5⟩ (sampleFrame .VOICE_SYNC 91 1)
    ⟨[.tick 0], _, [.tick (milliseconds 5)], [], rfl, rfl,
      ⟨.written (sampleFrame .VOICE_SYNC 91 1), by decide +kernel, _, rfl, rfl⟩, by decide⟩
    { sampleFrame .VOICE_SYNC 91 1 with slotNo := 1 } ?_
  decide +kernel

/-! ## Frames that come back from BrandMeister -/

/-- **A sent frame is remembered.** -/
theorem sendToBM_recentOutbound (h : .forwarded sent ∈ (sendToBM env cfg link s data).2) :
    (sendToBM env cfg link s data).1.recentOutboundBmFrames =
      s.recentOutboundBmFrames.mark (dmrFrameSignature sent)
        (link.clock + kBmEchoSuppressWindow) := by
  unfold sendToBM at h ⊢
  split_ifs at h ⊢
  · cases List.mem_singleton.mp h
    rfl
  · exact absurd h List.not_mem_nil

theorem uplink_recentOutbound (h : .forwarded sent ∈ (uplink env cfg link s now data).2)
    (ht : t < link.clock + kBmEchoSuppressWindow) :
    (uplink env cfg link s now data).1.recentOutboundBmFrames.Live t (dmrFrameSignature sent) := by
  have hsent : ∀ s' : State emb, .forwarded sent ∈ (sendToBM env cfg link s' data).2 →
      (sendToBM env cfg link s' data).1.recentOutboundBmFrames.Live t (dmrFrameSignature sent) := by
    intro s' h'
    rw [sendToBM_recentOutbound h', ExpiryMap.live_mark_iff, if_pos rfl]
    exact ht
  unfold uplink at h ⊢
  dsimp only at h ⊢
  split_ifs at h ⊢
  · exact absurd h List.not_mem_nil
  · exact absurd h List.not_mem_nil
  · exact absurd h List.not_mem_nil
  · exact hsent _ h
  · exact absurd h not_mem_disconnectCommand
  · exact hsent _ ((List.mem_append.mp h).resolve_left not_mem_activityEffects)

/-- The step comes before `t`, and what it sends is remembered beyond `t`. -/
def Earlier (t : Time) (e : Event) : Prop :=
  e.time ≤ t ∧ ∀ now link data, e = .fne now link data → t < link.clock + kBmEchoSuppressWindow

/-- **A step keeps a sent frame remembered.** -/
theorem recentOutbound_step {e : Event} (he : Earlier t e)
    (h : s.recentOutboundBmFrames.Live t signature) :
    (step env cfg s e).1.recentOutboundBmFrames.Live t signature := by
  cases e with
  | tick now => exact (ExpiryMap.live_purge_iff _ he.1 _).mpr h
  | fne now link data =>
    refine uplink_state env cfg (fun s' => s'.recentOutboundBmFrames.Live t signature) h
      (fun _ h => h) (fun s' h => ?_) (fun s' h => ?_) fun _ h => h
    · unfold sendToBM
      split_ifs
      · rw [ExpiryMap.live_mark_iff]
        split_ifs
        · exact he.2 now link data rfl
        · exact h
      · exact h
    · unfold disconnectCommand
      split_ifs <;> exact h
  | bm now inbound =>
    exact downlink_state (fun s' => s'.recentOutboundBmFrames.Live t signature) h
      (fun _ _ h => h) (fun _ _ h => h) (fun _ _ h => h) (fun _ _ h => h) (fun _ _ h => h)
      fun _ _ h => h
  | stop now => exact h

/-- The clock does not go back between two frames of the FNE. -/
def ClocksOrdered (es : List Event) : Prop :=
  es.Pairwise fun e e' => ∀ now link data now' link' data', e = .fne now link data →
    e' = .fne now' link' data' → link.clock ≤ link'.clock

variable (env cfg) in
/-- After `pre` BrandMeister reflects a group frame that the bridge sent less than twenty seconds
before. -/
def EchoReturns (s : State emb) (es pre : List Event) (now : Time) (inbound : NetData) : Prop :=
  ∃ before now₀ link data mid post sent, pre = before ++ .fne now₀ link data :: mid ∧
    es = pre ++ .bm now inbound :: post ∧
    .forwarded sent ∈ (step env cfg (Run.final (step env cfg) s before) (.fne now₀ link data)).2 ∧
    ¬ isPrivate sent ∧ Unchanged sent inbound ∧ now < link.clock + kBmEchoSuppressWindow

/-- A frame of BrandMeister is written to the FNE, or waits to be. -/
def Effect.Delivers : Effect → Prop
  | .written _ | .delayed _ _ => True
  | _ => False

variable (env cfg) in
/-- No frame that BrandMeister reflects is written to the FNE. -/
def NoEcho (s : State emb) (es : List Event) : Prop :=
  ∀ pre now inbound, EchoReturns env cfg s es pre now inbound →
    ∀ x ∈ (step env cfg (Run.final (step env cfg) s pre) (.bm now inbound)).2, ¬ x.Delivers

theorem reaches_of_delivers {x : Effect} (hx : x ∈ (step env cfg s (.bm now inbound)).2)
    (hd : x.Delivers) : Reaches env cfg s now inbound := by
  by_cases hv : VoiceDisabled cfg inbound
  · rw [step, downlink_of_voiceDisabled hv] at hx
    exact absurd hx List.not_mem_nil
  obtain ⟨packets, hp, he⟩ := downlink_effects env s now hv
  rw [step, he] at hx
  rcases List.mem_append.mp hx with hx | hx
  · rcases List.mem_append.mp hx with hx | hx
    · obtain ⟨k, p, rfl | ⟨rfl, -⟩⟩ := mem_mergePending hx <;> exact hd.elim
    · obtain ⟨packet, rfl⟩ := hp x hx
      exact hd.elim
  · split_ifs at hx with hr
    · exact hr
    · exact absurd hx List.not_mem_nil

/-- A frame whose talkgroup is not mapped stays as it is. -/
theorem arrive_of_unmapped (hm : inboundMapping env cfg s now inbound = none)
    (hl : localTalkgroup env cfg s now inbound = inbound.dstId) :
    arrive env cfg s now inbound = inbound := by
  rw [arrive, mapInbound, hm, hl]

variable (env cfg) in
/-- **A frame that keeps its signature under its local talkgroup does not go around through
BrandMeister.** -/
theorem noEcho_of_signature (embeddedLC : emb) (restored : Dict ℕ Time) (start : Time)
    (es : List Event) (ho : Ordered start es) (hc : ClocksOrdered es)
    (hk : ∀ pre now inbound,
      EchoReturns env cfg (State.init embeddedLC restored) es pre now inbound →
        dmrFrameSignature (arrive env cfg
          (Run.final (step env cfg) (State.init embeddedLC restored) pre) now inbound) =
            dmrFrameSignature inbound) :
    NoEcho env cfg (State.init embeddedLC restored) es := by
  intro pre now inbound hback x hx hdel
  have hsig := hk pre now inbound hback
  obtain ⟨before, now₀, link, data, mid, post, sent, rfl, rfl, hsent, hgroup, hsame, hwindow⟩ := hback
  have hearlier : ∀ e ∈ mid, Earlier now e := by
    intro e he
    refine ⟨time_le_of_ordered ho e (List.mem_append_right _ (List.mem_cons_of_mem _ he)), ?_⟩
    rintro now' link' data' rfl
    have hpair := (List.pairwise_append.mp (List.pairwise_append.mp hc).1).2.1
    have hclock := (List.pairwise_cons.mp hpair).1 _ he _ _ _ _ _ _ rfl rfl
    exact Nat.lt_of_lt_of_le hwindow (Nat.add_le_add_right hclock _)
  have hlive : (Run.final (step env cfg) (State.init embeddedLC restored)
      (before ++ .fne now₀ link data :: mid)).recentOutboundBmFrames.Live now
        (dmrFrameSignature sent) := by
    rw [Run.final_append, Run.final_cons]
    refine Run.final_of_along (C := fun _ e => Earlier now e)
      (fun s' : State emb => s'.recentOutboundBmFrames.Live now (dmrFrameSignature sent))
      (fun s e he h => recentOutbound_step he h) mid _ ?_ (uplink_recentOutbound hsent hwindow)
    rintro a e b rfl
    exact hearlier e (List.mem_append_right _ List.mem_cons_self)
  refine (reaches_of_delivers hx hdel).2.2.2.2.2.2.2.1 ⟨?_, ?_⟩
  · rw [arrive_isPrivate]
    rw [← hsame] at hgroup
    exact hgroup
  · rw [hsig, signature_of_unchanged hsame]
    exact hlive

/-- A frame to talkgroup 91 is sent with a control byte and read back without it twelve seconds
later. -/
def echoed : List Event :=
  [.tick (seconds 1),
    .fne (seconds 1) ⟨true, seconds 1⟩ { sampleFrame .VOICE_SYNC 91 1 with control := 0x20 },
    .tick (seconds 13), .bm (seconds 13) (sampleFrame .VOICE_SYNC 91 1)]

theorem noEcho_echoed :
    NoEcho sampleEnvironment sampleConfig (State.init () Dict.empty) echoed := by
  refine noEcho_of_signature sampleEnvironment sampleConfig () Dict.empty 0 echoed
    (by decide +kernel) (by simp [ClocksOrdered, echoed]) ?_
  intro pre now inbound _
  rw [arrive_of_unmapped]
  · unfold inboundMapping
    split_ifs <;> rfl
  · rfl

/-- The same to talkgroup 10, which is mapped to BrandMeister's talkgroup 3100. -/
def echoedMapped : List Event :=
  [.tick (seconds 1), .fne (seconds 1) ⟨true, seconds 1⟩ (sampleFrame .VOICE_SYNC 10 1),
    .tick (seconds 13), .bm (seconds 13) (sampleFrame .VOICE_SYNC 3100 1)]

/-- **A frame of a mapped talkgroup goes around**: it is remembered as it was sent and compared after
it got its local talkgroup back. -/
theorem not_noEcho_mapped : ¬ NoEcho sampleEnvironment
    { sampleConfig with
      talkgroupMappings := [(10, 3100)]
      mappings_valid := List.forall_mem_singleton.mpr ⟨by decide, by decide⟩ }
    (State.init () Dict.empty) echoedMapped := by
  intro h
  refine h [.tick (seconds 1), .fne (seconds 1) ⟨true, seconds 1⟩ (sampleFrame .VOICE_SYNC 10 1),
    .tick (seconds 13)] (seconds 13) (sampleFrame .VOICE_SYNC 3100 1)
    ⟨[.tick (seconds 1)], seconds 1, ⟨true, seconds 1⟩, sampleFrame .VOICE_SYNC 10 1,
      [.tick (seconds 13)], [], sampleFrame .VOICE_SYNC 3100 1, rfl, rfl, by decide +kernel,
      by decide, by decide, by decide⟩
    (.written (sampleFrame .VOICE_SYNC 10 1)) (by decide +kernel) trivial

end Routing
