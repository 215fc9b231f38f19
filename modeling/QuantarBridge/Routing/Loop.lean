import QuantarBridge.Lib.Run
import QuantarBridge.PacketData.PlainCodec
import QuantarBridge.Routing.Downlink

/-!
# The loop

An iteration of the loop reads the clock, writes the due terminators, lets dynamic talkgroups expire
and forgets what is out of date; then it takes frames of the FNE and frames of BrandMeister. The
loop ends with writing all waiting terminators. `step` is the loop as a machine.

* `expireDynamic`, `tick`;
* `Event`, `step`, `Ordered`;
* `arrive`, `Reaches`: a frame of BrandMeister under its local talkgroup, and that it reaches the
  FNE;
* `downlink_state`, `downlink_effects`: what a frame of BrandMeister changes and does.
-/

set_option autoImplicit false

namespace Routing

open Dmr Lib PacketData

variable {lc emb : Type} (env : Environment lc emb) (cfg : RoutingConfig)

/-- A dynamic talkgroup that timed out is kept while BrandMeister is heard on it. -/
def expireDynamic (now : Time) (entry : DynamicTalkgroupState) : Option DynamicTalkgroupState :=
  if cfg.dynamicTimeout < now - entry.lastSeenSteady then
    if ¬ entry.expiredPendingBmRelease then some { entry with expiredPendingBmRelease := true }
    else if entry.lastBmSeenSteady.any (fun last => now - last ≤ kBmDynamicReleaseGrace) then
      some entry
    else none
  else some entry

/-- What is told about a dynamic talkgroup that expires or is dropped. -/
def expiryEffects (now : Time) (talkgroup : ℕ) (entry : DynamicTalkgroupState) : List Effect :=
  (expireDynamic cfg now entry).elim (publishPrimary cfg) fun kept =>
    if kept.expiredPendingBmRelease ∧ ¬ entry.expiredPendingBmRelease then
      [.expiryTrigger talkgroup]
    else []

/-- The start of an iteration. -/
def tick (s : State emb) (now : Time) : State emb × List Effect :=
  let (flushed, effects) := flushPendingInboundTerminators s now false
  ({ flushed with
      dynamicTalkgroups := s.dynamicTalkgroups.filterMap fun _ entry => expireDynamic cfg now entry
      rfPriorityTalkgroups := s.rfPriorityTalkgroups.purge now
      recentOutboundBmFrames := s.recentOutboundBmFrames.purge now
      recentFneFrames := s.recentFneFrames.purge now
      recentInboundBmFrames := s.recentInboundBmFrames.purge now },
    effects ++ (env.order s.dynamicTalkgroups.entries).flatMap fun e =>
      expiryEffects cfg now e.1 e.2)

/-- What the loop takes. -/
inductive Event
  | tick (now : Time)
  | fne (now : Time) (link : Link) (data : NetData)
  | bm (now : Time) (inbound : NetData)
  | stop (now : Time)
  deriving DecidableEq

/-- The time of the iteration. -/
def Event.time : Event → Time
  | .tick now | .fne now _ _ | .bm now _ | .stop now => now

/-- The loop as a machine. -/
def step (s : State emb) : Event → State emb × List Effect
  | .tick now => tick env cfg s now
  | .fne now link data => uplink env cfg link s now data
  | .bm now inbound => downlink env cfg s now inbound
  | .stop now => flushPendingInboundTerminators s now true

/-- The times of a run do not decrease. -/
def Ordered (start : Time) (es : List Event) : Prop :=
  (start :: es.map Event.time).Pairwise (· ≤ ·)

instance (start : Time) (es : List Event) : Decidable (Ordered start es) :=
  inferInstanceAs (Decidable (List.Pairwise _ _))

theorem ordered_of_append {start : Time} {pre post : List Event} (h : Ordered start (pre ++ post)) :
    Ordered start pre := by
  unfold Ordered at h ⊢
  rw [List.map_append, ← List.cons_append, List.pairwise_append] at h
  exact h.1

theorem time_le_of_ordered {start : Time} {pre post : List Event} {e : Event}
    (h : Ordered start (pre ++ e :: post)) : ∀ e' ∈ pre, e'.time ≤ e.time := by
  intro e' he'
  rw [Ordered, List.map_append, ← List.cons_append, List.pairwise_append] at h
  exact h.2.2 _ (List.mem_cons_of_mem _ (List.mem_map_of_mem he')) _
    (by rw [List.map_cons]; exact List.mem_cons_self)

theorem start_le_of_ordered {start : Time} {es : List Event} (h : Ordered start es) :
    ∀ e ∈ es, start ≤ e.time := fun e he =>
  (List.pairwise_cons.mp h).1 e.time (List.mem_map_of_mem he)

/-! ## The start of an iteration -/

theorem mem_publishPrimary {cfg : RoutingConfig} {e : Effect} (he : e ∈ publishPrimary cfg) :
    ∃ talkgroup, e = .published talkgroup := by
  unfold publishPrimary at he
  split_ifs at he
  · exact ⟨_, List.mem_singleton.mp he⟩
  · exact absurd he List.not_mem_nil

theorem mem_expiryEffects {cfg : RoutingConfig} {now : Time} {talkgroup : ℕ}
    {entry : DynamicTalkgroupState} {e : Effect} (he : e ∈ expiryEffects cfg now talkgroup entry) :
    ∃ talkgroup, e = .published talkgroup ∨ e = .expiryTrigger talkgroup := by
  unfold expiryEffects at he
  cases hx : expireDynamic cfg now entry with
  | none =>
    rw [hx, Option.elim_none] at he
    exact (mem_publishPrimary he).imp fun _ => Or.inl
  | some kept =>
    rw [hx, Option.elim_some] at he
    split_ifs at he
    · exact ⟨talkgroup, Or.inr (List.mem_singleton.mp he)⟩
    · exact absurd he List.not_mem_nil

theorem mem_flush {pendings : Slots (Option PendingTerminator)} {now : Time} {force : Bool}
    {e : Effect} (he : e ∈ [0, 1].flatMap (flushSlot pendings now force)) :
    ∃ slot pending, e = .flushed slot pending ∧ pendings slot = some pending ∧
      Due now force pending := by
  obtain ⟨slot, -, he⟩ := List.mem_flatMap.mp he
  rw [flushSlot, Option.mem_toList, Option.map_eq_some_iff] at he
  obtain ⟨pending, hp, rfl⟩ := he
  rw [Option.filter_eq_some_iff] at hp
  exact ⟨slot, pending, rfl, hp.1, of_decide_eq_true hp.2⟩

theorem mem_tick {s : State emb} {now : Time} {e : Effect} (he : e ∈ (tick env cfg s now).2) :
    (∃ slot pending, e = .flushed slot pending ∧ s.pendingInboundTerminators slot = some pending ∧
      Due now false pending) ∨
    ∃ talkgroup, e = .published talkgroup ∨ e = .expiryTrigger talkgroup := by
  rcases List.mem_append.mp he with he | he
  · exact Or.inl (mem_flush he)
  · obtain ⟨entry, -, he⟩ := List.mem_flatMap.mp he
    exact Or.inr (mem_expiryEffects he)

/-! ## A frame of the FNE -/

/-- What a frame of the FNE can do. -/
def Effect.FromFne : Effect → Prop
  | .forwarded _ | .unlinked _ | .reconnected | .published _ | .activeTrigger _ => True
  | _ => False

theorem publishPrimary_fromFne {cfg : RoutingConfig} {e : Effect} (he : e ∈ publishPrimary cfg) :
    e.FromFne := by
  obtain ⟨talkgroup, rfl⟩ := mem_publishPrimary he
  trivial

theorem sendToBM_fromFne {link : Link} {s : State emb} {data : NetData} {e : Effect}
    (he : e ∈ (sendToBM env cfg link s data).2) : e.FromFne := by
  unfold sendToBM at he
  split_ifs at he
  · rw [List.mem_singleton.mp he]
    trivial
  · exact absurd he List.not_mem_nil

theorem disconnectCommand_fromFne {link : Link} {s : State emb} {now : Time} {data : NetData}
    {e : Effect} (he : e ∈ (disconnectCommand cfg link s now data).2) : e.FromFne := by
  unfold disconnectCommand at he
  split_ifs at he
  · exact absurd he List.not_mem_nil
  · exact absurd he List.not_mem_nil
  · rcases List.mem_append.mp he with he | he
    · exact publishPrimary_fromFne he
    · rcases List.mem_append.mp he with he | he
      · obtain ⟨d, -, rfl⟩ := List.mem_map.mp he
        trivial
      · rw [List.mem_singleton.mp he]
        trivial
  · exact publishPrimary_fromFne (by simpa using he)

theorem activityEffects_fromFne {s : State emb} {data : NetData} {e : Effect}
    (he : e ∈ activityEffects cfg s data) : e.FromFne := by
  unfold activityEffects at he
  dsimp only at he
  split_ifs at he
  · rcases List.mem_cons.mp he with rfl | he
    · trivial
    · rw [List.mem_singleton.mp he]
      trivial
  · exact absurd he List.not_mem_nil

/-- **What a frame of the FNE does**: nothing toward the FNE. -/
theorem uplink_fromFne {link : Link} {s : State emb} {now : Time} {data : NetData} {e : Effect}
    (he : e ∈ (uplink env cfg link s now data).2) : e.FromFne := by
  unfold uplink at he
  dsimp only at he
  split_ifs at he
  · exact absurd he List.not_mem_nil
  · exact absurd he List.not_mem_nil
  · exact absurd he List.not_mem_nil
  · exact sendToBM_fromFne env cfg he
  · exact disconnectCommand_fromFne cfg he
  · rcases List.mem_append.mp he with he | he
    · exact activityEffects_fromFne cfg he
    · exact sendToBM_fromFne env cfg he

/-- **What a frame of the FNE can change.** -/
theorem uplink_state {link : Link} {s : State emb} {now : Time} {data : NetData}
    (P : State emb → Prop) (h : P s) (hm : ∀ s, P s → P (markFneFrame s now data))
    (hs : ∀ s, P s → P (sendToBM env cfg link s data).1)
    (hd : ∀ s, P s → P (disconnectCommand cfg link s now data).1)
    (hr : ∀ s, P s → P (noteRfActivity cfg s now data)) : P (uplink env cfg link s now data).1 := by
  unfold uplink
  dsimp only
  split_ifs
  · exact h
  · exact h
  · exact hm _ h
  · exact hs _ (hm _ h)
  · exact hd _ (hm _ h)
  · exact hs _ (hr _ (hm _ h))

/-! ## A frame of BrandMeister -/

/-- What the merge does. -/
theorem mem_mergePending {s : State emb} {now : Time} {inbound : NetData} {e : Effect}
    (he : e ∈ (mergePending s now inbound).2) :
    ∃ slot pending, e = .flushed slot pending ∨
      (e = .merged slot pending ∧ waiting s inbound = some (slot, pending) ∧
        SameCall pending inbound now) := by
  unfold mergePending at he
  cases hw : waiting s inbound with
  | none =>
    simp only [hw] at he
    exact absurd he List.not_mem_nil
  | some w =>
    obtain ⟨k, p⟩ := w
    simp only [hw] at he
    by_cases hc : SameCall p inbound now
    · rw [if_pos hc] at he
      exact ⟨k, p, Or.inr ⟨List.mem_singleton.mp he, rfl, hc⟩⟩
    · rw [if_neg hc] at he
      obtain ⟨k', p', he, -⟩ := mem_flush he
      exact ⟨k', p', Or.inl he⟩

/-- The frame under its local talkgroup. -/
def arrive (s : State emb) (now : Time) (inbound : NetData) : NetData :=
  (mapInbound env cfg s now inbound).1

/-- **What the local talkgroup changes**: the talkgroup and the payload. -/
theorem arrive_eq (s : State emb) (now : Time) (inbound : NetData) : ∃ payload, arrive env cfg s now inbound =
      { inbound with
        dstId := (inboundMapping env cfg s now inbound).getD (localTalkgroup env cfg s now inbound)
        data := payload } := by
  unfold arrive mapInbound
  dsimp only
  cases inboundMapping env cfg s now inbound with
  | none => exact ⟨inbound.data, rfl⟩
  | some talkgroup => exact mapFrame_eq _ _ _ _ _

theorem arrive_isPrivate {env : Environment lc emb} {cfg : RoutingConfig} {s : State emb}
    {now : Time} {inbound : NetData} :
    isPrivate (arrive env cfg s now inbound) = isPrivate inbound := by
  obtain ⟨payload, h⟩ := arrive_eq env cfg s now inbound
  rw [h]
  rfl

/-- The frame reaches the FNE: it is no header that continues a call, and the checks pass it. -/
def Reaches (s : State emb) (now : Time) (inbound : NetData) : Prop :=
  ¬ VoiceDisabled cfg inbound ∧ ¬ HeaderMerged s now (arrive env cfg s now inbound) ∧
    Admitted env cfg s now (arrive env cfg s now inbound)
      (inboundMapping env cfg s now inbound).isSome

instance (s : State emb) (now : Time) (inbound : NetData) :
    Decidable (Reaches env cfg s now inbound) :=
  inferInstanceAs (Decidable (_ ∧ _))

/-- How a frame reaches the FNE. -/
def delivery (now : Time) (inbound : NetData) : Effect :=
  match delays now inbound with
  | none => .written { inbound with slotNo := 2 }
  | some (slot, pending) => .delayed slot pending

variable {env cfg} {s : State emb} {now : Time} {inbound : NetData}

theorem downlink_of_voiceDisabled (h : VoiceDisabled cfg inbound) :
    downlink env cfg s now inbound = (s, []) := if_pos h

/-- The state in which a frame comes to the checks. -/
def entered (env : Environment lc emb) (cfg : RoutingConfig) (s : State emb) (now : Time)
    (inbound : NetData) : State emb :=
  mergeTerminator { s with inboundMappedEmbeddedLC := (mapInbound env cfg s now inbound).2 } now
    (arrive env cfg s now inbound)

/-- What the checks make of a frame. -/
def verdict (env : Environment lc emb) (cfg : RoutingConfig) (s : State emb) (now : Time)
    (inbound : NetData) : Verdict emb :=
  screenFrame env cfg (entered env cfg s now inbound) now (arrive env cfg s now inbound)
    (inboundMapping env cfg s now inbound).isSome

theorem downlink_eq (hv : ¬ VoiceDisabled cfg inbound) :
    downlink env cfg s now inbound =
      let a := arrive env cfg s now inbound
      let effects := (mergePending s now a).2
      if HeaderMerged s now a then (entered env cfg s now inbound, effects)
      else if Admitted env cfg s now a (inboundMapping env cfg s now inbound).isSome then
        ((deliver (verdict env cfg s now inbound).state now a).1,
          effects ++ (verdict env cfg s now inbound).effects ++
            (deliver (verdict env cfg s now inbound).state now a).2)
      else
        ((verdict env cfg s now inbound).state,
          effects ++ (verdict env cfg s now inbound).effects) := by
  refine (if_neg hv).trans ?_
  refine if_congr Iff.rfl rfl ?_
  refine if_congr ?_ rfl rfl
  exact screenFrame_passes env cfg _ now _ _

theorem deliver_effects (s : State emb) (now : Time) (inbound : NetData) :
    (deliver s now inbound).2 = [delivery now inbound] := by
  unfold deliver delivery
  cases delays now inbound <;> rfl

variable (env s now) in
/-- **What a frame does**: it merges, it may complete a packet, and it is delivered when it reaches
the FNE. -/
theorem downlink_effects (hv : ¬ VoiceDisabled cfg inbound) :
    ∃ packets : List Effect, (∀ e ∈ packets, ∃ packet, e = .received packet) ∧
      (downlink env cfg s now inbound).2 =
        (mergePending s now (arrive env cfg s now inbound)).2 ++ packets ++
          if Reaches env cfg s now inbound then [delivery now (arrive env cfg s now inbound)]
          else [] := by
  rw [downlink_eq hv]
  dsimp only
  by_cases hm : HeaderMerged s now (arrive env cfg s now inbound)
  · have hr : ¬ Reaches env cfg s now inbound := fun h => h.2.1 hm
    refine ⟨[], fun e he => absurd he List.not_mem_nil, ?_⟩
    rw [if_pos hm, if_neg hr, List.append_nil, List.append_nil]
  rw [if_neg hm]
  by_cases ha : Admitted env cfg s now (arrive env cfg s now inbound)
      (inboundMapping env cfg s now inbound).isSome
  · rw [if_pos ha, if_pos ⟨hv, hm, ha⟩, deliver_effects]
    exact ⟨_, fun e he => screenFrame_effects he, rfl⟩
  · have hr : ¬ Reaches env cfg s now inbound := fun h => ha h.2.2
    simp only [if_neg ha, if_neg hr, List.append_nil]
    exact ⟨_, fun e he => screenFrame_effects he, rfl⟩

theorem verdict_pending :
    (verdict env cfg s now inbound).state.pendingInboundTerminators =
      (mergePending s now (arrive env cfg s now inbound)).1 :=
  screenFrame_state (fun s' => s'.pendingInboundTerminators =
    (mergePending s now (arrive env cfg s now inbound)).1) rfl
    (fun _ h => h) (fun _ h => h) (fun _ h => h) (fun _ h => h)

/-- The waiting terminators after a frame. -/
theorem downlink_pending (hv : ¬ VoiceDisabled cfg inbound) :
    (downlink env cfg s now inbound).1.pendingInboundTerminators =
      let merged := (mergePending s now (arrive env cfg s now inbound)).1
      if Reaches env cfg s now inbound then
        (delays now (arrive env cfg s now inbound)).elim merged fun d =>
          Function.update merged d.1 (some d.2)
      else merged := by
  rw [downlink_eq hv]
  dsimp only
  by_cases hm : HeaderMerged s now (arrive env cfg s now inbound)
  · have hr : ¬ Reaches env cfg s now inbound := fun h => h.2.1 hm
    rw [if_pos hm, if_neg hr]
    rfl
  rw [if_neg hm]
  by_cases ha : Admitted env cfg s now (arrive env cfg s now inbound)
      (inboundMapping env cfg s now inbound).isSome
  · rw [if_pos ha, if_pos ⟨hv, hm, ha⟩, deliver]
    cases hd : delays now (arrive env cfg s now inbound) with
    | none => exact verdict_pending
    | some d => simp only [Option.elim_some, verdict_pending]
  · have hr : ¬ Reaches env cfg s now inbound := fun h => ha h.2.2
    rw [if_neg ha, if_neg hr]
    exact verdict_pending

/-- **What a frame of BrandMeister can change.** A property that the merge, the checks and the
delivery keep is kept. -/
theorem downlink_state (P : State emb → Prop) (h : P s)
    (hl : ∀ s embeddedLC, P s → P { s with inboundMappedEmbeddedLC := embeddedLC })
    (ht : ∀ s pending, P s → P { s with pendingInboundTerminators := pending })
    (hm : ∀ s a, P s → P (markInbound s now a)) (hp : ∀ s a, P s → P (pushPacketData env s now a))
    (hh : ∀ s a, P s → P (noteHeader s now a)) (hb : ∀ s a, P s → P (noteBmActivity s now a)) :
    P (downlink env cfg s now inbound).1 := by
  by_cases hv : VoiceDisabled cfg inbound
  · rw [downlink_of_voiceDisabled hv]
    exact h
  have he : P (entered env cfg s now inbound) := ht _ _ (hl _ _ h)
  have hver : P (verdict env cfg s now inbound).state :=
    screenFrame_state P he (fun s => hm s _) (fun s => hp s _) (fun s => hh s _) fun _ => hb _ _
  have hdel : P (deliver (verdict env cfg s now inbound).state now
      (arrive env cfg s now inbound)).1 := by
    unfold deliver
    cases delays now (arrive env cfg s now inbound) with
    | none => exact hver
    | some d => exact ht _ _ hver
  rw [downlink_eq hv]
  dsimp only
  split_ifs
  · exact he
  · exact hdel
  · exact hver

/-! ## A sample bridge -/

/-- A link control that never decodes, for frames without one. -/
def blankVoice : VoiceCodec Unit Unit where
  decode _ _ := none
  encode _ payload _ := payload
  isGroup _ := true
  getDstId _ := 0
  setDstId lc _ := lc
  create _ _ _ := ()
  setLC _ lc := lc
  getData _ payload _ := (payload, 0)
  setLCSS payload _ := payload

/-- An environment whose voice frames are blank. -/
def sampleEnvironment : Environment Unit Unit where
  packetData := plainCodec
  voice := blankVoice
  order := id

theorem two_valid : (2 : ℕ) = 1 ∨ (2 : ℕ) = 2 := Or.inr rfl

/-- A direct connection on slot 2 with the static talkgroup 91. -/
def sampleConfig : RoutingConfig where
  voiceEnabled := true
  gatewayManagedRouting := false
  repeaterId := 262999
  timeslot := 2
  dynamicTimeoutSeconds := 10
  rfPriorityHoldoffSeconds := 8
  disconnectTalkgroup := 4000
  allowPrivateCalls := false
  staticTalkgroups := [91]
  talkgroupMappings := []
  timeslot_valid := two_valid
  mappings_valid := fun _ h => absurd h List.not_mem_nil

/-- A group frame with an empty payload. -/
def sampleFrame (dataType : DataType) (dstId seqNo : ℕ) : NetData where
  slotNo := 2
  srcId := 2621001
  dstId := dstId
  flco := .GROUP
  n := 0
  seqNo := seqNo
  dataType := dataType
  data := Payload.ofBytes []

end Routing
