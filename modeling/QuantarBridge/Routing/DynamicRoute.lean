import Mathlib.Data.List.Induction
import QuantarBridge.Routing.Loop

/-!
# Dynamic talkgroups

A radio user opens a dynamic talkgroup, and the documentation says that incoming BrandMeister
traffic never extends it. A frame that is heard on an expired talkgroup keeps it open for the grace,
so traffic that keeps coming keeps it open.

* `RfFrameFor`, `RfActivity`: the activity of radio users on a talkgroup;
* `HeardOn`, `HeardOpenAt`: the frames of BrandMeister on the open talkgroup;
* `entry_of_step`, `lastSeen_spec`, `lastBmSeen_spec`: what an entry knows of both;
* `Bounded`: the documented bound;
* `Spaced`: the frames beyond the bound come more than the grace after those heard before;
* `bounded_iff`: **the bound holds exactly when the frames are spaced**.
-/

set_option autoImplicit false

namespace Routing

open Dmr Lib PacketData

variable {lc emb : Type} (env : Environment lc emb) (cfg : RoutingConfig)

/-! ## Activity -/

/-- A radio user is active on the talkgroup. -/
def RfFrameFor (talkgroup : ℕ) (s : State emb) : Event → Prop
  | .fne now _ data => data.dstId = talkgroup ∧ RfAccepted cfg s now data
  | _ => False

/-- A radio user was active on the talkgroup at the time, in the run or before the restart. -/
def RfActivity (talkgroup : ℕ) (restored : Dict ℕ Time) (s : State emb) (es : List Event)
    (u : Time) : Prop :=
  restored.get? talkgroup = some u ∨
    ∃ pre e post, es = pre ++ e :: post ∧ e.time = u ∧
      RfFrameFor cfg talkgroup (Run.final (step env cfg) s pre) e

/-- A talkgroup of radio users that is neither static nor mapped. -/
structure Unmapped (talkgroup : ℕ) : Prop where
  dynamic : talkgroup ∉ cfg.staticTalkgroups
  unmapped : ∀ m ∈ cfg.talkgroupMappings, m.1 ≠ talkgroup ∧ m.2 ≠ talkgroup

variable {env cfg} {talkgroup : ℕ} {s : State emb} {e : Event}

theorem bmRouteDstId_eq_iff (h : Unmapped cfg talkgroup) (dstId : ℕ) :
    bmRouteDstId cfg dstId = talkgroup ↔ dstId = talkgroup := by
  unfold bmRouteDstId
  cases hd : cfg.p25ToBmTalkgroups.get? dstId with
  | none => exact Iff.rfl
  | some bm =>
    have hm := h.unmapped _ (cfg.mem_of_p25ToBm hd)
    exact ⟨fun he => absurd he hm.2, fun he => absurd he hm.1⟩

theorem not_mapped (hT : Unmapped cfg talkgroup) {now : Time} {inbound : NetData}
    (hd : (arrive env cfg s now inbound).dstId = talkgroup) :
    ¬ (inboundMapping env cfg s now inbound).isSome = true := by
  intro hm
  obtain ⟨p25, hp25⟩ := Option.isSome_iff_exists.mp hm
  obtain ⟨payload, ha⟩ := arrive_eq env cfg s now inbound
  rw [ha, hp25, Option.getD_some] at hd
  unfold inboundMapping at hp25
  split_ifs at hp25
  exact (hT.unmapped _ (cfg.mem_of_bmToP25 hp25)).1 hd

theorem permitted_iff (hT : Unmapped cfg talkgroup) {now : Time} {inbound : NetData}
    (hp : ¬ isPrivate (arrive env cfg s now inbound))
    (hd : (arrive env cfg s now inbound).dstId = talkgroup) :
    Permitted cfg s now (arrive env cfg s now inbound)
      (inboundMapping env cfg s now inbound).isSome ↔
    ∃ entry, s.dynamicTalkgroups.get? talkgroup = some entry ∧ entry.Open now cfg.dynamicTimeout := by
  rw [Permitted, hd, Option.any_eq_true]
  simp only [hp, not_mapped hT hd, hT.dynamic, false_or, Bool.false_eq_true, decide_eq_true_eq]

/-! ## Frames that come to the check for a route -/

variable (env cfg) in
/-- A group frame of the talkgroup that the checks before the one for a route let through. -/
def ComesToRoute (talkgroup : ℕ) (s : State emb) (now : Time) (inbound : NetData) : Prop :=
  let a := arrive env cfg s now inbound
  ¬ VoiceDisabled cfg inbound ∧ ¬ HeaderMerged s now a ∧ ¬ Duplicate s now a ∧
    ¬ RepeatedHeader s now a ∧ ¬ isPrivate a ∧ a.dstId = talkgroup

instance (talkgroup : ℕ) (s : State emb) (now : Time) (inbound : NetData) :
    Decidable (ComesToRoute env cfg talkgroup s now inbound) :=
  inferInstanceAs (Decidable (_ ∧ _))

variable (env cfg) in
/-- BrandMeister is heard on the talkgroup while the talkgroup is open. -/
def HeardOn (talkgroup : ℕ) (s : State emb) : Event → Prop
  | .bm now inbound =>
    ComesToRoute env cfg talkgroup s now inbound ∧
      (s.dynamicTalkgroups.get? talkgroup).any (fun entry => entry.Open now cfg.dynamicTimeout) =
        true
  | _ => False

instance (talkgroup : ℕ) (s : State emb) : DecidablePred (HeardOn env cfg talkgroup s)
  | .bm _ _ => inferInstanceAs (Decidable (_ ∧ _))
  | .tick _ | .fne _ _ _ | .stop _ => isFalse id

/-- BrandMeister is heard on a talkgroup when a frame has come to its route and has one. -/
theorem screenFrame_dynamic {now : Time} {inbound : NetData} {mapped : Bool} :
    (screenFrame env cfg s now inbound mapped).state.dynamicTalkgroups =
      if ¬ Duplicate s now inbound ∧ ¬ Consumed env s now inbound ∧ ¬ RepeatedHeader s now inbound ∧
          ¬ PrivateDropped cfg inbound ∧ Permitted cfg s now inbound mapped then
        (noteBmActivity s now inbound).dynamicTalkgroups
      else s.dynamicTalkgroups := by
  rw [screenFrame_eq]
  by_cases hd : Duplicate s now inbound
  · rw [if_pos hd, if_neg fun h => h.1 hd]
  rw [if_neg hd]
  dsimp only
  by_cases hc : Consumed env s now inbound
  · rw [if_pos hc, if_neg fun h => h.2.1 hc]
    rfl
  by_cases hh : RepeatedHeader s now inbound
  · rw [if_neg hc, if_pos hh, if_neg fun h => h.2.2.1 hh]
    rfl
  rw [if_neg hc, if_neg hh]
  by_cases hp : PrivateDropped cfg inbound ∨ ¬ Permitted cfg s now inbound mapped
  · rw [if_pos hp, if_neg fun h => hp.elim h.2.2.2.1 fun hn => hn h.2.2.2.2]
    rfl
  · rw [if_neg hp, if_pos ⟨hd, hc, hh, fun h => hp (Or.inl h), not_not.mp fun h => hp (Or.inr h)⟩]
    rfl

theorem get?_verdict (hT : Unmapped cfg talkgroup) {now : Time} {inbound : NetData}
    (hv : ¬ VoiceDisabled cfg inbound)
    (hm : ¬ HeaderMerged s now (arrive env cfg s now inbound)) :
    (verdict env cfg s now inbound).state.dynamicTalkgroups.get? talkgroup =
      if HeardOn env cfg talkgroup s (.bm now inbound) then
        (s.dynamicTalkgroups.get? talkgroup).map fun entry =>
          { entry with lastBmSeenSteady := some now }
      else s.dynamicTalkgroups.get? talkgroup := by
  rw [verdict, screenFrame_dynamic, apply_ite (fun d : DynamicTalkgroups => d.get? talkgroup)]
  by_cases hp : isPrivate (arrive env cfg s now inbound) = true
  · rw [if_neg fun h : HeardOn env cfg talkgroup s (.bm now inbound) => h.1.2.2.2.2.1 hp]
    unfold noteBmActivity
    rw [if_pos hp]
    exact ite_self _
  by_cases hd : (arrive env cfg s now inbound).dstId = talkgroup
  · have hroute := permitted_iff (s := s) hT hp hd
    refine if_congr ⟨fun h => ?_, fun h => ?_⟩ ?_ rfl
    · obtain ⟨hdup, -, hrep, -, hperm⟩ := h
      refine ⟨⟨hv, hm, hdup, hrep, hp, hd⟩, (Option.any_eq_true _ _).mpr ?_⟩
      obtain ⟨entry, he, hopen⟩ := hroute.mp hperm
      exact ⟨entry, he, decide_eq_true hopen⟩
    · obtain ⟨⟨-, -, hdup, hrep, -, -⟩, hopen⟩ := h
      obtain ⟨entry, he, hopen⟩ := (Option.any_eq_true _ _).mp hopen
      exact ⟨hdup, fun hc => hp (of_decide_eq_true hc.1).1, hrep, fun hc => hp hc.2.2.1,
        hroute.mpr ⟨entry, he, of_decide_eq_true hopen⟩⟩
    · unfold noteBmActivity
      rw [if_neg hp, Dict.get?_modify, if_pos hd.symm]
      rfl
  · rw [if_neg fun h : HeardOn env cfg talkgroup s (.bm now inbound) => hd h.1.2.2.2.2.2]
    unfold noteBmActivity
    rw [if_neg hp, Dict.get?_modify, if_neg (Ne.symm hd)]
    exact ite_self _

theorem get?_downlink (hT : Unmapped cfg talkgroup) (now : Time) (inbound : NetData) :
    (downlink env cfg s now inbound).1.dynamicTalkgroups.get? talkgroup =
      if HeardOn env cfg talkgroup s (.bm now inbound) then
        (s.dynamicTalkgroups.get? talkgroup).map fun entry =>
          { entry with lastBmSeenSteady := some now }
      else s.dynamicTalkgroups.get? talkgroup := by
  by_cases hv : VoiceDisabled cfg inbound
  · rw [downlink_of_voiceDisabled hv, if_neg fun h => h.1.1 hv]
  have hdel : ∀ s' : State emb, (deliver s' now (arrive env cfg s now inbound)).1.dynamicTalkgroups =
      s'.dynamicTalkgroups := fun s' => by
    unfold deliver
    cases delays now (arrive env cfg s now inbound) <;> rfl
  by_cases hm : HeaderMerged s now (arrive env cfg s now inbound)
  · rw [downlink_eq hv, if_neg fun h : HeardOn env cfg talkgroup s (.bm now inbound) => h.1.2.1 hm]
    exact congrArg (fun r : State emb × List Effect => r.1.dynamicTalkgroups.get? talkgroup)
      (if_pos hm)
  rw [← get?_verdict hT hv hm, downlink_eq hv]
  dsimp only
  rw [if_neg hm]
  split_ifs
  · exact congrArg (fun d : DynamicTalkgroups => d.get? talkgroup) (hdel _)
  · rfl

/-! ## The entry of a talkgroup -/

theorem get?_tick (now : Time) : (tick env cfg s now).1.dynamicTalkgroups.get? talkgroup =
    (s.dynamicTalkgroups.get? talkgroup).bind (expireDynamic cfg now) := by
  rw [show (tick env cfg s now).1.dynamicTalkgroups = s.dynamicTalkgroups.filterMap
    fun _ entry => expireDynamic cfg now entry from rfl, Dict.get?_filterMap]

theorem sendToBM_dynamic {link : Link} {data : NetData} :
    (sendToBM env cfg link s data).1.dynamicTalkgroups = s.dynamicTalkgroups := by
  unfold sendToBM
  split_ifs <;> rfl

theorem get?_noteRfActivity (hT : Unmapped cfg talkgroup) {now : Time} {data : NetData} :
    (noteRfActivity cfg s now data).dynamicTalkgroups.get? talkgroup =
      if data.dstId = talkgroup then
        some (DynamicTalkgroupState.seen now (s.dynamicTalkgroups.get? talkgroup))
      else s.dynamicTalkgroups.get? talkgroup := by
  unfold noteRfActivity
  dsimp only
  by_cases hd : data.dstId = talkgroup
  · have hr : bmRouteDstId cfg data.dstId = talkgroup := (bmRouteDstId_eq_iff hT _).mpr hd
    rw [if_pos hd, hr, if_neg hT.dynamic, Dict.get?_set, if_pos rfl]
  · have hr : talkgroup ≠ bmRouteDstId cfg data.dstId :=
      fun h => hd ((bmRouteDstId_eq_iff hT _).mp h.symm)
    rw [if_neg hd]
    split_ifs
    · rfl
    · rw [Dict.get?_set, if_neg hr]

variable (env s) in
theorem get?_uplink (hT : Unmapped cfg talkgroup) (link : Link) (now : Time) (data : NetData) :
    (RfFrameFor cfg talkgroup s (.fne now link data) ∧
      (uplink env cfg link s now data).1.dynamicTalkgroups.get? talkgroup =
        some (DynamicTalkgroupState.seen now (s.dynamicTalkgroups.get? talkgroup))) ∨
    (¬ RfFrameFor cfg talkgroup s (.fne now link data) ∧
      ((uplink env cfg link s now data).1.dynamicTalkgroups.get? talkgroup =
          s.dynamicTalkgroups.get? talkgroup ∨
        (uplink env cfg link s now data).1.dynamicTalkgroups.get? talkgroup = none)) := by
  unfold uplink
  dsimp only
  by_cases hb : UplinkBlocked cfg data
  · rw [if_pos hb]
    exact Or.inr ⟨fun h => h.2.1 hb, Or.inl rfl⟩
  by_cases hdup : UplinkDuplicate s now data
  · rw [if_neg hb, if_pos hdup]
    exact Or.inr ⟨fun h => h.2.2.1 hdup, Or.inl rfl⟩
  rw [if_neg hb, if_neg hdup]
  by_cases hr : Reflected (markFneFrame s now data) now data
  · rw [if_pos hr]
    exact Or.inr ⟨fun h => h.2.2.2.1 hr, Or.inl rfl⟩
  rw [if_neg hr]
  by_cases hp : isPrivate data = true
  · rw [if_pos hp, sendToBM_dynamic]
    exact Or.inr ⟨fun h => h.2.2.2.2.1 hp, Or.inl rfl⟩
  rw [if_neg hp]
  by_cases hdis : data.dstId = cfg.disconnectTalkgroup
  · rw [if_pos hdis]
    refine Or.inr ⟨fun h => h.2.2.2.2.2 hdis, ?_⟩
    unfold disconnectCommand
    split_ifs <;> first | exact Or.inl rfl | exact Or.inr rfl
  rw [if_neg hdis, sendToBM_dynamic, get?_noteRfActivity hT]
  by_cases hd : data.dstId = talkgroup
  · rw [if_pos hd]
    exact Or.inl ⟨⟨hd, hb, hdup, hr, hp, hdis⟩, rfl⟩
  · rw [if_neg hd]
    exact Or.inr ⟨fun h => hd h.1, Or.inl rfl⟩

/-- What a step without activity of radio users leaves of an entry. -/
structure Follows (talkgroup : ℕ) (env : Environment lc emb) (cfg : RoutingConfig) (s : State emb)
    (e : Event) (entry entry' : DynamicTalkgroupState) : Prop where
  lastSeen : entry'.lastSeenSteady = entry.lastSeenSteady
  expired : entry.expiredPendingBmRelease = true → entry'.expiredPendingBmRelease = true
  heard : entry'.lastBmSeenSteady =
    if HeardOn env cfg talkgroup s e then some e.time else entry.lastBmSeenSteady

/-- **What a step does to an entry.** -/
theorem entry_of_step (hT : Unmapped cfg talkgroup) {entry' : DynamicTalkgroupState}
    (h : (step env cfg s e).1.dynamicTalkgroups.get? talkgroup = some entry') :
    (RfFrameFor cfg talkgroup s e ∧
      entry' = DynamicTalkgroupState.seen e.time (s.dynamicTalkgroups.get? talkgroup)) ∨
    (¬ RfFrameFor cfg talkgroup s e ∧ ∃ entry, s.dynamicTalkgroups.get? talkgroup = some entry ∧
      Follows talkgroup env cfg s e entry entry') := by
  cases e with
  | tick now =>
    rw [step, get?_tick, Option.bind_eq_some_iff] at h
    obtain ⟨entry, he, hx⟩ := h
    refine Or.inr ⟨id, entry, he, ?_⟩
    unfold expireDynamic at hx
    split_ifs at hx <;> cases hx <;> first | exact ⟨rfl, id, rfl⟩ | exact ⟨rfl, fun _ => rfl, rfl⟩
  | bm now inbound =>
    refine Or.inr ⟨id, ?_⟩
    rw [step, get?_downlink hT] at h
    by_cases hh : HeardOn env cfg talkgroup s (.bm now inbound)
    · rw [if_pos hh] at h
      obtain ⟨entry, he, rfl⟩ := Option.map_eq_some_iff.mp h
      exact ⟨entry, he, rfl, id, (if_pos hh).symm⟩
    · rw [if_neg hh] at h
      exact ⟨entry', h, rfl, id, (if_neg hh).symm⟩
  | stop now => exact Or.inr ⟨id, entry', h, rfl, id, rfl⟩
  | fne now link data =>
    rcases get?_uplink env s hT link now data with ⟨hf, hu⟩ | ⟨hf, hu | hu⟩
    · exact Or.inl ⟨hf, Option.some.inj (h.symm.trans hu)⟩
    · exact Or.inr ⟨hf, entry', hu.symm.trans h, rfl, id, rfl⟩
    · exact absurd (h.symm.trans hu) (Option.some_ne_none _)

theorem rfActivity_concat {restored : Dict ℕ Time} {es : List Event} {u : Time} :
    RfActivity env cfg talkgroup restored s (es ++ [e]) u ↔
      RfActivity env cfg talkgroup restored s es u ∨
        (e.time = u ∧ RfFrameFor cfg talkgroup (Run.final (step env cfg) s es) e) := by
  unfold RfActivity
  rw [or_assoc, Run.exists_step_concat_iff es e]

/-- Activity is in the past. -/
theorem rfActivity_le {restored : Dict ℕ Time} {start u : Time} {es : List Event}
    (hr : ∀ u, restored.get? talkgroup = some u → u ≤ start) (ho : Ordered start (es ++ [e]))
    (h : RfActivity env cfg talkgroup restored s es u) : u ≤ e.time := by
  rcases h with h | ⟨pre, e', post, rfl, rfl, -⟩
  · exact (hr u h).trans (start_le_of_ordered ho e (List.mem_append_right _ List.mem_cons_self))
  · exact time_le_of_ordered ho e' (List.mem_append_right _ List.mem_cons_self)

/-- **An entry knows the last activity of radio users**, by induction along the run. -/
theorem lastSeen_spec (hT : Unmapped cfg talkgroup) {embeddedLC : emb} {restored : Dict ℕ Time}
    {start : Time} (hr : ∀ u, restored.get? talkgroup = some u → u ≤ start) {es : List Event}
    (ho : Ordered start es) {entry : DynamicTalkgroupState}
    (h : (Run.final (step env cfg) (State.init embeddedLC restored) es).dynamicTalkgroups.get?
      talkgroup = some entry) :
    RfActivity env cfg talkgroup restored (State.init embeddedLC restored) es entry.lastSeenSteady ∧
      ∀ v, RfActivity env cfg talkgroup restored (State.init embeddedLC restored) es v →
        v ≤ entry.lastSeenSteady := by
  induction es using List.reverseRecOn generalizing entry with
  | nil =>
    rw [Run.final_nil, State.init, Dict.get?_filterMap, Option.bind_eq_some_iff] at h
    obtain ⟨u, hu, h⟩ := h
    cases h
    refine ⟨Or.inl hu, fun v hv => ?_⟩
    rcases hv with hv | ⟨pre, e, post, he, -⟩
    · exact (Option.some.inj (hv.symm.trans hu)).le
    · exact absurd he.symm (List.append_ne_nil_of_right_ne_nil _ (List.cons_ne_nil _ _))
  | append_singleton es e ih =>
    rw [Run.final_concat] at h
    rcases entry_of_step hT h with ⟨hf, rfl⟩ | ⟨hf, before, hb, hfollows⟩
    · refine ⟨rfActivity_concat.mpr (Or.inr ⟨rfl, hf⟩), fun v hv => ?_⟩
      rcases rfActivity_concat.mp hv with hv | ⟨rfl, -⟩
      · exact rfActivity_le hr ho hv
      · exact le_rfl
    · obtain ⟨ha, hmax⟩ := ih (ordered_of_append ho) hb
      rw [hfollows.lastSeen]
      refine ⟨rfActivity_concat.mpr (Or.inl ha), fun v hv => ?_⟩
      rcases rfActivity_concat.mp hv with hv | ⟨-, hf'⟩
      · exact hmax v hv
      · exact absurd hf' hf

variable (env cfg) in
/-- BrandMeister was heard on the open talkgroup at the time. -/
def HeardOpenAt (talkgroup : ℕ) (s : State emb) (es : List Event) (u : Time) : Prop :=
  ∃ pre e post, es = pre ++ e :: post ∧ e.time = u ∧
    HeardOn env cfg talkgroup (Run.final (step env cfg) s pre) e

theorem heardOpenAt_concat {es : List Event} {u : Time} :
    HeardOpenAt env cfg talkgroup s (es ++ [e]) u ↔
      HeardOpenAt env cfg talkgroup s es u ∨
        (e.time = u ∧ HeardOn env cfg talkgroup (Run.final (step env cfg) s es) e) :=
  Run.exists_step_concat_iff es e

/-- **An entry knows when BrandMeister was heard last**; a new one has the clock's zero. -/
theorem lastBmSeen_spec (hT : Unmapped cfg talkgroup) {embeddedLC : emb} {restored : Dict ℕ Time}
    {es : List Event} {entry : DynamicTalkgroupState}
    (h : (Run.final (step env cfg) (State.init embeddedLC restored) es).dynamicTalkgroups.get?
      talkgroup = some entry) :
    ∃ u, entry.lastBmSeenSteady = some u ∧
      (u = 0 ∨ HeardOpenAt env cfg talkgroup (State.init embeddedLC restored) es u) := by
  induction es using List.reverseRecOn generalizing entry with
  | nil =>
    rw [Run.final_nil, State.init, Dict.get?_filterMap, Option.bind_eq_some_iff] at h
    obtain ⟨u, -, h⟩ := h
    cases h
    exact ⟨0, rfl, Or.inl rfl⟩
  | append_singleton es e ih =>
    rw [Run.final_concat] at h
    rcases entry_of_step hT h with ⟨-, rfl⟩ | ⟨-, before, hb, hfollows⟩
    · cases hb : (Run.final (step env cfg) (State.init embeddedLC restored)
          es).dynamicTalkgroups.get? talkgroup with
      | none => exact ⟨0, rfl, Or.inl rfl⟩
      | some before =>
        obtain ⟨u, hu, hcases⟩ := ih hb
        exact ⟨u, hu, hcases.imp_right fun hu => heardOpenAt_concat.mpr (Or.inl hu)⟩
    · rw [hfollows.heard]
      split_ifs with hh
      · exact ⟨e.time, rfl, Or.inr (heardOpenAt_concat.mpr (Or.inr ⟨rfl, hh⟩))⟩
      · obtain ⟨u, hu, hcases⟩ := ih hb
        exact ⟨u, hu, hcases.imp_right fun hu => heardOpenAt_concat.mpr (Or.inl hu)⟩

/-! ## The bound -/

/-- A group frame of the talkgroup goes to the FNE. -/
def Effect.PassesTo (talkgroup : ℕ) : Effect → Prop
  | .written data => ¬ isPrivate data ∧ data.dstId = talkgroup
  | .delayed _ pending => ¬ isPrivate pending.data ∧ pending.data.dstId = talkgroup
  | _ => False

variable (env cfg) in
/-- Each BrandMeister frame of the talkgroup that passes comes within the timeout and the grace
after activity of radio users. -/
def Bounded (talkgroup : ℕ) (restored : Dict ℕ Time) (s : State emb) (es : List Event) : Prop :=
  ∀ pre now inbound post, es = pre ++ .bm now inbound :: post →
    (∃ x ∈ (step env cfg (Run.final (step env cfg) s pre) (.bm now inbound)).2,
      x.PassesTo talkgroup) →
    ∃ u, RfActivity env cfg talkgroup restored s pre u ∧
      now ≤ u + cfg.dynamicTimeout + kBmDynamicReleaseGrace

variable (env cfg) in
/-- A group frame of the talkgroup that only the check for a route could stop, and not for want of an
entry. -/
def NeedsRoute (talkgroup : ℕ) (s : State emb) (now : Time) (inbound : NetData) : Prop :=
  ComesToRoute env cfg talkgroup s now inbound ∧
    ¬ Echo s now (arrive env cfg s now inbound) ∧
    ¬ RfHasPriority s now (arrive env cfg s now inbound) ∧
    s.dynamicTalkgroups.get? talkgroup ≠ none

variable (env cfg) in
/-- A frame that comes later than the timeout and the grace after the last activity of radio users
comes more than the grace after every frame that was heard on the open talkgroup. -/
def Spaced (talkgroup : ℕ) (restored : Dict ℕ Time) (s : State emb) (es : List Event) : Prop :=
  ∀ pre now inbound post, es = pre ++ .bm now inbound :: post →
    NeedsRoute env cfg talkgroup (Run.final (step env cfg) s pre) now inbound →
    (∀ u, RfActivity env cfg talkgroup restored s pre u →
      u + cfg.dynamicTimeout + kBmDynamicReleaseGrace < now) →
    ∀ u, HeardOpenAt env cfg talkgroup s pre u → u + kBmDynamicReleaseGrace < now

theorem delivery_passesTo {now : Time} {inbound : NetData} :
    (delivery now inbound).PassesTo talkgroup ↔ ¬ isPrivate inbound ∧ inbound.dstId = talkgroup := by
  unfold delivery
  cases hd : delays now inbound with
  | none => exact Iff.rfl
  | some d =>
    unfold delays at hd
    split_ifs at hd
    obtain ⟨k, -, rfl⟩ := Option.map_eq_some_iff.mp hd
    exact Iff.rfl

theorem passes_iff {now : Time} {inbound : NetData} :
    (∃ x ∈ (step env cfg s (.bm now inbound)).2, x.PassesTo talkgroup) ↔
      Reaches env cfg s now inbound ∧ ¬ isPrivate (arrive env cfg s now inbound) ∧
        (arrive env cfg s now inbound).dstId = talkgroup := by
  by_cases hv : VoiceDisabled cfg inbound
  · refine ⟨fun ⟨x, hx, _⟩ => ?_, fun h => absurd hv h.1.1⟩
    rw [step, downlink_of_voiceDisabled hv] at hx
    exact absurd hx List.not_mem_nil
  obtain ⟨packets, hp, he⟩ := downlink_effects env s now hv
  rw [step, he]
  constructor
  · rintro ⟨x, hx, hc⟩
    rcases List.mem_append.mp hx with hx | hx
    · rcases List.mem_append.mp hx with hx | hx
      · obtain ⟨k, p, rfl | ⟨rfl, -⟩⟩ := mem_mergePending hx <;> exact hc.elim
      · obtain ⟨packet, rfl⟩ := hp x hx
        exact hc.elim
    · split_ifs at hx with hr
      · rw [List.mem_singleton.mp hx] at hc
        exact ⟨hr, delivery_passesTo.mp hc⟩
      · exact absurd hx List.not_mem_nil
  · rintro ⟨hr, hb⟩
    rw [if_pos hr]
    exact ⟨_, List.mem_append_right _ (List.mem_singleton.mpr rfl), delivery_passesTo.mpr hb⟩

/-- An entry on which BrandMeister was heard past its timeout stays expired, and knows that time or a
later one, until a radio user is active. -/
theorem expired_of_heard (hT : Unmapped cfg talkgroup) {u : Time} {mid : List Event}
    (hlate : ∀ e ∈ mid, u ≤ e.time)
    (hrf : Run.Along (step env cfg) (fun s e => ¬ RfFrameFor cfg talkgroup s e) s mid)
    (h : ∀ entry, s.dynamicTalkgroups.get? talkgroup = some entry →
      entry.expiredPendingBmRelease = true ∧ ∃ v, entry.lastBmSeenSteady = some v ∧ u ≤ v) :
    ∀ entry, (Run.final (step env cfg) s mid).dynamicTalkgroups.get? talkgroup = some entry →
      entry.expiredPendingBmRelease = true ∧ ∃ v, entry.lastBmSeenSteady = some v ∧ u ≤ v := by
  have halong : Run.Along (step env cfg)
      (fun s e => u ≤ e.time ∧ ¬ RfFrameFor cfg talkgroup s e) s mid := by
    rintro pre e post rfl
    exact ⟨hlate e (List.mem_append_right _ List.mem_cons_self), hrf pre e post rfl⟩
  refine Run.final_of_along (fun s : State emb => ∀ entry,
    s.dynamicTalkgroups.get? talkgroup = some entry →
      entry.expiredPendingBmRelease = true ∧ ∃ v, entry.lastBmSeenSteady = some v ∧ u ≤ v)
    (fun s e he hs entry' hentry' => ?_) mid s halong h
  obtain ⟨hf, -⟩ | ⟨-, entry, hentry, hfollows⟩ := entry_of_step hT hentry'
  · exact absurd hf he.2
  obtain ⟨hexp, v, hv, hle⟩ := hs entry hentry
  refine ⟨hfollows.expired hexp, ?_⟩
  rw [hfollows.heard]
  split_ifs
  · exact ⟨e.time, rfl, he.1⟩
  · exact ⟨v, hv, hle⟩

theorem expired_of_heardOn (hT : Unmapped cfg talkgroup) {embeddedLC : emb} {restored : Dict ℕ Time}
    {start : Time} (hr : ∀ u, restored.get? talkgroup = some u → u ≤ start) {before : List Event}
    (ho : Ordered start before)
    (hheard : HeardOn env cfg talkgroup
      (Run.final (step env cfg) (State.init embeddedLC restored) before) e)
    (hlate : ∀ u, RfActivity env cfg talkgroup restored (State.init embeddedLC restored) before u →
      u + cfg.dynamicTimeout < e.time) (entry : DynamicTalkgroupState)
    (h : (step env cfg (Run.final (step env cfg) (State.init embeddedLC restored) before)
      e).1.dynamicTalkgroups.get? talkgroup = some entry) :
    entry.expiredPendingBmRelease = true ∧ ∃ v, entry.lastBmSeenSteady = some v ∧ e.time ≤ v := by
  cases e with
  | bm now inbound =>
    obtain ⟨hf, -⟩ | ⟨-, opened, hopened, hfollows⟩ := entry_of_step hT h
    · exact hf.elim
    obtain ⟨entry', hentry', hopen⟩ := (Option.any_eq_true _ _).mp hheard.2
    obtain rfl := Option.some.inj (hopened.symm.trans hentry')
    refine ⟨hfollows.expired ?_, now, hfollows.heard.trans (if_pos hheard), le_rfl⟩
    rcases of_decide_eq_true hopen with ⟨-, htimeout⟩ | ⟨hexp, -⟩
    · exact absurd (Nat.sub_le_iff_le_add'.mp htimeout)
        (Nat.not_le.mpr (hlate _ (lastSeen_spec hT hr ho hopened).1))
    · exact hexp
  | _ => exact hheard.elim

theorem rfActivity_append {restored : Dict ℕ Time} {es fs : List Event} {u : Time}
    (h : RfActivity env cfg talkgroup restored s es u) :
    RfActivity env cfg talkgroup restored s (es ++ fs) u := by
  rcases h with h | ⟨pre, e, post, rfl, he, hf⟩
  · exact Or.inl h
  · exact Or.inr ⟨pre, e, post ++ fs, by rw [List.append_assoc, List.cons_append], he, hf⟩

variable (env cfg) in
/-- **BrandMeister traffic extends no dynamic talkgroup exactly when the frames beyond the bound keep
their distance.** A frame that is heard on an expired talkgroup holds it open for the grace. -/
theorem bounded_iff (hT : Unmapped cfg talkgroup) (embeddedLC : emb) (restored : Dict ℕ Time)
    (start : Time) (hr : ∀ u, restored.get? talkgroup = some u → u ≤ start) (es : List Event)
    (ho : Ordered start es) :
    Bounded env cfg talkgroup restored (State.init embeddedLC restored) es ↔
      Spaced env cfg talkgroup restored (State.init embeddedLC restored) es := by
  constructor
  · rintro h pre now inbound post rfl ⟨⟨hv, hm, hdup, hrep, hp, hd⟩, he, hf, hsome⟩ hbeyond u
      ⟨before, e, mid, rfl, rfl, hheard⟩
    by_contra hnear
    rw [Nat.not_lt] at hnear
    have ho' : Ordered start (before ++ e :: mid) := ordered_of_append ho
    -- what radio users did was over before BrandMeister was heard
    have hover : ∀ v, RfActivity env cfg talkgroup restored (State.init embeddedLC restored)
        (before ++ e :: mid) v → v + cfg.dynamicTimeout < e.time := fun v hv =>
      Nat.lt_of_add_lt_add_right (Nat.lt_of_lt_of_le (hbeyond v hv) hnear)
    have hmid : ∀ e' ∈ mid, e.time ≤ e'.time := fun e' he' => by
      obtain ⟨a, b, rfl⟩ := List.append_of_mem he'
      rw [← List.cons_append, ← List.append_assoc] at ho'
      exact time_le_of_ordered ho' e (List.mem_append_right _ List.mem_cons_self)
    have hquiet : Run.Along (step env cfg) (fun s e => ¬ RfFrameFor cfg talkgroup s e)
        (step env cfg (Run.final (step env cfg) (State.init embeddedLC restored) before) e).1 mid := by
      rintro a e' b rfl hf
      have hactive : RfActivity env cfg talkgroup restored (State.init embeddedLC restored)
          (before ++ e :: (a ++ e' :: b)) e'.time := by
        refine Or.inr ⟨before ++ e :: a, e', b, by simp, rfl, ?_⟩
        rwa [Run.final_append, Run.final_cons]
      exact absurd ((Nat.le_add_right _ _).trans_lt (hover _ hactive))
        (Nat.not_lt.mpr (hmid e' (List.mem_append_right _ List.mem_cons_self)))
    obtain ⟨entry, hentry⟩ := Option.ne_none_iff_exists'.mp hsome
    obtain ⟨hexp, v, hv', hle⟩ := expired_of_heard hT hmid hquiet
      (expired_of_heardOn hT hr (ordered_of_append ho') hheard
        fun v hv => hover v (rfActivity_append hv)) entry
      (by rwa [Run.final_append, Run.final_cons] at hentry)
    -- so the talkgroup is still open for the frame
    have hgrace : now - v ≤ kBmDynamicReleaseGrace :=
      Nat.sub_le_iff_le_add'.mpr (hnear.trans (Nat.add_le_add_right hle _))
    have hperm := (permitted_iff hT hp hd).mpr ⟨entry, hentry, Or.inr ⟨hexp, by
      rw [hv', Option.all_some]; exact decide_eq_true hgrace⟩⟩
    obtain ⟨v', hv'', hbound⟩ := h _ now inbound post rfl (passes_iff.mpr
      ⟨⟨hv, hm, hdup, fun hc => hp (of_decide_eq_true hc.1).1, hrep, fun hc => hp hc.2.2.1, hperm,
        he, hf⟩, hp, hd⟩)
    exact absurd hbound (Nat.not_le.mpr (hbeyond v' hv''))
  · intro h pre now inbound post hes hpass
    obtain ⟨⟨hv, hm, hdup, -, hrep, -, hperm, he, hf⟩, hp, hd⟩ := passes_iff.mp hpass
    obtain ⟨entry, hentry, hopen⟩ := (permitted_iff hT hp hd).mp hperm
    have hlast := (lastSeen_spec hT hr (ordered_of_append (hes ▸ ho)) hentry)
    refine ⟨entry.lastSeenSteady, hlast.1, ?_⟩
    rcases hopen with ⟨-, htimeout⟩ | ⟨-, hbm⟩
    · exact (Nat.sub_le_iff_le_add'.mp htimeout).trans (Nat.le_add_right _ _)
    by_contra hlt
    obtain ⟨u, hu, hcases⟩ := lastBmSeen_spec hT hentry
    rw [hu, Option.all_some, decide_eq_true_eq] at hbm
    have hbeyond : ∀ v, RfActivity env cfg talkgroup restored (State.init embeddedLC restored) pre v →
        v + cfg.dynamicTimeout + kBmDynamicReleaseGrace < now := fun v hv =>
      Nat.lt_of_le_of_lt (Nat.add_le_add_right (Nat.add_le_add_right (hlast.2 v hv) _) _)
        (Nat.lt_of_not_le hlt)
    have hneeds : NeedsRoute env cfg talkgroup
        (Run.final (step env cfg) (State.init embeddedLC restored) pre) now inbound :=
      ⟨⟨hv, hm, hdup, hrep, hp, hd⟩, he, hf, fun hn => Option.some_ne_none _ (hentry.symm.trans hn)⟩
    rcases hcases with rfl | hheard
    · exact hlt (hbm.trans (Nat.le_add_left _ _))
    · exact absurd (Nat.sub_le_iff_le_add'.mp hbm)
        (Nat.not_le.mpr (h pre now inbound post hes hneeds hbeyond u hheard))

/-- A radio user calls talkgroup 3100 at one second, and BrandMeister traffic follows. -/
def heldOpen : List Event :=
  [.tick (seconds 1),
    .fne (seconds 1) ⟨true, seconds 1⟩ (sampleFrame .VOICE_LC_HEADER 3100 1),
    .tick (milliseconds 10500), .bm (milliseconds 10500) (sampleFrame .VOICE_SYNC 3100 2),
    .tick (milliseconds 12500), .bm (milliseconds 12500) (sampleFrame .VOICE_SYNC 3100 3),
    .tick (milliseconds 14500)]

theorem unmapped_sample : Unmapped sampleConfig 3100 where
  dynamic := by decide
  unmapped := fun _ hm => absurd hm List.not_mem_nil

/-- The next frame comes three and a half seconds later. -/
theorem spaced_heldOpen : Spaced sampleEnvironment sampleConfig 3100 Dict.empty
    (State.init () Dict.empty)
    (heldOpen ++ [.bm (seconds 16) (sampleFrame .VOICE_SYNC 3100 4)]) := by
  have hactive : ∀ es, RfActivity sampleEnvironment sampleConfig 3100 Dict.empty
      (State.init () Dict.empty) (heldOpen.take 3 ++ es) (seconds 1) := fun es =>
    Or.inr ⟨[.tick (seconds 1)], _, _, rfl, rfl, by decide, by decide +kernel⟩
  rintro pre now inbound post hes - hbeyond u ⟨before, e, mid, hpre, rfl, hheard⟩
  rcases pre with _ | ⟨e₁, _ | ⟨e₂, _ | ⟨e₃, _ | ⟨e₄, _ | ⟨e₅, _ | ⟨e₆, _ | ⟨e₇, pre⟩⟩⟩⟩⟩⟩⟩ <;>
    simp [heldOpen] at hes
  -- the two frames in time
  · obtain ⟨rfl, rfl, rfl, ⟨rfl, -⟩, -⟩ := hes
    exact absurd (hbeyond _ (hactive [])) (by decide)
  · obtain ⟨rfl, rfl, rfl, rfl, rfl, ⟨rfl, -⟩, -⟩ := hes
    exact absurd (hbeyond _ (hactive _)) (by decide)
  -- the frame beyond the bound
  · obtain ⟨rfl, rfl, rfl, rfl, rfl, rfl, rfl, hes⟩ := hes
    cases pre with
    | cons e₈ pre => simp at hes
    | nil =>
      obtain ⟨⟨rfl, -⟩, -⟩ := List.cons.inj hes
      have hmem : e ∈ heldOpen := by
        rw [show heldOpen = before ++ e :: mid from hpre]
        exact List.mem_append_right before List.mem_cons_self
      simp only [heldOpen, List.mem_cons, List.not_mem_nil, or_false] at hmem
      rcases hmem with rfl | rfl | rfl | rfl | rfl | rfl | rfl
      · exact hheard.elim
      · exact hheard.elim
      · exact hheard.elim
      · decide
      · exact hheard.elim
      · decide
      · exact hheard.elim

theorem bounded_heldOpen : Bounded sampleEnvironment sampleConfig 3100 Dict.empty
    (State.init () Dict.empty)
    (heldOpen ++ [.bm (seconds 16) (sampleFrame .VOICE_SYNC 3100 4)]) :=
  (bounded_iff sampleEnvironment sampleConfig unmapped_sample () Dict.empty 0
    (fun _ h => absurd h.symm (Option.some_ne_none _)) _ (by decide +kernel)).mpr spaced_heldOpen

/-- **An expired talkgroup stays open.** The frame at 14.5 seconds passes although the timeout of
ten seconds and the grace of three are over. -/
theorem not_bounded_heldOpen : ¬ Bounded sampleEnvironment sampleConfig 3100 Dict.empty
    (State.init () Dict.empty)
    (heldOpen ++ [.bm (milliseconds 14500) (sampleFrame .VOICE_SYNC 3100 4)]) := by
  intro h
  obtain ⟨u, hu, hbound⟩ := h heldOpen (milliseconds 14500) (sampleFrame .VOICE_SYNC 3100 4) [] rfl
    ⟨.written (sampleFrame .VOICE_SYNC 3100 4), by decide +kernel, by decide, rfl⟩
  rcases hu with hu | ⟨pre, e, post, hes, rfl, hf⟩
  · exact absurd hu.symm (Option.some_ne_none _)
  have hmem : e ∈ heldOpen := hes ▸ List.mem_append_right pre List.mem_cons_self
  simp only [heldOpen, List.mem_cons, List.not_mem_nil, or_false] at hmem
  rcases hmem with rfl | rfl | rfl | rfl | rfl | rfl | rfl
  · exact hf
  · exact absurd hbound (by decide)
  all_goals exact hf

end Routing
