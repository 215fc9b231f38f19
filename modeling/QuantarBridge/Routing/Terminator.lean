import QuantarBridge.Lib.Cell
import QuantarBridge.Routing.Loop

/-!
# The end of a call

A terminator of BrandMeister waits on its slot. It is written when its merge window is over, when a
frame of another call comes, or when the loop stops; it is dropped when a frame continues its call.
The checks of the frame come after the drop, so a frame that one of them stops leaves its call without
an end.

* `slotOp`, `step_tracks`: the waiting place of a slot as a cell;
* `EveryTerminatorEnds`: the terminators in what a run did;
* `Releases`, `PassesOn`: the frames that drop a terminator, and that they pass the checks;
* `everyTerminatorEnds_of_passesOn`: **every terminator ends its call when the frames that drop one
  pass the checks**.
-/

set_option autoImplicit false

namespace Routing

open Dmr Lib PacketData

variable {lc emb : Type}

/-! ## The waiting place of a slot -/

/-- What an effect says about the terminator that waits on a slot. -/
def slotOp (slot : Fin 2) : Effect → Option (CellOp PendingTerminator)
  | .delayed k pending => if k = slot then some (.put pending) else none
  | .merged k pending | .flushed k pending => if k = slot then some (.take pending) else none
  | _ => none

theorem slotOp_of_fromFne {slot : Fin 2} {e : Effect} (h : e.FromFne) : slotOp slot e = none := by
  cases e <;> first | rfl | exact h.elim

theorem slotOp_eq_take {slot : Fin 2} {e : Effect} {p : PendingTerminator}
    (h : slotOp slot e = some (.take p)) : e = .flushed slot p ∨ e = .merged slot p := by
  unfold slotOp at h
  split at h
  · split_ifs at h
    cases h
  · split_ifs at h with hk
    cases h
    exact Or.inr (by rw [hk])
  · split_ifs at h with hk
    cases h
    exact Or.inl (by rw [hk])
  · cases h

theorem slotOp_flushSlot {pending : Slots (Option PendingTerminator)} {now : Time} {force : Bool}
    {slot k : Fin 2} (hk : k ≠ slot) : ∀ e ∈ flushSlot pending now force k, slotOp slot e = none := by
  intro e he
  rw [flushSlot, Option.mem_toList, Option.map_eq_some_iff] at he
  obtain ⟨p, -, rfl⟩ := he
  exact if_neg hk

theorem tracks_flushSlot (pending : Slots (Option PendingTerminator)) (now : Time) (force : Bool)
    (slot : Fin 2) : Tracks (slotOp slot) (pending slot) (flushSlot pending now force slot)
      (stillWaiting pending now force slot) := by
  unfold flushSlot stillWaiting
  cases hp : pending slot with
  | none => exact rfl
  | some p =>
    by_cases hd : Due now force p
    · simp only [Option.filter_some, hd, decide_true, not_true_eq_false, decide_false, if_true,
        Bool.false_eq_true, if_false, Option.map_some, Option.toList_some]
      exact tracks_take (if_pos rfl)
    · simp only [Option.filter_some, hd, decide_false, not_false_eq_true, decide_true, if_true,
        Bool.false_eq_true, if_false, Option.map_none, Option.toList_none]
      exact rfl

theorem tracks_flush (pending : Slots (Option PendingTerminator)) (now : Time) (force : Bool)
    (slot : Fin 2) :
    Tracks (slotOp slot) (pending slot) ([0, 1].flatMap (flushSlot pending now force))
      (stillWaiting pending now force slot) := by
  rw [List.flatMap_cons, List.flatMap_cons, List.flatMap_nil, List.append_nil]
  by_cases h0 : slot = 0
  · subst h0
    exact tracks_append (tracks_flushSlot pending now force 0)
      (tracks_idle (slotOp_flushSlot (by decide)))
  · obtain rfl : slot = 1 := by omega
    exact tracks_append (tracks_idle (slotOp_flushSlot (by decide)))
      (tracks_flushSlot pending now force 1)

theorem stillWaiting_force (pending : Slots (Option PendingTerminator)) (now : Time)
    (slot : Fin 2) : stillWaiting pending now true slot = none := by
  unfold stillWaiting
  cases pending slot <;> simp [Due]

theorem mergePending_slot {s : State emb} {now : Time} {inbound : NetData} {slot : Fin 2}
    (h : slotIndex inbound.slotNo = some slot) : (mergePending s now inbound).1 slot = none := by
  have hw : waiting s inbound =
      (s.pendingInboundTerminators slot).map fun pending => (slot, pending) := by
    rw [waiting, h, Option.bind_some]
  unfold mergePending
  cases hp : s.pendingInboundTerminators slot with
  | none => simp only [hw, hp, Option.map_none]
  | some pending =>
    simp only [hw, hp, Option.map_some]
    split_ifs
    · exact Function.update_self ..
    · exact stillWaiting_force _ now slot

theorem pending_of_waiting {s : State emb} {inbound : NetData} {slot : Fin 2}
    {pending : PendingTerminator} (h : waiting s inbound = some (slot, pending)) :
    s.pendingInboundTerminators slot = some pending := by
  rw [waiting, Option.bind_eq_some_iff] at h
  obtain ⟨k, -, hk⟩ := h
  obtain ⟨p, hp, he⟩ := Option.map_eq_some_iff.mp hk
  cases he
  exact hp

theorem tracks_merge (s : State emb) (now : Time) (inbound : NetData) (slot : Fin 2) :
    Tracks (slotOp slot) (s.pendingInboundTerminators slot) (mergePending s now inbound).2
      ((mergePending s now inbound).1 slot) := by
  unfold mergePending
  cases hw : waiting s inbound with
  | none => exact rfl
  | some w =>
    obtain ⟨k, pending⟩ := w
    dsimp only
    split_ifs
    · dsimp only
      by_cases hk : k = slot
      · subst hk
        rw [pending_of_waiting hw, Function.update_self]
        exact tracks_take (if_pos rfl)
      · rw [Function.update_of_ne (Ne.symm hk)]
        exact tracks_idle fun e he => by rw [List.mem_singleton.mp he]; exact if_neg hk
    · exact tracks_flush s.pendingInboundTerminators now true slot

variable (env : Environment lc emb) (cfg : RoutingConfig)

theorem downlink_tracks (s : State emb) (now : Time) (inbound : NetData) (slot : Fin 2) :
    Tracks (slotOp slot) (s.pendingInboundTerminators slot) (downlink env cfg s now inbound).2
      ((downlink env cfg s now inbound).1.pendingInboundTerminators slot) := by
  by_cases hv : VoiceDisabled cfg inbound
  · rw [downlink_of_voiceDisabled hv]
    exact rfl
  obtain ⟨packets, hpackets, he⟩ := downlink_effects env s now hv
  have hidle : ∀ e ∈ packets, slotOp slot e = none := fun e h => by
    obtain ⟨packet, rfl⟩ := hpackets e h
    rfl
  rw [he, downlink_pending hv]
  dsimp only
  generalize ha : arrive env cfg s now inbound = a
  refine tracks_append (tracks_append (tracks_merge s now a slot) (tracks_idle hidle)) ?_
  split_ifs
  · unfold delivery
    cases hd : delays now a with
    | none => exact tracks_idle fun e h => by rw [List.mem_singleton.mp h]; rfl
    | some d =>
      obtain ⟨k, pending⟩ := d
      simp only [Option.elim_some]
      by_cases hk : k = slot
      · subst hk
        have hs : slotIndex a.slotNo = some k := by
          unfold delays at hd
          split_ifs at hd
          obtain ⟨k', hk', he'⟩ := Option.map_eq_some_iff.mp hd
          cases he'
          exact hk'
        rw [mergePending_slot hs, Function.update_self]
        exact tracks_put (if_pos rfl)
      · rw [Function.update_of_ne (Ne.symm hk)]
        exact tracks_idle fun e h => by rw [List.mem_singleton.mp h]; exact if_neg hk
  · exact rfl

theorem tick_tracks (s : State emb) (now : Time) (slot : Fin 2) :
    Tracks (slotOp slot) (s.pendingInboundTerminators slot) (tick env cfg s now).2
      ((tick env cfg s now).1.pendingInboundTerminators slot) := by
  unfold tick flushPendingInboundTerminators
  dsimp only
  refine tracks_append (tracks_flush _ now false slot) (tracks_idle fun e he => ?_)
  obtain ⟨entry, -, he⟩ := List.mem_flatMap.mp he
  obtain ⟨talkgroup, rfl | rfl⟩ := mem_expiryEffects he <;> rfl

theorem uplink_pending (link : Link) (s : State emb) (now : Time) (data : NetData) :
    (uplink env cfg link s now data).1.pendingInboundTerminators = s.pendingInboundTerminators := by
  refine uplink_state env cfg (fun s' => s'.pendingInboundTerminators =
    s.pendingInboundTerminators) rfl (fun _ h => h) (fun s' h => ?_) (fun s' h => ?_) fun _ h => h
  · unfold sendToBM
    split_ifs <;> exact h
  · unfold disconnectCommand
    split_ifs <;> exact h

/-- **Every step keeps track of the terminator that waits on a slot.** -/
theorem step_tracks (slot : Fin 2) (s : State emb) (e : Event) :
    Tracks (slotOp slot) (s.pendingInboundTerminators slot) (step env cfg s e).2
      ((step env cfg s e).1.pendingInboundTerminators slot) := by
  cases e with
  | tick now => exact tick_tracks env cfg s now slot
  | fne now link data =>
    rw [step, uplink_pending]
    exact tracks_idle fun e he => slotOp_of_fromFne (uplink_fromFne env cfg he)
  | bm now inbound => exact downlink_tracks env cfg s now inbound slot
  | stop now => exact tracks_flush s.pendingInboundTerminators now true slot

/-! ## Dropped terminators -/

/-- The frame belongs to the call of the terminator. -/
def Belongs (call : PendingTerminator) (data : NetData) : Prop :=
  data.srcId = call.srcId ∧ data.dstId = call.dstId ∧ data.flco = call.flco

instance (call : PendingTerminator) : DecidablePred (Belongs call) :=
  fun _ => inferInstanceAs (Decidable (_ ∧ _))

/-- A frame of the call is written to the FNE, or a terminator of the call waits. -/
def Effect.Continues (call : PendingTerminator) : Effect → Prop
  | .written data => Belongs call data
  | .delayed _ pending => Belongs call pending.data
  | _ => False

/-- Every terminator that waits is the next one on its slot to be written or dropped, and after one
is dropped its call continues. -/
def EveryTerminatorEnds (effects : List Effect) : Prop :=
  ∀ before slot pending after, effects = before ++ .delayed slot pending :: after →
    ∃ mid e rest, after = mid ++ e :: rest ∧ (∀ x ∈ mid, slotOp slot x = none) ∧
      (e = .flushed slot pending ∨
        (e = .merged slot pending ∧ ∃ x ∈ rest, x.Continues pending))

/-- The frame drops the terminator that waits on its slot. -/
def Releases (s : State emb) (slot : Fin 2) (pending : PendingTerminator) : Event → Prop
  | .bm now inbound =>
    ¬ VoiceDisabled cfg inbound ∧
      waiting s (arrive env cfg s now inbound) = some (slot, pending) ∧
      SameCall pending (arrive env cfg s now inbound) now
  | _ => False

/-- A frame of the call reaches the FNE. -/
def ReachesFor (s : State emb) (call : PendingTerminator) : Event → Prop
  | .bm now inbound =>
    Reaches env cfg s now inbound ∧ Belongs call (arrive env cfg s now inbound)
  | _ => False

/-- The frame is a header that is merged into the call. -/
def MergedHeader (s : State emb) : Event → Prop
  | .bm now inbound => HeaderMerged s now (arrive env cfg s now inbound)
  | _ => False

/-- The frame passes the checks and reaches the FNE. -/
def ReachesFne (s : State emb) : Event → Prop
  | .bm now inbound => Reaches env cfg s now inbound
  | _ => False

/-- The event is a frame of BrandMeister. -/
def Event.FromBm : Event → Prop
  | .bm _ _ => True
  | _ => False

/-- A frame that drops a terminator passes the checks that come after the drop. A header does not even
come to them; behind it the next frame of BrandMeister belongs to the call and passes them. -/
def PassesOn (s : State emb) (es : List Event) : Prop :=
  ∀ pre e post, es = pre ++ e :: post → ∀ slot pending,
    Releases env cfg (Run.final (step env cfg) s pre) slot pending e →
      ReachesFne env cfg (Run.final (step env cfg) s pre) e ∨
      (MergedHeader env cfg (Run.final (step env cfg) s pre) e ∧
        ∃ between next rest, post = between ++ next :: rest ∧ (∀ x ∈ between, ¬ x.FromBm) ∧
          ReachesFor env cfg (Run.final (step env cfg) s (pre ++ e :: between)) pending next)

variable {env cfg} {s : State emb} {e : Event} {slot : Fin 2} {pending : PendingTerminator}

theorem delivery_continues {now : Time} {inbound : NetData} {call : PendingTerminator} :
    (delivery now inbound).Continues call ↔ Belongs call inbound := by
  unfold delivery
  cases hd : delays now inbound with
  | none => exact Iff.rfl
  | some d =>
    unfold delays at hd
    split_ifs at hd
    obtain ⟨k, -, rfl⟩ := Option.map_eq_some_iff.mp hd
    exact Iff.rfl

theorem effects_of_releases (h : Releases env cfg s slot pending e) :
    ∃ rest, (step env cfg s e).2 = .merged slot pending :: rest ∧
      (∀ x ∈ rest, slotOp slot x ≠ some (.take pending)) := by
  cases e with
  | bm now inbound =>
    obtain ⟨hv, hw, hc⟩ := h
    obtain ⟨packets, hp, he⟩ := downlink_effects env s now hv
    have hm : (mergePending s now (arrive env cfg s now inbound)).2 = [.merged slot pending] := by
      unfold mergePending
      simp only [hw, if_pos hc]
    refine ⟨_, he.trans (by rw [hm, List.append_assoc, List.singleton_append]), ?_⟩
    intro x hx ht
    rcases List.mem_append.mp hx with hx | hx
    · obtain ⟨packet, rfl⟩ := hp x hx
      cases ht
    · split_ifs at hx
      · rw [List.mem_singleton.mp hx] at ht
        unfold delivery at ht
        rcases slotOp_eq_take ht with h | h <;> cases hd : delays now (arrive env cfg s now inbound)
          <;> rw [hd] at h <;> cases h
      · exact absurd hx List.not_mem_nil
  | _ => exact h.elim

/-- Only a frame that continues a call drops a terminator. -/
theorem releases_of_merged (h : .merged slot pending ∈ (step env cfg s e).2) :
    Releases env cfg s slot pending e := by
  cases e with
  | tick now =>
    rcases mem_tick env cfg h with ⟨k, p, h, -⟩ | ⟨talkgroup, h | h⟩ <;> cases h
  | fne now link data => exact (uplink_fromFne env cfg h).elim
  | bm now inbound =>
    have hv : ¬ VoiceDisabled cfg inbound := fun hv => by
      rw [step, downlink_of_voiceDisabled hv] at h
      exact absurd h List.not_mem_nil
    obtain ⟨packets, hp, he⟩ := downlink_effects env s now hv
    rw [step, he] at h
    rcases List.mem_append.mp h with h | h
    · rcases List.mem_append.mp h with h | h
      · obtain ⟨k, p, h | ⟨h, hw, hc⟩⟩ := mem_mergePending h
        · cases h
        · cases h
          exact ⟨hv, hw, hc⟩
      · obtain ⟨packet, h⟩ := hp _ h
        cases h
    · split_ifs at h
      · unfold delivery at h
        cases hd : delays now (arrive env cfg s now inbound) <;> rw [hd] at h <;>
          cases List.mem_singleton.mp h
      · exact absurd h List.not_mem_nil
  | stop now =>
    obtain ⟨k, p, h, -⟩ := mem_flush h
    cases h

theorem effects_after_merged {before after : List Effect}
    (h : (step env cfg s e).2 = before ++ .merged slot pending :: after) : before = [] := by
  obtain ⟨rest, hr, hn⟩ := effects_of_releases
    (releases_of_merged (h ▸ List.mem_append_right before List.mem_cons_self))
  cases before with
  | nil => rfl
  | cons x before =>
    rw [hr, List.cons_append, List.cons.injEq] at h
    exact absurd (if_pos rfl)
      (hn (.merged slot pending) (h.2 ▸ List.mem_append_right before List.mem_cons_self))

theorem continues_iff {call : PendingTerminator} :
    (∃ x ∈ (step env cfg s e).2, x.Continues call) ↔ ReachesFor env cfg s call e := by
  cases e with
  | tick now =>
    refine ⟨fun ⟨x, hx, hc⟩ => ?_, False.elim⟩
    obtain ⟨k, p, rfl, -⟩ | ⟨talkgroup, rfl | rfl⟩ := mem_tick env cfg hx <;> exact hc
  | fne now link data =>
    refine ⟨fun ⟨x, hx, hc⟩ => ?_, False.elim⟩
    have hf := uplink_fromFne env cfg hx
    cases x <;> first | exact hf | exact hc
  | bm now inbound =>
    by_cases hv : VoiceDisabled cfg inbound
    · refine ⟨fun ⟨x, hx, hc⟩ => ?_, fun h => absurd hv h.1.1⟩
      rw [step, downlink_of_voiceDisabled hv] at hx
      exact absurd hx List.not_mem_nil
    obtain ⟨packets, hp, he⟩ := downlink_effects env s now hv
    rw [step, he, ReachesFor]
    constructor
    · rintro ⟨x, hx, hc⟩
      rcases List.mem_append.mp hx with hx | hx
      · rcases List.mem_append.mp hx with hx | hx
        · obtain ⟨k, p, rfl | ⟨rfl, -⟩⟩ := mem_mergePending hx <;> exact hc.elim
        · obtain ⟨packet, rfl⟩ := hp x hx
          exact hc.elim
      · split_ifs at hx with hr
        · rw [List.mem_singleton.mp hx] at hc
          exact ⟨hr, delivery_continues.mp hc⟩
        · exact absurd hx List.not_mem_nil
    · rintro ⟨hr, hb⟩
      rw [if_pos hr]
      exact ⟨_, List.mem_append_right _ (List.mem_singleton.mpr rfl), delivery_continues.mpr hb⟩
  | stop now =>
    refine ⟨fun ⟨x, hx, hc⟩ => ?_, False.elim⟩
    obtain ⟨k, p, rfl, -⟩ := mem_flush hx
    exact hc

/-! ## Runs -/

theorem waiting_of_releases (h : Releases env cfg s slot pending e) :
    s.pendingInboundTerminators slot = some pending := by
  cases e with
  | bm now inbound => exact pending_of_waiting h.2.1
  | _ => exact h.elim

/-- A frame that drops a terminator belongs to its call. -/
theorem reachesFor_of_releases (h : Releases env cfg s slot pending e)
    (hp : ReachesFne env cfg s e) : ReachesFor env cfg s pending e := by
  cases e with
  | bm now inbound =>
    obtain ⟨-, -, hsrc, hdst, hflco, -⟩ := h
    exact ⟨hp, hsrc.symm, hdst.symm, hflco.symm⟩
  | _ => exact h.elim

theorem slotOp_delayed : slotOp slot (.delayed slot pending) = some (.put pending) := if_pos rfl

/-- **A run ends its calls** when every dropped terminator is made up for: a terminator that waits is
taken, and when it is dropped a later step continues its call. -/
theorem ends_of_continued {es : List Event} (hempty : ∀ slot, s.pendingInboundTerminators slot = none)
    (hend : ∀ slot, (Run.final (step env cfg) s es).pendingInboundTerminators slot = none)
    (h : ∀ pre e post, es = pre ++ e :: post → ∀ slot pending,
      Releases env cfg (Run.final (step env cfg) s pre) slot pending e →
        ∃ pre' e' post', e :: post = pre' ++ e' :: post' ∧
          ReachesFor env cfg (Run.final (step env cfg) s (pre ++ pre')) pending e') :
    EveryTerminatorEnds (Run.outputs (step env cfg) s es) := by
  intro before slot pending after hout
  have htrack := tracks_run (step_tracks env cfg slot) es s
  rw [hempty, hend, hout, tracks_append_iff] at htrack
  obtain ⟨c, -, hafter⟩ := htrack
  obtain ⟨mid, x, rest, rfl, hmid, hx⟩ :=
    exists_take ((tracks_cons_put slotOp_delayed).mp hafter).2
  refine ⟨mid, x, rest, rfl, hmid, ?_⟩
  rcases slotOp_eq_take hx with rfl | rfl
  · exact Or.inl rfl
  refine Or.inr ⟨rfl, ?_⟩
  have hout' : Run.outputs (step env cfg) s es =
      (before ++ .delayed slot pending :: mid) ++ .merged slot pending :: rest := by
    rw [hout, List.append_assoc, List.cons_append]
  obtain ⟨pre, e, post, before', after', rfl, hs, -, rfl⟩ := Run.exists_step_of_outputs_eq _ hout'
  have hrel := releases_of_merged (hs ▸ List.mem_append_right before' List.mem_cons_self)
  obtain ⟨pre', e', post', hsplit, hreach⟩ := h pre e post rfl slot pending hrel
  obtain ⟨y, hy, hcont⟩ := continues_iff.mpr hreach
  cases pre' with
  | nil =>
    rw [List.nil_append, List.cons.injEq] at hsplit
    obtain ⟨rfl, -⟩ := hsplit
    rw [List.append_nil, hs, effects_after_merged hs, List.nil_append] at hy
    refine ⟨y, List.mem_append_left _ ((List.mem_cons.mp hy).resolve_left ?_), hcont⟩
    rintro rfl
    exact hcont
  | cons e₀ pre' =>
    rw [List.cons_append, List.cons.injEq] at hsplit
    obtain ⟨rfl, rfl⟩ := hsplit
    rw [Run.final_append, Run.final_cons] at hy
    refine ⟨y, List.mem_append_right _ ?_, hcont⟩
    rw [Run.outputs_append_cons]
    exact List.mem_append_right _ (List.mem_append_left _ hy)

variable (env cfg) in
/-- **Every terminator ends its call when each frame that drops one passes the checks.** A run starts
with the dynamic talkgroups a gateway restored and ends with the stop of the loop. -/
theorem everyTerminatorEnds_of_passesOn (embeddedLC : emb) (restored : Dict ℕ Time)
    (es : List Event) (t : Time)
    (h : PassesOn env cfg (State.init embeddedLC restored) (es ++ [.stop t])) :
    EveryTerminatorEnds (Run.outputs (step env cfg) (State.init embeddedLC restored)
      (es ++ [.stop t])) := by
  have hend : ∀ slot, (Run.final (step env cfg) (State.init embeddedLC restored)
      (es ++ [.stop t])).pendingInboundTerminators slot = none := fun slot => by
    rw [Run.final_concat]
    exact stillWaiting_force _ t slot
  refine ends_of_continued (fun _ => rfl) hend fun pre e post hes slot pending hrel => ?_
  rcases h pre e post hes slot pending hrel with hreach | ⟨-, between, next, rest, rfl, -, hreach⟩
  · refine ⟨[], e, post, rfl, ?_⟩
    rw [List.append_nil]
    exact reachesFor_of_releases hrel hreach
  · exact ⟨e :: between, next, rest, rfl, hreach⟩

/-- A call is restarted within the merge window, its header is merged, and it ends with two
terminators. -/
def restartedCall : List Event :=
  [.bm 0 (sampleFrame .TERMINATOR_WITH_LC 91 9),
    .bm (milliseconds 100) (sampleFrame .VOICE_LC_HEADER 91 10), .tick (milliseconds 160),
    .bm (milliseconds 160) (sampleFrame .VOICE_SYNC 91 11),
    .bm (milliseconds 220) (sampleFrame .TERMINATOR_WITH_LC 91 12),
    .bm (milliseconds 280) (sampleFrame .TERMINATOR_WITH_LC 91 13)]

/-- A terminator of talkgroup 91 that waits. -/
def sampleTerminator (seqNo : ℕ) (expiresAt : Time) : PendingTerminator where
  data := sampleFrame .TERMINATOR_WITH_LC 91 seqNo
  srcId := 2621001
  dstId := 91
  flco := .GROUP
  expiresAt := expiresAt

theorem passesOn_restarted : PassesOn sampleEnvironment sampleConfig (State.init () Dict.empty)
    (restartedCall ++ [.stop (seconds 1)]) := by
  rintro pre e post hes slot pending hrel
  have hwait := waiting_of_releases hrel
  rcases pre with _ | ⟨e₁, _ | ⟨e₂, _ | ⟨e₃, _ | ⟨e₄, _ | ⟨e₅, _ | ⟨e₆, pre⟩⟩⟩⟩⟩⟩ <;>
    simp only [restartedCall, List.cons_append, List.nil_append, List.cons.injEq] at hes
  -- the first terminator
  · exact absurd hwait.symm (Option.some_ne_none _)
  -- the header, behind which the voice passes
  · obtain ⟨rfl, rfl, rfl⟩ := hes
    have hw := hrel.2.1.symm.trans
      (show _ = some (1, sampleTerminator 9 (milliseconds 250)) by decide +kernel)
    obtain ⟨rfl, rfl⟩ := Prod.mk.inj (Option.some.inj hw)
    refine Or.inr ⟨?_, [.tick (milliseconds 160)],
      .bm (milliseconds 160) (sampleFrame .VOICE_SYNC 91 11), _, rfl, ?_,
      by decide +kernel, by decide +kernel⟩
    · show HeaderMerged _ _ _
      decide +kernel
    · rintro x hx
      rw [List.mem_singleton.mp hx]
      exact id
  · obtain ⟨rfl, rfl, rfl, rfl⟩ := hes
    exact hrel.elim
  -- nothing waits when the voice and the second terminator come
  · obtain ⟨rfl, rfl, rfl, -⟩ := hes
    have hnone : ∀ slot, (Run.final (step sampleEnvironment sampleConfig) (State.init () Dict.empty)
        [.bm 0 (sampleFrame .TERMINATOR_WITH_LC 91 9),
          .bm (milliseconds 100) (sampleFrame .VOICE_LC_HEADER 91 10),
          .tick (milliseconds 160)]).pendingInboundTerminators slot = none := by decide +kernel
    exact absurd (hwait.symm.trans (hnone slot)) (Option.some_ne_none _)
  · obtain ⟨rfl, rfl, rfl, rfl, -⟩ := hes
    have hnone : ∀ slot, (Run.final (step sampleEnvironment sampleConfig) (State.init () Dict.empty)
        [.bm 0 (sampleFrame .TERMINATOR_WITH_LC 91 9),
          .bm (milliseconds 100) (sampleFrame .VOICE_LC_HEADER 91 10), .tick (milliseconds 160),
          .bm (milliseconds 160) (sampleFrame .VOICE_SYNC 91 11)]).pendingInboundTerminators slot =
            none := by decide +kernel
    exact absurd (hwait.symm.trans (hnone slot)) (Option.some_ne_none _)
  -- the third terminator passes
  · obtain ⟨rfl, rfl, rfl, rfl, rfl, rfl, rfl⟩ := hes
    have hw := hrel.2.1.symm.trans
      (show _ = some (1, sampleTerminator 12 (milliseconds 470)) by decide +kernel)
    obtain ⟨rfl, rfl⟩ := Prod.mk.inj (Option.some.inj hw)
    refine Or.inl ?_
    show Reaches _ _ _ _ _
    decide +kernel
  · obtain ⟨-, -, -, -, -, -, hes⟩ := hes
    rcases pre with _ | ⟨e₇, pre⟩
    · obtain ⟨rfl, -⟩ := List.cons.inj hes
      exact hrel.elim
    · exact absurd (List.cons.inj hes).2.symm
        (List.append_ne_nil_of_right_ne_nil _ (List.cons_ne_nil _ _))

theorem everyTerminatorEnds_restarted : EveryTerminatorEnds
    (Run.outputs (step sampleEnvironment sampleConfig) (State.init () Dict.empty)
      (restartedCall ++ [.stop (seconds 1)])) :=
  everyTerminatorEnds_of_passesOn sampleEnvironment sampleConfig () Dict.empty restartedCall
    (seconds 1) passesOn_restarted

/-- The run in which a terminator is received twice within ten milliseconds. -/
def repeatedTerminator : List Event :=
  [.tick 0, .bm 0 (sampleFrame .TERMINATOR_WITH_LC 91 9), .tick (milliseconds 10),
    .bm (milliseconds 10) (sampleFrame .TERMINATOR_WITH_LC 91 9)]

/-- **A terminator is lost.** The second copy drops the one that waits and is then dropped itself as
a duplicate, so the call has no end. -/
theorem not_everyTerminatorEnds_repeated :
    ¬ EveryTerminatorEnds (Run.outputs (step sampleEnvironment sampleConfig)
      (State.init () Dict.empty) (repeatedTerminator ++ [.stop (seconds 1)])) := by
  intro h
  obtain ⟨mid, e, rest, hafter, -, he⟩ := h [] 1
    { data := sampleFrame .TERMINATOR_WITH_LC 91 9
      srcId := 2621001
      dstId := 91
      flco := .GROUP
      expiresAt := milliseconds 250 }
    [.merged 1
      { data := sampleFrame .TERMINATOR_WITH_LC 91 9
        srcId := 2621001
        dstId := 91
        flco := .GROUP
        expiresAt := milliseconds 250 }] (by decide +kernel)
  have hlength := congrArg List.length hafter
  rw [List.length_singleton, List.length_append, List.length_cons] at hlength
  obtain rfl : mid = [] := List.eq_nil_of_length_eq_zero (by omega)
  obtain rfl : rest = [] := List.eq_nil_of_length_eq_zero (by omega)
  rw [List.nil_append, List.cons.injEq] at hafter
  rcases he with he | ⟨-, x, hx, -⟩
  · rw [he] at hafter
    cases hafter.1
  · exact absurd hx List.not_mem_nil

end Routing
