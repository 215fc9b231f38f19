import QuantarBridge.Brew.Channel

/-!
# Calls that have ended are released

The playout loop removes an entry and closes its decoder when the call has ended and its voice has been
played. It looks only at the call that is being played, and it takes up a call only when voice of the
call is waiting. So a call that ends while nothing of it is waiting and while it is not being played is
never looked at again.

* `InReach`: every entry that has ended is being played or has voice waiting, `inReach_step`: what
  keeps it so;
* `ClosedOnce`, `closedOnce_run`: **every decoder is closed once**, together with the entry it belongs
  to;
* `released_of_heard`: **the theorem about every run**, `stranded_turns`: the defect is for good.
-/

set_option autoImplicit false

namespace Brew

open Lib

/-! ## Decoders are closed once -/

/-- Every decoder is closed before the next one is opened, and the last one is open when the call has an
entry. -/
def ClosedOnce (log : List DecoderEvent) (present : Bool) : Prop :=
  ∃ n, log = (List.replicate n [DecoderEvent.opened, .closed]).flatten ++
    if present then [.opened] else []

theorem ClosedOnce.opened {log : List DecoderEvent} (h : ClosedOnce log false) :
    ClosedOnce (log ++ [.opened]) true := by
  obtain ⟨n, rfl⟩ := h
  exact ⟨n, by simp⟩

theorem ClosedOnce.closed {log : List DecoderEvent} (h : ClosedOnce log true) :
    ClosedOnce (log ++ [.closed]) false := by
  obtain ⟨n, rfl⟩ := h
  refine ⟨n + 1, ?_⟩
  simp [List.replicate_succ', List.flatten_append]

/-- What a change of the entries does with the decoders of a call. -/
def Change.decoderLog (callUuid : Bytes) : Change → List DecoderEvent
  | .started u => if u = callUuid then [.opened] else []
  | .removed u => if u = callUuid then [.closed] else []
  | _ => []

/-- The entry that a change marks as ended. -/
def Change.endedUuid : Change → Option Bytes
  | .endedCall callUuid => some callUuid
  | _ => none

namespace AudioBridge

variable (cfg : AudioConfig) {s : AudioBridge}

theorem Touched.decoderLog {r : AudioBridge × List BridgeEffect} {ch : Change}
    (h : s.Touched r ch) (k : Bytes) : decoderLog k r.2 = ch.decoderLog k := by
  cases h with
  | kept _ hlog => exact hlog k
  | resumed u source _ hlog => exact hlog k
  | started u call _ _ heffects =>
    rw [heffects]
    by_cases hu : u = k <;> simp [Brew.decoderLog, Change.decoderLog, decoderEvent, hu]
  | ended u _ hlog => exact hlog k
  | queued u f _ _ hlog => exact hlog k

theorem Turn.decoderLog {r : AudioBridge × List BridgeEffect} {ch : Change} (h : s.Turn r ch)
    (k : Bytes) : decoderLog k r.2 = ch.decoderLog k := by
  cases h with
  | idle _ => rfl
  | missing _ _ _ => rfl
  | played _ _ _ _ _ _ _ => rfl
  | removed u call _ _ _ =>
    by_cases hu : u = k <;> simp [Brew.decoderLog, Change.decoderLog, decoderEvent, hu]
  | underrun _ _ _ _ _ => rfl
  | waiting _ _ _ _ _ => rfl

/-- Every event opens and closes the decoders of the entries that it starts and removes. -/
theorem decoderLog_bridgeStep (e : BrewEvent) (k : Bytes) :
    decoderLog k (bridgeStep cfg s e).2 = (s.change cfg e).decoderLog k := by
  cases e with
  | frame c o frame => exact (touched_onBrewBinary cfg c o frame).2.decoderLog k
  | playout now => exact (turn_playout cfg now).decoderLog k
  | disconnected => rfl
  | routes router => rfl
  | registered localIssis => rfl
  | uplink active => rfl
  | owned callUuid expiry => rfl

theorem Turn.ended {r : AudioBridge × List BridgeEffect} {callUuid : Bytes}
    (h : s.Turn r (.removed callUuid)) : s.flags callUuid = some true := by
  cases h with
  | removed _ call _ hget hended =>
    show (s.downlinkCalls.get? callUuid).map _ = some true
    rw [hget, Option.map_some, hended]

theorem change_removed {e : BrewEvent} {callUuid : Bytes}
    (h : s.change cfg e = .removed callUuid) : s.flags callUuid = some true := by
  cases e with
  | frame c o frame =>
    have ht := (touched_onBrewBinary (s := s) cfg c o frame).2
    rw [show s.frameChange c frame = .removed callUuid from h] at ht
    cases ht
  | playout now =>
    have ht := turn_playout (s := s) cfg now
    rw [show s.playoutChange cfg = .removed callUuid from h] at ht
    rw [← flags_chooseDownlink cfg]
    exact ht.ended
  | disconnected => exact Change.noConfusion h
  | routes router => exact Change.noConfusion h
  | registered localIssis => exact Change.noConfusion h
  | uplink active => exact Change.noConfusion h
  | owned u expiry => exact Change.noConfusion h

theorem closedOnce_step (k : Bytes) (effects : List BridgeEffect) (e : BrewEvent)
    (h : ClosedOnce (decoderLog k effects) (s.flags k).isSome) :
    ClosedOnce (decoderLog k (effects ++ (bridgeStep cfg s e).2))
      ((bridgeStep cfg s e).1.flags k).isSome := by
  rw [decoderLog_append, decoderLog_bridgeStep, flags_bridgeStep]
  cases hch : s.change cfg e with
  | kept => simpa [Change.decoderLog, Change.apply] using h
  | started u =>
    by_cases hk : k = u
    · subst hk
      rw [(change_started cfg hch).1] at h
      simpa [Change.decoderLog, Change.apply] using h.opened
    · simpa [Change.decoderLog, Change.apply, hk, Ne.symm hk] using h
  | resumed u =>
    by_cases hk : k = u <;> simpa [Change.decoderLog, Change.apply, hk] using h
  | endedCall u =>
    by_cases hk : k = u <;> simpa [Change.decoderLog, Change.apply, hk] using h
  | removed u =>
    by_cases hk : k = u
    · subst hk
      rw [change_removed cfg hch] at h
      simpa [Change.decoderLog, Change.apply] using h.closed
    · simpa [Change.decoderLog, Change.apply, hk, Ne.symm hk] using h

/-- **Every decoder is closed once**, together with the entry it belongs to. -/
theorem closedOnce_run (router : TalkgroupRouter) (localIssis : Finset ℕ) (events : List BrewEvent)
    (k : Bytes) :
    ClosedOnce (decoderLog k (Run.outputs (bridgeStep cfg) (init router localIssis) events))
      ((Run.final (bridgeStep cfg) (init router localIssis) events).flags k).isSome :=
  Run.outputs_of_step
    (fun (effects : List BridgeEffect) (s : AudioBridge) =>
      ClosedOnce (decoderLog k effects) (s.flags k).isSome)
    (fun effects _ e h => closedOnce_step cfg k effects e h) events [] _ ⟨0, rfl⟩

/-! ## Entries within reach of the loop -/

/-- An entry that has ended, has no voice waiting and is not being played. -/
def Stranded (s : AudioBridge) (callUuid : Bytes) : Prop :=
  s.activeDownlinkUuid ≠ some callUuid ∧
    ∃ call ∈ s.downlinkCalls.get? callUuid, call.ended = true ∧ call.frames = []

/-- No entry is out of reach of the loop. -/
def InReach (s : AudioBridge) : Prop := ∀ callUuid, ¬ s.Stranded callUuid

/-- The event ends a call that has no voice waiting and is not being played. -/
def EndsUnheard (s : AudioBridge) (e : BrewEvent) : Prop :=
  ∃ callUuid ∈ (s.change cfg e).endedUuid, s.activeDownlinkUuid ≠ some callUuid ∧
    ∃ call ∈ s.downlinkCalls.get? callUuid, call.frames = []

instance (e : BrewEvent) : Decidable (s.EndsUnheard cfg e) :=
  inferInstanceAs (Decidable (∃ callUuid ∈ (s.change cfg e).endedUuid,
    s.activeDownlinkUuid ≠ some callUuid ∧ ∃ call ∈ s.downlinkCalls.get? callUuid, call.frames = []))

theorem InReach.of_modify {s s' : AudioBridge} {callUuid : Bytes} {f : DownlinkCall → DownlinkCall}
    (h : s.InReach) (hactive : s'.activeDownlinkUuid = s.activeDownlinkUuid)
    (hcalls : s'.downlinkCalls = s.downlinkCalls.modify callUuid f)
    (hf : s.activeDownlinkUuid ≠ some callUuid → ∀ call ∈ s.downlinkCalls.get? callUuid,
      (f call).ended = true → (f call).frames ≠ []) : s'.InReach := by
  rintro k ⟨hk, call, hget, hended, hframes⟩
  rw [hactive] at hk
  rw [Option.mem_def, hcalls, Dict.get?_modify] at hget
  split_ifs at hget with hku
  · subst hku
    obtain ⟨call₀, hget₀, rfl⟩ := Option.map_eq_some_iff.mp hget
    exact hf hk call₀ hget₀ hended hframes
  · exact h k ⟨hk, call, hget, hended, hframes⟩

/-- A frame strands an entry exactly when it ends it unheard. -/
theorem inReach_frame (c : Readings) (o : Outcomes) (frame : Bytes) (h : s.InReach) :
    (s.onBrewBinary cfg c o frame).1.InReach ↔ ¬ s.EndsUnheard cfg (.frame c o frame) := by
  obtain ⟨hactive, ht⟩ := touched_onBrewBinary (s := s) cfg c o frame
  unfold EndsUnheard
  rw [show s.change cfg (.frame c o frame) = s.frameChange c frame from rfl]
  generalize s.onBrewBinary cfg c o frame = r at hactive ht
  generalize s.frameChange c frame = ch at ht
  cases ht with
  | kept hcalls _ =>
    refine iff_of_true ?_ fun ⟨_, hch, _⟩ => Option.some_ne_none _ hch.symm
    unfold InReach Stranded
    rw [hactive, hcalls]
    exact h
  | resumed u source hcalls _ =>
    refine iff_of_true ?_ fun ⟨_, hch, _⟩ => Option.some_ne_none _ hch.symm
    exact h.of_modify hactive hcalls fun _ _ _ he => absurd he Bool.false_ne_true
  | started u call hended hcalls _ =>
    refine iff_of_true ?_ fun ⟨_, hch, _⟩ => Option.some_ne_none _ hch.symm
    rintro k ⟨hk, call', hget, hended', hframes⟩
    rw [hactive] at hk
    rw [Option.mem_def, hcalls, Dict.get?_set] at hget
    split_ifs at hget with hku
    · obtain rfl := Option.some.inj hget
      exact Bool.false_ne_true (hended.symm.trans hended')
    · exact h k ⟨hk, call', hget, hended', hframes⟩
  | ended u hcalls _ =>
    constructor
    · rintro hr ⟨_, hch, hk, call, hget, hframes⟩
      obtain rfl := Option.some.inj hch
      refine hr u ⟨hactive ▸ hk, { call with ended := true }, ?_, rfl, hframes⟩
      rw [Option.mem_def, hcalls, Dict.get?_modify, if_pos rfl, Option.mem_def.mp hget]
      rfl
    · intro hno
      refine h.of_modify hactive hcalls fun hk call hget _ hframes => hno ⟨u, rfl, hk, call, hget, ?_⟩
      exact hframes
  | queued u f hf hcalls _ =>
    refine iff_of_true ?_ fun ⟨_, hch, _⟩ => Option.some_ne_none _ hch.symm
    exact h.of_modify hactive hcalls fun _ call _ _ => (hf call).2

theorem inReach_chooseDownlink (h : s.InReach) : (s.chooseDownlink cfg).InReach := by
  unfold chooseDownlink
  by_cases ha : s.activeDownlinkUuid.isSome = true
  · rw [if_pos ha]
    exact h
  rw [if_neg ha]
  have hnone : s.activeDownlinkUuid = none := Option.not_isSome_iff_eq_none.mp ha
  dsimp only
  split
  · exact h
  rename_i e _
  rintro k ⟨-, call, hget, hended, hframes⟩
  rw [Option.mem_def, Dict.get?_modify] at hget
  have hne : s.activeDownlinkUuid ≠ some k := hnone ▸ (Option.some_ne_none k).symm
  split_ifs at hget with hk
  · obtain ⟨call₀, hget₀, rfl⟩ := Option.map_eq_some_iff.mp hget
    exact h k ⟨hne, call₀, hget₀, hended, hframes⟩
  · exact h k ⟨hne, call, hget, hended, hframes⟩

theorem Turn.inReach {r : AudioBridge × List BridgeEffect} {ch : Change} (ht : s.Turn r ch)
    (h : s.InReach) : r.1.InReach := by
  cases ht with
  | idle _ => exact h
  | missing u hactive hget =>
    rintro k ⟨-, call, hgetk, hended, hframes⟩
    refine h k ⟨fun hk => ?_, call, hgetk, hended, hframes⟩
    obtain rfl := Option.some.inj (hactive.symm.trans hk)
    exact Option.some_ne_none _ (hgetk.symm.trans hget)
  | played u call ste rest hactive _ _ =>
    exact h.of_modify (f := fun call => { call with frames := rest }) rfl rfl
      fun hu => absurd hactive hu
  | removed u call hactive _ _ =>
    rintro k ⟨-, call', hget, hended, hframes⟩
    rw [Option.mem_def, Dict.get?_erase] at hget
    split_ifs at hget with hk
    refine h k ⟨fun ha => hk ?_, call', hget, hended, hframes⟩
    exact Option.some.inj (ha.symm.trans hactive)
  | underrun u call hactive hgetu hendedu =>
    rintro k ⟨-, call', hget, hended, hframes⟩
    rw [Option.mem_def, Dict.get?_modify] at hget
    split_ifs at hget with hk
    · subst hk
      rw [hgetu, Option.map_some, Option.some.injEq] at hget
      subst hget
      exact Bool.false_ne_true (hendedu.symm.trans hended)
    · refine h k ⟨fun ha => hk ?_, call', hget, hended, hframes⟩
      exact Option.some.inj (ha.symm.trans hactive)
  | waiting _ _ _ _ _ => exact h

/-- **One event** strands no entry exactly when it ends no call unheard. -/
theorem inReach_step (e : BrewEvent) (h : s.InReach) :
    (bridgeStep cfg s e).1.InReach ↔ ¬ s.EndsUnheard cfg e := by
  cases e with
  | frame c o frame => exact inReach_frame cfg c o frame h
  | playout now =>
    refine iff_of_true ((turn_playout cfg now).inReach (inReach_chooseDownlink cfg h)) ?_
    rintro ⟨u, hch, -⟩
    rcases playoutChange_cases cfg (s := s) with hk | ⟨v, hr⟩
    · exact Option.some_ne_none u (hch.symm.trans (congrArg Change.endedUuid hk))
    · exact Option.some_ne_none u (hch.symm.trans (congrArg Change.endedUuid hr))
  | disconnected => exact iff_of_true h fun ⟨_, hch, _⟩ => Option.some_ne_none _ hch.symm
  | routes router => exact iff_of_true h fun ⟨_, hch, _⟩ => Option.some_ne_none _ hch.symm
  | registered localIssis => exact iff_of_true h fun ⟨_, hch, _⟩ => Option.some_ne_none _ hch.symm
  | uplink active => exact iff_of_true h fun ⟨_, hch, _⟩ => Option.some_ne_none _ hch.symm
  | owned callUuid expiry => exact iff_of_true h fun ⟨_, hch, _⟩ => Option.some_ne_none _ hch.symm

/-! ## Every run -/

/-- No voice is waiting. -/
def QueuesEmpty (s : AudioBridge) : Prop :=
  ∀ callUuid, ∀ call ∈ s.downlinkCalls.get? callUuid, call.frames = []

/-- No entry has ended. -/
def NoneEnded (s : AudioBridge) : Prop := ∀ callUuid, s.flags callUuid ≠ some true

theorem noneEnded_playout_of_noneEnded (now : Time) (h : s.NoneEnded) :
    (s.playout cfg now).1.NoneEnded := by
  intro k hk
  rw [flags_playout] at hk
  rcases playoutChange_cases cfg (s := s) with hch | ⟨u, hch⟩
  · rw [hch] at hk
    exact h k hk
  · rw [hch] at hk
    by_cases hku : k = u
    · exact Option.some_ne_none _ (hk.symm.trans (if_pos hku))
    · exact h k ((if_neg hku).symm.trans hk)

theorem queuesEmpty_chooseDownlink (h : s.QueuesEmpty) : (s.chooseDownlink cfg).QueuesEmpty := by
  unfold chooseDownlink
  by_cases ha : s.activeDownlinkUuid.isSome = true
  · rw [if_pos ha]
    exact h
  rw [if_neg ha]
  dsimp only
  split
  · exact h
  rename_i e _
  intro k call hget
  rw [Option.mem_def, Dict.get?_modify] at hget
  split_ifs at hget with hk
  · obtain ⟨call₀, hget₀, rfl⟩ := Option.map_eq_some_iff.mp hget
    exact h k call₀ hget₀
  · exact h k call hget

/-- The entry that is being played is removed when it has ended and no voice is waiting. -/
theorem Turn.change_eq_removed {r : AudioBridge × List BridgeEffect} {ch : Change} {callUuid : Bytes}
    {call : DownlinkCall} (ht : s.Turn r ch) (hactive : s.activeDownlinkUuid = some callUuid)
    (hget : s.downlinkCalls.get? callUuid = some call) (hended : call.ended = true)
    (hframes : call.frames = []) : ch = .removed callUuid := by
  have same : ∀ {u : Bytes} {other : DownlinkCall}, s.activeDownlinkUuid = some u →
      s.downlinkCalls.get? u = some other → u = callUuid ∧ other = call := by
    intro u other hu ho
    obtain rfl := Option.some.inj (hu.symm.trans hactive)
    exact ⟨rfl, Option.some.inj (ho.symm.trans hget)⟩
  cases ht with
  | idle ha => exact absurd (hactive.symm.trans ha) (Option.some_ne_none _)
  | missing u ha hg =>
    obtain rfl := Option.some.inj (ha.symm.trans hactive)
    exact absurd (hget.symm.trans hg) (Option.some_ne_none _)
  | played u other ste rest ha hg hf =>
    obtain ⟨-, rfl⟩ := same ha hg
    exact absurd (hf.symm.trans hframes) (List.cons_ne_nil _ _)
  | removed u other ha hg _ => rw [(same ha hg).1]
  | underrun u other ha hg he =>
    obtain ⟨-, rfl⟩ := same ha hg
    exact absurd (he.symm.trans hended) Bool.false_ne_true
  | waiting u other ha hg he =>
    obtain ⟨-, rfl⟩ := same ha hg
    exact absurd (he.symm.trans hended) Bool.false_ne_true

/-- **A turn with all queues empty** leaves no entry that has ended, when all are within reach. -/
theorem noneEnded_playout (now : Time) (hreach : s.InReach) (hempty : s.QueuesEmpty) :
    (s.playout cfg now).1.NoneEnded := by
  intro k hk
  have ht := turn_playout (s := s) cfg now
  rw [ht.flags] at hk
  have hreach' := inReach_chooseDownlink cfg hreach
  have hempty' := queuesEmpty_chooseDownlink cfg hempty
  generalize s.chooseDownlink cfg = s' at ht hk hreach' hempty'
  -- the entry had ended before the turn, so it is the one being played, and the turn removes it
  have hbefore : s'.flags k = some true := by
    rcases playoutChange_cases cfg (s := s) with hch | ⟨u, hch⟩
    · rw [hch] at hk
      exact hk
    · rw [hch] at hk
      by_cases hku : k = u
      · exact absurd (hk.symm.trans (if_pos hku)) (Option.some_ne_none _)
      · exact (if_neg hku).symm.trans hk
  obtain ⟨call, hget, hended⟩ := Option.map_eq_some_iff.mp hbefore
  have hframes := hempty' k call hget
  have hactive : s'.activeDownlinkUuid = some k := by
    by_contra hne
    exact hreach' k ⟨hne, call, hget, hended, hframes⟩
  rw [ht.change_eq_removed hactive hget hended hframes] at hk
  exact Option.some_ne_none _ (hk.symm.trans (if_pos rfl))

theorem noneEnded_turns (times : List Time) (h : s.NoneEnded) :
    (Run.final (bridgeStep cfg) s (times.map BrewEvent.playout)).NoneEnded := by
  induction times generalizing s with
  | nil => exact h
  | cons now times ih =>
    rw [List.map_cons, Run.final_cons]
    exact ih (noneEnded_playout_of_noneEnded cfg now h)

/-- **Every finished call is released**, in every run in which no call ends unheard: when the playout
loop runs with all queues empty, no entry that has ended is left, and every decoder has been closed
once, except the decoder of a call that goes on. -/
theorem released_of_heard (router : TalkgroupRouter) (localIssis : Finset ℕ)
    (events : List BrewEvent)
    (h : Run.Along (bridgeStep cfg) (fun s e => ¬ s.EndsUnheard cfg e) (init router localIssis) events)
    (hempty : (Run.final (bridgeStep cfg) (init router localIssis) events).QueuesEmpty)
    (now : Time) (later : List Time) :
    let turns := events ++ (now :: later).map BrewEvent.playout
    let s := Run.final (bridgeStep cfg) (init router localIssis) turns
    s.NoneEnded ∧ ∀ callUuid,
      ClosedOnce (decoderLog callUuid (Run.outputs (bridgeStep cfg) (init router localIssis) turns))
        (s.Live callUuid) := by
  have hinit : (init router localIssis).InReach := fun _ ⟨_, _, hget, _⟩ =>
    Option.some_ne_none _ hget.symm
  have hreach : (Run.final (bridgeStep cfg) (init router localIssis) events).InReach :=
    Run.final_of_along InReach (fun s e hc hs => (inReach_step cfg e hs).mpr hc) events _ h hinit
  intro turns s
  have hnone : s.NoneEnded := by
    show (Run.final (bridgeStep cfg) (init router localIssis)
      (events ++ (now :: later).map BrewEvent.playout)).NoneEnded
    rw [Run.final_append, List.map_cons, Run.final_cons]
    exact noneEnded_turns cfg later (noneEnded_playout cfg now hreach hempty)
  refine ⟨hnone, fun k => ?_⟩
  have hclosed := closedOnce_run cfg router localIssis turns k
  have hlive : (s.flags k).isSome = decide (s.Live k) := by
    have hk := hnone k
    show (s.flags k).isSome = decide (s.flags k = some false)
    revert hk
    rcases s.flags k with _ | _ | _ <;> simp
  rw [← hlive]
  exact hclosed

/-! ## A call that ends unheard -/

/-- **No entry is stranded** in any state of a run exactly when no call ends unheard. -/
theorem inReach_iff (router : TalkgroupRouter) (localIssis : Finset ℕ) (events : List BrewEvent) :
    (∀ pre post, events = pre ++ post →
      (Run.final (bridgeStep cfg) (init router localIssis) pre).InReach) ↔
      Run.Along (bridgeStep cfg) (fun s e => ¬ s.EndsUnheard cfg e) (init router localIssis) events :=
  Run.forall_final_iff_along InReach (fun _ e h => inReach_step cfg e h) events _
    fun _ ⟨_, _, hget, _⟩ => Option.some_ne_none _ hget.symm

theorem stranded_chooseDownlink {callUuid : Bytes} (hjitter : 0 < cfg.jitterFrames)
    (hrebuffer : 0 < cfg.rebufferFrames) (h : s.Stranded callUuid) :
    (s.chooseDownlink cfg).Stranded callUuid := by
  unfold chooseDownlink
  by_cases ha : s.activeDownlinkUuid.isSome = true
  · rw [if_pos ha]
    exact h
  rw [if_neg ha]
  dsimp only
  split
  · exact h
  rename_i e hfind
  obtain ⟨-, call, hget, hended, hframes⟩ := h
  have hplayable := List.find?_some hfind
  have hmem : (e.1, e.2) ∈ s.downlinkCalls.entries :=
    List.mem_mergeSort.mp (List.mem_of_find?_eq_some hfind)
  have hne : callUuid ≠ e.1 := by
    rintro rfl
    obtain rfl := Option.some.inj (hget.symm.trans ((Dict.mem_entries_iff _ _ _).mp hmem))
    rcases of_decide_eq_true hplayable with hlong | hvoice
    · rw [hframes, List.length_nil] at hlong
      split_ifs at hlong <;> omega
    · exact hvoice.2 hframes
  refine ⟨fun hactive => hne (Option.some.inj hactive).symm, call, ?_, hended, hframes⟩
  rw [Option.mem_def, Dict.get?_modify, if_neg hne]
  exact hget

/-- A turn of the loop leaves a stranded entry. -/
theorem Turn.stranded {r : AudioBridge × List BridgeEffect} {ch : Change} {callUuid : Bytes}
    (ht : s.Turn r ch) (h : s.Stranded callUuid) : r.1.Stranded callUuid := by
  obtain ⟨hactive, call, hget, hended, hframes⟩ := h
  have other : ∀ {u : Bytes}, s.activeDownlinkUuid = some u → callUuid ≠ u := by
    rintro u hu rfl
    exact hactive hu
  have idle : (none : Option Bytes) ≠ some callUuid := (Option.some_ne_none _).symm
  cases ht with
  | idle _ => exact ⟨hactive, call, hget, hended, hframes⟩
  | missing _ _ _ => exact ⟨idle, call, hget, hended, hframes⟩
  | played u _ _ _ hu _ _ =>
    refine ⟨hactive, call, ?_, hended, hframes⟩
    rw [Option.mem_def, Dict.get?_modify, if_neg (other hu)]
    exact hget
  | removed u _ hu _ _ =>
    refine ⟨idle, call, ?_, hended, hframes⟩
    rw [Option.mem_def, Dict.get?_erase, if_neg (other hu)]
    exact hget
  | underrun u _ hu _ _ =>
    refine ⟨idle, call, ?_, hended, hframes⟩
    rw [Option.mem_def, Dict.get?_modify, if_neg (other hu)]
    exact hget
  | waiting _ _ _ _ _ => exact ⟨hactive, call, hget, hended, hframes⟩

/-- **A stranded entry stays**, however often the loop turns. -/
theorem stranded_turns {callUuid : Bytes} (hjitter : 0 < cfg.jitterFrames)
    (hrebuffer : 0 < cfg.rebufferFrames) (times : List Time) (h : s.Stranded callUuid) :
    (Run.final (bridgeStep cfg) s (times.map BrewEvent.playout)).Stranded callUuid := by
  induction times generalizing s with
  | nil => exact h
  | cons now times ih =>
    rw [List.map_cons, Run.final_cons]
    exact ih ((turn_playout cfg now).stranded (stranded_chooseDownlink cfg hjitter hrebuffer h))

/-- A block of voice of call `n`. -/
def voiceFrame (n : UInt8) : Bytes := [0xF2, 0] ++ sampleUuid n ++ [0x20, 1] ++ List.replicate 36 0

/-- A call whose voice is played. -/
def heardCall : List BrewEvent :=
  [frameAt 1 (startFrame 1), frameAt 1 (voiceFrame 1), frameAt 2 (idleFrame 1), .playout (seconds 2)]

theorem queuesEmpty_of_entries (h : (s.downlinkCalls.entries.all fun e => e.2.frames.isEmpty) = true) :
    s.QueuesEmpty := fun k call hget =>
  List.isEmpty_iff.mp (List.all_eq_true.mp h (k, call) ((Dict.mem_entries_iff _ k call).mpr hget))

theorem released_heardCall :
    let turns := heardCall ++ [BrewEvent.playout (seconds 3)]
    let s := Run.final (bridgeStep sampleAudio) sampleBridge turns
    s.NoneEnded ∧ ∀ callUuid,
      ClosedOnce (decoderLog callUuid (Run.outputs (bridgeStep sampleAudio) sampleBridge turns))
        (s.Live callUuid) :=
  released_of_heard sampleAudio sampleRouter {7} heardCall (by decide +kernel)
    (queuesEmpty_of_entries (by decide +kernel)) (seconds 3) []

/-- **A call that starts and ends without voice** is never released. -/
theorem not_released_silent : ¬ ∀ (cfg : AudioConfig) (router : TalkgroupRouter)
    (localIssis : Finset ℕ) (events : List BrewEvent),
    (Run.final (bridgeStep cfg) (init router localIssis) events).QueuesEmpty →
    ∀ now : Time, (Run.final (bridgeStep cfg) (init router localIssis)
      (events ++ [BrewEvent.playout now])).NoneEnded := by
  intro h
  have hnone := h sampleAudio sampleRouter {7} [frameAt 1 (startFrame 1), frameAt 2 (idleFrame 1)]
    (queuesEmpty_of_entries (by decide +kernel)) (seconds 3)
  exact hnone (sampleUuid 1) (by decide +kernel)

end AudioBridge

end Brew
