import QuantarBridge.Brew.Downlink

/-!
# One channel for the calls of the server

The P25 side plays one call at a time, so a new call is accepted only when no entry is live. Two things
break this. A start for an entry that has ended takes it up again while another call is live. And an
entry stays live for ever when the websocket is lost, or when the end of its call is swallowed because
the call was also ignored: then every new call is refused.

* `oneLive_iff`: **at most one entry is live** exactly in the runs that never revive an entry while
  another call is live;
* `Tracked`: the bridge with the calls the server has open;
* `acceptsNew_of_clean`: **a new call is accepted** when the server has none open, in the runs that
  leave no live entry behind.
-/

set_option autoImplicit false

namespace Brew

open Lib

namespace AudioBridge

variable (cfg : AudioConfig) {s : AudioBridge}

/-! ## At most one live entry -/

/-- At most one call is live. -/
def OneLive (s : AudioBridge) : Prop := ∀ u v, s.Live u → s.Live v → u = v

theorem competing_iff (callUuid : Bytes) :
    s.competing callUuid = true ↔ ∃ other, other ≠ callUuid ∧ s.Live other := by
  unfold competing
  rw [Dict.any_iff]
  constructor
  · rintro ⟨other, call, hg, hp⟩
    obtain ⟨hne, he⟩ := of_decide_eq_true hp
    refine ⟨other, hne, ?_⟩
    show (s.downlinkCalls.get? other).map _ = some false
    rw [hg, Option.map_some, he]
  · rintro ⟨other, hne, hl⟩
    obtain ⟨call, hg, he⟩ := Option.map_eq_some_iff.mp hl
    exact ⟨other, call, hg, decide_eq_true ⟨hne, he⟩⟩

/-- The event revives an entry that has ended, while another call is live. -/
def Revives (s : AudioBridge) (e : BrewEvent) : Prop :=
  ∃ callUuid ∈ (s.change cfg e).resumedCall,
    s.flags callUuid = some true ∧ s.competing callUuid = true

instance (e : BrewEvent) : Decidable (s.Revives cfg e) :=
  inferInstanceAs (Decidable (∃ callUuid ∈ (s.change cfg e).resumedCall,
    s.flags callUuid = some true ∧ s.competing callUuid = true))

theorem txChange_started {tx : GroupTx} {callUuid : Bytes}
    (h : s.txChange tx = .started callUuid) :
    tx.callUuid = callUuid ∧ s.flags callUuid = none ∧ s.competing callUuid = false := by
  unfold txChange at h
  split_ifs at h with h1 h2 h3
  obtain rfl := Change.started.inj h
  have hnone : s.downlinkCalls.get? tx.callUuid = none := Option.not_isSome_iff_eq_none.mp h2
  refine ⟨rfl, ?_, Bool.eq_false_of_not_eq_true h3⟩
  show (s.downlinkCalls.get? tx.callUuid).map _ = none
  rw [hnone]
  rfl

theorem playoutChange_cases :
    s.playoutChange cfg = .kept ∨ ∃ callUuid, s.playoutChange cfg = .removed callUuid := by
  unfold playoutChange
  dsimp only
  cases (s.chooseDownlink cfg).activeDownlinkUuid with
  | none => exact Or.inl rfl
  | some callUuid =>
    simp only [Option.elim_some]
    cases (s.chooseDownlink cfg).downlinkCalls.get? callUuid with
    | none => exact Or.inl rfl
    | some call =>
      simp only [Option.elim_some]
      split_ifs
      · exact Or.inr ⟨callUuid, rfl⟩
      · exact Or.inl rfl

theorem change_started {e : BrewEvent} {callUuid : Bytes}
    (h : s.change cfg e = .started callUuid) :
    s.flags callUuid = none ∧ s.competing callUuid = false := by
  cases e with
  | frame c o frame =>
    have hf : s.frameChange c frame = .started callUuid := h
    unfold frameChange at hf
    cases htx : groupTx frame with
    | some tx =>
      rw [htx] at hf
      exact (txChange_started (s := s.expireOwnedUuids c.handled) hf).2
    | none =>
      rw [htx] at hf
      cases hidle : groupIdle frame with
      | some u =>
        rw [hidle] at hf
        have hi : (s.expireOwnedUuids c.handled).idleChange u = .started callUuid := hf
        unfold idleChange at hi
        split_ifs at hi
      | none =>
        rw [hidle] at hf
        exact Change.noConfusion hf
  | playout now =>
    have hp : s.playoutChange cfg = .started callUuid := h
    rcases playoutChange_cases cfg (s := s) with hk | ⟨u, hr⟩
    · exact Change.noConfusion (hk.symm.trans hp)
    · exact Change.noConfusion (hr.symm.trans hp)
  | disconnected => exact Change.noConfusion h
  | routes router => exact Change.noConfusion h
  | registered localIssis => exact Change.noConfusion h
  | uplink active => exact Change.noConfusion h
  | owned u expiry => exact Change.noConfusion h

end AudioBridge

/-- At most one entry is live. -/
def OneLiveFlag (f : Flags) : Prop := ∀ u v, f u = some false → f v = some false → u = v

theorem live_apply {f : Flags} (ch : Change) {k : Bytes} (h : ch.apply f k = some false) :
    f k = some false ∨ ch = .started k ∨ (ch = .resumed k ∧ f k = some true) := by
  cases ch with
  | kept => exact Or.inl h
  | started w =>
    by_cases hk : k = w
    · exact Or.inr (Or.inl (hk ▸ rfl))
    · exact Or.inl ((if_neg hk).symm.trans h)
  | resumed w =>
    by_cases hk : k = w
    · subst hk
      cases hf : f k with
      | none =>
        have hn : (f k).map (fun _ => false) = some false := (if_pos rfl).symm.trans h
        rw [hf] at hn
        exact absurd hn.symm (Option.some_ne_none _)
      | some mark =>
        cases mark with
        | false => exact Or.inl rfl
        | true => exact Or.inr (Or.inr ⟨rfl, rfl⟩)
    · exact Or.inl ((if_neg hk).symm.trans h)
  | endedCall w =>
    by_cases hk : k = w
    · have hn : (f k).map (fun _ => true) = some false := (if_pos hk).symm.trans h
      obtain ⟨_, -, ht⟩ := Option.map_eq_some_iff.mp hn
      exact Bool.noConfusion ht
    · exact Or.inl ((if_neg hk).symm.trans h)
  | removed w =>
    by_cases hk : k = w
    · have hn : none = some false := (if_pos hk).symm.trans h
      exact absurd hn.symm (Option.some_ne_none _)
    · exact Or.inl ((if_neg hk).symm.trans h)

/-- **A change keeps it**, unless it resumes an entry that has ended beside a live one. -/
theorem oneLiveFlag_apply {f : Flags} (hf : OneLiveFlag f) (ch : Change)
    (hstart : ∀ u, ch = .started u → ∀ v, v ≠ u → f v ≠ some false) :
    OneLiveFlag (ch.apply f) ↔
      ¬ ∃ u, ch = .resumed u ∧ f u = some true ∧ ∃ v, v ≠ u ∧ f v = some false := by
  constructor
  · rintro hone ⟨u, rfl, hu, v, hv, hlive⟩
    have hu' : (Change.resumed u).apply f u = some false := by
      show (if u = u then (f u).map (fun _ => false) else f u) = some false
      rw [if_pos rfl, hu]
      rfl
    have hv' : (Change.resumed u).apply f v = some false := (if_neg hv).trans hlive
    exact hv (hone v u hv' hu')
  · intro hno u v hu hv
    rcases live_apply ch hu with hu' | rfl | ⟨rfl, hu'⟩
    · rcases live_apply ch hv with hv' | rfl | ⟨rfl, hv'⟩
      · exact hf u v hu' hv'
      · by_contra hne
        exact hstart v rfl u hne hu'
      · by_contra hne
        exact hno ⟨v, rfl, hv', u, hne, hu'⟩
    · rcases live_apply _ hv with hv' | hv' | ⟨hv', -⟩
      · by_contra hne
        exact hstart u rfl v (Ne.symm hne) hv'
      · exact Change.started.inj hv'
      · exact Change.noConfusion hv'
    · rcases live_apply _ hv with hv' | hv' | ⟨hv', -⟩
      · by_contra hne
        exact hno ⟨u, rfl, hu', v, Ne.symm hne, hv'⟩
      · exact Change.noConfusion hv'
      · exact Change.resumed.inj hv'

namespace AudioBridge

variable {cfg : AudioConfig} {s : AudioBridge}

theorem revives_iff (e : BrewEvent) : s.Revives cfg e ↔
    ∃ u, s.change cfg e = .resumed u ∧ s.flags u = some true ∧ ∃ v, v ≠ u ∧ s.flags v = some false := by
  unfold Revives
  constructor
  · rintro ⟨u, hu, hf, hc⟩
    obtain ⟨v, hv, hl⟩ := (competing_iff u).mp hc
    refine ⟨u, ?_, hf, v, hv, hl⟩
    cases hch : s.change cfg e with
    | resumed w =>
      rw [hch] at hu
      rw [Option.some.inj hu]
    | _ =>
      rw [hch] at hu
      exact absurd hu.symm (Option.some_ne_none _)
  · rintro ⟨u, hu, hf, v, hv, hl⟩
    refine ⟨u, ?_, hf, (competing_iff u).mpr ⟨v, hv, hl⟩⟩
    rw [hu]
    rfl

/-- One event keeps at most one entry live exactly when it revives none beside a live one. -/
theorem oneLive_step (e : BrewEvent) (h : s.OneLive) :
    (bridgeStep cfg s e).1.OneLive ↔ ¬ s.Revives cfg e := by
  have hstart : ∀ u, s.change cfg e = .started u → ∀ v, v ≠ u → s.flags v ≠ some false := by
    intro u hu v hv hl
    obtain ⟨-, hc⟩ := change_started cfg hu
    exact absurd ((competing_iff u).mpr ⟨v, hv, hl⟩) (by rw [hc]; exact Bool.false_ne_true)
  rw [revives_iff, ← oneLiveFlag_apply h (s.change cfg e) hstart, ← flags_bridgeStep]
  rfl

/-- **At most one entry is live** in every state of a run exactly when no event of the run revives an
entry that has ended while another call is live. -/
theorem oneLive_iff (cfg : AudioConfig) (router : TalkgroupRouter) (localIssis : Finset ℕ)
    (events : List BrewEvent) :
    (∀ pre post, events = pre ++ post →
      (Run.final (bridgeStep cfg) (init router localIssis) pre).OneLive) ↔
      Run.Along (bridgeStep cfg) (fun s e => ¬ s.Revives cfg e) (init router localIssis) events := by
  have hinit : (init router localIssis).OneLive := fun u _ hu => absurd hu (Option.some_ne_none _).symm
  exact Run.forall_final_iff_along OneLive (fun s e h => oneLive_step e h) events _ hinit

/-! ## New calls are accepted -/

/-- The bridge accepts a new call: whenever the server starts one that is not known and not an uplink
call, to an active talkgroup and from a radio that is not local, it gets an entry. -/
def AcceptsNew (cfg : AudioConfig) (s : AudioBridge) : Prop :=
  ∀ c o frame tx, groupTx frame = some tx → s.downlinkCalls.get? tx.callUuid = none →
    s.ownedUuids.get? tx.callUuid = none → s.router.isActive tx.destination = true →
    tx.source ∉ s.localIssis →
      (bridgeStep cfg s (.frame c o frame)).2 = [.callStarted tx.callUuid] ∧
        (bridgeStep cfg s (.frame c o frame)).1.Live tx.callUuid

theorem onBrewBinary_of_groupTx (c : Readings) (o : Outcomes) {frame : Bytes} {tx : GroupTx}
    (h : groupTx frame = some tx) : s.onBrewBinary cfg c o frame =
      (expireOwnedUuids c.handled { s with
        pendingSds := s.pendingSds.filter fun _ pending =>
          c.received < pending.receivedAt + seconds 30 }).startOrUpdateDownlink c tx.callUuid
            tx.source tx.destination := by
  unfold groupTx at h
  split_ifs at h with hg
  obtain ⟨hf, hctl, htx, hlen⟩ := hg
  obtain rfl := Option.some.inj h
  obtain ⟨h18, hno⟩ := of_decide_eq_true hf
  have h1 : ¬ frame.length < 2 := by omega
  have h2 : ¬ frame.getD 0 0 = 0xF0 := fun h => hno (Or.inl h)
  have h3 : ¬ frame.getD 0 0 = 0xF3 := fun h => hno (Or.inr (Or.inl h))
  have h4 : ¬ (frame.getD 0 0 = 0xF2 ∧ frame.getD 1 0 = 2) := fun h =>
    hno (Or.inr (Or.inr (Or.inl ⟨h.1, Or.inl h.2⟩)))
  have h5 : ¬ frame.length < 18 := Nat.not_lt_of_le h18
  have h6 : ¬ (frame.getD 0 0 = 0xF1 ∧ frame.getD 1 0 = 11) := fun h =>
    hno (Or.inr (Or.inr (Or.inr h)))
  have h7 : ¬ (frame.getD 0 0 = 0xF2 ∧ frame.getD 1 0 = 1) := fun h =>
    hno (Or.inr (Or.inr (Or.inl ⟨h.1, Or.inr h.2⟩)))
  unfold onBrewBinary onCallFrame
  dsimp only
  rw [if_neg h1, if_neg h2, if_neg h3, if_neg h4, if_neg h5, if_neg h6, if_neg h7, if_pos hctl,
    if_pos ⟨htx, hlen⟩]

/-- **Without a live entry** a new call is accepted. -/
theorem acceptsNew_of_no_live (h : ∀ u, ¬ s.Live u) : AcceptsNew cfg s := by
  intro c o frame tx htx hnone howned hactive hsource
  have hstep : s.onBrewBinary cfg c o frame = _ := onBrewBinary_of_groupTx c o htx
  show (s.onBrewBinary cfg c o frame).2 = _ ∧ (s.onBrewBinary cfg c o frame).1.Live _
  rw [hstep]
  generalize hs' : expireOwnedUuids c.handled { s with
    pendingSds := s.pendingSds.filter fun _ pending =>
      c.received < pending.receivedAt + seconds 30 } = s'
  have hcalls : s'.downlinkCalls = s.downlinkCalls := hs' ▸ rfl
  have howned' : (s'.ownedUuids.get? tx.callUuid).isSome = false := by
    have hp : s'.ownedUuids = s.ownedUuids.purge c.handled := hs' ▸ rfl
    rw [hp, ExpiryMap.purge, Dict.get?_filter, howned]
    rfl
  have hroute : (s'.router.p25ForBrew tx.destination).isSome = true := by
    have hr : s'.router = s.router := hs' ▸ rfl
    rw [hr, Option.isSome_iff_ne_none, Ne, TalkgroupRouter.p25ForBrew_eq_none_iff, hactive]
    exact fun hf => Bool.noConfusion hf
  have hlocal : tx.source ∉ s'.localIssis := by
    have hl : s'.localIssis = s.localIssis := hs' ▸ rfl
    rw [hl]
    exact hsource
  have haccepts : s'.accepts tx = true := by
    refine decide_eq_true ⟨hroute, ?_⟩
    rintro (ho | hl)
    · rw [howned'] at ho
      exact Bool.noConfusion ho
    · exact hlocal hl.1
  have hfree : s'.competing tx.callUuid = false := by
    refine Bool.eq_false_of_not_eq_true fun hc => ?_
    obtain ⟨other, -, hl⟩ := (competing_iff _).mp hc
    have hflags : s'.flags = s.flags := congrArg flagsOf hcalls
    exact h other (by unfold Live at hl ⊢; rw [← hflags]; exact hl)
  have hchange : s'.txChange tx = .started tx.callUuid := by
    unfold txChange
    rw [haccepts, hcalls, hnone, hfree]
    rfl
  rcases startOrUpdateDownlink_cases (s := s') c tx with ⟨hk, -⟩ | ⟨hk, -⟩ | ⟨-, heff, p25, hst⟩
  · rw [hk] at hchange
    exact Change.noConfusion hchange
  · rw [hk] at hchange
    exact Change.noConfusion hchange
  · refine ⟨heff, ?_⟩
    rw [hst]
    show flagsOf _ tx.callUuid = some false
    rw [flagsOf_set, if_pos rfl]
    rfl

/-- The bridge, and the calls of the server that were accepted and have neither ended nor lost their
websocket since. -/
structure Tracked where
  bridge : AudioBridge
  openCalls : Finset Bytes

/-- The calls that are open after an event. -/
def openAfter (cfg : AudioConfig) (t : Tracked) (e : BrewEvent) : Finset Bytes :=
  match e with
  | .disconnected => ∅
  | .frame _ _ frame =>
    match t.bridge.change cfg e with
    | .started callUuid => insert callUuid t.openCalls
    | .resumed callUuid => insert callUuid t.openCalls
    | _ => (groupIdle frame).elim t.openCalls fun callUuid => t.openCalls.erase callUuid
  | _ => t.openCalls

/-- A step of the bridge, and the calls that are open after it. -/
def trackedStep (cfg : AudioConfig) (t : Tracked) (e : BrewEvent) : Tracked × List BridgeEffect :=
  (⟨(bridgeStep cfg t.bridge e).1, openAfter cfg t e⟩, (bridgeStep cfg t.bridge e).2)

/-- The event leaves no live entry behind: the websocket is not lost while an entry is live, and no call
with a live entry ends while it is ignored. -/
def Clean (t : Tracked) : BrewEvent → Prop
  | .disconnected => t.bridge.downlinkCalls.any (fun _ call => call.ended = false) = false
  | .frame c _ frame => ∀ callUuid ∈ groupIdle frame,
      callUuid ∈ (t.bridge.expireOwnedUuids c.handled).ignoredDownlinkUuids → ¬ t.bridge.Live callUuid
  | _ => True

instance decidableClean (t : Tracked) : (e : BrewEvent) → Decidable (Clean t e)
  | .disconnected => inferInstanceAs (Decidable (_ = false))
  | .frame c _ frame => inferInstanceAs (Decidable (∀ callUuid ∈ groupIdle frame,
      callUuid ∈ (t.bridge.expireOwnedUuids c.handled).ignoredDownlinkUuids →
        ¬ t.bridge.Live callUuid))
  | .playout _ => isTrue trivial
  | .routes _ => isTrue trivial
  | .registered _ => isTrue trivial
  | .uplink _ => isTrue trivial
  | .owned _ _ => isTrue trivial

/-- Every live entry is open. -/
def LiveOpen (t : Tracked) : Prop := ∀ u, t.bridge.Live u → u ∈ t.openCalls

theorem groupTx_of_groupIdle {frame callUuid : Bytes} (h : groupIdle frame = some callUuid) :
    groupTx frame = none := by
  unfold groupIdle at h
  split_ifs at h with hg
  refine if_neg fun htx => ?_
  rw [hg.2.2] at htx
  exact absurd htx.2.2.1 (by decide)

theorem change_of_groupIdle {c : Readings} {o : Outcomes} {frame callUuid : Bytes}
    (h : groupIdle frame = some callUuid) :
    s.change cfg (.frame c o frame) = (s.expireOwnedUuids c.handled).idleChange callUuid := by
  show s.frameChange c frame = _
  unfold frameChange
  rw [groupTx_of_groupIdle h, h]
  rfl

/-- What is live after an event that starts and resumes nothing was live before. -/
theorem live_of_step {e : BrewEvent} {u : Bytes} (h : (bridgeStep cfg s e).1.Live u)
    (hs : s.change cfg e ≠ .started u) (hr : s.change cfg e ≠ .resumed u) : s.Live u := by
  have hf : (s.change cfg e).apply s.flags u = some false := by
    rw [← flags_bridgeStep]
    exact h
  rcases live_apply _ hf with hl | hst | ⟨hre, -⟩
  · exact hl
  · exact absurd hst hs
  · exact absurd hre hr

theorem not_live_of_groupIdle {c : Readings} {o : Outcomes} {frame callUuid : Bytes}
    (h : groupIdle frame = some callUuid)
    (hclean : callUuid ∈ (s.expireOwnedUuids c.handled).ignoredDownlinkUuids → ¬ s.Live callUuid) :
    ¬ (bridgeStep cfg s (.frame c o frame)).1.Live callUuid := by
  intro hl
  have hch : s.change cfg (.frame c o frame) = (s.expireOwnedUuids c.handled).idleChange callUuid :=
    change_of_groupIdle h
  have hf : (s.change cfg (.frame c o frame)).apply s.flags callUuid = some false := by
    rw [← flags_bridgeStep]
    exact hl
  unfold idleChange at hch
  split_ifs at hch with hi
  · rw [hch] at hf
    exact hclean hi hf
  · rw [hch] at hf
    have hn : (s.flags callUuid).map (fun _ => true) = some false := (if_pos rfl).symm.trans hf
    obtain ⟨_, -, ht⟩ := Option.map_eq_some_iff.mp hn
    exact Bool.noConfusion ht

/-- **One event** that leaves no live entry behind keeps the live entries open. -/
theorem liveOpen_step (cfg : AudioConfig) (t : Tracked) (e : BrewEvent) (hclean : Clean t e)
    (h : LiveOpen t) : LiveOpen (trackedStep cfg t e).1 := by
  intro u hu
  have hu' : (bridgeStep cfg t.bridge e).1.Live u := hu
  show u ∈ openAfter cfg t e
  cases e with
  | disconnected =>
    have hno : t.bridge.downlinkCalls.any (fun _ call => call.ended = false) = false := hclean
    obtain ⟨call, hg, he⟩ := Option.map_eq_some_iff.mp hu'
    have hyes : t.bridge.downlinkCalls.any (fun _ call => call.ended = false) = true :=
      (Dict.any_iff _ _).mpr ⟨u, call, hg, decide_eq_true he⟩
    exact absurd (hno.symm.trans hyes) Bool.false_ne_true
  | frame c o frame =>
    unfold openAfter
    dsimp only
    have hkeep : ∀ w, t.bridge.change cfg (.frame c o frame) = .started w ∨
        t.bridge.change cfg (.frame c o frame) = .resumed w → u ∈ insert w t.openCalls := by
      intro w hw
      by_cases huw : u = w
      · exact huw ▸ Finset.mem_insert_self _ _
      · refine Finset.mem_insert_of_mem (h u (live_of_step hu' ?_ ?_))
        · rintro hst
          rcases hw with hw | hw
          · exact huw (Change.started.inj (hst.symm.trans hw))
          · exact Change.noConfusion (hst.symm.trans hw)
        · rintro hre
          rcases hw with hw | hw
          · exact Change.noConfusion (hre.symm.trans hw)
          · exact huw (Change.resumed.inj (hre.symm.trans hw))
    have helse : (∀ w, t.bridge.change cfg (.frame c o frame) ≠ .started w) →
        (∀ w, t.bridge.change cfg (.frame c o frame) ≠ .resumed w) →
        u ∈ (groupIdle frame).elim t.openCalls fun callUuid => t.openCalls.erase callUuid := by
      intro hns hnr
      have hlive := h u (live_of_step hu' (hns u) (hnr u))
      cases hidle : groupIdle frame with
      | none => exact hlive
      | some w =>
        refine Finset.mem_erase.mpr ⟨?_, hlive⟩
        rintro rfl
        exact not_live_of_groupIdle hidle (hclean u hidle) hu'
    cases hch : t.bridge.change cfg (.frame c o frame) with
    | started w => exact hkeep w (Or.inl hch)
    | resumed w => exact hkeep w (Or.inr hch)
    | kept => exact helse (fun w => by rw [hch]; simp) (fun w => by rw [hch]; simp)
    | endedCall w => exact helse (fun w => by rw [hch]; simp) (fun w => by rw [hch]; simp)
    | removed w => exact helse (fun w => by rw [hch]; simp) (fun w => by rw [hch]; simp)
  | playout now =>
    have hch := playoutChange_cases cfg (s := t.bridge)
    refine h u (live_of_step hu' ?_ ?_)
    · intro hst
      have hst' : t.bridge.playoutChange cfg = .started u := hst
      rcases hch with hk | ⟨w, hr⟩
      · exact Change.noConfusion (hk.symm.trans hst')
      · exact Change.noConfusion (hr.symm.trans hst')
    · intro hre
      have hre' : t.bridge.playoutChange cfg = .resumed u := hre
      rcases hch with hk | ⟨w, hr⟩
      · exact Change.noConfusion (hk.symm.trans hre')
      · exact Change.noConfusion (hr.symm.trans hre')
  | routes router => exact h u hu'
  | registered localIssis => exact h u hu'
  | uplink active => exact h u hu'
  | owned callUuid expiry => exact h u hu'

/-- **A new call is accepted** whenever the server has no accepted call open, in every run that never
leaves a live entry behind. -/
theorem acceptsNew_of_clean (cfg : AudioConfig) (router : TalkgroupRouter) (localIssis : Finset ℕ)
    (events : List BrewEvent)
    (h : Run.Along (trackedStep cfg) Clean ⟨init router localIssis, ∅⟩ events) :
    ∀ pre post, events = pre ++ post →
      (Run.final (trackedStep cfg) ⟨init router localIssis, ∅⟩ pre).openCalls = ∅ →
      AcceptsNew cfg (Run.final (trackedStep cfg) ⟨init router localIssis, ∅⟩ pre).bridge := by
  rintro pre post rfl hopen
  have hinit : LiveOpen ⟨init router localIssis, ∅⟩ := fun u hu =>
    absurd hu (Option.some_ne_none _).symm
  have hpre := ((Run.along_append_iff pre post).mp h).1
  have hlive : LiveOpen (Run.final (trackedStep cfg) ⟨init router localIssis, ∅⟩ pre) :=
    Run.final_of_along LiveOpen (fun t e hc ht => liveOpen_step cfg t e hc ht) pre _ hpre hinit
  refine acceptsNew_of_no_live fun u hu => ?_
  have hmem := hlive u hu
  rw [hopen] at hmem
  exact absurd hmem (Finset.notMem_empty u)

/-! ## A call that is revived and a call that is left behind -/

/-- Talkgroup 91 is static. -/
def sampleRouter : TalkgroupRouter where
  config := ⟨Dict.empty, Dict.empty, {91}, 600, 4000⟩
  dynamic := Dict.empty
  disjoint := fun _ _ h => absurd h (Option.some_ne_none _).symm

/-- Texts in ISO 8859-1. -/
def sampleAudio : AudioConfig where
  jitterFrames := 4
  rebufferFrames := 2
  smsCommandDir := true
  decode := fun codec text =>
    if codec = .iso8859_1 then some (text.map fun b => Char.ofNat b.toNat) else none

/-- The bridge before any event. -/
def sampleBridge : AudioBridge := init sampleRouter {7}

/-- A frame that arrives at second `n`, with all writes successful. -/
def frameAt (n : ℕ) (frame : Bytes) : BrewEvent :=
  .frame ⟨seconds n, seconds n, seconds n, seconds n, 0⟩ ⟨true, true, true, true, true⟩ frame

/-- An identifier that ends in a number. -/
def sampleUuid (n : UInt8) : Bytes := List.replicate 15 0 ++ [n]

/-- Radio 1 starts call `n` to talkgroup 91. -/
def startFrame (n : UInt8) : Bytes :=
  [0xF1, 2] ++ sampleUuid n ++ [1, 0, 0, 0, 91, 0, 0, 0, 0, 0, 0, 0]

/-- Call `n` ends. -/
def idleFrame (n : UInt8) : Bytes := [0xF1, 3] ++ sampleUuid n ++ [0]

/-- A call that comes and goes. -/
def sampleCalls : List BrewEvent :=
  [frameAt 1 (startFrame 1), frameAt 2 (idleFrame 1), .disconnected]

theorem acceptsNew_sample : AcceptsNew sampleAudio
    (Run.final (trackedStep sampleAudio) ⟨sampleBridge, ∅⟩ sampleCalls).bridge :=
  acceptsNew_of_clean sampleAudio sampleRouter {7} sampleCalls (by decide +kernel) sampleCalls []
    rfl (by decide +kernel)

/-- **A call whose entry is taken up again** while another call is live. -/
theorem not_oneLive_revived : ¬ ∀ (cfg : AudioConfig) (router : TalkgroupRouter)
    (localIssis : Finset ℕ) (events : List BrewEvent),
    (Run.final (bridgeStep cfg) (init router localIssis) events).OneLive := by
  intro h
  have hone := h sampleAudio sampleRouter {7} [frameAt 1 (startFrame 1), frameAt 2 (idleFrame 1),
    frameAt 3 (startFrame 2), frameAt 4 (startFrame 1)]
  exact absurd (hone (sampleUuid 1) (sampleUuid 2) (by decide +kernel) (by decide +kernel))
    (by decide +kernel)

/-- **A call whose websocket is lost** stays live, and the next call is refused. -/
theorem not_acceptsNew_disconnected : ¬ ∀ (cfg : AudioConfig) (router : TalkgroupRouter)
    (localIssis : Finset ℕ) (events : List BrewEvent),
    (Run.final (trackedStep cfg) ⟨init router localIssis, ∅⟩ events).openCalls = ∅ →
    AcceptsNew cfg (Run.final (trackedStep cfg) ⟨init router localIssis, ∅⟩ events).bridge := by
  intro h
  have hnew := h sampleAudio sampleRouter {7} [frameAt 1 (startFrame 1), .disconnected]
    (by decide +kernel)
  have hstart := hnew ⟨seconds 3, seconds 3, seconds 3, seconds 3, 0⟩ ⟨true, true, true, true, true⟩
    (startFrame 2) ⟨sampleUuid 2, 1, 91⟩ rfl (by decide +kernel) (by decide +kernel)
    (by decide +kernel) (by decide +kernel)
  exact absurd hstart.1 (by decide +kernel)

end AudioBridge

end Brew
