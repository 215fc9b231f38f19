import QuantarBridge.Brew.Channel
import QuantarBridge.Lib.Expiry

/-!
# An acknowledged text is stored

The report of a text message is sent after its file was published, or when the same text was
published less than a minute ago. Within that minute a text is published only once.

* `sdsHeader`, `isSdsPayload`: the two frames of a text message;
* `sds_onBrewBinary`, `bridgeStep_sds`: what an event does to the headers and the published texts;
* `pendingSds_origin`: a header that waits is the last one of its call;
* `live_iff_published`: a text is remembered exactly for a minute;
* `acknowledged_stored`: **the theorem about every run**.
-/

set_option autoImplicit false

namespace Brew

open Lib

namespace AudioBridge

variable (cfg : AudioConfig) {s : AudioBridge}

/-- A header, with the identifier, the source and the destination it announces. -/
def sdsHeader (frame : Bytes) : Option (Bytes × ℕ × ℕ) :=
  if 26 ≤ frame.length ∧ frame.getD 0 0 = 0xF1 ∧ frame.getD 1 0 = 11 then
    some ((frame.drop 2).take 16, readLe32 frame 18, readLe32 frame 22)
  else none

/-- The payload of a text message. -/
def isSdsPayload (frame : Bytes) : Bool :=
  18 ≤ frame.length ∧ frame.getD 0 0 = 0xF2 ∧ frame.getD 1 0 = 1

/-- The headers that are not too old. -/
def freshSds (now : Time) (pending : Dict Bytes PendingSds) : Dict Bytes PendingSds :=
  pending.filter fun _ p => now < p.receivedAt + seconds 30

/-- Nothing is published and no report is sent. -/
def Silent (effects : List BridgeEffect) : Prop :=
  (∀ u path content, .published u path content ∉ effects) ∧ ∀ u sent, .reported u sent ∉ effects

theorem silent_nil : Silent [] := ⟨fun _ _ _ => List.not_mem_nil, fun _ _ => List.not_mem_nil⟩

/-- The step does nothing to text messages but drop old headers. -/
structure NoSds (s : AudioBridge) (now : Time) (r : AudioBridge × List BridgeEffect) : Prop where
  pendingSds : r.1.pendingSds = s.pendingSds ∨ r.1.pendingSds = freshSds now s.pendingSds
  recentInboundSds : r.1.recentInboundSds = s.recentInboundSds
  silent : Silent r.2

theorem startOrUpdateDownlink_silent (c : Readings) (tx : GroupTx) :
    let r := s.startOrUpdateDownlink c tx.callUuid tx.source tx.destination
    r.1.pendingSds = s.pendingSds ∧ r.1.recentInboundSds = s.recentInboundSds ∧ Silent r.2 := by
  dsimp only
  rcases startOrUpdateDownlink_cases (s := s) c tx with ⟨-, reason, h⟩ | ⟨-, he, h⟩ | ⟨-, he, p25, h⟩
  · rw [h]
    exact ⟨rfl, rfl, by simp [Silent, ignore]⟩
  · rw [he, h]
    exact ⟨rfl, rfl, by simp [Silent]⟩
  · rw [he, h]
    exact ⟨rfl, rfl, by simp [Silent]⟩

theorem onCallFrame_silent (c : Readings) (callUuid frame : Bytes) :
    let r := s.onCallFrame c callUuid frame
    r.1.pendingSds = s.pendingSds ∧ r.1.recentInboundSds = s.recentInboundSds ∧ Silent r.2 := by
  unfold onCallFrame
  dsimp only
  split_ifs
  · exact startOrUpdateDownlink_silent (s := s.expireOwnedUuids c.handled) c ⟨callUuid, _, _⟩
  · unfold endDownlink
    split_ifs <;> exact ⟨rfl, rfl, silent_nil⟩
  · exact ⟨rfl, rfl, silent_nil⟩
  · unfold queueDownlinkVoice
    split_ifs <;> exact ⟨rfl, rfl, silent_nil⟩
  · exact ⟨rfl, rfl, silent_nil⟩

/-- **A frame** is a payload, a header, or nothing to text messages. -/
theorem sds_onBrewBinary (c : Readings) (o : Outcomes) (frame : Bytes) :
    let r := s.onBrewBinary cfg c o frame
    (isSdsPayload frame = true ∧ sdsHeader frame = none ∧
        r = handleInboundSds cfg c o ((frame.drop 2).take 16) frame
          { s with pendingSds := freshSds c.received s.pendingSds }) ∨
      (isSdsPayload frame = false ∧ ∃ u source destination,
        sdsHeader frame = some (u, source, destination) ∧ r.2 = [] ∧
        r.1.recentInboundSds = s.recentInboundSds ∧
        r.1.pendingSds = (freshSds c.received s.pendingSds).set u ⟨source, destination, c.received⟩) ∨
      (isSdsPayload frame = false ∧ sdsHeader frame = none ∧ NoSds s c.received r) := by
  have hheader : ¬ (frame.getD 0 0 = 0xF1 ∧ frame.getD 1 0 = 11) → sdsHeader frame = none :=
    fun h => if_neg fun hg => h hg.2
  have hpayload : ¬ (frame.getD 0 0 = 0xF2 ∧ frame.getD 1 0 = 1) → isSdsPayload frame = false :=
    fun h => decide_eq_false fun hg => h hg.2
  have hnothing : NoSds s c.received (s, []) := ⟨Or.inl rfl, rfl, silent_nil⟩
  unfold onBrewBinary
  dsimp only
  by_cases e1 : frame.length < 2
  · rw [if_pos e1]
    refine Or.inr (Or.inr ⟨decide_eq_false fun h => ?_, if_neg fun h => ?_, hnothing⟩)
    · exact absurd h.1 (by omega)
    · exact absurd h.1 (by omega)
  rw [if_neg e1]
  by_cases e2 : frame.getD 0 0 = 0xF0
  · rw [if_pos e2]
    refine Or.inr (Or.inr ⟨hpayload fun h => ?_, hheader fun h => ?_, hnothing⟩)
    · exact absurd (e2.symm.trans h.1) (by decide)
    · exact absurd (e2.symm.trans h.1) (by decide)
  rw [if_neg e2]
  by_cases e3 : frame.getD 0 0 = 0xF3
  · rw [if_pos e3]
    refine Or.inr (Or.inr ⟨hpayload fun h => ?_, hheader fun h => ?_, ?_⟩)
    · exact absurd (e3.symm.trans h.1) (by decide)
    · exact absurd (e3.symm.trans h.1) (by decide)
    · unfold recoverRejectedUplinkSession
      split_ifs
      · exact hnothing
      · exact ⟨Or.inl rfl, rfl, by simp [Silent]⟩
      · exact hnothing
  rw [if_neg e3]
  by_cases e4 : frame.getD 0 0 = 0xF2 ∧ frame.getD 1 0 = 2
  · rw [if_pos e4]
    refine Or.inr (Or.inr ⟨hpayload fun h => ?_, hheader fun h => ?_, hnothing⟩)
    · exact absurd (e4.2.symm.trans h.2) (by decide)
    · exact absurd (e4.1.symm.trans h.1) (by decide)
  rw [if_neg e4]
  by_cases e5 : frame.length < 18
  · rw [if_pos e5]
    refine Or.inr (Or.inr ⟨decide_eq_false fun h => ?_, if_neg fun h => ?_, hnothing⟩)
    · exact absurd h.1 (by omega)
    · exact absurd h.1 (by omega)
  rw [if_neg e5]
  by_cases e6 : frame.getD 0 0 = 0xF1 ∧ frame.getD 1 0 = 11
  · rw [if_pos e6]
    have hp : isSdsPayload frame = false :=
      hpayload fun h => absurd (e6.1.symm.trans h.1) (by decide)
    unfold receiveSdsHeader
    by_cases h26 : frame.length < 26
    · rw [if_pos h26]
      have hh : sdsHeader frame = none := if_neg fun h => absurd h.1 (by omega)
      exact Or.inr (Or.inr ⟨hp, hh, Or.inr rfl, rfl, silent_nil⟩)
    · rw [if_neg h26]
      have hh : sdsHeader frame = some ((frame.drop 2).take 16, readLe32 frame 18,
          readLe32 frame 22) := if_pos ⟨Nat.le_of_not_lt h26, e6⟩
      exact Or.inr (Or.inl ⟨hp, _, _, _, hh, rfl, rfl, rfl⟩)
  rw [if_neg e6]
  by_cases e7 : frame.getD 0 0 = 0xF2 ∧ frame.getD 1 0 = 1
  · rw [if_pos e7]
    exact Or.inl ⟨decide_eq_true ⟨Nat.le_of_not_lt e5, e7⟩, hheader e6, rfl⟩
  rw [if_neg e7]
  have hcall := onCallFrame_silent (s := { s with pendingSds := freshSds c.received s.pendingSds }) c
    ((frame.drop 2).take 16) frame
  exact Or.inr (Or.inr ⟨hpayload e7, hheader e6, Or.inr hcall.1, hcall.2.1, hcall.2.2⟩)

theorem playout_silent (now : Time) :
    let r := s.playout cfg now
    r.1.pendingSds = s.pendingSds ∧ r.1.recentInboundSds = s.recentInboundSds ∧ Silent r.2 := by
  have hchoose : (s.chooseDownlink cfg).pendingSds = s.pendingSds ∧
      (s.chooseDownlink cfg).recentInboundSds = s.recentInboundSds := by
    unfold chooseDownlink
    split_ifs
    · exact ⟨rfl, rfl⟩
    · dsimp only
      split <;> exact ⟨rfl, rfl⟩
  unfold playout
  dsimp only
  rw [← hchoose.1, ← hchoose.2]
  generalize s.chooseDownlink cfg = s'
  cases s'.activeDownlinkUuid with
  | none => exact ⟨rfl, rfl, silent_nil⟩
  | some callUuid =>
    dsimp only
    cases s'.downlinkCalls.get? callUuid with
    | none => exact ⟨rfl, rfl, silent_nil⟩
    | some call =>
      dsimp only
      cases call.frames with
      | cons ste rest => exact ⟨rfl, rfl, by simp [Silent]⟩
      | nil =>
        dsimp only
        split_ifs <;> exact ⟨rfl, rfl, by simp [Silent]⟩

/-! ## The payload of a text message -/

/-- What a payload does. -/
inductive SdsOutcome (c : Readings) (o : Outcomes) (callUuid frame : Bytes) (s : AudioBridge)
    (r : AudioBridge × List BridgeEffect) : Prop
  /-- Nothing is published and no report is sent. -/
  | refused (hrecent : r.1.recentInboundSds = s.recentInboundSds ∨
      r.1.recentInboundSds = s.recentInboundSds.purge c.handled) (hsilent : Silent r.2)
  /-- The text was published less than a minute ago. -/
  | repeated (pending : PendingSds) (text : Text)
      (hpending : s.pendingSds.get? callUuid = some pending) (htext : sdsText cfg frame = some text)
      (hlive : s.recentInboundSds.Live c.handled ⟨pending.source, pending.destination, text⟩)
      (hrecent : r.1.recentInboundSds = s.recentInboundSds.purge c.handled)
      (heffects : r.2 = [.reported callUuid o.reportSent])
  /-- The text is published. -/
  | stored (pending : PendingSds) (text : Text)
      (hpending : s.pendingSds.get? callUuid = some pending) (htext : sdsText cfg frame = some text)
      (hlive : ¬ s.recentInboundSds.Live c.handled ⟨pending.source, pending.destination, text⟩)
      (hrecent : r.1.recentInboundSds = (s.recentInboundSds.purge c.handled).mark
        ⟨pending.source, pending.destination, text⟩ (c.handled + BREW_SDS_DUPLICATE_WINDOW))
      (heffects : r.2 = [.published callUuid (sdsPath c.millis callUuid)
        (sdsDocument pending.source pending.destination text), .reported callUuid o.reportSent])

theorem isSome_purge_iff (m : ExpiryMap SdsKey) (now : Time) (key : SdsKey) :
    ((m.purge now).get? key).isSome = true ↔ m.Live now key := by
  rw [ExpiryMap.live_iff, Option.isSome_iff_exists]
  refine exists_congr fun e => ?_
  rw [ExpiryMap.purge, Dict.get?_filter, Option.filter_eq_some_iff, decide_eq_true_iff]

/-- **A payload** is refused, repeated or stored. -/
theorem handleInboundSds_outcome (c : Readings) (o : Outcomes) (callUuid frame : Bytes) :
    SdsOutcome cfg c o callUuid frame s (s.handleInboundSds cfg c o callUuid frame) := by
  unfold handleInboundSds
  by_cases hlen : frame.length < 20
  · rw [if_pos hlen]
    exact .refused (Or.inl rfl) silent_nil
  rw [if_neg hlen]
  cases hpending : s.pendingSds.get? callUuid with
  | none => exact .refused (Or.inl rfl) silent_nil
  | some pending =>
    dsimp only
    by_cases hlocal : pending.destination ∉ s.localIssis
    · rw [if_pos hlocal]
      exact .refused (Or.inl rfl) silent_nil
    rw [if_neg hlocal]
    cases htext : sdsText cfg frame with
    | none => exact .refused (Or.inl rfl) silent_nil
    | some text =>
      dsimp only
      by_cases hdir : cfg.smsCommandDir = false
      · rw [if_pos hdir]
        exact .refused (Or.inl rfl) silent_nil
      rw [if_neg hdir]
      by_cases hdup : ((s.recentInboundSds.purge c.handled).get?
          ⟨pending.source, pending.destination, text⟩).isSome = true
      · rw [if_pos hdup]
        exact .repeated pending text hpending htext ((isSome_purge_iff _ _ _).mp hdup) rfl rfl
      · rw [if_neg hdup]
        have hlive := fun h => hdup ((isSome_purge_iff _ _ _).mpr h)
        unfold publishSds
        split_ifs
        · exact .refused (Or.inr rfl) (by simp [Silent])
        · exact .stored pending text hpending htext hlive rfl rfl

theorem handleInboundSds_pendingSds (c : Readings) (o : Outcomes) (callUuid frame : Bytes)
    {u : Bytes} {p : PendingSds}
    (h : (s.handleInboundSds cfg c o callUuid frame).1.pendingSds.get? u = some p) :
    s.pendingSds.get? u = some p := by
  have herase : ((s.pendingSds.erase callUuid).get? u = some p) → s.pendingSds.get? u = some p := by
    intro he
    rw [Dict.get?_erase] at he
    split_ifs at he
    exact he
  unfold handleInboundSds at h
  by_cases hlen : frame.length < 20
  · rw [if_pos hlen] at h
    exact h
  rw [if_neg hlen] at h
  cases hpending : s.pendingSds.get? callUuid with
  | none =>
    rw [hpending] at h
    exact h
  | some pending =>
    rw [hpending] at h
    dsimp only at h
    refine herase ?_
    by_cases hlocal : pending.destination ∉ s.localIssis
    · rw [if_pos hlocal] at h
      exact h
    rw [if_neg hlocal] at h
    cases htext : sdsText cfg frame with
    | none =>
      rw [htext] at h
      exact h
    | some text =>
      rw [htext] at h
      dsimp only at h
      unfold publishSds at h
      split_ifs at h
      · exact h
      · exact h
      · exact h
      · exact h

/-! ## Runs -/

/-- When a frame is handled. -/
def handledTime : BrewEvent → Option Time
  | .frame c _ _ => some c.handled
  | _ => none

/-- The time at which an event is handled. -/
def handledAt (e : BrewEvent) : Time := (handledTime e).getD 0

/-- The clock does not go back. -/
def Steady (events : List BrewEvent) : Prop := (events.filterMap handledTime).Pairwise (· ≤ ·)

instance : DecidablePred Steady := fun _ => inferInstanceAs (Decidable (List.Pairwise _ _))

/-- The header in an event. -/
def announces : BrewEvent → Option (Bytes × ℕ × ℕ)
  | .frame _ _ frame => sdsHeader frame
  | _ => none

/-- The header of a call is the last one of the events. -/
def Announced (events : List BrewEvent) (u : Bytes) (source destination : ℕ) : Prop :=
  ∃ pre e post, events = pre ++ e :: post ∧ announces e = some (u, source, destination) ∧
    ∀ e' ∈ post, (announces e').map Prod.fst ≠ some u

theorem announced_concat {events : List BrewEvent} {e : BrewEvent} {u : Bytes}
    {source destination : ℕ} (h : Announced events u source destination)
    (he : (announces e).map Prod.fst ≠ some u) : Announced (events ++ [e]) u source destination := by
  obtain ⟨pre, e', post, rfl, ha, hpost⟩ := h
  refine ⟨pre, e', post ++ [e], by rw [List.append_assoc, List.cons_append], ha, fun e₁ h₁ => ?_⟩
  rcases List.mem_append.mp h₁ with h₁ | h₁
  · exact hpost e₁ h₁
  · exact (List.mem_singleton.mp h₁).symm ▸ he

theorem freshSds_get? {now : Time} {pending : Dict Bytes PendingSds} {u : Bytes} {p : PendingSds}
    (h : (freshSds now pending).get? u = some p) : pending.get? u = some p := by
  rw [freshSds, Dict.get?_filter, Option.filter_eq_some_iff] at h
  exact h.1

/-- **A header that waits** is the last one of its call. -/
theorem pendingSds_origin (router : TalkgroupRouter) (localIssis : Finset ℕ)
    (events : List BrewEvent) : ∀ u p,
      (Run.final (bridgeStep cfg) (init router localIssis) events).pendingSds.get? u = some p →
        Announced events u p.source p.destination := by
  induction events using List.reverseRecOn with
  | nil => exact fun u p h => absurd h (Option.some_ne_none _).symm
  | append_singleton events e ih =>
    intro u p h
    rw [Run.final_concat] at h
    generalize hs : Run.final (bridgeStep cfg) (init router localIssis) events = s at h ih
    have hsame : s.pendingSds.get? u = some p → (announces e).map Prod.fst ≠ some u →
        Announced (events ++ [e]) u p.source p.destination := fun hp he =>
      announced_concat (ih u p hp) he
    have hnone : announces e = none → (announces e).map Prod.fst ≠ some u := by
      intro hn
      rw [hn]
      exact (Option.some_ne_none _).symm
    cases e with
    | frame c o frame =>
      rcases sds_onBrewBinary cfg (s := s) c o frame with ⟨-, hh, hr⟩ | ⟨-, w, source, destination,
        hh, -, -, hp⟩ | ⟨-, hh, hno⟩
      · have hp : (handleInboundSds cfg c o ((frame.drop 2).take 16) frame { s with
            pendingSds := freshSds c.received s.pendingSds }).1.pendingSds.get? u = some p := by
          rw [← hr]
          exact h
        exact hsame (freshSds_get? (handleInboundSds_pendingSds cfg c o _ _ hp)) (hnone hh)
      · have hget : ((freshSds c.received s.pendingSds).set w
            ⟨source, destination, c.received⟩).get? u = some p := by
          rw [← hp]
          exact h
        rw [Dict.get?_set] at hget
        split_ifs at hget with huw
        · obtain rfl := Option.some.inj hget
          exact ⟨events, _, [], rfl, huw ▸ hh, fun _ hm => absurd hm List.not_mem_nil⟩
        · refine hsame (freshSds_get? hget) ?_
          show (sdsHeader frame).map Prod.fst ≠ some u
          rw [hh]
          exact fun he => huw (Option.some.inj he).symm
      · have hget : (s.onBrewBinary cfg c o frame).1.pendingSds.get? u = some p := h
        rcases hno.pendingSds with hp | hp
        · rw [hp] at hget
          exact hsame hget (hnone hh)
        · rw [hp] at hget
          exact hsame (freshSds_get? hget) (hnone hh)
    | playout now =>
      have hp : (s.playout cfg now).1.pendingSds.get? u = some p := h
      rw [(playout_silent cfg now).1] at hp
      exact hsame hp (hnone rfl)
    | disconnected => exact hsame h (hnone rfl)
    | routes r => exact hsame h (hnone rfl)
    | registered l => exact hsame h (hnone rfl)
    | uplink active => exact hsame h (hnone rfl)
    | owned callUuid expiry => exact hsame h (hnone rfl)

/-- An event publishes a text. -/
def Publishes (s : AudioBridge) (e : BrewEvent) (key : SdsKey) : Prop :=
  ∃ u path, .published u path (sdsDocument key.source key.destination key.text) ∈
    (bridgeStep cfg s e).2

/-- Until when a text that is published now is remembered. -/
def rememberedUntil (e : BrewEvent) : Time := handledAt e + BREW_SDS_DUPLICATE_WINDOW

theorem not_publishes_of_silent {e : BrewEvent} {key : SdsKey}
    (h : Silent (bridgeStep cfg s e).2) : ¬ Publishes cfg s e key := by
  rintro ⟨u, path, hm⟩
  exact h.1 u path _ hm

/-- An event that is not the payload of a text message is silent. -/
theorem bridgeStep_sds (e : BrewEvent) :
    (Silent (bridgeStep cfg s e).2 ∧
      (bridgeStep cfg s e).1.recentInboundSds = s.recentInboundSds) ∨
    ∃ c o frame, e = .frame c o frame ∧ SdsOutcome cfg c o ((frame.drop 2).take 16) frame
      { s with pendingSds := freshSds c.received s.pendingSds } (bridgeStep cfg s e) := by
  cases e with
  | frame c o frame =>
    rcases sds_onBrewBinary cfg (s := s) c o frame with ⟨-, -, hr⟩ | ⟨-, w, source, destination, -,
      he, hrec, -⟩ | ⟨-, -, hno⟩
    · refine Or.inr ⟨c, o, frame, rfl, ?_⟩
      show SdsOutcome cfg c o _ _ _ (s.onBrewBinary cfg c o frame)
      rw [hr]
      exact handleInboundSds_outcome cfg c o _ _
    · refine Or.inl ⟨?_, hrec⟩
      show Silent (s.onBrewBinary cfg c o frame).2
      rw [he]
      exact silent_nil
    · exact Or.inl ⟨hno.silent, hno.recentInboundSds⟩
  | playout now =>
    obtain ⟨-, hrec, hs⟩ := playout_silent cfg (s := s) now
    exact Or.inl ⟨hs, hrec⟩
  | disconnected => exact Or.inl ⟨silent_nil, rfl⟩
  | routes r => exact Or.inl ⟨silent_nil, rfl⟩
  | registered l => exact Or.inl ⟨silent_nil, rfl⟩
  | uplink active => exact Or.inl ⟨silent_nil, rfl⟩
  | owned callUuid expiry => exact Or.inl ⟨silent_nil, rfl⟩

theorem publishes_stored_iff {u path : Bytes} {e : BrewEvent} {sent : Bool} (key key' : SdsKey)
    (heffects : (bridgeStep cfg s e).2 = [.published u path
      (sdsDocument key'.source key'.destination key'.text), .reported u sent]) :
    Publishes cfg s e key ↔ key = key' := by
  constructor
  · rintro ⟨v, path', hm⟩
    rw [heffects] at hm
    simp only [List.mem_cons, BridgeEffect.published.injEq, reduceCtorEq, List.not_mem_nil,
      or_false] at hm
    obtain ⟨hsource, hdestination, htext⟩ := sdsDocument_inj hm.2.2
    cases key
    cases key'
    simp only at hsource hdestination htext
    rw [hsource, hdestination, htext]
  · rintro rfl
    refine ⟨u, path, ?_⟩
    rw [heffects]
    exact List.mem_cons_self

/-- **One event** and the texts that are remembered. -/
theorem live_step (e : BrewEvent) {t : Time} (key : SdsKey) (ht : handledAt e ≤ t) :
    (bridgeStep cfg s e).1.recentInboundSds.Live t key ↔
      s.recentInboundSds.Live t key ∨ (Publishes cfg s e key ∧ t < rememberedUntil e) := by
  have hquiet : ¬ Publishes cfg s e key →
      ((bridgeStep cfg s e).1.recentInboundSds.Live t key ↔ s.recentInboundSds.Live t key) →
      ((bridgeStep cfg s e).1.recentInboundSds.Live t key ↔
        s.recentInboundSds.Live t key ∨ (Publishes cfg s e key ∧ t < rememberedUntil e)) := by
    intro hno hl
    rw [hl]
    exact ⟨Or.inl, fun h => h.resolve_right fun hp => hno hp.1⟩
  rcases bridgeStep_sds cfg (s := s) e with ⟨hs, hrec⟩ | ⟨c, o, frame, rfl, hout⟩
  · refine hquiet (not_publishes_of_silent cfg hs) ?_
    rw [hrec]
  · have hc : c.handled ≤ t := ht
    cases hout with
    | refused hrecent hsilent =>
      refine hquiet (not_publishes_of_silent cfg hsilent) ?_
      rcases hrecent with h | h
      · rw [h]
      · rw [h]
        exact ExpiryMap.live_purge_iff _ hc key
    | repeated pending text hpending htext hlive hrecent heffects =>
      refine hquiet ?_ ?_
      · rintro ⟨u, path, hm⟩
        rw [heffects] at hm
        simp at hm
      · rw [hrecent]
        exact ExpiryMap.live_purge_iff _ hc key
    | stored pending text hpending htext hlive hrecent heffects =>
      rw [hrecent, publishes_stored_iff cfg key ⟨pending.source, pending.destination, text⟩ heffects]
      refine (ExpiryMap.live_mark_iff _ _ _ _ _).trans ?_
      by_cases hk : key = ⟨pending.source, pending.destination, text⟩
      · rw [if_pos hk]
        refine ⟨fun h => Or.inr ⟨hk, h⟩, fun h => h.elim (fun hl => ?_) And.right⟩
        exact absurd (ExpiryMap.live_of_le hc (hk ▸ hl)) hlive
      · rw [if_neg hk]
        refine (ExpiryMap.live_purge_iff _ hc key).trans ?_
        exact ⟨Or.inl, fun h => h.resolve_right fun hp => hk hp.1⟩

/-- A text that is remembered is not published. -/
theorem not_live_of_publishes {e : BrewEvent} {key : SdsKey} (h : Publishes cfg s e key) :
    ¬ s.recentInboundSds.Live (handledAt e) key := by
  rcases bridgeStep_sds cfg (s := s) e with ⟨hs, -⟩ | ⟨c, o, frame, rfl, hout⟩
  · exact absurd h (not_publishes_of_silent cfg hs)
  · cases hout with
    | refused hrecent hsilent => exact absurd h (not_publishes_of_silent cfg hsilent)
    | repeated pending text hpending htext hlive hrecent heffects =>
      obtain ⟨u, path, hm⟩ := h
      rw [heffects] at hm
      simp at hm
    | stored pending text hpending htext hlive hrecent heffects =>
      obtain rfl := (publishes_stored_iff cfg key ⟨pending.source, pending.destination, text⟩
        heffects).mp h
      exact hlive

theorem handledAt_le_of_steady {pre post : List BrewEvent} {e : BrewEvent} {t : Time}
    (h : Steady (pre ++ e :: post)) (ht : handledTime e = some t) : ∀ e' ∈ pre, handledAt e' ≤ t := by
  intro e' he'
  unfold Steady at h
  rw [List.filterMap_append, List.filterMap_cons_some ht, List.pairwise_append] at h
  cases htime : handledTime e' with
  | none =>
    show (handledTime e').getD 0 ≤ t
    rw [htime]
    exact Nat.zero_le t
  | some t' =>
    show (handledTime e').getD 0 ≤ t
    rw [htime]
    exact h.2.2 t' (List.mem_filterMap.mpr ⟨e', he', htime⟩) t List.mem_cons_self

/-- A text was published less than a minute before `t`. -/
def PublishedBefore (s : AudioBridge) (events : List BrewEvent) (t : Time) (key : SdsKey) : Prop :=
  ExpiryMap.Marked (bridgeStep cfg) (Publishes cfg) rememberedUntil s events t key

/-- **A text is remembered** exactly for a minute. -/
theorem live_iff_published (router : TalkgroupRouter) (localIssis : Finset ℕ)
    {events : List BrewEvent} {t : Time} (key : SdsKey) (ht : ∀ e ∈ events, handledAt e ≤ t) :
    (Run.final (bridgeStep cfg) (init router localIssis) events).recentInboundSds.Live t key ↔
      PublishedBefore cfg (init router localIssis) events t key := by
  have hrun : (Run.final (bridgeStep cfg) (init router localIssis) events).recentInboundSds.Live t
      key ↔ (init router localIssis).recentInboundSds.Live t key ∨
        PublishedBefore cfg (init router localIssis) events t key :=
    ExpiryMap.live_run_iff (fun s e he => live_step cfg e key he) ht
  refine hrun.trans ⟨fun h => h.resolve_left (ExpiryMap.not_live_empty t key), Or.inr⟩

/-- An effect that publishes. -/
def publication : BridgeEffect → Bool
  | .published _ _ _ => true
  | _ => false

theorem countP_publication_le (e : BrewEvent) :
    (bridgeStep cfg s e).2.countP publication ≤ 1 := by
  have hsilent : ∀ effects : List BridgeEffect, Silent effects → effects.countP publication ≤ 1 := by
    intro effects hs
    have hzero : effects.countP publication = 0 := by
      rw [List.countP_eq_zero]
      intro effect hm hp
      cases effect with
      | published u path content => exact hs.1 u path content hm
      | callStarted u => exact absurd hp Bool.false_ne_true
      | callUpdated u => exact absurd hp Bool.false_ne_true
      | callIgnored u reason => exact absurd hp Bool.false_ne_true
      | reported u sent => exact absurd hp Bool.false_ne_true
      | raised => exact absurd hp Bool.false_ne_true
      | sessionClosed => exact absurd hp Bool.false_ne_true
      | played u ste => exact absurd hp Bool.false_ne_true
      | decoderClosed u => exact absurd hp Bool.false_ne_true
    omega
  rcases bridgeStep_sds cfg (s := s) e with ⟨hs, -⟩ | ⟨c, o, frame, rfl, hout⟩
  · exact hsilent _ hs
  · cases hout with
    | refused hrecent hs => exact hsilent _ hs
    | repeated pending text hpending htext hlive hrecent heffects =>
      rw [heffects]
      show 0 ≤ 1
      omega
    | stored pending text hpending htext hlive hrecent heffects =>
      rw [heffects]
      show 1 ≤ 1
      omega

/-- The text with the addresses of its header. -/
def Carries (events : List BrewEvent) (u frame : Bytes) (key : SdsKey) : Prop :=
  Announced events u key.source key.destination ∧ sdsText cfg frame = some key.text

/-- **A report** follows the publication of the text, now or less than a minute ago. -/
theorem published_of_reported (router : TalkgroupRouter) (localIssis : Finset ℕ)
    {pre : List BrewEvent} {c : Readings} {o : Outcomes} {frame : Bytes}
    (ht : ∀ e ∈ pre, handledAt e ≤ c.handled) {u : Bytes} {sent : Bool}
    (h : .reported u sent ∈ (bridgeStep cfg
      (Run.final (bridgeStep cfg) (init router localIssis) pre) (.frame c o frame)).2) :
    ∃ key, Carries cfg pre u frame key ∧
      ((∃ path, (bridgeStep cfg (Run.final (bridgeStep cfg) (init router localIssis) pre)
          (.frame c o frame)).2 =
        [.published u path (sdsDocument key.source key.destination key.text), .reported u sent]) ∨
      PublishedBefore cfg (init router localIssis) pre c.handled key) := by
  have horigin := pendingSds_origin cfg router localIssis pre
  have hremembered := fun key => live_iff_published cfg router localIssis key ht
  generalize Run.final (bridgeStep cfg) (init router localIssis) pre = s at h horigin hremembered ⊢
  rcases bridgeStep_sds cfg (s := s) (.frame c o frame) with ⟨hs, -⟩ | ⟨c', o', frame', he, hout⟩
  · exact absurd h (hs.2 u sent)
  obtain ⟨rfl, rfl, rfl⟩ := BrewEvent.frame.inj he
  cases hout with
  | refused hrecent hsilent => exact absurd h (hsilent.2 u sent)
  | repeated pending text hpending htext hlive hrecent heffects =>
    rw [heffects, List.mem_singleton] at h
    obtain ⟨rfl, rfl⟩ := BridgeEffect.reported.inj h
    refine ⟨⟨pending.source, pending.destination, text⟩, ⟨?_, htext⟩, Or.inr ?_⟩
    · exact horigin _ pending (freshSds_get? hpending)
    · exact (hremembered _).mp hlive
  | stored pending text hpending htext hlive hrecent heffects =>
    have hu : u = (frame.drop 2).take 16 ∧ sent = o.reportSent := by
      rw [heffects] at h
      simpa using h
    obtain ⟨rfl, rfl⟩ := hu
    refine ⟨⟨pending.source, pending.destination, text⟩, ⟨?_, htext⟩, Or.inl ⟨_, heffects⟩⟩
    exact horigin _ pending (freshSds_get? hpending)

/-- **An acknowledged text is stored**, and stored once a minute. -/
theorem acknowledged_stored (router : TalkgroupRouter) (localIssis : Finset ℕ)
    (events : List BrewEvent) (hsteady : Steady events) :
    (∀ pre c o frame post u sent, events = pre ++ .frame c o frame :: post →
      .reported u sent ∈ (bridgeStep cfg
        (Run.final (bridgeStep cfg) (init router localIssis) pre) (.frame c o frame)).2 →
      ∃ key, Carries cfg pre u frame key ∧
        ((∃ path, (bridgeStep cfg (Run.final (bridgeStep cfg) (init router localIssis) pre)
            (.frame c o frame)).2 =
          [.published u path (sdsDocument key.source key.destination key.text), .reported u sent]) ∨
        PublishedBefore cfg (init router localIssis) pre c.handled key)) ∧
    ∀ pre e post key, events = pre ++ e :: post →
      Publishes cfg (Run.final (bridgeStep cfg) (init router localIssis) pre) e key →
      ¬ PublishedBefore cfg (init router localIssis) pre (handledAt e) key ∧
        (bridgeStep cfg (Run.final (bridgeStep cfg) (init router localIssis) pre) e).2.countP
          publication ≤ 1 := by
  constructor
  · rintro pre c o frame post u sent rfl h
    exact published_of_reported cfg router localIssis (handledAt_le_of_steady hsteady rfl) h
  · rintro pre e post key rfl h
    refine ⟨fun hbefore => ?_, countP_publication_le cfg e⟩
    have hlive := not_live_of_publishes cfg h
    rcases bridgeStep_sds cfg
      (s := Run.final (bridgeStep cfg) (init router localIssis) pre) e with ⟨hs, -⟩ |
      ⟨c, o, frame, rfl, -⟩
    · exact not_publishes_of_silent cfg hs h
    · have ht : ∀ e ∈ pre, handledAt e ≤ c.handled := handledAt_le_of_steady hsteady rfl
      exact hlive ((live_iff_published cfg router localIssis key ht).mpr hbefore)

/-! ## A text that arrives twice -/

/-- Radio 9 announces a text to radio 7. -/
def headerFrame (n : UInt8) : Bytes :=
  [0xF1, 11] ++ sampleUuid n ++ [9, 0, 0, 0, 7, 0, 0, 0]

/-- The text "Hi". -/
def payloadFrame (n : UInt8) : Bytes :=
  [0xF2, 1] ++ sampleUuid n ++ [48, 0, 0x82, 0x04, 0x01, 0x01, 0x48, 0x69]

/-- The text arrives again after ten seconds. -/
def sampleTexts : List BrewEvent :=
  [frameAt 1 (headerFrame 1), frameAt 2 (payloadFrame 1), frameAt 11 (headerFrame 2),
    frameAt 12 (payloadFrame 2)]

theorem acknowledged_sample : ∃ key : SdsKey,
    Carries sampleAudio (sampleTexts.take 3) (sampleUuid 2) (payloadFrame 2) key ∧
    PublishedBefore sampleAudio sampleBridge (sampleTexts.take 3) (seconds 12) key := by
  have hall := acknowledged_stored sampleAudio sampleRouter {7} sampleTexts (by decide +kernel)
  obtain ⟨key, hcarries, ⟨path, hnow⟩ | hbefore⟩ := hall.1 (sampleTexts.take 3) _ _ _ []
    (sampleUuid 2) true rfl (by decide +kernel)
  · refine absurd (congrArg List.length hnow) ?_
    show ¬ _ = 2
    decide +kernel
  · exact ⟨key, hcarries, hbefore⟩

end AudioBridge

end Brew
