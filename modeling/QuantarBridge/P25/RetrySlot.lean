import QuantarBridge.P25.Delivery

/-!
# Who owns the retry slot

A session that waits for the acknowledgement of a fragment should find this fragment in the retry
slot. Nothing protects the slot: a response of another radio empties it and other messages replace
what it holds.

* `Owned`: the slot holds the fragment of the only session that waits;
* `Calm`: a change after which no other session waits, `owned_of_calm`;
* `Kept`: a change that keeps the data unit in the slot, `retransmissions`: what is sent again;
* `Undisturbed`: an event that leaves the slot alone while a session waits;
* `owned_step`, `visited_step`: the step lemmas, `ticks_le_patience`: how long a session waits;
* `retrySlot_of_undisturbed`: **the theorem about runs**.
-/

set_option autoImplicit false

namespace P25

open Lib

/-- Whether the clock ticks. -/
def DataEvent.isClock : DataEvent → Bool
  | .clock _ _ _ _ => true
  | _ => false

namespace Data

variable (cfg : DataConfig) {s s' s'' : Data}

/-- The session of a radio waits for the acknowledgement of a fragment. -/
def Waits (s : Data) (llId : ℕ) (session : MotorolaSession) : Prop :=
  s.sessions.get? llId = some session ∧ session.pendingTmsFragmentAck = true

/-- No session waits. -/
def Idle (s : Data) : Prop := s.sessions.any (fun _ session => session.pendingTmsFragmentAck) = false

instance : DecidablePred Idle := fun _ => inferInstanceAs (Decidable (_ = false))

/-- The data unit of the fragment that a session has come to. -/
def fragmentPdu (llId ns : ℕ) (session : MotorolaSession) : Option Pdu :=
  session.pendingTmsFragments[session.pendingTmsFragmentIndex]?.map fun fragment =>
    cfg.assemble (fragmentHeader llId session.pendingTmsFragmentIndex
      session.pendingTmsFragments.length ns fragment.length) fragment

/-- The slot holds the fragment of the session that waits. -/
structure Owned (s : Data) : Prop where
  slot : ∀ llId session, s.Waits llId session →
    ∃ retry, s.retry = some retry ∧
      fragmentPdu cfg llId session.pendingTmsFragmentNs session = some retry.pdu
  single : ∀ llId llId' session session', s.Waits llId session → s.Waits llId' session' →
    llId = llId'

theorem idle_iff : s.Idle ↔ ∀ llId session, ¬ s.Waits llId session := by
  rw [Idle, ← Bool.not_eq_true, Dict.any_iff]
  constructor
  · intro h llId session hw
    exact h ⟨llId, session, hw.1, hw.2⟩
  · rintro h ⟨llId, session, hs, hw⟩
    exact h llId session ⟨hs, hw⟩

theorem owned_of_idle (h : s.Idle) : s.Owned cfg where
  slot := fun llId session hw => absurd hw (idle_iff.mp h llId session)
  single := fun llId _ session _ hw _ => absurd hw (idle_iff.mp h llId session)

theorem idle_of_retry_eq_none {cfg : DataConfig} (h : s.Owned cfg) (hr : s.retry = none) :
    s.Idle := by
  refine idle_iff.mpr fun llId session hw => ?_
  obtain ⟨retry, he, -⟩ := h.slot llId session hw
  exact Option.some_ne_none retry (he.symm.trans hr)

/-! ## Calm changes -/

/-- Whatever session waits after the change waited before, for the same fragment. -/
def Calm (s s' : Data) : Prop :=
  ∀ llId session', s'.Waits llId session' →
    ∃ session, s.Waits llId session ∧ session.text = session'.text

theorem Calm.refl (s : Data) : Calm s s := fun _ session' h => ⟨session', h, rfl⟩

theorem Calm.trans (h : Calm s s') (h' : Calm s' s'') : Calm s s'' := by
  intro llId session'' hw
  obtain ⟨session', hw', he'⟩ := h' llId session'' hw
  obtain ⟨session, hw₀, he⟩ := h llId session' hw'
  exact ⟨session, hw₀, he.trans he'⟩

theorem calm_of_sessions_eq (h : s'.sessions = s.sessions) : Calm s s' := by
  intro llId session' hw
  refine ⟨session', ⟨?_, hw.2⟩, rfl⟩
  rw [← h]
  exact hw.1

theorem calm_of_messageOf (h : s'.messageOf = s.messageOf) : Calm s s' := by
  intro llId session' hw
  have htext : (s.sessionOf llId).text = session'.text := by
    have he : (s'.sessionOf llId).text = (s.sessionOf llId).text :=
      congrFun (textOf_of_messageOf h) llId
    rw [sessionOf_eq hw.1] at he
    exact he.symm
  have hack : (s.sessionOf llId).pendingTmsFragmentAck = true :=
    (congrArg (fun t => t.delivery.awaited) htext).trans hw.2
  cases hs : s.sessions.get? llId with
  | none =>
    unfold sessionOf at hack
    rw [hs] at hack
    exact absurd hack Bool.false_ne_true
  | some session =>
    rw [sessionOf_eq hs] at htext hack
    exact ⟨session, ⟨hs, hack⟩, htext⟩

theorem Calm.idle (h : Calm s s') (hi : s.Idle) : s'.Idle := by
  refine idle_iff.mpr fun llId session' hw => ?_
  obtain ⟨session, hw₀, -⟩ := h llId session' hw
  exact idle_iff.mp hi llId session hw₀

/-- A change of one session that leaves the fragment alone while it waits. -/
theorem calm_modifySession {llId : ℕ} {f : MotorolaSession → MotorolaSession}
    (hf : ∀ session, (f session).pendingTmsFragmentAck = true →
      session.text = (f session).text) : Calm s (s.modifySession llId f) := by
  rintro llId' session' ⟨hs, hw⟩
  unfold modifySession at hs
  dsimp only at hs
  rw [Dict.get?_modify] at hs
  split_ifs at hs with h
  · obtain ⟨session, hs₀, rfl⟩ := Option.map_eq_some_iff.mp hs
    have he := hf session hw
    refine ⟨session, ⟨hs₀, ?_⟩, he⟩
    have hack : session.pendingTmsFragmentAck = (f session).pendingTmsFragmentAck :=
      congrArg (fun t => t.delivery.awaited) he
    rw [hack]
    exact hw
  · exact ⟨session', ⟨hs, hw⟩, rfl⟩

theorem fragmentPdu_congr {a b : MotorolaSession} (h : a.delivery = b.delivery) (llId ns : ℕ) :
    fragmentPdu cfg llId ns a = fragmentPdu cfg llId ns b := by
  have hf : a.pendingTmsFragments = b.pendingTmsFragments := congrArg Delivery.fragments h
  have hi : a.pendingTmsFragmentIndex = b.pendingTmsFragmentIndex := congrArg Delivery.index h
  unfold fragmentPdu
  rw [hf, hi]

/-- **The slot stays owned** when the fragments that are waited for and the slot stay the same. -/
theorem owned_of_delivery {cfg : DataConfig} (h : s.Owned cfg)
    (hkeep : ∀ llId session', s'.Waits llId session' →
      ∃ session, s.Waits llId session ∧ session.delivery = session'.delivery)
    (hr : s'.retry.map Retry.pdu = s.retry.map Retry.pdu) : s'.Owned cfg := by
  refine ⟨fun llId session' hw => ?_, fun llId llId' a b ha hb => ?_⟩
  · obtain ⟨session, hw₀, he⟩ := hkeep llId session' hw
    obtain ⟨retry, hretry, hpdu⟩ := h.slot llId session hw₀
    rw [hretry, Option.map_some, Option.map_eq_some_iff] at hr
    obtain ⟨retry', hretry', hp⟩ := hr
    have hns : session.pendingTmsFragmentNs = session'.pendingTmsFragmentNs :=
      congrArg Delivery.ns he
    refine ⟨retry', hretry', ?_⟩
    rw [hp, ← hpdu, hns, fragmentPdu_congr cfg he]
  · obtain ⟨a₀, ha₀, -⟩ := hkeep llId a ha
    obtain ⟨b₀, hb₀, -⟩ := hkeep llId' b hb
    exact h.single llId llId' a₀ b₀ ha₀ hb₀

/-- A calm change keeps the slot of the session that waits, or no session waits any more. -/
theorem owned_of_calm {cfg : DataConfig} (h : s.Owned cfg) (hcalm : Calm s s')
    (hr : s'.Idle ∨ s'.retry = s.retry) : s'.Owned cfg := by
  rcases hr with hi | hr
  · exact owned_of_idle cfg hi
  refine owned_of_delivery h (fun llId session' hw => ?_) (by rw [hr])
  obtain ⟨session, hw₀, he⟩ := hcalm llId session' hw
  exact ⟨session, hw₀, congrArg Text.delivery he⟩

theorem owned_modifySession {cfg : DataConfig} (h : s.Owned cfg) {llId : ℕ}
    {f : MotorolaSession → MotorolaSession} (hs' : s'.sessions = (s.modifySession llId f).sessions)
    (hf : ∀ session, (f session).delivery = session.delivery)
    (hr : s'.retry.map Retry.pdu = s.retry.map Retry.pdu) : s'.Owned cfg := by
  refine owned_of_delivery h (fun w session' hw => ?_) hr
  obtain ⟨hsession, hack'⟩ := hw
  rw [hs'] at hsession
  unfold modifySession at hsession
  dsimp only at hsession
  rw [Dict.get?_modify] at hsession
  split_ifs at hsession with hk
  · obtain ⟨session, hs, rfl⟩ := Option.map_eq_some_iff.mp hsession
    have hack : (f session).pendingTmsFragmentAck = session.pendingTmsFragmentAck :=
      congrArg Delivery.awaited (hf session)
    exact ⟨session, ⟨hs, hack.symm.trans hack'⟩, (hf session).symm⟩
  · exact ⟨session', ⟨hsession, hack'⟩, rfl⟩

/-- A calm change that keeps the slot, or after which no session waits. -/
structure Steady (s s' : Data) : Prop where
  calm : Calm s s'
  retry : s'.Idle ∨ s'.retry = s.retry

theorem Steady.refl (s : Data) : Steady s s := ⟨Calm.refl s, Or.inr rfl⟩

theorem Steady.owned {cfg : DataConfig} (hs : Steady s s') (h : s.Owned cfg) : s'.Owned cfg :=
  owned_of_calm h hs.calm hs.retry

theorem steady_of_idle (h : s.Idle) (hcalm : Calm s s') : Steady s s' :=
  ⟨hcalm, Or.inl (hcalm.idle h)⟩

/-- A calm change that keeps the data unit in the slot, which may have been sent again, or after
which no session waits. -/
structure Kept (s s' : Data) : Prop where
  calm : Calm s s'
  retry : s'.Idle ∨ s'.retry.map Retry.pdu = s.retry.map Retry.pdu ∧
    (s.retry.map Retry.count).getD 0 ≤ (s'.retry.map Retry.count).getD 0

theorem Steady.kept (h : Steady s s') : Kept s s' :=
  ⟨h.calm, h.retry.imp_right fun hr => ⟨by rw [hr], by rw [hr]⟩⟩

theorem Kept.owned {cfg : DataConfig} (hk : Kept s s') (h : s.Owned cfg) : s'.Owned cfg := by
  rcases hk.retry with hi | ⟨hr, -⟩
  · exact owned_of_idle cfg hi
  refine owned_of_delivery h (fun llId session' hw => ?_) hr
  obtain ⟨session, hw₀, he⟩ := hk.calm llId session' hw
  exact ⟨session, hw₀, congrArg Text.delivery he⟩

/-! ## Data units -/

theorem calm_writeRfPdu (s : Data) (pdu : Pdu) : Calm s (s.writeRfPdu pdu).1 :=
  calm_of_sessions_eq rfl

/-- **A fragment is sent** into an empty slot, and its session waits. -/
theorem owned_writeNextFragment (listening : Bool) (targetRid : ℕ) (h : s.Idle) :
    (s.writeNextMotorolaTmsInboundFragment cfg listening targetRid).2.1.Owned cfg := by
  unfold writeNextMotorolaTmsInboundFragment
  cases hs : s.sessions.get? targetRid with
  | none => exact owned_of_idle cfg h
  | some session =>
    dsimp only
    cases hf : session.pendingTmsFragments[session.pendingTmsFragmentIndex]? with
    | none => exact owned_of_idle cfg h
    | some fragment =>
      dsimp only
      split_ifs
      · exact owned_of_idle cfg h
      · have hwaits : ∀ llId session', (s.modifySession targetRid fun session₀ =>
            { session₀ with
              nextOutboundNs := (session.nextOutboundNs % 8 + 1) % 8
              pendingTmsFragmentAck := true
              pendingTmsFragmentNs := session.nextOutboundNs % 8
              pendingTmsFragmentAckMs := kMotorolaTmsP25FragmentAckTimeoutMs }).Waits llId session' →
            llId = targetRid ∧ session'.pendingTmsFragmentNs = session.nextOutboundNs % 8 ∧
              session'.pendingTmsFragments = session.pendingTmsFragments ∧
              session'.pendingTmsFragmentIndex = session.pendingTmsFragmentIndex := by
          rintro llId session' ⟨hs', hw⟩
          unfold modifySession at hs'
          dsimp only at hs'
          rw [Dict.get?_modify] at hs'
          split_ifs at hs' with hk
          · rw [hk, hs, Option.map_some] at hs'
            obtain rfl := Option.some.inj hs'
            exact ⟨hk, rfl, rfl, rfl⟩
          · exact absurd ⟨hs', hw⟩ (idle_iff.mp h llId session')
        refine ⟨fun llId session' hw => ⟨⟨_, 0⟩, rfl, ?_⟩, fun llId llId' a b ha hb => ?_⟩
        · obtain ⟨rfl, hns, hfragments, hi⟩ := hwaits llId session' hw
          unfold fragmentPdu
          rw [hfragments, hi, hf, hns]
          rfl
        · exact (hwaits llId a ha).1.trans (hwaits llId' b hb).1.symm

/-! ## Responses -/

theorem pendingTmsFragmentAck_advanceFragment (session : MotorolaSession) :
    (advanceFragment session).pendingTmsFragmentAck = false := by
  unfold advanceFragment
  dsimp only
  split_ifs <;> rfl

theorem calm_acknowledgeSession (s : Data) (llId rid status : ℕ) :
    Calm s (s.acknowledgeSession llId rid status).1 := by
  unfold acknowledgeSession
  cases hs : s.sessions.get? rid with
  | none => exact Calm.refl s
  | some session =>
    dsimp only
    refine Calm.trans ?_ (calm_modifySession fun session' hw => ?_)
    · split_ifs
      · exact calm_of_messageOf (messageOf_remember s _ _ _)
      · exact Calm.refl s
    · split_ifs at hw ⊢
      · rw [pendingTmsFragmentAck_advanceFragment] at hw
        exact absurd hw Bool.false_ne_true
      · rw [pendingTmsFragmentAck_advanceFragment] at hw
        exact absurd hw Bool.false_ne_true
      · exact congrArg Message.text (message_progressOnAck llId rid status session').symm
      · exact congrArg Message.text (message_progressOnAck llId rid status session').symm

theorem not_waits_acknowledgeSession {llId rid status : ℕ} {session session' : MotorolaSession}
    (hs : s.sessions.get? rid = some session) (hawaits : awaits status session = true) :
    ¬ (s.acknowledgeSession llId rid status).1.Waits rid session' := by
  rintro ⟨hs', hw⟩
  unfold acknowledgeSession at hs'
  rw [hs] at hs'
  dsimp only [modifySession] at hs'
  rw [Dict.get?_modify, if_pos rfl] at hs'
  obtain ⟨session₀, -, rfl⟩ := Option.map_eq_some_iff.mp hs'
  rw [if_pos hawaits, pendingTmsFragmentAck_advanceFragment] at hw
  exact Bool.false_ne_true hw

/-- The response is the one that the waiting session awaits. -/
def AckAwaited (s : Data) (order : List ℕ) (llId status : ℕ) : Prop :=
  ∀ e ∈ s.sessions.entries, e.2.pendingTmsFragmentAck = true →
    s.findMotorolaResponseSession order llId = some e.1 ∧ awaits status e.2 = true

instance (s : Data) (order : List ℕ) (llId status : ℕ) :
    Decidable (s.AckAwaited order llId status) :=
  inferInstanceAs (Decidable (∀ e ∈ s.sessions.entries, _ → _))

theorem calm_receiveAck (s : Data) (order : List ℕ) (llId status : ℕ) :
    Calm s (s.receiveAck cfg order llId status).1 := by
  have hfirst : Calm s (((s.findMotorolaResponseSession order llId).map fun rid =>
      s.acknowledgeSession llId rid status).getD (s, [])).1 := by
    cases s.findMotorolaResponseSession order llId with
    | none => exact Calm.refl s
    | some rid => exact calm_acknowledgeSession s llId rid status
  unfold receiveAck
  generalize ((s.findMotorolaResponseSession order llId).map fun rid =>
    s.acknowledgeSession llId rid status).getD (s, []) = r at hfirst
  have hempty : Calm s { r.1 with retry := none } := hfirst
  dsimp only
  cases findMotorolaResponseSession { r.1 with retry := none } order llId with
  | none => exact hempty
  | some rid => exact hempty.trans (calm_of_messageOf (messageOf_announceAfterAck cfg _ rid))

theorem idle_receiveAck (order : List ℕ) (llId status : ℕ) (h : s.AckAwaited order llId status) :
    (s.receiveAck cfg order llId status).1.Idle := by
  have hfirst : (((s.findMotorolaResponseSession order llId).map fun rid =>
      s.acknowledgeSession llId rid status).getD (s, [])).1.Idle := by
    refine idle_iff.mpr fun w session' hw => ?_
    have hcalm : Calm s (((s.findMotorolaResponseSession order llId).map fun rid =>
        s.acknowledgeSession llId rid status).getD (s, [])).1 := by
      cases s.findMotorolaResponseSession order llId with
      | none => exact Calm.refl s
      | some rid => exact calm_acknowledgeSession s llId rid status
    obtain ⟨session, hw₀, he⟩ := hcalm w session' hw
    obtain ⟨hfind, hawaits⟩ := h (w, session) ((Dict.mem_entries_iff _ _ _).mpr hw₀.1) hw₀.2
    rw [hfind] at hw
    exact not_waits_acknowledgeSession hw₀.1 hawaits hw
  unfold receiveAck
  generalize ((s.findMotorolaResponseSession order llId).map fun rid =>
    s.acknowledgeSession llId rid status).getD (s, []) = r at hfirst
  have hempty : ({ r.1 with retry := none } : Data).Idle := hfirst
  dsimp only
  cases findMotorolaResponseSession { r.1 with retry := none } order llId with
  | none => exact hempty
  | some rid => exact (calm_of_messageOf (messageOf_announceAfterAck cfg _ rid)).idle hempty

theorem ack_restart (delayMs : ℕ) (session : MotorolaSession) :
    (restartMotorolaTmsInboundDelivery delayMs session).pendingTmsFragmentAck = true →
      session.text = (restartMotorolaTmsInboundDelivery delayMs session).text := by
  unfold restartMotorolaTmsInboundDelivery
  split_ifs
  · exact fun _ => rfl
  · exact fun h => h.elim

theorem calm_restart (s : Data) (delayMs llId : ℕ) :
    Calm s (s.modifySession llId (restartMotorolaTmsInboundDelivery delayMs)) :=
  calm_modifySession fun session => ack_restart delayMs session

theorem calm_reset (s : Data) (llId : ℕ) :
    Calm s (s.modifySession llId resetMotorolaTmsInboundDelivery) :=
  calm_modifySession fun _ h => absurd h Bool.false_ne_true

theorem idle_modifySession {llId : ℕ} {f : MotorolaSession → MotorolaSession}
    (hone : ∀ llId' session, s.Waits llId' session → llId' = llId)
    (hf : ∀ session, s.sessions.get? llId = some session → (f session).pendingTmsFragmentAck = false) :
    (s.modifySession llId f).Idle := by
  refine idle_iff.mpr ?_
  rintro llId' session' ⟨hs', hw⟩
  unfold modifySession at hs'
  dsimp only at hs'
  rw [Dict.get?_modify] at hs'
  split_ifs at hs' with hk
  · obtain ⟨session, hs, rfl⟩ := Option.map_eq_some_iff.mp hs'
    rw [hf session (hk ▸ hs)] at hw
    exact Bool.false_ne_true hw
  · exact hk (hone llId' session' ⟨hs', hw⟩)

/-- A session that starts anew because of a response is the one that waits. -/
def NackQuiet (s : Data) (order : List ℕ) (type : NackType) (llId : ℕ) : Prop :=
  type = .sequence → ∀ e ∈ s.sessions.entries, e.2.pendingTmsFragmentAck = true →
    ∀ e' ∈ s.sessions.entries, s.findMotorolaResponseSession order llId = some e'.1 →
      e'.2.pendingTmsFragments ≠ [] → e.1 = e'.1

instance (s : Data) (order : List ℕ) (type : NackType) (llId : ℕ) :
    Decidable (s.NackQuiet order type llId) :=
  inferInstanceAs (Decidable (_ → ∀ e ∈ s.sessions.entries, _ → ∀ e' ∈ s.sessions.entries, _))

theorem steady_receiveNack (order : List ℕ) (type : NackType) (llId status : ℕ)
    (hq : s.NackQuiet order type llId) : Steady s (s.receiveNack order type llId status) := by
  unfold receiveNack
  cases hfind : s.findMotorolaResponseSession order llId with
  | none => exact Steady.refl s
  | some rid =>
    cases type with
    | packetCrc =>
      refine ⟨calm_modifySession fun session _ => ?_, Or.inr rfl⟩
      split_ifs <;> rfl
    | other => exact Steady.refl s
    | sequence =>
      dsimp only
      split_ifs with hany
      · refine ⟨calm_restart s _ rid, Or.inl ?_⟩
        obtain ⟨session, hs, hf⟩ := (Option.any_eq_true _ _).mp hany
        have hne : session.pendingTmsFragments ≠ [] := of_decide_eq_true hf
        have hone : ∀ w session', s.Waits w session' → w = rid := fun w session' hw =>
          hq rfl (w, session') ((Dict.mem_entries_iff _ _ _).mpr hw.1) hw.2 (rid, session)
            ((Dict.mem_entries_iff _ _ _).mpr hs) hfind hne
        refine idle_modifySession hone fun session' hs' => ?_
        obtain rfl := Option.some.inj (hs.symm.trans hs')
        unfold restartMotorolaTmsInboundDelivery
        rw [if_neg hne]
      · exact Steady.refl s

/-- A request that empties the slot comes from the radio that the waiting session is sending to. -/
def RequestQuiet (s : Data) (order : List ℕ) (llId : ℕ) : Prop :=
  s.retry.any (fun retry => cfg.maxPduRetryCount ≤ retry.count) = true →
    ∀ e ∈ s.sessions.entries, e.2.pendingTmsFragmentAck = true →
      s.findMotorolaResponseSession order llId = some e.1

instance (s : Data) (order : List ℕ) (llId : ℕ) : Decidable (s.RequestQuiet cfg order llId) :=
  inferInstanceAs (Decidable (_ → ∀ e ∈ s.sessions.entries, _ → _))

/-- A radio asks for the data unit again. -/
theorem kept_receiveAckRetry (order : List ℕ) (llId ns : ℕ) (hq : s.RequestQuiet cfg order llId) :
    Kept s (s.receiveAckRetry cfg order llId ns).1 := by
  -- at the limit, the only session that may wait is the one that is reset
  have hone : s.retry.any (fun retry => cfg.maxPduRetryCount ≤ retry.count) = true →
      ∀ w session, s.Waits w session → s.failedSession order llId = some w := by
    intro hlimit w session hw
    have hfind := hq hlimit (w, session) ((Dict.mem_entries_iff _ _ _).mpr hw.1) hw.2
    refine Option.filter_eq_some_iff.mpr ⟨hfind, ?_⟩
    rw [hw.1]
    exact hw.2
  obtain ⟨-, he⟩ | ⟨pdu, count, hr, he⟩ | ⟨hlimit, hfail, he⟩ | ⟨rid, hlimit, hfail, he⟩ :=
    receiveAckRetry_cases cfg s order llId ns
  · rw [he]
    exact (Steady.refl s).kept
  · rw [he]
    refine ⟨calm_of_sessions_eq rfl, Or.inr ?_⟩
    rw [hr]
    exact ⟨rfl, Nat.le_succ _⟩
  · have hidle : s.Idle := idle_iff.mpr fun w session hw => by
      have hsome := hone hlimit w session hw
      rw [hfail] at hsome
      cases hsome
    rw [he]
    exact ⟨calm_of_sessions_eq rfl, Or.inl hidle⟩
  · rw [he]
    refine ⟨calm_reset s rid, Or.inl ?_⟩
    refine idle_modifySession (fun w session hw => ?_) fun _ _ => rfl
    exact Option.some.inj ((hone hlimit w session hw).symm.trans hfail)

/-! ## Packets of a radio -/

/-- A packet that leaves the slot alone while a session waits. -/
def PacketQuiet (s : Data) (sourceRid targetRid : ℕ) : RadioPacket → Prop
  | .registration _ _ => sourceRid = targetRid → s.Idle
  | .refresh _ _ _ => sourceRid = targetRid → s.Idle
  | .serviceAcknowledgement sourceIp =>
    sourceRid = targetRid → s.known sourceRid sourceIp = true → s.Idle
  | .message _ message => s.known sourceRid message.sourceIp = true → s.available sourceRid = true →
    ∀ e ∈ s.sessions.entries, e.2.pendingTmsFragmentAck = true → e.1 = sourceRid
  | .messageAcknowledgement _ _ => True
  | .locationReport _ _ => True

instance (s : Data) (sourceRid targetRid : ℕ) : DecidablePred (s.PacketQuiet sourceRid targetRid)
  | .registration _ _ => inferInstanceAs (Decidable (_ → _))
  | .refresh _ _ _ => inferInstanceAs (Decidable (_ → _))
  | .serviceAcknowledgement _ => inferInstanceAs (Decidable (_ → _ → _))
  | .message _ _ => inferInstanceAs (Decidable (_ → _ → ∀ e ∈ s.sessions.entries, _))
  | .messageAcknowledgement _ _ => inferInstanceAs (Decidable True)
  | .locationReport _ _ => inferInstanceAs (Decidable True)

theorem steady_serviceAcknowledgement (sourceRid sourceIp : ℕ) (ackNs : Option ℕ)
    (hq : s.known sourceRid sourceIp = true → s.Idle) :
    Steady s (s.handleMotorolaTmsServiceAcknowledgement cfg sourceRid sourceIp ackNs).1 := by
  have hcalm := calm_of_messageOf (messageOf_serviceAcknowledgement cfg s sourceRid sourceIp ackNs)
  by_cases hk : s.known sourceRid sourceIp = false
  · refine ⟨hcalm, Or.inr ?_⟩
    unfold handleMotorolaTmsServiceAcknowledgement
    rw [if_pos hk]
  · exact steady_of_idle (hq (Bool.of_not_eq_false hk)) hcalm

theorem steady_messageAcknowledgement (sourceRid sourceIp messageId : ℕ) (ackNs : Option ℕ) :
    Steady s (s.handleMotorolaTmsMessageAcknowledgement sourceRid sourceIp messageId ackNs).1 := by
  unfold handleMotorolaTmsMessageAcknowledgement
  split_ifs
  · exact Steady.refl s
  · refine ⟨calm_modifySession fun session hw => ?_, Or.inr rfl⟩
    split_ifs at hw ⊢
    · exact absurd hw Bool.false_ne_true
    · rfl

theorem steady_locationReport (sourceRid sourceIp : ℕ) (hasPosition : Bool) (ackNs : Option ℕ) :
    Steady s (s.handleMotorolaLocationReport cfg sourceRid sourceIp hasPosition ackNs).1 := by
  refine ⟨calm_of_messageOf (messageOf_locationReport cfg s sourceRid sourceIp hasPosition ackNs), ?_⟩
  unfold handleMotorolaLocationReport
  by_cases hk : s.known sourceRid sourceIp = false
  · rw [if_pos hk]
    exact Or.inr rfl
  · rw [if_neg hk]
    exact Or.inr rfl

theorem fragments_ne_nil_of_waits {cfg : DataConfig} (h : s.Owned cfg) {llId : ℕ}
    {session : MotorolaSession} (hw : s.Waits llId session) : session.pendingTmsFragments ≠ [] := by
  obtain ⟨retry, -, hpdu⟩ := h.slot llId session hw
  intro hnil
  unfold fragmentPdu at hpdu
  rw [hnil] at hpdu
  exact absurd hpdu.symm (Option.some_ne_none _)

theorem steady_message {cfg : DataConfig} (h : s.Owned cfg) (sourceRid targetRid : ℕ)
    (extendedAddress : Bool) (message : MotorolaTmsMessage) (ackNs : Option ℕ)
    (hq : s.PacketQuiet sourceRid targetRid (.message extendedAddress message)) :
    Steady s
      (s.handleMotorolaTmsMessage cfg sourceRid targetRid extendedAddress message ackNs).1 := by
  unfold handleMotorolaTmsMessage
  by_cases hrefused : (extendedAddress = false ∧ sourceRid ≠ targetRid) ∨
      (extendedAddress = true ∧ (sourceRid = 0 ∨ targetRid = 0)) ∨
      s.known sourceRid message.sourceIp = false ∨ s.available sourceRid = false
  · rw [if_pos hrefused]
    exact Steady.refl s
  rw [if_neg hrefused]
  simp only [not_or, Bool.not_eq_false] at hrefused
  have hrestart := calm_restart s kMotorolaTmsP25FragmentRestartDelayMs sourceRid
  have hidle : (s.modifySession sourceRid
      (restartMotorolaTmsInboundDelivery kMotorolaTmsP25FragmentRestartDelayMs)).Idle := by
    refine idle_modifySession (fun w session hw => ?_) fun session hs => ?_
    · exact hq hrefused.2.2.1 hrefused.2.2.2 (w, session)
        ((Dict.mem_entries_iff _ _ _).mpr hw.1) hw.2
    · unfold restartMotorolaTmsInboundDelivery
      split_ifs with hnil
      · by_contra hack
        exact fragments_ne_nil_of_waits h ⟨hs, Bool.of_not_eq_false hack⟩ hnil
      · rfl
  dsimp only
  split_ifs
  · have hcalm := fun responderRid responderIp => calm_of_messageOf (messageOf_directAcknowledgement cfg
      (s.modifySession sourceRid
        (restartMotorolaTmsInboundDelivery kMotorolaTmsP25FragmentRestartDelayMs)) sourceRid
      responderRid responderIp extendedAddress message.operation message.messageId)
    exact ⟨hrestart.trans (hcalm _ _), Or.inl ((hcalm _ _).idle hidle)⟩
  · have hcalm := calm_of_messageOf (messageOf_acknowledgement cfg (s.modifySession sourceRid
      (restartMotorolaTmsInboundDelivery kMotorolaTmsP25FragmentRestartDelayMs)) sourceRid
      message.operation message.messageId)
    exact ⟨hrestart.trans hcalm, Or.inl (hcalm.idle hidle)⟩

theorem Steady.trans (h : Steady s s') (h' : Steady s' s'') : Steady s s'' := by
  refine ⟨h.calm.trans h'.calm, ?_⟩
  rcases h'.retry with hi | hr'
  · exact Or.inl hi
  · exact h.retry.imp (fun hi => h'.calm.idle hi) fun hr => hr'.trans hr

theorem steady_remember (s : Data) (a b ns : ℕ) :
    Steady s (s.rememberMotorolaPacketNs a b ns) := by
  refine ⟨calm_of_messageOf (messageOf_remember s a b ns), Or.inr ?_⟩
  unfold rememberMotorolaPacketNs
  split_ifs <;> rfl

theorem packetQuiet_remember {sourceRid targetRid : ℕ} {packet : RadioPacket} (a b ns : ℕ)
    (hq : s.PacketQuiet sourceRid targetRid packet) :
    (s.rememberMotorolaPacketNs a b ns).PacketQuiet sourceRid targetRid packet := by
  unfold rememberMotorolaPacketNs
  split_ifs
  · exact hq
  · exact hq

theorem steady_receivePacket {cfg : DataConfig} (h : s.Owned cfg) (sourceRid targetRid ns : ℕ)
    (ackNeeded : Bool) (packet : RadioPacket) (hq : s.PacketQuiet sourceRid targetRid packet) :
    Steady s (s.receivePacket cfg sourceRid targetRid ns ackNeeded packet).1 := by
  have hfirst := steady_remember s sourceRid targetRid ns
  have h' := hfirst.owned h
  have hq' := packetQuiet_remember sourceRid targetRid ns hq
  unfold receivePacket
  dsimp only
  refine hfirst.trans ?_
  generalize s.rememberMotorolaPacketNs sourceRid targetRid ns = s' at h' hq'
  cases packet with
  | message extendedAddress message => exact steady_message h' _ _ _ _ _ hq'
  | registration subscriberIp requestIpId =>
    dsimp only
    by_cases hne : sourceRid ≠ targetRid
    · rw [if_pos hne]
      exact Steady.refl s'
    · rw [if_neg hne]
      exact steady_of_idle (hq' (not_not.mp hne)) 
        (calm_of_messageOf (messageOf_registration cfg s' _ _ _ _))
  | refresh subscriberIp requestIpId registers =>
    dsimp only
    by_cases hne : sourceRid ≠ targetRid
    · rw [if_pos hne]
      exact Steady.refl s'
    · rw [if_neg hne]
      exact steady_of_idle (hq' (not_not.mp hne)) 
        (calm_of_messageOf (messageOf_refresh cfg s' _ _ _ _ _))
  | locationReport sourceIp hasPosition =>
    dsimp only
    by_cases hne : sourceRid ≠ targetRid
    · rw [if_pos hne]
      exact Steady.refl s'
    · rw [if_neg hne]
      exact steady_locationReport cfg _ _ _ _
  | serviceAcknowledgement sourceIp =>
    dsimp only
    by_cases hne : sourceRid ≠ targetRid
    · rw [if_pos hne]
      exact Steady.refl s'
    · rw [if_neg hne]
      exact steady_serviceAcknowledgement cfg _ _ _ (hq' (not_not.mp hne))
  | messageAcknowledgement sourceIp messageId =>
    dsimp only
    by_cases hne : sourceRid ≠ targetRid
    · rw [if_pos hne]
      exact Steady.refl s'
    · rw [if_neg hne]
      exact steady_messageAcknowledgement _ _ _ _

/-! ## The clock -/

/-- No session waits when a service announcement is sent. -/
def VisitQuiet (s : Data) (ms : ℕ) (listening : Bool) (llId : ℕ) : Prop :=
  (s.sessions.get? llId).any (announces ms listening) = true → (s.registration llId).isSome → s.Idle

instance (s : Data) (ms : ℕ) (listening : Bool) (llId : ℕ) :
    Decidable (s.VisitQuiet ms listening llId) := inferInstanceAs (Decidable (_ → _ → _))

theorem retry_service (s : Data) (llId : ℕ) (h : s.registration llId = none) :
    (s.writeMotorolaTmsServiceAvailability cfg llId).1 = s := by
  unfold writeMotorolaTmsServiceAvailability
  rw [h]

theorem retry_clockService {ms : ℕ} {listening : Bool} {llId : ℕ}
    (hq : s.VisitQuiet ms listening llId) :
    s.Idle ∨ (s.clockService cfg ms listening llId).1.retry = s.retry := by
  unfold clockService
  cases hs : s.sessions.get? llId with
  | none => exact Or.inr rfl
  | some session =>
    dsimp only
    split_ifs with hpending hdelay hlistening hattempts
    · exact Or.inr rfl
    · exact Or.inr rfl
    · exact Or.inr rfl
    · exact Or.inr rfl
    · cases hreg : s.registration llId with
      | none =>
        refine Or.inr ?_
        rw [retry_service cfg]
        · rfl
        · exact hreg
      | some ip =>
        refine Or.inl (hq ?_ (by rw [hreg]; rfl))
        rw [hs]
        simp only [not_or, Bool.not_eq_false] at hpending
        simp only [Option.any_some, announces, decide_eq_true_iff]
        exact ⟨hpending.1, hpending.2, by omega, Bool.of_not_eq_false hlistening, by omega⟩

theorem steady_clockService {ms : ℕ} {listening : Bool} {llId : ℕ}
    (hq : s.VisitQuiet ms listening llId) : Steady s (s.clockService cfg ms listening llId).1 := by
  have hcalm := calm_of_messageOf (messageOf_clockService cfg s ms listening llId)
  exact ⟨hcalm, (retry_clockService cfg hq).imp_left hcalm.idle⟩

theorem retry_eq_none_of_not_busy {listening : Bool} (h : ¬ (listening = false ∨ s.retry.isSome)) :
    listening = true ∧ s.retry = none := by
  simp only [not_or, Bool.not_eq_true, Option.isSome_eq_false_iff, Option.isNone_iff_eq_none,
    Bool.not_eq_false] at h
  exact h

theorem steady_clockLocation {cfg : DataConfig} (ms : ℕ) (listening : Bool) (llId : ℕ)
    (h : s.Owned cfg) : Steady s (s.clockLocation cfg ms listening llId).1 := by
  have hcalm := calm_of_messageOf (messageOf_clockLocation cfg s ms listening llId)
  cases hr : s.retry with
  | none => exact steady_of_idle (idle_of_retry_eq_none h hr) hcalm
  | some retry =>
    refine ⟨hcalm, Or.inr ?_⟩
    unfold clockLocation
    cases s.sessions.get? llId with
    | none => rfl
    | some session =>
      dsimp only
      rw [hr]
      split_ifs with h1 h2 h3
      · exact hr
      · exact hr
      · exact hr
      · exact absurd (Or.inr rfl) h3

theorem owned_clockExpired {cfg : DataConfig} (listening : Bool) {llId : ℕ}
    {session : MotorolaSession} (h : s.Owned cfg) (hw : s.Waits llId session) :
    (s.clockExpired cfg listening llId).1.Owned cfg := by
  obtain ⟨retry, hretry, -⟩ := h.slot llId session hw
  unfold clockExpired
  rw [hretry]
  dsimp only
  split_ifs
  · refine owned_modifySession h rfl ?_ rfl
    exact fun _ => rfl
  · have hsame : (s.modifySession llId fun session =>
        { session with pendingTmsFragmentAckMs := kMotorolaTmsP25FragmentAckTimeoutMs }).Owned cfg := by
      refine owned_modifySession h rfl ?_ rfl
      exact fun _ => rfl
    refine owned_of_delivery hsame (fun _ session' hw => ⟨session', hw, rfl⟩) ?_
    show _ = s.retry.map Retry.pdu
    rw [hretry]
    rfl
  · refine owned_of_idle cfg ?_
    exact idle_modifySession (fun w session' hw' => h.single _ _ _ _ hw' hw) fun _ _ => rfl

theorem owned_clockNextFragment {cfg : DataConfig} (ms : ℕ) (listening : Bool) (llId : ℕ)
    (session : MotorolaSession) (h : s.Owned cfg) :
    (s.clockNextFragment cfg ms listening llId session).1.Owned cfg := by
  unfold clockNextFragment
  by_cases hdelay : ms < session.pendingTmsFragmentDelayMs
  · rw [if_pos hdelay]
    exact owned_of_calm h (calm_modifySession fun _ _ => rfl) (Or.inr rfl)
  rw [if_neg hdelay]
  by_cases hbusy : listening = false ∨ s.retry.isSome = true
  · rw [if_pos hbusy]
    exact h
  rw [if_neg hbusy]
  have hnone := (retry_eq_none_of_not_busy hbusy).2
  have hidle : (s.modifySession llId fun session =>
      { session with pendingTmsFragmentDelayMs := 0 }).Idle := by
    refine Calm.idle ?_ (idle_of_retry_eq_none h hnone)
    exact calm_modifySession fun _ _ => rfl
  have hsent := owned_writeNextFragment cfg listening llId hidle
  generalize (s.modifySession llId fun session =>
    { session with pendingTmsFragmentDelayMs := 0 }).writeNextMotorolaTmsInboundFragment cfg listening
      llId = r at hsent
  obtain ⟨sent, s', effects⟩ := r
  cases sent with
  | true => exact hsent
  | false => exact owned_of_calm hsent (calm_modifySession fun _ _ => rfl) (Or.inr rfl)

theorem owned_clockDelivery {cfg : DataConfig} (ms : ℕ) (listening : Bool) (llId : ℕ)
    (h : s.Owned cfg) : (s.clockDelivery cfg ms listening llId).1.Owned cfg := by
  unfold clockDelivery
  cases hs : s.sessions.get? llId with
  | none => exact h
  | some session =>
    dsimp only
    split_ifs with h1 h2 h3 h4 h5 h6
    · exact h
    · refine owned_modifySession h rfl ?_ rfl
      exact fun _ => rfl
    · exact owned_clockExpired listening h ⟨hs, h2⟩
    · exact owned_clockNextFragment ms listening llId session h
    · exact owned_of_calm h (calm_modifySession fun _ _ => rfl) (Or.inr rfl)
    · exact owned_of_calm h (calm_reset s llId) (Or.inr rfl)
    · exact h

theorem owned_clockSession {cfg : DataConfig} {ms : ℕ} {listening : Bool} {llId : ℕ}
    (h : s.Owned cfg) (hq : s.VisitQuiet ms listening llId) :
    (s.clockSession cfg ms listening llId).1.Owned cfg := by
  have hservice := (steady_clockService cfg hq).owned h
  have hlocation := (steady_clockLocation ms listening llId hservice).owned hservice
  exact owned_clockDelivery ms listening llId hlocation

/-! ## What is sent again -/

/-- What the clock sends again, and to whom. -/
def retransmissions (os : List DataEffect) : List (ℕ × Pdu) :=
  os.filterMap fun
    | .retransmitted llId pdu => some (llId, pdu)
    | _ => none

theorem retransmissions_append (os os' : List DataEffect) :
    retransmissions (os ++ os') = retransmissions os ++ retransmissions os' :=
  List.filterMap_append

theorem retransmissions_of_plain {os : List DataEffect} (h : os.all DataEffect.plain = true) :
    retransmissions os = [] := by
  refine List.filterMap_eq_nil_iff.mpr fun o ho => ?_
  have hplain := List.all_eq_true.mp h o ho
  cases o with
  | retransmitted llId pdu => cases hplain
  | _ => rfl

theorem retransmissions_writeNextFragment (s : Data) (listening : Bool) (targetRid : ℕ) :
    retransmissions (s.writeNextMotorolaTmsInboundFragment cfg listening targetRid).2.2 = [] := by
  unfold writeNextMotorolaTmsInboundFragment
  cases s.sessions.get? targetRid with
  | none => rfl
  | some session =>
    dsimp only
    cases session.pendingTmsFragments[session.pendingTmsFragmentIndex]? with
    | none => rfl
    | some fragment =>
      dsimp only
      split_ifs <;> rfl

theorem retransmissions_clockSession (s : Data) (ms : ℕ) (listening : Bool) {llId : ℕ}
    (hnot : ∀ session, ¬ s.Waits llId session) :
    retransmissions (s.clockSession cfg ms listening llId).2 = [] := by
  have hbefore : Calm s
      ((s.clockService cfg ms listening llId).1.clockLocation cfg ms listening llId).1 :=
    (calm_of_messageOf (messageOf_clockService cfg s ms listening llId)).trans
      (calm_of_messageOf (messageOf_clockLocation cfg _ ms listening llId))
  have hservice := plain_clockService cfg s ms listening llId
  have hlocation := plain_clockLocation cfg (s.clockService cfg ms listening llId).1 ms listening llId
  unfold clockSession
  dsimp only
  rw [retransmissions_append, retransmissions_append, retransmissions_of_plain hservice,
    retransmissions_of_plain hlocation, List.append_nil, List.nil_append]
  generalize ((s.clockService cfg ms listening llId).1.clockLocation cfg ms listening llId).1 = s'
    at hbefore
  unfold clockDelivery
  cases hs : s'.sessions.get? llId with
  | none => rfl
  | some session =>
    dsimp only
    split_ifs with h1 h2 h3 h4 h5 h6
    · rfl
    · rfl
    · obtain ⟨session₀, hw, -⟩ := hbefore llId session ⟨hs, h2⟩
      exact absurd hw (hnot session₀)
    · unfold clockNextFragment
      split_ifs
      · rfl
      · rfl
      · have hnone := retransmissions_writeNextFragment cfg (s'.modifySession llId fun session =>
          { session with pendingTmsFragmentDelayMs := 0 }) listening llId
        generalize (s'.modifySession llId fun session =>
          { session with pendingTmsFragmentDelayMs := 0 }).writeNextMotorolaTmsInboundFragment cfg
            listening llId = r at hnone
        obtain ⟨sent, s'', effects⟩ := r
        cases sent <;> exact hnone
    · rfl
    · rfl
    · rfl

theorem retransmissions_visitSessions (ms : ℕ) (listening : Bool) (order : List ℕ)
    (hnodup : order.Nodup) : ∀ s : Data, (∀ w ∈ order, ∀ session, ¬ s.Waits w session) →
      retransmissions (visitSessions cfg ms listening order s).2 = [] := by
  induction order with
  | nil => exact fun s _ => rfl
  | cons llId rest ih =>
    intro s hnot
    obtain ⟨hfirst, hrest⟩ := List.nodup_cons.mp hnodup
    show retransmissions ((s.clockSession cfg ms listening llId).2 ++ (visitSessions cfg ms listening
      rest (s.clockSession cfg ms listening llId).1).2) = []
    rw [retransmissions_append, retransmissions_clockSession cfg s ms listening
      (hnot llId List.mem_cons_self), List.nil_append]
    refine ih hrest _ fun w hm session hw => ?_
    have hne : w ≠ llId := fun he => hfirst (he ▸ hm)
    have hget := only_clockSession cfg ms listening llId s w hne
    exact hnot w (List.mem_cons_of_mem _ hm) session ⟨hget.symm.trans hw.1, hw.2⟩

theorem retransmissions_writeDelivery (s : Data) (listening : Bool) (targetRid senderRid : ℕ)
    (text : Bytes) : retransmissions
      (s.writeMotorolaTmsInboundDelivery cfg listening targetRid senderRid text).2.2 = [] := by
  cases hd : s.deliverable listening targetRid text with
  | false =>
    rw [writeDelivery_of_not_deliverable cfg s hd senderRid]
    rfl
  | true =>
    obtain ⟨s', pdu, fragment, he, -⟩ := writeDelivery_of_deliverable cfg s hd senderRid
    rw [he]
    rfl

theorem retransmissions_pollFiles (listening : Bool) (spool : Spool) (names : List Bytes) :
    ∀ s : Data, retransmissions (pollFiles cfg listening spool names s).2 = [] := by
  induction names with
  | nil => exact fun s => rfl
  | cons name rest ih =>
    intro s
    unfold pollFiles
    cases s.outbox.get? name with
    | none => exact ih s
    | some file =>
      dsimp only
      cases readText file with
      | none => exact ih _
      | some text =>
        obtain ⟨sourceRid, targetRid, text⟩ := text
        dsimp only
        have hsent := retransmissions_writeDelivery cfg s listening targetRid sourceRid text
        generalize s.writeMotorolaTmsInboundDelivery cfg listening targetRid sourceRid text = r
          at hsent
        obtain ⟨started, s', effects⟩ := r
        cases started with
        | false => exact ih s'
        | true =>
          show retransmissions (effects ++ (s'.archiveSent spool targetRid name).2) = []
          rw [retransmissions_append, hsent, List.nil_append]
          unfold archiveSent
          split_ifs <;> rfl

theorem retransmissions_outbox (s : Data) (listening : Bool) (spool : Spool) :
    retransmissions (s.processMotorolaTmsOutbox cfg listening spool).2 = [] := by
  unfold processMotorolaTmsOutbox
  split_ifs
  · rfl
  · exact retransmissions_pollFiles cfg listening spool _ s

/-! ## A late acknowledgement -/

theorem waits_clockService {ms : ℕ} {listening : Bool} {llId w : ℕ} {session : MotorolaSession}
    (hw : s.Waits w session) : ∃ session', (s.clockService cfg ms listening llId).1.Waits w session' ∧
      session'.text = session.text :=
  calm_of_messageOf (messageOf_clockService cfg s ms listening llId).symm w session hw

theorem not_idle_of_waits {llId : ℕ} {session : MotorolaSession} (hw : s.Waits llId session) :
    ¬ s.Idle := fun h => idle_iff.mp h llId session hw

theorem retry_clockService_of_waits {ms : ℕ} {listening : Bool} {llId w : ℕ}
    {session : MotorolaSession} (hq : s.VisitQuiet ms listening llId) (hw : s.Waits w session) :
    (s.clockService cfg ms listening llId).1.retry = s.retry :=
  (retry_clockService cfg hq).resolve_left (not_idle_of_waits hw)

/-- What becomes of a session whose acknowledgement is late: its fragment, and nothing else, is sent
again, or its text is given up. -/
def Answered (s : Data) (llId : ℕ) (session : MotorolaSession) (r : Data × List DataEffect) :
    Prop :=
  ∃ retry, s.retry = some retry ∧
    fragmentPdu cfg llId session.pendingTmsFragmentNs session = some retry.pdu ∧
    ((retry.count < cfg.maxPduRetryCount ∧ retransmissions r.2 = [(llId, retry.pdu)] ∧
      r.1.retry = some ⟨retry.pdu, retry.count + 1⟩ ∧ ∃ session', r.1.Waits llId session' ∧
        session'.text = ⟨session.delivery, kMotorolaTmsP25FragmentAckTimeoutMs⟩) ∨
    (cfg.maxPduRetryCount ≤ retry.count ∧ retransmissions r.2 = [] ∧ .deliveryAborted llId ∈ r.2))

theorem answered_clockExpired {cfg : DataConfig} (h : s.Owned cfg) {llId : ℕ}
    {session : MotorolaSession} (hw : s.Waits llId session) :
    Answered cfg s llId session (s.clockExpired cfg true llId) := by
  obtain ⟨retry, hretry, hpdu⟩ := h.slot llId session hw
  refine ⟨retry, hretry, hpdu, ?_⟩
  unfold clockExpired
  rw [hretry]
  dsimp only
  rw [if_neg (by decide)]
  by_cases hcount : retry.count < cfg.maxPduRetryCount
  · rw [if_pos hcount]
    refine Or.inl ⟨hcount, rfl, rfl, { session with
      pendingTmsFragmentAckMs := kMotorolaTmsP25FragmentAckTimeoutMs }, ⟨?_, hw.2⟩, rfl⟩
    show (s.modifySession llId _).sessions.get? llId = _
    unfold modifySession
    dsimp only
    rw [Dict.get?_modify, if_pos rfl, hw.1, Option.map_some]
  · rw [if_neg hcount]
    exact Or.inr ⟨not_lt.mp hcount, rfl, List.mem_singleton.mpr rfl⟩

/-- A visit to a waiting session is a visit to its delivery. -/
theorem clockSession_of_waits {cfg : DataConfig} (h : s.Owned cfg) {ms llId : ℕ}
    {listening : Bool} {session : MotorolaSession} (hq : s.VisitQuiet ms listening llId)
    (hw : s.Waits llId session) :
    ∃ (s₁ : Data) (session₁ : MotorolaSession) (service : List DataEffect),
      s₁.Owned cfg ∧ s₁.retry = s.retry ∧ s₁.Waits llId session₁ ∧
        session₁.text = session.text ∧ service.all DataEffect.plain = true ∧
        s.clockSession cfg ms listening llId = ((s₁.clockDelivery cfg ms listening llId).1,
          service ++ (s₁.clockDelivery cfg ms listening llId).2) := by
  have h₁ := (steady_clockService cfg hq).owned h
  have hretry := retry_clockService_of_waits cfg hq hw
  obtain ⟨session₁, hw₁, he⟩ : ∃ session₁, (s.clockService cfg ms listening llId).1.Waits llId
    session₁ ∧ session₁.text = session.text := waits_clockService cfg hw
  refine ⟨_, session₁, (s.clockService cfg ms listening llId).2, h₁, hretry, hw₁, he,
    plain_clockService cfg s ms listening llId, ?_⟩
  have hlocation : (s.clockService cfg ms listening llId).1.clockLocation cfg ms listening llId =
      ((s.clockService cfg ms listening llId).1, []) := by
    unfold clockLocation
    rw [hw₁.1]
    exact if_pos (Or.inr (Or.inr (fragments_ne_nil_of_waits h₁ hw₁)))
  show ((((s.clockService cfg ms listening llId).1.clockLocation cfg ms listening
    llId).1.clockDelivery cfg ms listening llId).1, (s.clockService cfg ms listening llId).2 ++
      ((s.clockService cfg ms listening llId).1.clockLocation cfg ms listening llId).2 ++
        (((s.clockService cfg ms listening llId).1.clockLocation cfg ms listening
          llId).1.clockDelivery cfg ms listening llId).2) = _
  rw [hlocation, List.append_nil]

/-- **A late acknowledgement** makes the visit send the fragment again or give up the text. -/
theorem answered_clockSession {cfg : DataConfig} (h : s.Owned cfg) {ms llId : ℕ}
    {session : MotorolaSession} (hq : s.VisitQuiet ms true llId) (hw : s.Waits llId session)
    (hms : session.pendingTmsFragmentAckMs ≤ ms) :
    Answered cfg s llId session (s.clockSession cfg ms true llId) := by
  obtain ⟨s₁, session₁, service, h₁, hretry, hw₁, he, hplain, hvisit⟩ :=
    clockSession_of_waits h hq hw
  have hdelivery : session₁.delivery = session.delivery := congrArg Text.delivery he
  have hackMs : session₁.pendingTmsFragmentAckMs = session.pendingTmsFragmentAckMs :=
    congrArg Text.ackMs he
  have hns : session₁.pendingTmsFragmentNs = session.pendingTmsFragmentNs :=
    congrArg Delivery.ns hdelivery
  have hdeliver : s₁.clockDelivery cfg ms true llId = s₁.clockExpired cfg true llId := by
    unfold clockDelivery
    rw [hw₁.1]
    dsimp only
    rw [if_neg (fragments_ne_nil_of_waits h₁ hw₁), if_pos hw₁.2, if_neg (by omega)]
  obtain ⟨retry, hr, hpdu, hanswer⟩ := answered_clockExpired h₁ hw₁
  rw [hvisit, hdeliver]
  refine ⟨retry, hretry.symm.trans hr, ?_, ?_⟩
  · rw [← hns, ← fragmentPdu_congr cfg hdelivery]
    exact hpdu
  · have hservice : retransmissions (service ++ (s₁.clockExpired cfg true llId).2) =
        retransmissions (s₁.clockExpired cfg true llId).2 := by
      rw [retransmissions_append, retransmissions_of_plain hplain, List.nil_append]
    dsimp only
    rw [hservice]
    rw [hdelivery] at hanswer
    refine hanswer.imp_right fun ⟨hcount, hnone, hm⟩ => ?_
    exact ⟨hcount, hnone, List.mem_append_right _ hm⟩

theorem early_clockSession {cfg : DataConfig} (h : s.Owned cfg) {ms llId : ℕ}
    {session : MotorolaSession} (hq : s.VisitQuiet ms true llId) (hw : s.Waits llId session)
    (hms : ms < session.pendingTmsFragmentAckMs) :
    (s.clockSession cfg ms true llId).1.retry = s.retry ∧
      ∃ session', (s.clockSession cfg ms true llId).1.Waits llId session' ∧
        session'.text = ⟨session.delivery, session.pendingTmsFragmentAckMs - ms⟩ := by
  obtain ⟨s₁, session₁, service, h₁, hretry, hw₁, he, -, hvisit⟩ := clockSession_of_waits h hq hw
  have hackMs : session₁.pendingTmsFragmentAckMs = session.pendingTmsFragmentAckMs :=
    congrArg Text.ackMs he
  have hdeliver : s₁.clockDelivery cfg ms true llId =
      (s₁.modifySession llId fun session =>
        { session with
          pendingTmsFragmentAckMs := session.pendingTmsFragmentAckMs - ms }, []) := by
    unfold clockDelivery
    rw [hw₁.1]
    dsimp only
    rw [if_neg (fragments_ne_nil_of_waits h₁ hw₁), if_pos hw₁.2, if_pos (by omega)]
  rw [hvisit, hdeliver]
  refine ⟨hretry, { session₁ with
    pendingTmsFragmentAckMs := session₁.pendingTmsFragmentAckMs - ms }, ⟨?_, hw₁.2⟩, ?_⟩
  · show (s₁.modifySession llId _).sessions.get? llId = _
    unfold modifySession
    dsimp only
    rw [Dict.get?_modify, if_pos rfl, hw₁.1, Option.map_some]
  · rw [← hackMs]
    exact congrArg (Text.mk · _) (congrArg Text.delivery he)

theorem retry_clockDelivery {ms : ℕ} {listening : Bool} {w : ℕ} (hr : s.retry.isSome = true)
    (hnot : ∀ session, ¬ s.Waits w session) :
    (s.clockDelivery cfg ms listening w).1.retry = s.retry := by
  unfold clockDelivery
  cases hs : s.sessions.get? w with
  | none => rfl
  | some session =>
    dsimp only
    split_ifs with h1 h2 h3 h4 h5 h6
    · rfl
    · rfl
    · exact absurd ⟨hs, h2⟩ (hnot session)
    · unfold clockNextFragment
      split_ifs with hdelay hbusy
      · rfl
      · rfl
      · exact absurd (Or.inr hr) hbusy
    · rfl
    · rfl
    · rfl

theorem other_clockSession {cfg : DataConfig} (h : s.Owned cfg) {ms : ℕ} {listening : Bool}
    {llId w : ℕ} {session : MotorolaSession} (hq : s.VisitQuiet ms listening w)
    (hw : s.Waits llId session) (hne : llId ≠ w) :
    (s.clockSession cfg ms listening w).1.retry = s.retry ∧
      (s.clockSession cfg ms listening w).1.Waits llId session := by
  have h₁ := (steady_clockService cfg hq).owned h
  have hw₁ : (s.clockService cfg ms listening w).1.Waits llId session :=
    ⟨(only_clockService cfg ms listening w s llId hne).trans hw.1, hw.2⟩
  have hr₁ := retry_clockService_of_waits cfg hq hw
  have hsteady := steady_clockLocation ms listening w h₁
  have h₂ := hsteady.owned h₁
  have hw₂ : ((s.clockService cfg ms listening w).1.clockLocation cfg ms listening w).1.Waits llId
      session := ⟨(only_clockLocation cfg ms listening w _ llId hne).trans hw₁.1, hw.2⟩
  have hr₂ := hsteady.retry.resolve_left (not_idle_of_waits hw₂)
  obtain ⟨retry, hsome, -⟩ := h₂.slot llId session hw₂
  have hbusy := Option.isSome_iff_exists.mpr ⟨retry, hsome⟩
  have hr₃ : (s.clockSession cfg ms listening w).1.retry = _ := retry_clockDelivery cfg hbusy
    fun session' hw' => hne (h₂.single _ _ _ _ hw₂ hw')
  refine ⟨(hr₃.trans hr₂).trans hr₁, ?_, hw.2⟩
  exact (only_clockSession cfg ms listening w s llId hne).trans hw.1

/-! ## A tick -/

/-- No session waits whenever a service announcement is sent during the visits. -/
def VisitsQuiet (ms : ℕ) (listening : Bool) : List ℕ → Data → Prop
  | [], _ => True
  | llId :: rest, s =>
    s.VisitQuiet ms listening llId ∧
      VisitsQuiet ms listening rest (s.clockSession cfg ms listening llId).1

instance decidableVisitsQuiet (ms : ℕ) (listening : Bool) :
    ∀ (order : List ℕ) (s : Data), Decidable (VisitsQuiet cfg ms listening order s)
  | [], _ => inferInstanceAs (Decidable True)
  | llId :: rest, s =>
    have := decidableVisitsQuiet ms listening rest (s.clockSession cfg ms listening llId).1
    inferInstanceAs (Decidable (_ ∧ _))

theorem owned_visitSessions {cfg : DataConfig} (ms : ℕ) (listening : Bool) (order : List ℕ) :
    ∀ s, s.Owned cfg → VisitsQuiet cfg ms listening order s →
      (visitSessions cfg ms listening order s).1.Owned cfg := by
  induction order with
  | nil => exact fun s h _ => h
  | cons llId rest ih => exact fun s h hq => ih _ (owned_clockSession h hq.1) hq.2

theorem other_visitSessions {cfg : DataConfig} (ms : ℕ) (listening : Bool) {llId : ℕ}
    {session : MotorolaSession} (order : List ℕ) (hnot : llId ∉ order) : ∀ s, s.Owned cfg →
      VisitsQuiet cfg ms listening order s → s.Waits llId session →
      (visitSessions cfg ms listening order s).1.retry = s.retry ∧
        (visitSessions cfg ms listening order s).1.Waits llId session := by
  induction order with
  | nil => exact fun s _ _ hw => ⟨rfl, hw⟩
  | cons w rest ih =>
    intro s h hq hw
    have hne : llId ≠ w := fun he => hnot (he ▸ List.mem_cons_self)
    obtain ⟨hr, hw'⟩ := other_clockSession h hq.1 hw hne
    obtain ⟨hr', hw''⟩ := ih (fun hm => hnot (List.mem_cons_of_mem _ hm)) _
      (owned_clockSession h hq.1) hq.2 hw'
    exact ⟨hr'.trans hr, hw''⟩

/-- Among what a step does is a visit to a session that waits, and nothing else changes what
becomes of it. -/
def Visited (ms : ℕ) (s : Data) (llId : ℕ) (session : MotorolaSession)
    (r : Data × List DataEffect) : Prop :=
  ∃ s₀ : Data, s₀.Owned cfg ∧ s₀.VisitQuiet ms true llId ∧ s₀.Waits llId session ∧
    s₀.retry = s.retry ∧
    (∀ o ∈ (s₀.clockSession cfg ms true llId).2, o ∈ r.2) ∧
    retransmissions r.2 = retransmissions (s₀.clockSession cfg ms true llId).2 ∧
    ∀ session', (s₀.clockSession cfg ms true llId).1.Waits llId session' →
      r.1.Waits llId session' ∧ r.1.retry = (s₀.clockSession cfg ms true llId).1.retry

theorem visited_visitSessions {cfg : DataConfig} (ms : ℕ) {llId : ℕ} {session : MotorolaSession}
    (order : List ℕ) (hnodup : order.Nodup) (hmem : llId ∈ order) : ∀ s, s.Owned cfg →
      VisitsQuiet cfg ms true order s → s.Waits llId session →
      Visited cfg ms s llId session (visitSessions cfg ms true order s) := by
  induction order with
  | nil => exact absurd hmem List.not_mem_nil
  | cons w rest ih =>
    intro s h hq hw
    rw [List.nodup_cons] at hnodup
    have h' := owned_clockSession h hq.1
    by_cases hk : llId = w
    · subst hk
      -- No other session waits, so the visits to the other radios send nothing again.
      have hothers : ∀ w ∈ rest, ∀ session',
          ¬ (s.clockSession cfg ms true llId).1.Waits w session' := by
        intro w hm session' hw'
        have hne : w ≠ llId := fun he => hnodup.1 (he ▸ hm)
        have hget := only_clockSession cfg ms true llId s w hne
        exact hne (h.single _ _ _ _ ⟨hget.symm.trans hw'.1, hw'.2⟩ hw)
      refine ⟨s, h, hq.1, hw, rfl, fun o ho => List.mem_append_left _ ho, ?_, fun session' hw' => ?_⟩
      · show retransmissions ((s.clockSession cfg ms true llId).2 ++ (visitSessions cfg ms true rest
          (s.clockSession cfg ms true llId).1).2) = _
        rw [retransmissions_append,
          retransmissions_visitSessions cfg ms true rest hnodup.2 _ hothers, List.append_nil]
      · exact (other_visitSessions ms true rest hnodup.1 _ h' hq.2 hw').symm
    · obtain ⟨hr, hw'⟩ := other_clockSession h hq.1 hw hk
      obtain ⟨s₀, h₀, hq₀, hw₀, hr₀, heffects, hagain, hafter⟩ := ih hnodup.2
        ((List.mem_cons.mp hmem).resolve_left hk) _ h' hq.2 hw'
      have hfirst : retransmissions (s.clockSession cfg ms true w).2 = [] :=
        retransmissions_clockSession cfg s ms true fun session' hw' => hk (h.single _ _ _ _ hw hw')
      refine ⟨s₀, h₀, hq₀, hw₀, hr₀.trans hr, fun o ho => ?_, ?_, hafter⟩
      · exact List.mem_append_right _ (heffects o ho)
      · show retransmissions ((s.clockSession cfg ms true w).2 ++ (visitSessions cfg ms true rest
          (s.clockSession cfg ms true w).1).2) = _
        rw [retransmissions_append, hfirst, List.nil_append, hagain]

theorem answered_of_visited {cfg : DataConfig} {ms llId : ℕ} {session : MotorolaSession}
    {r : Data × List DataEffect} (hv : Visited cfg ms s llId session r)
    (hms : session.pendingTmsFragmentAckMs ≤ ms) : Answered cfg s llId session r := by
  obtain ⟨s₀, h₀, hq, hw, hr, heffects, hagain, hafter⟩ := hv
  obtain ⟨retry, hretry, hpdu, hanswer⟩ := answered_clockSession h₀ hq hw hms
  refine ⟨retry, hr.symm.trans hretry, hpdu, ?_⟩
  rw [hagain]
  rcases hanswer with ⟨hcount, honly, hr', session', hw', htext⟩ | ⟨hcount, hnone, hm⟩
  · obtain ⟨hw'', hr''⟩ := hafter session' hw'
    exact Or.inl ⟨hcount, honly, hr''.trans hr', session', hw'', htext⟩
  · exact Or.inr ⟨hcount, hnone, heffects _ hm⟩

theorem early_of_visited {cfg : DataConfig} {ms llId : ℕ} {session : MotorolaSession}
    {r : Data × List DataEffect} (hv : Visited cfg ms s llId session r)
    (hms : ms < session.pendingTmsFragmentAckMs) :
    r.1.retry = s.retry ∧ ∃ session', r.1.Waits llId session' ∧
      session'.text = ⟨session.delivery, session.pendingTmsFragmentAckMs - ms⟩ := by
  obtain ⟨s₀, h₀, hq, hw, hr, -, -, hafter⟩ := hv
  obtain ⟨hr', session', hw', htext⟩ := early_clockSession h₀ hq hw hms
  obtain ⟨hw'', hr''⟩ := hafter session' hw'
  exact ⟨(hr''.trans hr').trans hr, session', hw'', htext⟩

/-! ## The outbox -/

/-- **A text that begins** keeps the slot: its first fragment goes out while no session waits. -/
theorem owned_writeDelivery {cfg : DataConfig} (h : s.Owned cfg) (listening : Bool)
    (targetRid senderRid : ℕ) (text : Bytes) :
    (s.writeMotorolaTmsInboundDelivery cfg listening targetRid senderRid text).2.1.Owned cfg := by
  unfold writeMotorolaTmsInboundDelivery
  cases s.registration targetRid with
  | none => exact h
  | some ip =>
    cases s.sessions.get? targetRid with
    | none => exact h
    | some session =>
      dsimp only
      by_cases hready : s.deliverable listening targetRid text = false
      · rw [if_pos hready]
        exact h
      rw [if_neg hready]
      have hnone : s.retry = none := (of_decide_eq_true (Bool.of_not_eq_false hready)).2.2.1
      have hidle := idle_of_retry_eq_none h hnone
      have hqueued : (s.modifySession targetRid fun session₀ =>
          { session₀ with
            pendingTmsFragments := fragmentsOf (buildMotorolaTmsInboundMessage cfg.arsServerIp ip
              (session.nextTmsMessageId % 32) (decimal senderRid) text)
            pendingTmsFragmentIndex := 0
            pendingTmsFragmentAck := false
            pendingTmsFragmentNs := 0
            pendingTmsFragmentAckMs := 0
            pendingTmsMessageId := session.nextTmsMessageId % 32
            pendingTmsFragmentDelayMs := 0
            pendingTmsApplicationAckMs := 0 }).Idle :=
        (calm_modifySession fun _ hw => absurd hw Bool.false_ne_true).idle hidle
      have hsent := owned_writeNextFragment cfg listening targetRid hqueued
      generalize writeNextMotorolaTmsInboundFragment cfg _ listening targetRid = r at hsent
      obtain ⟨sent, s', effects⟩ := r
      cases sent with
      | true => exact owned_modifySession hsent rfl (fun _ => rfl) rfl
      | false => exact owned_of_calm hsent (calm_reset s' targetRid) (Or.inr rfl)

theorem retry_archiveFailed (s : Data) (spool : Spool) (name : Bytes) :
    (s.archiveFailed spool name).retry = s.retry := by
  unfold archiveFailed
  split_ifs <;> rfl

theorem retry_archiveSent (s : Data) (spool : Spool) (llId : ℕ) (name : Bytes) :
    (s.archiveSent spool llId name).1.retry = s.retry := by
  unfold archiveSent
  split_ifs <;> rfl

theorem owned_pollFiles {cfg : DataConfig} (listening : Bool) (spool : Spool) (names : List Bytes) :
    ∀ s, s.Owned cfg → (pollFiles cfg listening spool names s).1.Owned cfg := by
  induction names with
  | nil => exact fun s h => h
  | cons name rest ih =>
    intro s h
    unfold pollFiles
    cases s.outbox.get? name with
    | none => exact ih s h
    | some file =>
      dsimp only
      cases readText file with
      | none =>
        exact ih _ (owned_of_calm h (calm_of_sessions_eq (sessions_archiveFailed s spool name))
          (Or.inr (retry_archiveFailed s spool name)))
      | some text =>
        obtain ⟨sourceRid, targetRid, text⟩ := text
        dsimp only
        have hsent := owned_writeDelivery h listening targetRid sourceRid text
        generalize s.writeMotorolaTmsInboundDelivery cfg listening targetRid sourceRid text = r
          at hsent
        obtain ⟨started, s', effects⟩ := r
        cases started with
        | false => exact ih s' hsent
        | true =>
          have hs := sessions_archiveSent s' spool targetRid name
          have hr := retry_archiveSent s' spool targetRid name
          exact owned_of_calm hsent (calm_of_sessions_eq hs) (Or.inr hr)

theorem writeDelivery_of_busy (hr : s.retry.isSome = true) (listening : Bool)
    (targetRid senderRid : ℕ) (text : Bytes) :
    s.writeMotorolaTmsInboundDelivery cfg listening targetRid senderRid text = (false, s, []) := by
  refine writeDelivery_of_not_deliverable cfg s (decide_eq_false fun hd => ?_) senderRid
  rw [hd.2.2.1] at hr
  exact Bool.false_ne_true hr

/-- While the slot is in use a poll starts nothing. -/
theorem pollFiles_of_busy (listening : Bool) (spool : Spool) (names : List Bytes) :
    ∀ s : Data, s.retry.isSome = true →
      (pollFiles cfg listening spool names s).1.sessions = s.sessions ∧
        (pollFiles cfg listening spool names s).1.retry = s.retry := by
  induction names with
  | nil => exact fun s _ => ⟨rfl, rfl⟩
  | cons name rest ih =>
    intro s hbusy
    unfold pollFiles
    cases s.outbox.get? name with
    | none => exact ih s hbusy
    | some file =>
      dsimp only
      cases readText file with
      | none =>
        have hs := sessions_archiveFailed s spool name
        have hr := retry_archiveFailed s spool name
        obtain ⟨hs', hr'⟩ := ih (s.archiveFailed spool name) (by rw [hr]; exact hbusy)
        exact ⟨hs'.trans hs, hr'.trans hr⟩
      | some text =>
        obtain ⟨sourceRid, targetRid, text⟩ := text
        dsimp only
        rw [writeDelivery_of_busy cfg hbusy]
        exact ih s hbusy

theorem owned_outbox {cfg : DataConfig} (listening : Bool) (spool : Spool) (h : s.Owned cfg) :
    (s.processMotorolaTmsOutbox cfg listening spool).1.Owned cfg := by
  unfold processMotorolaTmsOutbox
  split_ifs
  · exact h
  · exact owned_pollFiles listening spool _ s h

theorem outbox_of_busy (listening : Bool) (spool : Spool) (hbusy : s.retry.isSome = true) :
    (s.processMotorolaTmsOutbox cfg listening spool).1.sessions = s.sessions ∧
      (s.processMotorolaTmsOutbox cfg listening spool).1.retry = s.retry := by
  unfold processMotorolaTmsOutbox
  split_ifs
  · exact ⟨rfl, rfl⟩
  · exact pollFiles_of_busy cfg listening spool _ s hbusy

theorem owned_clock {cfg : DataConfig} (h : s.Owned cfg) {ms : ℕ} {listening : Bool}
    {order : List ℕ} (spool : Spool) (hq : VisitsQuiet cfg ms listening order s) :
    (s.clock cfg ms listening order spool).1.Owned cfg := by
  have hvisits := owned_visitSessions ms listening order s h hq
  have hpoll : ∀ pollMs, Owned cfg { (visitSessions cfg ms listening order s).1 with
      outboxPollMs := pollMs } := fun pollMs =>
    owned_of_calm hvisits (calm_of_sessions_eq rfl) (Or.inr rfl)
  unfold clock
  dsimp only
  split_ifs
  · exact owned_outbox listening spool (hpoll _)
  · exact hpoll _

theorem visited_clock {cfg : DataConfig} (h : s.Owned cfg) {ms llId : ℕ} {session : MotorolaSession}
    {order : List ℕ} (spool : Spool) (hnodup : order.Nodup) (hmem : llId ∈ order)
    (hq : VisitsQuiet cfg ms true order s) (hw : s.Waits llId session) :
    Visited cfg ms s llId session (s.clock cfg ms true order spool) := by
  obtain ⟨s₀, h₀, hq₀, hw₀, hr₀, heffects, hagain, hafter⟩ :=
    visited_visitSessions ms order hnodup hmem s h hq hw
  have hvisits := owned_visitSessions ms true order s h hq
  refine ⟨s₀, h₀, hq₀, hw₀, hr₀, ?_, ?_, ?_⟩
  · intro o ho
    unfold clock
    dsimp only
    split_ifs
    · exact List.mem_append_left _ (heffects o ho)
    · exact heffects o ho
  · unfold clock
    dsimp only
    split_ifs
    · rw [retransmissions_append, retransmissions_outbox, List.append_nil, hagain]
    · exact hagain
  · intro session' hw'
    obtain ⟨hw'', hr''⟩ := hafter session' hw'
    obtain ⟨retry, hsome, -⟩ := hvisits.slot llId session' hw''
    have hbusy : (visitSessions cfg ms true order s).1.retry.isSome = true := by rw [hsome]; rfl
    unfold clock
    dsimp only
    split_ifs
    · obtain ⟨hs, hr⟩ := outbox_of_busy cfg (s := { (visitSessions cfg ms true order s).1 with
        outboxPollMs := kMotorolaTmsP25OutboxPollMs }) true spool hbusy
      exact ⟨⟨(congrArg (·.get? llId) hs).trans hw''.1, hw''.2⟩, hr.trans hr''⟩
    · exact ⟨hw'', hr''⟩

/-! ## Runs -/

/-- An event that leaves the slot alone while a session waits. -/
def Undisturbed (s : Data) : DataEvent → Prop
  | .clock ms listening order _ => order.Perm s.sessions.keys → VisitsQuiet cfg ms listening order s
  | .ack order llId status => s.AckAwaited order llId status
  | .nack order type llId _ => s.NackQuiet order type llId
  | .ackRetry order llId _ => s.RequestQuiet cfg order llId
  | .packet sourceRid targetRid _ _ packet => s.PacketQuiet sourceRid targetRid packet
  | .connect _ _ _ response => response.isSome = true → s.Idle
  | .confirmed _ => s.Idle
  | .disconnect _ _ => True
  | .deposit _ _ => True

instance (s : Data) : DecidablePred (s.Undisturbed cfg)
  | .clock _ _ _ _ => inferInstanceAs (Decidable (_ → _))
  | .ack order llId status => inferInstanceAs (Decidable (s.AckAwaited order llId status))
  | .nack order type llId _ => inferInstanceAs (Decidable (s.NackQuiet order type llId))
  | .ackRetry order llId _ => inferInstanceAs (Decidable (s.RequestQuiet cfg order llId))
  | .packet sourceRid targetRid _ _ packet =>
    inferInstanceAs (Decidable (s.PacketQuiet sourceRid targetRid packet))
  | .connect _ _ _ response => inferInstanceAs (Decidable (response.isSome = true → s.Idle))
  | .confirmed _ => inferInstanceAs (Decidable s.Idle)
  | .disconnect _ _ => inferInstanceAs (Decidable True)
  | .deposit _ _ => inferInstanceAs (Decidable True)

theorem calm_disconnect (s : Data) (llId ns : ℕ) : Calm s (s.disconnect llId ns).1 := by
  intro w session hw
  have hs : (s.sessions.erase llId).get? w = some session := hw.1
  rw [Dict.get?_erase] at hs
  split_ifs at hs with hk
  exact ⟨session, ⟨hs, hw.2⟩, rfl⟩

theorem steady_connect (llId ipAddr : ℕ) (valid : Bool) (response : Option Pdu)
    (hq : response.isSome = true → s.Idle) : Steady s (s.connect llId ipAddr valid response) := by
  have hcalm := calm_of_messageOf (messageOf_connect s llId ipAddr valid response)
  cases response with
  | some pdu => exact steady_of_idle (hq rfl) hcalm
  | none =>
    refine ⟨hcalm, Or.inr ?_⟩
    unfold connect
    dsimp only
    split_ifs <;> rfl

/-- Every event but a tick keeps the slot and the timer of the session that waits. -/
theorem kept_step {cfg : DataConfig} {e : DataEvent} (h : s.Owned cfg) (hq : s.Undisturbed cfg e)
    (hclock : e.isClock = false) : Kept s (dataStep cfg s e).1 := by
  cases e with
  | clock ms listening order spool => exact absurd hclock.symm Bool.false_ne_true
  | ack order llId status =>
    exact ⟨calm_receiveAck cfg s order llId status, Or.inl (idle_receiveAck cfg order llId status hq)⟩
  | nack order type llId status => exact (steady_receiveNack order type llId status hq).kept
  | ackRetry order llId ns => exact kept_receiveAckRetry cfg order llId ns hq
  | packet sourceRid targetRid ns ackNeeded packet =>
    exact (steady_receivePacket h sourceRid targetRid ns ackNeeded packet hq).kept
  | connect llId ipAddr valid response => exact (steady_connect llId ipAddr valid response hq).kept
  | disconnect llId ns =>
    have hsteady : Steady s (s.disconnect llId ns).1 := ⟨calm_disconnect s llId ns, Or.inr rfl⟩
    exact hsteady.kept
  | confirmed pdu => exact (steady_of_idle hq (calm_writeRfPdu s pdu)).kept
  | deposit name file =>
    have hsteady : Steady s (dataStep cfg s (.deposit name file)).1 :=
      ⟨calm_of_sessions_eq rfl, Or.inr rfl⟩
    exact hsteady.kept

theorem owned_step {cfg : DataConfig} {e : DataEvent} (h : s.Owned cfg)
    (hq : s.Undisturbed cfg e) : (dataStep cfg s e).1.Owned cfg := by
  cases he : e.isClock with
  | false => exact (kept_step h hq he).owned h
  | true =>
    cases e with
    | clock ms listening order spool =>
      unfold dataStep
      dsimp only
      split_ifs with hperm
      · exact owned_clock h spool (hq hperm)
      · exact h
    | _ => exact absurd he Bool.false_ne_true

theorem visited_step {cfg : DataConfig} (h : s.Owned cfg) {ms llId : ℕ} {order : List ℕ}
    {spool : Spool} {session : MotorolaSession} (hq : s.Undisturbed cfg (.clock ms true order spool))
    (hperm : order.Perm s.sessions.keys) (hw : s.Waits llId session) :
    Visited cfg ms s llId session (dataStep cfg s (.clock ms true order spool)) := by
  have hmem : llId ∈ order :=
    hperm.mem_iff.mpr ((Dict.mem_keys_iff _ _).mpr ⟨session, hw.1⟩)
  have hnodup : order.Nodup := hperm.nodup_iff.mpr s.sessions.nodup
  unfold dataStep
  dsimp only
  rw [if_pos hperm]
  exact visited_clock h spool hnodup hmem (hq hperm) hw

/-- The clock ticks while the channel listens. -/
def Listens (s : Data) : DataEvent → Prop
  | .clock ms listening order _ => 0 < ms ∧ listening = true ∧ order.Perm s.sessions.keys
  | _ => True

/-- A step during which a radio goes on to wait. -/
structure Lasting (llId : ℕ) (s : Data) (e : DataEvent) : Prop where
  listens : s.Listens e
  before : ∃ session, s.Waits llId session
  after : ∃ session, (dataStep cfg s e).1.Waits llId session
  kept : .deliveryAborted llId ∉ (dataStep cfg s e).2

/-- How many ticks the session of a radio can still wait. -/
def patience (s : Data) (llId : ℕ) : ℕ :=
  ((s.sessions.get? llId).map MotorolaSession.pendingTmsFragmentAckMs).getD 0 +
    (cfg.maxPduRetryCount - (s.retry.map Retry.count).getD 0) *
      (kMotorolaTmsP25FragmentAckTimeoutMs + 1)

theorem patience_of_waits {llId : ℕ} {session : MotorolaSession} {retry : Retry}
    (hw : s.Waits llId session) (hr : s.retry = some retry) :
    s.patience cfg llId = session.pendingTmsFragmentAckMs +
      (cfg.maxPduRetryCount - retry.count) * (kMotorolaTmsP25FragmentAckTimeoutMs + 1) := by
  unfold patience
  rw [hw.1, hr]
  rfl

theorem patience_tick {cfg : DataConfig} {llId : ℕ} {e : DataEvent} (h : s.Owned cfg)
    (hq : s.Undisturbed cfg e) (hl : Lasting cfg llId s e) (hclock : e.isClock = true) :
    (dataStep cfg s e).1.patience cfg llId + 1 ≤ s.patience cfg llId := by
  obtain ⟨session, hw⟩ := hl.before
  cases e with
  | clock ms listening order spool =>
    obtain ⟨hms, rfl, hperm⟩ := hl.listens
    have hv := visited_step h hq hperm hw
    have hkept := hl.kept
    generalize dataStep cfg s (.clock ms true order spool) = r at hv hkept ⊢
    by_cases hlate : session.pendingTmsFragmentAckMs ≤ ms
    · obtain ⟨retry, hretry, -, hanswer⟩ := answered_of_visited hv hlate
      rcases hanswer with ⟨hcount, -, hr', session', hw', htext⟩ | ⟨-, -, hm⟩
      · have hackMs : session'.pendingTmsFragmentAckMs = kMotorolaTmsP25FragmentAckTimeoutMs :=
          congrArg Text.ackMs htext
        have hleft : cfg.maxPduRetryCount - retry.count =
            (cfg.maxPduRetryCount - (retry.count + 1)) + 1 := by omega
        rw [patience_of_waits cfg hw hretry, patience_of_waits cfg hw' hr', hackMs, hleft,
          Nat.add_mul]
        dsimp only
        omega
      · exact absurd hm hkept
    · obtain ⟨hr', session', hw', htext⟩ := early_of_visited hv (not_le.mp hlate)
      obtain ⟨retry, hretry, -⟩ := h.slot llId session hw
      have hackMs : session'.pendingTmsFragmentAckMs = session.pendingTmsFragmentAckMs - ms :=
        congrArg Text.ackMs htext
      rw [patience_of_waits cfg hw hretry, patience_of_waits cfg hw' (hr'.trans hretry), hackMs]
      omega
  | _ => exact absurd hclock Bool.false_ne_true

theorem patience_other {cfg : DataConfig} {llId : ℕ} {e : DataEvent} (h : s.Owned cfg)
    (hq : s.Undisturbed cfg e) (hl : Lasting cfg llId s e) (hclock : e.isClock = false) :
    (dataStep cfg s e).1.patience cfg llId ≤ s.patience cfg llId := by
  obtain ⟨session', hw'⟩ := hl.after
  have hkept := kept_step h hq hclock
  obtain ⟨session, hw, htext⟩ := hkept.calm llId session' hw'
  obtain ⟨-, hcount⟩ := hkept.retry.resolve_left (not_idle_of_waits hw')
  have hackMs : session.pendingTmsFragmentAckMs = session'.pendingTmsFragmentAckMs :=
    congrArg Text.ackMs htext
  unfold patience
  rw [hw.1, hw'.1, Option.map_some, Option.map_some, hackMs]
  exact Nat.add_le_add_left (Nat.mul_le_mul_right _ (Nat.sub_le_sub_left hcount _)) _

/-- **No session waits forever**: the ticks while it waits are counted down. -/
theorem ticks_le_patience {cfg : DataConfig} {llId : ℕ} (es : List DataEvent) :
    ∀ s, s.Owned cfg →
      Run.Along (dataStep cfg) (fun s e => s.Undisturbed cfg e ∧ Lasting cfg llId s e) s es →
      es.countP DataEvent.isClock ≤ s.patience cfg llId := by
  induction es with
  | nil => exact fun s _ _ => Nat.zero_le _
  | cons e es ih =>
    intro s h halong
    obtain ⟨⟨hq, hl⟩, hrest⟩ := (Run.along_cons_iff e es).mp halong
    have hcount := ih _ (owned_step h hq) hrest
    cases hclock : e.isClock with
    | true =>
      have htick := patience_tick h hq hl hclock
      rw [List.countP_cons_of_pos hclock]
      omega
    | false =>
      have hother := patience_other h hq hl hclock
      rw [List.countP_cons_of_neg (by rw [hclock]; exact Bool.false_ne_true)]
      omega

/-- **The retry slot belongs to the session that waits** in every run that leaves it alone: it holds
the fragment, a late acknowledgement is answered, and no wait is without end. -/
theorem retrySlot_of_undisturbed (cfg : DataConfig) (es : List DataEvent)
    (halong : Run.Along (dataStep cfg) (Undisturbed cfg) .init es) :
    let s := Run.final (dataStep cfg) .init es
    s.Owned cfg ∧
      (∀ ms order spool llId session, order.Perm s.sessions.keys →
        s.Undisturbed cfg (.clock ms true order spool) → s.Waits llId session →
        session.pendingTmsFragmentAckMs ≤ ms →
        Answered cfg s llId session (dataStep cfg s (.clock ms true order spool))) ∧
      ∀ llId more,
        Run.Along (dataStep cfg) (fun s e => s.Undisturbed cfg e ∧ Lasting cfg llId s e) s more →
        more.countP DataEvent.isClock ≤ s.patience cfg llId := by
  have howned : (Run.final (dataStep cfg) .init es).Owned cfg :=
    Run.final_of_along (Owned cfg) (fun _ _ hq h => owned_step h hq) es .init halong
      (owned_of_idle cfg rfl)
  refine ⟨howned, ?_, ?_⟩
  · intro ms order spool llId session hperm hq hw hms
    exact answered_of_visited (visited_step howned hq hperm hw) hms
  · intro llId more hmore
    exact ticks_le_patience more _ howned hmore

theorem retrySlot_sample :
    (Run.final (dataStep sampleConfig) .init sampleRun).Owned sampleConfig ∧
      ¬ (Run.final (dataStep sampleConfig) .init sampleRun).Idle :=
  ⟨(retrySlot_of_undisturbed sampleConfig sampleRun (by decide +kernel)).1, by decide +kernel⟩

/-- A response of another radio empties the slot. -/
theorem not_owned_foreign_ack : ¬ ∀ cfg es, (Run.final (dataStep cfg) .init es).Owned cfg := by
  intro h
  have howned := h sampleConfig (sampleRun ++ [.ack [7] 9 0])
  have hnone : (Run.final (dataStep sampleConfig) .init (sampleRun ++ [.ack [7] 9 0])).retry = none := by
    decide +kernel
  have hidle : ¬ (Run.final (dataStep sampleConfig) .init (sampleRun ++ [.ack [7] 9 0])).Idle := by
    decide +kernel
  exact hidle (idle_of_retry_eq_none howned hnone)

end Data

end P25
