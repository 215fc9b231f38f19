import Mathlib.Logic.Function.Basic
import QuantarBridge.P25.Delivery

/-!
# What becomes of an archived text

The file of a text is archived as soon as the first fragment is sent. From then on the text is only
in the session of the radio, which gives it up when a fragment is never acknowledged, when the radio
disconnects, or when it answers before it has everything.

* `Ledger`: what a run archived and what was acknowledged, read off its effects;
* `Safe`: every archived text is acknowledged, pending or back in a directory;
* `Proceeds`: a change of a session that gives up no unfinished text, `Tracked`: **the invariant**;
* `Unabandoned`: an event at which no unfinished text is given up;
* `safe_of_unabandoned`: **the theorem about runs**.
-/

set_option autoImplicit false

namespace P25

open Lib

/-- The archived files with their radios, the file that each radio is being sent, and the files
whose fragments are all acknowledged. -/
structure Ledger where
  files : List (Bytes × ℕ) := []
  current : ℕ → Option ℕ := fun _ => none
  completed : List ℕ := []

/-- What an effect adds to the ledger. -/
def Ledger.record (l : Ledger) : DataEffect → Ledger
  | .deliveryStarted llId => { l with current := Function.update l.current llId none }
  | .archived llId name =>
    { l with
      files := l.files ++ [(name, llId)]
      current := Function.update l.current llId (some l.files.length) }
  | .fragmentsAcknowledged llId =>
    { l with completed := (l.current llId).toList ++ l.completed }
  | _ => l

/-- What some effects add to the ledger. -/
def Ledger.recordAll (l : Ledger) (os : List DataEffect) : Ledger := os.foldl Ledger.record l

/-- An effect that the ledger does not record. -/
def DataEffect.silent : DataEffect → Bool
  | .deliveryStarted _ => false
  | .archived _ _ => false
  | .fragmentsAcknowledged _ => false
  | _ => true

theorem silent_of_plain {os : List DataEffect} (h : os.all DataEffect.plain = true) :
    os.all DataEffect.silent = true := by
  refine List.all_eq_true.mpr fun o ho => ?_
  have hplain := List.all_eq_true.mp h o ho
  cases o with
  | sent pdu fragment => rfl
  | retransmitted llId pdu => rfl
  | _ => exact hplain

namespace MotorolaSession

/-- A text is being sent. -/
def Pending (session : MotorolaSession) : Prop := session.pendingTmsFragments ≠ []

/-- All fragments of the text are acknowledged. -/
def Acknowledged (session : MotorolaSession) : Prop :=
  session.Pending ∧ session.pendingTmsFragments.length ≤ session.pendingTmsFragmentIndex

/-- Some fragments of the text are not acknowledged. -/
def Unfinished (session : MotorolaSession) : Prop :=
  session.pendingTmsFragmentIndex < session.pendingTmsFragments.length

instance : DecidablePred Unfinished := fun _ => inferInstanceAs (Decidable (_ < _))

/-- A change that gives up no unfinished text. -/
structure Proceeds (a b : MotorolaSession) : Prop where
  pending : a.Pending → b.Pending ∨ a.Acknowledged
  acknowledged : b.Acknowledged → a.Acknowledged

theorem proceeds_of_eq {a b : MotorolaSession} (hf : b.pendingTmsFragments = a.pendingTmsFragments)
    (hi : b.pendingTmsFragmentIndex = a.pendingTmsFragmentIndex) : Proceeds a b := by
  refine ⟨fun h => Or.inl ?_, fun h => ?_⟩
  · unfold Pending at h ⊢
    rw [hf]
    exact h
  · unfold Acknowledged Pending at h ⊢
    rw [hf, hi] at h
    exact h

theorem proceeds_of_text {a b : MotorolaSession} (h : b.text = a.text) : Proceeds a b :=
  proceeds_of_eq (congrArg (fun t => t.delivery.fragments) h)
    (congrArg (fun t => t.delivery.index) h)

theorem Proceeds.refl (a : MotorolaSession) : Proceeds a a := proceeds_of_eq rfl rfl

theorem Proceeds.trans {a b c : MotorolaSession} (h : Proceeds a b) (h' : Proceeds b c) :
    Proceeds a c := by
  refine ⟨fun ha => ?_, fun hc => h.acknowledged (h'.acknowledged hc)⟩
  rcases h.pending ha with hb | hack
  · exact (h'.pending hb).imp_right h.acknowledged
  · exact Or.inr hack

theorem proceeds_restart (delayMs : ℕ) (a : MotorolaSession) :
    Proceeds a (Data.restartMotorolaTmsInboundDelivery delayMs a) := by
  unfold Data.restartMotorolaTmsInboundDelivery
  split_ifs with hnil
  · exact Proceeds.refl a
  · refine ⟨fun h => Or.inl h, fun h => ?_⟩
    have hlen : a.pendingTmsFragments.length ≤ 0 := h.2
    exact absurd (List.eq_nil_of_length_eq_zero (Nat.le_zero.mp hlen)) hnil

/-- The text is given up when there is none, or all of it is acknowledged. -/
theorem proceeds_reset {a : MotorolaSession} (h : ¬ a.Unfinished) :
    Proceeds a (Data.resetMotorolaTmsInboundDelivery a) := by
  refine ⟨fun ha => Or.inr ⟨ha, not_lt.mp h⟩, fun hb => ?_⟩
  exact absurd rfl hb.1

end MotorolaSession

/-! ## The ledger -/

theorem Ledger.recordAll_append (l : Ledger) (os os' : List DataEffect) :
    l.recordAll (os ++ os') = (l.recordAll os).recordAll os' := List.foldl_append

theorem Ledger.current_started (l : Ledger) (llId w : ℕ) :
    (l.record (.deliveryStarted llId)).current w = if w = llId then none else l.current w :=
  Function.update_apply l.current llId none w

theorem Ledger.current_archived (l : Ledger) (llId : ℕ) (name : Bytes) (w : ℕ) :
    (l.record (.archived llId name)).current w =
      if w = llId then some l.files.length else l.current w :=
  Function.update_apply l.current llId (some l.files.length) w

theorem Ledger.record_of_silent (l : Ledger) {o : DataEffect} (h : o.silent = true) :
    l.record o = l := by
  cases o with
  | deliveryStarted llId => exact absurd h Bool.false_ne_true
  | archived llId name => exact absurd h Bool.false_ne_true
  | fragmentsAcknowledged llId => exact absurd h Bool.false_ne_true
  | _ => rfl

theorem Ledger.recordAll_of_silent (os : List DataEffect) (h : os.all DataEffect.silent = true)
    (l : Ledger) : l.recordAll os = l := by
  induction os with
  | nil => rfl
  | cons o os ih =>
    rw [List.all_cons, Bool.and_eq_true] at h
    show (l.record o).recordAll os = l
    rw [l.record_of_silent h.1]
    exact ih h.2

namespace Data

variable (cfg : DataConfig) {s s' s'' : Data} {l : Ledger}

/-- **Every archived text** has all its fragments acknowledged, or is pending in the session of its
radio, or is back in the outbox or in the failed directory. -/
def Safe (l : Ledger) (s : Data) : Prop :=
  ∀ n name llId, l.files[n]? = some (name, llId) →
    n ∈ l.completed ∨ ((s.sessionOf llId).Pending ∧ l.current llId = some n) ∨
      (s.outbox.get? name).isSome = true ∨ name ++ ascii ".failed".toList ∈ s.failed

/-- An archived text is acknowledged or pending, and acknowledged fragments are on the ledger. -/
structure Tracked (l : Ledger) (s : Data) : Prop where
  text : ∀ n name llId, l.files[n]? = some (name, llId) →
    n ∈ l.completed ∨ ((s.sessionOf llId).Pending ∧ l.current llId = some n)
  acknowledged : ∀ llId n, (s.sessionOf llId).Acknowledged → l.current llId = some n →
    n ∈ l.completed

theorem Tracked.safe (h : Tracked l s) : Safe l s := by
  intro n name llId hn
  exact (h.text n name llId hn).imp_right Or.inl

/-- No session gives up an unfinished text. -/
def Keeps (s s' : Data) : Prop := ∀ llId, (s.sessionOf llId).Proceeds (s'.sessionOf llId)

theorem keeps_of_messageOf (h : s'.messageOf = s.messageOf) : Keeps s s' := fun llId =>
  MotorolaSession.proceeds_of_text (congrFun (textOf_of_messageOf h) llId)

theorem keeps_of_sessions_eq (h : s'.sessions = s.sessions) : Keeps s s' :=
  keeps_of_messageOf (messageOf_congr h)

theorem Keeps.trans (h : Keeps s s') (h' : Keeps s' s'') : Keeps s s'' := fun llId =>
  (h llId).trans (h' llId)

theorem keeps_modifySession {llId : ℕ} {f : MotorolaSession → MotorolaSession}
    (hf : (s.sessionOf llId).Proceeds (f (s.sessionOf llId))) :
    Keeps s (s.modifySession llId f) := by
  intro w
  rw [sessionOf_modifySession]
  split_ifs with hw
  · rw [hw.1]
    exact hf
  · exact MotorolaSession.Proceeds.refl _

/-- A step that keeps the invariant. -/
def Tracks (s : Data) (r : Data × List DataEffect) : Prop :=
  ∀ l, Tracked l s → Tracked (l.recordAll r.2) r.1

theorem tracks_of_keeps {r : Data × List DataEffect} (hk : Keeps s r.1)
    (hos : r.2.all DataEffect.silent = true) : Tracks s r := by
  intro l h
  rw [Ledger.recordAll_of_silent r.2 hos]
  refine ⟨fun n name llId hn => ?_, fun llId n hack hn => ?_⟩
  · rcases h.text n name llId hn with hc | ⟨hp, hcur⟩
    · exact Or.inl hc
    · rcases (hk llId).pending hp with hp' | hack
      · exact Or.inr ⟨hp', hcur⟩
      · exact Or.inl (h.acknowledged llId n hack hcur)
  · exact h.acknowledged llId n ((hk llId).acknowledged hack) hn

theorem tracks_of_plain {r : Data × List DataEffect} (hk : Keeps s r.1)
    (hos : r.2.all DataEffect.plain = true) : Tracks s r :=
  tracks_of_keeps hk (silent_of_plain hos)

theorem tracks_append {r r' : Data × List DataEffect} (h : Tracks s r) (h' : Tracks r.1 r') :
    Tracks s (r'.1, r.2 ++ r'.2) := by
  intro l hl
  rw [Ledger.recordAll_append]
  exact h' _ (h l hl)

/-! ## Responses -/

theorem tracks_announceAfterAck (s : Data) (rid : ℕ) : Tracks s (s.announceAfterAck cfg rid) :=
  tracks_of_plain (keeps_of_messageOf (messageOf_announceAfterAck cfg s rid))
    (plain_announceAfterAck cfg s rid)

theorem tracked_acknowledged {rid : ℕ} (h : Tracked l s)
    (hp : ∀ w, (s.sessionOf w).Pending → (s'.sessionOf w).Pending)
    (hack : ∀ w, w ≠ rid → (s'.sessionOf w).Acknowledged → (s.sessionOf w).Acknowledged) :
    Tracked (l.record (.fragmentsAcknowledged rid)) s' := by
  refine ⟨fun n name llId hn => ?_, fun llId n ha hn => ?_⟩
  · refine (h.text n name llId hn).imp (fun hc => List.mem_append_right _ hc) fun hcur => ?_
    exact ⟨hp llId hcur.1, hcur.2⟩
  · by_cases hw : llId = rid
    · refine List.mem_append_left _ (Option.mem_toList.mpr ?_)
      rw [← hw]
      exact hn
    · exact List.mem_append_right _ (h.acknowledged llId n (hack llId hw ha) hn)

theorem fragments_advanceFragment (session : MotorolaSession) :
    (advanceFragment session).pendingTmsFragments = session.pendingTmsFragments ∧
      (advanceFragment session).pendingTmsFragmentIndex = session.pendingTmsFragmentIndex + 1 := by
  unfold advanceFragment
  dsimp only
  split_ifs
  · exact ⟨rfl, rfl⟩
  · exact ⟨rfl, rfl⟩

/-- The session of a radio after an acknowledgement, before it goes on to the next fragment. -/
def noticed (llId rid status : ℕ) (notice : Prop) [Decidable notice] (session : MotorolaSession) :
    MotorolaSession :=
  if notice then { progressOnAck llId rid status session with sentTmsReadyNotice := true }
  else progressOnAck llId rid status session

theorem message_noticed (llId rid status : ℕ) (notice : Prop) [Decidable notice]
    (session : MotorolaSession) :
    (noticed llId rid status notice session).message = session.message := by
  unfold noticed
  split_ifs
  · exact message_progressOnAck llId rid status session
  · exact message_progressOnAck llId rid status session

/-- An awaited acknowledgement: the session goes on, and the last one is recorded. -/
theorem tracks_advance {rid : ℕ} {session : MotorolaSession} {g : MotorolaSession → MotorolaSession}
    (hs : s.sessions.get? rid = some session) (hg : ∀ a, (g a).message = a.message)
    (os : List DataEffect) (hos : os.all DataEffect.silent = true) :
    Tracks s (s.modifySession rid fun a => advanceFragment (g a),
      os ++ if session.pendingTmsFragments.length ≤ session.pendingTmsFragmentIndex + 1
        then [.fragmentsAcknowledged rid] else []) := by
  have hsession := sessionOf_eq hs
  have hf : (advanceFragment (g session)).pendingTmsFragments = session.pendingTmsFragments :=
    (fragments_advanceFragment _).1.trans (congrArg (fun m => m.text.delivery.fragments) (hg session))
  have hi : (advanceFragment (g session)).pendingTmsFragmentIndex =
      session.pendingTmsFragmentIndex + 1 := by
    rw [(fragments_advanceFragment _).2]
    exact congrArg (fun m => m.text.delivery.index + 1) (hg session)
  split_ifs with hcomplete
  · intro l h
    rw [Ledger.recordAll_append, Ledger.recordAll_of_silent os hos]
    refine tracked_acknowledged h (fun w hp => ?_) fun w hw hack => ?_
    · rw [sessionOf_modifySession]
      split_ifs with hw
      · rw [hw.1, hsession] at hp ⊢
        unfold MotorolaSession.Pending at hp ⊢
        rw [hf]
        exact hp
      · exact hp
    · rw [sessionOf_modifySession, if_neg fun h => hw h.1] at hack
      exact hack
  · refine tracks_of_keeps (keeps_modifySession ?_) ?_
    · rw [hsession]
      refine ⟨fun hp => Or.inl ?_, fun hack => ?_⟩
      · unfold MotorolaSession.Pending at hp ⊢
        rw [hf]
        exact hp
      · have hlen := hack.2
        rw [hf, hi] at hlen
        exact absurd hlen hcomplete
    · rw [List.append_nil]
      exact hos

/-- What an acknowledgement does to its session: it may go on to the next fragment. -/
theorem acknowledgeSession_cases {rid : ℕ} {session : MotorolaSession} (llId status : ℕ)
    (hs : s.sessions.get? rid = some session) :
    ∃ (base : Data) (g : MotorolaSession → MotorolaSession) (os : List DataEffect),
      base.sessions = s.sessions ∧ (∀ a, (g a).message = a.message) ∧
      os.all DataEffect.plain = true ∧
      s.acknowledgeSession llId rid status =
        if awaits status session = true then
          (base.modifySession rid fun a => advanceFragment (g a),
            os ++ if session.pendingTmsFragments.length ≤ session.pendingTmsFragmentIndex + 1
              then [.fragmentsAcknowledged rid] else [])
        else (base.modifySession rid g, os) := by
  let notice := (progressOnAck llId rid status session).state = .tmsAvailable ∧
    (progressOnAck llId rid status session).sentTmsReadyNotice = false
  refine ⟨if session.peerArpResponderRid = llId ∨ session.serverIdentity = llId
    then s.rememberMotorolaPacketNs llId rid status else s, noticed llId rid status notice,
    if notice then [.readyNotice rid] else [], ?_, message_noticed llId rid status notice,
    plain_notice rid notice, ?_⟩
  · split_ifs
    · exact sessions_remember s llId rid status
    · rfl
  · unfold acknowledgeSession
    rw [hs]
    dsimp only
    by_cases hadv : awaits status session = true
    · simp only [hadv, true_and, if_true]
      rfl
    · simp only [hadv, Bool.false_eq_true, false_and, if_false, List.append_nil]
      rfl

theorem tracks_acknowledgeSession (s : Data) (llId rid status : ℕ) :
    Tracks s (s.acknowledgeSession llId rid status) := by
  cases hs : s.sessions.get? rid with
  | none =>
    unfold acknowledgeSession
    rw [hs]
    exact tracks_of_keeps (keeps_of_sessions_eq rfl) rfl
  | some session =>
    obtain ⟨base, g, os, hbase, hg, hos, he⟩ := acknowledgeSession_cases llId status hs
    have hkeep : Tracks s (base, []) := tracks_of_keeps (keeps_of_sessions_eq hbase) rfl
    have hs' : base.sessions.get? rid = some session := by rw [hbase]; exact hs
    rw [he]
    by_cases hadv : awaits status session = true
    · rw [if_pos hadv]
      exact tracks_append hkeep (tracks_advance hs' hg os (silent_of_plain hos))
    · rw [if_neg hadv]
      have hkeep' : Tracks base (base.modifySession rid g, os) :=
        tracks_of_plain (keeps_of_messageOf (messageOf_modifySession hg)) hos
      exact tracks_append hkeep hkeep'

theorem tracks_receiveAck (s : Data) (order : List ℕ) (llId status : ℕ) :
    Tracks s (s.receiveAck cfg order llId status) := by
  have hrefl : ∀ s : Data, Tracks s (s, []) := fun s =>
    tracks_of_keeps (keeps_of_sessions_eq rfl) rfl
  have hfirst : Tracks s (((s.findMotorolaResponseSession order llId).map fun rid =>
      s.acknowledgeSession llId rid status).getD (s, [])) := by
    cases s.findMotorolaResponseSession order llId with
    | none => exact hrefl s
    | some rid => exact tracks_acknowledgeSession s llId rid status
  unfold receiveAck
  generalize ((s.findMotorolaResponseSession order llId).map fun rid =>
    s.acknowledgeSession llId rid status).getD (s, []) = r at hfirst
  have hempty : Tracks r.1 ({ r.1 with retry := none }, []) :=
    tracks_of_keeps (keeps_of_sessions_eq rfl) rfl
  have hsecond : Tracks { r.1 with retry := none }
      (((findMotorolaResponseSession { r.1 with retry := none } order llId).map fun rid =>
        announceAfterAck cfg { r.1 with retry := none } rid).getD
          ({ r.1 with retry := none }, [])) := by
    cases findMotorolaResponseSession { r.1 with retry := none } order llId with
    | none => exact hrefl _
    | some rid => exact tracks_announceAfterAck cfg _ rid
  exact tracks_append hfirst (tracks_append hempty hsecond)

theorem keeps_receiveNack (s : Data) (order : List ℕ) (type : NackType) (llId status : ℕ) :
    Keeps s (s.receiveNack order type llId status) := by
  unfold receiveNack
  cases s.findMotorolaResponseSession order llId with
  | none => exact keeps_of_sessions_eq rfl
  | some rid =>
    cases type with
    | packetCrc =>
      refine keeps_of_messageOf (messageOf_modifySession fun session => ?_)
      split_ifs <;> rfl
    | other => exact keeps_of_sessions_eq rfl
    | sequence =>
      dsimp only
      split_ifs
      · exact keeps_modifySession (MotorolaSession.proceeds_restart _ _)
      · exact keeps_of_sessions_eq rfl

/-! ## Packets of a radio -/

theorem keeps_message (s : Data) (sourceRid targetRid : ℕ) (extendedAddress : Bool)
    (message : MotorolaTmsMessage) (ackNs : Option ℕ) : Keeps s
      (s.handleMotorolaTmsMessage cfg sourceRid targetRid extendedAddress message ackNs).1 := by
  unfold handleMotorolaTmsMessage
  by_cases hrefused : (extendedAddress = false ∧ sourceRid ≠ targetRid) ∨
      (extendedAddress = true ∧ (sourceRid = 0 ∨ targetRid = 0)) ∨
      s.known sourceRid message.sourceIp = false ∨ s.available sourceRid = false
  · rw [if_pos hrefused]
    exact keeps_of_sessions_eq rfl
  rw [if_neg hrefused]
  have hrestart : Keeps s (s.modifySession sourceRid
      (restartMotorolaTmsInboundDelivery kMotorolaTmsP25FragmentRestartDelayMs)) :=
    keeps_modifySession (MotorolaSession.proceeds_restart _ _)
  refine hrestart.trans ?_
  dsimp only
  split_ifs
  · exact keeps_of_messageOf (messageOf_directAcknowledgement cfg _ _ _ _ _ _ _)
  · exact keeps_of_messageOf (messageOf_acknowledgement cfg _ _ _ _)

/-- No unfinished text is given up because the radio answers it early. -/
def PacketKept (s : Data) (sourceRid targetRid : ℕ) : RadioPacket → Prop
  | .messageAcknowledgement sourceIp messageId =>
    sourceRid = targetRid → s.known sourceRid sourceIp = true → s.available sourceRid = true →
      (s.sessionOf sourceRid).pendingTmsMessageId = messageId →
      ¬ (s.sessionOf sourceRid).Unfinished
  | _ => True

instance (s : Data) (sourceRid targetRid : ℕ) : DecidablePred (s.PacketKept sourceRid targetRid)
  | .messageAcknowledgement _ _ => inferInstanceAs (Decidable (_ → _ → _ → _ → _))
  | .registration _ _ => inferInstanceAs (Decidable True)
  | .refresh _ _ _ => inferInstanceAs (Decidable True)
  | .locationReport _ _ => inferInstanceAs (Decidable True)
  | .serviceAcknowledgement _ => inferInstanceAs (Decidable True)
  | .message _ _ => inferInstanceAs (Decidable True)

theorem keeps_messageAcknowledgement {sourceRid sourceIp messageId : ℕ} (ackNs : Option ℕ)
    (hq : s.known sourceRid sourceIp = true → s.available sourceRid = true →
      (s.sessionOf sourceRid).pendingTmsMessageId = messageId →
      ¬ (s.sessionOf sourceRid).Unfinished) : Keeps s
        (s.handleMotorolaTmsMessageAcknowledgement sourceRid sourceIp messageId ackNs).1 := by
  unfold handleMotorolaTmsMessageAcknowledgement
  split_ifs with hrefused
  · exact keeps_of_sessions_eq rfl
  · simp only [not_or, Bool.not_eq_false] at hrefused
    refine keeps_modifySession ?_
    split_ifs with hid
    · exact MotorolaSession.proceeds_reset (hq hrefused.1 hrefused.2 hid.2)
    · exact MotorolaSession.Proceeds.refl _

theorem packetKept_remember {sourceRid targetRid : ℕ} {packet : RadioPacket} (a b ns : ℕ)
    (hq : s.PacketKept sourceRid targetRid packet) :
    (s.rememberMotorolaPacketNs a b ns).PacketKept sourceRid targetRid packet := by
  unfold rememberMotorolaPacketNs
  split_ifs
  · exact hq
  · exact hq

theorem keeps_receivePacket (s : Data) (sourceRid targetRid ns : ℕ) (ackNeeded : Bool)
    (packet : RadioPacket) (hq : s.PacketKept sourceRid targetRid packet) :
    Keeps s (s.receivePacket cfg sourceRid targetRid ns ackNeeded packet).1 := by
  have hfirst : Keeps s (s.rememberMotorolaPacketNs sourceRid targetRid ns) :=
    keeps_of_messageOf (messageOf_remember s sourceRid targetRid ns)
  have hq' := packetKept_remember sourceRid targetRid ns hq
  unfold receivePacket
  dsimp only
  generalize s.rememberMotorolaPacketNs sourceRid targetRid ns = s' at hfirst hq'
  generalize (if ackNeeded = true then some ns else none) = ackNs
  have hforeign : Keeps s' s' := keeps_of_sessions_eq rfl
  refine hfirst.trans ?_
  cases packet with
  | message extendedAddress message => exact keeps_message cfg s' _ _ _ _ _
  | registration subscriberIp requestIpId =>
    dsimp only
    split_ifs
    · exact hforeign
    · exact keeps_of_messageOf (messageOf_registration cfg s' _ _ _ _)
  | refresh subscriberIp requestIpId registers =>
    dsimp only
    split_ifs
    · exact hforeign
    · exact keeps_of_messageOf (messageOf_refresh cfg s' _ _ _ _ _)
  | locationReport sourceIp hasPosition =>
    dsimp only
    split_ifs
    · exact hforeign
    · exact keeps_of_messageOf (messageOf_locationReport cfg s' _ _ _ _)
  | serviceAcknowledgement sourceIp =>
    dsimp only
    split_ifs
    · exact hforeign
    · exact keeps_of_messageOf (messageOf_serviceAcknowledgement cfg s' _ _ _)
  | messageAcknowledgement sourceIp messageId =>
    dsimp only
    split_ifs with hne
    · exact hforeign
    · exact keeps_messageAcknowledgement _ (hq' (not_not.mp hne))

/-! ## The clock -/

/-- Sending a fragment does not change which one the session has come to. -/
theorem tracks_writeNextFragment (s : Data) (listening : Bool) (targetRid : ℕ) :
    Tracks s (s.writeNextMotorolaTmsInboundFragment cfg listening targetRid).2 := by
  unfold writeNextMotorolaTmsInboundFragment
  cases s.sessions.get? targetRid with
  | none => exact tracks_of_keeps (keeps_of_sessions_eq rfl) rfl
  | some session =>
    dsimp only
    cases session.pendingTmsFragments[session.pendingTmsFragmentIndex]? with
    | none => exact tracks_of_keeps (keeps_of_sessions_eq rfl) rfl
    | some fragment =>
      dsimp only
      split_ifs
      · exact tracks_of_keeps (keeps_of_sessions_eq rfl) rfl
      · refine tracks_of_keeps (keeps_modifySession ?_) rfl
        exact MotorolaSession.proceeds_of_eq rfl rfl

/-- The text of the radio is given up because a fragment was sent too often. -/
def GivesUp (s : Data) (ms : ℕ) (listening : Bool) (llId : ℕ) : Prop :=
  (s.sessionOf llId).Unfinished ∧ (s.sessionOf llId).pendingTmsFragmentAck = true ∧
    (s.sessionOf llId).pendingTmsFragmentAckMs ≤ ms ∧ listening = true ∧
    s.retry.any (fun retry => cfg.maxPduRetryCount ≤ retry.count) = true

instance (s : Data) (ms : ℕ) (listening : Bool) (llId : ℕ) :
    Decidable (s.GivesUp cfg ms listening llId) := inferInstanceAs (Decidable (_ ∧ _))

theorem tracks_clockExpired (s : Data) (listening : Bool) (llId : ℕ)
    (hq : listening = true → s.retry.any (fun retry => cfg.maxPduRetryCount ≤ retry.count) = true →
      ¬ (s.sessionOf llId).Unfinished) :
    Tracks s (s.clockExpired cfg listening llId) := by
  unfold clockExpired
  cases hr : s.retry with
  | none =>
    refine tracks_of_keeps (keeps_modifySession ?_) rfl
    exact MotorolaSession.proceeds_of_eq rfl rfl
  | some retry =>
    dsimp only
    split_ifs with hlistening hcount
    · refine tracks_of_keeps (keeps_modifySession ?_) rfl
      exact MotorolaSession.proceeds_of_eq rfl rfl
    · have hkeep : Keeps s (s.modifySession llId fun session =>
          { session with pendingTmsFragmentAckMs := kMotorolaTmsP25FragmentAckTimeoutMs }) :=
        keeps_modifySession (MotorolaSession.proceeds_of_eq rfl rfl)
      exact tracks_of_keeps hkeep rfl
    · have hunfinished : ¬ (s.sessionOf llId).Unfinished := by
        refine hq (Bool.of_not_eq_false hlistening) ?_
        rw [hr]
        exact decide_eq_true (not_lt.mp hcount)
      have hkeep : Keeps s (s.modifySession llId resetMotorolaTmsInboundDelivery) :=
        keeps_modifySession (MotorolaSession.proceeds_reset hunfinished)
      exact tracks_of_keeps hkeep rfl

theorem tracks_clockNextFragment (s : Data) (ms : ℕ) (listening : Bool) (llId : ℕ)
    (session : MotorolaSession) :
    Tracks s (s.clockNextFragment cfg ms listening llId session) := by
  have hdelay : ∀ (s : Data) (f : MotorolaSession → ℕ), Tracks s (s.modifySession llId fun session =>
      { session with pendingTmsFragmentDelayMs := f session }, []) := fun s f =>
    tracks_of_keeps (keeps_of_messageOf (messageOf_modifySession fun _ => rfl)) rfl
  unfold clockNextFragment
  by_cases hearly : ms < session.pendingTmsFragmentDelayMs
  · rw [if_pos hearly]
    exact hdelay s _
  rw [if_neg hearly]
  by_cases hbusy : listening = false ∨ s.retry.isSome = true
  · rw [if_pos hbusy]
    exact tracks_of_keeps (keeps_of_sessions_eq rfl) rfl
  rw [if_neg hbusy]
  have hsent := tracks_append (hdelay s fun _ => 0)
    (tracks_writeNextFragment cfg (s.modifySession llId fun session =>
      { session with pendingTmsFragmentDelayMs := 0 }) listening llId)
  generalize (s.modifySession llId fun session =>
    { session with pendingTmsFragmentDelayMs := 0 }).writeNextMotorolaTmsInboundFragment cfg listening
      llId = r at hsent
  obtain ⟨sent, s', effects⟩ := r
  cases sent with
  | true => exact hsent
  | false =>
    have hagain := tracks_append hsent (hdelay s' fun _ => kMotorolaTmsP25OutboxPollMs)
    rw [List.append_nil] at hagain
    exact hagain

theorem tracks_clockDelivery (s : Data) (ms : ℕ) (listening : Bool) (llId : ℕ)
    (hq : ¬ s.GivesUp cfg ms listening llId) :
    Tracks s (s.clockDelivery cfg ms listening llId) := by
  have hrefl : Tracks s (s, []) := tracks_of_keeps (keeps_of_sessions_eq rfl) rfl
  unfold clockDelivery
  cases hs : s.sessions.get? llId with
  | none => exact hrefl
  | some session =>
    have hsession := sessionOf_eq hs
    dsimp only
    split_ifs with hnil hack hms hmore happ hlate
    · exact hrefl
    · refine tracks_of_keeps (keeps_modifySession ?_) rfl
      exact MotorolaSession.proceeds_of_eq rfl rfl
    · refine tracks_clockExpired cfg s listening llId fun hlistening hretry hunfinished => hq ?_
      refine ⟨hunfinished, ?_, ?_, hlistening, hretry⟩
      · rw [hsession]
        exact hack
      · rw [hsession]
        exact not_lt.mp hms
    · exact tracks_clockNextFragment cfg s ms listening llId session
    · refine tracks_of_keeps (keeps_of_messageOf (messageOf_modifySession ?_)) rfl
      exact fun _ => rfl
    · refine tracks_of_keeps (keeps_modifySession (MotorolaSession.proceeds_reset ?_)) rfl
      rw [hsession]
      exact hmore
    · exact hrefl

/-- The visit of the clock to a radio does not give up its text. -/
def VisitKept (s : Data) (ms : ℕ) (listening : Bool) (llId : ℕ) : Prop :=
  ¬ ((s.clockService cfg ms listening llId).1.clockLocation cfg ms listening llId).1.GivesUp
    cfg ms listening llId

theorem tracks_clockSession (s : Data) (ms : ℕ) (listening : Bool) (llId : ℕ)
    (hq : s.VisitKept cfg ms listening llId) :
    Tracks s (s.clockSession cfg ms listening llId) := by
  have hservice : Tracks s (s.clockService cfg ms listening llId) :=
    tracks_of_plain (keeps_of_messageOf (messageOf_clockService cfg s ms listening llId))
      (plain_clockService cfg s ms listening llId)
  have hlocation : Tracks (s.clockService cfg ms listening llId).1
      ((s.clockService cfg ms listening llId).1.clockLocation cfg ms listening llId) :=
    tracks_of_plain (keeps_of_messageOf (messageOf_clockLocation cfg _ ms listening llId))
      (plain_clockLocation cfg _ ms listening llId)
  exact tracks_append (tracks_append hservice hlocation)
    (tracks_clockDelivery cfg _ ms listening llId hq)

/-- The clock gives up no text of any radio. -/
def VisitsKept (ms : ℕ) (listening : Bool) : List ℕ → Data → Prop
  | [], _ => True
  | llId :: rest, s =>
    s.VisitKept cfg ms listening llId ∧
      VisitsKept ms listening rest (s.clockSession cfg ms listening llId).1

instance decidableVisitsKept (ms : ℕ) (listening : Bool) :
    ∀ (order : List ℕ) (s : Data), Decidable (VisitsKept cfg ms listening order s)
  | [], _ => inferInstanceAs (Decidable True)
  | llId :: rest, s =>
    have := decidableVisitsKept ms listening rest (s.clockSession cfg ms listening llId).1
    inferInstanceAs (Decidable (¬ _ ∧ _))

theorem tracks_visitSessions (ms : ℕ) (listening : Bool) (order : List ℕ) :
    ∀ s, VisitsKept cfg ms listening order s →
      Tracks s (visitSessions cfg ms listening order s) := by
  induction order with
  | nil => exact fun s _ => tracks_of_keeps (keeps_of_sessions_eq rfl) rfl
  | cons llId rest ih =>
    intro s hq
    exact tracks_append (tracks_clockSession cfg s ms listening llId hq.1) (ih _ hq.2)

/-! ## The outbox -/

theorem tracked_started {targetRid : ℕ} {pdu : Pdu} (h : Tracked l s)
    (hstarted : Started s s' targetRid pdu) (hidle : ¬ (s.sessionOf targetRid).Pending) :
    Tracked (l.record (.deliveryStarted targetRid)) s' := by
  refine ⟨fun n name llId hn => ?_, fun llId n hack hn => ?_⟩
  · refine (h.text n name llId hn).imp_right fun ⟨hp, hcur⟩ => ?_
    have hne : llId ≠ targetRid := fun he => hidle (he ▸ hp)
    rw [hstarted.other llId hne, Ledger.current_started, if_neg hne]
    exact ⟨hp, hcur⟩
  · rw [Ledger.current_started] at hn
    split_ifs at hn with hk
    rw [hstarted.other llId hk] at hack
    exact h.acknowledged llId n hack hn

theorem tracked_archived {targetRid : ℕ} {name : Bytes} (h : Tracked l s)
    (hpending : (s.sessionOf targetRid).Pending)
    (hindex : (s.sessionOf targetRid).pendingTmsFragmentIndex = 0)
    (hcurrent : l.current targetRid = none) :
    Tracked (l.record (.archived targetRid name)) s := by
  refine ⟨fun n name' llId hn => ?_, fun llId n hack hn => ?_⟩
  · have hfiles : (l.files ++ [(name, targetRid)])[n]? = some (name', llId) := hn
    rcases Nat.lt_or_ge n l.files.length with hlt | hge
    · rw [List.getElem?_append_left hlt] at hfiles
      refine (h.text n name' llId hfiles).imp_right fun ⟨hp, hcur⟩ => ⟨hp, ?_⟩
      have hne : llId ≠ targetRid := by
        intro he
        rw [he, hcurrent] at hcur
        exact Option.some_ne_none n hcur.symm
      rw [Ledger.current_archived, if_neg hne]
      exact hcur
    · rw [List.getElem?_append_right hge, List.getElem?_singleton] at hfiles
      split_ifs at hfiles with hzero
      obtain ⟨rfl, rfl⟩ := Prod.mk.inj (Option.some.inj hfiles)
      have hn : n = l.files.length := by omega
      rw [hn, Ledger.current_archived, if_pos rfl]
      exact Or.inr ⟨hpending, rfl⟩
  · rw [Ledger.current_archived] at hn
    split_ifs at hn with hk
    · have hlen := hack.2
      rw [hk, hindex] at hlen
      exact absurd (List.eq_nil_of_length_eq_zero (Nat.le_zero.mp hlen)) hpending
    · exact h.acknowledged llId n hack hn

theorem not_pending_of_deliverable {listening : Bool} {targetRid : ℕ} {text : Bytes}
    (h : s.deliverable listening targetRid text = true) : ¬ (s.sessionOf targetRid).Pending := by
  obtain ⟨-, hsession, -⟩ := of_decide_eq_true h
  obtain ⟨session, hs, hready⟩ := (Option.any_eq_true _ _).mp hsession
  rw [sessionOf_eq hs]
  exact not_not.mpr (of_decide_eq_true hready).2

theorem tracks_archiveSent {listening : Bool} {targetRid : ℕ} {text : Bytes} {pdu : Pdu}
    (fragment : DataHeader × Bytes) (hd : s.deliverable listening targetRid text = true)
    (hstarted : Started s s' targetRid pdu) (spool : Spool) (name : Bytes) :
    Tracks s ((s'.archiveSent spool targetRid name).1,
      [.deliveryStarted targetRid, .sent pdu (some fragment)] ++
        (s'.archiveSent spool targetRid name).2) := by
  intro l h
  have hbegun : Tracked (l.record (.deliveryStarted targetRid)) s' :=
    tracked_started h hstarted (not_pending_of_deliverable hd)
  have hnone : (l.record (.deliveryStarted targetRid)).current targetRid = none := by
    rw [Ledger.current_started, if_pos rfl]
  unfold archiveSent
  split_ifs
  · have hsame : Tracks s' ({ s' with
        outbox := s'.outbox.erase name
        sent := insert (name ++ ascii ".sent".toList) s'.sent }, []) :=
      tracks_of_keeps (keeps_of_sessions_eq rfl) rfl
    exact hsame _ (tracked_archived hbegun hstarted.fragments hstarted.index hnone)
  · exact hbegun

theorem tracks_pollFiles (listening : Bool) (spool : Spool) (names : List Bytes) :
    ∀ s, Tracks s (pollFiles cfg listening spool names s) := by
  induction names with
  | nil => exact fun s => tracks_of_keeps (keeps_of_sessions_eq rfl) rfl
  | cons name rest ih =>
    intro s
    unfold pollFiles
    cases s.outbox.get? name with
    | none => exact ih s
    | some file =>
      dsimp only
      cases readText file with
      | none =>
        have hfailed : Tracks s (s.archiveFailed spool name, []) :=
          tracks_of_keeps (keeps_of_sessions_eq (sessions_archiveFailed s spool name)) rfl
        exact tracks_append hfailed (ih _)
      | some text =>
        obtain ⟨sourceRid, targetRid, text⟩ := text
        dsimp only
        cases hd : s.deliverable listening targetRid text with
        | false =>
          rw [writeDelivery_of_not_deliverable cfg s hd sourceRid]
          exact ih s
        | true =>
          obtain ⟨s', pdu, fragment, he, hstarted⟩ := writeDelivery_of_deliverable cfg s hd sourceRid
          rw [he]
          exact tracks_archiveSent fragment hd hstarted spool name

theorem tracks_clock (s : Data) {ms : ℕ} {listening : Bool} {order : List ℕ} (spool : Spool)
    (hq : VisitsKept cfg ms listening order s) :
    Tracks s (s.clock cfg ms listening order spool) := by
  have hvisits := tracks_visitSessions cfg ms listening order s hq
  unfold clock
  dsimp only
  generalize visitSessions cfg ms listening order s = r at hvisits
  have hsame : ∀ pollMs, Tracks r.1 ({ r.1 with outboxPollMs := pollMs }, []) := fun pollMs =>
    tracks_of_keeps (keeps_of_sessions_eq rfl) rfl
  split_ifs
  · have hpoll : Tracks { r.1 with outboxPollMs := kMotorolaTmsP25OutboxPollMs }
        ({ r.1 with
          outboxPollMs := kMotorolaTmsP25OutboxPollMs }.processMotorolaTmsOutbox cfg listening
            spool) := by
      unfold processMotorolaTmsOutbox
      split_ifs
      · exact tracks_of_keeps (keeps_of_sessions_eq rfl) rfl
      · exact tracks_pollFiles cfg listening spool _ _
    exact tracks_append hvisits (tracks_append (hsame kMotorolaTmsP25OutboxPollMs) hpoll)
  · have hboth := tracks_append hvisits (hsame (r.1.outboxPollMs - ms))
    rw [List.append_nil] at hboth
    exact hboth

/-! ## Runs -/

/-- An event at which no unfinished text is given up. -/
def Unabandoned (s : Data) : DataEvent → Prop
  | .clock ms listening order _ => order.Perm s.sessions.keys → VisitsKept cfg ms listening order s
  | .ackRetry order llId _ =>
    s.retry.any (fun retry => cfg.maxPduRetryCount ≤ retry.count) = true →
      ∀ rid ∈ s.failedSession order llId, ¬ (s.sessionOf rid).Unfinished
  | .packet sourceRid targetRid _ _ packet => s.PacketKept sourceRid targetRid packet
  | .disconnect llId _ => ¬ (s.sessionOf llId).Unfinished
  | _ => True

instance (s : Data) : DecidablePred (s.Unabandoned cfg)
  | .clock _ _ _ _ => inferInstanceAs (Decidable (_ → _))
  | .packet sourceRid targetRid _ _ packet =>
    inferInstanceAs (Decidable (s.PacketKept sourceRid targetRid packet))
  | .disconnect llId _ => inferInstanceAs (Decidable (¬ (s.sessionOf llId).Unfinished))
  | .ackRetry order llId _ => inferInstanceAs (Decidable (_ → ∀ rid ∈ s.failedSession order llId, _))
  | .ack _ _ _ => inferInstanceAs (Decidable True)
  | .nack _ _ _ _ => inferInstanceAs (Decidable True)
  | .connect _ _ _ _ => inferInstanceAs (Decidable True)
  | .confirmed _ => inferInstanceAs (Decidable True)
  | .deposit _ _ => inferInstanceAs (Decidable True)

theorem keeps_receiveAckRetry {order : List ℕ} {llId : ℕ} (ns : ℕ)
    (hq : s.Unabandoned cfg (.ackRetry order llId ns)) :
    Keeps s (s.receiveAckRetry cfg order llId ns).1 := by
  obtain ⟨-, he⟩ | ⟨pdu, count, -, he⟩ | ⟨-, -, he⟩ | ⟨rid, hlimit, hfail, he⟩ :=
    receiveAckRetry_cases cfg s order llId ns
  · rw [he]
    exact keeps_of_sessions_eq rfl
  · rw [he]
    exact keeps_of_sessions_eq rfl
  · rw [he]
    exact keeps_of_sessions_eq rfl
  · rw [he]
    exact keeps_modifySession (MotorolaSession.proceeds_reset (hq hlimit rid hfail))

theorem keeps_disconnect {llId : ℕ} (ns : ℕ) (hq : ¬ (s.sessionOf llId).Unfinished) :
    Keeps s (s.disconnect llId ns).1 := by
  intro w
  have hget : (s.disconnect llId ns).1.sessionOf w =
      if w = llId then {} else s.sessionOf w := by
    unfold sessionOf disconnect
    dsimp only
    rw [Dict.get?_erase]
    split_ifs <;> rfl
  rw [hget]
  split_ifs with hw
  · rw [hw]
    exact ⟨fun hp => Or.inr ⟨hp, not_lt.mp hq⟩, fun h => absurd rfl h.1⟩
  · exact MotorolaSession.Proceeds.refl _

theorem tracks_step (s : Data) (e : DataEvent) (hq : s.Unabandoned cfg e) :
    Tracks s (dataStep cfg s e) := by
  cases e with
  | clock ms listening order spool =>
    unfold dataStep
    dsimp only
    split_ifs with hperm
    · exact tracks_clock cfg s spool (hq hperm)
    · exact tracks_of_keeps (keeps_of_sessions_eq rfl) rfl
  | ack order llId status => exact tracks_receiveAck cfg s order llId status
  | nack order type llId status =>
    exact tracks_of_keeps (keeps_receiveNack s order type llId status) rfl
  | ackRetry order llId ns =>
    exact tracks_of_plain (keeps_receiveAckRetry cfg ns hq) (plain_receiveAckRetry cfg s order llId ns)
  | packet sourceRid targetRid ns ackNeeded packet =>
    exact tracks_of_plain (keeps_receivePacket cfg s sourceRid targetRid ns ackNeeded packet hq)
      (plain_receivePacket cfg s sourceRid targetRid ns ackNeeded packet)
  | connect llId ipAddr valid response =>
    exact tracks_of_keeps (keeps_of_messageOf (messageOf_connect s llId ipAddr valid response)) rfl
  | disconnect llId ns => exact tracks_of_keeps (keeps_disconnect ns hq) rfl
  | confirmed pdu => exact tracks_of_keeps (keeps_of_sessions_eq rfl) rfl
  | deposit name file => exact tracks_of_keeps (keeps_of_sessions_eq rfl) rfl

/-- The ledger of a run. -/
def ledger (es : List DataEvent) : Ledger :=
  Ledger.recordAll {} (Run.outputs (dataStep cfg) .init es)

theorem tracked_run (es : List DataEvent) : ∀ (s : Data) (l : Ledger),
    Run.Along (dataStep cfg) (Unabandoned cfg) s es → Tracked l s →
      Tracked (l.recordAll (Run.outputs (dataStep cfg) s es)) (Run.final (dataStep cfg) s es) := by
  induction es with
  | nil => exact fun s l _ h => h
  | cons e es ih =>
    intro s l halong h
    obtain ⟨hq, hrest⟩ := (Run.along_cons_iff e es).mp halong
    rw [Run.outputs_cons, Ledger.recordAll_append]
    exact ih _ _ hrest (tracks_step cfg s e hq l h)

/-- **No archived text is lost** in a run at whose events no unfinished text is given up. -/
theorem safe_of_unabandoned (cfg : DataConfig) (es : List DataEvent)
    (halong : Run.Along (dataStep cfg) (Unabandoned cfg) .init es) :
    Safe (ledger cfg es) (Run.final (dataStep cfg) .init es) := by
  refine (tracked_run cfg es .init {} halong ⟨fun n name llId hn => ?_, fun llId n _ hn => ?_⟩).safe
  · exact absurd hn (Option.some_ne_none _).symm
  · exact absurd hn (Option.some_ne_none _).symm

theorem safe_sample :
    (ledger sampleConfig sampleRun).files = [(ascii "a.yaml".toList, 7)] ∧
      Safe (ledger sampleConfig sampleRun) (Run.final (dataStep sampleConfig) .init sampleRun) :=
  ⟨by decide +kernel, safe_of_unabandoned sampleConfig sampleRun (by decide +kernel)⟩

/-- The radio is switched off after its text has begun. -/
def abortedRun : List DataEvent :=
  sampleRun ++ [.clock 5000 true [7] sampleSpool, .clock 5000 true [7] sampleSpool,
    .clock 5000 true [7] sampleSpool]

theorem not_safe_aborted :
    ¬ ∀ cfg es, Safe (ledger cfg es) (Run.final (dataStep cfg) .init es) := by
  intro h
  rcases h sampleConfig abortedRun 0 (ascii "a.yaml".toList) 7 (by decide +kernel) with
    hcompleted | ⟨hpending, -⟩ | houtbox | hfailed
  · have hnone : (ledger sampleConfig abortedRun).completed = [] := by decide +kernel
    rw [hnone] at hcompleted
    exact List.not_mem_nil hcompleted
  · refine hpending ?_
    decide +kernel
  · have hnone : ((Run.final (dataStep sampleConfig) .init abortedRun).outbox.get?
        (ascii "a.yaml".toList)).isSome = false := by decide +kernel
    rw [hnone] at houtbox
    exact Bool.false_ne_true houtbox
  · have hnone : (Run.final (dataStep sampleConfig) .init abortedRun).failed = ∅ := by
      decide +kernel
    rw [hnone] at hfailed
    exact Finset.notMem_empty _ hfailed

end Data

end P25
