import QuantarBridge.P25.Host

/-!
# What is being sent to a radio

Most of what the host does leaves the texts alone that it is sending. What it is sending to a radio
is read off the session of the radio, and each function has its frame lemma.

* `Delivery`: the fragments, the current one and whether it is waited for, `Text`: with the timer;
* `textOf`, `messageOf`: what is being sent to a radio;
* `messageOf_modifySession`, `messageOf_service` and so on: the frame lemmas;
* `Only`: a change of one session;
* `DataEffect.plain`, `plain_receivePacket`, `plain_clockService` and so on: effects without a text;
* `writeDelivery_eq`, `writeDelivery_of_not_deliverable`: the start of a text.
-/

set_option autoImplicit false

namespace P25

open Lib

/-- The fragments of a text, the current one, whether it is waited for, and its number. -/
structure Delivery where
  fragments : List Bytes
  index : ℕ
  awaited : Bool
  ns : ℕ

/-- A delivery and how long it still waits. -/
structure Text where
  delivery : Delivery
  ackMs : ℕ

/-- A text with the number of its message. -/
structure Message where
  text : Text
  id : ℕ

/-- The delivery of a session. -/
def MotorolaSession.delivery (session : MotorolaSession) : Delivery where
  fragments := session.pendingTmsFragments
  index := session.pendingTmsFragmentIndex
  awaited := session.pendingTmsFragmentAck
  ns := session.pendingTmsFragmentNs

/-- The text of a session, and how long its acknowledgement has been waited for. -/
def MotorolaSession.text (session : MotorolaSession) : Text :=
  ⟨session.delivery, session.pendingTmsFragmentAckMs⟩

/-- The text of a session with its number. -/
def MotorolaSession.message (session : MotorolaSession) : Message :=
  ⟨session.text, session.pendingTmsMessageId⟩

/-- An effect by which no text begins or goes on. -/
def DataEffect.plain : DataEffect → Bool
  | .sent _ (some _) | .retransmitted _ _ => false
  | .deliveryStarted _ | .fragmentsAcknowledged _ | .archived _ _ => false
  | _ => true

namespace Data

variable (cfg : DataConfig) (s : Data)

/-- The session of a radio, which is new if there is none. -/
def sessionOf (llId : ℕ) : MotorolaSession := (s.sessions.get? llId).getD {}

/-- What is being sent to a radio. -/
def textOf (llId : ℕ) : Text := (s.sessionOf llId).text

/-- The text for a radio. -/
def messageOf (llId : ℕ) : Message := (s.sessionOf llId).message

theorem sessionOf_eq {s : Data} {llId : ℕ} {session : MotorolaSession}
    (h : s.sessions.get? llId = some session) : s.sessionOf llId = session := by
  unfold sessionOf
  rw [h]
  rfl

theorem textOf_of_messageOf {s s' : Data} (h : s'.messageOf = s.messageOf) :
    s'.textOf = s.textOf := by
  funext w
  exact congrArg Message.text (congrFun h w)

theorem messageOf_congr {s s' : Data} (h : s'.sessions = s.sessions) : s'.messageOf = s.messageOf := by
  funext w
  unfold messageOf sessionOf
  rw [h]

theorem sessionOf_modifySession (llId : ℕ) (f : MotorolaSession → MotorolaSession) (w : ℕ) :
    (s.modifySession llId f).sessionOf w =
      if w = llId ∧ (s.sessions.get? llId).isSome then f (s.sessionOf w) else s.sessionOf w := by
  unfold sessionOf modifySession
  dsimp only
  rw [Dict.get?_modify]
  by_cases hw : w = llId
  · subst hw
    cases s.sessions.get? w with
    | none => simp
    | some session => simp
  · simp [hw]

variable {s}

theorem messageOf_modifySession {llId : ℕ} {f : MotorolaSession → MotorolaSession}
    (hf : ∀ session, (f session).message = session.message) :
    (s.modifySession llId f).messageOf = s.messageOf := by
  funext w
  unfold messageOf
  rw [sessionOf_modifySession]
  split_ifs
  · exact hf _
  · rfl

theorem messageOf_upsertSession {llId : ℕ} {f : MotorolaSession → MotorolaSession}
    (hf : ∀ session, (f session).message = session.message) :
    (s.upsertSession llId f).messageOf = s.messageOf := by
  funext w
  unfold messageOf sessionOf upsertSession
  dsimp only
  rw [Dict.get?_set]
  split_ifs with hw
  · subst hw
    exact hf _
  · rfl

variable (s)

/-! ## Data units -/

theorem messageOf_takeNs (llId : ℕ) : (s.takeNs llId).2.messageOf = s.messageOf :=
  messageOf_modifySession fun _ => rfl

theorem sessions_remember (a b ns : ℕ) :
    (s.rememberMotorolaPacketNs a b ns).sessions = s.sessions := by
  unfold rememberMotorolaPacketNs
  split_ifs <;> rfl

theorem messageOf_remember (a b ns : ℕ) : (s.rememberMotorolaPacketNs a b ns).messageOf = s.messageOf :=
  messageOf_congr (sessions_remember s a b ns)

theorem messageOf_service (llId : ℕ) :
    (s.writeMotorolaTmsServiceAvailability cfg llId).1.messageOf = s.messageOf := by
  unfold writeMotorolaTmsServiceAvailability
  cases s.registration llId with
  | none => rfl
  | some ip => exact messageOf_takeNs s llId

theorem messageOf_acknowledgement (sourceRid operation messageId : ℕ) :
    (s.writeMotorolaTmsMessageAcknowledgement cfg sourceRid operation messageId).1.messageOf =
      s.messageOf := by
  unfold writeMotorolaTmsMessageAcknowledgement
  cases s.registration sourceRid with
  | none => rfl
  | some ip =>
    cases s.sessions.get? sourceRid with
    | none => rfl
    | some session => exact messageOf_takeNs s sourceRid

theorem messageOf_directAcknowledgement (sourceRid responderRid responderIp : ℕ)
    (extendedAddress : Bool) (operation messageId : ℕ) :
    (s.writeMotorolaTmsDirectMessageAcknowledgement cfg sourceRid responderRid responderIp
      extendedAddress operation messageId).1.messageOf = s.messageOf := by
  unfold writeMotorolaTmsDirectMessageAcknowledgement
  cases s.registration sourceRid with
  | none => rfl
  | some ip =>
    cases s.sessions.get? sourceRid with
    | none => rfl
    | some session =>
      dsimp only
      by_cases hip : responderIp = 0
      · rw [if_pos hip]
      rw [if_neg hip]
      by_cases hext : extendedAddress = true
      · rw [if_pos hext]
        exact messageOf_remember s _ _ _
      · rw [if_neg hext]
        exact (messageOf_remember _ _ _ _).trans (messageOf_takeNs s sourceRid)

theorem messageOf_location (listening : Bool) (llId : ℕ) :
    (s.writeMotorolaLocationRequest cfg listening llId).1.messageOf = s.messageOf := by
  unfold writeMotorolaLocationRequest
  cases s.registration llId with
  | none => rfl
  | some ip =>
    cases s.sessions.get? llId with
    | none => rfl
    | some session =>
      dsimp only
      split_ifs
      · rfl
      · refine Eq.trans ?_ (messageOf_takeNs s llId)
        exact messageOf_modifySession fun _ => rfl

/-! ## Responses and packets -/

theorem message_progressOnAck (llId rid status : ℕ) (session : MotorolaSession) :
    (progressOnAck llId rid status session).message = session.message := by
  unfold progressOnAck
  dsimp only
  split_ifs <;> rfl

theorem messageOf_announceAfterAck (rid : ℕ) : (s.announceAfterAck cfg rid).1.messageOf = s.messageOf := by
  unfold announceAfterAck
  cases s.sessions.get? rid with
  | none => rfl
  | some session =>
    dsimp only
    split_ifs
    · refine (messageOf_service cfg _ rid).trans ?_
      exact messageOf_modifySession fun _ => rfl
    · rfl

theorem messageOf_registration (sourceRid subscriberIp requestIpId ns : ℕ) :
    (s.handleMotorolaScepArsRegistration cfg sourceRid subscriberIp requestIpId ns).1.messageOf =
      s.messageOf := by
  unfold handleMotorolaScepArsRegistration
  exact messageOf_upsertSession (s := { s with fneRegTable := s.fneRegTable.set sourceRid subscriberIp })
    fun _ => rfl

theorem messageOf_refresh (sourceRid subscriberIp requestIpId : ℕ) (registers : Bool)
    (ackNs : Option ℕ) :
    (s.handleMotorolaArsRefresh cfg sourceRid subscriberIp requestIpId registers ackNs).1.messageOf =
      s.messageOf := by
  unfold handleMotorolaArsRefresh
  refine (messageOf_takeNs _ _).trans ?_
  refine messageOf_upsertSession (s := { s with fneRegTable := s.fneRegTable.set sourceRid subscriberIp })
    fun session => ?_
  split_ifs <;> rfl

theorem messageOf_serviceAcknowledgement (sourceRid sourceIp : ℕ) (ackNs : Option ℕ) :
    (s.handleMotorolaTmsServiceAcknowledgement cfg sourceRid sourceIp ackNs).1.messageOf =
      s.messageOf := by
  unfold handleMotorolaTmsServiceAcknowledgement
  split_ifs
  · rfl
  · exact messageOf_modifySession fun _ => rfl

theorem messageOf_locationReport (sourceRid sourceIp : ℕ) (hasPosition : Bool) (ackNs : Option ℕ) :
    (s.handleMotorolaLocationReport cfg sourceRid sourceIp hasPosition ackNs).1.messageOf =
      s.messageOf := by
  unfold handleMotorolaLocationReport
  by_cases hk : s.known sourceRid sourceIp = false
  · rw [if_pos hk]
  · rw [if_neg hk]
    exact messageOf_modifySession fun _ => rfl

theorem messageOf_connect (llId ipAddr : ℕ) (valid : Bool) (response : Option Pdu) :
    (s.connect llId ipAddr valid response).messageOf = s.messageOf := by
  refine messageOf_congr ?_
  unfold connect
  dsimp only
  split_ifs <;> rfl

/-! ## The clock -/

theorem messageOf_clockService (ms : ℕ) (listening : Bool) (llId : ℕ) :
    (s.clockService cfg ms listening llId).1.messageOf = s.messageOf := by
  unfold clockService
  cases s.sessions.get? llId with
  | none => rfl
  | some session =>
    dsimp only
    split_ifs
    · rfl
    · exact messageOf_modifySession fun _ => rfl
    · rfl
    · exact messageOf_modifySession fun _ => rfl
    · refine (messageOf_service cfg _ llId).trans ?_
      exact messageOf_modifySession fun _ => rfl

theorem messageOf_clockLocation (ms : ℕ) (listening : Bool) (llId : ℕ) :
    (s.clockLocation cfg ms listening llId).1.messageOf = s.messageOf := by
  unfold clockLocation
  cases s.sessions.get? llId with
  | none => rfl
  | some session =>
    dsimp only
    split_ifs
    · rfl
    · exact messageOf_modifySession fun _ => rfl
    · rfl
    · refine (messageOf_location cfg _ listening llId).trans ?_
      exact messageOf_modifySession fun _ => rfl

/-! ## Visits to other sessions -/

/-- Only one session changes. -/
def Only (llId : ℕ) (s s' : Data) : Prop :=
  ∀ w, w ≠ llId → s'.sessions.get? w = s.sessions.get? w

theorem only_refl (llId : ℕ) (s : Data) : Only llId s s := fun _ _ => rfl

theorem Only.trans {llId : ℕ} {s s' s'' : Data} (h : Only llId s s') (h' : Only llId s' s'') : Only llId s s'' :=
  fun w hw => (h' w hw).trans (h w hw)

theorem only_modifySession (llId : ℕ) (f : MotorolaSession → MotorolaSession) (s : Data) :
    Only llId s (s.modifySession llId f) := by
  intro w hw
  unfold modifySession
  dsimp only
  rw [Dict.get?_modify, if_neg hw]

theorem only_takeNs (llId : ℕ) (s : Data) : Only llId s (s.takeNs llId).2 :=
  only_modifySession llId _ s

theorem only_service (llId : ℕ) (s : Data) :
    Only llId s (s.writeMotorolaTmsServiceAvailability cfg llId).1 := by
  unfold writeMotorolaTmsServiceAvailability
  cases s.registration llId with
  | none => exact only_refl llId s
  | some ip => exact only_takeNs llId s

theorem only_location (listening : Bool) (llId : ℕ) (s : Data) :
    Only llId s (s.writeMotorolaLocationRequest cfg listening llId).1 := by
  unfold writeMotorolaLocationRequest
  cases s.registration llId with
  | none => exact only_refl llId s
  | some ip =>
    cases s.sessions.get? llId with
    | none => exact only_refl llId s
    | some session =>
      dsimp only
      split_ifs
      · exact only_refl llId s
      · exact (only_takeNs llId s).trans (only_modifySession llId _ _)

theorem only_writeNextFragment (listening : Bool) (llId : ℕ) (s : Data) :
    Only llId s (s.writeNextMotorolaTmsInboundFragment cfg listening llId).2.1 := by
  unfold writeNextMotorolaTmsInboundFragment
  cases s.sessions.get? llId with
  | none => exact only_refl llId s
  | some session =>
    dsimp only
    cases session.pendingTmsFragments[session.pendingTmsFragmentIndex]? with
    | none => exact only_refl llId s
    | some fragment =>
      dsimp only
      split_ifs
      · exact only_refl llId s
      · exact only_modifySession llId _ s

theorem only_clockService (ms : ℕ) (listening : Bool) (llId : ℕ) (s : Data) :
    Only llId s (s.clockService cfg ms listening llId).1 := by
  unfold clockService
  cases s.sessions.get? llId with
  | none => exact only_refl llId s
  | some session =>
    dsimp only
    split_ifs
    · exact only_refl llId s
    · exact only_modifySession llId _ s
    · exact only_refl llId s
    · exact only_modifySession llId _ s
    · exact (only_modifySession llId _ s).trans (only_service cfg llId _)

theorem only_clockLocation (ms : ℕ) (listening : Bool) (llId : ℕ) (s : Data) :
    Only llId s (s.clockLocation cfg ms listening llId).1 := by
  unfold clockLocation
  cases s.sessions.get? llId with
  | none => exact only_refl llId s
  | some session =>
    dsimp only
    split_ifs
    · exact only_refl llId s
    · exact only_modifySession llId _ s
    · exact only_refl llId s
    · exact (only_modifySession llId _ s).trans (only_location cfg listening llId _)

theorem only_clockExpired (listening : Bool) (llId : ℕ) (s : Data) :
    Only llId s (s.clockExpired cfg listening llId).1 := by
  unfold clockExpired
  cases s.retry with
  | none => exact only_modifySession llId _ s
  | some retry =>
    dsimp only
    split_ifs
    · exact only_modifySession llId _ s
    · exact only_modifySession llId _ s
    · exact only_modifySession llId _ s

theorem only_clockNextFragment (ms : ℕ) (listening : Bool) (llId : ℕ) (session : MotorolaSession)
    (s : Data) : Only llId s (s.clockNextFragment cfg ms listening llId session).1 := by
  unfold clockNextFragment
  by_cases hdelay : ms < session.pendingTmsFragmentDelayMs
  · rw [if_pos hdelay]
    exact only_modifySession llId _ s
  rw [if_neg hdelay]
  by_cases hbusy : listening = false ∨ s.retry.isSome = true
  · rw [if_pos hbusy]
    exact only_refl llId s
  rw [if_neg hbusy]
  have hsent := (only_modifySession llId (fun session =>
    { session with pendingTmsFragmentDelayMs := 0 }) s).trans
      (only_writeNextFragment cfg listening llId _)
  generalize (s.modifySession llId fun session =>
    { session with pendingTmsFragmentDelayMs := 0 }).writeNextMotorolaTmsInboundFragment cfg listening
      llId = r at hsent
  obtain ⟨sent, s', effects⟩ := r
  cases sent with
  | true => exact hsent
  | false => exact hsent.trans (only_modifySession llId _ s')

theorem only_clockDelivery (ms : ℕ) (listening : Bool) (llId : ℕ) (s : Data) :
    Only llId s (s.clockDelivery cfg ms listening llId).1 := by
  unfold clockDelivery
  cases s.sessions.get? llId with
  | none => exact only_refl llId s
  | some session =>
    dsimp only
    split_ifs
    · exact only_refl llId s
    · exact only_modifySession llId _ s
    · exact only_clockExpired cfg listening llId s
    · exact only_clockNextFragment cfg ms listening llId session s
    · exact only_modifySession llId _ s
    · exact only_modifySession llId _ s
    · exact only_refl llId s

theorem only_clockSession (ms : ℕ) (listening : Bool) (llId : ℕ) (s : Data) :
    Only llId s (s.clockSession cfg ms listening llId).1 :=
  ((only_clockService cfg ms listening llId s).trans (only_clockLocation cfg ms listening llId _)).trans
    (only_clockDelivery cfg ms listening llId _)

/-! ## Effects -/

theorem plain_service (s : Data) (llId : ℕ) :
    (s.writeMotorolaTmsServiceAvailability cfg llId).2.all DataEffect.plain = true := by
  unfold writeMotorolaTmsServiceAvailability
  cases s.registration llId with
  | none => rfl
  | some ip => rfl

theorem plain_announceAfterAck (s : Data) (rid : ℕ) :
    (s.announceAfterAck cfg rid).2.all DataEffect.plain = true := by
  unfold announceAfterAck
  cases s.sessions.get? rid with
  | none => rfl
  | some session =>
    dsimp only
    split_ifs
    · exact plain_service cfg _ rid
    · rfl

theorem plain_notice (rid : ℕ) (notice : Prop) [Decidable notice] :
    (if notice then [DataEffect.readyNotice rid] else []).all DataEffect.plain = true := by
  split_ifs <;> rfl

theorem plain_respond (llId : ℕ) (ackNs : Option ℕ) :
    (respond llId ackNs).all DataEffect.plain = true := by
  cases ackNs with
  | none => rfl
  | some ns => rfl

theorem plain_acknowledgement (s : Data) (sourceRid operation messageId : ℕ) :
    (s.writeMotorolaTmsMessageAcknowledgement cfg sourceRid operation messageId).2.all
      DataEffect.plain = true := by
  unfold writeMotorolaTmsMessageAcknowledgement
  cases s.registration sourceRid with
  | none => rfl
  | some ip =>
    cases s.sessions.get? sourceRid with
    | none => rfl
    | some session => rfl

theorem plain_directAcknowledgement (s : Data) (sourceRid responderRid responderIp : ℕ)
    (extendedAddress : Bool) (operation messageId : ℕ) :
    (s.writeMotorolaTmsDirectMessageAcknowledgement cfg sourceRid responderRid responderIp
      extendedAddress operation messageId).2.all DataEffect.plain = true := by
  unfold writeMotorolaTmsDirectMessageAcknowledgement
  cases s.registration sourceRid with
  | none => rfl
  | some ip =>
    cases s.sessions.get? sourceRid with
    | none => rfl
    | some session =>
      dsimp only
      by_cases hip : responderIp = 0
      · rw [if_pos hip]
        rfl
      · rw [if_neg hip]
        by_cases hext : extendedAddress = true
        · rw [if_pos hext]
          rfl
        · rw [if_neg hext]
          rfl

theorem plain_inbox (sourceRid target : ℕ) (text : Bytes) (candidate : Bool) :
    (if target = 0 then [] else [DataEffect.inboxEvent sourceRid target text candidate]).all
      DataEffect.plain = true := by
  split_ifs <;> rfl

theorem plain_message (s : Data) (sourceRid targetRid : ℕ) (extendedAddress : Bool)
    (message : MotorolaTmsMessage) (ackNs : Option ℕ) :
    (s.handleMotorolaTmsMessage cfg sourceRid targetRid extendedAddress message ackNs).2.all
      DataEffect.plain = true := by
  unfold handleMotorolaTmsMessage
  by_cases hrefused : (extendedAddress = false ∧ sourceRid ≠ targetRid) ∨
      (extendedAddress = true ∧ (sourceRid = 0 ∨ targetRid = 0)) ∨
      s.known sourceRid message.sourceIp = false ∨ s.available sourceRid = false
  · rw [if_pos hrefused]
    rfl
  rw [if_neg hrefused]
  dsimp only
  rw [List.all_append, List.all_append, plain_respond, plain_inbox, Bool.true_and, Bool.true_and]
  split_ifs
  · exact plain_directAcknowledgement cfg _ _ _ _ _ _ _
  · exact plain_acknowledgement cfg _ _ _ _

theorem plain_receivePacket (s : Data) (sourceRid targetRid ns : ℕ) (ackNeeded : Bool)
    (packet : RadioPacket) :
    (s.receivePacket cfg sourceRid targetRid ns ackNeeded packet).2.all DataEffect.plain = true := by
  unfold receivePacket
  dsimp only
  generalize (if ackNeeded = true then some ns else none) = ackNs
  cases packet with
  | message extendedAddress message => exact plain_message cfg _ _ _ _ _ _
  | registration subscriberIp requestIpId =>
    dsimp only
    split_ifs <;> rfl
  | refresh subscriberIp requestIpId registers =>
    dsimp only
    split_ifs
    · rfl
    · unfold handleMotorolaArsRefresh
      dsimp only
      rw [List.all_append, plain_respond]
      rfl
  | locationReport sourceIp hasPosition =>
    dsimp only
    split_ifs
    · rfl
    · unfold handleMotorolaLocationReport
      by_cases hk : (s.rememberMotorolaPacketNs sourceRid targetRid ns).known sourceRid sourceIp =
          false
      · rw [if_pos hk]
        rfl
      · rw [if_neg hk]
        exact plain_respond _ _
  | serviceAcknowledgement sourceIp =>
    dsimp only
    split_ifs
    · rfl
    · unfold handleMotorolaTmsServiceAcknowledgement
      split_ifs
      · rfl
      · exact plain_respond _ _
  | messageAcknowledgement sourceIp messageId =>
    dsimp only
    split_ifs
    · rfl
    · unfold handleMotorolaTmsMessageAcknowledgement
      split_ifs
      · rfl
      · exact plain_respond _ _

/-- What the request of a radio for the data unit can do. -/
theorem receiveAckRetry_cases (s : Data) (order : List ℕ) (llId ns : ℕ) :
    (s.retry = none ∧ s.receiveAckRetry cfg order llId ns = (s, [])) ∨
    (∃ pdu count, s.retry = some ⟨pdu, count⟩ ∧
      s.receiveAckRetry cfg order llId ns =
        ({ s with retry := some ⟨pdu, count + 1⟩ }, [.repeated llId pdu])) ∨
    (s.retry.any (fun retry => cfg.maxPduRetryCount ≤ retry.count) = true ∧
      s.failedSession order llId = none ∧
      s.receiveAckRetry cfg order llId ns = ({ s with retry := none }, [.responded llId ns])) ∨
    ∃ rid, s.retry.any (fun retry => cfg.maxPduRetryCount ≤ retry.count) = true ∧
      s.failedSession order llId = some rid ∧
      s.receiveAckRetry cfg order llId ns =
        ({ s.modifySession rid resetMotorolaTmsInboundDelivery with retry := none },
          [.deliveryAborted rid, .responded llId ns]) := by
  unfold receiveAckRetry
  rcases hr : s.retry with _ | ⟨pdu, count⟩
  · exact Or.inl ⟨rfl, rfl⟩
  · dsimp only
    by_cases hcount : count < cfg.maxPduRetryCount
    · rw [if_pos hcount]
      exact Or.inr (Or.inl ⟨pdu, count, rfl, rfl⟩)
    · have hlimit : (some (⟨pdu, count⟩ : Retry)).any
          (fun retry => cfg.maxPduRetryCount ≤ retry.count) = true :=
        decide_eq_true (not_lt.mp hcount)
      rw [if_neg hcount]
      cases hfail : s.failedSession order llId with
      | none => exact Or.inr (Or.inr (Or.inl ⟨hlimit, rfl, rfl⟩))
      | some rid => exact Or.inr (Or.inr (Or.inr ⟨rid, hlimit, rfl, rfl⟩))

theorem plain_receiveAckRetry (s : Data) (order : List ℕ) (llId ns : ℕ) :
    (s.receiveAckRetry cfg order llId ns).2.all DataEffect.plain = true := by
  obtain ⟨-, he⟩ | ⟨pdu, count, -, he⟩ | ⟨-, -, he⟩ | ⟨rid, -, -, he⟩ :=
    receiveAckRetry_cases cfg s order llId ns
  all_goals
    rw [he]
    rfl

theorem plain_clockService (s : Data) (ms : ℕ) (listening : Bool) (llId : ℕ) :
    (s.clockService cfg ms listening llId).2.all DataEffect.plain = true := by
  unfold clockService
  cases s.sessions.get? llId with
  | none => rfl
  | some session =>
    dsimp only
    split_ifs
    · rfl
    · rfl
    · rfl
    · rfl
    · exact plain_service cfg _ llId

theorem plain_clockLocation (s : Data) (ms : ℕ) (listening : Bool) (llId : ℕ) :
    (s.clockLocation cfg ms listening llId).2.all DataEffect.plain = true := by
  have hrequest : ∀ s : Data,
      (s.writeMotorolaLocationRequest cfg listening llId).2.all DataEffect.plain = true := by
    intro s
    unfold writeMotorolaLocationRequest
    cases s.registration llId with
    | none => rfl
    | some ip =>
      cases s.sessions.get? llId with
      | none => rfl
      | some session =>
        dsimp only
        split_ifs <;> rfl
  unfold clockLocation
  cases s.sessions.get? llId with
  | none => rfl
  | some session =>
    dsimp only
    split_ifs
    · rfl
    · rfl
    · rfl
    · exact hrequest _

/-! ## The start of a text -/

/-- A session that waits for the fragment it has come to. -/
def awaitFragment (ns : ℕ) (session : MotorolaSession) : MotorolaSession :=
  { session with
    nextOutboundNs := (ns + 1) % 8
    pendingTmsFragmentAck := true
    pendingTmsFragmentNs := ns
    pendingTmsFragmentAckMs := kMotorolaTmsP25FragmentAckTimeoutMs }

theorem nextFragment_of_ready {targetRid : ℕ} {session : MotorolaSession} {fragment : Bytes}
    (hs : s.sessions.get? targetRid = some session)
    (hfragment : session.pendingTmsFragments[session.pendingTmsFragmentIndex]? = some fragment)
    (hack : session.pendingTmsFragmentAck = false) (hr : s.retry = none) :
    let header := fragmentHeader targetRid session.pendingTmsFragmentIndex
      session.pendingTmsFragments.length (session.nextOutboundNs % 8) fragment.length
    s.writeNextMotorolaTmsInboundFragment cfg true targetRid =
      (true, (s.modifySession targetRid (awaitFragment (session.nextOutboundNs % 8))).writeRfPdu
        (cfg.assemble header fragment) (some (header, fragment))) := by
  unfold writeNextMotorolaTmsInboundFragment
  rw [hs]
  dsimp only
  rw [hfragment, hack, hr]
  rfl

theorem writeDelivery_of_not_deliverable {listening : Bool} {targetRid : ℕ} {text : Bytes}
    (h : s.deliverable listening targetRid text = false) (senderRid : ℕ) :
    s.writeMotorolaTmsInboundDelivery cfg listening targetRid senderRid text = (false, s, []) := by
  unfold writeMotorolaTmsInboundDelivery
  cases s.registration targetRid with
  | none => rfl
  | some ip =>
    cases s.sessions.get? targetRid with
    | none => rfl
    | some session => exact if_pos h

/-- A session with a new text. -/
def queueText (response : Bytes) (messageId : ℕ) (session : MotorolaSession) : MotorolaSession :=
  { session with
    pendingTmsFragments := fragmentsOf response
    pendingTmsFragmentIndex := 0
    pendingTmsFragmentAck := false
    pendingTmsFragmentNs := 0
    pendingTmsFragmentAckMs := 0
    pendingTmsMessageId := messageId
    pendingTmsFragmentDelayMs := 0
    pendingTmsApplicationAckMs := 0 }

/-- The host after the start of a text. -/
def startText (targetRid ns messageId : ℕ) (response : Bytes) (pdu : Pdu) : Data :=
  (((s.modifySession targetRid (queueText response messageId)).modifySession targetRid
    (awaitFragment ns)).writeRfPdu pdu).1.modifySession targetRid fun session =>
      { session with nextTmsMessageId := (messageId + 1) % 32 }

/-- What the start of a text does to the host. -/
structure Started (s s' : Data) (targetRid : ℕ) (pdu : Pdu) : Prop where
  retry : s'.retry = some ⟨pdu, 0⟩
  fragments : (s'.sessionOf targetRid).pendingTmsFragments ≠ []
  index : (s'.sessionOf targetRid).pendingTmsFragmentIndex = 0
  other : ∀ w, w ≠ targetRid → s'.sessionOf w = s.sessionOf w
  spool : s'.outbox = s.outbox ∧ s'.sent = s.sent ∧ s'.failed = s.failed

theorem sessionOf_startText {targetRid : ℕ} {session : MotorolaSession}
    (hs : s.sessions.get? targetRid = some session) (ns messageId : ℕ) (response : Bytes)
    (pdu : Pdu) :
    (s.startText targetRid ns messageId response pdu).sessionOf targetRid =
      { awaitFragment ns (queueText response messageId session) with
        nextTmsMessageId := (messageId + 1) % 32 } := by
  refine sessionOf_eq ?_
  unfold startText writeRfPdu modifySession
  simp only [Dict.get?_modify, if_true, hs, Option.map_some]

theorem sessionOf_startText_of_ne {targetRid w : ℕ} (hw : w ≠ targetRid) (ns messageId : ℕ)
    (response : Bytes) (pdu : Pdu) :
    (s.startText targetRid ns messageId response pdu).sessionOf w = s.sessionOf w := by
  unfold sessionOf startText writeRfPdu modifySession
  simp only [Dict.get?_modify, if_neg hw]

/-- **A text that can be sent** is started with its first fragment. -/
theorem writeDelivery_eq {listening : Bool} {targetRid : ℕ} {text : Bytes}
    (h : s.deliverable listening targetRid text = true) (senderRid : ℕ) :
    ∃ ip session fragment response header, s.registration targetRid = some ip ∧
      s.sessions.get? targetRid = some session ∧
      response = buildMotorolaTmsInboundMessage cfg.arsServerIp ip (session.nextTmsMessageId % 32)
        (decimal senderRid) text ∧
      (fragmentsOf response)[0]? = some fragment ∧
      header = fragmentHeader targetRid 0 (fragmentsOf response).length (session.nextOutboundNs % 8)
        fragment.length ∧
      s.writeMotorolaTmsInboundDelivery cfg listening targetRid senderRid text =
        (true, s.startText targetRid (session.nextOutboundNs % 8) (session.nextTmsMessageId % 32)
          response (cfg.assemble header fragment),
          [.deliveryStarted targetRid,
            .sent (cfg.assemble header fragment) (some (header, fragment))]) := by
  obtain ⟨hreg, hsession, hr, rfl, -⟩ := of_decide_eq_true h
  obtain ⟨ip, hip⟩ := Option.isSome_iff_exists.mp hreg
  obtain ⟨session, hs, -⟩ := (Option.any_eq_true _ _).mp hsession
  let messageId := session.nextTmsMessageId % 32
  let response :=
    buildMotorolaTmsInboundMessage cfg.arsServerIp ip messageId (decimal senderRid) text
  let queue := queueText response messageId
  have hfragments : fragmentsOf response ≠ [] := fragmentsOf_ne_nil (udpPacket_ne_nil _ _ _ _ _ _)
  obtain ⟨fragment, rest, hsplit⟩ := List.exists_cons_of_ne_nil hfragments
  have hqueued : (s.modifySession targetRid queue).sessions.get? targetRid =
      some (queue session) := by
    unfold modifySession
    dsimp only
    rw [Dict.get?_modify, if_pos rfl, hs, Option.map_some]
  have hfirst : (fragmentsOf response)[0]? = some fragment := by
    rw [hsplit]
    rfl
  have hsent := nextFragment_of_ready cfg (s.modifySession targetRid queue) hqueued hfirst rfl hr
  refine ⟨ip, session, fragment, response, _, hip, hs, rfl, hfirst, rfl, ?_⟩
  unfold writeMotorolaTmsInboundDelivery
  rw [hip, hs]
  dsimp only
  rw [h, if_neg (by decide)]
  have hwrite : writeNextMotorolaTmsInboundFragment cfg (s.modifySession targetRid fun session₀ =>
      { session₀ with
        pendingTmsFragments := fragmentsOf response
        pendingTmsFragmentIndex := 0
        pendingTmsFragmentAck := false
        pendingTmsFragmentNs := 0
        pendingTmsFragmentAckMs := 0
        pendingTmsMessageId := messageId
        pendingTmsFragmentDelayMs := 0
        pendingTmsApplicationAckMs := 0 }) true targetRid = _ := hsent
  rw [hwrite]
  rfl

theorem writeDelivery_of_deliverable {listening : Bool} {targetRid : ℕ} {text : Bytes}
    (h : s.deliverable listening targetRid text = true) (senderRid : ℕ) :
    ∃ s' pdu fragment, s.writeMotorolaTmsInboundDelivery cfg listening targetRid senderRid text =
        (true, s', [.deliveryStarted targetRid, .sent pdu (some fragment)]) ∧
      Started s s' targetRid pdu := by
  obtain ⟨ip, session, fragment, response, header, -, hs, hresponse, -, -, he⟩ :=
    writeDelivery_eq cfg s h senderRid
  refine ⟨_, _, _, he, rfl, ?_, ?_, fun w hw => sessionOf_startText_of_ne s hw _ _ _ _, rfl, rfl,
    rfl⟩
  · rw [sessionOf_startText s hs]
    show fragmentsOf response ≠ []
    rw [hresponse]
    exact fragmentsOf_ne_nil (udpPacket_ne_nil _ _ _ _ _ _)
  · rw [sessionOf_startText s hs]
    rfl

theorem sessions_archiveFailed (spool : Spool) (name : Bytes) :
    (s.archiveFailed spool name).sessions = s.sessions := by
  unfold archiveFailed
  split_ifs <;> rfl

theorem sessions_archiveSent (spool : Spool) (llId : ℕ) (name : Bytes) :
    (s.archiveSent spool llId name).1.sessions = s.sessions := by
  unfold archiveSent
  split_ifs <;> rfl

/-! ## A run -/

/-- An assembler that puts the radio and the sequence number in front. -/
def sampleConfig : DataConfig where
  assemble header fragment :=
    ⟨UInt8.ofNat header.llId :: UInt8.ofNat header.ns :: fragment, 8 * (fragment.length + 2), by omega⟩
  maxPduRetryCount := 2
  arsServerIp := 167772161
  locationInitialDelayMs := 60000
  locationIntervalMs := 60000
  locationNoFixRetryMs := 60000

/-- A spool from which every file can be moved. -/
def sampleSpool : Spool := ⟨true, fun _ => true⟩

/-- A radio registers and is sent a text. -/
def sampleRun : List DataEvent :=
  [.packet 7 7 0 true (.registration 3221225479 1), .ack [7] 7 0,
    .packet 7 7 1 true (.serviceAcknowledgement 3221225479),
    .deposit (ascii "a.yaml".toList) (.event 5 7 (ascii "6869".toList)),
    .clock 250 true [7] sampleSpool]

end Data

end P25
