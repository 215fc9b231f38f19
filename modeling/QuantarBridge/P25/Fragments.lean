import QuantarBridge.Lib.StopAndWait
import QuantarBridge.P25.Archive
import QuantarBridge.P25.RetrySlot

/-!
# The fragments of a text

The text for a radio is a job whose items are its fragments. Responses, texts from the radio and the
clock act on it, and for each radio a step of the host does what a sender that stops and waits may
do.

* `jobOf`: the text as a job, `actionsOf`: what a step does to it;
* `fragmentsTo`: the fragments that are sent to a radio, `fragmentOf`: those of the actions;
* `jobOf_receiveAck`, `jobOf_receiveNack`, `jobOf_receivePacket`: responses and packets;
* `Ticked`, `Begins`: visits of the clock and polls of the outbox;
* `explained_step`: **each step is explained**, `fragments_in_order`: and each run.
-/

set_option autoImplicit false

namespace P25

open Lib StopAndWait

/-- A message that is being sent. -/
def Message.job (m : Message) : Option (Job ℕ Bytes ℕ) :=
  if m.text.delivery.fragments = [] then none
  else some
    { key := m.id
      items := m.text.delivery.fragments
      index := m.text.delivery.index
      waiting := if m.text.delivery.awaited = true then some m.text.delivery.ns else none }

/-- The fragment that an effect sends to a radio, with its header and its data unit. -/
def DataEffect.fragmentTo (w : ℕ) : DataEffect → Option (DataHeader × Bytes × Pdu)
  | .sent pdu (some (header, fragment)) =>
    if header.llId = w then some (header, fragment, pdu) else none
  | _ => none

namespace Data

variable (cfg : DataConfig) (w : ℕ) (s : Data)

/-- The fragments that are sent to a radio. -/
def fragmentsTo (os : List DataEffect) : List (DataHeader × Bytes × Pdu) :=
  os.filterMap (DataEffect.fragmentTo w)

/-- The text for a radio. -/
def jobOf : Option (Job ℕ Bytes ℕ) := (s.messageOf w).job

/-- A text begins, and its first fragment is sent. -/
def begun (j : Job ℕ Bytes ℕ) : List (Action ℕ Bytes ℕ) :=
  .start j.key j.items :: (j.waiting.map fun n => Action.transmit j.index n).toList

/-- What a step does to the text for a radio. The clock may begin a new text after it has given up
another one. Any change that is none of the others counts as a restart. -/
def actionsOf (e : DataEvent) (r : Data × List DataEffect) : List (Action ℕ Bytes ℕ) :=
  match s.jobOf w, r.1.jobOf w with
  | none, none => []
  | none, some b => begun b
  | some a, none => [.stop a.key]
  | some a, some b =>
    match e with
    | .clock _ _ _ _ =>
      if .deliveryStarted w ∈ r.2 then .stop a.key :: begun b
      else if a = b then []
      else (b.waiting.map fun n => Action.transmit b.index n).toList
    | .ack _ _ status => if a = b then [] else [.acknowledge status]
    | _ => if a = b then [] else [.restart]

/-- The fragment that an action sends, which is one of the text. -/
def fragmentOf (o : Option (Job ℕ Bytes ℕ)) :
    Action ℕ Bytes ℕ → Option (DataHeader × Bytes × Pdu)
  | .transmit index n => o.bind fun j => j.items[index]?.map fun fragment =>
    let header := fragmentHeader w index j.items.length n fragment.length
    (header, fragment, cfg.assemble header fragment)
  | _ => none

/-- The header of a fragment says where it is in the text. -/
structure Flagged (header : DataHeader) (index count : ℕ) : Prop where
  synchronize : header.synchronize = true ↔ index = 0
  first : header.fsn = 0 ↔ index = 0
  later : index ≠ 0 → header.fsn = 1 + (index - 1) % 7
  last : header.lastFragment = true ↔ index + 1 = count

theorem flagged_fragmentHeader (llId index count ns length : ℕ) :
    Flagged (fragmentHeader llId index count ns length) index count := by
  have hfsn : (fragmentHeader llId index count ns length).fsn =
      if index = 0 then 0 else 1 + (index - 1) % 7 := rfl
  refine ⟨decide_eq_true_iff, ?_, fun hne => ?_, decide_eq_true_iff⟩
  · rw [hfsn]
    split_ifs with h
    · exact iff_of_true rfl h
    · exact iff_of_false (by omega) h
  · rw [hfsn, if_neg hne]

/-- What the host receives or sends when an action happens to the text for a radio. -/
def Cause (e : DataEvent) (r : Data × List DataEffect) : Action ℕ Bytes ℕ → Prop
  -- The text is that of a file of the outbox, and its fragments are those of the packet.
  | .start key items => ∃ name senderRid text ip,
    (s.outbox.get? name).bind readText = some (senderRid, w, text) ∧ s.registration w = some ip ∧
      items.flatten =
        buildMotorolaTmsInboundMessage cfg.arsServerIp ip key (decimal senderRid) text
  | .transmit index n => ∃ j fragment header,
    r.1.jobOf w = some j ∧ j.items[index]? = some fragment ∧ header.llId = w ∧ header.ns = n ∧
      Flagged header index j.items.length ∧
      .sent (cfg.assemble header fragment) (some (header, fragment)) ∈ r.2
  | .acknowledge n => ∃ order llId,
    e = .ack order llId n ∧ s.findMotorolaResponseSession order llId = some w
  | .restart =>
    (∃ order llId status, e = .nack order .sequence llId status ∧
      s.findMotorolaResponseSession order llId = some w) ∨
    ∃ targetRid ns ackNeeded extendedAddress message,
      e = .packet w targetRid ns ackNeeded (.message extendedAddress message)
  -- The radio acknowledges its message. Otherwise the text is given up: a fragment was sent too
  -- often, the acknowledgement of the message does not come, or the radio disconnects.
  | .stop key =>
    (∃ ns ackNeeded sourceIp, e = .packet w w ns ackNeeded (.messageAcknowledgement sourceIp key) ∧
      s.known w sourceIp = true) ∨
    (∃ ms listening order spool, e = .clock ms listening order spool ∧
      (.deliveryAborted w ∈ r.2 ∨ ∃ j, s.jobOf w = some j ∧ j.waiting = none ∧
        j.items.length ≤ j.index)) ∨
    (∃ order llId ns, e = .ackRetry order llId ns ∧ s.failedSession order llId = some w ∧
      .deliveryAborted w ∈ r.2) ∨
    ∃ ns, e = .disconnect w ns

/-- **The actions of a step** make the text what it is after the step, each has its cause, and the
fragments that are sent to the radio are those of the actions. -/
structure Explains (e : DataEvent) (r : Data × List DataEffect) (acts : List (Action ℕ Bytes ℕ)) :
    Prop where
  trace : Trace (s.jobOf w) acts (r.1.jobOf w)
  cause : ∀ a ∈ acts, Cause cfg w s e r a
  fragments : fragmentsTo w r.2 = acts.filterMap (fragmentOf cfg w (r.1.jobOf w))

/-! ## Jobs -/

variable {w s}

theorem jobOf_congr {s' : Data} (h : s'.messageOf = s.messageOf) : s'.jobOf w = s.jobOf w :=
  congrArg Message.job (congrFun h w)

theorem jobOf_of_get? {s' : Data} (h : s'.sessions.get? w = s.sessions.get? w) :
    s'.jobOf w = s.jobOf w := by
  unfold jobOf messageOf sessionOf
  rw [h]

theorem jobOf_eq {session : MotorolaSession} (hs : s.sessions.get? w = some session) :
    s.jobOf w = session.message.job := by
  unfold jobOf messageOf
  rw [sessionOf_eq hs]

theorem jobOf_eq_none (hs : s.sessions.get? w = none) : s.jobOf w = none := by
  unfold jobOf messageOf sessionOf
  rw [hs]
  rfl

theorem jobOf_modifySession {session : MotorolaSession} (hs : s.sessions.get? w = some session)
    (f : MotorolaSession → MotorolaSession) :
    (s.modifySession w f).jobOf w = (f session).message.job := by
  refine jobOf_eq ?_
  unfold modifySession
  dsimp only
  rw [Dict.get?_modify, if_pos rfl, hs, Option.map_some]

theorem jobOf_modifySession_of_ne {llId : ℕ} (hne : w ≠ llId)
    (f : MotorolaSession → MotorolaSession) : (s.modifySession llId f).jobOf w = s.jobOf w :=
  jobOf_of_get? (only_modifySession llId f s w hne)

theorem jobOf_modifySession_eq {llId : ℕ} {f : MotorolaSession → MotorolaSession}
    {g : Job ℕ Bytes ℕ → Job ℕ Bytes ℕ}
    (hf : ∀ session, (f session).message.job = session.message.job.map g) :
    (s.modifySession llId f).jobOf w = if w = llId then (s.jobOf w).map g else s.jobOf w := by
  split_ifs with hw
  · subst hw
    cases hs : s.sessions.get? w with
    | none =>
      rw [jobOf_eq_none hs, jobOf_eq_none]
      · rfl
      · unfold modifySession
        dsimp only
        rw [Dict.get?_modify, if_pos rfl, hs, Option.map_none]
    | some session => rw [jobOf_modifySession hs, jobOf_eq hs, hf]
  · exact jobOf_modifySession_of_ne hw f

theorem jobOf_modifySession_same {llId : ℕ} {f : MotorolaSession → MotorolaSession}
    (hf : ∀ session, (f session).message.job = session.message.job) :
    (s.modifySession llId f).jobOf w = s.jobOf w := by
  have hid : ∀ session, (f session).message.job = session.message.job.map id := fun session => by
    rw [hf session, Option.map_id, id]
  rw [jobOf_modifySession_eq hid, Option.map_id, id, ite_self]

theorem job_of_nil {session : MotorolaSession} (h : session.pendingTmsFragments = []) :
    session.message.job = none := if_pos h

theorem job_of_ne_nil {session : MotorolaSession} (h : session.pendingTmsFragments ≠ []) :
    session.message.job = some
      { key := session.pendingTmsMessageId
        items := session.pendingTmsFragments
        index := session.pendingTmsFragmentIndex
        waiting := if session.pendingTmsFragmentAck = true then some session.pendingTmsFragmentNs
          else none } := if_neg h

theorem job_restart (delayMs : ℕ) (session : MotorolaSession) :
    (restartMotorolaTmsInboundDelivery delayMs session).message.job =
      session.message.job.map Job.again := by
  unfold restartMotorolaTmsInboundDelivery
  split_ifs with hnil
  · rw [job_of_nil hnil]
    rfl
  · rw [job_of_ne_nil hnil]
    exact job_of_ne_nil hnil

theorem job_advance {status : ℕ} {session : MotorolaSession} (h : awaits status session = true) :
    (advanceFragment session).message.job = session.message.job.map Job.advance ∧
      ∀ j, session.message.job = some j → j.waiting = some status := by
  obtain ⟨hack, rfl⟩ := of_decide_eq_true h
  obtain ⟨hfragments, hindex⟩ := fragments_advanceFragment session
  have hrest : (advanceFragment session).pendingTmsFragmentAck = false ∧
      (advanceFragment session).pendingTmsMessageId = session.pendingTmsMessageId := by
    unfold advanceFragment
    dsimp only
    split_ifs <;> exact ⟨rfl, rfl⟩
  by_cases hnil : session.pendingTmsFragments = []
  · rw [job_of_nil hnil, job_of_nil (hfragments.trans hnil)]
    exact ⟨rfl, fun j hj => by cases hj⟩
  · constructor
    · rw [job_of_ne_nil (fun h => hnil (hfragments.symm.trans h)), hfragments, hindex, hrest.1,
        hrest.2, job_of_ne_nil hnil]
      rfl
    · intro j hj
      rw [job_of_ne_nil hnil, if_pos hack] at hj
      cases hj
      rfl

/-! ## What is sent -/

theorem fragmentsTo_append (w : ℕ) (os os' : List DataEffect) :
    fragmentsTo w (os ++ os') = fragmentsTo w os ++ fragmentsTo w os' :=
  List.filterMap_append

theorem mem_fragmentsTo {os : List DataEffect} {header : DataHeader} {fragment : Bytes} {pdu : Pdu}
    (h : (header, fragment, pdu) ∈ fragmentsTo w os) : .sent pdu (some (header, fragment)) ∈ os := by
  obtain ⟨o, ho, hsent⟩ := List.mem_filterMap.mp h
  unfold DataEffect.fragmentTo at hsent
  split at hsent
  · split_ifs at hsent
    cases hsent
    exact ho
  · cases hsent

theorem fragmentsTo_of_plain {os : List DataEffect} (h : os.all DataEffect.plain = true) :
    fragmentsTo w os = [] := by
  refine List.filterMap_eq_nil_iff.mpr fun o ho => ?_
  have hplain := List.all_eq_true.mp h o ho
  cases o with
  | sent pdu fragment =>
    cases fragment with
    | none => rfl
    | some fragment => cases hplain
  | _ => rfl

theorem fragmentsTo_sent {header : DataHeader} (h : header.llId = w) (fragment : Bytes) (pdu : Pdu) :
    fragmentsTo w [.sent pdu (some (header, fragment))] = [(header, fragment, pdu)] :=
  have hsent : DataEffect.fragmentTo w (.sent pdu (some (header, fragment))) =
      some (header, fragment, pdu) := if_pos h
  List.filterMap_cons_some hsent

theorem fragmentsTo_sent_of_ne {header : DataHeader} (h : header.llId ≠ w) (fragment : Bytes)
    (pdu : Pdu) : fragmentsTo w [.sent pdu (some (header, fragment))] = [] :=
  List.filterMap_eq_nil_iff.mpr fun _ ho => by
    rw [List.mem_singleton.mp ho]
    exact if_neg h

/-! ## Responses -/

theorem jobOf_receiveAck (order : List ℕ) (llId status : ℕ) :
    (s.receiveAck cfg order llId status).1.jobOf w = s.jobOf w ∨
      ∃ j, s.findMotorolaResponseSession order llId = some w ∧ s.jobOf w = some j ∧
        j.waiting = some status ∧
        (s.receiveAck cfg order llId status).1.jobOf w = some j.advance := by
  let r := ((s.findMotorolaResponseSession order llId).map fun rid =>
    s.acknowledgeSession llId rid status).getD (s, [])
  have hlater : (s.receiveAck cfg order llId status).1.jobOf w = r.1.jobOf w := by
    unfold receiveAck
    refine Eq.trans ?_ (show ({ r.1 with retry := none } : Data).jobOf w = r.1.jobOf w from jobOf_congr rfl)
    refine jobOf_congr ?_
    dsimp only
    cases findMotorolaResponseSession { r.1 with retry := none } order llId with
    | none => rfl
    | some rid => exact messageOf_announceAfterAck cfg { r.1 with retry := none } rid
  rw [hlater]
  show r.1.jobOf w = _ ∨ ∃ j, _ ∧ _ ∧ _ ∧ r.1.jobOf w = _
  cases hfind : s.findMotorolaResponseSession order llId with
  | none =>
    refine Or.inl ?_
    show (((s.findMotorolaResponseSession order llId).map fun rid =>
      s.acknowledgeSession llId rid status).getD (s, [])).1.jobOf w = _
    rw [hfind]
    rfl
  | some rid =>
    have hr : r = s.acknowledgeSession llId rid status := by
      show ((s.findMotorolaResponseSession order llId).map fun rid =>
        s.acknowledgeSession llId rid status).getD (s, []) = _
      rw [hfind]
      rfl
    rw [hr]
    cases hs : s.sessions.get? rid with
    | none =>
      unfold acknowledgeSession
      rw [hs]
      exact Or.inl rfl
    | some session =>
      obtain ⟨base, g, os, hbase, hg, -, he⟩ := acknowledgeSession_cases llId status hs
      have hjob : base.jobOf w = s.jobOf w := jobOf_congr (messageOf_congr hbase)
      have hs' : base.sessions.get? rid = some session := by rw [hbase, hs]
      rw [he]
      by_cases hadv : awaits status session = true
      · rw [if_pos hadv]
        by_cases hw : w = rid
        · subst hw
          dsimp only
          rw [jobOf_modifySession hs', ← hjob, jobOf_eq hs']
          have hawaits : awaits status (g session) = true := by
            have hack := congrArg (fun m => m.text.delivery.awaited) (hg session)
            have hns := congrArg (fun m => m.text.delivery.ns) (hg session)
            obtain ⟨h₁, h₂⟩ := of_decide_eq_true hadv
            exact decide_eq_true ⟨hack.trans h₁, hns.trans h₂⟩
          obtain ⟨hjob', hwaiting⟩ := job_advance hawaits
          rw [hg session] at hjob' hwaiting
          rw [hjob']
          cases hj : session.message.job with
          | none => exact Or.inl rfl
          | some j => exact Or.inr ⟨j, rfl, rfl, hwaiting j hj, rfl⟩
        · rw [← hjob]
          exact Or.inl (jobOf_modifySession_of_ne hw _)
      · rw [if_neg hadv, ← hjob]
        exact Or.inl (jobOf_modifySession_same fun session => congrArg Message.job (hg session))

theorem jobOf_receiveNack (order : List ℕ) (type : NackType) (llId status : ℕ) :
    (s.receiveNack order type llId status).jobOf w = s.jobOf w ∨
      type = .sequence ∧ s.findMotorolaResponseSession order llId = some w ∧
        (s.receiveNack order type llId status).jobOf w = (s.jobOf w).map Job.again := by
  unfold receiveNack
  cases s.findMotorolaResponseSession order llId with
  | none => exact Or.inl rfl
  | some rid =>
    cases type with
    | packetCrc =>
      refine Or.inl (jobOf_modifySession_same fun session => ?_)
      split_ifs <;> rfl
    | other => exact Or.inl rfl
    | sequence =>
      dsimp only
      split_ifs
      · have hjob : ({ s.modifySession rid (restartMotorolaTmsInboundDelivery
            kMotorolaTmsP25FragmentRestartDelayMs) with retry := none } : Data).jobOf w =
              if w = rid then (s.jobOf w).map Job.again else s.jobOf w :=
          jobOf_modifySession_eq (job_restart _)
        rw [hjob]
        split_ifs with hw
        · exact Or.inr ⟨rfl, by rw [hw], rfl⟩
        · exact Or.inl rfl
      · exact Or.inl rfl

theorem fragmentsTo_receiveAck (s : Data) (order : List ℕ) (llId status : ℕ) :
    fragmentsTo w (s.receiveAck cfg order llId status).2 = [] := by
  have hfirst : fragmentsTo w (((s.findMotorolaResponseSession order llId).map fun rid =>
      s.acknowledgeSession llId rid status).getD (s, [])).2 = [] := by
    cases s.findMotorolaResponseSession order llId with
    | none => rfl
    | some rid =>
      show fragmentsTo w (s.acknowledgeSession llId rid status).2 = []
      cases hs : s.sessions.get? rid with
      | none =>
        unfold acknowledgeSession
        rw [hs]
        rfl
      | some session =>
        obtain ⟨base, g, os, -, -, hos, he⟩ := acknowledgeSession_cases llId status hs
        rw [he]
        split_ifs
        · show fragmentsTo w (os ++ [.fragmentsAcknowledged rid]) = []
          rw [fragmentsTo_append, fragmentsTo_of_plain hos]
          rfl
        · show fragmentsTo w (os ++ []) = []
          rw [List.append_nil, fragmentsTo_of_plain hos]
        · exact fragmentsTo_of_plain hos
  unfold receiveAck
  generalize ((s.findMotorolaResponseSession order llId).map fun rid =>
    s.acknowledgeSession llId rid status).getD (s, []) = r at hfirst
  dsimp only
  rw [fragmentsTo_append, hfirst, List.nil_append]
  cases findMotorolaResponseSession { r.1 with retry := none } order llId with
  | none => rfl
  | some rid => exact fragmentsTo_of_plain (plain_announceAfterAck cfg { r.1 with retry := none } rid)

/-- A request for the data unit may end the text. -/
theorem jobOf_receiveAckRetry (order : List ℕ) (llId ns : ℕ) :
    (s.receiveAckRetry cfg order llId ns).1.jobOf w = s.jobOf w ∨
      s.failedSession order llId = some w ∧
        .deliveryAborted w ∈ (s.receiveAckRetry cfg order llId ns).2 ∧
        (s.receiveAckRetry cfg order llId ns).1.jobOf w = none := by
  obtain ⟨-, he⟩ | ⟨pdu, count, -, he⟩ | ⟨-, -, he⟩ | ⟨rid, -, hfail, he⟩ :=
    receiveAckRetry_cases cfg s order llId ns
  · rw [he]
    exact Or.inl rfl
  · rw [he]
    exact Or.inl rfl
  · rw [he]
    exact Or.inl rfl
  · rw [he]
    by_cases hw : w = rid
    · subst hw
      obtain ⟨-, hwaits⟩ := Option.filter_eq_some_iff.mp hfail
      obtain ⟨session, hs, -⟩ := (Option.any_eq_true _ _).mp hwaits
      have hjob : (s.modifySession w resetMotorolaTmsInboundDelivery).jobOf w = none :=
        (jobOf_modifySession hs _).trans (job_of_nil rfl)
      exact Or.inr ⟨hfail, List.mem_cons_self, hjob⟩
    · have hjob : (s.modifySession rid resetMotorolaTmsInboundDelivery).jobOf w = s.jobOf w :=
        jobOf_modifySession_of_ne hw _
      exact Or.inl hjob

/-! ## Packets of a radio -/

theorem jobOf_message (sourceRid targetRid : ℕ) (extendedAddress : Bool)
    (message : MotorolaTmsMessage) (ackNs : Option ℕ) :
    (s.handleMotorolaTmsMessage cfg sourceRid targetRid extendedAddress message ackNs).1.jobOf w =
        s.jobOf w ∨
      w = sourceRid ∧
        (s.handleMotorolaTmsMessage cfg sourceRid targetRid extendedAddress message ackNs).1.jobOf w =
          (s.jobOf w).map Job.again := by
  unfold handleMotorolaTmsMessage
  by_cases hrefused : (extendedAddress = false ∧ sourceRid ≠ targetRid) ∨
      (extendedAddress = true ∧ (sourceRid = 0 ∨ targetRid = 0)) ∨
      s.known sourceRid message.sourceIp = false ∨ s.available sourceRid = false
  · rw [if_pos hrefused]
    exact Or.inl rfl
  rw [if_neg hrefused]
  have hrestart : ∀ s' : Data, s'.messageOf = (s.modifySession sourceRid
      (restartMotorolaTmsInboundDelivery kMotorolaTmsP25FragmentRestartDelayMs)).messageOf →
        s'.jobOf w = s.jobOf w ∨ w = sourceRid ∧ s'.jobOf w = (s.jobOf w).map Job.again := by
    intro s' h
    rw [jobOf_congr h, jobOf_modifySession_eq (job_restart _)]
    split_ifs with hw
    · exact Or.inr ⟨hw, rfl⟩
    · exact Or.inl rfl
  dsimp only
  split_ifs
  · exact hrestart _ (messageOf_directAcknowledgement cfg _ _ _ _ _ _ _)
  · exact hrestart _ (messageOf_acknowledgement cfg _ _ _ _)

theorem jobOf_messageAcknowledgement (sourceRid sourceIp messageId : ℕ) (ackNs : Option ℕ) :
    (s.handleMotorolaTmsMessageAcknowledgement sourceRid sourceIp messageId ackNs).1.jobOf w =
        s.jobOf w ∨
      w = sourceRid ∧ s.known sourceRid sourceIp = true ∧
        (∃ j, s.jobOf w = some j ∧ j.key = messageId) ∧
        (s.handleMotorolaTmsMessageAcknowledgement sourceRid sourceIp messageId ackNs).1.jobOf w =
          none := by
  unfold handleMotorolaTmsMessageAcknowledgement
  split_ifs with hrefused
  · exact Or.inl rfl
  rw [not_or, Bool.not_eq_false] at hrefused
  by_cases hw : w = sourceRid
  · subst hw
    cases hs : s.sessions.get? w with
    | none =>
      refine Or.inl (jobOf_of_get? ?_)
      unfold modifySession
      dsimp only
      rw [Dict.get?_modify, if_pos rfl, hs, Option.map_none]
    | some session =>
      dsimp only
      rw [jobOf_modifySession hs, jobOf_eq hs]
      split_ifs with hid
      · refine Or.inr ⟨rfl, hrefused.1, ⟨_, job_of_ne_nil hid.1, hid.2⟩, job_of_nil rfl⟩
      · exact Or.inl rfl
  · exact Or.inl (jobOf_modifySession_of_ne hw _)

theorem jobOf_receivePacket (sourceRid targetRid ns : ℕ) (ackNeeded : Bool) (packet : RadioPacket) :
    (s.receivePacket cfg sourceRid targetRid ns ackNeeded packet).1.jobOf w = s.jobOf w ∨
      (∃ extendedAddress message, packet = .message extendedAddress message ∧ w = sourceRid ∧
        (s.receivePacket cfg sourceRid targetRid ns ackNeeded packet).1.jobOf w =
          (s.jobOf w).map Job.again) ∨
      ∃ sourceIp j, packet = .messageAcknowledgement sourceIp j.key ∧ w = sourceRid ∧
        sourceRid = targetRid ∧ s.known sourceRid sourceIp = true ∧ s.jobOf w = some j ∧
        (s.receivePacket cfg sourceRid targetRid ns ackNeeded packet).1.jobOf w = none := by
  have hfirst : (s.rememberMotorolaPacketNs sourceRid targetRid ns).jobOf w = s.jobOf w :=
    jobOf_congr (messageOf_remember s sourceRid targetRid ns)
  have hknown : ∀ sourceIp, (s.rememberMotorolaPacketNs sourceRid targetRid ns).known sourceRid
      sourceIp = s.known sourceRid sourceIp := by
    intro sourceIp
    unfold rememberMotorolaPacketNs
    split_ifs <;> rfl
  unfold receivePacket
  dsimp only
  generalize s.rememberMotorolaPacketNs sourceRid targetRid ns = s' at hfirst hknown
  generalize (if ackNeeded = true then some ns else none) = ackNs
  rw [← hfirst]
  cases packet with
  | message extendedAddress message =>
    refine (jobOf_message cfg sourceRid targetRid extendedAddress message _).imp_right fun h => ?_
    exact Or.inl ⟨extendedAddress, message, rfl, h⟩
  | registration subscriberIp requestIpId =>
    dsimp only
    split_ifs
    · exact Or.inl rfl
    · exact Or.inl (jobOf_congr (messageOf_registration cfg s' _ _ _ _))
  | refresh subscriberIp requestIpId registers =>
    dsimp only
    split_ifs
    · exact Or.inl rfl
    · exact Or.inl (jobOf_congr (messageOf_refresh cfg s' _ _ _ _ _))
  | locationReport sourceIp hasPosition =>
    dsimp only
    split_ifs
    · exact Or.inl rfl
    · exact Or.inl (jobOf_congr (messageOf_locationReport cfg s' _ _ _ _))
  | serviceAcknowledgement sourceIp =>
    dsimp only
    split_ifs
    · exact Or.inl rfl
    · exact Or.inl (jobOf_congr (messageOf_serviceAcknowledgement cfg s' _ _ _))
  | messageAcknowledgement sourceIp messageId =>
    dsimp only
    split_ifs with hne
    · exact Or.inl rfl
    · refine (jobOf_messageAcknowledgement sourceRid sourceIp messageId _).imp_right ?_
      rintro ⟨hw, hk, ⟨j, hj, rfl⟩, h⟩
      exact Or.inr ⟨sourceIp, j, rfl, hw, not_not.mp hne, (hknown sourceIp).symm.trans hk, hj, h⟩

/-! ## The clock -/

variable (w)

/-- One fragment is sent to the radio, the one that its job has come to. -/
def FragmentSent (j : Job ℕ Bytes ℕ) (n : ℕ) (os : List DataEffect) : Prop :=
  ∃ fragment header, j.items[j.index]? = some fragment ∧
    header = fragmentHeader w j.index j.items.length n fragment.length ∧
    fragmentsTo w os = [(header, fragment, cfg.assemble header fragment)]

/-- What the clock does to the text for a radio when it visits the radios. -/
inductive Ticked : Option (Job ℕ Bytes ℕ) → Option (Job ℕ Bytes ℕ) → List DataEffect → Prop
  | same (o : Option (Job ℕ Bytes ℕ)) (os : List DataEffect) : fragmentsTo w os = [] →
      Ticked o o os
  | transmitted (j : Job ℕ Bytes ℕ) (n : ℕ) (os : List DataEffect) : j.waiting = none →
      FragmentSent cfg w j n os → Ticked (some j) (some (j.await n)) os
  | stopped (j : Job ℕ Bytes ℕ) (os : List DataEffect) :
      (.deliveryAborted w ∈ os ∨ j.waiting = none ∧ j.items.length ≤ j.index) →
      fragmentsTo w os = [] → Ticked (some j) none os

variable {w}

theorem Ticked.mono {a b : Option (Job ℕ Bytes ℕ)} {os os' : List DataEffect}
    (h : Ticked cfg w a b os) (hos : ∀ o ∈ os, o ∈ os') (hf : fragmentsTo w os' = fragmentsTo w os) :
    Ticked cfg w a b os' := by
  cases h with
  | same _ _ hnone => exact .same _ _ (hf.trans hnone)
  | transmitted j n _ hw hsent =>
    obtain ⟨fragment, header, hitem, hheader, hsent⟩ := hsent
    exact .transmitted j n _ hw ⟨fragment, header, hitem, hheader, hf.trans hsent⟩
  | stopped j _ h hnone => exact .stopped j _ (h.imp_left (hos _)) (hf.trans hnone)

theorem ticked_of_eq {a b : Option (Job ℕ Bytes ℕ)} {os : List DataEffect} (h : b = a)
    (hnone : fragmentsTo w os = []) : Ticked cfg w a b os := h ▸ .same b os hnone

/-- **A fragment is sent** for a text that waits for nothing, or nothing happens. -/
theorem writeNextFragment_cases (listening : Bool) :
    s.writeNextMotorolaTmsInboundFragment cfg listening w = (false, s, []) ∨
      ∃ j n s' os, s.jobOf w = some j ∧ j.waiting = none ∧ FragmentSent cfg w j n os ∧
        os.all DataEffect.silent = true ∧ s'.jobOf w = some (j.await n) ∧
        s'.outbox = s.outbox ∧ s'.fneRegTable = s.fneRegTable ∧
        s.writeNextMotorolaTmsInboundFragment cfg listening w = (true, s', os) := by
  unfold writeNextMotorolaTmsInboundFragment
  cases hs : s.sessions.get? w with
  | none => exact Or.inl rfl
  | some session =>
    dsimp only
    cases hf : session.pendingTmsFragments[session.pendingTmsFragmentIndex]? with
    | none => exact Or.inl rfl
    | some fragment =>
      dsimp only
      split_ifs with hbusy
      · exact Or.inl rfl
      have hne : session.pendingTmsFragments ≠ [] := by
        intro hnil
        rw [hnil] at hf
        cases hf
      have hack : session.pendingTmsFragmentAck = false :=
        Bool.eq_false_iff.mpr fun h => hbusy (Or.inl h)
      let n := session.nextOutboundNs % 8
      let header := fragmentHeader w session.pendingTmsFragmentIndex
        session.pendingTmsFragments.length n fragment.length
      let pdu := cfg.assemble header fragment
      refine Or.inr ⟨_, n, ((s.modifySession w (awaitFragment n)).writeRfPdu pdu).1,
        [.sent pdu (some (header, fragment))], (jobOf_eq hs).trans (job_of_ne_nil hne), ?_,
        ⟨fragment, header, hf, rfl, ?_⟩, rfl, ?_, rfl, rfl, rfl⟩
      · rw [hack]
        rfl
      · exact fragmentsTo_sent rfl fragment pdu
      · exact (jobOf_modifySession hs (awaitFragment n)).trans (job_of_ne_nil hne)

theorem ticked_clockExpired (listening : Bool) :
    Ticked cfg w (s.jobOf w) ((s.clockExpired cfg listening w).1.jobOf w)
      (s.clockExpired cfg listening w).2 := by
  unfold clockExpired
  cases s.retry with
  | none => exact ticked_of_eq cfg (jobOf_modifySession_same fun _ => rfl) rfl
  | some retry =>
    dsimp only
    split_ifs
    · exact ticked_of_eq cfg (jobOf_modifySession_same fun _ => rfl) rfl
    · have hjob : (s.modifySession w fun session =>
          { session with
            pendingTmsFragmentAckMs := kMotorolaTmsP25FragmentAckTimeoutMs }).jobOf w = s.jobOf w :=
        jobOf_modifySession_same fun _ => rfl
      exact ticked_of_eq cfg hjob rfl
    · cases hs : s.sessions.get? w with
      | none =>
        have hjob : (s.modifySession w resetMotorolaTmsInboundDelivery).jobOf w = s.jobOf w := by
          refine jobOf_of_get? ?_
          unfold modifySession
          dsimp only
          rw [Dict.get?_modify, if_pos rfl, hs, Option.map_none]
        exact ticked_of_eq cfg hjob rfl
      | some session =>
        have hjob : (s.modifySession w resetMotorolaTmsInboundDelivery).jobOf w = none :=
          (jobOf_modifySession hs _).trans (job_of_nil rfl)
        show Ticked cfg w _ ((s.modifySession w resetMotorolaTmsInboundDelivery).jobOf w) _
        rw [hjob]
        cases s.jobOf w with
        | none => exact .same _ _ rfl
        | some j => exact .stopped j _ (Or.inl (List.mem_singleton_self _)) rfl

theorem ticked_clockNextFragment (ms : ℕ) (listening : Bool) (session : MotorolaSession) :
    Ticked cfg w (s.jobOf w) ((s.clockNextFragment cfg ms listening w session).1.jobOf w)
      (s.clockNextFragment cfg ms listening w session).2 := by
  have hdelay : ∀ (s : Data) (f : MotorolaSession → ℕ), (s.modifySession w fun session =>
      { session with pendingTmsFragmentDelayMs := f session }).jobOf w = s.jobOf w := fun s f =>
    jobOf_modifySession_same fun _ => rfl
  unfold clockNextFragment
  split_ifs
  · exact ticked_of_eq cfg (hdelay s _) rfl
  · exact ticked_of_eq cfg rfl rfl
  · rcases writeNextFragment_cases cfg listening (w := w) (s := s.modifySession w fun session =>
      { session with pendingTmsFragmentDelayMs := 0 }) with
      he | ⟨j, n, s', os, hj, hw, hsent, -, hj', -, -, he⟩
    · rw [he]
      exact ticked_of_eq cfg ((hdelay _ _).trans (hdelay s _)) rfl
    · rw [he, ← hdelay s fun _ => 0, hj]
      dsimp only
      rw [hj']
      exact .transmitted j n os hw hsent

theorem ticked_clockDelivery (ms : ℕ) (listening : Bool) :
    Ticked cfg w (s.jobOf w) ((s.clockDelivery cfg ms listening w).1.jobOf w)
      (s.clockDelivery cfg ms listening w).2 := by
  unfold clockDelivery
  cases hs : s.sessions.get? w with
  | none => exact .same _ _ rfl
  | some session =>
    dsimp only
    split_ifs with hnil hack hms hmore happ hlate
    · exact .same _ _ rfl
    · exact ticked_of_eq cfg (jobOf_modifySession_same fun _ => rfl) rfl
    · exact ticked_clockExpired cfg listening
    · exact ticked_clockNextFragment cfg ms listening session
    · exact ticked_of_eq cfg (jobOf_modifySession_same fun _ => rfl) rfl
    · rw [jobOf_modifySession hs,
        job_of_nil (show (resetMotorolaTmsInboundDelivery session).pendingTmsFragments = [] from rfl),
        jobOf_eq hs, job_of_ne_nil hnil]
      exact .stopped _ _ (Or.inr ⟨if_neg hack, not_lt.mp hmore⟩) rfl
    · exact .same _ _ rfl

theorem fragmentsTo_clockSession (w : ℕ) (s : Data) (ms : ℕ) (listening : Bool) (llId : ℕ) :
    fragmentsTo w (s.clockSession cfg ms listening llId).2 = fragmentsTo w
      (((s.clockService cfg ms listening llId).1.clockLocation cfg ms listening
        llId).1.clockDelivery cfg ms listening llId).2 := by
  unfold clockSession
  dsimp only
  rw [fragmentsTo_append, fragmentsTo_append,
    fragmentsTo_of_plain (plain_clockService cfg s ms listening llId),
    fragmentsTo_of_plain (plain_clockLocation cfg _ ms listening llId)]
  rfl

/-- **The visit of the clock** to a radio. -/
theorem ticked_clockSession (ms : ℕ) (listening : Bool) :
    Ticked cfg w (s.jobOf w) ((s.clockSession cfg ms listening w).1.jobOf w)
      (s.clockSession cfg ms listening w).2 := by
  have hbefore : ((s.clockService cfg ms listening w).1.clockLocation cfg ms listening w).1.jobOf w =
      s.jobOf w :=
    jobOf_congr ((messageOf_clockLocation cfg _ ms listening w).trans
      (messageOf_clockService cfg s ms listening w))
  rw [← hbefore]
  exact (ticked_clockDelivery cfg ms listening).mono cfg (fun o ho => List.mem_append_right _ ho)
    (fragmentsTo_clockSession cfg w s ms listening w)

theorem fragmentsTo_writeNextFragment_of_ne {llId : ℕ} (hne : w ≠ llId) (s : Data)
    (listening : Bool) :
    fragmentsTo w (s.writeNextMotorolaTmsInboundFragment cfg listening llId).2.2 = [] := by
  unfold writeNextMotorolaTmsInboundFragment
  cases s.sessions.get? llId with
  | none => rfl
  | some session =>
    dsimp only
    cases session.pendingTmsFragments[session.pendingTmsFragmentIndex]? with
    | none => rfl
    | some fragment =>
      dsimp only
      split_ifs
      · rfl
      · exact fragmentsTo_sent_of_ne hne.symm _ _

theorem fragmentsTo_clockSession_of_ne {llId : ℕ} (hne : w ≠ llId) (s : Data) (ms : ℕ)
    (listening : Bool) : fragmentsTo w (s.clockSession cfg ms listening llId).2 = [] := by
  rw [fragmentsTo_clockSession]
  generalize ((s.clockService cfg ms listening llId).1.clockLocation cfg ms listening llId).1 = s'
  have hexpired : fragmentsTo w (s'.clockExpired cfg listening llId).2 = [] := by
    unfold clockExpired
    cases s'.retry with
    | none => rfl
    | some retry =>
      dsimp only
      split_ifs <;> rfl
  have hnext : ∀ session, fragmentsTo w (s'.clockNextFragment cfg ms listening llId session).2 = [] := by
    intro session
    unfold clockNextFragment
    split_ifs
    · rfl
    · rfl
    · have hnone := fragmentsTo_writeNextFragment_of_ne cfg hne (s'.modifySession llId fun session =>
        { session with pendingTmsFragmentDelayMs := 0 }) listening
      generalize (s'.modifySession llId fun session =>
        { session with pendingTmsFragmentDelayMs := 0 }).writeNextMotorolaTmsInboundFragment cfg
          listening llId = r at hnone
      obtain ⟨sent, s'', effects⟩ := r
      cases sent <;> exact hnone
  unfold clockDelivery
  cases s'.sessions.get? llId with
  | none => rfl
  | some session =>
    dsimp only
    split_ifs
    · rfl
    · rfl
    · exact hexpired
    · exact hnext session
    · rfl
    · rfl
    · rfl

theorem visitSessions_of_notMem (ms : ℕ) (listening : Bool) (order : List ℕ) (hnot : w ∉ order) :
    ∀ s : Data, (visitSessions cfg ms listening order s).1.jobOf w = s.jobOf w ∧
      fragmentsTo w (visitSessions cfg ms listening order s).2 = [] := by
  induction order with
  | nil => exact fun s => ⟨rfl, rfl⟩
  | cons llId rest ih =>
    intro s
    have hne : w ≠ llId := fun he => hnot (he ▸ List.mem_cons_self)
    obtain ⟨hjob, hnone⟩ := ih (fun h => hnot (List.mem_cons_of_mem _ h))
      (s.clockSession cfg ms listening llId).1
    refine ⟨hjob.trans (jobOf_of_get? (only_clockSession cfg ms listening llId s w hne)), ?_⟩
    show fragmentsTo w ((s.clockSession cfg ms listening llId).2 ++ (visitSessions cfg ms listening
      rest (s.clockSession cfg ms listening llId).1).2) = []
    rw [fragmentsTo_append, fragmentsTo_clockSession_of_ne cfg hne, hnone]
    rfl

/-- **A tick** visits each radio once. -/
theorem ticked_visitSessions (ms : ℕ) (listening : Bool) (order : List ℕ) (hnodup : order.Nodup) :
    ∀ s : Data, Ticked cfg w (s.jobOf w) ((visitSessions cfg ms listening order s).1.jobOf w)
      (visitSessions cfg ms listening order s).2 := by
  induction order with
  | nil => exact fun s => .same _ _ rfl
  | cons llId rest ih =>
    intro s
    obtain ⟨hnot, hrest⟩ := List.nodup_cons.mp hnodup
    have hsent : fragmentsTo w (visitSessions cfg ms listening (llId :: rest) s).2 =
        fragmentsTo w (s.clockSession cfg ms listening llId).2 ++
          fragmentsTo w (visitSessions cfg ms listening rest
            (s.clockSession cfg ms listening llId).1).2 := fragmentsTo_append w _ _
    by_cases hw : w = llId
    · subst hw
      obtain ⟨hlater, hnone⟩ := visitSessions_of_notMem cfg ms listening rest hnot
        (s.clockSession cfg ms listening w).1
      rw [hnone, List.append_nil] at hsent
      show Ticked cfg w _ ((visitSessions cfg ms listening rest
        (s.clockSession cfg ms listening w).1).1.jobOf w) _
      rw [hlater]
      exact (ticked_clockSession cfg ms listening).mono cfg
        (fun o ho => List.mem_append_left _ ho) hsent
    · rw [fragmentsTo_clockSession_of_ne cfg hw, List.nil_append] at hsent
      rw [← jobOf_of_get? (only_clockSession cfg ms listening llId s w hw)]
      exact (ih hrest _).mono cfg (fun o ho => List.mem_append_right _ ho) hsent

/-! ## What the visits leave alone -/

theorem silent_clockDelivery (s : Data) (ms : ℕ) (listening : Bool) (llId : ℕ) :
    (s.clockDelivery cfg ms listening llId).2.all DataEffect.silent = true := by
  have hexpired : (s.clockExpired cfg listening llId).2.all DataEffect.silent = true := by
    unfold clockExpired
    cases s.retry with
    | none => rfl
    | some retry =>
      dsimp only
      split_ifs <;> rfl
  have hnext : ∀ session, (s.clockNextFragment cfg ms listening llId session).2.all
      DataEffect.silent = true := by
    intro session
    unfold clockNextFragment
    split_ifs
    · rfl
    · rfl
    · rcases writeNextFragment_cases cfg listening (w := llId) (s := s.modifySession llId
        fun session => { session with pendingTmsFragmentDelayMs := 0 }) with
        he | ⟨j, n, s', os, -, -, -, hos, -, -, -, he⟩
      · rw [he]
        rfl
      · rw [he]
        exact hos
  unfold clockDelivery
  cases s.sessions.get? llId with
  | none => rfl
  | some session =>
    dsimp only
    split_ifs
    · rfl
    · rfl
    · exact hexpired
    · exact hnext session
    · rfl
    · rfl
    · rfl

theorem silent_visitSessions (ms : ℕ) (listening : Bool) (order : List ℕ) :
    ∀ s : Data, (visitSessions cfg ms listening order s).2.all DataEffect.silent = true := by
  induction order with
  | nil => exact fun s => rfl
  | cons llId rest ih =>
    intro s
    have hvisit : (s.clockSession cfg ms listening llId).2.all DataEffect.silent = true := by
      unfold clockSession
      dsimp only
      rw [List.all_append, List.all_append, silent_of_plain (plain_clockService cfg s ms listening
        llId), silent_of_plain (plain_clockLocation cfg _ ms listening llId), silent_clockDelivery]
      rfl
    show ((s.clockSession cfg ms listening llId).2 ++ (visitSessions cfg ms listening rest
      (s.clockSession cfg ms listening llId).1).2).all DataEffect.silent = true
    rw [List.all_append, hvisit, ih]
    rfl

theorem not_started_of_silent {os : List DataEffect} (h : os.all DataEffect.silent = true) :
    .deliveryStarted w ∉ os := fun hm => Bool.false_ne_true (List.all_eq_true.mp h _ hm)

/-- The files of the outbox and the registrations stay. -/
def Tables (s s' : Data) : Prop := s'.outbox = s.outbox ∧ s'.fneRegTable = s.fneRegTable

theorem Tables.trans {s s' s'' : Data} (h : Tables s s') (h' : Tables s' s'') : Tables s s'' :=
  ⟨h'.1.trans h.1, h'.2.trans h.2⟩

theorem tables_service (s : Data) (llId : ℕ) :
    Tables s (s.writeMotorolaTmsServiceAvailability cfg llId).1 := by
  unfold writeMotorolaTmsServiceAvailability
  cases s.registration llId with
  | none => exact ⟨rfl, rfl⟩
  | some ip => exact ⟨rfl, rfl⟩

theorem tables_clockService (s : Data) (ms : ℕ) (listening : Bool) (llId : ℕ) :
    Tables s (s.clockService cfg ms listening llId).1 := by
  unfold clockService
  cases s.sessions.get? llId with
  | none => exact ⟨rfl, rfl⟩
  | some session =>
    dsimp only
    split_ifs
    · exact ⟨rfl, rfl⟩
    · exact ⟨rfl, rfl⟩
    · exact ⟨rfl, rfl⟩
    · exact ⟨rfl, rfl⟩
    · exact tables_service cfg _ llId

theorem tables_clockLocation (s : Data) (ms : ℕ) (listening : Bool) (llId : ℕ) :
    Tables s (s.clockLocation cfg ms listening llId).1 := by
  have hrequest : ∀ s : Data, Tables s (s.writeMotorolaLocationRequest cfg listening llId).1 := by
    intro s
    unfold writeMotorolaLocationRequest
    cases s.registration llId with
    | none => exact ⟨rfl, rfl⟩
    | some ip =>
      cases s.sessions.get? llId with
      | none => exact ⟨rfl, rfl⟩
      | some session =>
        dsimp only
        split_ifs <;> exact ⟨rfl, rfl⟩
  unfold clockLocation
  cases s.sessions.get? llId with
  | none => exact ⟨rfl, rfl⟩
  | some session =>
    dsimp only
    split_ifs
    · exact ⟨rfl, rfl⟩
    · exact ⟨rfl, rfl⟩
    · exact ⟨rfl, rfl⟩
    · exact hrequest _

theorem tables_clockDelivery (s : Data) (ms : ℕ) (listening : Bool) (llId : ℕ) :
    Tables s (s.clockDelivery cfg ms listening llId).1 := by
  have hexpired : Tables s (s.clockExpired cfg listening llId).1 := by
    unfold clockExpired
    cases s.retry with
    | none => exact ⟨rfl, rfl⟩
    | some retry =>
      dsimp only
      split_ifs <;> exact ⟨rfl, rfl⟩
  have hnext : ∀ session, Tables s (s.clockNextFragment cfg ms listening llId session).1 := by
    intro session
    unfold clockNextFragment
    split_ifs
    · exact ⟨rfl, rfl⟩
    · exact ⟨rfl, rfl⟩
    · rcases writeNextFragment_cases cfg listening (w := llId) (s := s.modifySession llId
        fun session => { session with pendingTmsFragmentDelayMs := 0 }) with
        he | ⟨j, n, s', os, -, -, -, -, -, houtbox, htable, he⟩
      · rw [he]
        exact ⟨rfl, rfl⟩
      · rw [he]
        exact ⟨houtbox, htable⟩
  unfold clockDelivery
  cases s.sessions.get? llId with
  | none => exact ⟨rfl, rfl⟩
  | some session =>
    dsimp only
    split_ifs
    · exact ⟨rfl, rfl⟩
    · exact ⟨rfl, rfl⟩
    · exact hexpired
    · exact hnext session
    · exact ⟨rfl, rfl⟩
    · exact ⟨rfl, rfl⟩
    · exact ⟨rfl, rfl⟩

theorem tables_visitSessions (ms : ℕ) (listening : Bool) (order : List ℕ) :
    ∀ s : Data, Tables s (visitSessions cfg ms listening order s).1 := by
  induction order with
  | nil => exact fun s => ⟨rfl, rfl⟩
  | cons llId rest ih =>
    intro s
    have hvisit : Tables s (s.clockSession cfg ms listening llId).1 :=
      ((tables_clockService cfg s ms listening llId).trans
        (tables_clockLocation cfg _ ms listening llId)).trans
          (tables_clockDelivery cfg _ ms listening llId)
    exact hvisit.trans (ih _)

/-! ## The outbox -/

variable (w)

/-- A poll begins the text of a file. -/
def Begins (s s' : Data) (os : List DataEffect) : Prop :=
  s.jobOf w = none ∧ .deliveryStarted w ∈ os ∧ ∃ name senderRid text ip j n,
    (s.outbox.get? name).bind readText = some (senderRid, w, text) ∧ s.registration w = some ip ∧
      s'.jobOf w = some j ∧ j.index = 0 ∧ j.waiting = some n ∧
      j.items.flatten =
        buildMotorolaTmsInboundMessage cfg.arsServerIp ip j.key (decimal senderRid) text ∧
      FragmentSent cfg w j n os

/-- A poll leaves the text for a radio alone. -/
def LeftAlone (s s' : Data) (os : List DataEffect) : Prop :=
  s'.jobOf w = s.jobOf w ∧ .deliveryStarted w ∉ os ∧ fragmentsTo w os = []

variable {w}

/-- The text of a file begins, or no text for the radio does. -/
theorem writeDelivery_begins {listening : Bool} {targetRid senderRid : ℕ} {name text : Bytes}
    (hd : s.deliverable listening targetRid text = true)
    (hfile : (s.outbox.get? name).bind readText = some (senderRid, targetRid, text)) :
    ∃ s' os, s.writeMotorolaTmsInboundDelivery cfg listening targetRid senderRid text =
        (true, s', os) ∧ (LeftAlone w s s' os ∨ Begins cfg w s s' os) := by
  obtain ⟨ip, session, fragment, response, header, hip, hs, hresponse, hfirst, hheader, he⟩ :=
    writeDelivery_eq cfg s hd senderRid
  have hllId : header.llId = targetRid := by
    rw [hheader]
    rfl
  refine ⟨_, _, he, ?_⟩
  by_cases hw : w = targetRid
  · subst hw
    have hne : fragmentsOf response ≠ [] := by
      intro hnil
      rw [hnil] at hfirst
      cases hfirst
    let n := session.nextOutboundNs % 8
    let j : Job ℕ Bytes ℕ := ⟨session.nextTmsMessageId % 32, fragmentsOf response, 0, some n⟩
    refine Or.inr ⟨?_, List.mem_cons_self, name, senderRid, text, ip, j, n, hfile, hip, ?_, rfl, rfl,
      ?_, fragment, header, hfirst, hheader, ?_⟩
    · rw [jobOf_eq hs]
      refine job_of_nil ?_
      have hpending := not_pending_of_deliverable hd
      rw [sessionOf_eq hs] at hpending
      exact not_not.mp hpending
    · unfold jobOf messageOf
      rw [sessionOf_startText s hs]
      exact job_of_ne_nil hne
    · show (fragmentsOf response).flatten = _
      rw [flatten_fragmentsOf, hresponse]
    · exact fragmentsTo_sent hllId fragment _
  · refine Or.inl ⟨?_, fun hm => ?_, ?_⟩
    · unfold jobOf messageOf
      rw [sessionOf_startText_of_ne s hw]
    · rcases List.mem_cons.mp hm with h | h
      · exact hw (DataEffect.deliveryStarted.inj h)
      · cases List.mem_singleton.mp h
    · exact fragmentsTo_sent_of_ne (fun h => hw (h.symm.trans hllId)) _ _

theorem sendable_outbox {s s' : Data} (hs : ∀ name file, s'.outbox.get? name = some file →
    s.outbox.get? name = some file) {name : Bytes} {text : ℕ × ℕ × Bytes}
    (h : (s'.outbox.get? name).bind readText = some text) :
    (s.outbox.get? name).bind readText = some text := by
  obtain ⟨file, hfile, htext⟩ := Option.bind_eq_some_iff.mp h
  exact Option.bind_eq_some_iff.mpr ⟨file, hs name file hfile, htext⟩

theorem Begins.of_outbox {s s' s'' : Data} {os : List DataEffect} (h : Begins cfg w s' s'' os)
    (hsessions : s'.sessions = s.sessions) (htable : s'.fneRegTable = s.fneRegTable)
    (houtbox : ∀ name file, s'.outbox.get? name = some file → s.outbox.get? name = some file) :
    Begins cfg w s s'' os := by
  obtain ⟨hnone, hstarted, name, senderRid, text, ip, j, n, hfile, hip, hrest⟩ := h
  refine ⟨(jobOf_congr (messageOf_congr hsessions)).symm.trans hnone, hstarted, name, senderRid, text,
    ip, j, n, sendable_outbox houtbox hfile, ?_, hrest⟩
  unfold registration at hip ⊢
  rw [← htable]
  exact hip

theorem Begins.append {s s' s'' : Data} {os os' : List DataEffect} (h : Begins cfg w s s' os)
    (hjob : s''.jobOf w = s'.jobOf w) (hnone : fragmentsTo w os' = []) :
    Begins cfg w s s'' (os ++ os') := by
  obtain ⟨hidle, hstarted, name, senderRid, text, ip, j, n, hfile, hip, hj, hi, hn, hp, hsent⟩ := h
  obtain ⟨fragment, header, hitem, hheader, hsent⟩ := hsent
  refine ⟨hidle, List.mem_append_left _ hstarted, name, senderRid, text, ip, j, n, hfile, hip,
    hjob.trans hj, hi, hn, hp, fragment, header, hitem, hheader, ?_⟩
  rw [fragmentsTo_append, hnone, List.append_nil, hsent]

theorem Begins.prepend {s s' : Data} {os os' : List DataEffect} (h : Begins cfg w s s' os)
    (hnone : fragmentsTo w os' = []) : Begins cfg w s s' (os' ++ os) := by
  obtain ⟨hidle, hstarted, name, senderRid, text, ip, j, n, hfile, hip, hj, hi, hn, hp, hsent⟩ := h
  obtain ⟨fragment, header, hitem, hheader, hsent⟩ := hsent
  refine ⟨hidle, List.mem_append_right _ hstarted, name, senderRid, text, ip, j, n, hfile, hip, hj,
    hi, hn, hp, fragment, header, hitem, hheader, ?_⟩
  rw [fragmentsTo_append, hnone, List.nil_append, hsent]

theorem not_started_archiveSent (s : Data) (spool : Spool) (llId : ℕ) (name : Bytes) :
    .deliveryStarted w ∉ (s.archiveSent spool llId name).2 := by
  unfold archiveSent
  split_ifs
  · exact fun hm => by cases List.mem_singleton.mp hm
  · exact List.not_mem_nil

theorem fragmentsTo_archiveSent (s : Data) (spool : Spool) (llId : ℕ) (name : Bytes) :
    fragmentsTo w (s.archiveSent spool llId name).2 = [] := by
  unfold archiveSent
  split_ifs <;> rfl

/-- **A poll** begins the text of a file for the radio, or leaves the radio alone. -/
theorem pollFiles_begins (listening : Bool) (spool : Spool) (names : List Bytes) :
    ∀ s : Data, LeftAlone w s (pollFiles cfg listening spool names s).1
        (pollFiles cfg listening spool names s).2 ∨
      Begins cfg w s (pollFiles cfg listening spool names s).1
        (pollFiles cfg listening spool names s).2 := by
  induction names with
  | nil => exact fun s => Or.inl ⟨rfl, List.not_mem_nil, rfl⟩
  | cons name rest ih =>
    intro s
    unfold pollFiles
    cases hfile : s.outbox.get? name with
    | none => exact ih s
    | some file =>
      dsimp only
      cases htext : readText file with
      | none =>
        have hsessions := sessions_archiveFailed s spool name
        refine (ih (s.archiveFailed spool name)).imp (fun h => ⟨?_, h.2⟩) fun h =>
          h.of_outbox cfg hsessions ?_ fun name' file' h => ?_
        · exact h.1.trans (jobOf_congr (messageOf_congr hsessions))
        · unfold archiveFailed
          split_ifs <;> rfl
        · unfold archiveFailed at h
          split_ifs at h
          · rw [Dict.get?_erase] at h
            split_ifs at h
            exact h
          · exact h
      | some text =>
        obtain ⟨senderRid, targetRid, text⟩ := text
        dsimp only
        cases hd : s.deliverable listening targetRid text with
        | false =>
          rw [writeDelivery_of_not_deliverable cfg s hd senderRid]
          exact ih s
        | true =>
          have hread : (s.outbox.get? name).bind readText = some (senderRid, targetRid, text) := by
            rw [hfile]
            exact htext
          obtain ⟨s', os, he, h⟩ := writeDelivery_begins cfg (w := w) hd hread
          rw [he]
          have harchived : (s'.archiveSent spool targetRid name).1.jobOf w = s'.jobOf w :=
            jobOf_congr (messageOf_congr (sessions_archiveSent s' spool targetRid name))
          refine h.imp (fun h => ⟨harchived.trans h.1, fun hm => ?_, ?_⟩) fun h =>
            h.append cfg harchived (fragmentsTo_archiveSent s' spool targetRid name)
          · exact (List.mem_append.mp hm).elim h.2.1
              (not_started_archiveSent s' spool targetRid name)
          · rw [fragmentsTo_append, h.2.2, fragmentsTo_archiveSent]
            rfl

/-! ## Steps -/

theorem trace_begun {j : Job ℕ Bytes ℕ} {n : ℕ} (hi : j.index = 0) (hn : j.waiting = some n)
    (hlt : j.index < j.items.length) : Trace none (begun j) (some j) := by
  obtain ⟨key, items, index, waiting⟩ := j
  obtain rfl := hi
  obtain rfl := hn
  exact .cons (.start key items) (.single (.transmit ⟨key, items, 0, none⟩ n rfl hlt))

theorem explains_same {e : DataEvent} {r : Data × List DataEffect} (h : r.1.jobOf w = s.jobOf w)
    (hnone : fragmentsTo w r.2 = []) : Explains cfg w s e r [] := by
  refine ⟨?_, fun _ hm => absurd hm List.not_mem_nil, hnone⟩
  rw [h]
  exact .nil _

theorem explains_single {e : DataEvent} {r : Data × List DataEffect} {a : Action ℕ Bytes ℕ}
    (ht : Performs (s.jobOf w) a (r.1.jobOf w)) (hc : Cause cfg w s e r a)
    (hsent : fragmentsTo w r.2 = [a].filterMap (fragmentOf cfg w (r.1.jobOf w))) :
    Explains cfg w s e r [a] := by
  refine ⟨.single ht, fun a' hm => ?_, hsent⟩
  rw [List.mem_singleton.mp hm]
  exact hc

theorem fragmentOf_transmit {j b : Job ℕ Bytes ℕ} {n : ℕ} {os : List DataEffect}
    (hitems : b.items = j.items) (h : FragmentSent cfg w j n os) :
    fragmentsTo w os = [Action.transmit j.index n].filterMap (fragmentOf cfg w (some b)) := by
  obtain ⟨fragment, header, hitem, hheader, hsent⟩ := h
  have hof : fragmentOf cfg w (some b) (.transmit j.index n) =
      some (header, fragment, cfg.assemble header fragment) := by
    unfold fragmentOf
    dsimp only [Option.bind_some]
    rw [hitems, hitem, hheader]
    rfl
  rw [hsent, List.filterMap_cons_some hof]
  rfl

theorem cause_of_fragmentSent {e : DataEvent} {r : Data × List DataEffect} {j b : Job ℕ Bytes ℕ}
    {n : ℕ} (hjob : r.1.jobOf w = some b) (hitems : b.items = j.items)
    (h : FragmentSent cfg w j n r.2) : Cause cfg w s e r (.transmit j.index n) := by
  obtain ⟨fragment, header, hitem, rfl, hsent⟩ := h
  refine ⟨b, fragment, fragmentHeader w j.index j.items.length n fragment.length, hjob,
    hitems ▸ hitem, rfl, rfl, ?_, mem_fragmentsTo (w := w) ?_⟩
  · rw [hitems]
    exact flagged_fragmentHeader _ _ _ _ _
  · rw [hsent]
    exact List.mem_singleton_self _

theorem actionsOf_same {e : DataEvent} {r : Data × List DataEffect} (h : r.1.jobOf w = s.jobOf w)
    (hos : e.isClock = true → .deliveryStarted w ∉ r.2) : actionsOf w s e r = [] := by
  unfold actionsOf
  rw [h]
  cases s.jobOf w with
  | none => rfl
  | some j =>
    cases e with
    | clock ms listening order spool =>
      dsimp only
      rw [if_neg (hos rfl), if_pos rfl]
    | _ => exact if_pos rfl

/-- Why the clock gives up a text. -/
def GivenUp (s : Data) (w : ℕ) (os : List DataEffect) (j : Job ℕ Bytes ℕ) : Prop :=
  s.jobOf w = some j ∧
    (.deliveryAborted w ∈ os ∨ j.waiting = none ∧ j.items.length ≤ j.index)

theorem cause_of_givenUp {ms : ℕ} {listening : Bool} {order : List ℕ} {spool : Spool}
    {r : Data × List DataEffect} {j : Job ℕ Bytes ℕ} (h : GivenUp s w r.2 j) (key : ℕ) :
    Cause cfg w s (.clock ms listening order spool) r (.stop key) :=
  Or.inr (Or.inl ⟨ms, listening, order, spool, rfl, h.2.imp_right fun hfinished =>
    ⟨j, h.1, hfinished⟩⟩)

/-- **A text that begins** in a tick, after another one was given up or not. -/
theorem explains_begins (ms : ℕ) (listening : Bool) (order : List ℕ) (spool : Spool)
    {r : Data × List DataEffect} {s₀ : Data} (hb : Begins cfg w s₀ r.1 r.2) (htables : Tables s s₀)
    {pre : List (Action ℕ Bytes ℕ)} (htrace : Trace (s.jobOf w) pre none)
    (hpre : ∀ a ∈ pre, ∃ j, a = .stop j.key ∧ GivenUp s w r.2 j) :
    ∃ b, r.1.jobOf w = some b ∧
      Explains cfg w s (.clock ms listening order spool) r (pre ++ begun b) := by
  obtain ⟨-, -, name, senderRid, text, ip, b, n, hfile, hip, hjob, hi, hn, hpacket, hsent⟩ := hb
  have hlt : b.index < b.items.length := by
    obtain ⟨fragment, -, hitem, -⟩ := hsent
    exact (List.getElem?_eq_some_iff.mp hitem).1
  have hbegun : begun b = [.start b.key b.items, .transmit b.index n] := by
    unfold begun
    rw [hn]
    rfl
  refine ⟨b, hjob, ?_, fun a hm => ?_, ?_⟩
  · rw [hjob]
    exact htrace.append (trace_begun hi hn hlt)
  · rw [hbegun] at hm
    rcases List.mem_append.mp hm with hm | hm
    · obtain ⟨j, rfl, hj⟩ := hpre a hm
      exact cause_of_givenUp cfg hj j.key
    · rcases List.mem_cons.mp hm with rfl | hm
      · refine ⟨name, senderRid, text, ip, ?_, ?_, hpacket⟩
        · rw [← htables.1]
          exact hfile
        · unfold registration at hip ⊢
          rw [← htables.2]
          exact hip
      · rw [List.mem_singleton.mp hm]
        exact cause_of_fragmentSent cfg hjob rfl hsent
  · have hnone : pre.filterMap (fragmentOf cfg w (some b)) = [] := by
      refine List.filterMap_eq_nil_iff.mpr fun a hm => ?_
      obtain ⟨j, rfl, -⟩ := hpre a hm
      rfl
    rw [hjob, List.filterMap_append, hnone, hbegun]
    exact fragmentOf_transmit cfg rfl hsent

/-- **The clock** is explained: the radios are visited, and then the outbox may be polled. -/
theorem explained_clock {ms : ℕ} {listening : Bool} {order : List ℕ} {spool : Spool}
    {s₀ s' : Data} {os os' : List DataEffect} (ht : Ticked cfg w (s.jobOf w) (s₀.jobOf w) os)
    (hos : .deliveryStarted w ∉ os) (htables : Tables s s₀)
    (hpoll : LeftAlone w s₀ s' os' ∨ Begins cfg w s₀ s' os') :
    Explains cfg w s (.clock ms listening order spool) (s', os ++ os')
      (actionsOf w s (.clock ms listening order spool) (s', os ++ os')) := by
  rcases hpoll with ⟨hjob, hstarted, hnone⟩ | hb
  · have hnot : .deliveryStarted w ∉ os ++ os' := fun hm => (List.mem_append.mp hm).elim hos hstarted
    replace ht := ht.mono cfg (fun o ho => List.mem_append_left os' ho)
      (by rw [fragmentsTo_append, hnone, List.append_nil])
    rw [← hjob] at ht
    generalize os ++ os' = os at ht hnot
    generalize ha : s.jobOf w = a at ht
    generalize hb : s'.jobOf w = b at ht
    cases ht with
    | same _ _ hnone =>
      have hsame : s'.jobOf w = s.jobOf w := hb.trans ha.symm
      rw [actionsOf_same (r := (s', os)) hsame fun _ => hnot]
      exact explains_same cfg hsame hnone
    | transmitted j n _ hw hsent =>
      have hne : j ≠ j.await n := fun h => by
        have hwaiting := congrArg Job.waiting h
        rw [hw] at hwaiting
        cases hwaiting
      have hacts : actionsOf w s (.clock ms listening order spool) (s', os) =
          [.transmit j.index n] := by
        unfold actionsOf
        rw [ha, hb]
        dsimp only
        rw [if_neg hnot, if_neg hne]
        rfl
      have hlt : j.index < j.items.length := by
        obtain ⟨fragment, -, hitem, -⟩ := hsent
        exact (List.getElem?_eq_some_iff.mp hitem).1
      rw [hacts]
      refine explains_single cfg ?_ (cause_of_fragmentSent cfg hb rfl hsent) ?_
      · rw [ha, hb]
        exact .transmit j n hw hlt
      · rw [hb]
        exact fragmentOf_transmit cfg rfl hsent
    | stopped j _ hgiven hnone =>
      have hacts : actionsOf w s (.clock ms listening order spool) (s', os) = [.stop j.key] := by
        unfold actionsOf
        rw [ha, hb]
      rw [hacts]
      refine explains_single cfg ?_ (cause_of_givenUp cfg ⟨ha, hgiven⟩ j.key) hnone
      rw [ha, hb]
      exact .stop j
  · rw [hb.1] at ht
    generalize ha : s.jobOf w = a at ht
    cases ht with
    | same _ _ hnone =>
      have hb' := hb.prepend cfg hnone
      have htrace : Trace (s.jobOf w) ([] : List (Action ℕ Bytes ℕ)) none := by
        rw [ha]
        exact .nil _
      obtain ⟨b, hjob, h⟩ := explains_begins cfg ms listening order spool (r := (s', os ++ os')) hb'
        htables htrace fun _ hm => absurd hm List.not_mem_nil
      have hacts : actionsOf w s (.clock ms listening order spool) (s', os ++ os') = begun b := by
        unfold actionsOf
        rw [ha, hjob]
      rw [hacts]
      exact h
    | stopped j _ hgiven hnone =>
      have hb' := hb.prepend cfg hnone
      have htrace : Trace (s.jobOf w) [.stop j.key] none := by
        rw [ha]
        exact .single (.stop j)
      have hgiven' : GivenUp s w (os ++ os') j :=
        ⟨ha, hgiven.imp_left fun hm => List.mem_append_left _ hm⟩
      obtain ⟨b, hjob, h⟩ := explains_begins cfg ms listening order spool (r := (s', os ++ os')) hb'
        htables htrace fun a hm => ⟨j, List.mem_singleton.mp hm, hgiven'⟩
      have hacts : actionsOf w s (.clock ms listening order spool) (s', os ++ os') =
          .stop j.key :: begun b := by
        unfold actionsOf
        rw [ha, hjob]
        exact if_pos hb'.2.1
      rw [hacts]
      exact h

theorem explained_same {e : DataEvent} {r : Data × List DataEffect} (h : r.1.jobOf w = s.jobOf w)
    (hos : e.isClock = true → .deliveryStarted w ∉ r.2) (hnone : fragmentsTo w r.2 = []) :
    Explains cfg w s e r (actionsOf w s e r) := by
  rw [actionsOf_same h hos]
  exact explains_same cfg h hnone

theorem explained_again {e : DataEvent} {r : Data × List DataEffect}
    (hjob : r.1.jobOf w = (s.jobOf w).map Job.again)
    (hacts : ∀ a b, s.jobOf w = some a → r.1.jobOf w = some b →
      actionsOf w s e r = if a = b then [] else [.restart])
    (hclock : e.isClock = false) (hc : Cause cfg w s e r .restart) (hnone : fragmentsTo w r.2 = []) :
    Explains cfg w s e r (actionsOf w s e r) := by
  have hsame : r.1.jobOf w = s.jobOf w → Explains cfg w s e r (actionsOf w s e r) := fun h =>
    explained_same cfg h (fun h' => by rw [hclock] at h'; cases h') hnone
  cases hj : s.jobOf w with
  | none =>
    rw [hj] at hjob
    exact hsame (hjob.trans hj.symm)
  | some j =>
    rw [hj, Option.map_some] at hjob
    by_cases he : j = j.again
    · exact hsame (hjob.trans (he ▸ hj.symm))
    · rw [hacts j j.again hj hjob, if_neg he]
      refine explains_single cfg ?_ hc hnone
      rw [hj, hjob]
      exact .restart j

theorem explained_stop {e : DataEvent} {r : Data × List DataEffect} {j : Job ℕ Bytes ℕ}
    (hj : s.jobOf w = some j) (hjob : r.1.jobOf w = none) (hc : Cause cfg w s e r (.stop j.key))
    (hnone : fragmentsTo w r.2 = []) : Explains cfg w s e r (actionsOf w s e r) := by
  have hacts : actionsOf w s e r = [.stop j.key] := by
    unfold actionsOf
    rw [hj, hjob]
  rw [hacts]
  refine explains_single cfg ?_ hc hnone
  rw [hj, hjob]
  exact .stop j

theorem explained_tick (s : Data) {ms : ℕ} {listening : Bool} {order : List ℕ} (spool : Spool)
    (hnodup : order.Nodup) :
    Explains cfg w s (.clock ms listening order spool) (s.clock cfg ms listening order spool)
      (actionsOf w s (.clock ms listening order spool)
        (s.clock cfg ms listening order spool)) := by
  have hvisits := ticked_visitSessions cfg (w := w) ms listening order hnodup s
  have htables := tables_visitSessions cfg ms listening order s
  have hnot := not_started_of_silent (w := w) (silent_visitSessions cfg ms listening order s)
  unfold clock
  dsimp only
  generalize visitSessions cfg ms listening order s = v at hvisits htables hnot
  split_ifs
  · let s₀ : Data := { v.1 with outboxPollMs := kMotorolaTmsP25OutboxPollMs }
    have hjob : s₀.jobOf w = v.1.jobOf w := jobOf_congr (messageOf_congr rfl)
    have hticked : Ticked cfg w (s.jobOf w) (s₀.jobOf w) v.2 := hjob ▸ hvisits
    refine explained_clock cfg hticked hnot htables ?_
    unfold processMotorolaTmsOutbox
    split_ifs
    · exact Or.inl ⟨rfl, List.not_mem_nil, rfl⟩
    · exact pollFiles_begins cfg listening spool _ _
  · let s₀ : Data := { v.1 with outboxPollMs := v.1.outboxPollMs - ms }
    have hticked : Ticked cfg w (s.jobOf w) (s₀.jobOf w) v.2 := hvisits
    have hclock : Explains cfg w s (.clock ms listening order spool) (s₀, v.2 ++ []) _ :=
      explained_clock cfg hticked hnot htables (Or.inl ⟨rfl, List.not_mem_nil, rfl⟩)
    rw [List.append_nil] at hclock
    exact hclock

/-- **Each step is explained.** -/
theorem explained_step (w : ℕ) (s : Data) (e : DataEvent) :
    Explains cfg w s e (dataStep cfg s e) (actionsOf w s e (dataStep cfg s e)) := by
  have hidle : ∀ {e : DataEvent}, e.isClock = false →
      ∀ {r : Data × List DataEffect}, e.isClock = true → .deliveryStarted w ∉ r.2 :=
    fun h r h' => by rw [h] at h'; cases h'
  cases e with
  | clock ms listening order spool =>
    unfold dataStep
    dsimp only
    split_ifs with hperm
    · exact explained_tick cfg s spool (hperm.nodup_iff.mpr s.sessions.nodup)
    · exact explained_same cfg rfl (fun _ => List.not_mem_nil) rfl
  | ack order llId status =>
    have hnone := fragmentsTo_receiveAck cfg (w := w) s order llId status
    rcases jobOf_receiveAck cfg (w := w) (s := s) order llId status with h | ⟨j, hfind, hj, hn, hjob⟩
    · exact explained_same cfg h (hidle rfl) hnone
    · have hne : j ≠ j.advance := fun h => absurd (congrArg Job.index h) (Nat.succ_ne_self _).symm
      have hacts : actionsOf w s (.ack order llId status)
          (dataStep cfg s (.ack order llId status)) = [.acknowledge status] := by
        unfold actionsOf dataStep
        dsimp only
        rw [hj, hjob]
        exact if_neg hne
      rw [hacts]
      refine explains_single cfg ?_ ⟨order, llId, rfl, hfind⟩ hnone
      show Performs (s.jobOf w) _ ((s.receiveAck cfg order llId status).1.jobOf w)
      rw [hj, hjob]
      exact .acknowledge j status hn
  | nack order type llId status =>
    rcases jobOf_receiveNack (w := w) (s := s) order type llId status with h | ⟨rfl, hfind, hjob⟩
    · exact explained_same cfg h (hidle rfl) rfl
    · refine explained_again cfg hjob (fun a b ha hb => ?_) rfl
        (Or.inl ⟨order, llId, status, rfl, hfind⟩) rfl
      unfold actionsOf
      rw [ha, hb]
  | ackRetry order llId ns =>
    have hnone : fragmentsTo w (dataStep cfg s (.ackRetry order llId ns)).2 = [] :=
      fragmentsTo_of_plain (plain_receiveAckRetry cfg s order llId ns)
    rcases jobOf_receiveAckRetry cfg (w := w) (s := s) order llId ns with h | ⟨hfail, haborted, hjob⟩
    · exact explained_same cfg h (hidle rfl) hnone
    · cases hj : s.jobOf w with
      | none => exact explained_same cfg (hjob.trans hj.symm) (hidle rfl) hnone
      | some j =>
        exact explained_stop cfg hj hjob
          (Or.inr (Or.inr (Or.inl ⟨order, llId, ns, rfl, hfail, haborted⟩))) hnone
  | packet sourceRid targetRid ns ackNeeded packet =>
    have hnone : fragmentsTo w
        (dataStep cfg s (.packet sourceRid targetRid ns ackNeeded packet)).2 = [] :=
      fragmentsTo_of_plain (plain_receivePacket cfg s sourceRid targetRid ns ackNeeded packet)
    rcases jobOf_receivePacket cfg (w := w) (s := s) sourceRid targetRid ns ackNeeded packet with
      h | ⟨extendedAddress, message, rfl, rfl, hjob⟩ | ⟨sourceIp, j, rfl, rfl, rfl, hk, hj, hjob⟩
    · exact explained_same cfg h (hidle rfl) hnone
    · refine explained_again cfg hjob (fun a b ha hb => ?_) rfl
        (Or.inr ⟨targetRid, ns, ackNeeded, extendedAddress, message, rfl⟩) hnone
      unfold actionsOf
      rw [ha, hb]
    · exact explained_stop cfg hj hjob (Or.inl ⟨ns, ackNeeded, sourceIp, rfl, hk⟩) hnone
  | connect llId ipAddr valid response =>
    exact explained_same cfg (jobOf_congr (messageOf_connect s llId ipAddr valid response))
      (hidle rfl) rfl
  | disconnect llId ns =>
    by_cases hw : w = llId
    · subst hw
      have hjob : (s.disconnect w ns).1.jobOf w = none := by
        refine jobOf_eq_none ?_
        show (s.sessions.erase w).get? w = none
        rw [Dict.get?_erase, if_pos rfl]
      cases hj : s.jobOf w with
      | none => exact explained_same cfg (hjob.trans hj.symm) (hidle rfl) rfl
      | some j => exact explained_stop cfg hj hjob (Or.inr (Or.inr (Or.inr ⟨ns, rfl⟩))) rfl
    · have hjob : (s.disconnect llId ns).1.jobOf w = s.jobOf w := by
        refine jobOf_of_get? ?_
        show (s.sessions.erase llId).get? w = s.sessions.get? w
        rw [Dict.get?_erase, if_neg hw]
      exact explained_same cfg hjob (hidle rfl) rfl
  | confirmed pdu => exact explained_same cfg (jobOf_congr (messageOf_congr rfl)) (hidle rfl) rfl
  | deposit name file => exact explained_same cfg (jobOf_congr (messageOf_congr rfl)) (hidle rfl) rfl

/-! ## Runs -/

/-- What happens to the text for a radio in a run. -/
def transcript (w : ℕ) : Data → List DataEvent → List (Action ℕ Bytes ℕ)
  | _, [] => []
  | s, e :: es => actionsOf w s e (dataStep cfg s e) ++ transcript w (dataStep cfg s e).1 es

theorem trace_transcript (w : ℕ) (es : List DataEvent) :
    ∀ s : Data, Trace (s.jobOf w) (transcript cfg w s es)
      ((Run.final (dataStep cfg) s es).jobOf w) := by
  induction es with
  | nil => exact fun s => .nil _
  | cons e es ih => exact fun s => (explained_step cfg w s e).trace.append (ih _)

theorem exists_step_of_mem_transcript {a : Action ℕ Bytes ℕ} (es : List DataEvent) :
    ∀ s : Data, a ∈ transcript cfg w s es →
      ∃ s' e, Cause cfg w s' e (dataStep cfg s' e) a := by
  induction es with
  | nil => exact fun s h => absurd h List.not_mem_nil
  | cons e es ih =>
    intro s h
    rcases List.mem_append.mp h with h | h
    · exact ⟨s, e, (explained_step cfg w s e).cause a h⟩
    · exact ih _ h

/-- The fragments of a text together are the packet of a message. -/
def IsPacket (j : Job ℕ Bytes ℕ) : Prop :=
  ∃ ip senderRid text, j.items.flatten =
    buildMotorolaTmsInboundMessage cfg.arsServerIp ip j.key (decimal senderRid) text

theorem isPacket_final (es : List DataEvent) {j : Job ℕ Bytes ℕ}
    (h : (Run.final (dataStep cfg) .init es).jobOf w = some j) : IsPacket cfg j := by
  have htrace := trace_transcript cfg w es .init
  rw [h] at htrace
  obtain ⟨s', e, name, senderRid, text, ip, -, -, hpacket⟩ :=
    exists_step_of_mem_transcript cfg es .init (start_mem_of_trace htrace)
  exact ⟨ip, senderRid, text, hpacket⟩

/-- **The fragments of a text are sent in order.** In every run, and for every radio, what happens to
its text is what a sender may do that stops and waits, each action has its cause, and no other
fragment is sent to the radio. The fragments together are the packet of a message. Since the text
began, or began again, they were sent one after another, each when the one before had been
acknowledged. -/
theorem fragments_in_order (cfg : DataConfig) (es : List DataEvent) (w : ℕ) :
    Trace none (transcript cfg w .init es) ((Run.final (dataStep cfg) .init es).jobOf w) ∧
      Run.Along (dataStep cfg)
        (fun s e => Explains cfg w s e (dataStep cfg s e) (actionsOf w s e (dataStep cfg s e)))
        .init es ∧
      Logged ((Run.final (dataStep cfg) .init es).jobOf w)
        (sinceStart (transcript cfg w .init es)) ∧
      ∀ j, (Run.final (dataStep cfg) .init es).jobOf w = some j → IsPacket cfg j :=
  ⟨trace_transcript cfg w es .init,
    fun pre e _ _ => explained_step cfg w (Run.final (dataStep cfg) .init pre) e,
    logged_of_trace (trace_transcript cfg w es .init) rfl, fun _ h => isPacket_final cfg es h⟩

/-- The radio has the first fragment and is waited for. -/
example : ((Run.final (dataStep sampleConfig) .init sampleRun).jobOf 7).map
    (fun j => (j.index, j.waiting)) = some (0, some 2) := by decide +kernel

end Data

end P25
