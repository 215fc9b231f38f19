import QuantarBridge.Lib.Run
import QuantarBridge.Sms.OutboxQueue

/-!
# A file is sent once

A file is archived after its last packet has been accepted. When the writer refuses the text after the
registration, or the archive fails, the file stays and the next poll hands its packets to the writer
again.

* `noting`: the writer, and what it is asked and answers;
* `FileState`, `FileEvent`, `fileStep`: one file of the outbox, its polls and everything else;
* `firstAccepted`, `allAccepted`: what the writer makes of a file;
* `handedOnce_iff`: **exactly when an accepted packet is not handed over again**.
-/

set_option autoImplicit false

namespace Sms

open Lib PacketData Program

/-- A packet of a file and the answer of the writer. The packets of a file are numbered in the order
in which they are sent: a registration comes before the text. -/
structure Handed where
  part : ℕ
  accepted : Bool
  deriving DecidableEq

section Runs

variable {σ ε : Type} (cfg : OutboundConfig) (writer : PacketWriter σ ε)

/-- Note which packet is handed over, and the answer. -/
def noting : PacketWriter (σ × ℕ) Handed := fun s sourceRid targetRid slotNo packet =>
  let w := writer s.1 sourceRid targetRid slotNo packet
  (w.1, (w.2.1, s.2 + 1), [⟨s.2, w.1⟩])

/-- What is handed over while a file is processed. -/
def handedOf (effects : List (OutboundEffect Handed)) : List Handed :=
  effects.filterMap fun
    | .network h => some h
    | _ => none

/-- A file of the outbox and the state its polls start from. -/
structure FileState (σ : Type) where
  present : Bool
  network : σ
  nextTmsMessageId : UInt8

/-- A poll finds the file, or something else happens: other files and other traffic change the
network and the id of the next message, a restart resets them. -/
inductive FileEvent (σ : Type)
  | poll (outcome : FileOutcome)
  | elsewhere (network : σ) (nextTmsMessageId : UInt8)

variable (content : OutboxContent) (name : Bytes)

/-- A poll of a file that is there, and what it hands over. -/
def pollFile (outcome : FileOutcome) (s : FileState σ) : FileState σ × List Handed :=
  let r := exec (processOutboundFile cfg (noting writer) content outcome.toArchiveOutcome name)
    ⟨(s.network, 0), s.nextTmsMessageId, []⟩
  ({ present := r.1.toBool = false ∨ outcome.leaves = false
     network := r.2.network.1
     nextTmsMessageId := r.2.nextTmsMessageId }, handedOf r.2.effects)

/-- One event of a file. -/
def fileStep (s : FileState σ) : FileEvent σ → FileState σ × List Handed
  | .poll outcome => if s.present then pollFile cfg writer content name outcome s else (s, [])
  | .elsewhere network nextTmsMessageId => ({ s with network, nextTmsMessageId }, [])

/-- A packet that was accepted is not handed over again. -/
def HandedOnce (os : List Handed) : Prop :=
  os.Pairwise fun o o' => o.accepted = true → o'.part ≠ o.part

/-! ## What a poll hands over -/

/-- The packets that a file asks to send. -/
def handover (id : UInt8) : Option (BmAddresses × List Bytes) :=
  match content with
  | .document d =>
    match prepared cfg d id with
    | .ok p => if p.useBrandmeister then (bmPlan cfg d p).toOption else none
    | .error _ => none
  | _ => none

/-- The answers to packets, up to the first that is not accepted. -/
def answers (a : BmAddresses) : σ → ℕ → List Bytes → List Handed
  | _, _, [] => []
  | s, part, packet :: rest =>
    if packet = [] then []
    else
      let w := writer s a.sourceRid a.targetRid a.slotNo packet
      ⟨part, w.1⟩ :: if w.1 then answers a w.2.1 (part + 1) rest else []

/-- All packets are built and accepted. -/
def acceptsAll (a : BmAddresses) : σ → List Bytes → Bool
  | _, [] => true
  | s, packet :: rest =>
    let w := writer s a.sourceRid a.targetRid a.slotNo packet
    packet ≠ [] ∧ w.1 ∧ acceptsAll a w.2.1 rest

/-- The writer accepts the first of the packets. -/
def acceptsFirst (a : BmAddresses) (s : σ) : List Bytes → Bool
  | [] => false
  | packet :: _ => packet ≠ [] ∧ (writer s a.sourceRid a.targetRid a.slotNo packet).1

/-- The writer accepts the first packet of the file. -/
def firstAccepted (s : FileState σ) : Bool :=
  (handover cfg content s.nextTmsMessageId).any fun r => acceptsFirst writer r.1 s.network r.2

/-- The writer accepts all packets of the file. -/
def allAccepted (s : FileState σ) : Bool :=
  (handover cfg content s.nextTmsMessageId).all fun r => acceptsAll writer r.1 s.network r.2

theorem exec_handPackets (a : BmAddresses) (packets : List Bytes) :
    ∀ s : OutboundState (σ × ℕ) Handed,
      (exec (handPackets (noting writer) a packets) s).1.toBool =
          acceptsAll writer a s.network.1 packets ∧
        (exec (handPackets (noting writer) a packets) s).2.effects = s.effects ++
          (answers writer a s.network.1 s.network.2 packets).map OutboundEffect.network := by
  induction packets with
  | nil => exact fun s => ⟨rfl, (List.append_nil _).symm⟩
  | cons packet rest ih =>
    intro s
    unfold handPackets answers acceptsAll
    rw [exec_bind]
    by_cases hnil : packet = []
    · rw [if_pos hnil, hnil, exec_handPacket_nil]
      exact ⟨rfl, (List.append_nil _).symm⟩
    · have hnote : noting writer s.network a.sourceRid a.targetRid a.slotNo packet =
          let w := writer s.network.1 a.sourceRid a.targetRid a.slotNo packet
          (w.1, (w.2.1, s.network.2 + 1), [⟨s.network.2, w.1⟩]) := rfl
      rw [if_neg hnil, exec_handPacket _ _ hnil, hnote]
      generalize writer s.network.1 a.sourceRid a.targetRid a.slotNo packet = w
      obtain ⟨accepted, network, events⟩ := w
      cases accepted with
      | false => exact ⟨by simp [Except.toBool], rfl⟩
      | true =>
        obtain ⟨hok, heffects⟩ := ih
          { s with
            network := (network, s.network.2 + 1)
            effects := s.effects ++ [.network ⟨s.network.2, true⟩] }
        refine ⟨?_, ?_⟩
        · simpa [hnil] using hok
        · rw [List.append_assoc] at heffects
          exact heffects

theorem handedOf_append (effects effects' : List (OutboundEffect Handed)) :
    handedOf (effects ++ effects') = handedOf effects ++ handedOf effects' :=
  List.filterMap_append

theorem handedOf_network (hs : List Handed) : handedOf (hs.map OutboundEffect.network) = hs := by
  unfold handedOf
  rw [List.filterMap_map]
  exact List.filterMap_some

theorem handedOf_archiveSent (o : ArchiveOutcome) (path : Bytes)
    (s : OutboundState (σ × ℕ) Handed) :
    handedOf (exec (archiveSent o path) s).2.effects = handedOf s.effects ∧
      (exec (archiveSent o path) s).1.toBool = true := by
  unfold archiveSent
  split_ifs
  · exact ⟨(handedOf_append _ _).trans (List.append_nil _), rfl⟩
  · exact ⟨rfl, rfl⟩

theorem exec_handAndArchive (a : BmAddresses) (packets : List Bytes) (o : ArchiveOutcome)
    (path : Bytes) (s : OutboundState (σ × ℕ) Handed) :
    (exec (handPackets (noting writer) a packets >>= fun _ => archiveSent o path) s).1.toBool =
        acceptsAll writer a s.network.1 packets ∧
      handedOf (exec (handPackets (noting writer) a packets >>= fun _ =>
        archiveSent o path) s).2.effects =
          handedOf s.effects ++ answers writer a s.network.1 s.network.2 packets := by
  obtain ⟨hok, heffects⟩ := exec_handPackets writer a packets s
  rw [← hok, ← handedOf_network (answers writer a s.network.1 s.network.2 packets),
    ← handedOf_append, ← heffects, exec_bind]
  generalize exec (handPackets (noting writer) a packets) s = r
  rcases r with ⟨e | ⟨⟩, s'⟩
  · exact ⟨rfl, rfl⟩
  · exact ⟨(handedOf_archiveSent o path s').2, (handedOf_archiveSent o path s').1⟩

theorem handedOf_sendOverUdp (o : ArchiveOutcome) (path : Bytes) (p : Prepared)
    (s : OutboundState (σ × ℕ) Handed) :
    handedOf (exec (sendOverUdp cfg o path p) s).2.effects = handedOf s.effects := by
  let J : OutboundState (σ × ℕ) Handed → Prop := fun t => handedOf t.effects = handedOf s.effects
  have hJ : Undisturbed J := by
    refine ⟨fun t path h => ?_, fun t tms payload h => ?_⟩
    · exact (handedOf_append _ _).trans ((List.append_nil _).trans h)
    · exact (handedOf_append _ _).trans ((List.append_nil _).trans h)
  exact final_of_triple (sends_sendOverUdp hJ o path p) rfl

/-- **What a poll hands over.** -/
theorem pollFile_spec (outcome : FileOutcome) (s : FileState σ) :
    (pollFile cfg writer content name outcome s).2 =
        ((handover cfg content s.nextTmsMessageId).elim [] fun r =>
          answers writer r.1 s.network 0 r.2) ∧
      ∀ r, handover cfg content s.nextTmsMessageId = some r →
        (pollFile cfg writer content name outcome s).1.present =
          ¬ (acceptsAll writer r.1 s.network r.2 = true ∧ outcome.leaves = true) := by
  unfold pollFile handover
  cases content with
  | unparsable => exact ⟨rfl, by rintro r ⟨⟩⟩
  | unsubscriptable => exact ⟨rfl, by rintro r ⟨⟩⟩
  | document d =>
    obtain ⟨id, h⟩ := exec_processOutboundFile cfg (noting writer) d outcome.toArchiveOutcome name
      ⟨(s.network, 0), s.nextTmsMessageId, []⟩
    rw [h]
    dsimp only
    cases prepared cfg d s.nextTmsMessageId with
    | error e => exact ⟨rfl, by rintro r ⟨⟩⟩
    | ok p =>
      dsimp only
      split_ifs with hbm
      · rw [exec_ofResult_bind]
        cases bmPlan cfg d p with
        | error e => exact ⟨rfl, by rintro r ⟨⟩⟩
        | ok r =>
          obtain ⟨hok, heffects⟩ := exec_handAndArchive writer r.1 r.2 outcome.toArchiveOutcome name
            { network := (s.network, 0), nextTmsMessageId := id, effects := [] }
          refine ⟨heffects, fun r' hr' => ?_⟩
          obtain rfl := Option.some.inj hr'
          dsimp only at hok ⊢
          rw [hok]
          simp only [decide_eq_true_eq, not_and_or, Bool.not_eq_true]
      · exact ⟨handedOf_sendOverUdp cfg _ _ _ _, by rintro r ⟨⟩⟩

theorem answers_cons (a : BmAddresses) (s : σ) (part : ℕ) {packet : Bytes} (hne : packet ≠ [])
    (rest : List Bytes) : answers writer a s part (packet :: rest) =
      ⟨part, (writer s a.sourceRid a.targetRid a.slotNo packet).1⟩ ::
        if (writer s a.sourceRid a.targetRid a.slotNo packet).1 then
          answers writer a (writer s a.sourceRid a.targetRid a.slotNo packet).2.1 (part + 1) rest
        else [] := if_neg hne

theorem answers_part (a : BmAddresses) (packets : List Bytes) :
    ∀ (s : σ) (part : ℕ), ∀ h ∈ answers writer a s part packets, part ≤ h.part := by
  induction packets with
  | nil => simp [answers]
  | cons packet rest ih =>
    intro s part h hh
    by_cases hnil : packet = []
    · simp [answers, hnil] at hh
    · rw [answers_cons writer a s part hnil] at hh
      rcases List.mem_cons.mp hh with rfl | hh
      · exact le_refl _
      · split_ifs at hh
        · exact (Nat.le_succ part).trans (ih _ _ h hh)
        · cases hh

theorem handedOnce_answers (a : BmAddresses) (packets : List Bytes) :
    ∀ (s : σ) (part : ℕ), HandedOnce (answers writer a s part packets) := by
  induction packets with
  | nil => exact fun _ _ => List.Pairwise.nil
  | cons packet rest ih =>
    intro s part
    by_cases hnil : packet = []
    · simp [answers, hnil, HandedOnce]
    · rw [answers_cons writer a s part hnil]
      split_ifs
      · refine List.pairwise_cons.mpr ⟨fun h hh _ => ?_, ih _ _⟩
        have hpart := answers_part writer a rest _ _ h hh
        dsimp only
        omega
      · exact List.pairwise_singleton _ _

/-- When the first packet is not accepted, none is. -/
theorem not_accepted_of_first (a : BmAddresses) {packets : List Bytes} {s : σ}
    (h : acceptsFirst writer a s packets = false) (part : ℕ) :
    ∀ h ∈ answers writer a s part packets, h.accepted = false := by
  cases packets with
  | nil => simp [answers]
  | cons packet rest =>
    intro o ho
    unfold answers at ho
    unfold acceptsFirst at h
    by_cases hnil : packet = []
    · rw [if_pos hnil] at ho
      cases ho
    · have hw : (writer s a.sourceRid a.targetRid a.slotNo packet).1 = false := by
        simpa [hnil] using h
      rw [if_neg hnil] at ho
      dsimp only at ho
      rw [hw, if_neg Bool.false_ne_true] at ho
      obtain rfl := List.mem_singleton.mp ho
      rfl

theorem head_of_handover {id : UInt8} {r : BmAddresses × List Bytes} {packet : Bytes}
    {rest : List Bytes} (h : handover cfg content id = some r) (hr : r.2 = packet :: rest)
    (hne : packet ≠ []) (id' : UInt8) :
    ∃ packet' rest', handover cfg content id' = some (r.1, packet' :: rest') ∧ packet' ≠ [] := by
  unfold handover at h ⊢
  cases content with
  | unparsable => cases h
  | unsubscriptable => cases h
  | document d =>
    dsimp only at h ⊢
    have halike := prepared_alike cfg d id id'
    cases hp : prepared cfg d id with
    | error e => rw [hp] at h; cases h
    | ok p =>
      rw [hp] at h halike
      cases hq : prepared cfg d id' with
      | error e => rw [hq] at halike; cases halike
      | ok q =>
        rw [hq] at halike
        have hsim : p.Similar q := halike
        have hbm : q.useBrandmeister = p.useBrandmeister := by rw [hsim.eq]
        dsimp only at h ⊢
        rw [hbm]
        split_ifs at h ⊢ with hb
        have hplan := bmPlan_alike cfg d hsim
        cases hplan₁ : bmPlan cfg d p with
        | error e => rw [hplan₁] at h; cases h
        | ok r₁ =>
          rw [hplan₁] at h hplan
          obtain rfl := Option.some.inj h
          cases hplan₂ : bmPlan cfg d q with
          | error e => rw [hplan₂] at hplan; cases hplan
          | ok r₂ =>
            rw [hplan₂] at hplan
            have hsame : SamePlan r₁ r₂ := hplan
            obtain ⟨a₂, packets⟩ := r₂
            have hpackets := hsame.packets
            rw [hr] at hpackets
            obtain ⟨packet', rest', hnil, -, rfl⟩ := List.forall₂_cons_left_iff.mp hpackets
            refine ⟨packet', rest', ?_, mt hnil.mp hne⟩
            rw [← hsame.addresses]
            rfl

theorem head_of_firstAccepted {s : FileState σ} (h : firstAccepted cfg writer content s = true) :
    ∃ a packet rest, packet ≠ [] ∧
      handover cfg content s.nextTmsMessageId = some (a, packet :: rest) ∧
      ∃ later, answers writer a s.network 0 (packet :: rest) = ⟨0, true⟩ :: later := by
  obtain ⟨⟨a, packets⟩, hr, hfirst⟩ := Option.any_eq_true _ _ |>.mp h
  cases packets with
  | nil => cases hfirst
  | cons packet rest =>
    obtain ⟨hne, hw⟩ := of_decide_eq_true hfirst
    have hanswers := answers_cons writer a s.network 0 hne rest
    rw [hw] at hanswers
    exact ⟨a, packet, rest, hne, hr, _, hanswers⟩

theorem pollFile_not_accepted (outcome : FileOutcome) {s : FileState σ}
    (h : firstAccepted cfg writer content s = false) :
    ∀ o ∈ (pollFile cfg writer content name outcome s).2, o.accepted = false := by
  rw [(pollFile_spec cfg writer content name outcome s).1]
  unfold firstAccepted at h
  cases hr : handover cfg content s.nextTmsMessageId with
  | none => simp
  | some r =>
    rw [hr, Option.any_some] at h
    exact not_accepted_of_first writer r.1 h 0

/-- A file whose first packet is accepted leaves when the others are, and the archive removes it. -/
theorem pollFile_present_iff (outcome : FileOutcome) {s : FileState σ}
    (h : firstAccepted cfg writer content s = true) :
    (pollFile cfg writer content name outcome s).1.present = false ↔
      allAccepted cfg writer content s = true ∧ outcome.leaves = true := by
  obtain ⟨a, packet, rest, -, hr, -⟩ := head_of_firstAccepted cfg writer content h
  have hpresent := (pollFile_spec cfg writer content name outcome s).2 _ hr
  unfold allAccepted
  rw [hr, Option.all_some, ← Bool.not_eq_true, hpresent, not_not]

theorem exists_handed (outcome : FileOutcome) {s : FileState σ} (s' : FileState σ)
    (h : firstAccepted cfg writer content s = true) :
    ∃ o ∈ (pollFile cfg writer content name outcome s').2, o.part = 0 := by
  obtain ⟨a, packet, rest, hne, hr, -⟩ := head_of_firstAccepted cfg writer content h
  obtain ⟨packet', rest', hr', hne'⟩ :=
    head_of_handover cfg content hr rfl hne s'.nextTmsMessageId
  rw [(pollFile_spec cfg writer content name outcome s').1, hr']
  dsimp only [Option.elim]
  rw [answers_cons writer _ _ _ hne']
  exact ⟨_, List.mem_cons_self, rfl⟩

section Once

theorem outputs_of_gone (es : List (FileEvent σ)) : ∀ s : FileState σ, s.present = false →
    Run.outputs (fileStep cfg writer content name) s es = [] := by
  induction es with
  | nil => exact fun _ _ => rfl
  | cons e es ih =>
    intro s hs
    rw [Run.outputs_cons]
    cases e with
    | elsewhere network id => exact ih _ hs
    | poll outcome =>
      have hstep : fileStep cfg writer content name s (.poll outcome) = (s, []) :=
        if_neg (by rw [hs]; exact Bool.false_ne_true)
      rw [hstep]
      exact ih s hs

theorem outputs_of_unpolled (es : List (FileEvent σ)) : ∀ s : FileState σ,
    (¬ ∃ outcome, FileEvent.poll outcome ∈ es) →
      Run.outputs (fileStep cfg writer content name) s es = [] := by
  induction es with
  | nil => exact fun _ _ => rfl
  | cons e es ih =>
    intro s h
    rw [Run.outputs_cons]
    cases e with
    | elsewhere network id =>
      exact ih _ fun ⟨outcome, ho⟩ => h ⟨outcome, List.mem_cons_of_mem _ ho⟩
    | poll outcome => exact absurd ⟨outcome, List.mem_cons_self⟩ h

/-- A file that stays is handed over by the next poll. -/
theorem exists_handed_of_later {s₀ : FileState σ} (h : firstAccepted cfg writer content s₀ = true)
    (es : List (FileEvent σ)) : ∀ s : FileState σ, s.present = true →
      (∃ outcome, FileEvent.poll outcome ∈ es) →
      ∃ o ∈ Run.outputs (fileStep cfg writer content name) s es, o.part = 0 := by
  induction es with
  | nil => rintro s - ⟨outcome, ho⟩; cases ho
  | cons e es ih =>
    rintro s hs ⟨outcome, ho⟩
    rw [Run.outputs_cons]
    cases e with
    | elsewhere network id =>
      obtain ⟨o, hmem, hpart⟩ := ih { s with network := network, nextTmsMessageId := id } hs
        ⟨outcome, (List.mem_cons.mp ho).resolve_left (by rintro ⟨⟩)⟩
      exact ⟨o, List.mem_append_right _ hmem, hpart⟩
    | poll outcome' =>
      have hstep : fileStep cfg writer content name s (.poll outcome') =
          pollFile cfg writer content name outcome' s := if_pos hs
      obtain ⟨o, hmem, hpart⟩ := exists_handed cfg writer content name outcome' s h
      rw [hstep]
      exact ⟨o, List.mem_append_left _ hmem, hpart⟩

/-- **Exactly when an accepted packet is not handed over again.** Whenever the writer accepts the
first packet of a file that is polled again, it accepts all of them and the archive removes the
file. -/
theorem handedOnce_iff (es : List (FileEvent σ)) (s : FileState σ) :
    HandedOnce (Run.outputs (fileStep cfg writer content name) s es) ↔
      ∀ pre outcome post, es = pre ++ .poll outcome :: post →
        (∃ outcome', FileEvent.poll outcome' ∈ post) →
        (Run.final (fileStep cfg writer content name) s pre).present = true →
        firstAccepted cfg writer content (Run.final (fileStep cfg writer content name) s pre) = true →
        allAccepted cfg writer content (Run.final (fileStep cfg writer content name) s pre) = true ∧
          outcome.leaves = true := by
  constructor
  · rintro h pre outcome post rfl hlater hpresent hfirst
    rw [Run.outputs_append_cons] at h
    generalize Run.final (fileStep cfg writer content name) s pre = t at *
    have hstep : fileStep cfg writer content name t (.poll outcome) =
        pollFile cfg writer content name outcome t := if_pos hpresent
    rw [hstep] at h
    have hboth : HandedOnce ((pollFile cfg writer content name outcome t).2 ++ _) :=
      (List.pairwise_append.mp h).2.1
    rw [← pollFile_present_iff cfg writer content name outcome hfirst, ← Bool.not_eq_true]
    intro hstays
    obtain ⟨o, ho, hpart⟩ := exists_handed_of_later cfg writer content name hfirst post _ hstays hlater
    have hhead : ⟨0, true⟩ ∈ (pollFile cfg writer content name outcome t).2 := by
      obtain ⟨a, packet, rest, -, hr, later, hanswers⟩ :=
        head_of_firstAccepted cfg writer content hfirst
      rw [(pollFile_spec cfg writer content name outcome t).1, hr]
      dsimp only [Option.elim]
      rw [hanswers]
      exact List.mem_cons_self
    exact (List.pairwise_append.mp hboth).2.2 _ hhead o ho rfl hpart
  · intro h
    induction es generalizing s with
    | nil => exact List.Pairwise.nil
    | cons e es ih =>
      have hrest : HandedOnce (Run.outputs (fileStep cfg writer content name)
          (fileStep cfg writer content name s e).1 es) := by
        refine ih _ fun pre outcome post hes hlater => ?_
        exact h (e :: pre) outcome post (by rw [hes, List.cons_append]) hlater
      rw [Run.outputs_cons]
      cases e with
      | elsewhere network id => exact hrest
      | poll outcome =>
        by_cases hpresent : s.present = true
        · have hstep : fileStep cfg writer content name s (.poll outcome) =
              pollFile cfg writer content name outcome s := if_pos hpresent
          rw [hstep] at hrest ⊢
          have hone : HandedOnce (pollFile cfg writer content name outcome s).2 := by
            rw [(pollFile_spec cfg writer content name outcome s).1]
            cases handover cfg content s.nextTmsMessageId with
            | none => exact List.Pairwise.nil
            | some r => exact handedOnce_answers writer r.1 r.2 _ _
          refine List.pairwise_append.mpr ⟨hone, hrest, fun o ho o' ho' haccepted => ?_⟩
          cases hfirst : firstAccepted cfg writer content s with
          | false =>
            rw [pollFile_not_accepted cfg writer content name outcome hfirst o ho] at haccepted
            cases haccepted
          | true =>
            by_cases hlater : ∃ outcome', FileEvent.poll outcome' ∈ es
            · have hgone := (pollFile_present_iff cfg writer content name outcome hfirst).mpr
                (h [] outcome es rfl hlater hpresent hfirst)
              rw [outputs_of_gone cfg writer content name es _ hgone] at ho'
              cases ho'
            · rw [outputs_of_unpolled cfg writer content name es _ hlater] at ho'
              cases ho'
        · have hstep : fileStep cfg writer content name s (.poll outcome) = (s, []) :=
            if_neg hpresent
          rw [hstep] at hrest ⊢
          exact hrest

end Once

end Runs

/-- A text with its registration. -/
def registeredText : OutboxContent := .document
  { OutboxDocument.blank with
    sourceRid := .value 2621001
    targetRid := .value 2621002
    text := .value (ascii ['H', 'i'])
    sendArsFirst := .value true }

/-- A writer that takes one packet and then no other. -/
def oneAtATime : PacketWriter Bool Unit := fun free _ _ _ _ => (free, false, [])

/-- The registration is accepted and the text refused, so the next poll sends the registration
again. -/
theorem not_handedOnce_registered : ¬ ∀ (cfg : OutboundConfig) (writer : PacketWriter Bool Unit)
    (content : OutboxContent) (name : Bytes) (es : List (FileEvent Bool)) (s : FileState Bool),
    HandedOnce (Run.outputs (fileStep cfg writer content name) s es) := by
  intro h
  have honce := h plainSender oneAtATime registeredText (ascii ['a'])
    [.poll workingFiles, .elsewhere true 1, .poll workingFiles] ⟨true, true, 0⟩
  have houtputs : Run.outputs (fileStep plainSender oneAtATime registeredText (ascii ['a']))
      ⟨true, true, 0⟩ [.poll workingFiles, .elsewhere true 1, .poll workingFiles] =
      [⟨0, true⟩, ⟨1, false⟩, ⟨0, true⟩, ⟨1, false⟩] := by decide +kernel
  rw [houtputs] at honce
  exact (List.pairwise_cons.mp honce).1 ⟨0, true⟩ (by decide) rfl rfl

end Sms
