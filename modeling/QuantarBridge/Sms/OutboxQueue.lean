import QuantarBridge.Dmr.NetData
import QuantarBridge.Sms.OutboxFile

/-!
# The outbox in the main loop

A turn of the main loop polls the outbox and reads the packets of the local FNE. Only the parsing of a
file is guarded: a field of the wrong form, or a text that is no UTF-8, throws out of the poll and
ends the process.

* `Outbox`, `processFile`, `processOutboundQueue`: a poll of the outbox;
* `FileThrows`: what makes a file throw;
* `processOutboundFile_threw_iff`: **exactly when sending a file throws**;
* `turn`: one turn of the main loop, `turn_iff`: **exactly when a turn completes**.
-/

set_option autoImplicit false

namespace Sms

open Lib PacketData Program

/-! ## A poll -/

/-- A file of the outbox directory. -/
structure OutboxEntry where
  regular : Bool
  content : OutboxContent

/-- The files of the outbox, by name. -/
abbrev OutboxDirectory := Dict Bytes OutboxEntry

/-- What the file operations and the socket do with one file. A copied file may fail to be
removed. -/
structure FileOutcome extends ArchiveOutcome where
  removed : Bool

/-- The archived file is gone. -/
def FileOutcome.leaves (o : FileOutcome) : Bool := o.renamed ∨ (o.copied ∧ o.removed)

/-- The outbox and its sender. -/
structure Outbox (σ ε : Type) where
  files : OutboxDirectory
  sender : OutboundState σ ε

/-- The files that a poll sends. -/
def kMaxOutboundFilesPerPoll : ℕ := 8

section Queue

variable {σ ε : Type} (cfg : OutboundConfig) (writer : PacketWriter σ ε)

/-- The files of a directory in the order of their names. -/
def OutboxDirectory.listing (files : OutboxDirectory) : List Bytes :=
  ((files.entries.filter fun e => e.2.regular).map Prod.fst).insertionSort (· ≤ ·)

/-- Process a file. Only an exception matters to the caller. -/
def processFile (outcome : FileOutcome) (name : Bytes) (s : Outbox σ ε) : Bool × Outbox σ ε :=
  match s.files.get? name with
  | none => (false, s)
  | some entry =>
    match exec (processOutboundFile cfg writer entry.content outcome.toArchiveOutcome name)
        s.sender with
    | (.ok _, sender) =>
      (false, { files := if outcome.leaves then s.files.erase name else s.files, sender := sender })
    | (.error .refused, sender) => (false, { s with sender := sender })
    | (.error .threw, sender) => (true, { s with sender := sender })

/-- Process files up to the first exception. -/
def processFiles (outcomes : Bytes → FileOutcome) :
    List Bytes → Outbox σ ε → Bool × Outbox σ ε
  | [], s => (false, s)
  | name :: rest, s =>
    match processFile cfg writer (outcomes name) name s with
    | (true, s') => (true, s')
    | (false, s') => processFiles outcomes rest s'

/-- A poll of the outbox. -/
def processOutboundQueue (outcomes : Bytes → FileOutcome) (s : Outbox σ ε) : Bool × Outbox σ ε :=
  processFiles cfg writer outcomes (s.files.listing.take kMaxOutboundFilesPerPoll) s

end Queue

/-! ## What makes a file throw -/

section Throws

variable (cfg : OutboundConfig) (d : OutboxDocument)

/-- A field of the head has the wrong form. -/
def HeadThrows : Prop :=
  d.channel = .bad ∨ d.route = .bad ∨ d.sourceRid = .bad ∨ d.targetRid = .bad

/-- The text is no string, or cannot be converted because it is no UTF-8. -/
def TextThrows (convert : Bytes → Option Bytes) : Prop :=
  d.text = .bad ∨ ∃ text, d.text = .value text ∧ convert text = none

/-- The field the message is taken from throws. A captured packet comes before a payload, and a
payload before a text. -/
def MessageThrows (p : Prepared) : Prop :=
  rawIpPacketNode d = .bad ∨
  rawIpPacketNode d = .absent ∧ (d.hexPayload = .bad ∨
    d.hexPayload = .absent ∧
      ((isMotorola d p = true ∧ p.useTms = true ∧ (d.sendArsFirst = .bad ∨ TextThrows d
          fun text => buildMotorolaTmsPayload p.sourceRid text 0 p.useBrandmeister)) ∨
        (isMotorola d p = false ∧ isPlainText d p = true ∧
          (d.appendNullTerminator = .bad ∨ TextThrows d fun text => encodeUtf16Le text false))))

/-- There is a message to send as packet data. -/
def MessageBuilt (p : Prepared) : Prop :=
  (∃ hex packet, rawIpPacketNode d = .value hex ∧ hexToBytes hex = some packet) ∨
  rawIpPacketNode d = .absent ∧
    ((∃ hex payload, d.hexPayload = .value hex ∧ hexToBytes hex = some payload ∧ payload ≠ []) ∨
    d.hexPayload = .absent ∧ (p.useTms = false ∨ d.sendArsFirst ≠ .bad ∧ ∃ text payload,
      d.text = .value text ∧ buildMotorolaTmsPayload p.sourceRid text 0 true = some payload ∧
        payload ≠ []))

/-- A field of the addresses or ports has the wrong form. -/
def RequestThrows : Prop :=
  d.bmSlot = .bad ∨ d.bmSourceIp = .bad ∨ d.bmTargetIp = .bad ∨ d.arsUdpSrcPort = .bad ∨
    d.arsUdpDstPort = .bad ∨ d.udpSrcPort = .bad ∨ d.udpDstPort = .bad

/-- The options of a packet are read once there is a message and a way to send it. -/
def OptionsThrow (p : Prepared) : Prop :=
  p.useBrandmeister = true ∧ p.hasRidPair = true ∧ cfg.writerInstalled = true ∧ MessageBuilt d p ∧
    RequestThrows d

end Throws

/-- A file throws when it is no map, or when a field that is read has the wrong form. -/
def FileThrows (cfg : OutboundConfig) : OutboxContent → Prop
  | .unparsable => False
  | .unsubscriptable => True
  | .document d => HeadThrows d ∨ ∃ p, header cfg d = .ok p ∧
      (MessageThrows d p ∨ OptionsThrow cfg d p)

/-! ## Exactly when sending a file throws -/

theorem bind_eq_error_iff {α β : Type} (r : Except Stop α) (f : α → Except Stop β) (e : Stop) :
    r >>= f = .error e ↔ r = .error e ∨ ∃ a, r = .ok a ∧ f a = .error e := by
  cases r with
  | error e' =>
    constructor
    · exact fun h => Or.inl (Except.error.inj h ▸ rfl)
    · rintro (h | ⟨a, h, -⟩)
      · exact Except.error.inj h ▸ rfl
      · cases h
  | ok a =>
    constructor
    · exact fun h => Or.inr ⟨a, rfl, h⟩
    · rintro (h | ⟨a', h, hf⟩)
      · cases h
      · exact Except.ok.inj h ▸ hf

theorem bind_eq_ok_iff {α β : Type} (r : Except Stop α) (f : α → Except Stop β) (b : β) :
    r >>= f = .ok b ↔ ∃ a, r = .ok a ∧ f a = .ok b := by
  cases r with
  | error e => simp [bind, Except.bind]
  | ok a => simp [bind, Except.bind]

theorem result_threw_iff {α : Type} (f : Field α) (default : α) :
    f.result default = .error .threw ↔ f = .bad := by
  cases f <;> simp [Field.result, Field.getOr, elseStop]

theorem result_ok_iff {α : Type} (f : Field α) (default a : α) :
    f.result default = .ok a ↔ f = .absent ∧ a = default ∨ f = .value a := by
  cases f <;> simp [Field.result, Field.getOr, elseStop, eq_comm]

theorem exists_result_iff {α : Type} (f : Field α) (default : α) :
    (∃ a, f.result default = .ok a) ↔ f ≠ .bad := by
  cases f <;> simp [Field.result, Field.getOr, elseStop]

theorem elseStop_refused_ne_threw {α : Type} (o : Option α) : elseStop .refused o ≠ .error .threw := by
  cases o <;> simp [elseStop]

theorem elseStop_threw_iff {α : Type} (o : Option α) : elseStop .threw o = .error .threw ↔ o = none := by
  cases o <;> simp [elseStop]

theorem pure_ne_threw {α : Type} (a : α) : ((pure a : Except Stop α) = .error .threw) ↔ False :=
  iff_of_false (by rintro ⟨⟩) not_false

/-- A field that is read and whose value does not matter for the rest. -/
theorem threw_or_iff {α : Type} (f : Field α) (default : α) (P : Prop) :
    (f = .bad ∨ ∃ a, f.result default = .ok a ∧ P) ↔ f = .bad ∨ P := by
  rw [exists_and_right, exists_result_iff]
  tauto

section Throws

variable (cfg : OutboundConfig) (d : OutboxDocument)

theorem header_threw_iff : header cfg d = .error .threw ↔ HeadThrows d := by
  unfold header HeadThrows
  simp only [bind_eq_error_iff, result_threw_iff, pure_ne_threw, threw_or_iff, or_false]

theorem rawIpPacketOf_threw_iff : rawIpPacketOf d = .error .threw ↔ rawIpPacketNode d = .bad := by
  unfold rawIpPacketOf
  cases rawIpPacketNode d with
  | absent => simp [Field.present, pure_ne_threw]
  | bad => simp [Field.present, bind_eq_error_iff, result_threw_iff]
  | value hex =>
    simp only [Field.present, if_true, bind_eq_error_iff, result_threw_iff,
      elseStop_refused_ne_threw, pure_ne_threw, reduceCtorEq, and_false, exists_false, or_false]

theorem text_threw_iff (h : d.text.present = true) (convert : Bytes → Option Bytes) :
    (d.text = .bad ∨ ∃ text, d.text.result [] = .ok text ∧ convert text = none) ↔
      TextThrows d convert := by
  refine or_congr_right (exists_congr fun text => and_congr_left fun _ => ?_)
  rw [result_ok_iff]
  refine or_iff_right ?_
  rintro ⟨habs, -⟩
  rw [habs] at h
  cases h

theorem tmsPayload_none_iff (sourceRid : ℕ) (text : Bytes) (id : UInt8) (bm : Bool) :
    buildMotorolaTmsPayload sourceRid text id bm = none ↔
      buildMotorolaTmsPayload sourceRid text 0 bm = none := by
  have hlen := tmsPayload_length sourceRid text id 0 bm
  rw [← Option.map_eq_none_iff (f := List.length), hlen, Option.map_eq_none_iff]

theorem isMotorola_text {p : Prepared} (h : isMotorola d p = true) (ht : p.useTms = true) :
    d.text.present = true := by
  obtain ⟨-, h⟩ := of_decide_eq_true h
  rcases h with h | h
  · rw [h] at ht
    cases ht
  · exact h

theorem tmsOf_threw_iff {p : Prepared} (h : d.text.present = true) (id : UInt8) :
    tmsOf d p id = .error .threw ↔ d.sendArsFirst = .bad ∨
      TextThrows d fun text => buildMotorolaTmsPayload p.sourceRid text 0 p.useBrandmeister := by
  unfold tmsOf
  simp only [bind_eq_error_iff, result_threw_iff, elseStop_threw_iff, pure_ne_threw, and_false,
    exists_false, or_false, threw_or_iff]
  rw [← text_threw_iff d h]
  simp only [tmsPayload_none_iff p.sourceRid _ (id &&& 0x1F)]

theorem plainText_threw_iff (h : d.text.present = true) (p : Prepared) :
    (do
      let text ← d.text.result []
      let terminator ← d.appendNullTerminator.result cfg.outboundAppendNullTerminator
      let payload ← elseStop .threw (encodeUtf16Le text terminator)
      return { p with payload := payload } : Except Stop Prepared) = .error .threw ↔
        d.appendNullTerminator = .bad ∨ TextThrows d fun text => encodeUtf16Le text false := by
  have hnone : ∀ text b, encodeUtf16Le text b = none ↔ encodeUtf16Le text false = none :=
    fun text b => by
      unfold encodeUtf16Le
      rw [Option.map_eq_none_iff, Option.map_eq_none_iff]
  rw [← text_threw_iff d h]
  simp only [bind_eq_error_iff, result_threw_iff, elseStop_threw_iff, pure_ne_threw, and_false,
    exists_false, or_false, hnone _ _, threw_or_iff]
  constructor
  · rintro (h | ⟨text, ht, h | h⟩)
    · exact Or.inr (Or.inl h)
    · exact Or.inl h
    · exact Or.inr (Or.inr ⟨text, ht, h⟩)
  · rintro (h | h | ⟨text, ht, h⟩)
    · by_cases hbad : d.text = .bad
      · exact Or.inl hbad
      · obtain ⟨text, ht⟩ := (exists_result_iff d.text []).mpr hbad
        exact Or.inr ⟨text, ht, Or.inl h⟩
    · exact Or.inl h
    · exact Or.inr ⟨text, ht, Or.inr h⟩

theorem messageOf_threw_iff {p : Prepared} (hraw : p.rawIpPacket = none) (id : UInt8) :
    messageOf cfg d p id = .error .threw ↔ d.hexPayload = .bad ∨ d.hexPayload = .absent ∧
      ((isMotorola d p = true ∧ p.useTms = true ∧ (d.sendArsFirst = .bad ∨ TextThrows d
          fun text => buildMotorolaTmsPayload p.sourceRid text 0 p.useBrandmeister)) ∨
        (isMotorola d p = false ∧ isPlainText d p = true ∧
          (d.appendNullTerminator = .bad ∨ TextThrows d fun text => encodeUtf16Le text false))) := by
  unfold messageOf
  have hsome : ¬ p.rawIpPacket.isSome = true := by
    rw [hraw]
    exact Bool.false_ne_true
  rw [if_neg hsome]
  cases hhex : d.hexPayload with
  | bad => simp [Field.present, bind_eq_error_iff, result_threw_iff]
  | value hex =>
    simp only [Field.present, if_true, bind_eq_error_iff, result_threw_iff,
      elseStop_refused_ne_threw, pure_ne_threw, reduceCtorEq, and_false, exists_false, or_false,
      false_and]
  | absent =>
    simp only [Field.present, Bool.false_eq_true, if_false, reduceCtorEq, true_and, false_or]
    cases hm : isMotorola d p with
    | true =>
      simp only [if_true, true_and, Bool.true_eq_false, false_and, or_false]
      cases ht : p.useTms with
      | true => simp only [if_true, true_and, tmsOf_threw_iff d (isMotorola_text d hm ht)]
      | false => simp
    | false =>
      simp only [Bool.false_eq_true, if_false, false_and, true_and, false_or]
      cases hp : isPlainText d p with
      | true =>
        simp only [if_true, true_and]
        exact plainText_threw_iff cfg d (of_decide_eq_true hp).2 p
      | false => simp

theorem header_ok {p : Prepared} (h : header cfg d = .ok p) :
    p.rawIpPacket = none ∧ p.arsPayload = none ∧ p.payload = [] := by
  unfold header at h
  simp only [bind_eq_ok_iff] at h
  obtain ⟨channel, -, route, -, sourceRid, -, targetRid, -, h⟩ := h
  obtain rfl := Except.ok.inj h
  exact ⟨rfl, rfl, rfl⟩

theorem check_ne_threw (q : Prepared) :
    ((if q.rawIpPacket = none ∧ q.payload = [] then .error .refused else .ok q :
      Except Stop Prepared) = .error .threw) ↔ False := by
  split_ifs <;> simp

theorem prepared_threw_iff (id : UInt8) : prepared cfg d id = .error .threw ↔
    HeadThrows d ∨ ∃ p, header cfg d = .ok p ∧ MessageThrows d p := by
  unfold prepared
  simp only [bind_eq_error_iff, header_threw_iff, rawIpPacketOf_threw_iff, check_ne_threw, and_false,
    exists_false, or_false]
  refine or_congr_right (exists_congr fun p => and_congr_right fun hp => ?_)
  refine or_congr_right ?_
  unfold rawIpPacketOf
  cases hnode : rawIpPacketNode d with
  | bad => simp [Field.present, bind_eq_ok_iff, Field.result, Field.getOr, elseStop]
  | absent =>
    have hsame : { p with rawIpPacket := none } = p := by rw [← (header_ok cfg d hp).1]
    simp only [Field.present, Bool.false_eq_true, if_false, true_and]
    rw [← messageOf_threw_iff cfg d (header_ok cfg d hp).1 id]
    constructor
    · rintro ⟨raw, hraw, h⟩
      obtain rfl := Except.ok.inj hraw
      rwa [hsame] at h
    · intro h
      exact ⟨none, rfl, by rwa [hsame]⟩
  | value hex =>
    simp only [Field.present, if_true, reduceCtorEq, false_and, iff_false]
    rintro ⟨raw, hraw, h⟩
    obtain ⟨hex', -, hraw⟩ := (bind_eq_ok_iff _ _ _).mp hraw
    obtain ⟨packet, -, hraw⟩ := (bind_eq_ok_iff _ _ _).mp hraw
    obtain rfl := Except.ok.inj hraw
    cases h

theorem bmPackets_ne_threw (a : BmAddresses) (ports : BmPorts) (p : Prepared) :
    (bmPackets a ports p = .error .threw) ↔ False := by
  refine iff_of_false (fun h => ?_) not_false
  unfold bmPackets at h
  split at h
  · unfold locationPackets at h
    split_ifs at h
    · rcases (bind_eq_error_iff _ _ _).mp h with h | ⟨a, -, h⟩
      · exact elseStop_refused_ne_threw _ h
      · cases h
  · cases h
  · cases h

theorem bmIpOf_threw_iff (field : Field Bytes) (configured : Bytes) (rid : ℕ) :
    bmIpOf field configured rid = .error .threw ↔ field = .bad := by
  unfold bmIpOf
  simp only [bind_eq_error_iff, result_threw_iff, pure_ne_threw, and_false, exists_false, or_false]

theorem bmIpOf_or_iff (field : Field Bytes) (configured : Bytes) (rid : ℕ) (P : Prop) :
    (field = .bad ∨ ∃ a, bmIpOf field configured rid = .ok a ∧ P) ↔ field = .bad ∨ P := by
  have hok : (∃ a, bmIpOf field configured rid = .ok a) ↔ field ≠ .bad := by
    rw [← exists_result_iff field configured]
    unfold bmIpOf
    cases field.result configured with
    | error e => simp [bind, Except.bind]
    | ok a => exact iff_of_true ⟨_, rfl⟩ ⟨a, rfl⟩
  rw [exists_and_right, hok]
  tauto

theorem bmPlan_threw_iff (p : Prepared) : bmPlan cfg d p = .error .threw ↔
    p.hasRidPair = true ∧ cfg.writerInstalled = true ∧ RequestThrows d := by
  unfold bmPlan
  split_ifs with h
  · refine iff_of_false (by rintro ⟨⟩) fun ⟨hr, hw, _⟩ => ?_
    rw [hr, hw] at h
    simp at h
  · rw [not_or, Bool.not_eq_false, Bool.not_eq_false] at h
    simp only [h.1, h.2, true_and, bind_eq_error_iff, bmPackets_ne_threw, pure_ne_threw, and_false,
      exists_false, or_false]
    unfold bmRequest RequestThrows
    simp only [bind_eq_error_iff, result_threw_iff, bmIpOf_threw_iff, pure_ne_threw, and_false,
      exists_false, or_false, threw_or_iff, bmIpOf_or_iff]

theorem messageOf_head {p q : Prepared} {id : UInt8} (h : messageOf cfg d p id = .ok q) :
    ∃ ars payload, q = { p with arsPayload := ars, payload := payload } := by
  unfold messageOf tmsOf at h
  split_ifs at h
  · exact ⟨p.arsPayload, p.payload, (Except.ok.inj h).symm⟩
  · simp only [bind_eq_ok_iff] at h
    obtain ⟨hex, -, payload, -, h⟩ := h
    exact ⟨p.arsPayload, payload, (Except.ok.inj h).symm⟩
  · simp only [bind_eq_ok_iff] at h
    obtain ⟨sendArsFirst, -, text, -, payload, -, h⟩ := h
    exact ⟨_, payload, (Except.ok.inj h).symm⟩
  · exact ⟨p.arsPayload, _, (Except.ok.inj h).symm⟩
  · simp only [bind_eq_ok_iff] at h
    obtain ⟨text, -, terminator, -, payload, -, h⟩ := h
    exact ⟨p.arsPayload, payload, (Except.ok.inj h).symm⟩

theorem prepared_head {q : Prepared} {id : UInt8} (h : prepared cfg d id = .ok q) :
    ∃ p, header cfg d = .ok p ∧ ∃ raw ars payload,
      q = { p with rawIpPacket := raw, arsPayload := ars, payload := payload } := by
  unfold prepared at h
  simp only [bind_eq_ok_iff] at h
  obtain ⟨p, hp, raw, -, q', hq, h⟩ := h
  obtain ⟨ars, payload, rfl⟩ := messageOf_head cfg d hq
  refine ⟨p, hp, raw, ars, payload, ?_⟩
  split_ifs at h
  exact (Except.ok.inj h).symm

theorem exists_tmsPayload_iff (sourceRid : ℕ) (text : Bytes) (id : UInt8) (bm : Bool) :
    (∃ payload, buildMotorolaTmsPayload sourceRid text id bm = some payload ∧ payload ≠ []) ↔
      ∃ payload, buildMotorolaTmsPayload sourceRid text 0 bm = some payload ∧ payload ≠ [] := by
  have hlen : ∀ o : Option Bytes, (∃ payload, o = some payload ∧ payload ≠ []) ↔
      ∃ n, o.map List.length = some n ∧ n ≠ 0 := by
    intro o
    cases o with
    | none => simp
    | some payload => simp
  rw [hlen, hlen, tmsPayload_length sourceRid text id 0 bm]

theorem exists_tmsOf_iff (h : d.text.present = true) (p : Prepared) (id : UInt8) :
    (∃ q, tmsOf d p id = .ok q ∧ q.payload ≠ []) ↔ d.sendArsFirst ≠ .bad ∧ ∃ text payload,
      d.text = .value text ∧
        buildMotorolaTmsPayload p.sourceRid text 0 p.useBrandmeister = some payload ∧
          payload ≠ [] := by
  have htext : ∀ text, d.text.result [] = .ok text ↔ d.text = .value text := by
    intro text
    rw [result_ok_iff]
    refine or_iff_right ?_
    rintro ⟨habs, -⟩
    rw [habs] at h
    cases h
  have hsome : ∀ (o : Option Bytes) payload, elseStop .threw o = .ok payload ↔ o = some payload := by
    intro o payload
    cases o <;> simp [elseStop]
  unfold tmsOf
  simp only [bind_eq_ok_iff, htext, hsome]
  constructor
  · rintro ⟨q, ⟨sendArsFirst, hars, text, ht, payload, hp, hq⟩, hne⟩
    obtain rfl := Except.ok.inj hq
    refine ⟨(exists_result_iff _ _).mp ⟨sendArsFirst, hars⟩, text, ?_⟩
    obtain ⟨payload', hp', hne'⟩ := (exists_tmsPayload_iff _ _ _ _).mp ⟨payload, hp, hne⟩
    exact ⟨payload', ht, hp', hne'⟩
  · rintro ⟨hars, text, payload, ht, hp, hne⟩
    obtain ⟨sendArsFirst, hars⟩ := (exists_result_iff _ false).mpr hars
    obtain ⟨payload', hp', hne'⟩ := (exists_tmsPayload_iff _ _ (id &&& 0x1F) _).mpr ⟨payload, hp, hne⟩
    exact ⟨_, ⟨sendArsFirst, hars, text, ht, payload', hp', rfl⟩, hne'⟩

theorem exists_messageOf_iff {p : Prepared} (hraw : p.rawIpPacket = none)
    (hbm : p.useBrandmeister = true) (hrids : p.hasRidPair = true) (id : UInt8) :
    (∃ q, messageOf cfg d p id = .ok q ∧ q.payload ≠ []) ↔
      (∃ hex payload, d.hexPayload = .value hex ∧ hexToBytes hex = some payload ∧ payload ≠ []) ∨
      d.hexPayload = .absent ∧ (p.useTms = false ∨ d.sendArsFirst ≠ .bad ∧ ∃ text payload,
        d.text = .value text ∧ buildMotorolaTmsPayload p.sourceRid text 0 true = some payload ∧
          payload ≠ []) := by
  unfold messageOf
  have hsome : ¬ p.rawIpPacket.isSome = true := by
    rw [hraw]
    exact Bool.false_ne_true
  rw [if_neg hsome]
  cases hhex : d.hexPayload with
  | bad => simp [Field.present, bind_eq_ok_iff, Field.result, Field.getOr, elseStop]
  | value hex =>
    simp only [Field.present, if_true, reduceCtorEq, false_and, or_false, bind_eq_ok_iff,
      result_ok_iff, false_or, Field.value.injEq]
    constructor
    · rintro ⟨q, ⟨hex', rfl, payload, hp, hq⟩, hne⟩
      obtain rfl := Except.ok.inj hq
      refine ⟨hex, payload, rfl, ?_, hne⟩
      cases hb : hexToBytes hex with
      | none => rw [hb] at hp; cases hp
      | some b => rw [hb] at hp; exact congrArg some (Except.ok.inj hp)
    · rintro ⟨hex', payload, rfl, hp, hne⟩
      exact ⟨_, ⟨hex, rfl, payload, by rw [hp]; rfl, rfl⟩, hne⟩
  | absent =>
    simp only [Field.present, Bool.false_eq_true, if_false, reduceCtorEq, true_and, false_and,
      exists_false, false_or]
    have hplain : isPlainText d p = false := by simp [isPlainText, hbm]
    cases ht : p.useTms with
    | false =>
      have hm : isMotorola d p = true := by simp [isMotorola, hrids, ht]
      rw [if_pos hm, if_neg Bool.false_ne_true]
      exact iff_of_true ⟨_, rfl, List.cons_ne_nil _ _⟩ (Or.inl rfl)
    | true =>
      have hm : isMotorola d p = d.text.present := by simp [isMotorola, hrids, ht]
      rw [hm]
      cases hp : d.text.present with
      | true =>
        rw [if_pos rfl, if_pos rfl, exists_tmsOf_iff d hp, hbm]
        simp only [Bool.true_eq_false, false_or]
      | false =>
        rw [if_neg Bool.false_ne_true, hplain, if_neg Bool.false_ne_true]
        refine iff_of_false (by rintro ⟨q, ⟨⟩, -⟩) ?_
        rintro (h | ⟨-, text, payload, h, -⟩)
        · exact Bool.noConfusion h
        · rw [h] at hp
          cases hp

theorem check_ok_iff (q q' : Prepared) :
    ((if q.rawIpPacket = none ∧ q.payload = [] then .error .refused else .ok q :
      Except Stop Prepared) = .ok q') ↔ (q.rawIpPacket = none → q.payload ≠ []) ∧ q = q' := by
  split_ifs with h
  · exact iff_of_false (by rintro ⟨⟩) fun hn => hn.1 h.1 h.2
  · rw [Except.ok.injEq]
    exact (and_iff_right fun h₁ h₂ => h ⟨h₁, h₂⟩).symm

theorem exists_prepared_iff {p : Prepared} (hp : header cfg d = .ok p)
    (hbm : p.useBrandmeister = true) (hrids : p.hasRidPair = true) (id : UInt8) :
    (∃ q, prepared cfg d id = .ok q) ↔ MessageBuilt d p := by
  have hraw := (header_ok cfg d hp).1
  have hsame : { p with rawIpPacket := none } = p := by rw [← hraw]
  unfold prepared MessageBuilt
  simp only [bind_eq_ok_iff, check_ok_iff, hp, Except.ok.injEq, exists_eq_left']
  unfold rawIpPacketOf
  cases hnode : rawIpPacketNode d with
  | bad => simp [Field.present, bind_eq_ok_iff, Field.result, Field.getOr, elseStop]
  | value hex =>
    simp only [Field.present, if_true, reduceCtorEq, false_and, or_false, bind_eq_ok_iff,
      result_ok_iff, false_or, Field.value.injEq]
    constructor
    · rintro ⟨q, raw, ⟨hex', rfl, packet, hpacket, -⟩, -⟩
      refine ⟨hex, packet, rfl, ?_⟩
      cases hb : hexToBytes hex with
      | none => rw [hb] at hpacket; cases hpacket
      | some b => rw [hb] at hpacket; exact congrArg some (Except.ok.inj hpacket)
    · rintro ⟨hex', packet, rfl, hpacket⟩
      refine ⟨_, some packet, ⟨hex, rfl, packet, by rw [hpacket]; rfl, rfl⟩, _, rfl, ?_, rfl⟩
      exact fun h => absurd h (Option.some_ne_none packet)
  | absent =>
    simp only [Field.present, Bool.false_eq_true, if_false, reduceCtorEq, true_and, false_and,
      exists_false, false_or]
    rw [← exists_messageOf_iff cfg d hraw hbm hrids id]
    constructor
    · rintro ⟨q', raw, hraw', q, hq, hne, rfl⟩
      obtain rfl := Except.ok.inj hraw'
      rw [hsame] at hq
      obtain ⟨ars, payload, rfl⟩ := messageOf_head cfg d hq
      exact ⟨_, hq, hne hraw⟩
    · rintro ⟨q, hq, hne⟩
      exact ⟨q, none, rfl, q, by rw [hsame]; exact hq, fun _ => hne, rfl⟩

end Throws

section Send

variable {σ ε : Type} (cfg : OutboundConfig) (writer : PacketWriter σ ε)

/-- The program throws nothing. -/
abbrev CannotThrow {α : Type} (m : Outbound σ ε α) : Prop :=
  Triple (fun _ => True) m (fun _ _ => True) fun e _ => e ≠ .threw

theorem cannotThrow_refused {α : Type} : CannotThrow (throw .refused : Outbound σ ε α) :=
  triple_throw _ fun _ _ => by rintro ⟨⟩

theorem cannotThrow_record (e : OutboundEffect ε) : CannotThrow (record e : Outbound σ ε _) :=
  triple_modify _ fun _ _ => trivial

theorem cannotThrow_pure {α : Type} (a : α) : CannotThrow (pure a : Outbound σ ε α) :=
  triple_pure a fun _ _ => trivial

theorem cannotThrow_handPackets (a : BmAddresses) (packets : List Bytes) :
    CannotThrow (handPackets writer a packets) := by
  induction packets with
  | nil => exact cannotThrow_pure _
  | cons packet rest ih =>
    refine triple_bind (triple_ite (fun _ => cannotThrow_refused) fun _ => ?_) fun _ => ih
    refine triple_get fun s _ => triple_weaken (P := fun _ => True) ?_ (fun _ _ => trivial)
      (fun _ _ h => h) fun _ _ h => h
    exact triple_bind (triple_set _ fun _ _ => trivial) fun _ =>
      triple_ite (fun _ => cannotThrow_pure _) fun _ => cannotThrow_refused

theorem cannotThrow_archiveSent (o : ArchiveOutcome) (path : Bytes) :
    CannotThrow (archiveSent o path : Outbound σ ε _) :=
  triple_ite (fun _ => cannotThrow_record _) fun _ => cannotThrow_pure _

theorem cannotThrow_sendOverUdp (o : ArchiveOutcome) (path : Bytes) (p : Prepared) :
    CannotThrow (sendOverUdp cfg o path p : Outbound σ ε _) := by
  refine triple_ite (fun _ => cannotThrow_refused) fun _ => triple_bind ?_ fun _ =>
    triple_ite (fun _ => ?_) fun _ => cannotThrow_refused
  · unfold sendArsDatagram
    split
    · exact triple_ite (fun _ => cannotThrow_record _) fun _ => cannotThrow_pure _
    · exact cannotThrow_pure _
  · exact triple_bind (cannotThrow_record _) fun _ => cannotThrow_archiveSent o path

theorem ne_threw_of_cannotThrow {α : Type} {m : Outbound σ ε α} (hm : CannotThrow m) (s : OutboundState σ ε) :
    (exec m s).1 ≠ .error .threw := by
  have h := hm s trivial
  generalize exec m s = r at h ⊢
  rcases r with ⟨e | a, s'⟩
  · exact fun he => h (Except.error.inj he)
  · rintro ⟨⟩

theorem cannotThrow_bind_threw_iff {α β : Type} {r : Except Stop α} {f : α → Outbound σ ε β}
    (hf : ∀ a, CannotThrow (f a)) (s : OutboundState σ ε) :
    (exec (ofResult r >>= f) s).1 = .error .threw ↔ r = .error .threw := by
  rw [exec_ofResult_bind]
  cases r with
  | error e => exact ⟨fun h => by rw [Except.error.inj h], fun h => by rw [Except.error.inj h]⟩
  | ok a => exact iff_of_false (ne_threw_of_cannotThrow (hf a) s) (by rintro ⟨⟩)

/-- Once a file is read, only the options of its packets throw. -/
theorem send_threw_iff (d : OutboxDocument) (o : ArchiveOutcome) (path : Bytes) (q : Prepared)
    (s : OutboundState σ ε) :
    (exec (if q.useBrandmeister then ofResult (bmPlan cfg d q) >>= fun r =>
        handPackets writer r.1 r.2 >>= fun _ => archiveSent o path
      else sendOverUdp cfg o path q) s).1 = .error .threw ↔
      q.useBrandmeister = true ∧ q.hasRidPair = true ∧ cfg.writerInstalled = true ∧
        RequestThrows d := by
  split_ifs with hbm
  · have hquiet : ∀ r : BmAddresses × List Bytes, CannotThrow (handPackets writer r.1 r.2 >>= fun _ =>
        archiveSent o path) := fun r =>
      triple_bind (cannotThrow_handPackets writer r.1 r.2) fun _ => cannotThrow_archiveSent o path
    rw [cannotThrow_bind_threw_iff hquiet, bmPlan_threw_iff]
    exact (and_iff_right hbm).symm
  · exact iff_of_false (ne_threw_of_cannotThrow (cannotThrow_sendOverUdp cfg o path q) s) fun h => hbm h.1

/-- **Exactly when sending a file throws.** -/
theorem processOutboundFile_threw_iff (content : OutboxContent) (o : ArchiveOutcome) (path : Bytes)
    (s : OutboundState σ ε) :
    (exec (processOutboundFile cfg writer content o path) s).1 = .error .threw ↔
      FileThrows cfg content := by
  cases content with
  | unparsable => exact iff_of_false (by rintro ⟨⟩) not_false
  | unsubscriptable => exact iff_of_true rfl trivial
  | document d =>
    obtain ⟨id, h⟩ := exec_processOutboundFile cfg writer d o path s
    rw [h]
    have hread := prepared_threw_iff cfg d s.nextTmsMessageId
    cases hq : prepared cfg d s.nextTmsMessageId with
    | error e =>
      have hnot : ∀ p, header cfg d = .ok p → ¬ OptionsThrow cfg d p := by
        intro p hp hoptions
        obtain ⟨hbm, hrids, -, hbuilt, -⟩ := hoptions
        obtain ⟨q, hq'⟩ := (exists_prepared_iff cfg d hp hbm hrids s.nextTmsMessageId).mpr hbuilt
        rw [hq] at hq'
        cases hq'
      rw [hq] at hread
      refine Iff.trans ?_ (hread.trans (or_congr_right (exists_congr fun p =>
        and_congr_right fun hp => (or_iff_left (hnot p hp)).symm)))
      exact ⟨fun h => by rw [Except.error.inj h], fun h => by rw [Except.error.inj h]⟩
    | ok q =>
      dsimp only
      rw [send_threw_iff]
      obtain ⟨p, hp, raw, ars, payload, rfl⟩ := prepared_head cfg d hq
      rw [hq] at hread
      obtain ⟨hhead, hmessage⟩ := not_or.mp (mt hread.mpr (by rintro ⟨⟩))
      constructor
      · rintro ⟨hbm, hrids, hw, hr⟩
        have hbuilt := (exists_prepared_iff cfg d hp hbm hrids s.nextTmsMessageId).mp ⟨_, hq⟩
        exact Or.inr ⟨p, hp, Or.inr ⟨hbm, hrids, hw, hbuilt, hr⟩⟩
      · rintro (h | ⟨p', hp', h | h⟩)
        · exact absurd h hhead
        · exact absurd ⟨p', hp', h⟩ hmessage
        · obtain rfl := Except.ok.inj (hp'.symm.trans hp)
          exact ⟨h.1, h.2.1, h.2.2.1, h.2.2.2.2⟩

end Send

/-! ## A turn of the main loop -/

/-- The packets that a turn of the loop reads. -/
def kMaxFnePacketsPerLoop : ℕ := 64

/-- What a turn of the main loop finds: whether the bridge listens and the next poll is due, what the
file operations do, and the packets of the local FNE. The datagrams received are not part of it. -/
structure TurnInput where
  isOpen : Bool
  due : Bool
  outcomes : Bytes → FileOutcome
  fnePackets : List Bytes

section Turn

variable {σ ε : Type} (cfg : OutboundConfig) (writer : PacketWriter σ ε)

/-- The clock of the SMS bridge, and whether an exception leaves it. -/
def clock (i : TurnInput) (s : Outbox σ ε) : Bool × Outbox σ ε :=
  if i.isOpen ∧ i.due then processOutboundQueue cfg writer i.outcomes s else (false, s)

/-- A turn of the main loop, and whether an exception ends it. -/
def turn (i : TurnInput) (s : Outbox σ ε) : Bool × Outbox σ ε :=
  match clock cfg writer i s with
  | (true, s') => (true, s')
  | (false, s') =>
    ((i.fnePackets.take kMaxFnePacketsPerLoop).any fun packet => (Dmr.parseFNERawDMR packet).isNone,
      s')

variable {cfg writer}

theorem processFile_get? (outcome : FileOutcome) {name name' : Bytes} (hne : name' ≠ name)
    (s : Outbox σ ε) :
    (processFile cfg writer outcome name s).2.files.get? name' = s.files.get? name' := by
  unfold processFile
  cases s.files.get? name with
  | none => rfl
  | some entry =>
    dsimp only
    split
    · dsimp only
      split_ifs
      · rw [Dict.get?_erase, if_neg hne]
      · rfl
    · rfl
    · rfl

theorem processFile_throws_iff (outcome : FileOutcome) (name : Bytes) (s : Outbox σ ε) :
    (processFile cfg writer outcome name s).1 = true ↔
      ∃ entry, s.files.get? name = some entry ∧ FileThrows cfg entry.content := by
  unfold processFile
  cases s.files.get? name with
  | none => simp
  | some entry =>
    have hiff := processOutboundFile_threw_iff cfg writer entry.content outcome.toArchiveOutcome name
      s.sender
    simp only [Option.some.injEq, exists_eq_left']
    rw [← hiff]
    rcases exec (processOutboundFile cfg writer entry.content outcome.toArchiveOutcome name) s.sender
      with ⟨e | a, sender⟩
    · cases e <;> simp
    · simp

theorem processFiles_throws_iff (outcomes : Bytes → FileOutcome) (names : List Bytes)
    (hnodup : names.Nodup) : ∀ s : Outbox σ ε,
      (processFiles cfg writer outcomes names s).1 = true ↔
        ∃ name ∈ names, ∃ entry, s.files.get? name = some entry ∧ FileThrows cfg entry.content := by
  induction names with
  | nil => simp [processFiles]
  | cons name rest ih =>
    obtain ⟨hnot, hnodup⟩ := List.nodup_cons.mp hnodup
    intro s
    have hthrows : (processFile cfg writer (outcomes name) name s).1 = true ↔ _ :=
      processFile_throws_iff (outcomes name) name s
    have hfiles : ∀ name' ∈ rest, (processFile cfg writer (outcomes name) name s).2.files.get? name' =
        s.files.get? name' := by
      intro name' hname'
      refine processFile_get? (outcomes name) (fun he => hnot ?_) s
      rw [← he]
      exact hname'
    unfold processFiles
    rw [List.exists_mem_cons_iff, ← hthrows]
    generalize processFile cfg writer (outcomes name) name s = r at hfiles ⊢
    obtain ⟨threw, s'⟩ := r
    cases threw with
    | true => simp
    | false =>
      dsimp only at hfiles ⊢
      rw [ih hnodup s']
      refine Iff.trans ?_ (or_iff_right Bool.false_ne_true).symm
      refine exists_congr fun name' => and_congr_right fun hname' => ?_
      rw [hfiles name' hname']

theorem listing_nodup (files : OutboxDirectory) : files.listing.Nodup := by
  have hnodup : ((files.entries.filter fun e => e.2.regular).map Prod.fst).Nodup :=
    files.nodup.sublist (List.filter_sublist.map _)
  exact (List.perm_insertionSort _ _).nodup_iff.mpr hnodup

/-- A packet that the parser accepts. -/
def IsFnePacket (packet : Bytes) : Prop :=
  55 ≤ packet.length ∧ packet.take 4 = [0x44, 0x4D, 0x52, 0x44]

theorem parseFNERawDMR_isNone_iff (packet : Bytes) :
    (Dmr.parseFNERawDMR packet).isNone = true ↔ ¬ IsFnePacket packet := by
  unfold Dmr.parseFNERawDMR IsFnePacket
  split_ifs with h
  · refine iff_of_true rfl fun hp => ?_
    rcases h with h | h
    · omega
    · exact h hp.2
  · rw [not_or, not_not, not_lt] at h
    exact iff_of_false Bool.false_ne_true (not_not.mpr h)

/-- **Exactly when a turn of the main loop completes.** The poll is not due, or none of the first
eight files throws, and all packets of the local FNE are DMR packets. -/
theorem turn_iff (i : TurnInput) (s : Outbox σ ε) : (turn cfg writer i s).1 = false ↔
    (i.isOpen = true → i.due = true →
      ∀ name ∈ s.files.listing.take kMaxOutboundFilesPerPoll, ∀ entry,
        s.files.get? name = some entry → ¬ FileThrows cfg entry.content) ∧
    ∀ packet ∈ i.fnePackets.take kMaxFnePacketsPerLoop, IsFnePacket packet := by
  have hpackets : ((i.fnePackets.take kMaxFnePacketsPerLoop).any fun packet =>
      (Dmr.parseFNERawDMR packet).isNone) = false ↔
      ∀ packet ∈ i.fnePackets.take kMaxFnePacketsPerLoop, IsFnePacket packet := by
    simp only [List.any_eq_false, parseFNERawDMR_isNone_iff, not_not]
  have hclock : (clock cfg writer i s).1 = false ↔ (i.isOpen = true → i.due = true →
      ∀ name ∈ s.files.listing.take kMaxOutboundFilesPerPoll, ∀ entry,
        s.files.get? name = some entry → ¬ FileThrows cfg entry.content) := by
    have hpoll : (processFiles cfg writer i.outcomes
        (s.files.listing.take kMaxOutboundFilesPerPoll) s).1 = true ↔ _ :=
      processFiles_throws_iff i.outcomes _ ((listing_nodup s.files).sublist (List.take_sublist kMaxOutboundFilesPerPoll _)) s
    unfold clock
    split_ifs with h
    · rw [← Bool.not_eq_true]
      refine (not_congr hpoll).trans ?_
      simp only [h.1, h.2, forall_const, not_exists, not_and]
    · exact iff_of_true rfl fun hopen hdue => absurd ⟨hopen, hdue⟩ h
  rw [← hclock, ← hpackets]
  unfold turn
  rcases clock cfg writer i s with ⟨threw, s'⟩
  cases threw with
  | true => simp
  | false => simp

end Turn

/-- A file whose sender is no number. -/
def badFile : OutboxContent := .document
  { OutboxDocument.blank with
    sourceRid := .bad
    targetRid := .value 2623260
    text := .value (ascii ['H', 'i']) }

/-- An outbox with one file, read by a bridge that has sent nothing yet. -/
def outboxOf (name : Bytes) (content : OutboxContent) : Outbox Unit Unit where
  files := Dict.empty.set name { regular := true, content := content }
  sender := { network := (), nextTmsMessageId := 0, effects := [] }

/-- All file operations work. -/
def workingFiles : FileOutcome where
  renamed := true
  copied := true
  datagramSent := true
  removed := true

theorem not_turn_badFile : ¬ ∀ (cfg : OutboundConfig) (writer : PacketWriter Unit Unit)
    (i : TurnInput) (s : Outbox Unit Unit), (turn cfg writer i s).1 = false := by
  intro h
  have hturn := h plainSender (fun s _ _ _ _ => (true, s, [])) ⟨true, true, fun _ => workingFiles, []⟩
    (outboxOf (ascii ['a']) badFile)
  have hthrows : (turn plainSender (fun s _ _ _ _ => (true, s, []))
      ⟨true, true, fun _ => workingFiles, []⟩ (outboxOf (ascii ['a']) badFile)).1 = true := by
    decide +kernel
  rw [hthrows] at hturn
  cases hturn

end Sms
