import QuantarBridge.Lib.Decimal
import QuantarBridge.Lib.Expiry
import Mathlib.Data.List.DropRight

/-!
# Messages that reach the network endpoint

The network endpoint looks for the text of a radio message in every packet it is handed, and writes an
event to the inbox. A message that was seen in the last twenty seconds counts as handled. It is marked as
seen before there is a file, so when the file fails, a repetition counts as handled all the same.

* `extractMotorolaTmsText`, `targetRidFromAutoIp`, `writeMotorolaTmsEvent`: the code;
* `seen_iff`: what is marked as seen;
* `HandledStored`: what is handled is stored, `handledStored_iff`: **exactly the runs that do not repeat
  a message whose file failed**.
-/

set_option autoImplicit false

namespace P25.Fne

open Lib

/-- How long a message counts as a repetition. -/
def TMS_EVENT_TTL_SECONDS : ℕ := 20

/-- The directory of the inbox. -/
def TMS_INBOX_PATH : Bytes := ascii "/home/quantar/quantar-runtime/sms/inbox".toList

/-- The addresses of the network itself and of all radios. -/
structure Wuids where
  fne : ℕ
  all : ℕ

/-! ## The text of a packet -/

/-- A printable ASCII character. -/
def printable (c : UInt8) : Bool := 0x20 ≤ c ∧ c ≤ 0x7E

/-- Characters of one byte, or of two with a zero, up to the first that is not printable. -/
def printableText : Bytes → Bytes
  | c :: z :: rest =>
    if printable c = false then []
    else if z = 0x00 then c :: printableText rest
    else c :: printableText (z :: rest)
  | [c] => if printable c then [c] else []
  | [] => []

/-- The text after the first marker. A marker in the last two bytes has none. -/
def markedText : Bytes → Bytes
  | a :: b :: c :: rest =>
    if a &&& 0xE0 = 0x80 ∧ b = 0x04 then (printableText (c :: rest)).rdropWhile (· = 0x20)
    else markedText (b :: c :: rest)
  | _ => []

/-- The text of a captured packet. -/
def extractMotorolaTmsText (packet : Bytes) : Bytes :=
  let ipHeaderLength := (packet.getD 0 0 &&& 0x0F).toNat * 4
  if packet.length < 32 ∨ packet.getD 0 0 &&& 0xF0 ≠ 0x40 ∨ packet.getD 9 0 ≠ 0x11 then []
  else if ipHeaderLength < 20 ∨ packet.length ≤ ipHeaderLength + 8 then []
  else markedText (packet.drop (ipHeaderLength + 8))

/-- The radio of an automatic address. -/
def targetRidFromAutoIp (wuids : Wuids) (packet : Bytes) (fallbackRid : ℕ) : ℕ :=
  let rid := (packet.getD 17 0).toNat * 65536 + (packet.getD 18 0).toNat * 256 +
    (packet.getD 19 0).toNat
  if 20 ≤ packet.length ∧ packet.getD 16 0 = 10 ∧ rid ≠ 0 then rid
  else if fallbackRid ≠ wuids.fne ∧ fallbackRid ≠ wuids.all then fallbackRid
  else 0

/-! ## Events -/

/-- A message with its two radios. -/
structure TmsEvent where
  sourceRid : ℕ
  targetRid : ℕ
  text : Bytes
  deriving DecidableEq

/-- The key under which a message is marked as seen. -/
def TmsEvent.key (event : TmsEvent) : Bytes :=
  decimal event.sourceRid ++ 0x7C :: (decimal event.targetRid ++ 0x7C :: event.text)

/-- A backslash before every backslash and quotation mark. -/
def escaped (text : Bytes) : Bytes :=
  text.flatMap fun c => if c = 0x5C ∨ c = 0x22 then [0x5C, c] else [c]

/-- The file of an event. -/
def TmsEvent.json (event : TmsEvent) : Bytes :=
  ascii "\x7b\n  \"application\": \"motorola_tms\",\n".toList ++
    ascii "  \"sourceRid\": ".toList ++ decimal event.sourceRid ++ ascii ",\n".toList ++
    ascii "  \"targetRid\": ".toList ++ decimal event.targetRid ++ ascii ",\n".toList ++
    ascii "  \"broadcast\": false,\n  \"localDeliveryCandidate\": false,\n  \"text\": \"".toList ++
    escaped event.text ++ ascii "\"\n\x7d\n".toList

/-- What becomes of a file. -/
structure FileOutcome where
  opened : Bool
  written : Bool
  renamed : Bool

/-- A packet from a radio, with the readings of the steady clock and of the system clock. -/
structure TmsCall where
  packet : Bytes
  sourceRid : ℕ
  fallbackTargetRid : ℕ
  nowSteady : Time
  epochMs : ℕ
  outcome : FileOutcome

/-- What the writer remembers. -/
structure TmsWriter where
  recentEvents : ExpiryMap Bytes
  sequence : ℕ

/-- The writer when the endpoint starts. -/
def TmsWriter.init : TmsWriter := ⟨ExpiryMap.empty, 0⟩

/-- What a call does. -/
inductive TmsEffect
  /-- A file appears in the inbox. -/
  | committed (path content : Bytes)
  | returned (handled : Bool)
  deriving DecidableEq

/-- The message of a packet. It needs a text and two radios. -/
def TmsCall.event? (wuids : Wuids) (call : TmsCall) : Option TmsEvent :=
  let text := extractMotorolaTmsText call.packet
  let targetRid := targetRidFromAutoIp wuids call.packet call.fallbackTargetRid
  if text = [] ∨ call.sourceRid = 0 ∨ targetRid = 0 then none
  else some ⟨call.sourceRid, targetRid, text⟩

/-- The path of an event. -/
def inboxPath (epochMs sequence : ℕ) : Bytes :=
  TMS_INBOX_PATH ++ ascii "/fne-".toList ++ decimal epochMs ++ ascii ['-'] ++ decimal sequence ++
    ascii ".json".toList

/-- The file is opened, written and renamed. -/
def TmsCall.commits (call : TmsCall) : Bool :=
  call.outcome.opened ∧ call.outcome.written ∧ call.outcome.renamed

/-- Write the event of a call, unless it is a repetition. -/
def writeMotorolaTmsEvent (wuids : Wuids) (writer : TmsWriter) (call : TmsCall) :
    TmsWriter × List TmsEffect :=
  match call.event? wuids with
  | none => (writer, [.returned false])
  | some event =>
    let recentEvents := writer.recentEvents.purge call.nowSteady
    if (recentEvents.get? event.key).isSome then
      ({ writer with recentEvents := recentEvents }, [.returned true])
    else
      -- the message counts as seen from here on
      let writer : TmsWriter :=
        ⟨recentEvents.mark event.key (call.nowSteady + seconds TMS_EVENT_TTL_SECONDS),
          (writer.sequence + 1) % 2 ^ 32⟩
      if call.commits then
        (writer, [.committed (inboxPath call.epochMs writer.sequence) event.json, .returned true])
      else (writer, [.returned false])

/-! ## What is marked as seen -/

theorem TmsEvent.key_inj {a b : TmsEvent} (h : a.key = b.key) : a = b := by
  have hbar : ¬ (48 ≤ (0x7C : UInt8).toNat ∧ (0x7C : UInt8).toNat < 58) := by decide
  obtain ⟨sourceRid, targetRid, text⟩ := a
  obtain ⟨rfl, h⟩ := decimal_append_inj hbar h
  obtain ⟨rfl, rfl⟩ := decimal_append_inj hbar h
  rfl

/-- The message was seen in the last twenty seconds. -/
def Seen (writer : TmsWriter) (now : Time) (event : TmsEvent) : Prop :=
  writer.recentEvents.Live now event.key

instance (writer : TmsWriter) (now : Time) (event : TmsEvent) : Decidable (Seen writer now event) :=
  inferInstanceAs (Decidable (_ = true))

theorem isSome_purge_iff (writer : TmsWriter) (now : Time) (event : TmsEvent) :
    ((writer.recentEvents.purge now).get? event.key).isSome = true ↔ Seen writer now event := by
  unfold Seen ExpiryMap.purge
  rw [ExpiryMap.live_iff, Dict.get?_filter, Option.isSome_iff_exists]
  simp only [Option.filter_eq_some_iff, decide_eq_true_eq]

/-- The call has the message, which was not seen before. -/
def Attempts (wuids : Wuids) (writer : TmsWriter) (call : TmsCall) (event : TmsEvent) : Prop :=
  call.event? wuids = some event ∧ ¬ Seen writer call.nowSteady event

/-- Until when a message counts as seen. -/
def seenUntil (call : TmsCall) : Time := call.nowSteady + seconds TMS_EVENT_TTL_SECONDS

variable {wuids : Wuids} {writer : TmsWriter} {call : TmsCall} {event : TmsEvent} {t : Time}

/-- **The cases of a call.** -/
theorem write_cases (wuids : Wuids) (writer : TmsWriter) (call : TmsCall) :
    let r := writeMotorolaTmsEvent wuids writer call
    (call.event? wuids = none ∧ r = (writer, [.returned false])) ∨
      ∃ event, call.event? wuids = some event ∧
        ((Seen writer call.nowSteady event ∧ r.2 = [.returned true] ∧
            r.1.recentEvents = writer.recentEvents.purge call.nowSteady) ∨
          (¬ Seen writer call.nowSteady event ∧
            (r.2 = if call.commits then [.committed (inboxPath call.epochMs r.1.sequence) event.json,
              .returned true] else [.returned false]) ∧
            r.1.recentEvents =
              (writer.recentEvents.purge call.nowSteady).mark event.key (seenUntil call))) := by
  intro r
  cases he : call.event? wuids with
  | none =>
    refine Or.inl ⟨rfl, ?_⟩
    show writeMotorolaTmsEvent wuids writer call = _
    unfold writeMotorolaTmsEvent
    rw [he]
  | some event =>
    refine Or.inr ⟨event, rfl, ?_⟩
    have hr : r = writeMotorolaTmsEvent wuids writer call := rfl
    unfold writeMotorolaTmsEvent at hr
    rw [he] at hr
    dsimp only at hr
    by_cases hs : Seen writer call.nowSteady event
    · rw [if_pos ((isSome_purge_iff writer _ event).mpr hs)] at hr
      rw [hr]
      exact Or.inl ⟨hs, rfl, rfl⟩
    · rw [if_neg fun h => hs ((isSome_purge_iff writer _ event).mp h)] at hr
      rw [hr]
      refine Or.inr ⟨hs, ?_⟩
      split_ifs <;> exact ⟨rfl, rfl⟩

theorem seen_step (writer : TmsWriter) (call : TmsCall) (ht : call.nowSteady ≤ t) :
    Seen (writeMotorolaTmsEvent wuids writer call).1 t event ↔
      Seen writer t event ∨ (Attempts wuids writer call event ∧ t < seenUntil call) := by
  unfold Attempts
  rcases write_cases wuids writer call with ⟨hnone, hr⟩ | ⟨event', hsome, ⟨hs, -, hr⟩ | ⟨hs, -, hr⟩⟩
  · rw [hr, hnone]
    simp
  · have hkeep : Seen (writeMotorolaTmsEvent wuids writer call).1 t event ↔ Seen writer t event := by
      unfold Seen
      rw [hr]
      exact ExpiryMap.live_purge_iff _ ht _
    rw [hkeep, hsome]
    refine ⟨Or.inl, fun h => h.resolve_right ?_⟩
    rintro ⟨⟨he, hns⟩, -⟩
    obtain rfl := Option.some.inj he
    exact hns hs
  · unfold Seen at hs ⊢
    rw [hr, ExpiryMap.live_mark_iff, ExpiryMap.live_purge_iff _ ht, hsome, Option.some.injEq]
    by_cases he : event = event'
    · subst he
      have hold : ¬ writer.recentEvents.Live t event.key := fun h => hs (ExpiryMap.live_of_le ht h)
      simp [hold, hs]
    · have hk : event.key ≠ event'.key := fun h => he (TmsEvent.key_inj h)
      simp [hk, Ne.symm he]

/-- The readings of the steady clock never go back. -/
def Steady (calls : List TmsCall) : Prop :=
  calls.Pairwise fun call later => call.nowSteady ≤ later.nowSteady

/-- **A message counts as seen** exactly when it was attempted in the last twenty seconds. -/
theorem seen_iff {calls : List TmsCall} (ht : ∀ call ∈ calls, call.nowSteady ≤ t) :
    Seen (Run.final (writeMotorolaTmsEvent wuids) .init calls) t event ↔
      ExpiryMap.Marked (writeMotorolaTmsEvent wuids) (Attempts wuids) seenUntil .init calls t event := by
  have hinit : ¬ Seen .init t event := ExpiryMap.not_live_empty t event.key
  induction calls using List.reverseRecOn with
  | nil =>
    refine iff_of_false hinit ?_
    rintro ⟨pre, e, post, h, -⟩
    exact List.append_ne_nil_of_right_ne_nil _ (List.cons_ne_nil _ _) h.symm
  | append_singleton calls call ih =>
    have hcall := ht call (List.mem_append_right _ (List.mem_singleton_self _))
    have hbefore : Seen (Run.final (writeMotorolaTmsEvent wuids) .init calls) t event ↔
        ExpiryMap.Marked (writeMotorolaTmsEvent wuids) (Attempts wuids) seenUntil .init calls t event :=
      ih fun c hc => ht c (List.mem_append_left _ hc)
    rw [Run.final_concat, seen_step _ _ hcall, hbefore, ExpiryMap.marked_concat_iff]

/-! ## What is handled is stored -/

/-- The call commits an event with the message. -/
def Commits (wuids : Wuids) (writer : TmsWriter) (call : TmsCall) (event : TmsEvent) : Prop :=
  call.event? wuids = some event ∧
    ∃ path, .committed path event.json ∈ (writeMotorolaTmsEvent wuids writer call).2

/-- An event with the message was committed less than twenty seconds before `t`. -/
def StoredBy (wuids : Wuids) (calls : List TmsCall) (t : Time) (event : TmsEvent) : Prop :=
  ExpiryMap.Marked (writeMotorolaTmsEvent wuids) (Commits wuids) seenUntil .init calls t event

/-- The call returns true. -/
def Handled (wuids : Wuids) (writer : TmsWriter) (call : TmsCall) : Prop :=
  .returned true ∈ (writeMotorolaTmsEvent wuids writer call).2

/-- **Every call that returns true** has a message, and it was stored by this call or by an earlier one
within the duplicate window. -/
def HandledStored (wuids : Wuids) (calls : List TmsCall) : Prop :=
  ∀ pre call post, calls = pre ++ call :: post →
    Handled wuids (Run.final (writeMotorolaTmsEvent wuids) .init pre) call →
    ∃ event, call.event? wuids = some event ∧
      StoredBy wuids (pre ++ [call]) call.nowSteady event

/-- A message whose file failed comes again within the duplicate window. -/
def RepeatsFailed (wuids : Wuids) (calls : List TmsCall) : Prop :=
  ∃ pre call mid again post event, calls = pre ++ call :: (mid ++ again :: post) ∧
    Attempts wuids (Run.final (writeMotorolaTmsEvent wuids) .init pre) call event ∧
    call.commits = false ∧ again.event? wuids = some event ∧ again.nowSteady < seenUntil call

theorem commits_iff : Commits wuids writer call event ↔
    Attempts wuids writer call event ∧ call.commits = true := by
  unfold Commits Attempts
  rcases write_cases wuids writer call with ⟨hnone, -⟩ | ⟨event', hsome, ⟨hs, hr, -⟩ | ⟨hs, hr, -⟩⟩
  · simp [hnone]
  · rw [hr, hsome]
    refine iff_of_false (by simp) ?_
    rintro ⟨⟨he, hns⟩, -⟩
    obtain rfl := Option.some.inj he
    exact hns hs
  · rw [hr, hsome, Option.some.injEq]
    by_cases he : event' = event
    · subst he
      cases call.commits <;> simp [hs]
    · simp [he]

/-- A call returns true when its message was seen, and when it commits it. -/
theorem handled_iff : Handled wuids writer call ↔ ∃ event, call.event? wuids = some event ∧
    (Seen writer call.nowSteady event ∨ Commits wuids writer call event) := by
  unfold Handled
  simp only [commits_iff, Attempts]
  rcases write_cases wuids writer call with ⟨hnone, hr⟩ | ⟨event', hsome, ⟨hs, hr, -⟩ | ⟨hs, hr, -⟩⟩
  · simp [hr, hnone]
  · rw [hr]
    exact iff_of_true (List.mem_singleton_self _) ⟨event', hsome, Or.inl hs⟩
  · rw [hr]
    cases hc : call.commits with
    | true => simp [hsome, hs]
    | false => simp [hsome, hs]

theorem Steady.le_of_split {pre post : List TmsCall} {call : TmsCall}
    (h : Steady (pre ++ call :: post)) : ∀ c ∈ pre, c.nowSteady ≤ call.nowSteady :=
  fun c hc => (List.pairwise_append.mp h).2.2 c hc call List.mem_cons_self

/-- **What is handled is stored** exactly in the runs in which no message whose file failed comes again
within the duplicate window. -/
theorem handledStored_iff (wuids : Wuids) (calls : List TmsCall) (hsteady : Steady calls) :
    HandledStored wuids calls ↔ ¬ RepeatsFailed wuids calls := by
  constructor
  · rintro h ⟨pre, call, mid, again, post, event, rfl, ⟨he, hns⟩, hf, hagain, hlt⟩
    have hsplit : pre ++ call :: (mid ++ again :: post) = (pre ++ call :: mid) ++ again :: post := by
      rw [List.append_assoc, List.cons_append]
    rw [hsplit] at hsteady
    have hpast := hsteady.le_of_split
    have hseen : Seen (Run.final (writeMotorolaTmsEvent wuids) .init (pre ++ call :: mid))
        again.nowSteady event :=
      (seen_iff hpast).mpr ⟨pre, call, mid, rfl, ⟨he, hns⟩, hlt⟩
    obtain ⟨event', he', pre', c, post', hsame, hcommits, hlt'⟩ :=
      h (pre ++ call :: mid) again post hsplit (handled_iff.mpr ⟨event, hagain, Or.inl hseen⟩)
    obtain rfl := Option.some.inj (hagain.symm.trans he')
    obtain ⟨⟨hce, hcns⟩, hcc⟩ := commits_iff.mp hcommits
    have hsteady' : Steady (pre ++ call :: mid) := (List.pairwise_append.mp hsteady).1
    have hupto : Steady ((pre ++ call :: mid) ++ [again]) :=
      hsteady.sublist (List.Sublist.append_left (List.cons_sublist_cons.mpr (List.nil_sublist _)) _)
    rw [hsame] at hupto
    have hc : c.nowSteady ≤ again.nowSteady := by
      rcases List.mem_append.mp (hsame ▸ List.mem_append_right pre' List.mem_cons_self) with hm | hm
      · exact hpast c hm
      · rw [List.mem_singleton.mp hm]
    rw [List.append_assoc, List.cons_append] at hsame
    -- the call that stored the message was made before the failed one, or is it, or was made after it
    rcases Run.split_cases hsame with ⟨rest, rfl⟩ | ⟨rfl, rfl⟩ | ⟨rest, rfl⟩
    · refine hns ((seen_iff hsteady'.le_of_split).mpr ⟨pre', c, rest, rfl, ⟨hce, hcns⟩, ?_⟩)
      exact Nat.lt_of_le_of_lt (hpast call (by simp)) hlt'
    · exact Bool.false_ne_true (hf.symm.trans hcc)
    · refine hcns ((seen_iff hupto.le_of_split).mpr ⟨pre, call, rest, rfl, ⟨he, hns⟩, ?_⟩)
      exact Nat.lt_of_le_of_lt hc hlt
  · rintro hno pre call post rfl hhandled
    obtain ⟨event, he, hseen | hc⟩ := handled_iff.mp hhandled
    · obtain ⟨pre', e, mid, rfl, hattempts, hlt⟩ := (seen_iff hsteady.le_of_split).mp hseen
      have hcommits : e.commits = true := by
        by_contra hf
        refine hno ⟨pre', e, mid, call, post, event, ?_, hattempts, Bool.eq_false_of_not_eq_true hf, he,
          hlt⟩
        rw [List.append_assoc, List.cons_append]
      refine ⟨event, he, pre', e, mid ++ [call], ?_, commits_iff.mpr ⟨hattempts, hcommits⟩, hlt⟩
      rw [List.append_assoc, List.cons_append]
    · exact ⟨event, he, pre, call, [], rfl, hc, Nat.lt_add_of_pos_right (by decide)⟩

/-- A packet of version 4 over UDP to 10.0.0.9, with the text "hi". -/
def samplePacket : Bytes :=
  [0x45, 0, 0, 34, 0, 0, 0, 0, 64, 0x11, 0, 0, 10, 0, 0, 7, 10, 0, 0, 9] ++ List.replicate 8 0 ++
    [0x80, 0x04, 0x68, 0, 0x69, 0]

/-- The numbers of the services of a system. -/
def sampleWuids : Wuids := ⟨0xFFFFFC, 0xFFFFFF⟩

/-- The radio 7 sends its message, at a second of the steady clock. -/
def sampleCall (n : ℕ) (renamed : Bool) : TmsCall :=
  ⟨samplePacket, 7, 9, seconds n, 1000 * n, true, true, renamed⟩

/-- The first message fails and comes again after thirty seconds, and once more. -/
theorem handledStored_repetition : HandledStored sampleWuids
    [sampleCall 0 false, sampleCall 30 true, sampleCall 40 true] := by
  refine (handledStored_iff sampleWuids [sampleCall 0 false, sampleCall 30 true, sampleCall 40 true]
    (by unfold Steady; decide)).mpr ?_
  rintro ⟨pre, call, mid, again, post, event, hsplit, -, hf, -, hlt⟩
  have hlate : [sampleCall 0 false, sampleCall 30 true, sampleCall 40 true].Pairwise
      fun call later => call.commits = false → seenUntil call ≤ later.nowSteady := by decide
  rw [hsplit] at hlate
  have hagain := (List.pairwise_cons.mp (List.pairwise_append.mp hlate).2.1).1 again (by simp) hf
  exact absurd hagain (Nat.not_le.mpr hlt)

/-- The file of the message cannot be renamed. Ten seconds later the message counts as handled. -/
theorem not_handledStored_unrenamed :
    ¬ ∀ wuids calls, Steady calls → HandledStored wuids calls := by
  intro h
  have hstored := h sampleWuids [sampleCall 0 false, sampleCall 10 true] (by unfold Steady; decide)
    [sampleCall 0 false] (sampleCall 10 true) [] rfl
    (show _ ∈ _ by decide +kernel)
  obtain ⟨event, -, pre, c, post, hsplit, ⟨-, path, hm⟩, -⟩ := hstored
  have hnone : ∀ effects : List TmsEffect, (effects = [.returned false] ∨ effects = [.returned true]) →
      .committed path event.json ∉ effects := by
    rintro effects (rfl | rfl) <;> simp
  cases pre with
  | nil =>
    obtain ⟨rfl, -⟩ := List.cons.inj hsplit
    exact hnone _ (Or.inl (by decide +kernel)) hm
  | cons first pre =>
    obtain ⟨rfl, hrest⟩ := List.cons.inj hsplit
    cases pre with
    | nil =>
      obtain ⟨rfl, -⟩ := List.cons.inj hrest
      exact hnone _ (Or.inr (by decide +kernel)) hm
    | cons second pre =>
      exact List.append_ne_nil_of_right_ne_nil pre (List.cons_ne_nil c post)
        (List.cons.inj hrest).2.symm

end P25.Fne
