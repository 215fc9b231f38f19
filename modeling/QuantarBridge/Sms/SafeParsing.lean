import QuantarBridge.Sms.CheckedParsing
import QuantarBridge.Sms.Units

/-!
# Inbound parsing is safe

No read is behind the end, and nothing that is called throws: the checked parsers return what the parsers
return.

* `longestLoop_eq`, `fragmentLoop_eq`, `findLineBreak_eq`, `decodeLoop_eq`, `findMarker_eq`,
  `digitsLoop_eq`, `lrrpLoop_eq`: one lemma for each loop;
* `parsing_safe`: **no parser has a fault on any input**.
-/

set_option autoImplicit false

namespace Sms.Checked

open Lib PacketData

/-! ## What may throw -/

theorem toUtf8_of_printable {units : List ℕ} (h : ∀ unit ∈ units, isPrintableUtf16 unit = true) :
    toUtf8 units = .ok (toBytes units) := by
  refine if_neg ?_
  rintro ⟨unit, hmem, hsurrogate⟩
  have := isPrintable_iff.mp (h unit hmem)
  omega

theorem stoul_seven {digits : Bytes} (h : ∀ c ∈ digits, 0x30 ≤ c ∧ c ≤ 0x39)
    (hlength : 7 ≤ digits.length) :
    stoul (digits.take 7) = .ok (digitsValue ((digits.take 7).map fun c => c.toNat - 0x30)) := by
  have hseven : (digits.take 7).length = 7 := by
    rw [List.length_take]
    omega
  have hdigits : ∀ c ∈ digits.take 7, 0x30 ≤ c ∧ c ≤ 0x39 := fun c hc => h c (List.mem_of_mem_take hc)
  have hvalue : digitsValue ((digits.take 7).map fun c => c.toNat - 0x30) < 10 ^ 7 := by
    have hlt := digitsValue_lt (l := (digits.take 7).map fun c => c.toNat - 0x30) (by
      intro d hd
      obtain ⟨c, hc, rfl⟩ := List.mem_map.mp hd
      have hmax := UInt8.le_iff_toNat_le.mp (hdigits c hc).2
      have : c.toNat ≤ 57 := hmax
      omega)
    rwa [List.length_map, hseven] at hlt
  unfold stoul
  dsimp only
  refine if_neg ?_
  rintro (hnil | ⟨c, hc, hnot⟩ | hlarge)
  · rw [hnil] at hseven
    cases hseven
  · exact hnot (hdigits c hc)
  · omega

/-! ## Text messages -/

section Loops

variable {data : Bytes}

theorem unitAt_of_drop {a b : UInt8} {rest : Bytes} {i : ℕ} (h : data.drop i = a :: b :: rest) :
    unitAt data i = .ok (a.toNat + b.toNat * 256) := by
  have hlow : read data i = .ok a := read_head h
  have hhigh : read data (i + 1) = .ok b := read_of_drop (by rw [h]; rfl)
  unfold unitAt
  rw [hlow, hhigh]
  rfl

theorem longestLoop_eq : ∀ {rest : Bytes} {i : ℕ} {current best : List ℕ}, data.drop i = rest →
    longestLoop data i current best = .ok (longestRun (unitsLe rest) current best)
  | [], i, current, best, h => by
    have hlength := List.drop_eq_nil_iff.mp h
    rw [longestLoop, if_neg (by omega)]
    rfl
  | [a], i, current, best, h => by
    have hlength := length_of_drop h
    rw [longestLoop, if_neg (by rw [List.length_nil] at hlength; omega)]
    rfl
  | a :: b :: rest, i, current, best, h => by
    have hlength := length_of_drop h
    have hnext : data.drop (i + 2) = rest := drop_add_of_drop h 2
    rw [longestLoop, if_pos (by rw [List.length_cons] at hlength; omega), unitAt_of_drop h]
    show (if a.toNat + b.toNat * 256 = 0 then _ else if _ then _ else _) = _
    rw [longestLoop_eq hnext, longestLoop_eq hnext, unitsLe, longestRun]
    split_ifs <;> rfl

theorem printable_longestRun (units : List ℕ) : ∀ {current best : List ℕ},
    (∀ unit ∈ current, isPrintableUtf16 unit = true) → (∀ unit ∈ best, isPrintableUtf16 unit = true) →
      ∀ unit ∈ longestRun units current best, isPrintableUtf16 unit = true := by
  have hlonger : ∀ {current best : List ℕ}, (∀ unit ∈ current, isPrintableUtf16 unit = true) →
      (∀ unit ∈ best, isPrintableUtf16 unit = true) →
        ∀ unit ∈ longer best current, isPrintableUtf16 unit = true := by
    intro current best hcurrent hbest
    unfold longer
    split_ifs
    · exact hcurrent
    · exact hbest
  induction units with
  | nil => exact fun hcurrent hbest => hlonger hcurrent hbest
  | cons unit units ih =>
    intro current best hcurrent hbest
    rw [longestRun]
    split_ifs with hzero hprintable
    · exact ih (fun _ hmem => nomatch hmem) (hlonger hcurrent hbest)
    · refine ih ?_ hbest
      rw [List.forall_mem_append]
      exact ⟨hcurrent, List.forall_mem_singleton.mpr hprintable⟩
    · exact ih (fun _ hmem => nomatch hmem) (hlonger hcurrent hbest)

theorem extractText_eq (data : Bytes) : extractText data = .ok (Sms.extractText data) := by
  have hrun : ∀ unit ∈ longestRun (unitsLe data) [] [], isPrintableUtf16 unit = true :=
    printable_longestRun _ (fun _ hmem => nomatch hmem) (fun _ hmem => nomatch hmem)
  have hloop : longestLoop data 0 [] [] = .ok (longestRun (unitsLe data) [] []) := longestLoop_eq rfl
  unfold extractText Sms.extractText
  split_ifs with hshort
  · rfl
  · rw [hloop]
    show (if _ then _ else _) = _
    rw [toUtf8_of_printable hrun]
    dsimp only
    split_ifs
    · rfl
    · rfl

theorem fragmentLoop_eq : ∀ {rest : Bytes} {i : ℕ} {out : Bytes}, data.drop i = rest →
    fragmentLoop data i out = .ok (out ++ textFragment rest)
  | [], i, out, h => by
    have hlength := List.drop_eq_nil_iff.mp h
    rw [fragmentLoop, if_neg (by omega), textFragment, List.append_nil]
    rfl
  | [a], i, out, h => by
    have hlength := length_of_drop h
    rw [List.length_nil] at hlength
    have hone : decide (i + 1 < data.length) = false := decide_eq_false (by omega)
    have hhead : ∀ p, test data i p = .ok (p a) := test_head h
    rw [fragmentLoop, if_pos (by omega), textFragment]
    simp only [hone, hhead, read_head h, andM_false, ok_bind, pure_eq_ok, Bool.false_eq_true, if_false]
    split_ifs
    · rfl
    · rw [List.append_nil]
  | [a, b], i, out, h => by
    have hlength := length_of_drop h
    rw [List.length_singleton] at hlength
    have hone : decide (i + 1 < data.length) = true := decide_eq_true (by omega)
    have htwo : decide (i + 2 < data.length) = false := decide_eq_false (by omega)
    have hhead : ∀ p, test data i p = .ok (p a) := test_head h
    have hsecond : ∀ p, test data (i + 1) p = .ok (p b) := test_of_drop (by rw [h]; rfl)
    have hnext : data.drop (i + 2) = [] := drop_add_of_drop h 2
    have hrest : ∀ out, fragmentLoop data (i + 2) out = .ok (out ++ textFragment []) :=
      fun out => fragmentLoop_eq hnext
    rw [fragmentLoop, if_pos (by omega), textFragment]
    simp only [hone, htwo, hhead, read_head h, hsecond, hrest, andM_ok, andM_false, ok_bind, pure_eq_ok,
      Bool.and_false, Bool.true_and, Bool.false_eq_true, if_false, Bool.and_eq_true, decide_eq_true_iff]
    split_ifs
    · rw [textFragment, List.append_nil]
    · rfl
    · rw [List.append_nil]
  | a :: b :: c :: rest, i, out, h => by
    have hlength := length_of_drop h
    rw [List.length_cons, List.length_cons] at hlength
    have hone : decide (i + 1 < data.length) = true := decide_eq_true (by omega)
    have htwo : decide (i + 2 < data.length) = true := decide_eq_true (by omega)
    have hhead : ∀ p, test data i p = .ok (p a) := test_head h
    have hsecond : ∀ p, test data (i + 1) p = .ok (p b) := test_of_drop (by rw [h]; rfl)
    have hthird : ∀ p, test data (i + 2) p = .ok (p c) := test_of_drop (by rw [h]; rfl)
    have hread : Lib.read data (i + 1) = .ok b := read_of_drop (by rw [h]; rfl)
    have htwice : ∀ out, fragmentLoop data (i + 2) out = .ok (out ++ textFragment (c :: rest)) :=
      fun out => fragmentLoop_eq (drop_add_of_drop h 2)
    have hthrice : ∀ out, fragmentLoop data (i + 3) out = .ok (out ++ textFragment rest) :=
      fun out => fragmentLoop_eq (drop_add_of_drop h 3)
    rw [fragmentLoop, if_pos (by omega), textFragment]
    simp only [hone, htwo, hhead, read_head h, hsecond, hthird, hread, htwice, hthrice, andM_ok, ok_bind,
      pure_eq_ok, Bool.true_and, Bool.and_eq_true, decide_eq_true_iff, List.append_assoc,
      List.singleton_append]
    split_ifs
    · rfl
    · rfl
    · rfl
    · rw [List.append_nil]

theorem extractTmsTextFragment_eq (data : Bytes) (markerOffset : ℕ) :
    extractTmsTextFragment data markerOffset = .ok (Sms.extractTmsTextFragment data markerOffset) := by
  unfold extractTmsTextFragment Sms.extractTmsTextFragment
  rw [fragmentLoop_eq rfl]
  rfl

theorem findLineBreak_eq : ∀ {rest : Bytes} {i : ℕ}, data.drop i = rest →
    ∃ found, findLineBreak data i = .ok found ∧ found.map data.drop = afterLineBreak rest
  | [], i, h => by
    have hlength := List.drop_eq_nil_iff.mp h
    exact ⟨none, by rw [findLineBreak, if_neg (by omega)]; rfl, rfl⟩
  | [a], i, h => by
    have hlength := length_of_drop h
    rw [List.length_nil] at hlength
    exact ⟨none, by rw [findLineBreak, if_neg (by omega)]; rfl, rfl⟩
  | [a, b], i, h => by
    have hlength := length_of_drop h
    rw [List.length_singleton] at hlength
    exact ⟨none, by rw [findLineBreak, if_neg (by omega)]; rfl, rfl⟩
  | [a, b, c], i, h => by
    have hlength := length_of_drop h
    rw [List.length_cons, List.length_singleton] at hlength
    exact ⟨none, by rw [findLineBreak, if_neg (by omega)]; rfl, rfl⟩
  | a :: b :: c :: d :: rest, i, h => by
    have hlength := length_of_drop h
    simp only [List.length_cons] at hlength
    have hfirst : ∀ p, test data i p = .ok (p a) := test_head h
    have hsecond : ∀ p, test data (i + 1) p = .ok (p b) := test_of_drop (by rw [h]; rfl)
    have hthird : ∀ p, test data (i + 2) p = .ok (p c) := test_of_drop (by rw [h]; rfl)
    have hfourth : ∀ p, test data (i + 3) p = .ok (p d) := test_of_drop (by rw [h]; rfl)
    obtain ⟨found, hloop, hfound⟩ := findLineBreak_eq (drop_add_of_drop h 2)
    rw [findLineBreak, if_pos (by omega), afterLineBreak]
    simp only [hfirst, hsecond, hthird, hfourth, andM_ok, ok_bind, pure_eq_ok, Bool.and_eq_true,
      decide_eq_true_iff]
    split_ifs
    · exact ⟨some (i + 4), rfl, congrArg some (drop_add_of_drop h 4)⟩
    · exact ⟨found, hloop, hfound⟩

theorem decodeLoop_eq : ∀ {rest : Bytes} {i : ℕ} {decoded : List ℕ}, data.drop i = rest →
    decodeLoop data i decoded = .ok ((decodeUnits (unitsLe rest)).map (decoded ++ ·))
  | [], i, decoded, h => by
    have hlength := List.drop_eq_nil_iff.mp h
    rw [decodeLoop, if_neg (by omega)]
    show _ = Except.ok (some (decoded ++ []))
    rw [List.append_nil]
    rfl
  | [a], i, decoded, h => by
    have hlength := length_of_drop h
    rw [List.length_nil] at hlength
    rw [decodeLoop, if_neg (by omega)]
    show _ = Except.ok (some (decoded ++ []))
    rw [List.append_nil]
    rfl
  | a :: b :: rest, i, decoded, h => by
    have hlength := length_of_drop h
    have hnext : data.drop (i + 2) = rest := drop_add_of_drop h 2
    rw [List.length_cons] at hlength
    rw [decodeLoop, if_pos (by omega), unitAt_of_drop h, ok_bind, unitsLe, decodeUnits]
    split_ifs
    · rw [Option.map_some, List.append_nil]
      rfl
    · rw [decodeLoop_eq hnext, Option.map_map]
      congr 2
      funext units
      rw [Function.comp_apply, List.append_assoc]
      rfl
    · rfl

theorem printable_decodeUnits {units decoded : List ℕ} (h : decodeUnits units = some decoded) :
    ∀ unit ∈ decoded, isPrintableUtf16 unit = true := by
  induction units generalizing decoded with
  | nil =>
    rw [← Option.some.inj h]
    exact fun _ hmem => nomatch hmem
  | cons unit units ih =>
    rw [decodeUnits] at h
    split_ifs at h with hzero hprintable
    · rw [← Option.some.inj h]
      exact fun _ hmem => nomatch hmem
    · obtain ⟨others, hothers, rfl⟩ := Option.map_eq_some_iff.mp h
      exact List.forall_mem_cons.mpr ⟨hprintable, ih hothers⟩

theorem parseServerText_eq {rest : Bytes} {textOffset : ℕ} (hlength : 12 ≤ data.length)
    (h : data.drop textOffset = rest) :
    parseServerText data textOffset = .ok (Sms.parseServerText data rest) := by
  have hprintable : ∀ decoded, decodeUnits (unitsLe rest) = some decoded →
      ∀ unit ∈ decoded, isPrintableUtf16 unit = true := fun _ => printable_decodeUnits
  unfold parseServerText Sms.parseServerText
  rw [decodeLoop_eq h, ok_bind]
  cases hdecode : decodeUnits (unitsLe rest) with
  | none => rfl
  | some decoded =>
    cases decoded with
    | nil => rfl
    | cons unit decoded =>
      rw [Option.map_some, List.nil_append]
      dsimp only
      rw [read_of_lt (show 2 < data.length by omega) 0, read_of_lt (show 4 < data.length by omega) 0,
        toUtf8_of_printable (hprintable _ hdecode)]
      simp only [ok_bind]
      split_ifs
      · rfl
      · rfl

theorem findMarker_eq {n : ℕ} : ∀ {i : ℕ}, data.length - 1 - i = n →
    findMarker data i = .ok ((List.range' i n).find? fun i =>
      data.getD i 0 = 0x80 ∧ data.getD (i + 1) 0 = 0x04) := by
  induction n with
  | zero =>
    intro i hn
    rw [findMarker, if_neg (by omega)]
    rfl
  | succ n ih =>
    intro i hn
    have hfirst : ∀ p, test data i p = .ok (p (data.getD i 0)) := test_of_lt (by omega) 0
    have hsecond : ∀ p, test data (i + 1) p = .ok (p (data.getD (i + 1) 0)) := test_of_lt (by omega) 0
    rw [findMarker, if_pos (by omega), List.range'_succ, List.find?_cons]
    simp only [hfirst, hsecond, andM_ok, ok_bind, Bool.and_eq_true, decide_eq_true_iff]
    split_ifs with hmarker
    · rw [decide_eq_true hmarker]
      rfl
    · rw [decide_eq_false hmarker, ih (by omega)]

theorem digitsLoop_eq {markerOffset : ℕ} {tail : Bytes} : ∀ {rest : Bytes} {i : ℕ} {digits : Bytes},
    data.drop i = rest ++ tail → i + rest.length = markerOffset →
      digitsLoop data markerOffset i digits = .ok (digits ++ wideDigits rest)
  | [], i, digits, _, hmarker => by
    rw [List.length_nil] at hmarker
    rw [digitsLoop, if_neg (by omega), wideDigits, List.append_nil]
    · rfl
    · exact fun _ _ _ h => nomatch h
  | [a], i, digits, _, hmarker => by
    rw [List.length_singleton] at hmarker
    rw [digitsLoop, if_neg (by omega), wideDigits, List.append_nil]
    · rfl
    · exact fun _ _ _ h => nomatch h
  | a :: b :: rest, i, digits, h, hmarker => by
    simp only [List.length_cons] at hmarker
    have hfirst : ∀ p, test data i p = .ok (p a) := test_head h
    have hread : Lib.read data i = .ok a := read_head h
    have hsecond : ∀ p, test data (i + 1) p = .ok (p b) := test_of_drop (by rw [h]; rfl)
    have hnext : data.drop (i + 2) = rest ++ tail := drop_add_of_drop h 2
    have hloop : ∀ digits, digitsLoop data markerOffset (i + 2) digits =
        .ok (digits ++ wideDigits rest) := fun digits => digitsLoop_eq hnext (by omega)
    rw [digitsLoop, if_pos (by omega), wideDigits]
    simp only [hfirst, hsecond, hread, hloop, andM_ok, ok_bind, Bool.and_eq_true, decide_eq_true_iff]
    split_ifs
    · rw [List.append_assoc]
      rfl
    · rfl

theorem isDigit_wideDigits : ∀ (l : Bytes), ∀ c ∈ wideDigits l, 0x30 ≤ c ∧ c ≤ 0x39
  | [], _, hc => nomatch hc
  | [_], _, hc => nomatch hc
  | a :: b :: rest, c, hc => by
    have ih := isDigit_wideDigits rest
    rw [wideDigits] at hc
    split_ifs at hc with hdigit
    · rcases List.mem_cons.mp hc with rfl | hc
      · exact hdigit.2
      · exact ih c hc
    · exact ih c hc

theorem parseMarked_eq (hlength : 12 ≤ data.length) :
    parseMarked data = .ok (Sms.parseMarked data) := by
  have hfind : findMarker data 0 = .ok (markerOffset data) := by
    unfold markerOffset
    rw [findMarker_eq rfl, List.range_eq_range', Nat.sub_zero]
  unfold parseMarked Sms.parseMarked
  rw [hfind, ok_bind]
  cases hmarker : markerOffset data with
  | none => rfl
  | some i =>
    have hi : i < data.length := by
      have hmem := List.mem_range.mp (List.mem_of_find?_eq_some hmarker)
      omega
    have hdigits : digitsLoop data i 0 [] = .ok (wideDigits (data.take i)) :=
      digitsLoop_eq (show data.drop 0 = data.take i ++ data.drop i from
        (List.take_append_drop i data).symm) (by rw [List.length_take]; omega)
    dsimp only
    rw [read_of_lt (show 2 < data.length by omega) 0, read_of_lt hi 0, extractTmsTextFragment_eq]
    simp only [ok_bind]
    rw [hdigits, ok_bind, Option.map_some, markedSource]
    split_ifs with hseven
    · rw [stoul_seven (isDigit_wideDigits _) hseven]
      rfl
    · rfl

/-- **A text message.** -/
theorem parseMotorolaTms_eq (data : Bytes) :
    parseMotorolaTms data = .ok (Sms.parseMotorolaTms data) := by
  unfold parseMotorolaTms Sms.parseMotorolaTms
  split_ifs with hshort hoperation
  · rfl
  · have htest : ∀ p, test data 2 p = .ok (p (data.getD 2 0)) := test_of_lt (by omega) 0
    obtain ⟨found, hloop, hfound⟩ := findLineBreak_eq (show data.drop 4 = _ from rfl)
    rw [htest, ok_bind, if_pos (decide_eq_true hoperation), hloop, ok_bind, ← hfound]
    cases found with
    | none => exact parseMarked_eq (by omega)
    | some textOffset => exact parseServerText_eq (by omega) rfl
  · have htest : ∀ p, test data 2 p = .ok (p (data.getD 2 0)) := test_of_lt (by omega) 0
    rw [htest, ok_bind, if_neg (by rw [decide_eq_true_iff]; exact hoperation)]
    exact parseMarked_eq (by omega)

end Loops

/-! ## Location reports -/

section Report

variable {lrrp : Bytes} {reportLength : ℕ}

theorem uint16At_of_lt {data : Bytes} {i : ℕ} (h : i + 1 < data.length) :
    uint16At data i = .ok (readUint16 data i) := by
  unfold uint16At
  rw [read_of_lt (show i < data.length by omega) 0, read_of_lt h 0]
  rfl

/-- What is left of a report. -/
def left (lrrp : Bytes) (reportLength offset : ℕ) : Bytes := (lrrp.take reportLength).drop offset

theorem length_left (hfits : reportLength ≤ lrrp.length) (offset : ℕ) :
    (left lrrp reportLength offset).length = reportLength - offset := by
  unfold left
  rw [List.length_drop, List.length_take]
  omega

theorem drop_left (offset k : ℕ) :
    (left lrrp reportLength offset).drop k = left lrrp reportLength (offset + k) := List.drop_drop

theorem left_cons (hfits : reportLength ≤ lrrp.length) {offset : ℕ} (h : offset < reportLength) :
    left lrrp reportLength offset = lrrp.getD offset 0 :: left lrrp reportLength (offset + 1) := by
  have hlt : offset < (lrrp.take reportLength).length := by
    rw [List.length_take]
    omega
  unfold left
  rw [List.drop_eq_getElem_cons hlt, List.getElem_take, List.getD_eq_getElem _ _ (by omega)]

theorem left_nil (hfits : reportLength ≤ lrrp.length) {offset : ℕ} (h : ¬ offset < reportLength) :
    left lrrp reportLength offset = [] := by
  have hlength := length_left hfits offset
  exact List.length_eq_zero_iff.mp (by omega)

theorem skipMotorolaVlq_eq (hfits : reportLength ≤ lrrp.length) : ∀ (count offset : ℕ),
    ∃ found, skipMotorolaVlq lrrp reportLength count offset = .ok found ∧
      found.map (fun next => left lrrp reportLength next.1) =
        Sms.skipMotorolaVlq count (left lrrp reportLength offset)
  | 0, offset => ⟨none, rfl, rfl⟩
  | count + 1, offset => by
    by_cases hlt : offset < reportLength
    · have htest : ∀ p, test lrrp offset p = .ok (p (lrrp.getD offset 0)) :=
        test_of_lt (by omega) 0
      obtain ⟨found, hloop, hfound⟩ := skipMotorolaVlq_eq hfits count (offset + 1)
      rw [skipMotorolaVlq, if_pos hlt, left_cons hfits hlt, Sms.skipMotorolaVlq]
      simp only [htest, ok_bind, decide_eq_true_iff]
      split_ifs with hlast
      · exact ⟨_, rfl, rfl⟩
      · rw [hloop, ← hfound, ok_bind]
        cases found with
        | none => exact ⟨none, rfl, rfl⟩
        | some next => exact ⟨some ⟨next.1, Nat.lt_of_succ_lt next.2⟩, rfl, rfl⟩
    · rw [skipMotorolaVlq, if_neg hlt, left_nil hfits hlt]
      exact ⟨none, rfl, rfl⟩

theorem lrrpLoop_eq (hfits : reportLength ≤ lrrp.length) : ∀ {fuel offset : ℕ},
    reportLength - offset ≤ fuel → lrrpLoop lrrp reportLength offset =
      .ok (hasLrrpPosition fuel (left lrrp reportLength offset))
  | 0, offset, hfuel => by
    rw [lrrpLoop, if_neg (by omega)]
    rfl
  | fuel + 1, offset, hfuel => by
    by_cases hlt : offset < reportLength
    · have hread := read_of_lt (show offset < lrrp.length by omega) 0
      have hlength := length_left hfits offset
      have hfield : ∀ k, 0 < k → (do hasLrrpPosition fuel (← skipField k (left lrrp reportLength offset))) =
          if reportLength < offset + k then none
          else hasLrrpPosition fuel (left lrrp reportLength (offset + k)) := by
        intro k _
        have hshort : (left lrrp reportLength offset).length < k ↔ reportLength < offset + k := by
          omega
        unfold skipField
        simp only [hshort, drop_left]
        split_ifs <;> rfl
      have hnext : ∀ k, 0 < k → lrrpLoop lrrp reportLength (offset + k) =
          .ok (hasLrrpPosition fuel (left lrrp reportLength (offset + k))) :=
        fun k hk => lrrpLoop_eq hfits (by omega)
      rw [lrrpLoop, if_pos hlt, hread, ok_bind, left_cons hfits hlt, hasLrrpPosition,
        ← left_cons hfits hlt]
      generalize lrrp.getD offset 0 = tag
      by_cases htime : tag = 0x34
      · rw [if_pos htime, if_pos htime, hfield 6 (by omega), hnext 6 (by omega)]
        split_ifs <;> rfl
      by_cases hnumber : tag = 0x37
      · obtain ⟨found, hskip, hfound⟩ := skipMotorolaVlq_eq hfits 5 (offset + 1)
        rw [if_neg htime, if_neg htime, if_pos hnumber, if_pos hnumber, hskip, ok_bind, ← hfound]
        cases found with
        | none => rfl
        | some next =>
          have := next.2
          exact lrrpLoop_eq hfits (by omega)
      by_cases hposition : tag = 0x51 ∨ tag = 0x55 ∨ tag = 0x66 ∨ tag = 0x69
      · have hshort : (left lrrp reportLength offset).length < 9 ↔ reportLength < offset + 9 := by
          omega
        rw [if_neg htime, if_neg htime, if_neg hnumber, if_neg hnumber, if_pos hposition,
          if_pos hposition]
        simp only [hshort]
        split_ifs <;> rfl
      by_cases hspeed : tag = 0x56
      · rw [if_neg htime, if_neg htime, if_neg hnumber, if_neg hnumber, if_neg hposition,
          if_neg hposition, if_pos hspeed, if_pos hspeed, hfield 2 (by omega), hnext 2 (by omega)]
        split_ifs <;> rfl
      rw [if_neg htime, if_neg htime, if_neg hnumber, if_neg hnumber, if_neg hposition,
        if_neg hposition, if_neg hspeed, if_neg hspeed]
      by_cases hpair : tag = 0x6C
      · obtain ⟨found, hskip, hfound⟩ := skipMotorolaVlq_eq hfits 5 (offset + 1)
        rw [if_pos hpair, if_pos hpair, hskip, ok_bind, ← hfound]
        cases found with
        | none => rfl
        | some next =>
          obtain ⟨found', hskip', hfound'⟩ := skipMotorolaVlq_eq hfits 5 next.1
          dsimp only
          rw [hskip', ok_bind, Option.map_some, Option.bind_eq_bind, Option.bind_some, ← hfound']
          cases found' with
          | none => rfl
          | some last =>
            have := next.2
            have := last.2
            exact lrrpLoop_eq hfits (by omega)
      · rw [if_neg hpair, if_neg hpair]
        rfl
    · rw [lrrpLoop, if_neg hlt, left_nil hfits hlt]
      rfl

theorem skipRequestId_eq (hfits : reportLength ≤ lrrp.length) (htwo : 2 ≤ reportLength) :
    ∃ found, skipRequestId lrrp reportLength = .ok found ∧
      found.map (left lrrp reportLength) = lrrpFields (left lrrp reportLength 2) := by
  unfold skipRequestId
  by_cases hfour : 2 + 2 ≤ reportLength
  · have htag : ∀ p, test lrrp 2 p = .ok (p (lrrp.getD 2 0)) := test_of_lt (by omega) 0
    have hread : Lib.read lrrp 3 = .ok (lrrp.getD 3 0) := read_of_lt (by omega) 0
    have hshort : (left lrrp reportLength 4).length < (lrrp.getD 3 0).toNat ↔
        reportLength < 2 + 2 + (lrrp.getD 3 0).toNat := by
      rw [length_left hfits]
      omega
    rw [left_cons hfits (show 2 < reportLength by omega), left_cons hfits (show 3 < reportLength by omega),
      lrrpFields]
    simp only [decide_eq_true hfour, htag, hread, andM_ok, ok_bind, Bool.true_and, decide_eq_true_iff,
      skipField, hshort]
    split_ifs
    · exact ⟨none, rfl, rfl⟩
    · refine ⟨_, rfl, ?_⟩
      rw [drop_left, Option.map_some, ← Nat.add_assoc]
    · refine ⟨_, rfl, ?_⟩
      rw [Option.map_some, left_cons hfits (show 2 < reportLength by omega),
        left_cons hfits (show 3 < reportLength by omega)]
  · have hfields : lrrpFields (left lrrp reportLength 2) = some (left lrrp reportLength 2) := by
      have hlength := length_left hfits 2
      match hleft : left lrrp reportLength 2 with
      | [] => rfl
      | [_] => rfl
      | _ :: _ :: _ =>
        rw [hleft] at hlength
        simp only [List.length_cons] at hlength
        omega
    rw [decide_eq_false hfour, andM_false, ok_bind, hfields]
    exact ⟨_, rfl, rfl⟩

theorem readReport_eq (htwo : 2 ≤ lrrp.length) : readReport lrrp =
    .ok (if (lrrp.getD 0 0 &&& 0x7F ≠ 0x07 ∧ lrrp.getD 0 0 &&& 0x7F ≠ 0x0D) ∨
        lrrp.length < (lrrp.getD 1 0).toNat + 2 then none
      else do
        let fields ← lrrpFields ((lrrp.take ((lrrp.getD 1 0).toNat + 2)).drop 2)
        let hasPosition ← hasLrrpPosition fields.length fields
        return (lrrp, hasPosition)) := by
  have hfirst : Lib.read lrrp 0 = .ok (lrrp.getD 0 0) := read_of_lt (by omega) 0
  have hsecond : Lib.read lrrp 1 = .ok (lrrp.getD 1 0) := read_of_lt (by omega) 0
  unfold readReport
  simp only [hfirst, hsecond, ok_bind]
  by_cases htype : lrrp.getD 0 0 &&& 0x7F ≠ 0x07 ∧ lrrp.getD 0 0 &&& 0x7F ≠ 0x0D
  · rw [if_pos htype, if_pos (Or.inl htype)]
    rfl
  by_cases hlength : lrrp.length < (lrrp.getD 1 0).toNat + 2
  · rw [if_neg htype, if_pos hlength, if_pos (Or.inr hlength)]
    rfl
  rw [if_neg htype, if_neg hlength, if_neg (not_or.mpr ⟨htype, hlength⟩)]
  generalize (lrrp.getD 1 0).toNat = n at hlength ⊢
  have hfits : n + 2 ≤ lrrp.length := by omega
  obtain ⟨found, hskip, hfound⟩ := skipRequestId_eq hfits (by omega)
  have hfields : lrrpFields ((lrrp.take (n + 2)).drop 2) = found.map (left lrrp (n + 2)) := hfound.symm
  rw [hskip, ok_bind, hfields]
  cases found with
  | none => rfl
  | some offset =>
    rw [Option.map_some, Option.bind_eq_bind, Option.bind_some, length_left hfits]
    dsimp only
    rw [lrrpLoop_eq hfits le_rfl, ok_bind]
    cases hasLrrpPosition (n + 2 - offset) (left lrrp (n + 2) offset) <;> rfl

/-- **A location report.** -/
theorem extractMotorolaLrrpPayload_eq (packet : Bytes) :
    extractMotorolaLrrpPayload packet = .ok (Sms.extractMotorolaLrrpPayload packet) := by
  unfold extractMotorolaLrrpPayload Sms.extractMotorolaLrrpPayload
  by_cases hshort : packet.length < 30
  · rw [decide_eq_true hshort, orM_true, ok_bind, if_pos rfl, if_pos (Or.inl hshort)]
    rfl
  have hfirst : ∀ p, test packet 0 p = .ok (p (packet.getD 0 0)) := test_of_lt (by omega) 0
  have hprotocol : ∀ p, test packet 9 p = .ok (p (packet.getD 9 0)) := test_of_lt (by omega) 0
  have hread : Lib.read packet 0 = .ok (packet.getD 0 0) := read_of_lt (by omega) 0
  have htotal : uint16At packet 2 = .ok (readUint16 packet 2) := uint16At_of_lt (by omega)
  simp only [hfirst, hprotocol, hread, htotal, orM_ok, ok_bind, Bool.or_eq_true, decide_eq_true_iff, hshort,
    false_or]
  by_cases hother : packet.getD 0 0 >>> 4 ≠ 4 ∨ packet.getD 9 0 ≠ 0x11
  · rw [if_pos hother, if_pos hother]
    rfl
  rw [if_neg hother, if_neg hother]
  generalize (packet.getD 0 0 &&& 0x0F).toNat * 4 = ipHeaderLength
  by_cases hlengths : ipHeaderLength < 20 ∨ packet.length < readUint16 packet 2 ∨
      readUint16 packet 2 < ipHeaderLength + 10
  · rw [if_pos hlengths, if_pos hlengths]
    rfl
  rw [if_neg hlengths, if_neg hlengths]
  have hsource : uint16At packet ipHeaderLength = .ok (readUint16 packet ipHeaderLength) :=
    uint16At_of_lt (by omega)
  have htarget : uint16At packet (ipHeaderLength + 2) = .ok (readUint16 packet (ipHeaderLength + 2)) :=
    uint16At_of_lt (by omega)
  have hudp : uint16At packet (ipHeaderLength + 4) = .ok (readUint16 packet (ipHeaderLength + 4)) :=
    uint16At_of_lt (by omega)
  simp only [hsource, htarget, hudp, ok_bind]
  generalize readUint16 packet (ipHeaderLength + 4) = udpLength
  by_cases hports : ¬ ((readUint16 packet ipHeaderLength = 49198 ∧
      readUint16 packet (ipHeaderLength + 2) = 49198) ∨ (readUint16 packet ipHeaderLength = 4001 ∧
        readUint16 packet (ipHeaderLength + 2) = 4001)) ∨ udpLength < 10 ∨
      readUint16 packet 2 < ipHeaderLength + udpLength
  · rw [if_pos hports, if_pos hports]
    rfl
  rw [if_neg hports, if_neg hports, span_of_le (by omega), ok_bind]
  refine readReport_eq ?_
  rw [List.length_take, List.length_drop]
  omega

end Report

/-! ## Received packets -/

theorem addressAt_eq {packet : Bytes} {i : ℕ} (h : i + 3 < packet.length) :
    addressAt packet i = .ok (Sms.addressAt packet i) := by
  unfold addressAt
  rw [read_of_lt (show i < packet.length by omega) 0, read_of_lt (show i + 1 < packet.length by omega) 0,
    read_of_lt (show i + 2 < packet.length by omega) 0, read_of_lt h 0]
  rfl

theorem send_eq (w : Wiring) (sourceRid targetRid slotNo : ℕ) (packet : Bytes)
    (sourcePort targetPort : ℕ) (operation messageId : UInt8) :
    sendBrandmeisterTmsAcknowledgement w sourceRid targetRid slotNo packet sourcePort targetPort operation
      messageId = .ok (Sms.sendBrandmeisterTmsAcknowledgement w sourceRid targetRid slotNo packet
        sourcePort targetPort operation messageId) := by
  unfold sendBrandmeisterTmsAcknowledgement Sms.sendBrandmeisterTmsAcknowledgement
  by_cases hunset : w.writerSet = false ∨ packet.length < 20
  · rw [if_pos hunset, if_pos hunset]
    rfl
  rw [if_neg hunset, if_neg hunset, addressAt_eq (by omega), addressAt_eq (by omega)]
  simp only [ok_bind]
  split_ifs <;> rfl

theorem textOfMessage_eq (data : Bytes) :
    textOfMessage data (Sms.parseMotorolaTms data) = .ok (messageText data) := by
  have hchoice : ∀ text : Bytes, (do return trim (← if text = [] then extractText data else .ok text)) =
      (.ok (trim (if text = [] then Sms.extractText data else text)) : Checked Bytes) := by
    intro text
    split_ifs
    · rw [extractText_eq]
      rfl
    · rfl
  exact hchoice _

theorem isControlResponse_eq (payload : Bytes) :
    (((.ok (decide (3 ≤ payload.length)) : Checked Bool) <&&>
      test payload 2 fun b => b &&& 0x1F = 0x1F) : Checked Bool) = .ok (isControlResponse payload) := by
  unfold isControlResponse
  by_cases hthree : 3 ≤ payload.length
  · rw [test_of_lt (show 2 < payload.length by omega) 0, andM_ok, Bool.decide_and]
  · rw [decide_eq_false hthree, andM_false, decide_eq_false fun h => hthree h.1]

/-- **A received packet.** -/
theorem handleBrandmeisterPacketData_eq (w : Wiring) (s : TextState) (c : Clocks) (o : FileOutcomes)
    (sourceRid targetRid slotNo : ℕ) (packet : Bytes) :
    handleBrandmeisterPacketData w s c o sourceRid targetRid slotNo packet =
      .ok (Sms.handleBrandmeisterPacketData w s c o sourceRid targetRid slotNo packet) := by
  unfold handleBrandmeisterPacketData Sms.handleBrandmeisterPacketData udpPayload
  by_cases hshort : packet.length < 28
  · rw [decide_eq_true hshort, orM_true, ok_bind, if_pos rfl, if_pos (Or.inl hshort)]
    rfl
  have hfirst : ∀ p, test packet 0 p = .ok (p (packet.getD 0 0)) := test_of_lt (by omega) 0
  have hprotocol : ∀ p, test packet 9 p = .ok (p (packet.getD 9 0)) := test_of_lt (by omega) 0
  have hread : Lib.read packet 0 = .ok (packet.getD 0 0) := read_of_lt (by omega) 0
  have htotal : uint16At packet 2 = .ok (readUint16 packet 2) := uint16At_of_lt (by omega)
  simp only [hfirst, hprotocol, hread, htotal, orM_ok, ok_bind, Bool.or_eq_true, decide_eq_true_iff, hshort,
    false_or]
  by_cases hother : packet.getD 0 0 >>> 4 ≠ 4 ∨ packet.getD 9 0 ≠ 0x11
  · rw [if_pos hother, if_pos hother]
    rfl
  rw [if_neg hother, if_neg hother]
  generalize (packet.getD 0 0 &&& 0x0F).toNat * 4 = ipHeaderLength
  by_cases hlengths : ipHeaderLength < 20 ∨ packet.length < ipHeaderLength + 8 ∨
      readUint16 packet 2 < ipHeaderLength + 8 ∨ packet.length < readUint16 packet 2
  · rw [if_pos hlengths, if_pos hlengths]
    rfl
  rw [if_neg hlengths, if_neg hlengths]
  have hsource : uint16At packet ipHeaderLength = .ok (readUint16 packet ipHeaderLength) :=
    uint16At_of_lt (by omega)
  have htarget : uint16At packet (ipHeaderLength + 2) = .ok (readUint16 packet (ipHeaderLength + 2)) :=
    uint16At_of_lt (by omega)
  have hudp : uint16At packet (ipHeaderLength + 4) = .ok (readUint16 packet (ipHeaderLength + 4)) :=
    uint16At_of_lt (by omega)
  simp only [hsource, htarget, hudp, ok_bind]
  generalize readUint16 packet (ipHeaderLength + 4) = udpLength
  by_cases hudpLength : udpLength < 8 ∨ readUint16 packet 2 < ipHeaderLength + udpLength
  · rw [if_pos hudpLength, if_pos hudpLength]
    rfl
  rw [if_neg hudpLength, if_neg hudpLength, span_of_le (by omega), ok_bind]
  dsimp only
  generalize (packet.drop (ipHeaderLength + 8)).take (udpLength - 8) = payload
  rw [isControlResponse_eq, ok_bind]
  by_cases hcontrol : isControlResponse payload = true
  · rw [if_pos hcontrol, if_pos hcontrol]
    split_ifs with hreference hstatus
    · rw [read_of_lt hreference 0, read_of_lt hstatus 0]
      rfl
    · rw [read_of_lt hreference 0]
      rfl
    · omega
    · rfl
  rw [if_neg hcontrol, if_neg hcontrol, parseMotorolaTms_eq, ok_bind, textOfMessage_eq, ok_bind]
  by_cases htext : messageText payload = []
  · rw [if_pos htext, if_pos htext]
    rfl
  rw [if_neg htext, if_neg htext]
  generalize queueBrandmeisterText w.routePathSet s c o sourceRid targetRid (messageText payload) = q
  by_cases hfailed : q.result = .FAILED
  · rw [if_pos hfailed, if_pos hfailed]
    rfl
  rw [if_neg hfailed, if_neg hfailed]
  cases Sms.parseMotorolaTms payload with
  | none => rfl
  | some parsed =>
    simp only [send_eq]
    rfl

/-- **No parser has a fault on any input**: every read is inside the buffer, every loop ends, and nothing
that is called throws. -/
theorem parsing_safe :
    (∀ (w : Wiring) (s : TextState) (c : Clocks) (o : FileOutcomes) (sourceRid targetRid slotNo : ℕ)
      (packet : Bytes), handleBrandmeisterPacketData w s c o sourceRid targetRid slotNo packet =
        .ok (Sms.handleBrandmeisterPacketData w s c o sourceRid targetRid slotNo packet)) ∧
    (∀ data, parseMotorolaTms data = .ok (Sms.parseMotorolaTms data)) ∧
    (∀ data markerOffset, extractTmsTextFragment data markerOffset =
      .ok (Sms.extractTmsTextFragment data markerOffset)) ∧
    (∀ data, extractText data = .ok (Sms.extractText data)) ∧
    ∀ packet, extractMotorolaLrrpPayload packet = .ok (Sms.extractMotorolaLrrpPayload packet) :=
  ⟨handleBrandmeisterPacketData_eq, parseMotorolaTms_eq, extractTmsTextFragment_eq, extractText_eq,
    extractMotorolaLrrpPayload_eq⟩

end Sms.Checked
