import QuantarBridge.P25.ApxText
import QuantarBridge.P25.Inbox

/-!
# Texts of the radios in the inbox

The data host writes what it reads to the inbox as JSON, and the message bridge reads the file. The bytes
of a surrogate are no UTF-8, and the file goes to the directory for errors. All other texts arrive.

* `decodeItems_jsonEscape`, `readsString_escapeChar`: the characters of a text in the file;
* `fileMembers`, `latin_eventHead`: the file as a JSON object;
* `normalizeEvent_eventJson`: **what the message bridge reads**;
* `faithful_iff`: the texts that arrive.
-/

set_option autoImplicit false

namespace P25

open Lib PacketData Sms
open Dashboard (Str codes)
open Brew.EventFile (Floats Event normalizeEvent chooseText)

/-! ## The characters of a text in the file -/

/-- A character in a JSON string of the data host. -/
def escapeChar (c : Char) : List Char :=
  if c.toNat < 0x80 then latin (escapeByte (UInt8.ofNat c.toNat)) else [c]

/-- What stands for an ASCII character in the file: ASCII bytes, among them no carriage return, that are a
letter behind a backslash, a code unit or the character itself. -/
def WellEscaped (n : ℕ) : Prop :=
  ((escapeByte (UInt8.ofNat n)).all fun b => b.toNat < 0x80 ∧ b ≠ 0x0D) = true ∧
  ((['"', '\\', 'b', 'f', 'n', 'r', 't'].any fun e =>
      latin (escapeByte (UInt8.ofNat n)) = ['\\', e] ∧ escaped e = some n) = true ∨
    (latin (escapeByte (UInt8.ofNat n)) =
        ['\\', 'u', '0', '0', Nat.digitChar (n / 16), Nat.digitChar (n % 16)] ∧
      hexUnit '0' '0' (Nat.digitChar (n / 16)) (Nat.digitChar (n % 16)) = some n) ∨
    (latin (escapeByte (UInt8.ofNat n)) = [Char.ofNat n] ∧ StandsForItself (Char.ofNat n)))

instance (n : ℕ) : Decidable (WellEscaped n) := inferInstanceAs (Decidable (_ ∧ _))

theorem escapeByte_spec (n : Fin 0x80) : WellEscaped n := by
  revert n
  decide +kernel

/-- Bytes of ASCII characters other than a carriage return. -/
def IsAscii (bytes : Bytes) : Prop := ∀ b ∈ bytes, b.toNat < 0x80 ∧ b ≠ 0x0D

theorem isAscii_escapeByte {n : ℕ} (h : n < 0x80) : IsAscii (escapeByte (UInt8.ofNat n)) :=
  fun b hb => of_decide_eq_true (List.all_eq_true.mp (escapeByte_spec ⟨n, h⟩).1 b hb)

theorem reads_isAscii {bytes : Bytes} (h : IsAscii bytes) : Reads bytes ((latin bytes).map some) := by
  induction bytes with
  | nil => exact ⟨rfl, rfl⟩
  | cons b bytes ih =>
    obtain ⟨hb, hbytes⟩ := List.forall_mem_cons.mp h
    obtain ⟨hwhole, hitems⟩ := reads_one hb.1
    obtain ⟨hwholes, hitemss⟩ := ih hbytes
    rw [UInt8.ofNat_toNat] at hwhole hitems
    rw [← List.singleton_append]
    exact ⟨whole_append hwhole hwholes, by rw [decodeItems_append hwhole, hitems, hitemss]; rfl⟩

theorem jsonEscape_high {bytes : Bytes} (h : ∀ b ∈ bytes, 0x80 ≤ b.toNat) :
    jsonEscape bytes = bytes := by
  induction bytes with
  | nil => rfl
  | cons b bytes ih =>
    obtain ⟨hb, hbytes⟩ := List.forall_mem_cons.mp h
    have hne : ∀ a : UInt8, a.toNat < 0x80 → b ≠ a := by
      rintro a ha rfl
      omega
    have hcontrol : ¬ b < 0x20 := by
      have h20 : (0x20 : UInt8).toNat = 32 := rfl
      rw [UInt8.lt_iff_toNat_lt]
      omega
    have hbyte : escapeByte b = [b] := by
      unfold escapeByte
      rw [if_neg (hne _ (by decide)), if_neg (hne _ (by decide)), if_neg (hne _ (by decide)),
        if_neg (hne _ (by decide)), if_neg (hne _ (by decide)), if_neg (hne _ (by decide)),
        if_neg (hne _ (by decide)), if_neg hcontrol]
    rw [jsonEscape, List.flatMap_cons, hbyte, ← jsonEscape, ih hbytes, List.singleton_append]

theorem jsonEscape_append (a b : Bytes) : jsonEscape (a ++ b) = jsonEscape a ++ jsonEscape b :=
  List.flatMap_append

theorem reads_plainChar {c : Char} (h : ¬ Astral c) :
    Reads (jsonEscape (hostBytes [c])) ((escapeChar c).map some) := by
  have hlt : c.toNat < 0x10000 := Nat.not_le.mp h
  have hunits : hostBytes [c] = appendUtf8 c.toNat := by
    simp [hostBytes, encodeUtf16, utf16Units, hlt]
  unfold escapeChar
  split_ifs with hascii
  · have hbyte : appendUtf8 c.toNat = [UInt8.ofNat c.toNat] := if_pos hascii
    rw [hunits, hbyte, jsonEscape, List.flatMap_singleton]
    exact reads_isAscii (isAscii_escapeByte hascii)
  · rw [hunits, jsonEscape_high (appendUtf8_high (Nat.not_lt.mp hascii) hlt), ← hunits,
      hostBytes_plain h]
    exact reads_encode c

/-- **A surrogate** is no UTF-8. -/
theorem reads_appendUtf8_surrogate {u : ℕ} (h : 0xD800 ≤ u ∧ u < 0xE000) :
    Reads (jsonEscape (appendUtf8 u)) [none, none, none] := by
  have hbytes : appendUtf8 u =
      [0xED, UInt8.ofNat (0x80 + u / 64 % 64), UInt8.ofNat (0x80 + u % 64)] := by
    have hfirst : 0xE0 + u / 4096 = 0xED := by omega
    rw [appendUtf8, utf8, if_neg (by omega), if_neg (by omega), hfirst]
    rfl
  rw [jsonEscape_high (appendUtf8_high (by omega) (by omega)), hbytes]
  exact reads_surrogate (by omega) (by omega)

/-- The bytes of another character in the file are no UTF-8. -/
theorem reads_astral {c : Char} (h : Astral c) :
    Whole (jsonEscape (hostBytes [c])) ∧ none ∈ decodeItems (jsonEscape (hostBytes [c])) := by
  have hvalid := toNat_valid c
  have hn : ¬ c.toNat < 0x10000 := Nat.not_lt.mpr h
  have hunits : hostBytes [c] = appendUtf8 (0xD800 + (c.toNat - 0x10000) / 0x400) ++
      appendUtf8 (0xDC00 + (c.toNat - 0x10000) % 0x400) := by
    simp [hostBytes, encodeUtf16, utf16Units, hn]
  obtain ⟨hwhole, hitems⟩ :=
    reads_appendUtf8_surrogate (u := 0xD800 + (c.toNat - 0x10000) / 0x400) (by omega)
  obtain ⟨hwhole', -⟩ :=
    reads_appendUtf8_surrogate (u := 0xDC00 + (c.toNat - 0x10000) % 0x400) (by omega)
  rw [hunits, jsonEscape_append]
  refine ⟨whole_append hwhole hwhole', ?_⟩
  rw [decodeItems_append hwhole, hitems]
  simp

theorem hostBytes_eq_flatMap (text : List Char) :
    jsonEscape (hostBytes text) = text.flatMap fun c => jsonEscape (hostBytes [c]) := by
  induction text with
  | nil => rfl
  | cons c text ih => rw [hostBytes_cons, jsonEscape_append, ih, List.flatMap_cons]

theorem whole_jsonEscape (text : List Char) : Whole (jsonEscape (hostBytes text)) := by
  rw [hostBytes_eq_flatMap]
  refine whole_flatMap fun c _ => ?_
  by_cases hc : Astral c
  · exact (reads_astral hc).1
  · exact (reads_plainChar hc).1

/-- **The characters of a text in the file.** -/
theorem decodeItems_jsonEscape {text : List Char} (h : ∀ c ∈ text, ¬ Astral c) :
    decodeItems (jsonEscape (hostBytes text)) = (text.flatMap escapeChar).map some := by
  rw [hostBytes_eq_flatMap, decodeItems_flatMap fun c hc => (reads_plainChar (h c hc)).1,
    List.map_flatMap]
  exact List.flatMap_congr fun c hc => (reads_plainChar (h c hc)).2

/-- **A text with a character of two units** is no UTF-8 in the file. -/
theorem none_mem_jsonEscape {text : List Char} {c : Char} (hc : c ∈ text) (h : Astral c) :
    none ∈ decodeItems (jsonEscape (hostBytes text)) := by
  obtain ⟨before, after, rfl⟩ := List.append_of_mem hc
  have hsplit : jsonEscape (hostBytes (before ++ c :: after)) = jsonEscape (hostBytes before) ++
      (jsonEscape (hostBytes [c]) ++ jsonEscape (hostBytes after)) := by
    rw [hostBytes_append, hostBytes_cons, jsonEscape_append, jsonEscape_append]
  obtain ⟨hwhole, hnone⟩ := reads_astral h
  rw [hsplit, decodeItems_append (whole_jsonEscape before), decodeItems_append hwhole]
  simp [hnone]

/-- **A character is read back** from a JSON string. -/
theorem readsString_escapeChar (c : Char) : ReadsString (escapeChar c) [c.toNat] := by
  unfold escapeChar
  split_ifs with h
  · rcases (escapeByte_spec ⟨c.toNat, h⟩).2 with hletter | ⟨htext, hhex⟩ | ⟨htext, hself⟩
    · obtain ⟨e, he, hletter⟩ := List.any_eq_true.mp hletter
      obtain ⟨htext, hescaped⟩ := of_decide_eq_true hletter
      rw [htext]
      refine readsString_escaped ?_ hescaped
      rintro rfl
      exact absurd he (by decide)
    · rw [htext]
      exact readsString_hex hhex
    · rw [htext]
      have := readsString_self hself
      rwa [Char.ofNat_toNat] at this ⊢
  · refine readsString_self ⟨?_, ?_, by omega⟩ <;> rintro rfl <;> exact h (by decide)

theorem latin_no_return {bytes : Bytes} (h : IsAscii bytes) : ∀ c ∈ latin bytes, c ≠ '\r' := by
  intro c hc
  obtain ⟨b, hb, rfl⟩ := List.mem_map.mp hc
  intro he
  have hcode := congrArg Char.toNat he
  have hlt := (h b hb).1
  have hvalue : (Char.ofNat b.toNat).toNat = b.toNat := by
    rw [Char.ofNat, dif_pos (by unfold Nat.isValidChar; omega)]
    rfl
  exact (h b hb).2 (UInt8.toNat_inj.mp (hvalue.symm.trans hcode))

theorem escapeChar_no_return (c : Char) : ∀ d ∈ escapeChar c, d ≠ '\r' := by
  unfold escapeChar
  split_ifs with h
  · exact latin_no_return (isAscii_escapeByte h)
  · intro d hd
    rw [List.mem_singleton.mp hd]
    rintro rfl
    exact h (by decide)

/-! ## The file -/

section File

variable (event : InboxEvent)

/-- A string with its quotation marks. -/
def quoted (text : List Char) : List Char := '"' :: (text ++ ['"'])

/-- The members of the file of an event with this text. -/
def fileMembers (text : List Char) : List MemberText :=
  [⟨"application".toList, quoted "motorola_tms".toList⟩,
    ⟨"sourceRid".toList, decimalText event.sourceRid⟩,
    ⟨"targetRid".toList, decimalText event.targetRid⟩,
    ⟨"broadcast".toList, (if event.broadcast then "true" else "false").toList⟩,
    ⟨"localDeliveryCandidate".toList,
      (if event.localDeliveryCandidate then "true" else "false").toList⟩,
    ⟨"text".toList, quoted (text.flatMap escapeChar)⟩]

/-- The file up to its text. -/
def eventHead : Bytes :=
  ascii "\x7b\n  \"application\": \"motorola_tms\",\n  \"sourceRid\": ".toList ++
    decimal event.sourceRid ++ ascii ",\n  \"targetRid\": ".toList ++ decimal event.targetRid ++
    ascii ",\n  \"broadcast\": ".toList ++ jsonBool event.broadcast ++
    ascii ",\n  \"localDeliveryCandidate\": ".toList ++ jsonBool event.localDeliveryCandidate ++
    ascii ",\n  \"text\": \"".toList

/-- The texts of the file that do not depend on the event. -/
def fileLiterals : List (List Char) :=
  ["\x7b\n  \"application\": \"motorola_tms\",\n  \"sourceRid\": ".toList,
    ",\n  \"targetRid\": ".toList, ",\n  \"broadcast\": ".toList,
    ",\n  \"localDeliveryCandidate\": ".toList, ",\n  \"text\": \"".toList, "\"\n\x7d\n".toList,
    "true".toList, "false".toList]

/-- The strings of the file that do not depend on the event. -/
def fileNames : List (List Char) :=
  ["application".toList, "sourceRid".toList, "targetRid".toList, "broadcast".toList,
    "localDeliveryCandidate".toList, "text".toList, "motorola_tms".toList]

theorem literals_spec : (fileLiterals.all fun text => text.all fun c => c.toNat < 0x80 ∧ c ≠ '\r') = true ∧
    (fileNames.all fun text => text.all fun c => StandsForItself c) = true ∧
    jsonEscape applicationMotorolaTms = ascii "motorola_tms".toList := by
  decide +kernel

theorem forall_mem_getD {P : Char → Bool} {texts : List (List Char)}
    (h : (texts.all fun text => text.all P) = true) (i : ℕ) : ∀ c ∈ texts.getD i [], P c = true := by
  intro c hc
  rcases lt_or_ge i texts.length with hi | hi
  · rw [List.getD_eq_getElem?_getD, List.getElem?_eq_getElem hi, Option.getD_some] at hc
    exact List.all_eq_true.mp (List.all_eq_true.mp h _ (List.getElem_mem hi)) c hc
  · rw [List.getD_eq_getElem?_getD, List.getElem?_eq_none hi, Option.getD_none] at hc
    exact absurd hc List.not_mem_nil

theorem literal_ascii (i : ℕ) : ∀ c ∈ fileLiterals.getD i [], c.toNat < 0x80 ∧ c ≠ '\r' :=
  fun c hc => of_decide_eq_true (forall_mem_getD literals_spec.1 i c hc)

theorem name_standsForItself (i : ℕ) : ∀ c ∈ fileNames.getD i [], StandsForItself c :=
  fun c hc => of_decide_eq_true (forall_mem_getD literals_spec.2.1 i c hc)

theorem isAscii_literal (i : ℕ) : IsAscii (ascii (fileLiterals.getD i [])) := by
  intro b hb
  obtain ⟨c, hc, rfl⟩ := List.mem_map.mp hb
  obtain ⟨hlt, hne⟩ := literal_ascii i c hc
  have hvalue := toNat_ofNat_of_lt hlt
  refine ⟨by omega, fun he => hne (Char.toNat_inj.mp ?_)⟩
  rw [← hvalue, he]
  rfl

theorem latin_literal (i : ℕ) : latin (ascii (fileLiterals.getD i [])) = fileLiterals.getD i [] := by
  rw [latin, ascii, List.map_map]
  conv_rhs => rw [← List.map_id (fileLiterals.getD i [])]
  refine List.map_congr_left fun c hc => ?_
  show Char.ofNat (UInt8.ofNat c.toNat).toNat = c
  rw [toNat_ofNat_of_lt (literal_ascii i c hc).1, Char.ofNat_toNat]

theorem eventJson_eq : eventJson applicationMotorolaTms event =
    eventHead event ++ (jsonEscape event.text ++ ascii "\"\n\x7d\n".toList) := by
  unfold eventJson eventHead
  rw [literals_spec.2.2]
  simp [ascii]

theorem isAscii_append {a b : Bytes} (ha : IsAscii a) (hb : IsAscii b) : IsAscii (a ++ b) :=
  List.forall_mem_append.mpr ⟨ha, hb⟩

theorem isAscii_decimal (n : ℕ) : IsAscii (decimal n) := by
  intro b hb
  have hbounds := decimal_bounds hb
  exact ⟨by omega, fun he => by rw [he] at hbounds; exact absurd hbounds.1 (by decide)⟩

theorem isAscii_jsonBool (b : Bool) : IsAscii (jsonBool b) := by
  cases b
  · exact isAscii_literal 7
  · exact isAscii_literal 6

theorem isAscii_eventHead : IsAscii (eventHead event) := by
  refine isAscii_append (isAscii_append (isAscii_append (isAscii_append (isAscii_append
    (isAscii_append (isAscii_append (isAscii_append (isAscii_literal 0) (isAscii_decimal _))
      (isAscii_literal 1)) (isAscii_decimal _)) (isAscii_literal 2)) (isAscii_jsonBool _))
      (isAscii_literal 3)) (isAscii_jsonBool _)) (isAscii_literal 4)

theorem latin_append (a b : Bytes) : latin (a ++ b) = latin a ++ latin b := List.map_append

theorem latin_decimal (n : ℕ) : latin (decimal n) = decimalText n := by
  rw [latin, decimal, decimalText, List.map_map]
  refine List.map_congr_left fun d hd => ?_
  show Char.ofNat (digitByte d).toNat = Char.ofNat (48 + d)
  rw [toNat_digitByte (decimalDigits_lt hd)]

theorem latin_jsonBool (b : Bool) :
    latin (jsonBool b) = (if b then "true" else "false").toList := by
  cases b
  · exact latin_literal 7
  · exact latin_literal 6

/-- **The file** as a JSON object, one member a line. -/
theorem latin_eventHead (text : List Char) :
    latin (eventHead event) ++ (text.flatMap escapeChar ++ latin (ascii "\"\n\x7d\n".toList)) =
      objectText (fileMembers event text) := by
  have hhead : latin (eventHead event) = latin (ascii (fileLiterals.getD 0 [])) ++
      decimalText event.sourceRid ++ latin (ascii (fileLiterals.getD 1 [])) ++
      decimalText event.targetRid ++ latin (ascii (fileLiterals.getD 2 [])) ++
      (if event.broadcast then "true" else "false").toList ++
      latin (ascii (fileLiterals.getD 3 [])) ++
      (if event.localDeliveryCandidate then "true" else "false").toList ++
      latin (ascii (fileLiterals.getD 4 [])) := by
    rw [← latin_decimal, ← latin_decimal, ← latin_jsonBool, ← latin_jsonBool]
    simp only [← latin_append]
    rfl
  have htail : latin (ascii "\"\n\x7d\n".toList) = fileLiterals.getD 5 [] := latin_literal 5
  simp only [latin_literal] at hhead
  rw [hhead, htail]
  simp [objectText, fileMembers, membersText, quoted, fileLiterals]

/-- **The characters of the file.** -/
theorem decodeUtf8_eventJson {text : List Char} (htext : event.text = hostBytes text)
    (h : ∀ c ∈ text, ¬ Astral c) : decodeUtf8 (eventJson applicationMotorolaTms event) =
      some (objectText (fileMembers event text)) := by
  obtain ⟨hwhole, hhead⟩ := reads_isAscii (isAscii_eventHead event)
  have hquote : IsAscii (ascii "\"\n\x7d\n".toList) := isAscii_literal 5
  obtain ⟨-, htail⟩ := reads_isAscii hquote
  apply decodeUtf8_of_items
  rw [← latin_eventHead, eventJson_eq, htext, decodeItems_append hwhole,
    decodeItems_append (whole_jsonEscape text), hhead, htail, decodeItems_jsonEscape h]
  simp

/-- The file of a text with a character of two units. -/
theorem decodeUtf8_eventJson_astral {text : List Char} (htext : event.text = hostBytes text) {c : Char}
    (hc : c ∈ text) (h : Astral c) : decodeUtf8 (eventJson applicationMotorolaTms event) = none := by
  obtain ⟨hwhole, -⟩ := reads_isAscii (isAscii_eventHead event)
  apply decodeUtf8_eq_none
  rw [eventJson_eq, htext, decodeItems_append hwhole, decodeItems_append (whole_jsonEscape text)]
  simp [none_mem_jsonEscape hc h]

variable {F : Type} (floats : Floats F)

/-- The members of the file as they are read. -/
def fileEntries (text : List Char) : List (List ℕ × JsonValue F) :=
  [(codes "application".toList, .str (codes "motorola_tms".toList)),
    (codes "sourceRid".toList, .int event.sourceRid),
    (codes "targetRid".toList, .int event.targetRid),
    (codes "broadcast".toList, .bool event.broadcast),
    (codes "localDeliveryCandidate".toList, .bool event.localDeliveryCandidate),
    (codes "text".toList, .str (codes text))]

theorem code_not_surrogate {text : List Char} : ∀ u ∈ codes text, ¬ (0xD800 ≤ u ∧ u < 0xDC00) := by
  intro u hu
  obtain ⟨c, -, rfl⟩ := List.mem_map.mp hu
  have := toNat_valid c
  omega

theorem readsMembers {F : Type} (float : List Char → F) {event : InboxEvent}
    (hsource : event.sourceRid < 2 ^ 32) (htarget : event.targetRid < 2 ^ 32) (text : List Char) :
    List.Forall₂ (ReadsMember float) (fileMembers event text) (fileEntries event text) := by
  have member (i : ℕ) {value : List Char} {v : JsonValue F} (hvalue : ReadsValue float value v) :
      ReadsMember float ⟨fileNames.getD i [], value⟩ (codes (fileNames.getD i []), v) :=
    ⟨name_standsForItself i, rfl, hvalue⟩
  have rid {n : ℕ} (hn : n < 2 ^ 32) : ReadsValue float (decimalText n) (.int n) :=
    readsValue_decimal (le_trans (length_decimalDigits_le (w := 10) (by decide) (by omega)) (by decide))
  have hname : ReadsValue float (quoted "motorola_tms".toList) (.str (codes "motorola_tms".toList)) :=
    readsValue_string (readsString_plain (name_standsForItself 6))
      code_not_surrogate
  have htext : ReadsValue float (quoted (text.flatMap escapeChar)) (.str (codes text)) := by
    refine readsValue_string ?_ code_not_surrogate
    have hread := readsString_flatMap (l := text) fun c _ => readsString_escapeChar c
    rwa [← List.map_eq_flatMap] at hread
  exact .cons (member 0 hname) (.cons (member 1 (rid hsource)) (.cons (member 2 (rid htarget))
    (.cons (member 3 (readsValue_bool event.broadcast))
      (.cons (member 4 (readsValue_bool event.localDeliveryCandidate))
        (.cons (member 5 htext) .nil)))))

theorem universalNewlines_file (text : List Char) :
    universalNewlines (objectText (fileMembers event text)) = objectText (fileMembers event text) := by
  have hreturn : ∀ c ∈ objectText (fileMembers event text), c ≠ '\r' := by
    rw [← latin_eventHead]
    refine List.forall_mem_append.mpr ⟨latin_no_return (isAscii_eventHead event),
      List.forall_mem_append.mpr ⟨?_, latin_no_return (isAscii_literal 5)⟩⟩
    intro d hd
    obtain ⟨c, -, hd⟩ := List.mem_flatMap.mp hd
    exact escapeChar_no_return c d hd
  have happend := universalNewlines_append hreturn []
  rwa [List.append_nil, universalNewlines, List.append_nil] at happend

/-- **What the message bridge reads** of the file of a text. -/
theorem normalizeEvent_eventJson (hsource : event.sourceRid < 2 ^ 32)
    (htarget : event.targetRid < 2 ^ 32) {text : List Char} (htext : event.text = hostBytes text)
    (h : ∀ c ∈ text, ¬ Astral c) (path stem : Str) :
    ∃ read, normalizeEvent floats path stem (eventJson applicationMotorolaTms event) = some read ∧
      chooseText read = Str.strip (codes text) := by
  have hloads := jsonLoads_text (readsMembers floats.ofText hsource htarget text)
    (List.cons_ne_nil _ _)
  unfold normalizeEvent
  rw [decodeUtf8_eventJson event htext h, Option.bind_some, universalNewlines_file, hloads]
  refine ⟨_, rfl, Brew.EventFile.chooseText_text ?_ ?_ ?_⟩ <;> rfl

end File

/-! ## The result -/

/-- **Texts of the radios.** The text that the data host reads is the UTF-8 of the text without a line
break in front, and the message bridge reads it from the inbox, exactly when the text has no character
of two units. -/
theorem faithful_iff {sourceIp : ℕ} {packet : Bytes} (m : TmsForm)
    (h : Datagram sourceIp kMotorolaTmsPort m.payload packet) {sourceRid targetRid : ℕ}
    (hsource : sourceRid < 2 ^ 32) (htarget : targetRid < 2 ^ 32)
    (broadcast localDeliveryCandidate : Bool) {F : Type} (floats : Floats F) (path stem : Str) :
    (∃ message, parseMotorolaTmsMessagePacket packet sourceIp = some message ∧
      message.text = utf8Bytes (withoutLineBreak m.text.chars) ∧
      ∃ read, normalizeEvent floats path stem (eventJson applicationMotorolaTms
          ⟨sourceRid, targetRid, message.text, broadcast, localDeliveryCandidate⟩) = some read ∧
        chooseText read = Str.strip (codes m.text.chars)) ↔
      ∀ c ∈ m.text.chars, c.toNat < 0x10000 := by
  obtain ⟨message, hparse, htext⟩ := parse_form m h
  constructor
  · rintro ⟨message', hparse', -, read, hread, -⟩ c hc
    rw [hparse, Option.some.injEq] at hparse'
    subst hparse'
    by_contra hlarge
    have hastral : Astral c := Nat.not_lt.mp hlarge
    have hkept : c ∈ withoutLineBreak m.text.chars := astral_mem_withoutLineBreak hc hastral
    rw [normalizeEvent, decodeUtf8_eventJson_astral _ htext hkept hastral] at hread
    cases hread
  · intro hplain
    have hkept : ∀ c ∈ withoutLineBreak m.text.chars, ¬ Astral c := fun c hc =>
      Nat.not_le.mpr (hplain c (mem_withoutLineBreak hc))
    let event : InboxEvent :=
      ⟨sourceRid, targetRid, message.text, broadcast, localDeliveryCandidate⟩
    obtain ⟨read, hread, hchosen⟩ :=
      normalizeEvent_eventJson event floats hsource htarget htext hkept path stem
    exact ⟨message, hparse, htext.trans (hostBytes_of_plain hkept), read, hread,
      hchosen.trans (strip_withoutLineBreak m.text.chars)⟩

/-! ## Two messages -/

theorem sampleText_noNul : '\x00' ∉ "\r\nGrüße €\t".toList := by decide

theorem sampleText_notBlank : Str.strip (codes "\r\nGrüße €\t".toList) ≠ [] := by decide

theorem smileyText_noNul : '\x00' ∉ [Char.ofNat 0x1F600] := by decide

theorem smileyText_notBlank : Str.strip (codes [Char.ofNat 0x1F600]) ≠ [] := by decide

/-- A text with an umlaut, a euro sign and a line break in front. -/
def sampleText : RadioText := ⟨"\r\nGrüße €\t".toList, sampleText_noNul, sampleText_notBlank⟩

/-- A text of one character with two units. -/
def smileyText : RadioText := ⟨[Char.ofNat 0x1F600], smileyText_noNul, smileyText_notBlank⟩

theorem sampleForm_addressLength : (wide (decimal 1000002)).length < 256 := by decide

theorem sampleForm_numbered : (0x83 : UInt8) &&& 0x80 ≠ 0 := by decide

/-- A message to radio 1000002. -/
def sampleForm (text : RadioText) : TmsForm :=
  ⟨0xE0, wide (decimal 1000002), 0x83, 0x04, text, rfl, sampleForm_addressLength,
    sampleForm_numbered, rfl⟩

/-- The message in a packet. -/
def samplePacket (text : RadioText) : Bytes :=
  udpPacket 1 3221225479 3221225473 kMotorolaTmsPort (sampleForm text).payload true

theorem datagram_samplePacket {text : RadioText} (h : (sampleForm text).payload.length < 1000) :
    Datagram 3221225479 kMotorolaTmsPort (sampleForm text).payload (samplePacket text) :=
  (valid_udpPacket 1 (by decide) (by decide) (by decide) (by omega)).datagram

theorem faithful_sample : ∃ message,
    parseMotorolaTmsMessagePacket (samplePacket sampleText) 3221225479 = some message ∧
      message.text = utf8Bytes (withoutLineBreak sampleText.chars) ∧
      ∃ read : Event Unit, normalizeEvent ⟨fun _ => (), fun _ => true⟩ [] [] (eventJson
          applicationMotorolaTms ⟨1000001, 1000002, message.text, false, true⟩) = some read ∧
        chooseText read = Str.strip (codes sampleText.chars) := by
  have hplain : (sampleText.chars.all fun c => c.toNat < 0x10000) = true := by decide
  exact (faithful_iff (sampleForm sampleText) (datagram_samplePacket (by decide)) (by decide)
    (by decide) false true _ [] []).mpr fun c hc =>
      of_decide_eq_true (List.all_eq_true.mp hplain c hc)

/-- A smiley is two surrogates of three bytes each, and its file is no UTF-8. -/
theorem not_faithful_smiley :
    Datagram 3221225479 kMotorolaTmsPort (sampleForm smileyText).payload (samplePacket smileyText) ∧
      utf8Bytes (withoutLineBreak smileyText.chars) = [0xF0, 0x9F, 0x98, 0x80] ∧
      ∃ message, parseMotorolaTmsMessagePacket (samplePacket smileyText) 3221225479 = some message ∧
        message.text = [0xED, 0xA0, 0xBD, 0xED, 0xB8, 0x80] ∧
        ∀ (floats : Floats Unit) (path stem : Str), normalizeEvent floats path stem (eventJson
          applicationMotorolaTms ⟨1000001, 1000002, message.text, false, true⟩) = none := by
  have hdatagram := @datagram_samplePacket smileyText (by decide)
  obtain ⟨message, hparse, htext⟩ := parse_form (sampleForm smileyText) hdatagram
  have hchars : withoutLineBreak (sampleForm smileyText).text.chars = [Char.ofNat 0x1F600] := by
    decide +kernel
  have hbytes : hostBytes [Char.ofNat 0x1F600] = [0xED, 0xA0, 0xBD, 0xED, 0xB8, 0x80] := by
    decide +kernel
  rw [hchars] at htext
  refine ⟨hdatagram, by decide, message, hparse, htext.trans hbytes, fun floats path stem => ?_⟩
  rw [normalizeEvent, decodeUtf8_eventJson_astral _ htext List.mem_cons_self (by decide)]
  rfl

end P25
