import QuantarBridge.Lib.Utf8

/-!
# Lines of a text file

A file that is opened as text is decoded from UTF-8 with a replacement character for what is not
valid, its line breaks become `\n`, and it is read line by line. At the end of the file the bytes of
an incomplete character are replaced, and an incomplete line is returned as it is.

* `universalNewlines`, `readLines`, `textLines`: the lines;
* `LogLine`, `log`: lines as they are written;
* `textLines_log_append`: **the lines of a file**, its incomplete last line included;
* `EndsLine`, `flatMap_textLines_iff`: **which pieces of a file have the lines of the file**.
-/

set_option autoImplicit false

namespace Lib

/-! ## Lines -/

/-- The line breaks `\r\n` and `\r` are read as `\n`. -/
def universalNewlines : List Char → List Char
  | [] => []
  | [c] => if c = '\r' then ['\n'] else [c]
  | c :: d :: rest =>
    if c = '\r' then
      if d = '\n' then '\n' :: universalNewlines rest else '\n' :: universalNewlines (d :: rest)
    else c :: universalNewlines (d :: rest)

/-- The lines of a text, each with its line break. -/
def readLines : List Char → List (List Char)
  | [] => []
  | c :: rest =>
    if c = '\n' then [c] :: readLines rest
    else match readLines rest with
      | [] => [[c]]
      | line :: lines => (c :: line) :: lines

/-- The lines that are read up to the end of a file. -/
def textLines (bytes : Bytes) : List (List Char) :=
  readLines (universalNewlines (decodeReplace bytes))

/-! ## Lines of a file -/

theorem universalNewlines_append {a : List Char} (h : ∀ c ∈ a, c ≠ '\r') (b : List Char) :
    universalNewlines (a ++ b) = a ++ universalNewlines b := by
  induction a with
  | nil => rfl
  | cons c a ih =>
    obtain ⟨hc, ha⟩ := List.forall_mem_cons.mp h
    rw [List.cons_append, List.cons_append, ← ih ha]
    cases hrest : a ++ b with
    | nil => simp [universalNewlines, hc]
    | cons d rest => simp [universalNewlines, hc]

theorem readLines_append {a : List Char} (h : ∀ c ∈ a, c ≠ '\n') (b : List Char) :
    readLines (a ++ '\n' :: b) = (a ++ ['\n']) :: readLines b := by
  induction a with
  | nil => simp [readLines]
  | cons c a ih =>
    obtain ⟨hc, ha⟩ := List.forall_mem_cons.mp h
    simp [readLines, hc, ih ha]

theorem readLines_of_plain {a : List Char} (h : ∀ c ∈ a, c ≠ '\n') (ha : a ≠ []) :
    readLines a = [a] := by
  induction a with
  | nil => exact absurd rfl ha
  | cons c a ih =>
    obtain ⟨hc, hrest⟩ := List.forall_mem_cons.mp h
    cases a with
    | nil => simp [readLines, hc]
    | cons d a =>
      rw [readLines, if_neg hc, ih hrest (List.cons_ne_nil d a)]

/-- A line that a program has written to its log, without its line break. -/
structure LogLine where
  content : Bytes
  plain : ∀ b ∈ content, Plain b

/-- The bytes of a line. -/
def LogLine.bytes (line : LogLine) : Bytes := line.content ++ [0x0A]

/-- The line as a reader of the file gets it. -/
def LogLine.text (line : LogLine) : List Char := decodeReplace line.content ++ ['\n']

/-- The bytes of a log. -/
def log (lines : List LogLine) : Bytes := lines.flatMap LogLine.bytes

theorem log_cons (line : LogLine) (lines : List LogLine) :
    log (line :: lines) = line.content ++ 0x0A :: log lines := by
  rw [log, List.flatMap_cons, LogLine.bytes, List.append_assoc, List.singleton_append, log]

theorem log_append (lines lines' : List LogLine) : log (lines ++ lines') = log lines ++ log lines' :=
  List.flatMap_append

theorem textLines_newline {a : Bytes} (ha : ∀ b ∈ a, Plain b) (rest : Bytes) :
    textLines (a ++ 0x0A :: rest) = (decodeReplace a ++ ['\n']) :: textLines rest := by
  have hplain := plainChar_decodeReplace ha
  have hbreak : universalNewlines ('\n' :: decodeReplace rest) =
      '\n' :: universalNewlines (decodeReplace rest) := by
    rw [← List.singleton_append, universalNewlines_append (by simp), List.singleton_append]
  rw [textLines, decodeReplace_newline, universalNewlines_append fun c hc => (hplain c hc).2, hbreak,
    readLines_append fun c hc => (hplain c hc).1, textLines]

/-- The incomplete last line of a file. -/
def lastLine (tail : Bytes) : List (List Char) := if tail = [] then [] else [decodeReplace tail]

theorem textLines_plain {tail : Bytes} (h : ∀ b ∈ tail, Plain b) : textLines tail = lastLine tail := by
  have hplain := plainChar_decodeReplace h
  have hbreaks : universalNewlines (decodeReplace tail) = decodeReplace tail := by
    have := universalNewlines_append (fun c hc => (hplain c hc).2) []
    rwa [List.append_nil, universalNewlines, List.append_nil] at this
  unfold textLines lastLine
  rw [hbreaks]
  split_ifs with hnil
  · subst hnil
    rfl
  · exact readLines_of_plain (fun c hc => (hplain c hc).1) (decodeReplace_ne_nil hnil)

/-- **The lines of a file**: its complete lines, and what there is of the next. -/
theorem textLines_log_append (lines : List LogLine) {tail : Bytes} (h : ∀ b ∈ tail, Plain b) :
    textLines (log lines ++ tail) = lines.map LogLine.text ++ lastLine tail := by
  induction lines with
  | nil => exact textLines_plain h
  | cons line lines ih =>
    rw [log_cons, List.append_assoc, List.cons_append, textLines_newline line.plain, ih]
    rfl

theorem textLines_log (lines : List LogLine) : textLines (log lines) = lines.map LogLine.text := by
  have hwhole := textLines_log_append lines (List.forall_mem_nil Plain)
  rwa [List.append_nil, lastLine, if_pos rfl, List.append_nil] at hwhole

/-- Bytes with `\n` as their only line break are complete lines and an incomplete one. -/
theorem exists_log_append {bytes : Bytes} (h : ∀ b ∈ bytes, b ≠ 0x0D) :
    ∃ lines tail, bytes = log lines ++ tail ∧ ∀ b ∈ tail, Plain b := by
  induction bytes with
  | nil => exact ⟨[], [], rfl, by simp⟩
  | cons b bytes ih =>
    obtain ⟨hb, hbytes⟩ := List.forall_mem_cons.mp h
    obtain ⟨lines, tail, rfl, htail⟩ := ih hbytes
    by_cases hnewline : b = 0x0A
    · subst hnewline
      exact ⟨⟨[], by simp⟩ :: lines, tail, by rw [log_cons]; rfl, htail⟩
    cases lines with
    | nil => exact ⟨[], b :: tail, rfl, List.forall_mem_cons.mpr ⟨⟨hnewline, hb⟩, htail⟩⟩
    | cons line lines =>
      refine ⟨⟨b :: line.content, List.forall_mem_cons.mpr ⟨⟨hnewline, hb⟩, line.plain⟩⟩ :: lines,
        tail, ?_, htail⟩
      rw [log_cons, log_cons]
      rfl

theorem log_no_return (lines : List LogLine) : ∀ b ∈ log lines, b ≠ 0x0D := by
  intro b hb
  obtain ⟨line, -, hb⟩ := List.mem_flatMap.mp hb
  rcases List.mem_append.mp hb with hb | hb
  · exact (line.plain b hb).2
  · rw [List.mem_singleton.mp hb]
    decide

theorem count_log (lines : List LogLine) : (log lines).count 0x0A = lines.length := by
  induction lines with
  | nil => rfl
  | cons line lines ih =>
    have hline : line.content.count 0x0A = 0 :=
      List.count_eq_zero.mpr fun hmem => (line.plain _ hmem).1 rfl
    rw [log_cons, List.count_append, List.count_cons_self, hline, ih, List.length_cons]
    omega

/-! ## Pieces of a file -/

/-- The piece ends where a line ends. -/
def EndsLine (bytes : Bytes) : Prop := bytes = [] ∨ bytes.getLast? = some 0x0A

instance (bytes : Bytes) : Decidable (EndsLine bytes) := inferInstanceAs (Decidable (_ ∨ _))

theorem endsLine_log (lines : List LogLine) : EndsLine (log lines) := by
  rcases List.eq_nil_or_concat lines with rfl | ⟨lines, line, rfl⟩
  · exact Or.inl rfl
  · right
    rw [List.concat_eq_append, log_append, log_cons]
    simp [log]

theorem endsLine_log_append_iff (lines : List LogLine) {tail : Bytes} (h : ∀ b ∈ tail, Plain b) :
    EndsLine (log lines ++ tail) ↔ tail = [] := by
  constructor
  · intro hends
    by_contra hne
    rcases hends with hnil | hlast
    · exact hne (List.append_eq_nil_iff.mp hnil).2
    · rw [List.getLast?_append_of_ne_nil _ hne] at hlast
      exact (h _ (List.mem_of_getLast? hlast)).1 rfl
  · rintro rfl
    rw [List.append_nil]
    exact endsLine_log lines

/-- **A piece that ends inside a line has one line more than it has line breaks.** -/
theorem length_textLines {bytes : Bytes} (h : ∀ b ∈ bytes, b ≠ 0x0D) :
    (textLines bytes).length = bytes.count 0x0A + if EndsLine bytes then 0 else 1 := by
  obtain ⟨lines, tail, rfl, htail⟩ := exists_log_append h
  have hcount : tail.count 0x0A = 0 := List.count_eq_zero.mpr fun hmem => (htail _ hmem).1 rfl
  rw [textLines_log_append lines htail, List.length_append, List.length_map, List.count_append,
    count_log, hcount, Nat.add_zero]
  simp only [endsLine_log_append_iff lines htail, lastLine]
  split_ifs <;> rfl

/-- The lines of pieces: one for each line break, and one for each piece that ends inside a line. -/
theorem length_flatMap_textLines {parts : List Bytes} (h : ∀ b ∈ parts.flatten, b ≠ 0x0D) :
    (parts.flatMap textLines).length =
      parts.flatten.count 0x0A + parts.countP fun part => ¬ EndsLine part := by
  induction parts with
  | nil => rfl
  | cons part parts ih =>
    rw [List.flatten_cons] at h
    obtain ⟨hpart, hparts⟩ := List.forall_mem_append.mp h
    rw [List.flatMap_cons, List.length_append, length_textLines hpart, ih hparts, List.flatten_cons,
      List.count_append, List.countP_cons]
    by_cases hends : EndsLine part <;> simp [hends] <;> omega

theorem flatMap_textLines_of_ends {parts : List Bytes} (h : ∀ b ∈ parts.flatten, b ≠ 0x0D)
    (hends : ∀ part ∈ parts, EndsLine part) :
    ∃ lines, parts.flatten = log lines ∧ parts.flatMap textLines = lines.map LogLine.text := by
  induction parts with
  | nil => exact ⟨[], rfl, rfl⟩
  | cons part parts ih =>
    rw [List.flatten_cons] at h
    obtain ⟨hpart, hparts⟩ := List.forall_mem_append.mp h
    obtain ⟨hend, hends⟩ := List.forall_mem_cons.mp hends
    obtain ⟨lines, hflatten, hlines⟩ := ih hparts hends
    obtain ⟨first, tail, rfl, htail⟩ := exists_log_append hpart
    obtain rfl := (endsLine_log_append_iff first htail).mp hend
    refine ⟨first ++ lines, ?_, ?_⟩
    · rw [List.flatten_cons, hflatten, log_append, List.append_nil]
    · rw [List.flatMap_cons, hlines, List.append_nil, textLines_log, List.map_append]

/-- **Pieces are read as the lines of the file** exactly when each of them ends where a line ends. -/
theorem flatMap_textLines_iff {lines : List LogLine} {parts : List Bytes}
    (h : parts.flatten = log lines) :
    parts.flatMap textLines = lines.map LogLine.text ↔ ∀ part ∈ parts, EndsLine part := by
  have hreturn : ∀ b ∈ parts.flatten, b ≠ 0x0D := h ▸ log_no_return lines
  constructor
  · intro hlines
    have hlength := length_flatMap_textLines hreturn
    rw [hlines, List.length_map, h, count_log] at hlength
    have hzero : parts.countP (fun part => ¬ EndsLine part) = 0 := by omega
    intro part hpart
    simpa using List.countP_eq_zero.mp hzero part hpart
  · intro hends
    obtain ⟨lines', hflatten, hlines⟩ := flatMap_textLines_of_ends hreturn hends
    rw [hlines, ← textLines_log, ← hflatten, h, textLines_log]

end Lib
