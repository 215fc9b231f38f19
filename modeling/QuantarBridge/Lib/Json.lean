import QuantarBridge.Lib.Decimal

/-!
# Reading JSON

The reader of Python: strings without control characters, numbers, nested lists and objects. Of two
members with the same key the later one counts. The values of numbers with a fraction or an exponent are
left open.

* `JsonValue`, `scanString`, `scanNumber`, `scanOnce`, `jsonLoads`: the reader;
* `ReadsString`, `readsString_flatMap`: strings that are read back;
* `ReadsValue`, `readsValue_decimal`, `scanMembers_text`, `jsonLoads_text`: **an object that is printed
  one member a line is read back**.
-/

set_option autoImplicit false

namespace Lib

/-- A JSON value, over the floating-point numbers `F`. A string is a list of code points. -/
inductive JsonValue (F : Type)
  | null
  | bool (b : Bool)
  | int (n : ℤ)
  | float (x : F)
  | str (s : List ℕ)
  | list (values : List (JsonValue F))
  | object (members : List (List ℕ × JsonValue F))

/-! ## The reader -/

/-- White space of JSON. -/
def isJsonSpace (c : Char) : Bool := c = ' ' ∨ c = '\t' ∨ c = '\n' ∨ c = '\r'

/-- The text behind white space. -/
def skipSpace (s : List Char) : List Char := s.dropWhile isJsonSpace

/-- The character, and what follows it. -/
def expect (c : Char) (s : List Char) : Option (List Char) :=
  if s.head? = some c then some s.tail else none

/-- The value of a hexadecimal digit. -/
def hexDigit (c : Char) : Option ℕ :=
  if '0' ≤ c ∧ c ≤ '9' then some (c.toNat - 48)
  else if 'a' ≤ c ∧ c ≤ 'f' then some (c.toNat - 87)
  else if 'A' ≤ c ∧ c ≤ 'F' then some (c.toNat - 55)
  else none

/-- The code unit of four hexadecimal digits. -/
def hexUnit (a b c d : Char) : Option ℕ := do
  let a ← hexDigit a
  let b ← hexDigit b
  let c ← hexDigit c
  let d ← hexDigit d
  return 4096 * a + 256 * b + 16 * c + d

/-- The character that a backslash and a letter stand for. -/
def escaped (c : Char) : Option ℕ :=
  if c = '"' ∨ c = '\\' ∨ c = '/' then some c.toNat
  else if c = 'b' then some 8
  else if c = 'f' then some 12
  else if c = 'n' then some 10
  else if c = 'r' then some 13
  else if c = 't' then some 9
  else none

/-- The code units of a string, and what follows it. -/
def scanString : List Char → Option (List ℕ × List Char)
  | [] => none
  | c :: rest =>
    if c = '"' then some ([], rest)
    else if c = '\\' then
      match rest with
      | 'u' :: a :: b :: c :: d :: rest =>
        (hexUnit a b c d).bind fun u => (scanString rest).map fun (s, rest) => (u :: s, rest)
      | e :: rest => (escaped e).bind fun u => (scanString rest).map fun (s, rest) => (u :: s, rest)
      | [] => none
    else if c.toNat < 0x20 then none
    else (scanString rest).map fun (s, rest) => (c.toNat :: s, rest)

/-- Two surrogates are one code point. -/
def joinSurrogates : List ℕ → List ℕ
  | u :: v :: rest =>
    if (0xD800 ≤ u ∧ u < 0xDC00) ∧ 0xDC00 ≤ v ∧ v < 0xE000 then
      (0x10000 + 0x400 * (u - 0xD800) + (v - 0xDC00)) :: joinSurrogates rest
    else u :: joinSurrogates (v :: rest)
  | s => s

/-- The digits of a number before its fraction. -/
def scanDigits : List Char → Option (List Char × List Char)
  | '0' :: rest => some (['0'], rest)
  | c :: rest => if c.isDigit then some ((c :: rest).span Char.isDigit) else none
  | [] => none

/-- The fraction of a number, if there is one. -/
def scanFraction : List Char → List Char × List Char
  | '.' :: rest =>
    let (digits, after) := rest.span Char.isDigit
    if digits = [] then ([], '.' :: rest) else ('.' :: digits, after)
  | s => ([], s)

/-- The exponent of a number, if there is one. -/
def scanExponent : List Char → List Char × List Char
  | c :: rest =>
    if c = 'e' ∨ c = 'E' then
      let sign := rest.take (if rest.head? = some '+' ∨ rest.head? = some '-' then 1 else 0)
      let (digits, after) := (rest.drop sign.length).span Char.isDigit
      if digits = [] then ([], c :: rest) else (c :: sign ++ digits, after)
    else ([], c :: rest)
  | [] => ([], [])

section Reader

variable {F : Type} (float : List Char → F)

/-- A number. An integer of more than 4300 digits is an error. -/
def scanNumber (s : List Char) : Option (JsonValue F × List Char) :=
  let (sign, unsigned) := if s.head? = some '-' then (['-'], s.drop 1) else ([], s)
  (scanDigits unsigned).bind fun (digits, rest) =>
    let (fraction, rest) := scanFraction rest
    let (exponent, rest) := scanExponent rest
    if fraction = [] ∧ exponent = [] then
      let value := digitsValue (digits.map fun c => c.toNat - 48)
      if 4300 < digits.length then none
      else some (.int (if sign = [] then value else -value), rest)
    else some (.float (float (sign ++ digits ++ fraction ++ exponent)), rest)

/-- The words for values that are neither strings nor numbers, and the floating-point numbers without
digits. -/
def scanWord (s : List Char) : Option (JsonValue F × List Char) :=
  let words : List (List Char × JsonValue F) :=
    [("null".toList, .null), ("true".toList, .bool true), ("false".toList, .bool false),
      ("NaN".toList, .float (float "NaN".toList)),
      ("Infinity".toList, .float (float "Infinity".toList)),
      ("-Infinity".toList, .float (float "-Infinity".toList))]
  words.findSome? fun (word, value) => (word.isPrefixOf? s).map fun rest => (value, rest)

mutual

/-- A value, and what follows it. Every level of nesting takes one of `fuel`. -/
def scanOnce : ℕ → List Char → Option (JsonValue F × List Char)
  | 0, _ => none
  | _ + 1, [] => none
  | fuel + 1, c :: rest =>
    if c = '"' then (scanString rest).map fun (s, rest) => (.str (joinSurrogates s), rest)
    else if c = '\x7b' then
      match expect '\x7d' (skipSpace rest) with
      | some rest => some (.object [], rest)
      | none =>
        (scanMembers fuel (skipSpace rest)).map fun (members, rest) => (.object members, rest)
    else if c = '[' then
      match expect ']' (skipSpace rest) with
      | some rest => some (.list [], rest)
      | none => (scanElements fuel (skipSpace rest)).map fun (values, rest) => (.list values, rest)
    else (scanWord float (c :: rest)).or (scanNumber float (c :: rest))

/-- The elements of a list up to its end. -/
def scanElements : ℕ → List Char → Option (List (JsonValue F) × List Char)
  | 0, _ => none
  | fuel + 1, s =>
    (scanOnce fuel s).bind fun (value, rest) =>
      match expect ']' (skipSpace rest) with
      | some rest => some ([value], rest)
      | none => (expect ',' (skipSpace rest)).bind fun rest =>
        (scanElements fuel (skipSpace rest)).map fun (values, rest) => (value :: values, rest)

/-- The members of an object up to its end. -/
def scanMembers : ℕ → List Char → Option (List (List ℕ × JsonValue F) × List Char)
  | 0, _ => none
  | fuel + 1, s =>
    (expect '"' s).bind fun rest => (scanString rest).bind fun (key, rest) =>
      (expect ':' (skipSpace rest)).bind fun rest =>
        (scanOnce fuel (skipSpace rest)).bind fun (value, rest) =>
          let entry := (joinSurrogates key, value)
          match expect '\x7d' (skipSpace rest) with
          | some rest => some ([entry], rest)
          | none => (expect ',' (skipSpace rest)).bind fun rest =>
            (scanMembers fuel (skipSpace rest)).map fun (members, rest) => (entry :: members, rest)

end

/-- `json.loads`. The text is longer than it is nested. -/
def jsonLoads (text : List Char) : Option (JsonValue F) :=
  if text.head? = some (Char.ofNat 0xFEFF) then none
  else (scanOnce float (text.length + 1) (skipSpace text)).bind fun (value, rest) =>
    if skipSpace rest = [] then some value else none

end Reader

/-! ## Strings that are read back -/

/-- A piece of a string that stands for these code units. -/
def ReadsString (piece : List Char) (units : List ℕ) : Prop :=
  ∀ rest, scanString (piece ++ rest) = (scanString rest).map fun (s, rest) => (units ++ s, rest)

theorem readsString_nil : ReadsString [] [] := by
  intro rest
  rw [List.nil_append]
  cases scanString rest <;> rfl

theorem ReadsString.append {a b : List Char} {u v : List ℕ} (ha : ReadsString a u)
    (hb : ReadsString b v) : ReadsString (a ++ b) (u ++ v) := by
  intro rest
  rw [List.append_assoc, ha, hb, Option.map_map]
  congr 1
  funext ⟨s, rest⟩
  simp

theorem readsString_flatMap {α : Type} {piece : α → List Char} {units : α → List ℕ} {l : List α}
    (h : ∀ a ∈ l, ReadsString (piece a) (units a)) :
    ReadsString (l.flatMap piece) (l.flatMap units) := by
  induction l with
  | nil => exact readsString_nil
  | cons a l ih =>
    obtain ⟨ha, hl⟩ := List.forall_mem_cons.mp h
    exact ha.append (ih hl)

/-- A character that stands for itself in a string. -/
def StandsForItself (c : Char) : Prop := c ≠ '"' ∧ c ≠ '\\' ∧ 0x20 ≤ c.toNat

instance (c : Char) : Decidable (StandsForItself c) := inferInstanceAs (Decidable (_ ∧ _))

theorem readsString_self {c : Char} (h : StandsForItself c) : ReadsString [c] [c.toNat] := by
  intro rest
  rw [List.singleton_append, scanString.eq_def]
  dsimp only
  rw [if_neg h.1, if_neg h.2.1, if_neg (Nat.not_lt.mpr h.2.2)]
  rfl

theorem readsString_escaped {c : Char} {u : ℕ} (hc : c ≠ 'u') (h : escaped c = some u) :
    ReadsString ['\\', c] [u] := by
  intro rest
  have hstep : scanString ('\\' :: c :: rest) =
      (escaped c).bind fun u => (scanString rest).map fun (s, rest) => (u :: s, rest) := by
    rw [scanString.eq_def]
    dsimp only
    rw [if_neg (by decide), if_pos rfl]
    split
    · rename_i heq
      cases heq
      exact absurd rfl hc
    · rename_i heq
      cases heq
      rfl
    · rename_i heq
      cases heq
  rw [List.cons_append, List.singleton_append, hstep, h]
  rfl

theorem readsString_hex {a b c d : Char} {u : ℕ} (h : hexUnit a b c d = some u) :
    ReadsString ['\\', 'u', a, b, c, d] [u] := by
  intro rest
  have hstep : scanString ('\\' :: 'u' :: a :: b :: c :: d :: rest) =
      (hexUnit a b c d).bind fun u => (scanString rest).map fun (s, rest) => (u :: s, rest) := by
    rw [scanString.eq_def]
    dsimp only
    rw [if_neg (by decide), if_pos rfl]
    rfl
  simp only [List.cons_append, List.nil_append]
  rw [hstep, h]
  rfl

theorem ReadsString.scan {piece : List Char} {units : List ℕ} (h : ReadsString piece units)
    (rest : List Char) : scanString (piece ++ '"' :: rest) = some (units, rest) := by
  have hend : scanString ('"' :: rest) = some ([], rest) := by
    rw [scanString.eq_def]
    exact if_pos rfl
  rw [h, hend, Option.map_some]
  simp

theorem joinSurrogates_of_not {s : List ℕ} (h : ∀ u ∈ s, ¬ (0xD800 ≤ u ∧ u < 0xDC00)) :
    joinSurrogates s = s := by
  induction s with
  | nil => rfl
  | cons u s ih =>
    obtain ⟨hu, hs⟩ := List.forall_mem_cons.mp h
    cases s with
    | nil => rfl
    | cons v rest => rw [joinSurrogates, if_neg fun hpair => hu hpair.1, ih hs]

/-! ## Values that are read back -/

section ReadBack

variable {F : Type} {float : List Char → F}

/-- What may follow a value. -/
def EndsValue (rest : List Char) : Prop := rest.head? = some ',' ∨ rest.head? = some '\n'

/-- A text that is read as a value, whatever level it is on. -/
structure ReadsValue (float : List Char → F) (text : List Char) (value : JsonValue F) : Prop where
  start : ∃ c rest, text = c :: rest ∧ isJsonSpace c = false
  scan : ∀ fuel rest, EndsValue rest → scanOnce float (fuel + 1) (text ++ rest) = some (value, rest)

theorem readsValue_string {piece : List Char} {units : List ℕ} (h : ReadsString piece units)
    (hunits : ∀ u ∈ units, ¬ (0xD800 ≤ u ∧ u < 0xDC00)) :
    ReadsValue float ('"' :: (piece ++ ['"'])) (.str units) where
  start := ⟨'"', _, rfl, rfl⟩
  scan fuel rest _ := by
    have hscan := h.scan rest
    rw [List.cons_append, List.append_assoc, List.singleton_append, scanOnce.eq_def]
    dsimp only
    rw [if_pos rfl, hscan, Option.map_some, joinSurrogates_of_not hunits]

theorem readsValue_bool (b : Bool) :
    ReadsValue float (if b then "true" else "false").toList (.bool b) where
  start := by cases b <;> exact ⟨_, _, rfl, rfl⟩
  scan fuel rest _ := by
    cases b <;> rfl

/-- The decimal digits of a number as characters. -/
def decimalText (n : ℕ) : List Char := (decimalDigits n).map fun d => Char.ofNat (48 + d)

theorem digitChar_spec {d : ℕ} (h : d < 10) :
    let c := Char.ofNat (48 + d)
    c.isDigit = true ∧ c.toNat = 48 + d ∧ isJsonSpace c = false ∧
      c ≠ '"' ∧ c ≠ '\x7b' ∧ c ≠ '[' ∧ c ≠ '-' ∧ c ≠ 'n' ∧ c ≠ 't' ∧ c ≠ 'f' ∧ c ≠ 'N' ∧ c ≠ 'I' := by
  have hall : ∀ d : Fin 10, let c := Char.ofNat (48 + d.val)
      c.isDigit = true ∧ c.toNat = 48 + d.val ∧ isJsonSpace c = false ∧ c ≠ '"' ∧ c ≠ '\x7b' ∧
        c ≠ '[' ∧ c ≠ '-' ∧ c ≠ 'n' ∧ c ≠ 't' ∧ c ≠ 'f' ∧ c ≠ 'N' ∧ c ≠ 'I' := by decide
  exact hall ⟨d, h⟩

theorem span_digits {ds rest : List Char} (hds : ∀ c ∈ ds, c.isDigit = true)
    (hrest : EndsValue rest) : (ds ++ rest).span Char.isDigit = (ds, rest) := by
  have hstop : rest.takeWhile Char.isDigit = [] ∧ rest.dropWhile Char.isDigit = rest := by
    rcases rest with _ | ⟨c, rest⟩
    · exact ⟨rfl, rfl⟩
    · have hc : c.isDigit = false := by
        rcases hrest with h | h <;> cases h <;> decide
      simp [hc]
  rw [List.span_eq_takeWhile_dropWhile, List.takeWhile_append_of_pos hds,
    List.dropWhile_append_of_pos hds, hstop.1, hstop.2, List.append_nil]

theorem decimalDigits_cons {n : ℕ} (hn : n ≠ 0) : ∃ d ds, decimalDigits n = d :: ds ∧ d ≠ 0 := by
  have hne := (Nat.digits_ne_nil_iff_ne_zero (b := 10)).mpr hn
  obtain ⟨init, last, hdigits⟩ := (List.eq_nil_or_concat (Nat.digits 10 n)).resolve_left hne
  have hlast := Nat.getLast_digit_ne_zero 10 hn
  rw [List.concat_eq_append] at hdigits
  simp only [hdigits, List.getLast_append_singleton] at hlast
  exact ⟨last, init.reverse, by simp [decimalDigits, hn, hdigits], hlast⟩

theorem decimalText_isDigit {n : ℕ} : ∀ c ∈ decimalText n, c.isDigit = true := by
  intro c hc
  obtain ⟨d, hd, rfl⟩ := List.mem_map.mp hc
  exact (digitChar_spec (decimalDigits_lt hd)).1

theorem decimalText_cons (n : ℕ) : ∃ d ds, decimalText n = Char.ofNat (48 + d) :: ds ∧ d < 10 ∧
    (d = 0 → ds = []) := by
  by_cases hn : n = 0
  · subst hn
    exact ⟨0, [], rfl, by omega, fun _ => rfl⟩
  · obtain ⟨d, ds, hdigits, hd⟩ := decimalDigits_cons hn
    refine ⟨d, _, by rw [decimalText, hdigits, List.map_cons], ?_, fun h => absurd h hd⟩
    exact decimalDigits_lt (n := n) (by rw [hdigits]; exact List.mem_cons_self)

theorem scanDigits_decimal (n : ℕ) {rest : List Char} (hrest : EndsValue rest) :
    scanDigits (decimalText n ++ rest) = some (decimalText n, rest) := by
  obtain ⟨d, ds, htext, hd, hzero⟩ := decimalText_cons n
  have hspan := span_digits (decimalText_isDigit (n := n)) hrest
  rw [htext] at hspan ⊢
  by_cases h0 : d = 0
  · obtain rfl := hzero h0
    subst h0
    rfl
  · have hne : Char.ofNat (48 + d) ≠ '0' := by
      intro he
      have := congrArg Char.toNat he
      rw [(digitChar_spec hd).2.1] at this
      change 48 + d = 48 at this
      omega
    rw [List.cons_append, scanDigits.eq_def]
    split
    · rename_i heq
      exact absurd (List.cons.inj heq).1 hne
    · rename_i heq
      obtain ⟨rfl, rfl⟩ := List.cons.inj heq
      rw [if_pos (digitChar_spec hd).1]
      exact congrArg some hspan
    · rename_i heq
      cases heq

theorem scanWord_digit {d : ℕ} (hd : d < 10) (rest : List Char) :
    scanWord float (Char.ofNat (48 + d) :: rest) = none := by
  obtain ⟨-, -, -, -, -, -, hminus, hn, ht, hf, hN, hI⟩ := digitChar_spec hd
  simp [scanWord, List.isPrefixOf?, hminus.symm, hn.symm, ht.symm, hf.symm, hN.symm, hI.symm]

theorem scanNumber_decimal {n : ℕ} (hn : (decimalDigits n).length ≤ 4300) {rest : List Char}
    (hrest : EndsValue rest) :
    scanNumber float (decimalText n ++ rest) = some (.int n, rest) := by
  obtain ⟨d, ds, htext, hd, -⟩ := decimalText_cons n
  have hsign : ¬ (decimalText n ++ rest).head? = some '-' := by
    rw [htext]
    simpa using (digitChar_spec hd).2.2.2.2.2.2.1
  have hfraction : scanFraction rest = ([], rest) ∧ scanExponent rest = ([], rest) := by
    rcases rest with _ | ⟨c, rest⟩
    · exact ⟨rfl, rfl⟩
    · rcases hrest with h | h <;> cases h <;> exact ⟨rfl, rfl⟩
  have hvalue : (decimalText n).map (fun c => c.toNat - 48) = decimalDigits n := by
    rw [decimalText, List.map_map]
    conv_rhs => rw [← List.map_id (decimalDigits n)]
    refine List.map_congr_left fun e he => ?_
    have := (digitChar_spec (decimalDigits_lt he)).2.1
    simp only [Function.comp_apply, id_eq]
    omega
  have hlength : (decimalText n).length = (decimalDigits n).length := List.length_map _
  unfold scanNumber
  rw [if_neg hsign]
  dsimp only
  rw [scanDigits_decimal n hrest, Option.bind_some, hfraction.1]
  dsimp only
  rw [hfraction.2]
  dsimp only
  rw [if_pos ⟨rfl, rfl⟩, if_neg (by omega), if_pos rfl, hvalue, digitsValue_decimalDigits]

/-- **A number is read back.** -/
theorem readsValue_decimal {n : ℕ} (hn : (decimalDigits n).length ≤ 4300) :
    ReadsValue float (decimalText n) (.int n) where
  start := by
    obtain ⟨d, ds, htext, hd, -⟩ := decimalText_cons n
    exact ⟨_, ds, htext, (digitChar_spec hd).2.2.1⟩
  scan fuel rest hrest := by
    obtain ⟨d, ds, htext, hd, -⟩ := decimalText_cons n
    obtain ⟨-, -, -, hquote, hbrace, hbracket, -⟩ := digitChar_spec hd
    have hnumber : scanNumber float (decimalText n ++ rest) = some (.int n, rest) :=
      scanNumber_decimal hn hrest
    rw [htext, List.cons_append] at hnumber ⊢
    rw [scanOnce.eq_def]
    dsimp only
    rw [if_neg hquote, if_neg hbrace, if_neg hbracket, scanWord_digit hd, Option.none_or, hnumber]

/-! ## Objects that are read back -/

/-- A member as it is printed: its key, and the text of its value. -/
structure MemberText where
  key : List Char
  value : List Char

/-- The members of an object, one a line. -/
def membersText : List MemberText → List Char
  | [] => []
  | m :: ms => "  \"".toList ++ m.key ++ "\": ".toList ++ m.value ++
    (if ms.isEmpty then ['\n'] else ',' :: '\n' :: membersText ms)

/-- An object as it is printed. -/
def objectText (ms : List MemberText) : List Char :=
  ['\x7b', '\n'] ++ membersText ms ++ ['\x7d', '\n']

/-- The member is read as a key with a value. -/
def ReadsMember (float : List Char → F) (m : MemberText) (entry : List ℕ × JsonValue F) : Prop :=
  (∀ c ∈ m.key, StandsForItself c) ∧ m.key.map Char.toNat = entry.1 ∧
    ReadsValue float m.value entry.2

theorem skipSpace_cons {c : Char} (h : isJsonSpace c = false) (rest : List Char) :
    skipSpace (c :: rest) = c :: rest := by
  simp [skipSpace, h]

theorem joinSurrogates_key {key : List Char} : joinSurrogates (key.map Char.toNat) = key.map Char.toNat := by
  apply joinSurrogates_of_not
  intro u hu
  obtain ⟨c, -, rfl⟩ := List.mem_map.mp hu
  have h := c.valid
  change ¬ (0xD800 ≤ c.val.toNat ∧ c.val.toNat < 0xDC00)
  unfold UInt32.isValidChar Nat.isValidChar at h
  omega

theorem readsString_plain {text : List Char} (h : ∀ c ∈ text, StandsForItself c) :
    ReadsString text (text.map Char.toNat) := by
  have hflat : ReadsString (text.flatMap fun c => [c]) (text.flatMap fun c => [c.toNat]) :=
    readsString_flatMap fun c hc => readsString_self (h c hc)
  rwa [List.flatMap_singleton', ← List.map_eq_flatMap] at hflat

@[simp]
theorem expect_cons (c : Char) (rest : List Char) : expect c (c :: rest) = some rest := by
  simp [expect]

theorem expect_of_ne {c d : Char} (h : d ≠ c) (rest : List Char) : expect c (d :: rest) = none := by
  simp [expect, h]

/-- What the reader does with a member and what follows it. -/
theorem scanMembers_member {m : MemberText} {entry : List ℕ × JsonValue F}
    (h : ReadsMember float m entry) (fuel : ℕ) {rest : List Char} (hrest : EndsValue rest) :
    scanMembers float (fuel + 2)
        (skipSpace ("  \"".toList ++ m.key ++ "\": ".toList ++ m.value ++ rest)) =
      match expect '\x7d' (skipSpace rest) with
      | some rest => some ([entry], rest)
      | none => (expect ',' (skipSpace rest)).bind fun rest =>
        (scanMembers float (fuel + 1) (skipSpace rest)).map fun (members, rest) =>
          (entry :: members, rest) := by
  obtain ⟨hkey, hunits, hvalue⟩ := h
  obtain ⟨c, vs, hstart, hspace⟩ := hvalue.start
  have hskip : skipSpace ("  \"".toList ++ m.key ++ "\": ".toList ++ m.value ++ rest) =
      '"' :: (m.key ++ '"' :: (':' :: ' ' :: (m.value ++ rest))) := by
    simp [skipSpace, isJsonSpace]
  have hbefore : skipSpace (' ' :: (m.value ++ rest)) = m.value ++ rest := by
    rw [hstart, List.cons_append]
    have : skipSpace (' ' :: c :: (vs ++ rest)) = skipSpace (c :: (vs ++ rest)) := rfl
    rw [this, skipSpace_cons hspace]
  rw [hskip, scanMembers, expect_cons, Option.bind_some, (readsString_plain hkey).scan,
    Option.bind_some]
  dsimp only
  rw [skipSpace_cons rfl, expect_cons, Option.bind_some, hbefore, hvalue.scan fuel rest hrest,
    Option.bind_some, joinSurrogates_key, hunits]

/-- **The members of an object are read back.** -/
theorem scanMembers_text {ms : List MemberText} {entries : List (List ℕ × JsonValue F)}
    (h : List.Forall₂ (ReadsMember float) ms entries) (hne : ms ≠ []) (rest : List Char) :
    ∀ fuel, ms.length ≤ fuel →
      scanMembers float (fuel + 1) (skipSpace (membersText ms ++ '\x7d' :: rest)) =
        some (entries, rest) := by
  induction h with
  | nil => exact absurd rfl hne
  | @cons m entry ms entries hm hms ih =>
    intro fuel hfuel
    rw [List.length_cons] at hfuel
    obtain ⟨fuel, rfl⟩ : ∃ k, fuel = k + 1 := ⟨fuel - 1, by omega⟩
    cases ms with
    | nil =>
      cases hms
      rw [membersText, List.append_assoc, scanMembers_member hm fuel (Or.inr rfl)]
      rfl
    | cons m' ms =>
      have hnext := ih (List.cons_ne_nil m' ms) fuel (by omega)
      have hcomma : skipSpace (',' :: '\n' :: (membersText (m' :: ms) ++ '\x7d' :: rest)) =
          ',' :: '\n' :: (membersText (m' :: ms) ++ '\x7d' :: rest) := skipSpace_cons rfl _
      have hline : skipSpace ('\n' :: (membersText (m' :: ms) ++ '\x7d' :: rest)) =
          skipSpace (membersText (m' :: ms) ++ '\x7d' :: rest) := rfl
      rw [membersText, List.append_assoc, List.isEmpty_cons, if_neg Bool.false_ne_true,
        List.cons_append, List.cons_append, scanMembers_member hm fuel (Or.inl rfl), hcomma,
        expect_of_ne (by decide)]
      dsimp only
      rw [expect_cons, Option.bind_some, hline, hnext]
      rfl

theorem length_le_membersText (ms : List MemberText) : ms.length ≤ (membersText ms).length := by
  induction ms with
  | nil => exact Nat.zero_le _
  | cons m ms ih =>
    rw [membersText]
    simp only [List.length_append, List.length_cons]
    cases ms with
    | nil => simp
    | cons m' ms =>
      simp only [List.isEmpty_cons, Bool.false_eq_true, if_false, List.length_cons] at ih ⊢
      omega

/-- **An object is read back.** -/
theorem jsonLoads_text {ms : List MemberText} {entries : List (List ℕ × JsonValue F)}
    (h : List.Forall₂ (ReadsMember float) ms entries) (hne : ms ≠ []) :
    jsonLoads float (objectText ms) = some (.object entries) := by
  have hlength := length_le_membersText ms
  have hmembers := scanMembers_text h hne ['\n']
  obtain ⟨rest, hquote⟩ : ∃ rest, skipSpace (membersText ms ++ ['\x7d', '\n']) = '"' :: rest := by
    obtain ⟨m, ms', rfl⟩ := List.exists_cons_of_ne_nil hne
    exact ⟨_, by rw [membersText]; simp [skipSpace, isJsonSpace]; rfl⟩
  have htext : objectText ms = '\x7b' :: '\n' :: (membersText ms ++ ['\x7d', '\n']) := by
    simp [objectText]
  have hline : skipSpace ('\n' :: (membersText ms ++ ['\x7d', '\n'])) =
      skipSpace (membersText ms ++ ['\x7d', '\n']) := rfl
  unfold jsonLoads
  rw [htext, if_neg (by simp), skipSpace_cons rfl, scanOnce, if_neg (by decide), if_pos rfl,
    hline, hquote, expect_of_ne (by decide)]
  dsimp only
  rw [← hquote]
  simp only [List.length_cons]
  rw [hmembers _ (by simp only [List.length_append]; omega)]
  rfl

end ReadBack

end Lib
