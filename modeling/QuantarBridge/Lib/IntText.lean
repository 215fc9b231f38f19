import QuantarBridge.Lib.Decimal

/-!
# Integers in text

A text is read as an integer as Python's `int` reads it: a sign, and decimal digits of any script
with single underscores between them.

* `digitOf`, `digitsOf`: the digits, those of Unicode 14;
* `intOfText`: the integer;
* `intOfText_toDigits`: **a number in decimal digits is read back**.
-/

set_option autoImplicit false

namespace Lib

/-- The zeros. Nine further digits follow each of them. -/
def decimalZeros : List ℕ :=
  [0x30, 0x660, 0x6f0, 0x7c0, 0x966, 0x9e6, 0xa66, 0xae6, 0xb66, 0xbe6, 0xc66, 0xce6, 0xd66, 0xde6,
    0xe50, 0xed0, 0xf20, 0x1040, 0x1090, 0x17e0, 0x1810, 0x1946, 0x19d0, 0x1a80, 0x1a90, 0x1b50,
    0x1bb0, 0x1c40, 0x1c50, 0xa620, 0xa8d0, 0xa900, 0xa9d0, 0xa9f0, 0xaa50, 0xabf0, 0xff10, 0x104a0,
    0x10d30, 0x11066, 0x110f0, 0x11136, 0x111d0, 0x112f0, 0x11450, 0x114d0, 0x11650, 0x116c0,
    0x11730, 0x118e0, 0x11950, 0x11c50, 0x11d50, 0x11da0, 0x16a60, 0x16ac0, 0x16b50, 0x1d7ce,
    0x1d7d8, 0x1d7e2, 0x1d7ec, 0x1d7f6, 0x1e140, 0x1e2f0, 0x1e950, 0x1fbf0]

/-- The value of a decimal digit. -/
def digitOf (c : Char) : Option ℕ :=
  (decimalZeros.find? fun z => z ≤ c.toNat ∧ c.toNat < z + 10).map fun z => c.toNat - z

/-- The digits of a number, perhaps with single underscores between them. -/
def digitsOf : List Char → Option (List ℕ)
  | [] => none
  | [c] => (digitOf c).map fun d => [d]
  | c :: '_' :: text => do return (← digitOf c) :: (← digitsOf text)
  | c :: text => do return (← digitOf c) :: (← digitsOf text)

/-- The number without its sign. Longer numbers than `sys.int_max_str_digits` are refused. -/
def natOfText (text : List Char) : Option ℕ := do
  let digits ← digitsOf text
  if digits.length ≤ 4300 then some (digitsValue digits) else none

/-- The integer that a text without white space at its ends stands for. -/
def intOfText : List Char → Option ℤ
  | '-' :: text => (natOfText text).map fun n => -(n : ℤ)
  | '+' :: text => (natOfText text).map fun n => (n : ℤ)
  | text => (natOfText text).map fun n => (n : ℤ)

theorem digitOf_of_isDigit {c : Char} (h : c.isDigit = true) : digitOf c = some (c.toNat - 48) := by
  simp only [Char.isDigit, Bool.and_eq_true, decide_eq_true_eq] at h
  have h48 : 48 ≤ c.toNat := h.1
  have h57 : c.toNat ≤ 57 := h.2
  have hfirst : (0x30 ≤ c.toNat ∧ c.toNat < 0x30 + 10) := by omega
  rw [digitOf, decimalZeros, List.find?_cons_of_pos (by simpa using hfirst)]
  rfl

theorem digitsOf_of_isDigit {text : List Char} (hne : text ≠ [])
    (h : ∀ c ∈ text, c.isDigit = true) : digitsOf text = some (text.map fun c => c.toNat - 48) := by
  fun_induction digitsOf text with
  | case1 => exact absurd rfl hne
  | case2 c => simp [digitOf_of_isDigit (h c (by simp))]
  | case3 c text => exact absurd (h '_' (by simp)) (by decide)
  | case4 c text hlen hunder ih =>
    simp [digitOf_of_isDigit (h c (by simp)), ih hlen fun d hd => h d (by simp [hd])]

theorem digitsValue_map_isDigit (text : List Char) :
    digitsValue (text.map fun c => c.toNat - 48) = Nat.ofDigitChars 10 text 0 := by
  rw [digitsValue, List.foldl_map, Nat.ofDigitChars_eq_foldl]
  rfl

/-- **A number in decimal digits is read back.** -/
theorem intOfText_toDigits {n : ℕ} (h : (Nat.toDigits 10 n).length ≤ 4300) :
    intOfText (Nat.toDigits 10 n) = some (n : ℤ) := by
  have hdigit : ∀ c ∈ Nat.toDigits 10 n, c.isDigit = true := fun c hc =>
    Nat.isDigit_of_mem_toDigits (by decide) (by decide) hc
  have hnat : natOfText (Nat.toDigits 10 n) = some n := by
    rw [natOfText, digitsOf_of_isDigit Nat.toDigits_ne_nil hdigit]
    simp only [Option.bind_eq_bind, Option.bind_some, List.length_map, if_pos h]
    rw [digitsValue_map_isDigit, Nat.ofDigitChars_ten_toDigits]
  cases ht : Nat.toDigits 10 n with
  | nil => exact absurd ht Nat.toDigits_ne_nil
  | cons c text =>
    have hc : c.isDigit = true := hdigit c (by rw [ht]; exact List.mem_cons_self)
    rw [← ht, intOfText, hnat]
    · rfl
    · rintro rest h
      rw [ht] at h
      cases h
      cases hc
    · rintro rest h
      rw [ht] at h
      cases h
      cases hc

end Lib
