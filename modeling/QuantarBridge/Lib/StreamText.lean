import QuantarBridge.Lib.Decimal

/-!
# Lines and numbers of an input stream

A stream gives its lines one after the other, and a number is extracted from the start of what is left,
behind blanks and a sign. A number that does not fit makes the stream fail.

* `getlines`: the lines, `getlines_append`: the first one;
* `extractUnsigned`, `extractSigned`: a number, and what stands behind it;
* `extractUnsigned_decimal`, `extractSigned_decimal`: **a number that is written and fits is extracted**.
-/

set_option autoImplicit false

namespace Lib

/-! ## Lines -/

/-- The lines of a stream, without their ends. -/
def getlines : Bytes → List Bytes
  | [] => []
  | b :: rest =>
    if b = 10 then [] :: getlines rest
    else match getlines rest with
      | [] => [[b]]
      | line :: lines => (b :: line) :: lines

theorem getlines_append {line : Bytes} (h : (10 : UInt8) ∉ line) (rest : Bytes) :
    getlines (line ++ 10 :: rest) = line :: getlines rest := by
  induction line with
  | nil => exact if_pos rfl
  | cons b line ih =>
    have hb : b ≠ 10 := fun hb => h (hb ▸ List.mem_cons_self)
    rw [List.cons_append, getlines, if_neg hb, ih fun hm => h (List.mem_cons_of_mem _ hm)]

theorem getlines_flatMap {α : Type} (f : α → Bytes) (l : List α) (h : ∀ a ∈ l, (10 : UInt8) ∉ f a) :
    getlines (l.flatMap fun a => f a ++ [10]) = l.map f := by
  induction l with
  | nil => rfl
  | cons a l ih =>
    obtain ⟨ha, hl⟩ := List.forall_mem_cons.mp h
    rw [List.flatMap_cons, List.append_assoc, List.singleton_append, getlines_append ha, ih hl,
      List.map_cons]

/-! ## Numbers -/

/-- A blank of the classic locale. -/
def isBlankByte (b : UInt8) : Bool := b = 32 ∨ (9 ≤ b.toNat ∧ b.toNat ≤ 13)

/-- A decimal digit. -/
def isDigitByte (b : UInt8) : Bool := 48 ≤ b.toNat ∧ b.toNat < 58

/-- What stands at the start of a stream: the sign, the digits, and the rest. -/
structure Extracted where
  negative : Bool
  magnitude : ℕ
  rest : Bytes

/-- A sign and digits. -/
def extractDigits (stream : Bytes) : Option Extracted :=
  let stream := stream.dropWhile isBlankByte
  let negative : Bool := stream.head? = some 45
  let stream := if stream.head? = some 45 ∨ stream.head? = some 43 then stream.tail else stream
  let digits := stream.takeWhile isDigitByte
  if digits = [] then none
  else some
    { negative := negative
      magnitude := digitsValue (digits.map fun b => b.toNat - 48)
      rest := stream.dropWhile isDigitByte }

/-- An unsigned number of `width` bits. The negative of one wraps around. -/
def extractUnsigned (width : ℕ) (stream : Bytes) : Option (ℕ × Bytes) := do
  let e ← extractDigits stream
  if e.magnitude < 2 ^ width then
    some (if e.negative then (2 ^ width - e.magnitude) % 2 ^ width else e.magnitude, e.rest)
  else none

/-- A signed number of `width` bits. -/
def extractSigned (width : ℕ) (stream : Bytes) : Option (ℤ × Bytes) := do
  let e ← extractDigits stream
  if e.negative then
    if e.magnitude ≤ 2 ^ (width - 1) then some (-(e.magnitude : ℤ), e.rest) else none
  else if e.magnitude < 2 ^ (width - 1) then some (e.magnitude, e.rest)
  else none

theorem isDigitByte_of_decimal {n : ℕ} {b : UInt8} (h : b ∈ decimal n) : isDigitByte b = true :=
  decide_eq_true (decimal_bounds h)

theorem digitsValue_decimal (n : ℕ) : digitsValue ((decimal n).map fun b => b.toNat - 48) = n := by
  have hnats : (decimal n).map (fun b => b.toNat - 48) = decimalDigits n := by
    have hn := congrArg (List.map (· - 48)) (nats_decimal n)
    rw [Bytes.nats, List.map_map, List.map_map] at hn
    refine hn.trans ?_
    exact (List.map_congr_left fun d _ => Nat.add_sub_cancel_left 48 d).trans (List.map_id _)
  rw [hnats, digitsValue_decimalDigits]

theorem decimal_nonempty (n : ℕ) : decimal n ≠ [] := by
  intro h
  have hnats := nats_decimal n
  rw [h] at hnats
  have hdigits : decimalDigits n = [] := List.map_eq_nil_iff.mp hnats.symm
  unfold decimalDigits at hdigits
  split_ifs at hdigits with hn
  exact hn (Nat.digits_eq_nil_iff_eq_zero.mp (List.reverse_eq_nil_iff.mp hdigits))

theorem extractDigits_decimal {blanks : Bytes} (hblanks : ∀ b ∈ blanks, isBlankByte b = true) (n : ℕ)
    {rest : Bytes} (hrest : ∀ b ∈ rest.head?, isDigitByte b = false) :
    extractDigits (blanks ++ (decimal n ++ rest)) = some ⟨false, n, rest⟩ := by
  obtain ⟨d, ds, hd⟩ := List.exists_cons_of_ne_nil (decimal_nonempty n)
  have hbounds := decimal_bounds (hd ▸ List.mem_cons_self : d ∈ decimal n)
  have hsign : ∀ c : UInt8, c.toNat < 48 → (decimal n ++ rest).head? ≠ some c := by
    intro c hc hhead
    rw [hd] at hhead
    have hdc : d = c := Option.some.inj hhead
    rw [hdc] at hbounds
    omega
  have hskip : (blanks ++ (decimal n ++ rest)).dropWhile isBlankByte = decimal n ++ rest := by
    rw [List.dropWhile_append_of_pos hblanks, hd, List.cons_append]
    refine List.dropWhile_cons_of_neg ?_
    unfold isBlankByte
    have hne : d ≠ 32 := fun h => by
      rw [h] at hbounds
      exact absurd hbounds.1 (by decide)
    simp only [decide_eq_true_eq, hne, false_or]
    omega
  have htake : (decimal n ++ rest).takeWhile isDigitByte = decimal n := by
    rw [List.takeWhile_append_of_pos fun b hb => isDigitByte_of_decimal hb]
    cases rest with
    | nil => exact List.append_nil _
    | cons b rest =>
      rw [List.takeWhile_cons_of_neg (by rw [hrest b rfl]; exact Bool.false_ne_true), List.append_nil]
  have hdrop : (decimal n ++ rest).dropWhile isDigitByte = rest := by
    rw [List.dropWhile_append_of_pos fun b hb => isDigitByte_of_decimal hb]
    cases rest with
    | nil => rfl
    | cons b rest =>
      exact List.dropWhile_cons_of_neg (by rw [hrest b rfl]; exact Bool.false_ne_true)
  have hnone : ¬ ((decimal n ++ rest).head? = some 45 ∨ (decimal n ++ rest).head? = some 43) :=
    fun h => h.elim (hsign 45 (by decide)) (hsign 43 (by decide))
  unfold extractDigits
  simp only [hskip, if_neg hnone]
  rw [htake, hdrop, if_neg (decimal_nonempty n), digitsValue_decimal, decide_eq_false (hsign 45 (by decide))]

/-- **A number that is written and fits is extracted.** -/
theorem extractUnsigned_decimal {width : ℕ} {blanks : Bytes}
    (hblanks : ∀ b ∈ blanks, isBlankByte b = true) {n : ℕ} (hn : n < 2 ^ width) {rest : Bytes}
    (hrest : ∀ b ∈ rest.head?, isDigitByte b = false) :
    extractUnsigned width (blanks ++ (decimal n ++ rest)) = some (n, rest) := by
  unfold extractUnsigned
  rw [extractDigits_decimal hblanks n hrest]
  exact if_pos hn

theorem extractSigned_decimal {width : ℕ} {blanks : Bytes}
    (hblanks : ∀ b ∈ blanks, isBlankByte b = true) {n : ℕ} (hn : n < 2 ^ (width - 1)) {rest : Bytes}
    (hrest : ∀ b ∈ rest.head?, isDigitByte b = false) :
    extractSigned width (blanks ++ (decimal n ++ rest)) = some ((n : ℤ), rest) := by
  unfold extractSigned
  rw [extractDigits_decimal hblanks n hrest]
  exact if_pos hn

end Lib
