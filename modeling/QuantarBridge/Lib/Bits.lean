import Mathlib.Data.List.GetD
import QuantarBridge.Lib.Decimal

/-!
# Bits of byte strings

The bits of a byte string are counted from the most significant bit of its first byte. Beyond the end
there are no bits that are set.

* `bit`, `setBit`: one bit;
* `eq_of_bit`: **byte strings of one length are equal when their bits are**;
* `keepBits`: the byte string with only its first bits;
* `bit_setBits`: bits that are set one after the other.
-/

set_option autoImplicit false

namespace Lib

/-- A bit of a byte string. -/
def bit (data : Bytes) (i : ℕ) : Bool := (data.getD (i / 8) 0).toNat.testBit (7 - i % 8)

/-- The byte string with a bit set. -/
def setBit (data : Bytes) (i : ℕ) : Bytes :=
  data.modify (i / 8) (· ||| UInt8.ofNat (2 ^ (7 - i % 8)))

/-- The first bits of a byte. -/
def keepMask (n : ℕ) : UInt8 := UInt8.ofNat (256 - 2 ^ (8 - n))

/-- The byte string with only its first bits. -/
def keepBits : ℕ → Bytes → Bytes
  | _, [] => []
  | n, b :: data => (b &&& keepMask n) :: keepBits (n - 8) data

variable {data : Bytes} {i j : ℕ}

@[simp]
theorem length_setBit (data : Bytes) (i : ℕ) : (setBit data i).length = data.length :=
  List.length_modify ..

@[simp]
theorem length_keepBits (n : ℕ) (data : Bytes) : (keepBits n data).length = data.length := by
  induction data generalizing n with
  | nil => rfl
  | cons b data ih => exact congrArg (· + 1) (ih (n - 8))

theorem bit_of_le (h : 8 * data.length ≤ i) : bit data i = false := by
  unfold bit
  rw [List.getD_eq_default _ _ (by omega)]
  exact Nat.zero_testBit _

/-! ## One byte -/

theorem testBit_two_pow_byte {k l : ℕ} (hk : k < 8) (hl : l < 8) :
    (UInt8.ofNat (2 ^ k)).toNat.testBit l = decide (k = l) := by
  have h : ∀ k l : Fin 8, (UInt8.ofNat (2 ^ k.val)).toNat.testBit l.val = decide (k.val = l.val) := by
    decide
  exact h ⟨k, hk⟩ ⟨l, hl⟩

theorem byte_eq {b c : UInt8} (h : ∀ k < 8, b.toNat.testBit k = c.toNat.testBit k) : b = c := by
  refine UInt8.toNat_inj.mp (Nat.eq_of_testBit_eq fun k => ?_)
  by_cases hk : k < 8
  · exact h k hk
  · have hpow : 2 ^ 8 ≤ 2 ^ k := Nat.pow_le_pow_right (by omega) (by omega)
    rw [Nat.testBit_lt_two_pow (Nat.lt_of_lt_of_le b.toNat_lt hpow),
      Nat.testBit_lt_two_pow (Nat.lt_of_lt_of_le c.toNat_lt hpow)]

theorem testBit_keepMask (n : ℕ) {k : ℕ} (hk : k < 8) :
    (keepMask n).toNat.testBit (7 - k) = decide (k < n) := by
  have h : ∀ n k : Fin 8, (keepMask n.val).toNat.testBit (7 - k.val) = decide (k.val < n.val) := by
    decide
  by_cases hn : n < 8
  · exact h ⟨n, hn⟩ ⟨k, hk⟩
  · have hall : ∀ k : Fin 8, (keepMask 8).toNat.testBit (7 - k.val) = true := by decide
    have hmask : keepMask n = keepMask 8 := by
      unfold keepMask
      rw [show 8 - n = 8 - 8 by omega]
    rw [hmask, hall ⟨k, hk⟩, decide_eq_true (by omega)]

/-! ## Byte strings -/

theorem bit_setBit (h : i < 8 * data.length) (j : ℕ) :
    bit (setBit data i) j = (decide (i = j) || bit data j) := by
  have hi : i / 8 < data.length := by omega
  unfold bit setBit
  by_cases hj : i / 8 = j / 8
  · have hk : 7 - i % 8 = 7 - j % 8 ↔ i = j := by omega
    rw [← hj, List.getD_eq_getElem _ _ hi, List.getD_eq_getElem _ _ (by rwa [List.length_modify]),
      List.getElem_modify, if_pos rfl, UInt8.toNat_or, Nat.testBit_or,
      testBit_two_pow_byte (by omega) (by omega), Bool.or_comm, decide_eq_decide.mpr hk]
  · have hne : i ≠ j := fun h => hj (by rw [h])
    rw [List.getD_eq_getElem?_getD, List.getElem?_modify_ne _ _ hj, decide_eq_false hne,
      Bool.false_or, List.getD_eq_getElem?_getD]

/-- **Byte strings of one length are equal when their bits are.** -/
theorem eq_of_bit {data' : Bytes} (hlength : data.length = data'.length)
    (h : ∀ i < 8 * data.length, bit data i = bit data' i) : data = data' := by
  refine List.ext_getElem hlength fun k hk hk' => byte_eq fun l hl => ?_
  have hbit := h (8 * k + (7 - l)) (by omega)
  unfold bit at hbit
  rw [show (8 * k + (7 - l)) / 8 = k by omega, show 7 - (8 * k + (7 - l)) % 8 = l by omega,
    List.getD_eq_getElem _ _ hk, List.getD_eq_getElem _ _ hk'] at hbit
  exact hbit

theorem bit_keepBits (n : ℕ) (data : Bytes) (i : ℕ) :
    bit (keepBits n data) i = (decide (i < n) && bit data i) := by
  induction data generalizing n i with
  | nil =>
    unfold keepBits
    rw [bit_of_le (Nat.zero_le _), Bool.and_false]
  | cons b data ih =>
    unfold keepBits
    by_cases hi : i < 8
    · unfold bit
      rw [show i / 8 = 0 by omega, show i % 8 = i by omega]
      show (b &&& keepMask n).toNat.testBit (7 - i) = (_ && b.toNat.testBit (7 - i))
      rw [UInt8.toNat_and, Nat.testBit_and, testBit_keepMask n hi, Bool.and_comm]
    · have hbit : ∀ (c : UInt8) (rest : Bytes), bit (c :: rest) i = bit rest (i - 8) := by
        intro c rest
        unfold bit
        rw [show i / 8 = (i - 8) / 8 + 1 by omega, show i % 8 = (i - 8) % 8 by omega]
        rfl
      have hn : i - 8 < n - 8 ↔ i < n := by omega
      rw [hbit, hbit, ih, decide_eq_decide.mpr hn]

/-! ## Many bits -/

/-- Set those of the given bits whose value is one. -/
def setBits (target : ℕ → ℕ) (value : ℕ → Bool) (n : ℕ) (data : Bytes) : Bytes :=
  (List.range n).foldl (fun data i => if value i then setBit data (target i) else data) data

theorem setBits_succ (target : ℕ → ℕ) (value : ℕ → Bool) (n : ℕ) (data : Bytes) :
    setBits target value (n + 1) data =
      if value n then setBit (setBits target value n data) (target n)
      else setBits target value n data := by
  unfold setBits
  rw [List.range_succ, List.foldl_append]
  rfl

theorem length_setBits (target : ℕ → ℕ) (value : ℕ → Bool) (n : ℕ) (data : Bytes) :
    (setBits target value n data).length = data.length := by
  induction n with
  | zero => rfl
  | succ n ih =>
    rw [setBits_succ]
    split_ifs
    · rw [length_setBit, ih]
    · exact ih

/-- **Bits that are set one after the other.** -/
theorem bit_setBits {target : ℕ → ℕ} {value : ℕ → Bool} {n : ℕ}
    (h : ∀ i < n, target i < 8 * data.length) (j : ℕ) : bit (setBits target value n data) j = true ↔
      bit data j = true ∨ ∃ i < n, target i = j ∧ value i = true := by
  induction n with
  | zero => simp [setBits]
  | succ n ih =>
    have hrest := ih fun i hi => h i (Nat.lt_succ_of_lt hi)
    have hlast : target n < 8 * (setBits target value n data).length := by
      rw [length_setBits]
      exact h n (Nat.lt_succ_self n)
    have hsplit : (∃ i < n + 1, target i = j ∧ value i = true) ↔
        (target n = j ∧ value n = true) ∨ ∃ i < n, target i = j ∧ value i = true := by
      simp only [Nat.lt_succ_iff_lt_or_eq]
      constructor
      · rintro ⟨i, hi | rfl, hvalue⟩
        · exact Or.inr ⟨i, hi, hvalue⟩
        · exact Or.inl hvalue
      · rintro (hvalue | ⟨i, hi, hvalue⟩)
        · exact ⟨n, Or.inr rfl, hvalue⟩
        · exact ⟨i, Or.inl hi, hvalue⟩
    rw [setBits_succ, hsplit]
    by_cases hvalue : value n = true
    · rw [if_pos hvalue, bit_setBit hlast, Bool.or_eq_true, decide_eq_true_iff, hrest,
        and_iff_left hvalue, or_left_comm]
    · rw [if_neg hvalue, hrest, or_iff_right (a := target n = j ∧ value n = true) fun h => hvalue h.2]

end Lib
