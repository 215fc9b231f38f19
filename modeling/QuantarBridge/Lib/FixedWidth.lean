import Mathlib.Data.Nat.Digits.Defs
import QuantarBridge.Lib.Decimal

/-!
# Numbers of a fixed width

Protocols write a number in a fixed number of bytes, with the least or the most significant byte
first.

* `leBytes`, `leNat`: least significant byte first, `beBytes`, `beNat`: most significant byte first;
* `leNat_leBytes`, `beNat_beBytes`: **a number that fits is read back**;
* `leBytes_leNat`, `beBytes_beNat`: and so are the bytes.
-/

set_option autoImplicit false

namespace Lib

/-- The number, least significant byte first. -/
def leBytes : ℕ → ℕ → Bytes
  | 0, _ => []
  | width + 1, n => UInt8.ofNat n :: leBytes width (n / 256)

/-- The number of some bytes, least significant byte first. -/
def leNat (data : Bytes) : ℕ := Nat.ofDigits 256 (data.map UInt8.toNat)

/-- The number, most significant byte first. -/
def beBytes (width n : ℕ) : Bytes := (leBytes width n).reverse

/-- The number of some bytes, most significant byte first. -/
def beNat (data : Bytes) : ℕ := leNat data.reverse

@[simp]
theorem length_leBytes (width n : ℕ) : (leBytes width n).length = width := by
  induction width generalizing n with
  | zero => rfl
  | succ width ih => rw [leBytes, List.length_cons, ih]

@[simp]
theorem length_beBytes (width n : ℕ) : (beBytes width n).length = width := by
  rw [beBytes, List.length_reverse, length_leBytes]

theorem leNat_cons (b : UInt8) (data : Bytes) : leNat (b :: data) = b.toNat + 256 * leNat data :=
  Nat.ofDigits_cons ..

/-- **A number that fits is read back.** -/
theorem leNat_leBytes {width n : ℕ} (h : n < 256 ^ width) : leNat (leBytes width n) = n := by
  induction width generalizing n with
  | zero => exact (Nat.lt_one_iff.mp h).symm
  | succ width ih =>
    have hlt : n / 256 < 256 ^ width := Nat.div_lt_of_lt_mul (by rwa [← Nat.pow_succ'])
    rw [leBytes, leNat_cons, ih hlt, UInt8.toNat_ofNat']
    exact Nat.mod_add_div n 256

theorem beNat_beBytes {width n : ℕ} (h : n < 256 ^ width) : beNat (beBytes width n) = n := by
  rw [beNat, beBytes, List.reverse_reverse, leNat_leBytes h]

theorem leNat_lt (data : Bytes) : leNat data < 256 ^ data.length := by
  induction data with
  | nil => exact Nat.one_pos
  | cons b data ih =>
    have hb := b.toNat_lt
    rw [leNat_cons, List.length_cons, Nat.pow_succ]
    omega

theorem beNat_lt (data : Bytes) : beNat data < 256 ^ data.length := by
  rw [← List.length_reverse]
  exact leNat_lt data.reverse

theorem leBytes_leNat (data : Bytes) : leBytes data.length (leNat data) = data := by
  induction data with
  | nil => rfl
  | cons b data ih =>
    have hb := b.toNat_lt
    have hdiv : (b.toNat + 256 * leNat data) / 256 = leNat data := by omega
    have hbyte : UInt8.ofNat (b.toNat + 256 * leNat data) = b := by
      refine UInt8.toNat_inj.mp ?_
      rw [UInt8.toNat_ofNat']
      omega
    rw [leNat_cons, List.length_cons, leBytes, hdiv, ih, hbyte]

theorem beBytes_beNat (data : Bytes) : beBytes data.length (beNat data) = data := by
  have h := leBytes_leNat data.reverse
  rw [List.length_reverse] at h
  rw [beBytes, beNat, h, List.reverse_reverse]

end Lib
