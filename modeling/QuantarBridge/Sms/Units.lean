import QuantarBridge.Sms.Payloads

/-!
# Code units

A text is UTF-8 inside the bridge and UTF-16 on the air. Characters of the basic plane are one code unit
each, and survive both conversions.

* `Printable`: the code units of a text;
* `bytesLe`, `bytesBe`: code units in either byte order;
* `fromBytes_toBytes`: **a text survives the conversions**.
-/

set_option autoImplicit false

namespace Sms

open Lib PacketData

/-- A text of code units that may stand in it. -/
def Printable (units : List ℕ) : Prop := ∀ unit ∈ units, unit < 0x10000 ∧ isPrintableUtf16 unit = true

instance (units : List ℕ) : Decidable (Printable units) :=
  inferInstanceAs (Decidable (∀ unit ∈ units, _))

/-- The little-endian bytes of code units. -/
def bytesLe (units : List ℕ) : Bytes :=
  units.flatMap fun unit => [UInt8.ofNat unit, UInt8.ofNat (unit / 256)]

/-- The big-endian bytes of code units. -/
def bytesBe (units : List ℕ) : Bytes :=
  units.flatMap fun unit => [UInt8.ofNat (unit / 256), UInt8.ofNat unit]

section Printable

variable {unit : ℕ} {units : List ℕ}

theorem isPrintable_iff : isPrintableUtf16 unit = true ↔ (unit = 0x0D ∨ unit = 0x0A ∨ unit = 0x09) ∨
    (0x20 ≤ unit ∧ unit ≤ 0x7E) ∨ (0xA0 ≤ unit ∧ ¬ (0xD800 ≤ unit ∧ unit ≤ 0xDFFF)) := by
  unfold isPrintableUtf16
  rw [decide_eq_true_iff]

theorem ne_zero_of_isPrintable (h : isPrintableUtf16 unit = true) : unit ≠ 0 := by
  rintro rfl
  exact absurd h (by decide)

theorem Printable.append {front : List ℕ} (h : Printable (front ++ units)) :
    Printable front ∧ Printable units := List.forall_mem_append.mp h

theorem decodeUnits_of_printable (h : ∀ unit ∈ units, isPrintableUtf16 unit = true) :
    decodeUnits units = some units := by
  induction units with
  | nil => rfl
  | cons unit units ih =>
    obtain ⟨hunit, hunits⟩ := List.forall_mem_cons.mp h
    unfold decodeUnits
    rw [if_neg (ne_zero_of_isPrintable hunit), if_pos hunit, ih hunits]
    rfl

end Printable

/-! ## Bytes of code units -/

section Units

variable {units : List ℕ}

theorem length_bytesLe (units : List ℕ) : (bytesLe units).length = 2 * units.length := by
  induction units with
  | nil => rfl
  | cons unit units ih =>
    show (bytesLe units).length + 1 + 1 = 2 * (units.length + 1)
    omega

theorem unitsLe_bytesLe (h : ∀ unit ∈ units, unit < 0x10000) : unitsLe (bytesLe units) = units := by
  induction units with
  | nil => rfl
  | cons unit units ih =>
    obtain ⟨hunit, hunits⟩ := List.forall_mem_cons.mp h
    show ((UInt8.ofNat unit).toNat + (UInt8.ofNat (unit / 256)).toNat * 256) :: unitsLe (bytesLe units) =
      unit :: units
    rw [ih hunits, UInt8.toNat_ofNat', UInt8.toNat_ofNat']
    congr 1
    omega

theorem unitsBe_bytesBe (h : ∀ unit ∈ units, unit < 0x10000) : unitsBe (bytesBe units) = units := by
  induction units with
  | nil => rfl
  | cons unit units ih =>
    obtain ⟨hunit, hunits⟩ := List.forall_mem_cons.mp h
    show ((UInt8.ofNat (unit / 256)).toNat * 256 + (UInt8.ofNat unit).toNat) :: unitsBe (bytesBe units) =
      unit :: units
    rw [ih hunits, UInt8.toNat_ofNat', UInt8.toNat_ofNat']
    congr 1
    omega

theorem bytesLe_append (front units : List ℕ) :
    bytesLe (front ++ units) = bytesLe front ++ bytesLe units := List.flatMap_append

theorem toBytes_append (front units : List ℕ) :
    toBytes (front ++ units) = toBytes front ++ toBytes units := List.flatMap_append

end Units

/-! ## The conversions -/

theorem isTail_ofNat {v : ℕ} (h : v < 64) : isTail (UInt8.ofNat (0x80 + v)) = true := by
  unfold isTail
  rw [decide_eq_true_iff, UInt8.le_iff_toNat_le, UInt8.le_iff_toNat_le, UInt8.toNat_ofNat']
  show 128 ≤ (128 + v) % 2 ^ 8 ∧ (128 + v) % 2 ^ 8 ≤ 191
  omega

theorem fromBytes_utf8 {unit : ℕ} (hunit : unit < 0x10000) (hplane : ¬ (0xD800 ≤ unit ∧ unit ≤ 0xDFFF))
    (rest : Bytes) : fromBytes (utf8 unit ++ rest) = (fromBytes rest).map (unit :: ·) := by
  unfold utf8
  split_ifs with hone htwo
  · have hbyte : (UInt8.ofNat unit).toNat = unit := by
      rw [UInt8.toNat_ofNat']
      omega
    have hsmall : UInt8.ofNat unit < 0x80 := by
      rw [UInt8.lt_iff_toNat_lt, hbyte]
      exact hone
    rw [List.cons_append, List.nil_append, fromBytes.eq_def]
    dsimp only
    rw [if_pos hsmall, hbyte]
  · have hfirst : (UInt8.ofNat (0xC0 + unit / 64)).toNat = 0xC0 + unit / 64 := by
      rw [UInt8.toNat_ofNat']
      omega
    have hsecond : (UInt8.ofNat (0x80 + unit % 64)).toNat = 0x80 + unit % 64 := by
      rw [UInt8.toNat_ofNat']
      omega
    have hlarge : ¬ UInt8.ofNat (0xC0 + unit / 64) < 0x80 := by
      rw [UInt8.lt_iff_toNat_lt, hfirst]
      show ¬ 0xC0 + unit / 64 < 128
      omega
    have hlead : (0xC2 : UInt8) ≤ UInt8.ofNat (0xC0 + unit / 64) ∧
        UInt8.ofNat (0xC0 + unit / 64) ≤ 0xDF := by
      rw [UInt8.le_iff_toNat_le, UInt8.le_iff_toNat_le, hfirst]
      show 194 ≤ 0xC0 + unit / 64 ∧ 0xC0 + unit / 64 ≤ 223
      omega
    have hvalue : (0xC0 + unit / 64) % 32 * 64 + (0x80 + unit % 64) % 64 = unit := by omega
    rw [List.cons_append, List.cons_append, List.nil_append, fromBytes.eq_def]
    dsimp only
    rw [if_neg hlarge, if_pos hlead, if_pos (isTail_ofNat (by omega)), hfirst, hsecond, hvalue]
  · have hfirst : (UInt8.ofNat (0xE0 + unit / 4096)).toNat = 0xE0 + unit / 4096 := by
      rw [UInt8.toNat_ofNat']
      omega
    have hsecond : (UInt8.ofNat (0x80 + unit / 64 % 64)).toNat = 0x80 + unit / 64 % 64 := by
      rw [UInt8.toNat_ofNat']
      omega
    have hthird : (UInt8.ofNat (0x80 + unit % 64)).toNat = 0x80 + unit % 64 := by
      rw [UInt8.toNat_ofNat']
      omega
    have hlarge : ¬ UInt8.ofNat (0xE0 + unit / 4096) < 0x80 := by
      rw [UInt8.lt_iff_toNat_lt, hfirst]
      show ¬ 0xE0 + unit / 4096 < 128
      omega
    have hother : ¬ ((0xC2 : UInt8) ≤ UInt8.ofNat (0xE0 + unit / 4096) ∧
        UInt8.ofNat (0xE0 + unit / 4096) ≤ 0xDF) := by
      rw [UInt8.le_iff_toNat_le, UInt8.le_iff_toNat_le, hfirst]
      show ¬ (194 ≤ 0xE0 + unit / 4096 ∧ 0xE0 + unit / 4096 ≤ 223)
      omega
    have hlead : (0xE0 : UInt8) ≤ UInt8.ofNat (0xE0 + unit / 4096) ∧
        UInt8.ofNat (0xE0 + unit / 4096) ≤ 0xEF := by
      rw [UInt8.le_iff_toNat_le, UInt8.le_iff_toNat_le, hfirst]
      show 224 ≤ 0xE0 + unit / 4096 ∧ 0xE0 + unit / 4096 ≤ 239
      omega
    -- neither an overlong form nor a surrogate
    have hfits : isSecond3 (UInt8.ofNat (0xE0 + unit / 4096)) (UInt8.ofNat (0x80 + unit / 64 % 64)) =
        true := by
      unfold isSecond3
      rw [decide_eq_true_iff, UInt8.lt_iff_toNat_lt, UInt8.lt_iff_toNat_lt, ← UInt8.toNat_inj,
        ← UInt8.toNat_inj, hfirst, hsecond]
      refine ⟨isTail_ofNat (by omega), ?_, ?_⟩
      · show ¬ (0xE0 + unit / 4096 = 224 ∧ 0x80 + unit / 64 % 64 < 160)
        omega
      · show ¬ (0xE0 + unit / 4096 = 237 ∧ 159 < 0x80 + unit / 64 % 64)
        omega
    have hvalue : (0xE0 + unit / 4096) % 16 * 4096 + (0x80 + unit / 64 % 64) % 64 * 64 +
        (0x80 + unit % 64) % 64 = unit := by omega
    rw [List.cons_append, List.cons_append, List.cons_append, List.nil_append, fromBytes.eq_def]
    dsimp only
    rw [if_neg hlarge, if_neg hother, if_pos hlead, if_pos ⟨hfits, isTail_ofNat (by omega)⟩, hfirst, hsecond, hthird, hvalue]

/-- **A text survives the conversions.** -/
theorem fromBytes_toBytes {units : List ℕ} (h : Printable units) :
    fromBytes (toBytes units) = some units := by
  induction units with
  | nil => rfl
  | cons unit units ih =>
    obtain ⟨⟨hunit, hprintable⟩, hunits⟩ := List.forall_mem_cons.mp h
    have hplane : ¬ (0xD800 ≤ unit ∧ unit ≤ 0xDFFF) := by
      have := isPrintable_iff.mp hprintable
      omega
    show fromBytes (utf8 unit ++ toBytes units) = some (unit :: units)
    rw [fromBytes_utf8 hunit hplane, ih hunits]
    rfl

/-- **A text is encoded** as its code units. -/
theorem encodeUtf16Le_toBytes {units : List ℕ} (h : Printable units) :
    encodeUtf16Le (toBytes units) false = some (bytesLe units) := by
  unfold encodeUtf16Le
  rw [fromBytes_toBytes h, Option.map_some]
  congr 1
  exact List.append_nil _

end Sms
