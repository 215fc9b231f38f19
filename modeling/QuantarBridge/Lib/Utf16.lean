import QuantarBridge.Lib.Decimal

/-!
# UTF-16

A character is one code unit of sixteen bits, or a pair of surrogates from `0x10000` on.

* `encodeUtf16`, `decodeUtf16`: characters and code units;
* `decode_encodeUtf16`: **a text is read back**;
* `decodeUtf16_of_lt`: units below the surrogates are one character each;
* `utf16BeEncode`, `utf16BeDecode`: the bytes of the code units, the high one first.
-/

set_option autoImplicit false

namespace Lib

/-- The code units of a character. -/
def utf16Units (c : Char) : List ℕ :=
  if c.toNat < 0x10000 then [c.toNat]
  else [0xD800 + (c.toNat - 0x10000) / 0x400, 0xDC00 + (c.toNat - 0x10000) % 0x400]

/-- The units of a text. -/
def encodeUtf16 (text : List Char) : List ℕ := text.flatMap utf16Units

/-- The characters of code units. Surrogates come in pairs, the high one first. -/
def decodeUtf16 : List ℕ → Option (List Char)
  | [] => some []
  | u :: rest =>
    if 0xD800 ≤ u ∧ u < 0xDC00 then
      match rest with
      | v :: rest =>
        if 0xDC00 ≤ v ∧ v < 0xE000 then
          (decodeUtf16 rest).map
            (Char.ofNat (0x10000 + 0x400 * (u - 0xD800) + (v - 0xDC00)) :: ·)
        else none
      | [] => none
    else if 0xDC00 ≤ u ∧ u < 0xE000 then none
    else (decodeUtf16 rest).map (Char.ofNat u :: ·)

theorem toNat_valid (c : Char) : c.toNat < 0xD800 ∨ 0xE000 ≤ c.toNat ∧ c.toNat < 0x110000 := by
  have h := c.valid
  show c.val.toNat < 0xD800 ∨ 0xE000 ≤ c.val.toNat ∧ c.val.toNat < 0x110000
  unfold UInt32.isValidChar Nat.isValidChar at h
  omega

theorem decodeUtf16_unit {u : ℕ} (h : u < 0xD800 ∨ 0xE000 ≤ u) (rest : List ℕ) :
    decodeUtf16 (u :: rest) = (decodeUtf16 rest).map (Char.ofNat u :: ·) := by
  rw [decodeUtf16.eq_def]
  dsimp only
  rw [if_neg (by omega), if_neg (by omega)]

theorem decodeUtf16_pair {u v : ℕ} (hu : 0xD800 ≤ u ∧ u < 0xDC00) (hv : 0xDC00 ≤ v ∧ v < 0xE000)
    (rest : List ℕ) : decodeUtf16 (u :: v :: rest) = (decodeUtf16 rest).map
      (Char.ofNat (0x10000 + 0x400 * (u - 0xD800) + (v - 0xDC00)) :: ·) := by
  rw [decodeUtf16.eq_def]
  dsimp only
  rw [if_pos hu, if_pos hv]

theorem decodeUtf16_append (c : Char) (rest : List ℕ) :
    decodeUtf16 (utf16Units c ++ rest) = (decodeUtf16 rest).map (c :: ·) := by
  have hc := toNat_valid c
  unfold utf16Units
  split_ifs with hlt
  · rw [List.singleton_append, decodeUtf16_unit (by omega), Char.ofNat_toNat]
  · rw [List.cons_append, List.singleton_append, decodeUtf16_pair (by omega) (by omega)]
    have hvalue : 0x10000 + 0x400 * (0xD800 + (c.toNat - 0x10000) / 0x400 - 0xD800) +
        (0xDC00 + (c.toNat - 0x10000) % 0x400 - 0xDC00) = c.toNat := by omega
    rw [hvalue, Char.ofNat_toNat]

/-- **A text is read back** from its code units. -/
theorem decode_encodeUtf16 (text : List Char) : decodeUtf16 (encodeUtf16 text) = some text := by
  induction text with
  | nil => rfl
  | cons c text ih =>
    rw [encodeUtf16, List.flatMap_cons, decodeUtf16_append]
    show (decodeUtf16 (encodeUtf16 text)).map (c :: ·) = some (c :: text)
    rw [ih]
    rfl

/-- Units below the surrogates are one character each. -/
theorem decodeUtf16_of_lt {units : List ℕ} (h : ∀ u ∈ units, u < 0xD800) :
    decodeUtf16 units = some (units.map Char.ofNat) := by
  induction units with
  | nil => rfl
  | cons u units ih =>
    rw [decodeUtf16_unit (Or.inl (h u List.mem_cons_self)),
      ih fun v hv => h v (List.mem_cons_of_mem u hv)]
    rfl

/-! ## Bytes -/

/-- The code units of bytes. -/
def unitsBe : Bytes → Option (List ℕ)
  | [] => some []
  | [_] => none
  | high :: low :: rest => (unitsBe rest).map ((high.toNat * 256 + low.toNat) :: ·)

/-- The bytes of a text, most significant byte of a unit first. -/
def utf16BeEncode (text : List Char) : Bytes :=
  (encodeUtf16 text).flatMap fun u => [UInt8.ofNat (u / 256), UInt8.ofNat u]

/-- The characters of the bytes. An odd number of bytes stands for no text. -/
def utf16BeDecode (data : Bytes) : Option (List Char) := (unitsBe data).bind decodeUtf16

theorem utf16Units_lt {c : Char} {u : ℕ} (h : u ∈ utf16Units c) : u < 0x10000 := by
  have hc := toNat_valid c
  unfold utf16Units at h
  split_ifs at h
  · obtain rfl := List.mem_singleton.mp h
    assumption
  · simp only [List.mem_cons, List.not_mem_nil, or_false] at h
    omega

theorem encodeUtf16_lt {text : List Char} {u : ℕ} (h : u ∈ encodeUtf16 text) : u < 0x10000 := by
  obtain ⟨c, -, hu⟩ := List.mem_flatMap.mp h
  exact utf16Units_lt hu

theorem unitsBe_flatMap {units : List ℕ} (h : ∀ u ∈ units, u < 0x10000) :
    unitsBe (units.flatMap fun u => [UInt8.ofNat (u / 256), UInt8.ofNat u]) = some units := by
  induction units with
  | nil => rfl
  | cons u units ih =>
    obtain ⟨hu, hunits⟩ := List.forall_mem_cons.mp h
    show (unitsBe (units.flatMap _)).map _ = _
    rw [ih hunits, UInt8.toNat_ofNat', UInt8.toNat_ofNat']
    have hvalue : u / 256 % 2 ^ 8 * 256 + u % 2 ^ 8 = u := by omega
    rw [hvalue]
    rfl

/-- **A text is read back** from its bytes. -/
theorem utf16BeDecode_encode (text : List Char) : utf16BeDecode (utf16BeEncode text) = some text := by
  unfold utf16BeDecode utf16BeEncode
  rw [unitsBe_flatMap fun u => encodeUtf16_lt, Option.bind_some, decode_encodeUtf16]

theorem length_utf16BeEncode (text : List Char) :
    (utf16BeEncode text).length = 2 * (encodeUtf16 text).length := by
  unfold utf16BeEncode
  rw [List.length_flatMap]
  simp
  omega

end Lib
