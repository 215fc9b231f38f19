import QuantarBridge.Lib.Bits

/-!
# Blocks of the voice codec

A block of the server holds two frames of the voice codec, of 137 bits each, without a gap between
them. The second frame therefore begins within a byte. The codec wants each frame in 18 bytes of its
own. An STE block has a header byte in front.

* `splitTmdBlock`, `joinTmdBlock`: a block as two frames, and two frames as a block;
* `bit_splitFrames_fst`, `bit_splitFrames_snd`, `bit_packFrames`: **where the bits go**;
* `tetraBlock_lossless`: nothing but the unused bits is lost either way.
-/

set_option autoImplicit false

namespace Brew

open Lib

/-- The bits of one codec frame. -/
def TETRA_BITS_30MS : ℕ := 137

/-- The bits of both frames of a block. -/
def TETRA_BITS_60MS : ℕ := TETRA_BITS_30MS * 2

/-- The bytes of a codec frame. -/
def TETRA_CODED_BYTES : ℕ := 18

/-- The bytes of two packed frames. -/
def TETRA_PACKED_BYTES : ℕ := 35

/-- The bytes of an STE block: a header and two packed frames. -/
def TETRA_STE_BYTES : ℕ := 36

/-- A bit, the highest bit of a byte first. -/
def getPackedBit (data : Bytes) (bitIndex : ℕ) : ℕ :=
  (data.getD (bitIndex / 8) 0).toNat >>> (7 - bitIndex % 8) &&& 1

/-- Set a bit when the value is odd. -/
def setPackedBit (data : Bytes) (bitIndex value : ℕ) : Bytes :=
  if value &&& 1 ≠ 0 then data.modify (bitIndex / 8) (· ||| UInt8.ofNat (1 <<< (7 - bitIndex % 8)))
  else data

/-- The block without a header. -/
def packedBytes (data : Bytes) : Except String Bytes :=
  if data.length = TETRA_STE_BYTES then .ok (data.drop 1)
  else if data.length = TETRA_PACKED_BYTES then .ok data
  else .error ("invalid TETRA block length " ++ toString data.length)

/-- The frames with the bit of the block in its place. -/
def splitBit (packed : Bytes) (frames : Bytes × Bytes) (bitIndex : ℕ) : Bytes × Bytes :=
  let frameBit := bitIndex % TETRA_BITS_30MS
  let value := getPackedBit packed bitIndex
  if bitIndex / TETRA_BITS_30MS = 0 then (setPackedBit frames.1 frameBit value, frames.2)
  else (frames.1, setPackedBit frames.2 frameBit value)

/-- The two frames of a block. -/
def splitTmdBlock (data : Bytes) : Except String (Bytes × Bytes) := do
  let packed ← packedBytes data
  return (List.range TETRA_BITS_60MS).foldl (splitBit packed)
    (List.replicate TETRA_CODED_BYTES 0, List.replicate TETRA_CODED_BYTES 0)

/-- The block with the bit of its frame in its place. -/
def joinBit (frameA frameB packed : Bytes) (bitIndex : ℕ) : Bytes :=
  let frame := if bitIndex < TETRA_BITS_30MS then frameA else frameB
  setPackedBit packed bitIndex (getPackedBit frame (bitIndex % TETRA_BITS_30MS))

/-- The block of two frames. -/
def joinTmdBlock (frameA frameB : Bytes) : Except String Bytes :=
  if frameA.length ≠ TETRA_CODED_BYTES ∨ frameB.length ≠ TETRA_CODED_BYTES then
    .error "a TETRA codec frame must contain 18 bytes"
  else
    .ok (0 :: (List.range TETRA_BITS_60MS).foldl (joinBit frameA frameB)
      (List.replicate TETRA_PACKED_BYTES 0))

/-! ## Where the bits go -/

theorem getPackedBit_eq (data : Bytes) (i : ℕ) : getPackedBit data i = (bit data i).toNat := by
  unfold getPackedBit bit
  rw [Nat.and_one_is_mod, Nat.shiftRight_eq_div_pow, Nat.testBit_eq_decide_div_mod_eq]
  rcases Nat.mod_two_eq_zero_or_one ((data.getD (i / 8) 0).toNat / 2 ^ (7 - i % 8)) with h | h <;>
    rw [h] <;> rfl

theorem setPackedBit_eq (data data' : Bytes) (i j : ℕ) :
    setPackedBit data i (getPackedBit data' j) = if bit data' j then setBit data i else data := by
  rw [getPackedBit_eq]
  cases bit data' j with
  | false => rfl
  | true =>
    unfold setPackedBit setBit
    rw [Nat.one_shiftLeft]
    rfl

section Frames

variable (frameA frameB packed : Bytes)

/-- The packed bits of two frames. -/
def packFrames : Bytes := (List.range TETRA_BITS_60MS).foldl (joinBit frameA frameB)
  (List.replicate TETRA_PACKED_BYTES 0)

theorem packFrames_eq : packFrames frameA frameB = setBits id
    (fun i => bit (if i < TETRA_BITS_30MS then frameA else frameB) (i % TETRA_BITS_30MS))
    TETRA_BITS_60MS (List.replicate TETRA_PACKED_BYTES 0) := by
  unfold packFrames setBits
  congr 1
  funext data i
  exact setPackedBit_eq ..

theorem length_packFrames : (packFrames frameA frameB).length = TETRA_PACKED_BYTES := by
  rw [packFrames_eq, length_setBits]
  rfl

theorem bit_zeros (n i : ℕ) : bit (List.replicate n 0) i = false := by
  have hbyte : (List.replicate n (0 : UInt8)).getD (i / 8) 0 = 0 := by
    rw [List.getD_eq_getElem?_getD, List.getElem?_replicate]
    split_ifs <;> rfl
  unfold bit
  rw [hbyte]
  exact Nat.zero_testBit _

/-- **The bits of a block**: those of the first frame, and behind them those of the second one. -/
theorem bit_packFrames (i : ℕ) : bit (packFrames frameA frameB) i =
    (decide (i < TETRA_BITS_60MS) &&
      bit (if i < TETRA_BITS_30MS then frameA else frameB) (i % TETRA_BITS_30MS)) := by
  rw [Bool.eq_iff_iff, packFrames_eq, bit_setBits, bit_zeros, Bool.and_eq_true, decide_eq_true_iff]
  · simp
  · intro i hi
    rw [List.length_replicate]
    show i < 280
    change i < 274 at hi
    omega

/-- The frames of a block. -/
def splitFrames : Bytes × Bytes := (List.range TETRA_BITS_60MS).foldl (splitBit packed)
  (List.replicate TETRA_CODED_BYTES 0, List.replicate TETRA_CODED_BYTES 0)

theorem splitBit_eq (frames : Bytes × Bytes) (i : ℕ) : splitBit packed frames i =
    (if decide (i / TETRA_BITS_30MS = 0) && bit packed i then
        setBit frames.1 (i % TETRA_BITS_30MS) else frames.1,
      if decide (i / TETRA_BITS_30MS ≠ 0) && bit packed i then
        setBit frames.2 (i % TETRA_BITS_30MS) else frames.2) := by
  unfold splitBit
  dsimp only
  rw [setPackedBit_eq, setPackedBit_eq]
  by_cases hi : i / TETRA_BITS_30MS = 0
  · simp [hi]
  · simp [hi]

theorem splitFrames_eq : splitFrames packed =
    (setBits (· % TETRA_BITS_30MS) (fun i => decide (i / TETRA_BITS_30MS = 0) && bit packed i)
        TETRA_BITS_60MS (List.replicate TETRA_CODED_BYTES 0),
      setBits (· % TETRA_BITS_30MS) (fun i => decide (i / TETRA_BITS_30MS ≠ 0) && bit packed i)
        TETRA_BITS_60MS (List.replicate TETRA_CODED_BYTES 0)) := by
  unfold splitFrames
  induction TETRA_BITS_60MS with
  | zero => rfl
  | succ n ih =>
    rw [List.range_succ, List.foldl_append, ih, setBits_succ, setBits_succ]
    exact splitBit_eq ..

theorem length_splitFrames : (splitFrames packed).1.length = TETRA_CODED_BYTES ∧
    (splitFrames packed).2.length = TETRA_CODED_BYTES := by
  rw [splitFrames_eq, length_setBits, length_setBits]
  exact ⟨rfl, rfl⟩

theorem splitBit_inside : ∀ i < TETRA_BITS_60MS, i % TETRA_BITS_30MS <
    8 * (List.replicate TETRA_CODED_BYTES (0 : UInt8)).length := by
  intro i _
  rw [List.length_replicate]
  show i % 137 < 144
  omega

/-- **The bits of the first frame**, as they stand in the block. -/
theorem bit_splitFrames_fst (i : ℕ) :
    bit (splitFrames packed).1 i = (decide (i < TETRA_BITS_30MS) && bit packed i) := by
  rw [splitFrames_eq, Bool.eq_iff_iff, bit_setBits splitBit_inside, bit_zeros, Bool.and_eq_true]
  simp only [Bool.false_eq_true, false_or, Bool.and_eq_true, decide_eq_true_iff]
  constructor
  · rintro ⟨k, hk, rfl, hfirst, hbit⟩
    change k / 137 = 0 at hfirst
    have hsame : k % TETRA_BITS_30MS = k := Nat.mod_eq_of_lt (show k < 137 by omega)
    rw [hsame]
    exact ⟨show k < 137 by omega, hbit⟩
  · rintro ⟨hi, hbit⟩
    exact ⟨i, Nat.lt_of_lt_of_le hi (by decide), Nat.mod_eq_of_lt hi, Nat.div_eq_of_lt hi, hbit⟩

/-- **The bits of the second frame** stand behind those of the first one. -/
theorem bit_splitFrames_snd (i : ℕ) : bit (splitFrames packed).2 i =
    (decide (i < TETRA_BITS_30MS) && bit packed (TETRA_BITS_30MS + i)) := by
  rw [splitFrames_eq, Bool.eq_iff_iff, bit_setBits splitBit_inside, bit_zeros, Bool.and_eq_true]
  simp only [Bool.false_eq_true, false_or, Bool.and_eq_true, decide_eq_true_iff]
  constructor
  · rintro ⟨k, hk, rfl, hsecond, hbit⟩
    change k < 274 at hk
    change k / 137 ≠ 0 at hsecond
    have hsame : TETRA_BITS_30MS + k % TETRA_BITS_30MS = k := by
      show 137 + k % 137 = k
      omega
    rw [hsame]
    exact ⟨Nat.mod_lt _ (by decide), hbit⟩
  · rintro ⟨hi, hbit⟩
    change i < 137 at hi
    refine ⟨137 + i, ?_, ?_, ?_, hbit⟩
    · show 137 + i < 274
      omega
    · show (137 + i) % 137 = i
      omega
    · show (137 + i) / 137 ≠ 0
      omega

theorem splitFrames_packFrames (ha : frameA.length = TETRA_CODED_BYTES)
    (hb : frameB.length = TETRA_CODED_BYTES) : splitFrames (packFrames frameA frameB) =
      (keepBits TETRA_BITS_30MS frameA, keepBits TETRA_BITS_30MS frameB) := by
  have hlength := length_splitFrames (packFrames frameA frameB)
  refine Prod.ext (eq_of_bit ?_ fun i _ => ?_) (eq_of_bit ?_ fun i _ => ?_)
  · rw [hlength.1, length_keepBits, ha]
  · rw [bit_splitFrames_fst, bit_keepBits, bit_packFrames]
    by_cases hi : i < TETRA_BITS_30MS
    · have hlong : i < TETRA_BITS_60MS := Nat.lt_of_lt_of_le hi (by decide)
      rw [if_pos hi, Nat.mod_eq_of_lt hi, decide_eq_true hlong, Bool.true_and]
    · rw [decide_eq_false hi, Bool.false_and, Bool.false_and]
  · rw [hlength.2, length_keepBits, hb]
  · rw [bit_splitFrames_snd, bit_keepBits, bit_packFrames]
    by_cases hi : i < TETRA_BITS_30MS
    · have hlong : TETRA_BITS_30MS + i < TETRA_BITS_60MS := Nat.add_lt_add_left hi 137
      have hsecond : ¬ TETRA_BITS_30MS + i < TETRA_BITS_30MS := Nat.not_lt.mpr (Nat.le_add_right ..)
      rw [if_neg hsecond, Nat.add_mod_left, Nat.mod_eq_of_lt hi, decide_eq_true hlong,
        Bool.true_and]
    · rw [decide_eq_false hi, Bool.false_and, Bool.false_and]

theorem packFrames_splitFrames (h : packed.length = TETRA_PACKED_BYTES) :
    packFrames (splitFrames packed).1 (splitFrames packed).2 = keepBits TETRA_BITS_60MS packed := by
  refine eq_of_bit (by rw [length_packFrames, length_keepBits, h]) fun i _ => ?_
  rw [bit_packFrames, bit_keepBits]
  by_cases hi : i < TETRA_BITS_60MS
  · congr 1
    have hmod : i % TETRA_BITS_30MS < TETRA_BITS_30MS := Nat.mod_lt _ (by decide)
    split_ifs with hfirst
    · rw [bit_splitFrames_fst, decide_eq_true hmod, Nat.mod_eq_of_lt hfirst, Bool.true_and]
    · have hsame : TETRA_BITS_30MS + i % TETRA_BITS_30MS = i := by
        change i < 274 at hi
        change ¬ i < 137 at hfirst
        show 137 + i % 137 = i
        omega
      rw [bit_splitFrames_snd, decide_eq_true hmod, hsame, Bool.true_and]
  · rw [decide_eq_false hi, Bool.false_and, Bool.false_and]

end Frames

/-! ## Both ways -/

theorem splitTmdBlock_packed {packed : Bytes} (h : packed.length = TETRA_PACKED_BYTES) :
    splitTmdBlock packed = .ok (splitFrames packed) := by
  unfold splitTmdBlock packedBytes
  rw [if_neg (by rw [h]; decide), if_pos h]
  rfl

theorem splitTmdBlock_ste (header : UInt8) {packed : Bytes} (h : packed.length = TETRA_PACKED_BYTES) :
    splitTmdBlock (header :: packed) = .ok (splitFrames packed) := by
  unfold splitTmdBlock packedBytes
  rw [if_pos (by rw [List.length_cons, h]; rfl)]
  rfl

theorem joinTmdBlock_eq {frameA frameB : Bytes} (ha : frameA.length = TETRA_CODED_BYTES)
    (hb : frameB.length = TETRA_CODED_BYTES) :
    joinTmdBlock frameA frameB = .ok (0 :: packFrames frameA frameB) :=
  if_neg fun h => h.elim (· ha) (· hb)

/-- **Nothing but the unused bits is lost**, whether two frames are joined and split again, or a block
is split and joined again. -/
theorem tetraBlock_lossless :
    (∀ frameA frameB : Bytes, frameA.length = TETRA_CODED_BYTES → frameB.length = TETRA_CODED_BYTES →
      (joinTmdBlock frameA frameB >>= splitTmdBlock) =
        .ok (keepBits TETRA_BITS_30MS frameA, keepBits TETRA_BITS_30MS frameB)) ∧
    ∀ packed : Bytes, packed.length = TETRA_PACKED_BYTES → ∀ block : Bytes,
      (block = packed ∨ ∃ header, block = header :: packed) →
      (splitTmdBlock block >>= fun frames => joinTmdBlock frames.1 frames.2) =
        .ok (0 :: keepBits TETRA_BITS_60MS packed) := by
  refine ⟨fun frameA frameB ha hb => ?_, fun packed h block hblock => ?_⟩
  · rw [joinTmdBlock_eq ha hb]
    show splitTmdBlock (0 :: packFrames frameA frameB) = _
    rw [splitTmdBlock_ste 0 (length_packFrames frameA frameB), splitFrames_packFrames _ _ ha hb]
  · have hsplit : splitTmdBlock block = .ok (splitFrames packed) := by
      rcases hblock with rfl | ⟨header, rfl⟩
      · exact splitTmdBlock_packed h
      · exact splitTmdBlock_ste header h
    obtain ⟨ha, hb⟩ := length_splitFrames packed
    rw [hsplit]
    show joinTmdBlock (splitFrames packed).1 (splitFrames packed).2 = _
    rw [joinTmdBlock_eq ha hb, packFrames_splitFrames packed h]

theorem tetraBlock_lossless_ones :
    (joinTmdBlock (List.replicate 18 0xFF) (List.replicate 18 0xFF) >>= splitTmdBlock) =
        .ok (List.replicate 17 0xFF ++ [0x80], List.replicate 17 0xFF ++ [0x80]) ∧
      (splitTmdBlock (List.replicate 36 0xFF) >>= fun frames => joinTmdBlock frames.1 frames.2) =
        .ok (0 :: (List.replicate 34 0xFF ++ [0xC0])) :=
  ⟨tetraBlock_lossless.1 (List.replicate 18 0xFF) (List.replicate 18 0xFF) rfl rfl,
    tetraBlock_lossless.2 (List.replicate 35 0xFF) rfl (List.replicate 36 0xFF) (Or.inr ⟨0xFF, rfl⟩)⟩

end Brew
