import QuantarBridge.Lib.Decimal
import QuantarBridge.Lib.Run

/-!
# UTF-8

The decoder takes byte after byte. Bytes that are no character are an error, one for each longest piece
that could have been the beginning of a character. The strict decoder refuses them, the other one
replaces each by a replacement character.

* `decodeStep`, `decodeItems`: characters and errors;
* `decodeUtf8`, `decodeReplace`: the two decoders;
* `reads_encode`, `decodeUtf8_encode`: **a text is read back**;
* `reads_surrogate`: a surrogate is no character;
* `decodeReplace_newline`: **a line break separates what is decoded**.
-/

set_option autoImplicit false

namespace Lib

/-! ## The decoder -/

/-- A character of which `missing` more bytes are expected, the next one within bounds. -/
structure Incomplete where
  missing : ℕ
  low : ℕ
  high : ℕ
  value : ℕ
  deriving DecidableEq

/-- A byte that does not continue a character. -/
def decodeFirst (b : ℕ) : Option Incomplete × List (Option Char) :=
  if b < 0x80 then (none, [some (Char.ofNat b)])
  else if 0xC2 ≤ b ∧ b < 0xE0 then (some ⟨1, 0x80, 0xBF, b - 0xC0⟩, [])
  else if 0xE0 ≤ b ∧ b < 0xF0 then
    (some ⟨2, if b = 0xE0 then 0xA0 else 0x80, if b = 0xED then 0x9F else 0xBF, b - 0xE0⟩, [])
  else if 0xF0 ≤ b ∧ b < 0xF5 then
    (some ⟨3, if b = 0xF0 then 0x90 else 0x80, if b = 0xF4 then 0x8F else 0xBF, b - 0xF0⟩, [])
  else (none, [none])

/-- What an incomplete character leaves behind. -/
def flush : Option Incomplete → List (Option Char)
  | none => []
  | some _ => [none]

/-- A byte of a text that is decoded as it comes. -/
def decodeStep (state : Option Incomplete) (b : UInt8) : Option Incomplete × List (Option Char) :=
  match state with
  | none => decodeFirst b.toNat
  | some p =>
    if p.low ≤ b.toNat ∧ b.toNat ≤ p.high then
      let value := 64 * p.value + (b.toNat - 0x80)
      if p.missing ≤ 1 then (none, [some (Char.ofNat value)])
      else (some ⟨p.missing - 1, 0x80, 0xBF, value⟩, [])
    else
      let (next, items) := decodeFirst b.toNat
      (next, none :: items)

/-- The characters of bytes, and `none` for bytes that are no character. -/
def decodeItems (bytes : Bytes) : List (Option Char) :=
  Run.outputs decodeStep none bytes ++ flush (Run.final decodeStep none bytes)

/-- `decode("utf-8")`. -/
def decodeUtf8 (bytes : Bytes) : Option (List Char) :=
  if none ∈ decodeItems bytes then none else some ((decodeItems bytes).filterMap id)

/-- What stands for bytes that are no character. -/
def replacementChar : Char := Char.ofNat 0xFFFD

/-- `decode("utf-8", errors="replace")`. -/
def decodeReplace (bytes : Bytes) : List Char :=
  (decodeItems bytes).map fun item => item.getD replacementChar

/-! ## Round trip -/

/-- Bytes after which nothing is expected. -/
def Whole (bytes : Bytes) : Prop := Run.final decodeStep none bytes = none

theorem decodeItems_append {a : Bytes} (h : Whole a) (b : Bytes) :
    decodeItems (a ++ b) = decodeItems a ++ decodeItems b := by
  unfold decodeItems
  rw [Run.outputs_append, Run.final_append, h]
  simp [flush]

theorem whole_append {a b : Bytes} (ha : Whole a) (hb : Whole b) : Whole (a ++ b) := by
  rw [Whole, Run.final_append, ha, hb]

theorem whole_flatMap {α : Type} {f : α → Bytes} {l : List α} (h : ∀ a ∈ l, Whole (f a)) :
    Whole (l.flatMap f) := by
  induction l with
  | nil => rfl
  | cons a l ih =>
    obtain ⟨ha, hl⟩ := List.forall_mem_cons.mp h
    exact whole_append ha (ih hl)

theorem decodeItems_flatMap {α : Type} {f : α → Bytes} {l : List α} (h : ∀ a ∈ l, Whole (f a)) :
    decodeItems (l.flatMap f) = l.flatMap fun a => decodeItems (f a) := by
  induction l with
  | nil => rfl
  | cons a l ih =>
    obtain ⟨ha, hl⟩ := List.forall_mem_cons.mp h
    rw [List.flatMap_cons, decodeItems_append ha, ih hl, List.flatMap_cons]

theorem decodeUtf8_of_items {bytes : Bytes} {text : List Char}
    (h : decodeItems bytes = text.map some) : decodeUtf8 bytes = some text := by
  unfold decodeUtf8
  rw [h, if_neg (by simp), List.filterMap_map]
  simp

theorem decodeUtf8_eq_none {bytes : Bytes} (h : none ∈ decodeItems bytes) :
    decodeUtf8 bytes = none := if_pos h

/-- Bytes that are read as these items, and nothing is expected after them. -/
def Reads (bytes : Bytes) (items : List (Option Char)) : Prop :=
  Whole bytes ∧ decodeItems bytes = items

theorem reads_of_run {bytes : Bytes} {items : List (Option Char)}
    (hfinal : Run.final decodeStep none bytes = none)
    (hitems : Run.outputs decodeStep none bytes = items) : Reads bytes items :=
  ⟨hfinal, by rw [decodeItems, hfinal, hitems, flush, List.append_nil]⟩

theorem toNat_ofNat_byte {n : ℕ} (h : n < 256) : (UInt8.ofNat n).toNat = n := by
  rw [UInt8.toNat_ofNat']
  omega

theorem decodeFirst_two {a : ℕ} (h : 0xC2 ≤ a ∧ a < 0xE0) :
    decodeFirst a = (some ⟨1, 0x80, 0xBF, a - 0xC0⟩, []) := by
  rw [decodeFirst, if_neg (by omega), if_pos h]

theorem decodeFirst_three {a : ℕ} (h : 0xE0 ≤ a ∧ a < 0xF0) : decodeFirst a = (some ⟨2,
    if a = 0xE0 then 0xA0 else 0x80, if a = 0xED then 0x9F else 0xBF, a - 0xE0⟩, []) := by
  rw [decodeFirst, if_neg (by omega), if_neg (by omega), if_pos h]

theorem decodeFirst_four {a : ℕ} (h : 0xF0 ≤ a ∧ a < 0xF5) : decodeFirst a = (some ⟨3,
    if a = 0xF0 then 0x90 else 0x80, if a = 0xF4 then 0x8F else 0xBF, a - 0xF0⟩, []) := by
  rw [decodeFirst, if_neg (by omega), if_neg (by omega), if_neg (by omega), if_pos h]

theorem decodeFirst_invalid {a : ℕ} (h : 0x80 ≤ a ∧ a < 0xC2) : decodeFirst a = (none, [none]) := by
  rw [decodeFirst, if_neg (by omega), if_neg (by omega), if_neg (by omega), if_neg (by omega)]

theorem decodeStep_last {p : Incomplete} {b : UInt8} (hb : p.low ≤ b.toNat ∧ b.toNat ≤ p.high)
    (hm : p.missing ≤ 1) :
    decodeStep (some p) b = (none, [some (Char.ofNat (64 * p.value + (b.toNat - 0x80)))]) := by
  unfold decodeStep
  dsimp only
  rw [if_pos hb, if_pos hm]

theorem decodeStep_next {p : Incomplete} {b : UInt8} (hb : p.low ≤ b.toNat ∧ b.toNat ≤ p.high)
    (hm : 1 < p.missing) : decodeStep (some p) b =
      (some ⟨p.missing - 1, 0x80, 0xBF, 64 * p.value + (b.toNat - 0x80)⟩, []) := by
  unfold decodeStep
  dsimp only
  rw [if_pos hb, if_neg (by omega)]

theorem reads_one {a : ℕ} (h : a < 0x80) : Reads [UInt8.ofNat a] [some (Char.ofNat a)] := by
  have hstep : decodeStep none (UInt8.ofNat a) = (none, [some (Char.ofNat a)]) := by
    show decodeFirst (UInt8.ofNat a).toNat = _
    rw [toNat_ofNat_byte (by omega), decodeFirst, if_pos h]
  apply reads_of_run <;> simp [hstep]

theorem reads_two {a b : ℕ} (ha : 0xC2 ≤ a ∧ a < 0xE0) (hb : 0x80 ≤ b ∧ b ≤ 0xBF) :
    Reads [UInt8.ofNat a, UInt8.ofNat b] [some (Char.ofNat (64 * (a - 0xC0) + (b - 0x80)))] := by
  have hfirst : decodeStep none (UInt8.ofNat a) = (some ⟨1, 0x80, 0xBF, a - 0xC0⟩, []) := by
    show decodeFirst (UInt8.ofNat a).toNat = _
    rw [toNat_ofNat_byte (by omega), decodeFirst_two ha]
  have hlast := decodeStep_last (p := ⟨1, 0x80, 0xBF, a - 0xC0⟩) (b := UInt8.ofNat b)
    (by rw [toNat_ofNat_byte (by omega)]; exact hb) (le_refl 1)
  rw [toNat_ofNat_byte (by omega)] at hlast
  apply reads_of_run <;> simp [hfirst, hlast]

theorem reads_three {a b c : ℕ} (ha : 0xE0 ≤ a ∧ a < 0xF0) (hb : 0x80 ≤ b ∧ b ≤ 0xBF)
    (hc : 0x80 ≤ c ∧ c ≤ 0xBF) (hlow : a = 0xE0 → 0xA0 ≤ b) (hhigh : a = 0xED → b ≤ 0x9F) :
    Reads [UInt8.ofNat a, UInt8.ofNat b, UInt8.ofNat c]
      [some (Char.ofNat (64 * (64 * (a - 0xE0) + (b - 0x80)) + (c - 0x80)))] := by
  have hfirst : decodeStep none (UInt8.ofNat a) = (some ⟨2, if a = 0xE0 then 0xA0 else 0x80,
      if a = 0xED then 0x9F else 0xBF, a - 0xE0⟩, []) := by
    show decodeFirst (UInt8.ofNat a).toNat = _
    rw [toNat_ofNat_byte (by omega), decodeFirst_three ha]
  have hnext := decodeStep_next (b := UInt8.ofNat b) (p := ⟨2, if a = 0xE0 then 0xA0 else 0x80,
      if a = 0xED then 0x9F else 0xBF, a - 0xE0⟩)
    (by rw [toNat_ofNat_byte (by omega)]; dsimp only; split_ifs <;> omega) (Nat.lt_succ_self 1)
  have hlast := decodeStep_last (p := ⟨1, 0x80, 0xBF, 64 * (a - 0xE0) + (b - 0x80)⟩)
    (b := UInt8.ofNat c) (by rw [toNat_ofNat_byte (by omega)]; exact hc) (le_refl 1)
  rw [toNat_ofNat_byte (by omega)] at hnext hlast
  apply reads_of_run <;> simp [hfirst, hnext, hlast]

theorem reads_four {a b c d : ℕ} (ha : 0xF0 ≤ a ∧ a < 0xF5) (hb : 0x80 ≤ b ∧ b ≤ 0xBF)
    (hc : 0x80 ≤ c ∧ c ≤ 0xBF) (hd : 0x80 ≤ d ∧ d ≤ 0xBF) (hlow : a = 0xF0 → 0x90 ≤ b)
    (hhigh : a = 0xF4 → b ≤ 0x8F) :
    Reads [UInt8.ofNat a, UInt8.ofNat b, UInt8.ofNat c, UInt8.ofNat d] [some (Char.ofNat
      (64 * (64 * (64 * (a - 0xF0) + (b - 0x80)) + (c - 0x80)) + (d - 0x80)))] := by
  have hfirst : decodeStep none (UInt8.ofNat a) = (some ⟨3, if a = 0xF0 then 0x90 else 0x80,
      if a = 0xF4 then 0x8F else 0xBF, a - 0xF0⟩, []) := by
    show decodeFirst (UInt8.ofNat a).toNat = _
    rw [toNat_ofNat_byte (by omega), decodeFirst_four ha]
  have hnext := decodeStep_next (b := UInt8.ofNat b) (p := ⟨3, if a = 0xF0 then 0x90 else 0x80,
      if a = 0xF4 then 0x8F else 0xBF, a - 0xF0⟩)
    (by rw [toNat_ofNat_byte (by omega)]; dsimp only; split_ifs <;> omega) (Nat.lt_add_of_pos_left Nat.zero_lt_two)
  have hthird := decodeStep_next (p := ⟨2, 0x80, 0xBF, 64 * (a - 0xF0) + (b - 0x80)⟩)
    (b := UInt8.ofNat c) (by rw [toNat_ofNat_byte (by omega)]; exact hc) (Nat.lt_succ_self 1)
  have hlast := decodeStep_last
    (p := ⟨1, 0x80, 0xBF, 64 * (64 * (a - 0xF0) + (b - 0x80)) + (c - 0x80)⟩)
    (b := UInt8.ofNat d) (by rw [toNat_ofNat_byte (by omega)]; exact hd) (le_refl 1)
  rw [toNat_ofNat_byte (by omega)] at hnext hthird hlast
  apply reads_of_run <;> simp [hfirst, hnext, hthird, hlast]

/-- **The three bytes of a surrogate** are three errors. -/
theorem reads_surrogate {b c : ℕ} (hb : 0xA0 ≤ b ∧ b ≤ 0xBF) (hc : 0x80 ≤ c ∧ c ≤ 0xBF) :
    Reads [0xED, UInt8.ofNat b, UInt8.ofNat c] [none, none, none] := by
  have hfirst : decodeStep none 0xED = (some ⟨2, 0x80, 0x9F, 0xD⟩, []) := rfl
  have hsecond : decodeStep (some ⟨2, 0x80, 0x9F, 0xD⟩) (UInt8.ofNat b) = (none, [none, none]) := by
    unfold decodeStep
    dsimp only
    rw [toNat_ofNat_byte (by omega), if_neg (by omega), decodeFirst_invalid (by omega)]
  have hthird : decodeStep none (UInt8.ofNat c) = (none, [none]) := by
    show decodeFirst (UInt8.ofNat c).toNat = _
    rw [toNat_ofNat_byte (by omega), decodeFirst_invalid (by omega)]
  apply reads_of_run <;> simp [hfirst, hsecond, hthird]

/-- **The bytes of a character** are read as the character. -/
theorem reads_encode (c : Char) : Reads (String.utf8EncodeChar c) [some c] := by
  have hvalid : c.toNat < 0xD800 ∨ 0xE000 ≤ c.toNat ∧ c.toNat < 0x110000 := by
    have h := c.valid
    show c.val.toNat < 0xD800 ∨ 0xE000 ≤ c.val.toNat ∧ c.val.toNat < 0x110000
    unfold UInt32.isValidChar Nat.isValidChar at h
    omega
  have hvalue : ∀ n, n = c.toNat → Char.ofNat n = c := by
    rintro n rfl
    exact Char.ofNat_toNat c
  unfold String.utf8EncodeChar
  change Reads (if c.toNat ≤ 0x7f then [UInt8.ofNat c.toNat] else if c.toNat ≤ 0x7ff then
      [UInt8.ofNat (c.toNat / 0x40 % 0x20 + 0xc0), UInt8.ofNat (c.toNat % 0x40 + 0x80)] else
    if c.toNat ≤ 0xffff then
      [UInt8.ofNat (c.toNat / 0x1000 % 0x10 + 0xe0), UInt8.ofNat (c.toNat / 0x40 % 0x40 + 0x80),
        UInt8.ofNat (c.toNat % 0x40 + 0x80)]
    else [UInt8.ofNat (c.toNat / 0x40000 % 0x08 + 0xf0),
      UInt8.ofNat (c.toNat / 0x1000 % 0x40 + 0x80), UInt8.ofNat (c.toNat / 0x40 % 0x40 + 0x80),
      UInt8.ofNat (c.toNat % 0x40 + 0x80)]) [some c]
  split_ifs with h1 h2 h3
  · have h := reads_one (a := c.toNat) (by omega)
    rwa [hvalue _ rfl] at h
  · have h := reads_two (a := c.toNat / 0x40 % 0x20 + 0xc0) (b := c.toNat % 0x40 + 0x80)
      (by omega) (by omega)
    rwa [hvalue _ (by omega)] at h
  · have h := reads_three (a := c.toNat / 0x1000 % 0x10 + 0xe0) (b := c.toNat / 0x40 % 0x40 + 0x80)
      (c := c.toNat % 0x40 + 0x80) (by omega) (by omega) (by omega) (by omega) (by omega)
    rwa [hvalue _ (by omega)] at h
  · have h := reads_four (a := c.toNat / 0x40000 % 0x08 + 0xf0)
      (b := c.toNat / 0x1000 % 0x40 + 0x80) (c := c.toNat / 0x40 % 0x40 + 0x80)
      (d := c.toNat % 0x40 + 0x80) (by omega) (by omega) (by omega) (by omega) (by omega) (by omega)
    rwa [hvalue _ (by omega)] at h

theorem decodeItems_encode (text : List Char) :
    decodeItems (text.flatMap String.utf8EncodeChar) = text.map some := by
  rw [decodeItems_flatMap fun c _ => (reads_encode c).1]
  induction text with
  | nil => rfl
  | cons c text ih =>
    rw [List.flatMap_cons, (reads_encode c).2, ih, List.singleton_append, List.map_cons]

/-- **A text is read back** from its bytes. -/
theorem decodeUtf8_encode (text : List Char) :
    decodeUtf8 (text.flatMap String.utf8EncodeChar) = some text :=
  decodeUtf8_of_items (decodeItems_encode text)

/-! ## Line breaks -/

/-- Whatever bytes complete the character, it is not one of a single byte. -/
def Incomplete.Wide (p : Incomplete) : Prop :=
  1 ≤ p.missing ∧ 0x80 ≤ p.low ∧
    0x80 ≤ 64 ^ p.missing * p.value + 64 ^ (p.missing - 1) * (p.low - 0x80)

/-- A character that is still incomplete will be one beyond ASCII. -/
def Ready (state : Option Incomplete) : Prop := ∀ p, state = some p → p.Wide

theorem ready_none : Ready none := fun _ h => absurd h (by simp)

theorem decodeFirst_ready (b : ℕ) : Ready (decodeFirst b).1 := by
  intro p hp
  unfold decodeFirst at hp
  split_ifs at hp <;> cases hp <;> simp only [Incomplete.Wide] <;> omega

/-- **The decoder waits for characters of several bytes only.** -/
theorem decodeStep_ready {state : Option Incomplete} (h : Ready state) (b : UInt8) :
    Ready (decodeStep state b).1 := by
  cases state with
  | none => exact decodeFirst_ready b.toNat
  | some p =>
    obtain ⟨hmissing, hlow, hvalue⟩ := h p rfl
    unfold decodeStep
    dsimp only
    split_ifs with hb hm
    · exact ready_none
    · intro q hq
      cases hq
      refine ⟨by dsimp only; omega, le_refl _, ?_⟩
      dsimp only
      obtain ⟨k, hk⟩ : ∃ k, p.missing = k + 2 := ⟨p.missing - 2, by omega⟩
      rw [hk] at hvalue ⊢
      have hle : 64 ^ (k + 1) * (p.low - 0x80) ≤ 64 ^ (k + 1) * (b.toNat - 0x80) :=
        Nat.mul_le_mul_left _ (by omega)
      have hpow : 64 ^ (k + 2) * p.value = 64 ^ (k + 1) * (64 * p.value) := by ring
      have hsum : 64 ^ (k + 1) * (64 * p.value + (b.toNat - 0x80)) =
          64 ^ (k + 1) * (64 * p.value) + 64 ^ (k + 1) * (b.toNat - 0x80) := Nat.mul_add _ _ _
      simp only [Nat.add_sub_cancel, show k + 2 - 1 = k + 1 by omega] at hvalue ⊢
      omega
    · exact decodeFirst_ready b.toNat

theorem decodeStep_newline {state : Option Incomplete} (h : Ready state) :
    decodeStep state 0x0A = (none, flush state ++ [some '\n']) := by
  cases state with
  | none => rfl
  | some p =>
    have hlow := (h p rfl).2.1
    have hb : (0x0A : UInt8).toNat = 10 := rfl
    unfold decodeStep
    dsimp only
    rw [if_neg (by omega)]
    rfl

theorem ready_final (bytes : Bytes) : Ready (Run.final decodeStep none bytes) :=
  Run.final_of_along (C := fun _ _ => True) Ready (fun _ b _ h => decodeStep_ready h b) bytes none
    (fun _ _ _ _ => trivial) ready_none

/-- **A line break separates what is decoded.** -/
theorem decodeItems_newline (a b : Bytes) :
    decodeItems (a ++ 0x0A :: b) = decodeItems a ++ some '\n' :: decodeItems b := by
  unfold decodeItems
  rw [Run.outputs_append_cons, Run.final_append, Run.final_cons, decodeStep_newline (ready_final a)]
  simp

theorem decodeReplace_newline (a b : Bytes) :
    decodeReplace (a ++ 0x0A :: b) = decodeReplace a ++ '\n' :: decodeReplace b := by
  unfold decodeReplace
  rw [decodeItems_newline, List.map_append, List.map_cons]
  rfl

/-! ## Bytes without line breaks -/

/-- A byte that is not a line break. -/
def Plain (b : UInt8) : Prop := b ≠ 0x0A ∧ b ≠ 0x0D

instance (b : UInt8) : Decidable (Plain b) := inferInstanceAs (Decidable (_ ∧ _))

/-- A character that is not a line break. -/
def PlainChar (c : Char) : Prop := c ≠ '\n' ∧ c ≠ '\r'

theorem plainChar_ofNat {n : ℕ} (h : n ≠ 10 ∧ n ≠ 13) : PlainChar (Char.ofNat n) := by
  have htoNat : (Char.ofNat n).toNat = n ∨ (Char.ofNat n).toNat = 0 := by
    by_cases hv : n.isValidChar
    · rw [Char.ofNat, dif_pos hv]
      exact Or.inl rfl
    · rw [Char.ofNat, dif_neg hv]
      exact Or.inr rfl
  constructor
  · intro he
    have h10 : (Char.ofNat n).toNat = 10 := by rw [he]; rfl
    omega
  · intro he
    have h13 : (Char.ofNat n).toNat = 13 := by rw [he]; rfl
    omega

theorem plainChar_replacement : PlainChar replacementChar := plainChar_ofNat (by omega)

theorem plainChar_decodeFirst {b : ℕ} (h : b ≠ 10 ∧ b ≠ 13) {c : Char}
    (hc : some c ∈ (decodeFirst b).2) : PlainChar c := by
  have htext : (decodeFirst b).2 = [] ∨ (decodeFirst b).2 = [some (Char.ofNat b)] ∨
      (decodeFirst b).2 = [none] := by
    unfold decodeFirst
    split_ifs <;> simp
  rcases htext with he | he | he <;> rw [he] at hc
  · simp at hc
  · rw [Option.some.inj (List.mem_singleton.mp hc)]
    exact plainChar_ofNat h
  · simp at hc

theorem plainChar_decodeStep {state : Option Incomplete} {b : UInt8} (h : Ready state)
    (hb : Plain b) {c : Char} (hc : some c ∈ (decodeStep state b).2) : PlainChar c := by
  have hnat : b.toNat ≠ 10 ∧ b.toNat ≠ 13 :=
    ⟨fun he => hb.1 (UInt8.toNat_inj.mp he), fun he => hb.2 (UInt8.toNat_inj.mp he)⟩
  cases state with
  | none => exact plainChar_decodeFirst hnat hc
  | some p =>
    obtain ⟨hmissing, hlow, hvalue⟩ := h p rfl
    unfold decodeStep at hc
    dsimp only at hc
    split_ifs at hc with hb hm
    · have hone : p.missing = 1 := by omega
      rw [hone] at hvalue
      simp only [pow_one, Nat.sub_self, pow_zero, one_mul] at hvalue
      rw [Option.some.inj (List.mem_singleton.mp hc)]
      exact plainChar_ofNat (by omega)
    · simp at hc
    · exact plainChar_decodeFirst hnat (List.mem_of_ne_of_mem (by simp) hc)

theorem plainChar_decodeItems {bytes : Bytes} (h : ∀ b ∈ bytes, Plain b) {c : Char}
    (hc : some c ∈ decodeItems bytes) : PlainChar c := by
  rcases List.mem_append.mp hc with hc | hc
  · refine Run.forall_outputs_of_along (C := fun _ b => Plain b) Ready
      (fun item => ∀ c, item = some c → PlainChar c) (fun _ b _ hs => decodeStep_ready hs b) ?_ bytes
      none ?_ ready_none _ hc c rfl
    · rintro state b hb hs item hitem c rfl
      exact plainChar_decodeStep hs hb hitem
    · rintro pre b post rfl
      exact h b (by simp)
  · cases hs : Run.final decodeStep none bytes with
    | none => simp [hs, flush] at hc
    | some p => simp [hs, flush] at hc

theorem plainChar_decodeReplace {bytes : Bytes} (h : ∀ b ∈ bytes, Plain b) :
    ∀ c ∈ decodeReplace bytes, PlainChar c := by
  intro c hc
  obtain ⟨item, hitem, rfl⟩ := List.mem_map.mp hc
  cases item with
  | none => exact plainChar_replacement
  | some c => exact plainChar_decodeItems h hitem

theorem decodeStep_nonempty (state : Option Incomplete) (b : UInt8) :
    (decodeStep state b).2 ++ flush (decodeStep state b).1 ≠ [] := by
  have hfirst : (decodeFirst b.toNat).2 ++ flush (decodeFirst b.toNat).1 ≠ [] := by
    unfold decodeFirst
    split_ifs <;> simp [flush]
  cases state with
  | none => exact hfirst
  | some p =>
    unfold decodeStep
    dsimp only
    split_ifs <;> simp [flush]

theorem decodeReplace_ne_nil {bytes : Bytes} (h : bytes ≠ []) : decodeReplace bytes ≠ [] := by
  obtain ⟨init, b, rfl⟩ := (List.eq_nil_or_concat bytes).resolve_left h
  have hlast := decodeStep_nonempty (Run.final decodeStep none init) b
  rw [decodeReplace, List.concat_eq_append, decodeItems, Run.outputs_append_cons, Run.final_concat]
  simp only [Run.outputs_nil, List.append_nil, List.append_assoc, ne_eq, List.map_eq_nil_iff]
  exact List.append_ne_nil_of_right_ne_nil _ hlast

end Lib
