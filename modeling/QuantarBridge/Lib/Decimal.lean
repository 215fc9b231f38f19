import Mathlib.Data.List.Lex
import Mathlib.Data.Nat.Digits.Lemmas

/-!
# Decimal numbers in byte strings

Byte strings are lists of bytes, compared byte by byte. `decimal n` writes a number without leading
zeros and `padded w n` fills it up with zeros to `w` digits.

* `Bytes.leb`: the order of byte strings is total;
* `decimal_inj`: a number is determined by its digits, also in front of a separator
  (`decimal_append_inj`);
* `padded_lt`: numbers of at most `w` digits are ordered as their padded strings.
-/

set_option autoImplicit false

namespace Lib

/-- A byte string. -/
abbrev Bytes := List UInt8

/-- The bytes of ASCII text. -/
def ascii (text : List Char) : Bytes := text.map fun c => UInt8.ofNat c.toNat

namespace Bytes

/-- The numbers of the bytes. -/
def nats (a : Bytes) : List ℕ := a.map UInt8.toNat

/-- Comparison byte by byte. -/
def leb (a b : Bytes) : Bool := nats a ≤ nats b

theorem nats_append (a b : Bytes) : nats (a ++ b) = nats a ++ nats b := List.map_append

theorem nats_inj {a b : Bytes} (h : nats a = nats b) : a = b :=
  List.map_injective_iff.mpr (fun _ _ hx => UInt8.toNat_inj.mp hx) h

theorem leb_iff (a b : Bytes) : leb a b = true ↔ nats a ≤ nats b := by rw [leb, decide_eq_true_iff]

theorem leb_trans (a b c : Bytes) (h₁ : leb a b = true) (h₂ : leb b c = true) :
    leb a c = true := by
  rw [leb_iff] at *
  exact le_trans h₁ h₂

theorem leb_total (a b : Bytes) : (leb a b || leb b a) = true := by
  rw [Bool.or_eq_true, leb_iff, leb_iff]
  exact le_total _ _

end Bytes

/-! ## Digits -/

/-- The decimal digits, most significant first. -/
def decimalDigits (n : ℕ) : List ℕ := if n = 0 then [0] else (Nat.digits 10 n).reverse

/-- The byte of a digit. -/
def digitByte (d : ℕ) : UInt8 := UInt8.ofNat (48 + d)

/-- A number without leading zeros. -/
def decimal (n : ℕ) : Bytes := (decimalDigits n).map digitByte

/-- A number filled up with zeros to `w` digits. -/
def padded (w n : ℕ) : Bytes := (decimal n).leftpad w (digitByte 0)

/-- The value of a digit string. -/
def digitsValue (l : List ℕ) : ℕ := l.foldl (fun v d => 10 * v + d) 0

theorem toNat_digitByte {d : ℕ} (h : d < 10) : (digitByte d).toNat = 48 + d := by
  rw [digitByte, UInt8.toNat_ofNat', Nat.mod_eq_of_lt (by omega)]

theorem decimalDigits_lt {n d : ℕ} (h : d ∈ decimalDigits n) : d < 10 := by
  unfold decimalDigits at h
  split_ifs at h
  · rw [List.mem_singleton] at h
    omega
  · exact Nat.digits_lt_base (by decide) (List.mem_reverse.mp h)

theorem digitsValue_append (l : List ℕ) (d : ℕ) :
    digitsValue (l ++ [d]) = 10 * digitsValue l + d := by
  rw [digitsValue, List.foldl_append]
  rfl

theorem digitsValue_reverse (l : List ℕ) : digitsValue l.reverse = Nat.ofDigits 10 l := by
  induction l with
  | nil => rfl
  | cons d l ih =>
    rw [List.reverse_cons, digitsValue_append, ih, Nat.ofDigits_cons]
    rw [Nat.add_comm]

theorem digitsValue_decimalDigits (n : ℕ) : digitsValue (decimalDigits n) = n := by
  unfold decimalDigits
  split_ifs with h
  · rw [h]; rfl
  · rw [digitsValue_reverse, Nat.ofDigits_digits]

theorem digitsValue_zeros (k : ℕ) (l : List ℕ) :
    digitsValue (List.replicate k 0 ++ l) = digitsValue l := by
  rw [digitsValue, List.foldl_append]
  congr 1
  induction k with
  | zero => rfl
  | succ k ih => rw [List.replicate_succ', List.foldl_append, ih]; rfl

theorem nats_decimal (n : ℕ) : Bytes.nats (decimal n) = (decimalDigits n).map (48 + ·) := by
  rw [Bytes.nats, decimal, List.map_map]
  exact List.map_congr_left fun d hd => toNat_digitByte (decimalDigits_lt hd)

/-- **A number is determined by its digits.** -/
theorem decimal_inj {n m : ℕ} (h : decimal n = decimal m) : n = m := by
  have hn := congrArg Bytes.nats h
  rw [nats_decimal, nats_decimal] at hn
  have hd := List.map_injective_iff.mpr (add_right_injective 48) hn
  rw [← digitsValue_decimalDigits n, hd, digitsValue_decimalDigits]

theorem decimal_bounds {n : ℕ} {b : UInt8} (h : b ∈ decimal n) : 48 ≤ b.toNat ∧ b.toNat < 58 := by
  obtain ⟨d, hd, rfl⟩ := List.mem_map.mp h
  have := decimalDigits_lt hd
  rw [toNat_digitByte this]
  omega

theorem append_cons_inj {a a' b b' : Bytes} {s : UInt8} (ha : s ∉ a) (ha' : s ∉ a')
    (h : a ++ s :: b = a' ++ s :: b') : a = a' ∧ b = b' := by
  induction a generalizing a' with
  | nil =>
    cases a' with
    | nil => exact ⟨rfl, (List.cons.inj h).2⟩
    | cons c a' => exact absurd ((List.cons.inj h).1 ▸ List.mem_cons_self) ha'
  | cons c a ih =>
    cases a' with
    | nil => exact absurd ((List.cons.inj h).1 ▸ List.mem_cons_self) ha
    | cons c' a' =>
      obtain ⟨hc, ht⟩ := List.cons.inj h
      obtain ⟨h1, h2⟩ := ih (fun hm => ha (List.mem_cons_of_mem _ hm))
        (fun hm => ha' (List.mem_cons_of_mem _ hm)) ht
      exact ⟨by rw [hc, h1], h2⟩

/-- **A number in front of a separator.** -/
theorem decimal_append_inj {n m : ℕ} {b b' : Bytes} {s : UInt8} (hs : ¬ (48 ≤ s.toNat ∧ s.toNat < 58))
    (h : decimal n ++ s :: b = decimal m ++ s :: b') : n = m ∧ b = b' := by
  obtain ⟨h1, h2⟩ := append_cons_inj (fun hm => hs (decimal_bounds hm))
    (fun hm => hs (decimal_bounds hm)) h
  exact ⟨decimal_inj h1, h2⟩

/-! ## Padding -/

theorem digitsValue_cons (d : ℕ) (l : List ℕ) :
    digitsValue (d :: l) = 10 ^ l.length * d + digitsValue l := by
  have h := digitsValue_reverse (d :: l).reverse
  have hl := digitsValue_reverse l.reverse
  rw [List.reverse_reverse] at h hl
  rw [h, List.reverse_cons, Nat.ofDigits_append, ← hl, List.length_reverse, Nat.ofDigits_singleton,
    Nat.add_comm]

theorem digitsValue_lt {l : List ℕ} (h : ∀ d ∈ l, d < 10) : digitsValue l < 10 ^ l.length := by
  have hl := digitsValue_reverse l.reverse
  rw [List.reverse_reverse] at hl
  rw [hl, ← List.length_reverse]
  exact Nat.ofDigits_lt_base_pow_length (by decide) fun d hd => h d (List.mem_reverse.mp hd)

theorem lt_of_value_lt {a b : List ℕ} (ha : ∀ d ∈ a, d < 10) (hb : ∀ d ∈ b, d < 10)
    (hl : a.length = b.length) (h : digitsValue a < digitsValue b) (x y : List ℕ) :
    a.map (48 + ·) ++ x < b.map (48 + ·) ++ y := by
  induction a generalizing b with
  | nil =>
    rw [List.length_eq_zero_iff.mp hl.symm] at h
    exact absurd h (lt_irrefl _)
  | cons d a ih =>
    cases b with
    | nil => cases hl
    | cons e b =>
      have hlen : a.length = b.length := Nat.succ_injective hl
      have hva := digitsValue_lt fun k hk => ha k (List.mem_cons_of_mem _ hk)
      have hvb := digitsValue_lt fun k hk => hb k (List.mem_cons_of_mem _ hk)
      rw [digitsValue_cons, digitsValue_cons, hlen] at h
      rw [hlen] at hva
      rw [List.map_cons, List.map_cons, List.cons_append, List.cons_append, List.cons_lt_cons_iff]
      rcases Nat.lt_trichotomy d e with hde | hde | hde
      · exact .inl (by omega)
      · subst hde
        refine .inr ⟨rfl, ih (fun k hk => ha k (List.mem_cons_of_mem _ hk))
          (fun k hk => hb k (List.mem_cons_of_mem _ hk)) hlen (by omega)⟩
      · exfalso
        have hmul : 10 ^ b.length * (e + 1) ≤ 10 ^ b.length * d := Nat.mul_le_mul_left _ hde
        rw [Nat.mul_succ] at hmul
        omega

theorem length_decimalDigits_le {w n : ℕ} (hw : 0 < w) (h : n < 10 ^ w) :
    (decimalDigits n).length ≤ w := by
  unfold decimalDigits
  split_ifs
  · exact hw
  · rw [List.length_reverse]
    exact (Nat.digits_length_le_iff (by decide) n).mpr h

theorem nats_padded (w n : ℕ) : Bytes.nats (padded w n) =
    (List.replicate (w - (decimalDigits n).length) 0 ++ decimalDigits n).map (48 + ·) := by
  rw [padded, List.leftpad, Bytes.nats_append, nats_decimal, List.map_append]
  congr 1
  rw [Bytes.nats, List.map_replicate, List.map_replicate, decimal, List.length_map]
  rfl

theorem padded_bounds {w n : ℕ} {b : UInt8} (h : b ∈ padded w n) :
    48 ≤ b.toNat ∧ b.toNat < 58 := by
  rcases List.mem_append.mp h with h | h
  · rw [List.eq_of_mem_replicate h]; decide
  · exact decimal_bounds h

/-- What stands behind a padded number and a separator. -/
theorem padded_append_inj {w n m : ℕ} {b b' : Bytes} {s : UInt8}
    (hs : ¬ (48 ≤ s.toNat ∧ s.toNat < 58)) (h : padded w n ++ s :: b = padded w m ++ s :: b') :
    b = b' :=
  (append_cons_inj (fun hm => hs (padded_bounds hm)) (fun hm => hs (padded_bounds hm)) h).2

theorem zeros_append_lt {k n d : ℕ} (h : d ∈ List.replicate k 0 ++ decimalDigits n) : d < 10 := by
  rcases List.mem_append.mp h with h | h
  · rw [List.eq_of_mem_replicate h]; decide
  · exact decimalDigits_lt h

/-- **Padded numbers are ordered as strings**, whatever follows them. -/
theorem padded_lt {w n m : ℕ} (hw : 0 < w) (hm : m < 10 ^ w) (h : n < m) (x y : Bytes) :
    Bytes.nats (padded w n ++ x) < Bytes.nats (padded w m ++ y) := by
  have hn := length_decimalDigits_le hw (h.trans hm)
  have hm' := length_decimalDigits_le hw hm
  rw [Bytes.nats_append, Bytes.nats_append, nats_padded, nats_padded]
  refine lt_of_value_lt (fun _ => zeros_append_lt) (fun _ => zeros_append_lt) ?_ ?_ _ _
  · simp only [List.length_append, List.length_replicate]
    omega
  · rw [digitsValue_zeros, digitsValue_zeros, digitsValue_decimalDigits, digitsValue_decimalDigits]
    exact h

end Lib
