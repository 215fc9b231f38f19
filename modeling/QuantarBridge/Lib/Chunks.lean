import Mathlib.Data.List.Basic
import Mathlib.Tactic.Common

/-!
# Blocks of a stream

A stream is cut into blocks of one length as its elements arrive. What does not fill a block is left
over, and the next elements are added to it.

* `blocks`, `leftover`: the whole blocks of a list, and the rest;
* `flatten_blocks_append_leftover`: **nothing is lost**;
* `blocks_append`, `leftover_append`: a list that arrives in parts;
* `blocks_of_lt`, `blocks_of_le`: the first block;
* `length_leftover_lt`, `leftover_of_dvd`: what is left over;
* `block_induction`: induction over the blocks of a list.
-/

set_option autoImplicit false

namespace Lib

variable {α : Type} {n : ℕ} {l x : List α}

/-- The whole blocks of a list. -/
def blocks (n : ℕ) (l : List α) : List (List α) :=
  (List.range (l.length / n)).map fun i => (l.drop (n * i)).take n

/-- What does not fill a block. -/
def leftover (n : ℕ) (l : List α) : List α := l.drop (n * (l.length / n))

theorem blocks_of_lt (h : l.length < n) : blocks n l = [] := by
  rw [blocks, Nat.div_eq_of_lt h]
  rfl

theorem leftover_of_lt (h : l.length < n) : leftover n l = l := by
  rw [leftover, Nat.div_eq_of_lt h, Nat.mul_zero, List.drop_zero]

theorem length_leftover_lt (hn : 0 < n) : (leftover n l).length < n := by
  have hmod := Nat.mod_lt l.length hn
  have hdiv := Nat.div_add_mod l.length n
  rw [leftover, List.length_drop]
  omega

theorem blocks_of_le (hn : 0 < n) (h : n ≤ l.length) :
    blocks n l = l.take n :: blocks n (l.drop n) := by
  have hdiv : l.length / n = (l.drop n).length / n + 1 := by
    rw [List.length_drop, Nat.div_eq_sub_div hn h]
  rw [blocks, blocks, hdiv, List.range_succ_eq_map, List.map_cons, List.map_map, Nat.mul_zero,
    List.drop_zero]
  refine congrArg (l.take n :: ·) (List.map_congr_left fun i _ => ?_)
  show (l.drop (n * (i + 1))).take n = ((l.drop n).drop (n * i)).take n
  rw [List.drop_drop, Nat.mul_add, Nat.mul_one, Nat.add_comm]

theorem leftover_of_le (hn : 0 < n) (h : n ≤ l.length) : leftover n l = leftover n (l.drop n) := by
  have hdiv : l.length / n = (l.drop n).length / n + 1 := by
    rw [List.length_drop, Nat.div_eq_sub_div hn h]
  rw [leftover, leftover, hdiv, List.drop_drop, Nat.mul_add, Nat.mul_one, Nat.add_comm]

theorem length_of_mem_blocks {b : List α} (h : b ∈ blocks n l) : b.length = n := by
  obtain ⟨i, hi, rfl⟩ := List.mem_map.mp h
  have hlt := List.mem_range.mp hi
  have hmul : n * (i + 1) ≤ n * (l.length / n) := Nat.mul_le_mul_left n hlt
  have hdiv := Nat.mul_div_le l.length n
  rw [Nat.mul_add, Nat.mul_one] at hmul
  rw [List.length_take, List.length_drop]
  omega

theorem mem_of_mem_blocks {b : List α} {a : α} (h : b ∈ blocks n l) (ha : a ∈ b) : a ∈ l := by
  obtain ⟨i, -, rfl⟩ := List.mem_map.mp h
  exact List.mem_of_mem_drop (List.mem_of_mem_take ha)

theorem leftover_of_dvd (h : n ∣ l.length) : leftover n l = [] := by
  rw [leftover, Nat.mul_div_cancel' h, List.drop_length]

theorem block_induction {P : List α → Prop} (hn : 0 < n) (short : ∀ l, l.length < n → P l)
    (long : ∀ l, n ≤ l.length → P (l.drop n) → P l) (l : List α) : P l := by
  induction hl : l.length using Nat.strongRecOn generalizing l with
  | ind m ih =>
    rcases Nat.lt_or_ge l.length n with h | h
    · exact short l h
    · refine long l h (ih (l.drop n).length ?_ _ rfl)
      rw [List.length_drop]
      omega

/-- **Nothing is lost.** -/
theorem flatten_blocks_append_leftover (hn : 0 < n) (l : List α) :
    (blocks n l).flatten ++ leftover n l = l := by
  induction l using block_induction hn with
  | short l h => rw [blocks_of_lt h, leftover_of_lt h, List.flatten_nil, List.nil_append]
  | long l h ih =>
    rw [blocks_of_le hn h, leftover_of_le hn h, List.flatten_cons, List.append_assoc, ih,
      List.take_append_drop]

/-- **A list that arrives in parts**: the blocks of the second part start with what is left over. -/
theorem blocks_append (hn : 0 < n) (l x : List α) :
    blocks n (l ++ x) = blocks n l ++ blocks n (leftover n l ++ x) := by
  induction l using block_induction hn with
  | short l h => rw [blocks_of_lt h, leftover_of_lt h, List.nil_append]
  | long l h ih =>
    have hlong : n ≤ (l ++ x).length := by
      rw [List.length_append]
      omega
    rw [blocks_of_le hn h, leftover_of_le hn h, blocks_of_le hn hlong,
      List.take_append_of_le_length h, List.drop_append_of_le_length h, ih, List.cons_append]

theorem leftover_append (hn : 0 < n) (l x : List α) :
    leftover n (l ++ x) = leftover n (leftover n l ++ x) := by
  induction l using block_induction hn with
  | short l h => rw [leftover_of_lt h]
  | long l h ih =>
    have hlong : n ≤ (l ++ x).length := by
      rw [List.length_append]
      omega
    rw [leftover_of_le hn h, leftover_of_le hn hlong, List.drop_append_of_le_length h, ih]

end Lib
