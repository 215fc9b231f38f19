import Mathlib.Data.List.Basic

/-!
# Buffers of a fixed length

A program copies data into a buffer and reads a part of it. Neither goes beyond the end.

* `copyTo`, `slice`: the two operations, which fail beyond the end;
* `slice_copyTo_self`, `slice_copyTo_of_disjoint`: **what a copy changes**;
* `slice_append`, `slice_take`: parts of a buffer.
-/

set_option autoImplicit false

namespace Lib

variable {α : Type} {buffer buffer' data : List α} {offset n : ℕ}

/-- Copy data into a buffer. -/
def copyTo (buffer : List α) (offset : ℕ) (data : List α) : Option (List α) :=
  if buffer.length < offset + data.length then none
  else some (buffer.take offset ++ data ++ buffer.drop (offset + data.length))

/-- A part of a buffer. -/
def slice (buffer : List α) (offset n : ℕ) : Option (List α) :=
  if buffer.length < offset + n then none else some ((buffer.drop offset).take n)

theorem exists_copyTo (buffer : List α) (offset : ℕ) (data : List α)
    (h : offset + data.length ≤ buffer.length) :
    ∃ buffer', copyTo buffer offset data = some buffer' :=
  ⟨_, if_neg (Nat.not_lt.mpr h)⟩

theorem copyTo_eq_some (h : copyTo buffer offset data = some buffer') :
    offset + data.length ≤ buffer.length ∧
      buffer' = buffer.take offset ++ data ++ buffer.drop (offset + data.length) := by
  unfold copyTo at h
  split_ifs at h with hlength
  exact ⟨Nat.not_lt.mp hlength, (Option.some.inj h).symm⟩

theorem copyTo_append (front rest data : List α) (h : data.length ≤ rest.length) :
    copyTo (front ++ rest) front.length data = some ((front ++ data) ++ rest.drop data.length) := by
  unfold copyTo
  rw [if_neg (by rw [List.length_append]; omega), List.take_left, List.drop_length_add_append]

theorem copyTo_eq_none (h : buffer.length < offset + data.length) :
    copyTo buffer offset data = none :=
  if_pos h

theorem slice_left (front rest : List α) : slice (front ++ rest) 0 front.length = some front := by
  unfold slice
  rw [if_neg (by rw [List.length_append]; omega), List.drop_zero, List.take_left]

theorem length_copyTo (h : copyTo buffer offset data = some buffer') :
    buffer'.length = buffer.length := by
  obtain ⟨hlength, rfl⟩ := copyTo_eq_some h
  simp only [List.length_append, List.length_take, List.length_drop]
  omega

theorem getElem?_copyTo_of_lt (h : copyTo buffer offset data = some buffer') {i : ℕ}
    (hi : i < offset) : buffer'[i]? = buffer[i]? := by
  obtain ⟨hlength, rfl⟩ := copyTo_eq_some h
  rw [List.append_assoc, List.getElem?_append_left (by rw [List.length_take]; omega),
    List.getElem?_take_of_lt hi]

theorem getElem?_copyTo_of_le (h : copyTo buffer offset data = some buffer') {i : ℕ}
    (hi : offset + data.length ≤ i) : buffer'[i]? = buffer[i]? := by
  obtain ⟨hlength, rfl⟩ := copyTo_eq_some h
  have hfront : (buffer.take offset ++ data).length = offset + data.length := by
    rw [List.length_append, List.length_take]
    omega
  rw [List.getElem?_append_right (by omega), hfront, List.getElem?_drop, Nat.add_sub_cancel' hi]

/-- **What was copied** is read back. -/
theorem slice_copyTo_self (h : copyTo buffer offset data = some buffer') :
    slice buffer' offset data.length = some data := by
  have hbuffer' := length_copyTo h
  obtain ⟨hlength, rfl⟩ := copyTo_eq_some h
  have htake : (buffer.take offset).length = offset := by
    rw [List.length_take]
    omega
  rw [slice, if_neg (by omega), List.append_assoc, List.drop_append_of_le_length (Nat.le_of_eq htake.symm),
    List.drop_of_length_le (Nat.le_of_eq htake), List.nil_append, List.take_left]

theorem slice_congr (hlength : buffer'.length = buffer.length)
    (h : ∀ i, offset ≤ i → i < offset + n → buffer'[i]? = buffer[i]?) :
    slice buffer' offset n = slice buffer offset n := by
  rw [slice, slice, hlength]
  split_ifs
  · rfl
  · refine congrArg some (List.ext_getElem? fun i => ?_)
    by_cases hi : i < n
    · rw [List.getElem?_take_of_lt hi, List.getElem?_take_of_lt hi, List.getElem?_drop,
        List.getElem?_drop, h _ (Nat.le_add_right _ _) (by omega)]
    · rw [List.getElem?_eq_none, List.getElem?_eq_none]
      · rw [List.length_take]
        omega
      · rw [List.length_take]
        omega

/-- **The rest of the buffer** is as it was. -/
theorem slice_copyTo_of_disjoint (h : copyTo buffer offset data = some buffer') {offset' : ℕ}
    (hd : offset' + n ≤ offset ∨ offset + data.length ≤ offset') :
    slice buffer' offset' n = slice buffer offset' n :=
  slice_congr (length_copyTo h) fun i hi hn => by
    rcases hd with hd | hd
    · exact getElem?_copyTo_of_lt h (by omega)
    · exact getElem?_copyTo_of_le h (by omega)

theorem slice_append {m : ℕ} {xs ys : List α} (hx : slice buffer offset n = some xs)
    (hy : slice buffer (offset + n) m = some ys) :
    slice buffer offset (n + m) = some (xs ++ ys) := by
  unfold slice at hx hy ⊢
  split_ifs at hx hy with h₁ h₂
  rw [if_neg (by omega), ← Option.some.inj hx, ← Option.some.inj hy, List.take_add, List.drop_drop]

theorem slice_take {m : ℕ} (hm : offset + n ≤ m) (h : m ≤ buffer.length) :
    slice (buffer.take m) offset n = slice buffer offset n := by
  rw [slice, slice, List.length_take, if_neg (by omega), if_neg (by omega), List.drop_take,
    List.take_take, Nat.min_eq_left (by omega)]

theorem slice_zero (h : offset ≤ buffer.length) : slice buffer offset 0 = some [] := by
  rw [slice, if_neg (by omega), List.take_zero]

end Lib
