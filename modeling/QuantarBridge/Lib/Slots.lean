import Mathlib.Data.List.Basic
import Mathlib.Data.List.Range

/-!
# Numbered slots

Items with numbers arrive in any order and any number of times. There are `n` slots, each keeps the
first item with its number, and an item with a number that is too large is dropped.

* `firstAt`, `slots`: what was kept;
* `slots_concat_of_free`, `slots_concat_of_not_free`: **one more item**;
* `countP_slots_iff`: as many slots as there are numbers are filled exactly when every number arrived;
* `slots_of_content`: items that agree fill the slots in the order of their numbers, whatever the order
  and the repetitions.
-/

set_option autoImplicit false

namespace Lib

variable {α : Type} {n : ℕ} {items : List (ℕ × α)}

/-- The first item with a number. -/
def firstAt (items : List (ℕ × α)) (i : ℕ) : Option α :=
  (items.find? fun item => item.1 = i).map Prod.snd

/-- The slots of the numbers below `n`. -/
def slots (n : ℕ) (items : List (ℕ × α)) : List (Option α) := (List.range n).map (firstAt items)

/-- Every number below `n` arrived. -/
def Complete (n : ℕ) (items : List (ℕ × α)) : Prop := ∀ i < n, i ∈ items.map Prod.fst

instance : Decidable (Complete n items) := inferInstanceAs (Decidable (∀ i < n, _))

theorem isSome_firstAt_iff (i : ℕ) : (firstAt items i).isSome = true ↔ i ∈ items.map Prod.fst := by
  unfold firstAt
  rw [Option.isSome_map, List.find?_isSome, List.mem_map]
  simp

theorem firstAt_concat (j i : ℕ) (a : α) : firstAt (items ++ [(j, a)]) i =
    (firstAt items i).or (if j = i then some a else none) := by
  unfold firstAt
  rw [List.find?_append, Option.map_or]
  by_cases h : j = i
  · simp [h]
  · simp [h]

theorem length_slots : (slots n items).length = n := by
  rw [slots, List.length_map, List.length_range]

theorem getElem?_slots (i : ℕ) :
    (slots n items)[i]? = if i < n then some (firstAt items i) else none := by
  unfold slots
  rw [List.getElem?_map]
  split_ifs with h
  · rw [List.getElem?_range h]
    rfl
  · rw [List.getElem?_eq_none (by rw [List.length_range]; omega)]
    rfl

theorem free_iff (j : ℕ) : (slots n items)[j]? = some none ↔ j < n ∧ firstAt items j = none := by
  rw [getElem?_slots]
  split_ifs with h <;> simp [h]

/-- **One more item** goes into its slot when there is one and it is free. -/
theorem slots_concat_of_free {j : ℕ} (a : α) (h : (slots n items)[j]? = some none) :
    slots n (items ++ [(j, a)]) = (slots n items).set j (some a) := by
  obtain ⟨hj, hnone⟩ := (free_iff j).mp h
  ext1 i
  rw [getElem?_slots, firstAt_concat, List.getElem?_set, length_slots, getElem?_slots]
  by_cases hij : j = i
  · subst hij
    simp [hj, hnone]
  · simp [hij]

theorem slots_concat_of_not_free {j : ℕ} (a : α) (h : ¬ (slots n items)[j]? = some none) :
    slots n (items ++ [(j, a)]) = slots n items := by
  rw [free_iff] at h
  ext1 i
  rw [getElem?_slots, firstAt_concat, getElem?_slots]
  by_cases hi : i < n
  · rw [if_pos hi, if_pos hi]
    by_cases hij : j = i
    · subst hij
      cases hfirst : firstAt items j with
      | none => exact absurd ⟨hi, hfirst⟩ h
      | some b => rfl
    · rw [if_neg hij, Option.or_none]
  · rw [if_neg hi, if_neg hi]

/-- All slots are filled exactly when every number arrived. -/
theorem countP_slots_iff : (slots n items).countP Option.isSome = n ↔ Complete n items := by
  have hall := List.countP_eq_length (p := Option.isSome) (l := slots n items)
  rw [length_slots] at hall
  rw [hall]
  unfold slots Complete
  simp only [List.forall_mem_map, List.mem_range, isSome_firstAt_iff]

/-- **Order and repetition do not matter** for items that agree. -/
theorem slots_of_content {content : ℕ → α} (h : ∀ i a, (i, a) ∈ items → a = content i)
    (hcomplete : Complete n items) : slots n items = (List.range n).map fun i => some (content i) := by
  refine List.map_congr_left fun i hi => ?_
  have hsome := (isSome_firstAt_iff i).mpr (hcomplete i (List.mem_range.mp hi))
  unfold firstAt at hsome ⊢
  rw [Option.isSome_map] at hsome
  obtain ⟨⟨j, a⟩, hfound⟩ := Option.isSome_iff_exists.mp hsome
  have hj : j = i := by simpa using List.find?_some hfound
  subst hj
  rw [hfound, Option.map_some, h j a (List.mem_of_find?_eq_some hfound)]

end Lib
