import Mathlib.Data.List.TakeWhile
import Mathlib.Logic.Function.Iterate

/-!
# A backlog that is worked off from its front

A worker looks at the first `k` of a backlog, takes out those it can serve and leaves the others where
they are. One that stops the worker ends its turn. What stays in front keeps the worker from what is
behind it.

* `looked`, `turn`: what a turn looks at and what it leaves;
* `reach`: how far the turns get. A turn gets `k` further, but for those in front that stay;
* `turn_iterate`: **what is left after some turns**.
-/

set_option autoImplicit false

namespace Lib.Backlog

variable {α : Type} (stays stops : α → Bool) (k : ℕ)

/-- A turn looks at the first `k`, up to the first that stops it. -/
def looked (l : List α) : List α := (l.take k).takeWhile fun a => !stops a

/-- What a turn leaves. -/
def turn (l : List α) : List α :=
  (looked stops k l).filter stays ++ l.drop (looked stops k l).length

/-- How far the turns get when nothing stops them. -/
def reach (l : List α) : ℕ → ℕ
  | 0 => 0
  | t + 1 => reach l t + (k - (l.take (reach l t)).countP stays)

/-- Those in front of the first that stops a turn. -/
def front (l : List α) : List α := l.takeWhile fun a => !stops a

/-- The first that stops a turn and those behind it. -/
def back (l : List α) : List α := l.dropWhile fun a => !stops a

theorem front_append_back (l : List α) : front stops l ++ back stops l = l :=
  List.takeWhile_append_dropWhile

theorem not_stops_of_mem_front {l : List α} {a : α} (h : a ∈ front stops l) : stops a = false := by
  simpa using List.mem_takeWhile_imp h

theorem turn_eq (l : List α) : turn stays stops k l =
    (front stops (l.take k)).filter stays ++ back stops (l.take k) ++ l.drop k := by
  have hsplit : looked stops k l ++ (back stops (l.take k) ++ l.drop k) = l := by
    rw [← List.append_assoc]
    exact (congrArg (· ++ l.drop k) (front_append_back stops (l.take k))).trans
      (List.take_append_drop k l)
  have hdrop : l.drop (looked stops k l).length = back stops (l.take k) ++ l.drop k :=
    (congrArg (List.drop (looked stops k l).length) hsplit.symm).trans (List.drop_left' rfl)
  unfold turn
  rw [hdrop, List.append_assoc]
  rfl

/-- What is left in front after the turns that got to `r`. -/
def left (l : List α) (r : ℕ) : List α := (l.take r).filter stays ++ l.drop r

variable {stays stops}

theorem mem_of_mem_left {l : List α} {r : ℕ} {a : α} (h : a ∈ left stays l r) : a ∈ l := by
  rcases List.mem_append.mp h with h | h
  · exact List.mem_of_mem_take (List.mem_filter.mp h).1
  · exact List.mem_of_mem_drop h

theorem looked_append {l l' : List α} (hl : ∀ a ∈ l, stops a = false)
    (hl' : ∀ a ∈ l'.head?, stops a = true) : looked stops k (l ++ l') = l.take k := by
  have hgo : ∀ a ∈ l.take k, (!stops a) = true := by
    intro a ha
    rw [hl a (List.mem_of_mem_take ha)]
    rfl
  have hstop : (l'.take (k - l.length)).takeWhile (fun a => !stops a) = [] := by
    cases l' with
    | nil => simp
    | cons a l' =>
      cases k - l.length with
      | zero => rfl
      | succ j => simp [hl' a rfl]
  unfold looked
  rw [List.take_append, List.takeWhile_append_of_pos hgo, hstop, List.append_nil]

theorem turn_append {l l' : List α} (hl : ∀ a ∈ l, stops a = false)
    (hl' : ∀ a ∈ l'.head?, stops a = true) :
    turn stays stops k (l ++ l') = left stays l k ++ l' := by
  unfold turn left
  rw [looked_append k hl hl', List.length_take, List.append_assoc]
  congr 1
  rw [List.drop_append_of_le_length (Nat.min_le_right k l.length)]
  rcases Nat.le_total k l.length with h | h
  · rw [Nat.min_eq_left h]
  · rw [Nat.min_eq_right h, List.drop_length, List.drop_eq_nil_of_le h]

/-- A turn gets further by what is not taken up by those that stay. -/
theorem left_left (l : List α) (r : ℕ) :
    left stays (left stays l r) k = left stays l (r + (k - (l.take r).countP stays)) := by
  have hcount : ((l.take r).filter stays).length = (l.take r).countP stays :=
    List.countP_eq_length_filter.symm
  have hkeep : ∀ l' : List α, l'.Sublist ((l.take r).filter stays) → l'.filter stays = l' :=
    fun l' h => List.filter_eq_self.mpr fun a ha => (List.mem_filter.mp (h.subset ha)).2
  unfold left
  rw [List.take_append, List.drop_append, List.filter_append, hcount, List.take_add,
    List.filter_append, hkeep _ (List.take_sublist k _), ← List.drop_drop]
  rcases Nat.le_total k ((l.take r).countP stays) with h | h
  · rw [Nat.sub_eq_zero_of_le h]
    simp [← List.append_assoc]
  · rw [List.take_of_length_le (hcount.trans_le h), List.drop_eq_nil_of_le (hcount.trans_le h),
      List.nil_append, List.append_assoc]

theorem head_back (l : List α) : ∀ a ∈ (back stops l).head?, stops a = true := by
  intro a ha
  have h := List.head?_dropWhile_not (fun a => !stops a) l
  rw [show (l.dropWhile fun a => !stops a).head? = some a from ha] at h
  simpa using h

/-- **What is left after some turns.** -/
theorem turn_iterate (l : List α) (t : ℕ) : (turn stays stops k)^[t] l =
    left stays (front stops l) (reach stays k (front stops l) t) ++ back stops l := by
  induction t with
  | zero =>
    unfold reach left
    simpa using (front_append_back stops l).symm
  | succ t ih =>
    rw [Function.iterate_succ_apply', ih, turn_append k ?_ (head_back l), left_left]
    · rfl
    · exact fun a ha => not_stops_of_mem_front stops (mem_of_mem_left ha)

theorem mem_take_or_iff (l : List α) (r : ℕ) (a : α) :
    a ∈ l.take r ∨ a ∈ (left stays l r).take k ↔
      a ∈ l.take (r + (k - (l.take r).countP stays)) := by
  have hcount : ((l.take r).filter stays).length = (l.take r).countP stays :=
    List.countP_eq_length_filter.symm
  unfold left
  rw [List.take_append, hcount, List.take_add, List.mem_append, List.mem_append, ← or_assoc]
  refine or_congr_left (or_iff_left_of_imp fun h => ?_)
  exact (List.mem_filter.mp (List.mem_of_mem_take h)).1

/-- **What some turns look at.** -/
theorem exists_looked_iff (l : List α) (t : ℕ) (a : α) :
    (∃ t' < t, a ∈ looked stops k ((turn stays stops k)^[t'] l)) ↔
      a ∈ (front stops l).take (reach stays k (front stops l) t) := by
  induction t with
  | zero =>
    unfold reach
    simp
  | succ t ih =>
    have hlooked : looked stops k ((turn stays stops k)^[t] l) =
        (left stays (front stops l) (reach stays k (front stops l) t)).take k := by
      rw [turn_iterate]
      refine looked_append k ?_ (head_back l)
      exact fun a ha => not_stops_of_mem_front stops (mem_of_mem_left ha)
    unfold reach
    rw [← mem_take_or_iff, ← ih, ← hlooked]
    constructor
    · rintro ⟨t', ht', ha⟩
      rcases Nat.lt_succ_iff_lt_or_eq.mp ht' with h | rfl
      · exact Or.inl ⟨t', h, ha⟩
      · exact Or.inr ha
    · rintro (⟨t', ht', ha⟩ | ha)
      · exact ⟨t', Nat.lt_succ_of_lt ht', ha⟩
      · exact ⟨t, Nat.lt_succ_self t, ha⟩

end Lib.Backlog
