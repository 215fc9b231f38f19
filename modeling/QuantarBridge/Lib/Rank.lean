import Mathlib.Data.List.Sort

/-!
# The front of a sorted queue

A worker sorts what waits, looks at the first few and serves the first that can be served. Whether
it serves anything depends on how many are ahead of that one.

* `rank`: how many are ahead;
* `find?_take_of_sorted`: the first that is served, in a sorted list;
* `find?_take_insertionSort`: the same for a list that is sorted first.
-/

set_option autoImplicit false

namespace Lib

variable {α : Type} (r : α → α → Prop) [DecidableRel r] [DecidableEq α]

/-- How many elements are ahead of `a`. -/
def rank (l : List α) (a : α) : ℕ := l.countP fun b => r b a ∧ b ≠ a

theorem rank_perm {l l' : List α} (h : l.Perm l') (a : α) : rank r l a = rank r l' a :=
  h.countP_eq _

/-- `a` is the first element that can be served, and fewer than `k` are ahead of it. -/
structure Served (p : α → Bool) (l : List α) (k : ℕ) (a : α) : Prop where
  mem : a ∈ l
  can : p a = true
  first : ∀ b ∈ l, p b = true → r a b
  near : rank r l a < k

variable {r}

theorem rank_cons_of_ahead {a b : α} {l : List α} (h : r b a) (hne : b ≠ a) :
    rank r (b :: l) a = rank r l a + 1 :=
  List.countP_cons_of_pos (decide_eq_true ⟨h, hne⟩)

variable [Std.Antisymm r]

theorem rank_of_first {b : α} {l : List α} (h : ∀ c ∈ l, r b c) : rank r (b :: l) b = 0 := by
  unfold rank
  rw [List.countP_eq_zero]
  intro c hc hahead
  obtain ⟨hr, hne⟩ := of_decide_eq_true hahead
  rcases List.mem_cons.mp hc with hc | hc
  · exact hne hc
  · exact hne (antisymm hr (h c hc))

theorem find?_take_of_sorted (p : α → Bool) (l : List α) (hl : l.Pairwise r) (hnodup : l.Nodup)
    [Std.Refl r] (a : α) : ∀ k, (l.take k).find? p = some a ↔ Served r p l k a := by
  induction l with
  | nil =>
    intro k
    rw [List.take_nil, List.find?_nil]
    exact ⟨fun h => absurd h.symm (Option.some_ne_none a), fun h => absurd h.mem List.not_mem_nil⟩
  | cons b l ih =>
    obtain ⟨hb, hl⟩ := List.pairwise_cons.mp hl
    obtain ⟨hnot, hnodup⟩ := List.nodup_cons.mp hnodup
    intro k
    cases k with
    | zero =>
      rw [List.take_zero, List.find?_nil]
      exact ⟨fun h => absurd h.symm (Option.some_ne_none a), fun h => absurd h.near (Nat.not_lt_zero _)⟩
    | succ k =>
      rw [List.take_succ_cons, List.find?_cons]
      cases hp : p b with
      | true =>
        dsimp only
        constructor
        · intro h
          obtain rfl := Option.some.inj h
          refine ⟨List.mem_cons_self, hp, fun c hc _ => ?_, ?_⟩
          · rcases List.mem_cons.mp hc with rfl | hc
            · exact refl c
            · exact hb c hc
          · rw [rank_of_first hb]
            exact Nat.succ_pos k
        · intro h
          have hab : r a b := h.first b List.mem_cons_self hp
          rcases List.mem_cons.mp h.mem with rfl | ha
          · rfl
          · rw [antisymm hab (hb a ha)]
      | false =>
        dsimp only
        rw [ih hl hnodup k]
        have hne : ∀ c, p c = true → b ≠ c := fun c hc he => by
          rw [he, hc] at hp
          exact Bool.false_ne_true hp.symm
        constructor
        · rintro ⟨hmem, hcan, hfirst, hnear⟩
          refine ⟨List.mem_cons_of_mem b hmem, hcan, fun c hc hpc => ?_, ?_⟩
          · exact hfirst c ((List.mem_cons.mp hc).resolve_left (hne c hpc).symm) hpc
          · rw [rank_cons_of_ahead (hb a hmem) (hne a hcan)]
            omega
        · rintro ⟨hmem, hcan, hfirst, hnear⟩
          have hmem' := (List.mem_cons.mp hmem).resolve_left (hne a hcan).symm
          rw [rank_cons_of_ahead (hb a hmem') (hne a hcan)] at hnear
          exact ⟨hmem', hcan, fun c hc => hfirst c (List.mem_cons_of_mem b hc), by omega⟩

/-- **The first that is served** among the first `k` of a sorted queue. -/
theorem find?_take_insertionSort [Std.Total r] [IsTrans α r] (p : α → Bool) (l : List α)
    (hnodup : l.Nodup) (k : ℕ) (a : α) :
    ((l.insertionSort r).take k).find? p = some a ↔ Served r p l k a := by
  have hperm := List.perm_insertionSort r l
  rw [find?_take_of_sorted p _ (List.pairwise_insertionSort r l) (hperm.nodup_iff.mpr hnodup)]
  constructor
  · rintro ⟨hmem, hcan, hfirst, hnear⟩
    refine ⟨hperm.mem_iff.mp hmem, hcan, fun b hb => hfirst b (hperm.mem_iff.mpr hb), ?_⟩
    rw [← rank_perm r hperm]
    exact hnear
  · rintro ⟨hmem, hcan, hfirst, hnear⟩
    refine ⟨hperm.mem_iff.mpr hmem, hcan, fun b hb => hfirst b (hperm.mem_iff.mp hb), ?_⟩
    rw [rank_perm r hperm]
    exact hnear

end Lib
