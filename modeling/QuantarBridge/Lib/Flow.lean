import Mathlib.Data.List.DropRight
import QuantarBridge.Lib.Run

/-!
# Flow through a queue

A machine has a queue. Each output of a step says which elements it put into the queue and which it
took out of it and delivered. The queue `Carries` when nothing is lost or reordered: what was in it
and what was put into it is what was taken out, followed by what is in it now.

* `carries_refl`, `carries_append`, `carries_push`, `carries_pop`: flows compose;
* `mem_of_carries`: an element of the queue is delivered or still waits;
* `carries_run`: **the run rule**;
* `Balanced`: the exact account of a queue since it was last cleared, with a rule for each thing
  that can happen to the queue.
-/

set_option autoImplicit false

namespace Lib

section Flow

variable {α ο : Type} (ins outs : ο → List α)

/-- Nothing of the queue is lost or reordered. -/
def Carries (q : List α) (os : List ο) (q' : List α) : Prop :=
  ∃ taken, q ++ os.flatMap ins = taken ++ q' ∧ taken.Sublist (os.flatMap outs)

variable {ins outs} {q q' q'' : List α} {os os' : List ο}

theorem carries_idle (hi : os.flatMap ins = []) : Carries ins outs q os q :=
  ⟨[], by rw [hi, List.append_nil, List.nil_append], List.nil_sublist _⟩

theorem carries_refl : Carries ins outs q [] q := carries_idle rfl

theorem carries_append (h : Carries ins outs q os q') (h' : Carries ins outs q' os' q'') :
    Carries ins outs q (os ++ os') q'' := by
  obtain ⟨taken, ht, hs⟩ := h
  obtain ⟨taken', ht', hs'⟩ := h'
  refine ⟨taken ++ taken', ?_, ?_⟩
  · rw [List.flatMap_append, ← List.append_assoc, ht, List.append_assoc, ht', List.append_assoc]
  · rw [List.flatMap_append]
    exact hs.append hs'

theorem carries_push (xs : List α) (hi : os.flatMap ins = xs) :
    Carries ins outs q os (q ++ xs) :=
  ⟨[], by rw [hi, List.nil_append], List.nil_sublist _⟩

theorem carries_pop {x : α} (hi : os.flatMap ins = []) (ho : x ∈ os.flatMap outs) :
    Carries ins outs (x :: q) os q :=
  ⟨[x], by rw [hi, List.append_nil, List.singleton_append], List.singleton_sublist.mpr ho⟩

/-- **An element of the queue** is delivered or still waits. -/
theorem mem_of_carries (h : Carries ins outs q os q') {x : α} (hx : x ∈ q) :
    x ∈ os.flatMap outs ∨ x ∈ q' := by
  obtain ⟨taken, ht, hs⟩ := h
  have hmem : x ∈ taken ++ q' := ht ▸ List.mem_append_left _ hx
  exact (List.mem_append.mp hmem).imp_left fun h => hs.subset h

/-- **The run rule.** Steps that carry the queue unless they clear it make runs that carry it unless
they clear it. -/
theorem carries_run {σ ε : Type} {step : σ → ε → σ × List ο} {queue : σ → List α}
    {Clears : ο → Prop}
    (hstep : ∀ s e, (∀ o ∈ (step s e).2, ¬ Clears o) →
      Carries ins outs (queue s) (step s e).2 (queue (step s e).1))
    (es : List ε) : ∀ s, (∀ o ∈ Run.outputs step s es, ¬ Clears o) →
      Carries ins outs (queue s) (Run.outputs step s es) (queue (Run.final step s es)) := by
  induction es with
  | nil => exact fun s _ => carries_refl
  | cons e es ih =>
    intro s h
    rw [Run.outputs_cons] at h ⊢
    exact carries_append (hstep s e fun o ho => h o (List.mem_append_left _ ho))
      (ih _ fun o ho => h o (List.mem_append_right _ ho))

end Flow

/-! ## The exact account -/

section Balanced

variable {α ο : Type} (ins outs : ο → List α) (clears : ο → Bool)

/-- The outputs since the queue was last cleared. -/
def sinceCleared (os : List ο) : List ο := os.rtakeWhile fun o => !clears o

/-- Since the queue was last cleared, what left it followed by what is in it is what joined it. -/
def Balanced (os : List ο) (q : List α) : Prop :=
  (sinceCleared clears os).flatMap outs ++ q = (sinceCleared clears os).flatMap ins

variable {ins outs clears} {os : List ο} {o : ο} {q : List α}

theorem sinceCleared_concat (hc : clears o = false) :
    sinceCleared clears (os ++ [o]) = sinceCleared clears os ++ [o] :=
  List.rtakeWhile_concat_pos _ _ _ (by rw [hc]; rfl)

theorem sinceCleared_clear (hc : clears o = true) : sinceCleared clears (os ++ [o]) = [] :=
  List.rtakeWhile_concat_neg _ _ _ (by rw [hc]; exact Bool.false_ne_true)

theorem balanced_nil : Balanced ins outs clears [] [] := rfl

theorem balanced_clear (hc : clears o = true) : Balanced ins outs clears (os ++ [o]) [] := by
  unfold Balanced
  rw [sinceCleared_clear hc]
  rfl

theorem balanced_join (h : Balanced ins outs clears os q) (hc : clears o = false)
    (ho : outs o = []) : Balanced ins outs clears (os ++ [o]) (q ++ ins o) := by
  unfold Balanced at h ⊢
  rw [sinceCleared_concat hc, List.flatMap_append, List.flatMap_append, List.flatMap_singleton,
    List.flatMap_singleton, ho, List.append_nil, ← List.append_assoc, h]

theorem balanced_leave (h : Balanced ins outs clears os (outs o ++ q)) (hc : clears o = false)
    (hi : ins o = []) : Balanced ins outs clears (os ++ [o]) q := by
  unfold Balanced at h ⊢
  rw [sinceCleared_concat hc, List.flatMap_append, List.flatMap_append, List.flatMap_singleton,
    List.flatMap_singleton, hi, List.append_nil, List.append_assoc, h]

end Balanced

end Lib
