import Mathlib.Data.List.Basic

/-!
# Runs of a machine

A machine is a step function: from a state and an event it computes the next state and the
outputs of the step. A run feeds it a list of events.

* `final`, `outputs`: the state after a run and everything it emitted;
* `final_append`, `outputs_append`, `exists_step_of_outputs_eq`: runs compose and come apart;
* `Along C s es`: every step of the run satisfies the condition `C`, which may look at the state
  before the step and at the event;
* `final_of_along`: **the run rule**. What every step satisfying `C` preserves holds after
  every run along which `C` holds; `invariant_at` is the same before each step of the run;
* `outputs_of_step`, `forall_outputs_of_along`: the run rules for the outputs;
* `outputs_eq_of_related`: the rule for two runs from related states;
* `forall_final_iff_along`: when a condition on the steps is exactly what a property needs;
* `along_filterMap_iff`: **simulation**. A condition holds along a run exactly when its counterpart
  holds along the run of a machine that sees only some of the events;
* `filter_outputs_of_unwinding`: **unwinding**. Some of the events are those of one party, and some
  outputs are visible to it. The party does not notice the other events when it sees the same
  outputs in a run without them.
-/

set_option autoImplicit false

namespace Lib.Run

variable {σ ε ο : Type} (step : σ → ε → σ × List ο)

/-- The state after a run. -/
def final (s : σ) (es : List ε) : σ := es.foldl (fun s e => (step s e).1) s

/-- The outputs of a run, in order. -/
def outputs (s : σ) : List ε → List ο
  | [] => []
  | e :: es => (step s e).2 ++ outputs (step s e).1 es

@[simp] theorem final_nil (s : σ) : final step s [] = s := rfl

@[simp] theorem final_cons (s : σ) (e : ε) (es : List ε) :
    final step s (e :: es) = final step (step s e).1 es := rfl

theorem final_append (s : σ) (es fs : List ε) :
    final step s (es ++ fs) = final step (final step s es) fs := List.foldl_append

theorem final_concat (s : σ) (es : List ε) (e : ε) :
    final step s (es ++ [e]) = (step (final step s es) e).1 := by
  rw [final_append, final_cons, final_nil]

@[simp] theorem outputs_nil (s : σ) : outputs step s [] = [] := rfl

@[simp] theorem outputs_cons (s : σ) (e : ε) (es : List ε) :
    outputs step s (e :: es) = (step s e).2 ++ outputs step (step s e).1 es := rfl

theorem outputs_append (s : σ) (es fs : List ε) :
    outputs step s (es ++ fs) = outputs step s es ++ outputs step (final step s es) fs := by
  induction es generalizing s with
  | nil => rfl
  | cons e es ih => rw [List.cons_append, outputs_cons, outputs_cons, ih, List.append_assoc,
      final_cons]

theorem outputs_append_cons (s : σ) (es : List ε) (e : ε) (fs : List ε) :
    outputs step s (es ++ e :: fs) = outputs step s es ++ ((step (final step s es) e).2 ++
      outputs step (step (final step s es) e).1 fs) := by
  rw [outputs_append, outputs_cons]

theorem exists_step_of_outputs_eq {s : σ} {es : List ε} {before : List ο} {o : ο} {after : List ο}
    (h : outputs step s es = before ++ o :: after) :
    ∃ pre e post before' after', es = pre ++ e :: post ∧
      (step (final step s pre) e).2 = before' ++ o :: after' ∧
      before = outputs step s pre ++ before' ∧
      after = after' ++ outputs step (step (final step s pre) e).1 post := by
  induction es generalizing s before with
  | nil => exact absurd h.symm (List.append_ne_nil_of_right_ne_nil _ (List.cons_ne_nil _ _))
  | cons e es ih =>
    rw [outputs_cons, List.append_eq_append_iff] at h
    have later : ∀ rest, outputs step (step s e).1 es = rest ++ o :: after →
        before = (step s e).2 ++ rest → ∃ pre e' post before' after', e :: es = pre ++ e' :: post ∧
          (step (final step s pre) e').2 = before' ++ o :: after' ∧
          before = outputs step s pre ++ before' ∧
          after = after' ++ outputs step (step (final step s pre) e').1 post := by
      intro rest h₁ h₂
      obtain ⟨pre, e', post, before', after', rfl, hs, rfl, ha⟩ := ih h₁
      exact ⟨e :: pre, e', post, before', after', rfl, hs,
        by rw [h₂, outputs_cons, List.append_assoc], ha⟩
    rcases h with ⟨rest, h₁, h₂⟩ | ⟨rest, h₁, h₂⟩
    · exact later rest h₂ h₁
    · cases rest with
      | nil => exact later [] h₂.symm (by rw [List.append_nil, h₁, List.append_nil])
      | cons o' rest =>
        rw [List.cons_append, List.cons.injEq] at h₂
        obtain ⟨rfl, h₂⟩ := h₂
        exact ⟨[], e, es, before, rest, rfl, h₁, rfl, h₂⟩

theorem exists_step_concat_iff {P : List ε → ε → Prop} (es : List ε) (e : ε) :
    (∃ pre e' post, es ++ [e] = pre ++ e' :: post ∧ P pre e') ↔
      (∃ pre e' post, es = pre ++ e' :: post ∧ P pre e') ∨ P es e := by
  constructor
  · rintro ⟨pre, e', post, hes, hp⟩
    rcases List.eq_nil_or_concat post with rfl | ⟨post, e'', rfl⟩
    · obtain ⟨rfl, he⟩ := List.append_inj' hes rfl
      cases he
      exact Or.inr hp
    · rw [List.concat_eq_append, ← List.cons_append, ← List.append_assoc] at hes
      obtain ⟨rfl, -⟩ := List.append_inj' hes rfl
      exact Or.inl ⟨pre, e', post, rfl, hp⟩
  · rintro (⟨pre, e', post, rfl, hp⟩ | hp)
    · exact ⟨pre, e', post ++ [e], by rw [List.append_assoc, List.cons_append], hp⟩
    · exact ⟨es, e, [], rfl, hp⟩

/-- Of two steps of a run one comes first, or they are the same. -/
theorem split_cases {pre pre' post post' : List ε} {e e' : ε}
    (h : pre ++ e :: post = pre' ++ e' :: post') :
    (∃ mid, pre = pre' ++ e' :: mid) ∨ (pre = pre' ∧ e = e') ∨ ∃ mid, pre' = pre ++ e :: mid := by
  rcases List.append_eq_append_iff.mp h with ⟨mid, rfl, hm⟩ | ⟨mid, rfl, hm⟩
  · cases mid with
    | nil => exact Or.inr (Or.inl ⟨(List.append_nil _).symm, (List.cons.inj hm).1⟩)
    | cons a mid =>
      obtain ⟨rfl, -⟩ := List.cons.inj hm
      exact Or.inr (Or.inr ⟨mid, rfl⟩)
  · cases mid with
    | nil => exact Or.inr (Or.inl ⟨List.append_nil _, (List.cons.inj hm).1.symm⟩)
    | cons a mid =>
      obtain ⟨rfl, -⟩ := List.cons.inj hm
      exact Or.inl ⟨mid, rfl⟩

/-- Every step of the run satisfies `C`. -/
def Along (C : σ → ε → Prop) (s : σ) (es : List ε) : Prop :=
  ∀ pre e post, es = pre ++ e :: post → C (final step s pre) e

variable {step} {C : σ → ε → Prop} {s : σ}

theorem along_nil : Along step C s [] := fun _ _ _ h => by simp at h

theorem along_cons_iff (e : ε) (es : List ε) :
    Along step C s (e :: es) ↔ C s e ∧ Along step C (step s e).1 es := by
  constructor
  · intro h
    refine ⟨h [] e es rfl, fun pre e' post he => ?_⟩
    have := h (e :: pre) e' post (by rw [he, List.cons_append])
    rwa [final_cons] at this
  · rintro ⟨h₀, h⟩ pre e' post he
    cases pre with
    | nil =>
      rw [List.nil_append, List.cons.injEq] at he
      obtain ⟨rfl, -⟩ := he
      exact h₀
    | cons a pre =>
      rw [List.cons_append, List.cons.injEq] at he
      obtain ⟨rfl, he⟩ := he
      rw [final_cons]
      exact h pre e' post he

theorem along_append_iff (es fs : List ε) :
    Along step C s (es ++ fs) ↔ Along step C s es ∧ Along step C (final step s es) fs := by
  induction es generalizing s with
  | nil => simp [along_nil]
  | cons e es ih => rw [List.cons_append, along_cons_iff, along_cons_iff, ih, final_cons, and_assoc]

instance decidableAlong [∀ s e, Decidable (C s e)] : ∀ (s : σ) (es : List ε),
    Decidable (Along step C s es)
  | _, [] => isTrue along_nil
  | s, e :: es =>
    have := decidableAlong (step s e).1 es
    decidable_of_iff _ (along_cons_iff e es).symm

/-- **The run rule.** -/
theorem final_of_along (P : σ → Prop) (hstep : ∀ s e, C s e → P s → P (step s e).1) :
    ∀ (es : List ε) (s : σ), Along step C s es → P s → P (final step s es)
  | [], _, _, hs => hs
  | e :: es, s, h, hs =>
    final_of_along P hstep es _ ((along_cons_iff e es).mp h).2
      (hstep s e ((along_cons_iff e es).mp h).1 hs)

/-- What every step preserves of the outputs so far and the state holds after every run. -/
theorem outputs_of_step (P : List ο → σ → Prop)
    (hstep : ∀ os s e, P os s → P (os ++ (step s e).2) (step s e).1) (es : List ε) :
    ∀ (os : List ο) (s : σ), P os s → P (os ++ outputs step s es) (final step s es) := by
  induction es with
  | nil =>
    intro os s h
    rw [outputs_nil, List.append_nil]
    exact h
  | cons e es ih =>
    intro os s h
    rw [outputs_cons, ← List.append_assoc]
    exact ih _ _ (hstep os s e h)

/-- What every step satisfying `C` preserves holds before each step of such a run. -/
theorem invariant_at (P : σ → Prop) (hstep : ∀ s e, C s e → P s → P (step s e).1) {es : List ε}
    (h : Along step C s es) (hs : P s) (pre : List ε) (e : ε) (post : List ε)
    (he : es = pre ++ e :: post) : P (final step s pre) := by
  subst he
  exact final_of_along P hstep pre s ((along_append_iff pre _).mp h).1 hs

/-- What holds of the outputs of a step from a good state holds of every output of such a run. -/
theorem forall_outputs_of_along (P : σ → Prop) (Q : ο → Prop)
    (hstep : ∀ s e, C s e → P s → P (step s e).1) (hout : ∀ s e, C s e → P s → ∀ o ∈ (step s e).2, Q o)
    (es : List ε) : ∀ s, Along step C s es → P s → ∀ o ∈ outputs step s es, Q o := by
  induction es with
  | nil => exact fun _ _ _ o ho => absurd ho List.not_mem_nil
  | cons e es ih =>
    intro s h hs o ho
    obtain ⟨hc, h⟩ := (along_cons_iff e es).mp h
    rcases List.mem_append.mp ho with ho | ho
    · exact hout s e hc hs o ho
    · exact ih _ h (hstep s e hc hs) o ho

/-- **The rule for two runs.** Events that keep a relation between two states and give the same outputs
from related states do so all along two runs. -/
theorem outputs_eq_of_related {R : σ → σ → Prop} {D : ε → Prop}
    (hstep : ∀ e s s', D e → R s s' →
      (step s e).2 = (step s' e).2 ∧ R (step s e).1 (step s' e).1) (es : List ε) :
    ∀ s s', (∀ e ∈ es, D e) → R s s' →
      outputs step s es = outputs step s' es ∧ R (final step s es) (final step s' es) := by
  induction es with
  | nil => exact fun s s' _ hR => ⟨rfl, hR⟩
  | cons e es ih =>
    intro s s' hD hR
    obtain ⟨hD, hDs⟩ := List.forall_mem_cons.mp hD
    obtain ⟨hout, hR⟩ := hstep e s s' hD hR
    obtain ⟨houts, hR⟩ := ih _ _ hDs hR
    exact ⟨by rw [outputs_cons, outputs_cons, hout, houts], hR⟩

/-- A property that a step keeps exactly under a condition holds all along a run exactly when the
condition does. -/
theorem forall_final_iff_along (P : σ → Prop) (hstep : ∀ s e, P s → (P (step s e).1 ↔ C s e))
    (es : List ε) : ∀ s, P s →
      ((∀ pre post, es = pre ++ post → P (final step s pre)) ↔ Along step C s es) := by
  induction es with
  | nil =>
    intro s hs
    refine ⟨fun _ => along_nil, fun _ pre post h => ?_⟩
    obtain ⟨rfl, -⟩ := List.nil_eq_append_iff.mp h
    exact hs
  | cons e es ih =>
    intro s hs
    rw [along_cons_iff]
    constructor
    · intro h
      have hP : P (step s e).1 := h [e] es rfl
      refine ⟨(hstep s e hs).mp hP, (ih _ hP).mp fun pre post he => ?_⟩
      exact h (e :: pre) post (by rw [he, List.cons_append])
    · rintro ⟨hc, h⟩ pre post he
      have hP : P (step s e).1 := (hstep s e hs).mpr hc
      cases pre with
      | nil => exact hs
      | cons e' pre =>
        rw [List.cons_append, List.cons.injEq] at he
        obtain ⟨rfl, he⟩ := he
        exact (ih _ hP).mpr h pre post he

/-- A list that grows by the outputs of every step has grown by the outputs of the run, at every point of
the run, exactly when it does so at every step. -/
theorem grows_iff_along {α : Type} (f : σ → List α) (g : List ο → List α)
    (hg : ∀ os os', g (os ++ os') = g os ++ g os') (es : List ε) : ∀ s,
      (∀ pre post, es = pre ++ post → f (final step s pre) = f s ++ g (outputs step s pre)) ↔
        Along step (fun s e => f (step s e).1 = f s ++ g (step s e).2) s es := by
  have hnil : g [] = [] := List.append_right_eq_self.mp (hg [] []).symm
  induction es with
  | nil =>
    intro s
    refine iff_of_true (fun pre post h => ?_) along_nil
    obtain ⟨rfl, -⟩ := List.nil_eq_append_iff.mp h
    rw [final_nil, outputs_nil, hnil, List.append_nil]
  | cons e es ih =>
    intro s
    rw [along_cons_iff, ← ih]
    constructor
    · intro h
      have hfirst : f (step s e).1 = f s ++ g (step s e).2 := by
        have := h [e] es rfl
        rwa [final_cons, final_nil, outputs_cons, outputs_nil, List.append_nil] at this
      refine ⟨hfirst, fun pre post he => ?_⟩
      have := h (e :: pre) post (by rw [he, List.cons_append])
      rwa [final_cons, outputs_cons, hg, ← List.append_assoc, ← hfirst] at this
    · rintro ⟨hfirst, h⟩ pre post he
      cases pre with
      | nil => rw [final_nil, outputs_nil, hnil, List.append_nil]
      | cons e' pre =>
        rw [List.cons_append, List.cons.injEq] at he
        obtain ⟨rfl, he⟩ := he
        rw [final_cons, outputs_cons, hg, h pre post he, hfirst, List.append_assoc]

/-- **Simulation.** A second machine sees some of the events, and a part of the state is its state. -/
theorem along_filterMap_iff {σ' ε' ο' : Type} {step' : σ' → ε' → σ' × List ο'} {C' : σ' → ε' → Prop}
    (part : σ → σ') (see : ε → Option ε')
    (hskip : ∀ s e, see e = none → part (step s e).1 = part s ∧ C s e)
    (hseen : ∀ s e e', see e = some e' →
      part (step s e).1 = (step' (part s) e').1 ∧ (C s e ↔ C' (part s) e')) (es : List ε) :
    ∀ s, Along step C s es ↔ Along step' C' (part s) (es.filterMap see) := by
  induction es with
  | nil => exact fun s => iff_of_true along_nil along_nil
  | cons e es ih =>
    intro s
    rw [along_cons_iff, ih]
    cases he : see e with
    | none =>
      obtain ⟨hp, hc⟩ := hskip s e he
      rw [List.filterMap_cons_none he, hp]
      exact and_iff_right hc
    | some e' =>
      obtain ⟨hp, hc⟩ := hseen s e e' he
      rw [List.filterMap_cons_some he, along_cons_iff, hp, hc]

/-! ## Runs that do not interfere -/

section Unwinding

variable {mine : ε → Bool} {visible : ο → Bool} {R : List ε → σ → σ → Prop}

/-- **Unwinding.** A relation between the states of both runs, which may look at the events to come,
is kept: the events of the party give the same visible outputs from related states, and the other
events give none and go unnoticed. -/
theorem filter_outputs_of_unwinding
    (hmine : ∀ e es s s', R (e :: es) s s' → mine e = true → (step s e).2 = (step s' e).2 ∧
      (∀ o ∈ (step s e).2, visible o = true) ∧ R es (step s e).1 (step s' e).1)
    (hother : ∀ e es s s', R (e :: es) s s' → mine e = false →
      (∀ o ∈ (step s e).2, visible o = false) ∧ R es (step s e).1 s') (es : List ε) :
    ∀ s s', R es s s' →
      (outputs step s es).filter visible = outputs step s' (es.filter mine) := by
  induction es with
  | nil => exact fun _ _ _ => rfl
  | cons e es ih =>
    intro s s' hR
    rw [outputs_cons, List.filter_append]
    cases he : mine e with
    | true =>
      obtain ⟨heq, hvisible, hR'⟩ := hmine e es s s' hR he
      rw [List.filter_cons_of_pos he, outputs_cons, ih _ _ hR', List.filter_eq_self.mpr hvisible, heq]
    | false =>
      obtain ⟨hsilent, hR'⟩ := hother e es s s' hR he
      have hnil : (step s e).2.filter visible = [] :=
        List.filter_eq_nil_iff.mpr fun o ho => by rw [hsilent o ho]; exact Bool.false_ne_true
      rw [List.filter_cons_of_neg (by simp [he]), ih _ _ hR', hnil, List.nil_append]

end Unwinding

end Lib.Run
