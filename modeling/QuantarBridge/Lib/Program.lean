import Mathlib.Data.List.Basic

/-!
# Programs that may stop early

A `Program` changes a state and returns a value or stops early with a reason; the state it reached
stays. `Triple P m Q S` says that from a state with `P` the program returns a value with `Q` or
stops with `S`.

* rules for `pure`, `throw`, `bind`, `get`, `modify` and conditionals;
* `ofResult`: a result as a program that leaves the state alone;
* `triple_weaken`: the rule of consequence;
* `final_of_triple`: what holds however the program ends holds in its final state.
-/

set_option autoImplicit false

namespace Lib

/-- A program over the state `σ` that may stop with a reason in `ε`. -/
abbrev Program (σ ε : Type) := ExceptT ε (StateM σ)

namespace Program

variable {σ ε α β : Type}

/-- Run a program. -/
def exec (m : Program σ ε α) (s : σ) : Except ε α × σ := ExceptT.run m s

/-- From `P` the program returns with `Q` or stops with `S`. -/
def Triple (P : σ → Prop) (m : Program σ ε α) (Q : α → σ → Prop) (S : ε → σ → Prop) : Prop :=
  ∀ s, P s → match exec m s with
    | (.ok a, s') => Q a s'
    | (.error e, s') => S e s'

variable {P : σ → Prop} {Q : α → σ → Prop} {S : ε → σ → Prop} {I : σ → Prop}

theorem exec_bind (m : Program σ ε α) (f : α → Program σ ε β) (s : σ) :
    exec (m >>= f) s = match exec m s with
      | (.ok a, s') => exec (f a) s'
      | (.error e, s') => (.error e, s') := by
  change (ExceptT.bindCont f (exec m s).1) (exec m s).2 = _
  rcases exec m s with ⟨e | a, s'⟩ <;> rfl

/-- A program that leaves the state alone. -/
def ofResult (r : Except ε α) : Program σ ε α :=
  match r with
  | .ok a => pure a
  | .error e => throw e

@[simp] theorem exec_pure (a : α) (s : σ) : exec (pure a : Program σ ε α) s = (.ok a, s) := rfl

@[simp] theorem exec_throw (e : ε) (s : σ) :
    exec (throw e : Program σ ε α) s = (.error e, s) := rfl

@[simp] theorem exec_ofResult (r : Except ε α) (s : σ) : exec (ofResult r) s = (r, s) := by
  cases r <;> rfl

theorem ofResult_bind (r : Except ε α) (f : α → Except ε β) :
    (ofResult (r >>= f) : Program σ ε β) = ofResult r >>= fun a => ofResult (f a) := by
  cases r <;> rfl

theorem exec_ofResult_bind (r : Except ε α) (f : α → Program σ ε β) (s : σ) :
    exec (ofResult r >>= f) s = match r with
      | .ok a => exec (f a) s
      | .error e => (.error e, s) := by
  cases r <;> rfl

theorem exec_get_bind (f : σ → Program σ ε α) (s : σ) : exec (get >>= f) s = exec (f s) s := rfl

theorem exec_tryCatch (m : Program σ ε α) (handler : ε → Program σ ε α) (s : σ) :
    exec (tryCatch m handler) s = match exec m s with
      | (.ok a, s') => (.ok a, s')
      | (.error e, s') => exec (handler e) s' := by
  have h : exec (tryCatch m handler) s = (match (exec m s).1 with
      | .ok a => pure (Except.ok a)
      | .error e => ExceptT.run (handler e) : StateM σ (Except ε α)) (exec m s).2 := rfl
  rw [h]
  rcases exec m s with ⟨e | a, s'⟩ <;> rfl

theorem triple_pure (a : α) (h : ∀ s, P s → Q a s) : Triple P (pure a) Q S := h

theorem triple_throw (e : ε) (h : ∀ s, P s → S e s) :
    Triple P (throw e : Program σ ε α) Q S := h

/-- **Sequence.** -/
theorem triple_bind {m : Program σ ε α} {f : α → Program σ ε β} {R : β → σ → Prop}
    (hm : Triple P m Q S) (hf : ∀ a, Triple (Q a) (f a) R S) : Triple P (m >>= f) R S := by
  intro s hs
  have h := hm s hs
  rw [exec_bind]
  generalize exec m s = r at h ⊢
  rcases r with ⟨e | a, s'⟩
  · exact h
  · exact hf a s' h

/-- **Consequence.** -/
theorem triple_weaken {P' : σ → Prop} {Q' : α → σ → Prop} {S' : ε → σ → Prop} {m : Program σ ε α}
    (h : Triple P m Q S) (hP : ∀ s, P' s → P s) (hQ : ∀ a s, Q a s → Q' a s)
    (hS : ∀ e s, S e s → S' e s) : Triple P' m Q' S' := by
  intro s hs
  have hm := h s (hP s hs)
  generalize exec m s = r at hm ⊢
  rcases r with ⟨e | a, s'⟩
  · exact hS e s' hm
  · exact hQ a s' hm

theorem triple_ite {c : Prop} [Decidable c] {m n : Program σ ε α} (hm : c → Triple P m Q S)
    (hn : ¬ c → Triple P n Q S) : Triple P (if c then m else n) Q S := by
  split_ifs with hc
  · exact hm hc
  · exact hn hc

/-- **Reading the state.** The rest of the program starts in the state that was read. -/
theorem triple_get {f : σ → Program σ ε α} (h : ∀ s, P s → Triple (· = s) (f s) Q S) :
    Triple P (get >>= f) Q S := fun s hs => h s hs s rfl

theorem triple_set {Q : PUnit → σ → Prop} (s' : σ) (h : ∀ s, P s → Q ⟨⟩ s') :
    Triple P (set s' : Program σ ε PUnit) Q S := h

theorem triple_modify {Q : PUnit → σ → Prop} (f : σ → σ) (h : ∀ s, P s → Q ⟨⟩ (f s)) :
    Triple P (modify f : Program σ ε PUnit) Q S := h

/-- **The final state.** -/
theorem final_of_triple {m : Program σ ε α} (h : Triple P m (fun _ => I) (fun _ => I)) {s : σ}
    (hs : P s) : I (exec m s).2 := by
  have hm := h s hs
  generalize exec m s = r at hm ⊢
  rcases r with ⟨e | a, s'⟩ <;> exact hm

end Program

end Lib
