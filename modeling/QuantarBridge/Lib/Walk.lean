import Mathlib.Data.List.Basic

/-!
# Token walkers

A walker goes through an input token by token until it reaches a goal. Several walkers of one format
know different tokens. `tokens` reads the tokens in front of the goal with all of them known, and a
walker reaches the goal exactly when it accepts each of them.

* `tokens`: the format;
* `Walker`: what one turn of a walker does;
* `Walker.eq_any`: **the rule of walkers**.
-/

set_option autoImplicit false

namespace Lib

variable {α τ : Type}

/-- The tokens in front of the goal, within a number of turns. -/
def tokens (goal : α → Bool) (next : α → Option (τ × α)) : ℕ → α → Option (List τ)
  | 0, _ => none
  | n + 1, a =>
    if goal a then some []
    else (next a).bind fun t => (tokens goal next n t.2).map (t.1 :: ·)

/-- A walker that goes on behind the tokens that it accepts. -/
structure Walker (goal : α → Bool) (next : α → Option (τ × α)) (accepts : τ → Bool)
    (reaches : ℕ → α → Bool) : Prop where
  atZero : ∀ a, reaches 0 a = false
  atGoal : ∀ n a, goal a = true → reaches (n + 1) a = true
  atStuck : ∀ n a, goal a = false → next a = none → reaches (n + 1) a = false
  atToken : ∀ n a token rest, goal a = false → next a = some (token, rest) →
    reaches (n + 1) a = (accepts token && reaches n rest)

namespace Walker

variable {goal : α → Bool} {next : α → Option (τ × α)} {accepts accepts' : τ → Bool}
  {reaches reaches' : ℕ → α → Bool}

/-- **A walker reaches the goal** when it accepts every token in front of it. -/
theorem eq_any (h : Walker goal next accepts reaches) (n : ℕ) (a : α) :
    reaches n a = (tokens goal next n a).any fun ts => ts.all accepts := by
  induction n generalizing a with
  | zero => exact h.atZero a
  | succ n ih =>
    rw [tokens]
    cases hg : goal a with
    | true => exact h.atGoal n a hg
    | false =>
      cases hn : next a with
      | none => exact h.atStuck n a hg hn
      | some t =>
        rw [h.atToken n a t.1 t.2 hg hn, ih]
        simp only [Bool.false_eq_true, if_false, Option.bind_some]
        cases tokens goal next n t.2 with
        | none => simp
        | some ts => simp

end Walker

end Lib
