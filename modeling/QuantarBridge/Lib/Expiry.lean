import Mathlib.Data.List.Induction
import QuantarBridge.Lib.Dict
import QuantarBridge.Lib.Run

/-!
# Clocks and expiring keys

A point in time and a duration are natural numbers of nanoseconds. An `ExpiryMap` gives each
remembered key the time at which it is forgotten. It is purged from time to time, and a key is
*live* as long as its time has not come, whether or not the map was purged in between.

When each step of a machine leaves live what was live and marks some keys until a time of its own, a
key is live after a run exactly when it was live before or a step marked it until later.

* `Live`, `purge`, `mark`;
* `live_purge_iff`: purging never changes what is live at that time or later;
* `live_mark_iff`: marking a key makes it live until the given time and touches no other key;
* `Marked`, `live_run_iff`: **the run rule**.
-/

set_option autoImplicit false

namespace Lib

/-- A point in time or a duration, in nanoseconds. -/
abbrev Time := ℕ

/-- `n` milliseconds. -/
def milliseconds (n : ℕ) : Time := n * 1000000

/-- `n` seconds. -/
def seconds (n : ℕ) : Time := n * 1000000000

/-- The expiry time of every remembered key. -/
abbrev ExpiryMap (κ : Type) := Dict κ Time

namespace ExpiryMap

variable {κ : Type} [DecidableEq κ]

/-- No key is remembered. -/
def empty : ExpiryMap κ := Dict.empty

/-- The key is remembered and its time has not come. -/
def Live (m : ExpiryMap κ) (now : Time) (k : κ) : Prop :=
  (m.get? k).any (fun e => now < e) = true

instance (m : ExpiryMap κ) (now : Time) : DecidablePred (m.Live now) :=
  fun _ => inferInstanceAs (Decidable (_ = true))

/-- Forget the keys whose time has come. -/
def purge (m : ExpiryMap κ) (now : Time) : ExpiryMap κ := m.filter fun _ e => now < e

/-- Remember `k` until `e`. -/
def mark (m : ExpiryMap κ) (k : κ) (e : Time) : ExpiryMap κ := m.set k e

theorem live_iff (m : ExpiryMap κ) (now : Time) (k : κ) :
    m.Live now k ↔ ∃ e, m.get? k = some e ∧ now < e := by
  simp [Live, Option.any_eq_true]

@[simp] theorem not_live_empty (now : Time) (k : κ) : ¬ (empty : ExpiryMap κ).Live now k := by
  simp [Live, empty]

/-- **Purging keeps what is live.** -/
theorem live_purge_iff (m : ExpiryMap κ) {now t : Time} (h : now ≤ t) (k : κ) :
    (m.purge now).Live t k ↔ m.Live t k := by
  rw [live_iff, live_iff, purge]
  constructor
  · rintro ⟨e, he, ht⟩
    rw [Dict.get?_filter, Option.filter_eq_some_iff] at he
    exact ⟨e, he.1, ht⟩
  · rintro ⟨e, he, ht⟩
    refine ⟨e, ?_, ht⟩
    rw [Dict.get?_filter, Option.filter_eq_some_iff]
    exact ⟨he, by simpa using Nat.lt_of_le_of_lt h ht⟩

/-- **Marking a key.** -/
theorem live_mark_iff (m : ExpiryMap κ) (k k' : κ) (e t : Time) :
    (m.mark k e).Live t k' ↔ if k' = k then t < e else m.Live t k' := by
  rw [live_iff, mark]
  split_ifs with h
  · simp [h]
  · simp [h, live_iff]

theorem live_of_le {m : ExpiryMap κ} {t t' : Time} {k : κ} (h : t ≤ t') (hl : m.Live t' k) :
    m.Live t k := by
  rw [live_iff] at hl ⊢
  obtain ⟨e, he, hlt⟩ := hl
  exact ⟨e, he, Nat.lt_of_le_of_lt h hlt⟩

/-! ## Runs -/

section Runs

variable {σ ε ο : Type} (step : σ → ε → σ × List ο) (Marks : σ → ε → κ → Prop)
  (expiry : ε → Time)

/-- A step of the run marked the key until after `t`. -/
def Marked (s : σ) (es : List ε) (t : Time) (k : κ) : Prop :=
  ∃ pre e post, es = pre ++ e :: post ∧ Marks (Run.final step s pre) e k ∧ t < expiry e

variable {step Marks expiry} {s : σ} {es : List ε} {e : ε} {t : Time} {k : κ}

omit [DecidableEq κ] in
theorem marked_concat_iff : Marked step Marks expiry s (es ++ [e]) t k ↔
    Marked step Marks expiry s es t k ∨ (Marks (Run.final step s es) e k ∧ t < expiry e) :=
  Run.exists_step_concat_iff es e

/-- **The run rule.** -/
theorem live_run_iff {window : σ → ExpiryMap κ} {time : ε → Time}
    (hstep : ∀ s e, time e ≤ t → ((window (step s e).1).Live t k ↔
      (window s).Live t k ∨ (Marks s e k ∧ t < expiry e)))
    (hes : ∀ e ∈ es, time e ≤ t) :
    (window (Run.final step s es)).Live t k ↔
      (window s).Live t k ∨ Marked step Marks expiry s es t k := by
  induction es using List.reverseRecOn with
  | nil =>
    refine ⟨Or.inl, fun h => h.resolve_right ?_⟩
    rintro ⟨pre, e, post, h, -⟩
    exact List.append_ne_nil_of_right_ne_nil _ (List.cons_ne_nil _ _) h.symm
  | append_singleton es e ih =>
    have hlast : time e ≤ t := hes e (List.mem_append_right es (List.mem_singleton.mpr rfl))
    rw [Run.final_concat, hstep _ e hlast,
      ih fun e' he' => hes e' (List.mem_append_left _ he'), marked_concat_iff, or_assoc]

end Runs

end ExpiryMap

end Lib
