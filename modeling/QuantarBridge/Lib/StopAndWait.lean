import Mathlib.Data.List.Enum
import Mathlib.Data.List.Basic

/-!
# Stop and wait

A sender has at most one job, which is a list of items. It sends an item under a number, waits for
the acknowledgement of this number, and only then comes to the next item. It may begin the job again
at any time.

* `Job`, `Action`: the job and what may happen to it;
* `Performs`, `Trace`: an action, and several of them;
* `sinceStart`, `exchanges`: the log since the job began, or began again;
* `logged_of_trace`: **the items are sent in order**, each after the acknowledgement of the one
  before;
* `start_mem_of_trace`: a job keeps its key and its items.
-/

set_option autoImplicit false

namespace Lib

variable {κ α ν : Type}

/-- A job with its items, how many of them are acknowledged, and the number under which the next one
was sent. -/
structure Job (κ α ν : Type) where
  key : κ
  items : List α
  index : ℕ
  waiting : Option ν
  deriving DecidableEq

namespace Job

/-- The next item is sent. -/
def await (j : Job κ α ν) (n : ν) : Job κ α ν := { j with waiting := some n }

/-- The item is acknowledged. -/
def advance (j : Job κ α ν) : Job κ α ν := { j with index := j.index + 1, waiting := none }

/-- The job begins again. -/
def again (j : Job κ α ν) : Job κ α ν := { j with index := 0, waiting := none }

end Job

namespace StopAndWait

/-- What may happen to a job. -/
inductive Action (κ α ν : Type)
  | start (key : κ) (items : List α)
  | transmit (index : ℕ) (n : ν)
  | acknowledge (n : ν)
  | restart
  | stop (key : κ)

/-- A job does not take the place of another one, the item that the sender has come to is sent while
nothing is waited for, and only the number that is waited for is acknowledged. -/
inductive Performs : Option (Job κ α ν) → Action κ α ν → Option (Job κ α ν) → Prop
  | start (key : κ) (items : List α) : Performs none (.start key items) (some ⟨key, items, 0, none⟩)
  | transmit (j : Job κ α ν) (n : ν) : j.waiting = none → j.index < j.items.length →
      Performs (some j) (.transmit j.index n) (some (j.await n))
  | acknowledge (j : Job κ α ν) (n : ν) : j.waiting = some n →
      Performs (some j) (.acknowledge n) (some j.advance)
  | restart (j : Job κ α ν) : Performs (some j) .restart (some j.again)
  | stop (j : Job κ α ν) : Performs (some j) (.stop j.key) none

/-- Actions after each other, each of which the job permits. -/
inductive Trace : Option (Job κ α ν) → List (Action κ α ν) → Option (Job κ α ν) → Prop
  | nil (s : Option (Job κ α ν)) : Trace s [] s
  | cons {s s' s'' : Option (Job κ α ν)} {a : Action κ α ν} {acts : List (Action κ α ν)} :
      Performs s a s' → Trace s' acts s'' → Trace s (a :: acts) s''

theorem Trace.single {s s' : Option (Job κ α ν)} {a : Action κ α ν} (h : Performs s a s') :
    Trace s [a] s' := .cons h (.nil s')

theorem Trace.append {s s' s'' : Option (Job κ α ν)} {acts acts' : List (Action κ α ν)}
    (h : Trace s acts s') (h' : Trace s' acts' s'') : Trace s (acts ++ acts') s'' := by
  induction h with
  | nil s => exact h'
  | cons hp _ ih => exact .cons hp (ih h')

/-! ## The log -/

/-- Sending and acknowledging belong to the log of the job, and anything else empties it. -/
def record (log : List (Action κ α ν)) : Action κ α ν → List (Action κ α ν)
  | .transmit index n => log ++ [.transmit index n]
  | .acknowledge n => log ++ [.acknowledge n]
  | .start _ _ | .restart | .stop _ => []

/-- The log since the job began, or began again. -/
def sinceStart (acts : List (Action κ α ν)) : List (Action κ α ν) := acts.foldl record []

/-- The first items are sent under these numbers, each of which is acknowledged before the next. -/
def exchanges (ns : List ν) : List (Action κ α ν) :=
  ns.zipIdx.flatMap fun n => [.transmit n.2 n.1, .acknowledge n.1]

theorem exchanges_concat (ns : List ν) (n : ν) :
    (exchanges (ns ++ [n]) : List (Action κ α ν)) =
      exchanges ns ++ [.transmit ns.length n, .acknowledge n] := by
  simp [exchanges, List.zipIdx_append]

/-- **The items are sent in order.** What was sent since the job began are the items up to the
current one, each under a number that was acknowledged while it was waited for. -/
structure InOrder (j : Job κ α ν) (log : List (Action κ α ν)) : Prop where
  bound : j.index + (if j.waiting.isSome then 1 else 0) ≤ j.items.length
  log_eq : ∃ ns : List ν, ns.length = j.index ∧
    log = exchanges ns ++ (j.waiting.map fun n => Action.transmit j.index n).toList

/-- The log of no job is empty. -/
def Logged : Option (Job κ α ν) → List (Action κ α ν) → Prop
  | none, log => log = []
  | some j, log => InOrder j log

theorem inOrder_first {j : Job κ α ν} (hi : j.index = 0) (hw : j.waiting = none) : InOrder j [] := by
  refine ⟨by simp [hi, hw], [], by simp [hi], ?_⟩
  simp [exchanges, hw]

theorem logged_record {s s' : Option (Job κ α ν)} {a : Action κ α ν} (h : Performs s a s')
    {log : List (Action κ α ν)} (hl : Logged s log) : Logged s' (record log a) := by
  cases h with
  | start key items => exact inOrder_first rfl rfl
  | restart j => exact inOrder_first rfl rfl
  | stop j => exact rfl
  | transmit j n hw hlt =>
    obtain ⟨ns, hlen, rfl⟩ := hl.log_eq
    refine ⟨?_, ns, hlen, ?_⟩
    · show j.index + 1 ≤ j.items.length
      omega
    · simp [record, Job.await, hw]
  | acknowledge j n hw =>
    obtain ⟨ns, hlen, rfl⟩ := hl.log_eq
    have hbound := hl.bound
    simp only [hw, Option.isSome_some, if_true] at hbound
    refine ⟨?_, ns ++ [n], by simp [hlen, Job.advance], ?_⟩
    · show j.index + 1 + 0 ≤ j.items.length
      omega
    · simp [record, Job.advance, hw, exchanges_concat, hlen]

/-- **The items are sent in order**, whatever happens. -/
theorem logged_of_trace {s s' : Option (Job κ α ν)} {acts : List (Action κ α ν)}
    (h : Trace s acts s') {log : List (Action κ α ν)} (hl : Logged s log) :
    Logged s' (acts.foldl record log) := by
  induction h generalizing log with
  | nil s => exact hl
  | cons hp _ ih => exact ih (logged_record hp hl)

/-! ## The job -/

theorem start_mem_or_of_trace {s s' : Option (Job κ α ν)} {acts : List (Action κ α ν)}
    (h : Trace s acts s') : ∀ j, s' = some j → .start j.key j.items ∈ acts ∨
      ∃ j₀, s = some j₀ ∧ j₀.key = j.key ∧ j₀.items = j.items := by
  induction h with
  | nil s => exact fun j hj => Or.inr ⟨j, hj, rfl, rfl⟩
  | cons hp _ ih =>
    intro j hj
    rcases ih j hj with hm | ⟨j₀, rfl, hkey, hitems⟩
    · exact Or.inl (List.mem_cons_of_mem _ hm)
    · cases hp with
      | start key items =>
        refine Or.inl ?_
        rw [← hkey, ← hitems]
        exact List.mem_cons_self
      | transmit j₁ n _ _ => exact Or.inr ⟨j₁, rfl, hkey, hitems⟩
      | acknowledge j₁ n _ => exact Or.inr ⟨j₁, rfl, hkey, hitems⟩
      | restart j₁ => exact Or.inr ⟨j₁, rfl, hkey, hitems⟩

theorem start_mem_of_trace {acts : List (Action κ α ν)} {j : Job κ α ν}
    (h : Trace none acts (some j)) : .start j.key j.items ∈ acts := by
  rcases start_mem_or_of_trace h j rfl with hm | ⟨j₀, hn, -⟩
  · exact hm
  · cases hn

end StopAndWait

end Lib
