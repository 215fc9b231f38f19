import Mathlib.Data.List.GetD

/-!
# Checked access to a buffer

Code that reads a buffer by index may read behind its end, and what it calls may throw. A `Checked` value
is the result of such code or the first fault.

* `Fault`, `read`, `test`, `span`: reads that fail behind the end;
* `read_of_drop`, `read_head`, `test_of_drop`, `test_head`: reads seen from the rest of the buffer;
* `andM_ok`, `andM_false`, `orM_ok`, `orM_true`: conditions that stop early.
-/

set_option autoImplicit false

namespace Lib

/-- Why code fails: a read behind the end, a text that cannot be converted, a number that does not fit. -/
inductive Fault where
  | outOfBounds (i : ℕ)
  | conversion
  | outOfRange
  deriving DecidableEq

/-- A result or the first fault. -/
abbrev Checked (β : Type) := Except Fault β

variable {α : Type} {data rest : List α} {i k : ℕ}

/-- The element at an index. -/
def read (data : List α) (i : ℕ) : Checked α :=
  match data[i]? with
  | some a => .ok a
  | none => .error (.outOfBounds i)

/-- Whether the element at an index satisfies a condition. -/
def test (data : List α) (i : ℕ) (p : α → Bool) : Checked Bool := do return p (← read data i)

/-- The elements from an index on. -/
def span (data : List α) (i length : ℕ) : Checked (List α) :=
  if i + length ≤ data.length then .ok ((data.drop i).take length)
  else .error (.outOfBounds (i + length))

theorem read_of_lt (h : i < data.length) (d : α) : read data i = .ok (data.getD i d) := by
  unfold read
  rw [List.getElem?_eq_getElem h, List.getD_eq_getElem _ _ h]

theorem test_of_lt (h : i < data.length) (d : α) (p : α → Bool) :
    test data i p = .ok (p (data.getD i d)) := by
  unfold test
  rw [read_of_lt h d]
  rfl

theorem read_of_drop {a : α} (h : (data.drop i)[k]? = some a) : read data (i + k) = .ok a := by
  unfold read
  rw [← List.getElem?_drop, h]

theorem test_of_drop {a : α} (h : (data.drop i)[k]? = some a) (p : α → Bool) :
    test data (i + k) p = .ok (p a) := by
  unfold test
  rw [read_of_drop h]
  rfl

theorem read_head {a : α} (h : data.drop i = a :: rest) : read data i = .ok a :=
  read_of_drop (i := i) (k := 0) (by rw [h]; rfl)

theorem test_head {a : α} (h : data.drop i = a :: rest) (p : α → Bool) : test data i p = .ok (p a) :=
  test_of_drop (i := i) (k := 0) (by rw [h]; rfl) p

theorem span_of_le {length : ℕ} (h : i + length ≤ data.length) :
    span data i length = .ok ((data.drop i).take length) := if_pos h

theorem drop_add_of_drop (h : data.drop i = rest) (k : ℕ) : data.drop (i + k) = rest.drop k := by
  rw [← List.drop_drop, h]

theorem length_of_drop {a : α} (h : data.drop i = a :: rest) : data.length = i + rest.length + 1 := by
  have hlength := congrArg List.length h
  rw [List.length_drop, List.length_cons] at hlength
  omega

theorem ok_bind {β γ : Type} (b : β) (f : β → Checked γ) : ((.ok b : Checked β) >>= f) = f b := rfl

theorem pure_eq_ok {β : Type} (b : β) : (pure b : Checked β) = .ok b := rfl

theorem mapM_ok {β : Type} {f : α → Checked β} {g : α → β} {l : List α} (h : ∀ a ∈ l, f a = .ok (g a)) :
    l.mapM f = .ok (l.map g) := by
  induction l with
  | nil => rfl
  | cons a l ih =>
    obtain ⟨ha, hl⟩ := List.forall_mem_cons.mp h
    rw [List.mapM_cons, ha, ok_bind, ih hl]
    rfl

/-! ## Conditions that stop early -/

theorem andM_ok (b c : Bool) : ((.ok b : Checked Bool) <&&> .ok c) = .ok (b && c) := by
  cases b <;> rfl

theorem andM_false (m : Checked Bool) : ((.ok false : Checked Bool) <&&> m) = .ok false := rfl

theorem orM_ok (b c : Bool) : ((.ok b : Checked Bool) <||> .ok c) = .ok (b || c) := by
  cases b <;> rfl

theorem orM_true (m : Checked Bool) : ((.ok true : Checked Bool) <||> m) = .ok true := rfl

end Lib
