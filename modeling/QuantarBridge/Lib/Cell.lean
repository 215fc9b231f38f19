import QuantarBridge.Lib.Run

/-!
# A cell that is filled and emptied

A machine has a cell that holds at most one value. Some of its outputs say that a value was put into
the cell or taken out of it. The cell `Tracks` the outputs when a value is only put into an empty
cell and only the value in the cell is taken.

* `tracks_idle`, `tracks_append_iff`, `tracks_run`: **the run rule**;
* `exists_take`: what is put into a cell that ends empty is taken, and nothing happens to the cell
  in between.
-/

set_option autoImplicit false

namespace Lib

/-- What an output says about the cell. -/
inductive CellOp (α : Type)
  | put (a : α)
  | take (a : α)

section Cell

variable {α ο : Type} (op : ο → Option (CellOp α))

/-- The contents of the cell before and after the outputs fit them. -/
def Tracks : Option α → List ο → Option α → Prop
  | c, [], c' => c = c'
  | c, o :: os, c' =>
    match op o with
    | none => Tracks c os c'
    | some (.put a) => c = none ∧ Tracks (some a) os c'
    | some (.take a) => c = some a ∧ Tracks none os c'

variable {op} {c c' c'' : Option α} {o : ο} {os os' : List ο} {a : α}

theorem tracks_cons_none (h : op o = none) : Tracks op c (o :: os) c' ↔ Tracks op c os c' := by
  rw [Tracks, h]

theorem tracks_cons_put (h : op o = some (.put a)) :
    Tracks op c (o :: os) c' ↔ c = none ∧ Tracks op (some a) os c' := by
  rw [Tracks, h]

theorem tracks_cons_take (h : op o = some (.take a)) :
    Tracks op c (o :: os) c' ↔ c = some a ∧ Tracks op none os c' := by
  rw [Tracks, h]

theorem tracks_idle (h : ∀ o ∈ os, op o = none) : Tracks op c os c := by
  induction os with
  | nil => rfl
  | cons o os ih =>
    rw [tracks_cons_none (h o List.mem_cons_self)]
    exact ih fun o' ho' => h o' (List.mem_cons_of_mem _ ho')

theorem tracks_put (h : op o = some (.put a)) : Tracks op none [o] (some a) :=
  (tracks_cons_put h).mpr ⟨rfl, rfl⟩

theorem tracks_take (h : op o = some (.take a)) : Tracks op (some a) [o] none :=
  (tracks_cons_take h).mpr ⟨rfl, rfl⟩

theorem tracks_append_iff :
    Tracks op c (os ++ os') c'' ↔ ∃ c', Tracks op c os c' ∧ Tracks op c' os' c'' := by
  induction os generalizing c with
  | nil =>
    constructor
    · exact fun h => ⟨c, rfl, h⟩
    · rintro ⟨_, rfl, h⟩
      exact h
  | cons o os ih =>
    rw [List.cons_append]
    rcases h : op o with _ | a | a
    · simp only [tracks_cons_none h, ih]
    · simp only [tracks_cons_put h, ih]
      exact ⟨fun ⟨hc, c', h₁, h₂⟩ => ⟨c', ⟨hc, h₁⟩, h₂⟩, fun ⟨c', ⟨hc, h₁⟩, h₂⟩ => ⟨hc, c', h₁, h₂⟩⟩
    · simp only [tracks_cons_take h, ih]
      exact ⟨fun ⟨hc, c', h₁, h₂⟩ => ⟨c', ⟨hc, h₁⟩, h₂⟩, fun ⟨c', ⟨hc, h₁⟩, h₂⟩ => ⟨hc, c', h₁, h₂⟩⟩

theorem tracks_append (h : Tracks op c os c') (h' : Tracks op c' os' c'') :
    Tracks op c (os ++ os') c'' := tracks_append_iff.mpr ⟨c', h, h'⟩

/-- **The run rule.** -/
theorem tracks_run {σ ε : Type} {step : σ → ε → σ × List ο} {cell : σ → Option α}
    (hstep : ∀ s e, Tracks op (cell s) (step s e).2 (cell (step s e).1)) (es : List ε) :
    ∀ s, Tracks op (cell s) (Run.outputs step s es) (cell (Run.final step s es)) := by
  induction es with
  | nil => exact fun s => rfl
  | cons e es ih => exact fun s => tracks_append (hstep s e) (ih _)

/-- **What is in a cell that ends empty is taken**, and nothing happens to the cell before. -/
theorem exists_take (h : Tracks op (some a) os none) :
    ∃ mid o rest, os = mid ++ o :: rest ∧ (∀ x ∈ mid, op x = none) ∧ op o = some (.take a) := by
  induction os with
  | nil => exact absurd h (Option.some_ne_none a)
  | cons o os ih =>
    rcases ho : op o with _ | b | b
    · obtain ⟨mid, o', rest, rfl, hmid, ho'⟩ := ih ((tracks_cons_none ho).mp h)
      exact ⟨o :: mid, o', rest, rfl, List.forall_mem_cons.mpr ⟨ho, hmid⟩, ho'⟩
    · exact absurd ((tracks_cons_put ho).mp h).1 (Option.some_ne_none a)
    · obtain rfl : a = b := Option.some.inj ((tracks_cons_take ho).mp h).1
      exact ⟨[], o, os, rfl, fun x hx => absurd hx List.not_mem_nil, ho⟩

end Cell

end Lib
