import QuantarBridge.Lib.Bimap

/-!
# Overwriting and restoring

A store maps keys to values. Writing the entries of a dictionary over a store replaces the values of
its keys; a dictionary that saved the values of a store restores them.

* `writeAll`, `overlay`: writing entry by entry, and the store that results;
* `Saved`, `AgreeOutside`: a dictionary holds values of a store; two stores differ at its keys only;
* `overlay_of_saved`: **writing the saved values back restores the store**.
-/

set_option autoImplicit false

namespace Lib

variable {κ ν : Type} [DecidableEq κ]

/-- Write the entries one after the other. -/
def writeAll (l : List (κ × ν)) (f : κ → Option ν) : κ → Option ν :=
  l.foldl (fun f e => Function.update f e.1 (some e.2)) f

/-- The values of the dictionary, and those of the store at the other keys. -/
def overlay (d : Dict κ ν) (f : κ → Option ν) : κ → Option ν := fun k => (d.get? k).or (f k)

/-- The store has the values of the dictionary. -/
def Saved (d : Dict κ ν) (f : κ → Option ν) : Prop := ∀ k v, d.get? k = some v → f k = some v

/-- The stores differ at the keys of the dictionary only. -/
def AgreeOutside (d : Dict κ ν) (f g : κ → Option ν) : Prop := ∀ k, d.get? k = none → f k = g k

variable {d : Dict κ ν} {f g : κ → Option ν} {l : List (κ × ν)} {k : κ} {v : ν}

theorem writeAll_of_not_mem (h : k ∉ l.map Prod.fst) : writeAll l f k = f k := by
  induction l generalizing f with
  | nil => rfl
  | cons e l ih =>
    rw [List.map_cons, List.mem_cons, not_or] at h
    have hl := ih (f := Function.update f e.1 (some e.2)) h.2
    rw [Function.update_of_ne h.1] at hl
    exact hl

theorem writeAll_of_mem (hn : (l.map Prod.fst).Nodup) (h : (k, v) ∈ l) :
    writeAll l f k = some v := by
  induction l generalizing f with
  | nil => cases h
  | cons e l ih =>
    rw [List.map_cons, List.nodup_cons] at hn
    rcases List.mem_cons.mp h with rfl | hm
    · have hl : writeAll l (Function.update f k (some v)) k = _ := writeAll_of_not_mem hn.1
      rw [Function.update_self] at hl
      exact hl
    · exact ih hn.2 hm

theorem not_mem_keys_iff (d : Dict κ ν) (k : κ) : k ∉ d.keys ↔ d.get? k = none := by
  rw [Dict.mem_keys_iff, ← Option.isSome_iff_exists, Option.not_isSome_iff_eq_none]

/-- **Writing all entries.** -/
theorem writeAll_entries (d : Dict κ ν) (f : κ → Option ν) :
    writeAll d.entries f = overlay d f := by
  funext k
  cases h : d.get? k with
  | none =>
    have hk : k ∉ d.entries.map Prod.fst := (not_mem_keys_iff d k).mpr h
    rw [writeAll_of_not_mem hk, overlay, h, Option.none_or]
  | some v =>
    have hk : (k, v) ∈ d.entries := (Dict.mem_entries_iff d k v).mpr h
    rw [writeAll_of_mem d.nodup hk, overlay, h, Option.some_or]

/-- **The saved values restore the store.** -/
theorem overlay_of_saved (hs : Saved d f) (ha : AgreeOutside d g f) : overlay d g = f := by
  funext k
  rw [overlay]
  cases h : d.get? k with
  | none => rw [Option.none_or, ha k h]
  | some v => rw [Option.some_or, hs k v h]

theorem AgreeOutside.refl (d : Dict κ ν) (f : κ → Option ν) : AgreeOutside d f f :=
  fun _ _ => rfl

theorem AgreeOutside.update (ha : AgreeOutside d f g) (hk : d.get? k ≠ none) (v : ν) :
    AgreeOutside d (Function.update f k (some v)) g := by
  intro k' hk'
  have hne : k' ≠ k := fun h => hk (h ▸ hk')
  rw [Function.update_of_ne hne]
  exact ha k' hk'

/-- What a list of pairs saved, if the store has all of them. -/
theorem saved_forward (h : ∀ e ∈ l, f e.1 = some e.2) : Saved (Bimap.forward l) f :=
  fun _ _ hk => h _ (Bimap.mem_of_forward hk)

end Lib
