import Mathlib.Data.List.Nodup

/-!
# Insertion-ordered dictionaries

A `Dict κ ν` is a list of entries whose keys are distinct. Setting a present key replaces its
value in place and setting a new key appends it, so the entries stay in insertion order.

* `Dict.get?`, `Dict.set`, `Dict.erase`, `Dict.filter`, `Dict.modify`, `Dict.filterMap`,
  `Dict.any`;
* the lookup after each operation: `get?_set`, `get?_erase`, `get?_filter`, `get?_modify`,
  `get?_filterMap`;
* `mem_entries_iff`: membership in the entries is lookup, so a test over all entries is a
  statement about lookups (`any_iff`).
-/

set_option autoImplicit false

namespace Lib

/-- A finite map as a list of entries with distinct keys. -/
structure Dict (κ ν : Type) where
  entries : List (κ × ν)
  nodup : (entries.map Prod.fst).Nodup

namespace Dict

variable {κ ν μ : Type} [DecidableEq κ]

/-- Replace the value of a present key, append a new one. -/
def setEntry (k : κ) (v : ν) : List (κ × ν) → List (κ × ν)
  | [] => [(k, v)]
  | e :: l => if e.1 = k then (k, v) :: l else e :: setEntry k v l

theorem mem_keys_setEntry (k : κ) (v : ν) (l : List (κ × ν)) (k' : κ) :
    k' ∈ (setEntry k v l).map Prod.fst ↔ k' = k ∨ k' ∈ l.map Prod.fst := by
  induction l with
  | nil => simp [setEntry]
  | cons e l ih =>
    unfold setEntry
    split_ifs with h
    · simp [h]
    · rw [List.map_cons, List.mem_cons, ih, List.map_cons, List.mem_cons]
      tauto

theorem nodup_setEntry (k : κ) (v : ν) (l : List (κ × ν)) (hl : (l.map Prod.fst).Nodup) :
    ((setEntry k v l).map Prod.fst).Nodup := by
  induction l with
  | nil => simp [setEntry]
  | cons e l ih =>
    rw [List.map_cons, List.nodup_cons] at hl
    unfold setEntry
    split_ifs with h
    · rw [List.map_cons, List.nodup_cons]
      exact ⟨h ▸ hl.1, hl.2⟩
    · rw [List.map_cons, List.nodup_cons, mem_keys_setEntry]
      exact ⟨fun hk => hk.elim h hl.1, ih hl.2⟩

omit [DecidableEq κ] in
theorem mem_keys_filterMap (f : κ → ν → Option μ) (l : List (κ × ν)) (k : κ)
    (h : k ∈ (l.filterMap fun e => (f e.1 e.2).map (Prod.mk e.1)).map Prod.fst) :
    k ∈ l.map Prod.fst := by
  obtain ⟨⟨k', v'⟩, hm, rfl⟩ := List.mem_map.mp h
  obtain ⟨e, he, hf⟩ := List.mem_filterMap.mp hm
  obtain ⟨v, -, hv⟩ := Option.map_eq_some_iff.mp hf
  exact List.mem_map.mpr ⟨e, he, (Prod.mk.inj hv).1⟩

omit [DecidableEq κ] in
theorem nodup_filterMap (f : κ → ν → Option μ) (l : List (κ × ν)) (hl : (l.map Prod.fst).Nodup) :
    ((l.filterMap fun e => (f e.1 e.2).map (Prod.mk e.1)).map Prod.fst).Nodup := by
  induction l with
  | nil => exact List.nodup_nil
  | cons e l ih =>
    rw [List.map_cons, List.nodup_cons] at hl
    cases hf : f e.1 e.2 with
    | none => simpa [List.filterMap_cons, hf] using ih hl.2
    | some v =>
      rw [List.filterMap_cons, hf, Option.map_some, List.map_cons, List.nodup_cons]
      exact ⟨fun hk => hl.1 (mem_keys_filterMap f l e.1 hk), ih hl.2⟩

/-- The empty dictionary. -/
def empty : Dict κ ν := ⟨[], List.nodup_nil⟩

/-- The value stored under `k`. -/
def get? (d : Dict κ ν) (k : κ) : Option ν := (d.entries.find? fun e => e.1 = k).map Prod.snd

/-- Store `v` under `k`. -/
def set (d : Dict κ ν) (k : κ) (v : ν) : Dict κ ν :=
  ⟨setEntry k v d.entries, nodup_setEntry k v d.entries d.nodup⟩

/-- Keep the entries that satisfy `p`. -/
def filter (d : Dict κ ν) (p : κ → ν → Bool) : Dict κ ν :=
  ⟨d.entries.filter fun e => p e.1 e.2, d.nodup.sublist (List.filter_sublist.map _)⟩

/-- Drop the entry of `k`. -/
def erase (d : Dict κ ν) (k : κ) : Dict κ ν := d.filter fun k' _ => k' ≠ k

/-- Apply `f` to the value of `k`. -/
def modify (d : Dict κ ν) (k : κ) (f : ν → ν) : Dict κ ν :=
  ⟨d.entries.map fun e => (e.1, if e.1 = k then f e.2 else e.2), by
    rw [List.map_map]; exact d.nodup⟩

/-- Replace or drop every entry. -/
def filterMap (d : Dict κ ν) (f : κ → ν → Option μ) : Dict κ μ :=
  ⟨d.entries.filterMap fun e => (f e.1 e.2).map (Prod.mk e.1), nodup_filterMap f d.entries d.nodup⟩

/-- Some entry satisfies `p`. -/
def any (d : Dict κ ν) (p : κ → ν → Bool) : Bool := d.entries.any fun e => p e.1 e.2

/-- The keys, in insertion order. -/
def keys (d : Dict κ ν) : List κ := d.entries.map Prod.fst

theorem find_eq_some_iff (l : List (κ × ν)) (hl : (l.map Prod.fst).Nodup) (k : κ) (v : ν) :
    (l.find? fun e => e.1 = k).map Prod.snd = some v ↔ (k, v) ∈ l := by
  induction l with
  | nil => simp
  | cons e l ih =>
    rw [List.map_cons, List.nodup_cons] at hl
    rw [List.find?_cons, List.mem_cons]
    by_cases h : e.1 = k
    · have hk : (k, v) ∉ l := fun hm => hl.1 (h ▸ List.mem_map_of_mem (f := Prod.fst) hm)
      simp only [h, decide_true, Option.map_some, Option.some.injEq, hk, or_false]
      constructor
      · rintro rfl; rw [← h]
      · intro he; rw [← he]
    · have hne : (k, v) ≠ e := fun he => h (by rw [← he])
      simp only [h, decide_false, hne, false_or]
      exact ih hl.2

/-- **Membership in the entries is lookup.** -/
theorem mem_entries_iff (d : Dict κ ν) (k : κ) (v : ν) :
    (k, v) ∈ d.entries ↔ d.get? k = some v :=
  (find_eq_some_iff d.entries d.nodup k v).symm

theorem get?_ext {o : Option ν} {d : Dict κ ν} {k : κ}
    (h : ∀ v, (k, v) ∈ d.entries ↔ o = some v) : d.get? k = o :=
  Option.ext fun v => (mem_entries_iff d k v).symm.trans (h v)

@[simp] theorem get?_empty (k : κ) : (empty : Dict κ ν).get? k = none := rfl

theorem mem_setEntry (k : κ) (v : ν) (l : List (κ × ν)) (hl : (l.map Prod.fst).Nodup)
    (k' : κ) (v' : ν) :
    (k', v') ∈ setEntry k v l ↔ if k' = k then v' = v else (k', v') ∈ l := by
  induction l with
  | nil => split_ifs with h <;> simp [setEntry, h]
  | cons e l ih =>
    rw [List.map_cons, List.nodup_cons] at hl
    unfold setEntry
    by_cases h : e.1 = k
    · have hmem : (k, v') ∉ l := fun hm => hl.1 (h ▸ List.mem_map_of_mem (f := Prod.fst) hm)
      rw [if_pos h, List.mem_cons]
      by_cases hk : k' = k
      · subst hk
        simp [hmem]
      · rw [if_neg hk, List.mem_cons]
        have h1 : (k', v') ≠ (k, v) := fun he => hk (congrArg Prod.fst he)
        have h2 : (k', v') ≠ e := fun he => hk (by rw [← h, ← he])
        simp [h1, h2]
    · rw [if_neg h, List.mem_cons, ih hl.2]
      by_cases hk : k' = k
      · have h2 : (k', v') ≠ e := fun he => h (by rw [← hk, ← he])
        simp [hk, show ¬ (k, v') = e from hk ▸ h2]
      · simp [hk]

@[simp] theorem get?_set (d : Dict κ ν) (k k' : κ) (v : ν) :
    (d.set k v).get? k' = if k' = k then some v else d.get? k' := by
  refine get?_ext fun v' => ?_
  rw [show (d.set k v).entries = setEntry k v d.entries from rfl, mem_setEntry k v _ d.nodup]
  split_ifs with h
  · rw [Option.some.injEq, eq_comm]
  · exact mem_entries_iff d k' v'

@[simp] theorem get?_filter (d : Dict κ ν) (p : κ → ν → Bool) (k : κ) :
    (d.filter p).get? k = (d.get? k).filter (p k) := by
  refine get?_ext fun v => ?_
  rw [show (d.filter p).entries = d.entries.filter fun e => p e.1 e.2 from rfl, List.mem_filter,
    mem_entries_iff, Option.filter_eq_some_iff]

@[simp] theorem get?_erase (d : Dict κ ν) (k k' : κ) :
    (d.erase k).get? k' = if k' = k then none else d.get? k' := by
  rw [erase, get?_filter]
  split_ifs with h
  · cases d.get? k' <;> simp [h]
  · cases d.get? k' <;> simp [h]

@[simp] theorem get?_modify (d : Dict κ ν) (k k' : κ) (f : ν → ν) :
    (d.modify k f).get? k' = if k' = k then (d.get? k').map f else d.get? k' := by
  refine get?_ext fun v => ?_
  rw [show (d.modify k f).entries =
    d.entries.map fun e => (e.1, if e.1 = k then f e.2 else e.2) from rfl, List.mem_map]
  constructor
  · rintro ⟨⟨k₀, v₀⟩, hm, he⟩
    rw [mem_entries_iff] at hm
    simp only [Prod.mk.injEq] at he
    obtain ⟨rfl, rfl⟩ := he
    split_ifs with h
    · simp [hm]
    · exact hm
  · intro h
    split_ifs at h with hk
    · obtain ⟨v₀, h₀, rfl⟩ := Option.map_eq_some_iff.mp h
      exact ⟨(k', v₀), (mem_entries_iff d k' v₀).mpr h₀, by simp [hk]⟩
    · exact ⟨(k', v), (mem_entries_iff d k' v).mpr h, by simp [hk]⟩

@[simp] theorem get?_filterMap (d : Dict κ ν) (f : κ → ν → Option μ) (k : κ) :
    (d.filterMap f).get? k = (d.get? k).bind (f k) := by
  refine get?_ext fun v => ?_
  rw [show (d.filterMap f).entries =
    d.entries.filterMap fun e => (f e.1 e.2).map (Prod.mk e.1) from rfl, List.mem_filterMap,
    Option.bind_eq_some_iff]
  constructor
  · rintro ⟨⟨k₀, v₀⟩, hm, hf⟩
    obtain ⟨v', hv, he⟩ := Option.map_eq_some_iff.mp hf
    rw [Prod.mk.injEq] at he
    obtain ⟨rfl, rfl⟩ := he
    exact ⟨v₀, (mem_entries_iff d _ v₀).mp hm, hv⟩
  · rintro ⟨v₀, hm, hf⟩
    exact ⟨(k, v₀), (mem_entries_iff d k v₀).mpr hm, by rw [hf, Option.map_some]⟩

theorem length_setEntry (k : κ) (v : ν) (l : List (κ × ν)) :
    (setEntry k v l).length = if k ∈ l.map Prod.fst then l.length else l.length + 1 := by
  induction l with
  | nil => rfl
  | cons e l ih =>
    unfold setEntry
    by_cases h : e.1 = k
    · rw [if_pos h, if_pos (h ▸ List.mem_cons_self)]
      rfl
    · rw [if_neg h, List.length_cons, ih]
      simp only [List.map_cons, List.mem_cons, eq_comm (a := k), h, false_or]
      split_ifs <;> rfl

theorem length_keys_set (d : Dict κ ν) (k : κ) (v : ν) :
    (d.set k v).keys.length = if k ∈ d.keys then d.keys.length else d.keys.length + 1 := by
  unfold keys
  rw [List.length_map, List.length_map]
  exact length_setEntry k v d.entries

theorem any_iff (d : Dict κ ν) (p : κ → ν → Bool) :
    d.any p = true ↔ ∃ k v, d.get? k = some v ∧ p k v = true := by
  rw [any, List.any_eq_true]
  constructor
  · rintro ⟨⟨k, v⟩, hm, hp⟩
    exact ⟨k, v, (mem_entries_iff d k v).mp hm, hp⟩
  · rintro ⟨k, v, hg, hp⟩
    exact ⟨(k, v), (mem_entries_iff d k v).mpr hg, hp⟩

theorem mem_keys_iff (d : Dict κ ν) (k : κ) : k ∈ d.keys ↔ ∃ v, d.get? k = some v := by
  rw [keys, List.mem_map]
  constructor
  · rintro ⟨⟨k', v⟩, hm, rfl⟩
    exact ⟨v, (mem_entries_iff d k' v).mp hm⟩
  · rintro ⟨v, hv⟩
    exact ⟨(k, v), (mem_entries_iff d k v).mpr hv, rfl⟩

end Dict

end Lib
