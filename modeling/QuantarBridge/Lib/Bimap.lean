import Mathlib.Data.List.Perm.Subperm
import QuantarBridge.Lib.Dict

/-!
# Two-way tables

A list of pairs builds two dictionaries, one from left to right and one from right to left. A later
pair replaces an earlier one in each direction on its own, so the two are not inverse in general.

* `forward`, `backward`, `Inverse`, `Unique`;
* `forward_iff`, `backward_iff`: the lookups of unique pairs;
* `forward_concat`, `backward_concat`, `unique_concat_iff`: one more pair;
* `inverse_of_unique`: **unique pairs build inverse dictionaries**;
* `same_of_perm`, `perm_of_same`: lists that build the same dictionaries as unique pairs.
-/

set_option autoImplicit false

namespace Lib.Bimap

variable {α β : Type} [DecidableEq α] [DecidableEq β]

/-- From left to right. -/
def forward (l : List (α × β)) : Dict α β := l.foldl (fun d m => d.set m.1 m.2) Dict.empty

/-- From right to left. -/
def backward (l : List (α × β)) : Dict β α := l.foldl (fun d m => d.set m.2 m.1) Dict.empty

/-- Each dictionary undoes the other one. -/
def Inverse (d : Dict α β) (d' : Dict β α) : Prop := ∀ a b, d.get? a = some b ↔ d'.get? b = some a

/-- No left side and no right side occurs twice. -/
def Unique (l : List (α × β)) : Prop := (l.map Prod.fst).Nodup ∧ (l.map Prod.snd).Nodup

instance (l : List (α × β)) : Decidable (Unique l) := inferInstanceAs (Decidable (_ ∧ _))

/-- The dictionaries give the same answers. -/
def Same (d d' : Dict α β × Dict β α) : Prop :=
  (∀ a, d.1.get? a = d'.1.get? a) ∧ ∀ b, d.2.get? b = d'.2.get? b

variable {l l' : List (α × β)} {a : α} {b : β}

omit [DecidableEq β] in
theorem get?_foldl_of_not_mem (d : Dict α β) (h : a ∉ l.map Prod.fst) :
    (l.foldl (fun d m => d.set m.1 m.2) d).get? a = d.get? a := by
  induction l generalizing d with
  | nil => rfl
  | cons m l ih =>
    rw [List.map_cons, List.mem_cons, not_or] at h
    rw [List.foldl_cons, ih _ h.2, Dict.get?_set, if_neg h.1]

omit [DecidableEq β] in
theorem mem_of_get?_foldl (d : Dict α β)
    (h : (l.foldl (fun d m => d.set m.1 m.2) d).get? a = some b) :
    (a, b) ∈ l ∨ d.get? a = some b := by
  induction l generalizing d with
  | nil => exact Or.inr h
  | cons m l ih =>
    rcases ih _ h with hm | hd
    · exact Or.inl (List.mem_cons_of_mem _ hm)
    · rw [Dict.get?_set] at hd
      split_ifs at hd with hk
      · have hb : m.2 = b := Option.some.inj hd
        exact Or.inl (by rw [hk, ← hb]; exact List.mem_cons_self)
      · exact Or.inr hd

omit [DecidableEq β] in
theorem get?_foldl_of_mem (d : Dict α β) (hn : (l.map Prod.fst).Nodup) (h : (a, b) ∈ l) :
    (l.foldl (fun d m => d.set m.1 m.2) d).get? a = some b := by
  induction l generalizing d with
  | nil => exact absurd h List.not_mem_nil
  | cons m l ih =>
    rw [List.map_cons, List.nodup_cons] at hn
    rw [List.foldl_cons]
    rcases List.mem_cons.mp h with rfl | h
    · rw [get?_foldl_of_not_mem _ hn.1, Dict.get?_set, if_pos rfl]
    · exact ih _ hn.2 h

omit [DecidableEq β] in
theorem mem_of_forward (h : (forward l).get? a = some b) : (a, b) ∈ l :=
  (mem_of_get?_foldl _ h).resolve_right fun hn => Option.some_ne_none _ hn.symm

omit [DecidableEq β] in
theorem forward_eq_none_iff : (forward l).get? a = none ↔ a ∉ l.map Prod.fst := by
  refine ⟨fun h hm => ?_, get?_foldl_of_not_mem _⟩
  have hs : ∀ (l : List (α × β)) (d : Dict α β), (a ∈ l.map Prod.fst ∨ d.get? a ≠ none) →
      (l.foldl (fun d m => d.set m.1 m.2) d).get? a ≠ none := by
    intro l
    induction l with
    | nil => exact fun d hd => hd.resolve_left List.not_mem_nil
    | cons m l ih =>
      intro d hd
      refine ih _ ?_
      rw [List.map_cons, List.mem_cons] at hd
      rw [Dict.get?_set]
      split_ifs with hk
      · exact Or.inr (Option.some_ne_none _)
      · exact hd.imp_left fun h => h.resolve_left hk
  exact hs l Dict.empty (Or.inl hm) h

omit [DecidableEq β] in
theorem forward_iff (hn : (l.map Prod.fst).Nodup) : (forward l).get? a = some b ↔ (a, b) ∈ l :=
  ⟨mem_of_forward, get?_foldl_of_mem _ hn⟩

omit [DecidableEq α] in
theorem backward_eq (l : List (α × β)) : backward l = forward (l.map Prod.swap) := by
  rw [forward, List.foldl_map]
  rfl

omit [DecidableEq α] in
theorem backward_iff (hn : (l.map Prod.snd).Nodup) :
    (backward l).get? b = some a ↔ (a, b) ∈ l := by
  have hs : ((l.map Prod.swap).map Prod.fst).Nodup := by
    rw [List.map_map]
    exact hn
  rw [backward_eq, forward_iff hs, List.mem_map]
  constructor
  · rintro ⟨⟨a', b'⟩, hm, he⟩
    obtain ⟨rfl, rfl⟩ := Prod.mk.inj he
    exact hm
  · exact fun h => ⟨(a, b), h, rfl⟩

omit [DecidableEq β] in
theorem forward_concat (l : List (α × β)) (p : α × β) :
    forward (l ++ [p]) = (forward l).set p.1 p.2 := by
  rw [forward, List.foldl_append]
  rfl

omit [DecidableEq α] in
theorem backward_concat (l : List (α × β)) (p : α × β) :
    backward (l ++ [p]) = (backward l).set p.2 p.1 := by
  rw [backward, List.foldl_append]
  rfl

omit [DecidableEq β] in
theorem isSome_forward_iff (hn : (l.map Prod.fst).Nodup) :
    ((forward l).get? a).isSome ↔ a ∈ l.map Prod.fst := by
  rw [Option.isSome_iff_exists, List.mem_map]
  constructor
  · rintro ⟨b, hb⟩
    exact ⟨(a, b), mem_of_forward hb, rfl⟩
  · rintro ⟨⟨a', b⟩, hm, rfl⟩
    exact ⟨b, (forward_iff hn).mpr hm⟩

omit [DecidableEq α] in
theorem isSome_backward_iff (hn : (l.map Prod.snd).Nodup) :
    ((backward l).get? b).isSome ↔ b ∈ l.map Prod.snd := by
  rw [Option.isSome_iff_exists, List.mem_map]
  constructor
  · rintro ⟨a, ha⟩
    exact ⟨(a, b), (backward_iff hn).mp ha, rfl⟩
  · rintro ⟨⟨a, b'⟩, hm, rfl⟩
    exact ⟨a, (backward_iff hn).mpr hm⟩

theorem nodup_concat_iff {γ : Type} {xs : List γ} {x : γ} :
    (xs ++ [x]).Nodup ↔ xs.Nodup ∧ x ∉ xs := by
  rw [← List.concat_eq_append, List.nodup_concat]
  exact And.comm

/-- **One more pair** keeps unique pairs unique when neither side is known. -/
theorem unique_concat_iff (h : Unique l) (p : α × β) :
    Unique (l ++ [p]) ↔
      ¬ ((forward l).get? p.1).isSome ∧ ¬ ((backward l).get? p.2).isSome := by
  rw [isSome_forward_iff h.1, isSome_backward_iff h.2, Unique, List.map_append, List.map_append]
  simp only [List.map_cons, List.map_nil, nodup_concat_iff, h.1, h.2, true_and]

/-- **Unique pairs build inverse dictionaries.** -/
theorem inverse_of_unique (h : Unique l) : Inverse (forward l) (backward l) := by
  intro a b
  rw [forward_iff h.1, backward_iff h.2]

omit [DecidableEq α] [DecidableEq β] in
theorem unique_of_perm (hp : l.Perm l') (h : Unique l') : Unique l :=
  ⟨(hp.map Prod.fst).nodup_iff.mpr h.1, (hp.map Prod.snd).nodup_iff.mpr h.2⟩

theorem same_of_perm (hp : l.Perm l') (h : Unique l') :
    Same (forward l, backward l) (forward l', backward l') := by
  have hl := unique_of_perm hp h
  refine ⟨fun a => ?_, fun b => ?_⟩
  · refine Option.ext fun b => ?_
    rw [forward_iff hl.1, forward_iff h.1]
    exact hp.mem_iff
  · refine Option.ext fun a => ?_
    rw [backward_iff hl.2, backward_iff h.2]
    exact hp.mem_iff

/-- **The converse.** A list as long as unique pairs that builds the same dictionaries has the same
pairs. -/
theorem perm_of_same (hs : Same (forward l, backward l) (forward l', backward l')) (h : Unique l')
    (hlen : l.length = l'.length) : l.Perm l' := by
  have hsub : l' ⊆ l := by
    rintro ⟨a, b⟩ hm
    have hg : (forward l).get? a = some b := (hs.1 a).trans ((forward_iff h.1).mpr hm)
    exact mem_of_forward hg
  have hnd : l'.Nodup := List.Nodup.of_map _ h.1
  exact ((List.subperm_of_subset hnd hsub).perm_of_length_le (Nat.le_of_eq hlen)).symm

end Lib.Bimap
