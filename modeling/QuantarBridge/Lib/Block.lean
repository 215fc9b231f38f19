import Mathlib.Data.List.TakeWhile

/-!
# Blocks of lists

A block of a list is its first element that starts one, with the elements behind it as long as they
are inside. A block may be looked up within another block.

* `blockAt`, `blockIn`: the block, and the block within a block;
* `blockAt_segment`, `takeWhile_segment`: what a changed segment of the list does to a block;
* `blockAt_patch`, `blockIn_patch`: **a segment that neither starts nor continues the block can be
  replaced**;
* `blockIn_append`: elements behind the end;
* `blockAt_map`, `blockIn_map`, `blockAt_last`, `blockIn_last`: elements of the same kind.
-/

set_option autoImplicit false

namespace Lib

variable {α : Type}

/-- The first element that starts a block and those behind it that are inside. -/
def blockAt (start inside : α → Bool) (l : List α) : Option (α × List α) :=
  match l.dropWhile fun a => !start a with
  | [] => none
  | a :: rest => some (a, rest.takeWhile inside)

/-- The block of an inner kind inside the block of an outer kind. -/
def blockIn (open_ body start inside : α → Bool) (l : List α) : Option (α × List α) :=
  (blockAt open_ body l).bind fun b => blockAt start inside b.2

variable {start inside open_ body : α → Bool} {a : α} {l A B X Y : List α}

theorem blockAt_cons_of_pos (h : start a = true) :
    blockAt start inside (a :: l) = some (a, l.takeWhile inside) := by
  rw [blockAt, List.dropWhile_cons_of_neg (by simp [h])]

theorem blockAt_cons_of_neg (h : start a = false) :
    blockAt start inside (a :: l) = blockAt start inside l := by
  rw [blockAt, List.dropWhile_cons_of_pos (by simp [h])]
  rfl

theorem blockAt_append_of_none (h : ∀ x ∈ X, start x = false) :
    blockAt start inside (X ++ B) = blockAt start inside B := by
  induction X with
  | nil => rfl
  | cons x X ih =>
    rw [List.cons_append, blockAt_cons_of_neg (h x List.mem_cons_self)]
    exact ih fun y hy => h y (List.mem_cons_of_mem _ hy)

theorem blockAt_eq_none_iff : blockAt start inside l = none ↔ ∀ x ∈ l, start x = false := by
  induction l with
  | nil => exact ⟨fun _ x hx => absurd hx List.not_mem_nil, fun _ => rfl⟩
  | cons a l ih =>
    cases ha : start a with
    | true =>
      rw [blockAt_cons_of_pos ha]
      refine iff_of_false (Option.some_ne_none _) fun h => ?_
      rw [h a List.mem_cons_self] at ha
      cases ha
    | false =>
      rw [blockAt_cons_of_neg ha, ih, List.forall_mem_cons]
      exact ⟨fun h => ⟨ha, h⟩, fun h => h.2⟩

theorem blockAt_eq_some {b : List α} (h : blockAt start inside l = some (a, b)) :
    ∃ A B, l = A ++ a :: b ++ B ∧ (∀ x ∈ A, start x = false) ∧ start a = true ∧
      (∀ x ∈ b, inside x = true) ∧ B.takeWhile inside = [] := by
  induction l with
  | nil => cases h
  | cons c l ih =>
    cases hc : start c with
    | true =>
      rw [blockAt_cons_of_pos hc] at h
      cases h
      refine ⟨[], l.dropWhile inside, ?_, fun _ hx => absurd hx List.not_mem_nil, hc, ?_, ?_⟩
      · rw [List.nil_append, List.cons_append, List.takeWhile_append_dropWhile]
      · exact fun x hx => List.mem_takeWhile_imp hx
      · cases hd : l.dropWhile inside with
        | nil => rfl
        | cons x xs =>
          have hx := List.head?_dropWhile_not inside l
          rw [hd] at hx
          rw [List.takeWhile_cons_of_neg]
          simpa using hx
    | false =>
      rw [blockAt_cons_of_neg hc] at h
      obtain ⟨A, B, rfl, hA, ha, hb, hB⟩ := ih h
      refine ⟨c :: A, B, rfl, ?_, ha, hb, hB⟩
      exact List.forall_mem_cons.mpr ⟨hc, hA⟩

theorem takeWhile_segment (hX : X.takeWhile inside = []) (hY : Y.takeWhile inside = []) :
    (A ++ X).takeWhile inside = (A ++ Y).takeWhile inside := by
  induction A with
  | nil => rw [List.nil_append, List.nil_append, hX, hY]
  | cons a A ih =>
    rw [List.cons_append, List.cons_append, List.takeWhile_cons, List.takeWhile_cons, ih]

theorem takeWhile_append_of_pos (hX : ∀ x ∈ X, inside x = true) :
    (X ++ B).takeWhile inside = X ++ B.takeWhile inside := by
  induction X with
  | nil => rfl
  | cons x X ih =>
    rw [List.cons_append, List.takeWhile_cons_of_pos (hX x List.mem_cons_self),
      ih fun y hy => hX y (List.mem_cons_of_mem _ hy)]
    rfl

theorem takeWhile_append_of_not (hX : ¬ ∀ x ∈ X, inside x = true) :
    (X ++ B).takeWhile inside = X.takeWhile inside := by
  induction X with
  | nil => exact absurd (fun x hx => absurd hx List.not_mem_nil) hX
  | cons x X ih =>
    rw [List.cons_append, List.takeWhile_cons, List.takeWhile_cons]
    cases hx : inside x with
    | false => rfl
    | true => rw [ih fun h => hX (List.forall_mem_cons.mpr ⟨hx, h⟩)]

/-- **A segment that neither starts nor continues a block.** -/
theorem blockAt_patch (hX : ∀ x ∈ X, start x = false) (hY : ∀ y ∈ Y, start y = false)
    (hXB : (X ++ B).takeWhile inside = []) (hYB : (Y ++ B).takeWhile inside = []) :
    blockAt start inside (A ++ (X ++ B)) = blockAt start inside (A ++ (Y ++ B)) := by
  induction A with
  | nil => rw [List.nil_append, List.nil_append, blockAt_append_of_none hX, blockAt_append_of_none hY]
  | cons a A ih =>
    cases ha : start a with
    | true =>
      rw [List.cons_append, List.cons_append, blockAt_cons_of_pos ha, blockAt_cons_of_pos ha,
        takeWhile_segment hXB hYB]
    | false =>
      rw [List.cons_append, List.cons_append, blockAt_cons_of_neg ha, blockAt_cons_of_neg ha, ih]

/-- A segment of inner elements is either in the block or irrelevant for it. -/
theorem blockAt_segment (hX : ∀ x ∈ X, start x = false ∧ inside x = true)
    (hY : ∀ y ∈ Y, start y = false ∧ inside y = true) :
    blockAt start inside (A ++ (X ++ B)) = blockAt start inside (A ++ (Y ++ B)) ∨
      ∃ a A', blockAt start inside (A ++ (X ++ B)) = some (a, A' ++ (X ++ B.takeWhile inside)) ∧
        blockAt start inside (A ++ (Y ++ B)) = some (a, A' ++ (Y ++ B.takeWhile inside)) := by
  induction A with
  | nil =>
    left
    rw [List.nil_append, List.nil_append, blockAt_append_of_none fun x hx => (hX x hx).1,
      blockAt_append_of_none fun y hy => (hY y hy).1]
  | cons a A ih =>
    cases ha : start a with
    | false =>
      rw [List.cons_append, List.cons_append, blockAt_cons_of_neg ha, blockAt_cons_of_neg ha]
      exact ih
    | true =>
      rw [List.cons_append, List.cons_append, blockAt_cons_of_pos ha, blockAt_cons_of_pos ha]
      by_cases hA : ∀ x ∈ A, inside x = true
      · right
        refine ⟨a, A, ?_, ?_⟩
        · rw [takeWhile_append_of_pos hA, takeWhile_append_of_pos fun x hx => (hX x hx).2]
        · rw [takeWhile_append_of_pos hA, takeWhile_append_of_pos fun y hy => (hY y hy).2]
      · left
        -- the block ends in front of the segment
        rw [takeWhile_append_of_not hA, takeWhile_append_of_not hA]

theorem takeWhile_append_takeWhile {p : α → Bool} (h : (X ++ B).takeWhile inside = []) :
    (X ++ B.takeWhile p).takeWhile inside = [] := by
  cases X with
  | cons x X =>
    cases hx : inside x with
    | true =>
      rw [List.cons_append, List.takeWhile_cons_of_pos hx] at h
      cases h
    | false => rw [List.cons_append, List.takeWhile_cons_of_neg (by simp [hx])]
  | nil =>
    cases B with
    | nil => rfl
    | cons b B =>
      rw [List.nil_append] at h ⊢
      rw [List.takeWhile_cons]
      split_ifs
      · cases hb : inside b with
        | true =>
          rw [List.takeWhile_cons_of_pos hb] at h
          cases h
        | false => exact List.takeWhile_cons_of_neg (by simp [hb])
      · rfl

/-- **The same for a block within a block.** The segment does not end the outer block. -/
theorem blockIn_patch (hX : ∀ x ∈ X, open_ x = false ∧ body x = true ∧ start x = false)
    (hY : ∀ y ∈ Y, open_ y = false ∧ body y = true ∧ start y = false)
    (hXB : (X ++ B).takeWhile inside = []) (hYB : (Y ++ B).takeWhile inside = []) :
    blockIn open_ body start inside (A ++ (X ++ B)) =
      blockIn open_ body start inside (A ++ (Y ++ B)) := by
  have hs := @blockAt_segment α open_ body A B X Y
    (fun x hx => ⟨(hX x hx).1, (hX x hx).2.1⟩) (fun y hy => ⟨(hY y hy).1, (hY y hy).2.1⟩)
  rcases hs with h | ⟨a, A', h, h'⟩
  · rw [blockIn, h, blockIn]
  · rw [blockIn, h, blockIn, h', Option.bind_some, Option.bind_some]
    exact blockAt_patch (fun x hx => (hX x hx).2.2) (fun y hy => (hY y hy).2.2)
      (takeWhile_append_takeWhile hXB) (takeWhile_append_takeWhile hYB)

theorem blockAt_append (hX : ∀ x ∈ X, start x = false) (h : X.takeWhile inside = []) :
    blockAt start inside (l ++ X) = blockAt start inside l := by
  have hp : blockAt start inside (l ++ (X ++ [])) = blockAt start inside (l ++ ([] ++ [])) :=
    blockAt_patch hX (fun _ hy => absurd hy List.not_mem_nil) (by rw [List.append_nil]; exact h) rfl
  rwa [List.append_nil, List.append_nil, List.append_nil] at hp

theorem blockIn_append (hX : ∀ x ∈ X, open_ x = false) (h : X.takeWhile body = []) :
    blockIn open_ body start inside (l ++ X) = blockIn open_ body start inside l := by
  rw [blockIn, blockAt_append hX h, blockIn]

theorem blockIn_eq_none_of_open (h : ∀ x ∈ l, open_ x = false) :
    blockIn open_ body start inside l = none := by
  rw [blockIn, blockAt_eq_none_iff.mpr h]
  rfl

theorem blockIn_eq_none_of_start (h : ∀ x ∈ l, start x = false) :
    blockIn open_ body start inside l = none := by
  rw [blockIn]
  cases hb : blockAt open_ body l with
  | none => rfl
  | some b =>
    obtain ⟨A, B, rfl, -⟩ := blockAt_eq_some hb
    refine blockAt_eq_none_iff.mpr fun x hx => h x ?_
    simp [hx]

theorem blockAt_map (f : α → α) (hs : ∀ x, start (f x) = start x)
    (hi : ∀ x, inside (f x) = inside x) (l : List α) :
    blockAt start inside (l.map f) =
      (blockAt start inside l).map fun b => (f b.1, b.2.map f) := by
  induction l with
  | nil => rfl
  | cons a l ih =>
    cases ha : start a with
    | true =>
      have hfa : start (f a) = true := (hs a).trans ha
      rw [List.map_cons, blockAt_cons_of_pos hfa, blockAt_cons_of_pos ha, Option.map_some,
        List.takeWhile_map]
      simp only [Function.comp_def, hi]
    | false =>
      have hfa : start (f a) = false := (hs a).trans ha
      rw [List.map_cons, blockAt_cons_of_neg hfa, blockAt_cons_of_neg ha, ih]

theorem blockIn_map (f : α → α) (ho : ∀ x, open_ (f x) = open_ x) (hb : ∀ x, body (f x) = body x)
    (hs : ∀ x, start (f x) = start x) (hi : ∀ x, inside (f x) = inside x) (l : List α) :
    blockIn open_ body start inside (l.map f) =
      (blockIn open_ body start inside l).map fun b => (f b.1, b.2.map f) := by
  rw [blockIn, blockAt_map f ho hb, blockIn]
  cases blockAt open_ body l with
  | none => rfl
  | some b => exact blockAt_map f hs hi b.2

section Last

variable {β : Type} {a' : α} (r : α → β)

/-- What a block holds, seen through a function. -/
def seen (b : Option (α × List α)) : Option (List β) := b.map fun b => (b.1 :: b.2).map r

theorem map_takeWhile_last (hi : inside a' = inside a) (hr : r a' = r a) :
    ((A ++ [a']).takeWhile inside).map r = ((A ++ [a]).takeWhile inside).map r := by
  induction A with
  | nil =>
    cases ha : inside a with
    | true => simp [ha, hi.trans ha, hr]
    | false => simp [ha, hi.trans ha]
  | cons c A ih =>
    rw [List.cons_append, List.cons_append, List.takeWhile_cons, List.takeWhile_cons]
    split_ifs
    · rw [List.map_cons, List.map_cons, ih]
    · rfl

/-- **Another last element of the same kind.** -/
theorem blockAt_last (hs : start a' = start a) (hi : inside a' = inside a) (hr : r a' = r a) :
    seen r (blockAt start inside (A ++ [a'])) = seen r (blockAt start inside (A ++ [a])) := by
  induction A with
  | nil =>
    cases ha : start a with
    | true =>
      have ha' := hs.trans ha
      rw [List.nil_append, List.nil_append, blockAt_cons_of_pos ha, blockAt_cons_of_pos ha']
      simp [seen, hr]
    | false =>
      have ha' := hs.trans ha
      rw [List.nil_append, List.nil_append, blockAt_cons_of_neg ha, blockAt_cons_of_neg ha']
  | cons c A ih =>
    cases hc : start c with
    | true =>
      rw [List.cons_append, List.cons_append, blockAt_cons_of_pos hc, blockAt_cons_of_pos hc]
      simp only [seen, Option.map_some, List.map_cons]
      rw [map_takeWhile_last r hi hr]
    | false =>
      rw [List.cons_append, List.cons_append, blockAt_cons_of_neg hc, blockAt_cons_of_neg hc, ih]

/-- A block in a block that does not start with the last element. -/
theorem blockIn_last (hb : body a' = body a) (hs : start a' = start a) (hi : inside a' = inside a)
    (hr : r a' = r a) (hsome : blockIn open_ body start inside (A ++ [a]) ≠ none) :
    seen r (blockIn open_ body start inside (A ++ [a'])) =
      seen r (blockIn open_ body start inside (A ++ [a])) := by
  induction A with
  | nil =>
    refine absurd ?_ hsome
    rw [blockIn]
    cases ha : open_ a with
    | true => rw [List.nil_append, blockAt_cons_of_pos ha]; rfl
    | false => rw [List.nil_append, blockAt_cons_of_neg ha]; rfl
  | cons c A ih =>
    cases hc : open_ c with
    | false =>
      rw [blockIn, List.cons_append, blockAt_cons_of_neg hc] at hsome
      rw [blockIn, blockIn, List.cons_append, List.cons_append, blockAt_cons_of_neg hc,
        blockAt_cons_of_neg hc]
      exact ih hsome
    | true =>
      rw [blockIn, blockIn, List.cons_append, List.cons_append, blockAt_cons_of_pos hc,
        blockAt_cons_of_pos hc, Option.bind_some, Option.bind_some]
      by_cases hA : ∀ x ∈ A, body x = true
      · rw [takeWhile_append_of_pos hA, takeWhile_append_of_pos hA]
        cases ha : body a with
        | true =>
          rw [List.takeWhile_cons_of_pos ha, List.takeWhile_cons_of_pos (hb.trans ha)]
          exact blockAt_last r hs hi hr
        | false =>
          have ha' := hb.trans ha
          rw [List.takeWhile_cons_of_neg (by simp [ha']), List.takeWhile_cons_of_neg (by simp [ha])]
      · rw [takeWhile_append_of_not hA, takeWhile_append_of_not hA]

end Last

end Lib
