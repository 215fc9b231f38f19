import Mathlib.Data.List.Chain
import Mathlib.Data.List.TakeWhile
import QuantarBridge.Dashboard.ConfigEditor

/-!
# Texts and their lines

A text is the concatenation of its lines, and a list of lines is that of its text when every line
but the last one ends, and a carriage return is not followed by a newline of the next line.

* `Ended`, `Open`, `Follows`, `IsLines`: lines, and lists of lines;
* `isLines_splitlines`, `splitlines_flatten`: **the lists of lines are those of the texts**;
* `Unix`, `keepLines_eq`: newlines as the only ends of lines;
* `map_dropEnd_universalNewlines`: reading a text with every end as a newline.
-/

set_option autoImplicit false

namespace Dashboard

open Sync (Text isSpace keepLines)

theorem isSpace_of_endsLine {c : Char} (h : endsLine c = true) : isSpace c = true := by
  simp only [endsLine, isSpace, List.mem_cons, List.not_mem_nil, decide_eq_true_eq, or_false]
    at h ⊢
  tauto

/-- The line has an end, and only there. -/
def Ended (l : Text) : Prop :=
  ∃ b e, l = b ++ e ∧ (∀ c ∈ b, endsLine c = false) ∧ (e = crlf ∨ ∃ c, endsLine c = true ∧ e = [c])

/-- The line has no end. -/
def Open (l : Text) : Prop := l ≠ [] ∧ ∀ c ∈ l, endsLine c = false

/-- A line and the next one. -/
def Follows (l l' : Text) : Prop := Ended l ∧ ¬ (l.getLast? = some '\r' ∧ l'.head? = some '\n')

/-- The lines of a text. -/
def IsLines (ls : List Text) : Prop := (∀ l ∈ ls, Ended l ∨ Open l) ∧ ls.IsChain Follows

theorem Ended.ne_nil {l : Text} (h : Ended l) : l ≠ [] := by
  obtain ⟨b, e, rfl, -, rfl | ⟨c, -, rfl⟩⟩ := h <;> simp [crlf]

theorem Ended.cons {l : Text} {c : Char} (h : Ended l) (hc : endsLine c = false) :
    Ended (c :: l) := by
  obtain ⟨b, e, rfl, hb, he⟩ := h
  exact ⟨c :: b, e, rfl, List.forall_mem_cons.mpr ⟨hc, hb⟩, he⟩

theorem splitlines_cons_of_ends {c : Char} (hc : endsLine c = true) {text : Text}
    (h : ¬ (c = '\r' ∧ text.head? = some '\n')) : splitlines (c :: text) = [c] :: splitlines text := by
  rw [splitlines, if_pos hc]
  intro text' hr ht
  exact h ⟨hr, by rw [ht]; rfl⟩

theorem splitlines_cons_of_not {c : Char} (hc : endsLine c = false) (text : Text) :
    splitlines (c :: text) = match splitlines text with
      | [] => [[c]]
      | line :: lines => (c :: line) :: lines := by
  have hr : ∀ text', c = '\r' → text = '\n' :: text' → False := by
    intro text' hr _
    rw [hr] at hc
    cases hc
  cases h : splitlines text <;> rw [splitlines.eq_3 c text hr, if_neg (by simp [hc]), h]

theorem flatten_splitlines (text : Text) : (splitlines text).flatten = text := by
  fun_induction splitlines text with
  | case1 => rfl
  | case2 text ih => rw [List.flatten_cons, ih]; rfl
  | case3 c text _ _ ih => rw [List.flatten_cons, ih]; rfl
  | case4 c text _ _ hl ih =>
    rw [hl] at ih
    rw [← ih]
    rfl
  | case5 c text _ _ line lines hl ih =>
    rw [hl, List.flatten_cons] at ih
    rw [← ih]
    rfl

theorem isLines_splitlines (text : Text) : IsLines (splitlines text) := by
  fun_induction splitlines text with
  | case1 => exact ⟨fun _ h => absurd h List.not_mem_nil, List.isChain_nil⟩
  | case2 text ih =>
    have he : Ended ['\r', '\n'] := ⟨[], crlf, rfl, fun _ h => absurd h List.not_mem_nil, Or.inl rfl⟩
    refine ⟨List.forall_mem_cons.mpr ⟨Or.inl he, ih.1⟩, List.isChain_cons.mpr ⟨fun l _ => ?_, ih.2⟩⟩
    exact ⟨he, fun h => nomatch h.1⟩
  | case3 c text hno hc ih =>
    have he : Ended [c] := ⟨[], [c], rfl, fun _ h => absurd h List.not_mem_nil, Or.inr ⟨c, hc, rfl⟩⟩
    refine ⟨List.forall_mem_cons.mpr ⟨Or.inl he, ih.1⟩, List.isChain_cons.mpr ⟨fun l hl => ?_, ih.2⟩⟩
    refine ⟨he, fun ⟨hr, hn⟩ => ?_⟩
    have hc : c = '\r' := by simpa using hr
    -- the next line starts where the text goes on
    have hhead : text.head? = some '\n' := by
      have hf := flatten_splitlines text
      cases hs : splitlines text with
      | nil => rw [hs] at hl; cases hl
      | cons l' ls =>
        rw [hs] at hl hf
        cases hl
        rw [← hf, List.flatten_cons, List.head?_append, hn]
        rfl
    cases text with
    | nil => cases hhead
    | cons d text =>
      rw [List.head?_cons, Option.some.injEq] at hhead
      exact hno text hc (by rw [hhead])
  | case4 c text _ hc hl ih =>
    refine ⟨List.forall_mem_singleton.mpr (Or.inr ⟨List.cons_ne_nil _ _, ?_⟩), List.isChain_singleton _⟩
    exact List.forall_mem_singleton.mpr (by simpa using hc)
  | case5 c text _ hc line lines hl ih =>
    rw [hl] at ih
    have hc : endsLine c = false := by simpa using hc
    obtain ⟨hall, hchain⟩ := ih
    rw [List.forall_mem_cons] at hall
    rw [List.isChain_cons] at hchain
    refine ⟨List.forall_mem_cons.mpr ⟨hall.1.imp (fun h => h.cons hc) ?_, hall.2⟩,
      List.isChain_cons.mpr ⟨fun l hl => ?_, hchain.2⟩⟩
    · exact fun ⟨_, h⟩ => ⟨List.cons_ne_nil _ _, List.forall_mem_cons.mpr ⟨hc, h⟩⟩
    · obtain ⟨he, hn⟩ := hchain.1 l hl
      refine ⟨he.cons hc, fun ⟨hr, h⟩ => hn ⟨?_, h⟩⟩
      cases line with
      | nil => exact absurd rfl he.ne_nil
      | cons d line => rwa [List.getLast?_cons_cons] at hr

theorem splitlines_append_of_ended {l : Text} (h : Ended l) {rest : Text}
    (hr : ¬ (l.getLast? = some '\r' ∧ rest.head? = some '\n')) :
    splitlines (l ++ rest) = l :: splitlines rest := by
  obtain ⟨b, e, rfl, hb, he⟩ := h
  induction b with
  | nil =>
    rcases he with rfl | ⟨c, hc, rfl⟩
    · rfl
    · refine splitlines_cons_of_ends hc fun ⟨h, h'⟩ => hr ⟨?_, h'⟩
      rw [h]
      rfl
  | cons c b ih =>
    rw [List.forall_mem_cons] at hb
    have hne : b ++ e ≠ [] := by
      rcases he with rfl | ⟨d, -, rfl⟩ <;> simp [crlf]
    have ih := ih (fun ⟨h, h'⟩ => hr ⟨by
      rw [List.cons_append, List.getLast?_cons, h]
      rfl, h'⟩) hb.2
    rw [List.cons_append, List.cons_append, splitlines_cons_of_not hb.1, ih]

/-- **The lines of the text of a list of lines.** -/
theorem splitlines_flatten {ls : List Text} (h : IsLines ls) : splitlines ls.flatten = ls := by
  obtain ⟨hall, hchain⟩ := h
  induction ls with
  | nil => rfl
  | cons l ls ih =>
    rw [List.forall_mem_cons] at hall
    rw [List.isChain_cons] at hchain
    have ih := ih hall.2 hchain.2
    cases ls with
    | nil =>
      rw [List.flatten_singleton]
      rcases hall.1 with he | ⟨hne, ho⟩
      · have hl : splitlines (l ++ []) = l :: splitlines [] :=
          splitlines_append_of_ended he fun h => nomatch h.2
        rwa [List.append_nil] at hl
      · -- a line without an end
        clear ih hchain hall
        induction l with
        | nil => exact absurd rfl hne
        | cons c l ih =>
          rw [List.forall_mem_cons] at ho
          rw [splitlines_cons_of_not ho.1]
          cases l with
          | nil => rfl
          | cons d l => rw [ih (List.cons_ne_nil _ _) ho.2]
    | cons l' ls =>
      obtain ⟨he, hn⟩ := hchain.1 l' rfl
      rw [List.flatten_cons, splitlines_append_of_ended he, ih]
      refine fun ⟨hr, h⟩ => hn ⟨hr, ?_⟩
      have hne : l' ≠ [] := by
        rcases hall.2 l' List.mem_cons_self with h | h
        · exact h.ne_nil
        · exact h.1
      cases l' with
      | nil => exact absurd rfl hne
      | cons c l' => exact h

theorem isLines_append_iff (A B : List Text) : IsLines (A ++ B) ↔
    IsLines A ∧ IsLines B ∧ ∀ l ∈ A.getLast?, ∀ l' ∈ B.head?, Follows l l' := by
  rw [IsLines, List.isChain_append, List.forall_mem_append]
  constructor
  · rintro ⟨⟨hA, hB⟩, cA, cB, hAB⟩
    exact ⟨⟨hA, cA⟩, ⟨hB, cB⟩, hAB⟩
  · rintro ⟨⟨hA, cA⟩, ⟨hB, cB⟩, hAB⟩
    exact ⟨⟨hA, hB⟩, cA, cB, hAB⟩

/-- A line as the editors write it: it is indented and ends in a newline. -/
def Fresh (l : Text) : Prop := Ended l ∧ l.getLast? = some '\n' ∧ l.head? = some ' '

theorem Fresh.follows {l : Text} (h : Fresh l) (l' : Text) : Follows l l' := by
  refine ⟨h.1, fun ⟨hr, _⟩ => ?_⟩
  rw [h.2.1] at hr
  cases hr

theorem Fresh.follows_of_ended {l l' : Text} (h : Fresh l') (hl : Ended l) : Follows l l' := by
  refine ⟨hl, fun ⟨_, hn⟩ => ?_⟩
  rw [h.2.2] at hn
  cases hn

theorem isLines_of_fresh {ls : List Text} (h : ∀ l ∈ ls, Fresh l) : IsLines ls := by
  refine ⟨fun l hl => Or.inl (h l hl).1, ?_⟩
  induction ls with
  | nil => exact List.isChain_nil
  | cons l ls ih =>
    rw [List.forall_mem_cons] at h
    exact List.isChain_cons.mpr ⟨fun l' _ => h.1.follows l', ih h.2⟩

/-- The last line has an end. -/
def LastEnded (ls : List Text) : Prop := ∀ l ∈ ls.getLast?, Ended l

theorem lastEnded_of_append {A B : List Text} (h : IsLines (A ++ B)) (hB : B ≠ []) :
    LastEnded A := by
  intro l hl
  cases B with
  | nil => exact absurd rfl hB
  | cons b B => exact (((isLines_append_iff A (b :: B)).mp h).2.2 l hl b rfl).1

/-- **Replacing lines by fresh ones.** -/
theorem IsLines.replace {A X B Y : List Text} (h : IsLines (A ++ (X ++ B))) (hA : LastEnded A)
    (hY : ∀ l ∈ Y, Fresh l) (hne : Y ≠ []) : IsLines (A ++ (Y ++ B)) := by
  have hAXB := (isLines_append_iff _ _).mp h
  have hXB := (isLines_append_iff _ _).mp hAXB.2.1
  refine (isLines_append_iff _ _).mpr ⟨hAXB.1, (isLines_append_iff _ _).mpr
    ⟨isLines_of_fresh hY, hXB.2.1, fun l hl l' _ => ?_⟩, fun l hl l' hl' => ?_⟩
  · exact (hY l (List.mem_of_getLast? hl)).follows l'
  · cases Y with
    | nil => exact absurd rfl hne
    | cons y Y =>
      cases hl'
      exact (hY l' List.mem_cons_self).follows_of_ended (hA l hl)

/-- Newlines are the only ends of lines. -/
def Unix (text : Text) : Prop := ∀ c ∈ text, endsLine c = true → c = '\n'

instance (text : Text) : Decidable (Unix text) :=
  List.decidableBAll (fun c => endsLine c = true → c = '\n') text

theorem unix_flatten_iff (ls : List Text) : Unix ls.flatten ↔ ∀ l ∈ ls, Unix l := by
  simp only [Unix, List.mem_flatten, forall_exists_index, and_imp]
  exact ⟨fun h l hl c hc => h c l hl hc, fun h c l hl hc => h l hl c hc⟩

theorem keepLines_eq {text : Text} (h : Unix text) : keepLines text = splitlines text := by
  induction text with
  | nil => rfl
  | cons c text ih =>
    rw [Unix, List.forall_mem_cons] at h
    have ih := ih h.2
    rw [keepLines]
    split_ifs with hc
    · rw [hc, splitlines_cons_of_ends (by decide) (fun h => by cases h.1), ih]
    · have hc : endsLine c = false := by
        cases he : endsLine c with
        | false => rfl
        | true => exact absurd (h.1 he) hc
      cases h : splitlines text <;> rw [ih, splitlines_cons_of_not hc, h]

theorem dropEnd_append (l : Text) {e : Text} (h : ∀ c ∈ e, isEnd c = true) :
    dropEnd (l ++ e) = dropEnd l := by
  rw [dropEnd, dropEnd, List.reverse_append]
  congr 1
  exact List.dropWhile_append_of_pos fun c hc => h c (List.mem_reverse.mp hc)

theorem dropEnd_cons {c : Char} (hc : isEnd c = false) (l : Text) :
    dropEnd (c :: l) = c :: dropEnd l := by
  rw [dropEnd, dropEnd, List.reverse_cons, List.dropWhile_append]
  split_ifs with h
  · rw [List.isEmpty_iff] at h
    rw [h, List.dropWhile_cons_of_neg (by simp [hc])]
    rfl
  · rw [List.reverse_append]
    rfl

theorem exists_dropEnd (l : Text) : ∃ e, l = dropEnd l ++ e ∧ ∀ c ∈ e, isEnd c = true := by
  refine ⟨(l.reverse.takeWhile isEnd).reverse, ?_, fun c hc => ?_⟩
  · rw [dropEnd, ← List.reverse_append, List.takeWhile_append_dropWhile, List.reverse_reverse]
  · exact List.mem_takeWhile_imp (List.mem_reverse.mp hc)

theorem carriageReturn_notMem_universalNewlines (text : Text) : '\r' ∉ universalNewlines text := by
  fun_induction universalNewlines text with
  | case1 => exact List.not_mem_nil
  | case2 text ih =>
    rw [List.mem_cons, not_or]
    exact ⟨by decide, ih⟩
  | case3 c text _ ih =>
    rw [List.mem_cons, not_or]
    refine ⟨fun h => ?_, ih⟩
    split_ifs at h with hc
    · exact absurd h (by decide)
    · exact hc h.symm

theorem universalNewlines_of_unix {text : Text} (h : Unix text) : universalNewlines text = text := by
  fun_induction universalNewlines text with
  | case1 => rfl
  | case2 text ih => exact absurd (h '\r' List.mem_cons_self rfl) (by decide)
  | case3 c text _ ih =>
    rw [Unix, List.forall_mem_cons] at h
    rw [ih h.2, if_neg]
    rintro rfl
    exact absurd (h.1 rfl) (by decide)

/-- **Reading every end as a newline.** The lines differ in their ends only. -/
theorem map_dropEnd_universalNewlines (text : Text) :
    (splitlines (universalNewlines text)).map dropEnd = (splitlines text).map dropEnd := by
  fun_induction universalNewlines text with
  | case1 => rfl
  | case2 text ih =>
    rw [splitlines_cons_of_ends (by decide) (fun h => by cases h.1), splitlines, List.map_cons,
      List.map_cons, ih]
    rfl
  | case3 c text hno ih =>
    cases hc : endsLine c with
    | true =>
      have hold : ¬ (c = '\r' ∧ text.head? = some '\n') := by
        rintro ⟨hr, hh⟩
        cases text with
        | nil => cases hh
        | cons d text =>
          rw [List.head?_cons, Option.some.injEq] at hh
          exact hno text hr (by rw [hh])
      rw [splitlines_cons_of_ends hc hold, List.map_cons]
      split_ifs with hr
      · rw [hr, splitlines_cons_of_ends (by decide) (fun h => by cases h.1), List.map_cons, ih]
        rfl
      · rw [splitlines_cons_of_ends hc fun h => hr h.1, List.map_cons, ih]
    | false =>
      have hr : c ≠ '\r' := by
        rintro rfl
        cases hc
      have hend : isEnd c = false := by
        cases he : isEnd c with
        | false => rfl
        | true =>
          rw [isEnd, decide_eq_true_eq] at he
          rcases he with rfl | rfl <;> cases hc
      rw [if_neg hr, splitlines_cons_of_not hc, splitlines_cons_of_not hc]
      revert ih
      cases splitlines (universalNewlines text) with
      | nil =>
        cases splitlines text with
        | nil => exact fun _ => rfl
        | cons l ls => exact fun h => by cases h
      | cons l ls =>
        cases splitlines text with
        | nil => exact fun h => by cases h
        | cons l' ls' =>
          intro ih
          rw [List.map_cons, List.map_cons, List.cons.injEq] at ih
          simp only [List.map_cons, dropEnd_cons hend, ih.1, ih.2]

/-- **A newline ends a line**, whatever follows. -/
theorem splitlines_append {a b : Text} (ha : a.getLast? = some '\n') :
    splitlines (a ++ b) = splitlines a ++ splitlines b := by
  have hlast : ∀ l ∈ (splitlines a).getLast?, l.getLast? = some '\n' := by
    intro l hl
    have hf := flatten_splitlines a
    obtain ⟨ls, hls⟩ := List.getLast?_eq_some_iff.mp hl
    rw [hls, List.flatten_append, List.flatten_singleton] at hf
    have hne : l ≠ [] := by
      have hmem : l ∈ splitlines a := List.mem_of_getLast? hl
      rcases (isLines_splitlines a).1 l hmem with h | h
      · exact h.ne_nil
      · exact h.1
    rw [← hf, List.getLast?_append] at ha
    cases hx : l.getLast? with
    | none => exact absurd (List.getLast?_eq_none_iff.mp hx) hne
    | some x =>
      rw [hx] at ha
      exact ha
  have hlines : IsLines (splitlines a ++ splitlines b) := by
    refine (isLines_append_iff _ _).mpr ⟨isLines_splitlines a, isLines_splitlines b, ?_⟩
    intro l hl l' _
    have hn := hlast l hl
    refine ⟨?_, fun ⟨hr, _⟩ => ?_⟩
    · rcases (isLines_splitlines a).1 l (List.mem_of_getLast? hl) with h | h
      · exact h
      · have hopen := h.2 '\n' (List.mem_of_getLast? hn)
        cases hopen
    · rw [hn] at hr
      cases hr
  have h := splitlines_flatten hlines
  rwa [List.flatten_append, flatten_splitlines, flatten_splitlines] at h

end Dashboard
