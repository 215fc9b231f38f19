import Mathlib.Data.List.DropRight
import Mathlib.Data.List.TakeWhile

/-!
# Trimming

Blank elements at both ends of a list are dropped. The parts of a list that was cut into pieces may
have blanks of their own at the cuts, and these are lost when every piece is trimmed.

* `trim`, `Blank`: trimming, and lists that vanish;
* `trim_append`: two lists with something in them keep the blanks between them, the `gap`;
* `Tight`: no blanks at the cuts;
* `flatten_map_trim`, `tight_of_length_le`: **the trimmed pieces are the trimmed whole exactly when
  there are no blanks at the cuts**.
-/

set_option autoImplicit false

namespace Lib

variable {α : Type} (p : α → Bool)

/-- Drop the blanks at both ends. -/
def trim (l : List α) : List α := (l.dropWhile p).rdropWhile p

/-- There is nothing but blanks. -/
def Blank (l : List α) : Prop := ∀ a ∈ l, p a = true

instance (l : List α) : Decidable (Blank p l) := inferInstanceAs (Decidable (∀ a ∈ l, p a = true))

/-- The blanks at a cut. -/
def gap (a b : List α) : List α := a.rtakeWhile p ++ b.takeWhile p

variable {p} {a b l : List α}

theorem blank_append_iff : Blank p (a ++ b) ↔ Blank p a ∧ Blank p b := List.forall_mem_append

theorem trim_eq_nil_iff : trim p l = [] ↔ Blank p l := by
  rw [trim, List.rdropWhile_eq_nil_iff]
  refine ⟨fun h => ?_, fun h a ha => h a ((List.dropWhile_suffix p).subset ha)⟩
  rw [← List.takeWhile_append_dropWhile (p := p) (l := l), blank_append_iff]
  exact ⟨fun a ha => List.mem_takeWhile_imp ha, h⟩

theorem rdropWhile_append_of_blank (hb : Blank p b) :
    (a ++ b).rdropWhile p = a.rdropWhile p := by
  rw [List.rdropWhile, List.rdropWhile, List.reverse_append,
    List.dropWhile_append_of_pos fun c hc => hb c (List.mem_reverse.mp hc)]

theorem rdropWhile_append (hb : ¬ Blank p b) :
    (a ++ b).rdropWhile p = a ++ b.rdropWhile p := by
  rw [Blank, ← List.rdropWhile_eq_nil_iff, List.rdropWhile, List.reverse_eq_nil_iff] at hb
  rw [List.rdropWhile, List.rdropWhile, List.reverse_append, List.dropWhile_append, if_neg (by simpa using hb),
    List.reverse_append, List.reverse_reverse]

theorem dropWhile_append_of_blank (ha : Blank p a) : (a ++ b).dropWhile p = b.dropWhile p :=
  List.dropWhile_append_of_pos ha

theorem dropWhile_append_of_not_blank (ha : ¬ Blank p a) :
    (a ++ b).dropWhile p = a.dropWhile p ++ b := by
  have hne : ¬ (a.dropWhile p).isEmpty := by
    rw [List.isEmpty_iff, List.dropWhile_eq_nil_iff]
    exact ha
  rw [List.dropWhile_append, if_neg hne]

theorem not_blank_dropWhile (h : ¬ Blank p l) : ¬ Blank p (l.dropWhile p) :=
  fun hd => h (trim_eq_nil_iff.mp (List.rdropWhile_eq_nil_iff.mpr hd))

theorem rtakeWhile_dropWhile (h : ¬ Blank p l) : (l.dropWhile p).rtakeWhile p = l.rtakeWhile p := by
  have h1 := List.rdropWhile_append_rtakeWhile (p := p) (l := l)
  have h2 := List.rdropWhile_append_rtakeWhile (p := p) (l := l.dropWhile p)
  have h3 := List.takeWhile_append_dropWhile (p := p) (l := l)
  have h4 := rdropWhile_append (a := l.takeWhile p) (not_blank_dropWhile h)
  rw [h3] at h4
  have h5 : l.takeWhile p ++ ((l.dropWhile p).rdropWhile p ++ (l.dropWhile p).rtakeWhile p) =
      l.takeWhile p ++ ((l.dropWhile p).rdropWhile p ++ l.rtakeWhile p) := by
    rw [h2, h3, ← List.append_assoc, ← h4, h1]
  exact List.append_cancel_left (List.append_cancel_left h5)

/-- **Trimming two lists.** The blanks between them stay. -/
theorem trim_append (ha : ¬ Blank p a) (hb : ¬ Blank p b) :
    trim p (a ++ b) = trim p a ++ (gap p a b ++ trim p b) := by
  have hend := rdropWhile_append (a := b.takeWhile p) (not_blank_dropWhile hb)
  rw [List.takeWhile_append_dropWhile] at hend
  have hstart : a.dropWhile p = trim p a ++ a.rtakeWhile p := by
    rw [← rtakeWhile_dropWhile ha]
    exact (List.rdropWhile_append_rtakeWhile).symm
  rw [trim, dropWhile_append_of_not_blank ha, rdropWhile_append hb, hend, hstart, gap, trim, trim]
  simp only [List.append_assoc]

theorem trim_append_of_blank_left (ha : Blank p a) : trim p (a ++ b) = trim p b := by
  rw [trim, dropWhile_append_of_blank ha, trim]

theorem trim_append_of_blank_right (hb : Blank p b) : trim p (a ++ b) = trim p a := by
  by_cases ha : Blank p a
  · rw [trim_eq_nil_iff.mpr (blank_append_iff.mpr ⟨ha, hb⟩), trim_eq_nil_iff.mpr ha]
  · rw [trim, dropWhile_append_of_not_blank ha, rdropWhile_append_of_blank hb, trim]

theorem trim_trim (l : List α) : trim p (trim p l) = trim p l := by
  by_cases h : Blank p l
  · rw [trim_eq_nil_iff.mpr h]
    rfl
  · have hparts : trim p l ++ l.rtakeWhile p = l.dropWhile p := by
      rw [← rtakeWhile_dropWhile h]
      exact List.rdropWhile_append_rtakeWhile
    have hblank : Blank p (l.rtakeWhile p) := fun _ hc => List.mem_rtakeWhile_imp hc
    have hdrop : trim p (l.dropWhile p) = trim p l := by
      rw [trim, List.dropWhile_idempotent, trim]
    rwa [← hparts, trim_append_of_blank_right hblank] at hdrop

/-- There are no blanks at the cuts between pieces that have something in them. -/
def Tight (p : α → Bool) (fs : List (List α)) : Prop :=
  ∀ A f B, fs = A ++ f :: B → ¬ Blank p f → ¬ Blank p B.flatten → gap p f B.flatten = []

theorem tight_cons_iff {f : List α} {fs : List (List α)} : Tight p (f :: fs) ↔
    (¬ Blank p f → ¬ Blank p fs.flatten → gap p f fs.flatten = []) ∧ Tight p fs := by
  constructor
  · intro h
    exact ⟨h [] f fs rfl, fun A g B hs => h (f :: A) g B (by rw [hs]; rfl)⟩
  · rintro ⟨h, ht⟩ A g B hs
    cases A with
    | nil =>
      rw [List.nil_append, List.cons.injEq] at hs
      obtain ⟨rfl, rfl⟩ := hs
      exact h
    | cons a A =>
      rw [List.cons_append, List.cons.injEq] at hs
      exact ht A g B hs.2

/-- **Pieces without blanks at the cuts.** -/
theorem flatten_map_trim {fs : List (List α)} (h : Tight p fs) :
    (fs.map (trim p)).flatten = trim p fs.flatten := by
  induction fs with
  | nil => rfl
  | cons f fs ih =>
    rw [tight_cons_iff] at h
    rw [List.map_cons, List.flatten_cons, List.flatten_cons, ih h.2]
    by_cases hf : Blank p f
    · rw [trim_append_of_blank_left hf, trim_eq_nil_iff.mpr hf, List.nil_append]
    · by_cases hr : Blank p fs.flatten
      · rw [trim_append_of_blank_right hr, trim_eq_nil_iff.mpr hr, List.append_nil]
      · rw [trim_append hf hr, h.1 hf hr, List.nil_append]

theorem length_flatten_map_trim_le (fs : List (List α)) :
    (fs.map (trim p)).flatten.length ≤ (trim p fs.flatten).length := by
  induction fs with
  | nil => exact le_rfl
  | cons f fs ih =>
    rw [List.map_cons, List.flatten_cons, List.flatten_cons, List.length_append]
    by_cases hf : Blank p f
    · rw [trim_append_of_blank_left hf, trim_eq_nil_iff.mpr hf, List.length_nil]
      omega
    · by_cases hr : Blank p fs.flatten
      · rw [trim_append_of_blank_right hr]
        rw [trim_eq_nil_iff.mpr hr, List.length_nil] at ih
        omega
      · rw [trim_append hf hr, List.length_append, List.length_append]
        omega

/-- **If nothing is lost there are no blanks at the cuts.** -/
theorem tight_of_length_le {fs : List (List α)}
    (h : (trim p fs.flatten).length ≤ (fs.map (trim p)).flatten.length) : Tight p fs := by
  induction fs with
  | nil => exact fun A f B hs => absurd hs (by simp)
  | cons f fs ih =>
    have hle := length_flatten_map_trim_le (p := p) fs
    rw [List.map_cons, List.flatten_cons, List.flatten_cons, List.length_append] at h
    rw [tight_cons_iff]
    by_cases hf : Blank p f
    · rw [trim_append_of_blank_left hf, trim_eq_nil_iff.mpr hf, List.length_nil] at h
      exact ⟨fun hn => absurd hf hn, ih (by omega)⟩
    · by_cases hr : Blank p fs.flatten
      · refine ⟨fun _ hn => absurd hr hn, ih ?_⟩
        rw [trim_eq_nil_iff.mpr hr]
        exact Nat.zero_le _
      · rw [trim_append hf hr, List.length_append, List.length_append] at h
        refine ⟨fun _ _ => List.eq_nil_of_length_eq_zero (by omega), ih (by omega)⟩

theorem ends_of_trimmed (h : trim p l = l) : l.takeWhile p = [] ∧ l.rtakeWhile p = [] := by
  have h1 := congrArg List.length (List.takeWhile_append_dropWhile (p := p) (l := l))
  have h2 := congrArg List.length
    (List.rdropWhile_append_rtakeWhile (p := p) (l := l.dropWhile p))
  have h3 := congrArg List.length h
  have h4 := congrArg List.length (List.rdropWhile_append_rtakeWhile (p := p) (l := l))
  rw [List.length_append] at h1 h2 h4
  rw [trim] at h3
  have hstart : l.takeWhile p = [] := List.eq_nil_of_length_eq_zero (by omega)
  have hdrop : l.dropWhile p = l := by
    have he := List.takeWhile_append_dropWhile (p := p) (l := l)
    rwa [hstart, List.nil_append] at he
  rw [hdrop] at h3
  exact ⟨hstart, List.eq_nil_of_length_eq_zero (by omega)⟩

/-- Trimmed pieces that are not empty make a trimmed list. -/
theorem trim_flatten_of_trimmed {fs : List (List α)} (h : ∀ f ∈ fs, trim p f = f ∧ f ≠ []) :
    trim p fs.flatten = fs.flatten := by
  have hmap : fs.map (trim p) = fs := by
    refine (List.map_congr_left fun f hf => (h f hf).1).trans (List.map_id _)
  rw [← flatten_map_trim, hmap]
  rintro A f B rfl - hB
  have hf := (ends_of_trimmed (h f (by simp)).1).2
  cases B with
  | nil => exact absurd (fun _ ha => absurd ha List.not_mem_nil) hB
  | cons b B =>
    obtain ⟨hb, hne⟩ := h b (by simp)
    rw [gap, hf, List.nil_append, List.flatten_cons]
    cases b with
    | nil => exact absurd rfl hne
    | cons c b =>
      have hc := (ends_of_trimmed hb).1
      cases hpc : p c with
      | true =>
        rw [List.takeWhile_cons_of_pos hpc] at hc
        cases hc
      | false => exact List.takeWhile_cons_of_neg (by simp [hpc])

end Lib
