import QuantarBridge.Lib.Block
import QuantarBridge.Sync.RuntimeConfig

/-!
# The update by its parts

The synchronisation splits a text at its newlines, replaces the first block of static talkgroups and
puts the lines together again.

* `splitBlock_some`, `splitBlock_of_parts`: the lines around the block;
* `formatStaticTalkgroupsBlock_kind`: the block that is written;
* `Terminated`, `IsKept`, `isKept_append_iff`: lines with their newlines;
* `addedMappings_block`: whether the key of the mappings is missing does not depend on the block;
* `updateText_parts`: **the update**.
-/

set_option autoImplicit false

namespace Sync

open Lib (takeWhile_append_of_pos)
open Dashboard (Fresh Unix blanks endsLine fresh_append isKeyLine isKeyLine_iff isValue_toDigits)

/-! ## The block of static talkgroups -/

theorem toList_of {P : Text → Prop} {s : String} {l : Text} (hs : s = String.ofList l) (h : P l) :
    P s.toList := by
  rw [hs, String.toList_ofList]
  exact h

section Block

variable {ls before block after : List Text}

/-- **The parts of a text around the block of static talkgroups.** -/
theorem splitBlock_some (h : splitBlock ls = some (before, block, after)) :
    ∃ header items, block = header :: items ∧ ls = before ++ (block ++ after) ∧
      (∀ l ∈ before, opensBlock l = false) ∧ opensBlock header = true ∧
      (∀ l ∈ items, isItem l = true) ∧ after.takeWhile isItem = [] := by
  rw [splitBlock] at h
  cases hd : ls.dropWhile fun l => !opensBlock l with
  | nil =>
    rw [hd] at h
    cases h
  | cons header rest =>
    rw [hd] at h
    cases h
    have hheader : opensBlock header = true := by
      have hh := List.head?_dropWhile_not (fun l => !opensBlock l) ls
      rw [hd] at hh
      simpa using hh
    refine ⟨header, _, rfl, ?_, fun l hl => ?_, hheader, fun l hl => List.mem_takeWhile_imp hl, ?_⟩
    · rw [List.cons_append, List.takeWhile_append_dropWhile, ← hd, List.takeWhile_append_dropWhile]
    · simpa using List.mem_takeWhile_imp hl
    · cases hr : rest.dropWhile isItem with
      | nil => rfl
      | cons l _ =>
        have hh := List.head?_dropWhile_not isItem rest
        rw [hr] at hh
        exact List.takeWhile_cons_of_neg (by simpa using hh)

theorem splitBlock_of_parts {header : Text} {items : List Text}
    (hb : ∀ l ∈ before, opensBlock l = false) (hh : opensBlock header = true)
    (hi : ∀ l ∈ items, isItem l = true) (ha : after.takeWhile isItem = []) :
    splitBlock (before ++ (header :: items ++ after)) = some (before, header :: items, after) := by
  have hneg : ¬ (!opensBlock header) = true := by simp [hh]
  have hdrop : (before ++ (header :: items ++ after)).dropWhile (fun l => !opensBlock l) =
      header :: (items ++ after) := by
    rw [List.dropWhile_append_of_pos fun l hl => by rw [hb l hl]; rfl, List.cons_append,
      List.dropWhile_cons_of_neg (p := fun l => !opensBlock l) hneg]
  have htake : (before ++ (header :: items ++ after)).takeWhile (fun l => !opensBlock l) =
      before := by
    rw [takeWhile_append_of_pos fun l hl => by rw [hb l hl]; rfl, List.cons_append,
      List.takeWhile_cons_of_neg (p := fun l => !opensBlock l) hneg, List.append_nil]
  have hitems : (items ++ after).takeWhile isItem = items := by
    rw [takeWhile_append_of_pos hi, ha, List.append_nil]
  have hafter : (items ++ after).dropWhile isItem = after := by
    rw [List.dropWhile_append_of_pos hi]
    cases after with
    | nil => rfl
    | cons l after =>
      refine List.dropWhile_cons_of_neg fun hl => ?_
      rw [List.takeWhile_cons_of_pos hl] at ha
      cases ha
  rw [splitBlock, hdrop]
  simp only [htake, hitems, hafter]

end Block

theorem line_eq (s : String) : line s = s.toList ++ ['\n'] := by
  rw [line, String.toList_append]
  exact congrArg _ (toList_of (P := fun t => t = ['\n']) rfl rfl)

theorem written_line {s : String} (h : ∀ c ∈ s.toList, endsLine c = false)
    (hs : s.toList.head? = some ' ') : Fresh (line s) ∧ Unix (line s) := by
  rw [line_eq]
  refine ⟨fresh_append h hs (Or.inr rfl), fun c hc he => ?_⟩
  rcases List.mem_append.mp hc with hc | hc
  · rw [h c hc] at he
    cases he
  · exact List.mem_singleton.mp hc

/-- **The block that the synchronisation writes.** -/
theorem formatStaticTalkgroupsBlock_kind (tgs : List ℕ) :
    ∃ header items, formatStaticTalkgroupsBlock tgs = header :: items ∧ opensBlock header = true ∧
      (∀ l ∈ items, isItem l = true) ∧ ∀ l ∈ header :: items, Fresh l ∧ Unix l := by
  cases tgs with
  | nil =>
    refine ⟨_, [], rfl, by decide, fun _ h => absurd h List.not_mem_nil, ?_⟩
    exact List.forall_mem_singleton.mpr (written_line (by decide) (by decide))
  | cons tg tgs =>
    refine ⟨_, _, rfl, by decide, fun l hl => ?_, List.forall_mem_cons.mpr
      ⟨written_line (by decide) (by decide), fun l hl => ?_⟩⟩
    · obtain ⟨n, -, rfl⟩ := List.mem_map.mp hl
      rw [line_eq, String.toList_append]
      exact toList_of (P := fun t => isItem (t ++ (toString n).toList ++ ['\n']) = true) rfl rfl
    · obtain ⟨n, -, rfl⟩ := List.mem_map.mp hl
      refine written_line ?_ ?_
      · rw [String.toList_append]
        refine List.forall_mem_append.mpr ⟨by decide, ?_⟩
        have h : (toString n).toList = Nat.toDigits 10 n := Nat.toList_repr
        rw [h]
        exact (isValue_toDigits n).1
      · rw [String.toList_append]
        exact toList_of (P := fun t => (t ++ (toString n).toList).head? = some ' ') rfl rfl

/-! ## Lines with their newlines -/

/-- A line that ends in a newline. -/
def Terminated (l : Text) : Prop := ∃ b, l = b ++ ['\n'] ∧ '\n' ∉ b

theorem keepLines_terminated {b : Text} (hb : '\n' ∉ b) (text : Text) :
    keepLines (b ++ '\n' :: text) = (b ++ ['\n']) :: keepLines text := by
  induction b with
  | nil => rw [List.nil_append, keepLines, if_pos rfl]; rfl
  | cons c b ih =>
    rw [List.mem_cons, not_or] at hb
    obtain ⟨hc, hb⟩ := hb
    rw [List.cons_append, keepLines, if_neg (Ne.symm hc), ih hb]
    rfl

theorem keepLines_open {b : Text} (hb : '\n' ∉ b) (hne : b ≠ []) : keepLines b = [b] := by
  induction b with
  | nil => exact absurd rfl hne
  | cons c b ih =>
    rw [List.mem_cons, not_or] at hb
    obtain ⟨hc, hb⟩ := hb
    rw [keepLines, if_neg (Ne.symm hc)]
    cases b with
    | nil => rfl
    | cons d b => rw [ih hb (List.cons_ne_nil _ _)]

theorem keepLines_lines {ls : List Text} (h : ∀ l ∈ ls, Terminated l) (text : Text) :
    keepLines (ls.flatten ++ text) = ls ++ keepLines text := by
  induction ls with
  | nil => rfl
  | cons l ls ih =>
    obtain ⟨⟨b, rfl, hb⟩, hls⟩ := List.forall_mem_cons.mp h
    rw [List.flatten_cons, List.append_assoc, List.append_assoc, List.singleton_append,
      keepLines_terminated hb, ih hls]
    rfl

theorem keepLines_cases (text : Text) : text = [] ∨ (text ≠ [] ∧ '\n' ∉ text) ∨
    ∃ b rest, '\n' ∉ b ∧ text = b ++ '\n' :: rest := by
  by_cases h : '\n' ∈ text
  · obtain ⟨b, rest, rfl, hb⟩ := List.eq_append_cons_of_mem h
    exact Or.inr (Or.inr ⟨b, rest, hb, rfl⟩)
  · rcases eq_or_ne text [] with rfl | hne
    · exact Or.inl rfl
    · exact Or.inr (Or.inl ⟨hne, h⟩)

theorem flatten_keepLines (text : Text) : (keepLines text).flatten = text := by
  induction text with
  | nil => rfl
  | cons c text ih =>
    rw [keepLines]
    split_ifs with hc
    · rw [List.flatten_cons, ih]
      rfl
    · cases hl : keepLines text with
      | nil =>
        rw [hl] at ih
        rw [← ih]
        rfl
      | cons l ls =>
        rw [hl] at ih
        rw [← ih]
        rfl

/-- The lines are those of a text. -/
def IsKept (ls : List Text) : Prop := keepLines ls.flatten = ls

theorem isKept_keepLines (text : Text) : IsKept (keepLines text) := by
  rw [IsKept, flatten_keepLines]

theorem isKept_nil : IsKept [] := rfl

theorem isKept_cons_iff {l : Text} {ls : List Text} (hls : ls ≠ []) :
    IsKept (l :: ls) ↔ Terminated l ∧ IsKept ls := by
  constructor
  · intro h
    rw [IsKept] at h
    rcases keepLines_cases (l :: ls).flatten with hnil | ⟨hne, hopen⟩ | ⟨b, rest, hb, htext⟩
    · rw [hnil] at h
      cases h
    · rw [keepLines_open hopen hne] at h
      exact absurd (List.cons_eq_cons.mp h).2.symm hls
    · rw [htext, keepLines_terminated hb] at h
      obtain ⟨rfl, rfl⟩ := List.cons_eq_cons.mp h
      exact ⟨⟨b, rfl, hb⟩, isKept_keepLines rest⟩
  · rintro ⟨hl, h⟩
    have := keepLines_lines (List.forall_mem_singleton.mpr hl) ls.flatten
    rw [IsKept, List.flatten_cons]
    rwa [List.flatten_singleton, h] at this

/-- **All lines but the last end in a newline.** -/
theorem isKept_append_iff (ls : List Text) {rest : List Text} (hrest : rest ≠ []) :
    IsKept (ls ++ rest) ↔ (∀ l ∈ ls, Terminated l) ∧ IsKept rest := by
  induction ls with
  | nil => simp
  | cons l ls ih =>
    rw [List.cons_append, isKept_cons_iff (List.append_ne_nil_of_right_ne_nil _ hrest), ih,
      List.forall_mem_cons, and_assoc]

theorem isKept_of_terminated {ls : List Text} (h : ∀ l ∈ ls, Terminated l) : IsKept ls := by
  have := keepLines_lines h []
  rwa [List.append_nil, keepLines, List.append_nil] at this

theorem IsKept.append {ls rest : List Text} (hls : ∀ l ∈ ls, Terminated l) (h : IsKept rest) :
    IsKept (ls ++ rest) := by
  rw [IsKept, List.flatten_append, keepLines_lines hls, h]

theorem IsKept.right {ls rest : List Text} (h : IsKept (ls ++ rest)) : IsKept rest := by
  rcases eq_or_ne rest [] with rfl | hne
  · exact isKept_nil
  · exact ((isKept_append_iff ls hne).mp h).2

theorem IsKept.left {ls rest : List Text} (h : IsKept (ls ++ rest)) (hne : rest ≠ []) :
    ∀ l ∈ ls, Terminated l :=
  ((isKept_append_iff ls hne).mp h).1

theorem IsKept.line {l : Text} (h : IsKept [l]) : Terminated l ∨ l ≠ [] ∧ '\n' ∉ l := by
  rw [IsKept, List.flatten_singleton] at h
  rcases keepLines_cases l with rfl | hopen | ⟨b, rest, hb, htext⟩
  · cases h
  · exact Or.inr hopen
  · rw [htext, keepLines_terminated hb] at h
    exact Or.inl ⟨b, by rw [htext, (List.cons_eq_cons.mp h).1], hb⟩

/-- A line of a text ends in a newline, or it has none. -/
theorem IsKept.mem {ls : List Text} (h : IsKept ls) {l : Text} (hl : l ∈ ls) :
    Terminated l ∨ l ≠ [] ∧ '\n' ∉ l := by
  obtain ⟨front, back, rfl⟩ := List.append_of_mem hl
  rcases eq_or_ne back [] with rfl | hback
  · exact h.right.line
  · exact Or.inl ((isKept_cons_iff hback).mp h.right).1

theorem terminated_line {s : String} (h : '\n' ∉ s.toList) : Terminated (line s) :=
  ⟨s.toList, line_eq s, h⟩

theorem terminated_itemLine (tg : ℕ) : Terminated (itemLine tg) := by
  refine ⟨[' ', ' ', ' ', ' '] ++ (['-', ' '] ++ Nat.toDigits 10 tg), itemLine_eq tg, fun h => ?_⟩
  simp only [List.mem_append] at h
  rcases h with h | h | h
  · exact absurd h (by decide)
  · exact absurd h (by decide)
  · exact absurd (Nat.isDigit_of_mem_toDigits (by decide) (by decide) h) (by decide)

theorem terminated_format (tgs : List ℕ) : ∀ l ∈ formatStaticTalkgroupsBlock tgs, Terminated l := by
  cases tgs with
  | nil => exact List.forall_mem_singleton.mpr (terminated_line (by decide))
  | cons tg tgs =>
    refine List.forall_mem_cons.mpr ⟨terminated_line (by decide), fun l hl => ?_⟩
    obtain ⟨n, -, rfl⟩ := List.mem_map.mp hl
    exact terminated_itemLine n

/-! ## The key of the mappings -/

/-- The lines that are added for the talkgroup mappings. -/
def addedMappings (lines : List Text) : List Text :=
  if hasTalkgroupMappings lines then [] else [line "  talkgroupMappings: []"]

theorem terminated_addedMappings (lines : List Text) : ∀ l ∈ addedMappings lines, Terminated l := by
  rw [addedMappings]
  split_ifs
  · exact fun _ h => absurd h List.not_mem_nil
  · exact List.forall_mem_singleton.mpr (terminated_line (by decide))

theorem hasTalkgroupMappings_of_mem {ls : List Text} {l : Text} (hl : l ∈ ls)
    (hk : isKeyLine 2 "talkgroupMappings" l = true) : hasTalkgroupMappings ls = true := by
  induction ls with
  | nil => cases hl
  | cons x ls ih =>
    rw [hasTalkgroupMappings, decide_eq_true_eq]
    rcases List.mem_cons.mp hl with rfl | hl
    · left
      obtain ⟨rest, rfl, hr⟩ := isKeyLine_iff.mp hk
      have hstart : blanks 2 ++ "talkgroupMappings".toList = "  talkgroupMappings".toList := by
        decide
      have hlen : "  talkgroupMappings".length = "  talkgroupMappings".toList.length := by decide
      rw [hstart, hlen, List.drop_left]
      refine ⟨List.isPrefixOf_iff_prefix.mpr (List.prefix_append _ _), ?_⟩
      rw [List.dropWhile_append]
      split_ifs with hnil
      · rw [List.isEmpty_iff.mp hnil] at hr
        cases hr
      · rwa [List.head?_append_of_ne_nil _ (by simpa using hnil)]
    · exact Or.inr (ih hl)

theorem hasTalkgroupMappings_block {header : Text} {items : List Text}
    (hh : opensBlock header = true) (hi : ∀ l ∈ items, isItem l = true) (rest : List Text) :
    hasTalkgroupMappings (header :: items ++ rest) = hasTalkgroupMappings rest := by
  have hskip : ∀ {l : Text} {lines : List Text}, ¬ "  talkgroupMappings".toList <+: l →
      hasTalkgroupMappings (l :: lines) = hasTalkgroupMappings lines := by
    intro l lines hl
    have hfalse : "  talkgroupMappings".toList.isPrefixOf l = false :=
      Bool.eq_false_of_not_eq_true fun h => hl (List.isPrefixOf_iff_prefix.mp h)
    rw [hasTalkgroupMappings, hfalse]
    simp
  obtain ⟨tail, rfl⟩ := List.isPrefixOf_iff_prefix.mp hh
  rw [List.cons_append, hskip]
  · induction items with
    | nil => rfl
    | cons l items ih =>
      obtain ⟨hl, hi⟩ := List.forall_mem_cons.mp hi
      rw [List.cons_append, hskip, ih hi]
      rintro ⟨tail, rfl⟩
      rw [isItem, decide_eq_true_eq] at hl
      have hne : some 't' = some '-' := hl.2
      exact absurd hne (by decide)
  · rintro ⟨tail', h⟩
    have hne : some 't' = some 's' := congrArg (fun t => t[2]?) h
    exact absurd hne (by decide)

theorem head?_dropWhile_append {b b' : Text}
    (h : (b.dropWhile isSpace).head? = (b'.dropWhile isSpace).head?) (a : Text) :
    ((a ++ b).dropWhile isSpace).head? = ((a ++ b').dropWhile isSpace).head? := by
  rw [List.dropWhile_append, List.dropWhile_append]
  split_ifs with hnil
  · exact h
  · rw [List.head?_append_of_ne_nil _ (by simpa using hnil),
      List.head?_append_of_ne_nil _ (by simpa using hnil)]

/-- Behind the same lines, the search sees the first character of what follows. -/
theorem hasTalkgroupMappings_append {rest rest' : List Text}
    (h : hasTalkgroupMappings rest = hasTalkgroupMappings rest')
    (hhead : (rest.flatten.dropWhile isSpace).head? = (rest'.flatten.dropWhile isSpace).head?)
    (before : List Text) :
    hasTalkgroupMappings (before ++ rest) = hasTalkgroupMappings (before ++ rest') := by
  induction before with
  | nil => exact h
  | cons l before ih =>
    rw [List.cons_append, List.cons_append, hasTalkgroupMappings, hasTalkgroupMappings, ih,
      List.flatten_append, List.flatten_append, ← List.append_assoc, ← List.append_assoc,
      head?_dropWhile_append hhead]

theorem addedMappings_block {header header' : Text} {items items' : List Text}
    (hh : opensBlock header = true) (hi : ∀ l ∈ items, isItem l = true)
    (hh' : opensBlock header' = true) (hi' : ∀ l ∈ items', isItem l = true)
    (before rest : List Text) :
    addedMappings (before ++ (header :: items ++ rest)) =
      addedMappings (before ++ (header' :: items' ++ rest)) := by
  have hhead : ∀ {h : Text} {i : List Text}, opensBlock h = true →
      ((h :: i ++ rest).flatten.dropWhile isSpace).head? = some 's' := by
    intro h i hh
    obtain ⟨tail, rfl⟩ := List.isPrefixOf_iff_prefix.mp hh
    rfl
  rw [addedMappings, addedMappings, hasTalkgroupMappings_append
    ((hasTalkgroupMappings_block hh hi rest).trans (hasTalkgroupMappings_block hh' hi' rest).symm)
    ((hhead hh).trans (hhead hh').symm)]

/-! ## The updated text -/

/-- The text with the section `sms` behind it. -/
def withSms (text : Text) : Text := rstrip text ++ "\n\n".toList ++ smsConfigBlock ++ ['\n']

/-- The lines as a text, with a section `sms`. -/
def finish (lines : List Text) : Text :=
  if lines.any opensSms then lines.flatten else withSms lines.flatten

/-- **The update**, by the parts of the text. -/
theorem updateText_parts {before items rest : List Text} {header : Text}
    (hkept : IsKept (before ++ (header :: items ++ rest)))
    (hb : ∀ l ∈ before, opensBlock l = false) (hh : opensBlock header = true)
    (hi : ∀ l ∈ items, isItem l = true) (hr : rest.takeWhile isItem = []) (tgs : List ℕ) :
    updateText (before ++ (header :: items ++ rest)).flatten tgs =
      some (finish (before ++ (formatStaticTalkgroupsBlock tgs ++
        (addedMappings (before ++ (header :: items ++ rest)) ++ rest)))) := by
  obtain ⟨header', items', hformat, hh', hi', -⟩ := formatStaticTalkgroupsBlock_kind tgs
  have hbefore := hkept.left (List.append_ne_nil_of_left_ne_nil (List.cons_ne_nil _ _) _)
  have hrest := hkept.right.right
  have hnew : IsKept (before ++ formatStaticTalkgroupsBlock tgs ++ rest) := by
    rw [List.append_assoc]
    exact IsKept.append hbefore (IsKept.append (terminated_format tgs) hrest)
  have hadded : addedMappings (before ++ (header :: items ++ rest)) =
      addedMappings (before ++ formatStaticTalkgroupsBlock tgs ++ rest) := by
    rw [addedMappings_block hh hi hh' hi', hformat, List.append_assoc]
  have hensure : ensureTalkgroupMappings (before ++ formatStaticTalkgroupsBlock tgs ++ rest) =
      some (before ++ (formatStaticTalkgroupsBlock tgs ++
        (addedMappings (before ++ (header :: items ++ rest)) ++ rest))) := by
    rw [hadded, addedMappings, ensureTalkgroupMappings]
    split_ifs with hhas
    · rw [List.nil_append, List.append_assoc]
    · rw [hformat, List.append_assoc, splitBlock_of_parts hb hh' hi' hr]
      simp
  rw [updateText, hkept, splitBlock_of_parts hb hh hi hr]
  simp only [Option.bind_eq_bind, Option.bind_some]
  rw [hnew, hensure]
  rfl

end Sync
