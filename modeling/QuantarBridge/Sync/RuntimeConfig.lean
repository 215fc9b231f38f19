import Mathlib.Data.List.Sort
import QuantarBridge.Dashboard.LineKinds
import QuantarBridge.Lib.IntText

/-!
# Reading the static talkgroups

The scripts that watch the static subscriptions read the talkgroups from `quantarbridge.yml` without a
YAML parser. They look for the section `routing`, for a line `staticTalkgroups:` in it, and for the
list items below that line, up to the next line that is indented by at most two. Comments and blank
lines do not end the list. The lines of this model keep their ends, which no condition on a line sees.

* `sectionLines`, `readStaticTalkgroups`: the code;
* `listNumbers_eq`: the numbers of a list;
* `Reaches`: the reader arrives behind some lines, `readLines_of_reaches`,
  `readLines_of_not_reaches`: **what it reads there**, and that it reads the same of all blocks
  otherwise;
* `readLines_map_rstrip`: white space at the ends of the lines does not matter;
* `talkgroupNumbers_format`: **what is read of the block that the synchronisation writes**.
-/

set_option autoImplicit false

namespace Sync

open Lib
open Dashboard (strip splitlines endsSection)

/-- The header of the section: its name in the first column. -/
def startsSection (section_ : String) (line : Text) : Bool :=
  strip line = section_.toList ++ [':'] ∧ ¬ line.head?.any isSpace

/-- The lines of a section. -/
def sectionLines (lines : List Text) (section_ : String) : Option (List Text) :=
  match lines.dropWhile fun l => !startsSection section_ l with
  | [] => none
  | _ :: rest => some (rest.takeWhile fun l => !endsSection l)

/-- The line of the key. -/
def isTalkgroupsKey (line : Text) : Bool :=
  strip line = "staticTalkgroups:".toList ∧ "  ".toList.isPrefixOf line

/-- The white space in front of a line. -/
def indentation (line : Text) : ℕ := (line.takeWhile isSpace).length

/-- A list item, without the white space around it. -/
def isNumberItem (stripped : Text) : Bool := "- ".toList.isPrefixOf stripped

/-- The number of a list item, in front of a comment. -/
def itemNumber (stripped : Text) : Option ℤ :=
  intOfText (strip ((stripped.drop 2).takeWhile fun c => c ≠ '#'))

/-- The talkgroups in the lines behind the key. -/
def listNumbers : List Text → List ℕ
  | [] => []
  | l :: lines =>
    let stripped := strip l
    if stripped = [] ∨ stripped.head? = some '#' then listNumbers lines
    else if indentation l ≤ 2 then []
    else if ¬ isNumberItem stripped then listNumbers lines
    else match itemNumber stripped with
      | none => listNumbers lines
      | some talkgroup =>
        if 0 < talkgroup then talkgroup.toNat :: listNumbers lines else listNumbers lines

/-- The talkgroups in the lines of the section. -/
def talkgroupNumbers (lines : List Text) : List ℕ :=
  match lines.dropWhile fun l => !isTalkgroupsKey l with
  | [] => []
  | _ :: rest => listNumbers rest

/-- `sorted(set(..))` -/
def sortedSet (numbers : List ℕ) : List ℕ := numbers.dedup.insertionSort (· ≤ ·)

/-- The static talkgroups in the lines of a file. There are none without the section. -/
def readLines (lines : List Text) : Option (List ℕ) :=
  (sectionLines lines "routing").map fun section_ => sortedSet (talkgroupNumbers section_)

/-- The static talkgroups of a text. -/
def readStaticTalkgroups (text : Text) : Option (List ℕ) := readLines (splitlines text)

/-! ## The numbers of a list -/

theorem mem_sortedSet {n : ℕ} {numbers : List ℕ} : n ∈ sortedSet numbers ↔ n ∈ numbers := by
  rw [sortedSet, (List.perm_insertionSort _ _).mem_iff, List.mem_dedup]

theorem sortedSet_eq_iff {numbers numbers' : List ℕ} :
    sortedSet numbers = sortedSet numbers' ↔ ∀ n, n ∈ numbers ↔ n ∈ numbers' := by
  constructor
  · intro h n
    rw [← mem_sortedSet, h, mem_sortedSet]
  · intro h
    have hperm : (sortedSet numbers).Perm (sortedSet numbers') :=
      ((List.perm_insertionSort _ _).trans ((List.perm_ext_iff_of_nodup (List.nodup_dedup _)
        (List.nodup_dedup _)).mpr fun n => by rw [List.mem_dedup, List.mem_dedup, h])).trans
        (List.perm_insertionSort _ _).symm
    exact hperm.eq_of_pairwise' (List.pairwise_insertionSort _ _) (List.pairwise_insertionSort _ _)

/-- The line ends a list. -/
def stopsList (line : Text) : Bool :=
  strip line ≠ [] ∧ (strip line).head? ≠ some '#' ∧ indentation line ≤ 2

/-- The talkgroup of a line. -/
def numberOf (line : Text) : Option ℕ :=
  if isNumberItem (strip line) then
    (itemNumber (strip line)).bind fun n => if 0 < n then some n.toNat else none
  else none

/-- **The numbers of a list** stand in the lines up to its end. -/
theorem listNumbers_eq (lines : List Text) :
    listNumbers lines = (lines.takeWhile fun l => !stopsList l).filterMap numberOf := by
  induction lines with
  | nil => rfl
  | cons l lines ih =>
    have hblank : strip l = [] ∨ (strip l).head? = some '#' → numberOf l = none := by
      intro h
      rw [numberOf, if_neg]
      rcases h with h | h
      · simp [h, isNumberItem]
      · cases hs : strip l with
        | nil => simp [isNumberItem]
        | cons c rest =>
          rw [hs] at h
          cases h
          simp [isNumberItem, List.isPrefixOf]
    rw [listNumbers]
    split_ifs with h1 h2 h3
    · -- a comment or a blank line
      have hstop : stopsList l = false := by
        simp only [stopsList, decide_eq_false_iff_not]
        rintro ⟨ha, hb, -⟩
        exact h1.elim ha hb
      rw [List.takeWhile_cons_of_pos (by simp [hstop]), List.filterMap_cons_none (hblank h1), ih]
    · have hstop : stopsList l = true := by
        simp only [stopsList, decide_eq_true_eq]
        exact ⟨fun h => h1 (Or.inl h), fun h => h1 (Or.inr h), h2⟩
      rw [List.takeWhile_cons_of_neg (by simp [hstop])]
      rfl
    all_goals
      have hstop : stopsList l = false := by
        simp only [stopsList, decide_eq_false_iff_not]
        exact fun h => h2 h.2.2
      rw [List.takeWhile_cons_of_pos (by simp [hstop])]
    · cases hn : itemNumber (strip l) with
      | none => rw [List.filterMap_cons_none (by rw [numberOf, if_pos h3, hn]; rfl), ih]
      | some n =>
        dsimp only
        split_ifs with hpos
        · rw [List.filterMap_cons_some (b := n.toNat), ih]
          rw [numberOf, if_pos h3, hn]
          exact if_pos hpos
        · rw [List.filterMap_cons_none, ih]
          rw [numberOf, if_pos h3, hn]
          exact if_neg hpos
    · rw [List.filterMap_cons_none (by rw [numberOf, if_neg h3]), ih]

theorem stopsList_of_endsSection {l : Text} (h : endsSection l = true) : stopsList l = true := by
  rw [endsSection] at h
  rw [stopsList, decide_eq_true_eq]
  cases hs : strip l with
  | nil =>
    rw [hs] at h
    cases h
  | cons c rest =>
    rw [hs, decide_eq_true_eq] at h
    refine ⟨List.cons_ne_nil _ _, fun hc => h.2 (Option.some.inj hc), ?_⟩
    cases l with
    | nil => exact Nat.zero_le 2
    | cons d l =>
      have hd : ¬ isSpace d = true := h.1
      rw [indentation, List.takeWhile_cons_of_neg hd]
      exact Nat.zero_le 2

theorem listNumbers_takeWhile (lines : List Text) :
    listNumbers (lines.takeWhile fun l => !endsSection l) = listNumbers lines := by
  rw [listNumbers_eq, listNumbers_eq, List.takeWhile_takeWhile]
  congr 2
  funext l
  cases he : endsSection l with
  | false => simp
  | true => simp [stopsList_of_endsSection he]

theorem listNumbers_append_of_stops {l : Text} (h : stopsList l = true) (lines rest : List Text) :
    listNumbers (lines ++ l :: rest) = listNumbers lines := by
  rw [listNumbers_eq, listNumbers_eq, List.takeWhile_append]
  split_ifs with hlen
  · rw [List.takeWhile_cons_of_neg (by simp [h]), List.append_nil,
      (List.takeWhile_prefix _).eq_of_length hlen]
  · rfl

theorem listNumbers_append {lines : List Text} (h : ∀ l ∈ lines, stopsList l = false)
    (rest : List Text) :
    listNumbers (lines ++ rest) = lines.filterMap numberOf ++ listNumbers rest := by
  rw [listNumbers_eq, listNumbers_eq, List.takeWhile_append_of_pos fun l hl => by simp [h l hl],
    List.filterMap_append]

/-! ## What the reader arrives at -/

/-- The reader is in the section `routing` behind the lines, and has not met the key. -/
def Reaches (lines : List Text) : Prop :=
  ∃ header rest, (lines.dropWhile fun l => !startsSection "routing" l) = header :: rest ∧
    ∀ l ∈ rest, endsSection l = false ∧ isTalkgroupsKey l = false

theorem sectionLines_append {before header : List Text} {l : Text}
    (h : (before.dropWhile fun l => !startsSection "routing" l) = l :: header) (lines : List Text) :
    sectionLines (before ++ lines) "routing" =
      some ((header ++ lines).takeWhile fun l => !endsSection l) := by
  rw [sectionLines, List.dropWhile_append, h]
  rfl

theorem talkgroupNumbers_append {lines : List Text} (h : ∀ l ∈ lines, isTalkgroupsKey l = false)
    (rest : List Text) : talkgroupNumbers (lines ++ rest) = talkgroupNumbers rest := by
  rw [talkgroupNumbers, talkgroupNumbers,
    List.dropWhile_append_of_pos fun l hl => by simp [h l hl]]

theorem talkgroupNumbers_cons {l : Text} (h : isTalkgroupsKey l = true) (rest : List Text) :
    talkgroupNumbers (l :: rest) = listNumbers rest := by
  rw [talkgroupNumbers, List.dropWhile_cons_of_neg (by simp [h])]

/-- **What is read behind lines in which the reader arrives.** -/
theorem readLines_of_reaches {before : List Text} (h : Reaches before) (lines : List Text) :
    readLines (before ++ lines) =
      some (sortedSet (talkgroupNumbers (lines.takeWhile fun l => !endsSection l))) := by
  obtain ⟨header, rest, hdrop, hrest⟩ := h
  rw [readLines, sectionLines_append hdrop,
    List.takeWhile_append_of_pos fun l hl => by simp [(hrest l hl).1]]
  exact congrArg (fun t => some (sortedSet t)) (talkgroupNumbers_append (fun l hl => (hrest l hl).2) _)

/-- A block of lines with a key at two blanks in front that starts no section. -/
structure IsBlock (lines : List Text) : Prop where
  stops : ∃ header rest, lines = header :: rest ∧ stopsList header = true
  starts : ∀ l ∈ lines, startsSection "routing" l = false

/-- **Behind other lines the reader reads the same of all blocks.** -/
theorem readLines_of_not_reaches {before block block' : List Text} (h : ¬ Reaches before)
    (hb : IsBlock block) (hb' : IsBlock block') (after : List Text) :
    readLines (before ++ (block ++ after)) = readLines (before ++ (block' ++ after)) := by
  cases hd : before.dropWhile fun l => !startsSection "routing" l with
  | nil =>
    have hpass : ∀ {b : List Text}, IsBlock b →
        sectionLines (before ++ (b ++ after)) "routing" = sectionLines after "routing" := by
      intro b hb
      rw [sectionLines, sectionLines, List.dropWhile_append, hd,
        List.dropWhile_append_of_pos fun l hl => by simp [hb.starts l hl]]
      rfl
    rw [readLines, readLines, hpass hb, hpass hb']
  | cons header rest =>
    -- the first line that ends the section or has the key
    have hbad : ∃ front l back, rest = front ++ l :: back ∧
        (∀ x ∈ front, endsSection x = false ∧ isTalkgroupsKey x = false) ∧
        ¬ (endsSection l = false ∧ isTalkgroupsKey l = false) := by
      let good (x : Text) : Bool := !endsSection x && !isTalkgroupsKey x
      have hgood : ∀ x, good x = true ↔ endsSection x = false ∧ isTalkgroupsKey x = false := by
        intro x
        simp [good]
      cases hback : rest.dropWhile good with
      | nil =>
        refine absurd ⟨header, rest, hd, fun l hl => (hgood l).mp ?_⟩ h
        exact List.dropWhile_eq_nil_iff.mp hback l hl
      | cons l back =>
        refine ⟨rest.takeWhile good, l, back, ?_, fun x hx => (hgood x).mp (List.mem_takeWhile_imp hx),
          fun hl => ?_⟩
        · rw [← hback, List.takeWhile_append_dropWhile]
        · have hnot := List.head?_dropWhile_not good rest
          rw [hback] at hnot
          have hfalse : good l = false := by simpa using hnot
          rw [(hgood l).mpr hl] at hfalse
          cases hfalse
    obtain ⟨front, l, back, rfl, hfront, hl⟩ := hbad
    have hpass : ∀ {b : List Text}, IsBlock b → readLines (before ++ (b ++ after)) =
        if endsSection l then some (sortedSet (talkgroupNumbers front))
        else some (sortedSet (listNumbers back)) := by
      intro b hb
      rw [readLines, sectionLines_append hd, List.append_assoc,
        List.takeWhile_append_of_pos fun x hx => by simp [(hfront x hx).1]]
      cases hends : endsSection l with
      | true =>
        rw [List.cons_append, List.takeWhile_cons_of_neg (by simp [hends]), List.append_nil]
        rfl
      | false =>
        have hkey : isTalkgroupsKey l = true := by simpa [hends] using hl
        obtain ⟨key, items, rfl, hstops⟩ := hb.stops
        rw [List.cons_append, List.takeWhile_cons_of_pos (by simp [hends])]
        simp only [Option.map_some, talkgroupNumbers_append fun x hx => (hfront x hx).2,
          talkgroupNumbers_cons hkey, listNumbers_takeWhile]
        rw [List.cons_append, listNumbers_append_of_stops hstops]
        rfl
    rw [hpass hb, hpass hb']

/-! ## White space at the end of a line -/

theorem takeWhile_append_of_strip {l : Text} (h : strip l ≠ []) (w : Text) :
    (l ++ w).takeWhile isSpace = l.takeWhile isSpace := by
  rw [List.takeWhile_append, if_neg]
  intro hlen
  refine h ((Dashboard.strip_eq_nil_iff l).mpr fun c hc => ?_)
  rw [← (List.takeWhile_prefix (l := l) isSpace).eq_of_length hlen] at hc
  exact List.mem_takeWhile_imp hc

theorem indentation_append {l : Text} (h : strip l ≠ []) (w : Text) :
    indentation (l ++ w) = indentation l := by
  rw [indentation, takeWhile_append_of_strip h w]
  rfl

section WhiteSpace

variable {w : Text} (hw : ∀ c ∈ w, isSpace c = true)
include hw

theorem startsSection_append (section_ : String) (l : Text) :
    startsSection section_ (l ++ w) = startsSection section_ l := by
  rw [startsSection, startsSection, Dashboard.strip_append hw]
  cases l with
  | nil =>
    have hnil : strip [] ≠ section_.toList ++ [':'] := (List.append_ne_nil_of_right_ne_nil _ (by simp)).symm
    simp [hnil]
  | cons c l => rfl

theorem isTalkgroupsKey_append (l : Text) : isTalkgroupsKey (l ++ w) = isTalkgroupsKey l := by
  rw [isTalkgroupsKey, isTalkgroupsKey, Dashboard.strip_append hw]
  by_cases hs : strip l = "staticTalkgroups:".toList
  · -- the blanks in front of the text
    have hne : strip l ≠ [] := by
      rw [hs]
      decide
    have hfront : ∀ a : Text, "  ".toList <+: a ↔ "  ".toList <+: a.takeWhile isSpace := by
      intro a
      constructor
      · rintro ⟨rest, rfl⟩
        rw [List.takeWhile_append_of_pos (by decide)]
        exact List.prefix_append _ _
      · exact fun h => h.trans (List.takeWhile_prefix _)
    have heq : "  ".toList.isPrefixOf (l ++ w) = "  ".toList.isPrefixOf l := by
      rw [Bool.eq_iff_iff, List.isPrefixOf_iff_prefix, List.isPrefixOf_iff_prefix, hfront,
        takeWhile_append_of_strip hne w, ← hfront]
    rw [heq]
  · simp only [hs, false_and, decide_false]

theorem stopsList_append (l : Text) : stopsList (l ++ w) = stopsList l := by
  rw [stopsList, stopsList, Dashboard.strip_append hw]
  by_cases hs : strip l = []
  · simp [hs]
  · rw [indentation_append hs w]

theorem numberOf_append (l : Text) : numberOf (l ++ w) = numberOf l := by
  rw [numberOf, numberOf, Dashboard.strip_append hw]

end WhiteSpace

theorem kind_rstrip {β : Type} {kind : Text → β}
    (h : ∀ b w, (∀ c ∈ w, isSpace c = true) → kind (b ++ w) = kind b) (l : Text) :
    kind (rstrip l) = kind l := by
  obtain ⟨w, hl, hw⟩ := Dashboard.exists_rstrip l
  conv_rhs => rw [hl]
  exact (h _ _ hw).symm

theorem listNumbers_map_rstrip (lines : List Text) :
    listNumbers (lines.map rstrip) = listNumbers lines := by
  have hstops : ((fun l => !stopsList l) ∘ rstrip) = fun l => !stopsList l := by
    funext l
    exact congrArg (!·) (kind_rstrip (fun b w hw => stopsList_append hw b) l)
  have hnumber : numberOf ∘ rstrip = numberOf := by
    funext l
    exact kind_rstrip (fun b w hw => numberOf_append hw b) l
  rw [listNumbers_eq, listNumbers_eq, List.takeWhile_map, hstops, List.filterMap_map, hnumber]

theorem talkgroupNumbers_map_rstrip (lines : List Text) :
    talkgroupNumbers (lines.map rstrip) = talkgroupNumbers lines := by
  have hkey : ((fun l => !isTalkgroupsKey l) ∘ rstrip) = fun l => !isTalkgroupsKey l := by
    funext l
    exact congrArg (!·) (kind_rstrip (fun b w hw => isTalkgroupsKey_append hw b) l)
  rw [talkgroupNumbers, talkgroupNumbers, List.dropWhile_map, hkey]
  cases lines.dropWhile fun l => !isTalkgroupsKey l with
  | nil => rfl
  | cons l rest => exact listNumbers_map_rstrip rest

theorem takeWhile_map_rstrip (lines : List Text) :
    (lines.map rstrip).takeWhile (fun l => !endsSection l) =
      (lines.takeWhile fun l => !endsSection l).map rstrip := by
  have hends : ((fun l => !endsSection l) ∘ rstrip) = fun l => !endsSection l := by
    funext l
    exact congrArg (!·) (kind_rstrip (fun b w hw => Dashboard.endsSection_append hw b) l)
  rw [List.takeWhile_map, hends]

/-- **White space at the ends of the lines does not matter.** -/
theorem readLines_map_rstrip (lines : List Text) : readLines (lines.map rstrip) = readLines lines := by
  have hstarts : ((fun l => !startsSection "routing" l) ∘ rstrip) =
      fun l => !startsSection "routing" l := by
    funext l
    exact congrArg (!·) (kind_rstrip (fun b w hw => startsSection_append hw _ b) l)
  rw [readLines, readLines, sectionLines, sectionLines, List.dropWhile_map, hstarts]
  cases lines.dropWhile fun l => !startsSection "routing" l with
  | nil => rfl
  | cons l rest =>
    simp only [List.map_cons, takeWhile_map_rstrip, Option.map_some, talkgroupNumbers_map_rstrip]

/-! ## The block that is written -/

/-- A list item that is written. -/
def itemLine (tg : ℕ) : Text := line ("    - " ++ toString tg)

theorem toList_toString (n : ℕ) : (toString n).toList = Nat.toDigits 10 n := Nat.toList_repr

theorem itemLine_eq (tg : ℕ) : itemLine tg =
    [' ', ' ', ' ', ' '] ++ (['-', ' '] ++ Nat.toDigits 10 tg) ++ ['\n'] := by
  have hline : line ("    - " ++ toString tg) =
      "    - ".toList ++ (toString tg).toList ++ "\n".toList := by
    rw [line, String.toList_append, String.toList_append]
  rw [itemLine, hline, toList_toString]
  rfl

theorem toDigits_concat (n : ℕ) :
    ∃ front c, Nat.toDigits 10 n = front ++ [c] ∧ isSpace c = false := by
  rcases List.eq_nil_or_concat (Nat.toDigits 10 n) with h | ⟨front, c, h⟩
  · exact absurd h Nat.toDigits_ne_nil
  · refine ⟨front, c, by rw [h, List.concat_eq_append], Dashboard.isSpace_of_isDigit ?_⟩
    have hc : c ∈ Nat.toDigits 10 n := by
      rw [h]
      simp
    exact Nat.isDigit_of_mem_toDigits (by decide) (by decide) hc

theorem strip_itemLine (tg : ℕ) : strip (itemLine tg) = ['-', ' '] ++ Nat.toDigits 10 tg := by
  obtain ⟨front, c, hdigits, hc⟩ := toDigits_concat tg
  rw [itemLine_eq, Dashboard.strip_append (by decide), hdigits]
  show rstrip (['-', ' '] ++ (front ++ [c])) = _
  rw [← List.append_assoc, Dashboard.rstrip_concat hc]

theorem strip_toDigits (n : ℕ) : strip (Nat.toDigits 10 n) = Nat.toDigits 10 n := by
  obtain ⟨front, c, hdigits, hc⟩ := toDigits_concat n
  have hspace : ∀ d ∈ Nat.toDigits 10 n, isSpace d = false := fun d hd =>
    Dashboard.isSpace_of_isDigit (Nat.isDigit_of_mem_toDigits (by decide) (by decide) hd)
  have hdrop : (Nat.toDigits 10 n).dropWhile isSpace = Nat.toDigits 10 n := by
    cases hd : Nat.toDigits 10 n with
    | nil => rfl
    | cons d rest =>
      refine List.dropWhile_cons_of_neg ?_
      simp [hspace d (by rw [hd]; exact List.mem_cons_self)]
  rw [strip, hdrop, hdigits, Dashboard.rstrip_concat hc]

/-- **A list item that is written is read.** -/
theorem numberOf_itemLine {tg : ℕ} (h : (Nat.toDigits 10 tg).length ≤ 4300) :
    numberOf (itemLine tg) = if 0 < tg then some tg else none := by
  have hhash : ∀ c ∈ Nat.toDigits 10 tg, decide (c ≠ '#') = true := by
    intro c hc
    rw [decide_eq_true_eq]
    rintro rfl
    exact absurd (Nat.isDigit_of_mem_toDigits (by decide) (by decide) hc) (by decide)
  have hitem : itemNumber (strip (itemLine tg)) = some (tg : ℤ) := by
    rw [itemNumber, strip_itemLine]
    show intOfText (strip ((Nat.toDigits 10 tg).takeWhile _)) = _
    rw [List.takeWhile_eq_self_iff.mpr hhash, strip_toDigits, intOfText_toDigits h]
  have hnumber : isNumberItem (strip (itemLine tg)) = true := by
    rw [strip_itemLine]
    rfl
  rw [numberOf, if_pos hnumber, hitem, Option.bind_some]
  simp

theorem itemLine_kind (tg : ℕ) : stopsList (itemLine tg) = false ∧
    startsSection "routing" (itemLine tg) = false ∧ endsSection (itemLine tg) = false := by
  have hhead : (itemLine tg).head? = some ' ' := by
    rw [itemLine_eq]
    rfl
  have hindent : indentation (itemLine tg) = 4 := by
    rw [itemLine_eq]
    rfl
  refine ⟨?_, ?_, ?_⟩
  · simp [stopsList, hindent]
  · rw [startsSection, hhead]
    simp [isSpace]
  · rw [itemLine_eq]
    exact Dashboard.endsSection_cons_of_space (by decide) _

theorem isBlock_format (tgs : List ℕ) : IsBlock (formatStaticTalkgroupsBlock tgs) := by
  cases tgs with
  | nil => exact ⟨⟨_, _, rfl, by decide⟩, List.forall_mem_singleton.mpr (by decide)⟩
  | cons tg tgs =>
    refine ⟨⟨_, _, rfl, by decide⟩, List.forall_mem_cons.mpr ⟨by decide, fun l hl => ?_⟩⟩
    obtain ⟨n, -, rfl⟩ := List.mem_map.mp hl
    exact (itemLine_kind n).2.1

theorem endsSection_format (tgs : List ℕ) :
    ∀ l ∈ formatStaticTalkgroupsBlock tgs, endsSection l = false := by
  cases tgs with
  | nil => exact List.forall_mem_singleton.mpr (by decide)
  | cons tg tgs =>
    refine List.forall_mem_cons.mpr ⟨by decide, fun l hl => ?_⟩
    obtain ⟨n, -, rfl⟩ := List.mem_map.mp hl
    exact (itemLine_kind n).2.2

/-- **What is read of the block that is written, and behind it.** -/
theorem talkgroupNumbers_format {tgs : List ℕ} (h : ∀ tg ∈ tgs, (Nat.toDigits 10 tg).length ≤ 4300)
    (rest : List Text) :
    talkgroupNumbers ((formatStaticTalkgroupsBlock tgs ++ rest).takeWhile fun l => !endsSection l) =
      if tgs = [] then talkgroupNumbers (rest.takeWhile fun l => !endsSection l)
      else tgs.filter (0 < ·) ++ listNumbers rest := by
  rw [List.takeWhile_append_of_pos fun l hl => by simp [endsSection_format tgs l hl]]
  cases tgs with
  | nil =>
    rw [if_pos rfl]
    exact talkgroupNumbers_append (List.forall_mem_singleton.mpr (by decide)) _
  | cons tg tgs =>
    have hstop : ∀ l ∈ (tg :: tgs).map itemLine, stopsList l = false := by
      intro l hl
      obtain ⟨n, -, rfl⟩ := List.mem_map.mp hl
      exact (itemLine_kind n).1
    have hnumbers : ((tg :: tgs).map itemLine).filterMap numberOf = (tg :: tgs).filter (0 < ·) := by
      rw [List.filterMap_map, ← List.filterMap_eq_filter]
      refine List.filterMap_congr fun n hn => ?_
      show numberOf (itemLine n) = Option.guard _ n
      rw [numberOf_itemLine (h n hn), Option.guard]
      simp
    rw [if_neg (List.cons_ne_nil _ _)]
    show talkgroupNumbers (line "  staticTalkgroups:" :: ((tg :: tgs).map itemLine ++ _)) = _
    rw [talkgroupNumbers_cons (by decide), listNumbers_append hstop, hnumbers, listNumbers_takeWhile]

end Sync
