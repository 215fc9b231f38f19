import Mathlib.Tactic.IntervalCases
import QuantarBridge.Dashboard.Lines

/-!
# Kinds of lines

The editors and the synchronisation look at a line only to tell whether it starts or ends a section,
has a key, belongs to a block or is a list item. White space at the end of a line does not matter
for that.

* `strip_append`, `endsSection_append`, `isKeyLine_append`, `isBlockLine_append`,
  `opensBlock_append`, `isItem_append`: white space at the end;
* `endsSection_of_opensSection`, `endsSection_of_opensSms`: the header of a section ends the one in
  front of it;
* `IsKey`, `eq_of_isKeyLine`: a line has one key;
* `keyLine_kind`, `blockLine_kind`, `item_kind`: **kinds exclude each other**;
* `Foreign`, `isNote`, `Plain`: ends of lines that the synchronisation does not see;
* `Plain.replace`: **lines that are replaced**;
* `IsValue`, `fresh_scalarLine`: the lines that the editors write.
-/

set_option autoImplicit false

namespace Dashboard

open Sync (Text isSpace isBlank opensBlock isItem opensSms rstrip)

-- A statement about the characters of a text is decided along the text, not over all characters.
instance (priority := 2000) decidableForallMem (p : Char → Prop) [DecidablePred p] (text : Text) :
    Decidable (∀ c ∈ text, p c) :=
  List.decidableBAll p text

section WhiteSpace

variable {b w : Text} (hw : ∀ c ∈ w, isSpace c = true)
include hw

theorem rstrip_append (b : Text) : rstrip (b ++ w) = rstrip b := by
  rw [rstrip, rstrip, List.reverse_append]
  congr 1
  exact List.dropWhile_append_of_pos fun c hc => hw c (List.mem_reverse.mp hc)

theorem dropWhile_eq_nil_of_space : w.dropWhile isSpace = [] :=
  List.dropWhile_eq_nil_iff.mpr hw

theorem strip_append (b : Text) : strip (b ++ w) = strip b := by
  rw [strip, strip, List.dropWhile_append]
  split_ifs with h
  · rw [List.isEmpty_iff] at h
    rw [dropWhile_eq_nil_of_space hw, h]
  · exact rstrip_append hw _

theorem endsSection_append (b : Text) : endsSection (b ++ w) = endsSection b := by
  rw [endsSection, endsSection, strip_append hw]
  cases b with
  | nil => rfl
  | cons c b => rfl

end WhiteSpace

theorem isKeyLine_iff {indent : ℕ} {key : String} {l : Text} : isKeyLine indent key l = true ↔
    ∃ rest, l = blanks indent ++ key.toList ++ rest ∧ (rest.dropWhile isSpace).head? = some ':' := by
  simp only [isKeyLine, decide_eq_true_eq, List.isPrefixOf_iff_prefix]
  constructor
  · rintro ⟨⟨rest, rfl⟩, h⟩
    rw [List.drop_left] at h
    exact ⟨rest, rfl, h⟩
  · rintro ⟨rest, rfl, h⟩
    rw [List.drop_left]
    exact ⟨⟨rest, rfl⟩, h⟩

theorem isKeyLine_append {w : Text} (hw : ∀ c ∈ w, isSpace c = true) (indent : ℕ) (key : String)
    (b : Text) : isKeyLine indent key (b ++ w) = isKeyLine indent key b := by
  rw [Bool.eq_iff_iff, isKeyLine_iff, isKeyLine_iff]
  constructor
  · rintro ⟨rest, he, h⟩
    rcases List.append_eq_append_iff.mp he with ⟨a, ha, hr⟩ | ⟨a, ha, hr⟩
    · -- the colon would be white space
      have hrest : rest.dropWhile isSpace = [] :=
        dropWhile_eq_nil_of_space fun c hc => hw c (hr ▸ List.mem_append_right a hc)
      rw [hrest] at h
      cases h
    · refine ⟨a, ha, ?_⟩
      rw [hr, List.dropWhile_append] at h
      split_ifs at h with hnil
      · rw [dropWhile_eq_nil_of_space hw] at h
        cases h
      · rwa [List.head?_append_of_ne_nil _ (by simpa using hnil)] at h
  · rintro ⟨rest, rfl, h⟩
    refine ⟨rest ++ w, by rw [List.append_assoc], ?_⟩
    rw [List.dropWhile_append]
    split_ifs with hnil
    · rw [List.isEmpty_iff.mp hnil] at h
      cases h
    · rwa [List.head?_append_of_ne_nil _ (by simpa using hnil)]

theorem strip_eq_nil_iff (l : Text) : strip l = [] ↔ ∀ c ∈ l, isSpace c = true := by
  constructor
  · intro h
    rw [strip, rstrip, List.reverse_eq_nil_iff, List.dropWhile_eq_nil_iff] at h
    intro c hc
    rw [← List.takeWhile_append_dropWhile (p := isSpace) (l := l), List.mem_append] at hc
    exact hc.elim List.mem_takeWhile_imp fun hd => h c (List.mem_reverse.mpr hd)
  · intro h
    have hs := strip_append h []
    rw [List.nil_append] at hs
    rw [hs]
    rfl

theorem isBlockLine_append {w : Text} (hw : ∀ c ∈ w, isSpace c = true) (b : Text) :
    isBlockLine (b ++ w) = isBlockLine b := by
  rw [isBlockLine, isBlockLine, strip_append hw]
  by_cases hs : strip b = []
  · simp [hs]
  · have hlen : ¬ (b.takeWhile fun c => decide (c = ' ')).length = b.length := by
      intro hl
      refine hs ((strip_eq_nil_iff b).mpr fun c hc => ?_)
      have hb := (List.takeWhile_prefix (l := b) fun c => decide (c = ' ')).eq_of_length hl
      rw [← hb] at hc
      have hsp : c = ' ' := by simpa using List.mem_takeWhile_imp hc
      rw [hsp]
      rfl
    rw [List.takeWhile_append, if_neg hlen]

theorem isPrefixOf_append {w p : Text} {c : Char} (hw : ∀ c ∈ w, isSpace c = true)
    (hc : isSpace c = false) (b : Text) :
    (p ++ [c]).isPrefixOf (b ++ w) = (p ++ [c]).isPrefixOf b := by
  rw [Bool.eq_iff_iff, List.isPrefixOf_iff_prefix, List.isPrefixOf_iff_prefix]
  constructor
  · rintro ⟨rest, he⟩
    rcases List.append_eq_append_iff.mp he with ⟨a, ha, -⟩ | ⟨a, ha, hr⟩
    · exact ⟨a, ha.symm⟩
    · rcases List.eq_nil_or_concat a with rfl | ⟨a', d, rfl⟩
      · rw [List.append_nil] at ha
        exact ha ▸ List.prefix_rfl
      · -- the last character would be white space
        have hd : c = d := by
          rw [List.concat_eq_append, ← List.append_assoc] at ha
          exact List.singleton_inj.mp (List.append_inj_right' ha rfl)
        have hm : c ∈ w := by
          rw [hr, hd]
          simp
        rw [hw c hm] at hc
        cases hc
  · exact fun h => h.trans (List.prefix_append b w)

theorem opensBlock_append {w : Text} (hw : ∀ c ∈ w, isSpace c = true) (b : Text) :
    opensBlock (b ++ w) = opensBlock b :=
  isPrefixOf_append (p := "  staticTalkgroups".toList) hw (c := ':') (by decide) b

theorem opensSms_append {w : Text} (hw : ∀ c ∈ w, isSpace c = true) (b : Text) :
    opensSms (b ++ w) = opensSms b := by
  have hprefix : "sms:".toList.isPrefixOf (b ++ w) = "sms:".toList.isPrefixOf b :=
    isPrefixOf_append (p := "sms".toList) hw (c := ':') (by decide) b
  rw [opensSms, opensSms, hprefix]
  by_cases hb : "sms:".toList.isPrefixOf b = true
  · obtain ⟨rest, rfl⟩ := List.isPrefixOf_iff_prefix.mp hb
    have hdrop : ∀ r : Text, ("sms:".toList ++ r).drop 4 = r := fun r => rfl
    rw [List.append_assoc, hdrop, hdrop, List.all_append, List.all_eq_true.mpr hw, Bool.and_true]
  · rw [decide_eq_false fun h => hb h.1, decide_eq_false fun h => hb h.1]

theorem isItem_append {w : Text} (hw : ∀ c ∈ w, isSpace c = true) (b : Text) :
    isItem (b ++ w) = isItem b := by
  rw [isItem, isItem, List.dropWhile_append, List.takeWhile_append]
  by_cases hb : b.dropWhile isBlank = []
  · -- nothing but blanks
    have hnot : ((w.dropWhile isBlank).head? = some '-') = False := by
      refine eq_false fun h => ?_
      have hm : '-' ∈ w.dropWhile isBlank := List.mem_of_mem_head? h
      exact Bool.noConfusion (hw '-' ((List.dropWhile_suffix _).subset hm))
    simp [hb, hnot]
  · have hlen : ¬ (b.takeWhile isBlank).length = b.length := by
      intro hl
      refine hb (List.dropWhile_eq_nil_iff.mpr fun c hc => ?_)
      have he := (List.takeWhile_prefix (l := b) isBlank).eq_of_length hl
      rw [← he] at hc
      exact List.mem_takeWhile_imp hc
    rw [if_neg hlen, if_neg (by simpa using hb), List.head?_append_of_ne_nil _ hb]

theorem isSpace_of_isEnd {c : Char} (h : isEnd c = true) : isSpace c = true := by
  rw [isEnd, decide_eq_true_eq] at h
  rcases h with rfl | rfl <;> rfl

theorem opensSection_append {e : Text} (he : ∀ c ∈ e, isEnd c = true) (section_ : String)
    (b : Text) : opensSection section_ (b ++ e) = opensSection section_ b := by
  rw [opensSection, opensSection, dropEnd_append b he]

theorem rstrip_cons {c : Char} (hc : isSpace c = false) (l : Text) :
    rstrip (c :: l) = c :: rstrip l := by
  rw [rstrip, rstrip, List.reverse_cons, List.dropWhile_append]
  split_ifs with h
  · rw [List.isEmpty_iff] at h
    rw [h, List.dropWhile_cons_of_neg (by simp [hc])]
    rfl
  · rw [List.reverse_append]
    rfl

theorem exists_rstrip (l : Text) : ∃ w, l = rstrip l ++ w ∧ ∀ c ∈ w, isSpace c = true := by
  refine ⟨(l.reverse.takeWhile isSpace).reverse, ?_, fun c hc => ?_⟩
  · rw [rstrip, ← List.reverse_append, List.takeWhile_append_dropWhile, List.reverse_reverse]
  · exact List.mem_takeWhile_imp (List.mem_reverse.mp hc)

theorem rstrip_eq_nil_iff (l : Text) : rstrip l = [] ↔ ∀ c ∈ l, isSpace c = true := by
  rw [rstrip, List.reverse_eq_nil_iff, List.dropWhile_eq_nil_iff]
  simp only [List.mem_reverse]

theorem rstrip_append_of_ne {l : Text} (h : rstrip l ≠ []) (a : Text) :
    rstrip (a ++ l) = a ++ rstrip l := by
  rw [rstrip, ne_eq, List.reverse_eq_nil_iff] at h
  rw [rstrip, rstrip, List.reverse_append, List.dropWhile_append, if_neg (by simpa using h),
    List.reverse_append, List.reverse_reverse]

theorem rstrip_concat {c : Char} (hc : isSpace c = false) (l : Text) :
    rstrip (l ++ [c]) = l ++ [c] := by
  rw [rstrip, List.reverse_append, List.reverse_singleton, List.singleton_append,
    List.dropWhile_cons_of_neg (by simp [hc]), List.reverse_cons, List.reverse_reverse]

theorem endsSection_cons_of_space {c : Char} (hc : isSpace c = true) (l : Text) :
    endsSection (c :: l) = false := by
  rw [endsSection]
  split
  · rfl
  · simp [hc]

theorem endsSection_cons_of_not {c : Char} (hc : isSpace c = false) (hn : c ≠ '#') (l : Text) :
    endsSection (c :: l) = true := by
  have hs : strip (c :: l) = c :: rstrip l := by
    rw [strip, List.dropWhile_cons_of_neg (by simp [hc]), rstrip_cons hc]
  rw [endsSection, hs]
  simp [hc, hn]

/-- A name in the first column that is no comment. -/
def IsSection (section_ : String) : Prop :=
  (section_.toList.head?.any fun c => !isSpace c && c ≠ '#') = true

instance (section_ : String) : Decidable (IsSection section_) :=
  inferInstanceAs (Decidable (_ = true))

/-- **Headers end sections.** -/
theorem endsSection_of_opensSection {section_ : String} (hs : IsSection section_) {l : Text}
    (h : opensSection section_ l = true) : endsSection l = true := by
  obtain ⟨e, he, hall⟩ := exists_dropEnd l
  rw [opensSection, decide_eq_true_eq] at h
  rw [he, endsSection_append (fun c hc => isSpace_of_isEnd (hall c hc)), h]
  rw [IsSection] at hs
  cases ht : section_.toList with
  | nil =>
    rw [ht] at hs
    cases hs
  | cons c rest =>
    rw [ht] at hs
    have hc : isSpace c = false ∧ c ≠ '#' := by simpa using hs
    exact endsSection_cons_of_not hc.1 hc.2 _

theorem endsSection_of_opensSms {l : Text} (h : opensSms l = true) : endsSection l = true := by
  rw [opensSms, decide_eq_true_eq] at h
  obtain ⟨rest, rfl⟩ := List.isPrefixOf_iff_prefix.mp h.1
  exact endsSection_cons_of_not (by decide) (by decide) _

/-- A key of a section: it is neither empty nor a list item nor a comment. -/
def IsKey (key : String) : Prop :=
  key.toList ≠ [] ∧ ∀ c ∈ key.toList, isSpace c = false ∧ c ≠ ':' ∧ c ≠ '-' ∧ c ≠ '#'

instance (key : String) : Decidable (IsKey key) := inferInstanceAs (Decidable (_ ∧ _))

/-- **A line has one key.** -/
theorem eq_of_isKeyLine {indent : ℕ} {key key' : String} (hk : IsKey key) (hk' : IsKey key')
    {l : Text} (h : isKeyLine indent key l = true) (h' : isKeyLine indent key' l = true) :
    key = key' := by
  obtain ⟨rest, rfl, hr⟩ := isKeyLine_iff.mp h
  obtain ⟨rest', he, hr'⟩ := isKeyLine_iff.mp h'
  rw [List.append_assoc, List.append_assoc] at he
  -- the character behind the shorter key would be one of the longer key
  have hcolon : ∀ {key : String} {a rest : Text}, IsKey key → (∀ c ∈ a, c ∈ key.toList) →
      ((a ++ rest).dropWhile isSpace).head? = some ':' → a = [] := by
    intro key a rest hk ha h
    cases a with
    | nil => rfl
    | cons c a =>
      have hc := hk.2 c (ha c List.mem_cons_self)
      rw [List.cons_append, List.dropWhile_cons_of_neg (by simp [hc.1]), List.head?_cons] at h
      exact absurd (Option.some.inj h) hc.2.1
  rcases List.append_eq_append_iff.mp (List.append_cancel_left he) with ⟨a, ha, rfl⟩ | ⟨a, ha, rfl⟩
  · have hnil := hcolon hk' (fun c hc => ha ▸ List.mem_append_right _ hc) hr
    rw [hnil, List.append_nil] at ha
    exact String.toList_inj.mp ha.symm
  · have hnil := hcolon hk (fun c hc => ha ▸ List.mem_append_right _ hc) hr'
    rw [hnil, List.append_nil] at ha
    exact String.toList_inj.mp ha

theorem exists_of_isKeyLine {key : String} (hk : IsKey key) {l : Text}
    (h : isKeyLine 2 key l = true) :
    ∃ c rest, l = ' ' :: ' ' :: c :: rest ∧ isSpace c = false ∧ c ≠ '-' ∧ c ≠ '#' := by
  obtain ⟨rest, rfl, -⟩ := isKeyLine_iff.mp h
  cases ht : key.toList with
  | nil => exact absurd ht hk.1
  | cons c key' =>
    have hc := hk.2 c (by rw [ht]; exact List.mem_cons_self)
    exact ⟨c, key' ++ rest, rfl, hc.1, hc.2.2⟩

theorem ne_space {c : Char} (h : isSpace c = false) : c ≠ ' ' := by
  rintro rfl
  cases h

/-- **The line of a key** neither ends a section nor belongs to a block nor is a list item. -/
theorem keyLine_kind {key : String} (hk : IsKey key) {l : Text} (h : isKeyLine 2 key l = true) :
    endsSection l = false ∧ isBlockLine l = false ∧ isItem l = false := by
  obtain ⟨c, rest, rfl, hc, hne, -⟩ := exists_of_isKeyLine hk h
  have hblank : isBlank c = false := by
    simp only [isBlank, decide_eq_false_iff_not, not_or]
    refine ⟨ne_space hc, ?_⟩
    rintro rfl
    cases hc
  refine ⟨endsSection_cons_of_space rfl _, ?_, ?_⟩
  · simp [isBlockLine, ne_space hc]
  · have h1 : isBlank ' ' = true := rfl
    simp [isItem, h1, hblank, hne]

theorem isKeyLine_of_opensBlock {l : Text} (h : opensBlock l = true) :
    isKeyLine 2 "staticTalkgroups" l = true := by
  obtain ⟨rest, rfl⟩ := List.isPrefixOf_iff_prefix.mp h
  exact isKeyLine_iff.mpr ⟨':' :: rest, rfl, rfl⟩

/-- **The lines of a block** neither end a section nor have a key. -/
theorem blockLine_kind {l : Text} (h : isBlockLine l = true) :
    endsSection l = false ∧ opensBlock l = false ∧
      ∀ key, IsKey key → isKeyLine 2 key l = false := by
  have hkey : ∀ key, IsKey key → isKeyLine 2 key l = false := by
    intro key hk
    cases hl : isKeyLine 2 key l with
    | false => rfl
    | true =>
      rw [(keyLine_kind hk hl).2.1] at h
      cases h
  refine ⟨?_, ?_, hkey⟩
  · rw [isBlockLine, decide_eq_true_eq] at h
    cases l with
    | nil => exact absurd h.2 (by simp)
    | cons c l =>
      by_cases hc : c = ' '
      · rw [hc]
        exact endsSection_cons_of_space rfl _
      · simp [hc] at h
  · cases hl : opensBlock l with
    | false => rfl
    | true => rw [← hkey "staticTalkgroups" (by decide), isKeyLine_of_opensBlock hl]

/-- **List items** neither end a section nor have a key. -/
theorem item_kind {l : Text} (h : isItem l = true) :
    endsSection l = false ∧ opensBlock l = false ∧
      ∀ key, IsKey key → isKeyLine 2 key l = false := by
  have hkey : ∀ key, IsKey key → isKeyLine 2 key l = false := by
    intro key hk
    cases hl : isKeyLine 2 key l with
    | false => rfl
    | true =>
      rw [(keyLine_kind hk hl).2.2] at h
      cases h
  refine ⟨?_, ?_, hkey⟩
  · rw [isItem, decide_eq_true_eq] at h
    cases l with
    | nil => exact absurd h.1 (by simp)
    | cons c l =>
      cases hc : isBlank c with
      | true =>
        rw [isBlank, decide_eq_true_eq] at hc
        rcases hc with rfl | rfl <;> exact endsSection_cons_of_space rfl _
      | false => simp [hc] at h
  · cases hl : opensBlock l with
    | false => rfl
    | true => rw [← hkey "staticTalkgroups" (by decide), isKeyLine_of_opensBlock hl]

/-- The line has another end than a carriage return or a newline. -/
def Foreign (l : Text) : Prop := ∃ c ∈ l, endsLine c = true ∧ isEnd c = false

instance (l : Text) : Decidable (Foreign l) :=
  List.decidableBEx (fun c => endsLine c = true ∧ isEnd c = false) l

/-- A line with nothing but white space or a comment. -/
def isNote (l : Text) : Bool := (l.dropWhile isSpace).head?.all fun c => c = '#'

/-- Other ends of lines than carriage returns and newlines stand only between comments and blank
lines, and not at the end of the text. -/
def Plain (ls : List Text) : Prop :=
  ls.IsChain (fun l l' => Foreign l → isNote l = true ∧ isNote l' = true) ∧
    ∀ l ∈ ls.getLast?, ¬ Foreign l

instance (ls : List Text) : Decidable (Plain ls) := inferInstanceAs (Decidable (_ ∧ _))

section Notes

variable {l : Text}

theorem isNote_space {w : Text} (hw : ∀ c ∈ w, isSpace c = true) (b : Text) :
    isNote (b ++ w) = isNote b := by
  rw [isNote, isNote, List.dropWhile_append]
  split_ifs with h
  · rw [List.isEmpty_iff] at h
    rw [h, dropWhile_eq_nil_of_space hw]
  · rw [List.head?_append_of_ne_nil _ (by simpa using h)]

theorem isNote_append {a b : Text} (ha : isNote a = true) (hb : isNote b = true) :
    isNote (a ++ b) = true := by
  rw [isNote, List.dropWhile_append]
  split_ifs with h
  · exact hb
  · rwa [List.head?_append_of_ne_nil _ (by simpa using h)]

theorem isNote_cons_of_not {c : Char} (hc : isSpace c = false) (hn : c ≠ '#') (l : Text) :
    isNote (c :: l) = false := by
  rw [isNote, List.dropWhile_cons_of_neg (by simp [hc]), List.head?_cons, Option.all_some,
    decide_eq_false hn]

theorem isNote_of_endsSection (h : endsSection l = true) : isNote l = false := by
  cases l with
  | nil => cases h
  | cons c l =>
    cases hc : isSpace c with
    | true =>
      rw [endsSection_cons_of_space hc] at h
      cases h
    | false =>
      refine isNote_cons_of_not hc ?_ l
      rintro rfl
      have hs : strip ('#' :: l) = '#' :: rstrip l := by
        rw [strip, List.dropWhile_cons_of_neg (by decide), rstrip_cons (by decide)]
      rw [endsSection, hs] at h
      simp at h

theorem isNote_of_isKeyLine {key : String} (hk : IsKey key) (h : isKeyLine 2 key l = true) :
    isNote l = false := by
  obtain ⟨c, rest, rfl, hc, -, hn⟩ := exists_of_isKeyLine hk h
  exact isNote_cons_of_not hc hn rest

theorem isNote_of_opensBlock (h : opensBlock l = true) : isNote l = false :=
  isNote_of_isKeyLine (by decide) (isKeyLine_of_opensBlock h)

theorem isNote_of_isItem (h : isItem l = true) : isNote l = false := by
  rw [isItem, decide_eq_true_eq] at h
  have hblank : ∀ c ∈ l.takeWhile isBlank, isSpace c = true := by
    intro c hc
    have hb := List.mem_takeWhile_imp hc
    rw [isBlank, decide_eq_true_eq] at hb
    rcases hb with rfl | rfl <;> rfl
  rw [isNote, ← List.takeWhile_append_dropWhile (p := isBlank) (l := l),
    List.dropWhile_append_of_pos hblank]
  cases hd : l.dropWhile isBlank with
  | nil =>
    rw [hd] at h
    cases h.2
  | cons c rest =>
    rw [hd, List.head?_cons, Option.some.injEq] at h
    rw [h.2]
    exact isNote_cons_of_not (by decide) (by decide) rest

theorem foreign_dropEnd (l : Text) : Foreign (dropEnd l) ↔ Foreign l := by
  obtain ⟨e, hl, he⟩ := exists_dropEnd l
  constructor
  · rintro ⟨c, hc, hends⟩
    exact ⟨c, hl ▸ List.mem_append_left e hc, hends⟩
  · rintro ⟨c, hc, hends, hend⟩
    rw [hl] at hc
    refine ⟨c, (List.mem_append.mp hc).resolve_right fun hce => ?_, hends, hend⟩
    rw [he c hce] at hend
    cases hend

theorem not_foreign_of_unix (h : Unix l) : ¬ Foreign l := by
  rintro ⟨c, hc, hends, hend⟩
  rw [h c hc hends] at hend
  cases hend

theorem not_foreign_of_fresh (h : Fresh l) : ¬ Foreign l := by
  obtain ⟨⟨b, e, rfl, hb, he⟩, hlast, -⟩ := h
  have hends : ∀ c ∈ e, isEnd c = true := by
    rcases he with rfl | ⟨c, -, rfl⟩
    · decide
    · rw [List.getLast?_append, List.getLast?_singleton, Option.some_or, Option.some.injEq] at hlast
      rw [hlast]
      decide
  rintro ⟨c, hc, hce, hend⟩
  rcases List.mem_append.mp hc with hc | hc
  · rw [hb c hc] at hce
    cases hce
  · rw [hends c hc] at hend
    cases hend

end Notes

section Plain

variable {ls A X Y B : List Text}

theorem plain_of_forall (h : ∀ l ∈ ls, ¬ Foreign l) : Plain ls :=
  ⟨(List.pairwise_of_forall_mem_list fun l hl _ _ hf => absurd hf (h l hl)).isChain,
    fun l hl => h l (List.mem_of_getLast? hl)⟩

theorem plain_map_dropEnd (ls : List Text) : Plain (ls.map dropEnd) ↔ Plain ls := by
  have hnote : ∀ l, isNote (dropEnd l) = isNote l := by
    intro l
    obtain ⟨e, hl, he⟩ := exists_dropEnd l
    conv_rhs => rw [hl]
    exact (isNote_space (fun c hc => isSpace_of_isEnd (he c hc)) _).symm
  simp only [Plain, List.isChain_map, List.getLast?_map, Option.mem_map, foreign_dropEnd, hnote,
    forall_exists_index, and_imp, forall_apply_eq_imp_iff₂]

/-- In front of a line with text there is no other end of a line. -/
theorem Plain.not_foreign (h : Plain (A ++ B)) (hB : ∀ l ∈ B.head?, isNote l = false) :
    ∀ l ∈ A.getLast?, ¬ Foreign l := by
  intro l hl hf
  cases B with
  | nil =>
    rw [List.append_nil] at h
    exact h.2 l hl hf
  | cons b B =>
    have hnote := (List.isChain_append.mp h.1).2.2 l hl b rfl hf
    rw [hB b rfl] at hnote
    exact absurd hnote.2 Bool.false_ne_true

/-- **Lines that are replaced.** The first of the old ones, or what follows, has text. -/
theorem Plain.replace (h : Plain (A ++ (X ++ B))) (hX : ∀ l ∈ (X ++ B).head?, isNote l = false)
    (hY : ∀ l ∈ Y, ¬ Foreign l) (hne : Y ≠ []) : Plain (A ++ (Y ++ B)) := by
  have hA := h.not_foreign hX
  have hchain := List.isChain_append.mp h.1
  have hB := List.isChain_append.mp hchain.2.1
  refine ⟨List.isChain_append.mpr ⟨hchain.1, List.isChain_append.mpr
    ⟨(plain_of_forall hY).1, hB.2.1, fun l hl _ _ hf => ?_⟩, fun l hl _ _ hf => ?_⟩, fun l hl => ?_⟩
  · exact absurd hf (hY l (List.mem_of_getLast? hl))
  · exact absurd hf (hA l hl)
  · rcases eq_or_ne B [] with rfl | hb
    · rw [List.append_nil, List.getLast?_append_of_ne_nil _ hne] at hl
      exact hY l (List.mem_of_getLast? hl)
    · have hlast : ∀ Z : List Text, (A ++ (Z ++ B)).getLast? = B.getLast? := fun Z => by
        rw [List.getLast?_append_of_ne_nil _ (List.append_ne_nil_of_right_ne_nil _ hb),
          List.getLast?_append_of_ne_nil _ hb]
      rw [hlast] at hl
      exact h.2 l (by rwa [hlast])

end Plain

/-- A value on a line: it does not end the line, and there is no white space at its end. -/
def IsValue (v : Text) : Prop :=
  (∀ c ∈ v, endsLine c = false) ∧ ∃ a c, v = a ++ [c] ∧ isSpace c = false

/-- The ends of the lines that the editors write. -/
def IsEnding (e : Text) : Prop := e = crlf ∨ e = ['\n']

theorem isEnding_endingOf (l : Text) : IsEnding (endingOf l) := by
  rw [endingOf]
  split_ifs
  · exact Or.inl rfl
  · exact Or.inr rfl

theorem isEnding_newlineOf (text : Text) : IsEnding (newlineOf text) := by
  rw [newlineOf]
  split_ifs
  · exact Or.inl rfl
  · exact Or.inr rfl

theorem mem_endingOf {l : Text} {c : Char} (h : c ∈ endingOf l) : c = '\n' ∨ c ∈ l := by
  rw [endingOf] at h
  split_ifs at h with hs
  · exact Or.inr ((List.isSuffixOf_iff_suffix.mp hs).subset h)
  · exact Or.inl (List.mem_singleton.mp h)

theorem mem_newlineOf {text : Text} {c : Char} (h : c ∈ newlineOf text) : c = '\n' ∨ c ∈ text := by
  rw [newlineOf] at h
  split_ifs at h with hs
  · rcases List.mem_pair.mp h with rfl | rfl
    · exact Or.inr (List.of_mem_zip hs).1
    · exact Or.inl rfl
  · exact Or.inl (List.mem_singleton.mp h)

theorem IsEnding.isSpace {e : Text} (he : IsEnding e) : ∀ c ∈ e, isSpace c = true := by
  rcases he with rfl | rfl <;> decide

theorem endsLine_eq_false {c : Char} (h : isSpace c = false) : endsLine c = false := by
  cases he : endsLine c with
  | false => rfl
  | true =>
    rw [isSpace_of_endsLine he] at h
    cases h

/-- **A line that an editor writes for a key.** -/
theorem isKeyLine_scalarLine (key : String) (v e : Text) :
    isKeyLine 2 key (scalarLine 2 key v ++ e) = true :=
  isKeyLine_iff.mpr ⟨':' :: ' ' :: (v ++ e), by simp [scalarLine], rfl⟩

theorem fresh_append {b e : Text} (hb : ∀ c ∈ b, endsLine c = false) (hs : b.head? = some ' ')
    (he : IsEnding e) : Fresh (b ++ e) := by
  have hne : b ≠ [] := by
    rintro rfl
    cases hs
  refine ⟨⟨b, e, rfl, hb, he.imp_right fun h => ⟨'\n', rfl, h⟩⟩, ?_, ?_⟩
  · rcases he with rfl | rfl <;> simp [crlf]
  · rw [List.head?_append_of_ne_nil _ hne, hs]

theorem fresh_scalarLine {key : String} (hk : IsKey key) {v e : Text} (hv : IsValue v)
    (he : IsEnding e) : Fresh (scalarLine 2 key v ++ e) := by
  refine fresh_append (fun c hc => ?_) rfl he
  simp only [scalarLine, List.mem_append] at hc
  rcases hc with ((hc | hc) | hc) | hc
  · rw [List.eq_of_mem_replicate hc]
    rfl
  · exact endsLine_eq_false (hk.2 c hc).1
  · simp only [List.mem_cons, List.not_mem_nil, or_false] at hc
    rcases hc with rfl | rfl <;> rfl
  · exact hv.1 c hc

theorem rstrip_scalarLine (key : String) {v e : Text} (hv : IsValue v) (he : IsEnding e) :
    rstrip (scalarLine 2 key v ++ e) = scalarLine 2 key v := by
  obtain ⟨a, c, rfl, hc⟩ := hv.2
  rw [rstrip_append he.isSpace, scalarLine, ← List.append_assoc, rstrip_concat hc]

theorem isSpace_of_isDigit {c : Char} (h : c.isDigit = true) : isSpace c = false := by
  simp only [Char.isDigit, Bool.and_eq_true, decide_eq_true_eq] at h
  have h48 : 48 ≤ c.toNat := h.1
  have h57 : c.toNat ≤ 57 := h.2
  cases hs : isSpace c with
  | false => rfl
  | true =>
    simp only [isSpace, List.mem_cons, List.not_mem_nil, or_false, decide_eq_true_eq] at hs
    rcases hs with (rfl | rfl | rfl | rfl | rfl | rfl | rfl | rfl | rfl | rfl | rfl | rfl | rfl |
      rfl | rfl | rfl | rfl | rfl) | ⟨hs, -⟩
    all_goals first | (revert h48 h57; decide) | skip
    have h2000 : 0x2000 ≤ c.toNat := hs
    omega

theorem isValue_of_forall {v : Text} (hne : v ≠ []) (h : ∀ c ∈ v, isSpace c = false) :
    IsValue v := by
  refine ⟨fun c hc => endsLine_eq_false (h c hc), v.dropLast, v.getLast hne, ?_, ?_⟩
  · rw [List.dropLast_append_getLast]
  · exact h _ (List.getLast_mem hne)

theorem isValue_toDigits (n : ℕ) : IsValue (Nat.toDigits 10 n) :=
  isValue_of_forall Nat.toDigits_ne_nil fun _ hc =>
    isSpace_of_isDigit (Nat.isDigit_of_mem_toDigits (by decide) (by decide) hc)

theorem isValue_cons {c : Char} {v : Text} (hc : endsLine c = false) (hv : IsValue v) :
    IsValue (c :: v) := by
  obtain ⟨hall, a, d, rfl, hd⟩ := hv
  exact ⟨List.forall_mem_cons.mpr ⟨hc, hall⟩, c :: a, d, rfl, hd⟩

theorem isValue_toString (n : ℤ) : IsValue (toString n).toList := by
  cases n with
  | ofNat m =>
    have h : (toString (Int.ofNat m)).toList = Nat.toDigits 10 m := Nat.toList_repr
    rw [h]
    exact isValue_toDigits m
  | negSucc m =>
    have h : toString (Int.negSucc m) = "-" ++ (m + 1).repr := rfl
    rw [h, String.toList_append, Nat.toList_repr]
    exact isValue_cons rfl (isValue_toDigits (m + 1))

theorem isValue_yamlBool (b : Bool) : IsValue (yamlBool b) := by
  refine isValue_of_forall ?_ ?_ <;> cases b <;> decide

theorem endsLine_digitChar (n : ℕ) : endsLine (Nat.digitChar n) = false := by
  by_cases h : n < 16
  · interval_cases n <;> rfl
  · have hstar : Nat.digitChar n = '*' := by
      simp only [Nat.digitChar]
      repeat rw [if_neg (by omega)]
    rw [hstar]
    rfl

theorem endsLine_hex4 (n : ℕ) : ∀ c ∈ hex4 n, endsLine c = false := by
  intro c hc
  obtain ⟨d, -, rfl⟩ := List.mem_map.mp hc
  exact endsLine_digitChar d

theorem endsLine_ofNat {n : ℕ} (h : 32 ≤ n ∧ n ≤ 126) : endsLine (Char.ofNat n) = false := by
  obtain ⟨h32, h126⟩ := h
  interval_cases n <;> rfl

theorem endsLine_jsonEscape (n : ℕ) : ∀ c ∈ jsonEscape n, endsLine c = false := by
  have hu : ∀ c ∈ ['\\', 'u'], endsLine c = false := by decide
  rw [jsonEscape]
  split_ifs with _ _ _ _ _ _ _ h
  · decide
  · decide
  · decide
  · decide
  · decide
  · decide
  · decide
  · exact List.forall_mem_singleton.mpr (endsLine_ofNat h)
  · exact List.forall_mem_append.mpr ⟨hu, endsLine_hex4 _⟩
  · exact List.forall_mem_append.mpr ⟨List.forall_mem_append.mpr
      ⟨List.forall_mem_append.mpr ⟨hu, endsLine_hex4 _⟩, hu⟩, endsLine_hex4 _⟩

theorem rstrip_value {v e : Text} (hv : IsValue v) (he : IsEnding e) : rstrip (v ++ e) = v := by
  obtain ⟨a, c, rfl, hc⟩ := hv.2
  rw [rstrip_append he.isSpace, rstrip_concat hc]

theorem isValue_jsonString (s : Str) : IsValue (jsonString s) := by
  refine ⟨fun c hc => ?_, ['"'] ++ s.flatMap jsonEscape, '"', rfl, rfl⟩
  simp only [jsonString, List.mem_append, List.mem_singleton, List.mem_flatMap] at hc
  rcases hc with (rfl | ⟨n, -, hn⟩) | rfl
  · rfl
  · exact endsLine_jsonEscape n c hn
  · rfl

end Dashboard
