import QuantarBridge.Dashboard.LineKinds
import QuantarBridge.Dashboard.Update
import QuantarBridge.Lib.Block

/-!
# What the edits do to a file

An entry of a file is the line of a key in its section, with the lines of the block below it. An edit
sets the entry of its key and leaves the other ones alone.

* `entryAt`, `field`, `mappingBlock`, `staticBlock`: the entries;
* `entryAt_segment`, `staticBlock_segment`: lines that are replaced by lines of the same key;
* `Room`: an added line does not run into an unfinished one;
* `Keeps`: what an edit leaves alone;
* `upsertSectionScalar_sets`, `replaceSectionScalar_sets`, `replaceMappingBlock_sets`: **the
  editors**;
* `Applied`, `editBridge_spec`: **all edits of a request**.
-/

set_option autoImplicit false

namespace Dashboard

open Lib
open Sync (Text isSpace keepLines opensBlock isItem opensSms rstrip)

/-- The lines of a block without white space at their ends. -/
def stripped (b : Text × List Text) : List Text := (b.1 :: b.2).map rstrip

theorem map_stripped (b : Option (Text × List Text)) : b.map stripped = seen rstrip b := rfl

/-- The entry of a key in a section. -/
def entryAt (section_ key : String) (inside : Text → Bool) (ls : List Text) :
    Option (List Text) :=
  (blockIn (opensSection section_) (fun l => !endsSection l) (isKeyLine 2 key) inside ls).map
    stripped

/-- The line of a key. -/
def field (section_ key : String) (ls : List Text) : Option (List Text) :=
  entryAt section_ key (fun _ => false) ls

/-- The lines of the mappings, without their ends. -/
def mappingBlock (ls : List Text) : Option (List Text) :=
  entryAt "routing" "talkgroupMappings" isBlockLine ls

/-- The lines of the static talkgroups, without their ends. -/
def staticBlock (ls : List Text) : Option (List Text) := (blockAt opensBlock isItem ls).map stripped

theorem stripped_map_dropEnd (b : Text × List Text) :
    stripped (dropEnd b.1, b.2.map dropEnd) = stripped b := by
  have h : ∀ l, rstrip (dropEnd l) = rstrip l := by
    intro l
    obtain ⟨e, he, hall⟩ := exists_dropEnd l
    have hr := rstrip_append (fun c hc => isSpace_of_isEnd (hall c hc)) (dropEnd l)
    rw [← he] at hr
    exact hr.symm
  simp [stripped, h]

section Ends

variable {kind : Text → Bool}

theorem kind_dropEnd (hkind : ∀ b w, (∀ c ∈ w, isEnd c = true) → kind (b ++ w) = kind b)
    (l : Text) : kind (dropEnd l) = kind l := by
  obtain ⟨e, he, hall⟩ := exists_dropEnd l
  have h := hkind (dropEnd l) e hall
  rw [← he] at h
  exact h.symm

end Ends

theorem entryAt_map_dropEnd (section_ key : String) {inside : Text → Bool}
    (hi : ∀ l, inside (dropEnd l) = inside l) (ls : List Text) :
    entryAt section_ key inside (ls.map dropEnd) = entryAt section_ key inside ls := by
  have hends : ∀ l, endsSection (dropEnd l) = endsSection l :=
    kind_dropEnd fun b w hw => endsSection_append (fun c hc => isSpace_of_isEnd (hw c hc)) b
  rw [entryAt, blockIn_map dropEnd
    (kind_dropEnd fun b w hw => opensSection_append hw section_ b)
    (fun l => by rw [hends])
    (kind_dropEnd fun b w hw => isKeyLine_append (fun c hc => isSpace_of_isEnd (hw c hc)) 2 key b)
    hi, Option.map_map]
  congr 1
  funext b
  exact stripped_map_dropEnd b

theorem staticBlock_map_dropEnd (ls : List Text) :
    staticBlock (ls.map dropEnd) = staticBlock ls := by
  rw [staticBlock, blockAt_map dropEnd
    (kind_dropEnd fun b w hw => opensBlock_append (fun c hc => isSpace_of_isEnd (hw c hc)) b)
    (kind_dropEnd fun b w hw => isItem_append (fun c hc => isSpace_of_isEnd (hw c hc)) b),
    Option.map_map]
  congr 1
  funext b
  exact stripped_map_dropEnd b

section Segments

variable {key : String} {A X Y B : List Text}

/-- A line of the section that has no key but the given one. -/
def Inner (key : String) (l : Text) : Prop :=
  endsSection l = false ∧ opensBlock l = false ∧
    ∀ key', IsKey key' → key' ≠ key → isKeyLine 2 key' l = false

theorem inner_of_isKeyLine (hk : IsKey key) (hne : key ≠ "staticTalkgroups") {l : Text}
    (h : isKeyLine 2 key l = true) : Inner key l := by
  have hother : ∀ key', IsKey key' → key' ≠ key → isKeyLine 2 key' l = false := by
    intro key' hk' hne'
    cases hl : isKeyLine 2 key' l with
    | false => rfl
    | true => exact absurd (eq_of_isKeyLine hk' hk hl h) hne'
  refine ⟨(keyLine_kind hk h).1, ?_, hother⟩
  cases hl : opensBlock l with
  | false => rfl
  | true =>
    rw [← hother "staticTalkgroups" (by decide) hne.symm, isKeyLine_of_opensBlock hl]

theorem inner_of_isBlockLine {l : Text} (h : isBlockLine l = true) : Inner key l :=
  ⟨(blockLine_kind h).1, (blockLine_kind h).2.1, fun k hk _ => (blockLine_kind h).2.2 k hk⟩

theorem opensSection_eq_false {section_ : String} (hs : IsSection section_) {l : Text}
    (h : endsSection l = false) : opensSection section_ l = false := by
  cases ho : opensSection section_ l with
  | false => rfl
  | true =>
    rw [← h]
    exact (endsSection_of_opensSection hs ho).symm

/-- Lines inside a section without the key do not matter for its entry, unless they are in it. -/
theorem entryAt_patch {section_ : String} (hs : IsSection section_)
    (hX : ∀ l ∈ X, endsSection l = false ∧ isKeyLine 2 key l = false)
    (hY : ∀ l ∈ Y, endsSection l = false ∧ isKeyLine 2 key l = false)
    {inside : Text → Bool} (hXB : (X ++ B).takeWhile inside = [])
    (hYB : (Y ++ B).takeWhile inside = []) :
    entryAt section_ key inside (A ++ (Y ++ B)) = entryAt section_ key inside (A ++ (X ++ B)) := by
  have hkind : ∀ l, endsSection l = false ∧ isKeyLine 2 key l = false →
      opensSection section_ l = false ∧ (!endsSection l) = true ∧ isKeyLine 2 key l = false :=
    fun l hl => ⟨opensSection_eq_false hs hl.1, by rw [hl.1]; rfl, hl.2⟩
  rw [entryAt, entryAt, blockIn_patch (fun l hl => hkind l (hY l hl)) (fun l hl => hkind l (hX l hl))
    hYB hXB]

/-- **The entries of the other keys.** -/
theorem entryAt_segment (hX : ∀ l ∈ X, Inner key l) (hY : ∀ l ∈ Y, Inner key l)
    {inside : Text → Bool} (hXB : (X ++ B).takeWhile inside = [])
    (hYB : (Y ++ B).takeWhile inside = []) {section_ key' : String} (hs : IsSection section_)
    (hk : IsKey key') (hne : key' ≠ key) :
    entryAt section_ key' inside (A ++ (Y ++ B)) = entryAt section_ key' inside (A ++ (X ++ B)) :=
  entryAt_patch hs (fun l hl => ⟨(hX l hl).1, (hX l hl).2.2 key' hk hne⟩)
    (fun l hl => ⟨(hY l hl).1, (hY l hl).2.2 key' hk hne⟩) hXB hYB

theorem takeWhile_false (ls : List Text) : ls.takeWhile (fun _ => false) = [] := by
  cases ls <;> rfl

theorem field_segment (hX : ∀ l ∈ X, Inner key l) (hY : ∀ l ∈ Y, Inner key l)
    {section_ key' : String} (hs : IsSection section_) (hk : IsKey key') (hne : key' ≠ key) :
    field section_ key' (A ++ (Y ++ B)) = field section_ key' (A ++ (X ++ B)) :=
  entryAt_segment hX hY (takeWhile_false _) (takeWhile_false _) hs hk hne

/-- **The block of static talkgroups.** -/
theorem staticBlock_segment (hX : ∀ l ∈ X, Inner key l) (hY : ∀ l ∈ Y, Inner key l)
    (hXB : (X ++ B).takeWhile isItem = []) (hYB : (Y ++ B).takeWhile isItem = []) :
    staticBlock (A ++ (Y ++ B)) = staticBlock (A ++ (X ++ B)) := by
  rw [staticBlock, staticBlock, blockAt_patch (fun l hl => (hY l hl).2.1)
    (fun l hl => (hX l hl).2.1) hYB hXB]

theorem filter_endsSection_segment (hX : ∀ l ∈ X, Inner key l) (hY : ∀ l ∈ Y, Inner key l) :
    (A ++ (Y ++ B)).filter endsSection = (A ++ (X ++ B)).filter endsSection := by
  have hnil : ∀ {ls : List Text}, (∀ l ∈ ls, Inner key l) → ls.filter endsSection = [] :=
    fun h => List.filter_eq_nil_iff.mpr fun l hl => by rw [(h l hl).1]; exact Bool.false_ne_true
  rw [List.filter_append, List.filter_append, List.filter_append, List.filter_append, hnil hX,
    hnil hY]

end Segments

section Sections

variable {section_ key : String} {ls before body after : List Text}

/-- **The parts of a text around a section.** -/
theorem sectionBounds_ok (h : sectionBounds ls section_ = .ok (before, body, after)) :
    ∃ A header, before = A ++ [header] ∧ ls = A ++ header :: (body ++ after) ∧
      (∀ l ∈ A, opensSection section_ l = false) ∧ opensSection section_ header = true ∧
      (∀ l ∈ body, endsSection l = false) ∧ after.takeWhile (fun l => !endsSection l) = [] := by
  rw [sectionBounds] at h
  cases hd : ls.dropWhile fun l => !opensSection section_ l with
  | nil =>
    rw [hd] at h
    cases h
  | cons header rest =>
    rw [hd] at h
    cases h
    have hheader : opensSection section_ header = true := by
      have hh := List.head?_dropWhile_not (fun l => !opensSection section_ l) ls
      rw [hd] at hh
      simpa using hh
    refine ⟨_, header, rfl, ?_, fun l hl => ?_, hheader, fun l hl => ?_, ?_⟩
    · rw [List.takeWhile_append_dropWhile, ← hd, List.takeWhile_append_dropWhile]
    · simpa using List.mem_takeWhile_imp hl
    · simpa using List.mem_takeWhile_imp hl
    · cases hr : rest.dropWhile fun l => !endsSection l with
      | nil => rfl
      | cons l _ =>
        have hh := List.head?_dropWhile_not (fun l => !endsSection l) rest
        rw [hr] at hh
        exact List.takeWhile_cons_of_neg (by simpa using hh)

theorem entryAt_section {A : List Text} {header : Text} {inside : Text → Bool}
    (hA : ∀ l ∈ A, opensSection section_ l = false) (hh : opensSection section_ header = true)
    (hb : ∀ l ∈ body, endsSection l = false)
    (ha : after.takeWhile (fun l => !endsSection l) = []) :
    entryAt section_ key inside (A ++ header :: (body ++ after)) =
      (blockAt (isKeyLine 2 key) inside body).map stripped := by
  have hbody : (body ++ after).takeWhile (fun l => !endsSection l) = body := by
    rw [takeWhile_append_of_pos fun l hl => by rw [hb l hl]; rfl, ha, List.append_nil]
  rw [entryAt, blockIn, blockAt_append_of_none hA, blockAt_cons_of_pos hh, hbody,
    Option.bind_some]

theorem replaceFirst_some {p : Text → Bool} {f : Text → Text} {body' : List Text}
    (h : replaceFirst p f body = some body') :
    ∃ A l B, body = A ++ l :: B ∧ body' = A ++ f l :: B ∧ (∀ x ∈ A, p x = false) ∧ p l = true := by
  induction body generalizing body' with
  | nil => cases h
  | cons l body ih =>
    rw [replaceFirst] at h
    split_ifs at h with hl
    · cases h
      exact ⟨[], l, body, rfl, rfl, fun _ hx => absurd hx List.not_mem_nil, hl⟩
    · obtain ⟨body'', hb, rfl⟩ := Option.map_eq_some_iff.mp h
      obtain ⟨A, x, B, rfl, rfl, hA, hx⟩ := ih hb
      refine ⟨l :: A, x, B, rfl, rfl, List.forall_mem_cons.mpr ⟨?_, hA⟩, hx⟩
      simpa using hl

theorem replaceFirst_none {p : Text → Bool} {f : Text → Text} (h : replaceFirst p f body = none) :
    ∀ l ∈ body, p l = false := by
  induction body with
  | nil => exact fun _ hl => absurd hl List.not_mem_nil
  | cons l body ih =>
    rw [replaceFirst] at h
    split_ifs at h with hl
    rw [Option.map_eq_none_iff] at h
    exact List.forall_mem_cons.mpr ⟨by simpa using hl, ih h⟩

/-- The section is the last one. -/
def lastSection (section_ : String) (ls : List Text) : Bool :=
  ((ls.filter endsSection).dropWhile fun l => !opensSection section_ l).length = 1

/-- A line that is added for the key does not run into a line without an end. -/
def Room (section_ key : String) (ls : List Text) : Prop :=
  LastEnded ls ∨ lastSection section_ ls = false ∨ field section_ key ls ≠ none

theorem lastSection_of_bounds (hs : IsSection section_)
    (h : sectionBounds ls section_ = .ok (before, body, [])) : lastSection section_ ls = true := by
  obtain ⟨A, header, -, rfl, hA, hh, hb, -⟩ := sectionBounds_ok h
  have hbody : body.filter endsSection = [] :=
    List.filter_eq_nil_iff.mpr fun l hl => by rw [hb l hl]; exact Bool.false_ne_true
  rw [lastSection, List.append_nil, List.filter_append,
    List.filter_cons_of_pos (endsSection_of_opensSection hs hh), hbody,
    List.dropWhile_append_of_pos, List.dropWhile_cons_of_neg (by simp [hh])]
  · rfl
  · intro l hl
    rw [hA l (List.mem_filter.mp hl).1]
    rfl

end Sections

/-- An edit leaves everything but the given keys as it is. -/
structure Keeps (keys : List String) (ls ls' : List Text) : Prop where
  field : ∀ section_ key, IsSection section_ → IsKey key → key ∉ keys →
    field section_ key ls' = field section_ key ls
  mappings : "talkgroupMappings" ∉ keys → mappingBlock ls' = mappingBlock ls
  static : staticBlock ls' = staticBlock ls
  sections : ls'.filter endsSection = ls.filter endsSection
  ended : LastEnded ls → LastEnded ls'
  plain : Plain ls → Plain ls'
  ends : ∀ c ∈ ls'.flatten, endsLine c = true → c = '\n' ∨ c ∈ ls.flatten

namespace Keeps

variable {keys keys' : List String} {ls ls' ls'' : List Text}

theorem refl (keys : List String) (ls : List Text) : Keeps keys ls ls :=
  ⟨fun _ _ _ _ _ => rfl, fun _ => rfl, rfl, rfl, id, id, fun _ hc _ => Or.inr hc⟩

theorem trans (h : Keeps keys ls ls') (h' : Keeps keys' ls' ls'') :
    Keeps (keys ++ keys') ls ls'' where
  field s k hs hk hn := by
    rw [List.mem_append, not_or] at hn
    rw [h'.field s k hs hk hn.2, h.field s k hs hk hn.1]
  mappings hn := by
    rw [List.mem_append, not_or] at hn
    rw [h'.mappings hn.2, h.mappings hn.1]
  static := h'.static.trans h.static
  sections := h'.sections.trans h.sections
  ended he := h'.ended (h.ended he)
  plain hp := h'.plain (h.plain hp)
  ends c hc he := (h'.ends c hc he).elim Or.inl fun hc => h.ends c hc he

theorem unix (h : Keeps keys ls ls') (hu : Unix ls.flatten) : Unix ls'.flatten := fun c hc he =>
  (h.ends c hc he).elim id fun hc => hu c hc he

/-- The section `sms` is still there. -/
theorem opensSms (h : Keeps keys ls ls') : ls'.any opensSms = ls.any opensSms := by
  have hany : ∀ ls : List Text, ls.any Sync.opensSms = (ls.filter endsSection).any Sync.opensSms := by
    intro ls
    rw [List.any_filter]
    refine congrArg ls.any (funext fun l => ?_)
    cases ho : Sync.opensSms l with
    | true => rw [endsSection_of_opensSms ho, Bool.true_and]
    | false => rw [Bool.and_false]
  rw [hany, h.sections, ← hany]

theorem room (h : Keeps keys ls ls') {section_ key : String} (hs : IsSection section_)
    (hk : IsKey key) (hn : key ∉ keys) (hr : Room section_ key ls) : Room section_ key ls' := by
  rcases hr with hr | hr | hr
  · exact Or.inl (h.ended hr)
  · right; left
    rw [lastSection, h.sections]
    exact hr
  · right; right
    rw [h.field section_ key hs hk hn]
    exact hr

end Keeps

section Segment

variable {key : String} {A X Y B : List Text}

theorem lastEnded_segment (hY : ∀ l ∈ Y, Fresh l) (hne : Y ≠ []) (h : LastEnded (A ++ (X ++ B))) :
    LastEnded (A ++ (Y ++ B)) := by
  intro l hl
  rw [List.getLast?_append, List.getLast?_append] at hl
  cases hB : B.getLast? with
  | some b =>
    rw [hB] at hl
    cases hl
    exact h l (by rw [List.getLast?_append, List.getLast?_append, hB]; rfl)
  | none =>
    rw [hB, Option.none_or] at hl
    cases hy : Y.getLast? with
    | none => exact absurd (List.getLast?_eq_none_iff.mp hy) hne
    | some y =>
      rw [hy] at hl
      cases hl
      exact (hY l (List.mem_of_getLast? hy)).1

/-- Another end of a line than a newline comes from the text. -/
def EndsIn (text l : Text) : Prop := ∀ c ∈ l, endsLine c = true → c = '\n' ∨ c ∈ text

theorem ends_segment (hY : ∀ l ∈ Y, EndsIn (A ++ (X ++ B)).flatten l) :
    EndsIn (A ++ (X ++ B)).flatten (A ++ (Y ++ B)).flatten := by
  intro c hc he
  simp only [List.flatten_append, List.mem_append] at hc
  rcases hc with hc | hc | hc
  · exact Or.inr (by simp [hc])
  · obtain ⟨l, hl, hcl⟩ := List.mem_flatten.mp hc
    exact hY l hl c hcl he
  · exact Or.inr (by simp [hc])

/-- **Fresh lines in the place of lines of the same key.** -/
theorem keeps_of_segment (hX : ∀ l ∈ X, Inner key l) (hY : ∀ l ∈ Y, Inner key l)
    (hfresh : ∀ l ∈ Y, Fresh l ∧ EndsIn (A ++ (X ++ B)).flatten l) (hne : Y ≠ [])
    (hnote : ∀ l ∈ (X ++ B).head?, isNote l = false)
    (hblock : key ≠ "talkgroupMappings" → (X ++ B).takeWhile isBlockLine = [] ∧
      (Y ++ B).takeWhile isBlockLine = [])
    (hitem : (X ++ B).takeWhile isItem = []) (hitem' : (Y ++ B).takeWhile isItem = []) :
    Keeps [key] (A ++ (X ++ B)) (A ++ (Y ++ B)) where
  field s k hs hk hn := field_segment hX hY hs hk fun h => hn (List.mem_singleton.mpr h)
  mappings hn := by
    have hk : key ≠ "talkgroupMappings" := fun h => hn (List.mem_singleton.mpr h.symm)
    exact entryAt_segment hX hY (hblock hk).1 (hblock hk).2 (by decide) (by decide) (Ne.symm hk)
  static := staticBlock_segment hX hY hitem hitem'
  sections := filter_endsSection_segment hX hY
  ended h := lastEnded_segment (fun l hl => (hfresh l hl).1) hne h
  plain h := h.replace hnote (fun l hl => not_foreign_of_fresh (hfresh l hl).1) hne
  ends := ends_segment fun l hl => (hfresh l hl).2

end Segment

section Editors

variable {text text' : Text} {section_ key : String} {value : Text}

theorem endsIn_append {b e : Text} (hb : ∀ c ∈ b, endsLine c = false)
    (he : ∀ c ∈ e, c = '\n' ∨ c ∈ text) : EndsIn text (b ++ e) := by
  intro c hc hends
  rcases List.mem_append.mp hc with hc | hc
  · rw [hb c hc] at hends
    cases hends
  · exact he c hc

theorem endsIn_scalarLine (hk : IsKey key) (hv : IsValue value) {e : Text}
    (he : ∀ c ∈ e, c = '\n' ∨ c ∈ text) : EndsIn text (scalarLine 2 key value ++ e) := by
  refine endsIn_append (fun c hc => ?_) he
  simp only [scalarLine, List.mem_append] at hc
  rcases hc with ((hc | hc) | hc) | hc
  · rw [List.eq_of_mem_replicate hc]
    rfl
  · exact endsLine_eq_false (hk.2 c hc).1
  · simp only [List.mem_cons, List.not_mem_nil, or_false] at hc
    rcases hc with rfl | rfl <;> rfl
  · exact hv.1 c hc

theorem takeWhile_cons_append {inside : Text → Bool} {l : Text} {A B : List Text}
    (h : inside l = false) : (l :: A ++ B).takeWhile inside = [] :=
  List.takeWhile_cons_of_neg (by simp [h])

theorem takeWhile_of_endsSection {after : List Text}
    (h : after.takeWhile (fun l => !endsSection l) = []) :
    after.takeWhile isBlockLine = [] ∧ after.takeWhile isItem = [] ∧
      ∀ l ∈ after.head?, isNote l = false := by
  cases after with
  | nil => exact ⟨rfl, rfl, nofun⟩
  | cons l after =>
    have hl : endsSection l = true := by
      cases hl : endsSection l with
      | true => rfl
      | false =>
        rw [List.takeWhile_cons_of_pos (by simp [hl])] at h
        cases h
    refine ⟨?_, ?_, fun x hx => ?_⟩
    · refine List.takeWhile_cons_of_neg fun hb => ?_
      rw [(blockLine_kind hb).1] at hl
      cases hl
    · refine List.takeWhile_cons_of_neg fun hb => ?_
      rw [(item_kind hb).1] at hl
      cases hl
    · cases hx
      exact isNote_of_endsSection hl

/-- The line of the key is set. -/
def Has (section_ key : String) (value : Text) (ls : List Text) : Prop :=
  field section_ key ls = some [scalarLine 2 key value]

/-- **Replacing the line of a key.** -/
theorem setScalar_sets (hk : IsKey key) (hne : key ≠ "staticTalkgroups") (hv : IsValue value)
    {before body body' after : List Text}
    (hb : sectionBounds (splitlines text) section_ = .ok (before, body, after))
    (h : setScalar key value body = some body') :
    splitlines (before ++ body' ++ after).flatten = before ++ body' ++ after ∧
      Keeps [key] (splitlines text) (before ++ body' ++ after) ∧
      Has section_ key value (before ++ body' ++ after) := by
  obtain ⟨P, header, rfl, hls, hP, hh, hbody, hafter⟩ := sectionBounds_ok hb
  obtain ⟨A, l, B, rfl, rfl, hA, hl⟩ := replaceFirst_some h
  have he := isEnding_endingOf l
  have hnew := isKeyLine_scalarLine key value (endingOf l)
  have hfresh := fresh_scalarLine hk hv he
  have hold : splitlines text = (P ++ header :: A) ++ ([l] ++ (B ++ after)) := by
    rw [hls]
    simp
  have hshape : P ++ [header] ++ (A ++ (scalarLine 2 key value ++ endingOf l) :: B) ++ after =
      (P ++ header :: A) ++ ([scalarLine 2 key value ++ endingOf l] ++ (B ++ after)) := by
    simp
  have hlines := isLines_splitlines text
  rw [hold] at hlines
  have hended := lastEnded_of_append hlines (by simp)
  rw [hshape]
  refine ⟨splitlines_flatten (hlines.replace hended ?_ (List.cons_ne_nil _ _)), ?_, ?_⟩
  · exact fun x hx => List.mem_singleton.mp hx ▸ hfresh
  · rw [hold]
    refine keeps_of_segment (fun x hx => ?_) (fun x hx => ?_) (fun x hx => ?_)
      (List.cons_ne_nil _ _) (fun x hx => ?_) (fun _ => ⟨?_, ?_⟩) ?_ ?_
    · exact List.mem_singleton.mp hx ▸ inner_of_isKeyLine hk hne hl
    · exact List.mem_singleton.mp hx ▸ inner_of_isKeyLine hk hne hnew
    · refine List.mem_singleton.mp hx ▸ ⟨hfresh, endsIn_scalarLine hk hv fun c hc => ?_⟩
      exact (mem_endingOf hc).imp_right fun hcl => List.mem_flatten.mpr ⟨l, by simp, hcl⟩
    · cases hx
      exact isNote_of_isKeyLine hk hl
    · exact takeWhile_cons_append (keyLine_kind hk hl).2.1
    · exact takeWhile_cons_append (keyLine_kind hk hnew).2.1
    · exact takeWhile_cons_append (keyLine_kind hk hl).2.2
    · exact takeWhile_cons_append (keyLine_kind hk hnew).2.2
  · have hbody' : ∀ x ∈ A ++ (scalarLine 2 key value ++ endingOf l) :: B,
        endsSection x = false := by
      intro x hx
      rcases List.mem_append.mp hx with hx | hx
      · exact hbody x (List.mem_append_left _ hx)
      · rcases List.mem_cons.mp hx with rfl | hx
        · exact (keyLine_kind hk hnew).1
        · exact hbody x (List.mem_append_right _ (List.mem_cons_of_mem _ hx))
    rw [← hshape, List.append_assoc, List.append_assoc, List.singleton_append, Has, field,
      entryAt_section hP hh hbody' hafter, blockAt_append_of_none hA, blockAt_cons_of_pos hnew,
      takeWhile_false, Option.map_some, stripped, List.map_singleton,
      rstrip_scalarLine key hv he]

/-- **Adding a line for a key.** -/
theorem insertScalar_sets (hs : IsSection section_) (hk : IsKey key)
    (hne : key ≠ "staticTalkgroups") (hv : IsValue value) {before body after : List Text}
    (hb : sectionBounds (splitlines text) section_ = .ok (before, body, after))
    (h : setScalar key value body = none) (hr : Room section_ key (splitlines text))
    {e : Text} (he : IsEnding e) (hin : ∀ c ∈ e, c = '\n' ∨ c ∈ text) :
    splitlines (before ++ body ++ (scalarLine 2 key value ++ e) :: after).flatten =
        before ++ body ++ (scalarLine 2 key value ++ e) :: after ∧
      Keeps [key] (splitlines text) (before ++ body ++ (scalarLine 2 key value ++ e) :: after) ∧
      Has section_ key value (before ++ body ++ (scalarLine 2 key value ++ e) :: after) := by
  have hb' := hb
  obtain ⟨P, header, rfl, hls, hP, hh, hbody, hafter⟩ := sectionBounds_ok hb
  have hnone := replaceFirst_none h
  have hnew := isKeyLine_scalarLine key value e
  have hfresh := fresh_scalarLine hk hv he
  have hold : splitlines text = (P ++ header :: body) ++ ([] ++ after) := by
    rw [hls]
    simp
  have hshape : P ++ [header] ++ body ++ (scalarLine 2 key value ++ e) :: after =
      (P ++ header :: body) ++ ([scalarLine 2 key value ++ e] ++ after) := by
    simp
  have hlines := isLines_splitlines text
  have hended : LastEnded (P ++ header :: body) := by
    rcases hr with hr | hr | hr
    · by_cases ha : after = []
      · rwa [hold, ha, List.append_nil, List.append_nil] at hr
      · rw [hold] at hlines
        exact lastEnded_of_append hlines (by simpa using ha)
    · by_cases ha : after = []
      · rw [ha] at hb'
        rw [lastSection_of_bounds hs hb'] at hr
        cases hr
      · rw [hold] at hlines
        exact lastEnded_of_append hlines (by simpa using ha)
    · refine absurd ?_ hr
      rw [field, hls, entryAt_section hP hh hbody hafter, blockAt_eq_none_iff.mpr hnone,
        Option.map_none]
  rw [hold] at hlines
  obtain ⟨hstop, hstop', hnote⟩ := takeWhile_of_endsSection hafter
  rw [hshape]
  refine ⟨splitlines_flatten (hlines.replace hended ?_ (List.cons_ne_nil _ _)), ?_, ?_⟩
  · exact fun x hx => List.mem_singleton.mp hx ▸ hfresh
  · rw [hold]
    refine keeps_of_segment (fun x hx => absurd hx List.not_mem_nil) (fun x hx => ?_)
      (fun x hx => ?_) (List.cons_ne_nil _ _) hnote (fun _ => ⟨hstop, ?_⟩) hstop' ?_
    · exact List.mem_singleton.mp hx ▸ inner_of_isKeyLine hk hne hnew
    · rw [← hold, flatten_splitlines]
      exact List.mem_singleton.mp hx ▸ ⟨hfresh, endsIn_scalarLine hk hv hin⟩
    · exact takeWhile_cons_append (keyLine_kind hk hnew).2.1
    · exact takeWhile_cons_append (keyLine_kind hk hnew).2.2
  · have hbody' : ∀ x ∈ body ++ [scalarLine 2 key value ++ e], endsSection x = false := by
      intro x hx
      rcases List.mem_append.mp hx with hx | hx
      · exact hbody x hx
      · exact List.mem_singleton.mp hx ▸ (keyLine_kind hk hnew).1
    have hshape' : (P ++ header :: body) ++ ([scalarLine 2 key value ++ e] ++ after) =
        P ++ header :: ((body ++ [scalarLine 2 key value ++ e]) ++ after) := by
      simp
    rw [hshape', Has, field, entryAt_section hP hh hbody' hafter, blockAt_append_of_none hnone,
      blockAt_cons_of_pos hnew, takeWhile_false, Option.map_some, stripped, List.map_singleton,
      rstrip_scalarLine key hv he]

theorem bind_eq_ok {ε α β : Type} {r : Except ε α} {f : α → Except ε β} {b : β}
    (h : (r >>= f) = .ok b) : ∃ a, r = .ok a ∧ f a = .ok b := by
  cases r with
  | error e => cases h
  | ok a => exact ⟨a, rfl, h⟩

theorem upsertSectionScalar_sets (hs : IsSection section_) (hk : IsKey key)
    (hne : key ≠ "staticTalkgroups") (hv : IsValue value)
    (hr : Room section_ key (splitlines text))
    (h : upsertSectionScalar text section_ key value = .ok text') :
    Keeps [key] (splitlines text) (splitlines text') ∧
      Has section_ key value (splitlines text') := by
  obtain ⟨⟨before, body, after⟩, hb, h⟩ := bind_eq_ok h
  simp only at h
  cases hset : setScalar key value body with
  | some body' =>
    rw [hset] at h
    cases h
    obtain ⟨h1, h2, h3⟩ := setScalar_sets hk hne hv hb hset
    rw [h1]
    exact ⟨h2, h3⟩
  | none =>
    rw [hset] at h
    cases h
    obtain ⟨h1, h2, h3⟩ := insertScalar_sets hs hk hne hv hb hset hr (isEnding_newlineOf text)
      fun c hc => mem_newlineOf hc
    rw [h1]
    exact ⟨h2, h3⟩

theorem replaceSectionScalar_sets (hk : IsKey key) (hne : key ≠ "staticTalkgroups") (hv : IsValue value)
    (h : replaceSectionScalar text section_ key value = .ok text') :
    Keeps [key] (splitlines text) (splitlines text') ∧
      Has section_ key value (splitlines text') := by
  obtain ⟨⟨before, body, after⟩, hb, h⟩ := bind_eq_ok h
  simp only at h
  cases hset : setScalar key value body with
  | some body' =>
    rw [hset] at h
    cases h
    obtain ⟨h1, h2, h3⟩ := setScalar_sets hk hne hv hb hset
    rw [h1]
    exact ⟨h2, h3⟩
  | none =>
    rw [hset] at h
    cases h

/-- The lines of the mappings, without their ends. -/
def mappingTexts (mappings : List TalkgroupMapping) : List Text := mappingLines [] mappings

theorem mappingLines_eq (newline : Text) (mappings : List TalkgroupMapping) :
    mappingLines newline mappings = (mappingTexts mappings).map (· ++ newline) := by
  simp [mappingTexts, mappingLines, List.map_flatMap]

theorem mappingTexts_kind (mappings : List TalkgroupMapping) :
    ∃ entries, mappingTexts mappings = "  talkgroupMappings:".toList :: entries ∧
      ∀ l ∈ entries, isBlockLine l = true ∧ IsValue l ∧ l.head? = some ' ' := by
  refine ⟨_, rfl, fun l hl => ?_⟩
  simp only [List.append_nil, List.mem_flatMap, List.mem_cons, List.not_mem_nil, or_false] at hl
  obtain ⟨m, -, hl⟩ := hl
  have hvalue : ∀ {start : Text} (n : ℤ), (∀ c ∈ start, endsLine c = false) →
      IsValue (start ++ (toString n).toList) := by
    intro start n hs
    obtain ⟨hall, a, c, ha, hc⟩ := isValue_toString n
    exact ⟨List.forall_mem_append.mpr ⟨hs, hall⟩, start ++ a, c, by rw [ha, List.append_assoc], hc⟩
  have hblock : ∀ {rest : Text} {c : Char}, isSpace c = false →
      isBlockLine (' ' :: ' ' :: ' ' :: ' ' :: c :: rest) = true := by
    intro rest c hc
    rw [isBlockLine, decide_eq_true_eq]
    refine ⟨fun hs => ?_, ?_⟩
    · rw [(strip_eq_nil_iff _).mp hs c (by simp)] at hc
      cases hc
    · simp only [List.takeWhile_cons, decide_true, ite_true, List.length_cons]
      omega
  rcases hl with rfl | rfl
  · exact ⟨hblock (c := '-') rfl, hvalue m.p25 (by decide), rfl⟩
  · refine ⟨?_, hvalue m.brandmeister (by decide), rfl⟩
    rw [isBlockLine, decide_eq_true_eq]
    refine ⟨fun hs => ?_, ?_⟩
    · exact Bool.noConfusion ((strip_eq_nil_iff _).mp hs 'b' (by simp))
    · change 2 < (List.takeWhile _ (' ' :: ' ' :: ' ' :: ' ' :: ' ' :: ' ' :: _)).length
      simp only [List.takeWhile_cons, decide_true, ite_true, List.length_cons]
      omega

/-- **Replacing the talkgroup mappings.** -/
theorem replaceMappingBlock_sets {mappings : List TalkgroupMapping}
    (h : replaceMappingBlock text mappings = .ok text') :
    Keeps ["talkgroupMappings"] (splitlines text) (splitlines text') ∧
      mappingBlock (splitlines text') = some (mappingTexts mappings) := by
  have hk : IsKey "talkgroupMappings" := by decide
  have hne : "talkgroupMappings" ≠ "staticTalkgroups" := by decide
  obtain ⟨⟨before, body, after⟩, hb, h⟩ := bind_eq_ok h
  obtain ⟨P, header, rfl, hls, hP, hh, hbody, hafter⟩ := sectionBounds_ok hb
  simp only at h
  cases hd : body.dropWhile fun l => !isKeyLine 2 "talkgroupMappings" l with
  | nil =>
    rw [hd] at h
    cases h
  | cons l rest =>
    rw [hd] at h
    cases h
    have hl : isKeyLine 2 "talkgroupMappings" l = true := by
      have hhead := List.head?_dropWhile_not (fun l => !isKeyLine 2 "talkgroupMappings" l) body
      rw [hd] at hhead
      simpa using hhead
    obtain ⟨entries, hentries, hkind⟩ := mappingTexts_kind mappings
    have hnl := isEnding_newlineOf text
    generalize hA : body.takeWhile (fun l => !isKeyLine 2 "talkgroupMappings" l) = A
    generalize hM : rest.takeWhile isBlockLine = M
    generalize hD : rest.dropWhile isBlockLine = D
    generalize hY : entries.map (· ++ newlineOf text) = Y
    have hnew : mappingLines (newlineOf text) mappings =
        ("  talkgroupMappings:".toList ++ newlineOf text) :: Y := by
      rw [mappingLines_eq, hentries, List.map_cons, hY]
    have hAkey : ∀ x ∈ A, isKeyLine 2 "talkgroupMappings" x = false := by
      intro x hx
      rw [← hA] at hx
      simpa using List.mem_takeWhile_imp hx
    have hDstop : D.takeWhile isBlockLine = [] := by
      rw [← hD]
      cases hr : rest.dropWhile isBlockLine with
      | nil => rfl
      | cons x _ =>
        have hhead := List.head?_dropWhile_not isBlockLine rest
        rw [hr] at hhead
        exact List.takeWhile_cons_of_neg (by simpa using hhead)
    have hbodyeq : body = A ++ l :: (M ++ D) := by
      rw [← hA, ← hM, ← hD, List.takeWhile_append_dropWhile, ← hd, List.takeWhile_append_dropWhile]
    have hkeyline : isKeyLine 2 "talkgroupMappings" ("  talkgroupMappings:".toList ++ newlineOf text)
        = true := isKeyLine_iff.mpr ⟨':' :: newlineOf text, rfl, rfl⟩
    have hYkind : ∀ x ∈ Y, isBlockLine x = true ∧ Fresh x ∧ EndsIn text x := by
      intro x hx
      rw [← hY] at hx
      obtain ⟨t, ht, rfl⟩ := List.mem_map.mp hx
      obtain ⟨hb, hv, hhead⟩ := hkind t ht
      exact ⟨by rw [isBlockLine_append hnl.isSpace, hb], fresh_append hv.1 hhead hnl,
        endsIn_append hv.1 fun _ => mem_newlineOf⟩
    have hheadkind : Fresh ("  talkgroupMappings:".toList ++ newlineOf text) ∧
        EndsIn text ("  talkgroupMappings:".toList ++ newlineOf text) :=
      ⟨fresh_append (by decide) rfl hnl, endsIn_append (by decide) fun _ => mem_newlineOf⟩
    have hold : splitlines text = (P ++ header :: A) ++ ((l :: M) ++ (D ++ after)) := by
      rw [hls, hbodyeq]
      simp
    have hshape : P ++ [header] ++ A ++ mappingLines (newlineOf text) mappings ++ D ++ after =
        (P ++ header :: A) ++
          ((("  talkgroupMappings:".toList ++ newlineOf text) :: Y) ++ (D ++ after)) := by
      rw [hnew]
      simp
    have hlines := isLines_splitlines text
    rw [hold] at hlines
    have hended := lastEnded_of_append hlines (by simp)
    have hfresh : ∀ x ∈ ("  talkgroupMappings:".toList ++ newlineOf text) :: Y,
        Fresh x ∧ EndsIn text x :=
      List.forall_mem_cons.mpr ⟨hheadkind, fun x hx => (hYkind x hx).2⟩
    rw [hshape, splitlines_flatten
      (hlines.replace hended (fun x hx => (hfresh x hx).1) (List.cons_ne_nil _ _))]
    constructor
    · rw [hold]
      refine keeps_of_segment (List.forall_mem_cons.mpr ⟨inner_of_isKeyLine hk hne hl, ?_⟩)
        (List.forall_mem_cons.mpr ⟨inner_of_isKeyLine hk hne hkeyline, ?_⟩)
        (by rwa [← hold, flatten_splitlines]) (List.cons_ne_nil _ _) (fun x hx => ?_)
        (fun h => absurd rfl h) ?_ ?_
      · intro x hx
        rw [← hM] at hx
        exact inner_of_isBlockLine (List.mem_takeWhile_imp hx)
      · exact fun x hx => inner_of_isBlockLine (hYkind x hx).1
      · cases hx
        exact isNote_of_isKeyLine hk hl
      · exact takeWhile_cons_append (keyLine_kind hk hl).2.2
      · exact takeWhile_cons_append (keyLine_kind hk hkeyline).2.2
    · have hbody' : ∀ x ∈ A ++ ((("  talkgroupMappings:".toList ++ newlineOf text) :: Y) ++ D),
          endsSection x = false := by
        intro x hx
        rcases List.mem_append.mp hx with hx | hx
        · exact hbody x (by rw [hbodyeq]; exact List.mem_append_left _ hx)
        · rcases List.mem_append.mp hx with hx | hx
          · rcases List.mem_cons.mp hx with rfl | hx
            · exact (keyLine_kind hk hkeyline).1
            · exact (blockLine_kind (hYkind x hx).1).1
          · exact hbody x (by
              rw [hbodyeq]
              exact List.mem_append_right _ (List.mem_cons_of_mem _ (List.mem_append_right _ hx)))
      have hshape' : (P ++ header :: A) ++
          ((("  talkgroupMappings:".toList ++ newlineOf text) :: Y) ++ (D ++ after)) =
          P ++ header ::
            ((A ++ ((("  talkgroupMappings:".toList ++ newlineOf text) :: Y) ++ D)) ++ after) := by
        simp
      rw [hshape', mappingBlock, entryAt_section hP hh hbody' hafter, blockAt_append_of_none hAkey,
        List.cons_append, blockAt_cons_of_pos hkeyline,
        takeWhile_append_of_pos fun x hx => (hYkind x hx).1, hDstop, List.append_nil,
        Option.map_some, hentries, stripped, List.map_cons, ← hY, List.map_map]
      congr 2
      · exact rstrip_value ⟨by decide, "  talkgroupMappings".toList, ':', by decide, rfl⟩ hnl
      · refine (List.map_congr_left fun t ht => ?_).trans (List.map_id _)
        exact rstrip_value (hkind t ht).2.1 hnl

end Editors

/-- A field that a request sets when it is needed. -/
structure FieldEdit where
  needed : Bool
  section_ : String
  key : String
  value : Text

namespace FieldEdit

variable (f : FieldEdit)

/-- The field is one that the editors can set. -/
structure Valid : Prop where
  isSection : IsSection f.section_
  isKey : IsKey f.key
  ne : f.key ≠ "staticTalkgroups"
  isValue : IsValue f.value

theorem valid_mk {needed : Bool} {section_ key : String} {value : Text} (hs : IsSection section_)
    (hk : IsKey key) (hne : key ≠ "staticTalkgroups") (hv : IsValue value) :
    Valid ⟨needed, section_, key, value⟩ := ⟨hs, hk, hne, hv⟩

/-- The field has the requested value, or it is left alone. -/
def Done (ls ls' : List Text) : Prop :=
  if f.needed then Has f.section_ f.key f.value ls'
  else field f.section_ f.key ls' = field f.section_ f.key ls

/-- One edit. -/
def Step (ls ls' : List Text) : Prop := Keeps [f.key] ls ls' ∧ f.Done ls ls'

end FieldEdit

/-- The edits are made one after the other. -/
inductive Applied : List FieldEdit → List Text → List Text → Prop
  | nil (ls : List Text) : Applied [] ls ls
  | cons {f : FieldEdit} {fs : List FieldEdit} {ls ls' ls'' : List Text} :
      f.Step ls ls' → Applied fs ls' ls'' → Applied (f :: fs) ls ls''

namespace Applied

variable {fs : List FieldEdit} {ls ls' ls'' : List Text}

theorem keeps (h : Applied fs ls ls') : Keeps (fs.map FieldEdit.key) ls ls' := by
  induction h with
  | nil ls => exact Keeps.refl _ _
  | cons hstep _ ih => exact hstep.1.trans ih

/-- **Every field is done.** No later edit touches it. -/
theorem done (h : Applied fs ls ls') (hv : ∀ f ∈ fs, f.Valid)
    (hn : (fs.map FieldEdit.key).Nodup) : ∀ f ∈ fs, f.Done ls ls' := by
  induction h with
  | nil ls => exact fun _ hf => absurd hf List.not_mem_nil
  | @cons g gs ls ls' ls'' hstep hrest ih =>
    rw [List.map_cons, List.nodup_cons] at hn
    rw [List.forall_mem_cons] at hv
    have hkeep := hrest.keeps
    refine List.forall_mem_cons.mpr ⟨?_, fun f hf => ?_⟩
    · have hsame := hkeep.field g.section_ g.key hv.1.isSection hv.1.isKey hn.1
      have hdone := hstep.2
      unfold FieldEdit.Done Has at hdone ⊢
      rw [hsame]
      exact hdone
    · have hne : f.key ∉ [g.key] := by
        rw [List.mem_singleton]
        intro he
        exact hn.1 (he ▸ List.mem_map_of_mem hf)
      have hsame := hstep.1.field f.section_ f.key (hv.2 f hf).isSection (hv.2 f hf).isKey hne
      have hdone := ih hv.2 hn.2 f hf
      unfold FieldEdit.Done at hdone ⊢
      rw [← hsame]
      exact hdone

end Applied

namespace Applied

variable {fs : List FieldEdit} {f : FieldEdit} {text₀ text text' : Text}

theorem snoc {ls ls' ls'' : List Text} (h : Applied fs ls ls') (hstep : f.Step ls' ls'') :
    Applied (fs ++ [f]) ls ls'' := by
  induction h with
  | nil ls => exact cons hstep (nil _)
  | cons hfirst _ ih => exact cons hfirst (ih hstep)

theorem skip {ls ls' : List Text} (h : Applied fs ls ls') (hf : f.needed = false) :
    Applied (fs ++ [f]) ls ls' := by
  refine h.snoc ⟨Keeps.refl _ _, ?_⟩
  rw [FieldEdit.Done, hf, if_neg Bool.false_ne_true]

theorem upsert (h : Applied fs (splitlines text₀) (splitlines text)) (hv : f.Valid)
    (hn : f.key ∉ fs.map FieldEdit.key)
    (hr : f.needed = true → Room f.section_ f.key (splitlines text₀))
    (he : editIf f.needed (fun text => upsertSectionScalar text f.section_ f.key f.value) text =
      .ok text') : Applied (fs ++ [f]) (splitlines text₀) (splitlines text') := by
  cases hf : f.needed with
  | false =>
    rw [hf] at he
    cases he
    exact h.skip hf
  | true =>
    rw [hf] at he
    have hroom := h.keeps.room hv.isSection hv.isKey hn (hr hf)
    obtain ⟨hkeep, hset⟩ :=
      upsertSectionScalar_sets hv.isSection hv.isKey hv.ne hv.isValue hroom he
    refine h.snoc ⟨hkeep, ?_⟩
    rw [FieldEdit.Done, hf, if_pos rfl]
    exact hset

theorem replace (h : Applied fs (splitlines text₀) (splitlines text)) (hv : f.Valid)
    (he : editIf f.needed (fun text => replaceSectionScalar text f.section_ f.key f.value) text =
      .ok text') : Applied (fs ++ [f]) (splitlines text₀) (splitlines text') := by
  cases hf : f.needed with
  | false =>
    rw [hf] at he
    cases he
    exact h.skip hf
  | true =>
    rw [hf] at he
    obtain ⟨hkeep, hset⟩ := replaceSectionScalar_sets hv.isKey hv.ne hv.isValue he
    refine h.snoc ⟨hkeep, ?_⟩
    rw [FieldEdit.Done, hf, if_pos rfl]
    exact hset

end Applied

section Bridge

variable {F O : Type} (c : Changed F O) (values : Requested F)

/-- The fields of a request, and the slot of the messages if there is a section for them. -/
def bridgeEdits (sms : Bool) : List FieldEdit :=
  [⟨c.repeaterId, "brandmeister", "repeaterId", decimalText values.repeaterId⟩,
    ⟨c.callsign, "brandmeister", "callsign", jsonString values.brandmeisterCallsign⟩,
    ⟨c.timeslot, "brandmeister", "timeslot", decimalText values.brandmeisterTimeslot⟩,
    ⟨c.timeslot, "brandmeister", "slot1", yamlBool (values.brandmeisterTimeslot = 1)⟩,
    ⟨c.timeslot, "brandmeister", "slot2", yamlBool (values.brandmeisterTimeslot = 2)⟩,
    ⟨sms, "sms", "bmSlot", decimalText values.brandmeisterTimeslot⟩,
    ⟨c.rxFrequency, "brandmeister", "rxFrequency", decimalText values.brandmeisterRxFrequency⟩,
    ⟨c.txFrequency, "brandmeister", "txFrequency", decimalText values.brandmeisterTxFrequency⟩,
    ⟨c.password, "brandmeister", "password", jsonString values.brandmeisterPassword⟩,
    ⟨c.dynamicTimeout, "routing", "dynamicTimeoutSeconds",
      decimalText values.dynamicTimeoutSeconds⟩]

theorem bridgeEdits_valid (sms : Bool) : ∀ f ∈ bridgeEdits c values sms, f.Valid := by
  intro f hf
  simp only [bridgeEdits, List.mem_cons, List.not_mem_nil, or_false] at hf
  rcases hf with rfl | rfl | rfl | rfl | rfl | rfl | rfl | rfl | rfl | rfl
  · exact FieldEdit.valid_mk (by decide) (by decide) (by decide) (isValue_toString _)
  · exact FieldEdit.valid_mk (by decide) (by decide) (by decide) (isValue_jsonString _)
  · exact FieldEdit.valid_mk (by decide) (by decide) (by decide) (isValue_toString _)
  · exact FieldEdit.valid_mk (by decide) (by decide) (by decide) (isValue_yamlBool _)
  · exact FieldEdit.valid_mk (by decide) (by decide) (by decide) (isValue_yamlBool _)
  · exact FieldEdit.valid_mk (by decide) (by decide) (by decide) (isValue_toString _)
  · exact FieldEdit.valid_mk (by decide) (by decide) (by decide) (isValue_toString _)
  · exact FieldEdit.valid_mk (by decide) (by decide) (by decide) (isValue_toString _)
  · exact FieldEdit.valid_mk (by decide) (by decide) (by decide) (isValue_jsonString _)
  · exact FieldEdit.valid_mk (by decide) (by decide) (by decide) (isValue_toString _)

/-- The added lines do not run into a line without an end. -/
def Fits (ls : List Text) : Prop :=
  ∀ f ∈ bridgeEdits c values c.timeslot, f.needed = true → Room f.section_ f.key ls

/-- The slot settings are four fields. -/
theorem editTimeslot_fields {text text' : Text} {timeslot : ℤ}
    (h : editIf c.timeslot (editTimeslot timeslot) text = .ok text') :
    ∃ t₁ t₂ t₃ sms, sms = (c.timeslot && (keepLines t₃).any opensSms) ∧
      editIf c.timeslot (fun text => upsertSectionScalar text "brandmeister" "timeslot"
        (decimalText timeslot)) text = .ok t₁ ∧
      editIf c.timeslot (fun text => upsertSectionScalar text "brandmeister" "slot1"
        (yamlBool (timeslot = 1))) t₁ = .ok t₂ ∧
      editIf c.timeslot (fun text => upsertSectionScalar text "brandmeister" "slot2"
        (yamlBool (timeslot = 2))) t₂ = .ok t₃ ∧
      editIf sms (fun text => upsertSectionScalar text "sms" "bmSlot" (decimalText timeslot)) t₃ =
        .ok text' := by
  cases hc : c.timeslot with
  | false =>
    rw [hc] at h
    exact ⟨text, text, text, false, rfl, rfl, rfl, rfl, h⟩
  | true =>
    rw [hc] at h
    obtain ⟨t₁, h₁, h⟩ := bind_eq_ok h
    obtain ⟨t₂, h₂, h⟩ := bind_eq_ok h
    obtain ⟨t₃, h₃, h⟩ := bind_eq_ok h
    exact ⟨t₁, t₂, t₃, _, rfl, h₁, h₂, h₃, h⟩

/-- The slot of the messages is set only with the other slot settings, and then whenever the file has a
section for them. Carriage returns hide its header from the pattern that looks for it. -/
structure SetsSlot (c : Changed F O) (sms : Bool) (ls : List Text) : Prop where
  timeslot : sms = true → c.timeslot = true
  found : c.timeslot = true → Unix ls.flatten → ls.any opensSms = true → sms = true

/-- **All edits of a request.** -/
theorem editBridge_applied {text text' : Text} (hfits : Fits c values (splitlines text))
    (h : editBridge c values text = .ok text') :
    ∃ sms t, SetsSlot c sms (splitlines text) ∧
      Applied (bridgeEdits c values sms) (splitlines text) (splitlines t) ∧
      editIf c.mappings (fun text => replaceMappingBlock text values.talkgroupMappings) t =
        .ok text' := by
  obtain ⟨t₁, h₁, h⟩ := bind_eq_ok h
  obtain ⟨t₂, h₂, h⟩ := bind_eq_ok h
  obtain ⟨t₃, h₃, h⟩ := bind_eq_ok h
  obtain ⟨u₁, u₂, u₃, sms, hsms, g₁, g₂, g₃, g₄⟩ := editTimeslot_fields c h₃
  obtain ⟨t₄, h₄, h⟩ := bind_eq_ok h
  obtain ⟨t₅, h₅, h⟩ := bind_eq_ok h
  obtain ⟨t₆, h₆, h⟩ := bind_eq_ok h
  obtain ⟨t₇, h₇, h⟩ := bind_eq_ok h
  have hslot : sms = true → c.timeslot = true := fun h => by
    rw [hsms, Bool.and_eq_true] at h
    exact h.1
  have hv := bridgeEdits_valid c values sms
  simp only [Fits, bridgeEdits, List.forall_mem_cons] at hfits
  simp only [bridgeEdits, List.forall_mem_cons] at hv
  obtain ⟨-, r₂, r₃, r₄, r₅, r₆, r₇, r₈, -, r₁₀, -⟩ := hfits
  obtain ⟨v₁, v₂, v₃, v₄, v₅, v₆, v₇, v₈, v₉, v₁₀, -⟩ := hv
  have a₁ := (Applied.nil (splitlines text)).replace v₁ h₁
  have a₂ := a₁.upsert v₂ (by simp) r₂ h₂
  have a₃ := a₂.upsert v₃ (by simp) r₃ g₁
  have a₄ := a₃.upsert v₄ (by simp) r₄ g₂
  have a₅ := a₄.upsert v₅ (by simp) r₅ g₃
  have a₆ := a₅.upsert v₆ (by simp) (fun h => r₆ (hslot h)) g₄
  have a₇ := a₆.upsert v₇ (by simp) r₇ h₄
  have a₈ := a₇.upsert v₈ (by simp) r₈ h₅
  have a₉ := a₈.replace v₉ h₆
  refine ⟨sms, t₇, ⟨hslot, fun hc hu ho => ?_⟩, a₉.upsert v₁₀ (by simp) r₁₀ h₇, h⟩
  have hu₃ : Unix u₃ := by
    have hunix := a₅.keeps.unix hu
    rwa [flatten_splitlines] at hunix
  rw [hsms, hc, keepLines_eq hu₃, a₅.keeps.opensSms, ho]
  rfl

theorem bridgeEdits_keys (sms : Bool) : (bridgeEdits c values sms).map FieldEdit.key =
    ["repeaterId", "callsign", "timeslot", "slot1", "slot2", "bmSlot", "rxFrequency", "txFrequency",
      "password", "dynamicTimeoutSeconds"] := rfl

/-- **What a request does to the file of the bridge.** -/
theorem editBridge_spec {text text' : Text} (hfits : Fits c values (splitlines text))
    (h : editBridge c values text = .ok text') :
    (∃ sms, SetsSlot c sms (splitlines text) ∧
        ∀ f ∈ bridgeEdits c values sms, f.Done (splitlines text) (splitlines text')) ∧
      (if c.mappings then
        mappingBlock (splitlines text') = some (mappingTexts values.talkgroupMappings)
      else mappingBlock (splitlines text') = mappingBlock (splitlines text)) ∧
      staticBlock (splitlines text') = staticBlock (splitlines text) ∧
      (Plain (splitlines text) → Plain (splitlines text')) := by
  obtain ⟨sms, t, hslot, happ, hm⟩ := editBridge_applied c values hfits h
  have hdone := happ.done (bridgeEdits_valid c values sms) (by rw [bridgeEdits_keys]; decide)
  have hkeep := happ.keeps
  have hmap : mappingBlock (splitlines t) = mappingBlock (splitlines text) :=
    hkeep.mappings (by rw [bridgeEdits_keys]; decide)
  cases hc : c.mappings with
  | false =>
    rw [hc] at hm
    cases hm
    exact ⟨⟨sms, hslot, hdone⟩, hmap, hkeep.static, hkeep.plain⟩
  | true =>
    rw [hc] at hm
    obtain ⟨hkeep', hset⟩ := replaceMappingBlock_sets hm
    refine ⟨⟨sms, hslot, fun f hf => ?_⟩, hset, hkeep'.static.trans hkeep.static, fun hp =>
      hkeep'.plain (hkeep.plain hp)⟩
    have hv := bridgeEdits_valid c values sms f hf
    have hne : f.key ∉ ["talkgroupMappings"] := by
      have hmem := List.mem_map_of_mem (f := FieldEdit.key) hf
      rw [bridgeEdits_keys] at hmem
      intro hk
      rw [List.mem_singleton.mp hk] at hmem
      revert hmem
      decide
    have hd := hdone f hf
    have hsame := hkeep'.field f.section_ f.key hv.isSection hv.isKey hne
    unfold FieldEdit.Done Has at hd ⊢
    rw [hsame]
    exact hd

end Bridge

end Dashboard
