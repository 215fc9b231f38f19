import QuantarBridge.Sync.UpdateEnd

/-!
# The synchronised list

The synchronisation writes the list of the static talkgroups, and the scripts read it with a reader of
their own, which goes by sections and indentation where the synchronisation goes by the first block
with the key.

* `readLines_append_quiet`, `readStaticTalkgroups_withSms`: lines that the reader does not see;
* `Around`, `around_of_split`: the lines around a list, and what an update makes of them;
* `list_read_iff`: **exactly when every list that is written is read back**;
* `updateText_again`: **an update leaves no trace of an earlier one**;
* `other_lines_stay_iff`: **exactly when the lines around the list stay**.
-/

set_option autoImplicit false

namespace Sync

open Dashboard (splitlines splitlines_append splitlines_append_of_ended endsSection Fresh strip IsLines
  Open isLines_append_iff splitlines_flatten isLines_splitlines flatten_splitlines exists_rstrip
  rstrip_eq_nil_iff dropEnd)

/-! ## Lines that the reader passes -/

theorem startsSection_of_not_endsSection {l : Text} (h : endsSection l = false) :
    startsSection "routing" l = false := by
  cases hs : startsSection "routing" l with
  | false => rfl
  | true =>
    rw [startsSection, decide_eq_true_eq] at hs
    have hstrip : strip l = 'r' :: "outing:".toList := hs.1.trans (by decide)
    rw [endsSection, hstrip, decide_eq_false_iff_not] at h
    exact absurd ⟨hs.2, by decide⟩ h

theorem blank_kind {l : Text} (h : strip l = []) :
    endsSection l = false ∧ stopsList l = false ∧ isTalkgroupsKey l = false ∧ numberOf l = none := by
  refine ⟨?_, ?_, ?_, ?_⟩
  · rw [endsSection, h]
  · simp [stopsList, h]
  · rw [isTalkgroupsKey, h, decide_eq_false_iff_not]
    exact fun hk => absurd hk.1 (by decide)
  · rw [numberOf, h, if_neg (by decide)]

theorem listNumbers_append_blank {blanks : List Text} (h : ∀ l ∈ blanks, strip l = [])
    (lines : List Text) : listNumbers (lines ++ blanks) = listNumbers lines := by
  rw [listNumbers_eq, listNumbers_eq, List.takeWhile_append]
  split_ifs with hall
  · have hnone : blanks.filterMap numberOf = [] := by
      rw [List.filterMap_eq_nil_iff]
      exact fun l hl => (blank_kind (h l hl)).2.2.2
    have hpass : ∀ l ∈ blanks, (!stopsList l) = true := fun l hl => by
      rw [(blank_kind (h l hl)).2.1]
      rfl
    rw [List.takeWhile_eq_self_iff.mpr hpass, List.filterMap_append, hnone, List.append_nil,
      (List.takeWhile_prefix _).eq_of_length hall]
  · rfl

theorem talkgroupNumbers_append_blank {blanks : List Text} (h : ∀ l ∈ blanks, strip l = [])
    (lines : List Text) : talkgroupNumbers (lines ++ blanks) = talkgroupNumbers lines := by
  have hnone : blanks.dropWhile (fun l => !isTalkgroupsKey l) = [] :=
    List.dropWhile_eq_nil_iff.mpr fun l hl => by rw [(blank_kind (h l hl)).2.2.1]; rfl
  rw [talkgroupNumbers, talkgroupNumbers, List.dropWhile_append, hnone]
  cases lines.dropWhile fun l => !isTalkgroupsKey l with
  | nil => rfl
  | cons l rest => exact listNumbers_append_blank h rest

/-- **Lines without a section `routing`, blank up to the next section, are not seen.** -/
theorem readLines_append_quiet {quiet : List Text}
    (hstarts : ∀ l ∈ quiet, startsSection "routing" l = false)
    (hblank : ∀ l ∈ quiet.takeWhile fun l => !endsSection l, strip l = []) (lines : List Text) :
    readLines (lines ++ quiet) = readLines lines := by
  have hnone : quiet.dropWhile (fun l => !startsSection "routing" l) = [] :=
    List.dropWhile_eq_nil_iff.mpr fun l hl => by rw [hstarts l hl]; rfl
  rw [readLines, readLines, sectionLines, sectionLines, List.dropWhile_append, hnone]
  cases lines.dropWhile fun l => !startsSection "routing" l with
  | nil => rfl
  | cons header rest =>
    show some (sortedSet (talkgroupNumbers ((rest ++ quiet).takeWhile _))) =
      some (sortedSet (talkgroupNumbers (rest.takeWhile _)))
    rw [List.takeWhile_append]
    split_ifs with hall
    · rw [talkgroupNumbers_append_blank hblank, (List.takeWhile_prefix _).eq_of_length hall]
    · rfl

theorem map_rstrip_splitlines {text : Text} (hne : rstrip text ≠ []) :
    ∃ blanks, (∀ l ∈ blanks, l = []) ∧
      (splitlines text).map rstrip = (splitlines (rstrip text)).map rstrip ++ blanks := by
  have hflat := flatten_splitlines text
  obtain ⟨front, l, blankLines, hlines, hblank, hstrip, hl⟩ :=
    rstrip_flatten (show rstrip (splitlines text).flatten ≠ [] by rwa [hflat])
  rw [hflat] at hstrip
  have hparts := (isLines_append_iff _ _).mp (hlines ▸ isLines_splitlines text)
  have hopen : Open (rstrip l) :=
    ⟨hl, endsLine_rstrip (hparts.2.1.1 l List.mem_cons_self)⟩
  -- the first character of the last line stays
  have hhead : (rstrip l).head? = l.head? := by
    obtain ⟨w, hlw, -⟩ := exists_rstrip l
    conv_rhs => rw [hlw]
    rw [List.head?_append_of_ne_nil _ hl]
  have hnew : IsLines (front ++ [rstrip l]) := by
    refine (isLines_append_iff _ _).mpr ⟨hparts.1, ⟨List.forall_mem_singleton.mpr (Or.inr hopen),
      List.isChain_singleton _⟩, fun x hx y hy => ?_⟩
    cases hy
    have hfollows := hparts.2.2 x hx l rfl
    exact ⟨hfollows.1, hhead ▸ hfollows.2⟩
  have hsplit : splitlines (rstrip text) = front ++ [rstrip l] := by
    rw [hstrip, ← splitlines_flatten hnew, List.flatten_append, List.flatten_singleton]
  refine ⟨blankLines.map rstrip, fun x hx => ?_, ?_⟩
  · obtain ⟨b, hb, rfl⟩ := List.mem_map.mp hx
    exact (rstrip_eq_nil_iff b).mpr (hblank b hb)
  · rw [hsplit, hlines]
    simp [rstrip_rstrip]

/-- **The reader does not see the section `sms`** behind a text. -/
theorem readStaticTalkgroups_withSms {text : Text} (hne : rstrip text ≠ []) :
    readStaticTalkgroups (withSms text) = readStaticTalkgroups text := by
  obtain ⟨body, hbody, -, -, hkind⟩ := smsConfigBlock_kind
  obtain ⟨blanks, hblanks, hlines⟩ := map_rstrip_splitlines hne
  obtain ⟨a, c, hac, hc⟩ := (rstrip_cases text).resolve_left hne
  have htext : withSms text =
      rstrip text ++ ['\n'] ++ ('\n' :: (['s', 'm', 's', ':', '\n'] ++ body)) := by
    have h := append_newlines hbody (rstrip text) []
    rw [List.append_nil, List.nil_append] at h
    exact h
  have hsms : (splitlines (withSms text)).map rstrip = (splitlines (rstrip text)).map rstrip ++
      [] :: ['s', 'm', 's', ':'] :: (splitlines body).map rstrip := by
    have hempty (t : Text) : splitlines ('\n' :: t) = ['\n'] :: splitlines t :=
      splitlines_append (a := ['\n']) rfl
    have hheader : splitlines (['s', 'm', 's', ':', '\n'] ++ body) =
        ['s', 'm', 's', ':', '\n'] :: splitlines body :=
      splitlines_append (a := ['s', 'm', 's', ':', '\n']) rfl
    rw [htext, splitlines_append (by simp), hempty, hheader, List.map_append, hac,
      map_rstrip_splitlines_newline hc]
    rfl
  have hquiet : ∀ l ∈ (splitlines body).map rstrip, startsSection "routing" l = false := by
    intro l hl
    obtain ⟨x, hx, rfl⟩ := List.mem_map.mp hl
    rw [kind_rstrip (fun b w hw => startsSection_append hw _ b)]
    exact startsSection_of_not_endsSection (hkind x hx).1
  rw [readStaticTalkgroups, readStaticTalkgroups, ← readLines_map_rstrip, hsms,
    readLines_append_quiet, ← readLines_map_rstrip (splitlines text), hlines, readLines_append_quiet]
  · exact fun l hl => by rw [hblanks l hl]; decide
  · exact fun l hl => by rw [hblanks l ((List.takeWhile_prefix _).subset hl)]; rfl
  · exact List.forall_mem_cons.mpr ⟨by decide, List.forall_mem_cons.mpr ⟨by decide, hquiet⟩⟩
  · rw [List.takeWhile_cons_of_pos (by decide), List.takeWhile_cons_of_neg (by decide)]
    exact List.forall_mem_singleton.mpr rfl


/-! ## The list that is written -/

theorem splitlines_fresh {ls : List Text} (h : ∀ l ∈ ls, Fresh l) (text : Text) :
    splitlines (ls.flatten ++ text) = ls ++ splitlines text := by
  induction ls with
  | nil => rfl
  | cons l ls ih =>
    obtain ⟨hl, hls⟩ := List.forall_mem_cons.mp h
    rw [List.flatten_cons, List.append_assoc, splitlines_append_of_ended hl.1, ih hls]
    · rfl
    · rw [hl.2.1]
      exact fun hr => absurd hr.1 (by decide)

theorem splitlines_terminated {ls : List Text} (h : ∀ l ∈ ls, Terminated l) (text : Text) :
    splitlines (ls.flatten ++ text) = splitlines ls.flatten ++ splitlines text := by
  rcases List.eq_nil_or_concat ls with rfl | ⟨front, l, hls⟩
  · rfl
  · rw [List.concat_eq_append] at hls
    obtain ⟨b, hb, -⟩ := h l (by simp [hls])
    exact splitlines_append (by simp [hls, hb])

/-- The reader takes no talkgroups from the lines behind a list. -/
def ReadsNone (rest : List Text) : Prop :=
  listNumbers rest = [] ∧ talkgroupNumbers (rest.takeWhile fun l => !endsSection l) = []

/-! ## The lines of an update -/

/-- The lines with a list between them. -/
def written (before added after : List Text) (tgs : List ℕ) : List Text :=
  before ++ (formatStaticTalkgroupsBlock tgs ++ (added ++ after))

/-- The last line that an update writes itself ends in text. -/
theorem exists_last_written (before lines : List Text) (tgs : List ℕ) : ∃ front m, Neat m ∧
    ∀ rest, written before (addedMappings lines) rest tgs = front ++ m :: rest := by
  rcases List.eq_nil_or_concat (formatStaticTalkgroupsBlock tgs ++ addedMappings lines) with
    hnil | ⟨front, m, hconcat⟩
  · exact absurd (List.append_eq_nil_iff.mp hnil).1 (format_ne_nil tgs)
  · rw [List.concat_eq_append] at hconcat
    have hm : m ∈ formatStaticTalkgroupsBlock tgs ++ addedMappings lines := by simp [hconcat]
    refine ⟨before ++ front, m, (List.mem_append.mp hm).elim (neat_format tgs m)
      (neat_addedMappings lines m), fun rest => ?_⟩
    rw [written, ← List.append_assoc (formatStaticTalkgroupsBlock tgs), hconcat]
    simp

theorem opensSms_format (tgs : List ℕ) : (formatStaticTalkgroupsBlock tgs).any opensSms = false := by
  obtain ⟨header, items, hformat, -, -, hfresh⟩ := formatStaticTalkgroupsBlock_kind tgs
  rw [hformat, List.any_eq_false]
  intro l hl ho
  rw [opensSms, decide_eq_true_eq] at ho
  obtain ⟨rest, rfl⟩ := List.isPrefixOf_iff_prefix.mp ho.1
  have hhead : some 's' = some ' ' := (hfresh _ hl).1.2.2
  exact absurd hhead (by decide)

theorem opensSms_written (before added after : List Text) (tgs : List ℕ) :
    (written before added after tgs).any opensSms = (before ++ (added ++ after)).any opensSms := by
  simp only [written, List.any_append, opensSms_format, Bool.false_or]

/-- The lines around the list of a text, and what an update makes of them. -/
structure Around (text : Text) (before after : List Text) : Prop where
  update : ∀ tgs, updateText text tgs =
    some (finish (written before (addedMappings (keepLines text)) after tgs))
  mappings : ∀ tgs,
    hasTalkgroupMappings (written before (addedMappings (keepLines text)) after tgs) = true
  terminated : ∀ l ∈ before, Terminated l
  opens : ∀ l ∈ before, opensBlock l = false
  kept : IsKept after
  items : after.takeWhile isItem = []
  lines : ∀ l ∈ before ++ after, l ∈ keepLines text

section Update

variable {text : Text} {before block after : List Text}

theorem around_of_split (h : splitBlock (keepLines text) = some (before, block, after)) :
    Around text before after := by
  obtain ⟨header, items, rfl, hls, hbefore, hheader, hitems, hafter⟩ := splitBlock_some h
  have hkept := isKept_keepLines text
  rw [hls] at hkept
  refine ⟨fun tgs => ?_, fun tgs => ?_, hkept.left (List.cons_ne_nil _ _), hbefore,
    hkept.right.right, hafter, fun l hl => ?_⟩
  · have hupdate := updateText_parts hkept hbefore hheader hitems hafter tgs
    rwa [← hls, flatten_keepLines] at hupdate
  · -- the key is there, or it is added
    obtain ⟨header', items', hformat, hh', hi', -⟩ := formatStaticTalkgroupsBlock_kind tgs
    rw [written, hls, addedMappings_block hheader hitems hh' hi', ← hformat, addedMappings]
    split_ifs with hhas
    · exact hhas
    · exact hasTalkgroupMappings_of_mem (l := line "  talkgroupMappings: []") (by simp) (by decide)
  · rw [hls]
    rcases List.mem_append.mp hl with hl | hl
    · exact List.mem_append_left _ hl
    · exact List.mem_append_right _ (List.mem_append_right _ hl)

section Around

variable (h : Around text before after)
include h

theorem Around.isKept (tgs : List ℕ) {rest : List Text} (hrest : IsKept rest) :
    IsKept (written before (addedMappings (keepLines text)) rest tgs) :=
  IsKept.append h.terminated (IsKept.append (terminated_format tgs)
    (IsKept.append (terminated_addedMappings _) hrest))

/-- **The text that is written is read by its lines.** -/
theorem Around.read (tgs : List ℕ) : ∃ new, updateText text tgs = some new ∧
    readStaticTalkgroups new = readLines (splitlines before.flatten ++
      (formatStaticTalkgroupsBlock tgs ++
        splitlines (addedMappings (keepLines text) ++ after).flatten)) := by
  refine ⟨_, h.update tgs, ?_⟩
  have hlines : splitlines (written before (addedMappings (keepLines text)) after tgs).flatten =
      splitlines before.flatten ++ (formatStaticTalkgroupsBlock tgs ++
        splitlines (addedMappings (keepLines text) ++ after).flatten) := by
    obtain ⟨header, items, hformat, -, -, hfresh⟩ := formatStaticTalkgroupsBlock_kind tgs
    rw [written, List.flatten_append, splitlines_terminated h.terminated, List.flatten_append,
      splitlines_fresh (hformat ▸ fun l hl => (hfresh l hl).1)]
  rw [← hlines, finish]
  split_ifs
  · rfl
  · refine readStaticTalkgroups_withSms fun hnil => ?_
    obtain ⟨front, m, hm, hwritten⟩ := exists_last_written before (keepLines text) tgs
    refine hm.rstrip.1 ((rstrip_eq_nil_iff m).mpr fun c hc => ?_)
    refine (rstrip_eq_nil_iff _).mp hnil c (List.mem_flatten.mpr ⟨m, ?_, hc⟩)
    rw [hwritten]
    exact List.mem_append_right _ List.mem_cons_self

/-- An update of a text that was written. -/
theorem Around.update_written (tgs tgs' : List ℕ) {rest : List Text} (hrest : IsKept rest)
    (hitems : rest.takeWhile isItem = [])
    (hhas : hasTalkgroupMappings (written before (addedMappings (keepLines text)) rest tgs) = true) :
    updateText (written before (addedMappings (keepLines text)) rest tgs).flatten tgs' =
      some (finish (written before (addedMappings (keepLines text)) rest tgs')) := by
  obtain ⟨header, items, hformat, hh, hi, -⟩ := formatStaticTalkgroupsBlock_kind tgs
  have hkept := h.isKept tgs hrest
  have hnone : addedMappings (written before (addedMappings (keepLines text)) rest tgs) = [] := by
    rw [addedMappings, if_pos hhas]
  have hstop : (addedMappings (keepLines text) ++ rest).takeWhile isItem = [] := by
    rw [addedMappings]
    split_ifs
    · exact hitems
    · exact List.takeWhile_cons_of_neg (by decide)
  rw [written, hformat] at hkept hnone ⊢
  have hparts := updateText_parts hkept h.opens hh hi hstop tgs'
  rwa [hnone, List.nil_append] at hparts

/-- **The section `sms` comes behind the same lines**, whatever list is written. -/
theorem Around.keepLines_withSms : ∃ tail, tail.takeWhile isItem = [] ∧ tail.any opensSms = true ∧
    ∀ tgs, keepLines (withSms (written before (addedMappings (keepLines text)) after tgs).flatten) =
      written before (addedMappings (keepLines text)) tail tgs := by
  obtain ⟨tail, hitems, htail, hwith⟩ := withSms_tail h.items
  refine ⟨tail, hitems, htail, fun tgs => ?_⟩
  obtain ⟨front, m, hm, hwritten⟩ := exists_last_written before (keepLines text) tgs
  have hk := h.isKept tgs h.kept
  rw [hwritten] at hk
  rw [hwritten, hwritten, hwith front m hm hk]

end Around

/-- **When the synchronised list is read back.** -/
theorem list_read_iff (h : splitBlock (keepLines text) = some (before, block, after)) :
    (∀ tgs : List ℕ, (∀ tg ∈ tgs, (Nat.toDigits 10 tg).length ≤ 4300) →
      ∃ new, updateText text tgs = some new ∧
        readStaticTalkgroups new = some (sortedSet (tgs.filter (0 < ·)))) ↔
      Reaches (splitlines before.flatten) ∧
        ReadsNone (splitlines (addedMappings (keepLines text) ++ after).flatten) := by
  have hread (tgs : List ℕ) := (around_of_split h).read tgs
  generalize splitlines (addedMappings (keepLines text) ++ after).flatten = rest at hread ⊢
  constructor
  · intro hall
    have hsame : ∀ tgs : List ℕ, (∀ tg ∈ tgs, (Nat.toDigits 10 tg).length ≤ 4300) →
        readLines (splitlines before.flatten ++ (formatStaticTalkgroupsBlock tgs ++ rest)) =
          some (sortedSet (tgs.filter (0 < ·))) := by
      intro tgs htgs
      obtain ⟨new, hnew, hback⟩ := hall tgs htgs
      obtain ⟨new', hnew', hlines⟩ := hread tgs
      rw [← hlines, ← hback, Option.some.inj (hnew.symm.trans hnew')]
    have hone := hsame [1] (by decide)
    have htwo := hsame [2] (by decide)
    have hreaches : Reaches (splitlines before.flatten) := by
      by_contra hnot
      rw [readLines_of_not_reaches hnot (isBlock_format [1]) (isBlock_format [2]), htwo] at hone
      exact absurd hone (by decide)
    rw [readLines_of_reaches hreaches, talkgroupNumbers_format (by decide),
      if_neg (List.cons_ne_nil _ _), Option.some_inj, sortedSet_eq_iff] at hone htwo
    have hempty := hsame [] (by simp)
    rw [readLines_of_reaches hreaches, talkgroupNumbers_format (by simp), if_pos rfl,
      Option.some_inj, sortedSet_eq_iff] at hempty
    refine ⟨hreaches, List.eq_nil_iff_forall_not_mem.mpr fun n hn => ?_,
      List.eq_nil_iff_forall_not_mem.mpr fun n hn => ?_⟩
    · -- a number behind the list would be one and two
      have h1 := (hone n).mp (List.mem_append_right _ hn)
      have h2 := (htwo n).mp (List.mem_append_right _ hn)
      simp at h1 h2
      omega
    · exact absurd ((hempty n).mp hn) (by simp)
  · rintro ⟨hreaches, hlist, hsection⟩ tgs htgs
    obtain ⟨new, hnew, hlines⟩ := hread tgs
    refine ⟨new, hnew, ?_⟩
    rw [hlines, readLines_of_reaches hreaches, talkgroupNumbers_format htgs, hlist, hsection,
      List.append_nil]
    split_ifs with hnil
    · rw [hnil]
      rfl
    · rfl

/-- A file with the list in its section. -/
def sampleText (tgs : List ℕ) : Text :=
  (written ["sms:\n".toList, "routing:\n".toList] [] ["  talkgroupMappings: []\n".toList] tgs).flatten

theorem sampleText_split : splitBlock (keepLines (sampleText [91])) =
    some (["sms:\n".toList, "routing:\n".toList], formatStaticTalkgroupsBlock [91],
      ["  talkgroupMappings: []\n".toList]) := by
  decide +kernel

/-- A comment stands in the list. -/
def commentedText : Text :=
  ("sms:\nrouting:\n  talkgroupMappings: []\n  staticTalkgroups:\n    - 91\n    # local\n" ++
    "    - 92\n").toList

theorem commentedText_split : splitBlock (keepLines commentedText) =
    some (["sms:\n".toList, "routing:\n".toList, "  talkgroupMappings: []\n".toList],
      formatStaticTalkgroupsBlock [91], ["    # local\n".toList, "    - 92\n".toList]) := by
  decide +kernel

/-- Behind a comment in the list, the old items are still read. -/
theorem list_read_samples :
    (∀ tgs : List ℕ, (∀ tg ∈ tgs, (Nat.toDigits 10 tg).length ≤ 4300) →
      ∃ new, updateText (sampleText [91]) tgs = some new ∧
        readStaticTalkgroups new = some (sortedSet (tgs.filter (0 < ·)))) ∧
      ¬ ∀ tgs : List ℕ, (∀ tg ∈ tgs, (Nat.toDigits 10 tg).length ≤ 4300) →
        ∃ new, updateText commentedText tgs = some new ∧
          readStaticTalkgroups new = some (sortedSet (tgs.filter (0 < ·))) := by
  refine ⟨(list_read_iff sampleText_split).mpr ⟨⟨"routing:\n".toList, [], ?_, ?_⟩, ?_, ?_⟩,
    fun hall => ?_⟩
  · decide +kernel
  · exact fun _ hl => absurd hl List.not_mem_nil
  · decide +kernel
  · decide +kernel
  · exact absurd ((list_read_iff commentedText_split).mp hall).2.1 (by decide +kernel)

/-! ## A second update -/

/-- **An update leaves no trace of an earlier one.** -/
theorem updateText_again {new : Text} {tgs : List ℕ} (h : updateText text tgs = some new)
    (tgs' : List ℕ) : updateText new tgs' = updateText text tgs' := by
  obtain ⟨⟨before, block, after⟩, hsplit, -⟩ := Option.bind_eq_some_iff.mp h
  have haround := around_of_split hsplit
  rw [Option.some.inj (h.symm.trans (haround.update tgs)), haround.update tgs', finish, finish,
    opensSms_written, opensSms_written]
  split_ifs with hopens
  · have hdone := haround.update_written tgs tgs' haround.kept haround.items (haround.mappings tgs)
    rwa [finish, opensSms_written, if_pos hopens] at hdone
  · obtain ⟨tail, hitems, htail, hkeep⟩ := haround.keepLines_withSms
    have hkept : IsKept tail := by
      have hk := isKept_keepLines
        (withSms (written before (addedMappings (keepLines text)) after tgs).flatten)
      rw [hkeep, written] at hk
      exact hk.right.right.right
    have hhas := hasTalkgroupMappings_withSms (haround.isKept tgs haround.kept) (haround.mappings tgs)
    rw [hkeep] at hhas
    have hsms : (before ++ (addedMappings (keepLines text) ++ tail)).any opensSms = true := by
      simp [htail]
    have hdone := haround.update_written tgs tgs' hkept hitems hhas
    rwa [finish, opensSms_written, if_pos hsms, ← hkeep, ← hkeep, flatten_keepLines,
      flatten_keepLines] at hdone

/-- A file with neither the key of the mappings nor a section `sms`. -/
def bareText : Text := ("routing:\n".toList :: formatStaticTalkgroupsBlock [91]).flatten

/-- The first update of it, which adds both. -/
def completedText : Text :=
  withSms (written ["routing:\n".toList] ["  talkgroupMappings: []\n".toList] [] [92]).flatten

theorem bareText_split : splitBlock (keepLines bareText) =
    some (["routing:\n".toList], formatStaticTalkgroupsBlock [91], []) := by
  decide +kernel

theorem bareText_update : updateText bareText [92] = some completedText := by
  have hadded : addedMappings (keepLines bareText) = ["  talkgroupMappings: []\n".toList] := by
    decide +kernel
  rw [(around_of_split bareText_split).update [92], finish, opensSms_written, hadded,
    if_neg (by decide +kernel), completedText]

theorem updateText_again_sample : updateText completedText [93] = updateText bareText [93] :=
  updateText_again bareText_update [93]

/-! ## The other lines -/

theorem carriageReturn_notMem_written (h : Around text before after) (hr : '\r' ∉ text)
    (tgs : List ℕ) :
    '\r' ∉ (written before (addedMappings (keepLines text)) after tgs).flatten := by
  have hlines : ∀ l ∈ keepLines text, '\r' ∉ l := fun l hl hc => hr (by
    rw [← flatten_keepLines text]
    exact List.mem_flatten.mpr ⟨l, hl, hc⟩)
  have hadded : ∀ l ∈ addedMappings (keepLines text), '\r' ∉ l := by
    rw [addedMappings]
    split_ifs
    · exact fun _ hl => absurd hl List.not_mem_nil
    · exact List.forall_mem_singleton.mpr (by decide)
  obtain ⟨header, items, hformat, -, -, hfresh⟩ := formatStaticTalkgroupsBlock_kind tgs
  have hlist : ∀ l ∈ formatStaticTalkgroupsBlock tgs, '\r' ∉ l := by
    rw [hformat]
    exact fun l hl hc => absurd ((hfresh l hl).2 '\r' hc (by decide)) (by decide)
  intro hc
  obtain ⟨l, hl, hc⟩ := List.mem_flatten.mp hc
  simp only [written, List.mem_append] at hl
  rcases hl with hl | hl | hl | hl
  · exact hlines l (h.lines l (List.mem_append_left _ hl)) hc
  · exact hlist l hl hc
  · exact hadded l hl hc
  · exact hlines l (h.lines l (List.mem_append_right _ hl)) hc

/-- The lines that are added for the section `sms`. -/
def addedSms (lines : List Text) : List Text := if lines.any opensSms then [] else smsLines

theorem opensSms_around (lines : List Text) :
    (before ++ (addedMappings lines ++ after)).any opensSms = (before ++ after).any opensSms := by
  have hadded : (addedMappings lines).any opensSms = false := by
    rw [addedMappings]
    split_ifs <;> decide
  simp only [List.any_append, hadded, Bool.false_or]

/-- **When the lines around the list stay.** The section `sms` comes behind them, perhaps after an
empty line. -/
theorem other_lines_stay_iff (h : splitBlock (keepLines text) = some (before, block, after))
    (hr : '\r' ∉ text) {new : Text} {tgs : List ℕ} (hnew : updateText text tgs = some new) :
    (∃ gap, (gap = [] ∨ gap = [[]]) ∧ lineTexts new =
      (written before (addedMappings (keepLines text)) after tgs).map dropEnd ++ gap ++
        (addedSms (before ++ after)).map dropEnd) ↔
      (before ++ after).any opensSms = true ∨ Tidy ('\n' :: after.flatten) := by
  have haround := around_of_split h
  have hk := haround.isKept tgs haround.kept
  have hreturn := carriageReturn_notMem_written haround hr tgs
  rw [Option.some.inj (hnew.symm.trans (haround.update tgs)), finish, opensSms_written,
    opensSms_around, addedSms]
  split_ifs with hopens
  · refine ⟨fun _ => Or.inl hopens, fun _ => ⟨[], Or.inl rfl, ?_⟩⟩
    rw [lineTexts, hk, List.map_nil, List.append_nil, List.append_nil]
  · obtain ⟨front, m, hm, hwritten⟩ := exists_last_written before (keepLines text) tgs
    rw [hwritten] at hk hreturn ⊢
    have hafter : '\r' ∉ after.flatten := fun hc => hreturn (by simp [List.mem_flatten.mp hc])
    rw [or_iff_right hopens]
    constructor
    · rintro ⟨gap, hgap, hlines⟩
      have hcut : lineTexts (withSms (front ++ m :: after).flatten) =
          (front.map dropEnd ++ [dropEnd m]) ++ after.map dropEnd ++ gap ++
            smsLines.map dropEnd := by
        rw [hlines]
        simp
      exact tidy_of_lineTexts hm hk hafter hgap hcut
    · intro htidy
      refine lineTexts_of_tidy hk hreturn (fun hnil => ?_) ?_
      · refine hm.rstrip.1 ((rstrip_eq_nil_iff m).mpr fun c hc => ?_)
        refine (rstrip_eq_nil_iff _).mp hnil c (List.mem_flatten.mpr ⟨m, ?_, hc⟩)
        exact List.mem_append_right _ List.mem_cons_self
      · have hend := blankEnd_neat hm front.flatten after.flatten
        have hflat : (front ++ m :: after).flatten = front.flatten ++ m ++ after.flatten := by simp
        rwa [Tidy, hflat, hend]

end Update

theorem sampleText_update : updateText (sampleText [91]) [92] = some (sampleText [92]) := by
  decide +kernel

theorem other_lines_stay_sample : ∃ gap : List Text, (gap = [] ∨ gap = [[]]) ∧
    lineTexts (sampleText [92]) = (written ["sms:\n".toList, "routing:\n".toList]
      (addedMappings (keepLines (sampleText [91]))) ["  talkgroupMappings: []\n".toList]
        [92]).map dropEnd ++ gap ++
      (addedSms ["sms:\n".toList, "routing:\n".toList, "  talkgroupMappings: []\n".toList]).map
        dropEnd :=
  (other_lines_stay_iff sampleText_split (by decide +kernel) sampleText_update).mpr
    (Or.inl (by decide +kernel))

end Sync
