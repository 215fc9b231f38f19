import QuantarBridge.Lib.Run
import QuantarBridge.Sync.ConfigLaws

/-!
# The end of the updated text

When no line opens a section `sms`, the update strips the text and puts that section behind it, with
an empty line in between.

* `keepLines_withSms`, `withSms_tail`: the lines of the new text;
* `Tidy`, `lineTexts_of_tidy`, `tidy_of_lineTexts`: **the lines stay exactly when the text ends in at
  most one empty line** and has no blanks in front of it.
-/

set_option autoImplicit false

namespace Sync

open Dashboard (rstrip_append rstrip_append_of_ne exists_rstrip rstrip_eq_nil_iff isEnd dropEnd
  dropEnd_append dropEnd_cons exists_dropEnd rstrip_concat rstrip_cons splitlines splitlines_append)

/-! ## The text of a line -/

/-- The lines of a text without their newlines. -/
def lineTexts (text : Text) : List Text := (keepLines text).map dropEnd

theorem dropEnd_eq_self {l : Text} (h : ∀ c ∈ l, isEnd c = false) : dropEnd l = l := by
  induction l with
  | nil => rfl
  | cons c l ih =>
    obtain ⟨hc, hl⟩ := List.forall_mem_cons.mp h
    rw [dropEnd_cons hc, ih hl]

theorem Terminated.eq {l : Text} (h : Terminated l) (hr : '\r' ∉ l) : l = dropEnd l ++ ['\n'] := by
  obtain ⟨b, rfl, hb⟩ := h
  rw [dropEnd_append b (by decide), dropEnd_eq_self]
  intro c hc
  rw [isEnd, decide_eq_false_iff_not, not_or]
  refine ⟨?_, ?_⟩
  · rintro rfl
    exact hr (List.mem_append_left _ hc)
  · rintro rfl
    exact hb hc

theorem keptLine_cases {l : Text} (h : IsKept [l]) (hr : '\r' ∉ l) :
    l = dropEnd l ++ ['\n'] ∨ l = dropEnd l ∧ l ≠ [] := by
  rcases h.line with hl | ⟨hne, hopen⟩
  · exact Or.inl (hl.eq hr)
  · refine Or.inr ⟨(dropEnd_eq_self fun c hc => ?_).symm, hne⟩
    rw [isEnd, decide_eq_false_iff_not, not_or]
    exact ⟨fun hc' => hr (hc' ▸ hc), fun hc' => hopen (hc' ▸ hc)⟩

/-! ## The section at the end -/

/-- The lines of the section `sms`. -/
def smsLines : List Text := keepLines (smsConfigBlock ++ ['\n'])

theorem keepLines_terminated_of_last {text : Text} (h : text.getLast? = some '\n') :
    ∀ l ∈ keepLines text, Terminated l := by
  have hkept := isKept_keepLines text
  rcases List.eq_nil_or_concat (keepLines text) with hnil | ⟨ls, l, hls⟩
  · rw [hnil]
    exact fun _ h => absurd h List.not_mem_nil
  rw [List.concat_eq_append] at hls
  rw [hls] at hkept ⊢
  have hl : IsKept [l] := hkept.right
  refine List.forall_mem_append.mpr ⟨hkept.left (List.cons_ne_nil _ _),
    List.forall_mem_singleton.mpr ?_⟩
  have htext : text = ls.flatten ++ l := by
    rw [← flatten_keepLines text, hls, List.flatten_append, List.flatten_singleton]
  rcases hl.line with hl | ⟨hne, hopen⟩
  · exact hl
  · rw [htext, List.getLast?_append_of_ne_nil _ hne] at h
    exact absurd (List.mem_of_getLast? h) hopen

theorem smsLines_eq : ∃ body, smsLines = ['s', 'm', 's', ':', '\n'] :: body ∧
    (∀ l ∈ smsLines, Terminated l) ∧ ∀ l ∈ body, opensSms l = false := by
  obtain ⟨body, hbody, hlast, hunix, hkind⟩ := smsConfigBlock_kind
  have hlines : smsLines = ['s', 'm', 's', ':', '\n'] :: keepLines body := by
    rw [smsLines, hbody]
    exact keepLines_terminated (b := ['s', 'm', 's', ':']) (by decide) body
  refine ⟨keepLines body, hlines, ?_, fun l hl => ?_⟩
  · rw [hlines]
    exact List.forall_mem_cons.mpr ⟨⟨['s', 'm', 's', ':'], rfl, by decide⟩,
      keepLines_terminated_of_last hlast⟩
  · rw [Dashboard.keepLines_eq hunix] at hl
    cases ho : opensSms l with
    | false => rfl
    | true =>
      exact absurd ((hkind l hl).1.symm.trans (Dashboard.endsSection_of_opensSms ho)) Bool.false_ne_true

theorem rstrip_cases (text : Text) :
    rstrip text = [] ∨ ∃ a c, rstrip text = a ++ [c] ∧ isSpace c = false := by
  rcases List.eq_nil_or_concat (rstrip text) with h | ⟨a, c, h⟩
  · exact Or.inl h
  · refine Or.inr ⟨a, c, by rw [h, List.concat_eq_append], ?_⟩
    have hhead := List.head?_dropWhile_not isSpace text.reverse
    rw [rstrip, List.concat_eq_append, List.reverse_eq_append_iff] at h
    rw [h] at hhead
    simpa using hhead

theorem rstrip_rstrip (text : Text) : rstrip (rstrip text) = rstrip text := by
  rcases rstrip_cases text with h | ⟨a, c, h, hc⟩
  · rw [h]
    rfl
  · rw [h, rstrip_concat hc]

theorem dropEnd_rstrip (text : Text) : dropEnd (rstrip text) = rstrip text := by
  rcases rstrip_cases text with h | ⟨a, c, h, hc⟩
  · rw [h]
    rfl
  · have hend : isEnd c = false := by
      cases he : isEnd c with
      | false => rfl
      | true =>
        rw [Dashboard.isSpace_of_isEnd he] at hc
        cases hc
    rw [h, dropEnd, List.reverse_append, List.reverse_singleton, List.singleton_append,
      List.dropWhile_cons_of_neg (by simp [hend]), List.reverse_cons, List.reverse_reverse]

theorem rstrip_dropEnd (l : Text) : rstrip (dropEnd l) = rstrip l := by
  obtain ⟨e, hl, he⟩ := exists_dropEnd l
  conv_rhs => rw [hl]
  exact (rstrip_append (fun c hc => Dashboard.isSpace_of_isEnd (he c hc)) _).symm

theorem newline_notMem_rstrip {l : Text} (h : IsKept [l]) : '\n' ∉ rstrip l := by
  have hpre : ∀ a, rstrip a <+: a := fun a => by
    obtain ⟨w, ha, -⟩ := exists_rstrip a
    exact ⟨w, ha.symm⟩
  rcases h.line with ⟨b, rfl, hb⟩ | ⟨-, hopen⟩
  · rw [rstrip_append (by decide)]
    exact fun hmem => hb ((hpre b).subset hmem)
  · exact fun hmem => hopen ((hpre l).subset hmem)

section WithSms

variable {front blankLines : List Text} {l : Text}

/-- **The lines with the section `sms`**, which stands behind an empty line. -/
theorem keepLines_withSms (hk : IsKept (front ++ l :: blankLines)) (hl : rstrip l ≠ [])
    (hblank : ∀ b ∈ blankLines, ∀ c ∈ b, isSpace c = true) :
    keepLines (withSms (front ++ l :: blankLines).flatten) =
      front ++ (rstrip l ++ ['\n']) :: ['\n'] :: smsLines := by
  have hfront := hk.left (List.cons_ne_nil _ _)
  have hline : IsKept [l] := by
    cases blankLines with
    | nil => exact hk.right
    | cons b bs =>
      exact isKept_of_terminated (List.forall_mem_singleton.mpr
        ((isKept_cons_iff (List.cons_ne_nil _ _)).mp hk.right).1)
  have hstrip : rstrip (front ++ l :: blankLines).flatten = front.flatten ++ rstrip l := by
    rw [List.flatten_append, List.flatten_cons, ← List.append_assoc, rstrip_append,
      rstrip_append_of_ne hl]
    intro c hc
    obtain ⟨b, hb, hc⟩ := List.mem_flatten.mp hc
    exact hblank b hb c hc
  have htext : ∀ rest, smsConfigBlock ++ ['\n'] = rest →
      withSms (front ++ l :: blankLines).flatten =
        (front ++ [rstrip l ++ ['\n'], ['\n']]).flatten ++ rest := by
    intro rest hrest
    rw [withSms, hstrip, append_newlines hrest]
    simp
  rw [htext _ rfl, keepLines_lines, ← smsLines, List.append_assoc, List.cons_append,
    List.cons_append, List.nil_append]
  refine List.forall_mem_append.mpr ⟨hfront, List.forall_mem_cons.mpr
    ⟨⟨rstrip l, rfl, newline_notMem_rstrip hline⟩, List.forall_mem_singleton.mpr ⟨[], rfl, ?_⟩⟩⟩
  exact List.not_mem_nil

theorem lineTexts_withSms (hk : IsKept (front ++ l :: blankLines)) (hl : rstrip l ≠ [])
    (hblank : ∀ b ∈ blankLines, ∀ c ∈ b, isSpace c = true) :
    lineTexts (withSms (front ++ l :: blankLines).flatten) =
      front.map dropEnd ++ rstrip l :: [] :: smsLines.map dropEnd := by
  have hempty : dropEnd ['\n'] = [] := by decide
  rw [lineTexts, keepLines_withSms hk hl hblank, List.map_append, List.map_cons, List.map_cons,
    dropEnd_append _ (by decide), dropEnd_rstrip, hempty]

end WithSms

/-! ## What the section `sms` leaves -/

/-- A line with text stands in front of the blank lines at the end. -/
theorem split_at_last {front back front' blankLines : List Text} {l z : Text}
    (h : front ++ l :: back = front' ++ z :: blankLines) (hl : l ∉ blankLines) :
    (front = front' ∧ l = z ∧ back = blankLines) ∨
      ∃ mid, front' = front ++ l :: mid ∧ back = mid ++ z :: blankLines := by
  rcases Lib.Run.split_cases h with ⟨mid, rfl⟩ | ⟨rfl, rfl⟩ | ⟨mid, rfl⟩
  · rw [List.append_assoc, List.append_cancel_left_eq, List.cons_append, List.cons_eq_cons] at h
    exact absurd (h.2 ▸ List.mem_append_right _ List.mem_cons_self) hl
  · exact Or.inl ⟨rfl, rfl, (List.cons_eq_cons.mp (List.append_cancel_left h)).2⟩
  · rw [List.append_assoc, List.append_cancel_left_eq, List.cons_append, List.cons_eq_cons] at h
    exact Or.inr ⟨mid, rfl, h.2⟩

theorem head?_dropWhile_rstrip {l : Text} (hl : rstrip l ≠ []) (t : Text) :
    ((l ++ t).dropWhile isSpace).head? = ((rstrip l).dropWhile isSpace).head? := by
  have hdrop : (rstrip l).dropWhile isSpace ≠ [] := by
    rcases rstrip_cases l with hnil | ⟨a, c, ha, hc⟩
    · exact absurd hnil hl
    · intro hd
      rw [List.dropWhile_eq_nil_iff.mp hd c (by rw [ha]; simp)] at hc
      cases hc
  obtain ⟨w, hlw, -⟩ := exists_rstrip l
  conv_lhs => rw [hlw]
  rw [List.append_assoc, List.dropWhile_append, if_neg (by simpa using hdrop),
    List.head?_append_of_ne_nil _ hdrop]

theorem hasTalkgroupMappings_iff (lines : List Text) : hasTalkgroupMappings lines = true ↔
    ∃ front l back, lines = front ++ l :: back ∧ "  talkgroupMappings".toList <+: l ∧
      ((l.drop "  talkgroupMappings".length ++ back.flatten).dropWhile isSpace).head? =
        some ':' := by
  induction lines with
  | nil => simp [hasTalkgroupMappings]
  | cons l lines ih =>
    rw [hasTalkgroupMappings, decide_eq_true_eq, ih, List.isPrefixOf_iff_prefix]
    constructor
    · rintro (⟨hl, hcolon⟩ | ⟨front, l', back, rfl, hl, hcolon⟩)
      · exact ⟨[], l, lines, rfl, hl, hcolon⟩
      · exact ⟨l :: front, l', back, rfl, hl, hcolon⟩
    · rintro ⟨front, l', back, hlines, hl, hcolon⟩
      cases front with
      | nil =>
        obtain ⟨rfl, rfl⟩ := List.cons_eq_cons.mp hlines
        exact Or.inl ⟨hl, hcolon⟩
      | cons d front =>
        obtain ⟨rfl, rfl⟩ := List.cons_eq_cons.mp hlines
        exact Or.inr ⟨front, l', back, rfl, hl, hcolon⟩

/-- The key of the mappings is found in front of the section `sms`, too. -/
theorem hasTalkgroupMappings_withSms {lines : List Text} (hk : IsKept lines)
    (h : hasTalkgroupMappings lines = true) :
    hasTalkgroupMappings (keepLines (withSms lines.flatten)) = true := by
  obtain ⟨front, l, back, rfl, hl, hcolon⟩ := (hasTalkgroupMappings_iff _).mp h
  have htext : rstrip l ≠ [] := by
    intro hnil
    exact absurd ((rstrip_eq_nil_iff _).mp hnil 't' (hl.subset (by simp))) (by decide)
  have hne : rstrip (front ++ l :: back).flatten ≠ [] := by
    intro hnil
    refine htext ((rstrip_eq_nil_iff l).mpr fun c hc => ?_)
    refine (rstrip_eq_nil_iff _).mp hnil c (List.mem_flatten.mpr ⟨l, ?_, hc⟩)
    exact List.mem_append_right _ List.mem_cons_self
  obtain ⟨front', z, blankLines, heq, hblank, -, hz⟩ := rstrip_flatten hne
  rw [heq] at hk ⊢
  rw [keepLines_withSms hk hz hblank]
  rcases split_at_last heq fun hmem => htext ((rstrip_eq_nil_iff l).mpr (hblank l hmem)) with
    ⟨rfl, rfl, rfl⟩ | ⟨mid, rfl, rfl⟩
  · -- the last line with text has the key
    have hspace : ∀ c ∈ back.flatten, isSpace c = true := by
      intro c hc
      obtain ⟨b, hb, hc⟩ := List.mem_flatten.mp hc
      exact hblank b hb c hc
    have hkey : Dashboard.isKeyLine 2 "talkgroupMappings" l = true := by
      obtain ⟨rest, rfl⟩ := hl
      refine Dashboard.isKeyLine_iff.mpr ⟨rest, rfl, ?_⟩
      have hlen : "  talkgroupMappings".length = "  talkgroupMappings".toList.length := by decide
      rw [hlen, List.drop_left, List.dropWhile_append] at hcolon
      split_ifs at hcolon with hnil
      · rw [Dashboard.dropWhile_eq_nil_of_space hspace] at hcolon
        cases hcolon
      · rwa [List.head?_append_of_ne_nil _ (by simpa using hnil)] at hcolon
    refine hasTalkgroupMappings_of_mem (l := rstrip l ++ ['\n']) (by simp) ?_
    rw [kind_restrip (fun b w hw => Dashboard.isKeyLine_append hw 2 "talkgroupMappings" b)]
    exact hkey
  · refine (hasTalkgroupMappings_iff _).mpr ⟨front, l, mid ++ (rstrip z ++ ['\n']) :: ['\n'] ::
      smsLines, by simp, hl, ?_⟩
    rw [← hcolon, List.flatten_append, List.flatten_append, ← List.append_assoc,
      ← List.append_assoc]
    refine head?_dropWhile_append ?_ _
    have hz' : rstrip (rstrip z ++ ['\n']) ≠ [] := by
      rwa [rstrip_append (by decide), rstrip_rstrip]
    rw [List.flatten_cons, List.flatten_cons (l := z), head?_dropWhile_rstrip hz,
      head?_dropWhile_rstrip hz', rstrip_append (by decide), rstrip_rstrip]

/-- A line that ends in text and its newline. -/
def Neat (l : Text) : Prop := ∃ a c, l = a ++ [c] ++ ['\n'] ∧ isSpace c = false

theorem Neat.rstrip {l : Text} (h : Neat l) : Sync.rstrip l ≠ [] ∧ l = Sync.rstrip l ++ ['\n'] := by
  obtain ⟨a, c, rfl, hc⟩ := h
  rw [rstrip_append (by decide), rstrip_concat hc]
  exact ⟨List.concat_ne_nil _ _, rfl⟩

theorem neat_format (tgs : List ℕ) : ∀ l ∈ formatStaticTalkgroupsBlock tgs, Neat l := by
  cases tgs with
  | nil =>
    exact List.forall_mem_singleton.mpr
      ⟨"  staticTalkgroups: [".toList, ']', by decide, by decide⟩
  | cons tg tgs =>
    refine List.forall_mem_cons.mpr ⟨⟨"  staticTalkgroups".toList, ':', by decide, by decide⟩, ?_⟩
    intro l hl
    obtain ⟨n, -, rfl⟩ := List.mem_map.mp hl
    obtain ⟨a, c, hdigits, hc⟩ := toDigits_concat n
    refine ⟨[' ', ' ', ' ', ' '] ++ (['-', ' '] ++ a), c, ?_, hc⟩
    show itemLine n = _
    rw [itemLine_eq, hdigits]
    simp

theorem neat_addedMappings (lines : List Text) : ∀ l ∈ addedMappings lines, Neat l := by
  rw [addedMappings]
  split_ifs
  · exact fun _ h => absurd h List.not_mem_nil
  · exact List.forall_mem_singleton.mpr
      ⟨"  talkgroupMappings: [".toList, ']', by decide, by decide⟩

theorem format_ne_nil (tgs : List ℕ) : formatStaticTalkgroupsBlock tgs ≠ [] := by
  cases tgs <;> exact List.cons_ne_nil _ _

/-- The lines up to the last line with text stay, whatever they are, and the section `sms` is there. -/
theorem withSms_tail {rest : List Text} (hr : rest.takeWhile isItem = []) :
    ∃ tail, tail.takeWhile isItem = [] ∧ tail.any opensSms = true ∧
      ∀ front m, Neat m → IsKept (front ++ m :: rest) →
        keepLines (withSms (front ++ m :: rest).flatten) = front ++ m :: tail := by
  obtain ⟨body, hsms, -, -⟩ := smsLines_eq
  have hopens : smsLines.any opensSms = true := by
    rw [hsms, List.any_cons, Bool.or_eq_true]
    exact Or.inl (by decide)
  by_cases hnil : rstrip rest.flatten = []
  · -- only white space stands behind the line
    refine ⟨['\n'] :: smsLines, List.takeWhile_cons_of_neg (by decide), ?_, fun front m hm hk => ?_⟩
    · rw [List.any_cons, hopens, Bool.or_true]
    have hspace := (rstrip_eq_nil_iff _).mp hnil
    rw [keepLines_withSms hk hm.rstrip.1 fun b hb c hc =>
      hspace c (List.mem_flatten.mpr ⟨b, hb, hc⟩), ← hm.rstrip.2]
  · obtain ⟨mid, z, blankLines, rfl, hblank, -, hz⟩ := rstrip_flatten hnil
    refine ⟨mid ++ (rstrip z ++ ['\n']) :: ['\n'] :: smsLines, ?_, ?_, fun front m _ hk => ?_⟩
    · cases mid with
      | nil =>
        have hitem : isItem z = false := by
          cases hi : isItem z with
          | false => rfl
          | true =>
            rw [List.nil_append, List.takeWhile_cons_of_pos hi] at hr
            cases hr
        refine List.takeWhile_cons_of_neg ?_
        rw [kind_restrip (fun b w hw => Dashboard.isItem_append hw b), hitem]
        exact Bool.false_ne_true
      | cons x mid =>
        refine List.takeWhile_cons_of_neg fun hx => ?_
        rw [List.cons_append, List.takeWhile_cons_of_pos hx] at hr
        cases hr
    · rw [List.any_append, List.any_cons, List.any_cons, hopens, Bool.or_true, Bool.or_true,
        Bool.or_true]
    · have hshape : front ++ m :: (mid ++ z :: blankLines) =
          (front ++ m :: mid) ++ z :: blankLines := by simp
      rw [hshape] at hk ⊢
      rw [keepLines_withSms hk hz hblank]
      simp

/-! ## The end of the text -/

/-- The white space at the end of a text. -/
def blankEnd (text : Text) : Text := (text.reverse.takeWhile isSpace).reverse

theorem rstrip_append_blankEnd (text : Text) : rstrip text ++ blankEnd text = text := by
  rw [rstrip, blankEnd, ← List.reverse_append, List.takeWhile_append_dropWhile,
    List.reverse_reverse]

theorem blankEnd_space (text : Text) : ∀ c ∈ blankEnd text, isSpace c = true := fun _ hc =>
  List.mem_takeWhile_imp (List.mem_reverse.mp hc)

theorem blankEnd_append {a w : Text} (ha : rstrip a = a) (hw : ∀ c ∈ w, isSpace c = true) :
    blankEnd (a ++ w) = w := by
  have h := rstrip_append_blankEnd (a ++ w)
  rw [rstrip_append hw, ha] at h
  exact List.append_cancel_left h

theorem blankEnd_neat {m : Text} (hm : Neat m) (front text : Text) :
    blankEnd (front ++ m ++ text) = blankEnd ('\n' :: text) := by
  obtain ⟨a, c, rfl, hc⟩ := hm
  have hsplit : front ++ (a ++ [c] ++ ['\n']) ++ text =
      (front ++ a ++ [c]) ++ rstrip ('\n' :: text) ++ blankEnd ('\n' :: text) := by
    rw [List.append_assoc (front ++ a ++ [c]), rstrip_append_blankEnd]
    simp
  have hstrip : rstrip ((front ++ a ++ [c]) ++ rstrip ('\n' :: text)) =
      (front ++ a ++ [c]) ++ rstrip ('\n' :: text) := by
    by_cases hnil : rstrip ('\n' :: text) = []
    · rw [hnil, List.append_nil, rstrip_concat hc]
    · rw [rstrip_append_of_ne (by rwa [rstrip_rstrip]), rstrip_rstrip]
  rw [hsplit, blankEnd_append hstrip (blankEnd_space _)]

/-- The text ends in at most one empty line, and no blanks stand in front of it. -/
def Tidy (text : Text) : Prop :=
  blankEnd text = [] ∨ blankEnd text = ['\n'] ∨ blankEnd text = ['\n', '\n']

theorem newline_notMem_dropEnd {l : Text} (h : IsKept [l]) : '\n' ∉ dropEnd l := by
  have hpre : ∀ a, dropEnd a <+: a := fun a => by
    obtain ⟨e, ha, -⟩ := exists_dropEnd a
    exact ⟨e, ha.symm⟩
  rcases h.line with ⟨b, rfl, hb⟩ | ⟨-, hopen⟩
  · rw [dropEnd_append _ (by decide)]
    exact fun hmem => hb ((hpre b).subset hmem)
  · exact fun hmem => hopen ((hpre l).subset hmem)

/-- **The lines stay when the section `sms` is added** to a tidy text. -/
theorem lineTexts_of_tidy {lines : List Text} (hk : IsKept lines) (hr : '\r' ∉ lines.flatten)
    (hne : rstrip lines.flatten ≠ []) (ht : Tidy lines.flatten) :
    ∃ gap, (gap = [] ∨ gap = [[]]) ∧ lineTexts (withSms lines.flatten) =
      lines.map dropEnd ++ gap ++ smsLines.map dropEnd := by
  obtain ⟨front, l, blankLines, rfl, hblank, hstrip, hl⟩ := rstrip_flatten hne
  have hspace : ∀ c ∈ blankLines.flatten, isSpace c = true := by
    intro c hc
    obtain ⟨b, hb, hc⟩ := List.mem_flatten.mp hc
    exact hblank b hb c hc
  -- what stands behind the text of the last line
  have hend : blankEnd (front ++ l :: blankLines).flatten = blankEnd l ++ blankLines.flatten := by
    have hsplit : (front ++ l :: blankLines).flatten =
        (front.flatten ++ rstrip l) ++ (blankEnd l ++ blankLines.flatten) := by
      rw [List.append_assoc, ← List.append_assoc (rstrip l), rstrip_append_blankEnd]
      simp
    rw [hsplit, blankEnd_append]
    · rw [rstrip_append_of_ne (by rwa [rstrip_rstrip]), rstrip_rstrip]
    · exact List.forall_mem_append.mpr ⟨blankEnd_space l, hspace⟩
  have hline : IsKept [l] := by
    cases blankLines with
    | nil => exact hk.right
    | cons b bs =>
      exact isKept_of_terminated (List.forall_mem_singleton.mpr
        ((isKept_cons_iff (List.cons_ne_nil _ _)).mp hk.right).1)
  have hlr : '\r' ∉ l := fun h => hr (List.mem_flatten.mpr ⟨l, by simp, h⟩)
  -- no blanks behind the text of the last line
  obtain ⟨n, hn, hln⟩ : ∃ n, (n = [] ∨ n = ['\n']) ∧ l = dropEnd l ++ n := by
    rcases keptLine_cases hline hlr with h | ⟨h, -⟩
    · exact ⟨['\n'], Or.inr rfl, h⟩
    · exact ⟨[], Or.inl rfl, by rw [List.append_nil]; exact h⟩
  have hparts : blankEnd l = blankEnd (dropEnd l) ++ n := by
    have h := rstrip_append_blankEnd (dropEnd l)
    rw [rstrip_dropEnd] at h
    refine (List.append_right_inj (rstrip l)).mp ?_
    rw [rstrip_append_blankEnd, ← List.append_assoc, h]
    exact hln
  rw [Tidy, hend, hparts] at ht
  have hnewlines : ∀ c ∈ blankEnd (dropEnd l) ++ n ++ blankLines.flatten, c = '\n' := by
    rcases ht with h | h | h <;> rw [h] <;> simp
  have hnone : blankEnd (dropEnd l) = [] := by
    refine List.eq_nil_iff_forall_not_mem.mpr fun c hc => ?_
    have hcn := hnewlines c (by simp [hc])
    refine newline_notMem_dropEnd hline ?_
    rw [← rstrip_append_blankEnd (dropEnd l), ← hcn]
    exact List.mem_append_right _ hc
  have htextl : dropEnd l = rstrip l := by
    have h := rstrip_append_blankEnd (dropEnd l)
    rw [hnone, List.append_nil, rstrip_dropEnd] at h
    exact h.symm
  rw [hnone, List.nil_append] at ht
  have hsplit : IsKept ((front ++ [l]) ++ blankLines) := by simpa using hk
  have hblankKept : IsKept blankLines := hsplit.right
  rw [lineTexts_withSms hk hl hblank, ← htextl]
  rcases hn with rfl | rfl
  · have hnil : blankLines = [] := by
      by_contra hne
      obtain ⟨b, hb, -⟩ := ((isKept_cons_iff hne).mp hk.right).1
      refine newline_notMem_dropEnd hline ?_
      rw [List.append_nil] at hln
      rw [← hln, hb]
      simp
    rw [hnil]
    exact ⟨[[]], Or.inr rfl, by simp⟩
  · rw [IsKept] at hblankKept
    rcases ht with h | h | h
    · cases h
    · have hnil : blankLines.flatten = [] := (List.cons_eq_cons.mp h).2
      rw [hnil] at hblankKept
      rw [← hblankKept]
      exact ⟨[[]], Or.inr rfl, by simp [keepLines]⟩
    · have hone : blankLines.flatten = ['\n'] := (List.cons_eq_cons.mp h).2
      rw [hone] at hblankKept
      have hend : dropEnd ['\n'] = [] := by decide
      rw [← hblankKept]
      exact ⟨[], Or.inl rfl, by simp [keepLines, hend]⟩

theorem map_rstrip_splitlines_newline {a : Text} {c : Char} (hc : isSpace c = false) :
    (splitlines (a ++ [c] ++ ['\n'])).map rstrip = (splitlines (a ++ [c])).map rstrip := by
  have hlines := Dashboard.isLines_splitlines (a ++ [c])
  have hflat := Dashboard.flatten_splitlines (a ++ [c])
  rcases List.eq_nil_or_concat (splitlines (a ++ [c])) with hnil | ⟨ls, l, hls⟩
  · rw [hnil] at hflat
    exact absurd hflat.symm (List.concat_ne_nil _ _)
  rw [List.concat_eq_append] at hls
  rw [hls] at hlines hflat
  rw [List.flatten_append, List.flatten_singleton] at hflat
  -- the last line is open
  have hopen : Dashboard.Open l := by
    rcases hlines.1 l (by simp) with ⟨b, e, rfl, -, he⟩ | h
    · have hlast : ∃ e' d, e = e' ++ [d] ∧ isSpace d = true := by
        rcases he with rfl | ⟨d, hd, rfl⟩
        · exact ⟨['\r'], '\n', rfl, by decide⟩
        · exact ⟨[], d, rfl, Dashboard.isSpace_of_endsLine hd⟩
      obtain ⟨e', d, rfl, hd⟩ := hlast
      rw [← List.append_assoc, ← List.append_assoc] at hflat
      have hcd := List.singleton_inj.mp (List.append_inj_right' hflat rfl)
      rw [hcd, hc] at hd
      cases hd
    · exact h
  have hnew : Dashboard.IsLines (ls ++ [l ++ ['\n']]) := by
    obtain ⟨hfront, -, hfollows⟩ := (Dashboard.isLines_append_iff _ _).mp hlines
    refine (Dashboard.isLines_append_iff _ _).mpr ⟨hfront, ⟨List.forall_mem_singleton.mpr
      (Or.inl ⟨l, ['\n'], rfl, hopen.2, Or.inr ⟨'\n', rfl, by decide⟩⟩),
      List.isChain_singleton _⟩, fun x hx y hy => ?_⟩
    cases hy
    refine ⟨(hfollows x hx l rfl).1, fun h => (hfollows x hx l rfl).2 ⟨h.1, ?_⟩⟩
    rw [← h.2, List.head?_append_of_ne_nil _ hopen.1]
  have htext : a ++ [c] ++ ['\n'] = (ls ++ [l ++ ['\n']]).flatten := by
    rw [← hflat]
    simp
  rw [htext, Dashboard.splitlines_flatten hnew, hls, List.map_append, List.map_append,
    List.map_singleton, List.map_singleton, rstrip_append (by decide)]

/-- **A text whose lines stay is tidy.** -/
theorem tidy_of_lineTexts {front rest before gap : List Text} {m : Text} (hm : Neat m)
    (hk : IsKept (front ++ m :: rest)) (hr : '\r' ∉ rest.flatten) (hgap : gap = [] ∨ gap = [[]])
    (h : lineTexts (withSms (front ++ m :: rest).flatten) =
      before ++ rest.map dropEnd ++ gap ++ smsLines.map dropEnd) :
    Tidy ('\n' :: rest.flatten) := by
  have hne : rstrip (front ++ m :: rest).flatten ≠ [] := by
    intro hnil
    refine hm.rstrip.1 ((rstrip_eq_nil_iff m).mpr fun c hc => ?_)
    refine (rstrip_eq_nil_iff _).mp hnil c (List.mem_flatten.mpr ⟨m, ?_, hc⟩)
    exact List.mem_append_right _ List.mem_cons_self
  have hsplit : IsKept ((front ++ [m]) ++ rest) := by simpa using hk
  have hkr : IsKept rest := hsplit.right
  obtain ⟨front', z, blankLines, heq, hblank, -, hz⟩ := rstrip_flatten hne
  rw [heq] at hk h
  rw [lineTexts_withSms hk hz hblank] at h
  have hcut : front'.map dropEnd ++ [rstrip z, []] = before ++ rest.map dropEnd ++ gap := by
    refine (List.append_left_inj (smsLines.map dropEnd)).mp ?_
    rw [← h]
    simp
  -- the last line that is not empty has its text and perhaps a newline
  have hlast : ∀ {A : List Text} {y : Text}, '\r' ∉ y → IsKept [y] → dropEnd y = rstrip z →
      ∃ n, (n = [] ∨ n = ['\n']) ∧ ∀ w, (∀ c ∈ w, isSpace c = true) →
        blankEnd ('\n' :: ((A ++ [y]).flatten ++ w)) = n ++ w := by
    intro A y hyr hy hyz
    have hstep : ∀ n, (∀ c ∈ n, isSpace c = true) → y = dropEnd y ++ n →
        ∀ w, (∀ c ∈ w, isSpace c = true) →
          blankEnd ('\n' :: ((A ++ [y]).flatten ++ w)) = n ++ w := by
      intro n hn hyn w hw
      have hsplit : '\n' :: ((A ++ [y]).flatten ++ w) =
          ('\n' :: A.flatten ++ rstrip z) ++ (n ++ w) := by
        rw [hyn, hyz]
        simp
      rw [hsplit, blankEnd_append]
      · rw [rstrip_append_of_ne (by rwa [rstrip_rstrip]), rstrip_rstrip]
      · exact List.forall_mem_append.mpr ⟨hn, hw⟩
    rcases keptLine_cases hy hyr with hy' | ⟨hy', -⟩
    · exact ⟨['\n'], Or.inr rfl, hstep _ (by decide) hy'⟩
    · exact ⟨[], Or.inl rfl, hstep _ (by simp) (by rw [List.append_nil]; exact hy')⟩
  rcases List.eq_nil_or_concat rest with rfl | ⟨A, y, hrest⟩
  · exact Or.inr (Or.inl (by decide))
  rw [List.concat_eq_append] at hrest
  subst hrest
  have hyr : '\r' ∉ y := fun h => hr (by simp [h])
  have hy : IsKept [y] := hkr.right
  rcases hgap with rfl | rfl
  · -- the text ends in an empty line
    rw [List.append_nil, List.map_append, List.map_singleton, ← List.append_assoc] at hcut
    have hempty : dropEnd y = [] := by
      have h2 : front'.map dropEnd ++ [rstrip z] ++ [[]] =
          before ++ A.map dropEnd ++ [dropEnd y] := by
        rw [← hcut]
        simp
      exact (List.singleton_inj.mp (List.append_inj_right' h2 rfl)).symm
    have hyn : y = ['\n'] := by
      rcases keptLine_cases hy hyr with h | ⟨h, hne⟩
      · rw [h, hempty]
        rfl
      · exact absurd (h.trans hempty) hne
    have hcut' : front'.map dropEnd ++ [rstrip z] = before ++ A.map dropEnd := by
      refine (List.append_left_inj [[]]).mp ?_
      rw [hempty] at hcut
      rw [← hcut]
      simp
    subst hyn
    rcases List.eq_nil_or_concat A with rfl | ⟨A', x, hA⟩
    · exact Or.inr (Or.inr (by decide))
    · rw [List.concat_eq_append] at hA
      subst hA
      have hx : Terminated x := hkr.left (List.cons_ne_nil _ _) x (by simp)
      have hxr : '\r' ∉ x := fun h => hr (by simp [h])
      have hxz : dropEnd x = rstrip z := by
        rw [List.map_append, List.map_singleton, ← List.append_assoc] at hcut'
        exact (List.singleton_inj.mp (List.append_inj_right' hcut' rfl)).symm
      obtain ⟨n, hn, hend⟩ := hlast (A := A') hxr
        (isKept_of_terminated (List.forall_mem_singleton.mpr hx)) hxz
      have htext := hend ['\n'] (by decide)
      rw [Tidy, List.flatten_append, List.flatten_singleton, htext]
      rcases hn with rfl | rfl
      · exact Or.inr (Or.inl rfl)
      · exact Or.inr (Or.inr rfl)
  · have hyz : dropEnd y = rstrip z := by
      have h2 : front'.map dropEnd ++ [rstrip z] ++ [[]] =
          before ++ A.map dropEnd ++ [dropEnd y] ++ [[]] := by
        rw [List.append_assoc _ [rstrip z]]
        rw [List.map_append, List.map_singleton] at hcut
        simpa using hcut
      have h3 := List.append_cancel_right h2
      exact (List.singleton_inj.mp (List.append_inj_right' h3 rfl)).symm
    obtain ⟨n, hn, hend⟩ := hlast (A := A) hyr hy hyz
    have htext := hend [] (by simp)
    rw [List.append_nil, List.append_nil] at htext
    rw [Tidy, htext]
    rcases hn with rfl | rfl
    · exact Or.inl rfl
    · exact Or.inr (Or.inl rfl)

end Sync
