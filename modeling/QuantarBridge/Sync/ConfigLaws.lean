import QuantarBridge.Dashboard.EditLaws
import QuantarBridge.Sync.ListUpdate

/-!
# What the synchronisation does to a file

The synchronisation reads the configuration with newlines as the only ends of lines, replaces the
block of static talkgroups and adds what is missing. The entries of the other keys stay.

* `Apart`, `apart_of_plain`: a line of the synchronisation, as the dashboard sees it;
* `updateText_lines`: the lines with the new block;
* `smsConfigBlock_kind`, `entryAt_withSms`, `staticBlock_withSms`: the section `sms` behind the
  other lines;
* `updateText_spec`: **the synchronisation**.
-/

set_option autoImplicit false

namespace Sync

open Lib Dashboard

/-- Lines of a section that open no block of static talkgroups. -/
def Body (t : Text) : Prop :=
  t.getLast? = some '\n' ∧ (∀ c ∈ t, endsLine c = true → c = '\n') ∧
    ∀ l ∈ splitlines t, endsSection l = false ∧ opensBlock l = false

instance (t : Text) : Decidable (Body t) := inferInstanceAs (Decidable (_ ∧ _))

theorem Body.append {a b : Text} (ha : Body a) (hb : Body b) : Body (a ++ b) := by
  refine ⟨?_, List.forall_mem_append.mpr ⟨ha.2.1, hb.2.1⟩, ?_⟩
  · rw [List.getLast?_append, hb.1]
    rfl
  · rw [splitlines_append ha.1]
    exact List.forall_mem_append.mpr ⟨ha.2.2, hb.2.2⟩

/-- The header of the section `sms` and lines of it. -/
def SmsSection (t : Text) : Prop := ∃ body, t = ['s', 'm', 's', ':', '\n'] ++ body ∧ Body body

theorem SmsSection.append {a b : Text} (ha : SmsSection a) (hb : Body b) : SmsSection (a ++ b) := by
  obtain ⟨body, rfl, ha⟩ := ha
  exact ⟨body ++ b, List.append_assoc _ _ _, ha.append hb⟩

theorem smsSection_append {a b : String} (ha : SmsSection a.toList) (hb : Body b.toList) :
    SmsSection (a ++ b).toList := by
  rw [String.toList_append]
  exact ha.append hb

theorem smsConfigBlock_kind : SmsSection (smsConfigBlock ++ ['\n']) := by
  have hlast : ∀ {a b : String}, SmsSection a.toList → Body (b.toList ++ ['\n']) →
      SmsSection ((a ++ b).toList ++ ['\n']) := by
    intro a b ha hb
    rw [String.toList_append, List.append_assoc]
    exact ha.append hb
  refine hlast (smsSection_append (smsSection_append (smsSection_append (smsSection_append
    (smsSection_append (smsSection_append (smsSection_append (smsSection_append ?_ ?_) ?_) ?_) ?_)
      ?_) ?_) ?_) ?_) ?_
  · exact toList_of (P := SmsSection) rfl ⟨_, rfl, by decide +kernel⟩
  all_goals first
    | exact toList_of (P := Body) rfl (by decide +kernel)
    | exact toList_of (P := fun t => Body (t ++ ['\n'])) rfl (by decide +kernel)

section Apart

variable {l text : Text} {ls : List Text}

theorem splitlines_kept (h : IsKept ls) : splitlines ls.flatten = ls.flatMap splitlines := by
  induction ls with
  | nil => rfl
  | cons l ls ih =>
    rcases eq_or_ne ls [] with rfl | hls
    · rw [List.flatten_singleton, List.flatMap_singleton]
    · obtain ⟨⟨b, rfl, -⟩, hkept⟩ := (isKept_cons_iff hls).mp h
      rw [List.flatten_cons, List.flatMap_cons, splitlines_append List.getLast?_concat, ih hkept]

/-- The line is one line for the dashboard, too, or it is comments and blank lines. -/
def Apart (l : Text) : Prop :=
  splitlines l = [l] ∨ splitlines l ≠ [] ∧ ∀ x ∈ splitlines l, isNote x = true

/-- Every line but the last one ends in front of a comment or a blank line. -/
theorem isNote_of_chain {ls : List Text} (hl : IsLines ls) (hr : '\r' ∉ ls.flatten)
    (hn : '\n' ∉ ls.flatten.dropLast) (hlen : 2 ≤ ls.length)
    (hc : ls.IsChain fun l l' => Foreign l → isNote l = true ∧ isNote l' = true) :
    ∀ x ∈ ls, isNote x = true := by
  induction ls with
  | nil => exact fun _ hx => absurd hx List.not_mem_nil
  | cons l ls ih =>
    cases ls with
    | nil => exact absurd hlen (by simp)
    | cons l' ls =>
      obtain ⟨hall, hchain⟩ := hl
      rw [List.isChain_cons_cons] at hchain hc
      have hne : (l' :: ls).flatten ≠ [] := by
        have hl' : l' ≠ [] := (hall l' (by simp)).elim Ended.ne_nil fun h => h.1
        simp [hl']
      rw [List.flatten_cons, List.mem_append, not_or] at hr
      rw [List.flatten_cons, List.dropLast_append_of_ne_nil hne, List.mem_append, not_or] at hn
      have hforeign : Foreign l := by
        obtain ⟨b, e, rfl, -, rfl | ⟨c, he, rfl⟩⟩ := hchain.1.1
        · exact absurd (List.mem_append_right b (by decide)) hr.1
        · refine ⟨c, by simp, he, ?_⟩
          rw [isEnd, decide_eq_false_iff_not, not_or]
          constructor
          · rintro rfl
            exact hr.1 (by simp)
          · rintro rfl
            exact hn.1 (by simp)
      have hnotes := hc.1 hforeign
      refine List.forall_mem_cons.mpr ⟨hnotes.1, ?_⟩
      cases ls with
      | nil => exact List.forall_mem_singleton.mpr hnotes.2
      | cons l'' ls =>
        exact ih ⟨(List.forall_mem_cons.mp hall).2, hchain.2⟩ hr.2 hn.2 (by simp) hc.2

/-- **The lines of the synchronisation**, as the dashboard sees them. -/
theorem apart_of_plain (hr : '\r' ∉ text) (hp : Plain (splitlines text)) :
    ∀ l ∈ keepLines text, Apart l := by
  intro l hl
  obtain ⟨A, B, hlines⟩ := List.append_of_mem hl
  have hkept := isKept_keepLines text
  have hline : Terminated l ∨ l ≠ [] ∧ '\n' ∉ l := hkept.mem hl
  have hnl : '\n' ∉ l.dropLast := by
    rcases hline with ⟨b, rfl, hb⟩ | ⟨-, hopen⟩
    · rwa [List.dropLast_concat]
    · exact fun h => hopen (List.mem_of_mem_dropLast h)
  have hne : splitlines l ≠ [] := by
    intro hnil
    have hf := flatten_splitlines l
    rw [hnil, List.flatten_nil] at hf
    rcases hline with ⟨b, hb, -⟩ | ⟨hl, -⟩
    · rw [← hf] at hb
      exact absurd hb.symm (List.concat_ne_nil _ _)
    · exact hl hf.symm
  have hrl : '\r' ∉ l := by
    rw [← flatten_keepLines text] at hr
    exact fun h => hr (List.mem_flatten.mpr ⟨l, hl, h⟩)
  have hchain := hp.1
  rw [← flatten_keepLines text, splitlines_kept hkept, hlines, List.flatMap_append,
    List.flatMap_cons] at hchain
  have hpieces := (List.isChain_append.mp (List.isChain_append.mp hchain).2.1).1
  by_cases hlen : 2 ≤ (splitlines l).length
  · refine Or.inr ⟨hne, isNote_of_chain (isLines_splitlines l) ?_ ?_ hlen hpieces⟩
    · rwa [flatten_splitlines]
    · rwa [flatten_splitlines]
  · -- there is one line
    obtain ⟨x, hx⟩ := List.length_eq_one_iff.mp
      (Nat.le_antisymm (Nat.lt_succ_iff.mp (not_le.mp hlen)) (List.length_pos_of_ne_nil hne))
    have hf := flatten_splitlines l
    rw [hx, List.flatten_singleton] at hf
    rw [Apart, hx, hf]
    exact Or.inl rfl

theorem isNote_flatten {ls : List Text} (h : ∀ x ∈ ls, isNote x = true) :
    isNote ls.flatten = true := by
  induction ls with
  | nil => rfl
  | cons l ls ih =>
    rw [List.forall_mem_cons] at h
    exact isNote_append h.1 (ih h.2)

theorem Apart.note (h : Apart l) (hl : splitlines l ≠ [l]) : isNote l = true := by
  have hnote := isNote_flatten (h.resolve_left hl).2
  rwa [flatten_splitlines] at hnote

/-- A line with text is one line. -/
theorem splitlines_of_text (h : Apart l) (hn : isNote l = false) : splitlines l = [l] := by
  by_contra hl
  rw [h.note hl] at hn
  cases hn

theorem flatMap_of_text (h : ∀ l ∈ ls, Apart l ∧ isNote l = false) : ls.flatMap splitlines = ls := by
  rw [List.flatMap_congr fun l hl => splitlines_of_text (h l hl).1 (h l hl).2]
  exact List.flatMap_singleton' ls

theorem mem_of_text (h : ∀ l ∈ ls, Apart l) {x : Text} (hx : x ∈ ls.flatMap splitlines)
    (hn : isNote x = false) : x ∈ ls := by
  obtain ⟨l, hl, hxl⟩ := List.mem_flatMap.mp hx
  rcases h l hl with he | ⟨-, hnotes⟩
  · rw [he, List.mem_singleton] at hxl
    rwa [hxl]
  · rw [hnotes x hxl] at hn
    cases hn

variable {kind : Text → Bool} (hkind : ∀ l, kind l = true → isNote l = false)
include hkind

theorem kind_flatMap (h : ∀ l ∈ ls, Apart l) (hno : ∀ l ∈ ls, kind l = false) :
    ∀ x ∈ ls.flatMap splitlines, kind x = false := by
  intro x hx
  cases hk : kind x with
  | false => rfl
  | true =>
    rw [← hno x (mem_of_text h hx (hkind x hk))]
    exact hk.symm

theorem any_flatMap (h : ∀ l ∈ ls, Apart l) :
    (ls.flatMap splitlines).any kind = ls.any kind := by
  cases ha : ls.any kind with
  | true =>
    obtain ⟨l, hl, hk⟩ := List.any_eq_true.mp ha
    refine List.any_eq_true.mpr ⟨l, List.mem_flatMap.mpr ⟨l, hl, ?_⟩, hk⟩
    rw [splitlines_of_text (h l hl) (hkind l hk)]
    exact List.mem_singleton_self l
  | false =>
    rw [List.any_eq_false] at ha ⊢
    have hno := kind_flatMap hkind h fun l hl => Bool.eq_false_of_not_eq_true (ha l hl)
    exact fun x hx => by rw [hno x hx]; exact Bool.false_ne_true

theorem takeWhile_flatMap (h : ∀ l ∈ ls, Apart l) (hno : ls.takeWhile kind = []) :
    (ls.flatMap splitlines).takeWhile kind = [] := by
  cases ls with
  | nil => rfl
  | cons l ls =>
    have hl : kind l = false := by
      cases hk : kind l with
      | false => rfl
      | true =>
        rw [List.takeWhile_cons_of_pos hk] at hno
        cases hno
    rw [List.forall_mem_cons] at h
    rw [List.flatMap_cons]
    have hfirst := kind_flatMap hkind (List.forall_mem_singleton.mpr h.1)
      (List.forall_mem_singleton.mpr hl)
    rw [List.flatMap_singleton] at hfirst
    cases hs : splitlines l with
    | nil =>
      rcases h.1 with he | ⟨hne, -⟩
      · rw [hs] at he
        cases he
      · exact absurd hs hne
    | cons x xs =>
      rw [hs, List.forall_mem_cons] at hfirst
      exact List.takeWhile_cons_of_neg (by simp [hfirst.1])

end Apart

section Lines

variable {text : Text} {tgs : List ℕ}

/-- **The lines with the new block**, and perhaps an empty block of mappings behind it. -/
theorem updateText_lines {text' : Text} (hr : '\r' ∉ text) (hp : Plain (splitlines text))
    (h : updateText text tgs = some text') :
    ∃ before block added after, splitlines text = before ++ (block ++ after) ∧
      (∀ l ∈ before, opensBlock l = false) ∧
      (∃ header items, block = header :: items ∧ opensBlock header = true ∧
        (∀ l ∈ items, isItem l = true)) ∧ after.takeWhile isItem = [] ∧
      (added = [] ∨ added = [line "  talkgroupMappings: []"] ∧
        ∀ l ∈ splitlines text, isKeyLine 2 "talkgroupMappings" l = false) ∧
      (∀ l ∈ formatStaticTalkgroupsBlock tgs ++ added, Fresh l ∧ Unix l) ∧
      text' = if (before ++ (formatStaticTalkgroupsBlock tgs ++ added ++ after)).any opensSms then
          (before ++ (formatStaticTalkgroupsBlock tgs ++ added ++ after)).flatten
        else rstrip (before ++ (formatStaticTalkgroupsBlock tgs ++ added ++ after)).flatten ++
          "\n\n".toList ++ smsConfigBlock ++ ['\n'] := by
  have hapart := apart_of_plain hr hp
  have hkept := isKept_keepLines text
  have hsplitlines := splitlines_kept hkept
  rw [flatten_keepLines] at hsplitlines
  obtain ⟨⟨front, block, rest⟩, hsplit, -⟩ := Option.bind_eq_some_iff.mp h
  obtain ⟨header, items, rfl, hls, hfront, hheader, hitems, hrest⟩ := splitBlock_some hsplit
  have hupdate := updateText_parts (hls ▸ hkept) hfront hheader hitems hrest tgs
  rw [← hls, flatten_keepLines, h, Option.some.injEq] at hupdate
  have hparts := hapart
  rw [hls, List.forall_mem_append, List.forall_mem_append] at hparts
  obtain ⟨hfrontApart, hblockApart, hrestApart⟩ := hparts
  have hblock : (header :: items).flatMap splitlines = header :: items :=
    flatMap_of_text fun l hl => ⟨hblockApart l hl, by
      rcases List.mem_cons.mp hl with rfl | hl
      · exact isNote_of_opensBlock hheader
      · exact isNote_of_isItem (hitems l hl)⟩
  have hopens : ∀ l, opensSms l = true → isNote l = false :=
    fun l hl => isNote_of_endsSection (endsSection_of_opensSms hl)
  have hflatten : ∀ ls : List Text, (ls.flatMap splitlines).flatten = ls.flatten := by
    intro ls
    induction ls with
    | nil => rfl
    | cons l ls ih => rw [List.flatMap_cons, List.flatten_append, flatten_splitlines, ih,
        List.flatten_cons]
  obtain ⟨newHeader, newItems, hformat, -, -, hfresh⟩ := formatStaticTalkgroupsBlock_kind tgs
  rw [← hformat] at hfresh
  refine ⟨front.flatMap splitlines, header :: items, addedMappings (keepLines text),
    rest.flatMap splitlines, ?_, ?_, ⟨header, items, rfl, hheader, hitems⟩, ?_, ?_, ?_, ?_⟩
  · rw [hsplitlines, hls, List.flatMap_append, List.flatMap_append, hblock]
  · exact kind_flatMap (fun l hl => isNote_of_opensBlock hl) hfrontApart hfront
  · exact takeWhile_flatMap (fun l hl => isNote_of_isItem hl) hrestApart hrest
  · rw [addedMappings]
    split_ifs with hhas
    · exact Or.inl rfl
    · refine Or.inr ⟨rfl, fun l hl => ?_⟩
      cases hk : isKeyLine 2 "talkgroupMappings" l with
      | false => rfl
      | true =>
        -- the key would have been found
        rw [hsplitlines] at hl
        have hmem := mem_of_text hapart hl (isNote_of_isKeyLine (by decide) hk)
        exact absurd (hasTalkgroupMappings_of_mem hmem hk) hhas
  · refine List.forall_mem_append.mpr ⟨hfresh, ?_⟩
    rw [addedMappings]
    split_ifs
    · exact fun _ hl => absurd hl List.not_mem_nil
    · exact List.forall_mem_singleton.mpr (written_line (by decide) (by decide))
  · rw [hupdate, finish, withSms]
    simp only [List.any_append, List.flatten_append, hflatten, any_flatMap hopens hfrontApart,
      any_flatMap hopens hrestApart, List.append_assoc]

end Lines

section WithSms

variable {P blankLines : List Text} {l : Text}

theorem endsLine_rstrip {l : Text} (h : Ended l ∨ Open l) :
    ∀ c ∈ rstrip l, endsLine c = false := by
  have hfront : ∀ b, rstrip b <+: b := fun b => by
    obtain ⟨w, hb, -⟩ := exists_rstrip b
    exact ⟨w, hb.symm⟩
  rcases h with ⟨b, e, rfl, hb, he⟩ | h
  · have hw : ∀ c ∈ e, isSpace c = true := by
      rcases he with rfl | ⟨c, hc, rfl⟩
      · decide
      · exact List.forall_mem_singleton.mpr (isSpace_of_endsLine hc)
    rw [rstrip_append hw]
    exact fun c hc => hb c ((hfront b).subset hc)
  · exact fun c hc => h.2 c ((hfront l).subset hc)

theorem rstrip_flatten {ls : List Text} (h : rstrip ls.flatten ≠ []) :
    ∃ P l blankLines, ls = P ++ l :: blankLines ∧ (∀ b ∈ blankLines, ∀ c ∈ b, isSpace c = true) ∧
      rstrip ls.flatten = P.flatten ++ rstrip l ∧ rstrip l ≠ [] := by
  induction ls using List.reverseRecOn with
  | nil => exact absurd rfl h
  | append_singleton ls l ih =>
    rw [List.flatten_append, List.flatten_singleton] at h ⊢
    by_cases hl : rstrip l = []
    · have hspace := (rstrip_eq_nil_iff l).mp hl
      rw [rstrip_append hspace] at h ⊢
      obtain ⟨P, x, bs, rfl, hbs, hr, hx⟩ := ih h
      refine ⟨P, x, bs ++ [l], by simp, ?_, hr, hx⟩
      exact List.forall_mem_append.mpr ⟨hbs, List.forall_mem_singleton.mpr hspace⟩
    · exact ⟨ls, l, [], by simp, fun _ hb => absurd hb List.not_mem_nil, rstrip_append_of_ne hl _, hl⟩

theorem append_newlines {block rest : Text} (h : block ++ ['\n'] = rest) (a b : Text) :
    a ++ b ++ "\n\n".toList ++ block ++ ['\n'] = a ++ (b ++ ['\n']) ++ (['\n'] ++ rest) := by
  have hn : "\n\n".toList = ['\n', '\n'] := by decide
  rw [← h, hn]
  simp only [List.append_assoc, List.cons_append, List.nil_append]

/-- **The lines with the section `sms` behind them.** -/
theorem splitlines_withSms (hl : IsLines (P ++ l :: blankLines))
    (hr : '\r' ∉ (P ++ l :: blankLines).flatten) :
    ∃ sms, splitlines (P.flatten ++ rstrip l ++ "\n\n".toList ++ smsConfigBlock ++ ['\n']) =
        P ++ [rstrip l ++ ['\n']] ++ [['\n']] ++ (['s', 'm', 's', ':', '\n'] :: sms) ∧
      (∀ x ∈ sms, (endsSection x = false ∧ opensBlock x = false) ∧ Unix x) ∧
      Unix (rstrip l ++ ['\n']) := by
  obtain ⟨body, hbody, -, hunix, hkind⟩ := smsConfigBlock_kind
  have hparts := (isLines_append_iff _ _).mp hl
  have hclean := endsLine_rstrip (hl.1 l (by simp))
  have hended : Ended (rstrip l ++ ['\n']) := ⟨_, _, rfl, hclean, Or.inr ⟨'\n', rfl, rfl⟩⟩
  have hends : ∀ x ∈ P, x.getLast? ≠ some '\r' := fun x hx hlast =>
    hr (List.mem_flatten.mpr ⟨x, List.mem_append_left _ hx, List.mem_of_getLast? hlast⟩)
  have hlines : IsLines (P ++ [rstrip l ++ ['\n']]) := by
    refine (isLines_append_iff _ _).mpr ⟨hparts.1, ⟨?_, List.isChain_singleton _⟩, ?_⟩
    · exact List.forall_mem_singleton.mpr (Or.inl hended)
    · intro x hx y _
      refine ⟨?_, fun h => hends x (List.mem_of_getLast? hx) h.1⟩
      exact (hparts.2.2 x hx l rfl).1
  have htext : P.flatten ++ rstrip l ++ "\n\n".toList ++ smsConfigBlock ++ ['\n'] =
      (P ++ [rstrip l ++ ['\n']]).flatten ++ (['\n'] ++ (['s', 'm', 's', ':', '\n'] ++ body)) := by
    rw [List.flatten_append, List.flatten_singleton]
    exact append_newlines hbody _ _
  refine ⟨splitlines body, ?_, fun x hx => ⟨hkind x hx, ?_⟩, fun c hc he => ?_⟩
  · rw [htext, splitlines_append (by simp), splitlines_flatten hlines, splitlines_append rfl,
      splitlines_append rfl]
    have h1 : splitlines ['\n'] = [['\n']] := by decide
    have h2 : splitlines ['s', 'm', 's', ':', '\n'] = [['s', 'm', 's', ':', '\n']] := by decide
    rw [h1, h2]
    simp
  · exact (unix_flatten_iff _).mp (by rwa [flatten_splitlines]) x hx
  · rcases List.mem_append.mp hc with hc | hc
    · rw [hclean c hc] at he
      cases he
    · exact List.mem_singleton.mp hc

theorem opensSms_of_opensSection {l : Text} (h : opensSection "sms" l = true) :
    opensSms l = true := by
  obtain ⟨e, he, hall⟩ := exists_dropEnd l
  rw [opensSection, decide_eq_true_eq] at h
  rw [opensSms, decide_eq_true_eq, he, h]
  refine ⟨List.isPrefixOf_iff_prefix.mpr (List.prefix_append _ _), ?_⟩
  exact List.all_eq_true.mpr fun c hc => isSpace_of_isEnd (hall c hc)

theorem opensSection_smsHeader {section_ : String} (h : section_ ≠ "sms") :
    opensSection section_ ['s', 'm', 's', ':', '\n'] = false := by
  rw [opensSection, decide_eq_false_iff_not]
  intro he
  have hd : dropEnd ['s', 'm', 's', ':', '\n'] = "sms".toList ++ [':'] := by decide
  rw [hd] at he
  exact h (String.toList_inj.mp (List.append_cancel_right he)).symm

section Entries

variable {section_ key : String} {inside : Text → Bool} {sms : List Text}

theorem kind_restrip {β : Type} {kind : Text → β}
    (hkind : ∀ b w, (∀ c ∈ w, isSpace c = true) → kind (b ++ w) = kind b) (l : Text) :
    kind (rstrip l ++ ['\n']) = kind l := by
  obtain ⟨w, hlw, hw⟩ := exists_rstrip l
  rw [hkind _ _ (by decide)]
  conv_rhs => rw [hlw]
  exact (hkind _ _ hw).symm

/-- Other ends of lines still stand between comments and blank lines. -/
theorem plain_withSms {X : List Text} (hp : Plain (P ++ l :: blankLines))
    (hl : Unix (rstrip l ++ ['\n'])) (hX : ∀ x ∈ X, Unix x) :
    Plain (P ++ (rstrip l ++ ['\n']) :: X) := by
  have hnone : ∀ x ∈ (rstrip l ++ ['\n']) :: X, ¬ Foreign x := fun x hx =>
    not_foreign_of_unix (List.forall_mem_cons.mpr ⟨hl, hX⟩ x hx)
  have hchain := List.isChain_append.mp hp.1
  refine ⟨List.isChain_append.mpr ⟨hchain.1, (plain_of_forall hnone).1, fun x hx y hy hf => ?_⟩,
    fun x hx => ?_⟩
  · cases hy
    rw [kind_restrip (fun b w hw => isNote_space hw b)]
    exact hchain.2.2 x hx l rfl hf
  · rw [List.getLast?_append_of_ne_nil _ (List.cons_ne_nil _ _)] at hx
    exact hnone x (List.mem_of_getLast? hx)

/-- **The block of static talkgroups stays** when the section `sms` is added. -/
theorem staticBlock_withSms (hblank : ∀ b ∈ blankLines, ∀ c ∈ b, isSpace c = true)
    (hsms : ∀ x ∈ sms, opensBlock x = false) :
    staticBlock (P ++ [rstrip l ++ ['\n']] ++ [['\n']] ++ (['s', 'm', 's', ':', '\n'] :: sms)) =
      staticBlock (P ++ l :: blankLines) := by
  have hblankLine : ∀ x, (∀ c ∈ x, isSpace c = true) → opensBlock x = false ∧ isItem x = false := by
    intro x hx
    have h1 := opensBlock_append hx []
    have h2 := isItem_append hx []
    rw [List.nil_append] at h1 h2
    exact ⟨h1, h2⟩
  have hcut : ∀ (A X : List Text), (∀ x ∈ X, ∀ c ∈ x, isSpace c = true) →
      blockAt opensBlock isItem (A ++ X) = blockAt opensBlock isItem A := by
    intro A X hX
    refine blockAt_append (fun x hx => (hblankLine x (hX x hx)).1) ?_
    cases X with
    | nil => rfl
    | cons x X =>
      have hx := (hblankLine x (hX x List.mem_cons_self)).2
      exact List.takeWhile_cons_of_neg (by simp [hx])
  have hlast : P ++ l :: blankLines = P ++ [l] ++ blankLines := by simp
  have hheader : ∀ x ∈ ['s', 'm', 's', ':', '\n'] :: sms, opensBlock x = false :=
    List.forall_mem_cons.mpr ⟨by decide, hsms⟩
  rw [hlast, staticBlock, staticBlock,
    blockAt_append hheader (List.takeWhile_cons_of_neg (by decide)), hcut _ _ (by decide),
    hcut _ _ hblank]
  exact blockAt_last rstrip (kind_restrip (fun b w hw => opensBlock_append hw b) l)
    (kind_restrip (fun b w hw => isItem_append hw b) l)
    (kind_restrip (fun b w hw => rstrip_append hw b) l)

/-- **An entry stays** when the section `sms` is added. -/
theorem entryAt_withSms (hs : IsSection section_) (hk : IsKey key)
    (hi : ∀ b w, (∀ c ∈ w, isSpace c = true) → inside (b ++ w) = inside b)
    (hnil : inside [] = false) (hblank : ∀ b ∈ blankLines, ∀ c ∈ b, isSpace c = true)
    (hsms : ∀ x ∈ sms, endsSection x = false) (hno : ∀ x ∈ P ++ l :: blankLines, opensSms x = false)
    {b : List Text} (h : entryAt section_ key inside (P ++ l :: blankLines) = some b) :
    entryAt section_ key inside (P ++ [rstrip l ++ ['\n']] ++ [['\n']] ++
      (['s', 'm', 's', ':', '\n'] :: sms)) = some b := by
  have hblankLine : ∀ x, (∀ c ∈ x, isSpace c = true) →
      (endsSection x = false ∧ isKeyLine 2 key x = false) ∧ inside x = false := by
    intro x hx
    have h1 := endsSection_append hx []
    have h2 := isKeyLine_append hx 2 key []
    have h3 := hi [] x hx
    rw [List.nil_append] at h1 h2 h3
    refine ⟨⟨h1, h2.trans ?_⟩, h3.trans hnil⟩
    cases hkey : isKeyLine 2 key [] with
    | false => rfl
    | true =>
      obtain ⟨c, rest, hc, -⟩ := exists_of_isKeyLine hk hkey
      cases hc
  have hcut : ∀ (A X : List Text), (∀ x ∈ X, ∀ c ∈ x, isSpace c = true) →
      entryAt section_ key inside (A ++ X) = entryAt section_ key inside A := by
    intro A X hX
    have hp : entryAt section_ key inside (A ++ (X ++ [])) =
        entryAt section_ key inside (A ++ ([] ++ [])) := entryAt_patch hs
      (fun _ hx => absurd hx List.not_mem_nil) (fun x hx => (hblankLine x (hX x hx)).1) rfl ?_
    · rwa [List.append_nil, List.nil_append, List.append_nil] at hp
    · rw [List.append_nil]
      cases X with
      | nil => rfl
      | cons x X =>
        have hx := (hblankLine x (hX x List.mem_cons_self)).2
        exact List.takeWhile_cons_of_neg (by simp [hx])
  have hsection : section_ ≠ "sms" := by
    rintro rfl
    rw [entryAt, blockIn_eq_none_of_open] at h
    · cases h
    · intro x hx
      cases ho : opensSection "sms" x with
      | false => rfl
      | true =>
        rw [← hno x hx]
        exact (opensSms_of_opensSection ho).symm
  have hlast : P ++ l :: blankLines = P ++ [l] ++ blankLines := by simp
  rw [hlast, hcut _ _ hblank] at h
  have hfound : blockIn (opensSection section_) (fun l => !endsSection l) (isKeyLine 2 key) inside
      (P ++ [l]) ≠ none := by
    intro hn
    rw [entryAt, hn] at h
    cases h
  have hbody : ∀ b w, (∀ c ∈ w, isSpace c = true) →
      (!endsSection (b ++ w)) = !endsSection b := fun b w hw => by rw [endsSection_append hw]
  have hseen := blockIn_last rstrip (kind_restrip hbody l)
    (kind_restrip (fun b w hw => isKeyLine_append hw 2 key b) l) (kind_restrip hi l)
    (kind_restrip (fun b w hw => rstrip_append hw b) l) hfound
  have hheader : ∀ x ∈ ['s', 'm', 's', ':', '\n'] :: sms, opensSection section_ x = false := by
    refine List.forall_mem_cons.mpr ⟨?_, fun x hx => opensSection_eq_false hs (hsms x hx)⟩
    exact opensSection_smsHeader hsection
  rw [entryAt, blockIn_append hheader (List.takeWhile_cons_of_neg (by decide))]
  change entryAt section_ key inside _ = _
  rw [hcut _ _ (by decide), entryAt, map_stripped, hseen]
  exact h

end Entries

end WithSms

section Spec

variable {text text' : Text} {tgs : List ℕ}

theorem added_kind {key : String} (hk : IsKey key) (hne : key ≠ "talkgroupMappings") :
    endsSection (line "  talkgroupMappings: []") = false ∧
      isKeyLine 2 key (line "  talkgroupMappings: []") = false := by
  have hline : isKeyLine 2 "talkgroupMappings" (line "  talkgroupMappings: []") = true := by decide
  have hinner := inner_of_isKeyLine (by decide) (by decide) hline
  exact ⟨hinner.1, hinner.2.2 key hk hne⟩

/-- **What the synchronisation does to a file.** -/
theorem updateText_spec (hr : '\r' ∉ text) (hp : Plain (splitlines text))
    (h : updateText text tgs = some text') :
    Plain (splitlines text') ∧ (Unix text → Unix text') ∧
      staticBlock (splitlines text') = some ((formatStaticTalkgroupsBlock tgs).map rstrip) ∧
      (splitlines text').any opensSms = true ∧
      (∀ section_ key b, IsSection section_ → IsKey key → key ≠ "staticTalkgroups" →
        key ≠ "talkgroupMappings" → field section_ key (splitlines text) = some b →
        field section_ key (splitlines text') = some b) ∧
      ∀ b, mappingBlock (splitlines text) = some b → mappingBlock (splitlines text') = some b := by
  obtain ⟨before, block, added, after, hls, hbefore, ⟨header, items, rfl, hheader, hitems⟩, hafter,
    hadded, hfresh, htext⟩ := updateText_lines hr hp h
  obtain ⟨newHeader, newItems, hformat, hopens, hnew, -⟩ := formatStaticTalkgroupsBlock_kind tgs
  have hstaticKey : IsKey "staticTalkgroups" := by decide
  have hold : ∀ {key}, IsKey key → key ≠ "staticTalkgroups" → ∀ x ∈ header :: items,
      endsSection x = false ∧ isKeyLine 2 key x = false := by
    intro key hk hne
    have hheaderKey := isKeyLine_of_opensBlock hheader
    refine List.forall_mem_cons.mpr ⟨⟨(keyLine_kind hstaticKey hheaderKey).1, ?_⟩, fun x hx =>
      ⟨(item_kind (hitems x hx)).1, (item_kind (hitems x hx)).2.2 key hk⟩⟩
    cases hx : isKeyLine 2 key header with
    | false => rfl
    | true => exact absurd (eq_of_isKeyLine hk hstaticKey hx hheaderKey) hne
  have hwritten : ∀ {key}, IsKey key → key ≠ "staticTalkgroups" →
      ∀ x ∈ formatStaticTalkgroupsBlock tgs, endsSection x = false ∧ isKeyLine 2 key x = false := by
    intro key hk hne
    rw [hformat]
    have hheaderKey := isKeyLine_of_opensBlock hopens
    refine List.forall_mem_cons.mpr ⟨⟨(keyLine_kind hstaticKey hheaderKey).1, ?_⟩, fun x hx =>
      ⟨(item_kind (hnew x hx)).1, (item_kind (hnew x hx)).2.2 key hk⟩⟩
    cases hx : isKeyLine 2 key newHeader with
    | false => rfl
    | true => exact absurd (eq_of_isKeyLine hk hstaticKey hx hheaderKey) hne
  have hne : formatStaticTalkgroupsBlock tgs ++ added ≠ [] := by
    rw [hformat]
    exact List.cons_ne_nil _ _
  have hold' := isLines_splitlines text
  rw [hls] at hold' hp
  have hlines : IsLines (before ++ (formatStaticTalkgroupsBlock tgs ++ added ++ after)) :=
    hold'.replace (lastEnded_of_append hold' (by simp)) (fun l hl => (hfresh l hl).1) hne
  have hplain : Plain (before ++ (formatStaticTalkgroupsBlock tgs ++ added ++ after)) :=
    hp.replace (fun l hl => by cases hl; exact isNote_of_opensBlock hheader)
      (fun l hl => not_foreign_of_unix (hfresh l hl).2) hne
  -- every line is an old one or a new one
  have hmem : ∀ l ∈ before ++ (formatStaticTalkgroupsBlock tgs ++ added ++ after),
      l ∈ splitlines text ∨ Unix l := by
    intro l hl
    rw [hls]
    rcases List.mem_append.mp hl with hl | hl
    · exact Or.inl (List.mem_append_left _ hl)
    · rcases List.mem_append.mp hl with hl | hl
      · exact Or.inr (hfresh l hl).2
      · exact Or.inl (List.mem_append_right _ (List.mem_append_right _ hl))
  generalize hL : before ++ (formatStaticTalkgroupsBlock tgs ++ added ++ after) = L at *
  have hreturn : '\r' ∉ L.flatten := by
    intro hmemr
    obtain ⟨l, hl, hc⟩ := List.mem_flatten.mp hmemr
    rcases hmem l hl with hold | hunix
    · rw [← flatten_splitlines text] at hr
      exact hr (List.mem_flatten.mpr ⟨l, hold, hc⟩)
    · exact absurd (hunix '\r' hc rfl) (by decide)
  have hunix : Unix text → ∀ l ∈ L, Unix l := by
    intro hu l hl
    rw [← flatten_splitlines text, unix_flatten_iff] at hu
    exact (hmem l hl).elim (hu l) id
  have hstatic : staticBlock L = some ((formatStaticTalkgroupsBlock tgs).map rstrip) := by
    have hstop : (added ++ after).takeWhile isItem = [] := by
      rcases hadded with rfl | ⟨rfl, -⟩
      · exact hafter
      · exact List.takeWhile_cons_of_neg (by decide)
    rw [← hL, hformat, staticBlock, blockAt_append_of_none hbefore, List.append_assoc,
      List.cons_append, blockAt_cons_of_pos hopens, takeWhile_append_of_pos hnew, hstop,
      List.append_nil]
    rfl
  have hfield : ∀ section_ key b, IsSection section_ → IsKey key → key ≠ "staticTalkgroups" →
      key ≠ "talkgroupMappings" → field section_ key (splitlines text) = some b →
      field section_ key L = some b := by
    intro s k b hs hk hne hne' hb
    rw [← hL, ← hb, hls]
    refine entryAt_patch hs (hold hk hne) (List.forall_mem_append.mpr ⟨hwritten hk hne, ?_⟩)
      (takeWhile_false _) (takeWhile_false _)
    rcases hadded with rfl | ⟨rfl, -⟩
    · exact fun _ hx => absurd hx List.not_mem_nil
    · exact List.forall_mem_singleton.mpr (added_kind hk hne')
  have hmappings : ∀ b, mappingBlock (splitlines text) = some b → mappingBlock L = some b := by
    intro b hb
    rcases hadded with rfl | ⟨-, hno⟩
    · have hk : IsKey "talkgroupMappings" := by decide
      rw [← hL, ← hb, hls, List.append_nil]
      refine entryAt_patch (by decide) (hold hk (by decide)) (hwritten hk (by decide)) ?_ ?_
      · exact List.takeWhile_cons_of_neg
          (by simp [(keyLine_kind hstaticKey (isKeyLine_of_opensBlock hheader)).2.1])
      · rw [hformat]
        exact List.takeWhile_cons_of_neg
          (by simp [(keyLine_kind hstaticKey (isKeyLine_of_opensBlock hopens)).2.1])
    · rw [mappingBlock, entryAt, blockIn_eq_none_of_start hno] at hb
      cases hb
  split_ifs at htext with hsms
  · rw [htext, splitlines_flatten hlines, unix_flatten_iff]
    exact ⟨hplain, hunix, hstatic, hsms, hfield, hmappings⟩
  · have hnoSms : ∀ x ∈ L, opensSms x = false := by simpa using hsms
    have hne : rstrip L.flatten ≠ [] := by
      rw [ne_eq, rstrip_eq_nil_iff]
      intro hall
      have hmem : newHeader ∈ L := by
        rw [← hL, hformat]
        simp
      obtain ⟨c, rest, hc, hspace, -⟩ :=
        exists_of_isKeyLine hstaticKey (isKeyLine_of_opensBlock hopens)
      rw [hall c (List.mem_flatten.mpr ⟨newHeader, hmem, by simp [hc]⟩)] at hspace
      cases hspace
    obtain ⟨P, l, blankLines, rfl, hblank, hstrip, -⟩ := rstrip_flatten hne
    obtain ⟨sms, hsplit, hkind, hline⟩ := splitlines_withSms hlines hreturn
    rw [hstrip] at htext
    have hadd : ∀ x ∈ ['\n'] :: ['s', 'm', 's', ':', '\n'] :: sms, Unix x :=
      List.forall_mem_cons.mpr ⟨by decide, List.forall_mem_cons.mpr
        ⟨by decide, fun x hx => (hkind x hx).2⟩⟩
    have hshape : P ++ [rstrip l ++ ['\n']] ++ [['\n']] ++ (['s', 'm', 's', ':', '\n'] :: sms) =
        P ++ (rstrip l ++ ['\n']) :: ['\n'] :: ['s', 'm', 's', ':', '\n'] :: sms := by
      simp
    have hunix' : Unix text → Unix text' := by
      intro hu
      rw [← flatten_splitlines text', htext, hsplit, hshape, unix_flatten_iff]
      refine List.forall_mem_append.mpr ⟨fun x hx => hunix hu x (List.mem_append_left _ hx), ?_⟩
      exact List.forall_mem_cons.mpr ⟨hline, hadd⟩
    rw [htext, hsplit, ← htext]
    refine ⟨?_, hunix', ?_, ?_, fun s k b hs hk h1 h2 hb => ?_, fun b hb => ?_⟩
    · rw [hshape]
      exact plain_withSms hplain hline hadd
    · rw [staticBlock_withSms hblank fun x hx => (hkind x hx).1.2, hstatic]
    · have hopens : opensSms ['s', 'm', 's', ':', '\n'] = true := by decide
      simp [hopens]
    · exact entryAt_withSms hs hk (fun _ _ _ => rfl) rfl hblank (fun x hx => (hkind x hx).1.1)
        hnoSms (hfield s k b hs hk h1 h2 hb)
    · exact entryAt_withSms (by decide) (by decide) (fun b w hw => isBlockLine_append hw b) rfl
        hblank (fun x hx => (hkind x hx).1.1) hnoSms (hmappings b hb)

end Spec

end Sync
