import QuantarBridge.Dashboard.AllOrNothing
import QuantarBridge.Lib.Run
import QuantarBridge.Sync.ConfigLaws

/-!
# Two programs with one configuration

The dashboard and the synchronisation of the static talkgroups rewrite `quantarbridge.yml`, each of
them from a copy that it read before. There is no common lock, so their steps may come in any order.

* `DashboardPhase`, `SyncPhase`, `Shared`, `step`: the two programs and the file;
* `NotLost`: the file has what both programs have written;
* `Current`: a step that replaces the file knows what is in it;
* `Retains`, `Requests`: the entries that stay, and those of a request;
* `Inv`, `inv_step`: what every such step preserves;
* `notLost_of_current`: **no update is lost when no program replaces a file that it does not know**;
* `not_notLost_overtaken`: a synchronisation between the dashboard's read and its write is lost.
-/

set_option autoImplicit false

namespace Dashboard

open Lib Lib.Run
open Sync (Text updateText formatStaticTalkgroupsBlock opensSms rstrip)

variable {F O : Type}

/-- How far a change of the settings is. The phases hold the content of the file when it was compared
with the request, and the old and the new content if the request changes it. -/
inductive DashboardPhase (F O : Type)
  | start
  | compared (c : Changed F O) (seen : Bytes)
  | edited (c : Changed F O) (seen : Bytes) (copy : Option (Bytes × Bytes))
  | written (c : Changed F O) (seen : Bytes) (copy : Option (Bytes × Bytes))
  | restarted (c : Changed F O) (seen : Bytes)
  | rolling (copy : Option (Bytes × Bytes)) (replaced : Bool)
  | changed (c : Changed F O) (seen : Bytes)
  | unchanged
  | failed

/-- How far a synchronisation is. -/
inductive SyncPhase
  | start
  | read (copy : Bytes) (new : Text)
  | replacing (copy : Bytes) (new : Text)
  | done
  | failed

/-- The file and the two programs. -/
structure Shared (F O : Type) where
  file : Bytes
  dashboard : DashboardPhase F O
  sync : SyncPhase

/-- A step of one of the programs, and how it ends. -/
inductive SharedEvent
  | compare
  | edit
  | abort
  | write (answer : WriteAnswer)
  | restart (works : Bool)
  | reply (works : Bool)
  | rollBack (answer : WriteAnswer)
  | syncRead
  | syncCompare
  | syncReplace (answer : WriteAnswer)

/-- The file is replaced, whatever the answer says. -/
def WriteAnswer.replaces : WriteAnswer → Bool
  | .fails _ => false
  | _ => true

section Steps

variable (py : Python F O) (cfg : DashboardConfig) (env : Environment) (others : Files)
  (values : Requested F) (staticTalkgroups : List ℕ)

/-- The files, when the shared one has the given content. -/
def withFile (file : Bytes) : Files := Function.update others cfg.quantarbridgeConfig (some file)

/-- Compare the request with the files. While the radio is busy nothing is changed. -/
def compareFile (file : Bytes) : Except PyError (Option (Changed F O)) :=
  let disk : Disk := ⟨withFile cfg others file, env.looking⟩
  let compare : Reading (Option (Changed F O)) := do
    let c ← look py disk cfg values
    if ¬ c.any then return none
    let names ← targets disk cfg c
    if names ≠ [] ∧ 0 < env.guardRemaining then throw (.settingsBusyError "")
    return some c
  (Program.exec compare 0).1

/-- The content after a write. -/
def afterWrite (answer : WriteAnswer) (old new : Bytes) : Bytes :=
  if answer.replaces then new else old

/-- The text that the synchronisation reads. -/
def readForSync (file : Bytes) : Except PyError Text := do
  return universalNewlines (← decodeUtf8 file)

/-- A step of the dashboard. -/
def stepDashboard (s : Shared F O) : SharedEvent → DashboardPhase F O → Shared F O
  | .compare, .start => match compareFile py cfg env others values s.file with
    | .ok (some c) => { s with dashboard := .compared c s.file }
    | .ok none => { s with dashboard := .unchanged }
    | .error _ => { s with dashboard := .failed }
  | .edit, .compared c seen =>
    if c.bridge then match asText (editBridge c values) s.file with
      | .ok updated => { s with dashboard := .edited c seen (some (s.file, updated)) }
      | .error _ => { s with dashboard := .failed }
    else { s with dashboard := .edited c seen none }
  -- another file cannot be edited, or the originals cannot be saved
  | .abort, .edited _ _ _ => { s with dashboard := .failed }
  | .write answer, .edited c seen copy => {
      s with
      file := match copy with
        | some (_, updated) => afterWrite answer s.file updated
        | none => s.file
      dashboard := if answer = .works then .written c seen copy
        else .rolling copy answer.replaces }
  -- the restart works, or another file or a service does not
  | .restart works, .written c seen copy =>
    { s with dashboard := if works then .restarted c seen else .rolling copy true }
  | .reply works, .restarted c seen =>
    { s with dashboard := if works then .changed c seen else .failed }
  | .rollBack answer, .rolling copy _ => {
      s with
      file := match copy with
        | some (original, _) => afterWrite answer s.file original
        | none => s.file
      dashboard := .failed }
  | _, _ => s

/-- A step of the synchronisation. -/
def stepSync (s : Shared F O) : SharedEvent → SyncPhase → Shared F O
  | .syncRead, .start => match readForSync s.file with
    | .ok text => match updateText text staticTalkgroups with
      | some new => { s with sync := .read s.file new }
      | none => { s with sync := .failed }
    | .error _ => { s with sync := .failed }
  | .syncCompare, .read copy new => match readForSync s.file with
    | .ok text => { s with sync := if text = new then .done else .replacing copy new }
    | .error _ => { s with sync := .failed }
  | .syncReplace answer, .replacing _ new => {
      s with
      file := afterWrite answer s.file (encodeUtf8 new)
      sync := if answer = .works then .done else .failed }
  | _, _ => s

/-- One step of one of the programs. A step that does not come next is none. -/
def sharedStep (s : Shared F O) (e : SharedEvent) : Shared F O × List Unit :=
  match e with
  | .syncRead | .syncCompare | .syncReplace _ => (stepSync staticTalkgroups s e s.sync, [])
  | _ => (stepDashboard py cfg env others values s e s.dashboard, [])

end Steps

/-- The lines of a file. -/
def linesOf (file : Bytes) : List Text :=
  match decodeUtf8 file with
  | .ok text => splitlines text
  | .error _ => []

/-- The block of static talkgroups is the one that the synchronisation writes. -/
def HasStatic (staticTalkgroups : List ℕ) (ls : List Text) : Prop :=
  staticBlock ls = some ((formatStaticTalkgroupsBlock staticTalkgroups).map rstrip)

/-- The entries of the keys other than those of the synchronisation stay, and so does the section
`sms`. -/
structure Retains (ls ls' : List Text) : Prop where
  field : ∀ section_ key b, IsSection section_ → IsKey key → key ≠ "staticTalkgroups" →
    key ≠ "talkgroupMappings" → field section_ key ls = some b → field section_ key ls' = some b
  mappings : ∀ b, mappingBlock ls = some b → mappingBlock ls' = some b
  sms : Unix ls.flatten → ls.any opensSms = true → Unix ls'.flatten ∧ ls'.any opensSms = true

/-- The fields that the request changes have the requested values, and the other ones are as they
were when the request was compared with them. -/
def Requests (c : Changed F O) (values : Requested F) (seen ls : List Text) : Prop :=
  (∃ sms, SetsSlot c sms seen ∧
    ∀ f ∈ bridgeEdits c values sms, if f.needed then Has f.section_ f.key f.value ls
      else ∀ b, field f.section_ f.key seen = some b → field f.section_ f.key ls = some b) ∧
  if c.mappings then mappingBlock ls = some (mappingTexts values.talkgroupMappings)
  else ∀ b, mappingBlock seen = some b → mappingBlock ls = some b

/-- Both programs have finished. -/
def Shared.finished (s : Shared F O) : Bool :=
  (match s.dashboard with
    | .changed _ _ | .unchanged | .failed => true
    | _ => false) &&
  match s.sync with
    | .done | .failed => true
    | _ => false

/-- The file has what both programs have written. -/
def NotLost (values : Requested F) (staticTalkgroups : List ℕ) (s : Shared F O) : Prop :=
  s.finished = true → (s.sync = .done → HasStatic staticTalkgroups (linesOf s.file)) ∧
    ∀ c seen, s.dashboard = .changed c seen → Requests c values (linesOf seen) (linesOf s.file)

/-- A step that replaces the file knows its content, and a line that the dashboard adds does not run
into a line without an end. -/
def Current (values : Requested F) (s : Shared F O) : SharedEvent → Prop
  | .edit => ∀ c seen, s.dashboard = .compared c seen → c.bridge = true →
      Fits c values (linesOf s.file)
  | .write answer => ∀ c seen original updated,
      s.dashboard = .edited c seen (some (original, updated)) → answer.replaces = true →
      s.file = original
  | .rollBack answer => ∀ original updated replaced,
      s.dashboard = .rolling (some (original, updated)) replaced → answer.replaces = true →
      s.file = if replaced then updated else original
  | .syncReplace answer => ∀ copy new, s.sync = .replacing copy new → answer.replaces = true →
      s.file = copy
  | _ => True

/-- Other ends of lines, which the dashboard sees and the synchronisation does not, stand only
between comments and blank lines, and not at the end of the file. -/
def PlainFile (file : Bytes) : Prop := Plain (linesOf file)

section Entries

variable {ls ls' ls'' : List Text}

theorem Retains.refl (ls : List Text) : Retains ls ls :=
  ⟨fun _ _ _ _ _ _ _ h => h, fun _ h => h, fun hu ho => ⟨hu, ho⟩⟩

theorem Retains.trans (h : Retains ls ls') (h' : Retains ls' ls'') : Retains ls ls'' :=
  ⟨fun s k b hs hk h1 h2 hb => h'.field s k b hs hk h1 h2 (h.field s k b hs hk h1 h2 hb),
    fun b hb => h'.mappings b (h.mappings b hb), fun hu ho =>
      have hmid := h.sms hu ho
      h'.sms hmid.1 hmid.2⟩

theorem SetsSlot.of_retains {c : Changed F O} {sms : Bool} (h : SetsSlot c sms ls')
    (hk : Retains ls ls') : SetsSlot c sms ls :=
  ⟨h.timeslot, fun hc hu ho => h.found hc (hk.sms hu ho).1 (hk.sms hu ho).2⟩

theorem bridgeEdits_key {c : Changed F O} {values : Requested F} {sms : Bool} {f : FieldEdit}
    (hf : f ∈ bridgeEdits c values sms) :
    f.key ≠ "staticTalkgroups" ∧ f.key ≠ "talkgroupMappings" := by
  have hmem := List.mem_map_of_mem (f := FieldEdit.key) hf
  rw [bridgeEdits_keys] at hmem
  constructor
  all_goals
    intro hk
    rw [hk] at hmem
    revert hmem
    decide

theorem Requests.retains {c : Changed F O} {values : Requested F} {seen : List Text}
    (h : Requests c values seen ls) (hk : Retains ls ls') : Requests c values seen ls' := by
  obtain ⟨⟨sms, hslot, hf⟩, hm⟩ := h
  refine ⟨⟨sms, hslot, fun f hmem => ?_⟩, ?_⟩
  · have hv := bridgeEdits_valid c values sms f hmem
    have hne := bridgeEdits_key hmem
    have hfield := hk.field f.section_ f.key
    have h := hf f hmem
    split_ifs at h ⊢
    · exact hfield _ hv.isSection hv.isKey hne.1 hne.2 h
    · exact fun b hb => hfield b hv.isSection hv.isKey hne.1 hne.2 (h b hb)
  · split_ifs at hm ⊢
    · exact hk.mappings _ hm
    · exact fun b hb => hk.mappings b (hm b hb)

theorem requests_of_retains {c : Changed F O} {values : Requested F} (hc : c.bridge = false)
    (h : Retains ls ls') : Requests c values ls ls' := by
  simp only [Changed.bridge, Bool.or_eq_false_iff] at hc
  obtain ⟨⟨⟨⟨⟨⟨⟨h1, h2⟩, h3⟩, h4⟩, h5⟩, h6⟩, h7⟩, h8⟩ := hc
  refine ⟨⟨false, ⟨nofun, fun ht => absurd (h3.symm.trans ht) Bool.false_ne_true⟩, fun f hf => ?_⟩, ?_⟩
  · have hneeded : f.needed = false := by
      have hmem := List.mem_map_of_mem (f := FieldEdit.needed) hf
      simpa [bridgeEdits, h1, h2, h3, h4, h5, h6, h8] using hmem
    have hv := bridgeEdits_valid c values false f hf
    have hne := bridgeEdits_key hf
    rw [hneeded, if_neg Bool.false_ne_true]
    exact fun b hb => h.field f.section_ f.key b hv.isSection hv.isKey hne.1 hne.2 hb
  · rw [h7, if_neg Bool.false_ne_true]
    exact h.mappings

theorem linesOf_encodeUtf8 (text : Text) : linesOf (encodeUtf8 text) = splitlines text := by
  rw [linesOf, decodeUtf8_encodeUtf8]

end Entries

section Writers

variable {c : Changed F O} {values : Requested F} {file updated : Bytes} {seen : List Text}

/-- **What the dashboard writes.** -/
theorem asText_editBridge (hfits : Fits c values (linesOf file)) (hseen : Retains seen (linesOf file))
    (h : asText (editBridge c values) file = .ok updated) :
    Requests c values seen (linesOf updated) ∧
      staticBlock (linesOf updated) = staticBlock (linesOf file) ∧
      (PlainFile file → PlainFile updated) := by
  obtain ⟨text, hdecode, h⟩ := bind_eq_ok h
  obtain ⟨text', hedit, h⟩ := bind_eq_ok h
  cases h
  have hls : linesOf file = splitlines text := by rw [linesOf, hdecode]
  rw [hls] at hfits hseen
  obtain ⟨⟨sms, hslot, hdone⟩, hmap, hstatic, hplain⟩ := editBridge_spec c values hfits hedit
  rw [PlainFile, PlainFile, linesOf_encodeUtf8, hls]
  refine ⟨⟨⟨sms, hslot.of_retains hseen, fun f hf => ?_⟩, ?_⟩, hstatic, hplain⟩
  · have hv := bridgeEdits_valid c values sms f hf
    have hne := bridgeEdits_key hf
    have hd := hdone f hf
    rw [FieldEdit.Done] at hd
    split_ifs at hd ⊢
    · exact hd
    · intro b hb
      rw [hd]
      exact hseen.field f.section_ f.key b hv.isSection hv.isKey hne.1 hne.2 hb
  · split_ifs at hmap ⊢
    · exact hmap
    · intro b hb
      rw [hmap]
      exact hseen.mappings b hb

variable {copy : Bytes} {text new : Text} {staticTalkgroups : List ℕ}

/-- Reading every end of a line as a newline does not change an entry. -/
theorem readForSync_spec (hplain : PlainFile copy) (h : readForSync copy = .ok text) :
    '\r' ∉ text ∧ Plain (splitlines text) ∧ (Unix (linesOf copy).flatten → Unix text) ∧
      (splitlines text).map dropEnd = (linesOf copy).map dropEnd := by
  obtain ⟨text', hdecode, h⟩ := bind_eq_ok h
  cases h
  have hls : linesOf copy = splitlines text' := by rw [linesOf, hdecode]
  have hends := map_dropEnd_universalNewlines text'
  rw [PlainFile, hls] at hplain
  rw [hls, flatten_splitlines]
  refine ⟨carriageReturn_notMem_universalNewlines text', ?_, fun hu => ?_, hends⟩
  · rw [← plain_map_dropEnd, hends, plain_map_dropEnd]
    exact hplain
  · rwa [universalNewlines_of_unix hu]

theorem retains_of_map_dropEnd {ls ls' : List Text} (h : ls'.map dropEnd = ls.map dropEnd)
    (hunix : Unix ls.flatten → Unix ls'.flatten) : Retains ls ls' := by
  have hfield : ∀ section_ key, field section_ key ls' = field section_ key ls := by
    intro section_ key
    have hdrop : ∀ ls : List Text, entryAt section_ key (fun _ => false) (ls.map dropEnd) =
        entryAt section_ key (fun _ => false) ls := entryAt_map_dropEnd section_ key fun _ => rfl
    have h1 := hdrop ls
    have h2 := hdrop ls'
    rw [field, field, ← h1, ← h2, h]
  have hmap : mappingBlock ls' = mappingBlock ls := by
    have hkind : ∀ l, isBlockLine (dropEnd l) = isBlockLine l :=
      kind_dropEnd fun b w hw => isBlockLine_append (fun c hc => isSpace_of_isEnd (hw c hc)) b
    have h1 := entryAt_map_dropEnd "routing" "talkgroupMappings" hkind ls
    have h2 := entryAt_map_dropEnd "routing" "talkgroupMappings" hkind ls'
    rw [mappingBlock, mappingBlock, ← h1, ← h2, h]
  have hsms : ls'.any opensSms = ls.any opensSms := by
    have hkind : ∀ l, opensSms (dropEnd l) = opensSms l := kind_dropEnd fun b w hw =>
      opensSms_append (fun c hc => isSpace_of_isEnd (hw c hc)) b
    have hany : ∀ ls : List Text, (ls.map dropEnd).any opensSms = ls.any opensSms := fun ls => by
      rw [List.any_map]
      exact congrArg ls.any (funext hkind)
    rw [← hany, h, hany]
  exact ⟨fun s k b _ _ _ _ hb => by rw [hfield, hb], fun b hb => by rw [hmap, hb],
    fun hu ho => ⟨hunix hu, hsms.trans ho⟩⟩

/-- **What the synchronisation writes.** -/
theorem updateText_readForSync (hplain : PlainFile copy) (h : readForSync copy = .ok text)
    (hnew : updateText text staticTalkgroups = some new) :
    Plain (splitlines new) ∧ HasStatic staticTalkgroups (splitlines new) ∧
      Retains (linesOf copy) (splitlines new) := by
  obtain ⟨hreturn, hlines, hread, hends⟩ := readForSync_spec hplain h
  obtain ⟨hwritten, hunix, hstatic, hsms, hfield, hmap⟩ := Sync.updateText_spec hreturn hlines hnew
  rw [← flatten_splitlines text] at hread
  have hnewUnix : Unix (splitlines text).flatten → Unix (splitlines new).flatten := by
    rwa [flatten_splitlines, flatten_splitlines]
  exact ⟨hwritten, hstatic, (retains_of_map_dropEnd hends hread).trans
    ⟨hfield, hmap, fun hu _ => ⟨hnewUnix hu, hsms⟩⟩⟩

end Writers

section Invariant

variable (values : Requested F) (staticTalkgroups : List ℕ)

/-- What the dashboard would write, or write back. -/
def Rewrites (original updated : Bytes) : Prop :=
  staticBlock (linesOf updated) = staticBlock (linesOf original) ∧ PlainFile original ∧
    PlainFile updated

/-- What the dashboard knows in each phase. -/
def DashboardInv (file : Bytes) : DashboardPhase F O → Prop
  | .compared _ seen => Retains (linesOf seen) (linesOf file)
  | .edited c seen none => c.bridge = false ∧ Retains (linesOf seen) (linesOf file)
  | .edited c seen (some (original, updated)) =>
    Requests c values (linesOf seen) (linesOf updated) ∧ Rewrites original updated
  | .written c seen copy => Requests c values (linesOf seen) (linesOf file) ∧
    ∀ original updated, copy = some (original, updated) → Rewrites original updated
  | .restarted c seen | .changed c seen => Requests c values (linesOf seen) (linesOf file)
  | .rolling copy _ => ∀ original updated, copy = some (original, updated) →
    Rewrites original updated
  | .start | .unchanged | .failed => True

/-- What the synchronisation knows in each phase. -/
def SyncInv (file : Bytes) : SyncPhase → Prop
  | .read copy new | .replacing copy new => Plain (splitlines new) ∧
    HasStatic staticTalkgroups (splitlines new) ∧ Retains (linesOf copy) (splitlines new)
  | .done => HasStatic staticTalkgroups (linesOf file)
  | .start | .failed => True

/-- What holds between the steps. -/
structure Inv (s : Shared F O) : Prop where
  plain : PlainFile s.file
  dashboard : DashboardInv values s.file s.dashboard
  sync : SyncInv staticTalkgroups s.file s.sync

variable {values staticTalkgroups} {file file' : Bytes}

theorem DashboardInv.retains {p : DashboardPhase F O} (h : DashboardInv values file p)
    (hk : Retains (linesOf file) (linesOf file')) : DashboardInv values file' p := by
  cases p with
  | compared c seen => exact Retains.trans h hk
  | edited c seen copy =>
    cases copy with
    | none => exact ⟨h.1, h.2.trans hk⟩
    | some copy => exact h
  | written c seen copy => exact ⟨h.1.retains hk, h.2⟩
  | restarted c seen => exact Requests.retains h hk
  | changed c seen => exact Requests.retains h hk
  | start | rolling _ _ | unchanged | failed => exact h

theorem SyncInv.sameBlock {p : SyncPhase} (h : SyncInv staticTalkgroups file p)
    (hs : staticBlock (linesOf file') = staticBlock (linesOf file)) :
    SyncInv staticTalkgroups file' p := by
  cases p with
  | done =>
    change staticBlock _ = _
    rw [hs]
    exact h
  | start | read _ _ | replacing _ _ | failed => exact h

variable (py : Python F O) (cfg : DashboardConfig) (env : Environment) (others : Files)

theorem inv_stepDashboard {s : Shared F O} {e : SharedEvent} (hi : Inv values staticTalkgroups s)
    (hc : Current values s e) :
    Inv values staticTalkgroups (stepDashboard py cfg env others values s e s.dashboard) := by
  obtain ⟨hplain, hdash, hsync⟩ := hi
  generalize hp : s.dashboard = p at hdash ⊢
  fun_cases stepDashboard py cfg env others values s e p with
  | case1 c _ => exact ⟨hplain, Retains.refl _, hsync⟩
  | case2 | case3 | case5 | case7 => exact ⟨hplain, trivial, hsync⟩
  | case4 c seen hbridge updated hedit =>
    have hfits := hc c seen hp hbridge
    obtain ⟨hrequests, hstatic, hupdated⟩ := asText_editBridge hfits hdash hedit
    exact ⟨hplain, ⟨hrequests, hstatic, hplain, hupdated hplain⟩, hsync⟩
  | case6 c seen hbridge => exact ⟨hplain, ⟨by simpa using hbridge, hdash⟩, hsync⟩
  | case8 answer c seen copy =>
    cases copy with
    | none =>
      refine ⟨hplain, ?_, hsync⟩
      simp only
      split_ifs
      · exact ⟨requests_of_retains hdash.1 hdash.2, nofun⟩
      · exact nofun
    | some copy =>
      obtain ⟨original, updated⟩ := copy
      obtain ⟨hrequests, hrewrites⟩ := hdash
      have hcopy : ∀ o u, some (original, updated) = some (o, u) → Rewrites o u := by
        intro o u h
        cases h
        exact hrewrites
      simp only [afterWrite]
      cases hr : answer.replaces with
      | true =>
        have hfile := hc c seen original updated hp hr
        simp only [ite_true]
        refine ⟨hrewrites.2.2, ?_, hsync.sameBlock ?_⟩
        · simp only
          split_ifs
          · exact ⟨hrequests, hcopy⟩
          · exact hcopy
        · exact hrewrites.1.trans (by rw [hfile])
      | false =>
        have hfails : answer ≠ .works := by
          rintro rfl
          cases hr
        simp only [if_neg hfails]
        exact ⟨hplain, hcopy, hsync⟩
  | case9 works c seen copy =>
    refine ⟨hplain, ?_, hsync⟩
    simp only
    split_ifs
    · exact hdash.1
    · exact hdash.2
  | case10 works c seen =>
    refine ⟨hplain, ?_, hsync⟩
    simp only
    split_ifs
    · exact hdash
    · trivial
  | case11 answer copy replaced =>
    cases copy with
    | none => exact ⟨hplain, trivial, hsync⟩
    | some copy =>
      obtain ⟨original, updated⟩ := copy
      obtain ⟨hblock, horiginal, hupdated⟩ := hdash original updated rfl
      simp only [afterWrite]
      cases hr : answer.replaces with
      | false => exact ⟨hplain, trivial, hsync⟩
      | true =>
        have hfile := hc original updated replaced hp hr
        simp only [ite_true]
        refine ⟨horiginal, trivial, hsync.sameBlock ?_⟩
        rw [hfile]
        split_ifs
        · exact hblock.symm
        · rfl
  | case12 => exact ⟨hplain, hp ▸ hdash, hsync⟩

theorem inv_stepSync {s : Shared F O} {e : SharedEvent} (hi : Inv values staticTalkgroups s)
    (hc : Current values s e) :
    Inv values staticTalkgroups (stepSync staticTalkgroups s e s.sync) := by
  obtain ⟨hplain, hdash, hsync⟩ := hi
  generalize hp : s.sync = p at hsync ⊢
  fun_cases stepSync staticTalkgroups s e p with
  | case1 text hread new hnew =>
    exact ⟨hplain, hdash, updateText_readForSync hplain hread hnew⟩
  | case2 | case3 | case5 => exact ⟨hplain, hdash, trivial⟩
  | case4 copy new text hread =>
    refine ⟨hplain, hdash, ?_⟩
    simp only
    split_ifs with heq
    · -- the file has the block already
      obtain ⟨-, -, -, hends⟩ := readForSync_spec hplain hread
      change staticBlock _ = _
      rw [← staticBlock_map_dropEnd, ← hends, staticBlock_map_dropEnd, heq]
      exact hsync.2.1
    · exact hsync
  | case6 answer copy new =>
    obtain ⟨hlines, hstatic, hretains⟩ := hsync
    rw [afterWrite]
    cases hr : answer.replaces with
    | true =>
      have hfile := hc copy new hp hr
      refine ⟨?_, hdash.retains ?_, ?_⟩
      · rw [PlainFile]
        simp only [ite_true, linesOf_encodeUtf8]
        exact hlines
      · simp only [ite_true, linesOf_encodeUtf8, hfile]
        exact hretains
      · simp only [ite_true]
        split_ifs
        · change staticBlock _ = _
          rw [linesOf_encodeUtf8]
          exact hstatic
        · trivial
    | false =>
      have hfails : answer ≠ .works := by
        rintro rfl
        cases hr
      simp only [if_neg hfails]
      exact ⟨hplain, hdash, trivial⟩
  | case7 => exact ⟨hplain, hdash, hp ▸ hsync⟩

/-- **One step** of one of the programs. -/
theorem inv_step {s : Shared F O} {e : SharedEvent} (hi : Inv values staticTalkgroups s)
    (hc : Current values s e) :
    Inv values staticTalkgroups (sharedStep py cfg env others values staticTalkgroups s e).1 := by
  cases e
  case syncRead | syncCompare | syncReplace => exact inv_stepSync hi hc
  all_goals exact inv_stepDashboard py cfg env others hi hc

theorem notLost_of_inv {s : Shared F O} (hi : Inv values staticTalkgroups s) :
    NotLost values staticTalkgroups s := by
  obtain ⟨-, hdash, hsync⟩ := hi
  refine fun _ => ⟨fun hp => ?_, fun c seen hp => ?_⟩
  · rw [hp] at hsync
    exact hsync
  · rw [hp] at hdash
    exact hdash

/-- **No update is lost** when no program replaces a file that it does not know. -/
theorem notLost_of_current {file : Bytes} (hplain : PlainFile file) (es : List SharedEvent)
    (hc : Along (sharedStep py cfg env others values staticTalkgroups) (Current values)
      ⟨file, .start, .start⟩ es) :
    NotLost values staticTalkgroups
      (final (sharedStep py cfg env others values staticTalkgroups) ⟨file, .start, .start⟩ es) :=
  notLost_of_inv (final_of_along (Inv values staticTalkgroups)
    (fun _ _ hcur hi => inv_step py cfg env others hi hcur) es _ hc ⟨hplain, trivial, trivial⟩)

end Invariant

section Samples

/-- The condition on a step as a test, with the line of every key that is set in its place. -/
def isCurrent (values : Requested F) (s : Shared F O) : SharedEvent → Bool
  | .edit => match s.dashboard with
    | .compared c _ => (bridgeEdits c values c.timeslot).all fun f =>
      !f.needed || (field f.section_ f.key (linesOf s.file)).isSome
    | _ => true
  | .write answer => match s.dashboard with
    | .edited _ _ (some (original, _)) => !answer.replaces || s.file = original
    | _ => true
  | .rollBack answer => match s.dashboard with
    | .rolling (some (original, updated)) replaced =>
      !answer.replaces || s.file = if replaced then updated else original
    | _ => true
  | .syncReplace answer => match s.sync with
    | .replacing copy _ => !answer.replaces || s.file = copy
    | _ => true
  | _ => true

theorem current_of_isCurrent {values : Requested F} {s : Shared F O} {e : SharedEvent}
    (h : isCurrent values s e = true) : Current values s e := by
  cases e with
  | edit =>
    intro c seen hp _ f hf hneeded
    rw [isCurrent, hp] at h
    have hfield := List.all_eq_true.mp h f hf
    rw [hneeded] at hfield
    exact Or.inr (Or.inr (Option.isSome_iff_ne_none.mp hfield))
  | write answer =>
    intro c seen original updated hp hr
    rw [isCurrent, hp] at h
    simpa [hr] using h
  | rollBack answer =>
    intro original updated replaced hp hr
    rw [isCurrent, hp] at h
    simpa [hr] using h
  | syncReplace answer =>
    intro copy new hp hr
    rw [isCurrent, hp] at h
    simpa [hr] using h
  | _ => trivial

section Tests

variable (py : Python F O) (cfg : DashboardConfig) (env : Environment) (others : Files)
  (values : Requested F) (staticTalkgroups : List ℕ)

/-- Every step of the run passes the test. -/
def allCurrent (s : Shared F O) : List SharedEvent → Bool
  | [] => true
  | e :: es => isCurrent values s e &&
    allCurrent (sharedStep py cfg env others values staticTalkgroups s e).1 es

theorem along_of_allCurrent {s : Shared F O} {es : List SharedEvent}
    (h : allCurrent py cfg env others values staticTalkgroups s es = true) :
    Along (sharedStep py cfg env others values staticTalkgroups) (Current values) s es := by
  induction es generalizing s with
  | nil => exact along_nil
  | cons e es ih =>
    rw [allCurrent, Bool.and_eq_true] at h
    exact (along_cons_iff e es).mpr ⟨current_of_isCurrent h.1, ih h.2⟩

/-- Both programs have finished, the synchronisation with success, and its block is not there. -/
def lostStatic (s : Shared F O) : Bool :=
  s.finished && (match s.sync with
    | .done => true
    | _ => false) &&
  (staticBlock (linesOf s.file) != some ((formatStaticTalkgroupsBlock staticTalkgroups).map rstrip))

theorem not_notLost_of_lostStatic {s : Shared F O} (h : lostStatic staticTalkgroups s = true) :
    ¬ NotLost values staticTalkgroups s := by
  intro hn
  rw [lostStatic, Bool.and_eq_true, Bool.and_eq_true] at h
  obtain ⟨⟨hfinished, hdone⟩, hblock⟩ := h
  cases hp : s.sync with
  | done =>
    have hs := (hn hfinished).1 hp
    rw [HasStatic] at hs
    simp [hs] at hblock
  | _ =>
    rw [hp] at hdone
    cases hdone

end Tests

/-- The configuration of the bridge, with a comment that the dashboard takes for two. -/
def sharedText : Text :=
  ["brandmeister:\n", "  repeaterId: 1\n", "  callsign: DL1ABC\n", "  timeslot: 2\n",
    "  slot2: true\n", "  rxFrequency: 430000000\n", "  txFrequency: 439000000\n", "routing:\n",
    "# Static talkgroups come from BrandMeister.\u0085# The other ones expire.\n",
    "  staticTalkgroups: []\n", "  dynamicTimeoutSeconds: 600\n", "  talkgroupMappings:\n",
    "    - p25: 1\n", "      brandmeister: 262\n"].flatMap String.toList

/-- A bridge configuration that both programs can read. -/
def sharedDocument : Document ℤ Empty :=
  [entry "brandmeister" (.dict [entry "repeaterId" (.int 1),
      entry "callsign" (.str (codes "DL1ABC".toList)), entry "timeslot" (.int 2),
      entry "slot2" (.bool true), entry "rxFrequency" (.int 430000000),
      entry "txFrequency" (.int 439000000)]),
    entry "routing" (.dict [entry "staticTalkgroups" (.list []),
      entry "dynamicTimeoutSeconds" (.int 600), entry "talkgroupMappings"
        (.list [.dict [entry "p25" (.int 1), entry "brandmeister" (.int 262)]])])]

/-- The library functions on the text above and on those of the other files. -/
def sharedPython : Python ℤ Empty where
  __ := plainPython
  safeLoad text := if text = sharedText then .ok (.dict sharedDocument) else plainPython.safeLoad text

/-- The default audio settings. -/
def plainAudio (p25Output : Bool) : Audio ℤ :=
  (audioDefaults p25Output).map fun (key, value) => (key, match value with
    | .bool b => .bool b
    | .int n => .int n
    | .float x => .float (tenThousandths x))

/-- The settings of the files with another time-out. -/
def longerTimeout : Requested ℤ where
  repeaterId := 1
  brandmeisterCallsign := codes "DL1ABC".toList
  brandmeisterTimeslot := 2
  brandmeisterRxFrequency := 430000000
  brandmeisterTxFrequency := 439000000
  brandmeisterPassword := []
  dynamicTimeoutSeconds := 900
  talkgroupMappings := [⟨1, 262⟩]
  gps := ⟨5, 300, 60⟩
  dmrToP25 := plainAudio true
  p25ToDmr := plainAudio false

/-- The programs on these files. -/
def sharedRun (es : List SharedEvent) : Shared ℤ Empty :=
  final (sharedStep sharedPython plainConfig plainEnvironment staticNameFiles longerTimeout [262])
    ⟨encodeUtf8 sharedText, .start, .start⟩ es

/-- The synchronisation comes between the dashboard's read and its write. -/
theorem not_notLost_overtaken : ¬ NotLost longerTimeout [262] (sharedRun [.compare, .edit,
    .syncRead, .syncCompare, .syncReplace .works, .write .works, .restart true, .reply true]) :=
  not_notLost_of_lostStatic _ _ (by decide +kernel)

theorem sharedText_plain : PlainFile (encodeUtf8 sharedText) := by
  rw [PlainFile, linesOf_encodeUtf8]
  decide +kernel

/-- The synchronisation starts behind the dashboard's write, and nothing is lost. -/
theorem notLost_ordered : NotLost longerTimeout [262] (sharedRun [.compare, .edit, .write .works,
    .restart true, .reply true, .syncRead, .syncCompare, .syncReplace .works]) :=
  notLost_of_current sharedPython plainConfig plainEnvironment staticNameFiles sharedText_plain _
    (along_of_allCurrent _ _ _ _ _ _ (by decide +kernel))

end Samples

end Dashboard
