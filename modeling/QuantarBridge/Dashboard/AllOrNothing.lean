import QuantarBridge.Dashboard.Update

/-!
# All or nothing

A request that fails leaves the files as they were, and a request that succeeds has written every
edited file. This fails in one way: the edited files are in place and the services have restarted,
and only then the settings cannot be read back for the reply.

* `saved_originals`: the originals of a change are the contents of the files;
* `writePending_spec`, `restore_spec`, `commit_spec`: **writing and rolling back**;
* `AllOrNothing`, `ReplyLost`: what a request should do, and the exception;
* `allOrNothing_iff`: **requests**.
-/

set_option autoImplicit false

namespace Dashboard

open Lib Lib.Program
open Sync (Text)

section Saved

variable {F O : Type} (py : Python F O) (disk : Disk) (cfg : DashboardConfig)

/-- If the program returns, the result has the property. -/
abbrev Ensures {α : Type} (m : Reading α) (Q : α → Prop) : Prop :=
  Triple (fun _ => True) m (fun a _ => Q a) fun _ _ => True

theorem ensures_true {α : Type} (m : Reading α) : Ensures m fun _ => True := by
  intro s _
  rcases exec m s with ⟨e | a, s'⟩ <;> trivial

theorem ensures_bind {α β : Type} {m : Reading α} {f : α → Reading β} {Q : β → Prop}
    (hf : ∀ a, Ensures (f a) Q) : Ensures (m >>= f) Q :=
  triple_bind (ensures_true m) fun a =>
    triple_weaken (hf a) (fun _ _ => trivial) (fun _ _ h => h) fun _ _ h => h

theorem ensures_bind_of {α β : Type} {m : Reading α} {f : α → Reading β} {P : α → Prop}
    {Q : β → Prop} (hm : Ensures m P) (hf : ∀ a, P a → Ensures (f a) Q) : Ensures (m >>= f) Q := by
  refine triple_bind hm fun a s ha => ?_
  exact hf a ha s trivial

theorem ensures_readBytes (path : Path) :
    Ensures (readBytes disk path) fun bytes => disk.files path = some bytes := by
  refine ensures_bind fun _ => ?_
  cases h : disk.files path with
  | none => exact triple_throw _ fun _ _ => trivial
  | some bytes => exact triple_pure _ fun _ _ => rfl

/-- The originals are the contents of the files. -/
def Originals (l : List Edit) : Prop := ∀ e ∈ l, disk.files e.path = some e.original

theorem ensures_editFileIf (needed : Bool) (path : Path) (edit : Bytes → Except PyError Bytes) :
    Ensures (editFileIf disk needed path edit) (Originals disk) := by
  refine triple_ite (fun _ => ?_) fun _ => triple_pure _ fun _ _ e he => absurd he List.not_mem_nil
  refine ensures_bind_of (ensures_readBytes disk path) fun original ho => ?_
  refine ensures_bind fun updated => triple_pure _ fun _ _ e he => ?_
  rw [List.mem_singleton.mp he]
  exact ho

theorem ensures_editGateway (c : Changed F O) (values : Requested F) :
    Ensures (editGateway py disk cfg c values) (Originals disk) := by
  have hnil : Ensures (pure [] : Reading (List Edit)) (Originals disk) :=
    triple_pure _ fun _ _ e he => absurd he List.not_mem_nil
  refine triple_ite (fun _ => ensures_bind fun b => triple_ite (fun _ => ?_) fun _ => hnil)
    fun _ => hnil
  refine ensures_bind_of (ensures_readBytes disk _) fun original ho => ?_
  refine ensures_bind fun text => ensures_bind fun updated => triple_pure _ fun _ _ e he => ?_
  rw [List.mem_singleton.mp he]
  exact ho

theorem Originals.append {l l' : List Edit} (h : Originals disk l) (h' : Originals disk l') :
    Originals disk (l ++ l') := by
  intro e he
  rcases List.mem_append.mp he with hl | hl
  · exact h e hl
  · exact h' e hl

theorem ensures_edits (c : Changed F O) (values : Requested F) :
    Ensures (edits py disk cfg c values) (Originals disk) := by
  refine ensures_bind_of (ensures_editFileIf disk _ _ _) fun bridge h₁ => ?_
  refine ensures_bind_of (ensures_editFileIf disk _ _ _) fun host h₂ => ?_
  refine ensures_bind_of (ensures_editFileIf disk _ _ _) fun dmrToP25 h₃ => ?_
  refine ensures_bind_of (ensures_editFileIf disk _ _ _) fun p25ToDmr h₄ => ?_
  refine ensures_bind_of (ensures_editFileIf disk _ _ _) fun brewAudio h₅ => ?_
  refine ensures_bind_of (ensures_editGateway py disk cfg c values) fun gateway h₆ => ?_
  exact triple_pure _ fun _ _ => ((((h₁.append disk h₂).append disk h₃).append disk h₄).append disk
    h₅).append disk h₆

theorem ensures_plan (guardRemaining : ℤ) (values : Requested F) :
    Ensures (plan py disk cfg guardRemaining values) fun planned =>
      ∀ ch ∈ planned, Originals disk ch.edits := by
  refine ensures_bind fun c => triple_ite (fun _ => ?_) fun _ => ?_
  · exact triple_pure _ fun _ _ ch hch => nomatch hch
  · refine ensures_bind fun names => triple_ite (fun _ => triple_throw _ fun _ _ => trivial)
      fun _ => ?_
    refine ensures_bind_of (ensures_edits py disk cfg c values) fun l hl => ?_
    refine triple_pure _ fun _ _ ch hch => ?_
    cases hch
    exact hl

end Saved

section Writing

variable {F O : Type} (py : Python F O) (cfg : DashboardConfig) (env : Environment)

/-- Every file is parsed and written, from the given answer on. -/
def WritesWork (n : ℕ) : List (Path × Bytes) → Prop
  | [] => True
  | e :: rest => checkYaml py e.1 e.2 = .ok () ∧ env.writing n = .works ∧
      WritesWork (n + 1) rest

/-- The files are written and the services restart. -/
def Applies (ch : Change) : Prop :=
  WritesWork py env 0 ch.pending.entries ∧
    ∃ names, restart cfg env.restarting ch.targets = .ok names

theorem exec_atomicWrite (answer : WriteAnswer) (path : Path) (payload : Bytes) (m : Machine) :
    exec (atomicWrite answer path payload) m = match answer with
      | .works => (.ok (), m.write path payload)
      | .fails e => (.error e, m)
      | .failsAfter e => (.error e, m.write path payload) := by
  cases answer <;> rfl

theorem exec_writePending_cons (n : ℕ) (e : Path × Bytes) (rest : List (Path × Bytes))
    (m : Machine) :
    exec (writePending py env n (e :: rest)) m = match checkYaml py e.1 e.2 with
      | .ok _ => match exec (atomicWrite (env.writing n) e.1 e.2) m with
        | (.ok _, m') => exec (writePending py env (n + 1) rest) m'
        | (.error x, m') => (.error x, m')
      | .error x => (.error x, m) := by
  have h : exec (writePending py env n (e :: rest)) m = exec (ofResult (checkYaml py e.1 e.2) >>=
    fun _ => atomicWrite (env.writing n) e.1 e.2 >>= fun _ => writePending py env (n + 1) rest) m :=
    rfl
  rw [h, exec_ofResult_bind]
  cases checkYaml py e.1 e.2 with
  | error x => rfl
  | ok u =>
    simp only [exec_bind]
    rcases exec (atomicWrite (env.writing n) e.1 e.2) m with ⟨x | v, m'⟩ <;> rfl

variable {d : Dict Path Bytes} {files : Files}

/-- **Writing.** The edited files are all in place, or the writing stopped at one that cannot be
parsed or written. -/
theorem writePending_spec {l : List (Path × Bytes)} (hl : ∀ e ∈ l, d.get? e.1 ≠ none) (n : ℕ)
    {m : Machine} (hm : AgreeOutside d m.files files) :
    match exec (writePending py env n l) m with
    | (.ok _, m') => WritesWork py env n l ∧ m' = { m with files := writeAll l m.files }
    | (.error _, m') => ¬ WritesWork py env n l ∧ m'.restoreFailed = m.restoreFailed ∧
        AgreeOutside d m'.files files := by
  induction l generalizing n m with
  | nil => exact ⟨trivial, rfl⟩
  | cons e rest ih =>
    have hupd : AgreeOutside d (m.write e.1 e.2).files files :=
      hm.update (hl e List.mem_cons_self) e.2
    rw [exec_writePending_cons, exec_atomicWrite]
    cases hc : checkYaml py e.1 e.2 with
    | error x =>
      refine ⟨fun h => ?_, rfl, hm⟩
      rw [h.1] at hc
      cases hc
    | ok u =>
      cases ha : env.writing n with
      | works =>
        have ih := ih (fun x hx => hl x (List.mem_cons_of_mem _ hx)) (n + 1) hupd
        simp only
        generalize exec (writePending py env (n + 1) rest) (m.write e.1 e.2) = r at ih ⊢
        rcases r with ⟨x | v, m'⟩
        · exact ⟨fun h => ih.1 h.2.2, ih.2⟩
        · exact ⟨⟨hc, ha, ih.1⟩, ih.2⟩
      | fails x => exact ⟨fun h => WriteAnswer.noConfusion (ha.symm.trans h.2.1), rfl, hm⟩
      | failsAfter x => exact ⟨fun h => WriteAnswer.noConfusion (ha.symm.trans h.2.1), rfl, hupd⟩

/-- **Restoring.** Unless a restoring write fails, all originals are written. -/
theorem restore_spec (l : List (Path × Bytes)) (n : ℕ) (m : Machine)
    (hr : (exec (restore env n l) m).2.restoreFailed = false) :
    exec (restore env n l) m = (.ok (), { m with files := writeAll l m.files }) := by
  induction l generalizing n m with
  | nil => rfl
  | cons e rest ih =>
    change (exec (do
      if env.restoring n ≠ .works then modify fun m => { m with restoreFailed := true }
      atomicWrite (env.restoring n) e.1 e.2
      restore env (n + 1) rest) m).2.restoreFailed = false at hr
    change exec (do
      if env.restoring n ≠ .works then modify fun m => { m with restoreFailed := true }
      atomicWrite (env.restoring n) e.1 e.2
      restore env (n + 1) rest) m = _
    cases ha : env.restoring n with
    | works =>
      rw [ha, if_neg (not_not_intro rfl)] at hr
      rw [if_neg (not_not_intro rfl)]
      exact ih (n + 1) (m.write e.1 e.2) hr
    | fails x =>
      rw [ha] at hr
      exact Bool.noConfusion hr
    | failsAfter x =>
      rw [ha] at hr
      exact Bool.noConfusion hr

/-- The files with the edited ones in place. -/
def Change.written (ch : Change) (files : Files) : Files := overlay ch.pending files

theorem pending_eq_none_iff (ch : Change) (path : Path) :
    ch.pending.get? path = none ↔ ch.originals.get? path = none := by
  rw [Change.pending, Change.originals, Bimap.forward_eq_none_iff, Bimap.forward_eq_none_iff,
    List.map_map, List.map_map]
  rfl

theorem saved_originals {ch : Change} (h : ∀ e ∈ ch.edits, files e.path = some e.original) :
    Saved ch.originals files := by
  refine saved_forward fun e he => ?_
  obtain ⟨x, hx, rfl⟩ := List.mem_map.mp he
  exact h x hx

theorem apply_spec (ch : Change) (m : Machine) :
    match exec (apply py cfg env ch) m with
    | (.ok _, m') => Applies py cfg env ch ∧ m' = { m with files := ch.written m.files }
    | (.error _, m') => ¬ Applies py cfg env ch ∧ m'.restoreFailed = m.restoreFailed ∧
        AgreeOutside ch.originals m'.files m.files := by
  have hkeys : ∀ e ∈ ch.pending.entries, ch.originals.get? e.1 ≠ none := by
    intro e he hn
    have hsome : ch.pending.get? e.1 = some e.2 := (Dict.mem_entries_iff _ _ _).mp he
    rw [(pending_eq_none_iff ch e.1).mpr hn] at hsome
    exact Option.some_ne_none _ hsome.symm
  have hw := writePending_spec py env hkeys 0 (AgreeOutside.refl ch.originals m.files)
  rw [apply, exec_bind]
  generalize exec (writePending py env 0 ch.pending.entries) m = r at hw ⊢
  rcases r with ⟨x | u, m'⟩
  · exact ⟨fun h => hw.1 h.1, hw.2⟩
  · obtain ⟨hworks, rfl⟩ := hw
    rw [writeAll_entries]
    simp only [exec_ofResult]
    cases hr : restart cfg env.restarting ch.targets with
    | ok names => exact ⟨⟨hworks, names, hr⟩, rfl⟩
    | error x =>
      refine ⟨fun ⟨_, names, hn⟩ => ?_, rfl, fun path hp => ?_⟩
      · rw [hr] at hn
        cases hn
      · change overlay ch.pending m.files path = _
        rw [overlay, (pending_eq_none_iff ch path).mpr hp, Option.none_or]

/-- **Committing.** The edited files are in place, or the files are as before. -/
theorem commit_spec {ch : Change} (h : ∀ e ∈ ch.edits, files e.path = some e.original) :
    match exec (commit py cfg env ch) ⟨files, false⟩ with
    | (.ok _, m') => Applies py cfg env ch ∧ m' = ⟨ch.written files, false⟩
    | (.error _, m') => ¬ Applies py cfg env ch ∧
        (m'.restoreFailed = false → m'.files = files) := by
  have ha := apply_spec py cfg env ch ⟨files, false⟩
  rw [commit, exec_tryCatch]
  generalize exec (apply py cfg env ch) ⟨files, false⟩ = r at ha ⊢
  rcases r with ⟨x | names, m'⟩
  · obtain ⟨hnot, -, hagree⟩ := ha
    have hrestore := restore_spec env ch.originals.entries 0 m'
    simp only [exec_bind]
    generalize exec (restore env 0 ch.originals.entries) m' = r at hrestore ⊢
    rcases r with ⟨y | u, m''⟩
    · refine ⟨hnot, fun hr => ?_⟩
      have he := hrestore hr
      simp at he
    · refine ⟨hnot, fun hr => ?_⟩
      have he := (Prod.mk.inj (hrestore hr)).2
      rw [show m''.files = _ from congrArg Machine.files he, writeAll_entries]
      exact overlay_of_saved (saved_originals h) hagree
  · exact ha

end Writing

section Requests

variable {F O : Type} (py : Python F O) (cfg : DashboardConfig) (env : Environment)
variable (files : Files) (payload : Document F O)

/-- A request that fails changes no file, unless a file cannot be written back. One that succeeds
has written the edited files. -/
def AllOrNothing : Prop :=
  match exec (update py cfg env payload) ⟨files, false⟩ with
  | (.ok _, m) => ∃ change, planned py cfg env files payload = .ok change ∧
      m.files = change.elim files fun ch => ch.written files
  | (.error _, m) => m.restoreFailed = false → m.files = files

/-- A change is saved, written and in effect, and then the settings cannot be read back. -/
def ReplyLost : Prop :=
  ∃ ch, planned py cfg env files payload = .ok (some ch) ∧ backup env ch.originals = .ok () ∧
    Applies py cfg env ch ∧ ch.written files ≠ files ∧
    ∃ e, replySettings py cfg env (ch.written files) = .error e

theorem planned_originals {ch : Change} (h : planned py cfg env files payload = .ok (some ch)) :
    ∀ e ∈ ch.edits, files e.path = some e.original := by
  unfold planned at h
  cases hv : validate py payload with
  | error x =>
    rw [hv] at h
    cases h
  | ok values =>
    rw [hv] at h
    have hp := ensures_plan py ⟨files, env.looking⟩ cfg env.guardRemaining values 0 trivial
    change (exec (plan py ⟨files, env.looking⟩ cfg env.guardRemaining values) 0).1 = _ at h
    generalize exec (plan py ⟨files, env.looking⟩ cfg env.guardRemaining values) 0 = r at h hp
    rcases r with ⟨x | p, n⟩
    · cases h
    · cases h
      exact hp ch rfl

/-- The outcome of a request whose files are in place. -/
def replied (changed : Bool) (restarted : List String) (backup : Option Path) (m : Machine) :
    Except PyError (Reply F) × Machine :=
  ((replySettings py cfg env m.files).map fun settings => ⟨changed, restarted, backup, settings⟩, m)

theorem exec_reply (changed : Bool) (restarted : List String) (backup : Option Path) (m : Machine) :
    exec (reply py cfg env changed restarted backup) m =
      replied py cfg env changed restarted backup m := by
  rw [reply, exec_get_bind, exec_ofResult_bind, replied]
  cases replySettings py cfg env m.files <;> rfl

theorem exec_update (m : Machine) :
    exec (update py cfg env payload) m = match planned py cfg env m.files payload with
      | .ok none => replied py cfg env false [] none m
      | .ok (some ch) => match backup env ch.originals with
        | .ok _ => match exec (commit py cfg env ch) m with
          | (.ok names, m') => replied py cfg env true names (some env.backupPath) m'
          | (.error e, m') => (.error e, m')
        | .error e => (.error e, m)
      | .error e => (.error e, m) := by
  rw [update, exec_get_bind, exec_ofResult_bind]
  rcases planned py cfg env m.files payload with x | _ | ch
  · rfl
  · exact exec_reply py cfg env _ _ _ m
  · simp only [exec_ofResult_bind]
    cases backup env ch.originals with
    | error x => rfl
    | ok u =>
      simp only [exec_bind]
      rcases exec (commit py cfg env ch) m with ⟨x | names, m'⟩
      · rfl
      · exact exec_reply py cfg env _ _ _ m'

/-- **Requests.** A request is all or nothing unless the reply to a change in effect is lost. -/
theorem allOrNothing_iff :
    AllOrNothing py cfg env files payload ↔ ¬ ReplyLost py cfg env files payload := by
  rw [AllOrNothing, exec_update]
  cases hp : planned py cfg env files payload with
  | error x =>
    refine iff_of_true (fun _ => rfl) fun ⟨ch, hch, _⟩ => ?_
    rw [hp] at hch
    cases hch
  | ok change =>
    cases change with
    | none =>
      have hnot : ¬ ReplyLost py cfg env files payload := by
        rintro ⟨ch, hch, -⟩
        rw [hp] at hch
        cases hch
      refine iff_of_true ?_ hnot
      simp only [replied]
      cases replySettings py cfg env files with
      | error x => exact fun _ => rfl
      | ok settings => exact ⟨none, rfl, rfl⟩
    | some ch =>
      have hlost : ReplyLost py cfg env files payload ↔ backup env ch.originals = .ok () ∧
          Applies py cfg env ch ∧ ch.written files ≠ files ∧
          ∃ e, replySettings py cfg env (ch.written files) = .error e := by
        refine ⟨fun ⟨ch', hch, h⟩ => ?_, fun h => ⟨ch, hp, h⟩⟩
        rw [hp] at hch
        cases hch
        exact h
      have hcommit := commit_spec py cfg env (planned_originals py cfg env files payload hp)
      rw [hlost]
      simp only
      cases hb : backup env ch.originals with
      | error x => exact iff_of_true (fun _ => rfl) fun h => nomatch h.1
      | ok u =>
        simp only
        generalize exec (commit py cfg env ch) ⟨files, false⟩ = r at hcommit ⊢
        rcases r with ⟨x | names, m⟩
        · exact iff_of_true hcommit.2 fun h => hcommit.1 h.2.1
        · obtain ⟨happ, rfl⟩ := hcommit
          simp only [replied]
          cases replySettings py cfg env (ch.written files) with
          | error x =>
            constructor
            · rintro h ⟨-, -, hne, -⟩
              exact hne (h rfl)
            · intro h _
              by_contra hne
              exact h ⟨trivial, happ, hne, x, rfl⟩
          | ok settings =>
            refine iff_of_true ⟨some ch, rfl, rfl⟩ ?_
            rintro ⟨-, -, -, e, he⟩
            cases he

/-- The request failed, no original failed to be written back, and the file is another one. -/
def failedWithChange (path : Path) : Bool :=
  match exec (update py cfg env payload) ⟨files, false⟩ with
  | (.ok _, _) => false
  | (.error _, m) => m.restoreFailed = false ∧ m.files path ≠ files path

theorem not_allOrNothing_of_changed (path : Path)
    (h : failedWithChange py cfg env files payload path = true) :
    ¬ AllOrNothing py cfg env files payload := by
  intro hall
  rw [AllOrNothing] at hall
  rw [failedWithChange] at h
  generalize exec (update py cfg env payload) ⟨files, false⟩ = r at h hall
  rcases r with ⟨e | reply, m⟩
  · obtain ⟨hr, hne⟩ := of_decide_eq_true h
    exact hne (congrFun (hall hr) path)
  · exact Bool.noConfusion h

end Requests

section LostReply

/-- The configuration of the bridge, with a static talkgroup that is no number. -/
def staticNameText : Text :=
  ["brandmeister:\n", "  repeaterId: 1\n", "  callsign: DL1ABC\n", "  timeslot: 2\n",
    "  slot2: true\n", "  rxFrequency: 430000000\n", "  txFrequency: 439000000\n", "routing:\n",
    "  staticTalkgroups: [TG91]\n", "  talkgroupMappings:\n", "    - p25: 1\n",
    "      brandmeister: 262\n"].flatMap String.toList

/-- A host configuration with an update interval. -/
def gpsText (interval : String) : Text :=
  ["protocols:\n", "  p25:\n", "    motorolaLocation:\n", "      initialDelaySeconds: 5\n",
    "      updateIntervalSeconds: ", interval, "\n", "      noFixRetrySeconds: 60\n"].flatMap
    String.toList

/-- An entry of a document. -/
def entry (key : String) (v : Value ℤ Empty) : Value ℤ Empty × Value ℤ Empty :=
  (.str (codes key.toList), v)

/-- A bridge configuration with a static callsign. -/
def staticName : Document ℤ Empty :=
  [entry "brandmeister" (.dict [entry "repeaterId" (.int 1),
      entry "callsign" (.str (codes "DL1ABC".toList)), entry "timeslot" (.int 2),
      entry "slot2" (.bool true), entry "rxFrequency" (.int 430000000),
      entry "txFrequency" (.int 439000000)]),
    entry "routing" (.dict [entry "staticTalkgroups" (.list [.str (codes "TG91".toList)]),
      entry "talkgroupMappings"
        (.list [.dict [entry "p25" (.int 1), entry "brandmeister" (.int 262)]])])]

/-- The settings of the location service in a document. -/
def gpsDocument (interval : ℤ) : Value ℤ Empty :=
  .dict [entry "initialDelaySeconds" (.int 5), entry "updateIntervalSeconds" (.int interval),
    entry "noFixRetrySeconds" (.int 60)]

/-- A decimal literal in steps of a ten thousandth. -/
def tenThousandths (s : String) : ℤ :=
  let number (digits : Text) : ℕ := digits.foldl (fun n c => 10 * n + (c.toNat - 48)) 0
  let fraction := (s.toList.dropWhile fun c => c ≠ '.').drop 1
  number (s.toList.takeWhile fun c => c ≠ '.') * 10000 +
    number ((fraction ++ List.replicate 4 '0').take 4)

/-- The library functions on the texts above, with numbers in steps of a ten thousandth. -/
def plainPython : Python ℤ Empty where
  literal := tenThousandths
  eq a b := a = b
  le a b := a ≤ b
  lt a b := a < b
  isFinite _ := true
  round4 := id
  format4 _ := []
  floatOfInt n := .ok (n * 10000)
  intOfFloat x := .ok (x.tdiv 10000)
  intOfStr _ := .error (.valueError "invalid literal for int() with base 10")
  floatOfStr _ := .error (.valueError "could not convert string to float")
  intOfOther := nofun
  floatOfOther := nofun
  truthOfFloat x := x ≠ 0
  truthOfOther := nofun
  itemsOfOther := nofun
  strOf
    | .str s => s
    | _ => []
  upper := id
  safeLoad text :=
    if text = staticNameText then .ok (.dict staticName)
    else if text = gpsText "300" then .ok (.dict [entry "protocols" (.dict [entry "p25"
      (.dict [entry "motorolaLocation" (gpsDocument 300)])])])
    else if text = gpsText "600" then .ok (.dict [entry "protocols" (.dict [entry "p25"
      (.dict [entry "motorolaLocation" (gpsDocument 600)])])])
    else if text = "system: \x7b\x7d\n".toList then .ok (.dict [entry "system" (.dict [])])
    else .error .yamlError
  safeLoadBytes _ := .ok .none
  jsonLoads _ := .error (.valueError "Expecting value")
  jsonDumps _ := []
  iniSections _ := .ok []
  sha256 _ := ""

/-- The paths and services of the dashboard. -/
def plainConfig : DashboardConfig where
  quantarbridgeConfig := "quantarbridge.yml"
  dvmhostConfig := "dvmhost-config.yml"
  dmrGatewayConfig := "DMRGateway.ini"
  dmrToP25Config := "dvmbridge-dmr-to-p25.yml"
  p25ToDmrConfig := "dvmbridge-p25-to-dmr.yml"
  brewAudioConfig := "tetrapack-brew-audio.json"
  restartTarget _ := true

/-- Every access, write and restart works while the radio is quiet. -/
def plainEnvironment : Environment where
  guardRemaining := 0
  looking _ := none
  backupPath := "dashboard-backups/20250101-120000-abcd"
  backup _ := none
  writing _ := .works
  restarting _ := none
  restoring _ := .works
  replying _ := none

/-- The files around the bridge configuration. -/
def staticNameFiles : Files := fun path =>
  if path = "quantarbridge.yml" then some (encodeUtf8 staticNameText)
  else if path = "dvmhost-config.yml" then some (encodeUtf8 (gpsText "300"))
  else if path = "dvmbridge-dmr-to-p25.yml" ∨ path = "dvmbridge-p25-to-dmr.yml" then
    some (encodeUtf8 "system: \x7b\x7d\n".toList)
  else none

/-- The default audio settings as the browser sends them. -/
def audioPayload (p25Output : Bool) : Value ℤ Empty :=
  .dict ((audioDefaults p25Output).map fun (key, value) => entry key (match value with
    | .bool b => .bool b
    | .int n => .int n
    | .float x => .float (tenThousandths x)))

/-- The settings of the files with another update interval. -/
def gpsPayload : Document ℤ Empty :=
  [entry "repeaterId" (.int 1), entry "brandmeisterCallsign" (.str (codes "DL1ABC".toList)),
    entry "brandmeisterTimeslot" (.int 2), entry "brandmeisterRxFrequency" (.int 430000000),
    entry "brandmeisterTxFrequency" (.int 439000000), entry "dynamicTimeoutSeconds" (.int 600),
    entry "talkgroupMappings"
      (.list [.dict [entry "p25" (.int 1), entry "brandmeister" (.int 262)]]),
    entry "gps" (gpsDocument 600),
    entry "audio" (.dict [entry "dmrToP25" (audioPayload true),
      entry "p25ToDmr" (audioPayload false)])]

/-- A static talkgroup that is no number makes the reply fail with the new interval in the file. -/
theorem not_allOrNothing_staticName :
    ¬ AllOrNothing plainPython plainConfig plainEnvironment staticNameFiles gpsPayload :=
  not_allOrNothing_of_changed _ _ _ _ _ "dvmhost-config.yml" (by decide +kernel)

end LostReply

end Dashboard
