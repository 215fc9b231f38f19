import QuantarBridge.Lib.Program
import QuantarBridge.Lib.Run
import QuantarBridge.Sync.ConfigText

/-!
# Synchronising the static talkgroups

A run fetches the static talkgroups, writes the configuration and the talkgroup rules, and restarts
the services when it changed one of the files. Whether there is something to restart is not
remembered: a run that fails after a write leaves its services behind, and the next run finds both
files as they should be.

* `SyncRun`: what a run finds outside;
* `syncMain`, `syncStep`: a run, and several of them;
* `upToDate`: a service was restarted after the last change;
* `serves_iff`: **exactly when the runs that succeed leave their services up to date**;
* `along_upToDate_of_uninterrupted`: runs that finish what they begin do so.
-/

set_option autoImplicit false

namespace Sync

open Lib Program

/-- The name of a service. -/
abbrev Service := Text

/-- The files that a run writes. -/
inductive ManagedFile
  | config
  | rules
  deriving DecidableEq

/-- What a run does to the system. -/
inductive SyncEvent
  | changed (file : ManagedFile)
  | restarted (service : Service)
  deriving DecidableEq

/-- The managed files, empty when they are missing, and what the runs did. -/
structure SyncState where
  config : Text
  rules : Text
  history : List SyncEvent
  deriving DecidableEq

/-- The content of a file. -/
def SyncState.text (s : SyncState) : ManagedFile → Text
  | .config => s.config
  | .rules => s.rules

/-- A changed file. -/
def SyncState.write (s : SyncState) (file : ManagedFile) (text : Text) : SyncState :=
  { config := if file = .config then text else s.config
    rules := if file = .rules then text else s.rules
    history := s.history ++ [.changed file] }

/-- What a run finds: whether the last one was too recent; the talkgroups, unless the run fails before
it has them; which writes and restarts succeed; the peers of the local network, unless they cannot be
discovered; and who owns the voice according to the written configuration. -/
structure SyncRun where
  throttled : Bool
  staticTalkgroups : Option (List ℕ)
  writable : ManagedFile → Bool
  localPeerIds : Option (List ℕ)
  brewAudioOwnsVoice : Option Bool
  restart : List Service
  restarts : Service → Bool

/-- How a run that exits with status 0 ends. -/
inductive Report
  | throttled
  | synced
  deriving DecidableEq

/-- A program of the synchronisation. It fails with an exception. -/
abbrev SyncProgram := Program SyncState PUnit

/-- The value, or an exception. -/
def orFail {α : Type} : Option α → SyncProgram α
  | some a => pure a
  | none => throw ⟨⟩

section Run

variable (run : SyncRun)

/-- Write a file, unless it has this content already. -/
def writeTextIfChanged (file : ManagedFile) (newText : Text) : SyncProgram Bool := do
  let s ← get
  if s.text file = newText then pure false
  else if run.writable file then do
    set (s.write file newText)
    pure true
  else throw ⟨⟩

/-- Update the configuration of the bridge. -/
def updateQuantarbridgeConfig (staticTalkgroups : List ℕ) : SyncProgram Bool := do
  let s ← get
  let updatedText ← orFail (updateText s.config staticTalkgroups)
  writeTextIfChanged run .config updatedText

/-- Update the rules of the FNE. -/
def updateTalkgroupRules : SyncProgram Bool := do
  let inclusionPeers ← orFail run.localPeerIds
  writeTextIfChanged run .rules (buildTalkgroupRules inclusionPeers)

/-- The service of the FNE. -/
def dvmfne : Service := "dvmfne.service".toList

/-- The network and its bridges are restarted together. -/
def paired : List Service :=
  [dvmfne, "dvmbridge-p25-to-dmr.service".toList, "dvmbridge-dmr-to-p25.service".toList]

/-- A service whose restart is skipped. -/
def isStateful (service : Service) : Bool :=
  service = "dvmhost.service".toList ∨ service = "tetrapack-brew-bridge.service".toList

local instance lawfulService : LawfulBEq Service := List.instLawfulBEq

/-- The services without repetitions, in the order in which they were named first. -/
def fromKeys (services : List Service) : List Service :=
  services.foldl (fun seen service => if service ∈ seen then seen else seen ++ [service]) []

/-- The services in the order of their restarts. -/
def requested (services : List Service) : List Service :=
  let named := fromKeys services
  if dvmfne ∈ named then paired ++ named.filter fun service => service ∉ paired else named

/-- Restart services up to the first that fails. -/
def restartAll : List Service → SyncProgram PUnit
  | [] => pure ⟨⟩
  | service :: rest =>
    if isStateful service then restartAll rest
    else if run.restarts service then do
      modify fun s => { s with history := s.history ++ [.restarted service] }
      restartAll rest
    else throw ⟨⟩

/-- Restart the services that are named. -/
def restartServices : SyncProgram PUnit := restartAll run (requested run.restart)

/-- A run. -/
def syncMain : SyncProgram Report :=
  if run.throttled then pure .throttled
  else do
    let staticTalkgroups ← orFail run.staticTalkgroups
    let configChanged ← updateQuantarbridgeConfig run staticTalkgroups
    let rulesChanged ← updateTalkgroupRules run
    if (configChanged || rulesChanged) ∧ run.restart ≠ [] then do
      let brew ← orFail run.brewAudioOwnsVoice
      if brew then pure .synced
      else do
        restartServices run
        pure .synced
    else pure .synced

end Run

/-- Several runs, one after the other. -/
def syncStep (s : SyncState) (run : SyncRun) : SyncState × List Unit :=
  ((exec (syncMain run) s).2, [])

/-- The run exits with status 0 without being throttled. -/
def Succeeds (s : SyncState) (run : SyncRun) : Prop := (exec (syncMain run) s).1 = .ok .synced

instance (s : SyncState) (run : SyncRun) : Decidable (Succeeds s run) :=
  inferInstanceAs (Decidable ((exec (syncMain run) s).1 = .ok .synced))

/-- Nothing was changed since the service was restarted. -/
def upToDate (service : Service) (history : List SyncEvent) : Bool :=
  history.foldl (fun current event => match event with
    | .changed _ => false
    | .restarted service' => current || service' = service) true

/-- The run finds a file that is not as it should be. -/
def Changes (s : SyncState) (run : SyncRun) : Prop :=
  (∃ tgs, run.staticTalkgroups = some tgs ∧ updateText s.config tgs ≠ some s.config) ∨
    ∃ peers, run.localPeerIds = some peers ∧ buildTalkgroupRules peers ≠ s.rules

/-- The services that the run names and restarts are up to date. -/
def Current (s : SyncState) (run : SyncRun) : Prop :=
  ∀ service ∈ run.restart, isStateful service = false → upToDate service s.history = true

/-- A run that succeeds, with the voice owned by the bridge, leaves its services up to date. -/
def Serves (s : SyncState) (run : SyncRun) : Prop :=
  Succeeds s run → run.brewAudioOwnsVoice ≠ some true → Current (syncStep s run).1 run

/-- A run that succeeds finds its services up to date, or something to change. -/
def Resumes (s : SyncState) (run : SyncRun) : Prop :=
  Succeeds s run → run.brewAudioOwnsVoice ≠ some true → Current s run ∨ Changes s run

/-! ## What a run does -/

section Lemmas

variable (run : SyncRun)

@[simp] theorem upToDate_nil (service : Service) : upToDate service [] = true := rfl

theorem upToDate_restarted (service service' : Service) (history : List SyncEvent) :
    upToDate service (history ++ [.restarted service']) =
      (upToDate service history || service' = service) := by
  unfold upToDate
  rw [List.foldl_append]
  rfl

theorem upToDate_restarts (service : Service) (services : List Service) :
    ∀ history, upToDate service (history ++ services.map SyncEvent.restarted) = true ↔
      upToDate service history = true ∨ service ∈ services := by
  induction services with
  | nil => simp
  | cons service' services ih =>
    intro history
    have hsplit : history ++ (service' :: services).map SyncEvent.restarted =
        (history ++ [.restarted service']) ++ services.map SyncEvent.restarted := by simp
    rw [hsplit, ih, upToDate_restarted, List.mem_cons]
    simp only [Bool.or_eq_true, decide_eq_true_eq]
    rw [or_assoc, @eq_comm _ service']

theorem exec_restartAll (services : List Service) : ∀ {s s' : SyncState},
    exec (restartAll run services) s = (.ok ⟨⟩, s') → s'.history = s.history ++
      (services.filter fun service => !isStateful service).map SyncEvent.restarted := by
  induction services with
  | nil =>
    intro s s' h
    obtain ⟨-, rfl⟩ := Prod.mk.inj h
    simp
  | cons service services ih =>
    intro s s' h
    unfold restartAll at h
    split_ifs at h with hskip hok
    · rw [ih h, List.filter_cons_of_neg (by simp [hskip])]
    · have hrest := ih (s := { s with history := s.history ++ [.restarted service] }) h
      rw [hrest, List.filter_cons_of_pos (by simp [hskip]), List.map_cons, List.append_assoc]
      rfl
    · cases h

theorem mem_fromKeys (services : List Service) (service : Service) :
    service ∈ fromKeys services ↔ service ∈ services := by
  have hgo : ∀ (l seen : List Service), service ∈ l.foldl (fun seen service =>
      if service ∈ seen then seen else seen ++ [service]) seen ↔ service ∈ seen ∨ service ∈ l := by
    intro l
    induction l with
    | nil => simp
    | cons a l ih =>
      intro seen
      rw [List.foldl_cons, ih, List.mem_cons]
      split_ifs with h
      · constructor
        · rintro (hs | hl)
          · exact Or.inl hs
          · exact Or.inr (Or.inr hl)
        · rintro (hs | rfl | hl)
          · exact Or.inl hs
          · exact Or.inl h
          · exact Or.inr hl
      · rw [List.mem_append, List.mem_singleton, or_assoc]
  rw [fromKeys, hgo]
  simp

theorem mem_requested {services : List Service} {service : Service} (h : service ∈ services) :
    service ∈ requested services := by
  have hmem := (mem_fromKeys services service).mpr h
  unfold requested
  dsimp only
  split_ifs
  · by_cases hp : service ∈ paired
    · exact List.mem_append_left _ hp
    · exact List.mem_append_right _ (List.mem_filter.mpr ⟨hmem, decide_eq_true hp⟩)
  · exact hmem

/-- **What a write does.** -/
theorem exec_write {file : ManagedFile} {newText : Text} {s s' : SyncState} {changed : Bool}
    (h : exec (writeTextIfChanged run file newText) s = (.ok changed, s')) :
    changed = decide (s.text file ≠ newText) ∧
      s' = if s.text file = newText then s else s.write file newText := by
  change exec (if s.text file = newText then pure false else if run.writable file then do
      set (s.write file newText)
      pure true
    else throw PUnit.unit) s = _ at h
  split_ifs at h ⊢ with hsame
  · have hend : (Except.ok false, s) = (Except.ok changed, s') := h
    rw [Prod.mk.injEq, Except.ok.injEq] at hend
    exact ⟨by rw [← hend.1]; simp [hsame], hend.2.symm⟩
  · have hend : (Except.ok true, s.write file newText) = (Except.ok changed, s') := h
    rw [Prod.mk.injEq, Except.ok.injEq] at hend
    exact ⟨by rw [← hend.1]; simp [hsame], hend.2.symm⟩
  · cases h

theorem exec_bind_ok {α β : Type} {m : SyncProgram α} {f : α → SyncProgram β} {s s' : SyncState}
    {b : β} (h : exec (m >>= f) s = (.ok b, s')) :
    ∃ a t, exec m s = (.ok a, t) ∧ exec (f a) t = (.ok b, s') := by
  rw [exec_bind] at h
  generalize exec m s = r at h ⊢
  rcases r with ⟨e | a, t⟩
  · cases h
  · exact ⟨a, t, rfl, h⟩

theorem exec_orFail_ok {α β : Type} {o : Option α} {f : α → SyncProgram β} {s s' : SyncState} {b : β}
    (h : exec (orFail o >>= f) s = (.ok b, s')) : ∃ a, o = some a ∧ exec (f a) s = (.ok b, s') := by
  cases o with
  | none => cases h
  | some a => exact ⟨a, rfl, h⟩

/-- **What a run that succeeds does.** It writes the files that are not as they should be, and then
restarts its services when there was one. -/
theorem syncMain_ok {s s' : SyncState} (h : exec (syncMain run) s = (.ok .synced, s'))
    (hvoice : run.brewAudioOwnsVoice ≠ some true) :
    ∃ tgs config peers t, run.staticTalkgroups = some tgs ∧ updateText s.config tgs = some config ∧
      run.localPeerIds = some peers ∧
      (if s.config = config ∧ s.rules = buildTalkgroupRules peers then t = s
        else ∃ history file, t.history = history ++ [.changed file]) ∧
      (if (s.config = config ∧ s.rules = buildTalkgroupRules peers) ∨ run.restart = [] then s' = t
        else exec (restartServices run) t = (.ok ⟨⟩, s')) := by
  unfold syncMain at h
  split_ifs at h with hthrottled
  · cases h
  · obtain ⟨tgs, htgs, h₁⟩ := exec_orFail_ok h
    obtain ⟨configChanged, t₁, hconfig, h₂⟩ := exec_bind_ok h₁
    obtain ⟨rulesChanged, t₂, hrules, h₃⟩ := exec_bind_ok h₂
    obtain ⟨config, hupdate, hwrite₁⟩ := exec_orFail_ok (o := updateText s.config tgs)
      (f := writeTextIfChanged run .config) hconfig
    obtain ⟨peers, hpeers, hwrite₂⟩ := exec_orFail_ok hrules
    obtain ⟨hc, ht₁⟩ := exec_write run hwrite₁
    obtain ⟨hr, ht₂⟩ := exec_write run hwrite₂
    have hrules₁ : t₁.rules = s.rules := by
      rw [ht₁]
      split_ifs <;> rfl
    refine ⟨tgs, config, peers, t₂, htgs, hupdate, hpeers, ?_, ?_⟩
    · change t₂ = if t₁.rules = buildTalkgroupRules peers then t₁ else _ at ht₂
      change t₁ = if s.config = config then s else _ at ht₁
      rw [hrules₁] at ht₂
      by_cases h₁ : s.config = config
      · rw [if_pos h₁] at ht₁
        by_cases h₂ : s.rules = buildTalkgroupRules peers
        · rw [if_pos ⟨h₁, h₂⟩, ht₂, if_pos h₂, ht₁]
        · rw [if_neg fun hn => h₂ hn.2, ht₂, if_neg h₂]
          exact ⟨_, _, rfl⟩
      · rw [if_neg fun hn => h₁ hn.1]
        rw [if_neg h₁] at ht₁
        by_cases h₂ : s.rules = buildTalkgroupRules peers
        · rw [ht₂, if_pos h₂, ht₁]
          exact ⟨_, _, rfl⟩
        · rw [ht₂, if_neg h₂]
          exact ⟨_, _, rfl⟩
    · have hany : ((configChanged || rulesChanged) = true) ↔
          ¬ (s.config = config ∧ s.rules = buildTalkgroupRules peers) := by
        rw [hc, hr]
        change (decide (s.config ≠ config) || decide (t₁.rules ≠ buildTalkgroupRules peers)) = true ↔ _
        rw [hrules₁, Bool.or_eq_true, decide_eq_true_iff, decide_eq_true_iff, not_and_or]
      by_cases hskip : (s.config = config ∧ s.rules = buildTalkgroupRules peers) ∨ run.restart = []
      · rw [if_pos hskip]
        rw [if_neg fun hn => hskip.elim (hany.mp hn.1) hn.2] at h₃
        exact (Prod.mk.inj h₃).2.symm
      · rw [if_neg hskip]
        obtain ⟨hchanged, hrestart⟩ := not_or.mp hskip
        rw [if_pos ⟨hany.mpr hchanged, hrestart⟩] at h₃
        obtain ⟨brew, hbrew, h₄⟩ := exec_orFail_ok h₃
        cases brew with
        | true => exact absurd hbrew hvoice
        | false =>
          obtain ⟨⟨⟩, t₃, hrestart, h₅⟩ := exec_bind_ok (m := restartServices run)
            (f := fun _ => pure Report.synced) h₄
          rw [hrestart]
          exact congrArg _ (Prod.mk.inj h₅).2

/-- **What a run that succeeds leaves behind.** -/
theorem serves_iff_resumes (s : SyncState) : Serves s run ↔ Resumes s run := by
  refine forall_congr' fun hok => forall_congr' fun hvoice => ?_
  obtain ⟨tgs, config, peers, t, htgs, hupdate, hpeers, hwrites, hrestarts⟩ :=
    syncMain_ok run (Prod.ext hok rfl : exec (syncMain run) s = (.ok .synced, (syncStep s run).1))
      hvoice
  have hchanges : Changes s run ↔ ¬ (s.config = config ∧ s.rules = buildTalkgroupRules peers) := by
    unfold Changes
    simp only [htgs, hpeers, Option.some.injEq, exists_eq_left', hupdate, ne_eq, not_and_or]
    rw [eq_comm, @eq_comm _ s.rules]
  by_cases hsame : s.config = config ∧ s.rules = buildTalkgroupRules peers
  · rw [if_pos hsame] at hwrites
    rw [if_pos (Or.inl hsame), hwrites] at hrestarts
    unfold Current
    rw [hrestarts, hchanges]
    exact (or_iff_left (not_not.mpr hsame)).symm
  · refine iff_of_true ?_ (Or.inr (hchanges.mpr hsame))
    by_cases hnone : run.restart = []
    · intro service hservice
      rw [hnone] at hservice
      cases hservice
    · rw [if_neg (not_or.mpr ⟨hsame, hnone⟩)] at hrestarts
      intro service hservice hstateful
      rw [exec_restartAll run _ hrestarts, upToDate_restarts]
      refine Or.inr (List.mem_filter.mpr ⟨mem_requested hservice, ?_⟩)
      rw [hstateful]
      rfl

end Lemmas

/-- **Exactly when the runs leave their services up to date.** Every run that succeeds while one of its
services waits for a restart changes a file itself. -/
theorem serves_iff (s : SyncState) (runs : List SyncRun) :
    Run.Along syncStep Serves s runs ↔ Run.Along syncStep Resumes s runs :=
  forall_congr' fun pre => forall_congr' fun run => forall_congr' fun _ => forall_congr' fun _ =>
    serves_iff_resumes run (Run.final syncStep s pre)

/-- A run that finishes what it begins: when it fails, it has changed nothing. -/
def Uninterrupted (s : SyncState) (run : SyncRun) : Prop :=
  Succeeds s run ∨ (syncStep s run).1.history = s.history

/-- **Runs that finish what they begin** leave their services up to date, when all restart the same
ones. -/
theorem along_upToDate_of_uninterrupted (services : List Service) (runs : List SyncRun) :
    ∀ s : SyncState, (∀ run ∈ runs, run.restart = services ∧ run.brewAudioOwnsVoice ≠ some true) →
      (∀ service ∈ services, isStateful service = false → upToDate service s.history = true) →
      Run.Along syncStep Uninterrupted s runs → Run.Along syncStep Serves s runs := by
  induction runs with
  | nil => exact fun _ _ _ _ => Run.along_nil
  | cons run runs ih =>
    intro s hruns hs halong
    obtain ⟨hrun, hrest⟩ := (Run.along_cons_iff run runs).mp halong
    obtain ⟨hrestart, hvoice⟩ := hruns run List.mem_cons_self
    have hserves : Serves s run := (serves_iff_resumes run s).mpr fun _ _ => Or.inl fun service h =>
      hs service (hrestart ▸ h)
    refine (Run.along_cons_iff run runs).mpr ⟨hserves, ih _ (fun run' h => ?_) ?_ hrest⟩
    · exact hruns run' (List.mem_cons_of_mem run h)
    · rcases hrun with hok | hsame
      · exact fun service h => hserves hok hvoice service (hrestart ▸ h)
      · rw [hsame]
        exact hs

/-- A run that fetches the talkgroup 91 and can write all files. -/
def sampleRun (restarts : Bool) : SyncRun where
  throttled := false
  staticTalkgroups := some [91]
  writable := fun _ => true
  localPeerIds := some [1]
  brewAudioOwnsVoice := some false
  restart := ["quantarbridge.service".toList]
  restarts := fun _ => restarts

/-- A configuration without talkgroups. -/
def sampleSync : SyncState where
  config := "routing:\n  staticTalkgroups: []\n  talkgroupMappings: []\nsms:\n".toList
  rules := []
  history := []

/-- The first run changes both files and cannot restart the service. The second run has nothing to
change and exits with status 0. -/
theorem not_serves_failedRestart : ¬ ∀ (s : SyncState) (runs : List SyncRun), s.history = [] →
    (∀ run ∈ runs, run.brewAudioOwnsVoice ≠ some true) → Run.Along syncStep Serves s runs := by
  intro h
  have hlast := h sampleSync [sampleRun false, sampleRun true] rfl (by decide +kernel)
    [sampleRun false] (sampleRun true) [] rfl
  have hstale := hlast (by decide +kernel) (by decide +kernel) _ List.mem_cons_self (by decide +kernel)
  exact absurd hstale (by decide +kernel)

end Sync
