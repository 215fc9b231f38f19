import QuantarBridge.Dashboard.Settings
import QuantarBridge.Lib.Overlay

/-!
# Changing the settings

A change compares the requested values with the files, edits the text of every file that differs,
saves the originals, writes the edited files and restarts the services. When writing or restarting
fails, the originals are written back. The reply contains the settings as they are read back from
the files.

* `Changed`, `look`: what a request changes;
* `Edit`, `edits`: the edited files;
* `Environment`, `Machine`: what the system answers, and the files;
* `commit`: writing, restarting and rolling back;
* `update`: a request.
-/

set_option autoImplicit false

namespace Dashboard

open Lib Lib.Program
open Sync (Text keepLines opensSms)

/-- What a request changes, with the current values that the edits use. -/
structure Changed (F O : Type) where
  repeaterId : Bool
  callsign : Bool
  timeslot : Bool
  rxFrequency : Bool
  txFrequency : Bool
  password : Bool
  dynamicTimeout : Bool
  mappings : Bool
  host : Bool
  dmrToP25 : Bool
  p25ToDmr : Bool
  brewUplinkGain : Bool
  currentDmrToP25 : Audio F
  currentP25ToDmr : Audio F
  brewAudio : Document F O

namespace Changed

variable {F O : Type} (c : Changed F O)

/-- The bridge configuration changes. -/
def bridge : Bool :=
  c.repeaterId || c.callsign || c.timeslot || c.rxFrequency || c.txFrequency || c.dynamicTimeout ||
    c.mappings || c.password

/-- The BREW service has to read its routing again. -/
def brewRouting : Bool := c.dynamicTimeout || c.mappings

/-- The request differs from the files. -/
def any : Bool := c.bridge || c.host || c.dmrToP25 || c.p25ToDmr

end Changed

variable {F O : Type} (py : Python F O)

/-- The slot settings of a section `brandmeister` and of the section `sms` differ from the requested
time slot. -/
def timeslotChanged (bridge bm : Document F O) (requested : ℤ) : Except PyError Bool := do
  let current ← timeslotOf py bm
  let slot1 := py.truth (Document.get bm "slot1" (.bool false))
  let slot2 := py.truth (Document.get bm "slot2" (.bool false))
  let smsChanged ← match Document.get bridge "sms" (.dict []) with
    | .dict sms => do
      let slot ← py.toInt (Document.get sms "bmSlot" (.int current))
      pure (Document.has sms "bmSlot" && decide (slot ≠ requested))
    | _ => pure false
  return !Document.has bm "timeslot" || decide (current ≠ requested) ||
    slot1 != decide (requested = 1) || slot2 != decide (requested = 2) || smsChanged

/-- The key has another value in the section, compared as integers. -/
def intChanged (section_ : Document F O) (key : String) (default requested : ℤ) :
    Except PyError Bool := do
  let current ← py.toInt (Document.get section_ key (.int default))
  return current ≠ requested

section Looking

variable (disk : Disk) (cfg : DashboardConfig)

/-- The document of the Brew audio service and its gain, if there is one. -/
def lookBrewAudio (gain : F) : Reading (Document F O × F) := do
  if ← exists_ disk cfg.brewAudioConfig then
    let loaded ← ofResult (py.jsonLoads (← readText disk cfg.brewAudioConfig))
    match loaded with
    | .dict brewAudio =>
      let gain ← ofResult (uplinkGain py brewAudio gain)
      return (brewAudio, gain)
    | _ => throw (.valueError s!"Invalid JSON document: {cfg.brewAudioConfig}")
  else return ([], gain)

/-- Compare a request with the files. -/
def look (values : Requested F) : Reading (Changed F O) := do
  let bridge ← readYaml disk py cfg.quantarbridgeConfig
  let host ← readYaml disk py cfg.dvmhostConfig
  let dmrToP25 ← readAudio disk py cfg.dmrToP25Config true
  let p25ToDmr ← readAudio disk py cfg.p25ToDmrConfig false
  let (brewAudio, gain) ← lookBrewAudio py disk cfg (txAudioGain py p25ToDmr)
  let p25ToDmr := p25ToDmr.setFloat "txAudioGain" gain
  let protocols ← ofResult (Document.get host "protocols" (.dict [])).asDict
  let p25 ← ofResult (Document.get protocols "p25" (.dict [])).asDict
  let bm ← ofResult (Document.get bridge "brandmeister" (.dict [])).asDict
  let repeaterId ← ofResult (intChanged py bm "repeaterId" 0 values.repeaterId)
  let callsign := py.upper (py.strOf (Document.get bm "callsign" (.str []))).strip
  let timeslot ← ofResult (timeslotChanged py bridge bm values.brandmeisterTimeslot)
  let rxFrequency ← ofResult (intChanged py bm "rxFrequency" 0 values.brandmeisterRxFrequency)
  let txFrequency ← ofResult (intChanged py bm "txFrequency" 0 values.brandmeisterTxFrequency)
  let routing ← ofResult (Document.get bridge "routing" (.dict [])).asDict
  let dynamicTimeout ←
    ofResult (intChanged py routing "dynamicTimeoutSeconds" 600 values.dynamicTimeoutSeconds)
  let mappings ← ofResult (mappingsOf py routing)
  let location ← ofResult (Document.get p25 "motorolaLocation" (.dict [])).asDict
  let gps ← ofResult (gpsOf py location)
  let gain := txAudioGain py p25ToDmr
  let brewUplinkGain ← if ← exists_ disk cfg.brewAudioConfig then
      pure (!py.eq gain (txAudioGain py values.p25ToDmr))
    else pure false
  return {
    repeaterId := repeaterId
    callsign := callsign ≠ values.brandmeisterCallsign
    timeslot := timeslot
    rxFrequency := rxFrequency
    txFrequency := txFrequency
    password := values.brandmeisterPassword ≠ []
    dynamicTimeout := dynamicTimeout
    mappings := mappings ≠ values.talkgroupMappings
    host := gps ≠ values.gps
    dmrToP25 := !dmrToP25.same py values.dmrToP25
    p25ToDmr := !p25ToDmr.same py values.p25ToDmr
    brewUplinkGain := brewUplinkGain
    currentDmrToP25 := dmrToP25
    currentP25ToDmr := p25ToDmr
    brewAudio := brewAudio }

/-- The services to restart. -/
def targets (c : Changed F O) : Reading (List String) := do
  let gateway ← if c.password then exists_ disk cfg.dmrGatewayConfig else pure false
  let brewAudio ← if ← exists_ disk cfg.brewAudioConfig then
      pure (c.password || c.brewRouting || c.brewUplinkGain)
    else pure false
  return [(gateway, "dmrgateway"), (c.bridge, "quantarbridge"), (c.password, "sms-bridge"),
    (c.host, "dvmhost"), (c.dmrToP25, "dmr-to-p25"), (c.p25ToDmr, "p25-to-dmr"),
    (brewAudio, "brew-audio")].filterMap fun (needed, name) => if needed then some name else none

end Looking

/-- Edit the text in the given case. -/
def editIf (needed : Bool) (edit : Text → Except PyError Text) (text : Text) :
    Except PyError Text := if needed then edit text else .ok text

/-- The number in decimal digits. -/
def decimalText (n : ℤ) : Text := (toString n).toList

/-- Set the slot wherever it stands. -/
def editTimeslot (timeslot : ℤ) (text : Text) : Except PyError Text := do
  let text ← upsertSectionScalar text "brandmeister" "timeslot" (decimalText timeslot)
  let text ← upsertSectionScalar text "brandmeister" "slot1" (yamlBool (timeslot = 1))
  let text ← upsertSectionScalar text "brandmeister" "slot2" (yamlBool (timeslot = 2))
  editIf ((keepLines text).any opensSms)
    (fun text => upsertSectionScalar text "sms" "bmSlot" (decimalText timeslot)) text

/-- Edit the bridge configuration. -/
def editBridge (c : Changed F O) (values : Requested F) (text : Text) : Except PyError Text := do
  let text ← editIf c.repeaterId (fun text =>
    replaceSectionScalar text "brandmeister" "repeaterId" (decimalText values.repeaterId)) text
  let text ← editIf c.callsign (fun text => upsertSectionScalar text "brandmeister" "callsign"
    (jsonString values.brandmeisterCallsign)) text
  let text ← editIf c.timeslot (editTimeslot values.brandmeisterTimeslot) text
  let text ← editIf c.rxFrequency (fun text => upsertSectionScalar text "brandmeister" "rxFrequency"
    (decimalText values.brandmeisterRxFrequency)) text
  let text ← editIf c.txFrequency (fun text => upsertSectionScalar text "brandmeister" "txFrequency"
    (decimalText values.brandmeisterTxFrequency)) text
  let text ← editIf c.password (fun text => replaceSectionScalar text "brandmeister" "password"
    (jsonString values.brandmeisterPassword)) text
  let text ← editIf c.dynamicTimeout (fun text => upsertSectionScalar text "routing"
    "dynamicTimeoutSeconds" (decimalText values.dynamicTimeoutSeconds)) text
  editIf c.mappings (fun text => replaceMappingBlock text values.talkgroupMappings) text

/-- Edit the host configuration. -/
def editHost (gps : Gps) (text : Text) : Except PyError Text := do
  let text ← replaceIndentedScalar text "initialDelaySeconds" gps.initialDelaySeconds
  let text ← replaceIndentedScalar text "updateIntervalSeconds" gps.updateIntervalSeconds
  replaceIndentedScalar text "noFixRetrySeconds" gps.noFixRetrySeconds

/-- Write every value that differs. -/
def editAudio (current requested : Audio F) (text : Text) : Except PyError Text :=
  requested.foldlM (fun text (key, value) =>
    if (current.lookup key).any (value.same py) then .ok text
    else do upsertSectionScalar text "system" key (← yamlScalar py value)) text

/-- An edited file. -/
structure Edit where
  path : Path
  original : Bytes
  updated : Bytes

section Editing

variable (disk : Disk) (cfg : DashboardConfig) (c : Changed F O) (values : Requested F)

/-- Read a file and edit its content. -/
def editFile (path : Path) (edit : Bytes → Except PyError Bytes) : Reading (List Edit) := do
  let original ← readBytes disk path
  let updated ← ofResult (edit original)
  return [⟨path, original, updated⟩]

/-- Edit the content as text. -/
def asText (edit : Text → Except PyError Text) (original : Bytes) : Except PyError Bytes := do
  let text ← decodeUtf8 original
  return encodeUtf8 (← edit text)

/-- The document of the Brew audio service with another gain. -/
def brewAudioText : Text :=
  py.jsonDumps (Document.set "uplinkGain" (.float (txAudioGain py values.p25ToDmr)) c.brewAudio) ++
    ['\n']

/-- The gateway's file is read twice, as bytes and as text. -/
def editGateway : Reading (List Edit) := do
  if c.password then
    if ← exists_ disk cfg.dmrGatewayConfig then
      let original ← readBytes disk cfg.dmrGatewayConfig
      let text ← readText disk cfg.dmrGatewayConfig
      let updated ←
        ofResult (writeIniPassword py cfg.dmrGatewayConfig text values.brandmeisterPassword)
      return [⟨cfg.dmrGatewayConfig, original, updated⟩]
  return []

/-- Edit a file in the given case. -/
def editFileIf (needed : Bool) (path : Path) (edit : Bytes → Except PyError Bytes) :
    Reading (List Edit) := if needed then editFile disk path edit else pure []

/-- The edited files, in the order in which they are written. -/
def edits : Reading (List Edit) := do
  let bridge ← editFileIf disk c.bridge cfg.quantarbridgeConfig (asText (editBridge c values))
  let host ← editFileIf disk c.host cfg.dvmhostConfig (asText (editHost values.gps))
  let dmrToP25 ← editFileIf disk c.dmrToP25 cfg.dmrToP25Config
    (asText (editAudio py c.currentDmrToP25 values.dmrToP25))
  let p25ToDmr ← editFileIf disk c.p25ToDmr cfg.p25ToDmrConfig
    (asText (editAudio py c.currentP25ToDmr values.p25ToDmr))
  let brewAudio ← editFileIf disk c.brewUplinkGain cfg.brewAudioConfig
    (fun _ => .ok (encodeUtf8 (brewAudioText py c values)))
  let gateway ← editGateway py disk cfg c values
  return bridge ++ host ++ dmrToP25 ++ p25ToDmr ++ brewAudio ++ gateway

end Editing

/-- The change that a request makes. Its files are stored by path, so that a later file replaces an
earlier one of the same path. -/
structure Change where
  targets : List String
  edits : List Edit

/-- The files before the change. -/
def Change.originals (ch : Change) : Dict Path Bytes :=
  Bimap.forward (ch.edits.map fun e => (e.path, e.original))

/-- The files after the change. -/
def Change.pending (ch : Change) : Dict Path Bytes :=
  Bimap.forward (ch.edits.map fun e => (e.path, e.updated))

/-- The change, or none if the files have the requested values. While the radio is busy nothing is
changed. -/
def plan (disk : Disk) (cfg : DashboardConfig) (guardRemaining : ℤ) (values : Requested F) :
    Reading (Option Change) := do
  let c : Changed F O ← look py disk cfg values
  if ¬ c.any then return none
  let names ← targets disk cfg c
  if names ≠ [] ∧ 0 < guardRemaining then
    throw (.settingsBusyError ("Funkverkehr ist noch aktiv oder gerade erst beendet. " ++
      s!"Bitte nach {guardRemaining} Sekunden Funkruhe erneut speichern; " ++
      "es wurde nichts geändert."))
  return some ⟨names, ← edits py disk cfg c values⟩

/-- How an atomic write ends. It may fail after the file was replaced. -/
inductive WriteAnswer
  | works
  | fails (e : PyError)
  | failsAfter (e : PyError)
  deriving DecidableEq

/-- What the system answers, in each part of a change. -/
structure Environment where
  guardRemaining : ℤ
  looking : ℕ → Option PyError
  backupPath : Path
  backup : ℕ → Option PyError
  writing : ℕ → WriteAnswer
  restarting : ℕ → Option PyError
  restoring : ℕ → WriteAnswer
  replying : ℕ → Option PyError

/-- The files, and whether a file could not be written back. -/
structure Machine where
  files : Files
  restoreFailed : Bool

/-- Write a file. -/
def Machine.write (m : Machine) (path : Path) (payload : Bytes) : Machine :=
  { m with files := Function.update m.files path (some payload) }

/-- Replace a file. -/
def atomicWrite (answer : WriteAnswer) (path : Path) (payload : Bytes) :
    Program Machine PyError Unit :=
  match answer with
  | .works => modify fun m => m.write path payload
  | .fails e => throw e
  | .failsAfter e => do
    modify fun m => m.write path payload
    throw e

/-- The first failure among the next steps. -/
def attempt (fault : ℕ → Option PyError) (steps : ℕ) : Except PyError Unit :=
  match (List.range steps).findSome? fault with
  | some e => .error e
  | none => .ok ()

/-- Make the directory and write the originals into it. -/
def backup (env : Environment) (originals : Dict Path Bytes) : Except PyError Unit :=
  attempt env.backup (originals.entries.length + 1)

/-- The suffix of the path is `.yml` or `.yaml`. -/
def isYaml (path : Path) : Bool :=
  let name := path.toList.reverse.takeWhile fun c => c ≠ '/'
  [".yml", ".yaml"].any fun suffix =>
    suffix.toList.reverse.isPrefixOf name ∧ suffix.length < name.length

section Committing

variable (cfg : DashboardConfig) (env : Environment)

/-- Restart services, in the order of their names, up to the first that fails. -/
def restart (fault : ℕ → Option PyError) (names : List String) : Except PyError (List String) :=
  match names.zipIdx.findSome? fun (name, n) => if cfg.restartTarget name then fault n
    else some (.runtimeError s!"Restart target is not configured: {name}") with
  | some e => .error e
  | none => .ok names

/-- Parse the text of a YAML file. -/
def checkYaml (path : Path) (content : Bytes) : Except PyError Unit :=
  if isYaml path then (py.safeLoadBytes content).map fun _ => () else .ok ()

/-- Write the edited files from the given one on. -/
def writePending (n : ℕ) : List (Path × Bytes) → Program Machine PyError Unit
  | [] => pure ()
  | (path, content) :: rest => do
    ofResult (checkYaml py path content)
    atomicWrite (env.writing n) path content
    writePending (n + 1) rest

/-- Write the originals back from the given one on. -/
def restore (n : ℕ) : List (Path × Bytes) → Program Machine PyError Unit
  | [] => pure ()
  | (path, content) :: rest => do
    if env.restoring n ≠ .works then modify fun m => { m with restoreFailed := true }
    atomicWrite (env.restoring n) path content
    restore (n + 1) rest

/-- Write the edited files and restart the services. -/
def apply (ch : Change) : Program Machine PyError (List String) := do
  writePending py env 0 ch.pending.entries
  ofResult (restart cfg env.restarting ch.targets)

/-- Apply the change or write the originals back. The services are then restarted again, and a
failure of that is only logged. -/
def commit (ch : Change) : Program Machine PyError (List String) :=
  tryCatch (apply py cfg env ch) fun e => do
    restore env 0 ch.originals.entries
    throw e

/-- The reply to a request. -/
structure Reply (F : Type) where
  changed : Bool
  restarted : List String
  backup : Option Path
  settings : Settings F

/-- The settings for the reply. -/
def replySettings (files : Files) : Except PyError (Settings F) :=
  (exec (read ⟨files, env.replying⟩ py cfg) 0).1

/-- The change that a request asks for. -/
def planned (files : Files) (payload : Document F O) : Except PyError (Option Change) := do
  let values ← validate py payload
  (exec (plan py ⟨files, env.looking⟩ cfg env.guardRemaining values) 0).1

/-- Reply with the settings that the files have now. -/
def reply (changed : Bool) (restarted : List String) (backup : Option Path) :
    Program Machine PyError (Reply F) := do
  let settings ← ofResult (replySettings py cfg env (← get).files)
  return ⟨changed, restarted, backup, settings⟩

/-- A request to change settings. -/
def update (payload : Document F O) : Program Machine PyError (Reply F) := do
  let change ← ofResult (planned py cfg env (← get).files payload)
  match change with
  | none => reply py cfg env false [] none
  | some ch =>
    ofResult (backup env ch.originals)
    let restarted ← commit py cfg env ch
    reply py cfg env true restarted (some env.backupPath)

end Committing

end Dashboard
