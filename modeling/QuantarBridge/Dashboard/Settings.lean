import QuantarBridge.Dashboard.ConfigEditor
import QuantarBridge.Lib.Dict
import QuantarBridge.Lib.Program

/-!
# Reading the settings

The settings are spread over six configuration files, and every access to a file may fail. A program
that looks at the files has no means to change them.

* `Disk`, `Reading`: the files and the accesses to them;
* `readYaml`, `readAudio`: a document, and the settings of one direction of the audio bridge;
* `read`: all settings.
-/

set_option autoImplicit false

namespace Dashboard

open Lib Lib.Program
open Sync (Text)

/-- The path of a file. -/
abbrev Path := String

/-- The content of the files that exist. -/
abbrev Files := Path → Option Bytes

/-- The files while nothing writes them, and which access to them fails. -/
structure Disk where
  files : Files
  fault : ℕ → Option PyError

/-- A program that looks at the files. The state is the number of accesses so far. -/
abbrev Reading (α : Type) := Program ℕ PyError α

/-- The paths of the files and the services of the dashboard. -/
structure DashboardConfig where
  quantarbridgeConfig : Path
  dvmhostConfig : Path
  dmrGatewayConfig : Path
  dmrToP25Config : Path
  p25ToDmrConfig : Path
  brewAudioConfig : Path
  /-- The target is configured, with a type that exists. -/
  restartTarget : String → Bool

section Reading

variable (disk : Disk)

/-- An access to the disk, which may fail. -/
def access : Reading Unit := do
  let n ← get
  set (n + 1)
  match disk.fault n with
  | some e => throw e
  | none => pure ()

/-- Whether there is a file. -/
def exists_ (path : Path) : Reading Bool := do
  access disk
  return (disk.files path).isSome

/-- The bytes of a file. -/
def readBytes (path : Path) : Reading Bytes := do
  access disk
  match disk.files path with
  | some bytes => return bytes
  | none => throw .osError

/-- The text of a file, with newlines as the only ends of lines. -/
def readText (path : Path) : Reading Text := do
  let bytes ← readBytes disk path
  let text ← ofResult (decodeUtf8 bytes)
  return universalNewlines text

variable {F O : Type} (py : Python F O)

/-- The document of a file. -/
def readYaml (path : Path) : Reading (Document F O) := do
  let text ← readText disk path
  let payload ← ofResult (py.safeLoad text)
  match payload with
  | .dict document => return document
  | _ => throw (.valueError s!"Invalid YAML document: {path}")

/-- The audio fields of one direction with their defaults. -/
def audioDefaults (p25Output : Bool) : Audio String :=
  if p25Output then
    [("rxAudioGain", .float "0.3"), ("vocoderDecoderAudioGain", .float "0.4"),
      ("vocoderDecoderAutoGain", .bool false), ("txAudioGain", .float "1.1"),
      ("vocoderEncoderAudioGain", .float "0.0"), ("vocoderDecoderUvQuality", .int 12),
      ("p25EncodePresenceGain", .float "0.0"), ("p25EncodeHighCutHz", .float "2500.0"),
      ("p25EncodeAgc", .bool false), ("p25EncodeAgcTargetRms", .float "6500.0"),
      ("p25EncodeAgcMinGain", .float "0.55"), ("p25EncodeAgcMaxGain", .float "1.9"),
      ("p25EncodeAgcAttack", .float "0.4"), ("p25EncodeAgcRelease", .float "0.06"),
      ("p25EncodeAgcPeakLimit", .float "24000.0")]
  else
    [("rxAudioGain", .float "1.0"), ("vocoderDecoderAudioGain", .float "1.0"),
      ("vocoderDecoderAutoGain", .bool false), ("txAudioGain", .float "2.0"),
      ("vocoderEncoderAudioGain", .float "0.0"), ("dmrEncodeHighCutHz", .float "2500.0")]

/-- A field of an audio configuration, or its default. -/
def readAudioField (system : Document F O) (path : Path) (key : String) :
    AudioValue String → Except PyError (AudioValue F)
  | .bool b => match Document.get system key (.bool b) with
    | .bool raw => .ok (.bool raw)
    | _ => .error (.valueError s!"Invalid boolean audio value {key}: {path}")
  | .int n => .int <$> orValueError s!"Invalid integer audio value {key}: {path}"
      (py.toInt (Document.get system key (.int n)))
  | .float x => do
    let value ← orValueError s!"Invalid audio value {key}: {path}"
      (py.toFloat (Document.get system key (.float (py.literal x))))
    require (py.isFinite value) s!"Invalid audio value {key}: {path}"
    return .float value

/-- The audio configuration of one direction. -/
def readAudio (path : Path) (p25Output : Bool) : Reading (Audio F) := do
  let document ← readYaml disk py path
  match Document.get document "system" (.dict []) with
  | .dict system => ofResult ((audioDefaults p25Output).mapM fun (key, default) => do
      return (key, ← readAudioField py system path key default))
  | _ => throw (.valueError s!"Invalid system section: {path}")

/-- The talkgroup mappings of the section `routing`. Entries of other types are skipped. -/
def mappingsOf (routing : Document F O) : Except PyError (List TalkgroupMapping) := do
  let entries ← py.items (Document.get routing "talkgroupMappings" (.list []))
  let mappings ← entries.mapM fun entry => match entry with
    | .dict entry => do
      let p25 ← py.toInt (Document.get entry "p25" (.int 0))
      let brandmeister ← py.toInt (Document.get entry "brandmeister" (.int 0))
      return some ⟨p25, brandmeister⟩
    | _ => return none
  return mappings.reduceOption

/-- The settings of the location service. -/
def gpsOf (location : Document F O) : Except PyError Gps := do
  return {
    initialDelaySeconds := ← py.toInt (Document.get location "initialDelaySeconds" (.int 5))
    updateIntervalSeconds := ← py.toInt (Document.get location "updateIntervalSeconds" (.int 300))
    noFixRetrySeconds := ← py.toInt (Document.get location "noFixRetrySeconds" (.int 60)) }

/-- The slot, from its key or from the flag of the first slot. -/
def timeslotOf (bm : Document F O) : Except PyError ℤ :=
  let slot1 := py.truth (Document.get bm "slot1" (.bool false))
  py.toInt (Document.get bm "timeslot" (.int (if slot1 then 1 else 2)))

/-- The audio settings with another value for a number. -/
def Audio.setFloat (audio : Audio F) (key : String) (x : F) : Audio F :=
  audio.map fun e => if e.1 = key then (key, .float x) else e

/-- The gain in the document of the Brew audio service, or else the one that is given. -/
def uplinkGain (brewAudio : Document F O) (gain : F) : Except PyError F :=
  py.toFloat (Document.get brewAudio "uplinkGain" (.float gain))

/-- The gain towards BrandMeister. -/
def txAudioGain (audio : Audio F) : F := (audio.float? "txAudioGain").getD (py.literal "2.0")

/-- The settings as the browser shows them. -/
structure Settings (F : Type) where
  version : String
  repeaterId : ℤ
  brandmeisterCallsign : Str
  brandmeisterTimeslot : ℤ
  brandmeisterRxFrequency : ℤ
  brandmeisterTxFrequency : ℤ
  brandmeisterAddress : Str
  brandmeisterPasswordConfigured : Bool
  dynamicTimeoutSeconds : ℤ
  talkgroupMappings : List TalkgroupMapping
  staticTalkgroups : List ℤ
  gps : Gps
  dmrToP25 : Audio F
  p25ToDmr : Audio F

variable (cfg : DashboardConfig)

/-- The audio settings of the direction to BrandMeister with the gain of the Brew audio service. -/
def readBrewAudio (p25ToDmr : Audio F) : Reading (Audio F) := do
  if ← exists_ disk cfg.brewAudioConfig then
    let loaded ← ofResult (py.jsonLoads (← readText disk cfg.brewAudioConfig))
    match loaded with
    | .dict brewAudio =>
      let gain ← ofResult (uplinkGain py brewAudio (txAudioGain py p25ToDmr))
      return p25ToDmr.setFloat "txAudioGain" gain
    | _ => return p25ToDmr
  else return p25ToDmr

/-- The hash over the files. -/
def readVersion : Reading String := do
  let bridge ← readBytes disk cfg.quantarbridgeConfig
  let host ← readBytes disk cfg.dvmhostConfig
  let dmrToP25 ← readBytes disk cfg.dmrToP25Config
  let p25ToDmr ← readBytes disk cfg.p25ToDmrConfig
  let brewAudio ← if ← exists_ disk cfg.brewAudioConfig then readBytes disk cfg.brewAudioConfig
    else pure []
  return ((py.sha256 (bridge ++ host ++ dmrToP25 ++ p25ToDmr ++ brewAudio)).take 16).toString

/-- Read all settings. -/
def read : Reading (Settings F) := do
  let bridge ← readYaml disk py cfg.quantarbridgeConfig
  let host ← readYaml disk py cfg.dvmhostConfig
  let dmrToP25 ← readAudio disk py cfg.dmrToP25Config true
  let p25ToDmr ← readAudio disk py cfg.p25ToDmrConfig false
  let p25ToDmr ← readBrewAudio disk py cfg p25ToDmr
  let bm := Document.get bridge "brandmeister" (.dict [])
  let protocols ← ofResult (Document.get host "protocols" (.dict [])).asDict
  let p25 ← ofResult (Document.get protocols "p25" (.dict [])).asDict
  let routing ← ofResult (Document.get bridge "routing" (.dict [])).asDict
  let mappings ← ofResult (mappingsOf py routing)
  -- the two addresses of the status page are read here, and only a mapping has them
  let _ ← ofResult (Document.get p25 "motorolaPacketData" (.dict [])).asDict
  let dynamicTimeout ← ofResult (py.toInt (Document.get routing "dynamicTimeoutSeconds" (.int 600)))
  let version ← readVersion disk py cfg
  let bm ← ofResult bm.asDict
  let repeaterId ← ofResult (py.toInt (Document.get bm "repeaterId" (.int 0)))
  let timeslot ← ofResult (timeslotOf py bm)
  let rxFrequency ← ofResult (py.toInt (Document.get bm "rxFrequency" (.int 0)))
  let txFrequency ← ofResult (py.toInt (Document.get bm "txFrequency" (.int 0)))
  let listed := Document.get routing "staticTalkgroups"
  let listed ← ofResult (if py.truth listed then py.items listed else .ok [])
  let staticTalkgroups ← ofResult (listed.mapM py.toInt)
  let location ← ofResult (Document.get p25 "motorolaLocation" (.dict [])).asDict
  let gps ← ofResult (gpsOf py location)
  return {
    version := version
    repeaterId := repeaterId
    brandmeisterCallsign := py.strOf (Document.get bm "callsign" (.str []))
    brandmeisterTimeslot := timeslot
    brandmeisterRxFrequency := rxFrequency
    brandmeisterTxFrequency := txFrequency
    brandmeisterAddress := py.strOf (Document.get bm "address" (.str []))
    brandmeisterPasswordConfigured := py.truth (Document.get bm "password")
    dynamicTimeoutSeconds := dynamicTimeout
    talkgroupMappings := mappings
    staticTalkgroups := staticTalkgroups
    gps := gps
    dmrToP25 := dmrToP25
    p25ToDmr := p25ToDmr }

end Reading

end Dashboard
