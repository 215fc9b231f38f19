import QuantarBridge.Dashboard.Values

/-!
# Validation of requested settings

The browser sends all settings in one JSON object. Each field is converted, compared with its
bounds and named in the error text when it does not pass.

* `validateInt`, `validateFloat`, `validateBool`: one field;
* `audioFields`, `validateAudioDirection`: the fields of one direction of the audio bridge;
* `validateMappings`: the talkgroup mappings, unique on both sides;
* `validate`: the whole object.
-/

set_option autoImplicit false

namespace Dashboard

open Sync (isSpace)

/-- A value of the audio settings. -/
inductive AudioValue (F : Type)
  | bool (b : Bool)
  | int (n : ℤ)
  | float (x : F)

/-- The settings of one direction of the audio bridge. -/
abbrev Audio (F : Type) := List (String × AudioValue F)

/-- A P25 talkgroup and its BrandMeister talkgroup. -/
structure TalkgroupMapping where
  p25 : ℤ
  brandmeister : ℤ
  deriving DecidableEq

/-- The settings of the location service. -/
structure Gps where
  initialDelaySeconds : ℤ
  updateIntervalSeconds : ℤ
  noFixRetrySeconds : ℤ
  deriving DecidableEq

/-- The settings that were requested. -/
structure Requested (F : Type) where
  repeaterId : ℤ
  brandmeisterCallsign : Str
  brandmeisterTimeslot : ℤ
  brandmeisterRxFrequency : ℤ
  brandmeisterTxFrequency : ℤ
  brandmeisterPassword : Str
  dynamicTimeoutSeconds : ℤ
  talkgroupMappings : List TalkgroupMapping
  gps : Gps
  dmrToP25 : Audio F
  p25ToDmr : Audio F

/-- The value of an audio field. -/
def Audio.lookup {F : Type} (audio : Audio F) (key : String) : Option (AudioValue F) :=
  (List.find? (fun e => e.1 = key) audio).map Prod.snd

/-- A number of the audio settings. -/
def Audio.float? {F : Type} (audio : Audio F) (key : String) : Option F :=
  match audio.lookup key with
  | some (.float x) => some x
  | _ => none

variable {F O : Type} (py : Python F O)

/-- `==` for two values of one field. -/
def AudioValue.same : AudioValue F → AudioValue F → Bool
  | .bool a, .bool b => a = b
  | .int a, .int b => a = b
  | .float a, .float b => py.eq a b
  | _, _ => false

/-- Both have the same values. -/
def Audio.same (a b : Audio F) : Bool :=
  a.length = b.length ∧ a.all fun e => (b.lookup e.1).any (e.2.same py)

/-- A number between two bounds. -/
def validateInt (value : Value F O) (field : String) (minimum maximum : ℤ) : Except PyError ℤ :=
  match value with
  | .bool _ => .error (.valueError s!"{field} ist ungültig.")
  | value => do
    let parsed ← orValueError s!"{field} ist ungültig." (py.toInt value)
    require (minimum ≤ parsed ∧ parsed ≤ maximum)
      s!"{field} muss zwischen {minimum} und {maximum} liegen."
    return parsed

/-- The bounds are literals. -/
def validateFloat (value : Value F O) (field minimum maximum : String) : Except PyError F :=
  match value with
  | .bool _ => .error (.valueError s!"{field} ist ungültig.")
  | value => do
    let parsed ← orValueError s!"{field} ist ungültig." (py.toFloat value)
    require (py.isFinite parsed ∧ py.le (py.literal minimum) parsed ∧
      py.le parsed (py.literal maximum)) s!"{field} muss zwischen {minimum} und {maximum} liegen."
    return py.round4 parsed

/-- A truth value. -/
def validateBool (value : Value F O) (field : String) : Except PyError Bool :=
  match value with
  | .bool b => .ok b
  | _ => .error (.valueError s!"{field} ist ungültig.")

/-- The kind of an audio field with its bounds. -/
inductive AudioKind
  | bool
  | int (minimum maximum : ℤ)
  | float (minimum maximum : String)

/-- The fields of one direction: key, name and kind. -/
def audioFields (p25Output : Bool) : List (String × String × AudioKind) :=
  [("rxAudioGain", "Eingangspegel", .float "0" "5"),
    ("vocoderDecoderAudioGain", "Decoder-Pegel", .float "0" "5"),
    ("vocoderDecoderAutoGain", "Decoder-Automatik", .bool),
    ("txAudioGain", "Ausgangspegel", .float "0" (if p25Output then "10" else "5")),
    ("vocoderEncoderAudioGain", "Encoder-Pegel", .float "0" "5")] ++
  if p25Output then
    [("vocoderDecoderUvQuality", "AMBE-Decoderqualität", .int 1 64),
      ("p25EncodePresenceGain", "Sprachpräsenz", .float "0" "0.8"),
      ("p25EncodeHighCutHz", "Hochtonfilter", .float "0" "3500"),
      ("p25EncodeAgc", "P25-Pegelautomatik", .bool),
      ("p25EncodeAgcTargetRms", "AGC-Zielpegel", .float "1000" "12000"),
      ("p25EncodeAgcMinGain", "minimale AGC-Verstärkung", .float "0.1" "1"),
      ("p25EncodeAgcMaxGain", "maximale AGC-Verstärkung", .float "0.1" "4"),
      ("p25EncodeAgcAttack", "AGC-Anregelung", .float "0.01" "1"),
      ("p25EncodeAgcRelease", "AGC-Rückregelung", .float "0.01" "1"),
      ("p25EncodeAgcPeakLimit", "Spitzenbegrenzung", .float "8000" "32000")]
  else [("dmrEncodeHighCutHz", "DMR-Hochtonfilter", .float "0" "3500")]

/-- A value of an audio field. -/
def validateAudioField (value : Value F O) (field : String) :
    AudioKind → Except PyError (AudioValue F)
  | .bool => .bool <$> validateBool value field
  | .int minimum maximum => .int <$> validateInt py value field minimum maximum
  | .float minimum maximum => .float <$> validateFloat py value field minimum maximum

/-- Two checks across the fields of the direction to P25. -/
def checkP25Audio (values : Audio F) (label : String) : Except PyError Unit := do
  let maxGain := (values.float? "p25EncodeAgcMaxGain").getD (py.literal "0")
  let minGain := (values.float? "p25EncodeAgcMinGain").getD (py.literal "0")
  let highCut := (values.float? "p25EncodeHighCutHz").getD (py.literal "0")
  require (¬ py.lt maxGain minGain)
    s!"{label}: Die maximale AGC-Verstärkung darf nicht kleiner als die minimale sein."
  require (¬ (py.lt (py.literal "0") highCut ∧ py.lt highCut (py.literal "1800")))
    (s!"{label}: Der Hochtonfilter muss ausgeschaltet (0 Hz) oder auf mindestens 1800 Hz " ++
      "eingestellt sein.")

/-- The audio fields of one direction. -/
def validateAudioDirection (payload : Value F O) (label : String) (p25Output : Bool) :
    Except PyError (Audio F) :=
  match payload with
  | .dict payload => do
    let values ← (audioFields p25Output).mapM fun (key, name, kind) => do
      return (key, ← validateAudioField py (Document.get payload key) s!"{label}: {name}" kind)
    if p25Output then checkP25Audio py values label
    return values
  | _ => .error (.valueError s!"Audio {label} ist ungültig.")

/-- A letter or digit, and two to seven letters, digits, slashes or hyphens. -/
def isCallsign (callsign : Str) : Bool :=
  let alphanumeric (c : ℕ) : Bool := (65 ≤ c ∧ c ≤ 90) ∨ (48 ≤ c ∧ c ≤ 57)
  match callsign with
  | [] => false
  | c :: rest => alphanumeric c ∧ 2 ≤ rest.length ∧ rest.length ≤ 7 ∧
      rest.all fun c => alphanumeric c ∨ c = 47 ∨ c = 45

/-- The mappings from the given index on, after the talkgroups that were seen. -/
def validateMappings (index : ℕ) (seen : List TalkgroupMapping) :
    List (Value F O) → Except PyError (List TalkgroupMapping)
  | [] => .ok []
  | .dict raw :: rest => do
    let p25 ← validateInt py (Document.get raw "p25") s!"P25-TG {index}" 1 16777215
    let bm ← validateInt py (Document.get raw "brandmeister") s!"BrandMeister-TG {index}" 1 16777215
    require (¬ seen.any fun m => m.p25 = p25 ∨ m.brandmeister = bm)
      "Talkgroup-Zuordnungen müssen eindeutig sein."
    let mapping : TalkgroupMapping := ⟨p25, bm⟩
    return mapping :: (← validateMappings (index + 1) (mapping :: seen) rest)
  | _ :: _ => .error (.valueError s!"Talkgroup-Zuordnung {index} ist ungültig.")

/-- A callsign. -/
def validateCallsign (value : Value F O) : Except PyError Str :=
  match value with
  | .str s => do
    let callsign := py.upper s.strip
    require (isCallsign callsign) "Das BrandMeister-Rufzeichen ist ungültig."
    return callsign
  | _ => .error (.valueError "Das BrandMeister-Rufzeichen ist ungültig.")

/-- A password, or none to keep the current one. -/
def validatePassword (value : Value F O) : Except PyError Str :=
  match value with
  | .none => .ok []
  | .str s => do
    require (s.length ≤ 128 ∧ ¬ s.any fun c => c = 13 ∨ c = 10 ∨ c = 0)
      "Das BrandMeister-Passwort ist ungültig."
    return s
  | _ => .error (.valueError "Das BrandMeister-Passwort ist ungültig.")

/-- The settings of the location service. -/
def validateGps (value : Value F O) : Except PyError Gps :=
  match value with
  | .dict gps => do
    return {
      initialDelaySeconds :=
        ← validateInt py (Document.get gps "initialDelaySeconds") "GPS-Startverzögerung" 1 300
      updateIntervalSeconds :=
        ← validateInt py (Document.get gps "updateIntervalSeconds") "GPS-Aktualisierung" 30 86400
      noFixRetrySeconds :=
        ← validateInt py (Document.get gps "noFixRetrySeconds") "GPS-Wiederholung" 15 3600 }
  | _ => .error (.valueError "GPS-Abfrage ist ungültig.")

/-- The audio settings of both directions. -/
def validateAudio (value : Value F O) : Except PyError (Audio F × Audio F) :=
  match value with
  | .dict audio => do
    let dmrToP25 ← validateAudioDirection py (Document.get audio "dmrToP25") "BREW nach P25" true
    let p25ToDmr ← validateAudioDirection py (Document.get audio "p25ToDmr") "P25 nach BREW" false
    return (dmrToP25, p25ToDmr)
  | _ => .error (.valueError "Audioeinstellungen sind ungültig.")

/-- Check a request. -/
def validate (payload : Document F O) : Except PyError (Requested F) := do
  require (["brandmeisterCallsign", "brandmeisterTimeslot", "brandmeisterRxFrequency",
      "brandmeisterTxFrequency"].all (Document.has payload))
    "Die Browseroberfläche ist veraltet. Bitte die Seite vollständig neu laden."
  let repeaterId ← validateInt py (Document.get payload "repeaterId") "Repeater-ID" 1 4294967295
  let callsign ← validateCallsign py (Document.get payload "brandmeisterCallsign" (.str []))
  let timeslot ← validateInt py (Document.get payload "brandmeisterTimeslot")
    "BrandMeister-Zeitschlitz" 1 2
  let rxFrequency ← validateInt py (Document.get payload "brandmeisterRxFrequency")
    "Repeater-RX-Frequenz" 10000000 999999999
  let txFrequency ← validateInt py (Document.get payload "brandmeisterTxFrequency")
    "Repeater-TX-Frequenz" 10000000 999999999
  let password ← validatePassword (Document.get payload "brandmeisterPassword" (.str []))
  let dynamicTimeoutSeconds ← validateInt py (Document.get payload "dynamicTimeoutSeconds")
    "Ablaufzeit dynamischer Talkgroups" 10 86400
  let mappings ← match Document.get payload "talkgroupMappings" with
    | .list raw => do
      require (1 ≤ raw.length ∧ raw.length ≤ 64)
        "Es muss mindestens eine Talkgroup-Zuordnung geben."
      validateMappings py 1 [] raw
    | _ => .error (.valueError "Es muss mindestens eine Talkgroup-Zuordnung geben.")
  let gps ← validateGps py (Document.get payload "gps")
  let (dmrToP25, p25ToDmr) ← validateAudio py (Document.get payload "audio")
  return {
    repeaterId := repeaterId
    brandmeisterCallsign := callsign
    brandmeisterTimeslot := timeslot
    brandmeisterRxFrequency := rxFrequency
    brandmeisterTxFrequency := txFrequency
    brandmeisterPassword := password
    dynamicTimeoutSeconds := dynamicTimeoutSeconds
    talkgroupMappings := mappings
    gps := gps
    dmrToP25 := dmrToP25
    p25ToDmr := p25ToDmr }

end Dashboard
