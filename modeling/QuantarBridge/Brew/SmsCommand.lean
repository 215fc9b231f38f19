import QuantarBridge.Brew.SdsPdu
import QuantarBridge.Dashboard.Values

/-!
# Commands to send a text

Other programs leave commands in a directory, each a JSON document with two radios and a text. A loop
sends them on the session of the bridge. A command that is refused is moved away with the reason, but
only for the exceptions that the loop expects: a number that is infinite, a text that is too long for its
length field and a document that is nested too deep raise others, and then the loop is gone with all the
commands that follow.

* `Json`, `CommandError`, `toInt`: documents, exceptions and conversions;
* `parseCommand`, `buildFrames`, `storeResult`, `processSmsCommand`, `smsCommandPass`: the code;
* `Expected`: what the loop expects of a command, `processCommand_isOk_iff`: **exactly these leave the
  loop running**;
* `smsCommandPass_iff`: one pass over the directory.
-/

set_option autoImplicit false

namespace Brew

open Lib
open Dashboard (Str Value Document)

/-! ## Documents -/

/-- What `int` sees of a floating-point number. -/
inductive JsonFloat
  | finite (truncated : ℤ)
  | infinite
  | nan
  deriving DecidableEq

/-- A JSON document. It has no other values. -/
abbrev Json := Value JsonFloat Empty

/-- The exceptions of a command. -/
inductive CommandError
  | keyError | osError | typeError | valueError | overflowError | recursionError | structError
  deriving DecidableEq

/-- The exceptions that the loop expects. A `JSONDecodeError` and a `UnicodeError` are a `ValueError`. -/
def CommandError.caught : CommandError → Bool
  | .keyError | .osError | .typeError | .valueError => true
  | _ => false

/-- What comes of the text of a file. -/
inductive Loaded
  | value (document : Json)
  /-- The bytes are not UTF-8, or the text is not JSON. -/
  | invalid
  /-- The document is nested too deep. -/
  | tooDeep

/-- The functions of Python that depend on the parser, on the Unicode tables and on the format of
numbers. -/
structure JsonLibrary where
  loads : Bytes → Loaded
  /-- `int(s)`, which raises a `ValueError` -/
  intOfStr : Str → Option ℤ
  /-- `str(v)` of a value that is not a string -/
  shown : Json → Str
  /-- `json.dumps(v, indent=2, ensure_ascii=False)`, unless the value is nested too deep -/
  dumps : Json → Option Str

variable (lib : JsonLibrary)

/-- `command[key]` -/
def item (key : String) : Json → Except CommandError Json
  | .dict entries => (Document.lookup entries key).elim (.error .keyError) .ok
  | _ => .error .typeError

/-- `int(v)` -/
def toInt : Json → Except CommandError ℤ
  | .bool b => .ok (if b then 1 else 0)
  | .int n => .ok n
  | .float (.finite truncated) => .ok truncated
  | .float .infinite => .error .overflowError
  | .float .nan => .error .valueError
  | .str s => (lib.intOfStr s).elim (.error .valueError) .ok
  | .none | .list _ | .dict _ => .error .typeError
  | .other o => nomatch o

/-- `int(command[key])` -/
def intItem (key : String) (command : Json) : Except CommandError ℤ := do
  toInt lib (← item key command)

/-- `str(v)` -/
def toStr : Json → Str
  | .str s => s
  | v => lib.shown v

/-- `int.to_bytes(n, length, "little")` -/
def intToBytes (n : ℤ) (length : ℕ) : Except CommandError Bytes :=
  if 0 ≤ n ∧ n < 256 ^ length then
    .ok ((List.range length).map fun i => UInt8.ofNat (n.toNat / 256 ^ i))
  else .error .overflowError

/-! ## One command -/

/-- A command that can be sent. -/
structure SmsCommand where
  document : Document JsonFloat Empty
  source : ℤ
  target : ℤ
  text : Str

/-- The entries of a command. It is an object once its keys were looked up. -/
def entriesOf : Json → Document JsonFloat Empty
  | .dict entries => entries
  | _ => []

/-- The two radios and the text of a file. -/
def parseCommand (content : Option Bytes) : Except CommandError SmsCommand :=
  match content.map lib.loads with
  | none => .error .osError
  | some .invalid => .error .valueError
  | some .tooDeep => .error .recursionError
  | some (.value command) => do
    let source ← intItem lib "sourceRid" command
    let target ← intItem lib "targetRid" command
    let text := (toStr lib (← item "text" command)).strip
    if ¬ (1 ≤ source ∧ source ≤ 0xFFFFFF) ∨ ¬ (1 ≤ target ∧ target ≤ 0xFFFFFF) then .error .valueError
    else if text = [] then .error .valueError
    else .ok ⟨entriesOf command, source, target, text⟩

/-- The frame in front of a text. -/
def buildBrewShortTransfer (sessionId : Bytes) (source target : ℤ) : Except CommandError Bytes := do
  return [0xF1, 11] ++ sessionId ++ (← intToBytes source 4) ++ (← intToBytes target 4) ++
    List.replicate 32 0

/-- The frame of a text, with its length in bits. -/
def buildBrewSdsTransfer (sessionId payload : Bytes) : Except CommandError Bytes := do
  return [0xF2, 1] ++ sessionId ++ (← intToBytes (payload.length * 8) 2) ++ payload

/-- The frame behind a text. -/
def buildBrewCallRelease (sessionId : Bytes) (cause : UInt8) : Bytes := [0xF1, 10] ++ sessionId ++ [cause]

/-- The frames of a text. A surrogate cannot be encoded. -/
def buildFrames (sessionId : Bytes) (messageReference : ℤ) (command : SmsCommand) :
    Except CommandError (List Bytes) :=
  match command.text.toText? with
  | none => .error .valueError
  | some text => do
    let shortTransfer ← buildBrewShortTransfer sessionId command.source command.target
    let transfer ← buildBrewSdsTransfer sessionId (buildTextSdsType4Pdu text messageReference)
    return [shortTransfer, transfer, buildBrewCallRelease sessionId 0]

/-- A file of the directory, and what happens around it. -/
structure CommandFile where
  connected : Bool
  /-- The bytes of the file, unless it cannot be read. -/
  content : Option Bytes
  /-- The radio is remembered as a local one. -/
  ensured : Except CommandError Unit
  sessionId : Bytes
  messageReference : ℤ
  sent : Bool
  /-- The time of the result. -/
  sentAt : Str
  /-- The directory of the results is there, or is made. -/
  resultDirMade : Bool
  /-- The result is written and renamed. -/
  resultWritten : Bool
  unlinked : Bool
  /-- A refused file is moved to the directory of errors. -/
  moved : Bool
  /-- The reason is written. -/
  noted : Bool

/-- What becomes of a command. -/
inductive CommandEffect
  | sent (frames : List Bytes)
  | removed
  | moved
  deriving DecidableEq

/-- The document of the result: the command and how it was sent. -/
def resultDocument (file : CommandFile) (command : SmsCommand) : Json :=
  let status : Json := .str (Dashboard.codes "sent".toList)
  let document := Document.set "status" status command.document
  let document := Document.set "sentAt" (.str file.sentAt) document
  let document := Document.set "sessionId" (.str ((uuidText file.sessionId).map UInt8.toNat)) document
  .dict (Document.set "messageReference" (.int file.messageReference) document)

/-- Store the result of a command that was sent. A surrogate cannot be written. -/
def storeResult (file : CommandFile) (command : SmsCommand) : Except CommandError Unit :=
  if file.resultDirMade = false then .error .osError
  else match lib.dumps (resultDocument file command) with
    | none => .error .recursionError
    | some text =>
      if text.toText? = none then .error .valueError
      else if file.resultWritten = false then .error .osError
      else .ok ()

/-- Send a command. -/
def processSmsCommand (file : CommandFile) : Except CommandError Bool × List CommandEffect :=
  if file.connected = false then (.ok false, [])
  else
    match (do
      let command ← parseCommand lib file.content
      file.ensured
      let frames ← buildFrames file.sessionId file.messageReference command
      return (command, frames)) with
    | .error e => (.error e, [])
    | .ok (command, frames) =>
      if file.sent = false then (.ok false, [])
      else match storeResult lib file command with
        | .error e => (.error e, [.sent frames])
        | .ok () =>
          if file.unlinked then (.ok true, [.sent frames, .removed])
          else (.error .osError, [.sent frames])

/-- One turn of the loop: whether it goes on with the next file, or the exception that ends the loop. -/
def processCommand (file : CommandFile) : Except CommandError Bool × List CommandEffect :=
  match processSmsCommand lib file with
  | (.ok goOn, effects) => (.ok goOn, effects)
  | (.error e, effects) =>
    if e.caught = false then (.error e, effects)
    else if file.moved = false then (.error .osError, effects)
    else if file.noted = false then (.error .osError, effects ++ [.moved])
    else (.ok true, effects ++ [.moved])

/-- One pass over the files of the directory, and the exception that ends the loop. -/
def smsCommandPass : List CommandFile → List (List CommandEffect) × Option CommandError
  | [] => ([], none)
  | file :: files =>
    match processCommand lib file with
    | (.error e, effects) => ([effects], some e)
    | (.ok false, effects) => ([effects], none)
    | (.ok true, effects) =>
      let rest := smsCommandPass files
      (effects :: rest.1, rest.2)

/-! ## What the loop expects -/

/-- A number that is converted is infinite. The target is converted when the source was. -/
def InfiniteRid (content : Option Bytes) : Prop :=
  ∃ command, content.map lib.loads = some (.value command) ∧
    (item "sourceRid" command = .ok (.float .infinite) ∨
      (∃ source, intItem lib "sourceRid" command = .ok source) ∧
        item "targetRid" command = .ok (.float .infinite))

/-- The text has more bits than two bytes can tell. -/
def TooLong (command : SmsCommand) : Prop :=
  ∃ text, command.text.toText? = some text ∧ 4094 ≤ (encodeUtf16 text).length

/-- The result can be written as a document. -/
structure Storable (file : CommandFile) (command : SmsCommand) : Prop where
  resultDirMade : file.resultDirMade = true
  written : ∃ text, lib.dumps (resultDocument file command) = some text ∧ text.toText? ≠ none
  resultWritten : file.resultWritten = true

/-- Nothing is wrong with the command, and its file can be removed when it was sent. -/
def Accepted (file : CommandFile) : Prop :=
  ∃ command text, parseCommand lib file.content = .ok command ∧ file.ensured = .ok () ∧
    command.text.toText? = some text ∧
      (file.sent = true → Storable lib file command ∧ file.unlinked = true)

/-- What the loop expects of a command and of what happens around it. -/
structure Expected (file : CommandFile) : Prop where
  shallow : file.content.map lib.loads ≠ some .tooDeep
  finite : ¬ InfiniteRid lib file.content
  ensured : ∀ command, parseCommand lib file.content = .ok command →
    ∀ e, file.ensured = .error e → e.caught = true
  short : ∀ command, parseCommand lib file.content = .ok command → file.ensured = .ok () →
    ¬ TooLong command
  dumped : ∀ command text, parseCommand lib file.content = .ok command → file.ensured = .ok () →
    command.text.toText? = some text → file.sent = true → file.resultDirMade = true →
      lib.dumps (resultDocument file command) ≠ none
  handled : Accepted lib file ∨ file.moved = true ∧ file.noted = true

variable {lib}

theorem Storable.dumped {file : CommandFile} {command : SmsCommand} (h : Storable lib file command) :
    ¬ (file.resultDirMade = true ∧ lib.dumps (resultDocument file command) = none) := by
  rintro ⟨-, hd⟩
  obtain ⟨text, ht, -⟩ := h.written
  exact Option.some_ne_none _ (ht.symm.trans hd)

theorem item_error {key : String} {v : Json} {e : CommandError} (h : item key v = .error e) :
    e.caught = true := by
  cases v with
  | dict entries =>
    change (Document.lookup entries key).elim _ _ = _ at h
    cases hl : Document.lookup entries key with
    | none =>
      rw [hl] at h
      cases h
      rfl
    | some v =>
      rw [hl] at h
      cases h
  | other o => exact nomatch o
  | _ =>
    cases h
    rfl

theorem toInt_error {v : Json} {e : CommandError} (h : toInt lib v = .error e) :
    (e.caught = true ∧ v ≠ .float .infinite) ∨ (e = .overflowError ∧ v = .float .infinite) := by
  cases v with
  | bool b => cases h
  | int n => cases h
  | float x =>
    cases x with
    | finite n => cases h
    | infinite =>
      cases h
      exact Or.inr ⟨rfl, rfl⟩
    | nan =>
      cases h
      exact Or.inl ⟨rfl, by simp⟩
  | str s =>
    change (lib.intOfStr s).elim _ _ = _ at h
    cases hs : lib.intOfStr s with
    | none =>
      rw [hs] at h
      cases h
      exact Or.inl ⟨rfl, by simp⟩
    | some n =>
      rw [hs] at h
      cases h
  | other o => exact nomatch o
  | none | list _ | dict _ =>
    cases h
    exact Or.inl ⟨rfl, by simp⟩

/-- The number of a key is converted, or the exception is expected, or the number is infinite. -/
theorem intItem_cases (lib : JsonLibrary) (key : String) (command : Json) :
    (∃ n, intItem lib key command = .ok n ∧ item key command ≠ .ok (.float .infinite)) ∨
      (∃ e, intItem lib key command = .error e ∧ e.caught = true ∧
        item key command ≠ .ok (.float .infinite)) ∨
      (intItem lib key command = .error .overflowError ∧
        item key command = .ok (.float .infinite)) := by
  unfold intItem
  cases hi : item key command with
  | error e => exact Or.inr (Or.inl ⟨e, rfl, item_error hi, by simp⟩)
  | ok v =>
    show (∃ n, toInt lib v = .ok n ∧ _) ∨ (∃ e, toInt lib v = .error e ∧ _) ∨
      (toInt lib v = .error .overflowError ∧ _)
    cases hn : toInt lib v with
    | ok n =>
      refine Or.inl ⟨n, rfl, ?_⟩
      rintro h
      obtain rfl := Except.ok.inj h
      cases hn
    | error e =>
      rcases toInt_error hn with ⟨hc, hne⟩ | ⟨rfl, rfl⟩
      · exact Or.inr (Or.inl ⟨e, rfl, hc, fun h => hne (Except.ok.inj h)⟩)
      · exact Or.inr (Or.inr ⟨rfl, rfl⟩)

/-- **Reading a command** raises an exception the loop does not expect exactly for a document that is
nested too deep and for an infinite number. -/
theorem parseCommand_uncaught_iff (content : Option Bytes) :
    (∃ e, parseCommand lib content = .error e ∧ e.caught = false) ↔
      content.map lib.loads = some .tooDeep ∨ InfiniteRid lib content := by
  unfold parseCommand InfiniteRid
  cases content.map lib.loads with
  | none => simp [CommandError.caught]
  | some loaded =>
    cases loaded with
    | invalid => simp [CommandError.caught]
    | tooDeep => simp [CommandError.caught]
    | value command =>
      simp only [Option.some.injEq, Loaded.value.injEq, reduceCtorEq, false_or, exists_eq_left']
      rcases intItem_cases lib "sourceRid" command with ⟨source, hs, hne⟩ | ⟨e, hs, hc, hne⟩ | ⟨hs, hi⟩
      · rcases intItem_cases lib "targetRid" command with ⟨target, ht, hnt⟩ | ⟨e, ht, hc, hnt⟩ | ⟨ht, hi⟩
        · refine iff_of_false ?_ (by simp [hne, hnt])
          rintro ⟨e, he, huncaught⟩
          rw [hs, ht] at he
          cases htext : item "text" command with
          | error e' =>
            rw [htext] at he
            obtain rfl := Except.error.inj he
            exact absurd (item_error htext) (by simp [huncaught])
          | ok v =>
            rw [htext] at he
            change (if _ then _ else if _ then _ else _) = _ at he
            split_ifs at he <;> (obtain rfl := Except.error.inj he; cases huncaught)
        · refine iff_of_false ?_ (by simp [hne, hnt])
          rintro ⟨e', he, huncaught⟩
          rw [hs, ht] at he
          obtain rfl := Except.error.inj he
          exact absurd hc (by simp [huncaught])
        · refine iff_of_true ⟨.overflowError, ?_, rfl⟩ (Or.inr ⟨⟨source, hs⟩, hi⟩)
          rw [hs, ht]
          rfl
      · refine iff_of_false ?_ (by simp [hne, hs])
        rintro ⟨e', he, huncaught⟩
        rw [hs] at he
        obtain rfl := Except.error.inj he
        exact absurd hc (by simp [huncaught])
      · refine iff_of_true ⟨.overflowError, ?_, rfl⟩ (Or.inl hi)
        rw [hs]
        rfl

theorem parseCommand_range {content : Option Bytes} {command : SmsCommand}
    (h : parseCommand lib content = .ok command) :
    (1 ≤ command.source ∧ command.source ≤ 0xFFFFFF) ∧
      1 ≤ command.target ∧ command.target ≤ 0xFFFFFF := by
  unfold parseCommand at h
  cases hc : content.map lib.loads with
  | none => rw [hc] at h; cases h
  | some loaded =>
    rw [hc] at h
    cases loaded with
    | invalid => cases h
    | tooDeep => cases h
    | value document =>
      dsimp only at h
      cases hs : intItem lib "sourceRid" document with
      | error e => rw [hs] at h; cases h
      | ok source =>
        cases ht : intItem lib "targetRid" document with
        | error e => rw [hs, ht] at h; cases h
        | ok target =>
          cases hv : item "text" document with
          | error e => rw [hs, ht, hv] at h; cases h
          | ok v =>
            rw [hs, ht, hv] at h
            change (if _ then _ else if _ then _ else _) = _ at h
            split_ifs at h with hrange hempty
            rw [not_or, not_not, not_not] at hrange
            obtain rfl := Except.ok.inj h
            exact hrange

theorem intToBytes_of_lt {n : ℤ} {length : ℕ} (h0 : 0 ≤ n) (h : n < 256 ^ length) :
    ∃ bytes, intToBytes n length = .ok bytes := ⟨_, if_pos ⟨h0, h⟩⟩

theorem bits_lt_iff (text : Text) (messageReference : ℤ) :
    (((buildTextSdsType4Pdu text messageReference).length * 8 : ℕ) : ℤ) < 256 ^ 2 ↔
      (encodeUtf16 text).length < 4094 := by
  rw [build_eq]
  simp only [List.length_cons, length_utf16BeEncode]
  omega

/-- **The frames of a command**, unless it has a surrogate or is too long. -/
theorem buildFrames_cases (command : SmsCommand)
    (hsource : 0 ≤ command.source ∧ command.source < 256 ^ 4)
    (htarget : 0 ≤ command.target ∧ command.target < 256 ^ 4) (sessionId : Bytes)
    (messageReference : ℤ) :
    let r := buildFrames sessionId messageReference command
    (command.text.toText? = none ∧ r = .error .valueError) ∨
      ∃ text, command.text.toText? = some text ∧
        ((4094 ≤ (encodeUtf16 text).length ∧ r = .error .overflowError) ∨
          ((encodeUtf16 text).length < 4094 ∧ ∃ frames, r = .ok frames)) := by
  intro r
  show (_ ∧ buildFrames sessionId messageReference command = _) ∨ ∃ text, _ ∧
    ((_ ∧ buildFrames sessionId messageReference command = _) ∨
      (_ ∧ ∃ frames, buildFrames sessionId messageReference command = .ok frames))
  unfold buildFrames
  cases ht : command.text.toText? with
  | none => exact Or.inl ⟨rfl, rfl⟩
  | some text =>
    refine Or.inr ⟨text, rfl, ?_⟩
    obtain ⟨sourceBytes, hs⟩ := intToBytes_of_lt hsource.1 hsource.2
    obtain ⟨targetBytes, hd⟩ := intToBytes_of_lt htarget.1 htarget.2
    have hbits := bits_lt_iff text messageReference
    unfold buildBrewShortTransfer buildBrewSdsTransfer
    rw [hs, hd]
    by_cases hlt : (encodeUtf16 text).length < 4094
    · obtain ⟨bits, hb⟩ := intToBytes_of_lt (Int.natCast_nonneg _) (hbits.mpr hlt)
      push_cast at hb
      refine Or.inr ⟨hlt, ?_⟩
      dsimp only
      rw [hb]
      exact ⟨_, rfl⟩
    · have hb : intToBytes ((buildTextSdsType4Pdu text messageReference).length * 8) 2 =
          .error .overflowError := if_neg fun h => hlt (hbits.mp (by push_cast; exact h.2))
      refine Or.inl ⟨Nat.le_of_not_lt hlt, ?_⟩
      dsimp only
      rw [hb]
      rfl

/-- **Storing the result** goes on for a result that can be written, and raises an exception that the
loop does not expect for one that is nested too deep. -/
theorem storeResult_cases (file : CommandFile) (command : SmsCommand) :
    let deep := file.resultDirMade = true ∧ lib.dumps (resultDocument file command) = none
    (storeResult lib file command = .ok () ∧ Storable lib file command ∧ ¬ deep) ∨
      ∃ e, storeResult lib file command = .error e ∧ ¬ Storable lib file command ∧
        (e.caught = true ↔ ¬ deep) := by
  intro deep
  unfold storeResult
  cases hm : file.resultDirMade with
  | false =>
    refine Or.inr ⟨.osError, rfl, fun h => ?_, iff_of_true rfl fun h => ?_⟩
    · exact Bool.false_ne_true (hm.symm.trans h.resultDirMade)
    · exact Bool.false_ne_true (hm.symm.trans h.1)
  | true =>
    rw [if_neg (by simp)]
    cases hd : lib.dumps (resultDocument file command) with
    | none =>
      refine Or.inr ⟨.recursionError, rfl, fun h => ?_, iff_of_false nofun fun h => h ⟨hm, hd⟩⟩
      obtain ⟨text, ht, -⟩ := h.written
      exact Option.some_ne_none _ (ht.symm.trans hd)
    | some text =>
      have hshallow : ¬ deep := fun h => Option.some_ne_none _ (hd.symm.trans h.2)
      dsimp only
      by_cases ht : text.toText? = none
      · rw [if_pos ht]
        refine Or.inr ⟨.valueError, rfl, fun h => ?_, iff_of_true rfl hshallow⟩
        obtain ⟨text', hd', ht'⟩ := h.written
        obtain rfl := Option.some.inj (hd.symm.trans hd')
        exact ht' ht
      · rw [if_neg ht]
        cases hw : file.resultWritten with
        | false =>
          refine Or.inr ⟨.osError, rfl, fun h => ?_, iff_of_true rfl hshallow⟩
          exact Bool.false_ne_true (hw.symm.trans h.resultWritten)
        | true => exact Or.inl ⟨rfl, ⟨hm, ⟨text, hd, ht⟩, hw⟩, hshallow⟩

/-! ## One file -/

/-- What comes of a file. -/
inductive Processed (lib : JsonLibrary) (file : CommandFile) :
    Except CommandError Bool × List CommandEffect → Prop
  | disconnected (hc : file.connected = false) : Processed lib file (.ok false, [])
  | unread (e : CommandError) (hp : parseCommand lib file.content = .error e) :
      Processed lib file (.error e, [])
  | unensured (command : SmsCommand) (hp : parseCommand lib file.content = .ok command)
      (e : CommandError) (he : file.ensured = .error e) : Processed lib file (.error e, [])
  | surrogate (command : SmsCommand) (hp : parseCommand lib file.content = .ok command)
      (he : file.ensured = .ok ()) (ht : command.text.toText? = none) :
      Processed lib file (.error .valueError, [])
  | long (command : SmsCommand) (hp : parseCommand lib file.content = .ok command)
      (he : file.ensured = .ok ()) (hl : TooLong command) :
      Processed lib file (.error .overflowError, [])
  | unsent (command : SmsCommand) (text : Text) (hp : parseCommand lib file.content = .ok command)
      (he : file.ensured = .ok ()) (ht : command.text.toText? = some text)
      (hl : (encodeUtf16 text).length < 4094) (hs : file.sent = false) :
      Processed lib file (.ok false, [])
  | unstored (command : SmsCommand) (text : Text) (hp : parseCommand lib file.content = .ok command)
      (he : file.ensured = .ok ()) (ht : command.text.toText? = some text)
      (hl : (encodeUtf16 text).length < 4094) (hs : file.sent = true) (frames : List Bytes)
      (e : CommandError) (hr : storeResult lib file command = .error e) :
      Processed lib file (.error e, [.sent frames])
  | stuck (command : SmsCommand) (text : Text) (hp : parseCommand lib file.content = .ok command)
      (he : file.ensured = .ok ()) (ht : command.text.toText? = some text)
      (hl : (encodeUtf16 text).length < 4094) (hs : file.sent = true) (frames : List Bytes)
      (hr : Storable lib file command) (hu : file.unlinked = false) :
      Processed lib file (.error .osError, [.sent frames])
  | done (command : SmsCommand) (text : Text) (hp : parseCommand lib file.content = .ok command)
      (he : file.ensured = .ok ()) (ht : command.text.toText? = some text)
      (hl : (encodeUtf16 text).length < 4094) (hs : file.sent = true) (frames : List Bytes)
      (hr : Storable lib file command) (hu : file.unlinked = true) :
      Processed lib file (.ok true, [.sent frames, .removed])

theorem processed (lib : JsonLibrary) (file : CommandFile) :
    Processed lib file (processSmsCommand lib file) := by
  unfold processSmsCommand
  cases hc : file.connected with
  | false => exact .disconnected hc
  | true =>
    rw [if_neg (by simp)]
    cases hp : parseCommand lib file.content with
    | error e => exact .unread e hp
    | ok command =>
      cases he : file.ensured with
      | error e => exact .unensured command hp e he
      | ok =>
        change Processed lib file (match (buildFrames _ _ command >>= fun frames =>
          .ok (command, frames)) with | .error e => _ | .ok (command, frames) => _)
        obtain ⟨hsource, htarget⟩ := parseCommand_range hp
        rcases buildFrames_cases command ⟨by omega, by omega⟩ ⟨by omega, by omega⟩
          file.sessionId file.messageReference with
          ⟨ht, hb⟩ | ⟨text, ht, ⟨hl, hb⟩ | ⟨hl, frames, hb⟩⟩
        · rw [hb]
          exact .surrogate command hp he ht
        · rw [hb]
          exact .long command hp he ⟨text, ht, hl⟩
        · rw [hb]
          change Processed lib file (if file.sent = false then _ else
            match storeResult lib file command with | .error e => _ | .ok () => _)
          cases hs : file.sent with
          | false => exact .unsent command text hp he ht hl hs
          | true =>
            rw [if_neg (by simp)]
            rcases storeResult_cases file command with ⟨hr, hst, -⟩ | ⟨e, hr, -, -⟩
            · rw [hr]
              dsimp only
              cases hu : file.unlinked with
              | false => exact .stuck command text hp he ht hl hs frames hst hu
              | true => exact .done command text hp he ht hl hs frames hst hu
            · rw [hr]
              exact .unstored command text hp he ht hl hs frames e hr

/-- An exception is handled when the loop expects it, and the file can be moved and the reason written. -/
theorem processCommand_of_error {file : CommandFile} {e : CommandError} {effects : List CommandEffect}
    (h : processSmsCommand lib file = (.error e, effects)) :
    (e.caught = true ∧ file.moved = true ∧ file.noted = true ∧
      processCommand lib file = (.ok true, effects ++ [.moved])) ∨
    (¬ (e.caught = true ∧ file.moved = true ∧ file.noted = true) ∧
      ∃ e', (processCommand lib file).1 = .error e') := by
  unfold processCommand
  rw [h]
  dsimp only
  cases e.caught with
  | false => exact Or.inr ⟨by simp, e, rfl⟩
  | true =>
    cases file.moved with
    | false => exact Or.inr ⟨by simp, .osError, rfl⟩
    | true =>
      cases file.noted with
      | false => exact Or.inr ⟨by simp, .osError, rfl⟩
      | true => exact Or.inl ⟨rfl, rfl, rfl, rfl⟩

theorem isOk_of_error_iff {file : CommandFile} {e : CommandError} {effects : List CommandEffect}
    (h : processSmsCommand lib file = (.error e, effects)) :
    (∃ goOn, (processCommand lib file).1 = .ok goOn) ↔
      e.caught = true ∧ file.moved = true ∧ file.noted = true := by
  rcases processCommand_of_error h with ⟨hc, hm, hn, hr⟩ | ⟨hno, e', hr⟩
  · rw [hr]
    exact iff_of_true ⟨true, rfl⟩ ⟨hc, hm, hn⟩
  · rw [hr]
    exact iff_of_false (by simp) hno

theorem parsed_caught {content : Option Bytes} {command : SmsCommand}
    (h : parseCommand lib content = .ok command) :
    content.map lib.loads ≠ some .tooDeep ∧ ¬ InfiniteRid lib content := by
  rw [← not_or, ← parseCommand_uncaught_iff]
  rintro ⟨e, he, -⟩
  rw [h] at he
  cases he

theorem expected_iff_of_text {file : CommandFile} {command : SmsCommand} {text : Text}
    (hp : parseCommand lib file.content = .ok command) (he : file.ensured = .ok ())
    (ht : command.text.toText? = some text) (hl : (encodeUtf16 text).length < 4094) :
    Expected lib file ↔ (file.sent = true →
        ¬ (file.resultDirMade = true ∧ lib.dumps (resultDocument file command) = none)) ∧
      ((file.sent = true → Storable lib file command ∧ file.unlinked = true) ∨
        file.moved = true ∧ file.noted = true) := by
  have haccepted : Accepted lib file ↔
      (file.sent = true → Storable lib file command ∧ file.unlinked = true) := by
    constructor
    · rintro ⟨command', _, hp', -, -, h⟩
      obtain rfl := Except.ok.inj (hp.symm.trans hp')
      exact h
    · exact fun h => ⟨command, text, hp, he, ht, h⟩
  constructor
  · intro h
    exact ⟨fun hs hd => h.dumped command text hp he ht hs hd.1 hd.2, h.handled.imp_left haccepted.mp⟩
  · rintro ⟨hdumped, hhandled⟩
    refine ⟨(parsed_caught hp).1, (parsed_caught hp).2, by simp [he], ?_, ?_,
      hhandled.imp_left haccepted.mpr⟩
    · rintro command' hp' - ⟨text', ht', hlong⟩
      obtain rfl := Except.ok.inj (hp.symm.trans hp')
      obtain rfl := Option.some.inj (ht.symm.trans ht')
      omega
    · intro command' text' hp' _ _ hs hm hd
      obtain rfl := Except.ok.inj (hp.symm.trans hp')
      exact hdumped hs ⟨hm, hd⟩

/-- **A file leaves the loop running** exactly when it is not looked at, or is what the loop expects. -/
theorem processCommand_isOk_iff (lib : JsonLibrary) (file : CommandFile) :
    (∃ goOn, (processCommand lib file).1 = .ok goOn) ↔
      (file.connected = true → Expected lib file) := by
  cases hc : file.connected with
  | false =>
    refine iff_of_true ⟨false, ?_⟩ (by simp)
    unfold processCommand processSmsCommand
    rw [hc]
    rfl
  | true =>
    have hexpected : (true = true → Expected lib file) ↔ Expected lib file :=
      ⟨fun h => h rfl, fun h _ => h⟩
    rw [hexpected]
    have hprocessed := processed lib file
    generalize hr : processSmsCommand lib file = r at hprocessed
    cases hprocessed with
    | disconnected hd => exact absurd (hc.symm.trans hd) (by simp)
    | unread e hp =>
      rw [isOk_of_error_iff hr]
      have hcaught : e.caught = true ↔
          ¬ (file.content.map lib.loads = some .tooDeep ∨ InfiniteRid lib file.content) := by
        rw [← parseCommand_uncaught_iff]
        simp [hp]
      constructor
      · rintro ⟨he, hhandled⟩
        obtain ⟨hshallow, hfinite⟩ := not_or.mp (hcaught.mp he)
        exact ⟨hshallow, hfinite, by simp [hp], by simp [hp], by simp [hp], Or.inr hhandled⟩
      · intro h
        refine ⟨hcaught.mpr (not_or.mpr ⟨h.shallow, h.finite⟩), h.handled.resolve_left ?_⟩
        rintro ⟨command, text, hok, -⟩
        rw [hp] at hok
        cases hok
    | unensured command hp e he =>
      rw [isOk_of_error_iff hr]
      constructor
      · rintro ⟨hcaught, hhandled⟩
        refine ⟨(parsed_caught hp).1, (parsed_caught hp).2, ?_, by simp [he], by simp [he],
          Or.inr hhandled⟩
        rintro _ - e' he'
        obtain rfl := Except.error.inj (he.symm.trans he')
        exact hcaught
      · intro h
        refine ⟨h.ensured command hp e he, h.handled.resolve_left ?_⟩
        rintro ⟨_, _, -, hok, -⟩
        rw [he] at hok
        cases hok
    | surrogate command hp he ht =>
      rw [isOk_of_error_iff hr]
      constructor
      · rintro ⟨-, hhandled⟩
        refine ⟨(parsed_caught hp).1, (parsed_caught hp).2, by simp [he], ?_, ?_, Or.inr hhandled⟩
        · rintro command' hp' - ⟨text, ht', -⟩
          obtain rfl := Except.ok.inj (hp.symm.trans hp')
          exact Option.some_ne_none _ (ht'.symm.trans ht)
        · rintro command' text hp' - ht'
          obtain rfl := Except.ok.inj (hp.symm.trans hp')
          exact absurd (ht'.symm.trans ht) (Option.some_ne_none _)
      · intro h
        refine ⟨rfl, h.handled.resolve_left ?_⟩
        rintro ⟨command', text, hp', -, ht', -⟩
        obtain rfl := Except.ok.inj (hp.symm.trans hp')
        exact Option.some_ne_none _ (ht'.symm.trans ht)
    | long command hp he hl =>
      rw [isOk_of_error_iff hr]
      exact iff_of_false (by simp [CommandError.caught]) fun h => h.short command hp he hl
    | unsent command text hp he ht hl hs =>
      rw [expected_iff_of_text hp he ht hl, hs]
      refine iff_of_true ⟨false, ?_⟩ (by simp)
      unfold processCommand
      rw [hr]
    | unstored command text hp he ht hl hs frames e hst =>
      rw [isOk_of_error_iff hr, expected_iff_of_text hp he ht hl, hs]
      rcases storeResult_cases file command with ⟨hok, -⟩ | ⟨e', he', hno, hcaught⟩
      · cases hok.symm.trans hst
      · obtain rfl := Except.error.inj (he'.symm.trans hst)
        simp [hcaught, hno]
    | stuck command text hp he ht hl hs frames hst hu =>
      rw [isOk_of_error_iff hr, expected_iff_of_text hp he ht hl, hs, hu]
      simp [CommandError.caught, hst.dumped]
    | done command text hp he ht hl hs frames hst hu =>
      rw [expected_iff_of_text hp he ht hl]
      refine iff_of_true ⟨true, ?_⟩ ⟨fun _ => hst.dumped, Or.inl fun _ => ⟨hst, hu⟩⟩
      unfold processCommand
      rw [hr]

/-! ## One pass -/

/-- The loop goes on with the next file, unless the transport is not there for this one. -/
def GoesOn (lib : JsonLibrary) (file : CommandFile) : Prop :=
  file.connected = true ∧ (Accepted lib file → file.sent = true)

/-- Every file that the pass reaches is what the loop expects. -/
def PassExpected (lib : JsonLibrary) : List CommandFile → Prop
  | [] => True
  | file :: files => (file.connected = true → Expected lib file) ∧
      (GoesOn lib file → PassExpected lib files)

/-- The file was sent and removed, or moved away. -/
def Gone (effects : List CommandEffect) : Prop :=
  (∃ frames, effects = [.sent frames, .removed]) ∨ .moved ∈ effects

/-- Every file is sent and removed or moved away, up to one that is kept for lack of a transport. -/
inductive PassEnds : List CommandFile → List (List CommandEffect) → Prop
  | done : PassEnds [] []
  | kept (file : CommandFile) (files : List CommandFile)
      (h : file.connected = false ∨ file.sent = false) : PassEnds (file :: files) [[]]
  | gone (file : CommandFile) (files : List CommandFile) (effects : List CommandEffect)
      (rest : List (List CommandEffect)) (h : Gone effects) (hrest : PassEnds files rest) :
      PassEnds (file :: files) (effects :: rest)

theorem PassEnds.tail {file : CommandFile} {files : List CommandFile} {effects : List CommandEffect}
    {rest : List (List CommandEffect)} (h : PassEnds (file :: files) (effects :: rest))
    (hgone : Gone effects) : PassEnds files rest := by
  cases h with
  | kept _ _ _ => exact absurd hgone (by simp [Gone])
  | gone _ _ _ _ _ hrest => exact hrest

/-- What a file leaves when it leaves the loop running. -/
theorem processCommand_ends {file : CommandFile} {goOn : Bool} {effects : List CommandEffect}
    (h : processCommand lib file = (.ok goOn, effects)) :
    (goOn = false ∧ effects = [] ∧ (file.connected = false ∨ file.sent = false) ∧
      ¬ GoesOn lib file) ∨ (goOn = true ∧ Gone effects ∧ GoesOn lib file) := by
  have hrefused : ∀ (e : CommandError) (before : List CommandEffect),
      processSmsCommand lib file = (.error e, before) → file.connected = true →
        (Accepted lib file → file.sent = true) →
          goOn = true ∧ Gone effects ∧ GoesOn lib file := by
    intro e before hr hc ha
    rcases processCommand_of_error hr with ⟨-, -, -, hp⟩ | ⟨-, e', hp⟩
    · obtain ⟨hgo, rfl⟩ := Prod.mk.inj (h.symm.trans hp)
      exact ⟨Except.ok.inj hgo, Or.inr (List.mem_append_right _ (List.mem_singleton_self _)), hc, ha⟩
    · rw [h] at hp
      cases hp
  cases hc : file.connected with
  | false =>
    have hr : processCommand lib file = (.ok false, []) := by
      unfold processCommand processSmsCommand
      rw [hc]
      rfl
    obtain ⟨hgo, rfl⟩ := Prod.mk.inj (h.symm.trans hr)
    refine Or.inl ⟨Except.ok.inj hgo, rfl, Or.inl rfl, fun hg => ?_⟩
    exact Bool.false_ne_true (hc.symm.trans hg.1)
  | true =>
    have hprocessed := processed lib file
    generalize hr : processSmsCommand lib file = r at hprocessed
    cases hprocessed with
    | disconnected hd => exact absurd (hc.symm.trans hd) (by simp)
    | unread e hp =>
      refine Or.inr (hrefused e _ hr hc ?_)
      rintro ⟨_, _, hok, -⟩
      rw [hp] at hok
      cases hok
    | unensured command hp e he =>
      refine Or.inr (hrefused e _ hr hc ?_)
      rintro ⟨_, _, -, hok, -⟩
      rw [he] at hok
      cases hok
    | surrogate command hp he ht =>
      refine Or.inr (hrefused _ _ hr hc ?_)
      rintro ⟨command', text, hp', -, ht', -⟩
      obtain rfl := Except.ok.inj (hp.symm.trans hp')
      exact absurd (ht'.symm.trans ht) (Option.some_ne_none _)
    | long command hp he hl =>
      rcases processCommand_of_error hr with ⟨hcaught, -⟩ | ⟨-, e', hp'⟩
      · cases hcaught
      · rw [h] at hp'
        cases hp'
    | unsent command text hp he ht hl hs =>
      unfold processCommand at h
      rw [hr] at h
      obtain ⟨hgo, rfl⟩ := Prod.mk.inj h
      refine Or.inl ⟨(Except.ok.inj hgo).symm, rfl, Or.inr hs, fun hg => ?_⟩
      have haccepted : Accepted lib file := ⟨command, text, hp, he, ht, fun h => by
        rw [hs] at h
        cases h⟩
      exact Bool.false_ne_true (hs.symm.trans (hg.2 haccepted))
    | unstored command text hp he ht hl hs frames e hst =>
      exact Or.inr (hrefused e _ hr hc fun _ => hs)
    | stuck command text hp he ht hl hs frames hst hu =>
      exact Or.inr (hrefused _ _ hr hc fun _ => hs)
    | done command text hp he ht hl hs frames hst hu =>
      unfold processCommand at h
      rw [hr] at h
      obtain ⟨hgo, rfl⟩ := Prod.mk.inj h
      exact Or.inr ⟨(Except.ok.inj hgo).symm, Or.inl ⟨frames, rfl⟩, hc, fun _ => hs⟩

/-- **The loop survives a pass**, and every file up to one that is kept is sent and removed or moved away,
exactly when every file that the pass reaches is what the loop expects. -/
theorem smsCommandPass_iff (lib : JsonLibrary) (files : List CommandFile) :
    ((smsCommandPass lib files).2 = none ∧ PassEnds files (smsCommandPass lib files).1) ↔
      PassExpected lib files := by
  induction files with
  | nil => exact iff_of_true ⟨rfl, .done⟩ trivial
  | cons file files ih =>
    unfold PassExpected smsCommandPass
    rw [← processCommand_isOk_iff]
    rcases hr : processCommand lib file with ⟨result, effects⟩
    cases result with
    | error e => exact iff_of_false (fun h => Option.some_ne_none _ h.1) (by simp)
    | ok goOn =>
      rcases processCommand_ends hr with ⟨rfl, rfl, hkept, hno⟩ | ⟨rfl, hgone, hgo⟩
      · exact iff_of_true ⟨rfl, .kept file files hkept⟩ ⟨⟨false, rfl⟩, fun h => absurd h hno⟩
      · dsimp only
        constructor
        · rintro ⟨hnone, hends⟩
          exact ⟨⟨true, rfl⟩, fun _ => ih.mp ⟨hnone, hends.tail hgone⟩⟩
        · rintro ⟨-, hrest⟩
          obtain ⟨hnone, hends⟩ := ih.mpr (hrest hgo)
          exact ⟨hnone, .gone file files effects _ hgone hends⟩

/-- A command with an infinite number. -/
def infiniteContent : Bytes := ascii "\x7b\"sourceRid\": 1e999, \"targetRid\": 9, \"text\": \"hi\"\x7d".toList

/-- A command of radio 7 for radio 9. -/
def plainContent : Bytes := ascii "\x7b\"sourceRid\": 7, \"targetRid\": 9, \"text\": \"hi\"\x7d".toList

/-- An entry of an object. -/
def entry (key : String) (v : Json) : Json × Json := (.str (Dashboard.codes key.toList), v)

/-- A command for radio 9. -/
def sampleDocument (source : Json) : Json :=
  .dict [entry "sourceRid" source, entry "targetRid" (.int 9),
    entry "text" (.str (Dashboard.codes "hi".toList))]

/-- The parser on the two commands. -/
def sampleLibrary : JsonLibrary where
  loads content :=
    if content = infiniteContent then .value (sampleDocument (.float .infinite))
    else if content = plainContent then .value (sampleDocument (.int 7))
    else .invalid
  intOfStr _ := none
  shown _ := []
  dumps _ := some []

/-- A file around which nothing fails. -/
def sampleFile (content : Bytes) : CommandFile where
  connected := true
  content := some content
  ensured := .ok ()
  sessionId := List.replicate 16 0
  messageReference := 0
  sent := true
  sentAt := []
  resultDirMade := true
  resultWritten := true
  unlinked := true
  moved := true
  noted := true

/-- The exception leaves the loop, and the command after it stays. -/
theorem not_survives_infinite : ¬ ∀ (lib : JsonLibrary) (files : List CommandFile),
    (∀ document, lib.dumps document ≠ none) →
    (∀ file ∈ files, file.ensured = .ok () ∧ file.resultDirMade = true ∧ file.resultWritten = true ∧
      file.unlinked = true ∧ file.moved = true ∧ file.noted = true) →
    (smsCommandPass lib files).2 = none := by
  intro h
  have hnone := h sampleLibrary [sampleFile infiniteContent, sampleFile plainContent]
    (fun _ => Option.some_ne_none _) (by simp [sampleFile])
  exact absurd hnone (by decide +kernel)

end Brew
