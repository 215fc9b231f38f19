import QuantarBridge.Dashboard.Values
import QuantarBridge.Lib.Json
import QuantarBridge.Lib.TextLines
import QuantarBridge.Lib.Trim

/-!
# Files of the inbox

The message bridge reads every file of the inbox as a JSON document and looks for a text in it. A file
that is not UTF-8 or not JSON raises an exception, and goes to the directory for errors.

* `Event`, `normalizeEvent`, `chooseText`: the code;
* `strip_eq_trim`: blanks around a text;
* `chooseText_text`: a document with a text and no other.
-/

set_option autoImplicit false

namespace Brew.EventFile

open Lib
open Dashboard (Str codes)

/-- What Python does with floating-point numbers. -/
structure Floats (F : Type) where
  ofText : List Char → F
  truth : F → Bool

section Event

variable {F : Type}

/-- A document. Of two values of a key the later one counts. -/
abbrev Event (F : Type) := List (Str × JsonValue F)

/-- `event.get(key)` -/
def Event.get? (event : Event F) (key : String) : Option (JsonValue F) :=
  (List.find? (fun m => m.1 = codes key.toList) (List.reverse event)).map Prod.snd

/-- `event[key] = value` -/
def Event.set (event : Event F) (key : String) (value : JsonValue F) : Event F :=
  event ++ [(codes key.toList, value)]

variable (floats : Floats F)

/-- `bool(value)` -/
def truth : JsonValue F → Bool
  | .null => false
  | .bool b => b
  | .int n => n ≠ 0
  | .float x => floats.truth x
  | .str s => s ≠ []
  | .list values => !values.isEmpty
  | .object members => !members.isEmpty

/-- The document of a file, with its path and its session; `none` when the code raises. -/
def normalizeEvent (path stem : Str) (content : Bytes) : Option (Event F) :=
  (decodeUtf8 content).bind fun text =>
    match jsonLoads floats.ofText (universalNewlines text) with
    | some (.object members) =>
      let event := Event.set members "path" (.str path)
      let sessionId := ((event.get? "sessionId").filter (truth floats)).getD (.str stem)
      some (event.set "sessionId" sessionId)
    | _ => none

/-- The first of the texts that is not blank. -/
def chooseText (event : Event F) : Str :=
  (["parsedText", "parsedTextFragment", "text"].findSome? fun key =>
    match event.get? key with
    | some (.str value) => if Str.strip value ≠ [] then some (Str.strip value) else none
    | _ => none).getD []

end Event

/-! ## Blanks -/

/-- The code point is white space. -/
def isBlankCode (c : ℕ) : Bool := Sync.isSpace (Char.ofNat c)

theorem strip_eq_trim (s : Str) : Str.strip s = trim isBlankCode s := rfl

theorem strip_append_of_blank {a : Str} (h : ∀ c ∈ a, isBlankCode c = true) (b : Str) :
    Str.strip (a ++ b) = Str.strip b := by
  rw [strip_eq_trim, strip_eq_trim, trim_append_of_blank_left h]

/-! ## A document with one text -/

theorem chooseText_text {F : Type} {event : Event F} {value : Str}
    (hparsed : event.get? "parsedText" = none) (hfragment : event.get? "parsedTextFragment" = none)
    (htext : event.get? "text" = some (.str value)) : chooseText event = Str.strip value := by
  simp only [chooseText, List.findSome?_cons, hparsed, hfragment, htext]
  by_cases hblank : Str.strip value = []
  · simp [hblank]
  · simp [hblank]

end Brew.EventFile
