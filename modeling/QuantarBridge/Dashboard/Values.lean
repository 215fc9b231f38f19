import QuantarBridge.Lib.Decimal
import QuantarBridge.Sync.ConfigText

/-!
# Values of loaded documents

The dashboard loads YAML and JSON documents and converts what it finds in them with `int`, `float`,
`str` and `bool`. A conversion raises a different exception for a value of the wrong type than for
one with the wrong content, and only some of the exceptions are caught.

* `Value`: what a document may hold;
* `PyError`: the exceptions;
* `Python`: the library functions whose results depend on floating-point numbers, on the Unicode
  tables or on a parser;
* `Python.toInt`, `Python.toFloat`, `Python.truth`, `Python.items`: the conversions;
* `Value.get`: looking up a key.
-/

set_option autoImplicit false

namespace Dashboard

open Lib
open Sync (Text isSpace)

/-- A string of code points, surrogates included. -/
abbrev Str := List ℕ

/-- The code points of a text. -/
def codes (text : Text) : Str := text.map Char.toNat

/-- The text, if there is no surrogate in the string. -/
def Str.toText? (s : Str) : Option Text :=
  if ∀ c ∈ s, c.isValidChar then some (s.map Char.ofNat) else none

/-- The string without white space at its ends. -/
def Str.strip (s : Str) : Str :=
  let space (c : ℕ) : Bool := isSpace (Char.ofNat c)
  ((s.dropWhile space).reverse.dropWhile space).reverse

/-- The exceptions, with their texts where they are told. -/
inductive PyError
  | valueError (text : String)
  | settingsBusyError (text : String)
  | typeError
  | attributeError
  | overflowError
  | osError
  | runtimeError (text : String)
  | yamlError
  | configParserError
  deriving DecidableEq

/-- A `ValueError`. One subclass of it is the dashboard's own. -/
def PyError.isValueError : PyError → Bool
  | .valueError _ => true
  | .settingsBusyError _ => true
  | _ => false

/-- A value of a document, over the floating-point numbers `F` and the remaining types `O`. -/
inductive Value (F O : Type)
  | none
  | bool (b : Bool)
  | int (n : ℤ)
  | float (x : F)
  | str (s : Str)
  | list (values : List (Value F O))
  | dict (entries : List (Value F O × Value F O))
  | other (o : O)

/-- The entries of a document. -/
abbrev Document (F O : Type) := List (Value F O × Value F O)

/-- Library functions. -/
structure Python (F O : Type) where
  literal : String → F
  eq : F → F → Bool
  le : F → F → Bool
  lt : F → F → Bool
  isFinite : F → Bool
  /-- `round(x, 4)` -/
  round4 : F → F
  /-- `f"{x:.4f}"` -/
  format4 : F → Text
  floatOfInt : ℤ → Except PyError F
  intOfFloat : F → Except PyError ℤ
  intOfStr : Str → Except PyError ℤ
  floatOfStr : Str → Except PyError F
  intOfOther : O → Except PyError ℤ
  floatOfOther : O → Except PyError F
  truthOfFloat : F → Bool
  truthOfOther : O → Bool
  itemsOfOther : O → Except PyError (List (Value F O))
  strOf : Value F O → Str
  upper : Str → Str
  /-- `yaml.safe_load` -/
  safeLoad : Text → Except PyError (Value F O)
  /-- `yaml.safe_load`, of bytes -/
  safeLoadBytes : Bytes → Except PyError (Value F O)
  /-- `json.loads` -/
  jsonLoads : Text → Except PyError (Value F O)
  /-- `json.dumps` with an indentation of two -/
  jsonDumps : Document F O → Text
  /-- `configparser`: the names of the sections -/
  iniSections : Text → Except PyError (List Text)
  /-- `hashlib.sha256` in hexadecimal digits -/
  sha256 : Bytes → String

section Lookup

variable {F O : Type}

/-- The value has the key. -/
def Value.isKey (key : String) : Value F O → Bool
  | .str s => s = codes key.toList
  | _ => false

/-- The value of a key. -/
def Document.lookup (d : Document F O) (key : String) : Option (Value F O) :=
  (List.find? (fun e => e.1.isKey key) d).map Prod.snd

/-- `d.get(key, default)` -/
def Document.get (d : Document F O) (key : String) (default : Value F O := .none) : Value F O :=
  (Document.lookup d key).getD default

/-- The document has the key. -/
def Document.has (d : Document F O) (key : String) : Bool := (Document.lookup d key).isSome

/-- Replace the value of a present key, append a new one. -/
def Document.set (key : String) (v : Value F O) : Document F O → Document F O
  | [] => [(.str (codes key.toList), v)]
  | e :: d => if e.1.isKey key then (e.1, v) :: d else e :: Document.set key v d

/-- The methods of a dictionary. -/
def Value.asDict : Value F O → Except PyError (Document F O)
  | .dict entries => .ok entries
  | _ => .error .attributeError

end Lookup

namespace Python

variable {F O : Type} (py : Python F O)

/-- `int(v)` -/
def toInt : Value F O → Except PyError ℤ
  | .bool b => .ok (if b then 1 else 0)
  | .int n => .ok n
  | .float x => py.intOfFloat x
  | .str s => py.intOfStr s
  | .other o => py.intOfOther o
  | .none | .list _ | .dict _ => .error .typeError

/-- `float(v)` -/
def toFloat : Value F O → Except PyError F
  | .bool b => py.floatOfInt (if b then 1 else 0)
  | .int n => py.floatOfInt n
  | .float x => .ok x
  | .str s => py.floatOfStr s
  | .other o => py.floatOfOther o
  | .none | .list _ | .dict _ => .error .typeError

/-- `bool(v)` -/
def truth : Value F O → Bool
  | .none => false
  | .bool b => b
  | .int n => n ≠ 0
  | .float x => py.truthOfFloat x
  | .str s => s ≠ []
  | .list values => values.length ≠ 0
  | .dict entries => entries.length ≠ 0
  | .other o => py.truthOfOther o

/-- What a loop over the value visits. -/
def items : Value F O → Except PyError (List (Value F O))
  | .list values => .ok values
  | .dict entries => .ok (entries.map Prod.fst)
  | .str s => .ok (s.map fun c => .str [c])
  | .other o => py.itemsOfOther o
  | .none | .bool _ | .int _ | .float _ => .error .typeError

end Python

/-- `except (TypeError, ValueError) as exc: raise ValueError(text) from exc` -/
def orValueError {α : Type} (text : String) : Except PyError α → Except PyError α
  | .ok a => .ok a
  | .error e => .error (if e = .typeError ∨ e.isValueError then .valueError text else e)

/-- `raise ValueError(text)` unless the condition holds. -/
def require (c : Prop) [Decidable c] (text : String) : Except PyError Unit :=
  if c then .ok () else .error (.valueError text)

end Dashboard
