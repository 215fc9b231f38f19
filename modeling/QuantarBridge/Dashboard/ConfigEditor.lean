import QuantarBridge.Dashboard.Validation

/-!
# Editing the configuration files as text

The dashboard changes single lines of the configuration files and leaves the rest of their text
alone. A section starts with its name in the first column and ends in front of the next line that
starts there.

* `splitlines`: the lines of a text with their ends;
* `sectionBounds`: the lines up to the header of a section, its lines, and those behind it;
* `replaceSectionScalar`, `upsertSectionScalar`: a field of a section;
* `replaceMappingBlock`: the talkgroup mappings;
* `replaceIndentedScalar`: a field that stands at six blanks once in the file;
* `writeIniPassword`: the password of the gateway.
-/

set_option autoImplicit false

namespace Dashboard

open Lib
open Sync (Text isSpace keepLines opensSms)

/-- The characters of the bytes, at most as many as the fuel allows. -/
def decodeChars : ℕ → Bytes → Option Text
  | _, [] => some []
  | 0, _ :: _ => none
  | fuel + 1, bytes => do
    let c ← (bytes.take 4).toByteArray.utf8DecodeChar? 0
    let text ← decodeChars fuel (bytes.drop c.utf8Size)
    return c :: text

/-- There are no more characters than bytes. -/
def decodeUtf8 (bytes : Bytes) : Except PyError Text :=
  match decodeChars bytes.length bytes with
  | some text => .ok text
  | none => .error (.valueError "'utf-8' codec can't decode the bytes")

/-- The bytes of a text. -/
def encodeUtf8 (text : Text) : Bytes := text.flatMap String.utf8EncodeChar

theorem encodeUtf8_cons (c : Char) (text : Text) :
    encodeUtf8 (c :: text) = String.utf8EncodeChar c ++ encodeUtf8 text := rfl

theorem decodeChars_encodeUtf8 (text : Text) {fuel : ℕ} (h : (encodeUtf8 text).length ≤ fuel) :
    decodeChars fuel (encodeUtf8 text) = some text := by
  induction text generalizing fuel with
  | nil => cases fuel <;> rfl
  | cons c text ih =>
    have hlen := String.length_utf8EncodeChar c
    have hpos := c.utf8Size_pos
    rw [encodeUtf8_cons, List.length_append] at h
    cases fuel with
    | zero => omega
    | succ fuel =>
      have hne : encodeUtf8 (c :: text) ≠ [] := by
        intro hnil
        rw [encodeUtf8_cons, List.append_eq_nil_iff] at hnil
        rw [hnil.1, List.length_nil] at hlen
        omega
      have htake : (encodeUtf8 (c :: text)).take 4 =
          String.utf8EncodeChar c ++ (encodeUtf8 text).take (4 - c.utf8Size) := by
        have hle := c.utf8Size_le_four
        rw [encodeUtf8_cons, List.take_append, hlen, List.take_of_length_le (by omega)]
      have hfirst : ((encodeUtf8 (c :: text)).take 4).toByteArray.utf8DecodeChar? 0 = some c := by
        rw [htake, List.toByteArray_append']
        exact ByteArray.utf8DecodeChar?_utf8EncodeChar_append
      have hdrop : (encodeUtf8 (c :: text)).drop c.utf8Size = encodeUtf8 text := by
        rw [encodeUtf8_cons, ← hlen, List.drop_left]
      have hrest : decodeChars fuel (encodeUtf8 text) = some text := ih (by omega)
      cases hb : encodeUtf8 (c :: text) with
      | nil => exact absurd hb hne
      | cons b bytes =>
        rw [hb] at hfirst hdrop
        rw [decodeChars, hfirst]
        · simp [hdrop, hrest]
        · exact List.cons_ne_nil b bytes

/-- **What was encoded is decoded again.** -/
theorem decodeUtf8_encodeUtf8 (text : Text) : decodeUtf8 (encodeUtf8 text) = .ok text := by
  rw [decodeUtf8, decodeChars_encodeUtf8 text le_rfl]

/-- Text files are read with every line end as a newline. -/
def universalNewlines : Text → Text
  | [] => []
  | '\r' :: '\n' :: text => '\n' :: universalNewlines text
  | c :: text => (if c = '\r' then '\n' else c) :: universalNewlines text

/-- Characters that end a line of `splitlines`. -/
def endsLine (c : Char) : Bool :=
  c ∈ ['\n', '\r', '\x0b', '\x0c', '\x1c', '\x1d', '\x1e', '\u0085', '\u2028', '\u2029']

/-- The lines of a text with their ends. -/
def splitlines : Text → List Text
  | [] => []
  | '\r' :: '\n' :: text => ['\r', '\n'] :: splitlines text
  | c :: text =>
    if endsLine c then [c] :: splitlines text
    else match splitlines text with
      | [] => [[c]]
      | line :: lines => (c :: line) :: lines

/-- The text without white space at its ends. -/
def strip (text : Text) : Text := Sync.rstrip (text.dropWhile isSpace)

/-- The end of a line with two characters. -/
def crlf : Text := ['\r', '\n']

/-- The end of a line that replaces another one. -/
def endingOf (line : Text) : Text := if crlf.isSuffixOf line then crlf else ['\n']

/-- The end of a line that is added to a text. -/
def newlineOf (text : Text) : Text := if ('\r', '\n') ∈ text.zip text.tail then crlf else ['\n']

/-- A carriage return or a newline. -/
def isEnd (c : Char) : Bool := c = '\r' ∨ c = '\n'

/-- The line without its end. -/
def dropEnd (line : Text) : Text := (line.reverse.dropWhile isEnd).reverse

/-- The line is the header of a section. -/
def opensSection (section_ : String) (line : Text) : Bool :=
  dropEnd line = section_.toList ++ [':']

/-- The line ends a section: text in the first column that is no comment. -/
def endsSection (line : Text) : Bool :=
  match strip line with
  | [] => false
  | c :: _ => ¬ line.head?.any isSpace ∧ c ≠ '#'

/-- The lines up to the header of the section, the lines of the section, and those behind it. -/
def sectionBounds (lines : List Text) (section_ : String) :
    Except PyError (List Text × List Text × List Text) :=
  match lines.dropWhile fun l => !opensSection section_ l with
  | [] => .error (.valueError s!"Missing YAML section: {section_}")
  | header :: rest =>
    .ok (lines.takeWhile (fun l => !opensSection section_ l) ++ [header],
      rest.takeWhile fun l => !endsSection l, rest.dropWhile fun l => !endsSection l)

/-- Some blanks. -/
def blanks (n : ℕ) : Text := List.replicate n ' '

/-- The line has the key, at the given column. -/
def isKeyLine (indent : ℕ) (key : String) (line : Text) : Bool :=
  let start := blanks indent ++ key.toList
  start.isPrefixOf line ∧ ((line.drop start.length).dropWhile isSpace).head? = some ':'

/-- A line with a key and its value. -/
def scalarLine (indent : ℕ) (key : String) (value : Text) : Text :=
  blanks indent ++ key.toList ++ [':', ' '] ++ value

/-- Replace the first line with the property. -/
def replaceFirst (p : Text → Bool) (f : Text → Text) : List Text → Option (List Text)
  | [] => none
  | line :: lines =>
    if p line then some (f line :: lines) else (replaceFirst p f lines).map (line :: ·)

/-- The lines of a section with a new value for the key. -/
def setScalar (key : String) (value : Text) (body : List Text) : Option (List Text) :=
  replaceFirst (isKeyLine 2 key) (fun l => scalarLine 2 key value ++ endingOf l) body

/-- Set a key that is in the section. -/
def replaceSectionScalar (text : Text) (section_ key : String) (value : Text) :
    Except PyError Text := do
  let (before, body, after) ← sectionBounds (splitlines text) section_
  match setScalar key value body with
  | some body => return (before ++ body ++ after).flatten
  | none => .error (.valueError s!"Missing YAML field: {section_}.{key}")

/-- Set a key, and add it at the end of the section when it is missing. -/
def upsertSectionScalar (text : Text) (section_ key : String) (value : Text) :
    Except PyError Text := do
  let (before, body, after) ← sectionBounds (splitlines text) section_
  match setScalar key value body with
  | some body => return (before ++ body ++ after).flatten
  | none =>
    return (before ++ body ++ (scalarLine 2 key value ++ newlineOf text) :: after).flatten

/-- A line of a block below a key in column two. -/
def isBlockLine (line : Text) : Bool :=
  strip line ≠ [] ∧ 2 < (line.takeWhile fun c => c = ' ').length

/-- The lines of the mappings. -/
def mappingLines (newline : Text) (mappings : List TalkgroupMapping) : List Text :=
  ("  talkgroupMappings:".toList ++ newline) :: mappings.flatMap fun m =>
    ["    - p25: ".toList ++ (toString m.p25).toList ++ newline,
      "      brandmeister: ".toList ++ (toString m.brandmeister).toList ++ newline]

/-- Replace the lines of the mappings. -/
def replaceMappingBlock (text : Text) (mappings : List TalkgroupMapping) :
    Except PyError Text := do
  let (before, body, after) ← sectionBounds (splitlines text) "routing"
  let isKey := isKeyLine 2 "talkgroupMappings"
  match body.dropWhile fun l => !isKey l with
  | [] => .error (.valueError "Missing YAML field: routing.talkgroupMappings")
  | _ :: rest =>
    return (before ++ body.takeWhile (fun l => !isKey l) ++
      mappingLines (newlineOf text) mappings ++ rest.dropWhile isBlockLine ++ after).flatten

/-- Set the one line with the key, wherever it is. -/
def replaceIndentedScalar (text : Text) (key : String) (value : ℤ) : Except PyError Text := do
  let lines := splitlines text
  let found := (lines.filter (isKeyLine 6 key)).length
  require (found = 1) s!"Expected one YAML field named {key}, found {found}"
  return (lines.map fun l =>
    if isKeyLine 6 key l then scalarLine 6 key (toString value).toList ++ endingOf l else l).flatten

/-- Four hexadecimal digits. -/
def hex4 (n : ℕ) : Text :=
  [n / 4096, n / 256 % 16, n / 16 % 16, n % 16].map Nat.digitChar

/-- One code point of `json.dumps` with `ensure_ascii`. -/
def jsonEscape (c : ℕ) : Text :=
  if c = 34 then ['\\', '"']
  else if c = 92 then ['\\', '\\']
  else if c = 10 then ['\\', 'n']
  else if c = 13 then ['\\', 'r']
  else if c = 9 then ['\\', 't']
  else if c = 12 then ['\\', 'f']
  else if c = 8 then ['\\', 'b']
  else if 32 ≤ c ∧ c ≤ 126 then [Char.ofNat c]
  else if c < 65536 then ['\\', 'u'] ++ hex4 c
  else ['\\', 'u'] ++ hex4 (55296 + (c - 65536) / 1024) ++
    ['\\', 'u'] ++ hex4 (56320 + (c - 65536) % 1024)

/-- The string in double quotes. -/
def jsonString (s : Str) : Text := ['"'] ++ s.flatMap jsonEscape ++ ['"']

/-- The truth value as YAML writes it. -/
def yamlBool (b : Bool) : Text := (if b then "true" else "false").toList

/-- A number with four digits behind the point, without zeros at its end. -/
def yamlNumber (formatted : Text) : Text :=
  let rstrip (c : Char) (t : Text) : Text := (t.reverse.dropWhile fun d => d = c).reverse
  let rendered := rstrip '.' (rstrip '0' formatted)
  if '.' ∈ rendered then rendered else rendered ++ ['.', '0']

/-- An audio value as YAML writes it. -/
def yamlScalar {F O : Type} (py : Python F O) : AudioValue F → Except PyError Text
  | .bool b => .ok (yamlBool b)
  | .int n => do return yamlNumber (py.format4 (← py.floatOfInt n))
  | .float x => .ok (yamlNumber (py.format4 x))

/-- The line starts with the word in upper or lower case, where a long s is an s too. -/
def startsIgnoringCase (word line : Text) : Bool :=
  line.length ≥ word.length ∧
    (word.zip line).all fun (w, c) => c.toLower = w ∨ (w = 's' ∧ c = 'ſ')

/-- The line sets a password. -/
def isPasswordLine (line : Text) : Bool :=
  startsIgnoringCase "password".toList line ∧
    ((line.drop "password".length).dropWhile isSpace).head? = some '='

/-- The file of the gateway, read as text, with another password. -/
def writeIniPassword {F O : Type} (py : Python F O) (path : String) (text : Text)
    (password : Str) : Except PyError Bytes := do
  let sections ← py.iniSections text
  require ("DMR Network 1".toList ∈ sections) s!"Missing [DMR Network 1] in {path}"
  let isHeader (l : Text) : Bool := strip l = "[DMR Network 1]".toList
  let lines := splitlines text
  match lines.dropWhile fun l => !isHeader l with
  | [] => .error (.valueError s!"Missing [DMR Network 1] in {path}")
  | header :: rest =>
    let inside (l : Text) : Bool := (l.dropWhile isSpace).head? ≠ some '['
    let before := lines.takeWhile (fun l => !isHeader l) ++ [header]
    if (rest.takeWhile inside).any isPasswordLine then
      match password.toText? with
      | none => .error (.valueError "'utf-8' codec can't encode surrogates")
      | some password =>
        let write (l : Text) : Text := "Password=".toList ++ password ++ endingOf l
        return encodeUtf8 (before ++
          ((replaceFirst isPasswordLine write (rest.takeWhile inside)).getD []) ++
          rest.dropWhile inside).flatten
    else .error (.valueError s!"Missing Password in [DMR Network 1] in {path}")

end Dashboard
