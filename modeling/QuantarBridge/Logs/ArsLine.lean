import QuantarBridge.Lib.Decimal
import Mathlib.Data.Finset.Insert

/-!
# Lines about registrations

The log of the data host tells which radios register and deregister. Three regular expressions and a
marker find out what a line says.

* `searchAfter`, `digitsAt`, `lastNumber`: what the expressions are made of;
* `applyArsLogLine`: what a line does to the registered radios;
* `applyArsLogLine_short`: a line of one character says nothing.
-/

set_option autoImplicit false

namespace Logs

open Lib

/-- A string. -/
abbrev Str := List Char

/-! ## Regular expressions -/

/-- The decimal digits of the Unicode tables start at these zeros, ten in a row. -/
def decimalZeros : List ℕ :=
  [0x30, 0x660, 0x6F0, 0x7C0, 0x966, 0x9E6, 0xA66, 0xAE6, 0xB66, 0xBE6, 0xC66, 0xCE6, 0xD66, 0xDE6,
    0xE50, 0xED0, 0xF20, 0x1040, 0x1090, 0x17E0, 0x1810, 0x1946, 0x19D0, 0x1A80, 0x1A90, 0x1B50,
    0x1BB0, 0x1C40, 0x1C50, 0xA620, 0xA8D0, 0xA900, 0xA9D0, 0xA9F0, 0xAA50, 0xABF0, 0xFF10, 0x104A0,
    0x10D30, 0x11066, 0x110F0, 0x11136, 0x111D0, 0x112F0, 0x11450, 0x114D0, 0x11650, 0x116C0, 0x11730,
    0x118E0, 0x11950, 0x11C50, 0x11D50, 0x11DA0, 0x16A60, 0x16AC0, 0x16B50, 0x1D7CE, 0x1D7D8, 0x1D7E2,
    0x1D7EC, 0x1D7F6, 0x1E140, 0x1E2F0, 0x1E950, 0x1FBF0]

/-- The value of a character that `\d` matches. -/
def decimalValue (c : Char) : Option ℕ :=
  (decimalZeros.find? fun z => z ≤ c.toNat ∧ c.toNat < z + 10).map (c.toNat - ·)

/-- `(\d+)`: the values of as many digits as there are. -/
def digitsAt : Str → Option (List ℕ)
  | [] => none
  | c :: rest => (decimalValue c).map fun d => d :: (digitsAt rest).getD []

/-- A text at the beginning of another, and what follows it. -/
def literal (same : Char → Char → Bool) : Str → Str → Option Str
  | [], s => some s
  | _ :: _, [] => none
  | p :: lit, c :: s => if same p c then literal same lit s else none

/-- The same letter under `IGNORECASE`, for the letters of the expressions. -/
def sameLetter (p c : Char) : Bool :=
  p.toLower = c.toLower || (p.toLower = 'i' && (c.toNat = 0x130 || c.toNat = 0x131)) ||
    (p.toLower = 's' && c.toNat = 0x17F)

/-- The characters are the same. -/
def sameChar (p c : Char) : Bool := p = c

/-- `search`: the leftmost match. -/
def search {α : Type} (matchAt : Str → Option α) : Str → Option α
  | [] => matchAt []
  | c :: rest => (matchAt (c :: rest)).or (search matchAt rest)

/-- `llId = (\d+)`. -/
def number (same : Char → Char → Bool) (s : Str) : Option (List ℕ) :=
  (literal same "llId = ".toList s).bind digitsAt

/-- `.*llId = (\d+)`: the last number of the line. -/
def lastNumber (same : Char → Char → Bool) : Str → Option (List ℕ)
  | [] => number same []
  | c :: rest =>
    if c = '\n' then number same (c :: rest)
    else (lastNumber same rest).or (number same (c :: rest))

/-- One of several texts, followed by what `after` matches. -/
def searchAfter {α : Type} (same : Char → Char → Bool) (words : List Str)
    (after : Str → Option α) : Str → Option α :=
  search fun s => words.findSome? fun word => (literal same word s).bind after

/-- The radio of a registration. -/
def ARS_REGISTRATION_RE : Str → Option (List ℕ) :=
  searchAfter sameChar ["recognized Motorola SCEP ARS registration, llId = ".toList] digitsAt

/-- The radio of a refresh. -/
def ARS_REFRESH_RE : Str → Option (List ℕ) :=
  searchAfter sameChar
    ["accepted Motorola ARS refresh".toList, "recognized Motorola ARS refresh".toList]
    (lastNumber sameChar)

/-- The radio of a disconnect or a deregistration. -/
def ARS_DISCONNECT_RE : Str → Option (List ℕ) :=
  searchAfter sameLetter ["DISCONNECT".toList, "deregistration".toList] (lastNumber sameLetter)

/-- The text of the log that a new session begins with. -/
def ARS_SESSION_RESET_MARKER : Str := "Motorola LRRP Initial Delay:".toList

/-- Whether the marker is in a line. -/
def isReset (line : Str) : Bool := (searchAfter sameChar [ARS_SESSION_RESET_MARKER] some line).isSome

/-! ## Lines -/

/-- `int(digits)`. More than 4300 digits are a `ValueError`. -/
def int (digits : List ℕ) : Option ℕ :=
  if 4300 < digits.length then none else some (digitsValue digits)

/-- What a line of the log makes the bridge do. -/
inductive ArsAction
  | register (issi : ℕ)
  | deregister (issi : ℕ)
  | reset
  deriving DecidableEq

/-- The radio that a line says has left. -/
def applyDisconnect (issis : Finset ℕ) (line : Str) : Option (Finset ℕ × Option ArsAction) :=
  match ARS_DISCONNECT_RE line with
  | some digits => (int digits).map fun issi => (issis.erase issi, some (.deregister issi))
  | none => some (issis, none)

/-- The radios after a line, and what it says; `none` when a conversion raises. -/
def applyArsLogLine (issis : Finset ℕ) (line : Str) : Option (Finset ℕ × Option ArsAction) :=
  if isReset line then some (∅, some .reset)
  else
    match (ARS_REGISTRATION_RE line).or (ARS_REFRESH_RE line) with
    | some digits => (int digits).bind fun issi =>
        -- an id out of range is no registration, but the line may still deregister it
        if 1 ≤ issi ∧ issi ≤ 0xFFFFFF then some (insert issi issis, some (.register issi))
        else applyDisconnect issis line
    | none => applyDisconnect issis line

/-! ## Short lines -/

theorem length_of_literal {same : Char → Char → Bool} {lit s rest : Str}
    (h : literal same lit s = some rest) : lit.length ≤ s.length := by
  induction lit generalizing s with
  | nil => exact Nat.zero_le _
  | cons p lit ih =>
    cases s with
    | nil => simp [literal] at h
    | cons c s =>
      rw [literal] at h
      split_ifs at h
      have := ih h
      simp only [List.length_cons]
      omega

theorem exists_of_search {α : Type} {matchAt : Str → Option α} {s : Str}
    (h : (search matchAt s).isSome) : ∃ t, t.length ≤ s.length ∧ (matchAt t).isSome := by
  induction s with
  | nil => exact ⟨[], le_refl _, h⟩
  | cons c s ih =>
    rw [search, Option.isSome_or, Bool.or_eq_true] at h
    rcases h with h | h
    · exact ⟨c :: s, le_refl _, h⟩
    · obtain ⟨t, ht, hm⟩ := ih h
      exact ⟨t, by rw [List.length_cons]; omega, hm⟩

/-- **An expression does not match a text that is shorter than its literals.** -/
theorem searchAfter_eq_none {α : Type} {same : Char → Char → Bool} {words : List Str}
    {after : Str → Option α} {line : Str} (h : ∀ word ∈ words, line.length < word.length) :
    searchAfter same words after line = none := by
  rw [← Option.not_isSome_iff_eq_none]
  intro hfound
  obtain ⟨t, ht, hm⟩ := exists_of_search hfound
  obtain ⟨a, ha⟩ := Option.isSome_iff_exists.mp hm
  obtain ⟨word, hword, ha⟩ := List.exists_of_findSome?_eq_some ha
  obtain ⟨rest, hrest, -⟩ := Option.bind_eq_some_iff.mp ha
  have := length_of_literal hrest
  have := h word hword
  omega

/-- **A line of one character says nothing.** -/
theorem applyArsLogLine_short (issis : Finset ℕ) {line : Str} (h : line.length ≤ 1) :
    applyArsLogLine issis line = some (issis, none) := by
  have shorter : ∀ words : List Str, (∀ word ∈ words, 1 < word.length) →
      ∀ word ∈ words, line.length < word.length :=
    fun words hw word hword => Nat.lt_of_le_of_lt h (hw word hword)
  have hreset : isReset line = false := by
    rw [isReset, searchAfter_eq_none (shorter _ (by decide))]
    rfl
  have hregistration : ARS_REGISTRATION_RE line = none :=
    searchAfter_eq_none (shorter _ (by decide))
  have hrefresh : ARS_REFRESH_RE line = none := searchAfter_eq_none (shorter _ (by decide))
  have hdisconnect : ARS_DISCONNECT_RE line = none := searchAfter_eq_none (shorter _ (by decide))
  rw [applyArsLogLine, hreset, hregistration, hrefresh, if_neg Bool.false_ne_true]
  show applyDisconnect issis line = some (issis, none)
  rw [applyDisconnect, hdisconnect]

end Logs
