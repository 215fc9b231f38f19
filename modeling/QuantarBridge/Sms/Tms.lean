import QuantarBridge.Lib.Decimal
import QuantarBridge.PacketData.Codec

/-!
# Motorola text messages

The text of a received message is UTF-16 inside a Motorola TMS payload. `parseMotorolaTms` reads
the two known layouts and `extractText` falls back to the longest printable run.

* `trim`, `isPrintableUtf16`, `toBytes`: characters;
* `parseMotorolaTms`, `textFragment`, `extractText`, `messageText`;
* `decodeUtf16Be`: the text of defined short data.
-/

set_option autoImplicit false

namespace Sms

open Lib PacketData

/-- Space, tab, carriage return, line feed. -/
def isBlank (c : UInt8) : Bool := c = 0x20 ∨ c = 0x09 ∨ c = 0x0D ∨ c = 0x0A

/-- The text without the blanks around it. -/
def trim (value : Bytes) : Bytes :=
  ((value.dropWhile isBlank).reverse.dropWhile isBlank).reverse

/-- A code unit that may stand in a text. Surrogates may not. -/
def isPrintableUtf16 (value : ℕ) : Bool :=
  (value = 0x0D ∨ value = 0x0A ∨ value = 0x09) ∨ (0x20 ≤ value ∧ value ≤ 0x7E) ∨
    (0xA0 ≤ value ∧ ¬ (0xD800 ≤ value ∧ value ≤ 0xDFFF))

/-- The UTF-8 bytes of a code unit. -/
def utf8 (v : ℕ) : Bytes :=
  if v < 0x80 then [UInt8.ofNat v]
  else if v < 0x800 then [UInt8.ofNat (0xC0 + v / 64), UInt8.ofNat (0x80 + v % 64)]
  else [UInt8.ofNat (0xE0 + v / 4096), UInt8.ofNat (0x80 + v / 64 % 64),
    UInt8.ofNat (0x80 + v % 64)]

/-- The UTF-8 text of a string of code units. -/
def toBytes (units : List ℕ) : Bytes := units.flatMap utf8

/-- The little-endian code units of a buffer. -/
def unitsLe : Bytes → List ℕ
  | a :: b :: rest => (a.toNat + b.toNat * 256) :: unitsLe rest
  | _ => []

/-- The big-endian code units of a buffer. -/
def unitsBe : Bytes → List ℕ
  | a :: b :: rest => (a.toNat * 256 + b.toNat) :: unitsBe rest
  | _ => []

/-- The first longest one. -/
def longer (best current : List ℕ) : List ℕ := if best.length < current.length then current else best

/-- The longest printable run. -/
def longestRun : List ℕ → List ℕ → List ℕ → List ℕ
  | [], current, best => longer best current
  | value :: rest, current, best =>
    if value = 0 then longestRun rest [] (longer best current)
    else if isPrintableUtf16 value then longestRun rest (current ++ [value]) best
    else longestRun rest [] (longer best current)

/-- The longest printable run of at least three characters. -/
def extractText (data : Bytes) : Bytes :=
  if data.length < 4 then []
  else
    let best := longestRun (unitsLe data) [] []
    if best.length < 3 then [] else trim (toBytes best)

/-- A printable ASCII byte. -/
def isText (c : UInt8) : Bool := 0x20 ≤ c ∧ c ≤ 0x7E

/-- The text behind the marker, in either byte order, up to the first other byte. -/
def textFragment : Bytes → Bytes
  | [] => []
  | [a] => if isText a then [a] else []
  | [a, b] => if b = 0 ∧ isText a then [a] else if isText a then [a] else []
  | a :: b :: c :: rest =>
    if a = 0 ∧ c = 0 ∧ isText b then b :: textFragment rest
    else if b = 0 ∧ isText a then a :: textFragment (c :: rest)
    else if isText a then [a]
    else []

/-- The text behind a marker. -/
def extractTmsTextFragment (data : Bytes) (markerOffset : ℕ) : Bytes :=
  trim (textFragment (data.drop (markerOffset + 2)))

/-- What a text message tells the bridge. -/
structure ParsedSmsPacket where
  sourceRid : ℕ := 0
  text : Bytes
  textFragment : Bytes
  operation : UInt8
  messageId : UInt8
  deriving DecidableEq

/-- The bytes behind the line break that starts the text, in steps of two. -/
def afterLineBreak : Bytes → Option Bytes
  | a :: b :: c :: d :: rest =>
    if a = 0x0D ∧ b = 0x00 ∧ c = 0x0A ∧ d = 0x00 then some rest
    else afterLineBreak (c :: d :: rest)
  | _ => none

/-- The printable units up to a zero. -/
def decodeUnits : List ℕ → Option (List ℕ)
  | [] => some []
  | value :: rest =>
    if value = 0 then some []
    else if isPrintableUtf16 value then (decodeUnits rest).map (value :: ·)
    else none

/-- Where the bytes `80 04` stand first. -/
def markerOffset (data : Bytes) : Option ℕ :=
  (List.range (data.length - 1)).find? fun i => data.getD i 0 = 0x80 ∧ data.getD (i + 1) 0 = 0x04

/-- The digits in a buffer, in steps of two. -/
def wideDigits : Bytes → Bytes
  | a :: b :: rest =>
    if b = 0 ∧ 0x30 ≤ a ∧ a ≤ 0x39 then a :: wideDigits rest else wideDigits rest
  | _ => []

/-- The sender in front of the marker, from its first seven digits. Fewer digits are none. -/
def markedSource (data : Bytes) (markerOffset : ℕ) : ℕ :=
  let digits := wideDigits (data.take markerOffset)
  if 7 ≤ digits.length then digitsValue ((digits.take 7).map fun c => c.toNat - 0x30) else 0

/-- A message behind the marker. -/
def parseMarked (data : Bytes) : Option ParsedSmsPacket :=
  (markerOffset data).map fun i =>
    { sourceRid := markedSource data i
      text := []
      textFragment := extractTmsTextFragment data i
      operation := data.getD 2 0
      messageId := data.getD i 0 &&& 0x1F }

/-- A message from a server: a line break and the text. -/
def parseServerText (data rest : Bytes) : Option ParsedSmsPacket :=
  match decodeUnits (unitsLe rest) with
  | none => none
  | some [] => none
  | some decoded =>
    let text := trim (toBytes decoded)
    if text = [] then none
    else some
      { text := text
        textFragment := []
        operation := data.getD 2 0
        messageId := data.getD 4 0 &&& 0x1F }

/-- The text message in a datagram. -/
def parseMotorolaTms (data : Bytes) : Option ParsedSmsPacket :=
  if data.length < 12 then none
  else if data.getD 2 0 = 0xE0 then
    match afterLineBreak (data.drop 4) with
    | some rest => parseServerText data rest
    | none => parseMarked data
  else parseMarked data

/-- The text of a message, by its layout or as a printable run. -/
def messageText (data : Bytes) : Bytes :=
  let text := match parseMotorolaTms data with
    | some parsed => if parsed.text ≠ [] then parsed.text else parsed.textFragment
    | none => []
  trim (if text = [] then extractText data else text)

/-- Big-endian text up to a zero; any other character makes it undecodable. -/
def decodeUtf16Be (data : Bytes) : Bytes :=
  match decodeUnits (dropMarks (unitsBe data)) with
  | none => []
  | some units => toBytes units
where
  /-- Byte order marks in front of the text. -/
  dropMarks (units : List ℕ) : List ℕ := units.dropWhile (· = 0xFEFF)

end Sms
