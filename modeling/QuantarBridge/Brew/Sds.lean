import QuantarBridge.Lib.Decimal

/-!
# Text messages of the BREW server

A text message arrives as a type-4 SDS: eight bits of protocol, a message type, an optional time
stamp, seven bits of text coding and the text. It leaves for the P25 side as a file with the two
addresses and the text in hexadecimal digits.

* `readBits`, `parseTextSdsType4Pdu`: from the payload to the text;
* `sdsDocument`, `sdsPath`: the file, `sdsDocument_inj`: **it determines the message**.
-/

set_option autoImplicit false

namespace Brew

open Lib

/-- A text is a list of characters. -/
abbrev Text := List Char

/-- The protocol of text messages. -/
def PID_TEXT_MESSAGING : ℕ := 0x82

/-- The type of a message that transfers a text. -/
def MESSAGE_TYPE_SDS_TRANSFER : ℕ := 0x0

/-- The coding of a text in UTF-16. -/
def TEXT_CODING_UTF16BE : ℕ := 0x1A

/-- The text codings. -/
inductive TextCodec
  | iso8859_1 | iso8859_2 | iso8859_3 | iso8859_4 | iso8859_5 | iso8859_6 | iso8859_7 | iso8859_8
  | iso8859_9 | iso8859_10 | iso8859_13 | iso8859_14 | iso8859_15 | cp437 | cp737 | cp850 | cp852
  | cp855 | cp857 | cp860 | cp861 | cp863 | cp865 | cp866 | cp869 | utf_16_be
  deriving DecidableEq

/-- The codings of eight bits, by their number from one on. -/
def textCodings8Bit : List TextCodec :=
  [.iso8859_1, .iso8859_2, .iso8859_3, .iso8859_4, .iso8859_5, .iso8859_6, .iso8859_7, .iso8859_8,
    .iso8859_9, .iso8859_10, .iso8859_13, .iso8859_14, .iso8859_15, .cp437, .cp737, .cp850, .cp852,
    .cp855, .cp857, .cp860, .cp861, .cp863, .cp865, .cp866, .cp869]

/-- The decoders of Python, which refuse bytes that stand for no text. -/
abbrev Decoder := TextCodec → Bytes → Option Text

/-- The bits of a payload, the most significant one first. -/
def bitAt (payload : Bytes) (i : ℕ) : ℕ := (payload.getD (i / 8) 0).toNat / 2 ^ (7 - i % 8) % 2

/-- Some bits as a number. -/
def readBits (payload : Bytes) (offset count : ℕ) : ℕ :=
  (List.range count).foldl (fun value i => 2 * value + bitAt payload (offset + i)) 0

/-- White space in the sense of Python. -/
def isSpace (c : Char) : Bool :=
  let n := c.toNat
  (9 ≤ n ∧ n ≤ 13) ∨ (28 ≤ n ∧ n ≤ 32) ∨ n = 0x85 ∨ n = 0xA0 ∨ n = 0x1680 ∨
    (0x2000 ≤ n ∧ n ≤ 0x200A) ∨ n = 0x2028 ∨ n = 0x2029 ∨ n = 0x202F ∨ n = 0x205F ∨ n = 0x3000

/-- Drop characters from the end. -/
def rstrip (drop : Char → Bool) (text : Text) : Text := (text.reverse.dropWhile drop).reverse

/-- The text without white space at its ends. -/
def strip (text : Text) : Text := rstrip isSpace (text.dropWhile isSpace)

/-- The text of an SDS payload of `lengthBits` bits, unless it is empty or not understood. -/
def parseTextSdsType4Pdu (decode : Decoder) (payload : Bytes) (lengthBits : ℕ) : Option Text :=
  let lengthBits := min lengthBits (payload.length * 8)
  if lengthBits < 32 then none
  else if readBits payload 0 8 ≠ PID_TEXT_MESSAGING then none
  else if readBits payload 8 4 ≠ MESSAGE_TYPE_SDS_TRANSFER then none
  else
    -- a time stamp of 24 bits precedes the coding
    let timestampUsed := readBits payload 24 1 = 1
    if timestampUsed ∧ lengthBits < 25 + 24 + 7 then none
    else
      let offset := if timestampUsed then 25 + 24 else 25
      let coding := readBits payload offset 7
      let offset := offset + 7
      let textBits := lengthBits - offset
      if textBits < 8 then none
      else
        let textBytes := (List.range (textBits / 8)).map fun i =>
          UInt8.ofNat (readBits payload (offset + 8 * i) 8)
        let codec := if coding = TEXT_CODING_UTF16BE then some .utf_16_be
          else if coding = 0 then none else textCodings8Bit[coding - 1]?
        let textBytes := if coding = TEXT_CODING_UTF16BE ∧ textBytes.length % 2 = 1
          then textBytes.dropLast else textBytes
        if textBytes = [] then none
        else do
          let text ← decode (← codec) textBytes
          let text := strip (rstrip (· = Char.ofNat 0) text)
          if text = [] then none else some text

/-! ## The file for the P25 side -/

/-- One hexadecimal digit. -/
def hexDigit (n : ℕ) : UInt8 := UInt8.ofNat (if n < 10 then 48 + n else 87 + n)

/-- Two digits for every byte. -/
def hexBytes (data : Bytes) : Bytes :=
  data.flatMap fun b => [hexDigit (b.toNat / 16), hexDigit (b.toNat % 16)]

/-- The content of the file. -/
def sdsDocument (source destination : ℕ) (text : Text) : Bytes :=
  ascii "sourceRid: ".toList ++ decimal source ++ ascii "\ntargetRid: ".toList ++
    decimal destination ++ ascii "\ntextHex: \"".toList ++
    hexBytes (text.flatMap String.utf8EncodeChar) ++ ascii "\"\n".toList

theorem toNat_hexDigit {n : ℕ} (h : n < 16) :
    (hexDigit n).toNat = if n < 10 then 48 + n else 87 + n := by
  unfold hexDigit
  rw [UInt8.toNat_ofNat_of_lt']
  show _ < 256
  split_ifs <;> omega

theorem hexDigit_inj {n m : ℕ} (hn : n < 16) (hm : m < 16) (h : hexDigit n = hexDigit m) :
    n = m := by
  have ht := congrArg UInt8.toNat h
  rw [toNat_hexDigit hn, toNat_hexDigit hm] at ht
  split_ifs at ht <;> omega

theorem hexBytes_cons (b : UInt8) (data : Bytes) : hexBytes (b :: data) =
    hexDigit (b.toNat / 16) :: hexDigit (b.toNat % 16) :: hexBytes data := rfl

theorem hexBytes_inj {data data' : Bytes} (h : hexBytes data = hexBytes data') : data = data' := by
  induction data generalizing data' with
  | nil =>
    cases data' with
    | nil => rfl
    | cons b' data' =>
      rw [hexBytes_cons] at h
      exact absurd h.symm (List.cons_ne_nil _ _)
  | cons b data ih =>
    cases data' with
    | nil =>
      rw [hexBytes_cons] at h
      exact absurd h (List.cons_ne_nil _ _)
    | cons b' data' =>
      rw [hexBytes_cons, hexBytes_cons, List.cons.injEq, List.cons.injEq] at h
      obtain ⟨hhigh, hlow, hrest⟩ := h
      have hb := UInt8.toNat_lt b
      have hb' := UInt8.toNat_lt b'
      have h1 := hexDigit_inj (by omega) (by omega) hhigh
      have h2 := hexDigit_inj (by omega) (by omega) hlow
      have hbyte : b = b' := UInt8.toNat_inj.mp (by omega)
      rw [hbyte, ih hrest]

theorem utf8_inj {text text' : Text}
    (h : text.flatMap String.utf8EncodeChar = text'.flatMap String.utf8EncodeChar) :
    text = text' := by
  have he : text.utf8Encode = text'.utf8Encode := congrArg List.toByteArray h
  have hd := congrArg ByteArray.utf8Decode? he
  rw [List.utf8Decode?_utf8Encode, List.utf8Decode?_utf8Encode] at hd
  exact congrArg Array.toList (Option.some.inj hd)

/-- **The file determines** the two addresses and the text. -/
theorem sdsDocument_inj {source source' destination destination' : ℕ} {text text' : Text}
    (h : sdsDocument source destination text = sdsDocument source' destination' text') :
    source = source' ∧ destination = destination' ∧ text = text' := by
  unfold sdsDocument at h
  simp only [List.append_assoc] at h
  have h1 := List.append_cancel_left h
  obtain ⟨hs, h2⟩ := decimal_append_inj (by decide) h1
  have h3 := @List.append_cancel_left _ (ascii "targetRid: ".toList) _ _ h2
  obtain ⟨hd, h4⟩ := decimal_append_inj (by decide) h3
  have h5 := @List.append_cancel_left _ (ascii "textHex: \"".toList) _ _ h4
  have h6 := List.append_cancel_right h5
  exact ⟨hs, hd, utf8_inj (hexBytes_inj h6)⟩

/-- The identifier as it is printed: the first three groups have their bytes reversed. -/
def uuidText (wire : Bytes) : Bytes :=
  let group (from_ count : ℕ) : Bytes := (wire.drop from_).take count
  if wire.length ≠ 16 then hexBytes wire
  else hexBytes (group 0 4).reverse ++ ascii ['-'] ++ hexBytes (group 4 2).reverse ++ ascii ['-'] ++
    hexBytes (group 6 2).reverse ++ ascii ['-'] ++ hexBytes (group 8 2) ++ ascii ['-'] ++
    hexBytes (group 10 6)

/-- The name of the file. -/
def sdsPath (millis : ℕ) (callUuid : Bytes) : Bytes :=
  ascii "brew-sds-".toList ++ decimal millis ++ ascii ['-'] ++ uuidText callUuid ++
    ascii ".yaml".toList

end Brew
