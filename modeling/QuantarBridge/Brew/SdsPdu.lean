import QuantarBridge.Brew.Sds
import QuantarBridge.Lib.Checked
import QuantarBridge.Lib.Utf16

/-!
# Writing and reading a text message

A type-4 SDS is written bit by bit, and read at bit offsets that depend on the time stamp.

* `BitWriter`, `buildTextSdsType4Pdu`: the writer, `toBytes_bitsOf`: whole bytes are written as they are;
* `pythonDecoder`: the text codings, of which only UTF-16 is more than a table;
* `parse_build`: **the text comes back**, without its outer blanks;
* `Checked.parseTextSdsType4Pdu`: the reader with every access checked, `Checked.parse_eq`: **no access
  leaves the payload**.
-/

set_option autoImplicit false

namespace Brew

open Lib

/-- The sender wants to know that the text was received. -/
def DELIVERY_REPORT_RECEIVED : ℕ := 0x1

/-- The text is for one subscriber. -/
def SERVICE_SELECTION_INDIVIDUAL : ℕ := 0x0

/-- The text is not stored on its way. -/
def STORAGE_FORWARD_NONE : ℕ := 0x0

/-! ## The writer -/

/-- The bits that were written. -/
abbrev BitWriter := List ℕ

namespace BitWriter

/-- Add the lowest bits of a number, the highest of them first. -/
def push (writer : BitWriter) (value width : ℕ) : BitWriter :=
  writer ++ (List.range width).reverse.map fun shift => value >>> shift &&& 1

/-- Add whole bytes. -/
def pushBytes (writer : BitWriter) (data : Bytes) : BitWriter :=
  data.foldl (fun writer byte => writer.push byte.toNat 8) writer

/-- The bits with zeros up to whole bytes. -/
def padded (writer : BitWriter) : BitWriter :=
  writer ++ List.replicate ((8 - writer.length % 8) % 8) 0

/-- The bits in bytes, filled up with zeros. -/
def toBytes (writer : BitWriter) : Bytes :=
  (List.range (writer.padded.length / 8)).map fun i =>
    UInt8.ofNat (((writer.padded.drop (8 * i)).take 8).foldl (fun value bit => 2 * value + bit) 0)

end BitWriter

/-- The message with a reference of eight bits and the text in UTF-16. -/
def buildTextSdsType4Pdu (text : Text) (messageReference : ℤ) : Bytes :=
  let writer : BitWriter := []
  let writer := writer.push PID_TEXT_MESSAGING 8
  let writer := writer.push MESSAGE_TYPE_SDS_TRANSFER 4
  let writer := writer.push DELIVERY_REPORT_RECEIVED 2
  let writer := writer.push SERVICE_SELECTION_INDIVIDUAL 1
  let writer := writer.push STORAGE_FORWARD_NONE 1
  let writer := writer.push (messageReference % 256).toNat 8
  let writer := writer.push 0 1
  let writer := writer.push TEXT_CODING_UTF16BE 7
  (writer.pushBytes (utf16BeEncode text)).toBytes

/-- The decoders, with the tables of the codings of eight bits. -/
def pythonDecoder (tables : Decoder) : Decoder
  | .utf_16_be => utf16BeDecode
  | codec => tables codec

section Writer

/-- The bits of bytes. -/
def bitsOf (data : Bytes) : BitWriter := BitWriter.pushBytes [] data

theorem pushBytes_eq (writer : BitWriter) (data : Bytes) :
    writer.pushBytes data = writer ++ bitsOf data := by
  unfold bitsOf
  induction data generalizing writer with
  | nil => exact (List.append_nil _).symm
  | cons b data ih =>
    show (writer.push b.toNat 8).pushBytes data = writer ++ (BitWriter.push [] b.toNat 8).pushBytes data
    rw [ih, ih (BitWriter.push [] b.toNat 8), ← List.append_assoc]
    rfl

theorem bitsOf_cons (b : UInt8) (data : Bytes) :
    bitsOf (b :: data) = BitWriter.push [] b.toNat 8 ++ bitsOf data :=
  pushBytes_eq (BitWriter.push [] b.toNat 8) data

theorem length_bitsOf (data : Bytes) : (bitsOf data).length = 8 * data.length := by
  induction data with
  | nil => rfl
  | cons b data ih =>
    rw [bitsOf_cons, List.length_append, ih, List.length_cons]
    show 8 + 8 * data.length = 8 * (data.length + 1)
    omega

theorem byte_of_bits (b : UInt8) :
    UInt8.ofNat ((BitWriter.push [] b.toNat 8).foldl (fun value bit => 2 * value + bit) 0) = b := by
  have h : ∀ k : Fin 256, UInt8.ofNat
      ((BitWriter.push [] k.val 8).foldl (fun value bit => 2 * value + bit) 0) = UInt8.ofNat k := by
    decide +kernel
  exact (h ⟨b.toNat, b.toNat_lt⟩).trans UInt8.ofNat_toNat

/-- **Whole bytes** are written as they are. -/
theorem toBytes_bitsOf (data : Bytes) : (bitsOf data).toBytes = data := by
  have hpadded : ∀ data, (bitsOf data).padded = bitsOf data := by
    intro data
    unfold BitWriter.padded
    rw [length_bitsOf, show (8 - 8 * data.length % 8) % 8 = 0 by omega]
    exact List.append_nil _
  induction data with
  | nil => rfl
  | cons b data ih =>
    have hrest := ih
    unfold BitWriter.toBytes at hrest ⊢
    rw [hpadded, length_bitsOf, Nat.mul_div_cancel_left _ (show 0 < 8 by omega)] at hrest ⊢
    rw [List.length_cons, List.range_succ_eq_map, List.map_cons, List.map_map]
    refine congrArg₂ List.cons ?_ ((List.map_congr_left fun i _ => ?_).trans hrest)
    · rw [bitsOf_cons]
      exact byte_of_bits b
    · show UInt8.ofNat ((((bitsOf (b :: data)).drop (8 * (i + 1))).take 8).foldl _ 0) = _
      have hdrop : (bitsOf (b :: data)).drop (8 * (i + 1)) = (bitsOf data).drop (8 * i) := by
        rw [bitsOf_cons, show 8 * (i + 1) = (BitWriter.push [] b.toNat 8).length + 8 * i from
          (show 8 * (i + 1) = 8 + 8 * i by omega), List.drop_length_add_append]
      rw [hdrop]

/-- **The bytes of a message**: four in front of the text. -/
theorem build_eq (text : Text) (messageReference : ℤ) :
    buildTextSdsType4Pdu text messageReference =
      0x82 :: 0x04 :: UInt8.ofNat (messageReference % 256).toNat :: 0x1A :: utf16BeEncode text := by
  have href : (UInt8.ofNat (messageReference % 256).toNat).toNat = (messageReference % 256).toNat := by
    rw [UInt8.toNat_ofNat']
    omega
  have hbits : (bitsOf [0x82, 0x04, UInt8.ofNat (messageReference % 256).toNat, 0x1A]).pushBytes
      (utf16BeEncode text) = bitsOf (0x82 :: 0x04 :: UInt8.ofNat (messageReference % 256).toNat ::
        0x1A :: utf16BeEncode text) := by
    rw [pushBytes_eq, bitsOf_cons, bitsOf_cons, bitsOf_cons, bitsOf_cons, bitsOf_cons, bitsOf_cons,
      bitsOf_cons, bitsOf_cons]
    simp only [List.append_assoc]
    rfl
  rw [← toBytes_bitsOf (_ :: _), ← hbits]
  unfold bitsOf BitWriter.pushBytes
  simp only [List.foldl_cons, List.foldl_nil, href]
  rfl

end Writer

/-! ## The reader -/

theorem readBits_succ (payload : Bytes) (offset count : ℕ) : readBits payload offset (count + 1) =
    2 * readBits payload offset count + bitAt payload (offset + count) := by
  unfold readBits
  rw [List.range_succ, List.foldl_append]
  rfl

theorem readBits_inside (payload : Bytes) (k i : ℕ) {count : ℕ} (h : i + count ≤ 8) :
    readBits payload (8 * k + i) count =
      (payload.getD k 0).toNat / 2 ^ (8 - (i + count)) % 2 ^ count := by
  induction count with
  | zero => exact (Nat.mod_one _).symm
  | succ count ih =>
    have hshift : 8 - (i + count) = 7 - (i + count) + 1 := by omega
    have hbit : bitAt payload (8 * k + i + count) =
        (payload.getD k 0).toNat / 2 ^ (7 - (i + count)) % 2 := by
      unfold bitAt
      rw [show (8 * k + i + count) / 8 = k by omega, show (8 * k + i + count) % 8 = i + count by omega]
    rw [readBits_succ, ih (by omega), hbit, hshift, pow_succ, ← Nat.div_div_eq_div_mul,
      show 8 - (i + (count + 1)) = 7 - (i + count) by omega, pow_succ', Nat.mod_mul, Nat.add_comm]

theorem readBits_byte (payload : Bytes) (k : ℕ) :
    readBits payload (8 * k) 8 = (payload.getD k 0).toNat := by
  refine (readBits_inside payload k 0 (show 0 + 8 ≤ 8 by omega)).trans ?_
  rw [Nat.pow_zero, Nat.div_one]
  exact Nat.mod_eq_of_lt (payload.getD k 0).toNat_lt

theorem map_readBits (a b c d : UInt8) (data : Bytes) : ((List.range data.length).map fun i =>
    UInt8.ofNat (readBits (a :: b :: c :: d :: data) (32 + 8 * i) 8)) = data := by
  refine List.ext_getElem (by rw [List.length_map, List.length_range]) fun i hi hi' => ?_
  rw [List.getElem_map, List.getElem_range, show 32 + 8 * i = 8 * (i + 4) by omega, readBits_byte,
    UInt8.ofNat_toNat]
  exact List.getD_eq_getElem _ _ hi'

/-- The text without zeros at its end and blanks at both ends. -/
def sdsText (text : Text) : Text := strip (rstrip (· = Char.ofNat 0) text)

/-- **The text comes back**, without its outer blanks. -/
theorem parse_build (tables : Decoder) (text : Text) (messageReference : ℤ) :
    parseTextSdsType4Pdu (pythonDecoder tables) (buildTextSdsType4Pdu text messageReference)
        ((buildTextSdsType4Pdu text messageReference).length * 8) =
      if sdsText text = [] then none else some (sdsText text) := by
  have htext := map_readBits 0x82 0x04 (UInt8.ofNat (messageReference % 256).toNat) 0x1A
    (utf16BeEncode text)
  have heven := length_utf16BeEncode text
  rw [build_eq]
  generalize hdata : utf16BeEncode text = data at htext heven ⊢
  generalize UInt8.ofNat (messageReference % 256).toNat = reference at htext ⊢
  have hbits : (0x82 :: 0x04 :: reference :: 0x1A :: data : Bytes).length * 8 =
      32 + data.length * 8 := by
    simp only [List.length_cons]
    omega
  have hprotocol : readBits (0x82 :: 0x04 :: reference :: 0x1A :: data) 0 8 = PID_TEXT_MESSAGING :=
    readBits_byte _ 0
  have htype : readBits (0x82 :: 0x04 :: reference :: 0x1A :: data) 8 4 = MESSAGE_TYPE_SDS_TRANSFER :=
    (readBits_inside _ 1 0 (show 0 + 4 ≤ 8 by omega)).trans
      (show (0x04 : UInt8).toNat / 2 ^ 4 % 2 ^ 4 = 0 by decide)
  have hstamp : readBits (0x82 :: 0x04 :: reference :: 0x1A :: data) 24 1 = 0 :=
    (readBits_inside _ 3 0 (show 0 + 1 ≤ 8 by omega)).trans
      (show (0x1A : UInt8).toNat / 2 ^ 7 % 2 ^ 1 = 0 by decide)
  have hcoding : readBits (0x82 :: 0x04 :: reference :: 0x1A :: data) 25 7 = TEXT_CODING_UTF16BE :=
    (readBits_inside _ 3 1 (show 1 + 7 ≤ 8 by omega)).trans
      (show (0x1A : UInt8).toNat / 2 ^ 0 % 2 ^ 7 = 0x1A by decide)
  have hcodec : pythonDecoder tables .utf_16_be data = some text := by
    rw [← hdata]
    exact utf16BeDecode_encode text
  unfold parseTextSdsType4Pdu
  simp only [hbits, Nat.min_self, hprotocol, htype, hstamp, hcoding, ne_eq, not_true_eq_false, if_false,
    Nat.zero_ne_one, false_and, if_true, true_and, Nat.add_sub_cancel_left,
    Nat.mul_div_cancel _ (show 0 < 8 by omega), htext]
  rw [if_neg (by omega), if_neg (by omega : ¬ data.length % 2 = 1)]
  by_cases hempty : data = []
  · -- nothing is read behind the first four bytes
    have hnone : sdsText text = [] := by
      rw [hempty] at hcodec
      rw [← Option.some.inj hcodec]
      rfl
    rw [hempty, if_pos (show ([] : Bytes).length * 8 < 8 by decide), if_pos hnone]
  · have hpos := List.length_pos_iff.mpr hempty
    rw [if_neg (by omega), if_neg hempty]
    show (pythonDecoder tables .utf_16_be data >>= fun text => _) = _
    rw [hcodec]
    rfl

/-! ## Every access checked -/

theorem readBits_lt (payload : Bytes) (offset count : ℕ) : readBits payload offset count < 2 ^ count := by
  induction count with
  | zero => exact Nat.one_pos
  | succ count ih =>
    have hbit : bitAt payload (offset + count) < 2 := Nat.mod_lt _ (by omega)
    rw [readBits_succ, pow_succ]
    omega

namespace Checked

/-- Some bits as a number, with every access checked. -/
def readBits (payload : Bytes) (offset count : ℕ) : Checked ℕ :=
  (List.range count).foldlM (fun value i => do
    let byte ← read payload ((offset + i) / 8)
    return 2 * value + byte.toNat / 2 ^ (7 - (offset + i) % 8) % 2) 0

/-- A byte array takes numbers below 256. -/
def readByte (payload : Bytes) (offset : ℕ) : Checked UInt8 := do
  let value ← readBits payload offset 8
  if value < 256 then return UInt8.ofNat value else .error .outOfRange

/-- The text of an SDS payload, whose length is limited to what there is. -/
def parseTextSdsType4Pdu (decode : Decoder) (payload : Bytes) (lengthBits : Option ℤ) :
    Checked (Option Text) :=
  let availableBits : ℤ := payload.length * 8
  let lengthBits := (min (max 0 (lengthBits.getD availableBits)) availableBits).toNat
  if lengthBits < 32 then return none
  else do
    let protocol ← readBits payload 0 8
    if protocol ≠ PID_TEXT_MESSAGING then return none
    else
      let messageType ← readBits payload 8 4
      if messageType ≠ MESSAGE_TYPE_SDS_TRANSFER then return none
      else
        let timestampUsed ← readBits payload 24 1
        if timestampUsed = 1 ∧ lengthBits < 25 + 24 + 7 then return none
        else
          let offset := if timestampUsed = 1 then 25 + 24 else 25
          let coding ← readBits payload offset 7
          let offset := offset + 7
          let textBits := lengthBits - offset
          if textBits < 8 then return none
          else
            let textBytes ← (List.range (textBits / 8)).mapM fun i => readByte payload (offset + 8 * i)
            let codec := if coding = TEXT_CODING_UTF16BE then some .utf_16_be
              else if coding = 0 then none else textCodings8Bit[coding - 1]?
            let textBytes := if coding = TEXT_CODING_UTF16BE ∧ textBytes.length % 2 = 1
              then textBytes.dropLast else textBytes
            if textBytes = [] then return none
            else return do
              let text ← decode (← codec) textBytes
              let text := strip (rstrip (· = Char.ofNat 0) text)
              if text = [] then none else some text

section Checked

variable {payload : Bytes}

theorem readBits_eq {offset count : ℕ} (h : offset + count ≤ 8 * payload.length) :
    readBits payload offset count = .ok (Brew.readBits payload offset count) := by
  induction count with
  | zero => rfl
  | succ count ih =>
    have hbyte : read payload ((offset + count) / 8) = .ok (payload.getD ((offset + count) / 8) 0) :=
      read_of_lt (by omega) 0
    have hrest := ih (by omega)
    unfold readBits at hrest ⊢
    rw [List.range_succ, List.foldlM_append, hrest, readBits_succ]
    show (do let byte ← read payload ((offset + count) / 8); _) >>= _ = _
    rw [hbyte]
    rfl

theorem readByte_eq {offset : ℕ} (h : offset + 8 ≤ 8 * payload.length) :
    readByte payload offset = .ok (UInt8.ofNat (Brew.readBits payload offset 8)) := by
  unfold readByte
  have hlt : Brew.readBits payload offset 8 < 256 := readBits_lt payload offset 8
  rw [readBits_eq h, ok_bind, if_pos hlt]
  rfl

/-- **No access leaves the payload**, whatever length is given. -/
theorem parse_eq (decode : Decoder) (payload : Bytes) (lengthBits : Option ℤ) :
    parseTextSdsType4Pdu decode payload lengthBits = .ok (Brew.parseTextSdsType4Pdu decode payload
      ((lengthBits.map Int.toNat).getD (payload.length * 8))) := by
  have hlength : (min (max 0 (lengthBits.getD (payload.length * 8))) (payload.length * 8 : ℤ)).toNat =
      min ((lengthBits.map Int.toNat).getD (payload.length * 8)) (payload.length * 8) := by
    cases lengthBits with
    | none =>
      show (min (max 0 (payload.length * 8 : ℤ)) (payload.length * 8 : ℤ)).toNat =
        min (payload.length * 8) (payload.length * 8)
      omega
    | some l =>
      show (min (max 0 l) (payload.length * 8 : ℤ)).toNat = min l.toNat (payload.length * 8)
      omega
  unfold parseTextSdsType4Pdu Brew.parseTextSdsType4Pdu
  dsimp only
  rw [hlength]
  generalize hbits : min ((lengthBits.map Int.toNat).getD (payload.length * 8)) (payload.length * 8) = bits
  have havailable : bits ≤ 8 * payload.length := by omega
  by_cases hshort : bits < 32
  · rw [if_pos hshort, if_pos hshort]
    rfl
  rw [if_neg hshort, if_neg hshort, readBits_eq (by omega), ok_bind]
  by_cases hprotocol : Brew.readBits payload 0 8 ≠ PID_TEXT_MESSAGING
  · rw [if_pos hprotocol, if_pos hprotocol]
    rfl
  rw [if_neg hprotocol, if_neg hprotocol, readBits_eq (by omega), ok_bind]
  by_cases htype : Brew.readBits payload 8 4 ≠ MESSAGE_TYPE_SDS_TRANSFER
  · rw [if_pos htype, if_pos htype]
    rfl
  rw [if_neg htype, if_neg htype, readBits_eq (by omega), ok_bind]
  by_cases hstamp : Brew.readBits payload 24 1 = 1 ∧ bits < 25 + 24 + 7
  · rw [if_pos hstamp, if_pos hstamp]
    rfl
  rw [if_neg hstamp, if_neg hstamp]
  -- the coding ends where the text begins, with a time stamp or without one
  have hoffset : (if Brew.readBits payload 24 1 = 1 then 25 + 24 else 25) + 7 ≤ bits := by
    split_ifs with hused
    · have := not_and.mp hstamp hused
      omega
    · omega
  generalize (if Brew.readBits payload 24 1 = 1 then 25 + 24 else 25) = offset at hoffset ⊢
  rw [readBits_eq (by omega), ok_bind]
  by_cases htext : bits - (offset + 7) < 8
  · rw [if_pos htext, if_pos htext]
    rfl
  rw [if_neg htext, if_neg htext, mapM_ok fun i hi => readByte_eq (by
    have := List.mem_range.mp hi
    omega), ok_bind]
  split_ifs <;> rfl

end Checked

end Checked

/-- **A text message** is read as it was written, and no payload makes the reader leave it. -/
theorem sdsPdu_roundTrip (tables : Decoder) :
    (∀ (text : Text) (messageReference : ℤ), Checked.parseTextSdsType4Pdu (pythonDecoder tables)
        (buildTextSdsType4Pdu text messageReference) none =
      .ok (if sdsText text = [] then none else some (sdsText text))) ∧
    ∀ (payload : Bytes) (lengthBits : Option ℤ), ∃ result,
      Checked.parseTextSdsType4Pdu (pythonDecoder tables) payload lengthBits = .ok result := by
  refine ⟨fun text messageReference => ?_, fun payload lengthBits => ⟨_, Checked.parse_eq _ _ _⟩⟩
  rw [Checked.parse_eq]
  exact congrArg Except.ok (parse_build tables text messageReference)

end Brew
