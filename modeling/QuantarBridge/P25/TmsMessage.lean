import QuantarBridge.Lib.Utf16
import QuantarBridge.P25.Host
import QuantarBridge.P25.ValidPacket
import QuantarBridge.Sms.Tms

/-!
# Reading text messages

A text message has an address in UTF-16, a byte with its number, and a text in UTF-16. The data host
reads the texts of the radios with `parseMotorolaTmsMessagePacket`, which looks for the parts and is
content with less than the format asks for.

* `readTmsText`: the payload as the format lays it out;
* `readTmsText_tmsPayload`: a text in UTF-16 is read back;
* `parseMotorolaTmsMessagePacket`: the data host, `parse_tmsPayload`: what it reads.
-/

set_option autoImplicit false

namespace P25

open Lib PacketData Sms

/-! ## The format -/

/-- What a text message says. -/
structure TmsText where
  senderRid : ℕ
  messageId : ℕ
  text : List Char
  deriving DecidableEq

/-- A radio id in decimal digits. -/
def readRid (digits : List Char) : Option ℕ :=
  if digits ≠ [] ∧ digits.all (·.isDigit) then
    some (digitsValue (digits.map fun c => c.toNat - 48))
  else none

/-- The length, the operation, the address with its length, the number and the text. -/
def readTmsText (payload : Bytes) : Option TmsText :=
  if payload.length < 4 ∨ readUint16 payload 0 + 2 ≠ payload.length ∨ payload.getD 2 0 ≠ 0xE0
  then none
  else
    let addressLength := (payload.getD 3 0).toNat
    match (payload.drop 4).drop addressLength with
    | number :: encoding :: text =>
      if number &&& 0x80 = 0 ∨ encoding ≠ 0x04 then none
      else do
        let address ← decodeUtf16 (unitsLe ((payload.drop 4).take addressLength))
        let senderRid ← readRid address
        let text ← decodeUtf16 (unitsLe text)
        return ⟨senderRid, (number &&& 0x1F).toNat, text⟩
    | _ => none

/-! ## The data host -/

/-- The operation of a plain text message. -/
def isSimpleTextOperation (operation : UInt8) : Bool :=
  operation &&& 0x80 ≠ 0 ∧ operation &&& 0x1F = 0

/-- The operation is the third byte, or the first of the first bytes that can be one. -/
def operationOffset (message : Bytes) : Option ℕ :=
  if 2 < message.length ∧ isSimpleTextOperation (message.getD 2 0) then some 2
  else (List.range (min message.length 12 - 1)).find? fun i =>
    isSimpleTextOperation (message.getD i 0)

/-- The address in one byte a character, also when it was sent in two. -/
def addressText (address : Bytes) : Bytes :=
  if 2 ≤ address.length ∧ address.length % 2 = 0 ∧ ∀ u ∈ unitsLe address, u < 256 then
    ((unitsLe address).filter (· ≠ 0)).map UInt8.ofNat
  else address

/-- A decimal address as a number, cut to 32 bits. One that does not fit 64 bits is zero. -/
def addressRid (address : Bytes) : ℕ :=
  if address ≠ [] ∧ address.all (fun c => 0x30 ≤ c ∧ c ≤ 0x39) then
    let value := digitsValue (address.map fun c => c.toNat - 48)
    if value < 2 ^ 64 then value % 2 ^ 32 else 0
  else 0

/-- The first byte that can be a number in front of a UTF-16 text, and the text. -/
def findEncoding : Bytes → Option (UInt8 × Bytes)
  | number :: encoding :: rest =>
    if number &&& 0x80 ≠ 0 ∧ encoding &&& 0x1F = 0x04 then some (number, rest)
    else findEncoding (encoding :: rest)
  | _ => none

/-- The text without a line break in front of it. -/
def skipLineBreak : Bytes → Bytes
  | a :: b :: c :: d :: rest =>
    if a = 0x0D ∧ b = 0x00 ∧ c = 0x0A ∧ d = 0x00 then rest else a :: b :: c :: d :: rest
  | text => text

/-- The bytes of a code point. -/
def appendUtf8 (codePoint : ℕ) : Bytes := utf8 codePoint

/-- The address, the operation, the number and the text of a payload. -/
def parseTmsMessage (payload : Bytes) : Option (Bytes × UInt8 × UInt8 × Bytes) :=
  let declaredLength := readUint16 payload 0
  let messageEnd := if 4 ≤ declaredLength ∧ declaredLength + 2 ≤ payload.length
    then declaredLength + 2 else payload.length
  let message := payload.take messageEnd
  (operationOffset message).bind fun i =>
    let addressLength := (message.getD (i + 1) 0).toNat
    let addressed := message.drop (i + 2)
    if message.length < i + 2 ∨ addressed.length < addressLength then none
    else (findEncoding (addressed.drop addressLength)).bind fun (number, text) =>
      let text := ((unitsLe (skipLineBreak text)).takeWhile (· ≠ 0)).flatMap appendUtf8
      if text = [] then none
      else some (addressText (addressed.take addressLength), message.getD i 0, number, text)

/-- The text of a packet from a subscriber. -/
def parseMotorolaTmsMessagePacket (data : Bytes) (subscriberIp : ℕ) : Option MotorolaTmsMessage :=
  if data.length < 34 ∨ data.getD 0 0 ≠ 0x45 ∨ data.length < readUint16 data 2 ∨
      data.getD 9 0 ≠ 0x11 ∨ readUint32BE data 12 ≠ subscriberIp ∨
      readUint16 data 20 ≠ kMotorolaTmsPort ∨ readUint16 data 22 ≠ kMotorolaTmsPort ∨
      checksum16 (data.take 20) ≠ 0 then none
  else
    let udpLength := readUint16 data 24
    if udpLength < 14 ∨ data.length < 20 + udpLength then none
    else (parseTmsMessage ((data.drop 28).take (udpLength - 8))).map
      fun (address, operation, number, text) =>
        { targetRid := addressRid address
          sourceIp := readUint32BE data 12
          targetIp := readUint32BE data 16
          operation := operation.toNat
          messageId := (number &&& 0x1F).toNat
          text := text }

/-! ## What is read -/

/-- The payload of a text in two bytes a unit. -/
def tmsPayload (messageId : ℕ) (address text : Bytes) : Bytes :=
  let body := [0xE0, UInt8.ofNat (2 * address.length)] ++ wide address ++
    [UInt8.ofNat (0x80 ||| messageId % 32), 0x04] ++ text
  bytes16 body.length ++ body

theorem tmsInboundPayload_eq (messageId : ℕ) {address : Bytes} (h : address.length ≤ 0x7F)
    (text : Bytes) :
    tmsInboundPayload messageId address text = tmsPayload messageId address (wide text) := by
  unfold tmsInboundPayload tmsPayload
  rw [List.take_of_length_le h]

theorem length_wide (text : Bytes) : (wide text).length = 2 * text.length := by
  induction text with
  | nil => rfl
  | cons c text ih =>
    show (wide text).length + 1 + 1 = 2 * (text.length + 1)
    omega

@[simp]
theorem unitsLe_wide (text : Bytes) : unitsLe (wide text) = text.map UInt8.toNat := by
  induction text with
  | nil => rfl
  | cons c text ih =>
    show (c.toNat + 0 * 256) :: unitsLe (wide text) = c.toNat :: text.map UInt8.toNat
    rw [ih, Nat.zero_mul, Nat.add_zero]

theorem length_decimal_le {rid : ℕ} (h : rid < 2 ^ 32) : (decimal rid).length ≤ 10 := by
  unfold decimal
  rw [List.length_map]
  exact length_decimalDigits_le (by decide) (by omega)

theorem number_byte (messageId : ℕ) : UInt8.ofNat (0x80 ||| messageId % 32) &&& 0x80 ≠ 0 ∧
    (UInt8.ofNat (0x80 ||| messageId % 32) &&& 0x1F).toNat = messageId % 32 := by
  have h : ∀ n : Fin 32, UInt8.ofNat (0x80 ||| n) &&& 0x80 ≠ 0 ∧
      (UInt8.ofNat (0x80 ||| n) &&& 0x1F).toNat = n := by decide
  exact h ⟨messageId % 32, Nat.mod_lt _ (by decide)⟩

section Payload

variable {rid : ℕ} {text : Bytes} (messageId : ℕ)

/-- The parts of a payload. -/
structure Laid (messageId : ℕ) (address text payload : Bytes) : Prop where
  length : readUint16 payload 0 + 2 = payload.length
  operation : payload.getD 2 0 = 0xE0
  addressLength : (payload.getD 3 0).toNat = (wide address).length
  body : payload.drop 4 =
    wide address ++ (UInt8.ofNat (0x80 ||| messageId % 32) :: 0x04 :: text)

theorem laid_tmsPayload (address text : Bytes) (haddress : address.length ≤ 0x7F)
    (h : text.length < 65000) : Laid messageId address text (tmsPayload messageId address text) := by
  unfold tmsPayload
  dsimp only
  refine ⟨?_, rfl, ?_, ?_⟩
  · rw [readUint16_bytes16]
    · simp only [List.length_append, length_bytes16]
      omega
    · simp only [List.length_append, length_wide, List.length_cons, List.length_nil]
      omega
  · show (UInt8.ofNat (2 * address.length)).toNat = _
    rw [length_wide, UInt8.toNat_ofNat', Nat.mod_eq_of_lt (by omega)]
  · show wide address ++ _ ++ text = _
    simp

theorem Laid.length_eq {messageId : ℕ} {address text payload : Bytes}
    (h : Laid messageId address text payload) :
    payload.length = 4 + ((wide address).length + (text.length + 2)) := by
  have hlength := congrArg List.length h.body
  simp only [List.length_drop, List.length_append, List.length_cons] at hlength
  omega

theorem readRid_decimal (rid : ℕ) :
    readRid ((decimal rid).map fun c => Char.ofNat c.toNat) = some rid := by
  have hvalue : ((decimal rid).map fun c => Char.ofNat c.toNat).map (fun c => c.toNat - 48) =
      decimalDigits rid := by
    unfold decimal
    rw [List.map_map, List.map_map]
    conv_rhs => rw [← List.map_id (decimalDigits rid)]
    refine List.map_congr_left fun d hd => ?_
    have hdigit : ∀ n : Fin 10, (Char.ofNat (digitByte n).toNat).toNat - 48 = n := by decide
    exact hdigit ⟨d, decimalDigits_lt hd⟩
  unfold readRid
  rw [if_pos, hvalue, digitsValue_decimalDigits]
  refine ⟨?_, ?_⟩
  · simpa using decimal_ne_nil rid
  · simp only [List.all_eq_true, List.mem_map, decimal]
    rintro c ⟨_, ⟨d, hd, rfl⟩, rfl⟩
    have hdigit : ∀ n : Fin 10, (Char.ofNat (digitByte n).toNat).isDigit = true := by decide
    exact hdigit ⟨d, decimalDigits_lt hd⟩

theorem decodeUtf16_bytes (text : Bytes) :
    decodeUtf16 (text.map UInt8.toNat) = some (text.map fun c => Char.ofNat c.toNat) := by
  rw [decodeUtf16_of_lt, List.map_map]
  · rfl
  · intro u hu
    obtain ⟨c, -, rfl⟩ := List.mem_map.mp hu
    have := c.toNat_lt
    omega

/-- **The format** reads the number, the address and the text back. -/
theorem readTmsText_tmsPayload (hrid : rid < 2 ^ 32) (h : text.length < 65000) :
    readTmsText (tmsPayload messageId (decimal rid) text) =
      (decodeUtf16 (unitsLe text)).map (⟨rid, messageId % 32, ·⟩) := by
  have haddress := length_decimal_le hrid
  have hlaid := laid_tmsPayload messageId (decimal rid) text (by omega) h
  generalize tmsPayload messageId (decimal rid) text = payload at hlaid ⊢
  have hlength := hlaid.length_eq
  obtain ⟨hmarked, hnumber⟩ := number_byte messageId
  unfold readTmsText
  rw [if_neg]
  · dsimp only
    rw [hlaid.addressLength, hlaid.body, List.drop_left, List.take_left, unitsLe_wide,
      decodeUtf16_bytes]
    dsimp only
    rw [if_neg]
    · simp only [Option.bind_eq_bind, Option.bind_some, readRid_decimal, hnumber]
      cases decodeUtf16 (unitsLe text) <;> rfl
    · rintro (h | h)
      · exact hmarked h
      · exact h rfl
  · rintro (h | h | h)
    · omega
    · exact h hlaid.length
    · exact h hlaid.operation

/-! ## What the data host reads -/

/-- The text that the data host reads of bytes in two bytes each: without a line break in front, up to
a zero, and each byte as a character. -/
def hostText (text : Bytes) : Bytes :=
  let text := if [0x0D, 0x0A].isPrefixOf text then text.drop 2 else text
  (text.takeWhile (· ≠ 0)).flatMap fun c => appendUtf8 c.toNat

theorem skipLineBreak_wide (text : Bytes) : skipLineBreak (wide text) =
    wide (if [0x0D, 0x0A].isPrefixOf text then text.drop 2 else text) := by
  match text with
  | [] => rfl
  | [a] =>
    have hshort : [0x0D, 0x0A].isPrefixOf [a] = false := by simp [List.isPrefixOf]
    rw [hshort]
    rfl
  | a :: b :: text =>
    by_cases h : a = 0x0D ∧ b = 0x0A
    · obtain ⟨rfl, rfl⟩ := h
      rfl
    · rw [if_neg]
      · show (if a = 0x0D ∧ (0 : UInt8) = 0 ∧ b = 0x0A ∧ (0 : UInt8) = 0 then _ else _) = _
        rw [if_neg]
        · rfl
        · rintro ⟨ha, -, hb, -⟩
          exact h ⟨ha, hb⟩
      · simp only [List.isPrefixOf_iff_prefix, List.cons_prefix_cons]
        rintro ⟨ha, hb, -⟩
        exact h ⟨ha.symm, hb.symm⟩

theorem hostText_eq (text : Bytes) : ((unitsLe (skipLineBreak (wide text))).takeWhile
    (· ≠ 0)).flatMap appendUtf8 = hostText text := by
  rw [skipLineBreak_wide, unitsLe_wide, List.takeWhile_map, List.flatMap_map]
  unfold hostText
  have hzero : ∀ c : UInt8, decide (c.toNat ≠ 0) = decide (c ≠ 0) := by
    intro c
    simp only [ne_eq, decide_not, ← UInt8.toNat_inj, UInt8.toNat_zero]
  simp only [Function.comp_def, hzero]

theorem addressText_wide (rid : ℕ) : addressText (wide (decimal rid)) = decimal rid := by
  have hpos := List.length_pos_iff.mpr (decimal_ne_nil rid)
  have hwide := length_wide (decimal rid)
  unfold addressText
  rw [if_pos, unitsLe_wide, List.filter_eq_self.mpr, List.map_map]
  · simp [Function.comp_def]
  · intro u hu
    obtain ⟨c, hc, rfl⟩ := List.mem_map.mp hu
    have := (decimal_bounds hc).1
    exact decide_eq_true (by omega)
  · refine ⟨by omega, by omega, fun u hu => ?_⟩
    rw [unitsLe_wide] at hu
    obtain ⟨c, -, rfl⟩ := List.mem_map.mp hu
    exact c.toNat_lt

theorem addressRid_decimal {rid : ℕ} (hrid : rid < 2 ^ 32) : addressRid (decimal rid) = rid := by
  have hvalue : digitsValue ((decimal rid).map fun c => c.toNat - 48) = rid := by
    have hdigits : (decimal rid).map (fun c => c.toNat - 48) =
        (Bytes.nats (decimal rid)).map (· - 48) := by
      rw [Bytes.nats, List.map_map]
      rfl
    rw [hdigits, nats_decimal, List.map_map]
    have hid : ((· - 48) ∘ (48 + ·) : ℕ → ℕ) = id := by
      funext d
      exact Nat.add_sub_cancel_left 48 d
    rw [hid, List.map_id, digitsValue_decimalDigits]
  unfold addressRid
  rw [if_pos]
  · dsimp only
    rw [hvalue, if_pos (by omega), Nat.mod_eq_of_lt hrid]
  · refine ⟨decimal_ne_nil rid, List.all_eq_true.mpr fun c hc => ?_⟩
    have hbounds := decimal_bounds hc
    rw [decide_eq_true_iff, UInt8.le_iff_toNat_le, UInt8.le_iff_toNat_le]
    exact ⟨hbounds.1, by show c.toNat ≤ 57; omega⟩

/-- **The payload** as the data host reads it. -/
theorem parseTmsMessage_tmsPayload (hrid : rid < 2 ^ 32) (h : text.length < 65000) :
    parseTmsMessage (tmsPayload messageId (decimal rid) text) =
      let lines := ((unitsLe (skipLineBreak text)).takeWhile (· ≠ 0)).flatMap appendUtf8
      if lines = [] then none
      else some (decimal rid, 0xE0, UInt8.ofNat (0x80 ||| messageId % 32), lines) := by
  have haddress := length_decimal_le hrid
  have hlaid := laid_tmsPayload messageId (decimal rid) text (by omega) h
  generalize tmsPayload messageId (decimal rid) text = payload at hlaid ⊢
  have hlength := hlaid.length_eq
  obtain ⟨hmarked, hnumber⟩ := number_byte messageId
  have hend : (if 4 ≤ readUint16 payload 0 ∧ readUint16 payload 0 + 2 ≤ payload.length
      then readUint16 payload 0 + 2 else payload.length) = payload.length := by
    rw [hlaid.length]
    split_ifs <;> rfl
  have hoffset : operationOffset payload = some 2 := by
    unfold operationOffset
    rw [if_pos ⟨by omega, by rw [hlaid.operation]; rfl⟩]
  have hbehind : findEncoding (UInt8.ofNat (0x80 ||| messageId % 32) :: 0x04 :: text) =
      some (UInt8.ofNat (0x80 ||| messageId % 32), text) := by
    rw [findEncoding, if_pos ⟨hmarked, by decide⟩]
  unfold parseTmsMessage
  dsimp only
  rw [hend, List.take_length, hoffset, Option.bind_some, if_neg]
  · show (findEncoding ((payload.drop 4).drop (payload.getD 3 0).toNat)).bind _ = _
    rw [hlaid.addressLength, hlaid.body, List.drop_left, List.take_left, hbehind,
      addressText_wide, hlaid.operation]
    rfl
  · show ¬ (payload.length < 4 ∨ (payload.drop 4).length < (payload.getD 3 0).toNat)
    rw [hlaid.addressLength, List.length_drop]
    omega

/-- **The packet** as the data host reads it, with a payload of its own format. -/
theorem parse_tmsPayload {sourceIp targetIp : ℕ} {packet : Bytes} (hrid : rid < 2 ^ 32)
    (h : text.length < 65000) (hpacket : ValidPacket sourceIp targetIp kMotorolaTmsPort
      (tmsPayload messageId (decimal rid) text) packet) :
    parseMotorolaTmsMessagePacket packet sourceIp =
      let lines := ((unitsLe (skipLineBreak text)).takeWhile (· ≠ 0)).flatMap appendUtf8
      if lines = [] then none
      else some ⟨rid, sourceIp, targetIp, 0xE0, messageId % 32, lines⟩ := by
  have hlaid := laid_tmsPayload messageId (decimal rid) text
    (by have := length_decimal_le hrid; omega) h
  have hlength := hlaid.length_eq
  have hdrop := congrArg List.length hpacket.payload
  have hwide := length_wide (decimal rid)
  have hpos := List.length_pos_iff.mpr (decimal_ne_nil rid)
  rw [List.length_drop] at hdrop
  have hudp := hpacket.udpLength
  have htake : (packet.drop 28).take (readUint16 packet 24 - 8) =
      tmsPayload messageId (decimal rid) text := by
    rw [hpacket.payload]
    exact List.take_of_length_le (by omega)
  unfold parseMotorolaTmsMessagePacket
  rw [if_neg]
  · dsimp only
    rw [if_neg (by omega), htake, parseTmsMessage_tmsPayload messageId hrid h]
    dsimp only
    split_ifs
    · rfl
    · rw [Option.map_some, addressRid_decimal hrid, hpacket.source, hpacket.target,
        (number_byte messageId).2]
      rfl
  · have htotal := hpacket.total
    rintro (h | h | h | h | h | h | h | h)
    · omega
    · exact h hpacket.version
    · omega
    · exact h hpacket.protocol
    · exact h hpacket.source
    · exact h hpacket.ports.1
    · exact h hpacket.ports.2
    · exact h hpacket.ipChecksum

end Payload

end P25
