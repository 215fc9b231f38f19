import QuantarBridge.Sms.IpPacket
import QuantarBridge.Sms.Tms

/-!
# Payloads of outgoing messages

* `hexToBytes`, `encodeUtf16Le`: the texts of an outbox file as bytes;
* `buildMotorolaArsPayload`, `buildMotorolaTmsPayload`: registration and text messages;
* `extractMotorolaLrrpPayload`: the location report of a captured packet;
* `motorolaRadioIp`: the address of a radio.
-/

set_option autoImplicit false

namespace Sms

open Lib PacketData

/-! ## Texts -/

/-- The value of a hexadecimal digit. -/
def nibble (c : UInt8) : Option ℕ :=
  if 0x30 ≤ c ∧ c ≤ 0x39 then some (c.toNat - 0x30)
  else if 0x61 ≤ c ∧ c ≤ 0x66 then some (10 + (c.toNat - 0x61))
  else if 0x41 ≤ c ∧ c ≤ 0x46 then some (10 + (c.toNat - 0x41))
  else none

/-- Pairs of hexadecimal digits. -/
def hexPairs : Bytes → Option Bytes
  | [] => some []
  | [_] => none
  | a :: b :: rest => do
    let hi ← nibble a
    let lo ← nibble b
    let output ← hexPairs rest
    return UInt8.ofNat (hi * 16 + lo) :: output

/-- The bytes of hexadecimal text, blanks left out. -/
def hexToBytes (hex : Bytes) : Option Bytes := hexPairs (hex.filter fun c => ¬ isBlank c)

/-- A byte that continues a character. -/
def isTail (c : UInt8) : Bool := 0x80 ≤ c ∧ c ≤ 0xBF

/-- The second byte fits the first one of a character of three bytes. -/
def isSecond3 (a b : UInt8) : Bool :=
  isTail b ∧ ¬ (a = 0xE0 ∧ b < 0xA0) ∧ ¬ (a = 0xED ∧ 0x9F < b)

/-- The second byte fits the first one of a character of four bytes. -/
def isSecond4 (a b : UInt8) : Bool :=
  isTail b ∧ ¬ (a = 0xF0 ∧ b < 0x90) ∧ ¬ (a = 0xF4 ∧ 0x8F < b)

/-- The two code units of a character beyond the basic plane. -/
def surrogates (v : ℕ) : List ℕ := [0xD800 + (v - 0x10000) / 1024, 0xDC00 + (v - 0x10000) % 1024]

/-- The UTF-16 code units of UTF-8 text. Malformed text throws. -/
def fromBytes : Bytes → Option (List ℕ)
  | [] => some []
  | a :: rest =>
    if a < 0x80 then (fromBytes rest).map (a.toNat :: ·)
    else match rest with
      | [] => none
      | b :: rest =>
        if 0xC2 ≤ a ∧ a ≤ 0xDF then
          if isTail b then
            (fromBytes rest).map ((a.toNat % 32 * 64 + b.toNat % 64) :: ·)
          else none
        else match rest with
          | [] => none
          | c :: rest =>
            if 0xE0 ≤ a ∧ a ≤ 0xEF then
              if isSecond3 a b ∧ isTail c then
                (fromBytes rest).map
                  ((a.toNat % 16 * 4096 + b.toNat % 64 * 64 + c.toNat % 64) :: ·)
              else none
            else match rest with
              | [] => none
              | d :: rest =>
                if 0xF0 ≤ a ∧ a ≤ 0xF4 ∧ isSecond4 a b ∧ isTail c ∧ isTail d then
                  (fromBytes rest).map (surrogates (a.toNat % 8 * 262144 + b.toNat % 64 * 4096 +
                    c.toNat % 64 * 64 + d.toNat % 64) ++ ·)
                else none

/-- The bytes of a text, two for a code unit. -/
def encodeUtf16Le (text : Bytes) (appendNullTerminator : Bool) : Option Bytes :=
  (fromBytes text).map fun wide =>
    wide.flatMap (fun unit => [UInt8.ofNat unit, UInt8.ofNat (unit / 256)]) ++
      if appendNullTerminator then [0, 0] else []

/-- The letter in lower case. -/
def lower (c : UInt8) : UInt8 := if 0x41 ≤ c ∧ c ≤ 0x5A then c + 0x20 else c

/-- The texts are the same but for the case of their letters. -/
def equalsIgnoreCase (left : Bytes) (right : List Char) : Bool :=
  left.map lower = (ascii right).map lower

/-! ## Motorola messages -/

/-- A registration. -/
def buildMotorolaArsPayload (sourceRid targetRid : ℕ) : Bytes :=
  [0x00, 0x11, 0x72, 0x07] ++ padded 7 sourceRid ++ 0x07 :: padded 7 targetRid

/-- A text message, or nothing when it is too long. The text may throw. -/
def buildMotorolaTmsPayload (sourceRid : ℕ) (text : Bytes) (messageId : UInt8)
    (brandmeisterFormat : Bool) : Option Bytes := do
  let address ← if brandmeisterFormat then some [] else encodeUtf16Le (decimal sourceRid) false
  if 0xFF < address.length then return []
  let body := if brandmeisterFormat then 0x0D :: 0x0A :: text else text
  let textBytes ← encodeUtf16Le body false
  let content := [0xE0, UInt8.ofNat address.length] ++ address ++
    [0x80 ||| (messageId &&& 0x1F), 0x04] ++ textBytes
  return if 0xFFFF < content.length then [] else bytes16 content.length ++ content

/-- The address of a radio. -/
def motorolaRadioIp (rid : ℕ) : Bytes :=
  if rid = 0 ∨ 0x00FFFFFF < rid then []
  else addressToString ⟨12, UInt8.ofNat (rid >>> 16), UInt8.ofNat (rid >>> 8), UInt8.ofNat rid⟩

/-! ## Location reports -/

/-- Skip a number of at most `fuel` bytes whose last one has a clear high bit. -/
def skipMotorolaVlq : ℕ → Bytes → Option Bytes
  | 0, _ => none
  | _, [] => none
  | fuel + 1, b :: rest => if b &&& 0x80 = 0 then some rest else skipMotorolaVlq fuel rest

/-- Skip a field of `length` bytes. -/
def skipField (length : ℕ) (report : Bytes) : Option Bytes :=
  if report.length < length then none else some (report.drop length)

/-- Look for coordinates in a report. Each turn takes at least one byte, so as many turns as bytes
are enough. A malformed field makes the report invalid. -/
def hasLrrpPosition : ℕ → Bytes → Option Bool
  | 0, _ => some false
  | _, [] => some false
  | fuel + 1, report@(tag :: rest) =>
    if tag = 0x34 then do hasLrrpPosition fuel (← skipField 6 report)
    else if tag = 0x37 then do hasLrrpPosition fuel (← skipMotorolaVlq 5 rest)
    else if tag = 0x51 ∨ tag = 0x55 ∨ tag = 0x66 ∨ tag = 0x69 then
      if report.length < 9 then none else some true
    else if tag = 0x56 then do hasLrrpPosition fuel (← skipField 2 report)
    else if tag = 0x6C then do
      hasLrrpPosition fuel (← skipMotorolaVlq 5 (← skipMotorolaVlq 5 rest))
    else some false

/-- The fields behind the request id of a report. -/
def lrrpFields (fields : Bytes) : Option Bytes :=
  match fields with
  | tag :: length :: rest =>
    if tag = 0x22 then skipField length.toNat rest else some fields
  | _ => some fields

/-- The location report of a captured packet, and whether it has coordinates. -/
def extractMotorolaLrrpPayload (packet : Bytes) : Option (Bytes × Bool) :=
  if packet.length < 30 ∨ packet.getD 0 0 >>> 4 ≠ 4 ∨ packet.getD 9 0 ≠ 0x11 then none
  else
    let ipHeaderLength := (packet.getD 0 0 &&& 0x0F).toNat * 4
    let packetLength := readUint16 packet 2
    if ipHeaderLength < 20 ∨ packet.length < packetLength ∨ packetLength < ipHeaderLength + 10 then
      none
    else
      let sourcePort := readUint16 packet ipHeaderLength
      let targetPort := readUint16 packet (ipHeaderLength + 2)
      let udpLength := readUint16 packet (ipHeaderLength + 4)
      let locationPorts := (sourcePort = 49198 ∧ targetPort = 49198) ∨
        (sourcePort = 4001 ∧ targetPort = 4001)
      if ¬ locationPorts ∨ udpLength < 10 ∨ packetLength < ipHeaderLength + udpLength then none
      else
        let lrrp := (packet.drop (ipHeaderLength + 8)).take (udpLength - 8)
        let messageType := lrrp.getD 0 0 &&& 0x7F
        let reportLength := (lrrp.getD 1 0).toNat + 2
        if (messageType ≠ 0x07 ∧ messageType ≠ 0x0D) ∨ lrrp.length < reportLength then none
        else do
          let fields ← lrrpFields ((lrrp.take reportLength).drop 2)
          let hasPosition ← hasLrrpPosition fields.length fields
          return (lrrp, hasPosition)

end Sms
