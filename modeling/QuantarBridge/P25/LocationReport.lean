import QuantarBridge.P25.Packets

/-!
# Location reports of the radios

A radio sends its location reports to the registration server. The data host checks the packet and
goes through the fields of the report until it finds coordinates or a field that it does not know.

* `readMotorolaVlq`: a number in groups of seven bits;
* `walkReport`: the fields of a report;
* `parseMotorolaLocationReport`: the report of a packet, and whether it has coordinates.
-/

set_option autoImplicit false

namespace P25

open Lib PacketData Sms

/-- The port of the location service. -/
def kMotorolaP25LocationPort : ℕ := 49198

/-- The result code of a report without one. -/
def kMotorolaLrrpResultUnknown : ℕ := 0xFFFFFFFF

/-- The 32-bit field at an offset, most significant byte first. -/
def readUint32BE (data : Bytes) (offset : ℕ) : ℕ :=
  readUint16 data offset * 65536 + readUint16 data (offset + 2)

/-- A number of at most `fuel` more bytes, and how many it takes. It must stay below 32 bits. -/
def readMotorolaVlq : ℕ → ℕ → ℕ → Bytes → Option (ℕ × ℕ)
  | 0, _, _, _ => none
  | _, _, _, [] => none
  | fuel + 1, value, bytesRead, byte :: rest =>
    if 0x01FFFFFF < value then none
    else
      let value := value * 128 + (byte &&& 0x7F).toNat
      if byte &&& 0x80 = 0 then some (value, bytesRead + 1)
      else readMotorolaVlq fuel value (bytesRead + 1) rest

/-- Whether a token starts coordinates: a circle, a sphere, a point, a point with altitude. -/
def isPositionToken (token : UInt8) : Bool :=
  token = 0x51 ∨ token = 0x55 ∨ token = 0x66 ∨ token = 0x69

/-- Go through the fields. Each turn takes at least one byte, so as many turns as bytes are enough.
A malformed field makes the report invalid. -/
def walkReport : ℕ → ℕ → Bytes → Option (Bool × ℕ)
  | 0, resultCode, _ => some (false, resultCode)
  | _, resultCode, [] => some (false, resultCode)
  | fuel + 1, resultCode, report@(token :: rest) =>
    if token = 0x34 then
      if report.length < 6 then none else walkReport fuel resultCode (report.drop 6)
    else if token = 0x37 then
      match readMotorolaVlq 5 0 0 rest with
      | none => none
      | some (value, bytesRead) => walkReport fuel value (report.drop (1 + bytesRead))
    else if isPositionToken token then
      if report.length < 9 then none else some (true, resultCode)
    else if token = 0x56 then
      if report.length < 2 then none else walkReport fuel resultCode (report.drop 2)
    else some (false, resultCode)

/-- A report that the data host accepts. -/
structure LocationReport where
  reportType : UInt8
  sourcePort : ℕ
  hasPosition : Bool
  resultCode : ℕ
  deriving DecidableEq

/-- The fields behind the request id of a report, which must not be cut off. -/
def reportFields (fields : Bytes) : Option Bytes :=
  if 2 ≤ fields.length ∧ fields.getD 0 0 = 0x22 then
    let requestIdLength := (fields.getD 1 0).toNat
    if fields.length < 2 + requestIdLength then none else some (fields.drop (2 + requestIdLength))
  else some fields

/-- The ports of a location report. -/
def locationPorts (sourcePort targetPort : ℕ) : Prop :=
  (sourcePort = kMotorolaP25LocationPort ∧ targetPort = kMotorolaP25LocationPort) ∨
    (sourcePort = kMotorolaLegacyLocationPort ∧ targetPort = kMotorolaLegacyLocationPort)

instance (sourcePort targetPort : ℕ) : Decidable (locationPorts sourcePort targetPort) :=
  inferInstanceAs (Decidable (_ ∨ _))

/-- The checksum of a datagram is absent or right. -/
def udpChecksumValid (data udp : Bytes) (udpLength : ℕ) : Prop :=
  readUint16 udp 6 = 0 ∨ checksum16 ((data.drop 12).take 8 ++ [0x00, 0x11] ++ bytes16 udpLength ++
    udp.take udpLength) = 0

instance (data udp : Bytes) (udpLength : ℕ) : Decidable (udpChecksumValid data udp udpLength) :=
  inferInstanceAs (Decidable (_ ∨ _))

/-- The location report of a packet. -/
def parseMotorolaLocationReport (arsServerIp subscriberIp : ℕ) (data : Bytes) :
    Option LocationReport :=
  if data.length < 30 ∨ data.getD 0 0 >>> 4 ≠ 4 ∨ data.getD 9 0 ≠ 0x11 then none
  else
    let ipHeaderLength := (data.getD 0 0 &&& 0x0F).toNat * 4
    let packetLength := readUint16 data 2
    if ipHeaderLength < 20 ∨ data.length < packetLength ∨ packetLength < ipHeaderLength + 10 ∨
        readUint32BE data 12 ≠ subscriberIp ∨ readUint32BE data 16 ≠ arsServerIp ∨
        checksum16 (data.take ipHeaderLength) ≠ 0 then none
    else
      let udp := data.drop ipHeaderLength
      let sourcePort := readUint16 udp 0
      let udpLength := readUint16 udp 4
      if ¬ locationPorts sourcePort (readUint16 udp 2) ∨ udpLength < 10 ∨
          packetLength < ipHeaderLength + udpLength then none
      else
        let payload := (udp.drop 8).take (udpLength - 8)
        let reportType := payload.getD 0 0 &&& 0x7F
        let reportLength := (payload.getD 1 0).toNat + 2
        if (reportType ≠ 0x07 ∧ reportType ≠ 0x0D) ∨ payload.length < reportLength then none
        else if ¬ udpChecksumValid data udp udpLength then none
        else do
          let fields ← reportFields ((payload.take reportLength).drop 2)
          let found ← walkReport fields.length kMotorolaLrrpResultUnknown fields
          return ⟨reportType, sourcePort, found.1, found.2⟩

end P25
