import QuantarBridge.Sms.IpPacket

/-!
# Packets for the radios

The data host of the P25 side sends its messages to a radio as IPv4 packets with UDP. Each builder is
`udpPacket` with its own identification, port and payload.

* `udpPacket`: the packet with its checksums;
* `buildMotorolaTmsInboundMessage` and the other messages;
* `decodeHexText`: the text of a file in the outbox;
* `fragmentsOf`: a message in pieces that fit a confirmed data unit.
-/

set_option autoImplicit false

namespace P25

open Lib PacketData Sms

/-- The port of the registration service. -/
def kMotorolaArsPort : ℕ := 4005

/-- The port of the text messages. -/
def kMotorolaTmsPort : ℕ := 4007

/-- The port of the older location service. -/
def kMotorolaLegacyLocationPort : ℕ := 4001

/-- The bytes of a fragment. -/
def kMotorolaTmsP25FragmentBytes : ℕ := 76

/-- A 32-bit field, most significant byte first. -/
def bytes32 (value : ℕ) : Bytes := bytes16 (value >>> 16) ++ bytes16 (value % 65536)

/-- The checksum of a header or a datagram. -/
def checksum16 (data : Bytes) : ℕ := checksumFinalize (checksumAccumulate data 0)

/-- The header of a packet with its checksum field. -/
def headerBytes (packetLength identification checksum sourceIp targetIp : ℕ) : Bytes :=
  [0x45, 0x00] ++ bytes16 packetLength ++ bytes16 identification ++ [0, 0, 0x40, 0x11] ++
    bytes16 checksum ++ bytes32 sourceIp ++ bytes32 targetIp

/-- A packet with the same port at both ends. Some builders send a zero checksum as `0xFFFF`. -/
def udpPacket (identification sourceIp targetIp port : ℕ) (payload : Bytes) (nonzero : Bool) :
    Bytes :=
  let udpLength := 8 + payload.length
  let packetLength := 20 + udpLength
  let ipChecksum := checksum16 (headerBytes packetLength identification 0 sourceIp targetIp)
  let pseudo := bytes32 sourceIp ++ bytes32 targetIp ++ [0x00, 0x11] ++ bytes16 udpLength
  let udpChecksum := checksum16 (pseudo ++ udpDatagram port port udpLength 0 payload)
  headerBytes packetLength identification ipChecksum sourceIp targetIp ++
    udpDatagram port port udpLength
      (if nonzero = true ∧ udpChecksum = 0 then 0xFFFF else udpChecksum) payload

/-- The answer to a registration. -/
def buildMotorolaArsSuccess (arsServerIp subscriberIp requestIpId : ℕ) : Bytes :=
  udpPacket ((requestIpId + 1) % 65536) arsServerIp subscriberIp kMotorolaArsPort
    [0x00, 0x02, 0xBF, 0x01] true

/-- The message that text messages are available. -/
def buildMotorolaTmsServiceAvailability (arsServerIp subscriberIp : ℕ) : Bytes :=
  udpPacket 0x5177 arsServerIp subscriberIp kMotorolaTmsPort [0x00, 0x03, 0xF0, 0x00, 0x03] false

/-- The request for a location. -/
def buildMotorolaLocationRequest (arsServerIp subscriberIp requestId : ℕ) : Bytes :=
  udpPacket (requestId % 65536) arsServerIp subscriberIp kMotorolaLegacyLocationPort
    ([0x05, 0x06, 0x22, 0x04] ++ bytes32 requestId) true

/-- The acknowledgement of a text message. -/
def buildMotorolaTmsMessageAcknowledgement (sourceIp targetIp requestOperation messageId : ℕ) :
    Bytes :=
  udpPacket 0x5178 sourceIp targetIp kMotorolaTmsPort
    [0x00, 0x03, UInt8.ofNat (0x9F ||| (requestOperation &&& 0x20)), 0x00,
      UInt8.ofNat (messageId % 32)] false

/-- Each character in two bytes. -/
def wide (text : Bytes) : Bytes := text.flatMap fun ch => [ch, 0]

/-- A text for a radio, from an address in decimal digits. -/
def tmsInboundPayload (messageId : ℕ) (address text : Bytes) : Bytes :=
  let address := address.take 0x7F
  let body := [0xE0, UInt8.ofNat (2 * address.length)] ++ wide address ++
    [UInt8.ofNat (0x80 ||| messageId % 32), 0x04] ++ wide text
  bytes16 body.length ++ body

/-- A text message for a radio. -/
def buildMotorolaTmsInboundMessage (arsServerIp subscriberIp messageId : ℕ) (address text : Bytes) :
    Bytes :=
  udpPacket 0x5179 arsServerIp subscriberIp kMotorolaTmsPort
    (tmsInboundPayload messageId address text) true

/-- The text of a file, in hexadecimal digits of either case. -/
def decodeHexText (hex : Bytes) : Option Bytes :=
  let nibble (c : UInt8) : Option ℕ :=
    if 0x30 ≤ c ∧ c ≤ 0x39 then some (c.toNat - 0x30)
    else if 0x61 ≤ c ∧ c ≤ 0x66 then some (10 + c.toNat - 0x61)
    else if 0x41 ≤ c ∧ c ≤ 0x46 then some (10 + c.toNat - 0x41)
    else none
  let rec pairs : Bytes → Option Bytes
    | high :: low :: rest => do
      let high ← nibble high
      let low ← nibble low
      return UInt8.ofNat (16 * high + low) :: (← pairs rest)
    | _ => some []
  if hex = [] ∨ hex.length % 2 = 1 ∨ 4096 < hex.length then none else pairs hex

/-- A message in pieces. -/
def fragmentsOf (response : Bytes) : List Bytes :=
  (List.range ((response.length + kMotorolaTmsP25FragmentBytes - 1) /
    kMotorolaTmsP25FragmentBytes)).map fun i =>
      (response.drop (kMotorolaTmsP25FragmentBytes * i)).take kMotorolaTmsP25FragmentBytes

theorem udpPacket_ne_nil (identification sourceIp targetIp port : ℕ) (payload : Bytes)
    (nonzero : Bool) :
    udpPacket identification sourceIp targetIp port payload nonzero ≠ [] :=
  List.append_ne_nil_of_left_ne_nil (List.cons_ne_nil _ _) _

theorem fragmentsOf_ne_nil {response : Bytes} (h : response ≠ []) : fragmentsOf response ≠ [] := by
  have hpos := List.length_pos_iff.mpr h
  have hcount : 0 < (response.length + kMotorolaTmsP25FragmentBytes - 1) /
      kMotorolaTmsP25FragmentBytes := by
    show 0 < (response.length + 76 - 1) / 76
    omega
  intro hn
  have hlen := congrArg List.length hn
  rw [fragmentsOf, List.length_map, List.length_range, List.length_nil] at hlen
  omega

theorem flatten_pieces (response : Bytes) (size : ℕ) (count : ℕ) :
    ((List.range count).map fun i => (response.drop (size * i)).take size).flatten =
      response.take (size * count) := by
  induction count with
  | zero => simp
  | succ count ih =>
    rw [List.range_succ, List.map_append, List.flatten_append, ih, Nat.mul_succ, List.take_add]
    simp

/-- **The pieces together** are the message. -/
theorem flatten_fragmentsOf (response : Bytes) : (fragmentsOf response).flatten = response := by
  unfold fragmentsOf
  rw [flatten_pieces]
  refine List.take_of_length_le ?_
  show response.length ≤ 76 * ((response.length + 76 - 1) / 76)
  omega

end P25
