import Mathlib.Data.List.Induction
import Mathlib.Data.List.TakeWhile
import QuantarBridge.Lib.Decimal
import QuantarBridge.PacketData.Codec

/-!
# IPv4 packets

The bridge wraps its messages in IPv4 and UDP and reads the payload of what it receives.

* `parseIpv4Address`, `addressToString`: dotted addresses;
* `buildIpv4UdpPacket`: the packet with its checksums;
* `udpPayload`: the ports and the payload of a received packet;
* `parse_addressToString`, `buildIpv4UdpPacket_ne_nil`: an address in dotted decimal is accepted;
* `checksumFinalize_of_sum`: **a sum with its checksum** is all ones.
-/

set_option autoImplicit false

namespace Sms

open Lib PacketData

/-- An IPv4 address. -/
structure Address where
  a : UInt8
  b : UInt8
  c : UInt8
  d : UInt8
  deriving DecidableEq

/-- The bytes of an address. -/
def Address.bytes (x : Address) : Bytes := [x.a, x.b, x.c, x.d]

/-- The address in dotted decimal. -/
def addressToString (x : Address) : Bytes :=
  decimal x.a.toNat ++ 0x2E :: (decimal x.b.toNat ++ 0x2E :: (decimal x.c.toNat ++
    0x2E :: decimal x.d.toNat))

/-- The bytes up to the next dot and the rest behind it. There is nothing to read at the end. -/
def getline : Bytes → Option (Bytes × Bytes)
  | [] => none
  | s => some (s.takeWhile (· ≠ 0x2E), (s.dropWhile (· ≠ 0x2E)).drop 1)

/-- A decimal number of at most three digits that fits a byte. -/
def parseOctet (part : Bytes) : Option UInt8 :=
  if part = [] ∨ 3 < part.length ∨ ∃ c ∈ part, ¬ (0x30 ≤ c ∧ c ≤ 0x39) then none
  else
    let octet := digitsValue (part.map fun c => c.toNat - 48)
    if 255 < octet then none else some (UInt8.ofNat octet)

/-- Four octets and nothing behind them. -/
def parseIpv4Address (value : Bytes) : Option Address := do
  let (pa, value) ← getline value
  let a ← parseOctet pa
  let (pb, value) ← getline value
  let b ← parseOctet pb
  let (pc, value) ← getline value
  let c ← parseOctet pc
  let (pd, value) ← getline value
  let d ← parseOctet pd
  if (getline value).isNone then some ⟨a, b, c, d⟩ else none

/-- A 16-bit field, most significant byte first. -/
def bytes16 (value : ℕ) : Bytes := [UInt8.ofNat (value >>> 8), UInt8.ofNat value]

/-- The sum of the 16-bit words, the last byte alone counts as a high byte. -/
def checksumAccumulate : Bytes → ℕ → ℕ
  | a :: b :: rest, sum => checksumAccumulate rest (sum + (a.toNat * 256 + b.toNat))
  | [a], sum => sum + a.toNat * 256
  | [], sum => sum

/-- Fold the carries of a 32-bit sum back, twice is enough. -/
def foldCarries (sum : ℕ) : ℕ :=
  let once := (sum &&& 0xFFFF) + sum >>> 16
  (once &&& 0xFFFF) + once >>> 16

/-- The one's complement of the folded sum. -/
def checksumFinalize (sum : ℕ) : ℕ := 0xFFFF - foldCarries sum

/-- The header of a packet with its checksum field. -/
def ipHeader (totalLength checksum : ℕ) (source target : Address) : Bytes :=
  [0x45, 0x00] ++ bytes16 totalLength ++ [0, 0, 0, 0, 64, 17] ++ bytes16 checksum ++
    source.bytes ++ target.bytes

/-- The datagram with its checksum field. -/
def udpDatagram (sourcePort targetPort udpLength checksum : ℕ) (payload : Bytes) : Bytes :=
  bytes16 sourcePort ++ bytes16 targetPort ++ bytes16 udpLength ++ bytes16 checksum ++ payload

/-- The packet, or nothing when an address is malformed or the payload too long. -/
def buildIpv4UdpPacket (sourceIp targetIp : Bytes) (sourcePort targetPort : ℕ) (payload : Bytes) :
    Bytes :=
  match parseIpv4Address sourceIp, parseIpv4Address targetIp with
  | some source, some target =>
    let udpLength := 8 + payload.length
    let totalLength := 20 + udpLength
    if 0xFFFF < totalLength then []
    else
      let ipChecksum := checksumFinalize
        (checksumAccumulate (ipHeader totalLength 0 source target) 0)
      let pseudo := [0x00, 17] ++ bytes16 udpLength
      let udpSum := checksumAccumulate (udpDatagram sourcePort targetPort udpLength 0 payload)
        (checksumAccumulate pseudo (checksumAccumulate target.bytes
          (checksumAccumulate source.bytes 0)))
      let udpChecksum := checksumFinalize udpSum
      ipHeader totalLength ipChecksum source target ++ udpDatagram sourcePort targetPort udpLength
        (if udpChecksum = 0 then 0xFFFF else udpChecksum) payload
  | _, _ => []

/-- The ports and the payload of a UDP packet. -/
structure UdpPayload where
  sourcePort : ℕ
  targetPort : ℕ
  payload : Bytes
  deriving DecidableEq

/-- Read a packet as IPv4 with UDP. -/
def udpPayload (ipv4Packet : Bytes) : Option UdpPayload :=
  if ipv4Packet.length < 28 ∨ ipv4Packet.getD 0 0 >>> 4 ≠ 4 ∨ ipv4Packet.getD 9 0 ≠ 0x11 then none
  else
    let ipHeaderLength := (ipv4Packet.getD 0 0 &&& 0x0F).toNat * 4
    let ipTotalLength := readUint16 ipv4Packet 2
    if ipHeaderLength < 20 ∨ ipv4Packet.length < ipHeaderLength + 8 ∨
        ipTotalLength < ipHeaderLength + 8 ∨ ipv4Packet.length < ipTotalLength then none
    else
      let udpLength := readUint16 ipv4Packet (ipHeaderLength + 4)
      if udpLength < 8 ∨ ipTotalLength < ipHeaderLength + udpLength then none
      else some
        { sourcePort := readUint16 ipv4Packet ipHeaderLength
          targetPort := readUint16 ipv4Packet (ipHeaderLength + 2)
          payload := (ipv4Packet.drop (ipHeaderLength + 8)).take (udpLength - 8) }

theorem length_of_udpPayload {packet : Bytes} {udp : UdpPayload} (h : udpPayload packet = some udp) :
    28 ≤ packet.length := by
  unfold udpPayload at h
  by_contra hlt
  rw [if_pos (Or.inl (by omega))] at h
  cases h

/-! ## Dotted addresses -/

theorem ne_dot_of_mem_decimal {n : ℕ} {c : UInt8} (h : c ∈ decimal n) : c ≠ 0x2E := by
  rintro rfl
  exact absurd (decimal_bounds h).1 (by decide)

theorem decimal_ne_nil (n : ℕ) : decimal n ≠ [] := by
  unfold decimal decimalDigits
  split_ifs with h
  · exact List.cons_ne_nil _ _
  · simp [Nat.digits_ne_nil_iff_ne_zero, h]

theorem getline_of_ne_nil {s : Bytes} (h : s ≠ []) :
    getline s = some (s.takeWhile (· ≠ 0x2E), (s.dropWhile (· ≠ 0x2E)).drop 1) := by
  cases s with
  | nil => exact absurd rfl h
  | cons c s => rfl

theorem getline_decimal (n : ℕ) (rest : Bytes) :
    getline (decimal n ++ 0x2E :: rest) = some (decimal n, rest) := by
  have h : ∀ c ∈ decimal n, decide (c ≠ 0x2E) = true :=
    fun c hc => decide_eq_true (ne_dot_of_mem_decimal hc)
  rw [getline_of_ne_nil (by simp), List.takeWhile_append_of_pos h, List.dropWhile_append_of_pos h]
  simp

theorem getline_last (n : ℕ) : getline (decimal n) = some (decimal n, []) := by
  have h : ∀ c ∈ decimal n, decide (c ≠ 0x2E) = true :=
    fun c hc => decide_eq_true (ne_dot_of_mem_decimal hc)
  rw [getline_of_ne_nil (decimal_ne_nil n), List.takeWhile_eq_self_iff.mpr h,
    List.dropWhile_eq_nil_iff.mpr h]
  rfl

theorem parseOctet_decimal (x : UInt8) : parseOctet (decimal x.toNat) = some x := by
  have h : ∀ n : Fin 256, parseOctet (decimal n) = some (UInt8.ofNat n) := by decide +kernel
  rw [h ⟨x.toNat, x.toNat_lt⟩, UInt8.ofNat_toNat]

/-- **An address is read back from its text.** -/
theorem parse_addressToString (x : Address) : parseIpv4Address (addressToString x) = some x := by
  simp only [parseIpv4Address, addressToString, getline_decimal, getline_last, parseOctet_decimal,
    Option.bind_eq_bind, Option.bind_some]
  rfl

/-- A packet between two addresses is built unless its payload is too long. -/
theorem buildIpv4UdpPacket_ne_nil (source target : Address) (sourcePort targetPort : ℕ)
    {payload : Bytes} (h : payload.length ≤ 0xFFFF - 28) :
    buildIpv4UdpPacket (addressToString source) (addressToString target) sourcePort targetPort
      payload ≠ [] := by
  simp only [buildIpv4UdpPacket, parse_addressToString]
  rw [if_neg (by omega)]
  exact List.append_ne_nil_of_left_ne_nil (List.cons_ne_nil _ _) _

/-! ## Checksums -/

theorem toNat_ofNat_pair (v : ℕ) (h : v < 65536) :
    (UInt8.ofNat (v >>> 8)).toNat * 256 + (UInt8.ofNat v).toNat = v := by
  simp only [UInt8.toNat_ofNat', Nat.shiftRight_eq_div_pow]
  omega

theorem checksumAccumulate_add (data : Bytes) (sum : ℕ) :
    checksumAccumulate data sum = checksumAccumulate data 0 + sum := by
  induction data using List.twoStepInduction generalizing sum with
  | nil => simp [checksumAccumulate]
  | singleton a => simp [checksumAccumulate, Nat.add_comm]
  | cons_cons a b rest ih _ =>
    rw [checksumAccumulate, checksumAccumulate, ih, ih (0 + _)]
    omega

theorem checksumAccumulate_append {a : Bytes} (h : a.length % 2 = 0) (b : Bytes) :
    checksumAccumulate (a ++ b) 0 = checksumAccumulate a 0 + checksumAccumulate b 0 := by
  induction a using List.twoStepInduction with
  | nil => simp [checksumAccumulate]
  | singleton a => simp at h
  | cons_cons x y rest ih _ =>
    have hrest : rest.length % 2 = 0 := by
      simp only [List.length_cons] at h
      omega
    have hrest := ih hrest
    have hword := checksumAccumulate_add rest (0 + (x.toNat * 256 + y.toNat))
    have hwords := checksumAccumulate_add (rest ++ b) (0 + (x.toNat * 256 + y.toNat))
    rw [List.cons_append, List.cons_append, checksumAccumulate, checksumAccumulate]
    omega

theorem checksumAccumulate_le (data : Bytes) :
    checksumAccumulate data 0 ≤ 65535 * ((data.length + 1) / 2) := by
  induction data using List.twoStepInduction with
  | nil => simp [checksumAccumulate]
  | singleton a =>
    have := a.toNat_lt
    simp only [checksumAccumulate, List.length_singleton]
    omega
  | cons_cons x y rest ih _ =>
    have hx := x.toNat_lt
    have hy := y.toNat_lt
    rw [checksumAccumulate, checksumAccumulate_add]
    simp only [List.length_cons]
    omega

theorem checksumAccumulate_bytes16 {value : ℕ} (h : value < 65536) :
    checksumAccumulate (bytes16 value) 0 = value := by
  simp only [bytes16, checksumAccumulate, UInt8.toNat_ofNat', Nat.shiftRight_eq_div_pow]
  omega

theorem length_bytes16 (value : ℕ) : (bytes16 value).length = 2 := rfl

theorem accumulate_append_bytes16 {a b : Bytes} (ha : a.length % 2 = 0) {value : ℕ}
    (h : value < 65536) : checksumAccumulate (a ++ (bytes16 value ++ b)) 0 =
      checksumAccumulate (a ++ (bytes16 0 ++ b)) 0 + value := by
  have hword : ∀ v : ℕ, (bytes16 v).length % 2 = 0 := fun v => by rw [length_bytes16]
  rw [checksumAccumulate_append ha, checksumAccumulate_append ha,
    checksumAccumulate_append (hword value), checksumAccumulate_append (hword 0),
    checksumAccumulate_bytes16 h, checksumAccumulate_bytes16 (by omega)]
  omega

theorem checksumAccumulate_pos {x y : UInt8} (rest : Bytes) (h : 0 < x.toNat ∨ 0 < y.toNat) :
    0 < checksumAccumulate (x :: y :: rest) 0 := by
  rw [checksumAccumulate, checksumAccumulate_add]
  omega

theorem length_udpDatagram (sourcePort targetPort udpLength checksum : ℕ) (payload : Bytes) :
    (udpDatagram sourcePort targetPort udpLength checksum payload).length = 8 + payload.length := by
  simp only [udpDatagram, List.length_append, length_bytes16]

theorem readUint16_append_right {a b : Bytes} {offset : ℕ} (h : a.length ≤ offset) :
    readUint16 (a ++ b) offset = readUint16 b (offset - a.length) := by
  unfold readUint16
  have hnext : offset + 1 - a.length = offset - a.length + 1 := by omega
  simp only [List.getD_eq_getElem?_getD]
  rw [List.getElem?_append_right h, List.getElem?_append_right (by omega), hnext]

theorem readUint16_udpDatagram {sourcePort targetPort udpLength checksum : ℕ}
    (hsource : sourcePort < 65536) (htarget : targetPort < 65536) (hlength : udpLength < 65536)
    (hchecksum : checksum < 65536) (payload : Bytes) :
    let datagram := udpDatagram sourcePort targetPort udpLength checksum payload
    readUint16 datagram 0 = sourcePort ∧ readUint16 datagram 2 = targetPort ∧
      readUint16 datagram 4 = udpLength ∧ readUint16 datagram 6 = checksum := by
  have hfields := fun v : ℕ => toNat_ofNat_pair v
  refine ⟨?_, ?_, ?_, ?_⟩
  · simpa [udpDatagram, bytes16, readUint16] using hfields sourcePort hsource
  · simpa [udpDatagram, bytes16, readUint16] using hfields targetPort htarget
  · simpa [udpDatagram, bytes16, readUint16] using hfields udpLength hlength
  · simpa [udpDatagram, bytes16, readUint16] using hfields checksum hchecksum

/-- Folding keeps the sum modulo 65535, and is zero for zero only. -/
theorem foldCarries_spec {sum : ℕ} (h : sum < 2 ^ 32) :
    foldCarries sum ≤ 65535 ∧ foldCarries sum % 65535 = sum % 65535 ∧
      (0 < sum → 0 < foldCarries sum) := by
  have hand : ∀ x : ℕ, x &&& 0xFFFF = x % 65536 := fun x => Nat.and_two_pow_sub_one_eq_mod x 16
  simp only [foldCarries, hand, Nat.shiftRight_eq_div_pow]
  omega

/-- **A sum with its checksum**, zero being sent as all ones or not, is all ones. -/
theorem checksumFinalize_of_sum {sum checksum : ℕ} (hpos : 0 < sum) (h : sum < 2 ^ 31)
    (hc : checksum = checksumFinalize sum ∨ checksum = 0xFFFF ∧ checksumFinalize sum = 0) :
    checksumFinalize (sum + checksum) = 0 := by
  obtain ⟨hle, hmod, hfold⟩ := foldCarries_spec (show sum < 2 ^ 32 by omega)
  unfold checksumFinalize at hc
  have hchecksum : checksum ≤ 65535 := by omega
  obtain ⟨hle', hmod', hfold'⟩ := foldCarries_spec (show sum + checksum < 2 ^ 32 by omega)
  unfold checksumFinalize
  omega

end Sms
