import QuantarBridge.P25.LocationReport

/-!
# The packets for the radios are valid

A radio drops a packet with a wrong length or checksum. A field with the one's complement of the sum
of the other words makes the sum of all words all ones, and this is how both checksums are filled in.

* `ValidPacket`: the lengths, the addresses, the ports and the checksums of a packet;
* `checksum16_field`: a field with a checksum;
* `valid_udpPacket`: **a packet that is not too long is valid**.
-/

set_option autoImplicit false

namespace P25

open Lib PacketData Sms

/-- An IPv4 packet with UDP whose lengths and checksums are right. -/
structure ValidPacket (sourceIp targetIp port : ℕ) (payload packet : Bytes) : Prop where
  version : packet.getD 0 0 = 0x45
  total : readUint16 packet 2 = packet.length
  protocol : packet.getD 9 0 = 0x11
  ipChecksum : checksum16 (packet.take 20) = 0
  source : readUint32BE packet 12 = sourceIp
  target : readUint32BE packet 16 = targetIp
  ports : readUint16 packet 20 = port ∧ readUint16 packet 22 = port
  udpLength : readUint16 packet 24 + 20 = packet.length
  udpChecksum : readUint16 packet 26 ≠ 0 ∧ checksum16 ((packet.drop 12).take 8 ++ [0x00, 0x11] ++
    bytes16 (readUint16 packet 24) ++ packet.drop 20) = 0
  payload : packet.drop 28 = payload

theorem length_bytes32 (value : ℕ) : (bytes32 value).length = 4 := rfl

/-- **A field with the checksum** of the bytes around it makes their checksum zero. -/
theorem checksum16_field {a b : Bytes} (ha : a.length % 2 = 0)
    (hpos : 0 < checksumAccumulate (a ++ (bytes16 0 ++ b)) 0) (hlen : a.length + b.length < 65533)
    {checksum : ℕ} (hc : checksum = checksum16 (a ++ (bytes16 0 ++ b)) ∨
      checksum = 0xFFFF ∧ checksum16 (a ++ (bytes16 0 ++ b)) = 0) :
    checksum16 (a ++ (bytes16 checksum ++ b)) = 0 := by
  unfold checksum16 at hc ⊢
  have hsum := checksumAccumulate_le (a ++ (bytes16 0 ++ b))
  have hlength : (a ++ (bytes16 0 ++ b)).length = a.length + b.length + 2 := by
    simp only [List.length_append, length_bytes16]
    omega
  rw [hlength] at hsum
  have hlt : checksum < 65536 := by
    unfold checksumFinalize at hc
    omega
  rw [accumulate_append_bytes16 ha hlt]
  exact checksumFinalize_of_sum hpos (by omega) hc

theorem headerBytes_eq (packetLength identification checksum sourceIp targetIp : ℕ) :
    headerBytes packetLength identification checksum sourceIp targetIp =
      ([0x45, 0x00] ++ bytes16 packetLength ++ bytes16 identification ++ [0, 0, 0x40, 0x11]) ++
        (bytes16 checksum ++ (bytes32 sourceIp ++ bytes32 targetIp)) := by
  simp only [headerBytes, List.append_assoc]

theorem udpDatagram_eq (pseudo : Bytes) (sourcePort targetPort udpLength checksum : ℕ)
    (payload : Bytes) : pseudo ++ udpDatagram sourcePort targetPort udpLength checksum payload =
      (pseudo ++ bytes16 sourcePort ++ bytes16 targetPort ++ bytes16 udpLength) ++
        (bytes16 checksum ++ payload) := by
  simp only [udpDatagram, List.append_assoc]

theorem readUint16_bytes16 {value : ℕ} (h : value < 65536) (rest : Bytes) :
    readUint16 (bytes16 value ++ rest) 0 = value := by
  simpa [bytes16, readUint16] using toNat_ofNat_pair value h

theorem readUint16_headerBytes {packetLength : ℕ} (h : packetLength < 65536)
    (identification checksum sourceIp targetIp : ℕ) (rest : Bytes) :
    readUint16 (headerBytes packetLength identification checksum sourceIp targetIp ++ rest) 2 =
      packetLength := by
  simpa [headerBytes, bytes16, readUint16] using toNat_ofNat_pair packetLength h

theorem readUint32BE_bytes32 {value : ℕ} (h : value < 2 ^ 32) (rest : Bytes) :
    readUint32BE (bytes32 value ++ rest) 0 = value := by
  have hhigh : value >>> 16 < 65536 := by
    rw [Nat.shiftRight_eq_div_pow]
    omega
  unfold readUint32BE bytes32
  rw [List.append_assoc, readUint16_bytes16 hhigh, readUint16_append_right (by simp [length_bytes16])]
  rw [show 0 + 2 - (bytes16 (value >>> 16)).length = 0 from rfl,
    readUint16_bytes16 (Nat.mod_lt _ (by decide)), Nat.shiftRight_eq_div_pow]
  omega

theorem readUint32BE_append {a b : Bytes} {offset : ℕ} (h : a.length ≤ offset) :
    readUint32BE (a ++ b) offset = readUint32BE b (offset - a.length) := by
  unfold readUint32BE
  have hnext : offset + 2 - a.length = offset - a.length + 2 := by omega
  rw [readUint16_append_right h, readUint16_append_right (by omega), hnext]

theorem length_headerBytes (packetLength identification checksum sourceIp targetIp : ℕ) :
    (headerBytes packetLength identification checksum sourceIp targetIp).length = 20 := rfl

theorem readUint32BE_headerBytes (packetLength identification checksum : ℕ)
    {sourceIp targetIp : ℕ} (hsource : sourceIp < 2 ^ 32) (htarget : targetIp < 2 ^ 32)
    (rest : Bytes) :
    let packet := headerBytes packetLength identification checksum sourceIp targetIp ++ rest
    readUint32BE packet 12 = sourceIp ∧ readUint32BE packet 16 = targetIp := by
  dsimp only
  constructor
  · rw [headerBytes, List.append_assoc, List.append_assoc, readUint32BE_append (by rfl)]
    exact readUint32BE_bytes32 hsource _
  · rw [headerBytes, List.append_assoc, readUint32BE_append (by rfl)]
    exact readUint32BE_bytes32 htarget _

theorem checksum16_lt (data : Bytes) : checksum16 data < 65536 := by
  unfold checksum16 checksumFinalize
  omega

theorem checksum16_headerBytes (packetLength identification sourceIp targetIp : ℕ) :
    checksum16 (headerBytes packetLength identification
      (checksum16 (headerBytes packetLength identification 0 sourceIp targetIp)) sourceIp
      targetIp) = 0 := by
  rw [headerBytes_eq, headerBytes_eq]
  refine checksum16_field ?_ ?_ ?_ (Or.inl rfl)
  · simp [length_bytes16]
  · exact checksumAccumulate_pos _ (Or.inl (by decide))
  · simp [length_bytes16, length_bytes32]

/-- The checksum of a datagram, which is never sent as zero. -/
theorem checksum16_udpDatagram (sourceIp targetIp port checksum : ℕ) {payload : Bytes}
    (hlen : 28 + payload.length < 65536)
    (hc : checksum = checksum16 (bytes32 sourceIp ++ bytes32 targetIp ++ [0x00, 0x11] ++
        bytes16 (8 + payload.length) ++ udpDatagram port port (8 + payload.length) 0 payload) ∨
      checksum = 0xFFFF ∧ checksum16 (bytes32 sourceIp ++ bytes32 targetIp ++ [0x00, 0x11] ++
        bytes16 (8 + payload.length) ++ udpDatagram port port (8 + payload.length) 0 payload) = 0) :
    checksum16 (bytes32 sourceIp ++ bytes32 targetIp ++ [0x00, 0x11] ++
      bytes16 (8 + payload.length) ++ udpDatagram port port (8 + payload.length) checksum
        payload) = 0 := by
  rw [udpDatagram_eq] at hc ⊢
  refine checksum16_field ?_ ?_ ?_ hc
  · simp [length_bytes16, length_bytes32]
  · have heven : (bytes32 sourceIp ++ bytes32 targetIp).length % 2 = 0 := by simp [length_bytes32]
    simp only [List.append_assoc (bytes32 sourceIp ++ bytes32 targetIp)]
    rw [checksumAccumulate_append heven]
    exact Nat.add_pos_right _ (checksumAccumulate_pos _ (Or.inr (by decide)))
  · simp only [List.length_append, length_bytes16, length_bytes32, List.length_cons,
      List.length_nil]
    omega

/-- **The packet is valid.** -/
theorem valid_udpPacket {sourceIp targetIp port : ℕ} {payload : Bytes} (identification : ℕ)
    (hsource : sourceIp < 2 ^ 32) (htarget : targetIp < 2 ^ 32) (hport : port < 65536)
    (hlen : 28 + payload.length < 65536) : ValidPacket sourceIp targetIp port payload
      (udpPacket identification sourceIp targetIp port payload true) := by
  unfold udpPacket
  dsimp only
  generalize hip : checksum16 (headerBytes (20 + (8 + payload.length)) identification 0 sourceIp
    targetIp) = ipChecksum
  generalize hudp : checksum16 (_ ++ _) = udpChecksum
  generalize hsent : (if true = true ∧ udpChecksum = 0 then 0xFFFF else udpChecksum) = sent
  have hudpLt := checksum16_lt (bytes32 sourceIp ++ bytes32 targetIp ++ [0x00, 0x11] ++
    bytes16 (8 + payload.length) ++ udpDatagram port port (8 + payload.length) 0 payload)
  rw [hudp] at hudpLt
  have hchecksum : sent = udpChecksum ∧ sent ≠ 0 ∨ sent = 0xFFFF ∧ udpChecksum = 0 := by
    rw [← hsent]
    split_ifs with h
    · exact Or.inr ⟨rfl, h.2⟩
    · exact Or.inl ⟨rfl, fun h0 => h ⟨rfl, h0⟩⟩
  have hfields := readUint16_udpDatagram hport hport (show 8 + payload.length < 65536 by omega)
    (show sent < 65536 by omega) payload
  have hlength := length_udpDatagram port port (8 + payload.length) sent payload
  have hips := readUint32BE_headerBytes (20 + (8 + payload.length)) identification ipChecksum
    hsource htarget (udpDatagram port port (8 + payload.length) sent payload)
  have hsum := checksum16_udpDatagram sourceIp targetIp port sent hlen
  rw [hudp] at hsum
  have hheader := checksum16_headerBytes (20 + (8 + payload.length)) identification sourceIp targetIp
  rw [hip] at hheader
  generalize hdatagram : udpDatagram port port (8 + payload.length) sent payload = datagram at *
  have hat : ∀ offset, readUint16 (headerBytes (20 + (8 + payload.length)) identification ipChecksum
      sourceIp targetIp ++ datagram) (20 + offset) = readUint16 datagram offset := by
    intro offset
    rw [readUint16_append_right (by rw [length_headerBytes]; omega), length_headerBytes]
    congr 1
    omega
  refine ⟨rfl, ?_, rfl, ?_, hips.1, hips.2, ⟨?_, ?_⟩, ?_, ⟨?_, ?_⟩, ?_⟩
  · rw [readUint16_headerBytes (by omega), List.length_append, length_headerBytes, hlength]
  · rw [List.take_left' (length_headerBytes ..)]
    exact hheader
  · exact (hat 0).trans hfields.1
  · exact (hat 2).trans hfields.2.1
  · rw [List.length_append, length_headerBytes, hlength]
    have h4 : readUint16 _ 24 = _ := hat 4
    omega
  · have h6 : readUint16 _ 26 = _ := hat 6
    omega
  · have h4 : readUint16 _ 24 = _ := hat 4
    rw [h4, hfields.2.2.1, List.drop_left' (length_headerBytes ..)]
    refine hsum ?_
    rcases hchecksum with ⟨h, -⟩ | h
    · exact Or.inl h
    · exact Or.inr h
  · rw [← hdatagram]
    rfl

end P25
