import QuantarBridge.Sms.Acknowledgement

/-!
# The checksums of a packet

The builder adds up the words of a packet in 32 bits and folds the carries back until there are none. A
packet is too short for the sum to overflow, and with the complement in its checksum field the sum of all
words is all ones.

* `checksumAccumulate32`, `foldCarries32`: the sums in 32 bits, `toNat_accumulate32`,
  `toNat_foldCarries32`: they are exact;
* `WellBuilt`: lengths, addresses, ports, payload and both checksums of a packet;
* `buildIpv4UdpPacket_wellBuilt`: **every packet is well built**, and none is built that is too long.
-/

set_option autoImplicit false

namespace Sms

open Lib PacketData

/-! ## Sums in 32 bits -/

/-- The sum of the 16-bit words in 32 bits. -/
def checksumAccumulate32 : Bytes → UInt32 → UInt32
  | a :: b :: rest, sum => checksumAccumulate32 rest (sum + (a.toUInt32 <<< 8 ||| b.toUInt32))
  | [a], sum => sum + a.toUInt32 <<< 8
  | [], sum => sum

theorem toNat_foldStep (sum : UInt32) : ((sum &&& (0xFFFF : UInt32)) + sum >>> (16 : UInt32)).toNat =
    sum.toNat % 65536 + sum.toNat / 65536 := by
  have hsum := sum.toNat_lt
  have hand : sum.toNat &&& 0xFFFF = sum.toNat % 65536 := Nat.and_two_pow_sub_one_eq_mod _ 16
  rw [UInt32.toNat_add, UInt32.toNat_and, UInt32.toNat_shiftRight]
  show ((sum.toNat &&& 0xFFFF) + sum.toNat >>> 16) % 2 ^ 32 = _
  rw [hand, Nat.shiftRight_eq_div_pow]
  omega

theorem shift_ne_zero_iff (sum : UInt32) : sum >>> 16 ≠ 0 ↔ 65536 ≤ sum.toNat := by
  rw [← UInt32.toNat_inj.ne, UInt32.toNat_shiftRight]
  show sum.toNat >>> 16 ≠ 0 ↔ _
  rw [Nat.shiftRight_eq_div_pow]
  omega

/-- Fold the carries back until there are none. -/
def foldCarries32 (sum : UInt32) : UInt32 :=
  if sum >>> 16 ≠ 0 then foldCarries32 ((sum &&& (0xFFFF : UInt32)) + sum >>> (16 : UInt32)) else sum
termination_by sum.toNat
decreasing_by
  rename_i h
  have := (shift_ne_zero_iff sum).mp h
  rw [toNat_foldStep]
  omega

theorem toNat_word (a b : UInt8) : (a.toUInt32 <<< 8 ||| b.toUInt32).toNat =
    a.toNat * 256 + b.toNat := by
  have ha := a.toNat_lt
  have hb := b.toNat_lt
  rw [UInt32.toNat_or, UInt32.toNat_shiftLeft, UInt8.toNat_toUInt32, UInt8.toNat_toUInt32]
  show a.toNat <<< 8 % 2 ^ 32 ||| b.toNat = _
  rw [Nat.mod_eq_of_lt (by rw [Nat.shiftLeft_eq]; omega), ← Nat.shiftLeft_add_eq_or_of_lt hb,
    Nat.shiftLeft_eq]

theorem toNat_high (a : UInt8) : (a.toUInt32 <<< 8).toNat = a.toNat * 256 := by
  have ha := a.toNat_lt
  rw [UInt32.toNat_shiftLeft, UInt8.toNat_toUInt32]
  show a.toNat <<< 8 % 2 ^ 32 = _
  rw [Nat.shiftLeft_eq]
  omega

/-- **The sum is exact** when it fits. -/
theorem toNat_accumulate32 (data : Bytes) (sum : UInt32)
    (h : checksumAccumulate data sum.toNat < 2 ^ 32) :
    (checksumAccumulate32 data sum).toNat = checksumAccumulate data sum.toNat := by
  induction data using List.twoStepInduction generalizing sum with
  | nil => rfl
  | singleton a =>
    rw [checksumAccumulate] at h
    rw [checksumAccumulate32, checksumAccumulate, UInt32.toNat_add, toNat_high, Nat.mod_eq_of_lt h]
  | cons_cons a b rest ih _ =>
    rw [checksumAccumulate] at h
    have hpart := checksumAccumulate_add rest (sum.toNat + (a.toNat * 256 + b.toNat))
    have hnext : (sum + (a.toUInt32 <<< 8 ||| b.toUInt32)).toNat =
        sum.toNat + (a.toNat * 256 + b.toNat) := by
      rw [UInt32.toNat_add, toNat_word, Nat.mod_eq_of_lt (by omega)]
    rw [checksumAccumulate32, checksumAccumulate, ih _ (by rw [hnext]; exact h), hnext]

/-- **Folding twice is enough** for every sum of 32 bits. -/
theorem toNat_foldCarries32 (sum : UInt32) : (foldCarries32 sum).toNat = foldCarries sum.toNat := by
  have hand : ∀ x : ℕ, x &&& 0xFFFF = x % 65536 := fun x => Nat.and_two_pow_sub_one_eq_mod x 16
  have hfold : ∀ x : ℕ, foldCarries x =
      (x % 65536 + x / 65536) % 65536 + (x % 65536 + x / 65536) / 65536 := by
    intro x
    simp only [foldCarries, hand, Nat.shiftRight_eq_div_pow]
  fun_induction foldCarries32 sum with
  | case1 sum hcarry ih =>
    have hsum := sum.toNat_lt
    rw [ih, toNat_foldStep, hfold, hfold]
    omega
  | case2 sum hcarry =>
    have hsmall := mt (shift_ne_zero_iff sum).mpr hcarry
    rw [hfold]
    omega

/-! ## Packets -/

/-- The sum over the pseudo-header and a datagram. -/
def udpSum (source target : Address) (datagram : Bytes) : ℕ :=
  checksumAccumulate datagram (checksumAccumulate ([0x00, 17] ++ bytes16 datagram.length)
    (checksumAccumulate target.bytes (checksumAccumulate source.bytes 0)))

/-- The same in 32 bits. -/
def udpSum32 (source target : Address) (datagram : Bytes) : UInt32 :=
  checksumAccumulate32 datagram (checksumAccumulate32 ([0x00, 17] ++ bytes16 datagram.length)
    (checksumAccumulate32 target.bytes (checksumAccumulate32 source.bytes 0)))

/-- A packet whose sums in 32 bits verify, whose lengths agree and from which everything is read back.
The sums of the builder, with empty checksum fields, do not overflow. -/
structure WellBuilt (source target : Address) (sourcePort targetPort : UInt16)
    (payload packet : Bytes) : Prop where
  header_sum : foldCarries32 (checksumAccumulate32 (packet.take 20) 0) = 0xFFFF
  udp_sum : foldCarries32 (udpSum32 source target (packet.drop 20)) = 0xFFFF
  header_exact : (checksumAccumulate32 (ipHeader packet.length 0 source target) 0).toNat =
    checksumAccumulate (ipHeader packet.length 0 source target) 0
  udp_exact : (udpSum32 source target (udpDatagram sourcePort.toNat targetPort.toNat
    (8 + payload.length) 0 payload)).toNat = udpSum source target (udpDatagram sourcePort.toNat
      targetPort.toNat (8 + payload.length) 0 payload)
  checksum_ne_zero : readUint16 packet 26 ≠ 0
  length_eq : packet.length = 28 + payload.length
  totalLength : readUint16 packet 2 = packet.length
  udpLength : readUint16 packet 24 + 20 = packet.length
  addresses : addressAt packet 12 = source ∧ addressAt packet 16 = target
  read_back : udpPayload packet = some ⟨sourcePort.toNat, targetPort.toNat, payload⟩

section Packet

variable (source target : Address) {sourcePort targetPort checksum : ℕ} {payload datagram : Bytes}

theorem length_ipHeader (totalLength checksum : ℕ) (source target : Address) :
    (ipHeader totalLength checksum source target).length = 20 := rfl

theorem udpSum_eq (datagram : Bytes) : udpSum source target datagram =
    checksumAccumulate (source.bytes ++ target.bytes ++ [0x00, 17] ++ bytes16 datagram.length ++
      datagram) 0 := by
  have haddress : ∀ x : Address, x.bytes.length % 2 = 0 := fun x => by
    rw [show x.bytes.length = 4 from rfl]
  have hpseudo : ([0x00, 17] ++ bytes16 datagram.length : Bytes).length % 2 = 0 := by
    rw [show ([0x00, 17] ++ bytes16 datagram.length : Bytes).length = 4 from rfl]
  simp only [List.append_assoc]
  rw [checksumAccumulate_append (haddress source), checksumAccumulate_append (haddress target),
    ← List.append_assoc [0x00, 17], checksumAccumulate_append hpseudo]
  unfold udpSum
  rw [checksumAccumulate_add datagram, checksumAccumulate_add ([0x00, 17] ++ bytes16 datagram.length),
    checksumAccumulate_add target.bytes]
  omega

theorem udpSum_checksum (hchecksum : checksum < 65536) (udpLength : ℕ) :
    udpSum source target (udpDatagram sourcePort targetPort udpLength checksum payload) =
      udpSum source target (udpDatagram sourcePort targetPort udpLength 0 payload) + checksum := by
  have heven : ∀ n : ℕ, (source.bytes ++ target.bytes ++ [0x00, 17] ++ bytes16 n ++ bytes16 sourcePort ++
      bytes16 targetPort ++ bytes16 udpLength).length % 2 = 0 := by
    simp [Address.bytes, length_bytes16]
  have hsplit : ∀ n c : ℕ, source.bytes ++ target.bytes ++ [0x00, 17] ++ bytes16 n ++
      udpDatagram sourcePort targetPort udpLength c payload =
        (source.bytes ++ target.bytes ++ [0x00, 17] ++ bytes16 n ++ bytes16 sourcePort ++
          bytes16 targetPort ++ bytes16 udpLength) ++ (bytes16 c ++ payload) := by
    intro n c
    simp only [udpDatagram, List.append_assoc]
  rw [udpSum_eq, udpSum_eq, length_udpDatagram, length_udpDatagram, hsplit, hsplit,
    accumulate_append_bytes16 (heven _) hchecksum]

theorem udpSum_bounds (hlength : datagram.length ≤ 65515) :
    0 < udpSum source target datagram ∧ udpSum source target datagram + 0xFFFF < 2 ^ 31 := by
  have hall := checksumAccumulate_le (source.bytes ++ target.bytes ++ [0x00, 17] ++
    bytes16 datagram.length ++ datagram)
  have hbytes : (source.bytes ++ target.bytes ++ [0x00, 17] ++ bytes16 datagram.length ++
      datagram).length = 12 + datagram.length := by
    rw [List.length_append]
    rfl
  have hprotocol : 17 ≤ checksumAccumulate ([0x00, 17] ++ bytes16 datagram.length)
      (checksumAccumulate target.bytes (checksumAccumulate source.bytes 0)) := by
    rw [List.cons_append, List.cons_append, checksumAccumulate, checksumAccumulate_add]
    show 17 ≤ _ + (_ + (0 * 256 + 17))
    omega
  constructor
  · unfold udpSum
    rw [checksumAccumulate_add]
    omega
  · rw [hbytes] at hall
    rw [udpSum_eq]
    omega

/-- **The sum over a datagram is exact.** -/
theorem toNat_udpSum32 (hlength : datagram.length ≤ 65515) :
    (udpSum32 source target datagram).toNat = udpSum source target datagram := by
  have hall := (udpSum_bounds source target hlength).2
  unfold udpSum at hall
  have hparts := checksumAccumulate_add datagram (checksumAccumulate ([0x00, 17] ++
    bytes16 datagram.length) (checksumAccumulate target.bytes (checksumAccumulate source.bytes 0)))
  have hpseudo := checksumAccumulate_add ([0x00, 17] ++ bytes16 datagram.length)
    (checksumAccumulate target.bytes (checksumAccumulate source.bytes 0))
  have htarget := checksumAccumulate_add target.bytes (checksumAccumulate source.bytes 0)
  have hone : (checksumAccumulate32 source.bytes 0).toNat = checksumAccumulate source.bytes 0 :=
    toNat_accumulate32 _ 0 (by show checksumAccumulate source.bytes 0 < _; omega)
  have htwo := toNat_accumulate32 target.bytes (checksumAccumulate32 source.bytes 0)
    (by rw [hone]; omega)
  rw [hone] at htwo
  have hthree := toNat_accumulate32 ([0x00, 17] ++ bytes16 datagram.length)
    (checksumAccumulate32 target.bytes (checksumAccumulate32 source.bytes 0)) (by rw [htwo]; omega)
  rw [htwo] at hthree
  have hfour := toNat_accumulate32 datagram (checksumAccumulate32
    ([0x00, 17] ++ bytes16 datagram.length) (checksumAccumulate32 target.bytes
      (checksumAccumulate32 source.bytes 0))) (by rw [hthree]; omega)
  rw [hthree] at hfour
  exact hfour

theorem ipHeader_checksum (hchecksum : checksum < 65536) (totalLength : ℕ) :
    checksumAccumulate (ipHeader totalLength checksum source target) 0 =
      checksumAccumulate (ipHeader totalLength 0 source target) 0 + checksum := by
  have hsplit : ∀ c, ipHeader totalLength c source target =
      ([0x45, 0x00] ++ bytes16 totalLength ++ [0, 0, 0, 0, 64, 17]) ++
        (bytes16 c ++ (source.bytes ++ target.bytes)) := by
    intro c
    simp only [ipHeader, List.append_assoc]
  have heven : ([0x45, 0x00] ++ bytes16 totalLength ++ [0, 0, 0, 0, 64, 17] : Bytes).length % 2 = 0 := by
    simp [length_bytes16]
  rw [hsplit, hsplit 0, accumulate_append_bytes16 heven hchecksum]

theorem ipHeader_bounds (totalLength : ℕ) :
    0 < checksumAccumulate (ipHeader totalLength 0 source target) 0 ∧
      checksumAccumulate (ipHeader totalLength 0 source target) 0 ≤ 655350 := by
  have hall := checksumAccumulate_le (ipHeader totalLength 0 source target)
  rw [length_ipHeader] at hall
  exact ⟨checksumAccumulate_pos _ (Or.inl (by decide)), hall⟩

end Packet

/-- A sum with its checksum folds to all ones. -/
theorem foldCarries_of_checksum {sum checksum : ℕ} (hpos : 0 < sum) (h : sum + 0xFFFF < 2 ^ 31)
    (hc : checksum = checksumFinalize sum ∨ checksum = 0xFFFF ∧ checksumFinalize sum = 0)
    {sum32 : UInt32} (hsum : sum32.toNat = sum + checksum) : foldCarries32 sum32 = 0xFFFF := by
  have hzero := checksumFinalize_of_sum hpos (by omega) hc
  have hle := (foldCarries_spec (show sum + checksum < 2 ^ 32 from hsum ▸ sum32.toNat_lt)).1
  unfold checksumFinalize at hzero
  apply UInt32.toNat_inj.mp
  rw [toNat_foldCarries32, hsum]
  show foldCarries (sum + checksum) = 0xFFFF
  omega

theorem checksumFinalize_lt (sum : ℕ) : checksumFinalize sum < 65536 := by
  unfold checksumFinalize
  omega

theorem buildIpv4UdpPacket_dotted {sourceIp targetIp : Bytes} {source target : Address}
    (hsource : parseIpv4Address sourceIp = some source)
    (htarget : parseIpv4Address targetIp = some target) (sourcePort targetPort : ℕ) (payload : Bytes) :
    buildIpv4UdpPacket sourceIp targetIp sourcePort targetPort payload =
      buildIpv4UdpPacket (addressToString source) (addressToString target) sourcePort targetPort
        payload := by
  simp only [buildIpv4UdpPacket, hsource, htarget, parse_addressToString]

theorem wellBuilt_of_checksums {source target : Address} {sourcePort targetPort : UInt16}
    {payload : Bytes} (hfits : payload.length ≤ 65507) {ipChecksum udpChecksum : ℕ}
    (hip : checksumFinalize (checksumAccumulate (ipHeader (20 + (8 + payload.length)) 0 source target)
      0) = ipChecksum)
    (hudp : (if checksumFinalize (udpSum source target (udpDatagram sourcePort.toNat targetPort.toNat
      (8 + payload.length) 0 payload)) = 0 then 0xFFFF else checksumFinalize (udpSum source target
        (udpDatagram sourcePort.toNat targetPort.toNat (8 + payload.length) 0 payload))) = udpChecksum)
    (hread : udpPayload (ipHeader (20 + (8 + payload.length)) ipChecksum source target ++
      udpDatagram sourcePort.toNat targetPort.toNat (8 + payload.length) udpChecksum payload) =
        some ⟨sourcePort.toNat, targetPort.toNat, payload⟩) :
    WellBuilt source target sourcePort targetPort payload
      (ipHeader (20 + (8 + payload.length)) ipChecksum source target ++
        udpDatagram sourcePort.toNat targetPort.toNat (8 + payload.length) udpChecksum payload) := by
  have hipLt : ipChecksum < 65536 := hip ▸ checksumFinalize_lt _
  have hdatagram : ∀ c, (udpDatagram sourcePort.toNat targetPort.toNat (8 + payload.length) c
      payload).length ≤ 65515 := by
    intro c
    rw [length_udpDatagram]
    omega
  have hheader := ipHeader_bounds source target (20 + (8 + payload.length))
  have hpseudo := udpSum_bounds source target (hdatagram 0)
  have hfinal := checksumFinalize_lt (udpSum source target (udpDatagram sourcePort.toNat
    targetPort.toNat (8 + payload.length) 0 payload))
  have hudpLt : udpChecksum < 65536 ∧ udpChecksum ≠ 0 := by
    split_ifs at hudp <;> omega
  have hlength : (ipHeader (20 + (8 + payload.length)) ipChecksum source target ++
      udpDatagram sourcePort.toNat targetPort.toNat (8 + payload.length) udpChecksum payload).length =
        20 + (8 + payload.length) := by
    rw [List.length_append, length_ipHeader, length_udpDatagram]
  have hsplit := length_ipHeader (20 + (8 + payload.length)) ipChecksum source target
  obtain ⟨-, -, hfieldLength, hfieldChecksum⟩ := readUint16_udpDatagram sourcePort.toNat_lt
    targetPort.toNat_lt (show 8 + payload.length < 65536 by omega) hudpLt.1 payload
  refine ⟨?_, ?_, ?_, toNat_udpSum32 source target (hdatagram 0), ?_, by rw [hlength]; omega, ?_, ?_, ⟨rfl, rfl⟩,
    hread⟩
  · have hsum := ipHeader_checksum source target hipLt (20 + (8 + payload.length))
    have hexact := toNat_accumulate32 (ipHeader (20 + (8 + payload.length)) ipChecksum source target) 0
      (by show checksumAccumulate _ 0 < _; omega)
    rw [List.take_left' hsplit]
    exact foldCarries_of_checksum hheader.1 (by omega) (Or.inl hip.symm) (hexact.trans hsum)
  · have hsum := (toNat_udpSum32 source target (hdatagram udpChecksum)).trans
      (udpSum_checksum source target hudpLt.1 (8 + payload.length))
    have hkind : udpChecksum = checksumFinalize (udpSum source target (udpDatagram sourcePort.toNat
        targetPort.toNat (8 + payload.length) 0 payload)) ∨ udpChecksum = 0xFFFF ∧
          checksumFinalize (udpSum source target (udpDatagram sourcePort.toNat targetPort.toNat
            (8 + payload.length) 0 payload)) = 0 := by
      split_ifs at hudp with hzero
      · exact Or.inr ⟨hudp.symm, hzero⟩
      · exact Or.inl hudp.symm
    rw [List.drop_left' hsplit]
    exact foldCarries_of_checksum hpseudo.1 hpseudo.2 hkind hsum
  · rw [hlength]
    exact toNat_accumulate32 _ 0 (by show checksumAccumulate _ 0 < _; omega)
  · rw [readUint16_append_right (by rw [hsplit]; omega), hsplit, hfieldChecksum]
    exact hudpLt.2
  · rw [hlength]
    exact toNat_ofNat_pair (20 + (8 + payload.length)) (by omega)
  · rw [readUint16_append_right (by rw [hsplit]; omega), hsplit, hfieldLength, hlength]
    omega

/-- **Every packet is well built**, and none is built that is too long. -/
theorem buildIpv4UdpPacket_wellBuilt {sourceIp targetIp : Bytes} {source target : Address}
    (hsource : parseIpv4Address sourceIp = some source)
    (htarget : parseIpv4Address targetIp = some target) (sourcePort targetPort : UInt16)
    (payload : Bytes) :
    let packet := buildIpv4UdpPacket sourceIp targetIp sourcePort.toNat targetPort.toNat payload
    if payload.length ≤ 65507 then WellBuilt source target sourcePort targetPort payload packet
    else packet = [] := by
  rw [buildIpv4UdpPacket_dotted hsource htarget]
  split_ifs with hfits
  · have hread : udpPayload (buildIpv4UdpPacket (addressToString source) (addressToString target)
        sourcePort.toNat targetPort.toNat payload) = some ⟨sourcePort.toNat, targetPort.toNat, payload⟩ :=
      udpPayload_build sourcePort.toNat_lt targetPort.toNat_lt (by omega)
    simp only [buildIpv4UdpPacket, parse_addressToString] at hread ⊢
    rw [if_neg (by omega)] at hread ⊢
    have hsum : checksumAccumulate (udpDatagram sourcePort.toNat targetPort.toNat (8 + payload.length) 0
        payload) (checksumAccumulate ([0x00, 17] ++ bytes16 (8 + payload.length))
          (checksumAccumulate target.bytes (checksumAccumulate source.bytes 0))) =
        udpSum source target (udpDatagram sourcePort.toNat targetPort.toNat (8 + payload.length) 0
          payload) := by
      unfold udpSum
      rw [length_udpDatagram]
    rw [hsum] at hread ⊢
    exact wellBuilt_of_checksums hfits rfl rfl hread
  · simp only [buildIpv4UdpPacket, parse_addressToString]
    exact if_pos (by omega)

/-- An odd payload between two radios, one of them written with zeros in front. -/
theorem buildIpv4UdpPacket_odd :
    let packet := buildIpv4UdpPacket (ascii ['0', '1', '2', '.', '0', '.', '0', '.', '1'])
      (addressToString ⟨12, 0, 0, 2⟩) (4007 : UInt16).toNat (4007 : UInt16).toNat [0xE0, 0x00, 0x80]
    if ([0xE0, 0x00, 0x80] : Bytes).length ≤ 65507 then
      WellBuilt ⟨12, 0, 0, 1⟩ ⟨12, 0, 0, 2⟩ 4007 4007 [0xE0, 0x00, 0x80] packet
    else packet = [] :=
  buildIpv4UdpPacket_wellBuilt (by decide) (parse_addressToString _) 4007 4007 _

end Sms
