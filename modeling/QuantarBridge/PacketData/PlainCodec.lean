import QuantarBridge.PacketData.Codec

/-!
# A plain codec

`plainCodec` writes the fields of a header and the bytes of a block behind a mark, without error
correction. The CRC of the user data, which the bridge never reads, is left zero. It is
transparent and carries every packet, so what the bridge relies on can be met.

* `headerBytes`, `readHeader`, `plainUserData`, `plainCodec`;
* `readHeader_headerBytes`: the header survives;
* `plainCodec_transparent`, `plainCodec_carries`.
-/

set_option autoImplicit false

namespace PacketData

open Dmr

/-- The mark of a header. -/
def headerMark : UInt8 := 0xD0

/-- The mark of a block. -/
def blockMark : UInt8 := 0xB0

/-- A flag as a byte. -/
def flagByte (b : Bool) : UInt8 := if b then 1 else 0

/-- A packet format as a tag and a value. -/
def dpfBytes : DPF → UInt8 × UInt8
  | .UNCONFIRMED_DATA => (0, 0x02)
  | .CONFIRMED_DATA => (0, 0x03)
  | .DEFINED_SHORT => (0, 0x0D)
  | .other v => (1, v)

/-- The format of a header from its two bytes. -/
def readDpf (tag v : UInt8) : DPF :=
  if tag ≠ 0 then .other v else if v = 0x02 then .UNCONFIRMED_DATA
  else if v = 0x03 then .CONFIRMED_DATA else .DEFINED_SHORT

/-- An access point as a tag and a value. -/
def sapBytes : PDUSAP → UInt8 × UInt8
  | .PACKET_DATA => (0, 0x04)
  | .SHORT_DATA => (0, 0x0A)
  | .other v => (1, v)

/-- The service access point of a header from its two bytes. -/
def readSap (tag v : UInt8) : PDUSAP :=
  if tag ≠ 0 then .other v else if v = 0x04 then .PACKET_DATA else .SHORT_DATA

/-- The 32-bit value at `offset`. -/
def readUint32 (data : List UInt8) (offset : ℕ) : UInt32 :=
  UInt32.ofNat (readUint16 data offset * 65536 + readUint16 data (offset + 2))

/-- The fields of a header behind their mark. -/
def headerBytes (h : DataHeader) : List UInt8 :=
  [headerMark, (dpfBytes h.dpf).1, (dpfBytes h.dpf).2, (sapBytes h.sap).1, (sapBytes h.sap).2,
    flagByte h.a, flagByte h.gi, flagByte h.fullMessage, flagByte h.synchronize, h.fsn, h.ns,
    h.padLength, h.blocksToFollow] ++ (bytes32 h.srcId.toNat ++ bytes32 h.dstId.toNat)

/-- Read the fields back. -/
def readHeader (data : List UInt8) : Option DataHeader :=
  if data.getD 0 0 = headerMark then
    some {
      dpf := readDpf (data.getD 1 0) (data.getD 2 0)
      sap := readSap (data.getD 3 0) (data.getD 4 0)
      a := data.getD 5 0 ≠ 0
      gi := data.getD 6 0 ≠ 0
      fullMessage := data.getD 7 0 ≠ 0
      synchronize := data.getD 8 0 ≠ 0
      fsn := data.getD 9 0
      ns := data.getD 10 0
      padLength := data.getD 11 0
      blocksToFollow := data.getD 12 0
      srcId := readUint32 data 13
      dstId := readUint32 data 17 }
  else none

/-- Packet, padding and CRC. -/
def plainUserData (h : DataHeader) (ip : List UInt8) : List UInt8 :=
  ip ++ List.replicate (12 * h.blocksToFollow.toNat - ip.length) 0

/-- The codec without error correction. -/
def plainCodec : Codec where
  headerDecode payload := readHeader payload.toList
  blockDecode _ _ payload :=
    if payload.toList.getD 0 0 = blockMark then some ⟨0, (payload.toList.drop 1).take 12⟩ else none
  calculateLength _ len h :=
    { h with
      padLength := UInt8.ofNat ((len + 15) / 12 * 12 - (len + 4))
      blocksToFollow := UInt8.ofNat ((len + 15) / 12) }
  userData := plainUserData
  assemble h _ ip :=
    ⟨0, some (headerBytes h)⟩ :: (List.range h.blocksToFollow.toNat).map fun i =>
      ⟨i + 1, some (blockMark :: blockBytes (plainUserData h ip) i)⟩
  addBurstMetadata _ _ payload := payload
  csbkBurst := Payload.ofBytes

theorem readDpf_dpfBytes (d : DPF) : readDpf (dpfBytes d).1 (dpfBytes d).2 = d := by
  cases d <;> rfl

theorem readSap_sapBytes (d : PDUSAP) : readSap (sapBytes d).1 (sapBytes d).2 = d := by
  cases d <;> rfl

theorem flagByte_ne_zero (b : Bool) : decide (flagByte b ≠ 0) = b := by cases b <;> rfl

theorem ofNat_bytes32 (v : UInt32) :
    UInt32.ofNat (((UInt8.ofNat (v.toNat >>> 24)).toNat * 256 +
      (UInt8.ofNat (v.toNat >>> 16)).toNat) * 65536 +
      ((UInt8.ofNat (v.toNat >>> 8)).toNat * 256 + (UInt8.ofNat v.toNat).toNat)) = v := by
  have hv := v.toNat_lt
  apply UInt32.toNat_inj.mp
  simp only [UInt32.toNat_ofNat', UInt8.toNat_ofNat', Nat.shiftRight_eq_div_pow]
  omega

/-- **The header survives.** -/
theorem readHeader_headerBytes (h : DataHeader) (rest : List UInt8) :
    readHeader (headerBytes h ++ rest) = some h := by
  have hm : (headerBytes h ++ rest).getD 0 0 = headerMark := rfl
  rw [readHeader, if_pos hm]
  have hf : ∀ b, decide (flagByte b ≠ 0) = b := flagByte_ne_zero
  exact congrArg some (DataHeader.mk.injEq .. |>.mpr ⟨readDpf_dpfBytes h.dpf, hf h.a,
    readSap_sapBytes h.sap, ofNat_bytes32 h.srcId, ofNat_bytes32 h.dstId, hf h.gi,
    hf h.fullMessage, hf h.synchronize, rfl, rfl, rfl, rfl⟩)

theorem length_headerBytes (h : DataHeader) : (headerBytes h).length = 21 := rfl

theorem toList_ofBytes {bytes : List UInt8} (h : bytes.length ≤ 33) :
    (Payload.ofBytes bytes).toList = bytes ++ List.replicate (33 - bytes.length) 0 := by
  rw [Payload.ofBytes, List.Vector.toList_mk, List.take_of_length_le h]

theorem length_plainUserData (h : DataHeader) (ip : List UInt8) :
    12 * h.blocksToFollow.toNat ≤ (plainUserData h ip).length := by
  rw [plainUserData, List.length_append, List.length_replicate]
  omega

theorem length_blockBytes {userData : List UInt8} {n i : ℕ} (hl : 12 * n ≤ userData.length)
    (hi : i < n) : (blockBytes userData i).length = 12 := by
  rw [blockBytes, List.length_take, List.length_drop]
  omega

/-- **The plain codec is transparent.** -/
theorem plainCodec_transparent : plainCodec.Transparent where
  calculateLength len h := ⟨_, _, rfl⟩
  userData_prefix h ip _ := List.prefix_append _ _
  userData_length := length_plainUserData

/-- **The plain codec carries every packet.** -/
theorem plainCodec_carries (h : DataHeader) (ip : List UInt8) : plainCodec.Carries h ip := by
  refine ⟨headerBytes h, fun i => blockMark :: blockBytes (plainUserData h ip) i, rfl,
    fun colorCode => ⟨h, ?_, rfl, rfl, rfl, rfl⟩, fun i hi colorCode h' _ => ⟨0, ?_⟩⟩
  · have hl : (headerBytes h).length ≤ 33 := by rw [length_headerBytes]; omega
    exact (congrArg readHeader (toList_ofBytes hl)).trans (readHeader_headerBytes h _)
  · have hb := length_blockBytes (length_plainUserData h ip) hi
    have hl : (blockMark :: blockBytes (plainUserData h ip) i).length ≤ 33 := by
      rw [List.length_cons, hb]; omega
    simp only [plainCodec, toList_ofBytes hl, List.cons_append, List.getD_cons_zero, if_true,
      List.drop_succ_cons, List.drop_zero]
    rw [← hb, List.take_left]

end PacketData
