import QuantarBridge.PacketData.Encoder
import QuantarBridge.PacketData.PlainCodec
import QuantarBridge.PacketData.Reassembler

/-!
# What the receiver can take

The encoder announces the number of blocks in an 8-bit field, numbers the frames with bytes, and every
preamble announces the frames that follow it in a byte. The receiver takes up to 64 blocks, but the
encoder knows no such limit.

* `Codec.CountsBlocks`: how many frames the library makes of a packet;
* `Receivable`: few enough blocks, and counters that do not wrap around;
* `receivable_iff`: **exactly the packets of up to 64 blocks**, as the 8-bit field counts them.
-/

set_option autoImplicit false

namespace PacketData

open Dmr

/-- The number of blocks of twelve bytes that hold a packet and four bytes of CRC. -/
def blocksNeeded (length : ℕ) : ℕ := (length + 15) / 12

/-- The length calculation keeps the number of blocks in an 8-bit field, and the assembler writes the
header and as many blocks as it announces. -/
structure Codec.CountsBlocks (D : Codec) : Prop where
  blocks : ∀ len h, (D.calculateLength .RATE_12_DATA len h).blocksToFollow =
    UInt8.ofNat (blocksNeeded len)
  writes : ∀ h ip, ((D.assemble h .RATE_12_DATA ip).filter (·.data.isSome)).length =
    h.blocksToFollow.toNat + 1

/-- The receiver can take the frames of a packet: the header announces no more blocks than it keeps, the
frames are numbered from zero without wrapping around, and every preamble announces the frames that
follow it. -/
structure Receivable (D : Codec) (sourceRid targetRid slotNo colorCode sequenceNo : ℕ)
    (ipPacket : List UInt8) (preambleCount : ℕ) : Prop where
  announced : (headerOf D sourceRid targetRid sequenceNo ipPacket).blocksToFollow.toNat ≤ kMaxBlocks
  numbered : ∀ i (frame : NetData), (encode D sourceRid targetRid slotNo colorCode sequenceNo ipPacket
    preambleCount)[i]? = some frame → frame.seqNo = i
  preceded : ∀ i (frame : NetData), (encode D sourceRid targetRid slotNo colorCode sequenceNo ipPacket
    preambleCount)[i]? = some frame → frame.dataType = .CSBK →
    ∃ following : UInt8, frame = makePreamble D sourceRid targetRid slotNo colorCode i following.toNat ∧
      following.toNat + (i + 1) = (encode D sourceRid targetRid slotNo colorCode sequenceNo ipPacket
        preambleCount).length

section Frames

variable {D : Codec} (hD : D.CountsBlocks) (sourceRid targetRid slotNo colorCode sequenceNo : ℕ)
  (ipPacket : List UInt8)

include hD

theorem announced_eq : (headerOf D sourceRid targetRid sequenceNo ipPacket).blocksToFollow.toNat =
    blocksNeeded ipPacket.length % 256 := by
  unfold headerOf
  rw [hD.blocks, UInt8.toNat_ofNat']

theorem length_dataFrames :
    (dataFrames D sourceRid targetRid slotNo colorCode sequenceNo ipPacket).length =
      (headerOf D sourceRid targetRid sequenceNo ipPacket).blocksToFollow.toNat + 1 := by
  have hwritten : ∀ ws : List BlockWrite,
      (ws.filterMap (writeBlock D sourceRid targetRid slotNo colorCode)).length =
        (ws.filter (·.data.isSome)).length := by
    intro ws
    induction ws with
    | nil => rfl
    | cons w ws ih =>
      cases hw : w.data with
      | none => simp [writeBlock, hw, ih]
      | some bytes => simp [writeBlock, hw, ih]
  unfold dataFrames
  rw [hwritten, hD.writes]

end Frames

theorem dataType_dataFrames {D : Codec} {sourceRid targetRid slotNo colorCode sequenceNo : ℕ}
    {ipPacket : List UInt8} {frame : NetData}
    (h : frame ∈ dataFrames D sourceRid targetRid slotNo colorCode sequenceNo ipPacket) :
    frame.dataType ≠ .CSBK := by
  obtain ⟨w, -, hw⟩ := List.mem_filterMap.mp h
  obtain ⟨bytes, -, rfl⟩ := Option.map_eq_some_iff.mp hw
  show (if w.currentBlock = 0 then DataType.DATA_HEADER else .RATE_12_DATA) ≠ .CSBK
  split_ifs <;> decide

theorem encode_eq {D : Codec} {sourceRid targetRid slotNo colorCode sequenceNo : ℕ}
    {ipPacket : List UInt8} {preambleCount : ℕ}
    (h : encode D sourceRid targetRid slotNo colorCode sequenceNo ipPacket preambleCount ≠ []) :
    let frames := dataFrames D sourceRid targetRid slotNo colorCode sequenceNo ipPacket
    let count := effectivePreambles preambleCount frames.length
    encode D sourceRid targetRid slotNo colorCode sequenceNo ipPacket preambleCount =
      preambles D sourceRid targetRid slotNo colorCode count frames.length ++
        numberFrames count frames := by
  simp only [encode] at h ⊢
  split_ifs at h ⊢ with hempty hframes
  · exact absurd rfl h
  · exact absurd rfl h
  · rfl

theorem getElem?_preambles {D : Codec} {sourceRid targetRid slotNo colorCode count frames i : ℕ}
    (hcount : count + frames ≤ 256) (hframes : 0 < frames) (hi : i < count) :
    (preambles D sourceRid targetRid slotNo colorCode count frames)[i]? =
      some (makePreamble D sourceRid targetRid slotNo colorCode i (frames + count - 1 - i)) := by
  unfold preambles
  rw [List.getElem?_map, List.getElem?_range hi, Option.map_some, Nat.mod_eq_of_lt (by omega),
    Nat.mod_eq_of_lt (by omega)]

theorem getElem?_numberFrames {count i : ℕ} {frames : List NetData} {frame : NetData}
    (hcount : count + frames.length ≤ 256) (h : (numberFrames count frames)[i]? = some frame) :
    frame.seqNo = count + i ∧ ∃ frame' ∈ frames, frame.dataType = frame'.dataType := by
  unfold numberFrames at h
  rw [List.getElem?_mapIdx] at h
  obtain ⟨frame', hget, rfl⟩ := Option.map_eq_some_iff.mp h
  obtain ⟨hlt, rfl⟩ := List.getElem?_eq_some_iff.mp hget
  refine ⟨Nat.mod_eq_of_lt (by omega), frames[i], List.getElem_mem hlt, rfl⟩

/-- **Exactly the packets of up to 64 blocks**, as the 8-bit field counts them, can be received. -/
theorem receivable_iff {D : Codec} (hD : D.CountsBlocks)
    {sourceRid targetRid slotNo colorCode sequenceNo : ℕ} {ipPacket : List UInt8} {preambleCount : ℕ}
    (hframes : encode D sourceRid targetRid slotNo colorCode sequenceNo ipPacket preambleCount ≠ []) :
    Receivable D sourceRid targetRid slotNo colorCode sequenceNo ipPacket preambleCount ↔
      blocksNeeded ipPacket.length % 256 ≤ 64 := by
  have hannounced := announced_eq hD sourceRid targetRid sequenceNo ipPacket
  constructor
  · intro h
    rw [← hannounced]
    exact h.announced
  · intro hfew
    have hlength := length_dataFrames hD sourceRid targetRid slotNo colorCode sequenceNo ipPacket
    have hencode := encode_eq hframes
    dsimp only at hencode
    generalize hdata : dataFrames D sourceRid targetRid slotNo colorCode sequenceNo ipPacket = data
      at hencode hlength
    have hcount : effectivePreambles preambleCount data.length + data.length ≤ 256 := by
      unfold effectivePreambles
      omega
    generalize effectivePreambles preambleCount data.length = count at hencode hcount
    have hfront : (preambles D sourceRid targetRid slotNo colorCode count data.length).length =
        count := by
      unfold preambles
      rw [List.length_map, List.length_range]
    have hall : (encode D sourceRid targetRid slotNo colorCode sequenceNo ipPacket
        preambleCount).length = count + data.length := by
      rw [hencode, List.length_append, hfront, numberFrames, List.length_mapIdx]
    refine ⟨hannounced.trans_le hfew, fun i frame hget => ?_, fun i frame hget hcsbk => ?_⟩
    · rw [hencode] at hget
      by_cases hi : i < count
      · rw [List.getElem?_append_left (by omega), getElem?_preambles hcount (by omega) hi] at hget
        rw [← Option.some.inj hget]
        rfl
      · rw [List.getElem?_append_right (by omega), hfront] at hget
        have hnumbered := (getElem?_numberFrames hcount hget).1
        omega
    · rw [hencode] at hget
      by_cases hi : i < count
      · rw [List.getElem?_append_left (by omega), getElem?_preambles hcount (by omega) hi] at hget
        refine ⟨UInt8.ofNat (data.length + count - 1 - i), ?_, ?_⟩
        · rw [UInt8.toNat_ofNat', Nat.mod_eq_of_lt (by omega), ← Option.some.inj hget]
        · rw [UInt8.toNat_ofNat', Nat.mod_eq_of_lt (by omega), hall]
          omega
      · -- behind the preambles there is none
        rw [List.getElem?_append_right (by omega), hfront] at hget
        obtain ⟨-, frame', hmem, htype⟩ := getElem?_numberFrames hcount hget
        rw [← hdata] at hmem
        exact absurd (htype.symm.trans hcsbk) (dataType_dataFrames hmem)

theorem plainCodec_countsBlocks : plainCodec.CountsBlocks where
  blocks _ _ := rfl
  writes h ip := by
    simp only [plainCodec]
    rw [List.filter_cons_of_pos rfl, List.length_cons, List.filter_eq_self.mpr]
    · rw [List.length_map, List.length_range]
    · intro w hw
      obtain ⟨i, -, rfl⟩ := List.mem_map.mp hw
      rfl

/-- A packet of 764 bytes fits. -/
theorem receivable_sample :
    encode plainCodec 1000002 1000001 2 1 5 (List.replicate 764 0x45) 16 ≠ [] ∧
    (Receivable plainCodec 1000002 1000001 2 1 5 (List.replicate 764 0x45) 16 ↔
      blocksNeeded (List.replicate 764 (0x45 : UInt8)).length % 256 ≤ 64) := by
  have hframes : encode plainCodec 1000002 1000001 2 1 5 (List.replicate 764 0x45) 16 ≠ [] := by
    decide +kernel
  exact ⟨hframes, receivable_iff plainCodec_countsBlocks hframes⟩

/-- One byte more makes 65 blocks. -/
theorem not_receivable : encode plainCodec 1000002 1000001 2 1 5 (List.replicate 765 0x45) 16 ≠ [] ∧
    ¬ Receivable plainCodec 1000002 1000001 2 1 5 (List.replicate 765 0x45) 16 := by
  refine ⟨by decide +kernel, fun h => absurd h.announced ?_⟩
  decide +kernel

end PacketData
