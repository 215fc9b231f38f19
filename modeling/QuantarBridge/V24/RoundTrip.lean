import QuantarBridge.V24.Convert

/-!
# Segmentation on the V.24 link

* `writeBlocks_spec`, `readBlocks_spec`: **the two loops**;
* `headerFrame_spec`, `continuation_spec`: where a frame has its header and its blocks;
* `Received`: the part of a data unit that was received;
* `received_header`, `received_block`, `stored_last`: one frame;
* `continuations_stored`: the later frames;
* `segmentation_roundtrip`: **every data unit** is put together from its frames.
-/

set_option autoImplicit false

namespace V24

open Lib

variable {η β : Type} {C : PduCodec η β} {data : β → Bytes}

section Blocks

variable (hC : C.Lawful data)

include hC

theorem blockData_eq (b : β) : blockData C b = data b := by
  have hlength : ((C.encodeBlock b).drop 2).length ≤ P25_PDU_CONFIRMED_DATA_LENGTH_BYTES := by
    rw [List.length_drop, hC.length_encodeBlock]
    decide
  rw [blockData, List.take_of_length_le hlength, hC.data_encodeBlock]

theorem length_data (b : β) : (data b).length = P25_PDU_CONFIRMED_DATA_LENGTH_BYTES := by
  rw [← hC.data_encodeBlock, List.length_drop, hC.length_encodeBlock]
  rfl

/-- **Writing blocks** puts each of them in its place and leaves what is in front of them. -/
theorem writeBlocks_spec (base : ℕ) (blocks : List β) (i : ℕ) (pduBuf : Bytes)
    (hlength : base + (i + blocks.length) * 18 ≤ pduBuf.length + 1) :
    ∃ out, writeBlocks C base i blocks pduBuf = some out ∧ out.length = pduBuf.length ∧
      (∀ offset n, offset + n ≤ base + i * 18 → slice out offset n = slice pduBuf offset n) ∧
      ∀ j b, blocks[j]? = some b → slice out (base + (i + j) * 18 + 1) 16 = some (data b) := by
  induction blocks generalizing i pduBuf with
  | nil => exact ⟨pduBuf, rfl, rfl, fun _ _ _ => rfl, fun j b h => by simp at h⟩
  | cons b blocks ih =>
    have hdata : (blockData C b).length = 16 := by rw [blockData_eq hC]; exact length_data hC b
    rw [List.length_cons] at hlength
    obtain ⟨buf₁, h₁⟩ := exists_copyTo (pduBuf) (base + i * 18) ([wireSerial C b])
      (by rw [List.length_singleton]; omega)
    have hbuf₁ := length_copyTo h₁
    obtain ⟨buf₂, h₂⟩ := exists_copyTo (buf₁) (base + i * 18 + 1) (blockData C b)
      (by omega)
    have hbuf₂ := length_copyTo h₂
    obtain ⟨out, hout, hl, hfront, hblocks⟩ := ih (i + 1) buf₂ (by omega)
    refine ⟨out, ?_, by omega, fun offset n hn => ?_, fun j b' hj => ?_⟩
    · rw [writeBlocks]
      simp only [P25_PDU_CONFIRMED_LENGTH_BYTES, h₁, h₂, Option.bind_eq_bind, Option.bind_some]
      exact hout
    · rw [hfront offset n (by omega), slice_copyTo_of_disjoint h₂ (Or.inl (by omega)),
        slice_copyTo_of_disjoint h₁ (Or.inl (by omega))]
    · cases j with
      | zero =>
        rw [List.getElem?_cons_zero, Option.some.injEq] at hj
        subst hj
        have hself := slice_copyTo_self h₂
        rw [hdata, blockData_eq hC] at hself
        rw [hfront _ 16 (by omega)]
        exact hself
      | succ j =>
        rw [List.getElem?_cons_succ] at hj
        have := hblocks j b' hj
        rwa [Nat.add_right_comm i 1 j] at this

/-- **Reading blocks** appends their data to the user data. -/
theorem readBlocks_spec {dfsiData : Bytes} (base : ℕ) (blocks : List β) (i : ℕ) (userData : Bytes)
    (offset : ℕ) (done : Bytes) (hdone : slice userData 0 offset = some done)
    (hlength : offset + blocks.length * 16 ≤ userData.length)
    (hblocks : ∀ j b, blocks[j]? = some b →
      slice dfsiData (base + (i + j) * 18) 16 = some (data b)) :
    ∃ out, readBlocks dfsiData base i blocks.length userData offset = some out ∧
      out.length = userData.length ∧
      slice out 0 (offset + blocks.length * 16) = some (done ++ blocks.flatMap data) := by
  induction blocks generalizing i userData offset done with
  | nil =>
    exact ⟨userData, rfl, rfl, by
      rw [List.length_nil, Nat.zero_mul, Nat.add_zero, hdone, List.flatMap_nil, List.append_nil]⟩
  | cons b blocks ih =>
    have hdata := length_data hC b
    rw [List.length_cons] at hlength
    have hfirst := hblocks 0 b rfl
    rw [Nat.add_zero] at hfirst
    obtain ⟨buf, hbuf⟩ := exists_copyTo (userData) (offset) (data b)
      (by rw [hdata]; unfold P25_PDU_CONFIRMED_DATA_LENGTH_BYTES; omega)
    have hl := length_copyTo hbuf
    have hkept : slice buf 0 offset = some done := by
      rw [slice_copyTo_of_disjoint hbuf (Or.inl (by omega)), hdone]
    have hnew := slice_copyTo_self hbuf
    rw [hdata] at hnew
    have hboth := slice_append hkept (by rw [Nat.zero_add]; exact hnew)
    obtain ⟨out, hout, hl', hslice⟩ := ih (i + 1) buf
      (offset + P25_PDU_CONFIRMED_DATA_LENGTH_BYTES) (done ++ data b) hboth
      (by rw [hl]; unfold P25_PDU_CONFIRMED_DATA_LENGTH_BYTES; omega) (fun j b' hj => by
        have := hblocks (j + 1) b' hj
        rwa [Nat.add_right_comm i 1 j])
    refine ⟨out, ?_, hl'.trans hl, ?_⟩
    · rw [List.length_cons, readBlocks]
      simp only [P25_PDU_CONFIRMED_LENGTH_BYTES, P25_PDU_CONFIRMED_DATA_LENGTH_BYTES, hfirst, hbuf,
        Option.bind_eq_bind, Option.bind_some]
      exact hout
    · rw [List.flatMap_cons, ← List.append_assoc, ← hslice, List.length_cons]
      congr 1
      unfold P25_PDU_CONFIRMED_DATA_LENGTH_BYTES
      omega

/-! ## Frames -/

omit hC in
theorem head?_of_slice {frame : Bytes} {x : UInt8} (h : slice frame 0 1 = some [x]) :
    frame.head? = some x := by
  unfold slice at h
  split_ifs at h
  cases frame with
  | nil => simp at h
  | cons y frame =>
    simp only [List.drop_zero, List.take_succ_cons, List.take_zero, Option.some.injEq,
      List.cons.injEq, and_true] at h
    rw [h]
    rfl

/-- A frame with the header has its opcode, the header and the blocks. -/
theorem headerFrame_spec (type : FrameType) (h : η) (blocks : List β) (pduLen : ℕ)
    (hlength : 21 + blocks.length * 18 = pduLen) :
    ∃ frame, headerFrame C type h blocks pduLen = some frame ∧ frame.length = pduLen ∧
      frame.head? = some (C.opcode type) ∧
      slice frame 9 P25_PDU_HEADER_LENGTH_BYTES = some (C.encodeHeader h) ∧
      ∀ j b, blocks[j]? = some b → slice frame (headerBase + (0 + j) * 18) 16 = some (data b) := by
  have hstream := hC.length_startOfStream
  have hheader := hC.length_encodeHeader h
  have hzero : (List.replicate pduLen (0 : UInt8)).length = pduLen := List.length_replicate
  obtain ⟨buf₁, h₁⟩ := exists_copyTo (List.replicate pduLen (0 : UInt8)) (0) (C.startOfStream)
      (by omega)
  have hbuf₁ := length_copyTo h₁
  obtain ⟨buf₂, h₂⟩ := exists_copyTo (buf₁) (0) ([C.opcode type])
      (by rw [List.length_singleton]; omega)
  have hbuf₂ := length_copyTo h₂
  obtain ⟨buf₃, h₃⟩ := exists_copyTo (buf₂) (9) (C.encodeHeader h)
      (by rw [hheader]; unfold P25_PDU_HEADER_LENGTH_BYTES; omega)
  have hbuf₃ := length_copyTo h₃
  obtain ⟨frame, hframe, hl, hfront, hblocks⟩ := writeBlocks_spec hC 22 blocks 0 buf₃ (by omega)
  refine ⟨frame, ?_, by omega, head?_of_slice ?_, ?_, fun j b hj => ?_⟩
  · rw [headerFrame]
    simp only [h₁, h₂, h₃, Option.bind_eq_bind, Option.bind_some]
    exact hframe
  · rw [hfront 0 1 (by omega), slice_copyTo_of_disjoint h₃ (Or.inl (by omega))]
    exact slice_copyTo_self h₂
  · rw [hfront 9 _ (by unfold P25_PDU_HEADER_LENGTH_BYTES; omega)]
    have hself := slice_copyTo_self h₃
    rwa [hheader] at hself
  · have := hblocks j b hj
    rwa [Nat.add_right_comm] at this

theorem continuation_spec (type : FrameType) (blocks : List β)
    (hlength : blocks.length ≤ DFSI_PDU_BLOCK_CNT) :
    ∃ frame, queueContinuation C type blocks = some frame ∧ frame.length ≤ pduCapacity ∧
      frame.head? = some (C.opcode type) ∧
      ∀ j b, blocks[j]? = some b → slice frame (2 + (0 + j) * 18) 16 = some (data b) := by
  have hcount : blocks.length ≤ 4 := hlength
  have hcapacity : (List.replicate pduCapacity (0 : UInt8)).length = 75 := List.length_replicate
  obtain ⟨buf₁, h₁⟩ := exists_copyTo (List.replicate pduCapacity (0 : UInt8)) (0) ([C.opcode type])
      (by rw [List.length_singleton]; omega)
  have hbuf₁ := length_copyTo h₁
  obtain ⟨buf, hbuf, hl, hfront, hblocks⟩ := writeBlocks_spec hC 1 blocks 0 buf₁ (by omega)
  have htake : slice buf 0 (1 + blocks.length * 18) = some (buf.take (1 + blocks.length * 18)) := by
    rw [slice, if_neg (by omega), List.drop_zero]
  refine ⟨buf.take (1 + blocks.length * 18), ?_, ?_, head?_of_slice ?_, fun j b hj => ?_⟩
  · rw [queueContinuation]
    simp only [h₁, hbuf, Option.bind_eq_bind, Option.bind_some]
    exact htake
  · rw [List.length_take]
    change _ ≤ 75
    omega
  · rw [slice_take (by omega) (by omega), hfront 0 1 (by omega)]
    exact slice_copyTo_self h₁
  · have hj' := (List.getElem?_eq_some_iff.mp hj).1
    rw [slice_take (by omega) (by omega)]
    have := hblocks j b hj
    rwa [Nat.add_right_comm] at this

/-! ## The receiver -/

/-- The blocks of a data unit that were received so far. -/
structure Received (data : β → Bytes) (h : η) (blocks : List β) (capacity : ℕ) (rx : RxCall η) :
    Prop where
  header : rx.dataHeader = some h
  offset : rx.pduUserDataOffset = blocks.length * 16
  total : rx.pduTotalBlocks = blocks.length
  length : rx.pduUserData.length = capacity
  userData : slice rx.pduUserData 0 (blocks.length * 16) = some (blocks.flatMap data)

variable {h : η} {capacity : ℕ}

/-- Taking up the blocks of a frame. -/
theorem takeBlocks_spec {rx : RxCall η} {done blocks : List β} {dfsiData : Bytes} {base : ℕ}
    (hrx : Received data h done capacity rx)
    (hcapacity : (done.length + blocks.length) * 16 ≤ capacity)
    (hblocks : ∀ j b, blocks[j]? = some b →
      slice dfsiData (base + (0 + j) * 18) 16 = some (data b)) :
    ∃ rx', takeBlocks rx dfsiData base blocks.length = some rx' ∧
      Received data h (done ++ blocks) capacity rx' := by
  obtain ⟨out, hout, hl, hslice⟩ := readBlocks_spec hC base blocks 0 rx.pduUserData
    rx.pduUserDataOffset (done.flatMap data) (by rw [hrx.offset]; exact hrx.userData)
    (by rw [hrx.offset, hrx.length]; omega) hblocks
  refine ⟨_, by rw [takeBlocks, hout]; rfl, ?_⟩
  exact
    { header := hrx.header
      offset := by
        change rx.pduUserDataOffset + blocks.length * 16 = _
        rw [hrx.offset, List.length_append]
        omega
      total := by
        change rx.pduTotalBlocks + blocks.length = _
        rw [hrx.total, List.length_append]
      length := hl.trans hrx.length
      userData := by
        rw [hrx.offset] at hslice
        rw [List.length_append, Nat.add_mul, List.flatMap_append]
        exact hslice }

theorem received_header (rx : RxCall η) {blocks : List β} {frame : Bytes}
    (hlength : rx.pduUserData.length = capacity) (hthree : blocks.length = 3)
    (hcapacity : blocks.length * 16 ≤ capacity)
    (hhead : frame.head? = some (C.opcode .MOT_PDU_CONF_HEADER))
    (hheader : slice frame 9 P25_PDU_HEADER_LENGTH_BYTES = some (C.encodeHeader h))
    (hblocks : ∀ j b, blocks[j]? = some b →
      slice frame (headerBase + (0 + j) * 18) 16 = some (data b)) :
    ∃ rx', convertToAirV24 C rx frame = some (rx', []) ∧ Received data h blocks capacity rx' := by
  have hstart : Received data h [] capacity ⟨some h, C.clearUserData rx.pduUserData, 0, 0⟩ :=
    { header := rfl
      offset := rfl
      total := rfl
      length := (hC.length_clearUserData _).trans hlength
      userData := slice_zero (Nat.zero_le _) }
  obtain ⟨rx', htake, hrx'⟩ := takeBlocks_spec hC hstart
    (by rw [List.length_nil, Nat.zero_add]; exact hcapacity) hblocks
  rw [hthree] at htake
  refine ⟨rx', ?_, hrx'⟩
  rw [convertToAirV24, hhead, Option.bind_some, hC.frameType_opcode]
  simp only [hheader, hC.decodeHeader_encodeHeader, htake, Option.bind_eq_bind, Option.bind_some]
  rfl

/-- The opcode of a frame in the middle. -/
def IsBlock (type : FrameType) : Prop :=
  type = .MOT_PDU_CONF_BLOCK_1 ∨ type = .MOT_PDU_CONF_BLOCK_2 ∨ type = .MOT_PDU_CONF_BLOCK_3 ∨
    type = .MOT_PDU_CONF_BLOCK_4

omit hC in
theorem isBlock_nextOpcode (type : FrameType) : IsBlock (nextOpcode type) := by
  cases type <;> simp [nextOpcode, IsBlock]

theorem received_block {rx : RxCall η} {done blocks : List β} {frame : Bytes} {type : FrameType}
    (hrx : Received data h done capacity rx) (htype : IsBlock type) (hfour : blocks.length = 4)
    (hcapacity : (done.length + blocks.length) * 16 ≤ capacity)
    (hhead : frame.head? = some (C.opcode type))
    (hblocks : ∀ j b, blocks[j]? = some b → slice frame (2 + (0 + j) * 18) 16 = some (data b)) :
    ∃ rx', convertToAirV24 C rx frame = some (rx', []) ∧
      Received data h (done ++ blocks) capacity rx' := by
  obtain ⟨rx', htake, hrx'⟩ := takeBlocks_spec hC hrx hcapacity hblocks
  rw [hfour] at htake
  refine ⟨rx', ?_, hrx'⟩
  rw [convertToAirV24, hhead, Option.bind_some, hC.frameType_opcode]
  rcases htype with rfl | rfl | rfl | rfl <;>
    simp only [hrx.header, htake, Option.bind_eq_bind, Option.bind_some] <;> rfl

/-- **The last frame** has the blocks that are missing, and the data unit is stored. -/
theorem stored_last {rx : RxCall η} {done blocks : List β} {frame : Bytes}
    (hrx : Received data h done capacity rx)
    (hcount : C.blocksToFollow h = done.length + blocks.length)
    (hcapacity : (done.length + blocks.length) * 16 ≤ capacity)
    (hhead : frame.head? = some (C.opcode .MOT_PDU_CONF_END))
    (hblocks : ∀ j b, blocks[j]? = some b → slice frame (2 + (0 + j) * 18) 16 = some (data b)) :
    ∃ rx', convertToAirV24 C rx frame = some (rx', [(h, rx'.pduUserData)]) ∧
      Received data h (done ++ blocks) capacity rx' := by
  obtain ⟨rx', htake, hrx'⟩ := takeBlocks_spec hC hrx hcapacity hblocks
  refine ⟨rx', ?_, hrx'⟩
  rw [convertToAirV24, hhead, Option.bind_some, hC.frameType_opcode]
  simp only [hrx.header, hcount, hrx.total, Nat.add_sub_cancel_left, htake, Option.bind_eq_bind,
    Option.bind_some]
  rfl

/-- **The later frames** complete the data unit. -/
theorem continuations_stored {rx : RxCall η} {done : List β} (remaining : List β) {type : FrameType}
    (hrx : Received data h done capacity rx) (htype : IsBlock type)
    (hcount : C.blocksToFollow h = done.length + remaining.length)
    (hcapacity : (done.length + remaining.length) * 16 ≤ capacity) :
    ∃ frames rx', continuations C type remaining = some frames ∧
      (∀ frame ∈ frames, frame.length ≤ pduCapacity) ∧
      receiveAll C rx frames = some (rx', [(h, rx'.pduUserData)]) ∧
      Received data h (done ++ remaining) capacity rx' := by
  induction type, remaining using continuations.induct generalizing rx done with
  | case1 type remaining hmore ih =>
    have htake : (remaining.take DFSI_PDU_BLOCK_CNT).length = 4 := by
      rw [List.length_take]
      exact Nat.min_eq_left (Nat.le_of_lt hmore)
    have hsplit : 4 + (remaining.drop DFSI_PDU_BLOCK_CNT).length = remaining.length := by
      rw [List.length_drop]
      exact Nat.add_sub_cancel' (Nat.le_of_lt hmore)
    obtain ⟨frame, hframe, hl, hhead, hblocks⟩ := continuation_spec hC type
      (remaining.take DFSI_PDU_BLOCK_CNT) (Nat.le_of_eq htake)
    obtain ⟨rx₁, hstep, hrx₁⟩ := received_block hC hrx htype htake (by omega) hhead hblocks
    have hdone : (done ++ remaining.take DFSI_PDU_BLOCK_CNT).length = done.length + 4 := by
      rw [List.length_append, htake]
    obtain ⟨frames, rx', hframes, hls, hreceive, hrx'⟩ := ih hrx₁ (isBlock_nextOpcode type)
      (by omega) (by omega)
    refine ⟨frame :: frames, rx', ?_, ?_, ?_, ?_⟩
    · rw [continuations, if_pos hmore, hframe, hframes]
      rfl
    · exact List.forall_mem_cons.mpr ⟨hl, hls⟩
    · rw [receiveAll, hstep]
      simp only [Option.bind_eq_bind, Option.bind_some, hreceive, List.nil_append]
      rfl
    · rwa [List.append_assoc, List.take_append_drop] at hrx'
  | case2 type remaining hlast =>
    obtain ⟨frame, hframe, hl, hhead, hblocks⟩ := continuation_spec hC .MOT_PDU_CONF_END remaining
      (Nat.not_lt.mp hlast)
    obtain ⟨rx', hstep, hrx'⟩ := stored_last hC hrx hcount hcapacity hhead hblocks
    refine ⟨[frame], rx', ?_, ?_, ?_, hrx'⟩
    · rw [continuations, if_neg hlast, hframe]
      rfl
    · exact List.forall_mem_singleton.mpr hl
    · rw [receiveAll, hstep]
      rfl

end Blocks

/-- **Every data unit** is put together from its frames, once and with all its blocks in order, and
no frame or copy goes beyond its buffer. -/
theorem segmentation_roundtrip (hC : C.Lawful data) {h : η} {blocks : List β}
    (hcount : C.blocksToFollow h = blocks.length) {rx : RxCall η}
    (hcapacity : blocks.length * P25_PDU_CONFIRMED_DATA_LENGTH_BYTES ≤ rx.pduUserData.length) :
    ∃ frames rx' userData, convertFromAirV24 C h blocks = some frames ∧
      (∀ frame ∈ frames, frame.length ≤ pduCapacity) ∧
      receiveAll C rx frames = some (rx', [(h, userData)]) ∧
      slice userData 0 (blocks.length * P25_PDU_CONFIRMED_DATA_LENGTH_BYTES) =
        some (blocks.flatMap data) := by
  have hcapacity' : blocks.length * 16 ≤ rx.pduUserData.length := hcapacity
  have hall : blocks.take blocks.length = blocks := List.take_length
  by_cases hsingle : blocks.length ≤ 3
  · obtain ⟨frame, hframe, hl, hhead, hheader, hblocks⟩ := headerFrame_spec hC
      .MOT_PDU_SINGLE_CONF h blocks _ rfl
    obtain ⟨out, hout, -, hslice⟩ := readBlocks_spec hC headerBase blocks 0
      (C.clearUserData rx.pduUserData) 0 [] (slice_zero (Nat.zero_le _))
      (by rw [hC.length_clearUserData]; omega) hblocks
    refine ⟨[frame], ⟨some h, out, 0, 0⟩, out, ?_, ?_, ?_, ?_⟩
    · rw [convertFromAirV24]
      simp only [hcount, if_pos hsingle, hall]
      change (headerFrame C .MOT_PDU_SINGLE_CONF h blocks (21 + blocks.length * 18)).bind _ = _
      rw [hframe]
      rfl
    · refine List.forall_mem_singleton.mpr ?_
      change _ ≤ 75
      omega
    · rw [receiveAll, convertToAirV24, hhead, Option.bind_some, hC.frameType_opcode]
      simp only [hheader, hC.decodeHeader_encodeHeader, hcount, hout, Option.bind_eq_bind,
        Option.bind_some]
      rfl
    · rwa [Nat.zero_add, List.nil_append] at hslice
  · have hthree : (blocks.take headerBlockCount).length = 3 := by
      rw [List.length_take]
      exact Nat.min_eq_left (by change 3 ≤ _; omega)
    have hsplit : 3 + (blocks.drop headerBlockCount).length = blocks.length := by
      rw [List.length_drop]
      exact Nat.add_sub_cancel' (Nat.le_of_lt (Nat.lt_of_not_le hsingle))
    obtain ⟨frame, hframe, hl, hhead, hheader, hblocks⟩ := headerFrame_spec hC
      .MOT_PDU_CONF_HEADER h (blocks.take headerBlockCount) pduCapacity
      (by rw [hthree]; rfl)
    obtain ⟨rx₁, hstep, hrx₁⟩ := received_header hC rx rfl hthree (by omega) hhead hheader
      hblocks
    obtain ⟨frames, rx', hframes, hls, hreceive, hrx'⟩ := continuations_stored hC
      (blocks.drop headerBlockCount) hrx₁ (Or.inl rfl) (by omega) (by omega)
    refine ⟨frame :: frames, rx', rx'.pduUserData, ?_, ?_, ?_, ?_⟩
    · rw [convertFromAirV24]
      simp only [hcount, if_neg hsingle, hall, hframe, hframes, Option.bind_eq_bind,
        Option.bind_some]
      rfl
    · exact List.forall_mem_cons.mpr ⟨Nat.le_of_eq hl, hls⟩
    · rw [receiveAll, hstep]
      simp only [Option.bind_eq_bind, Option.bind_some, hreceive, List.nil_append]
      rfl
    · have huser := hrx'.userData
      rwa [List.take_append_drop] at huser

section Samples

/-- Sixteen bytes of data. -/
abbrev SampleBlock : Type := {b : Bytes // b.length = 16}

/-- A header that is the number of its blocks, and blocks without serial number and checksum. -/
def sampleCodec : PduCodec UInt8 SampleBlock where
  opcode
    | .MOT_PDU_SINGLE_CONF => 0x80
    | .MOT_PDU_CONF_HEADER => 0x81
    | .MOT_PDU_CONF_BLOCK_1 => 0x82
    | .MOT_PDU_CONF_BLOCK_2 => 0x83
    | .MOT_PDU_CONF_BLOCK_3 => 0x84
    | .MOT_PDU_CONF_BLOCK_4 => 0x85
    | .MOT_PDU_CONF_END => 0x86
  frameType opcode :=
    [.MOT_PDU_SINGLE_CONF, .MOT_PDU_CONF_HEADER, .MOT_PDU_CONF_BLOCK_1, .MOT_PDU_CONF_BLOCK_2,
      .MOT_PDU_CONF_BLOCK_3, .MOT_PDU_CONF_BLOCK_4, .MOT_PDU_CONF_END][opcode.toNat - 0x80]?
  blocksToFollow := UInt8.toNat
  encodeHeader n := [0, 0, 0, 0, 0, 0, n, 0, 0, 0, 0, 0]
  decodeHeader headerData := headerData[6]?
  encodeBlock b := 0x00 :: 0x00 :: b.1
  startOfStream := [0x00, 0x02, 0, 0, 0, 0, 0, 0, 0]
  clearUserData buffer := List.replicate buffer.length 0

theorem sampleCodec_lawful : sampleCodec.Lawful Subtype.val where
  frameType_opcode type := by cases type <;> rfl
  length_encodeHeader _ := rfl
  decodeHeader_encodeHeader _ := rfl
  length_encodeBlock b := congrArg (· + 2) b.2
  data_encodeBlock _ := rfl
  length_startOfStream := rfl
  length_clearUserData _ := List.length_replicate

/-- Eight blocks, which take a start frame, a frame of four blocks and a last frame of one. -/
def sampleBlocks : List SampleBlock :=
  (List.range 8).map fun i => ⟨List.replicate 16 (UInt8.ofNat i), List.length_replicate⟩

theorem segmentation_roundtrip_sample : ∃ frames rx' userData,
    convertFromAirV24 sampleCodec 8 sampleBlocks = some frames ∧
      (∀ frame ∈ frames, frame.length ≤ pduCapacity) ∧
      receiveAll sampleCodec ⟨none, List.replicate 578 0, 0, 0⟩ frames =
        some (rx', [(8, userData)]) ∧
      slice userData 0 (8 * P25_PDU_CONFIRMED_DATA_LENGTH_BYTES) =
        some (sampleBlocks.flatMap Subtype.val) :=
  segmentation_roundtrip sampleCodec_lawful rfl (by
    rw [List.length_replicate]
    decide)

end Samples

end V24
