import QuantarBridge.PacketData.Codec

/-!
# The packet encoder

`encode` turns an IP packet into the frames of one transmission: control preambles, the data header
and the unconfirmed data blocks, numbered in order.

* `makeFrame`, `makePreamble`, `dataFrames`, `preambles`, `encode`;
* `dataFrames_eq`: with a codec that carries the packet the data frames are the header frame and one
  frame per block, and each decodes to what was sent;
* `encode_cases`: a transmission is empty, or preambles, a frame that carries the header and frames
  that carry the blocks.
-/

set_option autoImplicit false

namespace PacketData

open Dmr

/-- The frame of one burst. -/
def makeFrame (sourceRid targetRid slotNo sequenceNo : ℕ) (dataType : DataType)
    (payload : Payload) : NetData where
  slotNo := slotNo
  srcId := sourceRid
  dstId := targetRid
  flco := .PRIVATE
  n := 0
  seqNo := sequenceNo
  dataType := dataType
  data := payload

/-- The control frame that announces how many frames follow. -/
def makePreamble (D : Codec) (sourceRid targetRid slotNo colorCode sequenceNo
    blocksToFollow : ℕ) : NetData :=
  let csbk : List UInt8 := [0xBD, 0, 0x80, UInt8.ofNat blocksToFollow] ++
    (bytes24 targetRid ++ bytes24 sourceRid)
  makeFrame sourceRid targetRid slotNo sequenceNo .CSBK
    (D.addBurstMetadata .CSBK (colorCode &&& 0x0F) (D.csbkBurst csbk))
where
  bytes24 (value : ℕ) : List UInt8 :=
    [UInt8.ofNat (value >>> 16), UInt8.ofNat (value >>> 8), UInt8.ofNat value]

/-- The header of a packet before its lengths are calculated. -/
def packetHeader (sourceRid targetRid sequenceNo : ℕ) : DataHeader where
  dpf := .UNCONFIRMED_DATA
  a := false
  sap := .PACKET_DATA
  srcId := UInt32.ofNat sourceRid
  dstId := UInt32.ofNat targetRid
  gi := false
  fullMessage := true
  synchronize := false
  fsn := 0
  ns := UInt8.ofNat sequenceNo &&& 0x07
  padLength := 0
  blocksToFollow := 0

/-- The header of a packet. -/
def headerOf (D : Codec) (sourceRid targetRid sequenceNo : ℕ) (ipPacket : List UInt8) :
    DataHeader :=
  D.calculateLength .RATE_12_DATA ipPacket.length (packetHeader sourceRid targetRid sequenceNo)

/-- The frame of one block the assembler writes. -/
def writeBlock (D : Codec) (sourceRid targetRid slotNo colorCode : ℕ) (w : BlockWrite) :
    Option NetData :=
  w.data.map fun bytes =>
    let dataType := if w.currentBlock = 0 then DataType.DATA_HEADER else .RATE_12_DATA
    makeFrame sourceRid targetRid slotNo 0 dataType
      (D.addBurstMetadata dataType (colorCode &&& 0x0F) (Payload.ofBytes bytes))

/-- The header frame and the block frames of a packet. -/
def dataFrames (D : Codec) (sourceRid targetRid slotNo colorCode sequenceNo : ℕ)
    (ipPacket : List UInt8) : List NetData :=
  (D.assemble (headerOf D sourceRid targetRid sequenceNo ipPacket) .RATE_12_DATA
    ipPacket).filterMap (writeBlock D sourceRid targetRid slotNo colorCode)

/-- How many preambles fit in front of `frames` frames. -/
def effectivePreambles (preambleCount frames : ℕ) : ℕ :=
  min preambleCount (256 - min frames 255) % 256

/-- The preambles in front of `frames` frames. -/
def preambles (D : Codec) (sourceRid targetRid slotNo colorCode preambleCount frames : ℕ) :
    List NetData :=
  (List.range preambleCount).map fun i => makePreamble D sourceRid targetRid slotNo colorCode
    (i % 256) ((frames + preambleCount - 1 - i) % 256)

/-- Number the data frames after the preambles. -/
def numberFrames (preambleCount : ℕ) (frames : List NetData) : List NetData :=
  frames.mapIdx fun i frame => { frame with seqNo := (preambleCount + i) % 256 }

/-- The frames of a packet. Counters are bytes and wrap around. -/
def encode (D : Codec) (sourceRid targetRid slotNo colorCode sequenceNo : ℕ)
    (ipPacket : List UInt8) (preambleCount : ℕ) : List NetData :=
  if sourceRid = 0 ∨ targetRid = 0 ∨ ipPacket = [] then []
  else
    let frames := dataFrames D sourceRid targetRid slotNo colorCode sequenceNo ipPacket
    let count := effectivePreambles preambleCount frames.length
    if frames = [] then []
    else preambles D sourceRid targetRid slotNo colorCode count frames.length ++
      numberFrames count frames

/-! ## With a codec that carries the packet -/

section Carries

variable {D : Codec} (sourceRid targetRid slotNo colorCode sequenceNo : ℕ) (ipPacket : List UInt8)

theorem headerOf_fields (hD : D.Transparent) : ∃ pad blocks, headerOf D sourceRid targetRid sequenceNo ipPacket =
    { packetHeader sourceRid targetRid sequenceNo with
      padLength := pad, blocksToFollow := blocks } :=
  hD.calculateLength _ _

theorem dataFrames_eq
    (hcarries : D.Carries (headerOf D sourceRid targetRid sequenceNo ipPacket) ipPacket) :
    let h := headerOf D sourceRid targetRid sequenceNo ipPacket
    ∃ header : Payload, ∃ block : ℕ → Payload,
      dataFrames D sourceRid targetRid slotNo colorCode sequenceNo ipPacket =
        makeFrame sourceRid targetRid slotNo 0 .DATA_HEADER header ::
          (List.range h.blocksToFollow.toNat).map
            (fun i => makeFrame sourceRid targetRid slotNo 0 .RATE_12_DATA (block i)) ∧
      (∃ h', D.headerDecode header = some h' ∧ h'.Agrees h) ∧
      ∀ i < h.blocksToFollow.toNat, ∀ h', h'.dpf = .UNCONFIRMED_DATA →
        ∃ serialNo, D.blockDecode .RATE_12_DATA h' (block i) =
          some ⟨serialNo, blockBytes (D.userData h ipPacket) i⟩ := by
  intro h
  obtain ⟨header, block, ha, hh, hb⟩ := hcarries
  refine ⟨_, fun i => D.addBurstMetadata .RATE_12_DATA (colorCode &&& 0x0F)
    (Payload.ofBytes (block i)), ?_, hh (colorCode &&& 0x0F), fun i hi => hb i hi _⟩
  have hw : writeBlock D sourceRid targetRid slotNo colorCode ⟨0, some header⟩ =
      some (makeFrame sourceRid targetRid slotNo 0 .DATA_HEADER
        (D.addBurstMetadata .DATA_HEADER (colorCode &&& 0x0F) (Payload.ofBytes header))) := rfl
  rw [dataFrames, ha, List.filterMap_cons_some hw, List.filterMap_map]
  exact congrArg _ (congrFun (List.filterMap_eq_map (f := fun i => makeFrame sourceRid targetRid
    slotNo 0 .RATE_12_DATA (D.addBurstMetadata .RATE_12_DATA (colorCode &&& 0x0F)
      (Payload.ofBytes (block i))))) _)

end Carries

/-! ## The frames of a transmission -/

/-- The frame is addressed to the link. -/
def Addressed (sourceRid targetRid slotNo : ℕ) (frame : NetData) : Prop :=
  frame.srcId = sourceRid ∧ frame.dstId = targetRid ∧ frame.slotNo = slotNo

/-- The frame is a data header that decodes to one that agrees with `h`. -/
def CarriesHeader (D : Codec) (h : DataHeader) (frame : NetData) : Prop :=
  frame.dataType = .DATA_HEADER ∧ ∃ h', D.headerDecode frame.data = some h' ∧ h'.Agrees h

/-- The frame is a data block that decodes to `bytes`. -/
def CarriesBlock (D : Codec) (frame : NetData) (bytes : List UInt8) : Prop :=
  frame.dataType = .RATE_12_DATA ∧ ∀ h : DataHeader, h.dpf = .UNCONFIRMED_DATA →
    ∃ serialNo, D.blockDecode .RATE_12_DATA h frame.data = some ⟨serialNo, bytes⟩

theorem forall₂_mapIdx {α β γ : Type} {R : α → γ → Prop} {S : β → γ → Prop} {l : List α}
    {m : List γ} (h : List.Forall₂ R l m) (g : ℕ → α → β)
    (hg : ∀ i a c, R a c → S (g i a) c) : List.Forall₂ S (l.mapIdx g) m := by
  induction h generalizing g with
  | nil => exact .nil
  | cons hac _ ih =>
    rw [List.mapIdx_cons]
    exact .cons (hg 0 _ _ hac) (ih _ fun i a c => hg (i + 1) a c)

variable {D : Codec} (sourceRid targetRid slotNo colorCode sequenceNo : ℕ)
  (ipPacket : List UInt8) (preambleCount : ℕ)

theorem encode_addressed : ∀ frame ∈ encode D sourceRid targetRid slotNo colorCode sequenceNo
    ipPacket preambleCount, Addressed sourceRid targetRid slotNo frame := by
  intro frame hf
  simp only [encode] at hf
  split_ifs at hf with h0 hne
  · cases hf
  · cases hf
  · rw [List.mem_append, preambles, numberFrames, List.mem_map, List.mem_mapIdx] at hf
    rcases hf with ⟨i, -, rfl⟩ | ⟨i, hi, rfl⟩
    · exact ⟨rfl, rfl, rfl⟩
    · obtain ⟨w, -, hw⟩ := List.mem_filterMap.mp (List.getElem_mem hi)
      obtain ⟨bytes, -, he⟩ := Option.map_eq_some_iff.mp hw
      rw [← he]
      exact ⟨rfl, rfl, rfl⟩

/-- **The frames of a transmission**: preambles, the header and the blocks. -/
theorem encode_cases
    (hcarries : D.Carries (headerOf D sourceRid targetRid sequenceNo ipPacket) ipPacket) :
    let h := headerOf D sourceRid targetRid sequenceNo ipPacket
    let frames := encode D sourceRid targetRid slotNo colorCode sequenceNo ipPacket preambleCount
    frames = [] ∨ ipPacket ≠ [] ∧ ∃ preambles header blocks,
      frames = preambles ++ header :: blocks ∧ (∀ f ∈ preambles, f.dataType = .CSBK) ∧
      CarriesHeader D h header ∧ List.Forall₂ (CarriesBlock D) blocks
        (packetBlocks (D.userData h ipPacket) h.blocksToFollow.toNat) := by
  intro h frames
  by_cases h0 : sourceRid = 0 ∨ targetRid = 0 ∨ ipPacket = []
  · exact .inl (if_pos h0)
  · obtain ⟨header, block, hf, hh, hb⟩ :=
      dataFrames_eq sourceRid targetRid slotNo colorCode sequenceNo ipPacket hcarries
    have hne : dataFrames D sourceRid targetRid slotNo colorCode sequenceNo ipPacket ≠ [] := by
      rw [hf]
      exact List.cons_ne_nil _ _
    have hblocks : List.Forall₂ (CarriesBlock D)
        ((List.range h.blocksToFollow.toNat).map
          fun i => makeFrame sourceRid targetRid slotNo 0 .RATE_12_DATA (block i))
        (packetBlocks (D.userData h ipPacket) h.blocksToFollow.toNat) := by
      rw [packetBlocks, List.forall₂_map_left_iff, List.forall₂_map_right_iff, List.forall₂_same]
      intro i hi
      exact ⟨rfl, hb i (List.mem_range.mp hi)⟩
    let count := effectivePreambles preambleCount
      (dataFrames D sourceRid targetRid slotNo colorCode sequenceNo ipPacket).length
    have he : frames = preambles D sourceRid targetRid slotNo colorCode count _ ++
        numberFrames count _ := (if_neg h0).trans (if_neg hne)
    rw [hf, numberFrames, List.mapIdx_cons] at he
    refine .inr ⟨fun hp => h0 (.inr (.inr hp)), _, _, _, he, fun f hm => ?_, ⟨rfl, hh⟩,
      forall₂_mapIdx hblocks _ fun _ _ _ hc => hc⟩
    obtain ⟨i, -, rfl⟩ := List.mem_map.mp hm
    rfl

end PacketData
