import QuantarBridge.Lib.Buffer
import QuantarBridge.Lib.Decimal

/-!
# Packet data on the V.24 link

The data host sends a confirmed data unit to the Quantar in V.24 frames and puts one together from
the frames it receives. A start frame carries the header and up to three blocks, every later frame
four of them, and the last one what is left.

* `PduCodec`: headers and blocks as the P25 library encodes them, and the opcodes of the frames;
* `convertFromAirV24`: the frames of a data unit;
* `RxCall`, `convertToAirV24`, `receiveAll`: the receiver.
-/

set_option autoImplicit false

namespace V24

open Lib

/-- The length of a header. -/
def P25_PDU_HEADER_LENGTH_BYTES : ℕ := 12

/-- The length of a confirmed block. -/
def P25_PDU_CONFIRMED_LENGTH_BYTES : ℕ := 18

/-- The length of the data of a confirmed block. -/
def P25_PDU_CONFIRMED_DATA_LENGTH_BYTES : ℕ := 16

/-- The blocks of a frame. -/
def DFSI_PDU_BLOCK_CNT : ℕ := 4

/-- The frames of confirmed packet data. -/
inductive FrameType
  | MOT_PDU_SINGLE_CONF
  | MOT_PDU_CONF_HEADER
  | MOT_PDU_CONF_BLOCK_1
  | MOT_PDU_CONF_BLOCK_2
  | MOT_PDU_CONF_BLOCK_3
  | MOT_PDU_CONF_BLOCK_4
  | MOT_PDU_CONF_END
  deriving DecidableEq

/-- What the P25 library and the protocol constants give: the opcodes, the headers, the blocks with
serial number and checksum in front of the data, and the receiver at the start of a data unit. -/
structure PduCodec (η β : Type) where
  opcode : FrameType → UInt8
  frameType : UInt8 → Option FrameType
  blocksToFollow : η → ℕ
  encodeHeader : η → Bytes
  decodeHeader : Bytes → Option η
  encodeBlock : β → Bytes
  startOfStream : Bytes
  clearUserData : Bytes → Bytes

variable {η β : Type} (C : PduCodec η β)

/-- The codec reads back what it writes, in the lengths of the standard. -/
structure PduCodec.Lawful (data : β → Bytes) : Prop where
  frameType_opcode : ∀ type, C.frameType (C.opcode type) = some type
  length_encodeHeader : ∀ h, (C.encodeHeader h).length = P25_PDU_HEADER_LENGTH_BYTES
  decodeHeader_encodeHeader : ∀ h, C.decodeHeader (C.encodeHeader h) = some h
  length_encodeBlock : ∀ b, (C.encodeBlock b).length = P25_PDU_CONFIRMED_LENGTH_BYTES
  data_encodeBlock : ∀ b, (C.encodeBlock b).drop 2 = data b
  length_startOfStream : C.startOfStream.length = 9
  length_clearUserData : ∀ buffer, (C.clearUserData buffer).length = buffer.length

/-! ## To the Quantar -/

/-- The serial number of a block without the bit of the checksum. -/
def wireSerial (b : β) : UInt8 := (C.encodeBlock b).getD 0 0 &&& 0xFE

/-- The data of a block. -/
def blockData (b : β) : Bytes :=
  ((C.encodeBlock b).drop 2).take P25_PDU_CONFIRMED_DATA_LENGTH_BYTES

/-- Write blocks at their offsets, each with its serial number. The first one is number `i`. -/
def writeBlocks (base : ℕ) : ℕ → List β → Bytes → Option Bytes
  | _, [], pduBuf => some pduBuf
  | i, b :: blocks, pduBuf => do
    let blockOffset := base + i * P25_PDU_CONFIRMED_LENGTH_BYTES
    let pduBuf ← copyTo pduBuf blockOffset [wireSerial C b]
    let pduBuf ← copyTo pduBuf (blockOffset + 1) (blockData C b)
    writeBlocks base (i + 1) blocks pduBuf

/-- The frame with the header. Each block starts with an alignment byte. -/
def headerFrame (type : FrameType) (dataHeader : η) (blocks : List β) (pduLen : ℕ) : Option Bytes := do
  let pduBuf ← copyTo (List.replicate pduLen 0) 0 C.startOfStream
  let pduBuf ← copyTo pduBuf 0 [C.opcode type]
  let pduBuf ← copyTo pduBuf 9 (C.encodeHeader dataHeader)
  writeBlocks C (9 + P25_PDU_HEADER_LENGTH_BYTES + 1) 0 blocks pduBuf

/-- The blocks of the frame with the header. -/
def headerBlockCount : ℕ := DFSI_PDU_BLOCK_CNT - 1

/-- The buffer of a data unit with more than three blocks, which every frame of it uses. -/
def pduCapacity : ℕ :=
  9 + P25_PDU_HEADER_LENGTH_BYTES + headerBlockCount * P25_PDU_CONFIRMED_LENGTH_BYTES

/-- A later frame. -/
def queueContinuation (type : FrameType) (blocks : List β) : Option Bytes := do
  let pduBuf ← copyTo (List.replicate pduCapacity 0) 0 [C.opcode type]
  let pduBuf ← writeBlocks C 1 0 blocks pduBuf
  slice pduBuf 0 (1 + blocks.length * P25_PDU_CONFIRMED_LENGTH_BYTES)

/-- The opcode after one of a later frame. -/
def nextOpcode : FrameType → FrameType
  | .MOT_PDU_CONF_BLOCK_1 => .MOT_PDU_CONF_BLOCK_2
  | .MOT_PDU_CONF_BLOCK_2 => .MOT_PDU_CONF_BLOCK_3
  | .MOT_PDU_CONF_BLOCK_3 => .MOT_PDU_CONF_BLOCK_4
  | _ => .MOT_PDU_CONF_BLOCK_1

/-- The later frames of a data unit. -/
def continuations (currentOpcode : FrameType) (remaining : List β) : Option (List Bytes) :=
  if DFSI_PDU_BLOCK_CNT < remaining.length then do
    let frame ← queueContinuation C currentOpcode (remaining.take DFSI_PDU_BLOCK_CNT)
    let frames ← continuations (nextOpcode currentOpcode) (remaining.drop DFSI_PDU_BLOCK_CNT)
    return frame :: frames
  else do
    let frame ← queueContinuation C .MOT_PDU_CONF_END remaining
    return [frame]
  termination_by remaining.length
  decreasing_by
    rw [List.length_drop]
    unfold DFSI_PDU_BLOCK_CNT at *
    omega

/-- The frames of a data unit. -/
def convertFromAirV24 (dataHeader : η) (dataBlocks : List β) : Option (List Bytes) :=
  let blocksToFollow := C.blocksToFollow dataHeader
  if blocksToFollow ≤ 3 then do
    let pduLen := 9 + P25_PDU_HEADER_LENGTH_BYTES + blocksToFollow * P25_PDU_CONFIRMED_LENGTH_BYTES
    let frame ← headerFrame C .MOT_PDU_SINGLE_CONF dataHeader (dataBlocks.take blocksToFollow) pduLen
    return [frame]
  else do
    let frame ← headerFrame C .MOT_PDU_CONF_HEADER dataHeader (dataBlocks.take headerBlockCount)
      pduCapacity
    let frames ← continuations C .MOT_PDU_CONF_BLOCK_1
      ((dataBlocks.take blocksToFollow).drop headerBlockCount)
    return frame :: frames

/-! ## From the Quantar -/

/-- The data unit that is being received. -/
structure RxCall (η : Type) where
  dataHeader : Option η
  pduUserData : Bytes
  pduUserDataOffset : ℕ
  pduTotalBlocks : ℕ

/-- Copy `count` blocks of a frame to the user data. The first one is number `i` of the frame. -/
def readBlocks (dfsiData : Bytes) (base : ℕ) : ℕ → ℕ → Bytes → ℕ → Option Bytes
  | _, 0, pduUserData, _ => some pduUserData
  | i, count + 1, pduUserData, offset => do
    let blockOffset := base + i * P25_PDU_CONFIRMED_LENGTH_BYTES
    let dataBlock ← slice dfsiData blockOffset P25_PDU_CONFIRMED_DATA_LENGTH_BYTES
    let pduUserData ← copyTo pduUserData offset dataBlock
    readBlocks dfsiData base (i + 1) count pduUserData (offset + P25_PDU_CONFIRMED_DATA_LENGTH_BYTES)

/-- The offset of the first block of a frame with a header. -/
def headerBase : ℕ := 9 + P25_PDU_HEADER_LENGTH_BYTES + 2

/-- Take up `count` blocks of a frame behind those that were taken up before. -/
def takeBlocks (rx : RxCall η) (dfsiData : Bytes) (base count : ℕ) : Option (RxCall η) := do
  let pduUserData ← readBlocks dfsiData base 0 count rx.pduUserData rx.pduUserDataOffset
  return { rx with
    pduUserData := pduUserData
    pduUserDataOffset := rx.pduUserDataOffset + count * P25_PDU_CONFIRMED_DATA_LENGTH_BYTES
    pduTotalBlocks := rx.pduTotalBlocks + count }

/-- One received frame. The outputs are the complete data units. A read or a copy beyond the end of
a buffer has no result. -/
def convertToAirV24 (rx : RxCall η) (dfsiData : Bytes) : Option (RxCall η × List (η × Bytes)) :=
  match dfsiData.head?.bind C.frameType with
  | none => some (rx, [])
  | some .MOT_PDU_SINGLE_CONF => do
    let headerData ← slice dfsiData 9 P25_PDU_HEADER_LENGTH_BYTES
    match C.decodeHeader headerData with
    | none => return (rx, [])
    | some pduHeader =>
      let pduUserData ← readBlocks dfsiData headerBase 0 (C.blocksToFollow pduHeader)
        (C.clearUserData rx.pduUserData) 0
      return (⟨some pduHeader, pduUserData, 0, 0⟩, [(pduHeader, pduUserData)])
  | some .MOT_PDU_CONF_HEADER => do
    let headerData ← slice dfsiData 9 P25_PDU_HEADER_LENGTH_BYTES
    match C.decodeHeader headerData with
    | none => return (rx, [])
    | some pduHeader =>
      let rx ← takeBlocks ⟨some pduHeader, C.clearUserData rx.pduUserData, 0, 0⟩ dfsiData headerBase 3
      return (rx, [])
  | some .MOT_PDU_CONF_END =>
    match rx.dataHeader with
    | none => some (rx, [])
    | some dataHeader => do
      let rx ← takeBlocks rx dfsiData 2 (C.blocksToFollow dataHeader - rx.pduTotalBlocks)
      return (rx, [(dataHeader, rx.pduUserData)])
  | some _ =>
    match rx.dataHeader with
    | none => some (rx, [])
    | some _ => do
      let rx ← takeBlocks rx dfsiData 2 4
      return (rx, [])

/-- Frames in order. -/
def receiveAll : RxCall η → List Bytes → Option (RxCall η × List (η × Bytes))
  | rx, [] => some (rx, [])
  | rx, frame :: frames => do
    let (rx, stored) ← convertToAirV24 C rx frame
    let (rx, more) ← receiveAll rx frames
    return (rx, stored ++ more)

end V24
