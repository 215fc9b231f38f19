import QuantarBridge.Dmr.NetData

/-!
# The DMR packet-data codec

The bridge leaves the coding of data headers and data blocks to the DVM library. A `Codec` is that
library as the bridge calls it. It is `Transparent` when the padding and the CRC go behind the packet,
and it `Carries` a packet when the assembler cuts it into blocks of twelve bytes, and decoding gives
back what the bridge reads of the header and each of the blocks.

* `DataHeader`, `DataBlock`, `BlockWrite`: the records the library exchanges with the bridge;
* `Codec`, `Codec.Transparent`, `Codec.Carries`;
* `readUint16`, `bytes32`: big-endian fields;
* `isPayloadDataType`: the burst types of data blocks.
-/

set_option autoImplicit false

namespace PacketData

open Dmr

/-- The data packet formats the bridge tells apart. -/
inductive DPF
  | UNCONFIRMED_DATA | CONFIRMED_DATA | DEFINED_SHORT | other (value : UInt8)
  deriving DecidableEq

/-- The service access points the bridge tells apart. -/
inductive PDUSAP
  | PACKET_DATA | SHORT_DATA | other (value : UInt8)
  deriving DecidableEq

/-- A decoded data header. -/
structure DataHeader where
  dpf : DPF
  a : Bool
  sap : PDUSAP
  srcId : UInt32
  dstId : UInt32
  gi : Bool
  fullMessage : Bool
  synchronize : Bool
  fsn : UInt8
  ns : UInt8
  padLength : UInt8
  blocksToFollow : UInt8
  deriving DecidableEq

/-- A decoded data block. -/
structure DataBlock where
  serialNo : ℕ
  bytes : List UInt8
  deriving DecidableEq

/-- One call of the assembler's block writer. The data pointer may be null. -/
structure BlockWrite where
  currentBlock : ℕ
  data : Option (List UInt8)

/-- The library functions the bridge calls. -/
structure Codec where
  headerDecode : Payload → Option DataHeader
  blockDecode : DataType → DataHeader → Payload → Option DataBlock
  calculateLength : DataType → ℕ → DataHeader → DataHeader
  userData : DataHeader → List UInt8 → List UInt8
  assemble : DataHeader → DataType → List UInt8 → List BlockWrite
  addBurstMetadata : DataType → ℕ → Payload → Payload
  csbkBurst : List UInt8 → Payload

/-- The twelve bytes of block `i`. -/
def blockBytes (userData : List UInt8) (i : ℕ) : List UInt8 := (userData.drop (12 * i)).take 12

/-- The blocks of a packet, in order. -/
def packetBlocks (userData : List UInt8) (blocksToFollow : ℕ) : List (List UInt8) :=
  (List.range blocksToFollow).map (blockBytes userData)

/-- **What the bridge relies on.** The length calculation sets the two length fields. The user data
starts with a packet that fits into the announced blocks, and fills them. -/
structure Codec.Transparent (D : Codec) : Prop where
  calculateLength : ∀ len h, ∃ pad blocks, D.calculateLength .RATE_12_DATA len h =
    { h with padLength := pad, blocksToFollow := blocks }
  userData_prefix : ∀ h ip, ip.length ≤ 12 * h.blocksToFollow.toNat → ip <+: D.userData h ip
  userData_length : ∀ h ip, 12 * h.blocksToFollow.toNat ≤ (D.userData h ip).length

/-- What the bridge reads of a header of unconfirmed data is the same. -/
structure DataHeader.Agrees (h' h : DataHeader) : Prop where
  dpf : h'.dpf = h.dpf
  sap : h'.sap = h.sap
  padLength : h'.padLength = h.padLength
  blocksToFollow : h'.blocksToFollow = h.blocksToFollow

/-- **The codec carries a packet.** The assembler writes the header and then the blocks in order. The
first decodes to a header that agrees with the one written, and the others to the twelve bytes of the
block; how a block is decoded depends on the format of the header only. -/
def Codec.Carries (D : Codec) (h : DataHeader) (ip : List UInt8) : Prop :=
  ∃ header : List UInt8, ∃ block : ℕ → List UInt8,
    D.assemble h .RATE_12_DATA ip = ⟨0, some header⟩ ::
      (List.range h.blocksToFollow.toNat).map (fun i => ⟨i + 1, some (block i)⟩) ∧
    (∀ colorCode, ∃ h', D.headerDecode
      (D.addBurstMetadata .DATA_HEADER colorCode (Payload.ofBytes header)) = some h' ∧ h'.Agrees h) ∧
    ∀ i < h.blocksToFollow.toNat, ∀ colorCode h', h'.dpf = .UNCONFIRMED_DATA →
      ∃ serialNo, D.blockDecode .RATE_12_DATA h'
        (D.addBurstMetadata .RATE_12_DATA colorCode (Payload.ofBytes (block i))) =
          some ⟨serialNo, blockBytes (D.userData h ip) i⟩

/-- The header of a packet as the wire has room for it: five bits for the pad, seven for the number of
blocks. -/
structure DataHeader.OnWire (h : DataHeader) : Prop where
  dpf : h.dpf = .UNCONFIRMED_DATA
  sap : h.sap = .PACKET_DATA
  padLength : h.padLength.toNat < 32
  blocksToFollow : h.blocksToFollow.toNat < 128

/-- The big-endian 16-bit field at `offset`. -/
def readUint16 (data : List UInt8) (offset : ℕ) : ℕ :=
  (data.getD offset 0).toNat * 256 + (data.getD (offset + 1) 0).toNat

theorem readUint16_lt (data : List UInt8) (offset : ℕ) : readUint16 data offset < 65536 := by
  have h := (data.getD offset 0).toNat_lt
  have h' := (data.getD (offset + 1) 0).toNat_lt
  rw [readUint16]
  omega

/-- The bytes of a 32-bit value, most significant first. -/
def bytes32 (value : ℕ) : List UInt8 :=
  [UInt8.ofNat (value >>> 24), UInt8.ofNat (value >>> 16), UInt8.ofNat (value >>> 8),
    UInt8.ofNat value]

/-- The burst types that carry a data block. -/
def isPayloadDataType (dataType : DataType) : Bool :=
  dataType = .RATE_12_DATA ∨ dataType = .RATE_34_DATA ∨ dataType = .RATE_1_DATA

theorem length_packetBlocks (userData : List UInt8) (n : ℕ) :
    (packetBlocks userData n).length = n := by
  rw [packetBlocks, List.length_map, List.length_range]

theorem packetBlocks_succ (userData : List UInt8) (n : ℕ) :
    packetBlocks userData (n + 1) = packetBlocks userData n ++ [blockBytes userData n] := by
  rw [packetBlocks, List.range_succ, List.map_append]
  rfl

theorem flatten_packetBlocks (userData : List UInt8) (n : ℕ) :
    (packetBlocks userData n).flatten = userData.take (12 * n) := by
  induction n with
  | zero => simp [packetBlocks]
  | succ n ih =>
    rw [packetBlocks_succ, List.flatten_append, ih, List.flatten_singleton, blockBytes,
      Nat.mul_succ, List.take_add]

end PacketData
