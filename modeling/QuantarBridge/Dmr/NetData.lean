import Mathlib.Data.Vector.Basic

/-!
# DMR frames

`NetData` is one DMR frame as the bridge passes it between BrandMeister and the local FNE: the
addressing fields, the type of the burst and its 33 payload bytes.

* `Payload`: exactly 33 bytes, `Payload.ofBytes` is the zeroed buffer a shorter message is copied
  into;
* `dmrFrameSignature`: the 64-bit hash by which the duplicate and echo filters know a frame;
* `isDmrPacketDataFrame`: the burst types that carry packet data;
* `parseFNERawDMR`: the frame in a packet of the local FNE.
-/

set_option autoImplicit false

namespace Dmr

/-- The types of a DMR burst. `reserved` stands for the unassigned values of the four-bit field. -/
inductive DataType
  | VOICE_PI_HEADER | VOICE_LC_HEADER | TERMINATOR_WITH_LC | CSBK | MBC_HEADER | MBC_DATA
  | DATA_HEADER | RATE_12_DATA | RATE_34_DATA | IDLE | RATE_1_DATA | reserved (value : Fin 5)
  | VOICE_SYNC | VOICE
  deriving DecidableEq

/-- The number of a burst type. -/
def DataType.value : DataType → ℕ
  | .VOICE_PI_HEADER => 0x00
  | .VOICE_LC_HEADER => 0x01
  | .TERMINATOR_WITH_LC => 0x02
  | .CSBK => 0x03
  | .MBC_HEADER => 0x04
  | .MBC_DATA => 0x05
  | .DATA_HEADER => 0x06
  | .RATE_12_DATA => 0x07
  | .RATE_34_DATA => 0x08
  | .IDLE => 0x09
  | .RATE_1_DATA => 0x0A
  | .reserved v => 0x0B + v
  | .VOICE_SYNC => 0xF0
  | .VOICE => 0xF1

/-- The burst type of a four-bit number. -/
def DataType.ofNibble : Fin 16 → DataType
  | 0x00 => .VOICE_PI_HEADER
  | 0x01 => .VOICE_LC_HEADER
  | 0x02 => .TERMINATOR_WITH_LC
  | 0x03 => .CSBK
  | 0x04 => .MBC_HEADER
  | 0x05 => .MBC_DATA
  | 0x06 => .DATA_HEADER
  | 0x07 => .RATE_12_DATA
  | 0x08 => .RATE_34_DATA
  | 0x09 => .IDLE
  | 0x0A => .RATE_1_DATA
  | v => .reserved (Fin.ofNat 5 (v - 0x0B))

/-- Group or private call. -/
inductive FLCO
  | GROUP | PRIVATE
  deriving DecidableEq

/-- The number of a link control opcode. -/
def FLCO.value : FLCO → ℕ
  | .GROUP => 0
  | .PRIVATE => 3

/-- The payload of a burst. -/
abbrev Payload := List.Vector UInt8 33

/-- A zeroed buffer with as many of the bytes copied in as fit. -/
def Payload.ofBytes (bytes : List UInt8) : Payload :=
  ⟨bytes.take 33 ++ List.replicate (33 - bytes.length) 0, by
    rw [List.length_append, List.length_take, List.length_replicate]; omega⟩

/-- One DMR frame. -/
structure NetData where
  slotNo : ℕ
  srcId : ℕ
  dstId : ℕ
  flco : FLCO
  n : ℕ
  seqNo : ℕ
  dataType : DataType
  data : Payload
  ber : UInt8 := 0
  rssi : UInt8 := 0
  control : UInt8 := 0
  deriving DecidableEq

/-- Fold one value into a 64-bit hash. -/
def hashCombine (seed value : UInt64) : UInt64 :=
  seed ^^^ (value + (0x9e3779b97f4a7c15 : UInt64) + (seed <<< 6) + (seed >>> 2))

/-- The hash by which the filters know a frame. -/
def dmrFrameSignature (data : NetData) : UInt64 :=
  data.data.toList.foldl (fun signature byte => hashCombine signature byte.toUInt64)
    (([data.seqNo, data.srcId, data.dstId, data.slotNo, data.flco.value, data.dataType.value,
      data.n]).foldl (fun signature field => hashCombine signature (UInt64.ofNat field)) 0)

/-- The burst types of packet data. -/
def isDmrPacketDataFrame (data : NetData) : Bool :=
  data.dataType = .CSBK ∨ data.dataType = .DATA_HEADER ∨ data.dataType = .RATE_12_DATA ∨
    data.dataType = .RATE_34_DATA ∨ data.dataType = .RATE_1_DATA

/-- Three bytes, most significant byte first. -/
def readId (buffer : List UInt8) (at_ : ℕ) : ℕ :=
  ((buffer.getD at_ 0).toNat * 256 + (buffer.getD (at_ + 1) 0).toNat) * 256 +
    (buffer.getD (at_ + 2) 0).toNat

/-- The frame in a packet of the local FNE. Anything else throws. -/
def parseFNERawDMR (buffer : List UInt8) : Option NetData :=
  if buffer.length < 55 ∨ buffer.take 4 ≠ [0x44, 0x4D, 0x52, 0x44] then none
  else
    let flags := buffer.getD 15 0
    let nibble := Fin.ofNat 16 (flags &&& 0x0F).toNat
    some
      { seqNo := (buffer.getD 4 0).toNat
        srcId := readId buffer 5
        dstId := readId buffer 8
        slotNo := if flags &&& 0x80 ≠ 0 then 2 else 1
        flco := if flags &&& 0x40 ≠ 0 then .PRIVATE else .GROUP
        control := buffer.getD 14 0
        ber := buffer.getD 53 0
        rssi := buffer.getD 54 0
        dataType := if flags &&& 0x20 = 0x20 then DataType.ofNibble nibble
          else if flags &&& 0x10 = 0x10 then .VOICE_SYNC else .VOICE
        n := if flags &&& 0x20 = 0x20 ∨ flags &&& 0x10 = 0x10 then 0 else nibble
        data := Payload.ofBytes (buffer.drop 20) }

end Dmr
