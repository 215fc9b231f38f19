import Mathlib.Algebra.Order.Field.Rat
import Mathlib.Tactic.Linarith
import Mathlib.Tactic.NormNum
import QuantarBridge.Lib.Decimal
import QuantarBridge.PacketData.Codec

/-!
# Positions on the map

The dashboard shows the position of a radio. It reads the coordinates out of the location report that
the data host stored.

* `int32`: a signed 32-bit number;
* `positionFields`: the fields of a report;
* `decodeMotorolaLrrpPosition`: the position of a packet;
* `coordinates_in_range`: no coordinates are out of range.
-/

set_option autoImplicit false

namespace Dashboard

open Lib PacketData

/-- The signed number of four bytes, most significant byte first. -/
def int32 (data : Bytes) : ℤ :=
  let value := readUint16 data 0 * 65536 + readUint16 data 2
  if value < 2147483648 then value else (value : ℤ) - 4294967296

/-- The bytes behind a number in groups of seven bits. -/
def dropVlq : Bytes → Bytes
  | [] => []
  | byte :: rest => if byte &&& 0x80 = 0 then rest else dropVlq rest

/-- The coordinates are on the globe. -/
def inRange (latitude longitude : ℚ) : Prop :=
  (-90 ≤ latitude ∧ latitude ≤ 90) ∧ -180 ≤ longitude ∧ longitude ≤ 180

instance (latitude longitude : ℚ) : Decidable (inRange latitude longitude) :=
  inferInstanceAs (Decidable (_ ∧ _))

/-- Go through the fields of a report. Each turn takes at least one byte, so as many turns as bytes
are enough. The coordinates are rounded to seven decimals. -/
def positionFields (round7 : ℚ → ℚ) : ℕ → Bytes → Option (ℚ × ℚ)
  | 0, _ => none
  | _, [] => none
  | fuel + 1, report@(token :: rest) =>
    if token = 0x34 then positionFields round7 fuel (report.drop 6)
    else if token = 0x37 then positionFields round7 fuel (dropVlq rest)
    else if (token = 0x51 ∨ token = 0x55 ∨ token = 0x66 ∨ token = 0x69) ∧ 9 ≤ report.length then
      let latitude := (int32 (rest.take 4) : ℚ) * 180 / 2 ^ 32
      let longitude := (int32 ((rest.drop 4).take 4) : ℚ) * 360 / 2 ^ 32
      if inRange latitude longitude then some (round7 latitude, round7 longitude) else none
    else none

/-- The bytes behind the request id of a report. -/
def skipRequestId (fields : Bytes) : Bytes :=
  if 2 ≤ fields.length ∧ fields.getD 0 0 = 0x22 then fields.drop (2 + (fields.getD 1 0).toNat)
  else fields

/-- The position in a packet. -/
def decodeMotorolaLrrpPosition (round7 : ℚ → ℚ) (packet : Bytes) : Option (ℚ × ℚ) :=
  if packet.length < 39 ∨ packet.getD 0 0 >>> 4 ≠ 4 ∨ packet.getD 9 0 ≠ 0x11 then none
  else
    let ipHeaderLength := (packet.getD 0 0 &&& 0x0F).toNat * 4
    if ipHeaderLength < 20 ∨ packet.length < ipHeaderLength + 10 then none
    else
      let udpLength := readUint16 packet (ipHeaderLength + 4)
      if udpLength < 10 ∨ packet.length < ipHeaderLength + udpLength then none
      else
        let payload := (packet.drop (ipHeaderLength + 8)).take (udpLength - 8)
        let messageType := payload.getD 0 0 &&& 0x7F
        let reportLength := (payload.getD 1 0).toNat + 2
        if payload.length < 2 ∨ (messageType ≠ 0x07 ∧ messageType ≠ 0x0D) then none
        else if payload.length < reportLength then none
        else
          let fields := skipRequestId ((payload.take reportLength).drop 2)
          positionFields round7 fields.length fields

theorem int32_bounds (data : Bytes) : -2147483648 ≤ int32 data ∧ int32 data < 2147483648 := by
  have hhigh := readUint16_lt data 0
  have hlow := readUint16_lt data 2
  unfold int32
  simp only
  split_ifs <;> omega

/-- **No coordinates are out of range.** -/
theorem coordinates_in_range (latitude longitude : Bytes) :
    inRange ((int32 latitude : ℚ) * 180 / 2 ^ 32) ((int32 longitude : ℚ) * 360 / 2 ^ 32) := by
  have hscale : ∀ (data : Bytes), -2147483648 ≤ (int32 data : ℚ) ∧ (int32 data : ℚ) ≤ 2147483648 := by
    intro data
    obtain ⟨hlow, hhigh⟩ := int32_bounds data
    exact ⟨by exact_mod_cast hlow, by exact_mod_cast hhigh.le⟩
  obtain ⟨hlow, hhigh⟩ := hscale latitude
  obtain ⟨hlow', hhigh'⟩ := hscale longitude
  norm_num [inRange]
  refine ⟨⟨?_, ?_⟩, ?_, ?_⟩ <;> linarith

end Dashboard
