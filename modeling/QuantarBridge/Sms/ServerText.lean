import QuantarBridge.Sms.Units

/-!
# The text of a server

A text message in the format of a server has a line break in front of its text, and the parser looks for
this line break behind the message number.

* `tmsLayout`, `build_server`: the bytes of a message;
* `afterBreak`, `afterLineBreak_bytesLe`: the search for the line break, in code units;
* `parse_server`: **a message is read back**.
-/

set_option autoImplicit false

namespace Sms

open Lib PacketData

/-! ## The bytes of a message -/

/-- The message number and the encoding, as a code unit. -/
def markerUnit (messageId : UInt8) : ℕ := 0x400 + (0x80 ||| (messageId &&& 0x1F)).toNat

/-- A message with an address and a text. -/
def tmsLayout (address : List ℕ) (messageId : UInt8) (units : List ℕ) : Bytes :=
  bytes16 (4 + 2 * (address.length + units.length)) ++ [0xE0, UInt8.ofNat (2 * address.length)] ++
    bytesLe (address ++ markerUnit messageId :: units)

section Layout

variable {address units : List ℕ} {messageId : UInt8}

theorem toNat_marker (messageId : UInt8) :
    (0x80 ||| (messageId &&& 0x1F)).toNat = 0x80 + messageId.toNat % 32 := by
  have hmask : messageId.toNat &&& 0x1F = messageId.toNat % 32 := Nat.and_two_pow_sub_one_eq_mod _ 5
  have hor : 0x80 ||| messageId.toNat % 32 = 0x80 + messageId.toNat % 32 :=
    (Nat.two_pow_add_eq_or_of_lt (i := 7) (by omega) 1).symm
  rw [UInt8.toNat_or, UInt8.toNat_and]
  show 0x80 ||| (messageId.toNat &&& 0x1F) = _
  rw [hmask, hor]

theorem markerUnit_bounds (messageId : UInt8) :
    0x480 ≤ markerUnit messageId ∧ markerUnit messageId < 0x4A0 := by
  unfold markerUnit
  rw [toNat_marker]
  omega

theorem bytesLe_marker (messageId : UInt8) :
    bytesLe [markerUnit messageId] = [0x80 ||| (messageId &&& 0x1F), 0x04] := by
  have hmarker := toNat_marker messageId
  have hlow : UInt8.ofNat (markerUnit messageId) = 0x80 ||| (messageId &&& 0x1F) := by
    apply UInt8.toNat_inj.mp
    rw [UInt8.toNat_ofNat', markerUnit]
    omega
  have hhigh : UInt8.ofNat (markerUnit messageId / 256) = 0x04 := by
    have hbounds := markerUnit_bounds messageId
    have : markerUnit messageId / 256 = 4 := by omega
    rw [this]
    rfl
  show [UInt8.ofNat (markerUnit messageId), UInt8.ofNat (markerUnit messageId / 256)] = _
  rw [hlow, hhigh]

theorem length_tmsLayout : (tmsLayout address messageId units).length =
    6 + 2 * (address.length + units.length) := by
  unfold tmsLayout
  rw [List.length_append, length_bytesLe, List.length_append, List.length_cons]
  show 2 + 2 + 2 * (address ++ _ :: units).length = _
  rw [List.length_append, List.length_cons]
  omega

theorem build_layout (messageId : UInt8) (units : List ℕ) {addressBytes : Bytes} (haddress : addressBytes = bytesLe address) :
    (let content := [0xE0, UInt8.ofNat addressBytes.length] ++ addressBytes ++
      [0x80 ||| (messageId &&& 0x1F), 0x04] ++ bytesLe units
    if 0xFFFF < content.length then ([] : Bytes) else bytes16 content.length ++ content) =
    if 4 + 2 * (address.length + units.length) ≤ 0xFFFF then tmsLayout address messageId units
    else [] := by
  have hlength : ([0xE0, UInt8.ofNat addressBytes.length] ++ addressBytes ++
      [0x80 ||| (messageId &&& 0x1F), 0x04] ++ bytesLe units).length =
      4 + 2 * (address.length + units.length) := by
    simp only [List.length_append, List.length_cons, List.length_nil, haddress, length_bytesLe]
    omega
  dsimp only
  rw [hlength]
  by_cases hfits : 4 + 2 * (address.length + units.length) ≤ 0xFFFF
  · have hunits : bytesLe (address ++ markerUnit messageId :: units) =
        bytesLe address ++ ([0x80 ||| (messageId &&& 0x1F), 0x04] ++ bytesLe units) := by
      rw [bytesLe_append, ← List.singleton_append, bytesLe_append, bytesLe_marker]
    rw [if_neg (by omega), if_pos hfits, tmsLayout, haddress, length_bytesLe, hunits]
    simp only [List.append_assoc]
  · rw [if_pos (by omega), if_neg hfits]

/-- **A message for a server.** -/
theorem build_server (h : Printable units) (sourceRid : ℕ) (messageId : UInt8) :
    buildMotorolaTmsPayload sourceRid (toBytes units) messageId true =
      some (if 8 + 2 * units.length ≤ 0xFFFF then tmsLayout [] messageId (0x0D :: 0x0A :: units)
        else []) := by
  have hprintable : Printable (0x0D :: 0x0A :: units) :=
    List.forall_mem_cons.mpr ⟨by decide, List.forall_mem_cons.mpr ⟨by decide, h⟩⟩
  have hbody : encodeUtf16Le (0x0D :: 0x0A :: toBytes units) false =
      some (bytesLe (0x0D :: 0x0A :: units)) := encodeUtf16Le_toBytes hprintable
  have hlayout := build_layout messageId (0x0D :: 0x0A :: units)
    (show ([] : Bytes) = bytesLe [] from rfl)
  have hfits : 4 + 2 * (([] : List ℕ).length + (0x0D :: 0x0A :: units).length) =
      8 + 2 * units.length := by
    simp only [List.length_cons, List.length_nil]
    omega
  rw [hfits] at hlayout
  unfold buildMotorolaTmsPayload
  simp only [if_true, Option.bind_eq_bind, Option.bind_some, List.length_nil, Nat.not_lt_zero, if_false,
    hbody]
  exact congrArg some hlayout

/-! ## What the parser reads -/

theorem tmsLayout_drop : (tmsLayout address messageId units).drop 4 =
    bytesLe (address ++ markerUnit messageId :: units) := rfl

theorem tmsLayout_operation : (tmsLayout address messageId units).getD 2 0 = 0xE0 := rfl

end Layout

/-- The code units behind the first line break. -/
def afterBreak : List ℕ → Option (List ℕ)
  | a :: b :: rest => if a = 0x0D ∧ b = 0x0A then some rest else afterBreak (b :: rest)
  | _ => none

/-- **The search for the line break** finds it where it is in the code units. -/
theorem afterLineBreak_bytesLe : ∀ {units : List ℕ}, (∀ unit ∈ units, unit < 0x10000) →
    afterLineBreak (bytesLe units) = (afterBreak units).map bytesLe
  | [], _ => rfl
  | [_], _ => rfl
  | a :: b :: rest, h => by
    have ih := afterLineBreak_bytesLe fun unit hmem => h unit (List.mem_cons_of_mem _ hmem)
    have ha := h a (by simp)
    have hb := h b (by simp)
    have hbytes : UInt8.ofNat a = 0x0D ∧ UInt8.ofNat (a / 256) = 0x00 ∧ UInt8.ofNat b = 0x0A ∧
        UInt8.ofNat (b / 256) = 0x00 ↔ a = 0x0D ∧ b = 0x0A := by
      simp only [← UInt8.toNat_inj, UInt8.toNat_ofNat']
      show a % 256 = 13 ∧ a / 256 % 256 = 0 ∧ b % 256 = 10 ∧ b / 256 % 256 = 0 ↔ _
      omega
    show (if UInt8.ofNat a = 0x0D ∧ UInt8.ofNat (a / 256) = 0x00 ∧ UInt8.ofNat b = 0x0A ∧
        UInt8.ofNat (b / 256) = 0x00 then some (bytesLe rest) else afterLineBreak (bytesLe (b :: rest))) =
      Option.map bytesLe (if a = 0x0D ∧ b = 0x0A then some rest else afterBreak (b :: rest))
    simp only [hbytes, ih]
    split_ifs
    · rfl
    · rfl

theorem afterBreak_append {front units : List ℕ} (h : 0x0D ∉ front) :
    afterBreak (front ++ units) = afterBreak units := by
  induction front with
  | nil => rfl
  | cons a front ih =>
    rw [List.mem_cons, not_or] at h
    rw [← ih h.2]
    cases hrest : front ++ units with
    | nil =>
      rw [List.cons_append, hrest]
      rfl
    | cons b rest =>
      rw [List.cons_append, hrest, afterBreak, if_neg fun hbreak => h.1 hbreak.1.symm]

theorem parseServerText_bytesLe {units : List ℕ} (h : Printable units) (data : Bytes) :
    parseServerText data (bytesLe units) =
      if trim (toBytes units) = [] then none
      else some
        { text := trim (toBytes units)
          textFragment := []
          operation := data.getD 2 0
          messageId := data.getD 4 0 &&& 0x1F } := by
  unfold parseServerText
  rw [unitsLe_bytesLe fun unit hmem => (h unit hmem).1,
    decodeUnits_of_printable fun unit hmem => (h unit hmem).2]
  cases units with
  | nil => rfl
  | cons unit units => rfl

/-- **A message is read back**: its operation, its number and its text. -/
theorem parse_server {units : List ℕ} (h : Printable units) (hblank : trim (toBytes units) ≠ [])
    (hfits : 8 + 2 * units.length ≤ 0xFFFF) {messageId : UInt8} (hid : messageId < 32)
    (sourceRid : ℕ) :
    ∃ payload parsed, buildMotorolaTmsPayload sourceRid (toBytes units) messageId true = some payload ∧
      parseMotorolaTms payload = some parsed ∧ parsed.operation = 0xE0 ∧
      parsed.messageId = messageId ∧ parsed.text = trim (toBytes units) := by
  have hunits : ∀ unit ∈ markerUnit messageId :: 0x0D :: 0x0A :: units, unit < 0x10000 := by
    have hbounds := markerUnit_bounds messageId
    refine List.forall_mem_cons.mpr ⟨by omega, List.forall_mem_cons.mpr ⟨by omega,
      List.forall_mem_cons.mpr ⟨by omega, fun unit hmem => (h unit hmem).1⟩⟩⟩
  have hbreak : afterLineBreak ((tmsLayout [] messageId (0x0D :: 0x0A :: units)).drop 4) =
      some (bytesLe units) := by
    have hfound : afterBreak ([markerUnit messageId] ++ 0x0D :: 0x0A :: units) = some units := by
      have hbounds := markerUnit_bounds messageId
      rw [afterBreak_append (by rw [List.mem_singleton]; omega)]
      rfl
    rw [tmsLayout_drop, List.nil_append, afterLineBreak_bytesLe hunits]
    exact congrArg (Option.map bytesLe) hfound
  have hnonempty : 0 < units.length := by
    cases units with
    | nil => exact absurd rfl hblank
    | cons unit units => exact Nat.succ_pos _
  have hnumber : (tmsLayout [] messageId (0x0D :: 0x0A :: units)).getD 4 0 &&& 0x1F = messageId := by
    have hbyte : (tmsLayout [] messageId (0x0D :: 0x0A :: units)).getD 4 0 =
        UInt8.ofNat (markerUnit messageId) := rfl
    have hlt : messageId.toNat < 32 := UInt8.lt_iff_toNat_lt.mp hid
    apply UInt8.toNat_inj.mp
    rw [hbyte, UInt8.toNat_and, UInt8.toNat_ofNat', markerUnit, toNat_marker]
    show (0x400 + (0x80 + messageId.toNat % 32)) % 256 &&& (2 ^ 5 - 1) = messageId.toNat
    rw [Nat.and_two_pow_sub_one_eq_mod]
    omega
  refine ⟨_, { text := trim (toBytes units), textFragment := [], operation := 0xE0, messageId := messageId },
    by rw [build_server h, if_pos hfits], ?_, rfl, rfl, rfl⟩
  unfold parseMotorolaTms
  rw [if_neg (by rw [length_tmsLayout]; simp only [List.length_cons]; omega), if_pos tmsLayout_operation,
    hbreak]
  dsimp only
  rw [parseServerText_bytesLe h, if_neg hblank, hnumber]
  rfl

/-- A greeting with a line break of its own. -/
theorem parse_server_sample : ∃ payload parsed,
    buildMotorolaTmsPayload 1000001 (toBytes [0x48, 0x0D, 0x0A, 0x69]) 5 true = some payload ∧
      parseMotorolaTms payload = some parsed ∧ parsed.operation = 0xE0 ∧ parsed.messageId = 5 ∧
      parsed.text = trim (toBytes [0x48, 0x0D, 0x0A, 0x69]) :=
  parse_server (by decide) (by decide) (by decide) (by decide) 1000001

end Sms
