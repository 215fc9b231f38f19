import QuantarBridge.Brandmeister.Session

/-!
# Frames in homebrew packets

A frame is written as a packet of 55 bytes. One byte of it tells the slot, the call type, the burst and
either its number or its type. Frames of BrandMeister are read by `BMNetwork.read`, those of the local
FNE by `parseFNERawDMR`.

* `flagByte`, `BurstKind`: the byte of the flags, put together from its parts;
* `parseHomebrewPacket_build`: **a frame survives its packet**;
* `rxPackets_reads`: the packets are read in the order in which they came;
* `parseFNERawDMR_eq`: **the two decoders agree**, apart from the control byte;
* `homebrewFrames_roundTrip`: both facts, of a connection.
-/

set_option autoImplicit false

namespace Brandmeister

open Dmr Lib PacketData

variable {τ : Type}

/-! ## The flags -/

/-- What the lower six bits of the flags tell. -/
inductive BurstKind
  | voice (n : Fin 16)
  | voiceSync
  | dataSync (nibble : Fin 16)
  deriving DecidableEq

/-- The lower six bits. -/
def BurstKind.bits : BurstKind → UInt8
  | .voice n => UInt8.ofNat n
  | .voiceSync => 0x10
  | .dataSync nibble => 0x20 ||| UInt8.ofNat nibble

/-- The byte of a slot, a call type and a burst. -/
def flagByte (second priv : Bool) (kind : BurstKind) : UInt8 :=
  (if second then 0x80 else 0x00) ||| (if priv then 0x40 else 0x00) ||| kind.bits

section Flags

variable (second priv : Bool) (kind : BurstKind)

theorem flagByte_second : flagByte second priv kind &&& 0x80 ≠ 0 ↔ second = true := by
  cases kind with
  | voice n => revert second priv n; decide
  | voiceSync => revert second priv; decide
  | dataSync nibble => revert second priv nibble; decide

theorem flagByte_priv : flagByte second priv kind &&& 0x40 ≠ 0 ↔ priv = true := by
  cases kind with
  | voice n => revert second priv n; decide
  | voiceSync => revert second priv; decide
  | dataSync nibble => revert second priv nibble; decide

theorem flagByte_voice (n : Fin 16) : flagByte second priv (.voice n) &&& 0x30 = 0 ∧
    (flagByte second priv (.voice n)).toNat % 16 = n := by
  revert second priv n
  decide

theorem flagByte_voiceSync : flagByte second priv .voiceSync &&& 0x20 = 0 ∧
    flagByte second priv .voiceSync &&& 0x10 ≠ 0 := by
  revert second priv
  decide

theorem flagByte_dataSync (nibble : Fin 16) : flagByte second priv (.dataSync nibble) &&& 0x20 ≠ 0 ∧
    (flagByte second priv (.dataSync nibble)).toNat % 16 = nibble := by
  revert second priv nibble
  decide

end Flags

theorem masks_ofNat : ∀ k : Fin 256, (UInt8.ofNat k &&& 0x30 ≠ 0 ↔
    UInt8.ofNat k &&& 0x20 = 0x20 ∨ UInt8.ofNat k &&& 0x10 = 0x10) ∧
    (UInt8.ofNat k &&& 0x20 ≠ 0 ↔ UInt8.ofNat k &&& 0x20 = 0x20) ∧
    (UInt8.ofNat k &&& 0x10 ≠ 0 ↔ UInt8.ofNat k &&& 0x10 = 0x10) ∧
    (UInt8.ofNat k &&& 0x0F).toNat = (UInt8.ofNat k).toNat % 16 := by
  decide +kernel

theorem masks (flags : UInt8) : (flags &&& 0x30 ≠ 0 ↔ flags &&& 0x20 = 0x20 ∨ flags &&& 0x10 = 0x10) ∧
    (flags &&& 0x20 ≠ 0 ↔ flags &&& 0x20 = 0x20) ∧ (flags &&& 0x10 ≠ 0 ↔ flags &&& 0x10 = 0x10) ∧
    (flags &&& 0x0F).toNat = flags.toNat % 16 := by
  have h := masks_ofNat ⟨flags.toNat, flags.toNat_lt⟩
  rw [UInt8.ofNat_toNat] at h
  exact h

/-! ## Frames that can be sent -/

/-- A frame of the configured slot whose fields fit into the packet. -/
structure Transmittable (cfg : BMConfig) (data : NetData) : Prop where
  slotNo : data.slotNo = cfg.timeslot
  seqNo : data.seqNo < 2 ^ 8
  srcId : data.srcId < 2 ^ 24
  dstId : data.dstId < 2 ^ 24
  n : data.dataType = .VOICE → data.n ≤ 15

/-- The frame at the other end. Only voice frames have a number, and none has a control byte. -/
def received (data : NetData) : NetData :=
  { data with control := 0, n := if data.dataType = .VOICE then data.n else 0 }

/-- The kind of a burst. -/
def burstKind (data : NetData) : BurstKind :=
  match data.dataType with
  | .VOICE_SYNC => .voiceSync
  | .VOICE => .voice (@Fin.ofNat 16 neZero_sixteen data.n)
  | dataType => .dataSync (@Fin.ofNat 16 neZero_sixteen dataType.value)

section Build

variable {cfg : BMConfig} {data : NetData}

theorem ofNat_and_nibble (n : ℕ) :
    UInt8.ofNat n &&& 0x0F = UInt8.ofNat (@Fin.ofNat 16 neZero_sixteen n) := by
  refine UInt8.toNat_inj.mp ?_
  rw [(masks _).2.2.2, UInt8.toNat_ofNat', UInt8.toNat_ofNat']
  show n % 256 % 16 = n % 16 % 256
  omega

theorem ofNibble_value {dataType : DataType} (hs : dataType ≠ .VOICE_SYNC) (hv : dataType ≠ .VOICE) :
    DataType.ofNibble (@Fin.ofNat 16 neZero_sixteen dataType.value) = dataType := by
  cases dataType with
  | VOICE_SYNC => exact absurd rfl hs
  | VOICE => exact absurd rfl hv
  | reserved v => revert v; decide
  | _ => decide

theorem burstKind_voice (hv : data.dataType = .VOICE) :
    burstKind data = .voice (@Fin.ofNat 16 neZero_sixteen data.n) := by
  unfold burstKind
  rw [hv]

theorem burstKind_voiceSync (hs : data.dataType = .VOICE_SYNC) : burstKind data = .voiceSync := by
  unfold burstKind
  rw [hs]

theorem burstKind_dataSync (hs : data.dataType ≠ .VOICE_SYNC) (hv : data.dataType ≠ .VOICE) :
    burstKind data = .dataSync (@Fin.ofNat 16 neZero_sixteen data.dataType.value) := by
  unfold burstKind
  cases h : data.dataType with
  | VOICE_SYNC => exact absurd h hs
  | VOICE => exact absurd h hv
  | _ => rfl

/-- The flags of a frame are put together from its slot, its call type and its burst. -/
theorem frameFlags_eq : frameFlags data =
    flagByte (decide (data.slotNo = 2)) (decide (data.flco = .PRIVATE)) (burstKind data) := by
  have hpriv : (if data.flco = .GROUP then 0x00 else 0x40 : UInt8) =
      if decide (data.flco = .PRIVATE) then 0x40 else 0x00 := by
    cases data.flco <;> rfl
  have hslot : (if data.slotNo = 2 then 0x80 else 0x00 : UInt8) =
      if decide (data.slotNo = 2) then 0x80 else 0x00 := by
    simp only [decide_eq_true_eq]
  unfold frameFlags flagByte
  rw [hpriv, hslot]
  congr 1
  unfold burstKind
  cases h : data.dataType with
  | VOICE_SYNC => rfl
  | VOICE => exact ofNat_and_nibble data.n
  | reserved v =>
    have hv : 0x0B + v.val < 16 := by omega
    show 0x20 ||| UInt8.ofNat (0x0B + v.val) = 0x20 ||| UInt8.ofNat ((0x0B + v.val) % 16)
    rw [Nat.mod_eq_of_lt hv]
  | _ => rfl

theorem bytes24_number {id : ℕ} (h : id < 2 ^ 24) : (UInt8.ofNat (id >>> 16)).toNat * 65536 +
    (UInt8.ofNat (id >>> 8)).toNat * 256 + (UInt8.ofNat id).toNat = id := by
  rw [UInt8.toNat_ofNat', UInt8.toNat_ofNat', UInt8.toNat_ofNat', Nat.shiftRight_eq_div_pow,
    Nat.shiftRight_eq_div_pow]
  omega

/-! ## What the flags tell -/

theorem slotNo_frameFlags {cfg : BMConfig} (h : Transmittable cfg data) :
    (if frameFlags data &&& 0x80 ≠ 0 then 2 else 1) = data.slotNo := by
  have hslot := h.slotNo
  have hvalid := cfg.timeslot_valid
  simp only [frameFlags_eq, flagByte_second, decide_eq_true_eq]
  split_ifs <;> omega

theorem flco_frameFlags :
    (if frameFlags data &&& 0x40 ≠ 0 then FLCO.PRIVATE else FLCO.GROUP) = data.flco := by
  simp only [frameFlags_eq, flagByte_priv, decide_eq_true_eq]
  cases data.flco <;> rfl

theorem n_frameFlags {cfg : BMConfig} (h : Transmittable cfg data) :
    (if frameFlags data &&& 0x30 ≠ 0 then 0 else (frameFlags data).toNat % 16) = (received data).n := by
  show _ = if data.dataType = .VOICE then data.n else 0
  rw [frameFlags_eq]
  by_cases hv : data.dataType = .VOICE
  · obtain ⟨hzero, hn⟩ := flagByte_voice (decide (data.slotNo = 2)) (decide (data.flco = .PRIVATE))
      (@Fin.ofNat 16 neZero_sixteen data.n)
    rw [if_pos hv, burstKind_voice hv, if_neg (not_not_intro hzero), hn]
    show data.n % 16 = data.n
    have := h.n hv
    omega
  · rw [if_neg hv]
    refine if_pos ((masks _).1.mpr ?_)
    by_cases hs : data.dataType = .VOICE_SYNC
    · rw [burstKind_voiceSync hs]
      exact Or.inr ((masks _).2.2.1.mp (flagByte_voiceSync _ _).2)
    · rw [burstKind_dataSync hs hv]
      exact Or.inl ((masks _).2.1.mp (flagByte_dataSync _ _ _).1)

theorem dataType_frameFlags : (if frameFlags data &&& 0x20 ≠ 0 then
      DataType.ofNibble (@Fin.ofNat 16 neZero_sixteen (frameFlags data).toNat)
    else if frameFlags data &&& 0x10 ≠ 0 then .VOICE_SYNC else .VOICE) = data.dataType := by
  rw [frameFlags_eq]
  by_cases hv : data.dataType = .VOICE
  · rw [burstKind_voice hv, hv]
    have hzero := not_not_intro (flagByte_voice (decide (data.slotNo = 2))
      (decide (data.flco = .PRIVATE)) (@Fin.ofNat 16 neZero_sixteen data.n)).1
    obtain ⟨h20, h10⟩ := not_or.mp (mt (masks _).1.mpr hzero)
    rw [if_neg (mt (masks _).2.1.mp h20), if_neg (mt (masks _).2.2.1.mp h10)]
  by_cases hs : data.dataType = .VOICE_SYNC
  · obtain ⟨h20, h10⟩ := flagByte_voiceSync (decide (data.slotNo = 2)) (decide (data.flco = .PRIVATE))
    rw [burstKind_voiceSync hs, hs, if_neg (not_not_intro h20), if_pos h10]
  · obtain ⟨h20, hn⟩ := flagByte_dataSync (decide (data.slotNo = 2)) (decide (data.flco = .PRIVATE))
      (@Fin.ofNat 16 neZero_sixteen data.dataType.value)
    rw [burstKind_dataSync hs hv, if_pos h20]
    refine Eq.trans (congrArg DataType.ofNibble ?_) (ofNibble_value hs hv)
    exact Fin.ext hn

/-! ## The fields of a packet -/

variable (cfg) (streamId : UInt32)

theorem buildHomebrewPacket_eq (h : Transmittable cfg data) : buildHomebrewPacket cfg data streamId =
    ascii ['D', 'M', 'R', 'D'] ++ UInt8.ofNat data.seqNo :: bytes24 data.srcId ++ bytes24 data.dstId ++
      cfg.repeaterIdBytes ++ frameFlags data :: bytes32Le streamId ++ data.data.toList ++
      [data.ber, data.rssi] := by
  have hslot : ¬ (data.slotNo ≠ 1 ∧ data.slotNo ≠ 2) := by
    have := h.slotNo
    have := cfg.timeslot_valid
    omega
  unfold buildHomebrewPacket
  rw [if_neg hslot]

theorem drop_buildHomebrewPacket (h : Transmittable cfg data) :
    (buildHomebrewPacket cfg data streamId).drop 20 = data.data.toList ++ [data.ber, data.rssi] := by
  rw [buildHomebrewPacket_eq cfg streamId h]
  rfl

theorem length_buildHomebrewPacket (h : Transmittable cfg data) :
    (buildHomebrewPacket cfg data streamId).length = kHomebrewPacketLength := by
  have hdrop := congrArg List.length (drop_buildHomebrewPacket cfg streamId h)
  rw [List.length_drop, List.length_append, List.Vector.toList_length] at hdrop
  show _ = 55
  change _ = 33 + 2 at hdrop
  omega

theorem getD_buildHomebrewPacket (h : Transmittable cfg data) (i : ℕ) :
    (buildHomebrewPacket cfg data streamId).getD (53 + i) 0 = [data.ber, data.rssi].getD i 0 := by
  have hlength : data.data.toList.length ≤ 33 + i := by
    rw [List.Vector.toList_length]
    omega
  have hi : 53 + i = 20 + (33 + i) := by omega
  rw [hi, List.getD_eq_getElem?_getD, List.getD_eq_getElem?_getD, ← List.getElem?_drop,
    drop_buildHomebrewPacket cfg streamId h, List.getElem?_append_right hlength, List.Vector.toList_length,
    Nat.add_sub_cancel_left]

theorem ofBytes_buildHomebrewPacket (h : Transmittable cfg data) :
    Payload.ofBytes ((buildHomebrewPacket cfg data streamId).drop 20) = data.data := by
  rw [drop_buildHomebrewPacket cfg streamId h]
  refine List.Vector.toList_injective ?_
  show (data.data.toList ++ [data.ber, data.rssi]).take 33 ++
    List.replicate (33 - (data.data.toList ++ [data.ber, data.rssi]).length) 0 = data.data.toList
  have hlength := List.Vector.toList_length data.data
  rw [List.take_left' hlength, List.length_append, hlength]
  exact List.append_nil _

/-- **A frame survives its packet.** -/
theorem parseHomebrewPacket_build (h : Transmittable cfg data) :
    parseHomebrewPacket (buildHomebrewPacket cfg data streamId) = received data := by
  have hfields := buildHomebrewPacket_eq cfg streamId h
  have hflags : (buildHomebrewPacket cfg data streamId).getD 15 0 = frameFlags data := by
    rw [hfields]
    rfl
  have hseq : ((buildHomebrewPacket cfg data streamId).getD 4 0).toNat = data.seqNo := by
    rw [hfields]
    exact Nat.mod_eq_of_lt h.seqNo
  have hsrc := bytes24_number h.srcId
  have hdst := bytes24_number h.dstId
  have hber := getD_buildHomebrewPacket cfg streamId h 0
  have hrssi := getD_buildHomebrewPacket cfg streamId h 1
  have hdata := ofBytes_buildHomebrewPacket cfg streamId h
  refine NetData.mk.injEq .. |>.mpr ⟨?_, ?_, ?_, ?_, ?_, hseq, ?_, hdata, hber, hrssi, rfl⟩
  · show (if (buildHomebrewPacket cfg data streamId).getD 15 0 &&& 0x80 ≠ 0 then 2 else 1) = _
    rw [hflags]
    exact slotNo_frameFlags h
  · rw [hfields]
    exact hsrc
  · rw [hfields]
    exact hdst
  · show (if (buildHomebrewPacket cfg data streamId).getD 15 0 &&& 0x40 ≠ 0 then _ else _) = _
    rw [hflags]
    exact flco_frameFlags
  · rw [hflags]
    exact n_frameFlags h
  · rw [hflags]
    exact dataType_frameFlags

end Build

/-! ## Reading the queue -/

section Read

variable (s : BMNetwork τ)

/-- The connection after so many reads. -/
def BMNetwork.reads (k : ℕ) : BMNetwork τ := (fun s : BMNetwork τ => s.read.2)^[k] s

theorem isConnected_read : s.read.2.isConnected = s.isConnected := by
  unfold BMNetwork.read
  by_cases hc : s.isConnected = false
  · rw [if_pos hc]
  rw [if_neg hc]
  cases s.rxPackets with
  | nil => rfl
  | cons packet rest =>
    dsimp only
    split_ifs <;> rfl

variable {s} (hc : s.isConnected = true)

include hc

theorem rxPackets_read : s.read.2.rxPackets = s.rxPackets.tail := by
  unfold BMNetwork.read
  rw [if_neg (ne_false_of_eq_true hc)]
  cases h : s.rxPackets with
  | nil => exact h
  | cons packet rest =>
    dsimp only
    split_ifs <;> rfl

theorem read_cons {packet : Bytes} {rest : List Bytes} (h : s.rxPackets = packet :: rest)
    (hl : kHomebrewPacketLength ≤ packet.length) : s.read.1 = some (parseHomebrewPacket packet) := by
  unfold BMNetwork.read
  rw [if_neg (ne_false_of_eq_true hc), h]
  dsimp only
  rw [if_neg (Nat.not_lt_of_le hl)]

/-- **The packets are read in the order in which they came.** -/
theorem rxPackets_reads (k : ℕ) :
    (s.reads k).isConnected = true ∧ (s.reads k).rxPackets = s.rxPackets.drop k := by
  induction k with
  | zero => exact ⟨hc, rfl⟩
  | succ k ih =>
    have hstep : s.reads (k + 1) = (s.reads k).read.2 := Function.iterate_succ_apply' _ k s
    rw [hstep]
    refine ⟨(isConnected_read _).trans ih.1, ?_⟩
    rw [rxPackets_read ih.1, ih.2, List.tail_drop]

end Read

/-! ## The two decoders -/

theorem readId_eq (buffer : Bytes) (i : ℕ) : (buffer.getD i 0).toNat * 65536 +
    (buffer.getD (i + 1) 0).toNat * 256 + (buffer.getD (i + 2) 0).toNat = readId buffer i := by
  unfold readId
  omega

/-- **The two decoders agree**, apart from the control byte. -/
theorem parseFNERawDMR_eq {buffer : Bytes} (hl : kHomebrewPacketLength ≤ buffer.length)
    (ht : buffer.take 4 = ascii ['D', 'M', 'R', 'D']) : parseFNERawDMR buffer =
      some { parseHomebrewPacket buffer with control := buffer.getD 14 0 } := by
  have hn : ¬ (buffer.length < 55 ∨ buffer.take 4 ≠ [0x44, 0x4D, 0x52, 0x44]) := by
    rintro (hlt | hne)
    · exact absurd hl (Nat.not_le_of_lt hlt)
    · exact hne ht
  obtain ⟨h30, h20, h10, hnibble⟩ := masks (buffer.getD 15 0)
  have hfin : Fin.ofNat 16 (buffer.getD 15 0 &&& 0x0F).toNat =
      @Fin.ofNat 16 neZero_sixteen (buffer.getD 15 0).toNat := by
    refine Fin.ext ?_
    show (buffer.getD 15 0 &&& 0x0F).toNat % 16 = (buffer.getD 15 0).toNat % 16
    omega
  unfold parseFNERawDMR parseHomebrewPacket
  rw [if_neg hn]
  simp only [hfin, h30, h20, h10, readId_eq]

/-! ## Through the connection -/

section Connection

variable {cfg : BMConfig} {data : NetData} (s : BMNetwork τ)

theorem isFrame_build (streamId : UInt32) (h : Transmittable cfg data) :
    BMNetwork.isFrame cfg (buildHomebrewPacket cfg data streamId) = true := by
  have hfields := buildHomebrewPacket_eq cfg streamId h
  have hflags : (buildHomebrewPacket cfg data streamId).getD 15 0 = frameFlags data := by
    rw [hfields]
    rfl
  unfold BMNetwork.isFrame
  refine decide_eq_true ⟨?_, (length_buildHomebrewPacket cfg streamId h).ge, ?_⟩
  · rw [hfields]
    rfl
  · rw [hflags, slotNo_frameFlags h, h.slotNo]

theorem read_withFrame {packet : Bytes} (hc : s.isConnected = true)
    (hp : BMNetwork.isFrame cfg packet = true) :
    ((s.parseIncomingDMR cfg packet).reads (s.withFrame packet).dropLast.length).read.1 =
      some (parseHomebrewPacket packet) := by
  have hl : kHomebrewPacketLength ≤ packet.length := (of_decide_eq_true hp).2.1
  rw [BMNetwork.parseIncomingDMR_of_isFrame cfg s hp]
  obtain ⟨hreads, hqueue⟩ := rxPackets_reads (s := { s with rxPackets := s.withFrame packet }) hc
    (s.withFrame packet).dropLast.length
  have hdrop : (s.withFrame packet).drop (s.withFrame packet).dropLast.length = [packet] := by
    unfold BMNetwork.withFrame
    rw [List.dropLast_concat, List.drop_left]
  exact read_cons hreads (hqueue.trans hdrop) hl

/-- **Frames through the connection.** A frame of the configured slot that is written as a packet and
received is read as it was, with the control byte and the number of a data frame at zero. Every packet
is read by the connection as it is by the decoder of the local FNE, apart from the control byte. -/
theorem homebrewFrames_roundTrip (hc : s.isConnected = true) :
    (∀ (data : NetData) (streamId : UInt32), Transmittable cfg data →
      (s.parseIncomingDMR cfg (buildHomebrewPacket cfg data streamId)).rxPackets =
          s.withFrame (buildHomebrewPacket cfg data streamId) ∧
        ((s.parseIncomingDMR cfg (buildHomebrewPacket cfg data streamId)).reads
            (s.withFrame (buildHomebrewPacket cfg data streamId)).dropLast.length).read.1 =
          some (received data)) ∧
    ∀ (buffer : Bytes) (rest : List Bytes), kHomebrewPacketLength ≤ buffer.length →
      buffer.take 4 = ascii ['D', 'M', 'R', 'D'] →
      ∃ frame, ({ s with rxPackets := buffer :: rest } : BMNetwork τ).read.1 = some frame ∧
        frame.control = 0 ∧
        parseFNERawDMR buffer = some { frame with control := buffer.getD 14 0 } := by
  refine ⟨fun data streamId h => ?_, fun buffer rest hl ht => ?_⟩
  · have hp := isFrame_build streamId h
    refine ⟨?_, ?_⟩
    · rw [BMNetwork.parseIncomingDMR_of_isFrame cfg s hp]
    · rw [read_withFrame s hc hp, parseHomebrewPacket_build cfg streamId h]
  · exact ⟨parseHomebrewPacket buffer,
      read_cons (s := { s with rxPackets := buffer :: rest }) hc rfl hl, rfl, parseFNERawDMR_eq hl ht⟩

end Connection

/-- A voice frame of the second slot. -/
def sampleVoice : NetData where
  slotNo := 2
  srcId := 2629930
  dstId := 2629
  flco := .GROUP
  n := 3
  seqNo := 7
  dataType := .VOICE
  data := Payload.ofBytes [0x57, 0x81]
  ber := 4
  rssi := 90
  control := 9

/-- A connection that is set up. -/
def sampleConnected : BMNetwork Unit :=
  { BMNetwork.create (fun _ => 0) () () () with status := .Running }

theorem homebrewFrames_roundTrip_sample :
    Transmittable sampleConfig sampleVoice ∧
    ((sampleConnected.parseIncomingDMR sampleConfig
      (buildHomebrewPacket sampleConfig sampleVoice 5)).reads 0).read.1 =
        some { sampleVoice with control := 0 } := by
  have h : Transmittable sampleConfig sampleVoice :=
    ⟨rfl, by decide, by decide, by decide, fun _ => by decide⟩
  exact ⟨h, ((homebrewFrames_roundTrip sampleConnected rfl).1 sampleVoice 5 h).2⟩

end Brandmeister
