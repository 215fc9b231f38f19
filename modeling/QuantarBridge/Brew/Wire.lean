import QuantarBridge.Brew.Downlink
import QuantarBridge.Lib.FixedWidth

/-!
# Frames and packets of voice

The bridge sends the frames of its own calls to the BREW server, and it exchanges packets of 20
milliseconds of sound with the P25 side.

* `buildGroupTx`, `buildGroupIdle`, `buildVoiceFrame`: the start and the end of a call, and a block;
* `onBrewBinary_buildGroupTx`, `onBrewBinary_buildGroupIdle`, `onBrewBinary_buildVoiceFrame`:
  **how a bridge reads the frames of another one**;
* `buildDvmRtp`, `parseDvmRtp`: a packet of the P25 side, `parseDvmRtp_buildDvmRtp`: **round trip**,
  `parseDvmRtp_iff`: which packets are built.
-/

set_option autoImplicit false

namespace Brew

open Lib
open AudioBridge (readLe16 readLe32)

/-- `struct.pack` of an unsigned number, which raises when it does not fit. -/
def packLe (width n : ℕ) : Option Bytes := if n < 256 ^ width then some (leBytes width n) else none

/-- A number of the given width, most significant byte first, if it fits. -/
def packBe (width n : ℕ) : Option Bytes := if n < 256 ^ width then some (beBytes width n) else none

/-! ## Frames -/

section Frames

variable (callUuid : Bytes)

/-- The frame that starts a group call. -/
def buildGroupTx (source destination : ℕ) : Option Bytes := do
  let source ← packLe 4 source
  let destination ← packLe 4 destination
  return [0xF1, 2] ++ callUuid ++ (source ++ destination ++ [0, 0, 0, 0])

/-- The frame that ends a group call. -/
def buildGroupIdle (cause : ℕ) : Bytes := [0xF1, 3] ++ callUuid ++ [UInt8.ofNat cause]

/-- A frame with a block of voice. -/
def buildVoiceFrame (steData : Bytes) : Option Bytes :=
  if steData.length ≠ TETRA_STE_BYTES then none
  else some ([0xF2, 0] ++ callUuid ++ leBytes 2 (steData.length * 8) ++ steData)

variable {callUuid}

theorem readLe32_leBytes {front rest : Bytes} {n offset : ℕ} (hoffset : front.length = offset)
    (hn : n < 256 ^ 4) : readLe32 (front ++ (leBytes 4 n ++ rest)) offset = n := by
  subst hoffset
  have hget : ∀ k, (front ++ (leBytes 4 n ++ rest)).getD (front.length + k) 0 =
      (leBytes 4 n ++ rest).getD k 0 := by
    intro k
    rw [List.getD_append_right _ _ _ _ (by omega), Nat.add_sub_cancel_left]
  have h0 := hget 0
  rw [Nat.add_zero] at h0
  unfold readLe32 readLe16
  rw [h0, hget 1, Nat.add_assoc, hget 2, hget 3]
  show (UInt8.ofNat n).toNat + (256 * (UInt8.ofNat (n / 256)).toNat + 65536 *
    ((UInt8.ofNat (n / 256 / 256)).toNat + 256 * (UInt8.ofNat (n / 256 / 256 / 256)).toNat)) = n
  simp only [UInt8.toNat_ofNat']
  omega

theorem drop_take_callUuid {head rest : Bytes} (hhead : head.length = 2) (hu : callUuid.length = 16) :
    ((head ++ callUuid ++ rest).drop 2).take 16 = callUuid := by
  rw [List.append_assoc, ← hhead, List.drop_left, ← hu, List.take_left]

theorem packLe_eq_some {width n : ℕ} {data : Bytes} (h : packLe width n = some data) :
    n < 256 ^ width ∧ data = leBytes width n := by
  unfold packLe at h
  split_ifs at h with hn
  exact ⟨hn, (Option.some.inj h).symm⟩

theorem buildGroupTx_eq_some {source destination : ℕ} {frame : Bytes}
    (h : buildGroupTx callUuid source destination = some frame) :
    source < 256 ^ 4 ∧ destination < 256 ^ 4 ∧ frame = [0xF1, 2] ++ callUuid ++
      (leBytes 4 source ++ leBytes 4 destination ++ [0, 0, 0, 0]) := by
  unfold buildGroupTx at h
  obtain ⟨s, hs, h⟩ := Option.bind_eq_some_iff.mp h
  obtain ⟨d, hd, h⟩ := Option.bind_eq_some_iff.mp h
  obtain ⟨hsource, rfl⟩ := packLe_eq_some hs
  obtain ⟨hdestination, rfl⟩ := packLe_eq_some hd
  exact ⟨hsource, hdestination, (Option.some.inj h).symm⟩

theorem exists_buildGroupTx {source destination : ℕ} (hs : source < 256 ^ 4)
    (hd : destination < 256 ^ 4) : ∃ frame, buildGroupTx callUuid source destination = some frame := by
  unfold buildGroupTx packLe
  rw [if_pos hs, if_pos hd]
  exact ⟨_, rfl⟩

/-- The state in which a bridge handles a frame of a call. -/
def handling (c : Readings) (s : AudioBridge) : AudioBridge :=
  { s with
    pendingSds := s.pendingSds.filter fun _ pending =>
      c.received < pending.receivedAt + seconds 30 }.expireOwnedUuids c.handled

section Reading

variable (cfg : AudioConfig) (c : Readings) (o : Outcomes) (s : AudioBridge)

/-- **The start of a call**, as another bridge reads it. -/
theorem onBrewBinary_buildGroupTx {source destination : ℕ} {frame : Bytes}
    (hu : callUuid.length = 16) (h : buildGroupTx callUuid source destination = some frame) :
    s.onBrewBinary cfg c o frame =
      (handling c s).startOrUpdateDownlink c callUuid source destination := by
  obtain ⟨hs, hd, rfl⟩ := buildGroupTx_eq_some h
  have hlength : ([0xF1, 2] ++ callUuid ++
      (leBytes 4 source ++ leBytes 4 destination ++ [0, 0, 0, 0])).length = 30 := by
    simp only [List.length_append, length_leBytes, hu, List.length_cons, List.length_nil]
  have hsource : readLe32 ([0xF1, 2] ++ callUuid ++
      (leBytes 4 source ++ leBytes 4 destination ++ [0, 0, 0, 0])) 18 = source := by
    rw [List.append_assoc (leBytes 4 source)]
    exact readLe32_leBytes (by rw [List.length_append, hu]; rfl) hs
  have hdestination : readLe32 ([0xF1, 2] ++ callUuid ++
      (leBytes 4 source ++ leBytes 4 destination ++ [0, 0, 0, 0])) 22 = destination := by
    rw [List.append_assoc (leBytes 4 source), ← List.append_assoc]
    exact readLe32_leBytes (by simp only [List.length_append, length_leBytes, hu]; rfl) hd
  have huuid : (([0xF1, 2] ++ callUuid ++
      (leBytes 4 source ++ leBytes 4 destination ++ [0, 0, 0, 0])).drop 2).take 16 = callUuid :=
    drop_take_callUuid rfl hu
  generalize hframe : [0xF1, 2] ++ callUuid ++
    (leBytes 4 source ++ leBytes 4 destination ++ [0, 0, 0, 0]) = frame at *
  have hclass : frame.getD 0 0 = 0xF1 := by rw [← hframe]; rfl
  have htype : frame.getD 1 0 = 2 := by rw [← hframe]; rfl
  unfold AudioBridge.onBrewBinary AudioBridge.onCallFrame
  simp only [hclass, htype, huuid, hlength, hsource, hdestination]
  rfl

/-- **The end of a call**, as another bridge reads it. -/
theorem onBrewBinary_buildGroupIdle (hu : callUuid.length = 16) (cause : ℕ) :
    s.onBrewBinary cfg c o (buildGroupIdle callUuid cause) =
      ((handling c s).endDownlink callUuid, []) := by
  have hlength : (buildGroupIdle callUuid cause).length = 19 := by
    simp only [buildGroupIdle, List.length_append, hu, List.length_cons, List.length_nil]
  have huuid : ((buildGroupIdle callUuid cause).drop 2).take 16 = callUuid :=
    drop_take_callUuid rfl hu
  generalize hframe : buildGroupIdle callUuid cause = frame at *
  have hclass : frame.getD 0 0 = 0xF1 := by rw [← hframe]; rfl
  have htype : frame.getD 1 0 = 3 := by rw [← hframe]; rfl
  unfold AudioBridge.onBrewBinary AudioBridge.onCallFrame
  simp only [hclass, htype, huuid, hlength]
  rfl

theorem buildVoiceFrame_eq_some {steData frame : Bytes}
    (h : buildVoiceFrame callUuid steData = some frame) : steData.length = TETRA_STE_BYTES ∧
      frame = [0xF2, 0] ++ callUuid ++ (leBytes 2 (steData.length * 8) ++ steData) := by
  unfold buildVoiceFrame at h
  split_ifs at h with hlength
  rw [List.append_assoc] at h
  exact ⟨not_not.mp hlength, (Option.some.inj h).symm⟩

/-- **A block of voice**, as another bridge reads it. -/
theorem onBrewBinary_buildVoiceFrame {steData frame : Bytes} (hu : callUuid.length = 16)
    (h : buildVoiceFrame callUuid steData = some frame) :
    s.onBrewBinary cfg c o frame = ((handling c s).queueDownlinkVoice c callUuid steData, []) := by
  obtain ⟨hste, rfl⟩ := buildVoiceFrame_eq_some h
  have hlength : ([0xF2, 0] ++ callUuid ++ (leBytes 2 (steData.length * 8) ++ steData)).length =
      56 := by
    simp only [List.length_append, length_leBytes, hu, hste, List.length_cons, List.length_nil]
    rfl
  have hpayload : ([0xF2, 0] ++ callUuid ++ (leBytes 2 (steData.length * 8) ++ steData)).drop 20 =
      steData := by
    rw [← List.append_assoc]
    exact List.drop_left' (by simp only [List.length_append, length_leBytes, hu]; rfl)
  generalize hframe : [0xF2, 0] ++ callUuid ++ (leBytes 2 (steData.length * 8) ++ steData) = frame
    at hlength hpayload
  have hclass : frame.getD 0 0 = 0xF2 := by rw [← hframe]; rfl
  have htype : frame.getD 1 0 = 0 := by rw [← hframe]; rfl
  have huuid : (frame.drop 2).take 16 = callUuid := by rw [← hframe]; exact drop_take_callUuid rfl hu
  unfold AudioBridge.onBrewBinary AudioBridge.onCallFrame
  simp only [hclass, htype, huuid, hlength, hpayload]
  rfl

end Reading

end Frames

/-! ## Packets of the P25 side -/

/-- The length of an RTP header. -/
def RTP_HEADER_BYTES : ℕ := 12

/-- The samples of a packet. -/
def PCM_SAMPLES_20MS : ℕ := 160

/-- The bytes of these samples. -/
def PCM_BYTES_20MS : ℕ := PCM_SAMPLES_20MS * 2

/-- The length of a packet: the header, the samples and two radio numbers. -/
def RTP_PACKET_BYTES : ℕ := RTP_HEADER_BYTES + PCM_BYTES_20MS + 8

/-- Twenty milliseconds of sound, and the call they belong to. -/
structure PcmFrame where
  source : ℕ
  destination : ℕ
  sequence : ℕ
  marker : Bool
  pcm : Bytes
  deriving DecidableEq

/-- The voice and the radios of a packet. -/
def parseDvmRtp (packet : Bytes) : Option PcmFrame :=
  if packet.length < RTP_PACKET_BYTES ∨ (packet.getD 0 0).toNat / 64 ≠ 2 then none
  else if (packet.getD 1 0).toNat % 128 ≠ 0 then none
  else some
    { source := beNat ((packet.drop (RTP_HEADER_BYTES + PCM_BYTES_20MS + 4)).take 4)
      destination := beNat ((packet.drop (RTP_HEADER_BYTES + PCM_BYTES_20MS)).take 4)
      sequence := beNat ((packet.drop 2).take 2)
      marker := decide (128 ≤ (packet.getD 1 0).toNat)
      pcm := (packet.drop RTP_HEADER_BYTES).take PCM_BYTES_20MS }

/-- The packet of some voice. -/
def buildDvmRtp (pcm : Bytes) (source destination sequence timestamp ssrc : ℕ) (marker : Bool) :
    Option Bytes :=
  if pcm.length ≠ PCM_BYTES_20MS then none
  else do
    let ssrc ← packBe 4 ssrc
    let destination ← packBe 4 destination
    let source ← packBe 4 source
    let second : UInt8 := if marker then 0x80 else 0
    return [0x80, second] ++ (beBytes 2 (sequence % 65536) ++ (beBytes 4 (timestamp % 4294967296) ++
      (ssrc ++ (pcm ++ (destination ++ source)))))

theorem packBe_eq_some {width n : ℕ} {data : Bytes} (h : packBe width n = some data) :
    n < 256 ^ width ∧ data = beBytes width n := by
  unfold packBe at h
  split_ifs at h with hn
  exact ⟨hn, (Option.some.inj h).symm⟩

section Packet

variable {pcm packet : Bytes} {source destination sequence timestamp ssrc : ℕ} {marker : Bool}

theorem buildDvmRtp_eq_some
    (h : buildDvmRtp pcm source destination sequence timestamp ssrc marker = some packet) :
    pcm.length = PCM_BYTES_20MS ∧ source < 256 ^ 4 ∧ destination < 256 ^ 4 ∧ ssrc < 256 ^ 4 ∧
      packet = [0x80, if marker then 0x80 else 0] ++ (beBytes 2 (sequence % 65536) ++
        (beBytes 4 (timestamp % 4294967296) ++ (beBytes 4 ssrc ++
          (pcm ++ (beBytes 4 destination ++ beBytes 4 source))))) := by
  unfold buildDvmRtp at h
  by_cases hpcm : pcm.length = PCM_BYTES_20MS
  · rw [if_neg (not_not.mpr hpcm)] at h
    obtain ⟨ssrcBytes, hs, h⟩ := Option.bind_eq_some_iff.mp h
    obtain ⟨destinationBytes, hd, h⟩ := Option.bind_eq_some_iff.mp h
    obtain ⟨sourceBytes, hsrc, h⟩ := Option.bind_eq_some_iff.mp h
    obtain ⟨hssrc, rfl⟩ := packBe_eq_some hs
    obtain ⟨hdestination, rfl⟩ := packBe_eq_some hd
    obtain ⟨hsource, rfl⟩ := packBe_eq_some hsrc
    exact ⟨hpcm, hsource, hdestination, hssrc, (Option.some.inj h).symm⟩
  · rw [if_pos hpcm] at h
    cases h

theorem drop_take_append {front data rest : Bytes} {offset width : ℕ}
    (hoffset : front.length = offset) (hwidth : data.length = width) :
    ((front ++ (data ++ rest)).drop offset).take width = data := by
  subst hoffset hwidth
  rw [List.drop_left, List.take_left]

/-- **A packet is read back.** -/
theorem parseDvmRtp_buildDvmRtp
    (h : buildDvmRtp pcm source destination sequence timestamp ssrc marker = some packet) :
    parseDvmRtp packet = some ⟨source, destination, sequence % 65536, marker, pcm⟩ := by
  obtain ⟨hpcm, hsource, hdestination, -, rfl⟩ := buildDvmRtp_eq_some h
  have hmarker : ∀ m : Bool, (if m then (0x80 : UInt8) else 0).toNat % 128 = 0 ∧
      decide (128 ≤ (if m then (0x80 : UInt8) else 0).toNat) = m := by decide
  generalize hsecond : (if marker then (0x80 : UInt8) else 0) = second
  obtain ⟨hmod, hbit⟩ := hsecond ▸ hmarker marker
  generalize hpacket : [0x80, second] ++ (beBytes 2 (sequence % 65536) ++
    (beBytes 4 (timestamp % 4294967296) ++ (beBytes 4 ssrc ++
      (pcm ++ (beBytes 4 destination ++ beBytes 4 source))))) = packet
  have hlength : packet.length = RTP_PACKET_BYTES := by
    rw [← hpacket]
    simp only [List.length_append, length_beBytes, hpcm, List.length_cons, List.length_nil]
    rfl
  have hfirst : packet.getD 0 0 = 0x80 := by rw [← hpacket]; rfl
  have hnext : packet.getD 1 0 = second := by rw [← hpacket]; rfl
  have hsequence : (packet.drop 2).take 2 = beBytes 2 (sequence % 65536) := by
    rw [← hpacket]
    exact drop_take_append rfl (length_beBytes 2 _)
  have hsound : (packet.drop RTP_HEADER_BYTES).take PCM_BYTES_20MS = pcm := by
    rw [← hpacket, ← List.append_assoc, ← List.append_assoc, ← List.append_assoc]
    exact drop_take_append (by simp only [List.length_append, length_beBytes]; rfl) hpcm
  have hto : (packet.drop (RTP_HEADER_BYTES + PCM_BYTES_20MS)).take 4 = beBytes 4 destination := by
    rw [← hpacket, ← List.append_assoc, ← List.append_assoc, ← List.append_assoc,
      ← List.append_assoc]
    exact drop_take_append (by simp only [List.length_append, length_beBytes, hpcm]; rfl)
      (length_beBytes 4 _)
  have hfrom : (packet.drop (RTP_HEADER_BYTES + PCM_BYTES_20MS + 4)).take 4 = beBytes 4 source := by
    rw [← hpacket, ← List.append_assoc, ← List.append_assoc, ← List.append_assoc,
      ← List.append_assoc, ← List.append_assoc, ← List.append_nil (beBytes 4 source)]
    exact drop_take_append (by simp only [List.length_append, length_beBytes, hpcm]; rfl)
      (length_beBytes 4 _)
  have hnumber : beNat (beBytes 2 (sequence % 65536)) = sequence % 65536 :=
    beNat_beBytes (Nat.mod_lt _ (by decide))
  unfold parseDvmRtp
  rw [if_neg, hnext, if_neg (not_not.mpr hmod), hbit, hsequence, hsound, hto, hfrom, hnumber,
    beNat_beBytes hdestination, beNat_beBytes hsource]
  rw [hlength, hfirst]
  decide

theorem take_append_drop_add (offset width : ℕ) :
    packet.drop offset = (packet.drop offset).take width ++ packet.drop (offset + width) := by
  rw [← List.drop_drop, List.take_append_drop]

theorem beBytes_take {offset width : ℕ} (h : offset + width ≤ packet.length) :
    beBytes width (beNat ((packet.drop offset).take width)) = (packet.drop offset).take width := by
  have hwidth : ((packet.drop offset).take width).length = width := by
    rw [List.length_take, List.length_drop]
    omega
  have hbytes := beBytes_beNat ((packet.drop offset).take width)
  rwa [hwidth] at hbytes

theorem beNat_take_lt (offset width : ℕ) : beNat ((packet.drop offset).take width) < 256 ^ width :=
  (beNat_lt _).trans_le (Nat.pow_le_pow_right (by decide) (List.length_take_le width _))

/-- Of the packets of the right length without flags in the first byte, those that are accepted are
built. -/
theorem parseDvmRtp_exact_iff {frame : PcmFrame} (hlength : packet.length = RTP_PACKET_BYTES)
    (hfirst : packet.getD 0 0 = 0x80) : parseDvmRtp packet = some frame ↔
      frame.sequence < 65536 ∧ ∃ timestamp ssrc, buildDvmRtp frame.pcm frame.source
        frame.destination frame.sequence timestamp ssrc frame.marker = some packet := by
  change packet.length = 340 at hlength
  constructor
  · intro h
    unfold parseDvmRtp at h
    split_ifs at h with hshort hmod
    obtain rfl := Option.some.inj h
    refine ⟨beNat_take_lt 2 2, beNat ((packet.drop 4).take 4), beNat ((packet.drop 8).take 4), ?_⟩
    have hsecond : (if decide (128 ≤ (packet.getD 1 0).toNat) then (0x80 : UInt8) else 0) =
        packet.getD 1 0 := by
      have hlt := (packet.getD 1 0).toNat_lt
      refine UInt8.toNat_inj.mp ?_
      rcases (by omega : (packet.getD 1 0).toNat = 0 ∨ (packet.getD 1 0).toNat = 128) with h | h <;>
        rw [h] <;> rfl
    have hhead : packet = [packet.getD 0 0, packet.getD 1 0] ++ packet.drop 2 := by
      match packet, hlength with
      | _ :: _ :: _, _ => rfl
    have hpcm : ((packet.drop RTP_HEADER_BYTES).take PCM_BYTES_20MS).length = PCM_BYTES_20MS := by
      rw [List.length_take, List.length_drop, hlength]
      rfl
    have hend : packet.drop 340 = [] := List.drop_of_length_le hlength.le
    unfold buildDvmRtp packBe
    rw [if_neg (not_not.mpr hpcm), if_pos (beNat_take_lt 8 4), if_pos (beNat_take_lt _ 4),
      if_pos (beNat_take_lt _ 4), hsecond]
    refine congrArg some ?_
    conv_rhs => rw [hhead, hfirst, take_append_drop_add 2 2, take_append_drop_add 4 4,
      take_append_drop_add 8 4, take_append_drop_add 12 320, take_append_drop_add 332 4,
      take_append_drop_add 336 4, hend, List.append_nil]
    show [0x80, packet.getD 1 0] ++ (beBytes 2 (beNat ((packet.drop 2).take 2) % 65536) ++
      (beBytes 4 (beNat ((packet.drop 4).take 4) % 4294967296) ++
        (beBytes 4 (beNat ((packet.drop 8).take 4)) ++ ((packet.drop 12).take 320 ++
          (beBytes 4 (beNat ((packet.drop 332).take 4)) ++
            beBytes 4 (beNat ((packet.drop 336).take 4))))))) = _
    have hsequence := Nat.mod_eq_of_lt (@beNat_take_lt packet 2 2)
    have htimestamp := Nat.mod_eq_of_lt (@beNat_take_lt packet 4 4)
    change _ % 65536 = _ at hsequence
    change _ % 4294967296 = _ at htimestamp
    rw [hsequence, htimestamp, beBytes_take (by omega), beBytes_take (by omega),
      beBytes_take (by omega), beBytes_take (by omega), beBytes_take (by omega)]
  · rintro ⟨hsequence, timestamp, ssrc, h⟩
    rw [parseDvmRtp_buildDvmRtp h, Nat.mod_eq_of_lt hsequence]

theorem parseDvmRtp_cons {first : UInt8} {body rest : Bytes} (hfirst : first.toNat / 64 = 2)
    (hbody : body.length = 339) :
    parseDvmRtp (first :: (body ++ rest)) = parseDvmRtp (0x80 :: body) := by
  have htake : ∀ offset width, offset + width ≤ 339 →
      ((body ++ rest).drop offset).take width = (body.drop offset).take width := by
    intro offset width h
    rw [List.drop_append_of_le_length (by omega), List.take_append_of_le_length]
    rw [List.length_drop]
    omega
  have hsecond : (body ++ rest).getD 0 0 = body.getD 0 0 :=
    List.getD_append _ _ _ _ (by omega)
  have hlong : ¬ ((first :: (body ++ rest)).length < RTP_PACKET_BYTES ∨
      ((first :: (body ++ rest)).getD 0 0).toNat / 64 ≠ 2) := by
    refine not_or.mpr ⟨?_, not_not.mpr hfirst⟩
    rw [List.length_cons, List.length_append, hbody]
    show ¬ 339 + rest.length + 1 < 340
    omega
  have hexact : ¬ (((0x80 : UInt8) :: body).length < RTP_PACKET_BYTES ∨
      (((0x80 : UInt8) :: body).getD 0 0).toNat / 64 ≠ 2) := by
    rw [List.length_cons, hbody]
    show ¬ (340 < 340 ∨ 128 / 64 ≠ 2)
    decide
  unfold parseDvmRtp
  rw [if_neg hlong, if_neg hexact]
  show (if ((body ++ rest).getD 0 0).toNat % 128 ≠ 0 then none else some (PcmFrame.mk
    (beNat (((body ++ rest).drop 335).take 4)) (beNat (((body ++ rest).drop 331).take 4))
    (beNat (((body ++ rest).drop 1).take 2)) (decide (128 ≤ ((body ++ rest).getD 0 0).toNat))
    (((body ++ rest).drop 11).take 320))) = _
  rw [hsecond, htake 335 4 (by decide), htake 331 4 (by decide), htake 1 2 (by decide),
    htake 11 320 (by decide)]
  rfl

/-- A packet that is accepted is one that is built, with flags in its first byte, and with something
behind. -/
theorem built_of_parse {frame : PcmFrame} (h : parseDvmRtp packet = some frame) :
    frame.sequence < 65536 ∧ ∃ timestamp ssrc built first rest, buildDvmRtp frame.pcm frame.source
      frame.destination frame.sequence timestamp ssrc frame.marker = some built ∧
      first.toNat / 64 = 2 ∧ packet = first :: (built.tail ++ rest) := by
  have hlong : 340 ≤ packet.length ∧ (packet.getD 0 0).toNat / 64 = 2 := by
    unfold parseDvmRtp at h
    split_ifs at h with hshort hmod
    obtain ⟨hlength, hversion⟩ := not_or.mp hshort
    exact ⟨Nat.le_of_not_lt hlength, not_not.mp hversion⟩
  obtain ⟨hlength, hversion⟩ := hlong
  obtain ⟨first, body, rest, hbody, rfl⟩ : ∃ first body rest,
      body.length = 339 ∧ packet = first :: (body ++ rest) := by
    match packet, hlength with
    | first :: others, hlength =>
      refine ⟨first, others.take 339, others.drop 339, ?_, by rw [List.take_append_drop]⟩
      rw [List.length_take]
      exact Nat.min_eq_left (Nat.le_of_succ_le_succ hlength)
  change first.toNat / 64 = 2 at hversion
  rw [parseDvmRtp_cons hversion hbody] at h
  obtain ⟨hsequence, timestamp, ssrc, hbuilt⟩ :=
    (parseDvmRtp_exact_iff (by rw [List.length_cons, hbody]; rfl) rfl).mp h
  exact ⟨hsequence, timestamp, ssrc, _, first, rest, hbuilt, hversion, rfl⟩

/-- **Which packets are accepted**: those that are built, with any flags in the first byte, and with
anything behind. -/
theorem parseDvmRtp_iff {frame : PcmFrame} : parseDvmRtp packet = some frame ↔
    frame.sequence < 65536 ∧ ∃ timestamp ssrc built first rest, buildDvmRtp frame.pcm frame.source
      frame.destination frame.sequence timestamp ssrc frame.marker = some built ∧
      first.toNat / 64 = 2 ∧ packet = first :: (built.tail ++ rest) := by
  refine ⟨built_of_parse, ?_⟩
  rintro ⟨hsequence, timestamp, ssrc, built, first, rest, hbuilt, hversion, rfl⟩
  obtain ⟨hpcm, -, -, -, heq⟩ := buildDvmRtp_eq_some hbuilt
  have htail : built.tail.length = 339 := by
    rw [heq]
    simp only [List.length_tail, List.length_append, length_beBytes, hpcm, List.length_cons,
      List.length_nil]
    rfl
  have hcons : built = 0x80 :: built.tail := by rw [heq]; rfl
  rw [parseDvmRtp_cons hversion htail, ← hcons, parseDvmRtp_buildDvmRtp hbuilt,
    Nat.mod_eq_of_lt hsequence]

end Packet

end Brew
