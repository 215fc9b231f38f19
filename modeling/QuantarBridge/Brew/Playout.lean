import QuantarBridge.Brew.UplinkLedger

/-!
# What the P25 side gets of a call

The playout loop hands a block of a call to its decoder, scales the samples, and sends them to the P25
side in three packets of 20 milliseconds. The packets are numbered from zero when the loop takes up a
call, and the first one is marked.

* `VoiceDecoder`, `PlayoutConfig`: the decoder and the gain, which are not part of the bridge;
* `playDownlinkBlock`: a block;
* `PacketOf`: a packet as it should be, `playChunks_carry`: the packets of a block;
* `play_stream`: **the P25 side gets the samples of all blocks**, packet by packet.
-/

set_option autoImplicit false

namespace Brew

open Lib

/-- The decoder, which keeps a state during a call. -/
structure VoiceDecoder (σ : Type) where
  decode : σ → Bytes → List ℤ × σ
  length_decode : ∀ s coded, (decode s coded).1.length = TETRA_SAMPLES_30MS

/-- The gain and the limit. The configuration keeps the limit within sixteen bits. -/
structure PlayoutConfig where
  /-- The gain is one. -/
  unity : Bool
  /-- A sample times the gain, rounded. -/
  scaled : ℤ → ℤ
  peakLimit : ℕ
  peakLimit_le : peakLimit ≤ 32767

/-- The samples with the gain, cut at the limit. -/
def scalePcm (cfg : PlayoutConfig) (samples : List ℤ) : List ℤ :=
  if cfg.unity = true ∧ ∀ value ∈ samples, -(cfg.peakLimit : ℤ) ≤ value ∧ value ≤ cfg.peakLimit then
    samples
  else samples.map fun value => max (-(cfg.peakLimit : ℤ)) (min cfg.peakLimit (cfg.scaled value))

/-- `struct.pack` of a signed number of sixteen bits. -/
def packSample (value : ℤ) : Option Bytes :=
  if -32768 ≤ value ∧ value < 32768 then some (leBytes 2 (value % 65536).toNat) else none

/-- `struct.pack` of the samples of a packet. -/
def packSamples (samples : List ℤ) : Option Bytes :=
  if samples.length = PCM_SAMPLES_20MS then (samples.mapM packSample).map List.flatten else none

/-- The call that is played. -/
structure PlayedCall where
  source : ℕ
  p25Destination : ℕ
  rtpSsrc : ℕ

/-- The decoder of a call and the counters of its packets. -/
structure Speaker (σ : Type) where
  decoder : σ
  rtpSequence : ℕ
  rtpTimestamp : ℕ

/-- What playing a block does. -/
inductive PlayEffect
  /-- A packet for every output. -/
  | sent (packet : Bytes)
  | decodeFailed
  | raised

/-- A packet was sent. -/
def PlayEffect.isSent : PlayEffect → Bool
  | .sent _ => true
  | _ => false

section Play

variable {σ : Type} (v : VoiceDecoder σ) (cfg : PlayoutConfig) (call : PlayedCall)

/-- A packet, unless packing it raises. -/
def buildChunk (s : Speaker σ) (chunk : List ℤ) : Option Bytes := do
  let pcm ← packSamples chunk
  buildDvmRtp pcm call.source call.p25Destination s.rtpSequence s.rtpTimestamp call.rtpSsrc
    (s.rtpSequence = 0)

/-- The packets of a block. An exception ends the loop. -/
def playChunks (s : Speaker σ) : List (List ℤ) → Speaker σ × List PlayEffect
  | [] => (s, [])
  | chunk :: chunks =>
    match buildChunk call s chunk with
    | none => (s, [.raised])
    | some packet =>
      let s := { s with
        rtpSequence := (s.rtpSequence + 1) % 65535
        rtpTimestamp := (s.rtpTimestamp + PCM_SAMPLES_20MS) % 4294967296 }
      let (s, es) := playChunks s chunks
      (s, .sent packet :: es)

/-- The samples of a block, scaled. -/
def VoiceDecoder.samples (d : σ) (ste : Bytes) : Except String (List ℤ) × σ :=
  match splitTmdBlock ste with
  | .error e => (.error e, d)
  | .ok (codedA, codedB) =>
    let (a, d) := v.decode d codedA
    let (b, d) := v.decode d codedB
    (.ok (scalePcm cfg (a ++ b)), d)

/-- Decode a block and send its packets. -/
def playDownlinkBlock (s : Speaker σ) (ste : Bytes) : Speaker σ × List PlayEffect :=
  match v.samples cfg s.decoder ste with
  | (.error _, d) => ({ s with decoder := d }, [.decodeFailed])
  | (.ok samples, d) =>
    playChunks call { s with decoder := d }
      ((List.range 3).map fun index => (samples.drop (index * PCM_SAMPLES_20MS)).take PCM_SAMPLES_20MS)

end Play

/-! ## Samples -/

theorem abs_scalePcm (cfg : PlayoutConfig) (samples : List ℤ) :
    ∀ value ∈ scalePcm cfg samples, -32768 ≤ value ∧ value < 32768 := by
  have hlimit := cfg.peakLimit_le
  unfold scalePcm
  split_ifs with h
  · intro value hvalue
    have hrange := h.2 value hvalue
    omega
  · intro value hvalue
    obtain ⟨sample, -, rfl⟩ := List.mem_map.mp hvalue
    omega

theorem length_scalePcm (cfg : PlayoutConfig) (samples : List ℤ) :
    (scalePcm cfg samples).length = samples.length := by
  unfold scalePcm
  split_ifs
  · rfl
  · exact List.length_map _

theorem samplesOf_packSample {value : ℤ} (h : -32768 ≤ value ∧ value < 32768) (rest : Bytes) :
    ∃ data, packSample value = some data ∧ data.length = 2 ∧
      samplesOf (data ++ rest) = value :: samplesOf rest := by
  refine ⟨_, if_pos h, length_leBytes _ _, ?_⟩
  show sampleOf (UInt8.ofNat (value % 65536).toNat) (UInt8.ofNat ((value % 65536).toNat / 256)) ::
    samplesOf rest = _
  congr 1
  unfold sampleOf
  simp only [UInt8.toNat_ofNat']
  split_ifs <;> omega

/-- **The samples of a packet** are read back. -/
theorem samplesOf_mapM {samples : List ℤ} (h : ∀ value ∈ samples, -32768 ≤ value ∧ value < 32768) :
    ∃ data, (samples.mapM packSample).map List.flatten = some data ∧
      data.length = 2 * samples.length ∧ samplesOf data = samples := by
  induction samples with
  | nil => exact ⟨[], rfl, rfl, rfl⟩
  | cons value samples ih =>
    obtain ⟨hvalue, hsamples⟩ := List.forall_mem_cons.mp h
    obtain ⟨rest, hrest, hlength, hread⟩ := ih hsamples
    obtain ⟨chunks, hchunks, rfl⟩ := Option.map_eq_some_iff.mp hrest
    obtain ⟨data, hdata, hwidth, hsample⟩ := samplesOf_packSample hvalue chunks.flatten
    refine ⟨data ++ chunks.flatten, ?_, ?_, by rw [hsample, hread]⟩
    · rw [List.mapM_cons, hdata, hchunks]
      rfl
    · rw [List.length_append, hwidth, hlength, List.length_cons]
      omega

theorem samplesOf_packSamples {samples : List ℤ} (hlength : samples.length = PCM_SAMPLES_20MS)
    (h : ∀ value ∈ samples, -32768 ≤ value ∧ value < 32768) : ∃ pcm,
      packSamples samples = some pcm ∧ pcm.length = PCM_BYTES_20MS ∧ samplesOf pcm = samples := by
  obtain ⟨data, hdata, hwidth, hread⟩ := samplesOf_mapM h
  exact ⟨data, by rw [packSamples, if_pos hlength, hdata], by rw [hwidth, hlength]; rfl, hread⟩

/-! ## Packets -/

/-- The fields of a call fit in a packet. -/
structure PlayedCall.Fits (call : PlayedCall) : Prop where
  source : call.source < 256 ^ 4
  p25Destination : call.p25Destination < 256 ^ 4
  rtpSsrc : call.rtpSsrc < 256 ^ 4

/-- Packet number `index` after the loop has taken up a call, with the time that it had then. -/
def PacketOf (call : PlayedCall) (start : ℕ) (part : List ℤ × ℕ) (e : PlayEffect) : Prop :=
  ∃ packet pcm, e = .sent packet ∧ samplesOf pcm = part.1 ∧
    parseDvmRtp packet = some
      { source := call.source
        destination := call.p25Destination
        sequence := part.2 % 65535
        marker := part.2 % 65535 = 0
        pcm := pcm } ∧
    beNat ((packet.drop 4).take 4) = (start + PCM_SAMPLES_20MS * part.2) % 4294967296

section Carry

variable {σ : Type} {v : VoiceDecoder σ} {cfg : PlayoutConfig} {call : PlayedCall} {start : ℕ}

/-- The loop has sent `count` packets. -/
structure Counts (start count : ℕ) (s : Speaker σ) : Prop where
  sequence : s.rtpSequence = count % 65535
  timestamp : s.rtpTimestamp = (start + PCM_SAMPLES_20MS * count) % 4294967296

theorem timestamp_buildDvmRtp {pcm packet : Bytes} {source destination sequence timestamp ssrc : ℕ}
    {marker : Bool}
    (h : buildDvmRtp pcm source destination sequence timestamp ssrc marker = some packet) :
    beNat ((packet.drop 4).take 4) = timestamp % 4294967296 := by
  obtain ⟨-, -, -, -, rfl⟩ := buildDvmRtp_eq_some h
  have htime : ∀ rest : Bytes, beNat ((([0x80, if marker then (0x80 : UInt8) else 0] ++
      (beBytes 2 (sequence % 65536) ++ (beBytes 4 (timestamp % 4294967296) ++ rest))).drop 4).take 4) =
        timestamp % 4294967296 := by
    intro rest
    rw [← List.append_assoc, drop_take_append (by rw [List.length_append, length_beBytes]; rfl)
      (length_beBytes 4 _)]
    exact beNat_beBytes (Nat.mod_lt _ (by decide))
  exact htime _

/-- **One packet.** -/
theorem buildChunk_carries (hfits : call.Fits) {count : ℕ} {s : Speaker σ} (h : Counts start count s)
    {chunk : List ℤ} (hlength : chunk.length = PCM_SAMPLES_20MS)
    (hrange : ∀ value ∈ chunk, -32768 ≤ value ∧ value < 32768) :
    ∃ packet, buildChunk call s chunk = some packet ∧
      PacketOf call start (chunk, count) (.sent packet) := by
  obtain ⟨pcm, hpcm, hwidth, hread⟩ := samplesOf_packSamples hlength hrange
  obtain ⟨packet, hpacket⟩ : ∃ packet, buildDvmRtp pcm call.source call.p25Destination
      s.rtpSequence s.rtpTimestamp call.rtpSsrc (s.rtpSequence = 0) = some packet := by
    unfold buildDvmRtp packBe
    rw [if_neg (not_not.mpr hwidth), if_pos hfits.rtpSsrc, if_pos hfits.p25Destination,
      if_pos hfits.source]
    exact ⟨_, rfl⟩
  refine ⟨packet, ?_, packet, pcm, rfl, hread, ?_, ?_⟩
  · unfold buildChunk
    rw [hpcm]
    exact hpacket
  · rw [parseDvmRtp_buildDvmRtp hpacket, h.sequence]
    have hlt : count % 65535 < 65536 := by omega
    rw [Nat.mod_eq_of_lt hlt]
  · rw [timestamp_buildDvmRtp hpacket, h.timestamp, Nat.mod_mod]

theorem Counts.next {count : ℕ} {s : Speaker σ} (h : Counts start count s) :
    Counts start (count + 1) { s with
      rtpSequence := (s.rtpSequence + 1) % 65535
      rtpTimestamp := (s.rtpTimestamp + PCM_SAMPLES_20MS) % 4294967296 } := by
  refine ⟨?_, ?_⟩
  · show (s.rtpSequence + 1) % 65535 = (count + 1) % 65535
    rw [h.sequence]
    omega
  · show (s.rtpTimestamp + PCM_SAMPLES_20MS) % 4294967296 =
      (start + PCM_SAMPLES_20MS * (count + 1)) % 4294967296
    rw [h.timestamp]
    change (_ + 160) % 4294967296 = (start + 160 * (count + 1)) % 4294967296
    change ((start + 160 * count) % 4294967296 + 160) % 4294967296 = _
    omega

/-- **The packets of a block**, one after the other. -/
theorem playChunks_carry (hfits : call.Fits) (chunks : List (List ℤ)) :
    ∀ {count : ℕ} {s : Speaker σ}, Counts start count s →
      (∀ chunk ∈ chunks, chunk.length = PCM_SAMPLES_20MS) →
      (∀ chunk ∈ chunks, ∀ value ∈ chunk, -32768 ≤ value ∧ value < 32768) →
      let r := playChunks call s chunks
      Counts start (count + chunks.length) r.1 ∧ r.1.decoder = s.decoder ∧
        List.Forall₂ (PacketOf call start) (chunks.zipIdx count) r.2 := by
  induction chunks with
  | nil => exact fun h _ _ => ⟨h, rfl, .nil⟩
  | cons chunk chunks ih =>
    intro count s h hlengths hranges
    obtain ⟨hlength, hlengths⟩ := List.forall_mem_cons.mp hlengths
    obtain ⟨hrange, hranges⟩ := List.forall_mem_cons.mp hranges
    obtain ⟨packet, hpacket, hcarries⟩ := buildChunk_carries hfits h hlength hrange
    obtain ⟨hcounts, hdecoder, hrest⟩ := ih h.next hlengths hranges
    unfold playChunks
    rw [hpacket]
    refine ⟨?_, hdecoder, .cons hcarries hrest⟩
    rw [List.length_cons, Nat.add_comm chunks.length, ← Nat.add_assoc]
    exact hcounts

/-! ## Blocks -/

/-- The samples of a block as they are played: none when it cannot be split. -/
def VoiceDecoder.heardStep (v : VoiceDecoder σ) (cfg : PlayoutConfig) (d : σ) (ste : Bytes) :
    σ × List ℤ :=
  ((v.samples cfg d ste).2, (v.samples cfg d ste).1.toOption.getD [])

theorem chunks_nil : Lib.blocks PCM_SAMPLES_20MS ([] : List ℤ) = [] := blocks_of_lt (by decide)

theorem length_samples {d : σ} {ste : Bytes} {samples : List ℤ}
    (h : (v.samples cfg d ste).1 = .ok samples) : samples.length = PCM_SAMPLES_20MS * 3 := by
  unfold VoiceDecoder.samples at h
  cases hsplit : splitTmdBlock ste with
  | error e =>
    rw [hsplit] at h
    cases h
  | ok frames =>
    rw [hsplit] at h
    obtain rfl := Except.ok.inj h
    rw [length_scalePcm, List.length_append, v.length_decode, v.length_decode]
    rfl

theorem range_samples {d : σ} {ste : Bytes} {samples : List ℤ}
    (h : (v.samples cfg d ste).1 = .ok samples) :
    ∀ value ∈ samples, -32768 ≤ value ∧ value < 32768 := by
  unfold VoiceDecoder.samples at h
  cases hsplit : splitTmdBlock ste with
  | error e =>
    rw [hsplit] at h
    cases h
  | ok frames =>
    rw [hsplit] at h
    obtain rfl := Except.ok.inj h
    exact abs_scalePcm cfg _

/-- **A block**: its three packets, or none when it cannot be split. -/
theorem playDownlinkBlock_carry (hfits : call.Fits) {count : ℕ} {s : Speaker σ}
    (h : Counts start count s) (ste : Bytes) :
    let r := playDownlinkBlock v cfg call s ste
    let heard := v.heardStep cfg s.decoder ste
    let chunks := Lib.blocks PCM_SAMPLES_20MS heard.2
    r.1.decoder = heard.1 ∧ PCM_SAMPLES_20MS ∣ heard.2.length ∧
      Counts start (count + chunks.length) r.1 ∧ (∀ e ∈ r.2, e ≠ .raised) ∧
      List.Forall₂ (PacketOf call start) (chunks.zipIdx count) (r.2.filter PlayEffect.isSent) := by
  unfold playDownlinkBlock VoiceDecoder.heardStep
  rcases hsamples : v.samples cfg s.decoder ste with ⟨_ | samples, d⟩
  · show _ ∧ _ ∧ Counts start (count + (Lib.blocks PCM_SAMPLES_20MS []).length) _ ∧ _ ∧
      List.Forall₂ _ ((Lib.blocks PCM_SAMPLES_20MS []).zipIdx count) _
    rw [chunks_nil]
    refine ⟨rfl, Nat.dvd_zero _, ⟨h.sequence, h.timestamp⟩, ?_, .nil⟩
    intro e he
    rw [List.mem_singleton.mp he]
    intro hraised
    cases hraised
  · have hok : (v.samples cfg s.decoder ste).1 = .ok samples := by rw [hsamples]
    have hlength := length_samples hok
    have hchunks : (List.range 3).map (fun index => (samples.drop (index * PCM_SAMPLES_20MS)).take
        PCM_SAMPLES_20MS) = Lib.blocks PCM_SAMPLES_20MS samples := by
      rw [Lib.blocks, hlength, Nat.mul_div_cancel_left 3 (by decide)]
      simp only [Nat.mul_comm]
    have hstate : Counts start count { s with decoder := d } := ⟨h.sequence, h.timestamp⟩
    obtain ⟨hcounts, hdecoder, hcarry⟩ := playChunks_carry hfits (Lib.blocks PCM_SAMPLES_20MS samples)
      hstate (fun chunk hmem => length_of_mem_blocks hmem)
      (fun chunk hmem value hvalue => range_samples hok value (mem_of_mem_blocks hmem hvalue))
    have hsent : ∀ {parts : List (List ℤ × ℕ)} {es : List PlayEffect},
        List.Forall₂ (PacketOf call start) parts es →
          (∀ e ∈ es, e ≠ .raised) ∧ es.filter PlayEffect.isSent = es := by
      intro parts es hall
      induction hall with
      | nil => exact ⟨fun e he => absurd he List.not_mem_nil, rfl⟩
      | cons hcarries _ ih =>
        obtain ⟨packet, pcm, rfl, -⟩ := hcarries
        have hnot : PlayEffect.sent packet ≠ .raised := by
          intro hraised
          cases hraised
        exact ⟨List.forall_mem_cons.mpr ⟨hnot, ih.1⟩, congrArg (PlayEffect.sent packet :: ·) ih.2⟩
    dsimp only
    rw [hchunks]
    obtain ⟨hworks, hfilter⟩ := hsent hcarry
    exact ⟨hdecoder, hlength ▸ Nat.dvd_mul_right _ _, hcounts, hworks, hfilter.symm ▸ hcarry⟩

/-- **A run of blocks**, from any packet on. -/
theorem play_run (hfits : call.Fits) (stes : List Bytes) : ∀ {count : ℕ} {s : Speaker σ},
    Counts start count s →
    let es := Run.outputs (playDownlinkBlock v cfg call) s stes
    (∀ e ∈ es, e ≠ .raised) ∧ List.Forall₂ (PacketOf call start)
      ((Lib.blocks PCM_SAMPLES_20MS (Run.outputs (v.heardStep cfg) s.decoder stes)).zipIdx count)
      (es.filter PlayEffect.isSent) := by
  induction stes with
  | nil =>
    intro count s _
    rw [Run.outputs_nil, Run.outputs_nil, chunks_nil]
    exact ⟨fun e he => absurd he List.not_mem_nil, .nil⟩
  | cons ste stes ih =>
    intro count s h es
    obtain ⟨hdecoder, hdvd, hcounts, hworks, hcarry⟩ :=
      playDownlinkBlock_carry (v := v) hfits h ste
    obtain ⟨hrest, hcarryRest⟩ := ih hcounts
    rw [show es = _ ++ _ from Run.outputs_cons .., Run.outputs_cons, List.filter_append,
      blocks_append (by decide : 0 < PCM_SAMPLES_20MS), leftover_of_dvd hdvd, List.nil_append,
      List.zipIdx_append]
    rw [hdecoder] at hcarryRest
    refine ⟨fun e he => ?_, List.rel_append hcarry hcarryRest⟩
    rcases List.mem_append.mp he with he | he
    · exact hworks e he
    · exact hrest e he

end Carry

/-- **The P25 side gets the samples of all blocks**, from the moment at which the loop takes up a call.
Packet number `n` holds twenty milliseconds of them, has the number `n` modulo 65535 and the time of its
first sample, and is marked when its number is zero. -/
theorem play_stream {σ : Type} (v : VoiceDecoder σ) (cfg : PlayoutConfig) (call : PlayedCall)
    (hfits : call.Fits) (start : ℕ) (d : σ) (stes : List Bytes) :
    let es := Run.outputs (playDownlinkBlock v cfg call) ⟨d, 0, start % 4294967296⟩ stes
    let samples := Run.outputs (v.heardStep cfg) d stes
    let chunks := Lib.blocks PCM_SAMPLES_20MS samples
    chunks.flatten = samples ∧ (∀ e ∈ es, e ≠ .raised) ∧
      List.Forall₂ (PacketOf call start) chunks.zipIdx (es.filter PlayEffect.isSent) := by
  intro es samples chunks
  have hrun := @play_run _ v cfg call start hfits stes 0 ⟨d, 0, start % 4294967296⟩
    ⟨rfl, rfl⟩
  have hdvd : ∀ (stes : List Bytes) (d : σ),
      PCM_SAMPLES_20MS ∣ (Run.outputs (v.heardStep cfg) d stes).length := by
    intro stes
    induction stes with
    | nil => exact fun _ => Nat.dvd_zero _
    | cons ste stes ih =>
      intro d
      rw [Run.outputs_cons, List.length_append]
      exact Nat.dvd_add (playDownlinkBlock_carry (v := v) hfits
        (show Counts 0 0 ⟨d, 0, 0⟩ from ⟨rfl, rfl⟩) ste).2.1 (ih _)
  have hflat := flatten_blocks_append_leftover (by decide : 0 < PCM_SAMPLES_20MS) samples
  rw [leftover_of_dvd (hdvd stes d), List.append_nil] at hflat
  exact ⟨hflat, hrun⟩

/-- A decoder that always hears the same. -/
def sampleDecoder : VoiceDecoder Unit where
  decode := fun _ _ => (List.replicate TETRA_SAMPLES_30MS 5, ())
  length_decode := fun _ _ => List.length_replicate

/-- A configuration that leaves the samples as they are. -/
def sampleGain : PlayoutConfig := ⟨true, id, 24000, by decide⟩

theorem play_stream_sample :
    List.Forall₂ (PacketOf ⟨1, 91, 7⟩ 0)
      [(List.replicate 160 5, 0), (List.replicate 160 5, 1), (List.replicate 160 5, 2)]
      ((Run.outputs (playDownlinkBlock sampleDecoder sampleGain ⟨1, 91, 7⟩) ⟨(), 0, 0⟩
        [List.replicate TETRA_STE_BYTES 0]).filter PlayEffect.isSent) := by
  have hchunks : (Lib.blocks PCM_SAMPLES_20MS (Run.outputs (sampleDecoder.heardStep sampleGain) ()
      [List.replicate TETRA_STE_BYTES 0])).zipIdx =
        [(List.replicate 160 5, 0), (List.replicate 160 5, 1), (List.replicate 160 5, 2)] := by
    decide +kernel
  have hstream := (play_stream sampleDecoder sampleGain ⟨1, 91, 7⟩ ⟨by decide, by decide, by decide⟩ 0
    () [List.replicate TETRA_STE_BYTES 0]).2.2
  rw [hchunks] at hstream
  exact hstream

end Brew
