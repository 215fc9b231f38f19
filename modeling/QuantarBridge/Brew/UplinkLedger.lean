import QuantarBridge.Brew.Uplink
import QuantarBridge.Lib.Chunks

/-!
# What the uplink sends

* `CallRecord`: a call as it should be, `Ledger`: the calls of a run and the packets that are lost;
* `Lost`, `StartsCall`: when a packet is lost and when it starts a call, `Books`: the turns;
* `matches_addSamples`, `payloads_finish`: a packet, and the end of a call;
* `uplink_transcript`: **every packet taken from the queue is in one call or lost, in order, and the
  server gets these calls, one after the other**.
-/

set_option autoImplicit false

namespace Brew

open Lib

/-! ## Calls as they should be -/

/-- A call: its packets in order, and whether it has ended. -/
structure CallRecord where
  callUuid : Bytes
  source : ℕ
  p25Destination : ℕ
  brewDestination : ℕ
  frames : List PcmFrame
  ended : Bool

/-- What became of packets. -/
inductive UplinkRecord
  /-- The packet started no call. The start of one may have been tried. -/
  | lost (frame : PcmFrame) (tried : Option Bytes)
  | call (r : CallRecord)

/-- Why a packet starts no call: there is no route for it, the routes cannot be saved, there is no
connection, or the websocket does not take the start. -/
inductive Lost (router : TalkgroupRouter) (o : UplinkTurn) (frame : PcmFrame) : Option Bytes → Prop
  | unrouted (h : router.brewForP25 frame.destination = none) : Lost router o frame none
  | unsaved (h : o.routesSaved = false) : Lost router o frame none
  | disconnected (h : o.connected = false) : Lost router o frame none
  | refused {brewDestination : ℕ} {payload : Bytes}
      (route : router.brewForP25 frame.destination = some brewDestination)
      (start : buildGroupTx o.callUuid frame.source brewDestination = some payload)
      (h : o.txSent = false) : Lost router o frame (some payload)

/-- A call starts in a turn, on the talkgroup that the routes have for it. -/
structure StartsCall (router : TalkgroupRouter) (o : UplinkTurn) (r : CallRecord) : Prop where
  route : router.brewForP25 r.p25Destination = some r.brewDestination
  callUuid : r.callUuid = o.callUuid
  routesSaved : o.routesSaved = true
  connected : o.connected = true
  sent : o.txSent = true

/-- A turn of the loop books a record: the packet that the loop holds is lost, or the first of a
call. -/
inductive Books {σ : Type} (s : Uplink σ) : UplinkEvent → UplinkRecord → Prop
  | lost {o : UplinkTurn} {frame : PcmFrame} {tried : Option Bytes} (held : s.loop = .holds frame)
      (h : Lost s.router o frame tried) : Books s (.work o) (.lost frame tried)
  | call {o : UplinkTurn} {r : CallRecord} {frame : PcmFrame} {rest : List PcmFrame}
      (held : s.loop = .holds frame) (first : r.frames = frame :: rest)
      (h : StartsCall s.router o r) : Books s (.work o) (.call r)

/-- The routes cannot be saved in a turn of the loop. -/
def FailsAt {σ : Type} (s : Uplink σ) (e : UplinkEvent) : Prop :=
  ∃ o frame, e = .work o ∧ s.loop = .holds frame ∧ o.routesSaved = false

section Records

variable {σ : Type} (v : VoiceCoder σ)

/-- A block as it is sent. -/
def VoiceCoder.ste (s : σ) (samples : List ℤ) : Bytes :=
  let (samples, s) := v.process s samples
  let (codedA, s) := v.encode s (samples.take TETRA_SAMPLES_30MS)
  let (codedB, _) := v.encode s (samples.drop TETRA_SAMPLES_30MS)
  0 :: packFrames codedA codedB

/-- The coder takes one block after the other. -/
def VoiceCoder.step (s : σ) (samples : List ℤ) : σ × List Bytes :=
  ((v.code s samples).2, [v.ste s samples])

/-- The frame of a block. -/
def voiceFrame (callUuid ste : Bytes) : Bytes :=
  [0xF2, 0] ++ callUuid ++ leBytes 2 (ste.length * 8) ++ ste

namespace CallRecord

variable (r : CallRecord)

/-- The sound of the call. -/
def samples : List ℤ := r.frames.flatMap fun frame => samplesOf frame.pcm

/-- Its blocks. The last one is filled up when the call has ended. -/
def blocks : List (List ℤ) :=
  Lib.blocks TETRA_SAMPLES_60MS r.samples ++
    let rest := leftover TETRA_SAMPLES_60MS r.samples
    if r.ended = true ∧ rest ≠ [] then
      [rest ++ List.replicate (TETRA_SAMPLES_60MS - rest.length) 0]
    else []

/-- The coded blocks. -/
def stes : List Bytes := Run.outputs v.step v.fresh r.blocks

/-- The frames for the server: the start, the blocks, and the end. -/
def payloads : List Bytes :=
  (buildGroupTx r.callUuid r.source r.brewDestination).toList ++
    ((r.stes v).map (voiceFrame r.callUuid) ++
      if r.ended then [buildGroupIdle r.callUuid 0] else [])

end CallRecord

namespace UplinkRecord

/-- The voice of a record. -/
def frames : UplinkRecord → List PcmFrame
  | .lost frame _ => [frame]
  | .call r => r.frames

/-- The blocks that were sent for a record. -/
def payloads : UplinkRecord → List Bytes
  | .lost _ tried => tried.toList
  | .call r => r.payloads v

/-- The packets are those of the call. -/
def Sound : UplinkRecord → Prop
  | .lost _ _ => True
  | .call r => r.frames ≠ [] ∧
      ∀ frame ∈ r.frames, frame.source = r.source ∧ frame.destination = r.p25Destination

/-- Nothing more is added to the record. -/
def Closed : UplinkRecord → Prop
  | .lost _ _ => True
  | .call r => r.ended = true

end UplinkRecord

/-- The voice that was received. -/
def UplinkEffect.received? : UplinkEffect → Option PcmFrame
  | .received frame => some frame
  | _ => none

/-- The packet leaves the queue. -/
def UplinkEffect.left? : UplinkEffect → Option PcmFrame
  | .dropped frame => some frame
  | .taken frame => some frame
  | _ => none

/-- The voice that was taken from the queue. -/
def UplinkEffect.taken? : UplinkEffect → Option PcmFrame
  | .taken frame => some frame
  | _ => none

/-- The block that was sent. -/
def UplinkEffect.payload? : UplinkEffect → Option Bytes
  | .sent payload _ => some payload
  | _ => none

/-- The packet that the loop holds. -/
def Uplink.held (s : Uplink σ) : List PcmFrame :=
  match s.loop with
  | .holds frame => [frame]
  | _ => []

/-- The call that the loop is at work on. A loop that has ended works on none. -/
def Uplink.working (s : Uplink σ) : Option (UplinkCall σ) :=
  match s.loop with
  | .failed => none
  | _ => s.activeUplink

/-- The call at work and its record. -/
structure Matches (call : UplinkCall σ) (r : CallRecord) : Prop where
  source : call.source = r.source
  p25Destination : call.p25Destination = r.p25Destination
  brewDestination : call.brewDestination = r.brewDestination
  callUuid : call.callUuid = r.callUuid
  coder : call.coder = Run.final v.step v.fresh r.blocks
  waiting : call.pcmSamples = leftover TETRA_SAMPLES_60MS r.samples
  ended : r.ended = false

/-- All calls have ended but the one at work, which is the last. -/
inductive OpenAt : List UplinkRecord → Option (UplinkCall σ) → Prop
  | none {records : List UplinkRecord} (h : ∀ r ∈ records, r.Closed) : OpenAt records none
  | some {records : List UplinkRecord} {r : CallRecord} {call : UplinkCall σ}
      (h : ∀ r ∈ records, r.Closed) (hm : Matches v call r) :
      OpenAt (records ++ [.call r]) (some call)

/-- **The calls of a run**: every packet taken is in one of them or lost, in order, and they are what
was sent. -/
structure Ledger (InBook : UplinkRecord → Prop) (os : List UplinkEffect) (s : Uplink σ)
    (records : List UplinkRecord) : Prop where
  taken : os.filterMap UplinkEffect.taken? = records.flatMap UplinkRecord.frames ++ s.held
  sent : os.filterMap UplinkEffect.payload? = records.flatMap (UplinkRecord.payloads v)
  sound : ∀ r ∈ records, r.Sound
  booked : ∀ r ∈ records, InBook r
  open_ : OpenAt v records s.working

end Records

/-! ## One block -/

section Block

variable {σ : Type} (v : VoiceCoder σ)

theorem code_fst (s : σ) (samples : List ℤ) : (v.code s samples).1 = .ok (v.ste s samples) := by
  unfold VoiceCoder.code VoiceCoder.ste joinTmdBlock
  dsimp only
  rw [if_neg]
  · rfl
  · rw [v.length_encode, v.length_encode]
    simp

theorem length_ste (s : σ) (samples : List ℤ) : (v.ste s samples).length = TETRA_STE_BYTES := by
  unfold VoiceCoder.ste
  dsimp only
  rw [List.length_cons, length_packFrames]
  rfl

theorem buildVoiceFrame_eq {ste : Bytes} (callUuid : Bytes) (h : ste.length = TETRA_STE_BYTES) :
    buildVoiceFrame callUuid ste = some (voiceFrame callUuid ste) :=
  if_neg (not_not.mpr h)

/-- **A block is sent.** No exception is raised. -/
theorem sendUplinkVoice_eq (ok : Bool) (call : UplinkCall σ) (samples : List ℤ) :
    sendUplinkVoice v ok call samples =
      ({ call with
        coder := (v.step call.coder samples).1
        voiceFrames := if ok then call.voiceFrames + 1 else call.voiceFrames },
        [.sent (voiceFrame call.callUuid (v.ste call.coder samples)) ok]) := by
  unfold sendUplinkVoice VoiceCoder.step
  generalize hcode : v.code call.coder samples = coded
  obtain ⟨ste, coder⟩ := coded
  have hste : ste = .ok (v.ste call.coder samples) := by
    rw [← code_fst, hcode]
  subst hste
  dsimp only [Except.toOption, Option.bind_some]
  rw [buildVoiceFrame_eq _ (length_ste ..)]

end Block

/-! ## A packet, and the end of a call -/

theorem length_samplesOf (pcm : Bytes) : (samplesOf pcm).length = pcm.length / 2 := by
  fun_induction samplesOf pcm with
  | case1 low high rest ih =>
    rw [List.length_cons, List.length_cons, List.length_cons, ih]
    omega
  | case2 pcm h =>
    match pcm, h with
    | [], _ => rfl
    | [_], _ => exact (Nat.div_eq_of_lt Nat.one_lt_two).symm
    | low :: high :: rest, h => exact absurd rfl (h low high rest)

namespace CallRecord

/-- The record with another packet. -/
def add (r : CallRecord) (frame : PcmFrame) : CallRecord := { r with frames := r.frames ++ [frame] }

/-- The record of a call that has ended. -/
def close (r : CallRecord) : CallRecord := { r with ended := true }

variable {σ : Type} {v : VoiceCoder σ} {r : CallRecord} {frame : PcmFrame}

theorem samples_add : (r.add frame).samples = r.samples ++ samplesOf frame.pcm := by
  show (r.frames ++ [frame]).flatMap _ = _
  rw [List.flatMap_append, List.flatMap_singleton]
  rfl

theorem blocks_of_open (h : r.ended = false) :
    r.blocks = Lib.blocks TETRA_SAMPLES_60MS r.samples := by
  unfold blocks
  rw [h]
  exact List.append_nil _

theorem blocks_of_new (h : r.ended = false) (hnew : r.frames = []) : r.blocks = [] := by
  rw [blocks_of_open h, samples, hnew]
  exact blocks_of_lt (by decide)

theorem payloads_of_open (h : r.ended = false) : r.payloads v =
    (buildGroupTx r.callUuid r.source r.brewDestination).toList ++
      (r.stes v).map (voiceFrame r.callUuid) := by
  unfold payloads
  rw [h]
  exact congrArg _ (List.append_nil _)

theorem blocks_add (h : r.ended = false) : (r.add frame).blocks = r.blocks ++
    Lib.blocks TETRA_SAMPLES_60MS (leftover TETRA_SAMPLES_60MS r.samples ++ samplesOf frame.pcm) := by
  rw [blocks_of_open h, blocks_of_open (r := r.add frame) h, samples_add]
  exact blocks_append (by decide) ..

theorem leftover_add : leftover TETRA_SAMPLES_60MS (r.add frame).samples =
    leftover TETRA_SAMPLES_60MS (leftover TETRA_SAMPLES_60MS r.samples ++ samplesOf frame.pcm) := by
  rw [samples_add]
  exact leftover_append (by decide) ..

end CallRecord

section Calls

variable {σ : Type} {v : VoiceCoder σ} {o : UplinkTurn} {call : UplinkCall σ} {r : CallRecord}
  {frame : PcmFrame}

/-- The frames of the effects. -/
abbrev payloadsOf (es : List UplinkEffect) : List Bytes := es.filterMap UplinkEffect.payload?

/-- **A packet joins a call**, and so it joins its record. -/
theorem matches_addSamples (hm : Matches v call r) (hpcm : frame.pcm.length = PCM_BYTES_20MS) :
    Matches v (addSamples v o frame call).1 (r.add frame) ∧
      (r.add frame).payloads v = r.payloads v ++ payloadsOf (addSamples v o frame call).2 := by
  have hlength : (samplesOf frame.pcm).length = 160 := by
    rw [length_samplesOf, hpcm]
    rfl
  have hopen : (r.add frame).ended = false := hm.ended
  have hrest := @length_leftover_lt _ TETRA_SAMPLES_60MS r.samples (by decide)
  have hblocks := @CallRecord.blocks_add r frame hm.ended
  have hleft := @CallRecord.leftover_add r frame
  have hwaiting := hm.waiting
  unfold addSamples
  rw [CallRecord.payloads_of_open hopen, CallRecord.payloads_of_open hm.ended]
  generalize hx : call.pcmSamples ++ samplesOf frame.pcm = x
  rw [← hwaiting, hx] at hblocks hleft
  have hxlength : x.length < 640 := by
    rw [← hx, List.length_append, hwaiting, hlength]
    exact Nat.add_lt_add_right hrest 160
  dsimp only
  split_ifs with hfull
  · -- a whole block
    have hshort : (x.drop TETRA_SAMPLES_60MS).length < TETRA_SAMPLES_60MS := by
      rw [List.length_drop]
      show x.length - 480 < 480
      omega
    rw [blocks_of_le (by decide) hfull, blocks_of_lt hshort] at hblocks
    rw [leftover_of_le (by decide) hfull, leftover_of_lt hshort] at hleft
    rw [sendUplinkVoice_eq]
    refine ⟨⟨hm.source, hm.p25Destination, hm.brewDestination, hm.callUuid, ?_, hleft.symm, hopen⟩, ?_⟩
    · rw [hblocks, Run.final_concat, ← hm.coder]
    · show _ = _ ++ [voiceFrame call.callUuid (v.ste call.coder (x.take TETRA_SAMPLES_60MS))]
      rw [CallRecord.stes, hblocks, Run.outputs_append, List.map_append, ← List.append_assoc,
        ← hm.coder, hm.callUuid]
      rfl
  · rw [blocks_of_lt (Nat.lt_of_not_le hfull), List.append_nil] at hblocks
    rw [leftover_of_lt (Nat.lt_of_not_le hfull)] at hleft
    refine ⟨⟨hm.source, hm.p25Destination, hm.brewDestination, hm.callUuid, ?_, hleft.symm, hopen⟩, ?_⟩
    · rw [hblocks, hm.coder]
    · rw [CallRecord.stes, hblocks]
      exact (List.append_nil _).symm

/-- **A call ends**, and so does its record. -/
theorem payloads_finish (hm : Matches v call r) (s : Uplink σ) :
    r.close.payloads v = r.payloads v ++ payloadsOf (finishUplink v o call s).2 := by
  have hwaiting := hm.waiting
  have hrest := @length_leftover_lt _ TETRA_SAMPLES_60MS r.samples (by decide)
  rw [CallRecord.payloads_of_open hm.ended]
  have hclose : r.close.payloads v = (buildGroupTx r.callUuid r.source r.brewDestination).toList ++
      ((r.close.stes v).map (voiceFrame r.callUuid) ++ [buildGroupIdle r.callUuid 0]) := rfl
  have hblocks : r.close.blocks = r.blocks ++ if call.pcmSamples ≠ [] then
      [call.pcmSamples ++ List.replicate (TETRA_SAMPLES_60MS - call.pcmSamples.length) 0]
    else [] := by
    rw [CallRecord.blocks_of_open hm.ended, hwaiting]
    exact congrArg _ (if_congr (and_iff_right rfl) rfl rfl)
  rw [hclose, CallRecord.stes, hblocks, Run.outputs_append, ← hm.coder, List.map_append]
  unfold finishUplink
  dsimp only
  rw [← hwaiting] at hrest
  by_cases hempty : call.pcmSamples = []
  · rw [if_neg (not_not.mpr hempty), if_pos hempty, hm.callUuid]
    simp only [List.append_assoc]
    rfl
  · have hfull : (call.pcmSamples ++
        List.replicate (TETRA_SAMPLES_60MS - call.pcmSamples.length) 0).length =
        TETRA_SAMPLES_60MS := by
      rw [List.length_append, List.length_replicate]
      omega
    rw [if_pos hempty, if_neg hempty, List.take_of_length_le hfull.le, sendUplinkVoice_eq,
      hm.callUuid]
    simp only [List.append_assoc]
    rfl

/-- The routes lead to talkgroups of 32 bits. -/
def MapsFit (config : RoutingConfig) : Prop :=
  ∀ p25 brew, config.p25ToBrew.get? p25 = some brew → brew < 256 ^ 4

/-- A packet as it is parsed. -/
structure FrameFits (frame : PcmFrame) : Prop where
  source : frame.source < 256 ^ 4
  destination : frame.destination < 256 ^ 4
  pcm : frame.pcm.length = PCM_BYTES_20MS

theorem brewForP25_lt {router : TalkgroupRouter} {p25 brew : ℕ} (hmaps : MapsFit router.config)
    (hp25 : p25 < 256 ^ 4) (h : router.brewForP25 p25 = some brew) : brew < 256 ^ 4 := by
  unfold TalkgroupRouter.brewForP25 at h
  split_ifs at h
  obtain rfl := Option.some.inj h
  cases hget : router.config.p25ToBrew.get? p25 with
  | none => exact hp25
  | some brew => exact hmaps p25 brew hget

theorem payloadsOf_told (announcements : List Announcement) (es : List UplinkEffect) :
    payloadsOf (announcements.map .announced ++ es) = payloadsOf es := by
  induction announcements with
  | nil => rfl
  | cons a announcements ih => exact ih

theorem payloadsOf_announced (announcements : List Announcement) :
    payloadsOf (announcements.map .announced) = [] := by
  have h := payloadsOf_told announcements []
  rwa [List.append_nil] at h

/-- The records that may be in the book after a turn: those of the turn, and calls that go on or
end. -/
structure Admits (InBook : UplinkRecord → Prop) (router : TalkgroupRouter) (o : UplinkTurn)
    (frame : PcmFrame) : Prop where
  lost : ∀ tried, Lost router o frame tried → InBook (.lost frame tried)
  call : ∀ r rest, r.frames = frame :: rest → StartsCall router o r → InBook (.call r)
  add : ∀ r frame', InBook (.call r) → InBook (.call (r.add frame'))
  close : ∀ r, InBook (.call r) → InBook (.call r.close)

variable {InBook : UplinkRecord → Prop}

/-- The calls have all ended. -/
structure Settled (v : VoiceCoder σ) (InBook : UplinkRecord → Prop) (records : List UplinkRecord)
    (frames : List PcmFrame) (payloads : List Bytes) : Prop where
  closed : ∀ r ∈ records, r.Closed
  sound : ∀ r ∈ records, r.Sound
  booked : ∀ r ∈ records, InBook r
  frames_eq : records.flatMap UplinkRecord.frames = frames
  payloads_eq : records.flatMap (UplinkRecord.payloads v) = payloads

/-- The records with a call at work that takes packets like this one. -/
structure Working (v : VoiceCoder σ) (InBook : UplinkRecord → Prop) (c : UplinkCall σ)
    (frame : PcmFrame) (frames : List PcmFrame) (payloads : List Bytes) (front : List UplinkRecord)
    (r : CallRecord) : Prop where
  closed : ∀ r ∈ front, r.Closed
  sound : ∀ r ∈ front, r.Sound
  booked : ∀ r ∈ front, InBook r
  booked_add : InBook (.call (r.add frame))
  call : Matches v c r
  source : r.source = frame.source
  destination : r.p25Destination = frame.destination
  fits : ∀ f ∈ r.frames, f.source = r.source ∧ f.destination = r.p25Destination
  frames_eq : front.flatMap UplinkRecord.frames ++ r.frames = frames
  payloads_eq : front.flatMap (UplinkRecord.payloads v) ++ r.payloads v = payloads

/-- What the search for the call of a packet ends with: the packet is lost, or there is a call. -/
def CallFound (v : VoiceCoder σ) (InBook : UplinkRecord → Prop) (frame : PcmFrame)
    (frames : List PcmFrame) (payloads : List Bytes) : Option (UplinkCall σ) → Prop
  | none => ∃ records, Settled v InBook records (frames ++ [frame]) payloads
  | some c => ∃ front r, Working v InBook c frame frames payloads front r

/-- **A call starts**, or the packet is lost. -/
theorem callFound_open {records : List UplinkRecord} {frames : List PcmFrame} {payloads : List Bytes}
    {s : Uplink σ} (h : Settled v InBook records frames payloads) (hmaps : MapsFit s.router.config)
    (hframe : FrameFits frame) (hadmits : Admits InBook s.router o frame) :
    CallFound v InBook frame frames
      (payloads ++ payloadsOf (openUplink v o frame.source frame.destination s).2.2)
      (openUplink v o frame.source frame.destination s).1 := by
  have hlost : ∀ tried, Lost s.router o frame tried →
      Settled v InBook (records ++ [.lost frame tried]) (frames ++ [frame])
        (payloads ++ tried.toList) := by
    intro tried htried
    refine ⟨?_, ?_, ?_, ?_, ?_⟩
    · exact List.forall_mem_append.mpr ⟨h.closed, List.forall_mem_singleton.mpr trivial⟩
    · exact List.forall_mem_append.mpr ⟨h.sound, List.forall_mem_singleton.mpr trivial⟩
    · exact List.forall_mem_append.mpr
        ⟨h.booked, List.forall_mem_singleton.mpr (hadmits.lost tried htried)⟩
    · rw [List.flatMap_append, h.frames_eq]
      rfl
    · rw [List.flatMap_append, h.payloads_eq, List.flatMap_singleton]
      rfl
  unfold openUplink
  cases hroute : s.router.brewForP25 frame.destination with
  | none => exact ⟨_, hlost none (.unrouted hroute)⟩
  | some brewDestination =>
    have hfits := brewForP25_lt hmaps hframe.destination hroute
    obtain ⟨tx, htx⟩ : ∃ tx, buildGroupTx o.callUuid frame.source brewDestination = some tx :=
      exists_buildGroupTx hframe.source hfits
    dsimp only
    rw [htx]
    split_ifs with hsaved hconnected hsent
    · exact ⟨_, hlost none (.unsaved hsaved)⟩
    · rw [payloadsOf_announced]
      exact ⟨_, hlost none (.disconnected hconnected)⟩
    · dsimp only
      rw [payloadsOf_told]
      exact ⟨_, hlost (some tx) (.refused hroute htx hsent)⟩
    · dsimp only
      rw [payloadsOf_told]
      let r : CallRecord := ⟨o.callUuid, frame.source, frame.destination, brewDestination, [], false⟩
      have hleft : leftover TETRA_SAMPLES_60MS ([] : List ℤ) = [] := leftover_of_lt (by decide)
      have hblocks : r.blocks = [] := CallRecord.blocks_of_new rfl rfl
      have hstarts : StartsCall s.router o (r.add frame) := ⟨hroute, rfl,
        Bool.of_not_eq_false hsaved, Bool.of_not_eq_false hconnected, Bool.of_not_eq_false hsent⟩
      refine ⟨records, r, h.closed, h.sound, h.booked, hadmits.call _ [] rfl hstarts,
        ⟨rfl, rfl, rfl, rfl, by rw [hblocks]; rfl, hleft.symm, rfl⟩, rfl, rfl,
        fun _ hf => absurd hf List.not_mem_nil, ?_, ?_⟩
      · exact (List.append_nil _).trans h.frames_eq
      · rw [h.payloads_eq, CallRecord.payloads_of_open rfl, CallRecord.stes, hblocks]
        exact congrArg (fun start => payloads ++ (Option.toList start ++ [])) htx

/-- **The call of a packet.** -/
theorem callFound_callFor {records : List UplinkRecord} {s : Uplink σ}
    (hsound : ∀ r ∈ records, r.Sound) (hbooked : ∀ r ∈ records, InBook r)
    (hopen : OpenAt v records s.activeUplink) (hmaps : MapsFit s.router.config)
    (hframe : FrameFits frame) (hadmits : Admits InBook s.router o frame) :
    CallFound v InBook frame (records.flatMap UplinkRecord.frames)
      (records.flatMap (UplinkRecord.payloads v) ++ payloadsOf (callFor v o frame s).2.2)
      (callFor v o frame s).1 := by
  unfold callFor
  generalize hactive : s.activeUplink = active at hopen
  cases hopen with
  | none hclosed => exact callFound_open ⟨hclosed, hsound, hbooked, rfl, rfl⟩ hmaps hframe hadmits
  | @some front r call hclosed hm =>
    have hfront := fun x hx => hsound x (List.mem_append_left _ hx)
    have hbooks := fun x hx => hbooked x (List.mem_append_left _ hx)
    have hr : (UplinkRecord.call r).Sound := hsound _ (List.mem_append_right _ List.mem_cons_self)
    have hcall : InBook (.call r) := hbooked _ (List.mem_append_right _ List.mem_cons_self)
    have hfits := hr.2
    dsimp only
    rw [List.flatMap_append, List.flatMap_append, List.flatMap_singleton, List.flatMap_singleton]
    split_ifs with hsame
    · exact ⟨front, r, hclosed, hfront, hbooks, hadmits.add r frame hcall, hm, hm.source ▸ hsame.1,
        hm.p25Destination ▸ hsame.2, hfits, rfl, (List.append_nil _).symm⟩
    · have hsettled : Settled v InBook (front ++ [.call r.close])
          (front.flatMap UplinkRecord.frames ++ r.frames)
          (front.flatMap (UplinkRecord.payloads v) ++ r.payloads v ++
            payloadsOf (finishUplink v o call s).2) := by
        refine ⟨?_, ?_, ?_, ?_, ?_⟩
        · exact List.forall_mem_append.mpr ⟨hclosed, List.forall_mem_singleton.mpr rfl⟩
        · exact List.forall_mem_append.mpr ⟨hfront, List.forall_mem_singleton.mpr hr⟩
        · exact List.forall_mem_append.mpr
            ⟨hbooks, List.forall_mem_singleton.mpr (hadmits.close r hcall)⟩
        · rw [List.flatMap_append, List.flatMap_singleton]
          rfl
        · rw [List.flatMap_append, List.flatMap_singleton, List.append_assoc, ← payloads_finish hm]
          rfl
      have hfound := callFound_open (o := o) (s := (finishUplink v o call s).1) hsettled hmaps hframe
        hadmits
      rw [List.append_assoc, ← List.filterMap_append] at hfound
      exact hfound

/-- **The loop handles a packet**, and the records take it. -/
theorem openAt_workOn {records : List UplinkRecord} {s : Uplink σ}
    (hsound : ∀ r ∈ records, r.Sound) (hbooked : ∀ r ∈ records, InBook r)
    (hopen : OpenAt v records s.activeUplink) (hmaps : MapsFit s.router.config)
    (hframe : FrameFits frame) (hadmits : Admits InBook s.router o frame) :
    ∃ records', (∀ r ∈ records', r.Sound) ∧ (∀ r ∈ records', InBook r) ∧
      OpenAt v records' (workOn v o frame s).1.activeUplink ∧
      records'.flatMap UplinkRecord.frames = records.flatMap UplinkRecord.frames ++ [frame] ∧
      records'.flatMap (UplinkRecord.payloads v) =
        records.flatMap (UplinkRecord.payloads v) ++ payloadsOf (workOn v o frame s).2 := by
  have hfound := callFound_callFor (o := o) hsound hbooked hopen hmaps hframe hadmits
  unfold workOn
  generalize callFor v o frame s = found at hfound
  obtain ⟨call, s', es⟩ := found
  cases call with
  | none =>
    obtain ⟨records', h⟩ := hfound
    exact ⟨records', h.sound, h.booked, OpenAt.none h.closed, h.frames_eq, h.payloads_eq⟩
  | some call =>
    obtain ⟨front, r, h⟩ := hfound
    obtain ⟨hm, hpayloads⟩ := matches_addSamples (o := o) h.call hframe.pcm
    refine ⟨front ++ [.call (r.add frame)], ?_, ?_, OpenAt.some h.closed hm, ?_, ?_⟩
    · refine List.forall_mem_append.mpr ⟨h.sound, List.forall_mem_singleton.mpr ⟨?_, ?_⟩⟩
      · exact List.append_ne_nil_of_right_ne_nil _ (List.cons_ne_nil _ _)
      · exact List.forall_mem_append.mpr
          ⟨h.fits, List.forall_mem_singleton.mpr ⟨h.source.symm, h.destination.symm⟩⟩
    · exact List.forall_mem_append.mpr ⟨h.booked, List.forall_mem_singleton.mpr h.booked_add⟩
    · rw [List.flatMap_append, List.flatMap_singleton, ← h.frames_eq, List.append_assoc]
      rfl
    · rw [List.flatMap_append, List.flatMap_singleton]
      show _ ++ (r.add frame).payloads v = _ ++ List.filterMap _ (es ++ _)
      rw [hpayloads, List.filterMap_append, ← List.append_assoc, h.payloads_eq, List.append_assoc]

end Calls

/-! ## Runs -/

/-- The effect is a message of the bridge, or the exception that ends its loop. -/
def UplinkEffect.IsMessage : UplinkEffect → Prop
  | .announced _ => True
  | .sent _ _ => True
  | .raised => True
  | _ => False

section Runs

variable {σ : Type} {v : VoiceCoder σ} {cfg : UplinkConfig} {o : UplinkTurn} {frame : PcmFrame}
  {s : Uplink σ} {es : List UplinkEffect}

theorem isMessage_announced (announcements : List Announcement) :
    ∀ e ∈ announcements.map UplinkEffect.announced, e.IsMessage :=
  List.forall_mem_map.mpr fun _ _ => trivial

theorem filterMap_of_isMessage {f : UplinkEffect → Option PcmFrame}
    (hf : ∀ e : UplinkEffect, e.IsMessage → f e = none) (h : ∀ e ∈ es, e.IsMessage) :
    es.filterMap f = [] :=
  List.filterMap_eq_nil_iff.mpr fun e he => hf e (h e he)

theorem received_of_isMessage (e : UplinkEffect) (h : e.IsMessage) : e.received? = none := by
  cases e <;> first | rfl | exact absurd h id

theorem left_of_isMessage (e : UplinkEffect) (h : e.IsMessage) : e.left? = none := by
  cases e <;> first | rfl | exact absurd h id

theorem taken_of_isMessage (e : UplinkEffect) (h : e.IsMessage) : e.taken? = none := by
  cases e <;> first | rfl | exact absurd h id

/-- The loop only sends messages, and leaves the queue and the configuration as they are. -/
structure Speaks (s : Uplink σ) (r : Uplink σ × List UplinkEffect) : Prop where
  queue : r.1.uplinkQueue = s.uplinkQueue
  config : r.1.router.config = s.router.config
  loop : r.1.loop = s.loop
  messages : ∀ e ∈ r.2, e.IsMessage

theorem config_beginUplink (p25Destination : ℕ) (now epoch : Time) (r : TalkgroupRouter) :
    (beginUplink p25Destination now epoch r).1.config = r.config := by
  unfold beginUplink
  cases r.brewForP25 p25Destination with
  | none => rfl
  | some brewDestination =>
    show (r.activate brewDestination now epoch).2.config = r.config
    unfold TalkgroupRouter.activate
    split_ifs <;> rfl

theorem speaks_finish (call : UplinkCall σ) (s : Uplink σ) : Speaks s (finishUplink v o call s) := by
  refine ⟨rfl, rfl, rfl, ?_⟩
  unfold finishUplink
  refine List.forall_mem_append.mpr ⟨?_, List.forall_mem_singleton.mpr trivial⟩
  split_ifs with h
  · exact fun _ he => absurd he List.not_mem_nil
  · rw [sendUplinkVoice_eq]
    exact List.forall_mem_singleton.mpr trivial

theorem speaks_open (hmaps : MapsFit s.router.config) (hframe : FrameFits frame) :
    Speaks s (openUplink v o frame.source frame.destination s).2 := by
  have hconfig := config_beginUplink frame.destination o.now o.epoch s.router
  have hmessages := isMessage_announced (beginUplink frame.destination o.now o.epoch s.router).2
  unfold openUplink
  cases hroute : s.router.brewForP25 frame.destination with
  | none => exact ⟨rfl, rfl, rfl, fun _ he => absurd he List.not_mem_nil⟩
  | some brewDestination =>
    have hfits := brewForP25_lt hmaps hframe.destination hroute
    obtain ⟨tx, htx⟩ : ∃ tx, buildGroupTx o.callUuid frame.source brewDestination = some tx :=
      exists_buildGroupTx hframe.source hfits
    dsimp only
    rw [htx]
    split_ifs
    · exact ⟨rfl, hconfig, rfl, List.forall_mem_singleton.mpr trivial⟩
    · exact ⟨rfl, hconfig, rfl, hmessages⟩
    all_goals exact ⟨rfl, hconfig, rfl,
      List.forall_mem_append.mpr ⟨hmessages, List.forall_mem_singleton.mpr trivial⟩⟩

theorem speaks_callFor (hmaps : MapsFit s.router.config) (hframe : FrameFits frame) :
    Speaks s (callFor v o frame s).2 := by
  unfold callFor
  cases s.activeUplink with
  | none => exact speaks_open hmaps hframe
  | some call =>
    dsimp only
    split_ifs
    · exact ⟨rfl, rfl, rfl, fun _ he => absurd he List.not_mem_nil⟩
    · have hfinish := speaks_finish (v := v) (o := o) call s
      have hopen : Speaks (finishUplink v o call s).1
          (openUplink v o frame.source frame.destination (finishUplink v o call s).1).2 :=
        speaks_open hmaps hframe
      exact ⟨hopen.queue, hopen.config, hopen.loop,
        List.forall_mem_append.mpr ⟨hfinish.messages, hopen.messages⟩⟩

theorem speaks_workOn (hmaps : MapsFit s.router.config) (hframe : FrameFits frame) :
    Speaks s (workOn v o frame s) := by
  have hfound := speaks_callFor (v := v) (o := o) hmaps hframe
  unfold workOn
  generalize callFor v o frame s = found at hfound
  obtain ⟨call, s', es⟩ := found
  cases call with
  | none => exact ⟨hfound.queue, hfound.config, hfound.loop, hfound.messages⟩
  | some call =>
    refine ⟨hfound.queue, hfound.config, hfound.loop,
      List.forall_mem_append.mpr ⟨hfound.messages, ?_⟩⟩
    unfold addSamples
    dsimp only
    split_ifs
    · rw [sendUplinkVoice_eq]
      exact List.forall_mem_singleton.mpr trivial
    · exact fun _ he => absurd he List.not_mem_nil

/-! ## Exceptions -/

theorem not_raised_announced (announcements : List Announcement) :
    .raised ∉ announcements.map UplinkEffect.announced := by
  intro h
  obtain ⟨a, -, he⟩ := List.mem_map.mp h
  cases he

theorem not_raised_sent (payload : Bytes) (ok : Bool) :
    .raised ∉ [UplinkEffect.sent payload ok] := fun h => by cases List.mem_singleton.mp h

theorem not_raised_finish (call : UplinkCall σ) (s : Uplink σ) :
    .raised ∉ (finishUplink v o call s).2 := by
  unfold finishUplink
  intro h
  rcases List.mem_append.mp h with h | h
  · split_ifs at h with hempty
    · cases h
    · rw [sendUplinkVoice_eq] at h
      exact not_raised_sent _ _ h
  · exact not_raised_sent _ _ h

/-- The start of a call raises an exception only when the routes cannot be saved. -/
theorem raised_open (hmaps : MapsFit s.router.config) (hframe : FrameFits frame)
    (h : .raised ∈ (openUplink v o frame.source frame.destination s).2.2) :
    o.routesSaved = false ∧ (openUplink v o frame.source frame.destination s).1 = none := by
  have hannounced := not_raised_announced
    (beginUplink frame.destination o.now o.epoch s.router).2
  unfold openUplink at h ⊢
  cases hroute : s.router.brewForP25 frame.destination with
  | none =>
    rw [hroute] at h
    cases h
  | some brewDestination =>
    have hfits := brewForP25_lt hmaps hframe.destination hroute
    obtain ⟨tx, htx⟩ : ∃ tx, buildGroupTx o.callUuid frame.source brewDestination = some tx :=
      exists_buildGroupTx hframe.source hfits
    rw [hroute] at h
    dsimp only at h ⊢
    rw [htx] at h ⊢
    split_ifs at h ⊢ with hsaved hconnected hsent
    · exact ⟨hsaved, rfl⟩
    · exact absurd h hannounced
    · exact absurd ((List.mem_append.mp h).resolve_left hannounced) (not_raised_sent _ _)
    · exact absurd ((List.mem_append.mp h).resolve_left hannounced) (not_raised_sent _ _)

theorem raised_callFor (hmaps : MapsFit s.router.config) (hframe : FrameFits frame)
    (h : .raised ∈ (callFor v o frame s).2.2) :
    o.routesSaved = false ∧ (callFor v o frame s).1 = none := by
  unfold callFor at h ⊢
  cases hactive : s.activeUplink with
  | none =>
    rw [hactive] at h
    exact raised_open hmaps hframe h
  | some call =>
    rw [hactive] at h
    dsimp only at h ⊢
    split_ifs at h ⊢
    · cases h
    · exact raised_open (s := (finishUplink v o call s).1) hmaps hframe
        ((List.mem_append.mp h).resolve_left (not_raised_finish call s))

theorem raised_workOn (hmaps : MapsFit s.router.config) (hframe : FrameFits frame)
    (h : .raised ∈ (workOn v o frame s).2) :
    o.routesSaved = false ∧ (workOn v o frame s).1.activeUplink = none := by
  have hfound := raised_callFor (v := v) (o := o) hmaps hframe
  unfold workOn at h ⊢
  generalize callFor v o frame s = found at h hfound
  obtain ⟨call, s', es⟩ := found
  cases call with
  | none => exact ⟨(hfound h).1, rfl⟩
  | some call =>
    have hvoice : .raised ∉ (addSamples v o frame call).2 := by
      unfold addSamples
      dsimp only
      split_ifs
      · rw [sendUplinkVoice_eq]
        exact not_raised_sent _ _
      · exact List.not_mem_nil
    have hraised := hfound ((List.mem_append.mp h).resolve_right hvoice)
    cases hraised.2

/-! ## The invariant -/

/-- What holds in every state of a run. -/
structure UplinkInv (v : VoiceCoder σ) (InBook : UplinkRecord → Prop) (failed : Prop)
    (os : List UplinkEffect) (s : Uplink σ) : Prop where
  queue : os.filterMap UplinkEffect.received? =
    os.filterMap UplinkEffect.left? ++ s.uplinkQueue
  fits : ∀ f ∈ s.held ++ s.uplinkQueue, FrameFits f
  maps : MapsFit s.router.config
  works : .raised ∈ os → failed
  ledger : ∃ records, Ledger v InBook os s records

variable {os : List UplinkEffect} {s' : Uplink σ} {InBook : UplinkRecord → Prop} {failed : Prop}

theorem working_eq (h : s.loop ≠ .failed) : s.working = s.activeUplink := by
  unfold Uplink.working
  cases hl : s.loop with
  | failed => exact absurd hl h
  | _ => rfl

/-- The queue, the packet that is held, and the call at work stay as they are. -/
theorem inv_of_quiet (h : UplinkInv v InBook failed os s) (announcements : List Announcement)
    (hqueue : s'.uplinkQueue = s.uplinkQueue) (hheld : s'.held = s.held)
    (hworking : s'.working = s.working) (hmaps : MapsFit s'.router.config) :
    UplinkInv v InBook failed (os ++ announcements.map .announced) s' := by
  have hmessages := isMessage_announced announcements
  obtain ⟨records, hl⟩ := h.ledger
  refine ⟨?_, ?_, hmaps, fun hm => ?_, records, ?_, ?_, hl.sound, hl.booked, ?_⟩
  · rw [List.filterMap_append, List.filterMap_append,
      filterMap_of_isMessage received_of_isMessage hmessages,
      filterMap_of_isMessage left_of_isMessage hmessages, List.append_nil, List.append_nil, hqueue]
    exact h.queue
  · rw [hheld, hqueue]
    exact h.fits
  · exact h.works ((List.mem_append.mp hm).resolve_right (not_raised_announced announcements))
  · rw [List.filterMap_append, filterMap_of_isMessage taken_of_isMessage hmessages, List.append_nil,
      hheld]
    exact hl.taken
  · rw [List.filterMap_append, ← hl.sent]
    exact (congrArg _ (payloadsOf_announced announcements)).trans (List.append_nil _)
  · rw [hworking]
    exact hl.open_

theorem frameFits_of_parse {packet : Bytes} (h : parseDvmRtp packet = some frame) :
    FrameFits frame := by
  obtain ⟨-, timestamp, ssrc, built, first, rest, hbuilt, -⟩ := built_of_parse h
  obtain ⟨hpcm, hsource, hdestination, -⟩ := buildDvmRtp_eq_some hbuilt
  exact ⟨hsource, hdestination, hpcm⟩

/-- What a packet that joins the queue changes. -/
structure Joined (frame : PcmFrame) (s : Uplink σ) (r : Uplink σ × List UplinkEffect) : Prop where
  queue : r.2.filterMap UplinkEffect.left? ++ r.1.uplinkQueue = s.uplinkQueue ++ [frame]
  received : r.2.filterMap UplinkEffect.received? = [frame]
  taken : r.2.filterMap UplinkEffect.taken? = []
  sent : payloadsOf r.2 = []
  works : .raised ∉ r.2
  loop : r.1.loop = s.loop
  active : r.1.activeUplink = s.activeUplink
  config : r.1.router = s.router

theorem joined_joinQueue (frame : PcmFrame) (now : Time) (s : Uplink σ) :
    Joined frame s (joinQueue frame now s) := by
  unfold joinQueue
  cases hqueue : s.uplinkQueue with
  | nil =>
    exact ⟨by rw [hqueue]; rfl, rfl, rfl, rfl, by simp, rfl, rfl, rfl⟩
  | cons oldest rest =>
    dsimp only
    split_ifs
    · exact ⟨by rw [hqueue]; rfl, rfl, rfl, rfl, by simp, rfl, rfl, rfl⟩
    · exact ⟨by rw [hqueue]; rfl, rfl, rfl, rfl, by simp, rfl, rfl, rfl⟩

theorem inv_of_heard (h : UplinkInv v InBook failed os s) (source : ℕ) :
    UplinkInv v InBook failed (os ++ [.heard source]) s := by
  obtain ⟨records, hl⟩ := h.ledger
  refine ⟨?_, h.fits, h.maps, fun hm => ?_, records, ?_, ?_, hl.sound, hl.booked, hl.open_⟩
  · rw [List.filterMap_append, List.filterMap_append, h.queue, List.append_assoc, List.append_assoc]
    exact congrArg _ (List.append_nil _)
  · exact h.works ((List.mem_append.mp hm).resolve_right fun hm => by
      cases List.mem_singleton.mp hm)
  · rw [List.filterMap_append, hl.taken]
    exact List.append_nil _
  · rw [List.filterMap_append, hl.sent]
    exact List.append_nil _

/-- **A packet arrives.** -/
theorem inv_receivePacket (h : UplinkInv v InBook failed os s) (t : PacketTurn) (packet : Bytes) :
    UplinkInv v InBook failed (os ++ (receivePacket t packet s).2) (receivePacket t packet s).1 := by
  have hidle : UplinkInv v InBook failed (os ++ []) s := inv_of_quiet h [] rfl rfl rfl h.maps
  have hcleared : ∀ announcements : List Announcement,
      UplinkInv v InBook failed (os ++ announcements.map .announced)
        { s with router := (clearDynamicRoutes s.router).1, lastDisconnectAt := t.now } :=
    fun announcements => inv_of_quiet h announcements rfl rfl rfl h.maps
  unfold receivePacket
  by_cases hallowed : t.allowed = false
  · rw [if_pos hallowed]
    exact hidle
  · rw [if_neg hallowed]
    cases hparse : parseDvmRtp packet with
    | none => exact hidle
    | some frame =>
      dsimp only
      generalize (if t.routesSaved then (clearDynamicRoutes s.router).2 else []) = announcements
      split_ifs
      · exact hcleared announcements
      · exact hidle
      · exact hidle
      · exact inv_of_heard h frame.source
      · obtain ⟨records, hl⟩ := h.ledger
        have hjoin := joined_joinQueue frame t.now s
        have hheld : (joinQueue frame t.now s).1.held = s.held := by
          unfold Uplink.held
          rw [hjoin.loop]
        have hworking : (joinQueue frame t.now s).1.working = s.working := by
          unfold Uplink.working
          rw [hjoin.loop, hjoin.active]
        refine ⟨?_, ?_, hjoin.config ▸ h.maps, fun hm => ?_, records, ?_, ?_, hl.sound, hl.booked, ?_⟩
        · rw [List.filterMap_append, List.filterMap_append, h.queue, List.append_assoc,
            List.append_assoc]
          refine congrArg _ ?_
          show _ = (joinQueue frame t.now s).2.filterMap UplinkEffect.left? ++ _
          rw [hjoin.queue]
          exact congrArg _ hjoin.received
        · rw [hheld]
          intro f hf
          rcases List.mem_append.mp hf with hf | hf
          · exact h.fits f (List.mem_append_left _ hf)
          · have hmem : f ∈ s.uplinkQueue ++ [frame] := hjoin.queue ▸ List.mem_append_right _ hf
            rcases List.mem_append.mp hmem with hf | hf
            · exact h.fits f (List.mem_append_right _ hf)
            · exact List.mem_singleton.mp hf ▸ frameFits_of_parse hparse
        · refine h.works ((List.mem_append.mp hm).resolve_right fun hm => ?_)
          exact hjoin.works ((List.mem_cons.mp hm).resolve_left UplinkEffect.noConfusion)
        · rw [List.filterMap_append, hheld, hl.taken]
          show _ ++ (joinQueue frame t.now s).2.filterMap UplinkEffect.taken? = _
          rw [hjoin.taken, List.append_nil]
        · rw [List.filterMap_append, hl.sent]
          show _ ++ payloadsOf (joinQueue frame t.now s).2 = _
          rw [hjoin.sent, List.append_nil]
        · exact hworking ▸ hl.open_

/-- **The loop looks at the queue.** -/
theorem inv_look (h : UplinkInv v InBook failed os s) (now : Time) :
    UplinkInv v InBook failed (os ++ (look cfg now s).2) (look cfg now s).1 := by
  have hidle : UplinkInv v InBook failed (os ++ []) s := inv_of_quiet h [] rfl rfl rfl h.maps
  unfold look
  cases hloop : s.loop with
  | holds | quiet | failed => exact hidle
  | waiting =>
    have hheld : s.held = [] := by
      unfold Uplink.held
      rw [hloop]
    have hworking : s.working = s.activeUplink := working_eq (by rw [hloop]; exact LoopState.noConfusion)
    cases hqueue : s.uplinkQueue with
    | nil =>
      dsimp only
      split_ifs
      · exact inv_of_quiet h [] hqueue.symm hheld.symm hworking.symm h.maps
      · exact hidle
    | cons frame rest =>
      dsimp only
      split_ifs
      · obtain ⟨records, hl⟩ := h.ledger
        refine ⟨?_, ?_, h.maps, fun hm => ?_, records, ?_, ?_, hl.sound, hl.booked,
          hworking ▸ hl.open_⟩
        · rw [List.filterMap_append, List.filterMap_append, h.queue, hqueue, List.append_assoc,
            List.append_assoc]
          exact congrArg _ (List.append_nil _)
        · have hfits := h.fits
          rw [hheld, hqueue] at hfits
          exact hfits
        · exact h.works ((List.mem_append.mp hm).resolve_right fun hm => by
            cases List.mem_singleton.mp hm)
        · rw [List.filterMap_append, hl.taken, hheld, List.append_nil]
          rfl
        · rw [List.filterMap_append, hl.sent]
          exact List.append_nil _
      · exact hidle

theorem inv_of_messages (h : UplinkInv v InBook failed os s) {records : List UplinkRecord}
    (records' : List UplinkRecord) (hl : Ledger v InBook os s records)
    (hspeaks : Speaks { s with loop := .waiting } (s', es))
    (hframes : records'.flatMap UplinkRecord.frames =
      records.flatMap UplinkRecord.frames ++ s.held)
    (hsent : records'.flatMap (UplinkRecord.payloads v) =
      records.flatMap (UplinkRecord.payloads v) ++ payloadsOf es)
    (hsound : ∀ r ∈ records', r.Sound) (hbooked : ∀ r ∈ records', InBook r)
    (hopen : OpenAt v records' s'.activeUplink) (hraised : .raised ∈ es → failed) :
    UplinkInv v InBook failed (os ++ es) s' := by
  have hheld : s'.held = [] := by
    unfold Uplink.held
    rw [hspeaks.loop]
  have hqueue : s'.uplinkQueue = s.uplinkQueue := hspeaks.queue
  have hconfig : s'.router.config = s.router.config := hspeaks.config
  have hmessages := hspeaks.messages
  have hworking : s'.working = s'.activeUplink :=
    working_eq (by rw [hspeaks.loop]; exact LoopState.noConfusion)
  refine ⟨?_, ?_, hconfig ▸ h.maps, fun hm => ?_, records', ?_, ?_, hsound, hbooked, hworking ▸ hopen⟩
  · rw [List.filterMap_append, List.filterMap_append,
      filterMap_of_isMessage received_of_isMessage hmessages,
      filterMap_of_isMessage left_of_isMessage hmessages, List.append_nil, List.append_nil, hqueue]
    exact h.queue
  · rw [hheld, hqueue]
    exact fun f hf => h.fits f (List.mem_append_right _ hf)
  · exact (List.mem_append.mp hm).elim h.works hraised
  · rw [List.filterMap_append, filterMap_of_isMessage taken_of_isMessage hmessages, hheld, hframes,
      List.append_nil, List.append_nil]
    exact hl.taken
  · rw [List.filterMap_append, hsent, hl.sent]

variable (cfg) in
/-- **The rest of a turn.** -/
theorem inv_turn (h : UplinkInv v InBook failed os s)
    (hadmits : ∀ frame, s.loop = .holds frame → Admits InBook s.router o frame)
    (hclose : ∀ r, InBook (.call r) → InBook (.call r.close))
    (hfails : ∀ frame, s.loop = .holds frame → o.routesSaved = false → failed) :
    UplinkInv v InBook failed (os ++ (turn v cfg o s).2) (turn v cfg o s).1 ∧
      (.raised ∈ (turn v cfg o s).2 →
        (turn v cfg o s).1.activeUplink = none ∧ (turn v cfg o s).1.loop = .waiting) := by
  have hidle : UplinkInv v InBook failed (os ++ []) s := inv_of_quiet h [] rfl rfl rfl h.maps
  obtain ⟨records, hl⟩ := h.ledger
  have hopen := hl.open_
  unfold turn
  cases hloop : s.loop with
  | waiting | failed => exact ⟨hidle, fun hm => absurd hm List.not_mem_nil⟩
  | holds frame =>
    rw [working_eq (by rw [hloop]; exact LoopState.noConfusion)] at hopen
    have hheld : s.held = [frame] := by
      unfold Uplink.held
      rw [hloop]
    have hframe : FrameFits frame := h.fits frame (by rw [hheld]; exact List.mem_cons_self)
    have hspeaks : Speaks { s with loop := .waiting } (workOn v o frame { s with loop := .waiting }) :=
      speaks_workOn h.maps hframe
    have hraised := raised_workOn (v := v) (o := o) (s := { s with loop := .waiting }) h.maps hframe
    obtain ⟨records', hsound, hbooked, hopen', hframes, hsent⟩ := openAt_workOn (o := o)
      (s := { s with loop := .waiting }) hl.sound hl.booked hopen h.maps hframe (hadmits frame hloop)
    exact ⟨inv_of_messages h records' hl hspeaks (hheld ▸ hframes) hsent hsound hbooked hopen' fun hm =>
      hfails frame hloop (hraised hm).1, fun hm => ⟨(hraised hm).2, hspeaks.loop⟩⟩
  | quiet =>
    have hworking := working_eq (s := s) (by rw [hloop]; exact LoopState.noConfusion)
    rw [hworking] at hopen
    have hheld : s.held = [] := by
      unfold Uplink.held
      rw [hloop]
    have hwaits : UplinkInv v InBook failed (os ++ []) { s with loop := .waiting } :=
      inv_of_quiet h [] rfl hheld.symm hworking.symm h.maps
    generalize hactive : s.activeUplink = active at hopen
    rw [hactive] at hwaits
    cases hopen with
    | none => exact ⟨hwaits, fun hm => absurd hm List.not_mem_nil⟩
    | @some front r call hclosed hm =>
      dsimp only
      split_ifs
      · have hquiet := not_raised_finish (v := v) (o := o) call
          { s with loop := .waiting, activeUplink := some call }
        refine ⟨?_, fun hm => absurd hm hquiet⟩
        have hspeaks := speaks_finish (v := v) (o := o) call
          { s with loop := .waiting, activeUplink := some call }
        have hfront := fun x hx => hl.sound x (List.mem_append_left _ hx)
        have hbooks := fun x hx => hl.booked x (List.mem_append_left _ hx)
        have hr : (UplinkRecord.call r).Sound :=
          hl.sound _ (List.mem_append_right _ List.mem_cons_self)
        have hcall : InBook (.call r) := hl.booked _ (List.mem_append_right _ List.mem_cons_self)
        refine inv_of_messages h (front ++ [.call r.close]) hl
          ⟨hspeaks.queue, hspeaks.config, hspeaks.loop, hspeaks.messages⟩ ?_ ?_ ?_ ?_ (OpenAt.none ?_)
          fun hm => absurd hm hquiet
        · rw [hheld, List.append_nil, List.flatMap_append, List.flatMap_append]
          rfl
        · rw [List.flatMap_append, List.flatMap_append, List.append_assoc, List.flatMap_singleton,
            List.flatMap_singleton]
          exact congrArg _ (payloads_finish hm { s with loop := .waiting, activeUplink := some call })
        · exact List.forall_mem_append.mpr ⟨hfront, List.forall_mem_singleton.mpr hr⟩
        · exact List.forall_mem_append.mpr
            ⟨hbooks, List.forall_mem_singleton.mpr (hclose r hcall)⟩
        · exact List.forall_mem_append.mpr ⟨hclosed, List.forall_mem_singleton.mpr rfl⟩
      · exact ⟨hwaits, fun hm => absurd hm List.not_mem_nil⟩

/-- **A turn.** An exception ends the loop, which is then at work on no call. -/
theorem inv_work (h : UplinkInv v InBook failed os s)
    (hadmits : ∀ frame, s.loop = .holds frame → Admits InBook s.router o frame)
    (hclose : ∀ r, InBook (.call r) → InBook (.call r.close))
    (hfails : ∀ frame, s.loop = .holds frame → o.routesSaved = false → failed) :
    UplinkInv v InBook failed (os ++ (work v cfg o s).2) (work v cfg o s).1 := by
  obtain ⟨hturn, hraised⟩ := inv_turn cfg h hadmits hclose hfails
  unfold work
  dsimp only
  generalize turn v cfg o s = r at hturn hraised
  split_ifs with hany
  · obtain ⟨e, he, his⟩ := List.any_eq_true.mp hany
    have hmem : .raised ∈ r.2 := by
      cases e with
      | raised => exact he
      | _ => exact absurd his Bool.false_ne_true
    obtain ⟨hnone, hwaiting⟩ := hraised hmem
    obtain ⟨records, hl⟩ := hturn.ledger
    have hheld : r.1.held = [] := by
      unfold Uplink.held
      rw [hwaiting]
    have hworking : r.1.working = none :=
      (working_eq (by rw [hwaiting]; exact LoopState.noConfusion)).trans hnone
    have hfits := hturn.fits
    have htaken := hl.taken
    have hopen := hl.open_
    rw [hheld] at hfits htaken
    rw [hworking] at hopen
    exact ⟨hturn.queue, hfits, hturn.maps, hturn.works, records, htaken, hl.sent, hl.sound, hl.booked,
      hopen⟩
  · exact hturn

theorem inv_step (e : UplinkEvent)
    (he : ∀ config saved, e = .routing (.reload config) saved → MapsFit config)
    (h : UplinkInv v InBook failed os s)
    (hadmits : ∀ o frame, e = .work o → s.loop = .holds frame → Admits InBook s.router o frame)
    (hclose : ∀ r, InBook (.call r) → InBook (.call r.close)) (hfails : FailsAt s e → failed) :
    UplinkInv v InBook failed (os ++ (uplinkStep v cfg s e).2) (uplinkStep v cfg s e).1 := by
  cases e with
  | packet t packet => exact inv_receivePacket h t packet
  | look now => exact inv_look h now
  | work o =>
    exact inv_work h (fun frame hloop => hadmits o frame rfl hloop) hclose fun frame hloop hsaved =>
      hfails ⟨o, frame, rfl, hloop, hsaved⟩
  | routing op saved =>
    refine inv_of_quiet h (if saved then (op.run s.router).2 else []) rfl rfl rfl ?_
    cases op with
    | beginUplink p25Destination now epoch =>
      show MapsFit (beginUplink p25Destination now epoch s.router).1.config
      rw [config_beginUplink]
      exact h.maps
    | clearDynamicRoutes => exact h.maps
    | expire now => exact h.maps
    | reload config => exact he config saved rfl

/-! ## The book -/

variable (v cfg) (router : TalkgroupRouter)

/-- A turn of the run books the record. -/
def Booked (events : List UplinkEvent) (r : UplinkRecord) : Prop :=
  ∃ pre e post, events = pre ++ e :: post ∧
    Books (Run.final (uplinkStep v cfg) (Uplink.init σ router) pre) e r

/-- The routes cannot be saved in a turn of the run. -/
def Fails (events : List UplinkEvent) : Prop :=
  ∃ pre e post, events = pre ++ e :: post ∧
    FailsAt (Run.final (uplinkStep v cfg) (Uplink.init σ router) pre) e

variable {v cfg router} {events : List UplinkEvent}

theorem Booked.add {r : CallRecord} (h : Booked v cfg router events (.call r)) (frame : PcmFrame) :
    Booked v cfg router events (.call (r.add frame)) := by
  obtain ⟨pre, e, post, hevents, hbooks⟩ := h
  cases hbooks with
  | @call _ _ first rest held hfirst hstarts =>
    have hframes : (r.add frame).frames = first :: (rest ++ [frame]) := by
      show r.frames ++ [frame] = _
      rw [hfirst, List.cons_append]
    exact ⟨pre, _, post, hevents, .call held hframes
      ⟨hstarts.route, hstarts.callUuid, hstarts.routesSaved, hstarts.connected, hstarts.sent⟩⟩

theorem Booked.close {r : CallRecord} (h : Booked v cfg router events (.call r)) :
    Booked v cfg router events (.call r.close) := by
  obtain ⟨pre, e, post, hevents, hbooks⟩ := h
  cases hbooks with
  | call held first hstarts =>
    exact ⟨pre, _, post, hevents, .call held first
      ⟨hstarts.route, hstarts.callUuid, hstarts.routesSaved, hstarts.connected, hstarts.sent⟩⟩

theorem UplinkInv.mono {InBook' : UplinkRecord → Prop} {failed' : Prop}
    (h : UplinkInv v InBook failed os s) (hbook : ∀ r, InBook r → InBook' r)
    (hfails : failed → failed') : UplinkInv v InBook' failed' os s := by
  obtain ⟨records, hl⟩ := h.ledger
  exact ⟨h.queue, h.fits, h.maps, fun hm => hfails (h.works hm), records, hl.taken, hl.sent, hl.sound,
    fun r hr => hbook r (hl.booked r hr), hl.open_⟩

/-- **The invariant holds after every run.** The induction is on the last event. -/
theorem inv_run (events : List UplinkEvent) (hmaps : MapsFit router.config)
    (hreload : ∀ config saved, .routing (.reload config) saved ∈ events → MapsFit config) :
    UplinkInv v (Booked v cfg router events) (Fails v cfg router events)
      (Run.outputs (uplinkStep v cfg) (Uplink.init σ router) events)
      (Run.final (uplinkStep v cfg) (Uplink.init σ router) events) := by
  induction events using List.reverseRecOn with
  | nil =>
    exact ⟨rfl, fun _ hf => absurd hf List.not_mem_nil, hmaps, fun he => absurd he List.not_mem_nil,
      [], rfl, rfl, fun _ hr => absurd hr List.not_mem_nil, fun _ hr => absurd hr List.not_mem_nil,
      OpenAt.none fun _ hr => absurd hr List.not_mem_nil⟩
  | append_singleton events e ih =>
    have hbefore := ih fun config saved hm => hreload config saved (List.mem_append_left _ hm)
    have hlater : ∀ r, Booked v cfg router events r → Booked v cfg router (events ++ [e]) r :=
      fun r hr => (Run.exists_step_concat_iff events e).mpr (Or.inl hr)
    have hnow : ∀ r, Books (Run.final (uplinkStep v cfg) (Uplink.init σ router) events) e r →
        Booked v cfg router (events ++ [e]) r :=
      fun r hr => (Run.exists_step_concat_iff events e).mpr (Or.inr hr)
    rw [Run.outputs_append, Run.outputs_cons, Run.outputs_nil, List.append_nil, Run.final_concat]
    refine inv_step e (fun config saved he => ?_)
      (hbefore.mono hlater fun hf => (Run.exists_step_concat_iff events e).mpr (Or.inl hf))
      (fun o frame he hloop => ?_) (fun r hr => hr.close)
      fun hf => (Run.exists_step_concat_iff events e).mpr (Or.inr hf)
    · exact hreload config saved (List.mem_append_right _ (he ▸ List.mem_cons_self))
    · subst he
      exact ⟨fun tried hlost => hnow _ (.lost hloop hlost),
        fun r rest hfirst hstarts => hnow _ (.call hloop hfirst hstarts),
        fun r frame' hr => hr.add frame', fun r hr => hr.close⟩

end Runs

/-- A coder of which every frame is the same. -/
def sampleCoder : VoiceCoder Unit where
  fresh := ()
  process := fun _ samples => (samples, ())
  encode := fun _ _ => (List.replicate TETRA_CODED_BYTES 0xFF, ())
  length_encode := fun _ _ => List.length_replicate

/-- Two talkgroups are static. -/
def sampleTalkgroups : TalkgroupRouter where
  config := ⟨Dict.empty, Dict.empty, {91, 262}, 600, 4000⟩
  dynamic := Dict.empty
  disjoint := fun _ _ h => absurd h (Option.some_ne_none _).symm

/-- A packet comes, and the loop makes a call of it. -/
def sampleUplink : List UplinkEvent :=
  [.packet ⟨true, true, true, seconds 1⟩
      ((buildDvmRtp (List.replicate PCM_BYTES_20MS 0) 1 91 0 0 7 true).getD []),
    .look (seconds 1),
    .work ⟨seconds 1, seconds 1, true, true, List.replicate 16 3, true, true, true, true⟩]

end Brew
