import QuantarBridge.Routing.State

/-!
# From the FNE to BrandMeister

A frame of the FNE passes the drop checks, opens or refreshes its dynamic talkgroup, takes RF
priority on its talkgroup and is written to BrandMeister under its mapped talkgroup. The disconnect
talkgroup clears the dynamic routing instead.

* `rewriteEmbeddedVoiceLinkControl`, `rewriteGeneratedEmbeddedVoiceLinkControl`, `mapFrame`: the
  talkgroup of a frame and of the link control in it;
* `sendToBM`, `sendBmDisconnect`, `disconnectCommand`, `noteRfActivity`;
* `uplink`, `RfAccepted`.
-/

set_option autoImplicit false

namespace Routing

open Dmr Lib PacketData

variable {lc emb : Type}

/-- Put the new destination into the link control of a header or terminator. -/
def rewriteEmbeddedVoiceLinkControl (V : VoiceCodec lc emb) (data : NetData)
    (oldDstId newDstId : ℕ) : NetData :=
  if isVoiceControl data then
    match V.decode data.data data.dataType with
    | none => data
    | some fullLC =>
      if V.isGroup fullLC ∧ V.getDstId fullLC = oldDstId then
        { data with data := V.encode (V.setDstId fullLC newDstId) data.data data.dataType }
      else data
  else data

/-- Put the link control of the last header into a voice frame. -/
def rewriteGeneratedEmbeddedVoiceLinkControl (V : VoiceCodec lc emb) (data : NetData)
    (embeddedData : emb) (newDstId : ℕ) : NetData × emb :=
  if data.flco ≠ .GROUP then (data, embeddedData)
  else if data.dataType = .VOICE_LC_HEADER then
    (data, V.setLC embeddedData (V.create .GROUP data.srcId newDstId))
  else if data.dataType = .VOICE ∧ 1 ≤ data.n ∧ data.n ≤ 4 then
    let (payload, lcss) := V.getData embeddedData data.data data.n
    ({ data with data := V.setLCSS payload lcss }, embeddedData)
  else (data, embeddedData)

/-- Give a frame its mapped talkgroup. `localSlotNo` chooses the embedded link control. -/
def mapFrame (V : VoiceCodec lc emb) (embeddedLC : Slots emb) (localSlotNo : ℕ) (data : NetData)
    (newDstId : ℕ) : NetData × Slots emb :=
  let mapped := rewriteEmbeddedVoiceLinkControl V { data with dstId := newDstId } data.dstId newDstId
  match slotIndex localSlotNo with
  | none => (mapped, embeddedLC)
  | some i =>
    let (mapped, embeddedData) :=
      rewriteGeneratedEmbeddedVoiceLinkControl V mapped (embeddedLC i) newDstId
    (mapped, Function.update embeddedLC i embeddedData)

theorem rewriteEmbeddedVoiceLinkControl_eq (V : VoiceCodec lc emb) (data : NetData)
    (oldDstId newDstId : ℕ) : ∃ payload,
      rewriteEmbeddedVoiceLinkControl V data oldDstId newDstId = { data with data := payload } := by
  unfold rewriteEmbeddedVoiceLinkControl
  split_ifs
  · cases V.decode data.data data.dataType with
    | none => exact ⟨data.data, rfl⟩
    | some fullLC =>
      dsimp only
      split_ifs
      · exact ⟨_, rfl⟩
      · exact ⟨data.data, rfl⟩
  · exact ⟨data.data, rfl⟩

theorem rewriteGeneratedEmbeddedVoiceLinkControl_eq (V : VoiceCodec lc emb) (data : NetData)
    (embeddedData : emb) (newDstId : ℕ) : ∃ payload,
      (rewriteGeneratedEmbeddedVoiceLinkControl V data embeddedData newDstId).1 =
        { data with data := payload } := by
  unfold rewriteGeneratedEmbeddedVoiceLinkControl
  split_ifs
  · exact ⟨data.data, rfl⟩
  · exact ⟨data.data, rfl⟩
  · exact ⟨_, rfl⟩
  · exact ⟨data.data, rfl⟩

/-- **What the mapping changes**: the talkgroup and the payload. -/
theorem mapFrame_eq (V : VoiceCodec lc emb) (embeddedLC : Slots emb) (localSlotNo : ℕ)
    (data : NetData) (newDstId : ℕ) : ∃ payload,
      (mapFrame V embeddedLC localSlotNo data newDstId).1 =
        { data with dstId := newDstId, data := payload } := by
  obtain ⟨payload, h⟩ :=
    rewriteEmbeddedVoiceLinkControl_eq V { data with dstId := newDstId } data.dstId newDstId
  unfold mapFrame
  dsimp only
  rw [h]
  cases slotIndex localSlotNo with
  | none => exact ⟨payload, rfl⟩
  | some i =>
    obtain ⟨payload', h'⟩ := rewriteGeneratedEmbeddedVoiceLinkControl_eq V
      { data with dstId := newDstId, data := payload } (embeddedLC i) newDstId
    exact ⟨payload', h'⟩

variable (env : Environment lc emb) (cfg : RoutingConfig)

/-- The frame as BrandMeister gets it. -/
def mapOutbound (s : State emb) (data : NetData) : NetData × Slots emb :=
  let mapped := { data with slotNo := cfg.timeslot }
  if isPrivate data then (mapped, s.outboundMappedEmbeddedLC)
  else
    match cfg.p25ToBmTalkgroups.get? data.dstId with
    | none => (mapped, s.outboundMappedEmbeddedLC)
    | some talkgroup =>
      mapFrame env.voice s.outboundMappedEmbeddedLC data.slotNo mapped talkgroup

/-- The state of the link while a frame is written: whether BrandMeister is connected, and the
clock then. -/
structure Link where
  connected : Bool
  clock : Time
  deriving DecidableEq

/-- Write a frame to BrandMeister and remember its signature. -/
def sendToBM (link : Link) (s : State emb) (data : NetData) : State emb × List Effect :=
  if link.connected then
    let (mapped, embeddedLC) := mapOutbound env cfg s data
    ({ s with
        outboundMappedEmbeddedLC := embeddedLC
        recentOutboundBmFrames :=
          s.recentOutboundBmFrames.mark (dmrFrameSignature mapped)
            (link.clock + kBmEchoSuppressWindow) },
      [.forwarded mapped])
  else (s, [])

/-- The identity a repeater's device identity starts with. -/
def getBmSourceId (repeaterId : ℕ) : ℕ :=
  if 10000000 < repeaterId then repeaterId / 100 else repeaterId

/-- The header and the terminator of one unlink call. -/
def sendDisconnectCall (srcId : ℕ) (flco : FLCO) (headerSeq termSeq : ℕ) : List NetData :=
  let disconnectHeader : NetData :=
    { slotNo := cfg.timeslot
      srcId := srcId
      dstId := cfg.disconnectTalkgroup
      flco := flco
      n := 0
      seqNo := headerSeq
      dataType := .VOICE_LC_HEADER
      data := Payload.ofBytes [] }
  [disconnectHeader, { disconnectHeader with seqNo := termSeq, dataType := .TERMINATOR_WITH_LC }]

/-- Three group calls and a private call to the disconnect talkgroup. -/
def sendBmDisconnect (srcId : ℕ) : List NetData :=
  let localBmBaseId := getBmSourceId cfg.repeaterId
  let effectiveSrcId :=
    if srcId ≠ 0 then srcId else if localBmBaseId ≠ 0 then localBmBaseId else cfg.repeaterId
  ([0, 1, 2].flatMap fun burst =>
    sendDisconnectCall cfg effectiveSrcId .GROUP (burst * 2) (burst * 2 + 1)) ++
      sendDisconnectCall cfg effectiveSrcId .PRIVATE 6 7

/-- What the gateway is told when it falls back to the first static talkgroup. -/
def publishPrimary : List Effect :=
  if cfg.gatewayManagedRouting ∧ cfg.primaryStaticTalkgroup ≠ 0 then
    [.published cfg.primaryStaticTalkgroup]
  else []

/-- A frame to the disconnect talkgroup. -/
def disconnectCommand (link : Link) (s : State emb) (now : Time) (data : NetData) :
    State emb × List Effect :=
  if data.dataType ≠ .VOICE_LC_HEADER then (s, [])
  else if s.lastDisconnectCommand.any (fun last => now - last < kDisconnectCommandCooldown) then
    (s, [])
  else
    ({ s with
        lastDisconnectCommand := some now
        dynamicTalkgroups := Dict.empty
        rfPriorityTalkgroups := ExpiryMap.empty },
      publishPrimary cfg ++
        if ¬ cfg.gatewayManagedRouting ∧ link.connected then
          (sendBmDisconnect cfg data.srcId).map .unlinked ++ [.reconnected]
        else [])

/-- The talkgroup a group frame is routed under. -/
def bmRouteDstId (dstId : ℕ) : ℕ := (cfg.p25ToBmTalkgroups.get? dstId).getD dstId

/-- A dynamic talkgroup that a radio user just used. -/
def DynamicTalkgroupState.seen (now : Time) (entry : Option DynamicTalkgroupState) :
    DynamicTalkgroupState :=
  { entry.getD { lastSeenSteady := now } with
    lastSeenSteady := now, expiredPendingBmRelease := false }

/-- Open or refresh the dynamic talkgroup of a group frame, and give it RF priority. -/
def noteRfActivity (s : State emb) (now : Time) (data : NetData) : State emb :=
  let route := bmRouteDstId cfg data.dstId
  { s with
    dynamicTalkgroups :=
      if route ∈ cfg.staticTalkgroups then s.dynamicTalkgroups
      else s.dynamicTalkgroups.set route
        (DynamicTalkgroupState.seen now (s.dynamicTalkgroups.get? route))
    rfPriorityTalkgroups :=
      if data.dataType = .TERMINATOR_WITH_LC then s.rfPriorityTalkgroups
      else s.rfPriorityTalkgroups.mark data.dstId (now + cfg.rfPriorityHoldoff) }

/-- A gateway is told a new dynamic talkgroup. -/
def activityEffects (s : State emb) (data : NetData) : List Effect :=
  let route := bmRouteDstId cfg data.dstId
  if route ∉ cfg.staticTalkgroups ∧ s.dynamicTalkgroups.get? route = none ∧
      cfg.gatewayManagedRouting then
    [.activeTrigger route, .published route]
  else []

/-- A group frame where BrandMeister carries no voice. -/
def VoiceDisabled (data : NetData) : Prop := ¬ cfg.voiceEnabled ∧ ¬ isPrivate data

instance (data : NetData) : Decidable (VoiceDisabled cfg data) :=
  inferInstanceAs (Decidable (_ ∧ _))

/-- A private call where they are not allowed. -/
def PrivateDropped (data : NetData) : Prop :=
  ¬ cfg.gatewayManagedRouting ∧ ¬ cfg.allowPrivateCalls ∧ isPrivate data ∧
    ¬ isDmrPacketDataFrame data

instance (data : NetData) : Decidable (PrivateDropped cfg data) :=
  inferInstanceAs (Decidable (_ ∧ _))

/-- Frames the uplink never passes; the last are those under the bridge's own identity. -/
def UplinkBlocked (data : NetData) : Prop :=
  VoiceDisabled cfg data ∨ PrivateDropped cfg data ∨
    (10000000 < cfg.repeaterId ∧ data.srcId = cfg.repeaterId)

instance (data : NetData) : Decidable (UplinkBlocked cfg data) :=
  inferInstanceAs (Decidable (_ ∨ _))

/-- A header or terminator of the FNE that was just received. -/
def UplinkDuplicate (s : State emb) (now : Time) (data : NetData) : Prop :=
  isVoiceControl data ∧ s.recentFneFrames.Live now (dmrFrameSignature data)

instance (s : State emb) (now : Time) (data : NetData) : Decidable (UplinkDuplicate s now data) :=
  inferInstanceAs (Decidable (_ ∧ _))

/-- A frame of BrandMeister that the FNE sends back. -/
def Reflected (s : State emb) (now : Time) (data : NetData) : Prop :=
  s.recentInboundBmFrames.Live now (dmrFrameSignature data)

instance (s : State emb) (now : Time) (data : NetData) : Decidable (Reflected s now data) :=
  inferInstanceAs (Decidable (ExpiryMap.Live _ _ _))

/-- Remember a header or terminator of the FNE. -/
def markFneFrame (s : State emb) (now : Time) (data : NetData) : State emb :=
  { s with
    recentFneFrames :=
      if isVoiceControl data then
        s.recentFneFrames.mark (dmrFrameSignature data) (now + kFneDuplicateSuppressWindow)
      else s.recentFneFrames }

/-- A frame of the FNE. -/
def uplink (link : Link) (s : State emb) (now : Time) (data : NetData) :
    State emb × List Effect :=
  if UplinkBlocked cfg data then (s, [])
  else if UplinkDuplicate s now data then (s, [])
  else
    let s := markFneFrame s now data
    if Reflected s now data then (s, [])
    else if isPrivate data then sendToBM env cfg link s data
    else if data.dstId = cfg.disconnectTalkgroup then disconnectCommand cfg link s now data
    else
      let (sent, effects) := sendToBM env cfg link (noteRfActivity cfg s now data) data
      (sent, activityEffects cfg s data ++ effects)

/-- A group frame of the FNE that counts as activity of its talkgroup. -/
def RfAccepted (s : State emb) (now : Time) (data : NetData) : Prop :=
  ¬ UplinkBlocked cfg data ∧ ¬ UplinkDuplicate s now data ∧ ¬ Reflected s now data ∧
    ¬ isPrivate data ∧ data.dstId ≠ cfg.disconnectTalkgroup

instance (s : State emb) (now : Time) (data : NetData) :
    Decidable (RfAccepted cfg s now data) :=
  inferInstanceAs (Decidable (_ ∧ _))

end Routing
