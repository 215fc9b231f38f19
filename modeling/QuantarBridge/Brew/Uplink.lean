import QuantarBridge.Brew.Affiliation
import QuantarBridge.Brew.Wire

/-!
# Calls from the P25 side

The P25 side sends a packet of sound every 20 milliseconds. A receiver puts the packets into a queue,
and the uplink loop takes them from it and makes calls of them. The codec wants blocks of 60
milliseconds. A call ends when another one starts, or when no packet has come for a while. Other
threads change the routes meanwhile.

* `VoiceCoder`: the processing of the sound and the codec, which are not part of the bridge;
* `Uplink`, `uplinkStep`: the receiver, the loop, and the events of the other threads;
* `sendUplinkVoice`, `finishUplink`, `openUplink`, `workOn`: the loop.
-/

set_option autoImplicit false

namespace Brew

open Lib

/-- The samples of a codec frame. -/
def TETRA_SAMPLES_30MS : ℕ := 240

/-- The samples of a block. -/
def TETRA_SAMPLES_60MS : ℕ := TETRA_SAMPLES_30MS * 2

/-- The most packets that wait. -/
def uplinkQueueLimit : ℕ := 180

/-- A sample of sixteen bits. -/
def sampleOf (low high : UInt8) : ℤ :=
  let n := low.toNat + 256 * high.toNat
  if n < 32768 then n else (n : ℤ) - 65536

/-- The samples of a packet, least significant byte first. -/
def samplesOf : Bytes → List ℤ
  | low :: high :: rest => sampleOf low high :: samplesOf rest
  | _ => []

/-- The processing of the sound and the encoder, which keep a state during a call. -/
structure VoiceCoder (σ : Type) where
  fresh : σ
  process : σ → List ℤ → List ℤ × σ
  encode : σ → List ℤ → Bytes × σ
  length_encode : ∀ s samples, (encode s samples).1.length = TETRA_CODED_BYTES

/-- The configuration of the uplink. -/
structure UplinkConfig where
  uplinkInitialFrames : ℕ
  uplinkInactivity : Time

/-- A call from the P25 side, and the samples that wait for a whole block. -/
structure UplinkCall (σ : Type) where
  source : ℕ
  p25Destination : ℕ
  brewDestination : ℕ
  callUuid : Bytes
  coder : σ
  pcmSamples : List ℤ
  voiceFrames : ℕ

/-- What the loop does next. -/
inductive LoopState
  | waiting
  | holds (frame : PcmFrame)
  /-- No packet has come for a while. -/
  | quiet
  /-- An exception ended the thread. -/
  | failed

/-- The part of the bridge that the receiver and the loop use. -/
structure Uplink (σ : Type) where
  router : TalkgroupRouter
  uplinkQueue : List PcmFrame
  activeUplink : Option (UplinkCall σ)
  lastP25Rx : Time
  lastDisconnectAt : Time
  ownedUuids : ExpiryMap Bytes
  loop : LoopState

/-- The uplink when the bridge starts. -/
def Uplink.init (σ : Type) (router : TalkgroupRouter) : Uplink σ where
  router := router
  uplinkQueue := []
  activeUplink := none
  lastP25Rx := 0
  lastDisconnectAt := 0
  ownedUuids := ExpiryMap.empty
  loop := .waiting

/-- What the uplink does. -/
inductive UplinkEffect
  /-- A packet joins the queue. -/
  | received (frame : PcmFrame)
  /-- The oldest packet leaves the full queue. -/
  | dropped (frame : PcmFrame)
  /-- The loop takes a packet. -/
  | taken (frame : PcmFrame)
  | heard (source : ℕ)
  | announced (a : Announcement)
  /-- A frame for the server, and whether the websocket took it. -/
  | sent (payload : Bytes) (ok : Bool)
  | raised

/-- An exception left the loop. -/
def UplinkEffect.isRaised : UplinkEffect → Bool
  | .raised => true
  | _ => false

/-- What happens around one turn of the loop. -/
structure UplinkTurn where
  now : Time
  epoch : Time
  routesSaved : Bool
  connected : Bool
  callUuid : Bytes
  lastVoiceSent : Bool
  idleSent : Bool
  txSent : Bool
  voiceSent : Bool

section Loop

variable {σ : Type} (v : VoiceCoder σ) (cfg : UplinkConfig) (o : UplinkTurn)

/-! ## The loop -/

/-- A block, coded. -/
def VoiceCoder.code (s : σ) (samples : List ℤ) : Except String Bytes × σ :=
  let (samples, s) := v.process s samples
  let (codedA, s) := v.encode s (samples.take TETRA_SAMPLES_30MS)
  let (codedB, s) := v.encode s (samples.drop TETRA_SAMPLES_30MS)
  (joinTmdBlock codedA codedB, s)

/-- Code a block of samples and send it. -/
def sendUplinkVoice (ok : Bool) (call : UplinkCall σ) (samples : List ℤ) :
    UplinkCall σ × List UplinkEffect :=
  let (ste, coder) := v.code call.coder samples
  let call := { call with coder := coder }
  match ste.toOption.bind (buildVoiceFrame call.callUuid) with
  | none => (call, [.raised])
  | some frame =>
    ({ call with voiceFrames := if ok then call.voiceFrames + 1 else call.voiceFrames },
      [.sent frame ok])

/-- A call ends. What waits is filled up with silence. -/
def finishUplink (call : UplinkCall σ) (s : Uplink σ) : Uplink σ × List UplinkEffect :=
  let padded := call.pcmSamples ++
    List.replicate (TETRA_SAMPLES_60MS - call.pcmSamples.length) 0
  let voice := if call.pcmSamples = [] then []
    else (sendUplinkVoice v o.lastVoiceSent call (padded.take TETRA_SAMPLES_60MS)).2
  ({ s with ownedUuids := s.ownedUuids.mark call.callUuid (o.now + seconds 10) },
    voice ++ [.sent (buildGroupIdle call.callUuid 0) o.idleSent])

/-- A call starts, unless there is no route for it or no connection. When the routes cannot be saved,
the loop ends with an exception. -/
def openUplink (source p25Destination : ℕ) (s : Uplink σ) :
    Option (UplinkCall σ) × Uplink σ × List UplinkEffect :=
  match s.router.brewForP25 p25Destination with
  | none => (none, s, [])
  | some brewDestination =>
    let (router, announcements) := beginUplink p25Destination o.now o.epoch s.router
    let s := { s with router := router }
    let told := announcements.map .announced
    if o.routesSaved = false then (none, s, [.raised])
    else if o.connected = false then (none, s, told)
    else
      let s := { s with ownedUuids := s.ownedUuids.mark o.callUuid (o.now + seconds 30) }
      match buildGroupTx o.callUuid source brewDestination with
      | none => (none, s, told ++ [.raised])
      | some frame =>
        if o.txSent = false then (none, s, told ++ [.sent frame false])
        else
          (some
            { source := source
              p25Destination := p25Destination
              brewDestination := brewDestination
              callUuid := o.callUuid
              coder := v.fresh
              pcmSamples := []
              voiceFrames := 0 }, s, told ++ [.sent frame true])

/-- The call of a packet. -/
def callFor (frame : PcmFrame) (s : Uplink σ) :
    Option (UplinkCall σ) × Uplink σ × List UplinkEffect :=
  match s.activeUplink with
  | none => openUplink v o frame.source frame.destination s
  | some call =>
    if call.source = frame.source ∧ call.p25Destination = frame.destination then (some call, s, [])
    else
      let (s, ending) := finishUplink v o call s
      let (call, s, opening) := openUplink v o frame.source frame.destination s
      (call, s, ending ++ opening)

/-- The samples of a packet join its call. A whole block is sent. -/
def addSamples (frame : PcmFrame) (call : UplinkCall σ) : UplinkCall σ × List UplinkEffect :=
  let samples := call.pcmSamples ++ samplesOf frame.pcm
  if TETRA_SAMPLES_60MS ≤ samples.length then
    sendUplinkVoice v o.voiceSent { call with pcmSamples := samples.drop TETRA_SAMPLES_60MS }
      (samples.take TETRA_SAMPLES_60MS)
  else ({ call with pcmSamples := samples }, [])

/-- The loop handles a packet. -/
def workOn (frame : PcmFrame) (s : Uplink σ) : Uplink σ × List UplinkEffect :=
  let (call, s, es) := callFor v o frame s
  match call with
  | none => ({ s with activeUplink := none }, es)
  | some call =>
    let (call, voice) := addSamples v o frame call
    ({ s with activeUplink := some call }, es ++ voice)

/-- The rest of a turn, when no exception is raised. -/
def turn (s : Uplink σ) : Uplink σ × List UplinkEffect :=
  match s.loop with
  | .holds frame => workOn v o frame { s with loop := .waiting }
  | .quiet => match s.activeUplink with
    | some call =>
      -- a packet may have come since the loop found the queue empty
      if s.lastP25Rx + cfg.uplinkInactivity ≤ o.now then
        let (s, ending) := finishUplink v o call { s with loop := .waiting }
        ({ s with activeUplink := none }, ending)
      else ({ s with loop := .waiting }, [])
    | none => ({ s with loop := .waiting }, [])
  | _ => (s, [])

/-- The rest of a turn. An exception ends the thread. -/
def work (s : Uplink σ) : Uplink σ × List UplinkEffect :=
  let r := turn v cfg o s
  if r.2.any UplinkEffect.isRaised then
    ({ r.1 with loop := .failed, activeUplink := s.activeUplink }, r.2)
  else r

/-- The loop looks at the queue. -/
def look (now : Time) (s : Uplink σ) : Uplink σ × List UplinkEffect :=
  match s.loop, s.uplinkQueue with
  | .waiting, frame :: rest =>
    if s.activeUplink.isSome ∨ cfg.uplinkInitialFrames ≤ s.uplinkQueue.length then
      ({ s with uplinkQueue := rest, loop := .holds frame }, [.taken frame])
    else (s, [])
  | .waiting, [] =>
    if s.activeUplink.isSome ∧ s.lastP25Rx + cfg.uplinkInactivity ≤ now then
      ({ s with loop := .quiet }, [])
    else (s, [])
  | _, _ => (s, [])

/-! ## The receiver -/

/-- A packet joins the queue. -/
def joinQueue (frame : PcmFrame) (now : Time) (s : Uplink σ) : Uplink σ × List UplinkEffect :=
  match s.uplinkQueue with
  | oldest :: rest =>
    if uplinkQueueLimit ≤ s.uplinkQueue.length then
      ({ s with uplinkQueue := rest ++ [frame], lastP25Rx := now }, [.dropped oldest, .received frame])
    else ({ s with uplinkQueue := s.uplinkQueue ++ [frame], lastP25Rx := now }, [.received frame])
  | [] => ({ s with uplinkQueue := [frame], lastP25Rx := now }, [.received frame])

/-- What happens around one packet. When a file cannot be saved, the receiver ends with an
exception. -/
structure PacketTurn where
  allowed : Bool
  routesSaved : Bool
  issisSaved : Bool
  now : Time

/-- A packet of the P25 side arrives. -/
def receivePacket (t : PacketTurn) (packet : Bytes) (s : Uplink σ) :
    Uplink σ × List UplinkEffect :=
  if t.allowed = false then (s, [])
  else match parseDvmRtp packet with
    | none => (s, [])
    | some frame =>
      if frame.destination = s.router.config.disconnectTalkgroup then
        if frame.marker = true ∧ s.lastDisconnectAt + milliseconds 500 ≤ t.now then
          let (router, announcements) := clearDynamicRoutes s.router
          ({ s with router := router, lastDisconnectAt := t.now },
            (if t.routesSaved then announcements else []).map .announced)
        else (s, [])
      else if s.router.brewForP25 frame.destination = none then (s, [])
      else if t.issisSaved = false then (s, [.heard frame.source])
      else
        let (s, es) := joinQueue frame t.now s
        (s, .heard frame.source :: es)

/-! ## Runs -/

/-- What happens to the uplink. -/
inductive UplinkEvent
  | packet (t : PacketTurn) (packet : Bytes)
  | look (now : Time)
  | work (o : UplinkTurn)
  /-- Another thread changes the routes, and may fail to save them. -/
  | routing (op : RoutingOp) (saved : Bool)

/-- One event of the uplink. -/
def uplinkStep (s : Uplink σ) : UplinkEvent → Uplink σ × List UplinkEffect
  | .packet t packet => receivePacket t packet s
  | .look now => look cfg now s
  | .work o => work v cfg o s
  | .routing op saved => ({ s with router := (op.run s.router).1 },
    (if saved then (op.run s.router).2 else []).map .announced)

end Loop

end Brew
