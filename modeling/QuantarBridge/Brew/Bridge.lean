import Mathlib.Data.Finset.Basic
import QuantarBridge.Brew.Router
import QuantarBridge.Brew.Sds
import QuantarBridge.Brew.TetraBlock

/-!
# The audio bridge and the frames of the server

The BREW server sends binary frames over a websocket: calls to one of the talkgroups with their voice,
and text messages to a radio. The P25 side has a single channel, on which the playout loop plays the
voice of one call at a time. A text is announced by a header, its payload is stored for the P25 side,
and a report acknowledges it.

* `DownlinkCall`, `AudioBridge`: the state, `Readings`, `Surroundings`: the clocks and the outcomes;
* `startOrUpdateDownlink`, `endDownlink`, `queueDownlinkVoice`, `handleInboundSds`: the handlers;
* `onBrewBinary`: a frame of the server;
* `playout`: one turn of the playout loop.
-/

set_option autoImplicit false

namespace Brew

open Lib

/-- How long a text counts as a repetition of an earlier one. -/
def BREW_SDS_DUPLICATE_WINDOW : Time := seconds 60

/-- How long after a recovery the next one waits. -/
def BREW_UPLINK_SESSION_RECOVERY_COOLDOWN : Time := seconds 60

/-- A call of the server. -/
structure DownlinkCall where
  source : ℕ
  brewDestination : ℕ
  p25Destination : ℕ
  frames : List Bytes
  createdAt : Time
  lastFrameAt : Time
  ended : Bool
  started : Bool
  deriving DecidableEq

/-- The header of a text whose payload is still to come. -/
structure PendingSds where
  source : ℕ
  destination : ℕ
  receivedAt : Time
  deriving DecidableEq

/-- A text with its two addresses. -/
structure SdsKey where
  source : ℕ
  destination : ℕ
  text : Text
  deriving DecidableEq

/-- The configuration of the bridge, and the decoders of text. -/
structure AudioConfig where
  jitterFrames : ℕ
  rebufferFrames : ℕ
  smsCommandDir : Bool
  decode : Decoder

/-- The state of the bridge. -/
structure AudioBridge where
  router : TalkgroupRouter
  localIssis : Finset ℕ
  ownedUuids : ExpiryMap Bytes
  activeUplink : Bool
  downlinkCalls : Dict Bytes DownlinkCall
  ignoredDownlinkUuids : Finset Bytes
  activeDownlinkUuid : Option Bytes
  pendingSds : Dict Bytes PendingSds
  recentInboundSds : ExpiryMap SdsKey
  lastUplinkSessionRecovery : Time

/-- The bridge when it starts. -/
def AudioBridge.init (router : TalkgroupRouter) (localIssis : Finset ℕ) : AudioBridge where
  router := router
  localIssis := localIssis
  ownedUuids := ExpiryMap.empty
  activeUplink := false
  downlinkCalls := Dict.empty
  ignoredDownlinkUuids := ∅
  activeDownlinkUuid := none
  pendingSds := Dict.empty
  recentInboundSds := ExpiryMap.empty
  lastUplinkSessionRecovery := 0

/-- The readings of the clocks while a frame is handled, in the order in which they are taken. -/
structure Readings where
  received : Time
  handled : Time
  created : Time
  touched : Time
  millis : ℕ

/-- A call that starts. -/
def DownlinkCall.new (c : Readings) (source brewDestination p25Destination : ℕ) : DownlinkCall where
  source := source
  brewDestination := brewDestination
  p25Destination := p25Destination
  frames := []
  createdAt := c.created
  lastFrameAt := c.touched
  ended := false
  started := false

/-- What becomes of the writes while a frame is handled. -/
structure Outcomes where
  directoryMade : Bool
  written : Bool
  protected_ : Bool
  replaced : Bool
  reportSent : Bool

/-- Why a call is ignored. -/
inductive Ignored
  | unsubscribed | echo | busy
  deriving DecidableEq

/-- What the bridge does. -/
inductive BridgeEffect
  /-- A call has a new entry, with a decoder of its own. -/
  | callStarted (callUuid : Bytes)
  /-- A call that has an entry goes on. -/
  | callUpdated (callUuid : Bytes)
  | callIgnored (callUuid : Bytes) (reason : Ignored)
  /-- A file appears in the outbox of the P25 side. -/
  | published (callUuid path content : Bytes)
  /-- A report is sent, or lost on a socket that is not connected. -/
  | reported (callUuid : Bytes) (sent : Bool)
  /-- Handling a frame raised an exception. -/
  | raised
  /-- The websocket is closed to start a new session. -/
  | sessionClosed
  /-- A block of voice is played. -/
  | played (callUuid ste : Bytes)
  /-- The entry of a call is removed, and its decoder is closed. -/
  | decoderClosed (callUuid : Bytes)
  deriving DecidableEq

namespace AudioBridge

variable (cfg : AudioConfig) (c : Readings) (o : Outcomes) (s : AudioBridge)

/-! ## Calls -/

/-- Forget the identifiers of old uplink calls. -/
def expireOwnedUuids (now : Time) (s : AudioBridge) : AudioBridge :=
  { s with
    ownedUuids := s.ownedUuids.purge now
    ignoredDownlinkUuids := s.ignoredDownlinkUuids.filter fun callUuid =>
      (s.ownedUuids.get? callUuid).all fun expiry => now < expiry }

/-- Ignore a call. -/
def ignore (callUuid : Bytes) (reason : Ignored) (s : AudioBridge) :
    AudioBridge × List BridgeEffect :=
  ({ s with ignoredDownlinkUuids := insert callUuid s.ignoredDownlinkUuids },
    [.callIgnored callUuid reason])

/-- Another call has not ended. -/
def competing (callUuid : Bytes) (s : AudioBridge) : Bool :=
  s.downlinkCalls.any fun other call => other ≠ callUuid ∧ call.ended = false

/-- A call starts, or is taken up again. -/
def startOrUpdateDownlink (callUuid : Bytes) (source destination : ℕ) (s : AudioBridge) :
    AudioBridge × List BridgeEffect :=
  match s.router.p25ForBrew destination with
  | none => s.ignore callUuid .unsubscribed
  | some p25Destination =>
    if (s.ownedUuids.get? callUuid).isSome ∨ (source ∈ s.localIssis ∧ s.activeUplink = true) then
      s.ignore callUuid .echo
    else match s.downlinkCalls.get? callUuid with
      | none =>
        if s.competing callUuid then s.ignore callUuid .busy
        else
          ({ s with
            downlinkCalls := s.downlinkCalls.set callUuid
              (DownlinkCall.new c source destination p25Destination) }, [.callStarted callUuid])
      | some _ =>
        -- an entry is taken up again without looking at the other calls
        ({ s with
          downlinkCalls := s.downlinkCalls.modify callUuid fun call =>
            { call with source := source, ended := false } }, [.callUpdated callUuid])

/-- A call ends. -/
def endDownlink (callUuid : Bytes) (s : AudioBridge) : AudioBridge :=
  if callUuid ∈ s.ignoredDownlinkUuids then
    { s with ignoredDownlinkUuids := s.ignoredDownlinkUuids.erase callUuid }
  else
    { s with
      downlinkCalls := s.downlinkCalls.modify callUuid fun call => { call with ended := true } }

/-- A block of voice is queued. -/
def queueDownlinkVoice (callUuid payload : Bytes) (s : AudioBridge) : AudioBridge :=
  if (s.ownedUuids.get? callUuid).isSome ∨ callUuid ∈ s.ignoredDownlinkUuids then s
  else if payload.length < TETRA_STE_BYTES then s
  else
    { s with
      downlinkCalls := s.downlinkCalls.modify callUuid fun call =>
        let waiting := if 24 ≤ call.frames.length then call.frames.tail else call.frames
        { call with
          frames := waiting ++ [payload.take TETRA_STE_BYTES]
          lastFrameAt := c.created } }

/-! ## Text messages -/

/-- Send a report. -/
def sendBrewSdsReport (callUuid : Bytes) : BridgeEffect := .reported callUuid o.reportSent

/-- Store a text for the P25 side. The file appears with the last of four writes. -/
def publishSds (callUuid : Bytes) (key : SdsKey) (s : AudioBridge) :
    AudioBridge × List BridgeEffect :=
  if o.directoryMade = false ∨ o.written = false ∨ o.protected_ = false ∨ o.replaced = false then
    (s, [.raised])
  else
    ({ s with
      recentInboundSds := s.recentInboundSds.mark key (c.handled + BREW_SDS_DUPLICATE_WINDOW) },
      [.published callUuid (sdsPath c.millis callUuid)
        (sdsDocument key.source key.destination key.text), sendBrewSdsReport o callUuid])

/-- A number of two bytes, least significant byte first. -/
def readLe16 (frame : Bytes) (offset : ℕ) : ℕ :=
  (frame.getD offset 0).toNat + 256 * (frame.getD (offset + 1) 0).toNat

/-- A number of four bytes, least significant byte first. -/
def readLe32 (frame : Bytes) (offset : ℕ) : ℕ :=
  readLe16 frame offset + 65536 * readLe16 frame (offset + 2)

/-- The text of a payload frame. -/
def sdsText (frame : Bytes) : Option Text :=
  let lengthBits := readLe16 frame 18
  parseTextSdsType4Pdu cfg.decode ((frame.drop 20).take ((lengthBits + 7) / 8)) lengthBits

/-- The payload of a text message. -/
def handleInboundSds (callUuid frame : Bytes) (s : AudioBridge) :
    AudioBridge × List BridgeEffect :=
  if frame.length < 20 then (s, [])
  else match s.pendingSds.get? callUuid with
    | none => (s, [])
    | some pending =>
      let s := { s with pendingSds := s.pendingSds.erase callUuid }
      if pending.destination ∉ s.localIssis then (s, [])
      else match sdsText cfg frame with
        | none => (s, [])
        | some text =>
          if cfg.smsCommandDir = false then (s, [])
          else
            let s := { s with recentInboundSds := s.recentInboundSds.purge c.handled }
            let key : SdsKey := ⟨pending.source, pending.destination, text⟩
            if (s.recentInboundSds.get? key).isSome then (s, [sendBrewSdsReport o callUuid])
            else s.publishSds c o callUuid key

/-! ## Frames -/

/-- The server refuses an uplink call. A session is closed at most once a minute. -/
def recoverRejectedUplinkSession (s : AudioBridge) : AudioBridge × List BridgeEffect :=
  if c.received < s.lastUplinkSessionRecovery + BREW_UPLINK_SESSION_RECOVERY_COOLDOWN then (s, [])
  else ({ s with lastUplinkSessionRecovery := c.received }, [.sessionClosed])

/-- The header of a text message. -/
def receiveSdsHeader (callUuid frame : Bytes) (s : AudioBridge) : AudioBridge :=
  if frame.length < 26 then s
  else
    { s with
      pendingSds := s.pendingSds.set callUuid
        ⟨readLe32 frame 18, readLe32 frame 22, c.received⟩ }

/-- A frame that belongs to a call. -/
def onCallFrame (callUuid frame : Bytes) (s : AudioBridge) : AudioBridge × List BridgeEffect :=
  let s := s.expireOwnedUuids c.handled
  if frame.getD 0 0 = 0xF1 then
    if frame.getD 1 0 = 2 ∧ 30 ≤ frame.length then
      s.startOrUpdateDownlink c callUuid (readLe32 frame 18) (readLe32 frame 22)
    else if frame.getD 1 0 = 3 then (s.endDownlink callUuid, [])
    else (s, [])
  else if frame.getD 0 0 = 0xF2 ∧ frame.getD 1 0 = 0 ∧ 20 ≤ frame.length then
    (s.queueDownlinkVoice c callUuid (frame.drop 20), [])
  else (s, [])

/-- A frame of the server. -/
def onBrewBinary (frame : Bytes) (s : AudioBridge) : AudioBridge × List BridgeEffect :=
  let callUuid := (frame.drop 2).take 16
  if frame.length < 2 then (s, [])
  else if frame.getD 0 0 = 0xF0 then (s, [])
  else if frame.getD 0 0 = 0xF3 then
    if frame.getD 1 0 = 1 ∧ 20 ≤ frame.length ∧ frame.getD 2 0 = 0xF1 ∧ frame.getD 3 0 = 3 ∧
        (s.ownedUuids.get? ((frame.drop 4).take 16)).isSome then
      s.recoverRejectedUplinkSession c
    else (s, [])
  else if frame.getD 0 0 = 0xF2 ∧ frame.getD 1 0 = 2 then (s, [])
  else if frame.length < 18 then (s, [])
  else
    let s := { s with
      pendingSds := s.pendingSds.filter fun _ pending => c.received < pending.receivedAt + seconds 30 }
    if frame.getD 0 0 = 0xF1 ∧ frame.getD 1 0 = 11 then (s.receiveSdsHeader c callUuid frame, [])
    else if frame.getD 0 0 = 0xF2 ∧ frame.getD 1 0 = 1 then s.handleInboundSds cfg c o callUuid frame
    else s.onCallFrame c callUuid frame

/-! ## Playout -/

/-- A call has enough voice to be played. -/
def playable (call : DownlinkCall) : Bool :=
  (if call.started then cfg.rebufferFrames else cfg.jitterFrames) ≤ call.frames.length ∨
    (call.ended = true ∧ call.frames ≠ [])

/-- The oldest call with enough voice is chosen when none is played. -/
def chooseDownlink (s : AudioBridge) : AudioBridge :=
  if s.activeDownlinkUuid.isSome then s
  else
    let candidates := s.downlinkCalls.entries.mergeSort fun a b => a.2.createdAt ≤ b.2.createdAt
    match candidates.find? fun e => playable cfg e.2 with
    | none => s
    | some e =>
      { s with
        activeDownlinkUuid := some e.1
        downlinkCalls := s.downlinkCalls.modify e.1 fun call => { call with started := true } }

/-- One turn of the playout loop. -/
def playout (now : Time) (s : AudioBridge) : AudioBridge × List BridgeEffect :=
  let s := s.chooseDownlink cfg
  match s.activeDownlinkUuid with
  | none => (s, [])
  | some callUuid =>
    match s.downlinkCalls.get? callUuid with
    | none => ({ s with activeDownlinkUuid := none }, [])
    | some call =>
      match call.frames with
      | ste :: rest =>
        ({ s with
          downlinkCalls := s.downlinkCalls.modify callUuid fun call => { call with frames := rest } },
          [.played callUuid ste])
      | [] =>
        if call.ended then
          ({ s with
            downlinkCalls := s.downlinkCalls.erase callUuid
            activeDownlinkUuid := none }, [.decoderClosed callUuid])
        else if call.lastFrameAt + milliseconds 140 < now then
          ({ s with
            activeDownlinkUuid := none
            downlinkCalls := s.downlinkCalls.modify callUuid fun call =>
              { call with started := false } }, [])
        else (s, [])

end AudioBridge

end Brew
