import Mathlib.Data.Finset.Insert
import Mathlib.Data.List.Sort
import QuantarBridge.Lib.Dict
import QuantarBridge.P25.Packets

/-!
# Sessions of the radios

A radio registers with the data host, is told that text messages are available, and acknowledges it.
A text for it is then sent in fragments, one at a time. The host keeps a single data unit for
retries, whoever it was for.

* `MotorolaSession`, `Data`: the state, `DataConfig`: what is set once;
* `writeRfPdu`, `writeMotorolaTmsServiceAvailability`, `writeMotorolaLocationRequest`: data units;
* `writeNextMotorolaTmsInboundFragment`, `writeMotorolaTmsInboundDelivery`: texts;
* `restartMotorolaTmsInboundDelivery`, `resetMotorolaTmsInboundDelivery`.
-/

set_option autoImplicit false

namespace P25

open Lib

/-- The time between two polls of the outbox. -/
def kMotorolaTmsP25OutboxPollMs : ℕ := 250

/-- The files that a poll looks at. -/
def kMotorolaTmsP25MaxFilesPerPoll : ℕ := 4

/-- The pause between two fragments. -/
def kMotorolaTmsP25FragmentGapMs : ℕ := 300

/-- How long the acknowledgement of a fragment is waited for. -/
def kMotorolaTmsP25FragmentAckTimeoutMs : ℕ := 5000

/-- The pause before a text begins again. -/
def kMotorolaTmsP25FragmentRestartDelayMs : ℕ := 1000

/-- How long the acknowledgement of a text is waited for. -/
def kMotorolaTmsApplicationAckTimeoutMs : ℕ := 15000

/-- The pause after a registration before the service is announced. -/
def kMotorolaTmsServiceFallbackDelayMs : ℕ := 2800

/-- The pause between two announcements. -/
def kMotorolaTmsServiceRetryDelayMs : ℕ := 5000

/-- The pause after the last of them. -/
def kMotorolaTmsServiceRetryPauseMs : ℕ := 15000

/-- The announcements before the pause. -/
def kMotorolaTmsServiceMaxAttempts : ℕ := 3

/-- The pause between two requests for a location. -/
def kMotorolaLocationRetryDelayMs : ℕ := 15000

/-- How far the session of a radio has come. -/
inductive MotorolaSessionState
  | idle | registered | serviceAnnounced | readyForTms | contextActive | tmsAvailable
  deriving DecidableEq

/-- What the host knows of a radio. -/
structure MotorolaSession where
  state : MotorolaSessionState := .idle
  serverIdentity : ℕ := 0
  pendingServiceAvailability : Bool := false
  serviceAvailabilityDelayMs : ℕ := 0
  serviceAvailabilityAttempts : ℕ := 0
  sentTmsReadyNotice : Bool := false
  nextOutboundNs : ℕ := 0
  peerArpResponderRid : ℕ := 0
  externalArsTargetRid : ℕ := 0
  nextTmsMessageId : ℕ := 1
  pendingTmsFragments : List Bytes := []
  pendingTmsFragmentIndex : ℕ := 0
  pendingTmsFragmentAck : Bool := false
  pendingTmsFragmentNs : ℕ := 0
  pendingTmsFragmentAckMs : ℕ := 0
  pendingTmsMessageId : ℕ := 0
  pendingTmsFragmentDelayMs : ℕ := 0
  pendingTmsApplicationAckMs : ℕ := 0
  pendingLocationRequest : Bool := false
  locationRequestDelayMs : ℕ := 0
  nextLocationRequestId : ℕ := 1
  deriving DecidableEq

/-- The header of a confirmed message. A message of a virtual peer names the peer as its source. -/
structure DataHeader where
  llId : ℕ
  srcLlId : Option ℕ
  synchronize : Bool
  lastFragment : Bool
  ns : ℕ
  fsn : ℕ
  length : ℕ
  deriving DecidableEq

/-- An assembled data unit, which is never empty. -/
structure Pdu where
  data : Bytes
  bitLength : ℕ
  pos : 0 < bitLength
  deriving DecidableEq

/-- The assembler and what is set once. -/
structure DataConfig where
  assemble : DataHeader → Bytes → Pdu
  maxPduRetryCount : ℕ
  arsServerIp : ℕ
  locationInitialDelayMs : ℕ
  locationIntervalMs : ℕ
  locationNoFixRetryMs : ℕ

/-- The data unit that is kept for retries, and how often it was sent again. -/
structure Retry where
  pdu : Pdu
  count : ℕ
  deriving DecidableEq

/-- A file in the outbox. -/
inductive OutboxFile
  | unreadable
  | event (sourceRid targetRid : ℕ) (textHex : Bytes)
  deriving DecidableEq

/-- The state of the data host, with the directories of the spool. -/
structure Data where
  sessions : Dict ℕ MotorolaSession
  fneRegTable : Dict ℕ ℕ
  packetNs : Dict (ℕ × ℕ) ℕ
  retry : Option Retry
  outboxPollMs : ℕ
  outbox : Dict Bytes OutboxFile
  sent : Finset Bytes
  failed : Finset Bytes

/-- The data host when it starts. -/
def Data.init : Data where
  sessions := Dict.empty
  fneRegTable := Dict.empty
  packetNs := Dict.empty
  retry := none
  outboxPollMs := 0
  outbox := Dict.empty
  sent := ∅
  failed := ∅

/-- What the data host does. -/
inductive DataEffect
  /-- A confirmed data unit is sent. A fragment of a text shows its header and its bytes. -/
  | sent (pdu : Pdu) (fragment : Option (DataHeader × Bytes))
  /-- The data unit that is kept is sent again, since the radio has not answered. -/
  | retransmitted (llId : ℕ) (pdu : Pdu)
  /-- The data unit that is kept is sent again, since a radio has asked for it. -/
  | repeated (llId : ℕ) (pdu : Pdu)
  /-- A response, which is not kept. -/
  | responded (llId ns : ℕ)
  | readyNotice (llId : ℕ)
  | deliveryStarted (llId : ℕ)
  /-- The radio has acknowledged the last fragment. -/
  | fragmentsAcknowledged (llId : ℕ)
  | deliveryAborted (llId : ℕ)
  /-- A file was moved to the sent directory. -/
  | archived (llId : ℕ) (name : Bytes)
  | inboxEvent (sourceRid targetRid : ℕ) (text : Bytes) (localDeliveryCandidate : Bool)
  deriving DecidableEq

namespace Data

variable (cfg : DataConfig) (s : Data)

/-- Change the session of a radio. -/
def modifySession (llId : ℕ) (f : MotorolaSession → MotorolaSession) : Data :=
  { s with sessions := s.sessions.modify llId f }

/-- The address of a registered radio. -/
def registration (llId : ℕ) : Option ℕ := (s.fneRegTable.get? llId).filter fun ip => ip ≠ 0

/-! ## Data units -/

/-- Send a confirmed data unit and keep it. -/
def writeRfPdu (pdu : Pdu) (fragment : Option (DataHeader × Bytes) := none) :
    Data × List DataEffect :=
  ({ s with retry := some ⟨pdu, 0⟩ }, [.sent pdu fragment])

/-- A message in one fragment. -/
def singleHeader (llId : ℕ) (srcLlId : Option ℕ) (ns length : ℕ) : DataHeader where
  llId := llId
  srcLlId := srcLlId
  synchronize := true
  lastFragment := true
  ns := ns
  fsn := 0
  length := length

/-- The sequence number for a radio, and the state with the next one. -/
def takeNs (llId : ℕ) : ℕ × Data :=
  (((s.sessions.get? llId).map fun session => session.nextOutboundNs % 8).getD 1,
    s.modifySession llId fun session =>
      { session with nextOutboundNs := (session.nextOutboundNs % 8 + 1) % 8 })

/-- Announce the service to a radio. -/
def writeMotorolaTmsServiceAvailability (sourceRid : ℕ) : Data × List DataEffect :=
  match s.registration sourceRid with
  | none => (s, [])
  | some ip =>
    let response := buildMotorolaTmsServiceAvailability cfg.arsServerIp ip
    let (ns, s) := s.takeNs sourceRid
    s.writeRfPdu (cfg.assemble (singleHeader sourceRid none ns response.length) response)

/-- Ask a radio for its location. -/
def writeMotorolaLocationRequest (listening : Bool) (sourceRid : ℕ) : Data × List DataEffect :=
  match s.registration sourceRid, s.sessions.get? sourceRid with
  | some ip, some session =>
    if session.state ≠ .tmsAvailable ∨ session.pendingTmsFragments ≠ [] ∨ s.retry.isSome ∨
        listening = false then (s, [])
    else
      let request := buildMotorolaLocationRequest cfg.arsServerIp ip session.nextLocationRequestId
      let (ns, s) := s.takeNs sourceRid
      let s := s.modifySession sourceRid fun session =>
        { session with
          nextLocationRequestId := (session.nextLocationRequestId + 1) % 2 ^ 32
          pendingLocationRequest := true
          locationRequestDelayMs := cfg.locationIntervalMs }
      s.writeRfPdu (cfg.assemble (singleHeader sourceRid none ns request.length) request)
  | _, _ => (s, [])

/-- Whether the sequence numbers between two radios are remembered. -/
def tracksNs (sourceRid targetRid : ℕ) : Bool :=
  sourceRid ≠ 0 ∧ targetRid ≠ 0 ∧ targetRid ≠ 16777215

/-- Remember the number of the last packet between two radios. -/
def rememberMotorolaPacketNs (sourceRid targetRid ns : ℕ) : Data :=
  if tracksNs sourceRid targetRid = true then
    { s with packetNs := s.packetNs.set (sourceRid, targetRid) (ns % 8) }
  else s

/-- The number of the next packet between two radios. -/
def nextMotorolaPacketNs (sourceRid targetRid fallback : ℕ) : ℕ :=
  if tracksNs sourceRid targetRid = true then
    match s.packetNs.get? (sourceRid, targetRid) with
    | none => fallback % 8
    | some ns => (ns + 1) % 8
  else fallback % 8

/-- Acknowledge a text message of a radio. -/
def writeMotorolaTmsMessageAcknowledgement (sourceRid requestOperation messageId : ℕ) :
    Data × List DataEffect :=
  match s.registration sourceRid, s.sessions.get? sourceRid with
  | some ip, some _ =>
    let response :=
      buildMotorolaTmsMessageAcknowledgement cfg.arsServerIp ip requestOperation messageId
    let (ns, s) := s.takeNs sourceRid
    s.writeRfPdu (cfg.assemble (singleHeader sourceRid none ns response.length) response)
  | _, _ => (s, [])

/-- The acknowledgement in the name of another radio. -/
def writeMotorolaTmsDirectMessageAcknowledgement (sourceRid responderRid responderIp : ℕ)
    (extendedAddress : Bool) (requestOperation messageId : ℕ) : Data × List DataEffect :=
  match s.registration sourceRid, s.sessions.get? sourceRid with
  | some ip, some _ =>
    if responderIp = 0 then (s, [])
    else
      let response := buildMotorolaTmsMessageAcknowledgement responderIp ip requestOperation messageId
      let (ns, s) := if extendedAddress = true
        then (s.nextMotorolaPacketNs responderRid sourceRid 0, s) else s.takeNs sourceRid
      let s := s.rememberMotorolaPacketNs responderRid sourceRid ns
      let srcLlId := if extendedAddress = true then some responderRid else none
      s.writeRfPdu (cfg.assemble (singleHeader sourceRid srcLlId ns response.length) response)
  | _, _ => (s, [])

/-! ## Texts -/

/-- The header of a fragment. -/
def fragmentHeader (llId index count ns length : ℕ) : DataHeader where
  llId := llId
  srcLlId := none
  synchronize := index = 0
  lastFragment := index + 1 = count
  ns := ns
  fsn := if index = 0 then 0 else 1 + (index - 1) % 7
  length := length

/-- Send the next fragment, unless the channel or the retry slot is in use. -/
def writeNextMotorolaTmsInboundFragment (listening : Bool) (targetRid : ℕ) :
    Bool × Data × List DataEffect :=
  match s.sessions.get? targetRid with
  | none => (false, s, [])
  | some session =>
    let index := session.pendingTmsFragmentIndex
    match session.pendingTmsFragments[index]? with
    | none => (false, s, [])
    | some fragment =>
      if session.pendingTmsFragmentAck = true ∨ listening = false ∨ s.retry.isSome then (false, s, [])
      else
        let ns := session.nextOutboundNs % 8
        let header :=
          fragmentHeader targetRid index session.pendingTmsFragments.length ns fragment.length
        let s := s.modifySession targetRid fun session =>
          { session with
            nextOutboundNs := (ns + 1) % 8
            pendingTmsFragmentAck := true
            pendingTmsFragmentNs := ns
            pendingTmsFragmentAckMs := kMotorolaTmsP25FragmentAckTimeoutMs }
        (true, s.writeRfPdu (cfg.assemble header fragment) (some (header, fragment)))

/-- Begin again with the first fragment. -/
def restartMotorolaTmsInboundDelivery (delayMs : ℕ) (session : MotorolaSession) : MotorolaSession :=
  if session.pendingTmsFragments = [] then session
  else
    { session with
      pendingTmsFragmentIndex := 0
      pendingTmsFragmentAck := false
      pendingTmsFragmentNs := 0
      pendingTmsFragmentAckMs := 0
      pendingTmsFragmentDelayMs := delayMs
      pendingTmsApplicationAckMs := 0 }

/-- Forget the text. -/
def resetMotorolaTmsInboundDelivery (session : MotorolaSession) : MotorolaSession :=
  { session with
    pendingTmsFragments := []
    pendingTmsFragmentIndex := 0
    pendingTmsFragmentAck := false
    pendingTmsFragmentNs := 0
    pendingTmsFragmentAckMs := 0
    pendingTmsMessageId := 0
    pendingTmsFragmentDelayMs := 0
    pendingTmsApplicationAckMs := 0 }

/-- A text can be sent to a radio now. -/
def deliverable (listening : Bool) (targetRid : ℕ) (text : Bytes) : Bool :=
  (s.registration targetRid).isSome ∧
    (s.sessions.get? targetRid).any (fun session =>
      session.state = .tmsAvailable ∧ session.pendingTmsFragments = []) = true ∧
    s.retry = none ∧ listening = true ∧ text ≠ []

/-- Send the first fragment of a text. -/
def writeMotorolaTmsInboundDelivery (listening : Bool) (targetRid senderRid : ℕ) (text : Bytes) :
    Bool × Data × List DataEffect :=
  match s.registration targetRid, s.sessions.get? targetRid with
  | some ip, some session =>
    if s.deliverable listening targetRid text = false then (false, s, [])
    else
      let messageId := session.nextTmsMessageId % 32
      let response :=
        buildMotorolaTmsInboundMessage cfg.arsServerIp ip messageId (decimal senderRid) text
      let queued := s.modifySession targetRid fun session =>
        { session with
          pendingTmsFragments := fragmentsOf response
          pendingTmsFragmentIndex := 0
          pendingTmsFragmentAck := false
          pendingTmsFragmentNs := 0
          pendingTmsFragmentAckMs := 0
          pendingTmsMessageId := messageId
          pendingTmsFragmentDelayMs := 0
          pendingTmsApplicationAckMs := 0 }
      match queued.writeNextMotorolaTmsInboundFragment cfg listening targetRid with
      | (false, s, _) => (false, s.modifySession targetRid resetMotorolaTmsInboundDelivery, [])
      | (true, s, effects) =>
        (true, s.modifySession targetRid fun session =>
          { session with nextTmsMessageId := (messageId + 1) % 32 },
          .deliveryStarted targetRid :: effects)
  | _, _ => (false, s, [])

end Data

end P25
