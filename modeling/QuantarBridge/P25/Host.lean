import QuantarBridge.Lib.Run
import QuantarBridge.P25.Session

/-!
# The data host

The data host receives responses, registrations and messages of the radios, its clock drives the
sessions, and every quarter of a second it looks for texts in the outbox.

* `receiveAck`, `receiveNack`, `receiveAckRetry`: responses;
* `handleMotorolaScepArsRegistration` and the other handlers: packets of a radio;
* `clockSession`: what the clock does for one radio, `processMotorolaTmsOutbox`: the outbox;
* `dataStep`: the step of the host.
-/

set_option autoImplicit false

namespace P25

open Lib

/-- What the file system does during a poll. -/
structure Spool where
  ready : Bool
  moves : Bytes → Bool

/-- The reason of a negative response. -/
inductive NackType
  | packetCrc | sequence | other
  deriving DecidableEq

/-- A text from a radio. -/
structure MotorolaTmsMessage where
  targetRid : ℕ
  sourceIp : ℕ
  targetIp : ℕ
  operation : ℕ
  messageId : ℕ
  text : Bytes

/-- A packet of a radio. -/
inductive RadioPacket
  | registration (subscriberIp requestIpId : ℕ)
  | refresh (subscriberIp requestIpId : ℕ) (registers : Bool)
  | locationReport (sourceIp : ℕ) (hasPosition : Bool)
  | serviceAcknowledgement (sourceIp : ℕ)
  | messageAcknowledgement (sourceIp messageId : ℕ)
  | message (extendedAddress : Bool) (message : MotorolaTmsMessage)

namespace Data

variable (cfg : DataConfig) (s : Data)

/-! ## Responses -/

/-- The session of a response, by its own identifier or by that of its virtual peer. -/
def findMotorolaResponseSession (order : List ℕ) (llId : ℕ) : Option ℕ :=
  if (s.sessions.get? llId).isSome then some llId
  else order.find? fun rid => (s.sessions.get? rid).any fun session =>
    session.peerArpResponderRid = llId ∨
      (session.externalArsTargetRid ≠ 0 ∧ session.externalArsTargetRid = llId)

/-- What an acknowledgement says about the state of a session. -/
def progressOnAck (llId rid status : ℕ) (session : MotorolaSession) : MotorolaSession :=
  let session := if rid ≠ llId
    then { session with state := .tmsAvailable, sentTmsReadyNotice := true } else session
  let session := if (session.state = .readyForTms ∨ session.state = .contextActive) ∧ 3 ≤ status
    then { session with state := .contextActive } else session
  if session.state = .contextActive ∧ 5 ≤ status
    then { session with state := .tmsAvailable } else session

/-- The acknowledgement that a session waits for. -/
def awaits (status : ℕ) (session : MotorolaSession) : Bool :=
  session.pendingTmsFragmentAck = true ∧ session.pendingTmsFragmentNs = status

/-- Go on to the next fragment. -/
def advanceFragment (session : MotorolaSession) : MotorolaSession :=
  let next := session.pendingTmsFragmentIndex + 1
  let session := { session with
    pendingTmsFragmentAck := false
    pendingTmsFragmentAckMs := 0
    pendingTmsFragmentIndex := next }
  if next < session.pendingTmsFragments.length
    then { session with pendingTmsFragmentDelayMs := kMotorolaTmsP25FragmentGapMs }
    else { session with pendingTmsApplicationAckMs := kMotorolaTmsApplicationAckTimeoutMs }

/-- An acknowledgement for a session. -/
def acknowledgeSession (llId rid status : ℕ) : Data × List DataEffect :=
  match s.sessions.get? rid with
  | none => (s, [])
  | some session =>
    let s := if session.peerArpResponderRid = llId ∨ session.serverIdentity = llId
      then s.rememberMotorolaPacketNs llId rid status else s
    let progressed := progressOnAck llId rid status session
    let notice := progressed.state = .tmsAvailable ∧ progressed.sentTmsReadyNotice = false
    let advances := awaits status session
    let complete := session.pendingTmsFragments.length ≤ session.pendingTmsFragmentIndex + 1
    (s.modifySession rid fun session =>
      let session := progressOnAck llId rid status session
      let session := if notice then { session with sentTmsReadyNotice := true } else session
      if advances = true then advanceFragment session else session,
      (if notice then [.readyNotice rid] else []) ++
        if advances = true ∧ complete then [.fragmentsAcknowledged rid] else [])

/-- A radio that has acknowledged its registration is told that texts are available. -/
def announceAfterAck (rid : ℕ) : Data × List DataEffect :=
  match s.sessions.get? rid with
  | none => (s, [])
  | some session =>
    if session.pendingServiceAvailability = true ∧ session.state = .registered then
      (s.modifySession rid fun session =>
        { session with
          state := .serviceAnnounced
          serviceAvailabilityAttempts := 1
          serviceAvailabilityDelayMs :=
            kMotorolaTmsServiceRetryDelayMs }).writeMotorolaTmsServiceAvailability cfg rid
    else (s, [])

/-- A positive response of any radio empties the retry slot. -/
def receiveAck (order : List ℕ) (llId status : ℕ) : Data × List DataEffect :=
  let (s, effects) := ((s.findMotorolaResponseSession order llId).map fun rid =>
    s.acknowledgeSession llId rid status).getD (s, [])
  let s := { s with retry := none }
  let (s, more) := ((s.findMotorolaResponseSession order llId).map fun rid =>
    s.announceAfterAck cfg rid).getD (s, [])
  (s, effects ++ more)

/-- A radio refuses a data unit. -/
def receiveNack (order : List ℕ) (type : NackType) (llId status : ℕ) : Data :=
  match s.findMotorolaResponseSession order llId with
  | none => s
  | some rid =>
    match type with
    | .packetCrc => s.modifySession rid fun session =>
      if session.state = .contextActive ∧ 7 ≤ status
        then { session with state := .tmsAvailable } else session
    | .sequence =>
      if (s.sessions.get? rid).any fun session => session.pendingTmsFragments ≠ [] then
        { s.modifySession rid
            (restartMotorolaTmsInboundDelivery kMotorolaTmsP25FragmentRestartDelayMs) with
          retry := none }
      else s
    | .other => s

/-- The session whose text is given up when a radio has asked for it too often. -/
def failedSession (order : List ℕ) (llId : ℕ) : Option ℕ :=
  (s.findMotorolaResponseSession order llId).filter fun rid =>
    (s.sessions.get? rid).any MotorolaSession.pendingTmsFragmentAck

/-- A radio asks for the data unit that is kept, whoever it was for: it is sent again, or the slot is
emptied. -/
def receiveAckRetry (order : List ℕ) (llId ns : ℕ) : Data × List DataEffect :=
  match s.retry with
  | none => (s, [])
  | some ⟨pdu, count⟩ =>
    if count < cfg.maxPduRetryCount then
      ({ s with retry := some ⟨pdu, count + 1⟩ }, [.repeated llId pdu])
    else
      match s.failedSession order llId with
      | none => ({ s with retry := none }, [.responded llId ns])
      | some rid =>
        ({ s.modifySession rid resetMotorolaTmsInboundDelivery with retry := none },
          [.deliveryAborted rid, .responded llId ns])

/-! ## Packets of a radio -/

/-- The response to a packet that needs one. -/
def respond (llId : ℕ) (ackNs : Option ℕ) : List DataEffect :=
  (ackNs.map fun ns => DataEffect.responded llId ns).toList

/-- A radio that begins. -/
def beginSession (sourceRid nextNs : ℕ) (session : MotorolaSession) : MotorolaSession :=
  { session with
    state := .registered
    serverIdentity := sourceRid
    pendingServiceAvailability := true
    serviceAvailabilityDelayMs := kMotorolaTmsServiceFallbackDelayMs
    serviceAvailabilityAttempts := 0
    sentTmsReadyNotice := false
    nextOutboundNs := nextNs
    pendingLocationRequest := false
    locationRequestDelayMs := 0
    nextLocationRequestId := 1 }

/-- Change the session of a radio, which is new if need be. -/
def upsertSession (llId : ℕ) (f : MotorolaSession → MotorolaSession) : Data :=
  { s with sessions := s.sessions.set llId (f ((s.sessions.get? llId).getD {})) }

/-- A radio registers. -/
def handleMotorolaScepArsRegistration (sourceRid subscriberIp requestIpId ns : ℕ) :
    Data × List DataEffect :=
  let s := { s with fneRegTable := s.fneRegTable.set sourceRid subscriberIp }
  let s := s.upsertSession sourceRid (beginSession sourceRid 1)
  let response := buildMotorolaArsSuccess cfg.arsServerIp subscriberIp requestIpId
  let (s, effects) := s.writeRfPdu
    (cfg.assemble (singleHeader sourceRid none 0 response.length) response)
  (s, .responded sourceRid ns :: effects)

/-- A radio that is known keeps its state, unless it registers anew. -/
def handleMotorolaArsRefresh (sourceRid subscriberIp requestIpId : ℕ) (registers : Bool)
    (ackNs : Option ℕ) : Data × List DataEffect :=
  let s := { s with fneRegTable := s.fneRegTable.set sourceRid subscriberIp }
  let s := s.upsertSession sourceRid fun session =>
    if registers = true ∨ session.state = .idle then beginSession sourceRid 0 session
    else { session with serverIdentity := sourceRid }
  let response := buildMotorolaArsSuccess cfg.arsServerIp subscriberIp requestIpId
  let (ns, s) := s.takeNs sourceRid
  let (s, effects) := s.writeRfPdu
    (cfg.assemble (singleHeader sourceRid none ns response.length) response)
  (s, respond sourceRid ackNs ++ effects)

/-- A packet comes from the address of a radio that has a session. -/
def known (sourceRid sourceIp : ℕ) : Bool :=
  s.fneRegTable.get? sourceRid = some sourceIp ∧ (s.sessions.get? sourceRid).isSome

/-- The radio accepts texts. The retry slot is emptied, whoever it was for. -/
def handleMotorolaTmsServiceAcknowledgement (sourceRid sourceIp : ℕ) (ackNs : Option ℕ) :
    Data × List DataEffect :=
  if s.known sourceRid sourceIp = false then (s, [])
  else
    ({ s.modifySession sourceRid fun session =>
        { session with
          state := .tmsAvailable
          pendingServiceAvailability := false
          serviceAvailabilityDelayMs := 0
          serviceAvailabilityAttempts := 0
          sentTmsReadyNotice := true
          pendingLocationRequest := true
          locationRequestDelayMs := cfg.locationInitialDelayMs } with
      retry := none }, respond sourceRid ackNs)

/-- Texts can be exchanged with the radio. -/
def available (sourceRid : ℕ) : Bool :=
  (s.sessions.get? sourceRid).any fun session => session.state = .tmsAvailable

/-- The radio has read a text. -/
def handleMotorolaTmsMessageAcknowledgement (sourceRid sourceIp messageId : ℕ)
    (ackNs : Option ℕ) : Data × List DataEffect :=
  if s.known sourceRid sourceIp = false ∨ s.available sourceRid = false then (s, [])
  else
    (s.modifySession sourceRid fun session =>
      if session.pendingTmsFragments ≠ [] ∧ session.pendingTmsMessageId = messageId
        then resetMotorolaTmsInboundDelivery session else session, respond sourceRid ackNs)

/-- The radio a text is for, when the message does not name it. -/
def directTarget (extendedAddress : Bool) (targetRid : ℕ) (message : MotorolaTmsMessage) : ℕ :=
  if extendedAddress = true then targetRid
  else if message.targetRid = 0 ∧ message.targetIp &&& 0xF0000001 = 0xD0000001
    then (message.targetIp &&& 0x0FFFFFF0) >>> 4 else message.targetRid

/-- A text from a radio. A text that is being sent to the same radio starts anew. -/
def handleMotorolaTmsMessage (sourceRid targetRid : ℕ) (extendedAddress : Bool)
    (message : MotorolaTmsMessage) (ackNs : Option ℕ) : Data × List DataEffect :=
  if (extendedAddress = false ∧ sourceRid ≠ targetRid) ∨
      (extendedAddress = true ∧ (sourceRid = 0 ∨ targetRid = 0)) ∨
      s.known sourceRid message.sourceIp = false ∨ s.available sourceRid = false then (s, [])
  else
    let directRouting := extendedAddress = true ∨ message.targetIp ≠ cfg.arsServerIp
    let target := if directRouting then directTarget extendedAddress targetRid message
      else message.targetRid
    let localDelivery := target ≠ sourceRid ∧ (s.registration target).isSome ∧
      (s.sessions.get? target).any fun session => session.state ≠ .idle
    let effects := respond sourceRid ackNs ++
      if target = 0 then [] else [.inboxEvent sourceRid target message.text localDelivery]
    let s := s.modifySession sourceRid
      (restartMotorolaTmsInboundDelivery kMotorolaTmsP25FragmentRestartDelayMs)
    let (s, more) := if directRouting then
        s.writeMotorolaTmsDirectMessageAcknowledgement cfg sourceRid target message.targetIp
          extendedAddress message.operation message.messageId
      else s.writeMotorolaTmsMessageAcknowledgement cfg sourceRid message.operation
        message.messageId
    (s, effects ++ more)

/-- A radio reports its location. -/
def handleMotorolaLocationReport (sourceRid sourceIp : ℕ) (hasPosition : Bool)
    (ackNs : Option ℕ) : Data × List DataEffect :=
  if s.known sourceRid sourceIp = false then (s, [])
  else
    (s.modifySession sourceRid fun session =>
      { session with
        pendingLocationRequest := true
        locationRequestDelayMs := if hasPosition = true then cfg.locationIntervalMs
          else cfg.locationNoFixRetryMs }, respond sourceRid ackNs)

/-- A packet of a radio. All but a text are addressed to the radio itself. -/
def receivePacket (sourceRid targetRid ns : ℕ) (ackNeeded : Bool) (packet : RadioPacket) :
    Data × List DataEffect :=
  let s := s.rememberMotorolaPacketNs sourceRid targetRid ns
  let ackNs := if ackNeeded = true then some ns else none
  match packet with
  | .message extendedAddress message =>
    s.handleMotorolaTmsMessage cfg sourceRid targetRid extendedAddress message ackNs
  | packet =>
    if sourceRid ≠ targetRid then (s, [])
    else match packet with
      | .registration subscriberIp requestIpId =>
        s.handleMotorolaScepArsRegistration cfg sourceRid subscriberIp requestIpId ns
      | .refresh subscriberIp requestIpId registers =>
        s.handleMotorolaArsRefresh cfg sourceRid subscriberIp requestIpId registers ackNs
      | .locationReport sourceIp hasPosition =>
        s.handleMotorolaLocationReport cfg sourceRid sourceIp hasPosition ackNs
      | .serviceAcknowledgement sourceIp =>
        s.handleMotorolaTmsServiceAcknowledgement cfg sourceRid sourceIp ackNs
      | .messageAcknowledgement sourceIp messageId =>
        s.handleMotorolaTmsMessageAcknowledgement sourceRid sourceIp messageId ackNs
      | .message _ _ => (s, [])

/-- A radio connects. What its response leaves in the retry slot is not decided here. -/
def connect (llId ipAddr : ℕ) (valid : Bool) (response : Option Pdu) : Data :=
  let s := if valid = true ∧ s.registration llId = none
    then { s with fneRegTable := s.fneRegTable.set llId ipAddr } else s
  { s with retry := (response.map fun pdu => ⟨pdu, 0⟩).or s.retry }

/-- A radio disconnects. -/
def disconnect (llId ns : ℕ) : Data × List DataEffect :=
  ({ s with
    sessions := s.sessions.erase llId
    fneRegTable := s.fneRegTable.erase llId }, [.responded llId ns])

/-! ## The clock -/

/-- The service announcement of a radio falls due. -/
def announces (ms : ℕ) (listening : Bool) (session : MotorolaSession) : Bool :=
  session.pendingServiceAvailability = true ∧ session.state ≠ .tmsAvailable ∧
    session.serviceAvailabilityDelayMs ≤ ms ∧ listening = true ∧
    session.serviceAvailabilityAttempts < kMotorolaTmsServiceMaxAttempts

/-- The turn of the service messages of a session. -/
def clockService (ms : ℕ) (listening : Bool) (llId : ℕ) : Data × List DataEffect :=
  match s.sessions.get? llId with
  | none => (s, [])
  | some session =>
    if session.pendingServiceAvailability = false ∨ session.state = .tmsAvailable then (s, [])
    else if ms < session.serviceAvailabilityDelayMs then
      (s.modifySession llId fun session =>
        { session with
          serviceAvailabilityDelayMs := session.serviceAvailabilityDelayMs - ms }, [])
    else if listening = false then (s, [])
    else if kMotorolaTmsServiceMaxAttempts ≤ session.serviceAvailabilityAttempts then
      (s.modifySession llId fun session =>
        { session with
          serviceAvailabilityAttempts := 0
          serviceAvailabilityDelayMs := kMotorolaTmsServiceRetryPauseMs }, [])
    else
      (s.modifySession llId fun session =>
        { session with
          state := .serviceAnnounced
          serviceAvailabilityAttempts := session.serviceAvailabilityAttempts + 1
          serviceAvailabilityDelayMs :=
            kMotorolaTmsServiceRetryDelayMs }).writeMotorolaTmsServiceAvailability cfg llId

/-- The turn of the location request of a session. -/
def clockLocation (ms : ℕ) (listening : Bool) (llId : ℕ) : Data × List DataEffect :=
  match s.sessions.get? llId with
  | none => (s, [])
  | some session =>
    if session.pendingLocationRequest = false ∨ session.state ≠ .tmsAvailable ∨
        session.pendingTmsFragments ≠ [] then (s, [])
    else if ms < session.locationRequestDelayMs then
      (s.modifySession llId fun session =>
        { session with locationRequestDelayMs := session.locationRequestDelayMs - ms }, [])
    else if listening = false ∨ s.retry.isSome then (s, [])
    else
      (s.modifySession llId fun session =>
        { session with
          locationRequestDelayMs :=
            kMotorolaLocationRetryDelayMs }).writeMotorolaLocationRequest cfg listening llId

/-- The acknowledgement of a fragment is late: the slot is sent again, or the text is given up. -/
def clockExpired (listening : Bool) (llId : ℕ) : Data × List DataEffect :=
  match s.retry with
  | none => (s.modifySession llId fun session =>
      { session with pendingTmsFragmentAckMs := kMotorolaTmsP25OutboxPollMs }, [])
  | some ⟨pdu, count⟩ =>
    if listening = false then
      (s.modifySession llId fun session =>
        { session with pendingTmsFragmentAckMs := kMotorolaTmsP25OutboxPollMs }, [])
    else if count < cfg.maxPduRetryCount then
      ({ s.modifySession llId fun session =>
          { session with pendingTmsFragmentAckMs := kMotorolaTmsP25FragmentAckTimeoutMs } with
        retry := some ⟨pdu, count + 1⟩ }, [.retransmitted llId pdu])
    else
      ({ s.modifySession llId resetMotorolaTmsInboundDelivery with retry := none },
        [.deliveryAborted llId])

/-- A fragment that waits to be sent. -/
def clockNextFragment (ms : ℕ) (listening : Bool) (llId : ℕ) (session : MotorolaSession) :
    Data × List DataEffect :=
  if ms < session.pendingTmsFragmentDelayMs then
    (s.modifySession llId fun session =>
      { session with
        pendingTmsFragmentDelayMs := session.pendingTmsFragmentDelayMs - ms }, [])
  else if listening = false ∨ s.retry.isSome then (s, [])
  else
    match (s.modifySession llId fun session =>
        { session with
          pendingTmsFragmentDelayMs := 0 }).writeNextMotorolaTmsInboundFragment cfg listening llId with
    | (true, s, effects) => (s, effects)
    | (false, s, effects) => (s.modifySession llId fun session =>
        { session with pendingTmsFragmentDelayMs := kMotorolaTmsP25OutboxPollMs }, effects)

/-- The turn of the text of a session. -/
def clockDelivery (ms : ℕ) (listening : Bool) (llId : ℕ) : Data × List DataEffect :=
  match s.sessions.get? llId with
  | none => (s, [])
  | some session =>
    if session.pendingTmsFragments = [] then (s, [])
    else if session.pendingTmsFragmentAck = true then
      if ms < session.pendingTmsFragmentAckMs then
        (s.modifySession llId fun session =>
          { session with
            pendingTmsFragmentAckMs := session.pendingTmsFragmentAckMs - ms }, [])
      else s.clockExpired cfg listening llId
    else if session.pendingTmsFragmentIndex < session.pendingTmsFragments.length then
      s.clockNextFragment cfg ms listening llId session
    else if ms < session.pendingTmsApplicationAckMs then
      (s.modifySession llId fun session =>
        { session with
          pendingTmsApplicationAckMs := session.pendingTmsApplicationAckMs - ms }, [])
    else if 0 < session.pendingTmsApplicationAckMs then
      (s.modifySession llId resetMotorolaTmsInboundDelivery, [])
    else (s, [])

/-- The clock comes to one radio. -/
def clockSession (ms : ℕ) (listening : Bool) (llId : ℕ) : Data × List DataEffect :=
  let (s, service) := s.clockService cfg ms listening llId
  let (s, location) := s.clockLocation cfg ms listening llId
  let (s, delivery) := s.clockDelivery cfg ms listening llId
  (s, service ++ location ++ delivery)

/-- The clock comes to the radios one after another. -/
def visitSessions (ms : ℕ) (listening : Bool) : List ℕ → Data → Data × List DataEffect
  | [], s => (s, [])
  | llId :: rest, s =>
    let (s, effects) := s.clockSession cfg ms listening llId
    let (s, more) := visitSessions ms listening rest s
    (s, effects ++ more)

/-! ## The outbox -/

/-- The files that a poll looks at. -/
def polledFiles : List Bytes :=
  ((s.outbox.keys.filter fun name => (ascii ".yaml".toList).isSuffixOf name).insertionSort
    (· ≤ ·)).take kMotorolaTmsP25MaxFilesPerPoll

/-- A file goes to the failed directory. -/
def archiveFailed (spool : Spool) (name : Bytes) : Data :=
  if spool.moves name = true then
    { s with
      outbox := s.outbox.erase name
      failed := insert (name ++ ascii ".failed".toList) s.failed }
  else s

/-- A file goes to the sent directory. -/
def archiveSent (spool : Spool) (llId : ℕ) (name : Bytes) : Data × List DataEffect :=
  if spool.moves name = true then
    ({ s with
      outbox := s.outbox.erase name
      sent := insert (name ++ ascii ".sent".toList) s.sent }, [.archived llId name])
  else (s, [])

/-- The text of a file with its two addresses. -/
def readText : OutboxFile → Option (ℕ × ℕ × Bytes)
  | .unreadable => none
  | .event sourceRid targetRid textHex =>
    if sourceRid = 0 ∨ targetRid = 0 then none
    else (decodeHexText textHex).map fun text => (sourceRid, targetRid, text)

/-- The first text that can be sent is sent. -/
def pollFiles (listening : Bool) (spool : Spool) : List Bytes → Data → Data × List DataEffect
  | [], s => (s, [])
  | name :: rest, s =>
    match s.outbox.get? name with
    | none => pollFiles listening spool rest s
    | some file =>
      match readText file with
      | none => pollFiles listening spool rest (s.archiveFailed spool name)
      | some (sourceRid, targetRid, text) =>
        match s.writeMotorolaTmsInboundDelivery cfg listening targetRid sourceRid text with
        | (false, s, _) => pollFiles listening spool rest s
        | (true, s, effects) =>
          let (s, more) := s.archiveSent spool targetRid name
          (s, effects ++ more)

/-- Look for a text to send. -/
def processMotorolaTmsOutbox (listening : Bool) (spool : Spool) : Data × List DataEffect :=
  if spool.ready = false then (s, [])
  else pollFiles cfg listening spool s.polledFiles s

/-- The clock ticks. -/
def clock (ms : ℕ) (listening : Bool) (order : List ℕ) (spool : Spool) : Data × List DataEffect :=
  let (s, effects) := visitSessions cfg ms listening order s
  if s.outboxPollMs ≤ ms then
    let (s, more) := { s with
      outboxPollMs := kMotorolaTmsP25OutboxPollMs }.processMotorolaTmsOutbox cfg listening spool
    (s, effects ++ more)
  else ({ s with outboxPollMs := s.outboxPollMs - ms }, effects)

end Data

/-- What happens to the data host. -/
inductive DataEvent
  /-- The clock ticks and comes to the radios in an order of its own. -/
  | clock (ms : ℕ) (listening : Bool) (order : List ℕ) (spool : Spool)
  | ack (order : List ℕ) (llId status : ℕ)
  | nack (order : List ℕ) (type : NackType) (llId status : ℕ)
  | ackRetry (order : List ℕ) (llId ns : ℕ)
  | packet (sourceRid targetRid ns : ℕ) (ackNeeded : Bool) (packet : RadioPacket)
  | connect (llId ipAddr : ℕ) (valid : Bool) (response : Option Pdu)
  | disconnect (llId ns : ℕ)
  /-- Any other confirmed data unit is sent. -/
  | confirmed (pdu : Pdu)
  /-- Another program puts a file into the outbox. -/
  | deposit (name : Bytes) (file : OutboxFile)

/-- The step of the data host. -/
def dataStep (cfg : DataConfig) (s : Data) : DataEvent → Data × List DataEffect
  | .clock ms listening order spool =>
    if order.Perm s.sessions.keys then s.clock cfg ms listening order spool else (s, [])
  | .ack order llId status => s.receiveAck cfg order llId status
  | .nack order type llId status => (s.receiveNack order type llId status, [])
  | .ackRetry order llId ns => s.receiveAckRetry cfg order llId ns
  | .packet sourceRid targetRid ns ackNeeded packet =>
    s.receivePacket cfg sourceRid targetRid ns ackNeeded packet
  | .connect llId ipAddr valid response => (s.connect llId ipAddr valid response, [])
  | .disconnect llId ns => s.disconnect llId ns
  | .confirmed pdu => s.writeRfPdu pdu
  | .deposit name file => ({ s with outbox := s.outbox.set name file }, [])

end P25
