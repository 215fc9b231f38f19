import QuantarBridge.Lib.Decimal
import QuantarBridge.Lib.Dict
import QuantarBridge.PacketData.Encoder

/-!
# The BrandMeister connection

`BMNetwork` logs in to a BrandMeister master, or to a local gateway, keeps the session alive, hands
received frames on and writes frames. The frames of packet data wait in a queue and are written one
every sixty milliseconds. Closing the connection clears the queue.

* `Timers`, `Surroundings`: timers, the outcome of each socket write and the stream numbers;
* `NetStep`: a state with what happened on the way, `NetStep.andThen` composes them;
* `buildHomebrewPacket`, `parseHomebrewPacket`;
* `writePacketData`, `clockPacketData`, `clock`, `close`, `deferReconnect`, `openSocket`, `read`,
  `write`.
-/

set_option autoImplicit false

namespace Brandmeister

open Dmr Lib PacketData

/-- The length of a packet with a frame. -/
def kHomebrewPacketLength : ℕ := 55

/-- The pause between two packets of packet data. -/
def kPacketDataFrameIntervalMs : ℕ := 60

/-- The bound of the queue. -/
def kMaxQueuedPacketDataFrames : ℕ := 512

/-- The timers. -/
structure Timers (τ : Type) where
  start : τ → τ
  stop : τ → τ
  clock : τ → ℕ → τ
  isRunning : τ → Bool
  hasExpired : τ → Bool

/-- What the connection meets: the outcome of the `n`-th socket write and the `n`-th stream
number. -/
structure Surroundings where
  writeOk : ℕ → Bool
  streamId : ℕ → UInt32
  sha256 : Bytes → Bytes

/-- The configuration: `configMessage` is the printed description of the repeater, and exactly the
configured slot is enabled. -/
structure BMConfig where
  gatewayMode : Bool
  repeaterId : UInt32
  password : Bytes
  configMessage : Bytes
  options : Bytes
  colorCode : ℕ
  timeslot : ℕ
  slot1 : Bool
  slot2 : Bool
  timeslot_valid : timeslot = 1 ∨ timeslot = 2
  slot1_eq : slot1 = decide (timeslot = 1)
  slot2_eq : slot2 = decide (timeslot = 2)

/-- How far the login has come. -/
inductive Status
  | WaitingConnect | WaitingLogin | WaitingAuthorisation | WaitingConfig | WaitingOptions | Running
  deriving DecidableEq

/-- The state of the connection. -/
structure BMNetwork (τ : Type) where
  socketActive : Bool
  status : Status
  rxPackets : List Bytes
  retryTimer : τ
  timeoutTimer : τ
  beaconTimer : τ
  packetDataNs : Dict ℕ ℕ
  packetDataTxQueue : List Bytes
  packetDataTxElapsedMs : ℕ
  salt : Bytes
  streamIds : UInt32 × UInt32
  buffer : Bytes
  writes : ℕ
  draws : ℕ

/-- The connection before it is opened, with its three timers. -/
def BMNetwork.create {τ : Type} (streamId : ℕ → UInt32) (retryTimer timeoutTimer beaconTimer : τ) :
    BMNetwork τ where
  socketActive := false
  status := .WaitingConnect
  rxPackets := []
  retryTimer := retryTimer
  timeoutTimer := timeoutTimer
  beaconTimer := beaconTimer
  packetDataNs := Dict.empty
  packetDataTxQueue := []
  packetDataTxElapsedMs := 0
  salt := List.replicate 4 0
  streamIds := (streamId 0, streamId 1)
  buffer := List.replicate 512 0
  writes := 0
  draws := 2

/-- What happens on the way. -/
inductive NetEffect
  | written (packet : Bytes)
  | queued (packets : List Bytes)
  | closed
  deriving DecidableEq

/-- A state and what happened on the way to it. -/
structure NetStep (τ : Type) where
  state : BMNetwork τ
  effects : List NetEffect

variable {τ : Type}

/-- Nothing happened. -/
def NetStep.idle (s : BMNetwork τ) : NetStep τ := ⟨s, []⟩

/-- One thing after the other. -/
def NetStep.andThen (r : NetStep τ) (f : BMNetwork τ → NetStep τ) : NetStep τ :=
  ⟨(f r.state).state, r.effects ++ (f r.state).effects⟩

variable (T : Timers τ) (E : Surroundings) (cfg : BMConfig)

/-! ## Packets -/

/-- A 32-bit number, least significant byte first. -/
def bytes32Le (value : UInt32) : Bytes :=
  [value.toUInt8, (value >>> 8).toUInt8, (value >>> 16).toUInt8, (value >>> 24).toUInt8]

/-- A number of 24 bits. -/
def bytes24 (value : ℕ) : Bytes :=
  [UInt8.ofNat (value >>> 16), UInt8.ofNat (value >>> 8), UInt8.ofNat value]

/-- The identifier of the repeater, most significant byte first. -/
def BMConfig.repeaterIdBytes (cfg : BMConfig) : Bytes :=
  [(cfg.repeaterId >>> 24).toUInt8, (cfg.repeaterId >>> 16).toUInt8,
    (cfg.repeaterId >>> 8).toUInt8, cfg.repeaterId.toUInt8]

/-- The byte that tells slot, call type and burst type. -/
def frameFlags (data : NetData) : UInt8 :=
  (if data.slotNo = 2 then 0x80 else 0x00) ||| (if data.flco = .GROUP then 0x00 else 0x40) |||
    match data.dataType with
    | .VOICE_SYNC => 0x10
    | .VOICE => UInt8.ofNat data.n &&& 0x0F
    | dataType => 0x20 ||| UInt8.ofNat dataType.value

/-- The packet of a frame. -/
def buildHomebrewPacket (data : NetData) (streamId : UInt32) : Bytes :=
  if data.slotNo ≠ 1 ∧ data.slotNo ≠ 2 then []
  else ascii ['D', 'M', 'R', 'D'] ++ UInt8.ofNat data.seqNo :: bytes24 data.srcId ++
    bytes24 data.dstId ++ cfg.repeaterIdBytes ++ frameFlags data :: bytes32Le streamId ++
    data.data.toList ++ [data.ber, data.rssi]

theorem neZero_sixteen : NeZero 16 := ⟨Nat.succ_ne_zero 15⟩

/-- The frame of a packet. -/
def parseHomebrewPacket (packet : Bytes) : NetData :=
  let flags := packet.getD 15 0
  let number (i : ℕ) : ℕ := (packet.getD i 0).toNat * 65536 + (packet.getD (i + 1) 0).toNat * 256 +
    (packet.getD (i + 2) 0).toNat
  let nibble := @Fin.ofNat 16 neZero_sixteen flags.toNat
  { slotNo := if flags &&& 0x80 ≠ 0 then 2 else 1
    srcId := number 5
    dstId := number 8
    flco := if flags &&& 0x40 ≠ 0 then .PRIVATE else .GROUP
    n := if flags &&& 0x30 ≠ 0 then 0 else nibble
    seqNo := (packet.getD 4 0).toNat
    dataType := if flags &&& 0x20 ≠ 0 then .ofNibble nibble
      else if flags &&& 0x10 ≠ 0 then .VOICE_SYNC else .VOICE
    data := .ofBytes (packet.drop 20)
    ber := packet.getD 53 0
    rssi := packet.getD 54 0
    control := 0 }

/-! ## Writing -/

namespace BMNetwork

/-- Write to the socket. -/
def writePacket (s : BMNetwork τ) (data : Bytes) : Bool × NetStep τ :=
  let ok := E.writeOk s.writes
  (ok, ⟨{ s with writes := s.writes + 1 }, if ok then [.written data] else []⟩)

/-- Write to the socket, whatever becomes of it. -/
def send (data : Bytes) (s : BMNetwork τ) : NetStep τ := (writePacket E s data).2

/-- Send the login. -/
def writeLogin (s : BMNetwork τ) : Bool × NetStep τ :=
  writePacket E s (ascii ['R', 'P', 'T', 'L'] ++ cfg.repeaterIdBytes)

/-- Answer the salt with the hash of salt and password. -/
def writeAuthorisation (s : BMNetwork τ) : NetStep τ :=
  s.send E (ascii ['R', 'P', 'T', 'K'] ++ cfg.repeaterIdBytes ++ E.sha256 (s.salt ++ cfg.password))

/-- Send the configuration. -/
def writeConfig (s : BMNetwork τ) : NetStep τ := s.send E cfg.configMessage

/-- Send the options. -/
def writeOptions (s : BMNetwork τ) : NetStep τ :=
  s.send E (ascii ['R', 'P', 'T', 'O'] ++ cfg.repeaterIdBytes ++ cfg.options)

/-- Send a ping. -/
def writePing (s : BMNetwork τ) : NetStep τ :=
  s.send E (ascii ['R', 'P', 'T', 'P', 'I', 'N', 'G'] ++ cfg.repeaterIdBytes)

/-- The session is open. -/
def isConnected (s : BMNetwork τ) : Bool := s.status = .Running

/-- Write a frame. A header, a control block and a data header start a new stream. -/
def write (s : BMNetwork τ) (data : NetData) : Bool × NetStep τ :=
  if s.isConnected = false then (false, .idle s)
  else if (data.slotNo ≠ 1 ∧ data.slotNo ≠ 2) ∨ (data.slotNo = 1 ∧ cfg.slot1 = false) ∨
      (data.slotNo = 2 ∧ cfg.slot2 = false) then (false, .idle s)
  else
    let starts := data.dataType = .VOICE_LC_HEADER ∨ data.dataType = .CSBK ∨
      data.dataType = .DATA_HEADER
    let fresh := E.streamId s.draws
    let streamIds := if data.slotNo = 1 then (fresh, s.streamIds.2) else (s.streamIds.1, fresh)
    let s := if starts then { s with streamIds := streamIds, draws := s.draws + 1 } else s
    let streamId := if data.slotNo = 1 then s.streamIds.1 else s.streamIds.2
    writePacket E s (buildHomebrewPacket cfg data streamId)

/-- Queue a packet for transmission. It goes to the configured slot, whatever slot is asked for. -/
def writePacketData (D : Codec) (s : BMNetwork τ) (sourceRid targetRid _slotNo : ℕ)
    (ipPacket : Bytes) : Bool × NetStep τ :=
  if ipPacket = [] then (false, .idle s)
  else if s.isConnected = false then (false, .idle s)
  else
    let ns := ((s.packetDataNs.get? sourceRid).getD 0 + 1) % 8
    let s := { s with packetDataNs := s.packetDataNs.set sourceRid ns }
    let frames := encode D sourceRid targetRid cfg.timeslot (cfg.colorCode % 256) ns ipPacket 16
    if frames = [] then (false, .idle s)
    else if kMaxQueuedPacketDataFrames < s.packetDataTxQueue.length + frames.length then
      (false, .idle s)
    else
      let packets := frames.map fun frame => buildHomebrewPacket cfg frame (E.streamId s.draws)
      let built := packets.takeWhile (· ≠ [])
      let elapsed := if s.packetDataTxQueue = [] ∧ built = packets then kPacketDataFrameIntervalMs
        else s.packetDataTxElapsedMs
      (built = packets,
        ⟨{ s with
          draws := s.draws + 1
          packetDataTxQueue := s.packetDataTxQueue ++ built
          packetDataTxElapsedMs := elapsed }, [.queued built]⟩)

/-- Write the next frame of the queue when its time has come. A frame that cannot be written stays. -/
def clockPacketData (ms : ℕ) (s : BMNetwork τ) : NetStep τ :=
  match s.packetDataTxQueue with
  | [] => .idle s
  | packet :: rest =>
    if s.isConnected = false then .idle s
    else
      let elapsed := min ((s.packetDataTxElapsedMs + ms) % 2 ^ 32) (kPacketDataFrameIntervalMs * 2)
      if elapsed < kPacketDataFrameIntervalMs then .idle { s with packetDataTxElapsedMs := elapsed }
      else
        let w := writePacket E s packet
        let left := if rest = [] then 0 else elapsed - kPacketDataFrameIntervalMs
        let s := if w.1 then
            { w.2.state with packetDataTxQueue := rest, packetDataTxElapsedMs := left }
          else { w.2.state with packetDataTxElapsedMs := kPacketDataFrameIntervalMs }
        ⟨s, w.2.effects⟩

/-! ## Opening and closing -/

/-- The status of a connection that is not set up. -/
def restingStatus : Status := if cfg.gatewayMode then .WaitingConfig else .WaitingConnect

/-- Resolve the address and open the socket, then log in. -/
def openSocket (resolved : Bool) (s : BMNetwork τ) : Bool × NetStep τ :=
  let s := { s with
    socketActive := resolved
    status := restingStatus cfg
    timeoutTimer := T.stop s.timeoutTimer
    beaconTimer := T.stop s.beaconTimer }
  let startRetry (s : BMNetwork τ) : BMNetwork τ := { s with retryTimer := T.start s.retryTimer }
  if resolved = false ∨ cfg.gatewayMode then (resolved, .idle (startRetry s))
  else
    let w := writeLogin E cfg s
    let s := if w.1 then
        { w.2.state with status := .WaitingLogin, timeoutTimer := T.start w.2.state.timeoutTimer }
      else w.2.state
    (true, ⟨startRetry s, w.2.effects⟩)

/-- Close the socket and forget the queue. -/
def closeSocket (s : BMNetwork τ) : NetStep τ :=
  ⟨{ s with
    socketActive := false
    retryTimer := T.stop s.retryTimer
    timeoutTimer := T.stop s.timeoutTimer
    beaconTimer := T.stop s.beaconTimer
    packetDataTxQueue := []
    packetDataTxElapsedMs := 0
    status := restingStatus cfg }, [.closed]⟩

/-- Say goodbye and close. -/
def close (s : BMNetwork τ) : NetStep τ :=
  let goodbye := if cfg.gatewayMode = false ∧ s.status = .Running then
      s.send E (ascii ['R', 'P', 'T', 'C', 'L'] ++ cfg.repeaterIdBytes)
    else .idle s
  goodbye.andThen (closeSocket T cfg)

/-- Close and try again later. -/
def deferReconnect (s : BMNetwork τ) : NetStep τ :=
  (s.close T E cfg).andThen fun s =>
    .idle { s with status := .WaitingConnect, retryTimer := T.start s.retryTimer }

/-! ## Receiving -/

/-- Keep a received frame of the configured slot. -/
def parseIncomingDMR (packet : Bytes) (s : BMNetwork τ) : BMNetwork τ :=
  let slotNo := if packet.getD 15 0 &&& 0x80 ≠ 0 then 2 else 1
  if packet.length < kHomebrewPacketLength ∨ slotNo ≠ cfg.timeslot then s
  else
    let waiting := if 2048 ≤ s.rxPackets.length then s.rxPackets.tail else s.rxPackets
    { s with rxPackets := waiting ++ [packet] }

/-- Take the next received frame. -/
def read (s : BMNetwork τ) : Option NetData × BMNetwork τ :=
  if s.isConnected = false then (none, s)
  else match s.rxPackets with
    | [] => (none, s)
    | packet :: rest =>
      let s := { s with rxPackets := rest }
      if packet.length < kHomebrewPacketLength then (none, s)
      else (some (parseHomebrewPacket packet), s)

/-- The session moves on. -/
def advance (status : Status) (s : BMNetwork τ) : BMNetwork τ :=
  { s with
    status := status
    timeoutTimer := T.start s.timeoutTimer
    retryTimer := T.start s.retryTimer }

/-- The next step of the login. -/
def acknowledge (s : BMNetwork τ) : NetStep τ :=
  match s.status with
  | .WaitingLogin =>
    (writeAuthorisation E cfg { s with salt := (s.buffer.drop 6).take 4 }).andThen fun s =>
      .idle (s.advance T .WaitingAuthorisation)
  | .WaitingAuthorisation =>
    (s.writeConfig E cfg).andThen fun s => .idle (s.advance T .WaitingConfig)
  | .WaitingConfig =>
    if cfg.options ≠ [] then
      (s.writeOptions E cfg).andThen fun s => .idle (s.advance T .WaitingOptions)
    else .idle (s.advance T .Running)
  | .WaitingOptions => .idle (s.advance T .Running)
  | _ => .idle s

/-- The buffer starts with a tag. -/
def tagged (s : BMNetwork τ) (tag : List Char) : Bool := s.buffer.take tag.length = ascii tag

/-- A datagram from the gateway. -/
def receiveGateway (length : ℕ) (s : BMNetwork τ) : BMNetwork τ :=
  if s.tagged ['D', 'M', 'R', 'D'] then parseIncomingDMR cfg (s.buffer.take length) s
  else if s.tagged ['D', 'M', 'R', 'P'] then
    { s with status := .Running, retryTimer := T.stop s.retryTimer }
  else s

/-- A datagram from the master. The session may end with it. -/
def receiveMaster (length : ℕ) (s : BMNetwork τ) : Bool × NetStep τ :=
  if s.tagged ['D', 'M', 'R', 'D'] then
    let s := if s.status = .Running then s else s.advance T .Running
    (false, .idle (parseIncomingDMR cfg (s.buffer.take length) s))
  else if s.tagged ['M', 'S', 'T', 'N', 'A', 'K'] then (false, .idle (s.advance T .WaitingLogin))
  else if s.tagged ['R', 'P', 'T', 'A', 'C', 'K'] then (false, s.acknowledge T E cfg)
  else if s.tagged ['M', 'S', 'T', 'P', 'O', 'N', 'G'] then
    (false, .idle { s with timeoutTimer := T.start s.timeoutTimer })
  else if s.tagged ['R', 'P', 'T', 'S', 'B', 'K', 'N'] then (false, .idle s)
  else if s.tagged ['M', 'S', 'T', 'C', 'L'] then (true, s.deferReconnect T E cfg)
  else (false, .idle s)

/-- What the socket has for the bridge. -/
inductive SocketRead
  | failed
  | nothing
  | datagram (bytes : Bytes) (expectedSource : Bool)

/-- Receive a datagram into the buffer, whose old bytes stay behind a shorter one. -/
def receive (bytes : Bytes) (expectedSource : Bool) (s : BMNetwork τ) : Bool × NetStep τ :=
  let received := bytes.take 512
  let s := { s with buffer := received ++ s.buffer.drop received.length }
  if received = [] ∨ expectedSource = false then (false, .idle s)
  else if cfg.gatewayMode then (false, .idle (receiveGateway T cfg received.length s))
  else receiveMaster T E cfg received.length s

/-! ## The clock -/

/-- What one call of `clock` meets. -/
structure ClockInput where
  ms : ℕ
  socket : SocketRead
  resolved : Bool

/-- Log in again when the retry timer has expired. -/
def clockWaitingConnect (i : ClockInput) (s : BMNetwork τ) : NetStep τ :=
  let s := { s with retryTimer := T.clock s.retryTimer i.ms }
  if T.isRunning s.retryTimer ∧ T.hasExpired s.retryTimer then
    if s.socketActive = false then (s.openSocket T E cfg i.resolved).2
    else
      let w := s.writeLogin E cfg
      if w.1 = false then w.2 else w.2.andThen fun s => .idle (s.advance T .WaitingLogin)
  else .idle s

/-- Repeat what the status waits for. -/
def retry (s : BMNetwork τ) : NetStep τ :=
  match s.status with
  | .WaitingLogin => (s.writeLogin E cfg).2
  | .WaitingAuthorisation => s.writeAuthorisation E cfg
  | .WaitingConfig => s.writeConfig E cfg
  | .WaitingOptions => s.writeOptions E cfg
  | .Running => s.writePing E cfg
  | .WaitingConnect => .idle s

/-- The timers of a gateway link. -/
def clockGatewayTimers (ms : ℕ) (s : BMNetwork τ) : NetStep τ :=
  if s.status = .Running then .idle { s with retryTimer := T.stop s.retryTimer }
  else
    let s := { s with retryTimer := T.clock s.retryTimer ms }
    if T.isRunning s.retryTimer ∧ T.hasExpired s.retryTimer then
      (s.writeConfig E cfg).andThen fun s => .idle { s with retryTimer := T.start s.retryTimer }
    else .idle s

/-- Repeat a request or a ping. -/
def clockRetryTimer (ms : ℕ) (s : BMNetwork τ) : NetStep τ :=
  let s := { s with retryTimer := T.clock s.retryTimer ms }
  if T.isRunning s.retryTimer ∧ T.hasExpired s.retryTimer then
    (s.retry E cfg).andThen fun s => .idle { s with retryTimer := T.start s.retryTimer }
  else .idle s

/-- Give up a silent session. -/
def clockTimeoutTimer (ms : ℕ) (s : BMNetwork τ) : NetStep τ :=
  let s := { s with timeoutTimer := T.clock s.timeoutTimer ms }
  if T.isRunning s.timeoutTimer ∧ T.hasExpired s.timeoutTimer then s.deferReconnect T E cfg
  else .idle s

/-- The socket cannot be read. -/
def readFailed (resolved : Bool) (s : BMNetwork τ) : NetStep τ :=
  (s.close T E cfg).andThen fun s =>
    if cfg.gatewayMode then (s.openSocket T E cfg resolved).2
    else .idle { s with retryTimer := T.start s.retryTimer }

/-- The frames of the queue and the timers. -/
def clockTimers (ms : ℕ) (s : BMNetwork τ) : NetStep τ :=
  (s.clockPacketData E ms).andThen fun s =>
    if cfg.gatewayMode then s.clockGatewayTimers T E cfg ms
    else (s.clockRetryTimer T E cfg ms).andThen (clockTimeoutTimer T E cfg ms)

/-- One turn of the connection. -/
def clock (i : ClockInput) (s : BMNetwork τ) : NetStep τ :=
  if cfg.gatewayMode = false ∧ s.status = .WaitingConnect then s.clockWaitingConnect T E cfg i
  else match i.socket with
    | .failed => s.readFailed T E cfg i.resolved
    | .nothing => s.clockTimers T E cfg i.ms
    | .datagram bytes expectedSource =>
      let r := s.receive T E cfg bytes expectedSource
      if r.1 then r.2 else r.2.andThen (clockTimers T E cfg i.ms)

end BMNetwork

end Brandmeister
