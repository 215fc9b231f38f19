import QuantarBridge.Brandmeister.Session
import QuantarBridge.Dashboard.Validation
import QuantarBridge.Lib.Buffer
import QuantarBridge.PacketData.PlainCodec

/-!
# The buffers of the handshake

The packets of the handshake are put together in buffers of a fixed length. The password and the
options are copied with the length they have in the configuration, which no one bounds. The printed
description of the repeater is cut off at the end of its buffer.

* `BmSection`, `loadBm`: the section of the configuration file, `LoadedBM`: the configuration;
* `authorisationPacket`, `configPacket`, `optionsPacket`: the writers with their buffers;
* `Buffered.step`, `Buffered.run`: the connection with these writers, which fails outside a buffer;
* `step_eq`: **it is the connection** as long as everything fits;
* `run_isSome_iff`: **exactly when no run leaves a buffer**.
-/

set_option autoImplicit false

namespace Brandmeister

open Dmr Lib PacketData

/-! ## The configuration -/

/-- The section of the configuration file. A key may be absent. -/
structure BmSection where
  repeaterId : Option UInt32
  password : Option Bytes
  transport : Option Bytes
  callsign : Option Bytes
  rxFrequency : Option UInt32
  txFrequency : Option UInt32
  power : Option UInt32
  colorCode : Option UInt32
  latitude : Option Bytes
  longitude : Option Bytes
  height : Option Bytes
  location : Option Bytes
  description : Option Bytes
  url : Option Bytes
  softwareId : Option Bytes
  packageId : Option Bytes
  slot1 : Option Bool
  slot2 : Option Bool
  timeslot : Option UInt8
  options : Option Bytes

/-- Exactly one slot is enabled. -/
structure SlotChoice where
  timeslot : ℕ
  slot1 : Bool
  slot2 : Bool
  timeslot_valid : timeslot = 1 ∨ timeslot = 2
  slot1_eq : slot1 = decide (timeslot = 1)
  slot2_eq : slot2 = decide (timeslot = 2)

/-- The configuration of the connection. -/
structure LoadedBM where
  repeaterId : UInt32
  password : Bytes
  transport : Bytes
  callsign : Bytes
  rxFrequency : UInt32
  txFrequency : UInt32
  power : UInt32
  colorCode : UInt32
  latitude : Bytes
  longitude : Bytes
  height : Bytes
  location : Bytes
  description : Bytes
  url : Bytes
  softwareId : Bytes
  packageId : Bytes
  slots : SlotChoice
  options : Bytes

/-- The connection goes through an MMDVM gateway. -/
def LoadedBM.gatewayMode (cfg : LoadedBM) : Bool := cfg.transport = ascii "mmdvm-gateway".toList

theorem first_valid : 1 = 1 ∨ 1 = 2 := Or.inl rfl

theorem second_valid : 2 = 1 ∨ 2 = 2 := Or.inr rfl

/-- The slot, from the configured timeslot or from the two flags. -/
def loadTimeslot (bm : BmSection) : Except String SlotChoice :=
  match bm.timeslot with
  | some timeslot =>
    if h : timeslot.toNat = 1 ∨ timeslot.toNat = 2 then
      .ok ⟨timeslot.toNat, decide (timeslot.toNat = 1), decide (timeslot.toNat = 2), h, rfl, rfl⟩
    else .error "brandmeister.timeslot must be 1 or 2"
  | none =>
    match bm.slot1.getD false, bm.slot2.getD true with
    | true, false => .ok ⟨1, true, false, first_valid, rfl, rfl⟩
    | false, true => .ok ⟨2, false, true, second_valid, rfl, rfl⟩
    | _, _ => .error "brandmeister must enable exactly one timeslot"

/-- The section with its defaults. Only the gateway needs no password. -/
def loadBm (bm : BmSection) : Except String LoadedBM := do
  let slots ← loadTimeslot bm
  let cfg : LoadedBM :=
    { repeaterId := bm.repeaterId.getD 123456
      password := bm.password.getD []
      transport := bm.transport.getD (ascii "brandmeister".toList)
      callsign := bm.callsign.getD (ascii "N0CALL".toList)
      rxFrequency := bm.rxFrequency.getD 438800000
      txFrequency := bm.txFrequency.getD 438800000
      power := bm.power.getD 25
      colorCode := bm.colorCode.getD 1
      latitude := bm.latitude.getD (ascii "0.0000".toList)
      longitude := bm.longitude.getD (ascii "0.0000".toList)
      height := bm.height.getD (ascii "0".toList)
      location := bm.location.getD (ascii "Example Site".toList)
      description := bm.description.getD (ascii "Quantar P25 BM Link".toList)
      url := bm.url.getD []
      softwareId := bm.softwareId.getD (ascii "20260320".toList)
      packageId := bm.packageId.getD (ascii "MMDVM_HBlink".toList)
      slots := slots
      options := bm.options.getD [] }
  if cfg.gatewayMode = false ∧ cfg.password = [] then
    throw "brandmeister.password must not be empty"
  return cfg

/-! ## Printing -/

/-- What `printf` makes of the coordinates and `atoi` of the height. -/
structure Printing where
  latitude : Bytes → Bytes
  longitude : Bytes → Bytes
  atoi : Bytes → ℤ

/-- A text ends at a zero. -/
def cString (s : Bytes) : Bytes := s.takeWhile (· ≠ 0)

/-- A text cut to a precision, with blanks behind it. -/
def printLeft (width precision : ℕ) (s : Bytes) : Bytes :=
  let s := (cString s).take precision
  s ++ List.replicate (width - s.length) 0x20

/-- A text cut to a precision, with blanks in front. -/
def printRight (width precision : ℕ) (s : Bytes) : Bytes :=
  let s := (cString s).take precision
  List.replicate (width - s.length) 0x20 ++ s

/-- Print to a part of a buffer. What does not fit in front of the zero is cut off. -/
def snprintf (buffer : Bytes) (offset size : ℕ) (text : Bytes) : Option Bytes :=
  copyTo buffer offset (text.take (size - 1) ++ [0])

/-- The character for the slots. The identifier of a hotspot is longer than that of a repeater. -/
def slotMode (cfg : LoadedBM) : UInt8 :=
  if 999999 < cfg.repeaterId.toNat then 0x34
  else if cfg.slots.slot1 ∧ cfg.slots.slot2 then 0x33
  else if cfg.slots.slot1 then 0x31
  else if cfg.slots.slot2 then 0x32
  else 0x30

/-- The fields at the start of both descriptions. -/
def printRadio (cfg : LoadedBM) : Bytes :=
  printLeft 8 8 cfg.callsign ++ padded 9 cfg.rxFrequency.toNat ++ padded 9 cfg.txFrequency.toNat ++
    padded 2 (min cfg.power.toNat 99) ++ padded 2 (min cfg.colorCode.toNat 99)

/-- The configuration as a gateway is told it. -/
def printGateway (cfg : LoadedBM) : Bytes :=
  printRadio cfg ++ [0x34] ++ printLeft 40 40 cfg.softwareId ++ printLeft 40 40 cfg.packageId

/-- The configuration as the master is told it. -/
def printDirect (P : Printing) (cfg : LoadedBM) : Bytes :=
  printRadio cfg ++ P.latitude cfg.latitude ++ P.longitude cfg.longitude ++
    padded 3 (max 0 (min 999 (P.atoi cfg.height))).toNat ++ printLeft 20 20 cfg.location ++
    printLeft 19 19 cfg.description ++ [slotMode cfg] ++ printLeft 124 124 cfg.url ++
    printRight 40 40 cfg.softwareId ++ printRight 40 40 cfg.packageId

/-! ## The writers -/

/-- A local buffer. -/
def localBuffer (size : ℕ) : Bytes := List.replicate size 0

/-- The identifier of the repeater, most significant byte first. -/
def LoadedBM.repeaterIdBytes (cfg : LoadedBM) : Bytes :=
  [(cfg.repeaterId >>> 24).toUInt8, (cfg.repeaterId >>> 16).toUInt8,
    (cfg.repeaterId >>> 8).toUInt8, cfg.repeaterId.toUInt8]

/-- The tag and the identifier in front of a packet. -/
def startPacket (cfg : LoadedBM) (tag : List Char) (buffer : Bytes) : Option Bytes := do
  let buffer ← copyTo buffer 0 (ascii tag)
  copyTo buffer 4 cfg.repeaterIdBytes

/-- The hash of the salt and the password. -/
def authorisationPacket (sha256 : Bytes → Bytes) (cfg : LoadedBM) (salt : Bytes) :
    Option Bytes := do
  let input ← copyTo (localBuffer 128) 0 salt
  let input ← copyTo input salt.length cfg.password
  let buffer ← startPacket cfg ['R', 'P', 'T', 'K'] (localBuffer 40)
  let hashed ← slice input 0 (salt.length + cfg.password.length)
  copyTo buffer 8 (sha256 hashed)

/-- The packet with the configuration, in a buffer of its own. -/
def configPacket (P : Printing) (cfg : LoadedBM) : Option Bytes :=
  if cfg.gatewayMode then do
    let buffer ← startPacket cfg ['D', 'M', 'R', 'C'] (localBuffer 150)
    let buffer ← snprintf buffer 8 (150 - 8) (printGateway cfg)
    slice buffer 0 119
  else do
    let payload ← snprintf (localBuffer 295) 0 295 (printDirect P cfg)
    let payload := cString payload
    let buffer ← startPacket cfg ['R', 'P', 'T', 'C'] (localBuffer 310)
    let buffer ← copyTo buffer 8 payload
    slice buffer 0 (8 + payload.length)

/-- The packet with the options, in a buffer of 512 bytes. -/
def optionsPacket (cfg : LoadedBM) : Option Bytes := do
  let buffer ← startPacket cfg ['R', 'P', 'T', 'O'] (localBuffer 512)
  let buffer ← copyTo buffer 8 cfg.options
  slice buffer 0 (8 + cfg.options.length)

/-! ## What fits -/

section Packets

variable (cfg : LoadedBM)

@[simp]
theorem length_localBuffer (size : ℕ) : (localBuffer size).length = size := List.length_replicate

theorem startPacket_eq {tag : List Char} (htag : tag.length = 4) (buffer : Bytes)
    (h : 8 ≤ buffer.length) :
    startPacket cfg tag buffer = some (ascii tag ++ cfg.repeaterIdBytes ++ buffer.drop 8) := by
  have hlength : (ascii tag).length = 4 := by
    unfold ascii
    rw [List.length_map, htag]
  have hfront := copyTo_append [] buffer (ascii tag) (by omega)
  have hid := copyTo_append (ascii tag) (buffer.drop 4) cfg.repeaterIdBytes
    (by rw [List.length_drop]; show 4 ≤ _; omega)
  rw [hlength] at hfront hid
  unfold startPacket
  rw [show copyTo buffer 0 (ascii tag) = _ from hfront]
  show copyTo (ascii tag ++ buffer.drop 4) 4 cfg.repeaterIdBytes = _
  rw [hid, List.drop_drop]
  rfl

theorem copyTo_packet {tag : List Char} (htag : tag.length = 4) {rest data : Bytes}
    (h : data.length ≤ rest.length) :
    copyTo (ascii tag ++ cfg.repeaterIdBytes ++ rest) 8 data =
      some (ascii tag ++ cfg.repeaterIdBytes ++ data ++ rest.drop data.length) := by
  have hhead : (ascii tag ++ cfg.repeaterIdBytes).length = 8 := by
    rw [List.length_append, ascii, List.length_map, htag]
    rfl
  have hcopy := copyTo_append (ascii tag ++ cfg.repeaterIdBytes) rest data h
  rwa [hhead] at hcopy

/-- **The salt and the password** fit 128 bytes, or the copy leaves the buffer. -/
theorem authorisationPacket_eq {sha256 : Bytes → Bytes} (hsha : ∀ x, (sha256 x).length = 32)
    {salt : Bytes} (hsalt : salt.length = 4) : authorisationPacket sha256 cfg salt =
      if 4 + cfg.password.length ≤ 128 then
        some (ascii ['R', 'P', 'T', 'K'] ++ cfg.repeaterIdBytes ++ sha256 (salt ++ cfg.password))
      else none := by
  have hfront := copyTo_append [] (localBuffer 128) salt
    (by rw [length_localBuffer]; omega)
  have hinput : ((localBuffer 128).drop salt.length).length = 124 := by
    rw [List.length_drop, length_localBuffer, hsalt]
  have hstart := startPacket_eq cfg (show ['R', 'P', 'T', 'K'].length = 4 from rfl) (localBuffer 40)
    (by rw [length_localBuffer]; omega)
  have hrest : ((localBuffer 40).drop 8).length = 32 := by
    rw [List.length_drop, length_localBuffer]
  have hdigest := hsha (salt ++ cfg.password)
  unfold authorisationPacket
  rw [show copyTo (localBuffer 128) 0 salt = _ from hfront, hstart, List.nil_append]
  simp only [Option.bind_eq_bind, Option.bind_some]
  split_ifs with hfits
  · rw [copyTo_append _ _ _ (by omega), Option.bind_some, ← List.length_append, slice_left,
      Option.bind_some, copyTo_packet cfg rfl (by omega),
      List.drop_of_length_le (by omega), List.append_nil]
  · rw [copyTo_eq_none]
    · rfl
    · rw [List.length_append, hinput]
      omega

/-- **The options** fit 512 bytes with the tag and the identifier, or the copy leaves the buffer. -/
theorem optionsPacket_eq : optionsPacket cfg = if 8 + cfg.options.length ≤ 512 then
    some (ascii ['R', 'P', 'T', 'O'] ++ cfg.repeaterIdBytes ++ cfg.options) else none := by
  have hstart := startPacket_eq cfg (show ['R', 'P', 'T', 'O'].length = 4 from rfl) (localBuffer 512)
    (by rw [length_localBuffer]; omega)
  have hrest : ((localBuffer 512).drop 8).length = 504 := by
    rw [List.length_drop, length_localBuffer]
  have hhead : (ascii ['R', 'P', 'T', 'O'] ++ cfg.repeaterIdBytes).length = 8 := rfl
  unfold optionsPacket
  rw [hstart]
  simp only [Option.bind_eq_bind, Option.bind_some]
  split_ifs with hfits
  · rw [copyTo_packet cfg rfl (by omega), Option.bind_some, ← hhead, ← List.length_append, slice_left]
  · rw [copyTo_eq_none]
    · rfl
    · rw [List.length_append, hhead, hrest]
      omega

/-- Printing stays in its part of the buffer. -/
theorem snprintf_isSome {buffer : Bytes} (offset : ℕ) {size : ℕ} (hsize : 0 < size)
    (h : offset + size ≤ buffer.length) (text : Bytes) :
    ∃ buffer', snprintf buffer offset size text = some buffer' ∧ buffer'.length = buffer.length := by
  have hlength : (text.take (size - 1) ++ [0]).length ≤ size := by
    rw [List.length_append, List.length_take, List.length_singleton]
    omega
  obtain ⟨buffer', hcopy⟩ := exists_copyTo buffer offset (text.take (size - 1) ++ [0]) (by omega)
  exact ⟨buffer', hcopy, length_copyTo hcopy⟩

theorem length_cString_le (text rest : Bytes) : (cString (text ++ 0 :: rest)).length ≤ text.length := by
  unfold cString
  induction text with
  | nil => simp
  | cons c text ih =>
    rw [List.cons_append, List.takeWhile_cons]
    split_ifs
    · exact Nat.succ_le_succ ih
    · exact Nat.zero_le _

/-- A printed text ends inside its buffer. -/
theorem length_cString_snprintf {buffer buffer' : Bytes} {size : ℕ} {text : Bytes}
    (h : snprintf buffer 0 size text = some buffer') (hsize : 0 < size) :
    (cString buffer').length < size := by
  obtain ⟨-, rfl⟩ := copyTo_eq_some h
  have hle := length_cString_le (text.take (size - 1))
    (buffer.drop (0 + (text.take (size - 1) ++ [0]).length))
  rw [List.length_take] at hle
  rw [List.take_zero, List.nil_append, List.append_assoc]
  exact Nat.lt_of_le_of_lt hle (by omega)

theorem exists_startPacket {tag : List Char} (htag : tag.length = 4) {size : ℕ} (h : 8 ≤ size) :
    ∃ buffer, startPacket cfg tag (localBuffer size) = some buffer ∧ buffer.length = size := by
  refine ⟨_, startPacket_eq cfg htag _ (by rwa [length_localBuffer]), ?_⟩
  have hhead : (ascii tag ++ cfg.repeaterIdBytes).length = 8 := by
    rw [List.length_append, ascii, List.length_map, htag]
    rfl
  rw [List.length_append, hhead, List.length_drop, length_localBuffer]
  omega

theorem exists_slice {buffer : Bytes} {n : ℕ} (h : n ≤ buffer.length) :
    ∃ part, slice buffer 0 n = some part :=
  ⟨_, if_neg (by omega)⟩

/-- **The description** is cut off, so it always fits. -/
theorem exists_configPacket (P : Printing) : ∃ packet, configPacket P cfg = some packet := by
  unfold configPacket
  split_ifs with hgateway
  · obtain ⟨buffer, hstart, hlength⟩ :=
      exists_startPacket cfg (show ['D', 'M', 'R', 'C'].length = 4 from rfl) (show 8 ≤ 150 by omega)
    obtain ⟨printed, hprinted, hlength'⟩ := snprintf_isSome 8
      (show 0 < 150 - 8 by omega) (show 8 + (150 - 8) ≤ buffer.length by omega) (printGateway cfg)
    rw [hstart, Option.bind_eq_bind, Option.bind_some, hprinted]
    exact exists_slice (by omega)
  · obtain ⟨payload, hpayload, -⟩ := snprintf_isSome 0 (show 0 < 295 by omega)
      (show 0 + 295 ≤ (localBuffer 295).length by rw [length_localBuffer]) (printDirect P cfg)
    have hshort := length_cString_snprintf hpayload (by omega)
    obtain ⟨buffer, hstart, hlength⟩ :=
      exists_startPacket cfg (show ['R', 'P', 'T', 'C'].length = 4 from rfl) (show 8 ≤ 310 by omega)
    obtain ⟨buffer', hcopy⟩ := exists_copyTo buffer 8 (cString payload) (by omega)
    have hlength' := length_copyTo hcopy
    simp only [hpayload, hstart, hcopy, Option.bind_eq_bind, Option.bind_some]
    exact exists_slice (by omega)

end Packets

/-! ## The connection with its buffers -/

/-- The configuration as the connection uses it. -/
def LoadedBM.toBMConfig (P : Printing) (cfg : LoadedBM) : BMConfig where
  gatewayMode := cfg.gatewayMode
  repeaterId := cfg.repeaterId
  password := cfg.password
  configMessage := (configPacket P cfg).getD []
  options := cfg.options
  colorCode := cfg.colorCode.toNat
  timeslot := cfg.slots.timeslot
  slot1 := cfg.slots.slot1
  slot2 := cfg.slots.slot2
  timeslot_valid := cfg.slots.timeslot_valid
  slot1_eq := cfg.slots.slot1_eq
  slot2_eq := cfg.slots.slot2_eq

namespace Buffered

variable {τ : Type} (T : Timers τ) (E : Surroundings) (P : Printing) (cfg : LoadedBM)

/-- Answer the salt. -/
def writeAuthorisation (s : BMNetwork τ) : Option (NetStep τ) :=
  (authorisationPacket E.sha256 cfg s.salt).map fun packet => s.send E packet

/-- Send the configuration. -/
def writeConfig (s : BMNetwork τ) : Option (NetStep τ) :=
  (configPacket P cfg).map fun packet => s.send E packet

/-- Send the options. -/
def writeOptions (s : BMNetwork τ) : Option (NetStep τ) :=
  (optionsPacket cfg).map fun packet => s.send E packet

/-- The next step of the login. -/
def acknowledge (s : BMNetwork τ) : Option (NetStep τ) :=
  match s.status with
  | .WaitingLogin =>
    (writeAuthorisation E cfg { s with salt := (s.buffer.drop 6).take 4 }).map fun r =>
      r.andThen fun s => .idle (s.advance T .WaitingAuthorisation)
  | .WaitingAuthorisation => (writeConfig E P cfg s).map fun r =>
      r.andThen fun s => .idle (s.advance T .WaitingConfig)
  | .WaitingConfig =>
    if cfg.options ≠ [] then (writeOptions E cfg s).map fun r =>
      r.andThen fun s => .idle (s.advance T .WaitingOptions)
    else some (.idle (s.advance T .Running))
  | .WaitingOptions => some (.idle (s.advance T .Running))
  | _ => some (.idle s)

/-- A datagram from the master. Only an acknowledgement lets a writer run. -/
def receiveMaster (length : ℕ) (s : BMNetwork τ) : Option (Bool × NetStep τ) :=
  if s.tagged ['R', 'P', 'T', 'A', 'C', 'K'] then (acknowledge T E P cfg s).map (false, ·)
  else some (s.receiveMaster T E (cfg.toBMConfig P) length)

/-- Receive a datagram. There is no result when a copy leaves its buffer. -/
def receive (bytes : Bytes) (expectedSource : Bool) (s : BMNetwork τ) :
    Option (Bool × NetStep τ) :=
  if bytes.take 512 = [] ∨ expectedSource = false ∨ cfg.gatewayMode then
    some (s.receive T E (cfg.toBMConfig P) bytes expectedSource)
  else receiveMaster T E P cfg (bytes.take 512).length (s.intoBuffer (bytes.take 512))

/-- Repeat what the status waits for. -/
def retry (s : BMNetwork τ) : Option (NetStep τ) :=
  match s.status with
  | .WaitingAuthorisation => writeAuthorisation E cfg s
  | .WaitingConfig => writeConfig E P cfg s
  | .WaitingOptions => writeOptions E cfg s
  | _ => some (s.retry E (cfg.toBMConfig P))

/-- The timers of a connection through a gateway. -/
def clockGatewayTimers (ms : ℕ) (s : BMNetwork τ) : Option (NetStep τ) :=
  if s.status = .Running then some (.idle { s with retryTimer := T.stop s.retryTimer })
  else
    let s := { s with retryTimer := T.clock s.retryTimer ms }
    if T.isRunning s.retryTimer ∧ T.hasExpired s.retryTimer then
      (writeConfig E P cfg s).map fun r =>
        r.andThen fun s => .idle { s with retryTimer := T.start s.retryTimer }
    else some (.idle s)

/-- The retry timer of a connection to the master. -/
def clockRetryTimer (ms : ℕ) (s : BMNetwork τ) : Option (NetStep τ) :=
  let s := { s with retryTimer := T.clock s.retryTimer ms }
  if T.isRunning s.retryTimer ∧ T.hasExpired s.retryTimer then
    (retry E P cfg s).map fun r =>
      r.andThen fun s => .idle { s with retryTimer := T.start s.retryTimer }
  else some (.idle s)

/-- One thing after the other, when the second stays in its buffers. -/
def andThen (r : NetStep τ) (f : BMNetwork τ → Option (NetStep τ)) : Option (NetStep τ) :=
  (f r.state).map fun r' => ⟨r'.state, r.effects ++ r'.effects⟩

/-- The timers of a turn. -/
def clockTimers (ms : ℕ) (s : BMNetwork τ) : Option (NetStep τ) :=
  andThen (s.clockPacketData E ms) fun s =>
    if cfg.gatewayMode then clockGatewayTimers T E P cfg ms s
    else (clockRetryTimer T E P cfg ms s).map fun r =>
      r.andThen (BMNetwork.clockTimeoutTimer T E (cfg.toBMConfig P) ms)

/-- One turn of the connection. -/
def clock (i : BMNetwork.ClockInput) (s : BMNetwork τ) : Option (NetStep τ) :=
  if cfg.gatewayMode = false ∧ s.status = .WaitingConnect then
    some (s.clockWaitingConnect T E (cfg.toBMConfig P) i)
  else match i.socket with
    | .failed => some (s.readFailed T E (cfg.toBMConfig P) i.resolved)
    | .nothing => clockTimers T E P cfg i.ms s
    | .datagram bytes expectedSource =>
      (receive T E P cfg bytes expectedSource s).bind fun r =>
        if r.1 then some r.2 else andThen r.2 (clockTimers T E P cfg i.ms)

/-- A call. The other calls write packets of a known length only. -/
def step (D : Codec) (s : BMNetwork τ) : NetCall → Option (NetStep τ)
  | .clock i => clock T E P cfg i s
  | c => some (s.step T E (cfg.toBMConfig P) D c)

/-- Some calls after each other. -/
def run (D : Codec) (s : BMNetwork τ) : List NetCall → Option (BMNetwork τ)
  | [] => some s
  | c :: cs => (step T E P cfg D s c).bind fun r => run D r.state cs

end Buffered

/-! ## The salt and the receive buffer -/

/-- The salt and the receive buffer have their lengths. -/
def Sized {τ : Type} (s : BMNetwork τ) : Prop := s.salt.length = 4 ∧ s.buffer.length = 512

namespace BMNetwork

variable {τ : Type} (T : Timers τ) (E : Surroundings) (cfg : BMConfig) {s : BMNetwork τ}

theorem openSocket_sized (h : Sized s) (resolved : Bool) :
    Sized (s.openSocket T E cfg resolved).2.state := by
  unfold openSocket
  dsimp only
  split_ifs <;> exact h

theorem close_sized (h : Sized s) : Sized (s.close T E cfg).state := by
  unfold close
  split_ifs <;> exact h

theorem deferReconnect_sized (h : Sized s) : Sized (s.deferReconnect T E cfg).state :=
  close_sized T E cfg h

theorem parseIncomingDMR_sized (h : Sized s) (packet : Bytes) :
    Sized (s.parseIncomingDMR cfg packet) := by
  unfold parseIncomingDMR
  dsimp only
  split_ifs <;> exact h

theorem acknowledge_sized (h : Sized s) : Sized (s.acknowledge T E cfg).state := by
  unfold acknowledge
  split
  · refine ⟨?_, h.2⟩
    show ((s.buffer.drop 6).take 4).length = 4
    rw [List.length_take, List.length_drop, h.2]
    rfl
  · exact h
  · split_ifs <;> exact h
  · exact h
  · exact h

theorem intoBuffer_sized (h : Sized s) (bytes : Bytes) : Sized (s.intoBuffer (bytes.take 512)) := by
  refine ⟨h.1, ?_⟩
  show (bytes.take 512 ++ s.buffer.drop (bytes.take 512).length).length = 512
  rw [List.length_append, List.length_drop, List.length_take, h.2]
  omega

theorem receiveGateway_sized (h : Sized s) (length : ℕ) :
    Sized (s.receiveGateway T cfg length) := by
  unfold receiveGateway
  split_ifs
  · exact parseIncomingDMR_sized cfg h _
  · exact h
  · exact h

theorem receiveMaster_sized (h : Sized s) (length : ℕ) :
    Sized (s.receiveMaster T E cfg length).2.state := by
  unfold receiveMaster
  dsimp only
  split_ifs
  · exact parseIncomingDMR_sized cfg h _
  · exact parseIncomingDMR_sized cfg (s := s.advance T .Running) h _
  · exact h
  · exact acknowledge_sized T E cfg h
  · exact h
  · exact h
  · exact deferReconnect_sized T E cfg h
  · exact h

theorem receive_sized (h : Sized s) (bytes : Bytes) (expectedSource : Bool) :
    Sized (s.receive T E cfg bytes expectedSource).2.state := by
  have hinto := intoBuffer_sized h bytes
  rw [receive_eq]
  split_ifs
  · exact hinto
  · exact receiveGateway_sized T cfg hinto _
  · exact receiveMaster_sized T E cfg hinto _

theorem clockPacketData_sized (h : Sized s) (ms : ℕ) : Sized (s.clockPacketData E ms).state := by
  unfold clockPacketData
  split
  · exact h
  · dsimp only
    split_ifs <;> exact h

theorem retry_sized (h : Sized s) : Sized (s.retry E cfg).state := by
  unfold retry
  split <;> exact h

theorem clockTimers_sized (h : Sized s) (ms : ℕ) : Sized (s.clockTimers T E cfg ms).state := by
  have hs := clockPacketData_sized E h ms
  rw [clockTimers_eq]
  show Sized (clockSessionTimers T E cfg ms (s.clockPacketData E ms).state).state
  generalize (s.clockPacketData E ms).state = s' at hs
  unfold clockSessionTimers
  split_ifs
  · unfold clockGatewayTimers
    dsimp only
    split_ifs <;> exact hs
  · have hretry : Sized (s'.clockRetryTimer T E cfg ms).state := by
      unfold clockRetryTimer
      dsimp only
      split_ifs
      · exact retry_sized E cfg hs
      · exact hs
    show Sized (clockTimeoutTimer T E cfg ms (s'.clockRetryTimer T E cfg ms).state).state
    unfold clockTimeoutTimer
    dsimp only
    split_ifs
    · exact deferReconnect_sized T E cfg hretry
    · exact hretry

theorem clock_sized (h : Sized s) (i : ClockInput) : Sized (s.clock T E cfg i).state := by
  unfold clock
  split_ifs
  · unfold clockWaitingConnect
    dsimp only
    split_ifs
    · exact openSocket_sized T E cfg (s := { s with retryTimer := T.clock s.retryTimer i.ms }) h _
    · exact h
    · exact h
    · exact h
  · split
    · unfold readFailed
      show Sized (NetStep.state (if cfg.gatewayMode then _ else _))
      split_ifs
      · exact openSocket_sized T E cfg (close_sized T E cfg h) _
      · exact close_sized T E cfg h
    · exact clockTimers_sized T E cfg h _
    · rename_i bytes expectedSource _
      have hs := receive_sized T E cfg h bytes expectedSource
      dsimp only
      split_ifs
      · exact hs
      · exact clockTimers_sized T E cfg hs _

theorem receiveMaster_of_acknowledged (h : s.tagged ['R', 'P', 'T', 'A', 'C', 'K'] = true)
    (length : ℕ) : s.receiveMaster T E cfg length = (false, s.acknowledge T E cfg) := by
  have htag : s.buffer.take 6 = ascii ['R', 'P', 'T', 'A', 'C', 'K'] := of_decide_eq_true h
  have hframe : ¬ s.tagged ['D', 'M', 'R', 'D'] = true := by
    intro hframe
    have htake : s.buffer.take 4 = ascii ['D', 'M', 'R', 'D'] := of_decide_eq_true hframe
    have hfour := congrArg (List.take 4) htag
    rw [List.take_take, show min 4 6 = 4 from rfl, htake] at hfour
    exact absurd hfour (by decide)
  have hnak : ¬ s.tagged ['M', 'S', 'T', 'N', 'A', 'K'] = true := by
    intro hnak
    have htake : s.buffer.take 6 = ascii ['M', 'S', 'T', 'N', 'A', 'K'] := of_decide_eq_true hnak
    rw [htake] at htag
    exact absurd htag (by decide)
  unfold receiveMaster
  rw [if_neg hframe, if_neg hnak, if_pos h]

/-- **Every call** keeps the lengths. -/
theorem step_sized (D : Codec) (h : Sized s) (c : NetCall) : Sized (s.step T E cfg D c).state := by
  cases c with
  | openSocket resolved => exact openSocket_sized T E cfg h resolved
  | close => exact close_sized T E cfg h
  | clock i => exact clock_sized T E cfg h i
  | read =>
    show Sized s.read.2
    unfold read
    split_ifs
    · exact h
    · split
      · exact h
      · dsimp only
        split_ifs <;> exact h
  | write data =>
    show Sized (s.write E cfg data).2.state
    unfold write
    dsimp only
    split_ifs <;> exact h
  | writePacketData sourceRid targetRid slotNo ipPacket =>
    show Sized (s.writePacketData E cfg D sourceRid targetRid slotNo ipPacket).2.state
    unfold writePacketData
    dsimp only
    split_ifs <;> exact h

end BMNetwork

/-! ## When everything fits -/

/-- The password and the options fit their buffers. -/
def LoadedBM.fits (cfg : LoadedBM) : Prop :=
  4 + cfg.password.length ≤ 128 ∧ 8 + cfg.options.length ≤ 512

namespace Buffered

variable {τ : Type} (T : Timers τ) {E : Surroundings} (P : Printing) {cfg : LoadedBM}
  {s : BMNetwork τ}

section Fits

variable (hsha : ∀ x, (E.sha256 x).length = 32)

theorem writeConfig_eq (E : Surroundings) (cfg : LoadedBM) (s : BMNetwork τ) :
    writeConfig E P cfg s = some (s.writeConfig E (cfg.toBMConfig P)) := by
  obtain ⟨packet, hpacket⟩ := exists_configPacket cfg P
  unfold writeConfig BMNetwork.writeConfig LoadedBM.toBMConfig
  rw [hpacket]
  rfl

include hsha in
theorem writeAuthorisation_eq (hfits : 4 + cfg.password.length ≤ 128) (h : Sized s) :
    writeAuthorisation E cfg s = some (s.writeAuthorisation E (cfg.toBMConfig P)) := by
  unfold writeAuthorisation
  rw [authorisationPacket_eq cfg hsha h.1, if_pos hfits]
  rfl

theorem writeOptions_eq (hfits : 8 + cfg.options.length ≤ 512) :
    writeOptions E cfg s = some (s.writeOptions E (cfg.toBMConfig P)) := by
  unfold writeOptions
  rw [optionsPacket_eq, if_pos hfits]
  rfl

/-- The session with the salt of an acknowledgement. -/
def salted (s : BMNetwork τ) : BMNetwork τ := { s with salt := (s.buffer.drop 6).take 4 }

theorem salted_sized (h : Sized s) : Sized (salted s) := by
  refine ⟨?_, h.2⟩
  show ((s.buffer.drop 6).take 4).length = 4
  rw [List.length_take, List.length_drop, h.2]
  rfl

section Acknowledged

variable (E cfg s)

theorem acknowledge_login (h : s.status = .WaitingLogin) : acknowledge T E P cfg s =
    (writeAuthorisation E cfg (salted s)).map fun r =>
      r.andThen fun s => .idle (s.advance T .WaitingAuthorisation) := by
  unfold acknowledge salted
  simp only [h]

theorem acknowledge_authorised (h : s.status = .WaitingAuthorisation) : acknowledge T E P cfg s =
    (writeConfig E P cfg s).map fun r => r.andThen fun s => .idle (s.advance T .WaitingConfig) := by
  unfold acknowledge
  simp only [h]

theorem acknowledge_configured (h : s.status = .WaitingConfig) (hoptions : cfg.options ≠ []) :
    acknowledge T E P cfg s = (writeOptions E cfg s).map fun r =>
      r.andThen fun s => .idle (s.advance T .WaitingOptions) := by
  unfold acknowledge
  simp only [h]
  exact if_pos hoptions

end Acknowledged

include hsha in
theorem acknowledge_eq (hfits : cfg.fits) (h : Sized s) :
    acknowledge T E P cfg s = some (s.acknowledge T E (cfg.toBMConfig P)) := by
  have hsalt := salted_sized h
  unfold acknowledge BMNetwork.acknowledge
  cases s.status with
  | WaitingLogin =>
    dsimp only
    rw [writeAuthorisation_eq P hsha hfits.1]
    · rfl
    · exact ⟨hsalt.1, h.2⟩
  | WaitingAuthorisation =>
    dsimp only
    rw [writeConfig_eq P E cfg s]
    rfl
  | WaitingConfig =>
    dsimp only
    rw [writeOptions_eq P hfits.2]
    show (if cfg.options ≠ [] then _ else _) = some (if cfg.options ≠ [] then _ else _)
    split_ifs <;> rfl
  | _ => rfl

include hsha in
theorem retry_eq (hfits : cfg.fits) (h : Sized s) :
    retry E P cfg s = some (s.retry E (cfg.toBMConfig P)) := by
  unfold retry BMNetwork.retry
  cases s.status with
  | WaitingAuthorisation => exact writeAuthorisation_eq P hsha hfits.1 h
  | WaitingConfig => exact writeConfig_eq P E cfg s
  | WaitingOptions => exact writeOptions_eq P hfits.2
  | _ => rfl

end Fits

/-- The gateway is not told the password and the options. -/
def Harmless (cfg : LoadedBM) : Prop := cfg.gatewayMode = true ∨ cfg.fits

variable (hsha : ∀ x, (E.sha256 x).length = 32)

include hsha in
theorem receive_eq (hfits : Harmless cfg) (h : Sized s) (bytes : Bytes) (expectedSource : Bool) :
    receive T E P cfg bytes expectedSource s =
      some (s.receive T E (cfg.toBMConfig P) bytes expectedSource) := by
  unfold receive
  split_ifs with hquiet
  · rfl
  · obtain ⟨hnil, hsource, hdirect⟩ :
        bytes.take 512 ≠ [] ∧ expectedSource ≠ false ∧ ¬ cfg.gatewayMode = true := by
      simpa only [not_or] using hquiet
    have hfits := hfits.resolve_left hdirect
    have hgateway : ¬ (cfg.toBMConfig P).gatewayMode = true := hdirect
    rw [BMNetwork.receive_eq, if_neg (not_or.mpr ⟨hnil, hsource⟩), if_neg hgateway]
    have hinto := BMNetwork.intoBuffer_sized h bytes
    generalize s.intoBuffer (bytes.take 512) = s' at hinto
    unfold receiveMaster
    split_ifs with hack
    · rw [acknowledge_eq T P hsha hfits hinto, BMNetwork.receiveMaster_of_acknowledged T E _ hack]
      rfl
    · rfl

include hsha in
theorem clockTimers_eq (hfits : Harmless cfg) (h : Sized s) (ms : ℕ) :
    clockTimers T E P cfg ms s = some (s.clockTimers T E (cfg.toBMConfig P) ms) := by
  have hs := BMNetwork.clockPacketData_sized E h ms
  have hrest : (if cfg.gatewayMode then clockGatewayTimers T E P cfg ms (s.clockPacketData E ms).state
      else (clockRetryTimer T E P cfg ms (s.clockPacketData E ms).state).map fun r =>
        r.andThen (BMNetwork.clockTimeoutTimer T E (cfg.toBMConfig P) ms)) =
      some ((s.clockPacketData E ms).state.clockSessionTimers T E (cfg.toBMConfig P) ms) := by
    generalize (s.clockPacketData E ms).state = s' at hs
    unfold BMNetwork.clockSessionTimers
    show _ = some (if cfg.gatewayMode then _ else _)
    split_ifs with hgateway
    · unfold clockGatewayTimers BMNetwork.clockGatewayTimers
      simp only [writeConfig_eq]
      split_ifs <;> rfl
    · have hfits := hfits.resolve_left hgateway
      unfold clockRetryTimer BMNetwork.clockRetryTimer
      dsimp only
      rw [retry_eq P hsha hfits]
      · split_ifs <;> rfl
      · exact hs
  unfold clockTimers andThen
  dsimp only
  rw [hrest]
  rfl

include hsha in
theorem clock_eq (hfits : Harmless cfg) (h : Sized s) (i : BMNetwork.ClockInput) :
    clock T E P cfg i s = some (s.clock T E (cfg.toBMConfig P) i) := by
  unfold clock BMNetwork.clock
  show _ = some (if cfg.gatewayMode = false ∧ s.status = .WaitingConnect then _ else _)
  split_ifs
  · rfl
  · cases i.socket with
    | failed => rfl
    | nothing => exact clockTimers_eq T P hsha hfits h i.ms
    | datagram bytes expectedSource =>
      dsimp only
      have hs := BMNetwork.receive_sized T E (cfg.toBMConfig P) h bytes expectedSource
      rw [receive_eq T P hsha hfits h, Option.bind_some]
      split_ifs
      · rfl
      · unfold andThen
        rw [clockTimers_eq T P hsha hfits hs]
        rfl

include hsha in
/-- **The connection stays in its buffers** and does what it would do without them. -/
theorem step_eq (hfits : Harmless cfg) (D : Codec) (h : Sized s) (c : NetCall) :
    step T E P cfg D s c = some (s.step T E (cfg.toBMConfig P) D c) := by
  cases c with
  | clock i => exact clock_eq T P hsha hfits h i
  | _ => rfl

include hsha in
theorem run_eq (hfits : Harmless cfg) (D : Codec) (calls : List NetCall) (h : Sized s) :
    run T E P cfg D s calls =
      some (calls.foldl (fun s c => (s.step T E (cfg.toBMConfig P) D c).state) s) := by
  induction calls generalizing s with
  | nil => rfl
  | cons c calls ih =>
    unfold run
    rw [step_eq T P hsha hfits D h, Option.bind_some,
      ih (BMNetwork.step_sized T E (cfg.toBMConfig P) D h c)]
    rfl

end Buffered

/-! ## When something does not fit -/

/-- Timers that never run. -/
def stillTimers : Timers Unit := ⟨id, id, fun t _ => t, fun _ => false, fun _ => false⟩

/-- Every write succeeds. -/
def plainSurroundings : Surroundings :=
  ⟨fun _ => true, fun n => UInt32.ofNat (n + 1), fun _ => List.replicate 32 0⟩

/-- An acknowledgement with a salt. -/
def acknowledgementBytes : Bytes := ascii ['R', 'P', 'T', 'A', 'C', 'K', '1', '2', '3', '4']

/-- A turn that receives the acknowledgement of the login. -/
def acknowledgement : NetCall := .clock ⟨5, .datagram acknowledgementBytes true, true⟩

namespace Buffered

variable {P : Printing} {cfg : LoadedBM} {s : BMNetwork Unit} (D : Codec)

theorem clockTimers_still (hdirect : cfg.gatewayMode = false) (hqueue : s.packetDataTxQueue = [])
    (ms : ℕ) : clockTimers stillTimers plainSurroundings P cfg ms s = some ⟨s, []⟩ := by
  have hidle : s.clockPacketData plainSurroundings ms = .idle s := by
    unfold BMNetwork.clockPacketData
    rw [hqueue]
  unfold clockTimers
  rw [hidle, hdirect]
  rfl

theorem step_acknowledgement (hdirect : cfg.gatewayMode = false)
    (hstatus : s.status ≠ .WaitingConnect) :
    step stillTimers plainSurroundings P cfg D s acknowledgement =
      (acknowledge stillTimers plainSurroundings P cfg
        (s.intoBuffer acknowledgementBytes)).bind
          fun r => andThen r (clockTimers stillTimers plainSurroundings P cfg 5) := by
  show clock stillTimers plainSurroundings P cfg _ s = _
  unfold clock
  rw [if_neg fun h => hstatus h.2]
  dsimp only
  have hreceive : receive stillTimers plainSurroundings P cfg
      acknowledgementBytes true s =
      (acknowledge stillTimers plainSurroundings P cfg
        (s.intoBuffer acknowledgementBytes)).map
          (false, ·) := by
    unfold receive
    rw [if_neg]
    · unfold receiveMaster
      exact if_pos rfl
    · rintro (h | h | h)
      · exact absurd h (by decide)
      · exact absurd h (by decide)
      · rw [hdirect] at h
        exact absurd h (by decide)
  rw [hreceive, Option.bind_map]
  rfl

/-- Nothing is queued while the connection waits for the master. -/
structure Waits (status : Status) (s : BMNetwork Unit) : Prop where
  status : s.status = status
  queue : s.packetDataTxQueue = []
  sized : Sized s

theorem step_of_acknowledge (hdirect : cfg.gatewayMode = false)
    (hstatus : s.status ≠ .WaitingConnect) {status : Status} {r : NetStep Unit}
    (hr : acknowledge stillTimers plainSurroundings P cfg
      (s.intoBuffer acknowledgementBytes) = some r)
    (h : Waits status r.state) :
    ∃ r', step stillTimers plainSurroundings P cfg D s acknowledgement = some r' ∧
      Waits status r'.state := by
  refine ⟨⟨r.state, r.effects ++ []⟩, ?_, h⟩
  rw [step_acknowledgement D hdirect hstatus, hr, Option.bind_some]
  unfold andThen
  rw [clockTimers_still hdirect h.queue]
  rfl

theorem length_sha256 (x : Bytes) : (plainSurroundings.sha256 x).length = 32 :=
  List.length_replicate

theorem acknowledged_sized (h : Sized s) : Sized (s.intoBuffer acknowledgementBytes) :=
  BMNetwork.intoBuffer_sized h acknowledgementBytes

theorem authorisation_sent (hdirect : cfg.gatewayMode = false) (h : Waits .WaitingLogin s)
    (hfits : 4 + cfg.password.length ≤ 128) :
    ∃ r, step stillTimers plainSurroundings P cfg D s acknowledgement = some r ∧
      Waits .WaitingAuthorisation r.state := by
  have hsized := salted_sized (acknowledged_sized h.sized)
  have hstatus : s.status ≠ .WaitingConnect := by
    rw [h.status]
    decide
  have hack := acknowledge_login stillTimers plainSurroundings P cfg
    (s.intoBuffer acknowledgementBytes) h.status
  rw [writeAuthorisation_eq P length_sha256 hfits hsized, Option.map_some] at hack
  exact step_of_acknowledge D hdirect hstatus hack ⟨rfl, h.queue, hsized⟩

/-- The copy of a password that does not fit leaves the buffer. -/
theorem authorisation_overruns (hdirect : cfg.gatewayMode = false) (h : Waits .WaitingLogin s)
    (hfits : ¬ 4 + cfg.password.length ≤ 128) :
    step stillTimers plainSurroundings P cfg D s acknowledgement = none := by
  have hsized := salted_sized (acknowledged_sized h.sized)
  have hstatus : s.status ≠ .WaitingConnect := by
    rw [h.status]
    decide
  have hack := acknowledge_login stillTimers plainSurroundings P cfg
    (s.intoBuffer acknowledgementBytes) h.status
  unfold writeAuthorisation at hack
  rw [authorisationPacket_eq cfg length_sha256 hsized.1, if_neg hfits] at hack
  rw [step_acknowledgement D hdirect hstatus, hack]
  rfl

theorem config_sent (hdirect : cfg.gatewayMode = false) (h : Waits .WaitingAuthorisation s) :
    ∃ r, step stillTimers plainSurroundings P cfg D s acknowledgement = some r ∧
      Waits .WaitingConfig r.state := by
  have hsized := acknowledged_sized h.sized
  have hstatus : s.status ≠ .WaitingConnect := by
    rw [h.status]
    decide
  have hack := acknowledge_authorised stillTimers plainSurroundings P cfg
    (s.intoBuffer acknowledgementBytes) h.status
  rw [writeConfig_eq, Option.map_some] at hack
  exact step_of_acknowledge D hdirect hstatus hack ⟨rfl, h.queue, hsized⟩

/-- The copy of options that do not fit leaves the buffer. -/
theorem options_overrun (hdirect : cfg.gatewayMode = false) (h : Waits .WaitingConfig s)
    (hfits : ¬ 8 + cfg.options.length ≤ 512) :
    step stillTimers plainSurroundings P cfg D s acknowledgement = none := by
  have hsome : cfg.options ≠ [] := by
    intro hnil
    rw [hnil] at hfits
    exact hfits (by decide)
  have hstatus : s.status ≠ .WaitingConnect := by
    rw [h.status]
    decide
  have hack := acknowledge_configured stillTimers plainSurroundings P cfg
    (s.intoBuffer acknowledgementBytes) h.status hsome
  unfold writeOptions at hack
  rw [optionsPacket_eq, if_neg hfits] at hack
  rw [step_acknowledgement D hdirect hstatus, hack]
  rfl

theorem login_sent (hdirect : cfg.gatewayMode = false) (streamId : ℕ → UInt32) :
    ∃ r, step stillTimers plainSurroundings P cfg D (.create streamId () () ()) (.openSocket true) =
      some r ∧ Waits .WaitingLogin r.state := by
  refine ⟨_, rfl, ?_⟩
  have hconfig : ¬ (true = false ∨ (cfg.toBMConfig P).gatewayMode = true) := by
    rintro (h | h)
    · exact absurd h (by decide)
    · rw [show (cfg.toBMConfig P).gatewayMode = false from hdirect] at h
      exact absurd h (by decide)
  show Waits .WaitingLogin (BMNetwork.openSocket stillTimers plainSurroundings (cfg.toBMConfig P) true
    (.create streamId () () ())).2.state
  unfold BMNetwork.openSocket
  dsimp only
  rw [if_neg hconfig]
  exact ⟨rfl, rfl, rfl, List.length_replicate⟩

/-- **A run that leaves a buffer**, when the password or the options do not fit. -/
theorem exists_overrun (hdirect : cfg.gatewayMode = false) (hfits : ¬ cfg.fits)
    (streamId : ℕ → UInt32) : ∃ calls, run stillTimers plainSurroundings P cfg D
      (.create streamId () () ()) calls = none := by
  obtain ⟨r, hopen, hlogin⟩ := login_sent (P := P) D hdirect streamId
  by_cases hpassword : 4 + cfg.password.length ≤ 128
  · have hoptions : ¬ 8 + cfg.options.length ≤ 512 := fun h => hfits ⟨hpassword, h⟩
    obtain ⟨r', hauthorisation, hr'⟩ := authorisation_sent (P := P) D hdirect hlogin hpassword
    obtain ⟨r'', hconfig, hr''⟩ := config_sent (P := P) D hdirect hr'
    refine ⟨[.openSocket true, acknowledgement, acknowledgement, acknowledgement], ?_⟩
    simp only [run, hopen, hauthorisation, hconfig, Option.bind_some,
      options_overrun (P := P) D hdirect hr'' hoptions]
    rfl
  · refine ⟨[.openSocket true, acknowledgement], ?_⟩
    simp only [run, hopen, Option.bind_some, authorisation_overruns (P := P) D hdirect hlogin hpassword]
    rfl

/-- **No run leaves a buffer** exactly when the connection is one to the gateway, or the password and
the options fit. The description of the repeater always does. -/
theorem run_isSome_iff (cfg : LoadedBM) :
    (∀ (τ : Type) (T : Timers τ) (E : Surroundings) (P : Printing) (D : Codec)
      (retryTimer timeoutTimer beaconTimer : τ) (calls : List NetCall),
      (∀ x, (E.sha256 x).length = 32) →
      (run T E P cfg D (.create E.streamId retryTimer timeoutTimer beaconTimer) calls).isSome) ↔
    cfg.gatewayMode = true ∨ 4 + cfg.password.length ≤ 128 ∧ 8 + cfg.options.length ≤ 512 := by
  constructor
  · intro h
    by_contra hharmless
    obtain ⟨hgateway, hfits⟩ := not_or.mp hharmless
    let P : Printing := ⟨id, id, fun _ => 0⟩
    obtain ⟨calls, hnone⟩ := exists_overrun (P := P) plainCodec (eq_false_of_ne_true hgateway) hfits
      plainSurroundings.streamId
    have hsome := h Unit stillTimers plainSurroundings P plainCodec () () () calls length_sha256
    rw [hnone] at hsome
    exact absurd hsome (by decide)
  · intro hharmless τ T E P D retryTimer timeoutTimer beaconTimer calls hsha
    have hsized : Sized (.create E.streamId retryTimer timeoutTimer beaconTimer : BMNetwork τ) :=
      ⟨rfl, List.length_replicate⟩
    rw [run_eq T P hsha hharmless D calls hsized]
    rfl

/-- A section with a password of 128 letters. -/
def longPassword : BmSection where
  repeaterId := none
  password := some (List.replicate 128 0x61)
  transport := none
  callsign := none
  rxFrequency := none
  txFrequency := none
  power := none
  colorCode := none
  latitude := none
  longitude := none
  height := none
  location := none
  description := none
  url := none
  softwareId := none
  packageId := none
  slot1 := none
  slot2 := none
  timeslot := some 2
  options := none

/-- The dashboard accepts a password that does not fit. -/
theorem not_run_isSome :
    ¬ ∀ (bm : BmSection) (cfg : LoadedBM), loadBm bm = .ok cfg →
      Dashboard.validatePassword (F := ℕ) (O := ℕ) (.str (Bytes.nats cfg.password)) =
        .ok (Bytes.nats cfg.password) →
      ∀ (τ : Type) (T : Timers τ) (E : Surroundings) (P : Printing) (D : Codec)
        (retryTimer timeoutTimer beaconTimer : τ) (calls : List NetCall),
        (∀ x, (E.sha256 x).length = 32) →
        (run T E P cfg D (.create E.streamId retryTimer timeoutTimer beaconTimer) calls).isSome := by
  intro h
  obtain ⟨cfg, hload, hpassword, hgateway⟩ : ∃ cfg, loadBm longPassword = .ok cfg ∧
      cfg.password = List.replicate 128 0x61 ∧ cfg.gatewayMode = false :=
    ⟨_, rfl, rfl, by decide +kernel⟩
  have haccepted : Dashboard.validatePassword (F := ℕ) (O := ℕ) (.str (Bytes.nats cfg.password)) =
      .ok (Bytes.nats cfg.password) := by
    have hallowed : (Bytes.nats cfg.password).length ≤ 128 ∧
        ¬ (Bytes.nats cfg.password).any (fun c => c = 13 ∨ c = 10 ∨ c = 0) = true := by
      rw [hpassword]
      decide +kernel
    unfold Dashboard.validatePassword Dashboard.require
    simp only [if_pos hallowed]
    rfl
  have hlong : ¬ cfg.fits := by
    rintro ⟨hle, -⟩
    rw [hpassword, List.length_replicate] at hle
    omega
  let P : Printing := ⟨id, id, fun _ => 0⟩
  obtain ⟨calls, hnone⟩ := exists_overrun (P := P) plainCodec hgateway hlong
    plainSurroundings.streamId
  have hsome := h longPassword cfg hload haccepted Unit stillTimers plainSurroundings P plainCodec
    () () () calls length_sha256
  rw [hnone] at hsome
  exact absurd hsome (by decide)

end Buffered

end Brandmeister
