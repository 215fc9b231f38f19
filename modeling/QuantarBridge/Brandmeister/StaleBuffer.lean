import QuantarBridge.Brandmeister.Session
import QuantarBridge.Lib.Run

/-!
# What is left in the receive buffer

Datagrams are received into one buffer, and a shorter one leaves the end of a longer one behind it. The
tag of a datagram is compared in the buffer, whatever its length is, and so is the salt of an
acknowledgement taken from the buffer. A datagram that is cut off within its tag or its salt is
continued by the one before it.

* `Blind`: a part of a turn that does not look at the buffer;
* `OwnTag`, `Whole`: a datagram that is not cut off within a tag or the salt;
* `clock_agree`: **a whole datagram** is understood by its own bytes;
* `runs_agree`: two runs of whole datagrams do the same;
* `clock_agree_iff`: **exactly the whole datagrams** are.
-/

set_option autoImplicit false

namespace Brandmeister

open Dmr Lib PacketData

variable {τ : Type}

/-- Another content of the receive buffer. -/
def BMNetwork.withBuffer (buffer : Bytes) (s : BMNetwork τ) : BMNetwork τ :=
  { s with buffer := buffer }

/-- The step with another content of the buffer. -/
def NetStep.withBuffer (buffer : Bytes) (r : NetStep τ) : NetStep τ :=
  ⟨r.state.withBuffer buffer, r.effects⟩

/-- The same effects and the same state, but for the receive buffer. -/
structure Agree (r r' : NetStep τ) : Prop where
  state : r.state.withBuffer [] = r'.state.withBuffer []
  effects : r.effects = r'.effects

/-- A part of a turn that does not look at the receive buffer. -/
def Blind (f : BMNetwork τ → NetStep τ) : Prop :=
  ∀ buffer s, f (s.withBuffer buffer) = (f s).withBuffer buffer

theorem Blind.andThen {f g : BMNetwork τ → NetStep τ} (hf : Blind f) (hg : Blind g) :
    Blind fun s => (f s).andThen g := by
  intro buffer s
  show NetStep.andThen (f (s.withBuffer buffer)) g = _
  rw [hf buffer s]
  show NetStep.mk (g ((f s).state.withBuffer buffer)).state
    ((f s).effects ++ (g ((f s).state.withBuffer buffer)).effects) = _
  rw [hg buffer]
  rfl

theorem Blind.agree {f : BMNetwork τ → NetStep τ} (hf : Blind f) {s s' : BMNetwork τ}
    (h : s.withBuffer [] = s'.withBuffer []) : Agree (f s) (f s') := by
  have heq : (f s).withBuffer [] = (f s').withBuffer [] := by
    rw [← hf [] s, ← hf [] s', h]
  exact ⟨(NetStep.mk.inj heq).1, (NetStep.mk.inj heq).2⟩

theorem Agree.andThen {r r' : NetStep τ} (h : Agree r r') {f : BMNetwork τ → NetStep τ}
    (hf : Blind f) : Agree (r.andThen f) (r'.andThen f) := by
  obtain ⟨hstate, heffects⟩ := hf.agree h.state
  refine ⟨hstate, ?_⟩
  show r.effects ++ (f r.state).effects = r'.effects ++ (f r'.state).effects
  rw [h.effects, heffects]

namespace BMNetwork

variable (T : Timers τ) (E : Surroundings) (cfg : BMConfig)

/-! ## The parts of a turn -/

theorem openSocket_blind (resolved : Bool) :
    Blind fun s : BMNetwork τ => (s.openSocket T E cfg resolved).2 := by
  intro buffer s
  unfold openSocket writeLogin writePacket
  dsimp only [withBuffer]
  split_ifs <;> rfl

theorem close_blind : Blind fun s : BMNetwork τ => s.close T E cfg := by
  intro buffer s
  unfold close
  dsimp only [withBuffer]
  split_ifs <;> rfl

theorem deferReconnect_blind : Blind fun s : BMNetwork τ => s.deferReconnect T E cfg :=
  (close_blind T E cfg).andThen fun _ _ => rfl

theorem clockPacketData_blind (ms : ℕ) : Blind fun s : BMNetwork τ => s.clockPacketData E ms := by
  rintro buffer ⟨_, _, _, _, _, _, _, queue, _, _, _, _, _, _⟩
  cases queue with
  | nil => rfl
  | cons packet rest =>
    unfold clockPacketData writePacket isConnected
    dsimp only [withBuffer]
    split_ifs <;> rfl

theorem retry_blind : Blind fun s : BMNetwork τ => s.retry E cfg := by
  rintro buffer ⟨_, status, _, _, _, _, _, _, _, _, _, _, _, _⟩
  cases status <;> rfl

theorem clockGatewayTimers_blind (ms : ℕ) :
    Blind fun s : BMNetwork τ => s.clockGatewayTimers T E cfg ms := by
  intro buffer s
  unfold clockGatewayTimers
  dsimp only [withBuffer]
  split_ifs <;> rfl

theorem clockRetryTimer_blind (ms : ℕ) :
    Blind fun s : BMNetwork τ => s.clockRetryTimer T E cfg ms := by
  intro buffer s
  have hretry := retry_blind E cfg buffer { s with retryTimer := T.clock s.retryTimer ms }
  unfold clockRetryTimer
  dsimp only [withBuffer] at hretry ⊢
  split_ifs
  · rw [hretry]
    rfl
  · rfl

theorem clockTimeoutTimer_blind (ms : ℕ) :
    Blind fun s : BMNetwork τ => s.clockTimeoutTimer T E cfg ms := by
  intro buffer s
  have hdefer := deferReconnect_blind T E cfg buffer { s with timeoutTimer := T.clock s.timeoutTimer ms }
  unfold clockTimeoutTimer
  dsimp only [withBuffer] at hdefer ⊢
  split_ifs
  · exact hdefer
  · rfl

theorem clockTimers_blind (ms : ℕ) : Blind fun s : BMNetwork τ => s.clockTimers T E cfg ms := by
  refine (clockPacketData_blind E ms).andThen ?_
  by_cases hgateway : cfg.gatewayMode = true
  · simp only [if_pos hgateway]
    exact clockGatewayTimers_blind T E cfg ms
  · simp only [if_neg hgateway]
    exact (clockRetryTimer_blind T E cfg ms).andThen (clockTimeoutTimer_blind T E cfg ms)

theorem clockWaitingConnect_blind (i : ClockInput) :
    Blind fun s : BMNetwork τ => s.clockWaitingConnect T E cfg i := by
  intro buffer s
  have hopen := openSocket_blind T E cfg i.resolved buffer
    { s with retryTimer := T.clock s.retryTimer i.ms }
  unfold clockWaitingConnect
  dsimp only [withBuffer, writeLogin, writePacket] at hopen ⊢
  split_ifs
  · exact hopen
  all_goals rfl

theorem readFailed_blind (resolved : Bool) :
    Blind fun s : BMNetwork τ => s.readFailed T E cfg resolved := by
  refine (close_blind T E cfg).andThen ?_
  by_cases hgateway : cfg.gatewayMode = true
  · simp only [if_pos hgateway]
    exact openSocket_blind T E cfg resolved
  · simp only [if_neg hgateway]
    exact fun _ _ => rfl

/-! ## Tags -/

theorem tagged_iff (s : BMNetwork τ) (tag : List Char) :
    s.tagged tag = true ↔ ascii tag <+: s.buffer := by
  have hlength : (ascii tag).length = tag.length := List.length_map _
  unfold tagged
  rw [decide_eq_true_iff, List.prefix_iff_eq_take, hlength, eq_comm]

theorem tagged_unique {s : BMNetwork τ} {tag tag' : List Char} (h : s.tagged tag = true)
    (h' : s.tagged tag' = true) : ascii tag <+: ascii tag' ∨ ascii tag' <+: ascii tag :=
  List.prefix_or_prefix_of_prefix ((tagged_iff s tag).mp h) ((tagged_iff s tag').mp h')

theorem not_tagged {s : BMNetwork τ} {tag tag' : List Char} (h : s.tagged tag = true)
    (hne : ¬ (ascii tag <+: ascii tag' ∨ ascii tag' <+: ascii tag)) : ¬ s.tagged tag' = true :=
  fun h' => hne (tagged_unique h h')

end BMNetwork

/-- The tags that do something. -/
def masterTags : List (List Char) :=
  [['D', 'M', 'R', 'D'], ['M', 'S', 'T', 'N', 'A', 'K'], ['R', 'P', 'T', 'A', 'C', 'K'],
    ['M', 'S', 'T', 'P', 'O', 'N', 'G'], ['M', 'S', 'T', 'C', 'L']]

/-- The datagram is not cut off within the tag. -/
def OwnTag (received : Bytes) (tag : List Char) : Prop :=
  tag.length ≤ received.length ∨ ¬ received <+: ascii tag

instance (received : Bytes) (tag : List Char) : Decidable (OwnTag received tag) :=
  inferInstanceAs (Decidable (_ ∨ _))

/-- The datagram is not cut off within a tag that does something, nor within the salt. -/
def Whole (cfg : BMConfig) (received : Bytes) : Prop :=
  if cfg.gatewayMode then OwnTag received ['D', 'M', 'R', 'P']
  else (∀ tag ∈ masterTags, OwnTag received tag) ∧
    (ascii ['R', 'P', 'T', 'A', 'C', 'K'] <+: received → 10 ≤ received.length)

namespace BMNetwork

variable (T : Timers τ) (E : Surroundings) (cfg : BMConfig)

/-- **A tag that is not cut off** is in the datagram or not, whatever stands behind it. -/
theorem tagged_withBuffer {received : Bytes} {tag : List Char} (h : OwnTag received tag)
    (s : BMNetwork τ) (rest : Bytes) :
    (s.withBuffer (received ++ rest)).tagged tag = decide (ascii tag <+: received) := by
  have hlength : (ascii tag).length = tag.length := List.length_map _
  rw [Bool.eq_iff_iff, tagged_iff, decide_eq_true_iff]
  show ascii tag <+: received ++ rest ↔ _
  constructor
  · intro htag
    rcases h with hle | hnot
    · exact List.prefix_of_prefix_length_le htag (List.prefix_append _ _) (by omega)
    · rcases List.prefix_or_prefix_of_prefix htag (List.prefix_append received rest) with hp | hp
      · exact hp
      · exact absurd hp hnot
  · exact fun htag => htag.trans (List.prefix_append _ _)

theorem parseIncomingDMR_withBuffer (packet buffer : Bytes) (s : BMNetwork τ) :
    (s.withBuffer buffer).parseIncomingDMR cfg packet =
      (s.parseIncomingDMR cfg packet).withBuffer buffer := by
  unfold parseIncomingDMR
  dsimp only
  by_cases hskip : packet.length < kHomebrewPacketLength ∨
      (if packet.getD 15 0 &&& 0x80 ≠ 0 then 2 else 1) ≠ cfg.timeslot
  · rw [if_pos hskip, if_pos hskip]
  · rw [if_neg hskip, if_neg hskip]
    rfl

theorem acknowledge_agree {received : Bytes} (h : 10 ≤ received.length) (s : BMNetwork τ)
    (rest rest' : Bytes) : Agree ((s.withBuffer (received ++ rest)).acknowledge T E cfg)
      ((s.withBuffer (received ++ rest')).acknowledge T E cfg) := by
  have hsalt : ∀ rest : Bytes, ((received ++ rest).drop 6).take 4 = (received.drop 6).take 4 := by
    intro rest
    rw [List.drop_append_of_le_length (by omega), List.take_append_of_le_length]
    rw [List.length_drop]
    omega
  obtain ⟨_, status, _, _, _, _, _, _, _, _, _, _, _, _⟩ := s
  cases status with
  | WaitingLogin =>
    unfold acknowledge
    dsimp only [withBuffer]
    rw [hsalt rest, hsalt rest']
    exact ⟨rfl, rfl⟩
  | WaitingConfig =>
    unfold acknowledge
    dsimp only [withBuffer]
    split_ifs <;> exact ⟨rfl, rfl⟩
  | _ => exact ⟨rfl, rfl⟩

theorem frame_withBuffer (received : Bytes) (s : BMNetwork τ) (rest : Bytes) :
    (parseIncomingDMR cfg
      ((if (s.withBuffer (received ++ rest)).status = Status.Running then s.withBuffer (received ++ rest)
        else (s.withBuffer (received ++ rest)).advance T Status.Running).buffer.take received.length)
      (if (s.withBuffer (received ++ rest)).status = Status.Running then s.withBuffer (received ++ rest)
        else (s.withBuffer (received ++ rest)).advance T Status.Running)).withBuffer [] =
    (parseIncomingDMR cfg received
      (if s.status = Status.Running then s else s.advance T Status.Running)).withBuffer [] := by
  have htake : (received ++ rest).take received.length = received := List.take_left
  have hstatus : (s.withBuffer (received ++ rest)).status = s.status := rfl
  by_cases hrunning : s.status = Status.Running
  · rw [if_pos (hstatus.trans hrunning), if_pos hrunning]
    show (parseIncomingDMR cfg ((received ++ rest).take received.length) _).withBuffer [] = _
    rw [htake, parseIncomingDMR_withBuffer]
    rfl
  · rw [if_neg (by rwa [hstatus]), if_neg hrunning]
    show (parseIncomingDMR cfg ((received ++ rest).take received.length)
      ((s.advance T Status.Running).withBuffer (received ++ rest))).withBuffer [] = _
    rw [htake, parseIncomingDMR_withBuffer]
    rfl

theorem receiveMaster_agree {received : Bytes} (htags : ∀ tag ∈ masterTags, OwnTag received tag)
    (hsalt : ascii ['R', 'P', 'T', 'A', 'C', 'K'] <+: received → 10 ≤ received.length)
    (s : BMNetwork τ) (rest rest' : Bytes) :
    ((s.withBuffer (received ++ rest)).receiveMaster T E cfg received.length).1 =
      ((s.withBuffer (received ++ rest')).receiveMaster T E cfg received.length).1 ∧
    Agree ((s.withBuffer (received ++ rest)).receiveMaster T E cfg received.length).2
      ((s.withBuffer (received ++ rest')).receiveMaster T E cfg received.length).2 := by
  have htag : ∀ tag ∈ masterTags, (s.withBuffer (received ++ rest)).tagged tag =
      (s.withBuffer (received ++ rest')).tagged tag := by
    intro tag hmem
    rw [tagged_withBuffer (htags tag hmem), tagged_withBuffer (htags tag hmem)]
  have hbeacon : ∀ rest, (s.withBuffer (received ++ rest)).tagged ['R', 'P', 'T', 'S', 'B', 'K', 'N'] =
      true → ¬ (s.withBuffer (received ++ rest)).tagged ['M', 'S', 'T', 'C', 'L'] = true := by
    intro rest h h'
    exact absurd (tagged_unique h h') (by decide)
  unfold receiveMaster
  by_cases hframe : (s.withBuffer (received ++ rest')).tagged ['D', 'M', 'R', 'D'] = true
  · rw [htag _ (by decide), if_pos hframe, if_pos hframe]
    exact ⟨rfl, (frame_withBuffer T cfg received s rest).trans
      (frame_withBuffer T cfg received s rest').symm, rfl⟩
  rw [htag _ (by decide), if_neg hframe, if_neg hframe]
  by_cases hnak : (s.withBuffer (received ++ rest')).tagged ['M', 'S', 'T', 'N', 'A', 'K'] = true
  · rw [htag _ (by decide), if_pos hnak, if_pos hnak]
    exact ⟨rfl, rfl, rfl⟩
  rw [htag _ (by decide), if_neg hnak, if_neg hnak]
  by_cases hack : (s.withBuffer (received ++ rest')).tagged ['R', 'P', 'T', 'A', 'C', 'K'] = true
  · rw [htag _ (by decide), if_pos hack, if_pos hack]
    rw [tagged_withBuffer (htags _ (by decide)), decide_eq_true_iff] at hack
    exact ⟨rfl, acknowledge_agree T E cfg (hsalt hack) s rest rest'⟩
  rw [htag _ (by decide), if_neg hack, if_neg hack]
  by_cases hpong : (s.withBuffer (received ++ rest')).tagged ['M', 'S', 'T', 'P', 'O', 'N', 'G'] = true
  · rw [htag _ (by decide), if_pos hpong, if_pos hpong]
    exact ⟨rfl, rfl, rfl⟩
  rw [htag _ (by decide), if_neg hpong, if_neg hpong]
  -- The request of a beacon does nothing, so it may be cut off.
  by_cases hclose : (s.withBuffer (received ++ rest')).tagged ['M', 'S', 'T', 'C', 'L'] = true
  · have hclose' := (htag ['M', 'S', 'T', 'C', 'L'] (by decide)).trans hclose
    rw [if_neg fun h => hbeacon rest h hclose', if_pos hclose',
      if_neg fun h => hbeacon rest' h hclose, if_pos hclose]
    exact ⟨rfl, (deferReconnect_blind T E cfg).agree rfl⟩
  · rw [htag ['M', 'S', 'T', 'C', 'L'] (by decide), if_neg hclose, ite_self,
      if_neg hclose, ite_self]
    exact ⟨rfl, rfl, rfl⟩

/-- A datagram that is cut off within the tag of a frame is cut off within that of a reply. -/
theorem ownTag_frame {received : Bytes} (h : OwnTag received ['D', 'M', 'R', 'P']) :
    OwnTag received ['D', 'M', 'R', 'D'] := by
  by_cases hlength : 4 ≤ received.length
  · exact Or.inl hlength
  · refine Or.inr fun hstarts => ?_
    have hshort : received <+: ascii ['D', 'M', 'R'] :=
      List.prefix_of_prefix_length_le hstarts ⟨ascii ['D'], rfl⟩ (by show _ ≤ 3; omega)
    exact h.elim hlength fun hnot => hnot (hshort.trans ⟨ascii ['P'], rfl⟩)

theorem receiveGateway_agree {received : Bytes} (htag : OwnTag received ['D', 'M', 'R', 'P'])
    (s : BMNetwork τ) (rest rest' : Bytes) :
    ((s.withBuffer (received ++ rest)).receiveGateway T cfg received.length).withBuffer [] =
      ((s.withBuffer (received ++ rest')).receiveGateway T cfg received.length).withBuffer [] := by
  have htake : ∀ rest : Bytes, (s.withBuffer (received ++ rest)).buffer.take received.length =
      received := fun rest => List.take_left
  unfold receiveGateway
  rw [tagged_withBuffer htag, tagged_withBuffer htag, tagged_withBuffer (ownTag_frame htag),
    tagged_withBuffer (ownTag_frame htag), htake, htake]
  split_ifs
  · rw [parseIncomingDMR_withBuffer, parseIncomingDMR_withBuffer]
    rfl
  · rfl
  · rfl

/-- **A whole datagram** is received the same way, whatever was in the buffer. -/
theorem receive_agree {bytes : Bytes} {expectedSource : Bool}
    (h : bytes.take 512 = [] ∨ expectedSource = false ∨ Whole cfg (bytes.take 512))
    (s : BMNetwork τ) (buffer buffer' : Bytes) :
    ((s.withBuffer buffer).receive T E cfg bytes expectedSource).1 =
      ((s.withBuffer buffer').receive T E cfg bytes expectedSource).1 ∧
    Agree ((s.withBuffer buffer).receive T E cfg bytes expectedSource).2
      ((s.withBuffer buffer').receive T E cfg bytes expectedSource).2 := by
  rw [receive_eq, receive_eq]
  by_cases hquiet : bytes.take 512 = [] ∨ expectedSource = false
  · rw [if_pos hquiet, if_pos hquiet]
    exact ⟨rfl, rfl, rfl⟩
  rw [if_neg hquiet, if_neg hquiet]
  obtain ⟨hsome, hsource⟩ := not_or.mp hquiet
  have hwhole := (h.resolve_left hsome).resolve_left hsource
  unfold Whole at hwhole
  by_cases hgateway : cfg.gatewayMode = true
  · rw [if_pos hgateway] at hwhole
    rw [if_pos hgateway, if_pos hgateway]
    exact ⟨rfl, receiveGateway_agree T cfg hwhole s _ _, rfl⟩
  · rw [if_neg hgateway] at hwhole
    rw [if_neg hgateway, if_neg hgateway]
    exact receiveMaster_agree T E cfg hwhole.1 hwhole.2 s _ _

/-- **A turn with a whole datagram** does not look at what was in the buffer. -/
theorem clock_agree {bytes : Bytes} {expectedSource : Bool}
    (h : bytes.take 512 = [] ∨ expectedSource = false ∨ Whole cfg (bytes.take 512)) (ms : ℕ)
    (resolved : Bool) (s : BMNetwork τ) (buffer buffer' : Bytes) :
    Agree ((s.withBuffer buffer).clock T E cfg ⟨ms, .datagram bytes expectedSource, resolved⟩)
      ((s.withBuffer buffer').clock T E cfg ⟨ms, .datagram bytes expectedSource, resolved⟩) := by
  have hstatus : ∀ buffer, (s.withBuffer buffer).status = s.status := fun _ => rfl
  unfold clock
  rw [hstatus, hstatus]
  split_ifs with hwait
  · exact (clockWaitingConnect_blind T E cfg _).agree rfl
  · obtain ⟨hflag, hagree⟩ := receive_agree T E cfg h s buffer buffer'
    dsimp only
    rw [hflag]
    split_ifs
    · exact hagree
    · exact hagree.andThen (clockTimers_blind T E cfg ms)

/-! ## Runs -/

theorem write_blind (data : NetData) : Blind fun s : BMNetwork τ => (s.write E cfg data).2 := by
  intro buffer s
  unfold write writePacket isConnected
  dsimp only [withBuffer]
  split_ifs <;> rfl

theorem writePacketData_blind (D : Codec) (sourceRid targetRid slotNo : ℕ) (ipPacket : Bytes) :
    Blind fun s : BMNetwork τ => (s.writePacketData E cfg D sourceRid targetRid slotNo ipPacket).2 := by
  intro buffer s
  unfold writePacketData isConnected
  dsimp only [withBuffer]
  split_ifs <;> rfl

theorem read_blind : Blind fun s : BMNetwork τ => .idle s.read.2 := by
  rintro buffer ⟨_, _, rxPackets, _, _, _, _, _, _, _, _, _, _, _⟩
  unfold read isConnected
  cases rxPackets with
  | nil =>
    dsimp only [withBuffer]
    split_ifs <;> rfl
  | cons packet rest =>
    dsimp only [withBuffer]
    split_ifs <;> rfl

theorem clock_blind {i : ClockInput} (h : ∀ bytes expectedSource, i.socket ≠ .datagram bytes expectedSource) :
    Blind fun s : BMNetwork τ => s.clock T E cfg i := by
  intro buffer s
  have hwaiting := clockWaitingConnect_blind T E cfg i buffer s
  have hfailed := readFailed_blind T E cfg i.resolved buffer s
  have htimers := clockTimers_blind T E cfg i.ms buffer s
  have hstatus : (s.withBuffer buffer).status = s.status := rfl
  unfold clock
  dsimp only at hwaiting hfailed htimers ⊢
  rw [hstatus]
  split_ifs
  · exact hwaiting
  · cases hsocket : i.socket with
    | failed => exact hfailed
    | nothing => exact htimers
    | datagram bytes expectedSource => exact absurd hsocket (h bytes expectedSource)

end BMNetwork

/-- The datagram of the call, when there is one, is understood by its own bytes. -/
def NetCall.OwnBytes (cfg : BMConfig) (call : NetCall) : Prop :=
  ∀ i bytes expectedSource, call = .clock i → i.socket = .datagram bytes expectedSource →
    bytes.take 512 = [] ∨ expectedSource = false ∨ Whole cfg (bytes.take 512)

/-- **A call** from two states that differ in the receive buffer. -/
theorem step_agree (T : Timers τ) (E : Surroundings) (cfg : BMConfig) (D : Codec) {call : NetCall}
    (h : call.OwnBytes cfg) {s s' : BMNetwork τ} (hs : s.withBuffer [] = s'.withBuffer []) :
    Agree (s.step T E cfg D call) (s'.step T E cfg D call) := by
  cases call with
  | openSocket resolved => exact (BMNetwork.openSocket_blind T E cfg resolved).agree hs
  | close => exact (BMNetwork.close_blind T E cfg).agree hs
  | read => exact BMNetwork.read_blind.agree hs
  | write data => exact (BMNetwork.write_blind E cfg data).agree hs
  | writePacketData sourceRid targetRid slotNo ipPacket =>
    exact (BMNetwork.writePacketData_blind E cfg D sourceRid targetRid slotNo ipPacket).agree hs
  | clock i =>
    obtain ⟨ms, socket, resolved⟩ := i
    cases socket with
    | failed => exact (BMNetwork.clock_blind T E cfg (fun _ _ => BMNetwork.SocketRead.noConfusion)).agree hs
    | nothing => exact (BMNetwork.clock_blind T E cfg (fun _ _ => BMNetwork.SocketRead.noConfusion)).agree hs
    | datagram bytes expectedSource =>
      have hs' : s' = s.withBuffer s'.buffer :=
        (congrArg (BMNetwork.withBuffer s'.buffer) hs).symm
      have hagree := BMNetwork.clock_agree T E cfg (h _ _ _ rfl rfl) ms resolved s s.buffer s'.buffer
      rw [← hs'] at hagree
      exact hagree

/-- **Two runs** with the same calls, whose datagrams are whole, do the same, whatever was in the
receive buffers. -/
theorem runs_agree (T : Timers τ) (E : Surroundings) (cfg : BMConfig) (D : Codec)
    {calls : List NetCall} (h : ∀ call ∈ calls, call.OwnBytes cfg) (s : BMNetwork τ)
    (buffer buffer' : Bytes) :
    let step := fun (s : BMNetwork τ) call => ((s.step T E cfg D call).state, (s.step T E cfg D call).effects)
    Run.outputs step (s.withBuffer buffer) calls = Run.outputs step (s.withBuffer buffer') calls ∧
      (Run.final step (s.withBuffer buffer) calls).withBuffer [] =
        (Run.final step (s.withBuffer buffer') calls).withBuffer [] := by
  intro step
  refine Run.outputs_eq_of_related (R := fun s s' : BMNetwork τ => s.withBuffer [] = s'.withBuffer [])
    (fun call s s' hcall hs => ?_) calls _ _ h rfl
  have hagree := step_agree T E cfg D hcall hs
  exact ⟨hagree.effects, hagree.state⟩

/-! ## A datagram that is cut off -/

/-- Timers that only tell whether they were started. -/
def markTimers : Timers Bool := ⟨fun _ => true, id, fun t _ => t, fun _ => false, fun _ => false⟩

/-- An open connection. -/
def opened (status : Status) : BMNetwork Bool :=
  { BMNetwork.create sampleSurroundings.streamId false false false with
    socketActive := true
    status := status }

namespace BMNetwork

variable (cfg : BMConfig) {s : BMNetwork Bool} {received : Bytes}

theorem clockTimers_idle (h : s.packetDataTxQueue = []) (ms : ℕ) :
    s.clockTimers markTimers sampleSurroundings cfg ms = .idle s := by
  have hidle : s.clockPacketData sampleSurroundings ms = .idle s := by
    unfold clockPacketData
    rw [h]
  have hgateway : s.clockGatewayTimers markTimers sampleSurroundings cfg ms = .idle s := by
    unfold clockGatewayTimers
    by_cases hrunning : s.status = .Running
    · rw [if_pos hrunning]
      rfl
    · rw [if_neg hrunning]
      rfl
  have hsession : clockSessionTimers markTimers sampleSurroundings cfg ms s = .idle s := by
    unfold clockSessionTimers
    split_ifs
    · exact hgateway
    · rfl
  rw [clockTimers_eq, hidle]
  show NetStep.mk (clockSessionTimers markTimers sampleSurroundings cfg ms s).state _ = _
  rw [hsession]
  show NetStep.mk s ([] ++ (clockSessionTimers markTimers sampleSurroundings cfg ms s).effects) = _
  rw [hsession]
  rfl

theorem clock_of_receive {status : Status} (h : cfg.gatewayMode = true ∨ status ≠ .WaitingConnect)
    (bytes buffer : Bytes) (ms : ℕ) (resolved : Bool) :
    let r := ((opened status).withBuffer buffer).receive markTimers sampleSurroundings cfg bytes true
    ((opened status).withBuffer buffer).clock markTimers sampleSurroundings cfg
      ⟨ms, .datagram bytes true, resolved⟩ =
      if r.1 then r.2 else r.2.andThen (clockTimers markTimers sampleSurroundings cfg ms) := by
  unfold clock
  rw [if_neg]
  rintro ⟨hdirect, hwait⟩
  rcases h with hgateway | hstatus
  · rw [hgateway] at hdirect
    exact absurd hdirect (by decide)
  · exact hstatus hwait

theorem intoBuffer_of_prefix {buffer : Bytes} (h : received <+: buffer) (s : BMNetwork Bool) :
    (s.withBuffer buffer).intoBuffer received = s.withBuffer buffer := by
  obtain ⟨rest, rfl⟩ := h
  show s.withBuffer (received ++ (received ++ rest).drop received.length) = _
  rw [List.drop_left]

theorem not_tagged_zeros {tag : List Char} (hzero : 0 ∉ ascii tag)
    (hlong : ¬ ascii tag <+: received) (s : BMNetwork Bool) (n : ℕ) :
    ¬ (s.withBuffer (received ++ List.replicate n 0)).tagged tag = true := by
  intro htag
  rw [tagged_iff] at htag
  obtain ⟨rest, hrest⟩ := (List.prefix_or_prefix_of_prefix htag
    (List.prefix_append received _)).resolve_left hlong
  have hstarts : received ++ rest <+: received ++ List.replicate n 0 := by
    rw [hrest]
    exact htag
  have hzeros := (List.prefix_append_right_inj received).mp hstarts
  cases rest with
  | nil =>
    rw [List.append_nil] at hrest
    rw [← hrest] at hlong
    exact hlong (List.prefix_refl _)
  | cons c rest =>
    have hc : c ∈ List.replicate n 0 := hzeros.subset List.mem_cons_self
    obtain rfl := List.eq_of_mem_replicate hc
    exact hzero (hrest ▸ List.mem_append_right _ List.mem_cons_self)

theorem andThen_clockTimers {r : NetStep Bool} (h : r.state.packetDataTxQueue = []) (ms : ℕ) :
    (r.andThen (clockTimers markTimers sampleSurroundings cfg ms)).state = r.state := by
  show (r.state.clockTimers markTimers sampleSurroundings cfg ms).state = _
  rw [clockTimers_idle cfg h]
  rfl

/-- A zeroed receive buffer. -/
def zeros : Bytes := List.replicate 512 0

/-- Without a continuation nothing happens. -/
theorem clock_zeros {status : Status} (h : cfg.gatewayMode = true ∨ status ≠ .WaitingConnect)
    {bytes : Bytes} (hsome : bytes.take 512 ≠ [])
    (htags : ∀ tag ∈ ['D', 'M', 'R', 'P'] :: ['R', 'P', 'T', 'S', 'B', 'K', 'N'] :: masterTags,
      ¬ ascii tag <+: bytes.take 512) (ms : ℕ) (resolved : Bool) :
    (((opened status).withBuffer zeros).clock markTimers sampleSurroundings cfg
      ⟨ms, .datagram bytes true, resolved⟩).state.withBuffer [] =
      (opened status).withBuffer [] := by
  have hzero : ∀ tag ∈ ['D', 'M', 'R', 'P'] :: ['R', 'P', 'T', 'S', 'B', 'K', 'N'] :: masterTags,
      0 ∉ ascii tag := by decide
  have hdrop : zeros.drop (bytes.take 512).length = List.replicate (512 - (bytes.take 512).length) 0 :=
    List.drop_replicate
  have hnone : ∀ tag ∈ ['D', 'M', 'R', 'P'] :: ['R', 'P', 'T', 'S', 'B', 'K', 'N'] :: masterTags,
      ¬ (((opened status).withBuffer zeros).intoBuffer (bytes.take 512)).tagged tag = true := by
    intro tag htag
    have := not_tagged_zeros (hzero tag htag) (htags tag htag) (opened status)
      (512 - (bytes.take 512).length)
    rw [← hdrop] at this
    exact this
  have hreceive : ((opened status).withBuffer zeros).receive markTimers sampleSurroundings cfg bytes
      true = (false, .idle (((opened status).withBuffer zeros).intoBuffer (bytes.take 512))) := by
    rw [receive_eq, if_neg (by simp [hsome])]
    split_ifs
    · unfold receiveGateway
      rw [if_neg (hnone _ (by decide)), if_neg (hnone _ (by decide))]
    · unfold receiveMaster
      rw [if_neg (hnone _ (by decide)), if_neg (hnone _ (by decide)), if_neg (hnone _ (by decide)),
        if_neg (hnone _ (by decide)), if_neg (hnone _ (by decide)), if_neg (hnone _ (by decide))]
  rw [clock_of_receive cfg h, hreceive, if_neg Bool.false_ne_true, andThen_clockTimers]
  · rfl
  · rfl

/-- The buffer continues a datagram that is cut off within a tag. -/
def continued (tag : List Char) : Bytes := ascii tag ++ List.replicate (512 - tag.length) 0

theorem tagged_continued (tag : List Char) (s : BMNetwork Bool) :
    (s.withBuffer (continued tag)).tagged tag = true :=
  (tagged_iff _ tag).mpr (List.prefix_append _ _)

theorem receive_continued (hdirect : cfg.gatewayMode = false) {bytes : Bytes} {tag : List Char}
    (hsome : bytes.take 512 ≠ []) (hcut : bytes.take 512 <+: ascii tag) (status : Status) :
    ((opened status).withBuffer (continued tag)).receive markTimers sampleSurroundings cfg bytes true =
      ((opened status).withBuffer (continued tag)).receiveMaster markTimers sampleSurroundings cfg
        (bytes.take 512).length := by
  rw [receive_eq, if_neg (by simp [hsome]), if_neg (by rw [hdirect]; decide),
    intoBuffer_of_prefix (hcut.trans (show ascii tag <+: continued tag from List.prefix_append _ _))]

/-- What a turn does to an open connection is what its datagram does. -/
theorem clock_state {status : Status} (h : cfg.gatewayMode = true ∨ status ≠ .WaitingConnect)
    (bytes buffer : Bytes) (ms : ℕ) (resolved : Bool)
    (hqueue : (((opened status).withBuffer buffer).receive markTimers sampleSurroundings cfg bytes
      true).2.state.packetDataTxQueue = []) :
    (((opened status).withBuffer buffer).clock markTimers sampleSurroundings cfg
      ⟨ms, .datagram bytes true, resolved⟩).state =
      (((opened status).withBuffer buffer).receive markTimers sampleSurroundings cfg bytes
        true).2.state := by
  rw [clock_of_receive cfg h]
  split_ifs
  · rfl
  · exact andThen_clockTimers cfg hqueue ms

theorem parseIncomingDMR_of_short {packet : Bytes} (h : packet.length < kHomebrewPacketLength)
    (s : BMNetwork τ) : s.parseIncomingDMR cfg packet = s := if_pos (Or.inl h)

/-- **Every tag that does something** does it to some connection. -/
theorem receiveMaster_continued {tag : List Char} (htag : tag ∈ masterTags) {length : ℕ}
    (hlength : length < kHomebrewPacketLength) : ∃ status, status ≠ .WaitingConnect ∧
    (((opened status).withBuffer (continued tag)).receiveMaster markTimers sampleSurroundings cfg
      length).2.state.packetDataTxQueue = [] ∧
    (((opened status).withBuffer (continued tag)).receiveMaster markTimers sampleSurroundings cfg
      length).2.state.withBuffer [] ≠ (opened status).withBuffer [] := by
  have hown := fun status => tagged_continued tag (opened status)
  have hshort : (((opened .WaitingLogin).withBuffer (continued tag)).buffer.take length).length <
      kHomebrewPacketLength := by
    rw [List.length_take]
    omega
  have hidle : ¬ ((opened .WaitingLogin).withBuffer (continued tag)).status = .Running := by
    show ¬ Status.WaitingLogin = Status.Running
    decide
  unfold receiveMaster
  simp only [masterTags, List.mem_cons, List.not_mem_nil, or_false] at htag
  rcases htag with rfl | rfl | rfl | rfl | rfl
  · refine ⟨.WaitingLogin, by decide, ?_⟩
    rw [if_pos (hown _)]
    dsimp only [NetStep.idle]
    rw [buffer_promote, if_neg hidle, parseIncomingDMR_of_short cfg hshort]
    exact ⟨rfl, fun h => absurd (congrArg BMNetwork.status h) (by decide)⟩
  · refine ⟨.Running, by decide, ?_⟩
    rw [if_neg (not_tagged (hown _) (by decide)), if_pos (hown _)]
    exact ⟨rfl, fun h => absurd (congrArg BMNetwork.status h) (by decide)⟩
  · refine ⟨.WaitingOptions, by decide, ?_⟩
    rw [if_neg (not_tagged (hown _) (by decide)), if_neg (not_tagged (hown _) (by decide)),
      if_pos (hown _)]
    exact ⟨rfl, fun h => (by decide : ¬ Status.Running = .WaitingOptions)
      (congrArg BMNetwork.status h)⟩
  · refine ⟨.Running, by decide, ?_⟩
    rw [if_neg (not_tagged (hown _) (by decide)), if_neg (not_tagged (hown _) (by decide)),
      if_neg (not_tagged (hown _) (by decide)), if_pos (hown _)]
    exact ⟨rfl, fun h => absurd (congrArg BMNetwork.timeoutTimer h) (by decide)⟩
  · refine ⟨.Running, by decide, ?_⟩
    rw [if_neg (not_tagged (hown _) (by decide)), if_neg (not_tagged (hown _) (by decide)),
      if_neg (not_tagged (hown _) (by decide)), if_neg (not_tagged (hown _) (by decide)),
      if_neg (not_tagged (hown _) (by decide)), if_pos (hown _)]
    exact ⟨rfl, fun h => (by decide : ¬ Status.WaitingConnect = .Running)
      (congrArg BMNetwork.status h)⟩

theorem not_prefix_of_cut {tag : List Char} {received : Bytes}
    (htag : tag ∈ ['D', 'M', 'R', 'P'] :: masterTags) (hcut : received <+: ascii tag)
    (hshort : received.length < tag.length) :
    ∀ tag' ∈ ['D', 'M', 'R', 'P'] :: ['R', 'P', 'T', 'S', 'B', 'K', 'N'] :: masterTags,
      ¬ ascii tag' <+: received := by
  have hpairs : ∀ tag ∈ ['D', 'M', 'R', 'P'] :: masterTags,
      ∀ tag' ∈ ['D', 'M', 'R', 'P'] :: ['R', 'P', 'T', 'S', 'B', 'K', 'N'] :: masterTags,
      ascii tag' <+: ascii tag → tag.length = tag'.length := by decide
  intro tag' htag' hstarts
  have hequal := hpairs tag htag tag' htag' (hstarts.trans hcut)
  have hlength : (ascii tag').length = tag'.length := List.length_map _
  have := hstarts.length_le
  omega

/-- Within a tag the end of the datagram is in the buffer. -/
theorem cut_differs (hdirect : cfg.gatewayMode = false) {bytes : Bytes} (hsome : bytes.take 512 ≠ [])
    {tag : List Char} (htag : tag ∈ masterTags) (hcut : ¬ OwnTag (bytes.take 512) tag) (ms : ℕ)
    (resolved : Bool) : ∃ status,
    ¬ Agree (((opened status).withBuffer (continued tag)).clock markTimers sampleSurroundings cfg
        ⟨ms, .datagram bytes true, resolved⟩)
      (((opened status).withBuffer zeros).clock markTimers sampleSurroundings cfg
        ⟨ms, .datagram bytes true, resolved⟩) := by
  obtain ⟨hshort, hstarts⟩ := not_or.mp hcut
  rw [not_le] at hshort
  rw [not_not] at hstarts
  have hlong : ∀ tag ∈ masterTags, tag.length < kHomebrewPacketLength := by decide
  obtain ⟨status, hwait, hqueue, hstate⟩ := receiveMaster_continued cfg htag
    (hshort.trans (hlong tag htag))
  have hreceive := receive_continued cfg hdirect hsome hstarts status
  refine ⟨status, fun hagree => hstate ?_⟩
  have hcontinued := clock_state cfg (Or.inr hwait) bytes (continued tag) ms resolved
    (by rw [hreceive]; exact hqueue)
  have hzeros := clock_zeros cfg (Or.inr hwait) hsome
    (not_prefix_of_cut (List.mem_cons_of_mem _ htag) hstarts hshort) ms resolved
  rw [← hreceive, ← hcontinued, hagree.state, hzeros]

theorem salt_differs (hdirect : cfg.gatewayMode = false) {bytes : Bytes}
    (hack : ascii ['R', 'P', 'T', 'A', 'C', 'K'] <+: bytes.take 512)
    (hshort : (bytes.take 512).length < 10) (ms : ℕ) (resolved : Bool) :
    ¬ Agree (((opened .WaitingLogin).withBuffer zeros).clock markTimers sampleSurroundings cfg
        ⟨ms, .datagram bytes true, resolved⟩)
      (((opened .WaitingLogin).withBuffer (List.replicate 512 1)).clock markTimers sampleSurroundings
        cfg ⟨ms, .datagram bytes true, resolved⟩) := by
  have hsome : bytes.take 512 ≠ [] := by
    intro hnil
    rw [hnil] at hack
    exact absurd hack (by decide)
  have hreceive : ∀ fill : UInt8, (((opened .WaitingLogin).withBuffer
      (List.replicate 512 fill)).receive markTimers sampleSurroundings cfg bytes true).2 =
      ((opened .WaitingLogin).withBuffer (bytes.take 512 ++
        (List.replicate 512 fill).drop (bytes.take 512).length)).acknowledge markTimers
        sampleSurroundings cfg := by
    intro fill
    have hown : (((opened .WaitingLogin).withBuffer (List.replicate 512 fill)).intoBuffer
        (bytes.take 512)).tagged ['R', 'P', 'T', 'A', 'C', 'K'] = true :=
      (tagged_iff _ _).mpr (hack.trans (List.prefix_append _ _))
    rw [receive_eq, if_neg (by simp [hsome]), if_neg (by rw [hdirect]; decide)]
    unfold receiveMaster
    rw [if_neg (not_tagged hown (by decide)), if_neg (not_tagged hown (by decide)), if_pos hown]
    rfl
  have hsalt : ∀ fill : UInt8, (((opened .WaitingLogin).withBuffer
      (List.replicate 512 fill)).clock markTimers sampleSurroundings cfg
        ⟨ms, .datagram bytes true, resolved⟩).state.salt[3]? = some fill := by
    intro fill
    rw [clock_state cfg (Or.inr (by decide)) bytes _ ms resolved (by rw [hreceive]; rfl), hreceive]
    show (((bytes.take 512 ++ (List.replicate 512 fill).drop (bytes.take 512).length).drop 6).take
      4)[3]? = some fill
    rw [List.drop_replicate, List.getElem?_take_of_lt (by omega), List.getElem?_drop,
      List.getElem?_append_right (by omega), List.getElem?_replicate_of_lt (by omega)]
  intro hagree
  have hequal : ∀ s : BMNetwork Bool, s.salt = (s.withBuffer []).salt := fun _ => rfl
  have hzero := hsalt 0
  have hone := hsalt 1
  rw [hequal] at hzero hone
  rw [show List.replicate 512 0 = zeros from rfl, hagree.state, hone] at hzero
  exact absurd hzero (by decide)

theorem reply_differs (hgateway : cfg.gatewayMode = true) {bytes : Bytes}
    (hsome : bytes.take 512 ≠ []) (hcut : ¬ OwnTag (bytes.take 512) ['D', 'M', 'R', 'P']) (ms : ℕ)
    (resolved : Bool) :
    ¬ Agree (((opened .WaitingConfig).withBuffer (continued ['D', 'M', 'R', 'P'])).clock markTimers
        sampleSurroundings cfg ⟨ms, .datagram bytes true, resolved⟩)
      (((opened .WaitingConfig).withBuffer zeros).clock markTimers sampleSurroundings cfg
        ⟨ms, .datagram bytes true, resolved⟩) := by
  obtain ⟨hshort, hstarts⟩ := not_or.mp hcut
  rw [not_le] at hshort
  rw [not_not] at hstarts
  have hown := tagged_continued ['D', 'M', 'R', 'P'] (opened .WaitingConfig)
  have hreceive : (((opened .WaitingConfig).withBuffer (continued ['D', 'M', 'R', 'P'])).receive
      markTimers sampleSurroundings cfg bytes true).2.state =
      { (opened .WaitingConfig).withBuffer (continued ['D', 'M', 'R', 'P']) with
        status := .Running
        retryTimer := false } := by
    rw [receive_eq, if_neg (by simp [hsome]), if_pos hgateway, intoBuffer_of_prefix
      (hstarts.trans (show ascii _ <+: continued _ from List.prefix_append _ _))]
    unfold receiveGateway
    rw [if_neg (not_tagged hown (by decide)), if_pos hown]
    rfl
  have hcontinued := clock_state cfg (Or.inl hgateway) bytes (continued ['D', 'M', 'R', 'P']) ms
    resolved (by rw [hreceive]; rfl)
  have hzeros : (((opened .WaitingConfig).withBuffer zeros).clock markTimers sampleSurroundings cfg
      ⟨ms, .datagram bytes true, resolved⟩).state.withBuffer [] = (opened .WaitingConfig).withBuffer [] :=
    clock_zeros cfg (Or.inl hgateway) hsome (not_prefix_of_cut List.mem_cons_self hstarts hshort) ms
      resolved
  intro hagree
  have hstate := hagree.state
  rw [hzeros, hcontinued, hreceive] at hstate
  exact (by decide : ¬ Status.Running = .WaitingConfig) (congrArg BMNetwork.status hstate)

/-- **Exactly the whole datagrams** are understood by their own bytes, whatever the connection is in. -/
theorem clock_agree_iff (bytes : Bytes) (expectedSource : Bool) :
    (∀ (τ : Type) (T : Timers τ) (E : Surroundings) (ms : ℕ) (resolved : Bool) (s : BMNetwork τ)
      (buffer buffer' : Bytes), buffer.length = 512 → buffer'.length = 512 →
      Agree ((s.withBuffer buffer).clock T E cfg ⟨ms, .datagram bytes expectedSource, resolved⟩)
        ((s.withBuffer buffer').clock T E cfg ⟨ms, .datagram bytes expectedSource, resolved⟩)) ↔
    (bytes.take 512 = [] ∨ expectedSource = false ∨ Whole cfg (bytes.take 512)) := by
  constructor
  · intro hagree
    by_contra hnot
    simp only [not_or] at hnot
    obtain ⟨hsome, hsource, hcut⟩ := hnot
    obtain rfl := Bool.eq_true_of_not_eq_false hsource
    have hfill : ∀ fill : UInt8, (List.replicate 512 fill).length = 512 :=
      fun fill => List.length_replicate
    have hcontinued : ∀ tag ∈ ['D', 'M', 'R', 'P'] :: masterTags, (continued tag).length = 512 := by
      intro tag htag
      have hlong : ∀ tag ∈ ['D', 'M', 'R', 'P'] :: masterTags, tag.length ≤ 512 := by decide
      have hlength : (ascii tag).length = tag.length := List.length_map _
      have := hlong tag htag
      show (ascii tag ++ List.replicate (512 - tag.length) 0).length = 512
      rw [List.length_append, List.length_replicate]
      omega
    unfold Whole at hcut
    by_cases hgateway : cfg.gatewayMode = true
    · rw [if_pos hgateway] at hcut
      exact reply_differs cfg hgateway hsome hcut 0 false (hagree Bool markTimers sampleSurroundings
        0 false _ _ _ (hcontinued _ List.mem_cons_self) (hfill 0))
    · rw [if_neg hgateway] at hcut
      have hdirect := Bool.eq_false_of_not_eq_true hgateway
      by_cases htags : ∀ tag ∈ masterTags, OwnTag (bytes.take 512) tag
      · obtain ⟨hack, hshort⟩ := Classical.not_imp.mp (not_and.mp hcut htags)
        exact salt_differs cfg hdirect hack (not_le.mp hshort) 0 false (hagree Bool markTimers
          sampleSurroundings 0 false _ _ _ (hfill 0) (hfill 1))
      · push Not at htags
        obtain ⟨tag, htag, hcut⟩ := htags
        obtain ⟨status, hdiffers⟩ := cut_differs cfg hdirect hsome htag hcut 0 false
        exact hdiffers (hagree Bool markTimers sampleSurroundings 0 false _ _ _
          (hcontinued _ (List.mem_cons_of_mem _ htag)) (hfill 0))
  · intro h τ T E ms resolved s buffer buffer' _ _
    exact clock_agree T E cfg h ms resolved s buffer buffer'

/-- Four bytes of an acknowledgement behind a whole one are an acknowledgement, and the login is
complete. Behind zeros they are nothing. -/
theorem not_clock_agree :
    (continued ['R', 'P', 'T', 'A', 'C', 'K']).length = 512 ∧ zeros.length = 512 ∧
    ¬ Agree (((opened .WaitingOptions).withBuffer (continued ['R', 'P', 'T', 'A', 'C', 'K'])).clock
        markTimers sampleSurroundings sampleConfig ⟨5, .datagram (ascii ['R', 'P', 'T', 'A']) true, true⟩)
      (((opened .WaitingOptions).withBuffer zeros).clock markTimers sampleSurroundings sampleConfig
        ⟨5, .datagram (ascii ['R', 'P', 'T', 'A']) true, true⟩) := by
  refine ⟨by decide +kernel, List.length_replicate, fun hagree => ?_⟩
  exact absurd (congrArg BMNetwork.status hagree.state) (by decide +kernel)

end BMNetwork

end Brandmeister
