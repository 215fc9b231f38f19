import QuantarBridge.Brandmeister.Network

/-!
# Calls of the connection

The bridge calls the connection in any order. A call touches the received frames and the queue in
few places: a datagram with a frame joins the received frames, `read` takes one, `writePacketData`
fills the queue, a turn writes its first frame, and closing clears it. Everything else is `Control`.

* `Control`: the step keeps the received frames, and keeps the queue or closes and clears it;
* `frameReceived`: the frame that joins the received frames in a turn;
* `reachTimers`: the part of a turn before the frames of the queue;
* `reachTimers_cases`, `clock_rxPackets`: what a turn does to the received frames;
* `NetCall`, `step`: the calls.
-/

set_option autoImplicit false

namespace Brandmeister

open Dmr Lib PacketData

variable {τ : Type}

/-- The step keeps the received frames. It keeps the queue, or it closes the connection and clears
it. -/
structure Control (s : BMNetwork τ) (r : NetStep τ) : Prop where
  rxPackets : r.state.rxPackets = s.rxPackets
  queue : (.closed ∉ r.effects ∧ r.state.packetDataTxQueue = s.packetDataTxQueue ∧
      r.state.packetDataTxElapsedMs = s.packetDataTxElapsedMs) ∨
    (.closed ∈ r.effects ∧ r.state.packetDataTxQueue = [] ∧ r.state.packetDataTxElapsedMs = 0)

theorem control_idle {s s' : BMNetwork τ} (hrx : s'.rxPackets = s.rxPackets)
    (hq : s'.packetDataTxQueue = s.packetDataTxQueue)
    (he : s'.packetDataTxElapsedMs = s.packetDataTxElapsedMs) : Control s (.idle s') where
  rxPackets := hrx
  queue := Or.inl ⟨List.not_mem_nil, hq, he⟩

theorem control_andThen {s : BMNetwork τ} {r : NetStep τ} {f : BMNetwork τ → NetStep τ}
    (hr : Control s r) (hf : Control r.state (f r.state)) : Control s (r.andThen f) where
  rxPackets := hf.rxPackets.trans hr.rxPackets
  queue := by
    have hmem : .closed ∈ (r.andThen f).effects ↔
        .closed ∈ r.effects ∨ .closed ∈ (f r.state).effects := List.mem_append
    rcases hf.queue with ⟨hn, hq, he⟩ | ⟨hc, hq, he⟩
    · rcases hr.queue with ⟨hn', hq', he'⟩ | ⟨hc', hq', he'⟩
      · have hnot : .closed ∉ (r.andThen f).effects := fun h => (hmem.mp h).elim hn' hn
        exact Or.inl ⟨hnot, hq.trans hq', he.trans he'⟩
      · exact Or.inr ⟨hmem.mpr (Or.inl hc'), hq.trans hq', he.trans he'⟩
    · exact Or.inr ⟨hmem.mpr (Or.inr hc), hq, he⟩

theorem control_of_eq {s s' : BMNetwork τ} {r : NetStep τ} (h : Control s' r)
    (hrx : s'.rxPackets = s.rxPackets) (hq : s'.packetDataTxQueue = s.packetDataTxQueue)
    (he : s'.packetDataTxElapsedMs = s.packetDataTxElapsedMs) : Control s r where
  rxPackets := h.rxPackets.trans hrx
  queue := by rw [← hq, ← he]; exact h.queue

namespace BMNetwork

variable (T : Timers τ) (E : Surroundings) (cfg : BMConfig) (s : BMNetwork τ)

theorem closed_notMem_writePacket (data : Bytes) :
    .closed ∉ (s.writePacket E data).2.effects := by
  unfold writePacket
  cases E.writeOk s.writes <;> simp

theorem writePacket_control (data : Bytes) : Control s (s.writePacket E data).2 where
  rxPackets := rfl
  queue := Or.inl ⟨closed_notMem_writePacket E s data, rfl, rfl⟩

theorem send_control (data : Bytes) : Control s (s.send E data) := writePacket_control E s data

theorem write_control (data : NetData) : Control s (s.write E cfg data).2 := by
  unfold write
  dsimp only
  split_ifs
  · exact control_idle rfl rfl rfl
  · exact control_idle rfl rfl rfl
  all_goals exact control_of_eq (writePacket_control E _ _) rfl rfl rfl

theorem closeSocket_control : Control s (s.closeSocket T cfg) where
  rxPackets := rfl
  queue := Or.inr ⟨List.mem_singleton_self _, rfl, rfl⟩

theorem close_control : Control s (s.close T E cfg) := by
  unfold close
  refine control_andThen ?_ (closeSocket_control T cfg _)
  split_ifs
  · exact send_control E s _
  · exact control_idle rfl rfl rfl

theorem deferReconnect_control : Control s (s.deferReconnect T E cfg) :=
  control_andThen (close_control T E cfg s) (control_idle rfl rfl rfl)

theorem openSocket_control (resolved : Bool) : Control s (s.openSocket T E cfg resolved).2 := by
  unfold openSocket
  dsimp only
  split_ifs
  · exact control_idle rfl rfl rfl
  all_goals
    exact ⟨rfl, Or.inl ⟨closed_notMem_writePacket E _ _, rfl, rfl⟩⟩

theorem acknowledge_control : Control s (s.acknowledge T E cfg) := by
  unfold acknowledge
  split
  · exact control_andThen (control_of_eq (send_control E _ _) rfl rfl rfl)
      (control_idle rfl rfl rfl)
  · exact control_andThen (send_control E s _) (control_idle rfl rfl rfl)
  · split_ifs
    · exact control_andThen (send_control E s _) (control_idle rfl rfl rfl)
    · exact control_idle rfl rfl rfl
  · exact control_idle rfl rfl rfl
  · exact control_idle rfl rfl rfl

theorem retry_control : Control s (s.retry E cfg) := by
  unfold retry
  split
  · exact writePacket_control E s _
  · exact send_control E s _
  · exact send_control E s _
  · exact send_control E s _
  · exact send_control E s _
  · exact control_idle rfl rfl rfl

theorem clockWaitingConnect_control (i : ClockInput) :
    Control s (s.clockWaitingConnect T E cfg i) := by
  unfold clockWaitingConnect
  dsimp only
  split_ifs
  · exact control_of_eq (openSocket_control T E cfg _ _) rfl rfl rfl
  · exact control_of_eq (writePacket_control E _ _) rfl rfl rfl
  · exact control_andThen (control_of_eq (writePacket_control E _ _) rfl rfl rfl)
      (control_idle rfl rfl rfl)
  · exact control_idle rfl rfl rfl

theorem readFailed_control (resolved : Bool) : Control s (s.readFailed T E cfg resolved) := by
  unfold readFailed
  refine control_andThen (close_control T E cfg s) ?_
  split_ifs
  · exact openSocket_control T E cfg _ _
  · exact control_idle rfl rfl rfl

/-- The timers of a turn. -/
def clockSessionTimers (ms : ℕ) (s : BMNetwork τ) : NetStep τ :=
  if cfg.gatewayMode then s.clockGatewayTimers T E cfg ms
  else (s.clockRetryTimer T E cfg ms).andThen (clockTimeoutTimer T E cfg ms)

theorem clockTimers_eq (ms : ℕ) : s.clockTimers T E cfg ms =
    (s.clockPacketData E ms).andThen (clockSessionTimers T E cfg ms) := rfl

theorem clockSessionTimers_control (ms : ℕ) :
    Control s (s.clockSessionTimers T E cfg ms) := by
  unfold clockSessionTimers
  split_ifs
  · unfold clockGatewayTimers
    dsimp only
    split_ifs
    · exact control_idle rfl rfl rfl
    · exact control_andThen (control_of_eq (send_control E _ _) rfl rfl rfl)
        (control_idle rfl rfl rfl)
    · exact control_idle rfl rfl rfl
  · refine control_andThen ?_ ?_
    · unfold clockRetryTimer
      dsimp only
      split_ifs
      · exact control_andThen (control_of_eq (retry_control E cfg _) rfl rfl rfl)
          (control_idle rfl rfl rfl)
      · exact control_idle rfl rfl rfl
    · unfold clockTimeoutTimer
      dsimp only
      split_ifs
      · exact control_of_eq (deferReconnect_control T E cfg _) rfl rfl rfl
      · exact control_idle rfl rfl rfl

/-! ## Received frames -/

/-- The datagram is a frame of the configured slot. -/
def isFrame (packet : Bytes) : Bool :=
  packet.take 4 = ascii ['D', 'M', 'R', 'D'] ∧ kHomebrewPacketLength ≤ packet.length ∧
    (if packet.getD 15 0 &&& 0x80 ≠ 0 then 2 else 1) = cfg.timeslot

/-- The received frames with one more. The oldest of 2048 frames gives way. -/
def withFrame (packet : Bytes) (s : BMNetwork τ) : List Bytes :=
  (if 2048 ≤ s.rxPackets.length then s.rxPackets.tail else s.rxPackets) ++ [packet]

theorem parseIncomingDMR_of_isFrame {packet : Bytes} (h : isFrame cfg packet = true) :
    s.parseIncomingDMR cfg packet = { s with rxPackets := s.withFrame packet } := by
  obtain ⟨-, hl, hs⟩ := of_decide_eq_true h
  have hn : ¬ (packet.length < kHomebrewPacketLength ∨
      (if packet.getD 15 0 &&& 0x80 ≠ 0 then 2 else 1) ≠ cfg.timeslot) := by
    rintro (hlt | hne)
    · exact absurd hl (Nat.not_le_of_lt hlt)
    · exact hne hs
  unfold parseIncomingDMR
  exact if_neg hn

/-- A datagram joins the buffer. -/
def intoBuffer (received : Bytes) (s : BMNetwork τ) : BMNetwork τ :=
  { s with buffer := received ++ s.buffer.drop received.length }

theorem take_buffer (received : Bytes) :
    (s.intoBuffer received).buffer.take received.length = received := by
  show (received ++ s.buffer.drop received.length).take received.length = received
  rw [List.take_left]

theorem tagged_of_le {received : Bytes} (hl : kHomebrewPacketLength ≤ received.length) :
    (s.intoBuffer received).tagged ['D', 'M', 'R', 'D'] =
      decide (received.take 4 = ascii ['D', 'M', 'R', 'D']) := by
  have h4 : 4 ≤ received.length := Nat.le_trans (by decide) hl
  have htake : (s.intoBuffer received).buffer.take 4 = received.take 4 := by
    show (received ++ s.buffer.drop received.length).take 4 = received.take 4
    rw [List.take_append_of_le_length h4]
  exact decide_eq_decide.mpr (by rw [← htake]; rfl)

theorem parseIncomingDMR_intoBuffer {received : Bytes}
    (ht : (s.intoBuffer received).tagged ['D', 'M', 'R', 'D'] = true)
    (h : isFrame cfg received = false) (s' : BMNetwork τ) :
    s'.parseIncomingDMR cfg received = s' := by
  have hn := of_decide_eq_false h
  unfold parseIncomingDMR
  refine if_pos ?_
  by_contra hc
  push Not at hc
  have hd := ht
  rw [tagged_of_le s hc.1] at hd
  exact hn ⟨of_decide_eq_true hd, hc.1, hc.2⟩

theorem receive_eq (bytes : Bytes) (expectedSource : Bool) :
    s.receive T E cfg bytes expectedSource =
      if bytes.take 512 = [] ∨ expectedSource = false then (false, .idle (s.intoBuffer (bytes.take 512)))
      else if cfg.gatewayMode then
        (false, .idle ((s.intoBuffer (bytes.take 512)).receiveGateway T cfg (bytes.take 512).length))
      else (s.intoBuffer (bytes.take 512)).receiveMaster T E cfg (bytes.take 512).length := rfl

theorem buffer_promote : (if s.status = .Running then s else s.advance T .Running).buffer = s.buffer := by
  split_ifs <;> rfl

/-- A frame joins the received frames and touches nothing else of the calls. -/
structure Joins (packet : Bytes) (s : BMNetwork τ) (r : NetStep τ) : Prop where
  rxPackets : r.state.rxPackets = s.withFrame packet
  effects : r.effects = []
  queue : r.state.packetDataTxQueue = s.packetDataTxQueue
  elapsed : r.state.packetDataTxElapsedMs = s.packetDataTxElapsedMs

/-- **A frame is received.** -/
theorem receive_of_isFrame {bytes : Bytes} (h : isFrame cfg (bytes.take 512) = true) :
    (s.receive T E cfg bytes true).1 = false ∧
      Joins (bytes.take 512) s (s.receive T E cfg bytes true).2 := by
  obtain ⟨hd, hl, -⟩ := of_decide_eq_true h
  have hne : ¬ (bytes.take 512 = [] ∨ true = false) := by
    rintro (hnil | hf)
    · rw [hnil] at hl
      exact absurd hl (by decide)
    · exact Bool.noConfusion hf
  have ht : (s.intoBuffer (bytes.take 512)).tagged ['D', 'M', 'R', 'D'] = true := by
    rw [tagged_of_le s hl]
    exact decide_eq_true hd
  rw [receive_eq, if_neg hne]
  split_ifs with hg
  · refine ⟨rfl, ?_⟩
    unfold receiveGateway
    rw [if_pos ht, take_buffer, parseIncomingDMR_of_isFrame cfg _ h]
    exact ⟨rfl, rfl, rfl, rfl⟩
  · unfold receiveMaster
    rw [if_pos ht]
    refine ⟨rfl, ?_⟩
    dsimp only
    rw [buffer_promote, take_buffer, parseIncomingDMR_of_isFrame cfg _ h]
    split_ifs
    · exact ⟨rfl, rfl, rfl, rfl⟩
    · exact ⟨rfl, rfl, rfl, rfl⟩

theorem receiveGateway_control {received : Bytes} (h : isFrame cfg received = false) :
    Control s (.idle ((s.intoBuffer received).receiveGateway T cfg received.length)) := by
  unfold receiveGateway
  split_ifs with ht
  · rw [take_buffer, parseIncomingDMR_intoBuffer cfg s ht h]
    exact control_idle rfl rfl rfl
  · exact control_idle rfl rfl rfl
  · exact control_idle rfl rfl rfl

theorem receiveMaster_control {received : Bytes} (h : isFrame cfg received = false) :
    Control s ((s.intoBuffer received).receiveMaster T E cfg received.length).2 := by
  unfold receiveMaster
  by_cases ht : (s.intoBuffer received).tagged ['D', 'M', 'R', 'D'] = true
  · rw [if_pos ht]
    dsimp only
    rw [buffer_promote, take_buffer, parseIncomingDMR_intoBuffer cfg s ht h]
    split_ifs
    · exact control_idle rfl rfl rfl
    · exact control_idle rfl rfl rfl
  · rw [if_neg ht]
    split_ifs
    · exact control_idle rfl rfl rfl
    · exact control_of_eq (acknowledge_control T E cfg _) rfl rfl rfl
    · exact control_idle rfl rfl rfl
    · exact control_idle rfl rfl rfl
    · exact control_of_eq (deferReconnect_control T E cfg _) rfl rfl rfl
    · exact control_idle rfl rfl rfl

/-- **Any other datagram** leaves the received frames. -/
theorem receive_control {bytes : Bytes} {expectedSource : Bool}
    (h : ¬ (expectedSource = true ∧ isFrame cfg (bytes.take 512) = true)) :
    Control s (s.receive T E cfg bytes expectedSource).2 := by
  rw [receive_eq]
  split_ifs with hi hg
  · exact control_idle rfl rfl rfl
  all_goals
    have hs : expectedSource = true := Bool.eq_true_of_not_eq_false fun hs => hi (Or.inr hs)
    have hf : isFrame cfg (bytes.take 512) = false := Bool.eq_false_of_not_eq_true fun hf =>
      h ⟨hs, hf⟩
  · exact receiveGateway_control T cfg s hf
  · exact receiveMaster_control T E cfg s hf

theorem closed_notMem_acknowledge : .closed ∉ (s.acknowledge T E cfg).effects := by
  have hsend : ∀ (s : BMNetwork τ) (data : Bytes) (f : BMNetwork τ → BMNetwork τ),
      .closed ∉ ((s.send E data).andThen fun s => .idle (f s)).effects := by
    intro s data f h
    rcases List.mem_append.mp h with h | h
    · exact closed_notMem_writePacket E s data h
    · exact List.not_mem_nil h
  unfold acknowledge
  split
  · exact hsend _ _ _
  · exact hsend _ _ _
  · split_ifs
    · exact hsend _ _ _
    · exact List.not_mem_nil
  · exact List.not_mem_nil
  · exact List.not_mem_nil

/-- A turn that goes on after its datagram has not closed the connection. -/
theorem closed_notMem_receive {bytes : Bytes} {expectedSource : Bool}
    (h : (s.receive T E cfg bytes expectedSource).1 = false) :
    .closed ∉ (s.receive T E cfg bytes expectedSource).2.effects := by
  rw [receive_eq] at h ⊢
  split_ifs at h ⊢
  · exact List.not_mem_nil
  · exact List.not_mem_nil
  · unfold receiveMaster at h ⊢
    split_ifs at h ⊢
    · exact List.not_mem_nil
    · exact List.not_mem_nil
    · exact List.not_mem_nil
    · exact closed_notMem_acknowledge T E cfg _
    · exact List.not_mem_nil
    · exact List.not_mem_nil
    · exact List.not_mem_nil

/-! ## Turns -/

/-- A turn up to the frames of the queue, when it gets that far. -/
def reachTimers (i : ClockInput) (s : BMNetwork τ) : Option (NetStep τ) :=
  if cfg.gatewayMode = false ∧ s.status = .WaitingConnect then none
  else match i.socket with
    | .failed => none
    | .nothing => some (.idle s)
    | .datagram bytes expectedSource =>
      let r := s.receive T E cfg bytes expectedSource
      if r.1 then none else some r.2

/-- The frame that joins the received frames in a turn. -/
def frameReceived (i : ClockInput) (s : BMNetwork τ) : Option Bytes :=
  if cfg.gatewayMode = false ∧ s.status = .WaitingConnect then none
  else match i.socket with
    | .datagram bytes true => if isFrame cfg (bytes.take 512) then some (bytes.take 512) else none
    | _ => none

theorem clock_of_reachTimers {i : ClockInput} {r : NetStep τ}
    (h : s.reachTimers T E cfg i = some r) :
    s.clock T E cfg i = r.andThen (clockTimers T E cfg i.ms) := by
  unfold reachTimers at h
  unfold clock
  by_cases hw : cfg.gatewayMode = false ∧ s.status = .WaitingConnect
  · rw [if_pos hw] at h
    exact absurd h.symm (Option.some_ne_none _)
  rw [if_neg hw] at h ⊢
  cases hi : i.socket with
  | failed =>
    rw [hi] at h
    exact absurd h.symm (Option.some_ne_none _)
  | nothing =>
    rw [hi] at h
    obtain rfl := Option.some.inj h
    show s.clockTimers T E cfg i.ms = _
    unfold NetStep.andThen
    rfl
  | datagram bytes expectedSource =>
    rw [hi] at h
    dsimp only at h ⊢
    by_cases hr : (s.receive T E cfg bytes expectedSource).1 = true
    · rw [if_pos hr] at h
      exact absurd h.symm (Option.some_ne_none _)
    · rw [if_neg hr] at h ⊢
      rw [Option.some.inj h]

/-- A turn either waits for the connection, loses the socket, or receives and goes on. -/
theorem reachTimers_cases (i : ClockInput) :
    (s.reachTimers T E cfg i = none ∧ s.frameReceived cfg i = none ∧ Control s (s.clock T E cfg i)) ∨
    ∃ r, s.reachTimers T E cfg i = some r ∧ .closed ∉ r.effects ∧
      ((s.frameReceived cfg i = none ∧ Control s r) ∨
        ∃ packet, s.frameReceived cfg i = some packet ∧ Joins packet s r) := by
  unfold reachTimers frameReceived clock
  by_cases hw : cfg.gatewayMode = false ∧ s.status = .WaitingConnect
  · simp only [if_pos hw]
    exact Or.inl ⟨trivial, trivial, clockWaitingConnect_control T E cfg s i⟩
  simp only [if_neg hw]
  cases hi : i.socket with
  | failed => exact Or.inl ⟨rfl, rfl, readFailed_control T E cfg s i.resolved⟩
  | nothing =>
    exact Or.inr ⟨_, rfl, List.not_mem_nil, Or.inl ⟨rfl, control_idle rfl rfl rfl⟩⟩
  | datagram bytes expectedSource =>
    dsimp only
    by_cases hf : expectedSource = true ∧ isFrame cfg (bytes.take 512) = true
    · obtain ⟨rfl, hf⟩ := hf
      obtain ⟨h1, hj⟩ := receive_of_isFrame T E cfg s hf
      have hn : .closed ∉ (s.receive T E cfg bytes true).2.effects := by
        rw [hj.effects]
        exact List.not_mem_nil
      refine Or.inr ⟨_, if_neg (by rw [h1]; exact Bool.false_ne_true), hn, Or.inr ⟨_, ?_, hj⟩⟩
      exact if_pos hf
    · have hc := receive_control T E cfg s hf
      have hnone : (match SocketRead.datagram bytes expectedSource with
          | .datagram bytes true => if isFrame cfg (bytes.take 512) then some (bytes.take 512) else none
          | _ => none) = none := by
        cases expectedSource with
        | false => rfl
        | true => exact if_neg fun h => hf ⟨rfl, h⟩
      by_cases hr : (s.receive T E cfg bytes expectedSource).1 = true
      · simp only [if_pos hr]
        exact Or.inl ⟨trivial, hnone, hc⟩
      · simp only [if_neg hr]
        have hn := closed_notMem_receive T E cfg s (Bool.eq_false_of_not_eq_true hr)
        exact Or.inr ⟨_, rfl, hn, Or.inl ⟨hnone, hc⟩⟩

theorem clockPacketData_rxPackets (ms : ℕ) :
    (s.clockPacketData E ms).state.rxPackets = s.rxPackets := by
  unfold clockPacketData
  cases s.packetDataTxQueue with
  | nil => rfl
  | cons packet rest =>
    dsimp only
    split_ifs <;> rfl

/-- **Received frames.** A turn adds the frame of its datagram. -/
theorem clock_rxPackets (i : ClockInput) : (s.clock T E cfg i).state.rxPackets =
    (s.frameReceived cfg i).elim s.rxPackets fun packet => s.withFrame packet := by
  rcases reachTimers_cases T E cfg s i with ⟨-, hf, hc⟩ | ⟨r, hr, -, hcase⟩
  · rw [hf]
    exact hc.rxPackets
  · have htimers : (r.state.clockTimers T E cfg i.ms).state.rxPackets = r.state.rxPackets := by
      rw [clockTimers_eq]
      exact (clockSessionTimers_control T E cfg _ i.ms).rxPackets.trans
        (clockPacketData_rxPackets E _ i.ms)
    rw [clock_of_reachTimers T E cfg s hr]
    refine htimers.trans ?_
    rcases hcase with ⟨hf, hc⟩ | ⟨packet, hf, hj⟩
    · rw [hf]
      exact hc.rxPackets
    · rw [hf]
      exact hj.rxPackets

end BMNetwork

/-- The calls of the connection. -/
inductive NetCall
  | openSocket (resolved : Bool)
  | close
  | clock (i : BMNetwork.ClockInput)
  | read
  | write (data : NetData)
  | writePacketData (sourceRid targetRid slotNo : ℕ) (ipPacket : Bytes)

/-- A call. -/
def BMNetwork.step (T : Timers τ) (E : Surroundings) (cfg : BMConfig) (D : Codec)
    (s : BMNetwork τ) : NetCall → NetStep τ
  | .openSocket resolved => (s.openSocket T E cfg resolved).2
  | .close => s.close T E cfg
  | .clock i => s.clock T E cfg i
  | .read => .idle s.read.2
  | .write data => (s.write E cfg data).2
  | .writePacketData sourceRid targetRid slotNo ipPacket =>
    (s.writePacketData E cfg D sourceRid targetRid slotNo ipPacket).2

/-! ## A sample connection -/

/-- A timer that counts its milliseconds once it runs, with the time at which it expires. -/
def countingTimers : Timers (ℕ × ℕ) where
  start t := (1, t.2)
  stop t := (0, t.2)
  clock t ms := if 0 < t.1 then (t.1 + ms, t.2) else t
  isRunning t := 0 < t.1
  hasExpired t := t.2 ≤ t.1

/-- Every write succeeds. -/
def sampleSurroundings : Surroundings := ⟨fun _ => true, fun n => UInt32.ofNat (n + 1), fun b => b⟩

/-- A repeater that talks to the master itself. -/
def sampleConfig : BMConfig where
  gatewayMode := false
  repeaterId := 262993
  password := []
  configMessage := []
  options := []
  colorCode := 1
  timeslot := 2
  slot1 := false
  slot2 := true
  timeslot_valid := Or.inr rfl
  slot1_eq := rfl
  slot2_eq := rfl

end Brandmeister
