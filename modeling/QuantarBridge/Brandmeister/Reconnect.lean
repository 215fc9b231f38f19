import QuantarBridge.Brandmeister.Session
import QuantarBridge.Lib.Run
import QuantarBridge.PacketData.PlainCodec

/-!
# The session always comes back

A direct connection that was opened never wedges. Its retry timer runs in every state, and outside
of `WaitingConnect` the timeout timer runs and the socket is active. So a silent session times out
into `WaitingConnect`, and from there the retry timer leads to the next login attempt.

* `TimerLaws`: a started timer runs, and passing time does not stop it;
* `Alive`: the invariant, with a lemma for each part of a turn;
* `clock_alive`, `step_alive`: every call but `close` keeps it;
* `never_wedges`: **every run** after `open` keeps it, and a timer leads back to a login attempt.
-/

set_option autoImplicit false

namespace Brandmeister

open Dmr Lib PacketData

variable {τ : Type}

/-- What the connection relies on: a started timer runs, and passing time does not stop it. -/
structure TimerLaws (T : Timers τ) : Prop where
  start : ∀ t, T.isRunning (T.start t) = true
  clock : ∀ t ms, T.isRunning t = true → T.isRunning (T.clock t ms) = true

/-- The connection is not wedged. -/
structure Alive (T : Timers τ) (s : BMNetwork τ) : Prop where
  retry : T.isRunning s.retryTimer = true
  session : s.status ≠ .WaitingConnect →
    T.isRunning s.timeoutTimer = true ∧ s.socketActive = true

namespace BMNetwork

variable {T : Timers τ} (hT : TimerLaws T) (E : Surroundings) (cfg : BMConfig) {s : BMNetwork τ}

include hT in
theorem alive_advance (hs : s.socketActive = true) (status : Status) :
    Alive T (s.advance T status) where
  retry := hT.start _
  session := fun _ => ⟨hT.start _, hs⟩

theorem alive_of_eq {s' : BMNetwork τ} (h : Alive T s) (hr : s'.retryTimer = s.retryTimer)
    (ht : s'.timeoutTimer = s.timeoutTimer) (hst : s'.status = s.status)
    (ha : s'.socketActive = s.socketActive) : Alive T s' where
  retry := hr ▸ h.retry
  session := by
    intro hne
    rw [ht, ha]
    exact h.session (hst ▸ hne)

theorem send_alive (h : Alive T s) (data : Bytes) : Alive T (s.send E data).state :=
  alive_of_eq h rfl rfl rfl rfl

theorem close_waits (hd : cfg.gatewayMode = false) :
    (s.close T E cfg).state.status = .WaitingConnect := by
  show restingStatus cfg = .WaitingConnect
  unfold restingStatus
  rw [hd]
  rfl

include hT in
theorem deferReconnect_alive : Alive T (s.deferReconnect T E cfg).state where
  retry := hT.start _
  session := fun hne => absurd rfl hne

include hT in
theorem openSocket_alive (hd : cfg.gatewayMode = false) (resolved : Bool) :
    Alive T (s.openSocket T E cfg resolved).2.state := by
  have hrest : restingStatus cfg = .WaitingConnect := by
    unfold restingStatus
    rw [hd]
    rfl
  unfold openSocket
  dsimp only
  split_ifs with hfail hw
  · exact ⟨hT.start _, fun hne => absurd hrest hne⟩
  · have hres : resolved = true := Bool.eq_true_of_not_eq_false fun hf => hfail (Or.inl hf)
    exact ⟨hT.start _, fun _ => ⟨hT.start _, hres⟩⟩
  · exact ⟨hT.start _, fun hne => absurd hrest hne⟩

include hT in
theorem acknowledge_alive (h : Alive T s) : Alive T (s.acknowledge T E cfg).state := by
  have hactive : s.status ≠ .WaitingConnect → s.socketActive = true := fun hne => (h.session hne).2
  unfold acknowledge
  split
  · rename_i hst
    have ha := hactive (by rw [hst]; decide)
    exact ⟨hT.start _, fun _ => ⟨hT.start _, ha⟩⟩
  · rename_i hst
    have ha := hactive (by rw [hst]; decide)
    exact ⟨hT.start _, fun _ => ⟨hT.start _, ha⟩⟩
  · rename_i hst
    have ha := hactive (by rw [hst]; decide)
    split_ifs
    · exact ⟨hT.start _, fun _ => ⟨hT.start _, ha⟩⟩
    · exact alive_advance hT ha _
  · rename_i hst
    have ha := hactive (by rw [hst]; decide)
    exact alive_advance hT ha _
  · exact h

theorem parseIncomingDMR_alive (h : Alive T s) (packet : Bytes) :
    Alive T (s.parseIncomingDMR cfg packet) := by
  unfold parseIncomingDMR
  dsimp only
  split_ifs
  all_goals exact alive_of_eq h rfl rfl rfl rfl

include hT in
theorem receiveMaster_alive (h : Alive T s) (hne : s.status ≠ .WaitingConnect) (length : ℕ) :
    Alive T (s.receiveMaster T E cfg length).2.state := by
  have ha : s.socketActive = true := (h.session hne).2
  unfold receiveMaster
  dsimp only
  split_ifs
  · exact parseIncomingDMR_alive cfg h _
  · exact parseIncomingDMR_alive cfg (alive_advance hT ha _) _
  · exact alive_advance hT ha _
  · exact acknowledge_alive hT E cfg h
  · exact ⟨h.retry, fun hne => ⟨hT.start _, (h.session hne).2⟩⟩
  · exact h
  · exact deferReconnect_alive hT E cfg
  · exact h

include hT in
/-- **A datagram** of any content leaves the session alive. -/
theorem receive_alive (hd : cfg.gatewayMode = false) (h : Alive T s)
    (hne : s.status ≠ .WaitingConnect) (bytes : Bytes) (expectedSource : Bool) :
    Alive T (s.receive T E cfg bytes expectedSource).2.state := by
  have hbuf : Alive T (s.intoBuffer (bytes.take 512)) := alive_of_eq h rfl rfl rfl rfl
  rw [receive_eq, hd]
  split_ifs with hi hg
  · exact hbuf
  · exact hg.elim
  · exact receiveMaster_alive hT E cfg hbuf hne _

theorem clockPacketData_alive (h : Alive T s) (ms : ℕ) :
    Alive T (s.clockPacketData E ms).state := by
  unfold clockPacketData
  cases s.packetDataTxQueue with
  | nil => exact h
  | cons packet rest =>
    dsimp only
    split_ifs
    all_goals exact alive_of_eq h rfl rfl rfl rfl

theorem retry_alive (h : Alive T s) : Alive T (s.retry E cfg).state := by
  unfold retry
  split
  · exact send_alive E h _
  · exact send_alive E h _
  · exact send_alive E h _
  · exact send_alive E h _
  · exact send_alive E h _
  · exact h

include hT in
theorem alive_clockRetry (h : Alive T s) (ms : ℕ) :
    Alive T { s with retryTimer := T.clock s.retryTimer ms } where
  retry := hT.clock _ _ h.retry
  session := h.session

include hT in
theorem clockRetryTimer_alive (h : Alive T s) (ms : ℕ) :
    Alive T (s.clockRetryTimer T E cfg ms).state := by
  have htick := alive_clockRetry hT h ms
  unfold clockRetryTimer
  dsimp only
  split_ifs
  · have hretry := retry_alive E cfg htick
    exact ⟨hT.start _, hretry.session⟩
  · exact htick

include hT in
theorem clockTimeoutTimer_alive (h : Alive T s) (ms : ℕ) :
    Alive T (s.clockTimeoutTimer T E cfg ms).state := by
  unfold clockTimeoutTimer
  dsimp only
  split_ifs
  · exact deferReconnect_alive hT E cfg
  · exact ⟨h.retry, fun hne => ⟨hT.clock _ _ (h.session hne).1, (h.session hne).2⟩⟩

include hT in
theorem clockTimers_alive (hd : cfg.gatewayMode = false) (h : Alive T s) (ms : ℕ) :
    Alive T (s.clockTimers T E cfg ms).state := by
  have hframes := clockPacketData_alive E h ms
  have hretry := clockRetryTimer_alive hT E cfg hframes ms
  have htimeout := clockTimeoutTimer_alive hT E cfg hretry ms
  rw [clockTimers_eq]
  show Alive T ((s.clockPacketData E ms).state.clockSessionTimers T E cfg ms).state
  unfold clockSessionTimers
  rw [if_neg (by rw [hd]; exact Bool.false_ne_true)]
  exact htimeout

include hT in
theorem readFailed_alive (hd : cfg.gatewayMode = false) (resolved : Bool) :
    Alive T (s.readFailed T E cfg resolved).state := by
  have hwaits := close_waits E cfg hd (T := T) (s := s)
  unfold readFailed NetStep.andThen
  dsimp only
  rw [if_neg (by rw [hd]; exact Bool.false_ne_true)]
  exact ⟨hT.start _, fun hne => absurd hwaits hne⟩

include hT in
theorem clockWaitingConnect_alive (hd : cfg.gatewayMode = false) (h : Alive T s)
    (i : ClockInput) : Alive T (s.clockWaitingConnect T E cfg i).state := by
  have htick := alive_clockRetry hT h i.ms
  unfold clockWaitingConnect
  dsimp only
  split_ifs with he ha hw
  · exact openSocket_alive hT E cfg hd _
  · exact alive_of_eq htick rfl rfl rfl rfl
  · exact ⟨hT.start _, fun _ => ⟨hT.start _, Bool.eq_true_of_not_eq_false ha⟩⟩
  · exact htick

include hT in
/-- **A turn** leaves the session alive, whatever it meets. -/
theorem clock_alive (hd : cfg.gatewayMode = false) (h : Alive T s) (i : ClockInput) :
    Alive T (s.clock T E cfg i).state := by
  unfold clock
  split_ifs with hw
  · exact clockWaitingConnect_alive hT E cfg hd h i
  have hne : s.status ≠ .WaitingConnect := fun hst => hw ⟨hd, hst⟩
  split
  · exact readFailed_alive hT E cfg hd i.resolved
  · exact clockTimers_alive hT E cfg hd h i.ms
  · rename_i bytes expectedSource _
    have hreceive := receive_alive hT E cfg hd h hne bytes expectedSource
    dsimp only
    split_ifs
    · exact hreceive
    · exact clockTimers_alive hT E cfg hd hreceive i.ms

include hT in
/-- **Every call** but `close` leaves the session alive. -/
theorem step_alive (D : Codec) (hd : cfg.gatewayMode = false) (h : Alive T s) {c : NetCall}
    (hc : c ≠ .close) : Alive T (s.step T E cfg D c).state := by
  cases c with
  | openSocket resolved => exact openSocket_alive hT E cfg hd resolved
  | close => exact absurd rfl hc
  | clock i => exact clock_alive hT E cfg hd h i
  | read =>
    show Alive T s.read.2
    unfold read
    split_ifs
    · exact h
    · cases s.rxPackets with
      | nil => exact h
      | cons packet rest =>
        dsimp only
        split_ifs
        all_goals exact alive_of_eq h rfl rfl rfl rfl
  | write data =>
    show Alive T (s.write E cfg data).2.state
    unfold write
    dsimp only
    split_ifs
    all_goals exact alive_of_eq h rfl rfl rfl rfl
  | writePacketData sourceRid targetRid slotNo ipPacket =>
    show Alive T (s.writePacketData E cfg D sourceRid targetRid slotNo ipPacket).2.state
    unfold writePacketData
    dsimp only
    split_ifs
    all_goals exact alive_of_eq h rfl rfl rfl rfl

/-! ## Back to a login attempt -/

/-- A login is attempted: the address is not resolved, or the login is written to the socket. -/
def AttemptsLogin (s : BMNetwork τ) (i : ClockInput) (r : NetStep τ) : Prop :=
  (s.socketActive = false ∧ i.resolved = false) ∨
    (r.state.writes = s.writes + 1 ∧
      (E.writeOk s.writes = true →
        .written (ascii ['R', 'P', 'T', 'L'] ++ cfg.repeaterIdBytes) ∈ r.effects))

/-- In `WaitingConnect` the retry timer leads to a login attempt, elsewhere the timeout timer of a
silent session leads to `WaitingConnect`. -/
structure LeadsBack (T : Timers τ) (s : BMNetwork τ) : Prop where
  retry : s.status = .WaitingConnect → ∀ i : ClockInput,
    T.hasExpired (T.clock s.retryTimer i.ms) = true → AttemptsLogin E cfg s i (s.clock T E cfg i)
  timeout : s.status ≠ .WaitingConnect → ∀ i : ClockInput, i.socket = .nothing →
    T.hasExpired (T.clock s.timeoutTimer i.ms) = true →
      (s.clock T E cfg i).state.status = .WaitingConnect

theorem mem_writeLogin {s' : BMNetwork τ} (hw : s'.writes = s.writes)
    (hok : E.writeOk s.writes = true) :
    .written (ascii ['R', 'P', 'T', 'L'] ++ cfg.repeaterIdBytes) ∈
      (s'.writeLogin E cfg).2.effects := by
  unfold writeLogin writePacket
  dsimp only
  rw [hw, if_pos hok]
  exact List.mem_singleton_self _

theorem openSocket_attemptsLogin (hd : cfg.gatewayMode = false) (i : ClockInput)
    (ha : s.socketActive = false) {s' : BMNetwork τ} (hw : s'.writes = s.writes) :
    AttemptsLogin E cfg s i (s'.openSocket T E cfg i.resolved).2 := by
  unfold openSocket
  dsimp only
  split_ifs with hfail
  · rcases hfail with hres | hg
    · exact Or.inl ⟨ha, hres⟩
    · exact absurd (hd.symm.trans hg) Bool.false_ne_true
  all_goals
    exact Or.inr ⟨congrArg (· + 1) hw, fun hok => mem_writeLogin E cfg (s := s) hw hok⟩

include hT in
theorem attemptsLogin_of_expired (hd : cfg.gatewayMode = false) (h : Alive T s)
    (hst : s.status = .WaitingConnect) (i : ClockInput)
    (he : T.hasExpired (T.clock s.retryTimer i.ms) = true) :
    AttemptsLogin E cfg s i (s.clock T E cfg i) := by
  have hrun := hT.clock _ i.ms h.retry
  unfold clock
  rw [if_pos ⟨hd, hst⟩]
  unfold clockWaitingConnect
  dsimp only
  rw [if_pos ⟨hrun, he⟩]
  split_ifs with ha hw
  · exact openSocket_attemptsLogin E cfg hd i ha rfl
  · exact Or.inr ⟨rfl, fun hok => mem_writeLogin E cfg (s := s) rfl hok⟩
  · exact Or.inr ⟨rfl, fun hok => List.mem_append_left _ (mem_writeLogin E cfg (s := s) rfl hok)⟩

theorem clockPacketData_timeoutTimer (ms : ℕ) :
    (s.clockPacketData E ms).state.timeoutTimer = s.timeoutTimer := by
  unfold clockPacketData
  cases s.packetDataTxQueue with
  | nil => rfl
  | cons packet rest =>
    dsimp only
    split_ifs <;> rfl

theorem clockRetryTimer_timeoutTimer (ms : ℕ) :
    (s.clockRetryTimer T E cfg ms).state.timeoutTimer = s.timeoutTimer := by
  unfold clockRetryTimer
  dsimp only
  split_ifs
  · show (BMNetwork.retry E cfg _).state.timeoutTimer = _
    unfold retry
    split <;> rfl
  · rfl

include hT in
theorem waits_of_timeout (hd : cfg.gatewayMode = false) (h : Alive T s)
    (hne : s.status ≠ .WaitingConnect) (i : ClockInput) (hi : i.socket = .nothing)
    (he : T.hasExpired (T.clock s.timeoutTimer i.ms) = true) :
    (s.clock T E cfg i).state.status = .WaitingConnect := by
  have hrun := hT.clock _ i.ms (h.session hne).1
  have hclock : s.clock T E cfg i = s.clockTimers T E cfg i.ms := by
    unfold clock
    rw [if_neg fun hw => hne hw.2, hi]
  have htimer : ((s.clockPacketData E i.ms).state.clockRetryTimer T E cfg i.ms).state.timeoutTimer =
      s.timeoutTimer :=
    (clockRetryTimer_timeoutTimer E cfg i.ms).trans (clockPacketData_timeoutTimer E i.ms)
  rw [hclock, clockTimers_eq]
  show ((s.clockPacketData E i.ms).state.clockSessionTimers T E cfg i.ms).state.status = _
  unfold clockSessionTimers
  rw [if_neg (by rw [hd]; exact Bool.false_ne_true)]
  show (clockTimeoutTimer T E cfg i.ms _).state.status = _
  unfold clockTimeoutTimer
  dsimp only
  rw [htimer, if_pos ⟨hrun, he⟩]
  rfl

/-- **The session never wedges.** After `open`, whatever the calls but `close`, the retry timer runs,
outside of `WaitingConnect` the timeout timer runs and the socket is active, and a timer leads back
to a login attempt. -/
theorem never_wedges (D : Codec) (hT : TimerLaws T) (hd : cfg.gatewayMode = false)
    (s : BMNetwork τ) (resolved : Bool) (calls : List NetCall) (hclose : .close ∉ calls) :
    let step := fun (s : BMNetwork τ) c => ((s.step T E cfg D c).state, (s.step T E cfg D c).effects)
    let s' := Run.final step (s.openSocket T E cfg resolved).2.state calls
    Alive T s' ∧ LeadsBack E cfg T s' := by
  intro step s'
  have halive : Alive T s' := by
    refine Run.final_of_along (C := fun _ c => c ≠ .close) (Alive T)
      (fun s c hc h => step_alive hT E cfg D hd h hc) calls _ ?_ (openSocket_alive hT E cfg hd resolved)
    intro pre c post hcalls hc
    exact hclose (hcalls ▸ hc ▸ List.mem_append_right _ (List.mem_cons_self))
  exact ⟨halive, fun hst i he => attemptsLogin_of_expired hT E cfg hd halive hst i he,
    fun hne i hi he => waits_of_timeout hT E cfg hd halive hne i hi he⟩

end BMNetwork

/-! ## A session that is rejected -/

theorem countingTimers_laws : TimerLaws countingTimers where
  start := fun _ => rfl
  clock := by
    intro t ms h
    have hpos : 0 < t.1 := of_decide_eq_true h
    show decide (0 < (if 0 < t.1 then (t.1 + ms, t.2) else t).1) = true
    rw [if_pos hpos]
    exact decide_eq_true (Nat.lt_of_lt_of_le hpos (Nat.le_add_right _ _))

/-- A login that is rejected, and a session that is closed by the master. -/
def rejected : List NetCall :=
  [.clock ⟨5, .datagram (ascii ['M', 'S', 'T', 'N', 'A', 'K']) true, true⟩,
    .clock ⟨5, .datagram (ascii ['M', 'S', 'T', 'C', 'L']) true, true⟩]

theorem never_wedges_rejected :
    let step := fun (s : BMNetwork (ℕ × ℕ)) c =>
      ((s.step countingTimers sampleSurroundings sampleConfig plainCodec c).state,
        (s.step countingTimers sampleSurroundings sampleConfig plainCodec c).effects)
    let s' := Run.final step ((BMNetwork.create sampleSurroundings.streamId (0, 10000) (0, 60000)
      (0, 5000)).openSocket countingTimers sampleSurroundings sampleConfig true).2.state rejected
    Alive countingTimers s' ∧
      BMNetwork.LeadsBack sampleSurroundings sampleConfig countingTimers s' :=
  BMNetwork.never_wedges sampleSurroundings sampleConfig plainCodec countingTimers_laws rfl _ true
    rejected (by simp [rejected])

end Brandmeister
