import QuantarBridge.Brandmeister.Session
import QuantarBridge.Lib.Run
import QuantarBridge.PacketData.PlainCodec

/-!
# Received frames and the end of a session

Closing the connection clears the queue of frames to be sent, but not the frames that were received.
They are hidden until the next login completes, and then `read` hands them on first.

* `Traced`: the connection, with the session in which each waiting frame was received;
* `trace`: a call, and for each frame that `read` returns the session it comes from;
* `isolated_of_idle`: **every run** in which sessions end with no frame waiting is isolated.
-/

set_option autoImplicit false

namespace Brandmeister

open Dmr Lib PacketData

variable {τ : Type}

/-- The connection, the number of sessions that have ended, and for each waiting frame the number
of sessions that had ended when it was received. -/
structure Traced (τ : Type) where
  net : BMNetwork τ
  ended : ℕ
  receivedIn : List ℕ

/-- A frame that `read` returned: the session it was received in, and the session it is read in. -/
structure Delivery where
  receivedIn : ℕ
  readIn : ℕ
  deriving DecidableEq

namespace Traced

variable (T : Timers τ) (E : Surroundings) (cfg : BMConfig) (D : Codec) (t : Traced τ)

/-- The connection before it is opened. -/
def create (streamId : ℕ → UInt32) (retryTimer timeoutTimer beaconTimer : τ) : Traced τ :=
  ⟨.create streamId retryTimer timeoutTimer beaconTimer, 0, []⟩

/-- A frame of this session joins the waiting frames, as `withFrame` does. -/
def joinFrame (t : Traced τ) : List ℕ :=
  (if 2048 ≤ t.net.rxPackets.length then t.receivedIn.tail else t.receivedIn) ++ [t.ended]

/-- The session after a call has ended one more when the call closed the connection. -/
def endedAfter (t : Traced τ) (c : NetCall) : ℕ :=
  if .closed ∈ (t.net.step T E cfg D c).effects then t.ended + 1 else t.ended

/-- The frame that joins the waiting frames in a call. -/
def arriving (t : Traced τ) : NetCall → Option Bytes
  | .clock i => t.net.frameReceived cfg i
  | _ => none

/-- The sessions of the frames that wait after a call. -/
def receivedInAfter (t : Traced τ) (c : NetCall) : List ℕ :=
  match c with
  | .read => t.receivedIn.drop (t.net.rxPackets.length - t.net.read.2.rxPackets.length)
  | c => (t.arriving cfg c).elim t.receivedIn fun _ => t.joinFrame

/-- The frame that a call returns. -/
def delivered (t : Traced τ) : NetCall → List Delivery
  | .read => if t.net.read.1.isSome then t.receivedIn.head?.toList.map (⟨·, t.ended⟩) else []
  | _ => []

/-- A call, and the frames it returns. -/
def trace (t : Traced τ) (c : NetCall) : Traced τ × List Delivery :=
  (⟨(t.net.step T E cfg D c).state, t.endedAfter T E cfg D c, t.receivedInAfter cfg c⟩,
    t.delivered c)

/-- When the call ends the session, no frame waits and none arrives with the same call. -/
def EndsIdle (t : Traced τ) (c : NetCall) : Prop :=
  .closed ∈ (t.net.step T E cfg D c).effects → t.net.rxPackets = [] ∧ t.arriving cfg c = none

instance (c : NetCall) : Decidable (t.EndsIdle T E cfg D c) :=
  inferInstanceAs (Decidable (.closed ∈ (t.net.step T E cfg D c).effects →
    t.net.rxPackets = [] ∧ t.arriving cfg c = none))

/-- Every frame is read in the session it was received in. -/
def Isolated (deliveries : List Delivery) : Prop := ∀ d ∈ deliveries, d.receivedIn = d.readIn

instance (deliveries : List Delivery) : Decidable (Isolated deliveries) :=
  inferInstanceAs (Decidable (∀ d ∈ deliveries, d.receivedIn = d.readIn))

/-! ## What waits was received in this session -/

/-- The sessions of the waiting frames are known, and all are the present one. -/
structure Fresh (t : Traced τ) : Prop where
  length_eq : t.receivedIn.length = t.net.rxPackets.length
  receivedIn_eq : ∀ k ∈ t.receivedIn, k = t.ended

variable {t}

theorem fresh_of_rxPackets (h : t.Fresh) {net : BMNetwork τ}
    (hrx : net.rxPackets = t.net.rxPackets) : Fresh { t with net := net } where
  length_eq := h.length_eq.trans (congrArg List.length hrx.symm)
  receivedIn_eq := h.receivedIn_eq

/-- When nothing waits, the number of the session does not matter. -/
theorem fresh_of_nil {net : BMNetwork τ} {ended : ℕ} (h : net.rxPackets = []) :
    Fresh ⟨net, ended, []⟩ where
  length_eq := (congrArg List.length h).symm
  receivedIn_eq := fun _ hk => absurd hk List.not_mem_nil

theorem receivedIn_of_nil (h : t.Fresh) (hrx : t.net.rxPackets = []) : t.receivedIn = [] := by
  have hl := h.length_eq
  rw [hrx] at hl
  exact List.eq_nil_of_length_eq_zero hl

theorem joinFrame_spec (h : t.Fresh) (packet : Bytes) :
    t.joinFrame.length = (t.net.withFrame packet).length ∧ ∀ k ∈ t.joinFrame, k = t.ended := by
  unfold joinFrame BMNetwork.withFrame
  split_ifs
  · constructor
    · rw [List.length_append, List.length_append, List.length_tail, List.length_tail, h.length_eq]
      rfl
    · intro k hk
      rcases List.mem_append.mp hk with hk | hk
      · exact h.receivedIn_eq k (List.mem_of_mem_tail hk)
      · exact List.mem_singleton.mp hk
  · constructor
    · rw [List.length_append, List.length_append, h.length_eq]
      rfl
    · intro k hk
      rcases List.mem_append.mp hk with hk | hk
      · exact h.receivedIn_eq k hk
      · exact List.mem_singleton.mp hk

theorem read_cases (s : BMNetwork τ) :
    (s.read = (none, s)) ∨ ∃ packet rest, s.rxPackets = packet :: rest ∧
      s.read.2.rxPackets = rest := by
  unfold BMNetwork.read
  split_ifs
  · exact Or.inl rfl
  · cases hrx : s.rxPackets with
    | nil => exact Or.inl rfl
    | cons packet rest =>
      refine Or.inr ⟨packet, rest, rfl, ?_⟩
      dsimp only
      split_ifs <;> rfl

theorem read_fresh (h : t.Fresh) : (t.trace T E cfg D .read).1.Fresh := by
  have hn : .closed ∉ (t.net.step T E cfg D .read).effects := List.not_mem_nil
  unfold trace endedAfter
  rw [if_neg hn]
  constructor
  · show (t.receivedIn.drop _).length = t.net.read.2.rxPackets.length
    rw [List.length_drop, h.length_eq]
    rcases read_cases t.net with he | ⟨packet, rest, hrx, hrest⟩
    · rw [he]
      simp
    · rw [hrest, hrx, List.length_cons]
      omega
  · intro k hk
    exact h.receivedIn_eq k (List.mem_of_mem_drop hk)

theorem step_rxPackets (s : BMNetwork τ) (ended : ℕ) (receivedIn : List ℕ) {c : NetCall}
    (hc : c ≠ .read) : (s.step T E cfg D c).state.rxPackets =
      (arriving cfg ⟨s, ended, receivedIn⟩ c).elim s.rxPackets fun packet => s.withFrame packet := by
  cases c with
  | openSocket resolved => exact (BMNetwork.openSocket_control T E cfg s resolved).rxPackets
  | close => exact (BMNetwork.close_control T E cfg s).rxPackets
  | clock i => exact BMNetwork.clock_rxPackets T E cfg s i
  | read => exact absurd rfl hc
  | write data => exact (BMNetwork.write_control E cfg s data).rxPackets
  | writePacketData sourceRid targetRid slotNo ipPacket =>
    show (s.writePacketData E cfg D sourceRid targetRid slotNo ipPacket).2.state.rxPackets = _
    unfold BMNetwork.writePacketData
    dsimp only
    split_ifs <;> rfl

/-- **One call** keeps the waiting frames those of the present session. -/
theorem trace_fresh (h : t.Fresh) (c : NetCall) (hidle : t.EndsIdle T E cfg D c) :
    (t.trace T E cfg D c).1.Fresh := by
  by_cases hread : c = .read
  · rw [hread]
    exact read_fresh T E cfg D h
  have hrx := step_rxPackets T E cfg D t.net t.ended t.receivedIn hread
  have hin : t.receivedInAfter cfg c = (t.arriving cfg c).elim t.receivedIn fun _ => t.joinFrame := by
    unfold receivedInAfter
    split
    · exact absurd rfl hread
    · rfl
  unfold trace
  rw [hin]
  by_cases hc : .closed ∈ (t.net.step T E cfg D c).effects
  · obtain ⟨hnil, hnone⟩ := hidle hc
    have hrx' : (t.net.step T E cfg D c).state.rxPackets = [] := by
      refine hrx.trans ?_
      show (t.arriving cfg c).elim _ _ = _
      rw [hnone]
      exact hnil
    rw [hnone]
    show Fresh ⟨_, _, t.receivedIn⟩
    rw [receivedIn_of_nil h hnil]
    exact fresh_of_nil hrx'
  · unfold endedAfter
    rw [if_neg hc]
    cases hf : t.arriving cfg c with
    | none =>
      refine fresh_of_rxPackets h (hrx.trans ?_)
      show (t.arriving cfg c).elim _ _ = _
      rw [hf]
      rfl
    | some packet =>
      obtain ⟨hl, hk⟩ := joinFrame_spec h packet
      refine ⟨hl.trans (congrArg List.length (hrx.trans ?_).symm), hk⟩
      show (t.arriving cfg c).elim _ _ = _
      rw [hf]
      rfl

theorem trace_isolated (h : t.Fresh) (c : NetCall) : Isolated (t.trace T E cfg D c).2 := by
  intro d hd
  cases c with
  | read =>
    unfold trace delivered at hd
    dsimp only at hd
    split_ifs at hd
    · obtain ⟨k, hk, rfl⟩ := List.mem_map.mp hd
      exact h.receivedIn_eq k (List.mem_of_mem_head? (Option.mem_toList.mp hk))
    · exact absurd hd List.not_mem_nil
  | _ => exact absurd hd List.not_mem_nil

/-- **Isolation.** When every session ends with no frame waiting, every frame is read in the session
it was received in. -/
theorem isolated_of_idle (calls : List NetCall) (retryTimer timeoutTimer beaconTimer : τ)
    (h : Run.Along (trace T E cfg D) (EndsIdle T E cfg D)
      (create E.streamId retryTimer timeoutTimer beaconTimer) calls) :
    Isolated (Run.outputs (trace T E cfg D)
      (create E.streamId retryTimer timeoutTimer beaconTimer) calls) := by
  have hstart : (create E.streamId retryTimer timeoutTimer beaconTimer).Fresh := fresh_of_nil rfl
  exact Run.forall_outputs_of_along Fresh (fun d => d.receivedIn = d.readIn)
    (fun t c hidle ht => trace_fresh T E cfg D ht c hidle)
    (fun t c _ ht d hd => trace_isolated T E cfg D ht c d hd) calls _ h hstart

/-! ## A reconnection -/

/-- A turn of five milliseconds that receives a datagram. -/
def turn (bytes : Bytes) : NetCall := .clock ⟨5, .datagram bytes true, true⟩

/-- A frame of slot two for talkgroup 91. -/
def voiceFrame : Bytes :=
  ascii ['D', 'M', 'R', 'D'] ++ [0, 0, 0, 1, 0, 0, 91, 0, 4, 3, 81, 0x90, 0, 0, 0, 1] ++
    List.replicate 35 0

/-- The session starts, and traffic makes it run. -/
def login (bytes : Bytes) : List NetCall := [.openSocket true, turn bytes]

/-- A traced call of the sample connection. -/
def sampleTrace : Traced (ℕ × ℕ) → NetCall → Traced (ℕ × ℕ) × List Delivery :=
  trace countingTimers sampleSurroundings sampleConfig plainCodec

/-- A connection before any call. -/
def sampleConnection : Traced (ℕ × ℕ) :=
  create sampleSurroundings.streamId (0, 10000) (0, 60000) (0, 5000)

/-- A frame that is read before the session ends. -/
def readInTime : List NetCall :=
  login voiceFrame ++ [.read, .close] ++ login voiceFrame ++ [.read]

/-- A frame that waits when the session ends. -/
def readLate : List NetCall :=
  login voiceFrame ++ [.close] ++ login (ascii ['D', 'M', 'R', 'D']) ++ [.read]

theorem isolated_of_idle_read :
    Isolated (Run.outputs sampleTrace sampleConnection readInTime) :=
  isolated_of_idle countingTimers sampleSurroundings sampleConfig plainCodec readInTime
    (0, 10000) (0, 60000) (0, 5000) (by decide +kernel)

/-- **A frame that waits at the end of a session** is read in the next one. -/
theorem not_isolated_reconnect : ¬ ∀ (T : Timers (ℕ × ℕ)) (E : Surroundings) (cfg : BMConfig)
    (D : Codec) (calls : List NetCall) (retryTimer timeoutTimer beaconTimer : ℕ × ℕ),
    Isolated (Run.outputs (trace T E cfg D)
      (create E.streamId retryTimer timeoutTimer beaconTimer) calls) := by
  intro h
  have hall := h countingTimers sampleSurroundings sampleConfig plainCodec
    readLate (0, 10000) (0, 60000) (0, 5000)
  revert hall
  decide +kernel

end Traced

end Brandmeister
