import Mathlib.Data.List.TakeWhile
import QuantarBridge.Brandmeister.Network
import QuantarBridge.Lib.Flow

/-!
# The transmission queue

Until the connection is closed its queue neither loses nor reorders a packet: what was queued is
written in order, or still waits.

* `Delivers`: the queue is carried through a step unless the connection is closed on the way;
* `delivers_andThen`: the steps of a call compose;
* `clock_delivers`, `writePacketData_delivers`, `openSocket_delivers`, `write_delivers`: what the
  calls do to the queue;
* `writePacketData_effects`: a packet is queued completely or not at all.
-/

set_option autoImplicit false

namespace Brandmeister

open Dmr Lib PacketData

/-- The packets an effect puts into the queue. -/
def queuedBy : NetEffect → List Bytes
  | .queued packets => packets
  | _ => []

/-- The packets an effect writes to the socket. -/
def writtenBy : NetEffect → List Bytes
  | .written packet => [packet]
  | _ => []

variable {τ : Type}

/-- From the queue `q` the step carries the queue unless it closes the connection. -/
def Delivers (q : List Bytes) (r : NetStep τ) : Prop :=
  (∀ o ∈ r.effects, o ≠ .closed) →
    Carries queuedBy writtenBy q r.effects r.state.packetDataTxQueue

theorem delivers_idle {q : List Bytes} {s : BMNetwork τ} (h : s.packetDataTxQueue = q) :
    Delivers q (.idle s) := fun _ => h ▸ carries_refl

theorem delivers_andThen {q : List Bytes} {r : NetStep τ} {f : BMNetwork τ → NetStep τ}
    (hr : Delivers q r) (hf : ∀ s, Delivers s.packetDataTxQueue (f s)) :
    Delivers q (r.andThen f) := fun h =>
  carries_append (hr fun o ho => h o (List.mem_append_left _ ho))
    (hf _ fun o ho => h o (List.mem_append_right _ ho))

theorem delivers_of_closed {q : List Bytes} {r : NetStep τ} (h : .closed ∈ r.effects) :
    Delivers q r := fun hn => absurd rfl (hn _ h)

namespace BMNetwork

variable (T : Timers τ) (E : Surroundings) (cfg : BMConfig) (s : BMNetwork τ)

theorem queued_writePacket (data : Bytes) : (s.writePacket E data).2.effects.flatMap queuedBy = [] := by
  unfold writePacket
  cases E.writeOk s.writes <;> rfl

theorem writePacket_delivers (data : Bytes) :
    Delivers s.packetDataTxQueue (s.writePacket E data).2 := fun _ =>
  carries_idle (queued_writePacket E s data)

theorem send_delivers (data : Bytes) : Delivers s.packetDataTxQueue (s.send E data) :=
  writePacket_delivers E s data

theorem write_delivers (data : NetData) : Delivers s.packetDataTxQueue (s.write E cfg data).2 := by
  unfold write
  dsimp only
  split_ifs
  · exact delivers_idle rfl
  · exact delivers_idle rfl
  · exact writePacket_delivers E _ _
  · exact writePacket_delivers E _ _
  · exact writePacket_delivers E _ _
  · exact writePacket_delivers E _ _

theorem writePacketData_queue (D : Codec) (sourceRid targetRid slotNo : ℕ) (ipPacket : Bytes) :
    let r := (s.writePacketData E cfg D sourceRid targetRid slotNo ipPacket).2
    r.state.packetDataTxQueue = s.packetDataTxQueue ++ r.effects.flatMap queuedBy := by
  unfold writePacketData
  dsimp only
  split_ifs
  all_goals first
    | exact (List.append_nil _).symm
    | exact congrArg (s.packetDataTxQueue ++ ·) (List.append_nil _).symm

theorem writePacketData_delivers (D : Codec) (sourceRid targetRid slotNo : ℕ) (ipPacket : Bytes) :
    Delivers s.packetDataTxQueue (s.writePacketData E cfg D sourceRid targetRid slotNo ipPacket).2 :=
  fun _ => writePacketData_queue E cfg s D sourceRid targetRid slotNo ipPacket ▸ carries_push _ rfl

/-- The packets of all frames of one transmission. -/
def IsTransmission (D : Codec) (sourceRid targetRid : ℕ) (ipPacket : Bytes) (packets : List Bytes) :
    Prop :=
  ∃ ns streamId, packets = (encode D sourceRid targetRid cfg.timeslot (cfg.colorCode % 256) ns
    ipPacket 16).map fun frame => buildHomebrewPacket cfg frame streamId

theorem buildHomebrewPacket_ne_nil {data : NetData} (h : data.slotNo = cfg.timeslot)
    (streamId : UInt32) : buildHomebrewPacket cfg data streamId ≠ [] := by
  have hs := cfg.timeslot_valid
  rw [buildHomebrewPacket, if_neg (by omega)]
  simp

theorem takeWhile_built (D : Codec) (sourceRid targetRid ns : ℕ) (ipPacket : Bytes)
    (streamId : UInt32) :
    let packets := (encode D sourceRid targetRid cfg.timeslot (cfg.colorCode % 256) ns ipPacket
      16).map fun frame => buildHomebrewPacket cfg frame streamId
    packets.takeWhile (· ≠ []) = packets := by
  refine List.takeWhile_eq_self_iff.mpr fun packet hp => ?_
  obtain ⟨frame, hf, rfl⟩ := List.mem_map.mp hp
  exact decide_eq_true (buildHomebrewPacket_ne_nil cfg
    (encode_addressed _ _ _ _ _ _ _ frame hf).2.2 _)

/-- **A packet is queued completely**, frame by frame, or not at all. -/
theorem writePacketData_effects (D : Codec) (sourceRid targetRid slotNo : ℕ) (ipPacket : Bytes) :
    let r := s.writePacketData E cfg D sourceRid targetRid slotNo ipPacket
    (r.1 = false ∧ r.2.effects = []) ∨ r.1 = true ∧ ∃ packets,
      IsTransmission cfg D sourceRid targetRid ipPacket packets ∧ r.2.effects = [.queued packets] := by
  unfold writePacketData
  dsimp only
  by_cases h1 : ipPacket = []
  · rw [if_pos h1]
    exact Or.inl ⟨rfl, rfl⟩
  rw [if_neg h1]
  by_cases h2 : s.isConnected = false
  · rw [if_pos h2]
    exact Or.inl ⟨rfl, rfl⟩
  rw [if_neg h2]
  by_cases h3 : encode D sourceRid targetRid cfg.timeslot (cfg.colorCode % 256)
      (((s.packetDataNs.get? sourceRid).getD 0 + 1) % 8) ipPacket 16 = []
  · rw [if_pos h3]
    exact Or.inl ⟨rfl, rfl⟩
  rw [if_neg h3]
  split_ifs
  · exact Or.inl ⟨rfl, rfl⟩
  all_goals
    have hbuilt := takeWhile_built cfg D sourceRid targetRid
      (((s.packetDataNs.get? sourceRid).getD 0 + 1) % 8) ipPacket (E.streamId s.draws)
    exact Or.inr ⟨decide_eq_true hbuilt, _, ⟨_, _, hbuilt⟩, rfl⟩

theorem clockPacketData_delivers (ms : ℕ) :
    Delivers s.packetDataTxQueue (s.clockPacketData E ms) := by
  unfold clockPacketData
  cases hq : s.packetDataTxQueue with
  | nil => exact delivers_idle hq
  | cons packet rest =>
    by_cases h1 : s.isConnected = false
    · simp only [if_pos h1]
      exact delivers_idle hq
    · simp only [if_neg h1]
      by_cases h2 : min ((s.packetDataTxElapsedMs + ms) % 2 ^ 32) (kPacketDataFrameIntervalMs * 2) <
          kPacketDataFrameIntervalMs
      · simp only [if_pos h2]
        exact delivers_idle rfl
      · simp only [if_neg h2]
        by_cases hw : E.writeOk s.writes = true
        · simp only [writePacket, hw, if_true]
          exact fun _ => carries_pop rfl (List.mem_singleton.mpr rfl)
        · simp only [writePacket, hw]
          exact delivers_idle hq

theorem close_closed : NetEffect.closed ∈ (s.close T E cfg).effects :=
  List.mem_append_right _ (List.mem_singleton.mpr rfl)

theorem close_delivers (q : List Bytes) : Delivers q (s.close T E cfg) :=
  delivers_of_closed (close_closed T E cfg s)

theorem deferReconnect_delivers (q : List Bytes) : Delivers q (s.deferReconnect T E cfg) :=
  delivers_andThen (close_delivers T E cfg s q) fun _ => delivers_idle rfl

theorem openSocket_delivers (resolved : Bool) :
    Delivers s.packetDataTxQueue (s.openSocket T E cfg resolved).2 := by
  unfold openSocket
  dsimp only
  split_ifs
  · exact delivers_idle rfl
  · exact fun _ => carries_idle (queued_writePacket E _ _)
  · exact fun _ => carries_idle (queued_writePacket E _ _)

theorem retry_delivers : Delivers s.packetDataTxQueue (s.retry E cfg) := by
  unfold retry
  split
  · exact writePacket_delivers E s _
  · exact send_delivers E s _
  · exact send_delivers E s _
  · exact send_delivers E s _
  · exact send_delivers E s _
  · exact delivers_idle rfl

theorem acknowledge_delivers : Delivers s.packetDataTxQueue (s.acknowledge T E cfg) := by
  unfold acknowledge
  split
  · exact delivers_andThen (send_delivers E _ _) fun _ => delivers_idle rfl
  · exact delivers_andThen (send_delivers E s _) fun _ => delivers_idle rfl
  · split_ifs
    · exact delivers_andThen (send_delivers E s _) fun _ => delivers_idle rfl
    · exact delivers_idle rfl
  · exact delivers_idle rfl
  · exact delivers_idle rfl

theorem parseIncomingDMR_queue (packet : Bytes) :
    (s.parseIncomingDMR cfg packet).packetDataTxQueue = s.packetDataTxQueue := by
  unfold parseIncomingDMR
  dsimp only
  split_ifs <;> rfl

theorem receiveMaster_delivers (length : ℕ) :
    Delivers s.packetDataTxQueue (s.receiveMaster T E cfg length).2 := by
  unfold receiveMaster
  split_ifs
  · exact delivers_idle (parseIncomingDMR_queue cfg _ _)
  · exact delivers_idle (parseIncomingDMR_queue cfg _ _)
  · exact delivers_idle rfl
  · exact acknowledge_delivers T E cfg s
  · exact delivers_idle rfl
  · exact delivers_idle rfl
  · exact deferReconnect_delivers T E cfg s _
  · exact delivers_idle rfl

theorem receiveGateway_queue (length : ℕ) :
    (s.receiveGateway T cfg length).packetDataTxQueue = s.packetDataTxQueue := by
  unfold receiveGateway
  split_ifs
  · exact parseIncomingDMR_queue cfg s _
  · rfl
  · rfl

theorem receive_delivers (bytes : Bytes) (expectedSource : Bool) :
    Delivers s.packetDataTxQueue (s.receive T E cfg bytes expectedSource).2 := by
  unfold receive
  dsimp only
  split_ifs
  · exact delivers_idle rfl
  · exact delivers_idle (receiveGateway_queue T cfg _ _)
  · exact receiveMaster_delivers T E cfg _ _

theorem clockWaitingConnect_delivers (i : ClockInput) :
    Delivers s.packetDataTxQueue (s.clockWaitingConnect T E cfg i) := by
  unfold clockWaitingConnect
  dsimp only
  split_ifs
  · exact openSocket_delivers T E cfg _ _
  · exact writePacket_delivers E _ _
  · exact delivers_andThen (writePacket_delivers E _ _) fun _ => delivers_idle rfl
  · exact delivers_idle rfl

theorem clockTimers_delivers (ms : ℕ) :
    Delivers s.packetDataTxQueue (s.clockTimers T E cfg ms) := by
  refine delivers_andThen (clockPacketData_delivers E s ms) fun s => ?_
  split_ifs
  · unfold clockGatewayTimers
    dsimp only
    split_ifs
    · exact delivers_idle rfl
    · exact delivers_andThen (send_delivers E _ _) fun _ => delivers_idle rfl
    · exact delivers_idle rfl
  · refine delivers_andThen ?_ fun s => ?_
    · unfold clockRetryTimer
      dsimp only
      split_ifs
      · exact delivers_andThen (retry_delivers E cfg _) fun _ => delivers_idle rfl
      · exact delivers_idle rfl
    · unfold clockTimeoutTimer
      dsimp only
      split_ifs
      · exact deferReconnect_delivers T E cfg _ _
      · exact delivers_idle rfl

theorem read_queue : s.read.2.packetDataTxQueue = s.packetDataTxQueue := by
  unfold read
  split_ifs
  · rfl
  · cases s.rxPackets with
    | nil => rfl
    | cons packet rest =>
      dsimp only
      split_ifs <;> rfl

/-- **A turn of the connection** carries the queue unless it closes the connection. -/
theorem clock_delivers (i : ClockInput) : Delivers s.packetDataTxQueue (s.clock T E cfg i) := by
  unfold clock
  split_ifs
  · exact clockWaitingConnect_delivers T E cfg s i
  · split
    · exact delivers_of_closed (List.mem_append_left _ (close_closed T E cfg s))
    · exact clockTimers_delivers T E cfg s i.ms
    · dsimp only
      split_ifs
      · exact receive_delivers T E cfg s _ _
      · exact delivers_andThen (receive_delivers T E cfg s _ _) fun s =>
          clockTimers_delivers T E cfg s i.ms

end BMNetwork

end Brandmeister
