import QuantarBridge.Brandmeister.Queue
import QuantarBridge.Brandmeister.Session

/-!
# The queue is an exact FIFO

Whatever is called, and whatever becomes of the writes: since the connection was last closed, the
frames written from the queue followed by the frames in it are the frames of the packets that
`writePacketData` accepted, packet after packet.

* `frameWritten`: the frames of the queue that a turn writes;
* `records`, `call`: a call with what the account of the queue records of it;
* `call_accounted`: one call keeps the account;
* `queue_exact`: **every run** keeps it, and the pacing never exceeds two intervals.
-/

set_option autoImplicit false

namespace Brandmeister

open Dmr Lib PacketData

variable {τ : Type}

/-- What the account of the queue records. -/
inductive QueueRecord
  | accepted (frames : List Bytes)
  | frame (packet : Bytes)
  | closed
  deriving DecidableEq

namespace QueueRecord

/-- The frames that joined the queue. -/
def joined : QueueRecord → List Bytes
  | .accepted frames => frames
  | _ => []

/-- The frames that left the queue for the socket. -/
def left : QueueRecord → List Bytes
  | .frame packet => [packet]
  | _ => []

/-- The call empties the queue. -/
def clears : QueueRecord → Bool
  | .closed => true
  | _ => false

end QueueRecord

/-- The records since the connection was last closed. -/
def sinceClosed (records : List QueueRecord) : List QueueRecord :=
  sinceCleared QueueRecord.clears records

namespace BMNetwork

variable (T : Timers τ) (E : Surroundings) (cfg : BMConfig) (D : Codec) (s : BMNetwork τ)

/-- The frames of a packet. They share one stream number. -/
def packetFrames (sourceRid targetRid : ℕ) (ipPacket : Bytes) (s : BMNetwork τ) : List Bytes :=
  (encode D sourceRid targetRid cfg.timeslot (cfg.colorCode % 256)
    (((s.packetDataNs.get? sourceRid).getD 0 + 1) % 8) ipPacket 16).map
    fun frame => buildHomebrewPacket cfg frame (E.streamId s.draws)

/-- The frames of the queue that a turn writes. -/
def frameWritten (i : ClockInput) (s : BMNetwork τ) : List Bytes :=
  (s.reachTimers T E cfg i).elim [] fun r =>
    (r.state.clockPacketData E i.ms).effects.flatMap writtenBy

/-- What the account records of a call. -/
def records (s : BMNetwork τ) : NetCall → List QueueRecord
  | .close => [.closed]
  | .clock i => (s.frameWritten T E cfg i).map .frame ++
      if .closed ∈ (s.clock T E cfg i).effects then [.closed] else []
  | .writePacketData sourceRid targetRid slotNo ipPacket =>
    if (s.writePacketData E cfg D sourceRid targetRid slotNo ipPacket).1 then
      [.accepted (s.packetFrames E cfg D sourceRid targetRid ipPacket)]
    else []
  | _ => []

/-- A call and what the account records of it. -/
def call (s : BMNetwork τ) (c : NetCall) : BMNetwork τ × List QueueRecord :=
  ((s.step T E cfg D c).state, s.records T E cfg D c)

/-! ## One turn -/

/-- The pacing never exceeds two intervals. -/
def Paced (s : BMNetwork τ) : Prop := s.packetDataTxElapsedMs ≤ kPacketDataFrameIntervalMs * 2

theorem clockPacketData_cases (ms : ℕ) :
    (s.Paced → (s.clockPacketData E ms).state.Paced) ∧
      (((s.clockPacketData E ms).effects = [] ∧
          (s.clockPacketData E ms).state.packetDataTxQueue = s.packetDataTxQueue) ∨
        ∃ packet, (s.clockPacketData E ms).effects = [.written packet] ∧
          s.packetDataTxQueue = packet :: (s.clockPacketData E ms).state.packetDataTxQueue) := by
  unfold clockPacketData
  cases hq : s.packetDataTxQueue with
  | nil => exact ⟨id, Or.inl ⟨rfl, hq⟩⟩
  | cons packet rest =>
    dsimp only
    have hmin : min ((s.packetDataTxElapsedMs + ms) % 2 ^ 32) (kPacketDataFrameIntervalMs * 2) ≤
        kPacketDataFrameIntervalMs * 2 := Nat.min_le_right _ _
    split_ifs with hc hlt hw hr
    · exact ⟨id, Or.inl ⟨rfl, hq⟩⟩
    · exact ⟨fun _ => hmin, Or.inl ⟨rfl, rfl⟩⟩
    · have heff : (s.writePacket E packet).2.effects = [.written packet] := if_pos hw
      exact ⟨fun _ => Nat.zero_le _, Or.inr ⟨packet, heff, rfl⟩⟩
    · have heff : (s.writePacket E packet).2.effects = [.written packet] := if_pos hw
      exact ⟨fun _ => (Nat.sub_le _ _).trans hmin, Or.inr ⟨packet, heff, rfl⟩⟩
    · have heff : (s.writePacket E packet).2.effects = [] := if_neg hw
      exact ⟨fun _ => Nat.le_mul_of_pos_right _ (by decide), Or.inl ⟨heff, hq⟩⟩

theorem closed_notMem_clockPacketData (ms : ℕ) :
    .closed ∉ (s.clockPacketData E ms).effects := by
  rcases (clockPacketData_cases E s ms).2 with ⟨he, -⟩ | ⟨packet, he, -⟩
  · rw [he]
    exact List.not_mem_nil
  · rw [he]
    simp

theorem clockTimers_queue (ms : ℕ) :
    (s.Paced → (s.clockTimers T E cfg ms).state.Paced) ∧
      if .closed ∈ (s.clockTimers T E cfg ms).effects then
        (s.clockTimers T E cfg ms).state.packetDataTxQueue = []
      else s.packetDataTxQueue = (s.clockPacketData E ms).effects.flatMap writtenBy ++
        (s.clockTimers T E cfg ms).state.packetDataTxQueue := by
  obtain ⟨hp, hcase⟩ := clockPacketData_cases E s ms
  have hn := closed_notMem_clockPacketData E s ms
  have hmem : .closed ∈ (s.clockTimers T E cfg ms).effects ↔
      .closed ∈ ((s.clockPacketData E ms).state.clockSessionTimers T E cfg ms).effects := by
    rw [clockTimers_eq]
    exact List.mem_append.trans (or_iff_right hn)
  have hleft : s.packetDataTxQueue = (s.clockPacketData E ms).effects.flatMap writtenBy ++
      (s.clockPacketData E ms).state.packetDataTxQueue := by
    rcases hcase with ⟨he, hq⟩ | ⟨packet, he, hq⟩
    · rw [he, hq]
      rfl
    · rw [he, hq]
      rfl
  rcases (clockSessionTimers_control T E cfg (s.clockPacketData E ms).state ms).queue with
    ⟨hc, hq, he⟩ | ⟨hc, hq, he⟩
  · rw [if_neg (hmem.not.mpr hc), clockTimers_eq]
    refine ⟨fun h => ?_, ?_⟩
    · exact he.trans_le (hp h)
    · exact hleft.trans (congrArg _ hq.symm)
  · rw [if_pos (hmem.mpr hc), clockTimers_eq]
    exact ⟨fun _ => he.trans_le (Nat.zero_le _), hq⟩

/-- **A turn** writes the first frames of the queue, or closes the connection and clears it. -/
theorem clock_queue (i : ClockInput) :
    (s.Paced → (s.clock T E cfg i).state.Paced) ∧
      if .closed ∈ (s.clock T E cfg i).effects then
        (s.clock T E cfg i).state.packetDataTxQueue = []
      else s.packetDataTxQueue =
        s.frameWritten T E cfg i ++ (s.clock T E cfg i).state.packetDataTxQueue := by
  rcases reachTimers_cases T E cfg s i with ⟨hnone, -, hc⟩ | ⟨r, hr, hn, hcase⟩
  · have hf : s.frameWritten T E cfg i = [] := by
      unfold frameWritten
      rw [hnone]
      rfl
    rcases hc.queue with ⟨hc, hq, he⟩ | ⟨hc, hq, he⟩
    · rw [if_neg hc, hf]
      exact ⟨fun h => he.trans_le h, hq.symm⟩
    · rw [if_pos hc]
      exact ⟨fun _ => he.trans_le (Nat.zero_le _), hq⟩
  · have hf : s.frameWritten T E cfg i =
        (r.state.clockPacketData E i.ms).effects.flatMap writtenBy := by
      unfold frameWritten
      rw [hr]
      rfl
    have hr₀ : r.state.packetDataTxQueue = s.packetDataTxQueue ∧
        r.state.packetDataTxElapsedMs = s.packetDataTxElapsedMs := by
      rcases hcase with ⟨-, hc⟩ | ⟨packet, -, hj⟩
      · rcases hc.queue with ⟨-, hq, he⟩ | ⟨hc, -, -⟩
        · exact ⟨hq, he⟩
        · exact absurd hc hn
      · exact ⟨hj.queue, hj.elapsed⟩
    have hmem : .closed ∈ (s.clock T E cfg i).effects ↔
        .closed ∈ (r.state.clockTimers T E cfg i.ms).effects := by
      rw [clock_of_reachTimers T E cfg s hr]
      exact List.mem_append.trans (or_iff_right hn)
    have hstate : (s.clock T E cfg i).state = (r.state.clockTimers T E cfg i.ms).state := by
      rw [clock_of_reachTimers T E cfg s hr]
      rfl
    obtain ⟨hp, hq⟩ := clockTimers_queue T E cfg r.state i.ms
    rw [hstate, hf, ← hr₀.1]
    simp only [hmem]
    exact ⟨fun h => hp (hr₀.2.trans_le h), hq⟩

/-- **At most one frame** of the queue is written in a turn. -/
theorem length_frameWritten (i : ClockInput) : (s.frameWritten T E cfg i).length ≤ 1 := by
  unfold frameWritten
  cases s.reachTimers T E cfg i with
  | none => exact Nat.zero_le _
  | some r =>
    show ((r.state.clockPacketData E i.ms).effects.flatMap writtenBy).length ≤ 1
    rcases (clockPacketData_cases E r.state i.ms).2 with ⟨he, -⟩ | ⟨packet, he, -⟩
    · rw [he]
      exact Nat.zero_le _
    · rw [he]
      exact Nat.le_refl _

theorem frameWritten_within (i : ClockInput) :
    s.frameWritten T E cfg i <:+: (s.clock T E cfg i).effects.flatMap writtenBy := by
  unfold frameWritten
  cases hr : s.reachTimers T E cfg i with
  | none => exact List.nil_infix
  | some r =>
    rw [clock_of_reachTimers T E cfg s hr]
    have heff : (r.andThen (clockTimers T E cfg i.ms)).effects = r.effects ++
        (r.state.clockPacketData E i.ms).effects ++
        ((r.state.clockPacketData E i.ms).state.clockSessionTimers T E cfg i.ms).effects :=
      (List.append_assoc _ _ _).symm
    rw [heff, List.flatMap_append, List.flatMap_append]
    exact ⟨_, _, rfl⟩

/-! ## One packet -/

theorem writePacketData_joined (sourceRid targetRid slotNo : ℕ) (ipPacket : Bytes) :
    (s.writePacketData E cfg D sourceRid targetRid slotNo ipPacket).2.effects.flatMap queuedBy =
      if (s.writePacketData E cfg D sourceRid targetRid slotNo ipPacket).1 then
        s.packetFrames E cfg D sourceRid targetRid ipPacket
      else [] := by
  unfold writePacketData
  dsimp only
  by_cases h1 : ipPacket = []
  · rw [if_pos h1]
    rfl
  rw [if_neg h1]
  by_cases h2 : s.isConnected = false
  · rw [if_pos h2]
    rfl
  rw [if_neg h2]
  by_cases h3 : encode D sourceRid targetRid cfg.timeslot (cfg.colorCode % 256)
      (((s.packetDataNs.get? sourceRid).getD 0 + 1) % 8) ipPacket 16 = []
  · rw [if_pos h3]
    rfl
  rw [if_neg h3]
  by_cases h4 : kMaxQueuedPacketDataFrames < s.packetDataTxQueue.length +
      (encode D sourceRid targetRid cfg.timeslot (cfg.colorCode % 256)
        (((s.packetDataNs.get? sourceRid).getD 0 + 1) % 8) ipPacket 16).length
  · rw [if_pos h4]
    rfl
  rw [if_neg h4]
  have hbuilt := takeWhile_built cfg D sourceRid targetRid
    (((s.packetDataNs.get? sourceRid).getD 0 + 1) % 8) ipPacket (E.streamId s.draws)
  exact (List.append_nil _).trans (hbuilt.trans (if_pos (decide_eq_true hbuilt)).symm)

/-- **An accepted packet** joins the queue frame by frame, a rejected one leaves it unchanged. -/
theorem writePacketData_accepts (sourceRid targetRid slotNo : ℕ) (ipPacket : Bytes) :
    (s.writePacketData E cfg D sourceRid targetRid slotNo ipPacket).2.state.packetDataTxQueue =
      s.packetDataTxQueue ++
        if (s.writePacketData E cfg D sourceRid targetRid slotNo ipPacket).1 then
          s.packetFrames E cfg D sourceRid targetRid ipPacket
        else [] := by
  rw [← writePacketData_joined]
  exact writePacketData_queue E cfg s D sourceRid targetRid slotNo ipPacket

theorem writePacketData_paced (sourceRid targetRid slotNo : ℕ) (ipPacket : Bytes) (h : s.Paced) :
    (s.writePacketData E cfg D sourceRid targetRid slotNo ipPacket).2.state.Paced := by
  have hstart : kPacketDataFrameIntervalMs ≤ kPacketDataFrameIntervalMs * 2 := by decide
  unfold writePacketData
  dsimp only
  split_ifs
  · exact h
  · exact h
  · exact h
  · exact h
  · exact hstart
  · exact h

/-! ## Runs -/

/-- The account of the queue and its pacing. -/
def Accounted (records : List QueueRecord) (s : BMNetwork τ) : Prop :=
  Balanced QueueRecord.joined QueueRecord.left QueueRecord.clears records s.packetDataTxQueue ∧
    s.Paced

theorem balanced_frames {records : List QueueRecord} (frames : List Bytes) {q : List Bytes}
    (h : Balanced QueueRecord.joined QueueRecord.left QueueRecord.clears records (frames ++ q)) :
    Balanced QueueRecord.joined QueueRecord.left QueueRecord.clears
      (records ++ frames.map QueueRecord.frame) q := by
  induction frames generalizing records with
  | nil =>
    rw [List.map_nil, List.append_nil]
    exact h
  | cons frame frames ih =>
    rw [List.map_cons, List.append_cons]
    have hleave := balanced_leave (o := QueueRecord.frame frame) h rfl rfl
    exact ih hleave

theorem accounted_of_eq {records : List QueueRecord} {s' : BMNetwork τ} (h : s.Accounted records)
    (hq : s'.packetDataTxQueue = s.packetDataTxQueue)
    (he : s'.packetDataTxElapsedMs = s.packetDataTxElapsedMs) :
    s'.Accounted (records ++ []) := by
  rw [List.append_nil]
  refine ⟨?_, he.trans_le h.2⟩
  rw [hq]
  exact h.1

theorem openSocket_queue (resolved : Bool) :
    (s.openSocket T E cfg resolved).2.state.packetDataTxQueue = s.packetDataTxQueue ∧
      (s.openSocket T E cfg resolved).2.state.packetDataTxElapsedMs = s.packetDataTxElapsedMs := by
  unfold openSocket
  dsimp only
  split_ifs <;> exact ⟨rfl, rfl⟩

theorem write_queue (data : NetData) :
    (s.write E cfg data).2.state.packetDataTxQueue = s.packetDataTxQueue ∧
      (s.write E cfg data).2.state.packetDataTxElapsedMs = s.packetDataTxElapsedMs := by
  unfold write
  dsimp only
  split_ifs <;> exact ⟨rfl, rfl⟩

theorem read_elapsed : s.read.2.packetDataTxElapsedMs = s.packetDataTxElapsedMs := by
  unfold read
  split_ifs
  · rfl
  · cases s.rxPackets with
    | nil => rfl
    | cons packet rest =>
      dsimp only
      split_ifs <;> rfl

/-- **One call** keeps the account. -/
theorem call_accounted (c : NetCall) {records : List QueueRecord} (h : s.Accounted records) :
    (s.call T E cfg D c).1.Accounted (records ++ (s.call T E cfg D c).2) := by
  cases c with
  | openSocket resolved =>
    obtain ⟨hq, he⟩ := openSocket_queue T E cfg s resolved
    exact accounted_of_eq s h hq he
  | close => exact ⟨balanced_clear rfl, Nat.zero_le _⟩
  | clock i =>
    obtain ⟨hp, hq⟩ := clock_queue T E cfg s i
    unfold call BMNetwork.records step
    dsimp only
    refine ⟨?_, hp h.2⟩
    by_cases hc : .closed ∈ (s.clock T E cfg i).effects
    · rw [if_pos hc] at hq ⊢
      rw [hq, ← List.append_assoc]
      exact balanced_clear rfl
    · rw [if_neg hc] at hq ⊢
      rw [List.append_nil]
      refine balanced_frames _ ?_
      rw [← hq]
      exact h.1
  | read => exact accounted_of_eq s h (read_queue s) (read_elapsed s)
  | write data =>
    obtain ⟨hq, he⟩ := write_queue E cfg s data
    exact accounted_of_eq s h hq he
  | writePacketData sourceRid targetRid slotNo ipPacket =>
    have hq := writePacketData_accepts E cfg D s sourceRid targetRid slotNo ipPacket
    have hp := writePacketData_paced E cfg D s sourceRid targetRid slotNo ipPacket h.2
    unfold call BMNetwork.records step
    dsimp only
    refine ⟨?_, hp⟩
    rw [hq]
    split_ifs
    · exact balanced_join (o := QueueRecord.accepted _) h.1 rfl rfl
    · rw [List.append_nil, List.append_nil]
      exact h.1

/-- The packets of one transmission carry one stream number. -/
def OneStream (packets : List Bytes) : Prop :=
  ∃ streamId, ∀ packet ∈ packets, (packet.drop 16).take 4 = bytes32Le streamId

theorem streamId_buildHomebrewPacket {data : NetData} (h : data.slotNo = cfg.timeslot)
    (streamId : UInt32) :
    ((buildHomebrewPacket cfg data streamId).drop 16).take 4 = bytes32Le streamId := by
  have hs := cfg.timeslot_valid
  rw [buildHomebrewPacket, if_neg (by omega)]
  rfl

theorem packetFrames_oneStream (sourceRid targetRid : ℕ) (ipPacket : Bytes) :
    OneStream (s.packetFrames E cfg D sourceRid targetRid ipPacket) := by
  refine ⟨E.streamId s.draws, fun packet hp => ?_⟩
  obtain ⟨frame, hf, rfl⟩ := List.mem_map.mp hp
  exact streamId_buildHomebrewPacket cfg (encode_addressed _ _ _ _ _ _ _ frame hf).2.2 _

theorem call_oneStream (c : NetCall) {frames : List Bytes}
    (h : .accepted frames ∈ (s.call T E cfg D c).2) : OneStream frames := by
  cases c with
  | openSocket resolved => exact absurd h List.not_mem_nil
  | close => simp [call, records] at h
  | clock i =>
    rcases List.mem_append.mp h with h | h
    · obtain ⟨packet, -, hp⟩ := List.mem_map.mp h
      cases hp
    · split_ifs at h
      · simp at h
      · exact absurd h List.not_mem_nil
  | read => exact absurd h List.not_mem_nil
  | write data => exact absurd h List.not_mem_nil
  | writePacketData sourceRid targetRid slotNo ipPacket =>
    unfold call records at h
    dsimp only at h
    split_ifs at h
    · obtain rfl := QueueRecord.accepted.inj (List.mem_singleton.mp h)
      exact packetFrames_oneStream E cfg D s sourceRid targetRid ipPacket
    · exact absurd h List.not_mem_nil

theorem left_clock (i : ClockInput) :
    (s.call T E cfg D (.clock i)).2.flatMap QueueRecord.left = s.frameWritten T E cfg i := by
  have hmap : ∀ frames : List Bytes,
      (frames.map QueueRecord.frame).flatMap QueueRecord.left = frames := by
    intro frames
    induction frames with
    | nil => rfl
    | cons frame frames ih => rw [List.map_cons, List.flatMap_cons, ih]; rfl
  unfold call records
  dsimp only
  rw [List.flatMap_append, hmap]
  split_ifs
  · exact List.append_nil _
  · exact List.append_nil _

theorem run_accounted (calls : List NetCall) (retryTimer timeoutTimer beaconTimer : τ) :
    let s := create E.streamId retryTimer timeoutTimer beaconTimer
    (Run.final (call T E cfg D) s calls).Accounted (Run.outputs (call T E cfg D) s calls) ∧
      ∀ frames, .accepted frames ∈ Run.outputs (call T E cfg D) s calls → OneStream frames := by
  have hstep : ∀ (records : List QueueRecord) (s : BMNetwork τ) (c : NetCall),
      (s.Accounted records ∧ ∀ frames, .accepted frames ∈ records → OneStream frames) →
      (s.call T E cfg D c).1.Accounted (records ++ (s.call T E cfg D c).2) ∧
        ∀ frames, .accepted frames ∈ records ++ (s.call T E cfg D c).2 → OneStream frames := by
    rintro records s c ⟨h, hone⟩
    refine ⟨call_accounted T E cfg D s c h, fun frames hf => ?_⟩
    rcases List.mem_append.mp hf with hf | hf
    · exact hone frames hf
    · exact call_oneStream T E cfg D s c hf
  intro s
  exact Run.outputs_of_step _ hstep calls [] s
    ⟨⟨balanced_nil, Nat.zero_le _⟩, fun _ h => absurd h List.not_mem_nil⟩

/-- **The queue is an exact FIFO.** In every run, since the connection was last closed, the frames
written from the queue and then the frames in it are the frames of the accepted packets, each packet
with one stream number. A turn writes at most one of them, the pacing stays below two intervals, and
a rejected packet leaves the queue unchanged. -/
theorem queue_exact (calls : List NetCall) (retryTimer timeoutTimer beaconTimer : τ) :
    let start := create E.streamId retryTimer timeoutTimer beaconTimer
    let s := Run.final (call T E cfg D) start calls
    let records := sinceClosed (Run.outputs (call T E cfg D) start calls)
    records.flatMap QueueRecord.left ++ s.packetDataTxQueue = records.flatMap QueueRecord.joined ∧
      (∀ frames, .accepted frames ∈ records → OneStream frames) ∧
      (∀ i, ((s.call T E cfg D (.clock i)).2.flatMap QueueRecord.left).length ≤ 1 ∧
        (s.call T E cfg D (.clock i)).2.flatMap QueueRecord.left <:+:
          (s.clock T E cfg i).effects.flatMap writtenBy) ∧
      s.packetDataTxElapsedMs ≤ 120 ∧
      ∀ sourceRid targetRid slotNo ipPacket,
        (s.writePacketData E cfg D sourceRid targetRid slotNo ipPacket).1 = false →
          (s.writePacketData E cfg D sourceRid targetRid slotNo ipPacket).2.state.packetDataTxQueue =
            s.packetDataTxQueue := by
  intro start s records
  obtain ⟨⟨hbal, hpaced⟩, hone⟩ := run_accounted T E cfg D calls retryTimer timeoutTimer beaconTimer
  refine ⟨hbal, fun frames hf => hone frames (List.rtakeWhile_suffix _ _ |>.subset hf), fun i => ?_,
    hpaced, fun sourceRid targetRid slotNo ipPacket hr => ?_⟩
  · rw [left_clock]
    exact ⟨length_frameWritten T E cfg s i, frameWritten_within T E cfg s i⟩
  · rw [writePacketData_accepts, if_neg (by rw [hr]; exact Bool.false_ne_true), List.append_nil]

end BMNetwork

end Brandmeister
