import Mathlib.Data.List.GetD
import QuantarBridge.PacketData.Encoder
import QuantarBridge.PacketData.Fill
import QuantarBridge.PacketData.PlainCodec

/-!
# Transmissions over a lossy link

A sequence of packets is encoded and sent over one link. Every frame arrives intact, is lost, or
arrives garbled so that it does not decode. `emitted` is what the reassembler makes of the frames
that arrive.

Unconfirmed blocks carry no serial number and the CRC of a packet is not checked, so a block of one
transmission can complete the session of an earlier one. `Waiting` follows the session of the link
by counting alone, and `NoTakeover` is the condition on the losses under which a session is only
completed by the transmission that opened it.

* `Fate`, `Transmission`, `Passage`, `emitted`;
* `Waiting`, `NoTakeover`, `Restorable`;
* `trimPacket_restorable`: trimming gives the packet back;
* `Tracks`: the count follows the session, `tracks_receive` is its step lemma;
* `emitted_of_noTakeover`: without a takeover every emitted packet is a transmitted one.
-/

set_option autoImplicit false

namespace PacketData

open Dmr Lib

/-- The payload decodes neither as a header nor as a block. -/
def Codec.Undecodable (D : Codec) (payload : Payload) : Prop :=
  D.headerDecode payload = none ∧ ∀ dataType h, D.blockDecode dataType h payload = none

/-- What happens to a frame on the link. -/
inductive Fate (D : Codec)
  | lost
  | intact
  | garbled (payload : Payload) (undecodable : D.Undecodable payload)

/-- The frame that arrives. -/
def Fate.arrive {D : Codec} (frame : NetData) : Fate D → Option NetData
  | .lost => none
  | .intact => some frame
  | .garbled payload _ => some { frame with data := payload }

instance {D : Codec} : (f : Fate D) → Decidable (f = .intact)
  | .lost => isFalse nofun
  | .intact => isTrue rfl
  | .garbled _ _ => isFalse nofun

/-- One source, one target and one slot. -/
structure Link where
  sourceRid : ℕ
  targetRid : ℕ
  slotNo : ℕ

/-- One packet with the time and the fate of each of its frames. -/
structure Transmission (D : Codec) where
  colorCode : ℕ
  sequenceNo : ℕ
  preambleCount : ℕ
  packet : List UInt8
  time : ℕ → Time
  fate : ℕ → Fate D

/-- One frame of transmission number `no` on the link. -/
structure Passage (D : Codec) where
  no : ℕ
  x : Transmission D
  frame : NetData
  time : Time
  fate : Fate D

variable {D : Codec}

/-- The header of a transmission. -/
def Transmission.header (l : Link) (x : Transmission D) : DataHeader :=
  headerOf D l.sourceRid l.targetRid x.sequenceNo x.packet

/-- The frames of a transmission. -/
def Transmission.frames (l : Link) (x : Transmission D) : List NetData :=
  encode D l.sourceRid l.targetRid l.slotNo x.colorCode x.sequenceNo x.packet x.preambleCount

/-- The frames of a transmission with their times and fates. -/
def Transmission.passages (l : Link) (no : ℕ) (x : Transmission D) : List (Passage D) :=
  (x.frames l).mapIdx fun i frame => ⟨no, x, frame, x.time i, x.fate i⟩

/-- The transmissions one after the other, numbered from `no`. -/
def stream (l : Link) : ℕ → List (Transmission D) → List (Passage D)
  | _, [] => []
  | no, x :: xs => x.passages l no ++ stream l (no + 1) xs

/-- The reassembler behind the link. -/
def receive (s : Reassembler) (e : Passage D) : Reassembler × List Packet :=
  match e.fate.arrive e.frame with
  | none => (s, [])
  | some frame => pushStep D s (frame, e.time)

/-- The packets the reassembler emits. -/
def emitted (l : Link) (xs : List (Transmission D)) : List Packet :=
  Run.outputs receive Reassembler.init (stream l 0 xs)

/-- Every emitted packet has the bytes of a transmitted one. -/
def NeverMixes (l : Link) (xs : List (Transmission D)) : Prop :=
  ∀ p ∈ emitted l xs, ∃ x ∈ xs, p.bytes = x.packet

/-- Consecutive frames are at most one session timeout apart. -/
def Timely (l : Link) (xs : List (Transmission D)) : Prop :=
  (stream l 0 xs).IsChain fun a b => a.time ≤ b.time ∧ b.time ≤ a.time + kSessionTimeout

/-! ## The condition -/

/-- The open session of the link: who opened it, how many blocks it misses, its last frame. -/
structure Waiting where
  owner : ℕ
  missing : ℕ
  updatedAt : Time

/-- A session without a frame for longer than the timeout is gone. -/
def Waiting.live (now : Time) (w : Option Waiting) : Option Waiting :=
  w.filter fun w => ¬ kSessionTimeout < now - w.updatedAt

/-- The session after one more frame. -/
def waitNext (l : Link) (w : Option Waiting) (e : Passage D) : Option Waiting :=
  let n := (e.x.header l).blocksToFollow.toNat
  match e.fate with
  | .lost => w
  | .garbled _ _ =>
    if e.frame.dataType = .RATE_12_DATA then
      (Waiting.live e.time w).map fun w => { w with updatedAt := e.time }
    else Waiting.live e.time w
  | .intact =>
    if e.frame.dataType = .DATA_HEADER then
      if n ≠ 0 ∧ n ≤ kMaxBlocks then some ⟨e.no, n, e.time⟩ else Waiting.live e.time w
    else if e.frame.dataType = .RATE_12_DATA then
      (Waiting.live e.time w).bind fun w =>
        if w.missing = 1 then none else some ⟨w.owner, w.missing - 1, e.time⟩
    else Waiting.live e.time w

/-- The count as a machine without outputs. -/
def waitStep (l : Link) (w : Option Waiting) (e : Passage D) : Option Waiting × List Empty :=
  (waitNext l w e, [])

/-- Trimming the blocks of the packet gives the packet back: an IPv4 packet names its own length,
anything else is followed by the padding its header names and four bytes of CRC. -/
def Restorable (h : DataHeader) (packet : List UInt8) : Prop :=
  let ipv4 := 20 ≤ 12 * h.blocksToFollow.toNat ∧ packet.getD 0 0 >>> 4 = 4
  packet.length ≤ 12 * h.blocksToFollow.toNat ∧
    (ipv4 → 4 ≤ packet.length ∧ readUint16 packet 2 = packet.length ∧
      (packet.getD 0 0 &&& 0x0F).toNat * 4 ≤ packet.length) ∧
    (¬ ipv4 → packet.length + (h.padLength.toNat + 4) = 12 * h.blocksToFollow.toNat)

instance (h : DataHeader) (packet : List UInt8) : Decidable (Restorable h packet) :=
  inferInstanceAs (Decidable (_ ∧ (_ → _) ∧ (¬ _ → _)))

/-- The block that completes an open session belongs to the transmission that opened it, and
trimming restores the packet of that transmission. -/
def OwnCompletion (l : Link) (w : Option Waiting) (e : Passage D) : Prop :=
  e.fate = .intact → e.frame.dataType = .RATE_12_DATA →
    ∀ w' ∈ Waiting.live e.time w, w'.missing = 1 →
      w'.owner = e.no ∧ Restorable (e.x.header l) e.x.packet

instance (l : Link) (w : Option Waiting) (e : Passage D) : Decidable (OwnCompletion l w e) :=
  inferInstanceAs (Decidable (_ → _ → ∀ w' ∈ _, _ → _ ∧ _))

/-- Every completed session is completed by its own transmission. -/
def NoTakeover (l : Link) (xs : List (Transmission D)) : Prop :=
  Run.Along (waitStep l) (OwnCompletion l) none (stream l 0 xs)

/-! ## Trimming -/

theorem readUint16_append (a b : List UInt8) (i : ℕ) (h : i + 1 < a.length) :
    readUint16 (a ++ b) i = readUint16 a i := by
  rw [readUint16, readUint16, List.getD_append _ _ _ _ (by omega), List.getD_append _ _ _ _ h]

/-- **Trimming gives the packet back.** -/
theorem trimPacket_restorable {h : DataHeader} {packet userData : List UInt8}
    (hr : Restorable h packet) (hne : packet ≠ []) (hp : packet <+: userData)
    (hl : 12 * h.blocksToFollow.toNat ≤ userData.length) :
    trimPacket h.padLength.toNat false (userData.take (12 * h.blocksToFollow.toNat)) = packet := by
  obtain ⟨hfit, hip, hpad⟩ := hr
  have hlen : (userData.take (12 * h.blocksToFollow.toNat)).length = 12 * h.blocksToFollow.toNat := by
    rw [List.length_take]; omega
  obtain ⟨rest, hrest⟩ : packet <+: userData.take (12 * h.blocksToFollow.toNat) := by
    refine List.prefix_of_prefix_length_le hp (List.take_prefix _ _) ?_
    rw [hlen]
    exact hfit
  rw [← hrest] at hlen ⊢
  have h0 : (packet ++ rest).getD 0 0 = packet.getD 0 0 :=
    List.getD_append _ _ _ _ (List.length_pos_of_ne_nil hne)
  unfold trimPacket
  simp only [h0, hlen, Bool.false_eq_true, if_false]
  split_ifs with h1 h2 h3
  · obtain ⟨h4, h5, h6⟩ := hip h1
    rw [readUint16_append _ _ _ (by omega), h5, List.take_left]
  · obtain ⟨h4, h5, h6⟩ := hip h1
    rw [readUint16_append _ _ _ (by omega), h5] at h2
    exact absurd ⟨h6, hfit⟩ h2
  · rw [← hpad h1, Nat.add_sub_cancel, List.take_left]
  · exact absurd (Nat.le_of_add_left_le (Nat.le_of_eq (hpad h1))) h3

/-! ## The count follows the session -/

/-- The key of the link's session. -/
def Link.key (l : Link) : ℕ := sessionKey l.sourceRid l.targetRid l.slotNo

/-- The count describes the session while transmission `no` has sent the blocks `done`. A session
of its own holds some of these blocks, in order. -/
inductive Tracks (l : Link) (no : ℕ) (x : Transmission D) (done : List (List UInt8)) :
    Option Waiting → Option Session → Prop
  | closed : Tracks l no x done none none
  | opened (w : Waiting) (session : Session) (got : List (List UInt8))
      (updated : w.updatedAt = session.updatedAt) (filled : session.Filled got)
      (dpf : session.header.dpf = .UNCONFIRMED_DATA)
      (missing : w.missing + got.length = session.expectedBlocks) (owner : w.owner ≤ no)
      (own : w.owner = no → session.header.padLength = (x.header l).padLength ∧
        session.expectedBlocks = (x.header l).blocksToFollow.toNat ∧ got.Sublist done) :
      Tracks l no x done (some w) (some session)

section Tracks

variable {l : Link} {no : ℕ} {x : Transmission D} {done : List (List UInt8)} {w : Option Waiting}
  {o : Option Session}

theorem tracks_live (h : Tracks l no x done w o) (now : Time) :
    Tracks l no x done (Waiting.live now w)
      (o.filter fun session => ¬ kSessionTimeout < now - session.updatedAt) := by
  cases h with
  | closed => exact .closed
  | opened w session got updated filled dpf missing owner own =>
    rw [Waiting.live, Option.filter_some, Option.filter_some, updated]
    split_ifs
    · exact .opened w session got updated filled dpf missing owner own
    · exact .closed

theorem tracks_mono (h : Tracks l no x done w o) (b : List UInt8) :
    Tracks l no x (done ++ [b]) w o := by
  cases h with
  | closed => exact .closed
  | opened w session got updated filled dpf missing owner own =>
    exact .opened w session got updated filled dpf missing owner fun ho =>
      ⟨(own ho).1, (own ho).2.1, (own ho).2.2.trans (List.sublist_append_left _ _)⟩

theorem tracks_next (h : Tracks l no x done w o) (y : Transmission D) :
    Tracks l (no + 1) y [] w o := by
  cases h with
  | closed => exact .closed
  | opened w session got updated filled dpf missing owner own =>
    exact .opened w session got updated filled dpf missing (Nat.le_succ_of_le owner) fun ho => by omega

theorem tracks_touch (h : Tracks l no x done w o) (now : Time) :
    Tracks l no x done (w.map fun w => { w with updatedAt := now })
      (o.map fun session => session.touch now) := by
  cases h with
  | closed => exact .closed
  | opened w session got updated filled dpf missing owner own =>
    exact .opened _ _ got rfl (filled.touch now) dpf missing owner own

/-- The result of one step: the count still follows the session and only the packet of the
transmission was emitted. -/
def StepOk (l : Link) (no : ℕ) (x : Transmission D) (done : List (List UInt8))
    (w : Option Waiting) (r : Reassembler × List Packet) : Prop :=
  Tracks l no x done w (r.1.sessions.get? l.key) ∧ ∀ p ∈ r.2, p.bytes = x.packet

variable {s : Reassembler} {frame : NetData} {now : Time}

theorem tracks_expire (h : Tracks l no x done w (s.sessions.get? l.key)) (now : Time) :
    Tracks l no x done (Waiting.live now w) ((s.expire now).sessions.get? l.key) := by
  rw [Reassembler.get?_expire]
  exact tracks_live h now

theorem frameKey_of_addressed (ha : Addressed l.sourceRid l.targetRid l.slotNo frame) :
    frameKey frame = l.key := by
  rw [frameKey, ha.1, ha.2.1, ha.2.2, Link.key]

theorem step_other (h : Tracks l no x done w (s.sessions.get? l.key))
    (hh : frame.dataType ≠ .DATA_HEADER) (hb : isPayloadDataType frame.dataType = false) :
    StepOk l no x done (Waiting.live now w) (pushStep D s (frame, now)) := by
  have hp : s.push D frame now = (s.expire now, ⟨false, none⟩) := by
    simp [Reassembler.push, hh, hb]
  rw [StepOk, pushStep, hp]
  exact ⟨tracks_expire h now, by simp⟩

theorem step_header (hD : D.Transparent) (h : Tracks l no x [] w (s.sessions.get? l.key))
    (ha : Addressed l.sourceRid l.targetRid l.slotNo frame)
    (hf : CarriesHeader D (x.header l) frame) :
    let n := (x.header l).blocksToFollow.toNat
    StepOk l no x [] (if n ≠ 0 ∧ n ≤ kMaxBlocks then some ⟨no, n, now⟩ else Waiting.live now w)
      (pushStep D s (frame, now)) := by
  intro n
  obtain ⟨pad, blocks, hfields⟩ := headerOf_fields l.sourceRid l.targetRid x.sequenceNo x.packet hD
  obtain ⟨htype, h', hdecode, hagrees⟩ := hf
  have hdpf : h'.dpf = .UNCONFIRMED_DATA := by
    rw [hagrees.dpf, Transmission.header, hfields]
    rfl
  have hsap : h'.sap = .PACKET_DATA := by
    rw [hagrees.sap, Transmission.header, hfields]
    rfl
  have hcount : h'.blocksToFollow.toNat = n := congrArg UInt8.toNat hagrees.blocksToFollow
  rw [StepOk, pushStep, Reassembler.push]
  simp only [if_pos htype]
  split_ifs with hn
  · rw [← hcount] at hn
    rw [Reassembler.pushHeader_accepted D hdecode hdpf hsap hn.1 hn.2, frameKey_of_addressed ha]
    refine ⟨?_, by simp⟩
    rw [Dict.get?_set, if_pos rfl]
    exact .opened _ _ [] rfl (Session.filled_ofHeader hdpf hn.1 now) hdpf hcount.symm le_rfl
      fun _ => ⟨hagrees.padLength, hcount, List.nil_sublist _⟩
  · rw [Reassembler.pushHeader_refused D hdecode (by omega)]
    exact ⟨tracks_expire h now, by simp⟩

/-- A garbled header is ignored. -/
theorem step_garbled_header (h : Tracks l no x done w (s.sessions.get? l.key))
    (hh : frame.dataType = .DATA_HEADER) (hu : D.Undecodable frame.data) :
    StepOk l no x done (Waiting.live now w) (pushStep D s (frame, now)) := by
  have hp : s.push D frame now = (s.expire now, ⟨false, none⟩) := by
    simp [Reassembler.push, Reassembler.pushHeader, hh, hu.1]
  rw [StepOk, pushStep, hp]
  exact ⟨tracks_expire h now, by simp⟩

theorem push_block (hb : frame.dataType = .RATE_12_DATA) :
    s.push D frame now = (s.expire now).pushBlock D frame now := by
  simp [Reassembler.push, hb, isPayloadDataType]

/-- A garbled block refreshes the session. -/
theorem step_garbled_block (h : Tracks l no x done w (s.sessions.get? l.key))
    (ha : Addressed l.sourceRid l.targetRid l.slotNo frame)
    (hb : frame.dataType = .RATE_12_DATA) (hu : D.Undecodable frame.data) :
    StepOk l no x done ((Waiting.live now w).map fun w => { w with updatedAt := now })
      (pushStep D s (frame, now)) := by
  have hk := frameKey_of_addressed ha
  have ht := tracks_touch (tracks_expire h now) now
  rw [StepOk, pushStep, push_block hb]
  cases ho : (s.expire now).sessions.get? l.key with
  | none =>
    rw [ho] at ht
    rw [Reassembler.pushBlock_none D (by rw [hk, ho])]
    exact ⟨by rw [ho]; exact ht, by simp⟩
  | some session =>
    rw [ho] at ht
    rw [Reassembler.pushBlock_garbled D (by rw [hk, ho]) fun header => hu.2 _ header, hk]
    refine ⟨?_, by simp⟩
    rw [Dict.get?_set, if_pos rfl]
    exact ht

/-- **A block that arrives.** It is filed in the open session. When it completes the session, the
session belongs to the transmission and its packet is the one transmitted. -/
theorem step_block {b : List UInt8} (hD : D.Transparent) (hne : x.packet ≠ [])
    (h : Tracks l no x done w (s.sessions.get? l.key))
    (ha : Addressed l.sourceRid l.targetRid l.slotNo frame) (hf : CarriesBlock D frame b)
    (hpre : done ++ [b] <+: packetBlocks (D.userData (x.header l) x.packet)
      (x.header l).blocksToFollow.toNat)
    (hc : ∀ w' ∈ Waiting.live now w, w'.missing = 1 →
      w'.owner = no ∧ Restorable (x.header l) x.packet) :
    StepOk l no x (done ++ [b]) ((Waiting.live now w).bind fun w =>
      if w.missing = 1 then none else some ⟨w.owner, w.missing - 1, now⟩)
      (pushStep D s (frame, now)) := by
  have hk := frameKey_of_addressed ha
  have ht := tracks_expire h now
  rw [StepOk, pushStep, push_block hf.1]
  generalize Waiting.live now w = lw at ht hc ⊢
  generalize hs : s.expire now = s' at ht ⊢
  generalize ho : s'.sessions.get? l.key = o at ht
  cases ht with
  | closed =>
    rw [Reassembler.pushBlock_none D (by rw [hk, ho])]
    exact ⟨by rw [ho]; exact .closed, by simp⟩
  | opened w session got updated filled dpf missing owner own =>
    obtain ⟨serialNo, hdec⟩ := hf.2 session.header dpf
    rw [← hf.1] at hdec
    obtain ⟨hhead, hexp, -, -, -, hdsd, hupd, -⟩ := filled.fill_eq b now
    have hm := filled.missing
    rw [Option.bind_some]
    split_ifs with h1
    · -- the last missing block: the session is the transmission's own and holds all its blocks
      obtain ⟨ho', hr⟩ := hc w rfl h1
      obtain ⟨hpad, hblocks, hsub⟩ := own ho'
      rw [Reassembler.pushBlock_last D (by rw [hk, ho]) filled hdec (by omega)]
      refine ⟨?_, fun p hp => ?_⟩
      · rw [Reassembler.emit_sessions, hk, Dict.get?_erase, if_pos rfl]
        exact .closed
      · rw [Reassembler.emit_packet _ _ _ p (Option.mem_toList.mp hp)]
        have hall : got ++ [b] = packetBlocks (D.userData (x.header l) x.packet)
            (x.header l).blocksToFollow.toNat := by
          have hsub' := (hsub.append_right [b]).trans hpre.sublist
          refine hsub'.eq_of_length ?_
          rw [length_packetBlocks, List.length_append, List.length_singleton]
          omega
        have hbytes := filled.bytes_fill b now (by omega)
        rw [hall, flatten_packetBlocks] at hbytes
        rw [Reassembler.packetOf, hdsd, hhead, hpad, hbytes]
        exact trimPacket_restorable hr hne (hD.userData_prefix _ _ hr.1) (hD.userData_length _ _)
    · rw [Reassembler.pushBlock_missing D (by rw [hk, ho]) filled hdec (by omega)]
      refine ⟨?_, by simp⟩
      rw [hk, Dict.get?_set, if_pos rfl]
      refine .opened _ _ (got ++ [b]) hupd.symm (filled.fill now (by omega)) (hhead ▸ dpf) ?_ owner
        fun ho' => ⟨(congrArg DataHeader.padLength hhead).trans (own ho').1, hexp.trans (own ho').2.1,
          (own ho').2.2.append_right [b]⟩
      rw [hexp, List.length_append, List.length_singleton]
      simp only
      omega

end Tracks

/-! ## Runs -/

section Runs

variable {l : Link} {no : ℕ} {x : Transmission D} {done : List (List UInt8)} {w : Option Waiting}
  {s : Reassembler}

/-- The passage is a frame of transmission `no` on the link. -/
def PassageOf (l : Link) (no : ℕ) (x : Transmission D) (e : Passage D) : Prop :=
  e.no = no ∧ e.x = x ∧ Addressed l.sourceRid l.targetRid l.slotNo e.frame

/-- After the passages the count still follows the session and only the packet of the transmission
was emitted. -/
def RunOk (l : Link) (no : ℕ) (x : Transmission D) (done : List (List UInt8))
    (w : Option Waiting) (s : Reassembler) (es : List (Passage D)) : Prop :=
  Tracks l no x done (Run.final (waitStep l) w es)
    ((Run.final receive s es).sessions.get? l.key) ∧
  ∀ p ∈ Run.outputs receive s es, p.bytes = x.packet

theorem runOk_cons {done' : List (List UInt8)} {e : Passage D} {es : List (Passage D)}
    (h : StepOk l no x done (waitStep l w e).1 (receive s e))
    (hs : Tracks l no x done (waitStep l w e).1 ((receive s e).1.sessions.get? l.key) →
      RunOk l no x done' (waitStep l w e).1 (receive s e).1 es) :
    RunOk l no x done' w s (e :: es) := by
  obtain ⟨ht, hp⟩ := hs h.1
  refine ⟨ht, fun p hm => ?_⟩
  rw [Run.outputs_cons, List.mem_append] at hm
  exact hm.elim (h.2 p) (hp p)

theorem runOk_append {done' : List (List UInt8)} {es fs : List (Passage D)}
    (h : RunOk l no x done w s es)
    (hs : RunOk l no x done' (Run.final (waitStep l) w es) (Run.final receive s es) fs) :
    RunOk l no x done' w s (es ++ fs) := by
  refine ⟨by rw [Run.final_append, Run.final_append]; exact hs.1, fun p hm => ?_⟩
  rw [Run.outputs_append, List.mem_append] at hm
  exact hm.elim (h.2 p) (hs.2 p)

theorem receive_preamble {e : Passage D} (h : Tracks l no x done w (s.sessions.get? l.key))
    (hf : e.frame.dataType = .CSBK) :
    StepOk l no x done (waitStep l w e).1 (receive s e) := by
  have hh : e.frame.dataType ≠ .DATA_HEADER := by rw [hf]; decide
  have hr : e.frame.dataType ≠ .RATE_12_DATA := by rw [hf]; decide
  have hb : isPayloadDataType e.frame.dataType = false := by rw [hf]; decide
  rw [receive, waitStep, waitNext]
  cases e.fate with
  | lost => exact ⟨h, fun _ hp => absurd hp List.not_mem_nil⟩
  | intact =>
    simp only [if_neg hh, if_neg hr]
    exact step_other h hh hb
  | garbled payload hu =>
    simp only [if_neg hr]
    exact step_other h hh hb

theorem receive_header {e : Passage D} (hD : D.Transparent)
    (h : Tracks l no x [] w (s.sessions.get? l.key)) (he : PassageOf l no x e)
    (hf : CarriesHeader D (x.header l) e.frame) :
    StepOk l no x [] (waitStep l w e).1 (receive s e) := by
  obtain ⟨rfl, rfl, ha⟩ := he
  have hr : e.frame.dataType ≠ .RATE_12_DATA := by rw [hf.1]; decide
  rw [receive, waitStep, waitNext]
  cases hfate : e.fate with
  | lost => exact ⟨h, fun _ hp => absurd hp List.not_mem_nil⟩
  | intact =>
    simp only [if_pos hf.1]
    exact step_header hD h ha hf
  | garbled payload hu =>
    simp only [if_neg hr]
    exact step_garbled_header h hf.1 hu

theorem receive_block {e : Passage D} {b : List UInt8} (hD : D.Transparent) (hne : x.packet ≠ [])
    (h : Tracks l no x done w (s.sessions.get? l.key)) (he : PassageOf l no x e)
    (hf : CarriesBlock D e.frame b)
    (hpre : done ++ [b] <+: packetBlocks (D.userData (x.header l) x.packet)
      (x.header l).blocksToFollow.toNat)
    (hc : OwnCompletion l w e) :
    StepOk l no x (done ++ [b]) (waitStep l w e).1 (receive s e) := by
  obtain ⟨rfl, rfl, ha⟩ := he
  have hh : e.frame.dataType ≠ .DATA_HEADER := by rw [hf.1]; decide
  rw [receive, waitStep, waitNext]
  cases hfate : e.fate with
  | lost => exact ⟨tracks_mono h b, fun _ hp => absurd hp List.not_mem_nil⟩
  | intact =>
    simp only [if_neg hh, if_pos hf.1]
    exact step_block hD hne h ha hf hpre (hc hfate hf.1)
  | garbled payload hu =>
    simp only [if_pos hf.1]
    exact step_garbled_block (tracks_mono h b) ha hf.1 hu

theorem run_preambles {es : List (Passage D)} (hes : ∀ e ∈ es, e.frame.dataType = .CSBK)
    (h : Tracks l no x done w (s.sessions.get? l.key)) : RunOk l no x done w s es := by
  induction es generalizing w s with
  | nil => exact ⟨h, by simp⟩
  | cons e es ih =>
    exact runOk_cons (receive_preamble h (hes e List.mem_cons_self)) fun h' =>
      ih (fun e' he' => hes e' (List.mem_cons_of_mem _ he')) h'

theorem run_blocks {es : List (Passage D)} {bs : List (List UInt8)} (hD : D.Transparent)
    (hne : x.packet ≠ [])
    (hes : List.Forall₂ (fun e b => PassageOf l no x e ∧ CarriesBlock D e.frame b) es bs)
    (h : Tracks l no x done w (s.sessions.get? l.key))
    (hpre : done ++ bs <+: packetBlocks (D.userData (x.header l) x.packet)
      (x.header l).blocksToFollow.toNat)
    (hc : Run.Along (waitStep l) (OwnCompletion l) w es) :
    RunOk l no x (done ++ bs) w s es := by
  induction hes generalizing done w s with
  | nil => exact ⟨by rw [List.append_nil]; exact h, by simp⟩
  | @cons e b es bs he _ ih =>
    rw [Run.along_cons_iff] at hc
    rw [List.append_cons] at hpre ⊢
    have hb : done ++ [b] <+: packetBlocks (D.userData (x.header l) x.packet)
        (x.header l).blocksToFollow.toNat := (List.prefix_append _ _).trans hpre
    exact runOk_cons (receive_block hD hne h he.1 he.2 hb hc.1) fun h' => ih h' hpre hc.2

/-- **One transmission.** -/
theorem run_transmission (hD : D.Transparent) (hcarries : D.Carries (x.header l) x.packet)
    (h : Tracks l no x [] w (s.sessions.get? l.key))
    (hc : Run.Along (waitStep l) (OwnCompletion l) w (x.passages l no)) :
    ∃ done, RunOk l no x done w s (x.passages l no) := by
  have haddr : ∀ f ∈ x.frames l, Addressed l.sourceRid l.targetRid l.slotNo f :=
    encode_addressed _ _ _ _ _ _ _
  rcases encode_cases l.sourceRid l.targetRid l.slotNo x.colorCode x.sequenceNo x.packet
    x.preambleCount hcarries with he | ⟨hne, pre, header, blocks, he, hpre, hheader, hblocks⟩
  · rw [Transmission.passages, Transmission.frames, he, List.mapIdx_nil]
    exact ⟨[], h, by simp⟩
  · rw [← Transmission.frames] at he
    rw [he] at haddr
    rw [Transmission.passages, he, List.mapIdx_append, List.mapIdx_cons] at hc ⊢
    rw [Run.along_append_iff, Run.along_cons_iff] at hc
    have hp : ∀ e ∈ pre.mapIdx fun i f => (⟨no, x, f, x.time i, x.fate i⟩ : Passage D),
        e.frame.dataType = .CSBK := by
      intro e hm
      obtain ⟨i, hi, rfl⟩ := List.mem_mapIdx.mp hm
      exact hpre _ (List.getElem_mem hi)
    have hb := List.forall₂_and_left _ _ |>.mpr
      ⟨fun f hf => haddr f (List.mem_append_right _ (List.mem_cons_of_mem _ hf)), hblocks⟩
    have h1 := run_preambles hp h
    have ha := haddr header (List.mem_append_right _ List.mem_cons_self)
    refine ⟨[] ++ packetBlocks (D.userData (x.header l) x.packet) (x.header l).blocksToFollow.toNat,
      runOk_append h1 (runOk_cons (receive_header hD h1.1 ⟨rfl, rfl, ha⟩ hheader)
        fun h2 => run_blocks hD hne ?_ h2 List.prefix_rfl hc.2.2)⟩
    exact forall₂_mapIdx hb _ fun _ _ _ hf => ⟨⟨rfl, rfl, hf.1⟩, hf.2⟩

theorem outputs_stream (hD : D.Transparent) {xs : List (Transmission D)}
    (hcarries : ∀ x ∈ xs, D.Carries (x.header l) x.packet)
    (h : ∀ y : Transmission D, Tracks l no y [] w (s.sessions.get? l.key))
    (hc : Run.Along (waitStep l) (OwnCompletion l) w (stream l no xs)) :
    ∀ p ∈ Run.outputs receive s (stream l no xs), ∃ x ∈ xs, p.bytes = x.packet := by
  induction xs generalizing no w s with
  | nil => exact fun p hp => absurd hp List.not_mem_nil
  | cons x xs ih =>
    rw [stream, Run.along_append_iff] at hc
    obtain ⟨done, ht, ho⟩ := run_transmission hD (hcarries x List.mem_cons_self) (h x) hc.1
    intro p hp
    rw [stream, Run.outputs_append, List.mem_append] at hp
    rcases hp with hp | hp
    · exact ⟨x, List.mem_cons_self, ho p hp⟩
    · obtain ⟨y, hy, hpy⟩ := ih (fun y hy => hcarries y (List.mem_cons_of_mem _ hy))
        (fun y => tracks_next ht y) hc.2 p hp
      exact ⟨y, List.mem_cons_of_mem _ hy, hpy⟩

end Runs

/-! ## Lossy links -/

/-- **Without a takeover no transmissions are mixed**: every emitted packet has the bytes of one of
the transmitted packets. The codec carries each of these. -/
theorem emitted_of_noTakeover (hD : D.Transparent) (l : Link) (xs : List (Transmission D))
    (hcarries : ∀ x ∈ xs, D.Carries (x.header l) x.packet) (h : NoTakeover l xs) : NeverMixes l xs :=
  outputs_stream hD hcarries (fun _ => .closed) h

/-- An IPv4 packet of twenty bytes. -/
def samplePacket (fill : UInt8) : List UInt8 := [0x45, 0, 0, 20] ++ List.replicate 16 fill

/-- The packet sent without preambles, a frame every sixty milliseconds, one of them lost. -/
def sampleTransmission (fill : UInt8) (start : Time) (lost : ℕ) : Transmission plainCodec where
  colorCode := 1
  sequenceNo := 1
  preambleCount := 0
  packet := samplePacket fill
  time i := start + milliseconds 60 * i
  fate i := if i = lost then .lost else .intact

/-- Two radios on the second slot. -/
def sampleLink : Link := ⟨1000002, 1000001, 2⟩

/-- A lost block alone mixes nothing. -/
theorem neverMixes_lostBlock : NeverMixes sampleLink
    [sampleTransmission 0xAA 0 2, sampleTransmission 0xBB (seconds 1) 3] :=
  emitted_of_noTakeover plainCodec_transparent _ _ (fun _ _ => plainCodec_carries _ _)
    (by unfold NoTakeover; decide +kernel)

/-- The first transmission loses its last block and the second one its header: the first block of
the second packet completes the first one. -/
theorem not_neverMixes : ¬ ∀ (D : Codec), D.Transparent → ∀ (l : Link) (xs : List (Transmission D)),
    (∀ x ∈ xs, D.Carries (x.header l) x.packet) → Timely l xs → NeverMixes l xs := by
  intro h
  have hm := h plainCodec plainCodec_transparent sampleLink
    [sampleTransmission 0xAA 0 2, sampleTransmission 0xBB (seconds 1) 0]
    (fun _ _ => plainCodec_carries _ _) (by unfold Timely; decide +kernel)
  revert hm
  unfold NeverMixes
  decide +kernel

end PacketData
