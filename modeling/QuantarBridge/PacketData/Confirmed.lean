import QuantarBridge.Lib.Decimal
import QuantarBridge.Lib.Slots
import QuantarBridge.PacketData.Interference

/-!
# Confirmed sessions

The blocks of a confirmed session carry serial numbers. They may arrive in any order and any number of
times, with frames of other sessions in between. The first block with a number is kept, and a number
that is too large is dropped.

* `Numbered`, `blocksOf`, `packetFor`: the header of such a session, its blocks among the frames of a
  run, and its packet;
* `Holds`: what the session holds, with its step lemma `completed_numbered`;
* `NumberedRun`: a run with such a session, its frames no more than five seconds apart;
* `emittedLately_iff`: the signatures that are remembered are those of the packets emitted lately;
* `NumberedRun.emits_iff`: **the packet is emitted exactly when the last number arrives**, unless a packet with
  the same signature was emitted lately.
-/

set_option autoImplicit false

namespace PacketData

open Dmr Lib Lib.Run

/-- The header opens a session whose blocks are numbered. -/
def Numbered (header : DataHeader) : Prop :=
  (header.dpf = .CONFIRMED_DATA ∧ header.sap = .PACKET_DATA) ∨
    (header.dpf = .DEFINED_SHORT ∧ header.sap = .SHORT_DATA ∧ header.a = true)

instance (header : DataHeader) : Decidable (Numbered header) := inferInstanceAs (Decidable (_ ∨ _))

/-- The header the blocks of the session are decoded with. -/
def blockHeader (header : DataHeader) : DataHeader := (Session.ofHeader header 0).decodingHeader

/-- The number of blocks that the header announces. -/
abbrev announced (header : DataHeader) : ℕ := header.blocksToFollow.toNat

/-- The blocks of the session among the frames. -/
def blocksOf (D : Codec) (key : ℕ) (header : DataHeader) (es : List (NetData × Time)) :
    List (ℕ × List UInt8) :=
  es.filterMap fun e =>
    if frameKey e.1 = key then
      (D.blockDecode e.1.dataType (blockHeader header) e.1.data).map fun b => (b.serialNo, b.bytes)
    else none

/-- The packet of the session that a frame completes: the blocks in the order of their numbers, without
the trailer. -/
def packetFor (header : DataHeader) (items : List (ℕ × List UInt8)) (frame : NetData) : Packet where
  sourceRid := frame.srcId
  targetRid := frame.dstId
  slotNo := frame.slotNo
  sequenceNo := header.ns
  definedShortData := (Session.ofHeader header 0).definedShortData
  bytes := trimPacket header.padLength.toNat (Session.ofHeader header 0).definedShortData
    ((List.range (announced header)).flatMap fun i => (firstAt items i).getD [])

/-- The session holds the blocks, the last of which arrived at the given time. -/
structure Holds (header : DataHeader) (items : List (ℕ × List UInt8)) (arrived : Time)
    (session : Session) : Prop where
  header_eq : session.header = header
  expectedBlocks : session.expectedBlocks = announced header
  confirmed : session.confirmed = true
  definedShortData : session.definedShortData = (Session.ofHeader header 0).definedShortData
  blocks : session.blocks = slots (announced header) items
  updatedAt : session.updatedAt = arrived

theorem Numbered.format {header : DataHeader} (h : Numbered header) :
    ((header.dpf = .CONFIRMED_DATA ∨ header.dpf = .UNCONFIRMED_DATA) ∧ header.sap = .PACKET_DATA) ∨
      (header.dpf = .DEFINED_SHORT ∧ header.sap = .SHORT_DATA) := by
  unfold Numbered at h
  tauto

theorem confirmed_ofHeader {header : DataHeader} (h : Numbered header) (now : Time) :
    (Session.ofHeader header now).confirmed = true := by
  refine decide_eq_true ?_
  rcases h with ⟨hdpf, -⟩ | hshort
  · exact Or.inl hdpf
  · exact Or.inr hshort

theorem holds_ofHeader {header : DataHeader} (h : Numbered header) (now : Time) :
    Holds header [] now (Session.ofHeader header now) where
  header_eq := rfl
  expectedBlocks := rfl
  confirmed := confirmed_ofHeader h now
  definedShortData := rfl
  blocks := by
    show List.replicate (announced header) none = (List.range (announced header)).map fun _ => none
    rw [List.map_const', List.length_range]
  updatedAt := rfl

namespace Holds

variable {header : DataHeader} {items : List (ℕ × List UInt8)} {arrived : Time} {session : Session}

theorem decodingHeader (h : Holds header items arrived session) (hnumbered : Numbered header) :
    session.decodingHeader = blockHeader header := by
  unfold blockHeader Session.decodingHeader
  rw [h.definedShortData, h.confirmed, h.header_eq, confirmed_ofHeader hnumbered]
  rfl

theorem blockIndex (h : Holds header items arrived session) (block : DataBlock) :
    session.blockIndex block = block.serialNo := if_pos h.confirmed

theorem countBlock (h : Holds header items arrived session) (now : Time) :
    (session.touch now).countBlock = session.touch now := if_pos h.confirmed

theorem touch (h : Holds header items arrived session) (now : Time) :
    Holds header items now (session.touch now) where
  header_eq := h.header_eq
  expectedBlocks := h.expectedBlocks
  confirmed := h.confirmed
  definedShortData := h.definedShortData
  blocks := h.blocks
  updatedAt := rfl

theorem tooLarge (h : Holds header items arrived session) {i : ℕ} (hi : announced header ≤ i)
    (bytes : List UInt8) : Holds header (items ++ [(i, bytes)]) arrived session :=
  { h with
    blocks := by
      rw [h.blocks, slots_concat_of_not_free]
      rw [free_iff]
      exact fun hfree => absurd hfree.1 (by omega) }

/-- **A block** goes into its slot. -/
theorem store (h : Holds header items arrived session) (i : ℕ) (bytes : List UInt8) :
    Holds header (items ++ [(i, bytes)]) arrived (session.store i bytes) := by
  unfold Session.store
  split_ifs with hfree
  · rw [h.blocks] at hfree
    exact { h with
      blocks := by
        show session.blocks.set i (some bytes) = _
        rw [h.blocks, slots_concat_of_free bytes hfree] }
  · rw [h.blocks] at hfree
    exact { h with blocks := by rw [h.blocks, slots_concat_of_not_free bytes hfree] }

theorem complete_iff (h : Holds header items arrived session) :
    session.receivedBlocks = session.expectedBlocks ↔ Complete (announced header) items := by
  rw [session.receivedBlocks_eq, h.expectedBlocks, h.blocks, countP_slots_iff]

theorem packetOf (h : Holds header items arrived session) (frame : NetData) :
    Reassembler.packetOf frame session = packetFor header items frame := by
  have hbytes : session.bytes =
      (List.range (announced header)).flatMap fun i => (firstAt items i).getD [] := by
    unfold Session.bytes
    rw [h.blocks, slots, List.map_map, List.flatMap_def]
    rfl
  unfold Reassembler.packetOf packetFor
  rw [hbytes, h.header_eq, h.definedShortData]

end Holds

/-! ## One frame -/

section Frame

variable {D : Codec} {header : DataHeader} {items : List (ℕ × List UInt8)} {arrived : Time}
  {s : Reassembler} {frame : NetData} {now : Time} {session : Session} {block : DataBlock}

/-- **A block** of the session completes it or is filed in it. -/
theorem completed_numbered (hnumbered : Numbered header)
    (hget : (s.expire now).sessions.get? (frameKey frame) = some session)
    (h : Holds header items arrived session) (hopen : ¬ Complete (announced header) items)
    (hpayload : isPayloadDataType frame.dataType = true)
    (hblock : D.blockDecode frame.dataType (blockHeader header) frame.data = some block) :
    if Complete (announced header) (items ++ [(block.serialNo, block.bytes)]) then
      s.completed D frame now =
        some (packetFor header (items ++ [(block.serialNo, block.bytes)]) frame) ∧
      (s.push D frame now).1.sessions.get? (frameKey frame) = none
    else s.completed D frame now = none ∧
      ∃ session', (s.push D frame now).1.sessions.get? (frameKey frame) = some session' ∧
        Holds header (items ++ [(block.serialNo, block.bytes)]) now session' := by
  have hdata : ¬ frame.dataType = .DATA_HEADER := by
    intro hd
    rw [hd] at hpayload
    exact absurd hpayload (by decide)
  have htouched := h.touch now
  simp only [Reassembler.completed, Reassembler.push, if_neg hdata, if_pos hpayload,
    Reassembler.completedBlock, Reassembler.pushBlock, hget, h.decodingHeader hnumbered, hblock,
    h.blockIndex, h.countBlock, h.expectedBlocks]
  by_cases hlarge : announced header ≤ block.serialNo
  · -- a number that is too large fills no slot
    have hdropped := htouched.tooLarge hlarge block.bytes
    have hstill : ¬ Complete (announced header) (items ++ [(block.serialNo, block.bytes)]) := by
      rw [← hdropped.complete_iff, htouched.complete_iff]
      exact hopen
    simp only [if_neg hstill, if_pos hlarge]
    exact ⟨trivial, _, by rw [Dict.get?_set, if_pos rfl], hdropped⟩
  · have hstored := htouched.store block.serialNo block.bytes
    simp only [if_neg hlarge]
    by_cases hcomplete : Complete (announced header) (items ++ [(block.serialNo, block.bytes)])
    · have hall := hstored.complete_iff.mpr hcomplete
      simp only [if_pos hcomplete, ne_eq, hall, not_true_eq_false, if_false, hstored.packetOf]
      exact ⟨trivial, by rw [Reassembler.emit_sessions, Dict.get?_erase, if_pos rfl]⟩
    · have hmissing := mt hstored.complete_iff.mp hcomplete
      simp only [if_neg hcomplete, ne_eq, hmissing, not_false_eq_true, if_true]
      exact ⟨trivial, _, by rw [Dict.get?_set, if_pos rfl], hstored⟩

theorem completed_unnumbered (hget : (s.expire now).sessions.get? (frameKey frame) = none)
    (hpayload : isPayloadDataType frame.dataType = true) : s.completed D frame now = none ∧
      (s.push D frame now).1.sessions.get? (frameKey frame) = none := by
  have hdata : ¬ frame.dataType = .DATA_HEADER := by
    intro hd
    rw [hd] at hpayload
    exact absurd hpayload (by decide)
  simp only [Reassembler.completed, Reassembler.push, if_neg hdata, if_pos hpayload,
    Reassembler.completedBlock, Reassembler.pushBlock, hget, and_self]

theorem push_header (hformat : ((header.dpf = .CONFIRMED_DATA ∨ header.dpf = .UNCONFIRMED_DATA) ∧
      header.sap = .PACKET_DATA) ∨ (header.dpf = .DEFINED_SHORT ∧ header.sap = .SHORT_DATA))
    (hdata : frame.dataType = .DATA_HEADER)
    (hheader : D.headerDecode frame.data = some header) (hsome : 0 < announced header)
    (hmax : announced header ≤ kMaxBlocks) :
    (s.push D frame now).1.sessions.get? (frameKey frame) = some (Session.ofHeader header now) := by
  have haccepted : ¬ ((¬ ((header.dpf = .CONFIRMED_DATA ∨ header.dpf = .UNCONFIRMED_DATA) ∧
      header.sap = .PACKET_DATA) ∧ ¬ (header.dpf = .DEFINED_SHORT ∧ header.sap = .SHORT_DATA)) ∨
      header.blocksToFollow.toNat = 0 ∨ kMaxBlocks < header.blocksToFollow.toNat) := by
    have hzero : header.blocksToFollow.toNat ≠ 0 := Nat.pos_iff_ne_zero.mp hsome
    have hlarge : ¬ kMaxBlocks < header.blocksToFollow.toNat := Nat.not_lt.mpr hmax
    tauto
  simp only [Reassembler.push, if_pos hdata, Reassembler.pushHeader, hheader]
  rw [if_neg haccepted, Dict.get?_set, if_pos rfl]

end Frame

/-! ## Packets emitted lately -/

/-- A packet with the signature was emitted less than thirty seconds ago. -/
def EmittedLately (D : Codec) (es : List (NetData × Time)) (now : Time) (signature : UInt64) : Prop :=
  ∃ pre e post, es = pre ++ e :: post ∧
    ∃ p, ((final (pushStep D) Reassembler.init pre).push D e.1 e.2).2.packet = some p ∧
      packetSignature p = signature ∧ now < e.2 + kPacketDuplicateWindow

theorem push_packet_iff {D : Codec} {s : Reassembler} {frame : NetData} {now : Time} (p : Packet) :
    (s.push D frame now).2.packet = some p ↔
      s.completed D frame now = some p ∧ ¬ s.recentPackets.Live now (packetSignature p) := by
  have hemits := Reassembler.push_emits D s frame now
  cases hcompleted : s.completed D frame now with
  | none =>
    rw [hcompleted] at hemits
    rw [hemits.1]
    simp
  | some q =>
    rw [hcompleted] at hemits
    have hlive := Reassembler.live_expire s (le_refl now) (packetSignature q)
    rw [hemits.1, Reassembler.emit]
    by_cases hl : s.recentPackets.Live now (packetSignature q)
    · rw [if_pos (hlive.mpr hl)]
      refine iff_of_false (by simp) ?_
      rintro ⟨hq, hnot⟩
      obtain rfl := Option.some.inj hq
      exact hnot hl
    · rw [if_neg (mt hlive.mp hl)]
      show some q = some p ↔ _
      constructor
      · intro hq
        obtain rfl := Option.some.inj hq
        exact ⟨rfl, hl⟩
      · exact fun h => h.1

/-- **The signatures that are remembered** are those of the packets emitted lately. -/
theorem emittedLately_iff {D : Codec} {es : List (NetData × Time)}
    (htime : es.Pairwise fun e e' => e.2 ≤ e'.2) :
    ∀ {now : Time}, (∀ e ∈ es, e.2 ≤ now) → ∀ signature,
      (final (pushStep D) Reassembler.init es).recentPackets.Live now signature ↔
        EmittedLately D es now signature := by
  induction es using List.reverseRecOn with
  | nil =>
    intro now _ signature
    refine iff_of_false (ExpiryMap.not_live_empty now signature) ?_
    rintro ⟨pre, e, post, hes, -⟩
    exact absurd hes.symm (List.append_ne_nil_of_right_ne_nil _ (List.cons_ne_nil _ _))
  | append_singleton es e ih =>
    intro now hnow signature
    rw [List.pairwise_append] at htime
    have hearlier : ∀ e' ∈ es, e'.2 ≤ e.2 := fun e' he' => htime.2.2 e' he' e List.mem_cons_self
    have hnow' : ∀ e' ∈ es, e'.2 ≤ now := fun e' he' => hnow e' (List.mem_append_left _ he')
    have hlast : e.2 ≤ now := hnow e (List.mem_append_right _ List.mem_cons_self)
    have hih := ih htime.1 hnow' signature
    unfold EmittedLately
    rw [exists_step_concat_iff, final_concat, ← EmittedLately, ← hih]
    show ((final (pushStep D) Reassembler.init es).push D e.1 e.2).1.recentPackets.Live _ _ ↔ _
    rw [Reassembler.live_push hlast]
    generalize final (pushStep D) Reassembler.init es = s at hih ⊢
    cases hcompleted : s.completed D e.1 e.2 with
    | none =>
      have hnone : ¬ ∃ p, (s.push D e.1 e.2).2.packet = some p ∧ packetSignature p = signature ∧
          now < e.2 + kPacketDuplicateWindow := by
        rintro ⟨p, hp, -⟩
        rw [push_packet_iff, hcompleted] at hp
        cases hp.1
      rw [or_iff_left hnone]
    | some q =>
      have hone : (∃ p, (s.push D e.1 e.2).2.packet = some p ∧ packetSignature p = signature ∧
          now < e.2 + kPacketDuplicateWindow) ↔
          (signature = packetSignature q ∧ ¬ s.recentPackets.Live e.2 (packetSignature q)) ∧
            now < e.2 + kPacketDuplicateWindow := by
        constructor
        · rintro ⟨p, hp, rfl, hwindow⟩
          rw [push_packet_iff, hcompleted] at hp
          obtain rfl := Option.some.inj hp.1
          exact ⟨⟨rfl, hp.2⟩, hwindow⟩
        · rintro ⟨⟨rfl, hnot⟩, hwindow⟩
          exact ⟨q, (push_packet_iff q).mpr ⟨hcompleted, hnot⟩, rfl, hwindow⟩
      rw [hone]
      dsimp only
      split_ifs with hmarked
      · -- an earlier one ends earlier
        rw [and_iff_right hmarked]
        refine ⟨Or.inr, fun h => h.elim (fun hlive' => ?_) id⟩
        obtain ⟨pre, e', post, hes, p, -, -, hwindow⟩ := hih.mp hlive'
        have he' := hearlier e' (by rw [hes]; exact List.mem_append_right _ List.mem_cons_self)
        exact lt_of_lt_of_le hwindow (Nat.add_le_add_right he' _)
      · rw [or_iff_left fun h => hmarked h.1]

/-! ## Runs -/

/-- The time of the last frame of the session, as a machine. -/
def lastStep (key : ℕ) (t : Time) (e : NetData × Time) : Time × List Unit :=
  (if frameKey e.1 = key then e.2 else t, [])

/-- The time of the last frame of the session. -/
abbrev lastOf (key : ℕ) (opened : Time) (es : List (NetData × Time)) : Time :=
  final (lastStep key) opened es

/-- After other frames, a header opens a session whose blocks are numbered. Of the frames that follow,
those of the session are blocks that decode, and each of them comes no more than five seconds after the
one before. -/
structure NumberedRun (D : Codec) (before : List (NetData × Time)) (opening : NetData × Time)
    (header : DataHeader) (es : List (NetData × Time)) : Prop where
  dataType : opening.1.dataType = .DATA_HEADER
  decoded : D.headerDecode opening.1.data = some header
  numbered : Numbered header
  some_block : 0 < announced header
  max_blocks : announced header ≤ kMaxBlocks
  payload : ∀ e ∈ es, frameKey e.1 = frameKey opening.1 → isPayloadDataType e.1.dataType = true
  decodable : ∀ e ∈ es, frameKey e.1 = frameKey opening.1 →
    (D.blockDecode e.1.dataType (blockHeader header) e.1.data).isSome = true
  prompt : Along (lastStep (frameKey opening.1)) (fun t e => frameKey e.1 = frameKey opening.1 →
    e.2 ≤ t + kSessionTimeout) opening.2 es
  time : (before ++ opening :: es).Pairwise fun e e' => e.2 ≤ e'.2

/-- The session is closed when it is complete, and else holds its blocks. -/
def Keeps (header : DataHeader) (items : List (ℕ × List UInt8)) (arrived : Time) :
    Option Session → Prop
  | none => Complete (announced header) items
  | some session => ¬ Complete (announced header) items ∧ Holds header items arrived session

theorem blocksOf_concat_of_ne {D : Codec} {key : ℕ} {header : DataHeader} {e : NetData × Time}
    (h : frameKey e.1 ≠ key) (es : List (NetData × Time)) :
    blocksOf D key header (es ++ [e]) = blocksOf D key header es := by
  unfold blocksOf
  rw [List.filterMap_append, List.filterMap_cons, if_neg h, List.filterMap_nil, List.append_nil]

theorem blocksOf_concat {D : Codec} {key : ℕ} {header : DataHeader} {e : NetData × Time}
    (h : frameKey e.1 = key) {block : DataBlock}
    (hblock : D.blockDecode e.1.dataType (blockHeader header) e.1.data = some block)
    (es : List (NetData × Time)) : blocksOf D key header (es ++ [e]) =
      blocksOf D key header es ++ [(block.serialNo, block.bytes)] := by
  unfold blocksOf
  rw [List.filterMap_append, List.filterMap_cons, if_pos h, hblock]
  rfl

theorem lastOf_concat (key : ℕ) (opened : Time) (es : List (NetData × Time)) (e : NetData × Time) :
    lastOf key opened (es ++ [e]) =
      if frameKey e.1 = key then e.2 else lastOf key opened es := final_concat _ _ _ _

theorem complete_append {n : ℕ} {items : List (ℕ × List UInt8)} (h : Complete n items)
    (more : List (ℕ × List UInt8)) : Complete n (items ++ more) := by
  intro i hi
  rw [List.map_append]
  exact List.mem_append_left _ (h i hi)

theorem freshSession_none (t : Time) : freshSession t none = none := rfl

theorem freshSession_some {t : Time} {session : Session}
    (h : t ≤ session.updatedAt + kSessionTimeout) :
    freshSession t (some session) = some session := by
  have hfresh : ¬ kSessionTimeout < t - session.updatedAt :=
    Nat.not_lt.mpr (Nat.sub_le_iff_le_add'.mpr h)
  unfold freshSession
  rw [Option.filter_some, if_pos (decide_eq_true hfresh)]

namespace NumberedRun

variable {D : Codec} {before : List (NetData × Time)} {opening : NetData × Time}
  {header : DataHeader} {es : List (NetData × Time)}

/-- The state after the first frames of the run. -/
def stateAfter (D : Codec) (before : List (NetData × Time)) (opening : NetData × Time)
    (pre : List (NetData × Time)) : Reassembler :=
  final (pushStep D) Reassembler.init (before ++ opening :: pre)

theorem stateAfter_concat (pre : List (NetData × Time)) (e : NetData × Time) :
    stateAfter D before opening (pre ++ [e]) = ((stateAfter D before opening pre).push D e.1 e.2).1 := by
  unfold stateAfter
  rw [← List.cons_append, ← List.append_assoc, final_concat]
  rfl

/-- **The run** keeps the blocks that arrived in the session, until it is complete. -/
theorem tracks (h : NumberedRun D before opening header es) {pre : List (NetData × Time)} :
    ∀ {post : List (NetData × Time)}, es = pre ++ post →
    ∃ session, Keeps header (blocksOf D (frameKey opening.1) header pre)
        (lastOf (frameKey opening.1) opening.2 pre) session ∧
      ∀ t, (∀ e ∈ opening :: pre, e.2 ≤ t) →
        freshSession t ((stateAfter D before opening pre).sessions.get? (frameKey opening.1)) =
          freshSession t session := by
  induction pre using List.reverseRecOn with
  | nil =>
    intro post hes
    refine ⟨some (Session.ofHeader header opening.2), ⟨fun hcomplete => ?_, ?_⟩, fun t _ => ?_⟩
    · exact List.not_mem_nil (hcomplete 0 h.some_block)
    · exact holds_ofHeader h.numbered opening.2
    · unfold stateAfter
      rw [final_concat]
      show freshSession t ((Reassembler.push D _ opening.1 opening.2).1.sessions.get? _) = _
      rw [push_header h.numbered.format h.dataType h.decoded h.some_block h.max_blocks]
  | append_singleton pre e ih =>
    intro post hes
    rw [List.append_assoc, List.singleton_append] at hes
    obtain ⟨session, htracks, hsession⟩ := ih hes
    have hmem : e ∈ es := by
      rw [hes]
      exact List.mem_append_right _ List.mem_cons_self
    have hbefore : ∀ e' ∈ opening :: pre, e'.2 ≤ e.2 := by
      have htime := h.time
      rw [hes, ← List.cons_append, ← List.append_assoc, List.pairwise_append] at htime
      exact fun e' he' => htime.2.2 e' (List.mem_append_right _ he') e List.mem_cons_self
    rw [stateAfter_concat, lastOf_concat]
    by_cases hown : frameKey e.1 = frameKey opening.1
    · rw [if_pos hown]
      obtain ⟨block, hblock⟩ := Option.isSome_iff_exists.mp (h.decodable e hmem hown)
      rw [blocksOf_concat hown hblock]
      have hget : ((stateAfter D before opening pre).expire e.2).sessions.get? (frameKey e.1) =
          freshSession e.2 session := by
        rw [Reassembler.sessions_expire, hown, hsession e.2 hbefore]
      rw [← hown]
      cases session with
      | none =>
        rw [freshSession_none] at hget
        have hnone := (completed_unnumbered (D := D) hget (h.payload e hmem hown)).2
        have hcomplete : Complete (announced header) (blocksOf D (frameKey opening.1) header pre) :=
          htracks
        refine ⟨none, ?_, fun t _ => ?_⟩
        · show Complete _ _
          rw [hown]
          exact complete_append hcomplete _
        · rw [hnone]
      | some session =>
        obtain ⟨hopen, hholds⟩ := htracks
        have hprompt : e.2 ≤ session.updatedAt + kSessionTimeout := by
          rw [hholds.updatedAt]
          exact h.prompt pre e post hes hown
        rw [freshSession_some hprompt] at hget
        have hstep := completed_numbered h.numbered hget hholds hopen (h.payload e hmem hown) hblock
        rw [← hown] at hstep
        split_ifs at hstep with hcomplete
        · exact ⟨none, hcomplete, fun t _ => by rw [hstep.2]⟩
        · obtain ⟨-, session', hget', hholds'⟩ := hstep
          exact ⟨some session', ⟨hcomplete, hholds'⟩, fun t _ => by rw [hget']⟩
    · rw [if_neg hown, blocksOf_concat_of_ne hown]
      refine ⟨session, htracks, fun t ht => ?_⟩
      have hlater : e.2 ≤ t := ht e (List.mem_cons_of_mem _ (List.mem_append_right _ List.mem_cons_self))
      rw [Reassembler.get?_push_of_ne (Ne.symm hown), Reassembler.sessions_expire,
        freshSession_fresh hlater]
      refine hsession t fun e' he' => ht e' ?_
      rcases List.mem_cons.mp he' with rfl | he'
      · exact List.mem_cons_self
      · exact List.mem_cons_of_mem _ (List.mem_append_left _ he')

/-- **A numbered session** is emitted exactly at the first frame by which every number has arrived,
unless a packet with the same signature was emitted less than thirty seconds before. Its bytes are the
first blocks with the numbers, in order, without the trailer. -/
theorem emits_iff (h : NumberedRun D before opening header es) {pre post : List (NetData × Time)}
    {e : NetData × Time} (hes : es = pre ++ e :: post) (hown : frameKey e.1 = frameKey opening.1)
    (p : Packet) :
    let items := blocksOf D (frameKey opening.1) header
    ((stateAfter D before opening pre).push D e.1 e.2).2.packet = some p ↔
      Complete (announced header) (items (pre ++ [e])) ∧ ¬ Complete (announced header) (items pre) ∧
        p = packetFor header (items (pre ++ [e])) e.1 ∧
        ¬ EmittedLately D (before ++ opening :: pre) e.2 (packetSignature p) := by
  intro items
  obtain ⟨session, hkeeps, hsession⟩ := h.tracks hes
  have hmem : e ∈ es := by
    rw [hes]
    exact List.mem_append_right _ List.mem_cons_self
  have htime := h.time
  rw [hes, ← List.cons_append, ← List.append_assoc, List.pairwise_append] at htime
  have hbefore : ∀ e' ∈ before ++ opening :: pre, e'.2 ≤ e.2 :=
    fun e' he' => htime.2.2 e' he' e List.mem_cons_self
  obtain ⟨block, hblock⟩ := Option.isSome_iff_exists.mp (h.decodable e hmem hown)
  have hitems : items (pre ++ [e]) = items pre ++ [(block.serialNo, block.bytes)] :=
    blocksOf_concat hown hblock pre
  have hget : ((stateAfter D before opening pre).expire e.2).sessions.get? (frameKey e.1) =
      freshSession e.2 session := by
    rw [Reassembler.sessions_expire, hown,
      hsession e.2 fun e' he' => hbefore e' (List.mem_append_right _ he')]
  rw [push_packet_iff, ← emittedLately_iff htime.1 hbefore]
  unfold stateAfter at hget ⊢
  cases session with
  | none =>
    have hcomplete : Complete (announced header) (items pre) := hkeeps
    rw [freshSession_none] at hget
    rw [(completed_unnumbered (D := D) hget (h.payload e hmem hown)).1]
    refine iff_of_false (by simp) fun hnot => hnot.2.1 hcomplete
  | some session =>
    obtain ⟨hopen, hholds⟩ := hkeeps
    have hprompt : e.2 ≤ session.updatedAt + kSessionTimeout := by
      rw [hholds.updatedAt]
      exact h.prompt pre e post hes hown
    rw [freshSession_some hprompt] at hget
    have hstep := completed_numbered h.numbered hget hholds hopen (h.payload e hmem hown) hblock
    rw [hitems]
    split_ifs at hstep with hcomplete
    · rw [hstep.1, Option.some.injEq, eq_comm]
      tauto
    · rw [hstep.1]
      refine iff_of_false (by simp) fun hnot => hcomplete hnot.1

end NumberedRun

/-- Blocks that agree make the same packet in any order and with any repetitions. -/
theorem packetFor_of_content {header : DataHeader} {items : List (ℕ × List UInt8)}
    {content : ℕ → List UInt8} (h : ∀ i bytes, (i, bytes) ∈ items → bytes = content i)
    (hcomplete : Complete (announced header) items) (frame : NetData) :
    (packetFor header items frame).bytes = trimPacket header.padLength.toNat
      (Session.ofHeader header 0).definedShortData
      ((List.range (announced header)).flatMap content) := by
  have hslots := slots_of_content h hcomplete
  unfold packetFor
  dsimp only
  congr 1
  rw [List.flatMap_def, List.flatMap_def]
  congr 1
  have hvalues := congrArg (List.map fun slot => slot.getD []) hslots
  rw [slots, List.map_map, List.map_map] at hvalues
  exact hvalues

/-! ## A sample session -/

/-- The plain codec with numbered blocks of ten bytes. -/
def numberedCodec : Codec :=
  { plainCodec with
    blockDecode := fun _ _ payload =>
      if payload.toList.getD 0 0 = blockMark then
        some ⟨(payload.toList.getD 1 0).toNat, (payload.toList.drop 2).take 10⟩
      else none }

/-- The header of a confirmed session of two blocks. -/
def twoBlocks (ns : UInt8) : DataHeader :=
  ⟨.CONFIRMED_DATA, true, .PACKET_DATA, 1000002, 1000001, false, true, false, 0, ns, 0, 2⟩

/-- A frame from 1000002 to 1000001 on slot 2. -/
def sampleFrame (dataType : DataType) (bytes : List UInt8) : NetData where
  slotNo := 2
  srcId := 1000002
  dstId := 1000001
  flco := .PRIVATE
  n := 0
  seqNo := 0
  dataType := dataType
  data := Payload.ofBytes bytes

/-- A header with this packet number. -/
def headerFrame (ns : UInt8) : NetData := sampleFrame .DATA_HEADER (headerBytes (twoBlocks ns))

/-- Block `i` of sixteen bytes and a CRC. -/
def numberedFrame (text : List UInt8) (i : UInt8) : NetData :=
  sampleFrame .RATE_12_DATA (blockMark :: i :: ((text ++ [0, 0, 0, 0]).drop (10 * i.toNat)).take 10)

/-- Two texts with one signature. -/
def collidingText (second : Bool) : List UInt8 :=
  ascii ['T', 'e', 'x', 't', ' ', 'n', 'o', '.'] ++
    if second then [183, 9, 104, 15, 22, 139, 42, 227] else [135, 136, 132, 117, 6, 200, 15, 116]

/-- The second block, again, a number that is too large, a frame of another session, the first block. -/
def shuffledFrames : List (NetData × Time) :=
  [(numberedFrame (collidingText false) 1, milliseconds 60),
    (numberedFrame (collidingText false) 1, milliseconds 120),
    (numberedFrame (collidingText false) 7, milliseconds 180),
    ({ headerFrame 1 with srcId := 1000003 }, milliseconds 240),
    (numberedFrame (collidingText false) 0, milliseconds 300)]

theorem shuffled_run : NumberedRun numberedCodec [] (headerFrame 1, 0) (twoBlocks 1) shuffledFrames where
  dataType := rfl
  decoded := by decide +kernel
  numbered := by decide
  some_block := by decide
  max_blocks := by decide
  payload := by decide +kernel
  decodable := by decide +kernel
  prompt := by decide +kernel
  time := by decide +kernel

/-- The packet of the shuffled frames. -/
theorem emits_shuffled : ∃ p : Packet, p.bytes = collidingText false ∧
    ((NumberedRun.stateAfter numberedCodec [] (headerFrame 1, 0) (shuffledFrames.take 4)).push
      numberedCodec (numberedFrame (collidingText false) 0) (milliseconds 300)).2.packet = some p := by
  refine ⟨packetFor (twoBlocks 1) (blocksOf numberedCodec (frameKey (headerFrame 1)) (twoBlocks 1)
    shuffledFrames) (numberedFrame (collidingText false) 0), by decide +kernel, ?_⟩
  refine (shuffled_run.emits_iff (show shuffledFrames = shuffledFrames.take 4 ++
    (numberedFrame (collidingText false) 0, milliseconds 300) :: [] from rfl) rfl _).mpr
    ⟨by decide +kernel, by decide +kernel, rfl, ?_⟩
  refine mt (emittedLately_iff (by decide +kernel) (by decide +kernel) _).mpr ?_
  decide +kernel

/-- The session of the other text, a second later. -/
def laterFrames : List (NetData × Time) :=
  [(numberedFrame (collidingText true) 0, milliseconds 1060),
    (numberedFrame (collidingText true) 1, milliseconds 1120)]

theorem later_run : NumberedRun numberedCodec ((headerFrame 1, 0) :: shuffledFrames)
    (headerFrame 2, milliseconds 1000) (twoBlocks 2) laterFrames where
  dataType := rfl
  decoded := by decide +kernel
  numbered := by decide
  some_block := by decide
  max_blocks := by decide
  payload := by decide +kernel
  decodable := by decide +kernel
  prompt := by decide +kernel
  time := by decide +kernel

/-- The other text is complete and was never emitted, but its signature is remembered. -/
theorem not_emits_colliding :
    let s := NumberedRun.stateAfter numberedCodec ((headerFrame 1, 0) :: shuffledFrames)
      (headerFrame 2, milliseconds 1000) (laterFrames.take 1)
    let items := blocksOf numberedCodec (frameKey (headerFrame 2)) (twoBlocks 2)
    let p := packetFor (twoBlocks 2) (items laterFrames) (numberedFrame (collidingText true) 1)
    NumberedRun numberedCodec ((headerFrame 1, 0) :: shuffledFrames)
        (headerFrame 2, milliseconds 1000) (twoBlocks 2) laterFrames ∧
      Complete 2 (items laterFrames) ∧ ¬ Complete 2 (items (laterFrames.take 1)) ∧
      (∀ q ∈ outputs (pushStep numberedCodec) Reassembler.init ((headerFrame 1, 0) :: shuffledFrames ++
        (headerFrame 2, milliseconds 1000) :: laterFrames.take 1), q.bytes ≠ p.bytes) ∧
      (s.push numberedCodec (numberedFrame (collidingText true) 1) (milliseconds 1120)).2.packet =
        none := by
  intro s items p
  exact ⟨later_run, by decide +kernel, by decide +kernel, by decide +kernel, by decide +kernel⟩

end PacketData
