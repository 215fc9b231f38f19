import QuantarBridge.PacketData.Confirmed

/-!
# Sessions in order

The blocks of a message arrive in order, numbered or not. Defined short data is such a message: its
padding is announced in bits, and its blocks are numbered when it asks for an acknowledgement.

* `InOrder`: what the session holds, with its step lemma `completed_inOrder`;
* `CarriesPart`: a frame with a block of the message;
* `reported_inOrder`: **the blocks of an open session** are reported with the last one;
* `ShortMessage`, `reported_short`: **a whole message** of defined short data.
-/

set_option autoImplicit false

namespace PacketData

open Dmr Lib Lib.Run

/-- The session holds the blocks and misses at least one. -/
structure InOrder (header : DataHeader) (got : List (List UInt8)) (arrived : Time)
    (session : Session) : Prop where
  header_eq : session.header = header
  expectedBlocks : session.expectedBlocks = announced header
  confirmed : session.confirmed = (Session.ofHeader header 0).confirmed
  definedShortData : session.definedShortData = (Session.ofHeader header 0).definedShortData
  next : session.confirmed = false → session.nextUnconfirmedBlock = got.length
  blocks : session.blocks = got.map some ++ List.replicate (announced header - got.length) none
  updatedAt : session.updatedAt = arrived
  missing : got.length < announced header

/-- The packet of the blocks. -/
def packetOfBlocks (header : DataHeader) (blocks : List (List UInt8)) (frame : NetData) : Packet where
  sourceRid := frame.srcId
  targetRid := frame.dstId
  slotNo := frame.slotNo
  sequenceNo := header.ns
  definedShortData := (Session.ofHeader header 0).definedShortData
  bytes := trimPacket header.padLength.toNat (Session.ofHeader header 0).definedShortData blocks.flatten

theorem inOrder_ofHeader {header : DataHeader} (hsome : 0 < announced header) (now : Time) :
    InOrder header [] now (Session.ofHeader header now) where
  header_eq := rfl
  expectedBlocks := rfl
  confirmed := rfl
  definedShortData := rfl
  next _ := rfl
  blocks := rfl
  updatedAt := rfl
  missing := hsome

namespace InOrder

variable {header : DataHeader} {got : List (List UInt8)} {arrived : Time} {session : Session}

theorem decodingHeader (h : InOrder header got arrived session) :
    session.decodingHeader = blockHeader header := by
  unfold blockHeader Session.decodingHeader
  rw [h.definedShortData, h.confirmed, h.header_eq]
  rfl

theorem blockIndex (h : InOrder header got arrived session) {block : DataBlock}
    (hserial : (Session.ofHeader header 0).confirmed = true → block.serialNo = got.length) :
    session.blockIndex block = got.length := by
  unfold Session.blockIndex
  split_ifs with hconfirmed
  · rw [h.confirmed] at hconfirmed
    exact hserial hconfirmed
  · exact h.next (eq_false_of_ne_true hconfirmed)

theorem filed (h : InOrder header got arrived session) (now : Time) (bytes : List UInt8) :
    let filed := (session.touch now).countBlock.store got.length bytes
    filed.header = header ∧ filed.expectedBlocks = announced header ∧
      filed.confirmed = (Session.ofHeader header 0).confirmed ∧
      filed.definedShortData = (Session.ofHeader header 0).definedShortData ∧
      (filed.confirmed = false → filed.nextUnconfirmedBlock = got.length + 1) ∧
      filed.blocks = (got ++ [bytes]).map some ++
        List.replicate (announced header - (got.length + 1)) none ∧
      filed.updatedAt = now ∧ filed.receivedBlocks = got.length + 1 := by
  have hmissing := h.missing
  have hlength : (got.map some).length = got.length := List.length_map _
  have hcounted : ((session.touch now).countBlock).header = header ∧
      ((session.touch now).countBlock).expectedBlocks = announced header ∧
      ((session.touch now).countBlock).confirmed = (Session.ofHeader header 0).confirmed ∧
      ((session.touch now).countBlock).definedShortData = (Session.ofHeader header 0).definedShortData ∧
      (((session.touch now).countBlock).confirmed = false →
        ((session.touch now).countBlock).nextUnconfirmedBlock = got.length + 1) ∧
      ((session.touch now).countBlock).blocks = session.blocks ∧
      ((session.touch now).countBlock).updatedAt = now := by
    unfold Session.countBlock
    split_ifs with hconfirmed
    · exact ⟨h.header_eq, h.expectedBlocks, h.confirmed, h.definedShortData,
        fun hnot => absurd (hconfirmed.symm.trans hnot) (by decide), rfl, rfl⟩
    · exact ⟨h.header_eq, h.expectedBlocks, h.confirmed, h.definedShortData,
        fun hnot => congrArg (· + 1) (h.next hnot), rfl, rfl⟩
  obtain ⟨hheader, hexpected, hconfirmed, hshort, hnext, hblocks, hupdated⟩ := hcounted
  have hfree : ((session.touch now).countBlock).blocks[got.length]? = some none := by
    rw [hblocks, h.blocks, List.getElem?_append_right (by omega),
      List.getElem?_replicate_of_lt (by omega)]
  have hset : (got.map some ++ List.replicate (announced header - got.length) none).set got.length
      (some bytes) = (got ++ [bytes]).map some ++
        List.replicate (announced header - (got.length + 1)) none := by
    have hrest : announced header - got.length = announced header - (got.length + 1) + 1 := by omega
    rw [hrest, List.replicate_succ, List.set_append_right _ _ (by omega), hlength, Nat.sub_self,
      List.set_cons_zero, List.map_append, List.append_assoc]
    rfl
  have hstored : ((session.touch now).countBlock.store got.length bytes).blocks =
      (got ++ [bytes]).map some ++ List.replicate (announced header - (got.length + 1)) none := by
    unfold Session.store
    rw [dif_pos hfree]
    show ((session.touch now).countBlock).blocks.set got.length (some bytes) = _
    rw [hblocks, h.blocks, hset]
  have hreceived : ((session.touch now).countBlock.store got.length bytes).receivedBlocks =
      got.length + 1 := by
    rw [Session.receivedBlocks_eq, hstored, List.countP_append, List.countP_map, List.countP_replicate]
    simp [Function.comp_def]
  intro filed
  refine ⟨?_, ?_, ?_, ?_, ?_, hstored, ?_, hreceived⟩
  all_goals
    unfold filed Session.store
    rw [dif_pos hfree]
  · exact hheader
  · exact hexpected
  · exact hconfirmed
  · exact hshort
  · exact hnext
  · exact hupdated

end InOrder

section Frame

variable {D : Codec} {header : DataHeader} {got : List (List UInt8)} {arrived : Time}
  {s : Reassembler} {frame : NetData} {now : Time} {session : Session}

/-- The frame carries block `i` of the message. -/
def CarriesPart (D : Codec) (header : DataHeader) (key : ℕ) (frame : NetData)
    (part : List UInt8 × ℕ) : Prop :=
  frameKey frame = key ∧ isPayloadDataType frame.dataType = true ∧
    ∃ serialNo, D.blockDecode frame.dataType (blockHeader header) frame.data =
      some ⟨serialNo, part.1⟩ ∧ ((Session.ofHeader header 0).confirmed = true → serialNo = part.2)

/-- **The next block** completes the session or is filed in it. -/
theorem completed_inOrder {bytes : List UInt8}
    (hget : (s.expire now).sessions.get? (frameKey frame) = some session)
    (h : InOrder header got arrived session) {key : ℕ}
    (hpart : CarriesPart D header key frame (bytes, got.length)) :
    if got.length + 1 = announced header then
      s.completed D frame now = some (packetOfBlocks header (got ++ [bytes]) frame)
    else s.completed D frame now = none ∧
      ∃ session', (s.push D frame now).1.sessions.get? (frameKey frame) = some session' ∧
        InOrder header (got ++ [bytes]) now session' := by
  obtain ⟨-, hpayload, serialNo, hblock, hserial⟩ := hpart
  dsimp only at hblock
  have hindex : session.blockIndex ⟨serialNo, bytes⟩ = got.length := h.blockIndex hserial
  have hdata : ¬ frame.dataType = .DATA_HEADER := by
    intro hd
    rw [hd] at hpayload
    exact absurd hpayload (by decide)
  have hmissing := h.missing
  obtain ⟨hheader, hexpected, hconfirmed, hshort, hnext, hblocks, hupdated, hreceived⟩ :=
    h.filed now bytes
  simp only [Reassembler.completed, Reassembler.push, if_neg hdata, if_pos hpayload,
    Reassembler.completedBlock, Reassembler.pushBlock, hget, h.decodingHeader, hblock,
    hindex, h.expectedBlocks, if_neg (Nat.not_le.mpr hmissing), hexpected, hreceived]
  by_cases hlast : got.length + 1 = announced header
  · simp only [ne_eq, hlast, not_true_eq_false, if_false]
    unfold Reassembler.packetOf packetOfBlocks Session.bytes
    rw [hheader, hshort, hblocks, hlast, Nat.sub_self, List.replicate_zero, List.append_nil,
      List.map_map]
    simp [Function.comp_def]
  · simp only [ne_eq, hlast, not_false_eq_true, if_true, true_and]
    refine ⟨_, by rw [Dict.get?_set, if_pos rfl], hheader, hexpected, hconfirmed, hshort, ?_, ?_,
      hupdated, ?_⟩
    · rw [List.length_append, List.length_singleton]
      exact hnext
    · rw [hblocks, List.length_append, List.length_singleton]
    · rw [List.length_append, List.length_singleton]
      omega

theorem quiet_push (hquiet : s.Quiet) (h : s.completed D frame now = none) :
    (s.push D frame now).2.packet = none ∧ (s.push D frame now).1.Quiet := by
  have hemits := Reassembler.push_emits D s frame now
  rw [h] at hemits
  refine ⟨hemits.1, ?_⟩
  have hrecent := Reassembler.quiet_expire hquiet now
  unfold Reassembler.Quiet at hrecent ⊢
  rw [hemits.2]
  exact hrecent

end Frame

/-- **The blocks of an open session** are reported with the last one. -/
theorem reported_inOrder {D : Codec} {header : DataHeader} {key : ℕ} {es : List (NetData × Time)}
    {parts : List (List UInt8)} {last : NetData × Time} :
    ∀ {s : Reassembler} {session : Session} {got : List (List UInt8)} {arrived : Time}, s.Quiet →
      s.sessions.get? key = some session → InOrder header got arrived session →
      got.length + parts.length = announced header →
      List.Forall₂ (fun e part => CarriesPart D header key e.1 part) es (parts.zipIdx got.length) →
      Prompt (arrived :: es.map Prod.snd) → es.getLast? = some last →
      reportedFrom D s es = List.replicate (es.length - 1) none ++
        [some (packetOfBlocks header (got ++ parts) last.1)] := by
  induction es generalizing parts with
  | nil =>
    intro s session got arrived _ _ _ _ _ _ hlast
    cases hlast
  | cons e es ih =>
    intro s session got arrived hquiet hget h hcount hes hprompt hlast
    cases parts with
    | nil => cases hes
    | cons bytes parts =>
      rw [List.zipIdx_cons, List.forall₂_cons] at hes
      obtain ⟨hpart, hes⟩ := hes
      rw [List.map_cons, Prompt, List.isChain_cons_cons] at hprompt
      have hkey := hpart.1
      have hfresh := Reassembler.get?_expire_fresh hget (h.updatedAt.symm ▸ hprompt.1)
      rw [← hkey] at hfresh
      have hstep := completed_inOrder hfresh h hpart
      rw [reportedFrom_cons]
      cases es with
      | nil =>
        cases parts with
        | cons b parts => cases hes
        | nil =>
          rw [if_pos (by simpa using hcount)] at hstep
          have hpacket := (push_packet_iff _).mpr ⟨hstep, hquiet e.2 _⟩
          rw [hpacket]
          cases hlast
          rfl
      | cons e' es =>
        cases parts with
        | nil => cases hes
        | cons b parts =>
          have hmore : ¬ got.length + 1 = announced header := by
            simp at hcount
            omega
          rw [if_neg hmore] at hstep
          obtain ⟨hnone, session', hget', h'⟩ := hstep
          obtain ⟨hpacket, hquiet'⟩ := quiet_push hquiet hnone
          rw [hkey] at hget'
          have hrest := @ih (b :: parts) _ _ _ _ hquiet' hget' h'
            (by simp at hcount ⊢; omega) (by simpa using hes) hprompt.2 (by simpa using hlast)
          rw [hpacket, hrest, List.append_assoc]
          rfl

/-- A message of defined short data: its header, and a frame for each of its parts in order, each no more
than five seconds after the one before. -/
structure ShortMessage (D : Codec) (header : DataHeader) (parts : List (List UInt8))
    (opening : NetData × Time) (es : List (NetData × Time)) (last : NetData × Time) : Prop where
  dataType : opening.1.dataType = .DATA_HEADER
  decoded : D.headerDecode opening.1.data = some header
  dpf : header.dpf = .DEFINED_SHORT
  sap : header.sap = .SHORT_DATA
  count : parts.length = announced header
  some_block : 0 < announced header
  max_blocks : announced header ≤ kMaxBlocks
  frames : List.Forall₂ (fun e part => CarriesPart D header (frameKey opening.1) e.1 part) es
    parts.zipIdx
  prompt : Prompt (opening.2 :: es.map Prod.snd)
  last_eq : es.getLast? = some last

/-- **A whole message** is reported with its last frame. -/
theorem reported_short {D : Codec} {header : DataHeader} {parts : List (List UInt8)}
    {opening : NetData × Time} {es : List (NetData × Time)} {last : NetData × Time} {s : Reassembler}
    (hquiet : s.Quiet) (h : ShortMessage D header parts opening es last) :
    reportedFrom D s (opening :: es) = List.replicate es.length none ++
      [some (packetOfBlocks header parts last.1)] := by
  have hopen : (s.push D opening.1 opening.2).1.sessions.get? (frameKey opening.1) =
      some (Session.ofHeader header opening.2) :=
    push_header (Or.inr ⟨h.dpf, h.sap⟩) h.dataType h.decoded h.some_block h.max_blocks
  have hnone : s.completed D opening.1 opening.2 = none := by
    unfold Reassembler.completed
    exact if_pos h.dataType
  obtain ⟨hpacket, hquiet'⟩ := quiet_push hquiet hnone
  have hrest := reported_inOrder hquiet' hopen (inOrder_ofHeader h.some_block opening.2)
    (by rw [List.length_nil, Nat.zero_add]; exact h.count) h.frames h.prompt h.last_eq
  have hsome : 0 < es.length := by
    have hlast := h.last_eq
    cases es with
    | nil => cases hlast
    | cons e es => exact Nat.succ_pos _
  rw [reportedFrom_cons, hpacket, hrest, ← List.cons_append, ← List.replicate_succ,
    Nat.sub_add_cancel hsome]
  rfl

end PacketData
