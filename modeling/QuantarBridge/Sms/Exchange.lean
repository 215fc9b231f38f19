import QuantarBridge.Brandmeister.Frames
import QuantarBridge.Lib.Trim
import QuantarBridge.PacketData.Interference
import QuantarBridge.PacketData.RoundTrip
import QuantarBridge.Sms.Acknowledgement
import QuantarBridge.Sms.Checksums
import QuantarBridge.Sms.Durable
import QuantarBridge.Sms.OutboxFile
import QuantarBridge.Sms.Pipeline
import QuantarBridge.Sms.ServerText

/-!
# A text between two bridges

A text message leaves one bridge as a file of the outbox, crosses BrandMeister as packet data, and is
queued for the P25 side of another bridge, which acknowledges it. The other bridge receives the frames of
further stations at the same time.

* `CarriesPacket`: the frames of a packet, `pipeline_blocks`, `pipeline_packet`: **what they hand over**
  among other frames;
* `accepted_arrives`: a packet that the connection accepts arrives;
* `outboxMessage`, `bmPlan_outboxMessage`: the file of a text and what it asks for;
* `Takes`, `acknowledgementOf`: what the other bridge makes of it;
* `text_crosses`: **the text and its acknowledgement**.
-/

set_option autoImplicit false

namespace Sms

open Dmr Lib PacketData Brandmeister

/-! ## The frames of a packet at the other end -/

/-- The frames carry a packet: preambles, the header and the blocks. -/
structure CarriesPacket (D : Codec) (sourceRid targetRid slotNo : ℕ) (h : DataHeader) (packet : Bytes)
    (frames : List NetData) : Prop where
  addressed : ∀ frame ∈ frames, Addressed sourceRid targetRid slotNo frame
  parts : ∃ preambles header blocks, frames = preambles ++ header :: blocks ∧
    (∀ frame ∈ preambles, frame.dataType = .CSBK) ∧ CarriesHeader D h header ∧
    List.Forall₂ (CarriesBlock D) blocks (packetBlocks (D.userData h packet) h.blocksToFollow.toNat)

theorem carriesPacket_encode {D : Codec} {sourceRid targetRid : ℕ} (slotNo colorCode : ℕ)
    {sequenceNo : ℕ} {packet : Bytes} (preambleCount : ℕ)
    (hcarries : D.Carries (headerOf D sourceRid targetRid sequenceNo packet) packet)
    (hs : sourceRid ≠ 0) (ht : targetRid ≠ 0) (hp : packet ≠ []) :
    CarriesPacket D sourceRid targetRid slotNo (headerOf D sourceRid targetRid sequenceNo packet) packet
      (encode D sourceRid targetRid slotNo colorCode sequenceNo packet preambleCount) := by
  refine ⟨encode_addressed (D := D) sourceRid targetRid slotNo colorCode sequenceNo packet
    preambleCount, ?_⟩
  rcases encode_cases sourceRid targetRid slotNo colorCode sequenceNo packet preambleCount
    hcarries with he | ⟨-, hframes⟩
  · exact absurd he (encode_ne_nil _ _ _ _ _ _ _ hcarries hs ht hp)
  · exact hframes

theorem carriesPacket_received {D : Codec} {sourceRid targetRid slotNo : ℕ} {h : DataHeader}
    {packet : Bytes} {frames : List NetData}
    (hc : CarriesPacket D sourceRid targetRid slotNo h packet frames) :
    CarriesPacket D sourceRid targetRid slotNo h packet (frames.map received) := by
  obtain ⟨preambles, header, blocks, rfl, hpre, hheader, hblocks⟩ := hc.parts
  refine ⟨fun frame hf => ?_, preambles.map received, received header, blocks.map received,
    ?_, fun frame hf => ?_, hheader, List.forall₂_map_left_iff.mpr hblocks⟩
  · obtain ⟨sent, hsent, rfl⟩ := List.mem_map.mp hf
    exact hc.addressed sent hsent
  · rw [List.map_append, List.map_cons]
  · obtain ⟨sent, hsent, rfl⟩ := List.mem_map.mp hf
    exact hpre sent hsent

/-! ## The pipeline of the other bridge -/

/-- The session of a packet. -/
abbrev packetKey (p : Packet) : ℕ := sessionKey p.sourceRid p.targetRid p.slotNo

theorem packetKey_completed {D : Codec} {s : Reassembler} {frame : NetData} {now : Time} {p : Packet}
    (h : s.completed D frame now = some p) : packetKey p = frameKey frame := by
  unfold Reassembler.completed Reassembler.completedBlock at h
  dsimp only at h
  split_ifs at h
  split at h
  · cases h
  · split at h
    · cases h
    · split_ifs at h
      cases h
      rfl

section Receive

variable {D : Codec} {w : Wiring} {s : Pipeline} {e : Arrival} {es : List Arrival} {key : ℕ}

/-- What the frames of one session hand over. -/
abbrev handingsOf (key : ℕ) (hs : List Handling) : List Handling :=
  hs.filter fun h => packetKey h.packet = key

/-- The frames of one session. -/
abbrev framesOf (key : ℕ) (es : List Arrival) : List Arrival :=
  es.filter fun e => frameKey e.frame = key

theorem reassembler_pipelineStep : (pipelineStep D w s e).1.reassembler =
    (s.reassembler.push D e.frame e.now).1 := by
  unfold pipelineStep
  dsimp only
  cases (s.reassembler.push D e.frame e.now).2.packet <;> rfl

theorem handingsOf_other (hne : frameKey e.frame ≠ key) :
    handingsOf key (pipelineStep D w s e).2 = [] := by
  cases hc : s.reassembler.completed D e.frame e.now with
  | none =>
    rw [(step_incomplete (w := w) hc).1]
    rfl
  | some p =>
    by_cases hl : s.reassembler.recentPackets.Live e.now (packetSignature p)
    · rw [(step_suppressed (w := w) hc hl).1]
      rfl
    · rw [(step_handed (w := w) hc hl).1]
      have hkey : packetKey p ≠ key := fun h => hne (packetKey_completed hc ▸ h)
      exact List.filter_cons_of_neg (by rw [decide_eq_true_eq]; exact hkey)

theorem pipelineStep_some {packet : Packet}
    (h : (s.reassembler.push D e.frame e.now).2.packet = some packet) :
    (pipelineStep D w s e).2 = [.of packet e (handlePacket w s.text e.clocks e.outcomes packet)] := by
  unfold pipelineStep
  simp only [h]

theorem outputs_preamble (hf : e.frame.dataType = .CSBK) : (pipelineStep D w s e).2 = [] := by
  unfold pipelineStep
  rw [push_preamble hf]

theorem handingsOf_preambles (hes : ∀ e ∈ framesOf key es, e.frame.dataType = .CSBK) :
    handingsOf key (Run.outputs (pipelineStep D w) s es) = [] := by
  induction es generalizing s with
  | nil => rfl
  | cons e es ih =>
    rw [Run.outputs_cons, handingsOf, List.filter_append]
    by_cases hown : frameKey e.frame = key
    · rw [framesOf, List.filter_cons_of_pos (by simpa using hown)] at hes
      obtain ⟨hcsbk, hes⟩ := List.forall_mem_cons.mp hes
      rw [outputs_preamble hcsbk]
      exact ih hes
    · rw [framesOf, List.filter_cons_of_neg (by simpa using hown)] at hes
      have hnone := handingsOf_other (D := D) (w := w) (s := s) hown
      rw [handingsOf] at hnone
      rw [hnone]
      exact ih hes

/-- Frames of other sessions leave an open session as it is, as long as it does not run out. -/
theorem pipeline_others {session : Session} (ho : s.reassembler.sessions.get? key = some session)
    (hes : ∀ e ∈ es, ¬ frameKey e.frame = key ∧ e.now ≤ session.updatedAt + kSessionTimeout) :
    (Run.final (pipelineStep D w) s es).reassembler.sessions.get? key = some session ∧
      handingsOf key (Run.outputs (pipelineStep D w) s es) = [] := by
  induction es generalizing s with
  | nil => exact ⟨ho, rfl⟩
  | cons e es ih =>
    obtain ⟨⟨hne, htime⟩, hes⟩ := List.forall_mem_cons.mp hes
    have hkept : (pipelineStep D w s e).1.reassembler.sessions.get? key = some session := by
      rw [reassembler_pipelineStep, Reassembler.get?_push_of_ne (Ne.symm hne)]
      exact Reassembler.get?_expire_fresh ho htime
    obtain ⟨hget, hnone⟩ := ih hkept hes
    refine ⟨hget, ?_⟩
    have hother := handingsOf_other (D := D) (w := w) (s := s) hne
    rw [handingsOf] at hother hnone ⊢
    rw [Run.outputs_cons, List.filter_append, hother, hnone]
    rfl

/-- The outcome of the frames of a packet: the last one hands the packet over, unless its signature is
remembered. -/
def HandsOver (D : Codec) (w : Wiring) (s : Pipeline) (es : List Arrival) (sourceRid targetRid slotNo : ℕ)
    (packet : Bytes) : Prop :=
  ∃ front last p, es = front ++ [last] ∧ p.sourceRid = sourceRid ∧ p.targetRid = targetRid ∧
    p.slotNo = slotNo ∧ p.definedShortData = false ∧ p.bytes = packet ∧
    (¬ (Run.final (pipelineStep D w) s front).reassembler.recentPackets.Live last.now
        (packetSignature p) →
      handingsOf (sessionKey sourceRid targetRid slotNo) (Run.outputs (pipelineStep D w) s es) =
        [.of p last (handlePacket w (Run.final (pipelineStep D w) s front).text last.clocks
          last.outcomes p)])

variable (es) in
theorem HandsOver.after {sourceRid targetRid slotNo : ℕ} {packet : Bytes} {es' : List Arrival}
    (h : HandsOver D w (Run.final (pipelineStep D w) s es) es' sourceRid targetRid slotNo packet)
    (hnone : handingsOf (sessionKey sourceRid targetRid slotNo) (Run.outputs (pipelineStep D w) s es) =
      []) : HandsOver D w s (es ++ es') sourceRid targetRid slotNo packet := by
  obtain ⟨front, last, p, rfl, hsrc, hdst, hslot, hdsd, hbytes, hhands⟩ := h
  refine ⟨es ++ front, last, p, (List.append_assoc ..).symm, hsrc, hdst, hslot, hdsd, hbytes, ?_⟩
  rw [Run.final_append, Run.outputs_append]
  intro hlive
  rw [handingsOf] at hnone ⊢
  rw [List.filter_append, hnone, List.nil_append]
  exact hhands hlive

/-- **The blocks of an open session**, among other frames, hand one packet over, with the last of them.
The induction is on the blocks that are left. -/
theorem pipeline_blocks {h : DataHeader} {session : Session} {got bs : List Bytes}
    {os : List Arrival} {sourceRid targetRid slotNo : ℕ} {packet : Bytes}
    (hk : key = sessionKey sourceRid targetRid slotNo)
    (ho : s.reassembler.sessions.get? key = some session) (hh : session.header = h)
    (hf : session.Filled got) (hdpf : h.dpf = .UNCONFIRMED_DATA)
    (hn : got.length + bs.length = session.expectedBlocks)
    (htrim : trimPacket h.padLength.toNat false (got ++ bs).flatten = packet)
    (hos : framesOf key es = os)
    (hblocks : List.Forall₂ (fun e b => Addressed sourceRid targetRid slotNo e.frame ∧
      CarriesBlock D e.frame b) os bs)
    (hprompt : Prompt (session.updatedAt :: os.map Arrival.now))
    (hsteady : (es.map Arrival.now).Pairwise (· ≤ ·))
    (hlast : ∀ e ∈ es.getLast?, frameKey e.frame = key) :
    HandsOver D w s es sourceRid targetRid slotNo packet := by
  induction hblocks generalizing s session got es with
  | nil =>
    have := hf.missing
    rw [List.length_nil] at hn
    omega
  | @cons e b os bs he hblocks ih =>
    obtain ⟨⟨hsrc, hdst, hslot⟩, hblock⟩ := he
    obtain ⟨others, rest, rfl, hothers, -, hrest⟩ := List.filter_eq_cons_iff.mp hos
    have hkey : frameKey e.frame = key := by rw [frameKey, hsrc, hdst, hslot, hk]
    rw [List.map_cons, Prompt, List.isChain_cons_cons] at hprompt
    -- the frames of other sessions in front of it
    rw [List.map_append, List.map_cons, List.pairwise_append] at hsteady
    obtain ⟨ho, hnone⟩ := pipeline_others (D := D) (w := w) ho fun x hx =>
      ⟨of_decide_eq_false (Bool.eq_false_iff.mpr (hothers x hx)),
        (hsteady.2.2 _ (List.mem_map_of_mem hx) _ List.mem_cons_self).trans
        hprompt.1⟩
    rw [hk] at hnone
    refine HandsOver.after _ ?_ hnone
    generalize Run.final (pipelineStep D w) s others = s at ho
    -- the frame itself
    have ho' := Reassembler.get?_expire_fresh ho hprompt.1
    obtain ⟨serialNo, hdec⟩ := hblock.2 session.header (hh ▸ hdpf)
    rw [← hblock.1] at hdec
    obtain ⟨hhead, hexp, -, -, -, hdsd, hupd, -⟩ := hf.fill_eq b e.now
    have hpush : s.reassembler.push D e.frame e.now = _ := push_block hblock.1
    cases bs with
    | nil =>
      -- the last block completes the packet
      obtain rfl := List.forall₂_nil_right_iff.mp hblocks
      have hend : rest = [] := by
        by_contra hne
        obtain ⟨x, hx⟩ := Option.isSome_iff_exists.mp (List.getLast?_isSome.mpr hne)
        have hother := List.filter_eq_nil_iff.mp hrest x (List.mem_of_getLast? hx)
        rw [decide_eq_true_eq] at hother
        refine hother (hlast x ?_)
        rw [List.getLast?_append, List.getLast?_cons, hx]
        rfl
      obtain rfl := hend
      have hcomplete : got.length + 1 = session.expectedBlocks := hn
      rw [Reassembler.pushBlock_last D (by rw [hkey, ho']) hf hdec hcomplete] at hpush
      have hkeyOf : packetKey (Reassembler.packetOf e.frame (session.fill b e.now)) = frameKey e.frame :=
        rfl
      have hbytes : (Reassembler.packetOf e.frame (session.fill b e.now)).bytes = packet := by
        rw [← htrim, Reassembler.packetOf, hdsd, hhead, hh, hf.bytes_fill b e.now hcomplete]
      refine ⟨[], e, _, rfl, hsrc, hdst, hslot, hdsd, hbytes, fun hlive => ?_⟩
      dsimp only at hpush
      generalize Reassembler.packetOf e.frame (session.fill b e.now) = p at hpush hkeyOf hlive ⊢
      have hout : (pipelineStep D w s e).2 =
          [.of p e (handlePacket w s.text e.clocks e.outcomes p)] := by
        have hnot : ¬ (s.reassembler.expire e.now).recentPackets.Live e.now (packetSignature p) :=
          mt (Reassembler.live_expire s.reassembler le_rfl _).mp hlive
        refine pipelineStep_some ?_
        rw [hpush, Reassembler.emit, if_neg hnot]
      rw [Run.outputs_cons, Run.outputs_nil, List.append_nil, hout]
      exact List.filter_cons_of_pos (decide_eq_true (hkeyOf.trans (hkey.trans hk)))
    | cons b' bs =>
      rw [List.length_cons, List.length_cons] at hn
      have hmore : got.length + 1 < session.expectedBlocks := by omega
      rw [Reassembler.pushBlock_missing D (by rw [hkey, ho']) hf hdec hmore, hkey] at hpush
      have hcount : (got ++ [b]).length + (b' :: bs).length = (session.fill b e.now).expectedBlocks := by
        rw [hexp, List.length_append, List.length_singleton, List.length_cons]
        omega
      have hstep : pipelineStep D w s e = (⟨{ s.reassembler.expire e.now with
          sessions := (s.reassembler.expire e.now).sessions.set key (session.fill b e.now) }, s.text⟩,
          []) := by
        unfold pipelineStep
        rw [hpush]
      have hrestLast : ∀ x ∈ rest.getLast?, frameKey x.frame = key := fun x hx => hlast x (by
        rw [Option.mem_def] at hx
        rw [List.getLast?_append, List.getLast?_cons, hx]
        rfl)
      have hlater := ih (s := ⟨{ s.reassembler.expire e.now with
          sessions := (s.reassembler.expire e.now).sessions.set key (session.fill b e.now) }, s.text⟩)
        ((Dict.get?_set ..).trans (if_pos rfl)) (hhead.trans hh) (hf.fill e.now hmore) hcount
        (by rw [← htrim, List.append_assoc]; rfl) hrest (by rw [hupd]; exact hprompt.2)
        (List.pairwise_cons.mp hsteady.2.1).2 hrestLast
      refine HandsOver.after [e] ?_ ?_
      · rw [Run.final_cons, Run.final_nil, hstep]
        exact hlater
      · rw [Run.outputs_cons, Run.outputs_nil, hstep]
        rfl

/-- **A packet arrives.** Its frames hand exactly this packet over, with the last one. -/
theorem pipeline_packet {h : DataHeader} {sourceRid targetRid slotNo : ℕ} {packet : Bytes}
    (hD : D.Transparent) (hk : key = sessionKey sourceRid targetRid slotNo)
    (hc : CarriesPacket D sourceRid targetRid slotNo h packet ((framesOf key es).map Arrival.frame))
    (hdpf : h.dpf = .UNCONFIRMED_DATA) (hsap : h.sap = .PACKET_DATA) (hp : Ipv4 packet)
    (hblocks : h.blocksToFollow.toNat = (packet.length + 15) / 12) (hmax : packet.length ≤ 764)
    (hprompt : Prompt ((framesOf key es).map Arrival.now))
    (hsteady : (es.map Arrival.now).Pairwise (· ≤ ·))
    (hlast : ∀ e ∈ es.getLast?, frameKey e.frame = key) :
    HandsOver D w s es sourceRid targetRid slotNo packet := by
  have h20 := hp.minimum
  have hne : packet ≠ [] := List.ne_nil_of_length_pos (by omega)
  have haddr := hc.addressed
  obtain ⟨preambles, header, blocks, hframes, hpre, ⟨htype, h', hdecode, hagrees⟩, hbs⟩ := hc.parts
  have hdpf' : h'.dpf = .UNCONFIRMED_DATA := hagrees.dpf.trans hdpf
  have hcount : h'.blocksToFollow.toNat = h.blocksToFollow.toNat :=
    congrArg UInt8.toNat hagrees.blocksToFollow
  have h0 : h'.blocksToFollow.toNat ≠ 0 := by omega
  have hlim : h'.blocksToFollow.toNat ≤ kMaxBlocks := by
    rw [hcount, hblocks]
    show _ ≤ 64
    omega
  obtain ⟨ospre, os, hos, rfl, hrest⟩ := List.map_eq_append_iff.mp hframes
  obtain ⟨e, osb, rfl, rfl, rfl⟩ := List.map_eq_cons_iff.mp hrest
  obtain ⟨front, later, rfl, hfront, hlater⟩ := List.filter_eq_append_iff.mp hos
  obtain ⟨others, rest, rfl, hothers, hown, hosb⟩ := List.filter_eq_cons_iff.mp hlater
  have hkey : frameKey e.frame = key := of_decide_eq_true hown
  rw [hos] at haddr hprompt
  have haddressed : ∀ x ∈ ospre ++ e :: osb, Addressed sourceRid targetRid slotNo x.frame :=
    fun x hx => haddr _ (List.mem_map_of_mem hx)
  -- in front of the header, there are preambles
  have hothersNil : framesOf key others = [] := List.filter_eq_nil_iff.mpr hothers
  have hcsbk : ∀ x ∈ framesOf key (front ++ others), x.frame.dataType = .CSBK := by
    rw [framesOf, List.filter_append, hfront, show List.filter _ others = _ from hothersNil,
      List.append_nil]
    exact fun x hx => hpre _ (List.mem_map_of_mem hx)
  have hnone := handingsOf_preambles (D := D) (w := w) (s := s) hcsbk
  rw [hk] at hnone
  rw [← List.append_assoc] at hsteady hlast ⊢
  refine HandsOver.after _ ?_ hnone
  generalize Run.final (pipelineStep D w) s (front ++ others) = s
  -- the header opens a session
  let opened : Reassembler := { s.reassembler.expire e.now with
    sessions := (s.reassembler.expire e.now).sessions.set key (Session.ofHeader h' e.now) }
  have hstep : pipelineStep D w s e = (⟨opened, s.text⟩, []) := by
    have hpush : s.reassembler.push D e.frame e.now = (opened, ⟨true, none⟩) := by
      unfold Reassembler.push
      rw [if_pos htype, Reassembler.pushHeader_accepted D hdecode hdpf' (hagrees.sap.trans hsap) h0
        hlim, hkey]
    unfold pipelineStep
    rw [hpush]
  rw [List.map_append, List.map_cons] at hprompt hsteady
  have hprompt' : Prompt (e.now :: osb.map Arrival.now) := List.IsChain.right_of_append hprompt
  have hlen : (packetBlocks (D.userData h packet) h.blocksToFollow.toNat).length =
      h.blocksToFollow.toNat := length_packetBlocks _ _
  have hfor : List.Forall₂ (fun x b => Addressed sourceRid targetRid slotNo x.frame ∧
      CarriesBlock D x.frame b) osb (packetBlocks (D.userData h packet) h.blocksToFollow.toNat) :=
    (List.forall₂_and_left _ _).mpr ⟨fun x hx => haddressed x
      (List.mem_append_right _ (List.mem_cons_of_mem _ hx)), List.forall₂_map_left_iff.mp hbs⟩
  -- and the blocks fill it
  have hblocksHand : HandsOver D w ⟨opened, s.text⟩ rest sourceRid targetRid slotNo packet :=
    pipeline_blocks hk ((Dict.get?_set ..).trans (if_pos rfl)) rfl
      (Session.filled_ofHeader hdpf' h0 e.now) hdpf'
      (by rw [hlen]; exact (Nat.zero_add _).trans hcount.symm)
    (by
      have hrestorable := restorable_ipv4 packet hp hblocks
      have hpad : (Session.ofHeader h' e.now).header.padLength = h.padLength := hagrees.padLength
      rw [List.nil_append, flatten_packetBlocks, hpad]
      exact trimPacket_restorable hrestorable hne (hD.userData_prefix _ _ hrestorable.1)
        (hD.userData_length _ _))
    hosb hfor hprompt' (List.pairwise_cons.mp (List.pairwise_append.mp hsteady).2.1).2
    fun x hx => hlast x (by
      rw [Option.mem_def] at hx
      rw [List.getLast?_append, List.getLast?_cons, hx]
      rfl)
  refine HandsOver.after [e] ?_ ?_
  · rw [Run.final_cons, Run.final_nil, hstep]
    exact hblocksHand
  · rw [Run.outputs_cons, Run.outputs_nil, hstep]
    rfl

end Receive

/-! ## Packets of this bridge -/

theorem ipv4_build {sourceIp targetIp : Bytes} {sourcePort targetPort : ℕ} {payload : Bytes}
    (h : buildIpv4UdpPacket sourceIp targetIp sourcePort targetPort payload ≠ []) :
    Ipv4 (buildIpv4UdpPacket sourceIp targetIp sourcePort targetPort payload) ∧
      (buildIpv4UdpPacket sourceIp targetIp sourcePort targetPort payload).length =
        28 + payload.length := by
  revert h
  unfold buildIpv4UdpPacket
  split
  · rename_i source target hsource htarget
    dsimp only
    by_cases hlong : 0xFFFF < 20 + (8 + payload.length)
    · rw [if_pos hlong]
      exact fun h => absurd rfl h
    · rw [if_neg hlong]
      intro _
      generalize checksumFinalize (checksumAccumulate (ipHeader _ _ _ _) 0) = ipChecksum
      generalize (if checksumFinalize _ = 0 then 0xFFFF else checksumFinalize _) = udpChecksum
      have hlength : (ipHeader (20 + (8 + payload.length)) ipChecksum source target ++
          udpDatagram sourcePort targetPort (8 + payload.length) udpChecksum payload).length =
            28 + payload.length := by
        simp [ipHeader, udpDatagram, bytes16, Address.bytes]
        omega
      have htotal : readUint16 (ipHeader (20 + (8 + payload.length)) ipChecksum source target ++
          udpDatagram sourcePort targetPort (8 + payload.length) udpChecksum payload) 2 =
            20 + (8 + payload.length) := toNat_ofNat_pair _ (by omega)
      refine ⟨⟨?_, by show (0x45 : UInt8) >>> 4 = 4; decide, ?_, ?_⟩, hlength⟩
      · rw [hlength]
        omega
      · rw [htotal, hlength]
        omega
      · rw [hlength]
        show ((0x45 : UInt8) &&& 0x0F).toNat * 4 ≤ _
        rw [show ((0x45 : UInt8) &&& 0x0F).toNat * 4 = 20 by decide]
        omega
  · exact fun h => absurd rfl h

section Send

variable {τ : Type} (E : Surroundings) (cfg : BMConfig) (D : Codec)

theorem transmittable_encode {sourceRid targetRid : ℕ} (hs : sourceRid < 2 ^ 24)
    (ht : targetRid < 2 ^ 24) (colorCode ns : ℕ) (packet : Bytes) (preambleCount : ℕ) :
    ∀ frame ∈ encode D sourceRid targetRid cfg.timeslot colorCode ns packet preambleCount,
      Transmittable cfg frame := by
  intro frame hf
  obtain ⟨hsrc, hdst, hslot⟩ := encode_addressed (D := D) _ _ _ _ _ _ _ frame hf
  have hsrc : frame.srcId < 2 ^ 24 := hsrc.trans_lt hs
  have hdst : frame.dstId < 2 ^ 24 := hdst.trans_lt ht
  unfold encode at hf
  split_ifs at hf with h0
  · cases hf
  dsimp only at hf
  split_ifs at hf
  · cases hf
  rw [List.mem_append, preambles, numberFrames, List.mem_map, List.mem_mapIdx] at hf
  rcases hf with ⟨i, -, rfl⟩ | ⟨i, hi, rfl⟩
  · exact ⟨hslot, Nat.mod_lt _ (by decide), hsrc, hdst, fun h => by cases h⟩
  · obtain ⟨write, -, hwrite⟩ := List.mem_filterMap.mp (List.getElem_mem hi)
    obtain ⟨bytes, -, hframe⟩ := Option.map_eq_some_iff.mp hwrite
    refine ⟨hslot, Nat.mod_lt _ (by decide), hsrc, hdst, fun _ => ?_⟩
    rw [← hframe]
    exact Nat.zero_le _

theorem map_parseHomebrewPacket {sourceRid targetRid : ℕ} (hs : sourceRid < 2 ^ 24)
    (ht : targetRid < 2 ^ 24) (colorCode ns : ℕ) (packet : Bytes) (preambleCount : ℕ)
    (streamId : UInt32) :
    ((encode D sourceRid targetRid cfg.timeslot colorCode ns packet preambleCount).map
        fun frame => buildHomebrewPacket cfg frame streamId).map parseHomebrewPacket =
      (encode D sourceRid targetRid cfg.timeslot colorCode ns packet preambleCount).map received := by
  rw [List.map_map]
  exact List.map_congr_left fun frame hf => parseHomebrewPacket_build cfg streamId
    (transmittable_encode cfg D hs ht colorCode ns packet preambleCount frame hf)

/-- The frames of the packets arrive among other frames, no two of them too far from each other, and
the last one now. -/
structure Brings (key : ℕ) (packets : List Bytes) (es : List Arrival) : Prop where
  frames : (framesOf key es).map Arrival.frame = packets.map parseHomebrewPacket
  prompt : Prompt ((framesOf key es).map Arrival.now)
  last : ∀ e ∈ es.getLast?, frameKey e.frame = key

variable {E cfg D}

/-- Of the frames, the last one hands the packet over, unless a packet with its signature was handed
over lately. The bridge that receives them started without sessions. -/
def ArrivesOnce (D : Codec) (w : Wiring) (text : TextState) (before es : List Arrival) (key : ℕ)
    (packet : Bytes) (handling : TextState → Arrival → Handling → Prop) : Prop :=
  ∃ front last p, es = front ++ [last] ∧ p.bytes = packet ∧ packetKey p = key ∧
    (Quiet (Pipeline.handed D w text (before ++ front)) p last.now →
      ∃ h, handingsOf key (Run.outputs (pipelineStep D w) (Pipeline.after D w text before) es) = [h] ∧
        h.packet = p ∧ handling (Pipeline.after D w text (before ++ front)).text last h)

/-- **A packet that the connection accepts** is queued, and the other bridge hands it over once. -/
theorem accepted_arrives (hD : D.FillsBlocks) {s : BMNetwork τ} {sourceRid targetRid slotNo : ℕ}
    {packet : Bytes} (hsource : 0 < sourceRid ∧ sourceRid < 2 ^ 24)
    (htarget : 0 < targetRid ∧ targetRid < 2 ^ 24) (hp : Ipv4 packet) (hmax : packet.length ≤ 764)
    (h : (s.writePacketData E cfg D sourceRid targetRid slotNo packet).1 = true)
    (handling : Wiring → TextState → Arrival → Handling → Prop)
    (hhandling : ∀ w text last p, p.sourceRid = sourceRid → p.targetRid = targetRid →
      p.slotNo = cfg.timeslot → p.definedShortData = false → p.bytes = packet →
      handling w text last (.of p last (handlePacket w text last.clocks last.outcomes p))) :
    ∃ packets, (s.writePacketData E cfg D sourceRid targetRid slotNo packet).2.effects =
        [.queued packets] ∧
      ∀ (w : Wiring) (text : TextState) (before es : List Arrival), Steady (before ++ es) →
        Brings (sessionKey sourceRid targetRid cfg.timeslot) packets es →
        ArrivesOnce D w text before es (sessionKey sourceRid targetRid cfg.timeslot) packet
          (handling w) := by
  rcases s.writePacketData_effects E cfg D sourceRid targetRid slotNo packet with
    ⟨hrefused, -⟩ | ⟨-, packets, ⟨ns, streamId, rfl⟩, heffects⟩
  · rw [hrefused] at h
    cases h
  refine ⟨_, heffects, fun w text before es hsteady hbrings => ?_⟩
  have hframes := hbrings.frames
  rw [map_parseHomebrewPacket cfg D hsource.2 htarget.2] at hframes
  have hne : packet ≠ [] := by
    intro hnil
    have := hp.minimum
    rw [hnil, List.length_nil] at this
    omega
  have hcarries := carriesPacket_received (carriesPacket_encode cfg.timeslot (cfg.colorCode % 256) 16
    (carries_headerOf sourceRid targetRid ns packet hD hmax) (Nat.pos_iff_ne_zero.mp hsource.1)
    (Nat.pos_iff_ne_zero.mp htarget.1) hne)
  rw [← hframes] at hcarries
  obtain ⟨pad, count, hfields⟩ := headerOf_fields sourceRid targetRid ns packet hD.toTransparent
  have hnows : (es.map Arrival.now).Pairwise (· ≤ ·) := List.pairwise_map.mpr
    ((List.pairwise_append.mp hsteady).2.1.imp fun h => h.1)
  obtain ⟨front, last, p, rfl, hsrc, hdst, hslot, hdsd, hbytes, hhands⟩ :=
    pipeline_packet (w := w) (s := Pipeline.after D w text before) hD.toTransparent rfl hcarries
      (by rw [hfields]; rfl) (by rw [hfields]; rfl) hp (headerOf_blocks sourceRid targetRid ns packet hD
        hmax) hmax hbrings.prompt hnows hbrings.last
  refine ⟨front, last, p, rfl, hbytes, by rw [packetKey, hsrc, hdst, hslot], fun hquiet => ?_⟩
  have hafter : Run.final (pipelineStep D w) (Pipeline.after D w text before) front =
      Pipeline.after D w text (before ++ front) := (Run.final_append ..).symm
  rw [hafter] at hhands
  have hsteadyLast : Steady (before ++ front ++ [last]) := by
    rw [List.append_assoc]
    exact hsteady
  refine ⟨_, hhands fun hlive => ?_, rfl, hhandling w _ last p hsrc hdst hslot hdsd hbytes⟩
  exact (live_iff_not_quiet D w text hsteadyLast p).mp hlive hquiet

end Send

/-! ## The file of a text -/

/-- The file that the message bridge leaves for a text to BrandMeister. -/
def outboxMessage (sourceRid targetRid : ℕ) (text : Bytes) : OutboxDocument where
  channel := .value (ascii ['t', 'm', 's'])
  route := .value (ascii ['b', 'r', 'a', 'n', 'd', 'm', 'e', 'i', 's', 't', 'e', 'r'])
  sourceRid := .value sourceRid
  targetRid := .value targetRid
  rawIpPacketHex := .absent
  hexIpPacket := .absent
  hexPayload := .absent
  text := .value text
  sendArsFirst := .absent
  appendNullTerminator := .absent
  bmSlot := .absent
  bmSourceIp := .absent
  bmTargetIp := .absent
  arsUdpSrcPort := .absent
  arsUdpDstPort := .absent
  udpSrcPort := .absent
  udpDstPort := .absent

/-- A configured address that can be used: none or `auto`, for the one of the radio, or a dotted one. -/
def UsableIp (configured : Bytes) : Prop :=
  configured ≠ [] → equalsIgnoreCase configured ['a', 'u', 't', 'o'] = false →
    (parseIpv4Address configured).isSome = true

section File

variable {cfg : OutboundConfig} {sourceRid targetRid : ℕ} {text payload : Bytes} {id : UInt8}

theorem bmIpOf_absent {configured : Bytes} (h : UsableIp configured) {rid : ℕ}
    (hrid : 0 < rid ∧ rid < 2 ^ 24) : ∃ ip address, bmIpOf .absent configured rid = pure ip ∧
      parseIpv4Address ip = some address := by
  unfold bmIpOf
  show ∃ ip address, (pure _ : Except Stop Bytes) = pure ip ∧ _
  by_cases hvalue : configured ≠ [] ∧ ¬ equalsIgnoreCase configured ['a', 'u', 't', 'o'] = true
  · obtain ⟨address, haddress⟩ := Option.isSome_iff_exists.mp (h hvalue.1 (by simpa using hvalue.2))
    exact ⟨_, address, rfl, by rwa [if_pos hvalue]⟩
  · refine ⟨_, ⟨12, UInt8.ofNat (rid >>> 16), UInt8.ofNat (rid >>> 8), UInt8.ofNat rid⟩, rfl, ?_⟩
    rw [if_neg hvalue, motorolaRadioIp, if_neg (by omega), parse_addressToString]

theorem prepared_outboxMessage (hs : sourceRid ≠ 0) (ht : targetRid ≠ 0)
    (hbuild : buildMotorolaTmsPayload sourceRid text (id &&& 0x1F) true = some payload)
    (hne : payload ≠ []) : prepared cfg (outboxMessage sourceRid targetRid text) id =
      .ok ⟨true, false, true, sourceRid, targetRid, none, none, payload⟩ := by
  let d := outboxMessage sourceRid targetRid text
  let p : Prepared := ⟨true, false, true, sourceRid, targetRid, none, none, []⟩
  have hheader : header cfg d = pure p := rfl
  have hraw : rawIpPacketOf d = pure none := rfl
  have hmotorola : isMotorola d p = true := decide_eq_true ⟨decide_eq_true ⟨hs, ht⟩, Or.inr rfl⟩
  have hmessage : messageOf cfg d p id = pure { p with payload := payload } := by
    unfold messageOf
    rw [if_neg (by exact nofun), if_neg (by exact nofun), if_pos hmotorola, if_pos rfl]
    show elseStop .threw (buildMotorolaTmsPayload sourceRid text (id &&& 0x1F) true) >>= _ = _
    rw [hbuild]
    rfl
  unfold prepared
  rw [hheader, pure_bind, hraw, pure_bind, hmessage, pure_bind]
  exact if_neg fun h => hne h.2

theorem bmPlan_outboxMessage (text payload : Bytes) (hwriter : cfg.writerInstalled = true)
    (hsource : 0 < sourceRid ∧ sourceRid < 2 ^ 24) (htarget : 0 < targetRid ∧ targetRid < 2 ^ 24)
    (hsourceIp : UsableIp cfg.bmSourceIp) (htargetIp : UsableIp cfg.bmTargetIp)
    (hport : cfg.outboundTmsPort < 65536) (hlength : payload.length ≤ 65507) :
    ∃ a packet, bmPlan cfg (outboxMessage sourceRid targetRid text)
        ⟨true, false, true, sourceRid, targetRid, none, none, payload⟩ = .ok (a, [packet]) ∧
      a.sourceRid = sourceRid ∧ a.targetRid = targetRid ∧ packet ≠ [] ∧ Ipv4 packet ∧
      packet.length = 28 + payload.length ∧
      udpPayload packet = some ⟨cfg.outboundTmsPort, cfg.outboundTmsPort, payload⟩ := by
  obtain ⟨sourceIp, source, hsourceEq, hsourceParse⟩ := bmIpOf_absent hsourceIp hsource
  obtain ⟨targetIp, target, htargetEq, htargetParse⟩ := bmIpOf_absent htargetIp htarget
  have hwell := buildIpv4UdpPacket_wellBuilt hsourceParse htargetParse
    (UInt16.ofNat cfg.outboundTmsPort) (UInt16.ofNat cfg.outboundTmsPort) payload
  have hports : (UInt16.ofNat cfg.outboundTmsPort).toNat = cfg.outboundTmsPort := by
    rw [UInt16.toNat_ofNat']
    exact Nat.mod_eq_of_lt hport
  dsimp only at hwell
  rw [if_pos hlength, hports] at hwell
  generalize hpacket : buildIpv4UdpPacket sourceIp targetIp cfg.outboundTmsPort cfg.outboundTmsPort
    payload = packet at hwell
  have hne : packet ≠ [] := by
    refine List.ne_nil_of_length_pos ?_
    rw [hwell.length_eq]
    omega
  refine ⟨⟨sourceRid, targetRid, cfg.bmSlot % 256, sourceIp, targetIp⟩, packet, ?_, rfl, rfl, hne, ?_,
    hwell.length_eq, hports ▸ hwell.read_back⟩
  · unfold bmPlan
    rw [if_neg (by rw [hwriter]; simp [Prepared.hasRidPair]; omega)]
    have hrequest : bmRequest cfg (outboxMessage sourceRid targetRid text)
        ⟨true, false, true, sourceRid, targetRid, none, none, payload⟩ =
        .ok (⟨sourceRid, targetRid, cfg.bmSlot % 256, sourceIp, targetIp⟩,
          ⟨cfg.outboundArsPort, cfg.outboundArsPort, cfg.outboundTmsPort, cfg.outboundTmsPort⟩) := by
      have hslot : (outboxMessage sourceRid targetRid text).bmSlot.result cfg.bmSlot =
        pure cfg.bmSlot := rfl
      unfold bmRequest
      dsimp only [outboxMessage] at hslot ⊢
      rw [hslot, pure_bind, hsourceEq, pure_bind, htargetEq, pure_bind]
      rfl
    rw [hrequest, ← hpacket]
    rfl
  · rw [← hpacket] at hne ⊢
    exact (ipv4_build hne).1

end File

section Exchange

variable {τ : Type} {E : Surroundings} {cfg : BMConfig} {D : Codec} {ocfg : OutboundConfig}

theorem effects_sendFile (s : Bridge τ) (path : Bytes) {d : OutboxDocument} (o : ArchiveOutcome)
    {p : Prepared} {a : BmAddresses} {packet : Bytes} (hne : packet ≠ [])
    (hprepared : prepared ocfg d s.nextTmsMessageId = .ok p) (hbm : p.useBrandmeister = true)
    (hplan : bmPlan ocfg d p = .ok (a, [packet])) :
    (sendFile E cfg D ocfg s path (.document d) o).effects =
      (s.network.writePacketData E cfg D a.sourceRid a.targetRid a.slotNo packet).2.effects.map
          .network ++
        if (s.network.writePacketData E cfg D a.sourceRid a.targetRid a.slotNo packet).1 = true ∧
          (o.renamed = true ∨ o.copied = true) then [.archived path] else [] := by
  let r := s.network.writePacketData E cfg D a.sourceRid a.targetRid a.slotNo packet
  show _ = r.2.effects.map OutboundEffect.network ++
    if r.1 = true ∧ (o.renamed = true ∨ o.copied = true) then [OutboundEffect.archived path] else []
  unfold sendFile
  obtain ⟨id, hexec⟩ := exec_processOutboundFile ocfg (networkWriter E cfg D) d o path
    ⟨s.network, s.nextTmsMessageId, []⟩
  rw [hexec]
  dsimp only
  rw [hprepared]
  dsimp only
  rw [if_pos hbm, hplan, Program.exec_ofResult_bind]
  dsimp only
  rw [Program.exec_bind, ← handPacket_eq, exec_handPacket _ _ hne]
  have hwrite : networkWriter E cfg D s.network a.sourceRid a.targetRid a.slotNo packet =
      (r.1, r.2.state, r.2.effects) := rfl
  dsimp only
  rw [hwrite]
  dsimp only
  cases hr : r.1 with
  | false =>
    rw [if_neg Bool.false_ne_true, if_neg fun h => Bool.false_ne_true h.1, List.append_nil]
    rfl
  | true =>
    rw [if_pos rfl]
    dsimp only
    unfold archiveSent
    by_cases ho : o.renamed = true ∨ o.copied = true
    · rw [if_pos ho, if_pos ⟨rfl, ho⟩]
      rfl
    · rw [if_neg ho, if_neg fun h => ho h.2, List.append_nil]
      rfl

/-- The acknowledgement of a message. -/
def acknowledgementOf (packet : Bytes) (sourcePort targetPort : ℕ) (operation messageId : UInt8) :
    Bytes :=
  buildIpv4UdpPacket (addressToString (addressAt packet 16)) (addressToString (addressAt packet 12))
    targetPort sourcePort [0x00, 0x03, 0x9F ||| (operation &&& 0x20), 0x00, messageId &&& 0x1F]

theorem acknowledgementOf_ne_nil (packet : Bytes) (sourcePort targetPort : ℕ)
    (operation messageId : UInt8) :
    acknowledgementOf packet sourcePort targetPort operation messageId ≠ [] :=
  buildIpv4UdpPacket_ne_nil _ _ _ _ (show 5 ≤ 0xFFFF - 28 by decide)

/-- What a bridge makes of a text that arrives: it queues the text, and acknowledges it unless that
failed. -/
def Takes (sourceRid targetRid slotNo : ℕ) (text reply : Bytes) (w : Wiring) (s : TextState)
    (last : Arrival) (h : Handling) : Prop :=
  let q := queueBrandmeisterText w.routePathSet s last.clocks last.outcomes sourceRid targetRid text
  h.queued = some q.result ∧ h.effects = q.effects ∧ h.handled = decide (q.result ≠ .FAILED) ∧
    h.acknowledgement = if w.writerSet = false ∨ q.result = .FAILED then none
      else some ⟨targetRid, sourceRid, slotNo, reply⟩

theorem takes_of_message {packet payload text : Bytes} {port : ℕ} {parsed : ParsedSmsPacket}
    (hudp : udpPayload packet = some ⟨port, port, payload⟩)
    (hparse : parseMotorolaTms payload = some parsed) (hcontrol : isControlResponse payload = false)
    (htext : messageText payload = text) (hne : text ≠ []) (w : Wiring) (s : TextState)
    (last : Arrival) {p : Packet} (hp : p.definedShortData = false) (hbytes : p.bytes = packet) :
    Takes p.sourceRid p.targetRid p.slotNo text
      (acknowledgementOf packet port port parsed.operation parsed.messageId) w s last
      (.of p last (handlePacket w s last.clocks last.outcomes p)) := by
  have hshort : ¬ p.definedShortData = true := by
    rw [hp]
    exact Bool.false_ne_true
  have hpacket : packetText p = text := by
    unfold packetText
    rw [if_neg hshort, hbytes, hudp]
    dsimp only
    rw [hcontrol, if_neg Bool.false_ne_true, htext]
  have hacknowledgement : packetAcknowledgement w p = if w.writerSet = false then none
      else some ⟨p.targetRid, p.sourceRid, p.slotNo,
        acknowledgementOf packet port port parsed.operation parsed.messageId⟩ := by
    have hlength := length_of_udpPayload hudp
    unfold packetAcknowledgement
    rw [if_neg hshort, hbytes, hudp]
    show (parseMotorolaTms payload).bind _ = _
    rw [hparse, Option.bind_some]
    unfold sendBrandmeisterTmsAcknowledgement
    by_cases hw : w.writerSet = false
    · rw [if_pos hw, if_pos (Or.inl hw)]
    · rw [if_neg hw, if_neg (by
        rintro (h | h)
        · exact hw h
        · omega)]
      exact if_neg (acknowledgementOf_ne_nil packet port port parsed.operation parsed.messageId)
  have hhandle := handlePacket_text w s last.clocks last.outcomes p (hpacket ▸ hne)
  rw [hpacket, hacknowledgement] at hhandle
  unfold Takes Handling.of
  rw [hhandle]
  refine ⟨rfl, rfl, rfl, ?_⟩
  dsimp only
  grind

/-- The bridge that sent the message makes nothing of its acknowledgement. -/
theorem consumed_acknowledgementOf (packet : Bytes) {port : ℕ} (hport : port < 65536)
    (operation messageId : UInt8) :
    udpPayload (acknowledgementOf packet port port operation messageId) = some ⟨port, port,
        [0x00, 0x03, 0x9F ||| (operation &&& 0x20), 0x00, messageId &&& 0x1F]⟩ ∧
      Consumed (acknowledgementOf packet port port operation messageId) := by
  have hudp : udpPayload (acknowledgementOf packet port port operation messageId) = some ⟨port, port,
      [0x00, 0x03, 0x9F ||| (operation &&& 0x20), 0x00, messageId &&& 0x1F]⟩ :=
    udpPayload_build hport hport (show 5 ≤ 0xFFFF - 28 by decide)
  refine ⟨hudp, fun w s c o sourceRid targetRid slotNo => ?_⟩
  have hmask := acknowledgementOperation_masked operation
  have hcontrol : isControlResponse [0x00, 0x03, 0x9F ||| (operation &&& 0x20), 0x00,
      messageId &&& 0x1F] = true := decide_eq_true ⟨show 3 ≤ 5 by decide, hmask⟩
  rw [handleBrandmeisterPacketData, hudp]
  dsimp only
  rw [if_pos hcontrol]

/-- **A text crosses to another bridge.** A file that is archived put one transmission into the queue.
When its frames arrive at another bridge, in order and none of them late, among whatever else that
bridge receives, it takes the text once, unless it got the same packet just before. The
acknowledgement goes the other way in the same way, it has the number of the message, and it ends the
exchange. -/
theorem text_crosses (E : Surroundings) (cfg : BMConfig) (D : Codec) (hD : D.FillsBlocks)
    (ocfg : OutboundConfig) (hwriter : ocfg.writerInstalled = true)
    (hsourceIp : UsableIp ocfg.bmSourceIp) (htargetIp : UsableIp ocfg.bmTargetIp)
    (hport : ocfg.outboundTmsPort < 65536) {sourceRid targetRid : ℕ}
    (hsource : 0 < sourceRid ∧ sourceRid < 2 ^ 24) (htarget : 0 < targetRid ∧ targetRid < 2 ^ 24)
    {units : List ℕ} (hunits : Printable units) (hblank : trim (toBytes units) ≠ [])
    (hfits : units.length ≤ 363) (a : Bridge τ) (path : Bytes) (o : ArchiveOutcome) :
    let effects := (sendFile E cfg D ocfg a path
      (.document (outboxMessage sourceRid targetRid (toBytes units))) o).effects
    .archived path ∈ effects → ∃ packets packet reply,
      effects = [.network (.queued packets), .archived path] ∧
      (∀ (w : Wiring) (text : TextState) (before es : List Arrival), Steady (before ++ es) →
        Brings (sessionKey sourceRid targetRid cfg.timeslot) packets es →
        ArrivesOnce D w text before es (sessionKey sourceRid targetRid cfg.timeslot) packet
          (Takes sourceRid targetRid cfg.timeslot (trim (toBytes units)) reply w)) ∧
      (∃ operation, operation &&& 0x1F = 0x1F ∧ udpPayload reply = some ⟨ocfg.outboundTmsPort,
        ocfg.outboundTmsPort, [0x00, 0x03, operation, 0x00, a.nextTmsMessageId &&& 0x1F]⟩) ∧
      ∀ {τ' : Type} (E' : Surroundings) (cfg' : BMConfig) (n : BMNetwork τ') (slotNo : ℕ),
        (n.writePacketData E' cfg' D targetRid sourceRid slotNo reply).1 = true → ∃ replies,
          (n.writePacketData E' cfg' D targetRid sourceRid slotNo reply).2.effects =
              [.queued replies] ∧
            ∀ (w : Wiring) (text : TextState) (before es : List Arrival), Steady (before ++ es) →
              Brings (sessionKey targetRid sourceRid cfg'.timeslot) replies es →
              ArrivesOnce D w text before es (sessionKey targetRid sourceRid cfg'.timeslot) reply
                fun s last h => h = .of h.packet last (.idle s true) := by
  intro effects harchived
  -- what the file asks for
  have hmessageId : a.nextTmsMessageId &&& 0x1F < 32 := by
    rw [UInt8.lt_iff_toNat_lt, UInt8.toNat_and]
    exact Nat.lt_of_le_of_lt Nat.and_le_right (by decide)
  obtain ⟨payload, parsed, hbuild, hparse, -, hid, htext⟩ :=
    parse_server hunits hblank (by omega) hmessageId sourceRid
  have hlayout := build_server hunits sourceRid (a.nextTmsMessageId &&& 0x1F)
  rw [hbuild, if_pos (by omega)] at hlayout
  have hpayload := Option.some.inj hlayout
  have hlength : payload.length = 10 + 2 * units.length := by
    rw [hpayload, length_tmsLayout, List.length_nil, List.length_cons, List.length_cons]
    omega
  have hcontrol : isControlResponse payload = false := by
    rw [hpayload]
    exact decide_eq_false fun h => absurd h.2 (by rw [tmsLayout_operation]; decide)
  have hmessage : messageText payload = trim (toBytes units) := by
    simp only [messageText, hparse, htext, if_pos hblank, if_neg hblank]
    exact trim_trim _
  have hprepared : prepared ocfg (outboxMessage sourceRid targetRid (toBytes units))
      a.nextTmsMessageId = .ok ⟨true, false, true, sourceRid, targetRid, none, none, payload⟩ :=
    prepared_outboxMessage (Nat.pos_iff_ne_zero.mp hsource.1) (Nat.pos_iff_ne_zero.mp htarget.1) hbuild
      (List.ne_nil_of_length_pos (by omega))
  obtain ⟨addresses, packet, hplan, hsourceRid, htargetRid, hne, hipv4, hpacketLength, hudp⟩ :=
    bmPlan_outboxMessage (toBytes units) payload hwriter hsource htarget hsourceIp htargetIp hport
      (by omega)
  have heffects : effects = _ := effects_sendFile (E := E) (D := D) a path o hne hprepared rfl hplan
  rw [hsourceRid, htargetRid] at heffects
  -- the connection took the packet, as the file was archived
  have haccepted : (a.network.writePacketData E cfg D sourceRid targetRid addresses.slotNo packet).1 =
      true ∧ (o.renamed = true ∨ o.copied = true) := by
    by_contra hnot
    rw [heffects, if_neg hnot, List.append_nil] at harchived
    obtain ⟨e, -, he⟩ := List.mem_map.mp harchived
    cases he
  let reply := acknowledgementOf packet ocfg.outboundTmsPort ocfg.outboundTmsPort parsed.operation
    parsed.messageId
  obtain ⟨packets, hqueued, harrives⟩ := accepted_arrives hD hsource htarget hipv4 (by omega)
    haccepted.1 (Takes sourceRid targetRid cfg.timeslot (trim (toBytes units)) reply)
    fun w text last p hsrc hdst hslot hdsd hbytes => by
      have htakes := takes_of_message hudp hparse hcontrol hmessage hblank w text last hdsd hbytes
      rwa [hsrc, hdst, hslot] at htakes
  rw [if_pos haccepted, hqueued] at heffects
  obtain ⟨hreply, hconsumed⟩ := consumed_acknowledgementOf packet hport parsed.operation parsed.messageId
  have hreplyIpv4 := ipv4_build (acknowledgementOf_ne_nil packet ocfg.outboundTmsPort
    ocfg.outboundTmsPort parsed.operation parsed.messageId)
  refine ⟨packets, packet, reply, heffects, harrives, ⟨_, acknowledgementOperation_masked
    parsed.operation, ?_⟩,
    fun E' cfg' n slotNo hn => ?_⟩
  · rw [show reply = _ from rfl, hreply, hid, masked_twice]
  · -- and the way back
    have hlength : reply.length = 28 + 5 := hreplyIpv4.2
    refine accepted_arrives hD htarget hsource hreplyIpv4.1 (hlength.trans_le (by decide)) hn _
      fun w text last p _ _ _ hdsd hbytes => ?_
    have hidle : handlePacket w text last.clocks last.outcomes p = .idle text true := by
      unfold handlePacket
      rw [if_neg (by rw [hdsd]; exact Bool.false_ne_true), hbytes]
      exact hconsumed w text last.clocks last.outcomes p.sourceRid p.targetRid p.slotNo
    rw [hidle]
    rfl

end Exchange

/-- The text `Hi` of a bridge that has logged in, whose connection takes it. -/
theorem text_crosses_sample : ∃ packets packet reply,
    (sendFile sampleSurroundings sampleConfig plainCodec plainSender
        (Run.final sampleStep sampleBridge sampleLogin) (ascii ['a']) (.document
          (outboxMessage 2621001 2621002 (toBytes [0x48, 0x69]))) ⟨true, true, true⟩).effects =
        [.network (.queued packets), .archived (ascii ['a'])] ∧
      ∀ (text : TextState) (es : List Arrival), Steady es →
        Brings (sessionKey 2621001 2621002 sampleConfig.timeslot) packets es →
        ArrivesOnce plainCodec ⟨true, true⟩ text [] es
          (sessionKey 2621001 2621002 sampleConfig.timeslot) packet
          (Takes 2621001 2621002 sampleConfig.timeslot (trim (toBytes [0x48, 0x69])) reply
            ⟨true, true⟩) := by
  obtain ⟨packets, packet, reply, heffects, harrives, -⟩ := text_crosses sampleSurroundings sampleConfig
    plainCodec plainCodec_fillsBlocks plainSender rfl (fun _ h => absurd h (by decide))
    (fun _ h => absurd h (by decide)) (by decide) (show 0 < 2621001 ∧ 2621001 < 2 ^ 24 by decide)
    (show 0 < 2621002 ∧ 2621002 < 2 ^ 24 by decide) (show Printable [0x48, 0x69] by decide) (by decide)
    (by decide) (Run.final sampleStep sampleBridge sampleLogin) (ascii ['a']) ⟨true, true, true⟩
    (by decide +kernel)
  exact ⟨packets, packet, reply, heffects, fun text es => harrives ⟨true, true⟩ text [] es⟩

end Sms
