import QuantarBridge.PacketData.Reassembler

/-!
# Filling an unconfirmed session

The blocks of an unconfirmed session are filed in the order of their arrival. `Session.Filled s got`
says that the session holds exactly the blocks `got`, in this order, and still misses some.

* `filled_ofHeader`: the session of an unconfirmed header is filled with nothing;
* `Filled.fill`: one more block is filed after the ones received, `Filled.bytes_fill`: the last one
  completes the bytes;
* `pushBlock_missing`, `pushBlock_last`, `pushBlock_garbled`: the three outcomes of a block frame;
* `pushHeader_accepted`: an acceptable header replaces the session.
-/

set_option autoImplicit false

namespace PacketData

open Dmr Lib

/-- The session holds exactly the blocks `got` and misses at least one. -/
structure Session.Filled (s : Session) (got : List (List UInt8)) : Prop where
  confirmed : s.confirmed = false
  definedShortData : s.definedShortData = false
  next : s.nextUnconfirmedBlock = got.length
  blocks : s.blocks = got.map some ++ List.replicate (s.expectedBlocks - got.length) none
  missing : got.length < s.expectedBlocks

namespace Session

theorem filled_ofHeader {h : DataHeader} (hdpf : h.dpf = .UNCONFIRMED_DATA)
    (hn : h.blocksToFollow.toNat ≠ 0) (now : Time) : (ofHeader h now).Filled [] where
  confirmed := by simp [ofHeader, hdpf]
  definedShortData := by simp [ofHeader, hdpf]
  next := rfl
  blocks := by simp [ofHeader]
  missing := Nat.pos_of_ne_zero hn

variable {s : Session} {got : List (List UInt8)}

theorem Filled.touch (hs : s.Filled got) (now : Time) : (s.touch now).Filled got :=
  ⟨hs.confirmed, hs.definedShortData, hs.next, hs.blocks, hs.missing⟩

theorem Filled.decodingHeader (hs : s.Filled got) : s.decodingHeader = s.header := by
  simp [Session.decodingHeader, hs.definedShortData]

theorem Filled.blockIndex (hs : s.Filled got) (block : DataBlock) :
    s.blockIndex block = got.length := by
  simp [Session.blockIndex, hs.confirmed, hs.next]

theorem Filled.received (hs : s.Filled got) : s.receivedBlocks = got.length := by
  rw [s.receivedBlocks_eq, hs.blocks, List.countP_append, List.countP_map,
    List.countP_replicate]
  simp [Function.comp_def]

theorem Filled.free (hs : s.Filled got) : s.blocks[got.length]? = some none := by
  have hm := hs.missing
  rw [hs.blocks, List.getElem?_append_right (by simp), List.getElem?_replicate]
  simp only [List.length_map, Nat.sub_self]
  rw [if_pos (by omega)]

theorem Filled.set (hs : s.Filled got) (b : List UInt8) :
    s.blocks.set got.length (some b) =
      (got ++ [b]).map some ++ List.replicate (s.expectedBlocks - (got.length + 1)) none := by
  have hm := hs.missing
  have hr : s.expectedBlocks - got.length = (s.expectedBlocks - (got.length + 1)) + 1 := by omega
  rw [hs.blocks, hr, List.replicate_succ, List.set_append_right _ _ (by simp)]
  simp

/-- The session after one more block was counted and filed. -/
def fill (s : Session) (b : List UInt8) (now : Time) : Session :=
  (s.touch now).countBlock.store s.nextUnconfirmedBlock b

theorem Filled.fill_eq (hs : s.Filled got) (b : List UInt8) (now : Time) :
    (s.fill b now).header = s.header ∧ (s.fill b now).expectedBlocks = s.expectedBlocks ∧
      (s.fill b now).receivedBlocks = got.length + 1 ∧
      (s.fill b now).nextUnconfirmedBlock = got.length + 1 ∧
      (s.fill b now).confirmed = false ∧ (s.fill b now).definedShortData = false ∧
      (s.fill b now).updatedAt = now ∧
      (s.fill b now).blocks = s.blocks.set got.length (some b) := by
  have hfree : s.blocks[s.nextUnconfirmedBlock]? = some none := hs.next ▸ hs.free
  have hr := hs.received
  have hn := hs.next
  have hc := hs.confirmed
  have hd := hs.definedShortData
  rw [hn] at hfree
  simp [fill, store, countBlock, Session.touch, hc, hn, hfree, hd, hr]

theorem Filled.fill (hs : s.Filled got) {b : List UInt8} (now : Time)
    (hm : got.length + 1 < s.expectedBlocks) : (s.fill b now).Filled (got ++ [b]) := by
  obtain ⟨-, he, -, hn, hc, hd, -, hb⟩ := hs.fill_eq b now
  refine ⟨hc, hd, by rw [hn, List.length_append, List.length_singleton], ?_, ?_⟩
  · rw [hb, he, hs.set b, List.length_append, List.length_singleton]
  · rw [he, List.length_append, List.length_singleton]
    exact hm

theorem Filled.bytes_fill (hs : s.Filled got) (b : List UInt8) (now : Time)
    (hm : got.length + 1 = s.expectedBlocks) :
    (s.fill b now).bytes = (got ++ [b]).flatten := by
  obtain ⟨-, -, -, -, -, -, -, hb⟩ := hs.fill_eq b now
  rw [bytes, hb, hs.set b, ← hm, Nat.sub_self, List.replicate_zero, List.append_nil, List.map_map]
  simp [Function.comp_def]

end Session

namespace Reassembler

variable (D : Codec) {s : Reassembler} {frame : NetData} {now : Time} {session : Session}
  {got : List (List UInt8)}

theorem get?_expire (s : Reassembler) (now : Time) (key : ℕ) :
    (s.expire now).sessions.get? key =
      (s.sessions.get? key).filter fun session => ¬ kSessionTimeout < now - session.updatedAt := by
  rw [expire, Dict.get?_filter]

theorem emit_sessions (s : Reassembler) (packet : Packet) (now : Time) :
    (s.emit packet now).1.sessions = s.sessions := by
  unfold emit
  split_ifs <;> rfl

theorem emit_packet (s : Reassembler) (packet : Packet) (now : Time) :
    ∀ p ∈ (s.emit packet now).2.packet, p = packet := by
  intro p hp
  unfold emit at hp
  split_ifs at hp
  · cases hp
  · exact (Option.mem_some.mp hp).symm

theorem pushBlock_none
    (h : s.sessions.get? (frameKey frame) = none) :
    pushBlock D s frame now = (s, ⟨false, none⟩) := by
  simp only [pushBlock, h]

theorem pushHeader_accepted {header : DataHeader}
    (hd : D.headerDecode frame.data = some header) (hdpf : header.dpf = .UNCONFIRMED_DATA)
    (hsap : header.sap = .PACKET_DATA) (h0 : header.blocksToFollow.toNat ≠ 0)
    (hmax : header.blocksToFollow.toNat ≤ kMaxBlocks) :
    pushHeader D s frame now =
      ({ s with sessions := s.sessions.set (frameKey frame) (Session.ofHeader header now) },
        ⟨true, none⟩) := by
  simp [pushHeader, hd, hdpf, hsap, h0, hmax]

/-- A header that announces no block or too many is ignored. -/
theorem pushHeader_refused {header : DataHeader} (hd : D.headerDecode frame.data = some header)
    (hb : header.blocksToFollow.toNat = 0 ∨ kMaxBlocks < header.blocksToFollow.toNat) :
    pushHeader D s frame now = (s, ⟨false, none⟩) := by
  simp only [pushHeader, hd]
  rw [if_pos (Or.inr hb)]

variable (h : s.sessions.get? (frameKey frame) = some session)

include h

theorem pushBlock_garbled
    (hb : ∀ header, D.blockDecode frame.dataType header frame.data = none) :
    pushBlock D s frame now =
      ({ s with sessions := s.sessions.set (frameKey frame) (session.touch now) },
        ⟨true, none⟩) := by
  simp only [pushBlock, h, hb]

variable {block : DataBlock} (hs : session.Filled got)
  (hb : D.blockDecode frame.dataType session.header frame.data = some block)

include hs hb

theorem pushBlock_missing (hm : got.length + 1 < session.expectedBlocks) :
    pushBlock D s frame now =
      ({ s with sessions := s.sessions.set (frameKey frame) (session.fill block.bytes now) },
        ⟨true, none⟩) := by
  obtain ⟨-, he, hr, -⟩ := hs.fill_eq block.bytes now
  have hlt : ¬ session.expectedBlocks ≤ got.length := by omega
  have hne : (session.fill block.bytes now).receivedBlocks ≠
      (session.fill block.bytes now).expectedBlocks := by rw [hr, he]; omega
  rw [Session.fill, hs.next] at hne
  simp only [pushBlock, h, hs.decodingHeader, hb, hs.blockIndex, if_neg hlt, if_pos hne]
  rw [Session.fill, hs.next]

/-- The last block closes the session and offers its packet. -/
theorem pushBlock_last (hm : got.length + 1 = session.expectedBlocks) :
    pushBlock D s frame now =
      emit { s with sessions := s.sessions.erase (frameKey frame) }
        (packetOf frame (session.fill block.bytes now)) now := by
  obtain ⟨-, he, hr, -⟩ := hs.fill_eq block.bytes now
  have hlt : ¬ session.expectedBlocks ≤ got.length := by omega
  have hne : ¬ (session.fill block.bytes now).receivedBlocks ≠
      (session.fill block.bytes now).expectedBlocks := by rw [hr, he]; omega
  rw [Session.fill, hs.next] at hne
  simp only [pushBlock, h, hs.decodingHeader, hb, hs.blockIndex, if_neg hlt, if_neg hne]
  rw [Session.fill, hs.next]

end Reassembler

end PacketData
