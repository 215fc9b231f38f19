import Mathlib.Data.List.Chain
import QuantarBridge.PacketData.Encoder
import QuantarBridge.PacketData.Fill
import QuantarBridge.PacketData.PlainCodec
import QuantarBridge.PacketData.Transmission

/-!
# The encoder and the reassembler

The frames of an IPv4 packet, pushed in order into a fresh reassembler, give the packet back.

* `Codec.FillsBlocks`: how many blocks the length calculation announces, and which packets the codec
  carries;
* `reported`: the packet reported for each frame, `Prompt`: no session runs out between two frames;
* `Ipv4`: what the receiver's cut relies on;
* `reported_blocks`: the blocks of an open session, by induction over the blocks that are left;
* `roundTrip`: **the frames of a packet report exactly this packet, with the last frame**.
-/

set_option autoImplicit false

namespace PacketData

open Dmr Lib

/-- The length calculation counts the blocks of twelve bytes that hold the packet and four bytes of
CRC, as long as the seven bits of the header can count them. The codec carries every packet that fits
into the blocks of a header that the wire has room for. -/
structure Codec.FillsBlocks (D : Codec) : Prop extends D.Transparent where
  blocks : ∀ len h, (len + 15) / 12 < 128 →
    (D.calculateLength .RATE_12_DATA len h).blocksToFollow.toNat = (len + 15) / 12
  pad : ∀ len h, (len + 15) / 12 < 128 →
    (D.calculateLength .RATE_12_DATA len h).padLength.toNat < 32
  carries : ∀ h ip, h.OnWire → ip.length ≤ 12 * h.blocksToFollow.toNat → D.Carries h ip

/-- An IPv4 packet: the version, its own length and a header that is not longer. -/
structure Ipv4 (packet : List UInt8) : Prop where
  minimum : 20 ≤ packet.length
  version : packet.getD 0 0 >>> 4 = 4
  totalLength : readUint16 packet 2 = packet.length
  headerLength : (packet.getD 0 0 &&& 0x0F).toNat * 4 ≤ packet.length

/-- The reassembler with the result for every frame. -/
def resultStep (D : Codec) (s : Reassembler) (e : NetData × Time) :
    Reassembler × List PushResult :=
  ((s.push D e.1 e.2).1, [(s.push D e.1 e.2).2])

/-- The packet reported for each frame. -/
def reportedFrom (D : Codec) (s : Reassembler) (es : List (NetData × Time)) :
    List (Option Packet) :=
  (Run.outputs (resultStep D) s es).map PushResult.packet

/-- The packet reported for each frame by a fresh reassembler. -/
def reported (D : Codec) (es : List (NetData × Time)) : List (Option Packet) :=
  reportedFrom D Reassembler.init es

/-- No frame comes later after the one before than a session waits. -/
def Prompt (times : List Time) : Prop := times.IsChain fun a b => b ≤ a + kSessionTimeout

/-- Nothing was emitted lately. -/
def Reassembler.Quiet (s : Reassembler) : Prop := ∀ t k, ¬ s.recentPackets.Live t k

variable {D : Codec} {s : Reassembler} {frame : NetData} {now : Time}

theorem reportedFrom_cons (e : NetData × Time) (es : List (NetData × Time)) :
    reportedFrom D s (e :: es) =
      (s.push D e.1 e.2).2.packet :: reportedFrom D (s.push D e.1 e.2).1 es := by
  simp [reportedFrom, resultStep]

namespace Reassembler

theorem quiet_init : init.Quiet := fun t k => ExpiryMap.not_live_empty t k

theorem quiet_expire (h : s.Quiet) (now : Time) : (s.expire now).Quiet := by
  intro t k hl
  rw [expire, ExpiryMap.live_iff, ExpiryMap.purge] at hl
  obtain ⟨e, he, ht⟩ := hl
  rw [Dict.get?_filter, Option.filter_eq_some_iff] at he
  exact h t k ((ExpiryMap.live_iff _ t k).mpr ⟨e, he.1, ht⟩)

theorem emit_quiet (h : s.Quiet) (packet : Packet) (now : Time) :
    (s.emit packet now).2.packet = some packet := by
  rw [emit, if_neg (h now _)]

/-- A session that was touched a session timeout ago at most is still open. -/
theorem get?_expire_fresh {session : Session} {key : ℕ}
    (h : s.sessions.get? key = some session) (ht : now ≤ session.updatedAt + kSessionTimeout) :
    (s.expire now).sessions.get? key = some session := by
  rw [get?_expire, h, Option.filter_some, if_pos]
  have : ¬ kSessionTimeout < now - session.updatedAt := by
    have : now - session.updatedAt ≤ kSessionTimeout := Nat.sub_le_iff_le_add'.mpr ht
    exact Nat.not_lt.mpr this
  exact decide_eq_true this

end Reassembler

/-! ## The frames of a packet -/

theorem push_preamble (hf : frame.dataType = .CSBK) :
    s.push D frame now = (s.expire now, ⟨false, none⟩) := by
  simp [Reassembler.push, hf, isPayloadDataType]

theorem reported_preambles {es : List (NetData × Time)} (hs : s.Quiet)
    (hes : ∀ e ∈ es, e.1.dataType = .CSBK) (rest : List (NetData × Time)) :
    ∃ s' : Reassembler, s'.Quiet ∧ reportedFrom D s (es ++ rest) =
      List.replicate es.length none ++ reportedFrom D s' rest := by
  induction es generalizing s with
  | nil => exact ⟨s, hs, rfl⟩
  | cons e es ih =>
    obtain ⟨s', hs', hr⟩ := ih (Reassembler.quiet_expire hs e.2) fun e' he =>
      hes e' (List.mem_cons_of_mem _ he)
    refine ⟨s', hs', ?_⟩
    rw [List.cons_append, reportedFrom_cons, push_preamble (hes e List.mem_cons_self)]
    simp only [List.length_cons, List.replicate_succ, List.cons_append]
    rw [hr]

/-- **The blocks of an open session.** The induction is on the blocks that are left. -/
theorem reported_blocks {h : DataHeader} {session : Session} {got bs : List (List UInt8)}
    {es : List (NetData × Time)} {key : ℕ} {source target slot : ℕ}
    (hk : key = sessionKey source target slot) (hs : s.Quiet)
    (ho : s.sessions.get? key = some session) (hh : session.header = h)
    (hf : session.Filled got) (hdpf : h.dpf = .UNCONFIRMED_DATA)
    (hn : got.length + bs.length = session.expectedBlocks)
    (hes : List.Forall₂ (fun e b => Addressed source target slot e.1 ∧ CarriesBlock D e.1 b) es bs)
    (ht : Prompt (session.updatedAt :: es.map Prod.snd)) :
    ∃ n p, reportedFrom D s es = List.replicate n none ++ [some p] ∧ p.sourceRid = source ∧
      p.targetRid = target ∧ p.slotNo = slot ∧
      p.bytes = trimPacket h.padLength.toNat false (got ++ bs).flatten := by
  induction hes generalizing s session got with
  | nil =>
    have := hf.missing
    simp at hn
    omega
  | @cons e b es bs he _ ih =>
    obtain ⟨⟨hsrc, hdst, hslot⟩, hblock⟩ := he
    have hkey : frameKey e.1 = key := by rw [frameKey, hsrc, hdst, hslot, hk]
    rw [List.map_cons, Prompt, List.isChain_cons_cons] at ht
    have hq := Reassembler.quiet_expire hs e.2
    have ho' := Reassembler.get?_expire_fresh ho ht.1
    obtain ⟨serialNo, hdec⟩ := hblock.2 session.header (hh ▸ hdpf)
    rw [← hblock.1] at hdec
    obtain ⟨hhead, hexp, -, -, -, hdsd, hupd, -⟩ := hf.fill_eq b e.2
    rw [reportedFrom_cons, push_block hblock.1]
    cases bs with
    | nil =>
      -- the last block completes the packet
      have hlast : got.length + 1 = session.expectedBlocks := by simpa using hn
      cases es with
      | cons e' es => rename_i hnil; cases hnil
      | nil =>
        rw [Reassembler.pushBlock_last D (by rw [hkey, ho']) hf hdec hlast]
        refine ⟨0, Reassembler.packetOf e.1 (session.fill b e.2), ?_, hsrc, hdst, hslot, ?_⟩
        · rw [Reassembler.emit_quiet (by exact hq)]
          rfl
        · rw [Reassembler.packetOf, hdsd, hhead, hh, hf.bytes_fill b e.2 hlast]
    | cons b' bs =>
      have hmore : got.length + 1 < session.expectedBlocks := by
        rw [← hn]; simp
      rw [Reassembler.pushBlock_missing D (by rw [hkey, ho']) hf hdec hmore, hkey]
      let s' : Reassembler :=
        { s.expire e.2 with sessions := (s.expire e.2).sessions.set key (session.fill b e.2) }
      have hq' : s'.Quiet := hq
      have hset : s'.sessions.get? key = some (session.fill b e.2) := by
        rw [Dict.get?_set, if_pos rfl]
      have hcount : (got ++ [b]).length + (b' :: bs).length =
          (session.fill b e.2).expectedBlocks := by
        rw [hexp, ← hn]
        simp
        omega
      obtain ⟨n, p, hr, hp⟩ := ih hq' hset (hhead.trans hh) (hf.fill e.2 hmore) hcount
        (by rw [hupd]; exact ht.2)
      refine ⟨n + 1, p, ?_, ?_⟩
      · simp only [List.replicate_succ, List.cons_append]
        rw [← hr]
      · rw [List.append_assoc] at hp
        exact hp

/-! ## The round trip -/

section RoundTrip

variable (sourceRid targetRid slotNo colorCode sequenceNo : ℕ) (packet : List UInt8)
  (preambleCount : ℕ)

theorem encode_ne_nil
    (hcarries : D.Carries (headerOf D sourceRid targetRid sequenceNo packet) packet)
    (hs : sourceRid ≠ 0) (ht : targetRid ≠ 0) (hp : packet ≠ []) :
    encode D sourceRid targetRid slotNo colorCode sequenceNo packet preambleCount ≠ [] := by
  obtain ⟨header, block, hf, -, -⟩ :=
    dataFrames_eq sourceRid targetRid slotNo colorCode sequenceNo packet hcarries
  have hne : dataFrames D sourceRid targetRid slotNo colorCode sequenceNo packet ≠ [] := by
    rw [hf]
    exact List.cons_ne_nil _ _
  have h0 : ¬ (sourceRid = 0 ∨ targetRid = 0 ∨ packet = []) := by simp [hs, ht, hp]
  rw [encode, if_neg h0]
  simp only [if_neg hne]
  intro h
  have hnum := (List.append_eq_nil_iff.mp h).2
  rw [numberFrames, List.mapIdx_eq_nil_iff] at hnum
  exact hne hnum

/-- The header announces the blocks that hold the packet and its CRC. -/
theorem headerOf_blocks (hD : D.FillsBlocks) (hmax : packet.length ≤ 764) :
    (headerOf D sourceRid targetRid sequenceNo packet).blocksToFollow.toNat =
      (packet.length + 15) / 12 := by
  rw [headerOf]
  exact hD.blocks _ _ (by omega)

theorem carries_headerOf (hD : D.FillsBlocks) (hmax : packet.length ≤ 764) :
    D.Carries (headerOf D sourceRid targetRid sequenceNo packet) packet := by
  have hblocks := headerOf_blocks sourceRid targetRid sequenceNo packet hD hmax
  obtain ⟨pad, count, hfields⟩ :=
    headerOf_fields sourceRid targetRid sequenceNo packet hD.toTransparent
  have hpad := hD.pad packet.length (packetHeader sourceRid targetRid sequenceNo) (by omega)
  exact hD.carries _ _ ⟨by rw [hfields]; rfl, by rw [hfields]; rfl, hpad, by omega⟩ (by omega)

/-- The cut of the receiver undoes padding and CRC. -/
theorem restorable_ipv4 {h : DataHeader} (hp : Ipv4 packet)
    (hb : h.blocksToFollow.toNat = (packet.length + 15) / 12) : Restorable h packet := by
  have h20 := hp.minimum
  refine ⟨by rw [hb]; omega, fun _ => ⟨by omega, hp.totalLength, hp.headerLength⟩, fun hno => ?_⟩
  exact absurd ⟨by rw [hb]; omega, hp.version⟩ hno

/-- **The round trip.** The frames of an IPv4 packet, preambles included, pushed in order into a
fresh reassembler, report exactly one packet, with the last frame, and it is the packet sent. -/
theorem roundTrip (hD : D.FillsBlocks) (hs : sourceRid ≠ 0) (ht : targetRid ≠ 0)
    (hp : Ipv4 packet) (hmax : packet.length ≤ 764) (es : List (NetData × Time))
    (hes : es.map Prod.fst =
      encode D sourceRid targetRid slotNo colorCode sequenceNo packet preambleCount)
    (hprompt : Prompt (es.map Prod.snd)) :
    ∃ n p, reported D es = List.replicate n none ++ [some p] ∧ p.bytes = packet ∧
      p.sourceRid = sourceRid ∧ p.targetRid = targetRid ∧ p.slotNo = slotNo := by
  have hne : packet ≠ [] := by
    intro h
    have := hp.minimum
    simp [h] at this
  have haddr := encode_addressed (D := D) sourceRid targetRid slotNo colorCode sequenceNo packet
    preambleCount
  have hblocks := headerOf_blocks sourceRid targetRid sequenceNo packet hD hmax
  obtain ⟨pad, count, hfields⟩ :=
    headerOf_fields sourceRid targetRid sequenceNo packet hD.toTransparent
  have hcarries := carries_headerOf sourceRid targetRid sequenceNo packet hD hmax
  have hdpf : (headerOf D sourceRid targetRid sequenceNo packet).dpf = .UNCONFIRMED_DATA := by
    rw [hfields]; rfl
  have hsap : (headerOf D sourceRid targetRid sequenceNo packet).sap = .PACKET_DATA := by
    rw [hfields]; rfl
  have h20 := hp.minimum
  rcases encode_cases sourceRid targetRid slotNo colorCode sequenceNo packet preambleCount
    hcarries with he | ⟨-, pre, header, blocks, he, hpre, ⟨htype, h', hdecode, hagrees⟩, hbs⟩
  · exact absurd he (encode_ne_nil _ _ _ _ _ _ _ hcarries hs ht hne)
  rw [← hes] at haddr
  rw [he] at hes
  obtain ⟨espre, rest, rfl, hmpre, hrest⟩ := List.map_eq_append_iff.mp hes
  obtain ⟨e, esb, rfl, rfl, hmb⟩ := List.map_eq_cons_iff.mp hrest
  generalize headerOf D sourceRid targetRid sequenceNo packet = h at *
  have hcount : h'.blocksToFollow.toNat = h.blocksToFollow.toNat :=
    congrArg UInt8.toNat hagrees.blocksToFollow
  -- the preambles
  have hcsbk : ∀ f ∈ espre, f.1.dataType = .CSBK := fun f hf =>
    hpre _ (hmpre ▸ List.mem_map_of_mem hf)
  obtain ⟨s', hq, hr⟩ := reported_preambles (D := D) Reassembler.quiet_init hcsbk (e :: esb)
  -- the header opens the session
  have hae : Addressed sourceRid targetRid slotNo e.1 :=
    haddr _ (by simp)
  have hkey : frameKey e.1 = sessionKey sourceRid targetRid slotNo := by
    rw [frameKey, hae.1, hae.2.1, hae.2.2]
  have h0 : h'.blocksToFollow.toNat ≠ 0 := by omega
  have hlim : h'.blocksToFollow.toNat ≤ kMaxBlocks := by
    have : kMaxBlocks = 64 := rfl
    omega
  let s'' : Reassembler :=
    { s'.expire e.2 with
      sessions := (s'.expire e.2).sessions.set (frameKey e.1) (Session.ofHeader h' e.2) }
  have hpush : s'.push D e.1 e.2 = (s'', ⟨true, none⟩) := by
    rw [Reassembler.push]
    simp only [if_pos htype]
    exact Reassembler.pushHeader_accepted D hdecode (hagrees.dpf.trans hdpf)
      (hagrees.sap.trans hsap) h0 hlim
  -- the blocks
  have hlen : (packetBlocks (D.userData h packet) h.blocksToFollow.toNat).length =
      h.blocksToFollow.toNat := length_packetBlocks _ _
  have hfor : List.Forall₂ (fun f b => Addressed sourceRid targetRid slotNo f.1 ∧
      CarriesBlock D f.1 b) esb (packetBlocks (D.userData h packet) h.blocksToFollow.toNat) := by
    rw [← hmb] at hbs
    rw [List.forall₂_map_left_iff] at hbs
    refine List.forall₂_and_left _ _ |>.mpr ⟨fun f hf => haddr _ ?_, hbs⟩
    exact List.mem_map_of_mem (by simp [hf])
  have hsuffix : Prompt (e.2 :: esb.map Prod.snd) := by
    rw [List.map_append, List.map_cons] at hprompt
    exact List.IsChain.right_of_append hprompt
  have hq' : s''.Quiet := Reassembler.quiet_expire hq e.2
  have hset : s''.sessions.get? (frameKey e.1) = some (Session.ofHeader h' e.2) := by
    rw [Dict.get?_set, if_pos rfl]
  obtain ⟨n, p, hout, hsrc, hdst, hslot, hbytes⟩ := reported_blocks hkey hq' hset rfl
    (Session.filled_ofHeader (hagrees.dpf.trans hdpf) h0 e.2) (hagrees.dpf.trans hdpf)
    (by rw [hlen]; exact (Nat.zero_add _).trans hcount.symm) hfor hsuffix
  refine ⟨espre.length + (n + 1), p, ?_, ?_, hsrc, hdst, hslot⟩
  · rw [reported, hr, reportedFrom_cons, hpush]
    dsimp only
    rw [hout, List.replicate_add, List.append_assoc, List.replicate_succ, List.cons_append]
  · have hrestorable := restorable_ipv4 packet hp hblocks
    have hpad : (Session.ofHeader h' e.2).header.padLength = h.padLength := hagrees.padLength
    rw [hbytes, List.nil_append, flatten_packetBlocks, hpad]
    exact trimPacket_restorable hrestorable hne (hD.userData_prefix _ _ hrestorable.1)
      (hD.userData_length _ _)

end RoundTrip

theorem plainCodec_fillsBlocks : plainCodec.FillsBlocks where
  toTransparent := plainCodec_transparent
  blocks len h hlt := by
    simp only [plainCodec, UInt8.toNat_ofNat']
    omega
  pad len h hlt := by
    simp only [plainCodec, UInt8.toNat_ofNat']
    omega
  carries h ip _ _ := plainCodec_carries h ip

/-- Twenty bytes, with two preambles and a frame every sixty milliseconds. -/
theorem roundTrip_sample : ∃ n p, reported plainCodec
      ((encode plainCodec 1000002 1000001 2 1 5 (samplePacket 0xAA) 2).mapIdx
        fun i f => (f, milliseconds 60 * i)) = List.replicate n none ++ [some p] ∧
    p.bytes = samplePacket 0xAA ∧ p.sourceRid = 1000002 ∧ p.targetRid = 1000001 ∧ p.slotNo = 2 :=
  roundTrip 1000002 1000001 2 1 5 (samplePacket 0xAA) 2 plainCodec_fillsBlocks (by decide)
    (by decide) ⟨by decide, by decide, by decide, by decide⟩ (by decide) _ (by decide +kernel)
    (by unfold Prompt; decide +kernel)

end PacketData
