import Mathlib.Data.Fintype.EquivFin
import QuantarBridge.Lib.Run
import QuantarBridge.PacketData.RoundTrip

/-!
# Sessions do not interfere

All sessions of the reassembler are kept in one map, and every frame drops the stale ones. A frame
of one session does not change what the frames of another one give.

* `sessionOf`, `frameKey_eq_iff`: the key keeps 24 bits of each address and the slot apart;
* `framedStep`: the reassembler as a machine that reports what each frame gives;
* `Agree`: two states look the same to a session from a point in time on;
* `push_own`, `push_other`: a frame of the session, and a frame of another one;
* `completions`, `Distinct`: the packets of a run, and signatures that do not collide;
* `results_isolated`: **every session alone**.
-/

set_option autoImplicit false

namespace PacketData

open Dmr Lib Lib.Run

/-- The addresses of a frame, of which 24 bits count, and its slot. -/
def sessionOf (frame : NetData) : ℕ × ℕ × ℕ :=
  (frame.srcId % 2 ^ 24, frame.dstId % 2 ^ 24, frame.slotNo)

/-- The slot is one of the two of a channel. -/
def HasSlot (frame : NetData) : Prop := frame.slotNo = 1 ∨ frame.slotNo = 2

instance (frame : NetData) : Decidable (HasSlot frame) := inferInstanceAs (Decidable (_ ∨ _))

theorem sessionKey_eq (sourceRid targetRid slotNo : ℕ) : sessionKey sourceRid targetRid slotNo =
    (sourceRid % 2 ^ 24) * 2 ^ 25 + (targetRid % 2 ^ 24) * 2 + if slotNo = 2 then 1 else 0 := by
  have hmask : ∀ n : ℕ, n &&& 0xFFFFFF = n % 2 ^ 24 := fun n => Nat.and_two_pow_sub_one_eq_mod n 24
  have hsource := Nat.mod_lt sourceRid (Nat.two_pow_pos 24)
  have htarget := Nat.mod_lt targetRid (Nat.two_pow_pos 24)
  have hbit : (if slotNo = 2 then 1 else 0) < 2 ^ 1 := by split_ifs <;> omega
  rw [sessionKey, hmask, hmask, Nat.or_assoc, ← Nat.shiftLeft_add_eq_or_of_lt hbit,
    ← Nat.shiftLeft_add_eq_or_of_lt, Nat.shiftLeft_eq, Nat.shiftLeft_eq]
  · omega
  · rw [Nat.shiftLeft_eq]
    split_ifs <;> omega

/-- **The key of a session** determines the addresses and the slot. -/
theorem frameKey_eq_iff {f g : NetData} (hf : HasSlot f) (hg : HasSlot g) :
    frameKey f = frameKey g ↔ sessionOf f = sessionOf g := by
  rw [frameKey, frameKey, sessionKey_eq, sessionKey_eq, sessionOf, sessionOf, Prod.mk.injEq,
    Prod.mk.injEq]
  have h1 := Nat.mod_lt f.srcId (Nat.two_pow_pos 24)
  have h2 := Nat.mod_lt f.dstId (Nat.two_pow_pos 24)
  have h3 := Nat.mod_lt g.srcId (Nat.two_pow_pos 24)
  have h4 := Nat.mod_lt g.dstId (Nat.two_pow_pos 24)
  constructor
  · intro h
    rcases hf with hf | hf <;> rcases hg with hg | hg <;> simp only [hf, hg] at h ⊢ <;>
      simp at h ⊢ <;> omega
  · rintro ⟨hs, hd, hslot⟩
    rw [hs, hd, hslot]

/-- The reassembler as a machine: every frame with what `push` reports. -/
def framedStep (D : Codec) (s : Reassembler) (e : NetData × Time) :
    Reassembler × List (NetData × PushResult) :=
  ((s.push D e.1 e.2).1, [(e.1, (s.push D e.1 e.2).2)])

/-- A session that is not stale. -/
def freshSession (t : Time) (session : Option Session) : Option Session :=
  session.filter fun session => ¬ kSessionTimeout < t - session.updatedAt

theorem freshSession_fresh {now t : Time} (h : now ≤ t) (session : Option Session) :
    freshSession t (freshSession now session) = freshSession t session := by
  cases session with
  | none => rfl
  | some session =>
    by_cases hn : kSessionTimeout < now - session.updatedAt
    · have ht : kSessionTimeout < t - session.updatedAt :=
        Nat.lt_of_lt_of_le hn (Nat.sub_le_sub_right h _)
      simp [freshSession, Option.filter, hn, ht]
    · simp [freshSession, Option.filter, hn]

/-- Two states look the same to the session with the given key and packet signatures. -/
structure Agree (key : ℕ) (own : UInt64 → Prop) (now : Time) (s s' : Reassembler) : Prop where
  sessions : ∀ t, now ≤ t →
    freshSession t (s.sessions.get? key) = freshSession t (s'.sessions.get? key)
  recent : ∀ h, own h → ∀ t, now ≤ t → (s.recentPackets.Live t h ↔ s'.recentPackets.Live t h)

namespace Reassembler

variable {D : Codec} {s s' : Reassembler} {frame : NetData} {now : Time} {key : ℕ}

theorem sessions_expire (s : Reassembler) (now : Time) (key : ℕ) :
    (s.expire now).sessions.get? key = freshSession now (s.sessions.get? key) := by
  rw [expire, Dict.get?_filter]
  rfl

theorem live_expire (s : Reassembler) {now t : Time} (h : now ≤ t) (signature : UInt64) :
    (s.expire now).recentPackets.Live t signature ↔ s.recentPackets.Live t signature :=
  ExpiryMap.live_purge_iff _ h signature

theorem completed_congr (h : (s.expire now).sessions.get? (frameKey frame) =
      (s'.expire now).sessions.get? (frameKey frame)) :
    s.completed D frame now = s'.completed D frame now := by
  simp only [completed, completedBlock, h]

theorem get?_push_of_ne (hne : key ≠ frameKey frame) :
    (s.push D frame now).1.sessions.get? key = (s.expire now).sessions.get? key := by
  have hset : ∀ (s : Reassembler) session, (s.sessions.set (frameKey frame) session).get? key =
      s.sessions.get? key := by
    intro s session
    rw [Dict.get?_set, if_neg hne]
  unfold push
  dsimp only
  generalize s.expire now = s
  split_ifs
  · unfold pushHeader
    cases D.headerDecode frame.data with
    | none => rfl
    | some header =>
      dsimp only
      split_ifs
      · rfl
      · exact hset s _
  · unfold pushBlock
    dsimp only
    cases s.sessions.get? (frameKey frame) with
    | none => rfl
    | some session =>
      dsimp only
      cases D.blockDecode frame.dataType session.decodingHeader frame.data with
      | none => exact hset s _
      | some block =>
        dsimp only
        split_ifs
        · exact hset s _
        · exact hset s _
        · unfold emit
          split_ifs
          all_goals
            rw [Dict.get?_erase, if_neg hne]
  · rfl

/-- What a frame gives is determined by its session and by the signature of the packet that it
completes. -/
theorem push_congr
    (hsession : (s.expire now).sessions.get? (frameKey frame) =
      (s'.expire now).sessions.get? (frameKey frame))
    (hlive : ∀ p, s.completed D frame now = some p →
      ((s.expire now).recentPackets.Live now (packetSignature p) ↔
        (s'.expire now).recentPackets.Live now (packetSignature p))) :
    (s.push D frame now).2 = (s'.push D frame now).2 ∧
      (s.push D frame now).1.sessions.get? (frameKey frame) =
        (s'.push D frame now).1.sessions.get? (frameKey frame) := by
  unfold push
  unfold completed at hlive
  dsimp only at hlive ⊢
  generalize s.expire now = s at hsession hlive ⊢
  generalize s'.expire now = s' at hsession hlive ⊢
  split_ifs with hheader hpayload
  · unfold pushHeader
    cases D.headerDecode frame.data with
    | none => exact ⟨rfl, hsession⟩
    | some header =>
      dsimp only
      split_ifs
      · exact ⟨rfl, hsession⟩
      · exact ⟨rfl, by simp only [Dict.get?_set, if_true]⟩
  · rw [if_neg hheader, if_pos hpayload] at hlive
    unfold pushBlock
    unfold completedBlock at hlive
    dsimp only at hlive ⊢
    rw [← hsession]
    cases hs : s.sessions.get? (frameKey frame) with
    | none => exact ⟨rfl, by rw [← hsession]⟩
    | some session =>
      rw [hs] at hlive
      dsimp only at hlive ⊢
      cases hb : D.blockDecode frame.dataType session.decodingHeader frame.data with
      | none => exact ⟨rfl, by simp only [Dict.get?_set, if_true]⟩
      | some block =>
        rw [hb] at hlive
        dsimp only at hlive ⊢
        by_cases h1 : session.expectedBlocks ≤ session.blockIndex block
        · rw [if_pos h1, if_pos h1]
          exact ⟨rfl, by simp only [Dict.get?_set, if_true]⟩
        · rw [if_neg h1] at hlive
          rw [if_neg h1, if_neg h1]
          split_ifs with h2
          · exact ⟨rfl, by simp only [Dict.get?_set, if_true]⟩
          · rw [if_neg h2] at hlive
            have hiff := hlive _ rfl
            unfold emit
            dsimp only
            by_cases hl : s.recentPackets.Live now
                (packetSignature (packetOf frame ((session.touch now).countBlock.store
                  (session.blockIndex block) block.bytes)))
            · rw [if_pos hl, if_pos (hiff.mp hl)]
              exact ⟨rfl, by simp only [Dict.get?_erase, if_true]⟩
            · rw [if_neg hl, if_neg fun h => hl (hiff.mpr h)]
              exact ⟨rfl, by simp only [Dict.get?_erase, if_true]⟩
  · exact ⟨rfl, hsession⟩

theorem live_push {t : Time} (ht : now ≤ t) (signature : UInt64) :
    (s.push D frame now).1.recentPackets.Live t signature ↔
      match s.completed D frame now with
      | none => s.recentPackets.Live t signature
      | some p => if signature = packetSignature p ∧
          ¬ s.recentPackets.Live now (packetSignature p) then t < now + kPacketDuplicateWindow
        else s.recentPackets.Live t signature := by
  have h := push_emits D s frame now
  cases hc : s.completed D frame now with
  | none =>
    rw [hc] at h
    dsimp only
    rw [h.2, live_expire s ht]
  | some p =>
    rw [hc] at h
    dsimp only
    rw [h.2, emit]
    have hlive := live_expire s (le_refl now) (packetSignature p)
    by_cases hl : (s.expire now).recentPackets.Live now (packetSignature p)
    · rw [if_pos hl, if_neg fun h => h.2 (hlive.mp hl), live_expire s ht]
    · rw [if_neg hl]
      dsimp only
      rw [ExpiryMap.live_mark_iff]
      by_cases hs : signature = packetSignature p
      · rw [if_pos hs, if_pos ⟨hs, fun h => hl (hlive.mpr h)⟩]
      · rw [if_neg hs, if_neg fun h => hs h.1, live_expire s ht]

end Reassembler

namespace Agree

variable {D : Codec} {s s' : Reassembler} {frame : NetData} {now : Time} {key : ℕ}
  {own : UInt64 → Prop}

theorem later (h : Agree key own now s s') {t : Time} (ht : now ≤ t) : Agree key own t s s' :=
  ⟨fun t' ht' => h.sessions t' (le_trans ht ht'), fun x hx t' ht' => h.recent x hx t' (le_trans ht ht')⟩

theorem sessions_expire (h : Agree key own now s s') :
    (s.expire now).sessions.get? key = (s'.expire now).sessions.get? key := by
  rw [Reassembler.sessions_expire, Reassembler.sessions_expire, h.sessions now le_rfl]

/-- **A frame of the session** gives the same in both states. -/
theorem push_own (h : Agree (frameKey frame) own now s s')
    (hown : ∀ p, s.completed D frame now = some p → own (packetSignature p)) :
    (s.push D frame now).2 = (s'.push D frame now).2 ∧
      Agree (frameKey frame) own now (s.push D frame now).1 (s'.push D frame now).1 := by
  have hsession := h.sessions_expire
  have hcompleted := Reassembler.completed_congr (D := D) hsession
  have hlive : ∀ p, s.completed D frame now = some p →
      ((s.expire now).recentPackets.Live now (packetSignature p) ↔
        (s'.expire now).recentPackets.Live now (packetSignature p)) := by
    intro p hp
    rw [Reassembler.live_expire s le_rfl, Reassembler.live_expire s' le_rfl]
    exact h.recent _ (hown p hp) now le_rfl
  obtain ⟨hresult, hget⟩ := Reassembler.push_congr hsession hlive
  refine ⟨hresult, fun t _ => by rw [hget], fun x hx t ht => ?_⟩
  rw [Reassembler.live_push ht, Reassembler.live_push ht, ← hcompleted]
  cases hp : s.completed D frame now with
  | none => exact h.recent x hx t ht
  | some p =>
    have hiff := h.recent _ (hown p hp) now le_rfl
    have hx' := h.recent x hx t ht
    by_cases hmark : x = packetSignature p ∧ ¬ s.recentPackets.Live now (packetSignature p)
    · have hmark' : x = packetSignature p ∧ ¬ s'.recentPackets.Live now (packetSignature p) :=
        ⟨hmark.1, fun hl => hmark.2 (hiff.mpr hl)⟩
      simp only [if_pos hmark, if_pos hmark']
    · have hmark' : ¬ (x = packetSignature p ∧
          ¬ s'.recentPackets.Live now (packetSignature p)) :=
        fun h' => hmark ⟨h'.1, fun hl => h'.2 (hiff.mp hl)⟩
      simp only [if_neg hmark, if_neg hmark', hx']

/-- **A frame of another session** goes unnoticed. -/
theorem push_other (h : Agree key own now s s') (hne : key ≠ frameKey frame)
    (hown : ∀ p, s.completed D frame now = some p → ¬ own (packetSignature p)) :
    Agree key own now (s.push D frame now).1 s' := by
  refine ⟨fun t ht => ?_, fun x hx t ht => ?_⟩
  · rw [Reassembler.get?_push_of_ne hne, Reassembler.sessions_expire, freshSession_fresh ht]
    exact h.sessions t ht
  · rw [Reassembler.live_push ht]
    cases hp : s.completed D frame now with
    | none => exact h.recent x hx t ht
    | some p =>
      have hne : ¬ (x = packetSignature p ∧ ¬ s.recentPackets.Live now (packetSignature p)) := by
        rintro ⟨rfl, -⟩
        exact hown p hp hx
      dsimp only
      rw [if_neg hne]
      exact h.recent x hx t ht

end Agree

/-- The packets that the frames of a run complete, whether they are emitted or not. -/
def completions (D : Codec) (s : Reassembler) : List (NetData × Time) → List Packet
  | [] => []
  | e :: es => (s.completed D e.1 e.2).toList ++ completions D (s.push D e.1 e.2).1 es

/-- The addresses of a packet, of which 24 bits count, and its slot. -/
def packetSession (p : Packet) : ℕ × ℕ × ℕ :=
  (p.sourceRid % 2 ^ 24, p.targetRid % 2 ^ 24, p.slotNo)

/-- Packets of different sessions have different signatures. -/
def Distinct (D : Codec) (es : List (NetData × Time)) : Prop :=
  ∀ p ∈ completions D Reassembler.init es, ∀ q ∈ completions D Reassembler.init es,
    packetSignature p = packetSignature q → packetSession p = packetSession q

theorem packetSession_completed {D : Codec} {s : Reassembler} {frame : NetData} {now : Time}
    {p : Packet} (h : s.completed D frame now = some p) : packetSession p = sessionOf frame := by
  unfold Reassembler.completed Reassembler.completedBlock at h
  dsimp only at h
  split_ifs at h
  split at h
  · cases h
  · split at h
    · cases h
    · split_ifs at h
      cases h
      rfl

section Isolation

variable (D : Codec) (k : ℕ × ℕ × ℕ)

/-- The signature is one of a packet of the session. -/
def OwnSignature (es : List (NetData × Time)) (x : UInt64) : Prop :=
  ∃ p ∈ completions D Reassembler.init es, packetSession p = k ∧ packetSignature p = x

/-- Two runs that have come to the same events, one of them without those of the other sessions. -/
def Alongside (key : ℕ) (own : UInt64 → Prop) (es : List (NetData × Time)) (s s' : Reassembler) :
    Prop :=
  (∃ t, Agree key own t s s' ∧ ∀ e ∈ es, t ≤ e.2) ∧ (es.Pairwise fun e e' => e.2 ≤ e'.2) ∧
    (∀ e ∈ es, sessionOf e.1 = k ↔ frameKey e.1 = key) ∧
    ∀ p ∈ completions D s es, packetSession p = k ↔ own (packetSignature p)

variable {D k}

theorem Alongside.head {key : ℕ} {own : UInt64 → Prop} {e : NetData × Time}
    {es : List (NetData × Time)} {s s' : Reassembler} (h : Alongside D k key own (e :: es) s s') :
    Agree key own e.2 s s' ∧ (sessionOf e.1 = k ↔ frameKey e.1 = key) ∧
      ∀ p, s.completed D e.1 e.2 = some p → (sessionOf e.1 = k ↔ own (packetSignature p)) := by
  obtain ⟨⟨t, hagree, htime⟩, -, hkey, hown⟩ := h
  refine ⟨hagree.later (htime e List.mem_cons_self), hkey e List.mem_cons_self, fun p hp => ?_⟩
  rw [← packetSession_completed hp]
  exact hown p (List.mem_append_left _ (by rw [hp]; exact List.mem_singleton_self p))

theorem Alongside.tail {key : ℕ} {own : UInt64 → Prop} {e : NetData × Time}
    {es : List (NetData × Time)} {s s' r : Reassembler} (h : Alongside D k key own (e :: es) s s')
    (hr : Agree key own e.2 (s.push D e.1 e.2).1 r) :
    Alongside D k key own es (s.push D e.1 e.2).1 r := by
  obtain ⟨-, hsorted, hkey, hown⟩ := h
  rw [List.pairwise_cons] at hsorted
  exact ⟨⟨e.2, hr, hsorted.1⟩, hsorted.2, fun e' he => hkey e' (List.mem_cons_of_mem _ he),
    fun p hp => hown p (List.mem_append_right _ hp)⟩

/-- The key of a session that some of the frames may belong to. -/
theorem exists_key {es : List (NetData × Time)} (hslot : ∀ e ∈ es, HasSlot e.1) (k : ℕ × ℕ × ℕ) :
    ∃ key, ∀ e ∈ es, sessionOf e.1 = k ↔ frameKey e.1 = key := by
  by_cases h : ∃ e ∈ es, sessionOf e.1 = k
  · obtain ⟨g, hg, rfl⟩ := h
    exact ⟨frameKey g.1, fun e he => (frameKey_eq_iff (hslot e he) (hslot g hg)).symm⟩
  · -- no frame belongs to the session, and any other key will do
    obtain ⟨key, hfresh⟩ := Infinite.exists_notMem_finset (es.map fun e => frameKey e.1).toFinset
    refine ⟨key, fun e he => iff_of_false (fun hk => h ⟨e, he, hk⟩) fun hk => hfresh ?_⟩
    exact List.mem_toFinset.mpr (List.mem_map.mpr ⟨e, he, hk⟩)

/-- **Every session alone.** What the frames of a session give is the same without the frames of the
other sessions. -/
theorem results_isolated (D : Codec) (es : List (NetData × Time))
    (hslot : ∀ e ∈ es, HasSlot e.1) (htime : es.Pairwise fun e e' => e.2 ≤ e'.2)
    (hdistinct : Distinct D es) (k : ℕ × ℕ × ℕ) :
    (outputs (framedStep D) Reassembler.init es).filter (fun o => sessionOf o.1 = k) =
      outputs (framedStep D) Reassembler.init (es.filter fun e => sessionOf e.1 = k) := by
  obtain ⟨key, hkey⟩ := exists_key hslot k
  refine filter_outputs_of_unwinding (R := Alongside D k key (OwnSignature D k es)) ?_ ?_ es _ _ ?_
  · intro e es' s s' h he
    obtain ⟨hagree, hframe, hown⟩ := h.head
    have hmine : sessionOf e.1 = k := of_decide_eq_true he
    have hk := hframe.mp hmine
    subst hk
    obtain ⟨hresult, hagree'⟩ := hagree.push_own (D := D) fun p hp => (hown p hp).mp hmine
    refine ⟨?_, ?_, h.tail hagree'⟩
    · simp only [framedStep, hresult]
    · exact List.forall_mem_singleton.mpr he
  · intro e es' s s' h he
    obtain ⟨hagree, hframe, hown⟩ := h.head
    have hother : sessionOf e.1 ≠ k := of_decide_eq_false he
    have hne : key ≠ frameKey e.1 := fun hk => hother (hframe.mpr hk.symm)
    refine ⟨List.forall_mem_singleton.mpr he, h.tail ?_⟩
    exact hagree.push_other hne fun p hp hx => hother ((hown p hp).mpr hx)
  · refine ⟨⟨0, ⟨fun _ _ => rfl, fun _ _ _ _ => Iff.rfl⟩, fun e _ => Nat.zero_le _⟩, htime, hkey,
      fun p hp => ⟨fun h => ⟨p, hp, h, rfl⟩, ?_⟩⟩
    rintro ⟨q, hq, hk, hsig⟩
    rw [← hk]
    exact hdistinct p hp q hq hsig.symm

end Isolation

/-- The frames of two packets, in turn, sixty milliseconds apart. -/
def sampleInterleaving : List (NetData × Time) :=
  let frames sourceRid fill := encode plainCodec sourceRid 1000001 2 1 5 (samplePacket fill) 0
  (((frames 1000002 0xAA).zip (frames 1000003 0xAA)).flatMap fun f => [f.1, f.2]).mapIdx
    fun i f => (f, milliseconds 60 * i)

/-- The same packet from two radios at the same time. -/
theorem results_isolated_sample :
    (outputs (framedStep plainCodec) Reassembler.init sampleInterleaving).filter
        (fun o => sessionOf o.1 = (1000002, 1000001, 2)) =
      outputs (framedStep plainCodec) Reassembler.init
        (sampleInterleaving.filter fun e => sessionOf e.1 = (1000002, 1000001, 2)) :=
  results_isolated plainCodec sampleInterleaving (by decide +kernel) (by decide +kernel)
    (by unfold Distinct; decide +kernel) _

end PacketData
