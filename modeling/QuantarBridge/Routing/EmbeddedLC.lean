import Mathlib.Data.List.Induction
import QuantarBridge.Lib.Run
import QuantarBridge.Routing.Loop

/-!
# The link control embedded in voice frames

A voice frame of a call carries a fragment of the link control of its call. When the talkgroup of a
call is mapped, in either direction, the fragment is taken from a link control that the slot keeps,
and only the header of a mapped call sets it.

* `FragmentReader`: the fragment a payload carries, and what the DVM library does to it;
* `Crossing`: a frame at the mapping; `cross` is the mapping of both directions;
* `OwnFragment`: the frame leaves with the fragment of its own link control;
* `announced`: the link control the last mapped header of a slot set, `AnnouncedSame`: it has the
  fragment the frame needs;
* `ownFragment_iff`, `along_cross_iff`: one frame, and a sequence of frames;
* `ownFragments_iff`: **both directions**.
-/

set_option autoImplicit false

namespace Routing

open Dmr Lib PacketData

variable {lc emb F : Type}

/-- The fragment a voice frame carries. The library puts fragment `n` of the link control that was
set last into a payload, and writing the continuation bits leaves the fragment alone. -/
structure FragmentReader (V : VoiceCodec lc emb) (F : Type) where
  read : Payload → F
  fragment : lc → ℕ → F
  getData_setLC : ∀ e c payload n, 1 ≤ n → n ≤ 4 →
    read (V.getData (V.setLC e c) payload n).1 = fragment c n
  read_setLCSS : ∀ payload lcss, read (V.setLCSS payload lcss) = read payload

/-- A frame at the mapping: the slot that chooses the embedded link control, the frame and the
talkgroup it is mapped to. -/
structure Crossing where
  localSlotNo : ℕ
  frame : NetData
  talkgroup : Option ℕ

/-- The mapping. -/
def cross (V : VoiceCodec lc emb) (embeddedLC : Slots emb) (x : Crossing) : NetData × Slots emb :=
  match x.talkgroup with
  | none => (x.frame, embeddedLC)
  | some talkgroup => mapFrame V embeddedLC x.localSlotNo x.frame talkgroup

/-- A frame of the FNE on its way to BrandMeister. -/
def outboundCrossing (cfg : RoutingConfig) (data : NetData) : Crossing where
  localSlotNo := data.slotNo
  frame := { data with slotNo := cfg.timeslot }
  talkgroup := if isPrivate data then none else cfg.p25ToBmTalkgroups.get? data.dstId

/-- A frame of BrandMeister on its way to the FNE. -/
def inboundCrossing (env : Environment lc emb) (cfg : RoutingConfig) (s : State emb) (now : Time)
    (inbound : NetData) : Crossing where
  localSlotNo := inbound.slotNo
  frame := { inbound with dstId := localTalkgroup env cfg s now inbound }
  talkgroup := inboundMapping env cfg s now inbound

theorem mapOutbound_eq (env : Environment lc emb) (cfg : RoutingConfig) (s : State emb)
    (data : NetData) : mapOutbound env cfg s data =
      cross env.voice s.outboundMappedEmbeddedLC (outboundCrossing cfg data) := by
  unfold mapOutbound cross outboundCrossing
  by_cases hp : isPrivate data
  · simp only [if_pos hp]
  · cases cfg.p25ToBmTalkgroups.get? data.dstId <;> simp only [if_neg hp]

theorem mapInbound_eq (env : Environment lc emb) (cfg : RoutingConfig) (s : State emb) (now : Time)
    (inbound : NetData) : mapInbound env cfg s now inbound =
      cross env.voice s.inboundMappedEmbeddedLC (inboundCrossing env cfg s now inbound) := by
  unfold mapInbound cross inboundCrossing
  cases inboundMapping env cfg s now inbound <;> simp only

/-- A voice frame that carries a fragment, on one of the two slots, mapped to the talkgroup. -/
def Crossing.NeedsFragment (x : Crossing) (i : Fin 2) (talkgroup : ℕ) : Prop :=
  slotIndex x.localSlotNo = some i ∧ x.talkgroup = some talkgroup ∧ x.frame.flco = .GROUP ∧
    x.frame.dataType = .VOICE ∧ 1 ≤ x.frame.n ∧ x.frame.n ≤ 4

section Crossings

variable {V : VoiceCodec lc emb} (R : FragmentReader V F)

/-- The frame leaves with the fragment of the link control of its own source and its mapped
destination. -/
def OwnFragment (embeddedLC : Slots emb) (x : Crossing) : Prop :=
  ∀ i talkgroup, x.NeedsFragment i talkgroup →
    R.read (cross V embeddedLC x).1.data =
      R.fragment (V.create .GROUP x.frame.srcId talkgroup) x.frame.n

/-- The source and the destination a mapped header sets on slot `i`. -/
def Crossing.announces (i : Fin 2) (x : Crossing) : Option (ℕ × ℕ) :=
  if slotIndex x.localSlotNo = some i ∧ x.frame.flco = .GROUP ∧
      x.frame.dataType = .VOICE_LC_HEADER then
    x.talkgroup.map fun talkgroup => (x.frame.srcId, talkgroup)
  else none

/-- What the last mapped header of slot `i` set. -/
def announced (i : Fin 2) (before : List Crossing) : Option (ℕ × ℕ) :=
  (before.filterMap (Crossing.announces i)).getLast?

/-- The fragment that a slot gives a frame, from what its last mapped header set. Before the first
one it is that of a link control nobody has set. -/
def givenFragment (blank : emb) (last : Option (ℕ × ℕ)) (x : Crossing) : F :=
  match last with
  | none => R.read (V.getData blank x.frame.data x.frame.n).1
  | some (srcId, dstId) => R.fragment (V.create .GROUP srcId dstId) x.frame.n

/-- **The condition.** The last mapped header on the slot of the frame set a link control with the
fragment the frame needs. -/
def AnnouncedSame (blank : emb) (before : List Crossing) (x : Crossing) : Prop :=
  ∀ i talkgroup, x.NeedsFragment i talkgroup →
    givenFragment R blank (announced i before) x =
      R.fragment (V.create .GROUP x.frame.srcId talkgroup) x.frame.n

/-! ## One frame -/

/-- The link control of a slot is the one that was announced. -/
def HoldsLC (V : VoiceCodec lc emb) (blank : emb) (last : Option (ℕ × ℕ)) (e : emb) : Prop :=
  match last with
  | none => e = blank
  | some (srcId, dstId) => ∃ e', e = V.setLC e' (V.create .GROUP srcId dstId)

variable {R} {blank : emb} {embeddedLC : Slots emb} {x : Crossing}

theorem cross_voice {i : Fin 2} {talkgroup : ℕ} (hx : x.NeedsFragment i talkgroup) :
    R.read (cross V embeddedLC x).1.data =
      R.read (V.getData (embeddedLC i) x.frame.data x.frame.n).1 := by
  obtain ⟨hi, ht, hg, hv, h1, h4⟩ := hx
  have hc : isVoiceControl { x.frame with dstId := talkgroup } = false := by
    simp [isVoiceControl, hv]
  have hrw : rewriteEmbeddedVoiceLinkControl V { x.frame with dstId := talkgroup } x.frame.dstId
      talkgroup = { x.frame with dstId := talkgroup } := by
    rw [rewriteEmbeddedVoiceLinkControl, if_neg (by rw [hc]; exact Bool.false_ne_true)]
  simp only [cross, ht, mapFrame, hrw, hi]
  rw [rewriteGeneratedEmbeddedVoiceLinkControl]
  simp [hg, hv, h1, h4, R.read_setLCSS]

theorem given_of_holds {last : Option (ℕ × ℕ)} {e : emb} (h : HoldsLC V blank last e)
    (h1 : 1 ≤ x.frame.n) (h4 : x.frame.n ≤ 4) :
    R.read (V.getData e x.frame.data x.frame.n).1 = givenFragment R blank last x := by
  cases last with
  | none =>
    have he : e = blank := h
    rw [he, givenFragment]
  | some p =>
    obtain ⟨e', he⟩ := h
    rw [he]
    exact R.getData_setLC _ _ _ _ h1 h4

theorem cross_slot (embeddedLC : Slots emb) (x : Crossing) (i : Fin 2) :
    (cross V embeddedLC x).2 i = match x.announces i with
      | some (srcId, dstId) => V.setLC (embeddedLC i) (V.create .GROUP srcId dstId)
      | none => embeddedLC i := by
  unfold cross Crossing.announces
  cases ht : x.talkgroup with
  | none => simp
  | some talkgroup =>
    obtain ⟨payload, hrw⟩ := rewriteEmbeddedVoiceLinkControl_eq V
      { x.frame with dstId := talkgroup } x.frame.dstId talkgroup
    simp only [mapFrame, hrw]
    cases hs : slotIndex x.localSlotNo with
    | none => simp
    | some j =>
      dsimp only
      rw [rewriteGeneratedEmbeddedVoiceLinkControl]
      by_cases hij : i = j
      · subst hij
        by_cases hg : x.frame.flco = .GROUP
        · by_cases hh : x.frame.dataType = .VOICE_LC_HEADER
          · simp [hg, hh]
          · simp only [hg, hh, ne_eq, not_true_eq_false, if_false, and_false]
            split_ifs <;> simp
        · simp [hg]
      · have hji : ¬ j = i := fun h => hij h.symm
        simp [hij, hji]

/-- **One frame.** -/
theorem ownFragment_iff {before : List Crossing}
    (h : ∀ i, HoldsLC V blank (announced i before) (embeddedLC i)) :
    OwnFragment R embeddedLC x ↔ AnnouncedSame R blank before x := by
  unfold OwnFragment AnnouncedSame
  refine forall_congr' fun i => forall_congr' fun talkgroup => forall_congr' fun hx => ?_
  rw [cross_voice hx, given_of_holds (h i) hx.2.2.2.2.1 hx.2.2.2.2.2]

theorem announced_concat (i : Fin 2) (before : List Crossing) (x : Crossing) :
    announced i (before ++ [x]) = (x.announces i).or (announced i before) := by
  rw [announced, List.filterMap_append]
  cases hx : x.announces i with
  | none => simp [hx, announced]
  | some p => simp [hx]

theorem holds_cross {before : List Crossing}
    (h : ∀ i, HoldsLC V blank (announced i before) (embeddedLC i)) (i : Fin 2) :
    HoldsLC V blank (announced i (before ++ [x])) ((cross V embeddedLC x).2 i) := by
  rw [announced_concat, cross_slot]
  cases x.announces i with
  | none => exact h i
  | some p => exact ⟨embeddedLC i, rfl⟩

/-! ## Sequences of frames -/

/-- The mapping as a machine. -/
def crossStep (V : VoiceCodec lc emb) (embeddedLC : Slots emb) (x : Crossing) :
    Slots emb × List NetData :=
  ((cross V embeddedLC x).2, [(cross V embeddedLC x).1])

theorem holds_run (blank : emb) (xs : List Crossing) (i : Fin 2) :
    HoldsLC V blank (announced i xs) (Run.final (crossStep V) (fun _ => blank) xs i) := by
  induction xs using List.reverseRecOn generalizing i with
  | nil => rfl
  | append_singleton xs x ih =>
    rw [Run.final_concat]
    exact holds_cross ih i

/-- **A sequence of frames.** -/
theorem along_cross_iff (R : FragmentReader V F) (blank : emb) (xs : List Crossing) :
    Run.Along (crossStep V) (OwnFragment R) (fun _ => blank) xs ↔
      ∀ before x after, xs = before ++ x :: after → AnnouncedSame R blank before x := by
  refine forall_congr' fun before => forall_congr' fun x => forall_congr' fun after =>
    forall_congr' fun _ => ?_
  exact ownFragment_iff (holds_run blank before)

end Crossings

/-! ## Both directions -/

section Directions

variable (env : Environment lc emb) (cfg : RoutingConfig) (R : FragmentReader env.voice F)

/-- Writing to BrandMeister as a machine. -/
def sendStep (s : State emb) (e : Link × NetData) : State emb × List Effect :=
  sendToBM env cfg e.1 s e.2

/-- The mapping of a frame of BrandMeister, whatever else the loop remembers. -/
def receiveStep (embeddedLC : Slots emb) (e : State emb × Time × NetData) :
    Slots emb × List NetData :=
  let mapped := mapInbound env cfg { e.1 with inboundMappedEmbeddedLC := embeddedLC } e.2.1 e.2.2
  (mapped.2, [mapped.1])

/-- A frame is written to BrandMeister with its own fragment. -/
def SentOwn (s : State emb) (e : Link × NetData) : Prop :=
  ∀ mapped, (sendToBM env cfg e.1 s e.2).2 = [.forwarded mapped] → ∀ i talkgroup,
    (outboundCrossing cfg e.2).NeedsFragment i talkgroup →
      R.read mapped.data =
        R.fragment (env.voice.create .GROUP e.2.srcId talkgroup) e.2.n

/-- A frame of BrandMeister is mapped with its own fragment. -/
def ReceivedOwn (embeddedLC : Slots emb) (e : State emb × Time × NetData) : Prop :=
  ∀ mapped, (receiveStep env cfg embeddedLC e).2 = [mapped] → ∀ i talkgroup,
    (inboundCrossing env cfg e.1 e.2.1 e.2.2).NeedsFragment i talkgroup →
      R.read mapped.data =
        R.fragment (env.voice.create .GROUP e.2.2.srcId talkgroup) e.2.2.n

/-- The crossing of a frame that is written. -/
def sentCrossing (e : Link × NetData) : Option Crossing :=
  if e.1.connected then some (outboundCrossing cfg e.2) else none

theorem sent_iff (s : State emb) (es : List (Link × NetData)) :
    Run.Along (sendStep env cfg) (SentOwn env cfg R) s es ↔
      Run.Along (crossStep env.voice) (OwnFragment R) s.outboundMappedEmbeddedLC
        (es.filterMap (sentCrossing cfg)) := by
  refine Run.along_filterMap_iff State.outboundMappedEmbeddedLC (sentCrossing cfg) ?_ ?_ es s
  · intro s e he
    have hc : ¬ e.1.connected = true := by
      intro h
      rw [sentCrossing, if_pos h] at he
      exact Option.some_ne_none _ he
    rw [sendStep, SentOwn, sendToBM, if_neg hc]
    exact ⟨rfl, fun mapped h => absurd h (List.cons_ne_nil _ _).symm⟩
  · intro s e x he
    have hc : e.1.connected = true := by
      by_contra h
      rw [sentCrossing, if_neg h] at he
      exact Option.some_ne_none _ he.symm
    rw [sentCrossing, if_pos hc, Option.some.injEq] at he
    have hm := mapOutbound_eq env cfg s e.2
    rw [he] at hm
    rw [sendStep, SentOwn, sendToBM, if_pos hc]
    simp only [hm, crossStep, he, List.cons.injEq, Effect.forwarded.injEq, and_true,
      forall_eq', true_and]
    rw [← he]
    exact Iff.rfl

theorem received_iff (embeddedLC : Slots emb) (es : List (State emb × Time × NetData)) :
    Run.Along (receiveStep env cfg) (ReceivedOwn env cfg R) embeddedLC es ↔
      Run.Along (crossStep env.voice) (OwnFragment R) embeddedLC
        (es.filterMap fun e => some (inboundCrossing env cfg e.1 e.2.1 e.2.2)) := by
  refine Run.along_filterMap_iff id _ (fun s e he => absurd he (Option.some_ne_none _)) ?_ es
    embeddedLC
  intro E e x he
  rw [Option.some.injEq] at he
  have hm : mapInbound env cfg { e.1 with inboundMappedEmbeddedLC := E } e.2.1 e.2.2 =
      cross env.voice E x := by
    rw [mapInbound_eq, ← he]
    rfl
  rw [ReceivedOwn, receiveStep]
  simp only [hm, crossStep, List.cons.injEq, and_true, forall_eq', id, true_and]
  rw [← he]
  exact Iff.rfl

/-- **Embedded link control follows the mapping** in both directions exactly when, for every voice
frame that needs a fragment, the last mapped header before it on its slot set a link control with
this fragment. -/
theorem ownFragments_iff (blank : emb) (restored : Dict ℕ Time) (sent : List (Link × NetData))
    (received : List (State emb × Time × NetData)) :
    (Run.Along (sendStep env cfg) (SentOwn env cfg R) (State.init blank restored) sent ↔
      ∀ before x after, sent.filterMap (sentCrossing cfg) = before ++ x :: after →
        AnnouncedSame R blank before x) ∧
    (Run.Along (receiveStep env cfg) (ReceivedOwn env cfg R) (fun _ => blank) received ↔
      ∀ before x after, (received.filterMap fun e =>
          some (inboundCrossing env cfg e.1 e.2.1 e.2.2)) = before ++ x :: after →
        AnnouncedSame R blank before x) := by
  constructor
  · rw [sent_iff]
    exact along_cross_iff R blank _
  · rw [received_iff]
    exact along_cross_iff R blank _

end Directions

/-! ## Late entry -/

/-- The byte of a link control that a fragment carries. -/
def lcByte (c : ℕ × ℕ) (n : ℕ) : UInt8 :=
  UInt8.ofNat ([c.2 / 65536, c.2 / 256, c.2, c.1].getD (n - 1) 0)

/-- A library whose fragments are one byte, at the start of the payload. -/
def byteVoice : VoiceCodec (ℕ × ℕ) (Option (ℕ × ℕ)) where
  decode _ _ := none
  encode _ payload _ := payload
  isGroup _ := true
  getDstId c := c.2
  setDstId c dstId := (c.1, dstId)
  create _ srcId dstId := (srcId, dstId)
  setLC _ c := some c
  getData e payload n := (payload.set 0 (e.elim 0 fun c => lcByte c n), 0)
  setLCSS payload _ := payload

/-- A reader of voice frames whose first byte is their fragment. -/
def byteReader : FragmentReader byteVoice UInt8 where
  read payload := payload.get 0
  fragment := lcByte
  getData_setLC _ _ payload _ _ _ := List.Vector.get_set_same payload 0 _
  read_setLCSS _ _ := rfl

/-- The environment with this voice. -/
def byteEnvironment : Environment (ℕ × ℕ) (Option (ℕ × ℕ)) where
  packetData := plainCodec
  voice := byteVoice
  order := id

/-- The talkgroup 101 of the local side is 262000 on BrandMeister. -/
def mappedConfig : RoutingConfig :=
  { sampleConfig with
    talkgroupMappings := [(101, 262000)]
    mappings_valid := fun _ h => List.mem_singleton.mp h ▸ ⟨Nat.succ_ne_zero _, Nat.succ_ne_zero _⟩ }

/-- **Late entry.** A voice frame whose header was missed leaves with the fragment of nobody. -/
theorem not_ownFragments_lateEntry :
    ¬ Run.Along (sendStep byteEnvironment mappedConfig)
      (SentOwn byteEnvironment mappedConfig byteReader) (State.init none Dict.empty)
      [(⟨true, 0⟩, { sampleFrame .VOICE 101 7 with n := 3 })] := by
  intro h
  have hown := ((Run.along_cons_iff _ _).mp h).1 _ rfl 1 262000
    ⟨by decide, by decide, by decide, by decide, by decide, by decide⟩
  revert hown
  decide +kernel

end Routing
