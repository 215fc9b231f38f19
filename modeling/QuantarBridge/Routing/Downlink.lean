import QuantarBridge.Routing.Uplink

/-!
# From BrandMeister to the FNE

A frame of BrandMeister gets its local talkgroup, meets the terminator that waits on its slot, and
passes a fixed order of checks. What passes is written to the FNE on slot 2, a terminator only after
the merge window.

* `localTalkgroup`, `mapInbound`: the talkgroup of the frame;
* `flushPendingInboundTerminators`, `mergePending`: the waiting terminators;
* `Duplicate`, `RepeatedHeader`, `PrivateDropped`, `Permitted`, `Echo`, `RfHasPriority`, `screenFrame`:
  the checks in their order;
* `Admitted`, `screenFrame_passes`: the checks as one condition on the state before the frame;
* `deliver`, `downlink`.
-/

set_option autoImplicit false

namespace Routing

open Dmr Lib PacketData

variable {lc emb : Type}

/-! ## The talkgroup -/

/-- The dynamic talkgroup that was used last. -/
def selectActiveDynamicTalkgroup (entries : List (ℕ × DynamicTalkgroupState)) (now timeout : Time) :
    ℕ :=
  (entries.foldl (fun selected entry =>
    if entry.2.expiredPendingBmRelease ∨ timeout < now - entry.2.lastSeenSteady then selected
    else if selected.all (fun newest => newest.2 ≤ entry.2.lastSeenSteady) then
      some (entry.1, entry.2.lastSeenSteady)
    else selected) (none : Option (ℕ × Time))).elim 0 Prod.fst

variable (env : Environment lc emb) (cfg : RoutingConfig)

/-- Behind a gateway, talkgroup 9 on slot 2 stands for the talkgroup in use. -/
def localTalkgroup (s : State emb) (now : Time) (inbound : NetData) : ℕ :=
  if cfg.gatewayManagedRouting ∧ ¬ isPrivate inbound ∧ inbound.slotNo = 2 ∧ inbound.dstId = 9 then
    let dynamicTalkgroup := selectActiveDynamicTalkgroup (env.order s.dynamicTalkgroups.entries) now
      cfg.dynamicTimeout
    let effectiveTalkgroup :=
      if dynamicTalkgroup ≠ 0 then dynamicTalkgroup else cfg.primaryStaticTalkgroup
    if effectiveTalkgroup ≠ 0 then effectiveTalkgroup else inbound.dstId
  else inbound.dstId

/-- The P25 talkgroup a frame is mapped to. -/
def inboundMapping (s : State emb) (now : Time) (inbound : NetData) : Option ℕ :=
  if isPrivate inbound then none
  else cfg.bmToP25Talkgroups.get? (localTalkgroup env cfg s now inbound)

/-- The frame as the local side knows it. -/
def mapInbound (s : State emb) (now : Time) (inbound : NetData) : NetData × Slots emb :=
  let renamed := { inbound with dstId := localTalkgroup env cfg s now inbound }
  match inboundMapping env cfg s now inbound with
  | none => (renamed, s.inboundMappedEmbeddedLC)
  | some talkgroup => mapFrame env.voice s.inboundMappedEmbeddedLC inbound.slotNo renamed talkgroup

/-! ## Waiting terminators -/

/-- The merge window of a terminator is over. -/
def Due (now : Time) (force : Bool) (pending : PendingTerminator) : Prop :=
  force ∨ pending.expiresAt ≤ now

instance (now : Time) (force : Bool) : DecidablePred (Due now force) :=
  fun _ => inferInstanceAs (Decidable (_ ∨ _))

/-- The terminators that still wait. -/
def stillWaiting (pending : Slots (Option PendingTerminator)) (now : Time) (force : Bool) :
    Slots (Option PendingTerminator) :=
  fun slot => (pending slot).filter fun p => ¬ Due now force p

/-- The due terminator of a slot is written. -/
def flushSlot (pending : Slots (Option PendingTerminator)) (now : Time) (force : Bool)
    (slot : Fin 2) : List Effect :=
  (((pending slot).filter fun p => Due now force p).map (Effect.flushed slot)).toList

/-- Write the due terminators. -/
def flushPendingInboundTerminators (s : State emb) (now : Time) (force : Bool) :
    State emb × List Effect :=
  ({ s with pendingInboundTerminators := stillWaiting s.pendingInboundTerminators now force },
    [0, 1].flatMap (flushSlot s.pendingInboundTerminators now force))

/-- The frame continues the call of the terminator within the merge window. -/
def SameCall (pending : PendingTerminator) (inbound : NetData) (now : Time) : Prop :=
  pending.srcId = inbound.srcId ∧ pending.dstId = inbound.dstId ∧ pending.flco = inbound.flco ∧
    now < pending.expiresAt

instance (pending : PendingTerminator) (inbound : NetData) (now : Time) :
    Decidable (SameCall pending inbound now) :=
  inferInstanceAs (Decidable (_ ∧ _))

/-- The terminator that waits on the slot of a frame. -/
def waiting (s : State emb) (inbound : NetData) : Option (Fin 2 × PendingTerminator) :=
  (slotIndex inbound.slotNo).bind fun slot =>
    (s.pendingInboundTerminators slot).map fun pending => (slot, pending)

/-- The waiting terminator is dropped when the frame continues its call. Any other frame flushes all
waiting terminators. -/
def mergePending (s : State emb) (now : Time) (inbound : NetData) :
    Slots (Option PendingTerminator) × List Effect :=
  match waiting s inbound with
  | none => (s.pendingInboundTerminators, [])
  | some (slot, pending) =>
    if SameCall pending inbound now then
      (Function.update s.pendingInboundTerminators slot none, [.merged slot pending])
    else
      let (flushed, effects) := flushPendingInboundTerminators s now true
      (flushed.pendingInboundTerminators, effects)

/-- The state after the merge. -/
def mergeTerminator (s : State emb) (now : Time) (inbound : NetData) : State emb :=
  { s with pendingInboundTerminators := (mergePending s now inbound).1 }

/-- A header that continues a call is not passed on. -/
def HeaderMerged (s : State emb) (now : Time) (inbound : NetData) : Prop :=
  inbound.dataType = .VOICE_LC_HEADER ∧
    (waiting s inbound).any (fun w => SameCall w.2 inbound now) = true

instance (s : State emb) (now : Time) (inbound : NetData) :
    Decidable (HeaderMerged s now inbound) :=
  inferInstanceAs (Decidable (_ ∧ _))

/-! ## The checks -/

/-- The frame was just received. -/
def Duplicate (s : State emb) (now : Time) (inbound : NetData) : Prop :=
  s.recentInboundBmFrames.Live now (dmrFrameSignature inbound)

instance (s : State emb) (now : Time) (inbound : NetData) : Decidable (Duplicate s now inbound) :=
  inferInstanceAs (Decidable (ExpiryMap.Live _ _ _))

/-- A frame of private packet data. -/
def isPrivatePacketData (inbound : NetData) : Bool := isPrivate inbound ∧ isDmrPacketDataFrame inbound

/-- The reassembler takes the frame. -/
def Consumed (s : State emb) (now : Time) (inbound : NetData) : Prop :=
  isPrivatePacketData inbound ∧
    (s.bmPacketData.push env.packetData inbound now).2.consumed = true

instance (s : State emb) (now : Time) (inbound : NetData) : Decidable (Consumed env s now inbound) :=
  inferInstanceAs (Decidable (_ ∧ _))

/-- The header the slot passed last. -/
def lastHeader (s : State emb) (inbound : NetData) : Option RecentHeader :=
  (slotIndex inbound.slotNo).bind s.recentBmHeaders

/-- A header of the call whose header was passed lately. -/
def RepeatedHeader (s : State emb) (now : Time) (inbound : NetData) : Prop :=
  inbound.dataType = .VOICE_LC_HEADER ∧
    (lastHeader s inbound).any (fun recent => now < recent.expiresAt ∧
      recent.srcId = inbound.srcId ∧ recent.dstId = inbound.dstId ∧
      recent.slotNo = inbound.slotNo ∧ recent.flco = inbound.flco) = true

instance (s : State emb) (now : Time) (inbound : NetData) :
    Decidable (RepeatedHeader s now inbound) :=
  inferInstanceAs (Decidable (_ ∧ _))

/-- A dynamic talkgroup passes frames until its timeout, and once expired as long as BrandMeister
was heard on it lately. -/
def DynamicTalkgroupState.Open (entry : DynamicTalkgroupState) (now timeout : Time) : Prop :=
  (¬ entry.expiredPendingBmRelease ∧ now - entry.lastSeenSteady ≤ timeout) ∨
  (entry.expiredPendingBmRelease ∧
    entry.lastBmSeenSteady.all (fun last => now - last ≤ kBmDynamicReleaseGrace) = true)

instance (entry : DynamicTalkgroupState) (now timeout : Time) : Decidable (entry.Open now timeout) :=
  inferInstanceAs (Decidable (_ ∨ _))

/-- There is a route for the frame. -/
def Permitted (s : State emb) (now : Time) (inbound : NetData) (mapped : Bool) : Prop :=
  isPrivate inbound ∨ mapped ∨ inbound.dstId ∈ cfg.staticTalkgroups ∨
    (s.dynamicTalkgroups.get? inbound.dstId).any (fun entry => entry.Open now cfg.dynamicTimeout) =
      true

instance (s : State emb) (now : Time) (inbound : NetData) (mapped : Bool) :
    Decidable (Permitted cfg s now inbound mapped) :=
  inferInstanceAs (Decidable (_ ∨ _))

/-- A frame that was written to BrandMeister. -/
def Echo (s : State emb) (now : Time) (inbound : NetData) : Prop :=
  ¬ isPrivate inbound ∧ s.recentOutboundBmFrames.Live now (dmrFrameSignature inbound)

instance (s : State emb) (now : Time) (inbound : NetData) : Decidable (Echo s now inbound) :=
  inferInstanceAs (Decidable (_ ∧ _))

/-- A radio user holds the talkgroup. -/
def RfHasPriority (s : State emb) (now : Time) (inbound : NetData) : Prop :=
  ¬ isPrivate inbound ∧ s.rfPriorityTalkgroups.Live now inbound.dstId

instance (s : State emb) (now : Time) (inbound : NetData) :
    Decidable (RfHasPriority s now inbound) :=
  inferInstanceAs (Decidable (_ ∧ _))

/-- Remember the signature of a frame. -/
def markInbound (s : State emb) (now : Time) (inbound : NetData) : State emb :=
  { s with
    recentInboundBmFrames :=
      s.recentInboundBmFrames.mark (dmrFrameSignature inbound) (now + kBmDuplicateSuppressWindow) }

/-- Hand private packet data to the reassembler. -/
def pushPacketData (s : State emb) (now : Time) (inbound : NetData) : State emb :=
  { s with
    bmPacketData :=
      if isPrivatePacketData inbound then (s.bmPacketData.push env.packetData inbound now).1
      else s.bmPacketData }

/-- The packet a frame of private packet data completes. -/
def packetEffects (s : State emb) (now : Time) (inbound : NetData) : List Effect :=
  if isPrivatePacketData inbound then
    (s.bmPacketData.push env.packetData inbound now).2.packet.toList.map .received
  else []

/-- The header a slot remembers after a frame. -/
def headerAfter (now : Time) (inbound : NetData) (header : Option RecentHeader) :
    Option RecentHeader :=
  if inbound.dataType = .VOICE_LC_HEADER then
    some
      { srcId := inbound.srcId
        dstId := inbound.dstId
        slotNo := inbound.slotNo
        flco := inbound.flco
        expiresAt := now + kBmHeaderSuppressWindow }
  else if inbound.dataType = .TERMINATOR_WITH_LC then none
  else header

/-- Remember a header, and forget it at a terminator. -/
def noteHeader (s : State emb) (now : Time) (inbound : NetData) : State emb :=
  { s with
    recentBmHeaders := fun slot =>
      if slotIndex inbound.slotNo = some slot then headerAfter now inbound (s.recentBmHeaders slot)
      else s.recentBmHeaders slot }

/-- BrandMeister was heard on the talkgroup. -/
def noteBmActivity (s : State emb) (now : Time) (inbound : NetData) : State emb :=
  { s with
    dynamicTalkgroups :=
      if isPrivate inbound then s.dynamicTalkgroups
      else s.dynamicTalkgroups.modify inbound.dstId fun entry =>
        { entry with lastBmSeenSteady := some now } }

/-- What the checks leave: the state, what happened and whether the frame passes. -/
structure Verdict (emb : Type) where
  state : State emb
  effects : List Effect
  passes : Bool

/-- The checks, in their order. -/
def screenFrame (s : State emb) (now : Time) (inbound : NetData) (mapped : Bool) : Verdict emb :=
  if Duplicate s now inbound then ⟨s, [], false⟩
  else
    let s := markInbound s now inbound
    let effects := packetEffects env s now inbound
    let pushed := pushPacketData env s now inbound
    if Consumed env s now inbound then ⟨pushed, effects, false⟩
    else if RepeatedHeader pushed now inbound then ⟨pushed, effects, false⟩
    else
      let s := noteHeader pushed now inbound
      if PrivateDropped cfg inbound then ⟨s, effects, false⟩
      else if ¬ Permitted cfg s now inbound mapped then ⟨s, effects, false⟩
      else
        let s := noteBmActivity s now inbound
        if Echo s now inbound then ⟨s, effects, false⟩
        else if RfHasPriority s now inbound then ⟨s, effects, false⟩
        else ⟨s, effects, true⟩

/-! ## The frame -/

/-- The terminator a frame leaves waiting, and where. -/
def delays (now : Time) (inbound : NetData) : Option (Fin 2 × PendingTerminator) :=
  if inbound.dataType = .TERMINATOR_WITH_LC then
    (slotIndex inbound.slotNo).map fun slot =>
      (slot,
        { data := { inbound with slotNo := 2 }
          srcId := inbound.srcId
          dstId := inbound.dstId
          flco := inbound.flco
          expiresAt := now + kCallMergeWindow })
  else none

/-- Write a frame to the FNE on slot 2. A terminator waits for the merge window. -/
def deliver (s : State emb) (now : Time) (inbound : NetData) : State emb × List Effect :=
  match delays now inbound with
  | none => (s, [.written { inbound with slotNo := 2 }])
  | some (slot, pending) =>
    ({ s with
        pendingInboundTerminators :=
          Function.update s.pendingInboundTerminators slot (some pending) },
      [.delayed slot pending])

/-- A frame of BrandMeister. -/
def downlink (s : State emb) (now : Time) (inbound : NetData) : State emb × List Effect :=
  if VoiceDisabled cfg inbound then (s, [])
  else
    let mapped := (inboundMapping env cfg s now inbound).isSome
    let (inbound, embeddedLC) := mapInbound env cfg s now inbound
    let s := { s with inboundMappedEmbeddedLC := embeddedLC }
    let effects := (mergePending s now inbound).2
    let merged := mergeTerminator s now inbound
    if HeaderMerged s now inbound then (merged, effects)
    else
      let verdict := screenFrame env cfg merged now inbound mapped
      if verdict.passes then
        let (delivered, output) := deliver verdict.state now inbound
        (delivered, effects ++ verdict.effects ++ output)
      else (verdict.state, effects ++ verdict.effects)

/-! ## What passes the checks -/

/-- The checks as one condition on the state before the frame. -/
def Admitted (s : State emb) (now : Time) (inbound : NetData) (mapped : Bool) : Prop :=
  ¬ Duplicate s now inbound ∧ ¬ Consumed env s now inbound ∧ ¬ RepeatedHeader s now inbound ∧
    ¬ PrivateDropped cfg inbound ∧ Permitted cfg s now inbound mapped ∧ ¬ Echo s now inbound ∧
    ¬ RfHasPriority s now inbound

instance (s : State emb) (now : Time) (inbound : NetData) (mapped : Bool) :
    Decidable (Admitted env cfg s now inbound mapped) :=
  inferInstanceAs (Decidable (_ ∧ _))

/-- The state after the checks that a frame with a route has passed. -/
def screened (s : State emb) (now : Time) (inbound : NetData) : State emb :=
  noteHeader (pushPacketData env (markInbound s now inbound) now inbound) now inbound

/-- The checks, each on the state before the frame: none looks at what an earlier one changed. -/
theorem screenFrame_eq (s : State emb) (now : Time) (inbound : NetData) (mapped : Bool) :
    screenFrame env cfg s now inbound mapped =
      if Duplicate s now inbound then ⟨s, [], false⟩
      else
        let effects := packetEffects env s now inbound
        let pushed := pushPacketData env (markInbound s now inbound) now inbound
        if Consumed env s now inbound then ⟨pushed, effects, false⟩
        else if RepeatedHeader s now inbound then ⟨pushed, effects, false⟩
        else if PrivateDropped cfg inbound ∨ ¬ Permitted cfg s now inbound mapped then
          ⟨screened env s now inbound, effects, false⟩
        else
          ⟨noteBmActivity (screened env s now inbound) now inbound, effects,
            ¬ Echo s now inbound ∧ ¬ RfHasPriority s now inbound⟩ := by
  unfold screenFrame
  refine if_congr Iff.rfl rfl ?_
  refine if_congr Iff.rfl rfl ?_
  refine if_congr Iff.rfl rfl ?_
  by_cases hp : PrivateDropped cfg inbound
  · rw [if_pos hp, if_pos (Or.inl hp)]
    rfl
  · rw [if_neg hp]
    by_cases hr : Permitted cfg s now inbound mapped
    · have hn : ¬ (PrivateDropped cfg inbound ∨ ¬ Permitted cfg s now inbound mapped) :=
        fun h => h.elim hp fun h' => h' hr
      rw [if_neg hn]
      refine (if_neg (not_not.mpr hr)).trans ?_
      by_cases he : Echo s now inbound
      · refine (if_pos he).trans ?_
        simp only [he, not_true_eq_false, false_and, decide_false]
        rfl
      · refine (if_neg he).trans ?_
        by_cases hf : RfHasPriority s now inbound
        · refine (if_pos hf).trans ?_
          simp only [hf, not_true_eq_false, and_false, decide_false]
          rfl
        · refine (if_neg hf).trans ?_
          simp only [he, hf, not_false_eq_true, and_self, decide_true]
          rfl
    · rw [if_pos (Or.inr hr)]
      exact if_pos hr

/-- **What passes.** -/
theorem screenFrame_passes (s : State emb) (now : Time) (inbound : NetData) (mapped : Bool) :
    (screenFrame env cfg s now inbound mapped).passes = true ↔ Admitted env cfg s now inbound mapped := by
  rw [screenFrame_eq, Admitted]
  by_cases hd : Duplicate s now inbound
  · simp [hd]
  by_cases hc : Consumed env s now inbound
  · simp [hd, hc]
  by_cases hh : RepeatedHeader s now inbound
  · simp [hd, hc, hh]
  by_cases hp : PrivateDropped cfg inbound
  · simp [hd, hc, hh, hp]
  by_cases hr : Permitted cfg s now inbound mapped
  · simp [hd, hc, hh, hp, hr]
  · simp [hd, hc, hh, hr]

variable {env cfg} {s : State emb} {now : Time} {inbound : NetData} {mapped : Bool}

theorem screenFrame_state (P : State emb → Prop) (h : P s) (hm : ∀ s, P s → P (markInbound s now inbound))
    (hp : ∀ s, P s → P (pushPacketData env s now inbound))
    (hh : ∀ s, P s → P (noteHeader s now inbound))
    (hb : Permitted cfg s now inbound mapped → P (screened env s now inbound) →
      P (noteBmActivity (screened env s now inbound) now inbound)) :
    P (screenFrame env cfg s now inbound mapped).state := by
  have hs : P (screened env s now inbound) := hh _ (hp _ (hm _ h))
  rw [screenFrame_eq]
  split_ifs with h1 h2 h3 h4
  · exact h
  · exact hp _ (hm _ h)
  · exact hp _ (hm _ h)
  · exact hs
  · exact hb (not_not.mp fun hn => h4 (Or.inr hn)) hs

theorem screenFrame_effects {e : Effect} (he : e ∈ (screenFrame env cfg s now inbound mapped).effects) :
    ∃ packet, e = .received packet := by
  have h : ∀ e ∈ packetEffects env s now inbound, ∃ packet, e = .received packet := by
    intro e he
    unfold packetEffects at he
    split_ifs at he
    · obtain ⟨packet, -, rfl⟩ := List.mem_map.mp he
      exact ⟨packet, rfl⟩
    · exact absurd he List.not_mem_nil
  rw [screenFrame_eq] at he
  split_ifs at he
  · exact absurd he List.not_mem_nil
  all_goals exact h e he

end Routing
