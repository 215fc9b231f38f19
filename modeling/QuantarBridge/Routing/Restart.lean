import QuantarBridge.Routing.Loop
import QuantarBridge.Routing.Persistence

/-!
# Restarts

A bridge that is managed by a gateway writes its dynamic talkgroups to a file every five seconds when
something has changed, and when it stops. It reads the file when it starts again.

* `Gateway`, `gatewayStep`: the loop with the file, `startGateway`: the start;
* `Saved`: what the file holds, `GatewayInv`: the invariant;
* `restart_keeps`: **a restart keeps the talkgroups that are open**, and opens no other.
-/

set_option autoImplicit false

namespace Routing

open Dmr Lib PacketData

/-- The time between two writes of the state file. -/
def kDynamicStateFlushInterval : Time := seconds 5

/-- The loop with the file of its dynamic talkgroups. -/
structure Gateway (emb : Type) where
  loop : State emb
  dynamicTalkgroupsWall : Dict ℕ ℤ
  dynamicStateDirty : Bool
  lastDynamicStateFlush : Time
  stateFile : Option Bytes

/-- What the bridge takes. The wall clock is read where it matters. -/
inductive GatewayEvent
  | tick (now : Time)
  | fne (now : Time) (wallNow : ℤ) (link : Link) (data : NetData)
  | bm (now : Time) (inbound : NetData)
  /-- The bridge stops, and it starts again later. -/
  | restart (stopped : Time) (now : Clocks)

section Machine

variable {lc emb : Type} (env : Environment lc emb) (cfg : RoutingConfig)
  (order : List (ℕ × ℤ) → List (ℕ × ℤ)) (currentBootId : Bytes) (embeddedLC : emb)

/-- The start, with the talkgroups of the file. -/
def startGateway (now : Clocks) (stateFile : Option Bytes) : Gateway emb :=
  if cfg.gatewayManagedRouting = true then
    let restored := loadDynamicTalkgroupState now cfg.dynamicTimeout currentBootId stateFile
    { -- a reading before the zero of the steady clock counts as zero
      loop := State.init embeddedLC (restored.filterMap fun _ r => some r.lastSeenSteady.toNat)
      dynamicTalkgroupsWall := restored.filterMap fun _ r => some r.lastSeenWall
      dynamicStateDirty := false
      lastDynamicStateFlush := now.steady.toNat
      stateFile := stateFile }
  else
    { loop := State.init embeddedLC Dict.empty
      dynamicTalkgroupsWall := Dict.empty
      dynamicStateDirty := false
      lastDynamicStateFlush := now.steady.toNat
      stateFile := if cfg.voiceEnabled = true then none else stateFile }

/-- The file is written. -/
def Gateway.flush (g : Gateway emb) : Gateway emb :=
  { g with
    dynamicStateDirty := false
    stateFile := some
      (saveDynamicTalkgroupState (order g.dynamicTalkgroupsWall.entries) currentBootId) }

/-- The entry expires now. -/
def expiresNow (now : Time) (entry : DynamicTalkgroupState) : Bool :=
  cfg.dynamicTimeout < now - entry.lastSeenSteady ∧ entry.expiredPendingBmRelease = false

/-- Whether the map has changed since it was saved, once the talkgroups have expired. -/
def dirtyAfter (g : Gateway emb) (now : Time) : Bool :=
  g.dynamicStateDirty ||
    g.loop.dynamicTalkgroups.any fun _ entry => expireDynamic cfg now entry ≠ some entry

/-- The start of an iteration. -/
def gatewayTick (g : Gateway emb) (now : Time) : Gateway emb :=
  let after := { g with
    loop := (tick env cfg g.loop now).1
    dynamicTalkgroupsWall := g.dynamicTalkgroupsWall.filter fun talkgroup _ =>
      ¬ (g.loop.dynamicTalkgroups.get? talkgroup).any (expiresNow cfg now)
    dynamicStateDirty := dirtyAfter cfg g now }
  if cfg.gatewayManagedRouting = true ∧ dirtyAfter cfg g now = true ∧
      g.lastDynamicStateFlush + kDynamicStateFlushInterval ≤ now then
    { after.flush order currentBootId with lastDynamicStateFlush := now }
  else after

/-- The frame goes past the checks of the uplink. -/
def PassesChecks (s : State emb) (now : Time) (data : NetData) : Prop :=
  ¬ UplinkBlocked cfg data ∧ ¬ UplinkDuplicate s now data ∧
    ¬ Reflected (markFneFrame s now data) now data ∧ isPrivate data = false

instance (s : State emb) (now : Time) (data : NetData) : Decidable (PassesChecks cfg s now data) :=
  inferInstanceAs (Decidable (_ ∧ _))

/-- The disconnect command is carried out. -/
def Disconnects (s : State emb) (now : Time) (data : NetData) : Prop :=
  data.dstId = cfg.disconnectTalkgroup ∧ data.dataType = .VOICE_LC_HEADER ∧
    ¬ s.lastDisconnectCommand.any fun last => now - last < kDisconnectCommandCooldown

instance (s : State emb) (now : Time) (data : NetData) : Decidable (Disconnects cfg s now data) :=
  inferInstanceAs (Decidable (_ ∧ _))

/-- A frame opens a dynamic talkgroup or keeps it open. -/
def Opens (s : State emb) (now : Time) (data : NetData) : Prop :=
  PassesChecks cfg s now data ∧ data.dstId ≠ cfg.disconnectTalkgroup ∧
    bmRouteDstId cfg data.dstId ∉ cfg.staticTalkgroups

instance (s : State emb) (now : Time) (data : NetData) : Decidable (Opens cfg s now data) :=
  inferInstanceAs (Decidable (_ ∧ _))

/-- A frame of the FNE. -/
def gatewayFne (g : Gateway emb) (now : Time) (wallNow : ℤ) (link : Link) (data : NetData) :
    Gateway emb :=
  let loop := (uplink env cfg link g.loop now data).1
  if PassesChecks cfg g.loop now data ∧ Disconnects cfg g.loop now data then
    { g with loop := loop, dynamicTalkgroupsWall := Dict.empty, dynamicStateDirty := true }
  else if Opens cfg g.loop now data then
    { g with
      loop := loop
      dynamicTalkgroupsWall :=
        g.dynamicTalkgroupsWall.set (bmRouteDstId cfg data.dstId) wallNow
      dynamicStateDirty := true }
  else { g with loop := loop }

/-- The bridge stops. -/
def stopGateway (g : Gateway emb) (now : Time) : Gateway emb :=
  let after := { g with loop := (flushPendingInboundTerminators g.loop now true).1 }
  if cfg.gatewayManagedRouting = true ∧ g.dynamicStateDirty = true then
    after.flush order currentBootId
  else after

/-- One event of the gateway with its state file. -/
def gatewayStep (g : Gateway emb) : GatewayEvent → Gateway emb × List Effect
  | .tick now => (gatewayTick env cfg order currentBootId g now, (tick env cfg g.loop now).2)
  | .fne now wallNow link data =>
    (gatewayFne env cfg g now wallNow link data, (uplink env cfg link g.loop now data).2)
  | .bm now inbound =>
    ({ g with loop := (downlink env cfg g.loop now inbound).1 },
      (downlink env cfg g.loop now inbound).2)
  | .restart stopped now =>
    (startGateway cfg currentBootId embeddedLC now
      (stopGateway cfg order currentBootId g stopped).stateFile,
      (flushPendingInboundTerminators g.loop stopped true).2)

end Machine

/-! ## The entries of the loop -/

section Entries

variable {lc emb : Type} {env : Environment lc emb} {cfg : RoutingConfig}

/-- The talkgroup has an entry that has not expired. -/
def Unexpired (talkgroup : ℕ) (s : State emb) : Prop :=
  ∃ entry, s.dynamicTalkgroups.get? talkgroup = some entry ∧ entry.expiredPendingBmRelease = false

theorem dynamic_sendToBM {s : State emb} {link : Link} {data : NetData} :
    (sendToBM env cfg link s data).1.dynamicTalkgroups = s.dynamicTalkgroups := by
  unfold sendToBM
  split_ifs <;> rfl

variable (env cfg) in
/-- **What a frame of the FNE does to the entries.** -/
theorem dynamic_uplink (link : Link) (s : State emb) (now : Time) (data : NetData) :
    (uplink env cfg link s now data).1.dynamicTalkgroups =
      if PassesChecks cfg s now data ∧ Disconnects cfg s now data then Dict.empty
      else if Opens cfg s now data then
        s.dynamicTalkgroups.set (bmRouteDstId cfg data.dstId) (DynamicTalkgroupState.seen now
          (s.dynamicTalkgroups.get? (bmRouteDstId cfg data.dstId)))
      else s.dynamicTalkgroups := by
  by_cases hpass : PassesChecks cfg s now data
  · obtain ⟨hblocked, hduplicate, hreflected, hprivate⟩ := hpass
    have hpass : PassesChecks cfg s now data := ⟨hblocked, hduplicate, hreflected, hprivate⟩
    unfold uplink
    rw [if_neg hblocked, if_neg hduplicate]
    dsimp only
    rw [if_neg hreflected, if_neg (by rw [hprivate]; exact Bool.false_ne_true)]
    by_cases hdisconnect : data.dstId = cfg.disconnectTalkgroup
    · have hopens : ¬ Opens cfg s now data := fun h => h.2.1 hdisconnect
      rw [if_pos hdisconnect, if_neg hopens]
      unfold disconnectCommand
      by_cases hheader : data.dataType = .VOICE_LC_HEADER
      · by_cases hcool : s.lastDisconnectCommand.any
            (fun last => now - last < kDisconnectCommandCooldown) = true
        · have hnot : ¬ (PassesChecks cfg s now data ∧ Disconnects cfg s now data) :=
            fun h => h.2.2.2 hcool
          rw [if_neg (not_not.mpr hheader), if_neg hnot]
          exact congrArg (fun r : State emb × List Effect => r.1.dynamicTalkgroups) (if_pos hcool)
        · have hdo : PassesChecks cfg s now data ∧ Disconnects cfg s now data :=
            ⟨hpass, hdisconnect, hheader, hcool⟩
          rw [if_neg (not_not.mpr hheader), if_pos hdo]
          exact congrArg (fun r : State emb × List Effect => r.1.dynamicTalkgroups) (if_neg hcool)
      · have hnot : ¬ (PassesChecks cfg s now data ∧ Disconnects cfg s now data) :=
          fun h => hheader h.2.2.1
        rw [if_pos hheader, if_neg hnot]
        rfl
    · have hnot : ¬ (PassesChecks cfg s now data ∧ Disconnects cfg s now data) :=
        fun h => hdisconnect h.2.1
      rw [if_neg hdisconnect, if_neg hnot, dynamic_sendToBM]
      show (if bmRouteDstId cfg data.dstId ∈ cfg.staticTalkgroups then _ else _) = _
      by_cases hstatic : bmRouteDstId cfg data.dstId ∈ cfg.staticTalkgroups
      · rw [if_pos hstatic, if_neg fun h : Opens cfg s now data => h.2.2 hstatic]
        rfl
      · rw [if_neg hstatic, if_pos (show Opens cfg s now data from ⟨hpass, hdisconnect, hstatic⟩)]
        rfl
  · rw [if_neg fun h => hpass h.1, if_neg fun h : Opens cfg s now data => hpass h.1]
    unfold uplink
    by_cases hblocked : UplinkBlocked cfg data
    · rw [if_pos hblocked]
    rw [if_neg hblocked]
    by_cases hduplicate : UplinkDuplicate s now data
    · rw [if_pos hduplicate]
    rw [if_neg hduplicate]
    dsimp only
    by_cases hreflected : Reflected (markFneFrame s now data) now data
    · rw [if_pos hreflected]
      rfl
    have hprivate : isPrivate data = true := by
      by_contra h
      exact hpass ⟨hblocked, hduplicate, hreflected, Bool.not_eq_true _ ▸ h⟩
    rw [if_neg hreflected, if_pos hprivate, dynamic_sendToBM]
    rfl

theorem unexpired_tick (s : State emb) (now : Time) (talkgroup : ℕ) :
    Unexpired talkgroup (tick env cfg s now).1 ↔ Unexpired talkgroup s ∧
      ¬ (s.dynamicTalkgroups.get? talkgroup).any (expiresNow cfg now) = true := by
  unfold Unexpired
  rw [show (tick env cfg s now).1.dynamicTalkgroups = s.dynamicTalkgroups.filterMap
    fun _ entry => expireDynamic cfg now entry from rfl, Dict.get?_filterMap]
  cases s.dynamicTalkgroups.get? talkgroup with
  | none => simp
  | some entry =>
    rw [Option.bind_some, Option.any_some]
    unfold expireDynamic expiresNow
    by_cases hold : cfg.dynamicTimeout < now - entry.lastSeenSteady
    · rw [if_pos hold]
      cases hp : entry.expiredPendingBmRelease with
      | false => simp [hold, hp]
      | true =>
        rw [if_neg (by simp)]
        split_ifs <;> simp [hp]
    · rw [if_neg hold]
      simp [hold]

/-- BrandMeister neither opens a talkgroup nor lets one expire. -/
theorem unexpired_downlink (s : State emb) (now : Time) (inbound : NetData) (talkgroup : ℕ) :
    Unexpired talkgroup (downlink env cfg s now inbound).1 ↔ Unexpired talkgroup s := by
  refine downlink_state (fun s' => Unexpired talkgroup s' ↔ Unexpired talkgroup s) Iff.rfl
    (fun _ _ h => h) (fun _ _ h => h) (fun _ _ h => h) (fun _ _ h => h) (fun _ _ h => h)
    fun s' a h => ?_
  rw [← h]
  unfold Unexpired noteBmActivity
  dsimp only
  split_ifs
  · exact Iff.rfl
  · rw [Dict.get?_modify]
    split_ifs
    · cases s'.dynamicTalkgroups.get? talkgroup <;> simp
    · exact Iff.rfl

end Entries

/-! ## The invariant -/

section Invariant

variable {lc emb : Type} {env : Environment lc emb} {cfg : RoutingConfig}
  {order : List (ℕ × ℤ) → List (ℕ × ℤ)} {currentBootId : Bytes} {embeddedLC : emb}

/-- From now on, the file gives back the times of the wall clock, to the second. -/
def Saved (cfg : RoutingConfig) (currentBootId : Bytes) (file : Option Bytes) (wall : Dict ℕ ℤ)
    (wallNow : ℤ) : Prop :=
  ∀ now : Clocks, wallNow ≤ now.wall → ∀ talkgroup r,
    (loadDynamicTalkgroupState now cfg.dynamicTimeout currentBootId file).get? talkgroup = some r ↔
      ∃ w, wall.get? talkgroup = some w ∧
        restoreAt now cfg.dynamicTimeout talkgroup (w.tdiv second) = some r

/-- The times are in the past, and they fit in the file. -/
def WallFits (wall : Dict ℕ ℤ) (wallNow : ℤ) : Prop :=
  ∀ talkgroup w, wall.get? talkgroup = some w → FitsLine (talkgroup, w) ∧ w ≤ wallNow

/-- The map of wall-clock times has the unexpired talkgroups, and a clean file has them too. -/
structure GatewayInv (cfg : RoutingConfig) (currentBootId : Bytes) (wallNow : ℤ) (g : Gateway emb) :
    Prop where
  mirror : ∀ talkgroup, (∃ w, g.dynamicTalkgroupsWall.get? talkgroup = some w) ↔
    Unexpired talkgroup g.loop
  fits : WallFits g.dynamicTalkgroupsWall wallNow
  saved : g.dynamicStateDirty = false →
    Saved cfg currentBootId g.stateFile g.dynamicTalkgroupsWall wallNow

theorem Saved.mono {file : Option Bytes} {wall : Dict ℕ ℤ} {wallNow later : ℤ} (hle : wallNow ≤ later)
    (h : Saved cfg currentBootId file wall wallNow) : Saved cfg currentBootId file wall later :=
  fun now hnow => h now (hle.trans hnow)

theorem WallFits.mono {wall : Dict ℕ ℤ} {wallNow later : ℤ} (hle : wallNow ≤ later)
    (h : WallFits wall wallNow) : WallFits wall later :=
  fun talkgroup w hw => ⟨(h talkgroup w hw).1, (h talkgroup w hw).2.trans hle⟩

theorem GatewayInv.mono {wallNow later : ℤ} {g : Gateway emb} (hle : wallNow ≤ later)
    (h : GatewayInv cfg currentBootId wallNow g) : GatewayInv cfg currentBootId later g :=
  ⟨h.mirror, h.fits.mono hle, fun hd => (h.saved hd).mono hle⟩

/-- **Writing the file.** -/
theorem saved_save (horder : ∀ l, (order l).Perm l) (hboot : (10 : UInt8) ∉ currentBootId)
    {wall : Dict ℕ ℤ} {wallNow : ℤ} (h : WallFits wall wallNow) :
    Saved cfg currentBootId (some (saveDynamicTalkgroupState (order wall.entries) currentBootId)) wall
      wallNow :=
  fun _ _ talkgroup r => load_save_iff (horder _)
    (fun entry hm => (h entry.1 entry.2 ((Dict.mem_entries_iff _ _ _).mp hm)).1) hboot talkgroup r

theorem saved_none (wallNow : ℤ) : Saved cfg currentBootId none Dict.empty wallNow := by
  intro now _ talkgroup r
  constructor
  · intro h
    cases h
  · rintro ⟨w, hw, -⟩
    cases hw

theorem restoreAt_eq_some_iff {now : Clocks} {timeout : ℤ} {talkgroup : ℕ} {epochSeconds : ℤ}
    {r : Restored} : restoreAt now timeout talkgroup epochSeconds = some r ↔
      (talkgroup ≠ 0 ∧ epochSeconds * second ≤ now.wall ∧
        now.wall - epochSeconds * second ≤ timeout) ∧
      r = ⟨now.steady - (now.wall - epochSeconds * second), epochSeconds * second⟩ := by
  unfold restoreAt
  dsimp only
  split_ifs with h
  · refine iff_of_false (fun h => by cases h) fun ⟨⟨h0, h1, h2⟩, _⟩ => ?_
    rcases h with h | h | h
    · exact h0 h
    · omega
    · omega
  · obtain ⟨h0, h1, h2⟩ := by simpa only [not_or, not_lt] using h
    refine ⟨fun hr => ⟨⟨h0, by omega, h2⟩, (Option.some.inj hr).symm⟩, fun hr => congrArg some hr.2.symm⟩

theorem tdiv_second {w : ℤ} (hw : 0 ≤ w) : 0 ≤ w.tdiv second ∧ w.tdiv second * second ≤ w ∧
    (w.tdiv second * second).tdiv second = w.tdiv second := by
  have hdiv : w.tdiv second = w / second := Int.tdiv_eq_ediv_of_nonneg hw
  rw [hdiv]
  refine ⟨Int.ediv_nonneg hw (by decide), Int.ediv_mul_le w (by decide), ?_⟩
  exact Int.mul_tdiv_cancel _ (by decide)

/-- **The start.** The talkgroups that are restored are those of the file that are not too old. -/
theorem inv_startGateway (hgateway : cfg.gatewayManagedRouting = true) {file : Option Bytes}
    {wall : Dict ℕ ℤ} {wallNow : ℤ} {now : Clocks} (hfits : WallFits wall wallNow)
    (hsaved : Saved cfg currentBootId file wall wallNow) (hnow : wallNow ≤ now.wall) :
    GatewayInv cfg currentBootId now.wall (startGateway cfg currentBootId embeddedLC now file) := by
  have hload := hsaved now hnow
  have hstart : startGateway cfg currentBootId embeddedLC now file =
      { loop := State.init embeddedLC ((loadDynamicTalkgroupState now cfg.dynamicTimeout currentBootId
          file).filterMap fun _ r => some r.lastSeenSteady.toNat)
        dynamicTalkgroupsWall := (loadDynamicTalkgroupState now cfg.dynamicTimeout currentBootId
          file).filterMap fun _ r => some r.lastSeenWall
        dynamicStateDirty := false
        lastDynamicStateFlush := now.steady.toNat
        stateFile := file } := if_pos hgateway
  rw [hstart]
  generalize hrestored : loadDynamicTalkgroupState now cfg.dynamicTimeout currentBootId file = restored
    at hload
  have hwall : ∀ talkgroup w', (restored.filterMap fun _ r => some r.lastSeenWall).get? talkgroup =
      some w' ↔ ∃ w, wall.get? talkgroup = some w ∧ w' = w.tdiv second * second ∧ talkgroup ≠ 0 ∧
        w.tdiv second * second ≤ now.wall ∧ now.wall - w.tdiv second * second ≤ cfg.dynamicTimeout := by
    intro talkgroup w'
    rw [Dict.get?_filterMap, Option.bind_eq_some_iff]
    constructor
    · rintro ⟨r, hr, hw'⟩
      obtain ⟨w, hw, hrestore⟩ := (hload talkgroup r).mp hr
      obtain ⟨hage, rfl⟩ := restoreAt_eq_some_iff.mp hrestore
      exact ⟨w, hw, (Option.some.inj hw').symm, hage⟩
    · rintro ⟨w, hw, rfl, hage⟩
      exact ⟨_, (hload talkgroup _).mpr ⟨w, hw, restoreAt_eq_some_iff.mpr ⟨hage, rfl⟩⟩, rfl⟩
  refine ⟨fun talkgroup => ?_, fun talkgroup w' hw' => ?_, fun _ later hlater talkgroup r => ?_⟩
  · show (∃ w, (restored.filterMap fun _ r => some r.lastSeenWall).get? talkgroup = some w) ↔
      ∃ entry, ((restored.filterMap fun _ r => some r.lastSeenSteady.toNat).filterMap
        fun _ lastSeen => some (DynamicTalkgroupState.mk lastSeen (some 0) false)).get? talkgroup =
          some entry ∧ entry.expiredPendingBmRelease = false
    rw [Dict.get?_filterMap, Dict.get?_filterMap, Dict.get?_filterMap]
    cases restored.get? talkgroup <;> simp
  · obtain ⟨w, hw, rfl, -, hpast, -⟩ := (hwall talkgroup w').mp hw'
    obtain ⟨hline, -⟩ := hfits talkgroup w hw
    obtain ⟨hnonneg, hcut, -⟩ := tdiv_second hline.nonneg
    refine ⟨⟨hline.talkgroup, ?_, ?_⟩, hpast⟩
    · exact Int.mul_nonneg hnonneg (by decide)
    · exact lt_of_le_of_lt hcut hline.time
  · show (loadDynamicTalkgroupState later cfg.dynamicTimeout currentBootId file).get? talkgroup =
      some r ↔ _
    rw [hsaved later (hnow.trans hlater) talkgroup r]
    constructor
    · rintro ⟨w, hw, hrestore⟩
      obtain ⟨hline, hold⟩ := hfits talkgroup w hw
      obtain ⟨-, hcut, hsame⟩ := tdiv_second hline.nonneg
      change w.tdiv second * second ≤ w at hcut
      obtain ⟨⟨hzero, hpast, hage⟩, -⟩ := restoreAt_eq_some_iff.mp hrestore
      refine ⟨w.tdiv second * second, (hwall talkgroup _).mpr ⟨w, hw, rfl, hzero, ?_, ?_⟩, ?_⟩
      · omega
      · omega
      · rw [hsame]
        exact hrestore
    · rintro ⟨w', hw', hrestore⟩
      obtain ⟨w, hw, rfl, -⟩ := (hwall talkgroup w').mp hw'
      obtain ⟨hline, -⟩ := hfits talkgroup w hw
      rw [(tdiv_second hline.nonneg).2.2] at hrestore
      exact ⟨w, hw, hrestore⟩

/-! ## Steps -/

/-- The wall clock is read. -/
def GatewayEvent.wallReading : GatewayEvent → Option ℤ
  | .fne _ wallNow _ _ => some wallNow
  | .restart _ now => some now.wall
  | _ => none

/-- The talkgroups and the wall clock have the widths of the source. -/
def GatewayEvent.Fits : GatewayEvent → Prop
  | .fne _ wallNow _ data => data.dstId < 2 ^ 32 ∧ 0 ≤ wallNow ∧ wallNow < 2 ^ 63
  | _ => True

/-- The mapped talkgroups have the width of the source. -/
def MappingsFit (cfg : RoutingConfig) : Prop := ∀ m ∈ cfg.talkgroupMappings, m.2 < 2 ^ 32

theorem bmRouteDstId_lt (hmaps : MappingsFit cfg) {dstId : ℕ} (h : dstId < 2 ^ 32) :
    bmRouteDstId cfg dstId < 2 ^ 32 := by
  unfold bmRouteDstId
  cases hd : cfg.p25ToBmTalkgroups.get? dstId with
  | none => exact h
  | some bm => exact hmaps _ (cfg.mem_of_p25ToBm hd)

variable (cfg order) in
theorem inv_flush (horder : ∀ l, (order l).Perm l) (hboot : (10 : UInt8) ∉ currentBootId) {wallNow : ℤ}
    {g : Gateway emb} (hmirror : ∀ talkgroup, (∃ w, g.dynamicTalkgroupsWall.get? talkgroup = some w) ↔
      Unexpired talkgroup g.loop) (hfits : WallFits g.dynamicTalkgroupsWall wallNow) :
    GatewayInv cfg currentBootId wallNow (g.flush order currentBootId) :=
  ⟨hmirror, hfits, fun _ => saved_save horder hboot hfits⟩

theorem inv_gatewayTick (horder : ∀ l, (order l).Perm l) (hboot : (10 : UInt8) ∉ currentBootId)
    {wallNow : ℤ} {g : Gateway emb} (h : GatewayInv cfg currentBootId wallNow g) (now : Time) :
    GatewayInv cfg currentBootId wallNow (gatewayTick env cfg order currentBootId g now) := by
  have hkept : ∀ talkgroup w, (g.dynamicTalkgroupsWall.filter fun talkgroup _ =>
      ¬ (g.loop.dynamicTalkgroups.get? talkgroup).any (expiresNow cfg now)).get? talkgroup = some w ↔
        g.dynamicTalkgroupsWall.get? talkgroup = some w ∧
          ¬ (g.loop.dynamicTalkgroups.get? talkgroup).any (expiresNow cfg now) = true := by
    intro talkgroup w
    rw [Dict.get?_filter, Option.filter_eq_some_iff, decide_eq_true_iff]
  have hmirror : ∀ talkgroup, (∃ w, (g.dynamicTalkgroupsWall.filter fun talkgroup _ =>
      ¬ (g.loop.dynamicTalkgroups.get? talkgroup).any (expiresNow cfg now)).get? talkgroup = some w) ↔
        Unexpired talkgroup (tick env cfg g.loop now).1 := by
    intro talkgroup
    rw [unexpired_tick, ← h.mirror talkgroup]
    simp only [hkept]
    exact ⟨fun ⟨w, hw, hn⟩ => ⟨⟨w, hw⟩, hn⟩, fun ⟨⟨w, hw⟩, hn⟩ => ⟨w, hw, hn⟩⟩
  have hfits : WallFits (g.dynamicTalkgroupsWall.filter fun talkgroup _ =>
      ¬ (g.loop.dynamicTalkgroups.get? talkgroup).any (expiresNow cfg now)) wallNow :=
    fun talkgroup w hw => h.fits talkgroup w ((hkept talkgroup w).mp hw).1
  unfold gatewayTick
  dsimp only
  split_ifs with hflush
  · have hinv := inv_flush cfg order horder hboot (g := { g with
      loop := (tick env cfg g.loop now).1
      dynamicTalkgroupsWall := g.dynamicTalkgroupsWall.filter fun talkgroup _ =>
        ¬ (g.loop.dynamicTalkgroups.get? talkgroup).any (expiresNow cfg now) }) hmirror hfits
    exact ⟨hinv.mirror, hinv.fits, hinv.saved⟩
  · refine ⟨hmirror, hfits, fun hclean => ?_⟩
    obtain ⟨hold, hany⟩ := Bool.or_eq_false_iff.mp hclean
    -- nothing has changed, so no talkgroup expires
    have hnone : ∀ talkgroup,
        ¬ (g.loop.dynamicTalkgroups.get? talkgroup).any (expiresNow cfg now) = true := by
      intro talkgroup hexpires
      obtain ⟨entry, hentry, hnow⟩ := Option.any_eq_true _ _ |>.mp hexpires
      obtain ⟨hlate, hfresh⟩ := of_decide_eq_true hnow
      have hchanged : g.loop.dynamicTalkgroups.any
          (fun _ entry => expireDynamic cfg now entry ≠ some entry) = true := by
        refine (Dict.any_iff _ _).mpr ⟨talkgroup, entry, hentry, decide_eq_true fun heq => ?_⟩
        unfold expireDynamic at heq
        rw [if_pos hlate, if_pos (by rw [hfresh]; exact Bool.false_ne_true)] at heq
        have hmark := congrArg DynamicTalkgroupState.expiredPendingBmRelease (Option.some.inj heq)
        rw [hfresh] at hmark
        cases hmark
      rw [hany] at hchanged
      cases hchanged
    intro later hlater talkgroup r
    refine (h.saved hold later hlater talkgroup r).trans (exists_congr fun w => ?_)
    rw [hkept, and_iff_left (hnone talkgroup)]

theorem inv_gatewayFne (hmaps : MappingsFit cfg) {wallNow reading : ℤ} {g : Gateway emb}
    (h : GatewayInv cfg currentBootId wallNow g) (hle : wallNow ≤ reading) (now : Time) (link : Link)
    (data : NetData) (hdata : data.dstId < 2 ^ 32) (hreading : 0 ≤ reading ∧ reading < 2 ^ 63) :
    GatewayInv cfg currentBootId reading (gatewayFne env cfg g now reading link data) := by
  have hdynamic := dynamic_uplink env cfg link g.loop now data
  unfold gatewayFne
  dsimp only
  by_cases hdisconnect : PassesChecks cfg g.loop now data ∧ Disconnects cfg g.loop now data
  · rw [if_pos hdisconnect] at hdynamic ⊢
    refine ⟨fun talkgroup => ?_, fun talkgroup w hw => ?_, fun hclean => by cases hclean⟩
    · refine iff_of_false (fun ⟨w, hw⟩ => by cases hw) ?_
      rintro ⟨entry, hentry, -⟩
      rw [hdynamic] at hentry
      cases hentry
    · cases hw
  · rw [if_neg hdisconnect] at hdynamic ⊢
    by_cases hopens : Opens cfg g.loop now data
    · rw [if_pos hopens] at hdynamic ⊢
      refine ⟨fun talkgroup => ?_, fun talkgroup w hw => ?_, fun hclean => by cases hclean⟩
      · show (∃ w, (g.dynamicTalkgroupsWall.set _ reading).get? talkgroup = some w) ↔ _
        unfold Unexpired
        rw [hdynamic, Dict.get?_set, Dict.get?_set]
        split_ifs
        · exact iff_of_true ⟨_, rfl⟩ ⟨_, rfl, rfl⟩
        · exact h.mirror talkgroup
      · change (g.dynamicTalkgroupsWall.set _ reading).get? talkgroup = some w at hw
        rw [Dict.get?_set] at hw
        split_ifs at hw with htg
        · obtain rfl := Option.some.inj hw
          rw [htg]
          exact ⟨⟨bmRouteDstId_lt hmaps hdata, hreading.1, hreading.2⟩, le_rfl⟩
        · obtain ⟨hline, hpast⟩ := h.fits talkgroup w hw
          exact ⟨hline, hpast.trans hle⟩
    · rw [if_neg hopens] at hdynamic ⊢
      refine ⟨fun talkgroup => ?_, (h.mono hle).fits, (h.mono hle).saved⟩
      unfold Unexpired
      rw [hdynamic]
      exact h.mirror talkgroup

/-- **What the file holds when the bridge stops.** -/
theorem saved_stopGateway (hgateway : cfg.gatewayManagedRouting = true)
    (horder : ∀ l, (order l).Perm l) (hboot : (10 : UInt8) ∉ currentBootId) {wallNow : ℤ}
    {g : Gateway emb} (h : GatewayInv cfg currentBootId wallNow g) (stopped : Time) :
    Saved cfg currentBootId (stopGateway cfg order currentBootId g stopped).stateFile
      g.dynamicTalkgroupsWall wallNow := by
  unfold stopGateway
  dsimp only
  split_ifs with hdirty
  · exact saved_save horder hboot h.fits
  · exact h.saved (Bool.not_eq_true _ ▸ fun hd => hdirty ⟨hgateway, hd⟩)

variable (env embeddedLC) in
theorem inv_gatewayStep (hgateway : cfg.gatewayManagedRouting = true) (hmaps : MappingsFit cfg)
    (horder : ∀ l, (order l).Perm l) (hboot : (10 : UInt8) ∉ currentBootId) {wallNow : ℤ}
    {g : Gateway emb} {e : GatewayEvent} (h : GatewayInv cfg currentBootId wallNow g)
    (hle : ∀ reading ∈ e.wallReading, wallNow ≤ reading) (hfits : e.Fits) :
    GatewayInv cfg currentBootId (e.wallReading.getD wallNow)
      (gatewayStep env cfg order currentBootId embeddedLC g e).1 := by
  cases e with
  | tick now => exact inv_gatewayTick horder hboot h now
  | fne now reading link data =>
    exact inv_gatewayFne hmaps h (hle reading rfl) now link data hfits.1 hfits.2
  | bm now inbound =>
    exact ⟨fun talkgroup => (h.mirror talkgroup).trans (unexpired_downlink g.loop now inbound
      talkgroup).symm, h.fits, h.saved⟩
  | restart stopped now =>
    exact inv_startGateway hgateway h.fits (saved_stopGateway hgateway horder hboot h stopped)
      (hle now.wall rfl)

/-! ## Runs -/

/-- The readings of the wall clock do not go back. -/
def WallOrdered (start : ℤ) (es : List GatewayEvent) : Prop :=
  (start :: es.filterMap GatewayEvent.wallReading).Pairwise (· ≤ ·)

instance (start : ℤ) (es : List GatewayEvent) : Decidable (WallOrdered start es) :=
  inferInstanceAs (Decidable (List.Pairwise _ _))

variable (env embeddedLC) in
/-- **The invariant holds after every run**, however often the bridge is restarted. -/
theorem inv_run (hgateway : cfg.gatewayManagedRouting = true) (hmaps : MappingsFit cfg)
    (horder : ∀ l, (order l).Perm l) (hboot : (10 : UInt8) ∉ currentBootId) (es : List GatewayEvent) :
    ∀ {wallNow : ℤ} {g : Gateway emb}, GatewayInv cfg currentBootId wallNow g →
      WallOrdered wallNow es → (∀ e ∈ es, e.Fits) → ∀ later,
      (∀ reading ∈ wallNow :: es.filterMap GatewayEvent.wallReading, reading ≤ later) →
      GatewayInv cfg currentBootId later
        (Run.final (gatewayStep env cfg order currentBootId embeddedLC) g es) := by
  induction es with
  | nil => exact fun h _ _ later hlater => h.mono (hlater _ List.mem_cons_self)
  | cons e es ih =>
    intro wallNow g h hordered hfits later hlater
    obtain ⟨hfit, hfits⟩ := List.forall_mem_cons.mp hfits
    rw [Run.final_cons]
    cases hread : e.wallReading with
    | none =>
      have hstep := inv_gatewayStep env embeddedLC hgateway hmaps horder hboot h
        (fun reading hr => by rw [hread] at hr; cases hr) hfit
      rw [hread] at hstep
      rw [WallOrdered, List.filterMap_cons_none hread] at hordered
      rw [List.filterMap_cons_none hread] at hlater
      exact ih hstep hordered hfits later hlater
    | some reading =>
      rw [WallOrdered, List.filterMap_cons_some hread] at hordered
      rw [List.filterMap_cons_some hread] at hlater
      obtain ⟨hfirst, hordered⟩ := List.pairwise_cons.mp hordered
      have hstep := inv_gatewayStep env embeddedLC hgateway hmaps horder hboot h
        (fun r hr => by
          rw [hread] at hr
          obtain rfl := Option.some.inj hr
          exact hfirst _ List.mem_cons_self) hfit
      rw [hread] at hstep
      exact ih hstep hordered hfits later fun r hr => hlater r (List.mem_cons_of_mem _ hr)

/-! ## Activity of radio users -/

variable (env cfg order currentBootId embeddedLC) in
/-- A radio user was heard on the talkgroup during the run, at this time of the wall clock. -/
def HeardAt (g : Gateway emb) (es : List GatewayEvent) (talkgroup : ℕ) (w : ℤ) : Prop :=
  ∃ pre e post, es = pre ++ e :: post ∧ ∃ now link data, e = .fne now w link data ∧
    bmRouteDstId cfg data.dstId = talkgroup ∧
    Opens cfg (Run.final (gatewayStep env cfg order currentBootId embeddedLC) g pre).loop now data

variable (env cfg order currentBootId embeddedLC) in
/-- The last time at which one was. -/
def LastHeardAt (g : Gateway emb) (es : List GatewayEvent) (talkgroup : ℕ) (w : ℤ) : Prop :=
  HeardAt env cfg order currentBootId embeddedLC g es talkgroup w ∧
    ∀ w', HeardAt env cfg order currentBootId embeddedLC g es talkgroup w' → w' ≤ w

theorem heardAt_concat {g : Gateway emb} {es : List GatewayEvent} {e : GatewayEvent} {talkgroup : ℕ}
    {w : ℤ} : HeardAt env cfg order currentBootId embeddedLC g (es ++ [e]) talkgroup w ↔
      HeardAt env cfg order currentBootId embeddedLC g es talkgroup w ∨
        ∃ now link data, e = .fne now w link data ∧ bmRouteDstId cfg data.dstId = talkgroup ∧
          Opens cfg (Run.final (gatewayStep env cfg order currentBootId embeddedLC) g es).loop now
            data :=
  Run.exists_step_concat_iff es e

theorem heardAt_reading {g : Gateway emb} {es : List GatewayEvent} {talkgroup : ℕ} {w : ℤ}
    (h : HeardAt env cfg order currentBootId embeddedLC g es talkgroup w) :
    w ∈ es.filterMap GatewayEvent.wallReading := by
  obtain ⟨pre, e, post, rfl, now, link, data, rfl, -⟩ := h
  exact List.mem_filterMap.mpr ⟨_, List.mem_append_right pre List.mem_cons_self, rfl⟩

/-- **What a step does to the time of a talkgroup.** A restart cuts it to the second. -/
theorem wall_of_step (hgateway : cfg.gatewayManagedRouting = true) (horder : ∀ l, (order l).Perm l)
    (hboot : (10 : UInt8) ∉ currentBootId) {wallNow : ℤ} {g : Gateway emb} {e : GatewayEvent}
    (h : GatewayInv cfg currentBootId wallNow g) (hle : ∀ reading ∈ e.wallReading, wallNow ≤ reading)
    {talkgroup : ℕ} {w : ℤ}
    (hw : (gatewayStep env cfg order currentBootId embeddedLC g e).1.dynamicTalkgroupsWall.get?
      talkgroup = some w) :
    (∃ now link data, e = .fne now w link data ∧ bmRouteDstId cfg data.dstId = talkgroup ∧
      Opens cfg g.loop now data) ∨
    ((∀ now w' link data, e = .fne now w' link data → bmRouteDstId cfg data.dstId = talkgroup →
        ¬ Opens cfg g.loop now data) ∧
      ∃ w₀, g.dynamicTalkgroupsWall.get? talkgroup = some w₀ ∧ w.tdiv second = w₀.tdiv second) := by
  cases e with
  | tick now =>
    refine Or.inr ⟨(fun _ _ _ _ he => by cases he), w, ?_, rfl⟩
    change (gatewayTick env cfg order currentBootId g now).dynamicTalkgroupsWall.get? talkgroup =
      some w at hw
    have hfilter : (gatewayTick env cfg order currentBootId g now).dynamicTalkgroupsWall =
        g.dynamicTalkgroupsWall.filter fun talkgroup _ =>
          ¬ (g.loop.dynamicTalkgroups.get? talkgroup).any (expiresNow cfg now) := by
      unfold gatewayTick
      dsimp only
      split_ifs <;> rfl
    rw [hfilter, Dict.get?_filter, Option.filter_eq_some_iff] at hw
    exact hw.1
  | bm now inbound => exact Or.inr ⟨(fun _ _ _ _ he => by cases he), w, hw, rfl⟩
  | fne now reading link data =>
    change (gatewayFne env cfg g now reading link data).dynamicTalkgroupsWall.get? talkgroup = some w
      at hw
    unfold gatewayFne at hw
    dsimp only at hw
    by_cases hdisconnect : PassesChecks cfg g.loop now data ∧ Disconnects cfg g.loop now data
    · rw [if_pos hdisconnect] at hw
      cases hw
    rw [if_neg hdisconnect] at hw
    by_cases hopens : Opens cfg g.loop now data
    · rw [if_pos hopens, Dict.get?_set] at hw
      split_ifs at hw with htg
      · obtain rfl := Option.some.inj hw
        exact Or.inl ⟨now, link, data, rfl, htg.symm, hopens⟩
      · refine Or.inr ⟨fun now' w' link' data' he hroute _ => ?_, w, hw, rfl⟩
        cases he
        exact htg hroute.symm
    · rw [if_neg hopens] at hw
      refine Or.inr ⟨fun now' w' link' data' he _ => ?_, w, hw, rfl⟩
      cases he
      exact hopens
  | restart stopped now =>
    refine Or.inr ⟨(fun _ _ _ _ he => by cases he), ?_⟩
    have hsaved := saved_stopGateway hgateway horder hboot h stopped now (hle now.wall rfl)
    change (startGateway cfg currentBootId embeddedLC now _).dynamicTalkgroupsWall.get? talkgroup =
      some w at hw
    unfold startGateway at hw
    rw [if_pos hgateway] at hw
    dsimp only at hw
    rw [Dict.get?_filterMap, Option.bind_eq_some_iff] at hw
    obtain ⟨r, hr, hw⟩ := hw
    obtain ⟨w₀, hw₀, hrestore⟩ := (hsaved talkgroup r).mp hr
    obtain ⟨-, rfl⟩ := restoreAt_eq_some_iff.mp hrestore
    obtain rfl := Option.some.inj hw
    exact ⟨w₀, hw₀, (tdiv_second (h.fits talkgroup w₀ hw₀).1.nonneg).2.2⟩

variable (currentBootId embeddedLC) in
/-- The bridge starts for the first time, without a file. -/
theorem inv_start (hgateway : cfg.gatewayManagedRouting = true) (start : Clocks) :
    GatewayInv cfg currentBootId start.wall
      (startGateway cfg currentBootId embeddedLC start none : Gateway emb) :=
  inv_startGateway hgateway (fun _ _ hw => by cases hw) (saved_none start.wall) le_rfl

/-- **A time of the map** is the last one at which a radio user was heard, to the second. -/
theorem lastHeardAt_of_wall (hgateway : cfg.gatewayManagedRouting = true) (hmaps : MappingsFit cfg)
    (horder : ∀ l, (order l).Perm l) (hboot : (10 : UInt8) ∉ currentBootId) (start : Clocks)
    (es : List GatewayEvent) :
    WallOrdered start.wall es → (∀ e ∈ es, e.Fits) → ∀ {talkgroup : ℕ} {w : ℤ},
      (Run.final (gatewayStep env cfg order currentBootId embeddedLC)
        (startGateway cfg currentBootId embeddedLC start none) es).dynamicTalkgroupsWall.get?
          talkgroup = some w →
      ∃ w₀, LastHeardAt env cfg order currentBootId embeddedLC
        (startGateway cfg currentBootId embeddedLC start none) es talkgroup w₀ ∧
          w₀.tdiv second = w.tdiv second := by
  induction es using List.reverseRecOn with
  | nil =>
    intro _ _ talkgroup w hw
    have hnone := (inv_start currentBootId embeddedLC hgateway start).mirror talkgroup
    obtain ⟨entry, hentry, -⟩ := hnone.mp ⟨w, hw⟩
    unfold startGateway at hentry
    rw [if_pos hgateway] at hentry
    cases hentry
  | append_singleton es e ih =>
    intro hordered hfits talkgroup w hw
    rw [Run.final_concat] at hw
    unfold WallOrdered at hordered
    rw [List.filterMap_append, ← List.cons_append, List.pairwise_append] at hordered
    obtain ⟨hbefore, -, hafter⟩ := hordered
    have hfitsBefore : ∀ e ∈ es, e.Fits := fun e he => hfits e (List.mem_append_left _ he)
    have hread : ∀ reading ∈ e.wallReading, ∀ r ∈ start.wall :: es.filterMap GatewayEvent.wallReading,
        r ≤ reading := by
      intro reading hreading r hr
      refine hafter r hr reading ?_
      rw [List.filterMap_cons_some hreading]
      exact List.mem_cons_self
    -- the latest reading so far
    obtain ⟨latest, hmem, hlatest⟩ : ∃ latest ∈ start.wall :: es.filterMap GatewayEvent.wallReading,
        ∀ r ∈ start.wall :: es.filterMap GatewayEvent.wallReading, r ≤ latest :=
      ⟨_, List.getLast_mem (List.cons_ne_nil _ _), fun r hr =>
        hbefore.rel_getLast hr⟩
    have hinv := inv_run env embeddedLC hgateway hmaps horder hboot
      es (inv_start currentBootId embeddedLC hgateway start) hbefore hfitsBefore latest hlatest
    rcases wall_of_step hgateway horder hboot hinv (fun reading hr => hread reading hr latest hmem) hw
      with ⟨now, link, data, rfl, hroute, hopens⟩ | ⟨hnot, w₁, hw₁, hsame⟩
    · refine ⟨w, ⟨heardAt_concat.mpr (Or.inr ⟨now, link, data, rfl, hroute, hopens⟩), ?_⟩, rfl⟩
      intro w' hw'
      rcases heardAt_concat.mp hw' with hold | ⟨now', link', data', he, -⟩
      · exact hread w rfl w' (List.mem_cons_of_mem _ (heardAt_reading hold))
      · cases he
        exact le_rfl
    · obtain ⟨w₀, ⟨hheard, hlast⟩, hsecond⟩ := ih hbefore hfitsBefore hw₁
      refine ⟨w₀, ⟨heardAt_concat.mpr (Or.inl hheard), fun w' hw' => ?_⟩, hsecond.trans hsame.symm⟩
      rcases heardAt_concat.mp hw' with hold | ⟨now, link, data, he, hroute, hopens⟩
      · exact hlast w' hold
      · exact absurd hopens (hnot now w' link data he hroute)

variable (env embeddedLC) in
theorem dynamic_restart (hgateway : cfg.gatewayManagedRouting = true) (horder : ∀ l, (order l).Perm l)
    (hboot : (10 : UInt8) ∉ currentBootId) {g : Gateway emb} {now : Clocks} (stopped : Time)
    (h : GatewayInv cfg currentBootId now.wall g) (talkgroup : ℕ) (entry : DynamicTalkgroupState) :
    (gatewayStep env cfg order currentBootId embeddedLC g
        (.restart stopped now)).1.loop.dynamicTalkgroups.get? talkgroup = some entry ↔
      ∃ w, g.dynamicTalkgroupsWall.get? talkgroup = some w ∧ talkgroup ≠ 0 ∧
        now.wall - w.tdiv second * second ≤ cfg.dynamicTimeout ∧
        entry = { lastSeenSteady := (now.steady - (now.wall - w.tdiv second * second)).toNat } := by
  have hsaved := saved_stopGateway hgateway horder hboot h stopped now le_rfl
  show (startGateway cfg currentBootId embeddedLC now _).loop.dynamicTalkgroups.get? talkgroup =
    some entry ↔ _
  unfold startGateway
  rw [if_pos hgateway]
  show ((Dict.filterMap _ _).filterMap _).get? talkgroup = some entry ↔ _
  rw [Dict.get?_filterMap, Dict.get?_filterMap, Option.bind_eq_some_iff]
  constructor
  · rintro ⟨lastSeen, hseen, hentry⟩
    obtain ⟨r, hr, hseen⟩ := Option.bind_eq_some_iff.mp hseen
    obtain ⟨w, hw, hrestore⟩ := (hsaved talkgroup r).mp hr
    obtain ⟨⟨hzero, -, hage⟩, rfl⟩ := restoreAt_eq_some_iff.mp hrestore
    obtain rfl := Option.some.inj hseen
    exact ⟨w, hw, hzero, hage, (Option.some.inj hentry).symm⟩
  · rintro ⟨w, hw, hzero, hage, rfl⟩
    obtain ⟨hline, hpast⟩ := h.fits talkgroup w hw
    have hcut : w.tdiv second * second ≤ w := (tdiv_second hline.nonneg).2.1
    have hrestore := restoreAt_eq_some_iff.mpr ⟨⟨hzero, hcut.trans hpast, hage⟩,
      (rfl : _ = Restored.mk (now.steady - (now.wall - w.tdiv second * second)) _)⟩
    exact ⟨_, Option.bind_eq_some_iff.mpr ⟨_, (hsaved talkgroup _).mpr ⟨w, hw, hrestore⟩, rfl⟩, rfl⟩

/-- **A restart keeps the talkgroups that are open**, after any run with any number of restarts: those
with an entry that has not expired, if the last time at which a radio user was heard, to the second, is
not older than the timeout by the wall clock. It opens no other, and it takes over the times. The
gateway manages the routes, and the wall clock never goes back. -/
theorem restart_keeps (env : Environment lc emb) (cfg : RoutingConfig)
    (order : List (ℕ × ℤ) → List (ℕ × ℤ)) (currentBootId : Bytes) (embeddedLC : emb)
    (hgateway : cfg.gatewayManagedRouting = true) (hmaps : MappingsFit cfg)
    (horder : ∀ l, (order l).Perm l) (hboot : (10 : UInt8) ∉ currentBootId) (start : Clocks)
    (es : List GatewayEvent) (hfits : ∀ e ∈ es, e.Fits) (stopped : Time) (now : Clocks)
    (hclock : WallOrdered start.wall (es ++ [.restart stopped now])) (talkgroup : ℕ) :
    let g₀ := startGateway cfg currentBootId embeddedLC start none
    let g := Run.final (gatewayStep env cfg order currentBootId embeddedLC) g₀ es
    let g' := (gatewayStep env cfg order currentBootId embeddedLC g (.restart stopped now)).1
    let lastHeard := LastHeardAt env cfg order currentBootId embeddedLC g₀ es talkgroup
    (Unexpired talkgroup g'.loop ↔ Unexpired talkgroup g.loop ∧ talkgroup ≠ 0 ∧
      ∃ w, lastHeard w ∧ now.wall - w.tdiv second * second ≤ cfg.dynamicTimeout) ∧
    ∀ entry, g'.loop.dynamicTalkgroups.get? talkgroup = some entry → ∃ w, lastHeard w ∧
      entry = { lastSeenSteady := (now.steady - (now.wall - w.tdiv second * second)).toNat } := by
  intro g₀ g g' lastHeard
  unfold WallOrdered at hclock
  rw [List.filterMap_append, ← List.cons_append, List.pairwise_append] at hclock
  obtain ⟨hbefore, -, hafter⟩ := hclock
  have hinv : GatewayInv cfg currentBootId now.wall g :=
    inv_run env embeddedLC hgateway hmaps horder hboot es
      (inv_start currentBootId embeddedLC hgateway start) hbefore hfits now.wall
      fun r hr => hafter r hr now.wall List.mem_cons_self
  have hheard : ∀ {w}, g.dynamicTalkgroupsWall.get? talkgroup = some w →
      ∃ w₀, lastHeard w₀ ∧ w₀.tdiv second = w.tdiv second := fun hw =>
    lastHeardAt_of_wall hgateway hmaps horder hboot start es hbefore hfits hw
  have hrestart := dynamic_restart env embeddedLC hgateway horder hboot stopped
    hinv talkgroup
  refine ⟨⟨?_, ?_⟩, fun entry hentry => ?_⟩
  · rintro ⟨entry, hentry, -⟩
    obtain ⟨w, hw, hzero, hage, -⟩ := (hrestart entry).mp hentry
    obtain ⟨w₀, hlast, hsecond⟩ := hheard hw
    exact ⟨(hinv.mirror talkgroup).mp ⟨w, hw⟩, hzero, w₀, hlast, by rw [hsecond]; exact hage⟩
  · rintro ⟨hopen, hzero, w₀, hlast, hage⟩
    obtain ⟨w, hw⟩ := (hinv.mirror talkgroup).mpr hopen
    obtain ⟨w₁, hlast₁, hsecond⟩ := hheard hw
    obtain rfl : w₁ = w₀ := le_antisymm (hlast.2 w₁ hlast₁.1) (hlast₁.2 w₀ hlast.1)
    rw [hsecond] at hage
    exact ⟨_, (hrestart _).mpr ⟨w, hw, hzero, hage, rfl⟩, rfl⟩
  · obtain ⟨w, hw, -, -, rfl⟩ := (hrestart entry).mp hentry
    obtain ⟨w₀, hlast, hsecond⟩ := hheard hw
    exact ⟨w₀, hlast, by rw [hsecond]⟩

end Invariant

/-- A bridge that is managed by a gateway. -/
def sampleGateway : RoutingConfig := { sampleConfig with gatewayManagedRouting := true }

/-- A radio user calls talkgroup 3100, and the bridge is restarted two seconds later. -/
theorem restart_keeps_sample :
    let step := gatewayStep sampleEnvironment sampleGateway id [97] ()
    let g := Run.final step (startGateway sampleGateway [97] () ⟨0, 0⟩ none)
      [.fne (seconds 1) (5 * second) ⟨true, seconds 1⟩ (sampleFrame .VOICE_LC_HEADER 3100 1)]
    Unexpired 3100 (step g (.restart (seconds 2) ⟨3 * second, 7 * second⟩)).1.loop := by
  have hfits : ∀ e ∈ [GatewayEvent.fne (seconds 1) (5 * second) ⟨true, seconds 1⟩
      (sampleFrame .VOICE_LC_HEADER 3100 1)], e.Fits := by
    intro e he
    rw [List.mem_singleton.mp he]
    exact ⟨by decide, by decide, by decide⟩
  refine ((restart_keeps sampleEnvironment sampleGateway id [97] () rfl
    (fun _ hm => absurd hm List.not_mem_nil) (fun l => List.Perm.refl l) (by decide) ⟨0, 0⟩ _ hfits
    (seconds 2) ⟨3 * second, 7 * second⟩ (by decide) 3100).1).mpr ⟨?_, by decide, 5 * second, ⟨?_, ?_⟩,
      by decide⟩
  · exact ⟨⟨seconds 1, some 0, false⟩, by decide +kernel, rfl⟩
  · exact ⟨[], _, [], rfl, seconds 1, ⟨true, seconds 1⟩, sampleFrame .VOICE_LC_HEADER 3100 1, rfl,
      by decide +kernel, by decide +kernel⟩
  · intro w hw
    have hmem := heardAt_reading hw
    rw [List.mem_singleton.mp hmem]

end Routing
