import QuantarBridge.PacketData.Reassembler

/-!
# What the routing loop remembers

The main loop routes group and private frames between the local FNE and BrandMeister. It remembers
the dynamic talkgroups that radio users opened, which talkgroups radio users hold, the signatures of
the frames it passed lately in each direction, and for each slot the last header and a terminator
that waits for the call to continue.

* `RoutingConfig` with the two talkgroup mappings;
* `VoiceCodec`, `Environment`: the link-control coding of the DVM library and what else is outside;
* `State`, `Effect`: the variables of the loop and what it does;
* `slotIndex`: the slot-indexed arrays.
-/

set_option autoImplicit false

namespace Routing

open Dmr Lib PacketData

/-- How long a terminator waits for its call to go on. -/
def kCallMergeWindow : Time := milliseconds 250

/-- How long a frame counts as an echo. -/
def kBmEchoSuppressWindow : Time := seconds 20

/-- How long a frame of the FNE counts as a repetition. -/
def kFneDuplicateSuppressWindow : Time := milliseconds 15

/-- How long a frame of BrandMeister counts as a repetition. -/
def kBmDuplicateSuppressWindow : Time := milliseconds 15

/-- How long a header counts as a repetition. -/
def kBmHeaderSuppressWindow : Time := milliseconds 750

/-- How long BrandMeister is still heard on an expired talkgroup. -/
def kBmDynamicReleaseGrace : Time := seconds 3

/-- The pause between two commands to disconnect. -/
def kDisconnectCommandCooldown : Time := seconds 2

/-- The routing configuration. The mappings are pairs of a P25 and a BrandMeister talkgroup. -/
structure RoutingConfig where
  voiceEnabled : Bool
  gatewayManagedRouting : Bool
  repeaterId : ℕ
  timeslot : ℕ
  dynamicTimeoutSeconds : ℕ
  rfPriorityHoldoffSeconds : ℕ
  disconnectTalkgroup : ℕ
  allowPrivateCalls : Bool
  staticTalkgroups : List ℕ
  talkgroupMappings : List (ℕ × ℕ)
  timeslot_valid : timeslot = 1 ∨ timeslot = 2
  mappings_valid : ∀ m ∈ talkgroupMappings, m.1 ≠ 0 ∧ m.2 ≠ 0

namespace RoutingConfig

variable (cfg : RoutingConfig)

/-- A later mapping of a P25 talkgroup replaces an earlier one. -/
def p25ToBmTalkgroups : Dict ℕ ℕ :=
  cfg.talkgroupMappings.foldl (fun d m => d.set m.1 m.2) Dict.empty

/-- A later mapping of a BrandMeister talkgroup replaces an earlier one. -/
def bmToP25Talkgroups : Dict ℕ ℕ :=
  cfg.talkgroupMappings.foldl (fun d m => d.set m.2 m.1) Dict.empty

theorem mem_of_foldl_set {κ ν : Type} [DecidableEq κ] (l : List (κ × ν)) (d : Dict κ ν) {k : κ}
    {v : ν} (h : (l.foldl (fun d e => d.set e.1 e.2) d).get? k = some v) :
    (k, v) ∈ l ∨ d.get? k = some v := by
  induction l generalizing d with
  | nil => exact Or.inr h
  | cons e l ih =>
    rcases ih _ h with hm | hd
    · exact Or.inl (List.mem_cons_of_mem _ hm)
    · rw [Dict.get?_set] at hd
      split_ifs at hd with hk
      · exact Or.inl (by rw [hk, ← Option.some.inj hd]; exact List.mem_cons_self)
      · exact Or.inr hd

theorem mem_of_p25ToBm {p25 bm : ℕ} (h : cfg.p25ToBmTalkgroups.get? p25 = some bm) :
    (p25, bm) ∈ cfg.talkgroupMappings :=
  (mem_of_foldl_set _ _ h).resolve_right fun hn => Option.some_ne_none _ hn.symm

theorem mem_of_bmToP25 {p25 bm : ℕ} (h : cfg.bmToP25Talkgroups.get? bm = some p25) :
    (p25, bm) ∈ cfg.talkgroupMappings := by
  have hm := (mem_of_foldl_set (cfg.talkgroupMappings.map Prod.swap) Dict.empty (k := bm)
    (v := p25) (by rw [List.foldl_map]; exact h)).resolve_right fun hn =>
      Option.some_ne_none _ hn.symm
  obtain ⟨m, hm, he⟩ := List.mem_map.mp hm
  rw [← Prod.swap_swap m, he] at hm
  exact hm

/-- The time after which a dynamic talkgroup expires. -/
def dynamicTimeout : Time := seconds cfg.dynamicTimeoutSeconds

/-- The product is a 32-bit one. -/
def rfPriorityHoldoff : Time := milliseconds (max 250 (cfg.rfPriorityHoldoffSeconds * 1000 % 2 ^ 32))

/-- The first static talkgroup, `0` when there is none. -/
def primaryStaticTalkgroup : ℕ := cfg.staticTalkgroups.headD 0

end RoutingConfig

/-- The link-control coding of the DVM library: the full link control of headers and terminators
and the link control embedded in the voice frames of a call. -/
structure VoiceCodec (lc emb : Type) where
  decode : Payload → DataType → Option lc
  encode : lc → Payload → DataType → Payload
  isGroup : lc → Bool
  getDstId : lc → ℕ
  setDstId : lc → ℕ → lc
  create : FLCO → ℕ → ℕ → lc
  setLC : emb → lc → emb
  getData : emb → Payload → ℕ → Payload × UInt8
  setLCSS : Payload → UInt8 → Payload

/-- What the bridge remembers of a dynamic talkgroup. The time of the last BrandMeister frame is
`none` for the first point of time the clock can express; a new entry has the clock's zero. -/
structure DynamicTalkgroupState where
  lastSeenSteady : Time
  lastBmSeenSteady : Option Time := some 0
  expiredPendingBmRelease : Bool := false
  deriving DecidableEq

/-- The dynamic talkgroups. -/
abbrev DynamicTalkgroups := Dict ℕ DynamicTalkgroupState

/-- The parts outside this repository, and the order in which the dynamic talkgroups are visited. -/
structure Environment (lc emb : Type) where
  packetData : Codec
  voice : VoiceCodec lc emb
  order : List (ℕ × DynamicTalkgroupState) → List (ℕ × DynamicTalkgroupState)

/-- A terminator that waits for the call to continue. -/
structure PendingTerminator where
  data : NetData
  srcId : ℕ
  dstId : ℕ
  flco : FLCO
  expiresAt : Time
  deriving DecidableEq

/-- The header a slot passed last. -/
structure RecentHeader where
  srcId : ℕ
  dstId : ℕ
  slotNo : ℕ
  flco : FLCO
  expiresAt : Time
  deriving DecidableEq

/-- One value for each slot. -/
abbrev Slots (α : Type) := Fin 2 → α

/-- Where a slot is in the arrays. -/
def slotIndex (slotNo : ℕ) : Option (Fin 2) :=
  if h : slotNo - 1 < 2 then some ⟨slotNo - 1, h⟩ else none

/-- The variables of the loop. -/
structure State (emb : Type) where
  dynamicTalkgroups : DynamicTalkgroups
  rfPriorityTalkgroups : ExpiryMap ℕ
  recentOutboundBmFrames : ExpiryMap UInt64
  recentFneFrames : ExpiryMap UInt64
  recentInboundBmFrames : ExpiryMap UInt64
  recentBmHeaders : Slots (Option RecentHeader)
  pendingInboundTerminators : Slots (Option PendingTerminator)
  outboundMappedEmbeddedLC : Slots emb
  inboundMappedEmbeddedLC : Slots emb
  lastDisconnectCommand : Option Time
  bmPacketData : Reassembler

/-- What the loop does. -/
inductive Effect
  /-- A frame of the FNE is written to BrandMeister. -/
  | forwarded (data : NetData)
  /-- A frame of the unlink sequence is written to BrandMeister. -/
  | unlinked (data : NetData)
  /-- The BrandMeister connection is closed and opened again. -/
  | reconnected
  /-- A frame of BrandMeister is written to the FNE. -/
  | written (data : NetData)
  /-- A terminator waits. -/
  | delayed (slot : Fin 2) (pending : PendingTerminator)
  /-- A waiting terminator is dropped because its call continues. -/
  | merged (slot : Fin 2) (pending : PendingTerminator)
  /-- A waiting terminator is written to the FNE. -/
  | flushed (slot : Fin 2) (pending : PendingTerminator)
  /-- A packet is handed to the SMS subsystem. -/
  | received (packet : Packet)
  /-- The gateway is told its talkgroup. -/
  | published (talkgroup : ℕ)
  /-- The trigger file of a new dynamic talkgroup is written. -/
  | activeTrigger (talkgroup : ℕ)
  /-- The trigger file of an expired dynamic talkgroup is written. -/
  | expiryTrigger (talkgroup : ℕ)
  deriving DecidableEq

/-- The start of the loop, with the dynamic talkgroups a gateway restored. -/
def State.init {emb : Type} (embeddedLC : emb) (restored : Dict ℕ Time) : State emb where
  dynamicTalkgroups := restored.filterMap fun _ lastSeen => some { lastSeenSteady := lastSeen }
  rfPriorityTalkgroups := ExpiryMap.empty
  recentOutboundBmFrames := ExpiryMap.empty
  recentFneFrames := ExpiryMap.empty
  recentInboundBmFrames := ExpiryMap.empty
  recentBmHeaders := fun _ => none
  pendingInboundTerminators := fun _ => none
  outboundMappedEmbeddedLC := fun _ => embeddedLC
  inboundMappedEmbeddedLC := fun _ => embeddedLC
  lastDisconnectCommand := none
  bmPacketData := Reassembler.init

/-- Private calls. -/
def isPrivate (data : NetData) : Bool := data.flco ≠ .GROUP

/-- The types that carry a full link control. -/
def isVoiceControl (data : NetData) : Bool :=
  data.dataType = .VOICE_LC_HEADER ∨ data.dataType = .TERMINATOR_WITH_LC

end Routing
