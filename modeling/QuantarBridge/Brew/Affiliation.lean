import QuantarBridge.Brew.Router
import QuantarBridge.Lib.Run

/-!
# Affiliations of the server

Three kinds of threads change the talkgroups under a lock and tell the server about it after they
have released the lock. The server keeps the affiliations of each radio as the messages arrive.

* `RoutingOp`: the operations, each with the calls of `_send_affiliation` that follow it;
* `Affiliations`, `affiliationStep`: the threads, the calls they have still to make, and the server;
* `agrees_iff_lastCurrent`: one talkgroup after any interleaving;
* `affiliated_iff`: **when the server agrees with the router**.
-/

set_option autoImplicit false

namespace Brew

open Lib

/-- Whether talkgroups are affiliated or given up. -/
inductive MessageType
  | affiliate | deaffiliate
  deriving DecidableEq

/-- A call of `_send_affiliation`. -/
structure Announcement where
  messageType : MessageType
  groups : Finset ℕ
  deriving DecidableEq

/-! ## Operations -/

/-- A call from the P25 side begins. -/
def beginUplink (p25Destination : ℕ) (nowMonotonic nowEpoch : Time) (r : TalkgroupRouter) :
    TalkgroupRouter × List Announcement :=
  match r.brewForP25 p25Destination with
  | none => (r, [])
  | some brewDestination =>
    let (created, r') := r.activate brewDestination nowMonotonic nowEpoch
    let dynamicActive := (r'.dynamic.get? brewDestination).isSome
    (r', if dynamicActive = true ∧ created = true then [⟨.affiliate, {brewDestination}⟩] else [])

/-- The disconnect talkgroup is called. -/
def clearDynamicRoutes (r : TalkgroupRouter) : TalkgroupRouter × List Announcement :=
  let (cleared, r') := r.clear
  (r', if cleared = ∅ then [] else [⟨.deaffiliate, cleared⟩])

/-- Routes time out. -/
def expireRoutes (now : Time) (r : TalkgroupRouter) : TalkgroupRouter × List Announcement :=
  let (expired, r') := r.expire now
  (r', if expired = ∅ then [] else [⟨.deaffiliate, expired⟩])

/-- The configuration file has changed. -/
def reloadRouting (config : RoutingConfig) (r : TalkgroupRouter) :
    TalkgroupRouter × List Announcement :=
  let ((gone, added), r') := r.reload config
  (r', [⟨.deaffiliate, gone⟩, ⟨.affiliate, added⟩])

/-- An operation of a thread. -/
inductive RoutingOp
  | beginUplink (p25Destination : ℕ) (nowMonotonic nowEpoch : Time)
  | clearDynamicRoutes
  | expire (now : Time)
  | reload (config : RoutingConfig)

/-- The part under the lock, and the calls that follow. -/
def RoutingOp.run : RoutingOp → TalkgroupRouter → TalkgroupRouter × List Announcement
  | .beginUplink p25Destination now epoch => Brew.beginUplink p25Destination now epoch
  | .clearDynamicRoutes => Brew.clearDynamicRoutes
  | .expire now => expireRoutes now
  | .reload config => reloadRouting config

/-- The threads. There is one receiver for each input. -/
inductive Worker
  | uplink
  | udpReceive (input : ℕ)
  | routing
  deriving DecidableEq

/-- The operations of a thread. -/
def Worker.performs : Worker → RoutingOp → Bool
  | .uplink, .beginUplink _ _ _ => true
  | .udpReceive _, .clearDynamicRoutes => true
  | .routing, .expire _ => true
  | .routing, .reload _ => true
  | _, _ => false

/-- **An operation announces** every talkgroup that it changes. -/
theorem groups_eq_of_not_announced {op : RoutingOp} {r : TalkgroupRouter} {tg : ℕ}
    (h : ∀ a ∈ (op.run r).2, tg ∉ a.groups) : tg ∈ (op.run r).1.groups ↔ tg ∈ r.groups := by
  cases op with
  | beginUplink p25Destination now epoch =>
    have h' : ∀ a ∈ (Brew.beginUplink p25Destination now epoch r).2, tg ∉ a.groups := h
    show tg ∈ (Brew.beginUplink p25Destination now epoch r).1.groups ↔ _
    unfold Brew.beginUplink at h' ⊢
    cases hb : r.brewForP25 p25Destination with
    | none => exact Iff.rfl
    | some brewDestination =>
      rw [hb] at h'
      dsimp only at h' ⊢
      rw [TalkgroupRouter.mem_groups_activate]
      refine ⟨fun hg => hg.elim (fun he => ?_) id, Or.inr⟩
      by_contra hno
      -- the route is new, so the talkgroup is announced
      have hcreated := (TalkgroupRouter.activate_created_iff brewDestination now epoch).mpr (he ▸ hno)
      have hdynamic : ((r.activate brewDestination now epoch).2.dynamic.get?
          brewDestination).isSome = true := by
        have hmem := (TalkgroupRouter.mem_groups_activate (r := r) brewDestination brewDestination
          now epoch).mpr (Or.inl rfl)
        rcases TalkgroupRouter.mem_groups_iff.mp hmem with hs | ⟨route, hr⟩
        · unfold TalkgroupRouter.activate at hs
          split_ifs at hs with hstatic
          · exact absurd (TalkgroupRouter.mem_groups_iff.mpr (Or.inl hs)) (he ▸ hno)
          · exact absurd hs hstatic
        · exact Option.isSome_iff_exists.mpr ⟨route, hr⟩
      rw [if_pos ⟨hdynamic, hcreated⟩] at h'
      exact h' _ List.mem_cons_self (Finset.mem_singleton.mpr he)
  | clearDynamicRoutes =>
    have h' : ∀ a ∈ (Brew.clearDynamicRoutes r).2, tg ∉ a.groups := h
    show tg ∈ r.clear.2.groups ↔ _
    rw [TalkgroupRouter.mem_groups_clear]
    refine and_iff_left fun hmem => ?_
    unfold Brew.clearDynamicRoutes at h'
    have hne : r.clear.1 ≠ ∅ := Finset.ne_empty_of_mem hmem
    dsimp only at h'
    rw [if_neg hne] at h'
    exact h' _ List.mem_cons_self hmem
  | expire now =>
    have h' : ∀ a ∈ (expireRoutes now r).2, tg ∉ a.groups := h
    show tg ∈ (r.expire now).2.groups ↔ _
    rw [TalkgroupRouter.mem_groups_expire]
    refine and_iff_left fun hmem => ?_
    unfold expireRoutes at h'
    have hne : (r.expire now).1 ≠ ∅ := Finset.ne_empty_of_mem hmem
    dsimp only at h'
    rw [if_neg hne] at h'
    exact h' _ List.mem_cons_self hmem
  | reload config =>
    have hgone : tg ∉ r.groups \ (r.configured config).groups := h _ List.mem_cons_self
    have hadded : tg ∉ (r.configured config).groups \ r.groups :=
      h _ (List.mem_cons_of_mem _ List.mem_cons_self)
    rw [Finset.mem_sdiff] at hgone hadded
    show tg ∈ (r.configured config).groups ↔ _
    tauto

/-! ## Threads and the server -/

/-- The router, the calls that threads have still to make, and what the server holds for each
radio. -/
structure Affiliations where
  router : TalkgroupRouter
  pending : List (Worker × Announcement)
  server : ℕ → Finset ℕ

/-- The server holds the talkgroups of the router, and no thread is at work. -/
def Affiliations.init (localIssis : Finset ℕ) (router : TalkgroupRouter) : Affiliations where
  router := router
  pending := []
  server := fun issi => if issi ∈ localIssis then router.groups else ∅

/-- A subscriber message arrives. -/
def MessageType.apply : MessageType → Finset ℕ → Finset ℕ → Finset ℕ
  | .affiliate, groups, held => held ∪ groups
  | .deaffiliate, groups, held => held \ groups

/-- Send a message for every local radio. -/
def sendAffiliation (localIssis : Finset ℕ) (a : Announcement) (server : ℕ → Finset ℕ) :
    ℕ → Finset ℕ :=
  if a.groups = ∅ then server
  else fun issi =>
    if issi ∈ localIssis then a.messageType.apply a.groups (server issi) else server issi

/-- What happens to the routes and to the calls that announce them. -/
inductive AffiliationEvent
  /-- A thread that has made all its calls performs its next operation. -/
  | update (w : Worker) (op : RoutingOp)
  /-- A thread makes its next call. -/
  | send (w : Worker)

/-- A call, and the talkgroups of the router while it is made. -/
structure Delivery where
  announcement : Announcement
  routed : Finset ℕ

/-- One step of a thread. -/
def affiliationStep (localIssis : Finset ℕ) (s : Affiliations) :
    AffiliationEvent → Affiliations × List Delivery
  | .update w op =>
    if (s.pending.any fun p => p.1 = w) ∨ w.performs op = false then (s, [])
    else
      ({ s with
        router := (op.run s.router).1
        pending := s.pending ++ (op.run s.router).2.map (Prod.mk w) }, [])
  | .send w =>
    match s.pending.find? fun p => p.1 = w with
    | none => (s, [])
    | some (_, a) =>
      ({ s with
        pending := s.pending.eraseP fun p => p.1 = w
        server := sendAffiliation localIssis a s.server }, [⟨a, s.router.groups⟩])

theorem eq_or_mem_eraseP {α : Type} {f : α → Bool} {l : List α} {p q : α} (h : l.find? f = some p)
    (hq : q ∈ l) : q = p ∨ q ∈ l.eraseP f := by
  obtain ⟨hp, front, back, rfl, hfront⟩ := List.find?_eq_some_iff_append.mp h
  have herase : (front ++ p :: back).eraseP f = front ++ back := by
    rw [List.eraseP_append_right _ (fun b hb => by simpa using hfront b hb), List.eraseP_cons_of_pos hp]
  rw [herase]
  rcases List.mem_append.mp hq with hq | hq
  · exact Or.inr (List.mem_append_left _ hq)
  · rcases List.mem_cons.mp hq with hq | hq
    · exact Or.inl hq
    · exact Or.inr (List.mem_append_right _ hq)

/-! ## One talkgroup -/

/-- The message says what the router says while it is sent. -/
def Delivery.Current (tg : ℕ) (d : Delivery) : Prop :=
  d.announcement.messageType = .affiliate ↔ tg ∈ d.routed

/-- The last message that names the talkgroup. -/
def lastNaming (tg : ℕ) (deliveries : List Delivery) : Option Delivery :=
  deliveries.reverse.find? fun d => tg ∈ d.announcement.groups

/-- The last message that names the talkgroup was not overtaken by another update. -/
def LastCurrent (tg : ℕ) (deliveries : List Delivery) : Prop :=
  ∀ d, lastNaming tg deliveries = some d → d.Current tg

theorem lastCurrent_concat_iff (tg : ℕ) (deliveries : List Delivery) (d : Delivery) :
    LastCurrent tg (deliveries ++ [d]) ↔
      if tg ∈ d.announcement.groups then d.Current tg else LastCurrent tg deliveries := by
  unfold LastCurrent lastNaming
  rw [List.reverse_append, List.reverse_singleton, List.singleton_append, List.find?_cons]
  by_cases hm : tg ∈ d.announcement.groups
  · simp [hm]
  · simp [hm]

theorem mem_sendAffiliation_iff {localIssis : Finset ℕ} {issi : ℕ} (hissi : issi ∈ localIssis)
    (a : Announcement) (server : ℕ → Finset ℕ) (tg : ℕ) :
    tg ∈ sendAffiliation localIssis a server issi ↔
      if tg ∈ a.groups then a.messageType = .affiliate else tg ∈ server issi := by
  unfold sendAffiliation
  split_ifs with he hm hm
  · rw [he] at hm
    exact absurd hm (Finset.notMem_empty tg)
  · exact Iff.rfl
  · dsimp only
    rw [if_pos hissi]
    cases a.messageType with
    | affiliate => simp [MessageType.apply, hm]
    | deaffiliate => simp [MessageType.apply, hm]
  · dsimp only
    rw [if_pos hissi]
    cases a.messageType with
    | affiliate => simp [MessageType.apply, hm]
    | deaffiliate => simp [MessageType.apply, hm]

section Runs

variable (localIssis : Finset ℕ) (router : TalkgroupRouter)

/-- **One talkgroup.** When no call that names it is left, the server agrees with the router exactly
when the last such call was not overtaken. -/
theorem agrees_iff_lastCurrent {issi : ℕ} (hissi : issi ∈ localIssis) (tg : ℕ)
    (events : List AffiliationEvent) :
    let s := Run.final (affiliationStep localIssis) (.init localIssis router) events
    let deliveries := Run.outputs (affiliationStep localIssis) (.init localIssis router) events
    (∀ p ∈ s.pending, tg ∉ p.2.groups) →
      ((tg ∈ s.server issi ↔ tg ∈ s.router.groups) ↔ LastCurrent tg deliveries) := by
  induction events using List.reverseRecOn with
  | nil =>
    intro s deliveries _
    have hserver : s.server issi = s.router.groups := if_pos hissi
    rw [hserver]
    exact iff_of_true Iff.rfl fun d hd => absurd hd (Option.some_ne_none d).symm
  | append_singleton events e ih =>
    dsimp only at ih ⊢
    rw [Run.final_concat, Run.outputs_append_cons, Run.outputs_nil, List.append_nil]
    generalize Run.final (affiliationStep localIssis) (.init localIssis router) events = s at ih ⊢
    generalize Run.outputs (affiliationStep localIssis) (.init localIssis router) events = ds at ih ⊢
    cases e with
    | update w op =>
      unfold affiliationStep
      dsimp only
      split_ifs with hbusy
      · rw [List.append_nil]
        exact ih
      · intro hno
        rw [List.append_nil]
        dsimp only at hno ⊢
        have hbefore : ∀ p ∈ s.pending, tg ∉ p.2.groups := fun p hp =>
          hno p (List.mem_append_left _ hp)
        have hafter : ∀ a ∈ (op.run s.router).2, tg ∉ a.groups := fun a ha =>
          hno (w, a) (List.mem_append_right _ (List.mem_map.mpr ⟨a, ha, rfl⟩))
        rw [groups_eq_of_not_announced hafter]
        exact ih hbefore
    | send w =>
      unfold affiliationStep
      dsimp only
      cases hfind : s.pending.find? fun p => p.1 = w with
      | none =>
        dsimp only
        rw [List.append_nil]
        exact ih
      | some p =>
        intro hno
        dsimp only at hno ⊢
        rw [mem_sendAffiliation_iff hissi, lastCurrent_concat_iff]
        by_cases hm : tg ∈ p.2.groups
        · rw [if_pos hm, if_pos hm]
          exact Iff.rfl
        · rw [if_neg hm, if_neg hm]
          -- the call that was made does not name the talkgroup either
          refine ih fun q hq => ?_
          rcases eq_or_mem_eraseP hfind hq with rfl | hq
          · exact hm
          · exact hno q hq

/-- **The server agrees with the router** once all calls are made, exactly when the last call for each
talkgroup was made while the router was still as the call says. -/
theorem affiliated_iff (events : List AffiliationEvent)
    (hdone : (Run.final (affiliationStep localIssis) (.init localIssis router) events).pending = [])
    (issi : ℕ) (hissi : issi ∈ localIssis) :
    (Run.final (affiliationStep localIssis) (.init localIssis router) events).server issi =
        (Run.final (affiliationStep localIssis) (.init localIssis router) events).router.groups ↔
      ∀ tg, LastCurrent tg
        (Run.outputs (affiliationStep localIssis) (.init localIssis router) events) := by
  rw [Finset.ext_iff]
  refine forall_congr' fun tg => ?_
  refine agrees_iff_lastCurrent localIssis router hissi tg events fun p hp => ?_
  rw [hdone] at hp
  exact absurd hp List.not_mem_nil

end Runs

/-! ## Two threads and one talkgroup -/

/-- No talkgroup is static. -/
def quietRouter : TalkgroupRouter where
  config := ⟨Dict.empty, Dict.empty, ∅, 600, 4000⟩
  dynamic := Dict.empty
  disjoint := fun _ _ h => absurd h (Option.some_ne_none _).symm

/-- A call opens talkgroup 5, and the disconnect talkgroup clears it. -/
def orderedThreads : List AffiliationEvent :=
  [.update .uplink (.beginUplink 5 1 1), .send .uplink, .update (.udpReceive 0) .clearDynamicRoutes,
    .send (.udpReceive 0)]

theorem affiliated_ordered :
    (Run.final (affiliationStep {7}) (.init {7} quietRouter) orderedThreads).server 7 =
        (Run.final (affiliationStep {7}) (.init {7} quietRouter) orderedThreads).router.groups ↔
      ∀ tg, LastCurrent tg
        (Run.outputs (affiliationStep {7}) (.init {7} quietRouter) orderedThreads) :=
  affiliated_iff {7} quietRouter orderedThreads (by decide +kernel) 7 (by decide)

/-- **A call is overtaken**: talkgroup 5 is cleared before the server hears that it was opened. -/
theorem not_affiliated_overtaken : ¬ ∀ (localIssis : Finset ℕ) (router : TalkgroupRouter)
    (events : List AffiliationEvent),
    (Run.final (affiliationStep localIssis) (.init localIssis router) events).pending = [] →
    ∀ issi ∈ localIssis,
      (Run.final (affiliationStep localIssis) (.init localIssis router) events).server issi =
        (Run.final (affiliationStep localIssis) (.init localIssis router) events).router.groups := by
  intro h
  have heq := h {7} quietRouter [.update .uplink (.beginUplink 5 1 1),
    .update (.udpReceive 0) .clearDynamicRoutes, .send (.udpReceive 0), .send .uplink]
    (by decide +kernel) 7 (by decide)
  exact absurd heq (by decide +kernel)

end Brew
