import QuantarBridge.Sms.Replies

/-!
# All or nothing

A received text becomes one new file of the P25 outbox, its route is used up and its key is
remembered, or nothing of this happens. The published files are those that were renamed into place:
a temporary file is none of them.

* `RouteDocument.endsAt`, `Serves`, `Follows`: the time at which a route ends, the routes of a service, and
  the route that its reply follows;
* `Follows` is what the scan of the directory finds (`follows_find`);
* `Stored`, `Untouched`: what a queued text does, and what any other leaves;
* `queueBrandmeisterText_atomic`: **all or nothing**, whatever the file operations do.
-/

set_option autoImplicit false

namespace Sms

open Lib

/-- The published files of the P25 outbox. -/
abbrev QueuedTexts := Dict Bytes OutboxText

/-- What an effect does to the published files. -/
def FileEffect.publishInto (outbox : QueuedTexts) : FileEffect → QueuedTexts
  | .publish name file => outbox.set name file
  | _ => outbox

/-- The published files after a call. -/
def QueueOutcome.outboxAfter (q : QueueOutcome) (outbox : QueuedTexts) : QueuedTexts :=
  q.effects.foldl FileEffect.publishInto outbox

/-! ## Routes -/

/-- The time at which a route ends. A route without one ends some time after its creation. -/
def RouteDocument.endsAt (route : RouteDocument) : Option ℕ := do
  let createdAtMs ← route.createdAtMs.getOr 0
  route.expiresAtMs.getOr
    (if 0 < createdAtMs then (createdAtMs + kServiceReplyRouteMaxAgeMs) % 2 ^ 64 else 0)

/-- The route has ended. -/
def RouteFile.Expired (nowMs : ℕ) (file : RouteFile) : Prop :=
  ∃ route e, file.document = some route ∧ route.endsAt = some e ∧ e ≤ nowMs

/-- The file is a route of the service that has not ended. -/
def Serves (routes : RouteDirectory) (nowMs serviceRid : ℕ) (x : ServiceReplyRoute) : Prop :=
  ∃ route e, routes.get? x.path = some ⟨true, some route⟩ ∧ hasJsonExtension x.path = true ∧
    route.endsAt = some e ∧ nowMs < e ∧ route.serviceRid.getOr 0 = some serviceRid ∧
    route.requesterRid.getOr 0 = some x.requesterRid ∧ x.requesterRid ≠ 0

/-- The route a reply of a service follows: the first one by its file name. Without a directory and
for no service there is none. -/
def Follows (routePathSet : Bool) (routes : RouteDirectory) (nowMs serviceRid : ℕ) :
    Option ServiceReplyRoute → Prop
  | some x => routePathSet = true ∧ serviceRid ≠ 0 ∧ Serves routes nowMs serviceRid x ∧
      ∀ y, Serves routes nowMs serviceRid y → Bytes.leb x.path y.path = true
  | none => routePathSet = false ∨ serviceRid = 0 ∨ ∀ y, ¬ Serves routes nowMs serviceRid y

section Examine

variable (serviceRid nowMs : ℕ) (route : RouteDocument)

theorem examine_eq : examine serviceRid nowMs (some route) =
    match route.endsAt with
    | none => .skip
    | some e =>
      if e ≤ nowMs then .expired
      else match route.serviceRid.getOr 0, route.requesterRid.getOr 0 with
        | some service, some requester =>
          if service = serviceRid ∧ requester ≠ 0 then .route requester else .skip
        | _, _ => .skip := by
  have hends : ∀ e, (e = 0 ∨ e ≤ nowMs) ↔ e ≤ nowMs := by omega
  simp only [examine, RouteDocument.endsAt, Option.bind_eq_bind, Option.bind_some]
  cases route.createdAtMs.getOr 0 with
  | none => rfl
  | some created =>
    simp only [Option.bind_some]
    cases route.expiresAtMs.getOr
        (if 0 < created then (created + kServiceReplyRouteMaxAgeMs) % 2 ^ 64 else 0) with
    | none => rfl
    | some e =>
      simp only [Option.bind_some, hends]
      by_cases hended : e ≤ nowMs
      · rw [if_pos hended, if_pos hended]
        rfl
      · rw [if_neg hended, if_neg hended]
        cases route.serviceRid.getOr 0 <;> cases route.requesterRid.getOr 0 <;> rfl

theorem examine_route_iff (requester : ℕ) : examine serviceRid nowMs (some route) = .route requester ↔
    ∃ e, route.endsAt = some e ∧ nowMs < e ∧ route.serviceRid.getOr 0 = some serviceRid ∧
      route.requesterRid.getOr 0 = some requester ∧ requester ≠ 0 := by
  rw [examine_eq]
  cases route.endsAt with
  | none => simp
  | some e =>
    cases route.serviceRid.getOr 0 <;> cases route.requesterRid.getOr 0
    all_goals
      simp only [Option.some.injEq, exists_eq_left']
      split_ifs
    all_goals grind

theorem examine_expired_iff : examine serviceRid nowMs (some route) = .expired ↔
    ∃ e, route.endsAt = some e ∧ e ≤ nowMs := by
  rw [examine_eq]
  cases route.endsAt with
  | none => simp
  | some e =>
    cases route.serviceRid.getOr 0 <;> cases route.requesterRid.getOr 0
    all_goals
      simp only [Option.some.injEq, exists_eq_left']
      split_ifs
    all_goals grind

end Examine

section Find

variable {routes : RouteDirectory} {serviceRid nowMs : ℕ} {o : FileOutcomes}

theorem usableRoute_serves (hread : ∀ path, o.routeReadable path = true) {e : Bytes × RouteFile}
    (he : e ∈ routeFiles routes o) (x : ServiceReplyRoute) :
    usableRoute serviceRid nowMs o.routeReadable e = some x ↔
      e.1 = x.path ∧ Serves routes nowMs serviceRid x := by
  obtain ⟨path, regular, document⟩ := e
  have hmem : (path, RouteFile.mk regular document) ∈ listing routes := by
    unfold routeFiles at he
    split_ifs at he
    · exact he
    · cases he
  obtain ⟨hget, hregular, hjson⟩ := (mem_listing_iff _).mp hmem
  dsimp only at hget hregular hjson
  obtain rfl := hregular
  have hverdict : verdictOf serviceRid nowMs o.routeReadable (path, ⟨true, document⟩) =
      examine serviceRid nowMs document := by
    unfold verdictOf
    rw [if_pos (hread path)]
  have husable : usableRoute serviceRid nowMs o.routeReadable (path, ⟨true, document⟩) = some x ↔
      path = x.path ∧ examine serviceRid nowMs document = .route x.requesterRid := by
    obtain ⟨requester, path'⟩ := x
    unfold usableRoute
    rw [hverdict]
    cases examine serviceRid nowMs document with
    | route r => simp [and_comm]
    | expired => simp
    | skip => simp
  rw [husable]
  refine and_congr_right fun hpath => ?_
  subst hpath
  cases document with
  | none =>
    constructor
    · intro h
      cases h
    · rintro ⟨route, -, hget', -⟩
      rw [hget] at hget'
      cases hget'
  | some route =>
    rw [examine_route_iff]
    constructor
    · rintro ⟨e, hends, hlater, hservice, hrequester, hne⟩
      exact ⟨route, e, hget, hjson, hends, hlater, hservice, hrequester, hne⟩
    · rintro ⟨route', e, hget', -, hends, hlater, hservice, hrequester, hne⟩
      rw [hget] at hget'
      cases hget'
      exact ⟨e, hends, hlater, hservice, hrequester, hne⟩

theorem Serves.mem_routeFiles (hlist : o.routesListed = true) {x : ServiceReplyRoute}
    (h : Serves routes nowMs serviceRid x) : ∃ file, (x.path, file) ∈ routeFiles routes o := by
  obtain ⟨route, -, hget, hjson, -⟩ := h
  refine ⟨⟨true, some route⟩, ?_⟩
  unfold routeFiles
  rw [if_pos hlist]
  exact (mem_listing_iff _).mpr ⟨hget, rfl, hjson⟩

/-- **The scan finds the route** that the reply follows. -/
theorem follows_find (routePathSet : Bool) (hlist : o.routesListed = true)
    (hread : ∀ path, o.routeReadable path = true) : Follows routePathSet routes nowMs serviceRid
      (findServiceReplyRoute routePathSet routes serviceRid nowMs o).2.2 := by
  unfold findServiceReplyRoute
  by_cases hguard : serviceRid = 0 ∨ routePathSet = false
  · rw [if_pos hguard]
    show routePathSet = false ∨ serviceRid = 0 ∨ _
    tauto
  · rw [if_neg hguard]
    obtain ⟨hservice, hset⟩ := not_or.mp hguard
    dsimp only
    rw [scanRoutes_snd, List.head?_filterMap]
    cases hfound : (routeFiles routes o).findSome?
        (usableRoute serviceRid nowMs o.routeReadable) with
    | none =>
      refine Or.inr (Or.inr fun y hy => ?_)
      obtain ⟨file, hmem⟩ := hy.mem_routeFiles hlist
      have hnone := List.findSome?_eq_none_iff.mp hfound _ hmem
      rw [(usableRoute_serves hread hmem y).mpr ⟨rfl, hy⟩] at hnone
      cases hnone
    | some x =>
      obtain ⟨before, e, after, hfiles, hx, hbefore⟩ := List.findSome?_eq_some_iff.mp hfound
      have hmem : e ∈ routeFiles routes o := by
        rw [hfiles]
        exact List.mem_append_right _ List.mem_cons_self
      obtain ⟨hpath, hserves⟩ := (usableRoute_serves hread hmem x).mp hx
      refine ⟨Bool.eq_true_of_not_eq_false hset, hservice, hserves, fun y hy => ?_⟩
      obtain ⟨file, hmemy⟩ := hy.mem_routeFiles hlist
      have husable := (usableRoute_serves hread hmemy y).mpr ⟨rfl, hy⟩
      have hsorted : (routeFiles routes o).Pairwise NameLe := by
        unfold routeFiles
        rw [if_pos hlist]
        exact listing_sorted
      rw [hfiles, List.pairwise_append] at hsorted
      rw [hfiles, List.mem_append, List.mem_cons] at hmemy
      rw [← hpath]
      rcases hmemy with hmemy | rfl | hmemy
      · rw [hbefore _ hmemy] at husable
        cases husable
      · exact (Bytes.leb_iff _ _).mpr le_rfl
      · exact List.rel_of_pairwise_cons hsorted.2.1 hmemy

theorem find_get?_iff (routePathSet : Bool) {path : Bytes} {file : RouteFile}
    (h : ¬ file.Expired nowMs) :
    (findServiceReplyRoute routePathSet routes serviceRid nowMs o).1.get? path = some file ↔
      routes.get? path = some file := by
  refine ⟨find_get?_of _ _ _ _ _ routePathSet o, fun hget => ?_⟩
  refine find_get? _ _ _ _ _ routePathSet o hget fun hexpired => h ?_
  unfold verdictOf at hexpired
  split_ifs at hexpired
  · cases hdocument : file.document with
    | none =>
      rw [hdocument] at hexpired
      cases hexpired
    | some route =>
      rw [hdocument, examine_expired_iff] at hexpired
      obtain ⟨e, hends, he⟩ := hexpired
      exact ⟨route, e, hdocument, hends, he⟩
  · cases hexpired

end Find

/-! ## Calls -/

/-- The keys that are still remembered are remembered as before. -/
def SameKeys (now : Time) (recent recent' : ExpiryMap Bytes) (key : Bytes) : Prop :=
  ∀ e, now < e → (recent'.get? key = some e ↔ recent.get? key = some e)

/-- A text was queued: one file is published, its route is removed when the removal succeeds, and its
key is remembered. Nothing else changes, but what has ended. -/
structure Stored (s : TextState) (outbox : QueuedTexts) (c : Clocks) (o : FileOutcomes)
    (sourceRid targetRid : ℕ) (text : Bytes) (route : Option ServiceReplyRoute) (q : QueueOutcome) :
    Prop where
  file : q.outboxAfter outbox = outbox.set (outboxName c.nowMs s.eventCounter)
    ⟨sourceRid, (route.map (·.requesterRid)).getD targetRid, bytesToHex text⟩
  one : outboxName c.nowMs s.eventCounter ∉ outbox.keys →
    (q.outboxAfter outbox).keys.length = outbox.keys.length + 1
  consumed : o.routeConsumed = true → ∀ x ∈ route, q.state.routes.get? x.path = none
  routes : ∀ path file, s.routes.get? path = some file → ¬ file.Expired c.nowMs →
    (o.routeConsumed = true → path ∉ route.map (·.path)) → q.state.routes.get? path = some file
  noRoute : ∀ path file, q.state.routes.get? path = some file → s.routes.get? path = some file
  remembered : q.state.recentBmTmsReplies.get? (replyKey sourceRid targetRid text) =
    some (c.now + kBmTmsReplyDuplicateWindow)
  keys : ∀ key, key ≠ replyKey sourceRid targetRid text →
    SameKeys c.now s.recentBmTmsReplies q.state.recentBmTmsReplies key

/-- A text was not queued: nothing changes, but what has ended. -/
structure Untouched (s : TextState) (outbox : QueuedTexts) (c : Clocks) (q : QueueOutcome) :
    Prop where
  file : q.outboxAfter outbox = outbox
  routes : ∀ path file, ¬ file.Expired c.nowMs →
    (q.state.routes.get? path = some file ↔ s.routes.get? path = some file)
  keys : ∀ key, SameKeys c.now s.recentBmTmsReplies q.state.recentBmTmsReplies key

theorem publishInto_removed {effects : List FileEffect}
    (h : ∀ e ∈ effects, ∃ path, e = .removeExpired path) (outbox : QueuedTexts) :
    effects.foldl FileEffect.publishInto outbox = outbox := by
  induction effects with
  | nil => rfl
  | cons e effects ih =>
    obtain ⟨⟨path, rfl⟩, hrest⟩ := List.forall_mem_cons.mp h
    exact ih hrest

theorem sameKeys_purge (recent : ExpiryMap Bytes) (now : Time) (key : Bytes) :
    SameKeys now recent (recent.purge now) key := by
  intro e he
  show (recent.filter _).get? key = some e ↔ _
  rw [Dict.get?_filter, Option.filter_eq_some_iff, decide_eq_true_iff]
  exact and_iff_left he

theorem consumeRoute_publishInto (o : FileOutcomes) (routes : RouteDirectory)
    (route : Option ServiceReplyRoute) (outbox : QueuedTexts) :
    (consumeRoute o routes route).2.foldl FileEffect.publishInto outbox = outbox := by
  cases route with
  | none => rfl
  | some x =>
    unfold consumeRoute
    dsimp only
    split_ifs <;> rfl

/-- A reply uses up its own route only. -/
theorem consumeRoute_get? (o : FileOutcomes) (routes : RouteDirectory)
    (route : Option ServiceReplyRoute) (path : Bytes) :
    (consumeRoute o routes route).1.get? path =
      if o.routeConsumed = true ∧ path ∈ route.map (·.path) then none else routes.get? path := by
  cases route with
  | none => simp [consumeRoute]
  | some x =>
    unfold consumeRoute
    dsimp only
    by_cases hconsumed : o.routeConsumed = true
    · rw [if_pos hconsumed, Dict.get?_erase]
      simp [hconsumed, eq_comm]
    · rw [if_neg hconsumed, if_neg (fun h => hconsumed h.1)]

/-- A text that cannot be stored publishes nothing. -/
theorem queue_unstored (routePathSet : Bool) {s : TextState} {c : Clocks} {o : FileOutcomes}
    {sourceRid targetRid : ℕ} {text : Bytes}
    (hlive : ¬ s.recentBmTmsReplies.Live c.now (replyKey sourceRid targetRid text))
    (ho : (o.outboxCreated && o.published) = false) :
    let q := queueBrandmeisterText routePathSet s c o sourceRid targetRid text
    let found := findServiceReplyRoute routePathSet s.routes sourceRid c.nowMs o
    q.result = .FAILED ∧ q.effects = found.2.1 ∧ q.state.routes = found.1 ∧
      q.state.recentBmTmsReplies = s.recentBmTmsReplies.purge c.now := by
  have hl := mt (ExpiryMap.live_purge_iff _ le_rfl _).mp hlive
  simp only [queueBrandmeisterText]
  rw [if_neg hl]
  split_ifs with hcreated hpublished
  · exact ⟨rfl, rfl, rfl, rfl⟩
  · exact ⟨rfl, rfl, rfl, rfl⟩
  · rw [Bool.not_eq_false] at hcreated hpublished
    rw [hcreated, hpublished] at ho
    cases ho

/-- **All or nothing.** Whatever becomes of the file operations, a text is queued altogether or not at
all, and the file goes to the requester of the first route. -/
theorem queueBrandmeisterText_atomic (routePathSet : Bool) (s : TextState) (outbox : QueuedTexts)
    (c : Clocks) (o : FileOutcomes) (hlist : o.routesListed = true)
    (hread : ∀ path, o.routeReadable path = true) (sourceRid targetRid : ℕ) (text : Bytes) :
    let q := queueBrandmeisterText routePathSet s c o sourceRid targetRid text
    (q.result = .QUEUED → ∃ route, Follows routePathSet s.routes c.nowMs sourceRid route ∧
      Stored s outbox c o sourceRid targetRid text route q) ∧
    (q.result ≠ .QUEUED → Untouched s outbox c q) := by
  intro q
  by_cases hlive : s.recentBmTmsReplies.Live c.now (replyKey sourceRid targetRid text)
  · have hq : q = _ := queue_duplicate routePathSet s c o sourceRid targetRid text hlive
    rw [hq]
    refine ⟨fun h => (by cases h), fun _ => ?_⟩
    exact ⟨rfl, fun _ _ _ => Iff.rfl, sameKeys_purge s.recentBmTmsReplies c.now⟩
  · have hfollows : Follows routePathSet s.routes c.nowMs sourceRid
        (findServiceReplyRoute routePathSet s.routes sourceRid c.nowMs o).2.2 :=
      follows_find routePathSet hlist hread
    have hremoved : ∀ e ∈ (findServiceReplyRoute routePathSet s.routes sourceRid c.nowMs o).2.1,
        ∃ path, e = .removeExpired path :=
      fun e => find_effects s.routes sourceRid c.nowMs routePathSet o
    cases ho : o.outboxCreated && o.published with
    | false =>
      have hq := queue_unstored routePathSet hlive ho
      refine ⟨fun h => absurd (hq.1.symm.trans h) (by decide), fun _ => ⟨?_, ?_, ?_⟩⟩
      · show q.effects.foldl FileEffect.publishInto outbox = outbox
        rw [hq.2.1]
        exact publishInto_removed hremoved outbox
      · intro path file hended
        show q.state.routes.get? path = some file ↔ _
        rw [hq.2.2.1]
        exact find_get?_iff routePathSet hended
      · show ∀ key, SameKeys c.now s.recentBmTmsReplies q.state.recentBmTmsReplies key
        rw [hq.2.2.2]
        exact sameKeys_purge s.recentBmTmsReplies c.now
    | true =>
      have hq : q = _ := queue_queued routePathSet s c o sourceRid targetRid text hlive ho
      refine ⟨fun _ => ⟨_, hfollows, ?_⟩, fun h => absurd (congrArg QueueOutcome.result hq) h⟩
      have hfile : q.outboxAfter outbox = outbox.set (outboxName c.nowMs s.eventCounter)
          ⟨sourceRid, ((findServiceReplyRoute routePathSet s.routes sourceRid c.nowMs o).2.2.map
            (·.requesterRid)).getD targetRid, bytesToHex text⟩ := by
        rw [hq]
        unfold QueueOutcome.outboxAfter
        rw [List.foldl_append, publishInto_removed hremoved]
        exact consumeRoute_publishInto _ _ _ _
      have hroutes : ∀ path, q.state.routes.get? path =
          if o.routeConsumed = true ∧ path ∈ (findServiceReplyRoute routePathSet s.routes sourceRid
            c.nowMs o).2.2.map (·.path) then none
          else (findServiceReplyRoute routePathSet s.routes sourceRid c.nowMs o).1.get? path := by
        intro path
        rw [hq]
        exact consumeRoute_get? o _ _ path
      refine ⟨hfile, fun hnew => ?_, fun hconsumed x hx => ?_, fun path file hget hended hkeep => ?_,
        fun path file hget => ?_, ?_, fun key hne => ?_⟩
      · rw [hfile, Dict.length_keys_set, if_neg hnew]
      · rw [hroutes, if_pos ⟨hconsumed, Option.mem_map_of_mem _ hx⟩]
      · rw [hroutes, if_neg fun h => hkeep h.1 h.2]
        exact (find_get?_iff routePathSet hended).mpr hget
      · rw [hroutes] at hget
        split_ifs at hget
        exact find_get?_of _ _ _ _ _ routePathSet o hget
      · rw [hq]
        exact (Dict.get?_set _ _ _ _).trans (if_pos rfl)
      · intro e he
        rw [hq]
        show ((s.recentBmTmsReplies.purge c.now).set _ _).get? key = some e ↔ _
        rw [Dict.get?_set, if_neg hne]
        exact sameKeys_purge s.recentBmTmsReplies c.now key e he

/-- A service with two routes. -/
def routedState : TextState :=
  { TextState.init with
    routes := writeServiceRoute 900 (writeServiceRoute 900 Dict.empty 5000 1000003 1000001 [0x61])
      6000 1000004 1000001 [0x62] }

theorem queueBrandmeisterText_routed :
    let q := queueBrandmeisterText true routedState ⟨0, 7000⟩ .ok 1000001 1000002 [0x54]
    q.result = .QUEUED ∧ ∃ route, Follows true routedState.routes 7000 1000001 route ∧
      Stored routedState Dict.empty ⟨0, 7000⟩ .ok 1000001 1000002 [0x54] route q := by
  intro q
  have hqueued : q.result = .QUEUED := by decide +kernel
  exact ⟨hqueued, (queueBrandmeisterText_atomic true routedState Dict.empty ⟨0, 7000⟩ .ok rfl
    (fun _ => rfl) 1000001 1000002 [0x54]).1 hqueued⟩

end Sms
