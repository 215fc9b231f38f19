import QuantarBridge.Lib.Expiry
import QuantarBridge.Sms.Routes

/-!
# Queueing a received text

`queueBrandmeisterText` writes a text that came from BrandMeister to the P25 outbox. A text that was
queued between the same two addresses less than sixty seconds before is a duplicate. A reply of a
service goes to the requester of its route.

* `replyKey`, `replyKey_inj`: the key of the duplicate map determines addresses and text;
* `FileOutcomes`: what the file operations of one call do;
* `queueBrandmeisterText` and its spec lemmas `queue_duplicate`, `queue_failed`, `queue_queued`.
-/

set_option autoImplicit false

namespace Sms

open Lib

/-- How long a reply counts as a repetition. -/
def kBmTmsReplyDuplicateWindow : Time := seconds 60

/-- What the file operations of one call do. -/
structure FileOutcomes where
  routesListed : Bool
  routeReadable : Bytes → Bool
  expiredRemoved : Bytes → Bool
  outboxCreated : Bool
  outboxOpened : Bool
  outboxWritten : Bool
  outboxRenamed : Bool
  routeConsumed : Bool

/-- Every operation succeeds. -/
def FileOutcomes.ok : FileOutcomes :=
  ⟨true, fun _ => true, fun _ => true, true, true, true, true, true⟩

/-- A file of the P25 outbox. -/
structure OutboxText where
  sourceRid : ℕ
  targetRid : ℕ
  textHex : Bytes
  deriving DecidableEq

/-- What a call does to the file system. -/
inductive FileEffect
  | removeExpired (path : Bytes)
  | publish (name : Bytes) (file : OutboxText)
  | consume (path : Bytes)
  deriving DecidableEq

/-- What becomes of a reply. -/
inductive BrandmeisterTextResult
  | FAILED | DUPLICATE | QUEUED
  deriving DecidableEq

/-- The memory of the subsystem and the route directory. -/
structure TextState where
  recentBmTmsReplies : ExpiryMap Bytes
  eventCounter : ℕ
  routes : RouteDirectory

/-- Nothing was received and no route is registered. -/
def TextState.init : TextState := ⟨ExpiryMap.empty, 0, Dict.empty⟩

/-- The clocks a call reads: the steady clock and the wall clock. -/
structure Clocks where
  now : Time
  nowMs : ℕ

/-- The key of the duplicate map. -/
def replyKey (sourceRid targetRid : ℕ) (text : Bytes) : Bytes :=
  decimal sourceRid ++ 0x3E :: (decimal targetRid ++ 0x3A :: text)

/-- Two hexadecimal digits a byte. -/
def bytesToHex (data : Bytes) : Bytes :=
  data.flatMap fun b => [hexDigit (b.toNat / 16), hexDigit (b.toNat % 16)]
where
  hexDigit (d : ℕ) : UInt8 := UInt8.ofNat (if d < 10 then 48 + d else 87 + d)

/-- The stem of the next event file: the time and a counter. -/
def eventStem (nowMs eventCounter : ℕ) : Bytes :=
  ascii ['b', 'm', '-', 't', 'm', 's', '-'] ++ decimal nowMs ++ 0x2D :: padded 6
    (eventCounter % 1000000)

/-- The name of a file in the outbox. -/
def outboxName (nowMs eventCounter : ℕ) : Bytes :=
  eventStem nowMs eventCounter ++ ascii ['.', 'y', 'a', 'm', 'l']

/-- The files a scan of the route directory sees. -/
def routeFiles (routes : RouteDirectory) (o : FileOutcomes) : List (Bytes × RouteFile) :=
  if o.routesListed then listing routes else []

/-- The route of a service's reply. Expired files on the way are removed. -/
def findServiceReplyRoute (routePathSet : Bool) (routes : RouteDirectory) (serviceRid nowMs : ℕ)
    (o : FileOutcomes) : RouteDirectory × List FileEffect × Option ServiceReplyRoute :=
  if serviceRid = 0 ∨ routePathSet = false then (routes, [], none)
  else
    let scan := scanRoutes serviceRid nowMs o.routeReadable (routeFiles routes o)
    (routes.filter fun path _ => ¬ (path ∈ scan.1 ∧ o.expiredRemoved path),
      scan.1.map .removeExpired, scan.2)

/-- The outcome of a call. -/
structure QueueOutcome where
  state : TextState
  result : BrandmeisterTextResult
  effects : List FileEffect

/-- The file is opened, written, closed and renamed into place. -/
def FileOutcomes.published (o : FileOutcomes) : Bool :=
  o.outboxOpened ∧ o.outboxWritten ∧ o.outboxRenamed

/-- Consume the route a stored reply followed. -/
def consumeRoute (o : FileOutcomes) (routes : RouteDirectory) :
    Option ServiceReplyRoute → RouteDirectory × List FileEffect
  | none => (routes, [])
  | some route =>
    if o.routeConsumed then (routes.erase route.path, [.consume route.path]) else (routes, [])

/-- Write a received text to the P25 outbox. -/
def queueBrandmeisterText (routePathSet : Bool) (s : TextState) (c : Clocks) (o : FileOutcomes)
    (sourceRid targetRid : ℕ) (text : Bytes) : QueueOutcome :=
  let recent := s.recentBmTmsReplies.purge c.now
  let key := replyKey sourceRid targetRid text
  if recent.Live c.now key then ⟨{ s with recentBmTmsReplies := recent }, .DUPLICATE, []⟩
  else
    let found := findServiceReplyRoute routePathSet s.routes sourceRid c.nowMs o
    let deliveryTargetRid := (found.2.2.map (·.requesterRid)).getD targetRid
    if o.outboxCreated = false then ⟨⟨recent, s.eventCounter, found.1⟩, .FAILED, found.2.1⟩
    else if o.published = false then ⟨⟨recent, s.eventCounter + 1, found.1⟩, .FAILED, found.2.1⟩
    else
      let published := FileEffect.publish (outboxName c.nowMs s.eventCounter)
        ⟨sourceRid, deliveryTargetRid, bytesToHex text⟩
      let consumed := consumeRoute o found.1 found.2.2
      ⟨⟨recent.mark key (c.now + kBmTmsReplyDuplicateWindow), s.eventCounter + 1, consumed.1⟩,
        .QUEUED, found.2.1 ++ published :: consumed.2⟩

/-! ## Lemmas -/

/-- **The key determines addresses and text.** -/
theorem replyKey_inj {a b a' b' : ℕ} {x x' : Bytes} (h : replyKey a b x = replyKey a' b' x') :
    a = a' ∧ b = b' ∧ x = x' := by
  obtain ⟨h1, h2⟩ := decimal_append_inj (by decide) h
  obtain ⟨h3, h4⟩ := decimal_append_inj (by decide) h2
  exact ⟨h1, h3, h4⟩

theorem get?_of_mem_routeFiles {routes : RouteDirectory} {o : FileOutcomes}
    {e : Bytes × RouteFile} (h : e ∈ routeFiles routes o) : routes.get? e.1 = some e.2 := by
  unfold routeFiles at h
  split_ifs at h
  · exact ((mem_listing_iff e).mp h).1
  · cases h

section Find

variable (routes : RouteDirectory) (serviceRid nowMs : ℕ) (path : Bytes) (file : RouteFile)

theorem find_get?_of (routePathSet : Bool) (o : FileOutcomes)
    (h : (findServiceReplyRoute routePathSet routes serviceRid nowMs o).1.get? path = some file) :
    routes.get? path = some file := by
  unfold findServiceReplyRoute at h
  split_ifs at h
  · exact h
  · rw [Dict.get?_filter, Option.filter_eq_some_iff] at h
    exact h.1

/-- Looking for a route removes expired files only. -/
theorem find_get? (routePathSet : Bool) (o : FileOutcomes) (h : routes.get? path = some file)
    (hv : verdictOf serviceRid nowMs o.routeReadable (path, file) ≠ .expired) :
    (findServiceReplyRoute routePathSet routes serviceRid nowMs o).1.get? path = some file := by
  unfold findServiceReplyRoute
  split_ifs with h0
  · exact h
  · rw [Dict.get?_filter, Option.filter_eq_some_iff]
    refine ⟨h, decide_eq_true fun hm => hv ?_⟩
    obtain ⟨e, he, rfl, hexp⟩ := scanRoutes_fst _ _ _ hm.1
    rw [get?_of_mem_routeFiles he, Option.some.injEq] at h
    rw [← h]
    exact hexp

theorem find_route (hs : serviceRid ≠ 0) :
    (findServiceReplyRoute true routes serviceRid nowMs .ok).2.2 =
      ((listing routes).filterMap (usableRoute serviceRid nowMs fun _ => true)).head? := by
  rw [findServiceReplyRoute, if_neg (by simp [hs])]
  exact scanRoutes_snd _ _ _ _

theorem find_route_mem {routePathSet : Bool} {o : FileOutcomes} {x : ServiceReplyRoute}
    (h : (findServiceReplyRoute routePathSet routes serviceRid nowMs o).2.2 = some x) :
    ∃ file, routes.get? x.path = some file ∧
      verdictOf serviceRid nowMs o.routeReadable (x.path, file) = .route x.requesterRid := by
  unfold findServiceReplyRoute at h
  split_ifs at h with h0
  rw [scanRoutes_snd] at h
  obtain ⟨e, he, hx⟩ := List.mem_filterMap.mp (List.mem_of_mem_head? h)
  rw [usableRoute] at hx
  cases hv : verdictOf serviceRid nowMs o.routeReadable e with
  | expired => rw [hv] at hx; cases hx
  | skip => rw [hv] at hx; cases hx
  | route r =>
    rw [hv, Option.some.injEq] at hx
    subst hx
    exact ⟨e.2, get?_of_mem_routeFiles he, hv⟩

/-- Looking for a route only removes expired files. -/
theorem find_effects (routePathSet : Bool) (o : FileOutcomes) {e : FileEffect}
    (h : e ∈ (findServiceReplyRoute routePathSet routes serviceRid nowMs o).2.1) :
    ∃ path, e = .removeExpired path := by
  by_cases h0 : serviceRid = 0 ∨ routePathSet = false
  · rw [findServiceReplyRoute, if_pos h0] at h
    cases h
  · rw [findServiceReplyRoute, if_neg h0] at h
    obtain ⟨path, -, rfl⟩ := List.mem_map.mp h
    exact ⟨path, rfl⟩

end Find

/-! ## The three outcomes -/

section Queue

variable (routePathSet : Bool) (s : TextState) (c : Clocks) (o : FileOutcomes)
  (sourceRid targetRid : ℕ) (text : Bytes)

theorem queue_duplicate (h : s.recentBmTmsReplies.Live c.now (replyKey sourceRid targetRid text)) :
    queueBrandmeisterText routePathSet s c o sourceRid targetRid text =
      ⟨{ s with recentBmTmsReplies := s.recentBmTmsReplies.purge c.now }, .DUPLICATE, []⟩ := by
  simp only [queueBrandmeisterText]
  rw [if_pos ((ExpiryMap.live_purge_iff _ le_rfl _).mpr h)]

variable (h : ¬ s.recentBmTmsReplies.Live c.now (replyKey sourceRid targetRid text))

include h

theorem queue_failed (ho : (o.outboxCreated && o.published) = false) :
    let q := queueBrandmeisterText routePathSet s c o sourceRid targetRid text
    q.result = .FAILED ∧ q.state.recentBmTmsReplies = s.recentBmTmsReplies.purge c.now := by
  have hl := mt (ExpiryMap.live_purge_iff _ le_rfl _).mp h
  simp only [queueBrandmeisterText]
  rw [if_neg hl]
  split_ifs with h1 h2
  · exact ⟨rfl, rfl⟩
  · exact ⟨rfl, rfl⟩
  · rw [Bool.not_eq_false] at h1 h2
    rw [h1, h2] at ho
    cases ho

/-- **A stored text** is published and remembered, and its route is consumed. -/
theorem queue_queued (ho : (o.outboxCreated && o.published) = true) :
    let found := findServiceReplyRoute routePathSet s.routes sourceRid c.nowMs o
    queueBrandmeisterText routePathSet s c o sourceRid targetRid text =
      ⟨⟨(s.recentBmTmsReplies.purge c.now).mark (replyKey sourceRid targetRid text)
          (c.now + kBmTmsReplyDuplicateWindow), s.eventCounter + 1,
          (consumeRoute o found.1 found.2.2).1⟩, .QUEUED,
        found.2.1 ++ .publish (outboxName c.nowMs s.eventCounter)
          ⟨sourceRid, (found.2.2.map (·.requesterRid)).getD targetRid, bytesToHex text⟩ ::
          (consumeRoute o found.1 found.2.2).2⟩ := by
  have hl := mt (ExpiryMap.live_purge_iff _ le_rfl _).mp h
  rw [Bool.and_eq_true] at ho
  simp only [queueBrandmeisterText, if_neg hl, ho.1, ho.2, Bool.true_eq_false, if_false]

end Queue

section Memory

variable (routePathSet : Bool) (s : TextState) (c : Clocks) (o : FileOutcomes)
  (sourceRid targetRid : ℕ) (text : Bytes)

theorem queue_keeps {t : Time} (ht : c.now ≤ t) {key : Bytes}
    (hk : s.recentBmTmsReplies.Live t key) :
    (queueBrandmeisterText routePathSet s c o sourceRid targetRid
      text).state.recentBmTmsReplies.Live t key := by
  have hp := (ExpiryMap.live_purge_iff s.recentBmTmsReplies ht key).mpr hk
  by_cases hl : s.recentBmTmsReplies.Live c.now (replyKey sourceRid targetRid text)
  · rw [queue_duplicate routePathSet s c o _ _ _ hl]
    exact hp
  · cases ho : o.outboxCreated && o.published with
    | false =>
      rw [(queue_failed routePathSet s c o _ _ _ hl ho).2]
      exact hp
    | true =>
      rw [queue_queued routePathSet s c o _ _ _ hl ho, ExpiryMap.live_mark_iff]
      split_ifs with he
      · exact absurd (ExpiryMap.live_of_le ht (he ▸ hk)) hl
      · exact hp

theorem queue_stored (h : (queueBrandmeisterText routePathSet s c o sourceRid targetRid
      text).result = .QUEUED) {t : Time} (ht : t < c.now + kBmTmsReplyDuplicateWindow) :
    (queueBrandmeisterText routePathSet s c o sourceRid targetRid
      text).state.recentBmTmsReplies.Live t (replyKey sourceRid targetRid text) := by
  by_cases hl : s.recentBmTmsReplies.Live c.now (replyKey sourceRid targetRid text)
  · rw [queue_duplicate routePathSet s c o _ _ _ hl] at h
    cases h
  · cases ho : o.outboxCreated && o.published with
    | false =>
      rw [(queue_failed routePathSet s c o _ _ _ hl ho).1] at h
      cases h
    | true =>
      rw [queue_queued routePathSet s c o _ _ _ hl ho, ExpiryMap.live_mark_iff, if_pos rfl]
      exact ht

end Memory

end Sms
