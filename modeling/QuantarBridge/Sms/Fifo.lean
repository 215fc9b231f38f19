import Mathlib.Data.List.Sort
import QuantarBridge.Lib.Run
import QuantarBridge.Sms.Replies

/-!
# Service replies are routed first-in first-out

Requests to services are registered and replies arrive, in any order and for any services, while
the file operations succeed. For one service `s` the route directory is a queue: `Desk` holds the
registrations that wait for a reply and the replies that were accepted, and a reply that repeats an
accepted one takes nothing from the queue.

* `DeskEvent`, `deskStep`: the route directory and the duplicate map under these events;
* `Desk`, `Desk.Orderly`: the queue of one service, and what registrations and replies promise;
* `usable_eq`: the usable routes of the directory are the waiting registrations, in order;
* `Sim`, `sim_register`, `sim_reply`: the queue follows the directory;
* `replies_fifo`: the accepted replies go to the registered requesters in order.
-/

set_option autoImplicit false

namespace Sms

open Lib

/-- A registered request. -/
structure Registration where
  createdAtMs : ℕ
  requesterRid : ℕ
  serviceRid : ℕ
  uuid : Bytes
  deriving DecidableEq

/-- The route file of a request. -/
def Registration.path (g : Registration) : Bytes :=
  routeFileName g.createdAtMs g.serviceRid g.requesterRid g.uuid

/-- A text that arrives from BrandMeister. -/
structure Reply where
  sourceRid : ℕ
  targetRid : ℕ
  text : Bytes
  clocks : Clocks

/-- A request to a service, or a reply of one. -/
inductive DeskEvent
  | register (g : Registration)
  | reply (r : Reply)

/-- A reply with what became of it. -/
structure Delivery where
  reply : Reply
  result : BrandmeisterTextResult
  effects : List FileEffect

/-- One registration or one reply, with all file operations successful. -/
def deskStep (maxAgeSeconds : ℕ) (st : TextState) : DeskEvent → TextState × List Delivery
  | .register g =>
    let routes := writeServiceRoute maxAgeSeconds st.routes g.createdAtMs g.requesterRid
      g.serviceRid g.uuid
    ({ st with routes := routes }, [])
  | .reply r =>
    let q := queueBrandmeisterText true st r.clocks .ok r.sourceRid r.targetRid r.text
    (q.state, [⟨r, q.result, q.effects⟩])

/-- The requesters a reply is written for and the route files it consumes. -/
def Delivery.routing (d : Delivery) : List ℕ × List Bytes :=
  (d.effects.filterMap fun | .publish _ file => some file.targetRid | _ => none,
    d.effects.filterMap fun | .consume path => some path | _ => none)

/-- What is written has the sender and the text of the reply. -/
def Delivery.Faithful (d : Delivery) : Prop :=
  ∀ name file, FileEffect.publish name file ∈ d.effects →
    file.sourceRid = d.reply.sourceRid ∧ file.textHex = bytesToHex d.reply.text

/-- The routing of a registered request. -/
def Registration.routing (g : Registration) : List ℕ × List Bytes := ([g.requesterRid], [g.path])

/-- The requests registered for `s`. -/
def registrations (s : ℕ) (es : List DeskEvent) : List Registration :=
  es.filterMap fun | .register g => if g.serviceRid = s then some g else none | _ => none

/-- The replies of `s`. -/
def replies (s : ℕ) (es : List DeskEvent) : List Reply :=
  es.filterMap fun | .reply r => if r.sourceRid = s then some r else none | _ => none

/-- What became of the replies of `s`. -/
def deliveries (s maxAgeSeconds : ℕ) (st : TextState) (es : List DeskEvent) : List Delivery :=
  (Run.outputs (deskStep maxAgeSeconds) st es).filter fun d => d.reply.sourceRid = s

/-- The reply has the addresses and the text of one accepted less than sixty seconds before, in the
run or before it. -/
def Reply.Repeats (earlier : ExpiryMap Bytes) (accepted : List Reply) (r : Reply) : Prop :=
  earlier.Live r.clocks.now (replyKey r.sourceRid r.targetRid r.text) ∨
    ∃ a ∈ accepted, a.targetRid = r.targetRid ∧ a.text = r.text ∧
      r.clocks.now < a.clocks.now + kBmTmsReplyDuplicateWindow

instance (earlier : ExpiryMap Bytes) (accepted : List Reply) (r : Reply) :
    Decidable (r.Repeats earlier accepted) :=
  inferInstanceAs (Decidable (_ ∨ ∃ _ ∈ _, _))

/-- What becomes of the replies of one service after some were accepted. -/
def results (earlier : ExpiryMap Bytes) : List Reply → List Reply → List BrandmeisterTextResult
  | _, [] => []
  | accepted, r :: rs =>
    if r.Repeats earlier accepted then .DUPLICATE :: results earlier accepted rs
    else .QUEUED :: results earlier (accepted ++ [r]) rs

/-! ## The queue of one service -/

section Desk

variable {s maxAgeSeconds : ℕ}

/-- The waiting registrations, what was remembered before the run, the accepted replies and the time
of the last reply. -/
structure Desk where
  earlier : ExpiryMap Bytes
  waiting : List Registration
  accepted : List Reply
  clock : Time

/-- The queue of `s` under an event. -/
def Desk.step (s : ℕ) (d : Desk) : DeskEvent → Desk × List Empty
  | .register g => (if g.serviceRid = s then { d with waiting := d.waiting ++ [g] } else d, [])
  | .reply r =>
    let d := { d with clock := r.clocks.now }
    (if r.sourceRid = s ∧ ¬ r.Repeats d.earlier d.accepted then
      { d with waiting := d.waiting.tail, accepted := d.accepted ++ [r] } else d, [])

/-- What an event promises: registrations of `s` come in the order of their creation times, replies
find the waiting routes unexpired and the clock advanced, and an accepted reply of `s` comes after
its registration. -/
def Desk.Promises (s maxAgeSeconds : ℕ) (d : Desk) : DeskEvent → Prop
  | .register g => g.serviceRid = s → g.requesterRid ≠ 0 ∧ g.createdAtMs < 10 ^ 13 ∧
      ∀ w ∈ d.waiting, w.createdAtMs < g.createdAtMs
  | .reply r => d.clock ≤ r.clocks.now ∧
      (∀ w ∈ d.waiting, r.clocks.nowMs < w.createdAtMs + maxAgeSeconds * 1000) ∧
      (r.sourceRid = s → ¬ r.Repeats d.earlier d.accepted → d.waiting ≠ [])

instance (d : Desk) : DecidablePred (d.Promises s maxAgeSeconds)
  | .register _ => inferInstanceAs (Decidable (_ → _))
  | .reply _ => inferInstanceAs (Decidable (_ ∧ _))

/-- Every event of the run keeps its promise. -/
def Orderly (s maxAgeSeconds : ℕ) (earlier : ExpiryMap Bytes) (es : List DeskEvent) : Prop :=
  Run.Along (Desk.step s) (Desk.Promises s maxAgeSeconds) ⟨earlier, [], [], 0⟩ es

instance (earlier : ExpiryMap Bytes) (es : List DeskEvent) :
    Decidable (Orderly s maxAgeSeconds earlier es) :=
  inferInstanceAs (Decidable (Run.Along _ _ _ _))

end Desk

/-- No file of the directory gives a route for `s`. -/
def NoRouteFor (s : ℕ) (routes : RouteDirectory) : Prop :=
  ∀ path file, routes.get? path = some file → ∀ nowMs r, examine s nowMs file.document ≠ .route r

/-! ## The queue follows the directory -/

variable {s maxAgeSeconds : ℕ}

/-- The file a registration writes. -/
def Registration.file (maxAgeSeconds : ℕ) (g : Registration) : RouteFile where
  regular := true
  document := some
    { createdAtMs := .value g.createdAtMs
      expiresAtMs := .value (g.createdAtMs + maxAgeSeconds * 1000)
      serviceRid := .value g.serviceRid
      requesterRid := .value g.requesterRid }

/-- What the subsystem remembers of the replies of `s`. -/
def Remembers (s : ℕ) (recent earlier : ExpiryMap Bytes) (accepted : List Reply)
    (clock : Time) : Prop :=
  ∀ t, clock ≤ t → ∀ target text, recent.Live t (replyKey s target text) ↔
    earlier.Live t (replyKey s target text) ∨ ∃ a ∈ accepted, a.targetRid = target ∧
      a.text = text ∧ t < a.clocks.now + kBmTmsReplyDuplicateWindow

/-- The route files of `s` are the waiting registrations. -/
structure Queued (s maxAgeSeconds : ℕ) (waiting : List Registration) (routes : RouteDirectory) :
    Prop where
  registered : ∀ w ∈ waiting, routes.get? w.path = some (w.file maxAgeSeconds)
  requests : ∀ w ∈ waiting, w.serviceRid = s ∧ w.requesterRid ≠ 0 ∧ w.createdAtMs < 10 ^ 13
  sorted : waiting.Pairwise fun v w => v.createdAtMs < w.createdAtMs
  only : ∀ path file, routes.get? path = some file → ∀ nowMs r,
    examine s nowMs file.document = .route r → ∃ w ∈ waiting, path = w.path

/-- The queue `d` of `s` agrees with the subsystem. -/
structure Sim (s maxAgeSeconds : ℕ) (d : Desk) (st : TextState) : Prop where
  queued : Queued s maxAgeSeconds d.waiting st.routes
  recent : Remembers s st.recentBmTmsReplies d.earlier d.accepted d.clock

theorem examine_file_eq (g : Registration) (nowMs : ℕ) :
    examine s nowMs (g.file maxAgeSeconds).document =
      if g.createdAtMs + maxAgeSeconds * 1000 = 0 ∨ g.createdAtMs + maxAgeSeconds * 1000 ≤ nowMs
      then .expired
      else if g.serviceRid = s ∧ g.requesterRid ≠ 0 then .route g.requesterRid else .skip := by
  change (ite _ (some Verdict.expired) (some _)).getD Verdict.skip = _
  split_ifs <;> rfl

theorem examine_file {g : Registration} (hs : g.serviceRid = s) (hr : g.requesterRid ≠ 0)
    {nowMs : ℕ} (h : nowMs < g.createdAtMs + maxAgeSeconds * 1000) :
    examine s nowMs (g.file maxAgeSeconds).document = .route g.requesterRid := by
  rw [examine_file_eq, if_neg (by omega), if_pos ⟨hs, hr⟩]

theorem examine_file_ne {g : Registration} (hs : g.serviceRid ≠ s) (nowMs r : ℕ) :
    examine s nowMs (g.file maxAgeSeconds).document ≠ .route r := by
  rw [examine_file_eq]
  split_ifs with h1 h2
  · exact nofun
  · exact absurd h2.1 hs
  · exact nofun

theorem path_lt {v w : Registration} (hw : w.createdAtMs < 10 ^ 13)
    (h : v.createdAtMs < w.createdAtMs) : Bytes.nats v.path < Bytes.nats w.path :=
  padded_lt (by decide) hw h _ _

theorem path_eq (g : Registration) : g.path = (padded 13 g.createdAtMs ++ 0x2D ::
    (decimal g.serviceRid ++ 0x2D :: (decimal g.requesterRid ++ 0x2D :: g.uuid))) ++ jsonSuffix := by
  simp only [Registration.path, routeFileName, List.append_assoc, List.cons_append]

theorem hasJsonExtension_path (g : Registration) : hasJsonExtension g.path = true := by
  rw [hasJsonExtension, decide_eq_true_iff, List.isSuffixOf_iff_suffix, path_eq]
  refine ⟨List.suffix_append _ _, fun h => ?_⟩
  have hl := List.append_left_eq_self.mp h
  exact absurd (List.append_eq_nil_iff.mp hl).2 (List.cons_ne_nil _ _)

/-- The order of the routes by file name. -/
def ServiceReplyRoute.Before (a b : ServiceReplyRoute) : Prop :=
  Bytes.nats a.path < Bytes.nats b.path

instance : Std.Irrefl ServiceReplyRoute.Before := ⟨fun _ => lt_irrefl _⟩

instance : Std.Antisymm ServiceReplyRoute.Before := ⟨fun _ _ h h' => absurd h' (lt_asymm h)⟩

/-- The route a registration gives. -/
def Registration.route (g : Registration) : ServiceReplyRoute := ⟨g.requesterRid, g.path⟩

theorem usableRoute_iff {nowMs : ℕ} {e : Bytes × RouteFile} {x : ServiceReplyRoute} :
    usableRoute s nowMs (fun _ => true) e = some x ↔
      x.path = e.1 ∧ examine s nowMs e.2.document = .route x.requesterRid := by
  rw [usableRoute, verdictOf, if_pos rfl]
  obtain ⟨r, p⟩ := x
  cases examine s nowMs e.2.document with
  | expired => simp
  | skip => simp
  | route r' => simp [eq_comm, and_comm]

section Queued

variable {waiting : List Registration} {routes : RouteDirectory} {nowMs : ℕ}

/-- **The usable routes are the waiting registrations, in order.** -/
theorem usable_eq (h : Queued s maxAgeSeconds waiting routes)
    (hn : ∀ w ∈ waiting, nowMs < w.createdAtMs + maxAgeSeconds * 1000) :
    (listing routes).filterMap (usableRoute s nowMs fun _ => true) =
      waiting.map Registration.route := by
  have hl : ((listing routes).filterMap (usableRoute s nowMs fun _ => true)).Pairwise
      ServiceReplyRoute.Before := by
    refine listing_strict.filterMap _ fun e e' he x hx y hy => ?_
    rw [ServiceReplyRoute.Before, (usableRoute_iff.mp hx).1, (usableRoute_iff.mp hy).1]
    exact he
  have hw : (waiting.map Registration.route).Pairwise ServiceReplyRoute.Before := by
    refine List.pairwise_map.mpr (h.sorted.imp_of_mem fun _ hb hlt => ?_)
    exact path_lt (h.requests _ hb).2.2 hlt
  refine hl.eq_of_mem_iff hw fun x => ?_
  rw [List.mem_filterMap, List.mem_map]
  constructor
  · rintro ⟨e, he, hx⟩
    obtain ⟨hp, hr⟩ := usableRoute_iff.mp hx
    obtain ⟨w, hw, hpath⟩ := h.only e.1 e.2 ((mem_listing_iff e).mp he).1 nowMs _ hr
    refine ⟨w, hw, ?_⟩
    have hfile := h.registered w hw
    rw [← hpath, ((mem_listing_iff e).mp he).1, Option.some.injEq] at hfile
    rw [hfile, examine_file (h.requests w hw).1 (h.requests w hw).2.1 (hn w hw),
      Verdict.route.injEq] at hr
    obtain ⟨r, p⟩ := x
    simp only [Registration.route, ServiceReplyRoute.mk.injEq]
    exact ⟨hr, (hp.trans hpath).symm⟩
  · rintro ⟨w, hw, rfl⟩
    refine ⟨(w.path, w.file maxAgeSeconds), (mem_listing_iff _).mpr
      ⟨h.registered w hw, rfl, hasJsonExtension_path w⟩, usableRoute_iff.mpr ⟨rfl, ?_⟩⟩
    exact examine_file (h.requests w hw).1 (h.requests w hw).2.1 (hn w hw)

theorem queued_register (h : Queued s maxAgeSeconds waiting routes) {g : Registration}
    (hs : g.serviceRid = s) (hr : g.requesterRid ≠ 0) (hc : g.createdAtMs < 10 ^ 13)
    (hlast : ∀ w ∈ waiting, w.createdAtMs < g.createdAtMs) :
    Queued s maxAgeSeconds (waiting ++ [g]) (routes.set g.path (g.file maxAgeSeconds)) where
  registered w hw := by
    rw [Dict.get?_set]
    rcases List.mem_append.mp hw with hw | hw
    · have hne : w.path ≠ g.path := fun he => absurd (path_lt hc (hlast w hw)) (he ▸ lt_irrefl _)
      rw [if_neg hne]
      exact h.registered w hw
    · rw [List.mem_singleton.mp hw, if_pos rfl]
  requests w hw := by
    rcases List.mem_append.mp hw with hw | hw
    · exact h.requests w hw
    · rw [List.mem_singleton.mp hw]
      exact ⟨hs, hr, hc⟩
  sorted := List.pairwise_append.mpr ⟨h.sorted, List.pairwise_singleton _ _,
    fun w hw g' hg => List.mem_singleton.mp hg ▸ hlast w hw⟩
  only path file hf nowMs r hv := by
    rw [Dict.get?_set] at hf
    split_ifs at hf with hp
    · exact ⟨g, by simp, hp⟩
    · obtain ⟨w, hw, hpw⟩ := h.only path file hf nowMs r hv
      exact ⟨w, List.mem_append_left _ hw, hpw⟩

theorem queued_register_other (h : Queued s maxAgeSeconds waiting routes) {g : Registration}
    (hs : g.serviceRid ≠ s) :
    Queued s maxAgeSeconds waiting (routes.set g.path (g.file maxAgeSeconds)) where
  registered w hw := by
    have hne : w.path ≠ g.path := fun he =>
      hs ((decimal_append_inj (by decide) (padded_append_inj (by decide) he)).1.symm.trans
        (h.requests w hw).1)
    rw [Dict.get?_set, if_neg hne]
    exact h.registered w hw
  requests := h.requests
  sorted := h.sorted
  only path file hf nowMs r hv := by
    rw [Dict.get?_set] at hf
    split_ifs at hf with hp
    · rw [← Option.some.inj hf] at hv
      exact absurd hv (examine_file_ne hs nowMs r)
    · exact h.only path file hf nowMs r hv

/-- Looking for a route keeps the waiting ones. -/
theorem queued_find (h : Queued s maxAgeSeconds waiting routes)
    (hn : ∀ w ∈ waiting, nowMs < w.createdAtMs + maxAgeSeconds * 1000) (source : ℕ) :
    Queued s maxAgeSeconds waiting (findServiceReplyRoute true routes source nowMs .ok).1 where
  registered w hw := by
    refine find_get? _ _ _ _ _ _ _ (h.registered w hw) ?_
    have hlt := hn w hw
    change examine source nowMs (w.file maxAgeSeconds).document ≠ .expired
    rw [examine_file_eq, if_neg (by omega)]
    split_ifs <;> exact nofun
  requests := h.requests
  sorted := h.sorted
  only path file hf nowMs r hv := h.only path file (find_get?_of _ _ _ _ _ _ _ hf) nowMs r hv

/-- A reply of another service consumes no route of `s`. -/
theorem queued_erase_other (h : Queued s maxAgeSeconds waiting routes) {path : Bytes}
    (hp : ∀ w ∈ waiting, w.path ≠ path) : Queued s maxAgeSeconds waiting (routes.erase path) where
  registered w hw := by
    rw [Dict.get?_erase, if_neg (hp w hw)]
    exact h.registered w hw
  requests := h.requests
  sorted := h.sorted
  only path' file hf nowMs r hv := by
    rw [Dict.get?_erase] at hf
    split_ifs at hf
    exact h.only path' file hf nowMs r hv

theorem queued_erase {w : Registration} (h : Queued s maxAgeSeconds (w :: waiting) routes) :
    Queued s maxAgeSeconds waiting (routes.erase w.path) where
  registered v hv := by
    have hlt := path_lt (h.requests v (List.mem_cons_of_mem _ hv)).2.2
      ((List.pairwise_cons.mp h.sorted).1 v hv)
    have hne : v.path ≠ w.path := fun he => absurd hlt (he ▸ lt_irrefl _)
    rw [Dict.get?_erase, if_neg hne]
    exact h.registered v (List.mem_cons_of_mem _ hv)
  requests v hv := h.requests v (List.mem_cons_of_mem _ hv)
  sorted := (List.pairwise_cons.mp h.sorted).2
  only path file hf nowMs r hv := by
    rw [Dict.get?_erase] at hf
    split_ifs at hf with hp
    obtain ⟨v, hm, hpath⟩ := h.only path file hf nowMs r hv
    rcases List.mem_cons.mp hm with rfl | hm
    · exact absurd hpath hp
    · exact ⟨v, hm, hpath⟩

end Queued

section Remembers

variable {recent earlier : ExpiryMap Bytes} {accepted : List Reply} {clock : Time}

theorem remembers_purge (h : Remembers s recent earlier accepted clock) {now : Time}
    (hc : clock ≤ now) : Remembers s (recent.purge now) earlier accepted now := fun t ht target text =>
  (ExpiryMap.live_purge_iff _ ht _).trans (h t (hc.trans ht) target text)

theorem remembers_mark_other (h : Remembers s recent earlier accepted clock) {source : ℕ}
    (hs : source ≠ s) (target : ℕ) (text : Bytes) (e : Time) :
    Remembers s (recent.mark (replyKey source target text) e) earlier accepted clock := by
  intro t ht target' text'
  rw [ExpiryMap.live_mark_iff, if_neg fun he => hs (replyKey_inj he).1.symm]
  exact h t ht target' text'

theorem remembers_mark {r : Reply} (h : Remembers s recent earlier accepted r.clocks.now)
    (hs : r.sourceRid = s) (hr : ¬ r.Repeats earlier accepted) :
    Remembers s (recent.mark (replyKey s r.targetRid r.text)
      (r.clocks.now + kBmTmsReplyDuplicateWindow)) earlier (accepted ++ [r]) r.clocks.now := by
  subst hs
  intro t ht target text
  rw [ExpiryMap.live_mark_iff]
  split_ifs with he
  · obtain ⟨-, rfl, rfl⟩ := replyKey_inj he
    constructor
    · exact fun hlt => Or.inr ⟨r, by simp, rfl, rfl, hlt⟩
    · rintro (hlive | ⟨a, ha, h1, h2, hlt⟩)
      · exact absurd (Or.inl (ExpiryMap.live_of_le ht hlive)) hr
      · rcases List.mem_append.mp ha with ha | ha
        · exact absurd (Or.inr ⟨a, ha, h1, h2, lt_of_le_of_lt ht hlt⟩) hr
        · rw [List.mem_singleton.mp ha] at hlt
          exact hlt
  · rw [h t ht target text]
    refine or_congr_right ⟨?_, ?_⟩
    · rintro ⟨a, ha, h'⟩
      exact ⟨a, List.mem_append_left _ ha, h'⟩
    · rintro ⟨a, ha, h1, h2, hlt⟩
      rcases List.mem_append.mp ha with ha | ha
      · exact ⟨a, ha, h1, h2, hlt⟩
      · rw [List.mem_singleton.mp ha] at h1 h2
        exact absurd (by rw [h1, h2]) he

end Remembers

/-! ## Steps and runs -/

variable {d : Desk} {st : TextState}

theorem sim_register (h : Sim s maxAgeSeconds d st) {g : Registration}
    (hp : d.Promises s maxAgeSeconds (.register g)) :
    Sim s maxAgeSeconds (d.step s (.register g)).1 (deskStep maxAgeSeconds st (.register g)).1 := by
  rw [Desk.step]
  split_ifs with hs
  · obtain ⟨hr, hc, hlast⟩ := hp hs
    exact ⟨queued_register h.queued hs hr hc hlast, h.recent⟩
  · exact ⟨queued_register_other h.queued hs, h.recent⟩

theorem routing_publish {removed : List FileEffect}
    (h : ∀ {e}, e ∈ removed → ∃ path, e = .removeExpired path) (r : Reply)
    (result : BrandmeisterTextResult) (name : Bytes) (file : OutboxText) (path : Bytes) :
    (Delivery.mk r result (removed ++ [.publish name file, .consume path])).routing =
      ([file.targetRid], [path]) := by
  have h0 : ∀ {β : Type} (f : FileEffect → Option β), (∀ p, f (.removeExpired p) = none) →
      removed.filterMap f = [] := fun f hf => by
    rw [List.filterMap_eq_nil_iff]
    intro e he
    obtain ⟨p, rfl⟩ := h he
    exact hf p
  simp only [Delivery.routing, List.filterMap_append, List.filterMap_cons, List.filterMap_nil]
  rw [h0 _ fun _ => rfl, h0 _ fun _ => rfl, List.nil_append, List.nil_append]

theorem publish_effects {removed : List FileEffect} {name name' : Bytes}
    {file file' : OutboxText} (h : ∀ {e}, e ∈ removed → ∃ path, e = .removeExpired path)
    {path : Bytes} (he : .publish name' file' ∈ removed ++ [.publish name file, .consume path]) :
    file' = file := by
  rcases List.mem_append.mp he with he | he
  · obtain ⟨_, hp⟩ := h he
    cases hp
  · simp only [List.mem_cons, FileEffect.publish.injEq, reduceCtorEq, List.not_mem_nil, or_false] at he
    exact he.2

/-- The subsystem is back in the queue's state after a reply of another service. -/
theorem sim_reply_other (h : Sim s maxAgeSeconds d st) {r : Reply}
    (hp : d.Promises s maxAgeSeconds (.reply r)) (hs : r.sourceRid ≠ s) :
    Sim s maxAgeSeconds (d.step s (.reply r)).1 (deskStep maxAgeSeconds st (.reply r)).1 := by
  obtain ⟨hclock, hfresh, -⟩ := hp
  rw [Desk.step, if_neg fun hc => hs hc.1]
  have hrecent := remembers_purge h.recent hclock
  by_cases hl : st.recentBmTmsReplies.Live r.clocks.now (replyKey r.sourceRid r.targetRid r.text)
  · rw [deskStep, queue_duplicate true st r.clocks .ok _ _ _ hl]
    exact ⟨h.queued, hrecent⟩
  · rw [deskStep, queue_queued true st r.clocks .ok _ _ _ hl rfl]
    refine ⟨?_, remembers_mark_other hrecent hs _ _ _⟩
    have hq := queued_find h.queued hfresh r.sourceRid
    cases hf : (findServiceReplyRoute true st.routes r.sourceRid r.clocks.nowMs .ok).2.2 with
    | none => exact hq
    | some x =>
      refine queued_erase_other hq fun w hw he => ?_
      obtain ⟨file, hget, hv⟩ := find_route_mem _ _ _ hf
      rw [← he, h.queued.registered w hw] at hget
      rw [← Option.some.inj hget] at hv
      exact examine_file_ne (fun hsr => hs (hsr.symm.trans (h.queued.requests w hw).1)) _ _ hv

/-- **A reply of `s`.** A repeated one changes nothing and an accepted one takes the first waiting
registration. -/
theorem sim_reply (hs : s ≠ 0) (h : Sim s maxAgeSeconds d st) {r : Reply}
    (hp : d.Promises s maxAgeSeconds (.reply r)) (hr : r.sourceRid = s) :
    Sim s maxAgeSeconds (d.step s (.reply r)).1 (deskStep maxAgeSeconds st (.reply r)).1 ∧
    ∃ dl, (deskStep maxAgeSeconds st (.reply r)).2 = [dl] ∧ dl.reply = r ∧ dl.Faithful ∧
      (r.Repeats d.earlier d.accepted → dl.result = .DUPLICATE ∧ dl.effects = []) ∧
      (¬ r.Repeats d.earlier d.accepted → dl.result = .QUEUED ∧
        ∃ w ws, d.waiting = w :: ws ∧ dl.routing = w.routing) := by
  obtain ⟨hclock, hfresh, hwait⟩ := hp
  have hrecent := remembers_purge h.recent hclock
  have hl : st.recentBmTmsReplies.Live r.clocks.now (replyKey r.sourceRid r.targetRid r.text) ↔
      r.Repeats d.earlier d.accepted := by
    rw [hr, Reply.Repeats, hr]
    exact h.recent _ hclock _ _
  rw [Desk.step]
  by_cases hrep : r.Repeats d.earlier d.accepted
  · rw [if_neg fun hc => hc.2 hrep, deskStep, queue_duplicate true st r.clocks .ok _ _ _ (hl.mpr hrep)]
    exact ⟨⟨h.queued, hrecent⟩, _, rfl, rfl, nofun, fun _ => ⟨rfl, rfl⟩, fun hn => absurd hrep hn⟩
  · rw [if_pos ⟨hr, hrep⟩, deskStep,
      queue_queued true st r.clocks .ok _ _ _ (fun hc => hrep (hl.mp hc)) rfl]
    obtain ⟨w, ws, hw⟩ := List.exists_cons_of_ne_nil (hwait hr hrep)
    have hf : (findServiceReplyRoute true st.routes r.sourceRid r.clocks.nowMs .ok).2.2 =
        some w.route := by
      rw [find_route _ _ _ (hr ▸ hs), hr, usable_eq h.queued hfresh, hw]
      rfl
    have hq := queued_find h.queued hfresh r.sourceRid
    rw [hw] at hq
    refine ⟨⟨?_, ?_⟩, _, rfl, rfl, ?_, fun hc => absurd hc hrep,
      fun _ => ⟨rfl, w, ws, hw, ?_⟩⟩
    · simp only [hf, hw, List.tail_cons]
      exact queued_erase hq
    · rw [hr]
      exact remembers_mark hrecent hr hrep
    · intro name file hpub
      simp only [hf] at hpub
      rw [publish_effects (find_effects _ _ _ _ _) hpub]
      exact ⟨rfl, rfl⟩
    · simp only [hf]
      exact routing_publish (find_effects _ _ _ _ _) _ _ _ _ _

/-- The accepted ones of some deliveries. -/
def accepted (ds : List Delivery) : List Delivery := ds.filter fun dl => dl.result = .QUEUED

theorem deliveries_cons (e : DeskEvent) (es : List DeskEvent) :
    deliveries s maxAgeSeconds st (e :: es) =
      ((deskStep maxAgeSeconds st e).2.filter fun dl => dl.reply.sourceRid = s) ++
        deliveries s maxAgeSeconds (deskStep maxAgeSeconds st e).1 es := by
  rw [deliveries, Run.outputs_cons, List.filter_append]
  rfl

theorem length_results (earlier : ExpiryMap Bytes) (rs : List Reply) :
    ∀ as, (results earlier as rs).length = rs.length := by
  induction rs with
  | nil => exact fun _ => rfl
  | cons r rs ih =>
    intro as
    rw [results]
    split_ifs <;> rw [List.length_cons, List.length_cons, ih]

/-- What the deliveries `ds` of a run from `d` say, if the replies `rs` and the registrations `gs`
arrived. -/
structure Served (d : Desk) (rs : List Reply) (gs : List Registration) (ds : List Delivery) :
    Prop where
  reply : ds.map (·.reply) = rs
  written : ∀ dl ∈ ds, dl.Faithful
  conserved : ∃ rest, (accepted ds).map Delivery.routing ++ rest =
    (d.waiting ++ gs).map Registration.routing
  result : ds.map (·.result) = results d.earlier d.accepted rs
  dropped : ∀ dl ∈ ds, dl.result ≠ .QUEUED → dl.result = .DUPLICATE ∧ dl.effects = []

theorem registrations_register (g : Registration) (es : List DeskEvent) :
    registrations s (.register g :: es) =
      if g.serviceRid = s then g :: registrations s es else registrations s es := by
  rw [registrations, List.filterMap_cons]
  by_cases h : g.serviceRid = s
  · simp only [if_pos h]
    rfl
  · simp only [if_neg h]
    rfl

theorem replies_reply (r : Reply) (es : List DeskEvent) :
    replies s (.reply r :: es) =
      if r.sourceRid = s then r :: replies s es else replies s es := by
  rw [replies, List.filterMap_cons]
  by_cases h : r.sourceRid = s
  · simp only [if_pos h]
    rfl
  · simp only [if_neg h]
    rfl

section Served

variable {rs : List Reply} {gs : List Registration} {ds : List Delivery} {g : Registration}
  {r : Reply} {dl : Delivery}

theorem served_register (h : Served (d.step s (.register g)).1 rs gs ds) :
    Served d rs (if g.serviceRid = s then g :: gs else gs) ds := by
  rw [Desk.step] at h
  split_ifs at h ⊢
  · obtain ⟨rest, hrest⟩ := h.conserved
    refine ⟨h.reply, h.written, ⟨rest, hrest.trans ?_⟩, h.result, h.dropped⟩
    rw [List.append_assoc, List.singleton_append]
  · exact h

theorem served_reply_other (hr : r.sourceRid ≠ s) (h : Served (d.step s (.reply r)).1 rs gs ds) :
    Served d rs gs ds := by
  rw [Desk.step, if_neg fun hc => hr hc.1] at h
  exact ⟨h.reply, h.written, h.conserved, h.result, h.dropped⟩

/-- A repeated reply takes nothing from the queue. -/
theorem served_repeat (hdl : dl.reply = r) (hwr : dl.Faithful)
    (hrep : r.Repeats d.earlier d.accepted) (hres : dl.result = .DUPLICATE) (heff : dl.effects = [])
    (h : Served (d.step s (.reply r)).1 rs gs ds) : Served d (r :: rs) gs (dl :: ds) := by
  rw [Desk.step, if_neg fun hc => hc.2 hrep] at h
  refine ⟨congrArg₂ _ hdl h.reply, List.forall_mem_cons.mpr ⟨hwr, h.written⟩, ?_, ?_,
    List.forall_mem_cons.mpr ⟨fun _ => ⟨hres, heff⟩, h.dropped⟩⟩
  · rw [accepted, List.filter_cons, if_neg (by simp [hres])]
    exact h.conserved
  · rw [List.map_cons, hres, h.result, results, if_pos hrep]

/-- An accepted reply takes the first registration. -/
theorem served_accept {w : Registration} {ws : List Registration} (hdl : dl.reply = r)
    (hwr : dl.Faithful) (hr : r.sourceRid = s) (hrep : ¬ r.Repeats d.earlier d.accepted) (hw : d.waiting = w :: ws)
    (hres : dl.result = .QUEUED) (hroute : dl.routing = w.routing)
    (h : Served (d.step s (.reply r)).1 rs gs ds) :
    Served d (r :: rs) gs (dl :: ds) := by
  rw [Desk.step, if_pos ⟨hr, hrep⟩] at h
  refine ⟨congrArg₂ _ hdl h.reply, List.forall_mem_cons.mpr ⟨hwr, h.written⟩, ?_, ?_,
    List.forall_mem_cons.mpr ⟨fun hn => absurd hres hn, h.dropped⟩⟩
  · obtain ⟨rest, hrest⟩ := h.conserved
    rw [hw, List.tail_cons] at hrest
    refine ⟨rest, ?_⟩
    rw [accepted, List.filter_cons, if_pos (decide_eq_true hres), List.map_cons, hroute, hw,
      List.cons_append, List.cons_append, List.map_cons]
    exact congrArg _ hrest
  · rw [List.map_cons, hres, h.result, results, if_neg hrep]

end Served

/-- **A run serves the queue.** -/
theorem run_served (hs : s ≠ 0) (es : List DeskEvent) :
    ∀ (d : Desk) (st : TextState), Sim s maxAgeSeconds d st →
      Run.Along (Desk.step s) (Desk.Promises s maxAgeSeconds) d es →
      Served d (replies s es) (registrations s es) (deliveries s maxAgeSeconds st es) := by
  induction es with
  | nil => exact fun d st _ _ => ⟨rfl, nofun, ⟨_, rfl⟩, rfl, nofun⟩
  | cons e es ih =>
    intro d st h hes
    obtain ⟨hp, hes⟩ := (Run.along_cons_iff e es).mp hes
    rw [deliveries_cons]
    cases e with
    | register g =>
      rw [registrations_register]
      exact served_register (ih _ _ (sim_register h hp) hes)
    | reply r =>
      rw [replies_reply]
      by_cases hr : r.sourceRid = s
      · obtain ⟨hsim, dl, hout, hreply, hwr, hdup, hacc⟩ := sim_reply hs h hp hr
        have hd := ih _ _ hsim hes
        rw [if_pos hr, hout, List.filter_cons, if_pos (decide_eq_true (hreply ▸ hr)),
          List.filter_nil, List.singleton_append]
        by_cases hrep : r.Repeats d.earlier d.accepted
        · exact served_repeat hreply hwr hrep (hdup hrep).1 (hdup hrep).2 hd
        · obtain ⟨hres, w, ws, hw, hroute⟩ := hacc hrep
          exact served_accept hreply hwr hr hrep hw hres hroute hd
      · have hd := ih _ _ (sim_reply_other h hp hr) hes
        rw [if_neg hr, show (deskStep maxAgeSeconds st (.reply r)).2.filter
          (fun dl => dl.reply.sourceRid = s) = [] from
            List.filter_eq_nil_iff.mpr fun dl hdl => ?_, List.nil_append]
        · exact served_reply_other hr hd
        · rw [deskStep, List.mem_singleton] at hdl
          rw [hdl, decide_eq_true_iff]
          exact hr

theorem sim_start (h : NoRouteFor s st.routes) :
    Sim s maxAgeSeconds ⟨st.recentBmTmsReplies, [], [], 0⟩ st where
  queued := ⟨nofun, nofun, List.Pairwise.nil,
    fun path file hf nowMs r hv => absurd hv (h path file hf nowMs r)⟩
  recent _ _ _ _ := ⟨Or.inl, fun hl => hl.elim id fun ⟨_, ha, _⟩ => nomatch ha⟩

/-- **Service replies are first-in first-out.** In an orderly run the accepted replies of `s` are
written for the registered requesters in the order of their registration, each consuming the route
file of its request. A reply is accepted unless it repeats one accepted less than sixty seconds before, and a
dropped reply leaves the files as they are. If no reply was dropped and there are as many replies as
registrations, every reply goes to its requester and every route file is consumed once. -/
theorem replies_fifo (s maxAgeSeconds : ℕ) (hs : s ≠ 0) (st : TextState)
    (hst : NoRouteFor s st.routes) (es : List DeskEvent)
    (hes : Orderly s maxAgeSeconds st.recentBmTmsReplies es) :
    let ds := deliveries s maxAgeSeconds st es
    ds.map (·.reply) = replies s es ∧ (∀ dl ∈ ds, dl.Faithful) ∧
    (accepted ds).map Delivery.routing <+: (registrations s es).map Registration.routing ∧
    ds.map (·.result) = results st.recentBmTmsReplies [] (replies s es) ∧
    (∀ dl ∈ ds, dl.result ≠ .QUEUED → dl.result = .DUPLICATE ∧ dl.effects = []) ∧
    ((∀ x ∈ results st.recentBmTmsReplies [] (replies s es), x = .QUEUED) →
      (replies s es).length = (registrations s es).length →
      ds.map Delivery.routing = (registrations s es).map Registration.routing) := by
  have h := run_served hs es _ st (sim_start hst) hes
  obtain ⟨rest, hrest⟩ := h.conserved
  refine ⟨h.reply, h.written, ⟨rest, hrest⟩, h.result, h.dropped, fun hall hlen => ?_⟩
  have hacc : accepted (deliveries s maxAgeSeconds st es) = deliveries s maxAgeSeconds st es := by
    refine List.filter_eq_self.mpr fun dl hdl => decide_eq_true (hall _ ?_)
    rw [← h.result]
    exact List.mem_map_of_mem hdl
  rw [hacc] at hrest
  have hlength := congrArg List.length hrest
  have hresults := congrArg List.length h.result
  rw [List.length_map, length_results, hlen] at hresults
  simp only [List.nil_append, List.length_append, List.length_map] at hlength
  rw [List.eq_nil_of_length_eq_zero (l := rest) (by omega), List.append_nil] at hrest
  exact hrest

/-! ## Two requests of one service -/

/-- Radios 101 and 102 ask service 262993, and two texts come back ten seconds apart. -/
def twoRequests (text text' : Bytes) : List DeskEvent :=
  [.register ⟨1000, 101, 262993, [0x61]⟩, .register ⟨2000, 102, 262993, [0x62]⟩,
    .reply ⟨262993, 2621, text, seconds 3, 3000⟩,
    .reply ⟨262993, 2621, text', seconds 13, 13000⟩]

theorem replies_fifo_twoRequests :
    (deliveries 262993 900 .init (twoRequests [0x41] [0x42])).map Delivery.routing =
      (registrations 262993 (twoRequests [0x41] [0x42])).map Registration.routing :=
  (replies_fifo 262993 900 (by decide) .init nofun (twoRequests [0x41] [0x42])
    (by decide +kernel)).2.2.2.2.2 (by decide +kernel) (by decide +kernel)

/-- **Equal replies of two requests.** The second is dropped and its requester gets nothing. -/
theorem fifo_not_twoEqualReplies :
    ¬ ∀ es, Orderly 262993 900 ExpiryMap.empty es →
      (replies 262993 es).length = (registrations 262993 es).length →
      (deliveries 262993 900 .init es).map Delivery.routing =
        (registrations 262993 es).map Registration.routing := by
  intro h
  have h2 := h (twoRequests [0x41] [0x41]) (by decide +kernel) (by decide +kernel)
  exact absurd h2 (by decide +kernel)

end Sms
