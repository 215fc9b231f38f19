import QuantarBridge.Brew.Collection
import QuantarBridge.Lib.Decimal

/-!
# Routes for the replies of a service

Before a text is handed over to a service, the bridge writes a file that tells who asked, so that the
replies find their way back. When the text cannot be handed over, it is tried again, and the file has to
go. One of the two transports takes it away. The other one leaves it, and either of them leaves a
temporary file that could not be finished.

* `writeServiceRoute`, `flushPendingText`, `flushReadyText`: the code, with the directory of routes;
* `Unrouted`: a flush that fails leaves the directory as it was, `CleansUp`: when it does,
  `unrouted_iff`;
* `routes_iff`: **every run**: a delivered request has one route, and a failed one has none;
* `get?_flushReadyTexts`: the texts that go on waiting are those of the collector.
-/

set_option autoImplicit false

namespace Brew.ServiceRoutes

open Lib

/-! ## One text -/

/-- The name of a route file. -/
def routeName (createdAtMs serviceRid requesterRid : ℕ) (uuid : Bytes) : Bytes :=
  padded 13 createdAtMs ++ ascii ['-'] ++ decimal serviceRid ++ ascii ['-'] ++
    decimal requesterRid ++ ascii ['-'] ++ uuid ++ ascii ".json".toList

/-- The name of the file while it is written. -/
def temporaryName (name : Bytes) : Bytes := name ++ ascii ".tmp".toList

/-- What becomes of a route file. -/
inductive RouteWrite
  /-- The temporary file is not opened. -/
  | unopened
  /-- The temporary file is opened, and it is not written or not renamed. -/
  | unfinished
  | written
  deriving DecidableEq

/-- What becomes of a text that is sent. -/
inductive SendOutcome
  | raised (authentication : Bool)
  | returned (sent : Bool)
  deriving DecidableEq

/-- What the clock, the generator of identifiers, the file system and the transport do in a flush. -/
structure FlushOutcome where
  createdAtMs : ℕ
  uuid : Bytes
  route : RouteWrite
  send : SendOutcome
  /-- The route file can be removed. -/
  unlinked : Bool
  /-- The file for the P25 side or for BrandMeister is written. -/
  outbox : Bool

/-- How a flush ends. -/
inductive FlushResult
  | raised (authentication : Bool)
  | held | notSent | sent | queued
  deriving DecidableEq

/-- The directory of routes. -/
abbrev Routes := List Bytes

/-- Write the route of a service under a temporary name, and rename it. -/
def writeServiceRoute (name : Bytes) (write : RouteWrite) (routes : Routes) : Bool × Routes :=
  match write with
  | .unopened => (false, routes)
  | .unfinished => (false, routes ++ [temporaryName name])
  | .written => (true, routes ++ [name])

/-- Remove a route. -/
def unlink (name : Bytes) (routes : Routes) : Routes := routes.filter (· ≠ name)

/-- The route file of a text. -/
def routeFile (pending : PendingText) (o : FlushOutcome) : Bytes :=
  routeName o.createdAtMs pending.targetRid pending.sourceRid o.uuid

/-- Send a text to a service of the server. -/
def flushToBrew (pending : PendingText) (o : FlushOutcome) (routes : Routes) :
    FlushResult × Routes :=
  let name := routeFile pending o
  let (written, routes) := writeServiceRoute name o.route routes
  if written = false then (.raised false, routes)
  else match o.send with
    | .raised authentication =>
      if o.unlinked then (.raised authentication, unlink name routes) else (.raised false, routes)
    | .returned true => (.sent, routes)
    | .returned false =>
      if o.unlinked then (.notSent, unlink name routes) else (.raised false, routes)

/-- Queue a text to a service of BrandMeister. -/
def flushToBrandmeister (pending : PendingText) (o : FlushOutcome) (routes : Routes) :
    FlushResult × Routes :=
  let (written, routes) := writeServiceRoute (routeFile pending o) o.route routes
  if written = false then (.raised false, routes)
  -- an exception from here on does not remove the route
  else (if o.outbox then .queued else .raised false, routes)

/-- Hand a text over to the side it is for. -/
def flushPendingText (cfg : CollectorConfig) (pending : PendingText) (o : FlushOutcome)
    (routes : Routes) : FlushResult × Routes :=
  match (Brew.flushPendingText cfg pending).1 with
  | .localP25 => (if o.outbox then .queued else .raised false, routes)
  | .tetrapackBrew => flushToBrew pending o routes
  | .brewNotEnabled => (.held, routes)
  | .brandmeisterService => flushToBrandmeister pending o routes
  | .brandmeister => (if o.outbox then .queued else .raised false, routes)

/-! ## All texts -/

/-- The flush raised, or returned another status than sent or queued. -/
def FlushResult.failed : FlushResult → Bool
  | .sent | .queued => false
  | _ => true

/-- What the loop makes of a result. Only an exception is tried again. -/
def FlushResult.sendResult : FlushResult → SendResult
  | .raised true => .authenticationRejected
  | .raised false => .failed
  | _ => .handled

/-- The texts that wait, and the routes. -/
structure RouteState where
  pendingTexts : PendingTexts
  routes : Routes

/-- What becomes of a text. -/
inductive RouteEffect
  /-- The text is handed over, to a service with its route. -/
  | delivered (key : ℕ × ℕ) (route : Option Bytes)
  | undelivered (key : ℕ × ℕ)
  deriving DecidableEq

/-- The text goes to a service. -/
def toService (cfg : CollectorConfig) (pending : PendingText) : Bool :=
  (Brew.flushPendingText cfg pending).1 = .tetrapackBrew ∨
    (Brew.flushPendingText cfg pending).1 = .brandmeisterService

/-- The route of a text that is handed over. -/
def ownRoute (cfg : CollectorConfig) (pending : PendingText) (o : FlushOutcome) : Option Bytes :=
  if toService cfg pending then some (routeFile pending o) else none

/-- The turn of one text in `flush_ready_texts`. -/
def flushReadyText (cfg : CollectorConfig) (key : ℕ × ℕ) (now : Time) (force : Bool)
    (o : FlushOutcome) (s : RouteState) : RouteState × List RouteEffect :=
  match s.pendingTexts.get? key with
  | none => (s, [])
  | some pending =>
    if pending.fragments = [] then ({ s with pendingTexts := s.pendingTexts.erase key }, [])
    else if isReady pending now force = false then (s, [])
    else
      let (result, routes) := flushPendingText cfg pending o s.routes
      let pendingTexts := match afterFlush pending now force result.sendResult with
        | none => s.pendingTexts.erase key
        | some pending => s.pendingTexts.set key pending
      (⟨pendingTexts, routes⟩, if result.failed then [.undelivered key]
        else [.delivered key (ownRoute cfg pending o)])

/-- An event of the inbox, the turn of a text, and the loss of the texts with the process. -/
inductive RouteEvent
  | event (e : InboxEvent) (now : Time)
  | flush (key : ℕ × ℕ) (now : Time) (force : Bool) (o : FlushOutcome)
  | restarted

/-- One event of the collector with the routes. -/
def routeStep (cfg : CollectorConfig) (s : RouteState) : RouteEvent → RouteState × List RouteEffect
  | .event e now => ({ s with pendingTexts := processEvent s.pendingTexts e now }, [])
  | .flush key now force o => flushReadyText cfg key now force o s
  | .restarted => ({ s with pendingTexts := Dict.empty }, [])

/-- One pass over the texts that wait. -/
def flushReadyTexts (cfg : CollectorConfig) (now : Time) (force : Bool)
    (o : ℕ × ℕ → FlushOutcome) (s : RouteState) : RouteState × List RouteEffect :=
  let turns := s.pendingTexts.keys.map fun key => RouteEvent.flush key now force (o key)
  (Run.final (routeStep cfg) s turns, Run.outputs (routeStep cfg) s turns)

/-! ## A flush that fails -/

variable {cfg : CollectorConfig} {pending : PendingText} {o : FlushOutcome} {routes : Routes}

/-- The names of the route file are new. -/
def Fresh (pending : PendingText) (o : FlushOutcome) (routes : Routes) : Prop :=
  routeFile pending o ∉ routes ∧ temporaryName (routeFile pending o) ∉ routes

instance (pending : PendingText) (o : FlushOutcome) (routes : Routes) :
    Decidable (Fresh pending o routes) := inferInstanceAs (Decidable (_ ∧ _))

/-- A flush that fails leaves the routes as they were. -/
def Unrouted (cfg : CollectorConfig) (pending : PendingText) (o : FlushOutcome) (routes : Routes) :
    Prop :=
  (flushPendingText cfg pending o routes).1.failed = true →
    (flushPendingText cfg pending o routes).2 = routes

/-- The flush takes away what it wrote. -/
def CleansUp (cfg : CollectorConfig) (pending : PendingText) (o : FlushOutcome) : Prop :=
  match (Brew.flushPendingText cfg pending).1 with
  | .tetrapackBrew => o.route ≠ .unfinished ∧
      (o.route = .written → o.send ≠ .returned true → o.unlinked = true)
  | .brandmeisterService => o.route ≠ .unfinished ∧ (o.route = .written → o.outbox = true)
  | _ => True

theorem unlink_append {name : Bytes} (h : name ∉ routes) : unlink name (routes ++ [name]) = routes := by
  unfold unlink
  rw [List.filter_append, List.filter_eq_self.mpr, List.filter_eq_nil_iff.mpr, List.append_nil]
  · simp
  · intro other hm
    refine decide_eq_true ?_
    rintro rfl
    exact h hm

theorem unrouted_flushToBrew (hfresh : routeFile pending o ∉ routes) :
    ((flushToBrew pending o routes).1.failed = true → (flushToBrew pending o routes).2 = routes) ↔
      o.route ≠ .unfinished ∧
        (o.route = .written → o.send ≠ .returned true → o.unlinked = true) := by
  unfold flushToBrew writeServiceRoute
  dsimp only
  cases o.route with
  | unopened => simp
  | unfinished => simp [FlushResult.failed]
  | written =>
    rw [if_neg (by simp)]
    cases o.send with
    | raised authentication =>
      cases o.unlinked <;> simp [FlushResult.failed, unlink_append hfresh]
    | returned sent =>
      cases sent <;> cases o.unlinked <;> simp [FlushResult.failed, unlink_append hfresh]

theorem unrouted_flushToBrandmeister :
    ((flushToBrandmeister pending o routes).1.failed = true →
      (flushToBrandmeister pending o routes).2 = routes) ↔
      o.route ≠ .unfinished ∧ (o.route = .written → o.outbox = true) := by
  unfold flushToBrandmeister writeServiceRoute
  cases o.route with
  | unopened => simp
  | unfinished => simp [FlushResult.failed]
  | written => cases o.outbox <;> simp [FlushResult.failed]

/-- **A flush that fails** leaves no file behind exactly when it takes away what it wrote. -/
theorem unrouted_iff (hfresh : Fresh pending o routes) :
    Unrouted cfg pending o routes ↔ CleansUp cfg pending o := by
  unfold Unrouted CleansUp flushPendingText
  cases (Brew.flushPendingText cfg pending).1 with
  | localP25 => exact iff_of_true (fun _ => rfl) trivial
  | tetrapackBrew => exact unrouted_flushToBrew hfresh.1
  | brewNotEnabled => exact iff_of_true (fun _ => rfl) trivial
  | brandmeisterService => exact unrouted_flushToBrandmeister
  | brandmeister => exact iff_of_true (fun _ => rfl) trivial

/-- **A flush that succeeds** leaves one route for a service, and none otherwise. -/
theorem routes_of_delivered (h : (flushPendingText cfg pending o routes).1.failed = false) :
    (flushPendingText cfg pending o routes).2 = routes ++ (ownRoute cfg pending o).toList := by
  unfold ownRoute toService
  unfold flushPendingText at h ⊢
  cases ht : (Brew.flushPendingText cfg pending).1 with
  | localP25 => simp
  | brewNotEnabled => simp
  | brandmeister => simp
  | tetrapackBrew =>
    rw [ht] at h
    dsimp only at h ⊢
    unfold flushToBrew writeServiceRoute at h ⊢
    cases hr : o.route with
    | unopened => simp [hr, FlushResult.failed] at h
    | unfinished => simp [hr, FlushResult.failed] at h
    | written =>
      rw [hr] at h
      cases hs : o.send with
      | raised authentication => cases hu : o.unlinked <;> simp [hs, hu, FlushResult.failed] at h
      | returned sent =>
        cases sent with
        | true => simp
        | false => cases hu : o.unlinked <;> simp [hs, hu, FlushResult.failed] at h
  | brandmeisterService =>
    rw [ht] at h
    dsimp only at h ⊢
    unfold flushToBrandmeister writeServiceRoute at h ⊢
    cases hr : o.route with
    | unopened => simp [hr, FlushResult.failed] at h
    | unfinished => simp [hr, FlushResult.failed] at h
    | written => simp

/-! ## Every run -/

/-- The event tries to hand over a text. -/
def tries (s : RouteState) : RouteEvent → Option (PendingText × FlushOutcome)
  | .flush key now force o =>
    (s.pendingTexts.get? key).bind fun pending =>
      if pending.fragments ≠ [] ∧ isReady pending now force = true then some (pending, o) else none
  | _ => none

/-- The names of the route files are new. -/
def FreshNames (s : RouteState) (e : RouteEvent) : Prop :=
  ∀ t ∈ tries s e, Fresh t.1 t.2 s.routes

instance (s : RouteState) (e : RouteEvent) : Decidable (FreshNames s e) :=
  match h : tries s e with
  | none => isTrue fun t ht => absurd (h.symm.trans ht).symm (Option.some_ne_none t)
  | some t => decidable_of_iff (Fresh t.1 t.2 s.routes) (by
    unfold FreshNames
    rw [h]
    exact ⟨fun hf u hu => Option.some.inj hu ▸ hf, fun hf => hf t rfl⟩)

/-- What is written for a text that is not handed over is taken away. -/
def Clean (cfg : CollectorConfig) (s : RouteState) (e : RouteEvent) : Prop :=
  ∀ t ∈ tries s e, CleansUp cfg t.1 t.2

/-- The routes of the texts that were handed over. -/
def routesOf (effects : List RouteEffect) : List Bytes :=
  effects.filterMap fun
    | .delivered _ route => route
    | .undelivered _ => none

theorem routesOf_append (effects effects' : List RouteEffect) :
    routesOf (effects ++ effects') = routesOf effects ++ routesOf effects' := List.filterMap_append

variable (cfg) in
theorem routeStep_of_not_tries {s : RouteState} {e : RouteEvent} (h : tries s e = none) :
    (routeStep cfg s e).1.routes = s.routes ∧ routesOf (routeStep cfg s e).2 = [] := by
  cases e with
  | event e now => exact ⟨rfl, rfl⟩
  | restarted => exact ⟨rfl, rfl⟩
  | flush key now force o =>
    change (s.pendingTexts.get? key).bind _ = none at h
    show (flushReadyText cfg key now force o s).1.routes = _ ∧
      routesOf (flushReadyText cfg key now force o s).2 = _
    unfold flushReadyText
    cases hg : s.pendingTexts.get? key with
    | none => exact ⟨rfl, rfl⟩
    | some pending =>
      rw [hg] at h
      dsimp only
      by_cases hf : pending.fragments = []
      · rw [if_pos hf]
        exact ⟨rfl, rfl⟩
      rw [if_neg hf]
      by_cases hr : isReady pending now force = false
      · rw [if_pos hr]
        exact ⟨rfl, rfl⟩
      · have htry : pending.fragments ≠ [] ∧ isReady pending now force = true :=
          ⟨hf, Bool.eq_true_of_not_eq_false hr⟩
        rw [Option.bind_some, if_pos htry] at h
        exact absurd h (Option.some_ne_none _)

variable (cfg) in
theorem routeStep_of_tries {s : RouteState} {e : RouteEvent} {pending : PendingText}
    {o : FlushOutcome} (h : tries s e = some (pending, o)) :
    (routeStep cfg s e).1.routes = (flushPendingText cfg pending o s.routes).2 ∧
      routesOf (routeStep cfg s e).2 = if (flushPendingText cfg pending o s.routes).1.failed then []
        else (ownRoute cfg pending o).toList := by
  cases e with
  | event e now => exact absurd h.symm (Option.some_ne_none _)
  | restarted => exact absurd h.symm (Option.some_ne_none _)
  | flush key now force o' =>
    obtain ⟨pending', hg, h⟩ := Option.bind_eq_some_iff.mp h
    split_ifs at h with htry
    obtain ⟨rfl, rfl⟩ := Prod.mk.inj (Option.some.inj h)
    show (flushReadyText cfg key now force o' s).1.routes = _ ∧
      routesOf (flushReadyText cfg key now force o' s).2 = _
    unfold flushReadyText
    rw [hg]
    dsimp only
    rw [if_neg htry.1, if_neg (by rw [htry.2]; simp)]
    refine ⟨rfl, ?_⟩
    dsimp only
    split_ifs
    · rfl
    · cases ownRoute cfg pending' o' <;> simp [routesOf]

/-- **One step** adds the routes of what it hands over exactly when it cleans up. -/
theorem routes_step {s : RouteState} {e : RouteEvent} (hfresh : FreshNames s e) :
    (routeStep cfg s e).1.routes = s.routes ++ routesOf (routeStep cfg s e).2 ↔ Clean cfg s e := by
  unfold Clean
  cases ht : tries s e with
  | none =>
    obtain ⟨hr, he⟩ := routeStep_of_not_tries cfg ht
    rw [hr, he, List.append_nil]
    exact iff_of_true rfl fun _ h => absurd h.symm (Option.some_ne_none _)
  | some t =>
    obtain ⟨pending, o⟩ := t
    obtain ⟨hr, he⟩ := routeStep_of_tries cfg ht
    have hclean : (∀ t ∈ some (pending, o), CleansUp cfg t.1 t.2) ↔ CleansUp cfg pending o := by simp
    rw [hr, he, hclean, ← unrouted_iff (hfresh _ ht)]
    unfold Unrouted
    cases hfailed : (flushPendingText cfg pending o s.routes).1.failed with
    | true => simp
    | false => simp [routes_of_delivered hfailed]

/-- **Routes for the replies.** A flush that fails leaves the routes as they were exactly when it takes
away what it wrote. Over any number of tries the routes are at every point the ones at the start and one
for each request to a service that was handed over, exactly when every try cleans up. -/
theorem routes_iff (hfresh : Fresh pending o routes) (s : RouteState) (events : List RouteEvent)
    (hnames : Run.Along (routeStep cfg) FreshNames s events) :
    (Unrouted cfg pending o routes ↔ CleansUp cfg pending o) ∧
      ((∀ pre post, events = pre ++ post → (Run.final (routeStep cfg) s pre).routes =
          s.routes ++ routesOf (Run.outputs (routeStep cfg) s pre)) ↔
        Run.Along (routeStep cfg) (Clean cfg) s events) := by
  refine ⟨unrouted_iff hfresh, ?_⟩
  rw [Run.grows_iff_along RouteState.routes routesOf routesOf_append]
  constructor
  · exact fun h pre e post he => (routes_step (hnames pre e post he)).mp (h pre e post he)
  · exact fun h pre e post he => (routes_step (hnames pre e post he)).mpr (h pre e post he)

/-! ## The texts that wait -/

/-- How the transport ends does not depend on the routes. -/
theorem result_eq (routes' : Routes) : (flushPendingText cfg pending o routes).1 =
    (flushPendingText cfg pending o routes').1 := by
  unfold flushPendingText flushToBrew flushToBrandmeister writeServiceRoute
  cases (Brew.flushPendingText cfg pending).1 with
  | localP25 => rfl
  | brewNotEnabled => rfl
  | brandmeister => rfl
  | brandmeisterService => cases o.route <;> rfl
  | tetrapackBrew =>
    cases o.route with
    | unopened => rfl
    | unfinished => rfl
    | written => rcases o.send with _ | (_ | _) <;> cases o.unlinked <;> rfl

/-- What becomes of a text in its turn. -/
def afterTurn (cfg : CollectorConfig) (now : Time) (force : Bool) (o : FlushOutcome)
    (pending : PendingText) : Option PendingText :=
  afterFlush pending now force (flushPendingText cfg pending o []).1.sendResult

theorem get?_flushReadyText (cfg : CollectorConfig) (o : FlushOutcome) (s : RouteState)
    (key k : ℕ × ℕ) (now : Time) (force : Bool) :
    (flushReadyText cfg key now force o s).1.pendingTexts.get? k =
      if k = key then (s.pendingTexts.get? k).bind (afterTurn cfg now force o)
      else s.pendingTexts.get? k := by
  unfold flushReadyText
  cases hg : s.pendingTexts.get? key with
  | none =>
    split_ifs with hk
    · rw [hk, hg]
      rfl
    · rfl
  | some pending =>
    dsimp only
    by_cases hf : pending.fragments = []
    · rw [if_pos hf, Dict.get?_erase]
      split_ifs with hk
      · rw [hk, hg, Option.bind_some]
        unfold afterTurn afterFlush
        rw [if_pos hf]
      · rfl
    rw [if_neg hf]
    by_cases hr : isReady pending now force = false
    · rw [if_pos hr]
      split_ifs with hk
      · rw [hk, hg, Option.bind_some]
        unfold afterTurn afterFlush
        rw [if_neg hf, if_pos (by rw [hr]; simp)]
      · rfl
    rw [if_neg hr, result_eq []]
    dsimp only
    cases ha : afterFlush pending now force (flushPendingText cfg pending o []).1.sendResult with
    | none =>
      rw [Dict.get?_erase]
      split_ifs with hk
      · rw [hk, hg, Option.bind_some, afterTurn, ha]
      · rfl
    | some pending' =>
      rw [Dict.get?_set]
      split_ifs with hk
      · rw [hk, hg, Option.bind_some, afterTurn, ha]
      · rfl

/-- The turns of different texts do not disturb each other. -/
theorem get?_turns (now : Time) (force : Bool) (o : ℕ × ℕ → FlushOutcome) (keys : List (ℕ × ℕ))
    (hkeys : keys.Nodup) (k : ℕ × ℕ) : ∀ s : RouteState,
      (Run.final (routeStep cfg) s (keys.map fun key => RouteEvent.flush key now force
          (o key))).pendingTexts.get? k =
        if k ∈ keys then (s.pendingTexts.get? k).bind (afterTurn cfg now force (o k))
        else s.pendingTexts.get? k := by
  induction keys with
  | nil => exact fun s => (if_neg List.not_mem_nil).symm
  | cons key keys ih =>
    intro s
    obtain ⟨hkey, hkeys⟩ := List.nodup_cons.mp hkeys
    rw [List.map_cons, Run.final_cons, ih hkeys]
    have hturn := get?_flushReadyText cfg (o key) s key k now force
    change ((routeStep cfg s (.flush key now force (o key))).1.pendingTexts.get? k) = _ at hturn
    rw [hturn]
    by_cases hk : k = key
    · subst hk
      simp [hkey]
    · simp [hk]

/-- How the transport ends for a text that waits. -/
def sendOf (cfg : CollectorConfig) (o : ℕ × ℕ → FlushOutcome) (s : RouteState) (key : ℕ × ℕ) :
    SendResult :=
  (s.pendingTexts.get? key).elim .handled fun pending =>
    (flushPendingText cfg pending (o key) []).1.sendResult

/-- **One pass** leaves the texts waiting that the collector leaves. -/
theorem get?_flushReadyTexts (s : RouteState) (now : Time) (force : Bool)
    (o : ℕ × ℕ → FlushOutcome) (key : ℕ × ℕ) :
    (flushReadyTexts cfg now force o s).1.pendingTexts.get? key =
      (Brew.flushReadyTexts cfg s.pendingTexts now force (sendOf cfg o s)).1.get? key := by
  unfold flushReadyTexts Brew.flushReadyTexts
  dsimp only
  rw [get?_turns now force o s.pendingTexts.keys s.pendingTexts.nodup, Dict.get?_filterMap]
  cases hg : s.pendingTexts.get? key with
  | none => split_ifs <;> rfl
  | some pending =>
    rw [if_pos ((Dict.mem_keys_iff _ key).mpr ⟨pending, hg⟩), Option.bind_some, Option.bind_some,
      sendOf, hg]
    rfl

/-- Radio 9 is a service of BrandMeister. -/
def sampleServices : CollectorConfig := ⟨false, true, [], [9]⟩

/-- A text of radio 7 to the service. -/
def sampleRequest : InboxEvent where
  name := "a"
  application := .motorola_tms
  sourceRid := 7
  targetRid := 9
  texts := ["help".toList]
  rawIpPacket := false
  localDeliveryCandidate := false

/-- The route is written, and the file for BrandMeister can be written or not. -/
def sampleOutcome (n : UInt8) (outbox : Bool) : FlushOutcome where
  createdAtMs := 0
  uuid := [n]
  route := .written
  send := .returned true
  unlinked := true
  outbox := outbox

/-- The text is collected, and tried once before the route can be written and once after. -/
def sampleTries : List RouteEvent :=
  [.event sampleRequest 0,
    .flush (7, 9) (seconds 9) false { sampleOutcome 1 true with route := .unopened },
    .flush (7, 9) (seconds 18) false (sampleOutcome 2 true)]

/-- The text `help` from 7 to 9. -/
def samplePending : PendingText := ⟨7, 9, false, 0, 0, ["help".toList], ["a"]⟩

theorem routes_sample :
    (Unrouted sampleServices samplePending (sampleOutcome 1 true) [] ↔
        CleansUp sampleServices samplePending (sampleOutcome 1 true)) ∧
      ((∀ pre post, sampleTries = pre ++ post →
          (Run.final (routeStep sampleServices) ⟨Dict.empty, []⟩ pre).routes =
            [] ++ routesOf (Run.outputs (routeStep sampleServices) ⟨Dict.empty, []⟩ pre)) ↔
        Run.Along (routeStep sampleServices) (Clean sampleServices) ⟨Dict.empty, []⟩ sampleTries) :=
  routes_iff ⟨List.not_mem_nil, List.not_mem_nil⟩ ⟨Dict.empty, []⟩ sampleTries
    (by decide +kernel)

/-- **The text cannot be queued for BrandMeister**, and its route stays. -/
theorem not_unrouted_outbox : ¬ ∀ cfg pending o routes, Fresh pending o routes →
    Unrouted cfg pending o routes := by
  intro h
  have hleft := h sampleServices samplePending (sampleOutcome 1 false) []
    ⟨List.not_mem_nil, List.not_mem_nil⟩ (by decide +kernel)
  exact absurd hleft (by decide +kernel)

end Brew.ServiceRoutes
