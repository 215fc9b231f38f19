import Mathlib.Data.List.Sort
import QuantarBridge.Lib.Decimal
import QuantarBridge.Lib.Dict

/-!
# Service routes

A request to a service leaves a route file that names the service and the requester. A reply of the
service is delivered to the requester of its first usable route, in the order of the file names,
and the file is consumed.

* `RouteFile`, `writeServiceRoute`: what the SMS bridge registers;
* `listing`: the route files in the order of their names;
* `examine`, `scanRoutes`: what a reply makes of the listed files;
* `scanRoutes_snd`, `scanRoutes_fst`: the scan finds the first usable route and drops only expired
  files.
-/

set_option autoImplicit false

namespace Sms

open Lib

/-- A value of a YAML document. Converting a value of the wrong form throws. -/
inductive Field (α : Type)
  | absent
  | value (a : α)
  | bad
  deriving DecidableEq

/-- The converted value, or the default when it is absent. -/
def Field.getOr {α : Type} (default : α) : Field α → Option α
  | .absent => some default
  | .value a => some a
  | .bad => none

/-- The fields of a route document. -/
structure RouteDocument where
  createdAtMs : Field ℕ
  expiresAtMs : Field ℕ
  serviceRid : Field ℕ
  requesterRid : Field ℕ
  deriving DecidableEq

/-- A file of the route directory. There is no document when the file is no YAML or a scalar, which has
no keys; the fields of an empty file or of a list are absent. -/
structure RouteFile where
  regular : Bool
  document : Option RouteDocument
  deriving DecidableEq

/-- The route directory. -/
abbrev RouteDirectory := Dict Bytes RouteFile

/-- The extension of a route file. -/
def jsonSuffix : Bytes := ascii ['.', 'j', 's', 'o', 'n']

/-- The file name of a route. -/
def routeFileName (createdAtMs serviceRid requesterRid : ℕ) (uuid : Bytes) : Bytes :=
  padded 13 createdAtMs ++ 0x2D :: (decimal serviceRid ++ 0x2D :: (decimal requesterRid ++
    0x2D :: (uuid ++ jsonSuffix)))

/-- Register a request for a service. -/
def writeServiceRoute (maxAgeSeconds : ℕ) (routes : RouteDirectory) (createdAtMs requesterRid
    serviceRid : ℕ) (uuid : Bytes) : RouteDirectory :=
  routes.set (routeFileName createdAtMs serviceRid requesterRid uuid)
    { regular := true
      document := some
        { createdAtMs := .value createdAtMs
          expiresAtMs := .value (createdAtMs + maxAgeSeconds * 1000)
          serviceRid := .value serviceRid
          requesterRid := .value requesterRid } }

/-- A name with the extension `.json`. -/
def hasJsonExtension (name : Bytes) : Bool := jsonSuffix.isSuffixOf name ∧ name ≠ jsonSuffix

/-- The order of the files by name. -/
abbrev NameLe (a b : Bytes × RouteFile) : Prop := Bytes.leb a.1 b.1 = true

instance : Std.Total NameLe := ⟨fun a b => (Bool.or_eq_true _ _).mp (Bytes.leb_total a.1 b.1)⟩

instance : IsTrans (Bytes × RouteFile) NameLe := ⟨fun a b c => Bytes.leb_trans a.1 b.1 c.1⟩

/-- The route files in the order of their names. -/
def listing (routes : RouteDirectory) : List (Bytes × RouteFile) :=
  (routes.entries.filter fun e => e.2.regular ∧ hasJsonExtension e.1).insertionSort NameLe

/-- What the bridge makes of one route file. -/
inductive Verdict
  | expired
  | route (requesterRid : ℕ)
  | skip
  deriving DecidableEq

/-- How long a route is kept without a time of its own. -/
def kServiceReplyRouteMaxAgeMs : ℕ := 15 * 60 * 1000

/-- Read one route document. An exception skips the file. -/
def examine (serviceRid nowMs : ℕ) (document : Option RouteDocument) : Verdict :=
  (do
    let route ← document
    let createdAtMs ← route.createdAtMs.getOr 0
    let expiresAtMs ← route.expiresAtMs.getOr
      (if 0 < createdAtMs then (createdAtMs + kServiceReplyRouteMaxAgeMs) % 2 ^ 64 else 0)
    if expiresAtMs = 0 ∨ expiresAtMs ≤ nowMs then return .expired
    let routeServiceRid ← route.serviceRid.getOr 0
    let requesterRid ← route.requesterRid.getOr 0
    return if routeServiceRid = serviceRid ∧ requesterRid ≠ 0 then .route requesterRid
      else .skip : Option Verdict).getD .skip

/-- The route a reply follows. -/
structure ServiceReplyRoute where
  requesterRid : ℕ
  path : Bytes
  deriving DecidableEq

/-- The expired files up to the first usable route, and this route. -/
def scanRoutes (serviceRid nowMs : ℕ) (readable : Bytes → Bool) :
    List (Bytes × RouteFile) → List Bytes × Option ServiceReplyRoute
  | [] => ([], none)
  | (path, file) :: rest =>
    match examine serviceRid nowMs (if readable path then file.document else none) with
    | .expired => (path :: (scanRoutes serviceRid nowMs readable rest).1,
        (scanRoutes serviceRid nowMs readable rest).2)
    | .route requesterRid => ([], some ⟨requesterRid, path⟩)
    | .skip => scanRoutes serviceRid nowMs readable rest

/-! ## Lemmas -/

section Listing

variable {routes : RouteDirectory}

theorem mem_listing_iff (e : Bytes × RouteFile) : e ∈ listing routes ↔
    routes.get? e.1 = some e.2 ∧ e.2.regular = true ∧ hasJsonExtension e.1 = true := by
  rw [listing, List.mem_insertionSort, List.mem_filter, Dict.mem_entries_iff, decide_eq_true_iff]

theorem listing_sorted : (listing routes).Pairwise NameLe := List.pairwise_insertionSort _ _

theorem nodup_listing : ((listing routes).map Prod.fst).Nodup := by
  have hp := (List.perm_insertionSort NameLe (routes.entries.filter fun e => e.2.regular ∧
    hasJsonExtension e.1)).map Prod.fst
  exact hp.nodup_iff.mpr (routes.nodup.sublist (List.filter_sublist.map _))

theorem listing_strict : (listing routes).Pairwise fun a b => Bytes.nats a.1 < Bytes.nats b.1 := by
  refine (listing_sorted.and (List.pairwise_map.mp nodup_listing)).imp fun h => ?_
  exact lt_of_le_of_ne ((Bytes.leb_iff _ _).mp h.1) fun he => h.2 (Bytes.nats_inj he)

end Listing

section Scan

variable (serviceRid nowMs : ℕ) (readable : Bytes → Bool)

/-- What the bridge makes of a listed file. -/
def verdictOf (e : Bytes × RouteFile) : Verdict :=
  examine serviceRid nowMs (if readable e.1 then e.2.document else none)

/-- The route a listed file gives. -/
def usableRoute (e : Bytes × RouteFile) : Option ServiceReplyRoute :=
  match verdictOf serviceRid nowMs readable e with
  | .route requesterRid => some ⟨requesterRid, e.1⟩
  | _ => none

/-- **The scan finds the first usable route.** -/
theorem scanRoutes_snd (files : List (Bytes × RouteFile)) :
    (scanRoutes serviceRid nowMs readable files).2 =
      (files.filterMap (usableRoute serviceRid nowMs readable)).head? := by
  induction files with
  | nil => rfl
  | cons e files ih =>
    rw [scanRoutes, List.filterMap_cons, usableRoute, verdictOf]
    cases examine serviceRid nowMs (if readable e.1 then e.2.document else none) with
    | expired => exact ih
    | route r => rfl
    | skip => exact ih

/-- Only expired files are dropped. -/
theorem scanRoutes_fst {files : List (Bytes × RouteFile)} {path : Bytes}
    (h : path ∈ (scanRoutes serviceRid nowMs readable files).1) :
    ∃ e ∈ files, e.1 = path ∧ verdictOf serviceRid nowMs readable e = .expired := by
  induction files with
  | nil => cases h
  | cons e files ih =>
    rw [scanRoutes] at h
    cases hv : examine serviceRid nowMs (if readable e.1 then e.2.document else none) with
    | expired =>
      rw [hv] at h
      rcases List.mem_cons.mp h with rfl | h
      · exact ⟨e, List.mem_cons_self, rfl, hv⟩
      · obtain ⟨e', he, h'⟩ := ih h
        exact ⟨e', List.mem_cons_of_mem _ he, h'⟩
    | route r => rw [hv] at h; cases h
    | skip =>
      rw [hv] at h
      obtain ⟨e', he, h'⟩ := ih h
      exact ⟨e', List.mem_cons_of_mem _ he, h'⟩

end Scan

end Sms
