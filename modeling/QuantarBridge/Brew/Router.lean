import Mathlib.Data.Finset.Sort
import QuantarBridge.Lib.Expiry

/-!
# Talkgroups of the audio bridge

The bridge routes calls between the P25 side and a BREW server. A talkgroup is active when it is
static, or when radio traffic opened it and it has not timed out. A static talkgroup never gets a
dynamic route, and a reload of the configuration drops the routes that became static.

* `TalkgroupRouter`: static and dynamic talkgroups, which never overlap;
* `brewForP25`, `p25ForBrew`: the two directions;
* `activate`, `restore`, `expire`, `clear`, `reload`: the updates, each with the talkgroups it changed;
* `mem_groups_activate`, `mem_groups_expire`, `mem_groups_clear`: the groups after an update.
-/

set_option autoImplicit false

namespace Brew

open Lib

/-- The part of the configuration that a reload replaces. -/
structure RoutingConfig where
  p25ToBrew : Dict ℕ ℕ
  brewToP25 : Dict ℕ ℕ
  staticBrewGroups : Finset ℕ
  dynamicTimeoutSeconds : ℕ
  disconnectTalkgroup : ℕ

/-- A route that radio traffic opened. The activity of a restored one may be older than the clock. -/
structure DynamicRoute where
  lastActiveMonotonic : ℤ
  lastActiveEpoch : Time
  deriving DecidableEq

/-- The talkgroups. No static one has a dynamic route. -/
structure TalkgroupRouter where
  config : RoutingConfig
  dynamic : Dict ℕ DynamicRoute
  disjoint : ∀ tg route, dynamic.get? tg = some route → tg ∉ config.staticBrewGroups

namespace TalkgroupRouter

variable (r : TalkgroupRouter)

/-- The talkgroup is one of the configured ones. -/
def isStatic (tg : ℕ) : Bool := tg ∈ r.config.staticBrewGroups

/-- The talkgroup is routed. -/
def isActive (tg : ℕ) : Bool := r.isStatic tg || (r.dynamic.get? tg).isSome

/-- The talkgroup of a call from the P25 side. -/
def brewForP25 (p25Talkgroup : ℕ) : Option ℕ :=
  if p25Talkgroup = r.config.disconnectTalkgroup then none
  else some ((r.config.p25ToBrew.get? p25Talkgroup).getD p25Talkgroup)

/-- The talkgroup of a call from the server. -/
def p25ForBrew (brewTalkgroup : ℕ) : Option ℕ :=
  if r.isActive brewTalkgroup = false then none
  else some ((r.config.brewToP25.get? brewTalkgroup).getD brewTalkgroup)

/-- The active talkgroups. -/
def groups : Finset ℕ := r.config.staticBrewGroups ∪ r.dynamic.keys.toFinset

/-- The active talkgroups in order. -/
def groupList : List ℕ := r.groups.sort (· ≤ ·)

/-- Radio traffic on a talkgroup. The answer is whether it opened a route. -/
def activate (brewTalkgroup : ℕ) (nowMonotonic nowEpoch : Time) : Bool × TalkgroupRouter :=
  if h : brewTalkgroup ∈ r.config.staticBrewGroups then (false, r)
  else ((r.dynamic.get? brewTalkgroup).isNone,
    { r with
      dynamic := r.dynamic.set brewTalkgroup ⟨nowMonotonic, nowEpoch⟩
      disjoint := by
        intro tg route hr
        rw [Dict.get?_set] at hr
        split_ifs at hr with hk
        · exact hk ▸ h
        · exact r.disjoint tg route hr })

/-- Take up a route of an earlier run, unless it has timed out. -/
def restore (brewTalkgroup : ℕ) (lastActiveEpoch nowEpoch nowMonotonic : Time) :
    Bool × TalkgroupRouter :=
  let age := nowEpoch - lastActiveEpoch
  if h : seconds r.config.dynamicTimeoutSeconds ≤ age ∨ brewTalkgroup ∈ r.config.staticBrewGroups then
    (false, r)
  else (true,
    { r with
      dynamic := r.dynamic.set brewTalkgroup ⟨(nowMonotonic : ℤ) - (age : ℤ), lastActiveEpoch⟩
      disjoint := by
        intro tg route hr
        rw [Dict.get?_set] at hr
        split_ifs at hr with hk
        · exact hk ▸ fun hs => h (Or.inr hs)
        · exact r.disjoint tg route hr })

/-- The time at which a route expires. -/
def expiry (route : DynamicRoute) : ℤ :=
  route.lastActiveMonotonic + (seconds r.config.dynamicTimeoutSeconds : ℕ)

/-- The route has not been used for too long. -/
def isExpired (route : DynamicRoute) (now : Time) : Bool := r.expiry route < now

/-- Drop routes. -/
def dropRoutes (keep : ℕ → DynamicRoute → Bool) : TalkgroupRouter where
  config := r.config
  dynamic := r.dynamic.filter keep
  disjoint := by
    intro tg route hr
    rw [Dict.get?_filter, Option.filter_eq_some_iff] at hr
    exact r.disjoint tg route hr.1

/-- Drop the routes that timed out. -/
def expire (now : Time) : Finset ℕ × TalkgroupRouter :=
  ((r.dynamic.filter fun _ route => r.isExpired route now).keys.toFinset,
    r.dropRoutes fun _ route => !r.isExpired route now)

/-- Drop every route. -/
def clear : Finset ℕ × TalkgroupRouter :=
  (r.dynamic.keys.toFinset, r.dropRoutes fun _ _ => false)

/-- A new configuration, and the routes that did not become static. -/
def configured (config : RoutingConfig) : TalkgroupRouter where
  config := config
  dynamic := r.dynamic.filter fun tg _ => tg ∉ config.staticBrewGroups
  disjoint := by
    intro tg route hr
    rw [Dict.get?_filter, Option.filter_eq_some_iff] at hr
    exact of_decide_eq_true hr.2

/-- Reload the configuration: the talkgroups that are gone and the new ones. -/
def reload (config : RoutingConfig) : (Finset ℕ × Finset ℕ) × TalkgroupRouter :=
  let r' := r.configured config
  ((r.groups \ r'.groups, r'.groups \ r.groups), r')

/-! ## The active talkgroups after an update -/

variable {r}

theorem mem_groups_iff {tg : ℕ} :
    tg ∈ r.groups ↔ tg ∈ r.config.staticBrewGroups ∨ ∃ route, r.dynamic.get? tg = some route := by
  rw [groups, Finset.mem_union, List.mem_toFinset, Dict.mem_keys_iff]

theorem p25ForBrew_eq_none_iff {tg : ℕ} : r.p25ForBrew tg = none ↔ r.isActive tg = false := by
  unfold p25ForBrew
  split_ifs with h
  · exact ⟨fun _ => h, fun _ => rfl⟩
  · exact ⟨fun hn => hn.elim, fun hf => absurd hf h⟩

/-- **Radio traffic** opens a route exactly when the talkgroup was not active. -/
theorem activate_created_iff (tg : ℕ) (now epoch : Time) :
    (r.activate tg now epoch).1 = true ↔ tg ∉ r.groups := by
  rw [mem_groups_iff, not_or, ← Option.isSome_iff_exists]
  unfold activate
  split_ifs with h
  · exact ⟨fun hf => hf.elim, fun hn => absurd h hn.1⟩
  · cases r.dynamic.get? tg <;> simp [h]

theorem mem_groups_activate (tg tg' : ℕ) (now epoch : Time) :
    tg' ∈ (r.activate tg now epoch).2.groups ↔ tg' = tg ∨ tg' ∈ r.groups := by
  unfold activate
  split_ifs with h
  · refine ⟨Or.inr, fun hg => hg.elim (fun he => ?_) id⟩
    exact mem_groups_iff.mpr (Or.inl (he ▸ h))
  · rw [mem_groups_iff, mem_groups_iff]
    simp only [Dict.get?_set]
    by_cases hk : tg' = tg
    · rw [if_pos hk]
      exact ⟨fun _ => Or.inl hk, fun _ => Or.inr ⟨_, rfl⟩⟩
    · rw [if_neg hk]
      exact ⟨Or.inr, fun hg => hg.resolve_left hk⟩

theorem mem_groups_dropRoutes (keep : ℕ → DynamicRoute → Bool) (tg : ℕ) :
    tg ∈ (r.dropRoutes keep).groups ↔
      tg ∈ r.groups ∧ tg ∉ (r.dynamic.filter fun tg route => !keep tg route).keys.toFinset := by
  rw [mem_groups_iff, mem_groups_iff, List.mem_toFinset, Dict.mem_keys_iff]
  show (tg ∈ r.config.staticBrewGroups ∨ ∃ route, (r.dynamic.filter keep).get? tg = some route) ↔ _
  simp only [Dict.get?_filter]
  cases hd : r.dynamic.get? tg with
  | none => simp
  | some route =>
    have hs := r.disjoint tg route hd
    cases hk : keep tg route <;> simp [Option.filter, hk, hs]

theorem mem_groups_expire (now : Time) (tg : ℕ) :
    tg ∈ (r.expire now).2.groups ↔ tg ∈ r.groups ∧ tg ∉ (r.expire now).1 := by
  have h := mem_groups_dropRoutes (r := r) (fun _ route => !r.isExpired route now) tg
  simp only [Bool.not_not] at h
  exact h

theorem mem_groups_clear (tg : ℕ) :
    tg ∈ r.clear.2.groups ↔ tg ∈ r.groups ∧ tg ∉ r.clear.1 := by
  have h := mem_groups_dropRoutes (r := r) (fun _ _ => false) tg
  have hall : (r.dynamic.filter fun _ _ => !false).keys = r.dynamic.keys := by
    unfold Dict.filter Dict.keys
    simp
  rw [hall] at h
  exact h

end TalkgroupRouter

end Brew
