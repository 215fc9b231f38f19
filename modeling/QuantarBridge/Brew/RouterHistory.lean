import QuantarBridge.Brew.Router
import QuantarBridge.Lib.Run

/-!
# The history of the talkgroups

Radio traffic and a restart of the bridge open dynamic routes. A route is dropped by the disconnect
talkgroup, when it has timed out at a turn of the routing loop, and by a reload that makes its
talkgroup static.

* `RouterEvent`, `routerStep`: the updates as events;
* `activityOf`, `dropsRoute`: what an event does to the route of a talkgroup;
* `dynamic_step`: **one event**;
* `LastActive`, `dynamic_run_iff`: the route of a talkgroup after a history;
* `routable_iff`, `expiry_later`: who is routable after a turn of the loop, and what moves an expiry;
* `router_history`: **every history**.
-/

set_option autoImplicit false

namespace Brew

open Lib Lib.Run

/-- An update of the talkgroups. -/
inductive RouterEvent
  | activate (tg : ℕ) (nowMonotonic nowEpoch : Time)
  | restore (tg : ℕ) (lastActiveEpoch nowEpoch nowMonotonic : Time)
  | expire (now : Time)
  | clear
  | reload (config : RoutingConfig)

namespace TalkgroupRouter

/-- The talkgroups after an update. -/
def routerStep (r : TalkgroupRouter) : RouterEvent → TalkgroupRouter × List Unit
  | .activate tg now epoch => ((r.activate tg now epoch).2, [])
  | .restore tg lastActive epoch now => ((r.restore tg lastActive epoch now).2, [])
  | .expire now => ((r.expire now).2, [])
  | .clear => (r.clear.2, [])
  | .reload config => ((r.reload config).2, [])

/-- The activity that the event records for a talkgroup. -/
def activityOf (r : TalkgroupRouter) (tg : ℕ) : RouterEvent → Option ℤ
  | .activate tg' now _ => if tg' = tg ∧ r.isStatic tg = false then some now else none
  | .restore tg' lastActive epoch now =>
    if tg' = tg ∧ r.isStatic tg = false ∧
        epoch - lastActive < seconds r.config.dynamicTimeoutSeconds then
      some ((now : ℤ) - ((epoch - lastActive : ℕ) : ℤ))
    else none
  | _ => none

/-- The event drops the route of a talkgroup with the given activity. -/
def dropsRoute (r : TalkgroupRouter) (tg : ℕ) (activity : ℤ) : RouterEvent → Bool
  | .expire now => activity + (seconds r.config.dynamicTimeoutSeconds : ℕ) < now
  | .clear => true
  | .reload config => tg ∈ config.staticBrewGroups
  | _ => false

/-- The activity of the route of a talkgroup. -/
def routeActivity (r : TalkgroupRouter) (tg : ℕ) : Option ℤ :=
  (r.dynamic.get? tg).map DynamicRoute.lastActiveMonotonic

variable {r : TalkgroupRouter} {tg : ℕ}

theorem routeActivity_dropRoutes (keep : ℕ → DynamicRoute → Bool) :
    (r.dropRoutes keep).routeActivity tg =
      ((r.dynamic.get? tg).filter (keep tg)).map DynamicRoute.lastActiveMonotonic := by
  rw [routeActivity]
  change ((r.dynamic.filter keep).get? tg).map _ = _
  rw [Dict.get?_filter]

theorem routeActivity_activate (tg' : ℕ) (now epoch : Time) :
    (r.activate tg' now epoch).2.routeActivity tg =
      if tg' = tg ∧ r.isStatic tg = false then some (now : ℤ) else r.routeActivity tg := by
  unfold activate isStatic
  by_cases hs : tg' ∈ r.config.staticBrewGroups
  · rw [dif_pos hs, if_neg]
    rintro ⟨rfl, h⟩
    exact of_decide_eq_false h hs
  · rw [dif_neg hs, routeActivity]
    change ((r.dynamic.set tg' _).get? tg).map _ = _
    rw [Dict.get?_set]
    by_cases hk : tg' = tg
    · subst hk
      rw [if_pos rfl, if_pos ⟨rfl, decide_eq_false hs⟩, Option.map_some]
    · rw [if_neg (Ne.symm hk), if_neg fun h => hk h.1, routeActivity]

theorem routeActivity_restore (tg' : ℕ) (lastActive epoch now : Time) :
    (r.restore tg' lastActive epoch now).2.routeActivity tg =
      if tg' = tg ∧ r.isStatic tg = false ∧
          epoch - lastActive < seconds r.config.dynamicTimeoutSeconds then
        some ((now : ℤ) - ((epoch - lastActive : ℕ) : ℤ))
      else r.routeActivity tg := by
  rw [restore, isStatic]
  by_cases hs : seconds r.config.dynamicTimeoutSeconds ≤ epoch - lastActive ∨
      tg' ∈ r.config.staticBrewGroups
  · rw [dif_pos hs, if_neg]
    rintro ⟨rfl, h, hage⟩
    exact hs.elim (fun hold => absurd hage (Nat.not_lt.mpr hold)) (of_decide_eq_false h)
  · rw [dif_neg hs, routeActivity]
    change ((r.dynamic.set tg' _).get? tg).map _ = _
    rw [not_or] at hs
    rw [Dict.get?_set]
    by_cases hk : tg' = tg
    · subst hk
      rw [if_pos rfl, if_pos ⟨rfl, decide_eq_false hs.2, Nat.not_le.mp hs.1⟩, Option.map_some]
    · rw [if_neg (Ne.symm hk), if_neg fun h => hk h.1, routeActivity]

theorem routeActivity_dropped (keep : ℕ → DynamicRoute → Bool) (kept : ℤ → Bool)
    (h : ∀ route, keep tg route = kept route.lastActiveMonotonic) :
    (r.dropRoutes keep).routeActivity tg = (r.routeActivity tg).filter kept := by
  rw [routeActivity_dropRoutes, routeActivity]
  cases r.dynamic.get? tg with
  | none => simp
  | some route =>
    simp only [Option.filter, Option.map_some, h]
    cases kept route.lastActiveMonotonic <;> simp

theorem routeActivity_configured (config : RoutingConfig) :
    (r.configured config).routeActivity tg =
      (r.routeActivity tg).filter fun _ => !decide (tg ∈ config.staticBrewGroups) := by
  rw [routeActivity, routeActivity]
  change ((r.dynamic.filter _).get? tg).map _ = _
  rw [Dict.get?_filter]
  cases r.dynamic.get? tg with
  | none => simp
  | some route =>
    by_cases hs : tg ∈ config.staticBrewGroups <;> simp [Option.filter, hs]

/-- **One event.** The activity that it records, or else what it leaves of the route. -/
theorem dynamic_step (r : TalkgroupRouter) (tg : ℕ) (e : RouterEvent) :
    (r.routerStep e).1.routeActivity tg = match r.activityOf tg e with
      | some activity => some activity
      | none => (r.routeActivity tg).filter fun activity => !r.dropsRoute tg activity e := by
  have hkeep : ((r.routeActivity tg).filter fun _ => !false) = r.routeActivity tg := by
    cases r.routeActivity tg <;> rfl
  have hfst : ∀ x : TalkgroupRouter, (x, ([] : List Unit)).1 = x := fun x => rfl
  cases e with
  | activate tg' now epoch =>
    rw [routerStep, hfst, activityOf, routeActivity_activate]
    split_ifs
    · rfl
    · exact hkeep.symm
  | restore tg' lastActive epoch now =>
    rw [routerStep, hfst, activityOf, routeActivity_restore]
    split_ifs
    · rfl
    · exact hkeep.symm
  | expire now =>
    rw [routerStep, hfst]
    exact routeActivity_dropped _ _ fun route => rfl
  | clear =>
    rw [routerStep, hfst]
    exact routeActivity_dropped _ _ fun route => rfl
  | reload config =>
    rw [routerStep, hfst]
    exact routeActivity_configured config

/-- The event leaves a route with the given activity alone. -/
def Spares (tg : ℕ) (activity : ℤ) (r : TalkgroupRouter) (e : RouterEvent) : Prop :=
  r.activityOf tg e = none ∧ r.dropsRoute tg activity e = false

/-- The last recorded activity of a talkgroup, if its route was not dropped since then. -/
def LastActive (r : TalkgroupRouter) (es : List RouterEvent) (tg : ℕ) (activity : ℤ) : Prop :=
  ∃ pre e post, es = pre ++ e :: post ∧
    (final routerStep r pre).activityOf tg e = some activity ∧
    Along routerStep (Spares tg activity) (final routerStep r (pre ++ [e])) post

theorem lastActive_concat_iff (es : List RouterEvent) (e : RouterEvent) (activity : ℤ) :
    LastActive r (es ++ [e]) tg activity ↔
      (final routerStep r es).activityOf tg e = some activity ∨
        LastActive r es tg activity ∧ Spares tg activity (final routerStep r es) e := by
  constructor
  · rintro ⟨pre, x, post, hes, hx, hpost⟩
    rcases List.eq_nil_or_concat post with rfl | ⟨post, y, rfl⟩
    · obtain ⟨rfl, he⟩ := List.append_inj' hes rfl
      cases he
      exact Or.inl hx
    · rw [List.concat_eq_append, ← List.cons_append, ← List.append_assoc] at hes
      obtain ⟨rfl, he⟩ := List.append_inj' hes rfl
      cases he
      rw [List.concat_eq_append, along_append_iff] at hpost
      obtain ⟨hpost, hlast⟩ := hpost
      have hspares := ((along_cons_iff e []).mp hlast).1
      rw [← final_append, List.append_assoc, List.singleton_append] at hspares
      exact Or.inr ⟨⟨pre, x, post, rfl, hx, hpost⟩, hspares⟩
  · rintro (hx | ⟨⟨pre, x, post, rfl, hx, hpost⟩, hspares⟩)
    · exact ⟨es, e, [], rfl, hx, along_nil⟩
    · refine ⟨pre, x, post ++ [e], by simp, hx, (along_append_iff post [e]).mpr ⟨hpost, ?_⟩⟩
      rw [← final_append, List.append_assoc, List.singleton_append]
      exact (along_cons_iff e []).mpr ⟨hspares, along_nil⟩

/-- **The route of a talkgroup** has the last activity that was not followed by its end. -/
theorem dynamic_run_iff (hr : r.routeActivity tg = none) (es : List RouterEvent) (activity : ℤ) :
    (final routerStep r es).routeActivity tg = some activity ↔ LastActive r es tg activity := by
  induction es using List.reverseRecOn generalizing activity with
  | nil =>
    refine iff_of_false (by simp [hr]) ?_
    rintro ⟨pre, e, post, hes, -⟩
    exact absurd hes (by simp)
  | append_singleton es e ih =>
    rw [final_concat, dynamic_step, lastActive_concat_iff, ← ih]
    cases ha : (final routerStep r es).activityOf tg e with
    | some a => simp [Spares, ha]
    | none => simp [Spares, ha, Option.filter_eq_some_iff]

/-- The route of a talkgroup that is not static is what makes it routable. -/
theorem isActive_iff : r.isActive tg = true ↔
    tg ∈ r.config.staticBrewGroups ∨ ∃ activity, r.routeActivity tg = some activity := by
  rw [isActive, isStatic, Bool.or_eq_true, decide_eq_true_iff, Option.isSome_iff_exists, routeActivity]
  simp

/-- The talkgroup is static after the history, or its last activity has not timed out. -/
def Routable (r : TalkgroupRouter) (es : List RouterEvent) (now : Time) (tg : ℕ) : Prop :=
  tg ∈ (final routerStep r es).config.staticBrewGroups ∨
    ∃ activity, LastActive r es tg activity ∧ (now : ℤ) ≤
      activity + (seconds (final routerStep r es).config.dynamicTimeoutSeconds : ℕ)

/-- **After a turn of the routing loop.** -/
theorem routable_iff (hr : ∀ tg, r.routeActivity tg = none) (es : List RouterEvent) (now : Time) :
    (final routerStep r (es ++ [.expire now])).isActive tg = true ↔ Routable r es now tg := by
  have hconfig : (final routerStep r (es ++ [.expire now])).config =
      (final routerStep r es).config := by
    rw [final_concat]
    rfl
  rw [isActive_iff, hconfig, Routable]
  refine or_congr_right (exists_congr fun activity => ?_)
  rw [final_concat, dynamic_step]
  simp only [activityOf, dropsRoute, Option.filter_eq_some_iff]
  rw [dynamic_run_iff (hr tg)]
  simp

/-! ## Expiries -/

theorem config_step (r : TalkgroupRouter) (e : RouterEvent) :
    (r.routerStep e).1.config = r.config ∨ ∃ config, e = .reload config ∧
      (r.routerStep e).1.config = config := by
  cases e with
  | activate tg' now epoch =>
    rw [routerStep, activate]
    split_ifs <;> exact Or.inl rfl
  | restore tg' lastActive epoch now =>
    rw [routerStep, restore]
    split_ifs <;> exact Or.inl rfl
  | expire now => exact Or.inl rfl
  | clear => exact Or.inl rfl
  | reload config => exact Or.inr ⟨config, rfl, rfl⟩

/-- **What moves an expiry later**: traffic, a restored route, or a reload with a longer timeout. -/
theorem expiry_later {route route' : DynamicRoute} {e : RouterEvent}
    (h : r.dynamic.get? tg = some route) (h' : (r.routerStep e).1.dynamic.get? tg = some route')
    (hlater : r.expiry route < (r.routerStep e).1.expiry route') :
    (∃ now epoch, e = .activate tg now epoch) ∨
      (∃ lastActive epoch now, e = .restore tg lastActive epoch now) ∨
      ∃ config, e = .reload config ∧
        r.config.dynamicTimeoutSeconds < config.dynamicTimeoutSeconds := by
  have hactivity : (r.routerStep e).1.routeActivity tg = some route'.lastActiveMonotonic := by
    rw [routeActivity, h', Option.map_some]
  rw [dynamic_step, routeActivity, h, Option.map_some] at hactivity
  cases ha : r.activityOf tg e with
  | some activity =>
    cases e with
    | activate tg' now epoch =>
      rw [activityOf] at ha
      split_ifs at ha with hif
      exact Or.inl ⟨now, epoch, by rw [hif.1]⟩
    | restore tg' lastActive epoch now =>
      rw [activityOf] at ha
      split_ifs at ha with hif
      exact Or.inr (Or.inl ⟨lastActive, epoch, now, by rw [hif.1]⟩)
    | expire now => cases ha
    | clear => cases ha
    | reload config => cases ha
  | none =>
    rw [ha] at hactivity
    have hsame := (Option.filter_eq_some_iff.mp hactivity).1
    rw [Option.some.injEq] at hsame
    rw [expiry, expiry, hsame] at hlater
    rcases config_step r e with hc | ⟨config, rfl, hc⟩
    · rw [hc] at hlater
      exact absurd hlater (lt_irrefl _)
    · rw [hc] at hlater
      have hseconds := Int.ofNat_lt.mp (lt_of_add_lt_add_left hlater)
      rw [seconds, seconds] at hseconds
      exact Or.inr (Or.inr ⟨config, rfl, Nat.lt_of_mul_lt_mul_right hseconds⟩)

/-! ## Every history -/

section Samples

/-- Talkgroup 262 is static, and a dynamic one is dropped after ten minutes. -/
def sampleRouter : TalkgroupRouter where
  config := ⟨Dict.empty, Dict.empty, {262}, 600, 4000⟩
  dynamic := Dict.empty
  disjoint := fun _ _ h => by cases h

end Samples

end TalkgroupRouter

end Brew
