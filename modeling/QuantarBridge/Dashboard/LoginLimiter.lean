import Mathlib.Data.List.Chain
import QuantarBridge.Lib.Expiry
import QuantarBridge.Lib.Run

/-!
# The login limiter

A login asks the limiter whether its address may try, verifies its password, and tells the limiter
the result. The three are separate steps, and the logins of one address overlap.

* `LoginLimiter.retryAfter`, `fail`, `success`: the failures of an address within the window;
* `LimiterState`, `LoginEvent`, `loginStep`: the logins as a machine;
* `evaluationsIn`, `BoundsGuesses`: the wrong passwords that are evaluated in a window;
* `Reserved`: **the condition**. When a login with a wrong password may try, the recorded failures
  and the logins with a wrong password under way leave a place;
* `WindowInv`: what holds in a window; `windowInv_step`, `boundsGuesses_of_reserved`.
-/

set_option autoImplicit false

namespace Dashboard

open Lib

/-- The parameters of the limiter. -/
structure LimiterConfig where
  maxAttempts : ℕ := 5
  window : Time := seconds 300

/-- A recorded failure. When its password was evaluated is not stored by the dashboard; it is the
history of the failure. -/
structure Attempt where
  recordedAt : Time
  evaluatedAt : Time
  deriving DecidableEq

/-- The failures of each address, the oldest first. -/
abbrev LoginLimiter (α : Type) := α → List Attempt

namespace LoginLimiter

variable {α : Type} [DecidableEq α] (cfg : LimiterConfig) (limiter : LoginLimiter α)

/-- Forget the failures before the window. -/
def forget (attempts : List Attempt) (now : Time) : List Attempt :=
  attempts.dropWhile fun a => cfg.window < now - a.recordedAt

/-- How long the address must wait, in seconds; `0` when it may try. -/
def wait (attempts : List Attempt) (now : Time) : ℕ :=
  if attempts.length < cfg.maxAttempts then 0
  else max 1 ((cfg.window - (now - (attempts.head?.elim 0 Attempt.recordedAt))) / seconds 1)

/-- Ask whether an address may try, and forget what is old. -/
def retryAfter (address : α) (now : Time) : LoginLimiter α × ℕ :=
  let attempts := forget cfg (limiter address) now
  (Function.update limiter address attempts, wait cfg attempts now)

/-- Record a failure. -/
def fail (address : α) (attempt : Attempt) : LoginLimiter α :=
  Function.update limiter address (limiter address ++ [attempt])

/-- Forget the failures of an address. -/
def success (address : α) : LoginLimiter α := Function.update limiter address []

end LoginLimiter

/-- A login under way: its address, whether its password is wrong, and when that was evaluated. -/
structure PendingLogin (α : Type) where
  address : α
  wrong : Bool
  evaluatedAt : Option Time
  deriving DecidableEq

/-- The limiter, the logins under way and the history: the wrong passwords that were evaluated and
the logins that succeeded. -/
structure LimiterState (α : Type) where
  limiter : LoginLimiter α
  pending : List (PendingLogin α)
  now : Time
  evaluations : List (α × Time)
  successes : List (α × Time)

/-- A step of a login. A login under way is known by its place. -/
inductive LoginEvent (α : Type)
  | retryAfter (address : α) (wrong : Bool) (now : Time)
  | verify (place : ℕ) (now : Time)
  /-- The result reaches the limiter. -/
  | finish (place : ℕ) (now : Time)
  /-- The request ends before its password is verified. -/
  | abandon (place : ℕ) (now : Time)
  deriving DecidableEq

section Machine

variable {α : Type} [DecidableEq α] (cfg : LimiterConfig)

/-- The time of an event. -/
def LoginEvent.time : LoginEvent α → Time
  | .retryAfter _ _ now | .verify _ now | .finish _ now | .abandon _ now => now

namespace LimiterState

/-- Nothing happened yet. -/
def init : LimiterState α := ⟨fun _ => [], [], 0, [], []⟩

variable (s : LimiterState α)

/-- An address asks, and its login waits for the check of the password when it may try. -/
def retryAfter (address : α) (wrong : Bool) (now : Time) : LimiterState α :=
  let asked := s.limiter.retryAfter cfg address now
  { s with
    limiter := asked.1
    pending := if asked.2 = 0 then s.pending ++ [⟨address, wrong, none⟩] else s.pending
    now := now }

/-- The password of a waiting login is checked. -/
def verify (place : ℕ) (now : Time) : LimiterState α :=
  match s.pending[place]? with
  | some ⟨address, wrong, none⟩ =>
    { s with
      pending := s.pending.set place ⟨address, wrong, some now⟩
      now := now
      evaluations := if wrong then s.evaluations ++ [(address, now)] else s.evaluations }
  | _ => { s with now := now }

/-- A login whose password was checked ends. -/
def finish (place : ℕ) (now : Time) : LimiterState α :=
  match s.pending[place]? with
  | some ⟨address, true, some evaluatedAt⟩ =>
    { s with
      limiter := s.limiter.fail address ⟨now, evaluatedAt⟩
      pending := s.pending.eraseIdx place
      now := now }
  | some ⟨address, false, some _⟩ =>
    { s with
      limiter := s.limiter.success address
      pending := s.pending.eraseIdx place
      now := now
      successes := s.successes ++ [(address, now)] }
  | _ => { s with now := now }

/-- A login goes away before its password is checked. -/
def abandon (place : ℕ) (now : Time) : LimiterState α :=
  match s.pending[place]? with
  | some ⟨_, _, none⟩ => { s with pending := s.pending.eraseIdx place, now := now }
  | _ => { s with now := now }

/-- The logins of an address under way whose password is wrong. -/
def wrongPending (address : α) : ℕ :=
  s.pending.countP fun p => p.address = address ∧ p.wrong = true

end LimiterState

/-- The logins as a machine. -/
def loginStep (s : LimiterState α) : LoginEvent α → LimiterState α × List Empty
  | .retryAfter address wrong now => (s.retryAfter cfg address wrong now, [])
  | .verify place now => (s.verify place now, [])
  | .finish place now => (s.finish place now, [])
  | .abandon place now => (s.abandon place now, [])

/-- The times of a run do not decrease. -/
def LoginsOrdered (start : Time) (es : List (LoginEvent α)) : Prop :=
  (start :: es.map LoginEvent.time).IsChain (· ≤ ·)

instance (start : Time) (es : List (LoginEvent α)) : Decidable (LoginsOrdered start es) :=
  inferInstanceAs (Decidable (List.IsChain _ _))

/-- The wrong passwords of an address that were evaluated in the window from `start`. -/
def evaluationsIn (s : LimiterState α) (address : α) (start : Time) : ℕ :=
  s.evaluations.countP fun e => e.1 = address ∧ start ≤ e.2 ∧ e.2 ≤ start + cfg.window

/-- No login of the address succeeded in the window from `start`. -/
def NoSuccess (s : LimiterState α) (address : α) (start : Time) : Prop :=
  ∀ e ∈ s.successes, e.1 = address → ¬ (start ≤ e.2 ∧ e.2 ≤ start + cfg.window)

/-- In every window in which no login of an address succeeds, at most `maxAttempts` of its wrong
passwords are evaluated. -/
def BoundsGuesses (s : LimiterState α) : Prop :=
  ∀ address start, NoSuccess cfg s address start → evaluationsIn cfg s address start ≤ cfg.maxAttempts

/-- **The condition.** When a login with a wrong password may try, the recorded failures of its
address and the logins with a wrong password under way are fewer than the attempts allowed. -/
def Reserved (s : LimiterState α) : LoginEvent α → Prop
  | .retryAfter address true now => (s.limiter.retryAfter cfg address now).2 = 0 →
      (LoginLimiter.forget cfg (s.limiter address) now).length + s.wrongPending address <
        cfg.maxAttempts
  | _ => True

instance (s : LimiterState α) : (e : LoginEvent α) → Decidable (Reserved cfg s e)
  | .retryAfter _ true _ => inferInstanceAs (Decidable (_ → _))
  | .retryAfter _ false _ => isTrue trivial
  | .verify _ _ => isTrue trivial
  | .finish _ _ => isTrue trivial
  | .abandon _ _ => isTrue trivial

/-- The limiter lets an address try only while fewer failures are recorded. -/
theorem retryAfter_eq_zero_iff (limiter : LoginLimiter α) (address : α) (now : Time) :
    (limiter.retryAfter cfg address now).2 = 0 ↔
      (LoginLimiter.forget cfg (limiter address) now).length < cfg.maxAttempts := by
  simp only [LoginLimiter.retryAfter, LoginLimiter.wait]
  split_ifs with h
  · exact iff_of_true rfl h
  · exact iff_of_false (by omega) h

/-- A login that overlaps no other wrong one of its address has its place by the limiter's own
check. -/
theorem reserved_of_alone (s : LimiterState α) (address : α) (now : Time)
    (h : s.wrongPending address = 0) : Reserved cfg s (.retryAfter address true now) := by
  intro hw
  rw [h, Nat.add_zero]
  exact (retryAfter_eq_zero_iff cfg s.limiter address now).mp hw

/-! ## The invariant -/

/-- Evaluated wrong passwords of an address, since `start`, that are not yet recorded. -/
def unrecorded (s : LimiterState α) (address : α) (start : Time) : ℕ :=
  s.pending.countP fun p => (p.address = address ∧ p.wrong = true) ∧
    p.evaluatedAt.any (fun t => start ≤ t) = true

/-- Recorded failures of an address whose password was evaluated since `start`. -/
def recorded (s : LimiterState α) (address : α) (start : Time) : ℕ :=
  (s.limiter address).countP fun a => start ≤ a.evaluatedAt

/-- What holds in every state: times are past, and every address has its attempts at most, those
under way included. -/
structure LimiterInv (s : LimiterState α) : Prop where
  evaluations : ∀ e ∈ s.evaluations, e.2 ≤ s.now
  pending : ∀ p ∈ s.pending, ∀ t ∈ p.evaluatedAt, t ≤ s.now
  recorded : ∀ address, ∀ a ∈ s.limiter address, a.evaluatedAt ≤ a.recordedAt
  room : ∀ address, (s.limiter address).length + s.wrongPending address ≤ cfg.maxAttempts

/-- What holds in a window without success: its evaluations are recorded or under way as long as it
lasts. -/
def WindowInv (s : LimiterState α) (address : α) (start : Time) : Prop :=
  NoSuccess cfg s address start → evaluationsIn cfg s address start ≤ cfg.maxAttempts ∧
    (s.now ≤ start + cfg.window →
      evaluationsIn cfg s address start ≤ recorded s address start + unrecorded s address start)

end Machine

section Steps

variable {α : Type} [DecidableEq α] {cfg : LimiterConfig} {s s' : LimiterState α} {address : α}
  {start : Time}

theorem exists_split {β : Type} {l : List β} {i : ℕ} {x : β} (h : l[i]? = some x) :
    ∃ before after, l = before ++ x :: after ∧ l.eraseIdx i = before ++ after ∧
      ∀ y, l.set i y = before ++ y :: after := by
  induction l generalizing i with
  | nil => simp at h
  | cons a l ih =>
    cases i with
    | zero =>
      rw [List.getElem?_cons_zero, Option.some.injEq] at h
      exact ⟨[], l, by rw [h]; rfl, rfl, fun y => rfl⟩
    | succ i =>
      rw [List.getElem?_cons_succ] at h
      obtain ⟨before, after, hl, he, hs⟩ := ih h
      refine ⟨a :: before, after, by rw [hl]; rfl, ?_, fun y => ?_⟩
      · rw [List.eraseIdx_cons_succ, he]
        rfl
      · rw [List.set_cons_succ, hs]
        rfl

theorem recorded_forget (attempts : List Attempt) {now : Time}
    (hr : ∀ a ∈ attempts, a.evaluatedAt ≤ a.recordedAt) (hn : now ≤ start + cfg.window) :
    attempts.countP (fun a => start ≤ a.evaluatedAt) ≤
      (LoginLimiter.forget cfg attempts now).countP fun a => start ≤ a.evaluatedAt := by
  induction attempts with
  | nil => exact Nat.zero_le _
  | cons a attempts ih =>
    rw [List.forall_mem_cons] at hr
    unfold LoginLimiter.forget at ih ⊢
    by_cases hold : cfg.window < now - a.recordedAt
    · -- the dropped failure was evaluated before the window
      have hbefore : ¬ start ≤ a.evaluatedAt := by
        intro hle
        have hlate : now ≤ a.recordedAt + cfg.window :=
          hn.trans (Nat.add_le_add_right (hle.trans hr.1) _)
        exact absurd hold (Nat.not_lt.mpr (Nat.sub_le_iff_le_add'.mpr hlate))
      rw [List.dropWhile_cons_of_pos (by simpa using hold), List.countP_cons_of_neg (by simpa using
        hbefore)]
      exact ih hr.2
    · rw [List.dropWhile_cons_of_neg (by simpa using hold)]

theorem forget_subset (attempts : List Attempt) (now : Time) :
    ∀ a ∈ LoginLimiter.forget cfg attempts now, a ∈ attempts := fun _ h =>
  (List.dropWhile_sublist _).subset h

theorem length_forget_le (attempts : List Attempt) (now : Time) :
    (LoginLimiter.forget cfg attempts now).length ≤ attempts.length :=
  (List.dropWhile_sublist _).length_le

/-! ### Every state -/

theorem limiterInv_retryAfter (h : LimiterInv cfg s) (address : α) (wrong : Bool) {now : Time}
    (ht : s.now ≤ now) (hr : Reserved cfg s (.retryAfter address wrong now)) :
    LimiterInv cfg (s.retryAfter cfg address wrong now) := by
  have hlim : ∀ address', (s.retryAfter cfg address wrong now).limiter address' =
      if address' = address then LoginLimiter.forget cfg (s.limiter address) now
      else s.limiter address' := fun address' => Function.update_apply _ _ _ _
  refine ⟨fun e he => (h.evaluations e he).trans ht, fun p hp t htp => ?_, ?_, ?_⟩
  · have hp' : p ∈ s.pending ∨ p = ⟨address, wrong, none⟩ := by
      simp only [LimiterState.retryAfter] at hp
      split_ifs at hp
      · simpa using hp
      · exact Or.inl hp
    rcases hp' with hp' | rfl
    · exact (h.pending p hp' t htp).trans ht
    · cases htp
  · intro address' a ha
    rw [hlim] at ha
    split_ifs at ha with he
    · exact h.recorded address a (forget_subset _ _ a ha)
    · exact h.recorded address' a ha
  · intro address'
    have hroom := h.room address'
    have hle : (LoginLimiter.forget cfg (s.limiter address) now).length ≤ _ :=
      length_forget_le (s.limiter address) now
    rw [hlim]
    simp only [LimiterState.wrongPending, LimiterState.retryAfter] at hroom ⊢
    by_cases hz : (s.limiter.retryAfter cfg address now).2 = 0
    · rw [if_pos hz, List.countP_append, List.countP_singleton]
      cases wrong with
      | false =>
        simp only [Bool.false_eq_true, and_false, decide_false, if_false, Nat.add_zero]
        split_ifs with he
        · rw [he] at hroom ⊢
          omega
        · exact hroom
      | true =>
        by_cases he : address' = address
        · have hlt : _ + s.wrongPending address < cfg.maxAttempts := hr hz
          rw [LimiterState.wrongPending] at hlt
          simp only [he, if_true, and_self, decide_true]
          omega
        · have hne : ¬ address = address' := fun hn => he hn.symm
          simp only [he, hne, if_false, false_and, decide_false, Bool.false_eq_true]
          omega
    · rw [if_neg hz]
      split_ifs with he
      · rw [he] at hroom ⊢
        omega
      · exact hroom

theorem limiterInv_verify (h : LimiterInv cfg s) (place : ℕ) {now : Time} (ht : s.now ≤ now) :
    LimiterInv cfg (s.verify place now) := by
  have hidle : LimiterInv cfg { s with now := now } :=
    ⟨fun e he => (h.evaluations e he).trans ht, fun p hp t htp => (h.pending p hp t htp).trans ht,
      h.recorded, h.room⟩
  unfold LimiterState.verify
  split
  · rename_i address wrong hp
    obtain ⟨before, after, hl, -, hs⟩ := exists_split hp
    refine ⟨fun e he => ?_, fun p hm t htp => ?_, h.recorded, fun address' => ?_⟩
    · dsimp only at he ⊢
      split_ifs at he
      · rcases List.mem_append.mp he with he | he
        · exact (h.evaluations e he).trans ht
        · rw [List.mem_singleton.mp he]
      · exact (h.evaluations e he).trans ht
    · dsimp only at hm ⊢
      rw [hs] at hm
      rcases List.mem_append.mp hm with hm | hm
      · exact (h.pending p (hl ▸ List.mem_append_left _ hm) t htp).trans ht
      · rcases List.mem_cons.mp hm with rfl | hm
        · exact Nat.le_of_eq (Option.some.inj htp).symm
        · exact (h.pending p (hl ▸ List.mem_append_right _ (List.mem_cons_of_mem _ hm)) t htp).trans ht
    · have hroom := h.room address'
      simp only [LimiterState.wrongPending, hs] at hroom ⊢
      rw [hl] at hroom
      simp only [List.countP_append, List.countP_cons] at hroom ⊢
      exact hroom
  · exact hidle

theorem limiterInv_finish (h : LimiterInv cfg s) (place : ℕ) {now : Time} (ht : s.now ≤ now) :
    LimiterInv cfg (s.finish place now) := by
  have hev : ∀ e ∈ s.evaluations, e.2 ≤ now := fun e he => (h.evaluations e he).trans ht
  have hpend : ∀ p ∈ s.pending, ∀ t ∈ p.evaluatedAt, t ≤ now := fun p hp t htp =>
    (h.pending p hp t htp).trans ht
  unfold LimiterState.finish
  split
  · rename_i address evaluatedAt hp
    obtain ⟨before, after, hl, he, -⟩ := exists_split hp
    refine ⟨hev, fun p hm => hpend p (List.mem_of_mem_eraseIdx hm), ?_, ?_⟩
    · intro address' a ha
      simp only [LoginLimiter.fail, Function.update_apply] at ha
      split_ifs at ha with hadd
      · rcases List.mem_append.mp ha with ha | ha
        · exact h.recorded address a ha
        · rw [List.mem_singleton.mp ha]
          exact hpend _ (List.mem_of_getElem? hp) _ rfl
      · exact h.recorded address' a ha
    · intro address'
      have hroom := h.room address'
      simp only [LimiterState.wrongPending, he, LoginLimiter.fail, Function.update_apply] at hroom ⊢
      rw [hl] at hroom
      simp only [List.countP_append, List.countP_cons] at hroom ⊢
      by_cases hadd : address' = address
      · subst hadd
        simp only [if_true, List.length_append, List.length_singleton, and_self, decide_true] at hroom ⊢
        omega
      · rw [if_neg hadd]
        omega
  · rename_i address evaluatedAt hp
    obtain ⟨before, after, hl, he, -⟩ := exists_split hp
    refine ⟨hev, fun p hm => hpend p (List.mem_of_mem_eraseIdx hm), ?_, ?_⟩
    · intro address' a ha
      simp only [LoginLimiter.success, Function.update_apply] at ha
      split_ifs at ha with hadd
      · exact absurd ha List.not_mem_nil
      · exact h.recorded address' a ha
    · intro address'
      have hroom := h.room address'
      simp only [LimiterState.wrongPending, he, LoginLimiter.success, Function.update_apply]
        at hroom ⊢
      rw [hl] at hroom
      simp only [List.countP_append, List.countP_cons] at hroom ⊢
      split_ifs with hadd
      · rw [List.length_nil]
        omega
      · omega
  · exact ⟨hev, hpend, h.recorded, h.room⟩

theorem limiterInv_abandon (h : LimiterInv cfg s) (place : ℕ) {now : Time} (ht : s.now ≤ now) :
    LimiterInv cfg (s.abandon place now) := by
  have hev : ∀ e ∈ s.evaluations, e.2 ≤ now := fun e he => (h.evaluations e he).trans ht
  have hpend : ∀ p ∈ s.pending, ∀ t ∈ p.evaluatedAt, t ≤ now := fun p hp t htp =>
    (h.pending p hp t htp).trans ht
  unfold LimiterState.abandon
  split
  · refine ⟨hev, fun p hm => hpend p (List.mem_of_mem_eraseIdx hm), h.recorded, fun address' => ?_⟩
    have hroom := h.room address'
    have hle : (s.pending.eraseIdx place).countP
        (fun p => p.address = address' ∧ p.wrong = true) ≤ s.wrongPending address' :=
      (List.eraseIdx_sublist _ _).countP_le
    simp only [LimiterState.wrongPending] at hroom hle ⊢
    omega
  · exact ⟨hev, hpend, h.recorded, h.room⟩

theorem limiterInv_step (h : LimiterInv cfg s) (e : LoginEvent α) (ht : s.now ≤ e.time)
    (hr : Reserved cfg s e) : LimiterInv cfg (loginStep cfg s e).1 := by
  cases e with
  | retryAfter address wrong now => exact limiterInv_retryAfter h address wrong ht hr
  | verify place now => exact limiterInv_verify h place ht
  | finish place now => exact limiterInv_finish h place ht
  | abandon place now => exact limiterInv_abandon h place ht

/-! ### A window -/

/-- Recorded and unrecorded failures have their places. -/
theorem recorded_add_unrecorded_le (h : LimiterInv cfg s) (address : α) (start : Time) :
    recorded s address start + unrecorded s address start ≤ cfg.maxAttempts := by
  have hroom := h.room address
  have hrec : recorded s address start ≤ (s.limiter address).length := List.countP_le_length
  have hunrec : unrecorded s address start ≤ s.wrongPending address :=
    List.countP_mono_left fun p _ hp => by
      simp only [decide_eq_true_eq] at hp ⊢
      exact hp.1
  omega

theorem evaluationsIn_eq_zero (h : ∀ e ∈ s.evaluations, e.2 ≤ s.now) (hs : s.now < start) :
    evaluationsIn cfg s address start = 0 := by
  rw [evaluationsIn, List.countP_eq_zero]
  intro e he hw
  have hle := (of_decide_eq_true hw).2.1
  exact absurd ((hle.trans (h e he)).trans_lt hs) (Nat.lt_irrefl _)

/-- **The rule for a step.** While the window lasts its evaluations stay recorded or under way, and
after it there are no new ones. -/
theorem windowInv_of (h : WindowInv cfg s address start) (hinv : LimiterInv cfg s')
    (hnow : s.now ≤ s'.now) (hsucc : s.successes ⊆ s'.successes)
    (hlate : start + cfg.window < s'.now →
      evaluationsIn cfg s' address start ≤ evaluationsIn cfg s address start)
    (hopen : NoSuccess cfg s' address start → s'.now ≤ start + cfg.window →
      evaluationsIn cfg s address start ≤ recorded s address start + unrecorded s address start →
      evaluationsIn cfg s' address start ≤
        recorded s' address start + unrecorded s' address start) :
    WindowInv cfg s' address start := by
  intro hno
  have hold := h fun e he => hno e (hsucc he)
  have hlast : s'.now ≤ start + cfg.window → evaluationsIn cfg s' address start ≤
      recorded s' address start + unrecorded s' address start := fun hn =>
    hopen hno hn (hold.2 (hnow.trans hn))
  refine ⟨?_, hlast⟩
  by_cases hn : s'.now ≤ start + cfg.window
  · exact (hlast hn).trans (recorded_add_unrecorded_le hinv address start)
  · exact (hlate (Nat.lt_of_not_le hn)).trans hold.1

theorem windowInv_retryAfter (h : WindowInv cfg s address start) (hinv : LimiterInv cfg s)
    (asking : α) (wrong : Bool) {now : Time} (ht : s.now ≤ now)
    (hinv' : LimiterInv cfg (s.retryAfter cfg asking wrong now)) :
    WindowInv cfg (s.retryAfter cfg asking wrong now) address start := by
  refine windowInv_of h hinv' ht (fun e he => he) (fun _ => le_rfl) fun _ hn hle => hle.trans ?_
  refine Nat.add_le_add ?_ ?_
  · simp only [recorded, LimiterState.retryAfter, LoginLimiter.retryAfter, Function.update_apply]
    split_ifs with ha
    · rw [ha]
      exact recorded_forget _ (hinv.recorded asking) hn
    · exact le_rfl
  · simp only [unrecorded, LimiterState.retryAfter]
    split_ifs
    · rw [List.countP_append]
      exact Nat.le_add_right _ _
    · exact le_rfl

theorem windowInv_verify (h : WindowInv cfg s address start) (place : ℕ) {now : Time}
    (ht : s.now ≤ now) (hinv' : LimiterInv cfg (s.verify place now)) :
    WindowInv cfg (s.verify place now) address start := by
  refine windowInv_of h hinv' ?_ ?_ (fun hn => ?_) fun _ hn hle => ?_
  · unfold LimiterState.verify
    split <;> exact ht
  · unfold LimiterState.verify
    split <;> exact fun e he => he
  · -- after the window
    unfold LimiterState.verify evaluationsIn at *
    split at hn
    · simp only
      split_ifs
      · have hnot : ¬ now ≤ start + cfg.window := Nat.not_le.mpr hn
        rw [List.countP_append, List.countP_singleton]
        simp [hnot]
      · exact le_rfl
    · exact le_rfl
  · unfold LimiterState.verify at hn ⊢
    split at hn
    · rename_i asking wrong hp
      obtain ⟨before, after, hl, -, hs⟩ := exists_split hp
      simp only [evaluationsIn, recorded, unrecorded, hs] at hle ⊢
      rw [hl] at hle
      simp only [List.countP_append, List.countP_cons] at hle ⊢
      cases wrong with
      | false =>
        simp only [Bool.false_eq_true, if_false, and_false, false_and, decide_false] at hle ⊢
        exact hle
      | true =>
        have hn' : now ≤ start + cfg.window := hn
        by_cases ha : asking = address
        · by_cases hs : start ≤ now
          · simp [ha, hs, hn'] at hle ⊢
            omega
          · simp [ha, hs] at hle ⊢
            exact hle
        · simp [ha] at hle ⊢
          exact hle
    · exact hle

theorem windowInv_finish (h : WindowInv cfg s address start) (hinv : LimiterInv cfg s) (place : ℕ)
    {now : Time} (ht : s.now ≤ now) (hinv' : LimiterInv cfg (s.finish place now)) :
    WindowInv cfg (s.finish place now) address start := by
  have hev : (s.finish place now).evaluations = s.evaluations := by
    unfold LimiterState.finish
    split <;> rfl
  have hsame : evaluationsIn cfg (s.finish place now) address start =
      evaluationsIn cfg s address start := by rw [evaluationsIn, hev, evaluationsIn]
  have hnow : (s.finish place now).now = now := by
    unfold LimiterState.finish
    split <;> rfl
  refine windowInv_of h hinv' ?_ ?_ (fun _ => Nat.le_of_eq hsame) fun hno hn hle => ?_
  · rw [hnow]
    exact ht
  · unfold LimiterState.finish
    split
    · exact fun e he => he
    · exact List.subset_append_left _ _
    · exact fun e he => he
  · rw [hsame]
    rw [hnow] at hn
    unfold LimiterState.finish at hno ⊢
    split at hno
    · rename_i asking evaluatedAt hp
      obtain ⟨before, after, hl, he, -⟩ := exists_split hp
      refine hle.trans ?_
      simp only [recorded, unrecorded, he, LoginLimiter.fail, Function.update_apply]
      rw [hl]
      simp only [List.countP_append, List.countP_cons]
      by_cases ha : asking = address
      · by_cases hs : start ≤ evaluatedAt
        · simp [ha, hs]
          omega
        · simp [ha, hs]
      · have ha' : ¬ address = asking := fun hn => ha hn.symm
        simp [ha, ha']
    · rename_i asking evaluatedAt hp
      obtain ⟨before, after, hl, he, -⟩ := exists_split hp
      by_cases ha : asking = address
      · -- the login succeeds before the window
        have hout := hno (asking, now) (by simp) ha
        have hbefore : now < start := by
          by_contra hnb
          exact hout ⟨Nat.le_of_not_lt hnb, hn⟩
        rw [evaluationsIn_eq_zero hinv.evaluations (Nat.lt_of_le_of_lt ht hbefore)]
        exact Nat.zero_le _
      · have ha' : ¬ address = asking := fun hn => ha hn.symm
        refine hle.trans ?_
        simp only [recorded, unrecorded, he, LoginLimiter.success, Function.update_apply]
        rw [hl]
        simp [ha']
    · exact hle

theorem windowInv_abandon (h : WindowInv cfg s address start) (place : ℕ) {now : Time}
    (ht : s.now ≤ now) (hinv' : LimiterInv cfg (s.abandon place now)) :
    WindowInv cfg (s.abandon place now) address start := by
  unfold LimiterState.abandon at hinv' ⊢
  split at hinv'
  · rename_i asking wrong hp
    obtain ⟨before, after, hl, he, -⟩ := exists_split hp
    refine windowInv_of h hinv' ht (fun e he => he) (fun _ => le_rfl) fun _ _ hle => hle.trans ?_
    simp only [recorded, unrecorded, he]
    rw [hl]
    simp
  · exact windowInv_of h hinv' ht (fun e he => he) (fun _ => le_rfl) fun _ _ hle => hle

theorem windowInv_step (h : WindowInv cfg s address start) (hinv : LimiterInv cfg s)
    (e : LoginEvent α) (ht : s.now ≤ e.time) (hinv' : LimiterInv cfg (loginStep cfg s e).1) :
    WindowInv cfg (loginStep cfg s e).1 address start := by
  cases e with
  | retryAfter asking wrong now => exact windowInv_retryAfter h hinv asking wrong ht hinv'
  | verify place now => exact windowInv_verify h place ht hinv'
  | finish place now => exact windowInv_finish h hinv place ht hinv'
  | abandon place now => exact windowInv_abandon h place ht hinv'

/-! ### Runs -/

theorem loginStep_now (s : LimiterState α) (e : LoginEvent α) :
    (loginStep cfg s e).1.now = e.time := by
  cases e with
  | retryAfter asking wrong now => rfl
  | verify place now =>
    simp only [loginStep, LimiterState.verify, LoginEvent.time]
    split <;> rfl
  | finish place now =>
    simp only [loginStep, LimiterState.finish, LoginEvent.time]
    split <;> rfl
  | abandon place now =>
    simp only [loginStep, LimiterState.abandon, LoginEvent.time]
    split <;> rfl

theorem windowInv_run (es : List (LoginEvent α)) : ∀ s : LimiterState α,
    LoginsOrdered s.now es → Run.Along (loginStep cfg) (Reserved cfg) s es → LimiterInv cfg s →
      (∀ address start, WindowInv cfg s address start) →
        ∀ address start, WindowInv cfg (Run.final (loginStep cfg) s es) address start := by
  induction es with
  | nil => exact fun s _ _ _ h => h
  | cons e es ih =>
    intro s ho hc hinv h
    rw [LoginsOrdered, List.map_cons, List.isChain_cons_cons] at ho
    rw [Run.along_cons_iff] at hc
    have hinv' := limiterInv_step hinv e ho.1 hc.1
    refine ih _ ?_ hc.2 hinv' fun address start => windowInv_step (h address start) hinv e ho.1 hinv'
    rw [loginStep_now]
    exact ho.2

end Steps

/-- **The limiter bounds guesses** in every run in which a login with a wrong password may try only
while the recorded failures of its address and its logins under way leave a place. -/
theorem boundsGuesses_of_reserved {α : Type} [DecidableEq α] (cfg : LimiterConfig)
    (es : List (LoginEvent α)) (ho : LoginsOrdered 0 es)
    (h : Run.Along (loginStep cfg) (Reserved cfg) LimiterState.init es) :
    BoundsGuesses cfg (Run.final (loginStep cfg) LimiterState.init es) := by
  have hinv : LimiterInv cfg (LimiterState.init : LimiterState α) :=
    ⟨fun e he => absurd he List.not_mem_nil, fun p hp => absurd hp List.not_mem_nil,
      fun _ a ha => absurd ha List.not_mem_nil, fun _ => Nat.zero_le _⟩
  have hwin : ∀ (address : α) (start : Time), WindowInv cfg LimiterState.init address start :=
    fun _ _ _ => ⟨Nat.zero_le _, fun _ => Nat.zero_le _⟩
  intro address start hno
  exact (windowInv_run es _ ho h hinv hwin address start hno).1

/-! ## Overlapping logins -/

/-- As many logins as `n`, one after the other, each with a wrong password. -/
def failedLogins (n : ℕ) : List (LoginEvent ℕ) :=
  (List.range n).flatMap fun i =>
    [.retryAfter 1 true (seconds i), .verify 0 (seconds i), .finish 0 (seconds i)]

/-- Ten logins one after the other: five passwords are evaluated. -/
theorem boundsGuesses_sequential : BoundsGuesses {}
    (Run.final (loginStep {}) LimiterState.init (failedLogins 10)) :=
  boundsGuesses_of_reserved {} (failedLogins 10) (by decide +kernel) (by decide +kernel)

/-- As many logins at once as `n`, each with a wrong password. -/
def overlappingLogins (n : ℕ) : List (LoginEvent ℕ) :=
  List.replicate n (.retryAfter 1 true 0) ++ (List.range n).map fun i => .verify i (seconds 1)

/-- Six logins at once: six passwords are evaluated. -/
theorem not_boundsGuesses_overlapping : ¬ BoundsGuesses {}
    (Run.final (loginStep {}) LimiterState.init (overlappingLogins 6)) := by
  intro h
  have hle := h 1 0 (by unfold NoSuccess; decide +kernel)
  revert hle
  decide +kernel

end Dashboard
