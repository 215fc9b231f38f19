import QuantarBridge.Lib.Expiry
import QuantarBridge.Lib.Run

/-!
# Passwords and sessions

The dashboard serves every request in a thread of its own. A login verifies its password and then
creates a session; a password change looks up its session, replaces the password and then revokes
the other sessions of its user. Each of these steps holds one lock, and the steps of different
requests interleave.

* `AuthStore`, `Session`, `SessionStore`: the passwords and the sessions;
* `AuthState`: with the requests that are between two of their steps, and the history of each
  password;
* `AuthEvent`, `authStep`: the steps of the requests;
* `SessionsEnded`: no session outlives the password it was created with;
* `FreshLogin`, `sessionsEnded_step_iff`: what a step does to it;
* `sessionsEnded_iff`: **runs**.
-/

set_option autoImplicit false

namespace Dashboard

open Lib

/-- The age at which a session ends. -/
def SESSION_MAX_AGE_SECONDS : Time := seconds (8 * 60 * 60)

/-- The idle time after which a session ends. -/
def SESSION_IDLE_SECONDS : Time := seconds (60 * 60)

/-- The rounds of the password hash. -/
def PBKDF2_ITERATIONS : ℕ := 600000

/-- The stored form of a password. -/
structure PasswordRecord where
  iterations : ℕ
  salt : List UInt8
  hash : List UInt8
  deriving DecidableEq

/-- The key derivation: password, salt and iterations. -/
abbrev Pbkdf2 := String → List UInt8 → ℕ → List UInt8

/-- The stored passwords. -/
abbrev AuthStore := Dict String PasswordRecord

variable (pbkdf2 : Pbkdf2)

/-- The stored form of a password of twelve characters at least. -/
def passwordRecord (password : String) (salt : List UInt8) : Option PasswordRecord :=
  if password.length < 12 then none
  else some ⟨PBKDF2_ITERATIONS, salt, pbkdf2 password salt PBKDF2_ITERATIONS⟩

/-- The password is the stored one. -/
def AuthStore.verify (users : AuthStore) (username password : String) : Bool :=
  (users.get? username).any fun record =>
    pbkdf2 password record.salt record.iterations = record.hash

/-- A session. The number of password changes before the verified password is not stored by the
dashboard; it is the session's history. -/
structure Session where
  username : String
  csrfToken : ℕ
  createdAt : Time
  lastSeen : Time
  generation : ℕ
  deriving DecidableEq

/-- The sessions by their tokens. -/
abbrev SessionStore := Dict ℕ Session

namespace SessionStore

/-- Drop the sessions that are too old or idle. -/
def cleanup (sessions : SessionStore) (now : Time) : SessionStore :=
  sessions.filter fun _ session => ¬ SESSION_MAX_AGE_SECONDS < now - session.createdAt ∧
    ¬ SESSION_IDLE_SECONDS < now - session.lastSeen

/-- Open a session. -/
def create (sessions : SessionStore) (token : ℕ) (session : Session) (now : Time) : SessionStore :=
  (sessions.cleanup now).set token session

/-- Look a session up. It counts as seen. -/
def get (sessions : SessionStore) (token : ℕ) (now : Time) : SessionStore × Option Session :=
  ((sessions.cleanup now).modify token fun session => { session with lastSeen := now },
    (sessions.cleanup now).get? token)

/-- End a session. -/
def revoke (sessions : SessionStore) (token : ℕ) : SessionStore := sessions.erase token

/-- Drop the sessions of a user except one. -/
def revokeUser (sessions : SessionStore) (username : String) (keepToken : ℕ) : SessionStore :=
  sessions.filter fun token session => token = keepToken ∨ session.username ≠ username

end SessionStore

/-- How the write of the password file ends. It may fail before the file was replaced or after. -/
inductive WriteOutcome
  | written
  | failedBefore
  | failedAfter
  deriving DecidableEq

/-- A password change between two of its steps. -/
inductive ChangeProgress
  | authenticated (token : ℕ) (username : String)
  | replaced (token : ℕ) (username : String) (generation : ℕ)

/-- A password change that completed. -/
structure CompletedChange where
  username : String
  generation : ℕ
  keepToken : ℕ
  deriving DecidableEq

/-- What the requests share, the requests under way and the history. -/
structure AuthState where
  users : AuthStore
  sessions : SessionStore
  verified : Dict ℕ (String × ℕ)
  changes : Dict ℕ ChangeProgress
  generation : String → ℕ
  completed : List CompletedChange

/-- A step of a request. -/
inductive AuthEvent
  /-- A login verifies its password. -/
  | verify (login : ℕ) (username password : String)
  /-- A login creates its session. -/
  | create (login token csrfToken : ℕ) (now : Time)
  /-- Any request looks its session up. -/
  | access (token : ℕ) (now : Time)
  /-- A logout. -/
  | logout (token csrfToken : ℕ) (now : Time)
  /-- A password change looks its session up. -/
  | authenticate (change token csrfToken : ℕ) (now : Time)
  /-- A password change replaces the password. -/
  | replace (change : ℕ) (current new : String) (salt : List UInt8) (outcome : WriteOutcome)
  /-- A password change revokes the other sessions. -/
  | revoke (change : ℕ)
  deriving DecidableEq

namespace AuthState

/-- No request yet. -/
def init (users : AuthStore) : AuthState where
  users := users
  sessions := Dict.empty
  verified := Dict.empty
  changes := Dict.empty
  generation := fun _ => 0
  completed := []

variable (s : AuthState)

/-- Check a password, and remember the generation of its user. -/
def verify (login : ℕ) (username password : String) : AuthState :=
  if s.users.verify pbkdf2 username password then
    { s with verified := s.verified.set login (username, s.generation username) }
  else s

/-- Open a session for a login whose password was right. -/
def create (login token csrfToken : ℕ) (now : Time) : AuthState :=
  match s.verified.get? login with
  | none => s
  | some (username, generation) =>
    { s with
      sessions := s.sessions.create token ⟨username, csrfToken, now, now, generation⟩ now
      verified := s.verified.erase login }

/-- The session of a request whose CSRF token is right. -/
def requireSession (token csrfToken : ℕ) (now : Time) : AuthState × Option Session :=
  let found := s.sessions.get token now
  ({ s with sessions := found.1 }, found.2.filter fun session => session.csrfToken = csrfToken)

/-- End the session of a request. -/
def logout (token csrfToken : ℕ) (now : Time) : AuthState :=
  let found := s.requireSession token csrfToken now
  match found.2 with
  | none => found.1
  | some _ => { found.1 with sessions := found.1.sessions.revoke token }

/-- Check the session of a request that changes the password. -/
def authenticate (change token csrfToken : ℕ) (now : Time) : AuthState :=
  let found := s.requireSession token csrfToken now
  match found.2 with
  | none => found.1
  | some session =>
    { found.1 with changes := s.changes.set change (.authenticated token session.username) }

/-- The password is replaced. When the write fails the request ends, whether or not the file was
replaced before. -/
def store (change token : ℕ) (username : String) (record : PasswordRecord)
    (outcome : WriteOutcome) : AuthState :=
  let replaced : AuthState :=
    { s with
      users := s.users.set username record
      generation := Function.update s.generation username (s.generation username + 1) }
  match outcome with
  | .failedBefore => { s with changes := s.changes.erase change }
  | .failedAfter => { replaced with changes := s.changes.erase change }
  | .written =>
    { replaced with
      changes := s.changes.set change (.replaced token username (s.generation username + 1)) }

/-- Write the new password, if the current one is right. -/
def replace (change : ℕ) (current new : String) (salt : List UInt8) (outcome : WriteOutcome) :
    AuthState :=
  match s.changes.get? change with
  | some (.authenticated token username) =>
    if s.users.verify pbkdf2 username current then
      match passwordRecord pbkdf2 new salt with
      | none => { s with changes := s.changes.erase change }
      | some record => s.store change token username record outcome
    else { s with changes := s.changes.erase change }
  | _ => s

/-- End the other sessions of the user. -/
def revoke (change : ℕ) : AuthState :=
  match s.changes.get? change with
  | some (.replaced token username generation) =>
    { s with
      sessions := s.sessions.revokeUser username token
      changes := s.changes.erase change
      completed := s.completed ++ [⟨username, generation, token⟩] }
  | _ => s

end AuthState

/-- The requests as a machine. -/
def authStep (s : AuthState) : AuthEvent → AuthState × List Empty
  | .verify login username password => (s.verify pbkdf2 login username password, [])
  | .create login token csrfToken now => (s.create login token csrfToken now, [])
  | .access token now => ({ s with sessions := (s.sessions.get token now).1 }, [])
  | .logout token csrfToken now => (s.logout token csrfToken now, [])
  | .authenticate change token csrfToken now => (s.authenticate change token csrfToken now, [])
  | .replace change current new salt outcome => (s.replace pbkdf2 change current new salt outcome, [])
  | .revoke change => (s.revoke change, [])

/-! ## Sessions end with their password -/

/-- The change allows the session: it is of another user, was created with the new password or a
later one, or is the kept one. -/
def CompletedChange.Allows (c : CompletedChange) (token : ℕ) (username : String) (generation : ℕ) :
    Prop :=
  c.username = username → generation < c.generation → token = c.keepToken

instance (c : CompletedChange) (token : ℕ) (username : String) (generation : ℕ) :
    Decidable (c.Allows token username generation) :=
  inferInstanceAs (Decidable (_ → _ → _))

/-- Every session is allowed by every completed change. -/
def SessionsEnded (s : AuthState) : Prop :=
  ∀ c ∈ s.completed, ∀ token session, s.sessions.get? token = some session →
    c.Allows token session.username session.generation

/-- **The condition.** A login that creates its session verified a password that no completed change
has replaced. -/
def FreshLogin (s : AuthState) : AuthEvent → Prop
  | .create login token _ _ => ∀ username generation,
      s.verified.get? login = some (username, generation) →
        ∀ c ∈ s.completed, c.Allows token username generation
  | _ => True

/-- The sessions of `d'` are sessions of `d`, seen later perhaps. -/
def Fewer (d d' : SessionStore) : Prop :=
  ∀ token session', d'.get? token = some session' → ∃ session, d.get? token = some session ∧
    session'.username = session.username ∧ session'.generation = session.generation

section Steps

variable {d d' d'' : SessionStore} {s : AuthState}

theorem fewer_refl (d : SessionStore) : Fewer d d := fun _ session h => ⟨session, h, rfl, rfl⟩

theorem fewer_trans (h : Fewer d d') (h' : Fewer d' d'') : Fewer d d'' := by
  intro token session'' hs
  obtain ⟨session', hs', hu', hg'⟩ := h' token session'' hs
  obtain ⟨session, hs, hu, hg⟩ := h token session' hs'
  exact ⟨session, hs, hu'.trans hu, hg'.trans hg⟩

theorem fewer_filter (d : SessionStore) (p : ℕ → Session → Bool) : Fewer d (d.filter p) := by
  intro token session hs
  rw [Dict.get?_filter, Option.filter_eq_some_iff] at hs
  exact ⟨session, hs.1, rfl, rfl⟩

theorem fewer_cleanup (d : SessionStore) (now : Time) : Fewer d (d.cleanup now) := fewer_filter d _

theorem fewer_get (d : SessionStore) (token : ℕ) (now : Time) : Fewer d (d.get token now).1 := by
  refine fewer_trans (fewer_cleanup d now) fun token' session' hs => ?_
  rw [SessionStore.get, Dict.get?_modify] at hs
  split_ifs at hs with ht
  · obtain ⟨session, hs', rfl⟩ := Option.map_eq_some_iff.mp hs
    exact ⟨session, ht ▸ hs', rfl, rfl⟩
  · exact ⟨session', hs, rfl, rfl⟩

theorem sessionsEnded_of_fewer {s' : AuthState} (h : SessionsEnded s)
    (hf : Fewer s.sessions s'.sessions) (hc : s'.completed = s.completed) : SessionsEnded s' := by
  intro c hm token session' hs'
  obtain ⟨session, hs, hu, hg⟩ := hf token session' hs'
  rw [hu, hg]
  exact h c (hc ▸ hm) token session hs

/-- **A new session.** -/
theorem sessionsEnded_create_iff (h : SessionsEnded s) (login token csrfToken : ℕ) (now : Time) :
    SessionsEnded (s.create login token csrfToken now) ↔
      FreshLogin s (.create login token csrfToken now) := by
  simp only [AuthState.create, FreshLogin]
  cases hv : s.verified.get? login with
  | none => exact iff_of_true h fun username generation hn => nomatch hn
  | some p =>
    obtain ⟨username, generation⟩ := p
    constructor
    · intro h' u g hug c hc
      obtain ⟨rfl, rfl⟩ := Prod.mk.inj (Option.some.inj hug)
      exact h' c hc token ⟨username, csrfToken, now, now, generation⟩ (by simp [SessionStore.create])
    · intro hfresh c hc token' session hs
      simp only [SessionStore.create, Dict.get?_set] at hs
      split_ifs at hs with ht
      · rw [← Option.some.inj hs, ht]
        exact hfresh username generation rfl c hc
      · obtain ⟨session', hs', hu, hg⟩ := fewer_cleanup s.sessions now token' session hs
        rw [hu, hg]
        exact h c hc token' session' hs'

/-- **The revocation** ends every session of the user but the kept one. -/
theorem sessionsEnded_revoke (h : SessionsEnded s) (change : ℕ) :
    SessionsEnded (s.revoke change) := by
  unfold AuthState.revoke
  split
  · rename_i token username generation _
    intro c hc token' session hs
    have hs' := hs
    rw [SessionStore.revokeUser, Dict.get?_filter, Option.filter_eq_some_iff] at hs'
    rcases List.mem_append.mp hc with hc | hc
    · exact h c hc token' session hs'.1
    · rw [List.mem_singleton.mp hc]
      intro hu _
      have hkeep := of_decide_eq_true hs'.2
      exact hkeep.resolve_right fun hn => hn hu.symm
  · exact h

theorem requireSession_fewer (s : AuthState) (token csrfToken : ℕ) (now : Time) :
    Fewer s.sessions (s.requireSession token csrfToken now).1.sessions :=
  fewer_get s.sessions token now

theorem replace_sessions (change : ℕ) (current new : String) (salt : List UInt8)
    (outcome : WriteOutcome) :
    (s.replace pbkdf2 change current new salt outcome).sessions = s.sessions ∧
      (s.replace pbkdf2 change current new salt outcome).completed = s.completed := by
  unfold AuthState.replace
  split
  · split_ifs
    · cases passwordRecord pbkdf2 new salt with
      | none => exact ⟨rfl, rfl⟩
      | some record => cases outcome <;> exact ⟨rfl, rfl⟩
    · exact ⟨rfl, rfl⟩
  · exact ⟨rfl, rfl⟩

/-- **One step.** -/
theorem sessionsEnded_step_iff (s : AuthState) (e : AuthEvent) (h : SessionsEnded s) :
    SessionsEnded (authStep pbkdf2 s e).1 ↔ FreshLogin s e := by
  cases e with
  | create login token csrfToken now => exact sessionsEnded_create_iff h login token csrfToken now
  | verify login username password =>
    refine iff_of_true (sessionsEnded_of_fewer h ?_ ?_) trivial
    · simp only [authStep, AuthState.verify]
      split_ifs <;> exact fewer_refl _
    · simp only [authStep, AuthState.verify]
      split_ifs <;> rfl
  | access token now =>
    exact iff_of_true (sessionsEnded_of_fewer h (fewer_get _ token now) rfl) trivial
  | logout token csrfToken now =>
    refine iff_of_true (sessionsEnded_of_fewer h ?_ ?_) trivial
    · have hr := requireSession_fewer s token csrfToken now
      simp only [authStep, AuthState.logout]
      split
      · exact hr
      · exact fewer_trans hr (fewer_filter _ _)
    · simp only [authStep, AuthState.logout]
      split <;> rfl
  | authenticate change token csrfToken now =>
    refine iff_of_true (sessionsEnded_of_fewer h ?_ ?_) trivial
    · have hr := requireSession_fewer s token csrfToken now
      simp only [authStep, AuthState.authenticate]
      split
      · exact hr
      · exact hr
    · simp only [authStep, AuthState.authenticate]
      split <;> rfl
  | replace change current new salt outcome =>
    obtain ⟨hs, hc⟩ := replace_sessions (s := s) pbkdf2 change current new salt outcome
    refine iff_of_true (sessionsEnded_of_fewer h ?_ hc) trivial
    rw [authStep, hs]
    exact fewer_refl _
  | revoke change => exact iff_of_true (sessionsEnded_revoke h change) trivial

end Steps

/-- **Sessions end with their password** in every state of a run exactly when every login that
creates its session verified a password that no completed change has replaced. -/
theorem sessionsEnded_iff (users : AuthStore) (es : List AuthEvent) :
    (∀ pre post, es = pre ++ post →
        SessionsEnded (Run.final (authStep pbkdf2) (AuthState.init users) pre)) ↔
      Run.Along (authStep pbkdf2) FreshLogin (AuthState.init users) es :=
  Run.forall_final_iff_along SessionsEnded (sessionsEnded_step_iff pbkdf2) es _
    fun _ hc => absurd hc List.not_mem_nil

/-! ## A login overtaken by a password change -/

/-- A key derivation that keeps the letters. -/
def plainPbkdf2 : Pbkdf2 := fun password _ _ => password.toUTF8.toList

/-- One user with a password. -/
def sampleUsers : AuthStore :=
  Dict.empty.set "admin" ⟨PBKDF2_ITERATIONS, [], "first password".toUTF8.toList⟩

/-- A second login verifies the old password before the change and creates its session after it. -/
def overtakenLogin : List AuthEvent :=
  [.verify 0 "admin" "first password", .create 0 100 7 (seconds 1),
    .verify 1 "admin" "first password", .authenticate 2 100 7 (seconds 2),
    .replace 2 "first password" "second password" [] .written, .revoke 2,
    .create 1 200 8 (seconds 3)]

/-- The session of the overtaken login is valid, and its password is not. -/
theorem not_sessionsEnded_overtaken :
    ¬ SessionsEnded (Run.final (authStep plainPbkdf2) (AuthState.init sampleUsers)
      overtakenLogin) := by
  intro h
  have hallows := h ⟨"admin", 1, 100⟩ (by decide +kernel) 200 ⟨"admin", 8, seconds 3, seconds 3, 0⟩
    (by decide +kernel)
  revert hallows
  decide +kernel

end Dashboard
