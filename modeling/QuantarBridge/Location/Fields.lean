import QuantarBridge.Dashboard.Position
import QuantarBridge.Lib.Walk
import QuantarBridge.P25.LocationReport
import QuantarBridge.Sms.Payloads

/-!
# The fields of a location report

Three programs look for coordinates in a location report. Each of them knows some of the fields that
may stand in front.

* `FieldToken`, `nextField`: the fields that any of them knows;
* `hostAccepts`, `bridgeAccepts`, `dashboardAccepts`: what each of them goes on behind;
* `FieldLoop.walker`: a loop that treats each kind of field as a walker does is one;
* `host_loop`, `bridge_loop`, `dashboard_loop`: the three loops.
-/

set_option autoImplicit false

namespace Location

open Lib PacketData Sms P25 Dashboard

/-- A field in front of the coordinates. -/
inductive FieldToken
  | time
  | result (vlq : Bytes)
  | direction
  | velocity
  deriving DecidableEq

/-- The bytes of a number in groups of seven bits, and the rest. -/
def takeVlq : Bytes → Option (Bytes × Bytes)
  | [] => none
  | byte :: rest =>
    if byte &&& 0x80 = 0 then some ([byte], rest)
    else (takeVlq rest).map fun t => (byte :: t.1, t.2)

/-- Coordinates stand here. -/
def atPosition : Bytes → Bool
  | [] => false
  | token :: rest => isPositionToken token ∧ 8 ≤ rest.length

/-- The field that stands here, and the fields behind it. -/
def nextField : Bytes → Option (FieldToken × Bytes)
  | [] => none
  | token :: rest =>
    if token = 0x34 then (skipField 5 rest).map fun rest => (.time, rest)
    else if token = 0x37 then (takeVlq rest).map fun t => (.result t.1, t.2)
    else if token = 0x56 then (skipField 1 rest).map fun rest => (.direction, rest)
    else if token = 0x6C then
      ((skipMotorolaVlq 5 rest).bind (skipMotorolaVlq 5)).map fun rest => (.velocity, rest)
    else none

/-- Every value before the last byte of a number leaves room for seven more bits. -/
def vlqFits : ℕ → Bytes → Bool
  | _, [] => true
  | value, byte :: rest =>
    value ≤ 0x01FFFFFF ∧ vlqFits (value * 128 + (byte &&& 0x7F).toNat) rest

/-- The fields that the data host knows. -/
def hostAccepts : FieldToken → Bool
  | .time => true
  | .result vlq => vlq.length ≤ 5 ∧ vlqFits 0 vlq
  | .direction => true
  | .velocity => false

/-- The fields that the bridge knows. -/
def bridgeAccepts : FieldToken → Bool
  | .time => true
  | .result vlq => vlq.length ≤ 5
  | .direction => true
  | .velocity => true

/-- The fields that the dashboard knows. -/
def dashboardAccepts : FieldToken → Bool
  | .time => true
  | .result _ => true
  | .direction => false
  | .velocity => false

/-! ## Numbers -/

theorem skipMotorolaVlq_eq (n : ℕ) (data : Bytes) :
    skipMotorolaVlq n data =
      ((takeVlq data).filter fun t => t.1.length ≤ n).map Prod.snd := by
  induction n generalizing data with
  | zero =>
    cases data with
    | nil => rfl
    | cons byte rest =>
      rw [skipMotorolaVlq, takeVlq]
      split_ifs
      · rfl
      · cases takeVlq rest <;> rfl
  | succ n ih =>
    cases data with
    | nil => rfl
    | cons byte rest =>
      rw [skipMotorolaVlq, takeVlq]
      split_ifs
      · simp [Option.filter]
      · rw [ih]
        cases takeVlq rest with
        | none => rfl
        | some t => simp [Option.filter, apply_ite]

theorem append_of_takeVlq {data vlq rest : Bytes} (h : takeVlq data = some (vlq, rest)) :
    data = vlq ++ rest := by
  induction data generalizing vlq with
  | nil => cases h
  | cons byte data ih =>
    rw [takeVlq] at h
    split_ifs at h
    · cases h
      rfl
    · obtain ⟨t, ht, he⟩ := Option.map_eq_some_iff.mp h
      cases he
      rw [List.cons_append, ← ih ht]

theorem dropVlq_eq (data : Bytes) : dropVlq data = ((takeVlq data).map Prod.snd).getD [] := by
  induction data with
  | nil => rfl
  | cons byte rest ih =>
    rw [dropVlq, takeVlq]
    split_ifs
    · rfl
    · rw [ih, Option.map_map]
      rfl

theorem readMotorolaVlq_eq (n value bytesRead : ℕ) (data : Bytes) :
    (readMotorolaVlq n value bytesRead data).map Prod.snd =
      ((takeVlq data).filter fun t => t.1.length ≤ n ∧ vlqFits value t.1).map
        fun t => bytesRead + t.1.length := by
  induction n generalizing value bytesRead data with
  | zero =>
    cases data with
    | nil => rfl
    | cons byte rest =>
      rw [readMotorolaVlq, takeVlq]
      split_ifs
      · rfl
      · cases takeVlq rest <;> rfl
  | succ n ih =>
    cases data with
    | nil => rfl
    | cons byte rest =>
      rw [readMotorolaVlq, takeVlq]
      by_cases hv : 0x01FFFFFF < value
      · rw [if_pos hv]
        split_ifs
        · simp [Option.filter, vlqFits, hv]
        · cases takeVlq rest <;> simp [Option.filter, vlqFits, hv]
      · rw [if_neg hv]
        simp only
        split_ifs
        · simp [Option.filter, vlqFits, Nat.not_lt.mp hv]
        · rw [ih]
          cases takeVlq rest with
          | none => rfl
          | some t =>
            simp [Option.filter, vlqFits, Nat.not_lt.mp hv, apply_ite, Nat.add_assoc,
              Nat.add_comm 1]

/-! ## The three loops -/

theorem skipField_cons (n : ℕ) (token : UInt8) (rest : Bytes) :
    skipField (n + 1) (token :: rest) = skipField n rest := by
  simp [skipField]

/-- What a loop does with each field, in terms of the fields behind it. -/
structure FieldLoop (accepts : FieldToken → Bool) (reaches : ℕ → Bytes → Bool) : Prop where
  zero : ∀ fields, reaches 0 fields = false
  empty : ∀ n, reaches (n + 1) [] = false
  position : ∀ n token rest, isPositionToken token = true →
    reaches (n + 1) (token :: rest) = decide (8 ≤ rest.length)
  time : ∀ n rest, reaches (n + 1) (0x34 :: rest) =
    (skipField 5 rest).any fun rest => accepts .time && reaches n rest
  result : ∀ n rest, reaches (n + 1) (0x37 :: rest) =
    (takeVlq rest).any fun t => accepts (.result t.1) && reaches n t.2
  direction : ∀ n rest, reaches (n + 1) (0x56 :: rest) =
    (skipField 1 rest).any fun rest => accepts .direction && reaches n rest
  velocity : ∀ n rest, reaches (n + 1) (0x6C :: rest) =
    ((skipMotorolaVlq 5 rest).bind (skipMotorolaVlq 5)).any
      fun rest => accepts .velocity && reaches n rest
  other : ∀ n token rest, isPositionToken token = false → token ≠ 0x34 → token ≠ 0x37 →
    token ≠ 0x56 → token ≠ 0x6C → reaches (n + 1) (token :: rest) = false

theorem FieldLoop.walker {accepts : FieldToken → Bool} {reaches : ℕ → Bytes → Bool}
    (h : FieldLoop accepts reaches) : Walker atPosition nextField accepts reaches where
  atZero := h.zero
  atGoal n fields hgoal := by
    cases fields with
    | nil => cases hgoal
    | cons token rest =>
      obtain ⟨hposition, hlength⟩ := of_decide_eq_true hgoal
      rw [h.position n token rest hposition]
      exact decide_eq_true hlength
  atStuck n fields hgoal hnext := by
    cases fields with
    | nil => exact h.empty n
    | cons token rest =>
      rw [nextField] at hnext
      split_ifs at hnext with h34 h37 h56 h6C
      · rw [h34, h.time, Option.map_eq_none_iff.mp hnext, Option.any_none]
      · rw [h37, h.result, Option.map_eq_none_iff.mp hnext, Option.any_none]
      · rw [h56, h.direction, Option.map_eq_none_iff.mp hnext, Option.any_none]
      · rw [h6C, h.velocity, Option.map_eq_none_iff.mp hnext, Option.any_none]
      · cases hposition : isPositionToken token with
        | false => exact h.other n token rest hposition h34 h37 h56 h6C
        | true =>
          rw [h.position n token rest hposition]
          exact decide_eq_false fun hlength => of_decide_eq_false hgoal ⟨hposition, hlength⟩
  atToken n fields token' rest' _ hnext := by
    cases fields with
    | nil => cases hnext
    | cons token rest =>
      rw [nextField] at hnext
      split_ifs at hnext with h34 h37 h56 h6C
      all_goals
        obtain ⟨t, ht, he⟩ := Option.map_eq_some_iff.mp hnext
        obtain ⟨rfl, rfl⟩ := Prod.mk.inj he
      · rw [h34, h.time, ht, Option.any_some]
      · rw [h37, h.result, ht, Option.any_some]
      · rw [h56, h.direction, ht, Option.any_some]
      · rw [h6C, h.velocity, ht, Option.any_some]

theorem ne_of_isPositionToken {token : UInt8} (h : isPositionToken token = true) :
    token ≠ 0x34 ∧ token ≠ 0x37 ∧ token ≠ 0x56 ∧ token ≠ 0x6C := by
  simp only [isPositionToken, decide_eq_true_iff] at h
  rcases h with rfl | rfl | rfl | rfl <;> decide

theorem bridge_loop : FieldLoop bridgeAccepts
    fun n fields => decide (hasLrrpPosition n fields = some true) where
  zero fields := by cases fields <;> rfl
  empty n := rfl
  position n token rest h := by
    obtain ⟨h34, h37, -, -⟩ := ne_of_isPositionToken h
    have hposition := of_decide_eq_true h
    rw [hasLrrpPosition, if_neg h34, if_neg h37, if_pos hposition, List.length_cons]
    split_ifs with hshort
    · simp; omega
    · simp; omega
  time n rest := by
    rw [hasLrrpPosition, if_pos rfl, skipField_cons]
    cases skipField 5 rest <;> simp [bridgeAccepts]
  result n rest := by
    rw [hasLrrpPosition, if_neg (by decide), if_pos rfl, skipMotorolaVlq_eq]
    cases takeVlq rest with
    | none => rfl
    | some t =>
      by_cases hlength : t.1.length ≤ 5 <;> simp [Option.filter, bridgeAccepts, hlength]
  direction n rest := by
    rw [hasLrrpPosition, if_neg (by decide), if_neg (by decide), if_neg (by decide), if_pos rfl,
      skipField_cons]
    cases skipField 1 rest <;> simp [bridgeAccepts]
  velocity n rest := by
    rw [hasLrrpPosition, if_neg (by decide), if_neg (by decide), if_neg (by decide),
      if_neg (by decide), if_pos rfl]
    cases skipMotorolaVlq 5 rest with
    | none => rfl
    | some rest =>
      cases hsecond : skipMotorolaVlq 5 rest <;> simp [bridgeAccepts, hsecond]
  other n token rest h h34 h37 h56 h6C := by
    rw [hasLrrpPosition, if_neg h34, if_neg h37, if_neg (of_decide_eq_false h), if_neg h56,
      if_neg h6C]
    rfl

/-- The result code has no part in the search. -/
theorem walkReport_resultCode (n : ℕ) (code code' : ℕ) (fields : Bytes) :
    (walkReport n code fields).any Prod.fst = (walkReport n code' fields).any Prod.fst := by
  induction n generalizing code code' fields with
  | zero => cases fields <;> rfl
  | succ n ih =>
    cases fields with
    | nil => rfl
    | cons token rest =>
      rw [walkReport, walkReport]
      split_ifs
      · rfl
      · exact ih _ _ _
      · cases readMotorolaVlq 5 0 0 rest with
        | none => rfl
        | some r => exact ih _ _ _
      · rfl
      · rfl
      · rfl
      · exact ih _ _ _
      · rfl

theorem host_loop (code : ℕ) : FieldLoop hostAccepts
    fun n fields => (walkReport n code fields).any Prod.fst where
  zero fields := by cases fields <;> rfl
  empty n := rfl
  position n token rest h := by
    obtain ⟨h34, h37, -, -⟩ := ne_of_isPositionToken h
    rw [walkReport, if_neg h34, if_neg h37, if_pos h, List.length_cons]
    split_ifs with hshort
    · simp; omega
    · simp; omega
  time n rest := by
    rw [walkReport, if_pos rfl, List.length_cons, skipField]
    by_cases hlength : rest.length < 5
    · rw [if_pos (by omega), if_pos hlength]
      rfl
    · rw [if_neg (by omega), if_neg hlength]
      rfl
  result n rest := by
    have hvlq := readMotorolaVlq_eq 5 0 0 rest
    rw [walkReport, if_neg (by decide), if_pos rfl]
    cases ht : takeVlq rest with
    | none =>
      rw [ht] at hvlq
      rw [Option.map_eq_none_iff.mp hvlq]
      rfl
    | some t =>
      have hdrop : rest.drop t.1.length = t.2 := by
        rw [append_of_takeVlq ht, List.drop_left]
      rw [ht, Option.filter] at hvlq
      cases hread : readMotorolaVlq 5 0 0 rest with
      | none =>
        rw [hread] at hvlq
        split_ifs at hvlq with hfits
        · cases hvlq
        · rw [Bool.not_eq_true] at hfits
          simp only [Option.any_some, hostAccepts, hfits]
          rfl
      | some r =>
        rw [hread] at hvlq
        split_ifs at hvlq with hfits
        · have hlength : r.2 = t.1.length := by simpa using hvlq
          simp only [Option.any_some, hostAccepts, hfits]
          rw [Bool.true_and, hlength, Nat.add_comm, List.drop_succ_cons, hdrop]
          exact walkReport_resultCode n _ _ _
        · cases hvlq
  direction n rest := by
    rw [walkReport, if_neg (by decide), if_neg (by decide), if_neg (by decide), if_pos rfl,
      List.length_cons, skipField]
    by_cases hlength : rest.length < 1
    · rw [if_pos (by omega), if_pos hlength]
      rfl
    · rw [if_neg (by omega), if_neg hlength]
      rfl
  velocity n rest := by
    rw [walkReport, if_neg (by decide), if_neg (by decide), if_neg (by decide),
      if_neg (by decide)]
    cases (skipMotorolaVlq 5 rest).bind (skipMotorolaVlq 5) <;> rfl
  other n token rest h h34 h37 h56 h6C := by
    rw [walkReport, if_neg h34, if_neg h37, if_neg (by simp [h]), if_neg h56]
    rfl

theorem dashboard_loop (round7 : ℚ → ℚ) : FieldLoop dashboardAccepts
    fun n fields => (positionFields round7 n fields).isSome where
  zero fields := by cases fields <;> rfl
  empty n := rfl
  position n token rest h := by
    obtain ⟨h34, h37, -, -⟩ := ne_of_isPositionToken h
    have hposition := of_decide_eq_true h
    rw [positionFields, if_neg h34, if_neg h37, List.length_cons]
    by_cases hlength : 8 ≤ rest.length
    · rw [if_pos ⟨hposition, by omega⟩]
      simp only [if_pos (coordinates_in_range _ _)]
      simp [hlength]
    · rw [if_neg (by omega)]
      simp [hlength]
  time n rest := by
    rw [positionFields, if_pos rfl, List.drop_succ_cons, skipField]
    split_ifs with hlength
    · rw [List.drop_of_length_le (by omega)]
      cases n <;> rfl
    · simp [dashboardAccepts]
  result n rest := by
    rw [positionFields, if_neg (by decide), if_pos rfl, dropVlq_eq]
    cases takeVlq rest with
    | none => cases n <;> rfl
    | some t => simp [dashboardAccepts]
  direction n rest := by
    rw [positionFields, if_neg (by decide), if_neg (by decide), if_neg (by simp)]
    cases skipField 1 rest <;> rfl
  velocity n rest := by
    rw [positionFields, if_neg (by decide), if_neg (by decide), if_neg (by simp)]
    cases (skipMotorolaVlq 5 rest).bind (skipMotorolaVlq 5) <;> rfl
  other n token rest h h34 h37 h56 h6C := by
    rw [positionFields, if_neg h34, if_neg h37, if_neg fun h' => of_decide_eq_false h h'.1]
    rfl

/-! ## Lengths -/

theorem length_of_takeVlq {data : Bytes} {t : Bytes × Bytes} (h : takeVlq data = some t) :
    t.2.length ≤ data.length := by
  rw [append_of_takeVlq h, List.length_append]
  omega

theorem length_of_skipMotorolaVlq {n : ℕ} {data rest : Bytes}
    (h : skipMotorolaVlq n data = some rest) : rest.length ≤ data.length := by
  rw [skipMotorolaVlq_eq] at h
  obtain ⟨t, ht, rfl⟩ := Option.map_eq_some_iff.mp h
  exact length_of_takeVlq (Option.filter_eq_some_iff.mp ht).1

theorem length_of_skipField {n : ℕ} {data rest : Bytes} (h : skipField n data = some rest) :
    rest.length ≤ data.length := by
  unfold skipField at h
  split_ifs at h
  rw [← Option.some.inj h, List.length_drop]
  omega

theorem length_of_nextField {fields rest : Bytes} {token : FieldToken}
    (h : nextField fields = some (token, rest)) : rest.length ≤ fields.length := by
  cases fields with
  | nil => cases h
  | cons tag fields =>
    rw [nextField] at h
    split_ifs at h
    all_goals
      obtain ⟨t, ht, he⟩ := Option.map_eq_some_iff.mp h
      obtain ⟨-, rfl⟩ := Prod.mk.inj he
      rw [List.length_cons]
      apply Nat.le_succ_of_le
    · exact length_of_skipField ht
    · exact length_of_takeVlq ht
    · exact length_of_skipField ht
    · obtain ⟨mid, hmid, hrest⟩ := Option.bind_eq_some_iff.mp ht
      exact (length_of_skipMotorolaVlq hrest).trans (length_of_skipMotorolaVlq hmid)

theorem length_of_tokens {n : ℕ} {fields : Bytes} {ts : List FieldToken}
    (h : tokens atPosition nextField n fields = some ts) : 9 ≤ fields.length := by
  induction n generalizing fields ts with
  | zero => cases h
  | succ n ih =>
    rw [tokens] at h
    split_ifs at h with hgoal
    · cases fields with
      | nil => cases hgoal
      | cons token rest =>
        have hrest := (of_decide_eq_true hgoal).2
        rw [List.length_cons]
        omega
    · obtain ⟨t, ht, hts⟩ := Option.bind_eq_some_iff.mp h
      obtain ⟨ts', hts', -⟩ := Option.map_eq_some_iff.mp hts
      exact (ih hts').trans (length_of_nextField ht)

end Location
