import QuantarBridge.Lib.TextLines
import QuantarBridge.Logs.ArsLine

/-!
# Followers of a growing log

The audio bridge and the dashboard follow a log while it is written. The audio bridge looks at the
file every half second and reads on from where it stopped. The dashboard keeps the file open and
reads line after line. Both take what stands after the last line break for a line, and neither goes
back to it.

* `registrationTurn`, `followTurn`: one look at the file;
* `registrationActions_eq`, `callbacks_eq`: what is read of a file that grows in parts;
* `followers_iff`: **the parts that are followed, and the logs that any parts are followed of**.
-/

set_option autoImplicit false

namespace Logs

open Lib

/-- `_process_ars_log_line`, in a thread that stops when a conversion raises. -/
def processArsLogLine (running : Bool) (line : Str) : Bool × List ArsAction :=
  if running then
    match applyArsLogLine ∅ line with
    | some (_, action) => (true, action.toList)
    | none => (false, [])
  else (false, [])

/-- What the lines of a log make the bridge do. -/
def arsActions (lines : List Str) : List ArsAction := Run.outputs processArsLogLine true lines

/-! ## The audio bridge -/

/-- The thread that looks for registrations, and what is visible of the log file. -/
structure RegistrationLoop where
  file : Bytes
  registrationLogOffset : ℕ
  running : Bool

/-- The loop before it sees a log. -/
def RegistrationLoop.start : RegistrationLoop := ⟨[], 0, true⟩

/-- The file has grown by `part` when the loop looks at it. -/
def registrationTurn (s : RegistrationLoop) (part : Bytes) : RegistrationLoop × List ArsAction :=
  let file := s.file ++ part
  let size := file.length
  let offset := if size < s.registrationLogOffset then 0 else s.registrationLogOffset
  if s.running = false then ({ s with file }, [])
  else if size = offset then ({ s with file, registrationLogOffset := offset }, [])
  else
    let lines := textLines (file.drop offset)
    let running := Run.final processArsLogLine true lines
    -- the loop over the lines has reached the end of the file, incomplete line and all
    ({ file, registrationLogOffset := if running then size else offset, running },
      Run.outputs processArsLogLine true lines)

/-- The actions of the loop while the file grows. -/
def registrationActions (parts : List Bytes) : List ArsAction :=
  Run.outputs registrationTurn RegistrationLoop.start parts

/-! ## The dashboard -/

/-- The dashboard's open file, and what is visible of it. -/
structure LogFollower where
  file : Bytes
  offset : ℕ

/-- The follower before it sees a log. -/
def LogFollower.start : LogFollower := ⟨[], 0⟩

/-- The file has grown by `part`, and its lines are read until there is none. -/
def followTurn (s : LogFollower) (part : Bytes) : LogFollower × List Str :=
  let file := s.file ++ part
  let offset := if file.length < s.offset then 0 else s.offset
  ({ file, offset := file.length }, textLines (file.drop offset))

/-- The lines that the callback gets while the file grows. -/
def callbacks (parts : List Bytes) : List Str := Run.outputs followTurn LogFollower.start parts

/-! ## What is read -/

theorem textLines_nil : textLines [] = [] := textLines_plain (List.forall_mem_nil Plain)

theorem outputs_stopped (lines : List Str) : Run.outputs processArsLogLine false lines = [] := by
  induction lines with
  | nil => rfl
  | cons line lines ih => exact ih

theorem final_stopped (lines : List Str) : Run.final processArsLogLine false lines = false := by
  induction lines with
  | nil => rfl
  | cons line lines ih => exact ih

/-- Where the loop has stopped reading. -/
def RegistrationLoop.AtEnd (s : RegistrationLoop) : Prop :=
  s.running = true → s.registrationLogOffset = s.file.length

/-- **One look reads what the file has grown by.** -/
theorem registrationTurn_spec {s : RegistrationLoop} (h : s.AtEnd) (part : Bytes) :
    (registrationTurn s part).1.AtEnd ∧
      (registrationTurn s part).1.running = Run.final processArsLogLine s.running (textLines part) ∧
      (registrationTurn s part).2 = Run.outputs processArsLogLine s.running (textLines part) := by
  cases hrunning : s.running with
  | false =>
    have hturn : registrationTurn s part = ({ s with file := s.file ++ part }, []) := by
      simp [registrationTurn, hrunning]
    rw [hturn, final_stopped, outputs_stopped]
    exact ⟨fun hr => absurd (hrunning.symm.trans hr) (by simp), hrunning, rfl⟩
  | true =>
    have hoffset := h hrunning
    have hkept : (if (s.file ++ part).length < s.registrationLogOffset then 0
        else s.registrationLogOffset) = s.file.length := by
      rw [hoffset, if_neg (by simp)]
    unfold registrationTurn
    dsimp only
    rw [hkept, hrunning, if_neg Bool.noConfusion]
    by_cases hsize : (s.file ++ part).length = s.file.length
    · have hpart : part = [] := by simpa using hsize
      rw [if_pos hsize, hpart, textLines_nil, List.append_nil]
      exact ⟨fun _ => rfl, rfl, rfl⟩
    · rw [if_neg hsize, List.drop_left]
      refine ⟨fun hr => ?_, rfl, rfl⟩
      dsimp only at hr ⊢
      rw [hr, if_pos rfl]

/-- **The bridge acts on the lines of the parts**, whatever the parts are. -/
theorem registrationActions_eq (parts : List Bytes) :
    registrationActions parts = arsActions (parts.flatMap textLines) := by
  have run : ∀ s : RegistrationLoop, s.AtEnd → Run.outputs registrationTurn s parts =
      Run.outputs processArsLogLine s.running (parts.flatMap textLines) := by
    induction parts with
    | nil => exact fun _ _ => rfl
    | cons part parts ih =>
      intro s hs
      obtain ⟨hend, hrunning, hactions⟩ := registrationTurn_spec hs part
      rw [Run.outputs_cons, List.flatMap_cons, Run.outputs_append, hactions, ih _ hend, hrunning]
  exact run RegistrationLoop.start fun _ => rfl

/-- **The dashboard gets the lines of the parts**, whatever the parts are. -/
theorem callbacks_eq (parts : List Bytes) : callbacks parts = parts.flatMap textLines := by
  have run : ∀ s : LogFollower, s.offset = s.file.length →
      Run.outputs followTurn s parts = parts.flatMap textLines := by
    induction parts with
    | nil => exact fun _ _ => rfl
    | cons part parts ih =>
      intro s hs
      have hlines : (followTurn s part).2 = textLines part := by
        simp only [followTurn, hs]
        rw [if_neg (by simp), List.drop_left]
      rw [Run.outputs_cons, hlines, ih _ rfl, List.flatMap_cons]
  exact run LogFollower.start rfl

/-! ## Parts of a single byte -/

theorem length_le_of_mem_readLines {text line : Str} (h : line ∈ readLines text) :
    line.length ≤ text.length := by
  have hflatten : ∀ text, (readLines text).flatten = text := by
    intro text
    induction text with
    | nil => rfl
    | cons c text ih =>
      rw [readLines]
      split_ifs
      · rw [List.flatten_cons, ih, List.singleton_append]
      · cases hrest : readLines text with
        | nil => rw [hrest] at ih; rw [← ih]; rfl
        | cons line lines => rw [hrest] at ih; rw [← ih]; rfl
  have hlength := (List.sublist_flatten_of_mem h).length_le
  rwa [hflatten] at hlength

/-- **A single byte is a line of one character.** -/
theorem length_le_of_mem_singleton {b : UInt8} {line : Str} (h : line ∈ textLines [b]) :
    line.length ≤ 1 := by
  have hdecoded : ∃ c, decodeReplace [b] = [c] := by
    have hstep : decodeItems [b] = (decodeFirst b.toNat).2 ++ flush (decodeFirst b.toNat).1 := by
      simp [decodeItems, decodeStep]
    rw [decodeReplace, hstep]
    unfold decodeFirst
    split_ifs <;> simp [flush]
  obtain ⟨c, hc⟩ := hdecoded
  have hlength : (universalNewlines (decodeReplace [b])).length = 1 := by
    rw [hc, universalNewlines]
    split_ifs <;> rfl
  exact hlength ▸ length_le_of_mem_readLines h

theorem processArsLogLine_short {line : Str} (h : line.length ≤ 1) :
    processArsLogLine true line = (true, []) := by
  simp [processArsLogLine, applyArsLogLine_short ∅ h]

/-- **Bytes that come one at a time make the bridge do nothing.** -/
theorem quiet_singletons (bytes : Bytes) :
    arsActions ((bytes.map fun b => [b]).flatMap textLines) = [] ∧
      Run.final processArsLogLine true ((bytes.map fun b => [b]).flatMap textLines) = true := by
  have hshort : ∀ line ∈ (bytes.map fun b => [b]).flatMap textLines, line.length ≤ 1 := by
    intro line hline
    obtain ⟨part, hpart, hline⟩ := List.mem_flatMap.mp hline
    obtain ⟨b, -, rfl⟩ := List.mem_map.mp hpart
    exact length_le_of_mem_singleton hline
  generalize (bytes.map fun b => [b]).flatMap textLines = lines at hshort
  induction lines with
  | nil => exact ⟨rfl, rfl⟩
  | cons line lines ih =>
    obtain ⟨hline, hlines⟩ := List.forall_mem_cons.mp hshort
    rw [arsActions, Run.outputs_cons, Run.final_cons, processArsLogLine_short hline]
    exact ih hlines

/-! ## The result -/

/-- A piece of a log that makes the bridge do something when it is read on its own. -/
def Acts (piece : Bytes) : Prop := arsActions (textLines piece) ≠ []

theorem arsActions_of_not_acts {parts : List Bytes} (h : ∀ part ∈ parts, ¬ Acts part) :
    arsActions (parts.flatMap textLines) = [] := by
  induction parts with
  | nil => rfl
  | cons part parts ih =>
    obtain ⟨hpart, hparts⟩ := List.forall_mem_cons.mp h
    rw [List.flatMap_cons, arsActions, Run.outputs_append]
    have hfirst : Run.outputs processArsLogLine true (textLines part) = [] := not_not.mp hpart
    rw [hfirst, List.nil_append]
    cases Run.final processArsLogLine true (textLines part) with
    | false => exact outputs_stopped _
    | true => exact ih hparts

/-- The bridge acts alike on all parts of a log exactly when no piece of the log acts. -/
theorem registrationActions_all_iff (lines : List LogLine) :
    (∀ parts, parts.flatten = log lines →
        registrationActions parts = arsActions (lines.map LogLine.text)) ↔
      ∀ piece, piece <:+: log lines → ¬ Acts piece := by
  have flatten_singletons : ∀ bytes : Bytes, (bytes.map fun b => [b]).flatten = bytes := by
    intro bytes
    induction bytes with
    | nil => rfl
    | cons b bytes ih => rw [List.map_cons, List.flatten_cons, ih, List.singleton_append]
  constructor
  · rintro h piece ⟨pre, post, hlog⟩
    have hnone : arsActions (lines.map LogLine.text) = [] := by
      rw [← h _ (flatten_singletons (log lines)), registrationActions_eq]
      exact (quiet_singletons (log lines)).1
    -- the bytes before the piece come one at a time, and those after it
    have hparts := h ((pre.map fun b => [b]) ++ piece :: post.map fun b => [b]) (by
      rw [List.flatten_append, List.flatten_cons, flatten_singletons, flatten_singletons, ← hlog,
        List.append_assoc])
    rw [hnone, registrationActions_eq, List.flatMap_append, List.flatMap_cons, arsActions,
      Run.outputs_append, (quiet_singletons pre).2, Run.outputs_append] at hparts
    have hpiece := (List.append_eq_nil_iff.mp hparts).2
    exact not_not.mpr (List.append_eq_nil_iff.mp hpiece).1
  · intro h parts hparts
    have hwhole : arsActions (lines.map LogLine.text) = [] := by
      rw [← textLines_log]
      exact not_not.mp (h _ (List.infix_refl _))
    rw [registrationActions_eq, hwhole]
    exact arsActions_of_not_acts fun part hpart =>
      h part (hparts ▸ List.infix_of_mem_flatten hpart)

/-- **The followers and the parts.** A log is followed by both exactly when every part of it that becomes
visible ends where a line ends. The audio bridge alone follows any parts exactly of the logs of which no
piece makes it do anything. -/
theorem followers_iff (lines : List LogLine) :
    (∀ parts, parts.flatten = log lines →
      ((registrationActions parts = arsActions (lines.map LogLine.text) ∧
          callbacks parts = lines.map LogLine.text) ↔ ∀ part ∈ parts, EndsLine part)) ∧
    ((∀ parts, parts.flatten = log lines →
        registrationActions parts = arsActions (lines.map LogLine.text)) ↔
      ∀ piece, piece <:+: log lines → ¬ Acts piece) := by
  refine ⟨fun parts hparts => ?_, registrationActions_all_iff lines⟩
  rw [registrationActions_eq, callbacks_eq]
  constructor
  · rintro ⟨-, hlines⟩
    exact (flatMap_textLines_iff hparts).mp hlines
  · intro hends
    have hlines := (flatMap_textLines_iff hparts).mpr hends
    exact ⟨congrArg arsActions hlines, hlines⟩

/-! ## A registration that is cut inside the radio id -/

theorem plain_registration : ∀ b ∈ ascii
    "recognized Motorola SCEP ARS registration, llId = 1234567".toList, Plain b := by
  have hall : (ascii "recognized Motorola SCEP ARS registration, llId = 1234567".toList).all
      fun b => decide (Plain b) := by decide +kernel
  exact fun b hb => of_decide_eq_true (List.all_eq_true.mp hall b hb)

/-- A line with a registration. -/
def registrationLine : LogLine :=
  ⟨ascii "recognized Motorola SCEP ARS registration, llId = 1234567".toList, plain_registration⟩

/-- The line in two parts, the first of which ends with `12`. -/
def cutParts : List Bytes := [registrationLine.bytes.take 52, registrationLine.bytes.drop 52]

theorem flatten_cutParts : cutParts.flatten = log [registrationLine] := by
  simp [cutParts, log, List.take_append_drop]

/-- The bridge registers radio 12, and the dashboard gets two lines. -/
theorem not_followed_cut : cutParts.flatten = log [registrationLine] ∧
    registrationActions cutParts = [.register 12] ∧
    arsActions ([registrationLine].map LogLine.text) = [.register 1234567] ∧
    callbacks cutParts ≠ [registrationLine].map LogLine.text := by
  refine ⟨flatten_cutParts, ?_, ?_, ?_⟩ <;> decide +kernel

theorem followed_whole :
    registrationActions [log [registrationLine]] = arsActions ([registrationLine].map LogLine.text) ∧
      callbacks [log [registrationLine]] = [registrationLine].map LogLine.text :=
  ((followers_iff [registrationLine]).1 [log [registrationLine]] (List.flatten_singleton)).mpr
    fun _ hpart => List.mem_singleton.mp hpart ▸ endsLine_log [registrationLine]

end Logs
