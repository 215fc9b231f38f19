import Mathlib.Data.List.Find
import QuantarBridge.Lib.Rank
import QuantarBridge.P25.Delivery

/-!
# Which texts a poll of the outbox sees

A poll looks at the first four files only and leaves those that cannot be sent where they are. Four
files for radios that are switched off are enough to keep every other text waiting.

* `sendable`: the text of a file can be sent now, `Starts`: a poll starts a text;
* `pollFiles_starts_iff`: what a poll of some files does;
* `outbox_starts_iff`: **exactly when a poll starts a text**.
-/

set_option autoImplicit false

namespace P25

open Lib

namespace Data

variable (cfg : DataConfig) (s : Data)

/-- The text of a file can be sent now. -/
def sendable (listening : Bool) (name : Bytes) : Bool :=
  ((s.outbox.get? name).bind readText).any fun (_, targetRid, text) =>
    s.deliverable listening targetRid text

/-- The files that a poll sorts. -/
def waitingFiles : List Bytes :=
  s.outbox.keys.filter fun name => (ascii ".yaml".toList).isSuffixOf name

/-- A text is started and its file is archived. -/
def Starts (os : List DataEffect) : Prop :=
  ∃ llId pdu fragment name,
    os = [.deliveryStarted llId, .sent pdu (some fragment), .archived llId name]

theorem not_starts_nil : ¬ Starts [] := by
  rintro ⟨llId, pdu, fragment, name, h⟩
  exact List.cons_ne_nil _ _ h.symm

theorem starts_archiveSent_iff (spool : Spool) (llId : ℕ) (name : Bytes) (pdu : Pdu)
    (fragment : DataHeader × Bytes) :
    Starts ([.deliveryStarted llId, .sent pdu (some fragment)] ++ (s.archiveSent spool llId name).2) ↔
      spool.moves name = true := by
  unfold archiveSent
  split_ifs with hmoves
  · exact ⟨fun _ => hmoves, fun _ => ⟨llId, pdu, fragment, name, rfl⟩⟩
  · refine ⟨fun ⟨llId', pdu', fragment', name', h⟩ => ?_, fun h => absurd h hmoves⟩
    have hlen : 2 = 3 := congrArg List.length h
    omega

theorem sendable_archiveFailed (spool : Spool) (listening : Bool) {name name' : Bytes}
    (hne : name' ≠ name) :
    (s.archiveFailed spool name).sendable listening name' = s.sendable listening name' := by
  unfold archiveFailed
  split_ifs
  · unfold sendable
    dsimp only
    rw [Dict.get?_erase, if_neg hne]
    rfl
  · rfl

/-- **A poll of some files** starts the first that can be sent. -/
theorem pollFiles_starts_iff (listening : Bool) (spool : Spool) (names : List Bytes)
    (hnodup : names.Nodup) : ∀ s : Data,
      Starts (pollFiles cfg listening spool names s).2 ↔
        ∃ name, names.find? (s.sendable listening) = some name ∧ spool.moves name = true := by
  induction names with
  | nil =>
    intro s
    refine ⟨fun h => absurd h not_starts_nil, fun ⟨name, h, _⟩ => ?_⟩
    exact absurd h.symm (Option.some_ne_none name)
  | cons name rest ih =>
    obtain ⟨hnot, hnodup⟩ := List.nodup_cons.mp hnodup
    intro s
    rw [List.find?_cons]
    unfold pollFiles
    have hsendable : s.sendable listening name = ((s.outbox.get? name).bind readText).any
      fun (_, targetRid, text) => s.deliverable listening targetRid text := rfl
    cases hfile : s.outbox.get? name with
    | none =>
      rw [hfile] at hsendable
      rw [hsendable]
      exact ih hnodup s
    | some file =>
      rw [hfile, Option.bind_some] at hsendable
      dsimp only
      cases htext : readText file with
      | none =>
        rw [htext] at hsendable
        rw [hsendable]
        dsimp only [Option.any_none]
        have hrest : ∀ name' ∈ rest, (s.archiveFailed spool name).sendable listening name' =
            s.sendable listening name' := by
          intro name' hname'
          refine sendable_archiveFailed s spool listening fun he => hnot ?_
          rw [← he]
          exact hname'
        rw [ih hnodup, List.find?_congr hrest]
      | some text =>
        obtain ⟨sourceRid, targetRid, text⟩ := text
        rw [htext] at hsendable
        rw [hsendable]
        dsimp only [Option.any_some]
        cases hd : s.deliverable listening targetRid text with
        | false =>
          rw [writeDelivery_of_not_deliverable cfg s hd sourceRid]
          exact ih hnodup s
        | true =>
          obtain ⟨s', pdu, fragment, he, -⟩ := writeDelivery_of_deliverable cfg s hd sourceRid
          rw [he]
          dsimp only
          rw [starts_archiveSent_iff]
          constructor
          · exact fun h => ⟨name, rfl, h⟩
          · rintro ⟨name', hname', h⟩
            obtain rfl := Option.some.inj hname'
            exact h

/-- **A poll starts a text** exactly when the first file that can be sent, in the order of the
names, has fewer than four files before it, and can be moved. -/
theorem outbox_starts_iff (listening : Bool) (spool : Spool) :
    Starts (s.processMotorolaTmsOutbox cfg listening spool).2 ↔
      spool.ready = true ∧ ∃ name, Served (· ≤ ·) (s.sendable listening) s.waitingFiles
        kMotorolaTmsP25MaxFilesPerPoll name ∧ spool.moves name = true := by
  have hnodup : s.waitingFiles.Nodup := s.outbox.nodup.sublist List.filter_sublist
  have hperm := List.perm_insertionSort (· ≤ ·) s.waitingFiles
  have hpolled : s.polledFiles.Nodup :=
    (hperm.nodup_iff.mpr hnodup).sublist (List.take_sublist _ _)
  unfold processMotorolaTmsOutbox
  split_ifs with hready
  · rw [hready]
    exact ⟨fun h => absurd h not_starts_nil, fun h => absurd h.1 Bool.false_ne_true⟩
  · rw [pollFiles_starts_iff cfg listening spool _ hpolled]
    have hserved : ∀ name, s.polledFiles.find? (s.sendable listening) = some name ↔
        Served (· ≤ ·) (s.sendable listening) s.waitingFiles kMotorolaTmsP25MaxFilesPerPoll name :=
      fun name => find?_take_insertionSort _ _ hnodup _ name
    simp only [hserved]
    exact (and_iff_right (Bool.of_not_eq_false hready)).symm

/-- Four texts for a radio that is switched off, and one for a radio that is waiting for it. -/
def blockedRun : List DataEvent :=
  [.packet 7 7 0 true (.registration 3221225479 1), .ack [7] 7 0,
    .packet 7 7 1 true (.serviceAcknowledgement 3221225479)] ++
    (["a.yaml", "b.yaml", "c.yaml", "d.yaml"].map fun name =>
      DataEvent.deposit (ascii name.toList) (.event 5 9 (ascii "6869".toList))) ++
    [.deposit (ascii "e.yaml".toList) (.event 5 7 (ascii "6869".toList))]

theorem not_starts_blocked :
    ¬ ∀ (cfg : DataConfig) (s : Data) (spool : Spool), spool.ready = true →
      (∀ name, spool.moves name = true) → s.retry = none →
      (∀ name ∈ s.waitingFiles, ((s.outbox.get? name).bind readText).isSome = true) →
      (∃ name ∈ s.waitingFiles, s.sendable true name = true) →
      Starts (s.processMotorolaTmsOutbox cfg true spool).2 := by
  intro h
  refine not_starts_nil ?_
  have hstarts := h sampleConfig (Run.final (dataStep sampleConfig) .init blockedRun) sampleSpool rfl
    (fun _ => rfl) (by decide +kernel) (by decide +kernel) (by decide +kernel)
  have hnone : (processMotorolaTmsOutbox sampleConfig
      (Run.final (dataStep sampleConfig) .init blockedRun) true sampleSpool).2 = [] := by
    decide +kernel
  rw [hnone] at hstarts
  exact hstarts

end Data

end P25
