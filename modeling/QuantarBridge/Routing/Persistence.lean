import QuantarBridge.Lib.Expiry
import QuantarBridge.Lib.StreamText

/-!
# The file of the dynamic talkgroups

A bridge that is managed by a gateway writes the times at which its dynamic talkgroups were seen to a
file, in seconds of the wall clock, and reads them when it starts. A file of another boot is not read.

* `saveDynamicTalkgroupState`, `loadDynamicTalkgroupState`: the file;
* `restore`: what becomes of a talkgroup, `load_save_iff`: **what is written is restored**, if it is not
  too old.
-/

set_option autoImplicit false

namespace Routing

open Lib

/-- What stands in front of the boot identifier. -/
def bootMark : Bytes := ascii "# boot_id=".toList

/-- A second in nanoseconds. -/
def second : ℤ := 1000000000

/-- The steady clock and the wall clock. -/
structure Clocks where
  steady : ℤ
  wall : ℤ

/-- A talkgroup that is restored. -/
structure Restored where
  lastSeenSteady : ℤ
  lastSeenWall : ℤ

/-- A number with its sign. -/
def signedDecimal (n : ℤ) : Bytes := if n < 0 then 45 :: decimal n.natAbs else decimal n.natAbs

/-- A line of the file, without its end. -/
def stateLine (entry : ℕ × ℤ) : Bytes := decimal entry.1 ++ [32] ++ signedDecimal (entry.2.tdiv second)

/-- The content of the state file. -/
def saveDynamicTalkgroupState (dynamicTalkgroupsWall : List (ℕ × ℤ)) (currentBootId : Bytes) : Bytes :=
  (if currentBootId = [] then [] else bootMark ++ currentBootId ++ [10]) ++
    dynamicTalkgroupsWall.flatMap fun entry => stateLine entry ++ [10]

section Load

variable (now : Clocks) (dynamicTimeout : ℤ) (currentBootId : Bytes)

/-- A talkgroup and its time, unless it is too old or in the future. -/
def restoreAt (talkgroup : ℕ) (epochSeconds : ℤ) : Option Restored :=
  let age := now.wall - epochSeconds * second
  if talkgroup = 0 ∨ age < 0 ∨ dynamicTimeout < age then none
  else some ⟨now.steady - age, epochSeconds * second⟩

/-- What a line of the state file restores. -/
def loadLine (line : Bytes) (restored : Dict ℕ Restored) : Dict ℕ Restored :=
  match extractUnsigned 32 line with
  | none => restored
  | some (talkgroup, rest) => match extractSigned 64 rest with
    | none => restored
    | some (epochSeconds, _) =>
      (restoreAt now dynamicTimeout talkgroup epochSeconds).elim restored (restored.set talkgroup)

/-- The lines of the file. The first one that is not empty may name a boot. -/
def loadLines (firstLine : Bool) : List Bytes → Dict ℕ Restored → Dict ℕ Restored
  | [], restored => restored
  | line :: lines, restored =>
    if line = [] then loadLines firstLine lines restored
    else if firstLine = true ∧ bootMark <+: line then
      if currentBootId ≠ [] ∧ line.drop bootMark.length ≠ currentBootId then restored
      else loadLines false lines restored
    else loadLines false lines (loadLine now dynamicTimeout line restored)

/-- The two maps of the source are filled together. -/
def loadDynamicTalkgroupState (file : Option Bytes) : Dict ℕ Restored :=
  file.elim Dict.empty fun content =>
    loadLines now dynamicTimeout currentBootId true (getlines content) Dict.empty

end Load

/-! ## What is written -/

/-- The numbers of a line fit. -/
structure FitsLine (entry : ℕ × ℤ) : Prop where
  talkgroup : entry.1 < 2 ^ 32
  nonneg : 0 ≤ entry.2
  time : entry.2 < 2 ^ 63

variable {now : Clocks} {dynamicTimeout : ℤ} {currentBootId : Bytes}

theorem signedDecimal_of_fits {entry : ℕ × ℤ} (h : FitsLine entry) :
    signedDecimal (entry.2.tdiv second) = decimal (entry.2.toNat / 1000000000) := by
  obtain ⟨n, hn⟩ := Int.eq_ofNat_of_zero_le h.nonneg
  rw [hn]
  have hdiv : ((n : ℤ)).tdiv second = ((n / 1000000000 : ℕ) : ℤ) := rfl
  rw [hdiv, signedDecimal, if_neg (by omega)]
  rfl

theorem newline_not_mem_stateLine {entry : ℕ × ℤ} (h : FitsLine entry) :
    (10 : UInt8) ∉ stateLine entry := by
  have hdigits : ∀ n, (10 : UInt8) ∉ decimal n := fun n hm => absurd (decimal_bounds hm) (by decide)
  rw [stateLine, signedDecimal_of_fits h]
  intro hm
  rcases List.mem_append.mp hm with hm | hm
  · rcases List.mem_append.mp hm with hm | hm
    · exact hdigits _ hm
    · exact absurd (List.mem_singleton.mp hm) (by decide)
  · exact hdigits _ hm

/-- **A line is read back.** -/
theorem loadLine_stateLine {entry : ℕ × ℤ} (h : FitsLine entry) (restored : Dict ℕ Restored) :
    loadLine now dynamicTimeout (stateLine entry) restored =
      (restoreAt now dynamicTimeout entry.1 (entry.2.tdiv second)).elim restored
        (restored.set entry.1) := by
  have hseconds : entry.2.toNat / 1000000000 < 2 ^ (64 - 1) := by
    have := h.time
    omega
  have hrest : stateLine entry = [] ++ (decimal entry.1 ++
      ([32] ++ (decimal (entry.2.toNat / 1000000000) ++ []))) := by
    rw [stateLine, signedDecimal_of_fits h, List.append_nil, List.nil_append, List.append_assoc]
  have hvalue : ((entry.2.toNat / 1000000000 : ℕ) : ℤ) = entry.2.tdiv second := by
    obtain ⟨n, hn⟩ := Int.eq_ofNat_of_zero_le h.nonneg
    rw [hn]
    rfl
  unfold loadLine
  rw [hrest, extractUnsigned_decimal (fun _ hb => absurd hb List.not_mem_nil) h.talkgroup
    (fun b hb => by rw [← Option.some.inj hb]; rfl)]
  dsimp only
  rw [extractSigned_decimal (fun b hb => by rw [List.mem_singleton.mp hb]; rfl) hseconds
    (fun b hb => by cases hb)]
  dsimp only
  rw [hvalue]

theorem loadLines_map {first : Bool} (entries : List (ℕ × ℤ)) :
    ∀ {restored : Dict ℕ Restored}, (∀ entry ∈ entries, FitsLine entry) →
      loadLines now dynamicTimeout currentBootId first (entries.map stateLine) restored =
        entries.foldl (fun restored entry =>
          (restoreAt now dynamicTimeout entry.1 (entry.2.tdiv second)).elim restored
            (restored.set entry.1)) restored := by
  induction entries generalizing first with
  | nil => exact fun _ => rfl
  | cons entry entries ih =>
    intro restored h
    obtain ⟨hentry, h⟩ := List.forall_mem_cons.mp h
    obtain ⟨d, ds, hd⟩ := List.exists_cons_of_ne_nil (decimal_nonempty entry.1)
    have hfirst : ∃ rest, stateLine entry = d :: rest := by
      rw [stateLine, hd]
      exact ⟨_, rfl⟩
    obtain ⟨rest, hline⟩ := hfirst
    have hdigit := decimal_bounds (hd ▸ List.mem_cons_self : d ∈ decimal entry.1)
    have hmark : ¬ bootMark <+: stateLine entry := by
      rw [hline]
      intro hp
      have hhead : (35 : UInt8) = d := (List.cons_prefix_cons.mp hp).1
      rw [← hhead] at hdigit
      exact absurd hdigit.1 (by decide)
    rw [List.map_cons, loadLines, if_neg (by rw [hline]; exact List.cons_ne_nil _ _),
      if_neg fun hb => hmark hb.2, loadLine_stateLine hentry, List.foldl_cons, ih h]

theorem get?_foldl_restore (f : ℕ → ℤ → Option Restored) (entries : List (ℕ × ℤ))
    (hn : (entries.map Prod.fst).Nodup) (talkgroup : ℕ) (r : Restored) :
    ∀ {restored : Dict ℕ Restored}, (∀ entry ∈ entries, restored.get? entry.1 = none) →
      ((entries.foldl (fun restored entry => (f entry.1 entry.2).elim restored (restored.set entry.1))
        restored).get? talkgroup = some r ↔
          restored.get? talkgroup = some r ∨ ∃ w, (talkgroup, w) ∈ entries ∧ f talkgroup w = some r) := by
  induction entries with
  | nil => exact fun _ => ⟨Or.inl, fun h => h.resolve_right fun ⟨_, hm, _⟩ => absurd hm List.not_mem_nil⟩
  | cons entry entries ih =>
    intro restored hfree
    obtain ⟨hnot, hn⟩ := List.nodup_cons.mp hn
    obtain ⟨hentry, hfree⟩ := List.forall_mem_cons.mp hfree
    have hother : ∀ e ∈ entries, e.1 ≠ entry.1 := fun e he heq =>
      hnot (heq ▸ List.mem_map_of_mem he)
    rw [List.foldl_cons]
    cases hf : f entry.1 entry.2 with
    | none =>
      rw [Option.elim_none, ih hn hfree]
      refine or_congr_right ⟨fun ⟨w, hm, hw⟩ => ⟨w, List.mem_cons_of_mem _ hm, hw⟩, ?_⟩
      rintro ⟨w, hm, hw⟩
      rcases List.mem_cons.mp hm with rfl | hm
      · rw [hf] at hw
        cases hw
      · exact ⟨w, hm, hw⟩
    | some r' =>
      rw [Option.elim_some, ih hn fun e he => by rw [Dict.get?_set, if_neg (hother e he)]; exact hfree e he,
        Dict.get?_set]
      split_ifs with htg
      · subst htg
        rw [hentry]
        constructor
        · rintro (hr | ⟨w, hm, hw⟩)
          · exact Or.inr ⟨entry.2, List.mem_cons_self, by rw [hf, hr]⟩
          · exact absurd rfl (hother (entry.1, w) hm)
        · rintro (hr | ⟨w, hm, hw⟩)
          · cases hr
          · rcases List.mem_cons.mp hm with heq | hm
            · obtain rfl : w = entry.2 := congrArg Prod.snd heq
              exact Or.inl (hf.symm.trans hw)
            · exact absurd rfl (hother (entry.1, w) hm)
      · refine or_congr_right ⟨fun ⟨w, hm, hw⟩ => ⟨w, List.mem_cons_of_mem _ hm, hw⟩, ?_⟩
        rintro ⟨w, hm, hw⟩
        rcases List.mem_cons.mp hm with heq | hm
        · exact absurd (congrArg Prod.fst heq) htg
        · exact ⟨w, hm, hw⟩

/-- **What is written is restored**, in any order, when the file is of the same boot. -/
theorem load_save_iff {wall : Dict ℕ ℤ} {entries : List (ℕ × ℤ)} (hperm : entries.Perm wall.entries)
    (hfits : ∀ entry ∈ wall.entries, FitsLine entry) (hboot : (10 : UInt8) ∉ currentBootId)
    (talkgroup : ℕ) (r : Restored) :
    (loadDynamicTalkgroupState now dynamicTimeout currentBootId
        (some (saveDynamicTalkgroupState entries currentBootId))).get? talkgroup = some r ↔
      ∃ w, wall.get? talkgroup = some w ∧
        restoreAt now dynamicTimeout talkgroup (w.tdiv second) = some r := by
  have hall : ∀ entry ∈ entries, FitsLine entry := fun e he => hfits e (hperm.mem_iff.mp he)
  have hlines := getlines_flatMap stateLine entries fun e he => newline_not_mem_stateLine (hall e he)
  have hload : loadDynamicTalkgroupState now dynamicTimeout currentBootId
      (some (saveDynamicTalkgroupState entries currentBootId)) =
        entries.foldl (fun restored entry =>
          (restoreAt now dynamicTimeout entry.1 (entry.2.tdiv second)).elim restored
            (restored.set entry.1)) Dict.empty := by
    show loadLines now dynamicTimeout currentBootId true (getlines _) Dict.empty = _
    unfold saveDynamicTalkgroupState
    by_cases hempty : currentBootId = []
    · rw [if_pos hempty, List.nil_append, hlines, loadLines_map entries hall]
    · have hmark : (10 : UInt8) ∉ bootMark ++ currentBootId := fun hm =>
        (List.mem_append.mp hm).elim (fun h => absurd h (by decide)) hboot
      rw [if_neg hempty, List.append_assoc _ [10], List.singleton_append, getlines_append hmark, hlines,
        loadLines, if_neg (List.append_ne_nil_of_right_ne_nil _ hempty),
        if_pos ⟨rfl, List.prefix_append _ _⟩, List.drop_left, if_neg fun h => h.2 rfl,
        loadLines_map entries hall]
  have hnodup : (entries.map Prod.fst).Nodup := (hperm.map Prod.fst).nodup_iff.mpr wall.nodup
  rw [hload, get?_foldl_restore (fun tg w => restoreAt now dynamicTimeout tg (w.tdiv second)) entries
    hnodup talkgroup r fun _ _ => Dict.get?_empty _, Dict.get?_empty]
  constructor
  · rintro (h | ⟨w, hm, hw⟩)
    · cases h
    · exact ⟨w, (Dict.mem_entries_iff _ _ _).mp (hperm.mem_iff.mp hm), hw⟩
  · rintro ⟨w, hm, hw⟩
    exact Or.inr ⟨w, hperm.mem_iff.mpr ((Dict.mem_entries_iff _ _ _).mpr hm), hw⟩

end Routing
