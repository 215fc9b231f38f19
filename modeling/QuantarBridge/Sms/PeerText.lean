import QuantarBridge.Lib.Trim
import QuantarBridge.Sms.ServerText

/-!
# The text of a peer

A text message in the format of a peer has the sender in front of the message number. The parser takes
the message number for a fixed marker, and looks for a line break, then for the marker and last for the
longest printable run.

* `build_peer`: the message;
* `markerOffset_layout`, `parse_peer_broken`, `parse_peer_marked`: what the parser makes of it;
* `extractText_peer`: the longest run is never the text;
* `recovered_iff`: **exactly when a message is recovered**.
-/

set_option autoImplicit false

namespace Sms

open Lib PacketData

/-! ## Blanks -/

/-- A code unit that is trimmed off. -/
def isBlankUnit (unit : ℕ) : Bool := unit = 0x20 ∨ unit = 0x09 ∨ unit = 0x0D ∨ unit = 0x0A

/-- A code unit of printable ASCII. -/
def isPlain (unit : ℕ) : Bool := 0x20 ≤ unit ∧ unit ≤ 0x7E

section Blanks

variable {unit : ℕ} {units front : List ℕ}

theorem toBytes_of_lt (h : ∀ unit ∈ units, unit < 0x80) : toBytes units = units.map UInt8.ofNat := by
  induction units with
  | nil => rfl
  | cons unit units ih =>
    obtain ⟨hunit, hunits⟩ := List.forall_mem_cons.mp h
    have hbyte : utf8 unit = [UInt8.ofNat unit] := if_pos hunit
    show utf8 unit ++ toBytes units = UInt8.ofNat unit :: units.map UInt8.ofNat
    rw [hbyte, ih hunits, List.singleton_append]

theorem large_utf8 (h : 0x80 ≤ unit) {c : UInt8} (hc : c ∈ utf8 unit) (hunit : unit < 0x10000) :
    0x80 ≤ c.toNat := by
  unfold utf8 at hc
  rw [if_neg (by omega)] at hc
  split_ifs at hc with htwo
  · simp only [List.mem_cons, List.not_mem_nil, or_false] at hc
    rcases hc with rfl | rfl <;> rw [UInt8.toNat_ofNat'] <;> omega
  · simp only [List.mem_cons, List.not_mem_nil, or_false] at hc
    rcases hc with rfl | rfl | rfl <;> rw [UInt8.toNat_ofNat'] <;> omega

theorem utf8_ne_nil (unit : ℕ) : utf8 unit ≠ [] := by
  unfold utf8
  split_ifs <;> exact List.cons_ne_nil _ _

theorem isBlank_iff (c : UInt8) : isBlank c = true ↔
    c.toNat = 0x20 ∨ c.toNat = 0x09 ∨ c.toNat = 0x0D ∨ c.toNat = 0x0A := by
  unfold isBlank
  simp only [decide_eq_true_iff, ← UInt8.toNat_inj]
  rfl

theorem blank_utf8_iff (hunit : unit < 0x10000) :
    Blank isBlank (utf8 unit) ↔ isBlankUnit unit = true := by
  have hblank : isBlankUnit unit = true ↔ unit = 0x20 ∨ unit = 0x09 ∨ unit = 0x0D ∨ unit = 0x0A := by
    unfold isBlankUnit
    rw [decide_eq_true_iff]
  rw [hblank]
  by_cases hsmall : unit < 0x80
  · have hbyte : utf8 unit = [UInt8.ofNat unit] := if_pos hsmall
    rw [hbyte, Blank, List.forall_mem_singleton, isBlank_iff, UInt8.toNat_ofNat']
    omega
  · obtain ⟨c, rest, hfirst⟩ := List.exists_cons_of_ne_nil (utf8_ne_nil unit)
    have hmem : c ∈ utf8 unit := by
      rw [hfirst]
      exact List.mem_cons_self
    have hlarge := large_utf8 (by omega) hmem hunit
    refine iff_of_false (fun hall => ?_) (by omega)
    have := (isBlank_iff c).mp (hall c hmem)
    omega

theorem blank_toBytes_iff (h : ∀ unit ∈ units, unit < 0x10000) :
    Blank isBlank (toBytes units) ↔ ∀ unit ∈ units, isBlankUnit unit = true := by
  induction units with
  | nil => exact iff_of_true (fun _ hc => nomatch hc) (fun _ hc => nomatch hc)
  | cons unit units ih =>
    obtain ⟨hunit, hunits⟩ := List.forall_mem_cons.mp h
    show Blank isBlank (utf8 unit ++ toBytes units) ↔ _
    rw [blank_append_iff, blank_utf8_iff hunit, ih hunits, List.forall_mem_cons]

theorem length_trim_lt {a b : Bytes} (ha : ¬ Blank isBlank a) (hb : ¬ Blank isBlank b) :
    (trim b).length < (trim (a ++ b)).length ∧ (trim a).length < (trim (a ++ b)).length := by
  have htrim : trim (a ++ b) = trim a ++ (gap isBlank a b ++ trim b) := trim_append ha hb
  have hleft : 0 < (trim a).length :=
    List.length_pos_iff.mpr fun hnil => ha (trim_eq_nil_iff.mp hnil)
  have hright : 0 < (trim b).length :=
    List.length_pos_iff.mpr fun hnil => hb (trim_eq_nil_iff.mp hnil)
  rw [htrim, List.length_append, List.length_append]
  omega

end Blanks

/-! ## The message -/

/-- The code units of a sender. -/
def ridUnits (rid : ℕ) : List ℕ := (decimalDigits rid).map (48 + ·)

section Message

variable {rid : ℕ} {messageId : UInt8} {units : List ℕ}

theorem ridUnits_bounds {unit : ℕ} (h : unit ∈ ridUnits rid) : 48 ≤ unit ∧ unit < 58 := by
  obtain ⟨d, hd, rfl⟩ := List.mem_map.mp h
  have := decimalDigits_lt hd
  omega

theorem length_ridUnits (hrid : rid < 2 ^ 24) :
    0 < (ridUnits rid).length ∧ (ridUnits rid).length ≤ 8 := by
  unfold ridUnits
  rw [List.length_map]
  refine ⟨?_, length_decimalDigits_le (by omega) (by omega)⟩
  have hne := decimal_ne_nil rid
  unfold decimal at hne
  exact List.length_pos_iff.mpr fun hnil => hne (by rw [hnil]; rfl)

theorem printable_ridUnits (rid : ℕ) : Printable (ridUnits rid) := by
  intro unit hmem
  have hbounds := ridUnits_bounds hmem
  exact ⟨by omega, isPrintable_iff.mpr (by omega)⟩

theorem map_ridUnits (rid : ℕ) : (ridUnits rid).map UInt8.ofNat = decimal rid := by
  unfold ridUnits decimal
  rw [List.map_map]
  rfl

/-- **A message for a peer.** -/
theorem build_peer (hrid : rid < 2 ^ 24) (h : Printable units) (messageId : UInt8) :
    buildMotorolaTmsPayload rid (toBytes units) messageId false =
      some (if 4 + 2 * ((ridUnits rid).length + units.length) ≤ 0xFFFF then
        tmsLayout (ridUnits rid) messageId units else []) := by
  have haddress : encodeUtf16Le (decimal rid) false = some (bytesLe (ridUnits rid)) := by
    have hsmall : ∀ unit ∈ ridUnits rid, unit < 0x80 := by
      intro unit hmem
      have := ridUnits_bounds hmem
      omega
    rw [← map_ridUnits, ← toBytes_of_lt hsmall]
    exact encodeUtf16Le_toBytes (printable_ridUnits rid)
  have hshort : ¬ 0xFF < (bytesLe (ridUnits rid)).length := by
    have := length_ridUnits hrid
    rw [length_bytesLe]
    omega
  unfold buildMotorolaTmsPayload
  simp only [Bool.false_eq_true, if_false, Option.bind_eq_bind, haddress, Option.bind_some, hshort,
    encodeUtf16Le_toBytes h]
  exact congrArg some (build_layout _ _ rfl)

theorem unitsLe_layout (messageId : UInt8) (hrid : rid < 2 ^ 24) (h : Printable units) :
    ∃ lengthUnit, unitsLe (tmsLayout (ridUnits rid) messageId units) =
      lengthUnit :: (0xE0 + (ridUnits rid).length * 512) ::
        (ridUnits rid ++ markerUnit messageId :: units) := by
  have hall : ∀ unit ∈ ridUnits rid ++ markerUnit messageId :: units, unit < 0x10000 := by
    have hbounds := markerUnit_bounds messageId
    refine List.forall_mem_append.mpr ⟨fun unit hmem => (printable_ridUnits rid unit hmem).1,
      List.forall_mem_cons.mpr ⟨by omega, fun unit hmem => (h unit hmem).1⟩⟩
  have hsecond : (0xE0 : UInt8).toNat + (UInt8.ofNat (2 * (ridUnits rid).length)).toNat * 256 =
      0xE0 + (ridUnits rid).length * 512 := by
    have := length_ridUnits hrid
    rw [UInt8.toNat_ofNat']
    show 224 + _ = _
    omega
  let length := 4 + 2 * ((ridUnits rid).length + units.length)
  have hunits : unitsLe (tmsLayout (ridUnits rid) messageId units) =
      ((UInt8.ofNat (length >>> 8)).toNat + (UInt8.ofNat length).toNat * 256) ::
        ((0xE0 : UInt8).toNat + (UInt8.ofNat (2 * (ridUnits rid).length)).toNat * 256) ::
          unitsLe (bytesLe (ridUnits rid ++ markerUnit messageId :: units)) := rfl
  exact ⟨_, by rw [hunits, hsecond, unitsLe_bytesLe hall]⟩

end Message

/-! ## The longest run -/

theorem longestRun_printable {units : List ℕ} (h : ∀ unit ∈ units, isPrintableUtf16 unit = true) :
    ∀ current best, longestRun units current best = longer best (current ++ units) := by
  induction units with
  | nil =>
    intro current best
    rw [List.append_nil]
    rfl
  | cons unit units ih =>
    intro current best
    obtain ⟨hunit, hunits⟩ := List.forall_mem_cons.mp h
    rw [longestRun, if_neg (ne_zero_of_isPrintable hunit), if_pos hunit, ih hunits, List.append_assoc]
    rfl

theorem longestRun_cons {units : List ℕ} (h : ∀ unit ∈ units, isPrintableUtf16 unit = true)
    (hne : units ≠ []) (unit : ℕ) : ∃ front, longestRun (unit :: units) [] [] = front ++ units := by
  have hrun := longestRun_printable h
  have hlonger : ∀ front, longer [] (front ++ units) = front ++ units := by
    intro front
    have hpos : 0 < (front ++ units).length := List.length_pos_iff.mpr (by simp [hne])
    exact if_pos hpos
  rw [longestRun]
  split_ifs
  · exact ⟨[], by rw [hrun]; exact hlonger []⟩
  · exact ⟨[unit], by rw [hrun]; exact hlonger [unit]⟩
  · exact ⟨[], by rw [hrun]; exact hlonger []⟩

/-- **The longest run is never the text**: it has the sender and the message number in front. -/
theorem extractText_peer {rid : ℕ} {messageId : UInt8} {units : List ℕ} (hrid : rid < 2 ^ 24)
    (h : Printable units) (hblank : trim (toBytes units) ≠ []) :
    trim (extractText (tmsLayout (ridUnits rid) messageId units)) ≠ trim (toBytes units) := by
  have hmarker := markerUnit_bounds messageId
  have hsender := length_ridUnits hrid
  obtain ⟨lengthUnit, hunits⟩ := unitsLe_layout messageId hrid h
  have hprintable : ∀ unit ∈ (0xE0 + (ridUnits rid).length * 512) ::
      (ridUnits rid ++ markerUnit messageId :: units), isPrintableUtf16 unit = true := by
    refine List.forall_mem_cons.mpr ⟨isPrintable_iff.mpr (by omega), List.forall_mem_append.mpr
      ⟨fun unit hmem => (printable_ridUnits rid unit hmem).2, List.forall_mem_cons.mpr
        ⟨isPrintable_iff.mpr (by omega), fun unit hmem => (h unit hmem).2⟩⟩⟩
  obtain ⟨front, hrun⟩ := longestRun_cons hprintable (List.cons_ne_nil _ _) lengthUnit
  -- what stands in front of the text
  obtain ⟨before, hbest⟩ : ∃ before, longestRun (unitsLe (tmsLayout (ridUnits rid) messageId units))
      [] [] = before ++ ([markerUnit messageId] ++ units) ∧ 2 ≤ before.length := by
    refine ⟨front ++ (0xE0 + (ridUnits rid).length * 512) :: ridUnits rid, ?_, ?_⟩
    · rw [hunits, hrun, List.append_assoc]
      rfl
    · rw [List.length_append, List.length_cons]
      omega
  have hlong : ¬ (tmsLayout (ridUnits rid) messageId units).length < 4 := by
    rw [length_tmsLayout]
    omega
  have htext : extractText (tmsLayout (ridUnits rid) messageId units) =
      trim (toBytes (before ++ ([markerUnit messageId] ++ units))) := by
    unfold extractText
    rw [if_neg hlong]
    dsimp only
    rw [hbest.1, if_neg (by rw [List.length_append, List.length_append, List.length_singleton]; omega)]
  have hnot : ¬ Blank isBlank (toBytes (before ++ [markerUnit messageId])) := by
    intro hall
    rw [toBytes_append, blank_append_iff] at hall
    have hone := (blank_toBytes_iff (show ∀ unit ∈ [markerUnit messageId], unit < 0x10000 from
      List.forall_mem_singleton.mpr (by omega))).mp hall.2
    have hcontrol := List.forall_mem_singleton.mp hone
    unfold isBlankUnit at hcontrol
    rw [decide_eq_true_iff] at hcontrol
    omega
  have hlonger := (length_trim_lt hnot fun hall => hblank (trim_eq_nil_iff.mpr hall)).1
  have hagain : trim (trim (toBytes (before ++ ([markerUnit messageId] ++ units)))) =
      trim (toBytes (before ++ ([markerUnit messageId] ++ units))) := trim_trim _
  rw [← List.append_assoc, toBytes_append] at hagain
  intro hequal
  rw [htext, ← List.append_assoc, toBytes_append, hagain] at hequal
  rw [hequal] at hlonger
  exact Nat.lt_irrefl _ hlonger

/-! ## The marker -/

theorem marker_of_offset {data : Bytes} {i : ℕ} (h : markerOffset data = some i) :
    data.getD i 0 = 0x80 := by
  have hfound := List.find?_some h
  rw [decide_eq_true_iff] at hfound
  exact hfound.1

theorem markerOffset_append {a b : UInt8} {front rest : Bytes} (hb : b ≠ 0x80 ∨ front.headD 0x80 ≠ 0x04)
    (hne : ¬ (a = 0x80 ∧ b = 0x04)) (hfront : (0x80 : UInt8) ∉ front) :
    markerOffset (a :: b :: (front ++ 0x80 :: 0x04 :: rest)) = some (front.length + 2) := by
  have hlength : (a :: b :: (front ++ 0x80 :: 0x04 :: rest)).length = front.length + 2 + (rest.length + 2) := by
    simp only [List.length_cons, List.length_append]
    omega
  have hbehind : ∀ j, (front ++ 0x80 :: 0x04 :: rest).getD (front.length + j) 0 =
      ((0x80 : UInt8) :: 0x04 :: rest).getD j 0 := by
    intro j
    rw [List.getD_eq_getElem?_getD, List.getElem?_append_right (by omega), List.getD_eq_getElem?_getD]
    congr 2
    omega
  unfold markerOffset
  rw [List.find?_range_eq_some]
  refine ⟨?_, ?_, fun j hj => ?_⟩
  · have hfirst := hbehind 0
    have hsecond := hbehind 1
    rw [decide_eq_true_iff]
    exact ⟨hfirst, hsecond⟩
  · rw [List.mem_range]
    omega
  · rw [Bool.not_eq_true', decide_eq_false_iff_not]
    rintro ⟨hone, htwo⟩
    match j with
    | 0 => exact hne ⟨hone, htwo⟩
    | 1 =>
      rcases hb with hb | hhead
      · exact hb hone
      · cases front with
        | nil => exact absurd (show (0x80 : UInt8) = 0x04 from htwo) (by decide)
        | cons c front => exact hhead htwo
    | j + 2 =>
      have hlt : j < front.length := by omega
      have hget : (a :: b :: (front ++ 0x80 :: 0x04 :: rest)).getD (j + 2) 0 = front[j] := by
        show (front ++ 0x80 :: 0x04 :: rest).getD j 0 = _
        rw [List.getD_eq_getElem?_getD, List.getElem?_append_left (by omega),
          List.getElem?_eq_getElem (by omega)]
        rfl
      exact hfront (by rw [← hone, hget]; exact List.getElem_mem _)

section Marked

variable {rid : ℕ} {units : List ℕ}

theorem layout_front (rid : ℕ) (units : List ℕ) :
    let length := 4 + 2 * ((ridUnits rid).length + units.length)
    tmsLayout (ridUnits rid) 0 units = UInt8.ofNat (length >>> 8) :: UInt8.ofNat length ::
      (0xE0 :: UInt8.ofNat (2 * (ridUnits rid).length) :: bytesLe (ridUnits rid) ++
        0x80 :: 0x04 :: bytesLe units) := by
  have hmarker : bytesLe (ridUnits rid ++ markerUnit 0 :: units) =
      bytesLe (ridUnits rid) ++ 0x80 :: 0x04 :: bytesLe units := by
    rw [← List.singleton_append, bytesLe_append, bytesLe_append, bytesLe_marker]
    rfl
  unfold tmsLayout
  rw [hmarker]
  rfl

/-- **The marker is the message number zero**, unless the length looks like one. -/
theorem markerOffset_layout (hrid : rid < 2 ^ 24)
    (hfits : 4 + 2 * ((ridUnits rid).length + units.length) ≤ 0xFFFF) :
    markerOffset (tmsLayout (ridUnits rid) 0 units) =
      if 4 + 2 * ((ridUnits rid).length + units.length) = 0x8004 then some 0
      else some (4 + 2 * (ridUnits rid).length) := by
  have hsender := length_ridUnits hrid
  have hbytes : ∀ c ∈ bytesLe (ridUnits rid), c ≠ 0x80 := by
    intro c hc
    obtain ⟨unit, hunit, hc⟩ := List.mem_flatMap.mp hc
    have hbounds := ridUnits_bounds hunit
    rw [← UInt8.toNat_inj.ne]
    simp only [List.mem_cons, List.not_mem_nil, or_false] at hc
    rcases hc with rfl | rfl <;> rw [UInt8.toNat_ofNat'] <;> show _ ≠ 128 <;> omega
  have hlength : UInt8.ofNat (2 * (ridUnits rid).length) ≠ 0x80 := by
    rw [← UInt8.toNat_inj.ne, UInt8.toNat_ofNat']
    show _ ≠ 128
    omega
  split_ifs with hmarker
  · -- the length itself is taken for the marker
    have hfront := layout_front rid units
    rw [hmarker] at hfront
    dsimp only at hfront
    unfold markerOffset
    rw [List.find?_range_eq_some]
    refine ⟨?_, ?_, fun j hj => absurd hj (Nat.not_lt_zero j)⟩
    · rw [hfront]
      rfl
    · rw [List.mem_range, length_tmsLayout]
      omega
  · have hpair : ¬ (UInt8.ofNat ((4 + 2 * ((ridUnits rid).length + units.length)) >>> 8) = 0x80 ∧
        UInt8.ofNat (4 + 2 * ((ridUnits rid).length + units.length)) = 0x04) := by
      rw [← UInt8.toNat_inj, ← UInt8.toNat_inj, UInt8.toNat_ofNat', UInt8.toNat_ofNat',
        Nat.shiftRight_eq_div_pow]
      show ¬ (_ = 128 ∧ _ = 4)
      omega
    have hfront : (0x80 : UInt8) ∉
        0xE0 :: UInt8.ofNat (2 * (ridUnits rid).length) :: bytesLe (ridUnits rid) := by
      rw [List.mem_cons, List.mem_cons, not_or, not_or]
      exact ⟨by decide, hlength.symm, fun hmem => hbytes _ hmem rfl⟩
    rw [layout_front]
    have hhead : (0xE0 :: UInt8.ofNat (2 * (ridUnits rid).length) :: bytesLe (ridUnits rid)).headD 0x80 ≠
        0x04 := show (0xE0 : UInt8) ≠ 0x04 by decide
    refine (markerOffset_append (Or.inr hhead) hpair hfront).trans ?_
    rw [List.length_cons, List.length_cons, length_bytesLe]
    congr 1
    omega

/-! ## The sender -/

theorem wideDigits_ridUnits (rid : ℕ) : wideDigits (bytesLe (ridUnits rid)) = decimal rid := by
  have hall : ∀ units : List ℕ, (∀ unit ∈ units, 48 ≤ unit ∧ unit < 58) →
      wideDigits (bytesLe units) = units.map UInt8.ofNat := by
    intro units h
    induction units with
    | nil => rfl
    | cons unit units ih =>
      obtain ⟨hunit, hunits⟩ := List.forall_mem_cons.mp h
      have hdigit : UInt8.ofNat (unit / 256) = 0 ∧ 0x30 ≤ UInt8.ofNat unit ∧ UInt8.ofNat unit ≤ 0x39 := by
        rw [← UInt8.toNat_inj, UInt8.le_iff_toNat_le, UInt8.le_iff_toNat_le, UInt8.toNat_ofNat',
          UInt8.toNat_ofNat']
        show _ = 0 ∧ 48 ≤ _ ∧ _ ≤ 57
        omega
      show (if _ then UInt8.ofNat unit :: wideDigits (bytesLe units) else _) = _
      rw [if_pos hdigit, ih hunits]
      rfl
  rw [hall _ fun unit hmem => ridUnits_bounds hmem, map_ridUnits]

theorem cons_take_eq_iff {e : ℕ} : ∀ {k : ℕ} {l : List ℕ}, l.length = k + 1 →
    (e :: l.take k = l ↔ l = List.replicate (k + 1) e)
  | 0, [d], _ => by
    show [e] = [d] ↔ [d] = [e]
    exact eq_comm
  | k + 1, d :: l, h => by
    have ih := cons_take_eq_iff (e := d) (Nat.succ_injective h)
    rw [List.take_succ_cons, List.cons.injEq, ih, List.replicate_succ (n := k + 1), List.cons.injEq]
    constructor
    · rintro ⟨rfl, hl⟩
      exact ⟨rfl, hl⟩
    · rintro ⟨rfl, hl⟩
      exact ⟨rfl, hl⟩

theorem digitsValue_inj {a b : List ℕ} (ha : ∀ d ∈ a, d < 10) (hb : ∀ d ∈ b, d < 10)
    (hlength : a.length = b.length) : digitsValue a = digitsValue b ↔ a = b := by
  constructor
  · intro h
    have hvalue : Nat.ofDigits 10 a.reverse = Nat.ofDigits 10 b.reverse := by
      rw [← digitsValue_reverse, ← digitsValue_reverse, List.reverse_reverse, List.reverse_reverse, h]
    exact List.reverse_injective (Nat.ofDigits_inj_of_len_eq (by decide)
      (by rw [List.length_reverse, List.length_reverse, hlength])
      (fun d hd => ha d (List.mem_reverse.mp hd)) (fun d hd => hb d (List.mem_reverse.mp hd)) hvalue)
  · rintro rfl
    rfl

theorem values_decimal (rid : ℕ) : (decimal rid).map (fun c => c.toNat - 0x30) = decimalDigits rid := by
  unfold decimal
  rw [List.map_map]
  conv_rhs => rw [← List.map_id (decimalDigits rid)]
  refine List.map_congr_left fun d hd => ?_
  have hdigit := toNat_digitByte (decimalDigits_lt hd)
  show (digitByte d).toNat - 0x30 = d
  omega

/-- The digits in front of the marker: those of the sender, and the length in front of them when it looks
like a digit. -/
theorem wideDigits_layout (rid : ℕ) (units : List ℕ) :
    let high := UInt8.ofNat ((4 + 2 * ((ridUnits rid).length + units.length)) >>> 8)
    let low := UInt8.ofNat (4 + 2 * ((ridUnits rid).length + units.length))
    wideDigits ((tmsLayout (ridUnits rid) 0 units).take (4 + 2 * (ridUnits rid).length)) =
      if low = 0 ∧ 0x30 ≤ high ∧ high ≤ 0x39 then high :: decimal rid else decimal rid := by
  intro high low
  have htake : (tmsLayout (ridUnits rid) 0 units).take (4 + 2 * (ridUnits rid).length) =
      high :: low :: 0xE0 :: UInt8.ofNat (2 * (ridUnits rid).length) :: bytesLe (ridUnits rid) := by
    rw [layout_front, ← List.cons_append, ← List.cons_append]
    refine List.take_left' ?_
    simp only [List.length_cons, length_bytesLe]
    omega
  have hheader : wideDigits (0xE0 :: UInt8.ofNat (2 * (ridUnits rid).length) ::
      bytesLe (ridUnits rid)) = decimal rid := by
    rw [← wideDigits_ridUnits]
    exact if_neg fun h => absurd h.2.2 (by decide)
  rw [htake]
  show (if low = 0 ∧ 0x30 ≤ high ∧ high ≤ 0x39 then high :: wideDigits (0xE0 :: _) else
    wideDigits (0xE0 :: _)) = _
  rw [hheader]

/-- **The sender** is read when the length is no digit in front of it, or the same digit. -/
theorem markedSource_layout (hseven : (decimalDigits rid).length = 7) (units : List ℕ)
    (hfits : 4 + 2 * ((ridUnits rid).length + units.length) ≤ 0xFFFF) :
    let length := 4 + 2 * ((ridUnits rid).length + units.length)
    markedSource (tmsLayout (ridUnits rid) 0 units) (4 + 2 * (ridUnits rid).length) = rid ↔
      (length % 256 = 0 ∧ 0x30 ≤ length / 256 ∧ length / 256 ≤ 0x39 →
        decimalDigits rid = List.replicate 7 (length / 256 - 0x30)) := by
  intro length
  have hdecimal : (decimal rid).length = 7 := by
    unfold decimal
    rw [List.length_map, hseven]
  have hdigit : UInt8.ofNat length = 0 ∧ (0x30 : UInt8) ≤ UInt8.ofNat (length >>> 8) ∧
      UInt8.ofNat (length >>> 8) ≤ 0x39 ↔
        length % 256 = 0 ∧ 0x30 ≤ length / 256 ∧ length / 256 ≤ 0x39 := by
    rw [← UInt8.toNat_inj, UInt8.le_iff_toNat_le, UInt8.le_iff_toNat_le, UInt8.toNat_ofNat',
      UInt8.toNat_ofNat', Nat.shiftRight_eq_div_pow]
    show _ = 0 ∧ 48 ≤ _ ∧ _ ≤ 57 ↔ _
    omega
  have hdigits := wideDigits_layout rid units
  dsimp only at hdigits
  unfold markedSource
  rw [hdigits]
  by_cases hextra : length % 256 = 0 ∧ 0x30 ≤ length / 256 ∧ length / 256 ≤ 0x39
  · have hhigh : (UInt8.ofNat (length >>> 8)).toNat - 0x30 = length / 256 - 0x30 := by
      rw [UInt8.toNat_ofNat', Nat.shiftRight_eq_div_pow]
      omega
    have hvalues : (((UInt8.ofNat (length >>> 8) :: decimal rid).take 7).map fun c => c.toNat - 0x30) =
        (length / 256 - 0x30) :: (decimalDigits rid).take 6 := by
      rw [List.take_succ_cons, List.map_cons, hhigh, List.map_take, values_decimal]
    have hfront : ∀ d ∈ (length / 256 - 0x30) :: (decimalDigits rid).take 6, d < 10 :=
      List.forall_mem_cons.mpr ⟨by omega, fun d hd => decimalDigits_lt (List.mem_of_mem_take hd)⟩
    have hsame := digitsValue_inj hfront (fun d hd => decimalDigits_lt hd)
      (by rw [List.length_cons, List.length_take, hseven]; rfl)
    rw [if_pos (hdigit.mpr hextra)]
    dsimp only
    rw [if_pos (by rw [List.length_cons, hdecimal]; omega), hvalues]
    rw [digitsValue_decimalDigits, cons_take_eq_iff hseven] at hsame
    rw [hsame]
    exact ⟨fun h _ => h, fun h => h hextra⟩
  · rw [if_neg fun h => hextra (hdigit.mp h)]
    dsimp only
    rw [if_pos (by omega), List.take_of_length_le (by omega), values_decimal, digitsValue_decimalDigits]
    exact iff_of_true rfl fun h => absurd h hextra

end Marked

/-! ## The text behind the marker -/

section Fragment

variable {unit : ℕ} {units : List ℕ}

theorem isPlain_iff : isPlain unit = true ↔ 0x20 ≤ unit ∧ unit ≤ 0x7E := by
  unfold isPlain
  rw [decide_eq_true_iff]

theorem isBlankUnit_iff : isBlankUnit unit = true ↔
    unit = 0x20 ∨ unit = 0x09 ∨ unit = 0x0D ∨ unit = 0x0A := by
  unfold isBlankUnit
  rw [decide_eq_true_iff]

theorem isText_iff (c : UInt8) : isText c = true ↔ 0x20 ≤ c.toNat ∧ c.toNat ≤ 0x7E := by
  unfold isText
  rw [decide_eq_true_iff, UInt8.le_iff_toNat_le, UInt8.le_iff_toNat_le]
  rfl

theorem textFragment_plain (h : isPlain unit = true) (units : List ℕ) :
    textFragment (bytesLe (unit :: units)) = UInt8.ofNat unit :: textFragment (bytesLe units) := by
  have hbounds := isPlain_iff.mp h
  have hlow : (UInt8.ofNat unit).toNat = unit := by
    rw [UInt8.toNat_ofNat']
    omega
  have hhigh : UInt8.ofNat (unit / 256) = 0 := by
    rw [Nat.div_eq_of_lt (by omega)]
    rfl
  have htext : isText (UInt8.ofNat unit) = true := by
    rw [isText_iff, hlow]
    exact hbounds
  have hne : UInt8.ofNat unit ≠ 0 := by
    rw [← UInt8.toNat_inj.ne, hlow]
    show unit ≠ 0
    omega
  cases units with
  | nil =>
    show (if UInt8.ofNat (unit / 256) = 0 ∧ isText (UInt8.ofNat unit) = true then [UInt8.ofNat unit]
      else _) = [UInt8.ofNat unit]
    exact if_pos ⟨hhigh, htext⟩
  | cons next units =>
    show (if UInt8.ofNat unit = 0 ∧ UInt8.ofNat next = 0 ∧ isText (UInt8.ofNat (unit / 256)) = true
      then _ else if UInt8.ofNat (unit / 256) = 0 ∧ isText (UInt8.ofNat unit) = true then
        UInt8.ofNat unit :: textFragment (bytesLe (next :: units)) else _) = _
    rw [if_neg fun h => hne h.1, if_pos ⟨hhigh, htext⟩]

theorem textFragment_control (h : unit = 0x09 ∨ unit = 0x0D ∨ unit = 0x0A) (units : List ℕ) :
    textFragment (bytesLe (unit :: units)) = [] := by
  cases units with
  | nil => rcases h with rfl | rfl | rfl <;> rfl
  | cons next units =>
    rcases h with rfl | rfl | rfl
    all_goals
      show (if _ then _ else if _ then _ else if _ then _ else _) = _
      rw [if_neg fun h => absurd h.1 (by decide), if_neg fun h => absurd h.2 (by decide),
        if_neg (by decide)]

theorem textFragment_append {front : List ℕ} (h : ∀ unit ∈ front, isPlain unit = true)
    (units : List ℕ) : textFragment (bytesLe (front ++ units)) =
      front.map UInt8.ofNat ++ textFragment (bytesLe units) := by
  induction front with
  | nil => rfl
  | cons unit front ih =>
    obtain ⟨hunit, hfront⟩ := List.forall_mem_cons.mp h
    rw [List.cons_append, textFragment_plain hunit, ih hfront]
    rfl

theorem isText_of_mem_fragment (data : Bytes) : ∀ c ∈ textFragment data, isText c = true := by
  fun_induction textFragment data <;> simp_all

theorem mem_trim {c : UInt8} {l : Bytes} (h : c ∈ l) (hblank : isBlank c = false) : c ∈ trim l := by
  have hdrop : ∀ l : Bytes, c ∈ l → c ∈ l.dropWhile isBlank := by
    intro l hl
    rw [← List.takeWhile_append_dropWhile (p := isBlank) (l := l), List.mem_append] at hl
    rcases hl with hfront | hrest
    · exact absurd (List.mem_takeWhile_imp hfront) (by rw [hblank]; decide)
    · exact hrest
  unfold trim
  exact List.mem_reverse.mpr (hdrop _ (List.mem_reverse.mpr (hdrop l h)))

theorem mem_of_mem_trim {c : UInt8} {l : Bytes} (h : c ∈ trim l) : c ∈ l := by
  unfold trim at h
  have hrest := (List.dropWhile_sublist _).subset (List.mem_reverse.mp h)
  exact (List.dropWhile_sublist _).subset (List.mem_reverse.mp hrest)

/-- **The text behind the marker** is the text exactly when there are only blanks behind its plain
characters. -/
theorem fragment_eq_iff (h : Printable units) (hblank : trim (toBytes units) ≠ []) :
    trim (textFragment (bytesLe units)) = trim (toBytes units) ↔
      ∀ unit ∈ units.dropWhile isPlain, isBlankUnit unit = true := by
  have hsplit := List.takeWhile_append_dropWhile (p := isPlain) (l := units)
  generalize hplain : units.takeWhile isPlain = front at hsplit
  have hfront : ∀ unit ∈ front, isPlain unit = true := by
    rw [← hplain]
    exact fun unit hmem => List.mem_takeWhile_imp hmem
  have hfirst := List.head?_dropWhile_not isPlain units
  generalize units.dropWhile isPlain = rest at hsplit hfirst ⊢
  obtain rfl := hsplit
  obtain ⟨-, hrest⟩ := h.append
  have hsmall : ∀ unit ∈ front, unit < 0x80 := by
    intro unit hmem
    have := isPlain_iff.mp (hfront unit hmem)
    omega
  have hcodes : ∀ unit ∈ rest, unit < 0x10000 := fun unit hmem => (hrest unit hmem).1
  rw [textFragment_append hfront, toBytes_append, toBytes_of_lt hsmall]
  rw [toBytes_append, toBytes_of_lt hsmall] at hblank
  cases rest with
  | nil => exact iff_of_true rfl (fun _ hmem => nomatch hmem)
  | cons unit rest =>
    have hnot : ¬ isPlain unit = true := by simpa using hfirst
    have hunit := isPrintable_iff.mp (hrest unit List.mem_cons_self).2
    rw [isPlain_iff] at hnot
    by_cases hcontrol : unit = 0x09 ∨ unit = 0x0D ∨ unit = 0x0A
    · -- the text ends here
      rw [textFragment_control hcontrol, List.append_nil, ← blank_toBytes_iff hcodes]
      constructor
      · intro hequal
        by_contra hmore
        have hsome : ¬ Blank isBlank (front.map UInt8.ofNat) := by
          intro hall
          have hnil : trim (front.map UInt8.ofNat) = [] := trim_eq_nil_iff.mpr hall
          exact hblank (hequal.symm.trans hnil)
        have hlonger := (length_trim_lt hsome hmore).2
        rw [← hequal] at hlonger
        exact Nat.lt_irrefl _ hlonger
      · intro hall
        exact (trim_append_of_blank_right hall).symm
    · -- a character beyond ASCII is lost
      refine iff_of_false (fun hequal => ?_) (fun hall => ?_)
      · obtain ⟨c, others, hutf8⟩ := List.exists_cons_of_ne_nil (utf8_ne_nil unit)
        have hc : c ∈ utf8 unit := by
          rw [hutf8]
          exact List.mem_cons_self
        have hlarge := large_utf8 (by omega) hc (hcodes unit List.mem_cons_self)
        have hmem : c ∈ front.map UInt8.ofNat ++ toBytes (unit :: rest) :=
          List.mem_append_right _ (List.mem_flatMap.mpr ⟨unit, List.mem_cons_self, hc⟩)
        have hkept : isBlank c = false := by
          rw [← Bool.not_eq_true, isBlank_iff]
          omega
        have hfound := mem_of_mem_trim (hequal ▸ mem_trim hmem hkept)
        rw [← textFragment_append hfront] at hfound
        have := (isText_iff c).mp (isText_of_mem_fragment _ c hfound)
        omega
      · have := isBlankUnit_iff.mp (hall unit List.mem_cons_self)
        omega

end Fragment

/-! ## Line breaks -/

section Breaks

variable {units rest : List ℕ}

theorem afterBreak_eq_none_iff : afterBreak units = none ↔ ¬ [0x0D, 0x0A] <:+: units := by
  fun_induction afterBreak units with
  | case1 a b rest hbreak =>
    obtain ⟨rfl, rfl⟩ := hbreak
    refine iff_of_false (Option.some_ne_none _) fun h => h ⟨[], rest, rfl⟩
  | case2 a b rest hbreak ih =>
    rw [ih, List.infix_cons_iff (a := a), not_or]
    refine (and_iff_right ?_).symm
    rintro ⟨t, ht⟩
    exact hbreak ⟨(List.cons.inj ht).1.symm, (List.cons.inj (List.cons.inj ht).2).1.symm⟩
  | case3 units hshort =>
    refine iff_of_true rfl fun h => ?_
    match units, h.length_le with
    | a :: b :: rest, _ => exact hshort a b rest rfl

theorem afterBreak_split : ∀ {units : List ℕ}, afterBreak units = some rest →
    ∃ front, units = front ++ 0x0D :: 0x0A :: rest
  | a :: b :: units, h => by
    rw [afterBreak] at h
    split_ifs at h with hbreak
    · obtain ⟨rfl, rfl⟩ := hbreak
      rw [Option.some.inj h]
      exact ⟨[], rfl⟩
    · obtain ⟨front, hfront⟩ := afterBreak_split h
      exact ⟨a :: front, by rw [hfront, List.cons_append]⟩

/-- Only blanks are in front of the first line break when only blanks are in front of another. -/
theorem afterBreak_blank {front : List ℕ} (h : ∀ unit ∈ front, isBlankUnit unit = true)
    (rest : List ℕ) : ∃ front' rest', afterBreak (front ++ 0x0D :: 0x0A :: rest) = some rest' ∧
      front ++ 0x0D :: 0x0A :: rest = front' ++ 0x0D :: 0x0A :: rest' ∧
        ∀ unit ∈ front', isBlankUnit unit = true := by
  induction front with
  | nil => exact ⟨[], rest, rfl, rfl, fun _ hmem => nomatch hmem⟩
  | cons a front ih =>
    obtain ⟨ha, hfront⟩ := List.forall_mem_cons.mp h
    obtain ⟨front', rest', hafter, hsplit, hblank⟩ := ih hfront
    obtain ⟨b, others, hnext⟩ := List.exists_cons_of_ne_nil
      (show front ++ 0x0D :: 0x0A :: rest ≠ [] by simp)
    by_cases hbreak : a = 0x0D ∧ b = 0x0A
    · refine ⟨[], others, ?_, ?_, fun _ hmem => nomatch hmem⟩
      · rw [List.cons_append, hnext, afterBreak, if_pos hbreak]
      · rw [List.cons_append, hnext, hbreak.1, hbreak.2]
        rfl
    · refine ⟨a :: front', rest', ?_, ?_, List.forall_mem_cons.mpr ⟨ha, hblank⟩⟩
      · rw [List.cons_append, hnext, afterBreak, if_neg hbreak, ← hnext, hafter]
      · rw [List.cons_append, hsplit, List.cons_append]

/-- The text behind a line break is the text exactly when there are only blanks in front. -/
theorem trim_behind_iff {front : List ℕ} (h : Printable (front ++ 0x0D :: 0x0A :: rest))
    (hblank : trim (toBytes (front ++ 0x0D :: 0x0A :: rest)) ≠ []) :
    trim (toBytes rest) = trim (toBytes (front ++ 0x0D :: 0x0A :: rest)) ↔
      ∀ unit ∈ front, isBlankUnit unit = true := by
  have hfront : ∀ unit ∈ front, unit < 0x10000 := fun unit hmem =>
    (h unit (List.mem_append_left _ hmem)).1
  have hbreak : trim (toBytes (0x0D :: 0x0A :: rest)) = trim (toBytes rest) :=
    trim_append_of_blank_left (a := [0x0D, 0x0A]) (b := toBytes rest) (by decide)
  rw [← blank_toBytes_iff hfront, ← hbreak]
  rw [toBytes_append] at hblank ⊢
  constructor
  · intro hequal
    by_contra hmore
    have hsome : ¬ Blank isBlank (toBytes (0x0D :: 0x0A :: rest)) := by
      intro hall
      have hnil : trim (toBytes (0x0D :: 0x0A :: rest)) = [] := trim_eq_nil_iff.mpr hall
      exact hblank (hequal.symm.trans hnil)
    have hlonger := (length_trim_lt hmore hsome).1
    rw [← hequal] at hlonger
    exact Nat.lt_irrefl _ hlonger
  · intro hall
    exact (trim_append_of_blank_left hall).symm

end Breaks

/-! ## What is recovered -/

/-- A message is recovered: its number, its text, and its sender when this has seven digits. -/
def Recovered (rid : ℕ) (messageId : UInt8) (units : List ℕ) (payload : Bytes) : Prop :=
  (∃ parsed, parseMotorolaTms payload = some parsed ∧ parsed.messageId = messageId ∧
    ((decimalDigits rid).length = 7 → parsed.sourceRid = rid)) ∧
  messageText payload = trim (toBytes units)

/-- The length of a message, without the two bytes that hold it. -/
def peerLength (rid : ℕ) (units : List ℕ) : ℕ := 4 + 2 * ((decimalDigits rid).length + units.length)

/-- A message with the number zero and a text of plain characters with blanks behind it, whose length is
neither taken for the marker nor for a digit of its sender. -/
structure PlainMessage (rid : ℕ) (messageId : UInt8) (units : List ℕ) : Prop where
  number : messageId = 0
  long_enough : 10 ≤ peerLength rid units
  unbroken : ¬ [0x0D, 0x0A] <:+: units
  plain : ∀ unit ∈ units.dropWhile isPlain, isBlankUnit unit = true
  no_marker : peerLength rid units ≠ 0x8004
  source : (decimalDigits rid).length = 7 → peerLength rid units % 256 = 0 ∧
    0x30 ≤ peerLength rid units / 256 ∧ peerLength rid units / 256 ≤ 0x39 →
      decimalDigits rid = List.replicate 7 (peerLength rid units / 256 - 0x30)

/-- A text behind a line break, in a message whose number is by chance the low bits of its sender's first
digit. -/
structure BrokenMessage (rid : ℕ) (messageId : UInt8) (units : List ℕ) : Prop where
  number : messageId.toNat = 0x10 + (decimalDigits rid).headD 0
  broken : ∃ front rest, units = front ++ 0x0D :: 0x0A :: rest ∧
    ∀ unit ∈ front, isBlankUnit unit = true
  source : (decimalDigits rid).length ≠ 7

section Recovered

variable {rid : ℕ} {messageId : UInt8} {units rest : List ℕ}

theorem peerLength_eq (rid : ℕ) (units : List ℕ) :
    4 + 2 * ((ridUnits rid).length + units.length) = peerLength rid units := by
  unfold peerLength ridUnits
  rw [List.length_map]

theorem afterLineBreak_layout (h : Printable units) (messageId : UInt8) :
    afterLineBreak ((tmsLayout (ridUnits rid) messageId units).drop 4) =
      (afterBreak units).map bytesLe := by
  have hmarker := markerUnit_bounds messageId
  have hall : ∀ unit ∈ ridUnits rid ++ markerUnit messageId :: units, unit < 0x10000 :=
    List.forall_mem_append.mpr ⟨fun unit hmem => (printable_ridUnits rid unit hmem).1,
      List.forall_mem_cons.mpr ⟨by omega, fun unit hmem => (h unit hmem).1⟩⟩
  have hfront : 0x0D ∉ ridUnits rid ++ [markerUnit messageId] := by
    rw [List.mem_append, List.mem_singleton, not_or]
    refine ⟨fun hmem => ?_, by omega⟩
    have := ridUnits_bounds hmem
    omega
  rw [tmsLayout_drop, afterLineBreak_bytesLe hall, ← List.singleton_append, ← List.append_assoc,
    afterBreak_append hfront]

theorem number_broken (hrid : rid < 2 ^ 24) (messageId : UInt8) (units : List ℕ) :
    ((tmsLayout (ridUnits rid) messageId units).getD 4 0 &&& 0x1F).toNat =
      0x10 + (decimalDigits rid).headD 0 := by
  obtain ⟨d, digits, hdigits⟩ := List.exists_cons_of_ne_nil (l := decimalDigits rid) (by
    have := (length_ridUnits hrid).1
    unfold ridUnits at this
    rw [List.length_map] at this
    exact List.length_pos_iff.mp this)
  have hd : d < 10 := decimalDigits_lt (by rw [hdigits]; exact List.mem_cons_self)
  have hunits : ridUnits rid = (48 + d) :: digits.map (48 + ·) := by
    unfold ridUnits
    rw [hdigits]
    rfl
  have hbyte : (tmsLayout (ridUnits rid) messageId units).getD 4 0 = UInt8.ofNat (48 + d) := by
    rw [hunits]
    rfl
  rw [hbyte, hdigits, UInt8.toNat_and, UInt8.toNat_ofNat']
  show (48 + d) % 256 &&& (2 ^ 5 - 1) = 16 + d
  rw [Nat.and_two_pow_sub_one_eq_mod]
  omega

/-- **With a line break in the text** it is taken for the message of a server. -/
theorem parse_peer_broken (messageId : UInt8) (hrid : rid < 2 ^ 24) (h : Printable units)
    (hbreak : afterBreak units = some rest) :
    parseMotorolaTms (tmsLayout (ridUnits rid) messageId units) =
      if trim (toBytes rest) = [] then none
      else some
        { text := trim (toBytes rest)
          textFragment := []
          operation := 0xE0
          messageId := (tmsLayout (ridUnits rid) messageId units).getD 4 0 &&& 0x1F } := by
  have hsender := length_ridUnits hrid
  obtain ⟨front, rfl⟩ := afterBreak_split hbreak
  have hrest : Printable rest := (Printable.append (show Printable ([0x0D, 0x0A] ++ rest) from h.append.2)).2
  have hlong : ¬ (tmsLayout (ridUnits rid) messageId (front ++ 0x0D :: 0x0A :: rest)).length < 12 := by
    rw [length_tmsLayout, List.length_append, List.length_cons, List.length_cons]
    omega
  unfold parseMotorolaTms
  rw [if_neg hlong, if_pos tmsLayout_operation, afterLineBreak_layout h, hbreak, Option.map_some]
  exact parseServerText_bytesLe hrest _

/-- **Without one** it is searched for the marker. -/
theorem parse_peer_marked (rid : ℕ) (messageId : UInt8) (h : Printable units) (hbreak : afterBreak units = none) :
    parseMotorolaTms (tmsLayout (ridUnits rid) messageId units) =
      if peerLength rid units < 10 then none
      else parseMarked (tmsLayout (ridUnits rid) messageId units) := by
  have hlength : (tmsLayout (ridUnits rid) messageId units).length < 12 ↔ peerLength rid units < 10 := by
    rw [length_tmsLayout, ← peerLength_eq]
    omega
  unfold parseMotorolaTms
  simp only [hlength, if_pos tmsLayout_operation, afterLineBreak_layout h, hbreak, Option.map_none]

/-- The text is what stands behind the marker, since the longest run is not. -/
theorem messageText_marked_iff (hrid : rid < 2 ^ 24) (h : Printable units)
    (hblank : trim (toBytes units) ≠ []) {parsed : ParsedSmsPacket}
    (hparse : parseMotorolaTms (tmsLayout (ridUnits rid) messageId units) = some parsed)
    (htext : parsed.text = []) {data : Bytes} (hfragment : parsed.textFragment = trim data) :
    messageText (tmsLayout (ridUnits rid) messageId units) = trim (toBytes units) ↔
      trim data = trim (toBytes units) := by
  have hagain : trim (trim data) = trim data := trim_trim data
  unfold messageText
  simp only [hparse, htext, hfragment, ne_eq, not_true_eq_false, if_false]
  split_ifs with hempty
  · exact iff_of_false (extractText_peer hrid h hblank) fun hequal =>
      hblank (hequal.symm.trans hempty)
  · rw [hagain]

theorem recovered_broken_iff (hrid : rid < 2 ^ 24) (h : Printable units)
    (hblank : trim (toBytes units) ≠ []) (hbreak : afterBreak units = some rest) :
    Recovered rid messageId units (tmsLayout (ridUnits rid) messageId units) ↔
      BrokenMessage rid messageId units := by
  have hparse := parse_peer_broken messageId hrid h hbreak
  have hnumber := number_broken hrid messageId units
  obtain ⟨front, hsplit⟩ := afterBreak_split hbreak
  have hfront : trim (toBytes rest) = trim (toBytes units) ↔
      ∀ unit ∈ front, isBlankUnit unit = true := by
    rw [hsplit] at h hblank ⊢
    exact trim_behind_iff h hblank
  have hagain : trim (trim (toBytes rest)) = trim (toBytes rest) := trim_trim _
  have hmessage (hsome : trim (toBytes rest) ≠ []) :
      messageText (tmsLayout (ridUnits rid) messageId units) = trim (toBytes rest) := by
    unfold messageText
    simp only [hparse, hsome, if_false, ne_eq, not_false_eq_true, if_true, hagain]
  constructor
  · rintro ⟨⟨parsed, hparsed, hid, hsource⟩, htext⟩
    rw [hparse] at hparsed
    split_ifs at hparsed with hempty
    obtain rfl := Option.some.inj hparsed
    rw [hmessage hempty] at htext
    refine ⟨?_, ⟨front, rest, hsplit, hfront.mp htext⟩, fun hseven => ?_⟩
    · rw [← hnumber]
      exact congrArg UInt8.toNat hid.symm
    · obtain rfl : 0 = rid := hsource hseven
      exact absurd hseven (by decide)
  · rintro ⟨hid, ⟨front', rest', hsplit', hblanks⟩, hseven⟩
    obtain ⟨front'', rest'', hafter, hsplit'', hblanks'⟩ := afterBreak_blank hblanks rest'
    rw [← hsplit'] at hafter hsplit''
    obtain rfl : rest = rest'' := Option.some.inj (hbreak.symm.trans hafter)
    obtain rfl : front = front'' := List.append_cancel_right (hsplit.symm.trans hsplit'')
    have htext := hfront.mpr hblanks'
    have hempty : trim (toBytes rest) ≠ [] := by
      rw [htext]
      exact hblank
    have hmessage' := hmessage hempty
    rw [if_neg hempty] at hparse
    refine ⟨⟨_, hparse, ?_, fun h => absurd h hseven⟩, hmessage'.trans htext⟩
    exact UInt8.toNat_inj.mp (hnumber.trans hid.symm)

theorem recovered_marked_iff (hrid : rid < 2 ^ 24) (h : Printable units)
    (hblank : trim (toBytes units) ≠ []) (hfits : peerLength rid units ≤ 0xFFFF)
    (hid : messageId < 32) (hbreak : afterBreak units = none) :
    Recovered rid messageId units (tmsLayout (ridUnits rid) messageId units) ↔
      PlainMessage rid messageId units := by
  have hparse := parse_peer_marked rid messageId h hbreak
  have hunbroken := afterBreak_eq_none_iff.mp hbreak
  by_cases hshort : peerLength rid units < 10
  · -- too short for any message
    rw [if_pos hshort] at hparse
    refine iff_of_false (fun hrecovered => ?_) (fun hplain => ?_)
    · obtain ⟨⟨parsed, hparsed, -⟩, -⟩ := hrecovered
      rw [hparse] at hparsed
      cases hparsed
    · have := hplain.long_enough
      omega
  rw [if_neg hshort] at hparse
  by_cases hzero : messageId = 0
  swap
  · -- the marker is no other number
    refine iff_of_false (fun hrecovered => ?_) (fun hplain => hzero hplain.number)
    obtain ⟨⟨parsed, hparsed, hnumber, -⟩, -⟩ := hrecovered
    rw [hparse] at hparsed
    obtain ⟨i, hi, rfl⟩ := Option.map_eq_some_iff.mp hparsed
    dsimp only at hnumber
    rw [marker_of_offset hi] at hnumber
    exact hzero (hnumber.symm.trans (by decide))
  subst hzero
  have hoffset := markerOffset_layout hrid
    (show 4 + 2 * ((ridUnits rid).length + units.length) ≤ 0xFFFF by rw [peerLength_eq]; exact hfits)
  rw [peerLength_eq] at hoffset
  by_cases hmarker : peerLength rid units = 0x8004
  · refine iff_of_false (fun hrecovered => ?_) (fun hplain => hplain.no_marker hmarker)
    rw [if_pos hmarker] at hoffset
    have hparsed : parseMotorolaTms (tmsLayout (ridUnits rid) 0 units) = some _ :=
      hparse.trans (congrArg (Option.map _) hoffset)
    have hnothing : textFragment ((tmsLayout (ridUnits rid) 0 units).drop 2) = [] := by
      have hoperation : ∀ (x : UInt8) (data : Bytes), textFragment (0xE0 :: x :: data) = [] := by
        intro x data
        cases data <;> simp [textFragment, isText]
      exact hoperation _ _
    have htext := (messageText_marked_iff hrid h hblank hparsed rfl rfl).mp hrecovered.2
    rw [hnothing] at htext
    exact hblank htext.symm
  · rw [if_neg hmarker] at hoffset
    have hparsed : parseMotorolaTms (tmsLayout (ridUnits rid) 0 units) = some _ :=
      hparse.trans (congrArg (Option.map _) hoffset)
    have hbehind : (tmsLayout (ridUnits rid) 0 units).drop (4 + 2 * (ridUnits rid).length + 2) =
        bytesLe units := by
      have hdrop : (tmsLayout (ridUnits rid) 0 units).drop 4 =
          bytesLe (ridUnits rid ++ [markerUnit 0]) ++ bytesLe units := by
        rw [tmsLayout_drop, ← bytesLe_append, List.append_assoc]
        rfl
      rw [Nat.add_assoc, ← List.drop_drop, hdrop]
      refine List.drop_left' ?_
      rw [length_bytesLe, List.length_append]
      rfl
    have htext := messageText_marked_iff hrid h hblank hparsed rfl rfl
    rw [hbehind, fragment_eq_iff h hblank] at htext
    constructor
    · rintro ⟨⟨parsed, hparsed', -, hsource⟩, hmessage⟩
      obtain rfl := Option.some.inj (hparsed.symm.trans hparsed')
      refine ⟨rfl, by omega, hunbroken, htext.mp hmessage, hmarker, fun hseven => ?_⟩
      rw [← peerLength_eq]
      exact (markedSource_layout hseven units (by rw [peerLength_eq]; exact hfits)).mp (hsource hseven)
    · intro hplain
      refine ⟨⟨_, hparsed, ?_, fun hseven => ?_⟩, htext.mpr hplain.plain⟩
      · dsimp only
        rw [marker_of_offset hoffset]
        decide
      · have hsource := hplain.source hseven
        rw [← peerLength_eq] at hsource
        exact (markedSource_layout hseven units (by rw [peerLength_eq]; exact hfits)).mpr hsource

/-- **Exactly when a message is recovered.** -/
theorem recovered_iff (hrid : rid < 2 ^ 24) (hid : messageId < 32) (h : Printable units)
    (hblank : trim (toBytes units) ≠ []) :
    (∃ payload, buildMotorolaTmsPayload rid (toBytes units) messageId false = some payload ∧
      Recovered rid messageId units payload) ↔
      peerLength rid units ≤ 0xFFFF ∧
        (PlainMessage rid messageId units ∨ BrokenMessage rid messageId units) := by
  rw [build_peer hrid h, peerLength_eq]
  by_cases hfits : peerLength rid units ≤ 0xFFFF
  · have hlayout : Recovered rid messageId units (tmsLayout (ridUnits rid) messageId units) ↔
        PlainMessage rid messageId units ∨ BrokenMessage rid messageId units := by
      cases hbreak : afterBreak units with
      | none =>
        rw [recovered_marked_iff hrid h hblank hfits hid hbreak]
        refine (or_iff_left fun hbroken => ?_).symm
        obtain ⟨front, rest, rfl, -⟩ := hbroken.broken
        exact afterBreak_eq_none_iff.mp hbreak ⟨front, rest, by rw [List.append_assoc]; rfl⟩
      | some rest =>
        rw [recovered_broken_iff hrid h hblank hbreak]
        refine (or_iff_right fun hplain => ?_).symm
        have hnone := afterBreak_eq_none_iff.mpr hplain.unbroken
        rw [hbreak] at hnone
        cases hnone
    rw [if_pos hfits, ← hlayout, and_iff_right hfits]
    constructor
    · rintro ⟨payload, hpayload, hrecovered⟩
      rwa [← Option.some.inj hpayload] at hrecovered
    · exact fun hrecovered => ⟨_, rfl, hrecovered⟩
  · rw [if_neg hfits]
    refine iff_of_false ?_ (fun hall => hfits hall.1)
    rintro ⟨payload, hpayload, ⟨parsed, hparsed, -⟩, -⟩
    rw [← Option.some.inj hpayload] at hparsed
    cases hparsed

end Recovered

/-- Number zero. -/
theorem recovered_zero :
    (∃ payload, buildMotorolaTmsPayload 1000001 (toBytes [0x48, 0x69]) 0 false = some payload ∧
      Recovered 1000001 0 [0x48, 0x69] payload) ↔
      peerLength 1000001 [0x48, 0x69] ≤ 0xFFFF ∧
        (PlainMessage 1000001 0 [0x48, 0x69] ∨ BrokenMessage 1000001 0 [0x48, 0x69]) :=
  recovered_iff (by decide) (by decide) (by decide) (by decide)

/-- Number five is not recovered. -/
theorem not_recovered_five : Printable [0x48, 0x69] ∧ trim (toBytes [0x48, 0x69]) ≠ [] ∧
    ¬ ∃ payload, buildMotorolaTmsPayload 1000001 (toBytes [0x48, 0x69]) 5 false = some payload ∧
      Recovered 1000001 5 [0x48, 0x69] payload := by
  refine ⟨by decide, by decide, ?_⟩
  rintro ⟨payload, hpayload, ⟨parsed, hparsed, -⟩, -⟩
  have hnone : ((buildMotorolaTmsPayload 1000001 (toBytes [0x48, 0x69]) 5 false).bind
      parseMotorolaTms) = none := by decide +kernel
  rw [hpayload, Option.bind_some, hparsed] at hnone
  cases hnone

end Sms
