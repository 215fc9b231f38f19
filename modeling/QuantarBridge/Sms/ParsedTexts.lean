import QuantarBridge.Sms.InboundDocument

/-!
# The texts that are parsed

What the parsers take out of a datagram is the UTF-8 of characters of the basic plane, so it can be
printed into a document and read from it.

* `IsText`, `isText_trim`, `isText_toBytes`: such texts;
* `isText_extractText`: the longest printable run;
* `ParsedDatagram.Sound`, `sound_parse`: **what a parsed datagram holds**.
-/

set_option autoImplicit false

namespace Sms

open Lib PacketData
open P25 (Astral hostBytes latin)

/-! ## The texts of the parsers -/

/-- The UTF-8 of characters that are one unit each. -/
def IsText (bytes : Bytes) : Prop := ∃ text, (∀ c ∈ text, ¬ Astral c) ∧ bytes = hostBytes text

theorem not_astral {unit : ℕ} (h : unit < 0x10000) : ¬ Astral (Char.ofNat unit) := by
  unfold Astral
  by_cases hv : unit.isValidChar
  · rw [Char.ofNat, dif_pos hv]
    exact Nat.not_le.mpr h
  · rw [Char.ofNat, dif_neg hv]
    decide

theorem isText_toBytes {units : List ℕ} (h : Printable units) : IsText (toBytes units) := by
  refine ⟨units.map Char.ofNat, fun c hc => ?_, ?_⟩
  · obtain ⟨unit, hunit, rfl⟩ := List.mem_map.mp hc
    exact not_astral (h unit hunit).1
  · induction units with
    | nil => rfl
    | cons unit units ih =>
      obtain ⟨⟨hlt, hprintable⟩, hunits⟩ := List.forall_mem_cons.mp h
      have hplane : ¬ (0xD800 ≤ unit ∧ unit ≤ 0xDFFF) := by
        rcases isPrintable_iff.mp hprintable with h | h | h <;> omega
      have hvalue : (Char.ofNat unit).toNat = unit := by
        rw [Char.ofNat, dif_pos (by unfold Nat.isValidChar; omega)]
        rfl
      have hone : hostBytes [Char.ofNat unit] = utf8 unit := by
        simp [hostBytes, encodeUtf16, utf16Units, hvalue, hlt, P25.appendUtf8]
      rw [List.map_cons, P25.hostBytes_cons, hone, ← ih hunits]
      rfl

theorem isText_ascii {bytes : Bytes} (h : ∀ b ∈ bytes, b.toNat < 0x80) : IsText bytes := by
  refine ⟨latin bytes, fun c hc => ?_, ?_⟩
  · obtain ⟨b, -, rfl⟩ := List.mem_map.mp hc
    have := b.toNat_lt
    exact not_astral (by omega)
  · induction bytes with
    | nil => rfl
    | cons b bytes ih =>
      obtain ⟨hb, hbytes⟩ := List.forall_mem_cons.mp h
      have hvalue : (Char.ofNat b.toNat).toNat = b.toNat := by
        rw [Char.ofNat, dif_pos (by unfold Nat.isValidChar; omega)]
        rfl
      have hone : hostBytes [Char.ofNat b.toNat] = [b] := by
        have hlt : b.toNat < 0x10000 := by omega
        simp [hostBytes, encodeUtf16, utf16Units, hvalue, hlt, P25.appendUtf8_of_lt hb]
      rw [latin, List.map_cons, P25.hostBytes_cons, hone, ← latin, ← ih hbytes]
      rfl

theorem isBlank_hostBytes {c : Char} (h : ¬ Astral c) :
    (∀ b ∈ hostBytes [c], isBlank b = true) ∨ ∀ b ∈ hostBytes [c], isBlank b = false := by
  have hlt : c.toNat < 0x10000 := Nat.not_le.mp h
  have hbytes : hostBytes [c] = P25.appendUtf8 c.toNat := by
    simp [hostBytes, encodeUtf16, utf16Units, hlt]
  rw [hbytes]
  by_cases hascii : c.toNat < 0x80
  · rw [show P25.appendUtf8 c.toNat = [UInt8.ofNat c.toNat] from if_pos hascii]
    simp only [List.mem_singleton, forall_eq]
    exact (Bool.eq_false_or_eq_true _)
  · refine Or.inr fun b hb => ?_
    have hhigh := P25.appendUtf8_high (Nat.not_lt.mp hascii) hlt b hb
    unfold isBlank
    rw [decide_eq_false_iff_not]
    rintro (rfl | rfl | rfl | rfl) <;> exact absurd hhigh (by decide)

theorem isText_dropWhile {text : List Char} (h : ∀ c ∈ text, ¬ Astral c) :
    ∃ rest, (hostBytes text).dropWhile isBlank = hostBytes rest ∧ ∀ c ∈ rest, ¬ Astral c := by
  induction text with
  | nil => exact ⟨[], rfl, h⟩
  | cons c text ih =>
    obtain ⟨hc, htext⟩ := List.forall_mem_cons.mp h
    rcases isBlank_hostBytes hc with hblank | hblank
    · obtain ⟨rest, hrest, hplain⟩ := ih htext
      refine ⟨rest, ?_, hplain⟩
      rw [P25.hostBytes_cons, List.dropWhile_append_of_pos hblank, hrest]
    · refine ⟨c :: text, ?_, h⟩
      obtain ⟨b, bytes, hbytes⟩ := List.exists_cons_of_ne_nil
        (P25.hostBytes_ne_nil (List.cons_ne_nil c []))
      rw [P25.hostBytes_cons, hbytes, List.cons_append, List.dropWhile_cons_of_neg]
      rw [hblank b (by rw [hbytes]; exact List.mem_cons_self)]
      exact Bool.false_ne_true

theorem isText_reverse_dropWhile {text : List Char} (h : ∀ c ∈ text, ¬ Astral c) :
    ∃ rest, ((hostBytes text).reverse.dropWhile isBlank).reverse = hostBytes rest ∧
      ∀ c ∈ rest, ¬ Astral c := by
  induction text using List.reverseRecOn with
  | nil => exact ⟨[], rfl, h⟩
  | append_singleton text c ih =>
    obtain ⟨htext, hc⟩ := List.forall_mem_append.mp h
    have hc := hc c List.mem_cons_self
    rw [P25.hostBytes_append, List.reverse_append]
    rcases isBlank_hostBytes hc with hblank | hblank
    · obtain ⟨rest, hrest, hplain⟩ := ih htext
      refine ⟨rest, ?_, hplain⟩
      rw [List.dropWhile_append_of_pos fun b hb => hblank b (List.mem_reverse.mp hb), hrest]
    · refine ⟨text ++ [c], ?_, h⟩
      obtain ⟨b, bytes, hbytes⟩ := List.exists_cons_of_ne_nil
        (List.reverse_ne_nil_iff.mpr (P25.hostBytes_ne_nil (List.cons_ne_nil c [])))
      have hb : isBlank b = false :=
        hblank b (List.mem_reverse.mp (by rw [hbytes]; exact List.mem_cons_self))
      rw [hbytes, List.cons_append, List.dropWhile_cons_of_neg (by rw [hb]; exact Bool.false_ne_true),
        ← List.cons_append, ← hbytes, ← List.reverse_append, List.reverse_reverse,
        P25.hostBytes_append]

/-- **Blanks around a text** are characters of their own. -/
theorem isText_trim {bytes : Bytes} (h : IsText bytes) : IsText (trim bytes) := by
  obtain ⟨text, hplain, rfl⟩ := h
  obtain ⟨front, hfront, hplain⟩ := isText_dropWhile hplain
  obtain ⟨rest, hrest, hplain⟩ := isText_reverse_dropWhile hplain
  exact ⟨rest, hplain, by rw [trim, hfront, hrest]⟩

theorem unitsLe_lt (data : Bytes) : ∀ unit ∈ unitsLe data, unit < 0x10000 := by
  fun_induction unitsLe data with
  | case1 a b rest ih =>
    refine List.forall_mem_cons.mpr ⟨?_, ih⟩
    have ha := a.toNat_lt
    have hb := b.toNat_lt
    omega
  | case2 => exact fun _ h => absurd h List.not_mem_nil

theorem mem_longestRun {unit : ℕ} (units : List ℕ) : ∀ {current best : List ℕ},
    unit ∈ longestRun units current best → unit ∈ units ∨ unit ∈ current ∨ unit ∈ best := by
  have hlonger {current best : List ℕ} (h : unit ∈ longer best current) :
      unit ∈ current ∨ unit ∈ best := by
    unfold longer at h
    split_ifs at h
    · exact Or.inl h
    · exact Or.inr h
  induction units with
  | nil => exact fun h => Or.inr (hlonger h)
  | cons other units ih =>
    intro current best h
    rw [longestRun] at h
    split_ifs at h
    · rcases ih h with hmem | hmem | hmem
      · exact Or.inl (List.mem_cons_of_mem _ hmem)
      · exact absurd hmem List.not_mem_nil
      · exact Or.inr (hlonger hmem)
    · rcases ih h with hmem | hmem | hmem
      · exact Or.inl (List.mem_cons_of_mem _ hmem)
      · rcases List.mem_append.mp hmem with hmem | hmem
        · exact Or.inr (Or.inl hmem)
        · rw [List.mem_singleton.mp hmem]
          exact Or.inl List.mem_cons_self
      · exact Or.inr (Or.inr hmem)
    · rcases ih h with hmem | hmem | hmem
      · exact Or.inl (List.mem_cons_of_mem _ hmem)
      · exact absurd hmem List.not_mem_nil
      · exact Or.inr (hlonger hmem)

theorem mem_decodeUnits {units decoded : List ℕ} (h : decodeUnits units = some decoded) :
    ∀ unit ∈ decoded, unit ∈ units := by
  induction units generalizing decoded with
  | nil =>
    rw [← Option.some.inj h]
    exact fun _ hmem => absurd hmem List.not_mem_nil
  | cons unit units ih =>
    rw [decodeUnits] at h
    split_ifs at h with hzero hprintable
    · rw [← Option.some.inj h]
      exact fun _ hmem => absurd hmem List.not_mem_nil
    · obtain ⟨others, hothers, rfl⟩ := Option.map_eq_some_iff.mp h
      exact List.forall_mem_cons.mpr ⟨List.mem_cons_self,
        fun _ hmem => List.mem_cons_of_mem _ (ih hothers _ hmem)⟩

theorem isText_nil : IsText [] := ⟨[], fun _ h => absurd h List.not_mem_nil, rfl⟩

theorem isText_extractText (data : Bytes) : IsText (extractText data) := by
  have hnone : ∀ unit ∈ ([] : List ℕ), isPrintableUtf16 unit = true :=
    fun _ hmem => absurd hmem List.not_mem_nil
  have hprintable : Printable (longestRun (unitsLe data) [] []) := by
    refine fun unit hunit => ⟨?_, Checked.printable_longestRun _ hnone hnone unit hunit⟩
    rcases mem_longestRun _ hunit with hmem | hmem | hmem
    · exact unitsLe_lt data unit hmem
    · exact absurd hmem List.not_mem_nil
    · exact absurd hmem List.not_mem_nil
  unfold extractText
  dsimp only
  split_ifs
  · exact isText_nil
  · exact isText_nil
  · exact isText_trim (isText_toBytes hprintable)

/-- What was parsed is two texts and two radios. -/
structure ParsedDatagram.Sound (p : ParsedDatagram) : Prop where
  application : PlainName p.application
  text : IsText p.text
  textFragment : IsText p.textFragment
  sourceRid : p.sourceRid < 10 ^ 7
  targetRid : p.targetRid < 10 ^ 7

theorem sevenDigits_lt {data : Bytes} {n : ℕ} (h : sevenDigits data = some n) : n < 10 ^ 7 := by
  unfold sevenDigits at h
  dsimp only at h
  split_ifs at h with hdigits
  rw [← Option.some.inj h]
  have hlt := digitsValue_lt (l := (data.take 7).map fun c => c.toNat - 0x30) fun d hd => by
    obtain ⟨c, hc, rfl⟩ := List.mem_map.mp hd
    have hle : c.toNat ≤ 0x39 := UInt8.le_iff_toNat_le.mp
      (of_decide_eq_true (List.all_eq_true.mp hdigits c hc)).2
    omega
  refine hlt.trans_le (Nat.pow_le_pow_right (by decide) ?_)
  rw [List.length_map]
  exact List.length_take_le _ _

theorem markedSource_lt (data : Bytes) (markerOffset : ℕ) :
    markedSource data markerOffset < 10 ^ 7 := by
  unfold markedSource
  dsimp only
  split_ifs
  · have hlt := digitsValue_lt (l := ((wideDigits (data.take markerOffset)).take 7).map
      fun c => c.toNat - 0x30) fun d hd => by
        obtain ⟨c, hc, rfl⟩ := List.mem_map.mp hd
        have hdigit := Checked.isDigit_wideDigits _ c (List.mem_of_mem_take hc)
        have hle : c.toNat ≤ 0x39 := UInt8.le_iff_toNat_le.mp hdigit.2
        omega
    refine hlt.trans_le (Nat.pow_le_pow_right (by decide) ?_)
    rw [List.length_map]
    exact List.length_take_le _ _
  · decide

theorem sound_parseMarked {data : Bytes} {p : ParsedSmsPacket} (h : parseMarked data = some p) :
    p.sourceRid < 10 ^ 7 ∧ IsText p.text ∧ IsText p.textFragment := by
  obtain ⟨i, -, rfl⟩ := Option.map_eq_some_iff.mp h
  refine ⟨markedSource_lt data i, isText_nil, isText_trim (isText_ascii fun b hb => ?_)⟩
  have htext := isText_of_mem_fragment _ b hb
  have hle : b.toNat ≤ 0x7E := UInt8.le_iff_toNat_le.mp (of_decide_eq_true htext).2
  omega

theorem sound_parseServerText {data rest : Bytes} {p : ParsedSmsPacket}
    (h : parseServerText data rest = some p) :
    p.sourceRid < 10 ^ 7 ∧ IsText p.text ∧ IsText p.textFragment := by
  unfold parseServerText at h
  split at h
  · cases h
  · cases h
  · rename_i decoded hne hdecoded
    dsimp only at h
    split_ifs at h
    cases h
    exact ⟨show 0 < 10 ^ 7 by decide, isText_trim (isText_toBytes fun unit hunit => ⟨unitsLe_lt rest unit
      (mem_decodeUnits hdecoded unit hunit), Checked.printable_decodeUnits hdecoded unit hunit⟩),
      isText_nil⟩

theorem sound_parse {channel : Channel} {data : Bytes} {p : ParsedDatagram}
    (h : parseMotorolaPacket channel data = some p) : p.Sound := by
  cases channel with
  | ars =>
    change parseMotorolaArs data = some p at h
    unfold parseMotorolaArs at h
    split_ifs at h
    split at h
    · rename_i sourceRid targetRid hsource htarget
      cases h
      exact ⟨show PlainName "motorola_ars" by decide, isText_nil, isText_nil,
        sevenDigits_lt hsource, sevenDigits_lt htarget⟩
    · cases h
  | tms =>
    obtain ⟨parsed, hparsed, rfl⟩ := Option.map_eq_some_iff.mp h
    have hsound : parsed.sourceRid < 10 ^ 7 ∧ IsText parsed.text ∧ IsText parsed.textFragment := by
      unfold parseMotorolaTms at hparsed
      split_ifs at hparsed
      · split at hparsed
        · exact sound_parseServerText hparsed
        · exact sound_parseMarked hparsed
      · exact sound_parseMarked hparsed
    exact ⟨show PlainName "motorola_tms" by decide, hsound.2.1, hsound.2.2, hsound.1,
      show 0 < 10 ^ 7 by decide⟩

end Sms
