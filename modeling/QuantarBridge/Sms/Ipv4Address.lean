import QuantarBridge.Sms.IpPacket

/-!
# Which texts are addresses

An address is four groups of digits with dots between them. The text is read up to the next dot four
times, and then nothing may be left. Behind a last dot nothing is left either, and that dot is gone.

* `Octet`, `DottedQuad`: the texts of addresses;
* `getline_iff`, `parseOctet_iff`: one group;
* `parse_iff`: **what is accepted**: addresses, also with one dot behind them;
* `acceptsQuads_iff`: the texts about which the parser is right.
-/

set_option autoImplicit false

namespace Sms

open Lib PacketData

/-- One to three digits of a number below 256. -/
structure Octet (group : Bytes) (n : UInt8) : Prop where
  length_pos : 1 ≤ group.length
  length_le : group.length ≤ 3
  digits : ∀ c ∈ group, 0x30 ≤ c ∧ c ≤ 0x39
  value : digitsValue (group.map fun c => c.toNat - 48) = n.toNat

/-- Groups with single dots between them. -/
def dotted : List Bytes → Bytes
  | [] => []
  | [group] => group
  | group :: groups => group ++ 0x2E :: dotted groups

/-- Four groups with single dots between them. -/
def DottedQuad (value : Bytes) (x : Address) : Prop :=
  ∃ ga gb gc gd, value = dotted [ga, gb, gc, gd] ∧
    Octet ga x.a ∧ Octet gb x.b ∧ Octet gc x.c ∧ Octet gd x.d

/-! ## One group -/

section Groups

variable {value group rest : Bytes} {n : UInt8}

theorem getline_iff : getline value = some (group, rest) ↔
    0x2E ∉ group ∧ (value = group ++ 0x2E :: rest ∨ value = group ∧ group ≠ [] ∧ rest = []) := by
  constructor
  · intro h
    have hne : value ≠ [] := by
      rintro rfl
      cases h
    rw [getline_of_ne_nil hne, Option.some.injEq, Prod.mk.injEq] at h
    obtain ⟨rfl, rfl⟩ := h
    refine ⟨fun hmem => ?_, ?_⟩
    · have := List.mem_takeWhile_imp hmem
      simp at this
    have hsplit := List.takeWhile_append_dropWhile (p := (· ≠ 0x2E)) (l := value)
    cases hrest : value.dropWhile (· ≠ 0x2E) with
    | nil =>
      rw [hrest, List.append_nil] at hsplit
      exact Or.inr ⟨hsplit.symm, hsplit.symm ▸ hne, rfl⟩
    | cons c tail =>
      have hc := List.head?_dropWhile_not (fun c : UInt8 => decide (c ≠ 0x2E)) value
      rw [hrest] at hc hsplit
      have hdot : c = 0x2E := by simpa using hc
      rw [hdot] at hsplit
      exact Or.inl hsplit.symm
  · rintro ⟨hdot, rfl | ⟨rfl, hne, rfl⟩⟩
    · have hall : ∀ c ∈ group, decide (c ≠ 0x2E) = true :=
        fun c hc => decide_eq_true fun h => hdot (h ▸ hc)
      rw [getline_of_ne_nil (by simp), List.takeWhile_append_of_pos hall,
        List.dropWhile_append_of_pos hall]
      simp
    · have hall : ∀ c ∈ value, decide (c ≠ 0x2E) = true :=
        fun c hc => decide_eq_true fun h => hdot (h ▸ hc)
      rw [getline_of_ne_nil hne, List.takeWhile_eq_self_iff.mpr hall,
        List.dropWhile_eq_nil_iff.mpr hall]
      rfl

theorem getline_isNone_iff : (getline value).isNone = true ↔ value = [] := by
  cases value with
  | nil => exact iff_of_true rfl rfl
  | cons c value => exact iff_of_false Bool.false_ne_true (List.cons_ne_nil c value)

theorem parseOctet_iff : parseOctet group = some n ↔ Octet group n := by
  unfold parseOctet
  constructor
  · intro h
    by_cases hbad : group = [] ∨ 3 < group.length ∨ ∃ c ∈ group, ¬ (0x30 ≤ c ∧ c ≤ 0x39)
    · rw [if_pos hbad] at h
      cases h
    rw [if_neg hbad] at h
    dsimp only at h
    obtain ⟨hne, hlength, hdigits⟩ := not_or.mp hbad |>.imp_right not_or.mp
    split_ifs at h with hlarge
    rw [Option.some.injEq] at h
    refine ⟨List.length_pos_iff.mpr hne, not_lt.mp hlength, fun c hc => ?_, ?_⟩
    · by_contra hc'
      exact hdigits ⟨c, hc, hc'⟩
    · rw [← h, UInt8.toNat_ofNat', Nat.mod_eq_of_lt (by omega)]
  · intro h
    have hpos := h.length_pos
    have hgood : ¬ (group = [] ∨ 3 < group.length ∨ ∃ c ∈ group, ¬ (0x30 ≤ c ∧ c ≤ 0x39)) := by
      rintro (rfl | hlong | ⟨c, hc, hbad⟩)
      · exact absurd hpos (by decide)
      · exact absurd h.length_le (Nat.not_le_of_lt hlong)
      · exact hbad (h.digits c hc)
    have hlt := n.toNat_lt
    rw [if_neg hgood, h.value]
    dsimp only
    rw [if_neg (by omega), UInt8.ofNat_toNat]

theorem Octet.dot_notMem (h : Octet group n) : 0x2E ∉ group := fun hmem =>
  absurd (h.digits _ hmem).1 (by decide)

theorem Octet.ne_nil (h : Octet group n) : group ≠ [] := List.length_pos_iff.mp h.length_pos

/-- A group is read when it is an octet, and either a dot or nothing comes behind it. -/
theorem parseGroup_iff {β : Type} {f : Bytes → UInt8 → Option β} {y : β} :
    (getline value >>= fun r => parseOctet r.1 >>= fun n => f r.2 n) = some y ↔
      ∃ group n rest, Octet group n ∧
        (value = group ++ 0x2E :: rest ∨ value = group ∧ rest = []) ∧ f rest n = some y := by
  rw [Option.bind_eq_bind, Option.bind_eq_some_iff]
  constructor
  · rintro ⟨⟨group, rest⟩, hline, hoctet⟩
    obtain ⟨n, hn, hf⟩ := Option.bind_eq_some_iff.mp hoctet
    obtain ⟨-, hsplit⟩ := getline_iff.mp hline
    exact ⟨group, n, rest, parseOctet_iff.mp hn, hsplit.imp_right fun h => ⟨h.1, h.2.2⟩, hf⟩
  · rintro ⟨group, n, rest, hoctet, hsplit, hf⟩
    refine ⟨(group, rest), getline_iff.mpr ⟨hoctet.dot_notMem, ?_⟩,
      Option.bind_eq_some_iff.mpr ⟨n, parseOctet_iff.mpr hoctet, hf⟩⟩
    exact hsplit.imp_right fun h => ⟨h.1, hoctet.ne_nil, h.2⟩

end Groups

/-! ## Several groups -/

/-- So many groups and nothing behind them. -/
def octets : ℕ → Bytes → Option (List UInt8)
  | 0, value => if (getline value).isNone then some [] else none
  | k + 1, value =>
    getline value >>= fun r => parseOctet r.1 >>= fun n => (octets k r.2).map (n :: ·)

theorem octets_zero_iff {value : Bytes} {ns : List UInt8} :
    octets 0 value = some ns ↔ value = [] ∧ ns = [] := by
  unfold octets
  rw [← getline_isNone_iff]
  split_ifs with h
  · rw [Option.some.injEq, and_iff_right h, eq_comm]
  · exact iff_of_false (fun hsome => by cases hsome) fun hand => h hand.1

theorem octets_succ_iff {k : ℕ} {value : Bytes} {ns : List UInt8} :
    octets (k + 1) value = some ns ↔ ∃ group n rest ns', Octet group n ∧
      (value = group ++ 0x2E :: rest ∨ value = group ∧ rest = []) ∧
      octets k rest = some ns' ∧ n :: ns' = ns := by
  show (getline value >>= fun r => parseOctet r.1 >>= fun n => (octets k r.2).map (n :: ·)) = _ ↔ _
  rw [parseGroup_iff (f := fun rest n => (octets k rest).map (n :: ·))]
  simp only [Option.map_eq_some_iff]
  constructor
  · rintro ⟨group, n, rest, hn, hsplit, ns', hns, h⟩
    exact ⟨group, n, rest, ns', hn, hsplit, hns, h⟩
  · rintro ⟨group, n, rest, ns', hn, hsplit, hns, h⟩
    exact ⟨group, n, rest, hn, hsplit, ns', hns, h⟩

theorem dotted_cons (group : Bytes) {groups : List Bytes} (h : groups ≠ []) :
    dotted (group :: groups) = group ++ 0x2E :: dotted groups := by
  cases groups with
  | nil => exact absurd rfl h
  | cons g gs => rfl

theorem octets_nil (k : ℕ) : octets (k + 1) [] = none := rfl

theorem octets_iff {k : ℕ} {value : Bytes} {ns : List UInt8} : octets (k + 1) value = some ns ↔
    ns.length = k + 1 ∧ ∃ groups, List.Forall₂ Octet groups ns ∧
      (value = dotted groups ∨ value = dotted groups ++ [0x2E]) := by
  induction k generalizing value ns with
  | zero =>
    rw [octets_succ_iff]
    constructor
    · rintro ⟨group, n, rest, ns', hn, hsplit, hrest, rfl⟩
      obtain ⟨rfl, rfl⟩ := octets_zero_iff.mp hrest
      exact ⟨rfl, [group], .cons hn .nil, hsplit.symm.imp_left And.left⟩
    · rintro ⟨hlength, groups, hgroups, hvalue⟩
      cases hgroups with
      | nil => cases hlength
      | @cons group n groups ns hn hgroups =>
        obtain rfl := List.length_eq_zero_iff.mp (Nat.succ.inj hlength)
        cases hgroups
        exact ⟨group, n, [], [], hn, hvalue.symm.imp_right fun h => ⟨h, rfl⟩,
          octets_zero_iff.mpr ⟨rfl, rfl⟩, rfl⟩
  | succ k ih =>
    rw [octets_succ_iff]
    constructor
    · rintro ⟨group, n, rest, ns', hn, hsplit, hrest, rfl⟩
      obtain ⟨hlength, groups, hgroups, hdotted⟩ := ih.mp hrest
      have hne : groups ≠ [] := by
        rintro rfl
        cases hgroups
        cases hlength
      have hvalue : value = group ++ 0x2E :: rest := by
        rcases hsplit with h | ⟨-, rfl⟩
        · exact h
        · rw [octets_nil] at hrest
          cases hrest
      refine ⟨congrArg (· + 1) hlength, group :: groups, .cons hn hgroups, ?_⟩
      rw [hvalue, dotted_cons group hne, List.append_assoc, List.cons_append]
      exact hdotted.imp (fun h => by rw [h]) (fun h => by rw [h])
    · rintro ⟨hlength, groups, hgroups, hvalue⟩
      cases hgroups with
      | nil => cases hlength
      | @cons group n groups ns hn hgroups =>
        have hlength := Nat.succ.inj hlength
        have hne : groups ≠ [] := by
          rintro rfl
          cases hgroups
          cases hlength
        rw [dotted_cons group hne, List.append_assoc, List.cons_append] at hvalue
        rcases hvalue with hvalue | hvalue
        · exact ⟨group, n, _, ns, hn, Or.inl hvalue, ih.mpr ⟨hlength, groups, hgroups, Or.inl rfl⟩, rfl⟩
        · exact ⟨group, n, _, ns, hn, Or.inl hvalue, ih.mpr ⟨hlength, groups, hgroups, Or.inr rfl⟩, rfl⟩

/-! ## Addresses -/

theorem parse_eq (value : Bytes) : parseIpv4Address value = (octets 4 value).bind fun ns =>
    match ns with
    | [a, b, c, d] => some ⟨a, b, c, d⟩
    | _ => none := by
  have hend : ∀ (c : Prop) [Decidable c] (f : List UInt8 → Option Address),
      (if c then some [] else none).bind f = if c then f [] else none := by
    intro c _ f
    split_ifs <;> rfl
  simp only [parseIpv4Address, octets, Option.bind_eq_bind, Option.bind_assoc, Option.map_bind,
    Option.bind_map, Function.comp_def, hend]

theorem parse_eq_some_iff {value : Bytes} {x : Address} :
    parseIpv4Address value = some x ↔ octets 4 value = some x.bytes := by
  rw [parse_eq, Option.bind_eq_some_iff]
  constructor
  · rintro ⟨ns, hns, hx⟩
    rw [hns]
    match ns, hx with
    | [a, b, c, d], rfl => rfl
  · intro h
    exact ⟨x.bytes, h, rfl⟩

theorem dottedQuad_iff {value : Bytes} {x : Address} :
    DottedQuad value x ↔ ∃ groups, List.Forall₂ Octet groups x.bytes ∧ value = dotted groups := by
  constructor
  · rintro ⟨ga, gb, gc, gd, hvalue, ha, hb, hc, hd⟩
    exact ⟨[ga, gb, gc, gd], .cons ha (.cons hb (.cons hc (.cons hd .nil))), hvalue⟩
  · rintro ⟨groups, hgroups, rfl⟩
    match groups, hgroups with
    | [ga, gb, gc, gd], .cons ha (.cons hb (.cons hc (.cons hd .nil))) =>
      exact ⟨ga, gb, gc, gd, rfl, ha, hb, hc, hd⟩

/-- **What is accepted**: an address, also with one dot behind it. -/
theorem parse_iff {value : Bytes} {x : Address} : parseIpv4Address value = some x ↔
    DottedQuad value x ∨ ∃ quad, value = quad ++ [0x2E] ∧ DottedQuad quad x := by
  simp only [parse_eq_some_iff, octets_iff, dottedQuad_iff]
  constructor
  · rintro ⟨-, groups, hgroups, hvalue | hvalue⟩
    · exact Or.inl ⟨groups, hgroups, hvalue⟩
    · exact Or.inr ⟨dotted groups, hvalue, groups, hgroups, rfl⟩
  · rintro (⟨groups, hgroups, hvalue⟩ | ⟨-, hvalue, groups, hgroups, rfl⟩)
    · exact ⟨rfl, groups, hgroups, Or.inl hvalue⟩
    · exact ⟨rfl, groups, hgroups, Or.inr hvalue⟩

theorem not_dottedQuad_concat (quad : Bytes) (x : Address) : ¬ DottedQuad (quad ++ [0x2E]) x := by
  rintro ⟨ga, gb, gc, gd, hvalue, -, -, -, hd⟩
  obtain ⟨front, c, rfl⟩ := (List.eq_nil_or_concat' gd).resolve_left hd.ne_nil
  have hlast : dotted [ga, gb, gc, front ++ [c]] =
      (ga ++ 0x2E :: (gb ++ 0x2E :: (gc ++ 0x2E :: front))) ++ [c] := by
    simp [dotted]
  have hdot : c = 0x2E :=
    (List.singleton_inj.mp (List.append_inj' (hvalue.trans hlast) rfl).2).symm
  exact hd.dot_notMem (List.mem_append_right front (List.mem_singleton.mpr hdot.symm))

/-- **Exactly when the parser is right** about a text: when the text is not an address with a dot
behind it. -/
theorem acceptsQuads_iff (value : Bytes) :
    (∀ x, parseIpv4Address value = some x ↔ DottedQuad value x) ↔
      ¬ ∃ quad x, value = quad ++ [0x2E] ∧ DottedQuad quad x := by
  simp only [parse_iff]
  constructor
  · rintro h ⟨quad, x, rfl, hquad⟩
    exact not_dottedQuad_concat quad x ((h x).mp (Or.inr ⟨quad, rfl, hquad⟩))
  · intro h x
    exact or_iff_left fun ⟨quad, hvalue, hquad⟩ => h ⟨quad, x, hvalue, hquad⟩

/-- The dot behind `1.2.3.4` is not seen. -/
theorem not_acceptsQuads : ¬ ∀ (value : Bytes) (x : Address),
    parseIpv4Address value = some x ↔ DottedQuad value x := by
  intro h
  exact not_dottedQuad_concat _ _ ((h (ascii "1.2.3.4".toList ++ [0x2E]) ⟨1, 2, 3, 4⟩).mp (by decide +kernel))

end Sms
