import Mathlib.Algebra.Group.Int.Defs
import Mathlib.Data.Int.Notation
import Mathlib.Data.List.Forall2
import QuantarBridge.Lib.Bimap

/-!
# The talkgroup mappings

`routing.talkgroupMappings` is read three times: by `loadConfig` of the bridge, and by
`AudioConfig.load` and `_reload_routing_if_changed` of the BREW audio service. Each builds a
dictionary from P25 to BrandMeister talkgroups and one back. The bridge refuses zero only; the audio
service wants 24-bit values that are unique in both directions.

* `Yaml`: what yaml-cpp and PyYAML make of a value; `MappingEntry`: an entry of the list;
* `loadConfigMappings`, `pythonMappings` with `audioConfigMappings` and `reloadMappings`;
* `loadConfigMappings_ok`, `pythonMappings_ok`: what each accepts and builds;
* `Bidirectional`: inverse dictionaries, one meaning of the list for all readers;
* `OneMeaning`, `bidirectional_iff`: **the lists that mean the same in both directions**.
-/

set_option autoImplicit false

namespace Config

open Lib

/-- What the two YAML libraries make of a value: `as<uint32_t>` of yaml-cpp, and `int` of what PyYAML
loads. -/
structure Yaml (Node : Type) where
  asUInt32 : Node → Option ℕ
  toInt : Node → Option ℤ

/-- An entry of the list. -/
inductive MappingEntry (Node : Type)
  | notObject
  | object (p25 brandmeister brew : Option Node)

/-- Why a list is refused. -/
inductive MappingError
  | unreadable
  | missingKey
  | refused (text : String)
  deriving DecidableEq

/-- The two dictionaries. -/
abbrev Maps := Dict ℕ ℕ × Dict ℕ ℕ

/-- A value, or the reason there is none. -/
def orError {α : Type} (e : MappingError) : Option α → Except MappingError α
  | some a => .ok a
  | none => .error e

variable {Node : Type} (Y : Yaml Node)

/-! ## The bridge -/

/-- A required value of an entry. -/
def asUInt32 (value : Option Node) : Except MappingError ℕ :=
  match value with
  | none => .error .missingKey
  | some node => orError .unreadable (Y.asUInt32 node)

/-- The two talkgroups of an entry. -/
def bridgePair : MappingEntry Node → Except MappingError (ℕ × ℕ)
  | .notObject => .error .unreadable
  | .object p25 brandmeister _ => do
    let p25Talkgroup ← asUInt32 Y p25
    let bmTalkgroup ← asUInt32 Y brandmeister
    pure (p25Talkgroup, bmTalkgroup)

/-- One entry. -/
def loadConfigStep (m : Maps) (entry : MappingEntry Node) : Except MappingError Maps := do
  let pair ← bridgePair Y entry
  if pair.1 = 0 ∨ pair.2 = 0 then
    .error (.refused
      "routing.talkgroupMappings entries require non-zero p25 and brandmeister values")
  else pure (m.1.set pair.1 pair.2, m.2.set pair.2 pair.1)

/-- The mappings of the bridge. -/
def loadConfigMappings (entries : List (MappingEntry Node)) : Except MappingError Maps :=
  entries.foldlM (loadConfigStep Y) (Dict.empty, Dict.empty)

/-! ## The audio service -/

/-- The texts of a reader. -/
structure MappingTexts where
  notObject : MappingError
  outOfRange : String
  repeated : String

/-- `int(item["p25"])`. -/
def itemInt (value : Option Node) : Except MappingError ℤ :=
  match value with
  | none => .error .missingKey
  | some node => orError .unreadable (Y.toInt node)

/-- `int(item.get("brew", item.get("brandmeister", 0)))`. -/
def itemGetInt (brew brandmeister : Option Node) : Except MappingError ℤ :=
  match brew.or brandmeister with
  | none => .ok 0
  | some node => orError .unreadable (Y.toInt node)

/-- The two talkgroups of an entry. -/
def audioPair (notObject : MappingError) : MappingEntry Node → Except MappingError (ℤ × ℤ)
  | .notObject => .error notObject
  | .object p25 brandmeister brew => do
    let p25 ← itemInt Y p25
    let brew ← itemGetInt Y brew brandmeister
    pure (p25, brew)

/-- A 24-bit talkgroup. -/
def InRange (n : ℤ) : Prop := 1 ≤ n ∧ n ≤ 0xFFFFFF

instance (n : ℤ) : Decidable (InRange n) := inferInstanceAs (Decidable (_ ∧ _))

/-- One entry. -/
def pythonStep (texts : MappingTexts) (m : Maps) (entry : MappingEntry Node) :
    Except MappingError Maps := do
  let pair ← audioPair Y texts.notObject entry
  if ¬ InRange pair.1 ∨ ¬ InRange pair.2 then .error (.refused texts.outOfRange)
  else if (m.1.get? pair.1.toNat).isSome ∨ (m.2.get? pair.2.toNat).isSome then
    .error (.refused texts.repeated)
  else pure (m.1.set pair.1.toNat pair.2.toNat, m.2.set pair.2.toNat pair.1.toNat)

/-- The mappings of a reader of the audio service. -/
def pythonMappings (texts : MappingTexts) (entries : List (MappingEntry Node)) :
    Except MappingError Maps :=
  entries.foldlM (pythonStep Y texts) (Dict.empty, Dict.empty)

/-- The mappings `AudioConfig.load` reads. -/
def audioConfigMappings (entries : List (MappingEntry Node)) : Except MappingError Maps :=
  pythonMappings Y
    ⟨.refused "talkgroupMappings entries must be objects",
      "talkgroupMappings values must be between 1 and 16777215",
      "talkgroupMappings must be unique in both directions"⟩ entries

/-- The mappings `_reload_routing_if_changed` reads. An entry that is no object has no keys to
subscript. -/
def reloadMappings (entries : List (MappingEntry Node)) : Except MappingError Maps :=
  pythonMappings Y
    ⟨.unreadable, "talkgroup mapping is outside the 24-bit range",
      "talkgroup mapping is not unique"⟩ entries

/-! ## What each reader accepts -/

/-- The bridge reads the pairs `ps`, none of them with a zero. -/
structure BridgeAccepts (entries : List (MappingEntry Node)) (ps : List (ℕ × ℕ)) : Prop where
  reads : List.Forall₂ (fun entry p => bridgePair Y entry = .ok p) entries ps
  nonzero : ∀ p ∈ ps, p.1 ≠ 0 ∧ p.2 ≠ 0

/-- The audio service reads a pair of 24-bit talkgroups. -/
def AudioReads (entry : MappingEntry Node) (p : ℕ × ℕ) : Prop :=
  audioPair Y .unreadable entry = .ok ((p.1 : ℤ), (p.2 : ℤ)) ∧ InRange p.1 ∧ InRange p.2

/-- The audio service reads the unique pairs `qs`. -/
structure AudioAccepts (entries : List (MappingEntry Node)) (qs : List (ℕ × ℕ)) : Prop where
  reads : List.Forall₂ (AudioReads Y) entries qs
  unique : Bimap.Unique qs

variable {Y}

theorem bind_ok_iff {α β : Type} {x : Except MappingError α} {f : α → Except MappingError β}
    {b : β} : x >>= f = .ok b ↔ ∃ a, x = .ok a ∧ f a = .ok b := by
  cases x with
  | error e =>
    constructor
    · exact fun h => nomatch h
    · rintro ⟨a, h, -⟩
      exact nomatch h
  | ok a =>
    constructor
    · exact fun h => ⟨a, rfl, h⟩
    · rintro ⟨a', h, hb⟩
      rw [Except.ok.inj h]
      exact hb

theorem loadConfigStep_ok {m m' : Maps} {entry : MappingEntry Node} :
    loadConfigStep Y m entry = .ok m' ↔ ∃ p, bridgePair Y entry = .ok p ∧ (p.1 ≠ 0 ∧ p.2 ≠ 0) ∧
      m' = (m.1.set p.1 p.2, m.2.set p.2 p.1) := by
  rw [loadConfigStep, bind_ok_iff]
  refine exists_congr fun p => and_congr_right fun _ => ?_
  split_ifs with h
  · exact iff_of_false (fun hn => nomatch hn) fun hn => h.elim hn.1.1 hn.1.2
  · rw [not_or] at h
    refine Iff.trans ?_ (and_iff_right h).symm
    exact ⟨fun hm => (Except.ok.inj hm).symm, fun hm => congrArg Except.ok hm.symm⟩

theorem foldlM_loadConfig_ok {entries : List (MappingEntry Node)} {m m' : Maps} :
    entries.foldlM (loadConfigStep Y) m = .ok m' ↔ ∃ ps, BridgeAccepts Y entries ps ∧
      m' = (ps.foldl (fun d p => d.set p.1 p.2) m.1, ps.foldl (fun d p => d.set p.2 p.1) m.2) := by
  induction entries generalizing m with
  | nil =>
    constructor
    · intro h
      exact ⟨[], ⟨.nil, fun p hp => absurd hp List.not_mem_nil⟩, (Except.ok.inj h).symm⟩
    · rintro ⟨ps, h, rfl⟩
      cases h.reads
      rfl
  | cons entry entries ih =>
    rw [List.foldlM_cons, bind_ok_iff]
    constructor
    · rintro ⟨m₁, h₁, h⟩
      obtain ⟨p, hp, hz, rfl⟩ := loadConfigStep_ok.mp h₁
      obtain ⟨ps, hps, rfl⟩ := ih.mp h
      exact ⟨p :: ps, ⟨.cons hp hps.reads, List.forall_mem_cons.mpr ⟨hz, hps.nonzero⟩⟩, rfl⟩
    · rintro ⟨ps, h, rfl⟩
      obtain ⟨hr, hz⟩ := h
      cases hr with
      | @cons _ p _ ps hp hr =>
        rw [List.forall_mem_cons] at hz
        exact ⟨_, loadConfigStep_ok.mpr ⟨p, hp, hz.1, rfl⟩, ih.mpr ⟨ps, ⟨hr, hz.2⟩, rfl⟩⟩

/-- **What the bridge accepts.** -/
theorem loadConfigMappings_ok {entries : List (MappingEntry Node)} {m : Maps} :
    loadConfigMappings Y entries = .ok m ↔
      ∃ ps, BridgeAccepts Y entries ps ∧ m = (Bimap.forward ps, Bimap.backward ps) :=
  foldlM_loadConfig_ok

theorem audioPair_ok {e : MappingError} {entry : MappingEntry Node} {q : ℤ × ℤ} :
    audioPair Y e entry = .ok q ↔ audioPair Y .unreadable entry = .ok q := by
  cases entry with
  | notObject => exact iff_of_false (fun h => nomatch h) fun h => nomatch h
  | object p25 brandmeister brew => exact Iff.rfl

theorem pythonStep_ok {texts : MappingTexts} {done : List (ℕ × ℕ)} (hd : Bimap.Unique done)
    {m : Maps} {entry : MappingEntry Node} :
    pythonStep Y texts (Bimap.forward done, Bimap.backward done) entry = .ok m ↔
      ∃ p, AudioReads Y entry p ∧ Bimap.Unique (done ++ [p]) ∧
        m = (Bimap.forward (done ++ [p]), Bimap.backward (done ++ [p])) := by
  rw [pythonStep, bind_ok_iff]
  constructor
  · rintro ⟨⟨a, b⟩, hq, h⟩
    rw [audioPair_ok] at hq
    dsimp only at h
    split_ifs at h with hr hu
    rw [not_or, not_not, not_not] at hr
    obtain ⟨⟨n, rfl⟩, k, rfl⟩ : (∃ n : ℕ, a = n) ∧ ∃ k : ℕ, b = k :=
      ⟨Int.eq_ofNat_of_zero_le (by unfold InRange at hr; omega),
        Int.eq_ofNat_of_zero_le (by unfold InRange at hr; omega)⟩
    refine ⟨(n, k), ⟨hq, hr⟩, (Bimap.unique_concat_iff hd _).mpr (not_or.mp hu), ?_⟩
    rw [Bimap.forward_concat, Bimap.backward_concat]
    exact (Except.ok.inj h).symm
  · rintro ⟨p, ⟨hq, hr⟩, hu, rfl⟩
    have hr' : ¬ (¬ InRange p.1 ∨ ¬ InRange p.2) := by
      rw [not_or, not_not, not_not]
      exact hr
    refine ⟨_, audioPair_ok.mpr hq, ?_⟩
    dsimp only
    rw [Int.toNat_natCast, Int.toNat_natCast, if_neg hr',
      if_neg (not_or.mpr ((Bimap.unique_concat_iff hd p).mp hu)), Bimap.forward_concat,
      Bimap.backward_concat]
    rfl

theorem foldlM_python_ok {texts : MappingTexts} {entries : List (MappingEntry Node)}
    {done : List (ℕ × ℕ)} (hd : Bimap.Unique done) {m : Maps} :
    entries.foldlM (pythonStep Y texts) (Bimap.forward done, Bimap.backward done) = .ok m ↔
      ∃ qs, List.Forall₂ (AudioReads Y) entries qs ∧ Bimap.Unique (done ++ qs) ∧
        m = (Bimap.forward (done ++ qs), Bimap.backward (done ++ qs)) := by
  induction entries generalizing done m with
  | nil =>
    constructor
    · intro h
      refine ⟨[], .nil, ?_, ?_⟩
      · rw [List.append_nil]
        exact hd
      · rw [List.append_nil]
        exact (Except.ok.inj h).symm
    · rintro ⟨qs, h, -, rfl⟩
      cases h
      rw [List.append_nil]
      rfl
  | cons entry entries ih =>
    rw [List.foldlM_cons, bind_ok_iff]
    constructor
    · rintro ⟨m₁, h₁, h⟩
      obtain ⟨p, hp, hu, rfl⟩ := (pythonStep_ok hd).mp h₁
      obtain ⟨qs, hqs, hu', rfl⟩ := (ih hu).mp h
      rw [List.append_assoc] at hu' ⊢
      exact ⟨p :: qs, .cons hp hqs, hu', rfl⟩
    · rintro ⟨qs, h, hu, rfl⟩
      cases h with
      | @cons _ p _ qs hp hqs =>
        have happ : done ++ p :: qs = done ++ [p] ++ qs := List.append_cons _ _ _
        rw [happ] at hu ⊢
        have hu₁ : Bimap.Unique (done ++ [p]) := by
          obtain ⟨h₁, h₂⟩ := hu
          rw [List.map_append] at h₁ h₂
          exact ⟨h₁.of_append_left, h₂.of_append_left⟩
        exact ⟨_, (pythonStep_ok hd).mpr ⟨p, hp, hu₁, rfl⟩, (ih hu₁).mpr ⟨qs, hqs, hu, rfl⟩⟩

/-- **What the audio service accepts.** -/
theorem pythonMappings_ok {texts : MappingTexts} {entries : List (MappingEntry Node)} {m : Maps} :
    pythonMappings Y texts entries = .ok m ↔
      ∃ qs, AudioAccepts Y entries qs ∧ m = (Bimap.forward qs, Bimap.backward qs) := by
  have hd : Bimap.Unique ([] : List (ℕ × ℕ)) := ⟨List.nodup_nil, List.nodup_nil⟩
  refine (foldlM_python_ok hd).trans (exists_congr fun qs => ?_)
  rw [List.nil_append, ← and_assoc]
  exact and_congr_left' ⟨fun h => ⟨h.1, h.2⟩, fun h => ⟨h.reads, h.unique⟩⟩

/-! ## One meaning for all readers -/

/-- The BrandMeister talkgroup of an uplink call. -/
def uplinkTalkgroup (m : Maps) (p25 : ℕ) : ℕ := (m.1.get? p25).getD p25

/-- The P25 talkgroup of a downlink call. -/
def downlinkTalkgroup (m : Maps) (bm : ℕ) : ℕ := (m.2.get? bm).getD bm

variable (Y) in
/-- The mappings are bidirectional: what the bridge accepts builds inverse dictionaries, so a mapped
call and its answer meet on one P25 talkgroup, and both readers of the audio service accept the same
lists and build the same dictionaries. -/
structure Bidirectional (entries : List (MappingEntry Node)) : Prop where
  inverse : ∀ m, loadConfigMappings Y entries = .ok m → Bimap.Inverse m.1 m.2
  meets : ∀ m, loadConfigMappings Y entries = .ok m → ∀ p25 ∈ m.1.keys,
    downlinkTalkgroup m (uplinkTalkgroup m p25) = p25
  audio_accepts : (∃ m, loadConfigMappings Y entries = .ok m) ↔
    ∃ m, audioConfigMappings Y entries = .ok m
  reload_accepts : (∃ m, loadConfigMappings Y entries = .ok m) ↔
    ∃ m, reloadMappings Y entries = .ok m
  audio_same : ∀ m m', loadConfigMappings Y entries = .ok m →
    audioConfigMappings Y entries = .ok m' → Bimap.Same m m'
  reload_same : ∀ m m', loadConfigMappings Y entries = .ok m →
    reloadMappings Y entries = .ok m' → Bimap.Same m m'

variable (Y) in
/-- **The condition.** Both languages read the same pairs, up to order, and they are 24-bit values
that are unique in both directions; or both refuse the list. -/
def OneMeaning (entries : List (MappingEntry Node)) : Prop :=
  (∃ ps qs, BridgeAccepts Y entries ps ∧ AudioAccepts Y entries qs ∧ ps.Perm qs) ∨
    ((¬ ∃ ps, BridgeAccepts Y entries ps) ∧ ¬ ∃ qs, AudioAccepts Y entries qs)

theorem meets_of_inverse {m : Maps} (h : Bimap.Inverse m.1 m.2) :
    ∀ p25 ∈ m.1.keys, downlinkTalkgroup m (uplinkTalkgroup m p25) = p25 := by
  intro p25 hp
  obtain ⟨bm, hbm⟩ := (Dict.mem_keys_iff _ _).mp hp
  have hback : m.2.get? bm = some p25 := (h p25 bm).mp hbm
  rw [downlinkTalkgroup, uplinkTalkgroup, hbm, Option.getD_some, hback, Option.getD_some]

variable {entries : List (MappingEntry Node)}

theorem exists_load_iff :
    (∃ m, loadConfigMappings Y entries = .ok m) ↔ ∃ ps, BridgeAccepts Y entries ps := by
  simp only [loadConfigMappings_ok]
  exact ⟨fun ⟨_, ps, h, _⟩ => ⟨ps, h⟩, fun ⟨ps, h⟩ => ⟨_, ps, h, rfl⟩⟩

theorem exists_python_iff (texts : MappingTexts) :
    (∃ m, pythonMappings Y texts entries = .ok m) ↔ ∃ qs, AudioAccepts Y entries qs := by
  simp only [pythonMappings_ok]
  exact ⟨fun ⟨_, qs, h, _⟩ => ⟨qs, h⟩, fun ⟨qs, h⟩ => ⟨_, qs, h, rfl⟩⟩

/-- A list has one reading in each language. -/
theorem bridge_unique {ps ps' : List (ℕ × ℕ)} (h : BridgeAccepts Y entries ps)
    (h' : BridgeAccepts Y entries ps') : ps = ps' :=
  List.right_unique_forall₂' (fun _ _ _ h₁ h₂ => Except.ok.inj (h₁.symm.trans h₂)) h.reads h'.reads

theorem audio_unique {qs qs' : List (ℕ × ℕ)} (h : AudioAccepts Y entries qs)
    (h' : AudioAccepts Y entries qs') : qs = qs' := by
  refine List.right_unique_forall₂' (fun _ q q' h₁ h₂ => ?_) h.reads h'.reads
  have he := Prod.mk.inj (Except.ok.inj (h₁.1.symm.trans h₂.1))
  exact Prod.ext (Int.ofNat.inj he.1) (Int.ofNat.inj he.2)

theorem same_of_oneMeaning (h : OneMeaning Y entries) (texts : MappingTexts) {m m' : Maps}
    (hm : loadConfigMappings Y entries = .ok m) (hm' : pythonMappings Y texts entries = .ok m') :
    Bimap.Same m m' := by
  obtain ⟨ps, hps, rfl⟩ := loadConfigMappings_ok.mp hm
  obtain ⟨qs, hqs, rfl⟩ := pythonMappings_ok.mp hm'
  rcases h with ⟨ps', qs', hps', hqs', hp⟩ | ⟨hno, -⟩
  · rw [bridge_unique hps hps', audio_unique hqs hqs']
    exact Bimap.same_of_perm hp hqs'.unique
  · exact absurd ⟨ps, hps⟩ hno

theorem exists_iff_of_oneMeaning (h : OneMeaning Y entries) :
    (∃ ps, BridgeAccepts Y entries ps) ↔ ∃ qs, AudioAccepts Y entries qs := by
  rcases h with ⟨ps, qs, hps, hqs, -⟩ | ⟨hp, hq⟩
  · exact iff_of_true ⟨ps, hps⟩ ⟨qs, hqs⟩
  · exact iff_of_false hp hq

/-- **The mappings are bidirectional exactly for the lists with one meaning.** -/
theorem bidirectional_iff (Y : Yaml Node) (entries : List (MappingEntry Node)) :
    Bidirectional Y entries ↔ OneMeaning Y entries := by
  constructor
  · intro h
    by_cases hb : ∃ ps, BridgeAccepts Y entries ps
    · have hload := exists_load_iff.mpr hb
      obtain ⟨m, hm⟩ := hload
      obtain ⟨m', hm'⟩ := h.audio_accepts.mp ⟨m, hm⟩
      have hs := h.audio_same m m' hm hm'
      obtain ⟨ps, hps, rfl⟩ := loadConfigMappings_ok.mp hm
      obtain ⟨qs, hqs, rfl⟩ := pythonMappings_ok.mp hm'
      have hlen : ps.length = qs.length := by
        rw [← hps.reads.length_eq, hqs.reads.length_eq]
      exact Or.inl ⟨ps, qs, hps, hqs, Bimap.perm_of_same hs hqs.unique hlen⟩
    · refine Or.inr ⟨hb, fun hq => hb ?_⟩
      exact exists_load_iff.mp (h.audio_accepts.mpr ((exists_python_iff _).mpr hq))
  · intro h
    have hinv : ∀ m, loadConfigMappings Y entries = .ok m → Bimap.Inverse m.1 m.2 := by
      intro m hm
      obtain ⟨ps, hps, rfl⟩ := loadConfigMappings_ok.mp hm
      rcases h with ⟨ps', qs, hps', hqs, hp⟩ | ⟨hno, -⟩
      · rw [bridge_unique hps hps']
        exact Bimap.inverse_of_unique (Bimap.unique_of_perm hp hqs.unique)
      · exact absurd ⟨ps, hps⟩ hno
    have hacc := exists_iff_of_oneMeaning h
    exact
      { inverse := hinv
        meets := fun m hm => meets_of_inverse (hinv m hm)
        audio_accepts := exists_load_iff.trans (hacc.trans (exists_python_iff _).symm)
        reload_accepts := exists_load_iff.trans (hacc.trans (exists_python_iff _).symm)
        audio_same := fun m m' => same_of_oneMeaning h _
        reload_same := fun m m' => same_of_oneMeaning h _ }

/-- A list whose values both languages read alike has one meaning exactly when one of its values is
zero, or all are 24-bit values that are unique in both directions. -/
theorem oneMeaning_plain_iff {ps : List (ℕ × ℕ)}
    (h : List.Forall₂ (fun entry p => bridgePair Y entry = .ok p ∧
      audioPair Y .unreadable entry = .ok ((p.1 : ℤ), (p.2 : ℤ))) entries ps) :
    OneMeaning Y entries ↔ (∃ p ∈ ps, p.1 = 0 ∨ p.2 = 0) ∨
      ((∀ p ∈ ps, InRange p.1 ∧ InRange p.2) ∧ Bimap.Unique ps) := by
  have hbridge : ∀ ps', BridgeAccepts Y entries ps' → ps' = ps := fun ps' h' =>
    List.right_unique_forall₂' (fun _ _ _ h₁ h₂ => Except.ok.inj (h₁.symm.trans h₂)) h'.reads
      (h.imp fun _ _ hp => hp.1)
  have haudio : ∀ qs, AudioAccepts Y entries qs → qs = ps := by
    intro qs h'
    refine List.right_unique_forall₂' (fun _ q q' h₁ h₂ => ?_) (h'.reads.imp fun _ _ hq => hq.1)
      (h.imp fun _ _ hp => hp.2)
    have he := Prod.mk.inj (Except.ok.inj (h₁.symm.trans h₂))
    exact Prod.ext (Int.ofNat.inj he.1) (Int.ofNat.inj he.2)
  have hreads : List.Forall₂ (fun entry p => bridgePair Y entry = .ok p) entries ps :=
    h.imp fun _ _ hp => hp.1
  have hrange : ∀ {es : List (MappingEntry Node)} {qs : List (ℕ × ℕ)},
      List.Forall₂ (AudioReads Y) es qs → ∀ q ∈ qs, InRange q.1 ∧ InRange q.2 := by
    intro es qs hq
    induction hq with
    | nil => exact fun q hq => absurd hq List.not_mem_nil
    | cons hq _ ih => exact List.forall_mem_cons.mpr ⟨hq.2, ih⟩
  have haudioReads : ∀ {es : List (MappingEntry Node)} {qs : List (ℕ × ℕ)},
      List.Forall₂ (fun entry p => bridgePair Y entry = .ok p ∧
        audioPair Y .unreadable entry = .ok ((p.1 : ℤ), (p.2 : ℤ))) es qs →
      (∀ q ∈ qs, InRange q.1 ∧ InRange q.2) → List.Forall₂ (AudioReads Y) es qs := by
    intro es qs hq
    induction hq with
    | nil => exact fun _ => .nil
    | cons hq _ ih =>
      intro hr
      rw [List.forall_mem_cons] at hr
      exact .cons ⟨hq.2, hr.1⟩ (ih hr.2)
  constructor
  · rintro (⟨ps', qs, hps, hqs, -⟩ | ⟨hb, -⟩)
    · obtain rfl := haudio qs hqs
      exact Or.inr ⟨hrange hqs.reads, hqs.unique⟩
    · refine Or.inl ?_
      by_contra hz
      refine hb ⟨ps, hreads, fun p hp => ?_⟩
      exact ⟨fun h0 => hz ⟨p, hp, Or.inl h0⟩, fun h0 => hz ⟨p, hp, Or.inr h0⟩⟩
  · rintro (⟨p, hp, hz⟩ | ⟨hr, hu⟩)
    · refine Or.inr ⟨fun ⟨ps', h'⟩ => ?_, fun ⟨qs, h'⟩ => ?_⟩
      · have hn := h'.nonzero p (hbridge ps' h' ▸ hp)
        exact hz.elim hn.1 hn.2
      · have hn := hrange h'.reads p (haudio qs h' ▸ hp)
        simp only [InRange] at hn
        omega
    · refine Or.inl ⟨ps, ps, ⟨hreads, fun p hp => ?_⟩, ⟨haudioReads h hr, hu⟩, List.Perm.refl _⟩
      have hn := hr p hp
      simp only [InRange] at hn
      omega

/-! ## A repeated BrandMeister talkgroup -/

/-- Both libraries read plain integers. -/
def plainYaml : Yaml ℤ where
  asUInt32 n := if 0 ≤ n ∧ n < 2 ^ 32 then some n.toNat else none
  toInt := some

/-- Two P25 talkgroups with one BrandMeister talkgroup: the bridge accepts the list, and the first of
them hears nothing of its own calls. -/
theorem not_bidirectional_repeated : ¬ Bidirectional plainYaml
    [.object (some 101) (some 262000) none, .object (some 102) (some 262000) none] := by
  intro h
  have hmeets := h.meets _ rfl 101 (by decide +kernel)
  revert hmeets
  decide +kernel

end Config
