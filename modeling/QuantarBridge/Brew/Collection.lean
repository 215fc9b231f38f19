import QuantarBridge.Brew.Sds
import QuantarBridge.Lib.Expiry
import QuantarBridge.Lib.Run
import QuantarBridge.Lib.Trim

/-!
# Collecting the fragments of a text

A text message may reach the inbox in several events. The fragments from one source to one target
are collected until none came for five seconds, or for eight seconds altogether, and are then put
together for the transport. A fragment that is part of an earlier one counts as a repetition.

* `InboxEvent`, `chooseText`, `appendTextFragment`, `processEvent`: an event of the inbox;
* `flushPendingText`, `flushReadyTexts`: the text for the transport;
* `collectStep`: the collector as a machine;
* `collect`, `NoPart`, `collect_eq_iff`: which fragments are kept;
* `fragmentsOf_run`: the fragments after a run in which nothing was handed over;
* `delivers_iff`: **the text arrives exactly when no fragment is part of an earlier one and there
  are no blanks at the cuts**.
-/

set_option autoImplicit false

namespace Brew

open Lib Lib.Run

/-- What an event of the inbox is about. -/
inductive Application
  | motorola_lrrp | motorola_tms_raw | motorola_ars_raw | motorola_ars | motorola_tms | other
  deriving DecidableEq

/-- An event of the inbox. The texts are the strings among the fields `parsedText`,
`parsedTextFragment` and `text`, in this order. -/
structure InboxEvent where
  name : String
  application : Application
  sourceRid : ℕ
  targetRid : ℕ
  texts : List (List Char)
  rawIpPacket : Bool
  localDeliveryCandidate : Bool
  deriving DecidableEq

/-- The fragments of one source and one target. -/
structure PendingText where
  sourceRid : ℕ
  targetRid : ℕ
  localCandidate : Bool
  firstSeen : Time
  updatedAt : Time
  fragments : List (List Char)
  eventNames : List String
  deriving DecidableEq

/-- The configuration of the collector. -/
structure CollectorConfig where
  localLoopEnabled : Bool
  brewEnabled : Bool
  brewServiceRids : List ℕ
  brandmeisterServiceRids : List ℕ

/-- The first text that is not blank. -/
def chooseText (event : InboxEvent) : List Char :=
  match event.texts.find? fun text => strip text ≠ [] with
  | some text => strip text
  | none => []

/-- The fragment is one of the earlier ones or a part of one. -/
def isPart (fragment : List Char) (fragments : List (List Char)) : Bool :=
  fragments.any fun existing => fragment = existing ∨ fragment <:+: existing

/-- Add a fragment, unless it is blank or a repetition. -/
def appendTextFragment (pending : PendingText) (fragment : List Char) (eventName : String)
    (now : Time) : PendingText :=
  let fragment := strip fragment
  if fragment = [] then pending
  else if isPart fragment pending.fragments then pending
  else
    { pending with
      fragments := pending.fragments ++ [fragment]
      eventNames := pending.eventNames ++ [eventName]
      updatedAt := now }

/-- Where a text goes. -/
inductive Transport
  | localP25 | tetrapackBrew | brewNotEnabled | brandmeisterService | brandmeister
  deriving DecidableEq

/-- The text of the fragments, with its transport. -/
def flushPendingText (cfg : CollectorConfig) (pending : PendingText) : Transport × List Char :=
  let text := strip pending.fragments.flatten
  if pending.localCandidate ∧ cfg.localLoopEnabled then (.localP25, text)
  else if pending.targetRid ∈ cfg.brewServiceRids then
    if cfg.brewEnabled then (.tetrapackBrew, text) else (.brewNotEnabled, text)
  else if pending.targetRid ∈ cfg.brandmeisterServiceRids then (.brandmeisterService, text)
  else (.brandmeister, text)

/-- The pending texts by source and target. -/
abbrev PendingTexts := Dict (ℕ × ℕ) PendingText

/-- An event of the inbox. Only the text messages are collected. -/
def processEvent (pendingTexts : PendingTexts) (event : InboxEvent) (now : Time) : PendingTexts :=
  let text := chooseText event
  if event.application ≠ .motorola_tms ∨ text = [] then pendingTexts
  else
    let key := (event.sourceRid, event.targetRid)
    let pending := (pendingTexts.get? key).getD
      ⟨event.sourceRid, event.targetRid, event.localDeliveryCandidate, now, now, [], []⟩
    pendingTexts.set key (appendTextFragment pending text event.name now)

/-- How handing over a text ends. -/
inductive SendResult
  | handled | authenticationRejected | failed

/-- The fragments are waited for no longer. -/
def isReady (pending : PendingText) (now : Time) (force : Bool) : Bool :=
  force ∨ ¬ (now - pending.updatedAt < seconds 5 ∧ now - pending.firstSeen < seconds 8)

/-- A text that is handed over. -/
structure Handover where
  key : ℕ × ℕ
  transport : Transport
  text : List Char
  deriving DecidableEq

/-- The pending text after a flush, if it is still pending. -/
def afterFlush (pending : PendingText) (now : Time) (force : Bool) (result : SendResult) :
    Option PendingText :=
  if pending.fragments = [] then none
  else if ¬ isReady pending now force then some pending
  else match result with
    | .failed => some { pending with firstSeen := now, updatedAt := now }
    | _ => none

/-- The texts that a flush hands over. -/
def handedOver (cfg : CollectorConfig) (now : Time) (force : Bool) (key : ℕ × ℕ)
    (pending : PendingText) : Option Handover :=
  if pending.fragments ≠ [] ∧ isReady pending now force then
    some ⟨key, (flushPendingText cfg pending).1, (flushPendingText cfg pending).2⟩
  else none

/-- Hand over the texts that are ready. -/
def flushReadyTexts (cfg : CollectorConfig) (pendingTexts : PendingTexts) (now : Time)
    (force : Bool) (send : ℕ × ℕ → SendResult) : PendingTexts × List Handover :=
  (pendingTexts.filterMap fun key pending => afterFlush pending now force (send key),
    pendingTexts.entries.filterMap fun e => handedOver cfg now force e.1 e.2)

/-- The steps of the collector. -/
inductive CollectEvent
  | event (e : InboxEvent) (now : Time)
  | flush (now : Time) (force : Bool) (send : ℕ × ℕ → SendResult)

/-- The collector as a machine that hands over texts. -/
def collectStep (cfg : CollectorConfig) (s : PendingTexts) :
    CollectEvent → PendingTexts × List Handover
  | .event e now => (processEvent s e now, [])
  | .flush now force send => flushReadyTexts cfg s now force send

/-! ## The fragments that are kept -/

/-- A fragment that arrives. -/
def keep (kept : List (List Char)) (fragment : List Char) : List (List Char) :=
  if strip fragment = [] then kept
  else if isPart (strip fragment) kept then kept
  else kept ++ [strip fragment]

/-- The fragments that are kept of those that arrive. -/
def collect (kept : List (List Char)) (fragments : List (List Char)) : List (List Char) :=
  fragments.foldl keep kept

/-- No fragment is part of an earlier one. -/
def NoPart (fs : List (List Char)) : Prop :=
  ∀ A f B, fs = A ++ f :: B → strip f ≠ [] → ∀ g ∈ A, ¬ strip f <:+: strip g

theorem isPart_iff {fragment : List Char} {fragments : List (List Char)} :
    isPart fragment fragments = true ↔ ∃ g ∈ fragments, fragment <:+: g := by
  simp only [isPart, List.any_eq_true, decide_eq_true_eq]
  constructor
  · rintro ⟨g, hg, rfl | h⟩
    · exact ⟨fragment, hg, List.infix_rfl⟩
    · exact ⟨g, hg, h⟩
  · rintro ⟨g, hg, h⟩
    exact ⟨g, hg, Or.inr h⟩

theorem strip_strip (text : List Char) : strip (strip text) = strip text := trim_trim text

/-- Every fragment so far is part of one that was kept, and only these were kept. -/
def Covers (kept seen : List (List Char)) : Prop :=
  (∀ g ∈ seen, strip g ≠ [] → ∃ h ∈ kept, strip g <:+: h) ∧ ∀ h ∈ kept, ∃ g ∈ seen, h = strip g

theorem covers_nil : Covers [] [] :=
  ⟨fun _ h => absurd h List.not_mem_nil, fun _ h => absurd h List.not_mem_nil⟩

section Covers

variable {kept seen : List (List Char)} {f : List Char}

/-- A fragment is part of a kept one if it is part of any earlier one. -/
theorem Covers.isPart_iff (h : Covers kept seen) (hf : strip f ≠ []) :
    isPart (strip f) kept = true ↔ ∃ g ∈ seen, strip f <:+: strip g := by
  rw [Brew.isPart_iff]
  constructor
  · rintro ⟨x, hx, hfx⟩
    obtain ⟨g, hg, rfl⟩ := h.2 x hx
    exact ⟨g, hg, hfx⟩
  · rintro ⟨g, hg, hfg⟩
    have hne : strip g ≠ [] := by
      intro hnil
      rw [hnil, List.infix_nil] at hfg
      exact hf hfg
    obtain ⟨x, hx, hgx⟩ := h.1 g hg hne
    exact ⟨x, hx, hfg.trans hgx⟩

theorem Covers.step (h : Covers kept seen) (f : List Char) : Covers (keep kept f) (seen ++ [f]) := by
  rw [keep]
  split_ifs with hnil hpart
  · refine ⟨fun g hg hne => ?_, fun x hx => ?_⟩
    · rcases List.mem_append.mp hg with hg | hg
      · exact h.1 g hg hne
      · rw [List.mem_singleton.mp hg] at hne
        exact absurd hnil hne
    · obtain ⟨g, hg, he⟩ := h.2 x hx
      exact ⟨g, List.mem_append_left _ hg, he⟩
  · refine ⟨fun g hg hne => ?_, fun x hx => ?_⟩
    · rcases List.mem_append.mp hg with hg | hg
      · exact h.1 g hg hne
      · rw [List.mem_singleton.mp hg]
        exact Brew.isPart_iff.mp hpart
    · obtain ⟨g, hg, he⟩ := h.2 x hx
      exact ⟨g, List.mem_append_left _ hg, he⟩
  · refine ⟨fun g hg hne => ?_, fun x hx => ?_⟩
    · rcases List.mem_append.mp hg with hg | hg
      · obtain ⟨x, hx, hgx⟩ := h.1 g hg hne
        exact ⟨x, List.mem_append_left _ hx, hgx⟩
      · rw [List.mem_singleton.mp hg]
        exact ⟨strip f, by simp, List.infix_rfl⟩
    · rcases List.mem_append.mp hx with hx | hx
      · obtain ⟨g, hg, he⟩ := h.2 x hx
        exact ⟨g, List.mem_append_left _ hg, he⟩
      · exact ⟨f, by simp, List.mem_singleton.mp hx⟩

theorem Covers.again (h : Covers kept seen) (hf : f ∈ seen) : keep kept f = kept := by
  rw [keep]
  split_ifs with hnil hpart
  · rfl
  · rfl
  · exact absurd ((h.isPart_iff hnil).mpr ⟨f, hf, List.infix_rfl⟩) hpart

end Covers

/-- No fragment is part of an earlier one, nor of those that came before. -/
def NoPartAfter (seen fs : List (List Char)) : Prop :=
  ∀ A f B, fs = A ++ f :: B → strip f ≠ [] → ∀ g ∈ seen ++ A, ¬ strip f <:+: strip g

theorem noPartAfter_cons_iff {seen fs : List (List Char)} {f : List Char} :
    NoPartAfter seen (f :: fs) ↔ (strip f ≠ [] → ∀ g ∈ seen, ¬ strip f <:+: strip g) ∧
      NoPartAfter (seen ++ [f]) fs := by
  constructor
  · intro h
    refine ⟨fun hf g hg => h [] f fs rfl hf g (by simpa using hg), fun A x B hs hx g hg => ?_⟩
    exact h (f :: A) x B (by rw [hs]; rfl) hx g (by simpa using hg)
  · rintro ⟨h, ht⟩ A x B hs hx g hg
    cases A with
    | nil =>
      rw [List.nil_append, List.cons.injEq] at hs
      obtain ⟨rfl, -⟩ := hs
      exact h hx g (by simpa using hg)
    | cons a A =>
      rw [List.cons_append, List.cons.injEq] at hs
      obtain ⟨rfl, hs⟩ := hs
      exact ht A x B hs hx g (by simpa using hg)

section Collect

variable {kept seen fs : List (List Char)}

theorem collect_of_noPart (h : Covers kept seen) (hn : NoPartAfter seen fs) :
    (collect kept fs).flatten = kept.flatten ++ (fs.map strip).flatten := by
  induction fs generalizing kept seen with
  | nil => simp [collect]
  | cons f fs ih =>
    rw [noPartAfter_cons_iff] at hn
    change (collect (keep kept f) fs).flatten = _
    rw [ih (h.step f) hn.2, List.map_cons, List.flatten_cons, ← List.append_assoc]
    congr 1
    rw [keep]
    split_ifs with hnil hpart
    · rw [hnil, List.append_nil]
    · obtain ⟨g, hg, hfg⟩ := (h.isPart_iff hnil).mp hpart
      exact absurd hfg (hn.1 hnil g hg)
    · rw [List.flatten_append, List.flatten_singleton]

theorem length_collect_le (kept fs : List (List Char)) :
    (collect kept fs).flatten.length ≤ kept.flatten.length + (fs.map strip).flatten.length := by
  induction fs generalizing kept with
  | nil => simp [collect]
  | cons f fs ih =>
    have hle := ih (keep kept f)
    change (collect (keep kept f) fs).flatten.length ≤ _
    rw [List.map_cons, List.flatten_cons, List.length_append]
    rw [keep] at hle ⊢
    split_ifs at hle ⊢
    · omega
    · omega
    · rw [List.flatten_append, List.flatten_singleton, List.length_append] at hle
      omega

/-- A fragment that is not kept is missing. -/
theorem noPart_of_length_le (h : Covers kept seen)
    (hl : kept.flatten.length + (fs.map strip).flatten.length ≤ (collect kept fs).flatten.length) :
    NoPartAfter seen fs := by
  induction fs generalizing kept seen with
  | nil => exact fun A f B hs => absurd hs (by simp)
  | cons f fs ih =>
    have hle := length_collect_le (keep kept f) fs
    have hl : kept.flatten.length + (strip f ++ (fs.map strip).flatten).length ≤
      (collect (keep kept f) fs).flatten.length := hl
    rw [List.length_append] at hl
    rw [noPartAfter_cons_iff]
    have hkeep : (keep kept f).flatten.length ≤ kept.flatten.length + (strip f).length := by
      rw [keep]
      split_ifs
      · omega
      · omega
      · rw [List.flatten_append, List.flatten_singleton, List.length_append]
    refine ⟨fun hf g hg hfg => ?_, ih (h.step f) (by omega)⟩
    have hpart := (h.isPart_iff hf).mpr ⟨g, hg, hfg⟩
    rw [keep, if_neg hf, if_pos hpart] at hle hl
    have hpos := List.length_pos_iff.mpr hf
    omega

end Collect

/-- **The fragments that are kept** make up the text exactly when none is part of an earlier one and
there are no blanks at the cuts. -/
theorem collect_eq_iff (fs : List (List Char)) :
    (collect [] fs).flatten = strip fs.flatten ↔ NoPart fs ∧ Tight isSpace fs := by
  have hnoPart : NoPart fs ↔ NoPartAfter [] fs := Iff.rfl
  constructor
  · intro h
    have hl := congrArg List.length h
    have hcollect := length_collect_le [] fs
    have htrim := length_flatten_map_trim_le (p := isSpace) fs
    have hmap : fs.map strip = fs.map (trim isSpace) := rfl
    have hstrip : strip fs.flatten = trim isSpace fs.flatten := rfl
    rw [hmap] at hcollect
    rw [hstrip] at hl
    simp only [List.flatten_nil, List.length_nil, Nat.zero_add] at hcollect
    refine ⟨hnoPart.mpr (noPart_of_length_le covers_nil ?_), tight_of_length_le (by omega)⟩
    rw [hmap, List.flatten_nil, List.length_nil]
    omega
  · rintro ⟨hn, ht⟩
    rw [collect_of_noPart covers_nil (hnoPart.mp hn), List.flatten_nil, List.nil_append]
    exact flatten_map_trim ht

theorem strip_flatten_collect (fs : List (List Char)) :
    strip (collect [] fs).flatten = (collect [] fs).flatten := by
  have hkept : ∀ fs (kept : List (List Char)), (∀ h ∈ kept, strip h = h ∧ h ≠ []) →
      ∀ h ∈ collect kept fs, strip h = h ∧ h ≠ [] := by
    intro fs
    induction fs with
    | nil => exact fun _ h => h
    | cons f fs ih =>
      intro kept h
      refine ih (keep kept f) ?_
      rw [keep]
      split_ifs with hnil
      · exact h
      · exact h
      · exact List.forall_mem_append.mpr
          ⟨h, List.forall_mem_singleton.mpr ⟨strip_strip f, hnil⟩⟩
  exact trim_flatten_of_trimmed (hkept fs [] fun _ h => absurd h List.not_mem_nil)

/-- Fragments that arrive in order, each of them perhaps several times. -/
inductive Arrive : List (List Char) → List (List Char) → List (List Char) → Prop
  | done (seen : List (List Char)) : Arrive seen [] []
  | next {seen fs arrivals : List (List Char)} {f : List Char} :
      Arrive (seen ++ [f]) fs arrivals → Arrive seen (f :: fs) (f :: arrivals)
  | again {seen fs arrivals : List (List Char)} {f : List Char} :
      f ∈ seen → Arrive seen fs arrivals → Arrive seen fs (f :: arrivals)

theorem collect_arrive {seen fs arrivals kept : List (List Char)} (h : Arrive seen fs arrivals)
    (hk : Covers kept seen) : collect kept arrivals = collect kept fs := by
  induction h generalizing kept with
  | done => rfl
  | @next seen fs arrivals f _ ih =>
    change collect (keep kept f) arrivals = collect (keep kept f) fs
    exact ih (hk.step f)
  | @again seen fs arrivals f hf _ ih =>
    change collect (keep kept f) arrivals = collect kept fs
    rw [hk.again hf]
    exact ih hk

/-! ## Runs of the collector -/

/-- The fragments that are pending. -/
def fragmentsOf (s : PendingTexts) (key : ℕ × ℕ) : List (List Char) :=
  ((s.get? key).map PendingText.fragments).getD []

/-- The text messages from one source to one target. -/
def eventsFor (key : ℕ × ℕ) (es : List CollectEvent) : List InboxEvent :=
  es.filterMap fun
    | .event e _ =>
      if e.application = .motorola_tms ∧ (e.sourceRid, e.targetRid) = key then some e else none
    | .flush _ _ _ => none

section Runs

variable (cfg : CollectorConfig) {s : PendingTexts} {key : ℕ × ℕ}

theorem fragmentsOf_set (pending : PendingText) (key' : ℕ × ℕ) :
    fragmentsOf (s.set key' pending) key =
      if key = key' then pending.fragments else fragmentsOf s key := by
  rw [fragmentsOf, Dict.get?_set]
  split_ifs <;> rfl

theorem fragments_append (pending : PendingText) (text : List Char) (name : String) (now : Time) :
    (appendTextFragment pending text name now).fragments = keep pending.fragments text := by
  rw [appendTextFragment, keep]
  split_ifs <;> rfl

theorem fragmentsOf_processEvent (e : InboxEvent) (now : Time) :
    fragmentsOf (processEvent s e now) key =
      collect (fragmentsOf s key) ((eventsFor key [.event e now]).map chooseText) := by
  have hnone : ∀ {l : List InboxEvent}, l = [] →
      collect (fragmentsOf s key) (l.map chooseText) = fragmentsOf s key := by
    rintro l rfl
    rfl
  rw [processEvent]
  dsimp only
  split_ifs with hskip
  · by_cases hown : e.application = .motorola_tms ∧ (e.sourceRid, e.targetRid) = key
    · have htext := hskip.resolve_left (not_not_intro hown.1)
      have hevents : eventsFor key [.event e now] = [e] := by simp [eventsFor, hown]
      have hkeep : keep (fragmentsOf s key) [] = fragmentsOf s key := rfl
      rw [hevents, List.map_singleton, htext]
      exact hkeep.symm
    · exact (hnone (by simp [eventsFor, hown])).symm
  · rw [not_or, not_not] at hskip
    rw [fragmentsOf_set]
    by_cases hkey : key = (e.sourceRid, e.targetRid)
    · have hevents : eventsFor key [.event e now] = [e] := by simp [eventsFor, hskip.1, hkey]
      rw [if_pos hkey, hevents, fragments_append, List.map_singleton]
      have hold : ((s.get? (e.sourceRid, e.targetRid)).getD ⟨e.sourceRid, e.targetRid,
          e.localDeliveryCandidate, now, now, [], []⟩).fragments = fragmentsOf s key := by
        rw [fragmentsOf, hkey]
        cases s.get? (e.sourceRid, e.targetRid) <;> rfl
      rw [hold]
      rfl
    · rw [if_neg hkey]
      exact (hnone (by simp [eventsFor, Ne.symm hkey])).symm

theorem fragmentsOf_flush {now : Time} {force : Bool} {send : ℕ × ℕ → SendResult}
    (h : ∀ o ∈ (flushReadyTexts cfg s now force send).2, o.key ≠ key) :
    fragmentsOf (flushReadyTexts cfg s now force send).1 key = fragmentsOf s key := by
  rw [flushReadyTexts] at h ⊢
  rw [fragmentsOf, fragmentsOf, Dict.get?_filterMap]
  cases hg : s.get? key with
  | none => rfl
  | some pending =>
    rw [Option.bind_some]
    unfold afterFlush
    by_cases hempty : pending.fragments = []
    · rw [if_pos hempty, Option.map_some, hempty]
      rfl
    · cases hready : isReady pending now force with
      | false => rw [if_neg hempty, if_pos Bool.false_ne_true]
      | true =>
        -- the text would have been handed over
        have hmem : ⟨key, (flushPendingText cfg pending).1, (flushPendingText cfg pending).2⟩ ∈
            s.entries.filterMap fun e => handedOver cfg now force e.1 e.2 := by
          refine List.mem_filterMap.mpr
            ⟨(key, pending), (Dict.mem_entries_iff s key pending).mpr hg, ?_⟩
          rw [handedOver, if_pos ⟨hempty, hready⟩]
        exact absurd rfl (h _ hmem)

/-- **The fragments after a run** in which the text was not handed over. -/
theorem fragmentsOf_run (es : List CollectEvent)
    (h : ∀ o ∈ outputs (collectStep cfg) s es, o.key ≠ key) :
    fragmentsOf (final (collectStep cfg) s es) key =
      collect (fragmentsOf s key) ((eventsFor key es).map chooseText) := by
  induction es generalizing s with
  | nil => rfl
  | cons e es ih =>
    rw [outputs_cons, List.forall_mem_append] at h
    have hcons : eventsFor key (e :: es) = eventsFor key [e] ++ eventsFor key es := by
      rw [eventsFor, eventsFor, eventsFor, ← List.filterMap_append]
      rfl
    rw [final_cons, ih h.2, hcons, List.map_append, collect, collect, List.foldl_append]
    congr 1
    cases e with
    | event e now => exact fragmentsOf_processEvent e now
    | flush now force send => exact fragmentsOf_flush cfg h.1

/-- The text that is handed over when the pending fragments are flushed. -/
def Delivers (s : PendingTexts) (key : ℕ × ℕ) (text : List Char) : Prop :=
  ∃ pending, s.get? key = some pending ∧ (flushPendingText cfg pending).2 = text

theorem delivers_iff_fragmentsOf {text : List Char} (hne : text ≠ []) :
    Delivers cfg s key text ↔ strip (fragmentsOf s key).flatten = text := by
  have htext : ∀ pending : PendingText,
      (flushPendingText cfg pending).2 = strip pending.fragments.flatten := by
    intro pending
    rw [flushPendingText]
    split_ifs <;> rfl
  rw [Delivers, fragmentsOf]
  cases s.get? key with
  | none =>
    refine iff_of_false (fun ⟨_, h, _⟩ => by cases h) fun h => hne ?_
    rw [← h]
    rfl
  | some pending =>
    simp only [Option.some.injEq, exists_eq_left', Option.map_some, Option.getD_some, htext]

/-- The first text of the event that is not blank is the fragment. An event of a blank fragment has
blank texts only. -/
def Carries (e : InboxEvent) (f : List Char) : Prop :=
  ∃ blank rest, e.texts = blank ++ f :: rest ∧ (∀ t ∈ blank, strip t = []) ∧
    (strip f = [] → ∀ t ∈ rest, strip t = [])

theorem find?_blank {texts : List (List Char)} (h : ∀ t ∈ texts, strip t = []) :
    texts.find? (fun text => decide (strip text ≠ [])) = none :=
  List.find?_eq_none.mpr fun t ht => by simp [h t ht]

theorem chooseText_of_carries {e : InboxEvent} {f : List Char} (h : Carries e f) :
    chooseText e = strip f := by
  obtain ⟨blank, rest, htexts, hblank, hrest⟩ := h
  rw [chooseText, htexts, List.find?_append, find?_blank hblank, Option.none_or, List.find?_cons]
  by_cases hf : strip f = []
  · rw [find?_blank (hrest hf)]
    simp [hf]
  · simp [hf]

/-- **Text messages survive** exactly when no fragment is part of an earlier one and there are no
blanks at the cuts. -/
theorem delivers_iff (key : ℕ × ℕ) (fs arrivals : List (List Char)) (es : List CollectEvent)
    (htext : strip fs.flatten ≠ []) (harrive : Arrive [] fs arrivals)
    (hevents : List.Forall₂ Carries (eventsFor key es) arrivals)
    (hwindow : ∀ o ∈ outputs (collectStep cfg) Dict.empty es, o.key ≠ key) :
    Delivers cfg (final (collectStep cfg) Dict.empty es) key (strip fs.flatten) ↔
      NoPart fs ∧ Tight isSpace fs := by
  have hchosen : (eventsFor key es).map chooseText = arrivals.map strip := by
    generalize eventsFor key es = events at hevents
    clear harrive
    induction hevents with
    | nil => rfl
    | cons hc _ ih => rw [List.map_cons, List.map_cons, chooseText_of_carries hc, ih]
  have hstrip : ∀ (l kept : List (List Char)), collect kept (l.map strip) = collect kept l := by
    intro l
    induction l with
    | nil => exact fun _ => rfl
    | cons f l ih =>
      intro kept
      change collect (keep kept (strip f)) (l.map strip) = collect (keep kept f) l
      rw [ih, keep, strip_strip, keep]
  have hempty : fragmentsOf Dict.empty key = [] := rfl
  rw [delivers_iff_fragmentsOf cfg htext, fragmentsOf_run cfg es hwindow, hchosen, hstrip, hempty,
    collect_arrive harrive covers_nil, strip_flatten_collect]
  exact collect_eq_iff fs

end Runs

section Samples

/-- The bridge without services. -/
def plainCollector : CollectorConfig := ⟨false, false, [], []⟩

/-- A text message from one radio to another. -/
def fragmentEvent (name text : String) : InboxEvent where
  name := name
  application := .motorola_tms
  sourceRid := 1000001
  targetRid := 1000002
  texts := [text.toList]
  rawIpPacket := false
  localDeliveryCandidate := false

theorem carries_fragmentEvent (name text : String) :
    Carries (fragmentEvent name text) text.toList :=
  ⟨[], [], rfl, fun _ h => absurd h List.not_mem_nil, fun _ _ h => absurd h List.not_mem_nil⟩

/-- Two fragments, a second apart. -/
def twoFragments (first second : String) : List CollectEvent :=
  [.event (fragmentEvent "a" first) 0, .flush (milliseconds 500) false fun _ => .handled,
    .event (fragmentEvent "b" second) (seconds 1)]

theorem delivers_sample : Delivers plainCollector
    (final (collectStep plainCollector) Dict.empty (twoFragments "An" "kunft")) (1000001, 1000002)
      (strip ["An".toList, "kunft".toList].flatten) ↔
    NoPart ["An".toList, "kunft".toList] ∧ Tight isSpace ["An".toList, "kunft".toList] :=
  delivers_iff plainCollector (1000001, 1000002) ["An".toList, "kunft".toList]
    ["An".toList, "kunft".toList] (twoFragments "An" "kunft") (by decide +kernel)
    (.next (.next (.done _)))
    (.cons (carries_fragmentEvent "a" "An") (.cons (carries_fragmentEvent "b" "kunft") .nil))
    (by decide +kernel)

/-- `Ja ja` arrives as `Ja` and `ja`, without the blank between them. -/
theorem not_delivers_blank : ¬ Delivers plainCollector
    (final (collectStep plainCollector) Dict.empty (twoFragments "Ja " "ja")) (1000001, 1000002)
      (strip ["Ja ".toList, "ja".toList].flatten) := by
  rw [delivers_iff_fragmentsOf plainCollector (by decide +kernel)]
  decide +kernel

end Samples

end Brew
