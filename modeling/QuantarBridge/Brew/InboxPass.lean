import Mathlib.Data.List.Sort
import QuantarBridge.Brew.Collection
import QuantarBridge.Brew.EventFile
import QuantarBridge.Lib.IntText

/-!
# A pass over the inbox

The message bridge takes the files of the inbox in the order of their names. A text is collected, and
the file goes to the directory for processed files, or to the one for errors where something raises.

* `processEvent`, `passOrder`, `runOnce`: the code, on the documents of the files;
* `Describes`, `ReadsAs`: what a file is for the collector;
* `Shows`: the pending texts of the code and those of the collector;
* `processEvent_shows`, `final_shows`: **a pass is a run of the collector** over the events of its files;
* `processEvent_moves`, `eq_of_rejected`: events that are never rejected;
* `passOrder_strict`, `eq_passOrder`: the order of a pass.
-/

set_option autoImplicit false

namespace Brew.EventFile

open Lib
open Dashboard (Str codes)

/-! ## An event -/

/-- What Python does with the numbers of a document. -/
structure Numbers (F : Type) extends Floats F where
  toInt : F → Option ℤ

/-- A text that is collected, as the strings of the documents. -/
structure PendingText where
  sourceRid : ℤ
  targetRid : ℤ
  localCandidate : Bool
  firstSeen : Time
  updatedAt : Time
  fragments : List Str
  eventNames : List Str

/-- The fragments by their two radios. -/
abbrev PendingTexts := Dict (ℤ × ℤ) PendingText

/-- Add a fragment, unless it is blank or a repetition. -/
def appendTextFragment (pending : PendingText) (fragment eventName : Str) (now : Time) :
    PendingText :=
  let fragment := Str.strip fragment
  if fragment = [] then pending
  else if pending.fragments.any fun existing => fragment = existing ∨ fragment <:+: existing then
    pending
  else
    { pending with
      fragments := pending.fragments ++ [fragment]
      eventNames := pending.eventNames ++ [eventName]
      updatedAt := now }

/-- A file of the inbox. -/
structure InboxFile where
  name : Str
  content : Bytes
  deriving DecidableEq

/-- `Path.stem` of a name with the suffix `.json`. -/
def InboxFile.stem (f : InboxFile) : Str :=
  if 5 < f.name.length then f.name.take (f.name.length - 5) else f.name

/-- What the file system does with the files of an event. -/
structure FileOutcome where
  outboxWritten : Bool
  resultWritten : Bool
  moved : Bool

/-- What an event was taken for. -/
inductive Fate
  | locationQueued (sourceRid targetRid : ℤ)
  | rawDropped (sourceRid targetRid : ℤ)
  | arsDropped (sourceRid targetRid : ℤ)
  | ignored
  | collected (sourceRid targetRid : ℤ) (text : Str)
  deriving DecidableEq

/-- What a pass over the inbox does. -/
inductive PassEffect
  | queued (sourceRid targetRid : ℤ) (rawIpPacketHex : Str)
  | processed (name : Str) (fate : Fate)
  | rejected (name : Str)
  deriving DecidableEq

section Event

variable {F : Type} (numbers : Numbers F)

/-- `int(value)`; `none` when it raises. -/
def toInt : JsonValue F → Option ℤ
  | .bool b => some (if b then 1 else 0)
  | .int n => some n
  | .float x => numbers.toInt x
  | .str s => intOfText (strip (s.map Char.ofNat))
  | _ => none

/-- The name of an application in a document. -/
def applicationName : Application → String
  | .motorola_lrrp => "motorola_lrrp"
  | .motorola_tms_raw => "motorola_tms_raw"
  | .motorola_ars_raw => "motorola_ars_raw"
  | .motorola_ars => "motorola_ars"
  | .motorola_tms => "motorola_tms"
  | .other => ""

/-- `event.get("application") == …` -/
def isApplication (event : Event F) (application : Application) : Bool :=
  match event.get? "application" with
  | some (.str s) => s = codes (applicationName application).toList
  | _ => false

/-- The captured packet, if it is a text with something in it. -/
def rawIpPacketHex (event : Event F) : Option Str :=
  let raw := event.get? "rawIpPacketHex"
  match if raw.any (truth numbers.toFloats) then raw else event.get? "hexIpPacket" with
  | some (.str s) => if s ≠ [] then some s else none
  | _ => none

/-- `int(event["sourceRid"])` and `int(event["targetRid"])` -/
def eventRids (event : Event F) : Option (ℤ × ℤ) := do
  let sourceRid ← (event.get? "sourceRid").bind (toInt numbers)
  let targetRid ← (event.get? "targetRid").bind (toInt numbers)
  return (sourceRid, targetRid)

/-- The time of the message that goes to the outbox can be read. -/
def hasTimestamp (event : Event F) : Bool :=
  (event.get? "timestampMs").all fun value => (toInt numbers value).isSome

/-- The event may be for this site. -/
def localCandidate (event : Event F) : Bool :=
  (event.get? "localDeliveryCandidate").any (truth numbers.toFloats)

/-- The result of an event is written, unless it is ignored, and the file is moved. -/
def moveFile (o : FileOutcome) (name : Str) (fate : Fate) : List PassEffect :=
  if (fate = .ignored ∨ o.resultWritten = true) ∧ o.moved = true then [.processed name fate]
  else [.rejected name]

/-- An event of the inbox. -/
def processEvent (directory : Str) (pendingTexts : PendingTexts) (f : InboxFile) (now : Time)
    (o : FileOutcome) : PendingTexts × List PassEffect :=
  match normalizeEvent numbers.toFloats (directory ++ codes ['/'] ++ f.name) f.stem f.content with
  | none => (pendingTexts, [.rejected f.name])
  | some event =>
    if isApplication event .motorola_lrrp ∧ (rawIpPacketHex numbers event).isSome then
      match eventRids numbers event with
      | some (sourceRid, targetRid) =>
        if hasTimestamp numbers event ∧ o.outboxWritten then
          (pendingTexts, .queued sourceRid targetRid ((rawIpPacketHex numbers event).getD []) ::
            moveFile o f.name (.locationQueued sourceRid targetRid))
        else (pendingTexts, [.rejected f.name])
      | none => (pendingTexts, [.rejected f.name])
    else if (isApplication event .motorola_tms_raw ∨ isApplication event .motorola_ars_raw) ∧
        (rawIpPacketHex numbers event).isSome then
      match eventRids numbers event with
      | some (sourceRid, targetRid) =>
        (pendingTexts, moveFile o f.name (.rawDropped sourceRid targetRid))
      | none => (pendingTexts, [.rejected f.name])
    else if isApplication event .motorola_ars then
      match eventRids numbers event with
      | some (sourceRid, targetRid) =>
        (pendingTexts, moveFile o f.name (.arsDropped sourceRid targetRid))
      | none => (pendingTexts, [.rejected f.name])
    else if ¬ isApplication event .motorola_tms ∨ chooseText event = [] then
      (pendingTexts, moveFile o f.name .ignored)
    else
      match eventRids numbers event with
      | some (sourceRid, targetRid) =>
        let pending := (pendingTexts.get? (sourceRid, targetRid)).getD
          ⟨sourceRid, targetRid, localCandidate numbers event, now, now, [], []⟩
        (pendingTexts.set (sourceRid, targetRid)
          (appendTextFragment pending (chooseText event) f.stem now),
          moveFile o f.name (.collected sourceRid targetRid (chooseText event)))
      | none => (pendingTexts, [.rejected f.name])

/-! ## A pass -/

/-- The files of a directory, by their names. -/
abbrev Inbox := Dict Str Bytes

/-- The name ends in `.json`. -/
def hasJsonSuffix (name : Str) : Bool := (codes ".json".toList).isSuffixOf name

/-- `sorted(inbox_dir.glob("*.json"))` -/
def passOrder (inbox : Inbox) : List InboxFile :=
  ((inbox.entries.filter fun e => hasJsonSuffix e.1).map fun e => ⟨e.1, e.2⟩).insertionSort
    fun a b => a.name ≤ b.name

/-- The times at which the files are taken, and what becomes of them. -/
structure Surroundings where
  now : Str → Time
  outcome : Str → FileOutcome

/-- One file of a pass. -/
def passStep (directory : Str) (u : Surroundings) (pendingTexts : PendingTexts) (f : InboxFile) :
    PendingTexts × List PassEffect :=
  processEvent numbers directory pendingTexts f (u.now f.name) (u.outcome f.name)

/-- The files of `run_once`. -/
def runOnce (directory : Str) (u : Surroundings) (inbox : Inbox) (pendingTexts : PendingTexts) :
    PendingTexts × List PassEffect :=
  (Run.final (passStep numbers directory u) pendingTexts (passOrder inbox),
    Run.outputs (passStep numbers directory u) pendingTexts (passOrder inbox))

/-! ## What a file is for the collector -/

/-- The strings of the document that are texts. -/
def textsOf (event : Event F) : List Str :=
  ["parsedText", "parsedTextFragment", "text"].filterMap fun key =>
    match event.get? key with
    | some (.str value) => some value
    | _ => none

/-- The document is about this event. -/
structure Describes (event : Event F) (e : InboxEvent) : Prop where
  application : ∀ a, a ≠ .other → (isApplication event a = true ↔ e.application = a)
  texts : e.application = .motorola_tms → textsOf event = e.texts.map codes
  rids : e.application = .motorola_tms →
    eventRids numbers event = some ((e.sourceRid : ℤ), (e.targetRid : ℤ))
  candidate : e.application = .motorola_tms →
    localCandidate numbers event = e.localDeliveryCandidate

/-- What the collector gets of a file: an event, or nothing where the file cannot be read. -/
def ReadsAs (directory : Str) (f : InboxFile) : Option InboxEvent → Prop
  | none => normalizeEvent numbers.toFloats (directory ++ codes ['/'] ++ f.name) f.stem f.content = none
  | some e => codes e.name.toList = f.stem ∧ ∃ event,
    normalizeEvent numbers.toFloats (directory ++ codes ['/'] ++ f.name) f.stem f.content =
      some event ∧ Describes numbers event e

end Event

/-- The strings of a text that is collected. -/
def PendingText.ofCollected (p : Brew.PendingText) : PendingText :=
  ⟨p.sourceRid, p.targetRid, p.localCandidate, p.firstSeen, p.updatedAt, p.fragments.map codes,
    p.eventNames.map fun name => codes name.toList⟩

/-- The pending texts are those of the collector. -/
def Shows (collected : Brew.PendingTexts) (pendingTexts : PendingTexts) : Prop :=
  pendingTexts.entries = collected.entries.map fun e =>
    ((((e.1.1 : ℕ) : ℤ), ((e.1.2 : ℕ) : ℤ)), PendingText.ofCollected e.2)

/-- The events of the files at their times. -/
def collectAll (collected : Brew.PendingTexts) (events : List (InboxEvent × Time)) :
    Brew.PendingTexts :=
  events.foldl (fun s e => Brew.processEvent s e.1 e.2) collected

/-! ## Texts as strings -/

theorem codes_inj {a b : List Char} : codes a = codes b ↔ a = b :=
  (List.map_injective_iff.mpr fun _ _ h => Char.toNat_inj.mp h).eq_iff

theorem isSpace_eq (c : Char) : Sync.isSpace c = isSpace c := by
  have heq (d : Char) : c = d ↔ c.toNat = d.toNat := Char.toNat_inj.symm
  have hle (a b : Char) : a ≤ b ↔ a.toNat ≤ b.toNat := Iff.rfl
  unfold Sync.isSpace isSpace
  dsimp only
  rw [decide_eq_decide]
  simp only [List.mem_cons, List.not_mem_nil, or_false, heq, hle, Char.reduceToNat]
  omega

theorem strip_codes (text : List Char) : Str.strip (codes text) = codes (strip text) := by
  have hspace : (isBlankCode ∘ Char.toNat) = isSpace := by
    funext c
    rw [Function.comp_apply, isBlankCode, Char.ofNat_toNat, isSpace_eq]
  rw [strip_eq_trim, trim, List.rdropWhile, strip, rstrip, codes, List.dropWhile_map, ← List.map_reverse,
    List.dropWhile_map, ← List.map_reverse, hspace]
  rfl

theorem ofNat_codes (text : List Char) : (codes text).map Char.ofNat = text := by
  rw [codes, List.map_map]
  conv_rhs => rw [← List.map_id text]
  exact List.map_congr_left fun c _ => Char.ofNat_toNat c

theorem infix_codes_iff {a b : List Char} : codes a <:+: codes b ↔ a <:+: b := by
  refine ⟨fun h => ?_, fun h => h.map Char.toNat⟩
  have hmap := h.map Char.ofNat
  rwa [ofNat_codes, ofNat_codes] at hmap

theorem chooseText_eq {F : Type} {event : Event F} {e : InboxEvent}
    (h : textsOf event = e.texts.map codes) : chooseText event = codes (Brew.chooseText e) := by
  have hfirst : chooseText event = ((textsOf event).findSome? fun value =>
      if Str.strip value ≠ [] then some (Str.strip value) else none).getD [] := by
    rw [chooseText, textsOf]
    refine congrArg (fun o => Option.getD o []) ?_
    generalize ["parsedText", "parsedTextFragment", "text"] = keys
    induction keys with
    | nil => rfl
    | cons key keys ih =>
      rw [List.findSome?_cons, List.filterMap_cons]
      rcases event.get? key with _ | (_ | _ | _ | _ | _ | _ | _) <;> first | exact ih | skip
      rw [List.findSome?_cons, ← ih]
  rw [hfirst, h, Brew.chooseText]
  induction e.texts with
  | nil => rfl
  | cons text texts ih =>
    have hempty : codes (strip text) = [] ↔ strip text = [] := List.map_eq_nil_iff
    rw [List.map_cons, List.findSome?_cons, strip_codes, List.find?_cons]
    by_cases hblank : strip text = []
    · rw [if_neg (not_not.mpr (hempty.mpr hblank))]
      simpa [hblank] using ih
    · rw [if_pos (mt hempty.mp hblank)]
      simp [hblank]

theorem appendTextFragment_ofCollected (p : Brew.PendingText) (fragment : List Char) (name : String)
    (now : Time) :
    appendTextFragment (.ofCollected p) (codes fragment) (codes name.toList) now =
      .ofCollected (Brew.appendTextFragment p fragment name now) := by
  have hany : (p.fragments.map codes).any (fun existing => decide (codes (strip fragment) = existing ∨
      codes (strip fragment) <:+: existing)) = isPart (strip fragment) p.fragments := by
    rw [List.any_map, isPart]
    refine congrArg (fun f => p.fragments.any f) (funext fun existing => ?_)
    rw [Function.comp_apply, decide_eq_decide, codes_inj, infix_codes_iff]
  have hempty : codes (strip fragment) = [] ↔ strip fragment = [] := List.map_eq_nil_iff
  unfold appendTextFragment Brew.appendTextFragment PendingText.ofCollected
  dsimp only
  rw [strip_codes, hany]
  by_cases hblank : strip fragment = []
  · rw [if_pos hblank, if_pos (hempty.mpr hblank)]
  · rw [if_neg hblank, if_neg (mt hempty.mp hblank)]
    by_cases hpart : isPart (strip fragment) p.fragments = true
    · rw [if_pos hpart, if_pos hpart]
    · rw [if_neg hpart, if_neg hpart]
      simp

/-! ## The pending texts -/

section Rename

variable {κ κ' ν ν' : Type} [DecidableEq κ] [DecidableEq κ'] {f : κ → κ'} {g : ν → ν'}
  {d : Dict κ ν} {d' : Dict κ' ν'}

theorem get?_renamed (hf : Function.Injective f) (h : d'.entries = d.entries.map fun e => (f e.1, g e.2))
    (k : κ) : d'.get? (f k) = (d.get? k).map g := by
  unfold Dict.get?
  rw [h, List.find?_map, Option.map_map, Option.map_map]
  have hkey : ((fun e : κ' × ν' => decide (e.1 = f k)) ∘ fun e : κ × ν => (f e.1, g e.2)) =
      fun e => decide (e.1 = k) := by
    funext e
    rw [Function.comp_apply, decide_eq_decide, hf.eq_iff]
  rw [hkey]
  rfl

theorem set_renamed (hf : Function.Injective f) (h : d'.entries = d.entries.map fun e => (f e.1, g e.2))
    (k : κ) (v : ν) :
    (d'.set (f k) (g v)).entries = (d.set k v).entries.map fun e => (f e.1, g e.2) := by
  unfold Dict.set
  dsimp only
  rw [h]
  generalize d.entries = entries
  induction entries with
  | nil => rfl
  | cons e entries ih =>
    rw [List.map_cons, Dict.setEntry, Dict.setEntry]
    by_cases he : e.1 = k
    · rw [if_pos (congrArg f he), if_pos he]
      rfl
    · rw [if_neg (hf.ne he), if_neg he, ih]
      rfl

end Rename

theorem ridPair_injective :
    Function.Injective fun k : ℕ × ℕ => (((k.1 : ℕ) : ℤ), ((k.2 : ℕ) : ℤ)) := by
  rintro ⟨a, b⟩ ⟨c, d⟩ h
  simpa using h

section Pass

variable {F : Type} {numbers : Numbers F} {directory : Str} {collected : Brew.PendingTexts}
  {pendingTexts : PendingTexts} {f : InboxFile} {now : Time} {o : FileOutcome}

theorem processEvent_unread (h : normalizeEvent numbers.toFloats
    (directory ++ codes ['/'] ++ f.name) f.stem f.content = none) :
    processEvent numbers directory pendingTexts f now o = (pendingTexts, [.rejected f.name]) := by
  unfold processEvent
  rw [h]

/-- **A file is what its event is to the collector.** -/
theorem processEvent_shows (hshows : Shows collected pendingTexts) {e : InboxEvent}
    (h : ReadsAs numbers directory f (some e)) :
    Shows (Brew.processEvent collected e now)
      (processEvent numbers directory pendingTexts f now o).1 := by
  obtain ⟨hname, event, hread, hdescribes⟩ := h
  unfold processEvent
  rw [hread]
  dsimp only
  by_cases htms : e.application = .motorola_tms
  · -- a text message
    have hother (a : Application) (ha : a ≠ .other) (hne : a ≠ .motorola_tms) :
        isApplication event a = false := by
      rw [← Bool.not_eq_true, hdescribes.application a ha, htms]
      exact fun he => hne he.symm
    have hself : isApplication event .motorola_tms = true :=
      (hdescribes.application _ (by decide)).mpr htms
    rw [hother .motorola_lrrp (by decide) (by decide),
      hother .motorola_tms_raw (by decide) (by decide),
      hother .motorola_ars_raw (by decide) (by decide),
      hother .motorola_ars (by decide) (by decide), hself,
      chooseText_eq (hdescribes.texts htms), hdescribes.rids htms]
    rw [if_neg (fun h => Bool.false_ne_true h.1), if_neg (by simp), if_neg Bool.false_ne_true]
    unfold Brew.processEvent
    dsimp only
    have hempty : codes (Brew.chooseText e) = [] ↔ Brew.chooseText e = [] := List.map_eq_nil_iff
    by_cases hblank : Brew.chooseText e = []
    · rw [if_pos (Or.inr (hempty.mpr hblank)), if_pos (Or.inr hblank)]
      exact hshows
    · rw [if_neg (not_or.mpr ⟨not_not.mpr htms, hblank⟩),
        if_neg (not_or.mpr ⟨not_not.mpr rfl, mt hempty.mp hblank⟩), ← hname, hdescribes.candidate htms]
      have hget := get?_renamed ridPair_injective hshows (e.sourceRid, e.targetRid)
      dsimp only at hget
      rw [hget]
      have hpending : ((collected.get? (e.sourceRid, e.targetRid)).map PendingText.ofCollected).getD
          ⟨e.sourceRid, e.targetRid, e.localDeliveryCandidate, now, now, [], []⟩ =
          .ofCollected ((collected.get? (e.sourceRid, e.targetRid)).getD
            ⟨e.sourceRid, e.targetRid, e.localDeliveryCandidate, now, now, [], []⟩) := by
        cases collected.get? (e.sourceRid, e.targetRid) <;> rfl
      rw [hpending, appendTextFragment_ofCollected]
      exact set_renamed ridPair_injective hshows (e.sourceRid, e.targetRid) _
  · -- anything else
    have hself : ¬ isApplication event .motorola_tms = true := fun he =>
      htms ((hdescribes.application _ (by decide)).mp he)
    have hcollected : Brew.processEvent collected e now = collected := if_pos (Or.inl htms)
    rw [hcollected]
    rw [if_pos (Or.inl hself : ¬ isApplication event .motorola_tms = true ∨ chooseText event = [])]
    split_ifs <;> first | exact hshows | (cases eventRids numbers event <;> exact hshows)

/-- **A pass is a run of the collector** over the events of the files that can be read, in the order of
their names. -/
theorem final_shows (u : Surroundings) {files : List InboxFile} {roles : List (Option InboxEvent)}
    (h : List.Forall₂ (ReadsAs numbers directory) files roles)
    (hshows : Shows collected pendingTexts) :
    Shows (collectAll collected ((files.zip roles).filterMap fun x =>
        x.2.map fun e => (e, u.now x.1.name)))
      (Run.final (passStep numbers directory u) pendingTexts files) := by
  induction h generalizing collected pendingTexts with
  | nil => exact hshows
  | @cons f role files roles hread hreads ih =>
    rw [Run.final_cons, List.zip_cons_cons]
    cases role with
    | none =>
      rw [List.filterMap_cons_none rfl]
      refine ih ?_
      rw [passStep, processEvent_unread hread]
      exact hshows
    | some e =>
      exact ih (processEvent_shows hshows hread)

/-- An event without a captured packet that names its radios, if it is a registration or a text. -/
theorem processEvent_moves {event : Event F} (hread : normalizeEvent numbers.toFloats
    (directory ++ codes ['/'] ++ f.name) f.stem f.content = some event)
    (hraw : rawIpPacketHex numbers event = none)
    (hrids : isApplication event .motorola_ars = true ∨ isApplication event .motorola_tms = true →
      (eventRids numbers event).isSome = true) :
    ∃ fate, (processEvent numbers directory pendingTexts f now o).2 = moveFile o f.name fate := by
  unfold processEvent
  rw [hread]
  dsimp only
  rw [hraw, if_neg (fun h => Bool.false_ne_true h.2), if_neg (fun h => Bool.false_ne_true h.2)]
  by_cases hars : isApplication event .motorola_ars = true
  · rw [if_pos hars]
    obtain ⟨rids, hrids⟩ := Option.isSome_iff_exists.mp (hrids (Or.inl hars))
    rw [hrids]
    exact ⟨_, rfl⟩
  · rw [if_neg hars]
    by_cases htext : ¬ isApplication event .motorola_tms = true ∨ chooseText event = []
    · rw [if_pos htext]
      exact ⟨_, rfl⟩
    · rw [if_neg htext]
      obtain ⟨rids, hrids⟩ :=
        Option.isSome_iff_exists.mp (hrids (Or.inr (not_not.mp (not_or.mp htext).1)))
      rw [hrids]
      exact ⟨_, rfl⟩

theorem eq_of_rejected {name : Str}
    (h : .rejected name ∈ (processEvent numbers directory pendingTexts f now o).2) :
    name = f.name := by
  have hmove : ∀ fate, .rejected name ∈ moveFile o f.name fate → name = f.name := by
    intro fate h
    unfold moveFile at h
    split_ifs at h
    · cases List.mem_singleton.mp h
    · exact PassEffect.rejected.inj (List.mem_singleton.mp h)
  have hreject : .rejected name ∈ [PassEffect.rejected f.name] → name = f.name := fun h =>
    PassEffect.rejected.inj (List.mem_singleton.mp h)
  unfold processEvent at h
  cases hread : normalizeEvent numbers.toFloats (directory ++ codes ['/'] ++ f.name) f.stem
      f.content with
  | none =>
    rw [hread] at h
    exact hreject h
  | some event =>
    rw [hread] at h
    cases hrids : eventRids numbers event with
    | none =>
      simp only [hrids] at h
      split_ifs at h <;> first | exact hreject h | exact hmove _ h
    | some rids =>
      simp only [hrids] at h
      split_ifs at h
      · exact hmove _ ((List.mem_cons.mp h).resolve_left fun h => by cases h)
      · exact hreject h
      all_goals exact hmove _ h

end Pass

/-! ## The order of a pass -/

section Order

variable {inbox : Inbox}

theorem passOrder_strict : (passOrder inbox).Pairwise fun a b => a.name < b.name := by
  have hle : (passOrder inbox).Pairwise fun a b => a.name ≤ b.name :=
    List.pairwise_insertionSort _ _
  have hnodup : ((passOrder inbox).map InboxFile.name).Nodup := by
    have hperm := (List.perm_insertionSort (fun a b : InboxFile => a.name ≤ b.name)
      ((inbox.entries.filter fun e => hasJsonSuffix e.1).map fun e => ⟨e.1, e.2⟩)).map InboxFile.name
    refine hperm.nodup_iff.mpr ?_
    rw [List.map_map]
    exact inbox.nodup.sublist (List.filter_sublist.map _)
  refine (hle.and (List.pairwise_map.mp hnodup)).imp fun h => ?_
  exact lt_of_le_of_ne h.1 h.2

theorem eq_passOrder {files : List InboxFile} (hperm : files.Perm (passOrder inbox))
    (hle : files.Pairwise fun a b => a.name ≤ b.name) : files = passOrder inbox := by
  have hne : files.Pairwise fun a b => a.name ≠ b.name := by
    have hnodup := (hperm.map InboxFile.name).nodup_iff.mpr
      (List.pairwise_map.mpr (passOrder_strict.imp fun h => ne_of_lt h))
    exact List.pairwise_map.mp hnodup
  have : Std.Antisymm fun a b : InboxFile => a.name < b.name :=
    ⟨fun _ _ h h' => absurd h' (lt_asymm h)⟩
  exact hperm.eq_of_pairwise' ((hle.and hne).imp fun h => lt_of_le_of_ne h.1 h.2) passOrder_strict

end Order

end Brew.EventFile
