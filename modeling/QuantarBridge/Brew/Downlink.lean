import QuantarBridge.Brew.Bridge
import QuantarBridge.Lib.Run

/-!
# Entries of calls

The bridge has one entry for each call of the server. An entry is live until it is marked as ended,
and the playout loop removes an ended entry when its voice has been played. Seen from the channel, an
event starts an entry, resumes one, ends one, removes one, or does nothing.

* `BrewEvent`, `bridgeStep`: the machine;
* `decoderLog`: the decoders of a call;
* `flags`: the entries with their mark, `Change`: what happens to them;
* `Touched`, `touched_onBrewBinary`: **what a frame does** to the entries;
* `Turn`, `turn_playout`: **what a turn of the loop does**;
* `change`: the change an event makes, `flags_bridgeStep`: **it says all**.
-/

set_option autoImplicit false

namespace Brew

open Lib

/-- A frame of the server, a turn of the playout loop, the loss of the websocket, and what the other
threads change. -/
inductive BrewEvent
  | frame (c : Readings) (o : Outcomes) (frame : Bytes)
  | playout (now : Time)
  | disconnected
  | routes (router : TalkgroupRouter)
  | registered (localIssis : Finset ℕ)
  | uplink (active : Bool)
  | owned (callUuid : Bytes) (expiry : Time)

/-- One event. Losing the websocket leaves everything as it is, also when the next one connects. -/
def bridgeStep (cfg : AudioConfig) (s : AudioBridge) : BrewEvent → AudioBridge × List BridgeEffect
  | .frame c o frame => s.onBrewBinary cfg c o frame
  | .playout now => s.playout cfg now
  | .disconnected => (s, [])
  | .routes router => ({ s with router := router }, [])
  | .registered localIssis => ({ s with localIssis := localIssis }, [])
  | .uplink active => ({ s with activeUplink := active }, [])
  | .owned callUuid expiry => ({ s with ownedUuids := s.ownedUuids.mark callUuid expiry }, [])

/-! ## Decoders -/

/-- A decoder is opened or closed. -/
inductive DecoderEvent
  | opened | closed
  deriving DecidableEq

/-- What an effect does with a decoder of the call. -/
def decoderEvent (callUuid : Bytes) : BridgeEffect → Option DecoderEvent
  | .callStarted u => if u = callUuid then some .opened else none
  | .decoderClosed u => if u = callUuid then some .closed else none
  | _ => none

/-- The decoders of a call, in the order in which they are opened and closed. -/
def decoderLog (callUuid : Bytes) (effects : List BridgeEffect) : List DecoderEvent :=
  effects.filterMap (decoderEvent callUuid)

@[simp] theorem decoderLog_nil (callUuid : Bytes) : decoderLog callUuid [] = [] := rfl

theorem decoderLog_append (callUuid : Bytes) (effects effects' : List BridgeEffect) :
    decoderLog callUuid (effects ++ effects') =
      decoderLog callUuid effects ++ decoderLog callUuid effects' := List.filterMap_append

/-! ## The channel -/

/-- The entries, each with its mark whether it has ended. -/
abbrev Flags := Bytes → Option Bool

/-- What happens to the entries. -/
inductive Change
  | kept
  | started (callUuid : Bytes)
  | resumed (callUuid : Bytes)
  | endedCall (callUuid : Bytes)
  | removed (callUuid : Bytes)
  deriving DecidableEq

/-- The entries after a change. -/
def Change.apply (f : Flags) : Change → Flags
  | .kept => f
  | .started callUuid => fun k => if k = callUuid then some false else f k
  | .resumed callUuid => fun k => if k = callUuid then (f k).map fun _ => false else f k
  | .endedCall callUuid => fun k => if k = callUuid then (f k).map fun _ => true else f k
  | .removed callUuid => fun k => if k = callUuid then none else f k

/-- The entry that is resumed. -/
def Change.resumedCall : Change → Option Bytes
  | .resumed callUuid => some callUuid
  | _ => none

/-- The entries of the bridge. -/
def flagsOf (calls : Dict Bytes DownlinkCall) : Flags :=
  fun k => (calls.get? k).map DownlinkCall.ended

theorem flagsOf_set (calls : Dict Bytes DownlinkCall) (callUuid : Bytes) (call : DownlinkCall)
    (k : Bytes) : flagsOf (calls.set callUuid call) k =
      if k = callUuid then some call.ended else flagsOf calls k := by
  unfold flagsOf
  rw [Dict.get?_set]
  split_ifs <;> rfl

theorem flagsOf_erase (calls : Dict Bytes DownlinkCall) (callUuid : Bytes) (k : Bytes) :
    flagsOf (calls.erase callUuid) k = if k = callUuid then none else flagsOf calls k := by
  unfold flagsOf
  rw [Dict.get?_erase]
  split_ifs <;> rfl

theorem flagsOf_modify (calls : Dict Bytes DownlinkCall) (callUuid : Bytes)
    (g : DownlinkCall → DownlinkCall) (k : Bytes) : flagsOf (calls.modify callUuid g) k =
      if k = callUuid then (calls.get? k).map fun call => (g call).ended else flagsOf calls k := by
  unfold flagsOf
  rw [Dict.get?_modify]
  split_ifs
  · rw [Option.map_map]
    rfl
  · rfl

theorem flagsOf_modify_of_ended (calls : Dict Bytes DownlinkCall) (callUuid : Bytes)
    (g : DownlinkCall → DownlinkCall) (hg : ∀ call, (g call).ended = call.ended) :
    flagsOf (calls.modify callUuid g) = flagsOf calls := by
  funext k
  rw [flagsOf_modify]
  simp only [hg]
  split_ifs <;> rfl

theorem flagsOf_mark (calls : Dict Bytes DownlinkCall) (callUuid : Bytes) (mark : Bool)
    (g : DownlinkCall → DownlinkCall) (hg : ∀ call, (g call).ended = mark) (k : Bytes) :
    flagsOf (calls.modify callUuid g) k =
      if k = callUuid then (flagsOf calls k).map (fun _ => mark) else flagsOf calls k := by
  rw [flagsOf_modify]
  simp only [hg]
  unfold flagsOf
  rw [Option.map_map]
  rfl

namespace AudioBridge

variable (cfg : AudioConfig) (s : AudioBridge)

/-- The marks of all entries. -/
def flags : Flags := flagsOf s.downlinkCalls

/-- A live entry. -/
def Live (callUuid : Bytes) : Prop := s.flags callUuid = some false

instance : DecidablePred s.Live := fun _ => inferInstanceAs (Decidable (_ = _))

/-- The server starts a call. -/
structure GroupTx where
  callUuid : Bytes
  source : ℕ
  destination : ℕ

/-- The frame belongs to a call. -/
def isCallFrame (frame : Bytes) : Bool :=
  18 ≤ frame.length ∧ ¬ (frame.getD 0 0 = 0xF0 ∨ frame.getD 0 0 = 0xF3 ∨
    (frame.getD 0 0 = 0xF2 ∧ (frame.getD 1 0 = 2 ∨ frame.getD 1 0 = 1)) ∨
    (frame.getD 0 0 = 0xF1 ∧ frame.getD 1 0 = 11))

/-- The start of a group call in a frame. -/
def groupTx (frame : Bytes) : Option GroupTx :=
  if isCallFrame frame ∧ frame.getD 0 0 = 0xF1 ∧ frame.getD 1 0 = 2 ∧ 30 ≤ frame.length then
    some ⟨(frame.drop 2).take 16, readLe32 frame 18, readLe32 frame 22⟩
  else none

/-- The server ends a call. -/
def groupIdle (frame : Bytes) : Option Bytes :=
  if isCallFrame frame ∧ frame.getD 0 0 = 0xF1 ∧ frame.getD 1 0 = 3 then
    some ((frame.drop 2).take 16)
  else none

/-- The talkgroup is active, and the call is neither an uplink call nor its echo. -/
def accepts (tx : GroupTx) (s : AudioBridge) : Bool :=
  (s.router.p25ForBrew tx.destination).isSome ∧
    ¬ ((s.ownedUuids.get? tx.callUuid).isSome ∨ (tx.source ∈ s.localIssis ∧ s.activeUplink = true))

/-- What a start of the server changes. -/
def txChange (tx : GroupTx) (s : AudioBridge) : Change :=
  if s.accepts tx = false then .kept
  else if (s.downlinkCalls.get? tx.callUuid).isSome then .resumed tx.callUuid
  else if s.competing tx.callUuid then .kept
  else .started tx.callUuid

/-- What the end of a call changes: nothing when the call is ignored. -/
def idleChange (callUuid : Bytes) (s : AudioBridge) : Change :=
  if callUuid ∈ s.ignoredDownlinkUuids then .kept else .endedCall callUuid

/-- What a frame changes. -/
def frameChange (c : Readings) (frame : Bytes) (s : AudioBridge) : Change :=
  match groupTx frame with
  | some tx => (s.expireOwnedUuids c.handled).txChange tx
  | none => (groupIdle frame).elim .kept fun callUuid =>
    (s.expireOwnedUuids c.handled).idleChange callUuid

/-- What a turn of the playout loop changes: a call that has ended and been played is removed. -/
def playoutChange (s : AudioBridge) : Change :=
  let s := s.chooseDownlink cfg
  s.activeDownlinkUuid.elim .kept fun callUuid =>
    (s.downlinkCalls.get? callUuid).elim .kept fun call =>
      if call.frames = [] ∧ call.ended = true then .removed callUuid else .kept

/-- What an event changes. -/
def change (s : AudioBridge) : BrewEvent → Change
  | .frame c _ frame => s.frameChange c frame
  | .playout _ => s.playoutChange cfg
  | _ => .kept

/-- What a frame does to the entries. -/
inductive Touched (r : AudioBridge × List BridgeEffect) : Change → Prop
  | kept (hcalls : r.1.downlinkCalls = s.downlinkCalls) (hlog : ∀ k, decoderLog k r.2 = []) :
      Touched r .kept
  | resumed (callUuid : Bytes) (source : ℕ)
      (hcalls : r.1.downlinkCalls = s.downlinkCalls.modify callUuid fun call =>
        { call with source := source, ended := false })
      (hlog : ∀ k, decoderLog k r.2 = []) : Touched r (.resumed callUuid)
  | started (callUuid : Bytes) (call : DownlinkCall) (hended : call.ended = false)
      (hcalls : r.1.downlinkCalls = s.downlinkCalls.set callUuid call)
      (heffects : r.2 = [.callStarted callUuid]) : Touched r (.started callUuid)
  | ended (callUuid : Bytes)
      (hcalls : r.1.downlinkCalls = s.downlinkCalls.modify callUuid fun call =>
        { call with ended := true })
      (hlog : ∀ k, decoderLog k r.2 = []) : Touched r (.endedCall callUuid)
  /-- Voice is added to what is waiting. -/
  | queued (callUuid : Bytes) (f : DownlinkCall → DownlinkCall)
      (hf : ∀ call, (f call).ended = call.ended ∧ (f call).frames ≠ [])
      (hcalls : r.1.downlinkCalls = s.downlinkCalls.modify callUuid f)
      (hlog : ∀ k, decoderLog k r.2 = []) : Touched r .kept

/-! ## Every event makes its change -/

variable {s}

/-- A start that is not accepted is ignored. An accepted one resumes an entry, or starts one when no
other call competes. -/
theorem startOrUpdateDownlink_cases (c : Readings) (tx : GroupTx) :
    let r := s.startOrUpdateDownlink c tx.callUuid tx.source tx.destination
    (s.txChange tx = .kept ∧ ∃ reason, r = s.ignore tx.callUuid reason) ∨
      (s.txChange tx = .resumed tx.callUuid ∧ r.2 = [.callUpdated tx.callUuid] ∧
        r.1 = { s with
          downlinkCalls := s.downlinkCalls.modify tx.callUuid fun call =>
            { call with source := tx.source, ended := false } }) ∨
      (s.txChange tx = .started tx.callUuid ∧ r.2 = [.callStarted tx.callUuid] ∧
        ∃ p25Destination, r.1 = { s with
          downlinkCalls := s.downlinkCalls.set tx.callUuid
            (DownlinkCall.new c tx.source tx.destination p25Destination) }) := by
  unfold txChange accepts startOrUpdateDownlink
  cases s.router.p25ForBrew tx.destination with
  | none => exact Or.inl ⟨rfl, _, rfl⟩
  | some p25Destination =>
    dsimp only
    by_cases he : (s.ownedUuids.get? tx.callUuid).isSome ∨
        (tx.source ∈ s.localIssis ∧ s.activeUplink = true)
    · rw [if_pos he, if_pos (decide_eq_false fun h => h.2 he)]
      exact Or.inl ⟨rfl, _, rfl⟩
    rw [if_neg he, if_neg (by simpa using he)]
    cases hg : s.downlinkCalls.get? tx.callUuid with
    | none =>
      rw [if_neg (by simp)]
      by_cases hc : s.competing tx.callUuid = true
      · simp only [if_pos hc]
        exact Or.inl ⟨trivial, _, rfl⟩
      · simp only [if_neg hc]
        exact Or.inr (Or.inr ⟨trivial, trivial, p25Destination, rfl⟩)
    | some call => exact Or.inr (Or.inl ⟨rfl, rfl, rfl⟩)

theorem touched_startOrUpdateDownlink (c : Readings) (tx : GroupTx) :
    let r := s.startOrUpdateDownlink c tx.callUuid tx.source tx.destination
    r.1.activeDownlinkUuid = s.activeDownlinkUuid ∧ s.Touched r (s.txChange tx) := by
  intro r
  rcases startOrUpdateDownlink_cases (s := s) c tx with
    ⟨hc, reason, h⟩ | ⟨hc, heff, h⟩ | ⟨hc, heff, p25Destination, h⟩
  · rw [hc, show r = s.ignore tx.callUuid reason from h]
    exact ⟨rfl, .kept rfl fun _ => rfl⟩
  · rw [hc]
    exact ⟨(congrArg activeDownlinkUuid h).trans rfl, .resumed tx.callUuid tx.source (congrArg downlinkCalls h)
      fun k => congrArg (decoderLog k) heff⟩
  · rw [hc]
    exact ⟨(congrArg activeDownlinkUuid h).trans rfl, .started tx.callUuid
      (DownlinkCall.new c tx.source tx.destination p25Destination) rfl (congrArg downlinkCalls h) heff⟩

theorem touched_endDownlink (callUuid : Bytes) :
    (s.endDownlink callUuid).activeDownlinkUuid = s.activeDownlinkUuid ∧
      s.Touched (s.endDownlink callUuid, []) (s.idleChange callUuid) := by
  unfold endDownlink idleChange
  split_ifs
  · exact ⟨rfl, .kept rfl fun _ => rfl⟩
  · exact ⟨rfl, .ended callUuid rfl fun _ => rfl⟩

theorem touched_queueDownlinkVoice (c : Readings) (callUuid payload : Bytes) :
    (s.queueDownlinkVoice c callUuid payload).activeDownlinkUuid = s.activeDownlinkUuid ∧
      s.Touched (s.queueDownlinkVoice c callUuid payload, []) .kept := by
  unfold queueDownlinkVoice
  split_ifs
  · exact ⟨rfl, .kept rfl fun _ => rfl⟩
  · exact ⟨rfl, .kept rfl fun _ => rfl⟩
  · refine ⟨rfl, .queued callUuid (fun call => { call with
      frames := (if 24 ≤ call.frames.length then call.frames.tail else call.frames) ++
        [payload.take TETRA_STE_BYTES]
      lastFrameAt := c.created }) ?_ rfl fun _ => rfl⟩
    exact fun _ => ⟨rfl, List.append_ne_nil_of_right_ne_nil _ (List.cons_ne_nil _ _)⟩

/-- What is forgotten before a frame is handled does not matter. -/
theorem Touched.of_calls {s' : AudioBridge} {r : AudioBridge × List BridgeEffect} {ch : Change}
    (h : s'.Touched r ch) (hs : s'.downlinkCalls = s.downlinkCalls) : s.Touched r ch := by
  cases h with
  | kept hcalls hlog => exact .kept (hcalls.trans hs) hlog
  | resumed u source hcalls hlog => exact .resumed u source (hs ▸ hcalls) hlog
  | started u call hended hcalls heffects => exact .started u call hended (hs ▸ hcalls) heffects
  | ended u hcalls hlog => exact .ended u (hs ▸ hcalls) hlog
  | queued u f hf hcalls hlog => exact .queued u f hf (hs ▸ hcalls) hlog

theorem touched_onCallFrame (c : Readings) {frame : Bytes} (hf : isCallFrame frame = true) :
    let r := s.onCallFrame c ((frame.drop 2).take 16) frame
    r.1.activeDownlinkUuid = s.activeDownlinkUuid ∧ s.Touched r (s.frameChange c frame) := by
  unfold onCallFrame frameChange groupTx groupIdle
  dsimp only
  by_cases hctl : frame.getD 0 0 = 0xF1
  · rw [if_pos hctl]
    by_cases htx : frame.getD 1 0 = 2 ∧ 30 ≤ frame.length
    · rw [if_pos htx, if_pos ⟨hf, hctl, htx⟩]
      dsimp only
      have h := touched_startOrUpdateDownlink (s := s.expireOwnedUuids c.handled) c
        ⟨(frame.drop 2).take 16, readLe32 frame 18, readLe32 frame 22⟩
      exact ⟨h.1, h.2.of_calls rfl⟩
    · have hno : ¬ (isCallFrame frame = true ∧ frame.getD 0 0 = 0xF1 ∧ frame.getD 1 0 = 2 ∧
          30 ≤ frame.length) := fun h => htx h.2.2
      rw [if_neg htx, if_neg hno]
      by_cases hidle : frame.getD 1 0 = 3
      · rw [if_pos hidle, if_pos ⟨hf, hctl, hidle⟩]
        dsimp only [Option.elim]
        have h := touched_endDownlink (s := s.expireOwnedUuids c.handled) ((frame.drop 2).take 16)
        exact ⟨h.1, h.2.of_calls rfl⟩
      · have hno' : ¬ (isCallFrame frame = true ∧ frame.getD 0 0 = 0xF1 ∧ frame.getD 1 0 = 3) :=
          fun h => hidle h.2.2
        rw [if_neg hidle, if_neg hno']
        exact ⟨rfl, .kept rfl fun _ => rfl⟩
  · have hno : ¬ (isCallFrame frame = true ∧ frame.getD 0 0 = 0xF1 ∧ frame.getD 1 0 = 2 ∧
        30 ≤ frame.length) := fun h => hctl h.2.1
    have hno' : ¬ (isCallFrame frame = true ∧ frame.getD 0 0 = 0xF1 ∧ frame.getD 1 0 = 3) :=
      fun h => hctl h.2.1
    rw [if_neg hctl, if_neg hno, if_neg hno']
    dsimp only [Option.elim]
    split_ifs
    · have h := touched_queueDownlinkVoice (s := s.expireOwnedUuids c.handled) c
        ((frame.drop 2).take 16) (frame.drop 20)
      exact ⟨h.1, h.2.of_calls rfl⟩
    · exact ⟨rfl, .kept rfl fun _ => rfl⟩

theorem touched_handleInboundSds (c : Readings) (o : Outcomes) (callUuid frame : Bytes) :
    let r := s.handleInboundSds cfg c o callUuid frame
    r.1.activeDownlinkUuid = s.activeDownlinkUuid ∧ s.Touched r .kept := by
  unfold handleInboundSds
  by_cases hlen : frame.length < 20
  · rw [if_pos hlen]
    exact ⟨rfl, .kept rfl fun _ => rfl⟩
  rw [if_neg hlen]
  cases s.pendingSds.get? callUuid with
  | none => exact ⟨rfl, .kept rfl fun _ => rfl⟩
  | some pending =>
    dsimp only
    by_cases hl : pending.destination ∉ s.localIssis
    · rw [if_pos hl]
      exact ⟨rfl, .kept rfl fun _ => rfl⟩
    rw [if_neg hl]
    cases sdsText cfg frame with
    | none => exact ⟨rfl, .kept rfl fun _ => rfl⟩
    | some text =>
      dsimp only
      unfold publishSds
      split_ifs <;> exact ⟨rfl, .kept rfl fun _ => rfl⟩

/-- **What a frame does** to the entries. It never changes which call is played. -/
theorem touched_onBrewBinary (c : Readings) (o : Outcomes) (frame : Bytes) :
    let r := s.onBrewBinary cfg c o frame
    r.1.activeDownlinkUuid = s.activeDownlinkUuid ∧ s.Touched r (s.frameChange c frame) := by
  have hkept : isCallFrame frame = false → s.frameChange c frame = .kept := by
    intro h
    have hn : ¬ isCallFrame frame = true := by rw [h]; exact Bool.false_ne_true
    unfold frameChange groupTx groupIdle
    rw [if_neg fun hc => hn hc.1, if_neg fun hc => hn hc.1]
    rfl
  unfold onBrewBinary
  dsimp only
  by_cases h1 : frame.length < 2
  · rw [if_pos h1, hkept (decide_eq_false fun h => by omega)]
    exact ⟨rfl, .kept rfl fun _ => rfl⟩
  rw [if_neg h1]
  by_cases h2 : frame.getD 0 0 = 0xF0
  · rw [if_pos h2, hkept (decide_eq_false fun h => h.2 (Or.inl h2))]
    exact ⟨rfl, .kept rfl fun _ => rfl⟩
  rw [if_neg h2]
  by_cases h3 : frame.getD 0 0 = 0xF3
  · rw [if_pos h3, hkept (decide_eq_false fun h => h.2 (Or.inr (Or.inl h3)))]
    unfold recoverRejectedUplinkSession
    split_ifs <;> exact ⟨rfl, .kept rfl fun _ => rfl⟩
  rw [if_neg h3]
  by_cases h4 : frame.getD 0 0 = 0xF2 ∧ frame.getD 1 0 = 2
  · rw [if_pos h4, hkept (decide_eq_false fun h => h.2 (Or.inr (Or.inr (Or.inl ⟨h4.1, Or.inl h4.2⟩))))]
    exact ⟨rfl, .kept rfl fun _ => rfl⟩
  rw [if_neg h4]
  by_cases h5 : frame.length < 18
  · rw [if_pos h5, hkept (decide_eq_false fun h => by omega)]
    exact ⟨rfl, .kept rfl fun _ => rfl⟩
  rw [if_neg h5]
  by_cases h6 : frame.getD 0 0 = 0xF1 ∧ frame.getD 1 0 = 11
  · rw [if_pos h6, hkept (decide_eq_false fun h => h.2 (Or.inr (Or.inr (Or.inr h6))))]
    unfold receiveSdsHeader
    split_ifs <;> exact ⟨rfl, .kept rfl fun _ => rfl⟩
  rw [if_neg h6]
  by_cases h7 : frame.getD 0 0 = 0xF2 ∧ frame.getD 1 0 = 1
  · rw [if_pos h7, hkept (decide_eq_false fun h =>
      h.2 (Or.inr (Or.inr (Or.inl ⟨h7.1, Or.inr h7.2⟩))))]
    exact ⟨(touched_handleInboundSds cfg c o _ frame).1,
      (touched_handleInboundSds cfg c o _ frame).2.of_calls rfl⟩
  rw [if_neg h7]
  have hf : isCallFrame frame = true := by
    refine decide_eq_true ⟨Nat.le_of_not_lt h5, ?_⟩
    tauto
  exact ⟨(touched_onCallFrame c hf).1, (touched_onCallFrame c hf).2.of_calls rfl⟩

/-- **A frame** makes its change. -/
theorem Touched.flags {r : AudioBridge × List BridgeEffect} {ch : Change} (h : s.Touched r ch) :
    r.1.flags = ch.apply s.flags := by
  unfold AudioBridge.flags
  funext k
  cases h with
  | kept hcalls _ => rw [hcalls]; rfl
  | resumed u source hcalls _ =>
    rw [hcalls]
    exact flagsOf_mark _ _ false _ (fun _ => rfl) k
  | started u call hended hcalls _ =>
    rw [hcalls, flagsOf_set, hended]
    rfl
  | ended u hcalls _ =>
    rw [hcalls]
    exact flagsOf_mark _ _ true _ (fun _ => rfl) k
  | queued u f hf hcalls _ =>
    rw [hcalls, flagsOf_modify_of_ended _ _ _ fun call => (hf call).1]
    rfl

theorem flags_chooseDownlink : (s.chooseDownlink cfg).flags = s.flags := by
  unfold chooseDownlink
  split_ifs
  · rfl
  dsimp only
  split
  · rfl
  · exact flagsOf_modify_of_ended _ _ _ fun _ => rfl

variable (s) in
/-- What a turn of the loop does when the call to play has been chosen. -/
inductive Turn : AudioBridge × List BridgeEffect → Change → Prop
  | idle (hactive : s.activeDownlinkUuid = none) : Turn (s, []) .kept
  | missing (callUuid : Bytes) (hactive : s.activeDownlinkUuid = some callUuid)
      (hget : s.downlinkCalls.get? callUuid = none) :
      Turn ({ s with activeDownlinkUuid := none }, []) .kept
  | played (callUuid : Bytes) (call : DownlinkCall) (ste : Bytes) (rest : List Bytes)
      (hactive : s.activeDownlinkUuid = some callUuid)
      (hget : s.downlinkCalls.get? callUuid = some call) (hframes : call.frames = ste :: rest) :
      Turn ({ s with
        downlinkCalls := s.downlinkCalls.modify callUuid fun call => { call with frames := rest } },
        [.played callUuid ste]) .kept
  | removed (callUuid : Bytes) (call : DownlinkCall)
      (hactive : s.activeDownlinkUuid = some callUuid)
      (hget : s.downlinkCalls.get? callUuid = some call) (hended : call.ended = true) :
      Turn ({ s with
        downlinkCalls := s.downlinkCalls.erase callUuid
        activeDownlinkUuid := none }, [.decoderClosed callUuid]) (.removed callUuid)
  | underrun (callUuid : Bytes) (call : DownlinkCall)
      (hactive : s.activeDownlinkUuid = some callUuid)
      (hget : s.downlinkCalls.get? callUuid = some call) (hended : call.ended = false) :
      Turn ({ s with
        activeDownlinkUuid := none
        downlinkCalls := s.downlinkCalls.modify callUuid fun call =>
          { call with started := false } }, []) .kept
  | waiting (callUuid : Bytes) (call : DownlinkCall)
      (hactive : s.activeDownlinkUuid = some callUuid)
      (hget : s.downlinkCalls.get? callUuid = some call) (hended : call.ended = false) :
      Turn (s, []) .kept

theorem turn_playout (now : Time) :
    (s.chooseDownlink cfg).Turn (s.playout cfg now) (s.playoutChange cfg) := by
  unfold playout playoutChange
  dsimp only
  generalize s.chooseDownlink cfg = s'
  cases ha : s'.activeDownlinkUuid with
  | none => exact .idle ha
  | some callUuid =>
    dsimp only [Option.elim]
    cases hg : s'.downlinkCalls.get? callUuid with
    | none => exact .missing callUuid ha hg
    | some call =>
      dsimp only
      cases hfr : call.frames with
      | cons ste rest =>
        have hno : ¬ (ste :: rest = [] ∧ call.ended = true) := fun h => List.cons_ne_nil _ _ h.1
        rw [if_neg hno, ← ha]
        exact .played callUuid call ste rest ha hg hfr
      | nil =>
        dsimp only
        cases he : call.ended with
        | true =>
          rw [if_pos rfl, if_pos ⟨rfl, rfl⟩]
          exact .removed callUuid call ha hg he
        | false =>
          have hno : ¬ (([] : List Bytes) = [] ∧ false = true) := fun h => Bool.false_ne_true h.2
          rw [if_neg Bool.false_ne_true, if_neg hno]
          split_ifs
          · exact .underrun callUuid call ha hg he
          · exact .waiting callUuid call ha hg he

theorem Turn.flags {r : AudioBridge × List BridgeEffect} {ch : Change} (h : s.Turn r ch) :
    r.1.flags = ch.apply s.flags := by
  cases h with
  | idle _ => rfl
  | missing _ _ _ => rfl
  | played callUuid call ste rest _ _ _ => exact flagsOf_modify_of_ended _ _ _ fun _ => rfl
  | removed callUuid call _ _ _ =>
    funext k
    exact flagsOf_erase _ _ k
  | underrun callUuid call _ _ _ => exact flagsOf_modify_of_ended _ _ _ fun _ => rfl
  | waiting _ _ _ _ _ => rfl

/-- **A turn of the playout loop** makes its change. -/
theorem flags_playout (now : Time) :
    (s.playout cfg now).1.flags = (s.playoutChange cfg).apply s.flags := by
  rw [(turn_playout cfg now).flags, flags_chooseDownlink]

/-- **Every event** makes its change, and no other. -/
theorem flags_bridgeStep (e : BrewEvent) :
    (bridgeStep cfg s e).1.flags = (s.change cfg e).apply s.flags := by
  cases e with
  | frame c o frame => exact (touched_onBrewBinary cfg c o frame).2.flags
  | playout now => exact flags_playout cfg now
  | disconnected => rfl
  | routes router => rfl
  | registered localIssis => rfl
  | uplink active => rfl
  | owned callUuid expiry => rfl

end AudioBridge

end Brew
