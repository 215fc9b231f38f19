import QuantarBridge.P25.Delivery

/-!
# Which messages of a radio are stored

A message of a radio is written to the inbox and acknowledged. The key of the message is remembered
before there is a file, the writer does not tell whether there is one in the end, and the same
message within the next twenty seconds is not written again.

* `jsonEscape`, `eventJson`, `dedupeKey`: the file and the key of an event;
* `writeSmsInboxEvent`, `inboxStep`: the inbox and the host with it;
* `AckStored`: an acknowledged message is in the inbox, `Backed`: **the invariant**;
* `ackStored_of_commits`: **runs whose files are all written** keep what they acknowledge.
-/

set_option autoImplicit false

namespace P25

open Lib

/-- How long a message counts as a repetition, in seconds. -/
def kSmsInboxDuplicateTtlSeconds : ℕ := 20

/-- The same in the nanoseconds of the steady clock. -/
def smsInboxDuplicateTtl : ℕ := 1000000000 * kSmsInboxDuplicateTtlSeconds

/-- The name of the application of text messages. -/
def applicationMotorolaTms : Bytes := ascii "motorola_tms".toList

/-- The directory of the inbox. -/
def smsInboxDirectory : Bytes := ascii "/home/quantar/quantar-runtime/sms/inbox".toList

/-- Two hexadecimal digits of a control character. -/
def hexPair (c : UInt8) : Bytes :=
  let digit (d : UInt8) : UInt8 := if d < 10 then 0x30 + d else 0x57 + d
  [digit (c / 16), digit (c % 16)]

/-- A byte of a string as JSON writes it. -/
def escapeByte (c : UInt8) : Bytes :=
  if c = 0x22 then ascii ['\\', '"']
  else if c = 0x5C then ascii ['\\', '\\']
  else if c = 0x08 then ascii ['\\', 'b']
  else if c = 0x0C then ascii ['\\', 'f']
  else if c = 0x0A then ascii ['\\', 'n']
  else if c = 0x0D then ascii ['\\', 'r']
  else if c = 0x09 then ascii ['\\', 't']
  else if c < 0x20 then ascii ['\\', 'u', '0', '0'] ++ hexPair c
  else [c]

/-- A string as JSON writes it. -/
def jsonEscape (value : Bytes) : Bytes := value.flatMap escapeByte

/-- A message for the inbox. -/
structure InboxEvent where
  sourceRid : ℕ
  targetRid : ℕ
  text : Bytes
  broadcast : Bool
  localDeliveryCandidate : Bool
  deriving DecidableEq

/-- The key under which a message is remembered. -/
def dedupeKey (application : Bytes) (event : InboxEvent) : Bytes :=
  let bit (b : Bool) : UInt8 := if b = true then 0x31 else 0x30
  application ++ 0x7C :: (decimal event.sourceRid ++ 0x7C :: (decimal event.targetRid ++ 0x7C ::
    (bit event.broadcast :: 0x7C :: bit event.localDeliveryCandidate :: 0x7C :: event.text)))

/-- A truth value as JSON writes it. -/
def jsonBool (b : Bool) : Bytes := ascii (if b = true then "true" else "false").toList

/-- The file of a message. -/
def eventJson (application : Bytes) (event : InboxEvent) : Bytes :=
  ascii "\x7b\n".toList ++
    ascii "  \"application\": \"".toList ++ jsonEscape application ++ ascii "\",\n".toList ++
    ascii "  \"sourceRid\": ".toList ++ decimal event.sourceRid ++ ascii ",\n".toList ++
    ascii "  \"targetRid\": ".toList ++ decimal event.targetRid ++ ascii ",\n".toList ++
    ascii "  \"broadcast\": ".toList ++ jsonBool event.broadcast ++ ascii ",\n".toList ++
    ascii "  \"localDeliveryCandidate\": ".toList ++ jsonBool event.localDeliveryCandidate ++
      ascii ",\n".toList ++
    ascii "  \"text\": \"".toList ++ jsonEscape event.text ++ ascii "\"\n".toList ++
    ascii "\x7d\n".toList

/-- What the file system does with a file: how many bytes it takes before it fails. -/
structure InboxOutcome where
  opened : Bool
  written : ℕ
  renamed : Bool

/-- A file in the inbox, and when it was written. -/
structure InboxFile where
  path : Bytes
  content : Bytes
  writtenAt : ℕ

/-- The inbox with the messages that are remembered, and until when. -/
structure Inbox where
  recentEvents : Dict Bytes ℕ
  sequence : ℕ
  files : List InboxFile

/-- The times of a call, by the steady clock and the system clock, and what becomes of its file. -/
structure InboxCall where
  now : ℕ
  epochMs : ℕ
  outcome : InboxOutcome

namespace Inbox

/-- The inbox when the host starts. -/
def init : Inbox := ⟨Dict.empty, 0, []⟩

variable (inbox : Inbox)

/-- The keys that are still remembered. -/
def expire (now : ℕ) : Dict Bytes ℕ := inbox.recentEvents.filter fun _ expiry => now < expiry

/-- A message that was written, or should have been, in the last twenty seconds. -/
def suppressed (application : Bytes) (now : ℕ) (event : InboxEvent) : Bool :=
  ((inbox.expire now).get? (dedupeKey application event)).isSome

/-- Write an event to the inbox, unless it is a repetition. -/
def writeSmsInboxEvent (application : Bytes) (call : InboxCall) (event : InboxEvent) : Inbox :=
  let recent := inbox.expire call.now
  if inbox.suppressed application call.now event = true then { inbox with recentEvents := recent }
  else
    let sequence := (inbox.sequence + 1) % 2 ^ 32
    let path := smsInboxDirectory ++ ascii "/host-".toList ++ decimal call.epochMs ++
      ascii ['-'] ++ decimal sequence ++ ascii ".json".toList
    let file : InboxFile :=
      ⟨path, (eventJson application event).take call.outcome.written, call.now⟩
    { recentEvents := recent.set (dedupeKey application event)
        (call.now + smsInboxDuplicateTtl)
      sequence := sequence
      files := if call.outcome.opened = true ∧ call.outcome.renamed = true
        then inbox.files ++ [file] else inbox.files }

end Inbox

/-- The messages that a step writes to the inbox. -/
def inboxEvents (effects : List DataEffect) : List InboxEvent :=
  effects.filterMap fun
    | .inboxEvent sourceRid targetRid text localDeliveryCandidate =>
      some ⟨sourceRid, targetRid, text, false, localDeliveryCandidate⟩
    | _ => none

/-- Write some events. -/
def Inbox.writeAll (call : InboxCall) (inbox : Inbox) (events : List InboxEvent) : Inbox :=
  events.foldl (fun inbox event => inbox.writeSmsInboxEvent applicationMotorolaTms call event) inbox

/-- The data host with its inbox. -/
structure InboxHost where
  data : Data
  inbox : Inbox

/-- The host with an empty inbox. -/
def InboxHost.init : InboxHost := ⟨.init, .init⟩

/-- Something happens to the data host. -/
structure InboxStep where
  event : DataEvent
  call : InboxCall

/-- A step of the host, whose events are written to the inbox. -/
def inboxStep (cfg : DataConfig) (s : InboxHost) (t : InboxStep) : InboxHost × List DataEffect :=
  let r := dataStep cfg s.data t.event
  (⟨r.1, s.inbox.writeAll t.call (inboxEvents r.2)⟩, r.2)

/-! ## Acknowledged messages -/

/-- The radio the host takes a message to be for. -/
def routedTarget (cfg : DataConfig) (targetRid : ℕ) (extendedAddress : Bool)
    (message : MotorolaTmsMessage) : ℕ :=
  if extendedAddress = true ∨ message.targetIp ≠ cfg.arsServerIp
    then Data.directTarget extendedAddress targetRid message else message.targetRid

/-- A message is acknowledged to its radio, by the server or in the name of its target. -/
def Acknowledges (cfg : DataConfig) (s : Data) (e : DataEvent) (sourceRid targetRid : ℕ)
    (text : Bytes) : Prop :=
  ∃ llId ns ackNeeded extendedAddress message pdu fragment,
    e = .packet sourceRid llId ns ackNeeded (.message extendedAddress message) ∧
      targetRid = routedTarget cfg llId extendedAddress message ∧ text = message.text ∧
      .sent pdu fragment ∈ (dataStep cfg s e).2

/-- A file of the last twenty seconds has the message. -/
def Stored (inbox : Inbox) (now sourceRid targetRid : ℕ) (text : Bytes) : Prop :=
  ∃ file ∈ inbox.files, now < file.writtenAt + smsInboxDuplicateTtl ∧
    ∃ candidate, file.content =
      eventJson applicationMotorolaTms ⟨sourceRid, targetRid, text, false, candidate⟩

/-- **A message with a target that is acknowledged** is in the inbox. -/
def AckStored (cfg : DataConfig) (s : InboxHost) (t : InboxStep) : Prop :=
  ∀ sourceRid targetRid text, Acknowledges cfg s.data t.event sourceRid targetRid text →
    targetRid ≠ 0 →
      Stored (inboxStep cfg s t).1.inbox t.call.now sourceRid targetRid text

/-- The file of a message is written. -/
def Commits (call : InboxCall) (event : InboxEvent) : Prop :=
  call.outcome.opened = true ∧ call.outcome.renamed = true ∧
    (eventJson applicationMotorolaTms event).length ≤ call.outcome.written

instance (call : InboxCall) : DecidablePred (Commits call) :=
  fun _ => inferInstanceAs (Decidable (_ ∧ _))

/-- The files of the messages that are not suppressed are written. -/
def CommitsAll (call : InboxCall) : Inbox → List InboxEvent → Prop
  | _, [] => True
  | inbox, event :: events =>
    (inbox.suppressed applicationMotorolaTms call.now event = false → Commits call event) ∧
      CommitsAll call (inbox.writeSmsInboxEvent applicationMotorolaTms call event) events

instance decidableCommitsAll (call : InboxCall) : ∀ (inbox : Inbox) (events : List InboxEvent),
    Decidable (CommitsAll call inbox events)
  | _, [] => inferInstanceAs (Decidable True)
  | inbox, event :: events =>
    have := decidableCommitsAll call
      (inbox.writeSmsInboxEvent applicationMotorolaTms call event) events
    inferInstanceAs (Decidable (_ ∧ _))

/-- The step writes the files of the messages that it remembers. -/
def StepCommits (cfg : DataConfig) (s : InboxHost) (t : InboxStep) : Prop :=
  CommitsAll t.call s.inbox (inboxEvents (dataStep cfg s.data t.event).2)

instance (cfg : DataConfig) (s : InboxHost) (t : InboxStep) : Decidable (StepCommits cfg s t) :=
  decidableCommitsAll _ _ _

/-! ## The inbox -/

theorem dedupeKey_inj {application : Bytes} {a b : InboxEvent}
    (h : dedupeKey application a = dedupeKey application b) : a = b := by
  have hbar : ¬ (48 ≤ (0x7C : UInt8).toNat ∧ (0x7C : UInt8).toNat < 58) := by decide
  have hbit : ∀ x y : Bool, (if x = true then (0x31 : UInt8) else 0x30) =
      (if y = true then 0x31 else 0x30) → x = y := by decide
  obtain ⟨sourceRid, targetRid, text, broadcast, candidate⟩ := a
  unfold dedupeKey at h
  obtain ⟨hsource, h⟩ := decimal_append_inj hbar (List.cons.inj (List.append_cancel_left h)).2
  obtain ⟨htarget, h⟩ := decimal_append_inj hbar h
  simp only [List.cons.injEq, true_and] at h
  obtain ⟨hbroadcast, hcandidate, htext⟩ := h
  cases hsource
  cases htarget
  cases hbit _ _ hbroadcast
  cases hbit _ _ hcandidate
  cases htext
  rfl

/-- A file of the last twenty seconds is that of the message. -/
def FileOf (inbox : Inbox) (expiry : ℕ) (event : InboxEvent) : Prop :=
  ∃ file ∈ inbox.files, expiry = file.writtenAt + smsInboxDuplicateTtl ∧
    file.content = eventJson applicationMotorolaTms event

/-- **Every message that is remembered** has its file. -/
def Backed (inbox : Inbox) : Prop :=
  ∀ key expiry, inbox.recentEvents.get? key = some expiry →
    ∃ event, key = dedupeKey applicationMotorolaTms event ∧ FileOf inbox expiry event

theorem FileOf.mono {inbox inbox' : Inbox} {expiry : ℕ} {event : InboxEvent}
    (h : FileOf inbox expiry event) (hfiles : ∀ file ∈ inbox.files, file ∈ inbox'.files) :
    FileOf inbox' expiry event := by
  obtain ⟨file, hm, hrest⟩ := h
  exact ⟨file, hfiles file hm, hrest⟩

theorem backed_expire {inbox : Inbox} {now : ℕ} {key : Bytes} {expiry : ℕ} (h : Backed inbox)
    (hget : (inbox.expire now).get? key = some expiry) :
    now < expiry ∧ ∃ event, key = dedupeKey applicationMotorolaTms event ∧
      FileOf inbox expiry event := by
  unfold Inbox.expire at hget
  rw [Dict.get?_filter, Option.filter_eq_some_iff] at hget
  exact ⟨of_decide_eq_true hget.2, h key expiry hget.1⟩

/-- **A call** keeps the invariant, and the message is in the inbox. -/
theorem backed_write {inbox : Inbox} {call : InboxCall} {event : InboxEvent} (h : Backed inbox)
    (hc : inbox.suppressed applicationMotorolaTms call.now event = false → Commits call event) :
    Backed (inbox.writeSmsInboxEvent applicationMotorolaTms call event) ∧
      (∀ file ∈ inbox.files,
        file ∈ (inbox.writeSmsInboxEvent applicationMotorolaTms call event).files) ∧
      ∃ expiry, call.now < expiry ∧
        FileOf (inbox.writeSmsInboxEvent applicationMotorolaTms call event) expiry event := by
  unfold Inbox.writeSmsInboxEvent
  dsimp only
  cases hsuppressed : inbox.suppressed applicationMotorolaTms call.now event with
  | true =>
    rw [if_pos rfl]
    refine ⟨fun key expiry hget => (backed_expire h hget).2, fun _ hm => hm, ?_⟩
    obtain ⟨expiry, hget⟩ := Option.isSome_iff_exists.mp hsuppressed
    obtain ⟨hnow, event', hkey, hfile⟩ := backed_expire h hget
    rw [dedupeKey_inj hkey]
    exact ⟨expiry, hnow, hfile⟩
  | false =>
    obtain ⟨hopened, hrenamed, hwritten⟩ := hc hsuppressed
    rw [if_neg Bool.false_ne_true, if_pos ⟨hopened, hrenamed⟩]
    have hmono : ∀ file ∈ inbox.files, ∀ rest, file ∈ inbox.files ++ rest :=
      fun file hm rest => List.mem_append_left rest hm
    refine ⟨fun key expiry hget => ?_, fun file hm => hmono file hm _, call.now + smsInboxDuplicateTtl,
      ?_, ?_⟩
    · rw [Dict.get?_set] at hget
      split_ifs at hget with hk
      · obtain rfl := Option.some.inj hget
        exact ⟨event, hk, _, List.mem_append_right _ (List.mem_singleton_self _), rfl,
          List.take_of_length_le hwritten⟩
      · obtain ⟨-, event', hkey, hfile⟩ := backed_expire h hget
        exact ⟨event', hkey, hfile.mono fun file hm => hmono file hm _⟩
    · exact Nat.lt_add_of_pos_right (by decide)
    · exact ⟨_, List.mem_append_right _ (List.mem_singleton_self _), rfl,
        List.take_of_length_le hwritten⟩

/-- **The calls of a step.** -/
theorem backed_writeAll {call : InboxCall} (events : List InboxEvent) :
    ∀ inbox : Inbox, Backed inbox → CommitsAll call inbox events →
      Backed (inbox.writeAll call events) ∧
        (∀ file ∈ inbox.files, file ∈ (inbox.writeAll call events).files) ∧
        ∀ event ∈ events, ∃ expiry, call.now < expiry ∧
          FileOf (inbox.writeAll call events) expiry event := by
  induction events with
  | nil => exact fun inbox h _ => ⟨h, fun _ hm => hm, fun _ hm => absurd hm List.not_mem_nil⟩
  | cons event events ih =>
    intro inbox h hc
    obtain ⟨hbacked, hfiles, expiry, hnow, hfile⟩ := backed_write h hc.1
    obtain ⟨hbacked', hfiles', hall⟩ := ih _ hbacked hc.2
    refine ⟨hbacked', fun file hm => hfiles' file (hfiles file hm), fun event' hm => ?_⟩
    rcases List.mem_cons.mp hm with rfl | hm
    · exact ⟨expiry, hnow, hfile.mono hfiles'⟩
    · exact hall event' hm

/-! ## Steps and runs -/

theorem effects_message (cfg : DataConfig) (s : Data) (sourceRid llId : ℕ) (extendedAddress : Bool)
    (message : MotorolaTmsMessage) (ackNs : Option ℕ) :
    (s.handleMotorolaTmsMessage cfg sourceRid llId extendedAddress message ackNs).2 = [] ∨
      ∃ candidate more,
        (s.handleMotorolaTmsMessage cfg sourceRid llId extendedAddress message ackNs).2 =
          Data.respond sourceRid ackNs ++ (if routedTarget cfg llId extendedAddress message = 0 then []
            else [.inboxEvent sourceRid (routedTarget cfg llId extendedAddress message) message.text
              candidate]) ++ more := by
  unfold Data.handleMotorolaTmsMessage
  by_cases hrefused : (extendedAddress = false ∧ sourceRid ≠ llId) ∨
      (extendedAddress = true ∧ (sourceRid = 0 ∨ llId = 0)) ∨
      s.known sourceRid message.sourceIp = false ∨ s.available sourceRid = false
  · rw [if_pos hrefused]
    exact Or.inl rfl
  · rw [if_neg hrefused]
    exact Or.inr ⟨_, _, rfl⟩

/-- A message with a target that is acknowledged was handed to the inbox. -/
theorem mem_inboxEvents_of_acknowledges {cfg : DataConfig} {s : Data} {e : DataEvent}
    {sourceRid targetRid : ℕ} {text : Bytes} (h : Acknowledges cfg s e sourceRid targetRid text)
    (hne : targetRid ≠ 0) : ∃ candidate,
      (⟨sourceRid, targetRid, text, false, candidate⟩ : InboxEvent) ∈
        inboxEvents (dataStep cfg s e).2 := by
  obtain ⟨llId, ns, ackNeeded, extendedAddress, message, pdu, _, rfl, rfl, rfl, hsent⟩ := h
  let ackNs := if ackNeeded = true then some ns else none
  rcases effects_message cfg (s.rememberMotorolaPacketNs sourceRid llId ns) sourceRid llId
    extendedAddress message ackNs with hnone | ⟨candidate, more, heffects⟩
  · have hnil : (dataStep cfg s (.packet sourceRid llId ns ackNeeded
        (.message extendedAddress message))).2 = [] := hnone
    rw [hnil] at hsent
    cases hsent
  · have hall : (dataStep cfg s (.packet sourceRid llId ns ackNeeded
        (.message extendedAddress message))).2 = _ := heffects
    rw [hall, if_neg hne]
    refine ⟨candidate, List.mem_filterMap.mpr
      ⟨.inboxEvent sourceRid (routedTarget cfg llId extendedAddress message) message.text candidate, ?_,
        rfl⟩⟩
    exact List.mem_append_left _ (List.mem_append_right _ (List.mem_singleton_self _))

theorem backed_step {cfg : DataConfig} {s : InboxHost} {t : InboxStep} (h : Backed s.inbox)
    (hc : StepCommits cfg s t) : Backed (inboxStep cfg s t).1.inbox :=
  (backed_writeAll _ s.inbox h hc).1

theorem ackStored_step {cfg : DataConfig} {s : InboxHost} {t : InboxStep} (h : Backed s.inbox)
    (hc : StepCommits cfg s t) : AckStored cfg s t := by
  intro sourceRid targetRid text hack hne
  obtain ⟨candidate, hm⟩ := mem_inboxEvents_of_acknowledges hack hne
  obtain ⟨expiry, hnow, file, hfile, rfl, hcontent⟩ := (backed_writeAll _ s.inbox h hc).2.2 _ hm
  exact ⟨file, hfile, hnow, candidate, hcontent⟩

/-- **What is acknowledged is stored**, in a run whose steps write the files of the messages that
they remember. -/
theorem ackStored_of_commits (cfg : DataConfig) (ts : List InboxStep)
    (h : Run.Along (inboxStep cfg) (StepCommits cfg) .init ts) :
    Run.Along (inboxStep cfg) (AckStored cfg) .init ts := by
  intro pre t post hts
  refine ackStored_step ?_ (h pre t post hts)
  refine Run.invariant_at (fun s => Backed s.inbox)
    (fun s t hc hb => backed_step hb hc) h ?_ pre t post hts
  intro key expiry hget
  cases hget

/-- A message of the radio 7 for the radio 9. -/
def sampleMessage : RadioPacket := .message false
  { targetRid := 9, sourceIp := 3221225479, targetIp := 167772161, operation := 0, messageId := 3
    text := ascii "hi".toList }

/-- A call at which the file can be opened, or not. -/
def sampleCall (now : ℕ) (opened : Bool) : InboxCall := ⟨now, 0, ⟨opened, 1000, true⟩⟩

/-- The radio registers and sends its message, whose file can be opened or not. -/
def messageRun (opened : Bool) : List InboxStep :=
  [⟨.packet 7 7 0 true (.registration 3221225479 1), sampleCall 0 true⟩,
    ⟨.ack [7] 7 0, sampleCall 0 true⟩,
    ⟨.packet 7 7 1 true (.serviceAcknowledgement 3221225479), sampleCall 0 true⟩,
    ⟨.packet 7 7 2 true sampleMessage, sampleCall 0 opened⟩]

/-- Ten seconds later it sends the message again. -/
def repetition : InboxStep := ⟨.packet 7 7 3 true sampleMessage, sampleCall 10000000000 true⟩

theorem ackStored_sample : Run.Along (inboxStep Data.sampleConfig) (AckStored Data.sampleConfig) .init
    (messageRun true ++ [repetition]) :=
  ackStored_of_commits Data.sampleConfig (messageRun true ++ [repetition]) (by decide +kernel)

/-- The file cannot be opened. The repetition of the message is acknowledged as well, and not
written although the inbox is in order again. -/
theorem not_ackStored_unopened :
    ¬ ∀ cfg ts, Run.Along (inboxStep cfg) (AckStored cfg) .init ts := by
  intro h
  have hack := h Data.sampleConfig (messageRun false ++ [repetition]) (messageRun false) repetition []
    rfl
  have hsent : (inboxStep Data.sampleConfig (Run.final (inboxStep Data.sampleConfig) .init
      (messageRun false)) repetition).2.any (fun o => match o with
        | .sent _ _ => true
        | _ => false) = true := by decide +kernel
  obtain ⟨o, ho, hpdu⟩ := List.any_eq_true.mp hsent
  obtain ⟨pdu, fragment, rfl⟩ : ∃ pdu fragment, o = .sent pdu fragment := by
    cases o with
    | sent pdu fragment => exact ⟨pdu, fragment, rfl⟩
    | _ => cases hpdu
  obtain ⟨file, hm, -⟩ := hack 7 9 (ascii "hi".toList)
    ⟨7, 3, true, false, _, pdu, fragment, rfl, by decide, rfl, ho⟩ (by decide)
  have hnone : (inboxStep Data.sampleConfig (Run.final (inboxStep Data.sampleConfig) .init
      (messageRun false)) repetition).1.inbox.files.length = 0 := by decide +kernel
  rw [List.eq_nil_of_length_eq_zero hnone] at hm
  cases hm

end P25
