import QuantarBridge.Brew.InboxPass
import QuantarBridge.P25.ApxInbox
import QuantarBridge.Sms.PeerText
import QuantarBridge.Sms.Replies
import QuantarBridge.Sms.SafeParsing

/-!
# Datagrams in the inbox

Every datagram on the two sockets of the subsystem becomes a JSON document in the inbox, whether it
could be parsed or not. The message bridge reads these documents.

* `parseMotorolaArs`, `parseMotorolaPacket`: registrations and text messages;
* `inboundMembers`, `buildInboundJson`, `makeEventStem`, `handleIncomingPacket`: the document;
* `Writes`: bytes that are read as a value;
* `normalizeEvent_objectBytes`: **a document that is printed one member a line is read back**.
-/

set_option autoImplicit false

namespace Sms

open Lib PacketData
open Dashboard (Str codes)
open Brew.EventFile (Floats Event normalizeEvent codes_inj)
open P25 (Astral hostBytes latin escapeChar IsAscii)

/-! ## Datagrams -/

/-- The sockets for registrations and for text messages. -/
inductive Channel
  | ars | tms
  deriving DecidableEq

/-- The name of a channel in a document. -/
def Channel.name : Channel → String
  | .ars => "ars"
  | .tms => "tms"

/-- What a datagram says. -/
structure ParsedDatagram where
  application : String
  sourceRid : ℕ
  targetRid : ℕ
  broadcast : Bool
  text : Bytes
  textFragment : Bytes

/-- The number of seven digits. -/
def sevenDigits (data : Bytes) : Option ℕ :=
  let digits := data.take 7
  if digits.all fun c => 0x30 ≤ c ∧ c ≤ 0x39 then
    some (digitsValue (digits.map fun c => c.toNat - 0x30))
  else none

/-- A registration: the two radios in seven digits each. -/
def parseMotorolaArs (data : Bytes) : Option ParsedDatagram :=
  if data.length < 19 then none
  else if data.take 4 ≠ [0x00, 0x11, 0x72, 0x07] then none
  else
    match sevenDigits (data.drop 4), sevenDigits (data.drop 12) with
    | some sourceRid, some targetRid =>
      some ⟨"motorola_ars", sourceRid, targetRid, decide (targetRid = 16777215), [], []⟩
    | _, _ => none

/-- What the parser of a channel makes of a datagram. -/
def parseMotorolaPacket (channel : Channel) (data : Bytes) : Option ParsedDatagram :=
  match channel with
  | .ars => parseMotorolaArs data
  | .tms => (parseMotorolaTms data).map fun parsed =>
    ⟨"motorola_tms", parsed.sourceRid, 0, false, parsed.text, parsed.textFragment⟩

/-- Where a datagram comes from. The text of an IPv6 address is that of `inet_ntop`. -/
inductive Sender
  | unknown
  | ipv4 (address : Address) (port : ℕ)
  | ipv6 (host : List Char) (ascii : ∀ c ∈ host, c.toNat < 0x80 ∧ c ≠ '\r') (port : ℕ)

/-- A sender as text. -/
def sockaddrToString (sender : Sender) : Bytes :=
  match sender with
  | .unknown => ascii "unknown".toList
  | .ipv4 address port => addressToString address ++ portText port
  | .ipv6 host _ port => ascii host ++ portText port
where
  portText (port : ℕ) : Bytes := if port ≠ 0 then 0x3A :: decimal port else []

/-- A datagram, with the time at which it is handled. -/
structure InboundDatagram where
  channel : Channel
  data : Bytes
  sender : Sender
  nowMs : ℕ
  short : data.length < 2 ^ 16
  timely : nowMs < 2 ^ 63

/-! ## The document -/

/-- A member in a line of its own. -/
def memberLine (member : String × Bytes) : Bytes :=
  ascii "  \"".toList ++ ascii member.1.toList ++ ascii "\": ".toList ++ member.2

/-- The lines of the members, with commas between them. -/
def memberLines : List (String × Bytes) → Bytes
  | [] => []
  | m :: ms => memberLine m ++
    if ms.isEmpty then ascii ['\n'] else ascii [',', '\n'] ++ memberLines ms

/-- The document of some members. -/
def objectBytes (members : List (String × Bytes)) : Bytes :=
  ascii ['\x7b', '\n'] ++ memberLines members ++ ascii ['\x7d', '\n']

/-- A string as JSON writes it. -/
def jsonEscape (value : Bytes) : Bytes := P25.jsonEscape value

/-- A string in double quotes. -/
def jsonText (value : Bytes) : Bytes := ascii ['"'] ++ jsonEscape value ++ ascii ['"']

/-- A truth value as JSON writes it. -/
def jsonBool (value : Bool) : Bytes := ascii (if value then "true" else "false").toList

section Document

variable (decodeUtf16Le : Bool) (registered : ℕ → Bool) (d : InboundDatagram)

/-- The longest printable run of a text message. -/
def extractedText : Bytes :=
  if decodeUtf16Le = true ∧ d.channel = .tms then extractText d.data else []

/-- The members of a datagram that could be parsed. -/
def parsedMembers (parsed : ParsedDatagram) : List (String × Bytes) :=
  [("application", jsonText (ascii parsed.application.toList)),
    ("sourceRid", decimal parsed.sourceRid),
    ("targetRid", decimal parsed.targetRid),
    ("broadcast", jsonBool parsed.broadcast),
    ("localDeliveryCandidate", jsonBool (registered parsed.targetRid))] ++
    if parsed.text ≠ [] then [("parsedText", jsonText parsed.text)]
    else if parsed.textFragment ≠ [] then [("parsedTextFragment", jsonText parsed.textFragment)]
    else []

/-- The members of the document, in their order. -/
def inboundMembers : List (String × Bytes) :=
  let text := extractedText decodeUtf16Le d
  let parsed := parseMotorolaPacket d.channel d.data
  [("direction", jsonText (ascii "inbound".toList)),
    ("channel", jsonText (ascii d.channel.name.toList)),
    ("timestampMs", decimal d.nowMs),
    ("source", jsonText (sockaddrToString d.sender)),
    ("length", decimal d.data.length),
    ("hexPayload", ascii ['"'] ++ bytesToHex d.data ++ ascii ['"'])] ++
    (parsed.elim [] (parsedMembers registered) ++ if text ≠ [] then [("text", jsonText text)] else [])

/-- The document of a datagram. -/
def buildInboundJson : Bytes := objectBytes (inboundMembers decodeUtf16Le registered d)

end Document

/-- The name of a document: its channel, the time and a counter. -/
def makeEventStem (channel : Channel) (nowMs eventCounter : ℕ) : Bytes :=
  ascii channel.name.toList ++ 0x2D :: (decimal nowMs ++ 0x2D :: padded 6 (eventCounter % 1000000))

/-- The radios that were heard, and the number of documents. -/
structure Receiver where
  registeredSubscribers : List ℕ
  eventCounter : ℕ

/-- What the file system does with a document. -/
structure PublishOutcome where
  opened : Bool
  written : Bool
  renamed : Bool

/-- A file of the inbox. -/
structure InboxDocument where
  name : Bytes
  content : Bytes

/-- A datagram is put into the inbox. The sender is registered before the document is written. -/
def handleIncomingPacket (decodeUtf16Le : Bool) (s : Receiver) (d : InboundDatagram)
    (o : PublishOutcome) : Receiver × List InboxDocument :=
  let registered := (parseMotorolaPacket d.channel d.data).elim s.registeredSubscribers
    fun parsed => parsed.sourceRid :: s.registeredSubscribers
  let document : InboxDocument := ⟨makeEventStem d.channel d.nowMs s.eventCounter ++
    ascii ".json".toList, buildInboundJson decodeUtf16Le (fun rid => decide (rid ∈ registered)) d⟩
  (⟨registered, s.eventCounter + 1⟩,
    if o.opened ∧ o.written ∧ o.renamed then [document] else [])

/-! ## Documents that are read back -/

/-- Bytes that are the UTF-8 of a text without a carriage return. -/
structure Renders (bytes : Bytes) (text : List Char) : Prop where
  reads : Lib.Reads bytes (text.map some)
  noReturn : ∀ c ∈ text, c ≠ '\r'

theorem Renders.append {a b : Bytes} {s t : List Char} (ha : Renders a s) (hb : Renders b t) :
    Renders (a ++ b) (s ++ t) where
  reads := by
    refine ⟨whole_append ha.reads.1 hb.reads.1, ?_⟩
    rw [decodeItems_append ha.reads.1, ha.reads.2, hb.reads.2, List.map_append]
  noReturn := List.forall_mem_append.mpr ⟨ha.noReturn, hb.noReturn⟩

theorem renders_isAscii {bytes : Bytes} (h : IsAscii bytes) : Renders bytes (latin bytes) :=
  ⟨P25.reads_isAscii h, P25.latin_no_return h⟩

theorem isAscii_ascii {text : List Char} (h : ∀ c ∈ text, c.toNat < 0x80 ∧ c ≠ '\r') :
    IsAscii (ascii text) := by
  intro b hb
  obtain ⟨c, hc, rfl⟩ := List.mem_map.mp hb
  obtain ⟨hlt, hne⟩ := h c hc
  have hvalue := P25.toNat_ofNat_of_lt hlt
  refine ⟨by omega, fun he => hne (Char.toNat_inj.mp ?_)⟩
  rw [← hvalue, he]
  rfl

theorem renders_ascii (text : List Char) (h : ∀ c ∈ text, c.toNat < 0x80 ∧ c ≠ '\r') :
    Renders (ascii text) text := by
  have hlatin : latin (ascii text) = text := by
    rw [latin, ascii, List.map_map]
    conv_rhs => rw [← List.map_id text]
    refine List.map_congr_left fun c hc => ?_
    show Char.ofNat (UInt8.ofNat c.toNat).toNat = c
    rw [P25.toNat_ofNat_of_lt (h c hc).1, Char.ofNat_toNat]
  have hrenders := renders_isAscii (isAscii_ascii h)
  rwa [hlatin] at hrenders

theorem renders_jsonEscape {text : List Char} (h : ∀ c ∈ text, ¬ Astral c) :
    Renders (jsonEscape (hostBytes text)) (text.flatMap escapeChar) where
  reads := ⟨P25.whole_jsonEscape text, P25.decodeItems_jsonEscape h⟩
  noReturn c hc := by
    obtain ⟨a, -, hc⟩ := List.mem_flatMap.mp hc
    exact P25.escapeChar_no_return a c hc

section Object

variable {F : Type}

/-- A member with its value. -/
structure JsonField (F : Type) where
  name : String
  bytes : Bytes
  value : JsonValue F

/-- A name that stands for itself. -/
def PlainName (name : String) : Prop :=
  ∀ c ∈ name.toList, (c.toNat < 0x80 ∧ c ≠ '\r') ∧ StandsForItself c

instance (name : String) : Decidable (PlainName name) := inferInstanceAs (Decidable (∀ _ ∈ _, _))

/-- The value is read from the bytes. -/
def Writes (float : List Char → F) (bytes : Bytes) (value : JsonValue F) : Prop :=
  ∃ text, Renders bytes text ∧ ReadsValue float text value

/-- The member of an object, as its bytes. -/
def JsonField.member (f : JsonField F) : String × Bytes := (f.name, f.bytes)

/-- The member of an object, as its value. -/
def JsonField.entry (f : JsonField F) : Str × JsonValue F := (codes f.name.toList, f.value)

variable {float : List Char → F}

theorem writes_decimal {n : ℕ} (h : (decimalDigits n).length ≤ 4300) :
    Writes float (decimal n) (.int n) := by
  have hrenders := renders_isAscii (P25.isAscii_decimal n)
  rw [P25.latin_decimal] at hrenders
  exact ⟨_, hrenders, readsValue_decimal h⟩

theorem writes_bool (b : Bool) : Writes float (jsonBool b) (.bool b) := by
  refine ⟨_, renders_ascii _ ?_, readsValue_bool b⟩
  cases b <;> decide

theorem writes_plain {bytes : Bytes} (hascii : IsAscii bytes)
    (h : ∀ b ∈ bytes, StandsForItself (Char.ofNat b.toNat)) :
    Writes float (ascii ['"'] ++ bytes ++ ascii ['"']) (.str (codes (latin bytes))) := by
  have hquote : Renders (ascii ['"']) ['"'] := renders_ascii _ (by decide)
  have hrenders := (hquote.append (renders_isAscii hascii)).append hquote
  refine ⟨_, hrenders, readsValue_string (readsString_plain fun c hc => ?_) P25.code_not_surrogate⟩
  obtain ⟨b, hb, rfl⟩ := List.mem_map.mp hc
  exact h b hb

theorem writes_jsonText {text : List Char} (h : ∀ c ∈ text, ¬ Astral c) :
    Writes float (jsonText (hostBytes text)) (.str (codes text)) := by
  have hquote : Renders (ascii ['"']) ['"'] := renders_ascii _ (by decide)
  refine ⟨_, (hquote.append (renders_jsonEscape h)).append hquote, readsValue_string ?_
    P25.code_not_surrogate⟩
  have hread := readsString_flatMap (l := text) fun c _ => P25.readsString_escapeChar c
  rwa [← List.map_eq_flatMap] at hread

/-- A field of a document. -/
def JsonField.Good (float : List Char → F) (f : JsonField F) : Prop :=
  PlainName f.name ∧ Writes float f.bytes f.value

theorem good_mk {name : String} {bytes : Bytes} {value : JsonValue F} (h : PlainName name)
    (hwrites : Writes float bytes value) : JsonField.Good float ⟨name, bytes, value⟩ :=
  ⟨h, hwrites⟩

/-- The lines of the members as characters, which are read as their entries. -/
theorem renders_memberLines {fields : List (JsonField F)} (h : ∀ f ∈ fields, f.Good float) :
    ∃ members, Renders (memberLines (fields.map JsonField.member)) (membersText members) ∧
      List.Forall₂ (ReadsMember float) members (fields.map JsonField.entry) := by
  induction fields with
  | nil => exact ⟨[], renders_ascii [] (by decide), .nil⟩
  | cons f fields ih =>
    obtain ⟨⟨hname, value, hvalue, hreads⟩, hfields⟩ := List.forall_mem_cons.mp h
    obtain ⟨members, hlines, hmembers⟩ := ih hfields
    refine ⟨⟨f.name.toList, value⟩ :: members, ?_,
      .cons ⟨fun c hc => (hname c hc).2, rfl, hreads⟩ hmembers⟩
    have hline : Renders (memberLine f.member) ("  \"".toList ++ f.name.toList ++ "\": ".toList ++
        value) :=
      (((renders_ascii "  \"".toList (by decide)).append
        (renders_ascii _ fun c hc => (hname c hc).1)).append
        (renders_ascii "\": ".toList (by decide))).append hvalue
    have hlength := hmembers.length_eq
    rw [List.map_cons, memberLines, membersText]
    refine hline.append ?_
    cases members with
    | nil =>
      rw [List.length_nil, List.length_map] at hlength
      rw [List.length_eq_zero_iff.mp hlength.symm]
      exact renders_ascii _ (by decide)
    | cons m members =>
      cases fields with
      | nil => cases hlength
      | cons f' fields =>
        rw [List.map_cons]
        exact (renders_ascii [',', '\n'] (by decide)).append hlines

theorem renders_objectBytes {fields : List (JsonField F)} (h : ∀ f ∈ fields, f.Good float) :
    ∃ members, Renders (objectBytes (fields.map JsonField.member)) (objectText members) ∧
      List.Forall₂ (ReadsMember float) members (fields.map JsonField.entry) := by
  obtain ⟨members, hlines, hmembers⟩ := renders_memberLines h
  exact ⟨members, ((renders_ascii ['\x7b', '\n'] (by decide)).append hlines).append
    (renders_ascii ['\x7d', '\n'] (by decide)), hmembers⟩

theorem get?_entries {fields : List (JsonField F)} (h : (fields.map JsonField.name).Nodup) (key : String) :
    Event.get? (fields.map JsonField.entry) key =
      (fields.find? fun f => f.name = key).map JsonField.value := by
  unfold Event.get?
  induction fields with
  | nil => rfl
  | cons f fields ih =>
    rw [List.map_cons, List.nodup_cons] at h
    have ih := ih h.2
    rw [List.map_cons, List.reverse_cons, List.find?_append, List.find?_cons]
    by_cases hf : f.name = key
    · have hrest : (fields.map JsonField.entry).reverse.find? (fun m => m.1 = codes key.toList) = none := by
        rw [List.find?_eq_none]
        intro m hm
        obtain ⟨f', hf', rfl⟩ := List.mem_map.mp (List.mem_reverse.mp hm)
        rw [decide_eq_true_eq]
        intro he
        have hname : f'.name = f.name := (String.toList_injective (codes_inj.mp he)).trans hf.symm
        exact h.1 (hname ▸ List.mem_map_of_mem hf')
      have hself : JsonField.entry f = (codes key.toList, f.value) := by rw [← hf]; rfl
      rw [hrest, Option.none_or]
      simp [hself, hf]
    · have hother : (JsonField.entry f).1 ≠ codes key.toList := fun he =>
        hf (String.toList_injective (codes_inj.mp he))
      rw [List.find?_cons_of_neg (by simpa using hf), ← ih]
      simp [hother]

theorem get?_set_of_ne {event : Event F} {key other : String} (h : key ≠ other)
    (value : JsonValue F) : (event.set key value).get? other = event.get? other := by
  have hne : codes key.toList ≠ codes other.toList := fun he =>
    h (String.toList_injective (codes_inj.mp he))
  unfold Event.get? Event.set
  rw [List.reverse_append]
  simp [hne]

/-- **A document that is printed one member a line** is read back. -/
theorem normalizeEvent_objectBytes (floats : Floats F) {fields : List (JsonField F)}
    (h : ∀ f ∈ fields, f.Good floats.ofText) (hne : fields ≠ [])
    (hnames : (fields.map JsonField.name).Nodup) (path stem : Str) :
    ∃ event, normalizeEvent floats path stem (objectBytes (fields.map JsonField.member)) = some event ∧
      ∀ key, key ≠ "path" → key ≠ "sessionId" →
        event.get? key = (fields.find? fun f => f.name = key).map JsonField.value := by
  obtain ⟨members, hrenders, hmembers⟩ := renders_objectBytes h
  have hloads := jsonLoads_text hmembers (by
    rintro rfl
    exact hne (List.map_eq_nil_iff.mp (List.forall₂_nil_left_iff.mp hmembers)))
  have hnewlines := universalNewlines_append hrenders.noReturn []
  rw [List.append_nil, universalNewlines, List.append_nil] at hnewlines
  unfold normalizeEvent
  rw [decodeUtf8_of_items hrenders.reads.2, Option.bind_some, hnewlines, hloads]
  refine ⟨_, rfl, fun key hpath hsession => ?_⟩
  rw [get?_set_of_ne hsession.symm, get?_set_of_ne hpath.symm, get?_entries hnames]

end Object

end Sms
