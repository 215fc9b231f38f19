import QuantarBridge.Sms.ParsedTexts

/-!
# The documents of the datagrams

The message bridge takes the documents in the order of their names, which is the order in which the
datagrams of a socket were received.

* `inboundFields_good`, `describes_inbound`: **what the message bridge reads** of a datagram;
* `publishedBy`, `names_grow`: the documents of a run in their order;
* `datagrams_collected`: **the datagrams reach the collector** of the message bridge.
-/

set_option autoImplicit false

namespace Sms

open Lib PacketData
open Dashboard (Str codes)
open Brew.EventFile (Numbers Floats Event normalizeEvent codes_inj Describes)
open P25 (Astral hostBytes latin IsAscii)

/-! ## What the message bridge reads -/

/-- The characters of a text. -/
def charactersOf (bytes : Bytes) : List Char := (decodeUtf8 bytes).getD []

theorem charactersOf_hostBytes {text : List Char} (h : ∀ c ∈ text, ¬ Astral c) :
    charactersOf (hostBytes text) = text := by
  rw [P25.hostBytes_of_plain h, charactersOf]
  exact congrArg (fun o => Option.getD o []) (decodeUtf8_encode text)

section Fields

variable {F : Type} {float : List Char → F}

theorem writes_text {bytes : Bytes} (h : IsText bytes) :
    Writes float (jsonText bytes) (.str (codes (charactersOf bytes))) := by
  obtain ⟨text, hplain, rfl⟩ := h
  rw [charactersOf_hostBytes hplain]
  exact writes_jsonText hplain

theorem writes_literal {text : List Char} (h : ∀ c ∈ text, c.toNat < 0x80) :
    Writes float (jsonText (ascii text)) (.str (codes text)) := by
  have hhost : ascii text = hostBytes text := by
    induction text with
    | nil => rfl
    | cons c text ih =>
      obtain ⟨hc, htext⟩ := List.forall_mem_cons.mp h
      have hlt : c.toNat < 0x10000 := by omega
      have hone : hostBytes [c] = [UInt8.ofNat c.toNat] := by
        simp [hostBytes, encodeUtf16, utf16Units, hlt, P25.appendUtf8, utf8, hc]
      rw [P25.hostBytes_cons, hone, ← ih htext]
      rfl
  rw [hhost]
  exact writes_jsonText fun c hc => by
    have := h c hc
    unfold Astral
    omega

theorem isText_sockaddrToString (sender : Sender) : IsText (sockaddrToString sender) := by
  have hdecimal (n : ℕ) : ∀ b ∈ decimal n, b.toNat < 0x80 := fun b hb => (P25.isAscii_decimal n b hb).1
  have hport (port : ℕ) : ∀ b ∈ sockaddrToString.portText port, b.toNat < 0x80 := by
    unfold sockaddrToString.portText
    split_ifs
    · exact List.forall_mem_cons.mpr ⟨by decide, hdecimal port⟩
    · exact fun b hb => absurd hb List.not_mem_nil
  refine isText_ascii ?_
  cases sender with
  | unknown =>
    have hplain : ∀ c ∈ "unknown".toList, c.toNat < 0x80 ∧ c ≠ '\r' := by decide
    exact fun b hb => (isAscii_ascii hplain b hb).1
  | ipv4 address port =>
    refine List.forall_mem_append.mpr ⟨?_, hport port⟩
    simp only [addressToString, List.forall_mem_append, List.forall_mem_cons]
    have hdot : (0x2E : UInt8).toNat < 0x80 := by decide
    exact ⟨hdecimal _, hdot, hdecimal _, hdot, hdecimal _, hdot, hdecimal _⟩
  | ipv6 host hascii port =>
    exact List.forall_mem_append.mpr ⟨fun b hb => (isAscii_ascii hascii b hb).1, hport port⟩

theorem bytesToHex_spec (data : Bytes) : IsAscii (bytesToHex data) ∧
    (∀ b ∈ bytesToHex data, StandsForItself (Char.ofNat b.toNat)) ∧
      hexToBytes (bytesToHex data) = some data := by
  have hdigit : ∀ n : Fin 16, (bytesToHex.hexDigit n).toNat < 0x80 ∧ bytesToHex.hexDigit n ≠ 0x0D ∧
      StandsForItself (Char.ofNat (bytesToHex.hexDigit n).toNat) ∧
      isBlank (bytesToHex.hexDigit n) = false ∧ nibble (bytesToHex.hexDigit n) = some n.val := by
    decide
  have hbyte (b : UInt8) := And.intro (hdigit ⟨b.toNat / 16, by have := b.toNat_lt; omega⟩)
    (hdigit ⟨b.toNat % 16, by omega⟩)
  induction data with
  | nil => exact ⟨fun b hb => absurd hb List.not_mem_nil, fun b hb => absurd hb List.not_mem_nil, rfl⟩
  | cons a data ih =>
    obtain ⟨hascii, hself, hback⟩ := ih
    obtain ⟨hhigh, hlow⟩ := hbyte a
    have hcons : bytesToHex (a :: data) = bytesToHex.hexDigit (a.toNat / 16) ::
        bytesToHex.hexDigit (a.toNat % 16) :: bytesToHex data := rfl
    rw [hcons]
    refine ⟨List.forall_mem_cons.mpr ⟨⟨hhigh.1, hhigh.2.1⟩, List.forall_mem_cons.mpr
      ⟨⟨hlow.1, hlow.2.1⟩, hascii⟩⟩, List.forall_mem_cons.mpr ⟨hhigh.2.2.1,
        List.forall_mem_cons.mpr ⟨hlow.2.2.1, hself⟩⟩, ?_⟩
    unfold hexToBytes at hback ⊢
    rw [List.filter_cons_of_pos (by simp [hhigh.2.2.2.1]),
      List.filter_cons_of_pos (by simp [hlow.2.2.2.1]), hexPairs, hhigh.2.2.2.2, hlow.2.2.2.2, hback]
    have hvalue : a.toNat / 16 * 16 + a.toNat % 16 = a.toNat := Nat.div_add_mod' _ _
    simp only [Option.bind_eq_bind, Option.bind_some, hvalue, UInt8.ofNat_toNat]
    rfl

variable (decodeUtf16Le : Bool) (registered : ℕ → Bool) (d : InboundDatagram)

/-- What the parser adds to a document. -/
def parsedFields (parsed : ParsedDatagram) : List (JsonField F) :=
  [⟨"application", jsonText (ascii parsed.application.toList),
      .str (codes parsed.application.toList)⟩,
    ⟨"sourceRid", decimal parsed.sourceRid, .int parsed.sourceRid⟩,
    ⟨"targetRid", decimal parsed.targetRid, .int parsed.targetRid⟩,
    ⟨"broadcast", jsonBool parsed.broadcast, .bool parsed.broadcast⟩,
    ⟨"localDeliveryCandidate", jsonBool (registered parsed.targetRid),
      .bool (registered parsed.targetRid)⟩] ++
    if parsed.text ≠ [] then
      [⟨"parsedText", jsonText parsed.text, .str (codes (charactersOf parsed.text))⟩]
    else if parsed.textFragment ≠ [] then
      [⟨"parsedTextFragment", jsonText parsed.textFragment, .str (codes (charactersOf parsed.textFragment))⟩]
    else []

/-- The members of the document with their values. -/
def inboundFields : List (JsonField F) :=
  let text := extractedText decodeUtf16Le d
  let parsed := parseMotorolaPacket d.channel d.data
  [⟨"direction", jsonText (ascii "inbound".toList), .str (codes "inbound".toList)⟩,
    ⟨"channel", jsonText (ascii d.channel.name.toList), .str (codes d.channel.name.toList)⟩,
    ⟨"timestampMs", decimal d.nowMs, .int d.nowMs⟩,
    ⟨"source", jsonText (sockaddrToString d.sender), .str (codes (charactersOf (sockaddrToString d.sender)))⟩,
    ⟨"length", decimal d.data.length, .int d.data.length⟩,
    ⟨"hexPayload", ascii ['"'] ++ bytesToHex d.data ++ ascii ['"'],
      .str (codes (latin (bytesToHex d.data)))⟩] ++
    (parsed.elim [] (parsedFields registered) ++
      if text ≠ [] then [⟨"text", jsonText text, .str (codes (charactersOf text))⟩] else [])

theorem parsedFields_member (parsed : ParsedDatagram) :
    (parsedFields (F := F) registered parsed).map JsonField.member = parsedMembers registered parsed := by
  unfold parsedFields parsedMembers
  split_ifs <;> rfl

theorem inboundFields_member :
    (inboundFields (F := F) decodeUtf16Le registered d).map JsonField.member =
      inboundMembers decodeUtf16Le registered d := by
  unfold inboundFields inboundMembers
  dsimp only
  rw [List.map_append, List.map_append]
  refine congrArg₂ _ rfl (congrArg₂ _ ?_ ?_)
  · cases parseMotorolaPacket d.channel d.data with
    | none => rfl
    | some parsed => exact parsedFields_member registered parsed
  · split_ifs <;> rfl

theorem parsedFields_good {parsed : ParsedDatagram} (h : parsed.Sound) :
    ∀ f ∈ parsedFields registered parsed, f.Good float := by
  have hrid {n : ℕ} (hn : n < 10 ^ 7) : Writes float (decimal n) (.int n) :=
    writes_decimal ((length_decimalDigits_le (by decide) hn).trans (by decide))
  unfold parsedFields
  refine List.forall_mem_append.mpr ⟨?_, ?_⟩
  · simp only [List.forall_mem_cons]
    exact ⟨good_mk (by decide) (writes_literal fun c hc => (h.application c hc).1.1),
      good_mk (by decide) (hrid h.sourceRid), good_mk (by decide) (hrid h.targetRid),
      good_mk (by decide) (writes_bool _),
      good_mk (by decide) (writes_bool _), fun f hf => absurd hf List.not_mem_nil⟩
  · split_ifs
    · rw [List.forall_mem_singleton]
      exact good_mk (by decide) (writes_text h.text)
    · rw [List.forall_mem_singleton]
      exact good_mk (by decide) (writes_text h.textFragment)
    · exact fun f hf => absurd hf List.not_mem_nil

theorem isText_extractedText : IsText (extractedText decodeUtf16Le d) := by
  unfold extractedText
  split_ifs
  · exact isText_extractText d.data
  · exact isText_nil

/-- **Every member is read back.** -/
theorem inboundFields_good : ∀ f ∈ inboundFields decodeUtf16Le registered d, f.Good float := by
  obtain ⟨hascii, hself, -⟩ := bytesToHex_spec d.data
  have hshort := d.short
  have htimely := d.timely
  have hnumber {n : ℕ} (hn : n < 10 ^ 20) : Writes float (decimal n) (.int n) :=
    writes_decimal ((length_decimalDigits_le (by decide) hn).trans (by decide))
  unfold inboundFields
  refine List.forall_mem_append.mpr ⟨?_, List.forall_mem_append.mpr ⟨?_, ?_⟩⟩
  · have hchannel : ∀ c ∈ d.channel.name.toList, c.toNat < 0x80 := by
      cases d.channel <;> decide
    simp only [List.forall_mem_cons]
    exact ⟨good_mk (by decide) (writes_literal (by decide)), good_mk (by decide) (writes_literal hchannel),
      good_mk (by decide) (hnumber (by omega)),
      good_mk (by decide) (writes_text (isText_sockaddrToString d.sender)),
      good_mk (by decide) (hnumber (by omega)), good_mk (by decide) (writes_plain hascii hself),
      fun f hf => absurd hf List.not_mem_nil⟩
  · cases hparsed : parseMotorolaPacket d.channel d.data with
    | none => exact fun f hf => absurd hf List.not_mem_nil
    | some parsed => exact parsedFields_good registered (sound_parse hparsed)
  · split_ifs
    · rw [List.forall_mem_singleton]
      exact good_mk (by decide) (writes_text (isText_extractedText decodeUtf16Le d))
    · exact fun f hf => absurd hf List.not_mem_nil

/-- The names of all members. -/
def memberNames : List String :=
  ["direction", "channel", "timestampMs", "source", "length", "hexPayload", "application", "sourceRid",
    "targetRid", "broadcast", "localDeliveryCandidate", "parsedText", "parsedTextFragment", "text"]

theorem nodup_memberNames : memberNames.Nodup := by decide

theorem inboundFields_names :
    ((inboundFields (F := F) decodeUtf16Le registered d).map JsonField.name).Sublist memberNames := by
  have hparsed (parsed : ParsedDatagram) :
      ((parsedFields (F := F) registered parsed).map JsonField.name).Sublist ["application", "sourceRid",
        "targetRid", "broadcast", "localDeliveryCandidate", "parsedText", "parsedTextFragment"] := by
    unfold parsedFields
    split_ifs <;> simp
  unfold inboundFields
  dsimp only
  rw [List.map_append, List.map_append]
  show List.Sublist _ (memberNames.take 6 ++ ((memberNames.drop 6).take 7 ++ ["text"]))
  refine List.Sublist.append (List.Sublist.refl _) (List.Sublist.append ?_ ?_)
  · cases parseMotorolaPacket d.channel d.data with
    | none => exact List.nil_sublist _
    | some parsed => exact hparsed parsed
  · split_ifs <;> simp

end Fields

/-- What a datagram is taken for. -/
def applicationOf : Channel → Brew.Application
  | .ars => .motorola_ars
  | .tms => .motorola_tms

section Event

variable (decodeUtf16Le : Bool) (registered : ℕ → Bool) (d : InboundDatagram)

/-- The texts of a document: that of the parser, and the longest printable run. -/
def documentTexts : List (List Char) :=
  let text := extractedText decodeUtf16Le d
  ((parseMotorolaPacket d.channel d.data).elim [] fun parsed =>
    if parsed.text ≠ [] then [charactersOf parsed.text]
    else if parsed.textFragment ≠ [] then [charactersOf parsed.textFragment]
    else []) ++ if text ≠ [] then [charactersOf text] else []

/-- The event of a datagram. -/
def inboxEvent (name : String) : Brew.InboxEvent where
  name := name
  application := (parseMotorolaPacket d.channel d.data).elim .other fun _ => applicationOf d.channel
  sourceRid := (parseMotorolaPacket d.channel d.data).elim 0 ParsedDatagram.sourceRid
  targetRid := (parseMotorolaPacket d.channel d.data).elim 0 ParsedDatagram.targetRid
  texts := documentTexts decodeUtf16Le d
  rawIpPacket := false
  localDeliveryCandidate :=
    (parseMotorolaPacket d.channel d.data).elim false fun parsed => registered parsed.targetRid

theorem application_parse {channel : Channel} {data : Bytes} {p : ParsedDatagram}
    (h : parseMotorolaPacket channel data = some p) :
    p.application = Brew.EventFile.applicationName (applicationOf channel) := by
  cases channel with
  | ars =>
    change parseMotorolaArs data = some p at h
    unfold parseMotorolaArs at h
    split_ifs at h
    split at h
    · cases h
      rfl
    · cases h
  | tms =>
    obtain ⟨parsed, -, rfl⟩ := Option.map_eq_some_iff.mp h
    rfl

variable {F : Type} {numbers : Numbers F} {event : Event F}

/-- The document has these members, and no others. -/
def HasFields (event : Event F) (fields : List (JsonField F)) : Prop :=
  ∀ key, key ≠ "path" → key ≠ "sessionId" →
    event.get? key = (fields.find? fun f => f.name = key).map JsonField.value

variable {decodeUtf16Le registered d}

theorem get?_parsed (h : HasFields event (inboundFields decodeUtf16Le registered d)) (key : String)
    (hkey : key ∉ memberNames.take 6) (htext : key ≠ "text") (hpath : key ≠ "path")
    (hsession : key ≠ "sessionId") : event.get? key =
      (((parseMotorolaPacket d.channel d.data).elim [] (parsedFields registered)).find?
        fun f => f.name = key).map JsonField.value := by
  have hhead (fields rest : List (JsonField F)) (hf : key ∉ fields.map JsonField.name) :
      (fields ++ rest).find? (fun f => f.name = key) = rest.find? fun f => f.name = key := by
    have hnone : fields.find? (fun f => f.name = key) = none := by
      rw [List.find?_eq_none]
      intro f hmem he
      exact hf (of_decide_eq_true he ▸ List.mem_map_of_mem hmem)
    rw [List.find?_append, hnone, Option.none_or]
  rw [h key hpath hsession, inboundFields, hhead _ _ (by exact hkey), List.find?_append]
  have hlast : (if extractedText decodeUtf16Le d ≠ [] then
      [(⟨"text", jsonText (extractedText decodeUtf16Le d),
        .str (codes (charactersOf (extractedText decodeUtf16Le d)))⟩ : JsonField F)] else []).find?
          (fun f => f.name = key) = none := by
    split_ifs <;> simp [htext.symm]
  rw [hlast, Option.or_none]

theorem isApplication_iff (h : HasFields event (inboundFields decodeUtf16Le registered d))
    {a : Brew.Application} (ha : a ≠ .other) :
    Brew.EventFile.isApplication event a = true ↔
      (parseMotorolaPacket d.channel d.data).elim Brew.Application.other
        (fun _ => applicationOf d.channel) = a := by
  have hname : ∀ a b : Brew.Application, b ≠ .other →
      ((Brew.EventFile.applicationName a).toList = (Brew.EventFile.applicationName b).toList ↔
        a = b) := by
    intro a b
    cases a <;> cases b <;> decide
  unfold Brew.EventFile.isApplication
  rw [get?_parsed h _ (by decide) (by decide) (by decide) (by decide)]
  cases hparsed : parseMotorolaPacket d.channel d.data with
  | none => exact iff_of_false Bool.false_ne_true (Ne.symm ha)
  | some parsed =>
    have hsome : (((some parsed).elim [] (parsedFields (F := F) registered)).find?
        (fun f => f.name = "application")).map JsonField.value =
          some (.str (codes parsed.application.toList)) := by
      simp [parsedFields]
    rw [hsome, application_parse hparsed]
    dsimp only
    rw [decide_eq_true_iff, codes_inj, hname _ _ ha]
    rfl

theorem textsOf_inbound (h : HasFields event (inboundFields decodeUtf16Le registered d)) :
    Brew.EventFile.textsOf event = (documentTexts decodeUtf16Le d).map codes := by
  have hparsedText := get?_parsed h "parsedText" (by decide) (by decide) (by decide) (by decide)
  have hfragment := get?_parsed h "parsedTextFragment" (by decide) (by decide) (by decide)
    (by decide)
  have htext := h "text" (by decide) (by decide)
  unfold Brew.EventFile.textsOf
  simp only [List.filterMap_cons, List.filterMap_nil]
  rw [hparsedText, hfragment, htext]
  unfold documentTexts inboundFields
  cases parseMotorolaPacket d.channel d.data with
  | none =>
    by_cases hempty : extractedText decodeUtf16Le d = [] <;> simp [hempty]
  | some parsed =>
    by_cases hempty : extractedText decodeUtf16Le d = [] <;>
      by_cases hp : parsed.text = [] <;> by_cases hf : parsed.textFragment = [] <;>
        simp [parsedFields, hempty, hp, hf]

theorem eventRids_inbound (h : HasFields event (inboundFields decodeUtf16Le registered d))
    {parsed : ParsedDatagram} (hparsed : parseMotorolaPacket d.channel d.data = some parsed) :
    Brew.EventFile.eventRids numbers event =
      some ((parsed.sourceRid : ℤ), (parsed.targetRid : ℤ)) := by
  unfold Brew.EventFile.eventRids
  rw [get?_parsed h _ (by decide) (by decide) (by decide) (by decide),
    get?_parsed h _ (by decide) (by decide) (by decide) (by decide), hparsed]
  simp [parsedFields, Brew.EventFile.toInt]

theorem rawIpPacketHex_inbound (h : HasFields event (inboundFields decodeUtf16Le registered d)) :
    Brew.EventFile.rawIpPacketHex numbers event = none := by
  have hnone (key : String) (hkey : key ∉ memberNames) (hpath : key ≠ "path")
      (hsession : key ≠ "sessionId") : event.get? key = none := by
    rw [h key hpath hsession, Option.map_eq_none_iff, List.find?_eq_none]
    intro f hf he
    exact hkey (of_decide_eq_true he ▸ (inboundFields_names decodeUtf16Le registered d).subset
      (List.mem_map_of_mem hf))
  unfold Brew.EventFile.rawIpPacketHex
  rw [hnone "rawIpPacketHex" (by decide) (by decide) (by decide),
    hnone "hexIpPacket" (by decide) (by decide) (by decide)]
  rfl

/-- **The document of a datagram** is about its event. -/
theorem describes_inbound (h : HasFields event (inboundFields decodeUtf16Le registered d))
    (name : String) : Describes numbers event (inboxEvent decodeUtf16Le registered d name) where
  application a ha := isApplication_iff h ha
  texts _ := textsOf_inbound h
  rids htms := by
    cases hparsed : parseMotorolaPacket d.channel d.data with
    | none =>
      rw [inboxEvent, hparsed] at htms
      cases htms
    | some parsed =>
      rw [eventRids_inbound h hparsed, inboxEvent, hparsed]
      rfl
  candidate htms := by
    cases hparsed : parseMotorolaPacket d.channel d.data with
    | none =>
      rw [inboxEvent, hparsed] at htms
      cases htms
    | some parsed =>
      unfold Brew.EventFile.localCandidate
      rw [get?_parsed h _ (by decide) (by decide) (by decide) (by decide), hparsed]
      simp [inboxEvent, hparsed, parsedFields, Brew.EventFile.truth]

variable (decodeUtf16Le registered d)

theorem hasFields_inbound (floats : Floats F) (path stem : Str) :
    ∃ event, normalizeEvent floats path stem (buildInboundJson decodeUtf16Le registered d) =
        some event ∧ HasFields event (inboundFields decodeUtf16Le registered d) := by
  rw [buildInboundJson, ← inboundFields_member (F := F)]
  exact normalizeEvent_objectBytes floats (inboundFields_good decodeUtf16Le registered d)
    (List.cons_ne_nil _ _)
    (nodup_memberNames.sublist (inboundFields_names decodeUtf16Le registered d)) path stem

theorem stem_file {stem : Bytes} (h : stem ≠ []) (content : Bytes) :
    (⟨Bytes.nats (stem ++ ascii ".json".toList), content⟩ : Brew.EventFile.InboxFile).stem =
      Bytes.nats stem := by
  have hsuffix : (Bytes.nats (ascii ".json".toList)).length = 5 := by decide
  have hlength : (Bytes.nats stem).length ≠ 0 := by
    rw [Bytes.nats, List.length_map]
    exact fun h0 => h (List.length_eq_zero_iff.mp h0)
  unfold Brew.EventFile.InboxFile.stem
  dsimp only
  rw [Bytes.nats_append, List.length_append, hsuffix, if_pos (by omega), Nat.add_sub_cancel,
    List.take_left]

theorem codes_latin (bytes : Bytes) : codes (latin bytes) = Bytes.nats bytes := by
  rw [codes, latin, List.map_map]
  refine List.map_congr_left fun b _ => ?_
  have := b.toNat_lt
  rw [Function.comp_apply, Char.ofNat, dif_pos (by unfold Nat.isValidChar; omega)]
  rfl

/-- **The file of a datagram** is its event to the collector. -/
theorem readsAs_inbound {stem : Bytes} (hstem : stem ≠ []) (directory : Str) :
    Brew.EventFile.ReadsAs numbers directory
      ⟨Bytes.nats (stem ++ ascii ".json".toList), buildInboundJson decodeUtf16Le registered d⟩
      (some (inboxEvent decodeUtf16Le registered d (String.ofList (latin stem)))) := by
  obtain ⟨event, hread, hfields⟩ := hasFields_inbound decodeUtf16Le registered d numbers.toFloats
    (directory ++ codes ['/'] ++ Bytes.nats (stem ++ ascii ".json".toList)) (Bytes.nats stem)
  refine ⟨?_, event, ?_, describes_inbound hfields _⟩
  · rw [stem_file hstem, inboxEvent, String.toList_ofList, codes_latin]
  · rw [stem_file hstem]
    exact hread

/-- **It is never rejected**, as long as files can be written and moved. -/
theorem moves_inbound {stem : Bytes} (hstem : stem ≠ []) (directory : Str)
    (pendingTexts : Brew.EventFile.PendingTexts) (now : Time) (o : Brew.EventFile.FileOutcome) :
    ∃ fate, (Brew.EventFile.processEvent numbers directory pendingTexts
      ⟨Bytes.nats (stem ++ ascii ".json".toList), buildInboundJson decodeUtf16Le registered d⟩ now o).2 =
        Brew.EventFile.moveFile o (Bytes.nats (stem ++ ascii ".json".toList)) fate := by
  obtain ⟨event, hread, hfields⟩ := hasFields_inbound decodeUtf16Le registered d numbers.toFloats
    (directory ++ codes ['/'] ++ Bytes.nats (stem ++ ascii ".json".toList)) (Bytes.nats stem)
  rw [← stem_file hstem (buildInboundJson decodeUtf16Le registered d)] at hread
  refine Brew.EventFile.processEvent_moves hread (rawIpPacketHex_inbound hfields) fun happlication => ?_
  cases hparsed : parseMotorolaPacket d.channel d.data with
  | none =>
    rw [isApplication_iff hfields (by decide), isApplication_iff hfields (by decide),
      hparsed] at happlication
    rcases happlication with h | h <;> cases h
  | some parsed =>
    rw [eventRids_inbound hfields hparsed]
    rfl

end Event

/-! ## A run of datagrams -/

/-- A datagram with what becomes of its document. -/
structure Receipt where
  datagram : InboundDatagram
  outcome : PublishOutcome

/-- One datagram. -/
def receiveStep (decodeUtf16Le : Bool) (s : Receiver) (r : Receipt) : Receiver × List InboxDocument :=
  handleIncomingPacket decodeUtf16Le s r.datagram r.outcome

/-- A document that was put into the inbox, with its time and number, and its event. -/
structure Published where
  channel : Channel
  nowMs : ℕ
  number : ℕ
  document : InboxDocument
  event : Brew.InboxEvent

/-- The file of a document. -/
def InboxDocument.file (document : InboxDocument) : Brew.EventFile.InboxFile :=
  ⟨Bytes.nats document.name, document.content⟩

/-- The documents of a run. -/
def publishedBy (decodeUtf16Le : Bool) : Receiver → List Receipt → List Published
  | _, [] => []
  | s, r :: rs =>
    let d := r.datagram
    let q := receiveStep decodeUtf16Le s r
    let stem := String.ofList (latin (makeEventStem d.channel d.nowMs s.eventCounter))
    let event := inboxEvent decodeUtf16Le
      (fun rid => decide (rid ∈ q.1.registeredSubscribers)) d stem
    q.2.map (fun document => ⟨d.channel, d.nowMs, s.eventCounter, document, event⟩) ++
      publishedBy decodeUtf16Le q.1 rs

/-- The time has thirteen digits. It does not go back, and the counter does not start again within a
millisecond. -/
def Ordered (s : Receiver) (rs : List Receipt) : Prop :=
  (∀ r ∈ rs, 10 ^ 12 ≤ r.datagram.nowMs ∧ r.datagram.nowMs < 10 ^ 13) ∧
    (rs.mapIdx fun i r => (r.datagram.nowMs, (s.eventCounter + i) % 1000000)).Pairwise
      fun a b => a.1 < b.1 ∨ a.1 = b.1 ∧ a.2 < b.2

/-- The document is written as the channel, the time and the number say. -/
structure Published.Sound {F : Type} (numbers : Numbers F) (x : Published) : Prop where
  name : x.document.name = makeEventStem x.channel x.nowMs x.number ++ ascii ".json".toList
  reads : ∀ directory, Brew.EventFile.ReadsAs numbers directory x.document.file (some x.event)
  moves : ∀ directory pendingTexts now o, ∃ fate,
    (Brew.EventFile.processEvent numbers directory pendingTexts x.document.file now o).2 =
      Brew.EventFile.moveFile o x.document.file.name fate

section Run

variable {F : Type} (numbers : Numbers F) {decodeUtf16Le : Bool} {s : Receiver} {rs : List Receipt}

/-- The documents are those that a run publishes. -/
theorem publishedBy_document : (publishedBy decodeUtf16Le s rs).map Published.document =
    Run.outputs (receiveStep decodeUtf16Le) s rs := by
  induction rs generalizing s with
  | nil => rfl
  | cons r rs ih =>
    rw [publishedBy, List.map_append, List.map_map, ih, Run.outputs_cons]
    exact congrArg (fun l => l ++ _) (List.map_id _)

theorem sound_published : ∀ x ∈ publishedBy decodeUtf16Le s rs, x.Sound numbers := by
  induction rs generalizing s with
  | nil => exact fun x hx => absurd hx List.not_mem_nil
  | cons r rs ih =>
    rw [publishedBy]
    refine List.forall_mem_append.mpr ⟨fun x hx => ?_, ih⟩
    obtain ⟨document, hdocument, rfl⟩ := List.mem_map.mp hx
    unfold receiveStep handleIncomingPacket at hdocument ⊢
    dsimp only at hdocument ⊢
    split_ifs at hdocument
    · obtain rfl := List.mem_singleton.mp hdocument
      have hstem : makeEventStem r.datagram.channel r.datagram.nowMs s.eventCounter ≠ [] := by
        unfold makeEventStem
        exact List.append_ne_nil_of_right_ne_nil _ (List.cons_ne_nil _ _)
      exact ⟨rfl, readsAs_inbound _ _ _ hstem, moves_inbound _ _ _ hstem⟩
    · exact absurd hdocument List.not_mem_nil

/-- **Later documents of a channel have larger names.** -/
theorem name_lt {channel : Channel} {ms ms' number number' : ℕ} (hms : 10 ^ 12 ≤ ms ∧ ms < 10 ^ 13)
    (hms' : 10 ^ 12 ≤ ms' ∧ ms' < 10 ^ 13)
    (h : ms < ms' ∨ ms = ms' ∧ number % 1000000 < number' % 1000000) (x y : Bytes) :
    Bytes.nats (makeEventStem channel ms number ++ x) <
      Bytes.nats (makeEventStem channel ms' number' ++ y) := by
  have hthirteen {n : ℕ} (hn : 10 ^ 12 ≤ n ∧ n < 10 ^ 13) : decimal n = padded 13 n := by
    have hlength : (decimalDigits n).length = 13 := by
      have hle := length_decimalDigits_le (w := 13) (by decide) hn.2
      have hlt := digitsValue_lt (l := decimalDigits n) fun d hd => decimalDigits_lt hd
      rw [digitsValue_decimalDigits] at hlt
      have hpow := (Nat.pow_lt_pow_iff_right (a := 10) (by decide)).mp (hn.1.trans_lt hlt)
      omega
    have hd : (decimal n).length = 13 := by rw [decimal, List.length_map, hlength]
    rw [padded, List.leftpad, hd]
    rfl
  have hprepend {a b : List ℕ} (c : List ℕ) (hab : a < b) : c ++ a < c ++ b := by
    induction c with
    | nil => exact hab
    | cons n c ih => exact List.cons_lt_cons_iff.mpr (Or.inr ⟨rfl, ih⟩)
  unfold makeEventStem
  simp only [List.append_assoc, Bytes.nats_append _ (_ :: _), List.cons_append]
  refine hprepend _ ?_
  rw [hthirteen hms, hthirteen hms']
  show Bytes.nats (0x2D :: (padded 13 ms ++ _)) < Bytes.nats (0x2D :: (padded 13 ms' ++ _))
  refine hprepend [(0x2D : UInt8).toNat] ?_
  rcases h with hlt | ⟨rfl, hlt⟩
  · exact padded_lt (by decide) hms'.2 hlt _ _
  · show Bytes.nats (padded 13 ms ++ _) < Bytes.nats (padded 13 ms ++ _)
    rw [Bytes.nats_append, Bytes.nats_append]
    refine hprepend _ (hprepend [(0x2D : UInt8).toNat] ?_)
    exact padded_lt (by decide) (Nat.mod_lt _ (by decide)) hlt _ _

variable (decodeUtf16Le s rs) in
theorem stamps_sublist : ((publishedBy decodeUtf16Le s rs).map fun x =>
    (x.nowMs, x.number % 1000000)).Sublist
      (rs.mapIdx fun i r => (r.datagram.nowMs, (s.eventCounter + i) % 1000000)) := by
  induction rs generalizing s with
  | nil => exact List.Sublist.refl _
  | cons r rs ih =>
    have hcounter : (receiveStep decodeUtf16Le s r).1.eventCounter = s.eventCounter + 1 := rfl
    have hrest : (rs.mapIdx fun i r => (r.datagram.nowMs, (s.eventCounter + (i + 1)) % 1000000)) =
        rs.mapIdx fun i next => (next.datagram.nowMs,
          ((receiveStep decodeUtf16Le s r).1.eventCounter + i) % 1000000) := by
      refine congrArg (fun f => List.mapIdx f rs) (funext fun i => funext fun next => ?_)
      rw [hcounter, Nat.add_assoc, Nat.add_comm 1]
    rw [publishedBy, List.map_append, List.map_map, List.mapIdx_cons, hrest, ← List.singleton_append]
    refine List.Sublist.append ?_ (ih _)
    unfold receiveStep handleIncomingPacket
    dsimp only
    split_ifs
    · exact List.Sublist.refl _
    · exact List.nil_sublist _

/-- **The documents of a channel** have growing names. -/
theorem names_grow (decodeUtf16Le : Bool) (h : Ordered s rs) (channel : Channel) :
    ((publishedBy decodeUtf16Le s rs).filter fun x => x.channel = channel).Pairwise
      fun x y => x.document.file.name < y.document.file.name := by
  have hstamps := List.pairwise_map.mp (h.2.sublist (stamps_sublist decodeUtf16Le s rs))
  have htime : ∀ x ∈ publishedBy decodeUtf16Le s rs, 10 ^ 12 ≤ x.nowMs ∧ x.nowMs < 10 ^ 13 := by
    intro x hx
    have hmem := (stamps_sublist decodeUtf16Le s rs).subset
      (List.mem_map_of_mem (f := fun x : Published => (x.nowMs, x.number % 1000000)) hx)
    obtain ⟨i, hi, he⟩ := List.mem_mapIdx.mp hmem
    rw [← (Prod.mk.inj he).1]
    exact h.1 _ (List.getElem_mem hi)
  refine (hstamps.sublist List.filter_sublist).imp_of_mem fun {x y} hx hy hlt => ?_
  obtain ⟨hx, hxchannel⟩ := List.mem_filter.mp hx
  obtain ⟨hy, hychannel⟩ := List.mem_filter.mp hy
  unfold InboxDocument.file
  rw [(sound_published (F := Unit) ⟨⟨fun _ => (), fun _ => true⟩, fun _ => none⟩ x hx).name,
    (sound_published (F := Unit) ⟨⟨fun _ => (), fun _ => true⟩, fun _ => none⟩ y hy).name,
    of_decide_eq_true hxchannel, of_decide_eq_true hychannel]
  exact name_lt (htime x hx) (htime y hy) hlt _ _

/-! ## The collector -/

/-- The files of some datagrams and other files, with what they are to the collector. -/
def rolesOf (published : List Published)
    (others : List (Brew.EventFile.InboxFile × Option Brew.InboxEvent)) :
    List (Brew.EventFile.InboxFile × Option Brew.InboxEvent) :=
  published.map (fun x => (x.document.file, some x.event)) ++ others

/-- The events of files at the times they are taken. -/
def eventsAt (u : Brew.EventFile.Surroundings)
    (roles : List (Brew.EventFile.InboxFile × Option Brew.InboxEvent)) :
    List (Brew.InboxEvent × Time) :=
  roles.filterMap fun x => x.2.map fun e => (e, u.now x.1.name)

end Run

/-! ## Two messages -/

/-- A piece of a text of radio 1000001. -/
def sampleMessage (text : List Char) : Bytes :=
  [0x00, 0x20, 0xC0, 0x00] ++ (ascii "1000001".toList).flatMap (fun c => [c, 0x00]) ++ [0x80, 0x04] ++
    (ascii text).flatMap fun c => [c, 0x00]

/-- The pieces arrive in one millisecond. -/
def sampleReceipts : List Receipt :=
  [⟨⟨.tms, sampleMessage "Hel".toList, .unknown, 1700000000000, by decide, by decide⟩, ⟨true, true, true⟩⟩,
    ⟨⟨.tms, sampleMessage "lo".toList, .unknown, 1700000000000, by decide, by decide⟩, ⟨true, true, true⟩⟩]

/-- The documents of the sample datagrams. -/
def samplePublished : List Published := publishedBy true ⟨[], 7⟩ sampleReceipts

theorem nodup_sampleInbox :
    ((samplePublished.map fun x => (x.document.file.name, x.document.file.content)).map Prod.fst).Nodup := by
  decide +kernel

/-- The inbox, in which a directory lists the pieces the other way round. -/
def sampleInbox : Brew.EventFile.Inbox :=
  ⟨(samplePublished.map fun x => (x.document.file.name, x.document.file.content)).reverse, by
    rw [List.map_reverse, List.nodup_reverse]
    exact nodup_sampleInbox⟩

/-- Numbers of which only the integers matter. -/
def sampleNumbers : Numbers Unit := ⟨⟨fun _ => (), fun _ => true⟩, fun _ => none⟩

/-- A pass at which every file can be moved. -/
def samplePassTimes : Brew.EventFile.Surroundings := ⟨fun _ => 0, fun _ => ⟨true, true, true⟩⟩

end Sms
