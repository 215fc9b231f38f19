import QuantarBridge.PacketData.ShortData
import QuantarBridge.Sms.Handler
import QuantarBridge.Sms.Units

/-!
# Short data

A text can be sent as defined short data, in big-endian UTF-16 without any header. The reassembler cuts
the padding and the CRC off, but data whose first half byte is 4 is taken for an IPv4 packet also here,
and then it is cut at what would be its total length.

* `textOf`, `decodeUtf16Be_bytesBe`: texts and their bytes;
* `Sane`, `trimPacket_iff`: when the right bytes are cut off;
* `shortData_delivered_iff`: **exactly when a text is delivered whole**.
-/

set_option autoImplicit false

namespace Sms

open Dmr Lib PacketData

/-- The text of code units. Byte order marks in front are none of it. -/
def textOf (units : List ℕ) : Bytes := trim (toBytes (decodeUtf16Be.dropMarks units))

theorem textOf_eq {units : List ℕ} (h : units.head? ≠ some 0xFEFF) :
    textOf units = trim (toBytes units) := by
  unfold textOf decodeUtf16Be.dropMarks
  cases units with
  | nil => rfl
  | cons unit units =>
    rw [List.dropWhile_cons_of_neg]
    simpa using h

/-- **A text is decoded** from its bytes. -/
theorem decodeUtf16Be_bytesBe {units : List ℕ} (h : Printable units) :
    trim (decodeUtf16Be (bytesBe units)) = textOf units := by
  have hrest : ∀ unit ∈ decodeUtf16Be.dropMarks units, isPrintableUtf16 unit = true :=
    fun unit hmem => (h unit ((List.dropWhile_sublist _).subset hmem)).2
  unfold decodeUtf16Be textOf
  rw [unitsBe_bytesBe fun unit hmem => (h unit hmem).1, decodeUnits_of_printable hrest]

/-! ## Cutting off the trailer -/

/-- The right bytes are cut off: the data is too short for an IPv4 packet, or its first half byte is not
4, or what would be the total length is the length of the text by chance. -/
def Sane (units : List ℕ) (trailer : Bytes) : Prop :=
  (bytesBe units ++ trailer).length < 20 ∨ units.headD 0 / 0x1000 ≠ 4 ∨
    (readUint16 (bytesBe units ++ trailer) 2 = (bytesBe units).length ∧
      units.headD 0 / 256 % 16 * 4 ≤ (bytesBe units).length)

instance (units : List ℕ) (trailer : Bytes) : Decidable (Sane units trailer) :=
  inferInstanceAs (Decidable (_ ∨ _ ∨ _))

/-- **The trailer is cut off** exactly when the data is not taken for something else. -/
theorem trimPacket_iff {units : List ℕ} (h : ∀ unit ∈ units, unit < 0x10000) (hne : units ≠ [])
    {trailer : Bytes} {padLength : ℕ} (htrailer : trailer.length = (padLength + 7) / 8 + 4) :
    trimPacket padLength true (bytesBe units ++ trailer) = bytesBe units ↔ Sane units trailer := by
  obtain ⟨unit, units, rfl⟩ := List.exists_cons_of_ne_nil hne
  have hunit := h unit List.mem_cons_self
  have hfirst : (bytesBe (unit :: units) ++ trailer).getD 0 0 = UInt8.ofNat (unit / 256) := rfl
  have hnibble : UInt8.ofNat (unit / 256) >>> 4 = 4 ↔ unit / 0x1000 = 4 := by
    rw [← UInt8.toNat_inj, UInt8.toNat_shiftRight, UInt8.toNat_ofNat']
    show (unit / 256 % 256) >>> 4 = 4 ↔ _
    rw [Nat.shiftRight_eq_div_pow]
    omega
  have hheader : (UInt8.ofNat (unit / 256) &&& 0x0F).toNat = unit / 256 % 16 := by
    rw [UInt8.toNat_and, UInt8.toNat_ofNat']
    show (unit / 256 % 256) &&& (2 ^ 4 - 1) = _
    rw [Nat.and_two_pow_sub_one_eq_mod]
    omega
  have hlength : (bytesBe (unit :: units) ++ trailer).length =
      (bytesBe (unit :: units)).length + ((padLength + 7) / 8 + 4) := by
    rw [List.length_append, htrailer]
  -- cutting at a length gives the text when it is the length of the text
  have htake : ∀ n ≤ (bytesBe (unit :: units) ++ trailer).length,
      (bytesBe (unit :: units) ++ trailer).take n = bytesBe (unit :: units) ↔
        n = (bytesBe (unit :: units)).length := by
    intro n hn
    constructor
    · intro h
      have := congrArg List.length h
      rw [List.length_take] at this
      omega
    · rintro rfl
      exact List.take_left
  unfold trimPacket Sane
  simp only [List.headD_cons, hfirst, hnibble, hheader, if_true]
  by_cases hguess : 20 ≤ (bytesBe (unit :: units) ++ trailer).length ∧ unit / 0x1000 = 4
  · rw [if_pos hguess]
    by_cases hfits : unit / 256 % 16 * 4 ≤ readUint16 (bytesBe (unit :: units) ++ trailer) 2 ∧
        readUint16 (bytesBe (unit :: units) ++ trailer) 2 ≤ (bytesBe (unit :: units) ++ trailer).length
    · rw [if_pos hfits, htake _ hfits.2]
      constructor
      · intro hequal
        rw [hequal] at hfits
        exact Or.inr (Or.inr ⟨hequal, hfits.1⟩)
      · rintro (hshort | hother | ⟨hequal, -⟩)
        · omega
        · exact absurd hguess.2 hother
        · exact hequal
    · rw [if_neg hfits]
      constructor
      · intro hall
        have := congrArg List.length hall
        omega
      · rintro (hshort | hother | ⟨hequal, hheaderLength⟩)
        · omega
        · exact absurd hguess.2 hother
        · rw [hequal] at hfits
          omega
  · rw [if_neg hguess, if_pos (by omega), htake _ (by omega)]
    refine iff_of_true (by omega) ?_
    omega

/-! ## Delivery -/

section Delivery

variable {D : Codec} {header : DataHeader} {parts : List Bytes} {opening last : NetData × Time}
  {es : List (NetData × Time)} {units : List ℕ} {trailer : Bytes}

/-- The message is delivered whole: the last frame, and none before it, emits the bytes of the text, and
the text is queued. -/
def Delivered (D : Codec) (s : Reassembler) (opening last : NetData × Time)
    (es : List (NetData × Time)) (units : List ℕ) : Prop :=
  ∃ p : Packet, reportedFrom D s (opening :: es) = List.replicate es.length none ++ [some p] ∧
    p.bytes = bytesBe units ∧
    ∀ w st c o, handlePacket w st c o p =
      let q := queueBrandmeisterText w.routePathSet st c o last.1.srcId last.1.dstId (textOf units)
      ⟨q.state, q.result ≠ .FAILED, some q.result, q.effects, none⟩

theorem handlePacket_bytesBe {p : Packet} (hunits : Printable units) (hblank : textOf units ≠ [])
    (hshort : p.definedShortData = true) (hbytes : p.bytes = bytesBe units) (w : Wiring)
    (st : TextState) (c : Clocks) (o : FileOutcomes) :
    handlePacket w st c o p =
      let q := queueBrandmeisterText w.routePathSet st c o p.sourceRid p.targetRid (textOf units)
      ⟨q.state, q.result ≠ .FAILED, some q.result, q.effects, none⟩ := by
  have htext : packetText p = textOf units := by
    unfold packetText
    rw [if_pos hshort, hbytes]
    exact decodeUtf16Be_bytesBe hunits
  have hhandled := handlePacket_text w st c o p (by rw [htext]; exact hblank)
  have hreply : packetAcknowledgement w p = none := if_pos hshort
  rw [htext, hreply] at hhandled
  dsimp only at hhandled ⊢
  rw [hhandled, ite_self]

/-- **Exactly when a text is delivered whole**: when its first characters are not taken for the header
of an IPv4 packet of another length. -/
theorem shortData_delivered_iff {s : Reassembler} (hquiet : s.Quiet)
    (h : ShortMessage D header parts opening es last) (hunits : Printable units)
    (hblank : textOf units ≠ []) (hparts : parts.flatten = bytesBe units ++ trailer)
    (htrailer : trailer.length = (header.padLength.toNat + 7) / 8 + 4) :
    Delivered D s opening last es units ↔ Sane units trailer := by
  have hreported := reported_short hquiet h
  have hshort : (Session.ofHeader header 0).definedShortData = true := by
    show decide (header.dpf = .DEFINED_SHORT ∧ header.sap = .SHORT_DATA) = true
    exact decide_eq_true ⟨h.dpf, h.sap⟩
  have hne : units ≠ [] := by
    rintro rfl
    exact hblank rfl
  have hbytes : (packetOfBlocks header parts last.1).bytes = bytesBe units ↔ Sane units trailer := by
    rw [← trimPacket_iff (fun unit hmem => (hunits unit hmem).1) hne htrailer, ← hparts, ← hshort]
    rfl
  unfold Delivered
  rw [hreported, ← hbytes]
  constructor
  · rintro ⟨p, hp, htext, -⟩
    obtain rfl : packetOfBlocks header parts last.1 = p := by
      simpa using hp
    exact htext
  · intro htext
    exact ⟨_, rfl, htext, handlePacket_bytesBe hunits hblank hshort htext⟩

end Delivery

/-! ## A sample message -/

/-- Two blocks of twelve bytes without padding. -/
def shortHeader : DataHeader :=
  ⟨.DEFINED_SHORT, false, .SHORT_DATA, 1000002, 1000001, false, true, false, 0, 0, 0, 2⟩

/-- A text of ten characters behind its first two. -/
def greeting (first second : ℕ) : List ℕ :=
  [first, second, 0x2C, 0x20, 0x77, 0x6F, 0x72, 0x6C, 0x64, 0x21]

/-- The CRC of the sample message. -/
def sampleCrc : Bytes := [0x4E, 0x2D, 0x65, 0x87]

/-- A block of the greeting and its CRC. -/
def greetingBlock (first second i : ℕ) : Bytes :=
  ((bytesBe (greeting first second) ++ sampleCrc).drop (12 * i)).take 12

/-- The header of the sample message. -/
def shortOpening : NetData × Time := (sampleFrame .DATA_HEADER (headerBytes shortHeader), 0)

/-- A block of the sample message. -/
def greetingFrame (first second i : ℕ) : NetData × Time :=
  (sampleFrame .RATE_12_DATA (blockMark :: greetingBlock first second i), milliseconds (60 * (i + 1)))

theorem shortMessage_greeting {first second : ℕ}
    (h : ∀ i < 2, plainCodec.blockDecode .RATE_12_DATA (blockHeader shortHeader)
      (greetingFrame first second i).1.data = some ⟨0, greetingBlock first second i⟩) :
    ShortMessage plainCodec shortHeader [greetingBlock first second 0, greetingBlock first second 1]
      shortOpening [greetingFrame first second 0, greetingFrame first second 1]
      (greetingFrame first second 1) where
  dataType := rfl
  decoded := by decide +kernel
  dpf := rfl
  sap := rfl
  count := rfl
  some_block := by decide
  max_blocks := by decide
  frames := by
    refine .cons ⟨rfl, rfl, 0, h 0 (by omega), fun hconfirmed => ?_⟩
      (.cons ⟨rfl, rfl, 0, h 1 (by omega), fun hconfirmed => ?_⟩ .nil)
    · exact absurd hconfirmed (by decide)
    · exact absurd hconfirmed (by decide)
  prompt := by
    show List.IsChain _ [0, milliseconds (60 * (0 + 1)), milliseconds (60 * (1 + 1))]
    decide +kernel
  last_eq := rfl

/-- A text in Latin letters is delivered. -/
theorem shortData_delivered_latin :
    Delivered plainCodec Reassembler.init shortOpening (greetingFrame 0x48 0x69 1)
        [greetingFrame 0x48 0x69 0, greetingFrame 0x48 0x69 1] (greeting 0x48 0x69) ↔
      Sane (greeting 0x48 0x69) sampleCrc :=
  shortData_delivered_iff (fun _ _ h => by cases h) (shortMessage_greeting (by decide +kernel))
    (by decide +kernel) (by decide +kernel) (by decide +kernel) (by decide)

/-- A Chinese greeting is not: its CRC is taken for a part of it. -/
theorem not_shortData_delivered :
    ShortMessage plainCodec shortHeader [greetingBlock 0x4F60 0x597D 0, greetingBlock 0x4F60 0x597D 1]
        shortOpening [greetingFrame 0x4F60 0x597D 0, greetingFrame 0x4F60 0x597D 1]
        (greetingFrame 0x4F60 0x597D 1) ∧
      Printable (greeting 0x4F60 0x597D) ∧ textOf (greeting 0x4F60 0x597D) ≠ [] ∧
      [greetingBlock 0x4F60 0x597D 0, greetingBlock 0x4F60 0x597D 1].flatten =
        bytesBe (greeting 0x4F60 0x597D) ++ sampleCrc ∧
      sampleCrc.length = (shortHeader.padLength.toNat + 7) / 8 + 4 ∧
      ¬ Delivered plainCodec Reassembler.init shortOpening (greetingFrame 0x4F60 0x597D 1)
        [greetingFrame 0x4F60 0x597D 0, greetingFrame 0x4F60 0x597D 1] (greeting 0x4F60 0x597D) := by
  have hmessage : ShortMessage plainCodec shortHeader
      [greetingBlock 0x4F60 0x597D 0, greetingBlock 0x4F60 0x597D 1] shortOpening
      [greetingFrame 0x4F60 0x597D 0, greetingFrame 0x4F60 0x597D 1] (greetingFrame 0x4F60 0x597D 1) :=
    shortMessage_greeting (by decide +kernel)
  refine ⟨hmessage, by decide +kernel, by decide +kernel, by decide +kernel, by decide, ?_⟩
  rintro ⟨p, hp, hbytes, -⟩
  rw [reported_short (fun _ _ h => by cases h) hmessage] at hp
  obtain rfl : packetOfBlocks shortHeader
      [greetingBlock 0x4F60 0x597D 0, greetingBlock 0x4F60 0x597D 1] (greetingFrame 0x4F60 0x597D 1).1 =
        p := by
    simpa using hp
  exact absurd hbytes (by decide +kernel)

end Sms
