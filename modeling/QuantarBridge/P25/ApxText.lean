import QuantarBridge.Brew.EventFile
import QuantarBridge.P25.TextDelivery

/-!
# Texts of the radios

A radio sends a text in UTF-16, and the data host reads it unit by unit. A character above `0xFFFF` is
two units, each of which becomes three bytes. The other characters become their bytes in UTF-8.

* `RadioText`, `TmsForm`, `Datagram`: a message of a radio in its packet;
* `hostText_encode`: a text in UTF-16 unit by unit;
* `parse_form`: **what the data host reads** of a packet;
* `hostBytes_of_plain`: the texts that are UTF-8 afterwards.
-/

set_option autoImplicit false

namespace P25

open Lib PacketData Sms
open Dashboard (Str codes)

/-! ## The message of a radio -/

/-- A text without a zero that is not blank. -/
structure RadioText where
  chars : List Char
  noNul : '\x00' ∉ chars
  notBlank : Str.strip (codes chars) ≠ []

/-- The bytes of a text, least significant byte of a unit first. -/
def utf16LeEncode (text : List Char) : Bytes :=
  (encodeUtf16 text).flatMap fun u => [UInt8.ofNat u, UInt8.ofNat (u / 256)]

/-- A text message: an operation for simple texts, an address with its length, a number, the mark of
UTF-16 and a text. -/
structure TmsForm where
  operation : UInt8
  address : Bytes
  number : UInt8
  encoding : UInt8
  text : RadioText
  simple : isSimpleTextOperation operation = true
  addressLength : address.length < 256
  numbered : number &&& 0x80 ≠ 0
  marked : encoding &&& 0x1F = 0x04

/-- The message behind its length. -/
def TmsForm.body (m : TmsForm) : Bytes :=
  m.operation :: UInt8.ofNat m.address.length ::
    (m.address ++ m.number :: m.encoding :: utf16LeEncode m.text.chars)

/-- The payload: the length and the body. -/
def TmsForm.payload (m : TmsForm) : Bytes := bytes16 m.body.length ++ m.body

/-- An IPv4 packet with UDP whose lengths and header checksum are right. -/
structure Datagram (sourceIp port : ℕ) (payload packet : Bytes) : Prop where
  version : packet.getD 0 0 = 0x45
  total : readUint16 packet 2 = packet.length
  protocol : packet.getD 9 0 = 0x11
  ipChecksum : checksum16 (packet.take 20) = 0
  source : readUint32BE packet 12 = sourceIp
  ports : readUint16 packet 20 = port ∧ readUint16 packet 22 = port
  udpLength : readUint16 packet 24 + 20 = packet.length
  payload : packet.drop 28 = payload

theorem ValidPacket.datagram {sourceIp targetIp port : ℕ} {payload packet : Bytes}
    (h : ValidPacket sourceIp targetIp port payload packet) : Datagram sourceIp port payload packet :=
  ⟨h.version, h.total, h.protocol, h.ipChecksum, h.source, h.ports, h.udpLength, h.payload⟩

/-- The text without a line break in front of it. -/
def withoutLineBreak (text : List Char) : List Char :=
  if ['\r', '\n'].isPrefixOf text then text.drop 2 else text

/-- The bytes that the data host makes of a text. -/
def hostBytes (text : List Char) : Bytes := (encodeUtf16 text).flatMap appendUtf8

/-! ## What the data host reads -/

theorem unitsLe_encode {units : List ℕ} (h : ∀ u ∈ units, u < 0x10000) :
    unitsLe (units.flatMap fun u => [UInt8.ofNat u, UInt8.ofNat (u / 256)]) = units := by
  induction units with
  | nil => rfl
  | cons u units ih =>
    obtain ⟨hu, hunits⟩ := List.forall_mem_cons.mp h
    rw [List.flatMap_cons, List.cons_append, List.singleton_append, unitsLe, ih hunits]
    rw [UInt8.toNat_ofNat', UInt8.toNat_ofNat']
    have hvalue : u % 2 ^ 8 + u / 256 % 2 ^ 8 * 256 = u := by omega
    rw [hvalue]

theorem ofNat_eq_iff {u : ℕ} {b : UInt8} : UInt8.ofNat u = b ↔ u % 256 = b.toNat := by
  rw [← UInt8.toNat_inj, UInt8.toNat_ofNat']

theorem skipLineBreak_encode {units : List ℕ} (h : ∀ u ∈ units, u < 0x10000) :
    skipLineBreak (units.flatMap fun u => [UInt8.ofNat u, UInt8.ofNat (u / 256)]) =
      (if [13, 10].isPrefixOf units then units.drop 2 else units).flatMap
        fun u => [UInt8.ofNat u, UInt8.ofNat (u / 256)] := by
  match units with
  | [] => rfl
  | [u] =>
    have hshort : [13, 10].isPrefixOf [u] = false := by simp [List.isPrefixOf]
    rw [hshort]
    rfl
  | u :: v :: rest =>
    have hu := h u (by simp)
    have hv := h v (by simp)
    have hbytes : (UInt8.ofNat u = 0x0D ∧ UInt8.ofNat (u / 256) = 0x00 ∧ UInt8.ofNat v = 0x0A ∧
        UInt8.ofNat (v / 256) = 0x00) ↔ 13 = u ∧ 10 = v := by
      simp only [ofNat_eq_iff, UInt8.reduceToNat]
      omega
    have hprefix : [13, 10].isPrefixOf (u :: v :: rest) = true ↔ 13 = u ∧ 10 = v := by
      simp [List.isPrefixOf]
    simp only [List.flatMap_cons, List.cons_append, List.nil_append, skipLineBreak, hbytes, hprefix]
    split_ifs <;> rfl

theorem utf16Units_ne_zero {c : Char} (h : c ≠ '\x00') : ∀ u ∈ utf16Units c, u ≠ 0 := by
  intro u hu
  have hc : c.toNat ≠ 0 := fun h0 => h (Char.toNat_inj.mp h0)
  unfold utf16Units at hu
  split_ifs at hu
  · rwa [List.mem_singleton.mp hu]
  · simp only [List.mem_cons, List.not_mem_nil, or_false] at hu
    omega

theorem isPrefixOf_encodeUtf16_cons {d : Char} (hd : d.toNat < 0xD800) (units : List ℕ) (c : Char)
    (text : List Char) : (d.toNat :: units).isPrefixOf (encodeUtf16 (c :: text)) =
      (d == c && units.isPrefixOf (encodeUtf16 text)) := by
  have hcons : encodeUtf16 (c :: text) = utf16Units c ++ encodeUtf16 text := rfl
  rw [hcons, Bool.eq_iff_iff, Bool.and_eq_true, beq_iff_eq]
  unfold utf16Units
  split_ifs with hc
  · rw [List.singleton_append, List.isPrefixOf, Bool.and_eq_true, beq_iff_eq, Char.toNat_inj]
  · have hne : d ≠ c := fun he => by rw [he] at hd; omega
    rw [List.cons_append, List.isPrefixOf, Bool.and_eq_true, beq_iff_eq]
    constructor
    · intro h
      omega
    · exact fun h => absurd h.1 hne

theorem isPrefixOf_encodeUtf16 (text : List Char) :
    [13, 10].isPrefixOf (encodeUtf16 text) = ['\r', '\n'].isPrefixOf text := by
  match text with
  | [] => rfl
  | [c] =>
    have h := isPrefixOf_encodeUtf16_cons (d := '\r') (by decide) [10] c []
    refine h.trans ?_
    simp [encodeUtf16, List.isPrefixOf]
  | c :: d :: text =>
    have h := isPrefixOf_encodeUtf16_cons (d := '\r') (by decide) [10] c (d :: text)
    have h' := isPrefixOf_encodeUtf16_cons (d := '\n') (by decide) [] d text
    refine h.trans ?_
    change ('\r' == c && ['\n'.toNat].isPrefixOf (encodeUtf16 (d :: text))) = _
    rw [h']
    simp [List.isPrefixOf]

theorem drop_encodeUtf16 {text : List Char} (h : ['\r', '\n'].isPrefixOf text = true) :
    (encodeUtf16 text).drop 2 = encodeUtf16 (text.drop 2) := by
  obtain ⟨rest, rfl⟩ := List.isPrefixOf_iff_prefix.mp h
  rfl

theorem mem_withoutLineBreak {text : List Char} {c : Char} (h : c ∈ withoutLineBreak text) :
    c ∈ text := by
  unfold withoutLineBreak at h
  split_ifs at h
  · exact List.mem_of_mem_drop h
  · exact h

/-- **The text** as the data host reads it. -/
theorem hostText_encode {text : List Char} (h : '\x00' ∉ text) :
    ((unitsLe (skipLineBreak (utf16LeEncode text))).takeWhile (· ≠ 0)).flatMap appendUtf8 =
      hostBytes (withoutLineBreak text) := by
  have hskip : skipLineBreak (utf16LeEncode text) = utf16LeEncode (withoutLineBreak text) := by
    unfold utf16LeEncode withoutLineBreak
    rw [skipLineBreak_encode fun u => encodeUtf16_lt, isPrefixOf_encodeUtf16]
    split_ifs with hbreak
    · rw [drop_encodeUtf16 hbreak]
    · rfl
  have hunits : unitsLe (utf16LeEncode (withoutLineBreak text)) =
      encodeUtf16 (withoutLineBreak text) := unitsLe_encode fun u => encodeUtf16_lt
  have hwhole : (encodeUtf16 (withoutLineBreak text)).takeWhile (fun u => decide (u ≠ 0)) =
      encodeUtf16 (withoutLineBreak text) := by
    rw [List.takeWhile_eq_self_iff]
    intro u hu
    obtain ⟨c, hc, hu⟩ := List.mem_flatMap.mp hu
    refine decide_eq_true (utf16Units_ne_zero ?_ u hu)
    rintro rfl
    exact h (mem_withoutLineBreak hc)
  rw [hskip, hunits, hwhole, hostBytes]

theorem appendUtf8_ne_nil (u : ℕ) : appendUtf8 u ≠ [] := by
  unfold appendUtf8 utf8
  split_ifs <;> simp

theorem hostBytes_ne_nil {text : List Char} (h : text ≠ []) : hostBytes text ≠ [] := by
  obtain ⟨c, text, rfl⟩ := List.exists_cons_of_ne_nil h
  have hunits : encodeUtf16 (c :: text) ≠ [] := by
    have hcons : encodeUtf16 (c :: text) = utf16Units c ++ encodeUtf16 text := rfl
    rw [hcons]
    unfold utf16Units
    split_ifs <;> simp
  obtain ⟨u, units, hu⟩ := List.exists_cons_of_ne_nil hunits
  rw [hostBytes, hu, List.flatMap_cons]
  exact List.append_ne_nil_of_left_ne_nil (appendUtf8_ne_nil u) _

theorem strip_withoutLineBreak (text : List Char) :
    Str.strip (codes (withoutLineBreak text)) = Str.strip (codes text) := by
  unfold withoutLineBreak
  split_ifs with h
  · obtain ⟨rest, rfl⟩ := List.isPrefixOf_iff_prefix.mp h
    have hblank := Brew.EventFile.strip_append_of_blank (a := codes ['\r', '\n']) (by decide)
      (codes rest)
    exact hblank.symm
  · rfl

theorem RadioText.withoutLineBreak_ne_nil (text : RadioText) : withoutLineBreak text.chars ≠ [] := by
  intro h
  have hstrip := strip_withoutLineBreak text.chars
  rw [h] at hstrip
  exact text.notBlank hstrip.symm

theorem parseTmsMessage_payload (m : TmsForm) (hlength : m.body.length < 65536) :
    parseTmsMessage m.payload = some (addressText m.address, m.operation, m.number,
      hostBytes (withoutLineBreak m.text.chars)) := by
  have hread : readUint16 m.payload 0 = m.body.length := readUint16_bytes16 hlength m.body
  have htotal : m.payload.length = m.body.length + 2 := by
    rw [TmsForm.payload, List.length_append, length_bytes16]
    omega
  have hbody : m.body.length =
      m.address.length + (utf16LeEncode m.text.chars).length + 4 := by
    simp only [TmsForm.body, List.length_cons, List.length_append]
    omega
  have hend : (if 4 ≤ readUint16 m.payload 0 ∧ readUint16 m.payload 0 + 2 ≤ m.payload.length
      then readUint16 m.payload 0 + 2 else m.payload.length) = m.payload.length := by
    rw [hread, htotal]
    split_ifs <;> rfl
  have hoperation : m.payload.getD 2 0 = m.operation := rfl
  have haddressLength : (m.payload.getD 3 0).toNat = m.address.length := by
    show (UInt8.ofNat m.address.length).toNat = _
    rw [UInt8.toNat_ofNat', Nat.mod_eq_of_lt m.addressLength]
  have hdrop : m.payload.drop 4 =
      m.address ++ m.number :: m.encoding :: utf16LeEncode m.text.chars := rfl
  have hoffset : operationOffset m.payload = some 2 := by
    unfold operationOffset
    rw [if_pos ⟨by omega, by rw [hoperation]; exact m.simple⟩]
  have hfound : findEncoding (m.number :: m.encoding :: utf16LeEncode m.text.chars) =
      some (m.number, utf16LeEncode m.text.chars) := by
    rw [findEncoding, if_pos ⟨m.numbered, m.marked⟩]
  unfold parseTmsMessage
  dsimp only
  rw [hend, List.take_length, hoffset, Option.bind_some, if_neg]
  · show (findEncoding ((m.payload.drop 4).drop (m.payload.getD 3 0).toNat)).bind _ = _
    rw [haddressLength, hdrop, List.drop_left, List.take_left, hfound, Option.bind_some]
    dsimp only
    rw [hostText_encode m.text.noNul, if_neg (hostBytes_ne_nil m.text.withoutLineBreak_ne_nil),
      hoperation]
  · show ¬ (m.payload.length < 4 ∨ (m.payload.drop 4).length < (m.payload.getD 3 0).toNat)
    rw [haddressLength, List.length_drop]
    omega

/-- **What the data host reads** of a packet with a text message. -/
theorem parse_form {sourceIp : ℕ} {packet : Bytes} (m : TmsForm)
    (h : Datagram sourceIp kMotorolaTmsPort m.payload packet) :
    ∃ message, parseMotorolaTmsMessagePacket packet sourceIp = some message ∧
      message.text = hostBytes (withoutLineBreak m.text.chars) := by
  have hdrop := congrArg List.length h.payload
  have htotal := h.total
  have hudp := h.udpLength
  have hlt : readUint16 packet 2 < 65536 := by
    unfold readUint16
    have := (packet.getD 2 0).toNat_lt
    have := (packet.getD (2 + 1) 0).toNat_lt
    omega
  have hpayload : m.payload.length = m.body.length + 2 := by
    rw [TmsForm.payload, List.length_append, length_bytes16]
    omega
  have hbody : 4 ≤ m.body.length := by
    simp only [TmsForm.body, List.length_cons, List.length_append]
    omega
  rw [List.length_drop] at hdrop
  have hparse := parseTmsMessage_payload m (by omega)
  have htake : (packet.drop 28).take (readUint16 packet 24 - 8) = m.payload := by
    rw [h.payload]
    exact List.take_of_length_le (by omega)
  unfold parseMotorolaTmsMessagePacket
  rw [if_neg]
  · dsimp only
    rw [if_neg (by omega), htake, hparse]
    exact ⟨_, rfl, rfl⟩
  · rintro (hshort | hversion | hlong | hprotocol | hsource | hport | hport | hchecksum)
    · omega
    · exact hversion h.version
    · omega
    · exact hprotocol h.protocol
    · exact hsource h.source
    · exact hport h.ports.1
    · exact hport h.ports.2
    · exact hchecksum h.ipChecksum

/-! ## Texts that stay UTF-8 -/

/-- A character of two units. -/
def Astral (c : Char) : Prop := 0x10000 ≤ c.toNat

instance (c : Char) : Decidable (Astral c) := inferInstanceAs (Decidable (_ ≤ _))

theorem appendUtf8_high {u : ℕ} (h : 0x80 ≤ u) (hu : u < 0x10000) :
    ∀ b ∈ appendUtf8 u, 0x80 ≤ b.toNat := by
  intro b hb
  unfold appendUtf8 utf8 at hb
  split_ifs at hb <;> simp only [List.mem_cons, List.not_mem_nil, or_false] at hb
  · omega
  · rcases hb with rfl | rfl <;> rw [UInt8.toNat_ofNat'] <;> omega
  · rcases hb with rfl | rfl | rfl <;> rw [UInt8.toNat_ofNat'] <;> omega

theorem hostBytes_append (a b : List Char) : hostBytes (a ++ b) = hostBytes a ++ hostBytes b := by
  simp [hostBytes, encodeUtf16]

theorem hostBytes_cons (c : Char) (text : List Char) :
    hostBytes (c :: text) = hostBytes [c] ++ hostBytes text := by
  simp [hostBytes, encodeUtf16]

/-- **A character of one unit** has its bytes in UTF-8. -/
theorem hostBytes_plain {c : Char} (h : ¬ Astral c) : hostBytes [c] = String.utf8EncodeChar c := by
  have hlt : c.toNat < 0x10000 := Nat.not_le.mp h
  have hunits : hostBytes [c] = utf8 c.toNat := by
    simp [hostBytes, encodeUtf16, utf16Units, hlt, appendUtf8]
  have hencode : String.utf8EncodeChar c = if c.toNat ≤ 0x7f then [UInt8.ofNat c.toNat] else
      if c.toNat ≤ 0x7ff then
        [UInt8.ofNat (c.toNat / 0x40 % 0x20 + 0xc0), UInt8.ofNat (c.toNat % 0x40 + 0x80)]
      else if c.toNat ≤ 0xffff then [UInt8.ofNat (c.toNat / 0x1000 % 0x10 + 0xe0),
        UInt8.ofNat (c.toNat / 0x40 % 0x40 + 0x80), UInt8.ofNat (c.toNat % 0x40 + 0x80)]
      else [UInt8.ofNat (c.toNat / 0x40000 % 0x08 + 0xf0),
        UInt8.ofNat (c.toNat / 0x1000 % 0x40 + 0x80), UInt8.ofNat (c.toNat / 0x40 % 0x40 + 0x80),
        UInt8.ofNat (c.toNat % 0x40 + 0x80)] := rfl
  rw [hunits, hencode, utf8]
  have hlast : 0x80 + c.toNat % 64 = c.toNat % 0x40 + 0x80 := by omega
  have htwo : c.toNat < 0x800 → 0xC0 + c.toNat / 64 = c.toNat / 0x40 % 0x20 + 0xc0 := by omega
  have hthree : 0xE0 + c.toNat / 4096 = c.toNat / 0x1000 % 0x10 + 0xe0 := by omega
  have hmiddle : 0x80 + c.toNat / 64 % 64 = c.toNat / 0x40 % 0x40 + 0x80 := by omega
  split_ifs <;> first | omega | rfl | skip
  · rw [htwo (by omega), hlast]
  · rw [hthree, hmiddle, hlast]

/-- **A text of such characters** has its bytes in UTF-8. -/
theorem hostBytes_of_plain {text : List Char} (h : ∀ c ∈ text, ¬ Astral c) :
    hostBytes text = utf8Bytes text := by
  induction text with
  | nil => rfl
  | cons c text ih =>
    obtain ⟨hc, htext⟩ := List.forall_mem_cons.mp h
    rw [hostBytes_cons, hostBytes_plain hc, ih htext]
    rfl

theorem astral_mem_withoutLineBreak {text : List Char} {c : Char} (hc : c ∈ text) (h : Astral c) :
    c ∈ withoutLineBreak text := by
  unfold withoutLineBreak
  split_ifs with hbreak
  · obtain ⟨rest, rfl⟩ := List.isPrefixOf_iff_prefix.mp hbreak
    rcases List.mem_append.mp hc with hc | hc
    · simp only [List.mem_cons, List.not_mem_nil, or_false] at hc
      rcases hc with rfl | rfl <;> exact absurd h (by decide)
    · exact hc
  · exact hc

end P25
