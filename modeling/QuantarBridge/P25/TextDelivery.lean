import QuantarBridge.P25.TmsMessage

/-!
# Whether a text arrives as it was queued

The text of a file in the outbox is UTF-8, and the data host sends each of its bytes as a unit of
sixteen bits of its own. A text of ASCII characters arrives as it is, and no other.

* `readTmsText_inbound`: what a radio reads, `parse_inbound`: what the data host itself would read;
* `latin_eq_iff`, `hostText_eq_iff`: when this is the text;
* `arrives_iff`: **exactly when a text arrives**.
-/

set_option autoImplicit false

namespace P25

open Lib PacketData Sms

/-! ## The bytes of a text -/

/-- The UTF-8 bytes of a text. -/
def utf8Bytes (text : List Char) : Bytes := text.flatMap String.utf8EncodeChar

/-- The bytes, each as a character. -/
def latin (text : Bytes) : List Char := text.map fun c => Char.ofNat c.toNat

theorem utf8EncodeChar_of_lt {c : Char} (h : c.toNat < 0x80) :
    String.utf8EncodeChar c = [UInt8.ofNat c.toNat] := by
  have hle : c.val.toNat ≤ 0x7F := Nat.le_of_lt_succ h
  unfold String.utf8EncodeChar
  exact if_pos hle

theorem length_utf8EncodeChar_of_le {c : Char} (h : 0x80 ≤ c.toNat) :
    2 ≤ (String.utf8EncodeChar c).length := by
  have hle : ¬ c.val.toNat ≤ 0x7F := Nat.not_le_of_lt h
  unfold String.utf8EncodeChar
  dsimp only
  rw [if_neg hle]
  split_ifs <;> simp

theorem length_utf8Bytes (text : List Char) : text.length ≤ (utf8Bytes text).length ∧
    ((utf8Bytes text).length = text.length → ∀ c ∈ text, c.toNat < 0x80) := by
  induction text with
  | nil => simp [utf8Bytes]
  | cons c text ih =>
    obtain ⟨hle, heq⟩ := ih
    have hlength : (utf8Bytes (c :: text)).length =
        (String.utf8EncodeChar c).length + (utf8Bytes text).length := by
      simp [utf8Bytes]
    rw [hlength, List.length_cons]
    by_cases hc : c.toNat < 0x80
    · rw [utf8EncodeChar_of_lt hc, List.length_singleton]
      refine ⟨by omega, fun h => ?_⟩
      simp only [List.mem_cons, forall_eq_or_imp]
      exact ⟨hc, heq (by omega)⟩
    · have := length_utf8EncodeChar_of_le (Nat.le_of_not_lt hc)
      exact ⟨by omega, fun h => by omega⟩

theorem utf8Bytes_ascii {text : List Char} (h : ∀ c ∈ text, c.toNat < 0x80) :
    utf8Bytes text = text.map fun c => UInt8.ofNat c.toNat := by
  induction text with
  | nil => rfl
  | cons c text ih =>
    rw [utf8Bytes, List.flatMap_cons, utf8EncodeChar_of_lt (h c List.mem_cons_self)]
    exact congrArg (_ :: ·) (ih fun d hd => h d (List.mem_cons_of_mem c hd))

theorem toNat_ofNat_of_lt {c : Char} (h : c.toNat < 0x80) : (UInt8.ofNat c.toNat).toNat = c.toNat := by
  rw [UInt8.toNat_ofNat']
  omega

/-- **A text read byte by byte** is the text exactly when it is ASCII. -/
theorem latin_eq_iff (text : List Char) :
    latin (utf8Bytes text) = text ↔ ∀ c ∈ text, c.toNat < 0x80 := by
  constructor
  · intro h
    refine (length_utf8Bytes text).2 ?_
    have hlength := congrArg List.length h
    rwa [latin, List.length_map] at hlength
  · intro h
    rw [utf8Bytes_ascii h, latin, List.map_map]
    conv_rhs => rw [← List.map_id text]
    refine List.map_congr_left fun c hc => ?_
    show Char.ofNat (UInt8.ofNat c.toNat).toNat = c
    rw [toNat_ofNat_of_lt (h c hc), Char.ofNat_toNat]

/-! ## The text that the data host reads -/

/-- A byte beyond ASCII. -/
def isHigh (c : UInt8) : Bool := 0x80 ≤ c.toNat

theorem appendUtf8_of_lt {c : UInt8} (h : c.toNat < 0x80) : appendUtf8 c.toNat = [c] := by
  unfold appendUtf8 utf8
  rw [if_pos h, UInt8.ofNat_toNat]

theorem flatMap_appendUtf8 {text : Bytes} (h : ∀ c ∈ text, c.toNat < 0x80) :
    (text.flatMap fun c => appendUtf8 c.toNat) = text := by
  induction text with
  | nil => rfl
  | cons c text ih =>
    rw [List.flatMap_cons, appendUtf8_of_lt (h c List.mem_cons_self),
      ih fun d hd => h d (List.mem_cons_of_mem c hd)]
    rfl

theorem countP_appendUtf8 (text : Bytes) :
    (text.flatMap fun c => appendUtf8 c.toNat).countP isHigh = 2 * text.countP isHigh := by
  have hbyte : ∀ n : Fin 256, (appendUtf8 (UInt8.ofNat n).toNat).countP isHigh =
      2 * [UInt8.ofNat n].countP isHigh := by decide +kernel
  induction text with
  | nil => rfl
  | cons c text ih =>
    have hc := hbyte ⟨c.toNat, c.toNat_lt⟩
    rw [UInt8.ofNat_toNat] at hc
    rw [List.flatMap_cons, List.countP_append, ih, hc]
    conv_rhs => rw [← List.singleton_append, List.countP_append]
    omega

theorem zero_notMem_appendUtf8 {c : UInt8} (h : c ≠ 0) : 0 ∉ appendUtf8 c.toNat := by
  have hbyte : ∀ n : Fin 256, UInt8.ofNat n ≠ 0 → 0 ∉ appendUtf8 (UInt8.ofNat n).toNat := by
    decide +kernel
  have hc := hbyte ⟨c.toNat, c.toNat_lt⟩
  rw [UInt8.ofNat_toNat] at hc
  exact hc h

theorem zero_notMem_hostText (text : Bytes) : 0 ∉ hostText text := by
  unfold hostText
  dsimp only
  intro h
  obtain ⟨c, hc, h0⟩ := List.mem_flatMap.mp h
  have hne := List.mem_takeWhile_imp hc
  exact zero_notMem_appendUtf8 (by simpa using hne) h0

/-- **The data host reads the text** exactly when it is ASCII without a zero in it and a line break in
front. -/
theorem hostText_eq_iff (text : Bytes) : hostText text = text ↔
    (∀ c ∈ text, c.toNat < 0x80) ∧ 0 ∉ text ∧ ¬ [0x0D, 0x0A] <+: text := by
  have hwhole : ∀ l : Bytes, 0 ∉ l → l.takeWhile (· ≠ 0) = l := by
    intro l hl
    refine List.takeWhile_eq_self_iff.mpr fun c hc => decide_eq_true ?_
    rintro rfl
    exact hl hc
  constructor
  · intro h
    have hzero : 0 ∉ text := by
      rw [← h]
      exact zero_notMem_hostText text
    unfold hostText at h
    dsimp only at h
    have hascii : ∀ l : Bytes, l.countP isHigh = 0 → ∀ c ∈ l, c.toNat < 0x80 := by
      intro l hl c hc
      have := List.countP_eq_zero.mp hl c hc
      simpa [isHigh] using this
    split_ifs at h with hbreak
    · obtain ⟨rest, rfl⟩ := List.isPrefixOf_iff_prefix.mp hbreak
      change (rest.takeWhile _).flatMap _ = 0x0D :: 0x0A :: rest at h
      have hrest : 0 ∉ rest := fun h0 => hzero (List.mem_append_right _ h0)
      rw [hwhole rest hrest] at h
      have hcount := congrArg (List.countP isHigh) h
      rw [countP_appendUtf8] at hcount
      have hnone : rest.countP isHigh = 0 := by
        have : (0x0D :: 0x0A :: rest).countP isHigh = rest.countP isHigh := by
          rw [List.countP_cons_of_neg (by decide), List.countP_cons_of_neg (by decide)]
        omega
      rw [flatMap_appendUtf8 (hascii rest hnone)] at h
      have hlength := congrArg List.length h
      simp only [List.length_cons] at hlength
      omega
    · rw [hwhole text hzero] at h
      have hcount := congrArg (List.countP isHigh) h
      rw [countP_appendUtf8] at hcount
      exact ⟨hascii text (by omega), hzero, fun hp =>
        hbreak (List.isPrefixOf_iff_prefix.mpr hp)⟩
  · rintro ⟨hascii, hzero, hbreak⟩
    unfold hostText
    dsimp only
    rw [if_neg fun hp => hbreak (List.isPrefixOf_iff_prefix.mp hp), hwhole text hzero,
      flatMap_appendUtf8 hascii]

/-! ## The text of a file -/

theorem length_pairs (nibble : UInt8 → Option ℕ) : ∀ (hex : Bytes) {text : Bytes},
    decodeHexText.pairs nibble hex = some text → text.length = hex.length / 2
  | [], text, h => by
    cases h
    rfl
  | [_], text, h => by
    cases h
    simp
  | high :: low :: rest, text, h => by
    rw [decodeHexText.pairs] at h
    simp only [Option.bind_eq_bind, Option.bind_eq_some_iff, Option.pure_def,
      Option.some.injEq] at h
    obtain ⟨_, -, _, -, tail, htail, rfl⟩ := h
    rw [List.length_cons, length_pairs nibble rest htail, List.length_cons, List.length_cons]
    omega

theorem length_of_decodeHexText {hex text : Bytes} (h : decodeHexText hex = some text) :
    0 < text.length ∧ text.length ≤ 2048 := by
  unfold decodeHexText at h
  split_ifs at h with hbad
  have hlength := length_pairs _ hex h
  have hpos : hex.length ≠ 0 := fun h0 => hbad (Or.inl (List.length_eq_zero_iff.mp h0))
  omega

/-! ## What arrives -/

section Inbound

variable {rid arsServerIp subscriberIp : ℕ} {text : Bytes} (messageId : ℕ)

theorem inbound_eq (hrid : rid < 2 ^ 32) (text : Bytes) :
    buildMotorolaTmsInboundMessage arsServerIp subscriberIp messageId (decimal rid) text =
      udpPacket 0x5179 arsServerIp subscriberIp kMotorolaTmsPort
        (tmsPayload messageId (decimal rid) (wide text)) true := by
  have := length_decimal_le hrid
  unfold buildMotorolaTmsInboundMessage
  rw [tmsInboundPayload_eq messageId (by omega)]

theorem valid_inbound (hrid : rid < 2 ^ 32) (hserver : arsServerIp < 2 ^ 32)
    (hsubscriber : subscriberIp < 2 ^ 32) (htext : text.length ≤ 2048) :
    ValidPacket arsServerIp subscriberIp kMotorolaTmsPort
      (tmsPayload messageId (decimal rid) (wide text))
      (buildMotorolaTmsInboundMessage arsServerIp subscriberIp messageId (decimal rid) text) := by
  have haddress := length_decimal_le hrid
  have hwide := length_wide text
  have hlaid := (laid_tmsPayload messageId (decimal rid) (wide text) (by omega)
    (by omega)).length_eq
  rw [length_wide] at hlaid
  rw [inbound_eq messageId hrid]
  exact valid_udpPacket 0x5179 hserver hsubscriber (by decide) (by omega)

theorem readTmsText_inbound (hrid : rid < 2 ^ 32) (htext : text.length ≤ 2048) :
    readTmsText (tmsPayload messageId (decimal rid) (wide text)) =
      some ⟨rid, messageId % 32, latin text⟩ := by
  have hwide := length_wide text
  rw [readTmsText_tmsPayload messageId hrid (by omega), unitsLe_wide, decodeUtf16_bytes]
  rfl

theorem parse_inbound (hrid : rid < 2 ^ 32) (hserver : arsServerIp < 2 ^ 32)
    (hsubscriber : subscriberIp < 2 ^ 32) (htext : text.length ≤ 2048) :
    parseMotorolaTmsMessagePacket (buildMotorolaTmsInboundMessage arsServerIp subscriberIp messageId
        (decimal rid) text) arsServerIp =
      if hostText text = [] then none
      else some ⟨rid, arsServerIp, subscriberIp, 0xE0, messageId % 32, hostText text⟩ := by
  have hwide := length_wide text
  have hvalid := valid_inbound messageId hrid hserver hsubscriber htext
  rw [parse_tmsPayload messageId hrid (by omega) hvalid, hostText_eq]

end Inbound

theorem exists_high {c : Char} (h : 0x80 ≤ c.toNat) :
    ∃ b ∈ String.utf8EncodeChar c, 0x80 ≤ b.toNat := by
  have hle : ¬ c.val.toNat ≤ 0x7F := Nat.not_le_of_lt h
  refine ⟨UInt8.ofNat (c.val.toNat % 0x40 + 0x80), ?_, ?_⟩
  · unfold String.utf8EncodeChar
    dsimp only
    rw [if_neg hle]
    split_ifs <;> simp
  · rw [UInt8.toNat_ofNat']
    omega

/-- The bytes of a text as the data host reads them, as its characters. -/
theorem utf8Bytes_plain_iff (text : List Char) :
    ((∀ b ∈ utf8Bytes text, b.toNat < 0x80) ∧ 0 ∉ utf8Bytes text ∧
      ¬ [0x0D, 0x0A] <+: utf8Bytes text) ↔
    (∀ c ∈ text, c.toNat < 0x80) ∧ '\x00' ∉ text ∧ ¬ ['\r', '\n'] <+: text := by
  have hbytes : (∀ b ∈ utf8Bytes text, b.toNat < 0x80) ↔ ∀ c ∈ text, c.toNat < 0x80 := by
    constructor
    · intro h c hc
      by_contra hle
      obtain ⟨b, hb, hhigh⟩ := exists_high (Nat.le_of_not_lt hle)
      have := h b (List.mem_flatMap.mpr ⟨c, hc, hb⟩)
      omega
    · intro h b hb
      rw [utf8Bytes_ascii h] at hb
      obtain ⟨c, hc, rfl⟩ := List.mem_map.mp hb
      rw [toNat_ofNat_of_lt (h c hc)]
      exact h c hc
  rw [hbytes]
  refine and_congr_right fun h => ?_
  have hchar : ∀ c ∈ text, ∀ d : Char, d.toNat < 0x80 →
      (UInt8.ofNat c.toNat = UInt8.ofNat d.toNat ↔ c = d) := by
    intro c hc d hd
    rw [← UInt8.toNat_inj, toNat_ofNat_of_lt (h c hc), toNat_ofNat_of_lt hd]
    exact ⟨fun he => Char.toNat_inj.mp he, congrArg Char.toNat⟩
  rw [utf8Bytes_ascii h]
  refine and_congr (not_congr ?_) (not_congr ?_)
  · rw [List.mem_map]
    constructor
    · rintro ⟨c, hc, he⟩
      rw [← (hchar c hc '\x00' (by decide)).mp he]
      exact hc
    · exact fun h0 => ⟨'\x00', h0, rfl⟩
  · match text, hchar with
    | [], _ => simp
    | [c], _ => simp
    | c :: d :: rest, hchar =>
      simp only [List.map_cons, List.cons_prefix_cons, List.nil_prefix, and_true]
      have hc := hchar c List.mem_cons_self '\r' (by decide)
      have hd := hchar d (List.mem_cons_of_mem c List.mem_cons_self) '\n' (by decide)
      rw [@eq_comm _ '\r', @eq_comm _ '\n', ← hc, ← hd]
      exact and_congr eq_comm eq_comm

/-- **A text arrives** as it was queued exactly when it is ASCII. The packet is valid in any case. For
the data host itself, which ends a text at a zero and skips a line break in front, the text must have
neither. -/
theorem arrives_iff {hex : Bytes} {text : List Char}
    (htext : decodeHexText hex = some (utf8Bytes text)) {senderRid arsServerIp subscriberIp : ℕ}
    (messageId : ℕ) (hrid : senderRid < 2 ^ 32) (hserver : arsServerIp < 2 ^ 32)
    (hsubscriber : subscriberIp < 2 ^ 32) :
    let packet := buildMotorolaTmsInboundMessage arsServerIp subscriberIp messageId
      (decimal senderRid) (utf8Bytes text)
    ValidPacket arsServerIp subscriberIp kMotorolaTmsPort (packet.drop 28) packet ∧
      (readTmsText (packet.drop 28) = some ⟨senderRid, messageId % 32, text⟩ ↔
        ∀ c ∈ text, c.toNat < 0x80) ∧
      (parseMotorolaTmsMessagePacket packet arsServerIp =
          some ⟨senderRid, arsServerIp, subscriberIp, 0xE0, messageId % 32, utf8Bytes text⟩ ↔
        (∀ c ∈ text, c.toNat < 0x80) ∧ '\x00' ∉ text ∧ ¬ ['\r', '\n'] <+: text) := by
  obtain ⟨hpos, hlength⟩ := length_of_decodeHexText htext
  have hvalid := valid_inbound messageId hrid hserver hsubscriber hlength
  dsimp only
  refine ⟨?_, ?_, ?_⟩
  · rw [hvalid.payload]
    exact hvalid
  · rw [hvalid.payload, readTmsText_inbound messageId hrid hlength, ← latin_eq_iff]
    simp
  · rw [parse_inbound messageId hrid hserver hsubscriber hlength, ← utf8Bytes_plain_iff,
      ← hostText_eq_iff]
    constructor
    · intro h
      split_ifs at h
      have hmessage := Option.some.inj h
      injection hmessage
    · intro h
      rw [h, if_neg (List.length_pos_iff.mp hpos)]

theorem arrives_sample :
    readTmsText ((buildMotorolaTmsInboundMessage 3221225473 3221225479 3 (decimal 1000002)
      (utf8Bytes ['H', 'i'])).drop 28) = some ⟨1000002, 3, ['H', 'i']⟩ :=
  (arrives_iff (show decodeHexText (ascii "4869".toList) = _ by decide +kernel) 3 (by decide) (by decide)
    (by decide)).2.1.mpr
      (List.forall_mem_cons.mpr ⟨by decide, List.forall_mem_singleton.mpr (by decide)⟩)

/-- The two bytes of an `é` arrive as two characters. -/
theorem not_arrives :
    ¬ ∀ (hex : Bytes) (text : List Char) (senderRid arsServerIp subscriberIp messageId : ℕ),
      decodeHexText hex = some (utf8Bytes text) → senderRid < 2 ^ 32 → arsServerIp < 2 ^ 32 →
      subscriberIp < 2 ^ 32 →
      let packet := buildMotorolaTmsInboundMessage arsServerIp subscriberIp messageId
        (decimal senderRid) (utf8Bytes text)
      ValidPacket arsServerIp subscriberIp kMotorolaTmsPort (packet.drop 28) packet ∧
        readTmsText (packet.drop 28) = some ⟨senderRid, messageId % 32, text⟩ := by
  intro h
  have hread := (h (ascii "c3a9".toList) ['é'] 1000002 3221225473 3221225479 3 (by decide +kernel)
    (by decide) (by decide) (by decide)).2
  have hactual : readTmsText ((buildMotorolaTmsInboundMessage 3221225473 3221225479 3
      (decimal 1000002) (utf8Bytes ['é'])).drop 28) = some ⟨1000002, 3, ['Ã', '©']⟩ := by
    decide +kernel
  rw [hactual] at hread
  exact absurd hread (by decide)

end P25
