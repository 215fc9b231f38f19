import QuantarBridge.Location.Fields

/-!
# Whether the three decoders agree

The data host passes a location report on, the bridge sends it to BrandMeister and the dashboard shows
it, each when its own decoder finds coordinates.

* `LocationPacket`: a packet from a radio to the registration server on the location ports;
* `reportBody`, `positionTokens`: the fields in front of its coordinates;
* `host_iff`, `bridge_iff`, `dashboard_iff`: each decoder finds the coordinates when it knows the
  fields;
* `decoders_agree_iff`: **when the three agree**.
-/

set_option autoImplicit false

namespace Location

open Lib PacketData Sms P25 Dashboard

/-! ## The packet -/

/-- The length of the header of a packet. -/
def headerLength (packet : Bytes) : ℕ := (packet.getD 0 0 &&& 0x0F).toNat * 4

/-- The length field of a datagram. -/
def udpLength (packet : Bytes) : ℕ := readUint16 packet (headerLength packet + 4)

/-- A packet from a radio to the server on a pair of location ports, with valid checksums. -/
structure LocationPacket (arsServerIp subscriberIp : ℕ) (packet : Bytes) : Prop where
  version : packet.getD 0 0 >>> 4 = 4
  protocol : packet.getD 9 0 = 0x11
  header : 20 ≤ headerLength packet
  total : readUint16 packet 2 ≤ packet.length
  datagram : 8 ≤ udpLength packet ∧ headerLength packet + udpLength packet ≤ readUint16 packet 2
  source : readUint32BE packet 12 = subscriberIp
  target : readUint32BE packet 16 = arsServerIp
  ports : locationPorts (readUint16 packet (headerLength packet))
    (readUint16 packet (headerLength packet + 2))
  ipChecksum : checksum16 (packet.take (headerLength packet)) = 0
  udpChecksum : udpChecksumValid packet (packet.drop (headerLength packet)) (udpLength packet)

/-- The payload of the datagram. -/
def reportPayload (packet : Bytes) : Bytes :=
  (packet.drop (headerLength packet + 8)).take (udpLength packet - 8)

/-- The fields of the report in a packet, if it is one. -/
def reportBody (packet : Bytes) : Option Bytes :=
  let payload := reportPayload packet
  let messageType := payload.getD 0 0 &&& 0x7F
  let reportLength := (payload.getD 1 0).toNat + 2
  if udpLength packet < 10 ∨ (messageType ≠ 0x07 ∧ messageType ≠ 0x0D) ∨
      payload.length < reportLength then none
  else reportFields ((payload.take reportLength).drop 2)

/-- The fields in front of the coordinates of a packet, if it has coordinates. -/
def positionTokens (packet : Bytes) : Option (List FieldToken) :=
  (reportBody packet).bind fun fields => tokens atPosition nextField fields.length fields

/-! ## The request id -/

theorem lrrpFields_eq (fields : Bytes) : lrrpFields fields = reportFields fields := by
  unfold lrrpFields reportFields
  cases fields with
  | nil => rfl
  | cons token rest =>
    cases rest with
    | nil => rfl
    | cons length rest =>
      simp only [List.length_cons, List.getD_cons_zero, List.getD_cons_succ, Nat.le_add_left,
        true_and, skipField]
      split_ifs with htoken hshort hcut hcut
      · rfl
      · omega
      · omega
      · rw [Nat.add_comm, List.drop_succ_cons, List.drop_succ_cons]
      · rfl

theorem skipRequestId_eq (fields : Bytes) :
    skipRequestId fields = (reportFields fields).getD [] := by
  unfold skipRequestId reportFields
  simp only
  split_ifs with h hlength
  · exact List.drop_of_length_le (by omega)
  · rfl
  · rfl

theorem readUint16_drop (packet : Bytes) (n i : ℕ) :
    readUint16 (packet.drop n) i = readUint16 packet (n + i) := by
  simp [readUint16, List.getD_eq_getElem?_getD, Nat.add_assoc]

/-! ## The decoders -/

section Decoders

variable {arsServerIp subscriberIp : ℕ} {packet : Bytes}

theorem length_of_reportFields {raw fields : Bytes} (h : reportFields raw = some fields) :
    fields.length ≤ raw.length := by
  unfold reportFields at h
  simp only at h
  split_ifs at h
  · rw [← Option.some.inj h, List.length_drop]
    omega
  · rw [Option.some.inj h]

theorem length_of_reportBody {fields : Bytes} (h : reportBody packet = some fields) :
    fields.length ≤ (reportPayload packet).length - 2 := by
  unfold reportBody at h
  simp only at h
  split_ifs at h
  have hlength := length_of_reportFields h
  rw [List.length_drop, List.length_take] at hlength
  omega

theorem reportBody_of_short (h : udpLength packet < 10) : reportBody packet = none :=
  if_pos (Or.inl h)

theorem positionTokens_iff {accepts : FieldToken → Bool} {reaches : ℕ → Bytes → Bool}
    (hloop : FieldLoop accepts reaches) :
    ((reportBody packet).any fun fields => reaches fields.length fields) = true ↔
      ∃ ts, positionTokens packet = some ts ∧ ts.all accepts = true := by
  rw [positionTokens]
  cases reportBody packet with
  | none => simp
  | some fields =>
    rw [Option.any_some, hloop.walker.eq_any, Option.bind_some]
    cases tokens atPosition nextField fields.length fields <;> simp

variable (h : LocationPacket arsServerIp subscriberIp packet)

include h

theorem host_eq : parseMotorolaLocationReport arsServerIp subscriberIp packet =
    (reportBody packet).bind fun fields =>
      (walkReport fields.length kMotorolaLrrpResultUnknown fields).map fun found =>
        ⟨(reportPayload packet).getD 0 0 &&& 0x7F, readUint16 packet (headerLength packet), found.1,
          found.2⟩ := by
  obtain ⟨hdatagram, hfits⟩ := h.datagram
  have htotal := h.total
  have hheader := h.header
  have hhead : (packet.getD 0 0 &&& 0x0F).toNat * 4 = headerLength packet := rfl
  have hudp : readUint16 packet (headerLength packet + 4) = udpLength packet := rfl
  have hpayload : (packet.drop (headerLength packet + 8)).take (udpLength packet - 8) =
    reportPayload packet := rfl
  unfold parseMotorolaLocationReport
  simp only [readUint16_drop, Nat.add_zero, hhead, hudp, List.drop_drop, hpayload]
  by_cases hshort : udpLength packet < 10
  · rw [reportBody_of_short hshort, if_pos (Or.inr (Or.inl hshort))]
    split_ifs <;> rfl
  · rw [if_neg, if_neg, if_neg, reportBody]
    · simp only [hshort, false_or]
      by_cases hbad : ((reportPayload packet).getD 0 0 &&& 0x7F ≠ 0x07 ∧
          (reportPayload packet).getD 0 0 &&& 0x7F ≠ 0x0D) ∨
          (reportPayload packet).length < ((reportPayload packet).getD 1 0).toNat + 2
      · rw [if_pos hbad, if_pos hbad]
        rfl
      · rw [if_neg hbad, if_neg hbad, if_neg (not_not.mpr h.udpChecksum)]
        simp only [Option.bind_eq_bind, Option.pure_def, Option.map_eq_bind]
        rfl
    · rintro (hp | hl | hf)
      · exact hp h.ports
      · omega
      · omega
    · rintro (hl | hl | hl | hs | ht | hc)
      · omega
      · omega
      · omega
      · exact hs h.source
      · exact ht h.target
      · exact hc h.ipChecksum
    · rintro (hl | hv | hp)
      · omega
      · exact hv h.version
      · exact hp h.protocol

theorem bridge_eq : extractMotorolaLrrpPayload packet =
    (reportBody packet).bind fun fields =>
      (hasLrrpPosition fields.length fields).map fun found => (reportPayload packet, found) := by
  obtain ⟨hdatagram, hfits⟩ := h.datagram
  have htotal := h.total
  have hheader := h.header
  have hhead : (packet.getD 0 0 &&& 0x0F).toNat * 4 = headerLength packet := rfl
  have hudp : readUint16 packet (headerLength packet + 4) = udpLength packet := rfl
  have hpayload : (packet.drop (headerLength packet + 8)).take (udpLength packet - 8) =
    reportPayload packet := rfl
  unfold extractMotorolaLrrpPayload
  simp only [hhead, hudp, hpayload, lrrpFields_eq]
  by_cases hshort : udpLength packet < 10
  · rw [reportBody_of_short hshort, if_pos (Or.inr (Or.inl hshort))]
    split_ifs <;> rfl
  · rw [if_neg, if_neg, if_neg, reportBody]
    · simp only [hshort, false_or]
      by_cases hbad : ((reportPayload packet).getD 0 0 &&& 0x7F ≠ 0x07 ∧
          (reportPayload packet).getD 0 0 &&& 0x7F ≠ 0x0D) ∨
          (reportPayload packet).length < ((reportPayload packet).getD 1 0).toNat + 2
      · rw [if_pos hbad, if_pos hbad]
        rfl
      · rw [if_neg hbad, if_neg hbad]
        simp only [Option.bind_eq_bind, Option.pure_def, Option.map_eq_bind]
        rfl
    · rintro (hp | hl | hf)
      · exact hp h.ports
      · omega
      · omega
    · rintro (hl | hl | hl)
      · omega
      · omega
      · omega
    · rintro (hl | hv | hp)
      · omega
      · exact hv h.version
      · exact hp h.protocol

theorem dashboard_eq (round7 : ℚ → ℚ) (hlength : 39 ≤ packet.length) :
    decodeMotorolaLrrpPosition round7 packet =
      (reportBody packet).bind fun fields => positionFields round7 fields.length fields := by
  obtain ⟨hdatagram, hfits⟩ := h.datagram
  have htotal := h.total
  have hheader := h.header
  have hhead : (packet.getD 0 0 &&& 0x0F).toNat * 4 = headerLength packet := rfl
  have hudp : readUint16 packet (headerLength packet + 4) = udpLength packet := rfl
  have hpayload : (packet.drop (headerLength packet + 8)).take (udpLength packet - 8) =
    reportPayload packet := rfl
  unfold decodeMotorolaLrrpPosition
  simp only [hhead, hudp, hpayload, skipRequestId_eq]
  by_cases hshort : udpLength packet < 10
  · rw [reportBody_of_short hshort, if_pos (Or.inl hshort)]
    split_ifs <;> rfl
  · have htwo : 2 ≤ (reportPayload packet).length := by
      rw [reportPayload, List.length_take, List.length_drop]
      omega
    rw [if_neg, if_neg, if_neg, reportBody]
    · simp only [hshort, false_or, Nat.not_lt.mpr htwo]
      by_cases htype : (reportPayload packet).getD 0 0 &&& 0x7F ≠ 0x07 ∧
          (reportPayload packet).getD 0 0 &&& 0x7F ≠ 0x0D
      · rw [if_pos htype, if_pos (Or.inl htype)]
        rfl
      · rw [if_neg htype]
        by_cases hcut : (reportPayload packet).length <
            ((reportPayload packet).getD 1 0).toNat + 2
        · rw [if_pos hcut, if_pos (Or.inr hcut)]
          rfl
        · rw [if_neg hcut, if_neg (not_or.mpr ⟨htype, hcut⟩)]
          cases reportFields _ <;> rfl
    · omega
    · omega
    · rintro (hl | hv | hp)
      · omega
      · exact hv h.version
      · exact hp h.protocol

theorem host_iff :
    (∃ report, parseMotorolaLocationReport arsServerIp subscriberIp packet = some report ∧
      report.hasPosition = true) ↔
    ∃ ts, positionTokens packet = some ts ∧ ts.all hostAccepts = true := by
  rw [host_eq h, ← positionTokens_iff (host_loop kMotorolaLrrpResultUnknown)]
  cases reportBody packet with
  | none => simp
  | some fields =>
    simp only [Option.bind_some, Option.any_some]
    cases walkReport fields.length kMotorolaLrrpResultUnknown fields <;> simp

theorem bridge_iff :
    (∃ payload, extractMotorolaLrrpPayload packet = some (payload, true)) ↔
    ∃ ts, positionTokens packet = some ts ∧ ts.all bridgeAccepts = true := by
  rw [bridge_eq h, ← positionTokens_iff bridge_loop]
  cases reportBody packet with
  | none => simp
  | some fields =>
    simp only [Option.bind_some, Option.any_some]
    cases hasLrrpPosition fields.length fields <;> simp

theorem dashboard_iff (round7 : ℚ → ℚ) : (decodeMotorolaLrrpPosition round7 packet).isSome = true ↔
    ∃ ts, positionTokens packet = some ts ∧ ts.all dashboardAccepts = true := by
  by_cases hlength : 39 ≤ packet.length
  · rw [dashboard_eq h round7 hlength, ← positionTokens_iff (dashboard_loop round7)]
    cases reportBody packet with
    | none => simp
    | some fields => simp only [Option.bind_some, Option.any_some]
  · have hnone : decodeMotorolaLrrpPosition round7 packet = none := if_pos (Or.inl (by omega))
    rw [hnone]
    refine iff_of_false (by simp) ?_
    rintro ⟨ts, hts, -⟩
    obtain ⟨fields, hbody, htokens⟩ := Option.bind_eq_some_iff.mp hts
    have hbody' := length_of_reportBody hbody
    have hfields := length_of_tokens htokens
    rw [reportPayload, List.length_take, List.length_drop] at hbody'
    have hheader := h.header
    omega

end Decoders

/-- Each field in front of the coordinates is known to all three, or some field stops the data host and
the bridge and another one the dashboard. -/
def Comparable (packet : Bytes) : Prop :=
  ∀ ts, positionTokens packet = some ts →
    (∀ t ∈ ts, hostAccepts t = true ∧ dashboardAccepts t = true) ∨
      ((∃ t ∈ ts, bridgeAccepts t = false) ∧ ∃ t ∈ ts, dashboardAccepts t = false)

theorem bridgeAccepts_of_hostAccepts {t : FieldToken} (h : hostAccepts t = true) :
    bridgeAccepts t = true := by
  cases t with
  | result vlq =>
    simp only [hostAccepts, decide_eq_true_iff] at h
    exact decide_eq_true h.1
  | velocity => cases h
  | _ => rfl

/-- **When the three decoders agree.** -/
theorem decoders_agree_iff {arsServerIp subscriberIp : ℕ} (round7 : ℚ → ℚ) {packet : Bytes}
    (h : LocationPacket arsServerIp subscriberIp packet) :
    ((∃ report, parseMotorolaLocationReport arsServerIp subscriberIp packet = some report ∧
        report.hasPosition = true) ↔
      ∃ payload, extractMotorolaLrrpPayload packet = some (payload, true)) ∧
    ((∃ payload, extractMotorolaLrrpPayload packet = some (payload, true)) ↔
      (decodeMotorolaLrrpPosition round7 packet).isSome = true) ↔ Comparable packet := by
  rw [host_iff h, bridge_iff h, dashboard_iff h round7, Comparable]
  cases positionTokens packet with
  | none => simp
  | some ts =>
    simp only [Option.some.injEq, exists_eq_left', forall_eq']
    have hbridge : ts.all hostAccepts = true → ts.all bridgeAccepts = true := by
      simp only [List.all_eq_true]
      exact fun hall t ht => bridgeAccepts_of_hostAccepts (hall t ht)
    have hboth : (∀ t ∈ ts, hostAccepts t = true ∧ dashboardAccepts t = true) ↔
        ts.all hostAccepts = true ∧ ts.all dashboardAccepts = true := by
      simp only [List.all_eq_true]
      exact ⟨fun hall => ⟨fun t ht => (hall t ht).1, fun t ht => (hall t ht).2⟩,
        fun hall t ht => ⟨hall.1 t ht, hall.2 t ht⟩⟩
    have hstop : ∀ accepts : FieldToken → Bool,
        (∃ t ∈ ts, accepts t = false) ↔ ¬ ts.all accepts = true := by
      intro accepts
      simp
    rw [hboth, hstop, hstop]
    tauto

section Samples

/-- A report of the radio 12.0.0.2 to the server 10.0.0.2. -/
def reportPacket (report : Bytes) : Bytes :=
  buildIpv4UdpPacket (addressToString ⟨12, 0, 0, 2⟩) (addressToString ⟨10, 0, 0, 2⟩) 4001 4001 report

/-- A point behind a result code. -/
def pointReport : Bytes := [0x0D, 0x0B, 0x37, 0x00, 0x66, 0x20, 0, 0, 0, 0x10, 0, 0, 0]

/-- A point behind a direction. -/
def directedReport : Bytes := [0x0D, 0x0B, 0x56, 0x2D, 0x66, 0x20, 0, 0, 0, 0x10, 0, 0, 0]

theorem decoders_agree_sample :
    (((∃ report, parseMotorolaLocationReport 0x0A000002 0x0C000002 (reportPacket pointReport) =
          some report ∧ report.hasPosition = true) ↔
        ∃ payload, extractMotorolaLrrpPayload (reportPacket pointReport) = some (payload, true)) ∧
      ((∃ payload, extractMotorolaLrrpPayload (reportPacket pointReport) = some (payload, true)) ↔
        (decodeMotorolaLrrpPosition id (reportPacket pointReport)).isSome = true)) ↔
      Comparable (reportPacket pointReport) :=
  decoders_agree_iff id
    { version := by decide +kernel
      protocol := by decide +kernel
      header := by decide +kernel
      total := by decide +kernel
      datagram := by decide +kernel
      source := by decide +kernel
      target := by decide +kernel
      ports := by decide +kernel
      ipChecksum := by decide +kernel
      udpChecksum := by decide +kernel }

/-- The bridge sends a point behind a direction, and the dashboard does not show it. -/
theorem not_decoders_agree_direction :
    LocationPacket 0x0A000002 0x0C000002 (reportPacket directedReport) ∧
      (∃ payload, extractMotorolaLrrpPayload (reportPacket directedReport) = some (payload, true)) ∧
      ¬ (decodeMotorolaLrrpPosition id (reportPacket directedReport)).isSome = true := by
  refine ⟨?_, ⟨directedReport, by decide +kernel⟩, by decide +kernel⟩
  exact
    { version := by decide +kernel
      protocol := by decide +kernel
      header := by decide +kernel
      total := by decide +kernel
      datagram := by decide +kernel
      source := by decide +kernel
      target := by decide +kernel
      ports := by decide +kernel
      ipChecksum := by decide +kernel
      udpChecksum := by decide +kernel }

end Samples

end Location
