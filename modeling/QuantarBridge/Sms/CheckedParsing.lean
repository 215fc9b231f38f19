import QuantarBridge.Lib.Checked
import QuantarBridge.Sms.Handler
import QuantarBridge.Sms.Payloads

/-!
# Inbound parsing with checked reads

The parsers of received packets read a buffer by index, in loops with strides of their own, and call
conversions that may throw. Here they are once more with every read checked; each loop is shown to end.

* `extractText`, `parseMotorolaTms`, `extractTmsTextFragment`: text messages;
* `extractMotorolaLrrpPayload`: location reports;
* `handleBrandmeisterPacketData`: a received packet.
-/

set_option autoImplicit false

namespace Sms.Checked

open Lib PacketData

/-! ## What may throw -/

/-- The conversion to UTF-8. No surrogate may be passed. -/
def toUtf8 (units : List ℕ) : Checked Bytes :=
  if ∃ unit ∈ units, 0xD800 ≤ unit ∧ unit ≤ 0xDFFF then .error .conversion else .ok (toBytes units)

/-- A number of 32 bits. -/
def stoul (digits : Bytes) : Checked ℕ :=
  let value := digitsValue (digits.map fun c => c.toNat - 0x30)
  if digits = [] ∨ (∃ c ∈ digits, ¬ (0x30 ≤ c ∧ c ≤ 0x39)) ∨ 2 ^ 32 ≤ value then .error .outOfRange
  else .ok value

/-! ## Text messages -/

/-- A little-endian code unit. -/
def unitAt (data : Bytes) (i : ℕ) : Checked ℕ := do
  let low ← read data i
  let high ← read data (i + 1)
  return low.toNat + high.toNat * 256

/-- The loop over the code units. -/
def longestLoop (data : Bytes) (offset : ℕ) (current best : List ℕ) : Checked (List ℕ) :=
  if offset + 1 < data.length then do
    let value ← unitAt data offset
    if value = 0 then longestLoop data (offset + 2) [] (longer best current)
    else if isPrintableUtf16 value then longestLoop data (offset + 2) (current ++ [value]) best
    else longestLoop data (offset + 2) [] (longer best current)
  else return longer best current
termination_by data.length - offset

/-- The longest printable run of a message, as its text. -/
def extractText (data : Bytes) : Checked Bytes :=
  if data.length < 4 then return []
  else do
    let best ← longestLoop data 0 [] []
    if best.length < 3 then return [] else return trim (← toUtf8 best)

/-- The loop over the characters behind the marker. -/
def fragmentLoop (data : Bytes) (i : ℕ) (out : Bytes) : Checked Bytes :=
  if i < data.length then do
    if ← (.ok (decide (i + 1 < data.length)) <&&> test data i (· = 0x00) <&&>
        .ok (decide (i + 2 < data.length)) <&&> test data (i + 2) (· = 0x00) <&&>
        test data (i + 1) isText) then
      fragmentLoop data (i + 3) (out ++ [← read data (i + 1)])
    else if ← (.ok (decide (i + 1 < data.length)) <&&> test data (i + 1) (· = 0x00) <&&>
        test data i isText) then
      fragmentLoop data (i + 2) (out ++ [← read data i])
    else if ← test data i isText then return out ++ [← read data i]
    else return out
  else return out
termination_by data.length - i

/-- The text behind a marker. -/
def extractTmsTextFragment (data : Bytes) (markerOffset : ℕ) : Checked Bytes := do
  return trim (← fragmentLoop data (markerOffset + 2) [])

/-- Where the text behind the line break starts. -/
def findLineBreak (data : Bytes) (i : ℕ) : Checked (Option ℕ) :=
  if i + 3 < data.length then do
    if ← (test data i (· = 0x0D) <&&> test data (i + 1) (· = 0x00) <&&>
        test data (i + 2) (· = 0x0A) <&&> test data (i + 3) (· = 0x00)) then
      return some (i + 4)
    else findLineBreak data (i + 2)
  else return none
termination_by data.length - i

/-- The loop over the code units of the text. -/
def decodeLoop (data : Bytes) (i : ℕ) (decoded : List ℕ) : Checked (Option (List ℕ)) :=
  if i + 1 < data.length then do
    let value ← unitAt data i
    if value = 0 then return some decoded
    else if isPrintableUtf16 value then decodeLoop data (i + 2) (decoded ++ [value])
    else return none
  else return some decoded
termination_by data.length - i

/-- A message from a server. -/
def parseServerText (data : Bytes) (textOffset : ℕ) : Checked (Option ParsedSmsPacket) := do
  match ← decodeLoop data textOffset [] with
  | none => return none
  | some [] => return none
  | some (unit :: decoded) =>
    let operation ← read data 2
    let number ← read data 4
    let text := trim (← toUtf8 (unit :: decoded))
    if text = [] then return none
    else
      return some {
        text := text
        textFragment := []
        operation := operation
        messageId := number &&& 0x1F }

/-- Where the marker stands first, from an index on. -/
def findMarker (data : Bytes) (i : ℕ) : Checked (Option ℕ) :=
  if i + 1 < data.length then do
    if ← (test data i (· = 0x80) <&&> test data (i + 1) (· = 0x04)) then return some i
    else findMarker data (i + 1)
  else return none
termination_by data.length - i

/-- The loop over the digits in front of the marker. -/
def digitsLoop (data : Bytes) (markerOffset i : ℕ) (digits : Bytes) : Checked Bytes :=
  if i + 1 < markerOffset then do
    if ← (test data (i + 1) (· = 0x00) <&&> test data i fun c => 0x30 ≤ c ∧ c ≤ 0x39) then
      digitsLoop data markerOffset (i + 2) (digits ++ [← read data i])
    else digitsLoop data markerOffset (i + 2) digits
  else return digits
termination_by markerOffset - i

/-- A message behind the marker. -/
def parseMarked (data : Bytes) : Checked (Option ParsedSmsPacket) := do
  match ← findMarker data 0 with
  | none => return none
  | some i =>
    let operation ← read data 2
    let number ← read data i
    let textFragment ← extractTmsTextFragment data i
    let digits ← digitsLoop data i 0 []
    let sourceRid ← if 7 ≤ digits.length then stoul (digits.take 7) else .ok 0
    return some {
        sourceRid := sourceRid
        text := []
        textFragment := textFragment
        operation := operation
        messageId := number &&& 0x1F }

/-- The text message in a datagram. -/
def parseMotorolaTms (data : Bytes) : Checked (Option ParsedSmsPacket) :=
  if data.length < 12 then return none
  else do
    if ← test data 2 (· = 0xE0) then
      match ← findLineBreak data 4 with
      | some textOffset => parseServerText data textOffset
      | none => parseMarked data
    else parseMarked data

/-! ## Location reports -/

/-- A big-endian word. -/
def uint16At (data : Bytes) (i : ℕ) : Checked ℕ := do
  let high ← read data i
  let low ← read data (i + 1)
  return high.toNat * 256 + low.toNat

/-- Skip a number, the result is behind it. -/
def skipMotorolaVlq (data : Bytes) (length : ℕ) :
    ℕ → (offset : ℕ) → Checked (Option { next : ℕ // offset < next })
  | 0, _ => return none
  | count + 1, offset =>
    if offset < length then do
      if ← test data offset (· &&& 0x80 = 0) then return some ⟨offset + 1, Nat.lt_succ_self offset⟩
      else
        match ← skipMotorolaVlq data length count (offset + 1) with
        | none => return none
        | some next => return some ⟨next.1, Nat.lt_of_succ_lt next.2⟩
    else return none

/-- The loop over the fields of a report. -/
def lrrpLoop (lrrp : Bytes) (reportLength offset : ℕ) : Checked (Option Bool) :=
  if offset < reportLength then do
    let tag ← read lrrp offset
    if tag = 0x34 then
      if reportLength < offset + 6 then return none else lrrpLoop lrrp reportLength (offset + 6)
    else if tag = 0x37 then
      match ← skipMotorolaVlq lrrp reportLength 5 (offset + 1) with
      | none => return none
      | some next =>
        have := next.2
        lrrpLoop lrrp reportLength next.1
    else if tag = 0x51 ∨ tag = 0x55 ∨ tag = 0x66 ∨ tag = 0x69 then
      if reportLength < offset + 9 then return none else return some true
    else if tag = 0x56 then
      if reportLength < offset + 2 then return none else lrrpLoop lrrp reportLength (offset + 2)
    else if tag = 0x6C then
      match ← skipMotorolaVlq lrrp reportLength 5 (offset + 1) with
      | none => return none
      | some next =>
        match ← skipMotorolaVlq lrrp reportLength 5 next.1 with
        | none => return none
        | some last =>
          have := next.2
          have := last.2
          lrrpLoop lrrp reportLength last.1
    else return some false
  else return some false
termination_by reportLength - offset

/-- Where the fields behind the request id start. -/
def skipRequestId (lrrp : Bytes) (reportLength : ℕ) : Checked (Option ℕ) := do
  if ← (.ok (decide (2 + 2 ≤ reportLength)) <&&> test lrrp 2 (· = 0x22)) then
    let requestIdLength ← read lrrp 3
    if reportLength < 2 + 2 + requestIdLength.toNat then return none
    else return some (2 + (2 + requestIdLength.toNat))
  else return some 2

/-- A report that fills its datagram. -/
def readReport (lrrp : Bytes) : Checked (Option (Bytes × Bool)) := do
  let messageType := (← read lrrp 0) &&& 0x7F
  if messageType ≠ 0x07 ∧ messageType ≠ 0x0D then return none
  else
    let reportLength := (← read lrrp 1).toNat + 2
    if lrrp.length < reportLength then return none
    else
      match ← skipRequestId lrrp reportLength with
      | none => return none
      | some offset =>
        match ← lrrpLoop lrrp reportLength offset with
        | none => return none
        | some hasPosition => return some (lrrp, hasPosition)

/-- The location report in a captured packet. -/
def extractMotorolaLrrpPayload (packet : Bytes) : Checked (Option (Bytes × Bool)) := do
  if ← (.ok (decide (packet.length < 30)) <||> test packet 0 (· >>> 4 ≠ 4) <||>
      test packet 9 (· ≠ 0x11)) then return none
  else
    let ipHeaderLength := ((← read packet 0) &&& 0x0F).toNat * 4
    let packetLength ← uint16At packet 2
    if ipHeaderLength < 20 ∨ packet.length < packetLength ∨ packetLength < ipHeaderLength + 10 then
      return none
    else
      let sourcePort ← uint16At packet ipHeaderLength
      let targetPort ← uint16At packet (ipHeaderLength + 2)
      let udpLength ← uint16At packet (ipHeaderLength + 4)
      let locationPorts := (sourcePort = 49198 ∧ targetPort = 49198) ∨
        (sourcePort = 4001 ∧ targetPort = 4001)
      if ¬ locationPorts ∨ udpLength < 10 ∨ packetLength < ipHeaderLength + udpLength then return none
      else
        readReport (← span packet (ipHeaderLength + 8) (udpLength - 8))

/-! ## Received packets -/

/-- The address at an offset. -/
def addressAt (packet : Bytes) (i : ℕ) : Checked Address := do
  return ⟨← read packet i, ← read packet (i + 1), ← read packet (i + 2), ← read packet (i + 3)⟩

/-- Acknowledge a message to its sender. -/
def sendBrandmeisterTmsAcknowledgement (w : Wiring) (sourceRid targetRid slotNo : ℕ)
    (ipv4Packet : Bytes) (sourcePort targetPort : ℕ) (requestOperation messageId : UInt8) :
    Checked (Option PacketDataWrite) :=
  if w.writerSet = false ∨ ipv4Packet.length < 20 then return none
  else do
    let acknowledgementOperation := 0x9F ||| (requestOperation &&& 0x20)
    let acknowledgementPacket := buildIpv4UdpPacket (addressToString (← addressAt ipv4Packet 16))
      (addressToString (← addressAt ipv4Packet 12)) targetPort sourcePort
      [0x00, 0x03, acknowledgementOperation, 0x00, messageId &&& 0x1F]
    if acknowledgementPacket = [] then return none
    else return some ⟨targetRid, sourceRid, slotNo, acknowledgementPacket⟩

/-- The text of a message, by its layout or as a printable run. -/
def textOfMessage (data : Bytes) (parsed : Option ParsedSmsPacket) : Checked Bytes := do
  let text := match parsed with
    | some parsed => if parsed.text ≠ [] then parsed.text else parsed.textFragment
    | none => []
  return trim (← if text = [] then extractText data else .ok text)

/-- Handle an IPv4 packet. -/
def handleBrandmeisterPacketData (w : Wiring) (s : TextState) (c : Clocks) (o : FileOutcomes)
    (sourceRid targetRid slotNo : ℕ) (ipv4Packet : Bytes) : Checked HandlerOutcome := do
  if ← (.ok (decide (ipv4Packet.length < 28)) <||> test ipv4Packet 0 (· >>> 4 ≠ 4) <||>
      test ipv4Packet 9 (· ≠ 0x11)) then return .idle s false
  else
    let ipHeaderLength := ((← read ipv4Packet 0) &&& 0x0F).toNat * 4
    let ipTotalLength ← uint16At ipv4Packet 2
    if ipHeaderLength < 20 ∨ ipv4Packet.length < ipHeaderLength + 8 ∨
        ipTotalLength < ipHeaderLength + 8 ∨ ipv4Packet.length < ipTotalLength then
      return .idle s false
    else
      let sourcePort ← uint16At ipv4Packet ipHeaderLength
      let targetPort ← uint16At ipv4Packet (ipHeaderLength + 2)
      let udpLength ← uint16At ipv4Packet (ipHeaderLength + 4)
      if udpLength < 8 ∨ ipTotalLength < ipHeaderLength + udpLength then return .idle s false
      else
        let tmsPayload ← span ipv4Packet (ipHeaderLength + 8) (udpLength - 8)
        if ← (.ok (decide (3 ≤ tmsPayload.length)) <&&> test tmsPayload 2 (· &&& 0x1F = 0x1F)) then
          let _messageReference ← if 4 < tmsPayload.length then read tmsPayload 4 else .ok 0
          let _deliveryStatus ← if 5 < tmsPayload.length then read tmsPayload 5 else .ok 0
          return .idle s true
        else
          let parsed ← parseMotorolaTms tmsPayload
          let text ← textOfMessage tmsPayload parsed
          if text = [] then return .idle s false
          else
            let q := queueBrandmeisterText w.routePathSet s c o sourceRid targetRid text
            if q.result = .FAILED then return ⟨q.state, false, some q.result, q.effects, none⟩
            else
              let acknowledgement ← match parsed with
                | none => .ok none
                | some parsed =>
                  sendBrandmeisterTmsAcknowledgement w sourceRid targetRid slotNo ipv4Packet sourcePort
                    targetPort parsed.operation parsed.messageId
              return ⟨q.state, true, some q.result, q.effects, acknowledgement⟩

end Sms.Checked
