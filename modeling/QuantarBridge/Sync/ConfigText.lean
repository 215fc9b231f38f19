import Mathlib.Data.List.Basic
import Mathlib.Data.Nat.Notation

/-!
# Editing the bridge configuration as text

The synchronisation of the static talkgroups edits `quantarbridge.yml` line by line: it replaces the
block `staticTalkgroups` and adds what an older file lacks. A line keeps its newline, so the text is
the concatenation of its lines.

* `keepLines`, `flatten_keepLines`: the lines of a text;
* `splitBlock`: the text in front of the block, the block, and the text behind it;
* `updateText`: the updated configuration;
* `buildTalkgroupRules`: the talkgroup rules for the peers of the local network.
-/

set_option autoImplicit false

namespace Sync

/-- A text without carriage returns. -/
abbrev Text := List Char

/-- The lines of a text with their newlines. -/
def keepLines : Text → List Text
  | [] => []
  | c :: text =>
    if c = '\n' then [c] :: keepLines text
    else match keepLines text with
      | [] => [[c]]
      | line :: lines => (c :: line) :: lines

/-- A line of text. -/
def line (text : String) : Text := (text ++ "\n").toList

/-- White space, as in regular expressions. -/
def isSpace (c : Char) : Bool :=
  c ∈ [' ', '\t', '\n', '\r', '\x0b', '\x0c', '\x1c', '\x1d', '\x1e', '\x1f', '\u0085', '\u00a0',
    '\u1680', '\u2028', '\u2029', '\u202f', '\u205f', '\u3000'] ∨
    ('\u2000' ≤ c ∧ c ≤ '\u200a')

/-- A blank or a tab. -/
def isBlank (c : Char) : Bool := c = ' ' ∨ c = '\t'

/-- The first line of the block of static talkgroups. -/
def opensBlock (l : Text) : Bool := "  staticTalkgroups:".toList.isPrefixOf l

/-- A line of the block: a list item that is indented by two blanks or more. -/
def isItem (l : Text) : Bool :=
  2 ≤ (l.takeWhile isBlank).length ∧ (l.dropWhile isBlank).head? = some '-'

/-- The lines in front of the block, the lines of the block, and those behind it. -/
def splitBlock (lines : List Text) : Option (List Text × List Text × List Text) :=
  match lines.dropWhile fun l => !opensBlock l with
  | [] => none
  | l :: rest =>
    some (lines.takeWhile fun l => !opensBlock l, l :: rest.takeWhile isItem, rest.dropWhile isItem)

/-- The lines of the static talkgroups. -/
def formatStaticTalkgroupsBlock : List ℕ → List Text
  | [] => [line "  staticTalkgroups: []"]
  | tgs => line "  staticTalkgroups:" :: tgs.map fun tg => line ("    - " ++ toString tg)

/-- A line has the key, perhaps with white space or empty lines in front of the colon. -/
def hasTalkgroupMappings : List Text → Bool
  | [] => false
  | l :: lines =>
    ("  talkgroupMappings".toList.isPrefixOf l ∧
      ((l.drop "  talkgroupMappings".length ++ lines.flatten).dropWhile isSpace).head? = some ':') ∨
    hasTalkgroupMappings lines

/-- Add the key behind the block when it is missing. -/
def ensureTalkgroupMappings (lines : List Text) : Option (List Text) :=
  if hasTalkgroupMappings lines then some lines
  else (splitBlock lines).map fun (before, block, after) =>
    before ++ block ++ line "  talkgroupMappings: []" :: after

/-- A line with nothing but the key. -/
def opensSms (l : Text) : Bool := "sms:".toList.isPrefixOf l ∧ (l.drop 4).all isSpace

/-- The section `sms` as it is added. -/
def smsConfigBlock : Text := ("sms:\n  enabled: true\n  bindAddress: \"127.0.0.1\"\n" ++
  "  arsPort: 4015\n  tmsPort: 4017\n  outboundAddress: \"127.0.0.1\"\n  outboundArsPort: 4005\n" ++
  "  outboundTmsPort: 4007\n  outboundMode: \"brandmeister\"\n  bmSourceIp: \"auto\"\n" ++
  "  bmTargetIp: \"auto\"\n  bmSlot: 2\n" ++
  "  inboxPath: \"/home/quantar/quantar-runtime/sms/quantarbridge-inbox\"\n" ++
  "  outboxPath: \"/home/quantar/quantar-runtime/sms/outbox\"\n" ++
  "  sentPath: \"/home/quantar/quantar-runtime/sms/sent\"\n" ++
  "  p25OutboxPath: \"/home/quantar/quantar-runtime/sms/p25-outbox\"\n" ++
  "  serviceRoutePath: \"/home/quantar/quantar-runtime/sms/service-routes\"\n" ++
  "  pollIntervalMs: 100\n  maxPacketBytes: 2048\n  decodeUtf16Le: true").toList

/-- The text without white space at its end. -/
def rstrip (text : Text) : Text := (text.reverse.dropWhile isSpace).reverse

/-- The updated configuration. There is none when the file has no block of static talkgroups. -/
def updateText (text : Text) (staticTalkgroups : List ℕ) : Option Text := do
  let (before, _, after) ← splitBlock (keepLines text)
  let replaced := (before ++ formatStaticTalkgroupsBlock staticTalkgroups ++ after).flatten
  let lines ← ensureTalkgroupMappings (keepLines replaced)
  return if lines.any opensSms then lines.flatten
    else rstrip lines.flatten ++ "\n\n".toList ++ smsConfigBlock ++ ['\n']

/-- The rules of the FNE. -/
def buildTalkgroupRules (inclusionPeers : List ℕ) : Text :=
  (["groupVoice:", "  - name: BM Dynamic Slot2", "    alias: BrandMeister", "    config:",
      "      active: true", "      affiliated: false"] ++
    (if inclusionPeers = [] then ["      inclusion: []"]
      else "      inclusion:" :: inclusionPeers.map fun peerId => "        - " ++ toString peerId) ++
    ["      exclusion: []", "      rewrite: []", "      always: []", "      preferred: []",
      "      rid_permitted: []", "    source:", "      tgid: 0", "      slot: 2"]).flatMap line

end Sync
