import QuantarBridge.Lib.Backlog
import QuantarBridge.Sms.OutboxQueue

/-!
# How far the polls of the outbox get

A poll looks at the first eight files and leaves those that cannot be sent where they are. They are
looked at again by the next poll, so what stays in front keeps the polls from the files behind it.

* `trial`: what processing a file returns for a writer that accepts every packet;
* `polls`: some polls of the outbox, without new arrivals;
* `processOutboundQueue_spec`: **a poll is a turn over the names of the files**;
* `polls_archive_iff`: **exactly when the polls archive every file that can be sent**.
-/

set_option autoImplicit false

namespace Sms

open Lib PacketData Program

/-! ## What processing a file returns -/

/-- A writer that accepts every packet. -/
def Accepting {σ ε : Type} (writer : PacketWriter σ ε) : Prop :=
  ∀ s sourceRid targetRid slotNo packet, (writer s sourceRid targetRid slotNo packet).1 = true

/-- A writer that accepts every packet. -/
def acceptEverything : PacketWriter Unit Unit := fun s _ _ _ _ => (true, s, [])

/-- What processing a file returns when the writer accepts every packet. -/
def trial (cfg : OutboundConfig) (content : OutboxContent) (o : ArchiveOutcome) :
    Except Stop PUnit :=
  (exec (processOutboundFile cfg acceptEverything content o []) ⟨(), 0, []⟩).1

/-- What sending a file that was read returns. -/
def sendResult (cfg : OutboundConfig) (d : OutboxDocument) (o : ArchiveOutcome) (p : Prepared) :
    Except Stop PUnit :=
  if p.useBrandmeister then do
    let r ← bmPlan cfg d p
    if r.2.all (· ≠ []) then .ok ⟨⟩ else .error .refused
  else if (if p.useTms then cfg.tmsTargetValid else cfg.arsTargetValid) = true ∧ o.datagramSent then
    .ok ⟨⟩
  else .error .refused

/-- The names of the archived files. -/
def archivedOf {ε : Type} (effects : List (OutboundEffect ε)) : List Bytes :=
  effects.filterMap fun
    | .archived path => some path
    | _ => none

/-- An archived file is renamed or copied. -/
def ArchiveOutcome.archives (o : ArchiveOutcome) : Bool := o.renamed ∨ o.copied

section File

variable {σ ε : Type} (cfg : OutboundConfig) {writer : PacketWriter σ ε}

theorem archivedOf_append (effects effects' : List (OutboundEffect ε)) :
    archivedOf (effects ++ effects') = archivedOf effects ++ archivedOf effects' :=
  List.filterMap_append

theorem archivedOf_network (es : List ε) : archivedOf (es.map OutboundEffect.network) = [] := by
  unfold archivedOf
  rw [List.filterMap_map, List.filterMap_eq_nil_iff]
  exact fun _ _ => rfl

theorem exec_handPackets_accepting (hw : Accepting writer) (a : BmAddresses)
    (packets : List Bytes) : ∀ s : OutboundState σ ε,
      (exec (handPackets writer a packets) s).1 =
          (if packets.all (· ≠ []) then .ok ⟨⟩ else .error .refused) ∧
        archivedOf (exec (handPackets writer a packets) s).2.effects = archivedOf s.effects := by
  induction packets with
  | nil => exact fun s => ⟨rfl, rfl⟩
  | cons packet rest ih =>
    intro s
    unfold handPackets
    rw [exec_bind]
    by_cases hnil : packet = []
    · rw [hnil, exec_handPacket_nil]
      exact ⟨by simp, rfl⟩
    · have hyes := hw s.network a.sourceRid a.targetRid a.slotNo packet
      rw [exec_handPacket _ _ hnil]
      generalize writer s.network a.sourceRid a.targetRid a.slotNo packet = r at hyes ⊢
      obtain ⟨accepted, network, es⟩ := r
      obtain rfl : accepted = true := hyes
      obtain ⟨hok, harchived⟩ := ih
        { s with network := network, effects := s.effects ++ es.map OutboundEffect.network }
      refine ⟨?_, ?_⟩
      · simpa [hnil] using hok
      · rw [archivedOf_append, archivedOf_network, List.append_nil] at harchived
        exact harchived

/-- What is archived by a call that returns `r`. -/
def archives (r : Except Stop PUnit) (o : ArchiveOutcome) (path : Bytes) : List Bytes :=
  if r.toBool ∧ o.archives then [path] else []

theorem exec_archiveSent (o : ArchiveOutcome) (path : Bytes) (s : OutboundState σ ε) :
    (exec (archiveSent o path) s).1 = .ok ⟨⟩ ∧ archivedOf (exec (archiveSent o path) s).2.effects =
      archivedOf s.effects ++ archives (.ok ⟨⟩) o path := by
  unfold archiveSent archives ArchiveOutcome.archives
  by_cases h : o.renamed = true ∨ o.copied = true
  · rw [if_pos h, if_pos ⟨rfl, decide_eq_true h⟩]
    exact ⟨rfl, archivedOf_append _ _⟩
  · rw [if_neg h, if_neg fun hn => h (of_decide_eq_true hn.2), List.append_nil]
    exact ⟨rfl, rfl⟩

theorem exec_sendArsDatagram (p : Prepared) (s : OutboundState σ ε) :
    ∃ s', exec (sendArsDatagram cfg p) s = (.ok ⟨⟩, s') ∧
      archivedOf s'.effects = archivedOf s.effects := by
  unfold sendArsDatagram
  cases p.arsPayload with
  | none => exact ⟨s, rfl, rfl⟩
  | some ars =>
    dsimp only
    split_ifs
    · exact ⟨_, rfl, (archivedOf_append _ _).trans (List.append_nil _)⟩
    · exact ⟨s, rfl, rfl⟩

theorem exec_sendOverUdp (o : ArchiveOutcome) (path : Bytes) (p : Prepared)
    (hbm : p.useBrandmeister = false) (d : OutboxDocument) (s : OutboundState σ ε) :
    (exec (sendOverUdp cfg o path p) s).1 = sendResult cfg d o p ∧
      archivedOf (exec (sendOverUdp cfg o path p) s).2.effects =
        archivedOf s.effects ++ archives (sendResult cfg d o p) o path := by
  unfold sendOverUdp sendResult
  rw [hbm, if_neg Bool.false_ne_true]
  generalize (if p.useTms then cfg.tmsTargetValid else cfg.arsTargetValid) = valid
  cases valid with
  | false => exact ⟨rfl, (List.append_nil _).symm⟩
  | true =>
    obtain ⟨s', hs', harchived⟩ := exec_sendArsDatagram cfg p s
    rw [if_neg (by simp), exec_bind, hs', ← harchived]
    dsimp only
    cases hsent : o.datagramSent with
    | false => exact ⟨rfl, (List.append_nil _).symm⟩
    | true =>
      rw [if_pos rfl, if_pos ⟨rfl, rfl⟩]
      obtain ⟨hok, heffects⟩ := exec_archiveSent o path
        { s' with effects := s'.effects ++ [.datagram p.useTms p.payload] }
      rw [archivedOf_append] at heffects
      refine ⟨hok, heffects.trans ?_⟩
      rw [List.append_assoc]
      rfl

/-- **What sending a file returns and archives**, when the writer accepts every packet. -/
theorem exec_send (hw : Accepting writer) (d : OutboxDocument) (o : ArchiveOutcome) (path : Bytes)
    (p : Prepared) (s : OutboundState σ ε) :
    let send : Outbound σ ε PUnit := if p.useBrandmeister then ofResult (bmPlan cfg d p) >>= fun r =>
        handPackets writer r.1 r.2 >>= fun _ => archiveSent o path
      else sendOverUdp cfg o path p
    (exec send s).1 = sendResult cfg d o p ∧ archivedOf (exec send s).2.effects =
      archivedOf s.effects ++ archives (sendResult cfg d o p) o path := by
  dsimp only
  cases hbm : p.useBrandmeister with
  | false => exact exec_sendOverUdp cfg o path p hbm d s
  | true =>
    unfold sendResult
    rw [if_pos rfl, hbm, if_pos rfl, exec_ofResult_bind]
    cases bmPlan cfg d p with
    | error e => exact ⟨rfl, (List.append_nil _).symm⟩
    | ok r =>
      dsimp only
      obtain ⟨hok, harchived⟩ := exec_handPackets_accepting hw r.1 r.2 s
      rw [exec_bind]
      generalize exec (handPackets writer r.1 r.2) s = t at hok harchived ⊢
      obtain ⟨t, s'⟩ := t
      dsimp only at hok harchived ⊢
      rw [← harchived]
      cases hall : r.2.all (· ≠ []) with
      | false =>
        rw [hall] at hok
        subst hok
        simp only [bind, Except.bind, hall]
        exact ⟨rfl, (List.append_nil _).symm⟩
      | true =>
        rw [hall] at hok
        subst hok
        simp only [bind, Except.bind, hall]
        exact exec_archiveSent o path s'

theorem sendResult_similar {p q : Prepared} (h : p.Similar q) (d : OutboxDocument)
    (o : ArchiveOutcome) : sendResult cfg d o p = sendResult cfg d o q := by
  have hplan := bmPlan_alike cfg d h
  have hbm : q.useBrandmeister = p.useBrandmeister := by rw [h.eq]
  have htms : q.useTms = p.useTms := by rw [h.eq]
  unfold sendResult
  rw [hbm, htms]
  split_ifs
  · cases hp : bmPlan cfg d p with
    | error e =>
      cases hq : bmPlan cfg d q with
      | error e' =>
        rw [hp, hq] at hplan
        exact congrArg _ hplan
      | ok r => rw [hp, hq] at hplan; cases hplan
    | ok r =>
      cases hq : bmPlan cfg d q with
      | error e' => rw [hp, hq] at hplan; cases hplan
      | ok r' =>
        rw [hp, hq] at hplan
        have hsame : SamePlan r r' := hplan
        have hall : r'.2.all (· ≠ []) = r.2.all (· ≠ []) := by
          have hpackets := hsame.packets
          generalize r.2 = l at hpackets ⊢
          generalize r'.2 = l' at hpackets ⊢
          induction hpackets with
          | nil => rfl
          | cons hnil _ ih => simp only [List.all_cons, ih, ne_eq, hnil]
        change (if r.2.all (· ≠ []) then _ else _) = if r'.2.all (· ≠ []) then _ else _
        rw [hall]
  all_goals rfl

theorem exec_processOutboundFile_accepting (hw : Accepting writer) (d : OutboxDocument)
    (o : ArchiveOutcome) (path : Bytes) (s : OutboundState σ ε) :
    let r := prepared cfg d 0 >>= sendResult cfg d o
    (exec (processOutboundFile cfg writer (.document d) o path) s).1 = r ∧
      archivedOf (exec (processOutboundFile cfg writer (.document d) o path) s).2.effects =
        archivedOf s.effects ++ archives r o path := by
  obtain ⟨id, h⟩ := exec_processOutboundFile cfg writer d o path s
  have halike := prepared_alike cfg d 0 s.nextTmsMessageId
  rw [h]
  cases hp : prepared cfg d 0 with
  | error e =>
    cases hq : prepared cfg d s.nextTmsMessageId with
    | error e' =>
      rw [hp, hq] at halike
      obtain rfl : e = e' := halike
      exact ⟨rfl, (List.append_nil _).symm⟩
    | ok q => rw [hp, hq] at halike; cases halike
  | ok p =>
    cases hq : prepared cfg d s.nextTmsMessageId with
    | error e' => rw [hp, hq] at halike; cases halike
    | ok q =>
      rw [hp, hq] at halike
      have hsend := exec_send cfg hw d o path q { s with nextTmsMessageId := id }
      rw [← sendResult_similar cfg halike d o] at hsend
      exact hsend

/-- **What a call returns and archives** does not depend on what was sent before. -/
theorem processOutboundFile_trial (hw : Accepting writer) (content : OutboxContent)
    (o : ArchiveOutcome) (path : Bytes) (s : OutboundState σ ε) :
    (exec (processOutboundFile cfg writer content o path) s).1 = trial cfg content o ∧
      archivedOf (exec (processOutboundFile cfg writer content o path) s).2.effects =
        archivedOf s.effects ++ archives (trial cfg content o) o path := by
  cases content with
  | unparsable => exact ⟨rfl, (List.append_nil _).symm⟩
  | unsubscriptable => exact ⟨rfl, (List.append_nil _).symm⟩
  | document d =>
    have hyes : Accepting acceptEverything := fun _ _ _ _ _ => rfl
    have htrial := (exec_processOutboundFile_accepting cfg hyes d o [] ⟨(), 0, []⟩).1
    have hcall := exec_processOutboundFile_accepting cfg hw d o path s
    dsimp only at htrial hcall
    rw [← htrial] at hcall
    exact hcall

end File

/-! ## A poll is a turn over the names -/

section Queue

variable {σ ε : Type} (cfg : OutboundConfig) {writer : PacketWriter σ ε} (files : OutboxDirectory)
  (outcomes : Bytes → FileOutcome)

/-- What processing a file of the outbox returns. -/
def fileTrial (name : Bytes) : Except Stop PUnit :=
  (files.get? name).elim (.error .refused) fun entry =>
    trial cfg entry.content (outcomes name).toArchiveOutcome

/-- The file can be sent. -/
def canSend (name : Bytes) : Bool := (fileTrial cfg files outcomes name).toBool

/-- The file throws. -/
def throws (name : Bytes) : Bool :=
  match fileTrial cfg files outcomes name with
  | .error .threw => true
  | _ => false

/-- The file stays in the outbox. -/
def stays (name : Bytes) : Bool := ¬ (canSend cfg files outcomes name ∧ (outcomes name).leaves)

/-- The file is sent and archived by a call. -/
def isArchived (name : Bytes) : Bool :=
  canSend cfg files outcomes name ∧ (outcomes name).archives

theorem listing_erase (files : OutboxDirectory) (name : Bytes) :
    OutboxDirectory.listing (files.erase name) = files.listing.filter (· ≠ name) := by
  have hentries : ((files.erase name).entries.filter fun e => e.2.regular).map Prod.fst =
      ((files.entries.filter fun e => e.2.regular).map Prod.fst).filter (· ≠ name) := by
    unfold Dict.erase Dict.filter
    rw [List.filter_map, List.filter_filter, List.filter_filter]
    congr 2
    funext e
    exact Bool.and_comm _ _
  unfold OutboxDirectory.listing
  rw [hentries]
  refine List.Perm.eq_of_pairwise' (r := (· ≤ ·)) (List.pairwise_insertionSort _ _)
    ((List.pairwise_insertionSort _ _).filter _) ?_
  exact (List.perm_insertionSort _ _).trans ((List.perm_insertionSort _ _).symm.filter _)

/-- The files of `names` are as they were at the start. -/
def AsAtStart (s : Outbox σ ε) (names : List Bytes) : Prop :=
  s.files.listing = names ∧ ∀ name ∈ names, s.files.get? name = files.get? name

theorem exists_of_mem_listing {files : OutboxDirectory} {name : Bytes} (h : name ∈ files.listing) :
    ∃ entry, files.get? name = some entry := by
  unfold OutboxDirectory.listing at h
  rw [List.mem_insertionSort] at h
  obtain ⟨⟨name', entry⟩, he, rfl⟩ := List.mem_map.mp h
  exact ⟨entry, (files.mem_entries_iff _ _).mp (List.mem_filter.mp he).1⟩

/-- **What processing one file does.** -/
theorem processFile_spec (hw : Accepting writer) {s : Outbox σ ε} {names : List Bytes}
    (hs : AsAtStart files s names) {name : Bytes} (hname : name ∈ names) :
    (processFile cfg writer (outcomes name) name s).1 = throws cfg files outcomes name ∧
      AsAtStart files (processFile cfg writer (outcomes name) name s).2
        (if stays cfg files outcomes name then names else names.filter (· ≠ name)) ∧
      archivedOf (processFile cfg writer (outcomes name) name s).2.sender.effects =
        archivedOf s.sender.effects ++ if isArchived cfg files outcomes name then [name] else [] := by
  have hmem : name ∈ s.files.listing := by
    rw [hs.1]
    exact hname
  obtain ⟨entry, hentry⟩ := exists_of_mem_listing hmem
  have htrial : fileTrial cfg files outcomes name =
      trial cfg entry.content (outcomes name).toArchiveOutcome := by
    unfold fileTrial
    rw [← hs.2 name hname, hentry]
    rfl
  have hcall := processOutboundFile_trial cfg hw entry.content (outcomes name).toArchiveOutcome name
    s.sender
  rw [← htrial] at hcall
  unfold processFile
  rw [hentry]
  dsimp only
  generalize exec (processOutboundFile cfg writer entry.content (outcomes name).toArchiveOutcome name)
    s.sender = r at hcall ⊢
  obtain ⟨t, sender⟩ := r
  obtain ⟨ht, harchived⟩ := hcall
  dsimp only at ht harchived
  unfold throws isArchived stays canSend
  rw [← ht] at harchived ⊢
  cases t with
  | error e =>
    cases e with
    | refused => exact ⟨rfl, hs, harchived⟩
    | threw => exact ⟨rfl, hs, harchived⟩
  | ok _ =>
    refine ⟨rfl, ?_, ?_⟩
    · cases hleaves : (outcomes name).leaves with
      | false => exact hs
      | true =>
        refine ⟨(listing_erase s.files name).trans (by rw [hs.1]; rfl), fun name' hname' => ?_⟩
        obtain ⟨hmem', hne⟩ := List.mem_filter.mp hname'
        refine (Dict.get?_erase _ _ _).trans ?_
        rw [if_neg (of_decide_eq_true hne)]
        exact hs.2 name' hmem'
    · rw [harchived]
      unfold archives
      simp [Except.toBool]

theorem stays_of_throws {name : Bytes} (h : throws cfg files outcomes name = true) :
    stays cfg files outcomes name = true ∧ isArchived cfg files outcomes name = false := by
  unfold throws at h
  unfold stays isArchived canSend
  cases hr : fileTrial cfg files outcomes name with
  | error e => exact ⟨by simp [Except.toBool], by simp [Except.toBool]⟩
  | ok _ =>
    rw [hr] at h
    cases h

/-- **A poll of some files** goes through them up to the first that throws. -/
theorem processFiles_spec (hw : Accepting writer) (rest : List Bytes) (names : List Bytes) :
    ∀ (kept : List Bytes) (s : Outbox σ ε), (kept ++ names ++ rest).Nodup →
      AsAtStart files s (kept ++ names ++ rest) →
      AsAtStart files (processFiles cfg writer outcomes names s).2
          (kept ++ ((Backlog.front (throws cfg files outcomes) names).filter
            (stays cfg files outcomes) ++ Backlog.back (throws cfg files outcomes) names) ++ rest) ∧
        archivedOf (processFiles cfg writer outcomes names s).2.sender.effects =
          archivedOf s.sender.effects ++ (Backlog.front (throws cfg files outcomes) names).filter
            (isArchived cfg files outcomes) := by
  induction names with
  | nil => exact fun kept s _ hs => ⟨hs, (List.append_nil _).symm⟩
  | cons name names ih =>
    intro kept s hnodup hs
    have hname : name ∈ kept ++ name :: names ++ rest := by simp
    obtain ⟨hthrows, hstart, harchived⟩ := processFile_spec cfg files outcomes hw hs hname
    unfold processFiles Backlog.front Backlog.back
    rw [List.takeWhile_cons, List.dropWhile_cons, ← hthrows]
    generalize processFile cfg writer (outcomes name) name s = r at hthrows hstart harchived ⊢
    obtain ⟨threw, s'⟩ := r
    dsimp only at hthrows hstart harchived ⊢
    cases threw with
    | true =>
      obtain ⟨hstays, hnot⟩ := stays_of_throws cfg files outcomes hthrows.symm
      rw [if_pos hstays] at hstart
      rw [hnot] at harchived
      exact ⟨hstart, harchived⟩
    | false =>
      dsimp only
      have hsplit : kept ++ name :: names ++ rest = kept ++ [name] ++ names ++ rest := by simp
      cases hstays : stays cfg files outcomes name with
      | true =>
        rw [hstays, if_pos rfl, hsplit] at hstart
        obtain ⟨hrest, heffects⟩ := ih (kept ++ [name]) s' (by rw [← hsplit]; exact hnodup) hstart
        refine ⟨?_, ?_⟩
        · rw [List.append_assoc kept] at hrest
          simpa [hstays, Backlog.front, Backlog.back] using hrest
        · rw [heffects, harchived, List.append_assoc]
          simp [Backlog.front, List.filter_cons]
          split_ifs <;> rfl
      | false =>
        have hfilter : (kept ++ name :: names ++ rest).filter (· ≠ name) = kept ++ names ++ rest := by
          rw [List.append_assoc, List.cons_append] at hnodup
          have hnot := (List.nodup_cons.mp (List.nodup_middle.mp hnodup)).1
          have hself : (kept ++ (names ++ rest)).filter (· ≠ name) = kept ++ (names ++ rest) :=
            List.filter_eq_self.mpr fun a ha => decide_eq_true fun he => hnot (he ▸ ha)
          rw [List.filter_append] at hself
          rw [List.append_assoc, List.cons_append, List.filter_append,
            List.filter_cons_of_neg (by simp), hself, List.append_assoc]
        rw [hstays, if_neg Bool.false_ne_true, hfilter] at hstart
        obtain ⟨hrest, heffects⟩ := ih kept s' (hnodup.sublist (by simp)) hstart
        refine ⟨?_, ?_⟩
        · simpa [hstays, Backlog.front, Backlog.back] using hrest
        · rw [heffects, harchived, List.append_assoc]
          simp [Backlog.front, List.filter_cons]
          split_ifs <;> rfl

/-- **A poll is a turn over the names of the files.** -/
theorem processOutboundQueue_spec (hw : Accepting writer) {s : Outbox σ ε} {names : List Bytes}
    (hs : AsAtStart files s names) :
    AsAtStart files (processOutboundQueue cfg writer outcomes s).2
        (Backlog.turn (stays cfg files outcomes) (throws cfg files outcomes)
          kMaxOutboundFilesPerPoll names) ∧
      archivedOf (processOutboundQueue cfg writer outcomes s).2.sender.effects =
        archivedOf s.sender.effects ++ (Backlog.looked (throws cfg files outcomes)
          kMaxOutboundFilesPerPoll names).filter (isArchived cfg files outcomes) := by
  have hnodup : names.Nodup := by
    rw [← hs.1]
    exact listing_nodup s.files
  have hsplit : [] ++ names.take kMaxOutboundFilesPerPoll ++ names.drop kMaxOutboundFilesPerPoll =
      names := List.take_append_drop _ _
  have hpoll := processFiles_spec cfg files outcomes hw (names.drop kMaxOutboundFilesPerPoll)
    (names.take kMaxOutboundFilesPerPoll) [] s (by rw [hsplit]; exact hnodup)
    (by rw [hsplit]; exact hs)
  unfold processOutboundQueue
  rw [hs.1]
  rw [Backlog.turn_eq]
  exact hpoll

/-- Some polls of the outbox. No file arrives in between. An exception ends a poll, and the process
that is started again polls the same files. -/
def polls (writer : PacketWriter σ ε) (t : ℕ) (s : Outbox σ ε) : Outbox σ ε :=
  (fun s => (processOutboundQueue cfg writer outcomes s).2)^[t] s

/-- **What some polls do.** -/
theorem polls_spec (hw : Accepting writer) {s : Outbox σ ε} (hs : AsAtStart files s files.listing)
    (hnone : archivedOf s.sender.effects = []) (t : ℕ) :
    AsAtStart files (polls cfg outcomes writer t s) ((Backlog.turn (stays cfg files outcomes)
        (throws cfg files outcomes) kMaxOutboundFilesPerPoll)^[t] files.listing) ∧
      ∀ name, name ∈ archivedOf (polls cfg outcomes writer t s).sender.effects ↔
        isArchived cfg files outcomes name = true ∧ ∃ t' < t, name ∈ Backlog.looked
          (throws cfg files outcomes) kMaxOutboundFilesPerPoll ((Backlog.turn
            (stays cfg files outcomes) (throws cfg files outcomes)
              kMaxOutboundFilesPerPoll)^[t'] files.listing) := by
  induction t with
  | zero => exact ⟨hs, fun name => by simp [polls, hnone]⟩
  | succ t ih =>
    obtain ⟨hstart, harchived⟩ := ih
    have hpoll := processOutboundQueue_spec cfg files outcomes hw hstart
    unfold polls at hpoll harchived ⊢
    rw [Function.iterate_succ_apply', Function.iterate_succ_apply']
    refine ⟨hpoll.1, fun name => ?_⟩
    rw [hpoll.2, List.mem_append, harchived, List.mem_filter]
    constructor
    · rintro (⟨ha, t', ht', hl⟩ | ⟨hl, ha⟩)
      · exact ⟨ha, t', Nat.lt_succ_of_lt ht', hl⟩
      · exact ⟨ha, t, Nat.lt_succ_self t, hl⟩
    · rintro ⟨ha, t', ht', hl⟩
      rcases Nat.lt_succ_iff_lt_or_eq.mp ht' with h | rfl
      · exact Or.inl ⟨ha, t', h, hl⟩
      · exact Or.inr ⟨hl, ha⟩

/-- As many polls as the files fill. -/
def neededPolls (n : ℕ) : ℕ := (n + (kMaxOutboundFilesPerPoll - 1)) / kMaxOutboundFilesPerPoll

/-- How many of the files the needed polls look at, when none throws. -/
def polledFiles (names : List Bytes) : ℕ :=
  Backlog.reach (stays cfg files outcomes) kMaxOutboundFilesPerPoll
    (Backlog.front (throws cfg files outcomes) names) (neededPolls names.length)

/-- **Exactly when the polls archive every file that can be sent.** Each such file can be archived,
comes before the first file that throws, and is among those that the polls get to when the files that
stay are looked at again in every poll. -/
theorem polls_archive_iff (hw : Accepting writer) (network : σ) (id : UInt8) :
    (∀ name ∈ files.listing, canSend cfg files outcomes name = true →
      name ∈ archivedOf (polls cfg outcomes writer (neededPolls files.listing.length)
        ⟨files, ⟨network, id, []⟩⟩).sender.effects) ↔
    ∀ name ∈ files.listing, canSend cfg files outcomes name = true →
      (outcomes name).archives = true ∧
        name ∈ (Backlog.front (throws cfg files outcomes) files.listing).take
          (polledFiles cfg files outcomes files.listing) := by
  refine forall_congr' fun name => imp_congr_right fun _ => imp_congr_right fun hsend => ?_
  have hstart : AsAtStart files (⟨files, ⟨network, id, []⟩⟩ : Outbox σ ε) files.listing :=
    ⟨rfl, fun _ _ => rfl⟩
  have hpolls := (polls_spec cfg files outcomes hw hstart rfl (neededPolls files.listing.length)).2
  rw [hpolls name, Backlog.exists_looked_iff]
  refine and_congr_left fun _ => ?_
  unfold isArchived
  rw [decide_eq_true_iff]
  exact and_iff_right hsend

end Queue

/-- A text that can be sent. -/
def goodText : OutboxContent := .document
  { OutboxDocument.blank with
    sourceRid := .value 2621001
    targetRid := .value 2621002
    text := .value (ascii ['H', 'i']) }

/-- Files with the names of single letters. -/
def lettered (files : List (Char × OutboxContent)) : OutboxDirectory :=
  files.foldl (fun d e => d.set (ascii [e.1]) { regular := true, content := e.2 }) Dict.empty

/-- A text behind a file that is no YAML is archived by the only poll. -/
theorem polls_archive_two :
    ascii ['b'] ∈ archivedOf (polls plainSender (fun _ => workingFiles) acceptEverything
      (neededPolls (lettered [('b', goodText), ('a', .unparsable)]).listing.length)
        ⟨lettered [('b', goodText), ('a', .unparsable)], ⟨(), 0, []⟩⟩).sender.effects :=
  (polls_archive_iff plainSender (lettered [('b', goodText), ('a', .unparsable)])
    (fun _ => workingFiles) (fun _ _ _ _ _ => rfl) () 0).mpr (by decide +kernel)
    (ascii ['b']) (by decide +kernel) (by decide +kernel)

/-- Eight files that are no YAML in front of a text. -/
def blockedOutbox : OutboxDirectory :=
  lettered ((['a', 'b', 'c', 'd', 'e', 'f', 'g', 'h'].map fun c => (c, .unparsable)) ++
    [('i', goodText)])

theorem not_archive_blocked : ¬ ∀ (cfg : OutboundConfig) (writer : PacketWriter Unit Unit)
    (files : OutboxDirectory) (outcomes : Bytes → FileOutcome), Accepting writer →
    (∀ name, outcomes name = workingFiles) → ∀ name ∈ files.listing,
      canSend cfg files outcomes name = true →
        name ∈ archivedOf (polls cfg outcomes writer (neededPolls files.listing.length)
          ⟨files, ⟨(), 0, []⟩⟩).sender.effects := by
  intro h
  have harchived := h plainSender acceptEverything blockedOutbox (fun _ => workingFiles)
    (fun _ _ _ _ _ => rfl) (fun _ => rfl) (ascii ['i']) (by decide +kernel) (by decide +kernel)
  have hnone : archivedOf (polls plainSender (fun _ => workingFiles) acceptEverything
      (neededPolls blockedOutbox.listing.length) ⟨blockedOutbox, ⟨(), 0, []⟩⟩).sender.effects = [] := by
    decide +kernel
  rw [hnone] at harchived
  cases harchived

end Sms
