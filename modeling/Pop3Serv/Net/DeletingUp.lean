import Pop3Serv.Net.Conversation

/-!
# Deleting upwards

A client that retrieves and deletes the messages from the first number upwards: every
deletion moves the numbers behind it down by one, so it steps over messages. What it finds
is never marked (`LiveAhead`), however the files are spread over storages, and it finds one
while its number is below what is left: it gets half of the messages, the middle one
with them (`deleting_up_gets_half`).
-/

namespace Pop3Serv.Mail
open Logic

namespace Mailbox

variable {m : Mailbox} {k q : Nat} {p : Path} {got : List (Nat × Path)}

/-- Number `k` acts on the file with login number `q`, which is not marked. -/
structure TakesAt (m : Mailbox) (k q : Nat) (p : Path) : Prop where
  file : m.files[q]? = some p
  live : m.marked q = false
  length : ∀ fs, m.getEmailLength fs k = (filesystemCall (fs.file_size p)).map .ok
  content : ∀ fs, m.getEmail fs k = FileSystemMailStorage.readEmail fs p
  answer : (m.deleteEmail k).2 = .NoError
  delete : (m.deleteEmail k).1.entries = m.entries.set q (p, true)

theorem TakesAt.entry (h : m.TakesAt k q p) : m.entries[q]? = some (p, false) := by
  have file := h.file
  have live := h.live
  rw [files_getElem?, Option.map_eq_some_iff] at file
  obtain ⟨⟨p', mark⟩, place, rfl⟩ := file
  rw [marked_eq place] at live
  rw [place, show mark = false from live]

theorem TakesAt.marked_iff (h : m.TakesAt k q p) {q' : Nat} :
    (m.deleteEmail k).1.marked q' = true ↔ m.marked q' = true ∨ q' = q := by
  rw [Mailbox.marked, Mailbox.marked, h.delete]
  by_cases here : q' = q
  · subst here
    rw [List.getElem?_set_self (List.getElem?_eq_some_iff.mp h.entry).1]
    simp
  · rw [List.getElem?_set_ne (Ne.symm here)]
    simp [here]

/-- The mailbox after upward deletions below `k`: these files, with their login numbers, are marked. -/
structure Climbed (m : Mailbox) (k : Nat) (got : List (Nat × Path)) : Prop where
  wf : m.WellFormed
  ahead : LiveAhead Prod.snd (m.storages.map (·.entries)) k
  placed : ∀ g ∈ got, m.files[g.1]? = some g.2
  nodup : (got.map Prod.fst).Nodup
  marked : ∀ q, m.marked q = true ↔ q ∈ got.map Prod.fst
  count : m.getEmailsCount + got.length = m.files.length
  half : got.length = min k ((m.files.length + 1) / 2)

theorem climbed_opened (name : Bytes) (directories : List (List Path)) (lock : MailboxLock) :
    (opened name directories lock).Climbed 0 [] where
  wf := opened_wellFormed name directories lock
  ahead := .start fun e member => opened_unmarked name directories lock e member
  placed := fun g member => absurd member List.not_mem_nil
  nodup := List.nodup_nil
  marked := fun q => by
    rw [marked]
    cases place : (opened name directories lock).entries[q]? with
    | none => simp
    | some e => simp [opened_unmarked name directories lock e (List.mem_of_getElem? place)]
  count := by
    rw [(opened_wellFormed name directories lock).getEmailsCount_eq, List.length_nil, Nat.add_zero,
      remaining_eq_length.mpr fun e member => opened_unmarked name directories lock e member, length_entries]
  half := (Nat.zero_min _).symm

/-- A number below the count finds a file that is not marked. -/
theorem Climbed.takesAt (h : m.Climbed k got) (below : k < m.getEmailsCount) :
    ∃ q p, m.TakesAt k q p ∧ LiveAhead Prod.snd ((m.deleteEmail k).1.storages.map (·.entries)) (k + 1) := by
  cases d : m.denotes k with
  | none => exact absurd (denotes_eq_none_iff.mp d) (by omega)
  | some q =>
    obtain ⟨place, r, s, p, found⟩ := h.wf.found d
    have byMarks : locateBy (remaining Prod.snd) (m.storages.map (·.entries)) k = some (place, s.entries, r) := by
      rw [locateBy_map, ← locateBy_congr fun s hs => (h.wf s hs).getEmailsCount_eq, found.located]
      rfl
    have live : s.isMailMarkedAsDeleted r = false := h.ahead.live byMarks found.entry_eq
    have mark : m.marked q = false := (marked_eq found.entry).trans live
    refine ⟨q, p, ⟨?_, mark, found.getEmailLength_live mark, found.getEmail_live mark, ?_,
      found.deleteEmail_entries mark⟩, ?_⟩
    · rw [files_getElem?, found.entry]
      rfl
    · rw [found.deleteEmail_live mark]
    · rw [found.deleteEmail_live mark, List.map_set, FileSystemMailStorage.entries_deleteEmail live found.file]
      exact h.ahead.take byMarks found.entry_eq rfl

/-- **One step up**: a file not had before is marked, or the number is past all that is left. -/
theorem Climbed.step (h : m.Climbed k got) :
    (∃ q p, m.TakesAt k q p ∧ (m.deleteEmail k).1.Climbed (k + 1) (got ++ [(q, p)])) ∨
      m.Refuses k ∧ m.Climbed (k + 1) got := by
  have count := h.count
  have half := h.half
  rcases Nat.lt_or_ge k m.getEmailsCount with below | past
  · left
    obtain ⟨q, p, takes, ahead⟩ := h.takesAt below
    have wf' := h.wf.deleteEmail k
    have files := (sameBox_deleteEmail m k).files
    have one : (m.deleteEmail k).1.getEmailsCount + 1 = m.getEmailsCount := by
      rw [wf'.getEmailsCount_eq, h.wf.getEmailsCount_eq, takes.delete]
      exact remaining_set takes.entry rfl rfl
    refine ⟨q, p, takes, wf', ahead, fun g member => ?_, ?_, fun q' => ?_, ?_, ?_⟩
    · rw [files]
      rcases List.mem_append.mp member with old | new
      · exact h.placed g old
      · rw [List.mem_singleton.mp new]
        exact takes.file
    · rw [List.map_append]
      refine List.Nodup.append h.nodup (List.nodup_singleton q) fun q' old new => ?_
      rw [List.mem_singleton.mp new, ← h.marked, takes.live] at old
      cases old
    · rw [takes.marked_iff, List.map_append, List.mem_append, ← h.marked]
      exact or_congr_right List.mem_singleton.symm
    · rw [files, List.length_append, List.length_singleton]
      omega
    · rw [files, List.length_append, List.length_singleton]
      omega
  · right
    exact ⟨refuses_of_denotes_none (denotes_eq_none_iff.mpr past), h.wf, h.ahead.mono (Nat.le_succ k), h.placed,
      h.nodup, h.marked, count, by omega⟩

theorem TakesAt.reads (h : m.TakesAt k q p) {contents : Path → Bytes} {fs : FileSystem}
    (keeps : Keeps contents fs m.files) :
    m.getEmailLength fs k = .ok (.ok (contents p).length) ∧ m.getEmail fs k = .ok (.ok (contents p)) := by
  obtain ⟨size, content⟩ := keeps p (List.mem_of_getElem? h.file)
  refine ⟨?_, ?_⟩
  · rw [h.length fs, size]
    rfl
  · rw [h.content fs, FileSystemMailStorage.readEmail, size, content]

theorem marked_maildrop (contents : Path → Bytes) (m : Mailbox) (n : Nat) :
    ((m.maildrop contents)[n]?).map Prod.snd = some true ↔ m.marked n = true := by
  rw [maildrop_getElem?, Option.map_map, marked]
  cases m.entries[n]? <;> simp

/-- The files' sizes are known, so they can be added up. -/
theorem Keeps.getWholeMailboxSize {contents : Path → Bytes} {fs : FileSystem} (keeps : Keeps contents fs m.files) :
    ∃ size, m.getWholeMailboxSize fs = .ok size := by
  rcases m.getEmailsLengths_cases fs with ⟨_, lengths, listing, _⟩ | ⟨unknown, _⟩
  · exact ⟨_, by rw [Mailbox.getWholeMailboxSize, listing]⟩
  · exact absurd keeps.reads.sizesKnown unknown

end Mailbox

end Pop3Serv.Mail

namespace Pop3Serv.Net
open Proto Mail Logic

section Climb
variable {cfg : Config} {sessionId : Nat} {d : Dialogue} {userName : Bytes} {m : Mailbox}

/-- One command, by what its handler does in the session's state. -/
theorem Rests.asked (h : Rests userName d m) (decimals : ReadsDecimals cfg.lex) {a : Asked}
    (sendable : Sendable a.ask) {reply : Maildrop.Reply Bytes}
    (serves : (({ d.session with request := a.request.line, response := [] } :
      POP3Session).handleAuthorizedUserCommand a.fs (askCommand a.ask)).Serves userName reply) :
    ∃ d' response, exec (Dialogue.localStep cfg) d a.events = some d' ∧
      POP3Session.responsesIn d'.log = POP3Session.responsesIn d.log ++ [response] ∧
      Tells userName reply response ∧ Rests userName d' (m.run (callsOf (askCommand a.ask))) := by
  have outside : ¬ d.session.state = .Authorization := by rw [h.inside]; decide
  have parsed : parsePOP3Command cfg.lex a.request.line = .ok (.ok (askCommand a.ask)) :=
    parse_askText decimals sendable
  have handled : d.session.handle cfg a.active a.request =
      (({ d.session with request := a.request.line, response := [] } :
        POP3Session).handleAuthorizedUserCommand a.fs (askCommand a.ask)).write := by
    unfold POP3Session.handle POP3Session.readImpl
    simp only [parsed, if_neg outside]
    rfl
  have calls : ({ d.session with request := a.request.line } : POP3Session).requestedCalls cfg =
      callsOf (askCommand a.ask) := by
    unfold POP3Session.requestedCalls
    rw [parsed]
    exact if_neg outside
  have written := serves.write
  rw [← handled] at written
  obtain ⟨d', run, log, rests⟩ := h.answer a.active a.whole (a.goesOn decimals sendable) written.returned
  exact ⟨d', _, run, log, written.tells, calls ▸ rests⟩

theorem sendable_numbered {ask : Maildrop.Ask} {k : Nat} (small : k < 2 ^ 32)
    (numbered : ask = .retr k ∨ ask = .dele k) : Sendable ask := by
  intro n same
  rcases numbered with rfl | rfl <;> rcases same with same | same | same <;> cases same <;> exact small

theorem Rests.retr (h : Rests userName d m) (decimals : ReadsDecimals cfg.lex) {k : Nat} (small : k < 2 ^ 32)
    {a : Asked} (asks : a.ask = .retr k) {reply : Maildrop.Reply Bytes}
    (serves : ∀ s : POP3Session, s.mailbox = some m →
      (s.handleRetr a.fs ⟨.RETR, .uint (.ofNat k)⟩).Serves userName reply) :
    ∃ d' response, exec (Dialogue.localStep cfg) d a.events = some d' ∧
      POP3Session.responsesIn d'.log = POP3Session.responsesIn d.log ++ [response] ∧
      Tells userName reply response ∧ Rests userName d' m := by
  have command : askCommand a.ask = ⟨.RETR, .uint (.ofNat k)⟩ := by rw [asks]; rfl
  obtain ⟨d', response, run, log, tells, rests⟩ :=
    h.asked decimals (sendable_numbered small (.inl asks)) (by rw [command]; exact serves _ h.mailbox)
  rw [command] at rests
  exact ⟨d', response, run, log, tells, rests⟩

theorem Rests.dele (h : Rests userName d m) (decimals : ReadsDecimals cfg.lex) {k : Nat} (small : k < 2 ^ 32)
    {a : Asked} (asks : a.ask = .dele k) {reply : Maildrop.Reply Bytes}
    (serves : ∀ s : POP3Session, s.mailbox = some m → s.userName = userName →
      (s.handleDelete a.fs ⟨.DELE, .uint (.ofNat k)⟩).Serves userName reply) :
    ∃ d' response, exec (Dialogue.localStep cfg) d a.events = some d' ∧
      POP3Session.responsesIn d'.log = POP3Session.responsesIn d.log ++ [response] ∧
      Tells userName reply response ∧ Rests userName d' (m.run [.deleteEmail k]) := by
  have command : askCommand a.ask = ⟨.DELE, .uint (.ofNat k)⟩ := by rw [asks]; rfl
  have number : (UInt32.ofNat k).toNat = k := UInt32.toNat_ofNat_of_lt' small
  obtain ⟨d', response, run, log, tells, rests⟩ :=
    h.asked decimals (sendable_numbered small (.inr asks)) (by rw [command]; exact serves _ h.mailbox h.userName)
  have calls : callsOf (askCommand a.ask) = [.deleteEmail k] := by
    rw [command]
    exact congrArg (fun n => [Mailbox.Op.deleteEmail n]) number
  exact ⟨d', response, run, log, tells, calls ▸ rests⟩

/-- **A message asked for and deleted**, on the way up: both commands act on a file not had before, or both
are refused. -/
theorem Rests.climb (h : Rests userName d m) {k : Nat} {got : List (Nat × Path)} (climbed : m.Climbed k got)
    (decimals : ReadsDecimals cfg.lex) (small : k < 2 ^ 32) {contents : Path → Bytes} {a₁ a₂ : Asked}
    (retr : a₁.ask = .retr k) (dele : a₂.ask = .dele k) (keeps₁ : ∀ i, Mailbox.Keeps contents (a₁.fs i) m.files)
    (keeps₂ : ∀ i, Mailbox.Keeps contents (a₂.fs i) m.files) :
    ∃ d' responses replies more, exec (Dialogue.localStep cfg) d (a₁.events ++ a₂.events) = some d' ∧
      POP3Session.responsesIn d'.log = POP3Session.responsesIn d.log ++ responses ∧
      List.Forall₂ (Tells userName) replies responses ∧
      List.Forall₂ (fun ask reply => Maildrop.Reply.Answers ask reply) [.retr k, .dele k] replies ∧
      replies.filterMap Maildrop.Reply.content = more.map (fun g => contents g.2) ∧
      Rests userName d' (m.run [.deleteEmail k]) ∧ (m.run [.deleteEmail k]).Climbed (k + 1) (got ++ more) := by
  have number : (UInt32.ofNat k).toNat = k := UInt32.toNat_ofNat_of_lt' small
  rcases climbed.step with ⟨q, p, takes, climbed'⟩ | ⟨refuses, climbed'⟩
  · have files := (Mailbox.sameBox_deleteEmail m k).files
    obtain ⟨size, known⟩ := Mailbox.Keeps.getWholeMailboxSize (files.symm ▸ keeps₂ 0)
    have length := (takes.reads (keeps₁ 0)).1
    have content := (takes.reads (keeps₁ 1)).2
    have answer := takes.answer
    rw [← number] at length content answer known
    obtain ⟨d₁, r₁, run₁, log₁, tells₁, rests₁⟩ := h.retr decimals small retr fun s mailbox =>
      POP3Session.serves_message mailbox length content
    obtain ⟨d₂, r₂, run₂, log₂, tells₂, rests₂⟩ := rests₁.dele decimals small dele fun s mailbox named =>
      named ▸ POP3Session.serves_dele mailbox answer known
    refine ⟨d₂, [r₁, r₂], _, [(q, p)], ?_, ?_, .cons tells₁ (.cons tells₂ .nil),
      .cons (.retr k _) (.cons (.dele k _ _) .nil), rfl, rests₂, climbed'⟩
    · rw [exec_append, run₁]
      exact run₂
    · rw [log₂, log₁, List.append_assoc]
      rfl
  · have untouched : m.run [.deleteEmail k] = m := refuses.delete
    rw [← number] at refuses
    obtain ⟨d₁, r₁, run₁, log₁, tells₁, rests₁⟩ := h.retr decimals small retr fun s mailbox =>
      POP3Session.serves_retr_refused mailbox refuses
    obtain ⟨d₂, r₂, run₂, log₂, tells₂, rests₂⟩ := rests₁.dele decimals small dele fun s mailbox _ =>
      POP3Session.serves_dele_refused mailbox climbed.wf refuses
    refine ⟨d₂, [r₁, r₂], _, [], ?_, ?_, .cons tells₁ (.cons tells₂ .nil),
      .cons (.retrNone k) (.cons (.deleNone k) .nil), rfl, rests₂, ?_⟩
    · rw [exec_append, run₁]
      exact run₂
    · rw [log₂, log₁, List.append_assoc]
      rfl
    · rwa [untouched, List.append_nil]

/-- All the way up, by induction on the messages still to be asked for. -/
theorem Rests.climbAll (h : Rests userName d m) {k n : Nat} {got : List (Nat × Path)} (climbed : m.Climbed k got)
    (decimals : ReadsDecimals cfg.lex) (few : k + n ≤ 2 ^ 32) {contents : Path → Bytes} {asked : List Asked}
    (takes : asked.map (·.ask) = Maildrop.takeUp k n)
    (keeps : ∀ a ∈ asked, ∀ i, Mailbox.Keeps contents (a.fs i) m.files) :
    ∃ d' responses replies calls more, exec (Dialogue.localStep cfg) d (asked.flatMap Asked.events) = some d' ∧
      POP3Session.responsesIn d'.log = POP3Session.responsesIn d.log ++ responses ∧
      List.Forall₂ (Tells userName) replies responses ∧
      List.Forall₂ (fun ask reply => Maildrop.Reply.Answers ask reply) (Maildrop.takeUp k n) replies ∧
      replies.filterMap Maildrop.Reply.content = more.map (fun g => contents g.2) ∧
      Rests userName d' (m.run calls) ∧ .deleteEmails ∉ calls ∧ (m.run calls).Climbed (k + n) (got ++ more) := by
  induction n generalizing d m k got asked with
  | zero =>
    obtain rfl := List.map_eq_nil_iff.mp takes
    exact ⟨d, [], [], [], [], rfl, (List.append_nil _).symm, .nil, .nil, rfl, h, List.not_mem_nil,
      (List.append_nil got).symm ▸ climbed⟩
  | succ n ih =>
    obtain ⟨a₁, rest, rfl, retr, takes⟩ := List.map_eq_cons_iff.mp takes
    obtain ⟨a₂, rest, rfl, dele, takes⟩ := List.map_eq_cons_iff.mp takes
    rw [List.forall_mem_cons, List.forall_mem_cons] at keeps
    obtain ⟨d₁, responses, replies, more, run, log, tells, answers, messages, rests, climbed'⟩ :=
      h.climb climbed decimals (by omega) retr dele keeps.1 keeps.2.1
    have files := (Mailbox.sameBox_run m [.deleteEmail k]).files
    obtain ⟨d', responses', replies', calls, more', run', log', tells', answers', messages', rests', numbered,
        climbed''⟩ := ih rests climbed' (by omega) takes (files.symm ▸ keeps.2.2)
    refine ⟨d', responses ++ responses', replies ++ replies', .deleteEmail k :: calls, more ++ more', ?_, ?_,
      List.rel_append tells tells', List.rel_append answers answers', ?_, rests', by simpa using numbered, ?_⟩
    · rw [List.flatMap_cons, List.flatMap_cons, ← List.append_assoc, exec_append, run]
      exact run'
    · rw [log', log, List.append_assoc]
    · rw [List.filterMap_append, messages, messages', List.map_append]
    · rw [← List.append_assoc, show k + (n + 1) = k + 1 + n by omega]
      exact climbed''

/-- **A client that deletes upwards gets half of the mail.** It retrieves and deletes each message, from number 0
upwards, and quits: then, however the files are spread over storages, it has received `⌈n / 2⌉` of the `n`
messages, no two from the same place of the mailbox, and just the files of those messages are removed, as
long as the files keep their contents and no line of a message begins with a dot. -/
theorem deleting_up_gets_half (decimals : ReadsDecimals cfg.lex) (reached : Reached cfg sessionId d)
    (reading : d.control = .reading .outstanding) (empty : d.session.request = []) (name : Bytes)
    (directories : List (List Path)) (lock : MailboxLock)
    (opened : d.session.mailbox = some (Mailbox.opened name directories lock))
    (few : directories.flatten.length ≤ 2 ^ 32) (contents : Path → Bytes)
    (undotted : ∀ p ∈ directories.flatten, Undotted cr lf dot [] (contents p)) (asked : List Asked)
    (takes : asked.map (·.ask) = Maildrop.takeUp 0 directories.flatten.length)
    (keeps : ∀ a ∈ asked, ∀ i, Mailbox.Keeps contents (a.fs i) directories.flatten)
    (active : ActiveMailboxes) (fs : FileSystems) :
    ∃ d₁ d₂ responses heard removed, ∃ got : List (Nat × Path),
      exec (Dialogue.localStep cfg) d (asked.flatMap Asked.events) = some d₁ ∧
      POP3Session.responsesIn d₁.log = POP3Session.responsesIn d.log ++ responses ∧
      hearAll d.session.userName (asked.map (·.ask)) responses.flatten = some (heard, []) ∧
      (∀ g ∈ got, directories.flatten[g.1]? = some g.2) ∧ (got.map Prod.fst).Nodup ∧
      got.length = (directories.flatten.length + 1) / 2 ∧
      heard.filterMap Maildrop.Reply.content = got.map (fun g => POP3Session.closeContent (contents g.2)) ∧
      exec (Dialogue.localStep cfg) d₁ (quitting active fs) = some d₂ ∧ d₂.control = .ended ∧
      d₂.session.mailbox.map Mailbox.destroyStorages = some (.ok removed) ∧
      ∀ p, p ∈ removed ↔ p ∈ got.map Prod.snd := by
  have files := Mailbox.opened_files name directories lock
  obtain ⟨d₁, responses, replies, calls, got, run, log, tells, answers, messages, rests, numbered, climbed⟩ :=
    (reached.rests reading empty opened).climbAll (Mailbox.climbed_opened name directories lock) decimals
      (by omega) takes (files.symm ▸ keeps)
  rw [List.nil_append, Nat.zero_add] at climbed
  have sameFiles : ((Mailbox.opened name directories lock).run calls).files = directories.flatten :=
    (Mailbox.sameBox_run _ calls).files.trans files
  obtain ⟨d₂, quit, ended, mailbox⟩ := rests.quit active fs
  obtain ⟨removed, destroyed, removes⟩ := @removed_run_iff name directories lock calls numbered contents
  have clean : ∀ content, .message content ∈ replies → Undotted cr lf dot [] content := by
    intro content member
    have listed : content ∈ replies.filterMap Maildrop.Reply.content := List.mem_filterMap.mpr ⟨_, member, rfl⟩
    rw [messages] at listed
    obtain ⟨g, had, rfl⟩ := List.mem_map.mp listed
    exact undotted g.2 (List.mem_of_getElem? (sameFiles ▸ climbed.placed g had))
  have all := hearAll_tells reached.noBreak_userName answers tells clean []
  rw [List.append_nil, ← takes] at all
  refine ⟨d₁, d₂, responses, _, removed, got, run, log, all, sameFiles ▸ climbed.placed, climbed.nodup, ?_, ?_, quit,
    ended, ?_, fun p => ?_⟩
  · have half := climbed.half
    rw [sameFiles] at half
    omega
  · rw [content_asReceived, messages, List.map_map]
    rfl
  · rw [mailbox, Option.map_some, destroyed]
  · simp only [removes, Mailbox.marked_maildrop, climbed.marked, List.mem_map]
    constructor
    · rintro ⟨_, file, g, had, rfl⟩
      have placed := climbed.placed g had
      rw [sameFiles] at placed
      exact ⟨g, had, Option.some.inj (placed.symm.trans file)⟩
    · rintro ⟨g, had, rfl⟩
      exact ⟨g.1, sameFiles ▸ climbed.placed g had, g, had, rfl⟩

/-- Two files of one byte. -/
def twoMails : FileSystem :=
  { Mailbox.oneByteFiles with regular_files := fun _ => some [ascii "a", ascii "b"] }

/-- A login with two mails, read and answered. -/
def twoMailsLogin : List (ActiveMailboxes × SessionEvent) :=
  [(∅, .startRead), (∅, .receive (ascii "USER u" ++ crlf)), (∅, .runRead fun _ => twoMails),
    (∅, .sent), (∅, .runWrite), (∅, .receive (ascii "PASS p" ++ crlf)),
    (∅, .runRead fun _ => twoMails), (∅, .runLogin fun _ => twoMails), (∅, .sent), (∅, .runWrite)]

/-- Of two messages the second is never asked for by a number in use. -/
theorem two_mails_half :
    ∃ d d₁ d₂ responses heard removed, exec (Dialogue.localStep decimalConfig) (created 0) twoMailsLogin = some d ∧
      exec (Dialogue.localStep decimalConfig) d
        (((Maildrop.takeUp 0 2).map (Asked.mk ∅ fun _ => twoMails)).flatMap Asked.events) = some d₁ ∧
      POP3Session.responsesIn d₁.log = POP3Session.responsesIn d.log ++ responses ∧
      hearAll (ascii "u") [.retr 0, .dele 0, .retr 1, .dele 1] responses.flatten = some (heard, []) ∧
      heard.filterMap Maildrop.Reply.content = [ascii "x" ++ crlf] ∧
      exec (Dialogue.localStep decimalConfig) d₁ (quitting ∅ fun _ => twoMails) = some d₂ ∧
      d₂.session.mailbox.map Mailbox.destroyStorages = some (.ok removed) := by
  obtain ⟨d, run, userName, reading, empty, opened⟩ : ∃ d,
      exec (Dialogue.localStep decimalConfig) (created 0) twoMailsLogin = some d ∧
        d.session.userName = ascii "u" ∧ d.control = .reading .outstanding ∧ d.session.request = [] ∧
        d.session.mailbox = some (Mailbox.opened (ascii "u") [[ascii "a", ascii "b"]] ⟨ascii "u", true⟩) :=
    ⟨_, rfl, rfl, rfl, rfl, rfl⟩
  have asks : ((Maildrop.takeUp 0 2).map (Asked.mk ∅ fun _ => twoMails)).map (·.ask) = Maildrop.takeUp 0 2 := rfl
  have reached : Reached decimalConfig 0 d := ⟨_, run⟩
  obtain ⟨d₁, d₂, responses, heard, removed, got, climb, log, hears, _, _, count, messages, quit, _, destroyed, _⟩ :=
    deleting_up_gets_half readsDecimals_decimalConfig reached reading empty (ascii "u") [[ascii "a", ascii "b"]]
      ⟨ascii "u", true⟩ opened (by decide) (fun _ => ascii "x") (fun _ _ => ⟨by decide, by decide⟩)
      ((Maildrop.takeUp 0 2).map (Asked.mk ∅ fun _ => twoMails)) asks
      (by
        intro a member i p _
        obtain ⟨ask, _, rfl⟩ := List.mem_map.mp member
        exact ⟨rfl, rfl⟩)
      ∅ fun _ => twoMails
  obtain ⟨g, rfl⟩ := List.length_eq_one_iff.mp (show got.length = 1 from count)
  rw [asks, userName] at hears
  exact ⟨d, d₁, d₂, responses, heard, removed, run, climb, log, hears, messages, quit, destroyed⟩

end Climb

end Pop3Serv.Net
