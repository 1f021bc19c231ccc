import Pop3Serv.Net.Typestate

/-!
# What a session in Transaction has been authenticated by

The log of a session says which names it accepted and which passwords it
handled. The name of the session is the last one accepted (`nameOf`), and a
session in Transaction has handled, under that name, the `PASS` that opened its
mailbox (`Entered`). With the records of the cache behind the manager, that `PASS`
was for one record of the cache.
-/

namespace Pop3Serv.Net
open Proto Mail Logic

/-- The name a positively answered `USER` was for. -/
def Note.accepts : Note → Option Bytes
  | .handled { result := .ok ⟨.USER, .string name⟩, response, thrown := none, .. } =>
    if Positive response then some name else none
  | _ => none

/-- The argument of the last `USER` answered positively, empty if there was none. -/
def nameOf (log : List Note) : Bytes := (log.filterMap Note.accepts).getLast?.getD []

theorem nameOf_snoc (log : List Note) (note : Note) :
    nameOf (log ++ [note]) = note.accepts.getD (nameOf log) := by
  unfold nameOf
  rw [List.filterMap_append]
  cases accepted : note.accepts <;> simp [accepted]

theorem nameOf_of_none {log : List Note} (h : ∀ note ∈ log, note.accepts = none) : nameOf log = [] := by
  have nobody : log.filterMap Note.accepts = [] := List.filterMap_eq_nil_iff.mpr h
  rw [nameOf, nobody]
  rfl

/-- The session has handled the `PASS` that gave it the mailbox it has. -/
def Entered (cfg : Config) (d : Dialogue) : Prop :=
  ∃ before x after password vec m,
    d.log = before ++ .handled x :: after ∧ x.result = .ok ⟨.PASS, .string password⟩ ∧
    nameOf before = d.session.userName ∧
    cfg.auth.logon d.session.userName password = .ok (.ok vec) ∧ vec ≠ [] ∧
    d.session.mailbox = some m ∧
    m.storages.map (·.emails) =
      (createStorages (x.fs 0) cfg.defaultPath vec d.session.userName).map (·.emails)

/-- What the log says about the session. -/
structure Authenticated (cfg : Config) (d : Dialogue) : Prop where
  name : d.session.userName = nameOf d.log
  entered : d.session.state = .Transaction → Entered cfg d

/-- What has been entered stays entered while the session goes on in its mailbox. -/
theorem Entered.go_on {cfg : Config} {d d' : Dialogue} {f : Mailbox → Mailbox} (h : Entered cfg d)
    (same : ∀ m, Mailbox.SameBox m (f m)) (more : ∃ notes, d'.log = d.log ++ notes)
    (userName : d'.session.userName = d.session.userName)
    (mailbox : d'.session.mailbox = d.session.mailbox.map f) : Entered cfg d' := by
  obtain ⟨before, x, after, password, vec, m, log, pass, name, logon, hasStorages, has, storages⟩ := h
  obtain ⟨notes, more⟩ := more
  refine ⟨before, x, after ++ notes, password, vec, f m, ?_, pass, ?_, ?_, hasStorages, ?_, ?_⟩
  · rw [more, log]
    simp
  · rw [userName]; exact name
  · rw [userName]; exact logon
  · rw [mailbox, has]; rfl
  · rw [userName]; exact (same m).emails.trans storages

/-- A step that neither handles a request nor touches name, state or mailbox. -/
theorem Authenticated.go_on {cfg : Config} {d d' : Dialogue} {f : Mailbox → Mailbox}
    (h : Authenticated cfg d) (same : ∀ m, Mailbox.SameBox m (f m))
    (log : d'.log = d.log ∨ ∃ note, note.accepts = none ∧ d'.log = d.log ++ [note])
    (state : d'.session.state = d.session.state) (userName : d'.session.userName = d.session.userName)
    (mailbox : d'.session.mailbox = d.session.mailbox.map f) : Authenticated cfg d' := by
  have more : ∃ notes, d'.log = d.log ++ notes := by
    rcases log with log | ⟨note, _, log⟩
    · exact ⟨[], by simp [log]⟩
    · exact ⟨[note], log⟩
  refine ⟨?_, fun inside => (h.entered (state ▸ inside)).go_on same more userName mailbox⟩
  rw [userName, h.name]
  rcases log with log | ⟨note, declines, log⟩
  · rw [log]
  · rw [log, nameOf_snoc, declines]
    rfl

theorem accepts_eq_some {x : Exchange} {name : Bytes} (h : (Note.handled x).accepts = some name) :
    x.result = .ok ⟨.USER, .string name⟩ ∧ x.thrown = none ∧ Positive x.response := by
  unfold Note.accepts at h
  split at h
  · rename_i e
    injection e with e
    subst e
    split at h
    · rename_i positive
      cases h
      exact ⟨rfl, rfl, positive⟩
    · cases h
  · cases h

/-- Only a `USER` can be an accepted name. -/
theorem accepts_of_requests {cfg : Config} {s : POP3Session} {cmd : POP3Command} {result : Parsed}
    (requested : s.Requests cfg cmd) (parsed : parsePOP3Command cfg.lex s.request = .ok result)
    (notUser : cmd.cmdType ≠ .USER) (response : Bytes) (thrown : Option Fault) (fs : FileSystems) :
    (Note.handled ⟨s.state, result, response, thrown, fs⟩).accepts = none := by
  cases requested.symm.trans parsed
  cases accepted : (Note.handled ⟨s.state, .ok cmd, response, thrown, fs⟩).accepts with
  | none => rfl
  | some name =>
    have user := (accepts_eq_some accepted).1
    injection user with user
    exact absurd (congrArg POP3Command.cmdType user) notUser

/-- The name of the session stays the last one accepted, -/
theorem Handled.nameOf_eq {cfg : Config} {s : POP3Session} {fs : FileSystems} {ended : Ended}
    {result : Parsed} {log : List Note} (handled : Handled cfg fs s ended)
    (parsed : parsePOP3Command cfg.lex s.request = .ok result) (h : s.userName = nameOf log) :
    ended.session.userName =
      nameOf (log ++ [.handled ⟨s.state, result, ended.session.response, ended.thrown, fs⟩]) := by
  cases handled with
  | acted session notQuit sameName =>
    obtain ⟨response, session⟩ := session
    rw [nameOf_snoc]
    cases accepted : (Note.handled ⟨s.state, result, ended.session.response, ended.thrown, fs⟩).accepts with
    | none => rw [session]; exact h
    | some name =>
      obtain ⟨user, returned, positive⟩ := accepts_eq_some accepted
      simp only at user returned positive
      subst user
      rw [session]
      exact (sameName name parsed returned positive).symm
  | named name anonymous requested known returned positive session =>
    obtain ⟨response, session⟩ := session
    cases requested.symm.trans parsed
    have accepted : Positive response := by rw [session] at positive; exact positive
    rw [nameOf_snoc, session]
    simp [Note.accepts, returned, accepted]
  | entered password m lock anonymous requested ownName connected session =>
    obtain ⟨response, session⟩ := session
    rw [nameOf_snoc, accepts_of_requests requested parsed (by simp), session]
    exact h
  | quitted parameter requested returned session =>
    obtain ⟨response, session⟩ := session
    rw [nameOf_snoc, accepts_of_requests requested parsed (by simp), session]
    exact h

/-- and a request handled in Transaction leaves the session entered, or has entered it. -/
theorem Handled.authenticated {cfg : Config} {d : Dialogue} {fs : FileSystems} {ended : Ended}
    {result : Parsed} {control : Control} (handled : Handled cfg fs d.session ended)
    (parsed : parsePOP3Command cfg.lex d.session.request = .ok result)
    (h : Authenticated cfg d) :
    Authenticated cfg
      { d with
        session := ended.session
        control
        log := d.log ++
          [.handled ⟨d.session.state, result, ended.session.response, ended.thrown, fs⟩] } := by
  refine ⟨handled.nameOf_eq parsed h.name, fun inside => ?_⟩
  cases handled with
  | acted session notQuit sameName =>
    obtain ⟨response, session⟩ := session
    have before : d.session.state = .Transaction := by rw [session] at inside; exact inside
    refine (h.entered before).go_on (fun m => Mailbox.sameBox_run m (d.session.requestedCalls cfg))
      ⟨_, rfl⟩ ?_ ?_
    · rw [session]
    · rw [session]
  | named name anonymous requested known returned positive session =>
    obtain ⟨response, session⟩ := session
    rw [session] at inside
    cases anonymous.symm.trans inside
  | entered password m lock anonymous requested ownName connected session =>
    obtain ⟨response, session⟩ := session
    obtain ⟨vec, logon, hasStorages, storages⟩ := connected.logon
    cases requested.symm.trans parsed
    refine ⟨d.log, _, [], password, vec, m, rfl, rfl, ?_, ?_, hasStorages, ?_, ?_⟩
    · rw [session]; exact h.name.symm
    · rw [session]; exact logon
    · rw [session]
    · rw [session, storages]
  | quitted parameter requested returned session =>
    obtain ⟨response, session⟩ := session
    have before : d.session.state = .Transaction := by rw [session] at inside; exact inside
    refine (h.entered before).go_on (f := id) Mailbox.SameBox.refl ⟨_, rfl⟩ ?_ ?_
    · rw [session]
    · rw [session, Option.map_id]
      rfl

/-- A request the parser itself failed on is no command, so it was none of these. -/
theorem Handled.of_parser_failure {cfg : Config} {fs : FileSystems} {s : POP3Session} {ended : Ended}
    {fault : Fault} (handled : Handled cfg fs s ended)
    (failed : parsePOP3Command cfg.lex s.request = .error fault) :
    ∃ calls response,
      ended.session = { s with response, mailbox := s.mailbox.map (Mailbox.run · calls) } := by
  cases handled with
  | acted session notQuit sameName => exact ⟨_, session⟩
  | named name anonymous requested known returned positive session => cases requested.symm.trans failed
  | entered password m lock anonymous requested ownName connected session =>
    cases requested.symm.trans failed
  | quitted parameter requested returned session => cases requested.symm.trans failed

theorem Moved.authenticated {cfg : Config} {d d' : Dialogue} (moved : Moved cfg d d')
    (h : Authenticated cfg d) : Authenticated cfg d' := by
  have self : ∀ m, Mailbox.SameBox m (id m) := Mailbox.SameBox.refl
  have mailbox : d.session.mailbox = d.session.mailbox.map id := (Option.map_id_fun ▸ rfl)
  cases moved with
  | operation control timer same => exact h.go_on self (.inl rfl) rfl rfl mailbox
  | readStarted accepted => exact h.go_on self (.inl rfl) rfl rfl mailbox
  | received chunk op reading => exact h.go_on self (.inl rfl) rfl rfl mailbox
  | locked op lock password reading pending ownName => exact h.go_on self (.inl rfl) rfl rfl mailbox
  | answered fs ended handling handled =>
    rcases handlerEnded_cases cfg d fs ended with ⟨result, parsed, same⟩ | ⟨fault, failed, same⟩
    · rw [same]
      exact handled.authenticated parsed h
    · obtain ⟨calls, response, session⟩ := handled.of_parser_failure failed
      rw [same, session]
      exact h.go_on (fun m => Mailbox.sameBox_run m _) (.inl rfl) rfl rfl rfl
  | failed waiting => exact h.go_on self (.inl rfl) rfl rfl mailbox
  | signedOff op writing quit =>
    exact h.go_on Mailbox.sameBox_setUpdate (.inr ⟨.replied, rfl, rfl⟩) rfl rfl rfl
  | replied op writing goesOn => exact h.go_on self (.inr ⟨.replied, rfl, rfl⟩) rfl rfl mailbox

theorem Reached.authenticated {cfg : Config} {sessionId : Nat} {d : Dialogue}
    (reached : Reached cfg sessionId d) : Authenticated cfg d := by
  refine reached.invariant (Authenticated cfg) ?_ fun d d' h moved => moved.authenticated h
  exact ⟨rfl, by simp [created]⟩

/-- A server over a cache of records. -/
def singleConfig (hash : Bytes → UInt64) {NameType PasswordType : KeyType}
    (cache : ConsumerCache NameType PasswordType) (defaultPath : Path) (lex : Bytes → Option UInt32) :
    Config :=
  { auth := SingleConsumerInfoStorageAuthorizationManager hash cache, defaultPath, lex }

/-- **Authentication over every run.** With the records of `cache` behind the manager, a session
in Transaction has the last name accepted, and after that name it has handled a `PASS`
that fits a record with storages; its mailbox is over the storages of that record that
could be created, in their order. If no record has the converted empty name, no session
gets there without a `USER` accepted. -/
theorem authentication_sound {hash : Bytes → UInt64} {NameType PasswordType : KeyType}
    {cache : ConsumerCache NameType PasswordType} {defaultPath : Path} {lex : Bytes → Option UInt32}
    {sessionId : Nat} {d : Dialogue}
    (reached : Reached (singleConfig hash cache defaultPath lex) sessionId d)
    (inside : d.session.state = .Transaction) :
    d.session.userName = nameOf d.log ∧
    (∃ before x after password, ∃ r ∈ cache.cachedConsumerInfos, ∃ m,
      d.log = before ++ .handled x :: after ∧ x.result = .ok ⟨.PASS, .string password⟩ ∧
      nameOf before = d.session.userName ∧
      NameType.convert hash d.session.userName = .ok r.name ∧
      PasswordType.convert hash password = .ok r.password ∧ r.storages ≠ [] ∧
      d.session.mailbox = some m ∧
      m.storages.map (·.emails) =
        (createStorages (x.fs 0) defaultPath r.storages d.session.userName).map (·.emails)) ∧
    ((∀ r ∈ cache.cachedConsumerInfos, NameType.convert hash [] ≠ .ok r.name) →
      ∃ note ∈ d.log, note.accepts ≠ none) := by
  have authenticated := reached.authenticated
  obtain ⟨before, x, after, password, vec, m, log, pass, name, logon, hasStorages, mailbox, storages⟩ :=
    authenticated.entered inside
  obtain ⟨r, member, converted, checked, rfl⟩ := single_logon_ok logon
  refine ⟨authenticated.name, ⟨before, x, after, password, r, member, m, log, pass, name, converted,
    checked, hasStorages, mailbox, storages⟩, fun noEmptyName => ?_⟩
  by_contra noUser
  push Not at noUser
  have empty : d.session.userName = [] := authenticated.name.trans (nameOf_of_none noUser)
  rw [empty] at converted
  exact noEmptyName r member converted

/-- One record, its name and its password kept as the sums of their bytes. -/
def oneRecord : ConsumerCache .hashed .hashed where
  cachedConsumerInfos :=
    [{ name := 117, password := 112,
       storages := [{ storageType := .FileSystemMailStorage, count_le := Nat.zero_le _ }] }]

/-- `USER u` and `PASS p`, each in a chunk of its own. -/
def userPassLogin : List (ActiveMailboxes × SessionEvent) :=
  [(∅, .startRead), (∅, .receive (ascii "USER u" ++ crlf)), (∅, .runRead fun _ => Mailbox.oneByteFiles),
    (∅, .sent), (∅, .runWrite), (∅, .receive (ascii "PASS p" ++ crlf)),
    (∅, .runRead fun _ => Mailbox.oneByteFiles), (∅, .runLogin fun _ => Mailbox.oneByteFiles)]

/-- The server over that record. -/
abbrev oneRecordConfig : Config :=
  singleConfig (fun bytes => (bytes.map UInt8.toUInt64).sum) oneRecord (ascii "/mail") fun _ => none

theorem authentication_sound_userPassLogin :
    ∃ d, exec (Dialogue.localStep oneRecordConfig) (created 0) userPassLogin = some d ∧
      d.session.userName = ascii "u" ∧ d.session.userName = nameOf d.log := by
  obtain ⟨d, run, inside, name⟩ : ∃ d,
      exec (Dialogue.localStep oneRecordConfig) (created 0) userPassLogin = some d ∧
        d.session.state = .Transaction ∧ d.session.userName = ascii "u" := ⟨_, rfl, rfl, rfl⟩
  exact ⟨d, run, name, (authentication_sound ⟨userPassLogin, run⟩ inside).1⟩

end Pop3Serv.Net
