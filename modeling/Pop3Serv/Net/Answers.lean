import Pop3Serv.Net.Authentication
import Pop3Serv.Net.Lifetime
import Pop3Serv.Net.Replies

/-!
# Every request answered

`Answerable` is the condition under which a request to a server over a cache of
records is answered: what the client sent fits the key types, and every file whose
size is asked for is still there. `answers_readImpl` has it for one request of a
session in any reachable state. Over the server it means that no exception leaves
a handler, so that every session in the list has an operation pending or a handler
at work on it.
-/

namespace Pop3Serv.Net
open Proto Mail Logic

/-- A session has no name, or one its authorization manager has verified. -/
theorem Reached.userName_known {cfg : Config} {sessionId : Nat} {d : Dialogue}
    (reached : Reached cfg sessionId d) :
    d.session.userName = [] ∨ cfg.auth.verifyName d.session.userName = .ok true := by
  refine reached.invariant
    (fun d => d.session.userName = [] ∨ cfg.auth.verifyName d.session.userName = .ok true) (.inl rfl) ?_
  intro d d' known moved
  cases moved with
  | answered fs ended handling handled =>
    rw [handlerEnded_session]
    cases handled with
    | acted session notQuit sameName => obtain ⟨response, session⟩ := session; rw [session]; exact known
    | named name anonymous requested verified returned positive session =>
      obtain ⟨response, session⟩ := session
      rw [session]
      exact .inr verified
    | entered password m lock anonymous requested ownName connected session =>
      obtain ⟨response, session⟩ := session; rw [session]; exact known
    | quitted parameter requested returned session =>
      obtain ⟨response, session⟩ := session; rw [session]; exact known
  | _ => exact known

/-- The mailbox of a session keeps the invariant of its storages. -/
theorem Reached.mailbox_wellFormed {cfg : Config} {sessionId : Nat} {d : Dialogue}
    (reached : Reached cfg sessionId d) {m : Mailbox} (mailbox : d.session.mailbox = some m) :
    m.WellFormed := by
  have opened : ∀ m' : Mailbox, m'.asOpened.WellFormed := fun m' => Mailbox.opened_wellFormed _ _ _
  cases reached.carries with
  | anonymous state noMailbox unacknowledged calls => cases noMailbox.symm.trans mailbox
  | serving m' state mailbox' unacknowledged made =>
    cases mailbox'.symm.trans mailbox
    rw [made]
    exact (opened m).run _
  | committed m' state ended mailbox' acknowledged made =>
    cases mailbox'.symm.trans mailbox
    rw [made]
    exact ((opened m).run _).setUpdate

section
variable {hash : Bytes → UInt64} {NameType PasswordType : KeyType}
  {cache : ConsumerCache NameType PasswordType} {defaultPath : Path} {lex : Bytes → Option UInt32}

/-- What a command in Authorization asks for: a `USER` a name that fits, a `PASS` under a name no
session holds a login that can be answered. -/
def AnonymousAnswerable (hash : Bytes → UInt64) (cache : ConsumerCache NameType PasswordType)
    (defaultPath : Path) (fs : FileSystems) (active : ActiveMailboxes) (userName : Bytes)
    (cmd : POP3Command) : Prop :=
  match cmd.cmdType, cmd.parameter with
  | .USER, .string name => NameType.Fits name
  | .PASS, .string password => userName ∉ active → LoginAnswerable hash cache defaultPath fs userName password
  | _, _ => True

/-- A request that can be answered. -/
def POP3Session.Answerable (hash : Bytes → UInt64) (cache : ConsumerCache NameType PasswordType)
    (defaultPath : Path) (lex : Bytes → Option UInt32) (fs : FileSystems) (active : ActiveMailboxes)
    (s : POP3Session) : Prop :=
  ∀ cmd, parsePOP3Command lex s.request = .ok (.ok cmd) →
    if s.state = .Authorization then AnonymousAnswerable hash cache defaultPath fs active s.userName cmd
    else ∀ m ∈ s.mailbox, TransactionAnswerable fs m cmd

theorem returns_verifyName {name : Bytes} :
    Returns ((SingleConsumerInfoStorageAuthorizationManager hash cache).verifyName name) ↔
      NameType.Fits name := by
  rw [← returns_convert hash]
  constructor
  · rintro ⟨known, verified⟩
    obtain ⟨key, converted, _⟩ := bind_ok verified
    exact ⟨key, converted⟩
  · rintro ⟨key, converted⟩
    exact ⟨cache.hasMailbox key, by simp [SingleConsumerInfoStorageAuthorizationManager, converted, bind,
      Except.bind, pure, Except.pure]⟩

/-- **Every command in Authorization** returns exactly if what it sent fits, and a login can be
answered. -/
theorem POP3Session.replies_anonymous {s : POP3Session} (fits : NameType.Fits s.userName)
    (fs : FileSystems) (active : ActiveMailboxes) {cmd : POP3Command} (accepted : cmd.WellFormed) :
    Ended.Replies (AnonymousAnswerable hash cache defaultPath fs active s.userName cmd)
      (s.handleAnonymousCommand (singleConfig hash cache defaultPath lex) fs active cmd).1 := by
  obtain ⟨cmdType, parameter⟩ := cmd
  cases cmdType with
  | USER =>
    obtain ⟨name, rfl⟩ := accepted.userName rfl
    show Ended.Replies _
      (attempt s ((SingleConsumerInfoStorageAuthorizationManager hash cache).verifyName name) _)
    refine Ended.Replies.of_iff (replies_last fun known => ?_) returns_verifyName
    cases known with
    | false => exact replies_setErrorResponse s _
    | true => exact replies_setSimpleOkResponse _ _
  | PASS =>
    obtain ⟨password, rfl⟩ := accepted.password rfl
    show Ended.Replies (s.userName ∉ active → _) (s.finishPass fs (connect _ defaultPath (fs 0)
      (MailboxLock.construct active s.userName).1 s.userName password).1)
    by_cases taken : s.userName ∈ active
    · have busy : (MailboxLock.construct active s.userName).1 = ⟨s.userName, false⟩ := by
        simp [MailboxLock.construct, LockMailbox, taken]
      rw [busy]
      exact (replies_operationError s fs _).of_iff (iff_of_true trivial fun free => absurd taken free)
    · have acquired : (MailboxLock.construct active s.userName).1.acquired = true := by
        simp [MailboxLock.construct, LockMailbox, taken]
      exact (replies_login acquired fits).of_iff (by simp [taken])
  | NOOP => exact replies_setSimpleOkResponse s _
  | QUIT => exact replies_setSimpleOkResponse _ _
  | UNKNOWN => exact absurd rfl accepted.known
  | _ => exact replies_setErrorResponse s _

/-- **A request with a token** is answered exactly if it is answerable. -/
theorem POP3Session.answers_readImpl {s : POP3Session} (typestate : Typestate s)
    (fits : NameType.Fits s.userName) (wellFormed : ∀ m, s.mailbox = some m → m.WellFormed)
    (hasToken : tokens s.request ≠ []) (fs : FileSystems) (active : ActiveMailboxes) :
    (s.readImpl (singleConfig hash cache defaultPath lex) fs active).1.Answers ↔
      s.Answerable hash cache defaultPath lex fs active := by
  obtain ⟨result, parsed⟩ := parsePOP3Command_returns lex hasToken
  unfold readImpl Answerable
  rw [show (singleConfig hash cache defaultPath lex).lex = lex from rfl, parsed]
  cases result with
  | error err =>
    exact (replies_setErrorResponse _ _).answers_write.trans (iff_of_true trivial (by simp))
  | ok cmd =>
    have accepted := (parsePOP3Command_ok parsed).1
    simp only [Except.ok.injEq, forall_eq']
    split
    · exact (replies_anonymous (s := { s with response := [] }) fits fs active accepted).answers_write
    · rename_i inside
      obtain ⟨m, mailbox⟩ : ∃ m, s.mailbox = some m := by
        refine typestate.mailbox_some ?_
        cases state : s.state with
        | Authorization => exact absurd state inside
        | Transaction => rfl
        | Update => exact absurd state typestate.noUpdate
      have handled := replies_authorized (s := { s with response := [] }) mailbox (wellFormed m mailbox) fs
        accepted
      exact handled.answers_write.trans (by simp [mailbox])

/-- A name that has come through the manager fits, and so does none at all. -/
theorem Reached.userName_fits {sessionId : Nat} {d : Dialogue}
    (reached : Reached (singleConfig hash cache defaultPath lex) sessionId d) :
    NameType.Fits d.session.userName := by
  rcases reached.userName_known with unnamed | known
  · rw [unnamed]
    cases NameType with
    | compactString size => exact Nat.zero_le _
    | hashed => trivial
  · exact returns_verifyName.mp ⟨true, known⟩

/-! ## Over the server -/

/-- What the read completion handler finds lets it return: a request with a token that can be
answered. A login is looked at where the handler goes on with its lock. -/
def Dialogue.HandlerAnswerable (hash : Bytes → UInt64) (cache : ConsumerCache NameType PasswordType)
    (defaultPath : Path) (lex : Bytes → Option UInt32) (active : ActiveMailboxes) (d : Dialogue) :
    SessionEvent → Prop
  | .runRead fs => d.control = .reading (.queued .success) →
    tokens d.session.request ≠ [] ∧
      (pendingLogin (singleConfig hash cache defaultPath lex) d.session = none →
        d.session.Answerable hash cache defaultPath lex fs active)
  | .runLogin fs => ∀ lock password, d.control = .loggingIn lock password → lock.acquired = true →
    LoginAnswerable hash cache defaultPath fs d.session.userName password
  | _ => True

/-- The session that makes the step finds what it needs. -/
def Server.HandlersAnswer (hash : Bytes → UInt64) (cache : ConsumerCache NameType PasswordType)
    (defaultPath : Path) (lex : Bytes → Option UInt32) (st : Server) : Event → Prop
  | .session sessionId e => ∀ (object : SessionObject), st.objects[sessionId]? = some object →
    object.dialogue.HandlerAnswerable hash cache defaultPath lex st.activeMailboxes e
  | _ => True

theorem handlerEnded_returned (cfg : Config) {d : Dialogue} {ended : Ended} {result : Parsed}
    (parsed : parsePOP3Command cfg.lex d.session.request = .ok result) (returned : ended.thrown = none)
    (fs : FileSystems) : (d.handlerEnded cfg fs ended).control = .writing .outstanding := by
  unfold Dialogue.handlerEnded
  rw [parsed]
  exact if_pos returned

theorem Control.Same.not_escaped {control control' : Control} (same : control.Same control')
    (goesOn : control ≠ .escaped) : control' ≠ .escaped := by
  cases same with
  | refl => exact goesOn
  | reading ec failed => nofun
  | writing ec => nofun

/-- **A step whose handler finds what it needs** lets no exception out. -/
theorem step_not_escaped {active : ActiveMailboxes} {sessionId : Nat} {d : Dialogue} {e : SessionEvent}
    {stepped : Stepped} (reached : Reached (singleConfig hash cache defaultPath lex) sessionId d)
    (meets : d.HandlerAnswerable hash cache defaultPath lex active e) (goesOn : d.control ≠ .escaped)
    (h : d.step (singleConfig hash cache defaultPath lex) active e = some stepped) :
    stepped.dialogue.control ≠ .escaped := by
  cases step_stepping h with
  | operation control timer same silent => exact same.not_escaped goesOn
  | readStarted event accepted => nofun
  | received chunk event reading => nofun
  | runRead ec fs event reading =>
    subst event
    unfold Dialogue.runRead
    split
    · rename_i success
      subst success
      obtain ⟨hasToken, answerable⟩ := meets reading
      obtain ⟨result, parsed⟩ := parsePOP3Command_returns lex hasToken
      split
      · nofun
      · rename_i noLogin
        have answers := (POP3Session.answers_readImpl reached.typestate reached.userName_fits
          (fun m mailbox => reached.mailbox_wellFormed mailbox) hasToken fs active).mpr (answerable noLogin)
        have writing := handlerEnded_returned (singleConfig hash cache defaultPath lex) parsed
          answers.returned fs
        intro escaped
        cases writing.symm.trans escaped
    · nofun
  | runLogin lock password fs event loggingIn =>
    subst event
    obtain ⟨requested, _⟩ := pendingLogin_eq_some_iff.mp (reached.loginPending lock password loggingIn).1
    have replies : (({ d.session with response := [] } : POP3Session).finishPass fs
        (connect (SingleConsumerInfoStorageAuthorizationManager hash cache) defaultPath (fs 0) lock
          d.session.userName password).1).write.thrown = none := by
      rw [Ended.write_thrown]
      cases acquired : lock.acquired with
      | true =>
        exact (POP3Session.replies_login (s := { d.session with response := [] }) acquired
          reached.userName_fits).returned.mpr (meets lock password loggingIn acquired)
      | false =>
        unfold connect
        rw [if_neg (by simp [acquired])]
        exact (POP3Session.replies_operationError _ fs _).returned.mpr trivial
    have writing := handlerEnded_returned _ requested replies fs
    intro escaped
    cases writing.symm.trans escaped
  | runWrite ec event writing =>
    unfold Dialogue.runWrite
    split
    · split <;> nofun
    · nofun

/-- Every run whose handlers find what they need: no exception has left a handler. -/
theorem Server.none_escaped {es : List Event} {st : Server}
    (run : exec (Server.step (singleConfig hash cache defaultPath lex)) {} es = some st)
    (meet : StepsMeet (Server.step (singleConfig hash cache defaultPath lex))
      (Server.HandlersAnswer hash cache defaultPath lex) {} es) :
    st.All fun _ object => object.dialogue.control ≠ .escaped := by
  let C : Server → Nat → SessionEvent → Prop := fun st sessionId e =>
    Server.HandlersAnswer hash cache defaultPath lex st (.session sessionId e)
  let I : Server → Prop := fun st => st.All fun sessionId object =>
    Reached (singleConfig hash cache defaultPath lex) sessionId object.dialogue ∧
      object.dialogue.control ≠ .escaped
  have keep : ∀ st e st', I st → Server.HandlersAnswer hash cache defaultPath lex st e →
      st.step (singleConfig hash cache defaultPath lex) e = some st' → I st' := by
    intro st e st' here meets step
    refine Server.step_preserves (C := C) (fun _ _ h same => h.same same) ?_ ?_ ?_ here ?_ step
    · exact fun st here => here.createSession fun sessionId => ⟨Reachable.refl _, nofun⟩
    · intro st sessionId e st' here meets step
      obtain ⟨d, stepped, lives, moved, rfl⟩ := stepSession_cases step
      obtain ⟨reached, goesOn⟩ := here sessionId _ lives
      rw [settle_eq]
      exact here.set ⟨reached_step sessionId d e _ stepped reached moved,
        step_not_escaped reached (meets _ lives) goesOn moved⟩
    · exact fun st sessionId object _ => trivial
    · rintro sessionId e' rfl
      exact meets
  have after : I st := exec_invariant_of I (Server.HandlersAnswer hash cache defaultPath lex) keep
    (by simp [I, Server.All]) meet run
  exact fun sessionId object found => (after sessionId object found).2

/-- A session in the list that something is going on for: an operation is pending, or the accept
handler or the read handler is at work on it. -/
def Control.Served (control : Control) : Prop :=
  (∃ op, control = .reading op ∨ control = .writing op) ∨ control = .accepted ∨
    ∃ lock password, control = .loggingIn lock password

theorem Control.served_of_holds {control : Control} (holds : control.Holds) : control.Served := by
  cases control with
  | accepted => exact .inr (.inl rfl)
  | reading op => exact .inl ⟨op, .inl rfl⟩
  | loggingIn lock password => exact .inr (.inr ⟨lock, password, rfl⟩)
  | writing op => exact .inl ⟨op, .inr rfl⟩
  | ended => exact absurd rfl holds.1
  | escaped => exact absurd rfl holds.2

/-- **Every request answered, where it can be.** In any reachable state a request with a token is
answered by one write of a response exactly if it is answerable; and in a run of the server in which
every handler finds an answerable request, no session in the list is left without an
operation pending. -/
theorem request_answered_iff (hash : Bytes → UInt64) (cache : ConsumerCache NameType PasswordType)
    (defaultPath : Path) (lex : Bytes → Option UInt32) :
    (∀ sessionId d request fs active, Reached (singleConfig hash cache defaultPath lex) sessionId d →
      tokens request ≠ [] →
      ((({ d.session with request } : POP3Session).readImpl (singleConfig hash cache defaultPath lex) fs
          active).1.Answers ↔
        ({ d.session with request } : POP3Session).Answerable hash cache defaultPath lex fs active)) ∧
    (∀ es st, exec (Server.step (singleConfig hash cache defaultPath lex)) {} es = some st →
      StepsMeet (Server.step (singleConfig hash cache defaultPath lex))
        (Server.HandlersAnswer hash cache defaultPath lex) {} es →
      ∀ sessionId ∈ st.sessions, ∃ object : SessionObject,
        st.objects[sessionId]? = some object ∧ object.dialogue.control.Served) := by
  constructor
  · intro sessionId d request fs active reached hasToken
    exact POP3Session.answers_readImpl (s := { d.session with request }) (reached.typestate.request request)
      reached.userName_fits (fun m mailbox => reached.mailbox_wellFormed mailbox) hasToken fs active
  · intro es st run meet sessionId listed
    have lifetimes := Server.lifetimes ⟨es, run⟩
    have found := List.getElem?_eq_getElem (lifetimes.inRange sessionId listed)
    refine ⟨_, found, Control.served_of_holds ⟨?_, ?_⟩⟩
    · exact (lifetimes.listed sessionId _ found).mp listed
    · exact Server.none_escaped run meet sessionId _ found

end

/-- A mail directory with one file. -/
def oneMail : FileSystem := { Mailbox.oneByteFiles with regular_files := fun _ => some [ascii "m"] }

/-- The file has gone. -/
def goneMail : FileSystem := { oneMail with file_size := fun _ => none }

/-- A login to a directory with one file. -/
def oneMailLogin : List (ActiveMailboxes × SessionEvent) :=
  [(∅, .startRead), (∅, .receive (ascii "USER u" ++ crlf)), (∅, .runRead fun _ => oneMail),
    (∅, .sent), (∅, .runWrite), (∅, .receive (ascii "PASS p" ++ crlf)),
    (∅, .runRead fun _ => oneMail), (∅, .runLogin fun _ => oneMail)]

/-- A server run in which a session asks for the user `u`. -/
def userRun : List Event :=
  [.acceptDone false, .runAccept, .createSession, .session 0 .startRead,
    .session 0 (.receive (ascii "USER u" ++ crlf)), .session 0 (.runRead fun _ => oneMail)]

/-- Logged in to a maildrop with a file, a `STAT` is answered; and the session of `userRun` is being
written to. -/
theorem request_answered_stat :
    (∃ d, exec (Dialogue.localStep oneRecordConfig) (created 0) oneMailLogin = some d ∧
      d.session.mailbox.map Mailbox.entries = some [(ascii "m", false)] ∧
      (({ d.session with request := ascii "STAT" } : POP3Session).readImpl oneRecordConfig
        (fun _ => oneMail) ∅).1.Answers) ∧
    ∃ st, exec (Server.step oneRecordConfig) {} userRun = some st ∧
      ∃ object, st.objects[0]? = some object ∧ object.dialogue.control.Served := by
  obtain ⟨each, runs⟩ := request_answered_iff (fun bytes => (bytes.map UInt8.toUInt64).sum) oneRecord
    (ascii "/mail") fun _ => none
  constructor
  · obtain ⟨d, run, state, entries⟩ : ∃ d,
        exec (Dialogue.localStep oneRecordConfig) (created 0) oneMailLogin = some d ∧
          d.session.state = .Transaction ∧
          d.session.mailbox.map Mailbox.entries = some [(ascii "m", false)] := ⟨_, rfl, rfl, rfl⟩
    refine ⟨d, run, entries, (each 0 d (ascii "STAT") _ ∅ ⟨_, run⟩ (by decide)).mpr fun cmd parsed => ?_⟩
    cases parsed
    rw [if_neg (by simp [state])]
    exact fun m mailbox p member => rfl
  · obtain ⟨st, run, listed⟩ : ∃ st, exec (Server.step oneRecordConfig) {} userRun = some st ∧
        0 ∈ st.sessions := ⟨_, rfl, List.mem_singleton.mpr rfl⟩
    refine ⟨st, run, runs userRun st run ?_ 0 listed⟩
    refine .cons trivial rfl (.cons trivial rfl (.cons trivial rfl (.cons (fun _ _ => trivial) rfl
      (.cons (fun _ _ => trivial) rfl (.cons ?_ rfl trivial)))))
    intro object found _
    obtain rfl := Option.some.inj found
    refine ⟨by decide, fun _ cmd parsed => ?_⟩
    cases parsed
    exact trivial

/-- `USER u`, `PASS p`, and a `STAT` received. -/
def statReceived : List Event :=
  [.acceptDone false, .runAccept, .createSession, .session 0 .startRead,
    .session 0 (.receive (ascii "USER u" ++ crlf)), .session 0 (.runRead fun _ => oneMail),
    .session 0 .sent, .session 0 .runWrite, .session 0 (.receive (ascii "PASS p" ++ crlf)),
    .session 0 (.runRead fun _ => oneMail), .session 0 (.runLogin fun _ => oneMail), .session 0 .sent,
    .session 0 .runWrite, .session 0 (.receive (ascii "STAT" ++ crlf))]

/-- When the file has gone by then, the `STAT` is not answered: the exception leaves the handler, and
the session stays in the list with nothing going on for it and its name locked. -/
theorem gone_mail_not_answered :
    ∃ st st' object object', exec (Server.step oneRecordConfig) {} statReceived = some st ∧
      st.objects[0]? = some object ∧ tokens object.dialogue.session.request ≠ [] ∧
      ¬ (object.dialogue.session.readImpl oneRecordConfig (fun _ => goneMail) st.activeMailboxes).1.Answers ∧
      st.step oneRecordConfig (.session 0 (.runRead fun _ => goneMail)) = some st' ∧
      0 ∈ st'.sessions ∧ st'.objects[0]? = some object' ∧ ¬ object'.dialogue.control.Served ∧
      ascii "u" ∈ st'.activeMailboxes := by
  obtain ⟨st, object, run, found, request, thrown⟩ : ∃ st object,
      exec (Server.step oneRecordConfig) {} statReceived = some st ∧ st.objects[0]? = some object ∧
      tokens object.dialogue.session.request = [ascii "STAT"] ∧
      (object.dialogue.session.readImpl oneRecordConfig (fun _ => goneMail) st.activeMailboxes).1.thrown =
        some .filesystemError := ⟨_, _, rfl, rfl, rfl, rfl⟩
  obtain ⟨st', object', last, listed, found', control, locked⟩ : ∃ st' object',
      exec (Server.step oneRecordConfig) {} (statReceived ++ [.session 0 (.runRead fun _ => goneMail)]) =
        some st' ∧ st'.sessions = [0] ∧ st'.objects[0]? = some object' ∧
      object'.dialogue.control = .escaped ∧ ascii "u" ∈ st'.activeMailboxes :=
    ⟨_, _, rfl, rfl, rfl, rfl, by decide⟩
  obtain ⟨before, run', step⟩ := exec_snoc_some last
  cases run.symm.trans run'
  refine ⟨st, st', object, object', run, found, by simp [request], fun answers => ?_, step, by simp [listed],
    found', ?_, locked⟩
  · cases thrown.symm.trans answers.returned
  · rw [control]
    simp [Control.Served]

end Pop3Serv.Net
