import Pop3Serv.Mail.Login
import Pop3Serv.Net.Session
import Pop3Serv.Proto.Parsing

/-!
# What one request can do to a session

Each handler in one lemma: which marking calls it makes on the mailbox
(`callsOf`), and that it changes nothing else of the session but the response.
`Handled` then lists the changes a request can make, and `readImpl_handled` says
there are no others. Every fact about runs of a session is derived from it, and
no later proof about runs opens a handler.
-/

namespace Pop3Serv.Net
open Proto Mail

/-- The request in the buffer parses as this command. -/
def POP3Session.Requests (cfg : Config) (s : POP3Session) (cmd : POP3Command) : Prop :=
  parsePOP3Command cfg.lex s.request = .ok (.ok cmd)

/-- The response begins with `+OK`. -/
def Positive (response : Bytes) : Prop := POP3Status.OK.text <+: response

instance (response : Bytes) : Decidable (Positive response) := by unfold Positive; infer_instance

/-- The marking calls a command makes in the Transaction state. -/
def callsOf (cmd : POP3Command) : List Mailbox.Op :=
  match cmd.cmdType, cmd.parameter with
  | .DELE, .uint number => [.deleteEmail number.toNat]
  | .DELE, _ => [.deleteEmails]
  | .RSET, _ => [.reset]
  | _, _ => []

/-- The marking calls that handling the request makes. -/
def POP3Session.requestedCalls (cfg : Config) (s : POP3Session) : List Mailbox.Op :=
  match parsePOP3Command cfg.lex s.request with
  | .ok (.ok cmd) => if s.state = .Authorization then [] else callsOf cmd
  | _ => []

/-- A handler that started nothing, made these calls on the mailbox and left the rest
of the session as it was, its response apart. -/
def Ended.Makes (calls : List Mailbox.Op) (s : POP3Session) (ended : Ended) : Prop :=
  ended.started = [] ∧ ∃ response,
    ended.session = { s with response, mailbox := s.mailbox.map (Mailbox.run · calls) }

theorem Ended.makes_respond (s : POP3Session) (response : Bytes) (thrown : Option Fault) :
    Ended.Makes [] s { session := { s with response }, thrown } := by
  refine ⟨rfl, response, ?_⟩
  simp

theorem Ended.makes_nothing (s : POP3Session) (thrown : Option Fault) :
    Ended.Makes [] s { session := s, thrown } := Ended.makes_respond s s.response thrown

theorem makes_attempt {α : Type} {s : POP3Session} {value : Except Fault α} {next : α → Ended}
    (returned : ∀ a, value = .ok a → Ended.Makes [] s (next a)) :
    Ended.Makes [] s (attempt s value next) := by
  unfold attempt
  split
  · exact returned _ rfl
  · exact Ended.makes_nothing s _

/-- A call on the mailbox: without one nothing happens, and with one the handler
goes on from the mailbox the call leaves. -/
theorem makes_call {s : POP3Session} {next : Mailbox → Ended} (op : Mailbox.Op)
    (returned : ∀ m, Ended.Makes [] { s with mailbox := some (m.apply op) } (next m)) :
    Ended.Makes [op] s (attempt s s.box next) := by
  unfold attempt POP3Session.box
  cases boxed : s.mailbox with
  | none =>
    refine ⟨rfl, s.response, ?_⟩
    cases s
    cases boxed
    rfl
  | some m =>
    obtain ⟨started, response, session⟩ := returned m
    refine ⟨started, response, ?_⟩
    rw [session, boxed]
    rfl

namespace POP3Session

theorem makes_setErrorResponse (s : POP3Session) (err : Bytes) :
    Ended.Makes [] s { session := s.setErrorResponse err } := Ended.makes_respond s _ none

theorem makes_setSimpleOkResponse (s : POP3Session) (mesg : Bytes) :
    Ended.Makes [] s { session := s.setSimpleOkResponse mesg } := Ended.makes_respond s _ none

theorem makes_putMailboxInfo (fs : FileSystem) (s : POP3Session) :
    Ended.Makes [] s (s.putMailboxInfoToReponse fs) :=
  makes_attempt fun _ _ => makes_attempt fun _ _ => Ended.makes_respond s _ none

theorem makes_handleList (fs : FileSystems) (s : POP3Session) (cmd : POP3Command) :
    Ended.Makes [] s (s.handleList fs cmd) := by
  unfold handleList
  split
  · refine makes_attempt fun _ _ => makes_attempt fun answer _ => ?_
    cases answer with
    | error err => exact makes_setErrorResponse s _
    | ok length => exact Ended.makes_respond s _ none
  · exact makes_attempt fun _ _ => makes_attempt fun _ _ => makes_attempt fun _ _ =>
      Ended.makes_respond s _ none

theorem makes_handleRetr (fs : FileSystems) (s : POP3Session) (cmd : POP3Command) :
    Ended.Makes [] s (s.handleRetr fs cmd) := by
  refine makes_attempt fun _ _ => makes_attempt fun _ _ => makes_attempt fun found _ => ?_
  cases found with
  | error err => exact makes_setErrorResponse s _
  | ok length =>
    refine makes_attempt fun answer _ => ?_
    cases answer with
    | error err => exact makes_setErrorResponse s _
    | ok content => exact Ended.makes_respond s _ none

theorem makes_handleDelete (fs : FileSystems) (s : POP3Session) {cmd : POP3Command}
    (dele : cmd.cmdType = .DELE) : Ended.Makes (callsOf cmd) s (s.handleDelete fs cmd) := by
  obtain ⟨cmdType, parameter⟩ := cmd
  cases dele
  have whole : Ended.Makes [.deleteEmails] s (attempt s s.box fun mailbox =>
      { session := { s with mailbox := some mailbox.deleteEmails }.setSimpleOkResponse [] }) :=
    makes_call .deleteEmails fun m => makes_setSimpleOkResponse _ _
  cases parameter with
  | monostate => exact whole
  | string argument => exact whole
  | uint number =>
    refine makes_call (.deleteEmail number.toNat) fun m => ?_
    show Ended.Makes [] { s with mailbox := some (m.deleteEmail number.toNat).1 } _
    generalize m.deleteEmail number.toNat = answered
    simp only
    split
    · exact makes_setErrorResponse _ _
    · split
      · exact makes_setErrorResponse _ _
      · exact makes_putMailboxInfo _ _

/-- **Every command but `QUIT`** makes its calls on the mailbox of a session in
Transaction, and changes no flag and no name. -/
theorem makes_handleAuthorized (fs : FileSystems) (s : POP3Session) {cmd : POP3Command}
    (notQuit : cmd.cmdType ≠ .QUIT) :
    Ended.Makes (callsOf cmd) s (s.handleAuthorizedUserCommand fs cmd) := by
  obtain ⟨cmdType, parameter⟩ := cmd
  cases cmdType with
  | LIST => exact makes_handleList fs s _
  | DELE => exact makes_handleDelete fs s rfl
  | NOOP => exact makes_setSimpleOkResponse s _
  | USER =>
    refine makes_attempt fun username _ => ?_
    split
    · exact Ended.makes_respond s _ none
    · exact makes_setErrorResponse s _
  | PASS => exact makes_setErrorResponse s _
  | QUIT => exact absurd rfl notQuit
  | RETR => exact makes_handleRetr fs s _
  | STAT => exact makes_putMailboxInfo _ s
  | RSET => exact makes_call .reset fun m => makes_putMailboxInfo _ _
  | UNKNOWN => exact Ended.makes_nothing s none

/-- What the answer of a login attempt does to the session: it enters the mailbox given, or
nothing changes. -/
theorem finishPass_cases (fs : FileSystems) (s : POP3Session) (result : Except Fault LoginResult) :
    (∃ m, result = .ok (.mailbox m) ∧
      Ended.Makes [] { s with mailbox := some m, state := .Transaction } (s.finishPass fs result)) ∨
    ((∀ m, result ≠ .ok (.mailbox m)) ∧ Ended.Makes [] s (s.finishPass fs result)) := by
  cases result with
  | error fault => exact .inr ⟨nofun, Ended.makes_nothing s _⟩
  | ok answer =>
    cases answer with
    | mailbox m => exact .inl ⟨m, rfl, makes_putMailboxInfo (fs 1) _⟩
    | operationError err =>
      refine .inr ⟨nofun, ?_⟩
      unfold finishPass attempt
      simp only
      split
      · exact makes_setErrorResponse s _
      · exact makes_setErrorResponse s _
    | authError err => exact .inr ⟨nofun, makes_setErrorResponse s _⟩

end POP3Session

theorem positive_append (rest : Bytes) : Positive (POP3Status.OK.text ++ rest) :=
  List.prefix_append _ rest

theorem not_positive_error (s : POP3Session) (err : Bytes) :
    ¬ Positive (s.setErrorResponse err).response := by
  rintro ⟨rest, same⟩
  exact absurd (congrArg List.head? same) (by simp [POP3Session.setErrorResponse, POP3Status.text, ascii])

/-- The requested command is the only one requested. -/
theorem POP3Session.Requests.unique {cfg : Config} {s : POP3Session} {cmd cmd' : POP3Command}
    (h : s.Requests cfg cmd) (h' : s.Requests cfg cmd') : cmd' = cmd := by
  unfold POP3Session.Requests at h h'
  rw [h] at h'
  injection h' with same
  injection same with same
  exact same.symm

/-- The changes a request can make to a session. -/
inductive Handled (cfg : Config) (fs : FileSystems) (s : POP3Session) (ended : Ended) : Prop
  /-- its response, and the marks of its mailbox; a `USER` is then answered positively
  only under the name the session already has -/
  | acted (session : ∃ response,
        ended.session =
          { s with response, mailbox := s.mailbox.map (Mailbox.run · (s.requestedCalls cfg)) })
      (notQuit : ∀ parameter, ¬ s.Requests cfg ⟨.QUIT, parameter⟩)
      (sameName : ∀ name, s.Requests cfg ⟨.USER, .string name⟩ → ended.thrown = none →
        Positive ended.session.response → name = s.userName)
  /-- a `USER` accepted -/
  | named (name : Bytes) (anonymous : s.state = .Authorization)
      (requested : s.Requests cfg ⟨.USER, .string name⟩) (known : cfg.auth.verifyName name = .ok true)
      (returned : ended.thrown = none) (positive : Positive ended.session.response)
      (session : ∃ response, ended.session = { s with userName := name, response })
  /-- a `PASS` that opened the mailbox -/
  | entered (password : Bytes) (m : Mailbox) (lock : MailboxLock) (anonymous : s.state = .Authorization)
      (requested : s.Requests cfg ⟨.PASS, .string password⟩) (ownName : lock.name = s.userName)
      (connected : Connected cfg.auth cfg.defaultPath (fs 0) lock s.userName password m)
      (session : ∃ response,
        ended.session = { s with mailbox := some m, state := .Transaction, response })
  | quitted (parameter : Parameter) (requested : s.Requests cfg ⟨.QUIT, parameter⟩)
      (returned : ended.thrown = none)
      (session : ∃ response, ended.session = { s with quitCommandReceived := true, response })

theorem Ended.write_session (ended : Ended) : ended.write.session = ended.session := by
  unfold Ended.write
  split <;> rfl

theorem Ended.write_thrown (ended : Ended) : ended.write.thrown = ended.thrown := by
  unfold Ended.write
  split <;> rfl

/-- A handler works on the session with its old response cleared, and `write` is called after it. -/
theorem Handled.write {cfg : Config} {fs : FileSystems} {s : POP3Session} {ended : Ended}
    (h : Handled cfg fs { s with response := [] } ended) : Handled cfg fs s ended.write := by
  cases h with
  | acted session notQuit sameName =>
    refine .acted ?_ notQuit ?_
    · rw [ended.write_session]; exact session
    · rw [ended.write_session, ended.write_thrown]; exact sameName
  | named name anonymous requested known returned positive session =>
    refine .named name anonymous requested known ?_ ?_ ?_
    · rw [ended.write_thrown]; exact returned
    · rw [ended.write_session]; exact positive
    · rw [ended.write_session]; exact session
  | entered password m lock anonymous requested ownName connected session =>
    refine .entered password m lock anonymous requested ownName connected ?_
    rw [ended.write_session]; exact session
  | quitted parameter requested returned session =>
    refine .quitted parameter requested ?_ ?_
    · rw [ended.write_thrown]; exact returned
    · rw [ended.write_session]; exact session

theorem POP3Session.Requests.requestedCalls {cfg : Config} {s : POP3Session} {cmd : POP3Command}
    (requested : s.Requests cfg cmd) :
    s.requestedCalls cfg = if s.state = .Authorization then [] else callsOf cmd := by
  unfold POP3Session.requestedCalls
  rw [requested]

/-- A request that only makes its calls on the mailbox, and is neither `QUIT` nor `USER`. -/
theorem Handled.of_makes {cfg : Config} {fs : FileSystems} {s : POP3Session} {ended : Ended}
    {cmd : POP3Command} (requested : s.Requests cfg cmd) (notQuit : cmd.cmdType ≠ .QUIT)
    (notUser : cmd.cmdType ≠ .USER) (makes : Ended.Makes (s.requestedCalls cfg) s ended) :
    Handled cfg fs s ended := by
  refine .acted makes.2 (fun parameter quit => ?_) (fun name user => ?_)
  · exact absurd (congrArg POP3Command.cmdType (requested.unique quit)).symm notQuit
  · exact absurd (congrArg POP3Command.cmdType (requested.unique user)).symm notUser

/-- A `USER` that was not accepted. -/
theorem Handled.of_user {cfg : Config} {fs : FileSystems} {s : POP3Session} {ended : Ended}
    {name : Bytes} (requested : s.Requests cfg ⟨.USER, .string name⟩) (makes : Ended.Makes [] s ended)
    (sameName : ended.thrown = none → Positive ended.session.response → name = s.userName) :
    Handled cfg fs s ended := by
  have calls : s.requestedCalls cfg = [] := by
    rw [requested.requestedCalls]
    split <;> rfl
  refine .acted (calls ▸ makes.2) (fun parameter quit => ?_) (fun name' user => ?_)
  · cases requested.unique quit
  · cases requested.unique user
    exact sameName

/-- In Authorization no call is made on a mailbox. -/
theorem Handled.of_anonymous {cfg : Config} {fs : FileSystems} {s : POP3Session} {ended : Ended}
    {cmd : POP3Command} (anonymous : s.state = .Authorization) (requested : s.Requests cfg cmd)
    (notQuit : cmd.cmdType ≠ .QUIT) (notUser : cmd.cmdType ≠ .USER) (makes : Ended.Makes [] s ended) :
    Handled cfg fs s ended := by
  refine .of_makes requested notQuit notUser ?_
  rw [requested.requestedCalls, if_pos anonymous]
  exact makes

/-- A login attempt, once its lock is constructed. -/
theorem handled_login {cfg : Config} {s : POP3Session} {lock : MailboxLock} {password : Bytes}
    (anonymous : s.state = .Authorization) (requested : s.Requests cfg ⟨.PASS, .string password⟩)
    (ownName : lock.name = s.userName) (fs : FileSystems) :
    Handled cfg fs s
      (s.finishPass fs (connect cfg.auth cfg.defaultPath (fs 0) lock s.userName password).1) := by
  rcases s.finishPass_cases fs (connect cfg.auth cfg.defaultPath (fs 0) lock s.userName password).1 with
    ⟨m, result, makes⟩ | ⟨_, makes⟩
  · rcases connect_cases cfg.auth cfg.defaultPath (fs 0) lock s.userName password with
      ⟨m', made, connected⟩ | ⟨_, refused⟩
    · rw [made] at result
      cases result
      obtain ⟨_, response, session⟩ := makes
      refine .entered password m lock anonymous requested ownName connected ⟨response, ?_⟩
      rw [session]
      rfl
    · exact absurd result (refused m)
  · exact .of_anonymous anonymous requested (by simp) (by simp) makes

theorem handled_anonymous {cfg : Config} {s : POP3Session} {cmd : POP3Command}
    (anonymous : s.state = .Authorization) (requested : s.Requests cfg cmd) (fs : FileSystems)
    (active : ActiveMailboxes) : Handled cfg fs s (s.handleAnonymousCommand cfg fs active cmd).1 := by
  have accepted := (parsePOP3Command_ok requested).1
  obtain ⟨cmdType, parameter⟩ := cmd
  cases cmdType with
  | USER =>
    obtain ⟨name, rfl⟩ := accepted.userName rfl
    show Handled cfg fs s (attempt s (cfg.auth.verifyName name) _)
    cases known : cfg.auth.verifyName name with
    | error fault => exact .of_user requested (Ended.makes_nothing s _) (nofun)
    | ok answer =>
      cases answer with
      | false =>
        refine .of_user requested (s.makes_setErrorResponse _) fun _ positive => ?_
        exact absurd positive (not_positive_error s _)
      | true =>
        exact .named name anonymous requested known rfl (positive_append _) ⟨_, rfl⟩
  | PASS =>
    obtain ⟨password, rfl⟩ := accepted.password rfl
    have ownName : (MailboxLock.construct active s.userName).1.name = s.userName := rfl
    exact handled_login anonymous requested ownName fs
  | NOOP => exact .of_anonymous anonymous requested (by simp) (by simp) (s.makes_setSimpleOkResponse _)
  | QUIT => exact .quitted parameter requested rfl ⟨_, rfl⟩
  | UNKNOWN => exact absurd rfl accepted.known
  | _ => exact .of_anonymous anonymous requested (by simp) (by simp) (s.makes_setErrorResponse _)

theorem handled_authorized {cfg : Config} {s : POP3Session} {cmd : POP3Command}
    (inside : s.state ≠ .Authorization) (requested : s.Requests cfg cmd) (fs : FileSystems) :
    Handled cfg fs s (s.handleAuthorizedUserCommand fs cmd) := by
  have accepted := (parsePOP3Command_ok requested).1
  by_cases quit : cmd.cmdType = .QUIT
  · obtain ⟨cmdType, parameter⟩ := cmd
    cases quit
    exact .quitted parameter requested rfl ⟨_, rfl⟩
  · have makes := s.makes_handleAuthorized fs quit
    by_cases user : cmd.cmdType = .USER
    · obtain ⟨name, isName⟩ := accepted.userName user
      obtain ⟨cmdType, parameter⟩ := cmd
      cases user
      cases isName
      refine .of_user requested makes fun _ positive => ?_
      by_contra other
      have refused : s.handleAuthorizedUserCommand fs ⟨.USER, .string name⟩ =
          { session := s.setErrorResponse POP3SessionError.OtherMailboxBeingUsed.text } :=
        if_neg fun same => other same.symm
      rw [refused] at positive
      exact not_positive_error s _ positive
    · refine .of_makes requested quit user ?_
      rw [requested.requestedCalls, if_neg inside]
      exact makes

/-- **What a request can do to a session**, in any state and with any outcome of what it calls. -/
theorem readImpl_handled (cfg : Config) (fs : FileSystems) (active : ActiveMailboxes) (s : POP3Session) :
    Handled cfg fs s (s.readImpl cfg fs active).1 := by
  unfold POP3Session.readImpl
  cases parsed : parsePOP3Command cfg.lex s.request with
  | error fault =>
    refine .acted ⟨s.response, ?_⟩ (fun parameter quit => ?_) (fun name user => ?_)
    · simp [POP3Session.requestedCalls, parsed]
    · cases parsed.symm.trans quit
    · cases parsed.symm.trans user
  | ok result =>
    cases result with
    | error err =>
      simp only
      refine Handled.write (.acted ?_ (fun parameter quit => ?_) (fun name user => ?_))
      · have calls : POP3Session.requestedCalls cfg { s with response := [] } = [] := by
          simp [POP3Session.requestedCalls, parsed]
        rw [calls]
        exact (POP3Session.makes_setErrorResponse _ _).2
      · cases parsed.symm.trans quit
      · cases parsed.symm.trans user
    | ok cmd =>
      have requested : POP3Session.Requests cfg { s with response := [] } cmd := parsed
      simp only
      split
      · rename_i anonymous
        have cleared : POP3Session.state { s with response := [] } = .Authorization := anonymous
        exact (handled_anonymous cleared requested fs active).write
      · rename_i inside
        have cleared : POP3Session.state { s with response := [] } ≠ .Authorization := inside
        exact (handled_authorized cleared requested fs).write

end Pop3Serv.Net
