import Pop3Serv.Mail.Accounts
import Pop3Serv.Mail.Lookups
import Pop3Serv.Net.Answers
import Pop3Serv.Net.Authentication
import Pop3Serv.Net.Transactions
import Pop3Serv.Proto.Grammar

/-!
# What a login answers

A `USER` and a `PASS` over the storage of accounts, from the bytes of the two lines to the
replies. What they give depends on the accounts that were added and on nothing that
happened to the storage in between.
-/

namespace Pop3Serv.Net
open Proto Mail Logic

section
variable {hash : Bytes → UInt64} {NameType PasswordType : KeyType} {cache : ConsumerCache NameType PasswordType}
  {defaultPath : Path} {lex : Bytes → Option UInt32} {active : ActiveMailboxes} {s : POP3Session} {r : Request}
  {name password : Bytes} {more : List Bytes} {key : NameType.Value} {digest : PasswordType.Value}
  {record : ConsumerInfo NameType PasswordType}

/-- The session as the handlers meet it: the line in the buffer, no response yet. -/
def POP3Session.asked (s : POP3Session) (r : Request) : POP3Session := { s with request := r.line, response := [] }

/-- The reply to a `USER` that is accepted. -/
def userExists (name : Bytes) : Bytes :=
  POP3Status.OK.text ++ ascii " " ++ cstr (ascii "user " ++ name ++ ascii " exists") ++ crlf

/-- **`USER`** in a session that is not logged in. -/
theorem handle_user (anonymous : s.state = .Authorization) (line : tokens r.line = ascii "USER" :: name :: more)
    (converted : NameType.convert hash name = .ok key) :
    s.handle (singleConfig hash cache defaultPath lex) active r =
      Ended.write (if cache.hasMailbox key then
        { session := { s.asked r with userName := name, response := userExists name } }
      else { session := (s.asked r).setErrorResponse POP3SessionError.NotRegistered.text }) := by
  have parsed : parsePOP3Command lex r.line = .ok (.ok ⟨.USER, .string name⟩) :=
    (Accepts.user name).parses line rfl
  have known : (SingleConsumerInfoStorageAuthorizationManager hash cache).verifyName name =
      .ok (cache.hasMailbox key) := by
    simp [SingleConsumerInfoStorageAuthorizationManager, converted, bind, Except.bind, pure, Except.pure]
  have string : (Parameter.string name).getString = .ok name := rfl
  obtain ⟨sessionId, state, request, response, userName, quit, mailbox⟩ := s
  obtain rfl : state = .Authorization := anonymous
  unfold POP3Session.handle POP3Session.readImpl
  simp only [singleConfig, parsed, if_true, POP3Session.handleAnonymousCommand, string, attempt, known]
  cases cache.hasMailbox key with
  | true => rfl
  | false => rfl

/-- What a login on a record comes to, once the lock is taken. -/
def loginOn (record : ConsumerInfo NameType PasswordType) (digest : PasswordType.Value)
    (storages : List FileSystemMailStorage) (name : Bytes) : LoginResult :=
  if record.password ≠ digest then .authError .InvalidPassword
  else if record.storages = [] then .authError .ConsumerHasNoAssociatedMailStorage
  else if storages = [] then .operationError .UserStoragesInstantinationFailure
  else .mailbox { name, storages, lock := ⟨name, true⟩ }

theorem verifyCredentialsAndConnect_free {fs : FileSystem} (free : name ∉ active)
    (converted : NameType.convert hash name = .ok key) (found : cache.getConsumerInfo key = some record)
    (hashed : PasswordType.convert hash password = .ok digest) :
    (VerifyCredentialsAndConnect (SingleConsumerInfoStorageAuthorizationManager hash cache) defaultPath fs active
      name password).1 =
      .ok (loginOn record digest (createStorages fs defaultPath record.storages name) name) := by
  have logon := single_logon_some converted found password
  rw [hashed] at logon
  have lock : MailboxLock.construct active name = (⟨name, true⟩, insert name active) := by
    simp [MailboxLock.construct, LockMailbox, free]
  unfold VerifyCredentialsAndConnect
  simp only [lock, connect, if_true, logon, loginOn]
  by_cases same : record.password = digest
  · by_cases noStorages : record.storages = []
    · simp [same, noStorages]
    · by_cases failed : createStorages fs defaultPath record.storages name = []
      · simp [same, noStorages, failed]
      · simp [same, noStorages, failed, Mailbox.construct, MailboxLock.move]
  · simp [same]

/-- **`PASS`** in a session that is not logged in. -/
theorem handle_pass {cfg : Config} (anonymous : s.state = .Authorization)
    (line : tokens r.line = ascii "PASS" :: password :: more) :
    s.handle cfg active r = Ended.write ((s.asked r).finishPass r.fs
      (VerifyCredentialsAndConnect cfg.auth cfg.defaultPath (r.fs 0) active s.userName password).1) := by
  have parsed : parsePOP3Command cfg.lex r.line = .ok (.ok ⟨.PASS, .string password⟩) :=
    (Accepts.pass password).parses line rfl
  have string : (Parameter.string password).getString = .ok password := rfl
  obtain ⟨sessionId, state, request, response, userName, quit, mailbox⟩ := s
  obtain rfl : state = .Authorization := anonymous
  unfold POP3Session.handle POP3Session.readImpl
  simp only [parsed, if_true, POP3Session.handleAnonymousCommand, string]
  rfl

/-- A login that was given a mailbox greets with its count and size. -/
theorem finishPass_mailbox {fs : FileSystems} {m : Mailbox} {size : Nat}
    (total : m.getWholeMailboxSize (fs 1) = .ok size) (s : POP3Session) :
    ∃ greeting, Positive greeting ∧ s.finishPass fs (.ok (.mailbox m)) =
      { session := { s with mailbox := some m, state := .Transaction, response := greeting } } := by
  unfold POP3Session.finishPass POP3Session.putMailboxInfoToReponse
  simp only [attempt, POP3Session.box, total]
  refine ⟨_, ?_, rfl⟩
  simp only [List.append_assoc]
  exact positive_append _

theorem serve_one {cfg : Config} (returned : (s.handle cfg active r).thrown = none)
    (goesOn : (s.handle cfg active r).session.quitCommandReceived = false) :
    s.serve cfg active [r] =
      ([(s.handle cfg active r).session.response], { (s.handle cfg active r).session with request := [] }) := by
  rw [POP3Session.serve_cons_goesOn returned goesOn, POP3Session.replied_goesOn goesOn]
  rfl

/-- **`USER` and `PASS`** under the name of a record, the name not locked. -/
theorem serve_login {user pass : Request} {extra : List Bytes} (anonymous : s.state = .Authorization)
    (goesOn : s.quitCommandReceived = false) (userLine : tokens user.line = ascii "USER" :: name :: more)
    (passLine : tokens pass.line = ascii "PASS" :: password :: extra) (free : name ∉ active)
    (converted : NameType.convert hash name = .ok key) (found : cache.getConsumerInfo key = some record)
    (hashed : PasswordType.convert hash password = .ok digest) {ended : Ended}
    (finished : ({ s with userName := name, request := pass.line, response := [] } : POP3Session).finishPass pass.fs
      (.ok (loginOn record digest (createStorages (pass.fs 0) defaultPath record.storages name) name)) = ended)
    (returned : ended.thrown = none) :
    s.serve (singleConfig hash cache defaultPath lex) active [user, pass] =
      ([userExists name, ended.session.response], { ended.session with request := [] }) := by
  have known : cache.hasMailbox key = true := by rw [ConsumerCache.hasMailbox, found]; rfl
  have first : s.handle (singleConfig hash cache defaultPath lex) active user =
      Ended.write { session := { s.asked user with userName := name, response := userExists name } } := by
    rw [handle_user anonymous userLine converted, if_pos known]
  let named : POP3Session := { s with userName := name, request := [], response := userExists name }
  have second : named.handle (singleConfig hash cache defaultPath lex) active pass = ended.write := by
    have inside : named.state = .Authorization := anonymous
    have logon : (VerifyCredentialsAndConnect (singleConfig hash cache defaultPath lex).auth
        (singleConfig hash cache defaultPath lex).defaultPath (pass.fs 0) active named.userName password).1 = .ok _ :=
      verifyCredentialsAndConnect_free free converted found hashed
    rw [handle_pass inside passLine, logon, ← finished]
    rfl
  have goesOn' : ended.session.quitCommandReceived = false := by
    rcases finished ▸ POP3Session.finishPass_cases pass.fs
      { s with userName := name, request := pass.line, response := [] }
      (.ok (loginOn record digest (createStorages (pass.fs 0) defaultPath record.storages name) name))
      with ⟨m, _, _, response, session⟩ | ⟨_, _, response, session⟩
    · exact (congrArg POP3Session.quitCommandReceived session).trans goesOn
    · exact (congrArg POP3Session.quitCommandReceived session).trans goesOn
  have answered : named.serve (singleConfig hash cache defaultPath lex) active [pass] =
      ([ended.session.response], { ended.session with request := [] }) := by
    rw [serve_one (by rw [second, Ended.write_thrown]; exact returned)
      (by rw [second, Ended.write_session]; exact goesOn'), second, Ended.write_session]
  have going :
      (s.handle (singleConfig hash cache defaultPath lex) active user).session.quitCommandReceived = false := by
    rw [first]
    exact goesOn
  have next : (s.handle (singleConfig hash cache defaultPath lex) active user).session.replied = named := by
    rw [POP3Session.replied_goesOn going, first]
    rfl
  rw [POP3Session.serve_cons_goesOn (by rw [first]; rfl) going, next, answered, first]
  rfl

end

/-- The response `-ERR` with a text. -/
def errorReply (text : Bytes) : Bytes := POP3Status.ERR.text ++ ascii " " ++ text ++ crlf

open FileSystemConsumerInfoStorage in
/-- **An account logs in with its password, and only with it.** Over a storage of accounts that has been through any
run of additions of records that last and restarts from an empty directory on, in a session not
logged in, `USER` and `PASS` under a name that is not locked, with a name and a password that convert to
the key types: without an account of the name `USER` is refused; with one, and another password,
`PASS` is refused and the session stays outside; and with the password of the account that was
added first, it is let in to its storages, if one can be created and the sizes of its files are known. -/
theorem account_logs_in {hash : Bytes → UInt64} {NameType PasswordType : KeyType} {write : Json → Bytes}
    {parse : Bytes → Option Json} {path defaultPath : Path} {disk : Disk} {lex : Bytes → Option UInt32}
    (empty : disk.regularFiles (disk.resolve path) = [])
    {st st' : FileSystemConsumerInfoStorage NameType PasswordType} (start : construct parse path disk = .ok st)
    {es : List (AccountEvent NameType PasswordType)} (lasting : ∀ info ∈ added es, info.Lasting write parse)
    (run : exec (step write parse) st es = some st') {active : ActiveMailboxes} {s : POP3Session} {user pass : Request}
    {name password : Bytes} {more extra : List Bytes} {key : NameType.Value} {digest : PasswordType.Value}
    (anonymous : s.state = .Authorization) (goesOn : s.quitCommandReceived = false)
    (userLine : tokens user.line = ascii "USER" :: name :: more)
    (passLine : tokens pass.line = ascii "PASS" :: password :: extra) (free : name ∉ active)
    (converted : NameType.convert hash name = .ok key) (hashed : PasswordType.convert hash password = .ok digest)
    {cfg : Config} (config : cfg = singleConfig hash st'.cache defaultPath lex) {responses : List Bytes}
    {last : POP3Session} (served : s.serve cfg active [user, pass] = (responses, last)) :
    (st.account es key = none →
      (s.handle cfg active user).thrown = none ∧
      (s.handle cfg active user).session.response = errorReply POP3SessionError.NotRegistered.text ∧
      (s.handle cfg active user).session.userName = s.userName) ∧
    ∀ record, st.account es key = some record →
      (record.password ≠ digest →
        responses = [userExists name, errorReply AuthError.InvalidPassword.text] ∧ last.state = .Authorization) ∧
      (record.password = digest → ∀ storages,
        createStorages (pass.fs 0) defaultPath record.storages name = storages → storages ≠ [] →
        (∀ storage ∈ storages, ∀ p ∈ storage.emails, ((pass.fs 1).file_size p).isSome = true) →
        (∃ greeting, responses = [userExists name, greeting] ∧ Positive greeting) ∧ last.state = .Transaction ∧
          last.mailbox = some { name, storages, lock := ⟨name, true⟩ }) := by
  subst config
  obtain ⟨st'', run', lasts⟩ := (Lasts.start empty start).run lasting
  cases run.symm.trans run'
  have account : ∀ key, st'.cache.getConsumerInfo key = st.account es key := lasts.account
  refine ⟨fun missing => ?_, fun record here => ⟨fun wrong => ?_, fun right storages made hasStorages known => ?_⟩⟩
  · have unknown : ¬ st'.cache.hasMailbox key = true := by
      rw [ConsumerCache.hasMailbox, account, missing]
      exact Bool.false_ne_true
    rw [handle_user anonymous userLine converted, if_neg unknown]
    exact ⟨rfl, rfl, rfl⟩
  · cases served.symm.trans (serve_login anonymous goesOn userLine passLine free converted
      ((account key).trans here) hashed (congrArg _ (congrArg _ (if_pos wrong))) rfl)
    exact ⟨rfl, anonymous⟩
  · have recorded : record.storages ≠ [] := by
      intro noStorages
      rw [noStorages] at made
      exact hasStorages made.symm
    have login : loginOn record digest (createStorages (pass.fs 0) defaultPath record.storages name) name =
        .mailbox { name, storages, lock := ⟨name, true⟩ } := by
      rw [loginOn, made, if_neg (not_not_intro right), if_neg recorded, if_neg hasStorages]
    obtain ⟨size, total⟩ :
        Returns (({ name, storages, lock := ⟨name, true⟩ } : Mailbox).getWholeMailboxSize (pass.fs 1)) := by
      rw [Mailbox.returns_getWholeMailboxSize, Mailbox.sizesKnown_of_fresh]
      · exact known
      · rw [← made]
        exact fun storage member => mem_createStorages member
    obtain ⟨greeting, positive, finished⟩ := finishPass_mailbox total
      { s with userName := name, request := pass.line, response := [] }
    rw [← login] at finished
    cases served.symm.trans (serve_login anonymous goesOn userLine passLine free converted
      ((account key).trans here) hashed finished rfl)
    exact ⟨⟨greeting, rfl, positive⟩, rfl, rfl⟩

/-- The user added before a restart logs in, his password behind one space more. -/
theorem pathAccount_logs_in :
    ∃ (st' : FileSystemConsumerInfoStorage (.compactString MAILBOX_NAME_MAX_LEN) (.compactString PASSWORD_MAX_LEN))
      (responses : List Bytes) (last : POP3Session),
      exec (FileSystemConsumerInfoStorage.step (fun _ => pathText) (parseText pathText pathDocument))
        (emptyAccounts _ _) [.add pathAccount, .restart] = some st' ∧
      ({ sessionId := 0 } : POP3Session).serve (singleConfig byteSum st'.cache (ascii "/") fun _ => none) ∅
        [⟨ascii "USER w" ++ crlf, fun _ => oneMail⟩, ⟨ascii "PASS  k" ++ crlf, fun _ => oneMail⟩] = (responses, last) ∧
      last.state = .Transaction ∧ last.mailbox = some
        { name := ascii "w", storages := [{ emails := [ascii "m"] }], lock := ⟨ascii "w", true⟩ } := by
  have lasting : ∀ info ∈ added [.add pathAccount, .restart],
      info.Lasting (fun _ => pathText) (parseText pathText pathDocument) := by
    intro info member
    have same : info = pathAccount := by simpa [added] using member
    exact same ▸ pathAccount_lasting
  have empty : accountsDisk.regularFiles (accountsDisk.resolve (ascii "/d")) = [] := rfl
  obtain ⟨st', run⟩ : ∃ st', exec (FileSystemConsumerInfoStorage.step (fun _ => pathText)
    (parseText pathText pathDocument)) (emptyAccounts _ _) [.add pathAccount, .restart] = some st' := ⟨_, rfl⟩
  have registered : (emptyAccounts (.compactString MAILBOX_NAME_MAX_LEN) (.compactString PASSWORD_MAX_LEN)).account
      [.add pathAccount, .restart] pathAccount.name = some pathAccount :=
    List.find?_cons_of_pos (decide_eq_true ⟨rfl, rfl⟩)
  have userLine : tokens (⟨ascii "USER w" ++ crlf, fun _ => oneMail⟩ : Request).line =
    [ascii "USER", ascii "w"] := by decide
  have passLine : tokens (⟨ascii "PASS  k" ++ crlf, fun _ => oneMail⟩ : Request).line =
    [ascii "PASS", ascii "k"] := by decide
  have anonymous : ({ sessionId := 0 } : POP3Session).state = .Authorization := rfl
  have config : singleConfig byteSum st'.cache (ascii "/") (fun _ => none) =
    singleConfig byteSum st'.cache (ascii "/") fun _ => none := rfl
  obtain ⟨_, each⟩ := account_logs_in empty rfl lasting run anonymous rfl userLine passLine
    (Finset.notMem_empty (ascii "w")) rfl rfl config rfl
  obtain ⟨_, inside, mailbox⟩ := (each pathAccount registered).2 rfl _ rfl (by decide) (by decide)
  exact ⟨st', _, _, run, rfl, inside, mailbox⟩

end Pop3Serv.Net
