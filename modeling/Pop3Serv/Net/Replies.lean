import Pop3Serv.Mail.Lookups
import Pop3Serv.Net.Handlers

/-!
# When a handler returns

No handler catches anything, so a handler returns exactly if every call in it
does. `Ended.Replies` says this of one handler, with the condition on what the
handler finds; one lemma a handler gives its condition (`TransactionAnswerable`,
`AnonymousAnswerable`), and `replies_write` puts `write()` behind it.
-/

namespace Pop3Serv.Net
open Proto Mail

/-- The handler returned, having started one write, of a response that is not empty. -/
structure Ended.Answers (ended : Ended) : Prop where
  returned : ended.thrown = none
  started : ended.started = [.asyncWrite ended.session.response]
  nonempty : ended.session.response ≠ []

/-- A handler before its `write()`: it has started nothing, it returns exactly under the
condition, and then it has set a response. -/
structure Ended.Replies (condition : Prop) (ended : Ended) : Prop where
  started : ended.started = []
  returned : ended.thrown = none ↔ condition
  nonempty : ended.thrown = none → ended.session.response ≠ []

theorem Ended.Replies.of_iff {condition condition' : Prop} {ended : Ended}
    (h : Ended.Replies condition ended) (same : condition ↔ condition') :
    Ended.Replies condition' ended := ⟨h.started, h.returned.trans same, h.nonempty⟩

theorem Ended.Replies.answers_write {condition : Prop} {ended : Ended}
    (h : Ended.Replies condition ended) : ended.write.Answers ↔ condition := by
  unfold Ended.write
  cases thrown : ended.thrown with
  | none =>
    refine iff_of_true ⟨rfl, ?_, h.nonempty thrown⟩ (h.returned.mp thrown)
    simp [h.started]
  | some fault =>
    refine iff_of_false (fun answers => ?_) fun met => ?_
    · cases thrown.symm.trans answers.returned
    · cases thrown.symm.trans (h.returned.mpr met)

theorem replies_response {s : POP3Session} {response : Bytes} (nonempty : response ≠ []) :
    Ended.Replies True { session := { s with response } } := ⟨rfl, iff_of_true rfl trivial, fun _ => nonempty⟩

theorem replies_throw (s : POP3Session) (fault : Fault) :
    Ended.Replies False { session := s, thrown := some fault } := ⟨rfl, iff_of_false nofun id, nofun⟩

/-- A call that may throw, and the rest of the handler behind it, which has the condition `C`. -/
theorem replies_attempt {α : Type} {s : POP3Session} {value : Except Fault α} {next : α → Ended}
    {C : α → Prop} (returned : ∀ a, value = .ok a → Ended.Replies (C a) (next a)) :
    Ended.Replies (∃ a, value = .ok a ∧ C a) (attempt s value next) := by
  cases value with
  | error fault => exact (replies_throw s fault).of_iff (iff_of_false id nofun)
  | ok a =>
    refine (returned a rfl).of_iff ⟨fun met => ⟨a, rfl, met⟩, ?_⟩
    rintro ⟨_, ⟨⟩, met⟩
    exact met

/-- The last call of a handler that may throw. -/
theorem replies_last {α : Type} {s : POP3Session} {value : Except Fault α} {next : α → Ended}
    (returned : ∀ a, Ended.Replies True (next a)) : Ended.Replies (Returns value) (attempt s value next) :=
  (replies_attempt fun a _ => returned a).of_iff (by simp [Returns])

namespace POP3Session

theorem replies_setErrorResponse (s : POP3Session) (err : Bytes) :
    Ended.Replies True { session := s.setErrorResponse err } :=
  replies_response (by simp [POP3Status.text, ascii])

theorem replies_setSimpleOkResponse (s : POP3Session) (mesg : Bytes) :
    Ended.Replies True { session := s.setSimpleOkResponse mesg } :=
  replies_response (by simp [POP3Status.text, ascii])

/-- A response that begins with `+OK`. -/
theorem replies_ok {s : POP3Session} (rest : Bytes) :
    Ended.Replies True { session := { s with response := POP3Status.OK.text ++ rest } } :=
  replies_response (by simp [POP3Status.text, ascii])

variable {s : POP3Session} {m : Mailbox}

/-- `mailbox->` in a session that has one. -/
theorem attempt_box (mailbox : s.mailbox = some m) (next : Mailbox → Ended) :
    attempt s s.box next = next m := by
  unfold box
  rw [mailbox]
  rfl

theorem replies_putMailboxInfo (mailbox : s.mailbox = some m) (fs : FileSystem) :
    Ended.Replies (SizesKnown fs m.entries) (s.putMailboxInfoToReponse fs) := by
  unfold putMailboxInfoToReponse
  rw [attempt_box mailbox]
  refine Ended.Replies.of_iff (replies_last fun size => ?_) Mailbox.returns_getWholeMailboxSize
  simp only [List.append_assoc]
  exact replies_ok _

/-- `LIST` of one message: the file it selects, if any, is asked for. -/
theorem replies_listOne (mailbox : s.mailbox = some m) (wf : m.WellFormed) (fs : FileSystems)
    (number : UInt32) :
    Ended.Replies (∀ p, m.Selects number.toNat p → ((fs 0).file_size p).isSome = true)
      (s.handleList fs ⟨.LIST, .uint number⟩) := by
  unfold handleList
  simp only
  rw [attempt_box mailbox]
  refine Ended.Replies.of_iff (replies_last fun answer => ?_) wf.returns_getEmailLength
  cases answer with
  | error err => exact replies_setErrorResponse s _
  | ok length =>
    simp only [List.append_assoc]
    exact replies_ok _

/-- `LIST` of the whole mailbox asks for every file left, twice. -/
theorem replies_listAll (mailbox : s.mailbox = some m) (fs : FileSystems) (cmd : POP3Command)
    (whole : ∀ number, cmd.parameter ≠ .uint number) :
    Ended.Replies (SizesKnown (fs 0) m.entries ∧ SizesKnown (fs 1) m.entries) (s.handleList fs cmd) := by
  unfold handleList
  split
  · rename_i number one
    exact absurd one (whole number)
  · rw [attempt_box mailbox]
    refine (replies_attempt (C := fun _ => Returns (m.getWholeMailboxSize (fs 1)))
      fun lengths _ => ?_).of_iff ?_
    · refine replies_last fun size => ?_
      simp only [List.append_assoc]
      exact replies_ok _
    · rw [← Mailbox.returns_getEmailsLengths, ← Mailbox.returns_getWholeMailboxSize]
      exact exists_and_right

/-- `RETR` asks for the file it selects twice, for its length and to read it. -/
theorem replies_handleRetr (mailbox : s.mailbox = some m) (wf : m.WellFormed) (fs : FileSystems)
    (number : UInt32) :
    Ended.Replies (∀ p, m.Selects number.toNat p →
        ((fs 0).file_size p).isSome = true ∧ ((fs 1).file_size p).isSome = true)
      (s.handleRetr fs ⟨.RETR, .uint number⟩) := by
  show Ended.Replies _ (attempt s s.box _)
  rw [attempt_box mailbox]
  refine (replies_attempt
    (C := fun _ => ∀ p, m.Selects number.toNat p → ((fs 1).file_size p).isSome = true)
    fun answer found => ?_).of_iff ?_
  · cases answer with
    | error err =>
      -- an answer without a length ends the handler, and then no file is selected
      refine (replies_setErrorResponse s _).of_iff (iff_of_true trivial fun p selects => ?_)
      exact absurd selects (wf.selects_of_length found p)
    | ok length =>
      refine Ended.Replies.of_iff (replies_last fun answer => ?_) wf.returns_getEmail
      cases answer with
      | error err => exact replies_setErrorResponse s _
      | ok content =>
        simp only [List.append_assoc]
        exact replies_ok _
  · have known : Returns (m.getEmailLength (fs 0) number.toNat) ↔ _ := wf.returns_getEmailLength
    constructor
    · rintro ⟨answer, found, second⟩ p selects
      exact ⟨known.mp ⟨answer, found⟩ p selects, second p selects⟩
    · intro both
      obtain ⟨answer, found⟩ := known.mpr fun p selects => (both p selects).1
      exact ⟨answer, found, fun p selects => (both p selects).2⟩

/-- `DELE` of one message: the reply to a deletion gives the size of what is left. -/
theorem replies_deleteOne (mailbox : s.mailbox = some m) (wf : m.WellFormed) (fs : FileSystems)
    (number : UInt32) :
    Ended.Replies
      ((∃ p, m.Selects number.toNat p) → SizesKnown (fs 0) (m.deleteEmail number.toNat).1.entries)
      (s.handleDelete fs ⟨.DELE, .uint number⟩) := by
  unfold handleDelete
  simp only
  rw [attempt_box mailbox]
  have result := wf.selects_iff_noError (n := number.toNat)
  rcases wf.deleteEmail_cases number.toNat with ⟨_, same⟩ | ⟨_, _, _, _, _, _, _, _, same⟩ |
    ⟨_, _, _, _, _, _, _, _, same⟩
  · rw [same] at result ⊢
    refine (replies_setErrorResponse _ _).of_iff (iff_of_true trivial fun selected => ?_)
    cases result.mpr selected
  · rw [same] at result ⊢
    refine (replies_setErrorResponse _ _).of_iff (iff_of_true trivial fun selected => ?_)
    cases result.mpr selected
  · rw [same] at result ⊢
    have told : ∀ m' : Mailbox, Ended.Replies (SizesKnown (fs 0) m'.entries)
        ({ s with mailbox := some m' }.putMailboxInfoToReponse (fs 0)) :=
      fun m' => replies_putMailboxInfo rfl (fs 0)
    exact (told _).of_iff ⟨fun known _ => known, fun known => known (result.mp rfl)⟩

theorem replies_deleteAll (mailbox : s.mailbox = some m) (fs : FileSystems) (cmd : POP3Command)
    (whole : ∀ number, cmd.parameter ≠ .uint number) : Ended.Replies True (s.handleDelete fs cmd) := by
  unfold handleDelete
  split
  · rename_i number one
    exact absurd one (whole number)
  · rw [attempt_box mailbox]
    exact replies_setSimpleOkResponse _ _

end POP3Session

/-- The sizes that handling a command in Transaction asks for are known when it asks. -/
def TransactionAnswerable (fs : FileSystems) (m : Mailbox) (cmd : POP3Command) : Prop :=
  match cmd.cmdType, cmd.parameter with
  | .LIST, .uint number => ∀ p, m.Selects number.toNat p → ((fs 0).file_size p).isSome = true
  | .LIST, _ => SizesKnown (fs 0) m.entries ∧ SizesKnown (fs 1) m.entries
  | .RETR, .uint number => ∀ p, m.Selects number.toNat p →
      ((fs 0).file_size p).isSome = true ∧ ((fs 1).file_size p).isSome = true
  | .DELE, .uint number =>
    (∃ p, m.Selects number.toNat p) → SizesKnown (fs 0) (m.deleteEmail number.toNat).1.entries
  | .STAT, _ => SizesKnown (fs 0) m.entries
  | .RSET, _ => SizesKnown (fs 0) m.reset.entries
  | _, _ => True

/-- **Every command in Transaction** returns exactly if the sizes it asks for are known. -/
theorem POP3Session.replies_authorized {s : POP3Session} {m : Mailbox} (mailbox : s.mailbox = some m)
    (wf : m.WellFormed) (fs : FileSystems) {cmd : POP3Command} (accepted : cmd.WellFormed) :
    Ended.Replies (TransactionAnswerable fs m cmd) (s.handleAuthorizedUserCommand fs cmd) := by
  obtain ⟨cmdType, parameter⟩ := cmd
  cases cmdType with
  | LIST =>
    cases parameter with
    | uint number => exact replies_listOne mailbox wf fs number
    | monostate => exact replies_listAll mailbox fs ⟨.LIST, .monostate⟩ nofun
    | string argument => exact replies_listAll mailbox fs ⟨.LIST, .string argument⟩ nofun
  | DELE =>
    cases parameter with
    | uint number => exact replies_deleteOne mailbox wf fs number
    | monostate => exact replies_deleteAll mailbox fs ⟨.DELE, .monostate⟩ nofun
    | string argument => exact replies_deleteAll mailbox fs ⟨.DELE, .string argument⟩ nofun
  | NOOP => exact replies_setSimpleOkResponse s _
  | USER =>
    obtain ⟨name, rfl⟩ := accepted.userName rfl
    show Ended.Replies True (if s.userName = name then _ else _)
    split
    · simp only [List.append_assoc]
      exact replies_ok _
    · exact replies_setErrorResponse s _
  | PASS => exact replies_setErrorResponse s _
  | QUIT => exact replies_setSimpleOkResponse _ _
  | RETR =>
    obtain ⟨number, rfl⟩ := accepted.mailNumber rfl
    exact replies_handleRetr mailbox wf fs number
  | STAT => exact replies_putMailboxInfo mailbox (fs 0)
  | RSET =>
    show Ended.Replies _ (attempt s s.box _)
    rw [attempt_box mailbox]
    exact replies_putMailboxInfo rfl (fs 0)
  | UNKNOWN => exact absurd rfl accepted.known

/-! ## Logins against the cache of records -/

section Login
variable {hash : Bytes → UInt64} {NameType PasswordType : KeyType}
  {cache : ConsumerCache NameType PasswordType} {defaultPath : Path}

/-- Under the name of a record: the password fits the type of its password, and when it is the
right one the sizes of the files in the storages then opened are known. -/
def LoginAnswerable (hash : Bytes → UInt64) (cache : ConsumerCache NameType PasswordType)
    (defaultPath : Path) (fs : FileSystems) (name password : Bytes) : Prop :=
  ∀ r ∈ cache.cachedConsumerInfos, NameType.convert hash name = .ok r.name →
    PasswordType.Fits password ∧
      (PasswordType.convert hash password = .ok r.password →
        ∀ storage ∈ createStorages (fs 0) defaultPath r.storages name, ∀ p ∈ storage.emails,
          ((fs 1).file_size p).isSome = true)

/-- The condition is on the one record the cache has under the name. -/
theorem loginAnswerable_iff {r : ConsumerInfo NameType PasswordType} {fs : FileSystems}
    {name password : Bytes} {key : NameType.Value} (converted : NameType.convert hash name = .ok key)
    (found : cache.getConsumerInfo key = some r) :
    LoginAnswerable hash cache defaultPath fs name password ↔
      PasswordType.Fits password ∧
        (PasswordType.convert hash password = .ok r.password →
          ∀ storage ∈ createStorages (fs 0) defaultPath r.storages name, ∀ p ∈ storage.emails,
            ((fs 1).file_size p).isSome = true) := by
  obtain ⟨member, rfl⟩ := ConsumerCache.getConsumerInfo_mem found
  constructor
  · exact fun answerable => answerable r member converted
  · intro one other member' converted'
    have same : r.name = other.name := Except.ok.inj (converted.symm.trans converted')
    have found' := ConsumerCache.getConsumerInfo_of_mem member'
    rw [← same, found] at found'
    exact Option.some.inj found' ▸ one

theorem loginAnswerable_none {fs : FileSystems} {name password : Bytes} {key : NameType.Value}
    (converted : NameType.convert hash name = .ok key) (missing : cache.getConsumerInfo key = none) :
    LoginAnswerable hash cache defaultPath fs name password := by
  intro r member converted'
  cases converted.symm.trans converted'
  cases missing.symm.trans (ConsumerCache.getConsumerInfo_of_mem member)

namespace POP3Session
variable {s : POP3Session} {fs : FileSystems} {lock : MailboxLock} {password : Bytes}

theorem replies_authError (s : POP3Session) (fs : FileSystems) (err : AuthError) :
    Ended.Replies True (s.finishPass fs (.ok (.authError err))) := replies_setErrorResponse s _

theorem replies_operationError (s : POP3Session) (fs : FileSystems) (err : MailboxOperationError) :
    Ended.Replies True (s.finishPass fs (.ok (.operationError err))) := by
  unfold finishPass attempt
  simp only
  split
  · exact replies_setErrorResponse s _
  · exact replies_setErrorResponse s _

/-- A mailbox just opened: every file in it is asked for. -/
theorem replies_opened (s : POP3Session) (m : Mailbox) (fs : FileSystems)
    (fresh : ∀ storage ∈ m.storages, storage = { emails := storage.emails }) :
    Ended.Replies
      (∀ storage ∈ m.storages, ∀ p ∈ storage.emails, ((fs 1).file_size p).isSome = true)
      (s.finishPass fs (.ok (.mailbox m))) := by
  show Ended.Replies _
    ({ s with mailbox := some m, state := .Transaction }.putMailboxInfoToReponse (fs 1))
  exact (replies_putMailboxInfo rfl (fs 1)).of_iff (Mailbox.sizesKnown_of_fresh fresh)

/-- A password accepted: the reply gives the size of what was opened. -/
theorem replies_accepted (auth : AuthorizationManager) {vec : List MailStorageInfo}
    (acquired : lock.acquired = true) (logon : auth.logon s.userName password = .ok (.ok vec)) :
    Ended.Replies
      (∀ storage ∈ createStorages (fs 0) defaultPath vec s.userName, ∀ p ∈ storage.emails,
        ((fs 1).file_size p).isSome = true)
      (s.finishPass fs (connect auth defaultPath (fs 0) lock s.userName password).1) := by
  unfold connect
  rw [if_pos acquired, logon]
  simp only
  split
  · rename_i empty
    have noStorages : vec = [] := List.isEmpty_iff.mp empty
    exact (replies_authError s fs _).of_iff (by simp [noStorages, createStorages])
  · split
    · rename_i empty
      have noStorages : createStorages (fs 0) defaultPath vec s.userName = [] := List.isEmpty_iff.mp empty
      exact (replies_operationError s fs _).of_iff (by simp [noStorages])
    · exact replies_opened s
        (Mailbox.construct s.userName (createStorages (fs 0) defaultPath vec s.userName) lock).1 fs
        fun storage member => mem_createStorages member

/-- **A login attempt** that has its lock, under a name that fits the type of the names. -/
theorem replies_login (acquired : lock.acquired = true) (fits : NameType.Fits s.userName) :
    Ended.Replies (LoginAnswerable hash cache defaultPath fs s.userName password)
      (s.finishPass fs
        (connect (SingleConsumerInfoStorageAuthorizationManager hash cache) defaultPath (fs 0) lock
          s.userName password).1) := by
  obtain ⟨key, converted⟩ := (returns_convert hash).mpr fits
  cases found : cache.getConsumerInfo key with
  | none =>
    have logon := single_logon_none converted found password
    unfold connect
    rw [if_pos acquired, logon]
    exact (replies_authError s fs _).of_iff (iff_of_true trivial (loginAnswerable_none converted found))
  | some r =>
    have logon := single_logon_some converted found password
    cases hashed : PasswordType.convert hash password with
    | error fault =>
      rw [hashed] at logon
      have misfit : ¬ PasswordType.Fits password := fun fits => by
        obtain ⟨digest, ok⟩ := (returns_convert hash).mpr fits
        cases hashed.symm.trans ok
      unfold connect
      rw [if_pos acquired, logon]
      refine (replies_throw s fault).of_iff (iff_of_false id fun answerable => ?_)
      exact misfit ((loginAnswerable_iff converted found).mp answerable).1
    | ok digest =>
      rw [hashed] at logon
      have fits : PasswordType.Fits password := (returns_convert hash).mp ⟨digest, hashed⟩
      rw [loginAnswerable_iff converted found, hashed, and_iff_right fits, Except.ok.injEq]
      by_cases same : r.password = digest
      · simp only [if_pos same] at logon
        refine (replies_accepted _ acquired logon).of_iff ?_
        rw [eq_comm, imp_iff_right same]
      · simp only [if_neg same] at logon
        unfold connect
        rw [if_pos acquired, logon]
        exact (replies_authError s fs _).of_iff (iff_of_true trivial fun e => absurd e.symm same)

end POP3Session
end Login

end Pop3Serv.Net
