import Pop3Serv.Net.ReplyLines
import Pop3Serv.Proto.Grammar

/-!
# Accesses to a variant

The handlers take the parameter of a command out of its variant without a check
(`std::get`). That cannot fail for a command the grammar has: what a handler throws
comes from the mailbox or the manager, and these throw exceptions of other kinds.
-/

namespace Pop3Serv.Net
open Proto Mail Logic

/-- The call does not end in `std::bad_variant_access`. -/
def Accesses {α : Type} (value : Except Fault α) : Prop := value ≠ .error .badVariantAccess

/-- Whatever the call was to return. -/
theorem accesses_error {α : Type} {fault : Fault} :
    Accesses (.error fault : Except Fault α) ↔ fault ≠ .badVariantAccess :=
  not_congr ⟨Except.error.inj, congrArg Except.error⟩

theorem accesses_bind {α β : Type} {value : Except Fault α} {next : α → Except Fault β}
    (first : Accesses value) (later : ∀ a, Accesses (next a)) : Accesses (value >>= next) := by
  cases value with
  | error fault => exact accesses_error.mpr (accesses_error.mp first)
  | ok a => exact later a

theorem accesses_filesystemCall {α : Type} (answer : Option α) : Accesses (filesystemCall answer) := by
  cases answer <;> nofun

theorem accesses_emailAt (s : FileSystemMailStorage) (n : Nat) : Accesses (s.emailAt n) := by
  unfold FileSystemMailStorage.emailAt
  split <;> nofun

theorem accesses_getEmailLength (m : Mailbox) (fs : FileSystem) (n : Nat) :
    Accesses (m.getEmailLength fs n) := by
  unfold Mailbox.getEmailLength
  split
  · nofun
  · split
    · nofun
    · rename_i it localNumber _ _
      have asked : Accesses (it.storage.getEmailLength fs localNumber) :=
        accesses_bind (accesses_emailAt _ _) fun path => accesses_filesystemCall _
      split
      · nofun
      · rename_i fault failed
        rw [failed] at asked
        exact accesses_error.mpr (accesses_error.mp asked)

theorem accesses_getEmail (m : Mailbox) (fs : FileSystem) (n : Nat) : Accesses (m.getEmail fs n) := by
  unfold Mailbox.getEmail
  split
  · nofun
  · rename_i it localNumber _
    unfold FileSystemMailStorage.getEmail
    split
    · nofun
    · have located := accesses_emailAt it.storage localNumber
      split
      · unfold FileSystemMailStorage.readEmail
        split
        · nofun
        · split <;> nofun
      · rename_i fault failed
        rw [failed] at located
        exact accesses_error.mpr (accesses_error.mp located)

theorem accesses_getEmailsLengths (m : Mailbox) (fs : FileSystem) : Accesses (m.getEmailsLengths fs) := by
  rcases Mailbox.getEmailsLengths_cases fs m with ⟨_, result, ends, _⟩ | ⟨_, ends⟩ <;>
    (rw [ends]; nofun)

theorem accesses_getWholeMailboxSize (m : Mailbox) (fs : FileSystem) :
    Accesses (m.getWholeMailboxSize fs) := by
  unfold Mailbox.getWholeMailboxSize
  rcases Mailbox.getEmailsLengths_cases fs m with ⟨_, result, ends, _⟩ | ⟨_, ends⟩ <;>
    (rw [ends]; nofun)

/-! ## The managers -/

theorem accesses_convert (hash : Bytes → UInt64) (k : KeyType) (sv : Bytes) : Accesses (k.convert hash sv) := by
  cases k with
  | compactString size =>
    show Accesses (CompactString.ofView size sv)
    unfold CompactString.ofView
    split <;> (intro same; cases same)
  | hashed => intro same; cases same

theorem accesses_verifyName {auth : AuthorizationManager} (provided : auth.Provided) (name : Bytes) :
    Accesses (auth.verifyName name) := by
  cases provided with
  | dummy => nofun
  | single hash storage => exact accesses_bind (accesses_convert hash _ _) fun _ => nofun

theorem accesses_logon {auth : AuthorizationManager} (provided : auth.Provided) (name password : Bytes) :
    Accesses (auth.logon name password) := by
  refine accesses_bind (accesses_verifyName provided name) fun known => ?_
  cases known with
  | false => nofun
  | true =>
    cases provided with
    | dummy => nofun
    | single hash storage =>
      have verified : Accesses ((SingleConsumerInfoStorageAuthorizationManager hash
          storage).verifyCredentials name password) :=
        accesses_bind (accesses_convert hash _ _) fun key => by
          cases storage.getConsumerInfo key with
          | none => nofun
          | some settings => exact accesses_bind (accesses_convert hash _ _) fun _ => nofun
      refine accesses_bind verified fun correct => ?_
      cases correct with
      | false => nofun
      | true =>
        refine accesses_bind (accesses_bind (accesses_convert hash _ _) fun key => ?_) fun _ => nofun
        cases storage.getConsumerInfo key <;> nofun

theorem accesses_connect {auth : AuthorizationManager} (provided : auth.Provided) (defaultPath : Path)
    (fs : FileSystem) (lock : MailboxLock) (name password : Bytes) :
    Accesses (connect auth defaultPath fs lock name password).1 := by
  have asked := accesses_logon provided name password
  unfold connect
  split
  · split
    · rename_i fault failed
      rw [failed] at asked
      exact accesses_error.mpr (accesses_error.mp asked)
    · nofun
    · split
      · nofun
      · simp only
        split <;> nofun
  · nofun

/-! ## The handlers -/

/-- The handler does not end in `std::bad_variant_access`. -/
def Ended.Accesses (ended : Ended) : Prop := ended.thrown ≠ some .badVariantAccess

theorem Ended.accesses_of_returned (session : POP3Session) (started : List AsyncOp) :
    Ended.Accesses { session, started } := nofun

theorem accesses_attempt {α : Type} {s : POP3Session} {value : Except Fault α} {next : α → Ended}
    (first : Accesses value) (later : ∀ a, (next a).Accesses) : (attempt s value next).Accesses := by
  cases value with
  | error fault => exact fun same => first (congrArg Except.error (Option.some.inj same))
  | ok a => exact later a

namespace POP3Session

variable {s : POP3Session}

theorem accesses_box (s : POP3Session) : Net.Accesses s.box := by
  unfold box
  split <;> nofun

theorem accesses_putMailboxInfo (fs : FileSystem) (s : POP3Session) :
    (s.putMailboxInfoToReponse fs).Accesses :=
  accesses_attempt s.accesses_box fun _ => accesses_attempt (accesses_getWholeMailboxSize _ fs) fun _ =>
    Ended.accesses_of_returned _ _

theorem accesses_finishPass (fs : FileSystems) (s : POP3Session) {result : Except Fault LoginResult}
    (asked : Net.Accesses result) : (s.finishPass fs result).Accesses := by
  refine accesses_attempt asked fun answer => ?_
  cases answer with
  | mailbox m => exact accesses_putMailboxInfo _ _
  | authError err => exact Ended.accesses_of_returned _ _
  | operationError err =>
    simp only
    split <;> exact Ended.accesses_of_returned _ _

/-- **Before the login**: the user name and the password are there to be taken. -/
theorem accesses_anonymous {cfg : Config} (provided : cfg.auth.Provided) (fs : FileSystems)
    (active : ActiveMailboxes) {cmd : POP3Command} (accepted : cmd.WellFormed) :
    (s.handleAnonymousCommand cfg fs active cmd).1.Accesses := by
  obtain ⟨cmdType, parameter⟩ := cmd
  cases cmdType with
  | USER =>
    obtain ⟨name, rfl⟩ := accepted.userName rfl
    refine accesses_attempt (accesses_verifyName provided name) fun known => ?_
    split <;> exact Ended.accesses_of_returned _ _
  | PASS =>
    obtain ⟨password, rfl⟩ := accepted.password rfl
    exact accesses_finishPass fs s (accesses_connect provided _ _ _ _ _)
  | _ => exact Ended.accesses_of_returned _ _

/-- **After the login**: the number of a `RETR` is there, and the others look before they take. -/
theorem accesses_authorized (fs : FileSystems) {cmd : POP3Command} (accepted : cmd.WellFormed) :
    (s.handleAuthorizedUserCommand fs cmd).Accesses := by
  obtain ⟨cmdType, parameter⟩ := cmd
  cases cmdType with
  | LIST =>
    cases parameter with
    | uint number =>
      refine accesses_attempt s.accesses_box fun m => ?_
      refine accesses_attempt (accesses_getEmailLength m _ _) fun answer => ?_
      cases answer <;> exact Ended.accesses_of_returned _ _
    | _ =>
      refine accesses_attempt s.accesses_box fun m => ?_
      refine accesses_attempt (accesses_getEmailsLengths m _) fun lengths => ?_
      exact accesses_attempt (accesses_getWholeMailboxSize m _) fun size => Ended.accesses_of_returned _ _
  | DELE =>
    cases parameter with
    | uint number =>
      refine accesses_attempt s.accesses_box fun m => ?_
      simp only
      split
      · exact Ended.accesses_of_returned _ _
      · split
        · exact Ended.accesses_of_returned _ _
        · exact accesses_putMailboxInfo _ _
    | _ => exact accesses_attempt s.accesses_box fun m => Ended.accesses_of_returned _ _
  | USER =>
    obtain ⟨name, rfl⟩ := accepted.userName rfl
    refine accesses_attempt nofun fun username => ?_
    split <;> exact Ended.accesses_of_returned _ _
  | RETR =>
    obtain ⟨number, rfl⟩ := accepted.mailNumber rfl
    refine accesses_attempt s.accesses_box fun m => ?_
    refine accesses_attempt (accesses_getEmailLength m _ _) fun answer => ?_
    cases answer with
    | error err => exact Ended.accesses_of_returned _ _
    | ok length =>
      refine accesses_attempt (accesses_getEmail m _ _) fun answer => ?_
      cases answer <;> exact Ended.accesses_of_returned _ _
  | STAT => exact accesses_putMailboxInfo _ s
  | RSET => exact accesses_attempt s.accesses_box fun m => accesses_putMailboxInfo _ _
  | _ => exact Ended.accesses_of_returned _ _

end POP3Session

/-- **The parser accepts its grammar and nothing else**, by the first two tokens of the line, and
a command it accepts finds in both states of a session the parameter that its handler takes. -/
theorem parser_grammar (lex : Bytes → Option UInt32) (cmdLine word : Bytes) (rest : List Bytes)
    (runs : Runs isSpace cmdLine (word :: rest)) :
    (∀ cmdLine' rest', Runs isSpace cmdLine' (word :: rest') → rest'.head? = rest.head? →
      parsePOP3Command lex cmdLine' = parsePOP3Command lex cmdLine) ∧
    (∃ result, parsePOP3Command lex cmdLine = .ok result) ∧
    (∀ cmd, parsePOP3Command lex cmdLine = .ok (.ok cmd) ↔ Accepts lex word rest.head? cmd) ∧
    (∀ err, parsePOP3Command lex cmdLine = .ok (.error err) ↔ Refuses lex word rest.head? err) ∧
    (∀ cmd, parsePOP3Command lex cmdLine = .ok (.ok cmd) →
      ∀ (s : POP3Session) (cfg : Config) (fs : FileSystems) (active : ActiveMailboxes),
        cfg.auth.Provided →
          (s.handleAnonymousCommand cfg fs active cmd).1.thrown ≠ some .badVariantAccess ∧
          (s.handleAuthorizedUserCommand fs cmd).thrown ≠ some .badVariantAccess) := by
  have tokenized := tokens_eq_iff.mpr runs
  refine ⟨fun cmdLine' rest' runs' same => parse_congr tokenized (tokens_eq_iff.mpr runs') same,
    parsePOP3Command_returns lex (by simp [tokenized]), fun cmd => parse_accepts_iff tokenized,
    fun err => parse_refuses_iff tokenized, fun cmd parsed s cfg fs active provided => ?_⟩
  have accepted := (parsePOP3Command_ok parsed).1
  exact ⟨s.accesses_anonymous provided fs active accepted, s.accesses_authorized fs accepted⟩

/-- ` RETR 7 now`: the seventh message. -/
theorem parser_grammar_retr :
    Accepts (fun _ => some 7) (ascii "RETR") (some (ascii "7")) ⟨.RETR, .uint 7⟩ :=
  ((parser_grammar (fun _ => some 7) (ascii " RETR 7\t now\r\n") (ascii "RETR") [ascii "7", ascii "now"]
    (tokens_eq_iff.mp (by decide))).2.2.1 ⟨.RETR, .uint 7⟩).mp (by decide)

end Pop3Serv.Net
