import Pop3Serv.Mail.Listing
import Pop3Serv.Net.Objects

/-!
# The session's typestate

A session is in Transaction exactly while it has a mailbox, and that mailbox is
one it has locked under its own name. A request keeps this (`Handled.typestate`),
hence a step, hence a run. Once in Transaction the session stays there, with the
same name and the same mailbox (`Stays`).
-/

namespace Pop3Serv.Net
open Proto Mail Logic

/-- What holds between the fields of a session. -/
structure Typestate (s : POP3Session) : Prop where
  transaction_iff : s.state = .Transaction ↔ s.mailbox.isSome = true
  noUpdate : s.state ≠ .Update
  mailboxName : ∀ m ∈ s.mailbox, m.name = s.userName
  lock : ∀ m ∈ s.mailbox, m.lock = ⟨s.userName, true⟩
  storages : ∀ m ∈ s.mailbox, m.storages ≠ []

theorem Typestate.mailbox_none {s : POP3Session} (h : Typestate s) (anonymous : s.state = .Authorization) :
    s.mailbox = none := by
  have outside : ¬ s.state = .Transaction := by rw [anonymous]; decide
  rw [h.transaction_iff] at outside
  simpa using outside

theorem Typestate.mailbox_some {s : POP3Session} (h : Typestate s) (inside : s.state = .Transaction) :
    ∃ m, s.mailbox = some m := Option.isSome_iff_exists.mp (h.transaction_iff.mp inside)

/-- Typestate only looks at the mailbox as an object. -/
theorem Typestate.map {s : POP3Session} {f : Mailbox → Mailbox} (h : Typestate s)
    (same : ∀ m, Mailbox.SameBox m (f m)) (t : POP3Session) (state : t.state = s.state)
    (userName : t.userName = s.userName) (mailbox : t.mailbox = s.mailbox.map f) : Typestate t where
  transaction_iff := by rw [state, mailbox, Option.isSome_map]; exact h.transaction_iff
  noUpdate := state ▸ h.noUpdate
  mailboxName := by
    rw [mailbox, userName]
    rintro m' hm'
    obtain ⟨m, hm, rfl⟩ := Option.mem_map.mp hm'
    exact (same m).name.trans (h.mailboxName m hm)
  lock := by
    rw [mailbox, userName]
    rintro m' hm'
    obtain ⟨m, hm, rfl⟩ := Option.mem_map.mp hm'
    exact (same m).lock.trans (h.lock m hm)
  storages := by
    rw [mailbox]
    rintro m' hm'
    obtain ⟨m, hm, rfl⟩ := Option.mem_map.mp hm'
    exact (same m).storages_ne_nil (h.storages m hm)

theorem Typestate.request {s : POP3Session} (h : Typestate s) (request : Bytes) :
    Typestate { s with request } := ⟨h.1, h.2, h.3, h.4, h.5⟩

/-- **A request keeps the typestate.** -/
theorem Handled.typestate {cfg : Config} {fs : FileSystems} {s : POP3Session} {ended : Ended}
    (handled : Handled cfg fs s ended) (h : Typestate s) : Typestate ended.session := by
  cases handled with
  | acted session notQuit sameName =>
    obtain ⟨response, session⟩ := session
    rw [session]
    exact h.map (fun m => Mailbox.sameBox_run m _) _ rfl rfl rfl
  | named name anonymous requested known returned positive session =>
    obtain ⟨response, session⟩ := session
    rw [session]
    have empty := h.mailbox_none anonymous
    exact ⟨h.transaction_iff, h.noUpdate, by simp [empty], by simp [empty], by simp [empty]⟩
  | entered password m lock anonymous requested ownName connected session =>
    obtain ⟨response, session⟩ := session
    rw [session]
    refine ⟨by simp, by simp, ?_, ?_, ?_⟩
    · rintro _ ⟨⟩; exact connected.mailboxName
    · rintro _ ⟨⟩; exact ownName ▸ connected.lock
    · rintro _ ⟨⟩; exact connected.nonempty
  | quitted parameter requested returned session =>
    obtain ⟨response, session⟩ := session
    rw [session]
    exact ⟨h.1, h.2, h.3, h.4, h.5⟩

theorem Moved.typestate {cfg : Config} {d d' : Dialogue} (moved : Moved cfg d d')
    (h : Typestate d.session) : Typestate d'.session := by
  cases moved with
  | operation control timer same => exact h
  | readStarted accepted => exact h
  | received chunk op reading => exact h.request _
  | locked op lock password reading pending ownName => exact h
  | answered fs ended handling handled =>
    rw [handlerEnded_session]
    exact handled.typestate h
  | failed waiting => exact h
  | signedOff op writing quit => exact h.map Mailbox.sameBox_setUpdate _ rfl rfl rfl
  | replied op writing goesOn => exact h.request _

theorem created_typestate (sessionId : Nat) : Typestate (created sessionId).session := by
  constructor <;> simp [created]

theorem Reached.typestate {cfg : Config} {sessionId : Nat} {d : Dialogue}
    (reached : Reached cfg sessionId d) : Typestate d.session :=
  reached.invariant (fun d => Typestate d.session) (created_typestate sessionId)
    fun _ _ h moved => moved.typestate h

/-- A session that is in Transaction stays there, under its name and with its mailbox. -/
def Stays (s t : POP3Session) : Prop :=
  s.state = .Transaction →
    t.state = .Transaction ∧ t.userName = s.userName ∧
      ∀ m ∈ s.mailbox, ∃ m' ∈ t.mailbox, Mailbox.SameBox m m'

theorem Stays.refl (s : POP3Session) : Stays s s :=
  fun inside => ⟨inside, rfl, fun m hm => ⟨m, hm, Mailbox.SameBox.refl m⟩⟩

theorem Stays.trans {s t u : POP3Session} (h : Stays s t) (h' : Stays t u) : Stays s u := by
  intro inside
  obtain ⟨inside, userName, mailbox⟩ := h inside
  obtain ⟨inside, userName', mailbox'⟩ := h' inside
  refine ⟨inside, userName'.trans userName, fun m hm => ?_⟩
  obtain ⟨m', hm', same⟩ := mailbox m hm
  obtain ⟨m'', hm'', same'⟩ := mailbox' m' hm'
  exact ⟨m'', hm'', same.trans same'⟩

theorem Stays.of_map {s t : POP3Session} {f : Mailbox → Mailbox} (same : ∀ m, Mailbox.SameBox m (f m))
    (state : t.state = s.state) (userName : t.userName = s.userName)
    (mailbox : t.mailbox = s.mailbox.map f) : Stays s t := by
  refine fun inside => ⟨state.trans inside, userName, fun m hm => ⟨f m, ?_, same m⟩⟩
  rw [mailbox]
  exact Option.mem_map_of_mem f hm

theorem Handled.stays {cfg : Config} {fs : FileSystems} {s : POP3Session} {ended : Ended}
    (handled : Handled cfg fs s ended) : Stays s ended.session := by
  cases handled with
  | acted session notQuit sameName =>
    obtain ⟨response, session⟩ := session
    rw [session]
    exact .of_map (fun m => Mailbox.sameBox_run m _) rfl rfl rfl
  | named name anonymous requested known returned positive session =>
    intro inside
    rw [anonymous] at inside
    cases inside
  | entered password m lock anonymous requested ownName connected session =>
    intro inside
    rw [anonymous] at inside
    cases inside
  | quitted parameter requested returned session =>
    obtain ⟨response, session⟩ := session
    rw [session]
    exact Stays.refl s

theorem Moved.stays {cfg : Config} {d d' : Dialogue} (moved : Moved cfg d d') :
    Stays d.session d'.session := by
  cases moved with
  | operation control timer same => exact Stays.refl _
  | readStarted accepted => exact Stays.refl _
  | received chunk op reading => exact Stays.refl d.session
  | locked op lock password reading pending ownName => exact Stays.refl _
  | answered fs ended handling handled =>
    rw [handlerEnded_session]
    exact handled.stays
  | failed waiting => exact Stays.refl _
  | signedOff op writing quit => exact .of_map Mailbox.sameBox_setUpdate rfl rfl rfl
  | replied op writing goesOn => exact Stays.refl d.session

/-- What a run does to a session that is in Transaction: nothing that takes it out. -/
theorem Reached.stays {cfg : Config} {sessionId : Nat} {d d' : Dialogue}
    {es : List (ActiveMailboxes × SessionEvent)} (reached : Reached cfg sessionId d)
    (run : exec (Dialogue.localStep cfg) d es = some d') : Stays d.session d'.session :=
  localRun_invariant (fun d' => Stays d.session d'.session) (fun _ _ h moved => h.trans moved.stays)
    reached.loginPending (Stays.refl _) run

/-! ## Access to the mailbox -/

theorem notNull_filesystemCall {α : Type} (answer : Option α) :
    filesystemCall answer ≠ .error .nullMailbox := by
  cases answer <;> simp [filesystemCall]

theorem notNull_getEmailsLengths (fs : FileSystem) (m : Mailbox) :
    m.getEmailsLengths fs ≠ .error .nullMailbox := by
  rcases m.getEmailsLengths_cases fs with ⟨_, lengths, listing, _⟩ | ⟨_, failed⟩
  · rw [listing]; nofun
  · rw [failed]; nofun

theorem notNull_getWholeMailboxSize (fs : FileSystem) (m : Mailbox) :
    m.getWholeMailboxSize fs ≠ .error .nullMailbox := by
  have asked := notNull_getEmailsLengths fs m
  unfold Mailbox.getWholeMailboxSize
  cases listing : m.getEmailsLengths fs with
  | ok lengths => nofun
  | error fault =>
    rw [listing] at asked
    exact fun e => asked (by cases e; rfl)

theorem notNull_emailAt (s : FileSystemMailStorage) (i : Nat) : s.emailAt i ≠ .error .nullMailbox := by
  unfold FileSystemMailStorage.emailAt
  split <;> nofun

theorem notNull_getEmailLength (fs : FileSystem) (m : Mailbox) (n : Nat) :
    m.getEmailLength fs n ≠ .error .nullMailbox := by
  unfold Mailbox.getEmailLength
  split
  · nofun
  · rename_i it r _
    split
    · nofun
    · have asked : it.storage.getEmailLength fs r ≠ .error .nullMailbox := by
        have file := notNull_emailAt it.storage r
        unfold FileSystemMailStorage.getEmailLength
        cases at_r : it.storage.emailAt r with
        | ok p => exact notNull_filesystemCall _
        | error fault =>
          rw [at_r] at file
          exact fun e => file (by cases e; rfl)
      cases length : it.storage.getEmailLength fs r with
      | ok _ => nofun
      | error fault =>
        rw [length] at asked
        exact fun e => asked (by cases e; rfl)

theorem notNull_getEmail (fs : FileSystem) (m : Mailbox) (n : Nat) :
    m.getEmail fs n ≠ .error .nullMailbox := by
  unfold Mailbox.getEmail
  split
  · simp
  · rename_i it r _
    unfold FileSystemMailStorage.getEmail
    split
    · simp
    · have file := notNull_emailAt it.storage r
      cases at_r : it.storage.emailAt r with
      | ok p =>
        simp only [FileSystemMailStorage.readEmail]
        split
        · simp
        · split <;> simp
      | error fault =>
        rw [at_r] at file
        exact fun e => file (by cases e; rfl)

theorem notNull_attempt {α : Type} {s : POP3Session} {value : Except Fault α} {next : α → Ended}
    (asked : value ≠ .error .nullMailbox)
    (returned : ∀ a, value = .ok a → (next a).thrown ≠ some .nullMailbox) :
    (attempt s value next).thrown ≠ some .nullMailbox := by
  unfold attempt
  split
  · exact returned _ rfl
  · intro e
    cases e
    exact asked rfl

theorem notNull_box {s : POP3Session} (opened : s.mailbox.isSome = true) : s.box ≠ .error .nullMailbox := by
  obtain ⟨m, mailbox⟩ := Option.isSome_iff_exists.mp opened
  unfold POP3Session.box
  rw [mailbox]
  nofun

theorem notNull_putMailboxInfo (fs : FileSystem) {s : POP3Session} (opened : s.mailbox.isSome = true) :
    (s.putMailboxInfoToReponse fs).thrown ≠ some .nullMailbox :=
  notNull_attempt (notNull_box opened) fun m _ =>
    notNull_attempt (notNull_getWholeMailboxSize fs m) fun _ _ => nofun

theorem notNull_handleList (fs : FileSystems) {s : POP3Session} (cmd : POP3Command)
    (opened : s.mailbox.isSome = true) : (s.handleList fs cmd).thrown ≠ some .nullMailbox := by
  have box := notNull_box opened
  unfold POP3Session.handleList
  split
  · refine notNull_attempt box fun m _ => notNull_attempt (notNull_getEmailLength _ m _) fun answer _ => ?_
    cases answer <;> nofun
  · exact notNull_attempt box fun m _ => notNull_attempt (notNull_getEmailsLengths _ m) fun _ _ =>
      notNull_attempt (notNull_getWholeMailboxSize _ m) fun _ _ => nofun

/-- With a mailbox, no handler of the Transaction state goes through a null pointer. -/
theorem notNull_handleAuthorized (fs : FileSystems) {s : POP3Session} (cmd : POP3Command)
    (opened : s.mailbox.isSome = true) :
    (s.handleAuthorizedUserCommand fs cmd).thrown ≠ some .nullMailbox := by
  have box := notNull_box opened
  obtain ⟨cmdType, parameter⟩ := cmd
  cases cmdType with
  | LIST => exact notNull_handleList fs _ opened
  | DELE =>
    cases parameter with
    | monostate => exact notNull_attempt box fun m _ => nofun
    | string argument => exact notNull_attempt box fun m _ => nofun
    | uint number =>
      refine notNull_attempt box fun m _ => ?_
      generalize m.deleteEmail number.toNat = answered
      simp only
      split
      · nofun
      · split
        · nofun
        · exact notNull_putMailboxInfo _ rfl
  | NOOP => nofun
  | USER =>
    refine notNull_attempt ?_ fun name _ => ?_
    · cases parameter <;> nofun
    · split <;> nofun
  | PASS => nofun
  | QUIT => nofun
  | RETR =>
    refine notNull_attempt ?_ fun n _ => notNull_attempt box fun m _ =>
      notNull_attempt (notNull_getEmailLength _ m _) fun found _ => ?_
    · cases parameter <;> nofun
    · cases found with
      | error err => nofun
      | ok length =>
        refine notNull_attempt (notNull_getEmail _ m _) fun answer _ => ?_
        cases answer <;> nofun
  | STAT => exact notNull_putMailboxInfo _ opened
  | RSET => exact notNull_attempt box fun m _ => notNull_putMailboxInfo _ rfl
  | UNKNOWN => nofun

/-- Two ends of a handler a client cannot tell apart. -/
structure SameAnswer (a b : Ended × ActiveMailboxes) : Prop where
  thrown : a.1.thrown = b.1.thrown
  started : a.1.started = b.1.started
  response : a.1.session.response = b.1.session.response
  table : a.2 = b.2

/-- In Authorization no command looks at the mailbox pointer: any other value in its
place changes nothing. -/
theorem handleAnonymous_ignores_mailbox (cfg : Config) (fs : FileSystems) (active : ActiveMailboxes)
    (s : POP3Session) (cmd : POP3Command) (mailbox : Option Mailbox) :
    SameAnswer (s.handleAnonymousCommand cfg fs active cmd)
      ({ s with mailbox }.handleAnonymousCommand cfg fs active cmd) := by
  obtain ⟨cmdType, parameter⟩ := cmd
  cases cmdType with
  | USER =>
    cases parameter with
    | string name =>
      have step : ∀ t : POP3Session, t.handleAnonymousCommand cfg fs active ⟨.USER, .string name⟩ =
          (attempt t (cfg.auth.verifyName name) fun known =>
            if !known then { session := t.setErrorResponse POP3SessionError.NotRegistered.text }
            else
              { session := { t with userName := name }.setSimpleOkResponse
                  (ascii "user " ++ name ++ ascii " exists") }, active) := fun _ => rfl
      rw [step, step]
      cases cfg.auth.verifyName name with
      | error fault => exact ⟨rfl, rfl, rfl, rfl⟩
      | ok known => cases known <;> exact ⟨rfl, rfl, rfl, rfl⟩
    | _ => exact ⟨rfl, rfl, rfl, rfl⟩
  | PASS =>
    cases parameter with
    | string password =>
      have step : ∀ t : POP3Session, t.userName = s.userName →
          t.handleAnonymousCommand cfg fs active ⟨.PASS, .string password⟩ =
            (t.finishPass fs (VerifyCredentialsAndConnect cfg.auth cfg.defaultPath (fs 0) active
              s.userName password).1,
            (VerifyCredentialsAndConnect cfg.auth cfg.defaultPath (fs 0) active s.userName password).2) :=
        fun t name => name ▸ rfl
      rw [step s rfl, step { s with mailbox } rfl]
      generalize VerifyCredentialsAndConnect cfg.auth cfg.defaultPath (fs 0) active s.userName password = r
      obtain ⟨result, table⟩ := r
      cases result with
      | error fault => exact ⟨rfl, rfl, rfl, rfl⟩
      | ok answer =>
        cases answer with
        | mailbox m => exact ⟨rfl, rfl, rfl, rfl⟩
        | authError err => exact ⟨rfl, rfl, rfl, rfl⟩
        | operationError err => cases err <;> exact ⟨rfl, rfl, rfl, rfl⟩
    | _ => exact ⟨rfl, rfl, rfl, rfl⟩
  | _ => exact ⟨rfl, rfl, rfl, rfl⟩

/-- **The typestate over every run.** In every state a session can reach: it is in Transaction
exactly if it has a mailbox, which is then locked under its name; once in Transaction it
stays there with that name and mailbox; no command of Authorization looks at the
pointer; and every access of a command of Transaction finds the session's own mailbox. -/
theorem session_typestate {cfg : Config} {sessionId : Nat} {d : Dialogue}
    (reached : Reached cfg sessionId d) :
    Typestate d.session ∧
    (∀ es d', exec (Dialogue.localStep cfg) d es = some d' → Stays d.session d'.session) ∧
    (d.session.state = .Authorization →
      ∀ fs active cmd mailbox,
        SameAnswer (d.session.handleAnonymousCommand cfg fs active cmd)
          ({ d.session with mailbox }.handleAnonymousCommand cfg fs active cmd)) ∧
    (d.session.state = .Transaction →
      (∃ m, d.session.box = .ok m ∧ m.name = d.session.userName ∧
        m.lock = ⟨d.session.userName, true⟩) ∧
      ∀ fs cmd, (d.session.handleAuthorizedUserCommand fs cmd).thrown ≠ some .nullMailbox) := by
  have typestate := reached.typestate
  refine ⟨typestate, fun es d' run => reached.stays run, fun _ fs active cmd mailbox => ?_, fun inside => ?_⟩
  · exact handleAnonymous_ignores_mailbox cfg fs active d.session cmd mailbox
  · obtain ⟨m, mailbox⟩ := typestate.mailbox_some inside
    refine ⟨⟨m, ?_, typestate.mailboxName m mailbox, typestate.lock m mailbox⟩, fun fs cmd => ?_⟩
    · unfold POP3Session.box
      rw [mailbox]
    · exact notNull_handleAuthorized fs cmd (typestate.transaction_iff.mp inside)

/-- A login under the empty name, with every name accepted, up to the reply to `PASS`. -/
def passLogin : List (ActiveMailboxes × SessionEvent) :=
  [(∅, .startRead), (∅, .receive (ascii "PASS x" ++ crlf)), (∅, .runRead fun _ => Mailbox.oneByteFiles),
    ({[]}, .runLogin fun _ => Mailbox.oneByteFiles)]

/-- Every name is accepted, and no text is a number. -/
def dummyConfig : Config :=
  { auth := DummyAuthorizationManager, defaultPath := ascii "/mail", lex := fun _ => none }

theorem session_typestate_passLogin :
    ∃ d, exec (Dialogue.localStep dummyConfig) (created 0) passLogin = some d ∧
      d.session.state = .Transaction ∧ d.session.mailbox.isSome = true :=
  ⟨_, rfl, rfl, (session_typestate ⟨passLogin, rfl⟩).1.transaction_iff.mp rfl⟩

end Pop3Serv.Net
