import Pop3Serv.Logic.Exec
import Pop3Serv.Net.Dialogue
import Pop3Serv.Net.Handlers

/-!
# What one step of a session does

`Stepping` lists the forms a step can take; it is the one place where the events
are told apart. `Moved` lists what a step can do to a session and its chain of
operations, and `step_moved` says that there is nothing else. An invariant of one session is
proved by cases on `Moved` and holds after every run by `localRun_invariant`, for
any lock tables the rest of the server may show the session.
-/

namespace Pop3Serv.Net
open Proto Mail Logic

/-- The chain stays where it is; its operation may have completed, a read not with success. -/
inductive Control.Same : Control → Control → Prop
  | refl (control : Control) : Same control control
  | reading (ec : Completion) (failed : ec ≠ .success) : Same (.reading .outstanding) (.reading (.queued ec))
  | writing (ec : Completion) : Same (.writing .outstanding) (.writing (.queued ec))

/-- The read completion handler runs. -/
def Control.Handling (control : Control) : Prop :=
  (∃ op, control = .reading op) ∨ ∃ lock password, control = .loggingIn lock password

/-- The forms of a step: completions and cancellations, and one form for each handler. -/
inductive Stepping (cfg : Config) (active : ActiveMailboxes) (d : Dialogue) (e : SessionEvent) :
    Stepped → Prop
  | operation (control : Control) (timer : Timer) (same : d.control.Same control)
      (silent : ∀ chunk, e ≠ .receive chunk) :
      Stepping cfg active d e { dialogue := { d with control, timer }, active }
  | readStarted (event : e = .startRead) (accepted : d.control = .accepted) :
      Stepping cfg active d e { dialogue := { d with control := .reading .outstanding }, active }
  | received (chunk : Bytes) (event : e = .receive chunk) (reading : d.control = .reading .outstanding) :
      Stepping cfg active d e
        { dialogue :=
            { d with
              session := { d.session with request := d.session.request ++ chunk }
              control :=
                .reading
                  (if lineReceived (d.session.request ++ chunk) then .queued .success else .outstanding) }
          active }
  | runRead (ec : Completion) (fs : FileSystems) (event : e = .runRead fs)
      (reading : d.control = .reading (.queued ec)) :
      Stepping cfg active d e (d.runRead cfg active ec fs)
  | runLogin (lock : MailboxLock) (password : Bytes) (fs : FileSystems) (event : e = .runLogin fs)
      (loggingIn : d.control = .loggingIn lock password) :
      Stepping cfg active d e (d.runLogin cfg active lock password fs)
  | runWrite (ec : Completion) (event : e = .runWrite) (writing : d.control = .writing (.queued ec)) :
      Stepping cfg active d e (d.runWrite active ec)

theorem Control.same_cancel (control : Control) : control.Same control.cancel := by
  cases control with
  | reading op =>
    cases op with
    | outstanding => exact .reading .aborted nofun
    | queued ec => exact .refl _
  | writing op =>
    cases op with
    | outstanding => exact .writing .aborted
    | queued ec => exact .refl _
  | _ => exact .refl _

theorem Stepping.runTimer {cfg : Config} {active : ActiveMailboxes} {d : Dialogue} {e : SessionEvent}
    (ec : Completion) (idle : Bool) (silent : ∀ chunk, e ≠ .receive chunk) :
    Stepping cfg active d e { dialogue := d.runTimer ec idle, active } := by
  cases ec with
  | success =>
    cases idle with
    | true => exact .operation _ _ d.control.same_cancel silent
    | false => exact .operation _ _ (.refl _) silent
  | aborted => exact .operation _ _ (.refl _) silent
  | failed => exact .operation _ _ (.refl _) silent

/-- **Every step has one of these forms.** -/
theorem step_stepping {cfg : Config} {active : ActiveMailboxes} {d : Dialogue} {e : SessionEvent}
    {stepped : Stepped} (h : d.step cfg active e = some stepped) : Stepping cfg active d e stepped := by
  cases e with
  | startRead =>
    simp only [Dialogue.step] at h
    split at h
    · rename_i accepted; cases h; exact .readStarted rfl accepted
    · cases h
  | startTimer =>
    simp only [Dialogue.step] at h
    split at h
    · cases h
    · cases h; exact .operation _ _ (.refl _) nofun
    · cases h
  | receive chunk =>
    simp only [Dialogue.step] at h
    split at h
    · rename_i reading; cases h; exact .received chunk rfl reading
    · cases h
  | failRead =>
    simp only [Dialogue.step] at h
    split at h
    · rename_i reading; cases h
      exact .operation _ d.timer (reading ▸ .reading .failed nofun) nofun
    · cases h
  | runRead fs =>
    simp only [Dialogue.step] at h
    split at h
    · rename_i reading; cases h; exact .runRead _ fs rfl reading
    · cases h
  | runLogin fs =>
    simp only [Dialogue.step] at h
    split at h
    · rename_i loggingIn; cases h; exact .runLogin _ _ fs rfl loggingIn
    · cases h
  | sent =>
    simp only [Dialogue.step] at h
    split at h
    · rename_i writing; cases h
      exact .operation _ d.timer (writing ▸ .writing _) nofun
    · cases h
  | failWrite =>
    simp only [Dialogue.step] at h
    split at h
    · rename_i writing; cases h
      exact .operation _ d.timer (writing ▸ .writing _) nofun
    · cases h
  | runWrite =>
    simp only [Dialogue.step] at h
    split at h
    · rename_i writing; cases h; exact .runWrite _ rfl writing
    · cases h
  | expire =>
    simp only [Dialogue.step] at h
    split at h
    · cases h; exact .operation _ _ (.refl _) nofun
    · cases h
  | failTimer =>
    simp only [Dialogue.step] at h
    split at h
    · cases h; exact .operation _ _ (.refl _) nofun
    · cases h
  | runTimer idle =>
    simp only [Dialogue.step] at h
    split at h
    · cases h; exact .runTimer _ idle nofun
    · cases h
  | cancel => cases h; exact .operation _ _ d.control.same_cancel nofun

/-- What a step can do to a session. -/
inductive Moved (cfg : Config) (d : Dialogue) : Dialogue → Prop
  /-- an operation or the timer moves on -/
  | operation (control : Control) (timer : Timer) (same : d.control.Same control) :
      Moved cfg d { d with control, timer }
  | readStarted (accepted : d.control = .accepted) :
      Moved cfg d { d with control := .reading .outstanding }
  | received (chunk : Bytes) (op : Pending) (reading : d.control = .reading .outstanding) :
      Moved cfg d
        { d with
          session := { d.session with request := d.session.request ++ chunk }
          control := .reading op }
  /-- a login attempt has constructed its lock -/
  | locked (op : Pending) (lock : MailboxLock) (password : Bytes) (reading : d.control = .reading op)
      (pending : pendingLogin cfg d.session = some password)
      (ownName : lock.name = d.session.userName) :
      Moved cfg d { d with control := .loggingIn lock password }
  /-- a request has been handled -/
  | answered (fs : FileSystems) (ended : Ended) (handling : d.control.Handling)
      (handled : Handled cfg fs d.session ended) : Moved cfg d (d.handlerEnded cfg fs ended)
  /-- an operation completed with an error, or was cancelled -/
  | failed (waiting : ∃ op, d.control = .reading op ∨ d.control = .writing op) :
      Moved cfg d { d with control := .ended }
  /-- the reply to `QUIT` is written -/
  | signedOff (op : Pending) (writing : d.control = .writing op)
      (quit : d.session.quitCommandReceived = true) :
      Moved cfg d
        { d with
          session := { d.session with mailbox := d.session.mailbox.map Mailbox.setUpdate }
          control := .ended
          log := d.log ++ [.replied] }
  /-- another reply is written -/
  | replied (op : Pending) (writing : d.control = .writing op)
      (goesOn : d.session.quitCommandReceived = false) :
      Moved cfg d
        { d with
          session := { d.session with request := [] }
          control := .reading .outstanding
          log := d.log ++ [.replied] }

theorem pendingLogin_eq_some_iff {cfg : Config} {s : POP3Session} {password : Bytes} :
    pendingLogin cfg s = some password ↔
      s.Requests cfg ⟨.PASS, .string password⟩ ∧ s.state = .Authorization := by
  unfold pendingLogin POP3Session.Requests
  constructor
  · intro h
    split at h
    · rename_i pass requested
      split at h
      · rename_i anonymous
        cases h
        exact ⟨requested, anonymous⟩
      · cases h
    · cases h
  · rintro ⟨requested, anonymous⟩
    rw [requested]
    simp [anonymous]

/-- A login under way is on the request in the buffer, and its lock is under the session's name. -/
def Dialogue.LoginPending (cfg : Config) (d : Dialogue) : Prop :=
  ∀ lock password, d.control = .loggingIn lock password →
    pendingLogin cfg d.session = some password ∧ lock.name = d.session.userName

theorem Control.Same.of_loggingIn {control : Control} {lock : MailboxLock} {password : Bytes}
    (same : control.Same (.loggingIn lock password)) : control = .loggingIn lock password := by
  cases same
  rfl

/-- A handler that ended: it has handled a request, or the parser itself failed on it. -/
theorem handlerEnded_cases (cfg : Config) (d : Dialogue) (fs : FileSystems) (ended : Ended) :
    (∃ result, parsePOP3Command cfg.lex d.session.request = .ok result ∧
      d.handlerEnded cfg fs ended =
        { d with
          session := ended.session
          control := if ended.thrown = none then .writing .outstanding else .escaped
          log := d.log ++
            [.handled ⟨d.session.state, result, ended.session.response, ended.thrown, fs⟩] }) ∨
    (∃ fault, parsePOP3Command cfg.lex d.session.request = .error fault ∧
      d.handlerEnded cfg fs ended = { d with session := ended.session, control := .escaped }) := by
  unfold Dialogue.handlerEnded
  cases parsePOP3Command cfg.lex d.session.request with
  | ok result => exact .inl ⟨result, rfl, rfl⟩
  | error fault => exact .inr ⟨fault, rfl, rfl⟩

theorem handlerEnded_session (cfg : Config) (d : Dialogue) (fs : FileSystems) (ended : Ended) :
    (d.handlerEnded cfg fs ended).session = ended.session := by
  rcases handlerEnded_cases cfg d fs ended with ⟨_, _, same⟩ | ⟨_, _, same⟩ <;> rw [same]

theorem handlerEnded_control (cfg : Config) (d : Dialogue) (fs : FileSystems) (ended : Ended) :
    (d.handlerEnded cfg fs ended).control = .writing .outstanding ∨
      (d.handlerEnded cfg fs ended).control = .escaped := by
  rcases handlerEnded_cases cfg d fs ended with ⟨_, _, same⟩ | ⟨_, _, same⟩
  · rw [same]
    by_cases returned : ended.thrown = none
    · exact .inl (if_pos returned)
    · exact .inr (if_neg returned)
  · rw [same]
    exact .inr rfl

theorem runRead_moved {cfg : Config} {active : ActiveMailboxes} {d : Dialogue} {ec : Completion}
    {fs : FileSystems} (reading : d.control = .reading (.queued ec)) :
    Moved cfg d (d.runRead cfg active ec fs).dialogue := by
  unfold Dialogue.runRead
  split
  · split
    · rename_i pass pending
      exact .locked _ _ pass reading pending rfl
    · exact .answered fs _ (.inl ⟨_, reading⟩) (readImpl_handled cfg fs active d.session)
  · exact .failed ⟨_, .inl reading⟩

theorem runLogin_moved {cfg : Config} {active : ActiveMailboxes} {d : Dialogue} {lock : MailboxLock}
    {password : Bytes} {fs : FileSystems} (loggingIn : d.control = .loggingIn lock password)
    (pending : d.LoginPending cfg) : Moved cfg d (d.runLogin cfg active lock password fs).dialogue := by
  obtain ⟨requested, ownName⟩ := pending lock password loggingIn
  obtain ⟨requested, anonymous⟩ := pendingLogin_eq_some_iff.mp requested
  have cleared : POP3Session.state { d.session with response := [] } = .Authorization := anonymous
  exact .answered fs _ (.inr ⟨lock, password, loggingIn⟩)
    (handled_login cleared requested ownName fs).write

theorem runWrite_moved {cfg : Config} {active : ActiveMailboxes} {d : Dialogue} {ec : Completion}
    (writing : d.control = .writing (.queued ec)) : Moved cfg d (d.runWrite active ec).dialogue := by
  unfold Dialogue.runWrite
  split
  · split
    · rename_i quit
      exact .signedOff _ writing quit
    · rename_i goesOn
      exact .replied _ writing (by simpa using goesOn)
  · exact .failed ⟨_, .inr writing⟩

/-- **Nothing else happens to a session.** -/
theorem step_moved {cfg : Config} {active : ActiveMailboxes} {d : Dialogue} {e : SessionEvent}
    {stepped : Stepped} (pending : d.LoginPending cfg) (h : d.step cfg active e = some stepped) :
    Moved cfg d stepped.dialogue := by
  cases step_stepping h with
  | operation control timer same silent => exact .operation control timer same
  | readStarted event accepted => exact .readStarted accepted
  | received chunk event reading => exact .received chunk _ reading
  | runRead ec fs event reading => exact runRead_moved reading
  | runLogin lock password fs event loggingIn => exact runLogin_moved loggingIn pending
  | runWrite ec event writing => exact runWrite_moved writing

theorem Moved.loginPending {cfg : Config} {d d' : Dialogue} (moved : Moved cfg d d')
    (pending : d.LoginPending cfg) : d'.LoginPending cfg := by
  intro lock password loggingIn
  cases moved with
  | operation control timer same =>
    simp only at loggingIn
    subst loggingIn
    exact pending lock password same.of_loggingIn
  | readStarted accepted => cases loggingIn
  | received chunk op reading => cases loggingIn
  | locked op lock' password' reading requested ownName =>
    cases loggingIn
    exact ⟨requested, ownName⟩
  | answered fs ended handling handled =>
    rcases handlerEnded_control cfg d fs ended with writing | escaped
    · rw [writing] at loggingIn; cases loggingIn
    · rw [escaped] at loggingIn; cases loggingIn
  | failed waiting => cases loggingIn
  | signedOff op writing quit => cases loggingIn
  | replied op writing goesOn => cases loggingIn

/-- A step of one session while the rest of the server shows it some lock table. -/
def Dialogue.localStep (cfg : Config) (d : Dialogue) (e : ActiveMailboxes × SessionEvent) :
    Option Dialogue := (d.step cfg e.1 e.2).map (·.dialogue)

theorem localStep_moved {cfg : Config} {d d' : Dialogue} {e : ActiveMailboxes × SessionEvent}
    (pending : d.LoginPending cfg) (h : d.localStep cfg e = some d') : Moved cfg d d' := by
  obtain ⟨stepped, step, rfl⟩ := Option.map_eq_some_iff.mp h
  exact step_moved pending step

/-- **The invariant rule for one session.** -/
theorem localRun_invariant {cfg : Config} (I : Dialogue → Prop)
    (keep : ∀ d d', I d → Moved cfg d d' → I d') {d d' : Dialogue}
    {es : List (ActiveMailboxes × SessionEvent)} (pending : d.LoginPending cfg) (start : I d)
    (run : exec (Dialogue.localStep cfg) d es = some d') : I d' := by
  refine (exec_invariant (fun d => d.LoginPending cfg ∧ I d) ?_ ⟨pending, start⟩ run).2
  rintro d e d' ⟨pending, here⟩ step
  have moved := localStep_moved pending step
  exact ⟨moved.loginPending pending, keep d d' here moved⟩

/-- A session as `CreateSession` makes it. -/
def created (sessionId : Nat) : Dialogue := { session := { sessionId } }

theorem created_loginPending (cfg : Config) (sessionId : Nat) :
    (created sessionId).LoginPending cfg := nofun

end Pop3Serv.Net
