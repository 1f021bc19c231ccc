import Pop3Serv.Net.Session

/-!
# One session and its pending operations

The completion handlers of `POP3Session.h` (`read`, `write`, `startTimer`), with
the operations a session has pending. An operation is outstanding until it
completes; then its handler is queued, and runs later as a step of its own.
`cancel` completes what is outstanding at that moment with `operation_aborted`
and touches nothing else. Inside a handler the only place where other threads
matter is the login attempt, which runs in two steps: the lock is taken
(`runRead`), and the rest follows (`runLogin`).
-/

namespace Pop3Serv.Net
open Proto Mail

/-- An `error_code`, as far as a handler looks at it. -/
inductive Completion where
  | success
  | aborted
  | failed
  deriving DecidableEq, Repr

/-- An asynchronous operation that has been started and whose handler has not run. -/
inductive Pending where
  | outstanding
  | queued (ec : Completion)
  deriving DecidableEq, Repr

/-- `cancel` on the object the operation belongs to. -/
def Pending.cancel : Pending → Pending
  | .outstanding => .queued .aborted
  | .queued ec => .queued ec

/-- Where the session's chain of reads and writes stands. -/
inductive Control where
  /-- created by the accept handler, `read()` not yet called -/
  | accepted
  | reading (op : Pending)
  /-- inside `VerifyCredentialsAndConnect`, its lock constructed -/
  | loggingIn (lock : MailboxLock) (password : Bytes)
  | writing (op : Pending)
  /-- a completion handler returned after `deleteFromSessions` -/
  | ended
  /-- an exception left the handler -/
  | escaped
  deriving DecidableEq, Repr

/-- `socket.cancel()`. -/
def Control.cancel : Control → Control
  | .reading op => .reading op.cancel
  | .writing op => .writing op.cancel
  | control => control

/-- Where the session's timer stands. -/
inductive Timer where
  /-- the accept handler has not called `startTimer()` yet -/
  | unset
  | waiting (op : Pending)
  /-- the last wait's handler returned without another wait -/
  | stopped
  deriving DecidableEq, Repr

/-- `timer.cancel()`. -/
def Timer.cancel : Timer → Timer
  | .waiting op => .waiting op.cancel
  | timer => timer

/-- A request the session has handled: the state it met, what it parsed as, the response
left in the buffer, and the exception if one left the handler. -/
structure Exchange where
  state : POP3SessionState
  result : Parsed
  response : Bytes
  thrown : Option Fault
  fs : FileSystems

/-- What a session has done: it handled a request, or a reply was written without error. -/
inductive Note where
  | handled (x : Exchange)
  | replied

/-- A session object with its pending operations. `log` is not part of the
program: it records what happened, oldest first. -/
structure Dialogue where
  session : POP3Session
  control : Control := .accepted
  timer : Timer := .unset
  log : List Note := []

/-- What can happen to one session. -/
inductive SessionEvent where
  /-- the accept handler calls `read()` -/
  | startRead
  /-- the accept handler calls `startTimer()` -/
  | startTimer
  /-- the read operation receives a chunk -/
  | receive (chunk : Bytes)
  | failRead
  /-- the read completion handler runs; a login stops after taking the lock -/
  | runRead (fs : FileSystems)
  /-- the handler goes on from the lock to the reply -/
  | runLogin (fs : FileSystems)
  /-- the write operation has sent the whole response -/
  | sent
  | failWrite
  /-- the write completion handler runs -/
  | runWrite
  | expire
  | failTimer
  /-- the timer handler runs; `idle` says that the last activity is over `Timeout` ago -/
  | runTimer (idle : Bool)
  /-- `socket.cancel()` and `timer.cancel()`, from `cancelAll` -/
  | cancel

/-- A step of a session: the session after it, the lock table, and whether the
step called `deleteFromSessions`. -/
structure Stepped where
  dialogue : Dialogue
  active : ActiveMailboxes
  deleted : Bool := false

/-- The buffer holds `\r\n`, the condition `async_read_until` waits for. -/
def lineReceived (buffer : Bytes) : Bool := decide (crlf <:+: buffer)

/-- The request is a `PASS` the session will try to log in with. -/
def pendingLogin (cfg : Config) (s : POP3Session) : Option Bytes :=
  match parsePOP3Command cfg.lex s.request with
  | .ok (.ok { cmdType := .PASS, parameter := .string pass }) =>
    if s.state = .Authorization then some pass else none
  | _ => none

namespace Dialogue

/-- The session's chain after a read handler ended as `ended`: the reply it started to
write is outstanding now, and an exception leaves nothing behind. -/
def handlerEnded (cfg : Config) (d : Dialogue) (fs : FileSystems) (ended : Ended) : Dialogue :=
  match parsePOP3Command cfg.lex d.session.request with
  | .ok result =>
    { d with
      session := ended.session
      control := if ended.thrown = none then .writing .outstanding else .escaped
      log := d.log ++
        [.handled ⟨d.session.state, result, ended.session.response, ended.thrown, fs⟩] }
  | .error _ => { d with session := ended.session, control := .escaped }

/-- The read completion handler. -/
def runRead (cfg : Config) (active : ActiveMailboxes) (d : Dialogue) (ec : Completion)
    (fs : FileSystems) : Stepped :=
  if ec = .success then
    match pendingLogin cfg d.session with
    | some pass =>
      let (lock, active) := MailboxLock.construct active d.session.userName
      { dialogue := { d with control := .loggingIn lock pass }, active }
    | none =>
      let (ended, active) := d.session.readImpl cfg fs active
      { dialogue := d.handlerEnded cfg fs ended, active }
  else { dialogue := { d with control := .ended }, active, deleted := true }

/-- The read completion handler of a login, from the lock on. -/
def runLogin (cfg : Config) (active : ActiveMailboxes) (d : Dialogue) (lock : MailboxLock)
    (pass : Bytes) (fs : FileSystems) : Stepped :=
  let s := { d.session with response := [] }
  let (result, lock) := connect cfg.auth cfg.defaultPath (fs 0) lock s.userName pass
  { dialogue := d.handlerEnded cfg fs (s.finishPass fs result).write
    active := lock.destruct active }

/-- The write completion handler. -/
def runWrite (active : ActiveMailboxes) (d : Dialogue) (ec : Completion) : Stepped :=
  if ec = .success then
    let log := d.log ++ [.replied]
    if d.session.quitCommandReceived then
      let session := { d.session with mailbox := d.session.mailbox.map Mailbox.setUpdate }
      { dialogue := { d with session, control := .ended, log }, active, deleted := true }
    else
      let session := { d.session with request := [] }
      { dialogue := { d with session, control := .reading .outstanding, log }, active }
  else { dialogue := { d with control := .ended }, active, deleted := true }

/-- The timer handler. -/
def runTimer (d : Dialogue) (ec : Completion) (idle : Bool) : Dialogue :=
  match ec with
  | .success =>
    if idle then { d with control := d.control.cancel, timer := .stopped }
    else { d with timer := .waiting .outstanding }
  | .aborted => { d with timer := .stopped }
  | .failed => { d with timer := .waiting .outstanding }

/-- One step of a session, where the event can happen at all. -/
def step (cfg : Config) (active : ActiveMailboxes) (d : Dialogue) : SessionEvent → Option Stepped
  | .startRead =>
    match d.control with
    | .accepted => some { dialogue := { d with control := .reading .outstanding }, active }
    | _ => none
  | .startTimer =>
    match d.control, d.timer with
    | .accepted, _ => none
    | _, .unset => some { dialogue := { d with timer := .waiting .outstanding }, active }
    | _, _ => none
  | .receive chunk =>
    match d.control with
    | .reading .outstanding =>
      let session := { d.session with request := d.session.request ++ chunk }
      let op := if lineReceived session.request then .queued .success else .outstanding
      some { dialogue := { d with session, control := .reading op }, active }
    | _ => none
  | .failRead =>
    match d.control with
    | .reading .outstanding => some { dialogue := { d with control := .reading (.queued .failed) }, active }
    | _ => none
  | .runRead fs =>
    match d.control with
    | .reading (.queued ec) => some (d.runRead cfg active ec fs)
    | _ => none
  | .runLogin fs =>
    match d.control with
    | .loggingIn lock pass => some (d.runLogin cfg active lock pass fs)
    | _ => none
  | .sent =>
    match d.control with
    | .writing .outstanding => some { dialogue := { d with control := .writing (.queued .success) }, active }
    | _ => none
  | .failWrite =>
    match d.control with
    | .writing .outstanding => some { dialogue := { d with control := .writing (.queued .failed) }, active }
    | _ => none
  | .runWrite =>
    match d.control with
    | .writing (.queued ec) => some (d.runWrite active ec)
    | _ => none
  | .expire =>
    match d.timer with
    | .waiting .outstanding => some { dialogue := { d with timer := .waiting (.queued .success) }, active }
    | _ => none
  | .failTimer =>
    match d.timer with
    | .waiting .outstanding => some { dialogue := { d with timer := .waiting (.queued .failed) }, active }
    | _ => none
  | .runTimer idle =>
    match d.timer with
    | .waiting (.queued ec) => some { dialogue := d.runTimer ec idle, active }
    | _ => none
  | .cancel => some { dialogue := { d with control := d.control.cancel, timer := d.timer.cancel }, active }

end Dialogue

end Pop3Serv.Net
