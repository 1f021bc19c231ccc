import Pop3Serv.Net.Handlers
import Pop3Serv.Net.Server

/-!
# Operations under way

`Dialogue` gives a session one chain of reads and writes. Here a session may have any
number of operations pending and any number of handlers executing, on as many
threads: a handler that is called leaves the pending operations and starts what the
source starts, the accept handler and a write handler a read, a read handler whatever
`readImpl` has started. `deleteFromSessions` may be called for a session that is not
in the list. That none of this happens is proved in `SessionList`.

Which names are locked is left to the environment: a read handler comes with the
lock table it finds.
-/

namespace Pop3Serv.Net
open Proto Mail

/-- A handler that has been called and has not returned. -/
inductive Executing where
  /-- the accept handler, between `CreateSession` and `read()` -/
  | accept
  /-- the completion handler of an operation -/
  | completion (op : AsyncOp) (ec : Completion)
  /-- a read handler inside `VerifyCredentialsAndConnect`, its lock constructed -/
  | login (lock : MailboxLock) (password : Bytes)
  deriving DecidableEq

/-- A session object with all that is under way on its socket. -/
structure Connection where
  session : POP3Session
  operations : List (AsyncOp × Pending) := []
  executing : List Executing := []
  timer : Timer := .unset

/-- What can happen to one connection; operations and executing handlers are named by their place. -/
inductive ConnectionEvent where
  /-- a read operation receives a chunk -/
  | receive (n : Nat) (chunk : Bytes)
  /-- a write operation has sent its buffer -/
  | sent (n : Nat)
  | fail (n : Nat)
  /-- the handler of a completed operation is called -/
  | call (n : Nat)
  /-- an executing handler goes on, to its end or to the lock of a login -/
  | run (n : Nat) (fs : FileSystems) (active : ActiveMailboxes)
  /-- the accept handler has called `read()` and calls `startTimer()` -/
  | startTimer
  | expire
  | failTimer
  | runTimer (idle : Bool)

/-- How a step leaves a connection, whether it called `deleteFromSessions`, and the exception
that cut a handler short if one did. -/
structure Handling where
  connection : Connection
  deleted : Bool := false
  thrown : Option Fault := none

namespace Connection

/-- `async_read_until` or `async_write`. -/
def start (c : Connection) (op : AsyncOp) : Connection :=
  { c with operations := c.operations ++ [(op, .outstanding)] }

/-- `socket.cancel()`. -/
def cancelSocket (c : Connection) : Connection :=
  { c with operations := c.operations.map fun (op, pending) => (op, pending.cancel) }

/-- `socket.cancel()` and `timer.cancel()`. -/
def cancel (c : Connection) : Connection := { c.cancelSocket with timer := c.timer.cancel }

/-- A read handler that ended as `ended`. -/
def ended (c : Connection) (ended : Ended) : Handling :=
  { connection :=
      { c with
        session := ended.session
        operations := c.operations ++ ended.started.map fun op => (op, .outstanding) }
    thrown := ended.thrown }

/-- The completion handler `read()` passes on. -/
def readHandler (cfg : Config) (fs : FileSystems) (active : ActiveMailboxes) (c : Connection)
    (ec : Completion) : Handling :=
  if ec = .success then
    match pendingLogin cfg c.session with
    | some password =>
      let (lock, _) := MailboxLock.construct active c.session.userName
      { connection := { c with executing := c.executing ++ [.login lock password] } }
    | none => c.ended (c.session.readImpl cfg fs active).1
  else { connection := c, deleted := true }

/-- The rest of the read handler of a login. -/
def loginHandler (cfg : Config) (fs : FileSystems) (c : Connection) (lock : MailboxLock)
    (password : Bytes) : Handling :=
  let s := { c.session with response := [] }
  let (result, _) := connect cfg.auth cfg.defaultPath (fs 0) lock s.userName password
  c.ended (s.finishPass fs result).write

/-- The completion handler `write()` passes on. -/
def writeHandler (c : Connection) (ec : Completion) : Handling :=
  if ec = .success then
    if c.session.quitCommandReceived then
      let session := { c.session with mailbox := c.session.mailbox.map Mailbox.setUpdate }
      { connection := { c with session }, deleted := true }
    else
      let session := { c.session with request := [] }
      { connection := { c with session }.start .asyncReadUntil }
  else { connection := c, deleted := true }

/-- The timer handler. -/
def timerHandler (c : Connection) (ec : Completion) (idle : Bool) : Connection :=
  match ec with
  | .success =>
    if idle then { c.cancelSocket with timer := .stopped } else { c with timer := .waiting .outstanding }
  | .aborted => { c with timer := .stopped }
  | .failed => { c with timer := .waiting .outstanding }

/-- An executing handler goes on. -/
def handle (cfg : Config) (fs : FileSystems) (active : ActiveMailboxes) (c : Connection) :
    Executing → Handling
  | .accept => { connection := c.start .asyncReadUntil }
  | .completion .asyncReadUntil ec => c.readHandler cfg fs active ec
  | .completion (.asyncWrite _) ec => c.writeHandler ec
  | .login lock password => c.loginHandler cfg fs lock password

/-- The operation at this place has completed. -/
def complete (c : Connection) (n : Nat) (op : AsyncOp) (ec : Completion) : Connection :=
  { c with operations := c.operations.set n (op, .queued ec) }

def step (cfg : Config) (c : Connection) : ConnectionEvent → Option Handling
  | .receive n chunk =>
    match c.operations[n]? with
    | some (.asyncReadUntil, .outstanding) =>
      let c := { c with session := { c.session with request := c.session.request ++ chunk } }
      let done := lineReceived c.session.request
      some { connection := if done then c.complete n .asyncReadUntil .success else c }
    | _ => none
  | .sent n =>
    match c.operations[n]? with
    | some (.asyncWrite buffer, .outstanding) => some { connection := c.complete n (.asyncWrite buffer) .success }
    | _ => none
  | .fail n =>
    match c.operations[n]? with
    | some (op, .outstanding) => some { connection := c.complete n op .failed }
    | _ => none
  | .call n =>
    match c.operations[n]? with
    | some (op, .queued ec) =>
      some
        { connection :=
            { c with
              operations := c.operations.eraseIdx n
              executing := c.executing ++ [.completion op ec] } }
    | _ => none
  | .run n fs active =>
    match c.executing[n]? with
    | some handler => some ({ c with executing := c.executing.eraseIdx n }.handle cfg fs active handler)
    | none => none
  | .startTimer =>
    match c.timer with
    | .unset =>
      if .accept ∈ c.executing then none else some { connection := { c with timer := .waiting .outstanding } }
    | _ => none
  | .expire =>
    match c.timer with
    | .waiting .outstanding => some { connection := { c with timer := .waiting (.queued .success) } }
    | _ => none
  | .failTimer =>
    match c.timer with
    | .waiting .outstanding => some { connection := { c with timer := .waiting (.queued .failed) } }
    | _ => none
  | .runTimer idle =>
    match c.timer with
    | .waiting (.queued ec) => some { connection := c.timerHandler ec idle }
    | _ => none

end Connection

/-- The acceptor, every connection by its `sessionId`, and `POP3Session::sessions`. -/
structure Traffic where
  accepting : Option Pending := some .outstanding
  /-- accept handlers between `serve()` and `CreateSession` -/
  creating : Nat := 0
  connections : List Connection := []
  sessions : List Nat := []
  /-- `deleteFromSessions` was called for a session not in the list, and erased its end -/
  erasedEnd : Bool := false

inductive TrafficEvent where
  | acceptDone (failed : Bool)
  | runAccept
  | createSession
  | connection (sessionId : Nat) (e : ConnectionEvent)
  | cancelAll
  | cancelAcceptor

namespace Traffic

def runAccept (st : Traffic) (ec : Completion) : Traffic :=
  match ec with
  | .aborted => { st with accepting := none }
  | .failed => { st with accepting := some .outstanding }
  | .success => { st with accepting := some .outstanding, creating := st.creating + 1 }

/-- `CreateSession`, and the handler that goes on with its session. -/
def createSession (st : Traffic) : Traffic :=
  let sessionId := st.connections.length
  { st with
    creating := st.creating - 1
    connections := st.connections ++ [{ session := { sessionId }, executing := [.accept] }]
    sessions := sessionId :: st.sessions }

/-- `deleteFromSessions`: what `find_if` gives is erased, also when it is the end. -/
def deleteFromSessions (st : Traffic) (sessionId : Nat) : Traffic :=
  if sessionId ∈ st.sessions then { st with sessions := st.sessions.erase sessionId }
  else { st with erasedEnd := true }

/-- `socket.cancel()` and `timer.cancel()` on one session of the list. -/
def cancelOne (st : Traffic) (sessionId : Nat) : Traffic :=
  { st with connections := st.connections.modify sessionId Connection.cancel }

/-- `POP3Session::cancelAll`, one step here as in the server. -/
def cancelAll (st : Traffic) : Traffic := st.sessions.foldl cancelOne st

def step (cfg : Config) (st : Traffic) : TrafficEvent → Option Traffic
  | .acceptDone failed =>
    match st.accepting with
    | some .outstanding =>
      some { st with accepting := some (.queued (if failed then .failed else .success)) }
    | _ => none
  | .runAccept =>
    match st.accepting with
    | some (.queued ec) => some (st.runAccept ec)
    | _ => none
  | .createSession => if 0 < st.creating then some st.createSession else none
  | .connection sessionId e =>
    match st.connections[sessionId]? with
    | some c =>
      match c.step cfg e with
      | some handling =>
        let st := { st with connections := st.connections.set sessionId handling.connection }
        some (if handling.deleted then st.deleteFromSessions sessionId else st)
      | none => none
    | none => none
  | .cancelAll => some st.cancelAll
  | .cancelAcceptor => some { st with accepting := st.accepting.map Pending.cancel }

end Traffic

end Pop3Serv.Net
