import Pop3Serv.Net.Dialogue

/-!
# The server

`Server.h` over the static members of `POP3Session` and `MailboxServiceManager`:
the acceptor, the list of sessions, the lock table, and every session object
ever created. One event is one completion, one handler (an accept handler in
three steps, a login in two) or one of the two cancellation steps of
`Server::cancel`, so a list of events is an interleaving of the worker threads
and the console thread.

`cancelAll` is one event, though handlers may run between the cancels it makes.
Nothing here depends on that. It holds the mutex of the list throughout, so no
session joins or leaves the list meanwhile, and a handler may change places with
the cancels of other sessions (`stepSession_cancels`): one run in between does what
it would do before the event, if its session is still to be cancelled, or after it.
What holds in every run is proved of each cancel by itself (`cancelAll_preserves`),
so it holds between two of them too, whatever the handlers there do to the lock
table. Where no cancellation comes too early (`orderlyStep`) the handlers of a
session already cancelled only wait for the mutex, to leave the list.

A session object lives while something holds it: its entry in the list, the
handler of a pending read, write or timer wait, or a handler that is running.
When the last holder goes its mailbox is destroyed: the lock is released and the
storages' destructors run.
-/

namespace Pop3Serv.Net
open Proto Mail

/-- A session object: `released` is what the storages' destructors did, once it is destroyed. -/
structure SessionObject where
  dialogue : Dialogue
  released : Option (Except Fault (List Path)) := none

/-- How far `Server::cancel` has got. -/
inductive Console where
  | running | sessionsCancelled | cancelled
  deriving DecidableEq, Repr

structure Server where
  /-- the pending `async_accept` -/
  accepting : Option Pending := some .outstanding
  /-- accept handlers between `serve()` and `CreateSession` -/
  creating : Nat := 0
  /-- every session object constructed, by its `sessionId`; `counter` is the length -/
  objects : List SessionObject := []
  /-- `POP3Session::sessions`, by `sessionId`, newest first -/
  sessions : List Nat := []
  activeMailboxes : ActiveMailboxes := ∅
  console : Console := .running

inductive Event where
  /-- the pending accept completes -/
  | acceptDone (failed : Bool)
  /-- the accept handler runs up to its `if (ec) return` -/
  | runAccept
  /-- an accept handler goes on with `CreateSession` -/
  | createSession
  | session (sessionId : Nat) (e : SessionEvent)
  | cancelAll
  | cancelAcceptor

/-- The chain or the running handler holds the object. -/
def Control.Holds (control : Control) : Prop := control ≠ .ended ∧ control ≠ .escaped

/-- A pending wait or the accept handler holds the object. -/
def Timer.Holds (timer : Timer) : Prop := timer ≠ .stopped

instance (control : Control) : Decidable control.Holds := by unfold Control.Holds; infer_instance

instance (timer : Timer) : Decidable timer.Holds := by unfold Timer.Holds; infer_instance

namespace Server

/-- `deleteFromSessions`. Its `erase` expects the session in the list. -/
def deleteFromSessions (st : Server) (sessionId : Nat) : Server :=
  { st with sessions := st.sessions.erase sessionId }

/-- Something holds the session object. -/
def Held (st : Server) (sessionId : Nat) (d : Dialogue) : Prop :=
  sessionId ∈ st.sessions ∨ d.control.Holds ∨ d.timer.Holds

instance (st : Server) (sessionId : Nat) (d : Dialogue) : Decidable (st.Held sessionId d) := by
  unfold Held; infer_instance

/-- `~POP3Session` as far as it is visible: its mailbox is destroyed, lock first. -/
def destroy (st : Server) (sessionId : Nat) (d : Dialogue) : Server :=
  match d.session.mailbox with
  | some m =>
    { st with
      activeMailboxes := m.destroyLock st.activeMailboxes
      objects := st.objects.set sessionId { dialogue := d, released := some m.destroyStorages } }
  | none => { st with objects := st.objects.set sessionId { dialogue := d, released := some (.ok []) } }

/-- The object after a step, destroyed when that step dropped its last holder. -/
def settle (st : Server) (sessionId : Nat) (d : Dialogue) : Server :=
  if st.Held sessionId d then { st with objects := st.objects.set sessionId { dialogue := d } }
  else st.destroy sessionId d

/-- A step of one session that lives. -/
def stepSession (cfg : Config) (st : Server) (sessionId : Nat) (e : SessionEvent) : Option Server :=
  match st.objects[sessionId]? with
  | some { dialogue, released := none } =>
    match dialogue.step cfg st.activeMailboxes e with
    | some stepped =>
      let st := { st with activeMailboxes := stepped.active }
      let st := if stepped.deleted then st.deleteFromSessions sessionId else st
      some (st.settle sessionId stepped.dialogue)
    | none => none
  | _ => none

/-- The accept handler up to `if (ec) return`: unless the accept was aborted it
starts the next one. -/
def runAccept (st : Server) (ec : Completion) : Server :=
  match ec with
  | .aborted => { st with accepting := none }
  | .failed => { st with accepting := some .outstanding }
  | .success => { st with accepting := some .outstanding, creating := st.creating + 1 }

/-- `CreateSession`. -/
def createSession (st : Server) : Server :=
  let sessionId := st.objects.length
  { st with
    creating := st.creating - 1
    objects := st.objects ++ [{ dialogue := { session := { sessionId } } }]
    sessions := sessionId :: st.sessions }

/-- `socket.cancel()` and `timer.cancel()` on one session of the list. -/
def cancelOne (cfg : Config) (st : Server) (sessionId : Nat) : Server :=
  (st.stepSession cfg sessionId .cancel).getD st

/-- `POP3Session::cancelAll`, under the mutex of the list from the first cancel to the last. -/
def cancelAll (cfg : Config) (st : Server) : Server := st.sessions.foldl (cancelOne cfg) st

def step (cfg : Config) (st : Server) : Event → Option Server
  | .acceptDone failed =>
    match st.accepting with
    | some .outstanding =>
      some { st with accepting := some (.queued (if failed then .failed else .success)) }
    | _ => none
  | .runAccept =>
    match st.accepting with
    | some (.queued ec) => some (st.runAccept ec)
    | _ => none
  | .createSession => if 0 < st.creating then some st.createSession else none
  | .session _ .cancel => none
  | .session sessionId e => st.stepSession cfg sessionId e
  | .cancelAll =>
    match st.console with
    | .running => some { st.cancelAll cfg with console := .sessionsCancelled }
    | _ => none
  | .cancelAcceptor =>
    match st.console with
    | .sessionsCancelled =>
      some { st with accepting := st.accepting.map Pending.cancel, console := .cancelled }
    | _ => none

end Server

end Pop3Serv.Net
