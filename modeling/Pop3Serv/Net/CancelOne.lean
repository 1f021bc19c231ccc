import Pop3Serv.Logic.Nodes
import Pop3Serv.Net.SessionList

/-!
# Cancelling one session

`cancelParticular` erases the session from the list and then reaches for its socket
and its timer through the iterator it has erased; where it found no session, through
the end. So no call of it cancels anything (`no_session_cancelled`), and one that found
a session leaves it under way and off the list: whenever its aborted handler calls
`deleteFromSessions`, the end is erased (`aborted_handler_erases_end`).
-/

namespace Pop3Serv.Net
open Proto Mail Logic

/-- `timer.cancel()`. -/
def Connection.cancelTimer (c : Connection) : Connection := { c with timer := c.timer.cancel }

/-- How a call of `cancelParticular` leaves the server, and what each use of an iterator found
behind it: `none` where it was the end, or its element had been erased. -/
structure Cancellation where
  traffic : Traffic
  uses : List (Option Nat)

/-- `(*it)->…cancel()` on the list as it is now. What an invalid iterator leads to is not
defined; here it leads to no session. -/
def Cancellation.use (done : Cancellation) (sessions : Nodes Nat) (it : Nodes.Iterator)
    (cancel : Connection → Connection) : Cancellation where
  traffic :=
    { done.traffic with
      connections := (sessions.deref it).elim done.traffic.connections fun sessionId =>
        done.traffic.connections.modify sessionId cancel }
  uses := done.uses ++ [sessions.deref it]

namespace Traffic

/-- `POP3Session::cancelParticular`; `none` where an assertion that is compiled in ends the process. -/
def cancelParticular (asserts : Bool) (st : Traffic) (id : Nat) : Option Cancellation :=
  let sessions := Nodes.ofList st.sessions
  let it := sessions.findIf fun sessionId => sessionId = id
  if asserts = true ∧ it = none then none
  else
    let erased := if it ≠ none then sessions.erase it else sessions
    let done : Cancellation :=
      { traffic := { st with sessions := erased.elements }
        uses := if it ≠ none then [sessions.deref it] else [] }
    some ((done.use erased it Connection.cancelSocket).use erased it Connection.cancelTimer)

/-- What a call that came to its end should have done. -/
structure CancelsOne (st : Traffic) (id : Nat) (done : Cancellation) : Prop where
  /-- the socket and the timer of that session are cancelled, and of no other -/
  cancelled : done.traffic.connections =
    if id ∈ st.sessions then st.connections.modify id Connection.cancel else st.connections
  valid : none ∉ done.uses
  /-- the session's handler still finds what it is to erase -/
  later : id ∈ st.sessions → (done.traffic.deleteFromSessions id).erasedEnd = st.erasedEnd

/-- The iterator is the end, or its element is erased, when it is used. -/
theorem deref_erased (sessions : Nodes Nat) (it : Nodes.Iterator) :
    (if it ≠ none then sessions.erase it else sessions).deref it = none := by
  split
  · exact sessions.deref_erase_self it
  · rename_i atEnd
    rw [not_ne_iff.mp atEnd]
    exact sessions.deref_end

/-- **What `cancelParticular` does**: it erases the first entry of the session, cancels nothing, and
both its last uses of the iterator are invalid. -/
theorem cancelParticular_eq {asserts : Bool} {st : Traffic} {id : Nat} {done : Cancellation}
    (ran : cancelParticular asserts st id = some done) :
    done.traffic = { st with sessions := st.sessions.erase id } ∧
      ∃ before, done.uses = before ++ [none, none] := by
  unfold cancelParticular at ran
  simp only at ran
  split at ran
  · cases ran
  · have erased : ∀ it : Nodes.Iterator, it = (Nodes.ofList st.sessions).findIf (fun sessionId => sessionId = id) →
        (if it ≠ none then (Nodes.ofList st.sessions).erase it else Nodes.ofList st.sessions).elements =
          st.sessions.erase id := by
      rintro it rfl
      split
      · rw [Nodes.elements_erase_findIf, Nodes.elements_ofList, List.erase_eq_eraseP']
        congr 1
      · rename_i atEnd
        have missing := ((Nodes.ofList st.sessions).findIf_eq_end_iff _).mp (not_ne_iff.mp atEnd)
        rw [Nodes.elements_ofList] at missing ⊢
        exact (List.erase_of_not_mem fun member => by simpa using missing id member).symm
    cases ran
    unfold Cancellation.use
    simp only [deref_erased, Option.elim_none, erased _ rfl, List.append_assoc, List.singleton_append]
    exact ⟨trivial, _, rfl⟩

/-- **No session is cancelled safely**: with assertions or without, whatever the list and the id. -/
theorem no_session_cancelled (asserts : Bool) (st : Traffic) (id : Nat) :
    ¬ ∃ done, cancelParticular asserts st id = some done ∧ CancelsOne st id done := by
  rintro ⟨done, ran, cancels⟩
  obtain ⟨_, before, uses⟩ := cancelParticular_eq ran
  apply cancels.valid
  rw [uses]
  simp

/-- One session, waiting for a request. -/
def oneSession : Traffic where
  connections := [{ session := { sessionId := 0 }, operations := [(.asyncReadUntil, .outstanding)] }]
  sessions := [0]

/-- The only session of a server is not cancelled by `cancelParticular(0)`, which uses an erased
iterator twice; and its handler then erases the end. -/
theorem only_session_not_cancelled :
    ∃ done, cancelParticular true oneSession 0 = some done ∧ done.uses = [some 0, none, none] ∧
      done.traffic.connections.map Connection.operations = [[(.asyncReadUntil, .outstanding)]] ∧
      (done.traffic.deleteFromSessions 0).erasedEnd = true ∧ ¬ CancelsOne oneSession 0 done := by
  refine ⟨_, rfl, rfl, rfl, rfl, fun cancels => ?_⟩
  exact cancels.valid (by decide)

/-! ## The handler that comes later -/

theorem deleteFromSessions_connections (st : Traffic) (id : Nat) :
    (st.deleteFromSessions id).connections = st.connections := by
  unfold deleteFromSessions
  split <;> rfl

theorem deleteFromSessions_sublist (st : Traffic) (id : Nat) :
    (st.deleteFromSessions id).sessions.Sublist st.sessions := by
  unfold deleteFromSessions
  split
  · exact List.erase_sublist
  · exact List.Sublist.refl _

/-- The session was there once and is not in the list. -/
def OffTheList (id : Nat) (st : Traffic) : Prop := id < st.connections.length ∧ id ∉ st.sessions

theorem OffTheList.cancelOne {id : Nat} {st : Traffic} (off : OffTheList id st) (other : Nat) :
    OffTheList id (st.cancelOne other) := by
  refine ⟨?_, off.2⟩
  rw [Traffic.cancelOne, List.length_modify]
  exact off.1

theorem OffTheList.createSession {id : Nat} {st : Traffic} (off : OffTheList id st) :
    OffTheList id st.createSession := by
  have bound := off.1
  have differ : id ≠ st.connections.length := by omega
  refine ⟨?_, ?_⟩
  · rw [Traffic.createSession, List.length_append]
    omega
  · simp [Traffic.createSession, differ, off.2]

theorem OffTheList.deleteFromSessions {id : Nat} {st : Traffic} (off : OffTheList id st) (other : Nat) :
    OffTheList id (st.deleteFromSessions other) := by
  refine ⟨?_, fun member => off.2 ((deleteFromSessions_sublist st other).subset member)⟩
  rw [deleteFromSessions_connections]
  exact off.1

/-- Ids are not given twice, so no step puts a session back into the list. -/
theorem OffTheList.step {cfg : Config} {id : Nat} {st st' : Traffic} {e : TrafficEvent}
    (off : OffTheList id st) (step : st.step cfg e = some st') : OffTheList id st' := by
  cases step_moves step with
  | acceptor e accepting creating => exact off
  | created creates => exact off.createSession
  | connection sessionId e c handling there moved =>
    have replaced : OffTheList id { st with connections := st.connections.set sessionId handling.connection } := by
      refine ⟨?_, off.2⟩
      rw [List.length_set]
      exact off.1
    split
    · exact replaced.deleteFromSessions sessionId
    · exact replaced
  | cancelled => exact cancelAll_preserves (fun st other here => here.cancelOne other) off

/-- **The aborted handler erases the end.** A session that `cancelParticular` found stays off the list
in whatever the server does next, so a step of it that calls `deleteFromSessions` finds nothing. -/
theorem aborted_handler_erases_end {cfg : Config} {asserts : Bool} {st st' st'' : Traffic} {id : Nat}
    {done : Cancellation} {es : List TrafficEvent} {e : ConnectionEvent} {c : Connection} {handling : Handling}
    (tracked : Tracked st) (listed : id ∈ st.sessions) (ran : cancelParticular asserts st id = some done)
    (run : exec (Traffic.step cfg) done.traffic es = some st') (there : st'.connections[id]? = some c)
    (moved : c.step cfg e = some handling) (ends : handling.deleted = true)
    (step : st'.step cfg (.connection id e) = some st'') : st''.erasedEnd = true := by
  have off : OffTheList id done.traffic := by
    rw [(cancelParticular_eq ran).1]
    exact ⟨tracked.inRange id listed, tracked.nodup.not_mem_erase⟩
  have still := exec_invariant (OffTheList id) (fun st e st' off step => off.step step) off run
  simp only [Traffic.step, there, moved, ends, if_true, Option.some.injEq] at step
  rw [← step, deleteFromSessions, if_neg still.2]

end Traffic

end Pop3Serv.Net
