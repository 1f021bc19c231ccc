import Pop3Serv.Net.Operations
import Pop3Serv.Net.Typestate

/-!
# The session list and what is under way

What is under way on a connection is counted (`activity`). A handler that returns has
started as much as it took off, unless it called `deleteFromSessions`, and then it
has taken one off (`step_activity`). So a session in the list has exactly one thing
under way, in every interleaving, and the one that ends it finds it in the list.
-/

namespace Pop3Serv.Net
open Proto Mail Logic

/-! ## What a handler starts -/

/-- `write()` behind a handler that has started nothing. -/
theorem Ended.write_started {ended : Ended} (nothing : ended.started = []) :
    ended.write.started = if ended.thrown = none then [.asyncWrite ended.session.response] else [] := by
  unfold Ended.write
  cases thrown : ended.thrown with
  | none => simp [nothing]
  | some fault => simp [nothing]

theorem attempt_started {α : Type} {s : POP3Session} {value : Except Fault α} {next : α → Ended}
    (nothing : ∀ a, (next a).started = []) : (attempt s value next).started = [] := by
  unfold attempt
  split
  · exact nothing _
  · rfl

theorem POP3Session.finishPass_started (fs : FileSystems) (s : POP3Session) (result : Except Fault LoginResult) :
    (s.finishPass fs result).started = [] := by
  rcases s.finishPass_cases fs result with ⟨m, _, makes⟩ | ⟨_, makes⟩
  · exact makes.1
  · exact makes.1

theorem handleAnonymous_started (cfg : Config) (fs : FileSystems) (active : ActiveMailboxes)
    (s : POP3Session) (cmd : POP3Command) : (s.handleAnonymousCommand cfg fs active cmd).1.started = [] := by
  obtain ⟨cmdType, parameter⟩ := cmd
  cases cmdType with
  | USER =>
    apply attempt_started
    intro username
    apply attempt_started
    intro known
    cases known <;> rfl
  | PASS =>
    cases parameter with
    | string password => exact POP3Session.finishPass_started fs s _
    | _ => rfl
  | _ => rfl

theorem handleAuthorized_started (fs : FileSystems) (s : POP3Session) (cmd : POP3Command) :
    (s.handleAuthorizedUserCommand fs cmd).started = [] := by
  by_cases quit : cmd.cmdType = .QUIT
  · unfold POP3Session.handleAuthorizedUserCommand
    rw [quit]
  · exact (s.makes_handleAuthorized fs quit).1

/-- **`readImpl` starts one write**, unless it is cut short. -/
theorem readImpl_started (cfg : Config) (fs : FileSystems) (active : ActiveMailboxes) (s : POP3Session) :
    (s.readImpl cfg fs active).1.started =
      if (s.readImpl cfg fs active).1.thrown = none then
        [.asyncWrite (s.readImpl cfg fs active).1.session.response] else [] := by
  have written : ∀ {ended : Ended}, ended.started = [] → ended.write.started =
      if ended.write.thrown = none then [.asyncWrite ended.write.session.response] else [] := by
    intro ended nothing
    rw [Ended.write_started nothing, ended.write_thrown, ended.write_session]
  unfold POP3Session.readImpl
  cases parsePOP3Command cfg.lex s.request with
  | error fault => rfl
  | ok result =>
    cases result with
    | error err => exact written rfl
    | ok cmd =>
      simp only
      split
      · exact written (handleAnonymous_started cfg fs active _ cmd)
      · exact written (handleAuthorized_started fs _ cmd)

/-! ## What is under way -/

namespace Connection

/-- How many operations are pending and handlers executing. -/
def activity (c : Connection) : Nat := c.operations.length + c.executing.length

@[simp] theorem activity_start (c : Connection) (op : AsyncOp) : (c.start op).activity = c.activity + 1 := by
  simp [activity, start]
  omega

@[simp] theorem activity_cancelSocket (c : Connection) : c.cancelSocket.activity = c.activity := by
  simp [activity, cancelSocket]

@[simp] theorem activity_cancel (c : Connection) : c.cancel.activity = c.activity := c.activity_cancelSocket

@[simp] theorem activity_complete (c : Connection) (n : Nat) (op : AsyncOp) (ec : Completion) :
    (c.complete n op ec).activity = c.activity := by
  simp [activity, complete]

@[simp] theorem activity_timerHandler (c : Connection) (ec : Completion) (idle : Bool) :
    (c.timerHandler ec idle).activity = c.activity := by
  cases ec with
  | success =>
    cases idle with
    | true => exact c.activity_cancelSocket
    | false => rfl
  | aborted => rfl
  | failed => rfl

/-- A handler that returned, on the connection without it: it has put one thing in its place, or
it has called `deleteFromSessions`. -/
def Passes (c : Connection) (handling : Handling) : Prop :=
  handling.connection.activity = c.activity + if handling.deleted then 0 else 1

theorem passes_ended {c : Connection} {ended : Ended}
    (started : ended.started = if ended.thrown = none then [.asyncWrite ended.session.response] else [])
    (returned : (c.ended ended).thrown = none) : Passes c (c.ended ended) := by
  have returned : ended.thrown = none := returned
  rw [if_pos returned] at started
  show (c.operations ++ ended.started.map _).length + c.executing.length = c.activity + 1
  rw [started, List.length_append]
  show c.operations.length + 1 + c.executing.length = c.operations.length + c.executing.length + 1
  omega

theorem passes_readHandler {cfg : Config} {fs : FileSystems} {active : ActiveMailboxes} {c : Connection}
    {ec : Completion} (returned : (c.readHandler cfg fs active ec).thrown = none) :
    Passes c (c.readHandler cfg fs active ec) := by
  unfold readHandler at returned ⊢
  split
  · rename_i success
    rw [if_pos success] at returned
    split
    · simp [Passes, activity]
      omega
    · rename_i noLogin
      rw [noLogin] at returned
      exact passes_ended (readImpl_started cfg fs active c.session) returned
  · exact rfl

theorem passes_loginHandler {cfg : Config} {fs : FileSystems} {c : Connection} {lock : MailboxLock}
    {password : Bytes} (returned : (c.loginHandler cfg fs lock password).thrown = none) :
    Passes c (c.loginHandler cfg fs lock password) := by
  apply passes_ended _ returned
  rw [Ended.write_started (POP3Session.finishPass_started fs _ _), Ended.write_thrown, Ended.write_session]

theorem passes_writeHandler (c : Connection) (ec : Completion) : Passes c (c.writeHandler ec) := by
  unfold writeHandler
  split
  · split
    · exact rfl
    · exact activity_start _ _
  · exact rfl

/-- **A handler that returns** has put one thing in its place, or has called `deleteFromSessions`. -/
theorem passes_handle {cfg : Config} {fs : FileSystems} {active : ActiveMailboxes} {c : Connection}
    {handler : Executing} (returned : (c.handle cfg fs active handler).thrown = none) :
    Passes c (c.handle cfg fs active handler) := by
  cases handler with
  | accept => exact activity_start _ _
  | completion op ec =>
    cases op with
    | asyncReadUntil => exact passes_readHandler returned
    | asyncWrite buffer => exact passes_writeHandler c ec
  | login lock password => exact passes_loginHandler returned

/-- **What a step does to what is under way**: nothing, or it takes one thing off and calls
`deleteFromSessions`. -/
theorem step_activity {cfg : Config} {c : Connection} {e : ConnectionEvent} {handling : Handling}
    (returned : handling.thrown = none) (h : c.step cfg e = some handling) :
    c.activity = handling.connection.activity + if handling.deleted then 1 else 0 := by
  cases e with
  | receive n chunk =>
    simp only [step] at h
    split at h
    · cases h
      simp only
      split
      · rw [activity_complete]
        rfl
      · rfl
    · cases h
  | sent n =>
    simp only [step] at h
    split at h
    · cases h
      exact (activity_complete c n _ _).symm
    · cases h
  | fail n =>
    simp only [step] at h
    split at h
    · cases h
      exact (activity_complete c n _ _).symm
    · cases h
  | call n =>
    simp only [step] at h
    split at h
    · rename_i op ec there
      cases h
      have place := (List.getElem?_eq_some_iff.mp there).1
      simp only [activity, List.length_eraseIdx_of_lt place, List.length_append, List.length_singleton]
      show _ = _ + 0
      omega
    · cases h
  | run n fs active =>
    simp only [step] at h
    split at h
    · rename_i handler there
      cases h
      have place := (List.getElem?_eq_some_iff.mp there).1
      have passes := passes_handle returned
      have left : activity { c with executing := c.executing.eraseIdx n } + 1 = c.activity := by
        simp only [activity, List.length_eraseIdx_of_lt place]
        omega
      unfold Passes at passes
      rw [passes]
      split <;> omega
    · cases h
  | startTimer =>
    simp only [step] at h
    split at h
    · split at h
      · cases h
      · cases h; rfl
    · cases h
  | expire =>
    simp only [step] at h
    split at h
    · cases h; rfl
    · cases h
  | failTimer =>
    simp only [step] at h
    split at h
    · cases h; rfl
    · cases h
  | runTimer idle =>
    simp only [step] at h
    split at h
    · cases h
      exact (activity_timerHandler c _ idle).symm
    · cases h

end Connection

/-! ## The list -/

namespace Traffic

/-- The forms a step can have. -/
inductive Moves (cfg : Config) (st : Traffic) : TrafficEvent → Traffic → Prop
  /-- the acceptor alone moves on -/
  | acceptor (e : TrafficEvent) (accepting : Option Pending) (creating : Nat) :
      Moves cfg st e { st with accepting, creating }
  | created (creates : 0 < st.creating) : Moves cfg st .createSession st.createSession
  | connection (sessionId : Nat) (e : ConnectionEvent) (c : Connection) (handling : Handling)
      (there : st.connections[sessionId]? = some c) (moved : c.step cfg e = some handling) :
      Moves cfg st (.connection sessionId e)
        (if handling.deleted then
          { st with connections := st.connections.set sessionId handling.connection }.deleteFromSessions sessionId
        else { st with connections := st.connections.set sessionId handling.connection })
  | cancelled : Moves cfg st .cancelAll st.cancelAll

/-- **Every step has one of these forms.** -/
theorem step_moves {cfg : Config} {st st' : Traffic} {e : TrafficEvent} (h : st.step cfg e = some st') :
    Moves cfg st e st' := by
  cases e with
  | acceptDone failed =>
    simp only [step] at h
    split at h
    · cases h; exact .acceptor _ _ _
    · cases h
  | runAccept =>
    simp only [step] at h
    split at h
    · rename_i ec _
      cases h
      cases ec <;> exact .acceptor _ _ _
    · cases h
  | createSession =>
    simp only [step] at h
    split at h
    · rename_i creates; cases h; exact .created creates
    · cases h
  | connection sessionId e =>
    simp only [step] at h
    split at h
    · rename_i c there
      split at h
      · rename_i handling moved; cases h; exact .connection sessionId e c handling there moved
      · cases h
    · cases h
  | cancelAll => cases h; exact .cancelled
  | cancelAcceptor => cases h; exact .acceptor _ _ _

/-- **The rule for `cancelAll`.** -/
theorem cancelAll_preserves {I : Traffic → Prop} (one : ∀ st sessionId, I st → I (st.cancelOne sessionId))
    {st : Traffic} (here : I st) : I st.cancelAll :=
  List.foldlRecOn st.sessions cancelOne here fun st here sessionId _ => one st sessionId here

end Traffic

/-- The step is no handler that is cut short by an exception. -/
def returningStep (cfg : Config) (st : Traffic) : TrafficEvent → Bool
  | .connection sessionId e =>
    match st.connections[sessionId]? with
    | some c => ((c.step cfg e).all fun handling => handling.thrown = none)
    | none => true
  | _ => true

/-- The list is the sessions with one thing under way, and the others have nothing. -/
structure Tracked (st : Traffic) : Prop where
  nodup : st.sessions.Nodup
  inRange : ∀ sessionId ∈ st.sessions, sessionId < st.connections.length
  found : st.erasedEnd = false
  activity : ∀ (sessionId : Nat) (c : Connection), st.connections[sessionId]? = some c →
    c.activity = if sessionId ∈ st.sessions then 1 else 0

theorem Tracked.createSession {st : Traffic} (h : Tracked st) : Tracked st.createSession := by
  have fresh : st.connections.length ∉ st.sessions := fun member => Nat.lt_irrefl _ (h.inRange _ member)
  refine ⟨List.nodup_cons.mpr ⟨fresh, h.nodup⟩, ?_, h.found, ?_⟩
  · intro sessionId member
    simp only [Traffic.createSession, List.length_append, List.length_singleton]
    rcases List.mem_cons.mp member with rfl | old
    · omega
    · have bound := h.inRange sessionId old
      omega
  · intro sessionId c found
    simp only [Traffic.createSession, List.getElem?_append, List.mem_cons] at found ⊢
    split at found
    · rename_i bound
      rw [h.activity sessionId c found]
      have differ : sessionId ≠ st.connections.length := by omega
      simp [differ]
    · rename_i past
      obtain ⟨bound, same⟩ := List.getElem?_eq_some_iff.mp found
      simp only [List.length_singleton] at bound
      have last : sessionId = st.connections.length := by omega
      rw [if_pos (.inl last), ← same]
      simp [Connection.activity]

theorem Tracked.cancelOne {st : Traffic} (h : Tracked st) (sessionId : Nat) :
    Tracked (st.cancelOne sessionId) := by
  refine ⟨h.nodup, ?_, h.found, ?_⟩
  · intro other member
    show other < (st.connections.modify sessionId Connection.cancel).length
    rw [List.length_modify]
    exact h.inRange other member
  · intro other c found
    simp only [Traffic.cancelOne, List.getElem?_modify] at found
    obtain ⟨c', found', same⟩ := Option.map_eq_some_iff.mp found
    show c.activity = if other ∈ st.sessions then 1 else 0
    rw [← h.activity other c' found', ← same]
    split
    · exact c'.activity_cancel
    · rfl

theorem Tracked.connection {cfg : Config} {st : Traffic} {sessionId : Nat} {e : ConnectionEvent}
    {c : Connection} {handling : Handling} (h : Tracked st) (there : st.connections[sessionId]? = some c)
    (returned : handling.thrown = none) (step : c.step cfg e = some handling) :
    Tracked
      (if handling.deleted then
        { st with connections := st.connections.set sessionId handling.connection }.deleteFromSessions sessionId
      else { st with connections := st.connections.set sessionId handling.connection }) := by
  have before := h.activity sessionId c there
  have moved := Connection.step_activity returned step
  have place := (List.getElem?_eq_some_iff.mp there).1
  have replaced : ∀ {other : Nat} {c' : Connection},
      (st.connections.set sessionId handling.connection)[other]? = some c' →
      other = sessionId ∧ c' = handling.connection ∨ other ≠ sessionId ∧ st.connections[other]? = some c' := by
    intro other c' found
    by_cases same : other = sessionId
    · rw [same, List.getElem?_set_self place] at found
      exact .inl ⟨same, (Option.some.inj found).symm⟩
    · rw [List.getElem?_set_ne (Ne.symm same)] at found
      exact .inr ⟨same, found⟩
  cases deleted : handling.deleted with
  | false =>
    rw [deleted] at moved
    refine ⟨h.nodup, ?_, h.found, ?_⟩
    · simpa using h.inRange
    · intro other c' found
      rcases replaced found with ⟨rfl, rfl⟩ | ⟨_, old⟩
      · exact moved.symm.trans before
      · exact h.activity other c' old
  | true =>
    rw [deleted] at moved
    -- something was under way, so the session is in the list
    have listed : sessionId ∈ st.sessions := by
      by_contra unlisted
      rw [if_neg unlisted] at before
      simp only [if_true] at moved
      omega
    rw [if_pos listed] at before
    simp only [if_true, Traffic.deleteFromSessions, listed]
    refine ⟨h.nodup.erase sessionId, ?_, h.found, ?_⟩
    · intro other member
      simpa using h.inRange other (List.mem_of_mem_erase member)
    · intro other c' found
      rcases replaced found with ⟨rfl, rfl⟩ | ⟨differ, old⟩
      · rw [if_neg (h.nodup.not_mem_erase)]
        simp only [if_true] at moved
        omega
      · rw [h.activity other c' old]
        simp only [List.mem_erase_of_ne differ]

theorem Tracked.step {cfg : Config} {st st' : Traffic} {e : TrafficEvent} (h : Tracked st)
    (returns : returningStep cfg st e = true) (step : st.step cfg e = some st') : Tracked st' := by
  cases Traffic.step_moves step with
  | acceptor e accepting creating => exact ⟨h.nodup, h.inRange, h.found, h.activity⟩
  | created creates => exact h.createSession
  | connection sessionId e c handling there moved =>
    have returned : handling.thrown = none := by simpa [returningStep, there, moved] using returns
    exact h.connection there returned moved
  | cancelled => exact Traffic.cancelAll_preserves (fun st sessionId here => here.cancelOne sessionId) h

/-- **The session list tracks the live dialogues.** With any number of operations and handlers a session
that could be under way, in every state of every run in which no handler is cut short: the
sessions in the list are distinct, each has exactly one handler executing or exactly one
operation pending, every other session has none, and `deleteFromSessions` has found its
session each time it was called. -/
theorem sessions_track_dialogues {cfg : Config} {es : List TrafficEvent} {st : Traffic}
    (returns : StepsMeet (Traffic.step cfg) (fun st e => returningStep cfg st e = true) {} es)
    (run : exec (Traffic.step cfg) {} es = some st) :
    st.sessions.Nodup ∧ st.erasedEnd = false ∧
    (∀ sessionId ∈ st.sessions, ∃ c, st.connections[sessionId]? = some c) ∧
    ∀ (sessionId : Nat) (c : Connection), st.connections[sessionId]? = some c →
      (sessionId ∈ st.sessions ∧
        ((∃ handler, c.executing = [handler] ∧ c.operations = []) ∨
          ∃ operation, c.executing = [] ∧ c.operations = [operation])) ∨
      (sessionId ∉ st.sessions ∧ c.executing = [] ∧ c.operations = []) := by
  have start : Tracked {} := ⟨List.nodup_nil, by simp, rfl, by simp⟩
  have tracked := exec_invariant_of Tracked _ (fun st e st' h returns step => h.step returns step) start returns run
  refine ⟨tracked.nodup, tracked.found, fun sessionId member => ?_, fun sessionId c found => ?_⟩
  · exact ⟨_, List.getElem?_eq_getElem (tracked.inRange sessionId member)⟩
  · have under := tracked.activity sessionId c found
    unfold Connection.activity at under
    by_cases listed : sessionId ∈ st.sessions
    · rw [if_pos listed] at under
      refine .inl ⟨listed, ?_⟩
      rcases Nat.eq_zero_or_pos c.operations.length with nonePending | onePending
      · obtain ⟨handler, one⟩ := List.length_eq_one_iff.mp (show c.executing.length = 1 by omega)
        exact .inl ⟨handler, one, List.length_eq_zero_iff.mp nonePending⟩
      · obtain ⟨operation, one⟩ := List.length_eq_one_iff.mp (show c.operations.length = 1 by omega)
        exact .inr ⟨operation, List.length_eq_zero_iff.mp (by omega), one⟩
    · rw [if_neg listed] at under
      exact .inr ⟨listed, List.length_eq_zero_iff.mp (by omega), List.length_eq_zero_iff.mp (by omega)⟩

/-- A session is accepted and sends `QUIT`; the sessions are cancelled while its reply is under way. -/
def quitTraffic : List TrafficEvent :=
  [.acceptDone false, .runAccept, .createSession, .connection 0 (.run 0 (fun _ => Mailbox.oneByteFiles) ∅),
    .connection 0 .startTimer, .connection 0 (.receive 0 (ascii "QUIT" ++ crlf)), .connection 0 (.call 0),
    .connection 0 (.run 0 (fun _ => Mailbox.oneByteFiles) ∅), .connection 0 (.sent 0), .cancelAll,
    .connection 0 (.call 0), .connection 0 (.run 0 (fun _ => Mailbox.oneByteFiles) ∅)]

theorem sessions_track_dialogues_quit :
    ∃ st c, exec (Traffic.step dummyConfig) {} quitTraffic = some st ∧ st.connections[0]? = some c ∧
      c.session.quitCommandReceived = true ∧ st.erasedEnd = false ∧ c.executing = [] ∧ c.operations = [] := by
  obtain ⟨st, c, run, found, quit, empty⟩ : ∃ st c,
      exec (Traffic.step dummyConfig) {} quitTraffic = some st ∧ st.connections[0]? = some c ∧
        c.session.quitCommandReceived = true ∧ st.sessions = [] := ⟨_, _, rfl, rfl, rfl, rfl⟩
  obtain ⟨_, neverMissed, _, each⟩ := sessions_track_dialogues (by decide) run
  rcases each 0 c found with ⟨listed, _⟩ | ⟨_, executing, operations⟩
  · simp [empty] at listed
  · exact ⟨st, c, run, found, quit, neverMissed, executing, operations⟩

end Pop3Serv.Net
