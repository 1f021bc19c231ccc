import Pop3Serv.Net.Lifetime
import Pop3Serv.Net.SessionList

/-!
# The server and its traffic

The server model gives each session one chain; `Traffic` lets anything be under way.
Every run of the server is a run of the traffic, a step of a session being one step of its
connection or two, the call of a handler and the handler itself. `deleteFromSessions`
erases the same session in both, since a chain that ends is one of a session in the list.
-/

namespace Pop3Serv.Net
open Proto Mail Logic

/-- A session object as a connection: its chain is what is under way. -/
def Dialogue.connection (d : Dialogue) : Connection where
  session := d.session
  timer := d.timer
  operations :=
    match d.control with
    | .reading op => [(.asyncReadUntil, op)]
    | .writing op => [(.asyncWrite d.session.response, op)]
    | _ => []
  executing :=
    match d.control with
    | .accepted => [.accept]
    | .loggingIn lock password => [.login lock password]
    | _ => []

def Server.traffic (st : Server) : Traffic where
  accepting := st.accepting
  creating := st.creating
  connections := st.objects.map (·.dialogue.connection)
  sessions := st.sessions

/-- A step of the connection, whether or not it is cut short by an exception. -/
def Connection.Does (cfg : Config) (c c' : Connection) (deleted : Bool) : Prop :=
  ∃ e thrown, c.step cfg e = some ⟨c', deleted, thrown⟩

/-- An executing handler that goes on, and leaves this connection. -/
theorem Connection.Does.of_run {cfg : Config} {s : POP3Session} {timer : Timer} {handler : Executing}
    {c' : Connection} {deleted : Bool} (fs : FileSystems) (active : ActiveMailboxes)
    (left : (Connection.handle cfg fs active ⟨s, [], [], timer⟩ handler).connection = c')
    (calls : (Connection.handle cfg fs active ⟨s, [], [], timer⟩ handler).deleted = deleted) :
    Connection.Does cfg ⟨s, [], [handler], timer⟩ c' deleted := by
  refine ⟨.run 0 fs active, (Connection.handle cfg fs active ⟨s, [], [], timer⟩ handler).thrown, ?_⟩
  rw [← left, ← calls]
  rfl

theorem Dialogue.connection_cancelSocket (d : Dialogue) (timer : Timer) :
    { d.connection.cancelSocket with timer } = Dialogue.connection { d with control := d.control.cancel, timer } := by
  unfold Dialogue.connection Connection.cancelSocket Control.cancel
  cases d.control <;> rfl

/-- A handler that ended, on the two levels. -/
theorem connection_handlerEnded {cfg : Config} {d : Dialogue} {fs : FileSystems} {ended : Ended}
    (started : ended.started = if ended.thrown = none then [.asyncWrite ended.session.response] else [])
    (parsed : ended.thrown = none → ∃ result, parsePOP3Command cfg.lex d.session.request = .ok result) :
    (Connection.ended ⟨d.session, [], [], d.timer⟩ ended).connection =
      (d.handlerEnded cfg fs ended).connection := by
  unfold Connection.ended
  simp only [started, List.nil_append]
  rcases handlerEnded_cases cfg d fs ended with ⟨result, _, same⟩ | ⟨fault, failed, same⟩
  · rw [same]
    unfold Dialogue.connection
    cases thrown : ended.thrown <;> simp
  · rw [same]
    unfold Dialogue.connection
    cases thrown : ended.thrown with
    | none =>
      obtain ⟨result, returned⟩ := parsed thrown
      cases failed.symm.trans returned
    | some fault => simp

theorem parsed_of_returned {cfg : Config} {fs : FileSystems} {active : ActiveMailboxes} {s : POP3Session}
    (returned : (s.readImpl cfg fs active).1.thrown = none) :
    ∃ result, parsePOP3Command cfg.lex s.request = .ok result := by
  unfold POP3Session.readImpl at returned
  cases parsed : parsePOP3Command cfg.lex s.request with
  | ok result => exact ⟨result, rfl⟩
  | error fault =>
    rw [parsed] at returned
    cases returned

theorem runRead_does {cfg : Config} {active : ActiveMailboxes} {d : Dialogue} {ec : Completion}
    (fs : FileSystems) :
    Connection.Does cfg ⟨d.session, [], [.completion .asyncReadUntil ec], d.timer⟩
      (d.runRead cfg active ec fs).dialogue.connection (d.runRead cfg active ec fs).deleted := by
  have same : (Connection.readHandler cfg fs active ⟨d.session, [], [], d.timer⟩ ec).connection =
      (d.runRead cfg active ec fs).dialogue.connection ∧
      (Connection.readHandler cfg fs active ⟨d.session, [], [], d.timer⟩ ec).deleted =
        (d.runRead cfg active ec fs).deleted := by
    unfold Connection.readHandler Dialogue.runRead
    by_cases success : ec = .success
    · rw [if_pos success, if_pos success]
      dsimp only
      cases pendingLogin cfg d.session with
      | some password => exact ⟨rfl, rfl⟩
      | none => exact ⟨connection_handlerEnded (readImpl_started cfg fs active d.session) parsed_of_returned, rfl⟩
    · rw [if_neg success, if_neg success]
      exact ⟨rfl, rfl⟩
  exact .of_run fs active same.1 same.2

theorem runLogin_does {cfg : Config} {active : ActiveMailboxes} {d : Dialogue} {lock : MailboxLock}
    {password : Bytes} (pending : d.LoginPending cfg) (loggingIn : d.control = .loggingIn lock password)
    (fs : FileSystems) :
    Connection.Does cfg ⟨d.session, [], [.login lock password], d.timer⟩
      (d.runLogin cfg active lock password fs).dialogue.connection
      (d.runLogin cfg active lock password fs).deleted := by
  obtain ⟨requested, _⟩ := pendingLogin_eq_some_iff.mp (pending lock password loggingIn).1
  refine .of_run fs active ?_ rfl
  apply connection_handlerEnded _ fun _ => ⟨_, requested⟩
  rw [Ended.write_started (POP3Session.finishPass_started fs _ _), Ended.write_thrown, Ended.write_session]

theorem runWrite_does {cfg : Config} {active : ActiveMailboxes} {d : Dialogue} {ec : Completion}
    {buffer : Bytes} :
    Connection.Does cfg ⟨d.session, [], [.completion (.asyncWrite buffer) ec], d.timer⟩
      (d.runWrite active ec).dialogue.connection (d.runWrite active ec).deleted := by
  have same : (Connection.writeHandler ⟨d.session, [], [], d.timer⟩ ec).connection =
      (d.runWrite active ec).dialogue.connection ∧
      (Connection.writeHandler ⟨d.session, [], [], d.timer⟩ ec).deleted = (d.runWrite active ec).deleted := by
    unfold Connection.writeHandler Dialogue.runWrite
    by_cases success : ec = .success
    · rw [if_pos success, if_pos success]
      dsimp only
      cases d.session.quitCommandReceived with
      | true => exact ⟨rfl, rfl⟩
      | false => exact ⟨rfl, rfl⟩
    · rw [if_neg success, if_neg success]
      exact ⟨rfl, rfl⟩
  exact .of_run (fun _ => Mailbox.oneByteFiles) active same.1 same.2

/-! ## A step of a session -/

theorem startTimer_does {cfg : Config} {d : Dialogue} (unset : d.timer = .unset) (goesOn : d.control ≠ .accepted) :
    Connection.Does cfg d.connection (Dialogue.connection { d with timer := .waiting .outstanding }) false := by
  have called : Executing.accept ∉ d.connection.executing := by
    unfold Dialogue.connection
    cases control : d.control <;> simp
    exact goesOn control
  have timer : d.connection.timer = .unset := unset
  refine ⟨.startTimer, none, ?_⟩
  simp only [Connection.step, timer]
  rw [if_neg called]
  rfl

theorem runTimer_does {cfg : Config} {d : Dialogue} {ec : Completion} (waiting : d.timer = .waiting (.queued ec))
    (idle : Bool) : Connection.Does cfg d.connection (d.runTimer ec idle).connection false := by
  have handled : d.connection.timerHandler ec idle = (d.runTimer ec idle).connection := by
    cases ec with
    | success =>
      cases idle with
      | true => exact d.connection_cancelSocket .stopped
      | false => rfl
    | aborted => rfl
    | failed => rfl
  have timer : d.connection.timer = .waiting (.queued ec) := waiting
  refine ⟨.runTimer idle, none, ?_⟩
  simp only [Connection.step, timer, handled]

/-- Bytes arrived: the read goes on, or has its line. -/
theorem receive_does {cfg : Config} {d : Dialogue} (reading : d.control = .reading .outstanding) (chunk : Bytes) :
    Connection.Does cfg d.connection
      (Dialogue.connection
        { d with
          session := { d.session with request := d.session.request ++ chunk }
          control :=
            .reading (if lineReceived (d.session.request ++ chunk) then .queued .success else .outstanding) })
      false := by
  refine ⟨.receive 0 chunk, none, ?_⟩
  simp only [Connection.step, Dialogue.connection, reading, Connection.complete]
  by_cases done : lineReceived (d.session.request ++ chunk) = true
  · simp [done]
  · simp [done]

/-- **A step of a session is a step of its connection**, or the call of a handler and the handler. -/
theorem step_does {cfg : Config} {active : ActiveMailboxes} {d : Dialogue} {e : SessionEvent}
    {stepped : Stepped} (pending : d.LoginPending cfg) (notCancel : e ≠ .cancel)
    (h : d.step cfg active e = some stepped) :
    Connection.Does cfg d.connection stepped.dialogue.connection stepped.deleted ∨
      ∃ called, Connection.Does cfg d.connection called false ∧
        Connection.Does cfg called stepped.dialogue.connection stepped.deleted := by
  cases e with
  | startRead =>
    simp only [Dialogue.step] at h
    split at h
    · rename_i accepted
      cases h
      refine .inl ⟨.run 0 (fun _ => Mailbox.oneByteFiles) ∅, none, ?_⟩
      simp [Connection.step, Dialogue.connection, accepted, Connection.handle, Connection.start]
    · cases h
  | startTimer =>
    simp only [Dialogue.step] at h
    split at h
    · cases h
    · rename_i unset goesOn
      cases h
      exact .inl (startTimer_does unset goesOn)
    · cases h
  | receive chunk =>
    simp only [Dialogue.step] at h
    split at h
    · rename_i reading
      cases h
      exact .inl (receive_does reading chunk)
    · cases h
  | failRead =>
    simp only [Dialogue.step] at h
    split at h
    · rename_i reading
      cases h
      refine .inl ⟨.fail 0, none, ?_⟩
      simp [Connection.step, Dialogue.connection, reading, Connection.complete]
    · cases h
  | runRead fs =>
    simp only [Dialogue.step] at h
    split at h
    · rename_i ec reading
      cases h
      refine .inr ⟨⟨d.session, [], [.completion .asyncReadUntil ec], d.timer⟩, ⟨.call 0, none, ?_⟩, runRead_does fs⟩
      simp [Connection.step, Dialogue.connection, reading]
    · cases h
  | runLogin fs =>
    simp only [Dialogue.step] at h
    split at h
    · rename_i lock password loggingIn
      cases h
      have here : d.connection = ⟨d.session, [], [.login lock password], d.timer⟩ := by
        simp [Dialogue.connection, loggingIn]
      rw [here]
      exact .inl (runLogin_does pending loggingIn fs)
    · cases h
  | sent =>
    simp only [Dialogue.step] at h
    split at h
    · rename_i writing
      cases h
      refine .inl ⟨.sent 0, none, ?_⟩
      simp [Connection.step, Dialogue.connection, writing, Connection.complete]
    · cases h
  | failWrite =>
    simp only [Dialogue.step] at h
    split at h
    · rename_i writing
      cases h
      refine .inl ⟨.fail 0, none, ?_⟩
      simp [Connection.step, Dialogue.connection, writing, Connection.complete]
    · cases h
  | runWrite =>
    simp only [Dialogue.step] at h
    split at h
    · rename_i ec writing
      cases h
      refine .inr ⟨⟨d.session, [], [.completion (.asyncWrite d.session.response) ec], d.timer⟩,
        ⟨.call 0, none, ?_⟩, runWrite_does⟩
      simp [Connection.step, Dialogue.connection, writing]
    · cases h
  | expire =>
    simp only [Dialogue.step] at h
    split at h
    · rename_i waiting
      cases h
      refine .inl ⟨.expire, none, ?_⟩
      simp [Connection.step, Dialogue.connection, waiting]
    · cases h
  | failTimer =>
    simp only [Dialogue.step] at h
    split at h
    · rename_i waiting
      cases h
      refine .inl ⟨.failTimer, none, ?_⟩
      simp [Connection.step, Dialogue.connection, waiting]
    · cases h
  | runTimer idle =>
    simp only [Dialogue.step] at h
    split at h
    · rename_i ec waiting
      cases h
      exact .inl (runTimer_does waiting idle)
    · cases h
  | cancel => exact absurd rfl notCancel

/-! ## The whole server -/

/-- A step of one connection, in the traffic. -/
def Traffic.after (st : Traffic) (sessionId : Nat) (c : Connection) (deleted : Bool) : Traffic :=
  if deleted then { st with connections := st.connections.set sessionId c }.deleteFromSessions sessionId
  else { st with connections := st.connections.set sessionId c }

theorem Connection.Does.exec {cfg : Config} {st : Traffic} {sessionId : Nat} {c c' : Connection} {deleted : Bool}
    (does : Connection.Does cfg c c' deleted) (there : st.connections[sessionId]? = some c) :
    ∃ e, st.step cfg (.connection sessionId e) = some (st.after sessionId c' deleted) := by
  obtain ⟨e, thrown, step⟩ := does
  refine ⟨e, ?_⟩
  simp only [Traffic.step, there, step]
  rfl

theorem Server.traffic_connection {st : Server} {sessionId : Nat} {d : Dialogue}
    {released : Option (Except Fault (List Path))} (found : st.objects[sessionId]? = some ⟨d, released⟩) :
    st.traffic.connections[sessionId]? = some d.connection := by
  show (st.objects.map _)[sessionId]? = _
  rw [List.getElem?_map, found]
  rfl

/-- A step of a session, its destruction included, as the traffic sees it. -/
theorem Server.traffic_settle {st : Server} {sessionId : Nat} {stepped : Stepped}
    (listed : stepped.deleted = true → sessionId ∈ st.sessions) :
    ((st.between sessionId stepped).settle sessionId stepped.dialogue).traffic =
      st.traffic.after sessionId stepped.dialogue.connection stepped.deleted := by
  rw [Server.settle_eq]
  unfold Server.traffic Server.between Traffic.after
  simp only [List.map_set]
  cases deleted : stepped.deleted with
  | false => rfl
  | true => simp only [if_true, Traffic.deleteFromSessions, listed deleted]

theorem Server.stepSession_simulated {cfg : Config} {st st' : Server} {sessionId : Nat} {e : SessionEvent}
    (reachable : Reachable (Server.step cfg) {} st) (notCancel : e ≠ .cancel)
    (step : st.stepSession cfg sessionId e = some st') :
    ∃ es, exec (Traffic.step cfg) st.traffic es = some st'.traffic := by
  obtain ⟨d, stepped, lives, moved, rfl⟩ := Server.stepSession_cases step
  have reached := Server.objects_reached reachable sessionId _ lives
  have listed : stepped.deleted = true → sessionId ∈ st.sessions := by
    intro deleted
    refine ((Server.lifetimes reachable).listed sessionId _ lives).mpr ?_
    cases step_ending moved with
    | ends goesOn ended _ => exact goesOn
    | stays same kept => rw [kept] at deleted; cases deleted
  rw [Server.traffic_settle listed]
  have there := Server.traffic_connection lives
  rcases step_does reached.loginPending notCancel moved with does | ⟨called, does, goesOn⟩
  · obtain ⟨e₁, step₁⟩ := does.exec there
    exact ⟨[.connection sessionId e₁], by simp [exec_cons, step₁]⟩
  · have place := (List.getElem?_eq_some_iff.mp there).1
    obtain ⟨e₁, step₁⟩ := does.exec there
    have there' : (st.traffic.after sessionId called false).connections[sessionId]? = some called :=
      List.getElem?_set_self place
    obtain ⟨e₂, step₂⟩ := goesOn.exec there'
    refine ⟨[.connection sessionId e₁, .connection sessionId e₂], ?_⟩
    simp only [exec_cons, exec_nil, step₁, step₂, Option.bind_some, Option.some.injEq]
    unfold Traffic.after
    cases stepped.deleted <;> simp

/-- Cancelling one session of the list, on the two levels. -/
theorem Server.traffic_cancelOne (cfg : Config) {st : Server} (lifetimes : Lifetimes st) {sessionId : Nat}
    (member : sessionId ∈ st.sessions) :
    (st.cancelOne cfg sessionId).traffic = st.traffic.cancelOne sessionId ∧
      Lifetimes (st.cancelOne cfg sessionId) ∧ (st.cancelOne cfg sessionId).sessions = st.sessions := by
  obtain ⟨⟨d, released⟩, found⟩ : ∃ o, st.objects[sessionId]? = some o :=
    ⟨_, List.getElem?_eq_getElem (lifetimes.inRange sessionId member)⟩
  obtain rfl : released = none := (lifetimes.held sessionId _ found).mpr (.inl member)
  simp only [Server.cancelOne_sessions, and_true]
  unfold Server.cancelOne
  cases step : st.stepSession cfg sessionId .cancel with
  | none => cases step.symm.trans (Server.stepSession_eq found rfl)
  | some st' =>
    refine ⟨?_, lifetimes.stepSession step⟩
    obtain ⟨d', stepped, lives, moved, rfl⟩ := Server.stepSession_cases step
    cases lives.symm.trans found
    cases moved
    show (Server.settle (st.between sessionId _) sessionId _).traffic = _
    rw [Server.traffic_settle (by simp)]
    unfold Traffic.after Traffic.cancelOne
    simp only [Bool.false_eq_true, if_false]
    congr 1
    rw [List.modify_eq_set_getElem?, Server.traffic_connection found]
    show _ = st.traffic.connections.set sessionId d.connection.cancel
    rw [← d.connection_cancelSocket d.timer.cancel]
    rfl

theorem Server.traffic_cancelAll {cfg : Config} {st : Server} (lifetimes : Lifetimes st) :
    (st.cancelAll cfg).traffic = st.traffic.cancelAll := by
  have all : ∀ (ids : List Nat) (st : Server), Lifetimes st → (∀ sessionId ∈ ids, sessionId ∈ st.sessions) →
      (ids.foldl (Server.cancelOne cfg) st).traffic = ids.foldl Traffic.cancelOne st.traffic := by
    intro ids
    induction ids with
    | nil => exact fun st _ _ => rfl
    | cons sessionId ids ih =>
      intro st lifetimes members
      obtain ⟨same, lifetimes', sessions⟩ :=
        Server.traffic_cancelOne cfg lifetimes (members sessionId List.mem_cons_self)
      rw [List.foldl_cons, List.foldl_cons, ← same]
      refine ih _ lifetimes' fun other member => ?_
      rw [sessions]
      exact members other (List.mem_cons_of_mem _ member)
  exact all st.sessions st lifetimes fun _ member => member

theorem Server.step_simulated {cfg : Config} {st st' : Server} {e : Event}
    (reachable : Reachable (Server.step cfg) {} st) (step : st.step cfg e = some st') :
    ∃ es, exec (Traffic.step cfg) st.traffic es = some st'.traffic := by
  cases Server.step_moves step with
  | acceptDone failed waiting =>
    have waiting : st.traffic.accepting = some .outstanding := waiting
    exact ⟨[.acceptDone failed], by simp only [exec_cons, Traffic.step, waiting]; rfl⟩
  | runAccept ec queued =>
    have queued : st.traffic.accepting = some (.queued ec) := queued
    refine ⟨[.runAccept], ?_⟩
    simp only [exec_cons, Traffic.step, queued]
    cases ec <;> rfl
  | created creates =>
    have creates : 0 < st.traffic.creating := creates
    refine ⟨[.createSession], ?_⟩
    simp only [exec_cons, Traffic.step, creates, if_true, exec_nil, Option.bind_some, Option.some.injEq]
    simp [Server.traffic, Server.createSession, Traffic.createSession, Dialogue.connection]
  | session sessionId e _ notCancel moved => exact Server.stepSession_simulated reachable notCancel moved
  | sessionsCancelled running =>
    refine ⟨[.cancelAll], ?_⟩
    simp only [exec_cons, Traffic.step, exec_nil, Option.bind_some, Option.some.injEq]
    exact (Server.traffic_cancelAll (Server.lifetimes reachable)).symm
  | acceptorCancelled after => exact ⟨[.cancelAcceptor], rfl⟩

/-- **Every run of the server is a run of its traffic.** -/
theorem Server.run_simulated {cfg : Config} {es : List Event} {st : Server}
    (run : exec (Server.step cfg) {} es = some st) :
    ∃ es', exec (Traffic.step cfg) {} es' = some st.traffic := by
  induction es using List.reverseRecOn generalizing st with
  | nil => cases run; exact ⟨[], rfl⟩
  | append_singleton es e ih =>
    obtain ⟨before, run, step⟩ := exec_snoc_some run
    obtain ⟨es₁, first⟩ := ih run
    obtain ⟨es₂, last⟩ := Server.step_simulated ⟨es, run⟩ step
    refine ⟨es₁ ++ es₂, ?_⟩
    rw [exec_append, first]
    exact last

end Pop3Serv.Net
