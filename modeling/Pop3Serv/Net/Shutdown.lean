import Pop3Serv.Net.Lifetime

/-!
# Shutdown

`Server::cancel` cancels the operations of the sessions that are in the list, then
the pending accept. What is outstanding at that moment ends with an error, and an
error ends the chain; a handler that is executing or queued at that moment goes on
and starts its next operation, which nobody cancels. `orderlyStep` says that there
is no such handler. Then every chain is `finishing` from `cancelAll` on, and a
finishing chain starts nothing.
-/

namespace Pop3Serv.Net
open Proto Mail Logic

/-- The chain ends with its next handler, or is over. -/
def Control.finishing (quit : Bool) : Control → Bool
  | .reading (.queued ec) => ec ≠ .success
  | .writing (.queued ec) => ec ≠ .success || quit
  | .ended => true
  | .escaped => true
  | _ => false

def Dialogue.finishing (d : Dialogue) : Bool := d.control.finishing d.session.quitCommandReceived

/-- The step is no cancellation that comes too early for a handler, and no session is created
after the cancellation. -/
def orderlyStep (st : Server) : Event → Bool
  | .cancelAll => st.objects.all fun o => o.dialogue.control.cancel.finishing o.dialogue.session.quitCommandReceived
  | .createSession => st.console = .running
  | .cancelAcceptor => st.accepting = some .outstanding
  | _ => true

/-- No read or write handler of the session is executing or queued. -/
def Control.quiet : Control → Bool
  | .reading .outstanding => true
  | .writing .outstanding => true
  | .ended => true
  | .escaped => true
  | _ => false

def Timer.quiet : Timer → Bool
  | .waiting .outstanding => true
  | .stopped => true
  | _ => false

/-- No handler is executing, and none is queued. -/
def Server.quiet (st : Server) : Bool :=
  (st.accepting = none || st.accepting = some .outstanding) && st.creating = 0 &&
    st.objects.all fun o => o.dialogue.control.quiet && o.dialogue.timer.quiet

theorem Control.Same.finishing {control control' : Control} {quit : Bool} (same : control.Same control')
    (h : control.finishing quit = true) : control'.finishing quit = true := by
  cases same with
  | refl => exact h
  | reading ec failed => simp [Control.finishing] at h
  | writing ec => simp [Control.finishing] at h

/-- **A finishing chain starts nothing.** -/
theorem step_finishing {cfg : Config} {active : ActiveMailboxes} {d : Dialogue} {e : SessionEvent}
    {stepped : Stepped} (h : d.finishing = true) (step : d.step cfg active e = some stepped) :
    stepped.dialogue.finishing = true := by
  unfold Dialogue.finishing at h
  cases step_stepping step with
  | operation control timer same silent => exact same.finishing h
  | readStarted event accepted => simp [accepted, Control.finishing] at h
  | received chunk event reading => simp [reading, Control.finishing] at h
  | runRead ec fs event reading =>
    have failed : ec ≠ .success := by simpa [reading, Control.finishing] using h
    unfold Dialogue.runRead
    rw [if_neg failed]
    rfl
  | runLogin lock password fs event loggingIn => simp [loggingIn, Control.finishing] at h
  | runWrite ec event writing =>
    have quits : ec = .success → d.session.quitCommandReceived = true := by
      simpa [writing, Control.finishing, or_iff_not_imp_left] using h
    unfold Dialogue.runWrite
    split
    · rename_i success
      rw [if_pos (quits success)]
      rfl
    · rfl

/-- While `cancelAll` is at work: a chain is finishing, or it is one of a session still to be cancelled,
and will be. -/
def Cancelling (ids : List Nat) (st : Server) : Prop :=
  st.All fun sessionId o => o.dialogue.finishing = true ∨
    sessionId ∈ ids ∧ o.released = none ∧
      o.dialogue.control.cancel.finishing o.dialogue.session.quitCommandReceived = true

theorem Cancelling.cancelOne {cfg : Config} {sessionId : Nat} {ids : List Nat} {st : Server}
    (h : Cancelling (sessionId :: ids) st) : Cancelling ids (st.cancelOne cfg sessionId) := by
  unfold Server.cancelOne
  cases step : st.stepSession cfg sessionId .cancel with
  | none =>
    show Cancelling ids st
    intro other o found
    rcases h other o found with finishing | ⟨member, alive, cancels⟩
    · exact .inl finishing
    · rcases List.mem_cons.mp member with rfl | later
      · obtain ⟨d, released⟩ := o
        cases alive
        cases step.symm.trans (Server.stepSession_eq found rfl)
      · exact .inr ⟨later, alive, cancels⟩
  | some st' =>
    obtain ⟨d, stepped, lives, moved, rfl⟩ := Server.stepSession_cases step
    cases moved
    show Cancelling ids (Server.settle _ sessionId _)
    rw [Server.settle_eq]
    intro other o found
    rcases Server.object_set_cases found with ⟨rfl, rfl⟩ | ⟨differ, old⟩
    · left
      rcases h other _ lives with finishing | ⟨_, _, cancels⟩
      · exact d.control.same_cancel.finishing finishing
      · exact cancels
    · rcases h other o old with finishing | ⟨member, alive, cancels⟩
      · exact .inl finishing
      · exact .inr ⟨(List.mem_cons.mp member).resolve_left differ, alive, cancels⟩

/-- After an orderly `cancelAll` every chain is finishing. -/
theorem cancelAll_finishing {cfg : Config} {st : Server} (lifetimes : Lifetimes st)
    (orderly : orderlyStep st .cancelAll = true) :
    (st.cancelAll cfg).All fun _ o => o.dialogue.finishing = true := by
  have start : Cancelling st.sessions st := by
    intro sessionId o found
    by_cases listed : sessionId ∈ st.sessions
    · have alive := (lifetimes.held sessionId o found).mpr (.inl listed)
      exact .inr ⟨listed, alive, List.all_eq_true.mp orderly o (List.mem_of_getElem? found)⟩
    · have ended : o.dialogue.control = .ended :=
        not_not.mp fun goesOn => listed ((lifetimes.listed sessionId o found).mpr goesOn)
      left
      rw [Dialogue.finishing, ended]
      rfl
  have all : ∀ (ids : List Nat) (st : Server), Cancelling ids st →
      Cancelling [] (ids.foldl (Server.cancelOne cfg) st) := by
    intro ids
    induction ids with
    | nil => exact fun st h => h
    | cons sessionId ids ih => exact fun st h => ih _ h.cancelOne
  intro sessionId o found
  rcases all st.sessions st start sessionId o found with finishing | ⟨member, _⟩
  · exact finishing
  · exact absurd member List.not_mem_nil

/-- What holds in every state of an orderly run. -/
structure ShuttingDown (cfg : Config) (st : Server) : Prop where
  reachable : Reachable (Server.step cfg) {} st
  sessions : st.console ≠ .running → st.All fun _ o => o.dialogue.finishing = true
  acceptor : st.console = .cancelled → st.accepting = none ∨ st.accepting = some (.queued .aborted)

/-- After `cancel` no accept is outstanding, and none is queued but the aborted one. -/
theorem ShuttingDown.aborted {cfg : Config} {st : Server} {op : Pending} (h : ShuttingDown cfg st)
    (cancelled : st.console = .cancelled) (accepting : st.accepting = some op) : op = .queued .aborted := by
  rcases h.acceptor cancelled with closed | aborted
  · cases accepting.symm.trans closed
  · exact Option.some.inj (accepting.symm.trans aborted)

theorem ShuttingDown.step {cfg : Config} {st st' : Server} {e : Event} (h : ShuttingDown cfg st)
    (orderly : orderlyStep st e = true) (step : st.step cfg e = some st') : ShuttingDown cfg st' := by
  have reachable := h.reachable.snoc step
  cases Server.step_moves step with
  | acceptDone failed waiting =>
    exact ⟨reachable, h.sessions, fun cancelled => by cases h.aborted cancelled waiting⟩
  | runAccept ec queued =>
    cases ec with
    | aborted => exact ⟨reachable, h.sessions, fun _ => .inl rfl⟩
    | success => exact ⟨reachable, h.sessions, fun cancelled => by cases h.aborted cancelled queued⟩
    | failed => exact ⟨reachable, h.sessions, fun cancelled => by cases h.aborted cancelled queued⟩
  | created creates =>
    have running : st.console = .running := by simpa [orderlyStep] using orderly
    refine ⟨reachable, fun cancelled => absurd running cancelled, fun cancelled => ?_⟩
    cases running.symm.trans cancelled
  | session sessionId e _ notCancel settled =>
    obtain ⟨d, stepped, lives, moved, rfl⟩ := Server.stepSession_cases settled
    rw [Server.settle_eq] at reachable ⊢
    refine ⟨reachable, fun cancelled => ?_, h.acceptor⟩
    have before := h.sessions cancelled
    exact before.set (step_finishing (before sessionId _ lives) moved)
  | sessionsCancelled running =>
    refine ⟨reachable, fun _ => ?_, fun cancelled => by cases cancelled⟩
    exact cancelAll_finishing (Server.lifetimes h.reachable) orderly
  | acceptorCancelled after =>
    refine ⟨reachable, fun _ => h.sessions (by rw [after]; decide), fun _ => .inr ?_⟩
    have waiting : st.accepting = some .outstanding := by simpa [orderlyStep] using orderly
    show st.accepting.map Pending.cancel = _
    rw [waiting]
    rfl

/-- **Shutdown leaves nothing running.** In a run in which no handler of a session or of the acceptor is
executing or queued when its operations are cancelled, and no session is created after
`cancelAll`: once `cancel` has returned and no handler is executing or queued, every session's
chain is over and no accept is pending. -/
theorem shutdown_leaves_nothing {cfg : Config} {es : List Event} {st : Server}
    (orderly : StepsMeet (Server.step cfg) (fun st e => orderlyStep st e = true) {} es)
    (run : exec (Server.step cfg) {} es = some st) (cancelled : st.console = .cancelled)
    (quiet : st.quiet = true) :
    (∀ o ∈ st.objects, o.dialogue.control = .ended ∨ o.dialogue.control = .escaped) ∧
      st.accepting = none := by
  have start : ShuttingDown cfg {} := ⟨.refl _, by simp, by simp⟩
  have down := exec_invariant_of (ShuttingDown cfg) _ (fun st e st' h orderly step => h.step orderly step)
    start orderly run
  simp only [Server.quiet, Bool.and_eq_true, Bool.or_eq_true, decide_eq_true_eq, List.all_eq_true] at quiet
  obtain ⟨⟨accepting, _⟩, sessions⟩ := quiet
  constructor
  · intro o member
    obtain ⟨sessionId, found⟩ := List.mem_iff_getElem?.mp member
    have finishing := down.sessions (by rw [cancelled]; decide) sessionId o found
    have idle := (sessions o member).1
    unfold Dialogue.finishing at finishing
    cases control : o.dialogue.control with
    | ended => exact .inl rfl
    | escaped => exact .inr rfl
    | reading op => cases op <;> simp [control, Control.finishing, Control.quiet] at finishing idle
    | writing op => cases op <;> simp [control, Control.finishing, Control.quiet] at finishing idle
    | accepted => simp [control, Control.quiet] at idle
    | loggingIn lock password => simp [control, Control.quiet] at idle
  · rcases down.acceptor cancelled with closed | aborted
    · exact closed
    · simp [aborted] at accepting

/-- A session waits for a request when the console says quit. -/
def quitWhileReading : List Event :=
  [.acceptDone false, .runAccept, .createSession, .session 0 .startRead, .session 0 .startTimer, .cancelAll,
    .cancelAcceptor, .runAccept, .session 0 (.runRead fun _ => Mailbox.oneByteFiles), .session 0 (.runTimer false)]

theorem shutdown_leaves_nothing_reading :
    ∃ st, exec (Server.step dummyConfig) {} quitWhileReading = some st ∧ st.objects.length = 1 ∧
      (∀ o ∈ st.objects, o.dialogue.control = .ended ∨ o.dialogue.control = .escaped) ∧
        st.accepting = none := by
  obtain ⟨st, run, one, cancelled, quiet⟩ : ∃ st,
      exec (Server.step dummyConfig) {} quitWhileReading = some st ∧ st.objects.length = 1 ∧
        st.console = .cancelled ∧ st.quiet = true := ⟨_, rfl, rfl, rfl, rfl⟩
  exact ⟨st, run, one, shutdown_leaves_nothing (by decide) run cancelled quiet⟩

/-- The session's reply has just been sent, so that the handler of its write is queued. -/
def quitWhileReplying : List Event :=
  [.acceptDone false, .runAccept, .createSession, .session 0 .startRead, .session 0 .startTimer,
    .session 0 (.receive (ascii "NOOP" ++ crlf)), .session 0 (.runRead fun _ => Mailbox.oneByteFiles),
    .session 0 .sent, .cancelAll, .cancelAcceptor, .runAccept, .session 0 .runWrite,
    .session 0 (.runTimer false)]

/-- Nothing is executing or queued any more, and the session waits for its next request. -/
theorem session_left_reading :
    ∃ st o, exec (Server.step dummyConfig) {} quitWhileReplying = some st ∧ st.console = .cancelled ∧
      st.quiet = true ∧ st.objects[0]? = some o ∧ o.dialogue.control = .reading .outstanding :=
  ⟨_, _, rfl, rfl, rfl, rfl, rfl⟩

/-- A client connects while the sessions are being cancelled: the accept handler is queued when
the acceptor is cancelled, and starts the next accept. -/
theorem accept_left_pending :
    ∃ st, exec (Server.step dummyConfig) {} [.cancelAll, .acceptDone true, .cancelAcceptor, .runAccept] = some st ∧
      st.console = .cancelled ∧ st.quiet = true ∧ st.accepting = some .outstanding :=
  ⟨_, rfl, rfl, rfl, rfl⟩

end Pop3Serv.Net
