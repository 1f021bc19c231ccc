import Pop3Serv.Net.Shutdown
import Pop3Serv.Net.Answers

/-!
# The worker threads

`ConsoleServerController::Run`: a pool of threads in `io_context.run()`, and the console
thread, which reads words until one is `quit`. A handler runs on a thread of its own
until it returns; an exception that leaves it leaves `run()` too, and that thread is gone.
`run()` returns when the context has no work left. `Workers` is the account of the
threads that every run keeps. A run goes up to where `Run` returns: what becomes of
handlers still pending when its `io_context` is destroyed is not part of it.
-/

namespace Pop3Serv.Logic

/-- One element of a list replaced, in a sum over the list. -/
theorem sum_map_set {α : Type*} {l : List α} {i : Nat} {b : α} (f : α → Nat) (at_i : l[i]? = some b) (a : α) :
    ((l.set i a).map f).sum + f b = (l.map f).sum + f a := by
  induction l generalizing i with
  | nil => cases at_i
  | cons c l ih =>
    cases i with
    | zero =>
      cases at_i
      simp only [List.set_cons_zero, List.map_cons, List.sum_cons]
      omega
    | succ i =>
      have rest := ih (by simpa using at_i)
      simp only [List.set_cons_succ, List.map_cons, List.sum_cons]
      omega

end Pop3Serv.Logic

namespace Pop3Serv.Net
open Proto Mail Logic

/-- `boost::algorithm::to_lower` in the C locale. -/
def toLower (word : Bytes) : Bytes := word.map fun b => if 65 ≤ b ∧ b ≤ 90 then b + 32 else b

/-- The number of threads `Run` starts. -/
def poolSize (thread_pool_size hardware_concurrency : UInt32) : UInt32 :=
  if thread_pool_size = 0 then max 2 (hardware_concurrency * 2) else thread_pool_size

/-- A login under way, its handler executing. -/
def Control.inLogin : Control → Bool
  | .loggingIn _ _ => true
  | _ => false

/-- The handlers executing on a session: the accept handler until it has called `startTimer()`, and
the read handler of a login. -/
def Dialogue.executing (d : Dialogue) : Nat :=
  (if d.timer = .unset then 1 else 0) + (if d.control.inLogin then 1 else 0)

/-- The event ends a handler of a request. -/
def SessionEvent.handles : SessionEvent → Bool
  | .runRead _ | .runLogin _ => true
  | _ => false

/-- The event is the start of a handler, or the whole of it. -/
def Event.starts : Event → Bool
  | .runAccept | .session _ (.runRead _) | .session _ .runWrite | .session _ (.runTimer _) => true
  | _ => false

namespace Server

/-- The handlers that are executing. -/
def executing (st : Server) : Nat := st.creating + (st.objects.map (·.dialogue.executing)).sum

/-- The sessions an exception has left behind. -/
def escaped (st : Server) : Nat :=
  (st.objects.map fun o => if o.dialogue.control = .escaped then 1 else 0).sum

/-- Nothing is pending, and no handler is executing or queued. -/
def workless (st : Server) : Bool :=
  st.accepting = none && st.creating = 0 && st.objects.all fun o =>
    (o.dialogue.control = .ended || o.dialogue.control = .escaped) && o.dialogue.timer = .stopped

/-- An exception has left the handler that has just run. -/
def threw (st' : Server) : Event → Bool
  | .session sessionId e => e.handles && st'.objects[sessionId]?.map (·.dialogue.control) = some .escaped
  | _ => false

end Server

structure Process where
  server : Server := {}
  /-- threads inside `run()` -/
  running : Nat
  /-- threads whose `run()` has returned -/
  returned : Nat := 0
  /-- threads whose `run()` has thrown -/
  failed : Nat := 0
  /-- the words read from `std::cin`, newest first -/
  commands : List Bytes := []

inductive ProcessEvent where
  | io (e : Event)
  /-- `std::cin >> command`; at the end of the input the word is empty -/
  | command (word : Bytes)
  /-- a thread's `run()` returns -/
  | workerReturns

namespace Process

/-- `Run`, once the threads have been started. -/
def start (thread_pool_size hardware_concurrency : UInt32) : Process :=
  { running := (poolSize thread_pool_size hardware_concurrency).toNat }

/-- The last word read ends the console's loop. -/
def quitRead (p : Process) : Bool := p.commands.head?.map toLower = some (ascii "quit")

/-- A handler starts on a thread that is not executing another, and `Server::cancel` after `quit`. -/
def admits (p : Process) (e : Event) : Bool :=
  (!e.starts || p.server.executing < p.running) &&
    match e with
    | .cancelAll => p.quitRead
    | _ => true

def step (cfg : Config) (p : Process) : ProcessEvent → Option Process
  | .io e =>
    if p.admits e then
      match p.server.step cfg e with
      | some server =>
        if server.threw e then some { p with server, running := p.running - 1, failed := p.failed + 1 }
        else some { p with server }
      | none => none
    else none
  | .command word =>
    if p.server.console = .running ∧ p.quitRead = false then some { p with commands := word :: p.commands }
    else none
  | .workerReturns =>
    if 0 < p.running ∧ p.server.workless then
      some { p with running := p.running - 1, returned := p.returned + 1 }
    else none

/-- The forms of a step. -/
inductive Moves (cfg : Config) (p : Process) : ProcessEvent → Process → Prop
  | io (e : Event) (server : Server) (admitted : p.admits e = true) (moved : p.server.step cfg e = some server)
      (returned : server.threw e = false) : Moves cfg p (.io e) { p with server }
  | failed (e : Event) (server : Server) (admitted : p.admits e = true)
      (moved : p.server.step cfg e = some server) (threw : server.threw e = true) :
      Moves cfg p (.io e) { p with server, running := p.running - 1, failed := p.failed + 1 }
  | command (word : Bytes) (running : p.server.console = .running) (goesOn : p.quitRead = false) :
      Moves cfg p (.command word) { p with commands := word :: p.commands }
  | workerReturns (left : 0 < p.running) (workless : p.server.workless = true) :
      Moves cfg p .workerReturns { p with running := p.running - 1, returned := p.returned + 1 }

/-- **Every step has one of these forms.** -/
theorem step_moves {cfg : Config} {p p' : Process} {e : ProcessEvent} (h : p.step cfg e = some p') :
    Moves cfg p e p' := by
  cases e with
  | io e =>
    simp only [step] at h
    split at h
    · rename_i admitted
      split at h
      · rename_i server moved
        split at h
        · rename_i threw
          cases h
          exact .failed e server admitted moved threw
        · rename_i returned
          cases h
          exact .io e server admitted moved (by simpa using returned)
      · cases h
    · cases h
  | command word =>
    simp only [step] at h
    split at h
    · rename_i waits
      cases h
      exact .command word waits.1 waits.2
    · cases h
  | workerReturns =>
    simp only [step] at h
    split at h
    · rename_i leaves
      cases h
      exact .workerReturns leaves.1 leaves.2
    · cases h

/-- What a run of the process does on the server. -/
def serverEvents (es : List ProcessEvent) : List Event :=
  es.filterMap fun
    | .io e => some e
    | _ => none

/-- **A run of the process is a run of its server.** -/
theorem exec_server {cfg : Config} {p p' : Process} {es : List ProcessEvent}
    (run : exec (step cfg) p es = some p') :
    exec (Server.step cfg) p.server (serverEvents es) = some p'.server := by
  induction es generalizing p with
  | nil => cases run; rfl
  | cons e es ih =>
    obtain ⟨next, first, rest⟩ := Option.bind_eq_some_iff.mp (exec_cons p e es ▸ run)
    have later := ih rest
    cases step_moves first with
    | io e server admitted moved returned =>
      show exec (Server.step cfg) p.server (e :: serverEvents es) = _
      rw [exec_cons, moved]
      exact later
    | failed e server admitted moved threw =>
      show exec (Server.step cfg) p.server (e :: serverEvents es) = _
      rw [exec_cons, moved]
      exact later
    | command word running goesOn => exact later
    | workerReturns left workless => exact later

theorem reachable_server {cfg : Config} {thread_pool_size hardware_concurrency : UInt32} {p : Process}
    (reachable : Reachable (step cfg) (start thread_pool_size hardware_concurrency) p) :
    Reachable (Server.step cfg) {} p.server := by
  obtain ⟨es, run⟩ := reachable
  exact ⟨serverEvents es, exec_server run⟩

end Process

/-! ## What a step does to the handlers that are executing -/

/-- The event completes an operation, or cancels it; no handler runs. -/
def SessionEvent.completes : SessionEvent → Bool
  | .receive _ | .failRead | .sent | .failWrite | .expire | .failTimer | .cancel => true
  | _ => false

/-- What a completion leaves as it was. -/
structure Completes (active : ActiveMailboxes) (d : Dialogue) (stepped : Stepped) : Prop where
  active : stepped.active = active
  kept : stepped.deleted = false
  log : stepped.dialogue.log = d.log
  mailbox : stepped.dialogue.session.mailbox = d.session.mailbox
  inLogin : stepped.dialogue.control.inLogin = d.control.inLogin
  accepted : stepped.dialogue.control = .accepted ↔ d.control = .accepted
  ended : stepped.dialogue.control = .ended ↔ d.control = .ended
  escaped : stepped.dialogue.control = .escaped ↔ d.control = .escaped
  unset : stepped.dialogue.timer = .unset ↔ d.timer = .unset
  stopped : stepped.dialogue.timer = .stopped ↔ d.timer = .stopped

theorem Completes.cancel (active : ActiveMailboxes) (d : Dialogue) :
    Completes active d { dialogue := { d with control := d.control.cancel, timer := d.timer.cancel }, active } := by
  obtain ⟨session, control, timer, log⟩ := d
  refine ⟨rfl, rfl, rfl, rfl, ?_, ?_, ?_, ?_, ?_, ?_⟩
  · cases control <;> rfl
  · cases control <;> simp [Control.cancel]
  · cases control <;> simp [Control.cancel]
  · cases control <;> simp [Control.cancel]
  · cases timer <;> simp [Timer.cancel]
  · cases timer <;> simp [Timer.cancel]

theorem Completes.chain {active : ActiveMailboxes} {d d' : Dialogue} (log : d'.log = d.log)
    (mailbox : d'.session.mailbox = d.session.mailbox) (timer : d'.timer = d.timer)
    (before : d.control = .reading .outstanding ∨ d.control = .writing .outstanding)
    (after : ∃ op, d'.control = .reading op ∨ d'.control = .writing op) :
    Completes active d { dialogue := d', active } := by
  obtain ⟨op, after⟩ := after
  refine ⟨rfl, rfl, log, mailbox, ?_, ?_, ?_, ?_, by rw [timer], by rw [timer]⟩ <;>
    rcases before with before | before <;> rcases after with after | after <;> simp [before, after, Control.inLogin]

theorem Completes.wait {active : ActiveMailboxes} {d : Dialogue} (ec : Completion)
    (waiting : d.timer = .waiting .outstanding) :
    Completes active d { dialogue := { d with timer := .waiting (.queued ec) }, active } :=
  ⟨rfl, rfl, rfl, rfl, rfl, Iff.rfl, Iff.rfl, Iff.rfl, by simp [waiting], by simp [waiting]⟩

/-- The forms of a step: an operation completes, or a handler runs. -/
inductive Performs (cfg : Config) (active : ActiveMailboxes) (d : Dialogue) : SessionEvent → Stepped → Prop
  | completed (e : SessionEvent) (stepped : Stepped) (event : e.completes = true)
      (same : Completes active d stepped) : Performs cfg active d e stepped
  | startedRead (accepted : d.control = .accepted) :
      Performs cfg active d .startRead { dialogue := { d with control := .reading .outstanding }, active }
  | startedTimer (notAccepted : d.control ≠ .accepted) (unset : d.timer = .unset) :
      Performs cfg active d .startTimer { dialogue := { d with timer := .waiting .outstanding }, active }
  | read (fs : FileSystems) (ec : Completion) (reading : d.control = .reading (.queued ec)) :
      Performs cfg active d (.runRead fs) (d.runRead cfg active ec fs)
  | login (fs : FileSystems) (lock : MailboxLock) (password : Bytes)
      (loggingIn : d.control = .loggingIn lock password) :
      Performs cfg active d (.runLogin fs) (d.runLogin cfg active lock password fs)
  | written (ec : Completion) (writing : d.control = .writing (.queued ec)) :
      Performs cfg active d .runWrite (d.runWrite active ec)
  | timer (idle : Bool) (ec : Completion) (waiting : d.timer = .waiting (.queued ec)) :
      Performs cfg active d (.runTimer idle) { dialogue := d.runTimer ec idle, active }

/-- **Every step has one of these forms.** -/
theorem step_performs {cfg : Config} {active : ActiveMailboxes} {d : Dialogue} {e : SessionEvent}
    {stepped : Stepped} (h : d.step cfg active e = some stepped) : Performs cfg active d e stepped := by
  cases e with
  | startRead =>
    simp only [Dialogue.step] at h
    split at h
    · rename_i accepted; cases h; exact .startedRead accepted
    · cases h
  | startTimer =>
    simp only [Dialogue.step] at h
    split at h
    · cases h
    · rename_i unset notAccepted; cases h; exact .startedTimer notAccepted unset
    · cases h
  | receive chunk =>
    simp only [Dialogue.step] at h
    split at h
    · rename_i reading; cases h; exact .completed _ _ rfl (.chain rfl rfl rfl (.inl reading) ⟨_, .inl rfl⟩)
    · cases h
  | failRead =>
    simp only [Dialogue.step] at h
    split at h
    · rename_i reading; cases h; exact .completed _ _ rfl (.chain rfl rfl rfl (.inl reading) ⟨_, .inl rfl⟩)
    · cases h
  | runRead fs =>
    simp only [Dialogue.step] at h
    split at h
    · rename_i ec reading; cases h; exact .read fs ec reading
    · cases h
  | runLogin fs =>
    simp only [Dialogue.step] at h
    split at h
    · rename_i lock password loggingIn; cases h; exact .login fs lock password loggingIn
    · cases h
  | sent =>
    simp only [Dialogue.step] at h
    split at h
    · rename_i writing; cases h; exact .completed _ _ rfl (.chain rfl rfl rfl (.inr writing) ⟨_, .inr rfl⟩)
    · cases h
  | failWrite =>
    simp only [Dialogue.step] at h
    split at h
    · rename_i writing; cases h; exact .completed _ _ rfl (.chain rfl rfl rfl (.inr writing) ⟨_, .inr rfl⟩)
    · cases h
  | runWrite =>
    simp only [Dialogue.step] at h
    split at h
    · rename_i ec writing; cases h; exact .written ec writing
    · cases h
  | expire =>
    simp only [Dialogue.step] at h
    split at h
    · rename_i waiting; cases h; exact .completed _ _ rfl (.wait .success waiting)
    · cases h
  | failTimer =>
    simp only [Dialogue.step] at h
    split at h
    · rename_i waiting; cases h; exact .completed _ _ rfl (.wait .failed waiting)
    · cases h
  | runTimer idle =>
    simp only [Dialogue.step] at h
    split at h
    · rename_i ec waiting; cases h; exact .timer idle ec waiting
    · cases h
  | cancel => cases h; exact .completed _ _ rfl (.cancel active d)

/-- The timer handler leaves the chain where it is, but for a cancellation, and does not start over. -/
theorem runTimer_chain (d : Dialogue) (ec : Completion) (idle : Bool) :
    ((d.runTimer ec idle).control = d.control ∨ (d.runTimer ec idle).control = d.control.cancel) ∧
      (d.runTimer ec idle).timer ≠ .unset := by
  cases ec with
  | success =>
    cases idle with
    | true => exact ⟨.inr rfl, by simp [Dialogue.runTimer]⟩
    | false => exact ⟨.inl rfl, by simp [Dialogue.runTimer]⟩
  | aborted => exact ⟨.inl rfl, by simp [Dialogue.runTimer]⟩
  | failed => exact ⟨.inl rfl, by simp [Dialogue.runTimer]⟩

/-- What one step of a session does to the handlers executing on it. -/
inductive Executes (d : Dialogue) (e : SessionEvent) (d' : Dialogue) : Prop
  /-- nothing new executes, and no exception leaves a handler -/
  | quiet (silent : e.handles = false) (less : d'.executing ≤ d.executing)
      (same : d'.control = .escaped ↔ d.control = .escaped)
  /-- the read handler has run, or has gone on to a login -/
  | read (fs : FileSystems) (event : e = .runRead fs) (before : d.control ≠ .escaped)
      (more : d'.executing ≤ d.executing + 1) (threw : d'.control = .escaped → d'.executing ≤ d.executing)
  /-- the read handler of a login is over -/
  | login (fs : FileSystems) (event : e = .runLogin fs) (before : d.control ≠ .escaped)
      (less : d'.executing + 1 ≤ d.executing)

theorem handlerEnded_executing (cfg : Config) (d : Dialogue) (fs : FileSystems) (ended : Ended) :
    (d.handlerEnded cfg fs ended).executing = if d.timer = .unset then 1 else 0 := by
  rcases handlerEnded_cases cfg d fs ended with ⟨_, _, same⟩ | ⟨_, _, same⟩
  · rw [same]
    unfold Dialogue.executing
    simp only
    split <;> split <;> simp_all [Control.inLogin]
  · rw [same]
    unfold Dialogue.executing
    simp [Control.inLogin]

theorem executing_le {d d' : Dialogue} (timer : d'.timer = .unset → d.timer = .unset)
    (control : d'.control.inLogin ≤ d.control.inLogin) : d'.executing ≤ d.executing := by
  unfold Dialogue.executing
  refine Nat.add_le_add ?_ ?_
  · split
    · rename_i unset
      rw [if_pos (timer unset)]
    · exact Nat.zero_le _
  · split
    · rename_i inLogin
      rw [if_pos (control inLogin)]
    · exact Nat.zero_le _

/-- **Which steps execute handlers.** -/
theorem step_executes {cfg : Config} {active : ActiveMailboxes} {d : Dialogue} {e : SessionEvent}
    {stepped : Stepped} (h : d.step cfg active e = some stepped) : Executes d e stepped.dialogue := by
  cases step_performs h with
  | completed e stepped event same =>
    refine .quiet ?_ (executing_le same.unset.mp same.inLogin.le) same.escaped
    cases e <;> first | rfl | cases event
  | startedRead accepted =>
    exact .quiet rfl (by simp [Dialogue.executing, accepted, Control.inLogin]) (by simp [accepted])
  | startedTimer notAccepted unset => exact .quiet rfl (by simp [Dialogue.executing]) Iff.rfl
  | read fs ec reading =>
    have timer : d.executing = if d.timer = .unset then 1 else 0 := by
      simp [Dialogue.executing, reading, Control.inLogin]
    refine .read fs rfl (by simp [reading]) ?_ ?_
    · unfold Dialogue.runRead
      split
      · split
        · simp only [Dialogue.executing, reading, Control.inLogin]
          simp
        · simp only [handlerEnded_executing, timer]
          omega
      · simp [Dialogue.executing, reading, Control.inLogin]
    · unfold Dialogue.runRead
      split
      · split
        · intro escaped; cases escaped
        · intro _
          simp only [handlerEnded_executing, timer]
          exact Nat.le_refl _
      · intro escaped; cases escaped
  | login fs lock password loggingIn =>
    refine .login fs rfl (by simp [loggingIn]) ?_
    simp only [Dialogue.runLogin, handlerEnded_executing]
    simp [Dialogue.executing, loggingIn, Control.inLogin]
  | written ec writing =>
    unfold Dialogue.runWrite
    split
    · split <;> exact .quiet rfl (by simp [Dialogue.executing, writing, Control.inLogin]) (by simp [writing])
    · exact .quiet rfl (by simp [Dialogue.executing, writing, Control.inLogin]) (by simp [writing])
  | timer idle ec waiting =>
    obtain ⟨control, notUnset⟩ := runTimer_chain d ec idle
    have same := Completes.cancel active d
    refine .quiet rfl (executing_le (fun unset => absurd unset notUnset) ?_) ?_
    · rcases control with control | control <;> rw [control]
      exact same.inLogin.le
    · rcases control with control | control <;> rw [control]
      exact same.escaped

namespace Server

/-- The account of a step of one session, over all sessions. -/
theorem stepSession_counts {cfg : Config} {st st' : Server} {sessionId : Nat} {e : SessionEvent}
    (h : st.stepSession cfg sessionId e = some st') :
    ∃ d d', st.objects[sessionId]? = some ⟨d, none⟩ ∧ st'.objects[sessionId]?.map (·.dialogue) = some d' ∧
      Executes d e d' ∧ st'.executing + d.executing = st.executing + d'.executing ∧
      st'.escaped + (if d.control = .escaped then 1 else 0) =
        st.escaped + (if d'.control = .escaped then 1 else 0) := by
  obtain ⟨d, stepped, lives, moved, rfl⟩ := stepSession_cases h
  rw [settle_eq]
  refine ⟨d, stepped.dialogue, lives, ?_, step_executes moved, ?_, ?_⟩
  · have inside := (List.getElem?_eq_some_iff.mp lives).1
    simp [between, inside]
  · have sum := sum_map_set (fun o : SessionObject => o.dialogue.executing) lives
      ⟨stepped.dialogue, (st.between sessionId stepped).outcome sessionId stepped.dialogue⟩
    simp only [executing, between] at sum ⊢
    omega
  · exact sum_map_set (fun o : SessionObject => if o.dialogue.control = .escaped then 1 else 0) lives _

/-- The handlers executing and the sessions left behind, while nothing is handled. -/
def Counts (executing escaped : Nat) (st : Server) : Prop := st.executing ≤ executing ∧ st.escaped = escaped

theorem cancelAll_counts {cfg : Config} {st : Server} {executing escaped : Nat} (h : Counts executing escaped st) :
    Counts executing escaped (st.cancelAll cfg) := by
  refine cancelAll_preserves (C := fun _ _ e => e = .cancel) (fun st sessionId e st' here cancels step => ?_)
    (fun _ _ => rfl) h
  subst cancels
  obtain ⟨d, d', _, _, executes, executing, escaped⟩ := stepSession_counts step
  cases executes with
  | quiet silent less same =>
    simp only [same] at escaped
    exact ⟨by have := here.1; omega, by rw [← here.2]; omega⟩
  | read fs event => cases event
  | login fs event => cases event

end Server

/-- **The account of a step**: a handler that starts may go on executing, and one that an exception
leaves has left one session behind. -/
theorem Server.step_counts {cfg : Config} {st st' : Server} {e : Event} (h : st.step cfg e = some st') :
    st'.escaped = st.escaped + (if st'.threw e then 1 else 0) ∧
      st'.executing + (if st'.threw e then 1 else 0) ≤ st.executing + (if e.starts then 1 else 0) := by
  cases step_moves h with
  | acceptDone failed waiting => exact ⟨rfl, Nat.le_refl _⟩
  | runAccept ec queued =>
    cases ec with
    | success =>
      refine ⟨rfl, ?_⟩
      simp only [runAccept, executing, threw, Event.starts]
      simp
      omega
    | aborted => exact ⟨rfl, Nat.le_succ _⟩
    | failed => exact ⟨rfl, Nat.le_succ _⟩
  | created creates =>
    refine ⟨by simp [createSession, escaped, threw], ?_⟩
    simp [createSession, executing, threw, Event.starts, Dialogue.executing, Control.inLogin]
    omega
  | session sessionId e _ notCancel moved =>
    obtain ⟨d, d', _, found, executes, executing, escaped⟩ := stepSession_counts moved
    have here : st'.objects[sessionId]?.map (·.dialogue.control) = some d'.control := by
      have := congrArg (Option.map Dialogue.control) found
      simpa [Option.map_map, Function.comp_def] using this
    have threw : st'.threw (.session sessionId e) = (e.handles && decide (d'.control = .escaped)) := by
      simp only [Server.threw, here, Option.some.injEq]
    rw [threw]
    cases executes with
    | quiet silent less same =>
      simp only [silent, same] at escaped ⊢
      simp only [Bool.false_and, Bool.false_eq_true, if_false]
      omega
    | read fs event before more less =>
      subst event
      simp only [SessionEvent.handles, Bool.true_and, decide_eq_true_eq, before, if_false, Event.starts,
        if_true] at escaped ⊢
      split
      · rename_i left
        rw [if_pos left] at escaped
        have := less left
        omega
      · rename_i returned
        rw [if_neg returned] at escaped
        omega
    | login fs event before less =>
      subst event
      simp only [SessionEvent.handles, Bool.true_and, decide_eq_true_eq, before, if_false, Event.starts] at escaped ⊢
      split
      · rename_i left
        rw [if_pos left] at escaped
        simp
        omega
      · rename_i returned
        rw [if_neg returned] at escaped
        simp
        omega
  | sessionsCancelled running =>
    obtain ⟨executing, escaped⟩ : Counts st.executing st.escaped (st.cancelAll cfg) :=
      cancelAll_counts ⟨Nat.le_refl _, rfl⟩
    exact ⟨escaped, executing⟩
  | acceptorCancelled after => exact ⟨rfl, Nat.le_refl _⟩

/-! ## A context out of work -/

/-- The chain of the session is over, and its timer wait is too. -/
def Dialogue.Over (d : Dialogue) : Prop := (d.control = .ended ∨ d.control = .escaped) ∧ d.timer = .stopped

theorem Server.workless_iff {st : Server} :
    st.workless = true ↔ st.accepting = none ∧ st.creating = 0 ∧ st.All fun _ o => o.dialogue.Over := by
  simp only [workless, Bool.and_eq_true, decide_eq_true_eq, List.all_eq_true, Bool.or_eq_true, and_assoc]
  refine and_congr_right fun _ => and_congr_right fun _ => ?_
  constructor
  · exact fun all sessionId o found => all o (List.mem_of_getElem? found)
  · intro all o member
    obtain ⟨sessionId, found⟩ := List.mem_iff_getElem?.mp member
    exact all sessionId o found

/-- Nothing but a cancellation happens to a session that is over, and it does nothing to it. -/
theorem Dialogue.Over.step {cfg : Config} {active : ActiveMailboxes} {d : Dialogue} {e : SessionEvent}
    {stepped : Stepped} (h : d.Over) (step : d.step cfg active e = some stepped) :
    e = .cancel ∧ stepped.dialogue = d := by
  obtain ⟨session, control, timer, log⟩ := d
  obtain ⟨ended, rfl⟩ := h
  rcases ended with rfl | rfl <;> cases e <;> cases step <;> exact ⟨rfl, rfl⟩

/-- **Work that has run out does not come back.** -/
theorem Server.workless_step {cfg : Config} {st st' : Server} {e : Event} (h : st.workless = true)
    (step : st.step cfg e = some st') : st'.workless = true := by
  rw [workless_iff] at h ⊢
  obtain ⟨accepting, creating, allOver⟩ := h
  have stays : ∀ (sessionId : Nat) (d : Dialogue) (e : SessionEvent) (active : ActiveMailboxes)
      (stepped : Stepped), d.Over → d.step cfg active e = some stepped →
      Server → stepped.dialogue.Over := by
    intro sessionId d e active stepped here step _
    rw [(here.step step).2]
    exact here
  cases step_moves step with
  | acceptDone failed waiting => cases accepting.symm.trans waiting
  | runAccept ec queued => cases accepting.symm.trans queued
  | created creates => omega
  | session sessionId e _ notCancel moved =>
    obtain ⟨d, stepped, lives, moved, _⟩ := stepSession_cases moved
    exact absurd ((allOver sessionId _ lives).step moved).1 notCancel
  | sessionsCancelled running =>
    refine cancelAll_preserves (C := fun _ _ _ => True)
      (I := fun st => st.accepting = none ∧ st.creating = 0 ∧ st.All fun _ o => o.dialogue.Over) ?_
      (fun _ _ => trivial) ⟨accepting, creating, allOver⟩
    rintro st sessionId e st' ⟨accepting, creating, allOver⟩ _ step
    refine ⟨?_, ?_, allOver.stepSession (P := fun _ o => o.dialogue.Over) stays step⟩
    · obtain ⟨d, stepped, _, _, rfl⟩ := stepSession_cases step
      rw [settle_eq]
      exact accepting
    · obtain ⟨d, stepped, _, _, rfl⟩ := stepSession_cases step
      rw [settle_eq]
      exact creating
  | acceptorCancelled after => exact ⟨by simp [accepting], creating, allOver⟩

theorem Server.executing_workless {st : Server} (h : st.workless = true) : st.executing = 0 := by
  obtain ⟨_, creating, allOver⟩ := workless_iff.mp h
  rw [executing, creating, Nat.zero_add, List.sum_eq_zero_iff_forall_eq_nat]
  intro n member
  obtain ⟨o, inside, rfl⟩ := List.mem_map.mp member
  obtain ⟨sessionId, found⟩ := List.mem_iff_getElem?.mp inside
  obtain ⟨ended, stopped⟩ := allOver sessionId o found
  rcases ended with ended | ended <;> simp [Dialogue.executing, stopped, ended, Control.inLogin]

/-! ## The account -/

/-- The account of the threads. -/
structure Workers (pool : Nat) (p : Process) : Prop where
  counted : p.running + p.returned + p.failed = pool
  /-- each thread lost has left one session behind -/
  cutOff : p.failed = p.server.escaped
  /-- each handler executing has a thread of its own -/
  busy : p.server.executing ≤ p.running
  idle : 0 < p.returned → p.server.workless = true
  quit : p.server.console ≠ .running → p.quitRead = true
  acceptor : p.server.accepting = none ∨ p.server.accepting = some (.queued .aborted) →
    p.server.console = .cancelled

/-- Where the console and the acceptor stand after a step of the server. -/
theorem Workers.console {cfg : Config} {pool : Nat} {p : Process} {e : Event} {server : Server}
    (h : Workers pool p) (admitted : p.admits e = true) (moved : p.server.step cfg e = some server) :
    (server.console ≠ .running → p.quitRead = true) ∧
      (server.accepting = none ∨ server.accepting = some (.queued .aborted) → server.console = .cancelled) := by
  cases Server.step_moves moved with
  | acceptDone failed waiting =>
    refine ⟨h.quit, fun closed => ?_⟩
    rcases closed with closed | closed
    · cases closed
    · cases failed <;> cases closed
  | runAccept ec queued =>
    cases ec with
    | aborted => exact ⟨h.quit, fun _ => h.acceptor (.inr queued)⟩
    | success => exact ⟨h.quit, fun closed => by rcases closed with closed | closed <;> cases closed⟩
    | failed => exact ⟨h.quit, fun closed => by rcases closed with closed | closed <;> cases closed⟩
  | created creates => exact ⟨h.quit, h.acceptor⟩
  | session sessionId e _ notCancel stepped =>
    obtain ⟨d, stepped, _, _, rfl⟩ := Server.stepSession_cases stepped
    rw [Server.settle_eq]
    exact ⟨h.quit, h.acceptor⟩
  | sessionsCancelled running =>
    have read : p.quitRead = true := by
      unfold Process.admits at admitted
      exact (Bool.and_eq_true _ _ ▸ admitted).2
    refine ⟨fun _ => read, fun closed => ?_⟩
    have same : (p.server.cancelAll cfg).accepting = p.server.accepting := by
      refine Server.cancelAll_preserves (C := fun _ _ _ => True) (I := fun st => st.accepting = p.server.accepting)
        (fun st sessionId e st' same _ step => ?_) (fun _ _ => trivial) rfl
      obtain ⟨d, stepped, _, _, rfl⟩ := Server.stepSession_cases step
      rw [Server.settle_eq]
      exact same
    cases (h.acceptor (same ▸ closed)).symm.trans running
  | acceptorCancelled after =>
    exact ⟨fun _ => h.quit (by rw [after]; decide), fun _ => rfl⟩

theorem Workers.step {cfg : Config} {pool : Nat} {p p' : Process} {e : ProcessEvent} (h : Workers pool p)
    (step : p.step cfg e = some p') : Workers pool p' := by
  have start : ∀ e, p.admits e = true → p.server.executing + (if e.starts then 1 else 0) ≤ p.running := by
    intro e admitted
    unfold Process.admits at admitted
    have first := (Bool.and_eq_true _ _ ▸ admitted).1
    have busy := h.busy
    split
    · rename_i starts
      simp only [starts, Bool.not_true, Bool.false_or, decide_eq_true_eq] at first
      omega
    · omega
  cases Process.step_moves step with
  | io e server admitted moved returned =>
    obtain ⟨escaped, executing⟩ := Server.step_counts moved
    have room := start e admitted
    simp only [returned, Bool.false_eq_true, if_false] at escaped executing
    obtain ⟨quit, acceptor⟩ := h.console admitted moved
    exact ⟨h.counted, h.cutOff.trans escaped.symm, by show server.executing ≤ p.running; omega,
      fun anyReturned => Server.workless_step (h.idle anyReturned) moved, quit, acceptor⟩
  | failed e server admitted moved threw =>
    obtain ⟨escaped, executing⟩ := Server.step_counts moved
    have room := start e admitted
    have counted := h.counted
    have cutOff := h.cutOff
    simp only [threw, if_true] at escaped executing
    obtain ⟨quit, acceptor⟩ := h.console admitted moved
    refine ⟨?_, ?_, ?_, fun anyReturned => Server.workless_step (h.idle anyReturned) moved, quit, acceptor⟩
    · show p.running - 1 + p.returned + (p.failed + 1) = pool
      omega
    · show p.failed + 1 = server.escaped
      omega
    · show server.executing ≤ p.running - 1
      omega
  | command word running goesOn =>
    exact ⟨h.counted, h.cutOff, h.busy, h.idle, fun cancelled => absurd running cancelled, h.acceptor⟩
  | workerReturns left workless =>
    have counted := h.counted
    refine ⟨?_, h.cutOff, ?_, fun _ => workless, h.quit, h.acceptor⟩
    · show p.running - 1 + (p.returned + 1) + p.failed = pool
      omega
    · rw [Server.executing_workless workless]
      exact Nat.zero_le _

section
variable {cfg : Config} {thread_pool_size hardware_concurrency : UInt32} {p p' : Process}

theorem Process.workers
    (reachable : Reachable (Process.step cfg) (Process.start thread_pool_size hardware_concurrency) p) :
    Workers (poolSize thread_pool_size hardware_concurrency).toNat p := by
  refine reachable.invariant (Workers _) (fun _ _ _ here step => here.step step) ?_
  exact ⟨rfl, rfl, Nat.zero_le _, fun anyReturned => absurd anyReturned (Nat.lt_irrefl 0),
    fun cancelled => absurd rfl cancelled, fun closed => by rcases closed with closed | closed <;> cases closed⟩

/-- **Every thread is accounted for** in every state of the process: it is inside `run()`, has returned from
it, or has been lost to an exception, which has cut off one session; and each handler executing has a
thread of its own. -/
theorem workers_accounted
    (reachable : Reachable (Process.step cfg) (Process.start thread_pool_size hardware_concurrency) p) :
    p.running + p.returned + p.failed = (poolSize thread_pool_size hardware_concurrency).toNat ∧
      p.failed = p.server.escaped ∧ p.server.executing ≤ p.running ∧
      (0 < p.returned → p.server.workless = true ∧ p.server.console = .cancelled) := by
  have workers := Process.workers reachable
  exact ⟨workers.counted, workers.cutOff, workers.busy, fun anyReturned =>
    ⟨workers.idle anyReturned, workers.acceptor (.inl (Server.workless_iff.mp (workers.idle anyReturned)).1)⟩⟩

/-- A session has sent `QUIT` and has its reply when the console reads `Quit`; the threads come home. -/
def quitAndReturn : List ProcessEvent :=
  [.io (.acceptDone false), .io .runAccept, .io .createSession, .io (.session 0 .startRead),
    .io (.session 0 .startTimer), .io (.session 0 (.receive (ascii "QUIT" ++ crlf))),
    .io (.session 0 (.runRead fun _ => Mailbox.oneByteFiles)), .io (.session 0 .sent),
    .io (.session 0 .runWrite), .command (ascii "stop"), .command (ascii "Quit"), .io .cancelAll,
    .io .cancelAcceptor, .io .runAccept, .io (.session 0 .expire), .io (.session 0 (.runTimer true)),
    .workerReturns, .workerReturns]

theorem quitAndReturn_accounted :
    ∃ p, exec (Process.step dummyConfig) (Process.start 0 1) quitAndReturn = some p ∧
      p.running + p.returned + p.failed = (poolSize 0 1).toNat ∧ 0 < p.returned ∧ p.server.workless = true := by
  obtain ⟨p, run, two⟩ : ∃ p, exec (Process.step dummyConfig) (Process.start 0 1) quitAndReturn = some p ∧
      p.returned = 2 := ⟨_, rfl, rfl⟩
  obtain ⟨counted, _, _, idle⟩ := workers_accounted ⟨quitAndReturn, run⟩
  exact ⟨p, run, counted, by omega, (idle (by omega)).1⟩

/-- **When `Run` returns**, not every thread having thrown: `quit` has been read and `cancel` has returned;
the sessions in the list are those an exception has cut off, and the owners of the names in the lock table are
among them; and every other session is destroyed, after an acknowledged `QUIT` with the removal of the
files recorded by number. A name with a NUL is another matter. -/
theorem run_returns_clean
    (reachable : Reachable (Process.step cfg) (Process.start thread_pool_size hardware_concurrency) p)
    (returned : p.running = 0) (oneLeft : p.failed ≠ (poolSize thread_pool_size hardware_concurrency).toNat) :
    (∃ word ∈ p.commands, toLower word = ascii "quit") ∧ p.server.console = .cancelled ∧
      (∀ sessionId, sessionId ∈ p.server.sessions ↔
        ∃ o, p.server.objects[sessionId]? = some o ∧ o.dialogue.control = .escaped) ∧
      (∀ name ∈ p.server.activeMailboxes, (0 : UInt8) ∉ name →
        ∃ o ∈ p.server.objects, o.dialogue.control = .escaped ∧ name ∈ o.holds) ∧
      ∀ o ∈ p.server.objects, o.dialogue.control ≠ .escaped → o.released ≠ none ∧
        (QuitAcknowledged o.dialogue.log → ∃ m removed, o.dialogue.session.mailbox = some m ∧
          o.released = some (.ok removed) ∧ ∀ path, path ∈ removed ↔ m.Recorded path) := by
  have workers := Process.workers reachable
  have counted := workers.counted
  have workless := workers.idle (by omega)
  obtain ⟨accepting, _, allOver⟩ := Server.workless_iff.mp workless
  have cancelled := workers.acceptor (.inl accepting)
  have read := workers.quit (by rw [cancelled]; decide)
  have reachable := Process.reachable_server reachable
  have lifetimes := Server.lifetimes reachable
  -- a chain that is over has ended, which takes the session off the list, or was cut off, which leaves it there
  have destroyed : p.server.All fun _ o => o.dialogue.control ≠ .escaped → o.released ≠ none := by
    intro sessionId o found notEscaped lives
    have ended := (allOver sessionId o found).1.resolve_right notEscaped
    rcases (lifetimes.held sessionId o found).mp lives with listed | holds | holds
    · exact (lifetimes.listed sessionId o found).mp listed ended
    · exact holds.1 ended
    · exact holds (allOver sessionId o found).2
  refine ⟨?_, cancelled, fun sessionId => ⟨fun listed => ?_, ?_⟩, fun name there noNul => ?_,
    fun o member notEscaped => ?_⟩
  · unfold Process.quitRead at read
    rw [decide_eq_true_eq, Option.map_eq_some_iff] at read
    obtain ⟨word, last, lower⟩ := read
    exact ⟨word, List.mem_of_mem_head? last, lower⟩
  · have found := List.getElem?_eq_getElem (lifetimes.inRange sessionId listed)
    exact ⟨_, found, (allOver sessionId _ found).1.resolve_left ((lifetimes.listed sessionId _ found).mp listed)⟩
  · rintro ⟨o, found, escaped⟩
    exact (lifetimes.listed sessionId o found).mpr (by rw [escaped]; decide)
  · obtain ⟨sessionId, o, found, his⟩ := (Server.tableBounds reachable).backed name there noNul
    refine ⟨o, List.mem_of_getElem? found, ?_, his⟩
    by_contra notEscaped
    have gone := destroyed sessionId o found notEscaped
    obtain ⟨d, released⟩ := o
    cases released with
    | none => exact gone rfl
    | some removed => exact Multiset.notMem_zero _ his
  · obtain ⟨sessionId, found⟩ := List.mem_iff_getElem?.mp member
    refine ⟨destroyed sessionId o found notEscaped, fun acknowledged => ?_⟩
    have reached := Server.objects_reached reachable sessionId o found
    obtain ⟨m, removed, mailbox, removes, members⟩ := reached.destroyStorages acknowledged
    obtain ⟨result, released⟩ := Option.ne_none_iff_exists'.mp (destroyed sessionId o found notEscaped)
    have same := Server.released_eq reachable sessionId o found result released
    rw [mailbox, Option.elim_some, removes] at same
    exact ⟨m, removed, mailbox, same ▸ released, members⟩

theorem quitAndReturn_clean :
    ∃ p, exec (Process.step dummyConfig) (Process.start 0 1) quitAndReturn = some p ∧
      p.server.objects.length = 1 ∧ p.server.sessions = [] ∧ ∀ o ∈ p.server.objects, o.released ≠ none := by
  obtain ⟨p, run, one, returned, failed, listed, ended⟩ : ∃ p,
      exec (Process.step dummyConfig) (Process.start 0 1) quitAndReturn = some p ∧ p.server.objects.length = 1 ∧
      p.running = 0 ∧ p.failed = 0 ∧ p.server.sessions = [] ∧
      p.server.objects.map (·.dialogue.control) = [.ended] := ⟨_, rfl, rfl, rfl, rfl, rfl, rfl⟩
  obtain ⟨_, _, _, _, others⟩ := run_returns_clean ⟨quitAndReturn, run⟩ returned (by rw [failed]; decide)
  refine ⟨p, run, one, listed, fun o member => (others o member ?_).1⟩
  have here : o.dialogue.control ∈ p.server.objects.map (·.dialogue.control) := List.mem_map_of_mem member
  rw [ended, List.mem_singleton] at here
  rw [here]
  decide

end

/-! ## A pool that is used up -/

/-- What is left of an object while no handler runs. -/
def SessionObject.kept (o : SessionObject) : List Note × Option Mailbox × Option (Except Fault (List Path)) :=
  (o.dialogue.log, o.dialogue.session.mailbox, o.released)

/-- A completion lets go of nothing. -/
theorem Completes.held {active : ActiveMailboxes} {d : Dialogue} {stepped : Stepped} (h : Completes active d stepped)
    (st : Server) (sessionId : Nat) : st.Held sessionId stepped.dialogue ↔ st.Held sessionId d := by
  simp only [Server.Held, Control.Holds, Timer.Holds, ne_eq, h.ended, h.escaped, h.stopped]

/-- The sessions stand as they stood, but for operations that have completed. -/
structure Frozen (st st' : Server) : Prop where
  sessions : st'.sessions = st.sessions
  activeMailboxes : st'.activeMailboxes = st.activeMailboxes
  objects : st'.objects.map SessionObject.kept = st.objects.map SessionObject.kept

theorem Frozen.trans {st st' st'' : Server} (h : Frozen st st') (h' : Frozen st' st'') : Frozen st st'' :=
  ⟨h'.sessions.trans h.sessions, h'.activeMailboxes.trans h.activeMailboxes, h'.objects.trans h.objects⟩

end Pop3Serv.Net
