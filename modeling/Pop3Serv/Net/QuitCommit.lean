import Pop3Serv.Mail.Commit
import Pop3Serv.Net.Typestate

/-!
# From `QUIT` to the destructors

`quitCommandReceived` is set by a handled `QUIT` and looked at once, when the next
reply is written. `QuitState` says what the flag, the chain and the log have to
do with each other. With it the update flag of a storage is set only after an
acknowledged `QUIT` (`Moved.commits`), and then on the mailbox that the calls in
the log have made of the opened one (`Moved.carries`).
-/

namespace Pop3Serv.Net
open Proto Mail Logic

/-- The request was a `QUIT`. -/
def Exchange.Quits (x : Exchange) : Prop := ∃ parameter, x.result = .ok ⟨.QUIT, parameter⟩

/-- A `QUIT` was handled in the Transaction state and its reply was written without error. -/
def QuitAcknowledged (log : List Note) : Prop :=
  ∃ before x after, log = before ++ .handled x :: .replied :: after ∧ x.state = .Transaction ∧ x.Quits

theorem quitAcknowledged_snoc {log : List Note} {note : Note} :
    QuitAcknowledged (log ++ [note]) ↔
      QuitAcknowledged log ∨
        note = .replied ∧ ∃ before x, log = before ++ [.handled x] ∧ x.state = .Transaction ∧ x.Quits := by
  constructor
  · rintro ⟨before, x, after, split, inside, quits⟩
    rcases List.eq_nil_or_concat after with rfl | ⟨after, last, rfl⟩
    · have split : log ++ [note] = (before ++ [.handled x]) ++ [.replied] := by simpa using split
      obtain ⟨rfl, last⟩ := List.append_inj' split rfl
      exact .inr ⟨by simpa using last, before, x, rfl, inside, quits⟩
    · have split : log ++ [note] = (before ++ .handled x :: .replied :: after) ++ [last] := by
        simpa using split
      obtain ⟨rfl, _⟩ := List.append_inj' split rfl
      exact .inl ⟨before, x, after, rfl, inside, quits⟩
  · rintro (⟨before, x, after, rfl, inside, quits⟩ | ⟨rfl, before, x, rfl, inside, quits⟩)
    · exact ⟨before, x, after ++ [note], by simp, inside, quits⟩
    · exact ⟨before, x, [], by simp, inside, quits⟩

theorem not_quitAcknowledged {log : List Note} (silent : ∀ x, .handled x ∈ log → ¬ x.Quits) :
    ¬ QuitAcknowledged log := by
  rintro ⟨before, x, after, rfl, _, quits⟩
  exact silent x (by simp) quits

/-- What the flag, the chain and the log have to do with each other. -/
structure QuitState (d : Dialogue) : Prop where
  /-- without the flag no `QUIT` has been handled -/
  silent : d.session.quitCommandReceived = false → ∀ x, .handled x ∈ d.log → ¬ x.Quits
  /-- the reply being written is the one to the only `QUIT` -/
  last : d.session.quitCommandReceived = true → ∀ op, d.control = .writing op →
    ∃ before x, d.log = before ++ [.handled x] ∧ x.Quits ∧ x.state = d.session.state ∧
      ∀ y, .handled y ∈ before → ¬ y.Quits
  /-- with the flag the chain is at that reply, or over -/
  placed : d.session.quitCommandReceived = true →
    (∃ op, d.control = .writing op) ∨ d.control = .ended

theorem QuitState.flag_of_handling {d : Dialogue} (h : QuitState d) (handling : d.control.Handling) :
    d.session.quitCommandReceived = false := by
  by_contra quits
  rcases h.placed (by simpa using quits) with ⟨op, writing⟩ | ended
  · rcases handling with ⟨_, other⟩ | ⟨_, _, other⟩ <;> cases writing.symm.trans other
  · rcases handling with ⟨_, other⟩ | ⟨_, _, other⟩ <;> cases ended.symm.trans other

/-- Without the flag, nothing but the log can break the invariant. -/
theorem QuitState.of_clear {d : Dialogue} (clear : d.session.quitCommandReceived = false)
    (silent : ∀ x, .handled x ∈ d.log → ¬ x.Quits) : QuitState d where
  silent _ := silent
  last quits := by cases clear.symm.trans quits
  placed quits := by cases clear.symm.trans quits

theorem Control.Same.writing_iff {control control' : Control} (same : control.Same control') :
    (∃ op, control'= .writing op) ↔ ∃ op, control = .writing op := by
  cases same <;> simp

theorem Control.Same.ended {control control' : Control} (same : control.Same control')
    (ended : control = .ended) : control' = .ended := by
  subst ended
  cases same
  rfl

/-- A request other than `QUIT` leaves the flag clear and adds no `QUIT` to the log. -/
theorem QuitState.of_notQuit {cfg : Config} {d : Dialogue} {fs : FileSystems} {ended : Ended}
    (h : QuitState d) (clear : d.session.quitCommandReceived = false)
    (kept : ended.session.quitCommandReceived = d.session.quitCommandReceived)
    (notQuit : ∀ parameter, ¬ d.session.Requests cfg ⟨.QUIT, parameter⟩) :
    QuitState (d.handlerEnded cfg fs ended) := by
  refine .of_clear ?_ fun x member quits => ?_
  · rw [handlerEnded_session, kept, clear]
  · rcases handlerEnded_cases cfg d fs ended with ⟨result, parsed, same⟩ | ⟨_, _, same⟩
    · rw [same] at member
      rcases List.mem_append.mp member with old | new
      · exact h.silent clear x old quits
      · cases List.mem_singleton.mp new
        obtain ⟨parameter, quit⟩ := quits
        simp only at quit
        subst quit
        exact notQuit parameter parsed
    · rw [same] at member
      exact h.silent clear x member quits

/-- Only a `QUIT` sets the flag. -/
theorem Handled.quit_cases {cfg : Config} {fs : FileSystems} {s : POP3Session} {ended : Ended}
    (handled : Handled cfg fs s ended) :
    (ended.session.quitCommandReceived = s.quitCommandReceived ∧
      ∀ parameter, ¬ s.Requests cfg ⟨.QUIT, parameter⟩) ∨
    (∃ parameter, s.Requests cfg ⟨.QUIT, parameter⟩ ∧ ended.thrown = none ∧
      ∃ response, ended.session = { s with quitCommandReceived := true, response }) := by
  cases handled with
  | acted session notQuit sameName =>
    obtain ⟨response, session⟩ := session
    exact .inl ⟨by rw [session], notQuit⟩
  | named name anonymous requested known returned positive session =>
    obtain ⟨response, session⟩ := session
    exact .inl ⟨by rw [session], fun parameter quit => by cases requested.unique quit⟩
  | entered password m lock anonymous requested ownName connected session =>
    obtain ⟨response, session⟩ := session
    exact .inl ⟨by rw [session], fun parameter quit => by cases requested.unique quit⟩
  | quitted parameter requested returned session => exact .inr ⟨parameter, requested, returned, session⟩

theorem Handled.quitState {cfg : Config} {d : Dialogue} {fs : FileSystems} {ended : Ended}
    (handled : Handled cfg fs d.session ended) (clear : d.session.quitCommandReceived = false)
    (h : QuitState d) : QuitState (d.handlerEnded cfg fs ended) := by
  rcases handled.quit_cases with ⟨kept, notQuit⟩ | ⟨parameter, requested, returned, response, session⟩
  · exact h.of_notQuit clear kept notQuit
  · rcases handlerEnded_cases cfg d fs ended with ⟨result, parsed, same⟩ | ⟨_, failed, _⟩
    · have quit : result = .ok ⟨.QUIT, parameter⟩ := Except.ok.inj (parsed.symm.trans requested)
      rw [same, session]
      refine ⟨nofun, fun _ op _ => ⟨d.log, _, rfl, ⟨parameter, quit⟩, rfl, h.silent clear⟩, fun _ => ?_⟩
      exact .inl ⟨.outstanding, if_pos returned⟩
    · cases requested.symm.trans failed

theorem Moved.quitState {cfg : Config} {d d' : Dialogue} (moved : Moved cfg d d') (h : QuitState d) :
    QuitState d' := by
  cases moved with
  | operation control timer same =>
    refine ⟨h.silent, fun quits op writing => ?_, fun quits => ?_⟩
    · obtain ⟨op', writing'⟩ := same.writing_iff.mp ⟨op, writing⟩
      exact h.last quits op' writing'
    · rcases h.placed quits with writing | ended
      · exact .inl (same.writing_iff.mpr writing)
      · exact .inr (same.ended ended)
  | readStarted accepted =>
    have clear : d.session.quitCommandReceived = false := by
      by_contra quits
      rcases h.placed (by simpa using quits) with ⟨op, other⟩ | other <;> cases accepted.symm.trans other
    exact .of_clear clear (h.silent clear)
  | received chunk op reading =>
    have clear := h.flag_of_handling (.inl ⟨_, reading⟩)
    exact .of_clear clear (h.silent clear)
  | locked op lock password reading pending ownName =>
    have clear := h.flag_of_handling (.inl ⟨_, reading⟩)
    exact .of_clear clear (h.silent clear)
  | answered fs ended handling handled => exact handled.quitState (h.flag_of_handling handling) h
  | failed waiting => exact ⟨h.silent, fun _ op writing => (by cases writing), fun _ => .inr rfl⟩
  | signedOff op writing quit =>
    refine ⟨fun clear => ?_, fun _ op writing => (by cases writing), fun _ => .inr rfl⟩
    cases quit.symm.trans clear
  | replied op writing goesOn =>
    refine .of_clear goesOn fun x member => ?_
    rcases List.mem_append.mp member with old | new
    · exact h.silent goesOn x old
    · cases List.mem_singleton.mp new

/-! ## The mailbox by the log -/

/-- The marking calls made while handling the request. -/
def Exchange.calls (x : Exchange) : List Mailbox.Op :=
  match x.result with
  | .ok cmd => if x.state = .Authorization then [] else callsOf cmd
  | .error _ => []

def Note.calls : Note → List Mailbox.Op
  | .handled x => x.calls
  | .replied => []

/-- The marking calls of a whole log. -/
def callsIn (log : List Note) : List Mailbox.Op := (log.map Note.calls).flatten

theorem callsIn_snoc (log : List Note) (note : Note) : callsIn (log ++ [note]) = callsIn log ++ note.calls := by
  simp [callsIn]

theorem callsIn_reply (log : List Note) : callsIn (log ++ [.replied]) = callsIn log := by
  simp [callsIn_snoc, Note.calls]

/-- The session's mailbox is what the calls in the log have made of the opened one. The only
step that commits it is the one that acknowledges the `QUIT`, and it is the last. -/
inductive Carries (d : Dialogue) : Prop
  | anonymous (state : d.session.state = .Authorization) (mailbox : d.session.mailbox = none)
      (unacknowledged : ¬ QuitAcknowledged d.log) (calls : callsIn d.log = [])
  | serving (m : Mailbox) (state : d.session.state = .Transaction) (mailbox : d.session.mailbox = some m)
      (unacknowledged : ¬ QuitAcknowledged d.log) (made : m = m.asOpened.run (callsIn d.log))
  | committed (m : Mailbox) (state : d.session.state = .Transaction) (ended : d.control = .ended)
      (mailbox : d.session.mailbox = some m) (acknowledged : QuitAcknowledged d.log)
      (made : m = (m.asOpened.run (callsIn d.log)).setUpdate)

/-- A step that leaves the session's state, its mailbox and the log alone. -/
theorem Carries.of_same {d d' : Dialogue} (h : Carries d) (state : d'.session.state = d.session.state)
    (mailbox : d'.session.mailbox = d.session.mailbox) (log : d'.log = d.log)
    (control : d.control = .ended → d'.control = .ended) : Carries d' := by
  cases h with
  | anonymous state₀ mailbox₀ unacknowledged calls =>
    exact .anonymous (state.trans state₀) (mailbox.trans mailbox₀) (log ▸ unacknowledged) (log ▸ calls)
  | serving m state₀ mailbox₀ unacknowledged made =>
    exact .serving m (state.trans state₀) (mailbox.trans mailbox₀) (log ▸ unacknowledged) (log ▸ made)
  | committed m state₀ ended mailbox₀ acknowledged made =>
    exact .committed m (state.trans state₀) (control ended) (mailbox.trans mailbox₀) (log ▸ acknowledged)
      (log ▸ made)

/-- The session after a request was handled, by what it was before. -/
theorem Handled.carries_session {cfg : Config} {fs : FileSystems} {s : POP3Session} {ended : Ended}
    (handled : Handled cfg fs s ended) :
    (ended.session.state = s.state ∧
      ended.session.mailbox = s.mailbox.map (Mailbox.run · (s.requestedCalls cfg))) ∨
    (s.state = .Authorization ∧ s.requestedCalls cfg = [] ∧ ended.session.state = .Transaction ∧
      ∃ name directories lock, ended.session.mailbox = some (Mailbox.opened name directories lock)) := by
  cases handled with
  | acted session notQuit sameName =>
    obtain ⟨response, session⟩ := session
    exact .inl ⟨by rw [session], by rw [session]⟩
  | named name anonymous requested known returned positive session =>
    obtain ⟨response, session⟩ := session
    have noCalls : s.requestedCalls cfg = [] := by rw [requested.requestedCalls, if_pos anonymous]
    refine .inl ⟨by rw [session], ?_⟩
    rw [session, noCalls]
    simp
  | entered password m lock anonymous requested ownName connected session =>
    obtain ⟨response, session⟩ := session
    obtain ⟨directories, opened⟩ := connected.opened
    refine .inr ⟨anonymous, ?_, by rw [session], s.userName, directories, ⟨lock.name, true⟩, ?_⟩
    · rw [requested.requestedCalls, if_pos anonymous]
    · rw [session, opened]
  | quitted parameter requested returned session =>
    obtain ⟨response, session⟩ := session
    have noCalls : s.requestedCalls cfg = [] := by
      rw [requested.requestedCalls]
      split <;> rfl
    refine .inl ⟨by rw [session], ?_⟩
    rw [session, noCalls]
    simp

theorem requestedCalls_anonymous {cfg : Config} {s : POP3Session} (anonymous : s.state = .Authorization) :
    s.requestedCalls cfg = [] := by
  unfold POP3Session.requestedCalls
  split
  · rw [if_pos anonymous]
  · rfl

/-- The log after a request was handled has the calls of the request, and no acknowledged `QUIT` more. -/
theorem handlerEnded_calls (cfg : Config) (d : Dialogue) (fs : FileSystems) (ended : Ended) :
    callsIn (d.handlerEnded cfg fs ended).log = callsIn d.log ++ d.session.requestedCalls cfg ∧
      (QuitAcknowledged (d.handlerEnded cfg fs ended).log → QuitAcknowledged d.log) := by
  rcases handlerEnded_cases cfg d fs ended with ⟨result, parsed, same⟩ | ⟨fault, failed, same⟩
  · rw [same]
    refine ⟨?_, fun acknowledged => ?_⟩
    · rw [callsIn_snoc]
      simp only [Note.calls, Exchange.calls, POP3Session.requestedCalls, parsed]
      cases result <;> rfl
    · exact (quitAcknowledged_snoc.mp acknowledged).resolve_right fun reply => (by cases reply.1)
  · rw [same]
    simp [POP3Session.requestedCalls, failed]

theorem Handled.carries {cfg : Config} {d : Dialogue} {fs : FileSystems} {ended : Ended}
    (handled : Handled cfg fs d.session ended) (handling : d.control.Handling)
    (h : Carries d) : Carries (d.handlerEnded cfg fs ended) := by
  obtain ⟨calls, silent⟩ := handlerEnded_calls cfg d fs ended
  have session := handlerEnded_session cfg d fs ended
  cases h with
  | anonymous state mailbox unacknowledged noCalls =>
    rw [requestedCalls_anonymous state, List.append_nil, noCalls] at calls
    rcases handled.carries_session with ⟨state', mailbox'⟩ | ⟨_, _, state', name, directories, lock, mailbox'⟩
    · refine .anonymous (by rw [session, state', state]) ?_ ?_ calls
      · rw [session, mailbox', mailbox]
        rfl
      · exact fun acknowledged => unacknowledged (silent acknowledged)
    · refine .serving (Mailbox.opened name directories lock) (by rw [session, state'])
        (by rw [session, mailbox'])
        (fun acknowledged => unacknowledged (silent acknowledged)) ?_
      rw [calls, Mailbox.asOpened_opened]
      rfl
  | serving m state mailbox unacknowledged made =>
    rcases handled.carries_session with ⟨state', mailbox'⟩ | ⟨anonymous, _⟩
    · refine .serving (m.run (d.session.requestedCalls cfg)) (by rw [session, state', state]) ?_
        (fun acknowledged => unacknowledged (silent acknowledged)) ?_
      · rw [session, mailbox', mailbox]
        rfl
      · rw [(Mailbox.sameBox_run m _).asOpened, calls, Mailbox.run_append, ← made]
    · cases state.symm.trans anonymous
  | committed m state ended mailbox acknowledged made =>
    rcases handling with ⟨_, other⟩ | ⟨_, _, other⟩ <;> cases ended.symm.trans other

theorem Moved.carries {cfg : Config} {d d' : Dialogue} (moved : Moved cfg d d')
    (quitState : QuitState d) (h : Carries d) : Carries d' := by
  cases moved with
  | operation control timer same => exact h.of_same rfl rfl rfl same.ended
  | readStarted accepted => exact h.of_same rfl rfl rfl fun ended => (by cases accepted.symm.trans ended)
  | received chunk op reading => exact h.of_same rfl rfl rfl fun ended => (by cases reading.symm.trans ended)
  | locked op lock password reading pending ownName =>
    exact h.of_same rfl rfl rfl fun ended => (by cases reading.symm.trans ended)
  | answered fs ended handling handled => exact handled.carries handling h
  | failed waiting => exact h.of_same rfl rfl rfl fun _ => rfl
  | signedOff op writing quit =>
    obtain ⟨before, x, log, quits, answeredIn, _⟩ := quitState.last quit op writing
    cases h with
    | anonymous state mailbox unacknowledged calls =>
      refine .anonymous state (by simp [mailbox]) (fun acknowledged => ?_) (by rw [callsIn_reply, calls])
      rcases quitAcknowledged_snoc.mp acknowledged with old | ⟨_, before', y, log', inside, _⟩
      · exact unacknowledged old
      · obtain ⟨_, same⟩ := List.append_inj' (log.symm.trans log') rfl
        cases same
        cases (inside.symm.trans answeredIn).trans state
    | serving m state mailbox unacknowledged made =>
      refine .committed m.setUpdate state rfl (by simp [mailbox]) ?_ ?_
      · exact quitAcknowledged_snoc.mpr (.inr ⟨rfl, before, x, log, answeredIn.trans state, quits⟩)
      · rw [(Mailbox.sameBox_setUpdate m).asOpened, callsIn_reply, ← made]
    | committed m state ended mailbox acknowledged made => cases writing.symm.trans ended
  | replied op writing goesOn =>
    have silent : QuitAcknowledged (d.log ++ [.replied]) → QuitAcknowledged d.log := by
      intro acknowledged
      rcases quitAcknowledged_snoc.mp acknowledged with old | ⟨_, before, x, log, _, quits⟩
      · exact old
      · exact absurd quits (quitState.silent goesOn x (by rw [log]; simp))
    cases h with
    | anonymous state mailbox unacknowledged calls =>
      exact .anonymous state mailbox (unacknowledged ∘ silent) ((callsIn_reply _).trans calls)
    | serving m state mailbox unacknowledged made =>
      exact .serving m state mailbox (unacknowledged ∘ silent) (by rw [callsIn_reply, ← made])
    | committed m state ended mailbox acknowledged made => cases writing.symm.trans ended

theorem created_quitState (sessionId : Nat) : QuitState (created sessionId) :=
  .of_clear rfl (by simp [created])

theorem Reached.quitState {cfg : Config} {sessionId : Nat} {d : Dialogue}
    (reached : Reached cfg sessionId d) : QuitState d :=
  reached.invariant QuitState (created_quitState sessionId) fun _ _ h moved => moved.quitState h

theorem Reached.carries {cfg : Config} {sessionId : Nat} {d : Dialogue}
    (reached : Reached cfg sessionId d) : Carries d := by
  refine (reached.invariant (fun d => QuitState d ∧ Carries d) ?_ ?_).2
  · exact ⟨created_quitState sessionId,
      .anonymous rfl rfl (not_quitAcknowledged fun _ member => absurd member List.not_mem_nil) rfl⟩
  · exact fun d d' h moved => ⟨moved.quitState h.1, moved.carries h.1 h.2⟩

/-! ## Without an acknowledged `QUIT` -/

/-- **Nothing is deleted without an acknowledged `QUIT`.** In every state of the server: a session
object that has been destroyed without one has removed no file. -/
theorem nothing_removed_unacknowledged {cfg : Config} {st : Server} {sessionId : Nat}
    {object : SessionObject} {removed : Except Fault (List Path)}
    (reachable : Reachable (Server.step cfg) {} st) (found : st.objects[sessionId]? = some object)
    (destroyed : object.released = some removed) (unacknowledged : ¬ QuitAcknowledged object.dialogue.log) :
    removed = .ok [] := by
  have reached := Server.objects_reached reachable sessionId object found
  rw [Server.released_eq reachable sessionId object found removed destroyed]
  cases reached.carries with
  | anonymous state mailbox _ calls => rw [mailbox]; rfl
  | serving m state mailbox _ made =>
    have uncommitted : m.Uncommitted := by
      rw [made, Mailbox.uncommitted_run_iff]
      exact Mailbox.opened_uncommitted _ _ _
    rw [mailbox]
    exact uncommitted.destroyStorages
  | committed m state ended mailbox acknowledged made => exact absurd acknowledged unacknowledged

/-- A session logs in, asks for everything to be deleted, and its connection breaks. -/
def brokenOff : List Event :=
  [.acceptDone false, .runAccept, .createSession, .session 0 .startRead, .session 0 .startTimer,
    .session 0 (.receive (ascii "PASS x" ++ crlf)), .session 0 (.runRead fun _ => Mailbox.oneByteFiles),
    .session 0 (.runLogin fun _ => Mailbox.oneByteFiles), .session 0 .sent, .session 0 .runWrite,
    .session 0 (.receive (ascii "DELE" ++ crlf)), .session 0 (.runRead fun _ => Mailbox.oneByteFiles),
    .session 0 .sent, .session 0 .runWrite, .session 0 .failRead,
    .session 0 (.runRead fun _ => Mailbox.oneByteFiles), .session 0 .expire, .session 0 (.runTimer true)]

theorem nothing_removed_brokenOff :
    ∃ st object removed, exec (Server.step dummyConfig) {} brokenOff = some st ∧
      st.objects[0]? = some object ∧ object.released = some removed ∧ removed = .ok [] := by
  obtain ⟨st, object, removed, run, found, destroyed, clear⟩ : ∃ st object removed,
      exec (Server.step dummyConfig) {} brokenOff = some st ∧ st.objects[0]? = some object ∧
        object.released = some removed ∧ object.dialogue.session.quitCommandReceived = false :=
    ⟨_, _, _, rfl, rfl, rfl, rfl⟩
  have reachable : Reachable (Server.step dummyConfig) {} st := ⟨brokenOff, run⟩
  have quitState := (Server.objects_reached reachable 0 object found).quitState
  exact ⟨st, object, removed, run, found, destroyed, nothing_removed_unacknowledged reachable found
    destroyed (not_quitAcknowledged (quitState.silent clear))⟩

/-! ## What an acknowledged `QUIT` removes -/

/-- A session in Transaction over the mailbox `box`, as the last request left it. -/
def inTransaction (s : POP3Session) (box : Mailbox) : Dialogue :=
  { session := { s with state := .Transaction, mailbox := some box, quitCommandReceived := false }
    control := .reading .outstanding }

/-- A run from inside a transaction to an acknowledged `QUIT`: what it commits. -/
theorem acknowledged_mailbox {cfg : Config} {s : POP3Session} {name : Bytes}
    {directories : List (List Path)} {lock : MailboxLock} {d : Dialogue}
    {es : List (ActiveMailboxes × SessionEvent)}
    (run : exec (Dialogue.localStep cfg) (inTransaction s (Mailbox.opened name directories lock)) es = some d)
    (acknowledged : QuitAcknowledged d.log) :
    d.session.mailbox =
      some ((Mailbox.opened name directories lock).run (callsIn d.log)).setUpdate := by
  have self := Mailbox.asOpened_opened name directories lock
  have pending : (inTransaction s (Mailbox.opened name directories lock)).LoginPending cfg := nofun
  have start : QuitState (inTransaction s (Mailbox.opened name directories lock)) ∧
      Carries (inTransaction s (Mailbox.opened name directories lock)) :=
    ⟨.of_clear rfl fun _ member => absurd member List.not_mem_nil,
      .serving _ rfl rfl (not_quitAcknowledged fun _ member => absurd member List.not_mem_nil) self.symm⟩
  have carries := (localRun_invariant (fun d => QuitState d ∧ Carries d)
    (fun d d' h moved => ⟨moved.quitState h.1, moved.carries h.1 h.2⟩) pending start run).2
  have stays := localRun_invariant (fun d' => Stays _ d'.session) (fun _ _ h moved => h.trans moved.stays)
    pending (Stays.refl _) run
  obtain ⟨inside, _, sameBox⟩ := stays rfl
  obtain ⟨m', mailbox', same⟩ := sameBox _ rfl
  cases carries with
  | anonymous state _ _ _ => cases inside.symm.trans state
  | serving m state mailbox unacknowledged made => exact absurd acknowledged unacknowledged
  | committed m state ended mailbox _ made =>
    obtain rfl : m' = m := Option.some.inj (mailbox'.symm.trans mailbox)
    rw [mailbox, made, same.asOpened, self]

/-- **What a transaction commits.** After any run from an opened mailbox to an acknowledged `QUIT`,
the destructors return, and what they remove is what was marked at the `QUIT`, exactly if then
every file of a storage marked as a whole was also recorded by number. -/
theorem commit_exact_iff {cfg : Config} {s : POP3Session} {name : Bytes} {directories : List (List Path)}
    {lock : MailboxLock} {es : List (ActiveMailboxes × SessionEvent)} {d : Dialogue}
    (run : exec (Dialogue.localStep cfg)
      (inTransaction s (Mailbox.opened name directories lock)) es = some d)
    (acknowledged : QuitAcknowledged d.log) :
    ∃ removed, d.session.mailbox.map Mailbox.destroyStorages = some (.ok removed) ∧
      ((∀ p, p ∈ removed ↔
          ((Mailbox.opened name directories lock).run (callsIn d.log)).MarkedFile p) ↔
        ∀ storage ∈ ((Mailbox.opened name directories lock).run (callsIn d.log)).storages,
          storage.deleteAll = true → ∀ p ∈ storage.emails,
            ((Mailbox.opened name directories lock).run (callsIn d.log)).Recorded p) := by
  have wf := (Mailbox.opened_wellFormed name directories lock).run (callsIn d.log)
  obtain ⟨removed, destroyed, members⟩ := wf.destroyStorages_setUpdate
  refine ⟨removed, ?_, ?_⟩
  · rw [acknowledged_mailbox run acknowledged, Option.map_some, destroyed]
  · simp only [members]
    exact Mailbox.recorded_eq_marked_iff

/-- One request, received in one chunk, handled and answered. -/
def answered (line : Bytes) : List (ActiveMailboxes × SessionEvent) :=
  [(∅, .receive (line ++ crlf)), (∅, .runRead fun _ => Mailbox.oneByteFiles), (∅, .sent), (∅, .runWrite)]

/-- A mailbox over two files in one storage. -/
def twoFiles : Mailbox := Mailbox.opened (ascii "u") [[ascii "a", ascii "b"]] ⟨ascii "u", true⟩

/-- `dummyConfig` where the text `0` is a number. -/
def zeroConfig : Config :=
  { dummyConfig with lex := fun text => if text = ascii "0" then some 0 else none }

/-- `DELE 0` and `QUIT`: the file marked is the file removed. -/
theorem commit_exact_one_deleted :
    ∃ d removed, exec (Dialogue.localStep zeroConfig) (inTransaction { sessionId := 0 } twoFiles)
        (answered (ascii "DELE 0") ++ answered (ascii "QUIT")) = some d ∧
      d.session.mailbox.map Mailbox.destroyStorages = some (.ok removed) ∧
      ∀ p, p ∈ removed ↔ (twoFiles.run (callsIn d.log)).MarkedFile p := by
  obtain ⟨d, run, calls, acknowledged⟩ : ∃ d,
      exec (Dialogue.localStep zeroConfig) (inTransaction { sessionId := 0 } twoFiles)
        (answered (ascii "DELE 0") ++ answered (ascii "QUIT")) = some d ∧
      callsIn d.log = [.deleteEmail 0] ∧ QuitAcknowledged d.log :=
    ⟨_, rfl, rfl, [_, _], _, [], rfl, rfl, _, rfl⟩
  obtain ⟨removed, destroyed, removes⟩ := commit_exact_iff run acknowledged
  have byNumber : ∀ storage ∈ (twoFiles.run [.deleteEmail 0]).storages, storage.deleteAll = false := by
    decide
  refine ⟨d, removed, run, destroyed, removes.mpr fun storage member all => ?_⟩
  rw [calls] at member
  cases all.symm.trans (byNumber storage member)

/-- `DELE` and `QUIT`: both files are marked, and none is removed. -/
theorem commit_whole_deleted_removes_nothing :
    ∃ d removed, exec (Dialogue.localStep zeroConfig) (inTransaction { sessionId := 0 } twoFiles)
        (answered (ascii "DELE") ++ answered (ascii "QUIT")) = some d ∧ QuitAcknowledged d.log ∧
      d.session.mailbox.map Mailbox.destroyStorages = some (.ok removed) ∧
      ¬ ∀ p, p ∈ removed ↔ (twoFiles.run (callsIn d.log)).MarkedFile p := by
  refine ⟨_, [], rfl, ⟨[_, _], _, [], rfl, rfl, _, rfl⟩, rfl, fun removes => ?_⟩
  have marked : (twoFiles.run [.deleteEmails]).MarkedFile (ascii "a") :=
    ⟨_, List.mem_singleton.mpr rfl, 0, rfl, rfl⟩
  exact absurd ((removes (ascii "a")).mpr marked) (by simp)

end Pop3Serv.Net
