import Pop3Serv.Net.ReplyLines
import Pop3Serv.Net.LockBounds

/-!
# Why a login finds its mailbox busy

`VerifyCredentialsAndConnect` takes the lock before it looks at the credentials. So
a `PASS` is answered with `MailboxIsBusy` exactly if its lock was refused, and that
happens only while another session holds the name: with an open mailbox, or with a
login attempt of its own, whatever becomes of it. `Refused` is such a step of a
run; the invariant of the induction (`BusyAccounted`) is that every busy answer, and
every attempt under way without its lock, goes back to one.
-/

namespace Pop3Serv.Net
open Proto Mail Logic

/-- The request was a `PASS`, and was answered with `MailboxIsBusy`. -/
def Exchange.AnsweredBusy (x : Exchange) : Prop :=
  (∃ password, x.result = .ok ⟨.PASS, .string password⟩) ∧
    x.response = POP3Status.ERR.text ++ ascii " " ++ POP3SessionError.MailboxIsBusy.text ++ crlf

/-- The session has a mailbox open under the name, or a login attempt that took its lock. -/
def SessionObject.HasName (o : SessionObject) (name : Bytes) : Prop :=
  (∃ m, o.LiveMailbox m ∧ m.name = name) ∨
    o.released = none ∧ ∃ lock password, o.dialogue.control = .loggingIn lock password ∧
      lock.acquired = true ∧ lock.name = name

theorem SessionObject.hasName_of_holds {o : SessionObject} {name : Bytes} (held : name ∈ o.holds) :
    o.HasName name := by
  obtain ⟨d, released⟩ := o
  cases released with
  | some removed => exact absurd held (Multiset.notMem_zero name)
  | none =>
    rcases Multiset.mem_add.mp held with opened | attempting
    · left
      unfold POP3Session.holds at opened
      cases mailbox : d.session.mailbox with
      | none => rw [mailbox] at opened; exact absurd opened (Multiset.notMem_zero name)
      | some m =>
        rw [mailbox] at opened
        exact ⟨m, ⟨rfl, mailbox⟩, (Multiset.mem_singleton.mp opened).symm⟩
    · right
      refine ⟨rfl, ?_⟩
      cases control : d.control with
      | loggingIn lock password =>
        simp only [control, Control.holds] at attempting
        split at attempting
        · rename_i acquired
          exact ⟨lock, password, rfl, acquired, (Multiset.mem_singleton.mp attempting).symm⟩
        · exact absurd attempting (Multiset.notMem_zero name)
      | _ => simp [control, Control.holds] at attempting

/-- A step of the run by which the session, having done what is in `log`, was refused its lock: the
start of a login attempt in its read handler, while another session had the name. (A name
with a NUL may be in the table with nobody having it.) -/
def Refused (cfg : Config) (es : List Event) (sessionId : Nat) (log : List Note) : Prop :=
  ∃ before after fs st d, es = before ++ .session sessionId (.runRead fs) :: after ∧
    exec (Server.step cfg) {} before = some st ∧ st.objects[sessionId]? = some ⟨d, none⟩ ∧
    d.control = .reading (.queued .success) ∧ pendingLogin cfg d.session ≠ none ∧ d.log = log ∧
    ((0 : UInt8) ∉ d.session.userName → ∃ (other : Nat) (o : SessionObject), other ≠ sessionId ∧
      st.objects[other]? = some o ∧ o.HasName d.session.userName)

theorem Refused.more {cfg : Config} {es : List Event} {sessionId : Nat} {log : List Note}
    (h : Refused cfg es sessionId log) (later : List Event) : Refused cfg (es ++ later) sessionId log := by
  obtain ⟨before, after, fs, st, d, rfl, rest⟩ := h
  exact ⟨before, after ++ later, fs, st, d, by simp, rest⟩

/-- Every busy answer of the session goes back to a refusal, and so does an attempt without its lock. -/
structure BusyAccounted (cfg : Config) (es : List Event) (sessionId : Nat) (o : SessionObject) : Prop where
  answers : ∀ log x rest, o.dialogue.log = log ++ .handled x :: rest → x.AnsweredBusy →
    Refused cfg es sessionId log
  attempts : ∀ lock password, o.dialogue.control = .loggingIn lock password → lock.acquired = false →
    Refused cfg es sessionId o.dialogue.log

theorem BusyAccounted.more {cfg : Config} {es : List Event} {sessionId : Nat} {o : SessionObject}
    (h : BusyAccounted cfg es sessionId o) (later : List Event) :
    BusyAccounted cfg (es ++ later) sessionId o :=
  ⟨fun log x rest same busy => (h.answers log x rest same busy).more later,
    fun lock password control free => (h.attempts lock password control free).more later⟩

/-- One more note in the log, and the chain outside a login. -/
theorem BusyAccounted.snoc {cfg : Config} {es : List Event} {sessionId : Nat} {d d' : Dialogue} {note : Note}
    {released released' : Option (Except Fault (List Path))}
    (h : BusyAccounted cfg es sessionId ⟨d, released⟩) (log : d'.log = d.log ++ [note])
    (outside : ∀ lock password, d'.control ≠ .loggingIn lock password)
    (new : ∀ x, note = .handled x → x.AnsweredBusy → Refused cfg es sessionId d.log) :
    BusyAccounted cfg es sessionId ⟨d', released'⟩ := by
  refine ⟨fun before x rest same busy => ?_, fun lock password control _ => absurd control (outside lock password)⟩
  rw [log] at same
  rcases List.eq_nil_or_concat rest with rfl | ⟨rest, last, rfl⟩
  · obtain ⟨rfl, last⟩ := List.append_inj' same rfl
    exact new x (List.head_eq_of_cons_eq last) busy
  · rw [List.concat_eq_append, ← List.cons_append, ← List.append_assoc] at same
    obtain ⟨same, _⟩ := List.append_inj' same rfl
    exact h.answers before x rest same busy

/-- The log is the same, and the chain does not enter a login. -/
theorem BusyAccounted.same {cfg : Config} {es : List Event} {sessionId : Nat} {d d' : Dialogue}
    {released released' : Option (Except Fault (List Path))}
    (h : BusyAccounted cfg es sessionId ⟨d, released⟩) (log : d'.log = d.log)
    (control : ∀ lock password, d'.control = .loggingIn lock password →
      d.control = .loggingIn lock password) : BusyAccounted cfg es sessionId ⟨d', released'⟩ := by
  refine ⟨fun before x rest same busy => ?_, fun lock password inside free => ?_⟩
  · exact h.answers before x rest (log.symm.trans same) busy
  · show Refused cfg es sessionId d'.log
    rw [log]
    exact h.attempts lock password (control lock password inside) free

/-! ## Who is answered so -/

/-- A login that has its lock is not told that the mailbox is busy. -/
theorem connect_notBusy {auth : AuthorizationManager} {defaultPath : Path} {fs : FileSystem}
    {lock : MailboxLock} {name password : Bytes} (acquired : lock.acquired = true) :
    (connect auth defaultPath fs lock name password).1 ≠ .ok (.operationError .MailboxIsBusy) := by
  unfold connect
  rw [if_pos acquired]
  split
  · simp
  · simp
  · split
    · simp
    · simp only
      split
      · simp
      · simp

/-- The answer `MailboxIsBusy` is given for nothing else. -/
theorem finishPass_busy {fs : FileSystems} {s : POP3Session} {result : Except Fault LoginResult}
    (cleared : s.response = [])
    (busy : (s.finishPass fs result).session.response =
      POP3Status.ERR.text ++ ascii " " ++ POP3SessionError.MailboxIsBusy.text ++ crlf) :
    result = .ok (.operationError .MailboxIsBusy) := by
  have told : ∀ err : Bytes, err ≠ POP3SessionError.MailboxIsBusy.text →
      (s.setErrorResponse err).response ≠
        POP3Status.ERR.text ++ ascii " " ++ POP3SessionError.MailboxIsBusy.text ++ crlf := by
    intro err differs same
    exact differs (List.append_cancel_left (List.append_cancel_right same))
  cases result with
  | error fault =>
    replace busy := cleared.symm.trans busy
    exact absurd busy (by decide)
  | ok answer =>
    cases answer with
    | mailbox m =>
      exfalso
      have negative : ¬ Positive (s.finishPass fs (.ok (.mailbox m))).session.response := by
        rw [busy]
        decide
      have silent : (s.finishPass fs (.ok (.mailbox m))).session.response ≠ [] := by
        rw [busy]
        decide
      rcases attempt_cases { s with mailbox := some m, state := .Transaction }
          (m.getWholeMailboxSize (fs 1)) _ with ⟨fault, _, ended⟩ | ⟨size, _, ended⟩
      · exact silent ((congrArg (·.session.response) ended).trans cleared)
      · have response := congrArg (·.session.response) ended
        refine negative ?_
        rw [show (s.finishPass fs (.ok (.mailbox m))).session.response = _ from response]
        simp only [List.append_assoc]
        exact positive_append _
    | authError err =>
      cases err with
      | NoSuchConsumer => exact absurd busy (told _ (by decide))
      | InvalidPassword => exact absurd busy (told _ (by decide))
      | ConsumerHasNoAssociatedMailStorage => exact absurd busy (told _ (by decide))
    | operationError err =>
      by_cases isBusy : err = .MailboxIsBusy
      · rw [isBusy]
      · have other : (s.finishPass fs (.ok (.operationError err))).session =
            s.setErrorResponse POP3SessionError.InternalError.text := by
          show (if err = .MailboxIsBusy then _ else _ : Ended).session = _
          rw [if_neg isBusy]
        rw [other] at busy
        exact absurd busy (told _ (by decide))

/-- A request that is no login attempt is not told so either. -/
theorem notBusy_of_noLogin {cfg : Config} {s : POP3Session} {fs : FileSystems} {active : ActiveMailboxes}
    {result : Parsed} (noLogin : pendingLogin cfg s = none)
    (parsed : parsePOP3Command cfg.lex s.request = .ok result) :
    ¬ Exchange.AnsweredBusy
      ⟨s.state, result, (s.readImpl cfg fs active).1.session.response, (s.readImpl cfg fs active).1.thrown,
        fs⟩ := by
  rintro ⟨⟨password, pass⟩, busy⟩
  simp only at pass busy
  subst pass
  -- in Authorization this would be a login attempt; in Transaction the answer is another one
  have inside : s.state ≠ .Authorization := fun anonymous => by
    rw [pendingLogin_eq_some_iff.mpr ⟨parsed, anonymous⟩] at noLogin
    cases noLogin
  unfold POP3Session.readImpl at busy
  rw [parsed] at busy
  simp only [if_neg inside, Ended.write_session] at busy
  replace busy : POP3Status.ERR.text ++ ascii " " ++ POP3SessionError.AlreadyLogged.text ++ crlf =
      POP3Status.ERR.text ++ ascii " " ++ POP3SessionError.MailboxIsBusy.text ++ crlf := busy
  exact absurd busy (by decide)

/-- A session that starts a login attempt, with its name in the table: another session has it. -/
theorem Refused.of_locked {cfg : Config} {before after : List Event} {st : Server} {sessionId : Nat}
    {d : Dialogue} {fs : FileSystems} {password : Bytes} (run : exec (Server.step cfg) {} before = some st)
    (lives : st.objects[sessionId]? = some ⟨d, none⟩) (reading : d.control = .reading (.queued .success))
    (pending : pendingLogin cfg d.session = some password) (locked : d.session.userName ∈ st.activeMailboxes) :
    Refused cfg (before ++ .session sessionId (.runRead fs) :: after) sessionId d.log := by
  have attempt : pendingLogin cfg d.session ≠ none := by simp [pending]
  refine ⟨before, after, fs, st, d, rfl, run, lives, reading, attempt, rfl, fun clean => ?_⟩
  obtain ⟨_, anonymous⟩ := pendingLogin_eq_some_iff.mp pending
  have bounds := Server.tableBounds ⟨before, run⟩
  obtain ⟨other, o, found, held⟩ := bounds.backed d.session.userName locked clean
  refine ⟨other, o, ?_, found, o.hasName_of_holds held⟩
  rintro rfl
  cases lives.symm.trans found
  have reached : Reached cfg other d := bounds.reached other _ lives
  have nothing : d.holds = 0 := by
    simp [Dialogue.holds, POP3Session.holds, reached.typestate.mailbox_none anonymous, reading, Control.holds]
  exact Multiset.notMem_zero _ (nothing ▸ (show d.session.userName ∈ d.holds from held))

/-- A handler that ended, and did not answer so without a refusal behind it. -/
theorem BusyAccounted.handlerEnded {cfg : Config} {es : List Event} {sessionId : Nat} {d : Dialogue}
    {fs : FileSystems} {released released' : Option (Except Fault (List Path))}
    (h : BusyAccounted cfg es sessionId ⟨d, released⟩) (ended : Ended)
    (new : ∀ result, parsePOP3Command cfg.lex d.session.request = .ok result →
      Exchange.AnsweredBusy ⟨d.session.state, result, ended.session.response, ended.thrown, fs⟩ →
        Refused cfg es sessionId d.log) :
    BusyAccounted cfg es sessionId ⟨d.handlerEnded cfg fs ended, released'⟩ := by
  rcases handlerEnded_cases cfg d fs ended with ⟨result, parsed, same⟩ | ⟨fault, failed, same⟩
  · rw [same]
    refine h.snoc rfl (fun lock password => ?_) fun x handled busy => ?_
    · simp only
      split <;> simp
    · cases handled
      exact new result parsed busy
  · rw [same]
    exact h.same rfl (by simp)

theorem BusyAccounted.runRead {cfg : Config} {before after : List Event} {st : Server} {sessionId : Nat}
    {d : Dialogue} {ec : Completion} {fs : FileSystems} {released : Option (Except Fault (List Path))}
    (h : BusyAccounted cfg (before ++ .session sessionId (.runRead fs) :: after) sessionId ⟨d, none⟩)
    (run : exec (Server.step cfg) {} before = some st)
    (lives : st.objects[sessionId]? = some ⟨d, none⟩) (reading : d.control = .reading (.queued ec)) :
    BusyAccounted cfg (before ++ .session sessionId (.runRead fs) :: after) sessionId
      ⟨(d.runRead cfg st.activeMailboxes ec fs).dialogue, released⟩ := by
  unfold Dialogue.runRead
  split
  · rename_i success
    subst success
    split
    · rename_i password pending
      refine ⟨h.answers, fun lock password' inside refused => ?_⟩
      show Refused cfg (before ++ .session sessionId (.runRead fs) :: after) sessionId d.log
      refine .of_locked run lives reading pending ?_
      simp only [Control.loggingIn.injEq] at inside
      rw [← inside.1] at refused
      by_contra free
      simp [MailboxLock.construct, LockMailbox, free] at refused
    · rename_i noLogin
      refine h.handlerEnded (d.session.readImpl cfg fs st.activeMailboxes).1 fun result parsed busy => ?_
      exact absurd busy (notBusy_of_noLogin noLogin parsed)
  · exact h.same rfl (by simp)

theorem BusyAccounted.runLogin {cfg : Config} {es : List Event} {active : ActiveMailboxes} {sessionId : Nat}
    {d : Dialogue} {lock : MailboxLock} {password : Bytes} {fs : FileSystems}
    {released : Option (Except Fault (List Path))} (h : BusyAccounted cfg es sessionId ⟨d, none⟩)
    (loggingIn : d.control = .loggingIn lock password) :
    BusyAccounted cfg es sessionId ⟨(d.runLogin cfg active lock password fs).dialogue, released⟩ := by
  apply h.handlerEnded
  intro result parsed busy
  apply h.attempts lock password loggingIn
  by_contra acquired
  have told := finishPass_busy rfl ((congrArg POP3Session.response (Ended.write_session _)).symm.trans busy.2)
  exact connect_notBusy (by simpa using acquired) told

/-- **A step of a session** in a run accounts for what it answers, and for the lock it is refused. -/
theorem BusyAccounted.step {cfg : Config} {before after : List Event} {next : Event} {st : Server}
    {sessionId : Nat} {d : Dialogue} {e : SessionEvent} {stepped : Stepped}
    {released : Option (Except Fault (List Path))}
    (h : BusyAccounted cfg (before ++ next :: after) sessionId ⟨d, none⟩)
    (run : e = .cancel ∨ exec (Server.step cfg) {} before = some st ∧ next = .session sessionId e)
    (lives : st.objects[sessionId]? = some ⟨d, none⟩)
    (step : d.step cfg st.activeMailboxes e = some stepped) :
    BusyAccounted cfg (before ++ next :: after) sessionId ⟨stepped.dialogue, released⟩ := by
  cases step_stepping step with
  | operation control timer same silent =>
    refine h.same rfl fun lock password inside => ?_
    exact Control.Same.of_loggingIn (inside ▸ same)
  | readStarted event accepted => exact h.same rfl (by simp)
  | received chunk event reading => exact h.same rfl (by simp)
  | runRead ec fs event reading =>
    subst event
    obtain ⟨arrived, rfl⟩ := run.resolve_left (by simp)
    exact h.runRead arrived lives reading
  | runLogin lock password fs event loggingIn => exact h.runLogin loggingIn
  | runWrite ec event writing =>
    unfold Dialogue.runWrite
    split
    · split
      · exact h.snoc rfl (by simp) (by simp)
      · exact h.snoc rfl (by simp) (by simp)
    · exact h.same rfl (by simp)

/-- Every session of a run is accounted for. -/
theorem busyAccounted {cfg : Config} {es : List Event} {st : Server}
    (run : exec (Server.step cfg) {} es = some st) :
    st.All fun sessionId object => BusyAccounted cfg es sessionId object := by
  induction es using List.reverseRecOn generalizing st with
  | nil => cases run; simp [Server.All]
  | append_singleton es e ih =>
    obtain ⟨before, run, step⟩ := exec_snoc_some run
    have here : before.All fun sessionId object => BusyAccounted cfg (es ++ [e]) sessionId object :=
      fun sessionId object found => (ih run sessionId object found).more [e]
    refine Server.step_preserves
      (I := Server.All fun sessionId object => BusyAccounted cfg (es ++ [e]) sessionId object)
      (C := fun st sessionId e' => e' = .cancel ∨ st = before ∧ e = .session sessionId e')
      (fun _ _ h same => h.same same) ?_ ?_ (fun _ _ => .inl rfl) here (fun _ _ same => .inr ⟨rfl, same⟩) step
    · intro st h
      refine h.createSession fun sessionId => ⟨fun log x rest logged => ?_, fun lock password inside => ?_⟩
      · exact absurd logged (by simp [created])
      · cases inside
    · intro st sessionId e' st' h now stepped
      obtain ⟨d, after, lives, moved, rfl⟩ := Server.stepSession_cases stepped
      rw [Server.settle_eq]
      refine h.set (BusyAccounted.step (h sessionId _ lives) ?_ lives moved)
      rcases now with cancel | ⟨rfl, same⟩
      · exact .inl cancel
      · exact .inr ⟨run, same⟩

/-- **A busy answer over every run.** At the step by which a `PASS` that was answered with `MailboxIsBusy`
took its lock, another session had the name, with a mailbox of that name open or a login attempt
under it that held the lock; or the name has a NUL in it. -/
theorem busy_only_if_name_held {cfg : Config} {es : List Event} {st : Server} {sessionId : Nat}
    {object : SessionObject} {log rest : List Note} {x : Exchange}
    (run : exec (Server.step cfg) {} es = some st) (found : st.objects[sessionId]? = some object)
    (logged : object.dialogue.log = log ++ .handled x :: rest) (busy : x.AnsweredBusy) :
    ∃ before after fs st' d, es = before ++ .session sessionId (.runRead fs) :: after ∧
      exec (Server.step cfg) {} before = some st' ∧ st'.objects[sessionId]? = some ⟨d, none⟩ ∧
      d.control = .reading (.queued .success) ∧ pendingLogin cfg d.session ≠ none ∧ d.log = log ∧
      ((0 : UInt8) ∉ d.session.userName → ∃ (other : Nat) (o : SessionObject), other ≠ sessionId ∧
        st'.objects[other]? = some o ∧ o.HasName d.session.userName) :=
  (busyAccounted run sessionId object found).answers log x rest logged busy

/-- Two sessions: the first sends a wrong password and has its lock when the second sends the right one. -/
def lockoutRun : List Event :=
  [.acceptDone false, .runAccept, .createSession, .acceptDone false, .runAccept, .createSession,
    .session 0 .startRead, .session 1 .startRead,
    .session 0 (.receive (ascii "USER u" ++ crlf)), .session 0 (.runRead fun _ => Mailbox.oneByteFiles),
    .session 0 .sent, .session 0 .runWrite,
    .session 1 (.receive (ascii "USER u" ++ crlf)), .session 1 (.runRead fun _ => Mailbox.oneByteFiles),
    .session 1 .sent, .session 1 .runWrite,
    .session 0 (.receive (ascii "PASS q" ++ crlf)), .session 0 (.runRead fun _ => Mailbox.oneByteFiles),
    .session 1 (.receive (ascii "PASS p" ++ crlf)), .session 1 (.runRead fun _ => Mailbox.oneByteFiles),
    .session 1 (.runLogin fun _ => Mailbox.oneByteFiles), .session 0 (.runLogin fun _ => Mailbox.oneByteFiles)]

theorem busy_only_if_name_held_lockoutRun :
    ∃ before after fs st' d, lockoutRun = before ++ .session 1 (.runRead fs) :: after ∧
      exec (Server.step oneRecordConfig) {} before = some st' ∧ st'.objects[1]? = some ⟨d, none⟩ ∧
      pendingLogin oneRecordConfig d.session ≠ none ∧ d.log.length = 2 ∧
      ((0 : UInt8) ∉ d.session.userName → ∃ (other : Nat) (o : SessionObject), other ≠ 1 ∧
        st'.objects[other]? = some o ∧ o.HasName d.session.userName) := by
  obtain ⟨st, object, user, x, run, found, logged, pass, response⟩ : ∃ st object user x,
      exec (Server.step oneRecordConfig) {} lockoutRun = some st ∧ st.objects[1]? = some object ∧
        object.dialogue.log = [user, .replied] ++ .handled x :: [] ∧
        x.result = .ok ⟨.PASS, .string (ascii "p")⟩ ∧
        x.response = POP3Status.ERR.text ++ ascii " " ++ POP3SessionError.MailboxIsBusy.text ++ crlf :=
    ⟨_, _, _, _, rfl, rfl, rfl, rfl, by decide⟩
  obtain ⟨before, after, fs, st', d, parts, reached, lives, _, attempts, log, held⟩ :=
    busy_only_if_name_held run found logged ⟨⟨_, pass⟩, response⟩
  exact ⟨before, after, fs, st', d, parts, reached, lives, attempts, by rw [log]; rfl, held⟩

/-- No session of the run has had a mailbox so far. -/
def noMailboxAfter (es : List Event) : Bool :=
  match exec (Server.step oneRecordConfig) {} es with
  | some st => st.objects.all fun o => o.dialogue.session.mailbox.isNone
  | none => true

/-- The second session is told that the mailbox is busy though its credentials are right, no mailbox is
ever open, and the attempt in its way ends with an error. -/
theorem busy_with_right_password :
    ∃ (st : Server) (o o' : SessionObject) (before before' : List Note) (x x' : Exchange),
      exec (Server.step oneRecordConfig) {} lockoutRun = some st ∧
      st.objects[1]? = some o ∧ o.dialogue.log = before ++ [.handled x] ∧ x.AnsweredBusy ∧
      o.dialogue.session.userName = ascii "u" ∧ x.result = .ok ⟨.PASS, .string (ascii "p")⟩ ∧
      (∃ vec, oneRecordConfig.auth.logon (ascii "u") (ascii "p") = .ok (.ok vec) ∧ vec ≠ []) ∧
      (∀ es ∈ lockoutRun.inits, noMailboxAfter es = true) ∧
      st.objects[0]? = some o' ∧ o'.dialogue.log = before' ++ [.handled x'] ∧
      x'.response = POP3Status.ERR.text ++ ascii " " ++ AuthError.InvalidPassword.text ++ crlf := by
  refine ⟨_, _, _, [_, _], [_, _], _, _, rfl, rfl, rfl, ⟨⟨ascii "p", rfl⟩, by decide⟩, rfl, rfl, ?_, ?_, rfl, rfl,
    by decide⟩
  · exact ⟨_, rfl, by simp⟩
  · decide

end Pop3Serv.Net
