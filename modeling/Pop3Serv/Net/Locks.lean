import Pop3Serv.Logic.Exclusive
import Pop3Serv.Net.Typestate

/-!
# The lock table

Who holds which name: a login attempt that has acquired its lock, and a mailbox
that lives. A step of a session takes a name, gives one back or keeps what it has
(`step_table`), and the table follows it, as long as the names are C strings:
`UnlockMailbox` erases the name up to its first NUL. So after every run whose
logins are under names without a NUL the table is exactly what is held.
-/

namespace Pop3Serv.Net
open Proto Mail Logic

/-- The name a login attempt under way holds. -/
def Control.holds : Control → Multiset Bytes
  | .loggingIn lock _ => if lock.acquired then {lock.name} else 0
  | _ => 0

/-- The name a session's mailbox holds. -/
def POP3Session.holds (s : POP3Session) : Multiset Bytes := s.mailbox.elim 0 fun m => {m.name}

def Dialogue.holds (d : Dialogue) : Multiset Bytes := d.session.holds + d.control.holds

/-- What a session object holds in the lock table: nothing once it is destroyed. -/
def SessionObject.holds : SessionObject → Multiset Bytes
  | { dialogue, released := none } => dialogue.holds
  | { released := some _, .. } => 0

/-- What a step of a session does to the lock table and to what the session holds. -/
inductive TableStep (cfg : Config) (active : ActiveMailboxes) (d : Dialogue) (e : SessionEvent)
    (stepped : Stepped) : Prop
  | keeps (table : stepped.active = active) (same : stepped.dialogue.holds = d.holds)
  /-- a login acquires the session's name -/
  | acquires (fs : FileSystems) (password : Bytes) (event : e = .runRead fs)
      (reading : d.control = .reading (.queued .success))
      (pending : pendingLogin cfg d.session = some password) (free : d.session.userName ∉ active)
      (table : stepped.active = insert d.session.userName active)
      (gains : stepped.dialogue.holds = d.session.userName ::ₘ d.holds)
  | releases (name : Bytes) (table : stepped.active = UnlockMailbox active name)
      (loses : d.holds = name ::ₘ stepped.dialogue.holds)

theorem Control.Same.holds {control control' : Control} (same : control.Same control') :
    control'.holds = control.holds := by
  cases same <;> rfl

theorem POP3Session.holds_map {s t : POP3Session} {f : Mailbox → Mailbox}
    (same : ∀ m, Mailbox.SameBox m (f m)) (mailbox : t.mailbox = s.mailbox.map f) : t.holds = s.holds := by
  unfold POP3Session.holds
  rw [mailbox]
  cases s.mailbox with
  | none => rfl
  | some m => simp [(same m).name]

theorem handlerEnded_holds (cfg : Config) (d : Dialogue) (fs : FileSystems) (ended : Ended) :
    (d.handlerEnded cfg fs ended).holds = ended.session.holds := by
  have control : (d.handlerEnded cfg fs ended).control.holds = 0 := by
    rcases handlerEnded_control cfg d fs ended with writing | escaped
    · rw [writing]; rfl
    · rw [escaped]; rfl
  rw [Dialogue.holds, handlerEnded_session, control, add_zero]

/-- Without a login attempt the lock table is not looked at. -/
theorem readImpl_table {cfg : Config} {s : POP3Session} (noLogin : pendingLogin cfg s = none)
    (fs : FileSystems) (active : ActiveMailboxes) : (s.readImpl cfg fs active).2 = active := by
  unfold POP3Session.readImpl
  cases parsed : parsePOP3Command cfg.lex s.request with
  | error fault => rfl
  | ok result =>
    cases result with
    | error err => rfl
    | ok cmd =>
      have requested : s.Requests cfg cmd := parsed
      have accepted := (parsePOP3Command_ok parsed).1
      simp only
      split
      · rename_i anonymous
        obtain ⟨cmdType, parameter⟩ := cmd
        cases cmdType with
        | PASS =>
          obtain ⟨password, rfl⟩ := accepted.password rfl
          rw [pendingLogin_eq_some_iff.mpr ⟨requested, anonymous⟩] at noLogin
          cases noLogin
        | _ => rfl
      · rfl

/-- Without a login attempt the session keeps the mailbox it has. -/
theorem Handled.holds {cfg : Config} {fs : FileSystems} {s : POP3Session} {ended : Ended}
    (handled : Handled cfg fs s ended) (noLogin : pendingLogin cfg s = none) :
    ended.session.holds = s.holds := by
  cases handled with
  | acted session notQuit sameName =>
    obtain ⟨response, session⟩ := session
    rw [session]
    exact POP3Session.holds_map (fun m => Mailbox.sameBox_run m (s.requestedCalls cfg)) rfl
  | named name anonymous requested known returned positive session =>
    obtain ⟨response, session⟩ := session
    rw [session]
    rfl
  | entered password m lock anonymous requested ownName connected session =>
    rw [pendingLogin_eq_some_iff.mpr ⟨requested, anonymous⟩] at noLogin
    cases noLogin
  | quitted parameter requested returned session =>
    obtain ⟨response, session⟩ := session
    rw [session]
    rfl

theorem runRead_table {cfg : Config} {active : ActiveMailboxes} {d : Dialogue} {ec : Completion}
    (typestate : Typestate d.session) (reading : d.control = .reading (.queued ec)) (fs : FileSystems) :
    TableStep cfg active d (.runRead fs) (d.runRead cfg active ec fs) := by
  have idle : d.holds = d.session.holds := by simp [Dialogue.holds, reading, Control.holds]
  unfold Dialogue.runRead
  split
  · rename_i success
    subst success
    split
    · rename_i password pending
      have anonymous := (pendingLogin_eq_some_iff.mp pending).2
      have empty : d.session.holds = 0 := by
        simp [POP3Session.holds, typestate.mailbox_none anonymous]
      by_cases free : d.session.userName ∈ active
      · refine .keeps (by simp [MailboxLock.construct, LockMailbox, free]) ?_
        rw [idle]
        simp [Dialogue.holds, Control.holds, MailboxLock.construct, LockMailbox, free]
      · refine .acquires fs password rfl reading pending free ?_ ?_
        · simp [MailboxLock.construct, LockMailbox, free]
        · rw [idle, empty]
          simp [Dialogue.holds, Control.holds, MailboxLock.construct, LockMailbox, free, empty]
    · rename_i noLogin
      refine .keeps (readImpl_table noLogin fs active) ?_
      rw [idle]
      exact (handlerEnded_holds cfg d fs _).trans ((readImpl_handled cfg fs active d.session).holds noLogin)
  · refine .keeps rfl ?_
    rw [idle]
    simp [Dialogue.holds, Control.holds]

theorem runLogin_table {cfg : Config} {active : ActiveMailboxes} {d : Dialogue} {lock : MailboxLock}
    {password : Bytes} (typestate : Typestate d.session) (pending : d.LoginPending cfg)
    (loggingIn : d.control = .loggingIn lock password) (e : SessionEvent) (fs : FileSystems) :
    TableStep cfg active d e (d.runLogin cfg active lock password fs) := by
  obtain ⟨requested, ownName⟩ := pending lock password loggingIn
  have unopened := typestate.mailbox_none (pendingLogin_eq_some_iff.mp requested).2
  have mine : d.holds = if lock.acquired then {lock.name} else 0 := by
    simp [Dialogue.holds, POP3Session.holds, unopened, loggingIn, Control.holds]
  have after : ∀ result lock', connect cfg.auth cfg.defaultPath (fs 0) lock d.session.userName password =
      (result, lock') → (d.runLogin cfg active lock password fs).active = lock'.destruct active ∧
        (d.runLogin cfg active lock password fs).dialogue.holds =
          (POP3Session.finishPass fs { d.session with response := [] } result).session.holds := by
    intro result lock' connected
    unfold Dialogue.runLogin
    simp only [connected]
    refine ⟨trivial, ?_⟩
    rw [handlerEnded_holds, Ended.write_session]
  rcases connect_cases cfg.auth cfg.defaultPath (fs 0) lock d.session.userName password with
    ⟨m, made, connected⟩ | ⟨kept, noMailbox⟩
  · obtain ⟨table, holds⟩ := after _ _ made
    refine .keeps (by rw [table]; rfl) ?_
    rw [holds, mine, if_pos connected.acquired]
    rcases POP3Session.finishPass_cases fs { d.session with response := [] } (.ok (.mailbox m)) with
      ⟨m', same, makes⟩ | ⟨differs, _⟩
    · cases same
      obtain ⟨_, response, session⟩ := makes
      rw [session, POP3Session.holds, ownName, ← connected.mailboxName]
      rfl
    · exact absurd rfl (differs m)
  · obtain ⟨table, holds⟩ := after
      (connect cfg.auth cfg.defaultPath (fs 0) lock d.session.userName password).1 lock (Prod.ext rfl kept)
    have nothing : (d.runLogin cfg active lock password fs).dialogue.holds = 0 := by
      rw [holds]
      rcases POP3Session.finishPass_cases fs { d.session with response := [] }
          (connect cfg.auth cfg.defaultPath (fs 0) lock d.session.userName password).1 with
        ⟨m, same, _⟩ | ⟨_, _, response, session⟩
      · exact absurd same (noMailbox m)
      · rw [session]
        simp [POP3Session.holds, unopened]
    by_cases acquired : lock.acquired = true
    · rw [if_pos acquired] at mine
      refine .releases lock.name ?_ (by rw [mine, nothing]; rfl)
      rw [table, MailboxLock.destruct, if_pos acquired]
    · rw [if_neg acquired] at mine
      refine .keeps ?_ (by rw [mine, nothing])
      rw [table, MailboxLock.destruct, if_neg acquired]

/-- A step that leaves the table, the mailbox and the chain's lock alone. -/
theorem TableStep.of_same {cfg : Config} {active : ActiveMailboxes} {d d' : Dialogue} {e : SessionEvent}
    {deleted : Bool} (mailbox : d'.session.mailbox = d.session.mailbox)
    (control : d'.control.holds = d.control.holds) :
    TableStep cfg active d e { dialogue := d', active, deleted } := by
  refine .keeps rfl ?_
  simp only [Dialogue.holds, POP3Session.holds, mailbox, control]

theorem runWrite_table {cfg : Config} {active : ActiveMailboxes} {d : Dialogue} {ec : Completion}
    (writing : d.control = .writing (.queued ec)) (e : SessionEvent) :
    TableStep cfg active d e (d.runWrite active ec) := by
  have idle : d.control.holds = 0 := by rw [writing]; rfl
  unfold Dialogue.runWrite
  split
  · split
    · refine .keeps rfl ?_
      rw [Dialogue.holds, Dialogue.holds, idle,
        POP3Session.holds_map (s := d.session) Mailbox.sameBox_setUpdate rfl]
      rfl
    · exact .of_same rfl idle.symm
  · exact .of_same rfl idle.symm

/-- **What a step of a session does to the lock table.** -/
theorem step_table {cfg : Config} {active : ActiveMailboxes} {d : Dialogue} {e : SessionEvent}
    {stepped : Stepped} (typestate : Typestate d.session) (pending : d.LoginPending cfg)
    (h : d.step cfg active e = some stepped) : TableStep cfg active d e stepped := by
  cases step_stepping h with
  | operation control timer same silent => exact .of_same rfl same.holds
  | readStarted event accepted => exact .of_same rfl (by rw [accepted]; rfl)
  | received chunk event reading => exact .of_same rfl (by rw [reading]; rfl)
  | runRead ec fs event reading =>
    subst event
    exact runRead_table typestate reading fs
  | runLogin lock password fs event loggingIn => exact runLogin_table typestate pending loggingIn e fs
  | runWrite ec event writing => exact runWrite_table writing e

/-- No login is attempted under a name with a NUL in it. -/
def cleanLogin (cfg : Config) (st : Server) (sessionId : Nat) : SessionEvent → Bool
  | .runRead _ =>
    match st.objects[sessionId]? with
    | some { dialogue, released := none } =>
      (pendingLogin cfg dialogue.session).isNone || !dialogue.session.userName.contains 0
    | _ => true
  | _ => true

/-- A step of the server that attempts no login under a name with a NUL in it. -/
def cleanStep (cfg : Config) (st : Server) : Event → Bool
  | .session sessionId e => cleanLogin cfg st sessionId e
  | _ => true

/-- The table is what the session objects hold. -/
structure LocksExact (cfg : Config) (st : Server) : Prop where
  reached : st.All fun sessionId object => Reached cfg sessionId object.dialogue
  table : Exact SessionObject.holds st.activeMailboxes st.objects
  noNul : st.All fun _ object => ∀ name ∈ object.holds, (0 : UInt8) ∉ name

/-- With the last holder gone no login is under way, and only the mailbox holds a name. -/
theorem dropped_holds {st : Server} {sessionId : Nat} {d : Dialogue} (dropped : ¬ st.Held sessionId d) :
    d.holds = d.session.holds := by
  have outside : d.control.holds = 0 := by
    cases control : d.control with
    | loggingIn lock password => exact absurd (.inr (.inl (by simp [control, Control.Holds]))) dropped
    | _ => rfl
  rw [Dialogue.holds, outside, add_zero]

/-- The destruction of an object releases the lock of its mailbox. -/
theorem unlocked_eq {cfg : Config} {st : Server} {sessionId : Nat} {d : Dialogue}
    (reached : Reached cfg sessionId d) (dropped : ¬ st.Held sessionId d) {m : Mailbox}
    (mailbox : d.session.mailbox = some m) :
    st.unlocked sessionId d = UnlockMailbox st.activeMailboxes m.name := by
  have lock : m.lock = ⟨m.name, true⟩ := by
    rw [reached.typestate.lock m mailbox, reached.typestate.mailboxName m mailbox]
  unfold Server.unlocked
  rw [if_neg dropped, mailbox]
  simp only [Option.elim_some, Mailbox.destroyLock, lock, MailboxLock.destruct, if_true]

/-- The destruction of an object takes its mailbox's name out of the table, and nothing else. -/
theorem unlocked_exact {cfg : Config} (st : Server) {sessionId : Nat} {d : Dialogue} {o : SessionObject}
    (reached : Reached cfg sessionId d) (noNul : ∀ name ∈ d.holds, (0 : UInt8) ∉ name)
    (there : st.objects[sessionId]? = some o)
    (h : Exact SessionObject.holds st.activeMailboxes (st.objects.set sessionId ⟨d, none⟩)) :
    Exact SessionObject.holds (st.unlocked sessionId d)
      (st.objects.set sessionId ⟨d, st.outcome sessionId d⟩) := by
  by_cases held : st.Held sessionId d
  · unfold Server.unlocked Server.outcome
    rw [if_pos held, if_pos held]
    exact h
  · have here : (st.objects.set sessionId ⟨d, none⟩)[sessionId]? = some ⟨d, none⟩ := by
      rw [List.getElem?_set_self (List.getElem?_eq_some_iff.mp there).1]
    have mine := dropped_holds held
    unfold Server.outcome
    rw [if_neg held]
    cases mailbox : d.session.mailbox with
    | none =>
      have nothing : d.holds = 0 := by rw [mine, POP3Session.holds, mailbox]; rfl
      have kept := h.keep (b := ⟨d, some (.ok [])⟩) here
        (by rw [SessionObject.holds, SessionObject.holds, nothing])
      rw [List.set_set] at kept
      unfold Server.unlocked
      rw [if_neg held, mailbox]
      exact kept
    | some m =>
      have one : d.holds = {m.name} := by rw [mine, POP3Session.holds, mailbox]; rfl
      have clean : (0 : UInt8) ∉ m.name := noNul m.name (by rw [one]; exact Multiset.mem_singleton_self _)
      have released := h.release (b := ⟨d, some m.destroyStorages⟩) (k := m.name) here
        (by rw [SessionObject.holds, SessionObject.holds, one]; rfl)
      rw [List.set_set] at released
      rw [unlocked_eq reached held mailbox, UnlockMailbox, cstr_of_noNul clean]
      exact released

theorem LocksExact.stepSession {cfg : Config} {st st' : Server} {sessionId : Nat} {e : SessionEvent}
    (h : LocksExact cfg st) (clean : cleanLogin cfg st sessionId e = true)
    (step : st.stepSession cfg sessionId e = some st') : LocksExact cfg st' := by
  obtain ⟨d, stepped, lives, moved, rfl⟩ := Server.stepSession_cases step
  have reached : Reached cfg sessionId d := h.reached sessionId _ lives
  have noNul : ∀ name ∈ d.holds, (0 : UInt8) ∉ name := h.noNul sessionId _ lives
  have table := step_table reached.typestate reached.loginPending moved
  have after := Server.reached_step sessionId d e _ stepped reached moved
  have noNul' : ∀ name ∈ stepped.dialogue.holds, (0 : UInt8) ∉ name := by
    intro name member
    cases table with
    | keeps _ same => exact noNul name (same ▸ member)
    | acquires fs password event reading pending free _ gains =>
      subst event
      rcases Multiset.mem_cons.mp (gains ▸ member) with rfl | old
      · simp only [cleanLogin, lives, pending, Option.isNone_some, Bool.false_or, Bool.not_eq_true',
          List.contains_eq_mem, decide_eq_false_iff_not] at clean
        exact clean
      · exact noNul name old
    | releases released _ loses => exact noNul name (by rw [loses]; exact Multiset.mem_cons_of_mem member)
  have exactly : Exact SessionObject.holds stepped.active
      (st.objects.set sessionId ⟨stepped.dialogue, none⟩) := by
    cases table with
    | keeps same holds => rw [same]; exact h.table.keep lives holds
    | acquires fs password event reading pending free grown gains =>
      rw [grown]
      exact h.table.acquire lives free gains
    | releases released shrunk loses =>
      have clean := noNul released (by rw [loses]; exact Multiset.mem_cons_self _ _)
      rw [shrunk, UnlockMailbox, cstr_of_noNul clean]
      exact h.table.release lives loses
  rw [Server.settle_eq]
  refine ⟨h.reached.set after, ?_, h.noNul.set ?_⟩
  · exact unlocked_exact (st.between sessionId stepped) after noNul' lives exactly
  · intro name member
    cases outcome : (st.between sessionId stepped).outcome sessionId stepped.dialogue with
    | none => rw [outcome] at member; exact noNul' name member
    | some removed => rw [outcome] at member; exact absurd member (Multiset.notMem_zero name)

theorem LocksExact.step {cfg : Config} {st st' : Server} {e : Event} (h : LocksExact cfg st)
    (clean : cleanStep cfg st e = true) (step : st.step cfg e = some st') : LocksExact cfg st' := by
  refine Server.step_preserves (I := LocksExact cfg)
    (C := fun st sessionId e => cleanLogin cfg st sessionId e = true) ?_ ?_ ?_ (fun _ _ => rfl) h ?_ step
  · intro st st' h same
    refine ⟨h.reached.same same, ?_, h.noNul.same same⟩
    rw [same.activeMailboxes, same.objects]
    exact h.table
  · intro st h
    refine ⟨h.reached.createSession fun _ => Reachable.refl _, h.table.append rfl, ?_⟩
    exact h.noNul.createSession fun _ name member => absurd member (Multiset.notMem_zero name)
  · exact fun st sessionId e st' h clean step => h.stepSession clean step
  · rintro sessionId e' rfl
    exact clean

/-- The mailbox of an object that has not been destroyed. -/
def SessionObject.LiveMailbox (o : SessionObject) (m : Mailbox) : Prop :=
  o.released = none ∧ o.dialogue.session.mailbox = some m

theorem SessionObject.mem_holds_iff {o : SessionObject}
    (idle : ∀ lock password, o.dialogue.control ≠ .loggingIn lock password) {name : Bytes} :
    name ∈ o.holds ↔ ∃ m, o.LiveMailbox m ∧ m.name = name := by
  obtain ⟨d, released⟩ := o
  cases released with
  | some removed => simp [SessionObject.holds, SessionObject.LiveMailbox]
  | none =>
    have outside : d.control.holds = 0 := by
      cases control : d.control with
      | loggingIn lock password => exact absurd control (idle lock password)
      | _ => rfl
    cases mailbox : d.session.mailbox with
    | none => simp [SessionObject.holds, Dialogue.holds, POP3Session.holds, outside, mailbox, LiveMailbox]
    | some m =>
      simp [SessionObject.holds, Dialogue.holds, POP3Session.holds, outside, mailbox, LiveMailbox, eq_comm]

/-- The table is exact in every state of a run without a login under a name with a NUL. -/
theorem locksExact_of_clean {cfg : Config} {es : List Event} {st : Server}
    (clean : StepsMeet (Server.step cfg) (fun st e => cleanStep cfg st e = true) {} es)
    (run : exec (Server.step cfg) {} es = some st) : LocksExact cfg st := by
  have start : LocksExact cfg {} := ⟨by simp [Server.All], rfl, by simp [Server.All]⟩
  exact exec_invariant_of (LocksExact cfg) _ (fun st e st' h clean step => h.step clean step) start clean run

/-- **The lock table is exact and exclusive** in every state, with no login attempt under way, of
every run of the server in which no login is attempted under a name with a NUL. -/
theorem lock_table_exact {cfg : Config} {es : List Event} {st : Server}
    (clean : StepsMeet (Server.step cfg) (fun st e => cleanStep cfg st e = true) {} es)
    (run : exec (Server.step cfg) {} es = some st)
    (idle : ∀ object ∈ st.objects, ∀ lock password,
      object.dialogue.control ≠ .loggingIn lock password) :
    (∀ name, name ∈ st.activeMailboxes ↔
      ∃ object ∈ st.objects, ∃ m, object.LiveMailbox m ∧ m.name = name) ∧
    (∀ (i j : Nat) (oi oj : SessionObject) (mi mj : Mailbox),
      st.objects[i]? = some oi → st.objects[j]? = some oj →
      oi.LiveMailbox mi → oj.LiveMailbox mj → mi.name = mj.name → i = j) := by
  have locks := locksExact_of_clean clean run
  constructor
  · intro name
    rw [locks.table.mem_iff]
    refine exists_congr fun object => and_congr_right fun member => ?_
    exact object.mem_holds_iff (idle object member)
  · intro i j oi oj mi mj at_i at_j mine yours same
    have idle_i := idle oi (List.mem_of_getElem? at_i)
    have idle_j := idle oj (List.mem_of_getElem? at_j)
    refine locks.table.exclusive at_i at_j (k := mi.name) ?_ ?_
    · exact (oi.mem_holds_iff idle_i).mpr ⟨mi, mine, rfl⟩
    · exact (oj.mem_holds_iff idle_j).mpr ⟨mj, yours, same.symm⟩

/-- A session is accepted and logs in under the empty name. -/
def loginRun : List Event :=
  [.acceptDone false, .runAccept, .createSession, .session 0 .startRead,
    .session 0 (.receive (ascii "PASS x" ++ crlf)), .session 0 (.runRead fun _ => Mailbox.oneByteFiles),
    .session 0 (.runLogin fun _ => Mailbox.oneByteFiles)]

theorem lock_table_exact_loginRun :
    ∃ st, exec (Server.step dummyConfig) {} loginRun = some st ∧
      ∃ object ∈ st.objects, ∃ m, object.LiveMailbox m ∧ m.name = [] := by
  obtain ⟨st, run, table, objects⟩ : ∃ st, exec (Server.step dummyConfig) {} loginRun = some st ∧
      st.activeMailboxes = {[]} ∧ st.objects.map (·.dialogue.control) = [.writing .outstanding] :=
    ⟨_, rfl, rfl, rfl⟩
  refine ⟨st, run, ((lock_table_exact (by decide) run fun object member lock password same => ?_).1 []).mp ?_⟩
  · have control : object.dialogue.control ∈ st.objects.map (·.dialogue.control) := List.mem_map_of_mem member
    rw [objects, same] at control
    simp at control
  · simp [table]

/-- A directory that cannot be read. -/
def unreadable : FileSystem := { Mailbox.oneByteFiles with regular_files := fun _ => none }

/-- A user whose name holds a NUL, and whose one storage cannot be created. -/
def nulLogin : List Event :=
  [.acceptDone false, .runAccept, .createSession, .session 0 .startRead,
    .session 0 (.receive (ascii "USER a" ++ [0] ++ ascii "b" ++ crlf)),
    .session 0 (.runRead fun _ => unreadable), .session 0 .sent, .session 0 .runWrite,
    .session 0 (.receive (ascii "PASS x" ++ crlf)), .session 0 (.runRead fun _ => unreadable),
    .session 0 (.runLogin fun _ => unreadable)]

/-- After the failed login there is no mailbox, but its name is still in the table. -/
theorem nul_name_stays_locked :
    ∃ st, exec (Server.step dummyConfig) {} nulLogin = some st ∧
      (∀ object ∈ st.objects, ∀ lock password, object.dialogue.control ≠ .loggingIn lock password) ∧
      ¬ ∀ name, name ∈ st.activeMailboxes ↔
        ∃ object ∈ st.objects, ∃ m, object.LiveMailbox m ∧ m.name = name := by
  obtain ⟨st, run, locked, controls, mailboxes⟩ : ∃ st, exec (Server.step dummyConfig) {} nulLogin = some st ∧
      ascii "a" ++ [0] ++ ascii "b" ∈ st.activeMailboxes ∧
      st.objects.map (·.dialogue.control) = [.writing .outstanding] ∧
      st.objects.map (·.dialogue.session.mailbox) = [none] := ⟨_, rfl, by decide, rfl, rfl⟩
  refine ⟨st, run, fun object member lock password same => ?_, fun exactly => ?_⟩
  · have control : object.dialogue.control ∈ st.objects.map (·.dialogue.control) := List.mem_map_of_mem member
    rw [controls, same] at control
    simp at control
  · obtain ⟨object, member, m, ⟨_, has⟩, _⟩ := (exactly _).mp locked
    have member : object.dialogue.session.mailbox ∈ st.objects.map (·.dialogue.session.mailbox) :=
      List.mem_map_of_mem member
    rw [mailboxes, has] at member
    simp at member

end Pop3Serv.Net
