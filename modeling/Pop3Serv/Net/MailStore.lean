import Pop3Serv.Mail.AccountStore
import Pop3Serv.Net.IdleTimer
import Pop3Serv.Net.OneRecord

/-!
# The mail on the disk

The server over the directories its mailboxes list. A mailbox's lock is its last member, so
`~Mailbox` releases it first and destroys the storages after it; each file that
`~FileSystemMailStorage` removes is a step of its own here (`StoreEvent.remove`), and other threads
may run in between. Other programs put new mail into the directories and take none
out. What a step of the server does to one session's mailbox is said once
(`Server.step_slot`), and all that follows is about the files.
-/

namespace Pop3Serv.Mail.Disk

/-- `std::filesystem::remove` of a regular file, or of what is not there. -/
def remove (disk : Disk) (place : Place) : Disk := { disk with files := disk.files.erase place }

@[simp] theorem resolve_remove (disk : Disk) (place : Place) (path : Path) :
    (disk.remove place).resolve path = disk.resolve path := rfl

@[simp] theorem resolve_write (disk : Disk) (place : Place) (content : Bytes) (path : Path) :
    (disk.write place content).resolve path = disk.resolve path := rfl

theorem lookup_remove_self (disk : Disk) (place : Place) : (disk.remove place).files.lookup place = none :=
  AList.lookup_erase _ _

theorem lookup_remove_ne (disk : Disk) {place other : Place} (differ : other ≠ place) :
    (disk.remove place).files.lookup other = disk.files.lookup other := AList.lookup_erase_ne differ

/-- Removing brings nothing back. -/
theorem lookup_remove_none {disk : Disk} {place other : Place} (missing : disk.files.lookup other = none) :
    (disk.remove place).files.lookup other = none := by
  by_cases same : other = place
  · subst same
    exact lookup_remove_self disk other
  · rw [lookup_remove_ne disk same, missing]

end Pop3Serv.Mail.Disk

namespace Pop3Serv.Net
open Proto Mail Logic

/-! ## What a step does to a mailbox -/

/-- What a step of a session does to its mailbox. -/
inductive MailboxMoved (cfg : Config) (e : SessionEvent) (d d' : Dialogue) : Prop
  | kept (f : Mailbox → Mailbox) (same : ∀ m, Mailbox.SameBox m (f m))
      (mailbox : d'.session.mailbox = d.session.mailbox.map f)
  | opened (fs : FileSystems) (lock : MailboxLock) (password : Bytes) (m : Mailbox) (event : e = .runLogin fs)
      (loggingIn : d.control = .loggingIn lock password) (ownName : lock.name = d.session.userName)
      (before : d.session.mailbox = none)
      (connected : Connected cfg.auth cfg.defaultPath (fs 0) lock d.session.userName password m)
      (after : d'.session.mailbox = some m)

theorem MailboxMoved.of_same {cfg : Config} {e : SessionEvent} {d d' : Dialogue}
    (mailbox : d'.session.mailbox = d.session.mailbox) : MailboxMoved cfg e d d' :=
  .kept id Mailbox.SameBox.refl (by rw [mailbox, Option.map_id]; rfl)

/-- A request that is no login moves the mailbox by its calls. -/
theorem Handled.mailboxMoved {cfg : Config} {fs : FileSystems} {d d' : Dialogue} {ended : Ended} {e : SessionEvent}
    (handled : Handled cfg fs d.session ended) (noLogin : pendingLogin cfg d.session = none)
    (after : d'.session = ended.session) : MailboxMoved cfg e d d' := by
  cases handled with
  | acted session notQuit sameName =>
    obtain ⟨response, session⟩ := session
    exact .kept _ (fun m => Mailbox.sameBox_run m (d.session.requestedCalls cfg)) (by rw [after, session])
  | named name anonymous requested known returned positive session =>
    obtain ⟨response, session⟩ := session
    exact .of_same (by rw [after, session])
  | entered password m lock anonymous requested ownName connected session =>
    rw [pendingLogin_eq_some_iff.mpr ⟨requested, anonymous⟩] at noLogin
    cases noLogin
  | quitted parameter requested returned session =>
    obtain ⟨response, session⟩ := session
    exact .of_same (by rw [after, session])

theorem runRead_mailboxMoved {cfg : Config} (d : Dialogue) (e : SessionEvent) (active : ActiveMailboxes)
    (ec : Completion) (fs : FileSystems) : MailboxMoved cfg e d (d.runRead cfg active ec fs).dialogue := by
  unfold Dialogue.runRead
  split
  · split
    · exact .of_same rfl
    · rename_i noLogin
      exact (readImpl_handled cfg fs active d.session).mailboxMoved noLogin (handlerEnded_session cfg d fs _)
  · exact .of_same rfl

theorem runLogin_mailboxMoved {cfg : Config} {d : Dialogue} {lock : MailboxLock} {password : Bytes}
    (typestate : Typestate d.session) (pending : d.LoginPending cfg) (loggingIn : d.control = .loggingIn lock password)
    (active : ActiveMailboxes) (fs : FileSystems) :
    MailboxMoved cfg (.runLogin fs) d (d.runLogin cfg active lock password fs).dialogue := by
  obtain ⟨requested, ownName⟩ := pending lock password loggingIn
  have unopened := typestate.mailbox_none (pendingLogin_eq_some_iff.mp requested).2
  have session : (d.runLogin cfg active lock password fs).dialogue.session =
      (POP3Session.finishPass fs { d.session with response := [] }
        (connect cfg.auth cfg.defaultPath (fs 0) lock d.session.userName password).1).session :=
    (handlerEnded_session cfg d fs _).trans (Ended.write_session _)
  rcases POP3Session.finishPass_cases fs { d.session with response := [] }
      (connect cfg.auth cfg.defaultPath (fs 0) lock d.session.userName password).1 with
    ⟨m, result, _, response, entered⟩ | ⟨_, _, response, same⟩
  · rcases connect_cases cfg.auth cfg.defaultPath (fs 0) lock d.session.userName password with
      ⟨m', made, connected⟩ | ⟨_, noMailbox⟩
    · rw [made] at result
      cases result
      exact .opened fs lock password m rfl loggingIn ownName unopened connected (by rw [session, entered]; rfl)
    · exact absurd result (noMailbox m)
  · exact .of_same (by rw [session, same]; simp [unopened])

theorem runWrite_mailboxMoved {cfg : Config} (d : Dialogue) (e : SessionEvent) (active : ActiveMailboxes)
    (ec : Completion) : MailboxMoved cfg e d (d.runWrite active ec).dialogue := by
  unfold Dialogue.runWrite
  split
  · split
    · exact .kept _ Mailbox.sameBox_setUpdate rfl
    · exact .of_same rfl
  · exact .of_same rfl

/-- **A mailbox is opened by a login, and is the same one from then on.** -/
theorem step_mailboxMoved {cfg : Config} {active : ActiveMailboxes} {d : Dialogue} {e : SessionEvent}
    {stepped : Stepped} (typestate : Typestate d.session) (pending : d.LoginPending cfg)
    (h : d.step cfg active e = some stepped) : MailboxMoved cfg e d stepped.dialogue := by
  cases step_stepping h with
  | operation control timer same silent => exact .of_same rfl
  | readStarted event accepted => exact .of_same rfl
  | received chunk event reading => exact .of_same rfl
  | runRead ec fs event reading => exact runRead_mailboxMoved d e active ec fs
  | runLogin lock password fs event loggingIn =>
    subst event
    exact runLogin_mailboxMoved typestate pending loggingIn active fs
  | runWrite ec event writing => exact runWrite_mailboxMoved d e active ec

/-- What a step of the server does to the mailbox of one session object, to what it has
released, and to its log. -/
inductive SlotMoved (cfg : Config) (e : Event) (sessionId : Nat) (st : Server) (o' : SessionObject) : Prop
  | created (fresh : st.objects[sessionId]? = none) (new : o' = { dialogue := created sessionId })
  | kept (o : SessionObject) (found : st.objects[sessionId]? = some o)
      (session : o'.dialogue.session = o.dialogue.session) (released : o'.released = o.released)
      (log : o'.dialogue.log = o.dialogue.log)
  | stepped (d : Dialogue) (e' : SessionEvent) (event : e = .session sessionId e')
      (lives : st.objects[sessionId]? = some ⟨d, none⟩) (moved : MailboxMoved cfg e' d o'.dialogue)
      (step : d.localStep cfg (st.activeMailboxes, e') = some o'.dialogue)

/-- `cancelAll` leaves every session and its log as they are, and destroys none. -/
theorem Server.cancelAll_slots {cfg : Config} (st : Server) {sessionId : Nat} {o' : SessionObject}
    (found : (st.cancelAll cfg).objects[sessionId]? = some o') :
    ∃ o, st.objects[sessionId]? = some o ∧ o'.dialogue.session = o.dialogue.session ∧ o'.released = o.released ∧
      o'.dialogue.log = o.dialogue.log := by
  let Kept (st' : Server) : Prop := st'.sessions = st.sessions ∧
    ∀ (i : Nat) (o' : SessionObject), st'.objects[i]? = some o' →
      ∃ o, st.objects[i]? = some o ∧ o'.dialogue.session = o.dialogue.session ∧ o'.released = o.released ∧
        o'.dialogue.log = o.dialogue.log
  have all : Kept (st.cancelAll cfg) := by
    refine List.foldlRecOn st.sessions (cancelOne cfg) ⟨rfl, fun i o found => ⟨o, found, rfl, rfl, rfl⟩⟩ ?_
    rintro st' ⟨sessions, slots⟩ i listed
    unfold cancelOne
    cases step : st'.stepSession cfg i .cancel with
    | none => exact ⟨sessions, slots⟩
    | some st'' =>
      obtain ⟨d, stepped, lives, moved, rfl⟩ := stepSession_cases step
      cases moved
      show Kept (Server.settle _ i _)
      rw [settle_eq]
      refine ⟨sessions, fun other o' found => ?_⟩
      rcases object_set_cases found with ⟨rfl, rfl⟩ | ⟨_, old⟩
      · obtain ⟨o, there, session, released, log⟩ := slots other _ lives
        refine ⟨o, there, session, Eq.trans ?_ released, log⟩
        -- a session in the list is held by it
        exact if_pos (.inl (show other ∈ st'.sessions from sessions ▸ listed))
      · exact slots other o' old
  exact all.2 sessionId o' found

/-- **What a step of the server does to one session object.** -/
theorem Server.step_slot {cfg : Config} {st st' : Server} {e : Event} {sessionId : Nat} {o' : SessionObject}
    (reachable : Reachable (Server.step cfg) {} st) (h : st.step cfg e = some st')
    (found : st'.objects[sessionId]? = some o') : SlotMoved cfg e sessionId st o' := by
  cases step_moves h with
  | acceptDone failed waiting => exact .kept o' found rfl rfl rfl
  | runAccept ec queued => cases ec <;> exact .kept o' found rfl rfl rfl
  | created creates =>
    rcases createSession_objects found with old | ⟨rfl, rfl⟩
    · exact .kept o' old rfl rfl rfl
    · exact .created (List.getElem?_eq_none (Nat.le_refl _)) rfl
  | session other e st' notCancel settled =>
    obtain ⟨d, stepped, lives, moved, rfl⟩ := stepSession_cases settled
    rw [settle_eq] at found
    rcases object_set_cases found with ⟨rfl, rfl⟩ | ⟨_, old⟩
    · have reached : Reached cfg sessionId d := objects_reached reachable sessionId _ lives
      refine .stepped d e rfl lives (step_mailboxMoved reached.typestate reached.loginPending moved) ?_
      rw [Dialogue.localStep, moved]
      rfl
    · exact .kept o' old rfl rfl rfl
  | sessionsCancelled running =>
    obtain ⟨o, there, session, released, log⟩ := cancelAll_slots st found
    exact .kept o there session released log
  | acceptorCancelled after => exact .kept o' found rfl rfl rfl

/-- No step takes an object away. -/
theorem Server.object_stays {cfg : Config} {st st' : Server} {e : Event} {sessionId : Nat} {o : SessionObject}
    (h : st.step cfg e = some st') (found : st.objects[sessionId]? = some o) :
    ∃ o', st'.objects[sessionId]? = some o' := by
  have bound := (List.getElem?_eq_some_iff.mp found).1
  have grown : st.objects.length ≤ st'.objects.length := by
    by_cases create : e = .createSession
    · subst create
      cases step_moves h with
      | created creates => simp [createSession]
    · exact Nat.le_of_eq (length_step create h).symm
  exact ⟨_, List.getElem?_eq_getElem (Nat.lt_of_lt_of_le bound grown)⟩

/-! ## The store -/

/-- What the storages' destructors of a session are to remove, once its object is destroyed. -/
def Server.releasedAt (st : Server) (sessionId : Nat) : Option (Except Fault (List Path)) :=
  st.objects[sessionId]?.bind (·.released)

/-- The removals that a step of the server starts for a session: those of a mailbox it destroys. -/
def Server.started (before after : Server) (sessionId : Nat) : List Path :=
  match before.releasedAt sessionId, after.releasedAt sessionId with
  | none, some (.ok paths) => paths
  | _, _ => []

/-- What is released stays released. -/
theorem Server.releasedAt_step {cfg : Config} {st st' : Server} {e : Event} {sessionId : Nat}
    {result : Except Fault (List Path)} (reachable : Reachable (step cfg) {} st)
    (h : st.step cfg e = some st') (released : st.releasedAt sessionId = some result) :
    st'.releasedAt sessionId = some result := by
  obtain ⟨o, found, already⟩ := Option.bind_eq_some_iff.mp released
  obtain ⟨o', found'⟩ := object_stays h found
  unfold releasedAt
  rw [found', Option.bind_some]
  cases step_slot reachable h found' with
  | created fresh new => cases fresh.symm.trans found
  | kept o there session same =>
    cases there.symm.trans found
    exact same.trans already
  | stepped d e' event lives moved =>
    cases lives.symm.trans found
    cases already

theorem Server.started_some {before after : Server} {sessionId : Nat} {path : Path}
    (member : path ∈ before.started after sessionId) :
    before.releasedAt sessionId = none ∧
      ∃ paths, after.releasedAt sessionId = some (.ok paths) ∧ path ∈ paths := by
  unfold started at member
  split at member
  · rename_i paths alive released
    exact ⟨alive, paths, released, member⟩
  · cases member

structure MailStore where
  server : Server := {}
  disk : Disk
  /-- what the destructors under way are still to remove, by `sessionId` -/
  removals : Nat → List Path := fun _ => []

inductive StoreEvent where
  | server (e : Event)
  /-- the storages' destructors of a session remove their next file -/
  | remove (sessionId : Nat)
  /-- another program puts a new mail into a directory -/
  | deliver (place : Place) (content : Bytes)

namespace MailStore

def step (cfg : Config) (st : MailStore) : StoreEvent → Option MailStore
  | .server e =>
    (st.server.step cfg e).map fun server =>
      { st with
        server
        removals := fun sessionId => st.removals sessionId ++ st.server.started server sessionId }
  | .remove sessionId =>
    match st.removals sessionId with
    | path :: rest =>
      some { st with
        disk := st.disk.remove (st.disk.resolve path)
        removals := Function.update st.removals sessionId rest }
    | [] => none
  | .deliver place content =>
    if (st.disk.files.lookup place).isSome ∨ st.disk.directory place = true then none
    else some { st with disk := st.disk.write place content }

/-- The forms a step can have. -/
inductive Moves (cfg : Config) (st : MailStore) : StoreEvent → MailStore → Prop
  | server (e : Event) (server : Server) (moved : st.server.step cfg e = some server) :
      Moves cfg st (.server e)
        { st with
          server
          removals := fun sessionId => st.removals sessionId ++ st.server.started server sessionId }
  | removed (sessionId : Nat) (path : Path) (rest : List Path) (next : st.removals sessionId = path :: rest) :
      Moves cfg st (.remove sessionId)
        { st with
          disk := st.disk.remove (st.disk.resolve path)
          removals := Function.update st.removals sessionId rest }
  | delivered (place : Place) (content : Bytes) (free : st.disk.files.lookup place = none) :
      Moves cfg st (.deliver place content) { st with disk := st.disk.write place content }

/-- **Every step of the store has one of these forms.** -/
theorem step_moves {cfg : Config} {st st' : MailStore} {e : StoreEvent} (h : st.step cfg e = some st') :
    Moves cfg st e st' := by
  cases e with
  | server e =>
    obtain ⟨server, moved, rfl⟩ := Option.map_eq_some_iff.mp h
    exact .server e server moved
  | remove sessionId =>
    simp only [step] at h
    split at h
    · rename_i path rest next
      cases h
      exact .removed sessionId path rest next
    · cases h
  | deliver place content =>
    simp only [step] at h
    split at h
    · cases h
    · rename_i free
      cases h
      exact .delivered place content (by simpa using (not_or.mp free).1)

/-- The path leads where it did before the step. -/
theorem step_resolve {cfg : Config} {st st' : MailStore} {e : StoreEvent} (h : st.step cfg e = some st') (path : Path) :
    st'.disk.resolve path = st.disk.resolve path := by
  cases step_moves h <;> rfl

theorem exec_resolve {cfg : Config} {st st' : MailStore} {es : List StoreEvent}
    (run : exec (step cfg) st es = some st') (path : Path) : st'.disk.resolve path = st.disk.resolve path :=
  exec_invariant (fun now : MailStore => now.disk.resolve path = st.disk.resolve path)
    (fun _ _ _ here next => (step_resolve next path).trans here) rfl run

/-! ## Removals -/

/-- What is still to be removed is what a destroyed mailbox had to remove. -/
structure Bookkeeping (cfg : Config) (st : MailStore) : Prop where
  reachable : Reachable (Server.step cfg) {} st.server
  pending : ∀ sessionId, ∀ path ∈ st.removals sessionId,
    ∃ paths, st.server.releasedAt sessionId = some (.ok paths) ∧ path ∈ paths

theorem Bookkeeping.step {cfg : Config} {st st' : MailStore} {e : StoreEvent} (h : Bookkeeping cfg st)
    (next : st.step cfg e = some st') : Bookkeeping cfg st' := by
  cases step_moves next with
  | server e server moved =>
    refine ⟨h.reachable.snoc moved, fun sessionId path member => ?_⟩
    rcases List.mem_append.mp member with old | new
    · obtain ⟨paths, released, listed⟩ := h.pending sessionId path old
      exact ⟨paths, Server.releasedAt_step h.reachable moved released, listed⟩
    · exact (Server.started_some new).2
  | removed sessionId path rest first =>
    refine ⟨h.reachable, fun other path' member => h.pending other path' ?_⟩
    by_cases own : other = sessionId
    · subst own
      simp only [Function.update_self] at member
      rw [first]
      exact List.mem_cons_of_mem path member
    · simpa only [Function.update_of_ne own] using member
  | delivered place content free => exact ⟨h.reachable, h.pending⟩

theorem bookkeeping {cfg : Config} {disk : Disk} {st : MailStore} {es : List StoreEvent}
    (run : exec (step cfg) { disk } es = some st) : Bookkeeping cfg st :=
  exec_invariant (Bookkeeping cfg) (fun _ _ _ h next => h.step next) ⟨.refl _, by simp⟩ run

end MailStore

/-- A mailbox that removes anything was committed by an acknowledged `QUIT`. -/
theorem Reached.removes {cfg : Config} {sessionId : Nat} {d : Dialogue} {paths : List Path} {path : Path}
    (reached : Reached cfg sessionId d)
    (removes : d.session.mailbox.elim (.ok []) Mailbox.destroyStorages = .ok paths) (member : path ∈ paths) :
    QuitAcknowledged d.log ∧ ∃ m, d.session.mailbox = some m ∧ m.Recorded path := by
  have acknowledged : QuitAcknowledged d.log := by
    by_contra unacknowledged
    cases reached.carries with
    | anonymous state mailbox _ calls =>
      rw [mailbox] at removes
      cases removes
      exact List.not_mem_nil member
    | serving m state mailbox _ made =>
      have uncommitted : m.Uncommitted := by
        rw [made, Mailbox.uncommitted_run_iff]
        exact Mailbox.opened_uncommitted _ _ _
      rw [mailbox, Option.elim_some, uncommitted.destroyStorages] at removes
      cases removes
      exact List.not_mem_nil member
    | committed m state ended mailbox acknowledged made => exact unacknowledged acknowledged
  obtain ⟨m, removed, mailbox, destroys, members⟩ := reached.destroyStorages acknowledged
  rw [mailbox, Option.elim_some, destroys] at removes
  cases removes
  exact ⟨acknowledged, m, mailbox, (members path).mp member⟩

/-- The session removed the file at the place, or is about to: it was destroyed, an acknowledged
`QUIT` behind it, and had the file in its mailbox and recorded for deletion. -/
def RemovedBy (st : MailStore) (sessionId : Nat) (place : Place) : Prop :=
  ∃ d removed m path, st.server.objects[sessionId]? = some ⟨d, some (.ok removed)⟩ ∧ path ∈ removed ∧
    st.disk.resolve path = place ∧ QuitAcknowledged d.log ∧ d.session.mailbox = some m ∧ m.Recorded path

theorem Server.removedBy {cfg : Config} {st : Server} (reachable : Reachable (Server.step cfg) {} st)
    {sessionId : Nat} {paths : List Path} {path : Path} (released : st.releasedAt sessionId = some (.ok paths))
    (member : path ∈ paths) :
    ∃ d m, st.objects[sessionId]? = some ⟨d, some (.ok paths)⟩ ∧ QuitAcknowledged d.log ∧
      d.session.mailbox = some m ∧ m.Recorded path := by
  obtain ⟨⟨d, result⟩, found, same⟩ := Option.bind_eq_some_iff.mp released
  cases same
  have reached : Reached cfg sessionId d := Server.objects_reached reachable sessionId _ found
  have removes := Server.released_eq reachable sessionId _ found _ rfl
  obtain ⟨acknowledged, m, mailbox, recorded⟩ := reached.removes removes.symm member
  exact ⟨d, m, found, acknowledged, mailbox, recorded⟩

variable {cfg : Config} {disk : Disk} {st₁ st₂ : MailStore} {es₁ es₂ : List StoreEvent} {place : Place}

/-- A mail root with the directories of `u` and `v`, and one mail in each. -/
def mailDisk : Disk where
  cwd := []
  directory place := decide (place <+: [ascii "mail", ascii "u"] ∨ place <+: [ascii "mail", ascii "v"])
  closed place directory :=
    decide_eq_true ((of_decide_eq_true directory).imp (List.dropLast_prefix place).trans
      (List.dropLast_prefix place).trans)
  writable _ := true
  files := AList.insert [ascii "mail", ascii "u", ascii "1"] (ascii "x")
    (AList.insert [ascii "mail", ascii "v", ascii "1"] (ascii "x") ∅)

/-- What the calls of a session find there. -/
def mailFiles : FileSystem :=
  { Mailbox.oneByteFiles with
    regular_files := fun path =>
      if path = ascii "/mail/u" then some [ascii "/mail/u/1"]
      else if path = ascii "/mail/v" then some [ascii "/mail/v/1"] else none }

/-- The server over the records of both, where the text `0` is a number. -/
def twoUserConfig : Config := { twoRecordsConfig with lex := zeroConfig.lex }

/-- One request, handled and answered. -/
def requestOnDisk (sessionId : Nat) (line : Bytes) : List Event :=
  [.session sessionId (.receive (line ++ crlf)), .session sessionId (.runRead fun _ => mailFiles),
    .session sessionId .sent, .session sessionId .runWrite]

/-- A session is accepted, and its login has taken the lock. -/
def lockMail (sessionId : Nat) (name : Bytes) : List Event :=
  [.acceptDone false, .runAccept, .createSession, .session sessionId .startRead, .session sessionId .startTimer] ++
    requestOnDisk sessionId (ascii "USER " ++ name) ++
    [.session sessionId (.receive (ascii "PASS p" ++ crlf)), .session sessionId (.runRead fun _ => mailFiles)]

def openMail (sessionId : Nat) (name : Bytes) : List Event :=
  lockMail sessionId name ++
    [.session sessionId (.runLogin fun _ => mailFiles), .session sessionId .sent, .session sessionId .runWrite]

/-- `DELE 0` and `QUIT`, up to the destruction of the session. -/
def takeMail (sessionId : Nat) : List Event :=
  requestOnDisk sessionId (ascii "DELE 0") ++ requestOnDisk sessionId (ascii "QUIT") ++
    [.session sessionId .expire, .session sessionId (.runTimer true)]

/-- If the session is to remove the file, it still has to, or the file is gone. -/
def Removing (st : MailStore) (sessionId : Nat) (path : Path) : Prop :=
  ∀ paths, st.server.releasedAt sessionId = some (.ok paths) → path ∈ paths →
    path ∈ st.removals sessionId ∨ st.disk.files.lookup (st.disk.resolve path) = none

theorem Removing.step {st st' : MailStore} {sessionId : Nat} {path : Path} {e : StoreEvent}
    (h : Removing st sessionId path) (books : MailStore.Bookkeeping cfg st)
    (elsewhere : ∀ content, e ≠ .deliver (st.disk.resolve path) content) (next : st.step cfg e = some st') :
    Removing st' sessionId path := by
  intro paths released member
  cases MailStore.step_moves next with
  | server e server moved =>
    cases earlier : st.server.releasedAt sessionId with
    | none =>
      refine .inl (List.mem_append_right _ ?_)
      simp only at released
      rw [Server.started, earlier, released]
      exact member
    | some result =>
      cases (Server.releasedAt_step books.reachable moved earlier).symm.trans released
      exact (h paths earlier member).imp_left (List.mem_append_left _)
  | removed other path' rest first =>
    by_cases gone : st.disk.resolve path = st.disk.resolve path'
    · refine .inr ?_
      rw [Disk.resolve_remove, gone]
      exact st.disk.lookup_remove_self _
    · refine (h paths released member).imp (fun waits => ?_) Disk.lookup_remove_none
      by_cases own : sessionId = other
      · subst own
        simp only [Function.update_self]
        rw [first] at waits
        exact (List.mem_cons.mp waits).resolve_left fun same => gone (congrArg _ same)
      · simpa only [Function.update_of_ne own] using waits
  | delivered place content free =>
    refine (h paths released member).imp_right fun gone => ?_
    exact (AList.lookup_insert_ne fun same =>
      elsewhere content (congrArg (StoreEvent.deliver · content) same.symm)).trans gone

/-- **A committed deletion is carried out.** Of a session that is destroyed after an acknowledged `QUIT`
and has no removal left, every file recorded for deletion is gone from the disk, unless the file
was delivered anew since. -/
theorem committed_mail_gone {sessionId : Nat} {o : SessionObject} {m : Mailbox} {path : Path}
    (run₁ : exec (MailStore.step cfg) { disk } es₁ = some st₁) (before : st₁.server.releasedAt sessionId = none)
    (run₂ : exec (MailStore.step cfg) st₁ es₂ = some st₂)
    (undisturbed : ∀ content, .deliver (disk.resolve path) content ∉ es₂)
    (found : st₂.server.objects[sessionId]? = some o) (destroyed : o.released ≠ none)
    (carriedOut : st₂.removals sessionId = []) (acknowledged : QuitAcknowledged o.dialogue.log)
    (mailbox : o.dialogue.session.mailbox = some m) (recorded : m.Recorded path) :
    st₂.disk.files.lookup (disk.resolve path) = none := by
  obtain ⟨books, leads, removing⟩ : MailStore.Bookkeeping cfg st₂ ∧ st₂.disk.resolve path = disk.resolve path ∧
      Removing st₂ sessionId path := by
    refine exec_invariant_of (fun st : MailStore => MailStore.Bookkeeping cfg st ∧
      st.disk.resolve path = disk.resolve path ∧ Removing st sessionId path)
      (fun _ e => ∀ content, e ≠ .deliver (disk.resolve path) content) ?_
      ⟨MailStore.bookkeeping run₁, MailStore.exec_resolve run₁ path, fun paths released => ?_⟩
      (.of_mem (fun e member content same => undisturbed content (by rw [← same]; exact member)) _) run₂
    · rintro st e st' ⟨books, leads, removing⟩ elsewhere next
      exact ⟨books.step next, (MailStore.step_resolve next path).trans leads,
        removing.step books (leads ▸ elsewhere) next⟩
    · rw [before] at released
      cases released
  obtain ⟨m', paths, mailbox', destroys, members⟩ :=
    (Server.objects_reached books.reachable sessionId o found).destroyStorages acknowledged
  obtain rfl : m = m' := Option.some.inj (mailbox.symm.trans mailbox')
  obtain ⟨result, released⟩ := Option.ne_none_iff_exists'.mp destroyed
  have same := Server.released_eq books.reachable sessionId o found result released
  rw [mailbox, Option.elim_some, destroys] at same
  have releasedAt : st₂.server.releasedAt sessionId = some (.ok paths) := by
    unfold Server.releasedAt
    rw [found, Option.bind_some, released, same]
  rw [← leads]
  refine (removing paths releasedAt ((members path).mpr recorded)).resolve_left fun waits => ?_
  rw [carriedOut] at waits
  exact List.not_mem_nil waits

theorem committed_mail_gone_takeMail :
    ∃ st, exec (MailStore.step twoUserConfig) { disk := mailDisk }
        ((openMail 0 (ascii "u") ++ takeMail 0).map .server ++ [.remove 0]) = some st ∧
      st.disk.files.lookup (mailDisk.resolve (ascii "/mail/u/1")) = none := by
  obtain ⟨st, d, m, removed, run, found, drained, mailbox, acknowledged, recorded⟩ : ∃ st d m removed,
      exec (MailStore.step twoUserConfig) { disk := mailDisk }
        ((openMail 0 (ascii "u") ++ takeMail 0).map .server ++ [.remove 0]) = some st ∧
      st.server.objects[0]? = some ⟨d, some (.ok removed)⟩ ∧ st.removals 0 = [] ∧
      d.session.mailbox = some m ∧ QuitAcknowledged d.log ∧ m.Recorded (ascii "/mail/u/1") :=
    ⟨_, _, _, _, rfl, rfl, rfl, rfl, ⟨[_, _, _, _, _, _], _, [], rfl, rfl, _, rfl⟩,
      ⟨_, List.mem_cons_self, 0, List.mem_cons_self, rfl⟩⟩
  have start : exec (MailStore.step twoUserConfig) { disk := mailDisk } [] = some { disk := mailDisk } := rfl
  refine ⟨st, run, committed_mail_gone start rfl run (fun content delivered => ?_) found
    (fun same => by cases same) drained acknowledged mailbox recorded⟩
  rcases List.mem_append.mp delivered with server | removal
  · obtain ⟨e, _, same⟩ := List.mem_map.mp server
    cases same
  · cases List.mem_singleton.mp removal

end Pop3Serv.Net
