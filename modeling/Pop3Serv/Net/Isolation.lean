import Pop3Serv.Net.MailCustody
import Pop3Serv.Net.Maildrops

/-!
# Every session as if alone

Custody says whose files a session reads, `session_serves_maildrop` how a session answers
whose files keep their contents. Here the two meet: in any interleaving of sessions, removals
and deliveries, every session that is logged in has answered as the maildrop over its own files
does, and has marked in its mailbox what the maildrop has marked (`sessions_isolated`). The
contents are those on the disk at the moment, since they are still the ones found at login.
-/

namespace Pop3Serv.Net
open Proto Mail Logic

/-! ## What a session has answered -/

/-- The requests handled since the login. One without a token in its line is not among them: the parser
does not return on it. -/
def insideIn (log : List Note) : List Exchange :=
  log.filterMap fun
    | .handled x => if x.state = .Transaction then some x else none
    | .replied => none

def asksIn (log : List Note) : List Maildrop.Ask := (insideIn log).map fun x => askOf x.result

/-- The handler returned, and its response tells this reply. -/
def Exchange.Serves (userName : Bytes) (reply : Maildrop.Reply Bytes) (x : Exchange) : Prop :=
  x.thrown = none ∧ Tells userName reply x.response

theorem insideIn_replied (log : List Note) : insideIn (log ++ [.replied]) = insideIn log := by
  simp [insideIn]

theorem insideIn_inside (log : List Note) {x : Exchange} (inside : x.state = .Transaction) :
    insideIn (log ++ [.handled x]) = insideIn log ++ [x] := by
  simp [insideIn, inside]

theorem insideIn_outside (log : List Note) {x : Exchange} (outside : x.state = .Authorization) :
    insideIn (log ++ [.handled x]) = insideIn log := by
  simp [insideIn, outside]

/-- The mailbox, and what was answered in it, are as in the maildrop over these contents. -/
structure ServedAs (contents : Path → Bytes) (userName : Bytes) (m : Mailbox) (log : List Note) : Prop where
  last : GoneLast Prod.snd m.entries
  marks : m.maildrop contents = ((Maildrop.unmarked (m.files.map contents)).run List.length (asksIn log)).2
  replies : List.Forall₂ (Exchange.Serves userName)
    ((Maildrop.unmarked (m.files.map contents)).run List.length (asksIn log)).1 (insideIn log)

/-- So are those of a session, unless a deletion has asked for a number before the last. -/
structure AsMaildrop (contents : Path → Bytes) (d : Dialogue) : Prop where
  outside : d.session.mailbox = none → insideIn d.log = []
  inside : ∀ m, d.session.mailbox = some m →
    (Maildrop.unmarked (m.files.map contents)).DeletesLast List.length (asksIn d.log) →
    ServedAs contents d.session.userName m d.log

section Session
variable {cfg : Config} {contents : Path → Bytes} {sessionId : Nat} {d d' : Dialogue}

theorem asMaildrop_created (contents : Path → Bytes) (sessionId : Nat) : AsMaildrop contents (created sessionId) :=
  ⟨fun _ => rfl, fun m mailbox => by cases mailbox⟩

/-- Only the contents of the mailbox's files matter. -/
theorem AsMaildrop.congr (h : AsMaildrop contents d) {contents' : Path → Bytes}
    (same : ∀ m, d.session.mailbox = some m → ∀ path ∈ m.files, contents' path = contents path) :
    AsMaildrop contents' d := by
  refine ⟨h.outside, fun m mailbox deletesLast => ?_⟩
  have drops : m.files.map contents' = m.files.map contents := List.map_congr_left (same m mailbox)
  have marks : m.maildrop contents' = m.maildrop contents := by
    refine List.map_congr_left fun e member => ?_
    rw [same m mailbox e.1 (Mailbox.map_fst_entries m ▸ List.mem_map_of_mem member)]
  rw [drops] at deletesLast
  obtain ⟨last, marked, replies⟩ := h.inside m mailbox deletesLast
  exact ⟨last, by rw [marks, drops, marked], by rw [drops]; exact replies⟩

/-- A step that answers nothing. -/
theorem AsMaildrop.of_same (h : AsMaildrop contents d) (mailbox : d'.session.mailbox = d.session.mailbox)
    (userName : d'.session.userName = d.session.userName) (log : d'.log = d.log) : AsMaildrop contents d' := by
  refine ⟨fun noMailbox => ?_, fun m hasMailbox deletesLast => ?_⟩
  · rw [log]
    exact h.outside (mailbox ▸ noMailbox)
  · rw [log] at deletesLast ⊢
    rw [userName]
    exact h.inside m (mailbox ▸ hasMailbox) deletesLast

/-- A login attempt, or another request before the login. -/
theorem AsMaildrop.anonymous (h : AsMaildrop contents d) {fs : FileSystems} {ended : Ended}
    (handled : Handled cfg fs d.session ended) (anonymous : d.session.state = .Authorization)
    (noMailbox : d.session.mailbox = none) : AsMaildrop contents (d.handlerEnded cfg fs ended) := by
  have silent : insideIn (d.handlerEnded cfg fs ended).log = [] := by
    rcases handlerEnded_cases cfg d fs ended with ⟨result, _, same⟩ | ⟨_, _, same⟩
    · rw [same]
      exact (insideIn_outside d.log anonymous).trans (h.outside noMailbox)
    · rw [same]
      exact h.outside noMailbox
  refine ⟨fun _ => silent, fun m mailbox _ => ?_⟩
  rw [handlerEnded_session] at mailbox
  rcases handled.carries_session with ⟨_, kept⟩ | ⟨_, _, _, name, directories, lock, opened⟩
  · rw [noMailbox, Option.map_none, mailbox] at kept
    cases kept
  · cases mailbox.symm.trans opened
    refine ⟨Mailbox.opened_goneLast name directories lock, ?_, ?_⟩
    · rw [asksIn, silent, Mailbox.opened_files]
      exact Mailbox.maildrop_opened contents name directories lock
    · rw [asksIn, silent]
      exact .nil

/-- The calls of a request mark in the mailbox what the request asks the maildrop to mark. -/
theorem marks_requested {s : POP3Session} {m : Mailbox} {result : Parsed} (wf : m.WellFormed)
    (last : GoneLast Prod.snd m.entries) (inside : s.state ≠ .Authorization)
    (parsed : parsePOP3Command cfg.lex s.request = .ok result)
    (atEnd : ∀ n, askOf result = .dele n → (m.maildrop contents).count ≤ n + 1) :
    GoneLast Prod.snd (m.run (s.requestedCalls cfg)).entries ∧
      (m.run (s.requestedCalls cfg)).maildrop contents =
        ((m.maildrop contents).step List.length (askOf result)).2 := by
  unfold POP3Session.requestedCalls
  rw [parsed]
  cases result with
  | error err => exact ⟨last, rfl⟩
  | ok cmd =>
    simp only [if_neg inside]
    exact ⟨goneLast_callsOf wf last atEnd, maildrop_callsOf wf last cmd⟩

/-- **A request in the mailbox**, while its files have these contents. -/
theorem AsMaildrop.answered (h : AsMaildrop contents d) (reached : Reached cfg sessionId d) {m : Mailbox}
    (mailbox : d.session.mailbox = some m) (active : ActiveMailboxes) {fs : FileSystems}
    (keeps : ∀ i, Mailbox.Keeps contents (fs i) m.files) :
    AsMaildrop contents (d.handlerEnded cfg fs (d.session.readImpl cfg fs active).1) := by
  have state : d.session.state = .Transaction := reached.typestate.transaction_iff.mpr (by rw [mailbox]; rfl)
  have inside : d.session.state ≠ .Authorization := by rw [state]; decide
  have handled := readImpl_handled cfg fs active d.session
  have userName := (handled.stays state).2.1
  have session : (d.session.readImpl cfg fs active).1.session.mailbox =
      some (m.run (d.session.requestedCalls cfg)) := by
    rcases handled.carries_session with ⟨_, kept⟩ | ⟨anonymous, _⟩
    · rw [kept, mailbox]
      rfl
    · exact absurd anonymous inside
  have same := handlerEnded_session cfg d fs (d.session.readImpl cfg fs active).1
  refine ⟨fun noMailbox => ?_, fun m' mailbox' deletesLast => ?_⟩
  · rw [same, session] at noMailbox
    cases noMailbox
  rw [same, session] at mailbox'
  cases mailbox'
  rw [same, userName]
  rcases handlerEnded_cases cfg d fs (d.session.readImpl cfg fs active).1 with
    ⟨result, parsed, ended⟩ | ⟨fault, failed, ended⟩
  · have log : insideIn (d.handlerEnded cfg fs (d.session.readImpl cfg fs active).1).log = insideIn d.log ++
        [⟨d.session.state, result, (d.session.readImpl cfg fs active).1.session.response,
          (d.session.readImpl cfg fs active).1.thrown, fs⟩] := by
      rw [ended]
      exact insideIn_inside d.log state
    have asks : asksIn (d.handlerEnded cfg fs (d.session.readImpl cfg fs active).1).log =
        asksIn d.log ++ [askOf result] := by
      rw [asksIn, log, List.map_append]
      rfl
    have files := (Mailbox.sameBox_run m (d.session.requestedCalls cfg)).files
    rw [asks, files, Maildrop.deletesLast_append] at deletesLast
    obtain ⟨before, atEnd, _⟩ := deletesLast
    obtain ⟨last, marked, replies⟩ := h.inside m mailbox before
    rw [← marked] at atEnd
    have wf := reached.mailbox_wellFormed mailbox
    obtain ⟨last', marked'⟩ := marks_requested wf last inside parsed atEnd
    have serves := POP3Session.serves_readImpl mailbox wf last keeps reached.noBreak_userName inside parsed active atEnd
    refine ⟨last', ?_, ?_⟩
    · rw [asks, files, Maildrop.run_append, ← marked]
      exact marked'
    · rw [asks, files, Maildrop.run_append, ← marked, log]
      exact List.rel_append replies (.cons ⟨serves.returned, serves.tells⟩ .nil)
  · have silent : d.session.requestedCalls cfg = [] := by
      rw [POP3Session.requestedCalls, failed]
    rw [silent] at deletesLast ⊢
    rw [ended] at deletesLast ⊢
    exact h.inside m mailbox deletesLast

/-- A reply has been written; with that of a `QUIT` the mailbox is committed. -/
theorem AsMaildrop.written (h : AsMaildrop contents d) {f : Mailbox → Mailbox} (same : ∀ m, Mailbox.SameBox m (f m))
    (entries : ∀ m, (f m).entries = m.entries) (mailbox : d'.session.mailbox = d.session.mailbox.map f)
    (userName : d'.session.userName = d.session.userName) (log : d'.log = d.log ++ [.replied]) :
    AsMaildrop contents d' := by
  have silent : insideIn d'.log = insideIn d.log := by rw [log, insideIn_replied]
  refine ⟨fun noMailbox => ?_, fun m' hasMailbox deletesLast => ?_⟩
  · rw [silent]
    exact h.outside (Option.map_eq_none_iff.mp (mailbox.symm.trans noMailbox))
  · obtain ⟨m, before, rfl⟩ := Option.map_eq_some_iff.mp (mailbox.symm.trans hasMailbox)
    rw [asksIn, silent, (same m).files] at deletesLast
    obtain ⟨last, marks, replies⟩ := h.inside m before deletesLast
    refine ⟨entries m ▸ last, ?_, ?_⟩
    · rw [asksIn, silent, (same m).files, Mailbox.maildrop, entries]
      exact marks
    · rw [asksIn, silent, (same m).files, userName]
      exact replies

/-- **What a step keeps.** A request in the mailbox has to find these contents in its files. -/
theorem AsMaildrop.step (h : AsMaildrop contents d) (reached : Reached cfg sessionId d)
    {active : ActiveMailboxes} {e : SessionEvent} (moved : d.localStep cfg (active, e) = some d')
    (reads : ∀ fs m, e = .runRead fs → d.session.mailbox = some m → ∀ i, Mailbox.Keeps contents (fs i) m.files) :
    AsMaildrop contents d' := by
  obtain ⟨stepped, stepping, rfl⟩ := Option.map_eq_some_iff.mp moved
  cases step_stepping stepping with
  | operation control timer same silent => exact h.of_same rfl rfl rfl
  | readStarted event accepted => exact h.of_same rfl rfl rfl
  | received chunk event reading => exact h.of_same rfl rfl rfl
  | runRead ec fs event reading =>
    unfold Dialogue.runRead
    split
    · split
      · exact h.of_same rfl rfl rfl
      · cases state : d.session.state with
        | Authorization =>
          exact h.anonymous (readImpl_handled cfg fs active d.session) state (reached.typestate.mailbox_none state)
        | Transaction =>
          obtain ⟨m, mailbox⟩ := reached.typestate.mailbox_some state
          exact h.answered reached mailbox active (reads fs m event mailbox)
        | Update => exact absurd state reached.typestate.noUpdate
    · exact h.of_same rfl rfl rfl
  | runLogin lock password fs event loggingIn =>
    obtain ⟨requested, ownName⟩ := reached.loginPending lock password loggingIn
    obtain ⟨requested, anonymous⟩ := pendingLogin_eq_some_iff.mp requested
    have cleared : POP3Session.state { d.session with response := [] } = .Authorization := anonymous
    exact h.anonymous (handled_login cleared requested ownName fs).write anonymous
      (reached.typestate.mailbox_none anonymous)
  | runWrite ec event writing =>
    unfold Dialogue.runWrite
    split
    · split
      · exact h.written Mailbox.sameBox_setUpdate Mailbox.entries_setUpdate rfl rfl rfl
      · exact h.written Mailbox.SameBox.refl (fun _ => rfl) Option.map_id'.symm rfl rfl
    · exact h.of_same rfl rfl rfl

end Session

/-! ## What a session finds -/

/-- The file system shows these files as they are on the disk. -/
def Shows (disk : Disk) (fs : FileSystem) (files : List Path) : Prop :=
  ∀ path ∈ files, ∀ content, disk.files.lookup (disk.resolve path) = some content →
    fs.file_size path = some content.length ∧ fs.ifstream path = some content

/-- A request finds the files of its mailbox as they are on the disk. -/
def ReadsDisk (st : MailStore) (e : StoreEvent) : Prop :=
  ∀ sessionId fs o m, e = .server (.session sessionId (.runRead fs)) → st.server.objects[sessionId]? = some o →
    o.dialogue.session.mailbox = some m → ∀ i, Shows st.disk (fs i) m.files

section Store
variable {cfg : Config} {disk : Disk} {st st' : MailStore} {es : List StoreEvent}

/-- What is in the file, as the disk has it. -/
def MailStore.contents (st : MailStore) (path : Path) : Bytes :=
  (st.disk.files.lookup (st.disk.resolve path)).getD []

/-- Every session that is alive has answered as the maildrop over its files, as they are now. -/
def MailStore.AsMaildrops (st : MailStore) : Prop :=
  ∀ (sessionId : Nat) (o : SessionObject), st.server.objects[sessionId]? = some o → o.released = none →
    AsMaildrop st.contents o.dialogue

/-- While every file of a mailbox is on the disk, what shows it keeps its contents. -/
theorem Shows.keeps {fs : FileSystem} {files : List Path} (shown : Shows st.disk fs files)
    (onDisk : ∀ path ∈ files, st.disk.files.lookup (st.disk.resolve path) ≠ none) :
    Mailbox.Keeps st.contents fs files := by
  intro path member
  obtain ⟨content, there⟩ := Option.ne_none_iff_exists'.mp (onDisk path member)
  have same : st.contents path = content := by rw [MailStore.contents, there]; rfl
  rw [same]
  exact shown path member content there

/-- **What a step of the store keeps**, by whose step it is. -/
theorem MailStore.AsMaildrops.step (h : st.AsMaildrops) (custody : Custody cfg st)
    (ownDirectories : PrivateDirectories cfg st.disk) {e : StoreEvent} (reads : ReadsDisk st e)
    (next : st.step cfg e = some st') : st'.AsMaildrops := by
  intro sessionId o' found' alive'
  cases MailStore.step_moves next with
  | server e server moved =>
    cases Server.step_slot custody.books.reachable moved found' with
    | created fresh new =>
      rw [new]
      exact asMaildrop_created _ sessionId
    | kept o there session released log =>
      exact (h sessionId o there (released.symm.trans alive')).of_same (by rw [session]) (by rw [session]) log
    | stepped d e' event lives _ stepped =>
      have reached : Reached cfg sessionId d := Server.objects_reached custody.books.reachable sessionId _ lives
      refine (h sessionId _ lives rfl).step reached stepped fun fs m runs mailbox i => ?_
      refine (reads sessionId fs _ m (by rw [event, runs]) lives mailbox i).keeps fun path member => ?_
      exact custody.onDisk sessionId _ lives m ⟨rfl, mailbox⟩ path member
  | removed other path rest first =>
    -- it is no file of a mailbox that lives
    refine (h sessionId o' found' alive').congr fun m mailbox path' member => ?_
    have apart := custody.not_removed ownDirectories found' ⟨alive', mailbox⟩ member
      (show path ∈ st.removals other by rw [first]; exact List.mem_cons_self)
    exact congrArg (Option.getD · []) (st.disk.lookup_remove_ne apart)
  | delivered place content free =>
    -- the files of a mailbox that lives are there already
    refine (h sessionId o' found' alive').congr fun m mailbox path member => ?_
    obtain ⟨there, lookup⟩ := Option.ne_none_iff_exists'.mp
      (custody.onDisk sessionId o' found' m ⟨alive', mailbox⟩ path member)
    have still : (st.disk.write place content).files.lookup (st.disk.resolve path) = some there :=
      Disk.lookup_write_free free lookup
    exact congrArg (Option.getD · []) (still.trans lookup.symm)

/-- **Every session as if alone.** In any run of the server over its disk, with directories private to each name,
tidy logins, and requests that find on the disk what is there: whatever other sessions do and
whatever is delivered, a session that is logged in has answered every request since its login whose line
has a token as the maildrop over its files does, with no exception, and its mailbox is marked as
that maildrop is. -/
theorem sessions_isolated {sessionId : Nat} {o : SessionObject} {m : Mailbox}
    (ownDirectories : PrivateDirectories cfg disk)
    (tidy : StepsMeet (MailStore.step cfg) (TidyStep cfg) { disk } es)
    (reads : StepsMeet (MailStore.step cfg) ReadsDisk { disk } es)
    (run : exec (MailStore.step cfg) { disk } es = some st) (found : st.server.objects[sessionId]? = some o)
    (live : o.LiveMailbox m)
    (deletesLast : (Maildrop.unmarked (m.files.map st.contents)).DeletesLast List.length (asksIn o.dialogue.log)) :
    let specified := (Maildrop.unmarked (m.files.map st.contents)).run List.length (asksIn o.dialogue.log)
    List.Forall₂ (Exchange.Serves o.dialogue.session.userName) specified.1 (insideIn o.dialogue.log) ∧
      m.maildrop st.contents = specified.2 := by
  obtain ⟨_, _, served⟩ : Custody cfg st ∧ PrivateDirectories cfg st.disk ∧ st.AsMaildrops := by
    refine exec_invariant_of
      (fun st : MailStore => Custody cfg st ∧ PrivateDirectories cfg st.disk ∧ st.AsMaildrops)
      (fun st e => TidyStep cfg st e ∧ ReadsDisk st e) ?_ ?_ (tidy.and reads) run
    · rintro st e st' ⟨custody, ownDirectories, served⟩ ⟨tidy, reads⟩ next
      exact ⟨custody.step ownDirectories tidy next, ownDirectories.of_resolve (MailStore.step_resolve next),
        served.step custody ownDirectories reads next⟩
    · obtain ⟨custody, ownDirectories⟩ :=
        custody ownDirectories (show StepsMeet (MailStore.step cfg) _ { disk } [] from trivial) rfl
      exact ⟨custody, ownDirectories, fun _ _ found => by cases found⟩
  obtain ⟨_, marks, replies⟩ := (served sessionId o found live.1).inside m live.2 deletesLast
  exact ⟨replies, marks⟩

/-- Requests find one byte in every file, and new mail has this one. -/
def OneByteEvent : StoreEvent → Prop
  | .server (.session _ (.runRead fs)) => fs = fun _ => mailFiles
  | .deliver _ content => content = ascii "x"
  | _ => True

theorem readsDisk_oneByte (only : ∀ place content, st.disk.files.lookup place = some content → content = ascii "x")
    (events : ∀ e ∈ es, OneByteEvent e) : StepsMeet (MailStore.step cfg) ReadsDisk st es := by
  induction es generalizing st with
  | nil => trivial
  | cons e es ih =>
    obtain ⟨first, later⟩ := List.forall_mem_cons.mp events
    refine ⟨fun sessionId fs o m runs found mailbox i path member content there => ?_, fun st' next => ih ?_ later⟩
    · subst runs
      rw [show fs = fun _ => mailFiles from first, only _ content there]
      exact ⟨rfl, rfl⟩
    · intro place content there
      cases MailStore.step_moves next with
      | server e server moved => exact only place content there
      | removed sessionId path rest next =>
        by_cases same : place = st.disk.resolve path
        · rw [same, Disk.lookup_remove_self] at there
          cases there
        · exact only place content ((st.disk.lookup_remove_ne same).symm.trans there)
      | delivered other new free =>
        by_cases same : place = other
        · rw [same, Disk.write, AList.lookup_insert] at there
          cases there
          exact first
        · exact only place content ((AList.lookup_insert_ne same).symm.trans there)

/-- A mail comes while `u` is logged in; `u` asks for a listing, and sees the one it has found. -/
def deliverAndList : List StoreEvent :=
  .deliver [ascii "mail", ascii "u", ascii "2"] (ascii "x") :: (requestOnDisk 0 (ascii "LIST")).map .server

theorem isolated_from_delivery :
    ∃ st o x, exec (MailStore.step twoUserConfig) { disk := mailDisk }
        ((openMail 0 (ascii "u")).map .server ++ deliverAndList) = some st ∧
      st.server.objects[0]? = some o ∧ insideIn o.dialogue.log = [x] ∧
      Exchange.Serves (ascii "u") (.listing [(0, 1)]) x := by
  obtain ⟨st₁, st₂, o, m, x, run₁, run₂, found, live, files, userName, inside, asks, content, plain⟩ :
      ∃ st₁ st₂ o m x,
      exec (MailStore.step twoUserConfig) { disk := mailDisk } ((openMail 0 (ascii "u")).map .server) = some st₁ ∧
      exec (MailStore.step twoUserConfig) st₁ deliverAndList = some st₂ ∧
      st₂.server.objects[0]? = some o ∧ o.LiveMailbox m ∧ m.files = [ascii "/mail/u/1"] ∧
      o.dialogue.session.userName = ascii "u" ∧ insideIn o.dialogue.log = [x] ∧ askOf x.result = .list ∧
      st₂.contents (ascii "/mail/u/1") = ascii "x" ∧
      StepsMeet (MailStore.step twoUserConfig) (fun st e => plainStep twoUserConfig st e = true) st₁ deliverAndList :=
    ⟨_, _, _, _, _, rfl, rfl, rfl, ⟨rfl, rfl⟩, rfl, rfl, rfl, rfl, rfl, by decide⟩
  have run : exec (MailStore.step twoUserConfig) { disk := mailDisk }
      ((openMail 0 (ascii "u")).map .server ++ deliverAndList) = some st₂ := by
    rw [exec_append, run₁]
    exact run₂
  have tidy := tidy_openU.append fun st run => by
    cases run₁.symm.trans run
    exact plain.mono tidy_of_plain
  have reads : StepsMeet (MailStore.step twoUserConfig) ReadsDisk { disk := mailDisk }
      ((openMail 0 (ascii "u")).map .server ++ deliverAndList) := by
    refine readsDisk_oneByte (fun place content there => ?_) ?_
    · by_cases mine : place = [ascii "mail", ascii "u", ascii "1"]
      · rw [mine, mailDisk, AList.lookup_insert] at there
        exact (Option.some.inj there).symm
      · rw [mailDisk, AList.lookup_insert_ne mine] at there
        by_cases yours : place = [ascii "mail", ascii "v", ascii "1"]
        · rw [yours, AList.lookup_insert] at there
          exact (Option.some.inj there).symm
        · rw [AList.lookup_insert_ne yours] at there
          cases there
    · simp [deliverAndList, openMail, lockMail, requestOnDisk, OneByteEvent]
  have asked : asksIn o.dialogue.log = [.list] := by rw [asksIn, inside, List.map_singleton, asks]
  have atEnd : (Maildrop.unmarked (m.files.map st₂.contents)).DeletesLast List.length (asksIn o.dialogue.log) := by
    rw [asked]
    exact ⟨fun n same => (by cases same), trivial⟩
  have replies := (sessions_isolated twoUsers_private tidy reads run found live atEnd).1
  rw [asked, files, inside, userName, List.map_singleton, content] at replies
  exact ⟨st₂, o, x, run, found, inside, (List.forall₂_cons.mp replies).1⟩

end Store

end Pop3Serv.Net
