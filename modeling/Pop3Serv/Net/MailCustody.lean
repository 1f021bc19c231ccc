import Pop3Serv.Net.MailStore

/-!
# Exclusive access to the mail

The lock is there so that a session has its maildrop to itself. It is taken under a name, and
what it guards are files, so the names must have directories of their own; and `~Mailbox`
gives it back before the files are removed, so a login must not come in between. In runs
where this is so, and where a directory lists what is on the disk, a session that is logged
in finds all its mail there and unchanged, and shares none of it.
-/

namespace Pop3Serv.Mail

/-- The file system lists the disk: what it finds in a directory is a file in it. -/
def Disk.Lists (disk : Disk) (fs : FileSystem) : Prop :=
  ∀ dir paths, fs.regular_files dir = some paths → ∀ path ∈ paths,
    (∃ leaf, disk.resolve path = disk.resolve dir ++ [leaf]) ∧ disk.files.lookup (disk.resolve path) ≠ none

theorem filesystemCall_ok {α : Type} {answer : Option α} {a : α} (h : filesystemCall answer = .ok a) :
    answer = some a := by
  cases answer with
  | none => cases h
  | some b => cases h; rfl

/-- A storage is over the regular files of the directory it opens. -/
theorem create_lists {fs : FileSystem} {defaultPath : Path} {info : MailStorageInfo} {name : Bytes}
    {s : FileSystemMailStorage} (h : FileSystemStorageFactory.create fs defaultPath info name = .ok s) :
    ∃ dir, storagePath defaultPath info name = .ok dir ∧ fs.regular_files dir = some s.emails := by
  obtain ⟨dir, opens, h⟩ := bind_ok h
  refine ⟨dir, opens, ?_⟩
  obtain ⟨there, _, h⟩ := bind_ok h
  split at h
  · obtain ⟨created, _, h⟩ := bind_ok h
    split at h
    · cases h
    · obtain ⟨emails, listed, h⟩ := bind_ok h
      cases h
      exact filesystemCall_ok listed
  · obtain ⟨emails, listed, h⟩ := bind_ok h
    cases h
    exact filesystemCall_ok listed

theorem mem_createStorages_lists {fs : FileSystem} {defaultPath : Path} {vec : List MailStorageInfo}
    {name : Bytes} {s : FileSystemMailStorage} (h : s ∈ createStorages fs defaultPath vec name) :
    ∃ info ∈ vec, ∃ dir, storagePath defaultPath info name = .ok dir ∧ fs.regular_files dir = some s.emails := by
  obtain ⟨info, member, made⟩ := List.mem_filterMap.mp h
  refine ⟨info, member, ?_⟩
  split at made
  · cases created : FileSystemStorageFactory.create fs defaultPath info name with
    | error fault => rw [created] at made; cases made
    | ok t =>
      rw [created] at made
      cases made
      exact create_lists created
  · cases made

end Pop3Serv.Mail

namespace Pop3Serv.Net
open Proto Mail Logic

/-! ## Directories -/

/-- A login under the name opens the directory. -/
def Opens (cfg : Config) (name : Bytes) (dir : Path) : Prop :=
  ∃ password vec, cfg.auth.logon name password = .ok (.ok vec) ∧
    ∃ info ∈ vec, storagePath cfg.defaultPath info name = .ok dir

/-- No two names, that are C strings, open the same directory. -/
def PrivateDirectories (cfg : Config) (disk : Disk) : Prop :=
  ∀ name name' dir dir', (0 : UInt8) ∉ name → (0 : UInt8) ∉ name' → Opens cfg name dir → Opens cfg name' dir' →
    disk.resolve dir = disk.resolve dir' → name = name'

/-- The path leads into a directory of the name. -/
def InDirectory (cfg : Config) (disk : Disk) (name : Bytes) (path : Path) : Prop :=
  ∃ dir leaf, Opens cfg name dir ∧ disk.resolve path = disk.resolve dir ++ [leaf]

theorem InDirectory.name_eq {cfg : Config} {disk : Disk} {name name' : Bytes} {path path' : Path}
    (ownDirectories : PrivateDirectories cfg disk) (clean : (0 : UInt8) ∉ name) (clean' : (0 : UInt8) ∉ name')
    (h : InDirectory cfg disk name path) (h' : InDirectory cfg disk name' path')
    (same : disk.resolve path = disk.resolve path') : name = name' := by
  obtain ⟨dir, leaf, opens, leads⟩ := h
  obtain ⟨dir', leaf', opens', leads'⟩ := h'
  rw [leads, leads'] at same
  exact ownDirectories name name' dir dir' clean clean' opens opens' (List.append_inj' same rfl).1

/-- What a login lists is on the disk, in the directories of the name. -/
theorem connected_placed {cfg : Config} {disk : Disk} {fs : FileSystem} {lock : MailboxLock} {name password : Bytes}
    {m : Mailbox} (h : Connected cfg.auth cfg.defaultPath fs lock name password m) (lists : disk.Lists fs) {path : Path}
    (member : path ∈ m.files) :
    InDirectory cfg disk name path ∧ disk.files.lookup (disk.resolve path) ≠ none := by
  obtain ⟨vec, logon, _, storages⟩ := h.logon
  obtain ⟨emails, listed, member⟩ := List.mem_flatten.mp member
  obtain ⟨s, inStorages, rfl⟩ := List.mem_map.mp listed
  obtain ⟨info, inVec, dir, opens, found⟩ := mem_createStorages_lists (storages ▸ inStorages)
  obtain ⟨⟨leaf, leads⟩, there⟩ := lists dir s.emails found path member
  exact ⟨⟨dir, leaf, ⟨password, vec, logon, info, inVec, opens⟩, leads⟩, there⟩

/-! ## Who has which file -/

/-- The login lists the disk, and no file of an earlier mailbox of the name is still to be removed. -/
structure TidyLogin (st : MailStore) (userName : Bytes) (fs : FileSystem) : Prop where
  lists : st.disk.Lists fs
  drained : ∀ (sessionId : Nat) (o : SessionObject) (m : Mailbox), st.server.objects[sessionId]? = some o →
    o.dialogue.session.mailbox = some m → m.name = userName → st.removals sessionId = []

/-- Logins are tidy, and under names that are C strings. -/
def TidyStep (cfg : Config) (st : MailStore) : StoreEvent → Prop
  | .server e => cleanStep cfg st.server e = true ∧ ∀ sessionId fs o, e = .session sessionId (.runLogin fs) →
      st.server.objects[sessionId]? = some o → TidyLogin st o.dialogue.session.userName (fs 0)
  | .remove _ => True
  | .deliver _ _ => True

/-- What holds of the mailboxes and the disk. -/
structure Custody (cfg : Config) (st : MailStore) : Prop where
  books : MailStore.Bookkeeping cfg st
  locks : LocksExact cfg st.server
  noNul : st.server.All fun _ o => ∀ m, o.dialogue.session.mailbox = some m → (0 : UInt8) ∉ m.name
  placed : st.server.All fun _ o => ∀ m, o.dialogue.session.mailbox = some m →
    ∀ path ∈ m.files, InDirectory cfg st.disk m.name path
  /-- the files of a mailbox that lives are there -/
  onDisk : st.server.All fun _ o => ∀ m, o.LiveMailbox m →
    ∀ path ∈ m.files, st.disk.files.lookup (st.disk.resolve path) ≠ none
  /-- and no earlier mailbox of the name has a file still to be removed -/
  drained : ∀ (i j : Nat) (oi oj : SessionObject) (mi mj : Mailbox), st.server.objects[i]? = some oi →
    st.server.objects[j]? = some oj → oi.LiveMailbox mi → oj.dialogue.session.mailbox = some mj →
    mj.name = mi.name → st.removals j = []

variable {cfg : Config} {disk : Disk} {st st' : MailStore}

/-- What a destructor is still to remove is a file of its mailbox. -/
theorem MailStore.Bookkeeping.pendingFile (h : MailStore.Bookkeeping cfg st) {sessionId : Nat} {path : Path}
    (member : path ∈ st.removals sessionId) :
    ∃ o m, st.server.objects[sessionId]? = some o ∧ o.released ≠ none ∧
      o.dialogue.session.mailbox = some m ∧ path ∈ m.files := by
  obtain ⟨paths, released, listed⟩ := h.pending sessionId path member
  obtain ⟨d, m, found, _, mailbox, s, inStorages, i, _, file⟩ := Server.removedBy h.reachable released listed
  refine ⟨_, m, found, (fun same => by cases same), mailbox, ?_⟩
  exact List.mem_flatten.mpr ⟨s.emails, List.mem_map_of_mem inStorages, List.mem_of_getElem? file⟩

/-- Of two mailboxes, one of them alive, that have a file in common, the names are the same. -/
theorem Custody.name_eq (h : Custody cfg st) (ownDirectories : PrivateDirectories cfg st.disk) {i j : Nat}
    {oi oj : SessionObject} {mi mj : Mailbox} {path path' : Path} (at_i : st.server.objects[i]? = some oi)
    (at_j : st.server.objects[j]? = some oj) (mine : oi.dialogue.session.mailbox = some mi)
    (yours : oj.dialogue.session.mailbox = some mj) (member : path ∈ mi.files) (member' : path' ∈ mj.files)
    (same : st.disk.resolve path = st.disk.resolve path') : mi.name = mj.name :=
  InDirectory.name_eq ownDirectories (h.noNul i oi at_i mi mine) (h.noNul j oj at_j mj yours)
    (h.placed i oi at_i mi mine path member) (h.placed j oj at_j mj yours path' member') same

/-- No destructor is to remove a file of a mailbox that lives. -/
theorem Custody.not_removed (h : Custody cfg st) (ownDirectories : PrivateDirectories cfg st.disk) {i j : Nat}
    {o : SessionObject} {m : Mailbox} {path path' : Path} (found : st.server.objects[i]? = some o)
    (live : o.LiveMailbox m) (member : path ∈ m.files) (removing : path' ∈ st.removals j) :
    st.disk.resolve path ≠ st.disk.resolve path' := by
  intro same
  obtain ⟨oj, mj, at_j, _, yours, member'⟩ := h.books.pendingFile removing
  have names := h.name_eq ownDirectories found at_j live.2 yours member member' same
  rw [h.drained i j o oj m mj found at_j live yours names.symm] at removing
  exact List.not_mem_nil removing

/-- No two mailboxes that live have a file in common. -/
theorem Custody.disjoint (h : Custody cfg st) (ownDirectories : PrivateDirectories cfg st.disk) {i j : Nat}
    {oi oj : SessionObject} {mi mj : Mailbox} {path path' : Path} (at_i : st.server.objects[i]? = some oi)
    (at_j : st.server.objects[j]? = some oj) (mine : oi.LiveMailbox mi) (yours : oj.LiveMailbox mj)
    (member : path ∈ mi.files) (member' : path' ∈ mj.files)
    (same : st.disk.resolve path = st.disk.resolve path') : i = j := by
  have names := h.name_eq ownDirectories at_i at_j mine.2 yours.2 member member' same
  refine h.locks.table.exclusive at_i at_j (SessionObject.mem_holds_of_live mine) ?_
  rw [names]
  exact SessionObject.mem_holds_of_live yours

/-! ## What a step keeps -/

/-- Where a session's mailbox comes from: it was the session's before the step, or the step
is its login. -/
theorem Server.mailbox_origin {st st' : Server} {e : Event} {sessionId : Nat} {o' : SessionObject} {m' : Mailbox}
    (reachable : Reachable (Server.step cfg) {} st) (h : st.step cfg e = some st')
    (found : st'.objects[sessionId]? = some o') (mailbox : o'.dialogue.session.mailbox = some m') :
    (∃ o m, st.objects[sessionId]? = some o ∧ o.dialogue.session.mailbox = some m ∧ Mailbox.SameBox m m' ∧
      (o'.released = none → o.released = none)) ∨
    ∃ d fs lock password, st.objects[sessionId]? = some ⟨d, none⟩ ∧ e = .session sessionId (.runLogin fs) ∧
      d.control = .loggingIn lock password ∧ lock.name = d.session.userName ∧
      Connected cfg.auth cfg.defaultPath (fs 0) lock d.session.userName password m' := by
  cases Server.step_slot reachable h found with
  | created fresh new =>
    rw [new] at mailbox
    cases mailbox
  | kept o there session released =>
    exact .inl ⟨o, m', there, session ▸ mailbox, .refl _, fun alive => released.symm.trans alive⟩
  | stepped d e' event lives moved =>
    cases moved with
    | kept f same after =>
      obtain ⟨m, before, rfl⟩ := Option.map_eq_some_iff.mp (after.symm.trans mailbox)
      exact .inl ⟨_, m, lives, before, same m, fun _ => rfl⟩
    | opened fs lock password m login loggingIn ownName before connected after =>
      cases after.symm.trans mailbox
      exact .inr ⟨d, fs, lock, password, lives, by rw [event, login], loggingIn, ownName, connected⟩

/-- A login under way that has acquired its lock holds the session's name. -/
theorem holds_of_loggingIn {d : Dialogue} {lock : MailboxLock} {password : Bytes}
    (loggingIn : d.control = .loggingIn lock password) (acquired : lock.acquired = true) :
    lock.name ∈ SessionObject.holds ⟨d, none⟩ := by
  refine Multiset.mem_add.mpr (.inr ?_)
  rw [loggingIn, Control.holds, if_pos acquired]
  exact Multiset.mem_singleton_self _

/-- A session that lives has nothing to remove. -/
theorem MailStore.Bookkeeping.live_drained (h : MailStore.Bookkeeping cfg st) {sessionId : Nat} {o : SessionObject}
    (found : st.server.objects[sessionId]? = some o) (alive : o.released = none) : st.removals sessionId = [] := by
  refine List.eq_nil_iff_forall_not_mem.mpr fun path member => ?_
  obtain ⟨paths, released, _⟩ := h.pending sessionId path member
  rw [Server.releasedAt, found, Option.bind_some, alive] at released
  cases released

/-- While a mailbox lives, no other of the same name is destroyed. -/
theorem Custody.started_nil {server : Server} {e : Event} (h : Custody cfg st)
    (moved : st.server.step cfg e = some server) {i j : Nat} {oi oj : SessionObject} {mi mj : Mailbox}
    (at_i : server.objects[i]? = some oi)
    (at_j : server.objects[j]? = some oj) (mine : oi.LiveMailbox mi) (yours : oj.dialogue.session.mailbox = some mj)
    (same : mj.name = mi.name) : st.server.started server j = [] := by
  refine List.eq_nil_iff_forall_not_mem.mpr fun path member => ?_
  obtain ⟨before, paths, after, _⟩ := Server.started_some member
  rw [Server.releasedAt, at_j, Option.bind_some] at after
  have differ : i ≠ j := by
    rintro rfl
    cases at_i.symm.trans at_j
    cases mine.1.symm.trans after
  -- the step was one of session `j`, so that session `i` had its mailbox before
  cases Server.step_slot h.books.reachable moved at_j with
  | created fresh new =>
    rw [new] at after
    cases after
  | kept o there session released =>
    rw [Server.releasedAt, there, Option.bind_some] at before
    cases (released.trans before).symm.trans after
  | stepped d e' event lives stepped =>
    obtain ⟨o, there, live⟩ : ∃ o, st.server.objects[i]? = some o ∧ o.LiveMailbox mi := by
      cases Server.step_slot h.books.reachable moved at_i with
      | created fresh new =>
        have mailbox := mine.2
        rw [new] at mailbox
        cases mailbox
      | kept o there session released => exact ⟨o, there, released.symm.trans mine.1, session ▸ mine.2⟩
      | stepped d' e'' event' lives' stepped' =>
        rw [event] at event'
        cases event'
        exact absurd rfl differ
    refine differ (h.locks.table.exclusive there lives (SessionObject.mem_holds_of_live live) ?_)
    rw [← same]
    cases stepped with
    | kept f box mailbox =>
      obtain ⟨m, was, rfl⟩ := Option.map_eq_some_iff.mp (mailbox.symm.trans yours)
      rw [(box m).name]
      exact SessionObject.mem_holds_of_live ⟨rfl, was⟩
    | opened fs lock password m login loggingIn ownName was connected opened =>
      cases opened.symm.trans yours
      rw [connected.mailboxName, ← ownName]
      exact holds_of_loggingIn loggingIn connected.acquired

theorem Custody.server {server : Server} {e : Event} (h : Custody cfg st) (tidy : TidyStep cfg st (.server e))
    (moved : st.server.step cfg e = some server) :
    Custody cfg { st with
      server, removals := fun sessionId => st.removals sessionId ++ st.server.started server sessionId } := by
  have next : st.step cfg (.server e) = some { st with
      server, removals := fun sessionId => st.removals sessionId ++ st.server.started server sessionId } := by
    simp only [MailStore.step, moved, Option.map_some]
  have origin {i : Nat} {o' : SessionObject} {m' : Mailbox} (found : server.objects[i]? = some o')
      (mailbox : o'.dialogue.session.mailbox = some m') :=
    Server.mailbox_origin h.books.reachable moved found mailbox
  refine ⟨h.books.step next, h.locks.step tidy.1 moved, ?_, ?_, ?_, ?_⟩
  · intro i o' found m' mailbox
    rcases origin found mailbox with ⟨o, m, there, was, same, _⟩ |
      ⟨d, fs, lock, password, lives, rfl, loggingIn, ownName, connected⟩
    · rw [same.name]
      exact h.noNul i o there m was
    · rw [connected.mailboxName, ← ownName]
      exact h.locks.noNul i _ lives lock.name (holds_of_loggingIn loggingIn connected.acquired)
  · intro i o' found m' mailbox path member
    rcases origin found mailbox with ⟨o, m, there, was, same, _⟩ |
      ⟨d, fs, lock, password, lives, rfl, loggingIn, ownName, connected⟩
    · rw [same.name]
      exact h.placed i o there m was path (same.files ▸ member)
    · rw [connected.mailboxName]
      exact (connected_placed connected (tidy.2 i fs _ rfl lives).lists member).1
  · intro i o' found m' live path member
    rcases origin found live.2 with ⟨o, m, there, was, same, alive⟩ |
      ⟨d, fs, lock, password, lives, rfl, loggingIn, ownName, connected⟩
    · exact h.onDisk i o there m ⟨alive live.1, was⟩ path (same.files ▸ member)
    · exact (connected_placed connected (tidy.2 i fs _ rfl lives).lists member).2
  · intro i j oi oj mi mj at_i at_j mine yours same
    refine List.append_eq_nil_iff.mpr ⟨?_, h.started_nil moved at_i at_j mine yours same⟩
    rcases origin at_j yours with ⟨oj', mj', at_j', yours', sameBox, _⟩ | ⟨d, fs, lock, password, lives, _⟩
    · rcases origin at_i mine.2 with
        ⟨oi', mi', at_i', mine', sameBox', alive⟩ | ⟨d, fs, lock, password, lives, rfl, loggingIn, ownName, connected⟩
      · refine h.drained i j oi' oj' mi' mj' at_i' at_j' ⟨alive mine.1, mine'⟩ yours' ?_
        rw [← sameBox.name, ← sameBox'.name, same]
      · refine (tidy.2 i fs _ rfl lives).drained j oj' mj' at_j' yours' ?_
        rw [← sameBox.name, same, connected.mailboxName]
    · exact h.books.live_drained lives rfl

theorem Custody.step {e : StoreEvent} (h : Custody cfg st) (ownDirectories : PrivateDirectories cfg st.disk)
    (tidy : TidyStep cfg st e) (next : st.step cfg e = some st') : Custody cfg st' := by
  have books := h.books.step next
  cases MailStore.step_moves next with
  | server e server moved => exact h.server tidy moved
  | removed sessionId path rest first =>
    refine ⟨books, h.locks, h.noNul, h.placed, fun i o found m live path' member => ?_, ?_⟩
    · have removing : path ∈ st.removals sessionId := by rw [first]; exact List.mem_cons_self
      rw [Disk.resolve_remove, st.disk.lookup_remove_ne (h.not_removed ownDirectories found live member removing)]
      exact h.onDisk i o found m live path' member
    · intro i j oi oj mi mj at_i at_j mine yours same
      have drained := h.drained i j oi oj mi mj at_i at_j mine yours same
      by_cases own : j = sessionId
      · subst own
        cases first.symm.trans drained
      · simpa only [Function.update_of_ne own] using drained
  | delivered place content free =>
    refine ⟨books, h.locks, h.noNul, h.placed, fun i o found m live path' member => ?_, h.drained⟩
    obtain ⟨old, there⟩ := Option.ne_none_iff_exists'.mp (h.onDisk i o found m live path' member)
    rw [Disk.resolve_write, Disk.lookup_write_free free there]
    exact fun same => by cases same

theorem PrivateDirectories.of_resolve {disk' : Disk} (h : PrivateDirectories cfg disk)
    (same : ∀ path, disk'.resolve path = disk.resolve path) : PrivateDirectories cfg disk' := by
  intro name name' dir dir' clean clean' opens opens' meet
  rw [same, same] at meet
  exact h name name' dir dir' clean clean' opens opens' meet

/-- Custody of the mail, in every state of a tidy run that goes on from one. -/
theorem Custody.exec {es : List StoreEvent} (h : Custody cfg st) (ownDirectories : PrivateDirectories cfg st.disk)
    (tidy : StepsMeet (MailStore.step cfg) (TidyStep cfg) st es) (run : exec (MailStore.step cfg) st es = some st') :
    Custody cfg st' ∧ PrivateDirectories cfg st'.disk :=
  exec_invariant_of (fun st => Custody cfg st ∧ PrivateDirectories cfg st.disk) _
    (fun _ _ _ h tidy next => ⟨h.1.step h.2 tidy next, h.2.of_resolve (MailStore.step_resolve next)⟩)
    ⟨h, ownDirectories⟩ tidy run

theorem custody {es : List StoreEvent} (ownDirectories : PrivateDirectories cfg disk)
    (tidy : StepsMeet (MailStore.step cfg) (TidyStep cfg) { disk } es)
    (run : exec (MailStore.step cfg) { disk } es = some st) : Custody cfg st ∧ PrivateDirectories cfg st.disk := by
  refine Custody.exec
    ⟨⟨.refl _, by simp⟩, ?_, by simp [Server.All], by simp [Server.All], by simp [Server.All], by simp⟩
    ownDirectories tidy run
  exact ⟨by simp [Server.All], rfl, by simp [Server.All]⟩

/-! ## A session and its maildrop -/

variable {es es₁ es₂ : List StoreEvent} {st₁ st₂ st₃ : MailStore}

/-- **Exclusive access.** If every name has directories of its own: in every state of a run whose
logins list the disk, are under names that are C strings, and find no file of an earlier
mailbox of the name still to be removed, the files of every session that is logged in are on the
disk, and no two sessions have a file in common. -/
theorem exclusive_maildrop (ownDirectories : PrivateDirectories cfg disk)
    (tidy : StepsMeet (MailStore.step cfg) (TidyStep cfg) { disk } es)
    (run : exec (MailStore.step cfg) { disk } es = some st) :
    (∀ (i : Nat) (o : SessionObject) (m : Mailbox), st.server.objects[i]? = some o → o.LiveMailbox m →
      ∀ path ∈ m.files, st.disk.files.lookup (disk.resolve path) ≠ none) ∧
    ∀ (i j : Nat) (oi oj : SessionObject) (mi mj : Mailbox), st.server.objects[i]? = some oi →
      st.server.objects[j]? = some oj → oi.LiveMailbox mi → oj.LiveMailbox mj →
      ∀ path ∈ mi.files, ∀ path' ∈ mj.files, disk.resolve path = disk.resolve path' → i = j := by
  obtain ⟨h, ownDirectories⟩ := custody ownDirectories tidy run
  have leads := MailStore.exec_resolve run
  constructor
  · intro i o m found live path member
    rw [← leads]
    exact h.onDisk i o found m live path member
  · intro i j oi oj mi mj at_i at_j mine yours path member path' member' same
    rw [← leads, ← leads] at same
    exact h.disjoint ownDirectories at_i at_j mine yours member member' same

theorem mailDisk_lists : mailDisk.Lists mailFiles := by
  intro dir paths found path member
  simp only [mailFiles] at found
  split at found
  · rename_i same
    cases found
    cases List.mem_singleton.mp member
    rw [same]
    exact ⟨⟨ascii "1", rfl⟩, fun missing => by cases missing⟩
  · split at found
    · rename_i same
      cases found
      cases List.mem_singleton.mp member
      rw [same]
      exact ⟨⟨ascii "1", rfl⟩, fun missing => by cases missing⟩
    · cases found

/-- Each of the two users opens a directory of his own. -/
theorem opens_twoUsers {name : Bytes} {dir : Path} (clean : (0 : UInt8) ∉ name) (opens : Opens twoUserConfig name dir) :
    name = ascii "u" ∧ dir = ascii "/mail/u" ∨ name = ascii "v" ∧ dir = ascii "/mail/v" := by
  obtain ⟨password, vec, logon, info, listed, leads⟩ := opens
  obtain ⟨r, member, converted, _, rfl⟩ := single_logon_ok logon
  rcases List.mem_pair.mp member with rfl | rfl
  · obtain rfl : name = ascii "u" :=
      CompactString.ofView_injective converted (show _ = Except.ok storedU.name from rfl) clean (by decide)
    cases List.mem_singleton.mp listed
    cases leads
    exact .inl ⟨rfl, rfl⟩
  · obtain rfl : name = ascii "v" :=
      CompactString.ofView_injective converted (show _ = Except.ok storedV.name from rfl) clean (by decide)
    cases List.mem_singleton.mp listed
    cases leads
    exact .inr ⟨rfl, rfl⟩

theorem twoUsers_private : PrivateDirectories twoUserConfig mailDisk := by
  intro name name' dir dir' clean clean' opens opens' same
  rcases opens_twoUsers clean opens with ⟨rfl, rfl⟩ | ⟨rfl, rfl⟩ <;>
    rcases opens_twoUsers clean' opens' with ⟨rfl, rfl⟩ | ⟨rfl, rfl⟩
  · rfl
  · exact absurd same (by decide)
  · exact absurd same (by decide)
  · rfl

/-- A step that is no login. -/
def plainStep (cfg : Config) (st : MailStore) : StoreEvent → Bool
  | .server (.session _ (.runLogin _)) => false
  | .server e => cleanStep cfg st.server e
  | .remove _ => true
  | .deliver _ _ => true

theorem tidy_of_plain {cfg : Config} (st : MailStore) (e : StoreEvent) (plain : plainStep cfg st e = true) :
    TidyStep cfg st e := by
  cases e with
  | server e =>
    cases e with
    | session sessionId e =>
      cases e with
      | runLogin fs => cases plain
      | _ => exact ⟨plain, fun _ _ _ same => by cases same⟩
    | _ => exact ⟨plain, fun _ _ _ same => by cases same⟩
  | remove sessionId => trivial
  | deliver place content => trivial

/-- No session has had a mailbox under the name of this one. -/
def newName (st : Server) (sessionId : Nat) : Bool :=
  st.objects.all fun o => o.dialogue.session.mailbox.all fun m =>
    st.objects[sessionId]?.all fun mine => m.name ≠ mine.dialogue.session.userName

/-- A session logs in under a new name. -/
theorem tidy_openMail {st st₁ st₂ : MailStore} {sessionId : Nat} {name : Bytes}
    (locks : exec (MailStore.step twoUserConfig) st ((lockMail sessionId name).map .server) = some st₁)
    (plain₁ : StepsMeet (MailStore.step twoUserConfig) (fun st e => plainStep twoUserConfig st e = true) st
      ((lockMail sessionId name).map .server))
    (disk : st₁.disk = mailDisk) (new : newName st₁.server sessionId = true)
    (clean : cleanStep twoUserConfig st₁.server (.session sessionId (.runLogin fun _ => mailFiles)) = true)
    (login : st₁.step twoUserConfig (.server (.session sessionId (.runLogin fun _ => mailFiles))) = some st₂)
    (plain₂ : StepsMeet (MailStore.step twoUserConfig) (fun st e => plainStep twoUserConfig st e = true) st₂
      [.server (.session sessionId .sent), .server (.session sessionId .runWrite)]) :
    StepsMeet (MailStore.step twoUserConfig) (TidyStep twoUserConfig) st ((openMail sessionId name).map .server) := by
  rw [openMail, List.map_append]
  refine (plain₁.mono tidy_of_plain).append fun st' locked => ?_
  cases locks.symm.trans locked
  refine .cons ⟨clean, fun other fs o same found => ?_⟩ login (plain₂.mono tidy_of_plain)
  cases same
  refine ⟨disk ▸ mailDisk_lists, fun i o' m found' mailbox named => ?_⟩
  have apart := List.all_eq_true.mp new o' (List.mem_of_getElem? found')
  simp [mailbox, found, named] at apart

theorem tidy_openU : StepsMeet (MailStore.step twoUserConfig) (TidyStep twoUserConfig) { disk := mailDisk }
    ((openMail 0 (ascii "u")).map .server) :=
  tidy_openMail rfl (by decide) rfl (by decide) rfl rfl (by decide)

theorem exclusive_maildrop_openMail :
    ∃ st o o' m m', exec (MailStore.step twoUserConfig) { disk := mailDisk }
        ((openMail 0 (ascii "u") ++ openMail 1 (ascii "v")).map .server) = some st ∧
      st.server.objects[0]? = some o ∧ st.server.objects[1]? = some o' ∧ o.LiveMailbox m ∧ o'.LiveMailbox m' ∧
      m.files = [ascii "/mail/u/1"] ∧ m'.files = [ascii "/mail/v/1"] ∧
      st.disk.files.lookup (mailDisk.resolve (ascii "/mail/u/1")) ≠ none ∧
      mailDisk.resolve (ascii "/mail/u/1") ≠ mailDisk.resolve (ascii "/mail/v/1") := by
  obtain ⟨st₁, st, o, o', m, m', run₁, run₂, at_0, at_1, live, live', files, files', tidy₂⟩ : ∃ st₁ st o o' m m',
      exec (MailStore.step twoUserConfig) { disk := mailDisk } ((openMail 0 (ascii "u")).map .server) = some st₁ ∧
      exec (MailStore.step twoUserConfig) st₁ ((openMail 1 (ascii "v")).map .server) = some st ∧
      st.server.objects[0]? = some o ∧ st.server.objects[1]? = some o' ∧ o.LiveMailbox m ∧ o'.LiveMailbox m' ∧
      m.files = [ascii "/mail/u/1"] ∧ m'.files = [ascii "/mail/v/1"] ∧
      StepsMeet (MailStore.step twoUserConfig) (TidyStep twoUserConfig) st₁ ((openMail 1 (ascii "v")).map .server) :=
    ⟨_, _, _, _, _, _, rfl, rfl, rfl, rfl, ⟨rfl, rfl⟩, ⟨rfl, rfl⟩, rfl, rfl,
      tidy_openMail rfl (by decide) rfl (by decide) rfl rfl (by decide)⟩
  have run : exec (MailStore.step twoUserConfig) { disk := mailDisk }
      ((openMail 0 (ascii "u") ++ openMail 1 (ascii "v")).map .server) = some st := by
    rw [List.map_append, exec_append, run₁]
    exact run₂
  have tidy : StepsMeet (MailStore.step twoUserConfig) (TidyStep twoUserConfig) { disk := mailDisk }
      ((openMail 0 (ascii "u") ++ openMail 1 (ascii "v")).map .server) := by
    rw [List.map_append]
    refine tidy_openU.append fun st' arrived => ?_
    cases run₁.symm.trans arrived
    exact tidy₂
  have mine : ascii "/mail/u/1" ∈ m.files := by rw [files]; exact List.mem_singleton_self _
  have yours : ascii "/mail/v/1" ∈ m'.files := by rw [files']; exact List.mem_singleton_self _
  obtain ⟨there, alone⟩ := exclusive_maildrop twoUsers_private tidy run
  refine ⟨st, o, o', m, m', run, at_0, at_1, live, live', files, files', there 0 o m at_0 live _ mine, fun same => ?_⟩
  cases alone 0 1 o o' m m' at_0 at_1 live live' _ mine _ yours same

/-- A mailbox and what has become of it: it is there, with its files. -/
def Server.Since (before after : Server) : Prop :=
  ∀ (i : Nat) (o : SessionObject) (m : Mailbox), before.objects[i]? = some o → o.dialogue.session.mailbox = some m →
    ∃ o' m', after.objects[i]? = some o' ∧ o'.dialogue.session.mailbox = some m' ∧ Mailbox.SameBox m m' ∧
      (o'.released = none → o.released = none)

theorem Server.Since.refl (st : Server) : st.Since st :=
  fun _ o m found mailbox => ⟨o, m, found, mailbox, .refl m, id⟩

theorem Server.Since.step {before st st' : Server} {e : Event} (h : before.Since st)
    (reachable : Reachable (Server.step cfg) {} st) (next : st.step cfg e = some st') : before.Since st' := by
  intro i o₀ m₀ was had
  obtain ⟨o, m, found, mailbox, box, alive⟩ := h i o₀ m₀ was had
  obtain ⟨o', found'⟩ := Server.object_stays next found
  cases Server.step_slot reachable next found' with
  | created fresh new => cases fresh.symm.trans found
  | kept o there session released =>
    cases there.symm.trans found
    exact ⟨o', m, found', session ▸ mailbox, box, fun living => alive (released.symm.trans living)⟩
  | stepped d e' event lives moved =>
    cases lives.symm.trans found
    cases moved with
    | kept f same after =>
      refine ⟨o', f m, found', ?_, box.trans (same m), fun _ => alive rfl⟩
      rw [after, show d.session.mailbox = some m from mailbox, Option.map_some]
    | opened fs lock password m login loggingIn ownName noMailbox connected after =>
      cases noMailbox.symm.trans mailbox

/-- **The maildrop is frozen.** In such a run, from the login on and for as long as the session lives,
every file of its mailbox stays on the disk with the content it had. -/
theorem maildrop_frozen {sessionId : Nat} {o₁ o₂ : SessionObject} {m : Mailbox} {path : Path}
    (ownDirectories : PrivateDirectories cfg disk)
    (tidy : StepsMeet (MailStore.step cfg) (TidyStep cfg) { disk } (es₁ ++ es₂))
    (run₁ : exec (MailStore.step cfg) { disk } es₁ = some st₁)
    (run₂ : exec (MailStore.step cfg) st₁ es₂ = some st₂) (found₁ : st₁.server.objects[sessionId]? = some o₁)
    (loggedIn : o₁.LiveMailbox m) (found₂ : st₂.server.objects[sessionId]? = some o₂)
    (lives : o₂.released = none) (member : path ∈ m.files) :
    ∃ content, st₁.disk.files.lookup (disk.resolve path) = some content ∧
      st₂.disk.files.lookup (disk.resolve path) = some content := by
  obtain ⟨custody₁, private₁⟩ := custody ownDirectories tidy.of_append run₁
  have leads := MailStore.exec_resolve run₁ path
  obtain ⟨content, there⟩ := Option.ne_none_iff_exists'.mp
    (custody₁.onDisk sessionId o₁ found₁ m loggedIn path member)
  rw [leads] at there
  refine ⟨content, there, ?_⟩
  -- while the session lives nobody removes the file, nor writes it
  have kept : (Custody cfg st₂ ∧ PrivateDirectories cfg st₂.disk ∧ st₂.disk.resolve path = disk.resolve path) ∧
      st₁.server.Since st₂.server ∧
      (∀ o, st₂.server.objects[sessionId]? = some o → o.released = none →
        st₂.disk.files.lookup (disk.resolve path) = some content) := by
    refine exec_invariant_of (fun st : MailStore =>
      (Custody cfg st ∧ PrivateDirectories cfg st.disk ∧ st.disk.resolve path = disk.resolve path) ∧
      st₁.server.Since st.server ∧
      (∀ o, st.server.objects[sessionId]? = some o → o.released = none →
        st.disk.files.lookup (disk.resolve path) = some content)) (TidyStep cfg) ?_
      ⟨⟨custody₁, private₁, leads⟩, .refl _, fun _ _ _ => there⟩ (tidy.of_append_right run₁) run₂
    rintro st e st' ⟨⟨custody, ownDirectories, leads⟩, since, kept⟩ tidy next
    have always : Custody cfg st' ∧ PrivateDirectories cfg st'.disk ∧ st'.disk.resolve path = disk.resolve path :=
      ⟨custody.step ownDirectories tidy next, ownDirectories.of_resolve (MailStore.step_resolve next),
        (MailStore.step_resolve next path).trans leads⟩
    obtain ⟨o, m', there, mailbox, box, _⟩ := since sessionId o₁ m found₁ loggedIn.2
    cases MailStore.step_moves next with
    | server e server moved =>
      refine ⟨always, since.step custody.books.reachable moved, fun o' found alive => ?_⟩
      obtain ⟨o', m'', found', _, _, lived⟩ :=
        (Server.Since.refl st.server).step custody.books.reachable moved sessionId o m' there mailbox
      cases found.symm.trans found'
      exact kept o there (lived alive)
    | removed other path' rest first =>
      refine ⟨always, since, fun o' found alive => ?_⟩
      cases found.symm.trans there
      have apart := custody.not_removed ownDirectories there ⟨alive, mailbox⟩ (box.files ▸ member)
        (show path' ∈ st.removals other by rw [first]; exact List.mem_cons_self)
      rw [leads] at apart
      exact (st.disk.lookup_remove_ne apart).trans (kept o there alive)
    | delivered place new free =>
      refine ⟨always, since, fun o' found alive => ?_⟩
      exact Disk.lookup_write_free free (kept o' found alive)
  exact kept.2.2 o₂ found₂ lives

theorem maildrop_frozen_dele :
    ∃ st₁ st₂ content, exec (MailStore.step twoUserConfig) { disk := mailDisk }
        ((openMail 0 (ascii "u")).map .server) = some st₁ ∧
      exec (MailStore.step twoUserConfig) st₁ ((requestOnDisk 0 (ascii "DELE 0")).map .server) = some st₂ ∧
      st₁.disk.files.lookup (mailDisk.resolve (ascii "/mail/u/1")) = some content ∧
      st₂.disk.files.lookup (mailDisk.resolve (ascii "/mail/u/1")) = some content := by
  obtain ⟨st₁, st₂, o₁, o₂, m, run₁, run₂, found₁, live, files, found₂, alive, plain⟩ : ∃ st₁ st₂ o₁ o₂ m,
      exec (MailStore.step twoUserConfig) { disk := mailDisk } ((openMail 0 (ascii "u")).map .server) = some st₁ ∧
      exec (MailStore.step twoUserConfig) st₁ ((requestOnDisk 0 (ascii "DELE 0")).map .server) = some st₂ ∧
      st₁.server.objects[0]? = some o₁ ∧ o₁.LiveMailbox m ∧ m.files = [ascii "/mail/u/1"] ∧
      st₂.server.objects[0]? = some o₂ ∧ o₂.released = none ∧
      StepsMeet (MailStore.step twoUserConfig) (fun st e => plainStep twoUserConfig st e = true) st₁
        ((requestOnDisk 0 (ascii "DELE 0")).map .server) :=
    ⟨_, _, _, _, _, rfl, rfl, rfl, ⟨rfl, rfl⟩, rfl, rfl, rfl, by decide⟩
  have tidy := tidy_openU.append fun st run => by
    cases run₁.symm.trans run
    exact plain.mono tidy_of_plain
  have member : ascii "/mail/u/1" ∈ m.files := by rw [files]; exact List.mem_singleton_self _
  obtain ⟨content, before, after⟩ := maildrop_frozen twoUsers_private tidy run₁ run₂ found₁ live found₂ alive member
  exact ⟨st₁, st₂, content, run₁, run₂, before, after⟩

/-- The session had no mailbox then. -/
def Server.HadNone (st : Server) (sessionId : Nat) : Prop :=
  ∀ o, st.objects[sessionId]? = some o → o.dialogue.session.mailbox = none

/-- A mail delivered at a place, since `st₁`: only sessions that had no mailbox then are to remove it. -/
structure Delivered (cfg : Config) (st₁ st : MailStore) (place : Place) : Prop where
  custody : Custody cfg st
  since : st₁.server.Since st.server
  resolve : ∀ path, st.disk.resolve path = st₁.disk.resolve path
  later : ∀ sessionId, ∀ path ∈ st.removals sessionId, st₁.disk.resolve path = place → st₁.server.HadNone sessionId

theorem Delivered.step {place : Place} {e : StoreEvent} (h : Delivered cfg st₁ st place) (custody₁ : Custody cfg st₁)
    (free : st₁.disk.files.lookup place = none) (ownDirectories : PrivateDirectories cfg st.disk)
    (tidy : TidyStep cfg st e) (next : st.step cfg e = some st') : Delivered cfg st₁ st' place := by
  have custody' := h.custody.step ownDirectories tidy next
  have resolve' : ∀ path, st'.disk.resolve path = st₁.disk.resolve path :=
    fun path => (MailStore.step_resolve next path).trans (h.resolve path)
  cases MailStore.step_moves next with
  | server e server moved =>
    have since' := h.since.step h.custody.books.reachable moved
    refine ⟨custody', since', resolve', fun sessionId path member leads => ?_⟩
    rcases List.mem_append.mp member with old | new
    · exact h.later sessionId path old leads
    · intro o₁ found₁
      by_contra had
      obtain ⟨m₁, had⟩ := Option.ne_none_iff_exists'.mp had
      -- the session lived until now, so at the delivery its files were on the disk
      obtain ⟨o, m, found, mailbox, _, alive⟩ := h.since sessionId o₁ m₁ found₁ had
      have lived := (Server.started_some new).1
      rw [Server.releasedAt, found, Option.bind_some] at lived
      obtain ⟨o', m', found', _, mailbox', file⟩ := custody'.books.pendingFile member
      obtain ⟨o'', m'', found'', mailbox'', box, _⟩ := since' sessionId o₁ m₁ found₁ had
      cases found'.symm.trans found''
      cases mailbox'.symm.trans mailbox''
      have there := custody₁.onDisk sessionId o₁ found₁ m₁ ⟨alive lived, had⟩ path (box.files ▸ file)
      rw [leads] at there
      exact there free
  | removed other path rest first =>
    refine ⟨custody', h.since, resolve', fun sessionId path' member leads => h.later sessionId path' ?_ leads⟩
    by_cases own : sessionId = other
    · subst own
      simp only [Function.update_self] at member
      rw [first]
      exact List.mem_cons_of_mem path member
    · simpa only [Function.update_of_ne own] using member
  | delivered place new _ => exact ⟨custody', h.since, resolve', h.later⟩

/-- **New mail waits for the next session.** In such a run, a mail delivered while sessions are logged
in, at a place where no destructor has a file still to remove, is not lost to any of them, whatever they
have deleted: it stays on the disk until a session that had not opened its mailbox yet removes it,
after an acknowledged `QUIT`. -/
theorem new_mail_waits {place : Place} {content : Bytes} (ownDirectories : PrivateDirectories cfg disk)
    (tidy : StepsMeet (MailStore.step cfg) (TidyStep cfg) { disk } (es₁ ++ .deliver place content :: es₂))
    (run₁ : exec (MailStore.step cfg) { disk } es₁ = some st₁)
    (newPlace : ∀ sessionId, ∀ path ∈ st₁.removals sessionId, st₁.disk.resolve path ≠ place)
    (delivered : st₁.step cfg (.deliver place content) = some st₂)
    (run₂ : exec (MailStore.step cfg) st₂ es₂ = some st₃) :
    st₃.disk.files.lookup place = some content ∨
      ∃ sessionId, RemovedBy st₃ sessionId place ∧ st₁.server.HadNone sessionId := by
  obtain ⟨custody₁, private₁⟩ := custody ownDirectories tidy.of_append run₁
  have onward := tidy.of_append_right run₁
  have custody₂ := custody₁.step private₁ onward.1 delivered
  obtain ⟨free, start⟩ : st₁.disk.files.lookup place = none ∧
      st₂ = { st₁ with disk := st₁.disk.write place content } := by
    cases MailStore.step_moves delivered with
    | delivered _ _ free => exact ⟨free, rfl⟩
  obtain ⟨⟨h, _⟩, kept⟩ : (Delivered cfg st₁ st₃ place ∧ PrivateDirectories cfg st₃.disk) ∧
      (st₃.disk.files.lookup place = some content ∨ ∃ sessionId paths path,
        st₃.server.releasedAt sessionId = some (.ok paths) ∧ path ∈ paths ∧
          st₁.disk.resolve path = place ∧ st₁.server.HadNone sessionId) := by
    refine exec_invariant_of (fun st : MailStore => (Delivered cfg st₁ st place ∧ PrivateDirectories cfg st.disk) ∧
      (st.disk.files.lookup place = some content ∨ ∃ sessionId paths path,
        st.server.releasedAt sessionId = some (.ok paths) ∧ path ∈ paths ∧
          st₁.disk.resolve path = place ∧ st₁.server.HadNone sessionId)) (TidyStep cfg) ?_
      ⟨⟨⟨custody₂, ?_, ?_, ?_⟩, ?_⟩, ?_⟩ (onward.2 st₂ delivered) run₂
    · rintro st e st' ⟨⟨h, ownDirectories⟩, kept⟩ tidy next
      refine ⟨⟨h.step custody₁ free ownDirectories tidy next,
        ownDirectories.of_resolve (MailStore.step_resolve next)⟩, ?_⟩
      have books := h.custody.books
      cases MailStore.step_moves next with
      | server e server moved =>
        refine kept.imp_right ?_
        rintro ⟨sessionId, paths, path, released, rest⟩
        exact ⟨sessionId, paths, path, Server.releasedAt_step books.reachable moved released, rest⟩
      | removed sessionId path rest first =>
        have removing : path ∈ st.removals sessionId := by rw [first]; exact List.mem_cons_self
        by_cases gone : st₁.disk.resolve path = place
        · obtain ⟨paths, released, member⟩ := books.pending sessionId path removing
          exact .inr ⟨sessionId, paths, path, released, member, gone, h.later sessionId path removing gone⟩
        · rw [← h.resolve path] at gone
          exact kept.imp_left fun there => (st.disk.lookup_remove_ne (Ne.symm gone)).trans there
      | delivered other new free => exact kept.imp_left (Disk.lookup_write_free free)
    · rw [start]; exact .refl _
    · rw [start]; exact fun _ => rfl
    · rw [start]; exact fun sessionId path member leads => absurd leads (newPlace sessionId path member)
    · exact private₁.of_resolve (MailStore.step_resolve delivered)
    · rw [start]; exact .inl (AList.lookup_insert _)
  refine kept.imp_right ?_
  rintro ⟨sessionId, paths, path, released, member, leads, later⟩
  obtain ⟨d, m, found, acknowledged, mailbox, recorded⟩ := Server.removedBy h.custody.books.reachable released member
  exact ⟨sessionId, ⟨d, paths, m, path, found, member, (h.resolve path).trans leads, acknowledged, mailbox, recorded⟩,
    later⟩

/-- A mail comes while `u` is logged in; `u` deletes what it has found, and it waits. -/
theorem new_mail_waits_takeMail :
    ∃ st, exec (MailStore.step twoUserConfig) { disk := mailDisk }
        ((openMail 0 (ascii "u")).map .server ++ .deliver [ascii "mail", ascii "u", ascii "2"] (ascii "y") ::
          ((takeMail 0).map .server ++ [.remove 0])) = some st ∧
      st.disk.files.lookup [ascii "mail", ascii "u", ascii "1"] = none ∧
      st.disk.files.lookup [ascii "mail", ascii "u", ascii "2"] = some (ascii "y") := by
  obtain ⟨st₁, st₂, st₃, o₁, run₁, delivered, run₂, objects₁, mailbox₁, objects₃, gone, plain⟩ : ∃ st₁ st₂ st₃ o₁,
      exec (MailStore.step twoUserConfig) { disk := mailDisk } ((openMail 0 (ascii "u")).map .server) = some st₁ ∧
      st₁.step twoUserConfig (.deliver [ascii "mail", ascii "u", ascii "2"] (ascii "y")) = some st₂ ∧
      exec (MailStore.step twoUserConfig) st₂ ((takeMail 0).map .server ++ [.remove 0]) = some st₃ ∧
      st₁.server.objects = [⟨o₁, none⟩] ∧ o₁.session.mailbox.isSome = true ∧ st₃.server.objects.length = 1 ∧
      st₃.disk.files.lookup [ascii "mail", ascii "u", ascii "1"] = none ∧
      StepsMeet (MailStore.step twoUserConfig) (fun st e => plainStep twoUserConfig st e = true) st₂
        ((takeMail 0).map .server ++ [.remove 0]) := ⟨_, _, _, _, rfl, rfl, rfl, rfl, rfl, rfl, rfl, by decide⟩
  have tidy := tidy_openU.append fun st run => by
    cases run₁.symm.trans run
    refine StepsMeet.cons ?_ delivered (plain.mono tidy_of_plain)
    trivial
  have newPlace : ∀ sessionId, ∀ path ∈ st₁.removals sessionId,
      st₁.disk.resolve path ≠ [ascii "mail", ascii "u", ascii "2"] := by
    intro sessionId path removing
    obtain ⟨o, m, found, destroyed, _⟩ := (MailStore.bookkeeping run₁).pendingFile removing
    rw [objects₁] at found
    cases List.mem_singleton.mp (List.mem_of_getElem? found)
    exact absurd rfl destroyed
  refine ⟨st₃, by rw [exec_append, run₁, Option.bind_some, exec_cons, delivered]; exact run₂, gone, ?_⟩
  refine (new_mail_waits twoUsers_private tidy run₁ newPlace delivered run₂).resolve_right ?_
  rintro ⟨sessionId, ⟨d, _, _, _, found, _⟩, hadNone⟩
  have first : sessionId = 0 := by
    have bound := (List.getElem?_eq_some_iff.mp found).1
    omega
  subst first
  rw [hadNone ⟨o₁, none⟩ (by rw [objects₁]; rfl)] at mailbox₁
  cases mailbox₁

end Pop3Serv.Net
