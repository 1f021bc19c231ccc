import Pop3Serv.Mail.Manager
import Pop3Serv.Mail.Numbering

/-!
# What a login attempt gives

`connect` in one lemma: either it builds a mailbox, which then owns the lock, or
it leaves the lock where it was. With the lock table this is the whole effect of
`VerifyCredentialsAndConnect`.
-/

namespace Pop3Serv.Mail
open Mailbox

/-- Evaluate a throwing call inside a `do` block: it returned, and the rest did. -/
theorem bind_ok {α β : Type} {x : Except Fault α} {f : α → Except Fault β} {b : β}
    (h : x >>= f = .ok b) : ∃ a, x = .ok a ∧ f a = .ok b := by
  cases x with
  | error fault => cases h
  | ok a => exact ⟨a, rfl, h⟩

theorem create_fresh {fs : FileSystem} {defaultPath : Path} {info : MailStorageInfo} {name : Bytes}
    {s : FileSystemMailStorage} (h : FileSystemStorageFactory.create fs defaultPath info name = .ok s) :
    ∃ emails, s = { emails } := by
  obtain ⟨path, _, h⟩ := bind_ok h
  obtain ⟨there, _, h⟩ := bind_ok h
  split at h
  · obtain ⟨created, _, h⟩ := bind_ok h
    split at h
    · cases h
    · obtain ⟨emails, _, h⟩ := bind_ok h
      cases h
      exact ⟨emails, rfl⟩
  · obtain ⟨emails, _, h⟩ := bind_ok h
    cases h
    exact ⟨emails, rfl⟩

theorem mem_createStorages {fs : FileSystem} {defaultPath : Path} {vec : List MailStorageInfo}
    {name : Bytes} {s : FileSystemMailStorage} (h : s ∈ createStorages fs defaultPath vec name) :
    s = { emails := s.emails } := by
  obtain ⟨info, _, made⟩ := List.mem_filterMap.mp h
  split at made
  · cases created : FileSystemStorageFactory.create fs defaultPath info name with
    | error fault => rw [created] at made; cases made
    | ok t =>
      rw [created] at made
      cases made
      obtain ⟨emails, rfl⟩ := create_fresh created
      rfl
  · cases made

/-- Every storage a login creates is fresh, so a mailbox it opens is an opened one. -/
theorem createStorages_fresh (fs : FileSystem) (defaultPath : Path) (vec : List MailStorageInfo)
    (name : Bytes) : ∃ directories : List (List Path), createStorages fs defaultPath vec name =
      directories.map fun emails => ({ emails } : FileSystemMailStorage) := by
  refine ⟨(createStorages fs defaultPath vec name).map (·.emails), ?_⟩
  rw [List.map_map]
  exact (List.map_id _).symm.trans (List.map_congr_left fun s hs => mem_createStorages hs)

/-- A login attempt that ended with a mailbox. -/
structure Connected (auth : AuthorizationManager) (defaultPath : Path) (fs : FileSystem)
    (lock : MailboxLock) (name password : Bytes) (m : Mailbox) : Prop where
  acquired : lock.acquired = true
  logon : ∃ vec, auth.logon name password = .ok (.ok vec) ∧ vec ≠ [] ∧
    m.storages = createStorages fs defaultPath vec name
  nonempty : m.storages ≠ []
  mailboxName : m.name = name
  lock : m.lock = ⟨lock.name, true⟩

/-- **`connect`**: a mailbox that has taken the lock over, or no mailbox and the lock as it was. -/
theorem connect_cases (auth : AuthorizationManager) (defaultPath : Path) (fs : FileSystem)
    (lock : MailboxLock) (name password : Bytes) :
    (∃ m, connect auth defaultPath fs lock name password =
        (.ok (.mailbox m), { lock with acquired := false }) ∧
      Connected auth defaultPath fs lock name password m) ∨
    ((connect auth defaultPath fs lock name password).2 = lock ∧
      ∀ m, (connect auth defaultPath fs lock name password).1 ≠ .ok (.mailbox m)) := by
  unfold connect
  split
  · rename_i acquired
    split
    · exact .inr ⟨rfl, nofun⟩
    · exact .inr ⟨rfl, nofun⟩
    · rename_i vec logon
      split
      · exact .inr ⟨rfl, nofun⟩
      · rename_i hasStorages
        simp only
        split
        · exact .inr ⟨rfl, nofun⟩
        · rename_i made
          refine .inl ⟨_, rfl, acquired, ⟨vec, logon, by simpa using hasStorages, rfl⟩, ?_, rfl, ?_⟩
          · simpa [Mailbox.construct, MailboxLock.move] using made
          · simp [Mailbox.construct, MailboxLock.move, acquired]
  · exact .inr ⟨rfl, nofun⟩

/-- A mailbox from a login is an opened one. -/
theorem Connected.opened {auth : AuthorizationManager} {defaultPath : Path} {fs : FileSystem}
    {lock : MailboxLock} {name password : Bytes} {m : Mailbox}
    (h : Connected auth defaultPath fs lock name password m) :
    ∃ directories, m = Mailbox.opened name directories ⟨lock.name, true⟩ := by
  obtain ⟨vec, _, _, storages⟩ := h.logon
  obtain ⟨directories, fresh⟩ := createStorages_fresh fs defaultPath vec name
  refine ⟨directories, ?_⟩
  cases m
  simp only [Mailbox.opened, Mailbox.mk.injEq]
  exact ⟨h.mailboxName, storages.trans fresh, h.lock⟩

/-- A logon that returns storages: all three functions answered for it. -/
theorem logon_ok {auth : AuthorizationManager} {name password : Bytes} {vec : List MailStorageInfo}
    (h : auth.logon name password = .ok (.ok vec)) :
    auth.verifyName name = .ok true ∧ auth.verifyCredentials name password = .ok true ∧
      auth.getMailStoragesAssociatedWithConsumer name = .ok vec := by
  obtain ⟨known, verified, h⟩ := bind_ok h
  cases known with
  | false => cases h
  | true =>
    obtain ⟨correct, checked, h⟩ := bind_ok h
    cases correct with
    | false => cases h
    | true =>
      obtain ⟨storages, asked, h⟩ := bind_ok h
      cases h
      exact ⟨verified, checked, asked⟩

/-- **A logon to the cache of records** is on one record: the three lookups find the same. -/
theorem single_logon_ok {hash : Bytes → UInt64} {NameType PasswordType : KeyType}
    {cache : ConsumerCache NameType PasswordType} {name password : Bytes} {vec : List MailStorageInfo}
    (h : (SingleConsumerInfoStorageAuthorizationManager hash cache).logon name password = .ok (.ok vec)) :
    ∃ r ∈ cache.cachedConsumerInfos, NameType.convert hash name = .ok r.name ∧
      PasswordType.convert hash password = .ok r.password ∧ r.storages = vec := by
  obtain ⟨_, checked, asked⟩ := logon_ok h
  obtain ⟨key, converted, checked⟩ := bind_ok checked
  obtain ⟨key', converted', asked⟩ := bind_ok asked
  cases converted.symm.trans converted'
  cases found : cache.getConsumerInfo key with
  | none => rw [found] at checked; cases checked
  | some r =>
    rw [found] at checked asked
    obtain ⟨member, rfl⟩ := ConsumerCache.getConsumerInfo_mem found
    obtain ⟨digest, hashed, same⟩ := bind_ok checked
    have same : r.password = digest := by simpa [pure, Except.pure] using same
    exact ⟨r, member, converted, same ▸ hashed, Except.ok.inj asked⟩

/-- A logon under a name no record has. -/
theorem single_logon_none {hash : Bytes → UInt64} {NameType PasswordType : KeyType}
    {cache : ConsumerCache NameType PasswordType} {name : Bytes} {key : NameType.Value}
    (converted : NameType.convert hash name = .ok key) (missing : cache.getConsumerInfo key = none)
    (password : Bytes) :
    (SingleConsumerInfoStorageAuthorizationManager hash cache).logon name password =
      .ok (.error .NoSuchConsumer) := by
  simp [AuthorizationManager.logon, SingleConsumerInfoStorageAuthorizationManager, converted, missing,
    ConsumerCache.hasMailbox, bind, Except.bind, pure, Except.pure]

/-- A logon under the name of a record: the password is converted, and compared with the record's. -/
theorem single_logon_some {hash : Bytes → UInt64} {NameType PasswordType : KeyType}
    {cache : ConsumerCache NameType PasswordType} {name : Bytes} {key : NameType.Value}
    {r : ConsumerInfo NameType PasswordType} (converted : NameType.convert hash name = .ok key)
    (found : cache.getConsumerInfo key = some r) (password : Bytes) :
    (SingleConsumerInfoStorageAuthorizationManager hash cache).logon name password =
      match PasswordType.convert hash password with
      | .error fault => .error fault
      | .ok digest => if r.password = digest then .ok (.ok r.storages) else .ok (.error .InvalidPassword) := by
  cases hashed : PasswordType.convert hash password with
  | error fault =>
    simp [AuthorizationManager.logon, SingleConsumerInfoStorageAuthorizationManager, converted, found,
      hashed, ConsumerCache.hasMailbox, bind, Except.bind, pure, Except.pure]
  | ok digest =>
    by_cases same : r.password = digest
    · simp [AuthorizationManager.logon, SingleConsumerInfoStorageAuthorizationManager, converted, found,
        hashed, same, ConsumerCache.hasMailbox, bind, Except.bind, pure, Except.pure]
    · simp [AuthorizationManager.logon, SingleConsumerInfoStorageAuthorizationManager, converted, found,
        hashed, same, ConsumerCache.hasMailbox, bind, Except.bind, pure, Except.pure]

end Pop3Serv.Mail
