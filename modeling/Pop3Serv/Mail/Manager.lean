import Pop3Serv.Mail.Mailbox

/-!
# Authorization and the mailbox lock table

`AuthorizationManager.h`, `MailboxLock.cpp`, `MailboxServiceManager.h` and
`MailboxServiceManager.cpp`. The three mutex-protected or lock-free pieces of
`VerifyCredentialsAndConnect` (taking the lock, everything up to the result,
releasing the lock) are definitions of their own, so that the server model can
run them as separate steps.
-/

namespace Pop3Serv.Mail

/-- `MailboxServiceManager::activeMailboxes`. -/
abbrev ActiveMailboxes := Finset Bytes

/-- `MailboxServiceManager::LockMailbox`. -/
def LockMailbox (active : ActiveMailboxes) (name : Bytes) : Bool × ActiveMailboxes :=
  if name ∈ active then (false, active) else (true, insert name active)

/-- `MailboxServiceManager::UnlockMailbox`: `erase(name.data())`, so the key is the C string. -/
def UnlockMailbox (active : ActiveMailboxes) (name : Bytes) : ActiveMailboxes :=
  active.erase (cstr name)

/-- `MailboxLock::MailboxLock(std::string_view)`. -/
def MailboxLock.construct (active : ActiveMailboxes) (name : Bytes) : MailboxLock × ActiveMailboxes :=
  let (acquired, active) := LockMailbox active name
  (⟨name, acquired⟩, active)

/-- `MailboxLock::~MailboxLock`. -/
def MailboxLock.destruct (lock : MailboxLock) (active : ActiveMailboxes) : ActiveMailboxes :=
  if lock.acquired then UnlockMailbox active lock.name else active

/-- The three virtual functions of `AuthorizationManager`. -/
structure AuthorizationManager where
  verifyName : Bytes → Except Fault Bool
  verifyCredentials : Bytes → Bytes → Except Fault Bool
  getMailStoragesAssociatedWithConsumer : Bytes → Except Fault (List MailStorageInfo)

/-- `AuthorizationManager::logon`. -/
def AuthorizationManager.logon (auth : AuthorizationManager) (name password : Bytes) :
    Except Fault (Except AuthError (List MailStorageInfo)) := do
  if !(← auth.verifyName name) then return .error .NoSuchConsumer
  if !(← auth.verifyCredentials name password) then return .error .InvalidPassword
  return .ok (← auth.getMailStoragesAssociatedWithConsumer name)

def DummyAuthorizationManager : AuthorizationManager where
  verifyName _ := .ok true
  verifyCredentials _ _ := .ok true
  getMailStoragesAssociatedWithConsumer _ := .ok [{ storageType := .FileSystemMailStorage }]

/-- `SingleConsumerInfoStorageAuthorizationManager`: each function converts the name anew,
and the password only once a record is found (`settings && ...`). -/
def SingleConsumerInfoStorageAuthorizationManager (hash : Bytes → UInt64)
    {NameType PasswordType : KeyType} (storage : ConsumerCache NameType PasswordType) :
    AuthorizationManager where
  verifyName name := do
    return storage.hasMailbox (← NameType.convert hash name)
  verifyCredentials name password := do
    match storage.getConsumerInfo (← NameType.convert hash name) with
    | none => return false
    | some settings => return settings.password = (← PasswordType.convert hash password)
  getMailStoragesAssociatedWithConsumer name := do
    match storage.getConsumerInfo (← NameType.convert hash name) with
    | none => return []
    | some settings => return settings.storages

/-- The managers the program can be configured with. -/
inductive AuthorizationManager.Provided : AuthorizationManager → Prop
  | dummy : Provided DummyAuthorizationManager
  | single (hash : Bytes → UInt64) {NameType PasswordType : KeyType}
      (storage : ConsumerCache NameType PasswordType) :
    Provided (SingleConsumerInfoStorageAuthorizationManager hash storage)

/-- `std::variant<mailbox_ptr, MailboxOperationError, AuthError>`. -/
inductive LoginResult where
  | mailbox (m : Mailbox)
  | operationError (err : MailboxOperationError)
  | authError (err : AuthError)
  deriving DecidableEq, Repr

/-- The loop over the storage descriptions: what throws is skipped, and so is any
description of another type. -/
def createStorages (fs : FileSystem) (defaultPath : Path) (vec : List MailStorageInfo)
    (mailboxName : Bytes) : List FileSystemMailStorage :=
  vec.filterMap fun storageDescription =>
    match storageDescription.storageType with
    | .FileSystemMailStorage =>
      (FileSystemStorageFactory.create fs defaultPath storageDescription mailboxName).toOption
    | _ => none

/-- `Mailbox::Mailbox`: the lock is moved into the parameter and from there into the
member. The second component is what the caller's lock is left as. -/
def Mailbox.construct (mailboxName : Bytes) (storages : List FileSystemMailStorage)
    (lock : MailboxLock) : Mailbox × MailboxLock :=
  let (parameter, left) := lock.move
  let (member, _) := parameter.move
  ({ name := mailboxName, storages, lock := member }, left)

/-- `VerifyCredentialsAndConnect` between the construction of its lock and the
lock's destruction: the result, and the local lock as it is then. -/
def connect (auth : AuthorizationManager) (defaultPath : Path) (fs : FileSystem)
    (lock : MailboxLock) (mailboxName password : Bytes) : Except Fault LoginResult × MailboxLock :=
  if lock.acquired then
    match auth.logon mailboxName password with
    | .error fault => (.error fault, lock)
    | .ok (.error err) => (.ok (.authError err), lock)
    | .ok (.ok vec) =>
      if vec.isEmpty then (.ok (.authError .ConsumerHasNoAssociatedMailStorage), lock)
      else
        let storages := createStorages fs defaultPath vec mailboxName
        if storages.isEmpty then
          (.ok (.operationError .UserStoragesInstantinationFailure), lock)
        else
          let (mailbox, lock) := Mailbox.construct mailboxName storages lock
          (.ok (.mailbox mailbox), lock)
  else (.ok (.operationError .MailboxIsBusy), lock)

/-- `MailboxServiceManager::VerifyCredentialsAndConnect`. -/
def VerifyCredentialsAndConnect (auth : AuthorizationManager) (defaultPath : Path) (fs : FileSystem)
    (active : ActiveMailboxes) (mailboxName password : Bytes) :
    Except Fault LoginResult × ActiveMailboxes :=
  let (lock, active) := MailboxLock.construct active mailboxName
  let (result, lock) := connect auth defaultPath fs lock mailboxName password
  (result, lock.destruct active)

/-- `Mailbox::~Mailbox` on the lock table: the `lock` member's destructor. -/
def Mailbox.destroyLock (m : Mailbox) (active : ActiveMailboxes) : ActiveMailboxes :=
  m.lock.destruct active

end Pop3Serv.Mail
