import Pop3Serv.Mail.Storage

/-!
# The mailbox

`Mailbox.h`, `Mailbox.cpp` and `MailboxLock.h`. Numbers are `std::size_t`; a
sum of counts is over messages held in memory at once and is a plain `Nat`,
while the subtraction in `findStorage` wraps.
-/

namespace Pop3Serv.Mail

/-- `MailboxLock`: the name it was taken under, and whether it was. -/
structure MailboxLock where
  name : Bytes
  acquired : Bool
  deriving DecidableEq, Repr

/-- The move constructor: the new lock, and what is left of the old one. -/
def MailboxLock.move (moved : MailboxLock) : MailboxLock × MailboxLock :=
  (⟨moved.name, moved.acquired⟩, { moved with acquired := false })

structure Mailbox where
  name : Bytes
  storages : List FileSystemMailStorage
  lock : MailboxLock
  deriving DecidableEq, Repr

/-- An iterator into `storages` other than `cend()`: its position and what it points to. -/
structure StorageIterator where
  position : Nat
  storage : FileSystemMailStorage

/-- `Mailbox::findStorage`: the `find_if` with its mutating predicate. The
result is the iterator (`none` for `cend()`) with the caller's number after the scan. -/
def findStorage : List FileSystemMailStorage → Nat → Nat → Option (StorageIterator × Nat)
  | [], _, _ => none
  | storage :: rest, position, emailNumber =>
    let count := storage.getEmailsCount
    if emailNumber < storage.getEmailsCount then some (⟨position, storage⟩, emailNumber)
    else findStorage rest (position + 1) (sizeSub emailNumber count)

namespace Mailbox

def getEmailsCount (m : Mailbox) : Nat :=
  m.storages.foldl (fun sum storage => sum + storage.getEmailsCount) 0

/-- The `for_each` of `getEmailsLengths`: the storages left, the map so far and the
running offset. `std::copy` through an inserter keeps an entry that is already there. -/
def lengthsOf (fs : FileSystem) :
    List FileSystemMailStorage → Std.TreeMap Nat Nat → Nat → Except Fault (Std.TreeMap Nat Nat)
  | [], lengths, _ => .ok lengths
  | storage :: rest, lengths, offset =>
    match storage.getEmailsLengths fs offset with
    | .ok mp =>
      lengthsOf fs rest (mp.toList.foldl (fun m p => m.insertIfNew p.1 p.2) lengths)
        (offset + storage.getEmailsCount)
    | .error fault => .error fault

def getEmailsLengths (fs : FileSystem) (m : Mailbox) : Except Fault (Std.TreeMap Nat Nat) :=
  lengthsOf fs m.storages ∅ 0

def getWholeMailboxSize (fs : FileSystem) (m : Mailbox) : Except Fault Nat :=
  match m.getEmailsLengths fs with
  | .ok mp => .ok (mp.toList.foldl (fun sum pair => sum + pair.2) 0)
  | .error fault => .error fault

def getEmailLength (fs : FileSystem) (m : Mailbox) (emailNumber : Nat) :
    Except Fault (Except MailboxOperationError Nat) :=
  match findStorage m.storages 0 emailNumber with
  | none => .ok (.error .EmailNotFound)
  | some (it, localNumber) =>
    if it.storage.isMailMarkedAsDeleted localNumber then .ok (.error .MailIsMarkedAsDeleted)
    else
      match it.storage.getEmailLength fs localNumber with
      | .ok length => .ok (.ok length)
      | .error fault => .error fault

def getEmail (fs : FileSystem) (m : Mailbox) (emailNumber : Nat) :
    Except Fault (Except MailboxOperationError Bytes) :=
  match findStorage m.storages 0 emailNumber with
  | none => .ok (.error .EmailNotFound)
  | some (it, localNumber) => it.storage.getEmail fs localNumber

def deleteEmail (m : Mailbox) (emailNumber : Nat) : Mailbox × MailboxOperationError :=
  match findStorage m.storages 0 emailNumber with
  | none => (m, .EmailNotFound)
  | some (it, localNumber) =>
    let (storage, answer) := it.storage.deleteEmail localNumber
    ({ m with storages := m.storages.set it.position storage }, answer)

def deleteEmails (m : Mailbox) : Mailbox :=
  { m with storages := m.storages.map (·.deleteEmails) }

def reset (m : Mailbox) : Mailbox := { m with storages := m.storages.map (·.reset) }

def setUpdate (m : Mailbox) : Mailbox := { m with storages := m.storages.map (·.setUpdateFlag) }

/-- The storages' destructors, which run when the mailbox is destroyed: the files removed. -/
def destroyStorages (m : Mailbox) : Except Fault (List Path) :=
  return (← m.storages.mapM (·.destroy)).flatten

end Mailbox

end Pop3Serv.Mail
