import Pop3Serv.Mail.ConsumerInfo

/-!
# Mail storages

`MailStorage.h`, `FileSystemMailStorage.h` and `FileSystemMailStorage.cpp`.
The file system is an argument of every call that asks it: one `FileSystem` is
what such a call finds, and each of its entries may be a failure.
-/

namespace Pop3Serv.Mail

/-- `std::filesystem::path`, by its text. -/
abbrev Path := Bytes

def slash : UInt8 := 47

/-- `operator/` of `std::filesystem::path`: an absolute right operand replaces the left one. -/
def Path.append (left right : Path) : Path :=
  if right.head? = some slash then right
  else if left.isEmpty ∨ left.getLast? = some slash then left ++ right
  else left ++ [slash] ++ right

/-- The answers of the file system to one call; `none` where the call throws
(for `ifstream`, where the stream does not open). -/
structure FileSystem where
  file_size : Path → Option Nat
  /-- the stream's `rdbuf()` -/
  ifstream : Path → Option Bytes
  pathExists : Path → Option Bool
  create_directory : Path → Option Bool
  /-- the entries of a `directory_iterator` that are regular files -/
  regular_files : Path → Option (List Path)

/-- The value of a file-system call, or its exception. -/
def filesystemCall {α : Type} (answer : Option α) : Except Fault α :=
  match answer with
  | some a => .ok a
  | none => .error .filesystemError

/-- The fields of the base class `MailStorage`. -/
structure MailStorage where
  updateAtClose : Bool := false
  deleteAll : Bool := false
  emailsToBeDeleted : List Nat := []
  deriving DecidableEq, Repr

/-- `FileSystemMailStorage`, the only class derived from `MailStorage`. -/
structure FileSystemMailStorage extends MailStorage where
  emails : List Path
  deriving DecidableEq, Repr

namespace FileSystemMailStorage

/-- `MailStorage::isMailMarkedAsDeleted`. -/
def isMailMarkedAsDeleted (s : FileSystemMailStorage) (emailNumber : Nat) : Bool :=
  if s.deleteAll then true else s.emailsToBeDeleted.contains emailNumber

/-- `MailStorage::deleteEmail`: the storage after the call, and the answer. -/
def deleteEmail (s : FileSystemMailStorage) (emailNumber : Nat) :
    FileSystemMailStorage × MailboxOperationError :=
  if s.isMailMarkedAsDeleted emailNumber then (s, .EmailAlreadyDeleted)
  else ({ s with emailsToBeDeleted := s.emailsToBeDeleted ++ [emailNumber] }, .NoError)

/-- `MailStorage::deleteEmails`. -/
def deleteEmails (s : FileSystemMailStorage) : FileSystemMailStorage := { s with deleteAll := true }

/-- `MailStorage::reset`. -/
def reset (s : FileSystemMailStorage) : FileSystemMailStorage :=
  { s with deleteAll := false, emailsToBeDeleted := [] }

/-- `MailStorage::setUpdateFlag`. -/
def setUpdateFlag (s : FileSystemMailStorage) : FileSystemMailStorage := { s with updateAtClose := true }

def getEmailsCount (s : FileSystemMailStorage) : Nat :=
  if s.deleteAll then 0 else sizeSub s.emails.length s.emailsToBeDeleted.length

/-- `emails[emailNumber]`. -/
def emailAt (s : FileSystemMailStorage) (emailNumber : Nat) : Except Fault Path :=
  match s.emails[emailNumber]? with
  | some path => .ok path
  | none => .error .badIndex

def getEmailLength (fs : FileSystem) (s : FileSystemMailStorage) (emailNumber : Nat) :
    Except Fault Nat := do
  filesystemCall (fs.file_size (← s.emailAt emailNumber))

/-- The loop of `getEmailsLengths` from position `i` on, over the `rest` positions left. -/
def lengthsFrom (fs : FileSystem) (s : FileSystemMailStorage) (mailNumberOffset : Nat) :
    Nat → Nat → Std.TreeMap Nat Nat → Except Fault (Std.TreeMap Nat Nat)
  | _, 0, lengths => .ok lengths
  | i, rest + 1, lengths =>
    if s.isMailMarkedAsDeleted i then s.lengthsFrom fs mailNumberOffset (i + 1) rest lengths
    else
      match s.getEmailLength fs i with
      | .ok length =>
        s.lengthsFrom fs mailNumberOffset (i + 1) rest (lengths.insertIfNew (i + mailNumberOffset) length)
      | .error fault => .error fault

def getEmailsLengths (fs : FileSystem) (s : FileSystemMailStorage) (mailNumberOffset : Nat) :
    Except Fault (Std.TreeMap Nat Nat) :=
  s.lengthsFrom fs mailNumberOffset 0 s.emails.length ∅

/-- The reading half of `getEmail`, for the file it has selected. -/
def readEmail (fs : FileSystem) (path : Path) : Except Fault (Except MailboxOperationError Bytes) :=
  match fs.file_size path with
  | none => .error .filesystemError
  | some _ =>
    match fs.ifstream path with
    | none => .ok (.error .InternalError)
    | some content => .ok (.ok content)

def getEmail (fs : FileSystem) (s : FileSystemMailStorage) (emailNumber : Nat) :
    Except Fault (Except MailboxOperationError Bytes) :=
  if s.isMailMarkedAsDeleted emailNumber then .ok (.error .MailIsMarkedAsDeleted)
  else
    match s.emailAt emailNumber with
    | .ok path => readEmail fs path
    | .error fault => .error fault

/-- `~FileSystemMailStorage`: the files it calls `std::filesystem::remove` on. -/
def destroy (s : FileSystemMailStorage) : Except Fault (List Path) :=
  if s.updateAtClose then s.emailsToBeDeleted.mapM s.emailAt else .ok []

end FileSystemMailStorage

/-- The option loop of `FileSystemStorageFactory::create`: the last option called
`path` wins, and a numeric one throws. -/
def optionPath : List StorageOption → Path → Except Fault Path
  | [], path => .ok path
  | option :: rest, path =>
    if CompactString.ofView _ (ascii "path") = .ok option.name then
      match option.value with
      | .string s => optionPath rest s
      | _ => .error .badVariantAccess
    else optionPath rest path

/-- The directory `FileSystemStorageFactory::create` opens. -/
def storagePath (defaultPath : Path) (info : MailStorageInfo) (name : Bytes) : Except Fault Path := do
  let path ← optionPath info.options []
  return if path.isEmpty then Path.append defaultPath name else path

/-- `FileSystemStorageFactory::create`. -/
def FileSystemStorageFactory.create (fs : FileSystem) (defaultPath : Path) (info : MailStorageInfo)
    (name : Bytes) : Except Fault FileSystemMailStorage := do
  let path ← storagePath defaultPath info name
  if !(← filesystemCall (fs.pathExists path)) then
    if !(← filesystemCall (fs.create_directory path)) then throw .createFailed
  let emails ← filesystemCall (fs.regular_files path)
  return { emails }

end Pop3Serv.Mail
