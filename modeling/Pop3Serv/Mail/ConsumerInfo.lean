import Pop3Serv.Proto.Bytes

/-!
# Consumer records and the account cache

`Enums.h`, `compact_string.h` and the part of `ConsumerInfo.h` a login uses:
the record types, the conversions of what a client sends to the key types, and
the cached set of records. `std::hash<std::string_view>` is the parameter
`hash`.
-/

namespace Pop3Serv.Mail

/-- `enum class StorageType`. A record read from a file may hold any other number,
cast to the enumeration without a check. -/
inductive StorageType where
  | Undefined
  | FileSystemMailStorage
  | unnamed (value : UInt32) (past : 1 < value)
  deriving DecidableEq, Repr

/-- `static_cast<unsigned int>` of a storage type. -/
def StorageType.code : StorageType → UInt32
  | .Undefined => 0
  | .FileSystemMailStorage => 1
  | .unnamed value _ => value

/-- `static_cast<StorageType>` of a number. -/
def StorageType.ofCode (n : UInt32) : StorageType :=
  if past : 1 < n then .unnamed n past else if n = 0 then .Undefined else .FileSystemMailStorage

@[simp] theorem StorageType.ofCode_code (t : StorageType) : ofCode t.code = t := by
  cases t with
  | Undefined => rfl
  | FileSystemMailStorage => rfl
  | unnamed value past => exact dif_pos past

inductive AuthError where
  | NoSuchConsumer | InvalidPassword | ConsumerHasNoAssociatedMailStorage
  deriving DecidableEq, Repr

/-- `operator<<(std::ostream&, const AuthError&)`. -/
def AuthError.text : AuthError → Bytes
  | .NoSuchConsumer => ascii "sorry, no mailbox for such user here"
  | .InvalidPassword => ascii "invalid password"
  | .ConsumerHasNoAssociatedMailStorage =>
    ascii "login and password are corrent, however default mail storage is not set for this user"

inductive MailboxOperationError where
  | NoError | MailboxAlreadyExists | MailboxIsBusy | MailboxNotExist | MailboxCreateError
  | EmailNotFound | UserStoragesInstantinationFailure | EmailAlreadyDeleted
  | MailIsMarkedAsDeleted | InternalError
  deriving DecidableEq, Repr

/-- `compact_string::string<Size>`: a character array of fixed size. -/
structure CompactString (size : Nat) where
  charArray : Bytes
  size_eq : charArray.length = size
  deriving DecidableEq

/-- `string(std::string_view)` and `operator=(std::string_view)`: the bytes, filled up
with NULs; the last place is kept for a terminator. -/
def CompactString.ofView (size : Nat) (sv : Bytes) : Except Fault (CompactString size) :=
  if h : sv.length ≤ size - 1 then
    .ok ⟨sv ++ List.replicate (size - sv.length) 0, by simp; omega⟩
  else .error .outOfRange

/-- What `c_str()` reads is what the string was made of, up to its first NUL. -/
theorem CompactString.cstr_charArray {size : Nat} {sv : Bytes} {s : CompactString size}
    (made : ofView size sv = .ok s) : cstr s.charArray = cstr sv := by
  unfold ofView at made
  split at made
  · rw [← Except.ok.inj made]
    exact cstr_append_nuls sv _
  · cases made

/-- Two texts without a NUL are kept as one string only if they are the same. -/
theorem CompactString.ofView_injective {size : Nat} {a b : Bytes} {s : CompactString size}
    (made : ofView size a = .ok s) (made' : ofView size b = .ok s) (clean : (0 : UInt8) ∉ a)
    (clean' : (0 : UInt8) ∉ b) : a = b := by
  rw [← cstr_of_noNul clean, ← cstr_of_noNul clean', ← cstr_charArray made, ← cstr_charArray made']

/-- `length` of a C string literal. -/
def length (str : Bytes) : Nat := (cstr str).length

/-- `getMaximumOptionName` over its table of option names. -/
def getMaximumOptionName (options : List Bytes) : Nat :=
  options.foldl (fun maximum option =>
    if length option > maximum then length option + 1 else maximum) 0

/-- The table in `getMaximumOptionName`. -/
def declaredOptions : List Bytes := [ascii "path"]

/-- `Option::name_type`. -/
abbrev OptionName := CompactString (getMaximumOptionName declaredOptions)

/-- `std::variant<std::monostate, unsigned int, std::string>`. -/
inductive OptionValue where
  | monostate
  | uint (n : UInt32)
  | string (s : Bytes)
  deriving DecidableEq, Repr

/-- `struct Option`. -/
structure StorageOption where
  name : OptionName
  value : OptionValue
  deriving DecidableEq

def MAX_OPTIONS_COUNT : Nat := 2

/-- `struct MailStorageInfo`: `options` holds the first `count` entries of the array. -/
structure MailStorageInfo where
  storageType : StorageType
  options : List StorageOption := []
  count_le : options.length ≤ MAX_OPTIONS_COUNT := by decide
  deriving DecidableEq

def MailStorageInfo.count (info : MailStorageInfo) : Nat := info.options.length

def MAILBOX_NAME_MAX_LEN : Nat := 32

def PASSWORD_MAX_LEN : Nat := 32

/-- The types a record's name or password is kept as: a `compact_string`, or the
hash of the bytes (`std::is_integral_v`). -/
inductive KeyType where
  | compactString (size : Nat)
  | hashed
  deriving DecidableEq, Repr

abbrev KeyType.Value : KeyType → Type
  | .compactString size => CompactString size
  | .hashed => UInt64

instance (k : KeyType) : DecidableEq k.Value :=
  match k with
  | .compactString size => inferInstanceAs (DecidableEq (CompactString size))
  | .hashed => inferInstanceAs (DecidableEq UInt64)

/-- `compact_string_converter` and `string_view_hash_converter`. -/
def KeyType.convert (hash : Bytes → UInt64) : (k : KeyType) → Bytes → Except Fault k.Value
  | .compactString size, sv => CompactString.ofView size sv
  | .hashed, sv => .ok (hash sv)

/-- `ConsumerInfo<NameType, PasswordType>`. -/
structure ConsumerInfo (NameType PasswordType : KeyType) where
  name : NameType.Value
  password : PasswordType.Value
  storages : List MailStorageInfo

/-- Both mailbox name and password are presented as strings. -/
abbrev BothStringConsumerInfo :=
  ConsumerInfo (.compactString MAILBOX_NAME_MAX_LEN) (.compactString PASSWORD_MAX_LEN)

/-- The account `u` with the password `p`. -/
def accountU : BothStringConsumerInfo where
  name := ⟨ascii "u" ++ List.replicate 31 0, rfl⟩
  password := ⟨ascii "p" ++ List.replicate 31 0, rfl⟩
  storages := []

abbrev HashedNameConsumerInfo := ConsumerInfo .hashed (.compactString PASSWORD_MAX_LEN)

abbrev HashedPasswordConsumerInfo := ConsumerInfo (.compactString MAILBOX_NAME_MAX_LEN) .hashed

/-- Both mailbox name and password are hashes. -/
abbrev BothNumericConsumerInfo := ConsumerInfo .hashed .hashed

variable {NameType PasswordType : KeyType}

/-- `cachedConsumerInfos`: a `std::set` ordered by name, so one record a name. -/
structure ConsumerCache (NameType PasswordType : KeyType) where
  cachedConsumerInfos : List (ConsumerInfo NameType PasswordType) := []
  distinct : (cachedConsumerInfos.map (·.name)).Nodup := by decide

/-- `FileSystemConsumerInfoStorage::getConsumerInfo`. -/
def ConsumerCache.getConsumerInfo (cache : ConsumerCache NameType PasswordType)
    (userName : NameType.Value) : Option (ConsumerInfo NameType PasswordType) :=
  cache.cachedConsumerInfos.find? fun info => info.name = userName

/-- `FileSystemConsumerInfoStorage::hasMailbox`. -/
def ConsumerCache.hasMailbox (cache : ConsumerCache NameType PasswordType)
    (userName : NameType.Value) : Bool :=
  (cache.getConsumerInfo userName).isSome

theorem ConsumerCache.getConsumerInfo_mem {cache : ConsumerCache NameType PasswordType}
    {userName : NameType.Value} {info : ConsumerInfo NameType PasswordType}
    (h : cache.getConsumerInfo userName = some info) :
    info ∈ cache.cachedConsumerInfos ∧ info.name = userName :=
  ⟨List.mem_of_find?_eq_some h, by simpa using List.find?_some h⟩

/-- The one-record-a-name invariant makes the lookup complete. -/
theorem ConsumerCache.getConsumerInfo_of_mem {cache : ConsumerCache NameType PasswordType}
    {info : ConsumerInfo NameType PasswordType} (h : info ∈ cache.cachedConsumerInfos) :
    cache.getConsumerInfo info.name = some info := by
  cases found : cache.getConsumerInfo info.name with
  | none =>
    have := List.find?_eq_none.mp found info h
    simp at this
  | some other =>
    obtain ⟨member, same⟩ := ConsumerCache.getConsumerInfo_mem found
    rw [List.inj_on_of_nodup_map cache.distinct member h same]

end Pop3Serv.Mail
