import Pop3Serv.Mail.Login

/-!
# Account files

The other part of `ConsumerInfo.h`: how records are built, and how they are written
to a file and read back. RapidJSON is outside the repository: its writer and its
parser, between a document and a text, are the parameters `write` and `parse`. What
the program tells the writer and asks of a parsed document is here.
-/

namespace Pop3Serv.Mail

/-- A document as RapidJSON holds it: members in their order, duplicates kept. Of the numbers,
those `IsUint64` holds of are told apart. -/
inductive Json where
  | null
  | bool (b : Bool)
  | uint (n : UInt64)
  | otherNumber
  | string (s : Bytes)
  | array (elements : List Json)
  | object (members : List (Bytes × Json))

namespace Json

/-- `GetString`, read as a C string. -/
def GetString : Json → Except Fault Bytes
  | .string s => .ok (cstr s)
  | _ => .error .jsonType

def GetUint : Json → Except Fault UInt32
  | .uint n => if n.toNat < 2 ^ 32 then .ok n.toUInt32 else .error .jsonType
  | _ => .error .jsonType

/-- The members of an object, as `HasMember`, `operator[]` and `MemberBegin` ask for them. -/
def members : Json → Except Fault (List (Bytes × Json))
  | .object members => .ok members
  | _ => .error .jsonType

end Json

/-- `FindMember`: the first member of that name. -/
def findMember (members : List (Bytes × Json)) (name : Bytes) : Option Json :=
  (members.find? fun member => member.1 = name).map (·.2)

/-! ## Records -/

/-- `MailStorageInfo::addOption`: an option past the limit is dropped. -/
def MailStorageInfo.addOption (info : MailStorageInfo) (name : Bytes) (value : OptionValue) :
    Except Fault MailStorageInfo :=
  if free : info.options.length < MAX_OPTIONS_COUNT then
    match CompactString.ofView _ name with
    | .ok name =>
      .ok { info with options := info.options ++ [⟨name, value⟩], count_le := by rw [List.length_append]; exact free }
    | .error fault => .error fault
  else .ok info

variable {NameType PasswordType : KeyType}

/-- `ConsumerInfo::addStorage`; the maps by their entries in order. -/
def ConsumerInfo.addStorage (x : ConsumerInfo NameType PasswordType) (type : StorageType)
    (string_options : List (Bytes × Bytes)) (numeric_options : List (Bytes × UInt32)) :
    Except Fault (ConsumerInfo NameType PasswordType) := do
  let obj : MailStorageInfo := { storageType := type, count_le := Nat.zero_le _ }
  let obj ← string_options.foldlM (fun obj p => obj.addOption p.1 (.string p.2)) obj
  let obj ← numeric_options.foldlM (fun obj p => obj.addOption p.1 (.uint p.2)) obj
  return { x with storages := x.storages ++ [obj] }

/-- The string was made of a text, by a constructor or an assignment. -/
def CompactString.Made {size : Nat} (s : CompactString size) : Prop := ∃ sv, ofView size sv = .ok s

/-- What a name or a password can be. -/
def KeyType.Made : (k : KeyType) → k.Value → Prop
  | .compactString _, s => CompactString.Made s
  | .hashed, _ => True

/-- The records that the constructors and `addStorage` build. -/
inductive ConsumerInfo.Built : ConsumerInfo NameType PasswordType → Prop
  | construct (name : NameType.Value) (password : PasswordType.Value) (madeName : NameType.Made name)
      (madePassword : PasswordType.Made password) : Built { name, password, storages := [] }
  | addStorage {x y : ConsumerInfo NameType PasswordType} (built : Built x) (type : StorageType)
      (string_options : List (Bytes × Bytes)) (numeric_options : List (Bytes × UInt32))
      (added : x.addStorage type string_options numeric_options = .ok y) : Built y

/-! ## Writing -/

/-- One option in `MailStorageInfo::Serialize`, a member of the storage's object. -/
def StorageOption.Serialize (option : StorageOption) : Except Fault (Bytes × Json) :=
  match option.value with
  | .uint n => .ok (cstr option.name.charArray, .uint n.toUInt64)
  | .string s => .ok (cstr option.name.charArray, .string (cstr s))
  | .monostate => .error .badVariantAccess

/-- `MailStorageInfo::Serialize`. -/
def MailStorageInfo.Serialize (info : MailStorageInfo) : Except Fault Json := do
  let options ← info.options.mapM (·.Serialize)
  return .object ((ascii "type", .uint info.storageType.code.toUInt64) :: options)

/-- `Uint64` for a hash, `String` for a `compact_string`. -/
def KeyType.Serialize : (k : KeyType) → k.Value → Json
  | .compactString _, s => .string (cstr s.charArray)
  | .hashed, n => .uint n

/-- `ConsumerInfo::Serialize(Writer&)`: the document the writer is told. -/
def ConsumerInfo.document (x : ConsumerInfo NameType PasswordType) : Except Fault Json := do
  let storages ← x.storages.mapM (·.Serialize)
  return .object
    [(ascii "name", NameType.Serialize x.name), (ascii "password", PasswordType.Serialize x.password),
      (ascii "storages", .array storages)]

/-- `ConsumerInfo::Serialize`: the string is made of `sb.GetString()`. -/
def ConsumerInfo.Serialize (write : Json → Bytes) (x : ConsumerInfo NameType PasswordType) :
    Except Fault Bytes := do
  return cstr (write (← x.document))

/-! ## Reading -/

/-- One member in `MailStorageInfo::Deserialize`. -/
def MailStorageInfo.readMember (info : MailStorageInfo) (member : Bytes × Json) :
    Except Fault MailStorageInfo :=
  let membName := cstr member.1
  if membName = ascii "type" then do
    return { info with storageType := .ofCode (← member.2.GetUint) }
  else
    match member.2 with
    | .string s => info.addOption membName (.string (cstr s))
    | .uint n => do info.addOption membName (.uint (← (Json.uint n).GetUint))
    | .otherNumber => .error .jsonType
    | _ => .ok info

/-- `MailStorageInfo::Deserialize`. -/
def MailStorageInfo.Deserialize (obj : Json) : Except Fault MailStorageInfo := do
  (← obj.members).foldlM readMember { storageType := .Undefined, count_le := Nat.zero_le _ }

/-- The value of a name or password member; none if it should be a number and is not. -/
def KeyType.Deserialize : (k : KeyType) → Json → Except Fault (Option k.Value)
  | .compactString size, value => do return some (← CompactString.ofView size (← value.GetString))
  | .hashed, .uint n => .ok (some n)
  | .hashed, _ => .ok none

/-- The storages of a record: none if the member is missing or is no array. -/
def readStorages (members : List (Bytes × Json)) : Except Fault (List MailStorageInfo) :=
  match findMember members (ascii "storages") with
  | some (.array stores) => stores.mapM MailStorageInfo.Deserialize
  | _ => .ok []

/-- `ConsumerInfo::Deserialize(const rapidjson::Value&)`. -/
def ConsumerInfo.ofDocument (obj : Json) : Except Fault (Option (ConsumerInfo NameType PasswordType)) := do
  let members ← obj.members
  match findMember members (ascii "name"), findMember members (ascii "password") with
  | some nameMember, some passwordMember =>
    match ← NameType.Deserialize nameMember with
    | none => return none
    | some name =>
      match ← PasswordType.Deserialize passwordMember with
      | none => return none
      | some password => return some { name, password, storages := ← readStorages members }
  | _, _ => return none

/-- `ConsumerInfo::Deserialize(std::string_view)`: the parser reads the buffer as a C string. -/
def ConsumerInfo.Deserialize (parse : Bytes → Option Json) (jsonString : Bytes) :
    Except Fault (Option (ConsumerInfo NameType PasswordType)) :=
  match parse (cstr jsonString) with
  | some document => ofDocument document
  | none => .ok none

end Pop3Serv.Mail
