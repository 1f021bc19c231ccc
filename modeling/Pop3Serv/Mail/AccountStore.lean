import Pop3Serv.Mail.AccountRoundTrip
import Pop3Serv.Mail.Storage

/-!
# The storage of accounts

`FileSystemConsumerInfoStorage`: a directory with one file an account, and the cache
of what is in it. The file system is a map from places, the normalised paths, to
contents; a place can be opened for writing if it is no directory, is in one, and the
process may write there. An existing file that is opened is cut to nothing first.
-/

namespace Pop3Serv.Mail

/-- A normalised path: its components, from the root on. -/
abbrev Place := List Bytes

/-- One more component of a path: `..` goes back, and an empty one and `.` stay. -/
def Place.enter (place : Place) (component : Bytes) : Place :=
  if component = [] ∨ component = ascii "." then place
  else if component = ascii ".." then place.dropLast
  else place ++ [component]

/-- The file system, with what does not change while accounts are added. -/
structure Disk where
  cwd : Place
  directory : Place → Bool
  closed : ∀ place, directory place = true → directory place.dropLast = true
  writable : Place → Bool
  files : AList fun _ : Place => Bytes

namespace Disk

/-- The place a path leads to. -/
def resolve (disk : Disk) (path : Path) : Place :=
  (path.splitOn slash).foldl Place.enter (if path.head? = some slash then [] else disk.cwd)

/-- `std::ofstream` opens the place. -/
def opens (disk : Disk) (place : Place) : Bool :=
  !disk.directory place && disk.directory place.dropLast && disk.writable place

def write (disk : Disk) (place : Place) (content : Bytes) : Disk :=
  { disk with files := disk.files.insert place content }

/-- The contents of the regular files a `directory_iterator` finds. -/
def regularFiles (disk : Disk) (directory : Place) : List Bytes :=
  (disk.files.entries.filter fun file => file.1 ≠ [] ∧ file.1.dropLast = directory).map (·.2)

end Disk

variable {NameType PasswordType : KeyType}

/-- `ConsumerInfo::SerializeToFile`. -/
def ConsumerInfo.SerializeToFile (write : Json → Bytes) (x : ConsumerInfo NameType PasswordType)
    (disk : Disk) (filepath : Path) : Except Fault Bool × Disk :=
  let place := disk.resolve filepath
  if disk.opens place then
    let disk := disk.write place []
    match x.Serialize write with
    | .error fault => (.error fault, disk)
    | .ok jsonString => if jsonString.isEmpty then (.ok false, disk) else (.ok true, disk.write place jsonString)
  else (.ok false, disk)

/-- The name as a file name: `std::to_string` of a hash, or the C string. -/
def KeyType.filename : (k : KeyType) → k.Value → Bytes
  | .compactString _, s => cstr s.charArray
  | .hashed, n => decimal n.toNat

def ConsumerCache.empty : ConsumerCache NameType PasswordType :=
  { cachedConsumerInfos := [], distinct := List.nodup_nil }

theorem ConsumerCache.distinct_append {cache : ConsumerCache NameType PasswordType}
    {info : ConsumerInfo NameType PasswordType} (missing : cache.getConsumerInfo info.name = none) :
    ((cache.cachedConsumerInfos ++ [info]).map (·.name)).Nodup := by
  rw [List.map_append, List.map_singleton, List.nodup_append']
  refine ⟨cache.distinct, List.nodup_singleton _, ?_⟩
  rw [List.disjoint_singleton]
  intro member
  obtain ⟨other, there, same⟩ := List.mem_map.mp member
  exact absurd same (by simpa using List.find?_eq_none.mp missing other there)

/-- `std::set::insert`: what is there stays. -/
def ConsumerCache.insert (cache : ConsumerCache NameType PasswordType)
    (info : ConsumerInfo NameType PasswordType) : ConsumerCache NameType PasswordType :=
  match missing : cache.getConsumerInfo info.name with
  | none => ⟨cache.cachedConsumerInfos ++ [info], ConsumerCache.distinct_append missing⟩
  | some _ => cache

/-- `FileSystemConsumerInfoStorage`, with the file system it is on. -/
structure FileSystemConsumerInfoStorage (NameType PasswordType : KeyType) where
  path_to_storage : Path
  cache : ConsumerCache NameType PasswordType
  disk : Disk

namespace FileSystemConsumerInfoStorage

variable (st : FileSystemConsumerInfoStorage NameType PasswordType)

/-- The storage directory. -/
def place : Place := st.disk.resolve st.path_to_storage

/-- The file of an account: `path_to_storage / filename`. -/
def filepath (name : NameType.Value) : Path := Path.append st.path_to_storage (NameType.filename name)

/-- `addConsumerInfo`: what it returns, and the storage after it. -/
def addConsumerInfo (write : Json → Bytes) (info : ConsumerInfo NameType PasswordType) :
    Except Fault Bool × FileSystemConsumerInfoStorage NameType PasswordType :=
  if st.cache.hasMailbox info.name then (.ok false, st)
  else
    let (result, disk) := info.SerializeToFile write st.disk (st.filepath info.name)
    match result with
    | .ok true => (result, { st with cache := st.cache.insert info, disk })
    | _ => (result, { st with disk })

/-- One file in the loop of `refresh`. -/
def readFile (parse : Bytes → Option Json) (cache : ConsumerCache NameType PasswordType) (content : Bytes) :
    Except Fault (ConsumerCache NameType PasswordType) := do
  match ← ConsumerInfo.Deserialize parse content with
  | some info => return cache.insert info
  | none => return cache

/-- `refresh`: a `directory_iterator` throws on what is no directory. -/
def refresh (parse : Bytes → Option Json) : Except Fault (FileSystemConsumerInfoStorage NameType PasswordType) :=
  if st.disk.directory st.place then do
    return { st with cache := ← (st.disk.regularFiles st.place).foldlM (readFile parse) .empty }
  else .error .filesystemError

/-- The constructor. -/
def construct (parse : Bytes → Option Json) (path : Path) (disk : Disk) :
    Except Fault (FileSystemConsumerInfoStorage NameType PasswordType) :=
  refresh { path_to_storage := path, cache := .empty, disk } parse

/-- The storage after a sequence of `addConsumerInfo`. -/
def addAll (write : Json → Bytes) (infos : List (ConsumerInfo NameType PasswordType)) :
    FileSystemConsumerInfoStorage NameType PasswordType :=
  infos.foldl (fun st info => (st.addConsumerInfo write info).2) st

/-- The call gets to write its file: no record of the name is cached, and the file opens. -/
def Writes (info : ConsumerInfo NameType PasswordType) : Prop :=
  st.cache.hasMailbox info.name = false ∧ st.disk.opens (st.disk.resolve (st.filepath info.name)) = true

end FileSystemConsumerInfoStorage

/-- The names in `cachedConsumerInfos`. -/
def ConsumerCache.names (cache : ConsumerCache NameType PasswordType) : List NameType.Value :=
  cache.cachedConsumerInfos.map (·.name)

/-- The content is read as a record of the name. -/
def ReadAs (PasswordType : KeyType) (parse : Bytes → Option Json) (content : Bytes) (name : NameType.Value) :
    Prop :=
  ∃ r : ConsumerInfo NameType PasswordType, ConsumerInfo.Deserialize parse content = .ok (some r) ∧ r.name = name

/-- A regular file of the storage directory is read as a record of the name. -/
def FileSystemConsumerInfoStorage.OnDisk (st : FileSystemConsumerInfoStorage NameType PasswordType)
    (parse : Bytes → Option Json) (name : NameType.Value) : Prop :=
  ∃ content ∈ st.disk.regularFiles st.place, ReadAs PasswordType parse content name

/-! ## Files of a directory -/

namespace Disk

variable {disk : Disk} {dir : Place}

theorem mem_regularFiles {content : Bytes} :
    content ∈ disk.regularFiles dir ↔ ∃ name, disk.files.lookup (dir ++ [name]) = some content := by
  have entry : ∀ place : Place, (place ≠ [] ∧ place.dropLast = dir) ↔ ∃ name, place = dir ++ [name] := by
    intro place
    constructor
    · rintro ⟨nonempty, rfl⟩
      exact ⟨_, (List.dropLast_append_getLast nonempty).symm⟩
    · rintro ⟨name, rfl⟩
      simp
  unfold regularFiles
  simp only [List.mem_map, List.mem_filter, decide_eq_true_eq, entry]
  constructor
  · rintro ⟨⟨place, bytes⟩, ⟨member, name, rfl⟩, rfl⟩
    exact ⟨name, AList.mem_lookup_iff.mpr member⟩
  · rintro ⟨name, found⟩
    exact ⟨⟨_, content⟩, ⟨AList.mem_lookup_iff.mp found, name, rfl⟩, rfl⟩

/-- A new file leaves the others. -/
theorem lookup_write_free {place other : Place} {content old : Bytes} (free : disk.files.lookup place = none)
    (found : disk.files.lookup other = some old) : (disk.write place content).files.lookup other = some old := by
  refine (AList.lookup_insert_ne ?_).trans found
  rintro rfl
  cases free.symm.trans found

/-- What follows the last slash is the last component. -/
theorem resolve_slash (disk : Disk) (front : Path) {name : Bytes} (plain : slash ∉ name) :
    disk.resolve (front ++ slash :: name) = Place.enter (disk.resolve (front ++ [slash])) name := by
  have start : (front ++ slash :: name).head? = (front ++ [slash]).head? := by
    cases front with
    | nil => rfl
    | cons b front => rfl
  unfold resolve
  rw [start, List.splitOn_append_cons_self, List.splitOn_append_cons_self, List.splitOn_eq_singleton plain,
    List.splitOn_nil, List.foldl_append, List.foldl_append]
  rfl

/-- A slash at the end of a path makes no difference. -/
theorem resolve_concat_slash (disk : Disk) {path : Path} (nonempty : path ≠ []) :
    disk.resolve (path ++ [slash]) = disk.resolve path := by
  unfold resolve
  rw [List.head?_append_of_ne_nil _ nonempty, List.splitOn_append_cons_self, List.splitOn_nil, List.foldl_append]
  rfl

/-- A name without a slash is one component more. -/
theorem resolve_append (disk : Disk) (path : Path) {name : Bytes} (plain : slash ∉ name) :
    disk.resolve (Path.append path name) = Place.enter (disk.resolve path) name := by
  have relative : name.head? ≠ some slash := fun first => plain (List.mem_of_head? first)
  have single : name.splitOn slash = [name] := List.splitOn_eq_singleton plain
  unfold Path.append
  rw [if_neg relative]
  by_cases empty : path = []
  · subst empty
    rw [if_pos (.inl rfl), List.nil_append, resolve, single, if_neg relative]
    rfl
  · by_cases ends : path.getLast? = some slash
    · obtain ⟨front, rfl⟩ := List.getLast?_eq_some_iff.mp ends
      rw [if_pos (.inr ends), List.append_assoc]
      exact resolve_slash disk front plain
    · rw [if_neg (by simp [empty, ends]), List.append_assoc, ← resolve_concat_slash disk empty]
      exact resolve_slash disk path plain

/-- A name that opens as a file, from a directory on, is one in that directory. -/
theorem enter_of_opens (directory : disk.directory dir = true) {name : Bytes}
    (opens : disk.opens (Place.enter dir name) = true) : Place.enter dir name = dir ++ [name] := by
  have notDirectory : disk.directory (Place.enter dir name) = false := by
    simp only [Disk.opens, Bool.and_eq_true, Bool.not_eq_true'] at opens
    exact opens.1.1
  unfold Place.enter at notDirectory ⊢
  split
  · rename_i stays
    rw [if_pos stays, directory] at notDirectory
    cases notDirectory
  · rename_i moves
    rw [if_neg moves] at notDirectory
    split
    · rename_i back
      rw [if_pos back, disk.closed dir directory] at notDirectory
      cases notDirectory
    · rfl

end Disk

/-! ## Names of files -/

/-- The name is one component, and the only one that gives this file name. -/
def KeyType.NamesFile : (k : KeyType) → k.Value → Prop
  | .compactString _, s => s.Plain ∧ slash ∉ cstr s.charArray
  | .hashed, _ => True

theorem KeyType.NamesFile.plain {k : KeyType} {v : k.Value} (names : k.NamesFile v) : k.Plain v := by
  cases k with
  | compactString size => exact names.1
  | hashed => trivial

theorem KeyType.NamesFile.slash_notMem {k : KeyType} {v : k.Value} (names : k.NamesFile v) :
    slash ∉ k.filename v := by
  cases k with
  | compactString size => exact names.2
  | hashed =>
    intro member
    have := (mem_decimal member).1
    simp [slash] at this

/-- **Plain names have files of their own.** -/
theorem KeyType.filename_injective {k : KeyType} {v w : k.Value} (plain : k.Plain v) (plain' : k.Plain w)
    (same : k.filename v = k.filename w) : v = w := by
  cases k with
  | compactString size =>
    obtain ⟨charArray, size_eq⟩ := v
    obtain ⟨charArray', size_eq'⟩ := w
    have text : cstr charArray = cstr charArray' := same
    have full : charArray = charArray' := by
      rw [show charArray = _ from plain, show charArray' = _ from plain']
      show cstr charArray ++ List.replicate (size - (cstr charArray).length) 0 = _
      rw [text]
    cases full
    rfl
  | hashed => exact UInt64.toNat_inj.mp (decimal_injective same)

end Pop3Serv.Mail
