import Pop3Serv.Mail.AccountStore

/-!
# The cache of accounts and their directory

A name is kept as a key and used as a file name. For a hash both are the number;
for a string the file name is a path, of the text before the first NUL. So the cache
and the directory say the same (`Filed`) as long as each name that gets to be a file
is one component and nothing but NULs follows it, and the file can be read back, which
a string option called `type` prevents.
-/

namespace Pop3Serv.Mail

/-! ## Reading the name back -/

/-- Every option called `type` is a number. -/
def MailStorageInfo.TypesAreNumbers (info : MailStorageInfo) : Prop :=
  ∀ o ∈ info.options, cstr o.name.charArray = ascii "type" → ∃ n, o.value = .uint n

theorem MailStorageInfo.readMembers_returns {os : List StorageOption} {members : List (Bytes × Json)}
    (made : ∀ o ∈ os, o.Made)
    (numbers : ∀ o ∈ os, cstr o.name.charArray = ascii "type" → ∃ n, o.value = .uint n)
    (written : List.Forall₂ (fun o member => o.Serialize = .ok member) os members) (info : MailStorageInfo) :
    ∃ info', members.foldlM readMember info = .ok info' := by
  induction written generalizing info with
  | nil => exact ⟨info, rfl⟩
  | @cons o member os members first rest ih =>
    rw [List.forall_mem_cons] at made numbers
    obtain ⟨info₁, read⟩ : ∃ info₁, info.readMember member = .ok info₁ := by
      by_cases isType : cstr o.name.charArray = ascii "type"
      · obtain ⟨n, number⟩ := numbers.1 isType
        rcases StorageOption.reread_type first isType info with ⟨_, _, read⟩ | ⟨⟨s, text⟩, _⟩
        · exact ⟨_, read⟩
        · cases number.symm.trans text
      · obtain ⟨_, _, reread⟩ := made.1.reread isType first
        obtain ⟨info₁, read, _⟩ := reread info
        exact ⟨info₁, read⟩
    rw [List.foldlM_cons, read]
    exact ih made.2 numbers.2 info₁

theorem MailStorageInfo.reread_returns {info : MailStorageInfo} (made : ∀ o ∈ info.options, o.Made)
    (numbers : info.TypesAreNumbers) {j : Json} (written : info.Serialize = .ok j) :
    ∃ info', MailStorageInfo.Deserialize j = .ok info' := by
  obtain ⟨members, options, written⟩ := bind_ok written
  cases written
  rw [Deserialize_written]
  exact readMembers_returns made numbers (mapM_ok_iff.mp options) _

variable {NameType PasswordType : KeyType}

/-- A record whose file is its own and can be read back. -/
structure ConsumerInfo.Filable (x : ConsumerInfo NameType PasswordType) : Prop where
  name : NameType.NamesFile x.name
  types : ∀ storage ∈ x.storages, storage.TypesAreNumbers

theorem ConsumerInfo.Filable.readAs {write : Json → Bytes} {parse : Bytes → Option Json}
    {x : ConsumerInfo NameType PasswordType} (filable : x.Filable) (made : x.Made) {document : Json}
    (written : x.document = .ok document) (rapid : RapidJSON write parse document) :
    ReadAs PasswordType parse (cstr (write document)) x.name := by
  obtain ⟨name, nameRead, sameName⟩ := made.name.reread
  obtain ⟨password, passwordRead, _⟩ := made.password.reread
  obtain ⟨stores, storages, read⟩ := ofDocument_written written nameRead passwordRead
  obtain ⟨infos', reads⟩ : ∃ infos', stores.mapM MailStorageInfo.Deserialize = .ok infos' := by
    refine mapM_returns fun j member => ?_
    obtain ⟨storage, own, written⟩ := mapM_made storages j member
    exact MailStorageInfo.reread_returns (made.options storage own) (filable.types storage own) written
  refine ⟨⟨name, password, infos'⟩, ?_, sameName.mpr filable.name.plain⟩
  rw [Deserialize_text rapid, read, reads]
  rfl

/-- A file that opens gets the whole text. -/
theorem ConsumerInfo.SerializeToFile_opens {write : Json → Bytes} {parse : Bytes → Option Json}
    {x : ConsumerInfo NameType PasswordType} {document : Json} (written : x.document = .ok document)
    (rapid : RapidJSON write parse document) {disk : Disk} {filepath : Path}
    (opens : disk.opens (disk.resolve filepath) = true) :
    x.SerializeToFile write disk filepath =
      (.ok true, disk.write (disk.resolve filepath) (cstr (write document))) := by
  have text : x.Serialize write = .ok (cstr (write document)) := by
    rw [Serialize, written]
    rfl
  have nonempty : (cstr (write document)).isEmpty = false := by
    rw [cstr_of_noNul rapid.noNul, List.isEmpty_eq_false_iff]
    exact rapid.nonempty
  have last : (disk.write (disk.resolve filepath) []).write (disk.resolve filepath) (cstr (write document)) =
      disk.write (disk.resolve filepath) (cstr (write document)) := by
    unfold Disk.write
    rw [AList.insert_insert]
  unfold SerializeToFile
  simp only [opens, if_true, text, nonempty, Bool.false_eq_true, if_false, last]

/-! ## The cache -/

theorem ConsumerCache.hasMailbox_iff {cache : ConsumerCache NameType PasswordType} {name : NameType.Value} :
    cache.hasMailbox name = true ↔ name ∈ cache.names := by
  unfold hasMailbox getConsumerInfo names
  simp [List.mem_map]

theorem ConsumerCache.mem_names_insert {cache : ConsumerCache NameType PasswordType}
    {info : ConsumerInfo NameType PasswordType} {name : NameType.Value} :
    name ∈ (cache.insert info).names ↔ name ∈ cache.names ∨ name = info.name := by
  unfold insert
  split
  · simp [names]
  · rename_i other found
    obtain ⟨member, same⟩ := getConsumerInfo_mem found
    have there : info.name ∈ cache.names := List.mem_map.mpr ⟨other, member, same⟩
    constructor
    · exact .inl
    · rintro (old | rfl)
      · exact old
      · exact there

theorem ReadAs.unique {parse : Bytes → Option Json} {content : Bytes} {name name' : NameType.Value}
    (read : ReadAs PasswordType parse content name) (read' : ReadAs PasswordType parse content name') :
    name = name' := by
  obtain ⟨r, one, rfl⟩ := read
  obtain ⟨r', other, rfl⟩ := read'
  cases one.symm.trans other
  rfl

namespace FileSystemConsumerInfoStorage

/-- If each file can be read as a record, the loop of `refresh` ends, with their names. -/
theorem readFiles_returns {parse : Bytes → Option Json} {contents : List Bytes}
    (each : ∀ content ∈ contents, ∃ name : NameType.Value, ReadAs PasswordType parse content name)
    (cache : ConsumerCache NameType PasswordType) :
    ∃ cache', contents.foldlM (readFile parse) cache = .ok cache' ∧ ∀ name, name ∈ cache'.names ↔
      name ∈ cache.names ∨ ∃ content ∈ contents, ReadAs PasswordType parse content name := by
  induction contents generalizing cache with
  | nil => exact ⟨cache, rfl, by simp⟩
  | cons content contents ih =>
    rw [List.forall_mem_cons] at each
    obtain ⟨name, r, read, rfl⟩ := each.1
    obtain ⟨cache', rest, names⟩ := ih each.2 (cache.insert r)
    have first : readFile parse cache content = .ok (cache.insert r) := by
      unfold readFile
      rw [read]
      rfl
    refine ⟨cache', ?_, fun name => ?_⟩
    · rw [List.foldlM_cons, first]
      exact rest
    · have here : ReadAs PasswordType parse content name ↔ name = r.name :=
        ⟨fun other => other.unique ⟨r, read, rfl⟩, fun same => ⟨r, read, same.symm⟩⟩
      rw [names, ConsumerCache.mem_names_insert, List.exists_mem_cons_iff, here, or_assoc]

variable {st : FileSystemConsumerInfoStorage NameType PasswordType}

/-- If each file of the directory can be read as a record, `refresh` finds them all. -/
theorem refresh_returns {parse : Bytes → Option Json} (directory : st.disk.directory st.place = true)
    (each : ∀ content ∈ st.disk.regularFiles st.place,
      ∃ name : NameType.Value, ReadAs PasswordType parse content name) :
    ∃ again, st.refresh parse = .ok again ∧ ∀ name, name ∈ again.cache.names ↔ st.OnDisk parse name := by
  obtain ⟨cache, loop, names⟩ := readFiles_returns each .empty
  refine ⟨{ st with cache }, ?_, fun name => ?_⟩
  · unfold refresh
    rw [if_pos directory, loop]
    rfl
  · have unknown : name ∉ (ConsumerCache.empty : ConsumerCache NameType PasswordType).names := List.not_mem_nil
    exact (names name).trans (or_iff_right unknown)

/-! ## One call -/

/-- What a call does: nothing, or it fills a file and caches the record. -/
theorem addConsumerInfo_cases {write : Json → Bytes} {parse : Bytes → Option Json}
    {info : ConsumerInfo NameType PasswordType} {document : Json} (written : info.document = .ok document)
    (rapid : RapidJSON write parse document) :
    (¬ st.Writes info ∧ st.addConsumerInfo write info = (.ok false, st)) ∨
      (st.Writes info ∧ st.addConsumerInfo write info = (.ok true, { st with
        cache := st.cache.insert info
        disk := st.disk.write (st.disk.resolve (st.filepath info.name)) (cstr (write document)) })) := by
  by_cases cached : st.cache.hasMailbox info.name = true
  · refine .inl ⟨fun writes => ?_, if_pos cached⟩
    cases cached.symm.trans writes.1
  · have call : st.addConsumerInfo write info = _ := if_neg cached
    rw [Bool.not_eq_true] at cached
    by_cases opens : st.disk.opens (st.disk.resolve (st.filepath info.name)) = true
    · rw [ConsumerInfo.SerializeToFile_opens written rapid opens] at call
      exact .inr ⟨⟨cached, opens⟩, call⟩
    · have closed : info.SerializeToFile write st.disk (st.filepath info.name) = (.ok false, st.disk) := if_neg opens
      rw [closed] at call
      exact .inl ⟨fun writes => opens writes.2, call⟩

/-- A call does not throw, and what it reports as added is cached. -/
theorem addConsumerInfo_reports {write : Json → Bytes} {parse : Bytes → Option Json}
    {info : ConsumerInfo NameType PasswordType} (made : info.Made)
    (rapid : ∀ document, info.document = .ok document → RapidJSON write parse document) :
    ∃ added, (st.addConsumerInfo write info).1 = .ok added ∧
      (added = true → info.name ∈ (st.addConsumerInfo write info).2.cache.names) := by
  obtain ⟨document, written⟩ := made.written
  rcases addConsumerInfo_cases written (rapid document written) with ⟨_, call⟩ | ⟨_, call⟩
  · rw [call]
    exact ⟨false, rfl, by simp⟩
  · rw [call]
    exact ⟨true, rfl, fun _ => ConsumerCache.mem_names_insert.mpr (.inr rfl)⟩

/-- `refresh` forgets what was cached, as a restart does. -/
theorem refresh_eq_construct (parse : Bytes → Option Json) :
    st.refresh parse = construct parse st.path_to_storage st.disk := rfl

/-! ## The directory and the cache -/

/-- The cache and the directory say the same. -/
structure Filed (parse : Bytes → Option Json) (st : FileSystemConsumerInfoStorage NameType PasswordType) : Prop where
  directory : st.disk.directory st.place = true
  plain : ∀ name ∈ st.cache.names, NameType.Plain name
  cached : ∀ name ∈ st.cache.names, ∃ content,
    st.disk.files.lookup (st.place ++ [NameType.filename name]) = some content ∧
      ReadAs PasswordType parse content name
  files : ∀ filename content, st.disk.files.lookup (st.place ++ [filename]) = some content →
    ∃ name ∈ st.cache.names, NameType.filename name = filename

/-- What a call leaves as it is: every file there was; and a new one is in the directory. -/
structure Kept (st st' : FileSystemConsumerInfoStorage NameType PasswordType) : Prop where
  path : st'.path_to_storage = st.path_to_storage
  place : st'.place = st.place
  files : ∀ place content, st.disk.files.lookup place = some content → st'.disk.files.lookup place = some content
  inside : ∀ place, st'.disk.files.lookup place ≠ st.disk.files.lookup place →
    ∃ filename, place = st.place ++ [filename]

namespace Filed

variable {parse : Bytes → Option Json}

theorem readAs (filed : st.Filed parse) {content : Bytes} (file : content ∈ st.disk.regularFiles st.place) :
    ∃ name ∈ st.cache.names, ReadAs PasswordType parse content name := by
  obtain ⟨filename, found⟩ := Disk.mem_regularFiles.mp file
  obtain ⟨name, member, rfl⟩ := filed.files filename content found
  obtain ⟨content', found', read⟩ := filed.cached name member
  cases found.symm.trans found'
  exact ⟨name, member, read⟩

theorem mem_names_iff (filed : st.Filed parse) (name : NameType.Value) :
    name ∈ st.cache.names ↔ st.OnDisk parse name := by
  constructor
  · intro member
    obtain ⟨content, found, read⟩ := filed.cached name member
    exact ⟨content, Disk.mem_regularFiles.mpr ⟨_, found⟩, read⟩
  · rintro ⟨content, file, read⟩
    obtain ⟨name', member, read'⟩ := filed.readAs file
    exact read.unique read' ▸ member

/-- **A call that writes** takes a place in the directory that no file has. -/
theorem place_free (filed : st.Filed parse) {info : ConsumerInfo NameType PasswordType} (filable : info.Filable)
    (writes : st.Writes info) :
    st.disk.resolve (st.filepath info.name) = st.place ++ [NameType.filename info.name] ∧
      st.disk.files.lookup (st.place ++ [NameType.filename info.name]) = none := by
  have entered : st.disk.resolve (st.filepath info.name) = Place.enter st.place (NameType.filename info.name) :=
    Disk.resolve_append st.disk st.path_to_storage filable.name.slash_notMem
  obtain ⟨missing, opens⟩ := writes
  rw [entered] at opens ⊢
  refine ⟨Disk.enter_of_opens filed.directory opens, ?_⟩
  rw [Option.eq_none_iff_forall_ne_some]
  intro content found
  obtain ⟨name, member, same⟩ := filed.files _ content found
  have own : name = info.name := KeyType.filename_injective (filed.plain name member) filable.name.plain same
  rw [own, ← ConsumerCache.hasMailbox_iff, missing] at member
  cases member

/-- A name and its file come together. -/
theorem insert (filed : st.Filed parse) {info : ConsumerInfo NameType PasswordType} (plain : NameType.Plain info.name)
    (free : st.disk.files.lookup (st.place ++ [NameType.filename info.name]) = none) {content : Bytes}
    (read : ReadAs PasswordType parse content info.name) :
    Filed parse { st with
      cache := st.cache.insert info
      disk := st.disk.write (st.place ++ [NameType.filename info.name]) content } := by
  refine ⟨filed.directory, fun name member => ?_, fun name member => ?_, fun filename old found => ?_⟩
  · rcases ConsumerCache.mem_names_insert.mp member with cached | rfl
    · exact filed.plain name cached
    · exact plain
  · rcases ConsumerCache.mem_names_insert.mp member with cached | rfl
    · obtain ⟨old, found, read'⟩ := filed.cached name cached
      exact ⟨old, Disk.lookup_write_free free found, read'⟩
    · exact ⟨content, AList.lookup_insert _, read⟩
  · by_cases own : filename = NameType.filename info.name
    · exact ⟨info.name, ConsumerCache.mem_names_insert.mpr (.inr rfl), own.symm⟩
    · have apart : st.place ++ [filename] ≠ st.place ++ [NameType.filename info.name] := by simpa using own
      have before := (AList.lookup_insert_ne apart).symm.trans found
      obtain ⟨name, cached, same⟩ := filed.files filename old before
      exact ⟨name, ConsumerCache.mem_names_insert.mpr (.inl cached), same⟩

variable {write : Json → Bytes} {info : ConsumerInfo NameType PasswordType}

/-- **One call keeps them in step.** -/
theorem addConsumerInfo (filed : st.Filed parse) (made : info.Made)
    (rapid : ∀ document, info.document = .ok document → RapidJSON write parse document)
    (filable : st.Writes info → info.Filable) :
    (st.addConsumerInfo write info).2.Filed parse ∧ Kept st (st.addConsumerInfo write info).2 := by
  obtain ⟨document, written⟩ := made.written
  rcases addConsumerInfo_cases written (rapid document written) with ⟨_, call⟩ | ⟨writes, call⟩
  · rw [call]
    exact ⟨filed, rfl, rfl, fun _ _ found => found, fun _ changed => absurd rfl changed⟩
  · have good := filable writes
    obtain ⟨place, free⟩ := filed.place_free good writes
    rw [call, place]
    have read := good.readAs made written (rapid document written)
    refine ⟨filed.insert good.name.plain free read, rfl, rfl, fun spot content => Disk.lookup_write_free free, ?_⟩
    intro spot changed
    refine ⟨NameType.filename info.name, ?_⟩
    by_contra apart
    exact changed (AList.lookup_insert_ne apart)

end Filed

/-- Each record of the sequence whose file is written is one for it. -/
def Filables (write : Json → Bytes) (st : FileSystemConsumerInfoStorage NameType PasswordType)
    (calls : List (ConsumerInfo NameType PasswordType)) : Prop :=
  ∀ before info after, calls = before ++ info :: after → (st.addAll write before).Writes info → info.Filable

variable {write : Json → Bytes} {parse : Bytes → Option Json}

theorem construct_empty {path : Path} {disk : Disk} (empty : disk.regularFiles (disk.resolve path) = [])
    (start : construct parse path disk = .ok st) :
    st = { path_to_storage := path, cache := .empty, disk } ∧ disk.directory (disk.resolve path) = true := by
  unfold construct refresh place at start
  split at start
  · rename_i directory
    rw [empty] at start
    cases start
    exact ⟨rfl, directory⟩
  · cases start

/-- A new storage on an empty directory is in step with it. -/
theorem Filed.construct {path : Path} {disk : Disk} (empty : disk.regularFiles (disk.resolve path) = [])
    (start : construct parse path disk = .ok st) : st.Filed parse := by
  obtain ⟨rfl, directory⟩ := construct_empty empty start
  refine ⟨directory, fun name member => absurd member List.not_mem_nil,
    fun name member => absurd member List.not_mem_nil, fun filename content found => ?_⟩
  have file : content ∈ disk.regularFiles (disk.resolve path) := Disk.mem_regularFiles.mpr ⟨filename, found⟩
  rw [empty] at file
  cases file

theorem Filables.init {calls : List (ConsumerInfo NameType PasswordType)}
    {info : ConsumerInfo NameType PasswordType} (filables : Filables write st (calls ++ [info])) :
    Filables write st calls := by
  intro before r after split writes
  exact filables before r (after ++ [info]) (by rw [split]; simp) writes

/-- **A sequence of calls keeps them in step.** -/
theorem Filed.addAll {calls : List (ConsumerInfo NameType PasswordType)} (filed : st.Filed parse)
    (made : ∀ info ∈ calls, info.Made)
    (rapid : ∀ info ∈ calls, ∀ document, info.document = .ok document → RapidJSON write parse document)
    (filables : Filables write st calls) :
    (st.addAll write calls).Filed parse ∧ (st.addAll write calls).path_to_storage = st.path_to_storage ∧
      (st.addAll write calls).place = st.place := by
  induction calls using List.reverseRecOn with
  | nil => exact ⟨filed, rfl, rfl⟩
  | append_singleton calls info ih =>
    simp only [List.forall_mem_append, List.forall_mem_singleton] at made rapid
    obtain ⟨before, path, place⟩ := ih made.1 rapid.1 filables.init
    obtain ⟨after, kept⟩ := before.addConsumerInfo made.2 rapid.2 (filables calls info [] rfl)
    have last : st.addAll write (calls ++ [info]) = ((st.addAll write calls).addConsumerInfo write info).2 := by
      unfold FileSystemConsumerInfoStorage.addAll
      rw [List.foldl_append]
      rfl
    rw [last]
    exact ⟨after, kept.path.trans path, kept.place.trans place⟩

end FileSystemConsumerInfoStorage

open FileSystemConsumerInfoStorage in
/-- **The account cache and the account directory agree** after every call of every sequence of
`addConsumerInfo` on a storage that started on an empty directory, for every type of name and of
password, as long as each record whose file gets written is `Filable`: a string name has no slash
and nothing but NULs behind its first NUL, and a string option is not called `type`. No call throws, what
is reported as added is in the cache, `refresh` and a restart find the names that are cached,
no file is overwritten, and new ones are in the directory. -/
theorem account_directory_agrees {NameType PasswordType : KeyType} {write : Json → Bytes}
    {parse : Bytes → Option Json} {path : Path} {disk : Disk}
    (empty : disk.regularFiles (disk.resolve path) = [])
    {st : FileSystemConsumerInfoStorage NameType PasswordType} (start : construct parse path disk = .ok st)
    {calls : List (ConsumerInfo NameType PasswordType)} {info : ConsumerInfo NameType PasswordType}
    (made : ∀ r ∈ calls ++ [info], r.Made)
    (rapid : ∀ r ∈ calls ++ [info], ∀ document, r.document = .ok document → RapidJSON write parse document)
    (filables : Filables write st (calls ++ [info])) :
    let before := st.addAll write calls
    let after := (before.addConsumerInfo write info).2
    (∃ added, (before.addConsumerInfo write info).1 = .ok added ∧ (added = true → info.name ∈ after.cache.names)) ∧
      (∀ name, name ∈ after.cache.names ↔ after.OnDisk parse name) ∧
      (∃ again, after.refresh parse = .ok again ∧ construct parse path after.disk = .ok again ∧
        ∀ name, name ∈ again.cache.names ↔ name ∈ after.cache.names) ∧
      (∀ place content, before.disk.files.lookup place = some content →
        after.disk.files.lookup place = some content) ∧
      ∀ place, after.disk.files.lookup place ≠ before.disk.files.lookup place →
        ∃ filename, place = disk.resolve path ++ [filename] := by
  intro before after
  simp only [List.forall_mem_append, List.forall_mem_singleton] at made rapid
  have filed := Filed.construct empty start
  obtain ⟨rfl, _⟩ := construct_empty empty start
  obtain ⟨filedBefore, samePath, samePlace⟩ := filed.addAll made.1 rapid.1 filables.init
  obtain ⟨filedAfter, kept⟩ := filedBefore.addConsumerInfo made.2 rapid.2 (filables calls info [] rfl)
  obtain ⟨again, refreshed, names⟩ := refresh_returns filedAfter.directory fun content file => by
    obtain ⟨name, _, read⟩ := filedAfter.readAs file
    exact ⟨name, read⟩
  have restarted : construct parse path after.disk = .ok again := by
    rw [← refreshed, refresh_eq_construct, kept.path, samePath]
  refine ⟨addConsumerInfo_reports made.2 rapid.2, filedAfter.mem_names_iff, ?_, kept.files, fun spot changed => ?_⟩
  · exact ⟨again, refreshed, restarted, fun name => (names name).trans (filedAfter.mem_names_iff name).symm⟩
  · obtain ⟨filename, here⟩ := kept.inside spot changed
    exact ⟨filename, here.trans (congrArg (· ++ [filename]) samePlace)⟩

/-- A file system with the root and the directory `/d`, and no file yet. -/
def accountsDisk : Disk where
  cwd := []
  directory place := place = [] ∨ place = [ascii "d"]
  closed place := by
    rw [decide_eq_true_eq, decide_eq_true_eq]
    rintro (rfl | rfl)
    · exact .inl rfl
    · exact .inl rfl
  writable _ := true
  files := ∅

/-- RapidJSON on one document only. -/
def parseText (text : Bytes) (document : Json) (bytes : Bytes) : Option Json :=
  if bytes = text then some document else none

open FileSystemConsumerInfoStorage in
/-- The user with a directory of his own is added twice. -/
theorem account_directory_agrees_twice :
    ∃ st : FileSystemConsumerInfoStorage (.compactString MAILBOX_NAME_MAX_LEN) (.compactString PASSWORD_MAX_LEN),
      construct (parseText pathText pathDocument) (ascii "/d") accountsDisk = .ok st ∧
        ∀ name, name ∈ ((st.addAll (fun _ => pathText) [pathAccount]).addConsumerInfo
            (fun _ => pathText) pathAccount).2.cache.names ↔
          ((st.addAll (fun _ => pathText) [pathAccount]).addConsumerInfo
            (fun _ => pathText) pathAccount).2.OnDisk (parseText pathText pathDocument) name := by
  have each : ∀ r ∈ [pathAccount] ++ [pathAccount], r = pathAccount := by simp
  have filable : pathAccount.Filable := by
    refine ⟨⟨rfl, by decide⟩, fun storage member o own isType => ?_⟩
    cases List.mem_singleton.mp member
    cases List.mem_singleton.mp own
    exact absurd isType (by decide)
  have empty : accountsDisk.regularFiles (accountsDisk.resolve (ascii "/d")) = [] := rfl
  refine ⟨⟨ascii "/d", .empty, accountsDisk⟩, rfl, (account_directory_agrees empty rfl ?_ ?_ ?_).2.1⟩
  · intro r member
    rw [each r member]
    exact pathAccount_built.made
  · intro r member document same
    rw [each r member] at same
    cases pathAccount_document.symm.trans same
    exact ⟨by decide, by decide, if_pos rfl⟩
  · intro before r after split _
    rw [each r (by rw [split]; simp)]
    exact filable

/-- A user called `../u`. -/
def parentAccount : BothStringConsumerInfo where
  name := ⟨ascii "../u" ++ List.replicate 28 0, rfl⟩
  password := ⟨ascii "secret" ++ List.replicate 26 0, rfl⟩
  storages := []

def parentDocument : Json :=
  .object
    [(ascii "name", .string (ascii "../u")), (ascii "password", .string (ascii "secret")),
      (ascii "storages", .array [])]

def parentText : Bytes := ascii "\x7b\"name\":\"../u\",\"password\":\"secret\",\"storages\":[]\x7d"

open FileSystemConsumerInfoStorage in
/-- He is reported as added and is cached; his file is beside the directory, so `refresh` loses him. -/
theorem account_beside_directory :
    ∃ (write : Json → Bytes) (parse : Bytes → Option Json)
      (st after again : FileSystemConsumerInfoStorage (.compactString MAILBOX_NAME_MAX_LEN)
        (.compactString PASSWORD_MAX_LEN)),
      accountsDisk.regularFiles (accountsDisk.resolve (ascii "/d")) = [] ∧
        construct parse (ascii "/d") accountsDisk = .ok st ∧ parentAccount.Built ∧
        parentAccount.document = .ok parentDocument ∧ RapidJSON write parse parentDocument ∧
        st.addConsumerInfo write parentAccount = (.ok true, after) ∧ parentAccount.name ∈ after.cache.names ∧
        ¬ after.OnDisk parse parentAccount.name ∧ after.disk.files.lookup [ascii "u"] = some parentText ∧
        after.refresh parse = .ok again ∧ again.cache.names = [] := by
  refine ⟨fun _ => parentText, parseText parentText parentDocument, ⟨ascii "/d", .empty, accountsDisk⟩,
    ⟨ascii "/d", ConsumerCache.empty.insert parentAccount, accountsDisk.write [ascii "u"] parentText⟩,
    ⟨ascii "/d", .empty, accountsDisk.write [ascii "u"] parentText⟩,
    rfl, rfl, .construct _ _ ⟨ascii "../u", rfl⟩ ⟨ascii "secret", rfl⟩, rfl, ?_, rfl, ?_, ?_, rfl, rfl, rfl⟩
  · exact ⟨by decide, by decide, if_pos rfl⟩
  · exact ConsumerCache.mem_names_insert.mpr (.inr rfl)
  · rintro ⟨content, file, _⟩
    cases file

end Pop3Serv.Mail
