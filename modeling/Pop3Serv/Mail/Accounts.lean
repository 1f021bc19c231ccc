import Pop3Serv.Logic.Exec
import Pop3Serv.Mail.Refresh

/-!
# Accounts that last

A run of `addConsumerInfo`, `refresh` and restarts on a directory that was empty at first.
The directory is the memory of the cache (`Stored`): a record is in the cache exactly if its file
is in the directory and is read as that record. So the account under a name is the first record
added under it whose file could be opened, whatever is added later and however often the
program is started again.
-/

namespace Pop3Serv.Mail
open Logic

variable {NameType PasswordType : KeyType}

theorem ConsumerCache.getConsumerInfo_eq_some_iff {cache : ConsumerCache NameType PasswordType}
    {name : NameType.Value} {info : ConsumerInfo NameType PasswordType} :
    cache.getConsumerInfo name = some info ↔ info ∈ cache.cachedConsumerInfos ∧ info.name = name := by
  constructor
  · exact getConsumerInfo_mem
  · rintro ⟨member, rfl⟩
    exact getConsumerInfo_of_mem member

theorem ConsumerCache.mem_insert {cache : ConsumerCache NameType PasswordType}
    {info r : ConsumerInfo NameType PasswordType} (missing : cache.hasMailbox info.name = false) :
    r ∈ (cache.insert info).cachedConsumerInfos ↔ r ∈ cache.cachedConsumerInfos ∨ r = info := by
  unfold insert
  split
  · simp
  · rename_i other found
    rw [hasMailbox, found] at missing
    cases missing

/-- A record that lasts: its file is its own, and is read back as the record it was. -/
structure ConsumerInfo.Lasting (write : Json → Bytes) (parse : Bytes → Option Json)
    (x : ConsumerInfo NameType PasswordType) : Prop where
  made : x.Made
  plain : x.Plain
  name : NameType.NamesFile x.name
  rapid : ∀ document, x.document = .ok document → RapidJSON write parse document

theorem ConsumerInfo.Lasting.filable {write : Json → Bytes} {parse : Bytes → Option Json}
    {x : ConsumerInfo NameType PasswordType} (h : x.Lasting write parse) : x.Filable :=
  ⟨h.name, fun storage member o own isType => absurd isType (h.plain.options storage member o own).notType⟩

/-- What happens to a storage of accounts. -/
inductive AccountEvent (NameType PasswordType : KeyType) where
  | add (info : ConsumerInfo NameType PasswordType)
  /-- `refresh`, or a new storage on the directory -/
  | restart

/-- The records that calls of `addConsumerInfo` were made with. -/
def added (es : List (AccountEvent NameType PasswordType)) : List (ConsumerInfo NameType PasswordType) :=
  es.filterMap fun
    | .add info => some info
    | .restart => none

theorem added_append (es fs : List (AccountEvent NameType PasswordType)) :
    added (es ++ fs) = added es ++ added fs := List.filterMap_append

namespace FileSystemConsumerInfoStorage

/-- One call; `none` where it throws. -/
def step (write : Json → Bytes) (parse : Bytes → Option Json)
    (st : FileSystemConsumerInfoStorage NameType PasswordType) :
    AccountEvent NameType PasswordType → Option (FileSystemConsumerInfoStorage NameType PasswordType)
  | .add info =>
    match st.addConsumerInfo write info with
    | (.ok _, after) => some after
    | (.error _, _) => none
  | .restart => (construct parse st.path_to_storage st.disk).toOption

/-- The file of that name can be opened; no call changes that. -/
def Opens (st : FileSystemConsumerInfoStorage NameType PasswordType) (name : NameType.Value) : Bool :=
  st.disk.opens (st.disk.resolve (st.filepath name))

/-- The account under a name, by what was added. -/
def account (st : FileSystemConsumerInfoStorage NameType PasswordType)
    (es : List (AccountEvent NameType PasswordType)) (name : NameType.Value) :
    Option (ConsumerInfo NameType PasswordType) :=
  (added es).find? fun info => info.name = name ∧ st.Opens info.name

/-- The directory holds the records of the cache, each in its file, and nothing else. -/
structure Stored (parse : Bytes → Option Json) (st : FileSystemConsumerInfoStorage NameType PasswordType) : Prop where
  directory : st.disk.directory st.place = true
  plain : ∀ r ∈ st.cache.cachedConsumerInfos, NameType.Plain r.name
  cached : ∀ r ∈ st.cache.cachedConsumerInfos, ∃ content,
    st.disk.files.lookup (st.place ++ [NameType.filename r.name]) = some content ∧
      ConsumerInfo.Deserialize parse content = .ok (some r)
  files : ∀ filename content, st.disk.files.lookup (st.place ++ [filename]) = some content →
    ∃ r ∈ st.cache.cachedConsumerInfos, NameType.filename r.name = filename

variable {write : Json → Bytes} {parse : Bytes → Option Json}
  {st st' : FileSystemConsumerInfoStorage NameType PasswordType} {info : ConsumerInfo NameType PasswordType}

theorem Stored.filed (h : st.Stored parse) : st.Filed parse := by
  refine ⟨h.directory, fun name member => ?_, fun name member => ?_, fun filename content found => ?_⟩
  · obtain ⟨r, cached, rfl⟩ := List.mem_map.mp member
    exact h.plain r cached
  · obtain ⟨r, cached, rfl⟩ := List.mem_map.mp member
    obtain ⟨content, found, read⟩ := h.cached r cached
    exact ⟨content, found, r, read, rfl⟩
  · obtain ⟨r, cached, same⟩ := h.files filename content found
    exact ⟨r.name, List.mem_map_of_mem cached, same⟩

/-- The records read from the directory are those of the cache. -/
theorem Stored.mem_records_iff (h : st.Stored parse) (r : ConsumerInfo NameType PasswordType) :
    r ∈ records NameType PasswordType parse ((st.disk.regularFiles st.place).map some) ↔
      r ∈ st.cache.cachedConsumerInfos := by
  have reads : r ∈ records NameType PasswordType parse ((st.disk.regularFiles st.place).map some) ↔
      ∃ filename content, st.disk.files.lookup (st.place ++ [filename]) = some content ∧
        ConsumerInfo.Deserialize parse content = .ok (some r) := by
    simp only [records, List.mem_filterMap, List.mem_map, exists_exists_and_eq_and, Disk.mem_regularFiles,
      ConsumerInfo.DeserializeFromFile]
    constructor
    · rintro ⟨content, ⟨filename, found⟩, read⟩
      refine ⟨filename, content, found, ?_⟩
      cases value : (ConsumerInfo.Deserialize parse content : Except Fault (Option (ConsumerInfo _ _))) with
      | error fault => rw [value] at read; cases read
      | ok result => rw [value] at read; exact congrArg Except.ok read
    · rintro ⟨filename, content, found, read⟩
      exact ⟨content, ⟨filename, found⟩, by rw [read]; rfl⟩
  rw [reads]
  constructor
  · rintro ⟨filename, content, found, read⟩
    obtain ⟨other, cached, rfl⟩ := h.files filename content found
    obtain ⟨content', found', read'⟩ := h.cached other cached
    cases found.symm.trans found'
    cases read.symm.trans read'
    exact cached
  · intro cached
    obtain ⟨content, found, read⟩ := h.cached r cached
    exact ⟨_, content, found, read⟩

/-- **A restart changes nothing**: the cache is read back with the same record under each name. -/
theorem Stored.restart (h : st.Stored parse) :
    ∃ cache, construct parse st.path_to_storage st.disk = .ok { st with cache } ∧
      (∀ name, cache.getConsumerInfo name = st.cache.getConsumerInfo name) ∧
      Stored parse { st with cache } := by
  have decoded : ∀ file ∈ (st.disk.regularFiles st.place).map some, ¬ CutShort NameType PasswordType parse file := by
    rintro file member ⟨fault, thrown⟩
    obtain ⟨content, there, rfl⟩ := List.mem_map.mp member
    obtain ⟨name, _, r, read, _⟩ := h.filed.readAs there
    cases thrown.symm.trans read
  obtain ⟨cache, holds, goes⟩ := refreshFiles_append decoded (.empty : ConsumerCache NameType PasswordType)
  have loop : refreshFiles parse ((st.disk.regularFiles st.place).map some)
      (.empty : ConsumerCache NameType PasswordType) = (none, cache) := by
    have all := goes []
    rwa [List.append_nil] at all
  have same : ∀ name, cache.getConsumerInfo name = st.cache.getConsumerInfo name := by
    intro name
    rw [holds name]
    -- nothing was cached before, so the record is the first of that name that was read
    show (none : Option (ConsumerInfo NameType PasswordType)).or _ = _
    rw [Option.none_or]
    cases first : (records NameType PasswordType parse ((st.disk.regularFiles st.place).map some)).find?
        fun r => r.name = name with
    | some r =>
      have own : r.name = name := by simpa using List.find?_some first
      have cached := (h.mem_records_iff r).mp (List.mem_of_find?_eq_some first)
      exact (ConsumerCache.getConsumerInfo_eq_some_iff.mpr ⟨cached, own⟩).symm
    | none =>
      rw [eq_comm, Option.eq_none_iff_forall_ne_some]
      intro r found
      obtain ⟨cached, own⟩ := ConsumerCache.getConsumerInfo_eq_some_iff.mp found
      have absent := List.find?_eq_none.mp first r ((h.mem_records_iff r).mpr cached)
      exact absent (by simpa using own)
  have members : ∀ r, r ∈ cache.cachedConsumerInfos ↔ r ∈ st.cache.cachedConsumerInfos := by
    intro r
    have here : ∀ c : ConsumerCache NameType PasswordType,
        r ∈ c.cachedConsumerInfos ↔ c.getConsumerInfo r.name = some r := fun c => by
      rw [ConsumerCache.getConsumerInfo_eq_some_iff, and_iff_left rfl]
    rw [here, here, same]
  refine ⟨cache, ?_, same, h.directory, fun r member => h.plain r ((members r).mp member),
    fun r member => h.cached r ((members r).mp member), fun filename content found => ?_⟩
  · rw [← refresh_eq_construct, refresh_eq, if_pos h.directory]
    show (seen (refreshFiles parse _ .empty)).map _ = _
    rw [loop]
    rfl
  · obtain ⟨r, member, own⟩ := h.files filename content found
    exact ⟨r, (members r).mpr member, own⟩

/-- A name and its record come together. -/
theorem Stored.insert (h : st.Stored parse) (plain : NameType.Plain info.name)
    (missing : st.cache.hasMailbox info.name = false)
    (free : st.disk.files.lookup (st.place ++ [NameType.filename info.name]) = none) {content : Bytes}
    (read : ConsumerInfo.Deserialize parse content = .ok (some info)) :
    Stored parse { st with
      cache := st.cache.insert info
      disk := st.disk.write (st.place ++ [NameType.filename info.name]) content } := by
  refine ⟨h.directory, fun r member => ?_, fun r member => ?_, fun filename old found => ?_⟩
  · rcases (ConsumerCache.mem_insert missing).mp member with cached | rfl
    · exact h.plain r cached
    · exact plain
  · rcases (ConsumerCache.mem_insert missing).mp member with cached | rfl
    · obtain ⟨old, found, read'⟩ := h.cached r cached
      exact ⟨old, Disk.lookup_write_free free found, read'⟩
    · exact ⟨content, AList.lookup_insert _, read⟩
  · by_cases own : filename = NameType.filename info.name
    · exact ⟨info, (ConsumerCache.mem_insert missing).mpr (.inr rfl), own.symm⟩
    · have apart : st.place ++ [filename] ≠ st.place ++ [NameType.filename info.name] := by simpa using own
      obtain ⟨r, cached, same⟩ := h.files filename old ((AList.lookup_insert_ne apart).symm.trans found)
      exact ⟨r, (ConsumerCache.mem_insert missing).mpr (.inl cached), same⟩

/-- **One call of `addConsumerInfo`**: it returns true exactly if no record of the name is cached and the file
opens, and then the record is cached too; nothing else changes. -/
theorem Stored.addConsumerInfo (h : st.Stored parse) (lasting : info.Lasting write parse) :
    ∃ after, st.addConsumerInfo write info =
        (.ok (decide (st.cache.getConsumerInfo info.name = none ∧ st.Opens info.name = true)), after) ∧
      after.Stored parse ∧ after.path_to_storage = st.path_to_storage ∧ after.Opens = st.Opens ∧
      ∀ name, after.cache.getConsumerInfo name = (st.cache.getConsumerInfo name).or
        (if info.name = name ∧ st.Opens info.name = true then some info else none) := by
  obtain ⟨document, written⟩ := lasting.made.written
  have rapid := lasting.rapid document written
  have asks : st.Writes info ↔ st.cache.getConsumerInfo info.name = none ∧ st.Opens info.name = true := by
    simp [Writes, Opens, ConsumerCache.hasMailbox]
  rcases addConsumerInfo_cases written rapid with ⟨refused, call⟩ | ⟨writes, call⟩
  · rw [asks] at refused
    refine ⟨st, by rw [call, decide_eq_false refused], h, rfl, rfl, fun name => ?_⟩
    split
    · rename_i here
      obtain ⟨rfl, opens⟩ := here
      obtain ⟨other, found⟩ := Option.ne_none_iff_exists'.mp fun missing => refused ⟨missing, opens⟩
      rw [found]
      rfl
    · exact Option.or_none.symm
  · obtain ⟨place, free⟩ := h.filed.place_free lasting.filable writes
    have read : ConsumerInfo.Deserialize parse (cstr (write document)) = .ok (some info) := by
      rw [ConsumerInfo.Deserialize_text rapid]
      exact (ConsumerInfo.reread_iff lasting.made written).mpr lasting.plain
    rw [place] at call
    refine ⟨_, by rw [call, decide_eq_true (asks.mp writes)], h.insert lasting.name.plain writes.1 free read, rfl, rfl,
      fun name => ?_⟩
    rw [ConsumerCache.getConsumerInfo_insert]
    simp only [(asks.mp writes).2, and_true]

/-- What a run keeps: the records are on the disk, and the cache has the account under each name. -/
structure Lasts (parse : Bytes → Option Json) (start : FileSystemConsumerInfoStorage NameType PasswordType)
    (es : List (AccountEvent NameType PasswordType)) (st : FileSystemConsumerInfoStorage NameType PasswordType) :
    Prop where
  stored : st.Stored parse
  path : st.path_to_storage = start.path_to_storage
  opens : st.Opens = start.Opens
  account : ∀ name, st.cache.getConsumerInfo name = start.account es name

theorem Lasts.step {start : FileSystemConsumerInfoStorage NameType PasswordType}
    {es : List (AccountEvent NameType PasswordType)} (h : Lasts parse start es st)
    {e : AccountEvent NameType PasswordType} (lasting : ∀ info, e = .add info → info.Lasting write parse) :
    ∃ st', st.step write parse e = some st' ∧ Lasts parse start (es ++ [e]) st' := by
  cases e with
  | add info =>
    obtain ⟨after, call, stored, path, opens, account⟩ := h.stored.addConsumerInfo (lasting info rfl)
    refine ⟨after, by rw [FileSystemConsumerInfoStorage.step, call], stored, path.trans h.path, opens.trans h.opens,
      fun name => ?_⟩
    rw [account, h.account, h.opens]
    unfold FileSystemConsumerInfoStorage.account
    rw [added_append, List.find?_append]
    congr 1
    show _ = [info].find? _
    by_cases here : info.name = name ∧ start.Opens info.name = true
    · rw [if_pos here, List.find?_cons_of_pos (by simpa using here)]
    · rw [if_neg here, List.find?_cons_of_neg (by simpa using here), List.find?_nil]
  | restart =>
    obtain ⟨cache, restarted, same, stored⟩ := h.stored.restart
    refine ⟨{ st with cache }, by rw [FileSystemConsumerInfoStorage.step, restarted]; rfl, stored, h.path, h.opens,
      fun name => ?_⟩
    show cache.getConsumerInfo name = _
    rw [same, h.account]
    unfold FileSystemConsumerInfoStorage.account
    rw [added_append]
    show _ = (added es ++ []).find? _
    rw [List.append_nil]

theorem Lasts.run {start : FileSystemConsumerInfoStorage NameType PasswordType}
    {es fs : List (AccountEvent NameType PasswordType)} (h : Lasts parse start es st)
    (lasting : ∀ info ∈ added fs, info.Lasting write parse) :
    ∃ st', exec (FileSystemConsumerInfoStorage.step write parse) st fs = some st' ∧
      Lasts parse start (es ++ fs) st' := by
  induction fs generalizing es st with
  | nil => exact ⟨st, rfl, by rwa [List.append_nil]⟩
  | cons e fs ih =>
    have split : added (e :: fs) = added [e] ++ added fs := added_append [e] fs
    rw [split, List.forall_mem_append] at lasting
    obtain ⟨next, first, lasts⟩ := h.step (e := e) fun info same => by
      subst same
      exact lasting.1 info (List.mem_singleton_self info)
    obtain ⟨st', rest, lasts'⟩ := ih lasts lasting.2
    refine ⟨st', by rw [exec_cons, first]; exact rest, ?_⟩
    rwa [List.append_assoc] at lasts'

theorem Lasts.start {path : Path} {disk : Disk} (empty : disk.regularFiles (disk.resolve path) = [])
    (start : construct parse path disk = .ok st) : Lasts parse st [] st := by
  obtain ⟨rfl, directory⟩ := construct_empty empty start
  refine ⟨⟨directory, fun r member => absurd member List.not_mem_nil, fun r member => absurd member List.not_mem_nil,
    fun filename content found => ?_⟩, rfl, rfl, fun _ => rfl⟩
  have file : content ∈ disk.regularFiles (disk.resolve path) := Disk.mem_regularFiles.mpr ⟨filename, found⟩
  rw [empty] at file
  cases file

end FileSystemConsumerInfoStorage

open FileSystemConsumerInfoStorage in
/-- **Accounts last.** From a storage on an empty directory on, over every run of calls and restarts in any
order, with records that last: no call throws, and in every state the record under a name is the first
that was added under it of those whose file could be opened. -/
theorem accounts_last {write : Json → Bytes} {parse : Bytes → Option Json} {path : Path} {disk : Disk}
    (empty : disk.regularFiles (disk.resolve path) = [])
    {st : FileSystemConsumerInfoStorage NameType PasswordType} (start : construct parse path disk = .ok st)
    {es : List (AccountEvent NameType PasswordType)} (lasting : ∀ info ∈ added es, info.Lasting write parse) :
    ∃ st', exec (step write parse) st es = some st' ∧
      ∀ name, st'.cache.getConsumerInfo name =
        (added es).find? fun info => info.name = name ∧ st.Opens info.name := by
  obtain ⟨st', run, lasts⟩ := (Lasts.start empty start).run lasting
  exact ⟨st', run, lasts.account⟩

theorem pathAccount_lasting : pathAccount.Lasting (fun _ => pathText) (parseText pathText pathDocument) := by
  refine ⟨pathAccount_built.made, ⟨rfl, rfl, fun storage member o own => ?_⟩, ⟨rfl, by decide⟩, fun document same => ?_⟩
  · rw [List.mem_singleton.mp member] at own
    rw [List.mem_singleton.mp own]
    exact ⟨rfl, by decide, fun s same => by cases same; decide⟩
  · cases pathAccount_document.symm.trans same
    exact ⟨by decide, by decide, if_pos rfl⟩

/-- A storage on the empty directory `/d`. -/
def emptyAccounts (NameType PasswordType : KeyType) : FileSystemConsumerInfoStorage NameType PasswordType where
  path_to_storage := ascii "/d"
  cache := .empty
  disk := accountsDisk

open FileSystemConsumerInfoStorage in
/-- The user with a directory of his own is added twice, and found after a restart. -/
theorem accounts_last_pathAccount :
    ∃ st', exec (step (fun _ => pathText) (parseText pathText pathDocument)) (emptyAccounts _ _)
        [.add pathAccount, .restart, .add pathAccount, .restart] = some st' ∧
      st'.cache.getConsumerInfo pathAccount.name = some pathAccount := by
  have lasting : ∀ info ∈ added [.add pathAccount, .restart, .add pathAccount, .restart],
      info.Lasting (fun _ => pathText) (parseText pathText pathDocument) := by
    intro info member
    have same : info = pathAccount := by simpa [added] using member
    exact same ▸ pathAccount_lasting
  have empty : accountsDisk.regularFiles (accountsDisk.resolve (ascii "/d")) = [] := rfl
  obtain ⟨st', run, account⟩ := accounts_last empty rfl lasting
  refine ⟨st', run, (account _).trans ?_⟩
  exact List.find?_cons_of_pos (decide_eq_true ⟨rfl, rfl⟩)

/-! ## The consumers `main` can generate -/

/-- The name of the generated user. -/
def generatedName (i : UInt32) : Bytes := ascii "user" ++ decimal (i + 1).toNat

/-- The record of that user. -/
def generatedConsumer (hash : Bytes → UInt64) (i : UInt32) : Except Fault BothNumericConsumerInfo :=
  let name := generatedName i
  let password := name ++ ascii "11"
  ConsumerInfo.addStorage { name := hash name, password := hash password, storages := [] } .FileSystemMailStorage
    [(ascii "path", Path.append (ascii "D:\\mailboxes") name)] []

/-- `dummy_generate_consumers`. -/
def dummy_generate_consumers (hash : Bytes → UInt64) (write : Json → Bytes)
    (storage : FileSystemConsumerInfoStorage .hashed .hashed) (count : UInt32) :
    Except Fault (FileSystemConsumerInfoStorage .hashed .hashed) :=
  (List.range count.toNat).foldlM (fun storage i => do
    let settingsInstance ← generatedConsumer hash (.ofNat i)
    match storage.addConsumerInfo write settingsInstance with
    | (.ok _, after) => .ok after
    | (.error fault, _) => .error fault) storage

theorem length_path : (ascii "path" ++ [0]).length = getMaximumOptionName declaredOptions := rfl

/-- The option that is the generated user's directory. -/
def generatedOption (i : UInt32) : StorageOption where
  name := ⟨ascii "path" ++ [0], length_path⟩
  value := .string (Path.append (ascii "D:\\mailboxes") (generatedName i))

theorem generatedOptions_le (i : UInt32) : [generatedOption i].length ≤ MAX_OPTIONS_COUNT := by
  rw [List.length_singleton]
  decide

/-- The storage of the generated user: a directory under his name. -/
def generatedStorage (i : UInt32) : MailStorageInfo where
  storageType := .FileSystemMailStorage
  options := [generatedOption i]
  count_le := generatedOptions_le i

def generated (hash : Bytes → UInt64) (i : UInt32) : BothNumericConsumerInfo where
  name := hash (generatedName i)
  password := hash (generatedName i ++ ascii "11")
  storages := [generatedStorage i]

theorem generatedConsumer_eq (hash : Bytes → UInt64) (i : UInt32) :
    generatedConsumer hash i = .ok (generated hash i) := rfl

theorem nul_notMem_generatedPath (i : UInt32) :
    (0 : UInt8) ∉ Path.append (ascii "D:\\mailboxes") (generatedName i) := by
  have digits : (0 : UInt8) ∉ decimal (i + 1).toNat := fun member => by
    have := (mem_decimal member).1
    simp at this
  have relative : (generatedName i).head? ≠ some slash := by
    unfold generatedName
    rw [List.head?_append_of_ne_nil _ (by decide)]
    decide
  unfold Path.append
  rw [if_neg relative, if_neg (by decide)]
  simp only [generatedName, List.mem_append, not_or]
  exact ⟨⟨by decide, by decide⟩, by decide, digits⟩

theorem generated_lasting {hash : Bytes → UInt64} {write : Json → Bytes} {parse : Bytes → Option Json} {i : UInt32}
    (rapid : ∀ document, (generated hash i).document = .ok document → RapidJSON write parse document) :
    (generated hash i).Lasting write parse := by
  have only : ∀ storage ∈ (generated hash i).storages, ∀ o ∈ storage.options, o = generatedOption i := by
    intro storage member o own
    rw [List.mem_singleton.mp member] at own
    exact List.mem_singleton.mp own
  refine ⟨⟨trivial, trivial, fun storage member o own => ?_⟩, ⟨trivial, trivial, fun storage member o own => ?_⟩,
    trivial, rapid⟩
  · rw [only storage member o own]
    exact ⟨⟨ascii "path", rfl⟩, by simp [generatedOption]⟩
  · rw [only storage member o own]
    have notType : cstr (ascii "path" ++ [0]) ≠ ascii "type" := by decide
    refine ⟨rfl, notType, fun s same => ?_⟩
    cases same
    exact nul_notMem_generatedPath i

/-- The loop of the generator is a run of additions. -/
theorem generate_eq {hash : Bytes → UInt64} {write : Json → Bytes} {parse : Bytes → Option Json} {indices : List Nat}
    {st st' : FileSystemConsumerInfoStorage .hashed .hashed}
    (run : exec (FileSystemConsumerInfoStorage.step write parse) st
      (indices.map fun i => .add (generated hash (.ofNat i))) = some st') :
    indices.foldlM (fun storage i => do
      let settingsInstance ← generatedConsumer hash (.ofNat i)
      match storage.addConsumerInfo write settingsInstance with
      | (.ok _, after) => .ok after
      | (.error fault, _) => .error fault) st = (.ok st' : Except Fault _) := by
  induction indices generalizing st with
  | nil => cases run; rfl
  | cons i indices ih =>
    obtain ⟨next, first, rest⟩ := Option.bind_eq_some_iff.mp (exec_cons st _ _ ▸ run)
    rw [List.foldlM_cons, generatedConsumer_eq]
    unfold FileSystemConsumerInfoStorage.step at first
    simp only at first
    split at first
    · rename_i added after call
      cases first
      show (match st.addConsumerInfo write (generated hash (.ofNat i)) with
        | (.ok _, after) => .ok after
        | (.error fault, _) => .error fault : Except Fault _) >>= _ = _
      rw [call]
      exact ih rest
    · cases first

/-- Of the generated records, the first with a user's hash is his own if no user before him has that hash. -/
theorem find_generated {hash : Bytes → UInt64} {count i : UInt32} (inside : i < count) {opens : UInt64 → Bool}
    (here : opens (hash (generatedName i)) = true)
    (first : ∀ j < i, hash (generatedName j) ≠ hash (generatedName i)) :
    ((List.range count.toNat).map fun i => generated hash (.ofNat i)).find?
      (fun info => info.name = hash (generatedName i) ∧ opens info.name) = some (generated hash i) := by
  have own : List.find? ((fun info : BothNumericConsumerInfo =>
      decide (info.name = hash (generatedName i) ∧ opens info.name = true)) ∘ fun i => generated hash (.ofNat i))
      (List.range count.toNat) = some i.toNat := by
    rw [List.find?_range_eq_some]
    refine ⟨?_, List.mem_range.mpr (UInt32.lt_iff_toNat_lt.mp inside), fun j before => ?_⟩
    · simp [generated, here]
    · have small : (UInt32.ofNat j) < i := by
        rw [UInt32.lt_iff_toNat_lt, UInt32.toNat_ofNat_of_lt' (lt_trans before i.toNat_lt)]
        exact before
      have apart := first _ small
      simp [generated, apart]
  rw [List.find?_map, own, Option.map_some, UInt32.ofNat_toNat]

open FileSystemConsumerInfoStorage in
/-- **Every generated consumer logs on**, from the generation on, whatever records that last are added later
and however often the program is started again: with the password generated for him and with no other of
another hash, if his file could be opened and no user generated before him has the same hash. -/
theorem generated_consumers_log_on {hash : Bytes → UInt64} {write : Json → Bytes} {parse : Bytes → Option Json}
    {path : Path} {disk : Disk} (empty : disk.regularFiles (disk.resolve path) = [])
    {st : FileSystemConsumerInfoStorage .hashed .hashed} (start : construct parse path disk = .ok st) {count : UInt32}
    (rapid : ∀ i < count, ∀ document, (generated hash i).document = .ok document → RapidJSON write parse document)
    {es : List (AccountEvent .hashed .hashed)} (lasting : ∀ info ∈ added es, info.Lasting write parse) :
    ∃ filled st', dummy_generate_consumers hash write st count = .ok filled ∧
      exec (step write parse) filled es = some st' ∧
      ∀ i < count, st.Opens (hash (generatedName i)) = true →
        (∀ j < i, hash (generatedName j) ≠ hash (generatedName i)) → ∀ password,
        (SingleConsumerInfoStorageAuthorizationManager hash st'.cache).logon (generatedName i) password =
          if hash password = hash (generatedName i ++ ascii "11") then .ok (.ok [generatedStorage i])
          else .ok (.error .InvalidPassword) := by
  have generates : added ((List.range count.toNat).map fun i => .add (generated hash (.ofNat i))) =
      (List.range count.toNat).map fun i => generated hash (.ofNat i) := by
    simp [added, List.filterMap_map]
  have each : ∀ info ∈ added ((List.range count.toNat).map fun i => .add (generated hash (.ofNat i))),
      info.Lasting write parse := by
    rw [generates]
    intro info member
    obtain ⟨i, inside, rfl⟩ := List.mem_map.mp member
    have inside := List.mem_range.mp inside
    refine generated_lasting (rapid _ ?_)
    rw [UInt32.lt_iff_toNat_lt, UInt32.toNat_ofNat_of_lt' (lt_trans inside count.toNat_lt)]
    exact inside
  obtain ⟨filled, run, lasts⟩ := (Lasts.start empty start).run each
  obtain ⟨st', later, lasts'⟩ := lasts.run lasting
  refine ⟨filled, st', generate_eq run, later, fun i inside opens first password => ?_⟩
  have found : st'.cache.getConsumerInfo (hash (generatedName i)) = some (generated hash i) := by
    rw [lasts'.account]
    unfold account
    rw [List.nil_append, added_append, List.find?_append, generates, find_generated inside opens first]
    rfl
  rw [single_logon_some rfl found password]
  show (if hash (generatedName i ++ ascii "11") = hash password then _ else _) = _
  by_cases same : hash password = hash (generatedName i ++ ascii "11")
  · rw [if_pos same, if_pos same.symm]
    rfl
  · rw [if_neg same, if_neg (Ne.symm same)]

/-- The sum of the bytes, for a hash. -/
def byteSum (bytes : Bytes) : UInt64 := (bytes.map UInt8.toUInt64).sum

/-- The record of the first user, and its file. -/
def firstUserDocument : Json :=
  .object
    [(ascii "name", .uint 496), (ascii "password", .uint 594),
      (ascii "storages", .array
        [.object [(ascii "type", .uint 1), (ascii "path", .string (ascii "D:\\mailboxes/user1"))]])]

def firstUserText : Bytes :=
  ascii "\x7b\"name\":496,\"password\":594,\"storages\":[\x7b\"type\":1,\"path\":\"D:\\\\mailboxes/user1\"\x7d]\x7d"

open FileSystemConsumerInfoStorage in
theorem first_user_logs_on :
    ∃ filled st', dummy_generate_consumers byteSum (fun _ => firstUserText) (emptyAccounts _ _) 1 = .ok filled ∧
      exec (step (fun _ => firstUserText) (parseText firstUserText firstUserDocument)) filled [.restart] = some st' ∧
      (SingleConsumerInfoStorageAuthorizationManager byteSum st'.cache).logon (ascii "user1") (ascii "user111") =
        .ok (.ok [generatedStorage 0]) := by
  have only : ∀ i : UInt32, i < 1 → i = 0 := by
    intro i small
    rw [UInt32.lt_iff_toNat_lt] at small
    exact UInt32.toNat_inj.mp (Nat.lt_one_iff.mp small)
  have rapid : ∀ i < (1 : UInt32), ∀ document, (generated byteSum i).document = .ok document →
      RapidJSON (fun _ => firstUserText) (parseText firstUserText firstUserDocument) document := by
    intro i small document same
    rw [only i small] at same
    have here : (generated byteSum 0).document = .ok firstUserDocument := rfl
    cases here.symm.trans same
    exact ⟨by decide, by decide, if_pos rfl⟩
  have lasting : ∀ info ∈ added [(.restart : AccountEvent .hashed .hashed)],
      info.Lasting (fun _ => firstUserText) (parseText firstUserText firstUserDocument) := by
    intro info member
    cases member
  have empty : accountsDisk.regularFiles (accountsDisk.resolve (ascii "/d")) = [] := rfl
  obtain ⟨filled, st', generates, run, logon⟩ := generated_consumers_log_on empty rfl rapid lasting
  exact ⟨filled, st', generates, run, logon 0 (by decide) rfl (fun j before => absurd before (by simp)) _⟩

end Pop3Serv.Mail
