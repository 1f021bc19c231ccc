import Pop3Serv.Mail.AccountDirectory

/-!
# A refresh that fails

`refresh` lists the directory, clears the cache and then decodes file by file into
it. `refreshCache` keeps what the cache is when an exception ends this
(`refresh_eq`). The exception of the listing comes before the cache is cleared; the
one of a file leaves the records of the files before it, whatever was cached.
-/

namespace Pop3Serv.Mail

variable {NameType PasswordType : KeyType}

/-- `ConsumerInfo::DeserializeFromFile`, of a file that opens or does not. -/
def ConsumerInfo.DeserializeFromFile (parse : Bytes → Option Json) (file : Option Bytes) :
    Except Fault (Option (ConsumerInfo NameType PasswordType)) :=
  match file with
  | some content => Deserialize parse content
  | none => .ok none

/-- The loop of `refresh`: the exception that ends it, if one does, and the cache then. -/
def refreshFiles (parse : Bytes → Option Json) : List (Option Bytes) → ConsumerCache NameType PasswordType →
    Option Fault × ConsumerCache NameType PasswordType
  | [], cachedConsumerInfos => (none, cachedConsumerInfos)
  | file :: rest, cachedConsumerInfos =>
    match ConsumerInfo.DeserializeFromFile parse file with
    | .error fault => (some fault, cachedConsumerInfos)
    | .ok none => refreshFiles parse rest cachedConsumerInfos
    | .ok (some info) => refreshFiles parse rest (cachedConsumerInfos.insert info)

/-- `refresh` on a directory, `none` where listing it throws. -/
def refreshCache (parse : Bytes → Option Json) (directory : Option (List (Option Bytes)))
    (cachedConsumerInfos : ConsumerCache NameType PasswordType) :
    Option Fault × ConsumerCache NameType PasswordType :=
  match directory with
  | none => (some .filesystemError, cachedConsumerInfos)
  | some files => refreshFiles parse files .empty

/-- The records of the files that are decoded as one, in the order of the files. -/
def records (NameType PasswordType : KeyType) (parse : Bytes → Option Json) (files : List (Option Bytes)) :
    List (ConsumerInfo NameType PasswordType) :=
  files.filterMap fun file => (ConsumerInfo.DeserializeFromFile parse file).toOption.join

/-- The cache holds these records, of each name the first. -/
def ConsumerCache.Holds (cache : ConsumerCache NameType PasswordType)
    (infos : List (ConsumerInfo NameType PasswordType)) : Prop :=
  ∀ name, cache.getConsumerInfo name = infos.find? fun info => info.name = name

/-- Decoding the file ends in an exception. -/
def CutShort (NameType PasswordType : KeyType) (parse : Bytes → Option Json) (file : Option Bytes) : Prop :=
  ∃ fault, (ConsumerInfo.DeserializeFromFile parse file :
    Except Fault (Option (ConsumerInfo NameType PasswordType))) = .error fault

/-- `refresh` completes with the records of the directory, or leaves the cache as it was. -/
def AllOrNothing (parse : Bytes → Option Json) (directory : Option (List (Option Bytes)))
    (previous : ConsumerCache NameType PasswordType) : Prop :=
  ((refreshCache parse directory previous).1 = none → ∃ files, directory = some files ∧
    (refreshCache parse directory previous).2.Holds (records NameType PasswordType parse files)) ∧
  ((refreshCache parse directory previous).1 ≠ none →
    (refreshCache parse directory previous).2.Holds previous.cachedConsumerInfos)

/-- What a caller of a loop sees: what it leaves, or the exception. -/
def seen {α : Type} : Option Fault × α → Except Fault α
  | (none, a) => .ok a
  | (some fault, _) => .error fault

open FileSystemConsumerInfoStorage in
theorem readFiles_eq (parse : Bytes → Option Json) (contents : List Bytes)
    (cache : ConsumerCache NameType PasswordType) :
    contents.foldlM (readFile parse) cache = seen (refreshFiles parse (contents.map some) cache) := by
  induction contents generalizing cache with
  | nil => rfl
  | cons content contents ih =>
    rw [List.foldlM_cons, List.map_cons, refreshFiles]
    unfold readFile ConsumerInfo.DeserializeFromFile
    simp only
    cases (ConsumerInfo.Deserialize parse content :
        Except Fault (Option (ConsumerInfo NameType PasswordType))) with
    | error fault => rfl
    | ok result =>
      cases result with
      | none => exact ih cache
      | some info => exact ih (cache.insert info)

/-- `refresh` as the storage of accounts runs it, on a directory whose files open. -/
theorem refresh_eq (st : FileSystemConsumerInfoStorage NameType PasswordType) (parse : Bytes → Option Json) :
    st.refresh parse =
      (seen (refreshCache parse
        (if st.disk.directory st.place then some ((st.disk.regularFiles st.place).map some) else none)
        st.cache)).map fun cache => { st with cache } := by
  unfold FileSystemConsumerInfoStorage.refresh
  cases st.disk.directory st.place with
  | false => rfl
  | true =>
    have cleared : ∀ files, refreshCache parse (some files) st.cache = refreshFiles parse files .empty :=
      fun _ => rfl
    rw [if_pos rfl, if_pos rfl, readFiles_eq, cleared]
    cases seen (refreshFiles parse ((st.disk.regularFiles st.place).map some)
      (ConsumerCache.empty : ConsumerCache NameType PasswordType)) <;> rfl

theorem ConsumerCache.getConsumerInfo_insert (cache : ConsumerCache NameType PasswordType)
    (info : ConsumerInfo NameType PasswordType) (name : NameType.Value) :
    (cache.insert info).getConsumerInfo name =
      (cache.getConsumerInfo name).or (if info.name = name then some info else none) := by
  unfold insert
  split
  · rename_i missing
    unfold getConsumerInfo
    rw [List.find?_append]
    congr 1
    by_cases same : info.name = name
    · simp [same]
    · simp [same]
  · rename_i other found
    by_cases same : info.name = name
    · rw [same] at found
      rw [found]
      rfl
    · rw [if_neg same, Option.or_none]

/-- **Files that are decoded** leave the loop with their records, of each name the first. -/
theorem refreshFiles_append {parse : Bytes → Option Json} {files : List (Option Bytes)}
    (decoded : ∀ file ∈ files, ¬ CutShort NameType PasswordType parse file)
    (cache : ConsumerCache NameType PasswordType) :
    ∃ cache' : ConsumerCache NameType PasswordType,
      (∀ name, cache'.getConsumerInfo name = (cache.getConsumerInfo name).or
        ((records NameType PasswordType parse files).find? fun info => info.name = name)) ∧
      ∀ rest, refreshFiles parse (files ++ rest) cache = refreshFiles parse rest cache' := by
  induction files generalizing cache with
  | nil => exact ⟨cache, fun name => by simp [records], fun _ => rfl⟩
  | cons file files ih =>
    rw [List.forall_mem_cons] at decoded
    cases read : (ConsumerInfo.DeserializeFromFile parse file :
        Except Fault (Option (ConsumerInfo NameType PasswordType))) with
    | error fault => exact absurd ⟨fault, read⟩ decoded.1
    | ok result =>
      cases result with
      | none =>
        obtain ⟨cache', holds, goes⟩ := ih decoded.2 cache
        have same : records NameType PasswordType parse (file :: files) = records _ _ parse files := by
          simp [records, read, Except.toOption]
        refine ⟨cache', fun name => by rw [holds, same], fun rest => ?_⟩
        rw [List.cons_append, refreshFiles, read]
        exact goes rest
      | some info =>
        obtain ⟨cache', holds, goes⟩ := ih decoded.2 (cache.insert info)
        have first : records NameType PasswordType parse (file :: files) = info :: records _ _ parse files := by
          simp [records, read, Except.toOption]
        refine ⟨cache', fun name => ?_, fun rest => ?_⟩
        · rw [holds, first, ConsumerCache.getConsumerInfo_insert, Option.or_assoc, List.find?_cons]
          by_cases same : info.name = name
          · simp [same]
          · simp [same]
        · rw [List.cons_append, refreshFiles, read]
          exact goes rest

/-- All files are decoded, or there is a first that is not. -/
theorem cutShort_cases (NameType PasswordType : KeyType) (parse : Bytes → Option Json)
    (files : List (Option Bytes)) :
    (∀ file ∈ files, ¬ CutShort NameType PasswordType parse file) ∨
    ∃ before file after, files = before ++ file :: after ∧
      (∀ file ∈ before, ¬ CutShort NameType PasswordType parse file) ∧
      CutShort NameType PasswordType parse file := by
  induction files with
  | nil => exact .inl nofun
  | cons file files ih =>
    by_cases cut : CutShort NameType PasswordType parse file
    · exact .inr ⟨[], file, files, rfl, nofun, cut⟩
    · rcases ih with decoded | ⟨before, file', after, rfl, decoded, cut'⟩
      · exact .inl (List.forall_mem_cons.mpr ⟨cut, decoded⟩)
      · exact .inr ⟨file :: before, file', after, rfl, List.forall_mem_cons.mpr ⟨cut, decoded⟩, cut'⟩

/-- Where a list is split before its first element with a property, there is no choice. -/
theorem first_split_unique {α : Type} {p : α → Prop} {before before' after after' : List α} {x x' : α}
    (clean : ∀ a ∈ before, ¬ p a) (here : p x) (clean' : ∀ a ∈ before', ¬ p a) (here' : p x')
    (same : before ++ x :: after = before' ++ x' :: after') : before = before' := by
  induction before generalizing before' with
  | nil =>
    cases before' with
    | nil => rfl
    | cons a before' =>
      obtain ⟨rfl, _⟩ := List.cons.inj same
      exact absurd here (clean' x (by simp))
  | cons a before ih =>
    cases before' with
    | nil =>
      obtain ⟨rfl, _⟩ := List.cons.inj same
      exact absurd here' (clean a (by simp))
    | cons a' before' =>
      obtain ⟨rfl, rest⟩ := List.cons.inj same
      rw [ih (fun b hb => clean b (by simp [hb])) (fun b hb => clean' b (by simp [hb])) rest]

/-- **A refresh is all or nothing** exactly if, where a file is the first whose decoding is cut short,
the cache held just the records of the files before it. -/
theorem refresh_all_or_nothing_iff (parse : Bytes → Option Json) (directory : Option (List (Option Bytes)))
    (previous : ConsumerCache NameType PasswordType) :
    AllOrNothing parse directory previous ↔
      ∀ before file after, directory = some (before ++ file :: after) →
        (∀ file ∈ before, ¬ CutShort NameType PasswordType parse file) →
        CutShort NameType PasswordType parse file →
        previous.Holds (records NameType PasswordType parse before) := by
  cases directory with
  | none => exact iff_of_true ⟨nofun, fun _ _ => rfl⟩ nofun
  | some files =>
    rcases cutShort_cases NameType PasswordType parse files with decoded | ⟨before, file, after, rfl, decoded, cut⟩
    · obtain ⟨cache', holds, goes⟩ := refreshFiles_append decoded .empty
      have ends : refreshCache parse (some files) previous = (none, cache') := by
        have := goes []
        rwa [List.append_nil] at this
      refine iff_of_true ?_ fun before file after split _ cut => ?_
      · unfold AllOrNothing
        rw [ends]
        exact ⟨fun _ => ⟨files, rfl, holds⟩, fun thrown => absurd rfl thrown⟩
      · exact absurd cut (decoded file (by rw [Option.some.inj split]; simp))
    · obtain ⟨cache', holds, goes⟩ := refreshFiles_append decoded .empty
      obtain ⟨fault, failed⟩ := cut
      have ends : refreshCache parse (some (before ++ file :: after)) previous = (some fault, cache') := by
        refine (goes (file :: after)).trans ?_
        rw [refreshFiles, failed]
      unfold AllOrNothing
      rw [ends]
      constructor
      · rintro ⟨_, kept⟩ before' file' after' split decoded' cut'
        have same := first_split_unique decoded ⟨fault, failed⟩ decoded' cut' (Option.some.inj split)
        subst same
        intro name
        exact (kept nofun name).symm.trans (holds name)
      · intro held
        refine ⟨nofun, fun _ name => ?_⟩
        exact (holds name).trans (held before file after rfl decoded ⟨fault, failed⟩ name).symm

/-- The account `u`, cached. -/
def cachedAccount : ConsumerCache (.compactString MAILBOX_NAME_MAX_LEN) (.compactString PASSWORD_MAX_LEN) :=
  ConsumerCache.empty.insert accountU

/-- An account whose name has as many bytes as its `compact_string` has places. -/
def longDocument : Json :=
  .object
    [(ascii "name", .string (ascii "abcdefghijklmnopqrstuvwxyz012345")), (ascii "password", .string (ascii "p"))]

def longText : Bytes := ascii "\x7b\"name\":\"abcdefghijklmnopqrstuvwxyz012345\",\"password\":\"p\"\x7d"

/-- Its file ends the refresh in an exception, and the account `u` is not cached any more. -/
theorem refresh_loses_cache :
    refreshCache (parseText longText longDocument) (some [some longText]) cachedAccount =
        (some .outOfRange, .empty) ∧
      ¬ AllOrNothing (parseText longText longDocument) (some [some longText]) cachedAccount := by
  have ends : refreshCache (parseText longText longDocument) (some [some longText]) cachedAccount =
      (some .outOfRange, .empty) := by
    have clean : cstr longText = longText := cstr_of_noNul (by decide)
    have parsed : parseText longText longDocument (cstr longText) = some longDocument := by
      rw [clean]
      exact if_pos rfl
    rw [refreshCache, refreshFiles, ConsumerInfo.DeserializeFromFile, ConsumerInfo.Deserialize, parsed]
    rfl
  refine ⟨ends, fun allOrNothing => ?_⟩
  have kept := allOrNothing.2
  rw [ends] at kept
  have lost := kept nofun accountU.name
  cases lost

end Pop3Serv.Mail
