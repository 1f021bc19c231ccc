import Pop3Serv.Logic.SearchTree
import Pop3Serv.Mail.Accounts

/-!
# The account cache as an ordered set

`cachedConsumerInfos` is a `std::set` under `ConsumerInfoComparator`: its lookups descend by the
comparisons of `compact_string.h` and `ConsumerInfo.h`, not by equality of names. For every
shape of the tree and either sign of `char`, a storage over such a set does what the storage
over a list of records does, call after call (`set_storage_refines`).
-/

namespace Pop3Serv.Mail
open Logic

variable {NameType PasswordType : KeyType}

/-! ## Comparisons -/

/-- A `char` as a number. Whether it has a sign is up to the platform. -/
def charValue (signedChar : Bool) (c : UInt8) : Int := if signedChar then c.toInt8.toInt else c.toNat

theorem charValue_injective (signedChar : Bool) : Function.Injective (charValue signedChar) := by
  intro c c' same
  cases signedChar with
  | true => exact congrArg Int8.toUInt8 (Int8.toInt_inj.mp same)
  | false => exact UInt8.toNat_inj.mp (Int.ofNat_inj.mp same)

namespace CompactString
variable {size : Nat} (signedChar : Bool)

/-- `operator<` of `std::array`. -/
def less (left right : CompactString size) : Bool :=
  decide (left.charArray.map (charValue signedChar) < right.charArray.map (charValue signedChar))

def greater (left right : CompactString size) : Bool := right.less signedChar left

end CompactString

namespace KeyType

/-- `<` on names. -/
def less (signedChar : Bool) : (k : KeyType) → k.Value → k.Value → Bool
  | .compactString _, left, right => CompactString.less signedChar left right
  | .hashed, left, right => decide (left < right)

/-- `>` on names. -/
def greater (signedChar : Bool) : (k : KeyType) → k.Value → k.Value → Bool
  | .compactString _, left, right => CompactString.greater signedChar left right
  | .hashed, left, right => decide (left > right)

theorem greater_eq (signedChar : Bool) (k : KeyType) (left right : k.Value) :
    k.greater signedChar left right = k.less signedChar right left := by
  cases k <;> rfl

def Before (signedChar : Bool) (k : KeyType) (left right : k.Value) : Prop := k.less signedChar left right = true

instance (signedChar : Bool) (k : KeyType) : DecidableRel (k.Before signedChar) := fun _ _ => instDecidableEqBool _ _

/-- **Names are ordered strictly and totally**: names that are not less than each other are equal. -/
instance (signedChar : Bool) (k : KeyType) : IsStrictTotalOrder k.Value (k.Before signedChar) := by
  cases k with
  | compactString size =>
    have injective : Function.Injective fun s : CompactString size => s.charArray.map (charValue signedChar) := by
      rintro ⟨bytes, long⟩ ⟨bytes', long'⟩ same
      cases List.map_injective_iff.mpr (charValue_injective signedChar) same
      rfl
    let chars : KeyType.Before signedChar (.compactString size) ↪r ((· < ·) : List Int → List Int → Prop) :=
      { toFun := _, inj' := injective, map_rel_iff' := decide_eq_true_iff.symm }
    exact chars.isStrictTotalOrder
  | hashed =>
    let number : KeyType.Before signedChar .hashed ↪r ((· < ·) : Nat → Nat → Prop) :=
      { toFun := UInt64.toNat, inj' := fun _ _ => UInt64.toNat_inj.mp,
        map_rel_iff' := UInt64.lt_iff_toNat_lt.symm.trans decide_eq_true_iff.symm }
    exact number.isStrictTotalOrder

end KeyType

namespace ConsumerInfo
variable (signedChar : Bool) (left right : ConsumerInfo NameType PasswordType) (name : NameType.Value)

/-- `operator<(const ConsumerInfo<NameType, AnyPasswordType>&)`. -/
def less : Bool := NameType.less signedChar left.name right.name

/-- `operator<(const NameType&)`. -/
def lessName : Bool := NameType.less signedChar left.name name

/-- `operator>(const NameType&)`. -/
def greaterName : Bool := NameType.greater signedChar left.name name

end ConsumerInfo

/-- `ConsumerInfoComparator::operator()`, of two records. -/
def ConsumerInfoComparator.records (signedChar : Bool) (left right : ConsumerInfo NameType PasswordType) : Bool :=
  left.less signedChar right

/-- Of a record and a name. -/
def ConsumerInfoComparator.recordName (signedChar : Bool) (left : ConsumerInfo NameType PasswordType)
    (right : NameType.Value) : Bool := left.lessName signedChar right

/-- Of a name and a record. -/
def ConsumerInfoComparator.nameRecord (signedChar : Bool) (left : NameType.Value)
    (right : ConsumerInfo NameType PasswordType) : Bool := right.greaterName signedChar left

/-! ## The set -/

/-- `cachedConsumerInfos`. -/
structure ConsumerSet (signedChar : Bool) (NameType PasswordType : KeyType) where
  tree : BinaryTree (ConsumerInfo NameType PasswordType)
  sorted : SortedTree (NameType.Before signedChar) ConsumerInfo.name tree

namespace ConsumerSet
variable {signedChar : Bool}

def empty : ConsumerSet signedChar NameType PasswordType := ⟨.nil, List.Pairwise.nil⟩

/-- `find`. -/
def find (s : ConsumerSet signedChar NameType PasswordType) (userName : NameType.Value) :
    Option (ConsumerInfo NameType PasswordType) :=
  findTree (ConsumerInfoComparator.recordName signedChar · userName)
    (ConsumerInfoComparator.nameRecord signedChar userName) s.tree

theorem find_eq_some_iff {s : ConsumerSet signedChar NameType PasswordType} {userName : NameType.Value}
    {info : ConsumerInfo NameType PasswordType} :
    s.find userName = some info ↔ info ∈ inorder s.tree ∧ info.name = userName := by
  have before : (ConsumerInfoComparator.recordName signedChar · userName) =
      fun r : ConsumerInfo NameType PasswordType => decide (NameType.Before signedChar r.name userName) :=
    funext fun r => Bool.decide_eq_true.symm
  have after : ConsumerInfoComparator.nameRecord signedChar userName =
      fun r : ConsumerInfo NameType PasswordType => decide (NameType.Before signedChar userName r.name) :=
    funext fun r => (NameType.greater_eq signedChar r.name userName).trans Bool.decide_eq_true.symm
  rw [find, before, after]
  exact findTree_eq_some_iff s.sorted

/-- The record in the set that is equivalent to this one. -/
def equivalent (s : ConsumerSet signedChar NameType PasswordType) (info : ConsumerInfo NameType PasswordType) :
    Option (ConsumerInfo NameType PasswordType) :=
  findTree (ConsumerInfoComparator.records signedChar · info) (ConsumerInfoComparator.records signedChar info) s.tree

/-- The three comparisons agree: a record is looked up as its name is. -/
theorem equivalent_eq_find (s : ConsumerSet signedChar NameType PasswordType)
    (info : ConsumerInfo NameType PasswordType) : s.equivalent info = s.find info.name := by
  have after : ConsumerInfoComparator.records signedChar info =
      (ConsumerInfoComparator.nameRecord signedChar info.name : ConsumerInfo NameType PasswordType → Bool) :=
    funext fun r => (NameType.greater_eq signedChar r.name info.name).symm
  rw [equivalent, find, after]
  rfl

/-- An insertion puts in what has no equivalent in the set. -/
theorem sorted_insert (rotations : Rotations (ConsumerInfo NameType PasswordType))
    (s : ConsumerSet signedChar NameType PasswordType) {info : ConsumerInfo NameType PasswordType}
    (missing : s.equivalent info = none) :
    SortedTree (NameType.Before signedChar) ConsumerInfo.name
      (rotations.rotate (insertLeaf (ConsumerInfoComparator.records signedChar) info s.tree)) := by
  have less : ConsumerInfoComparator.records signedChar =
      fun r r' : ConsumerInfo NameType PasswordType => decide (NameType.Before signedChar r.name r'.name) :=
    funext fun r => funext fun r' => Bool.decide_eq_true.symm
  rw [less]
  refine (s.sorted.insertLeaf fun r member same => ?_).rotate rotations
  have found := find_eq_some_iff.mpr ⟨member, same⟩
  rw [← equivalent_eq_find, missing] at found
  cases found

/-- `insert`: what is there stays. -/
def insert (rotations : Rotations (ConsumerInfo NameType PasswordType))
    (s : ConsumerSet signedChar NameType PasswordType) (info : ConsumerInfo NameType PasswordType) :
    ConsumerSet signedChar NameType PasswordType :=
  match missing : s.equivalent info with
  | none =>
    ⟨rotations.rotate (insertLeaf (ConsumerInfoComparator.records signedChar) info s.tree),
      sorted_insert rotations s missing⟩
  | some _ => s

theorem mem_insert {rotations : Rotations (ConsumerInfo NameType PasswordType)}
    {s : ConsumerSet signedChar NameType PasswordType} {info r : ConsumerInfo NameType PasswordType} :
    r ∈ inorder (s.insert rotations info).tree ↔
      r ∈ inorder s.tree ∨ r = info ∧ s.find info.name = none := by
  rw [← equivalent_eq_find]
  unfold insert
  split
  · rename_i missing
    rw [rotations.inorder_rotate, mem_insertLeaf, missing, or_comm]
    simp
  · rename_i other found
    simp [found]

/-- `hasMailbox` looks for the end of the set. -/
def hasMailbox (s : ConsumerSet signedChar NameType PasswordType) (userName : NameType.Value) : Bool :=
  (s.find userName).isSome

/-- The set holds the records of the cache. -/
def Represents (s : ConsumerSet signedChar NameType PasswordType) (cache : ConsumerCache NameType PasswordType) :
    Prop :=
  ∀ r, r ∈ inorder s.tree ↔ r ∈ cache.cachedConsumerInfos

variable {s : ConsumerSet signedChar NameType PasswordType} {cache : ConsumerCache NameType PasswordType}

/-- **A lookup in the tree is one in the list.** -/
theorem Represents.find (h : s.Represents cache) (userName : NameType.Value) :
    s.find userName = cache.getConsumerInfo userName := by
  ext info
  rw [find_eq_some_iff, ConsumerCache.getConsumerInfo_eq_some_iff, h]

theorem Represents.hasMailbox (h : s.Represents cache) (userName : NameType.Value) :
    s.hasMailbox userName = cache.hasMailbox userName := congrArg Option.isSome (h.find userName)

theorem Represents.insert (h : s.Represents cache) (rotations : Rotations (ConsumerInfo NameType PasswordType))
    (info : ConsumerInfo NameType PasswordType) : (s.insert rotations info).Represents (cache.insert info) := by
  intro r
  rw [mem_insert, h.find, h]
  unfold ConsumerCache.insert
  split
  · rename_i missing
    simp [missing]
  · rename_i other found
    simp [found]

theorem represents_empty : (empty : ConsumerSet signedChar NameType PasswordType).Represents .empty := by
  intro r
  exact Iff.rfl

end ConsumerSet

/-! ## The storage -/

/-- `FileSystemConsumerInfoStorage` over the set. -/
structure SetStorage (signedChar : Bool) (NameType PasswordType : KeyType) where
  path_to_storage : Path
  cachedConsumerInfos : ConsumerSet signedChar NameType PasswordType
  disk : Disk

namespace SetStorage
variable {signedChar : Bool} (rotations : Rotations (ConsumerInfo NameType PasswordType))

/-- `addConsumerInfo`. -/
def addConsumerInfo (st : SetStorage signedChar NameType PasswordType) (write : Json → Bytes)
    (info : ConsumerInfo NameType PasswordType) : Except Fault Bool × SetStorage signedChar NameType PasswordType :=
  if (st.cachedConsumerInfos.find info.name).isSome then (.ok false, st)
  else
    let filepath := Path.append st.path_to_storage (NameType.filename info.name)
    let (result, disk) := info.SerializeToFile write st.disk filepath
    match result with
    | .ok true => (result, { st with cachedConsumerInfos := st.cachedConsumerInfos.insert rotations info, disk })
    | _ => (result, { st with disk })

/-- One file in the loop of `refresh`. -/
def readFile (parse : Bytes → Option Json) (cached : ConsumerSet signedChar NameType PasswordType) (content : Bytes) :
    Except Fault (ConsumerSet signedChar NameType PasswordType) := do
  match ← ConsumerInfo.Deserialize parse content with
  | some info => return cached.insert rotations info
  | none => return cached

/-- `refresh`. -/
def refresh (st : SetStorage signedChar NameType PasswordType) (parse : Bytes → Option Json) :
    Except Fault (SetStorage signedChar NameType PasswordType) :=
  if st.disk.directory (st.disk.resolve st.path_to_storage) then do
    let files := st.disk.regularFiles (st.disk.resolve st.path_to_storage)
    return { st with cachedConsumerInfos := ← files.foldlM (readFile rotations parse) .empty }
  else .error .filesystemError

/-- One call; `none` where it throws. -/
def step (write : Json → Bytes) (parse : Bytes → Option Json) (st : SetStorage signedChar NameType PasswordType) :
    AccountEvent NameType PasswordType → Option (SetStorage signedChar NameType PasswordType)
  | .add info =>
    match st.addConsumerInfo rotations write info with
    | (.ok _, after) => some after
    | (.error _, _) => none
  | .restart => (st.refresh rotations parse).toOption

/-- The two storages are at one place on one disk, with the same records cached. -/
structure Agrees (o : SetStorage signedChar NameType PasswordType)
    (st : FileSystemConsumerInfoStorage NameType PasswordType) : Prop where
  path : o.path_to_storage = st.path_to_storage
  disk : o.disk = st.disk
  cache : o.cachedConsumerInfos.Represents st.cache

variable {rotations} {o : SetStorage signedChar NameType PasswordType}
  {st : FileSystemConsumerInfoStorage NameType PasswordType} {write : Json → Bytes} {parse : Bytes → Option Json}

/-- An addition returns the same, and leaves the two alike. -/
theorem Agrees.addConsumerInfo (h : Agrees o st) (info : ConsumerInfo NameType PasswordType) :
    (o.addConsumerInfo rotations write info).1 = (st.addConsumerInfo write info).1 ∧
      Agrees (o.addConsumerInfo rotations write info).2 (st.addConsumerInfo write info).2 := by
  obtain ⟨path, cached, disk⟩ := o
  obtain ⟨rfl, rfl, cache⟩ := h
  unfold SetStorage.addConsumerInfo FileSystemConsumerInfoStorage.addConsumerInfo
  rw [show (cached.find info.name).isSome = st.cache.hasMailbox info.name from cache.hasMailbox info.name]
  split
  · exact ⟨rfl, rfl, rfl, cache⟩
  · simp only [FileSystemConsumerInfoStorage.filepath]
    generalize info.SerializeToFile write st.disk _ = written
    obtain ⟨result, disk⟩ := written
    cases result with
    | error fault => exact ⟨rfl, rfl, rfl, cache⟩
    | ok stored =>
      cases stored with
      | false => exact ⟨rfl, rfl, rfl, cache⟩
      | true => exact ⟨rfl, rfl, rfl, cache.insert rotations info⟩

/-- What is made of related results is related. -/
theorem rel_toOption_bind {α β γ δ : Type} {R : α → β → Prop} {S : γ → δ → Prop} {x : Except Fault α}
    {y : Except Fault β} {f : α → γ} {g : β → δ} (related : Option.Rel R x.toOption y.toOption)
    (lift : ∀ a b, R a b → S (f a) (g b)) :
    Option.Rel S (x >>= fun a => pure (f a)).toOption (y >>= fun b => pure (g b)).toOption := by
  cases x with
  | error fault =>
    cases y with
    | error fault' => exact .none
    | ok b => cases related
  | ok a =>
    cases y with
    | error fault' => cases related
    | ok b =>
      cases related with
      | some here => exact .some (lift a b here)

/-- The loop of a refresh, file by file. -/
theorem readFiles_related {cached : ConsumerSet signedChar NameType PasswordType}
    {cache : ConsumerCache NameType PasswordType} (h : cached.Represents cache) (files : List Bytes) :
    Option.Rel ConsumerSet.Represents (files.foldlM (readFile rotations parse) cached).toOption
      (files.foldlM (FileSystemConsumerInfoStorage.readFile parse) cache).toOption := by
  induction files generalizing cached cache with
  | nil => exact .some h
  | cons content files ih =>
    rw [List.foldlM_cons, List.foldlM_cons]
    unfold readFile FileSystemConsumerInfoStorage.readFile
    cases (ConsumerInfo.Deserialize parse content : Except Fault (Option (ConsumerInfo NameType PasswordType))) with
    | error fault => exact .none
    | ok result =>
      cases result with
      | none => exact ih h
      | some info => exact ih (h.insert rotations info)

theorem Agrees.step (h : Agrees o st) (e : AccountEvent NameType PasswordType) :
    Option.Rel Agrees (o.step rotations write parse e) (st.step write parse e) := by
  cases e with
  | add info =>
    obtain ⟨result, after⟩ : (o.addConsumerInfo rotations write info).1 = (st.addConsumerInfo write info).1 ∧
      Agrees (o.addConsumerInfo rotations write info).2 (st.addConsumerInfo write info).2 := h.addConsumerInfo info
    simp only [SetStorage.step, FileSystemConsumerInfoStorage.step]
    generalize o.addConsumerInfo rotations write info = added at result after ⊢
    generalize st.addConsumerInfo write info = added' at result after ⊢
    obtain ⟨returned, o'⟩ := added
    obtain ⟨returned', st'⟩ := added'
    cases result
    cases returned with
    | ok _ => exact .some after
    | error _ => exact .none
  | restart =>
    obtain ⟨path, cached, disk⟩ := o
    obtain ⟨rfl, rfl, cache⟩ := h
    show Option.Rel Agrees (SetStorage.refresh rotations _ parse).toOption
      (FileSystemConsumerInfoStorage.construct parse _ _).toOption
    unfold SetStorage.refresh FileSystemConsumerInfoStorage.construct FileSystemConsumerInfoStorage.refresh
    simp only [FileSystemConsumerInfoStorage.place]
    by_cases directory : st.disk.directory (st.disk.resolve st.path_to_storage) = true
    · simp only [directory, if_true]
      refine rel_toOption_bind (readFiles_related ConsumerSet.represents_empty _) fun set' cache' represents => ?_
      exact ⟨rfl, rfl, represents⟩
    · simp only [directory]
      exact .none

end SetStorage

/-- **The set does what the list does**, whatever the shape of its tree and the sign of `char`: over every run of
additions and restarts, with any file system and any outcome of the writes, the storage over the
set throws where the storage over the list does; and it leaves the same files, finds the same
record under every name and returns the same from the next addition. -/
theorem set_storage_refines (signedChar : Bool) (rotations : Rotations (ConsumerInfo NameType PasswordType))
    (write : Json → Bytes) (parse : Bytes → Option Json) (path : Path) (disk : Disk)
    (es : List (AccountEvent NameType PasswordType)) :
    Option.Rel (fun (o : SetStorage signedChar NameType PasswordType) st =>
        o.disk = st.disk ∧ (∀ userName, o.cachedConsumerInfos.find userName = st.cache.getConsumerInfo userName) ∧
        (∀ userName, o.cachedConsumerInfos.hasMailbox userName = st.cache.hasMailbox userName) ∧
        ∀ info, (o.addConsumerInfo rotations write info).1 = (st.addConsumerInfo write info).1)
      (exec (SetStorage.step rotations write parse) ⟨path, .empty, disk⟩ es)
      (exec (FileSystemConsumerInfoStorage.step write parse) ⟨path, .empty, disk⟩ es) := by
  have alike : Option.Rel SetStorage.Agrees
      (exec (SetStorage.step rotations write parse) ⟨path, (.empty : ConsumerSet signedChar _ _), disk⟩ es)
      (exec (FileSystemConsumerInfoStorage.step write parse) ⟨path, .empty, disk⟩ es) :=
    exec_related SetStorage.Agrees (fun _ _ e h => h.step e) ⟨rfl, rfl, ConsumerSet.represents_empty⟩ es
  generalize exec (SetStorage.step rotations write parse) _ es = o at alike ⊢
  generalize exec (FileSystemConsumerInfoStorage.step write parse) _ es = st at alike ⊢
  cases alike with
  | none => exact .none
  | some h => exact .some ⟨h.disk, h.cache.find, h.cache.hasMailbox, fun info => (h.addConsumerInfo info).1⟩

end Pop3Serv.Mail
