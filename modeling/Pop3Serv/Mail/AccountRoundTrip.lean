import Pop3Serv.Mail.AccountFile

/-!
# Reading an account file back

A record is written through C strings, and its options share an object with the
member `type`. So it is read back as it was exactly if nothing but NULs follows the
first NUL of its name, its password and its options, and no option is called
`type` (`Plain`). A key, an option and a list of options are taken in turn: each is
read back as something, which is the same exactly if it is plain.
-/

namespace Pop3Serv.Mail

/-- A throwing map returned: it did on every element. -/
theorem mapM_ok_iff {α β : Type} {f : α → Except Fault β} {as : List α} {bs : List β} :
    as.mapM f = .ok bs ↔ List.Forall₂ (fun a b => f a = .ok b) as bs := by
  induction as generalizing bs with
  | nil =>
    rw [List.mapM_nil, List.forall₂_nil_left_iff]
    exact ⟨fun h => (Except.ok.inj h).symm, fun h => h ▸ rfl⟩
  | cons a as ih =>
    rw [List.mapM_cons, List.forall₂_cons_left_iff]
    constructor
    · intro h
      obtain ⟨b, made, h⟩ := bind_ok h
      obtain ⟨bs', rest, h⟩ := bind_ok h
      exact ⟨b, bs', made, ih.mp rest, (Except.ok.inj h).symm⟩
    · rintro ⟨b, bs', made, rest, rfl⟩
      rw [made, ih.mpr rest]
      rfl

/-- A throwing map returns if it does on every element. -/
theorem mapM_returns {α β : Type} {f : α → Except Fault β} {as : List α}
    (each : ∀ a ∈ as, ∃ b, f a = .ok b) : ∃ bs, as.mapM f = .ok bs := by
  induction as with
  | nil => exact ⟨[], rfl⟩
  | cons a as ih =>
    obtain ⟨b, first⟩ := each a List.mem_cons_self
    obtain ⟨bs, rest⟩ := ih fun a later => each a (List.mem_cons_of_mem _ later)
    exact ⟨b :: bs, mapM_ok_iff.mpr (.cons first (mapM_ok_iff.mp rest))⟩

/-- What a throwing map returns is made from the elements. -/
theorem mapM_made {α β : Type} {f : α → Except Fault β} {as : List α} {bs : List β} (h : as.mapM f = .ok bs) :
    ∀ b ∈ bs, ∃ a ∈ as, f a = .ok b := by
  induction mapM_ok_iff.mp h with
  | nil => simp
  | cons first rest ih =>
    rw [List.forall_mem_cons]
    refine ⟨⟨_, List.mem_cons_self, first⟩, fun b later => ?_⟩
    obtain ⟨a, member, made⟩ := ih (mapM_ok_iff.mpr rest) b later
    exact ⟨a, List.mem_cons_of_mem _ member, made⟩

/-! ## Keys -/

/-- Nothing but NULs follows the first NUL. -/
def CompactString.Plain {size : Nat} (s : CompactString size) : Prop :=
  s.charArray = cstr s.charArray ++ List.replicate (size - (cstr s.charArray).length) 0

def KeyType.Plain : (k : KeyType) → k.Value → Prop
  | .compactString _, s => CompactString.Plain s
  | .hashed, _ => True

/-- The C string of a compact string fits a compact string, which is the same if it is plain. -/
theorem CompactString.Made.reread {size : Nat} {s : CompactString size} (made : s.Made) :
    ∃ t, ofView size (cstr s.charArray) = .ok t ∧ (t = s ↔ s.Plain) := by
  obtain ⟨sv, made⟩ := made
  have fits : (cstr s.charArray).length ≤ size - 1 := by
    have short : sv.length ≤ size - 1 := by
      unfold ofView at made
      split at made
      · assumption
      · cases made
    rw [cstr_charArray made]
    exact Nat.le_trans (length_cstr_le sv) short
  refine ⟨_, dif_pos fits, ?_⟩
  obtain ⟨charArray, size_eq⟩ := s
  rw [CompactString.mk.injEq]
  exact eq_comm

/-- **A key is read back** as one that is the same exactly if it is plain. -/
theorem KeyType.Made.reread {k : KeyType} {v : k.Value} (made : k.Made v) :
    ∃ w, k.Deserialize (k.Serialize v) = .ok (some w) ∧ (w = v ↔ k.Plain v) := by
  cases k with
  | compactString size =>
    obtain ⟨t, read, same⟩ := CompactString.Made.reread made
    refine ⟨t, ?_, same⟩
    show (do return some (← CompactString.ofView size (cstr (cstr v.charArray))) : Except Fault _) = _
    rw [cstr_cstr, read]
    rfl
  | hashed => exact ⟨v, rfl, iff_of_true rfl trivial⟩

/-! ## Options -/

/-- What an option of a record that was built can be. -/
structure StorageOption.Made (o : StorageOption) : Prop where
  name : o.name.Made
  value : o.value ≠ .monostate

/-- An option that the file keeps as it is. -/
structure StorageOption.Plain (o : StorageOption) : Prop where
  name : o.name.Plain
  notType : cstr o.name.charArray ≠ ascii "type"
  value : ∀ s, o.value = .string s → (0 : UInt8) ∉ s

/-- The value as a C string has it. -/
def OptionValue.cut : OptionValue → OptionValue
  | .string s => .string (cstr s)
  | value => value

theorem OptionValue.cut_eq_iff {value : OptionValue} :
    value.cut = value ↔ ∀ s, value = .string s → (0 : UInt8) ∉ s := by
  cases value with
  | monostate => exact iff_of_true rfl (by simp)
  | uint n => exact iff_of_true rfl (by simp)
  | string s =>
    simp only [cut, OptionValue.string.injEq, forall_eq']
    exact ⟨fun same => same ▸ nul_notMem_cstr s, cstr_of_noNul⟩

theorem Json.GetUint_toUInt64 (n : UInt32) : (Json.uint n.toUInt64).GetUint = .ok n := by
  have small : n.toUInt64.toNat < 2 ^ 32 := by
    rw [UInt32.toNat_toUInt64]
    exact n.toNat_lt
  show (if n.toUInt64.toNat < 2 ^ 32 then .ok n.toUInt64.toUInt32 else .error .jsonType : Except Fault UInt32) = _
  rw [if_pos small, UInt32.toUInt32_toUInt64]

namespace MailStorageInfo

theorem readMember_type {info : MailStorageInfo} {name : Bytes} (isType : cstr name = ascii "type")
    (value : Json) :
    info.readMember (name, value) = do return { info with storageType := .ofCode (← value.GetUint) } :=
  if_pos isType

theorem readMember_string {info : MailStorageInfo} {name : Bytes} (notType : cstr name ≠ ascii "type")
    (s : Bytes) : info.readMember (name, .string s) = info.addOption (cstr name) (.string (cstr s)) :=
  if_neg notType

theorem readMember_uint {info : MailStorageInfo} {name : Bytes} (notType : cstr name ≠ ascii "type")
    (n : UInt32) : info.readMember (name, .uint n.toUInt64) = info.addOption (cstr name) (.uint n) := by
  have other : info.readMember (name, .uint n.toUInt64) =
      (do info.addOption (cstr name) (.uint (← (Json.uint n.toUInt64).GetUint))) := if_neg notType
  rw [other, Json.GetUint_toUInt64]
  rfl

end MailStorageInfo

theorem MailStorageInfo.addOption_ok {info : MailStorageInfo} {name : Bytes} {value : OptionValue}
    {kept : OptionName} (fits : CompactString.ofView _ name = .ok kept) :
    ∃ info', info.addOption name value = .ok info' ∧ info'.storageType = info.storageType ∧
      info'.options = if info.options.length < MAX_OPTIONS_COUNT then info.options ++ [⟨kept, value⟩]
        else info.options := by
  unfold addOption
  by_cases free : info.options.length < MAX_OPTIONS_COUNT
  · rw [dif_pos free, if_pos free, fits]
    exact ⟨_, rfl, rfl, rfl⟩
  · rw [dif_neg free, if_neg free]
    exact ⟨info, rfl, rfl, rfl⟩

/-- No option changes, and at most one is added. -/
def MailStorageInfo.Grows (info info' : MailStorageInfo) : Prop :=
  info'.options = info.options ∨ ∃ o : StorageOption, o.Made ∧ info'.options = info.options ++ [o]

theorem MailStorageInfo.Grows.of_addOption {info info' : MailStorageInfo} {name : Bytes} {value : OptionValue}
    (filled : value ≠ .monostate) (h : info.addOption name value = .ok info') : info.Grows info' := by
  unfold addOption at h
  split at h
  · split at h
    · rename_i kept fits
      cases h
      exact .inr ⟨⟨kept, value⟩, ⟨⟨_, fits⟩, filled⟩, rfl⟩
    · cases h
  · cases h
    exact .inl rfl

theorem MailStorageInfo.Grows.of_readMember {info info' : MailStorageInfo} {member : Bytes × Json}
    (h : info.readMember member = .ok info') : info.Grows info' := by
  obtain ⟨name, value⟩ := member
  by_cases isType : cstr name = ascii "type"
  · rw [readMember_type isType] at h
    obtain ⟨n, _, h⟩ := bind_ok h
    cases h
    exact .inl rfl
  · unfold readMember at h
    simp only [if_neg isType] at h
    split at h
    · exact .of_addOption (by simp) h
    · obtain ⟨n, _, h⟩ := bind_ok h
      exact .of_addOption (by simp) h
    · cases h
    · cases h
      exact .inl rfl

/-- However the options come in, they can all be. -/
theorem MailStorageInfo.options_made {α : Type} {f : MailStorageInfo → α → Except Fault MailStorageInfo}
    (grows : ∀ {info a info'}, f info a = .ok info' → info.Grows info') {as : List α} {info info' : MailStorageInfo}
    (h : as.foldlM f info = .ok info') (made : ∀ o ∈ info.options, o.Made) : ∀ o ∈ info'.options, o.Made := by
  induction as generalizing info with
  | nil =>
    cases h
    exact made
  | cons a as ih =>
    rw [List.foldlM_cons] at h
    obtain ⟨info₁, first, rest⟩ := bind_ok h
    refine ih rest ?_
    rcases grows first with same | ⟨o, new, grown⟩
    · rw [same]
      exact made
    · rw [grown, List.forall_mem_append, List.forall_mem_singleton]
      exact ⟨made, new⟩

/-- An option not called `type` is read back as one that is the same exactly if it is plain. -/
theorem StorageOption.Made.reread {o : StorageOption} (made : o.Made)
    (notType : cstr o.name.charArray ≠ ascii "type") {member : Bytes × Json} (written : o.Serialize = .ok member) :
    ∃ o' : StorageOption, (o' = o ↔ o.Plain) ∧ ∀ info : MailStorageInfo, ∃ info',
      info.readMember member = .ok info' ∧ info'.storageType = info.storageType ∧
        info'.options = if info.options.length < MAX_OPTIONS_COUNT then info.options ++ [o'] else info.options := by
  obtain ⟨kept, fits, same⟩ := made.name.reread
  refine ⟨⟨kept, o.value.cut⟩, ?_, fun info => ?_⟩
  · obtain ⟨name, value⟩ := o
    rw [StorageOption.mk.injEq, same, OptionValue.cut_eq_iff]
    exact ⟨fun ⟨plain, uncut⟩ => ⟨plain, notType, uncut⟩, fun plain => ⟨plain.name, plain.value⟩⟩
  · have read : info.readMember member = info.addOption (cstr o.name.charArray) o.value.cut := by
      obtain ⟨name, value⟩ := o
      cases value with
      | monostate => cases written
      | uint n =>
        cases written
        rw [MailStorageInfo.readMember_uint (by rw [cstr_cstr]; exact notType), cstr_cstr]
        rfl
      | string s =>
        cases written
        rw [MailStorageInfo.readMember_string (by rw [cstr_cstr]; exact notType), cstr_cstr, cstr_cstr]
        rfl
    rw [read]
    exact MailStorageInfo.addOption_ok fits

/-- An option called `type` sets the storage's type, or cannot be read. -/
theorem StorageOption.reread_type {o : StorageOption} {member : Bytes × Json} (written : o.Serialize = .ok member)
    (isType : cstr o.name.charArray = ascii "type") (info : MailStorageInfo) :
    (∃ n, o.value = .uint n ∧ info.readMember member = .ok { info with storageType := .ofCode n }) ∨
      (∃ s, o.value = .string s) ∧ info.readMember member = .error .jsonType := by
  obtain ⟨name, value⟩ := o
  have again : cstr (cstr name.charArray) = ascii "type" := by rw [cstr_cstr]; exact isType
  cases value with
  | monostate => cases written
  | uint n =>
    cases written
    refine .inl ⟨n, rfl, ?_⟩
    rw [MailStorageInfo.readMember_type again, Json.GetUint_toUInt64]
    rfl
  | string s =>
    cases written
    refine .inr ⟨⟨s, rfl⟩, ?_⟩
    rw [MailStorageInfo.readMember_type again]
    rfl

/-! ## Storages -/

theorem MailStorageInfo.readMembers_grow {members : List (Bytes × Json)} {info info' : MailStorageInfo}
    (h : members.foldlM readMember info = .ok info') :
    info.options <+: info'.options ∧ info'.options.length ≤ info.options.length + members.length := by
  induction members generalizing info with
  | nil =>
    cases h
    exact ⟨List.prefix_refl _, by simp⟩
  | cons member members ih =>
    rw [List.foldlM_cons] at h
    obtain ⟨info₁, first, rest⟩ := bind_ok h
    obtain ⟨kept, bound⟩ := ih rest
    rw [List.length_cons]
    rcases Grows.of_readMember first with same | ⟨o, _, grown⟩
    · rw [same] at kept bound
      exact ⟨kept, by omega⟩
    · rw [grown] at kept bound
      rw [List.length_append, List.length_singleton] at bound
      exact ⟨(List.prefix_append _ _).trans kept, by omega⟩

/-- **The options of a storage are read back** as they were exactly if they are plain. -/
theorem MailStorageInfo.readMembers_iff {os : List StorageOption} {members : List (Bytes × Json)}
    (made : ∀ o ∈ os, o.Made) (written : List.Forall₂ (fun o member => o.Serialize = .ok member) os members)
    (info : MailStorageInfo) (room : info.options.length + os.length ≤ MAX_OPTIONS_COUNT) :
    (∃ info', members.foldlM readMember info = .ok info' ∧ info'.storageType = info.storageType ∧
      info'.options = info.options ++ os) ↔ ∀ o ∈ os, o.Plain := by
  induction written generalizing info with
  | nil => exact iff_of_true ⟨info, rfl, rfl, (List.append_nil _).symm⟩ (by simp)
  | @cons o member os members first rest ih =>
    have madeO := made o List.mem_cons_self
    have madeRest : ∀ o ∈ os, o.Made := fun o later => made o (List.mem_cons_of_mem _ later)
    rw [List.length_cons] at room
    simp only [List.forall_mem_cons, List.foldlM_cons]
    by_cases isType : cstr o.name.charArray = ascii "type"
    · -- this option is not read back as an option, so there is one too few
      refine iff_of_false ?_ fun plain => plain.1.notType isType
      rintro ⟨info', read, _, options⟩
      obtain ⟨info₁, read₁, read⟩ := bind_ok read
      have unchanged : info₁.options = info.options := by
        rcases StorageOption.reread_type first isType info with ⟨n, _, typed⟩ | ⟨_, failed⟩
        · cases typed.symm.trans read₁
          rfl
        · cases failed.symm.trans read₁
      have bound := (readMembers_grow read).2
      rw [options, unchanged, List.length_append, List.length_cons, rest.length_eq] at bound
      omega
    · obtain ⟨o', same, reread⟩ := madeO.reread isType first
      obtain ⟨info₁, read₁, type₁, options₁⟩ := reread info
      rw [if_pos (by omega)] at options₁
      have room₁ : info₁.options.length + os.length ≤ MAX_OPTIONS_COUNT := by
        rw [options₁, List.length_append, List.length_singleton]
        omega
      have goes := ih madeRest info₁ room₁
      rw [read₁]
      constructor
      · rintro ⟨info', read, type, options⟩
        have read : members.foldlM readMember info₁ = .ok info' := read
        have kept := (readMembers_grow read).1
        rw [options, options₁, List.prefix_append_right_inj] at kept
        have head : o' = o := (List.cons_prefix_cons.mp kept).1
        refine ⟨same.mp head, goes.mp ⟨info', read, type.trans type₁.symm, ?_⟩⟩
        rw [options, options₁, head]
        simp
      · rintro ⟨plain, plainRest⟩
        obtain ⟨info', read, type, options⟩ := goes.mpr plainRest
        refine ⟨info', read, type.trans type₁, ?_⟩
        rw [options, options₁, same.mpr plain]
        simp

theorem MailStorageInfo.eq_of_fields {a b : MailStorageInfo} (storageType : a.storageType = b.storageType)
    (options : a.options = b.options) : a = b := by
  obtain ⟨_, _, _⟩ := a
  obtain ⟨_, _, _⟩ := b
  cases storageType
  cases options
  rfl

/-- A storage is read back from its options on: its type comes first. -/
theorem MailStorageInfo.Deserialize_written {info : MailStorageInfo} {members : List (Bytes × Json)} :
    MailStorageInfo.Deserialize (.object ((ascii "type", .uint info.storageType.code.toUInt64) :: members)) =
      members.foldlM readMember { info with options := [], count_le := Nat.zero_le _ } := by
  show (((_, _) :: members).foldlM readMember { storageType := .Undefined, count_le := Nat.zero_le _ } :
    Except Fault MailStorageInfo) = _
  rw [List.foldlM_cons, readMember_type (by decide), Json.GetUint_toUInt64]
  show members.foldlM readMember { storageType := .ofCode info.storageType.code, count_le := _ } = _
  rw [StorageType.ofCode_code]

/-- **A storage is read back** as it was exactly if its options are plain. -/
theorem MailStorageInfo.reread_iff {info : MailStorageInfo} (made : ∀ o ∈ info.options, o.Made) {j : Json}
    (written : info.Serialize = .ok j) :
    MailStorageInfo.Deserialize j = .ok info ↔ ∀ o ∈ info.options, o.Plain := by
  obtain ⟨members, options, written⟩ := bind_ok written
  cases written
  rw [Deserialize_written, ← readMembers_iff made (mapM_ok_iff.mp options)
    { info with options := [], count_le := Nat.zero_le _ } (by simpa using info.count_le)]
  constructor
  · exact fun read => ⟨info, read, rfl, rfl⟩
  · rintro ⟨info', read, type, options⟩
    have same : info' = info := MailStorageInfo.eq_of_fields type options
    rw [read, same]

/-! ## Records -/

/-- What a record that was built can be. -/
structure ConsumerInfo.Made {NameType PasswordType : KeyType} (x : ConsumerInfo NameType PasswordType) : Prop where
  name : NameType.Made x.name
  password : PasswordType.Made x.password
  options : ∀ storage ∈ x.storages, ∀ o ∈ storage.options, o.Made

/-- A record that the file keeps as it is. -/
structure ConsumerInfo.Plain {NameType PasswordType : KeyType} (x : ConsumerInfo NameType PasswordType) :
    Prop where
  name : NameType.Plain x.name
  password : PasswordType.Plain x.password
  options : ∀ storage ∈ x.storages, ∀ o ∈ storage.options, o.Plain

variable {NameType PasswordType : KeyType} {x : ConsumerInfo NameType PasswordType}

theorem ConsumerInfo.Built.made (built : x.Built) : x.Made := by
  induction built with
  | construct name password madeName madePassword => exact ⟨madeName, madePassword, by simp⟩
  | @addStorage x y built type string_options numeric_options added ih =>
    obtain ⟨obj, strings, added⟩ := bind_ok added
    obtain ⟨obj', numbers, added⟩ := bind_ok added
    cases added
    refine ⟨ih.name, ih.password, fun storage member => ?_⟩
    rcases List.mem_append.mp member with old | new
    · exact ih.options storage old
    · rw [List.mem_singleton.mp new]
      refine MailStorageInfo.options_made (.of_addOption (by simp)) numbers ?_
      exact MailStorageInfo.options_made (.of_addOption (by simp)) strings (by simp)

theorem KeyType.Made.of_read {k : KeyType} {value : Json} {v : k.Value}
    (read : k.Deserialize value = .ok (some v)) : k.Made v := by
  cases k with
  | compactString size =>
    obtain ⟨text, _, read⟩ := bind_ok read
    obtain ⟨s, made, read⟩ := bind_ok read
    cases read
    exact ⟨text, made⟩
  | hashed => trivial

theorem readStorages_made {members : List (Bytes × Json)} {storages : List MailStorageInfo}
    (read : readStorages members = .ok storages) : ∀ storage ∈ storages, ∀ o ∈ storage.options, o.Made := by
  unfold readStorages at read
  split at read
  · rename_i stores _
    intro storage member
    obtain ⟨j, _, read⟩ := mapM_made read storage member
    obtain ⟨members, _, read⟩ := bind_ok read
    exact MailStorageInfo.options_made .of_readMember read (by simp)
  · cases read
    simp

/-- A record read from a file is like one that was built. -/
theorem ConsumerInfo.Made.of_read {obj : Json} (read : ofDocument obj = .ok (some x)) : x.Made := by
  obtain ⟨members, _, read⟩ := bind_ok read
  split at read
  · obtain ⟨name, nameRead, read⟩ := bind_ok read
    cases name with
    | none => cases read
    | some name =>
      obtain ⟨password, passwordRead, read⟩ := bind_ok read
      cases password with
      | none => cases read
      | some password =>
        obtain ⟨storages, storagesRead, read⟩ := bind_ok read
        cases read
        exact ⟨.of_read nameRead, .of_read passwordRead, readStorages_made storagesRead⟩
  · cases read

theorem StorageOption.Made.written {o : StorageOption} (made : o.Made) : ∃ member, o.Serialize = .ok member := by
  obtain ⟨name, value⟩ := o
  cases value with
  | monostate => exact absurd rfl made.value
  | uint n => exact ⟨_, rfl⟩
  | string s => exact ⟨_, rfl⟩

/-- A record that was built can be written. -/
theorem ConsumerInfo.Made.written (made : x.Made) : ∃ document, x.document = .ok document := by
  obtain ⟨storages, written⟩ : ∃ storages, x.storages.mapM (·.Serialize) = .ok storages := by
    refine mapM_returns fun storage member => ?_
    obtain ⟨options, written⟩ := mapM_returns fun o own => (made.options storage member o own).written
    exact ⟨_, by rw [MailStorageInfo.Serialize, written]; rfl⟩
  exact ⟨_, by rw [document, written]; rfl⟩

theorem ConsumerInfo.ofDocument_keys {members : List (Bytes × Json)} {nameMember passwordMember : Json}
    {name : NameType.Value} {password : PasswordType.Value}
    (nameFound : findMember members (ascii "name") = some nameMember)
    (passwordFound : findMember members (ascii "password") = some passwordMember)
    (nameRead : NameType.Deserialize nameMember = .ok (some name))
    (passwordRead : PasswordType.Deserialize passwordMember = .ok (some password)) :
    ofDocument (.object members) = (do return some (ConsumerInfo.mk name password (← readStorages members))) := by
  have object : (Json.object members).members = .ok members := rfl
  unfold ofDocument
  simp only [object, bind, Except.bind, nameFound, passwordFound, nameRead, passwordRead]

/-- What is read back of a record: its keys as they are read back, and its storages. -/
theorem ConsumerInfo.ofDocument_written {document : Json} {name : NameType.Value} {password : PasswordType.Value}
    (written : x.document = .ok document)
    (nameRead : NameType.Deserialize (NameType.Serialize x.name) = .ok (some name))
    (passwordRead : PasswordType.Deserialize (PasswordType.Serialize x.password) = .ok (some password)) :
    ∃ stores, x.storages.mapM (·.Serialize) = .ok stores ∧
      ofDocument document =
        (do return some (ConsumerInfo.mk name password (← stores.mapM MailStorageInfo.Deserialize))) := by
  obtain ⟨stores, storages, written⟩ := bind_ok written
  cases written
  refine ⟨stores, storages, ?_⟩
  exact ofDocument_keys rfl rfl nameRead passwordRead

theorem storages_reread_iff {infos : List MailStorageInfo} {stores : List Json}
    (made : ∀ storage ∈ infos, ∀ o ∈ storage.options, o.Made)
    (written : List.Forall₂ (fun storage j => storage.Serialize = .ok j) infos stores) :
    stores.mapM MailStorageInfo.Deserialize = .ok infos ↔
      ∀ storage ∈ infos, ∀ o ∈ storage.options, o.Plain := by
  rw [mapM_ok_iff]
  induction written with
  | nil => simp
  | cons first rest ih =>
    have madeRest := fun storage later => made storage (List.mem_cons_of_mem _ later)
    rw [List.forall₂_cons, List.forall_mem_cons, ih madeRest,
      MailStorageInfo.reread_iff (made _ List.mem_cons_self) first]

/-- **A record is read back** from its document as it was exactly if it is plain. -/
theorem ConsumerInfo.reread_iff (made : x.Made) {document : Json} (written : x.document = .ok document) :
    ofDocument document = .ok (some x) ↔ x.Plain := by
  obtain ⟨name, nameRead, sameName⟩ := made.name.reread
  obtain ⟨password, passwordRead, samePassword⟩ := made.password.reread
  obtain ⟨stores, storages, read⟩ := ofDocument_written written nameRead passwordRead
  have each := storages_reread_iff made.options (mapM_ok_iff.mp storages)
  rw [read]
  constructor
  · intro same
    obtain ⟨storages', again, same⟩ := bind_ok same
    cases same
    exact ⟨sameName.mp rfl, samePassword.mp rfl, each.mp again⟩
  · intro plain
    rw [each.mpr plain.options, sameName.mpr plain.name, samePassword.mpr plain.password]
    rfl

/-- What RapidJSON is taken to do with a document: its text has a character and no NUL, and is
parsed to the document. -/
structure RapidJSON (write : Json → Bytes) (parse : Bytes → Option Json) (document : Json) : Prop where
  nonempty : write document ≠ []
  noNul : (0 : UInt8) ∉ write document
  undoes : parse (write document) = some document

theorem ConsumerInfo.Deserialize_text {write : Json → Bytes} {parse : Bytes → Option Json} {document : Json}
    (rapid : RapidJSON write parse document) :
    Deserialize parse (cstr (write document)) =
      (ofDocument document : Except Fault (Option (ConsumerInfo NameType PasswordType))) := by
  unfold Deserialize
  rw [cstr_cstr, cstr_of_noNul rapid.noNul, rapid.undoes]

/-- **Account files round-trip** exactly for the plain records, among all that the constructors and
`addStorage` build, for every type of name and of password: those with nothing but NULs behind
the first NUL of the name, the password and each option name, no NUL in an option's
text, and no option called `type`. -/
theorem account_file_round_trip_iff {write : Json → Bytes} {parse : Bytes → Option Json} (built : x.Built)
    (rapid : ∀ document, x.document = .ok document → RapidJSON write parse document) :
    (x.Serialize write >>= ConsumerInfo.Deserialize parse) = .ok (some x) ↔ x.Plain := by
  obtain ⟨document, written⟩ := built.made.written
  rw [← ConsumerInfo.reread_iff built.made written, ← ConsumerInfo.Deserialize_text (rapid document written),
    ConsumerInfo.Serialize, written]
  exact Iff.rfl

/-- A user with a directory of his own. -/
def pathAccount : BothStringConsumerInfo where
  name := ⟨ascii "w" ++ List.replicate 31 0, rfl⟩
  password := ⟨ascii "k" ++ List.replicate 31 0, rfl⟩
  storages :=
    [{ storageType := .FileSystemMailStorage
       options := [⟨⟨ascii "path" ++ [0], rfl⟩, .string (ascii "/m")⟩]
       count_le := Nat.le_succ 1 }]

def pathDocument : Json :=
  .object
    [(ascii "name", .string (ascii "w")), (ascii "password", .string (ascii "k")),
      (ascii "storages", .array
        [.object [(ascii "type", .uint 1), (ascii "path", .string (ascii "/m"))]])]

/-- The file of that user. -/
def pathText : Bytes :=
  ascii "\x7b\"name\":\"w\",\"password\":\"k\",\"storages\":[\x7b\"type\":1,\"path\":\"/m\"\x7d]\x7d"

theorem pathAccount_built : pathAccount.Built :=
  .addStorage (.construct pathAccount.name pathAccount.password ⟨ascii "w", rfl⟩ ⟨ascii "k", rfl⟩)
    .FileSystemMailStorage [(ascii "path", ascii "/m")] [] rfl

theorem pathAccount_document : pathAccount.document = .ok pathDocument := rfl

theorem account_file_round_trip_path :
    (pathAccount.Serialize (fun _ => pathText) >>=
      ConsumerInfo.Deserialize fun text => if text = pathText then some pathDocument else none) =
        .ok (some pathAccount) := by
  refine (account_file_round_trip_iff pathAccount_built fun document same => ?_).mpr ⟨rfl, rfl, ?_⟩
  · cases pathAccount_document.symm.trans same
    exact ⟨by decide, by decide, if_pos rfl⟩
  · simp only [pathAccount, List.forall_mem_singleton]
    exact ⟨rfl, by decide, fun s same => by cases same; decide⟩

/-- A storage with the one option `type`, which is a number. -/
def typeAccount : BothNumericConsumerInfo where
  name := 1
  password := 2
  storages :=
    [{ storageType := .FileSystemMailStorage
       options := [⟨⟨ascii "type" ++ [0], rfl⟩, .uint 7⟩]
       count_le := Nat.le_succ 1 }]

def typeDocument : Json :=
  .object
    [(ascii "name", .uint 1), (ascii "password", .uint 2),
      (ascii "storages", .array [.object [(ascii "type", .uint 1), (ascii "type", .uint 7)]])]

def typeText : Bytes :=
  ascii "\x7b\"name\":1,\"password\":2,\"storages\":[\x7b\"type\":1,\"type\":7\x7d]\x7d"

/-- It is read back without that option, and of the storage type 7. -/
theorem type_option_lost :
    ∃ (write : Json → Bytes) (parse : Bytes → Option Json) (y : BothNumericConsumerInfo),
      typeAccount.Built ∧ typeAccount.document = .ok typeDocument ∧ RapidJSON write parse typeDocument ∧
      (typeAccount.Serialize write >>= ConsumerInfo.Deserialize parse) = .ok (some y) ∧ y ≠ typeAccount := by
  refine ⟨fun _ => typeText, fun text => if text = typeText then some typeDocument else none,
    ⟨1, 2, [{ storageType := .ofCode 7, count_le := Nat.zero_le _ }]⟩, ?_, rfl, ?_, ?_, ?_⟩
  · exact .addStorage (.construct 1 2 trivial trivial) .FileSystemMailStorage [] [(ascii "type", 7)] rfl
  · exact ⟨by decide, by decide, if_pos rfl⟩
  · rfl
  · intro same
    have storages := congrArg ConsumerInfo.storages same
    exact absurd (congrArg (·.map (·.options.length)) storages) (by decide)

end Pop3Serv.Mail
