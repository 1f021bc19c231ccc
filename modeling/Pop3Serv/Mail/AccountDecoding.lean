import Pop3Serv.Mail.AccountRoundTrip
import Pop3Serv.Mail.Lookups

/-!
# Decoding any account file

`ConsumerInfo::Deserialize` as a build with assertions runs it: a failed `assert`
stops it, as an exception or an access of RapidJSON outside its precondition does
(`Stopped`). Where it goes through it is the decoder of `AccountFile`
(`deserializeAsserted_ok`). It goes through exactly on the documents that have the
shape it takes for granted (`WellShaped`), and on those it looks no further into.
-/

namespace Pop3Serv.Mail

/-- What a run with assertions ends in when it does not return. -/
inductive Stopped where
  | fault (fault : Fault)
  | assertionFailed
  deriving DecidableEq, Repr

/-- `assert(condition)`. -/
def assertThat (condition : Bool) : Except Stopped Unit :=
  if condition then .ok () else .error .assertionFailed

/-- A call without assertions of its own. -/
def plainCall {α : Type} (value : Except Fault α) : Except Stopped α :=
  match value with
  | .ok a => .ok a
  | .error fault => .error (.fault fault)

/-- `MailStorageInfo::addOption` with its assertion. -/
def MailStorageInfo.addOptionAsserted (info : MailStorageInfo) (name : Bytes) (value : OptionValue) :
    Except Stopped MailStorageInfo := do
  assertThat (info.count < MAX_OPTIONS_COUNT)
  plainCall (info.addOption name value)

/-- One member in `MailStorageInfo::Deserialize`; the last branch is its `assert(false)`. -/
def MailStorageInfo.readMemberAsserted (info : MailStorageInfo) (member : Bytes × Json) :
    Except Stopped MailStorageInfo :=
  let membName := cstr member.1
  if membName = ascii "type" then do
    return { info with storageType := .ofCode (← plainCall member.2.GetUint) }
  else
    match member.2 with
    | .string s => info.addOptionAsserted membName (.string (cstr s))
    | .uint n => do info.addOptionAsserted membName (.uint (← plainCall (Json.uint n).GetUint))
    | .otherNumber => .error (.fault .jsonType)
    | _ => .error .assertionFailed

def MailStorageInfo.DeserializeAsserted (obj : Json) : Except Stopped MailStorageInfo := do
  (← plainCall obj.members).foldlM readMemberAsserted { storageType := .Undefined, count_le := Nat.zero_le _ }

/-- The value of a name or password member, with the `assert(obj[...].IsUint64())` before the check. -/
def KeyType.DeserializeAsserted (k : KeyType) (value : Json) : Except Stopped (Option k.Value) := do
  assertThat (k ≠ .hashed ∨ value matches .uint _)
  plainCall (k.Deserialize value)

def readStoragesAsserted (members : List (Bytes × Json)) : Except Stopped (List MailStorageInfo) :=
  match findMember members (ascii "storages") with
  | some (.array stores) => stores.mapM MailStorageInfo.DeserializeAsserted
  | _ => .ok []

variable {NameType PasswordType : KeyType}

/-- `ConsumerInfo::Deserialize(const rapidjson::Value&)` with its assertions. -/
def ConsumerInfo.ofDocumentAsserted (obj : Json) :
    Except Stopped (Option (ConsumerInfo NameType PasswordType)) := do
  let members ← plainCall obj.members
  match findMember members (ascii "name"), findMember members (ascii "password") with
  | some nameMember, some passwordMember =>
    match ← NameType.DeserializeAsserted nameMember with
    | none => return none
    | some name =>
      match ← PasswordType.DeserializeAsserted passwordMember with
      | none => return none
      | some password => return some { name, password, storages := ← readStoragesAsserted members }
  | _, _ => return none

/-- `ConsumerInfo::Deserialize(std::string_view)` with its assertions. -/
def ConsumerInfo.DeserializeAsserted (parse : Bytes → Option Json) (jsonString : Bytes) :
    Except Stopped (Option (ConsumerInfo NameType PasswordType)) :=
  match parse (cstr jsonString) with
  | some document => ofDocumentAsserted document
  | none => .ok none

/-! ## What the decoder takes for granted -/

/-- `IsUint`: an unsigned 32-bit number. -/
def Json.IsUint (value : Json) : Prop := ∃ n : UInt64, value = .uint n ∧ n.toNat < 2 ^ 32

def Json.IsString (value : Json) : Prop := ∃ s, value = .string s

/-- The member can be the name or the password of a record. -/
def KeyType.Reads : KeyType → Json → Prop
  | .compactString size, value => ∃ s, value = .string s ∧ (cstr s).length ≤ size - 1
  | .hashed, value => ∃ n, value = .uint n

/-- The member is an option of a storage, not its type. -/
def IsOption (member : Bytes × Json) : Bool := cstr member.1 ≠ ascii "type"

/-- A member of a storage: a type that is an unsigned number, or an option with a string or such a
number, under a name that fits. -/
def MemberShaped (member : Bytes × Json) : Prop :=
  if IsOption member then
    (member.2.IsString ∨ member.2.IsUint) ∧ (cstr member.1).length ≤ getMaximumOptionName declaredOptions - 1
  else member.2.IsUint

/-- A storage: an object of such members, of which no more are options than a record keeps. -/
def StorageShaped (storage : Json) : Prop :=
  ∃ members, storage = .object members ∧ (∀ member ∈ members, MemberShaped member) ∧
    members.countP IsOption ≤ MAX_OPTIONS_COUNT

/-- An account: an object, and if it has a name and a password, these can be read and so can the
storages, if they are an array. -/
def WellShaped (NameType PasswordType : KeyType) (document : Json) : Prop :=
  ∃ members, document = .object members ∧ ∀ nameMember passwordMember,
    findMember members (ascii "name") = some nameMember →
    findMember members (ascii "password") = some passwordMember →
      NameType.Reads nameMember ∧ PasswordType.Reads passwordMember ∧
        ∀ stores, findMember members (ascii "storages") = some (.array stores) →
          ∀ storage ∈ stores, StorageShaped storage

/-! ## The decoder goes through -/

/-- A run with assertions returned. -/
def Passes {α : Type} (value : Except Stopped α) : Prop := ∃ a, value = .ok a

theorem not_passes {α : Type} {stopped : Stopped} : ¬ Passes (.error stopped : Except Stopped α) := by
  rintro ⟨_, ⟨⟩⟩

theorem passes_bind {α β : Type} {value : Except Stopped α} {next : α → Except Stopped β} :
    Passes (value >>= next) ↔ ∃ a, value = .ok a ∧ Passes (next a) := by
  cases value with
  | error stopped => exact iff_of_false nofun nofun
  | ok a => exact ⟨fun later => ⟨a, rfl, later⟩, fun ⟨_, same, later⟩ => Except.ok.inj same ▸ later⟩

theorem passes_map {α β : Type} {value : Except Stopped α} (f : α → β) :
    Passes (value >>= fun a => pure (f a)) ↔ Passes value := by
  rw [passes_bind]
  exact ⟨fun ⟨a, made, _⟩ => ⟨a, made⟩, fun ⟨a, made⟩ => ⟨a, made, ⟨_, rfl⟩⟩⟩

theorem plainCall_ok {α : Type} {value : Except Fault α} {a : α} : plainCall value = .ok a ↔ value = .ok a := by
  cases value with
  | error fault => exact iff_of_false nofun nofun
  | ok b => exact ⟨fun h => congrArg Except.ok (Except.ok.inj h), fun h => congrArg Except.ok (Except.ok.inj h)⟩

theorem passes_plainCall {α : Type} {value : Except Fault α} : Passes (plainCall value) ↔ Returns value :=
  exists_congr fun _ => plainCall_ok

theorem assertThat_ok {condition : Bool} {u : Unit} : assertThat condition = .ok u ↔ condition = true := by
  cases condition with
  | true => exact iff_of_true rfl rfl
  | false => exact iff_of_false nofun nofun

theorem passes_assertThat_then {α : Type} {condition : Bool} {value : Except Stopped α} :
    Passes (assertThat condition >>= fun _ => value) ↔ condition = true ∧ Passes value := by
  rw [passes_bind]
  simp only [assertThat_ok, exists_const]

theorem passes_mapM {α β : Type} {f : α → Except Stopped β} {as : List α} :
    Passes (as.mapM f) ↔ ∀ a ∈ as, Passes (f a) := by
  induction as with
  | nil => exact iff_of_true ⟨[], rfl⟩ nofun
  | cons a as ih =>
    rw [List.mapM_cons, passes_bind, List.forall_mem_cons, ← ih]
    simp only [passes_map]
    exact exists_and_right

theorem returns_GetUint {value : Json} : Returns value.GetUint ↔ value.IsUint := by
  cases value with
  | uint n =>
    have own : (Json.uint n).IsUint ↔ n.toNat < 2 ^ 32 :=
      ⟨fun ⟨_, same, small⟩ => Json.uint.inj same ▸ small, fun small => ⟨n, rfl, small⟩⟩
    have asked : (Json.uint n).GetUint = if n.toNat < 2 ^ 32 then .ok n.toUInt32 else .error .jsonType := rfl
    rw [own, asked]
    split
    · rename_i small; exact iff_of_true ⟨_, rfl⟩ small
    · rename_i large; exact iff_of_false nofun large
  | _ => exact iff_of_false nofun nofun

theorem returns_ofView {size : Nat} {sv : Bytes} :
    Returns (CompactString.ofView size sv) ↔ sv.length ≤ size - 1 :=
  returns_convert (fun _ => 0) (k := .compactString size)

/-- An option is added where there is room for it and its name fits. -/
theorem passes_addOptionAsserted {info : MailStorageInfo} {name : Bytes} {value : OptionValue} :
    Passes (info.addOptionAsserted name value) ↔
      info.count < MAX_OPTIONS_COUNT ∧ name.length ≤ getMaximumOptionName declaredOptions - 1 := by
  unfold MailStorageInfo.addOptionAsserted
  rw [passes_assertThat_then, decide_eq_true_eq, passes_plainCall]
  refine and_congr_right fun free => ?_
  rw [← returns_ofView]
  have free : info.options.length < MAX_OPTIONS_COUNT := free
  unfold MailStorageInfo.addOption
  rw [dif_pos free]
  cases CompactString.ofView (getMaximumOptionName declaredOptions) name with
  | error fault => exact iff_of_false nofun nofun
  | ok kept => exact iff_of_true ⟨_, rfl⟩ ⟨_, rfl⟩

theorem addOptionAsserted_count {info info' : MailStorageInfo} {name : Bytes} {value : OptionValue}
    (h : info.addOptionAsserted name value = .ok info') : info'.count = info.count + 1 := by
  obtain ⟨free, fits⟩ := passes_addOptionAsserted.mp ⟨info', h⟩
  obtain ⟨kept, fits⟩ := returns_ofView.mpr fits
  obtain ⟨info'', added, _, options⟩ := @MailStorageInfo.addOption_ok info name value kept fits
  unfold MailStorageInfo.addOptionAsserted at h
  have asserted : assertThat (decide (info.count < MAX_OPTIONS_COUNT)) = .ok () :=
    assertThat_ok.mpr (decide_eq_true free)
  rw [asserted, added] at h
  cases h
  have free : info.options.length < MAX_OPTIONS_COUNT := free
  rw [MailStorageInfo.count, options, if_pos free, List.length_append]
  rfl

theorem passes_readMemberAsserted {info : MailStorageInfo} {member : Bytes × Json} :
    Passes (info.readMemberAsserted member) ↔
      MemberShaped member ∧ (IsOption member = true → info.count < MAX_OPTIONS_COUNT) := by
  obtain ⟨name, value⟩ := member
  unfold MailStorageInfo.readMemberAsserted MemberShaped
  by_cases isType : cstr name = ascii "type"
  · have noOption : IsOption (name, value) = false := by simp [IsOption, isType]
    simp only [if_pos isType, noOption, Bool.false_eq_true, if_false, false_implies, and_true]
    rw [passes_map, passes_plainCall, returns_GetUint]
  · have option : IsOption (name, value) = true := by simp [IsOption, isType]
    simp only [if_neg isType, option, if_true, true_implies]
    cases value with
    | string s =>
      have isString : Json.IsString (.string s) := ⟨s, rfl⟩
      simp only [passes_addOptionAsserted, isString, true_or, true_and]
      exact and_comm
    | uint n =>
      have noString : ¬ Json.IsString (.uint n) := by rintro ⟨_, ⟨⟩⟩
      simp only [noString, false_or, passes_bind, plainCall_ok, passes_addOptionAsserted, exists_and_right]
      rw [show (∃ u, (Json.uint n).GetUint = .ok u) ↔ (Json.uint n).IsUint from returns_GetUint, and_assoc]
      exact and_congr_right fun _ => and_comm
    | _ =>
      refine iff_of_false not_passes ?_
      rintro ⟨⟨⟨_, ⟨⟩⟩ | ⟨_, ⟨⟩, _⟩, _⟩, _⟩

theorem readMemberAsserted_count {info info' : MailStorageInfo} {member : Bytes × Json}
    (h : info.readMemberAsserted member = .ok info') :
    info'.count = info.count + if IsOption member = true then 1 else 0 := by
  obtain ⟨name, value⟩ := member
  unfold MailStorageInfo.readMemberAsserted at h
  by_cases isType : cstr name = ascii "type"
  · have noOption : IsOption (name, value) = false := by simp [IsOption, isType]
    simp only [if_pos isType] at h
    cases read : plainCall value.GetUint with
    | error stopped => rw [read] at h; cases h
    | ok n =>
      rw [read] at h
      cases h
      simp only [noOption]
      rfl
  · have option : IsOption (name, value) = true := by simp [IsOption, isType]
    simp only [if_neg isType] at h
    rw [if_pos option]
    cases value with
    | string s => exact addOptionAsserted_count h
    | uint n =>
      cases read : plainCall (Json.uint n).GetUint with
      | error stopped => simp only [read] at h; cases h
      | ok u =>
        simp only [read] at h
        exact addOptionAsserted_count h
    | _ => cases h

/-- **The members of a storage**, when some options have been read already. -/
theorem passes_readMembers {members : List (Bytes × Json)} {info : MailStorageInfo} :
    Passes (members.foldlM MailStorageInfo.readMemberAsserted info) ↔
      (∀ member ∈ members, MemberShaped member) ∧
        (info.count + members.countP IsOption ≤ MAX_OPTIONS_COUNT) := by
  induction members generalizing info with
  | nil => exact iff_of_true ⟨info, rfl⟩ ⟨nofun, info.count_le⟩
  | cons member members ih =>
    rw [List.foldlM_cons, passes_bind, List.forall_mem_cons, List.countP_cons]
    constructor
    · rintro ⟨info', first, later⟩
      obtain ⟨shaped, _⟩ := passes_readMemberAsserted.mp ⟨info', first⟩
      obtain ⟨rest, room⟩ := ih.mp later
      rw [readMemberAsserted_count first] at room
      exact ⟨⟨shaped, rest⟩, by omega⟩
    · rintro ⟨⟨shaped, rest⟩, room⟩
      obtain ⟨info', first⟩ := (@passes_readMemberAsserted info _).mpr
        ⟨shaped, fun option => by rw [if_pos option] at room; omega⟩
      refine ⟨info', first, ih.mpr ⟨rest, ?_⟩⟩
      rw [readMemberAsserted_count first]
      omega

/-- Only an object has members. -/
theorem members_ok {value : Json} {members : List (Bytes × Json)} :
    plainCall value.members = .ok members ↔ value = .object members := by
  rw [plainCall_ok]
  cases value with
  | object own =>
    constructor
    · exact fun h => congrArg Json.object (Except.ok.inj h)
    · exact fun h => congrArg Except.ok (Json.object.inj h)
  | _ => constructor <;> (intro h; cases h)

theorem passes_storage {storage : Json} :
    Passes (MailStorageInfo.DeserializeAsserted storage) ↔ StorageShaped storage := by
  unfold MailStorageInfo.DeserializeAsserted StorageShaped
  rw [passes_bind]
  refine exists_congr fun members => ?_
  rw [members_ok, passes_readMembers]
  have fresh : MailStorageInfo.count { storageType := .Undefined, count_le := Nat.zero_le _ } = 0 := rfl
  rw [fresh, Nat.zero_add]

theorem passes_key {k : KeyType} {value : Json} :
    Passes (k.DeserializeAsserted value) ↔ k.Reads value := by
  unfold KeyType.DeserializeAsserted
  rw [passes_assertThat_then, passes_plainCall]
  cases k with
  | hashed =>
    cases value with
    | uint n => exact iff_of_true ⟨rfl, _, rfl⟩ ⟨n, rfl⟩
    | _ => exact iff_of_false (fun h => nomatch h.1) nofun
  | compactString size =>
    cases value with
    | string s =>
      have read : Returns (KeyType.Deserialize (.compactString size) (.string s)) ↔
          Returns (CompactString.ofView size (cstr s)) := by
        show Returns (do return some (← CompactString.ofView size (cstr s))) ↔ _
        cases CompactString.ofView size (cstr s) with
        | error fault => exact iff_of_false nofun nofun
        | ok kept => exact iff_of_true ⟨_, rfl⟩ ⟨_, rfl⟩
      rw [read, returns_ofView]
      exact ⟨fun h => ⟨s, rfl, h.2⟩, fun ⟨_, same, fits⟩ => ⟨rfl, Json.string.inj same ▸ fits⟩⟩
    | _ => exact iff_of_false (fun h => nomatch h.2) nofun

/-- Past its assertion, a key is never missing. -/
theorem deserializeAsserted_some {k : KeyType} {value : Json} {key : Option k.Value}
    (h : k.DeserializeAsserted value = .ok key) : ∃ v, key = some v := by
  have reads := passes_key.mp ⟨key, h⟩
  unfold KeyType.DeserializeAsserted at h
  cases k with
  | hashed =>
    obtain ⟨n, rfl⟩ := reads
    cases h
    exact ⟨n, rfl⟩
  | compactString size =>
    obtain ⟨s, rfl, fits⟩ := reads
    obtain ⟨kept, made⟩ := returns_ofView.mpr fits
    have read : KeyType.Deserialize (.compactString size) (.string s) = .ok (some kept) := by
      show (do return some (← CompactString.ofView size (cstr s)) : Except Fault _) = _
      rw [made]
      rfl
    rw [read] at h
    cases h
    exact ⟨kept, rfl⟩

theorem passes_readStorages {members : List (Bytes × Json)} :
    Passes (readStoragesAsserted members) ↔
      ∀ stores, findMember members (ascii "storages") = some (.array stores) →
        ∀ storage ∈ stores, StorageShaped storage := by
  unfold readStoragesAsserted
  split
  · rename_i stores found
    simp only [found, Option.some.injEq, Json.array.injEq, forall_eq', passes_mapM, passes_storage]
  · rename_i noArray
    exact iff_of_true ⟨_, rfl⟩ fun stores found => absurd found (noArray stores)

/-- The rest of a record, once its name has been read. -/
theorem passes_key_then {α : Type} {k : KeyType} (value : Json) (missing : Except Stopped α)
    {next : k.Value → Except Stopped α} {C : Prop} (later : ∀ v, Passes (next v) ↔ C) :
    Passes (k.DeserializeAsserted value >>= fun key => key.elim missing next) ↔ k.Reads value ∧ C := by
  rw [passes_bind, ← passes_key]
  constructor
  · rintro ⟨key, read, goes⟩
    obtain ⟨v, rfl⟩ := deserializeAsserted_some read
    exact ⟨⟨_, read⟩, (later v).mp goes⟩
  · rintro ⟨⟨key, read⟩, met⟩
    obtain ⟨v, rfl⟩ := deserializeAsserted_some read
    exact ⟨some v, read, (later v).mpr met⟩

/-- **The decoder goes through** exactly on the documents that are well shaped. -/
theorem passes_ofDocument {document : Json} :
    Passes (ConsumerInfo.ofDocumentAsserted document :
        Except Stopped (Option (ConsumerInfo NameType PasswordType))) ↔
      WellShaped NameType PasswordType document := by
  unfold ConsumerInfo.ofDocumentAsserted WellShaped
  rw [passes_bind]
  refine exists_congr fun members => and_congr members_ok ?_
  cases name : findMember members (ascii "name") with
  | none => exact iff_of_true ⟨_, rfl⟩ nofun
  | some nameMember =>
    cases password : findMember members (ascii "password") with
    | none => exact iff_of_true ⟨_, rfl⟩ fun _ _ _ => nofun
    | some passwordMember =>
      have rest : ∀ (name : NameType.Value) (password : PasswordType.Value),
          Passes (readStoragesAsserted members >>= fun storages =>
            pure (some { name, password, storages } : Option (ConsumerInfo NameType PasswordType))) ↔
          Passes (readStoragesAsserted members) := fun name password => passes_map _
      have read := passes_key_then nameMember (pure none) fun name =>
        passes_key_then passwordMember (pure none) (rest name)
      rw [passes_readStorages] at read
      simp only [Option.some.injEq]
      refine Iff.trans ?_ (read.trans ?_)
      · refine iff_of_eq (congrArg Passes (bind_congr fun key => ?_))
        cases key with
        | none => rfl
        | some name =>
          refine bind_congr fun key => ?_
          cases key <;> rfl
      · exact ⟨fun h _ _ e e' => e ▸ e' ▸ h, fun h => h _ _ rfl rfl⟩

/-! ## With and without assertions -/

/-- Where the run with assertions returns, the one without returns the same. -/
def Agrees {α : Type} (asserted : Except Stopped α) (plain : Except Fault α) : Prop :=
  ∀ a, asserted = .ok a → plain = .ok a

theorem agrees_plainCall {α : Type} (value : Except Fault α) : Agrees (plainCall value) value :=
  fun _ => plainCall_ok.mp

theorem agrees_bind {α β : Type} {asserted : Except Stopped α} {plain : Except Fault α}
    {next : α → Except Stopped β} {next' : α → Except Fault β} (first : Agrees asserted plain)
    (later : ∀ a, Agrees (next a) (next' a)) : Agrees (asserted >>= next) (plain >>= next') := by
  intro b h
  cases made : asserted with
  | error stopped => rw [made] at h; cases h
  | ok a =>
    rw [made] at h
    rw [first a made]
    exact later a b h

theorem agrees_assertThat {α : Type} {condition : Bool} {asserted : Except Stopped α} {plain : Except Fault α}
    (same : Agrees asserted plain) : Agrees (assertThat condition >>= fun _ => asserted) plain := by
  intro a h
  cases condition with
  | true => exact same a h
  | false => cases h

theorem agrees_pure {α : Type} (a : α) : Agrees (pure a) (pure a) := fun _ h => by
  cases h
  rfl

theorem agrees_foldlM {α β : Type} {f : β → α → Except Stopped β} {g : β → α → Except Fault β}
    (each : ∀ b a, Agrees (f b a) (g b a)) (as : List α) (b : β) : Agrees (as.foldlM f b) (as.foldlM g b) := by
  induction as generalizing b with
  | nil => exact agrees_pure b
  | cons a as ih =>
    rw [List.foldlM_cons, List.foldlM_cons]
    exact agrees_bind (each b a) ih

theorem agrees_mapM {α β : Type} {f : α → Except Stopped β} {g : α → Except Fault β}
    (each : ∀ a, Agrees (f a) (g a)) (as : List α) : Agrees (as.mapM f) (as.mapM g) := by
  induction as with
  | nil => exact agrees_pure []
  | cons a as ih =>
    rw [List.mapM_cons, List.mapM_cons]
    exact agrees_bind (each a) fun _ => agrees_bind ih fun _ => agrees_pure _

theorem agrees_addOption (info : MailStorageInfo) (name : Bytes) (value : OptionValue) :
    Agrees (info.addOptionAsserted name value) (info.addOption name value) :=
  agrees_assertThat (agrees_plainCall _)

theorem agrees_readMember (info : MailStorageInfo) (member : Bytes × Json) :
    Agrees (info.readMemberAsserted member) (info.readMember member) := by
  obtain ⟨name, value⟩ := member
  unfold MailStorageInfo.readMemberAsserted MailStorageInfo.readMember
  by_cases isType : cstr name = ascii "type"
  · simp only [if_pos isType]
    exact agrees_bind (agrees_plainCall _) fun _ => agrees_pure _
  · simp only [if_neg isType]
    cases value with
    | string s => exact agrees_addOption _ _ _
    | uint n => exact agrees_bind (agrees_plainCall _) fun _ => agrees_addOption _ _ _
    | _ => exact nofun

theorem agrees_storage (storage : Json) :
    Agrees (MailStorageInfo.DeserializeAsserted storage) (MailStorageInfo.Deserialize storage) :=
  agrees_bind (agrees_plainCall _) fun members => agrees_foldlM agrees_readMember members _

theorem agrees_readStorages (members : List (Bytes × Json)) :
    Agrees (readStoragesAsserted members) (readStorages members) := by
  unfold readStoragesAsserted readStorages
  cases findMember members (ascii "storages") with
  | none => exact agrees_pure _
  | some value =>
    cases value with
    | array stores => exact agrees_mapM agrees_storage stores
    | _ => exact agrees_pure _

theorem agrees_ofDocument (document : Json) :
    Agrees (ConsumerInfo.ofDocumentAsserted document)
      (ConsumerInfo.ofDocument document : Except Fault (Option (ConsumerInfo NameType PasswordType))) := by
  refine agrees_bind (agrees_plainCall _) fun members => ?_
  cases findMember members (ascii "name") with
  | none => exact agrees_pure _
  | some nameMember =>
    cases findMember members (ascii "password") with
    | none => exact agrees_pure _
    | some passwordMember =>
      refine agrees_bind (agrees_assertThat (agrees_plainCall _)) fun key => ?_
      cases key with
      | none => exact agrees_pure _
      | some name =>
        refine agrees_bind (agrees_assertThat (agrees_plainCall _)) fun key => ?_
        cases key with
        | none => exact agrees_pure _
        | some password => exact agrees_bind (agrees_readStorages members) fun _ => agrees_pure _

/-- A run with assertions that returns has returned what the program without them does. -/
theorem deserializeAsserted_ok {parse : Bytes → Option Json} {jsonString : Bytes}
    {result : Option (ConsumerInfo NameType PasswordType)}
    (h : ConsumerInfo.DeserializeAsserted parse jsonString = .ok result) :
    ConsumerInfo.Deserialize parse jsonString = .ok result := by
  unfold ConsumerInfo.DeserializeAsserted at h
  unfold ConsumerInfo.Deserialize
  cases parsed : parse (cstr jsonString) with
  | none =>
    rw [parsed] at h
    cases h
    rfl
  | some document =>
    rw [parsed] at h
    exact agrees_ofDocument document result h

/-- **Decoding a text** of any kind as a record of any key types: it ends with a record or without
one, and no assertion, precondition or exception on the way, exactly if the document of the
text, if it has one, is well shaped. -/
theorem decoding_clean_iff (NameType PasswordType : KeyType) (parse : Bytes → Option Json) (jsonString : Bytes) :
    (∃ result : Option (ConsumerInfo NameType PasswordType),
      ConsumerInfo.DeserializeAsserted parse jsonString = .ok result ∧
        ConsumerInfo.Deserialize parse jsonString = .ok result) ↔
      ∀ document, parse (cstr jsonString) = some document → WellShaped NameType PasswordType document := by
  have passes : (∃ result : Option (ConsumerInfo NameType PasswordType),
      ConsumerInfo.DeserializeAsserted parse jsonString = .ok result ∧
        ConsumerInfo.Deserialize parse jsonString = .ok result) ↔
      Passes (ConsumerInfo.DeserializeAsserted parse jsonString :
        Except Stopped (Option (ConsumerInfo NameType PasswordType))) :=
    exists_congr fun result => and_iff_left_of_imp deserializeAsserted_ok
  rw [passes]
  unfold ConsumerInfo.DeserializeAsserted
  cases parse (cstr jsonString) with
  | none => exact iff_of_true ⟨_, rfl⟩ nofun
  | some document => simp only [passes_ofDocument, Option.some.injEq, forall_eq']

/-- A file that holds an empty array: `HasMember` is called on it. -/
theorem decoding_of_array :
    ¬ ∃ result : Option BothStringConsumerInfo,
      ConsumerInfo.DeserializeAsserted (fun text => if text = ascii "[]" then some (.array []) else none)
          (ascii "[]") = .ok result ∧
        ConsumerInfo.Deserialize (fun text => if text = ascii "[]" then some (.array []) else none)
          (ascii "[]") = .ok result := by
  rintro ⟨result, passed, _⟩
  cases passed

end Pop3Serv.Mail
