import Pop3Serv.Logic.LexicalPath
import Pop3Serv.Logic.Pieces
import Pop3Serv.Mail.Login
import Pop3Serv.Mail.Marks

/-!
# The directory of a default mailbox

For a storage description without a path `FileSystemStorageFactory::create` appends the
user name to the mail root, and the name is whatever the client sent and the manager
accepted. The system opens the C string of that path. A name that is one component of
a path gets a directory of its own there; `..`, `/x`, the empty name and `u/` beside `u`
do not, and nothing rejects them.
-/

namespace Pop3Serv.Mail
open Logic LexicalPath

def dotName : Bytes := ascii "."

def dotDotName : Bytes := ascii ".."

/-- The components of a path, in order. -/
def pathComponents (path : Path) : List Bytes := solidPieces (· = slash) path

/-- `path::lexically_normal`, up to a separator at the end. -/
def lexicallyNormal (path : Path) : LexicalPath Bytes where
  rooted := path.head? = some slash
  components := resolve dotName dotDotName (path.head? = some slash) [] (pathComponents path)

/-- The directory the system opens: it is given the path as a C string. -/
def openedDirectory (path : Path) : LexicalPath Bytes := lexicallyNormal (cstr path)

/-- The manager accepts the name and describes a directory storage without a path for it. -/
def DefaultStorage (auth : AuthorizationManager) (name : Bytes) (info : MailStorageInfo) : Prop :=
  auth.verifyName name = .ok true ∧
    (∃ vec, auth.getMailStoragesAssociatedWithConsumer name = .ok vec ∧ info ∈ vec) ∧
    info.storageType = .FileSystemMailStorage ∧ optionPath info.options [] = .ok []

/-- Every default mailbox is a directory in the mail root, and no two names have the same. -/
structure PrivateMailboxes (auth : AuthorizationManager) (defaultPath : Path) : Prop where
  contained : ∀ name info path, DefaultStorage auth name info →
    storagePath defaultPath info name = .ok path →
    IsChild dotDotName (lexicallyNormal defaultPath) (openedDirectory path)
  alone : ∀ name name' info info' path path', DefaultStorage auth name info →
    DefaultStorage auth name' info' → storagePath defaultPath info name = .ok path →
    storagePath defaultPath info' name' = .ok path' → openedDirectory path = openedDirectory path' →
    name = name'

/-- The one component that a name comes to, when `.` and `..` in it are resolved. -/
def soleComponent (name : Bytes) : Option Bytes :=
  if name.head? = some slash then none
  else
    match resolve dotName dotDotName false [] (pathComponents (cstr name)) with
    | [component] => if component = dotDotName then none else some component
    | _ => none

theorem soleComponent_eq_some_iff {name component : Bytes} :
    soleComponent name = some component ↔ name.head? ≠ some slash ∧ component ≠ dotDotName ∧
      resolve dotName dotDotName false [] (pathComponents (cstr name)) = [component] := by
  unfold soleComponent
  constructor
  · intro sole
    split at sole
    · cases sole
    · rename_i relative
      split at sole
      · rename_i other resolved
        split at sole
        · cases sole
        · rename_i name
          cases sole
          exact ⟨relative, name, resolved⟩
      · cases sole
  · rintro ⟨relative, name, resolved⟩
    rw [if_neg relative, resolved]
    exact if_neg name

theorem head_cstr (bytes : Bytes) : (cstr bytes).head? = some slash ↔ bytes.head? = some slash := by
  cases bytes with
  | nil => rfl
  | cons byte bytes =>
    unfold cstr
    rw [List.takeWhile_cons]
    split
    · rfl
    · rename_i nul
      have nul : byte = 0 := by simpa using nul
      simp [nul, slash]

theorem cstr_append_of_noNul {a : Bytes} (clean : (0 : UInt8) ∉ a) (b : Bytes) : cstr (a ++ b) = a ++ cstr b := by
  unfold cstr
  apply List.takeWhile_append_of_pos
  intro byte member
  have differ : byte ≠ 0 := fun nul => clean (nul ▸ member)
  simpa using differ

/-- Only what follows the first NUL of the name is lost when the path is handed over. -/
theorem cstr_append {defaultPath : Path} (clean : (0 : UInt8) ∉ defaultPath) (name : Bytes) :
    cstr (Path.append defaultPath name) = Path.append defaultPath (cstr name) := by
  have separated : (0 : UInt8) ∉ defaultPath ++ [slash] := by
    rw [List.mem_append]
    rintro (member | member)
    · exact clean member
    · exact absurd (List.mem_singleton.mp member) (by decide)
  unfold Path.append
  by_cases absolute : name.head? = some slash
  · rw [if_pos absolute, if_pos ((head_cstr name).mpr absolute)]
  · rw [if_neg absolute, if_neg (mt (head_cstr name).mp absolute)]
    split
    · exact cstr_append_of_noNul clean name
    · exact cstr_append_of_noNul separated name

theorem head_append {defaultPath : Path} {name : Bytes} (relative : name.head? ≠ some slash) :
    (Path.append defaultPath name).head? = some slash ↔ defaultPath.head? = some slash := by
  unfold Path.append
  rw [if_neg relative]
  cases defaultPath with
  | nil => simpa using relative
  | cons byte defaultPath =>
    split <;> simp

theorem pathComponents_slash (a b : Path) :
    pathComponents (a ++ slash :: b) = pathComponents a ++ pathComponents b :=
  solidPieces_append_cut (by simp) a b

theorem pathComponents_append {defaultPath : Path} {name : Bytes} (relative : name.head? ≠ some slash) :
    pathComponents (Path.append defaultPath name) = pathComponents defaultPath ++ pathComponents name := by
  unfold Path.append
  rw [if_neg relative]
  split
  · rename_i closed
    rcases closed with empty | ends
    · rw [List.isEmpty_iff.mp empty]
      rfl
    · obtain ⟨before, rfl⟩ := List.getLast?_eq_some_iff.mp ends
      rw [List.append_assoc, List.singleton_append, pathComponents_slash, pathComponents_slash before []]
      exact congrArg (· ++ _) (List.append_nil _).symm
  · rw [List.append_assoc, List.singleton_append, pathComponents_slash]

/-- **The directory of a name with one component** is that component in the mail root. -/
theorem openedDirectory_append {defaultPath : Path} (clean : (0 : UInt8) ∉ defaultPath)
    {name component : Bytes} (sole : soleComponent name = some component) :
    openedDirectory (Path.append defaultPath name) =
      { lexicallyNormal defaultPath with
        components := component :: (lexicallyNormal defaultPath).components } := by
  obtain ⟨relative, notUp, resolved⟩ := soleComponent_eq_some_iff.mp sole
  have relative := mt (head_cstr name).mp relative
  have inside : dotDotName ∉ resolve dotName dotDotName false [] (pathComponents (cstr name)) := by
    rw [resolved, List.mem_singleton]
    exact Ne.symm notUp
  unfold openedDirectory
  rw [cstr_append clean]
  unfold lexicallyNormal
  rw [pathComponents_append relative]
  simp only [head_append relative, LexicalPath.mk.injEq, true_and]
  have entered := resolve_append inside (decide (defaultPath.head? = some slash))
    (resolve dotName dotDotName (decide (defaultPath.head? = some slash)) [] (pathComponents defaultPath))
  rw [resolved] at entered
  rw [← List.singleton_append, ← entered]
  exact List.foldl_append

theorem storagePath_default {info : MailStorageInfo} (noPath : optionPath info.options [] = .ok [])
    (defaultPath : Path) (name : Bytes) :
    storagePath defaultPath info name = .ok (Path.append defaultPath name) := by
  unfold storagePath
  rw [noPath]
  rfl

theorem DefaultStorage.path_eq {auth : AuthorizationManager} {name : Bytes} {info : MailStorageInfo}
    (default : DefaultStorage auth name info) {defaultPath path : Path}
    (made : storagePath defaultPath info name = .ok path) : path = Path.append defaultPath name := by
  rw [storagePath_default default.2.2.2] at made
  exact (Except.ok.inj made).symm

/-- In an empty mail root the directory of a name is what the name comes to. -/
theorem soleComponent_of_contained {name : Bytes}
    (child : IsChild dotDotName (lexicallyNormal []) (openedDirectory (Path.append [] name))) :
    ∃ component, soleComponent name = some component := by
  have same : Path.append [] name = name := by
    unfold Path.append
    split <;> rfl
  rw [same] at child
  obtain ⟨rooted, component, notUp, components⟩ := child
  have relative : (cstr name).head? ≠ some slash := of_decide_eq_false rooted
  refine ⟨component, soleComponent_eq_some_iff.mpr ⟨mt (head_cstr name).mpr relative, notUp, ?_⟩⟩
  have resolved : resolve dotName dotDotName (decide ((cstr name).head? = some slash)) []
      (pathComponents (cstr name)) = [component] := components
  rw [decide_eq_false relative] at resolved
  exact resolved

/-- **Default mailboxes are private to their names**, in every mail root, exactly when each name the
manager accepts for one comes to a single component, and no two of them to the same. -/
theorem private_mailboxes_iff (auth : AuthorizationManager) :
    (∀ defaultPath, (0 : UInt8) ∉ defaultPath → PrivateMailboxes auth defaultPath) ↔
      (∀ name info, DefaultStorage auth name info → ∃ component, soleComponent name = some component) ∧
        ∀ name name' info info', DefaultStorage auth name info → DefaultStorage auth name' info' →
          soleComponent name = soleComponent name' → name = name' := by
  constructor
  · intro all
    have here := all [] List.not_mem_nil
    have single : ∀ name info, DefaultStorage auth name info →
        ∃ component, soleComponent name = some component := fun name info default =>
      soleComponent_of_contained (here.contained name info _ default (storagePath_default default.2.2.2 [] name))
    refine ⟨single, fun name name' info info' default default' same => ?_⟩
    obtain ⟨component, sole⟩ := single name info default
    apply here.alone name name' info info' _ _ default default' (storagePath_default default.2.2.2 [] name)
      (storagePath_default default'.2.2.2 [] name')
    rw [openedDirectory_append List.not_mem_nil sole, openedDirectory_append List.not_mem_nil (same ▸ sole)]
  · rintro ⟨single, apart⟩ defaultPath clean
    constructor
    · intro name info path default made
      obtain ⟨component, sole⟩ := single name info default
      rw [default.path_eq made, openedDirectory_append clean sole]
      exact ⟨rfl, component, (soleComponent_eq_some_iff.mp sole).2.1, rfl⟩
    · intro name name' info info' path path' default default' made made' same
      obtain ⟨component, sole⟩ := single name info default
      obtain ⟨component', sole'⟩ := single name' info' default'
      rw [default.path_eq made, default'.path_eq made', openedDirectory_append clean sole,
        openedDirectory_append clean sole', LexicalPath.mk.injEq, List.cons.injEq] at same
      apply apart name name' info info' default default'
      rw [sole, sole', same.2.1]

/-! ## Names -/

/-- A name that is one component of a path as it stands. -/
structure PlainName (name : Bytes) : Prop where
  nonempty : name ≠ []
  notDot : name ≠ dotName
  notDotDot : name ≠ dotDotName
  noSlash : slash ∉ name
  noNul : (0 : UInt8) ∉ name

theorem PlainName.soleComponent {name : Bytes} (plain : PlainName name) : soleComponent name = some name := by
  have piece : pathComponents (cstr name) = [name] := by
    have solid : ∀ byte ∈ name, decide (byte = slash) = false := fun byte member =>
      decide_eq_false fun same => plain.noSlash (same ▸ member)
    have run : solidPieces (· = slash) (name ++ []) = [name] :=
      solidPieces_run_append plain.nonempty solid nofun
    rw [cstr_of_noNul plain.noNul]
    rw [List.append_nil] at run
    exact run
  refine soleComponent_eq_some_iff.mpr ⟨fun absolute => ?_, plain.notDotDot, ?_⟩
  · exact plain.noSlash (List.mem_of_mem_head? absolute)
  · rw [piece, resolve_cons, enter_name plain.notDot plain.notDotDot]
    rfl

/-- Plain names are enough. -/
theorem private_mailboxes_of_plain {auth : AuthorizationManager}
    (plain : ∀ name info, DefaultStorage auth name info → PlainName name) {defaultPath : Path}
    (clean : (0 : UInt8) ∉ defaultPath) : PrivateMailboxes auth defaultPath := by
  apply (private_mailboxes_iff auth).mpr _ defaultPath clean
  refine ⟨fun name info default => ⟨name, (plain name info default).soleComponent⟩, ?_⟩
  intro name name' info info' default default' same
  rw [(plain name info default).soleComponent, (plain name' info' default').soleComponent] at same
  exact Option.some.inj same

/-- The manager that accepts every name describes a default mailbox for each. -/
theorem dummy_defaultStorage (name : Bytes) :
    DefaultStorage DummyAuthorizationManager name { storageType := .FileSystemMailStorage } :=
  ⟨rfl, ⟨_, rfl, List.mem_singleton.mpr rfl⟩, rfl, rfl⟩

/-- A name and the same name with a separator behind it have one mailbox under that manager, whatever
the mail root. -/
theorem dummy_not_private {defaultPath : Path} (clean : (0 : UInt8) ∉ defaultPath) :
    ¬ PrivateMailboxes DummyAuthorizationManager defaultPath := by
  intro privateMailboxes
  have plain : soleComponent (ascii "u") = some (ascii "u") := by decide
  have closed : soleComponent (ascii "u/") = some (ascii "u") := by decide
  have same := privateMailboxes.alone (ascii "u") (ascii "u/") _ _ _ _ (dummy_defaultStorage _) (dummy_defaultStorage _)
    (storagePath_default rfl defaultPath _) (storagePath_default rfl defaultPath _)
    (by rw [openedDirectory_append clean plain, openedDirectory_append clean closed])
  exact absurd same (by decide)

/-- A file system with one file, beside the mail root. -/
def besideTheRoot : FileSystem where
  file_size _ := some 1
  ifstream _ := some []
  pathExists _ := some true
  create_directory _ := some true
  regular_files path :=
    if path = ascii "/mail/../etc" then some [ascii "/mail/../etc/passwd"] else some []

/-- The name `../etc` logs in to `/etc`. -/
theorem dotDot_leaves_root :
    (∃ m, (connect DummyAuthorizationManager (ascii "/mail") besideTheRoot ⟨ascii "../etc", true⟩
        (ascii "../etc") (ascii "p")).1 = .ok (.mailbox m) ∧ m.files = [ascii "/mail/../etc/passwd"]) ∧
      openedDirectory (ascii "/mail/../etc") = ⟨true, [ascii "etc"]⟩ ∧
      ¬ PrivateMailboxes DummyAuthorizationManager (ascii "/mail") := by
  refine ⟨⟨_, rfl, by decide⟩, by decide, fun privateMailboxes => ?_⟩
  have child := privateMailboxes.contained (ascii "../etc") _ _ (dummy_defaultStorage _)
    (storagePath_default rfl (ascii "/mail") _)
  obtain ⟨_, component, _, components⟩ := child
  have lengths := congrArg List.length components
  rw [List.length_cons] at lengths
  exact absurd lengths (by decide)

end Pop3Serv.Mail
