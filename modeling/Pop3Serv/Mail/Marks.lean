import Pop3Serv.Mail.Mailbox
import Pop3Serv.Logic.Blocks

/-!
# The maildrop a mailbox stands for

`Mailbox.entries` is the abstract maildrop of a mailbox: its files in the order
they were numbered at login, each with its mark. `WellFormed` is the invariant of
the two ways a deletion is recorded, and under it every operation of the mailbox
is an operation on `entries`.
-/

namespace Pop3Serv.Mail
open Logic

/-- A file with its deletion mark. -/
abbrev Entry := Path × Bool

namespace FileSystemMailStorage

/-- The numbers recorded for deletion are positions of the storage, each recorded once. -/
structure WellFormed (s : FileSystemMailStorage) : Prop where
  nodup : s.emailsToBeDeleted.Nodup
  inRange : ∀ n ∈ s.emailsToBeDeleted, n < s.emails.length

/-- The files of a storage with their marks. -/
def entries (s : FileSystemMailStorage) : List Entry :=
  s.emails.zipIdx.map fun p => (p.1, s.isMailMarkedAsDeleted p.2)

@[simp] theorem length_entries (s : FileSystemMailStorage) : s.entries.length = s.emails.length := by
  simp [entries]

theorem entries_getElem? (s : FileSystemMailStorage) (i : Nat) :
    s.entries[i]? = s.emails[i]?.map fun p => (p, s.isMailMarkedAsDeleted i) := by
  simp only [entries, List.getElem?_map, List.getElem?_zipIdx, Option.map_map]
  cases s.emails[i]? <;> simp

theorem map_fst_entries (s : FileSystemMailStorage) : s.entries.map Prod.fst = s.emails := by
  apply List.ext_getElem?
  intro i
  rw [List.getElem?_map, entries_getElem?]
  cases s.emails[i]? <;> rfl

theorem map_snd_entries (s : FileSystemMailStorage) :
    s.entries.map Prod.snd = (List.range s.emails.length).map s.isMailMarkedAsDeleted := by
  have indices : s.emails.zipIdx.map Prod.snd = List.range s.emails.length := by
    simp [List.range_eq_range']
  rw [← indices, entries, List.map_map, List.map_map]
  rfl

/-- The files that are left, as positions. -/
theorem remaining_entries (s : FileSystemMailStorage) :
    remaining Prod.snd s.entries =
      (List.range s.emails.length).countP fun i => !s.isMailMarkedAsDeleted i := by
  have counted : remaining Prod.snd s.entries = (s.entries.map Prod.snd).countP (!·) := by
    rw [List.countP_map]
    rfl
  rw [counted, map_snd_entries, List.countP_map]
  rfl

theorem isMailMarkedAsDeleted_iff {s : FileSystemMailStorage} {n : Nat} :
    s.isMailMarkedAsDeleted n = true ↔ s.deleteAll = true ∨ n ∈ s.emailsToBeDeleted := by
  unfold isMailMarkedAsDeleted
  cases s.deleteAll <;> simp

theorem entries_deleteEmails (s : FileSystemMailStorage) :
    s.deleteEmails.entries = s.entries.map fun e => (e.1, true) := by
  simp [entries, deleteEmails, isMailMarkedAsDeleted]

theorem entries_reset (s : FileSystemMailStorage) :
    s.reset.entries = s.entries.map fun e => (e.1, false) := by
  simp [entries, reset, isMailMarkedAsDeleted]

/-- What `deleteEmail` does when it succeeds: it records one more position. -/
theorem deleteEmail_of_unmarked {s : FileSystemMailStorage} {n : Nat}
    (unmarked : s.isMailMarkedAsDeleted n = false) :
    s.deleteEmail n = ({ s with emailsToBeDeleted := s.emailsToBeDeleted ++ [n] }, .NoError) := by
  simp [deleteEmail, unmarked]

theorem deleteEmail_of_marked {s : FileSystemMailStorage} {n : Nat}
    (marked : s.isMailMarkedAsDeleted n = true) : s.deleteEmail n = (s, .EmailAlreadyDeleted) := by
  simp [deleteEmail, marked]

/-- An answer other than `NoError` leaves the storage as it was. -/
theorem deleteEmail_refused {s : FileSystemMailStorage} {n : Nat}
    (refused : (s.deleteEmail n).2 ≠ .NoError) : (s.deleteEmail n).1 = s := by
  unfold deleteEmail at refused ⊢
  split
  · rfl
  · rename_i unmarked
    rw [if_neg unmarked] at refused
    exact absurd rfl refused

/-- No call but the destructor's touches the list of files, and only `setUpdateFlag` the flag. -/
theorem deleteEmail_keeps (s : FileSystemMailStorage) (n : Nat) :
    (s.deleteEmail n).1.emails = s.emails ∧ (s.deleteEmail n).1.updateAtClose = s.updateAtClose := by
  unfold deleteEmail
  split <;> exact ⟨rfl, rfl⟩

theorem entries_deleteEmail {s : FileSystemMailStorage} {n : Nat} {p : Path}
    (unmarked : s.isMailMarkedAsDeleted n = false) (file : s.emails[n]? = some p) :
    (s.deleteEmail n).1.entries = s.entries.set n (p, true) := by
  rw [deleteEmail_of_unmarked unmarked]
  have byNumber : s.deleteAll = false := by
    by_contra all
    rw [isMailMarkedAsDeleted_iff.mpr (.inl (by simpa using all))] at unmarked
    cases unmarked
  have bound := (List.getElem?_eq_some_iff.mp file).1
  apply List.ext_getElem?
  intro i
  rw [entries_getElem?, List.getElem?_set]
  by_cases same : n = i
  · subst same
    simp [bound, isMailMarkedAsDeleted, (List.getElem?_eq_some_iff.mp file).2]
  · have differ : ¬ i = n := fun e => same e.symm
    rw [if_neg same, entries_getElem?]
    simp [isMailMarkedAsDeleted, byNumber, differ]

namespace WellFormed

variable {s : FileSystemMailStorage}

theorem deleteEmails (h : s.WellFormed) : s.deleteEmails.WellFormed := ⟨h.nodup, h.inRange⟩

theorem reset (s : FileSystemMailStorage) : s.reset.WellFormed := by
  constructor <;> simp [FileSystemMailStorage.reset]

theorem setUpdateFlag (h : s.WellFormed) : s.setUpdateFlag.WellFormed := ⟨h.nodup, h.inRange⟩

theorem deleteEmail (h : s.WellFormed) {n : Nat} (bound : n < s.emails.length) :
    (s.deleteEmail n).1.WellFormed := by
  cases marked : s.isMailMarkedAsDeleted n with
  | true => rw [deleteEmail_of_marked marked]; exact h
  | false =>
    rw [deleteEmail_of_unmarked marked]
    have fresh : n ∉ s.emailsToBeDeleted := fun member => by
      rw [isMailMarkedAsDeleted_iff.mpr (.inr member)] at marked
      cases marked
    refine ⟨?_, ?_⟩
    · simp only [List.nodup_append, List.nodup_cons, List.not_mem_nil, not_false_eq_true,
        List.nodup_nil, and_self, List.mem_singleton, forall_eq, true_and]
      exact ⟨h.nodup, fun a ha e => fresh (e ▸ ha)⟩
    · intro m hm
      rcases List.mem_append.mp hm with hm | hm
      · exact h.inRange m hm
      · rw [List.mem_singleton.mp hm]; exact bound

theorem length_le (h : s.WellFormed) : s.emailsToBeDeleted.length ≤ s.emails.length := by
  have sub : s.emailsToBeDeleted ⊆ List.range s.emails.length := fun n hn =>
    List.mem_range.mpr (h.inRange n hn)
  simpa using (h.nodup.subperm sub).length_le

/-- **The count is the number of unmarked files**: the subtraction does not wrap. -/
theorem getEmailsCount_eq (h : s.WellFormed) : s.getEmailsCount = remaining Prod.snd s.entries := by
  cases all : s.deleteAll with
  | true =>
    have every : ∀ e ∈ s.entries, e.2 = true := by
      intro e he
      obtain ⟨p, _, rfl⟩ := List.mem_map.mp he
      exact isMailMarkedAsDeleted_iff.mpr (.inl all)
    rw [remaining_eq_zero.mpr every]
    simp [getEmailsCount, all]
  | false =>
    have recorded : s.isMailMarkedAsDeleted = s.emailsToBeDeleted.contains := by
      funext i
      simp [isMailMarkedAsDeleted, all]
    rw [getEmailsCount, all, if_neg (by simp), sizeSub_of_le h.length_le, s.remaining_entries, recorded,
      countP_range_not_contains h.nodup h.inRange]

end WellFormed

end FileSystemMailStorage

/-- `findStorage` is the walk by what the storages count. -/
theorem findStorage_eq (storages : List FileSystemMailStorage) (position n : Nat) :
    findStorage storages position n =
      (locateBy FileSystemMailStorage.getEmailsCount storages n).map fun found =>
        (⟨position + found.1, found.2.1⟩, found.2.2) := by
  induction storages generalizing position n with
  | nil => rfl
  | cons s rest ih =>
    rw [findStorage, locateBy]
    split
    · rfl
    · rename_i past
      rw [sizeSub_of_le (Nat.le_of_not_lt past), ih]
      simp [Option.map_map, Function.comp_def, Nat.add_assoc, Nat.add_comm 1]

theorem findStorage_iff_located {storages : List FileSystemMailStorage} {n k r : Nat}
    {s : FileSystemMailStorage} :
    findStorage storages 0 n = some (⟨k, s⟩, r) ↔
      locateBy FileSystemMailStorage.getEmailsCount storages n = some (k, s, r) := by
  rw [findStorage_eq, Option.map_eq_some_iff]
  constructor
  · rintro ⟨⟨k', s', r'⟩, located, same⟩
    simp only [Nat.zero_add, Prod.mk.injEq, StorageIterator.mk.injEq] at same
    obtain ⟨⟨rfl, rfl⟩, rfl⟩ := same
    exact located
  · intro located
    exact ⟨(k, s, r), located, by simp⟩

namespace Mailbox

/-- The maildrop: every file with its mark, in the order of the numbers given at login. -/
def entries (m : Mailbox) : List Entry := (m.storages.map (·.entries)).flatten

/-- The concatenated storages. -/
def files (m : Mailbox) : List Path := (m.storages.map (·.emails)).flatten

def WellFormed (m : Mailbox) : Prop := ∀ s ∈ m.storages, s.WellFormed

/-- The file with login number `n` is marked deleted. -/
def marked (m : Mailbox) (n : Nat) : Bool := (m.entries[n]?.map Prod.snd).getD false

/-- The login number of the file that a lookup by `n` falls on. -/
def denotes (m : Mailbox) (n : Nat) : Option Nat :=
  (locateBy FileSystemMailStorage.getEmailsCount m.storages n).map fun found =>
    offsetOf List.length (m.storages.map (·.entries)) found.1 + found.2.2

theorem map_fst_entries (m : Mailbox) : m.entries.map Prod.fst = m.files := by
  rw [entries, files, List.map_flatten, List.map_map]
  congr 1
  exact List.map_congr_left fun s _ => s.map_fst_entries

theorem length_entries (m : Mailbox) : m.entries.length = m.files.length := by
  rw [← m.map_fst_entries, List.length_map]

theorem files_getElem? (m : Mailbox) (n : Nat) : m.files[n]? = m.entries[n]?.map Prod.fst := by
  rw [← m.map_fst_entries, List.getElem?_map]

theorem marked_eq {m : Mailbox} {n : Nat} {e : Entry} (h : m.entries[n]? = some e) :
    m.marked n = e.2 := by
  simp [marked, h]

theorem getEmailsCount_sum (m : Mailbox) :
    m.getEmailsCount = (m.storages.map FileSystemMailStorage.getEmailsCount).sum := by
  rw [getEmailsCount, List.sum_eq_foldl, List.foldl_map]

/-- Under the invariant the mailbox counts the files that are not marked. -/
theorem WellFormed.getEmailsCount_eq {m : Mailbox} (wf : m.WellFormed) :
    m.getEmailsCount = remaining Prod.snd m.entries := by
  rw [getEmailsCount_sum, entries, remaining_flatten, List.map_map]
  congr 1
  exact List.map_congr_left fun s hs => (wf s hs).getEmailsCount_eq

theorem denotes_eq_none_iff {m : Mailbox} {n : Nat} : m.denotes n = none ↔ m.getEmailsCount ≤ n := by
  rw [denotes, Option.map_eq_none_iff, locateBy_eq_none_iff, getEmailsCount_sum]

/-- What a lookup falls on, in full: the storage, its position and the place in it. -/
structure Found (m : Mailbox) (n q k r : Nat) (s : FileSystemMailStorage) (p : Path) : Prop where
  storage : m.storages[k]? = some s
  walked : findStorage m.storages 0 n = some (⟨k, s⟩, r)
  file : s.emails[r]? = some p
  number : q = offsetOf List.length (m.storages.map (·.entries)) k + r
  entry : m.entries[q]? = some (p, s.isMailMarkedAsDeleted r)

theorem WellFormed.found {m : Mailbox} (wf : m.WellFormed) {n q : Nat} (h : m.denotes n = some q) :
    ∃ k r s p, m.Found n q k r s p := by
  obtain ⟨⟨k, s, r⟩, located, rfl⟩ := Option.map_eq_some_iff.mp h
  obtain ⟨block, below, _⟩ := locateBy_eq_some_iff.mp located
  have inside : r < s.emails.length := by
    have : remaining Prod.snd s.entries ≤ s.entries.length := remaining_le_length _
    rw [(wf s (List.mem_of_getElem? block)).getEmailsCount_eq] at below
    rw [s.length_entries] at this
    omega
  refine ⟨k, r, s, s.emails[r], block, findStorage_iff_located.mpr located,
    List.getElem?_eq_getElem inside, rfl, ?_⟩
  · have listed : (m.storages.map (·.entries))[k]? = some s.entries := by simp [block]
    rw [entries, flatten_getElem?_offsetOf listed (by simpa using inside), s.entries_getElem?,
      List.getElem?_eq_getElem inside]
    rfl

theorem walked_of_denotes_none {m : Mailbox} {n : Nat} (h : m.denotes n = none) :
    findStorage m.storages 0 n = none := by
  rw [findStorage_eq, Option.map_eq_none_iff]
  exact Option.map_eq_none_iff.mp h

namespace Found

variable {m : Mailbox} {n q k r : Nat} {s : FileSystemMailStorage} {p : Path}

/-- The place the walk ends at, as a place among the counts. -/
theorem located (h : m.Found n q k r s p) :
    locateBy FileSystemMailStorage.getEmailsCount m.storages n = some (k, s, r) :=
  findStorage_iff_located.mp h.walked

theorem below (h : m.Found n q k r s p) : r < s.getEmailsCount :=
  (locateBy_eq_some_iff.mp h.located).2.1

theorem entry_eq (h : m.Found n q k r s p) : s.entries[r]? = some (p, s.isMailMarkedAsDeleted r) := by
  rw [FileSystemMailStorage.entries_getElem?, h.file]
  rfl

theorem getEmailLength_marked (h : m.Found n q k r s p) (mark : m.marked q = true) (fs : FileSystem) :
    m.getEmailLength fs n = .ok (.error .MailIsMarkedAsDeleted) := by
  rw [marked_eq h.entry] at mark
  simp only at mark
  rw [getEmailLength, h.walked]
  simp [mark]

theorem getEmailLength_live (h : m.Found n q k r s p) (mark : m.marked q = false) (fs : FileSystem) :
    m.getEmailLength fs n = (filesystemCall (fs.file_size p)).map .ok := by
  rw [marked_eq h.entry] at mark
  simp only at mark
  have asked : s.getEmailLength fs r = filesystemCall (fs.file_size p) := by
    simp [FileSystemMailStorage.getEmailLength, FileSystemMailStorage.emailAt, h.file, bind, Except.bind]
  rw [getEmailLength, h.walked]
  simp only [mark, Bool.false_eq_true, if_false, asked]
  cases filesystemCall (fs.file_size p) <;> rfl

theorem getEmail_marked (h : m.Found n q k r s p) (mark : m.marked q = true) (fs : FileSystem) :
    m.getEmail fs n = .ok (.error .MailIsMarkedAsDeleted) := by
  rw [marked_eq h.entry] at mark
  simp only at mark
  rw [getEmail, h.walked]
  simp [FileSystemMailStorage.getEmail, mark]

theorem getEmail_live (h : m.Found n q k r s p) (mark : m.marked q = false) (fs : FileSystem) :
    m.getEmail fs n = FileSystemMailStorage.readEmail fs p := by
  rw [marked_eq h.entry] at mark
  simp only at mark
  rw [getEmail, h.walked]
  simp [FileSystemMailStorage.getEmail, mark, FileSystemMailStorage.emailAt, h.file]

theorem deleteEmail_marked (h : m.Found n q k r s p) (mark : m.marked q = true) :
    m.deleteEmail n = (m, .EmailAlreadyDeleted) := by
  rw [marked_eq h.entry] at mark
  simp only at mark
  rw [deleteEmail, h.walked]
  simp only [FileSystemMailStorage.deleteEmail_of_marked mark]
  obtain ⟨bound, same⟩ := List.getElem?_eq_some_iff.mp h.storage
  rw [← same, List.set_getElem_self bound]

theorem deleteEmail_live (h : m.Found n q k r s p) (mark : m.marked q = false) :
    m.deleteEmail n = ({ m with storages := m.storages.set k (s.deleteEmail r).1 }, .NoError) := by
  rw [marked_eq h.entry] at mark
  simp only at mark
  rw [deleteEmail, h.walked]
  simp only [FileSystemMailStorage.deleteEmail_of_unmarked mark]

/-- Marking the file found marks its entry of the maildrop and no other. -/
theorem deleteEmail_entries (h : m.Found n q k r s p) (mark : m.marked q = false) :
    (m.deleteEmail n).1.entries = m.entries.set q (p, true) := by
  rw [h.deleteEmail_live mark]
  rw [marked_eq h.entry] at mark
  have listed : (m.storages.map (·.entries))[k]? = some s.entries := by simp [h.storage]
  have inside : r < s.entries.length := by
    rw [s.length_entries]
    exact (List.getElem?_eq_some_iff.mp h.file).1
  rw [entries, List.map_set, FileSystemMailStorage.entries_deleteEmail mark h.file,
    flatten_set_offsetOf listed inside, ← h.number]
  rfl

end Found

/-- The three ways `deleteEmail` goes: nothing found, found but marked, and marked now. -/
theorem WellFormed.deleteEmail_cases {m : Mailbox} (wf : m.WellFormed) (n : Nat) :
    (m.denotes n = none ∧ m.deleteEmail n = (m, .EmailNotFound)) ∨
    (∃ q k r s p, m.Found n q k r s p ∧ m.denotes n = some q ∧ m.marked q = true ∧
      m.deleteEmail n = (m, .EmailAlreadyDeleted)) ∨
    (∃ q k r s p, m.Found n q k r s p ∧ m.denotes n = some q ∧ m.marked q = false ∧
      m.deleteEmail n = ({ m with storages := m.storages.set k (s.deleteEmail r).1 }, .NoError)) := by
  cases d : m.denotes n with
  | none => exact .inl ⟨rfl, by simp [deleteEmail, walked_of_denotes_none d]⟩
  | some q =>
    obtain ⟨k, r, s, p, found⟩ := wf.found d
    cases mark : m.marked q with
    | true => exact .inr (.inl ⟨q, k, r, s, p, found, rfl, mark, found.deleteEmail_marked mark⟩)
    | false => exact .inr (.inr ⟨q, k, r, s, p, found, rfl, mark, found.deleteEmail_live mark⟩)

/-- The same object: what a mailbox is constructed with and no call changes. -/
structure SameBox (m m' : Mailbox) : Prop where
  name : m'.name = m.name
  lock : m'.lock = m.lock
  emails : m'.storages.map (·.emails) = m.storages.map (·.emails)

theorem SameBox.refl (m : Mailbox) : SameBox m m := ⟨rfl, rfl, rfl⟩

theorem SameBox.trans {m m' m'' : Mailbox} (h : SameBox m m') (h' : SameBox m' m'') : SameBox m m'' :=
  ⟨h'.name.trans h.name, h'.lock.trans h.lock, h'.emails.trans h.emails⟩

theorem SameBox.files {m m' : Mailbox} (h : SameBox m m') : m'.files = m.files :=
  congrArg List.flatten h.emails

theorem SameBox.storages_ne_nil {m m' : Mailbox} (h : SameBox m m') (hasStorages : m.storages ≠ []) :
    m'.storages ≠ [] := by
  intro noStorages
  have emails := h.emails
  rw [noStorages] at emails
  exact hasStorages (List.map_eq_nil_iff.mp emails.symm)

/-- The storage a lookup finds, replaced by one with the same `f`, leaves every `f` as it was. -/
theorem map_set_same {α : Type*} {storages : List FileSystemMailStorage} {k : Nat}
    {s t : FileSystemMailStorage} (f : FileSystemMailStorage → α) (at_k : storages[k]? = some s)
    (same : f t = f s) : (storages.set k t).map f = storages.map f := by
  obtain ⟨bound, rfl⟩ := List.getElem?_eq_some_iff.mp at_k
  rw [List.map_set, same]
  apply List.ext_getElem?
  intro i
  rw [List.getElem?_set]
  split
  · rename_i here
    subst here
    simp [bound]
  · rfl

/-- Where the walk of `deleteEmail` ends: nowhere, or at a storage that is asked to mark a file. -/
theorem deleteEmail_asks (m : Mailbox) (n : Nat) :
    m.deleteEmail n = (m, .EmailNotFound) ∨ ∃ k s r, m.storages[k]? = some s ∧
      m.deleteEmail n = ({ m with storages := m.storages.set k (s.deleteEmail r).1 }, (s.deleteEmail r).2) := by
  rw [deleteEmail, findStorage_eq]
  cases located : locateBy FileSystemMailStorage.getEmailsCount m.storages n with
  | none => exact .inl rfl
  | some found =>
    obtain ⟨k, s, r⟩ := found
    refine .inr ⟨k, s, r, (locateBy_eq_some_iff.mp located).1, ?_⟩
    simp only [Option.map_some, Nat.zero_add]

/-- `deleteEmail` replaces at most one storage, by the same storage with more marks. -/
theorem deleteEmail_map {α : Type*} (f : FileSystemMailStorage → α)
    (keeps : ∀ s n, f (FileSystemMailStorage.deleteEmail s n).1 = f s) (m : Mailbox) (n : Nat) :
    (m.deleteEmail n).1.storages.map f = m.storages.map f := by
  rcases m.deleteEmail_asks n with same | ⟨k, s, r, block, same⟩
  · rw [same]
  · rw [same]
    exact map_set_same f block (keeps s r)

/-- An answer other than `NoError` leaves the mailbox as it was, wherever the walk through its
storages ended. -/
theorem deleteEmail_refused {m : Mailbox} {n : Nat} (refused : (m.deleteEmail n).2 ≠ .NoError) :
    (m.deleteEmail n).1 = m := by
  rcases m.deleteEmail_asks n with same | ⟨k, s, r, block, same⟩
  · rw [same]
  · rw [same] at refused ⊢
    have put_back := map_set_same id block rfl
    rw [List.map_id, List.map_id] at put_back
    rw [FileSystemMailStorage.deleteEmail_refused refused, put_back]

theorem sameBox_deleteEmail (m : Mailbox) (n : Nat) : SameBox m (m.deleteEmail n).1 := by
  refine ⟨?_, ?_, deleteEmail_map _ (fun s n => (s.deleteEmail_keeps n).1) m n⟩ <;>
    (unfold deleteEmail; split <;> rfl)

theorem sameBox_deleteEmails (m : Mailbox) : SameBox m m.deleteEmails :=
  ⟨rfl, rfl, by simp [deleteEmails, FileSystemMailStorage.deleteEmails, Function.comp_def]⟩

theorem sameBox_reset (m : Mailbox) : SameBox m m.reset :=
  ⟨rfl, rfl, by simp [reset, FileSystemMailStorage.reset, Function.comp_def]⟩

theorem sameBox_setUpdate (m : Mailbox) : SameBox m m.setUpdate :=
  ⟨rfl, rfl, by simp [setUpdate, FileSystemMailStorage.setUpdateFlag, Function.comp_def]⟩

theorem entries_deleteEmails (m : Mailbox) :
    m.deleteEmails.entries = m.entries.map fun e => (e.1, true) := by
  simp only [entries, deleteEmails, List.map_flatten, List.map_map]
  congr 1
  exact List.map_congr_left fun s _ => s.entries_deleteEmails

theorem entries_reset (m : Mailbox) : m.reset.entries = m.entries.map fun e => (e.1, false) := by
  simp only [entries, reset, List.map_flatten, List.map_map]
  congr 1
  exact List.map_congr_left fun s _ => s.entries_reset

theorem WellFormed.deleteEmails {m : Mailbox} (wf : m.WellFormed) : m.deleteEmails.WellFormed := by
  intro s hs
  obtain ⟨t, ht, rfl⟩ := List.mem_map.mp hs
  exact (wf t ht).deleteEmails

theorem WellFormed.reset (m : Mailbox) : m.reset.WellFormed := by
  intro s hs
  obtain ⟨t, _, rfl⟩ := List.mem_map.mp hs
  exact FileSystemMailStorage.WellFormed.reset t

theorem WellFormed.setUpdate {m : Mailbox} (wf : m.WellFormed) : m.setUpdate.WellFormed := by
  intro s hs
  obtain ⟨t, ht, rfl⟩ := List.mem_map.mp hs
  exact (wf t ht).setUpdateFlag

theorem WellFormed.deleteEmail {m : Mailbox} (wf : m.WellFormed) (n : Nat) :
    (m.deleteEmail n).1.WellFormed := by
  rcases wf.deleteEmail_cases n with ⟨_, same⟩ | ⟨_, _, _, _, _, _, _, _, same⟩ |
    ⟨_, k, r, s, p, found, _, _, step⟩
  · rw [same]; exact wf
  · rw [same]; exact wf
  · rw [step]
    intro t ht
    rcases List.mem_or_eq_of_mem_set ht with ht | rfl
    · exact wf t ht
    · exact (wf s (List.mem_of_getElem? found.storage)).deleteEmail
        (List.getElem?_eq_some_iff.mp found.file).1

end Mailbox

end Pop3Serv.Mail
