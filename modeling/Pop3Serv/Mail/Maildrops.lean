import Pop3Serv.Logic.Maildrop
import Pop3Serv.Mail.Commit
import Pop3Serv.Mail.Listing

/-!
# The maildrop behind a mailbox

`Mailbox.maildrop` forgets how files are spread over storages and how marks are
recorded. While the files keep their contents and the marked ones are the last, every
call of the mailbox is the command of that name on the maildrop.
-/

namespace Pop3Serv.Mail
open Logic

namespace Mailbox

/-- The maildrop a mailbox stands for, by the contents of its files. -/
def maildrop (contents : Path → Bytes) (m : Mailbox) : Maildrop Bytes :=
  m.entries.map fun e => (contents e.1, e.2)

/-- The file system has the files with these contents. -/
def Keeps (contents : Path → Bytes) (fs : FileSystem) (files : List Path) : Prop :=
  ∀ p ∈ files, fs.file_size p = some (contents p).length ∧ fs.ifstream p = some (contents p)

variable {contents : Path → Bytes} {fs : FileSystem} {m : Mailbox} {n : Nat}

theorem maildrop_getElem? (contents : Path → Bytes) (m : Mailbox) (n : Nat) :
    (m.maildrop contents)[n]? = m.entries[n]?.map fun e => (contents e.1, e.2) := List.getElem?_map ..

theorem map_fst_maildrop (contents : Path → Bytes) (m : Mailbox) :
    (m.maildrop contents).map Prod.fst = m.files.map contents := by
  rw [← map_fst_entries, maildrop, List.map_map, List.map_map]
  rfl

theorem maildrop_opened (contents : Path → Bytes) (name : Bytes) (directories : List (List Path))
    (lock : MailboxLock) :
    (opened name directories lock).maildrop contents = Maildrop.unmarked (directories.flatten.map contents) := by
  rw [← opened_files name directories lock, ← map_fst_entries, maildrop, Maildrop.unmarked, List.map_map,
    List.map_map]
  refine List.map_congr_left fun e he => ?_
  rw [opened_unmarked name directories lock e he]
  rfl

theorem WellFormed.count_maildrop (wf : m.WellFormed) : (m.maildrop contents).count = m.getEmailsCount := by
  rw [wf.getEmailsCount_eq, Maildrop.count, remaining, remaining, maildrop, List.countP_map]
  rfl

theorem Keeps.reads (keeps : Keeps contents fs m.files) : m.ReadsSucceed fs := fun p hp => by
  rw [(keeps p hp).1, (keeps p hp).2]
  exact ⟨rfl, rfl⟩

/-- The file of a message that is not marked. -/
theorem file_of_message {a : Bytes} (found : (m.maildrop contents).message? n = some a) :
    ∃ p, m.files[n]? = some p ∧ m.marked n = false ∧ contents p = a := by
  rw [Maildrop.message?_eq_some_iff, maildrop_getElem?, Option.map_eq_some_iff] at found
  obtain ⟨⟨p, mark⟩, place, same⟩ := found
  cases same
  refine ⟨p, ?_, marked_eq place, rfl⟩
  rw [files_getElem?, place]
  rfl

section Last
variable (wf : m.WellFormed) (last : GoneLast Prod.snd m.entries)
include wf last

/-- A number without a message is refused. -/
theorem WellFormed.refuses (missing : (m.maildrop contents).message? n = none) : m.Refuses n := by
  refine (wf.stable_iff.mpr last n).2 ?_
  rcases Nat.lt_or_ge n m.entries.length with inside | past
  · have place := List.getElem?_eq_getElem inside
    refine .inl ?_
    rw [marked_eq place]
    by_contra live
    have mark : m.entries[n].2 = false := by simpa using live
    have found : (m.maildrop contents).message? n = some (contents m.entries[n].1) := by
      rw [Maildrop.message?_eq_some_iff, maildrop_getElem?, place, ← mark]
      rfl
    cases missing.symm.trans found
  · exact .inr (m.length_entries ▸ past)

/-- The number of a message acts on its file. -/
theorem WellFormed.actsOn {a : Bytes} (found : (m.maildrop contents).message? n = some a) :
    ∃ p ∈ m.files, m.ActsOn n p ∧ contents p = a := by
  obtain ⟨p, file, live, content⟩ := file_of_message found
  exact ⟨p, List.mem_of_getElem? file, (wf.stable_iff.mpr last n).1 p file live, content⟩

theorem WellFormed.getEmailLength_message (keeps : Keeps contents fs m.files) {a : Bytes}
    (found : (m.maildrop contents).message? n = some a) : m.getEmailLength fs n = .ok (.ok a.length) := by
  obtain ⟨p, file, acts, content⟩ := wf.actsOn last found
  rw [acts.length fs, (keeps p file).1, content]
  rfl

theorem WellFormed.getEmail_message (keeps : Keeps contents fs m.files) {a : Bytes}
    (found : (m.maildrop contents).message? n = some a) : m.getEmail fs n = .ok (.ok a) := by
  obtain ⟨p, file, acts, content⟩ := wf.actsOn last found
  rw [acts.content fs, FileSystemMailStorage.readEmail, (keeps p file).1, (keeps p file).2, content]

theorem WellFormed.deleteEmail_message {a : Bytes} (found : (m.maildrop contents).message? n = some a) :
    (m.deleteEmail n).2 = .NoError ∧
      (m.deleteEmail n).1.maildrop contents = (m.maildrop contents).mark n := by
  obtain ⟨p, _, acts, content⟩ := wf.actsOn last found
  refine ⟨acts.answer, ?_⟩
  rw [Maildrop.mark_eq_set (Maildrop.message?_eq_some_iff.mp found), maildrop, acts.delete, List.map_set, content]
  rfl

/-- **The listing** of the mailbox is that of the maildrop. -/
theorem WellFormed.getEmailsLengths_listing (keeps : Keeps contents fs m.files) :
    ∃ lengths, m.getEmailsLengths fs = .ok lengths ∧
      lengths.toList = (m.maildrop contents).listing List.length := by
  have perStorage : ∀ s ∈ m.storages, GoneLast Prod.snd s.entries := fun s hs =>
    (List.pairwise_flatten.mp last).1 _ (List.mem_map_of_mem hs)
  obtain ⟨lengths, agrees⟩ := wf.listAgrees_of_goneLast keeps.reads perStorage
  refine ⟨lengths, agrees.listing, Maildrop.eq_listing ?_ fun k l => ?_⟩
  · exact lengths.ordered_keys_toList.imp fun before => Nat.compare_eq_lt.mp before
  · rw [Std.TreeMap.mem_toList_iff_getElem?_eq_some, agrees.sameLengths]
    cases found : (m.maildrop contents).message? k with
    | none =>
      obtain ⟨err, answer⟩ := (wf.refuses last found).length fs
      rw [answer]
      simp
    | some a =>
      rw [wf.getEmailLength_message last keeps found]
      simp

theorem WellFormed.getWholeMailboxSize_total (keeps : Keeps contents fs m.files) :
    m.getWholeMailboxSize fs = .ok ((m.maildrop contents).total List.length) := by
  obtain ⟨lengths, listing, entries⟩ := wf.getEmailsLengths_listing last keeps
  rw [getWholeMailboxSize, listing, ← Maildrop.sum_listing, ← entries, List.sum_eq_foldl, List.foldl_map]

end Last

theorem maildrop_deleteEmails (contents : Path → Bytes) (m : Mailbox) :
    m.deleteEmails.maildrop contents = (m.maildrop contents).markAll := by
  simp only [maildrop, entries_deleteEmails, Maildrop.markAll, List.map_map, Function.comp_def]

theorem entries_setUpdate (m : Mailbox) : m.setUpdate.entries = m.entries := by
  rw [entries, setUpdate, List.map_map]
  rfl

theorem maildrop_reset (contents : Path → Bytes) (m : Mailbox) :
    m.reset.maildrop contents = (m.maildrop contents).reset := by
  simp only [maildrop, entries_reset, Maildrop.reset, List.map_map, Function.comp_def]

/-- The marked files are those with a mark in the maildrop. -/
theorem markedFile_iff (contents : Path → Bytes) {p : Path} :
    m.MarkedFile p ↔ ∃ n : Nat, m.files[n]? = some p ∧ ((m.maildrop contents)[n]?).map Prod.snd = some true := by
  have place : ∀ n : Nat, (m.files[n]? = some p ∧ ((m.maildrop contents)[n]?).map Prod.snd = some true) ↔
      m.entries[n]? = some (p, true) := by
    intro n
    rw [files_getElem?, maildrop_getElem?, Option.map_map]
    cases m.entries[n]? with
    | none => simp
    | some e => simp [Prod.ext_iff]
  simp only [place, ← List.mem_iff_getElem?]
  constructor
  · rintro ⟨s, hs, i, file, mark⟩
    have entry : s.entries[i]? = some (p, true) := by rw [s.entries_getElem?, file, ← mark]; rfl
    exact List.mem_flatten.mpr ⟨s.entries, List.mem_map_of_mem hs, List.mem_of_getElem? entry⟩
  · intro member
    obtain ⟨_, block, inside⟩ := List.mem_flatten.mp member
    obtain ⟨s, hs, rfl⟩ := List.mem_map.mp block
    obtain ⟨i, entry⟩ := List.mem_iff_getElem?.mp inside
    rw [s.entries_getElem?, Option.map_eq_some_iff] at entry
    obtain ⟨q, file, same⟩ := entry
    obtain ⟨rfl, mark⟩ := Prod.mk.inj same
    exact ⟨s, hs, i, file, mark⟩

end Mailbox

end Pop3Serv.Mail
