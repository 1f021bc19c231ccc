import Pop3Serv.Mail.Listing
import Pop3Serv.Mail.Login

/-!
# When a mailbox call returns

The only exceptions of the lookups and the listing are those of `file_size`. So
each call returns exactly if the sizes it asks for are known: of every unmarked
file for the listing and the total, of the file selected for a lookup.
-/

namespace Pop3Serv.Mail

/-- A throwing call returned. -/
def Returns {α : Type} (value : Except Fault α) : Prop := ∃ a, value = .ok a

theorem returns_ok {α : Type} (a : α) : Returns (.ok a : Except Fault α) := ⟨a, rfl⟩

theorem not_returns_error {α : Type} (fault : Fault) : ¬ Returns (.error fault : Except Fault α) := nofun

/-- The bytes fit the key type: a `compact_string` has a place less than its size for them. -/
def KeyType.Fits : KeyType → Bytes → Prop
  | .compactString size, sv => sv.length ≤ size - 1
  | .hashed, _ => True

theorem returns_convert (hash : Bytes → UInt64) {k : KeyType} {sv : Bytes} :
    Returns (k.convert hash sv) ↔ k.Fits sv := by
  cases k with
  | compactString size =>
    show Returns (CompactString.ofView size sv) ↔ sv.length ≤ size - 1
    unfold CompactString.ofView
    split
    · rename_i fits; exact iff_of_true (returns_ok _) fits
    · rename_i long; exact iff_of_false (not_returns_error _) long
  | hashed => exact iff_of_true (returns_ok _) trivial

namespace Mailbox

/-- The file a lookup by `n` reads, when it reads one. -/
def Selects (m : Mailbox) (n : Nat) (p : Path) : Prop :=
  ∃ it r, findStorage m.storages 0 n = some (it, r) ∧ it.storage.isMailMarkedAsDeleted r = false ∧
    it.storage.emails[r]? = some p

theorem Found.selects_iff {m : Mailbox} {n q k r : Nat} {s : FileSystemMailStorage} {p p' : Path}
    (found : m.Found n q k r s p) : m.Selects n p' ↔ m.marked q = false ∧ p' = p := by
  rw [marked_eq found.entry]
  constructor
  · rintro ⟨it, r', walked, live, file⟩
    cases found.walked.symm.trans walked
    exact ⟨live, Option.some.inj (file.symm.trans found.file)⟩
  · rintro ⟨live, rfl⟩
    exact ⟨_, _, found.walked, live, found.file⟩

theorem not_selects {m : Mailbox} {n : Nat} {p : Path} (missing : m.denotes n = none) : ¬ m.Selects n p := by
  rintro ⟨it, r, walked, _⟩
  cases (walked_of_denotes_none missing).symm.trans walked

theorem returns_getEmailsLengths {fs : FileSystem} {m : Mailbox} :
    Returns (m.getEmailsLengths fs) ↔ SizesKnown fs m.entries := by
  rcases m.getEmailsLengths_cases fs with ⟨known, lengths, listing, _⟩ | ⟨unknown, failed⟩
  · exact iff_of_true ⟨lengths, listing⟩ known
  · exact iff_of_false (failed ▸ not_returns_error _) unknown

theorem returns_getWholeMailboxSize {fs : FileSystem} {m : Mailbox} :
    Returns (m.getWholeMailboxSize fs) ↔ SizesKnown fs m.entries := by
  unfold getWholeMailboxSize
  rcases m.getEmailsLengths_cases fs with ⟨known, lengths, listing, _⟩ | ⟨unknown, failed⟩
  · rw [listing]
    exact iff_of_true (returns_ok _) known
  · rw [failed]
    exact iff_of_false (not_returns_error _) unknown

theorem WellFormed.returns_getEmailLength {m : Mailbox} (wf : m.WellFormed) {fs : FileSystem} {n : Nat} :
    Returns (m.getEmailLength fs n) ↔ ∀ p, m.Selects n p → (fs.file_size p).isSome = true := by
  cases d : m.denotes n with
  | none =>
    have answer : m.getEmailLength fs n = .ok (.error .EmailNotFound) := by
      simp [getEmailLength, walked_of_denotes_none d]
    exact iff_of_true ⟨_, answer⟩ fun p selects => absurd selects (not_selects d)
  | some q =>
    obtain ⟨k, r, s, p, found⟩ := wf.found d
    cases mark : m.marked q with
    | true => exact iff_of_true ⟨_, found.getEmailLength_marked mark fs⟩ (by simp [found.selects_iff, mark])
    | false =>
      have asked : (∀ p', m.Selects n p' → (fs.file_size p').isSome = true) ↔
          (fs.file_size p).isSome = true := by simp [found.selects_iff, mark]
      rw [asked, found.getEmailLength_live mark fs]
      cases fs.file_size p with
      | none => exact iff_of_false (not_returns_error _) Bool.false_ne_true
      | some length => exact iff_of_true (returns_ok _) rfl

theorem returns_readEmail {fs : FileSystem} {p : Path} :
    Returns (FileSystemMailStorage.readEmail fs p) ↔ (fs.file_size p).isSome = true := by
  unfold FileSystemMailStorage.readEmail
  cases fs.file_size p with
  | none => exact iff_of_false (not_returns_error _) nofun
  | some length => cases fs.ifstream p <;> exact iff_of_true (returns_ok _) rfl

theorem WellFormed.returns_getEmail {m : Mailbox} (wf : m.WellFormed) {fs : FileSystem} {n : Nat} :
    Returns (m.getEmail fs n) ↔ ∀ p, m.Selects n p → (fs.file_size p).isSome = true := by
  cases d : m.denotes n with
  | none =>
    have answer : m.getEmail fs n = .ok (.error .EmailNotFound) := by
      simp [getEmail, walked_of_denotes_none d]
    exact iff_of_true ⟨_, answer⟩ fun p selects => absurd selects (not_selects d)
  | some q =>
    obtain ⟨k, r, s, p, found⟩ := wf.found d
    cases mark : m.marked q with
    | true => exact iff_of_true ⟨_, found.getEmail_marked mark fs⟩ (by simp [found.selects_iff, mark])
    | false =>
      have asked : (∀ p', m.Selects n p' → (fs.file_size p').isSome = true) ↔
          (fs.file_size p).isSome = true := by simp [found.selects_iff, mark]
      rw [asked, found.getEmail_live mark fs, returns_readEmail]

/-- A lookup that answers with an error has selected nothing, and one that answers with a
length has selected a file whose size is known. -/
theorem WellFormed.selects_of_length {m : Mailbox} (wf : m.WellFormed) {fs : FileSystem} {n : Nat}
    {err : MailboxOperationError} (answer : m.getEmailLength fs n = .ok (.error err)) (p : Path) :
    ¬ m.Selects n p := by
  intro selects
  cases d : m.denotes n with
  | none => exact not_selects d selects
  | some q =>
    obtain ⟨k, r, s, p', found⟩ := wf.found d
    have live := (found.selects_iff.mp selects).1
    rw [found.getEmailLength_live live fs] at answer
    cases size : fs.file_size p' with
    | none => rw [size] at answer; cases answer
    | some length => rw [size] at answer; cases answer

theorem WellFormed.selects_iff_noError {m : Mailbox} (wf : m.WellFormed) {n : Nat} :
    (m.deleteEmail n).2 = .NoError ↔ ∃ p, m.Selects n p := by
  rcases wf.deleteEmail_cases n with ⟨missing, same⟩ | ⟨q, k, r, s, p, found, _, mark, same⟩ |
    ⟨q, k, r, s, p, found, _, mark, same⟩
  · rw [same]
    exact iff_of_false nofun fun ⟨p, selects⟩ => not_selects missing selects
  · rw [same]
    refine iff_of_false nofun fun ⟨p', selects⟩ => ?_
    rw [(found.selects_iff.mp selects).1] at mark
    cases mark
  · rw [same]
    exact iff_of_true rfl ⟨p, found.selects_iff.mpr ⟨mark, rfl⟩⟩

/-- In a mailbox just opened every file is asked for. -/
theorem sizesKnown_of_fresh {m : Mailbox} (fresh : ∀ s ∈ m.storages, s = { emails := s.emails })
    {fs : FileSystem} :
    SizesKnown fs m.entries ↔ ∀ s ∈ m.storages, ∀ p ∈ s.emails, (fs.file_size p).isSome = true := by
  have listed : ∀ s ∈ m.storages, ∀ p, (p, false) ∈ s.entries ↔ p ∈ s.emails := by
    intro s hs p
    rw [fresh s hs]
    simp [FileSystemMailStorage.entries, FileSystemMailStorage.isMailMarkedAsDeleted,
      List.mem_iff_getElem?]
  unfold SizesKnown entries
  simp only [List.mem_flatten, List.mem_map]
  constructor
  · intro known s hs p hp
    exact known p ⟨s.entries, ⟨s, hs, rfl⟩, (listed s hs p).mpr hp⟩
  · rintro known p ⟨_, ⟨s, hs, rfl⟩, hp⟩
    exact known s hs p ((listed s hs p).mp hp)

end Mailbox

end Pop3Serv.Mail
