import Pop3Serv.Mail.Commit
import Pop3Serv.Mail.Listing

/-!
# Positions and counts that cannot go wrong

`deleteEmail` of a storage checks no bound, the count is an unsigned difference,
and `findStorage` subtracts counts from the caller's number. None of it goes wrong
while the recorded positions are distinct and below the size
(`FileSystemMailStorage.WellFormed`): a number reaches a storage only below its
count. `Represented` collects what follows for a whole mailbox, and
`representation_invariant` says that it holds after every sequence of calls. Where a scan
by `findStorage` ends is said by `findStorage_decomposes`.
-/

namespace Pop3Serv.Mail
open Logic

namespace FileSystemMailStorage

/-- The positions of a storage whose file is not marked. -/
def unmarkedPositions (s : FileSystemMailStorage) : List Nat :=
  (List.range s.emails.length).filter fun i => !s.isMailMarkedAsDeleted i

theorem WellFormed.getEmailsCount_eq_positions {s : FileSystemMailStorage} (wf : s.WellFormed) :
    s.getEmailsCount = s.unmarkedPositions.length := by
  rw [wf.getEmailsCount_eq, s.remaining_entries, unmarkedPositions, ← List.countP_eq_length_filter]

end FileSystemMailStorage

/-- The subtractions `emailNumber -= count` of a scan by `findStorage`: the number as it then is,
and the count. -/
def subtractions : List FileSystemMailStorage → Nat → List (Nat × Nat)
  | [], _ => []
  | storage :: rest, emailNumber =>
    if emailNumber < storage.getEmailsCount then []
    else
      (emailNumber, storage.getEmailsCount) ::
        subtractions rest (sizeSub emailNumber storage.getEmailsCount)

/-- A count is subtracted only from a number that is not below it. -/
theorem subtractions_le {storages : List FileSystemMailStorage} {emailNumber : Nat} {sub : Nat × Nat}
    (made : sub ∈ subtractions storages emailNumber) : sub.2 ≤ sub.1 := by
  induction storages generalizing emailNumber with
  | nil => exact absurd made List.not_mem_nil
  | cons storage rest ih =>
    rw [subtractions] at made
    split at made
    · exact absurd made List.not_mem_nil
    · rename_i past
      rcases List.mem_cons.mp made with rfl | later
      · simp only
        omega
      · exact ih later

/-- The counts subtracted on the way to a storage are those of the storages before it. -/
theorem subtractions_of_located {storages : List FileSystemMailStorage} {n k r : Nat}
    {s : FileSystemMailStorage}
    (located : locateBy FileSystemMailStorage.getEmailsCount storages n = some (k, s, r)) :
    (subtractions storages n).map Prod.snd =
      (storages.take k).map FileSystemMailStorage.getEmailsCount := by
  induction storages generalizing n k with
  | nil => cases located
  | cons storage rest ih =>
    rw [locateBy] at located
    rw [subtractions]
    split at located
    · rename_i inside
      cases located
      rw [if_pos inside]
      rfl
    · rename_i past
      obtain ⟨⟨k', s', r'⟩, located', same⟩ := Option.map_eq_some_iff.mp located
      cases same
      rw [if_neg past, sizeSub_of_le (Nat.le_of_not_lt past), List.map_cons, ih located']
      rfl

/-- `n` is the number `r` of storage `k`, behind the counts of the storages before it. -/
structure Decomposed (storages : List FileSystemMailStorage) (n k : Nat) (s : FileSystemMailStorage)
    (r : Nat) : Prop where
  storage : storages[k]? = some s
  below : r < s.getEmailsCount
  sum : offsetOf FileSystemMailStorage.getEmailsCount storages k + r = n

/-- What a scan from the first storage ends with. -/
theorem findStorage_eq_some_iff {storages : List FileSystemMailStorage} {n k r : Nat}
    {s : FileSystemMailStorage} :
    findStorage storages 0 n = some (⟨k, s⟩, r) ↔ Decomposed storages n k s r := by
  rw [findStorage_iff_located, locateBy_eq_some_iff]
  exact ⟨fun ⟨storage, below, sum⟩ => ⟨storage, below, sum⟩, fun h => ⟨h.storage, h.below, h.sum⟩⟩

theorem findStorage_eq_none_iff {storages : List FileSystemMailStorage} {n : Nat} :
    findStorage storages 0 n = none ↔ (storages.map FileSystemMailStorage.getEmailsCount).sum ≤ n := by
  rw [findStorage_eq, Option.map_eq_none_iff, locateBy_eq_none_iff]

/-- A number has one place. -/
theorem Decomposed.unique {storages : List FileSystemMailStorage} {n k k' r r' : Nat}
    {s s' : FileSystemMailStorage} (h : Decomposed storages n k s r) (h' : Decomposed storages n k' s' r') :
    k' = k ∧ s' = s ∧ r' = r := by
  have same := (findStorage_eq_some_iff.mpr h').symm.trans (findStorage_eq_some_iff.mpr h)
  simp only [Option.some.injEq, Prod.mk.injEq, StorageIterator.mk.injEq] at same
  exact ⟨same.1.1, same.1.2, same.2⟩

namespace Mailbox

theorem filesystemCall_inRange {α : Type} (answer : Option α) : filesystemCall answer ≠ .error .badIndex := by
  cases answer <;> simp [filesystemCall]

/-- What a lookup by number reads, it reads below the size of its storage. -/
theorem WellFormed.getEmailLength_inRange {m : Mailbox} (wf : m.WellFormed) (fs : FileSystem) (n : Nat) :
    m.getEmailLength fs n ≠ .error .badIndex := by
  cases d : m.denotes n with
  | none => simp [getEmailLength, walked_of_denotes_none d]
  | some q =>
    obtain ⟨k, r, s, p, found⟩ := wf.found d
    cases mark : m.marked q with
    | true => simp [found.getEmailLength_marked mark fs]
    | false =>
      rw [found.getEmailLength_live mark fs]
      have answered := filesystemCall_inRange (fs.file_size p)
      intro failed
      cases asked : filesystemCall (fs.file_size p) with
      | ok length => rw [asked] at failed; cases failed
      | error fault =>
        rw [asked] at failed
        cases failed
        exact answered asked

theorem WellFormed.getEmail_inRange {m : Mailbox} (wf : m.WellFormed) (fs : FileSystem) (n : Nat) :
    m.getEmail fs n ≠ .error .badIndex := by
  cases d : m.denotes n with
  | none => simp [getEmail, walked_of_denotes_none d]
  | some q =>
    obtain ⟨k, r, s, p, found⟩ := wf.found d
    cases mark : m.marked q with
    | true => simp [found.getEmail_marked mark fs]
    | false =>
      rw [found.getEmail_live mark fs, FileSystemMailStorage.readEmail]
      split
      · simp
      · split <;> simp

theorem getEmailsLengths_inRange (m : Mailbox) (fs : FileSystem) :
    m.getEmailsLengths fs ≠ .error .badIndex := by
  rcases m.getEmailsLengths_cases fs with ⟨_, lengths, listing, _⟩ | ⟨_, failed⟩
  · simp [listing]
  · simp [failed]

/-- The destructors of a mailbox return, whether or not it has been told to commit. -/
theorem WellFormed.destroyStorages_returns {m : Mailbox} (wf : m.WellFormed) :
    ∃ removed, m.destroyStorages = .ok removed := by
  have each : ∀ s ∈ m.storages, s.destroy = .ok (if s.updateAtClose then s.recorded else []) := by
    intro s hs
    cases close : s.updateAtClose with
    | true => rw [(wf s hs).destroy_committed close, if_pos rfl]
    | false => rw [FileSystemMailStorage.destroy_open close, if_neg (by simp)]
  unfold destroyStorages
  rw [mapM_ok each]
  exact ⟨_, rfl⟩

/-- What the marking calls keep of a mailbox: its storages can be counted, scanned, read and
destroyed without a wrapped difference or an index out of range. -/
structure Represented (m : Mailbox) : Prop where
  nodup : ∀ s ∈ m.storages, s.emailsToBeDeleted.Nodup
  inRange : ∀ s ∈ m.storages, ∀ i ∈ s.emailsToBeDeleted, i < s.emails.length
  /-- `emails.size() - emailsToBeDeleted.size()` -/
  noUnderflow : ∀ s ∈ m.storages, s.emailsToBeDeleted.length ≤ s.emails.length
  counted : ∀ s ∈ m.storages, s.getEmailsCount = s.unmarkedPositions.length
  /-- `emailNumber -= count` -/
  noWrap : ∀ n, ∀ sub ∈ subtractions m.storages n, sub.2 ≤ sub.1
  getEmailLength : ∀ fs n, m.getEmailLength fs n ≠ .error .badIndex
  getEmail : ∀ fs n, m.getEmail fs n ≠ .error .badIndex
  getEmailsLengths : ∀ fs, m.getEmailsLengths fs ≠ .error .badIndex
  destroyed : ∃ removed, m.destroyStorages = .ok removed
  committed : ∃ removed, m.setUpdate.destroyStorages = .ok removed

theorem WellFormed.represented {m : Mailbox} (wf : m.WellFormed) : m.Represented where
  nodup s hs := (wf s hs).nodup
  inRange s hs := (wf s hs).inRange
  noUnderflow s hs := (wf s hs).length_le
  counted s hs := (wf s hs).getEmailsCount_eq_positions
  noWrap _ _ made := subtractions_le made
  getEmailLength := wf.getEmailLength_inRange
  getEmail := wf.getEmail_inRange
  getEmailsLengths := m.getEmailsLengths_inRange
  destroyed := wf.destroyStorages_returns
  committed := wf.setUpdate.destroyStorages_returns

/-- **The storages after any sequence of calls.** Whatever numbers are deleted, whole mailboxes
marked and marks taken back, over any list of storages. -/
theorem representation_invariant (name : Bytes) (directories : List (List Path)) (lock : MailboxLock)
    (ops : List Op) : ((opened name directories lock).run ops).Represented := by
  have start := opened_wellFormed name directories lock
  exact (start.run ops).represented

/-- **`findStorage` decomposes a number**, over any list of storages. It gives the end exactly for the
numbers from the sum of the counts on; for another one it gives the storage and leaves the number
that are its only place, and has subtracted the counts of the storages before. No difference
wraps: no `emailNumber -= count`, and in no state that the calls lead to a count. -/
theorem findStorage_decomposes (storages : List FileSystemMailStorage) (n : Nat) :
    (findStorage storages 0 n = none ↔
      (storages.map FileSystemMailStorage.getEmailsCount).sum ≤ n) ∧
    (n < (storages.map FileSystemMailStorage.getEmailsCount).sum →
      ∃ k s r, findStorage storages 0 n = some (⟨k, s⟩, r) ∧ Decomposed storages n k s r ∧
        (∀ k' s' r', Decomposed storages n k' s' r' → k' = k ∧ s' = s ∧ r' = r) ∧
        (subtractions storages n).map Prod.snd =
          (storages.take k).map FileSystemMailStorage.getEmailsCount) ∧
    (∀ sub ∈ subtractions storages n, sub.2 ≤ sub.1) ∧
    (∀ name directories lock ops, ((opened name directories lock).run ops).storages = storages →
      ∀ s ∈ storages, s.emailsToBeDeleted.length ≤ s.emails.length) := by
  refine ⟨findStorage_eq_none_iff, fun inside => ?_, fun sub made => subtractions_le made, ?_⟩
  · cases found : findStorage storages 0 n with
    | none => exact absurd (findStorage_eq_none_iff.mp found) (Nat.not_le.mpr inside)
    | some place =>
      obtain ⟨⟨k, s⟩, r⟩ := place
      have decomposed := findStorage_eq_some_iff.mp found
      refine ⟨k, s, r, rfl, decomposed, fun k' s' r' other => decomposed.unique other, ?_⟩
      exact subtractions_of_located (findStorage_iff_located.mp found)
  · rintro name directories lock ops rfl s member
    have wf := (opened_wellFormed name directories lock).run ops
    exact (wf s member).length_le

end Mailbox

end Pop3Serv.Mail
