import Pop3Serv.Mail.Listing

/-!
# The totals of STAT

`getEmailsCount` adds up what the storages count and is right in every state. The
size is added up over the merged listing, where the first file with a number wins:
it is the sum over the unmarked files exactly if no file of a later storage that is
not empty gets the number of an unmarked file of an earlier one.
-/

namespace Pop3Serv.Mail
open Logic

/-- What a storage lists adds up to the sizes of its unmarked files, wherever its numbers start. -/
theorem sum_listed (fs : FileSystem) (entries : List Entry) (first n : Nat)
    (room : first + entries.length ≤ n) :
    ∑ k ∈ Finset.range n, (listed fs entries first k).getD 0 =
      (entries.map fun e => (listedSize fs e).getD 0).sum := by
  induction entries generalizing first with
  | nil => simp [listed]
  | cons e rest ih =>
    rw [List.length_cons] at room
    have apart : ∀ k, (listed fs (e :: rest) first k).getD 0 =
        (if k = first then (listedSize fs e).getD 0 else 0) + (listed fs rest (first + 1) k).getD 0 := by
      intro k
      rw [listed_cons]
      by_cases here : k = first
      · rw [if_pos here, if_pos here, listed_before (by omega)]
        rfl
      · rw [if_neg here, if_neg here, Nat.zero_add]
    have inside : first < n := by omega
    simp only [apart, Finset.sum_add_distrib]
    rw [Finset.sum_ite_eq', if_pos (Finset.mem_range.mpr inside), ih (first + 1) (by omega),
      List.map_cons, List.sum_cons]

namespace Mailbox

/-- The files that are not marked deleted. -/
def unmarkedFiles (m : Mailbox) : List Path := (m.entries.filter fun e => !e.2).map Prod.fst

/-- The storages, each with the number the listing gives to its first position: the number of
unmarked files before it. -/
def numbered : List FileSystemMailStorage → Nat → List (FileSystemMailStorage × Nat)
  | [], _ => []
  | s :: rest, offset => (s, offset) :: numbered rest (offset + remaining Prod.snd s.entries)

/-- No unmarked file gets the number of an unmarked file of an earlier storage, unless it is empty. -/
def NumbersApart (sizes : Path → Nat) (m : Mailbox) : Prop :=
  (numbered m.storages 0).Pairwise fun s t => ∀ a b p q,
    s.1.entries[a]? = some (p, false) → t.1.entries[b]? = some (q, false) →
      s.2 + a = t.2 + b → sizes q = 0

theorem WellFormed.length_unmarkedFiles {m : Mailbox} (wf : m.WellFormed) :
    m.getEmailsCount = m.unmarkedFiles.length := by
  rw [wf.getEmailsCount_eq, unmarkedFiles, List.length_map, remaining, List.countP_eq_length_filter]

theorem map_fst_numbered (storages : List FileSystemMailStorage) (offset : Nat) :
    (numbered storages offset).map Prod.fst = storages := by
  induction storages generalizing offset with
  | nil => rfl
  | cons s rest ih => rw [numbered, List.map_cons, ih]

/-- The merged listing is a first-wins choice among the storages. -/
theorem listedIn_eq_findSome? (fs : FileSystem) {storages : List FileSystemMailStorage}
    (wf : ∀ s ∈ storages, s.WellFormed) (offset k : Nat) :
    listedIn fs storages offset k =
      (numbered storages offset).findSome? fun s => listed fs s.1.entries s.2 k := by
  induction storages generalizing offset with
  | nil => rfl
  | cons s rest ih =>
    rw [listedIn, numbered, List.findSome?_cons, (wf s (by simp)).getEmailsCount_eq,
      ih fun t ht => wf t (by simp [ht])]
    cases listed fs s.entries offset k <;> rfl

/-- One bound for the numbers of all storages. -/
theorem exists_room (places : List (FileSystemMailStorage × Nat)) :
    ∃ n, ∀ s ∈ places, s.2 + s.1.entries.length ≤ n := by
  refine ⟨(places.map fun s => s.2 + s.1.entries.length).sum, fun s hs => ?_⟩
  exact List.single_le_sum (fun _ _ => Nat.zero_le _) _ (List.mem_map.mpr ⟨s, hs, rfl⟩)

section Sizes

variable {fs : FileSystem} {sizes : Path → Nat} {m : Mailbox}

theorem sizesKnown_of_fixed (fixed : ∀ p ∈ m.files, fs.file_size p = some (sizes p)) :
    SizesKnown fs m.entries := fun p hp => by
  rw [fixed p (m.map_fst_entries ▸ List.mem_map.mpr ⟨_, hp, rfl⟩)]
  rfl

/-- All that the storages list, added up. -/
theorem sum_listedSize (fixed : ∀ p ∈ m.files, fs.file_size p = some (sizes p)) :
    (m.entries.map fun e => (listedSize fs e).getD 0).sum = (m.unmarkedFiles.map sizes).sum := by
  rw [← m.map_fst_entries] at fixed
  unfold unmarkedFiles
  generalize m.entries = entries at fixed
  induction entries with
  | nil => rfl
  | cons e rest ih =>
    obtain ⟨p, mark⟩ := e
    have later := ih fun q hq => fixed q (by simp [hq])
    cases mark with
    | true => simpa [listedSize] using later
    | false =>
      have here : listedSize fs (p, false) = some (sizes p) := fixed p (by simp)
      rw [List.map_cons, List.sum_cons, here, later]
      rfl

/-- `NumbersApart`, as the condition under which the first-wins choice loses nothing. -/
theorem numbersApart_iff (fixed : ∀ p ∈ m.files, fs.file_size p = some (sizes p)) {n : Nat}
    (room : ∀ s ∈ numbered m.storages 0, s.2 + s.1.entries.length ≤ n) :
    m.NumbersApart sizes ↔ (numbered m.storages 0).Pairwise fun s t => ∀ k < n,
      (listed fs s.1.entries s.2 k).isSome → (listed fs t.1.entries t.2 k).getD 0 = 0 := by
  have member : ∀ s ∈ numbered m.storages 0, s.1 ∈ m.storages := fun s hs => by
    rw [← map_fst_numbered m.storages 0]
    exact List.mem_map.mpr ⟨s, hs, rfl⟩
  have inEntries : ∀ s ∈ numbered m.storages 0, ∀ e ∈ s.1.entries, e ∈ m.entries := fun s hs e he =>
    List.mem_flatten.mpr ⟨s.1.entries, List.mem_map.mpr ⟨s.1, member s hs, rfl⟩, he⟩
  have known : ∀ s ∈ numbered m.storages 0, SizesKnown fs s.1.entries := fun s hs p hp =>
    sizesKnown_of_fixed fixed p (inEntries s hs _ hp)
  have size : ∀ t ∈ numbered m.storages 0, ∀ b q, t.1.entries[b]? = some (q, false) →
      listed fs t.1.entries t.2 (t.2 + b) = some (sizes q) := by
    intro t ht b q at_b
    have file : q ∈ m.files := by
      rw [← m.map_fst_entries]
      exact List.mem_map.mpr ⟨_, inEntries t ht _ (List.mem_of_getElem? at_b), rfl⟩
    rw [listed, if_pos (by omega), Nat.add_sub_cancel_left, at_b]
    exact fixed q file
  refine List.Pairwise.iff_of_mem fun {s t} hs ht => ?_
  constructor
  · intro apart k _ shown
    obtain ⟨a, p, at_a, rfl⟩ := (listed_isSome_iff (known s hs)).mp shown
    cases later : listed fs t.1.entries t.2 (s.2 + a) with
    | none => rfl
    | some v =>
      obtain ⟨b, q, at_b, same⟩ := (listed_isSome_iff (known t ht)).mp (Option.isSome_iff_exists.mpr ⟨v, later⟩)
      rw [same, size t ht b q at_b] at later
      cases later
      exact apart a b p q at_a at_b same
  · intro apart a b p q at_a at_b same
    have below : s.2 + a < n := by
      have := room s hs
      have := (List.getElem?_eq_some_iff.mp at_a).1
      omega
    have lost := apart (s.2 + a) below ((listed_isSome_iff (known s hs)).mpr ⟨a, p, at_a, rfl⟩)
    rw [same, size t ht b q at_b] at lost
    exact lost

/-- **The size that STAT reports.** -/
theorem WellFormed.getWholeMailboxSize_iff (wf : m.WellFormed)
    (fixed : ∀ p ∈ m.files, fs.file_size p = some (sizes p)) :
    m.getWholeMailboxSize fs = .ok (m.unmarkedFiles.map sizes).sum ↔ m.NumbersApart sizes := by
  obtain ⟨n, room⟩ := exists_room (numbered m.storages 0)
  rcases getEmailsLengths_cases fs m with ⟨_, lengths, ends, read⟩ | ⟨unknown, _⟩
  · have choice : ∀ k, lengths[k]? =
        (numbered m.storages 0).findSome? fun s => listed fs s.1.entries s.2 k := fun k => by
      rw [read, listedIn_eq_findSome? fs wf]
    have low : ∀ k, k ∈ lengths → k < n := by
      intro k hk
      have found := choice k
      rw [Std.TreeMap.getElem?_eq_some_getElem hk] at found
      obtain ⟨s, hs, shown⟩ := List.exists_of_findSome?_eq_some found.symm
      have known : SizesKnown fs s.1.entries := fun p hp => sizesKnown_of_fixed fixed p <| by
        have member : s.1 ∈ m.storages := map_fst_numbered m.storages 0 ▸ List.mem_map.mpr ⟨s, hs, rfl⟩
        exact List.mem_flatten.mpr ⟨s.1.entries, List.mem_map.mpr ⟨s.1, member, rfl⟩, hp⟩
      obtain ⟨a, p, at_a, rfl⟩ := (listed_isSome_iff known).mp (Option.isSome_iff_exists.mpr ⟨_, shown⟩)
      have := room s hs
      have := (List.getElem?_eq_some_iff.mp at_a).1
      omega
    have reported : m.getWholeMailboxSize fs =
        .ok (∑ k ∈ Finset.range n, ((numbered m.storages 0).findSome?
          fun s => listed fs s.1.entries s.2 k).getD 0) := by
      rw [getWholeMailboxSize, ends]
      simp only [← choice]
      rw [← sum_values lengths low, List.sum_eq_foldl, List.foldl_map]
    have total : (m.unmarkedFiles.map sizes).sum =
        ((numbered m.storages 0).map fun s =>
          ∑ k ∈ Finset.range n, (listed fs s.1.entries s.2 k).getD 0).sum := by
      have each : ((numbered m.storages 0).map fun s =>
          ∑ k ∈ Finset.range n, (listed fs s.1.entries s.2 k).getD 0) =
          (numbered m.storages 0).map fun s => (s.1.entries.map fun e => (listedSize fs e).getD 0).sum :=
        List.map_congr_left fun s hs => sum_listed fs s.1.entries s.2 n (room s hs)
      have byStorage : ((numbered m.storages 0).map fun s =>
          (s.1.entries.map fun e => (listedSize fs e).getD 0).sum) =
          m.storages.map fun s => (s.entries.map fun e => (listedSize fs e).getD 0).sum := by
        conv_rhs => rw [← map_fst_numbered m.storages 0, List.map_map]
        rfl
      rw [each, byStorage, ← sum_listedSize fixed, entries, List.map_flatten, List.sum_flatten,
        List.map_map, List.map_map]
      rfl
    rw [reported, total, numbersApart_iff fixed room, ← sum_findSome?_eq_iff]
    exact ⟨fun h => Except.ok.inj h, fun h => congrArg Except.ok h⟩
  · exact absurd (sizesKnown_of_fixed fixed) unknown

end Sizes

/-- **The totals of STAT** in every state reached from a login: the count is right, and the
size is exactly if no unmarked file that is not empty gets the number of another. -/
theorem totals_iff (name : Bytes) (directories : List (List Path)) (lock : MailboxLock) (ops : List Op)
    (fs : FileSystem) (sizes : Path → Nat)
    (fixed : ∀ p ∈ directories.flatten, fs.file_size p = some (sizes p)) :
    (((opened name directories lock).run ops).getEmailsCount =
        ((opened name directories lock).run ops).unmarkedFiles.length ∧
      ((opened name directories lock).run ops).getWholeMailboxSize fs =
        .ok (((opened name directories lock).run ops).unmarkedFiles.map sizes).sum) ↔
      ((opened name directories lock).run ops).NumbersApart sizes := by
  have wf := (opened_wellFormed name directories lock).run ops
  have files : ((opened name directories lock).run ops).files = directories.flatten := by
    rw [(sameBox_run _ ops).files, opened_files]
  rw [wf.getWholeMailboxSize_iff fun p hp => fixed p (files ▸ hp)]
  exact and_iff_right wf.length_unmarkedFiles

/-- Two storages of two files, the second file of the first deleted: `a` is number 0 of the listing,
`c` and `d` are numbers 1 and 2, three messages of three bytes in all. -/
theorem totals_two_storages :
    ((opened (ascii "u") [[ascii "a", ascii "b"], [ascii "c", ascii "d"]] ⟨ascii "u", true⟩).run
        [.deleteEmail 1]).getEmailsCount = 3 ∧
      ((opened (ascii "u") [[ascii "a", ascii "b"], [ascii "c", ascii "d"]] ⟨ascii "u", true⟩).run
        [.deleteEmail 1]).getWholeMailboxSize oneByteFiles = .ok 3 := by
  refine (totals_iff (ascii "u") [[ascii "a", ascii "b"], [ascii "c", ascii "d"]] ⟨ascii "u", true⟩
    [.deleteEmail 1] oneByteFiles (fun _ => 1) fun _ _ => rfl).mpr (List.pairwise_pair.mpr ?_)
  -- what is left of the first storage is number 0, and the second begins at 1
  intro a b p q first second same
  match a, first with
  | 0, _ => exact absurd (show 0 + 0 = 1 + b from same) (by omega)
  | 1, marked => cases marked

/-- Files `a`, `b` and `c` of one byte in two storages, `a` deleted: both `b` and `c` are number 1
of the listing, and STAT reports two messages of one byte in all. -/
theorem totals_lose_a_message :
    ¬ (((opened (ascii "u") [[ascii "a", ascii "b"], [ascii "c"]] ⟨ascii "u", true⟩).run
          [.deleteEmail 0]).getEmailsCount =
        ((opened (ascii "u") [[ascii "a", ascii "b"], [ascii "c"]] ⟨ascii "u", true⟩).run
          [.deleteEmail 0]).unmarkedFiles.length ∧
      ((opened (ascii "u") [[ascii "a", ascii "b"], [ascii "c"]] ⟨ascii "u", true⟩).run
          [.deleteEmail 0]).getWholeMailboxSize oneByteFiles =
        .ok (((opened (ascii "u") [[ascii "a", ascii "b"], [ascii "c"]] ⟨ascii "u", true⟩).run
          [.deleteEmail 0]).unmarkedFiles.map fun _ => 1).sum) := by
  decide

end Mailbox

end Pop3Serv.Mail
