import Pop3Serv.Mail.Numbering
import Pop3Serv.Logic.OrderedMap

/-!
# The listing against the lookups

`getEmailsLengths` numbers a message by its original position in its storage plus
the counts of what remains in the storages before; the lookups walk by what remains
throughout. The first part reads the listing back (`listedIn`), the second proves
when it agrees with the lookups: when in each storage the marked files are the
last ones.
-/

namespace Pop3Serv.Mail
open Logic

/-- `file_size` answers for every unmarked file. -/
def SizesKnown (fs : FileSystem) (entries : List Entry) : Prop :=
  ∀ p, (p, false) ∈ entries → (fs.file_size p).isSome

/-- The size a listing enters for a file. -/
def listedSize (fs : FileSystem) (e : Entry) : Option Nat := if e.2 then none else fs.file_size e.1

/-- What a storage whose first position has number `first` lists under `k`. -/
def listed (fs : FileSystem) (entries : List Entry) (first k : Nat) : Option Nat :=
  if first ≤ k then entries[k - first]?.bind (listedSize fs) else none

/-- The loop of `FileSystemMailStorage::getEmailsLengths` by the entries it passes. -/
def enter (fs : FileSystem) : List Entry → Nat → Std.TreeMap Nat Nat → Except Fault (Std.TreeMap Nat Nat)
  | [], _, lengths => .ok lengths
  | (_, true) :: rest, number, lengths => enter fs rest (number + 1) lengths
  | (p, false) :: rest, number, lengths =>
    match fs.file_size p with
    | some length => enter fs rest (number + 1) (lengths.insertIfNew number length)
    | none => .error .filesystemError

theorem listed_cons (fs : FileSystem) (e : Entry) (rest : List Entry) (first k : Nat) :
    listed fs (e :: rest) first k =
      if k = first then listedSize fs e else listed fs rest (first + 1) k := by
  unfold listed
  by_cases here : k = first
  · subst here; simp
  · by_cases later : first ≤ k
    · have next : first + 1 ≤ k := by omega
      have index : k - first = (k - (first + 1)) + 1 := by omega
      rw [if_pos later, if_neg here, if_pos next, index, List.getElem?_cons_succ]
    · have before : ¬ first + 1 ≤ k := by omega
      rw [if_neg later, if_neg here, if_neg before]

theorem listed_before {fs : FileSystem} {entries : List Entry} {first k : Nat} (h : k < first) :
    listed fs entries first k = none := if_neg (by omega)

/-- A storage lists its unmarked files, each at its own position. -/
theorem listed_isSome_iff {fs : FileSystem} {entries : List Entry} (known : SizesKnown fs entries)
    {first k : Nat} :
    (listed fs entries first k).isSome ↔ ∃ a p, entries[a]? = some (p, false) ∧ k = first + a := by
  constructor
  · intro present
    obtain ⟨v, found⟩ := Option.isSome_iff_exists.mp present
    unfold listed at found
    split at found
    · rename_i reached
      obtain ⟨⟨p, mark⟩, at_a, size⟩ := Option.bind_eq_some_iff.mp found
      cases mark with
      | true => cases size
      | false => exact ⟨k - first, p, at_a, by omega⟩
    · cases found
  · rintro ⟨a, p, at_a, rfl⟩
    have size := known p (List.mem_of_getElem? at_a)
    rw [listed, if_pos (by omega), Nat.add_sub_cancel_left, at_a]
    exact size

theorem sizesKnown_cons_marked {fs : FileSystem} {p : Path} {rest : List Entry} :
    SizesKnown fs ((p, true) :: rest) ↔ SizesKnown fs rest := by simp [SizesKnown]

theorem sizesKnown_cons_live {fs : FileSystem} {p : Path} {rest : List Entry} :
    SizesKnown fs ((p, false) :: rest) ↔ (fs.file_size p).isSome ∧ SizesKnown fs rest := by
  simp only [SizesKnown, List.mem_cons, Prod.mk.injEq, and_true]
  exact ⟨fun h => ⟨h p (.inl rfl), fun q hq => h q (.inr hq)⟩,
    fun ⟨here, later⟩ q hq => hq.elim (fun e => e ▸ here) (later q)⟩

/-- **The loop read back**: it ends normally exactly if every size it asks for is known, and then
it has added the listed sizes. -/
theorem enter_cases (fs : FileSystem) (entries : List Entry) (first : Nat) (lengths : Std.TreeMap Nat Nat) :
    (SizesKnown fs entries ∧ ∃ result, enter fs entries first lengths = .ok result ∧
      ∀ k, result[k]? = lengths[k]?.or (listed fs entries first k)) ∨
    (¬ SizesKnown fs entries ∧ enter fs entries first lengths = .error .filesystemError) := by
  induction entries generalizing first lengths with
  | nil => exact .inl ⟨by simp [SizesKnown], lengths, rfl, by simp [listed]⟩
  | cons e rest ih =>
    obtain ⟨p, mark⟩ := e
    cases mark with
    | true =>
      rw [sizesKnown_cons_marked, enter]
      rcases ih (first + 1) lengths with ⟨known, result, ends, read⟩ | failed
      · refine .inl ⟨known, result, ends, fun k => ?_⟩
        rw [read, listed_cons]
        by_cases here : k = first
        · rw [if_pos here, listed_before (by omega)]
          rfl
        · rw [if_neg here]
      · exact .inr failed
    | false =>
      rw [sizesKnown_cons_live, enter]
      cases size : fs.file_size p with
      | none => exact .inr ⟨by simp, rfl⟩
      | some length =>
        simp only [Option.isSome_some, true_and]
        rcases ih (first + 1) (lengths.insertIfNew first length) with ⟨known, result, ends, read⟩ | failed
        · refine .inl ⟨known, result, ends, fun k => ?_⟩
          rw [read, listed_cons, Std.TreeMap.getElem?_insertIfNew]
          by_cases here : k = first
          · subst here
            by_cases present : k ∈ lengths
            · simp [present]
            · simp [present, listedSize, size]
          · have other : compare first k ≠ .eq := fun e => here (Nat.compare_eq_eq.mp e).symm
            simp [here, other]
        · exact .inr failed

namespace FileSystemMailStorage

theorem getEmailLength_eq {s : FileSystemMailStorage} {i : Nat} {e : Entry} (fs : FileSystem)
    (at_i : s.entries[i]? = some e) : s.getEmailLength fs i = filesystemCall (fs.file_size e.1) := by
  rw [entries_getElem?, Option.map_eq_some_iff] at at_i
  obtain ⟨p, file, rfl⟩ := at_i
  simp [getEmailLength, emailAt, file, bind, Except.bind]

/-- The loop runs through the entries from position `i` on. -/
theorem lengthsFrom_eq_enter (fs : FileSystem) (s : FileSystemMailStorage) (mailNumberOffset : Nat)
    (rest i : Nat) (lengths : Std.TreeMap Nat Nat) (range : i + rest = s.entries.length) :
    s.lengthsFrom fs mailNumberOffset i rest lengths =
      enter fs (s.entries.drop i) (i + mailNumberOffset) lengths := by
  induction rest generalizing i lengths with
  | zero =>
    rw [List.drop_eq_nil_of_le (by omega)]
    rfl
  | succ rest ih =>
    have inside : i < s.entries.length := by omega
    have at_i := List.getElem?_eq_getElem inside
    rw [List.drop_eq_getElem_cons inside]
    obtain ⟨⟨p, mark⟩, e⟩ : ∃ e, s.entries[i] = e := ⟨_, rfl⟩
    rw [e] at at_i ⊢
    have marked : s.isMailMarkedAsDeleted i = mark := by
      rw [entries_getElem?, Option.map_eq_some_iff] at at_i
      obtain ⟨_, _, same⟩ := at_i
      exact congrArg Prod.snd same
    have next : i + mailNumberOffset + 1 = i + 1 + mailNumberOffset := by omega
    rw [lengthsFrom, marked, s.getEmailLength_eq fs at_i]
    cases mark with
    | true =>
      rw [if_pos rfl, enter, ih (i + 1) lengths (by omega), next]
    | false =>
      rw [if_neg (by simp), enter]
      cases fs.file_size p with
      | none => rfl
      | some length =>
        simp only [filesystemCall]
        rw [ih (i + 1) _ (by omega), next]

theorem getEmailsLengths_eq_enter (fs : FileSystem) (s : FileSystemMailStorage) (mailNumberOffset : Nat) :
    s.getEmailsLengths fs mailNumberOffset = enter fs s.entries mailNumberOffset ∅ := by
  rw [getEmailsLengths, lengthsFrom_eq_enter _ _ _ _ _ _ (by simp)]
  simp

end FileSystemMailStorage

namespace Mailbox

/-- What the mailbox lists under `k`, from the storages given, the first of them numbered from
`offset` on. -/
def listedIn (fs : FileSystem) : List FileSystemMailStorage → Nat → Nat → Option Nat
  | [], _, _ => none
  | s :: rest, offset, k =>
    (listed fs s.entries offset k).or (listedIn fs rest (offset + s.getEmailsCount) k)

theorem sizesKnown_append {fs : FileSystem} {es more : List Entry} :
    SizesKnown fs (es ++ more) ↔ SizesKnown fs es ∧ SizesKnown fs more := by
  simp only [SizesKnown, List.mem_append]
  exact ⟨fun h => ⟨fun p hp => h p (.inl hp), fun p hp => h p (.inr hp)⟩,
    fun ⟨here, later⟩ p hp => hp.elim (here p) (later p)⟩

theorem lengthsOf_cases (fs : FileSystem) (storages : List FileSystemMailStorage)
    (lengths : Std.TreeMap Nat Nat) (offset : Nat) :
    (SizesKnown fs (storages.map (·.entries)).flatten ∧
      ∃ result, lengthsOf fs storages lengths offset = .ok result ∧
        ∀ k, result[k]? = lengths[k]?.or (listedIn fs storages offset k)) ∨
    (¬ SizesKnown fs (storages.map (·.entries)).flatten ∧
      lengthsOf fs storages lengths offset = .error .filesystemError) := by
  induction storages generalizing lengths offset with
  | nil => exact .inl ⟨by simp [SizesKnown], lengths, rfl, by simp [listedIn]⟩
  | cons s rest ih =>
    rw [List.map_cons, List.flatten_cons, sizesKnown_append, lengthsOf, s.getEmailsLengths_eq_enter]
    rcases enter_cases fs s.entries offset ∅ with ⟨known, mp, ends, read⟩ | ⟨unknown, ends⟩
    · rw [ends]
      simp only [known, true_and]
      rcases ih (mp.toList.foldl (fun m p => m.insertIfNew p.1 p.2) lengths)
        (offset + s.getEmailsCount) with ⟨knownRest, result, endsRest, readRest⟩ | failed
      · refine .inl ⟨knownRest, result, endsRest, fun k => ?_⟩
        have own : mp[k]? = listed fs s.entries offset k := by simpa using read k
        rw [readRest, getElem?_copy, own, listedIn, Option.or_assoc]
      · exact .inr failed
    · rw [ends]
      exact .inr ⟨fun h => unknown h.1, rfl⟩

/-- **`getEmailsLengths` read back.** -/
theorem getEmailsLengths_cases (fs : FileSystem) (m : Mailbox) :
    (SizesKnown fs m.entries ∧ ∃ result, m.getEmailsLengths fs = .ok result ∧
      ∀ k, result[k]? = listedIn fs m.storages 0 k) ∨
    (¬ SizesKnown fs m.entries ∧ m.getEmailsLengths fs = .error .filesystemError) := by
  rcases lengthsOf_cases fs m.storages ∅ 0 with ⟨known, result, ends, read⟩ | failed
  · exact .inl ⟨known, result, ends, fun k => by simpa using read k⟩
  · exact .inr failed

/-- Every read of a file of the mailbox succeeds. -/
def ReadsSucceed (fs : FileSystem) (m : Mailbox) : Prop :=
  ∀ p ∈ m.files, (fs.file_size p).isSome ∧ (fs.ifstream p).isSome

/-- The listing and the lookups agree: the same numbers, the same lengths, the contents of
the same numbers, and as many entries as the mailbox counts. -/
structure ListAgrees (fs : FileSystem) (m : Mailbox) (lengths : Std.TreeMap Nat Nat) : Prop where
  listing : m.getEmailsLengths fs = .ok lengths
  sameLengths : ∀ n length, lengths[n]? = some length ↔ m.getEmailLength fs n = .ok (.ok length)
  contents : ∀ n, n ∈ lengths ↔ ∃ content, m.getEmail fs n = .ok (.ok content)
  size : lengths.size = m.getEmailsCount

/-- A lookup that returns a length has found an unmarked file. -/
theorem WellFormed.getEmailLength_ok_iff {m : Mailbox} (wf : m.WellFormed) {fs : FileSystem}
    {n length : Nat} :
    m.getEmailLength fs n = .ok (.ok length) ↔
      ∃ q k r s p, m.Found n q k r s p ∧ m.marked q = false ∧ fs.file_size p = some length := by
  constructor
  · intro answer
    cases d : m.denotes n with
    | none => simp [getEmailLength, walked_of_denotes_none d] at answer
    | some q =>
      obtain ⟨k, r, s, p, found⟩ := wf.found d
      cases mark : m.marked q with
      | true => simp [found.getEmailLength_marked mark] at answer
      | false =>
        rw [found.getEmailLength_live mark] at answer
        refine ⟨q, k, r, s, p, found, mark, ?_⟩
        cases size : fs.file_size p with
        | none => simp [size, filesystemCall, Except.map] at answer
        | some l => simpa [size, filesystemCall, Except.map] using answer
  · rintro ⟨q, k, r, s, p, found, mark, size⟩
    rw [found.getEmailLength_live mark, size]
    rfl

/-- A number whose length is returned is below the count. -/
theorem WellFormed.below_of_getEmailLength {m : Mailbox} (wf : m.WellFormed) {fs : FileSystem}
    {n length : Nat} (answer : m.getEmailLength fs n = .ok (.ok length)) : n < m.getEmailsCount := by
  obtain ⟨q, k, r, s, p, found, _⟩ := wf.getEmailLength_ok_iff.mp answer
  by_contra past
  have unwalked := walked_of_denotes_none (denotes_eq_none_iff.mpr (Nat.le_of_not_lt past))
  rw [found.walked] at unwalked
  cases unwalked

theorem WellFormed.goneLast_of_listAgrees {m : Mailbox} (wf : m.WellFormed) {fs : FileSystem}
    {lengths : Std.TreeMap Nat Nat} (agrees : m.ListAgrees fs lengths) :
    ∀ s ∈ m.storages, GoneLast Prod.snd s.entries := by
  have answered : ∀ n, n ∈ lengths → ∃ length, m.getEmailLength fs n = .ok (.ok length) := fun n hn =>
    ⟨lengths[n], (agrees.sameLengths n _).mp (Std.TreeMap.getElem?_eq_some_getElem hn)⟩
  -- as many keys as the count, all of them below it: every number below the count is listed
  have every : ∀ n, n < m.getEmailsCount → n ∈ lengths := by
    intro n below
    rw [← agrees.size] at below
    refine mem_of_size (fun k hk => ?_) below
    obtain ⟨length, answer⟩ := answered k hk
    rw [agrees.size]
    exact wf.below_of_getEmailLength answer
  intro s hs
  obtain ⟨k, block⟩ := List.mem_iff_getElem?.mp hs
  refine goneLast_of_live fun r e below at_r => ?_
  rw [← (wf s hs).getEmailsCount_eq] at below
  have inside := offsetOf_add_lt block below
  rw [← getEmailsCount_sum] at inside
  obtain ⟨length, answer⟩ := answered _ (every _ inside)
  obtain ⟨q, k', r', s', p, found, mark, _⟩ := wf.getEmailLength_ok_iff.mp answer
  cases found.located.symm.trans (locateBy_eq_some_iff.mpr ⟨block, below, rfl⟩)
  rw [marked_eq found.entry] at mark
  cases found.entry_eq.symm.trans at_r
  exact mark

theorem listedIn_before {fs : FileSystem} (storages : List FileSystemMailStorage) {offset k : Nat}
    (h : k < offset) : listedIn fs storages offset k = none := by
  induction storages generalizing offset with
  | nil => rfl
  | cons s rest ih =>
    rw [listedIn, listed_before h, ih (by omega)]
    rfl

/-- Where in each storage the marked files are the last ones, the listing numbers as the
lookups walk. -/
theorem listedIn_eq_locateBy {fs : FileSystem} {storages : List FileSystemMailStorage}
    (wf : ∀ s ∈ storages, s.WellFormed) (last : ∀ s ∈ storages, GoneLast Prod.snd s.entries)
    {offset k : Nat} (reached : offset ≤ k) :
    listedIn fs storages offset k =
      (locateBy FileSystemMailStorage.getEmailsCount storages (k - offset)).bind fun found =>
        found.2.1.entries[found.2.2]?.bind (listedSize fs) := by
  induction storages generalizing offset with
  | nil => rfl
  | cons s rest ih =>
    rw [listedIn, locateBy, listed, if_pos reached]
    by_cases here : k - offset < s.getEmailsCount
    · rw [if_pos here, listedIn_before rest (by omega), Option.or_none]
      rfl
    · have later : offset + s.getEmailsCount ≤ k := by omega
      have gone : s.entries[k - offset]?.bind (listedSize fs) = none := by
        cases at_k : s.entries[k - offset]? with
        | none => rfl
        | some e =>
          rw [(wf s (by simp)).getEmailsCount_eq] at here
          have := (last s (by simp)).gone_of_le (Nat.le_of_not_lt here) at_k
          simp [listedSize, this]
      rw [if_neg here, gone, Option.none_or, ih (fun t ht => wf t (by simp [ht]))
        (fun t ht => last t (by simp [ht])) later, Nat.sub_add_eq]
      cases locateBy FileSystemMailStorage.getEmailsCount rest (k - offset - s.getEmailsCount) <;> rfl

theorem ReadsSucceed.sizesKnown {fs : FileSystem} {m : Mailbox} (reads : m.ReadsSucceed fs) :
    SizesKnown fs m.entries := fun p hp =>
  (reads p (m.map_fst_entries ▸ List.mem_map.mpr ⟨_, hp, rfl⟩)).1

theorem Found.file_mem {m : Mailbox} {n q k r : Nat} {s : FileSystemMailStorage} {p : Path}
    (found : m.Found n q k r s p) : p ∈ m.files :=
  List.mem_flatten.mpr ⟨s.emails, List.mem_map.mpr ⟨s, List.mem_of_getElem? found.storage, rfl⟩,
    List.mem_of_getElem? found.file⟩

/-- The listing has at each number what the walk to it ends at. -/
def ListsWalk (fs : FileSystem) (m : Mailbox) (lengths : Std.TreeMap Nat Nat) : Prop :=
  ∀ n, lengths[n]? =
    (locateBy FileSystemMailStorage.getEmailsCount m.storages n).bind fun found =>
      found.2.1.entries[found.2.2]?.bind (listedSize fs)

/-- A number past the count is neither listed nor found. -/
theorem ListsWalk.past {fs : FileSystem} {m : Mailbox} {lengths : Std.TreeMap Nat Nat}
    (byWalk : m.ListsWalk fs lengths) {n : Nat} (missing : m.denotes n = none) : lengths[n]? = none := by
  rw [byWalk, Option.map_eq_none_iff.mp missing]
  rfl

/-- A number found is found live when the marked files are the last ones, -/
theorem Found.live_of_goneLast {m : Mailbox} {n q k r : Nat} {s : FileSystemMailStorage} {p : Path}
    (found : m.Found n q k r s p) (wf : m.WellFormed)
    (last : ∀ s ∈ m.storages, GoneLast Prod.snd s.entries) : m.marked q = false := by
  have member := List.mem_of_getElem? found.storage
  have below := found.below
  rw [(wf s member).getEmailsCount_eq] at below
  rw [marked_eq found.entry]
  exact (last s member).live_of_lt below found.entry_eq

/-- and its length is listed. -/
theorem ListsWalk.found {fs : FileSystem} {m : Mailbox} {lengths : Std.TreeMap Nat Nat}
    (byWalk : m.ListsWalk fs lengths) {n q k r : Nat} {s : FileSystemMailStorage} {p : Path}
    (found : m.Found n q k r s p) (live : m.marked q = false) : lengths[n]? = fs.file_size p := by
  have live : s.isMailMarkedAsDeleted r = false := (marked_eq found.entry).symm.trans live
  rw [byWalk, found.located, Option.bind_some, found.entry_eq]
  simp [listedSize, live]

theorem WellFormed.listAgrees_of_goneLast {m : Mailbox} (wf : m.WellFormed) {fs : FileSystem}
    (reads : m.ReadsSucceed fs) (last : ∀ s ∈ m.storages, GoneLast Prod.snd s.entries) :
    ∃ lengths, m.ListAgrees fs lengths := by
  rcases m.getEmailsLengths_cases fs with ⟨_, lengths, listing, read⟩ | ⟨unknown, _⟩
  · have byWalk : m.ListsWalk fs lengths := fun n => by
      rw [read, listedIn_eq_locateBy wf last (Nat.zero_le n), Nat.sub_zero]
    refine ⟨lengths, listing, fun n length => ?_, fun n => ?_, ?_⟩
    · cases d : m.denotes n with
      | none => simp [byWalk.past d, getEmailLength, walked_of_denotes_none d]
      | some q =>
        obtain ⟨k, r, s, p, found⟩ := wf.found d
        have live := found.live_of_goneLast wf last
        rw [byWalk.found found live, found.getEmailLength_live live]
        cases fs.file_size p <;> simp [filesystemCall, Except.map]
    · rw [Std.TreeMap.mem_iff_isSome_getElem?]
      cases d : m.denotes n with
      | none => simp [byWalk.past d, getEmail, walked_of_denotes_none d]
      | some q =>
        obtain ⟨k, r, s, p, found⟩ := wf.found d
        have live := found.live_of_goneLast wf last
        obtain ⟨size, content⟩ := reads p found.file_mem
        obtain ⟨c, hc⟩ := Option.isSome_iff_exists.mp content
        obtain ⟨l, hl⟩ := Option.isSome_iff_exists.mp size
        rw [byWalk.found found live, found.getEmail_live live]
        simp [FileSystemMailStorage.readEmail, hc, hl]
    · refine size_eq_of_mem_iff fun n => ?_
      rw [Std.TreeMap.mem_iff_isSome_getElem?]
      cases d : m.denotes n with
      | none =>
        have := denotes_eq_none_iff.mp d
        simp [byWalk.past d]
        omega
      | some q =>
        obtain ⟨k, r, s, p, found⟩ := wf.found d
        rw [byWalk.found found (found.live_of_goneLast wf last), iff_true_left (reads p found.file_mem).1]
        by_contra within
        rw [denotes_eq_none_iff.mpr (Nat.le_of_not_lt within)] at d
        cases d
  · exact absurd reads.sizesKnown unknown

/-- What is marked in a storage is last exactly if every file after a marked one is marked. -/
theorem goneLast_iff_marks {s : FileSystemMailStorage} :
    GoneLast Prod.snd s.entries ↔
      ∀ j, j < s.emails.length → ∀ i, i < j →
        s.isMailMarkedAsDeleted i = true → s.isMailMarkedAsDeleted j = true := by
  have mark : ∀ i (h : i < s.entries.length), s.entries[i].2 = s.isMailMarkedAsDeleted i := by
    intro i h
    simp [FileSystemMailStorage.entries]
  rw [GoneLast, List.pairwise_iff_getElem]
  constructor
  · intro last j inside i before
    have at_j : j < s.entries.length := by simpa using inside
    have := last i j (by omega) at_j before
    rwa [mark, mark] at this
  · intro marks i j at_i at_j before
    rw [mark, mark]
    exact marks j (by simpa using at_j) i before

/-- **LIST agrees with lookup by number** in a state reached from a login, exactly when in
each storage the marked files are the last ones. -/
theorem listing_agrees_iff (name : Bytes) (directories : List (List Path)) (lock : MailboxLock)
    (ops : List Op) (fs : FileSystem)
    (reads : ((opened name directories lock).run ops).ReadsSucceed fs) :
    (∃ lengths, ((opened name directories lock).run ops).ListAgrees fs lengths) ↔
      ∀ s ∈ ((opened name directories lock).run ops).storages,
        ∀ j, j < s.emails.length → ∀ i, i < j →
          s.isMailMarkedAsDeleted i = true → s.isMailMarkedAsDeleted j = true := by
  have wf := (opened_wellFormed name directories lock).run ops
  simp only [← goneLast_iff_marks]
  exact ⟨fun ⟨_, agrees⟩ => wf.goneLast_of_listAgrees agrees, wf.listAgrees_of_goneLast reads⟩

/-- A file system on which every file has the content `x`. -/
def oneByteFiles : FileSystem where
  file_size _ := some 1
  ifstream _ := some (ascii "x")
  pathExists _ := some true
  create_directory _ := some false
  regular_files _ := some []

/-- The last of two files deleted: the listing still agrees. -/
theorem listing_agrees_last_deleted :
    ∃ lengths, ((opened (ascii "u") [[ascii "a", ascii "b"]] ⟨ascii "u", true⟩).run
      [.deleteEmail 1]).ListAgrees oneByteFiles lengths :=
  (listing_agrees_iff (ascii "u") [[ascii "a", ascii "b"]] ⟨ascii "u", true⟩ [.deleteEmail 1]
    oneByteFiles (fun _ _ => ⟨rfl, rfl⟩)).mpr (by decide)

/-- The first of two files deleted: the listing shows number 1, which no lookup finds. -/
theorem listing_disagrees_first_deleted :
    ¬ ∃ lengths, ((opened (ascii "u") [[ascii "a", ascii "b"]] ⟨ascii "u", true⟩).run
      [.deleteEmail 0]).ListAgrees oneByteFiles lengths := by
  rintro ⟨lengths, agrees⟩
  have wf := (opened_wellFormed (ascii "u") [[ascii "a", ascii "b"]] ⟨ascii "u", true⟩).run
    [.deleteEmail 0]
  have last := wf.goneLast_of_listAgrees agrees
    { emails := [ascii "a", ascii "b"], emailsToBeDeleted := [0] } (by decide)
  revert last
  unfold GoneLast
  decide

end Mailbox

end Pop3Serv.Mail
