import Pop3Serv.Mail.Marks

/-!
# Message numbers over a transaction

A number is bound to a file at login. `Stable` says that every number still acts
on its file; it holds exactly while the marked files are the last ones
(`stable_iff`), because `findStorage` walks by the counts of what is not marked.
Over a run that means: every `deleteEmail` asks for the last number there is, or
for one past it.
-/

namespace Pop3Serv.Mail
open Logic

namespace Mailbox

/-- A mailbox opened over storages with these files: nothing is marked. -/
def opened (name : Bytes) (directories : List (List Path)) (lock : MailboxLock) : Mailbox :=
  { name, storages := directories.map fun emails => { emails }, lock }

/-- The calls that change which files are marked. -/
inductive Op where
  | deleteEmail (emailNumber : Nat)
  | deleteEmails
  | reset
  deriving DecidableEq, Repr

def apply (m : Mailbox) : Op → Mailbox
  | .deleteEmail emailNumber => (m.deleteEmail emailNumber).1
  | .deleteEmails => m.deleteEmails
  | .reset => m.reset

/-- The mailbox after a sequence of calls. -/
def run (m : Mailbox) (ops : List Op) : Mailbox := ops.foldl apply m

@[simp] theorem run_nil (m : Mailbox) : m.run [] = m := rfl

theorem run_append (m : Mailbox) (ops more : List Op) : m.run (ops ++ more) = (m.run ops).run more :=
  List.foldl_append

theorem run_snoc (m : Mailbox) (ops : List Op) (op : Op) : m.run (ops ++ [op]) = (m.run ops).apply op :=
  run_append m ops [op]

theorem opened_wellFormed (name : Bytes) (directories : List (List Path)) (lock : MailboxLock) :
    (opened name directories lock).WellFormed := by
  intro s hs
  obtain ⟨emails, _, rfl⟩ := List.mem_map.mp hs
  constructor <;> simp

theorem opened_unmarked (name : Bytes) (directories : List (List Path)) (lock : MailboxLock) :
    ∀ e ∈ (opened name directories lock).entries, e.2 = false := by
  intro e he
  obtain ⟨l, hl, inside⟩ := List.mem_flatten.mp he
  obtain ⟨s, hs, rfl⟩ := List.mem_map.mp hl
  obtain ⟨emails, _, rfl⟩ := List.mem_map.mp hs
  obtain ⟨p, _, rfl⟩ := List.mem_map.mp inside
  rfl

theorem opened_files (name : Bytes) (directories : List (List Path)) (lock : MailboxLock) :
    (opened name directories lock).files = directories.flatten := by
  simp [files, opened, Function.comp_def]

theorem WellFormed.apply {m : Mailbox} (wf : m.WellFormed) (op : Op) : (m.apply op).WellFormed := by
  cases op with
  | deleteEmail n => exact wf.deleteEmail n
  | deleteEmails => exact wf.deleteEmails
  | reset => exact WellFormed.reset m

/-- The invariant holds after every run. -/
theorem WellFormed.run {m : Mailbox} (wf : m.WellFormed) (ops : List Op) : (m.run ops).WellFormed := by
  induction ops generalizing m with
  | nil => exact wf
  | cons op ops ih => exact ih (wf.apply op)

theorem sameBox_apply (m : Mailbox) (op : Op) : SameBox m (m.apply op) := by
  cases op with
  | deleteEmail n => exact sameBox_deleteEmail m n
  | deleteEmails => exact sameBox_deleteEmails m
  | reset => exact sameBox_reset m

/-- No call changes which files there are, nor their order. -/
theorem sameBox_run (m : Mailbox) (ops : List Op) : SameBox m (m.run ops) := by
  induction ops generalizing m with
  | nil => exact SameBox.refl m
  | cons op ops ih => exact (sameBox_apply m op).trans (ih (m.apply op))

/-- Number `n` acts on the file `p`: its size and content are read from `p`, and
`deleteEmail` marks the file with login number `n` and no other. -/
structure ActsOn (m : Mailbox) (n : Nat) (p : Path) : Prop where
  length : ∀ fs, m.getEmailLength fs n = (filesystemCall (fs.file_size p)).map .ok
  content : ∀ fs, m.getEmail fs n = FileSystemMailStorage.readEmail fs p
  answer : (m.deleteEmail n).2 = .NoError
  delete : (m.deleteEmail n).1.entries = m.entries.set n (p, true)

/-- Number `n` is answered with an error, and `deleteEmail` marks nothing. -/
structure Refuses (m : Mailbox) (n : Nat) : Prop where
  length : ∀ fs, ∃ err, m.getEmailLength fs n = .ok (.error err)
  content : ∀ fs, ∃ err, m.getEmail fs n = .ok (.error err)
  answer : (m.deleteEmail n).2 ≠ .NoError
  delete : (m.deleteEmail n).1 = m

/-- Every number is still bound to its file of `files`. -/
def Stable (m : Mailbox) (files : List Path) : Prop :=
  ∀ n, (∀ p, files[n]? = some p → m.marked n = false → m.ActsOn n p) ∧
    (m.marked n = true ∨ files.length ≤ n → m.Refuses n)

theorem refuses_of_denotes_none {m : Mailbox} {n : Nat} (h : m.denotes n = none) : m.Refuses n := by
  have walked := walked_of_denotes_none h
  refine ⟨fun fs => ⟨.EmailNotFound, ?_⟩, fun fs => ⟨.EmailNotFound, ?_⟩, ?_, ?_⟩
  · simp [getEmailLength, walked]
  · simp [getEmail, walked]
  · simp [deleteEmail, walked]
  · simp [deleteEmail, walked]

theorem Found.actsOn {m : Mailbox} {n k r : Nat} {s : FileSystemMailStorage} {p : Path}
    (found : m.Found n n k r s p) (mark : m.marked n = false) : m.ActsOn n p where
  length := found.getEmailLength_live mark
  content := found.getEmail_live mark
  answer := by rw [found.deleteEmail_live mark]
  delete := found.deleteEmail_entries mark

/-- A lookup that reads a file has found one. -/
theorem denotes_of_actsOn {m : Mailbox} {n : Nat} {p : Path} (h : m.ActsOn n p) : m.denotes n ≠ none := by
  intro missing
  have answer := h.answer
  simp [deleteEmail, walked_of_denotes_none missing] at answer

/-- While the marked files are the last ones, a number below the count denotes its own file. -/
theorem WellFormed.denotes_of_goneLast {m : Mailbox} (wf : m.WellFormed)
    (last : GoneLast Prod.snd m.entries) {n : Nat} (below : n < m.getEmailsCount) :
    m.denotes n = some n := by
  cases d : m.denotes n with
  | none => exact absurd (denotes_eq_none_iff.mp d) (by omega)
  | some q =>
    obtain ⟨⟨k, s, r⟩, located, rfl⟩ := Option.map_eq_some_iff.mp d
    have byMarks : locateBy (remaining Prod.snd) (m.storages.map (·.entries)) n =
        some (k, s.entries, r) := by
      rw [locateBy_map, ← locateBy_congr fun s hs => (wf s hs).getEmailsCount_eq, located]
      rfl
    exact congrArg some (last.locateBy_remaining byMarks)

/-- **Numbers are stable exactly while the marked files are the last ones.** -/
theorem WellFormed.stable_iff {m : Mailbox} (wf : m.WellFormed) :
    m.Stable m.files ↔ GoneLast Prod.snd m.entries := by
  constructor
  · intro stable
    refine goneLast_of_lt fun n e at_n live => ?_
    have file : m.files[n]? = some e.1 := by rw [files_getElem?, at_n]; rfl
    have acts := (stable n).1 e.1 file (by rw [marked_eq at_n]; exact live)
    rw [← wf.getEmailsCount_eq]
    by_contra past
    exact denotes_of_actsOn acts (denotes_eq_none_iff.mpr (by omega))
  · intro last n
    refine ⟨fun p file mark => ?_, fun gone => refuses_of_denotes_none (denotes_eq_none_iff.mpr ?_)⟩
    · rw [files_getElem?, Option.map_eq_some_iff] at file
      obtain ⟨e, at_n, rfl⟩ := file
      have below : n < m.getEmailsCount := by
        by_contra past
        rw [wf.getEmailsCount_eq] at past
        have := last.gone_of_le (Nat.le_of_not_lt past) at_n
        rw [marked_eq at_n, this] at mark
        cases mark
      obtain ⟨k, r, s, p, found⟩ := wf.found (wf.denotes_of_goneLast last below)
      have same : e = (p, s.isMailMarkedAsDeleted r) := Option.some.inj (at_n.symm.trans found.entry)
      rw [same]
      exact found.actsOn mark
    · rw [wf.getEmailsCount_eq]
      by_contra below
      have inside : n < m.entries.length :=
        Nat.lt_of_lt_of_le (Nat.lt_of_not_le below) (remaining_le_length _)
      have live := last.live_of_lt (Nat.lt_of_not_le below) (List.getElem?_eq_getElem inside)
      rcases gone with mark | past
      · rw [marked_eq (List.getElem?_eq_getElem inside), live] at mark
        cases mark
      · rw [← length_entries] at past
        omega

/-- What one call does to the order of the marks. -/
theorem WellFormed.goneLast_apply_iff {m : Mailbox} (wf : m.WellFormed)
    (last : GoneLast Prod.snd m.entries) (op : Op) :
    GoneLast Prod.snd (m.apply op).entries ↔ ∀ n, op = .deleteEmail n → m.getEmailsCount ≤ n + 1 := by
  cases op with
  | deleteEmail n =>
    simp only [Op.deleteEmail.injEq, forall_eq']
    by_cases below : n < m.getEmailsCount
    · have denoted := wf.denotes_of_goneLast last below
      obtain ⟨k, r, s, p, found⟩ := wf.found denoted
      have mark : m.marked n = false := by
        rw [marked_eq found.entry]
        rw [wf.getEmailsCount_eq] at below
        exact last.live_of_lt below found.entry
      rw [wf.getEmailsCount_eq] at below ⊢
      rw [Mailbox.apply, found.deleteEmail_entries mark]
      exact last.set_iff below rfl
    · have same : m.apply (.deleteEmail n) = m :=
        (refuses_of_denotes_none (denotes_eq_none_iff.mpr (Nat.le_of_not_lt below))).delete
      rw [same]
      exact ⟨fun _ => by omega, fun _ => last⟩
  | deleteEmails =>
    rw [Mailbox.apply, entries_deleteEmails]
    refine ⟨fun _ n e => (nomatch e), fun _ => ?_⟩
    rw [← List.nil_append (m.entries.map _)]
    exact goneLast_append (by simp) (by simp)
  | reset =>
    rw [Mailbox.apply, entries_reset, ← List.append_nil (m.entries.map _)]
    refine ⟨fun _ n e => (nomatch e), fun _ => ?_⟩
    exact goneLast_append (by simp) (by simp)

theorem opened_goneLast (name : Bytes) (directories : List (List Path)) (lock : MailboxLock) :
    GoneLast Prod.snd (opened name directories lock).entries := by
  rw [← List.append_nil (opened name directories lock).entries]
  exact goneLast_append (opened_unmarked name directories lock) (by simp)

/-- **Message numbers over a run.** After every part of a sequence of calls every number is
still bound to its file of the login, exactly when every `deleteEmail` in the sequence asks,
in the state it meets, for the last number or for one past it. -/
theorem numbers_stable_iff (name : Bytes) (directories : List (List Path)) (lock : MailboxLock)
    (ops : List Op) :
    (∀ done, done <+: ops → ((opened name directories lock).run done).Stable directories.flatten) ↔
      ∀ done n, done ++ [.deleteEmail n] <+: ops →
        ((opened name directories lock).run done).getEmailsCount ≤ n + 1 := by
  have wf := opened_wellFormed name directories lock
  have stable_at : ∀ done, ((opened name directories lock).run done).Stable directories.flatten ↔
      GoneLast Prod.snd ((opened name directories lock).run done).entries := by
    intro done
    rw [← (wf.run done).stable_iff, (sameBox_run _ done).files, opened_files]
  simp only [stable_at]
  constructor
  · intro all done n part
    have before := all done (List.IsPrefix.trans (List.prefix_append _ _) part)
    have after := all _ part
    rw [run_snoc] at after
    exact ((wf.run done).goneLast_apply_iff before _).mp after n rfl
  · intro low done
    induction done using List.reverseRecOn with
    | nil => exact fun _ => opened_goneLast name directories lock
    | append_singleton done op ih =>
      intro part
      have before := ih (List.IsPrefix.trans (List.prefix_append _ _) part)
      rw [run_snoc]
      refine ((wf.run done).goneLast_apply_iff before op).mpr fun n e => ?_
      exact low done n (e ▸ part)

/-- Two storages with files `a`, `b` and `c`: once `a` is deleted, number 1 reads `c` instead of `b`. -/
theorem number_denotes_other_file :
    ¬ ((opened (ascii "u") [[ascii "a", ascii "b"], [ascii "c"]] ⟨ascii "u", true⟩).run
      [.deleteEmail 0]).Stable [ascii "a", ascii "b", ascii "c"] := by
  intro stable
  have acts := (stable 1).1 (ascii "b") (by decide) (by decide)
  have length := acts.length
    { file_size := fun p => if p = ascii "c" then some 7 else some 5
      ifstream := fun _ => none
      pathExists := fun _ => none
      create_directory := fun _ => none
      regular_files := fun _ => none }
  revert length
  decide

end Mailbox

end Pop3Serv.Mail
