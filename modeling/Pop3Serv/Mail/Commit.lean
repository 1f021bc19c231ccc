import Pop3Serv.Mail.Numbering

/-!
# What the destructors remove

A storage destroyed without its update flag removes nothing; with the flag it
removes the files whose positions are recorded. `isMailMarkedAsDeleted` also
answers for the files a `deleteEmails` marked, which are recorded nowhere, so the
two sets of files differ exactly by those (`recorded_eq_marked_iff`).
-/

namespace Pop3Serv.Mail

/-- A loop of calls that all return. -/
theorem mapM_ok {α β : Type} {l : List α} {f : α → Except Fault β} {g : α → β}
    (returns : ∀ a ∈ l, f a = .ok (g a)) : l.mapM f = .ok (l.map g) := by
  induction l with
  | nil => rfl
  | cons a l ih =>
    rw [List.mapM_cons, returns a List.mem_cons_self, ih fun b hb => returns b (List.mem_cons_of_mem a hb)]
    rfl

namespace FileSystemMailStorage

theorem destroy_open {s : FileSystemMailStorage} (uncommitted : s.updateAtClose = false) :
    s.destroy = .ok [] := by
  unfold destroy
  rw [if_neg (by simp [uncommitted])]

/-- The files a committed storage removes. -/
def recorded (s : FileSystemMailStorage) : List Path :=
  s.emailsToBeDeleted.map fun i => s.emails.getD i []

theorem WellFormed.destroy_committed {s : FileSystemMailStorage} (wf : s.WellFormed)
    (committed : s.updateAtClose = true) : s.destroy = .ok s.recorded := by
  unfold destroy recorded
  rw [if_pos committed]
  refine mapM_ok fun i hi => ?_
  have inside := wf.inRange i hi
  simp [emailAt, List.getElem?_eq_getElem inside]

theorem WellFormed.mem_recorded_iff {s : FileSystemMailStorage} (wf : s.WellFormed) {p : Path} :
    p ∈ s.recorded ↔ ∃ i ∈ s.emailsToBeDeleted, s.emails[i]? = some p := by
  unfold recorded
  rw [List.mem_map]
  refine exists_congr fun i => and_congr_right fun hi => ?_
  have inside := wf.inRange i hi
  simp [List.getElem?_eq_getElem inside]

end FileSystemMailStorage

namespace Mailbox

/-- The file is recorded for deletion, in one of the storages. -/
def Recorded (m : Mailbox) (p : Path) : Prop :=
  ∃ s ∈ m.storages, ∃ i ∈ s.emailsToBeDeleted, s.emails[i]? = some p

/-- The file is one `isMailMarkedAsDeleted` is true for, in one of the storages. -/
def MarkedFile (m : Mailbox) (p : Path) : Prop :=
  ∃ s ∈ m.storages, ∃ i, s.emails[i]? = some p ∧ s.isMailMarkedAsDeleted i = true

/-- No storage of the mailbox has been told to commit. -/
def Uncommitted (m : Mailbox) : Prop := ∀ s ∈ m.storages, s.updateAtClose = false

theorem Uncommitted.destroyStorages {m : Mailbox} (h : m.Uncommitted) :
    m.destroyStorages = .ok [] := by
  unfold Mailbox.destroyStorages
  rw [mapM_ok fun s hs => FileSystemMailStorage.destroy_open (h s hs)]
  show Except.ok (m.storages.map fun _ => []).flatten = _
  simp

/-- **What an acknowledged `QUIT` removes**: the files recorded, in every storage. -/
theorem WellFormed.destroyStorages_setUpdate {m : Mailbox} (wf : m.WellFormed) :
    ∃ removed, m.setUpdate.destroyStorages = .ok removed ∧ ∀ p, p ∈ removed ↔ m.Recorded p := by
  have wf' := wf.setUpdate
  have all : ∀ s ∈ m.setUpdate.storages, s.updateAtClose = true := by
    intro s hs
    obtain ⟨t, _, rfl⟩ := List.mem_map.mp hs
    rfl
  refine ⟨(m.setUpdate.storages.map (·.recorded)).flatten, ?_, fun p => ?_⟩
  · unfold Mailbox.destroyStorages
    rw [mapM_ok fun s hs => (wf' s hs).destroy_committed (all s hs)]
    rfl
  · have same : (m.setUpdate.storages.map (·.recorded)) = m.storages.map (·.recorded) := by
      unfold Mailbox.setUpdate
      rw [List.map_map]
      rfl
    rw [same, List.mem_flatten]
    constructor
    · rintro ⟨l, hl, hp⟩
      obtain ⟨s, hs, rfl⟩ := List.mem_map.mp hl
      exact ⟨s, hs, (wf s hs).mem_recorded_iff.mp hp⟩
    · rintro ⟨s, hs, hp⟩
      exact ⟨_, List.mem_map_of_mem hs, (wf s hs).mem_recorded_iff.mpr hp⟩

/-- What is removed is what is marked, exactly if every file that a `deleteEmails` marked is
also recorded by number. -/
theorem recorded_eq_marked_iff {m : Mailbox} :
    (∀ p, m.Recorded p ↔ m.MarkedFile p) ↔
      ∀ s ∈ m.storages, s.deleteAll = true → ∀ p ∈ s.emails, m.Recorded p := by
  constructor
  · intro exactly s hs all p hp
    obtain ⟨i, file⟩ := List.mem_iff_getElem?.mp hp
    have marked : s.isMailMarkedAsDeleted i = true :=
      FileSystemMailStorage.isMailMarkedAsDeleted_iff.mpr (.inl all)
    exact (exactly p).mpr ⟨s, hs, i, file, marked⟩
  · intro covered p
    constructor
    · rintro ⟨s, hs, i, hi, file⟩
      have marked : s.isMailMarkedAsDeleted i = true :=
        FileSystemMailStorage.isMailMarkedAsDeleted_iff.mpr (.inr hi)
      exact ⟨s, hs, i, file, marked⟩
    · rintro ⟨s, hs, i, file, marked⟩
      rcases FileSystemMailStorage.isMailMarkedAsDeleted_iff.mp marked with all | member
      · exact covered s hs all p (List.mem_of_getElem? file)
      · exact ⟨s, hs, i, member, file⟩

theorem apply_updateAtClose (m : Mailbox) (op : Op) :
    (m.apply op).storages.map (·.updateAtClose) = m.storages.map (·.updateAtClose) := by
  cases op with
  | deleteEmail n => exact deleteEmail_map _ (fun s n => (s.deleteEmail_keeps n).2) m n
  | deleteEmails => simp [apply, deleteEmails, FileSystemMailStorage.deleteEmails, Function.comp_def]
  | reset => simp [apply, reset, FileSystemMailStorage.reset, Function.comp_def]

theorem uncommitted_iff {m : Mailbox} :
    m.Uncommitted ↔ ∀ flag ∈ m.storages.map (·.updateAtClose), flag = false := by
  simp [Uncommitted]

/-- Only `setUpdate` commits. -/
theorem uncommitted_run_iff {m : Mailbox} (ops : List Op) : (m.run ops).Uncommitted ↔ m.Uncommitted := by
  induction ops generalizing m with
  | nil => rfl
  | cons op ops ih =>
    have step : (m.apply op).Uncommitted ↔ m.Uncommitted := by
      rw [uncommitted_iff, uncommitted_iff, apply_updateAtClose]
    exact ih.trans step

theorem opened_uncommitted (name : Bytes) (directories : List (List Path)) (lock : MailboxLock) :
    (opened name directories lock).Uncommitted := by
  intro s hs
  obtain ⟨emails, _, rfl⟩ := List.mem_map.mp hs
  rfl

/-- The mailbox as it was opened. -/
def asOpened (m : Mailbox) : Mailbox := opened m.name (m.storages.map (·.emails)) m.lock

theorem SameBox.asOpened {m m' : Mailbox} (same : SameBox m m') : m'.asOpened = m.asOpened := by
  unfold Mailbox.asOpened
  rw [same.name, same.lock, same.emails]

theorem asOpened_opened (name : Bytes) (directories : List (List Path)) (lock : MailboxLock) :
    (opened name directories lock).asOpened = opened name directories lock := by
  simp [asOpened, opened, Function.comp_def]

/-- `reset` forgets what a call has marked. -/
theorem reset_apply (m : Mailbox) (op : Op) : (m.apply op).reset = m.reset := by
  have same : SameBox m (m.apply op) := sameBox_run m [op]
  have storages : (m.apply op).storages.map (·.reset) = m.storages.map (·.reset) := by
    cases op with
    | deleteEmail n =>
      refine deleteEmail_map _ (fun s n => ?_) m n
      unfold FileSystemMailStorage.deleteEmail
      split <;> rfl
    | deleteEmails => exact List.map_map
    | reset => exact List.map_map
  simp only [reset, Mailbox.mk.injEq]
  exact ⟨same.name, storages, same.lock⟩

theorem reset_run (m : Mailbox) (ops : List Op) : (m.run ops).reset = m.reset := by
  induction ops generalizing m with
  | nil => rfl
  | cons op ops ih => exact (ih (m.apply op)).trans (m.reset_apply op)

theorem reset_opened (name : Bytes) (directories : List (List Path)) (lock : MailboxLock) :
    (opened name directories lock).reset = opened name directories lock := by
  simp only [reset, opened, List.map_map, Mailbox.mk.injEq, true_and, and_true]
  rfl

theorem recorded_setUpdate (m : Mailbox) (p : Path) : m.setUpdate.Recorded p ↔ m.Recorded p := by
  simp [Recorded, setUpdate, FileSystemMailStorage.setUpdateFlag]

end Mailbox

end Pop3Serv.Mail
