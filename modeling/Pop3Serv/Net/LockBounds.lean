import Pop3Serv.Net.Locks

/-!
# The lock table in every run

`Locks` assumes names that are C strings. Without that assumption the table still
has bounds: a C string in it is held by a session object, and a name with a NUL
is never taken out once it is in, so that nobody holds it again.
-/

namespace Pop3Serv.Net
open Proto Mail Logic

theorem mem_unlock_of_nul {active : ActiveMailboxes} {name k : Bytes} (nul : (0 : UInt8) ∈ k) :
    k ∈ UnlockMailbox active name ↔ k ∈ active := by
  rw [UnlockMailbox, Finset.mem_erase, and_iff_right]
  rintro rfl
  exact nul_notMem_cstr name nul

theorem ne_of_mem_unlock {active : ActiveMailboxes} {name k : Bytes} (clean : (0 : UInt8) ∉ k)
    (there : k ∈ UnlockMailbox active name) : k ≠ name := by
  rintro rfl
  rw [UnlockMailbox, cstr_of_noNul clean] at there
  exact Finset.notMem_erase _ _ there

theorem unlocked_cases {cfg : Config} (st : Server) {sessionId : Nat} {d : Dialogue}
    (reached : Reached cfg sessionId d) :
    st.unlocked sessionId d = st.activeMailboxes ∨
      ∃ m, d.session.mailbox = some m ∧ ¬ st.Held sessionId d ∧
        st.unlocked sessionId d = UnlockMailbox st.activeMailboxes m.name := by
  by_cases held : st.Held sessionId d
  · exact .inl (if_pos held)
  · cases mailbox : d.session.mailbox with
    | none =>
      refine .inl ?_
      unfold Server.unlocked
      rw [if_neg held, mailbox]
      rfl
    | some m => exact .inr ⟨m, rfl, held, unlocked_eq reached held mailbox⟩

/-- Destroying a session object takes nothing into the table. -/
theorem mem_of_mem_unlocked {cfg : Config} {st : Server} {sessionId : Nat} {d : Dialogue}
    (reached : Reached cfg sessionId d) {name : Bytes} (there : name ∈ st.unlocked sessionId d) :
    name ∈ st.activeMailboxes := by
  rcases unlocked_cases st reached with same | ⟨m, _, _, erased⟩
  · exact same ▸ there
  · rw [erased] at there
    exact Finset.mem_of_mem_erase there

/-- Nor does it take out anything that has a NUL. -/
theorem mem_unlocked_of_nul {cfg : Config} {st : Server} {sessionId : Nat} {d : Dialogue}
    (reached : Reached cfg sessionId d) {name : Bytes} (nul : (0 : UInt8) ∈ name)
    (there : name ∈ st.activeMailboxes) : name ∈ st.unlocked sessionId d := by
  rcases unlocked_cases st reached with same | ⟨m, _, _, erased⟩
  · exact same ▸ there
  · rw [erased, mem_unlock_of_nul nul]
    exact there

/-- A C string of the session that is still in the table: the object has not been destroyed. -/
theorem holds_of_mem_unlocked {cfg : Config} {st : Server} {sessionId : Nat} {d : Dialogue}
    (reached : Reached cfg sessionId d) {name : Bytes} (clean : (0 : UInt8) ∉ name)
    (mine : name ∈ d.holds) (there : name ∈ st.unlocked sessionId d) :
    name ∈ SessionObject.holds ⟨d, st.outcome sessionId d⟩ := by
  by_cases held : st.Held sessionId d
  · rw [Server.outcome, if_pos held]
    exact mine
  · rw [dropped_holds held, POP3Session.holds] at mine
    cases mailbox : d.session.mailbox with
    | none => rw [mailbox] at mine; exact absurd mine (Multiset.notMem_zero name)
    | some m =>
      rw [mailbox] at mine
      have same : name = m.name := Multiset.mem_singleton.mp mine
      rw [unlocked_eq reached held mailbox] at there
      exact absurd same (ne_of_mem_unlock clean there)

/-- What holds of the table in every run: a C string in it is held, and a name with a NUL that
was held once stays in it, so that nobody else ever holds it. -/
structure TableBounds (cfg : Config) (st : Server) : Prop where
  reached : st.All fun sessionId object => Reached cfg sessionId object.dialogue
  backed : ∀ name ∈ st.activeMailboxes, (0 : UInt8) ∉ name →
    ∃ (sessionId : Nat) (object : SessionObject), st.objects[sessionId]? = some object ∧ name ∈ object.holds
  kept : st.All fun _ object =>
    ∀ name ∈ object.dialogue.holds, (0 : UInt8) ∈ name → name ∈ st.activeMailboxes
  once : ∀ (i j : Nat) (oi oj : SessionObject), st.objects[i]? = some oi → st.objects[j]? = some oj →
    ∀ name ∈ oi.dialogue.holds, name ∈ oj.dialogue.holds → (0 : UInt8) ∈ name → i = j

/-- Nothing that has a NUL leaves the table in a step. -/
theorem TableStep.keeps_nul {cfg : Config} {active : ActiveMailboxes} {d : Dialogue} {e : SessionEvent}
    {stepped : Stepped} (table : TableStep cfg active d e stepped) {name : Bytes}
    (nul : (0 : UInt8) ∈ name) (there : name ∈ active) : name ∈ stepped.active := by
  cases table with
  | keeps same _ => rw [same]; exact there
  | acquires _ _ _ _ _ _ grown _ => rw [grown]; exact Finset.mem_insert_of_mem there
  | releases released shrunk _ => rw [shrunk, mem_unlock_of_nul nul]; exact there

/-- What a session holds after a step it held before, or has just acquired. -/
theorem TableStep.holds_cases {cfg : Config} {active : ActiveMailboxes} {d : Dialogue} {e : SessionEvent}
    {stepped : Stepped} (table : TableStep cfg active d e stepped) {name : Bytes}
    (mine : name ∈ stepped.dialogue.holds) : name ∈ d.holds ∨ name ∉ active ∧ name ∈ stepped.active := by
  cases table with
  | keeps _ same => exact .inl (same ▸ mine)
  | acquires _ _ _ _ _ free grown gains =>
    rcases Multiset.mem_cons.mp (gains ▸ mine) with rfl | old
    · exact .inr ⟨free, by rw [grown]; exact Finset.mem_insert_self _ _⟩
    · exact .inl old
  | releases _ _ loses => exact .inl (by rw [loses]; exact Multiset.mem_cons_of_mem mine)

/-- A C string in the table after a step: the session holds it, or it was in the table already and
the session did not hold it. -/
theorem TableStep.backed_cases {cfg : Config} {active : ActiveMailboxes} {d : Dialogue} {e : SessionEvent}
    {stepped : Stepped} (table : TableStep cfg active d e stepped) {name : Bytes}
    (clean : (0 : UInt8) ∉ name) (there : name ∈ stepped.active) :
    name ∈ stepped.dialogue.holds ∨ name ∈ active ∧ name ∉ d.holds := by
  by_cases mine : name ∈ stepped.dialogue.holds
  · exact .inl mine
  · refine .inr ?_
    cases table with
    | keeps same holds => exact ⟨same ▸ there, holds ▸ mine⟩
    | acquires _ _ _ _ _ free grown gains =>
      rw [gains, Multiset.mem_cons, not_or] at mine
      rw [grown, Finset.mem_insert] at there
      exact ⟨there.resolve_left mine.1, mine.2⟩
    | releases released shrunk loses =>
      rw [shrunk] at there
      refine ⟨Finset.mem_of_mem_erase there, ?_⟩
      rw [loses, Multiset.mem_cons, not_or]
      exact ⟨ne_of_mem_unlock clean there, mine⟩

theorem TableBounds.stepSession {cfg : Config} {st st' : Server} {sessionId : Nat} {e : SessionEvent}
    (h : TableBounds cfg st) (step : st.stepSession cfg sessionId e = some st') : TableBounds cfg st' := by
  obtain ⟨d, stepped, lives, moved, rfl⟩ := Server.stepSession_cases step
  have reached : Reached cfg sessionId d := h.reached sessionId _ lives
  have table := step_table reached.typestate reached.loginPending moved
  have after := Server.reached_step sessionId d e _ stepped reached moved
  -- a name with a NUL that the session holds now was free before, or the session's already
  have sole : ∀ (other : Nat) (o : SessionObject), st.objects[other]? = some o →
      ∀ name ∈ o.dialogue.holds, name ∈ stepped.dialogue.holds → (0 : UInt8) ∈ name → other = sessionId := by
    intro other o found name his mine nul
    rcases table.holds_cases mine with old | ⟨free, _⟩
    · exact h.once other sessionId o ⟨d, none⟩ found lives name his old nul
    · exact absurd (h.kept other o found name his nul) free
  have stays : ∀ name, (0 : UInt8) ∈ name → name ∈ stepped.active →
      name ∈ (st.between sessionId stepped).unlocked sessionId stepped.dialogue :=
    fun name nul there => mem_unlocked_of_nul after nul there
  rw [Server.settle_eq]
  refine ⟨h.reached.set after, ?_, ?_, ?_⟩
  · intro name there clean
    rcases table.backed_cases clean (mem_of_mem_unlocked after there) with mine | ⟨old, notMine⟩
    · exact ⟨sessionId, _, List.getElem?_set_self (List.getElem?_eq_some_iff.mp lives).1,
        holds_of_mem_unlocked after clean mine there⟩
    · obtain ⟨other, o, found, his⟩ := h.backed name old clean
      have differ : other ≠ sessionId := by
        rintro rfl
        cases lives.symm.trans found
        exact notMine his
      exact ⟨other, o, by rw [List.getElem?_set_ne (Ne.symm differ)]; exact found, his⟩
  · refine Server.All.set (P := fun _ object => ∀ name ∈ object.dialogue.holds, (0 : UInt8) ∈ name →
      name ∈ (st.between sessionId stepped).unlocked sessionId stepped.dialogue) ?_ ?_
    · exact fun other o found name his nul =>
        stays name nul (table.keeps_nul nul (h.kept other o found name his nul))
    · intro name mine nul
      rcases table.holds_cases mine with old | ⟨_, acquired⟩
      · exact stays name nul (table.keeps_nul nul (h.kept sessionId ⟨d, none⟩ lives name old nul))
      · exact stays name nul acquired
  · intro i j oi oj at_i at_j name mine yours nul
    rcases Server.object_set_cases at_i with ⟨rfl, rfl⟩ | ⟨_, at_i⟩
    · rcases Server.object_set_cases at_j with ⟨rfl, _⟩ | ⟨_, at_j⟩
      · rfl
      · exact (sole j oj at_j name yours mine nul).symm
    · rcases Server.object_set_cases at_j with ⟨rfl, rfl⟩ | ⟨_, at_j⟩
      · exact sole i oi at_i name mine yours nul
      · exact h.once i j oi oj at_i at_j name mine yours nul

theorem Server.tableBounds {cfg : Config} {st : Server} (reachable : Reachable (Server.step cfg) {} st) :
    TableBounds cfg st := by
  refine reachable_invariant (I := TableBounds cfg) ?_ ?_ ?_
    (fun _ _ _ _ h step => h.stepSession step) reachable
  · exact ⟨by simp [Server.All], by simp, by simp [Server.All], by simp⟩
  · intro st st' h same
    refine ⟨h.reached.same same, ?_, ?_, ?_⟩
    · rw [same.activeMailboxes, same.objects]; exact h.backed
    · unfold Server.All
      rw [same.activeMailboxes, same.objects]
      exact h.kept
    · rw [same.objects]; exact h.once
  · intro st h
    have nothing : ∀ sessionId, ∀ name, name ∉ (created sessionId).holds := fun _ name =>
      Multiset.notMem_zero name
    refine ⟨h.reached.createSession fun _ => Reachable.refl _, ?_, ?_, ?_⟩
    · intro name there clean
      obtain ⟨sessionId, o, found, held⟩ := h.backed name there clean
      have bound := (List.getElem?_eq_some_iff.mp found).1
      exact ⟨sessionId, o, (List.getElem?_append_left bound).trans found, held⟩
    · exact Server.All.createSession (P := fun _ object => ∀ name ∈ object.dialogue.holds,
        (0 : UInt8) ∈ name → name ∈ st.activeMailboxes) h.kept
        fun sessionId name mine => absurd mine (nothing sessionId name)
    · intro i j oi oj at_i at_j name mine yours nul
      rcases createSession_objects at_i with old_i | ⟨rfl, rfl⟩
      · rcases createSession_objects at_j with old_j | ⟨rfl, rfl⟩
        · exact h.once i j oi oj old_i old_j name mine yours nul
        · exact absurd yours (nothing _ name)
      · exact absurd mine (nothing _ name)

end Pop3Serv.Net
