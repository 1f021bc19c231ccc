import Pop3Serv.Net.LockBounds
import Pop3Serv.Net.QuitCommit

/-!
# How long a session object lives

A session is in the list exactly until its chain of reads and writes is over, and
its object lives exactly while something holds it (`Lifetimes`). Nothing that ends
the chain touches the timer, so the object of a session that is over is destroyed
exactly when its timer wait is over too.
-/

namespace Pop3Serv.Net
open Proto Mail Logic

/-- A step ends the chain and takes the session off the list, or does neither. -/
inductive Ending (d : Dialogue) (stepped : Stepped) : Prop
  | ends (goesOn : d.control ≠ .ended) (ended : stepped.dialogue.control = .ended)
      (deleted : stepped.deleted = true)
  | stays (same : stepped.dialogue.control = .ended ↔ d.control = .ended) (kept : stepped.deleted = false)

theorem Control.Same.ended_iff {control control' : Control} (same : control.Same control') :
    control' = .ended ↔ control = .ended := by
  cases same <;> simp

theorem Ending.of_handling {d d' : Dialogue} {active : ActiveMailboxes} (goesOn : d.control ≠ .ended)
    (goesOn' : d'.control ≠ .ended) : Ending d { dialogue := d', active } :=
  .stays ⟨fun ended => absurd ended goesOn', fun ended => absurd ended goesOn⟩ rfl

theorem handlerEnded_goesOn (cfg : Config) (d : Dialogue) (fs : FileSystems) (ended : Ended) :
    (d.handlerEnded cfg fs ended).control ≠ .ended := by
  rcases handlerEnded_control cfg d fs ended with writing | escaped
  · rw [writing]; nofun
  · rw [escaped]; nofun

theorem step_ending {cfg : Config} {active : ActiveMailboxes} {d : Dialogue} {e : SessionEvent}
    {stepped : Stepped} (h : d.step cfg active e = some stepped) : Ending d stepped := by
  cases step_stepping h with
  | operation control timer same silent => exact .stays same.ended_iff rfl
  | readStarted event accepted => exact .of_handling (by simp [accepted]) nofun
  | received chunk event reading => exact .of_handling (by simp [reading]) nofun
  | runRead ec fs event reading =>
    have goesOn : d.control ≠ .ended := by simp [reading]
    unfold Dialogue.runRead
    split
    · split
      · exact .of_handling goesOn nofun
      · exact .of_handling goesOn (handlerEnded_goesOn cfg d fs _)
    · exact .ends goesOn rfl rfl
  | runLogin lock password fs event loggingIn =>
    exact .of_handling (by simp [loggingIn]) (handlerEnded_goesOn cfg d fs _)
  | runWrite ec event writing =>
    have goesOn : d.control ≠ .ended := by simp [writing]
    unfold Dialogue.runWrite
    split
    · split
      · exact .ends goesOn rfl rfl
      · exact .of_handling goesOn nofun
    · exact .ends goesOn rfl rfl

/-- The list of sessions, the chains and the objects that live, against each other. -/
structure Lifetimes (st : Server) : Prop where
  nodup : st.sessions.Nodup
  inRange : ∀ sessionId ∈ st.sessions, sessionId < st.objects.length
  /-- a session is in the list until its chain is over -/
  listed : st.All fun sessionId object => (sessionId ∈ st.sessions ↔ object.dialogue.control ≠ .ended)
  /-- an object lives while something holds it -/
  held : st.All fun sessionId object => (object.released = none ↔ st.Held sessionId object.dialogue)

theorem Server.held_congr {st st' : Server} {sessionId : Nat} {d : Dialogue}
    (same : sessionId ∈ st'.sessions ↔ sessionId ∈ st.sessions) :
    st'.Held sessionId d ↔ st.Held sessionId d := by
  unfold Server.Held
  rw [same]

/-- An object not touched by a step, and a session whose place in the list is not either. -/
theorem Lifetimes.untouched {st st' : Server} (h : Lifetimes st) {sessionId : Nat}
    {object : SessionObject} (found : st.objects[sessionId]? = some object)
    (same : sessionId ∈ st'.sessions ↔ sessionId ∈ st.sessions) :
    (sessionId ∈ st'.sessions ↔ object.dialogue.control ≠ .ended) ∧
      (object.released = none ↔ st'.Held sessionId object.dialogue) :=
  ⟨same.trans (h.listed sessionId object found),
    (h.held sessionId object found).trans (Server.held_congr same).symm⟩

theorem Lifetimes.createSession {st : Server} (h : Lifetimes st) : Lifetimes st.createSession := by
  have fresh : st.objects.length ∉ st.sessions := fun member => Nat.lt_irrefl _ (h.inRange _ member)
  have each : st.createSession.All fun sessionId object =>
      (sessionId ∈ st.createSession.sessions ↔ object.dialogue.control ≠ .ended) ∧
        (object.released = none ↔ st.createSession.Held sessionId object.dialogue) := by
    intro sessionId object found
    rcases Server.createSession_objects found with old | ⟨rfl, rfl⟩
    · refine h.untouched old ?_
      have bound := (List.getElem?_eq_some_iff.mp old).1
      simp only [Server.createSession, List.mem_cons, or_iff_right_iff_imp]
      omega
    · have member : st.objects.length ∈ st.createSession.sessions := List.mem_cons_self
      exact ⟨iff_of_true member (by simp [created]), iff_of_true rfl (.inl member)⟩
  refine ⟨List.nodup_cons.mpr ⟨fresh, h.nodup⟩, ?_, fun i o found => (each i o found).1,
    fun i o found => (each i o found).2⟩
  intro sessionId member
  simp only [Server.createSession, List.length_append, List.length_singleton]
  rcases List.mem_cons.mp member with rfl | old
  · exact Nat.lt_succ_self _
  · exact Nat.lt_succ_of_lt (h.inRange sessionId old)

theorem Lifetimes.stepSession {cfg : Config} {st st' : Server} {sessionId : Nat} {e : SessionEvent}
    (h : Lifetimes st) (step : st.stepSession cfg sessionId e = some st') : Lifetimes st' := by
  obtain ⟨d, stepped, lives, moved, rfl⟩ := Server.stepSession_cases step
  have listed := h.listed sessionId _ lives
  -- the session's own place in the list follows its chain, the others' does not change
  obtain ⟨sublist, own, others⟩ : (st.between sessionId stepped).sessions.Sublist st.sessions ∧
      (sessionId ∈ (st.between sessionId stepped).sessions ↔ stepped.dialogue.control ≠ .ended) ∧
      ∀ other, other ≠ sessionId → (other ∈ (st.between sessionId stepped).sessions ↔ other ∈ st.sessions) := by
    unfold Server.between
    cases step_ending moved with
    | ends goesOn ended deleted =>
      simp only [deleted, if_true, ended]
      refine ⟨List.erase_sublist, ?_, fun other differ => List.mem_erase_of_ne differ⟩
      simp [h.nodup.mem_erase_iff]
    | stays same kept =>
      simp only [kept, Bool.false_eq_true, if_false]
      exact ⟨List.Sublist.refl _, listed.trans (not_congr same.symm), fun _ _ => trivial⟩
  rw [Server.settle_eq]
  have each : ∀ (other : Nat) (object : SessionObject),
      (st.objects.set sessionId ⟨stepped.dialogue,
        (st.between sessionId stepped).outcome sessionId stepped.dialogue⟩)[other]? = some object →
      (other ∈ (st.between sessionId stepped).sessions ↔ object.dialogue.control ≠ .ended) ∧
        (object.released = none ↔ (st.between sessionId stepped).Held other object.dialogue) := by
    intro other object found
    rcases Server.object_set_cases found with ⟨rfl, rfl⟩ | ⟨differ, old⟩
    · refine ⟨own, ?_⟩
      unfold Server.outcome
      split
      · rename_i held; exact iff_of_true rfl held
      · rename_i dropped; exact iff_of_false nofun dropped
    · exact h.untouched old (others other differ)
  refine ⟨sublist.nodup h.nodup, ?_, fun i o found => (each i o found).1, fun i o found => (each i o found).2⟩
  intro other member
  rw [List.length_set]
  exact h.inRange other (sublist.subset member)

theorem Server.lifetimes {cfg : Config} {st : Server} (reachable : Reachable (Server.step cfg) {} st) :
    Lifetimes st := by
  refine reachable_invariant (I := Lifetimes) ?_ ?_ (fun _ h => h.createSession)
    (fun _ _ _ _ h step => h.stepSession step) reachable
  · exact ⟨List.nodup_nil, by simp, by simp [Server.All], by simp [Server.All]⟩
  · intro st st' h same
    have sessions : ∀ sessionId, sessionId ∈ st'.sessions ↔ sessionId ∈ st.sessions := fun sessionId => by
      rw [same.sessions]
    refine ⟨by rw [same.sessions]; exact h.nodup, by rw [same.sessions, same.objects]; exact h.inRange, ?_, ?_⟩
    · intro sessionId object found
      rw [same.objects] at found
      exact (h.untouched found (sessions sessionId)).1
    · intro sessionId object found
      rw [same.objects] at found
      exact (h.untouched found (sessions sessionId)).2

/-- An acknowledged `QUIT` is carried out by the destruction of the mailbox. -/
theorem Reached.destroyStorages {cfg : Config} {sessionId : Nat} {d : Dialogue}
    (reached : Reached cfg sessionId d) (acknowledged : QuitAcknowledged d.log) :
    ∃ m removed, d.session.mailbox = some m ∧ m.destroyStorages = .ok removed ∧
      ∀ p, p ∈ removed ↔ m.Recorded p := by
  cases reached.carries with
  | anonymous state mailbox unacknowledged calls => exact absurd acknowledged unacknowledged
  | serving m state mailbox unacknowledged made => exact absurd acknowledged unacknowledged
  | committed m state ended mailbox _ made =>
    have wf : (m.asOpened.run (callsIn d.log)).WellFormed := (Mailbox.opened_wellFormed _ _ _).run _
    obtain ⟨removed, destroyed, members⟩ := wf.destroyStorages_setUpdate
    refine ⟨m, removed, mailbox, made ▸ destroyed, fun p => ?_⟩
    rw [members, ← Mailbox.recorded_setUpdate, ← made]

end Pop3Serv.Net
