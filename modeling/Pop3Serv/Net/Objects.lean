import Pop3Serv.Net.Server
import Pop3Serv.Net.Steps

/-!
# The session objects of a server

A step of the server is a step of one session object that lives, a new object, or
a step that touches no object (`Server.step_moves`); `cancelAll` is a sequence of the
first kind. `Server.step_preserves` is the rule this gives. By it every object's dialogue has
been reached by a run of that session alone (`Reached`), so what holds after every
run of one session holds of every object in every interleaving.
-/

namespace Pop3Serv.Net
open Proto Mail Logic

namespace Server

/-- What the storages' destructors did if this was the session's last step. -/
def outcome (st : Server) (sessionId : Nat) (d : Dialogue) : Option (Except Fault (List Path)) :=
  if st.Held sessionId d then none
  else some (d.session.mailbox.elim (.ok []) Mailbox.destroyStorages)

/-- The lock table after the session's step, when the object may have been destroyed by it. -/
def unlocked (st : Server) (sessionId : Nat) (d : Dialogue) : ActiveMailboxes :=
  if st.Held sessionId d then st.activeMailboxes
  else d.session.mailbox.elim st.activeMailboxes (Mailbox.destroyLock · st.activeMailboxes)

theorem settle_eq (st : Server) (sessionId : Nat) (d : Dialogue) :
    st.settle sessionId d =
      { st with
        objects := st.objects.set sessionId ⟨d, st.outcome sessionId d⟩
        activeMailboxes := st.unlocked sessionId d } := by
  unfold settle outcome unlocked
  split
  · rfl
  · unfold destroy
    cases d.session.mailbox <;> rfl

/-- The server between a step of a session and the destruction it may cause. -/
def between (st : Server) (sessionId : Nat) (stepped : Stepped) : Server :=
  { st with
    activeMailboxes := stepped.active
    sessions := if stepped.deleted then st.sessions.erase sessionId else st.sessions }

/-- A step of one session: the object lives, it steps, and the server settles. -/
theorem stepSession_cases {cfg : Config} {st st' : Server} {sessionId : Nat} {e : SessionEvent}
    (h : st.stepSession cfg sessionId e = some st') :
    ∃ d stepped, st.objects[sessionId]? = some ⟨d, none⟩ ∧
      d.step cfg st.activeMailboxes e = some stepped ∧
      st' = (st.between sessionId stepped).settle sessionId stepped.dialogue := by
  unfold stepSession at h
  split at h
  · rename_i d lives
    split at h
    · rename_i stepped step
      refine ⟨d, stepped, lives, step, ?_⟩
      cases h
      unfold between deleteFromSessions
      cases stepped.deleted <;> rfl
    · cases h
  · cases h

theorem stepSession_eq {cfg : Config} {st : Server} {sessionId : Nat} {e : SessionEvent} {d : Dialogue}
    {stepped : Stepped} (lives : st.objects[sessionId]? = some ⟨d, none⟩)
    (moved : d.step cfg st.activeMailboxes e = some stepped) :
    st.stepSession cfg sessionId e = some ((st.between sessionId stepped).settle sessionId stepped.dialogue) := by
  unfold stepSession
  rw [lives]
  simp only [moved]
  unfold between deleteFromSessions
  cases stepped.deleted <;> rfl

theorem createSession_objects {st : Server} {sessionId : Nat} {object : SessionObject}
    (found : st.createSession.objects[sessionId]? = some object) :
    st.objects[sessionId]? = some object ∨
      sessionId = st.objects.length ∧ object = { dialogue := created sessionId } := by
  simp only [createSession] at found
  rw [List.getElem?_append] at found
  split at found
  · exact .inl found
  · rename_i past
    obtain ⟨bound, same⟩ := List.getElem?_eq_some_iff.mp found
    simp only [List.length_singleton] at bound
    have last : sessionId = st.objects.length := by omega
    subst last
    exact .inr ⟨rfl, by simpa [created] using same.symm⟩

/-- The forms a step can have, each with what it waits for. -/
inductive Moves (cfg : Config) (st : Server) : Event → Server → Prop
  | acceptDone (failed : Bool) (waiting : st.accepting = some .outstanding) :
      Moves cfg st (.acceptDone failed)
        { st with accepting := some (.queued (if failed then .failed else .success)) }
  | runAccept (ec : Completion) (queued : st.accepting = some (.queued ec)) :
      Moves cfg st .runAccept (st.runAccept ec)
  | created (creates : 0 < st.creating) : Moves cfg st .createSession st.createSession
  | session (sessionId : Nat) (e : SessionEvent) (st' : Server) (notCancel : e ≠ .cancel)
      (moved : st.stepSession cfg sessionId e = some st') : Moves cfg st (.session sessionId e) st'
  | sessionsCancelled (running : st.console = .running) :
      Moves cfg st .cancelAll { st.cancelAll cfg with console := .sessionsCancelled }
  | acceptorCancelled (after : st.console = .sessionsCancelled) :
      Moves cfg st .cancelAcceptor
        { st with accepting := st.accepting.map Pending.cancel, console := .cancelled }

/-- **Every step has one of these forms.** -/
theorem step_moves {cfg : Config} {st st' : Server} {e : Event} (h : st.step cfg e = some st') :
    Moves cfg st e st' := by
  cases e with
  | acceptDone failed =>
    simp only [step] at h
    split at h
    · rename_i waiting; cases h; exact .acceptDone failed waiting
    · cases h
  | runAccept =>
    simp only [step] at h
    split at h
    · rename_i ec queued; cases h; exact .runAccept ec queued
    · cases h
  | createSession =>
    simp only [step] at h
    split at h
    · rename_i creates; cases h; exact .created creates
    · cases h
  | session sessionId e =>
    by_cases cancel : e = .cancel
    · subst cancel; cases h
    · have h : st.stepSession cfg sessionId e = some st' := by
        cases e <;> first | exact h | exact absurd rfl cancel
      exact .session sessionId e st' cancel h
  | cancelAll =>
    simp only [step] at h
    split at h
    · rename_i running; cases h; exact .sessionsCancelled running
    · cases h
  | cancelAcceptor =>
    simp only [step] at h
    split at h
    · rename_i after; cases h; exact .acceptorCancelled after
    · cases h

/-- The parts of the server that sessions are made of are the same. -/
structure SameSessions (st st' : Server) : Prop where
  objects : st'.objects = st.objects
  sessions : st'.sessions = st.sessions
  activeMailboxes : st'.activeMailboxes = st.activeMailboxes

variable {cfg : Config} {I : Server → Prop} {C : Server → Nat → SessionEvent → Prop}

theorem cancelAll_preserves
    (session : ∀ st sessionId e st', I st → C st sessionId e →
      st.stepSession cfg sessionId e = some st' → I st')
    (cancelled : ∀ st sessionId, C st sessionId .cancel) {st : Server} (here : I st) :
    I (st.cancelAll cfg) := by
  have one : ∀ st sessionId, I st → I (st.cancelOne cfg sessionId) := by
    intro st sessionId here
    unfold cancelOne
    cases step : st.stepSession cfg sessionId .cancel with
    | none => exact here
    | some st' => exact session st sessionId .cancel st' here (cancelled st sessionId) step
  exact List.foldlRecOn st.sessions (cancelOne cfg) here fun st here sessionId _ => one st sessionId here

/-- **The rule for a step of the server.** `C` is what the steps of a session may be
assumed to meet; a cancellation meets it. -/
theorem step_preserves (quiet : ∀ st st', I st → SameSessions st st' → I st')
    (create : ∀ st, I st → I st.createSession)
    (session : ∀ st sessionId e st', I st → C st sessionId e →
      st.stepSession cfg sessionId e = some st' → I st')
    (cancelled : ∀ st sessionId, C st sessionId .cancel) {st st' : Server} {e : Event} (here : I st)
    (meets : ∀ sessionId e', e = .session sessionId e' → C st sessionId e')
    (h : st.step cfg e = some st') : I st' := by
  cases step_moves h with
  | acceptDone failed waiting => exact quiet st _ here ⟨rfl, rfl, rfl⟩
  | runAccept ec queued =>
    refine quiet st _ here ?_
    cases ec <;> exact ⟨rfl, rfl, rfl⟩
  | created creates => exact create st here
  | session sessionId e st' notCancel moved => exact session st sessionId e st' here (meets sessionId e rfl) moved
  | sessionsCancelled running =>
    exact quiet (st.cancelAll cfg) _ (cancelAll_preserves session cancelled here) ⟨rfl, rfl, rfl⟩
  | acceptorCancelled after => exact quiet st _ here ⟨rfl, rfl, rfl⟩

/-- The rule for every reachable state of the server. -/
theorem reachable_invariant (start : I {}) (quiet : ∀ st st', I st → SameSessions st st' → I st')
    (create : ∀ st, I st → I st.createSession)
    (session : ∀ st sessionId e st', I st → st.stepSession cfg sessionId e = some st' → I st')
    {st : Server} (reachable : Reachable (step cfg) {} st) : I st := by
  refine reachable.invariant I (fun st e st' here h => ?_) start
  exact step_preserves (C := fun _ _ _ => True) quiet create
    (fun st sessionId e st' here _ => session st sessionId e st' here) (fun _ _ => trivial) here
    (fun _ _ _ => trivial) h

end Server

/-- A run of the session alone leads to this dialogue. -/
def Reached (cfg : Config) (sessionId : Nat) (d : Dialogue) : Prop :=
  Reachable (Dialogue.localStep cfg) (created sessionId) d

theorem Reached.invariant {cfg : Config} {sessionId : Nat} {d : Dialogue} (I : Dialogue → Prop)
    (start : I (created sessionId)) (keep : ∀ d d', I d → Moved cfg d d' → I d')
    (reached : Reached cfg sessionId d) : I d := by
  obtain ⟨es, run⟩ := reached
  exact localRun_invariant I keep (created_loginPending cfg sessionId) start run

theorem Reached.loginPending {cfg : Config} {sessionId : Nat} {d : Dialogue}
    (reached : Reached cfg sessionId d) : d.LoginPending cfg := by
  obtain ⟨es, run⟩ := reached
  refine exec_invariant (Dialogue.LoginPending cfg) ?_ (created_loginPending cfg sessionId) run
  exact fun d e d' here step => (localStep_moved here step).loginPending here

namespace Server

/-- Every session object of the server satisfies `P`. -/
def All (P : Nat → SessionObject → Prop) (st : Server) : Prop :=
  ∀ (sessionId : Nat) (object : SessionObject), st.objects[sessionId]? = some object → P sessionId object

theorem All.same {P : Nat → SessionObject → Prop} {st st' : Server} (h : st.All P)
    (same : SameSessions st st') : st'.All P := by
  unfold All
  rw [same.objects]
  exact h

theorem All.createSession {P : Nat → SessionObject → Prop} {st : Server} (h : st.All P)
    (new : ∀ sessionId, P sessionId { dialogue := created sessionId }) : st.createSession.All P := by
  intro sessionId object found
  rcases createSession_objects found with old | ⟨rfl, rfl⟩
  · exact h sessionId object old
  · exact new _

/-- An object of the server after one of them was replaced. -/
theorem object_set_cases {objects : List SessionObject} {sessionId other : Nat} {object o : SessionObject}
    (found : (objects.set sessionId object)[other]? = some o) :
    other = sessionId ∧ o = object ∨ other ≠ sessionId ∧ objects[other]? = some o := by
  rw [List.getElem?_set] at found
  split at found
  · rename_i same
    subst same
    split at found
    · cases found
      exact .inl ⟨rfl, rfl⟩
    · cases found
  · rename_i differ
    exact .inr ⟨Ne.symm differ, found⟩

theorem All.set {P : Nat → SessionObject → Prop} {st : Server} (h : st.All P) {sessionId : Nat}
    {object : SessionObject} (new : P sessionId object) :
    ∀ (other : Nat) (o : SessionObject), (st.objects.set sessionId object)[other]? = some o → P other o := by
  intro other o found
  rcases object_set_cases found with ⟨rfl, rfl⟩ | ⟨_, old⟩
  · exact new
  · exact h other o old

/-- A step of one session keeps what every object satisfies, if it keeps it of that session's. -/
theorem All.stepSession {cfg : Config} {P : Nat → SessionObject → Prop} {st st' : Server} (h : st.All P)
    (stepped : ∀ sessionId d e active stepped, P sessionId ⟨d, none⟩ →
      d.step cfg active e = some stepped → ∀ st : Server,
        P sessionId ⟨stepped.dialogue, st.outcome sessionId stepped.dialogue⟩)
    {sessionId : Nat} {e : SessionEvent} (step : st.stepSession cfg sessionId e = some st') :
    st'.All P := by
  obtain ⟨d, after, lives, moved, rfl⟩ := stepSession_cases step
  rw [settle_eq]
  exact h.set (stepped sessionId d e _ after (h sessionId _ lives) moved _)

/-- **The rule for what every object satisfies**: a new one does, and a step of a session keeps
it, whatever else the server is doing. -/
theorem objects_invariant {cfg : Config} {st : Server} {P : Nat → SessionObject → Prop}
    (new : ∀ sessionId, P sessionId { dialogue := created sessionId })
    (stepped : ∀ sessionId d e active stepped, P sessionId ⟨d, none⟩ →
      d.step cfg active e = some stepped → ∀ st : Server,
        P sessionId ⟨stepped.dialogue, st.outcome sessionId stepped.dialogue⟩)
    (reachable : Reachable (step cfg) {} st) : st.All P :=
  reachable_invariant (I := All P) (by simp [All]) (fun _ _ h same => h.same same)
    (fun _ h => h.createSession new) (fun _ _ _ _ h step => h.stepSession stepped step) reachable

theorem reached_step {cfg : Config} (sessionId : Nat) (d : Dialogue) (e : SessionEvent)
    (active : ActiveMailboxes) (stepped : Stepped) (reached : Reached cfg sessionId d)
    (step : d.step cfg active e = some stepped) : Reached cfg sessionId stepped.dialogue := by
  refine Reachable.snoc (e := (active, e)) reached ?_
  simp [Dialogue.localStep, step]

/-- **Every interleaving is a run of each of its sessions.** -/
theorem objects_reached {cfg : Config} {st : Server} (reachable : Reachable (step cfg) {} st) :
    st.All fun sessionId object => Reached cfg sessionId object.dialogue := by
  exact objects_invariant (P := fun sessionId object => Reached cfg sessionId object.dialogue)
    (fun _ => Reachable.refl _)
    (fun sessionId d e active stepped reached step _ => reached_step sessionId d e active stepped reached step)
    reachable

/-- What an object's mailbox did when it was destroyed. -/
theorem released_eq {cfg : Config} {st : Server} (reachable : Reachable (step cfg) {} st) :
    st.All fun _ object => ∀ removed, object.released = some removed →
      removed = object.dialogue.session.mailbox.elim (.ok []) Mailbox.destroyStorages := by
  refine objects_invariant (fun _ => nofun) ?_ reachable
  intro sessionId d e active stepped _ step st removed released
  unfold outcome at released
  split at released
  · cases released
  · exact (Option.some.inj released).symm

/-! ## Handlers between the cancels of `cancelAll` -/

section
variable {cfg : Config} {st st' : Server} {sessionId other : Nat} {e : SessionEvent}

/-- The cancel of a session in the list changes the control and the timer of its object, if it lives. -/
theorem cancelOne_cases (cfg : Config) (listed : other ∈ st.sessions) :
    (∃ d : Dialogue, st.objects[other]? = some ⟨d, none⟩ ∧
      st.cancelOne cfg other = { st with
        objects := st.objects.set other ⟨{ d with control := d.control.cancel, timer := d.timer.cancel }, none⟩ }) ∨
    (∀ d, st.objects[other]? ≠ some ⟨d, none⟩) ∧ st.cancelOne cfg other = st := by
  unfold cancelOne
  cases step : st.stepSession cfg other .cancel with
  | none =>
    refine .inr ⟨fun d lives => ?_, rfl⟩
    cases step.symm.trans (stepSession_eq lives rfl)
  | some st' =>
    obtain ⟨d, stepped, lives, moved, rfl⟩ := stepSession_cases step
    cases moved
    refine .inl ⟨d, lives, ?_⟩
    exact if_pos (.inl listed)

theorem cancelOne_sessions (cfg : Config) (st : Server) (sessionId : Nat) :
    (st.cancelOne cfg sessionId).sessions = st.sessions := by
  unfold cancelOne
  cases step : st.stepSession cfg sessionId .cancel with
  | none => rfl
  | some st' =>
    obtain ⟨d, stepped, lives, moved, rfl⟩ := stepSession_cases step
    cases moved
    show (settle (st.between sessionId _) sessionId _).sessions = _
    rw [settle_eq]
    rfl

theorem stepSession_cancelOne (differ : other ≠ sessionId) (listed : other ∈ st.sessions)
    (step : st.stepSession cfg sessionId e = some st') (stays : st'.sessions = st.sessions) :
    (st.cancelOne cfg other).stepSession cfg sessionId e = some (st'.cancelOne cfg other) := by
  have listed' : other ∈ st'.sessions := stays ▸ listed
  obtain ⟨d, stepped, lives, moved, rfl⟩ := stepSession_cases step
  rw [settle_eq] at step listed' ⊢
  have same : ((st.between sessionId stepped).objects.set sessionId
      ⟨stepped.dialogue, (st.between sessionId stepped).outcome sessionId stepped.dialogue⟩)[other]? =
        st.objects[other]? := List.getElem?_set_ne differ.symm
  rcases cancelOne_cases cfg listed with ⟨d', lives', cancelled⟩ | ⟨dead, idle⟩
  · rcases cancelOne_cases cfg listed' with ⟨d'', lives'', cancelled'⟩ | ⟨dead', _⟩
    · cases (same.symm.trans lives'').symm.trans lives'
      have aside : ∀ o, ({ st with objects := st.objects.set other o } : Server).objects[sessionId]? =
          some ⟨d, none⟩ := fun o => (List.getElem?_set_ne differ).trans lives
      rw [cancelled, cancelled']
      refine (stepSession_eq (aside _) moved).trans ?_
      rw [settle_eq]
      exact congrArg (fun objects => some { st.between sessionId stepped with
        objects, activeMailboxes := (st.between sessionId stepped).unlocked sessionId stepped.dialogue })
        (List.set_comm _ _ differ)
    · exact absurd (same.trans lives') (dead' d')
  · rcases cancelOne_cases cfg listed' with ⟨d'', lives'', _⟩ | ⟨_, idle'⟩
    · exact absurd (same.symm.trans lives'') (dead d'')
    · rw [idle, idle']
      exact step

/-- **A handler and the cancels of other sessions** may change places, unless the handler leaves the list,
for which it waits for the mutex. -/
theorem stepSession_cancels {ids : List Nat} (apart : sessionId ∉ ids) (listed : ∀ id ∈ ids, id ∈ st.sessions)
    (step : st.stepSession cfg sessionId e = some st') (stays : st'.sessions = st.sessions) :
    (ids.foldl (cancelOne cfg) st).stepSession cfg sessionId e = some (ids.foldl (cancelOne cfg) st') := by
  induction ids generalizing st st' with
  | nil => exact step
  | cons other ids ih =>
    obtain ⟨differ, apart⟩ := not_or.mp (mt List.mem_cons.mpr apart)
    have first : other ∈ st.sessions := listed other List.mem_cons_self
    refine ih apart (fun id member => ?_) (stepSession_cancelOne (Ne.symm differ) first step stays) ?_
    · rw [cancelOne_sessions]
      exact listed id (List.mem_cons_of_mem other member)
    · rw [cancelOne_sessions, cancelOne_sessions, stays]

end

end Server

end Pop3Serv.Net
