import Pop3Serv.Net.Shutdown

/-!
# The idle timer

`Timeout`, `lastActivityTime` and the `steady_timer` of `POP3Session.h` and
`Server.h`, against the clock. The server model leaves it open when a wait expires and
whether its handler finds the session idle; here both are what the clock says
(`Clock.allows`), and a timed run without its clock is a run of the server
(`TimedServer.exec_server`). A handler reads the clock at one moment, and a wait may
complete, and its handler may run, any time after the wait is due.
-/

namespace Pop3Serv.Net
open Proto Mail Logic

/-- `POP3Session::Timeout`: one minute, in nanoseconds, the ticks of `steady_clock`. -/
def Timeout : Nat := 60 * 1000000000

/-- What a session keeps of the clock. -/
structure Clock where
  lastActivityTime : Nat
  /-- the expiry time of `timer` -/
  expiry : Nat

namespace Clock

/-- What the timer handler asks: the last activity is more than `Timeout` ago. -/
def idle (clock : Clock) (now : Nat) : Bool := Timeout < now - clock.lastActivityTime

/-- The clock lets this happen: no wait expires early, and the timer handler finds what is so. -/
def allows (clock : Clock) (now : Nat) : SessionEvent → Bool
  | .expire => clock.expiry ≤ now
  | .runTimer idle => idle = clock.idle now
  | _ => true

/-- `prolongateLifeTime` in the read handler, and `expires_after` in the timer handler. -/
def after (clock : Clock) (now : Nat) (d : Dialogue) : SessionEvent → Clock
  | .runRead _ =>
    if d.control = .reading (.queued .success) then { clock with lastActivityTime := now } else clock
  | .runTimer idle =>
    if d.timer = .waiting (.queued .success) ∧ idle = false then { clock with expiry := now + Timeout } else clock
  | _ => clock

end Clock

/-- The server with the clock. -/
structure TimedServer where
  server : Server := {}
  /-- `steady_clock::now()` -/
  now : Nat := 0
  /-- what each session keeps, by its `sessionId` -/
  clocks : List Clock := []

inductive TimedEvent where
  | elapse (ticks : Nat)
  | event (e : Event)

/-- The event without the clock. -/
def TimedEvent.untimed : TimedEvent → Option Event
  | .elapse _ => none
  | .event e => some e

def TimedEvent.ticks : TimedEvent → Nat
  | .elapse ticks => ticks
  | .event _ => 0

/-- The time that passes during the events. -/
def elapsed (es : List TimedEvent) : Nat := (es.map TimedEvent.ticks).sum

theorem elapsed_snoc (es : List TimedEvent) (e : TimedEvent) : elapsed (es ++ [e]) = elapsed es + e.ticks := by
  simp [elapsed]

namespace TimedServer

/-- The accept handler constructs the timer with `Timeout` and the session with the time it is. -/
def step (cfg : Config) (st : TimedServer) : TimedEvent → Option TimedServer
  | .elapse ticks => some { st with now := st.now + ticks }
  | .event .createSession =>
    (st.server.step cfg .createSession).map fun server =>
      { st with server, clocks := st.clocks ++ [⟨st.now, st.now + Timeout⟩] }
  | .event (.session sessionId e) =>
    match st.server.objects[sessionId]?, st.clocks[sessionId]? with
    | some object, some clock =>
      if clock.allows st.now e then
        (st.server.step cfg (.session sessionId e)).map fun server =>
          { st with server, clocks := st.clocks.set sessionId (clock.after st.now object.dialogue e) }
      else none
    | _, _ => none
  | .event e => (st.server.step cfg e).map fun server => { st with server }

/-- The forms a step can have. -/
inductive Moves (cfg : Config) (st : TimedServer) : TimedEvent → TimedServer → Prop
  | elapsed (ticks : Nat) : Moves cfg st (.elapse ticks) { st with now := st.now + ticks }
  | created (creates : 0 < st.server.creating) :
      Moves cfg st (.event .createSession)
        { st with server := st.server.createSession, clocks := st.clocks ++ [⟨st.now, st.now + Timeout⟩] }
  | session (sessionId : Nat) (e : SessionEvent) (object : SessionObject) (clock : Clock) (server : Server)
      (there : st.server.objects[sessionId]? = some object) (kept : st.clocks[sessionId]? = some clock)
      (allowed : clock.allows st.now e = true)
      (moved : st.server.step cfg (.session sessionId e) = some server) :
      Moves cfg st (.event (.session sessionId e))
        { st with server, clocks := st.clocks.set sessionId (clock.after st.now object.dialogue e) }
  | other (e : Event) (server : Server) (notCreate : e ≠ .createSession)
      (notSession : ∀ sessionId e', e ≠ .session sessionId e') (moved : st.server.step cfg e = some server) :
      Moves cfg st (.event e) { st with server }

/-- **Every timed step has one of these forms.** -/
theorem step_moves {cfg : Config} {st st' : TimedServer} {e : TimedEvent} (h : st.step cfg e = some st') :
    Moves cfg st e st' := by
  cases e with
  | elapse ticks => cases h; exact .elapsed ticks
  | event e =>
    cases e with
    | createSession =>
      obtain ⟨server, created, rfl⟩ := Option.map_eq_some_iff.mp h
      simp only [Server.step] at created
      split at created
      · rename_i creates; cases created; exact .created creates
      · cases created
    | session sessionId e =>
      simp only [step] at h
      split at h
      · rename_i object clock there kept
        split at h
        · rename_i allowed
          obtain ⟨server, moved, rfl⟩ := Option.map_eq_some_iff.mp h
          exact .session sessionId e object clock server there kept allowed moved
        · cases h
      · cases h
    | acceptDone failed =>
      obtain ⟨server, moved, rfl⟩ := Option.map_eq_some_iff.mp h
      exact .other _ server (fun same => by cases same) (fun _ _ same => by cases same) moved
    | runAccept =>
      obtain ⟨server, moved, rfl⟩ := Option.map_eq_some_iff.mp h
      exact .other _ server (fun same => by cases same) (fun _ _ same => by cases same) moved
    | cancelAll =>
      obtain ⟨server, moved, rfl⟩ := Option.map_eq_some_iff.mp h
      exact .other _ server (fun same => by cases same) (fun _ _ same => by cases same) moved
    | cancelAcceptor =>
      obtain ⟨server, moved, rfl⟩ := Option.map_eq_some_iff.mp h
      exact .other _ server (fun same => by cases same) (fun _ _ same => by cases same) moved

/-- **A timed run without its clock is a run of the server.** -/
theorem exec_server {cfg : Config} {st st' : TimedServer} {es : List TimedEvent}
    (run : exec (step cfg) st es = some st') :
    exec (Server.step cfg) st.server (es.filterMap TimedEvent.untimed) = some st'.server := by
  induction es generalizing st with
  | nil => cases run; rfl
  | cons e es ih =>
    obtain ⟨next, first, rest⟩ := Option.bind_eq_some_iff.mp (exec_cons st e es ▸ run)
    have later := ih rest
    cases step_moves first with
    | elapsed ticks => exact later
    | created creates =>
      have here : st.server.step cfg .createSession = some st.server.createSession := if_pos creates
      rw [List.filterMap_cons, TimedEvent.untimed, exec_cons, here]
      exact later
    | session sessionId e object clock server there kept allowed moved =>
      rw [List.filterMap_cons, TimedEvent.untimed, exec_cons, moved]
      exact later
    | other e server notCreate notSession moved =>
      rw [List.filterMap_cons, TimedEvent.untimed, exec_cons, moved]
      exact later

/-! ## When a session was active -/

/-- Activity of a session: its object is created, or its read handler gets a request. -/
def Acts (st : TimedServer) (sessionId : Nat) : TimedEvent → Prop
  | .event .createSession => sessionId = st.server.objects.length
  | .event (.session other (.runRead _)) =>
    other = sessionId ∧ ∃ object, st.server.objects[other]? = some object ∧
      object.dialogue.control = .reading (.queued .success)
  | _ => False

/-- The session was active that long before the end of the run. -/
def ActiveAgo (cfg : Config) (es : List TimedEvent) (sessionId ago : Nat) : Prop :=
  ∃ before e later st, es = before ++ e :: later ∧ exec (step cfg) {} before = some st ∧
    st.Acts sessionId e ∧ ago = elapsed later

theorem activeAgo_snoc {cfg : Config} {es : List TimedEvent} {e : TimedEvent} {st : TimedServer}
    {sessionId ago : Nat} (run : exec (step cfg) {} es = some st) :
    ActiveAgo cfg (es ++ [e]) sessionId ago ↔
      (∃ before, ActiveAgo cfg es sessionId before ∧ ago = before + e.ticks) ∨
        st.Acts sessionId e ∧ ago = 0 := by
  constructor
  · rintro ⟨before, e', later, st', split, arrived, acts, rfl⟩
    rcases List.eq_nil_or_concat later with rfl | ⟨later, last, rfl⟩
    · obtain ⟨rfl, same⟩ := List.append_inj' split rfl
      cases same
      cases run.symm.trans arrived
      exact .inr ⟨acts, rfl⟩
    · have split : es ++ [e] = (before ++ e' :: later) ++ [last] := by simpa using split
      obtain ⟨rfl, same⟩ := List.append_inj' split rfl
      cases same
      refine .inl ⟨elapsed later, ⟨before, e', later, st', rfl, arrived, acts, rfl⟩, ?_⟩
      rw [List.concat_eq_append, elapsed_snoc]
  · rintro (⟨_, ⟨before, e', later, st', rfl, arrived, acts, rfl⟩, rfl⟩ | ⟨acts, rfl⟩)
    · exact ⟨before, e', later ++ [e], st', by simp, arrived, acts, (elapsed_snoc later e).symm⟩
    · exact ⟨es, e, [], st, rfl, run, acts, rfl⟩

theorem acts_session {st : TimedServer} {object : SessionObject} {sessionId : Nat} {e : SessionEvent}
    (there : st.server.objects[sessionId]? = some object) :
    st.Acts sessionId (.event (.session sessionId e)) ↔
      (∃ fs, e = .runRead fs) ∧ object.dialogue.control = .reading (.queued .success) := by
  cases e with
  | runRead fs => simp [Acts, there]
  | _ => simp [Acts]

theorem not_acts_other {st : TimedServer} {sessionId other : Nat} {e : SessionEvent}
    (differ : other ≠ sessionId) : ¬ st.Acts sessionId (.event (.session other e)) := by
  cases e with
  | runRead fs => exact fun acts => differ acts.1
  | _ => exact id

/-- What a session's clock says about the run. -/
structure Keeps (cfg : Config) (es : List TimedEvent) (now sessionId : Nat) (clock : Clock) : Prop where
  past : clock.lastActivityTime ≤ now
  /-- `lastActivityTime` is the time of some activity -/
  active : ActiveAgo cfg es sessionId (now - clock.lastActivityTime)
  /-- and of the last -/
  latest : ∀ ago, ActiveAgo cfg es sessionId ago → now - clock.lastActivityTime ≤ ago
  /-- a wait is due at most two timeouts after it -/
  due : clock.expiry ≤ clock.lastActivityTime + 2 * Timeout

variable {cfg : Config} {es : List TimedEvent} {st : TimedServer} {e : TimedEvent} {sessionId : Nat} {clock : Clock}

/-- After an event that is no activity of the session. -/
theorem Keeps.quiet (h : Keeps cfg es st.now sessionId clock) (run : exec (step cfg) {} es = some st)
    (quiet : ¬ st.Acts sessionId e) : Keeps cfg (es ++ [e]) (st.now + e.ticks) sessionId clock := by
  have past := h.past
  refine ⟨by omega, (activeAgo_snoc run).mpr (.inl ⟨_, h.active, by omega⟩), fun ago active => ?_, h.due⟩
  rcases (activeAgo_snoc run).mp active with ⟨before, earlier, rfl⟩ | ⟨acts, _⟩
  · have := h.latest before earlier
    omega
  · exact absurd acts quiet

/-- After the session's activity, which sets its `lastActivityTime`. -/
theorem Keeps.acts {expiry : Nat} (run : exec (step cfg) {} es = some st) (acts : st.Acts sessionId e)
    (due : expiry ≤ st.now + 2 * Timeout) : Keeps cfg (es ++ [e]) st.now sessionId ⟨st.now, expiry⟩ :=
  ⟨Nat.le_refl _, (activeAgo_snoc run).mpr (.inr ⟨acts, Nat.sub_self _⟩), fun ago _ => by simp, due⟩

/-- What the clocks say about the run. -/
structure Timekeeping (cfg : Config) (es : List TimedEvent) (st : TimedServer) : Prop where
  length : st.clocks.length = st.server.objects.length
  each : ∀ (sessionId : Nat) (clock : Clock), st.clocks[sessionId]? = some clock →
    Keeps cfg es st.now sessionId clock

theorem Timekeeping.created (h : Timekeeping cfg es st) (run : exec (step cfg) {} es = some st) :
    Timekeeping cfg (es ++ [.event .createSession])
      { st with server := st.server.createSession, clocks := st.clocks ++ [⟨st.now, st.now + Timeout⟩] } := by
  refine ⟨by simp [Server.createSession, h.length], fun sessionId clock kept => ?_⟩
  rw [List.getElem?_append] at kept
  split at kept
  · rename_i old
    refine (h.each sessionId clock kept).quiet run ?_
    show sessionId ≠ st.server.objects.length
    rw [← h.length]
    exact Nat.ne_of_lt old
  · rename_i past
    obtain ⟨bound, same⟩ := List.getElem?_eq_some_iff.mp kept
    simp only [List.length_singleton] at bound
    have last : sessionId = st.server.objects.length := by rw [← h.length]; omega
    have new : clock = ⟨st.now, st.now + Timeout⟩ := by simpa using same.symm
    have acts : st.Acts sessionId (.event .createSession) := last
    rw [new]
    show Keeps cfg _ st.now sessionId _
    exact .acts run acts (by omega)

/-- What a step of the session does to its clock. -/
theorem Keeps.session {e : SessionEvent} {object : SessionObject} (h : Keeps cfg es st.now sessionId clock)
    (run : exec (step cfg) {} es = some st) (there : st.server.objects[sessionId]? = some object)
    (allowed : clock.allows st.now e = true) :
    Keeps cfg (es ++ [.event (.session sessionId e)]) st.now sessionId
      (clock.after st.now object.dialogue e) := by
  by_cases acts : st.Acts sessionId (.event (.session sessionId e))
  · have due : clock.expiry ≤ st.now + 2 * Timeout := by
      have := h.due
      have := h.past
      omega
    obtain ⟨⟨fs, rfl⟩, request⟩ := (acts_session there).mp acts
    rw [Clock.after, if_pos request]
    exact .acts run acts due
  · have quiet := h.quiet run acts
    cases e with
    | runRead fs =>
      rw [acts_session there] at acts
      rw [Clock.after, if_neg fun request => acts ⟨⟨fs, rfl⟩, request⟩]
      exact quiet
    | runTimer idle =>
      rw [Clock.after]
      split
      · rename_i again
        -- the session is not idle, so the new wait is due within two timeouts of its activity
        have notIdle : clock.idle st.now = false := by
          rw [← again.2]
          exact (of_decide_eq_true allowed).symm
        have recent : ¬ Timeout < st.now - clock.lastActivityTime := of_decide_eq_false notIdle
        exact ⟨quiet.past, quiet.active, quiet.latest, by simp only; omega⟩
      · exact quiet
    | _ => exact quiet

theorem Timekeeping.session {e : SessionEvent} {object : SessionObject} {server : Server}
    (h : Timekeeping cfg es st) (run : exec (step cfg) {} es = some st)
    (there : st.server.objects[sessionId]? = some object) (kept : st.clocks[sessionId]? = some clock)
    (allowed : clock.allows st.now e = true) (same : server.objects.length = st.server.objects.length) :
    Timekeeping cfg (es ++ [.event (.session sessionId e)])
      { st with server, clocks := st.clocks.set sessionId (clock.after st.now object.dialogue e) } := by
  refine ⟨by simp only [List.length_set, h.length, same], fun other clock' kept' => ?_⟩
  by_cases own : other = sessionId
  · subst own
    rw [List.getElem?_set_self (List.getElem?_eq_some_iff.mp kept).1] at kept'
    cases kept'
    exact (h.each other clock kept).session run there allowed
  · rw [List.getElem?_set_ne (Ne.symm own)] at kept'
    exact (h.each other clock' kept').quiet run (not_acts_other (Ne.symm own))

end TimedServer

theorem Server.length_stepSession {cfg : Config} {st st' : Server} {sessionId : Nat} {e : SessionEvent}
    (h : st.stepSession cfg sessionId e = some st') : st'.objects.length = st.objects.length := by
  obtain ⟨d, stepped, lives, moved, rfl⟩ := stepSession_cases h
  rw [settle_eq]
  exact List.length_set

theorem Server.length_cancelAll (cfg : Config) (st : Server) :
    (st.cancelAll cfg).objects.length = st.objects.length :=
  cancelAll_preserves (I := fun st' => st'.objects.length = st.objects.length) (C := fun _ _ _ => True)
    (fun _ _ _ _ here _ step => (length_stepSession step).trans here) (fun _ _ => trivial) rfl

/-- Only `createSession` makes an object. -/
theorem Server.length_step {cfg : Config} {st st' : Server} {e : Event} (notCreate : e ≠ .createSession)
    (h : st.step cfg e = some st') : st'.objects.length = st.objects.length := by
  cases step_moves h with
  | acceptDone failed waiting => rfl
  | runAccept ec queued => cases ec <;> rfl
  | created creates => exact absurd rfl notCreate
  | session sessionId e st' notCancel moved => exact length_stepSession moved
  | sessionsCancelled running => exact length_cancelAll cfg st
  | acceptorCancelled after => rfl

namespace TimedServer

variable {cfg : Config} {es : List TimedEvent} {st : TimedServer} {sessionId : Nat}

/-- **The clocks of every run.** -/
theorem timekeeping (run : exec (step cfg) {} es = some st) : Timekeeping cfg es st := by
  refine exec_history_of (Timekeeping cfg) (fun _ _ => True) ?_ ⟨rfl, by simp⟩
    (.of_all (fun _ _ => trivial) _ es) run
  intro es st e st' run h _ next
  cases step_moves next with
  | elapsed ticks =>
    refine ⟨h.length, fun sessionId clock kept => ?_⟩
    exact (h.each sessionId clock kept).quiet run id
  | created creates => exact h.created run
  | session sessionId e object clock server there kept allowed moved =>
    exact h.session run there kept allowed (Server.length_step (fun create => by cases create) moved)
  | other e server notCreate notSession moved =>
    refine ⟨h.length.trans (Server.length_step notCreate moved).symm, fun sessionId clock kept => ?_⟩
    refine (h.each sessionId clock kept).quiet run fun acts => ?_
    cases e with
    | createSession => exact notCreate rfl
    | session other e => exact notSession other e rfl
    | _ => exact acts

/-- A step of a session whose handler or completion leaves the lock table and the list alone. -/
theorem step_session {d d' : Dialogue} {clock : Clock} {e : SessionEvent}
    (found : st.server.objects[sessionId]? = some ⟨d, none⟩) (kept : st.clocks[sessionId]? = some clock)
    (allowed : clock.allows st.now e = true) (notCancel : e ≠ .cancel)
    (moved : d.step cfg st.server.activeMailboxes e =
      some { dialogue := d', active := st.server.activeMailboxes }) :
    ∃ st', st.step cfg (.event (.session sessionId e)) = some st' ∧
      st'.now = st.now ∧ st'.clocks[sessionId]? = some (clock.after st.now d e) ∧
      st'.server.activeMailboxes = st.server.unlocked sessionId d' ∧
      st'.server.objects[sessionId]? = some ⟨d', st.server.outcome sessionId d'⟩ := by
  have stepped : st.server.step cfg (.session sessionId e) = some (st.server.settle sessionId d') := by
    have step : st.server.stepSession cfg sessionId e = some (st.server.settle sessionId d') :=
      Server.stepSession_eq found moved
    cases e <;> first | exact step | exact absurd rfl notCancel
  refine ⟨{ st with
      server := st.server.settle sessionId d'
      clocks := st.clocks.set sessionId (clock.after st.now d e) }, ?_, rfl, ?_, ?_, ?_⟩
  · simp only [step, found, kept, allowed, if_true, stepped, Option.map_some]
  · exact List.getElem?_set_self (List.getElem?_eq_some_iff.mp kept).1
  · rw [Server.settle_eq]
  · rw [Server.settle_eq]
    exact List.getElem?_set_self (List.getElem?_eq_some_iff.mp found).1

/-- A client connects and says nothing for two minutes. -/
def silentClient : List TimedEvent :=
  [.event (.acceptDone false), .event .runAccept, .event .createSession, .event (.session 0 .startRead),
    .event (.session 0 .startTimer), .elapse (2 * Timeout)]

/-- A timer that waits holds its object. -/
theorem outcome_waiting {d : Dialogue} {op : Pending} (server : Server) (waits : d.timer = .waiting op) :
    server.outcome sessionId d = none :=
  if_pos (.inr (.inr (by simp [Timer.Holds, waits])))

/-- The timer handler runs: it cancels the socket of a session it finds idle. -/
theorem step_giveUp {d : Dialogue} {clock : Clock} (found : st.server.objects[sessionId]? = some ⟨d, none⟩)
    (kept : st.clocks[sessionId]? = some clock) (idle : clock.idle st.now = true)
    (fired : d.timer = .waiting (.queued .success)) :
    ∃ st' released, exec (step cfg) st [.event (.session sessionId (.runTimer true))] = some st' ∧
      st'.server.objects[sessionId]? =
        some ⟨{ d with control := d.control.cancel, timer := .stopped }, released⟩ := by
  have allowed : clock.allows st.now (.runTimer true) = true := decide_eq_true idle.symm
  have moved : d.step cfg st.server.activeMailboxes (.runTimer true) =
      some { dialogue := d.runTimer .success true, active := st.server.activeMailboxes } := by
    simp only [Dialogue.step, fired]
  obtain ⟨st', stepped, _, _, _, found'⟩ := step_session found kept allowed (fun cancel => by cases cancel) moved
  exact ⟨st', _, by rw [exec_cons, stepped]; rfl, found'⟩

/-- A wait that is due expires. -/
theorem step_expire {d : Dialogue} {clock : Clock} (found : st.server.objects[sessionId]? = some ⟨d, none⟩)
    (kept : st.clocks[sessionId]? = some clock) (due : clock.expiry ≤ st.now)
    (waits : d.timer = .waiting .outstanding) :
    ∃ st', st.step cfg (.event (.session sessionId .expire)) = some st' ∧ st'.now = st.now ∧
      st'.clocks[sessionId]? = some clock ∧
      st'.server.objects[sessionId]? = some ⟨{ d with timer := .waiting (.queued .success) }, none⟩ := by
  have allowed : clock.allows st.now .expire = true := decide_eq_true due
  have moved : d.step cfg st.server.activeMailboxes .expire =
      some { dialogue := { d with timer := .waiting (.queued .success) }, active := st.server.activeMailboxes } := by
    simp only [Dialogue.step, waits]
  obtain ⟨st', stepped, now, kept', _, found'⟩ :=
    step_session found kept allowed (fun cancel => by cases cancel) moved
  rw [outcome_waiting st.server rfl] at found'
  exact ⟨st', stepped, now, kept', found'⟩

/-- A wait that failed is started again, with the same expiry time. -/
theorem step_retry {d : Dialogue} {clock : Clock} (found : st.server.objects[sessionId]? = some ⟨d, none⟩)
    (kept : st.clocks[sessionId]? = some clock) (idle : clock.idle st.now = true)
    (failed : d.timer = .waiting (.queued .failed)) :
    ∃ st', st.step cfg (.event (.session sessionId (.runTimer true))) = some st' ∧ st'.now = st.now ∧
      st'.clocks[sessionId]? = some clock ∧
      st'.server.objects[sessionId]? = some ⟨{ d with timer := .waiting .outstanding }, none⟩ := by
  have allowed : clock.allows st.now (.runTimer true) = true := decide_eq_true idle.symm
  have moved : d.step cfg st.server.activeMailboxes (.runTimer true) =
      some { dialogue := { d with timer := .waiting .outstanding }, active := st.server.activeMailboxes } := by
    simp only [Dialogue.step, failed]
    rfl
  obtain ⟨st', stepped, now, kept', _, found'⟩ :=
    step_session found kept allowed (fun cancel => by cases cancel) moved
  rw [outcome_waiting st.server rfl] at found'
  have same : clock.after st.now d (.runTimer true) = clock := if_neg fun again => by cases again.2
  exact ⟨st', stepped, now, same ▸ kept', found'⟩

/-- The events of a session's timer that finds it idle. -/
def TimerEvent (sessionId : Nat) (e : TimedEvent) : Prop :=
  e = .event (.session sessionId .expire) ∨ e = .event (.session sessionId (.runTimer true))

/-- **A silent session is given up**, if its timer is waiting. Once every activity of it is two timeouts ago,
nothing but its timer is needed, without any more time, to cancel its socket: its wait is due, and the
handler finds it idle. -/
theorem idle_session_given_up {d : Dialogue} {op : Pending} (run : exec (step cfg) {} es = some st)
    (found : st.server.objects[sessionId]? = some ⟨d, none⟩) (waits : d.timer = .waiting op)
    (notAborted : op ≠ .queued .aborted) (silent : ∀ ago, ActiveAgo cfg es sessionId ago → 2 * Timeout ≤ ago) :
    ∃ more st' released, (∀ e ∈ more, TimerEvent sessionId e) ∧ exec (step cfg) st more = some st' ∧
      st'.server.objects[sessionId]? =
        some ⟨{ d with control := d.control.cancel, timer := .stopped }, released⟩ := by
  have times := timekeeping run
  have bound : sessionId < st.clocks.length := by
    rw [times.length]
    exact (List.getElem?_eq_some_iff.mp found).1
  obtain ⟨clock, kept⟩ : ∃ clock, st.clocks[sessionId]? = some clock := ⟨_, List.getElem?_eq_getElem bound⟩
  have keeps := times.each sessionId clock kept
  have long : 2 * Timeout ≤ st.now - clock.lastActivityTime := silent _ keeps.active
  have positive : 0 < Timeout := by decide
  have due : clock.expiry ≤ st.now := by
    have := keeps.due
    omega
  have idle : clock.idle st.now = true := decide_eq_true (by omega)
  have expires : ∀ {st : TimedServer} {d : Dialogue}, st.server.objects[sessionId]? = some ⟨d, none⟩ →
      st.clocks[sessionId]? = some clock → clock.expiry ≤ st.now → clock.idle st.now = true →
      d.timer = .waiting .outstanding → ∃ st' released,
        exec (step cfg) st [.event (.session sessionId .expire), .event (.session sessionId (.runTimer true))] =
            some st' ∧
          st'.server.objects[sessionId]? =
            some ⟨{ d with control := d.control.cancel, timer := .stopped }, released⟩ := by
    intro st d found kept due idle waits
    obtain ⟨st₁, expired, now, kept₁, found₁⟩ := step_expire found kept due waits
    rw [← now] at idle
    obtain ⟨st₂, released, gaveUp, found₂⟩ := step_giveUp found₁ kept₁ idle rfl
    exact ⟨st₂, released, by rw [exec_cons, expired]; exact gaveUp, found₂⟩
  cases op with
  | outstanding =>
    obtain ⟨st', released, gaveUp, found'⟩ := expires found kept due idle waits
    exact ⟨_, st', released, by simp [TimerEvent], gaveUp, found'⟩
  | queued ec =>
    cases ec with
    | success =>
      obtain ⟨st', released, gaveUp, found'⟩ := step_giveUp found kept idle waits
      exact ⟨_, st', released, by simp [TimerEvent], gaveUp, found'⟩
    | aborted => exact absurd rfl notAborted
    | failed =>
      obtain ⟨st₁, retried, now, kept₁, found₁⟩ := step_retry found kept idle waits
      obtain ⟨st', released, gaveUp, found'⟩ := expires found₁ kept₁ (now ▸ due) (now ▸ idle) rfl
      refine ⟨_ :: _, st', released, ?_, by rw [exec_cons, retried]; exact gaveUp, found'⟩
      simp [TimerEvent]

theorem silentClient_given_up :
    ∃ st more st', exec (step dummyConfig) {} silentClient = some st ∧ (∀ e ∈ more, TimerEvent 0 e) ∧
      exec (step dummyConfig) st more = some st' ∧
      st'.server.objects[0]?.map (·.dialogue.control) = some (.reading (.queued .aborted)) := by
  obtain ⟨st, d, run, found, waits, reading, now, kept⟩ : ∃ st d,
      exec (step dummyConfig) {} silentClient = some st ∧ st.server.objects[0]? = some ⟨d, none⟩ ∧
        d.timer = .waiting .outstanding ∧ d.control = .reading .outstanding ∧
        st.now = 2 * Timeout ∧ st.clocks[0]? = some ⟨0, Timeout⟩ := ⟨_, _, rfl, rfl, rfl, rfl, rfl, rfl⟩
  obtain ⟨more, st', released, timer, gaveUp, found'⟩ :=
    idle_session_given_up run found waits (fun same => by cases same) fun ago active => by
      have latest := ((timekeeping run).each 0 _ kept).latest ago active
      simp only [now] at latest
      omega
  exact ⟨st, more, st', run, timer, gaveUp, by rw [found', Option.map_some, reading]; rfl⟩

end TimedServer

/-! ## A session that was given up -/

/-- Its aborted operation is all there is to a session with its timer stopped. -/
theorem step_aborted {cfg : Config} {active : ActiveMailboxes} {d : Dialogue} {e : SessionEvent} {stepped : Stepped}
    (aborted : d.control = .reading (.queued .aborted) ∨ d.control = .writing (.queued .aborted))
    (stopped : d.timer = .stopped) (moved : d.step cfg active e = some stepped) :
    stepped = { dialogue := d, active } ∨
      stepped = { dialogue := { d with control := .ended }, active, deleted := true } := by
  obtain ⟨session, control, timer, log⟩ := d
  obtain rfl : timer = .stopped := stopped
  rcases aborted with aborted | aborted <;> obtain rfl : control = _ := aborted
  · cases e <;> simp only [Dialogue.step, reduceCtorEq] at moved <;> cases moved
    · exact .inr rfl
    · exact .inl rfl
  · cases e <;> simp only [Dialogue.step, reduceCtorEq] at moved <;> cases moved
    · exact .inr rfl
    · exact .inl rfl

/-- A mailbox that goes before the reply to `QUIT` is written removes nothing. -/
theorem Reached.abandoned {cfg : Config} {sessionId : Nat} {d : Dialogue} (reached : Reached cfg sessionId d)
    (goesOn : d.control ≠ .ended) : d.session.mailbox.elim (.ok []) Mailbox.destroyStorages = .ok [] := by
  cases reached.carries with
  | anonymous state mailbox unacknowledged calls => rw [mailbox]; rfl
  | serving m state mailbox unacknowledged made =>
    have uncommitted : m.Uncommitted := by
      rw [made, Mailbox.uncommitted_run_iff]
      exact Mailbox.opened_uncommitted _ _ _
    rw [mailbox]
    exact uncommitted.destroyStorages
  | committed m state ended mailbox acknowledged made => exact absurd ended goesOn

theorem Lifetimes.same {st st' : Server} (h : Lifetimes st) (same : Server.SameSessions st st') : Lifetimes st' := by
  have sessions : ∀ sessionId, sessionId ∈ st'.sessions ↔ sessionId ∈ st.sessions := fun sessionId => by
    rw [same.sessions]
  have each : ∀ (sessionId : Nat) (object : SessionObject), st'.objects[sessionId]? = some object →
      (sessionId ∈ st'.sessions ↔ object.dialogue.control ≠ .ended) ∧
        (object.released = none ↔ st'.Held sessionId object.dialogue) := by
    intro sessionId object found
    rw [same.objects] at found
    exact h.untouched found (sessions sessionId)
  exact ⟨by rw [same.sessions]; exact h.nodup, by rw [same.sessions, same.objects]; exact h.inRange,
    fun i o found => (each i o found).1, fun i o found => (each i o found).2⟩

/-- A chain that goes on holds its object. -/
theorem Server.outcome_chain (st : Server) (sessionId : Nat) {d : Dialogue} (holds : d.control.Holds) :
    st.outcome sessionId d = none := if_pos (.inr (.inl holds))

/-- The session is left with its aborted operation, or is destroyed and off the list. -/
def GivenUp (sessionId : Nat) (d : Dialogue) (st : Server) : Prop :=
  st.objects[sessionId]? = some ⟨{ d with control := d.control.cancel, timer := .stopped }, none⟩ ∨
    st.objects[sessionId]? = some ⟨{ d with control := .ended, timer := .stopped }, some (.ok [])⟩ ∧
      sessionId ∉ st.sessions

theorem GivenUp.stepSession {cfg : Config} {st st' : Server} {sessionId other : Nat} {d : Dialogue}
    {e : SessionEvent} (reached : Reached cfg sessionId d)
    (outstanding : d.control = .reading .outstanding ∨ d.control = .writing .outstanding) (nodup : st.sessions.Nodup)
    (h : GivenUp sessionId d st) (step : st.stepSession cfg other e = some st') : GivenUp sessionId d st' := by
  obtain ⟨d₀, stepped, lives, moved, rfl⟩ := Server.stepSession_cases step
  unfold GivenUp
  rw [Server.settle_eq]
  by_cases own : other = sessionId
  · subst own
    rcases h with alive | ⟨destroyed, _⟩
    · cases lives.symm.trans alive
      have aborted : d.control.cancel = .reading (.queued .aborted) ∨
          d.control.cancel = .writing (.queued .aborted) := by
        rcases outstanding with reading | writing
        · exact .inl (by rw [reading]; rfl)
        · exact .inr (by rw [writing]; rfl)
      have place := (List.getElem?_eq_some_iff.mp lives).1
      rcases step_aborted aborted rfl moved with rfl | rfl
      · left
        have holds : d.control.cancel.Holds := by
          rcases aborted with reading | writing
          · simp [Control.Holds, reading]
          · simp [Control.Holds, writing]
        rw [Server.outcome_chain _ _ holds]
        exact List.getElem?_set_self place
      · right
        have gone : other ∉ st.sessions.erase other := nodup.not_mem_erase
        have goesOn : d.control ≠ .ended := by
          rcases outstanding with reading | writing
          · rw [reading]; exact fun same => by cases same
          · rw [writing]; exact fun same => by cases same
        refine ⟨?_, gone⟩
        rw [Server.outcome, if_neg, reached.abandoned goesOn]
        · exact List.getElem?_set_self place
        · rintro (listed | chain | timer)
          · exact gone listed
          · exact chain.1 rfl
          · exact timer rfl
    · cases lives.symm.trans destroyed
  · rw [List.getElem?_set_ne own]
    rcases h with alive | ⟨destroyed, gone⟩
    · exact .inl alive
    · refine .inr ⟨destroyed, fun listed => gone ?_⟩
      simp only [Server.between] at listed
      split at listed
      · exact List.mem_of_mem_erase listed
      · exact listed

/-- **An idle session is reclaimed.** Once the timer handler has found a session idle while its read or
write was outstanding, the session stays as it is in every further run, no request of it is
handled and no reply written; and when the handler of its aborted operation has run, it is
off the list and destroyed, with nothing removed. -/
theorem idle_session_reclaimed {cfg : Config} {st st₁ st' : Server} {sessionId : Nat} {d : Dialogue}
    {es : List Event} (reachable : Reachable (Server.step cfg) {} st)
    (found : st.objects[sessionId]? = some ⟨d, none⟩)
    (outstanding : d.control = .reading .outstanding ∨ d.control = .writing .outstanding)
    (fired : d.timer = .waiting (.queued .success))
    (verdict : st.step cfg (.session sessionId (.runTimer true)) = some st₁)
    (run : exec (Server.step cfg) st₁ es = some st') :
    st'.objects[sessionId]? = some ⟨{ d with control := d.control.cancel, timer := .stopped }, none⟩ ∨
      st'.objects[sessionId]? = some ⟨{ d with control := .ended, timer := .stopped }, some (.ok [])⟩ ∧
        sessionId ∉ st'.sessions := by
  have reached : Reached cfg sessionId d := Server.objects_reached reachable sessionId _ found
  have place := (List.getElem?_eq_some_iff.mp found).1
  have start : GivenUp sessionId d st₁ := by
    have step : st.stepSession cfg sessionId (.runTimer true) = some st₁ := verdict
    obtain ⟨d₀, stepped, lives, moved, rfl⟩ := Server.stepSession_cases step
    cases lives.symm.trans found
    simp only [Dialogue.step, fired, Option.some.injEq] at moved
    subst moved
    have holds : d.control.cancel.Holds := by
      rcases outstanding with reading | writing
      · simp [Control.Holds, reading, Control.cancel]
      · simp [Control.Holds, writing, Control.cancel]
    left
    rw [Server.settle_eq]
    show (st.objects.set sessionId ⟨{ d with control := d.control.cancel, timer := .stopped }, _⟩)[sessionId]? = _
    rw [Server.outcome_chain _ _ (show Control.Holds (d.runTimer .success true).control from holds)]
    exact List.getElem?_set_self place
  have whenCreated : ∀ st, Lifetimes st → GivenUp sessionId d st → GivenUp sessionId d st.createSession := by
    intro st lifetimes h
    have old : ∀ {object}, st.objects[sessionId]? = some object →
        st.createSession.objects[sessionId]? = some object := fun found =>
      (List.getElem?_append_left (List.getElem?_eq_some_iff.mp found).1).trans found
    rcases h with alive | ⟨destroyed, gone⟩
    · exact .inl (old alive)
    · refine .inr ⟨old destroyed, fun listed => ?_⟩
      rcases List.mem_cons.mp listed with new | before
      · exact Nat.ne_of_lt (List.getElem?_eq_some_iff.mp destroyed).1 new
      · exact gone before
  refine (exec_invariant (fun st => Lifetimes st ∧ GivenUp sessionId d st) ?_
    ⟨Server.lifetimes (reachable.snoc verdict), start⟩ run).2
  intro st e st' kept step
  refine Server.step_preserves (I := fun st => Lifetimes st ∧ GivenUp sessionId d st) (C := fun _ _ _ => True)
    ?_ (fun st h => ⟨h.1.createSession, whenCreated st h.1 h.2⟩) ?_ (fun _ _ => trivial) kept
    (fun _ _ _ => trivial) step
  · rintro st st' ⟨lifetimes, h⟩ same
    refine ⟨lifetimes.same same, ?_⟩
    unfold GivenUp
    rw [same.objects, same.sessions]
    exact h
  · exact fun st other e st' h _ step => ⟨h.1.stepSession step, h.2.stepSession reached outstanding h.1.nodup step⟩

/-- A session whose client says nothing, up to the expiry of its wait. -/
def silentSession : List Event :=
  [.acceptDone false, .runAccept, .createSession, .session 0 .startRead, .session 0 .startTimer, .session 0 .expire]

theorem silentSession_reclaimed :
    ∃ st object, exec (Server.step dummyConfig) {}
        (silentSession ++ [.session 0 (.runTimer true), .session 0 (.runRead fun _ => Mailbox.oneByteFiles)]) =
          some st ∧
      st.objects[0]? = some object ∧ object.released = some (.ok []) ∧ 0 ∉ st.sessions := by
  obtain ⟨st, d, st₁, st', object, run, found, reading, fired, verdict, rest, ended, object', whole⟩ :
      ∃ st d st₁ st' object, exec (Server.step dummyConfig) {} silentSession = some st ∧
        st.objects[0]? = some ⟨d, none⟩ ∧ d.control = .reading .outstanding ∧
        d.timer = .waiting (.queued .success) ∧ st.step dummyConfig (.session 0 (.runTimer true)) = some st₁ ∧
        exec (Server.step dummyConfig) st₁ [.session 0 (.runRead fun _ => Mailbox.oneByteFiles)] = some st' ∧
        object.dialogue.control = .ended ∧ st'.objects[0]? = some object ∧
        exec (Server.step dummyConfig) {}
          (silentSession ++ [.session 0 (.runTimer true), .session 0 (.runRead fun _ => Mailbox.oneByteFiles)]) =
            some st' := ⟨_, _, _, _, _, rfl, rfl, rfl, rfl, rfl, rfl, rfl, rfl, rfl⟩
  rcases idle_session_reclaimed ⟨_, run⟩ found (.inl reading) fired verdict rest with alive | ⟨destroyed, gone⟩
  · cases object'.symm.trans alive
    rw [reading] at ended
    cases ended
  · exact ⟨st', _, whole, destroyed, rfl, gone⟩

/-! ## A session without a timer -/

/-- A wait is under way that nobody has cancelled, or the first is still to be started. -/
def Timer.running : Timer → Bool
  | .unset => true
  | .waiting (.queued .aborted) => false
  | .waiting _ => true
  | .stopped => false

/-- The session has its timer, or ends with its next handler. -/
def Dialogue.Watched (d : Dialogue) : Prop := d.timer.running = true ∨ d.finishing = true

theorem handlerEnded_timer (cfg : Config) (d : Dialogue) (fs : FileSystems) (ended : Ended) :
    (d.handlerEnded cfg fs ended).timer = d.timer := by
  rcases handlerEnded_cases cfg d fs ended with ⟨_, _, same⟩ | ⟨_, _, same⟩ <;> rw [same]

theorem runRead_timer (cfg : Config) (active : ActiveMailboxes) (d : Dialogue) (ec : Completion) (fs : FileSystems) :
    (d.runRead cfg active ec fs).dialogue.timer = d.timer := by
  unfold Dialogue.runRead
  split
  · split
    · rfl
    · exact handlerEnded_timer cfg d fs _
  · rfl

theorem runWrite_timer (active : ActiveMailboxes) (d : Dialogue) (ec : Completion) :
    (d.runWrite active ec).dialogue.timer = d.timer := by
  unfold Dialogue.runWrite
  split
  · split <;> rfl
  · rfl

/-- What a step can do to a timer. -/
inductive TimerMoved (d : Dialogue) : SessionEvent → Dialogue → Prop
  | same (e : SessionEvent) (d' : Dialogue) (kept : d'.timer = d.timer) : TimerMoved d e d'
  /-- a wait is started, or completes -/
  | running (e : SessionEvent) (d' : Dialogue) (runs : d'.timer.running = true) : TimerMoved d e d'
  /-- the timer handler finds the session idle -/
  | idle (d' : Dialogue) (cancelled : d' = { d with control := d.control.cancel, timer := .stopped }) :
      TimerMoved d (.runTimer true) d'
  | aborted (e : SessionEvent) (d' : Dialogue) (was : d.timer = .waiting (.queued .aborted)) : TimerMoved d e d'

theorem step_timerMoved {cfg : Config} {active : ActiveMailboxes} {d : Dialogue} {e : SessionEvent}
    {stepped : Stepped} (notCancel : e ≠ .cancel) (step : d.step cfg active e = some stepped) :
    TimerMoved d e stepped.dialogue := by
  cases e with
  | cancel => exact absurd rfl notCancel
  | runTimer idle =>
    simp only [Dialogue.step] at step
    split at step
    · rename_i ec queued
      cases step
      cases ec with
      | success =>
        cases idle with
        | true => exact .idle _ rfl
        | false => exact .running _ _ rfl
      | aborted => exact .aborted _ _ queued
      | failed => exact .running _ _ rfl
    · cases step
  | startTimer =>
    simp only [Dialogue.step] at step
    split at step
    · cases step
    · cases step; exact .running _ _ rfl
    · cases step
  | expire =>
    simp only [Dialogue.step] at step
    split at step
    · cases step; exact .running _ _ rfl
    · cases step
  | failTimer =>
    simp only [Dialogue.step] at step
    split at step
    · cases step; exact .running _ _ rfl
    · cases step
  | runRead fs =>
    simp only [Dialogue.step] at step
    split at step
    · cases step; exact .same _ _ (runRead_timer cfg active d _ fs)
    · cases step
  | runLogin fs =>
    simp only [Dialogue.step] at step
    split at step
    · cases step; exact .same _ _ (handlerEnded_timer cfg d fs _)
    · cases step
  | runWrite =>
    simp only [Dialogue.step] at step
    split at step
    · cases step; exact .same _ _ (runWrite_timer active d _)
    · cases step
  | startRead =>
    simp only [Dialogue.step] at step
    split at step
    · cases step; exact .same _ _ rfl
    · cases step
  | receive chunk =>
    simp only [Dialogue.step] at step
    split at step
    · cases step; exact .same _ _ rfl
    · cases step
  | failRead =>
    simp only [Dialogue.step] at step
    split at step
    · cases step; exact .same _ _ rfl
    · cases step
  | sent =>
    simp only [Dialogue.step] at step
    split at step
    · cases step; exact .same _ _ rfl
    · cases step
  | failWrite =>
    simp only [Dialogue.step] at step
    split at step
    · cases step; exact .same _ _ rfl
    · cases step

/-- A session stays watched if none of its handlers is queued or executing when it is found idle. -/
theorem Dialogue.Watched.step {cfg : Config} {active : ActiveMailboxes} {d : Dialogue} {e : SessionEvent}
    {stepped : Stepped} (h : d.Watched) (notCancel : e ≠ .cancel)
    (outstanding : e = .runTimer true → d.control.cancel.finishing d.session.quitCommandReceived = true)
    (step : d.step cfg active e = some stepped) : stepped.dialogue.Watched := by
  rcases h with running | finishing
  · cases step_timerMoved notCancel step with
    | same e d' kept => exact .inl (kept ▸ running)
    | running e d' runs => exact .inl runs
    | idle d' cancelled => exact .inr (cancelled ▸ outstanding rfl)
    | aborted e d' was => rw [was] at running; cases running
  · exact .inr (step_finishing finishing step)

end Pop3Serv.Net
