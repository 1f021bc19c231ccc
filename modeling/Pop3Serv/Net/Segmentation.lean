import Pop3Serv.Logic.Framing
import Pop3Serv.Net.Typestate

/-!
# The dialogue and the cuts of the stream

`readImpl` parses the whole request buffer and `write` clears it, whatever length
the read completion reports. So a session that is sent a stream in chunks does what
it would if each buffer it found complete had come in one chunk (`lineByLine`); and
these buffers are the lines of the stream as long as no chunk goes past the end of a
line (`Aligned`).
-/

namespace Pop3Serv.Net
open Proto Mail Logic

/-- What can happen to a session, with the lock table it meets. -/
abbrev Meeting := ActiveMailboxes × SessionEvent

/-- The chunks a run delivers. -/
def chunksOf (es : List Meeting) : List Bytes :=
  es.filterMap fun e => match e.2 with
    | .receive chunk => some chunk
    | _ => none

/-- The lines of a stream, each with its `\r\n`. What follows the last `\r\n` is no line. -/
def lines (stream : Bytes) : List Bytes := frames lineReceived [] stream

/-- The parse results of the requests handled, in order. -/
def resultsIn (log : List Note) : List Parsed :=
  log.filterMap fun
    | .handled x => some x.result
    | .replied => none

/-- The same events, with the chunks of a request delivered at once, when the last of them comes. -/
def lineByLine : Bytes → List Meeting → List Meeting
  | _, [] => []
  | buffer, (active, e) :: es =>
    match e with
    | .receive chunk =>
      if lineReceived (buffer ++ chunk) then (active, .receive (buffer ++ chunk)) :: lineByLine [] es
      else lineByLine (buffer ++ chunk) es
    | e => (active, e) :: lineByLine buffer es

theorem lasting_lineReceived : Lasting lineReceived := by
  intro xs ys received
  unfold lineReceived at received ⊢
  simp only [decide_eq_true_eq] at received ⊢
  exact received.trans (List.prefix_append xs ys).isInfix

/-- A stream of lines has these lines. -/
theorem lines_flatten {each : List Bytes} (isLine : ∀ line ∈ each, IsFrame lineReceived line) :
    lines each.flatten = each := frames_flatten lasting_lineReceived (by decide) isLine

theorem chunksOf_cons (active : ActiveMailboxes) (e : SessionEvent) (es : List Meeting) :
    chunksOf ((active, e) :: es) = chunksOf [(active, e)] ++ chunksOf es := by
  unfold chunksOf
  rw [← List.filterMap_append]
  rfl

/-- The chunks after the regrouping are the buffers found complete before it. -/
theorem chunksOf_lineByLine (buffer : Bytes) (es : List Meeting) :
    chunksOf (lineByLine buffer es) = regroup lineReceived buffer (chunksOf es) := by
  induction es generalizing buffer with
  | nil => rfl
  | cons e es ih =>
    obtain ⟨active, e⟩ := e
    cases e with
    | receive chunk =>
      rw [chunksOf_cons]
      show chunksOf (if lineReceived (buffer ++ chunk) then _ else _) = _
      show _ = if lineReceived (buffer ++ chunk) then _ else _
      split
      · rw [chunksOf_cons, ih]
        rfl
      · exact ih _
    | _ =>
      rw [lineByLine, chunksOf_cons, ih, chunksOf_cons]
      · rfl
      · nofun

/-- The session with another request in its buffer. -/
def Dialogue.putRequest (d : Dialogue) (request : Bytes) : Dialogue :=
  { d with session := { d.session with request } }

/-- The chain is where the buffer is not looked at: a read is outstanding or has failed, or all is over. -/
inductive Control.Deaf : Control → Prop
  | outstanding : Deaf (.reading .outstanding)
  | failed (ec : Completion) (failed : ec ≠ .success) : Deaf (.reading (.queued ec))
  | ended : Deaf .ended

/-- There, no event but a delivery has to do with the buffer. -/
theorem step_putRequest {cfg : Config} {active : ActiveMailboxes} {d : Dialogue} {e : SessionEvent}
    (deaf : d.control.Deaf) (silent : ∀ chunk, e ≠ .receive chunk) (request : Bytes) :
    (d.putRequest request).step cfg active e =
      (d.step cfg active e).map fun stepped =>
        { stepped with dialogue := stepped.dialogue.putRequest request } := by
  obtain ⟨session, control, timer, log⟩ := d
  simp only at deaf
  cases e with
  | receive chunk => exact absurd rfl (silent chunk)
  | runRead fs =>
    cases deaf with
    | outstanding => rfl
    | ended => rfl
    | failed ec failed => simp [Dialogue.step, Dialogue.putRequest, Dialogue.runRead, failed]
  | runTimer idle =>
    cases timer with
    | waiting op =>
      cases op with
      | outstanding => rfl
      | queued ec => cases ec <;> cases idle <;> rfl
    | _ => rfl
  | startTimer => cases deaf <;> cases timer <;> rfl
  | expire => cases timer with
    | waiting op => cases op <;> rfl
    | _ => rfl
  | failTimer => cases timer with
    | waiting op => cases op <;> rfl
    | _ => rfl
  | _ => cases deaf <;> rfl

/-- A session (the second) from which the bytes in the first one's buffer are still withheld. -/
inductive Beside (d d' : Dialogue) (buffer : Bytes) : Prop
  /-- the line is not complete -/
  | waiting (reading : d.control = .reading .outstanding) (short : lineReceived buffer = false)
      (request : d.session.request = buffer) (same : d' = d.putRequest [])
  /-- the read failed before it was -/
  | broken (deaf : d.control.Deaf) (stopped : d.control ≠ .reading .outstanding)
      (same : d' = d.putRequest [])
  | together (moving : d.control ≠ .reading .outstanding)
      (fresh : d.control = .accepted → d.session.request = []) (empty : buffer = []) (same : d' = d)

theorem Beside.of_control {d : Dialogue} (moving : d.control ≠ .reading .outstanding)
    (begun : d.control ≠ .accepted) : Beside d d [] :=
  .together moving (fun accepted => absurd accepted begun) rfl rfl

theorem Beside.of_handlerEnded (cfg : Config) (d : Dialogue) (fs : FileSystems) (ended : Ended) :
    Beside (d.handlerEnded cfg fs ended) (d.handlerEnded cfg fs ended) [] := by
  rcases handlerEnded_control cfg d fs ended with writing | escaped
  · exact .of_control (by rw [writing]; nofun) (by rw [writing]; nofun)
  · exact .of_control (by rw [escaped]; nofun) (by rw [escaped]; nofun)

variable {cfg : Config} {active : ActiveMailboxes} {d d' : Dialogue} {e : SessionEvent}
  {stepped : Stepped} {buffer : Bytes}

/-- A step that delivers nothing, of a session that is not reading or has nothing withheld. -/
theorem Beside.step_together (moving : d.control ≠ .reading .outstanding)
    (fresh : d.control = .accepted → d.session.request = []) (h : d.step cfg active e = some stepped) :
    Beside stepped.dialogue stepped.dialogue [] := by
  cases step_stepping h with
  | operation control timer same silent =>
    generalize was : d.control = before at same
    cases same with
    | refl => exact .together (was ▸ moving) (was ▸ fresh) rfl rfl
    | reading ec failed => exact absurd was moving
    | writing ec => exact .of_control nofun nofun
  | readStarted event accepted =>
    refine .waiting rfl (by decide) (fresh accepted) ?_
    simp [Dialogue.putRequest, ← fresh accepted]
  | received chunk event reading => exact absurd reading moving
  | runRead ec fs event reading =>
    unfold Dialogue.runRead
    split
    · split
      · exact .of_control nofun nofun
      · exact .of_handlerEnded cfg d fs _
    · exact .of_control nofun nofun
  | runLogin lock password fs event loggingIn => exact .of_handlerEnded cfg d fs _
  | runWrite ec event writing =>
    unfold Dialogue.runWrite
    split
    · split
      · exact .of_control nofun nofun
      · exact .waiting rfl (by decide) rfl rfl
    · exact .of_control nofun nofun

/-- **A step that delivers nothing** is a step of both. -/
theorem Beside.step (beside : Beside d d' buffer) (silent : ∀ chunk, e ≠ .receive chunk)
    (h : d.step cfg active e = some stepped) :
    ∃ stepped', d'.step cfg active e = some stepped' ∧ Beside stepped.dialogue stepped'.dialogue buffer := by
  cases beside with
  | together moving fresh empty same =>
    subst empty same
    exact ⟨stepped, h, step_together moving fresh h⟩
  | waiting reading short request same =>
    subst same
    have deaf : d.control.Deaf := reading ▸ .outstanding
    refine ⟨_, by rw [step_putRequest deaf silent, h]; rfl, ?_⟩
    cases step_stepping h with
    | operation control timer same silent =>
      rw [reading] at same
      cases same with
      | refl => exact .waiting rfl short request rfl
      | reading ec failed => exact .broken (.failed ec failed) nofun rfl
    | readStarted event accepted => cases reading.symm.trans accepted
    | received chunk event reading => exact absurd event (silent chunk)
    | runRead ec fs event other => cases reading.symm.trans other
    | runLogin lock password fs event other => cases reading.symm.trans other
    | runWrite ec event other => cases reading.symm.trans other
  | broken deaf stopped same =>
    subst same
    refine ⟨_, by rw [step_putRequest deaf silent, h]; rfl, ?_⟩
    cases step_stepping h with
    | operation control timer same silent =>
      generalize was : d.control = before at same deaf stopped
      cases same with
      | refl => exact .broken deaf stopped rfl
      | reading ec failed => exact absurd rfl stopped
      | writing ec => cases deaf
    | readStarted event accepted => rw [accepted] at deaf; cases deaf
    | received chunk event reading => exact absurd event (silent chunk)
    | runRead ec fs event reading =>
      rw [reading] at deaf
      cases deaf with
      | failed ec failed =>
        unfold Dialogue.runRead
        rw [if_neg failed]
        exact .broken .ended nofun rfl
    | runLogin lock password fs event loggingIn => rw [loggingIn] at deaf; cases deaf
    | runWrite ec event writing => rw [writing] at deaf; cases deaf

/-- A session that is delivered a chunk was reading. -/
theorem step_receive {chunk : Bytes} (h : d.step cfg active (.receive chunk) = some stepped) :
    d.control = .reading .outstanding := by
  cases step_stepping h with
  | operation control timer same silent => exact absurd rfl (silent chunk)
  | received chunk event reading => exact reading
  | readStarted event accepted => cases event
  | runRead ec fs event reading => cases event
  | runLogin lock password fs event loggingIn => cases event
  | runWrite ec event writing => cases event

/-- The step in which a reading session is delivered a chunk. -/
theorem step_receive_eq (reading : d.control = .reading .outstanding) (chunk : Bytes) :
    d.step cfg active (.receive chunk) = some
      { dialogue :=
          { d with
            session := { d.session with request := d.session.request ++ chunk }
            control :=
              .reading (if lineReceived (d.session.request ++ chunk) then .queued .success else .outstanding) }
        active } := by
  simp only [Dialogue.step, reading]

/-- A delivery to a reading session: the buffer is its request. -/
theorem Beside.reading {chunk : Bytes} (beside : Beside d d' buffer)
    (h : d.step cfg active (.receive chunk) = some stepped) :
    lineReceived buffer = false ∧ d.session.request = buffer ∧ d' = d.putRequest [] := by
  have reading := step_receive h
  cases beside with
  | waiting reading short request same => exact ⟨short, request, same⟩
  | broken deaf stopped same => exact absurd reading stopped
  | together moving fresh empty same => exact absurd reading moving

/-- A delivery that completes the line: the withheld bytes come with it. -/
theorem Beside.complete {chunk : Bytes} (beside : Beside d d' buffer)
    (filled : lineReceived (buffer ++ chunk) = true)
    (h : d.step cfg active (.receive chunk) = some stepped) :
    d'.step cfg active (.receive (buffer ++ chunk)) = some stepped ∧
      Beside stepped.dialogue stepped.dialogue [] := by
  have reading := step_receive h
  obtain ⟨_, request, rfl⟩ := beside.reading h
  subst request
  rw [step_receive_eq reading] at h
  have same : (d.putRequest []).control = .reading .outstanding := reading
  rw [step_receive_eq same]
  cases h
  refine ⟨rfl, .of_control ?_ nofun⟩
  simp [filled]

/-- A delivery that does not: its bytes are withheld too. -/
theorem Beside.extend {chunk : Bytes} (beside : Beside d d' buffer)
    (short : lineReceived (buffer ++ chunk) = false)
    (h : d.step cfg active (.receive chunk) = some stepped) :
    Beside stepped.dialogue d' (buffer ++ chunk) := by
  have reading := step_receive h
  obtain ⟨_, request, rfl⟩ := beside.reading h
  subst request
  rw [step_receive_eq reading] at h
  cases h
  refine .waiting (by simp [short]) short rfl ?_
  simp [Dialogue.putRequest, reading, short]

/-- **Regrouping the chunks changes nothing** but when the bytes of a request come. -/
theorem Beside.run {es : List Meeting} {u : Dialogue} (beside : Beside d d' buffer)
    (run : exec (Dialogue.localStep cfg) d es = some u) :
    ∃ u', exec (Dialogue.localStep cfg) d' (lineByLine buffer es) = some u' ∧ u'.log = u.log ∧
      u'.control = u.control := by
  induction es generalizing d d' buffer with
  | nil =>
    cases run
    refine ⟨d', rfl, ?_⟩
    cases beside with
    | waiting reading short request same => subst same; exact ⟨rfl, rfl⟩
    | broken deaf stopped same => subst same; exact ⟨rfl, rfl⟩
    | together moving fresh empty same => subst same; exact ⟨rfl, rfl⟩
  | cons meeting es ih =>
    obtain ⟨active, e⟩ := meeting
    rw [exec_cons] at run
    obtain ⟨v, first, rest⟩ := Option.bind_eq_some_iff.mp run
    obtain ⟨stepped, step, rfl⟩ := Option.map_eq_some_iff.mp first
    have quiet (silent : ∀ chunk, e ≠ .receive chunk) : ∃ u',
        exec (Dialogue.localStep cfg) d' ((active, e) :: lineByLine buffer es) = some u' ∧
          u'.log = u.log ∧ u'.control = u.control := by
      obtain ⟨stepped', step', beside'⟩ := beside.step silent step
      obtain ⟨u', run', same⟩ := ih beside' rest
      exact ⟨u', by simp [exec_cons, Dialogue.localStep, step', run'], same⟩
    cases e with
    | receive chunk =>
      show ∃ u', exec (Dialogue.localStep cfg) d' (if lineReceived (buffer ++ chunk) then _ else _) = _ ∧ _
      split
      · rename_i filled
        obtain ⟨step', beside'⟩ := beside.complete filled step
        obtain ⟨u', run', same⟩ := ih beside' rest
        exact ⟨u', by simp [exec_cons, Dialogue.localStep, step', run'], same⟩
      · rename_i short
        exact ih (beside.extend (by simpa using short) step) rest
    | _ => exact quiet (by simp)

/-- What a session that is delivered its requests whole has done with them. -/
inductive Heard (cfg : Config) (d : Dialogue) (chunks : List Bytes) : Prop
  /-- every one is handled, and the buffer is empty -/
  | idle (control : d.control = .accepted ∨ d.control = .reading .outstanding)
      (empty : d.session.request = [])
      (all : (resultsIn d.log).map .ok = chunks.map (parsePOP3Command cfg.lex))
  /-- the last is in the buffer -/
  | taken (before : List Bytes)
      (control : d.control = .reading (.queued .success) ∨
        ∃ lock password, d.control = .loggingIn lock password)
      (last : chunks = before ++ [d.session.request])
      (all : (resultsIn d.log).map .ok = before.map (parsePOP3Command cfg.lex))
  /-- the reply to the last is being written -/
  | replying (control : ∃ op, d.control = .writing op)
      (all : (resultsIn d.log).map .ok = chunks.map (parsePOP3Command cfg.lex))
  | finished (control : (∃ ec ≠ .success, d.control = .reading (.queued ec)) ∨ d.control = .ended ∨
        d.control = .escaped)
      (handled : (resultsIn d.log).map .ok <+: chunks.map (parsePOP3Command cfg.lex))

theorem resultsIn_handled (log : List Note) (x : Exchange) :
    resultsIn (log ++ [.handled x]) = resultsIn log ++ [x.result] := by
  simp [resultsIn]

theorem resultsIn_replied (log : List Note) : resultsIn (log ++ [.replied]) = resultsIn log := by
  simp [resultsIn]

variable {chunks : List Bytes}

/-- The handler of the last request ended. -/
theorem Heard.of_handlerEnded {before : List Bytes} (fs : FileSystems) (ended : Ended)
    (last : chunks = before ++ [d.session.request])
    (all : (resultsIn d.log).map .ok = before.map (parsePOP3Command cfg.lex)) :
    Heard cfg (d.handlerEnded cfg fs ended) chunks := by
  rcases handlerEnded_cases cfg d fs ended with ⟨result, parsed, same⟩ | ⟨fault, failed, same⟩
  · have grown : (resultsIn (d.handlerEnded cfg fs ended).log).map .ok =
        chunks.map (parsePOP3Command cfg.lex) := by
      rw [same, resultsIn_handled, List.map_append, all, last, List.map_append, List.map_singleton,
        List.map_singleton, parsed]
    rcases handlerEnded_control cfg d fs ended with writing | escaped
    · exact .replying ⟨_, writing⟩ grown
    · exact .finished (.inr (.inr escaped)) (grown ▸ List.prefix_refl _)
  · refine .finished (.inr (.inr (by rw [same]))) ?_
    rw [same, all, last, List.map_append]
    exact List.prefix_append _ _

/-- A session before its first read, or reading: all is handled. -/
theorem Heard.at_rest (heard : Heard cfg d chunks)
    (control : d.control = .accepted ∨ d.control = .reading .outstanding) :
    d.session.request = [] ∧ (resultsIn d.log).map .ok = chunks.map (parsePOP3Command cfg.lex) := by
  cases heard with
  | idle _ empty all => exact ⟨empty, all⟩
  | taken before control' last all => rcases control with same | same <;> simp [same] at control'
  | replying control' all => rcases control with same | same <;> simp [same] at control'
  | finished control' handled => rcases control with same | same <;> simp [same] at control'

/-- A session at a request: all before it is handled. -/
theorem Heard.at_request (heard : Heard cfg d chunks)
    (control : d.control = .reading (.queued .success) ∨
      ∃ lock password, d.control = .loggingIn lock password) :
    ∃ before, chunks = before ++ [d.session.request] ∧
      (resultsIn d.log).map .ok = before.map (parsePOP3Command cfg.lex) := by
  cases heard with
  | idle control' empty all => rcases control with same | ⟨_, _, same⟩ <;> simp [same] at control'
  | taken before _ last all => exact ⟨before, last, all⟩
  | replying control' all => rcases control with same | ⟨_, _, same⟩ <;> simp [same] at control'
  | finished control' handled => rcases control with same | ⟨_, _, same⟩ <;> simp [same] at control'

/-- A session at a reply: all is handled. -/
theorem Heard.at_reply (heard : Heard cfg d chunks) {op : Pending} (control : d.control = .writing op) :
    (resultsIn d.log).map .ok = chunks.map (parsePOP3Command cfg.lex) := by
  cases heard with
  | idle control' empty all => simp [control] at control'
  | taken before control' last all => simp [control] at control'
  | replying _ all => exact all
  | finished control' handled => simp [control] at control'

/-- What is handled is in any case the first of what was delivered. -/
theorem Heard.handled_prefix (heard : Heard cfg d chunks) :
    (resultsIn d.log).map .ok <+: chunks.map (parsePOP3Command cfg.lex) := by
  cases heard with
  | idle control empty all => exact all ▸ List.prefix_refl _
  | taken before control last all =>
    rw [all, last, List.map_append]
    exact List.prefix_append _ _
  | replying control all => exact all ▸ List.prefix_refl _
  | finished control handled => exact handled

theorem Heard.operation {control : Control} {timer : Timer} (heard : Heard cfg d chunks)
    (same : d.control.Same control) : Heard cfg { d with control, timer } chunks := by
  generalize was : d.control = before at same
  cases same with
  | refl =>
    cases heard with
    | idle control empty all => exact .idle (was ▸ control) empty all
    | taken first control last all => exact .taken first (was ▸ control) last all
    | replying control all => exact .replying (was ▸ control) all
    | finished control handled => exact .finished (was ▸ control) handled
  | reading ec failed => exact .finished (.inl ⟨ec, failed, rfl⟩) heard.handled_prefix
  | writing ec => exact .replying ⟨_, rfl⟩ (heard.at_reply was)

theorem chunksOf_silent (silent : ∀ chunk, e ≠ .receive chunk) : chunksOf [(active, e)] = [] := by
  cases e with
  | receive chunk => exact absurd rfl (silent chunk)
  | _ => rfl

/-- **A step of a session that is delivered its requests whole.** -/
theorem Heard.step (heard : Heard cfg d chunks) (h : d.step cfg active e = some stepped)
    (whole : ∀ chunk, e = .receive chunk → lineReceived chunk = true) :
    Heard cfg stepped.dialogue (chunks ++ chunksOf [(active, e)]) := by
  cases step_stepping h with
  | operation control timer same silent =>
    rw [chunksOf_silent silent, List.append_nil]
    exact heard.operation same
  | readStarted event accepted =>
    rw [chunksOf_silent (by simp [event]), List.append_nil]
    obtain ⟨empty, all⟩ := heard.at_rest (.inl accepted)
    exact .idle (.inr rfl) empty all
  | received chunk event reading =>
    subst event
    obtain ⟨empty, all⟩ := heard.at_rest (.inr reading)
    refine .taken chunks (.inl ?_) ?_ all
    · simp [empty, whole chunk rfl]
    · simp [empty, chunksOf]
  | runRead ec fs event reading =>
    rw [chunksOf_silent (by simp [event]), List.append_nil]
    unfold Dialogue.runRead
    split
    · rename_i success
      obtain ⟨before, last, all⟩ := heard.at_request (.inl (success ▸ reading))
      split
      · exact .taken before (.inr ⟨_, _, rfl⟩) last all
      · exact .of_handlerEnded fs _ last all
    · exact .finished (.inr (.inl rfl)) heard.handled_prefix
  | runLogin lock password fs event loggingIn =>
    rw [chunksOf_silent (by simp [event]), List.append_nil]
    obtain ⟨before, last, all⟩ := heard.at_request (.inr ⟨_, _, loggingIn⟩)
    exact .of_handlerEnded fs _ last all
  | runWrite ec event writing =>
    rw [chunksOf_silent (by simp [event]), List.append_nil]
    have all := heard.at_reply writing
    unfold Dialogue.runWrite
    split
    · split
      · refine .finished (.inr (.inl rfl)) ?_
        rw [resultsIn_replied]
        exact heard.handled_prefix
      · exact .idle (.inr rfl) rfl ((congrArg _ (resultsIn_replied d.log)).trans all)
    · exact .finished (.inr (.inl rfl)) heard.handled_prefix

theorem Heard.run {es : List Meeting} {u : Dialogue} (heard : Heard cfg d chunks)
    (run : exec (Dialogue.localStep cfg) d es = some u)
    (whole : ∀ chunk ∈ chunksOf es, lineReceived chunk = true) : Heard cfg u (chunks ++ chunksOf es) := by
  induction es generalizing d chunks with
  | nil =>
    cases run
    exact (List.append_nil chunks).symm ▸ heard
  | cons meeting es ih =>
    obtain ⟨active, e⟩ := meeting
    rw [exec_cons] at run
    obtain ⟨v, first, rest⟩ := Option.bind_eq_some_iff.mp run
    obtain ⟨stepped, step, rfl⟩ := Option.map_eq_some_iff.mp first
    rw [chunksOf_cons] at whole ⊢
    rw [← List.append_assoc]
    refine ih (heard.step step ?_) rest fun chunk member => whole chunk (List.mem_append_right _ member)
    rintro chunk rfl
    exact whole chunk (List.mem_append_left _ (List.mem_singleton.mpr rfl))

/-- The dialogue of a run is that of the lines of its stream. -/
structure HandledByLine (cfg : Config) (sessionId : Nat) (es : List Meeting) (d : Dialogue) : Prop where
  /-- delivered one buffer at a time, the run has the same log: the same results and responses -/
  alone : ∃ d', exec (Dialogue.localStep cfg) (created sessionId) (lineByLine [] es) = some d' ∧
    d'.log = d.log
  /-- these buffers are the lines -/
  delivered : chunksOf (lineByLine [] es) = lines (chunksOf es).flatten
  /-- each result is that of one line, in order -/
  parsed : (resultsIn d.log).map .ok <+: (lines (chunksOf es).flatten).map (parsePOP3Command cfg.lex)
  /-- none is left out when the session waits for the next -/
  complete : d.control = .reading .outstanding →
    (resultsIn d.log).map .ok = (lines (chunksOf es).flatten).map (parsePOP3Command cfg.lex)

/-- **The dialogue does not depend on how the lines are cut into chunks**, in every run in which no
chunk goes past the end of a line. -/
theorem handled_by_line {sessionId : Nat} {es : List Meeting}
    (run : exec (Dialogue.localStep cfg) (created sessionId) es = some d)
    (aligned : Aligned lineReceived [] (chunksOf es)) : HandledByLine cfg sessionId es d := by
  have start : Beside (created sessionId) (created sessionId) [] := .together nofun (fun _ => rfl) rfl rfl
  obtain ⟨d', run', log, control⟩ := start.run run
  have delivered : chunksOf (lineByLine [] es) = lines (chunksOf es).flatten := by
    rw [chunksOf_lineByLine]
    exact regroup_eq_frames lasting_lineReceived (by decide) aligned
  have heard : Heard cfg d' (lines (chunksOf es).flatten) := by
    have nothing : Heard cfg (created sessionId) [] := .idle (.inl rfl) rfl rfl
    rw [← delivered]
    refine nothing.run run' fun chunk member => ?_
    rw [chunksOf_lineByLine] at member
    exact full_of_mem_regroup member
  refine ⟨⟨d', run', log⟩, delivered, log ▸ heard.handled_prefix, fun waits => ?_⟩
  rw [← log]
  exact (heard.at_rest (.inr (control.trans waits))).2

/-- `NOOP` in two chunks. -/
def cutNoop : List Meeting :=
  [(∅, .startRead), (∅, .receive (ascii "NO")), (∅, .receive (ascii "OP" ++ crlf)),
    (∅, .runRead fun _ => Mailbox.oneByteFiles), (∅, .sent), (∅, .runWrite)]

theorem handled_by_line_cutNoop :
    ∃ d, exec (Dialogue.localStep dummyConfig) (created 0) cutNoop = some d ∧
      HandledByLine dummyConfig 0 cutNoop d :=
  ⟨_, rfl, handled_by_line rfl (by decide)⟩

/-- `USER` and `NOOP` in one chunk. -/
def userNoop : List Meeting :=
  [(∅, .startRead), (∅, .receive (ascii "USER" ++ crlf ++ ascii "NOOP" ++ crlf)),
    (∅, .runRead fun _ => Mailbox.oneByteFiles), (∅, .sent), (∅, .runWrite)]

/-- The name of the `USER` is taken from the second line, which is then dropped: the one command handled
is `USER NOOP`, and the session waits for the next line. -/
theorem user_takes_next_line :
    ∃ d, exec (Dialogue.localStep dummyConfig) (created 0) userNoop = some d ∧
      lines (chunksOf userNoop).flatten = [ascii "USER" ++ crlf, ascii "NOOP" ++ crlf] ∧
      resultsIn d.log = [.ok ⟨.USER, .string (ascii "NOOP")⟩] ∧ d.control = .reading .outstanding ∧
      ¬ HandledByLine dummyConfig 0 userNoop d := by
  have cut : lines [ascii "USER" ++ crlf, ascii "NOOP" ++ crlf].flatten = _ := lines_flatten (by decide)
  refine ⟨_, rfl, cut, rfl, rfl, fun handled => ?_⟩
  have all := congrArg List.length (handled.complete rfl)
  revert all
  decide

end Pop3Serv.Net
