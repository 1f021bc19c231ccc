import Pop3Serv.Net.QuitCommit

/-!
# A session served request by request

`serve` handles one request line after the other, from the reply to the last, until
`QUIT` is acknowledged or an exception cuts a handler short. A dialogue that receives
the lines one by one does what it does (`serve_dialogue`). After a `RSET` the session is
the one that has just logged in, its buffers apart, and no request reads what is left
in those.
-/

namespace Pop3Serv.Net
open Proto Mail Logic

/-- A request line, and what the file system answers while it is handled. -/
structure Request where
  line : Bytes
  fs : FileSystems

namespace POP3Session

/-- The read handler's `readImpl`, with this line in the buffer. -/
def handle (cfg : Config) (active : ActiveMailboxes) (s : POP3Session) (r : Request) : Ended :=
  ({ s with request := r.line }.readImpl cfg r.fs active).1

/-- The session after the write handler of a reply. -/
def replied (s : POP3Session) : POP3Session :=
  if s.quitCommandReceived then { s with mailbox := s.mailbox.map Mailbox.setUpdate }
  else { s with request := [] }

theorem replied_goesOn {s : POP3Session} (goesOn : s.quitCommandReceived = false) :
    s.replied = { s with request := [] } := if_neg (by rw [goesOn]; nofun)

/-- The responses to the requests, and the session after the last that was handled. -/
def serve (cfg : Config) (active : ActiveMailboxes) (s : POP3Session) :
    List Request → List Bytes × POP3Session
  | [] => ([], s)
  | r :: rs =>
    let ended := s.handle cfg active r
    if ended.thrown = none then
      if ended.session.quitCommandReceived then ([ended.session.response], ended.session.replied)
      else
        let (responses, last) := ended.session.replied.serve cfg active rs
        (ended.session.response :: responses, last)
    else ([], ended.session)

/-- Every request is answered: none is cut short, and none comes after a `QUIT`. -/
def AnswersAll (cfg : Config) (active : ActiveMailboxes) (s : POP3Session) (rs : List Request) : Prop :=
  (s.serve cfg active rs).1.length = rs.length

instance (cfg : Config) (active : ActiveMailboxes) (s : POP3Session) (rs : List Request) :
    Decidable (s.AnswersAll cfg active rs) := by unfold AnswersAll; infer_instance

variable {cfg : Config} {active : ActiveMailboxes} {s : POP3Session}

theorem serve_cons_goesOn {r : Request} {rs : List Request} (returned : (s.handle cfg active r).thrown = none)
    (goesOn : (s.handle cfg active r).session.quitCommandReceived = false) :
    s.serve cfg active (r :: rs) =
      ((s.handle cfg active r).session.response ::
        ((s.handle cfg active r).session.replied.serve cfg active rs).1,
        ((s.handle cfg active r).session.replied.serve cfg active rs).2) := by
  rw [serve, if_pos returned, goesOn]
  rfl

theorem serve_cons_quit {r : Request} {rs : List Request} (returned : (s.handle cfg active r).thrown = none)
    (quit : (s.handle cfg active r).session.quitCommandReceived = true) :
    s.serve cfg active (r :: rs) =
      ([(s.handle cfg active r).session.response], (s.handle cfg active r).session.replied) := by
  rw [serve, if_pos returned, if_pos quit]

/-- The first of several answered requests: its handler returns, and only the last may be a `QUIT`. -/
theorem AnswersAll.cons {r : Request} {rs : List Request} (h : s.AnswersAll cfg active (r :: rs)) :
    (s.handle cfg active r).thrown = none ∧
      ((s.handle cfg active r).session.quitCommandReceived = true ∧ rs = [] ∨
        (s.handle cfg active r).session.quitCommandReceived = false ∧
          (s.handle cfg active r).session.replied.AnswersAll cfg active rs) := by
  unfold AnswersAll at h ⊢
  by_cases returned : (s.handle cfg active r).thrown = none
  · refine ⟨returned, ?_⟩
    cases quit : (s.handle cfg active r).session.quitCommandReceived with
    | true =>
      rw [serve_cons_quit returned quit] at h
      simp only [List.length_cons, List.length_nil] at h
      exact .inl ⟨rfl, List.length_eq_zero_iff.mp (by omega)⟩
    | false =>
      rw [serve_cons_goesOn returned quit] at h
      simp only [List.length_cons] at h
      exact .inr ⟨rfl, by omega⟩
  · rw [serve, if_neg returned] at h
    cases h

/-! ## What a dialogue does -/

/-- A request received in one chunk, handled and answered. -/
def answering (active : ActiveMailboxes) (r : Request) : List (ActiveMailboxes × SessionEvent) :=
  [(active, .receive r.line), (active, .runRead r.fs), (active, .sent), (active, .runWrite)]

/-- The responses left in the buffer, oldest first. -/
def responsesIn (log : List Note) : List Bytes :=
  log.filterMap fun
    | .handled x => some x.response
    | .replied => none

/-- A line received whole. -/
theorem localStep_receive {d : Dialogue} {line : Bytes} (reading : d.control = .reading .outstanding)
    (empty : d.session.request = []) (whole : lineReceived line = true) :
    ∃ d', d.localStep cfg (active, .receive line) = some d' ∧
      d'.session = { d.session with request := line } ∧ d'.control = .reading (.queued .success) ∧
      d'.log = d.log := by
  simp [Dialogue.localStep, Dialogue.step, reading, empty, whole]

/-- A request of a session that is logged in is handled in one step. -/
theorem localStep_runRead {d : Dialogue} {fs : FileSystems} (queued : d.control = .reading (.queued .success))
    (inside : d.session.state ≠ .Authorization)
    (returned : (d.session.readImpl cfg fs active).1.thrown = none) :
    ∃ d', d.localStep cfg (active, .runRead fs) = some d' ∧
      d'.session = (d.session.readImpl cfg fs active).1.session ∧ d'.control = .writing .outstanding ∧
      responsesIn d'.log = responsesIn d.log ++ [(d.session.readImpl cfg fs active).1.session.response] := by
  have noLogin : pendingLogin cfg d.session = none := by
    cases pending : pendingLogin cfg d.session with
    | none => rfl
    | some password => exact absurd (pendingLogin_eq_some_iff.mp pending).2 inside
  have step : d.localStep cfg (active, .runRead fs) =
      some (d.handlerEnded cfg fs (d.session.readImpl cfg fs active).1) := by
    simp only [Dialogue.localStep, Dialogue.step, queued, Dialogue.runRead, if_true, noLogin, Option.map_some]
  refine ⟨_, step, handlerEnded_session cfg d fs _, ?_⟩
  unfold Dialogue.handlerEnded
  cases parsed : parsePOP3Command cfg.lex d.session.request with
  | error fault =>
    unfold readImpl at returned
    rw [parsed] at returned
    cases returned
  | ok result => exact ⟨if_pos returned, by simp [responsesIn]⟩

/-- The reply is sent, and its write handler runs. -/
theorem localStep_runWrite {d : Dialogue} (writing : d.control = .writing .outstanding) :
    ∃ d', exec (Dialogue.localStep cfg) d [(active, .sent), (active, .runWrite)] = some d' ∧
      d'.session = d.session.replied ∧ responsesIn d'.log = responsesIn d.log ∧
      (d.session.quitCommandReceived = false → d'.control = .reading .outstanding) := by
  have sent : d.localStep cfg (active, .sent) = some { d with control := .writing (.queued .success) } := by
    simp only [Dialogue.localStep, Dialogue.step, writing, Option.map_some]
  rw [exec_cons, sent, Option.bind_some, exec_cons]
  simp only [Dialogue.localStep, Dialogue.step, Dialogue.runWrite, if_true, replied]
  cases d.session.quitCommandReceived with
  | true => exact ⟨_, rfl, rfl, by simp [responsesIn], fun waits => by cases waits⟩
  | false => exact ⟨_, rfl, rfl, by simp [responsesIn], fun _ => rfl⟩

/-- **One request**: the dialogue ends, or waits for the next. -/
theorem handle_dialogue {d : Dialogue} {r : Request} (reading : d.control = .reading .outstanding)
    (empty : d.session.request = []) (inside : d.session.state ≠ .Authorization)
    (whole : lineReceived r.line = true) (returned : (d.session.handle cfg active r).thrown = none) :
    ∃ d', exec (Dialogue.localStep cfg) d (answering active r) = some d' ∧
      d'.session = (d.session.handle cfg active r).session.replied ∧
      responsesIn d'.log = responsesIn d.log ++ [(d.session.handle cfg active r).session.response] ∧
      ((d.session.handle cfg active r).session.quitCommandReceived = false →
        d'.control = .reading .outstanding) := by
  unfold handle at returned ⊢
  obtain ⟨received, receive, session, queued, log⟩ := localStep_receive reading empty whole
  rw [← session] at returned ⊢
  have stillInside : received.session.state ≠ .Authorization := by rw [session]; exact inside
  obtain ⟨handled, run, session', writing, log'⟩ := localStep_runRead queued stillInside returned
  obtain ⟨d', write, session'', log'', waits⟩ := localStep_runWrite writing
  refine ⟨d', ?_, ?_, ?_, ?_⟩
  · rw [answering, exec_cons, receive, Option.bind_some, exec_cons, run, Option.bind_some]
    exact write
  · rw [session'', session']
  · rw [log'', log', log]
  · rw [← session']
    exact waits

/-- What a request does to a session that is logged in, unless it is acknowledged as a `QUIT`. -/
theorem handle_inside {r : Request} (inside : s.state = .Transaction)
    (goesOn : (s.handle cfg active r).session.quitCommandReceived = false) :
    ∃ response, (s.handle cfg active r).session =
      { s with
        request := r.line, response
        mailbox := s.mailbox.map (Mailbox.run · ({ s with request := r.line }.requestedCalls cfg)) } := by
  have notAnonymous : s.state ≠ .Authorization := by rw [inside]; nofun
  unfold handle at goesOn ⊢
  cases readImpl_handled cfg r.fs active { s with request := r.line } with
  | acted session notQuit sameName => exact session
  | named name anonymous requested known returned positive session => exact absurd anonymous notAnonymous
  | entered password m lock anonymous requested ownName connected session => exact absurd anonymous notAnonymous
  | quitted parameter requested returned session =>
    obtain ⟨response, session⟩ := session
    rw [session] at goesOn
    cases goesOn

/-- **The requests a dialogue answers** are served as `serve` does it. -/
theorem serve_dialogue {d : Dialogue} {rs : List Request} (reading : d.control = .reading .outstanding)
    (empty : d.session.request = []) (inside : d.session.state = .Transaction)
    (whole : ∀ r ∈ rs, lineReceived r.line = true) (answers : d.session.AnswersAll cfg active rs) :
    ∃ d', exec (Dialogue.localStep cfg) d (rs.flatMap (answering active)) = some d' ∧
      d'.session = (d.session.serve cfg active rs).2 ∧
      responsesIn d'.log = responsesIn d.log ++ (d.session.serve cfg active rs).1 := by
  induction rs generalizing d with
  | nil => exact ⟨d, rfl, rfl, (List.append_nil _).symm⟩
  | cons r rs ih =>
    have notAnonymous : d.session.state ≠ .Authorization := by rw [inside]; nofun
    rw [List.forall_mem_cons] at whole
    obtain ⟨returned, rest⟩ := answers.cons
    obtain ⟨d₁, one, session, log, waits⟩ := handle_dialogue reading empty notAnonymous whole.1 returned
    rw [List.flatMap_cons, exec_append, one, Option.bind_some]
    rcases rest with ⟨quit, rfl⟩ | ⟨goesOn, answers⟩
    · rw [serve_cons_quit returned quit]
      exact ⟨d₁, rfl, session, log⟩
    · rw [serve_cons_goesOn returned goesOn]
      obtain ⟨response, after⟩ := handle_inside inside goesOn
      rw [← session] at answers ⊢
      have empty₁ : d₁.session.request = [] := by
        rw [session, replied_goesOn goesOn]
      have inside₁ : d₁.session.state = .Transaction := by
        rw [session, replied_goesOn goesOn, after]
        exact inside
      obtain ⟨d', run, session', log'⟩ := ih (waits goesOn) empty₁ inside₁ whole.2 answers
      refine ⟨d', run, session', ?_⟩
      rw [log', log, List.append_assoc, List.singleton_append]

/-! ## After a `RSET` -/

/-- No request reads what an earlier one has left in the buffers. -/
theorem handle_buffers (cfg : Config) (active : ActiveMailboxes) (s : POP3Session) (r : Request)
    (request response : Bytes) :
    ({ s with request, response }.handle cfg active r).thrown = (s.handle cfg active r).thrown ∧
      ({ s with request, response }.handle cfg active r).session.mailbox =
        (s.handle cfg active r).session.mailbox ∧
      ((s.handle cfg active r).thrown = none →
        ({ s with request, response }.handle cfg active r).session = (s.handle cfg active r).session) := by
  unfold handle readImpl
  cases parsePOP3Command cfg.lex r.line with
  | error fault => exact ⟨rfl, rfl, nofun⟩
  | ok result => exact ⟨rfl, rfl, fun _ => rfl⟩

/-- A session is served alike whatever its buffers hold. -/
theorem serve_buffers (cfg : Config) (active : ActiveMailboxes) (s : POP3Session) (rs : List Request)
    (request response : Bytes) :
    ({ s with request, response }.serve cfg active rs).1 = (s.serve cfg active rs).1 ∧
      ({ s with request, response }.serve cfg active rs).2.mailbox = (s.serve cfg active rs).2.mailbox := by
  cases rs with
  | nil => exact ⟨rfl, rfl⟩
  | cons r rs =>
    obtain ⟨thrown, mailbox, session⟩ := handle_buffers cfg active s r request response
    by_cases returned : (s.handle cfg active r).thrown = none
    · rw [serve, serve, thrown, if_pos returned, session returned, if_pos returned]
      exact ⟨rfl, rfl⟩
    · rw [serve, serve, thrown, if_neg returned, if_neg returned]
      exact ⟨rfl, mailbox⟩

/-- A session as a successful `PASS` leaves it. -/
structure LoggedIn (s : POP3Session) : Prop where
  inside : s.state = .Transaction
  goesOn : s.quitCommandReceived = false
  opened : ∃ name directories lock, s.mailbox = some (Mailbox.opened name directories lock)

/-- The session of a login after some calls on its mailbox, its buffers apart. -/
def Marked (s₀ s : POP3Session) : Prop :=
  ∃ request response calls,
    s = { s₀ with request, response, mailbox := s₀.mailbox.map (Mailbox.run · calls) }

theorem Marked.start (s : POP3Session) : Marked s s := by
  refine ⟨s.request, s.response, [], ?_⟩
  simp

theorem Marked.inside {s₀ : POP3Session} (h : Marked s₀ s) (loggedIn : s₀.LoggedIn) : s.state = .Transaction := by
  obtain ⟨request, response, calls, rfl⟩ := h
  exact loggedIn.inside

/-- A request that is no `QUIT` is not acknowledged as one. -/
theorem Marked.goesOn {s₀ : POP3Session} (h : Marked s₀ s) (loggedIn : s₀.LoggedIn) {r : Request}
    (notQuit : ∀ parameter, parsePOP3Command cfg.lex r.line ≠ .ok (.ok ⟨.QUIT, parameter⟩)) :
    (s.handle cfg active r).session.quitCommandReceived = false := by
  obtain ⟨request, response, calls, rfl⟩ := h
  have handled := readImpl_handled cfg r.fs active
    { s₀ with request := r.line, response, mailbox := s₀.mailbox.map (Mailbox.run · calls) }
  rcases handled.quit_cases with ⟨kept, _⟩ | ⟨parameter, requested, _⟩
  · exact kept.trans loggedIn.goesOn
  · exact absurd requested (notQuit parameter)

/-- One more request before the `RSET`. -/
theorem Marked.handle {s₀ : POP3Session} (h : Marked s₀ s) (loggedIn : s₀.LoggedIn) {r : Request}
    (goesOn : (s.handle cfg active r).session.quitCommandReceived = false) :
    Marked s₀ (s.handle cfg active r).session.replied := by
  obtain ⟨response, session⟩ := handle_inside (h.inside loggedIn) goesOn
  obtain ⟨_, _, calls, made⟩ := h
  rw [replied_goesOn goesOn, session]
  refine ⟨[], response, calls ++ ({ s with request := r.line }.requestedCalls cfg), ?_⟩
  rw [made]
  simp [Function.comp_def, Mailbox.run_append]

/-- **An answered `RSET`** leaves the session of the login, its buffers apart. -/
theorem Marked.reset {s₀ : POP3Session} (h : Marked s₀ s) (cfg : Config) (active : ActiveMailboxes)
    (loggedIn : s₀.LoggedIn) {r : Request} {parameter : Parameter}
    (isReset : parsePOP3Command cfg.lex r.line = .ok (.ok ⟨.RSET, parameter⟩)) :
    (s.handle cfg active r).session.quitCommandReceived = false ∧
      ∃ response, (s.handle cfg active r).session.replied = { s₀ with request := [], response } := by
  have goesOn : (s.handle cfg active r).session.quitCommandReceived = false := by
    apply h.goesOn loggedIn
    intro parameter' isQuit
    rw [isReset] at isQuit
    cases isQuit
  have notAnonymous : s.state ≠ .Authorization := by rw [h.inside loggedIn]; nofun
  have calls : ({ s with request := r.line } : POP3Session).requestedCalls cfg = [.reset] := by
    have requested : POP3Session.Requests cfg { s with request := r.line } ⟨.RSET, parameter⟩ := isReset
    rw [requested.requestedCalls]
    exact if_neg notAnonymous
  obtain ⟨response, session⟩ := handle_inside (h.inside loggedIn) goesOn
  refine ⟨goesOn, response, ?_⟩
  obtain ⟨name, directories, lock, opened⟩ := loggedIn.opened
  have undone : ∀ calls, ((Mailbox.opened name directories lock).run calls).run [.reset] =
      Mailbox.opened name directories lock := fun calls =>
    (Mailbox.reset_run _ calls).trans (Mailbox.reset_opened name directories lock)
  rw [replied_goesOn goesOn, session, calls]
  obtain ⟨_, _, calls, rfl⟩ := h
  simp only [opened, Option.map_some, undone]

end POP3Session

/-- **`RSET` undoes everything.** Whatever a session that has just logged in has answered before it, the
requests after an answered `RSET` get the responses they get right after the login, and the files
removed at the end are the same. -/
theorem reset_undoes_everything (cfg : Config) (active : ActiveMailboxes) (s : POP3Session)
    (loggedIn : s.LoggedIn) (before : List Request) (rset : Request) (parameter : Parameter)
    (isReset : parsePOP3Command cfg.lex rset.line = .ok (.ok ⟨.RSET, parameter⟩))
    (answers : s.AnswersAll cfg active (before ++ [rset])) (further : List Request) :
    (s.serve cfg active (before ++ [rset] ++ further)).1 =
        (s.serve cfg active (before ++ [rset])).1 ++ (s.serve cfg active further).1 ∧
      (s.serve cfg active (before ++ [rset] ++ further)).2.mailbox.map Mailbox.destroyStorages =
        (s.serve cfg active further).2.mailbox.map Mailbox.destroyStorages := by
  suffices all : ∀ t, s.Marked t → t.AnswersAll cfg active (before ++ [rset]) →
      (t.serve cfg active (before ++ [rset] ++ further)).1 =
          (t.serve cfg active (before ++ [rset])).1 ++ (s.serve cfg active further).1 ∧
        (t.serve cfg active (before ++ [rset] ++ further)).2.mailbox =
          (s.serve cfg active further).2.mailbox by
    obtain ⟨responses, mailbox⟩ := all s (.start s) answers
    exact ⟨responses, congrArg (Option.map Mailbox.destroyStorages) mailbox⟩
  clear answers
  induction before with
  | nil =>
    intro t marked answers
    obtain ⟨goesOn, response, session⟩ := marked.reset cfg active loggedIn isReset
    have returned := answers.cons.1
    simp only [List.nil_append, List.singleton_append]
    rw [POP3Session.serve_cons_goesOn returned goesOn, POP3Session.serve_cons_goesOn returned goesOn, session]
    obtain ⟨responses, mailbox⟩ := POP3Session.serve_buffers cfg active s further [] response
    exact ⟨congrArg _ responses, mailbox⟩
  | cons r before ih =>
    intro t marked answers
    obtain ⟨returned, ⟨_, nothing⟩ | ⟨goesOn, answers⟩⟩ := answers.cons
    · simp at nothing
    · obtain ⟨responses, mailbox⟩ := ih _ (marked.handle loggedIn goesOn) answers
      simp only [List.cons_append]
      rw [POP3Session.serve_cons_goesOn returned goesOn, POP3Session.serve_cons_goesOn returned goesOn]
      exact ⟨congrArg _ responses, mailbox⟩

/-- A login to a mailbox over two files. -/
def twoFilesLogin : POP3Session where
  sessionId := 0
  state := .Transaction
  userName := ascii "u"
  mailbox := some twoFiles

/-- A request line while every file has one byte. -/
def oneByteRequest (line : Bytes) : Request := ⟨line ++ crlf, fun _ => Mailbox.oneByteFiles⟩

/-- `DELE 0` and `DELE`, undone, leave what `DELE 0` and `QUIT` do. -/
theorem reset_undoes_two_deletes :
    (twoFilesLogin.serve zeroConfig ∅
        ([oneByteRequest (ascii "DELE 0"), oneByteRequest (ascii "DELE")] ++ [oneByteRequest (ascii "RSET")] ++
          [oneByteRequest (ascii "DELE 0"), oneByteRequest (ascii "QUIT")])).2.mailbox.map
      Mailbox.destroyStorages = some (.ok [ascii "a"]) := by
  have loggedIn : twoFilesLogin.LoggedIn := ⟨rfl, rfl, _, _, _, rfl⟩
  have undone := reset_undoes_everything zeroConfig ∅ twoFilesLogin loggedIn
    [oneByteRequest (ascii "DELE 0"), oneByteRequest (ascii "DELE")] (oneByteRequest (ascii "RSET")) .monostate
    rfl rfl [oneByteRequest (ascii "DELE 0"), oneByteRequest (ascii "QUIT")]
  rw [undone.2]
  rfl

end Pop3Serv.Net
