import Pop3Serv.Net.Authentication

/-!
# Replies of one line

Every reply but a listing and a message is one line: a status, a text without a
line break, `\r\n`. The texts are the program's own but for the user name, which is
a token of some request and so has no white space in it (`noBreak_userName`, over
whole runs). A text that goes through a C string may come out shorter, but never
with a byte that was not in it.
-/

namespace Pop3Serv.Net
open Proto Mail Logic

/-- The text has no byte that ends a line. -/
def NoBreak (text : Bytes) : Prop := cr ∉ text ∧ lf ∉ text

instance (text : Bytes) : Decidable (NoBreak text) := by unfold NoBreak; infer_instance

@[simp] theorem noBreak_append {a b : Bytes} : NoBreak (a ++ b) ↔ NoBreak a ∧ NoBreak b := by
  simp only [NoBreak, List.mem_append, not_or]
  tauto

theorem NoBreak.sublist {a b : Bytes} (h : NoBreak b) (part : a.Sublist b) : NoBreak a :=
  ⟨fun hc => h.1 (part.subset hc), fun hl => h.2 (part.subset hl)⟩

theorem NoBreak.cstr {a : Bytes} (h : NoBreak a) : NoBreak (cstr a) :=
  h.sublist (List.takeWhile_sublist _)

@[simp] theorem noBreak_decimal (n : Nat) : NoBreak (decimal n) := by
  constructor
  · intro hc
    have := (mem_decimal hc).1
    simp [cr] at this
  · intro hl
    have := (mem_decimal hl).1
    simp [lf] at this

theorem noBreak_of_token {cmdLine token : Bytes} (h : token ∈ tokens cmdLine) : NoBreak token := by
  have visible := (token_spec h).2
  constructor
  · intro hc
    have := (visible cr hc).2
    simp [isSpace, cr] at this
  · intro hl
    have := (visible lf hl).2
    simp [isSpace, lf] at this

/-! The texts of errors are the program's own. -/

theorem noBreak_sessionError (err : POP3SessionError) : NoBreak err.text := by cases err <;> decide

theorem noBreak_authError (err : AuthError) : NoBreak err.text := by cases err <;> decide

theorem noBreak_parsingError (err : ParsingError) : NoBreak err.text := by cases err <;> decide

/-- A reply of one line. -/
structure SingleLine (response : Bytes) : Prop where
  status : POP3Status.OK.text <+: response ∨ POP3Status.ERR.text <+: response
  ended : ∃ text, response = text ++ crlf ∧ NoBreak text

theorem SingleLine.of_ok {text : Bytes} (h : NoBreak text) :
    SingleLine (POP3Status.OK.text ++ text ++ crlf) := by
  refine ⟨.inl ?_, POP3Status.OK.text ++ text, rfl, ?_⟩
  · rw [List.append_assoc]
    exact List.prefix_append _ _
  · rw [noBreak_append]
    exact ⟨by decide, h⟩

theorem SingleLine.of_err {text : Bytes} (h : NoBreak text) :
    SingleLine (POP3Status.ERR.text ++ text ++ crlf) := by
  refine ⟨.inr ?_, POP3Status.ERR.text ++ text, rfl, ?_⟩
  · rw [List.append_assoc]
    exact List.prefix_append _ _
  · rw [noBreak_append]
    exact ⟨by decide, h⟩

/-! ## The handlers -/

/-- The two replies that are more than one line: a whole listing, and a message. -/
def MultiLine (cmd : POP3Command) (response : Bytes) : Prop :=
  cmd = ⟨.LIST, .monostate⟩ ∨ cmd.cmdType = .RETR ∧ Positive response

/-- If the handler returns, its reply is one line. -/
def Ended.Says (ended : Ended) : Prop := ended.thrown = none → SingleLine ended.session.response

theorem says_attempt {α : Type} {s : POP3Session} {value : Except Fault α} {next : α → Ended}
    (returned : ∀ a, value = .ok a → (next a).Says) : (attempt s value next).Says := by
  unfold attempt
  split
  · exact returned _ rfl
  · intro thrown
    cases thrown

/-- A call that may throw, and the rest of the handler behind it. -/
theorem attempt_cases {α : Type} (s : POP3Session) (value : Except Fault α) (next : α → Ended) :
    (∃ fault, value = .error fault ∧ attempt s value next = { session := s, thrown := some fault }) ∨
    ∃ a, value = .ok a ∧ attempt s value next = next a := by
  cases value with
  | error fault => exact .inl ⟨fault, rfl, rfl⟩
  | ok a => exact .inr ⟨a, rfl, rfl⟩

theorem mailbox_of_box {s : POP3Session} {m : Mailbox} (h : s.box = .ok m) : s.mailbox = some m := by
  unfold POP3Session.box at h
  split at h
  · rename_i mailbox
    rw [mailbox, Except.ok.inj h]
  · cases h

theorem Ended.Says.write {ended : Ended} (h : ended.Says) : ended.write.Says := by
  unfold Ended.Says
  rw [ended.write_thrown, ended.write_session]
  exact h

namespace POP3Session

variable {s : POP3Session}

theorem says_setErrorResponse {err : Bytes} (h : NoBreak err) :
    Ended.Says { session := s.setErrorResponse err } := by
  intro _
  have text : NoBreak (ascii " " ++ err) := noBreak_append.mpr ⟨by decide, h⟩
  have line := SingleLine.of_err text
  simpa [setErrorResponse] using line

theorem says_setSimpleOkResponse {mesg : Bytes} (h : NoBreak mesg) :
    Ended.Says { session := s.setSimpleOkResponse mesg } := by
  intro _
  have gap : NoBreak (if mesg.isEmpty then [] else ascii " ") := by
    split
    · decide
    · decide
  have line := SingleLine.of_ok (noBreak_append.mpr ⟨gap, h.cstr⟩)
  simpa [setSimpleOkResponse] using line

theorem says_ok {text : Bytes} (h : NoBreak text) :
    Ended.Says { session := { s with response := POP3Status.OK.text ++ text ++ crlf } } :=
  fun _ => .of_ok h

theorem says_putMailboxInfo (fs : FileSystem) (h : NoBreak s.userName) :
    (s.putMailboxInfoToReponse fs).Says := by
  refine says_attempt fun m _ => says_attempt fun size _ => ?_
  have text : NoBreak (ascii " " ++ s.userName ++ ascii "'s maildrop has " ++
      decimal m.getEmailsCount ++ ascii " messages (" ++ decimal size ++ ascii " octets)") := by
    simp only [noBreak_append, noBreak_decimal, and_true]
    exact ⟨⟨⟨⟨by decide, h⟩, by decide⟩, by decide⟩, by decide⟩
  have line := says_ok (s := s) text
  simpa only [List.append_assoc] using line

theorem says_error (err : POP3SessionError) : Ended.Says { session := s.setErrorResponse err.text } :=
  says_setErrorResponse (noBreak_sessionError err)

theorem says_finishPass (fs : FileSystems) (h : NoBreak s.userName) (result : Except Fault LoginResult) :
    (s.finishPass fs result).Says := by
  refine says_attempt fun answer _ => ?_
  cases answer with
  | mailbox m => exact says_putMailboxInfo (s := { s with mailbox := some m, state := .Transaction }) (fs 1) h
  | authError err => exact says_setErrorResponse (noBreak_authError err)
  | operationError err =>
    simp only
    split
    · exact says_error _
    · exact says_error _

/-- Every reply before the login. -/
theorem says_anonymous (cfg : Config) (fs : FileSystems) (active : ActiveMailboxes) {cmd : POP3Command}
    (h : NoBreak s.userName) (argument : ∀ name, cmd.parameter = .string name → NoBreak name) :
    (s.handleAnonymousCommand cfg fs active cmd).1.Says := by
  obtain ⟨cmdType, parameter⟩ := cmd
  cases cmdType with
  | USER =>
    refine says_attempt fun name given => says_attempt fun known _ => ?_
    have clean : NoBreak name := by
      cases parameter with
      | string text => cases given; exact argument _ rfl
      | _ => cases given
    split
    · exact says_error _
    · apply says_setSimpleOkResponse
      simp only [noBreak_append]
      exact ⟨⟨by decide, clean⟩, by decide⟩
  | PASS =>
    cases parameter with
    | string pass => exact says_finishPass fs h _
    | _ => intro thrown; cases thrown
  | NOOP => exact says_setSimpleOkResponse (by decide)
  | QUIT => exact says_setSimpleOkResponse (by decide)
  | _ => exact says_error _

/-- **The ways `RETR` goes**: a call threw, the number selects no message, or the message is sent. -/
theorem handleRetr_cases (fs : FileSystems) (s : POP3Session) (cmd : POP3Command) :
    (∃ fault, s.handleRetr fs cmd = { session := s, thrown := some fault }) ∨
    s.handleRetr fs cmd = { session := s.setErrorResponse POP3SessionError.NoSuchMessage.text } ∨
    ∃ number m length content, cmd.parameter.getUint = .ok number ∧ s.mailbox = some m ∧
      m.getEmailLength (fs 0) number.toNat = .ok (.ok length) ∧
      m.getEmail (fs 1) number.toNat = .ok (.ok content) ∧
      s.handleRetr fs cmd =
        { session := { s with
            response := POP3Status.OK.text ++ ascii " " ++ decimal length ++ ascii " octets" ++ crlf ++
              closeContent content ++ ascii "." ++ crlf } } := by
  unfold handleRetr
  rcases attempt_cases s cmd.parameter.getUint _ with ⟨fault, _, failed⟩ | ⟨number, given, goes⟩
  · exact .inl ⟨fault, failed⟩
  rw [goes]
  rcases attempt_cases s s.box _ with ⟨fault, _, failed⟩ | ⟨m, boxed, goes⟩
  · exact .inl ⟨fault, failed⟩
  rw [goes]
  rcases attempt_cases s (m.getEmailLength (fs 0) number.toNat) _ with ⟨fault, _, failed⟩ | ⟨answer, asked, goes⟩
  · exact .inl ⟨fault, failed⟩
  rw [goes]
  cases answer with
  | error err => exact .inr (.inl rfl)
  | ok length =>
    rcases attempt_cases s (m.getEmail (fs 1) number.toNat) _ with ⟨fault, _, failed⟩ | ⟨answer, read, goes⟩
    · exact .inl ⟨fault, failed⟩
    · simp only [goes]
      cases answer with
      | error err => exact .inr (.inl rfl)
      | ok content => exact .inr (.inr ⟨number, m, length, content, given, mailbox_of_box boxed, asked, read, rfl⟩)

theorem says_handleRetr (fs : FileSystems) (cmd : POP3Command)
    (refused : ¬ Positive (s.handleRetr fs cmd).session.response) : (s.handleRetr fs cmd).Says := by
  rcases handleRetr_cases fs s cmd with ⟨fault, failed⟩ | missing | ⟨number, m, length, content, _, _, _, _, sent⟩
  · rw [failed]
    exact fun thrown => absurd thrown (by simp)
  · rw [missing]
    exact says_error _
  · refine absurd ?_ refused
    rw [sent]
    simp only [List.append_assoc]
    exact positive_append _

/-- Every reply after the login but the two of several lines. -/
theorem says_authorized (fs : FileSystems) {cmd : POP3Command} (h : NoBreak s.userName)
    (accepted : cmd.WellFormed) (argument : cmd.cmdType = .LIST → ∀ text, cmd.parameter ≠ .string text)
    (single : ¬ MultiLine cmd (s.handleAuthorizedUserCommand fs cmd).session.response) :
    (s.handleAuthorizedUserCommand fs cmd).Says := by
  obtain ⟨cmdType, parameter⟩ := cmd
  cases cmdType with
  | LIST =>
    cases parameter with
    | monostate => exact absurd (.inl rfl) single
    | string text => exact absurd rfl (argument rfl text)
    | uint number =>
      refine says_attempt fun m _ => says_attempt fun answer _ => ?_
      cases answer with
      | error err => exact says_error _
      | ok length =>
        have text : NoBreak (ascii " " ++ decimal number.toNat ++ ascii " " ++ decimal length) := by
          simp only [noBreak_append, noBreak_decimal, and_true]
          exact ⟨by decide, by decide⟩
        have line := says_ok (s := s) text
        simpa only [List.append_assoc] using line
  | DELE =>
    cases parameter with
    | uint number =>
      refine says_attempt fun m _ => ?_
      generalize m.deleteEmail number.toNat = answered
      simp only
      split
      · exact says_error _
      · split
        · exact says_error _
        · exact says_putMailboxInfo (s := { s with mailbox := some answered.1 }) _ h
    | _ => exact says_attempt fun m _ => says_setSimpleOkResponse (by decide)
  | NOOP => exact says_setSimpleOkResponse (by decide)
  | USER =>
    refine says_attempt fun name _ => ?_
    split
    · have text : NoBreak (ascii " " ++ s.userName) := noBreak_append.mpr ⟨by decide, h⟩
      have line := says_ok (s := s) text
      simpa only [List.append_assoc] using line
    · exact says_error _
  | PASS => exact says_error _
  | QUIT => exact says_setSimpleOkResponse (by decide)
  | RETR => exact says_handleRetr fs _ fun positive => single (.inr ⟨rfl, positive⟩)
  | STAT => exact says_putMailboxInfo _ h
  | RSET => exact says_attempt fun m _ => says_putMailboxInfo (s := { s with mailbox := some m.reset }) _ h
  | UNKNOWN => exact absurd rfl accepted.known

end POP3Session

/-! ## Whole runs -/

/-- The argument of a parsed command is a token, and `LIST` takes none that is not a number. -/
theorem argument_of_parsed {lex : Bytes → Option UInt32} {request : Bytes} {cmd : POP3Command}
    (parsed : parsePOP3Command lex request = .ok (.ok cmd)) :
    (∀ name, cmd.parameter = .string name → NoBreak name) ∧
      (cmd.cmdType = .LIST → ∀ text, cmd.parameter ≠ .string text) := by
  obtain ⟨_, word, rest, tokenized, _, read⟩ := parsePOP3Command_ok parsed
  unfold readParameter at read
  cases second : (word :: rest)[1]? with
  | none =>
    rw [second] at read
    have noParameter : Parameter.monostate = cmd.parameter := Except.ok.inj read
    constructor
    · intro name given
      cases noParameter.trans given
    · intro _ text given
      cases noParameter.trans given
  | some arg =>
    rw [second] at read
    simp only at read
    have token : arg ∈ tokens request := tokenized ▸ List.mem_of_getElem? second
    split at read
    · split at read
      · have number : Parameter.uint _ = cmd.parameter := Except.ok.inj read
        constructor
        · intro name given
          cases number.trans given
        · intro _ text given
          cases number.trans given
      · cases read
    · rename_i noNumber
      constructor
      · intro name given
        split at read
        · have text : Parameter.string arg = cmd.parameter := Except.ok.inj read
          cases text.trans given
          exact noBreak_of_token token
        · cases (Except.ok.inj read).trans given
      · intro list
        simp [list, supportsUintParameter] at noNumber

/-- A user name is a token of some request, or empty. -/
theorem Reached.noBreak_userName {cfg : Config} {sessionId : Nat} {d : Dialogue}
    (reached : Reached cfg sessionId d) : NoBreak d.session.userName := by
  refine reached.invariant (fun d => NoBreak d.session.userName) ?_ ?_
  · exact (show NoBreak [] by decide)
  intro d d' clean moved
  cases moved with
  | answered fs ended handling handled =>
    rw [handlerEnded_session]
    cases handled with
    | acted session notQuit sameName =>
      obtain ⟨response, session⟩ := session
      rw [session]
      exact clean
    | named name anonymous requested known returned positive session =>
      obtain ⟨response, session⟩ := session
      rw [session]
      exact (argument_of_parsed requested).1 name rfl
    | entered password m lock anonymous requested ownName connected session =>
      obtain ⟨response, session⟩ := session
      rw [session]
      exact clean
    | quitted parameter requested returned session =>
      obtain ⟨response, session⟩ := session
      rw [session]
      exact clean
  | _ => exact clean

/-- A request handled to its end has one line for its reply, or is one of the two with several. -/
def Exchange.Fine (x : Exchange) : Prop :=
  x.thrown = none → (¬ ∃ cmd, x.result = .ok cmd ∧ MultiLine cmd x.response) → SingleLine x.response

theorem readImpl_fine {cfg : Config} {s : POP3Session} (clean : NoBreak s.userName) {result : Parsed}
    (parsed : parsePOP3Command cfg.lex s.request = .ok result) (fs : FileSystems) (active : ActiveMailboxes) :
    Exchange.Fine ⟨s.state, result, (s.readImpl cfg fs active).1.session.response,
      (s.readImpl cfg fs active).1.thrown, fs⟩ := by
  intro returned single
  simp only at returned single ⊢
  unfold POP3Session.readImpl at returned single ⊢
  rw [parsed] at returned single ⊢
  cases result with
  | error err => exact (POP3Session.says_setErrorResponse (noBreak_parsingError err)).write returned
  | ok cmd =>
    have argument := argument_of_parsed parsed
    simp only at returned single ⊢
    split at returned
    · rename_i anonymous
      rw [if_pos anonymous]
      exact (POP3Session.says_anonymous (s := { s with response := [] }) cfg fs active clean argument.1).write
        returned
    · rename_i inside
      rw [if_neg inside] at single ⊢
      refine (POP3Session.says_authorized (s := { s with response := [] }) fs clean
        (parsePOP3Command_ok parsed).1 argument.2 fun several => single ⟨cmd, rfl, ?_⟩).write returned
      rw [Ended.write_session]
      exact several

/-- The request a step has handled, if it has handled one, was answered by one line. -/
theorem handlerEnded_fine {cfg : Config} {d : Dialogue} {fs : FileSystems} {ended : Ended}
    (old : ∀ x, .handled x ∈ d.log → x.Fine)
    (new : ∀ result, parsePOP3Command cfg.lex d.session.request = .ok result →
      Exchange.Fine ⟨d.session.state, result, ended.session.response, ended.thrown, fs⟩) :
    ∀ x, .handled x ∈ (d.handlerEnded cfg fs ended).log → x.Fine := by
  intro x member
  rcases handlerEnded_cases cfg d fs ended with ⟨result, parsed, same⟩ | ⟨fault, _, same⟩
  · rw [same] at member
    rcases List.mem_append.mp member with earlier | last
    · exact old x earlier
    · cases List.mem_singleton.mp last
      exact new result parsed
  · rw [same] at member
    exact old x member

theorem log_runWrite {active : ActiveMailboxes} {d : Dialogue} {ec : Completion} {x : Exchange}
    (member : .handled x ∈ (d.runWrite active ec).dialogue.log) : .handled x ∈ d.log := by
  unfold Dialogue.runWrite at member
  split at member
  · split at member <;> simpa using member
  · exact member

theorem localStep_fine {cfg : Config} {sessionId : Nat} {d d' : Dialogue} {e : ActiveMailboxes × SessionEvent}
    (reached : Reached cfg sessionId d) (old : ∀ x, .handled x ∈ d.log → x.Fine)
    (step : d.localStep cfg e = some d') : ∀ x, .handled x ∈ d'.log → x.Fine := by
  obtain ⟨stepped, took, rfl⟩ := Option.map_eq_some_iff.mp step
  have clean := reached.noBreak_userName
  cases step_stepping took with
  | operation control timer same silent => exact old
  | readStarted event accepted => exact old
  | received chunk event reading => exact old
  | runRead ec fs event reading =>
    unfold Dialogue.runRead
    split
    · split
      · exact old
      · exact handlerEnded_fine old fun result parsed => readImpl_fine clean parsed fs _
    · exact old
  | runLogin lock password fs event loggingIn =>
    refine handlerEnded_fine old fun result _ returned _ => ?_
    exact (POP3Session.says_finishPass (s := { d.session with response := [] }) fs clean _).write returned
  | runWrite ec event writing => exact fun x member => old x (log_runWrite member)

/-- **Replies are single lines.** In any run of a session, each request handled to its end was answered
by one line, unless it was `LIST` of everything or a `RETR` that sent its message. -/
theorem single_line_replies {cfg : Config} {sessionId : Nat} {d : Dialogue} (reached : Reached cfg sessionId d)
    {x : Exchange} (handled : .handled x ∈ d.log) (returned : x.thrown = none)
    (single : ¬ ∃ cmd, x.result = .ok cmd ∧ MultiLine cmd x.response) : SingleLine x.response := by
  obtain ⟨es, run⟩ := reached
  have all := exec_invariant (fun d => Reached cfg sessionId d ∧ ∀ x, .handled x ∈ d.log → x.Fine)
    (fun d e d' here step => ⟨here.1.snoc step, localStep_fine here.1 here.2 step⟩)
    ⟨Reachable.refl _, fun _ member => absurd member List.not_mem_nil⟩ run
  exact all.2 x handled returned single

/-- A `USER` whose name has a NUL and a BEL in it. -/
def controlBytes : List (ActiveMailboxes × SessionEvent) :=
  [(∅, .startRead), (∅, .receive (ascii "USER a" ++ [0, 7] ++ ascii "b" ++ crlf)),
    (∅, .runRead fun _ => Mailbox.oneByteFiles)]

theorem single_line_controlBytes :
    ∃ d x, exec (Dialogue.localStep dummyConfig) (created 0) controlBytes = some d ∧
      .handled x ∈ d.log ∧ x.response = ascii "+OK user a" ++ crlf ∧ SingleLine x.response := by
  obtain ⟨d, x, run, log, returned, result, response⟩ : ∃ d x,
      exec (Dialogue.localStep dummyConfig) (created 0) controlBytes = some d ∧ d.log = [.handled x] ∧
      x.thrown = none ∧ x.result = .ok ⟨.USER, .string (ascii "a" ++ [0, 7] ++ ascii "b")⟩ ∧
      x.response = ascii "+OK user a" ++ crlf := ⟨_, _, rfl, rfl, rfl, rfl, rfl⟩
  have handled : .handled x ∈ d.log := by simp [log]
  refine ⟨d, x, run, handled, response, single_line_replies ⟨controlBytes, run⟩ handled returned ?_⟩
  rw [result]
  rintro ⟨cmd, same, several⟩
  cases same
  simp [MultiLine] at several

end Pop3Serv.Net
