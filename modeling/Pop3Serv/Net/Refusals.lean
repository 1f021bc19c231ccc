import Pop3Serv.Net.QuitCommit
import Pop3Serv.Net.ReplyLines

/-!
# A refused request changes nothing

Where a handler answers `-ERR` it has called nothing that changes the mailbox, or only a
`deleteEmail` that found its message missing or marked already, which leaves every
storage as it was. Where it has changed something it answers `+OK`, or an exception
leaves it without a response.
-/

namespace Pop3Serv.Net
open Proto Mail

/-- The response begins with `-ERR`. -/
def Negative (response : Bytes) : Prop := POP3Status.ERR.text <+: response

instance (response : Bytes) : Decidable (Negative response) := by unfold Negative; infer_instance

theorem not_negative_nil : ¬ Negative [] := by decide

theorem not_negative_ok (rest : Bytes) : ¬ Negative (POP3Status.OK.text ++ rest) := by
  rintro ⟨tail, same⟩
  exact absurd (congrArg List.head? same) (by simp [POP3Status.text, ascii])

/-- If the handler answers `-ERR`, it has left everything of the session but the response as it was. -/
def Ended.Spares (s : POP3Session) (ended : Ended) : Prop :=
  Negative ended.session.response → ended.session = { s with response := ended.session.response }

theorem Ended.Makes.spares {s : POP3Session} {ended : Ended} (makes : Ended.Makes [] s ended) :
    ended.Spares s := by
  obtain ⟨_, response, session⟩ := makes
  intro _
  rw [session]
  simp

theorem spares_of_not_negative {s : POP3Session} {ended : Ended} (other : ¬ Negative ended.session.response) :
    ended.Spares s := fun negative => absurd negative other

theorem Ended.Spares.write {s : POP3Session} {ended : Ended} (h : ended.Spares s) : ended.write.Spares s := by
  unfold Ended.Spares
  rw [ended.write_session]
  exact h

theorem spares_attempt {α : Type} {s : POP3Session} {value : Except Fault α} {next : α → Ended}
    (returned : ∀ a, value = .ok a → (next a).Spares s) : (attempt s value next).Spares s := by
  rcases attempt_cases s value next with ⟨fault, _, thrown⟩ | ⟨a, isOk, goesOn⟩
  · rw [thrown]
    exact (Ended.makes_nothing s _).spares
  · rw [goesOn]
    exact returned a isOk

namespace POP3Session

theorem not_negative_setSimpleOkResponse (s : POP3Session) (mesg : Bytes) :
    ¬ Negative (s.setSimpleOkResponse mesg).response := by
  unfold setSimpleOkResponse
  simp only [List.append_assoc]
  exact not_negative_ok _

/-- The maildrop's line, or nothing where a size could not be had. -/
theorem not_negative_putMailboxInfo (fs : FileSystem) {s : POP3Session} (cleared : s.response = []) :
    ¬ Negative (s.putMailboxInfoToReponse fs).session.response := by
  have nothing : ¬ Negative s.response := by rw [cleared]; exact not_negative_nil
  unfold putMailboxInfoToReponse
  rcases attempt_cases s s.box _ with ⟨fault, _, thrown⟩ | ⟨mailbox, _, goesOn⟩
  · rw [thrown]
    exact nothing
  · rw [goesOn]
    rcases attempt_cases s (mailbox.getWholeMailboxSize fs) _ with ⟨fault, _, thrown⟩ | ⟨size, _, goesOn⟩
    · rw [thrown]
      exact nothing
    · rw [goesOn]
      simp only [List.append_assoc]
      exact not_negative_ok _

variable {s : POP3Session}

theorem spares_setErrorResponse (err : Bytes) : Ended.Spares s { session := s.setErrorResponse err } :=
  (s.makes_setErrorResponse err).spares

/-- A login enters the mailbox without an error, or changes nothing. -/
theorem spares_finishPass (fs : FileSystems) (cleared : s.response = []) (result : Except Fault LoginResult) :
    (s.finishPass fs result).Spares s := by
  rcases s.finishPass_cases fs result with ⟨m, rfl, _⟩ | ⟨_, makes⟩
  · have entered : s.finishPass fs (.ok (.mailbox m)) =
        { s with mailbox := some m, state := .Transaction }.putMailboxInfoToReponse (fs 1) := rfl
    rw [entered]
    exact spares_of_not_negative (not_negative_putMailboxInfo (fs 1) cleared)
  · exact makes.spares

theorem spares_anonymous (cfg : Config) (fs : FileSystems) (active : ActiveMailboxes) (cmd : POP3Command)
    (cleared : s.response = []) : (s.handleAnonymousCommand cfg fs active cmd).1.Spares s := by
  obtain ⟨cmdType, parameter⟩ := cmd
  cases cmdType with
  | USER =>
    refine spares_attempt fun username _ => spares_attempt fun known _ => ?_
    cases known with
    | false => exact spares_setErrorResponse _
    | true => exact spares_of_not_negative (not_negative_setSimpleOkResponse _ _)
  | PASS =>
    cases parameter with
    | string password => exact spares_finishPass fs cleared _
    | _ => exact (Ended.makes_nothing s _).spares
  | NOOP => exact (s.makes_setSimpleOkResponse []).spares
  | QUIT => exact spares_of_not_negative (not_negative_setSimpleOkResponse _ _)
  | _ => exact spares_setErrorResponse _

/-- `DELE` marks a message without an error, or leaves the mailbox as it was. -/
theorem spares_handleDelete (fs : FileSystems) (cmd : POP3Command) (cleared : s.response = []) :
    (s.handleDelete fs cmd).Spares s := by
  unfold handleDelete
  split
  · rename_i number _
    refine spares_attempt fun m boxed => ?_
    have mailbox := mailbox_of_box boxed
    have refused : ∀ (err : Bytes), (m.deleteEmail number.toNat).2 ≠ .NoError → Ended.Spares s
        { session := { s with mailbox := some (m.deleteEmail number.toNat).1 }.setErrorResponse err } := by
      intro err answer
      rw [Mailbox.deleteEmail_refused answer, ← mailbox]
      exact spares_setErrorResponse err
    simp only
    split
    · rename_i missing
      exact refused _ (by simp [missing])
    · split
      · rename_i marked
        exact refused _ (by simp [marked])
      · exact spares_of_not_negative (not_negative_putMailboxInfo (fs 0) cleared)
  · exact spares_attempt fun m _ => spares_of_not_negative (not_negative_setSimpleOkResponse _ _)

theorem spares_authorized (fs : FileSystems) (cmd : POP3Command) (cleared : s.response = []) :
    (s.handleAuthorizedUserCommand fs cmd).Spares s := by
  have calling : ∀ {cmd : POP3Command}, cmd.cmdType ≠ .QUIT → callsOf cmd = [] →
      (s.handleAuthorizedUserCommand fs cmd).Spares s := by
    intro cmd notQuit nothing
    have makes := s.makes_handleAuthorized fs notQuit
    rw [nothing] at makes
    exact makes.spares
  obtain ⟨cmdType, parameter⟩ := cmd
  cases cmdType with
  | DELE => exact spares_handleDelete fs _ cleared
  | RSET => exact spares_attempt fun m _ => spares_of_not_negative (not_negative_putMailboxInfo (fs 0) cleared)
  | QUIT => exact spares_of_not_negative (not_negative_setSimpleOkResponse _ _)
  | _ => exact calling nofun rfl

end POP3Session

/-- **A reply that begins with `-ERR` changes nothing**: whatever the state of the session, the request
and what the file system answers, the state, the name, the mailbox with every mark and flag of
its storages, and `quitCommandReceived` are those before the request. -/
theorem refused_request_changes_nothing (cfg : Config) (fs : FileSystems) (active : ActiveMailboxes)
    (s : POP3Session) (refused : Negative (s.readImpl cfg fs active).1.session.response) :
    (s.readImpl cfg fs active).1.session =
      { s with response := (s.readImpl cfg fs active).1.session.response } := by
  revert refused
  show Ended.Spares s _
  -- the handlers meet the session with its response cleared
  have handled : ∀ {ended : Ended}, ended.Spares { s with response := [] } → ended.write.Spares s :=
    fun spares => Ended.Spares.write spares
  unfold POP3Session.readImpl
  cases parsePOP3Command cfg.lex s.request with
  | error fault => exact (Ended.makes_nothing s _).spares
  | ok result =>
    cases result with
    | error err => exact handled (POP3Session.spares_setErrorResponse err.text)
    | ok cmd =>
      simp only
      split
      · exact handled (POP3Session.spares_anonymous cfg fs active cmd rfl)
      · exact handled (POP3Session.spares_authorized fs cmd rfl)

/-- A session whose first message is marked already. -/
def markedSession : POP3Session where
  sessionId := 0
  state := .Transaction
  userName := ascii "u"
  mailbox := some
    { name := ascii "u"
      storages := [{ emails := [ascii "a"], deleteAll := true },
        { emails := [ascii "b", ascii "c"], emailsToBeDeleted := [0] }]
      lock := ⟨ascii "u", true⟩ }

theorem refused_request_changes_nothing_dele :
    Negative (({ markedSession with request := ascii "DELE 0" ++ crlf } : POP3Session).readImpl zeroConfig
        (fun _ => Mailbox.oneByteFiles) ∅).1.session.response ∧
      (({ markedSession with request := ascii "DELE 0" ++ crlf } : POP3Session).readImpl zeroConfig
        (fun _ => Mailbox.oneByteFiles) ∅).1.session.mailbox = markedSession.mailbox := by
  have refused : Negative (({ markedSession with request := ascii "DELE 0" ++ crlf } : POP3Session).readImpl
      zeroConfig (fun _ => Mailbox.oneByteFiles) ∅).1.session.response := by decide
  refine ⟨refused, ?_⟩
  rw [refused_request_changes_nothing zeroConfig (fun _ => Mailbox.oneByteFiles) ∅ _ refused]

end Pop3Serv.Net
