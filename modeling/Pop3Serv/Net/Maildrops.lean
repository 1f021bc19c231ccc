import Pop3Serv.Mail.Maildrops
import Pop3Serv.Net.ListReply
import Pop3Serv.Net.Transactions

/-!
# A session serves a maildrop

From the login on, a session answers its client's requests as the maildrop over the
files found at login would: `Tells` says how a reply of the maildrop looks on the wire, and
`session_serves_maildrop` that every request of every session is answered by the one the
maildrop gives. The client has to delete from the end: numbers move otherwise.
-/

namespace Pop3Serv.Net
open Proto Mail Logic

/-- The command of the maildrop that a command of the protocol asks for. -/
def maildropAsk (cmd : POP3Command) : Maildrop.Ask :=
  match cmd.cmdType, cmd.parameter with
  | .STAT, _ => .stat
  | .LIST, .uint number => .listOne number.toNat
  | .LIST, _ => .list
  | .RETR, .uint number => .retr number.toNat
  | .DELE, .uint number => .dele number.toNat
  | .DELE, _ => .deleteAll
  | .RSET, _ => .rset
  | _, _ => .other

/-- What a request asks for, as it was parsed. -/
def askOf : Parsed → Maildrop.Ask
  | .ok cmd => maildropAsk cmd
  | .error _ => .other

/-- A reply of the maildrop, as the client finds it at the head of what it receives. A message goes out as it
is; a client reads it back if no line of it begins with a dot. -/
def Tells (userName : Bytes) : Maildrop.Reply Bytes → Bytes → Prop
  | .totals count total, response =>
    response = POP3Status.OK.text ++ ascii " " ++ userName ++ ascii "'s maildrop has " ++ decimal count ++
      ascii " messages (" ++ decimal total ++ ascii " octets)" ++ crlf
  | .listing entries, response =>
    ∃ body, response = POP3Status.OK.text ++ ascii " " ++ decimal entries.length ++ ascii " messages (" ++
        decimal (entries.map Prod.snd).sum ++ ascii " octets)" ++ crlf ++ body ∧
      -- an empty listing has no lone dot
      if entries = [] then body = [] else ∀ rest, clientListing (response ++ rest) = some (entries, rest)
  | .one number length, response =>
    response = POP3Status.OK.text ++ ascii " " ++ decimal number ++ ascii " " ++ decimal length ++ crlf
  | .message content, response =>
    response = POP3Status.OK.text ++ ascii " " ++ decimal content.length ++ ascii " octets" ++ crlf ++
        POP3Session.closeContent content ++ ascii "." ++ crlf ∧
      (Undotted cr lf dot [] content →
        ∀ rest, clientReads (response ++ rest) = some (POP3Session.closeContent content, rest))
  | .noSuchMessage, response => response = POP3Status.ERR.text ++ ascii " no such message" ++ crlf
  | .line, response => SingleLine response

/-- The handler returned, and its response tells this reply. -/
structure Ended.Serves (userName : Bytes) (reply : Maildrop.Reply Bytes) (ended : Ended) : Prop where
  returned : ended.thrown = none
  tells : Tells userName reply ended.session.response

theorem Ended.Serves.write {userName : Bytes} {reply : Maildrop.Reply Bytes} {ended : Ended}
    (h : ended.Serves userName reply) : ended.write.Serves userName reply := by
  refine ⟨?_, ?_⟩
  · rw [ended.write_thrown]
    exact h.returned
  · rw [ended.write_session]
    exact h.tells

/-- A handler that says one line. -/
theorem Ended.Says.serves {userName : Bytes} {ended : Ended} (h : ended.Says)
    (returned : ended.thrown = none) : ended.Serves userName .line := ⟨returned, h returned⟩

namespace POP3Session

theorem serves_noSuchMessage {s : POP3Session} {userName : Bytes} {err : POP3SessionError}
    (missing : err = .NoSuchMessage ∨ err = .MessageAlreadyDeleted) :
    Ended.Serves userName .noSuchMessage { session := s.setErrorResponse err.text } := by
  refine ⟨rfl, ?_⟩
  rcases missing with rfl | rfl <;> rfl

/-- The response that carries a message. -/
theorem tells_message {userName : Bytes} (content : Bytes) :
    Tells userName (.message content) (POP3Status.OK.text ++ ascii " " ++ decimal content.length ++ ascii " octets" ++
      crlf ++ closeContent content ++ ascii "." ++ crlf) := by
  refine ⟨rfl, fun undotted rest => ?_⟩
  have status : NoBreak (POP3Status.OK.text ++ ascii " " ++ decimal content.length ++ ascii " octets") := by
    simp only [noBreak_append, noBreak_decimal, and_true]
    exact ⟨⟨by decide, by decide⟩, by decide⟩
  have read := (readText_terminated_iff (show dot ≠ cr by decide) (show cr ≠ lf by decide) []
    (closeContent content) (.inr (closeContent_closed content))).mpr ((undotted_closeContent content).mpr undotted)
  have stream : POP3Status.OK.text ++ ascii " " ++ decimal content.length ++ ascii " octets" ++ crlf ++
      closeContent content ++ ascii "." ++ crlf ++ rest =
      (POP3Status.OK.text ++ ascii " " ++ decimal content.length ++ ascii " octets") ++
        cr :: lf :: (closeContent content ++ [dot, cr, lf] ++ rest) := by
    simp [crlf, ascii, dot]
  rw [stream, clientReads, readLine_append status.1, Option.bind_some, readText_append read]
  rfl

/-! ## The handlers, by what the mailbox answers -/

section Numbered
variable {fs : FileSystems} {s : POP3Session} {m : Mailbox} (mailbox : s.mailbox = some m)
include mailbox

theorem serves_totals {size : Nat} (known : m.getWholeMailboxSize (fs 0) = .ok size) :
    (s.putMailboxInfoToReponse (fs 0)).Serves s.userName (.totals m.getEmailsCount size) := by
  unfold putMailboxInfoToReponse
  rw [attempt_box mailbox, known]
  exact ⟨rfl, rfl⟩

theorem serves_message {userName content : Bytes} {number : UInt32}
    (length : m.getEmailLength (fs 0) number.toNat = .ok (.ok content.length))
    (read : m.getEmail (fs 1) number.toNat = .ok (.ok content)) :
    (s.handleRetr fs ⟨.RETR, .uint number⟩).Serves userName (.message content) := by
  show (attempt s s.box _).Serves _ _
  rw [attempt_box mailbox, length]
  show (attempt s (m.getEmail (fs 1) number.toNat) _).Serves _ _
  rw [read]
  exact ⟨rfl, tells_message content⟩

theorem serves_retr_refused {userName : Bytes} {number : UInt32} (refuses : m.Refuses number.toNat) :
    (s.handleRetr fs ⟨.RETR, .uint number⟩).Serves userName .noSuchMessage := by
  obtain ⟨err, answer⟩ := refuses.length (fs 0)
  show (attempt s s.box _).Serves _ _
  rw [attempt_box mailbox, answer]
  exact serves_noSuchMessage (.inl rfl)

/-- A deletion tells the totals of what is left after it. -/
theorem serves_dele {number : UInt32} {size : Nat} (answer : (m.deleteEmail number.toNat).2 = .NoError)
    (known : (m.deleteEmail number.toNat).1.getWholeMailboxSize (fs 0) = .ok size) :
    (s.handleDelete fs ⟨.DELE, .uint number⟩).Serves s.userName
      (.totals (m.deleteEmail number.toNat).1.getEmailsCount size) := by
  show (attempt s s.box _).Serves _ _
  rw [attempt_box mailbox]
  generalize m.deleteEmail number.toNat = answered at answer known
  obtain ⟨m', result⟩ := answered
  cases answer
  exact serves_totals (s := { s with mailbox := some m' }) rfl known

theorem serves_dele_refused (wf : m.WellFormed) {userName : Bytes} {number : UInt32}
    (refuses : m.Refuses number.toNat) :
    (s.handleDelete fs ⟨.DELE, .uint number⟩).Serves userName .noSuchMessage := by
  show (attempt s s.box _).Serves _ _
  rw [attempt_box mailbox]
  rcases wf.deleteEmail_cases number.toNat with ⟨_, same⟩ | ⟨_, _, _, _, _, _, _, _, same⟩ |
    ⟨_, _, _, _, _, _, _, _, same⟩
  · rw [same]
    exact serves_noSuchMessage (.inl rfl)
  · rw [same]
    exact serves_noSuchMessage (.inr rfl)
  · exact absurd (congrArg Prod.snd same) refuses.answer

end Numbered

/-! ## The handlers on a maildrop -/

section Handlers
variable {contents : Path → Bytes} {fs : FileSystems} {s : POP3Session} {m : Mailbox}
  (mailbox : s.mailbox = some m) (wf : m.WellFormed) (last : GoneLast Prod.snd m.entries)
  (keeps : ∀ i, Mailbox.Keeps contents (fs i) m.files)
include mailbox wf last keeps

theorem serves_putMailboxInfo :
    (s.putMailboxInfoToReponse (fs 0)).Serves s.userName ((m.maildrop contents).totals List.length) := by
  rw [Maildrop.totals, wf.count_maildrop]
  exact serves_totals mailbox (wf.getWholeMailboxSize_total last (keeps 0))

theorem serves_listAll (cmd : POP3Command) (whole : ∀ number, cmd.parameter ≠ .uint number) :
    (s.handleList fs cmd).Serves s.userName (.listing ((m.maildrop contents).listing List.length)) := by
  obtain ⟨lengths, listing, entries⟩ := wf.getEmailsLengths_listing last (keeps 0)
  have count : m.getEmailsCount = lengths.toList.length := by
    rw [entries, Maildrop.length_listing, wf.count_maildrop]
  have total : (lengths.toList.map Prod.snd).sum = (m.maildrop contents).total List.length := by
    rw [entries, Maildrop.sum_listing]
  have empty : lengths.isEmpty = true ↔ lengths.toList = [] := by
    rw [Std.TreeMap.isEmpty_toList.symm, List.isEmpty_iff]
  unfold handleList
  split
  · rename_i number one
    exact absurd one (whole number)
  · rw [attempt_box mailbox, listing, ← entries]
    refine ⟨?_, ?_⟩
    · simp only [attempt, wf.getWholeMailboxSize_total last (keeps 1)]
    · simp only [attempt, wf.getWholeMailboxSize_total last (keeps 1), Tells]
      refine ⟨_, by rw [count, total], ?_⟩
      split
      · rename_i noEntries
        rw [if_pos (empty.mpr noEntries)]
      · rename_i hasEntries
        intro rest
        have status : NoBreak (POP3Status.OK.text ++ ascii " " ++ decimal m.getEmailsCount ++
            ascii " messages (" ++ decimal ((m.maildrop contents).total List.length) ++ ascii " octets)") := by
          simp only [noBreak_append, noBreak_decimal, and_true]
          exact ⟨⟨⟨by decide, by decide⟩, by decide⟩, by decide⟩
        have read := clientListing_lines status lengths.toList rest
        rw [if_neg fun e => hasEntries (empty.mp e)]
        simpa only [List.append_assoc] using read

theorem serves_listOne (number : UInt32) :
    (s.handleList fs ⟨.LIST, .uint number⟩).Serves s.userName
      ((m.maildrop contents).step List.length (.listOne number.toNat)).1 := by
  show (attempt s s.box _).Serves _ _
  rw [attempt_box mailbox, Maildrop.step]
  cases found : (m.maildrop contents).message? number.toNat with
  | none =>
    obtain ⟨err, answer⟩ := (wf.refuses last found).length (fs 0)
    rw [answer]
    exact serves_noSuchMessage (.inl rfl)
  | some content =>
    rw [wf.getEmailLength_message last (keeps 0) found]
    exact ⟨rfl, rfl⟩

theorem serves_handleRetr (number : UInt32) :
    (s.handleRetr fs ⟨.RETR, .uint number⟩).Serves s.userName
      ((m.maildrop contents).step List.length (.retr number.toNat)).1 := by
  rw [Maildrop.step]
  cases found : (m.maildrop contents).message? number.toNat with
  | none => exact serves_retr_refused mailbox (wf.refuses last found)
  | some content =>
    exact serves_message mailbox (wf.getEmailLength_message last (keeps 0) found)
      (wf.getEmail_message last (keeps 1) found)

theorem serves_deleteOne (number : UInt32) (atEnd : (m.maildrop contents).count ≤ number.toNat + 1) :
    (s.handleDelete fs ⟨.DELE, .uint number⟩).Serves s.userName
      ((m.maildrop contents).step List.length (.dele number.toNat)).1 := by
  rw [Maildrop.step]
  cases found : (m.maildrop contents).message? number.toNat with
  | none => exact serves_dele_refused mailbox wf (wf.refuses last found)
  | some content =>
    obtain ⟨answer, marked⟩ := wf.deleteEmail_message last found
    have wf' := wf.deleteEmail number.toNat
    have files := (Mailbox.sameBox_deleteEmail m number.toNat).files
    have last' : GoneLast Prod.snd (m.deleteEmail number.toNat).1.entries :=
      (wf.goneLast_apply_iff last (.deleteEmail number.toNat)).mpr fun n same => by
        cases same
        exact wf.count_maildrop ▸ atEnd
    rw [if_pos Option.isSome_some, ← marked, Maildrop.totals, wf'.count_maildrop]
    exact serves_dele mailbox answer (wf'.getWholeMailboxSize_total last' (files ▸ keeps 0))

theorem serves_reset :
    (attempt s s.box fun mailbox => { s with mailbox := some mailbox.reset }.putMailboxInfoToReponse (fs 0)).Serves
      s.userName ((m.maildrop contents).step List.length .rset).1 := by
  have last' : GoneLast Prod.snd m.reset.entries :=
    (wf.goneLast_apply_iff last .reset).mpr fun n same => by cases same
  have files := (Mailbox.sameBox_reset m).files
  rw [attempt_box mailbox, Maildrop.step, ← Mailbox.maildrop_reset]
  exact serves_putMailboxInfo (s := { s with mailbox := some m.reset }) rfl (Mailbox.WellFormed.reset m) last'
    fun i => files ▸ keeps i

/-- **Every command** is answered as the maildrop answers what it asks for. -/
theorem serves_authorized (clean : NoBreak s.userName) {cmd : POP3Command} (accepted : cmd.WellFormed)
    (atEnd : ∀ n, maildropAsk cmd = .dele n → (m.maildrop contents).count ≤ n + 1) :
    (s.handleAuthorizedUserCommand fs cmd).Serves s.userName
      ((m.maildrop contents).step List.length (maildropAsk cmd)).1 := by
  obtain ⟨cmdType, parameter⟩ := cmd
  cases cmdType with
  | LIST =>
    cases parameter with
    | uint number => exact serves_listOne mailbox wf last keeps number
    | monostate => exact serves_listAll mailbox wf last keeps ⟨.LIST, .monostate⟩ fun _ same => by cases same
    | string text => exact serves_listAll mailbox wf last keeps ⟨.LIST, .string text⟩ fun _ same => by cases same
  | DELE =>
    have whole : (attempt s s.box fun mailbox =>
        { session := { s with mailbox := some mailbox.deleteEmails }.setSimpleOkResponse [] }).Serves s.userName
        .line := by
      rw [attempt_box mailbox]
      exact (says_setSimpleOkResponse (by decide)).serves rfl
    cases parameter with
    | uint number => exact serves_deleteOne mailbox wf last keeps number (atEnd _ rfl)
    | monostate => exact whole
    | string text => exact whole
  | NOOP => exact (says_setSimpleOkResponse (by decide)).serves rfl
  | USER =>
    obtain ⟨name, rfl⟩ := accepted.userName rfl
    have line := says_authorized (s := s) fs clean accepted (fun list => by cases list) fun several => by
      rcases several with several | ⟨several, _⟩ <;> cases several
    refine line.serves ?_
    show (if s.userName = name then _ else _ : Ended).thrown = none
    split <;> rfl
  | PASS => exact (says_error _).serves rfl
  | QUIT => exact (says_setSimpleOkResponse (by decide)).serves rfl
  | RETR =>
    obtain ⟨number, rfl⟩ := accepted.mailNumber rfl
    exact serves_handleRetr mailbox wf last keeps number
  | STAT => exact serves_putMailboxInfo mailbox wf last keeps
  | RSET => exact serves_reset mailbox wf last keeps
  | UNKNOWN => exact absurd rfl accepted.known

/-- So is every request the parser returns on. -/
theorem serves_readImpl {cfg : Config} {result : Parsed} (clean : NoBreak s.userName)
    (inside : s.state ≠ .Authorization) (parsed : parsePOP3Command cfg.lex s.request = .ok result)
    (active : ActiveMailboxes)
    (atEnd : ∀ n, askOf result = .dele n → (m.maildrop contents).count ≤ n + 1) :
    (s.readImpl cfg fs active).1.Serves s.userName ((m.maildrop contents).step List.length (askOf result)).1 := by
  unfold readImpl
  rw [parsed]
  cases result with
  | error err => exact ((says_setErrorResponse (noBreak_parsingError err)).serves rfl).write
  | ok cmd =>
    simp only [if_neg inside]
    exact (serves_authorized (s := { s with response := [] }) mailbox wf last keeps clean
      (parsePOP3Command_ok parsed).1 atEnd).write

end Handlers

end POP3Session

/-! ## Marks -/

section Marks
variable {contents : Path → Bytes} {m : Mailbox}

/-- The calls of a command mark what the command marks in the maildrop. -/
theorem maildrop_callsOf (wf : m.WellFormed) (last : GoneLast Prod.snd m.entries) (cmd : POP3Command) :
    (m.run (callsOf cmd)).maildrop contents = ((m.maildrop contents).step List.length (maildropAsk cmd)).2 := by
  obtain ⟨cmdType, parameter⟩ := cmd
  cases cmdType with
  | DELE =>
    cases parameter with
    | uint number =>
      show (m.deleteEmail number.toNat).1.maildrop contents = _
      rw [maildropAsk, Maildrop.step]
      cases found : (m.maildrop contents).message? number.toNat with
      | none =>
        rw [(wf.refuses last found).delete, Option.isSome_none, if_neg Bool.false_ne_true]
      | some content =>
        rw [(wf.deleteEmail_message last found).2, if_pos Option.isSome_some]
    | monostate => exact Mailbox.maildrop_deleteEmails contents m
    | string text => exact Mailbox.maildrop_deleteEmails contents m
  | RSET => exact Mailbox.maildrop_reset contents m
  | LIST => cases parameter <;> rfl
  | RETR => cases parameter <;> rfl
  | _ => rfl

/-- They keep what is marked at the end. -/
theorem goneLast_callsOf (wf : m.WellFormed) (last : GoneLast Prod.snd m.entries) {cmd : POP3Command}
    (atEnd : ∀ n, maildropAsk cmd = .dele n → (m.maildrop contents).count ≤ n + 1) :
    GoneLast Prod.snd (m.run (callsOf cmd)).entries := by
  rw [wf.count_maildrop] at atEnd
  obtain ⟨cmdType, parameter⟩ := cmd
  cases cmdType with
  | DELE =>
    cases parameter with
    | uint number =>
      refine (wf.goneLast_apply_iff last (.deleteEmail number.toNat)).mpr fun n same => ?_
      cases same
      exact atEnd _ rfl
    | monostate => exact (wf.goneLast_apply_iff last .deleteEmails).mpr fun n same => by cases same
    | string text => exact (wf.goneLast_apply_iff last .deleteEmails).mpr fun n same => by cases same
  | RSET => exact (wf.goneLast_apply_iff last .reset).mpr fun n same => by cases same
  | _ => exact last

theorem deleteEmails_callsOf {cmd : POP3Command} (marksAll : .deleteEmails ∈ callsOf cmd) :
    maildropAsk cmd = .deleteAll := by
  obtain ⟨cmdType, parameter⟩ := cmd
  cases cmdType <;> cases parameter <;> simp [callsOf] at marksAll ⊢ <;> rfl

end Marks

/-- A request the parser returns on, which it does if the line has a token, other than `QUIT`. -/
def Request.GoesOn (lex : Bytes → Option UInt32) (r : Request) : Prop :=
  ∃ result, parsePOP3Command lex r.line = .ok result ∧ ∀ parameter, result ≠ .ok ⟨.QUIT, parameter⟩

/-- What a request asks the maildrop for. -/
def Request.ask (lex : Bytes → Option UInt32) (r : Request) : Maildrop.Ask :=
  match parsePOP3Command lex r.line with
  | .ok (.ok cmd) => maildropAsk cmd
  | _ => .other

/-- The session waits for a request, in this mailbox. -/
structure Rests (userName : Bytes) (d : Dialogue) (m : Mailbox) : Prop where
  reading : d.control = .reading .outstanding
  empty : d.session.request = []
  inside : d.session.state = .Transaction
  goesOn : d.session.quitCommandReceived = false
  userName : d.session.userName = userName
  mailbox : d.session.mailbox = some m

/-- The mailbox is one over these files whose marked ones are the last. -/
structure Waits (files : List Path) (userName : Bytes) (d : Dialogue) (m : Mailbox) : Prop
    extends Rests userName d m where
  wf : m.WellFormed
  last : GoneLast Prod.snd m.entries
  files : m.files = files

section Run
open POP3Session
variable {cfg : Config} {contents : Path → Bytes} {files : List Path} {userName : Bytes} {d : Dialogue}
  {m : Mailbox}

/-- A session in a mailbox that reads its next request. -/
theorem Reached.rests {sessionId : Nat} (reached : Reached cfg sessionId d)
    (reading : d.control = .reading .outstanding) (empty : d.session.request = [])
    (mailbox : d.session.mailbox = some m) : Rests d.session.userName d m := by
  have silent : d.session.quitCommandReceived = false := by
    by_contra quits
    rcases reached.quitState.placed (by simpa using quits) with ⟨op, writing⟩ | ended
    · cases reading.symm.trans writing
    · cases reading.symm.trans ended
  have inside : d.session.state = .Transaction := reached.typestate.transaction_iff.mpr (by rw [mailbox]; rfl)
  exact ⟨reading, empty, inside, silent, rfl, mailbox⟩

/-- **One request** that is no `QUIT`, and whose handler returns: the session waits for the next. -/
theorem Rests.answer (h : Rests userName d m) (active : ActiveMailboxes) {r : Request}
    (whole : lineReceived r.line = true) (goesOn : r.GoesOn cfg.lex)
    (returned : (d.session.handle cfg active r).thrown = none) :
    ∃ d', exec (Dialogue.localStep cfg) d (answering active r) = some d' ∧
      responsesIn d'.log = responsesIn d.log ++ [(d.session.handle cfg active r).session.response] ∧
      Rests userName d' (m.run (({ d.session with request := r.line } : POP3Session).requestedCalls cfg)) := by
  have outside : d.session.state ≠ .Authorization := by rw [h.inside]; decide
  have kept : (d.session.handle cfg active r).session.quitCommandReceived = false := by
    obtain ⟨result, parsed, notQuit⟩ := goesOn
    have handled := readImpl_handled cfg r.fs active { d.session with request := r.line }
    rcases handled.quit_cases with ⟨kept, _⟩ | ⟨parameter, requested, _⟩
    · exact kept.trans h.goesOn
    · exact absurd (Except.ok.inj (parsed.symm.trans requested)) (notQuit parameter)
  obtain ⟨response, session⟩ := handle_inside h.inside kept
  rw [h.mailbox] at session
  obtain ⟨d', run, session', log, waits⟩ := handle_dialogue h.reading h.empty outside whole returned
  rw [replied_goesOn kept, session] at session'
  refine ⟨d', run, log, waits kept, ?_, ?_, ?_, ?_, ?_⟩
  · rw [session']
  · rw [session']
    exact h.inside
  · rw [session']
    exact h.goesOn
  · rw [session']
    exact h.userName
  · rw [session']
    rfl

/-- The handler of a request, in a session that waits for one. -/
theorem Waits.handle (h : Waits files userName d m) (clean : NoBreak userName) (active : ActiveMailboxes)
    {r : Request} (goesOn : r.GoesOn cfg.lex) (keeps : ∀ i, Mailbox.Keeps contents (r.fs i) files)
    (atEnd : ∀ n, r.ask cfg.lex = .dele n → (m.maildrop contents).count ≤ n + 1) :
    (d.session.handle cfg active r).Serves userName
      ((m.maildrop contents).step List.length (r.ask cfg.lex)).1 := by
  obtain ⟨result, parsed, notQuit⟩ := goesOn
  have outside : d.session.state ≠ .Authorization := by rw [h.inside]; decide
  have asks : r.ask cfg.lex = askOf result := by
    unfold Request.ask
    rw [parsed]
    cases result <;> rfl
  rw [asks] at atEnd ⊢
  have serves : (d.session.handle cfg active r).Serves d.session.userName
      ((m.maildrop contents).step List.length (askOf result)).1 :=
    serves_readImpl (s := { d.session with request := r.line }) h.mailbox h.wf h.last
      (fun i => h.files ▸ keeps i) (h.userName ▸ clean) outside parsed active atEnd
  exact h.userName ▸ serves

/-- The calls of a request on the mailbox. -/
theorem Waits.calls (h : Waits files userName d m) {r : Request}
    (atEnd : ∀ n, r.ask cfg.lex = .dele n → (m.maildrop contents).count ≤ n + 1) :
    ∃ calls, ({ d.session with request := r.line } : POP3Session).requestedCalls cfg = calls ∧
      GoneLast Prod.snd (m.run calls).entries ∧ (.deleteEmails ∈ calls → r.ask cfg.lex = .deleteAll) ∧
      (m.run calls).maildrop contents = ((m.maildrop contents).step List.length (r.ask cfg.lex)).2 := by
  have outside : ¬ d.session.state = .Authorization := by rw [h.inside]; decide
  unfold requestedCalls
  unfold Request.ask at atEnd ⊢
  generalize parsePOP3Command cfg.lex r.line = parsed at atEnd ⊢
  rcases parsed with fault | err | cmd
  · exact ⟨[], rfl, h.last, fun member => absurd member List.not_mem_nil, rfl⟩
  · exact ⟨[], rfl, h.last, fun member => absurd member List.not_mem_nil, rfl⟩
  · exact ⟨callsOf cmd, if_neg outside, goneLast_callsOf h.wf h.last atEnd, deleteEmails_callsOf,
      maildrop_callsOf h.wf h.last cmd⟩

/-- **One request**: its response tells the reply of the maildrop, and the session waits for the next. -/
theorem Waits.answer (h : Waits files userName d m) (clean : NoBreak userName) (active : ActiveMailboxes)
    {r : Request} (whole : lineReceived r.line = true) (goesOn : r.GoesOn cfg.lex)
    (keeps : ∀ i, Mailbox.Keeps contents (r.fs i) files)
    (atEnd : ∀ n, r.ask cfg.lex = .dele n → (m.maildrop contents).count ≤ n + 1) :
    ∃ d' response calls, exec (Dialogue.localStep cfg) d (answering active r) = some d' ∧
      responsesIn d'.log = responsesIn d.log ++ [response] ∧ Waits files userName d' (m.run calls) ∧
      (.deleteEmails ∈ calls → r.ask cfg.lex = .deleteAll) ∧
      Tells userName ((m.maildrop contents).step List.length (r.ask cfg.lex)).1 response ∧
      (m.run calls).maildrop contents = ((m.maildrop contents).step List.length (r.ask cfg.lex)).2 := by
  have serves := h.handle clean active goesOn keeps atEnd
  obtain ⟨calls, made, last, marksAll, marked⟩ := h.calls atEnd
  obtain ⟨d', run, log, rests⟩ := h.toRests.answer active whole goesOn serves.returned
  rw [made] at rests
  exact ⟨d', _, calls, run, log, ⟨rests, h.wf.run calls, last, (Mailbox.sameBox_run m calls).files.trans h.files⟩,
    marksAll, serves.tells, marked⟩

/-- **A run of requests**, by induction on them. -/
theorem Waits.serve (h : Waits files userName d m) (clean : NoBreak userName)
    {requests : List (ActiveMailboxes × Request)} (whole : ∀ r ∈ requests, lineReceived r.2.line = true)
    (goesOn : ∀ r ∈ requests, r.2.GoesOn cfg.lex)
    (keeps : ∀ r ∈ requests, ∀ i, Mailbox.Keeps contents (r.2.fs i) files)
    (atEnd : (m.maildrop contents).DeletesLast List.length (requests.map (·.2.ask cfg.lex))) :
    ∃ d' responses calls,
      exec (Dialogue.localStep cfg) d (requests.flatMap fun r => answering r.1 r.2) = some d' ∧
      responsesIn d'.log = responsesIn d.log ++ responses ∧ Waits files userName d' (m.run calls) ∧
      (.deleteEmails ∈ calls → .deleteAll ∈ requests.map (·.2.ask cfg.lex)) ∧
      List.Forall₂ (Tells userName) ((m.maildrop contents).run List.length (requests.map (·.2.ask cfg.lex))).1
        responses ∧
      (m.run calls).maildrop contents =
        ((m.maildrop contents).run List.length (requests.map (·.2.ask cfg.lex))).2 := by
  induction requests generalizing d m with
  | nil =>
    exact ⟨d, [], [], rfl, (List.append_nil _).symm, h, fun member => absurd member List.not_mem_nil, .nil, rfl⟩
  | cons r requests ih =>
    rw [List.forall_mem_cons] at whole goesOn keeps
    rw [List.map_cons] at atEnd ⊢
    obtain ⟨atEnd, later⟩ := atEnd
    obtain ⟨d₁, response, calls, run, log, waits, marksAll, tells, marked⟩ :=
      h.answer clean r.1 whole.1 goesOn.1 keeps.1 atEnd
    rw [← marked] at later
    obtain ⟨d', responses, calls', run', log', waits', marksAll', tells', marked'⟩ :=
      ih waits whole.2 goesOn.2 keeps.2 later
    refine ⟨d', response :: responses, calls ++ calls', ?_, ?_, ?_, ?_, ?_, ?_⟩
    · rw [List.flatMap_cons, exec_append, run, Option.bind_some, run']
    · rw [log', log, List.append_assoc, List.singleton_append]
    · rw [Mailbox.run_append]
      exact waits'
    · intro member
      rcases List.mem_append.mp member with member | member
      · exact List.mem_cons.mpr (.inl (marksAll member).symm)
      · exact List.mem_cons_of_mem _ (marksAll' member)
    · rw [Maildrop.run, ← marked]
      exact .cons tells tells'
    · rw [Mailbox.run_append, Maildrop.run, ← marked, marked']

/-- Without a `deleteEmails` no storage is marked as a whole. -/
theorem deleteAll_run (name : Bytes) (directories : List (List Path)) (lock : MailboxLock)
    {calls : List Mailbox.Op} (numbered : .deleteEmails ∉ calls) :
    ∀ s ∈ ((Mailbox.opened name directories lock).run calls).storages, s.deleteAll = false := by
  suffices all : ∀ flag ∈ ((Mailbox.opened name directories lock).run calls).storages.map (·.deleteAll),
      flag = false from fun s hs => all _ (List.mem_map_of_mem hs)
  induction calls using List.reverseRecOn with
  | nil => simp [Mailbox.opened]
  | append_singleton calls op ih =>
    have before := ih fun member => numbered (List.mem_append_left _ member)
    rw [Mailbox.run_snoc]
    cases op with
    | deleteEmail n =>
      have keeps : ∀ s n, (FileSystemMailStorage.deleteEmail s n).1.deleteAll = s.deleteAll := by
        intro s n
        unfold FileSystemMailStorage.deleteEmail
        split <;> rfl
      rw [Mailbox.apply, Mailbox.deleteEmail_map _ keeps]
      exact before
    | deleteEmails => exact absurd (List.mem_append_right _ (List.mem_singleton.mpr rfl)) numbered
    | reset => simp [Mailbox.apply, Mailbox.reset, FileSystemMailStorage.reset]

/-- What a `QUIT` removes when every deletion was by number: the files whose messages are marked. -/
theorem removed_run_iff {name : Bytes} {directories : List (List Path)} {lock : MailboxLock} {calls : List Mailbox.Op}
    (numbered : .deleteEmails ∉ calls) (contents : Path → Bytes) :
    ∃ removed, ((Mailbox.opened name directories lock).run calls).setUpdate.destroyStorages = .ok removed ∧
      ∀ p, p ∈ removed ↔ ∃ n : Nat, directories.flatten[n]? = some p ∧
        ((((Mailbox.opened name directories lock).run calls).maildrop contents)[n]?).map Prod.snd = some true := by
  have files := (Mailbox.sameBox_run (Mailbox.opened name directories lock) calls).files.trans
    (Mailbox.opened_files name directories lock)
  obtain ⟨removed, destroyed, removes⟩ :=
    ((Mailbox.opened_wellFormed name directories lock).run calls).destroyStorages_setUpdate
  have covered := Mailbox.recorded_eq_marked_iff.mpr fun s hs all => by
    rw [deleteAll_run name directories lock numbered s hs] at all
    cases all
  refine ⟨removed, destroyed, fun p => ?_⟩
  rw [removes, covered, Mailbox.markedFile_iff contents, files]

end Run

/-- **A session serves its maildrop.** In any run of requests that have a token in their lines and are no
`QUIT`, from the login on: let the files found then keep their contents, and let every `DELE` with a
number ask for the last message left or for one past it. Then the session answers every request, as
the maildrop over those files does, a message with the bytes of its file; and unless a `DELE` without a number
is among them, a `QUIT` that follows removes just the files whose messages are marked. -/
theorem session_serves_maildrop {cfg : Config} {sessionId : Nat} {d : Dialogue}
    (reached : Reached cfg sessionId d) (reading : d.control = .reading .outstanding)
    (empty : d.session.request = []) (name : Bytes) (directories : List (List Path)) (lock : MailboxLock)
    (opened : d.session.mailbox = some (Mailbox.opened name directories lock))
    (contents : Path → Bytes) (requests : List (ActiveMailboxes × Request))
    (whole : ∀ r ∈ requests, lineReceived r.2.line = true) (goesOn : ∀ r ∈ requests, r.2.GoesOn cfg.lex)
    (keeps : ∀ r ∈ requests, ∀ i, Mailbox.Keeps contents (r.2.fs i) directories.flatten)
    (atEnd : (Maildrop.unmarked (directories.flatten.map contents)).DeletesLast List.length
      (requests.map (·.2.ask cfg.lex))) :
    let specified := (Maildrop.unmarked (directories.flatten.map contents)).run List.length
      (requests.map (·.2.ask cfg.lex))
    ∃ d' responses m,
      exec (Dialogue.localStep cfg) d (requests.flatMap fun r => POP3Session.answering r.1 r.2) = some d' ∧
      d'.control = .reading .outstanding ∧
      POP3Session.responsesIn d'.log = POP3Session.responsesIn d.log ++ responses ∧
      List.Forall₂ (Tells d.session.userName) specified.1 responses ∧
      d'.session.mailbox = some m ∧ m.maildrop contents = specified.2 ∧
      (.deleteAll ∉ requests.map (·.2.ask cfg.lex) →
        ∃ removed, m.setUpdate.destroyStorages = .ok removed ∧
          ∀ p, p ∈ removed ↔ ∃ n : Nat, directories.flatten[n]? = some p ∧
            (specified.2[n]?).map Prod.snd = some true) := by
  have start : Waits directories.flatten d.session.userName d (Mailbox.opened name directories lock) :=
    ⟨reached.rests reading empty opened, Mailbox.opened_wellFormed name directories lock,
      Mailbox.opened_goneLast name directories lock, Mailbox.opened_files name directories lock⟩
  rw [← Mailbox.maildrop_opened contents name directories lock] at atEnd ⊢
  obtain ⟨d', responses, calls, run, log, waits, marksAll, tells, marked⟩ :=
    start.serve reached.noBreak_userName whole goesOn keeps atEnd
  refine ⟨d', responses, _, run, waits.reading, log, tells, waits.mailbox, marked, fun numbered => ?_⟩
  rw [← marked]
  exact removed_run_iff (fun member => numbered (marksAll member)) contents

/-- `STAT`, `LIST`, `RETR 0` and `DELE 0`, while the directory has its one file. -/
def oneMailRequests : List (ActiveMailboxes × Request) :=
  [ascii "STAT", ascii "LIST", ascii "RETR 0", ascii "DELE 0"].map fun line =>
    (∅, ⟨line ++ crlf, fun _ => oneMail⟩)

/-- The message is counted, listed, read and deleted; then its file is the one a `QUIT` removes. -/
theorem session_serves_one_mail :
    ∃ d d' responses m removed,
      exec (Dialogue.localStep zeroConfig) (created 0) (oneMailLogin ++ [(∅, .sent), (∅, .runWrite)]) = some d ∧
      exec (Dialogue.localStep zeroConfig) d (oneMailRequests.flatMap fun r => POP3Session.answering r.1 r.2) =
        some d' ∧
      List.Forall₂ (Tells (ascii "u"))
        [.totals 1 1, .listing [(0, 1)], .message (ascii "x"), .totals 0 0] responses ∧
      d'.session.mailbox = some m ∧ m.setUpdate.destroyStorages = .ok removed ∧ ascii "m" ∈ removed := by
  obtain ⟨d, run, userName, reading, empty, opened⟩ : ∃ d,
      exec (Dialogue.localStep zeroConfig) (created 0) (oneMailLogin ++ [(∅, .sent), (∅, .runWrite)]) = some d ∧
        d.session.userName = ascii "u" ∧ d.control = .reading .outstanding ∧ d.session.request = [] ∧
        d.session.mailbox = some (Mailbox.opened (ascii "u") [[ascii "m"]] ⟨ascii "u", true⟩) :=
    ⟨_, rfl, rfl, rfl, rfl, rfl⟩
  have goesOn : ∀ r ∈ oneMailRequests, r.2.GoesOn zeroConfig.lex := by
    intro r member
    simp only [oneMailRequests, List.map_cons, List.map_nil, List.mem_cons, List.not_mem_nil, or_false] at member
    rcases member with rfl | rfl | rfl | rfl <;> exact ⟨_, rfl, fun parameter same => by cases same⟩
  have keeps : ∀ r ∈ oneMailRequests, ∀ i,
      Mailbox.Keeps (fun _ => ascii "x") (r.2.fs i) [[ascii "m"]].flatten := by
    intro r member i p _
    obtain ⟨line, _, rfl⟩ := List.mem_map.mp member
    exact ⟨rfl, rfl⟩
  have atEnd : (Maildrop.unmarked ([[ascii "m"]].flatten.map fun _ => ascii "x")).DeletesLast List.length
      (oneMailRequests.map (·.2.ask zeroConfig.lex)) := by
    refine ⟨?_, ?_, ?_, ?_, trivial⟩
    all_goals
      intro n same
      cases same
    decide
  obtain ⟨d', responses, m, served, _, _, tells, mailbox, _, commits⟩ :=
    session_serves_maildrop ⟨_, run⟩ reading empty (ascii "u") [[ascii "m"]] ⟨ascii "u", true⟩ opened
      (fun _ => ascii "x") oneMailRequests (by decide) goesOn keeps atEnd
  obtain ⟨removed, destroyed, removes⟩ := commits (by decide)
  rw [userName] at tells
  exact ⟨d, d', responses, m, removed, run, served, tells, mailbox, destroyed, (removes _).mpr ⟨0, rfl, rfl⟩⟩

end Pop3Serv.Net
