import Pop3Serv.Net.Maildrops
import Pop3Serv.Proto.Grammar

/-!
# A client over the wire

What a client sends for a command of the maildrop (`askText`), and what it makes of the
reply at the head of the bytes it receives (`hear`). A client that sends commands and reads
the replies back sees the maildrop (`client_sees_maildrop`). So it gets every message and
removes every file, if it retrieves and deletes from the last message down
(`all_mail_fetched`).
-/

namespace Pop3Serv.Net
open Proto Mail Logic

/-! ## Requests -/

/-- The line a client sends for a command, without its end. -/
def askText : Maildrop.Ask → Bytes
  | .stat => ascii "STAT"
  | .list => ascii "LIST"
  | .listOne n => ascii "LIST" ++ ascii " " ++ decimal n
  | .retr n => ascii "RETR" ++ ascii " " ++ decimal n
  | .dele n => ascii "DELE" ++ ascii " " ++ decimal n
  | .deleteAll => ascii "DELE"
  | .rset => ascii "RSET"
  | .other => ascii "NOOP"

def askCommand : Maildrop.Ask → POP3Command
  | .stat => ⟨.STAT, .monostate⟩
  | .list => ⟨.LIST, .monostate⟩
  | .listOne n => ⟨.LIST, .uint (.ofNat n)⟩
  | .retr n => ⟨.RETR, .uint (.ofNat n)⟩
  | .dele n => ⟨.DELE, .uint (.ofNat n)⟩
  | .deleteAll => ⟨.DELE, .monostate⟩
  | .rset => ⟨.RSET, .monostate⟩
  | .other => ⟨.NOOP, .monostate⟩

/-- A number in the command is one of an `unsigned int`. -/
def Sendable (ask : Maildrop.Ask) : Prop :=
  ∀ n, ask = .listOne n ∨ ask = .retr n ∨ ask = .dele n → n < 2 ^ 32

/-- `boost::lexical_cast<unsigned int>` reads what `out << n` writes. -/
def ReadsDecimals (lex : Bytes → Option UInt32) : Prop := ∀ n : UInt32, lex (decimal n.toNat) = some n

theorem tokens_numbered {word : Bytes} (nonempty : word ≠ []) (solid : word.all (!isSpace ·) = true) (n : Nat) :
    tokens (word ++ ascii " " ++ decimal n ++ crlf) = [word, decimal n] := by
  have digits : ∀ b ∈ decimal n, isSpace b = false := by
    intro b member
    have range := mem_decimal member
    have notBlank : b ≠ 32 := by
      rintro rfl
      exact absurd range.1 (by decide)
    have high : ¬ b ≤ 13 := by
      rw [UInt8.le_iff_toNat_le]
      have : (13 : UInt8).toNat = 13 := rfl
      omega
    simp [isSpace, notBlank, high]
  have letters : ∀ b ∈ word, isSpace b = false := fun b member => by simpa using List.all_eq_true.mp solid b member
  have starts : ∀ {b : UInt8} {xs : Bytes}, isSpace b = true → ∀ x ∈ (b :: xs).head?, isSpace x = true := by
    intro b xs blank x member
    cases member
    exact blank
  have second : Runs isSpace (ascii " " ++ decimal n ++ crlf) [decimal n] :=
    .cons (List.all_eq_true.mp rfl) (decimal_ne_nil n) digits (starts rfl) (.nil (List.all_eq_true.mp rfl))
  have first : Runs isSpace ([] ++ word ++ (ascii " " ++ decimal n ++ crlf)) [word, decimal n] :=
    .cons (by simp) nonempty letters (starts rfl) second
  rw [tokens_eq_iff]
  simpa only [List.nil_append, List.append_assoc] using first

theorem parse_numbered {lex : Bytes → Option UInt32} (decimals : ReadsDecimals lex) {word : Bytes}
    (nonempty : word ≠ []) (solid : word.all (!isSpace ·) = true) {n : Nat} (small : n < 2 ^ 32) {cmd : POP3Command}
    (accepts : lex (decimal n) = some (.ofNat n) → Accepts lex word (some (decimal n)) cmd) :
    parsePOP3Command lex (word ++ ascii " " ++ decimal n ++ crlf) = .ok (.ok cmd) := by
  have read := decimals (.ofNat n)
  rw [UInt32.toNat_ofNat_of_lt' small] at read
  exact (accepts read).parses (tokens_numbered nonempty solid n) rfl

/-- **The server reads what the client asks for.** -/
theorem parse_askText {lex : Bytes → Option UInt32} (decimals : ReadsDecimals lex) {ask : Maildrop.Ask}
    (sendable : Sendable ask) : parsePOP3Command lex (askText ask ++ crlf) = .ok (.ok (askCommand ask)) := by
  have bare : ∀ {word cmd}, tokens (word ++ crlf) = [word] → Accepts lex word none cmd →
      parsePOP3Command lex (word ++ crlf) = .ok (.ok cmd) := fun tokenized accepts => accepts.parses tokenized rfl
  cases ask with
  | stat => exact bare (by decide) (.stat none)
  | list => exact bare (by decide) .list
  | listOne n => exact parse_numbered decimals (by decide) rfl (sendable n (.inl rfl)) .listOne
  | retr n => exact parse_numbered decimals (by decide) rfl (sendable n (.inr (.inl rfl))) .retr
  | dele n => exact parse_numbered decimals (by decide) rfl (sendable n (.inr (.inr rfl))) .deleOne
  | deleteAll => exact bare (by decide) .dele
  | rset => exact bare (by decide) (.rset none)
  | other => exact bare (by decide) (.noop none)

theorem maildropAsk_askCommand {ask : Maildrop.Ask} (sendable : Sendable ask) :
    maildropAsk (askCommand ask) = ask := by
  have back : ∀ {n : Nat}, n < 2 ^ 32 → (UInt32.ofNat n).toNat = n := fun small => UInt32.toNat_ofNat_of_lt' small
  cases ask with
  | listOne n => exact congrArg Maildrop.Ask.listOne (back (sendable n (.inl rfl)))
  | retr n => exact congrArg Maildrop.Ask.retr (back (sendable n (.inr (.inl rfl))))
  | dele n => exact congrArg Maildrop.Ask.dele (back (sendable n (.inr (.inr rfl))))
  | _ => rfl

/-- A command a client sends, and what the file system answers while it is handled. -/
structure Asked where
  active : ActiveMailboxes
  fs : FileSystems
  ask : Maildrop.Ask

def Asked.request (a : Asked) : Request := ⟨askText a.ask ++ crlf, a.fs⟩

theorem Asked.whole (a : Asked) : lineReceived a.request.line = true :=
  decide_eq_true (List.suffix_append _ _).isInfix

theorem Asked.goesOn {lex : Bytes → Option UInt32} (decimals : ReadsDecimals lex) {a : Asked}
    (sendable : Sendable a.ask) : a.request.GoesOn lex := by
  refine ⟨.ok (askCommand a.ask), parse_askText decimals sendable, fun parameter same => ?_⟩
  have type : (askCommand a.ask).cmdType = .QUIT := congrArg POP3Command.cmdType (Except.ok.inj same)
  cases asked : a.ask <;> rw [asked] at type <;> cases type

theorem Asked.ask_request {lex : Bytes → Option UInt32} (decimals : ReadsDecimals lex) {a : Asked}
    (sendable : Sendable a.ask) : a.request.ask lex = a.ask := by
  unfold Request.ask
  rw [show parsePOP3Command lex a.request.line = _ from parse_askText decimals sendable]
  exact maildropAsk_askCommand sendable

/-! ## Replies -/

/-- A number up to the next space, and what follows. -/
def readNumber (text : Bytes) : Option (Nat × Bytes) :=
  (readDecimal (text.takeWhile (· ≠ space))).map fun n => (n, text.dropWhile (· ≠ space))

/-- `count messages (total octets)` -/
def readTotals (text : Bytes) : Option (Nat × Nat) :=
  (readNumber text).bind fun count =>
    (count.2.dropPrefix? (ascii " messages (")).bind fun text =>
      (readNumber text).map fun total => (count.1, total.1)

/-- The totals in the replies that name the user. -/
def hearTotals (userName line : Bytes) : Option (Maildrop.Reply Bytes) :=
  (line.dropPrefix? (POP3Status.OK.text ++ ascii " " ++ userName ++ ascii "'s maildrop has ")).bind fun text =>
    (readTotals text).map fun totals => .totals totals.1 totals.2

/-- The client's side of a command: the reply, and what is left for the replies to come. Of a listing it has to
look at the count first, since nothing follows a count of 0. -/
def hear (userName : Bytes) (ask : Maildrop.Ask) (stream : Bytes) : Option (Maildrop.Reply Bytes × Bytes) :=
  (readLine cr lf stream).bind fun line =>
    match ask with
    | .deleteAll | .other => some (.line, line.2)
    | .stat | .rset => (hearTotals userName line.1).map fun reply => (reply, line.2)
    | .dele _ =>
      if Positive line.1 then (hearTotals userName line.1).map fun reply => (reply, line.2)
      else some (.noSuchMessage, line.2)
    | .listOne _ =>
      if Positive line.1 then
        ((line.1.dropPrefix? (POP3Status.OK.text ++ ascii " ")).bind readEntry).map fun entry =>
          (.one entry.1 entry.2, line.2)
      else some (.noSuchMessage, line.2)
    | .retr _ =>
      if Positive line.1 then (clientReads stream).map fun found => (.message found.1, found.2)
      else some (.noSuchMessage, line.2)
    | .list =>
      ((line.1.dropPrefix? (POP3Status.OK.text ++ ascii " ")).bind readTotals).bind fun totals =>
        if totals.1 = 0 then some (.listing [], line.2)
        else (clientListing stream).map fun found => (.listing found.1, found.2)

/-- The replies to several commands, one after the other. -/
def hearAll (userName : Bytes) : List Maildrop.Ask → Bytes → Option (List (Maildrop.Reply Bytes) × Bytes)
  | [], stream => some ([], stream)
  | ask :: asks, stream =>
    (hear userName ask stream).bind fun first =>
      (hearAll userName asks first.2).map fun later => (first.1 :: later.1, later.2)

/-- A message as it is received: its last line is closed. -/
def asReceived : Maildrop.Reply Bytes → Maildrop.Reply Bytes
  | .message content => .message (POP3Session.closeContent content)
  | reply => reply

theorem readLine_crlf {line : Bytes} (clean : NoBreak line) (rest : Bytes) :
    readLine cr lf (line ++ crlf ++ rest) = some (line, rest) := by
  rw [List.append_assoc]
  exact readLine_append clean.1 rest

theorem dropPrefix_append (text rest : Bytes) : (text ++ rest).dropPrefix? text = some rest :=
  List.dropPrefix?_append_of_beq rest (BEq.refl text)

theorem readNumber_decimal (n : Nat) {rest : Bytes} (gap : rest.head? = some space) :
    readNumber (decimal n ++ rest) = some (n, rest) := by
  obtain ⟨rest, rfl⟩ := List.head?_eq_some_iff.mp gap
  have digit : ∀ b ∈ decimal n, decide (b ≠ space) = true := by
    intro b member
    have range := mem_decimal member
    rw [decide_eq_true_eq]
    rintro rfl
    exact absurd range.1 (by decide)
  rw [readNumber, List.takeWhile_append_of_pos digit, List.takeWhile_cons_of_neg (by simp), List.append_nil,
    readDecimal_decimal, List.dropWhile_append_of_pos digit, List.dropWhile_cons_of_neg (by simp)]
  rfl

theorem readTotals_text (count total : Nat) :
    readTotals (decimal count ++ ascii " messages (" ++ decimal total ++ ascii " octets)") = some (count, total) := by
  have counted : readNumber (decimal count ++ (ascii " messages (" ++ (decimal total ++ ascii " octets)"))) =
      some (count, ascii " messages (" ++ (decimal total ++ ascii " octets)")) := readNumber_decimal count rfl
  have totalled : readNumber (decimal total ++ ascii " octets)") = some (total, ascii " octets)") :=
    readNumber_decimal total rfl
  rw [readTotals, List.append_assoc, List.append_assoc, counted, Option.bind_some, dropPrefix_append, Option.bind_some,
    totalled]
  rfl

theorem positive_ok (text : Bytes) : Positive (POP3Status.OK.text ++ text) := List.prefix_append _ _

theorem hearTotals_text {userName : Bytes} (count total : Nat) :
    hearTotals userName (POP3Status.OK.text ++ ascii " " ++ userName ++ ascii "'s maildrop has " ++ decimal count ++
      ascii " messages (" ++ decimal total ++ ascii " octets)") = some (.totals count total) := by
  have line : POP3Status.OK.text ++ ascii " " ++ userName ++ ascii "'s maildrop has " ++ decimal count ++
      ascii " messages (" ++ decimal total ++ ascii " octets)" =
        POP3Status.OK.text ++ ascii " " ++ userName ++ ascii "'s maildrop has " ++
          (decimal count ++ ascii " messages (" ++ decimal total ++ ascii " octets)") := by
    simp only [List.append_assoc]
  rw [hearTotals, line, dropPrefix_append, Option.bind_some, readTotals_text]
  rfl

section Hear
variable {userName response : Bytes}

/-- The first line of a totals reply, and that it is positive. -/
theorem hear_totals (clean : NoBreak userName) {count total : Nat}
    (tells : Tells userName (.totals count total) response) (rest : Bytes) :
    ∃ line, readLine cr lf (response ++ rest) = some (line, rest) ∧ Positive line ∧
      hearTotals userName line = some (.totals count total) := by
  refine ⟨_, ?_, ?_, hearTotals_text count total⟩
  · rw [show response = _ from tells]
    refine readLine_crlf ?_ rest
    simp only [noBreak_append, noBreak_decimal, and_true]
    exact ⟨⟨⟨⟨⟨by decide, by decide⟩, clean⟩, by decide⟩, by decide⟩, by decide⟩
  · simp only [List.append_assoc]
    exact positive_ok _

theorem hear_noSuchMessage (tells : Tells userName .noSuchMessage response) (rest : Bytes) :
    ∃ line, readLine cr lf (response ++ rest) = some (line, rest) ∧ ¬ Positive line := by
  refine ⟨POP3Status.ERR.text ++ ascii " no such message", ?_, by decide⟩
  rw [show response = _ from tells]
  exact readLine_crlf (by decide) rest

theorem hear_line (tells : Tells userName .line response) (rest : Bytes) :
    ∃ line, readLine cr lf (response ++ rest) = some (line, rest) := by
  obtain ⟨_, line, same, clean⟩ := (show SingleLine response from tells)
  exact ⟨line, same ▸ readLine_crlf clean rest⟩

/-- The first line of a listing reply. -/
theorem hear_listing {entries : List (Nat × Nat)} (tells : Tells userName (.listing entries) response) (rest : Bytes) :
    ∃ line after, readLine cr lf (response ++ rest) = some (line, after) ∧
      (line.dropPrefix? (POP3Status.OK.text ++ ascii " ")).bind readTotals =
        some (entries.length, (entries.map Prod.snd).sum) ∧
      if entries = [] then after = rest else clientListing (response ++ rest) = some (entries, rest) := by
  obtain ⟨body, whole, read⟩ := tells
  refine ⟨POP3Status.OK.text ++ ascii " " ++ decimal entries.length ++ ascii " messages (" ++
    decimal (entries.map Prod.snd).sum ++ ascii " octets)", body ++ rest, ?_, ?_, ?_⟩
  · rw [whole, List.append_assoc _ body rest]
    refine readLine_crlf ?_ _
    simp only [noBreak_append, noBreak_decimal, and_true]
    exact ⟨⟨⟨by decide, by decide⟩, by decide⟩, by decide⟩
  · have line : POP3Status.OK.text ++ ascii " " ++ decimal entries.length ++ ascii " messages (" ++
        decimal (entries.map Prod.snd).sum ++ ascii " octets)" =
        POP3Status.OK.text ++ ascii " " ++ (decimal entries.length ++ ascii " messages (" ++
          decimal (entries.map Prod.snd).sum ++ ascii " octets)") := by
      simp only [List.append_assoc]
    rw [line, dropPrefix_append, Option.bind_some, readTotals_text]
  · split at read
    · rename_i noEntries
      rw [if_pos noEntries, read, List.nil_append]
    · rename_i hasEntries
      rw [if_neg hasEntries]
      exact read rest

/-- The first line of a reply about one message. -/
theorem hear_one {n length : Nat} (tells : Tells userName (.one n length) response) (rest : Bytes) :
    ∃ line, readLine cr lf (response ++ rest) = some (line, rest) ∧ Positive line ∧
      (line.dropPrefix? (POP3Status.OK.text ++ ascii " ")).bind readEntry = some (n, length) := by
  have whole : response = (POP3Status.OK.text ++ ascii " ") ++ entryLine (n, length) ++ crlf := by
    rw [show response = _ from tells]
    simp only [entryLine, List.append_assoc]
  refine ⟨(POP3Status.OK.text ++ ascii " ") ++ entryLine (n, length), ?_, ?_, ?_⟩
  · rw [whole]
    exact readLine_crlf (noBreak_append.mpr ⟨by decide, noBreak_entryLine _⟩) rest
  · rw [List.append_assoc]
    exact positive_ok _
  · rw [dropPrefix_append, Option.bind_some, readEntry_entryLine]

/-- The first line of a reply with a message. -/
theorem hear_message {content : Bytes} (tells : Tells userName (.message content) response) (rest : Bytes) :
    ∃ line after, readLine cr lf (response ++ rest) = some (line, after) ∧ Positive line ∧
      (Undotted cr lf dot [] content →
        clientReads (response ++ rest) = some (POP3Session.closeContent content, rest)) := by
  obtain ⟨whole, read⟩ := tells
  refine ⟨POP3Status.OK.text ++ ascii " " ++ decimal content.length ++ ascii " octets",
    POP3Session.closeContent content ++ (ascii "." ++ (crlf ++ rest)), ?_, ?_, fun undotted => read undotted rest⟩
  · rw [whole, List.append_assoc, List.append_assoc, List.append_assoc]
    refine readLine_crlf ?_ _
    simp only [noBreak_append, noBreak_decimal, and_true]
    exact ⟨⟨by decide, by decide⟩, by decide⟩
  · simp only [List.append_assoc]
    exact positive_ok _

/-- **The client reads the reply that the server's response tells**, and no more of the stream. -/
theorem hear_tells (clean : NoBreak userName) {ask : Maildrop.Ask} {reply : Maildrop.Reply Bytes}
    (answers : reply.Answers ask) (tells : Tells userName reply response)
    (undotted : ∀ content, reply = .message content → Undotted cr lf dot [] content) (rest : Bytes) :
    hear userName ask (response ++ rest) = some (asReceived reply, rest) := by
  unfold hear
  cases answers with
  | stat count total =>
    obtain ⟨line, first, _, totals⟩ := hear_totals clean tells rest
    rw [first, Option.bind_some]
    simp only [totals]
    rfl
  | rset count total =>
    obtain ⟨line, first, _, totals⟩ := hear_totals clean tells rest
    rw [first, Option.bind_some]
    simp only [totals]
    rfl
  | list entries =>
    obtain ⟨line, after, first, totals, read⟩ := hear_listing tells rest
    rw [first, Option.bind_some]
    simp only [totals, Option.bind_some, List.length_eq_zero_iff]
    split at read
    · rename_i noEntries
      rw [if_pos noEntries, read, noEntries]
      rfl
    · rename_i hasEntries
      rw [if_neg hasEntries, read]
      rfl
  | listOne n length =>
    obtain ⟨line, first, positive, entry⟩ := hear_one tells rest
    rw [first, Option.bind_some]
    simp only [if_pos positive, entry]
    rfl
  | retr n content =>
    obtain ⟨line, after, first, positive, read⟩ := hear_message tells rest
    rw [first, Option.bind_some]
    simp only [if_pos positive, read (undotted content rfl)]
    rfl
  | dele n count total =>
    obtain ⟨line, first, positive, totals⟩ := hear_totals clean tells rest
    rw [first, Option.bind_some]
    simp only [if_pos positive, totals]
    rfl
  | listNone n | retrNone n | deleNone n =>
    obtain ⟨line, first, negative⟩ := hear_noSuchMessage tells rest
    rw [first, Option.bind_some]
    simp only [if_neg negative]
    rfl
  | deleteAll | other =>
    obtain ⟨line, first⟩ := hear_line tells rest
    rw [first]
    rfl

/-- The replies to several commands are read one after the other. -/
theorem hearAll_tells (clean : NoBreak userName) {asks : List Maildrop.Ask} {replies : List (Maildrop.Reply Bytes)}
    (answers : List.Forall₂ (fun ask reply => Maildrop.Reply.Answers ask reply) asks replies)
    {responses : List Bytes} (tells : List.Forall₂ (Tells userName) replies responses)
    (undotted : ∀ content, .message content ∈ replies → Undotted cr lf dot [] content) (rest : Bytes) :
    hearAll userName asks (responses.flatten ++ rest) = some (replies.map asReceived, rest) := by
  induction answers generalizing responses with
  | nil =>
    cases tells
    rfl
  | cons first later ih =>
    rw [List.forall₂_cons_left_iff] at tells
    obtain ⟨response, responses, told, toldLater, rfl⟩ := tells
    rw [hearAll, List.flatten_cons, List.append_assoc,
      hear_tells clean first told fun content same => undotted content (same ▸ List.mem_cons_self), Option.bind_some]
    simp only [ih toldLater fun content member => undotted content (List.mem_cons_of_mem _ member)]
    rfl

end Hear

/-! ## The whole conversation -/

section Conversation
variable {cfg : Config} {sessionId : Nat} {d : Dialogue}

/-- What a client does is received, handled and answered. -/
def Asked.events (a : Asked) : List (ActiveMailboxes × SessionEvent) := POP3Session.answering a.active a.request

/-- A conversation, from a session that waits for its requests. -/
theorem Waits.converse {contents : Path → Bytes} {files : List Path} {userName : Bytes} {m : Mailbox}
    (h : Waits files userName d m) (clean : NoBreak userName) (decimals : ReadsDecimals cfg.lex)
    (undotted : ∀ p ∈ files, Undotted cr lf dot [] (contents p)) {asked : List Asked}
    (sendable : ∀ a ∈ asked, Sendable a.ask) (keeps : ∀ a ∈ asked, ∀ i, Mailbox.Keeps contents (a.fs i) files)
    (atEnd : (m.maildrop contents).DeletesLast List.length (asked.map (·.ask))) :
    ∃ d' responses calls, exec (Dialogue.localStep cfg) d (asked.flatMap Asked.events) = some d' ∧
      POP3Session.responsesIn d'.log = POP3Session.responsesIn d.log ++ responses ∧
      Waits files userName d' (m.run calls) ∧ (.deleteEmails ∈ calls → .deleteAll ∈ asked.map (·.ask)) ∧
      (∀ rest, hearAll userName (asked.map (·.ask)) (responses.flatten ++ rest) =
        some (((m.maildrop contents).run List.length (asked.map (·.ask))).1.map asReceived, rest)) ∧
      (m.run calls).maildrop contents = ((m.maildrop contents).run List.length (asked.map (·.ask))).2 := by
  let requests := asked.map fun a => (a.active, a.request)
  have asks : requests.map (·.2.ask cfg.lex) = asked.map (·.ask) := by
    rw [List.map_map]
    exact List.map_congr_left fun a member => a.ask_request decimals (sendable a member)
  have events : requests.flatMap (fun r => POP3Session.answering r.1 r.2) = asked.flatMap Asked.events := by
    rw [List.flatMap_map]
    rfl
  have each : ∀ P : Request → Prop, (∀ a ∈ asked, P a.request) → ∀ r ∈ requests, P r.2 := by
    intro P all r member
    obtain ⟨a, sent, rfl⟩ := List.mem_map.mp member
    exact all a sent
  rw [← asks] at atEnd
  obtain ⟨d', responses, calls, run, log, waits, marksAll, tells, marked⟩ :=
    h.serve clean (each (fun r => lineReceived r.line = true) fun a _ => a.whole)
      (each (Request.GoesOn cfg.lex) fun a member => a.goesOn decimals (sendable a member))
      (each (fun r => ∀ i, Mailbox.Keeps contents (r.fs i) files) keeps) atEnd
  rw [asks] at marksAll tells marked
  rw [events] at run
  refine ⟨d', responses, calls, run, log, waits, marksAll,
    hearAll_tells clean (Maildrop.answers_run _ _) tells fun content replied => ?_, marked⟩
  have member := Maildrop.message_mem_run replied
  rw [Mailbox.map_fst_maildrop, h.files] at member
  obtain ⟨p, file, rfl⟩ := List.mem_map.mp member
  exact undotted p file

/-- A session that has just been logged in, or has marked nothing. -/
theorem Reached.waits (reached : Reached cfg sessionId d) (reading : d.control = .reading .outstanding)
    (empty : d.session.request = []) {name : Bytes} {directories : List (List Path)} {lock : MailboxLock}
    (opened : d.session.mailbox = some (Mailbox.opened name directories lock)) :
    Waits directories.flatten d.session.userName d (Mailbox.opened name directories lock) :=
  ⟨reached.rests reading empty opened, Mailbox.opened_wellFormed name directories lock,
    Mailbox.opened_goneLast name directories lock, Mailbox.opened_files name directories lock⟩

/-- **A client sees the maildrop.** From the login on, over any commands a client sends, each when it has read
the reply before, of which each `DELE` with a number asks for the last message left or for one past it:
if the files found at login keep their contents, and no line of a message begins with a dot, what the
client reads from the bytes it receives, knowing only its own commands, is what the maildrop over those
messages replies. -/
theorem client_sees_maildrop (decimals : ReadsDecimals cfg.lex) (reached : Reached cfg sessionId d)
    (reading : d.control = .reading .outstanding) (empty : d.session.request = []) (name : Bytes)
    (directories : List (List Path)) (lock : MailboxLock)
    (opened : d.session.mailbox = some (Mailbox.opened name directories lock)) (contents : Path → Bytes)
    (undotted : ∀ p ∈ directories.flatten, Undotted cr lf dot [] (contents p)) (asked : List Asked)
    (sendable : ∀ a ∈ asked, Sendable a.ask)
    (keeps : ∀ a ∈ asked, ∀ i, Mailbox.Keeps contents (a.fs i) directories.flatten)
    (atEnd : (Maildrop.unmarked (directories.flatten.map contents)).DeletesLast List.length (asked.map (·.ask))) :
    ∃ d' responses, exec (Dialogue.localStep cfg) d (asked.flatMap Asked.events) = some d' ∧
      d'.control = .reading .outstanding ∧
      POP3Session.responsesIn d'.log = POP3Session.responsesIn d.log ++ responses ∧
      ∀ rest, hearAll d.session.userName (asked.map (·.ask)) (responses.flatten ++ rest) =
        some (((Maildrop.unmarked (directories.flatten.map contents)).run List.length (asked.map (·.ask))).1.map
          asReceived, rest) := by
  obtain ⟨d', responses, calls, run, log, waits, _, heard, _⟩ :=
    (reached.waits reading empty opened).converse reached.noBreak_userName decimals
      undotted sendable keeps (Mailbox.maildrop_opened contents name directories lock ▸ atEnd)
  rw [Mailbox.maildrop_opened] at heard
  exact ⟨d', responses, run, waits.reading, log, heard⟩

/-- `dummyConfig` with a `lexical_cast` for decimal digits. -/
def decimalConfig : Config :=
  { dummyConfig with
    lex := fun text => (readDecimal text).bind fun n => if n < 2 ^ 32 then some (.ofNat n) else none }

theorem readsDecimals_decimalConfig : ReadsDecimals decimalConfig.lex := by
  intro n
  show (readDecimal (decimal n.toNat)).bind _ = _
  rw [readDecimal_decimal, Option.bind_some, if_pos n.toNat_lt, UInt32.ofNat_toNat]

/-- These commands, while the directory has its one file. -/
def oneMailAsked (asks : List Maildrop.Ask) : List Asked := asks.map fun ask => ⟨∅, fun _ => oneMail, ask⟩

theorem ask_oneMailAsked (asks : List Maildrop.Ask) : (oneMailAsked asks).map (·.ask) = asks := by
  rw [oneMailAsked, List.map_map]
  exact List.map_id asks

theorem keeps_oneMailAsked (asks : List Maildrop.Ask) :
    ∀ a ∈ oneMailAsked asks, ∀ i, Mailbox.Keeps (fun _ => ascii "x") (a.fs i) [[ascii "m"]].flatten := by
  intro a member i p _
  obtain ⟨ask, _, rfl⟩ := List.mem_map.mp member
  exact ⟨rfl, rfl⟩

/-- A login with one mail, read and answered. -/
theorem oneMail_waits :
    ∃ d, Reached decimalConfig 0 d ∧ d.session.userName = ascii "u" ∧ d.control = .reading .outstanding ∧
      d.session.request = [] ∧
      d.session.mailbox = some (Mailbox.opened (ascii "u") [[ascii "m"]] ⟨ascii "u", true⟩) := by
  obtain ⟨d, run, facts⟩ : ∃ d,
      exec (Dialogue.localStep decimalConfig) (created 0) (oneMailLogin ++ [(∅, .sent), (∅, .runWrite)]) =
          some d ∧
        d.session.userName = ascii "u" ∧ d.control = .reading .outstanding ∧ d.session.request = [] ∧
        d.session.mailbox = some (Mailbox.opened (ascii "u") [[ascii "m"]] ⟨ascii "u", true⟩) :=
    ⟨_, rfl, rfl, rfl, rfl, rfl⟩
  exact ⟨d, ⟨_, run⟩, facts⟩

/-- The message is counted, listed, read and deleted. -/
theorem client_sees_one_mail :
    ∃ d d' responses, exec (Dialogue.localStep decimalConfig) d
        ((oneMailAsked [.stat, .list, .retr 0, .dele 0]).flatMap Asked.events) = some d' ∧
      POP3Session.responsesIn d'.log = POP3Session.responsesIn d.log ++ responses ∧
      hearAll (ascii "u") [.stat, .list, .retr 0, .dele 0] responses.flatten =
        some ([.totals 1 1, .listing [(0, 1)], .message (ascii "x" ++ crlf), .totals 0 0], []) := by
  obtain ⟨d, reached, userName, reading, empty, opened⟩ := oneMail_waits
  have asks := ask_oneMailAsked [.stat, .list, .retr 0, .dele 0]
  have sendable : ∀ a ∈ oneMailAsked [.stat, .list, .retr 0, .dele 0], Sendable a.ask := by
    intro a member n numbered
    obtain ⟨ask, listed, rfl⟩ := List.mem_map.mp member
    simp only [List.mem_cons, List.not_mem_nil, or_false] at listed
    rcases listed with rfl | rfl | rfl | rfl <;> simp at numbered <;> omega
  have atEnd : (Maildrop.unmarked ([[ascii "m"]].flatten.map fun _ => ascii "x")).DeletesLast List.length
      [.stat, .list, .retr 0, .dele 0] := by
    refine ⟨?_, ?_, ?_, ?_, trivial⟩
    all_goals
      intro n same
      cases same
    decide
  obtain ⟨d', responses, run, _, log, heard⟩ :=
    client_sees_maildrop readsDecimals_decimalConfig reached reading empty (ascii "u") [[ascii "m"]]
      ⟨ascii "u", true⟩ opened (fun _ => ascii "x") (fun _ _ => ⟨by decide, by decide⟩)
      (oneMailAsked [.stat, .list, .retr 0, .dele 0]) sendable (keeps_oneMailAsked _) (asks.symm ▸ atEnd)
  have all := heard []
  rw [List.append_nil, asks, userName] at all
  exact ⟨d, d', responses, run, log, all⟩

/-! ## Fetching all mail -/

/-- `QUIT`, from a session that waits for its requests. -/
def quitting (active : ActiveMailboxes) (fs : FileSystems) : List (ActiveMailboxes × SessionEvent) :=
  POP3Session.answering active ⟨ascii "QUIT" ++ crlf, fs⟩

theorem Rests.quit {userName : Bytes} {m : Mailbox} (h : Rests userName d m) (active : ActiveMailboxes)
    (fs : FileSystems) :
    ∃ d', exec (Dialogue.localStep cfg) d (quitting active fs) = some d' ∧ d'.control = .ended ∧
      d'.session.mailbox = some m.setUpdate := by
  have outside : d.session.state ≠ .Authorization := by rw [h.inside]; decide
  have parsed : parsePOP3Command cfg.lex (ascii "QUIT" ++ crlf) = .ok (.ok ⟨.QUIT, .monostate⟩) :=
    (Accepts.quit none).parses (show tokens (ascii "QUIT" ++ crlf) = [ascii "QUIT"] by decide) rfl
  obtain ⟨received, receive, session, queued, _⟩ :=
    @POP3Session.localStep_receive cfg active d (ascii "QUIT" ++ crlf) h.reading h.empty (by decide)
  obtain ⟨returned, quit, mailbox⟩ : (received.session.readImpl cfg fs active).1.thrown = none ∧
      (received.session.readImpl cfg fs active).1.session.quitCommandReceived = true ∧
      (received.session.readImpl cfg fs active).1.session.mailbox = some m := by
    rw [session]
    simp only [POP3Session.readImpl, parsed, if_neg outside, POP3Session.handleAuthorizedUserCommand, Ended.write]
    exact ⟨trivial, rfl, h.mailbox⟩
  have inside : received.session.state ≠ .Authorization := by rw [session]; exact outside
  obtain ⟨handled, handle, session', writing, _⟩ := POP3Session.localStep_runRead queued inside returned
  rw [← session'] at quit mailbox
  have sent : handled.localStep cfg (active, .sent) = some { handled with control := .writing (.queued .success) } := by
    simp only [Dialogue.localStep, Dialogue.step, writing, Option.map_some]
  rw [quitting, POP3Session.answering, exec_cons, receive, Option.bind_some, exec_cons, handle, Option.bind_some,
    exec_cons, sent, Option.bind_some, exec_cons]
  simp only [Dialogue.localStep, Dialogue.step, Dialogue.runWrite, if_true, quit, mailbox]
  exact ⟨_, rfl, rfl, rfl⟩

theorem sendable_takeDown {n : Nat} (few : n ≤ 2 ^ 32) : ∀ ask ∈ Maildrop.takeDown n, Sendable ask := by
  induction n with
  | zero => exact fun ask member => absurd member List.not_mem_nil
  | succ n ih =>
    intro ask member k same
    simp only [Maildrop.takeDown, List.mem_cons] at member
    rcases member with rfl | rfl | member
    · rcases same with same | same | same <;> cases same
      omega
    · rcases same with same | same | same <;> cases same
      omega
    · exact ih (by omega) ask member k same

theorem deleteAll_notMem_takeDown (n : Nat) : .deleteAll ∉ Maildrop.takeDown n := by
  induction n with
  | zero => exact List.not_mem_nil
  | succ n ih => simp [Maildrop.takeDown, ih]

theorem content_asReceived (replies : List (Maildrop.Reply Bytes)) :
    (replies.map asReceived).filterMap Maildrop.Reply.content =
      (replies.filterMap Maildrop.Reply.content).map POP3Session.closeContent := by
  rw [List.filterMap_map, List.map_filterMap]
  congr 1
  funext reply
  cases reply <;> rfl

/-- **A client can fetch all mail.** It retrieves and deletes every message, from the last to the first, and
quits: then it has received each message, in that order, and every file of the mailbox is removed, as
long as the files keep their contents and no line of a message begins with a dot. -/
theorem all_mail_fetched (decimals : ReadsDecimals cfg.lex) (reached : Reached cfg sessionId d)
    (reading : d.control = .reading .outstanding) (empty : d.session.request = []) (name : Bytes)
    (directories : List (List Path)) (lock : MailboxLock)
    (opened : d.session.mailbox = some (Mailbox.opened name directories lock))
    (few : directories.flatten.length ≤ 2 ^ 32) (contents : Path → Bytes)
    (undotted : ∀ p ∈ directories.flatten, Undotted cr lf dot [] (contents p)) (asked : List Asked)
    (takes : asked.map (·.ask) = Maildrop.takeDown directories.flatten.length)
    (keeps : ∀ a ∈ asked, ∀ i, Mailbox.Keeps contents (a.fs i) directories.flatten)
    (active : ActiveMailboxes) (fs : FileSystems) :
    ∃ d₁ d₂ responses heard removed, exec (Dialogue.localStep cfg) d (asked.flatMap Asked.events) = some d₁ ∧
      POP3Session.responsesIn d₁.log = POP3Session.responsesIn d.log ++ responses ∧
      hearAll d.session.userName (asked.map (·.ask)) responses.flatten = some (heard, []) ∧
      heard.filterMap Maildrop.Reply.content =
        (directories.flatten.reverse.map contents).map POP3Session.closeContent ∧
      exec (Dialogue.localStep cfg) d₁ (quitting active fs) = some d₂ ∧ d₂.control = .ended ∧
      d₂.session.mailbox.map Mailbox.destroyStorages = some (.ok removed) ∧
      ∀ p, p ∈ removed ↔ p ∈ directories.flatten := by
  have numbers : (directories.flatten.map contents).length = directories.flatten.length := List.length_map _
  obtain ⟨replies, left, atEnd⟩ :=
    @Maildrop.run_takeDown Bytes List.length (directories.flatten.map contents) []
  have start : Maildrop.taken (directories.flatten.map contents) [] =
      (Mailbox.opened name directories lock).maildrop contents := by
    rw [Mailbox.maildrop_opened, Maildrop.taken, List.map_nil, List.append_nil]
  rw [start, numbers, ← takes] at replies left atEnd
  have sendable : ∀ a ∈ asked, Sendable a.ask := fun a member =>
    sendable_takeDown few a.ask (takes ▸ List.mem_map_of_mem member)
  obtain ⟨d₁, responses, calls, run, log, waits, marksAll, heard, marked⟩ :=
    (reached.waits reading empty opened).converse reached.noBreak_userName decimals
      undotted sendable keeps atEnd
  obtain ⟨d₂, quit, ended, mailbox⟩ := waits.toRests.quit active fs
  have numbered : .deleteEmails ∉ calls := fun member =>
    deleteAll_notMem_takeDown _ (takes ▸ marksAll member)
  obtain ⟨removed, destroyed, removes⟩ :=
    @removed_run_iff name directories lock calls numbered contents
  have all := heard []
  rw [List.append_nil] at all
  refine ⟨d₁, d₂, responses, _, removed, run, log, all, ?_, quit, ended, ?_, fun p => ?_⟩
  · rw [content_asReceived, replies]
    exact congrArg (List.map POP3Session.closeContent) List.map_reverse.symm
  · rw [mailbox, Option.map_some, destroyed]
  · rw [removes, marked, left, List.mem_iff_getElem?]
    refine exists_congr fun n => ?_
    rw [and_iff_left_iff_imp]
    intro place
    rw [List.append_nil]
    exact Maildrop.snd_taken (numbers ▸ (List.getElem?_eq_some_iff.mp place).1)

theorem one_mail_fetched :
    ∃ d d₁ d₂ responses heard removed,
      exec (Dialogue.localStep decimalConfig) d ((oneMailAsked [.retr 0, .dele 0]).flatMap Asked.events) = some d₁ ∧
      POP3Session.responsesIn d₁.log = POP3Session.responsesIn d.log ++ responses ∧
      hearAll (ascii "u") [.retr 0, .dele 0] responses.flatten = some (heard, []) ∧
      heard.filterMap Maildrop.Reply.content = [ascii "x" ++ crlf] ∧
      exec (Dialogue.localStep decimalConfig) d₁ (quitting ∅ fun _ => oneMail) = some d₂ ∧
      d₂.session.mailbox.map Mailbox.destroyStorages = some (.ok removed) ∧ ascii "m" ∈ removed := by
  obtain ⟨d, reached, userName, reading, empty, opened⟩ := oneMail_waits
  obtain ⟨d₁, d₂, responses, heard, removed, run, log, hears, messages, quit, _, destroyed, removes⟩ :=
    all_mail_fetched readsDecimals_decimalConfig reached reading empty (ascii "u") [[ascii "m"]]
      ⟨ascii "u", true⟩ opened (by decide) (fun _ => ascii "x") (fun _ _ => ⟨by decide, by decide⟩)
      (oneMailAsked [.retr 0, .dele 0]) (ask_oneMailAsked _) (keeps_oneMailAsked _) ∅ fun _ => oneMail
  rw [ask_oneMailAsked, userName] at hears
  exact ⟨d, d₁, d₂, responses, heard, removed, run, log, hears, messages, quit, destroyed,
    (removes _).mpr (List.mem_singleton_self _)⟩

end Conversation

end Pop3Serv.Net
