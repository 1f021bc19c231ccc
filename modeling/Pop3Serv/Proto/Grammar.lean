import Pop3Serv.Proto.Parsing

/-!
# The grammar of requests

`Accepts` says which commands a request with given first two tokens can be, and
`Refuses` which errors it can have: a word that is no keyword, then a number that
is none, then a parameter that is missing. `parse_cases` reads the parser back in
these terms, case by case along the keywords; that the two relations exclude each
other is then a fact about the parser, which has one result.
-/

namespace Pop3Serv.Proto
open Logic

/-- The nine keywords. -/
def keywords : List Bytes :=
  [ascii "USER", ascii "PASS", ascii "STAT", ascii "LIST", ascii "RETR", ascii "DELE", ascii "RSET",
    ascii "NOOP", ascii "QUIT"]

/-- The commands, by the keyword and the token after it. -/
inductive Accepts (lex : Bytes → Option UInt32) : Bytes → Option Bytes → POP3Command → Prop
  | user (name : Bytes) : Accepts lex (ascii "USER") (some name) ⟨.USER, .string name⟩
  | pass (password : Bytes) : Accepts lex (ascii "PASS") (some password) ⟨.PASS, .string password⟩
  | retr {argument : Bytes} {number : UInt32} (read : lex argument = some number) :
    Accepts lex (ascii "RETR") (some argument) ⟨.RETR, .uint number⟩
  | list : Accepts lex (ascii "LIST") none ⟨.LIST, .monostate⟩
  | listOne {argument : Bytes} {number : UInt32} (read : lex argument = some number) :
    Accepts lex (ascii "LIST") (some argument) ⟨.LIST, .uint number⟩
  | dele : Accepts lex (ascii "DELE") none ⟨.DELE, .monostate⟩
  | deleOne {argument : Bytes} {number : UInt32} (read : lex argument = some number) :
    Accepts lex (ascii "DELE") (some argument) ⟨.DELE, .uint number⟩
  | stat (second : Option Bytes) : Accepts lex (ascii "STAT") second ⟨.STAT, .monostate⟩
  | noop (second : Option Bytes) : Accepts lex (ascii "NOOP") second ⟨.NOOP, .monostate⟩
  | rset (second : Option Bytes) : Accepts lex (ascii "RSET") second ⟨.RSET, .monostate⟩
  | quit (second : Option Bytes) : Accepts lex (ascii "QUIT") second ⟨.QUIT, .monostate⟩

/-- The errors, in the order of the conditions they report. -/
inductive Refuses (lex : Bytes → Option UInt32) : Bytes → Option Bytes → ParsingError → Prop
  | unknownCommand {word : Bytes} (other : word ∉ keywords) (second : Option Bytes) :
    Refuses lex word second .UnknownCommand
  | invalidUintParameter {word argument : Bytes}
      (numbered : word ∈ [ascii "LIST", ascii "RETR", ascii "DELE"]) (unread : lex argument = none) :
    Refuses lex word (some argument) .InvalidUintParameter
  | userNameRequired : Refuses lex (ascii "USER") none .UserNameRequired
  | passwordRequired : Refuses lex (ascii "PASS") none .PasswordRequired
  | mailNumberRequired : Refuses lex (ascii "RETR") none .MailNumberRequired

/-- The tokens are the maximal runs of bytes that are no white space. -/
theorem tokens_eq_iff {cmdLine : Bytes} {words : List Bytes} :
    tokens cmdLine = words ↔ Runs isSpace cmdLine words := runs_iff.symm

theorem read_eq_unknown {word : Bytes} (other : word ∉ keywords) : POP3CommandType.read word = .UNKNOWN := by
  simp only [keywords, List.mem_cons, List.not_mem_nil, or_false, not_or] at other
  obtain ⟨user, pass, stat, list, retr, dele, rset, noop, quit⟩ := other
  unfold POP3CommandType.read
  simp only [user, pass, stat, list, retr, dele, rset, noop, quit, if_false]

section Parse

variable {lex : Bytes → Option UInt32} {cmdLine word : Bytes} {rest : List Bytes}

theorem parse_of_unknown (tokenized : tokens cmdLine = word :: rest)
    (unknown : POP3CommandType.read word = .UNKNOWN) :
    parsePOP3Command lex cmdLine = .ok (.error .UnknownCommand) := by
  have nonempty : cmdLine.isEmpty = false := by cases cmdLine <;> [cases tokenized; rfl]
  unfold parsePOP3Command
  rw [nonempty, tokenized]
  simp [unknown]

/-- After a keyword, the result is that of the parameter step and the checks behind it. -/
theorem parse_of_known (tokenized : tokens cmdLine = word :: rest) {type : POP3CommandType}
    (read : POP3CommandType.read word = type) (known : type ≠ .UNKNOWN) :
    parsePOP3Command lex cmdLine = .ok ((readParameter lex type (word :: rest)).bind fun parameter =>
      checkParameter { cmdType := type, parameter }) := by
  have nonempty : cmdLine.isEmpty = false := by cases cmdLine <;> [cases tokenized; rfl]
  unfold parsePOP3Command
  rw [nonempty, tokenized]
  simp only [Bool.false_eq_true, if_false, read, known]
  cases readParameter lex type (word :: rest) <;> rfl

/-- A keyword without a token after it. -/
theorem parse_one (tokenized : tokens cmdLine = [word]) {type : POP3CommandType}
    (read : POP3CommandType.read word = type) (known : type ≠ .UNKNOWN) :
    parsePOP3Command lex cmdLine = .ok (checkParameter { cmdType := type, parameter := .monostate }) := by
  rw [parse_of_known tokenized read known]
  rfl

/-- The word `LIST`, `RETR` or `DELE` with a token after it. -/
theorem parse_number_cases {argument : Bytes} (tokenized : tokens cmdLine = word :: argument :: rest)
    {type : POP3CommandType} (read : POP3CommandType.read word = type)
    (numbered : supportsUintParameter type = true) :
    (lex argument = none ∧ parsePOP3Command lex cmdLine = .ok (.error .InvalidUintParameter)) ∨
      ∃ n, lex argument = some n ∧ parsePOP3Command lex cmdLine = .ok (.ok ⟨type, .uint n⟩) := by
  have known : type ≠ .UNKNOWN := by
    rintro rfl
    cases numbered
  rw [parse_of_known tokenized read known]
  cases given : lex argument with
  | none =>
    have step : readParameter lex type (word :: argument :: rest) = .error .InvalidUintParameter := by
      simp [readParameter, numbered, given]
    rw [step]
    exact .inl ⟨rfl, rfl⟩
  | some n =>
    have step : readParameter lex type (word :: argument :: rest) = .ok (.uint n) := by
      simp [readParameter, numbered, given]
    rw [step]
    refine .inr ⟨n, rfl, ?_⟩
    cases type <;> first | rfl | cases numbered

/-- **The parser, case by case**: a command the grammar has, or an error it has. -/
theorem parse_cases (lex : Bytes → Option UInt32) (tokenized : tokens cmdLine = word :: rest) :
    (∃ cmd, parsePOP3Command lex cmdLine = .ok (.ok cmd) ∧ Accepts lex word rest.head? cmd) ∨
    (∃ err, parsePOP3Command lex cmdLine = .ok (.error err) ∧ Refuses lex word rest.head? err) := by
  by_cases keyword : word ∈ keywords
  · simp only [keywords, List.mem_cons, List.not_mem_nil, or_false] at keyword
    rcases keyword with rfl | rfl | rfl | rfl | rfl | rfl | rfl | rfl | rfl
    · cases rest with
      | nil => exact .inr ⟨_, parse_one tokenized rfl nofun, .userNameRequired⟩
      | cons name rest => exact .inl ⟨_, parse_of_known tokenized rfl nofun, .user name⟩
    · cases rest with
      | nil => exact .inr ⟨_, parse_one tokenized rfl nofun, .passwordRequired⟩
      | cons password rest => exact .inl ⟨_, parse_of_known tokenized rfl nofun, .pass password⟩
    · cases rest with
      | nil => exact .inl ⟨_, parse_one tokenized rfl nofun, .stat none⟩
      | cons extra rest => exact .inl ⟨_, parse_of_known tokenized rfl nofun, .stat (some extra)⟩
    · cases rest with
      | nil => exact .inl ⟨_, parse_one tokenized rfl nofun, .list⟩
      | cons argument rest =>
        rcases parse_number_cases tokenized rfl rfl with ⟨unread, failed⟩ | ⟨n, read, parsed⟩
        · exact .inr ⟨_, failed, .invalidUintParameter (by decide) unread⟩
        · exact .inl ⟨_, parsed, .listOne read⟩
    · cases rest with
      | nil => exact .inr ⟨_, parse_one tokenized rfl nofun, .mailNumberRequired⟩
      | cons argument rest =>
        rcases parse_number_cases tokenized rfl rfl with ⟨unread, failed⟩ | ⟨n, read, parsed⟩
        · exact .inr ⟨_, failed, .invalidUintParameter (by decide) unread⟩
        · exact .inl ⟨_, parsed, .retr read⟩
    · cases rest with
      | nil => exact .inl ⟨_, parse_one tokenized rfl nofun, .dele⟩
      | cons argument rest =>
        rcases parse_number_cases tokenized rfl rfl with ⟨unread, failed⟩ | ⟨n, read, parsed⟩
        · exact .inr ⟨_, failed, .invalidUintParameter (by decide) unread⟩
        · exact .inl ⟨_, parsed, .deleOne read⟩
    · cases rest with
      | nil => exact .inl ⟨_, parse_one tokenized rfl nofun, .rset none⟩
      | cons extra rest => exact .inl ⟨_, parse_of_known tokenized rfl nofun, .rset (some extra)⟩
    · cases rest with
      | nil => exact .inl ⟨_, parse_one tokenized rfl nofun, .noop none⟩
      | cons extra rest => exact .inl ⟨_, parse_of_known tokenized rfl nofun, .noop (some extra)⟩
    · cases rest with
      | nil => exact .inl ⟨_, parse_one tokenized rfl nofun, .quit none⟩
      | cons extra rest => exact .inl ⟨_, parse_of_known tokenized rfl nofun, .quit (some extra)⟩
  · exact .inr ⟨_, parse_of_unknown tokenized (read_eq_unknown keyword), .unknownCommand keyword _⟩

/-- A keyword that takes no parameter: whatever follows it is not looked at. -/
theorem parse_bare (tokenized : tokens cmdLine = word :: rest) {type : POP3CommandType}
    (read : POP3CommandType.read word = type) (bare : type ∈ [.STAT, .NOOP, .RSET, .QUIT]) :
    parsePOP3Command lex cmdLine = .ok (.ok ⟨type, .monostate⟩) := by
  have known : type ≠ .UNKNOWN := by
    rintro rfl
    revert bare
    decide
  rw [parse_of_known tokenized read known]
  simp only [List.mem_cons, List.not_mem_nil, or_false] at bare
  rcases bare with rfl | rfl | rfl | rfl <;> (cases rest <;> rfl)

theorem Accepts.parses {second : Option Bytes} {cmd : POP3Command} (h : Accepts lex word second cmd)
    (tokenized : tokens cmdLine = word :: rest) (head : rest.head? = second) :
    parsePOP3Command lex cmdLine = .ok (.ok cmd) := by
  have number : ∀ {argument n type}, lex argument = some n → rest.head? = some argument →
      POP3CommandType.read word = type → supportsUintParameter type = true →
      parsePOP3Command lex cmdLine = .ok (.ok ⟨type, .uint n⟩) := by
    intro argument n type read head typed numbered
    obtain ⟨more, rfl⟩ := List.head?_eq_some_iff.mp head
    rcases parse_number_cases tokenized typed numbered with ⟨unread, _⟩ | ⟨n', read', parsed⟩
    · cases read.symm.trans unread
    · cases read.symm.trans read'
      exact parsed
  cases h with
  | user name =>
    obtain ⟨more, rfl⟩ := List.head?_eq_some_iff.mp head
    exact parse_of_known tokenized rfl nofun
  | pass password =>
    obtain ⟨more, rfl⟩ := List.head?_eq_some_iff.mp head
    exact parse_of_known tokenized rfl nofun
  | retr read => exact number read head rfl rfl
  | list =>
    cases List.head?_eq_none_iff.mp head
    exact parse_one tokenized rfl nofun
  | listOne read => exact number read head rfl rfl
  | dele =>
    cases List.head?_eq_none_iff.mp head
    exact parse_one tokenized rfl nofun
  | deleOne read => exact number read head rfl rfl
  | stat second => exact parse_bare tokenized rfl (by decide)
  | noop second => exact parse_bare tokenized rfl (by decide)
  | rset second => exact parse_bare tokenized rfl (by decide)
  | quit second => exact parse_bare tokenized rfl (by decide)

theorem Refuses.parses {second : Option Bytes} {err : ParsingError} (h : Refuses lex word second err)
    (tokenized : tokens cmdLine = word :: rest) (head : rest.head? = second) :
    parsePOP3Command lex cmdLine = .ok (.error err) := by
  cases h with
  | unknownCommand other => exact parse_of_unknown tokenized (read_eq_unknown other)
  | invalidUintParameter numbered unread =>
    obtain ⟨more, rfl⟩ := List.head?_eq_some_iff.mp head
    have typed : supportsUintParameter (POP3CommandType.read word) = true := by
      simp only [List.mem_cons, List.not_mem_nil, or_false] at numbered
      rcases numbered with rfl | rfl | rfl <;> rfl
    rcases parse_number_cases tokenized rfl typed with ⟨_, failed⟩ | ⟨n, read, _⟩
    · exact failed
    · cases unread.symm.trans read
  | userNameRequired =>
    cases List.head?_eq_none_iff.mp head
    exact parse_one tokenized rfl nofun
  | passwordRequired =>
    cases List.head?_eq_none_iff.mp head
    exact parse_one tokenized rfl nofun
  | mailNumberRequired =>
    cases List.head?_eq_none_iff.mp head
    exact parse_one tokenized rfl nofun

theorem parse_accepts_iff (tokenized : tokens cmdLine = word :: rest) {cmd : POP3Command} :
    parsePOP3Command lex cmdLine = .ok (.ok cmd) ↔ Accepts lex word rest.head? cmd := by
  refine ⟨fun parsed => ?_, fun h => h.parses tokenized rfl⟩
  rcases parse_cases lex tokenized with ⟨cmd', parsed', accepts⟩ | ⟨err, failed, _⟩
  · cases parsed.symm.trans parsed'
    exact accepts
  · cases parsed.symm.trans failed

theorem parse_refuses_iff (tokenized : tokens cmdLine = word :: rest) {err : ParsingError} :
    parsePOP3Command lex cmdLine = .ok (.error err) ↔ Refuses lex word rest.head? err := by
  refine ⟨fun failed => ?_, fun h => h.parses tokenized rfl⟩
  rcases parse_cases lex tokenized with ⟨cmd, parsed, _⟩ | ⟨err', failed', refuses⟩
  · cases failed.symm.trans parsed
  · cases failed.symm.trans failed'
    exact refuses

/-- Nothing behind the second token is looked at, nor how the tokens are spaced. -/
theorem parse_congr {cmdLine' : Bytes} {rest' : List Bytes} (tokenized : tokens cmdLine = word :: rest)
    (split' : tokens cmdLine' = word :: rest') (same : rest'.head? = rest.head?) :
    parsePOP3Command lex cmdLine' = parsePOP3Command lex cmdLine := by
  rcases parse_cases lex tokenized with ⟨cmd, parsed, accepts⟩ | ⟨err, failed, refuses⟩
  · rw [parsed, accepts.parses split' same]
  · rw [failed, refuses.parses split' same]

end Parse

end Pop3Serv.Proto
