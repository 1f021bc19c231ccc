import Pop3Serv.Proto.Bytes

/-!
# The command parser

`POP3Common`: `POP3CommandType.h`, `POP3Status.h` and `POP3Command.h`.
`boost::lexical_cast<unsigned int>` is outside the repository, so the parser
takes it as the parameter `lex`.
-/

namespace Pop3Serv.Proto

/-- `enum class POP3CommandType`. -/
inductive POP3CommandType where
  | UNKNOWN | USER | PASS | STAT | LIST | RETR | DELE | NOOP | RSET | QUIT
  deriving DecidableEq, Repr

/-- `operator>>(std::istream&, POP3CommandType&)` on one token. -/
def POP3CommandType.read (word : Bytes) : POP3CommandType :=
  if word = ascii "USER" then .USER
  else if word = ascii "PASS" then .PASS
  else if word = ascii "STAT" then .STAT
  else if word = ascii "LIST" then .LIST
  else if word = ascii "RETR" then .RETR
  else if word = ascii "DELE" then .DELE
  else if word = ascii "RSET" then .RSET
  else if word = ascii "NOOP" then .NOOP
  else if word = ascii "QUIT" then .QUIT
  else .UNKNOWN

/-- `enum class POP3Status`, with the text `operator<<` gives it. -/
inductive POP3Status where
  | OK | ERR | UNKNOWN
  deriving DecidableEq, Repr

def POP3Status.text : POP3Status → Bytes
  | .OK => ascii "+OK"
  | .ERR => ascii "-ERR"
  | .UNKNOWN => []

/-- `std::variant<std::monostate, unsigned int, std::string>`. -/
inductive Parameter where
  | monostate
  | uint (n : UInt32)
  | string (s : Bytes)
  deriving DecidableEq, Repr

structure POP3Command where
  cmdType : POP3CommandType := .NOOP
  parameter : Parameter := .monostate
  deriving DecidableEq, Repr

def supportsUintParameter (type : POP3CommandType) : Bool :=
  type = .LIST || type = .RETR || type = .DELE

def supportStringParameter (type : POP3CommandType) : Bool :=
  type = .USER || type = .PASS

/-- `std::get<std::string>(cmd.parameter)`. -/
def Parameter.getString : Parameter → Except Fault Bytes
  | .string s => .ok s
  | _ => .error .badVariantAccess

/-- `std::get<unsigned int>(cmd.parameter)`. -/
def Parameter.getUint : Parameter → Except Fault UInt32
  | .uint n => .ok n
  | _ => .error .badVariantAccess

inductive ParsingError where
  | EmptyString | InvalidFormat | UnknownCommand | InvalidUintParameter
  | UserNameRequired | PasswordRequired | MailNumberRequired
  deriving DecidableEq, Repr

/-- `operator<<(std::ostream&, const ParsingError&)`. -/
def ParsingError.text : ParsingError → Bytes
  | .EmptyString => ascii "empty line has been sent"
  | .InvalidFormat => ascii "command line has invalid format"
  | .UnknownCommand => ascii "unknown command"
  | .InvalidUintParameter => ascii "expected integer parameter, but received something else"
  | .UserNameRequired => ascii "user name required"
  | .PasswordRequired => ascii "password required"
  | .MailNumberRequired => ascii "in RETR command mail number required"

/-- `boost::is_space()` in the C locale: space and `\t \n \v \f \r`. -/
def isSpace (b : UInt8) : Bool := b = 32 || (9 ≤ b && b ≤ 13)

/-- The non-empty pieces `boost::split` leaves, in order. -/
def tokens (cmdLine : Bytes) : List Bytes :=
  (cmdLine.splitOnP isSpace).filter (!·.isEmpty)

/-- What a parse gives when it returns. -/
abbrev Parsed := Except ParsingError POP3Command

/-- The parameter step of `parsePOP3Command`: only the second token is looked at. -/
def readParameter (lex : Bytes → Option UInt32) (type : POP3CommandType) (v : List Bytes) :
    Except ParsingError Parameter :=
  match v[1]? with
  | none => .ok .monostate
  | some arg =>
    if supportsUintParameter type then
      match lex arg with
      | some n => .ok (.uint n)
      | none => .error .InvalidUintParameter
    else if supportStringParameter type then .ok (.string arg)
    else .ok .monostate

/-- The three checks after the parameter step. -/
def checkParameter (cmd : POP3Command) : Parsed :=
  if cmd.cmdType = .USER ∧ ¬ cmd.parameter matches .string _ then .error .UserNameRequired
  else if cmd.cmdType = .PASS ∧ ¬ cmd.parameter matches .string _ then .error .PasswordRequired
  else if cmd.cmdType = .RETR ∧ ¬ cmd.parameter matches .uint _ then .error .MailNumberRequired
  else .ok cmd

/-- `parsePOP3Command`. The access `v[0]` is not guarded: on a line without a
token it is undefined, which the outer `Except` records. -/
def parsePOP3Command (lex : Bytes → Option UInt32) (cmdLine : Bytes) : Except Fault Parsed :=
  if cmdLine.isEmpty then .ok (.error .EmptyString)
  else
    match tokens cmdLine with
    | [] => .error .badIndex
    | word :: rest =>
      let type := POP3CommandType.read word
      if type = .UNKNOWN then .ok (.error .UnknownCommand)
      else
        match readParameter lex type (word :: rest) with
        | .error e => .ok (.error e)
        | .ok parameter => .ok (checkParameter { cmdType := type, parameter })

end Pop3Serv.Proto
