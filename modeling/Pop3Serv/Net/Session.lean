import Pop3Serv.Proto.Command
import Pop3Serv.Mail.Manager

/-!
# The session's handlers

`POP3Session.h` and `POP3Session.cpp`: the session object, and what its command
handlers do to it. No handler catches anything, so a handler that ends in an
exception leaves the object as it is at that point (`Ended.thrown`).

A request meets the file system at up to two moments, since each of the two
mailbox calls a handler may make asks it anew: `fs 0` is what the first finds,
`fs 1` what the second does. `lastActivityTime` is not kept: the timer's verdict
on it is part of the event in the server model.
-/

namespace Pop3Serv.Net
open Proto Mail

inductive POP3SessionState where
  | Authorization | Transaction | Update
  deriving DecidableEq, Repr

inductive POP3SessionError where
  | ProhibitedForAnonymous | NotRegistered | MailboxIsBusy | InternalError
  | OtherMailboxBeingUsed | AlreadyLogged | NoSuchMessage | MessageAlreadyDeleted
  deriving DecidableEq, Repr

/-- `operator<<(std::ostream&, const POP3SessionError&)`. -/
def POP3SessionError.text : POP3SessionError → Bytes
  | .ProhibitedForAnonymous => ascii "you must authorized before calling this command"
  | .NotRegistered => ascii "sorry, no mailbox for such user here"
  | .MailboxIsBusy => ascii "mailbox is busy at the moment, please try again later"
  | .InternalError => ascii "some internal error occured, please try again later"
  | .OtherMailboxBeingUsed =>
    ascii "you have already logged using other name, please quit from mailbox and then try again"
  | .AlreadyLogged => ascii "maildrop already locked"
  | .NoSuchMessage => ascii "no such message"
  | .MessageAlreadyDeleted => ascii "no such message"

structure POP3Session where
  sessionId : Nat
  state : POP3SessionState := .Authorization
  request : Bytes := []
  response : Bytes := []
  userName : Bytes := []
  quitCommandReceived : Bool := false
  mailbox : Option Mailbox := none
  deriving DecidableEq, Repr

/-- What a server run holds fixed: the configured authorization manager, the mail
root, and `boost::lexical_cast<unsigned int>`. -/
structure Config where
  auth : AuthorizationManager
  defaultPath : Path
  lex : Bytes → Option UInt32

/-- The file system as the calls of one request find it. -/
abbrev FileSystems := Nat → FileSystem

/-- An asynchronous operation a handler starts on the session's socket. -/
inductive AsyncOp where
  | asyncReadUntil
  | asyncWrite (buffer : Bytes)
  deriving DecidableEq, Repr

/-- How a handler ends: the session as it leaves it, the exception that cut it
short if one did, and the operations it started. -/
structure Ended where
  session : POP3Session
  thrown : Option Fault := none
  started : List AsyncOp := []

/-- Evaluate something that may throw while the session is `s`, then go on. -/
def attempt {α : Type} (s : POP3Session) (value : Except Fault α) (next : α → Ended) : Ended :=
  match value with
  | .ok a => next a
  | .error fault => { session := s, thrown := some fault }

namespace POP3Session

def setErrorResponse (s : POP3Session) (err : Bytes) : POP3Session :=
  { s with response := POP3Status.ERR.text ++ ascii " " ++ err ++ crlf }

/-- `+ mesg.data()` appends a C string. -/
def setSimpleOkResponse (s : POP3Session) (mesg : Bytes) : POP3Session :=
  { s with response := POP3Status.OK.text ++ (if mesg.isEmpty then [] else ascii " ") ++ cstr mesg ++ crlf }

/-- `mailbox->`. -/
def box (s : POP3Session) : Except Fault Mailbox :=
  match s.mailbox with
  | some m => .ok m
  | none => .error .nullMailbox

def putMailboxInfoToReponse (fs : FileSystem) (s : POP3Session) : Ended :=
  attempt s s.box fun mailbox =>
  attempt s (mailbox.getWholeMailboxSize fs) fun size =>
  { session := { s with
      response := POP3Status.OK.text ++ ascii " " ++ s.userName ++ ascii "'s maildrop has " ++
        decimal mailbox.getEmailsCount ++ ascii " messages (" ++ decimal size ++
        ascii " octets)" ++ crlf } }

/-- The `PASS` case of `handleAnonymousCommand` after `VerifyCredentialsAndConnect`. -/
def finishPass (fs : FileSystems) (s : POP3Session) (result : Except Fault LoginResult) : Ended :=
  attempt s result fun
  | .mailbox m => { s with mailbox := some m, state := .Transaction }.putMailboxInfoToReponse (fs 1)
  | .authError err => { session := s.setErrorResponse err.text }
  | .operationError err =>
    if err = .MailboxIsBusy then { session := s.setErrorResponse POP3SessionError.MailboxIsBusy.text }
    else { session := s.setErrorResponse POP3SessionError.InternalError.text }

/-- `handleAnonymousCommand`, with the lock table it finds and the one it leaves. -/
def handleAnonymousCommand (cfg : Config) (fs : FileSystems) (active : ActiveMailboxes)
    (s : POP3Session) (cmd : POP3Command) : Ended × ActiveMailboxes :=
  match cmd.cmdType with
  | .USER =>
    (attempt s cmd.parameter.getString fun username =>
      attempt s (cfg.auth.verifyName username) fun known =>
      if !known then { session := s.setErrorResponse POP3SessionError.NotRegistered.text }
      else
        { session := { s with userName := username }.setSimpleOkResponse
            (ascii "user " ++ username ++ ascii " exists") }, active)
  | .PASS =>
    match cmd.parameter.getString with
    | .error fault => ({ session := s, thrown := some fault }, active)
    | .ok pass =>
      let (result, active) :=
        VerifyCredentialsAndConnect cfg.auth cfg.defaultPath (fs 0) active s.userName pass
      (s.finishPass fs result, active)
  | .NOOP => ({ session := s.setSimpleOkResponse [] }, active)
  | .QUIT => ({ session := { s with quitCommandReceived := true }.setSimpleOkResponse [] }, active)
  | _ => ({ session := s.setErrorResponse POP3SessionError.ProhibitedForAnonymous.text }, active)

/-- One line `number length` of a listing. -/
def listingLine (p : Nat × Nat) : Bytes := decimal p.1 ++ ascii " " ++ decimal p.2 ++ crlf

def handleList (fs : FileSystems) (s : POP3Session) (cmd : POP3Command) : Ended :=
  match cmd.parameter with
  | .uint number =>
    attempt s s.box fun mailbox =>
    attempt s (mailbox.getEmailLength (fs 0) number.toNat) fun
    | .error _ => { session := s.setErrorResponse POP3SessionError.NoSuchMessage.text }
    | .ok length =>
      { session := { s with
          response := POP3Status.OK.text ++ ascii " " ++ decimal number.toNat ++ ascii " " ++
            decimal length ++ crlf } }
  | _ =>
    attempt s s.box fun mailbox =>
    attempt s (mailbox.getEmailsLengths (fs 0)) fun lengths =>
    attempt s (mailbox.getWholeMailboxSize (fs 1)) fun size =>
    { session := { s with
        response := POP3Status.OK.text ++ ascii " " ++ decimal mailbox.getEmailsCount ++
          ascii " messages (" ++ decimal size ++ ascii " octets)" ++ crlf ++
          (if lengths.isEmpty then []
           else (lengths.toList.map listingLine).flatten ++ ascii "." ++ crlf) } }

def handleDelete (fs : FileSystems) (s : POP3Session) (cmd : POP3Command) : Ended :=
  match cmd.parameter with
  | .uint number =>
    attempt s s.box fun mailbox =>
    let (mailbox, result) := mailbox.deleteEmail number.toNat
    let s := { s with mailbox := some mailbox }
    if result = .EmailNotFound then { session := s.setErrorResponse POP3SessionError.NoSuchMessage.text }
    else if result = .EmailAlreadyDeleted then
      { session := s.setErrorResponse POP3SessionError.MessageAlreadyDeleted.text }
    else s.putMailboxInfoToReponse (fs 0)
  | _ =>
    attempt s s.box fun mailbox =>
    { session := { s with mailbox := some mailbox.deleteEmails }.setSimpleOkResponse [] }

/-- The content as `handleRetr` sends it: `\r\n` is added when it is missing. -/
def closeContent (content : Bytes) : Bytes :=
  if crlf <:+ content then content else content ++ crlf

def handleRetr (fs : FileSystems) (s : POP3Session) (cmd : POP3Command) : Ended :=
  attempt s cmd.parameter.getUint fun number =>
  attempt s s.box fun mailbox =>
  attempt s (mailbox.getEmailLength (fs 0) number.toNat) fun
  | .error _ => { session := s.setErrorResponse POP3SessionError.NoSuchMessage.text }
  | .ok length =>
    attempt s (mailbox.getEmail (fs 1) number.toNat) fun
    | .error _ => { session := s.setErrorResponse POP3SessionError.NoSuchMessage.text }
    | .ok content =>
      { session := { s with
          response := POP3Status.OK.text ++ ascii " " ++ decimal length ++ ascii " octets" ++ crlf ++
            closeContent content ++ ascii "." ++ crlf } }

def handleAuthorizedUserCommand (fs : FileSystems) (s : POP3Session) (cmd : POP3Command) : Ended :=
  match cmd.cmdType with
  | .LIST => s.handleList fs cmd
  | .DELE => s.handleDelete fs cmd
  | .NOOP => { session := s.setSimpleOkResponse [] }
  | .USER =>
    attempt s cmd.parameter.getString fun username =>
    if s.userName = username then
      { session := { s with response := POP3Status.OK.text ++ ascii " " ++ s.userName ++ crlf } }
    else { session := s.setErrorResponse POP3SessionError.OtherMailboxBeingUsed.text }
  | .PASS => { session := s.setErrorResponse POP3SessionError.AlreadyLogged.text }
  | .QUIT =>
    { session := { s with quitCommandReceived := true }.setSimpleOkResponse
        (ascii "POP3 server signing off") }
  | .RETR => s.handleRetr fs cmd
  | .STAT => s.putMailboxInfoToReponse (fs 0)
  | .RSET =>
    attempt s s.box fun mailbox =>
    { s with mailbox := some mailbox.reset }.putMailboxInfoToReponse (fs 0)
  | .UNKNOWN => { session := s }


end POP3Session

/-- `write()` at the end of `readImpl`, reached only when nothing was thrown. -/
def Ended.write (ended : Ended) : Ended :=
  match ended.thrown with
  | none => { ended with started := ended.started ++ [.asyncWrite ended.session.response] }
  | some _ => ended

/-- `POP3Session::readImpl`, on the request in the session's buffer. -/
def POP3Session.readImpl (cfg : Config) (fs : FileSystems) (active : ActiveMailboxes)
    (s : POP3Session) : Ended × ActiveMailboxes :=
  match parsePOP3Command cfg.lex s.request with
  | .error fault => ({ session := s, thrown := some fault }, active)
  | .ok result =>
    let s := { s with response := [] }
    match result with
    | .error err => (Ended.write { session := s.setErrorResponse err.text }, active)
    | .ok command =>
      if s.state = .Authorization then
        let (ended, active) := s.handleAnonymousCommand cfg fs active command
        (ended.write, active)
      else ((s.handleAuthorizedUserCommand fs command).write, active)

end Pop3Serv.Net
