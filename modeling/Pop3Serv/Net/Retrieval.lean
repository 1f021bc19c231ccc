import Pop3Serv.Logic.DotText
import Pop3Serv.Net.ReplyLines

/-!
# What a client reads of a message

`handleRetr` sends a status line, the content as it is in the file, closed by
`\r\n`, and the line with a lone dot. A client reads the status line and a
multi-line text (`clientReads`). The two fit exactly if no line of the content
begins with a dot (`retr_decodes_iff`): nothing puts a second one in front of it.
-/

namespace Pop3Serv.Net
open Proto Mail Logic

def dot : UInt8 := 46

/-- The client's side of a multi-line reply: the text, and what is left for the replies to come. -/
def clientReads (stream : Bytes) : Option (Bytes × Bytes) :=
  (readLine cr lf stream).bind fun found => readText cr lf dot [] found.2

theorem closeContent_closed (content : Bytes) : crlf <:+ POP3Session.closeContent content := by
  unfold POP3Session.closeContent
  split
  · assumption
  · exact List.suffix_append _ _

/-- The `\r\n` added at the end begins no line with a dot. -/
theorem undotted_closeContent (content : Bytes) :
    Undotted cr lf dot [] (POP3Session.closeContent content) ↔ Undotted cr lf dot [] content := by
  unfold POP3Session.closeContent
  split
  · exact Iff.rfl
  · have start : (content ++ crlf).head? = some dot ↔ content.head? = some dot := by
      cases content with
      | nil => decide
      | cons b rest => rfl
    have inside : [cr, lf, dot] <:+: content ++ crlf ↔ [cr, lf, dot] <:+: content := by
      have last : ∀ (xs : Bytes) (b : UInt8), dot ≠ b → ¬ [cr, lf, dot] <:+ xs ++ [b] := by
        intro xs b differ
        rintro ⟨before, same⟩
        have ends := congrArg List.getLast? same
        rw [List.getLast?_append, List.getLast?_append] at ends
        exact differ (by simpa using ends)
      have twice : content ++ crlf = (content ++ [cr]) ++ [lf] := by simp [crlf]
      rw [twice, List.infix_concat_iff, or_iff_right (last _ _ (by decide)), List.infix_concat_iff,
        or_iff_right (last _ _ (by decide))]
    unfold Undotted
    rw [List.nil_append, List.nil_append, Ne, start, inside]

/-- The stream of a reply with a message, as the client takes it apart. -/
theorem clientReads_message {status content : Bytes} (clean : NoBreak status) :
    clientReads (status ++ crlf ++ POP3Session.closeContent content ++ ascii "." ++ crlf) =
      readText cr lf dot [] (POP3Session.closeContent content ++ [dot, cr, lf]) := by
  have stream : status ++ crlf ++ POP3Session.closeContent content ++ ascii "." ++ crlf =
      status ++ cr :: lf :: (POP3Session.closeContent content ++ [dot, cr, lf]) := by
    simp [crlf, ascii, dot]
  rw [stream, clientReads, readLine_append clean.1]
  rfl

/-- **A message read back.** When `RETR` succeeds, the client reads the content, closed by `\r\n`, and
the whole reply, exactly if no line of the content begins with a dot. -/
theorem retr_decodes_iff (fs : FileSystems) (s : POP3Session) (number : UInt32)
    (succeeds : Positive (s.handleRetr fs ⟨.RETR, .uint number⟩).session.response)
    (returned : (s.handleRetr fs ⟨.RETR, .uint number⟩).thrown = none) :
    ∃ m content, s.mailbox = some m ∧ m.getEmail (fs 1) number.toNat = .ok (.ok content) ∧
      (clientReads (s.handleRetr fs ⟨.RETR, .uint number⟩).session.response =
          some (if crlf <:+ content then content else content ++ crlf, []) ↔
        content.head? ≠ some dot ∧ ¬ crlf ++ [dot] <:+: content) := by
  rcases POP3Session.handleRetr_cases fs s ⟨.RETR, .uint number⟩ with
    ⟨fault, failed⟩ | missing | ⟨number', m, length, content, given, mailbox, _, read, sent⟩
  · rw [failed] at returned
    cases returned
  · rw [missing] at succeeds
    exact absurd succeeds (not_positive_error s _)
  · cases given
    refine ⟨m, content, mailbox, read, ?_⟩
    have status : NoBreak (POP3Status.OK.text ++ ascii " " ++ decimal length ++ ascii " octets") := by
      simp only [noBreak_append, noBreak_decimal, and_true]
      exact ⟨⟨by decide, by decide⟩, by decide⟩
    have decoded := readText_terminated_iff (show dot ≠ cr by decide) (show cr ≠ lf by decide) []
      (POP3Session.closeContent content) (.inr (closeContent_closed content))
    rw [sent, clientReads_message status]
    exact decoded.trans (undotted_closeContent content)

/-- A session in a mailbox with one file. -/
def oneMessage : POP3Session :=
  { sessionId := 0, state := .Transaction, userName := ascii "u",
    mailbox := some (Mailbox.opened (ascii "u") [[ascii "a"]] ⟨ascii "u", true⟩) }

/-- A file system on which every file has this content. -/
def filesWith (content : Bytes) : FileSystem :=
  { Mailbox.oneByteFiles with file_size := fun _ => some content.length, ifstream := fun _ => some content }

theorem retr_decodes_x :
    ∃ content, content = ascii "x" ∧
      clientReads (oneMessage.handleRetr (fun _ => filesWith (ascii "x")) ⟨.RETR, .uint 0⟩).session.response =
        some (content ++ crlf, []) := by
  obtain ⟨m, content, mailbox, read, decodes⟩ :=
    retr_decodes_iff (fun _ => filesWith (ascii "x")) oneMessage 0 (by decide) rfl
  cases mailbox
  cases read
  exact ⟨ascii "x", rfl, decodes.mpr (by decide)⟩

/-- The line `.a` of a message arrives as `a`. -/
theorem dotted_line_not_decoded :
    ∃ m, oneMessage.mailbox = some m ∧ m.getEmail (filesWith (ascii ".a")) 0 = .ok (.ok (ascii ".a")) ∧
      (oneMessage.handleRetr (fun _ => filesWith (ascii ".a")) ⟨.RETR, .uint 0⟩).thrown = none ∧
      clientReads (oneMessage.handleRetr (fun _ => filesWith (ascii ".a")) ⟨.RETR, .uint 0⟩).session.response =
        some (ascii "a" ++ crlf, []) ∧
      ascii "a" ++ crlf ≠ ascii ".a" ++ crlf :=
  ⟨_, rfl, rfl, rfl, by decide, by decide⟩

end Pop3Serv.Net
