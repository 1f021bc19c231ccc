import Pop3Serv.Logic.Pieces
import Pop3Serv.Proto.Command

/-!
# What the parser accepts

The facts about `parsePOP3Command` that the handlers rely on: a command it
returns is known, and carries the parameter its handler will take out of the
variant. It returns on every line but those made of white space alone, which
have no first token.
-/

namespace Pop3Serv.Proto
open Logic

/-- A token is a piece of the line without white space, and not empty. -/
theorem token_spec {cmdLine token : Bytes} (h : token ∈ tokens cmdLine) :
    token ≠ [] ∧ ∀ b ∈ token, b ∈ cmdLine ∧ isSpace b = false := by
  obtain ⟨piece, solid⟩ := List.mem_filter.mp h
  refine ⟨by simpa using solid, fun b hb => ?_⟩
  exact mem_piece piece hb

/-- A line has a token exactly if not all of it is white space. -/
theorem tokens_ne_nil_iff {cmdLine : Bytes} :
    tokens cmdLine ≠ [] ↔ ∃ b ∈ cmdLine, isSpace b = false := by
  constructor
  · intro hasToken
    obtain ⟨token, member⟩ := List.exists_mem_of_ne_nil _ hasToken
    obtain ⟨nonempty, inside⟩ := token_spec member
    obtain ⟨b, hb⟩ := List.exists_mem_of_ne_nil _ nonempty
    exact ⟨b, inside b hb⟩
  · rintro ⟨b, hb, visible⟩
    obtain ⟨piece, member, inside⟩ := exists_piece (p := isSpace) hb visible
    apply List.ne_nil_of_mem (a := piece)
    apply List.mem_filter.mpr
    refine ⟨member, ?_⟩
    cases piece with
    | nil => exact absurd inside List.not_mem_nil
    | cons c rest => simp

/-- A command a handler can be called with. -/
structure POP3Command.WellFormed (cmd : POP3Command) : Prop where
  known : cmd.cmdType ≠ .UNKNOWN
  userName : cmd.cmdType = .USER → ∃ name, cmd.parameter = .string name
  password : cmd.cmdType = .PASS → ∃ password, cmd.parameter = .string password
  mailNumber : cmd.cmdType = .RETR → ∃ number, cmd.parameter = .uint number

/-- The three checks let nothing else through, and change nothing. -/
theorem checkParameter_ok {cmd cmd' : POP3Command} (known : cmd.cmdType ≠ .UNKNOWN)
    (h : checkParameter cmd = .ok cmd') : cmd' = cmd ∧ cmd.WellFormed := by
  obtain ⟨type, parameter⟩ := cmd
  have same : cmd' = ⟨type, parameter⟩ := by
    cases type <;> cases parameter <;> simp [checkParameter] at h <;> exact h.symm
  refine ⟨same, known, ?_, ?_, ?_⟩ <;> rintro rfl <;> cases parameter <;>
    simp [checkParameter] at h ⊢

/-- A line the parser accepts: its first token names the command, its second the parameter. -/
theorem parsePOP3Command_ok {lex : Bytes → Option UInt32} {cmdLine : Bytes} {cmd : POP3Command}
    (h : parsePOP3Command lex cmdLine = .ok (.ok cmd)) :
    cmd.WellFormed ∧ ∃ word rest, tokens cmdLine = word :: rest ∧
      cmd.cmdType = POP3CommandType.read word ∧
      readParameter lex cmd.cmdType (word :: rest) = .ok cmd.parameter := by
  unfold parsePOP3Command at h
  split at h
  · cases h
  · split at h
    · cases h
    · rename_i word rest tokenized
      simp only at h
      split at h
      · cases h
      · rename_i known
        split at h
        · cases h
        · rename_i parameter read
          obtain ⟨rfl, wellFormed⟩ := checkParameter_ok known (Except.ok.inj h)
          exact ⟨wellFormed, word, rest, tokenized, rfl, read⟩

/-- The parser has a result on every line that has a token. -/
theorem parsePOP3Command_returns (lex : Bytes → Option UInt32) {cmdLine : Bytes}
    (hasToken : tokens cmdLine ≠ []) : ∃ result, parsePOP3Command lex cmdLine = .ok result := by
  unfold parsePOP3Command
  split
  · exact ⟨_, rfl⟩
  · split
    · rename_i noToken
      exact absurd noToken hasToken
    · simp only
      split
      · exact ⟨_, rfl⟩
      · split <;> exact ⟨_, rfl⟩

/-- A parse is safe if it reads no token that does not exist, and refuses a line without one. -/
def SafeParse (lex : Bytes → Option UInt32) (cmdLine : Bytes) : Prop :=
  (∃ result, parsePOP3Command lex cmdLine = .ok result) ∧
    ((∀ b ∈ cmdLine, isSpace b = true) → ∃ err, parsePOP3Command lex cmdLine = .ok (.error err))

/-- On a line of white space alone the parser goes on to a first token that is not there. -/
theorem parsePOP3Command_blank (lex : Bytes → Option UInt32) {cmdLine : Bytes} (hasBytes : cmdLine ≠ [])
    (blank : tokens cmdLine = []) : parsePOP3Command lex cmdLine = .error .badIndex := by
  have nonempty : cmdLine.isEmpty = false := by simpa using hasBytes
  unfold parsePOP3Command
  rw [nonempty, if_neg (by simp), blank]

/-- **The parser is safe** on the empty line and on every line with a byte that is no white
space, and on no other. -/
theorem parse_safe_iff (lex : Bytes → Option UInt32) (cmdLine : Bytes) :
    SafeParse lex cmdLine ↔ cmdLine = [] ∨ ∃ b ∈ cmdLine, isSpace b = false := by
  constructor
  · rintro ⟨⟨result, returned⟩, _⟩
    by_contra outside
    rw [not_or, ← tokens_ne_nil_iff, not_not] at outside
    rw [parsePOP3Command_blank lex outside.1 outside.2] at returned
    cases returned
  · rintro (rfl | visible)
    · exact ⟨⟨_, rfl⟩, fun _ => ⟨_, rfl⟩⟩
    · refine ⟨parsePOP3Command_returns lex (tokens_ne_nil_iff.mpr visible), fun blank => ?_⟩
      obtain ⟨b, hb, isVisible⟩ := visible
      rw [blank b hb] at isVisible
      cases isVisible

/-- The line a client sends when it sends nothing but its end. -/
theorem bare_line_not_safe :
    parsePOP3Command (fun _ => none) crlf = .error .badIndex ∧ ¬ SafeParse (fun _ => none) crlf := by
  have read : parsePOP3Command (fun _ => none) crlf = .error .badIndex := rfl
  refine ⟨read, ?_⟩
  rintro ⟨⟨result, returned⟩, _⟩
  rw [read] at returned
  cases returned

end Pop3Serv.Proto
