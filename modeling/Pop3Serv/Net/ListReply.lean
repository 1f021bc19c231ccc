import Pop3Serv.Net.Answers
import Pop3Serv.Net.Retrieval

/-!
# The reply to LIST as a client reads it

A client reads the status line, then a multi-line text to its lone dot, and takes
each line of it apart (`clientListing`). `handleList` sends the text and the lone dot
only when there is something to list, so the reply is complete exactly if some file
of the maildrop is not marked (`list_reply_iff`).
-/

namespace Pop3Serv.Net
open Proto Mail Logic

def space : UInt8 := 32

/-- A number as a client reads it: decimal digits, at least one. -/
def readDecimal (digits : Bytes) : Option Nat :=
  if digits ≠ [] ∧ ∀ b ∈ digits, 48 ≤ b.toNat ∧ b.toNat ≤ 57 then
    some (Nat.ofDigitChars 10 (digits.map fun b => Char.ofNat b.toNat) 0)
  else none

/-- A line `number length`. -/
def readEntry (line : Bytes) : Option (Nat × Nat) :=
  (readDecimal (line.takeWhile (· ≠ space))).bind fun number =>
    (readDecimal (line.dropWhile (· ≠ space)).tail).map fun length => (number, length)

/-- The client's side of a listing: its entries, and what is left for the replies to come. -/
def clientListing (stream : Bytes) : Option (List (Nat × Nat) × Bytes) :=
  (clientReads stream).bind fun found =>
    ((textLines cr lf [] found.1).mapM readEntry).map fun entries => (entries, found.2)

/-- A complete listing of these lengths. -/
structure CompleteListing (lengths : Std.TreeMap Nat Nat) (response : Bytes) : Prop where
  /-- a status line, one line for each entry, and one with a lone dot -/
  lines : ∃ status, Positive status ∧ NoBreak status ∧
    response = status ++ crlf ++
      (lengths.toList.map fun p => decimal p.1 ++ ascii " " ++ decimal p.2 ++ crlf).flatten ++ ascii "." ++ crlf
  increasing : (lengths.toList.map Prod.fst).Pairwise (· < ·)
  /-- whatever follows, the client takes just the listing and reads the map from it -/
  readBack : ∀ rest, clientListing (response ++ rest) = some (lengths.toList, rest)

theorem decimal_ne_nil (n : Nat) : decimal n ≠ [] := by
  rw [decimal, Ne, List.map_eq_nil_iff]
  exact Nat.toDigits_ne_nil

theorem readDecimal_decimal (n : Nat) : readDecimal (decimal n) = some n := by
  rw [readDecimal, if_pos ⟨decimal_ne_nil n, fun b hb => mem_decimal hb⟩, digits_decimal,
    Nat.ofDigitChars_ten_toDigits]

/-- The line of an entry, without its end. -/
def entryLine (p : Nat × Nat) : Bytes := decimal p.1 ++ ascii " " ++ decimal p.2

theorem noBreak_entryLine (p : Nat × Nat) : NoBreak (entryLine p) := by
  simp only [entryLine, noBreak_append, noBreak_decimal, and_true, true_and]
  decide

theorem entryLine_undotted (p : Nat × Nat) : (entryLine p).head? ≠ some dot := by
  obtain ⟨b, rest, digits⟩ := List.exists_cons_of_ne_nil (decimal_ne_nil p.1)
  have digit := mem_decimal (n := p.1) (b := b) (by simp [digits])
  rw [entryLine, digits]
  intro dotted
  cases dotted
  revert digit
  decide

theorem readEntry_entryLine (p : Nat × Nat) : readEntry (entryLine p) = some p := by
  have digit : ∀ b ∈ decimal p.1, decide (b ≠ space) = true := by
    intro b hb
    have := mem_decimal hb
    rw [decide_eq_true_eq]
    rintro rfl
    revert this
    decide
  have line : entryLine p = decimal p.1 ++ space :: decimal p.2 := by simp [entryLine, ascii, space]
  have number : (decimal p.1 ++ space :: decimal p.2).takeWhile (· ≠ space) = decimal p.1 := by
    rw [List.takeWhile_append_of_pos digit, List.takeWhile_cons_of_neg (by simp), List.append_nil]
  have length : (decimal p.1 ++ space :: decimal p.2).dropWhile (· ≠ space) = space :: decimal p.2 := by
    rw [List.dropWhile_append_of_pos digit, List.dropWhile_cons_of_neg (by simp)]
  rw [line, readEntry, number, length, List.tail_cons, readDecimal_decimal, readDecimal_decimal]
  rfl

theorem mapM_readEntry (entries : List (Nat × Nat)) :
    (entries.map entryLine).mapM readEntry = some entries := by
  induction entries with
  | nil => rfl
  | cons p entries ih => simp [List.mapM_cons, readEntry_entryLine, ih]

/-- The lines of a listing and its lone dot, read back. -/
theorem clientListing_lines {status : Bytes} (clean : NoBreak status) (entries : List (Nat × Nat))
    (rest : Bytes) :
    clientListing (status ++ crlf ++ (entries.map POP3Session.listingLine).flatten ++ ascii "." ++ crlf ++ rest) =
      some (entries, rest) := by
  have text : (entries.map POP3Session.listingLine).flatten =
      ((entries.map entryLine).map (· ++ [cr, lf])).flatten := by
    rw [List.map_map]
    rfl
  have stream : status ++ crlf ++ (entries.map POP3Session.listingLine).flatten ++ ascii "." ++ crlf ++ rest =
      status ++ cr :: lf :: (((entries.map entryLine).map (· ++ [cr, lf])).flatten ++ dot :: cr :: lf :: rest) := by
    rw [text]
    simp [crlf, ascii, dot]
  have each : ∀ line ∈ entries.map entryLine, cr ∉ line ∧ line.head? ≠ some dot := by
    intro line member
    obtain ⟨p, _, rfl⟩ := List.mem_map.mp member
    exact ⟨(noBreak_entryLine p).1, entryLine_undotted p⟩
  have read : clientReads (status ++ crlf ++ (entries.map POP3Session.listingLine).flatten ++ ascii "." ++
      crlf ++ rest) = some (((entries.map entryLine).map (· ++ [cr, lf])).flatten, rest) := by
    rw [stream, clientReads, readLine_append clean.1]
    exact readText_lines (by decide) each rest
  have lines : textLines cr lf [] ((entries.map entryLine).map (· ++ [cr, lf])).flatten = entries.map entryLine :=
    textLines_lines fun line member => (each line member).1
  rw [clientListing, read, Option.bind_some, lines, mapM_readEntry]
  rfl

/-- A status line alone leaves the client reading. -/
theorem clientListing_status {status : Bytes} (clean : NoBreak status) :
    clientListing (status ++ crlf) = none := by
  have read : clientReads (status ++ crlf) = none := by
    rw [clientReads, show status ++ crlf = status ++ cr :: lf :: [] from rfl, readLine_append clean.1]
    rfl
  rw [clientListing, read]
  rfl

theorem increasing_keys (lengths : Std.TreeMap Nat Nat) :
    (lengths.toList.map Prod.fst).Pairwise (· < ·) := by
  rw [List.pairwise_map]
  exact lengths.ordered_keys_toList.imp fun before => Nat.compare_eq_lt.mp before

/-- A listing has an entry exactly if some file is not marked. -/
theorem lengths_isEmpty_iff {fs : FileSystem} {m : Mailbox} {lengths : Std.TreeMap Nat Nat}
    (listing : m.getEmailsLengths fs = .ok lengths) :
    lengths.isEmpty = false ↔ ∃ p, (p, false) ∈ m.entries := by
  rcases Mailbox.getEmailsLengths_cases fs m with ⟨known, result, ends, read⟩ | ⟨_, ends⟩
  · cases listing.symm.trans ends
    have key : ∀ k, k ∈ lengths ↔ (Mailbox.listedIn fs m.storages 0 k).isSome := fun k => by
      rw [← read, Std.TreeMap.isSome_getElem?_iff_mem]
    rw [Std.TreeMap.isEmpty_eq_false_iff_exists_mem]
    simp only [key]
    have perStorage : ∀ storages : List FileSystemMailStorage, ∀ offset,
        SizesKnown fs (storages.map (·.entries)).flatten →
        ((∃ k, (Mailbox.listedIn fs storages offset k).isSome) ↔
          ∃ p, (p, false) ∈ (storages.map (·.entries)).flatten) := by
      intro storages
      induction storages with
      | nil => simp [Mailbox.listedIn]
      | cons s rest ih =>
        intro offset known
        rw [List.map_cons, List.flatten_cons, Mailbox.sizesKnown_append] at known
        have here : (∃ k, (listed fs s.entries offset k).isSome) ↔ ∃ p, (p, false) ∈ s.entries := by
          simp only [listed_isSome_iff known.1, List.mem_iff_getElem?]
          constructor
          · rintro ⟨_, a, p, at_a, _⟩
            exact ⟨p, a, at_a⟩
          · rintro ⟨p, a, at_a⟩
            exact ⟨_, a, p, at_a, rfl⟩
        simp only [Mailbox.listedIn, Option.isSome_or, Bool.or_eq_true, exists_or, List.map_cons,
          List.flatten_cons, List.mem_append, here, ih _ known.2]
    exact perStorage m.storages 0 known
  · cases listing.symm.trans ends

/-- What a whole listing looks like when the handler returns. -/
theorem handleList_whole {s : POP3Session} {m : Mailbox} (mailbox : s.mailbox = some m) (fs : FileSystems)
    (returned : (s.handleList fs ⟨.LIST, .monostate⟩).thrown = none) :
    ∃ lengths status, m.getEmailsLengths (fs 0) = .ok lengths ∧ Positive status ∧ NoBreak status ∧
      (s.handleList fs ⟨.LIST, .monostate⟩).session.response = status ++ crlf ++
        (if lengths.isEmpty then []
         else (lengths.toList.map POP3Session.listingLine).flatten ++ ascii "." ++ crlf) := by
  unfold POP3Session.handleList at returned ⊢
  simp only at returned ⊢
  rw [POP3Session.attempt_box mailbox] at returned ⊢
  rcases attempt_cases s (m.getEmailsLengths (fs 0)) _ with ⟨fault, _, failed⟩ | ⟨lengths, listing, goes⟩
  · rw [failed] at returned
    cases returned
  rw [goes] at returned ⊢
  rcases attempt_cases s (m.getWholeMailboxSize (fs 1)) _ with ⟨fault, _, failed⟩ | ⟨size, _, goes⟩
  · rw [failed] at returned
    cases returned
  rw [goes]
  refine ⟨lengths, POP3Status.OK.text ++ ascii " " ++ decimal m.getEmailsCount ++ ascii " messages (" ++
    decimal size ++ ascii " octets)", listing, ?_, ?_, ?_⟩
  · simp only [List.append_assoc]
    exact positive_append _
  · simp only [noBreak_append, noBreak_decimal, and_true]
    exact ⟨⟨⟨by decide, by decide⟩, by decide⟩, by decide⟩
  · simp only [List.append_assoc]

/-- **The reply to `LIST`** in any reachable Transaction state. The request is answered if the sizes of
the unmarked files can be read; the answer is then a complete listing exactly if there is
an unmarked file. -/
theorem list_reply_iff (cfg : Config) (sessionId : Nat) (d : Dialogue) (reached : Reached cfg sessionId d)
    (inside : d.session.state = .Transaction) (request : Bytes)
    (requests : parsePOP3Command cfg.lex request = .ok (.ok ⟨.LIST, .monostate⟩))
    (fs : FileSystems) (active : ActiveMailboxes) :
    ∃ m, d.session.mailbox = some m ∧
      ((({ d.session with request } : POP3Session).readImpl cfg fs active).1.thrown = none ↔
        SizesKnown (fs 0) m.entries ∧ SizesKnown (fs 1) m.entries) ∧
      ((({ d.session with request } : POP3Session).readImpl cfg fs active).1.thrown = none →
        ∃ lengths, m.getEmailsLengths (fs 0) = .ok lengths ∧
          (CompleteListing lengths
              (({ d.session with request } : POP3Session).readImpl cfg fs active).1.session.response ↔
            ∃ p, (p, false) ∈ m.entries)) := by
  obtain ⟨m, mailbox⟩ := reached.typestate.mailbox_some inside
  have handled : (({ d.session with request } : POP3Session).readImpl cfg fs active).1 =
      (POP3Session.handleList fs { d.session with request, response := [] } ⟨.LIST, .monostate⟩).write := by
    have outside : ¬ d.session.state = .Authorization := by simp [inside]
    unfold POP3Session.readImpl
    rw [requests]
    simp only [if_neg outside]
    rfl
  have replies := POP3Session.replies_listAll (s := { d.session with request, response := [] }) mailbox fs
    ⟨.LIST, .monostate⟩ nofun
  rw [handled, Ended.write_thrown, Ended.write_session]
  refine ⟨m, mailbox, replies.returned, fun returned => ?_⟩
  obtain ⟨lengths, status, listing, positive, clean, response⟩ :=
    handleList_whole (s := { d.session with request, response := [] }) mailbox fs returned
  refine ⟨lengths, listing, ?_⟩
  rw [response, ← lengths_isEmpty_iff listing]
  cases empty : lengths.isEmpty with
  | true =>
    refine iff_of_false (fun complete => ?_) nofun
    have read := complete.readBack []
    rw [if_pos rfl, List.append_nil, List.append_nil, clientListing_status clean] at read
    cases read
  | false =>
    refine iff_of_true ?_ rfl
    rw [if_neg nofun, ← List.append_assoc, ← List.append_assoc]
    exact ⟨⟨status, positive, clean, rfl⟩, increasing_keys lengths, clientListing_lines clean _⟩

theorem list_reply_one_mail :
    ∃ d lengths, exec (Dialogue.localStep oneRecordConfig) (created 0) oneMailLogin = some d ∧
      CompleteListing lengths (({ d.session with request := ascii "LIST" ++ crlf } : POP3Session).readImpl
        oneRecordConfig (fun _ => oneMail) ∅).1.session.response := by
  obtain ⟨d, run, inside, entries⟩ : ∃ d,
      exec (Dialogue.localStep oneRecordConfig) (created 0) oneMailLogin = some d ∧
        d.session.state = .Transaction ∧
        d.session.mailbox.map Mailbox.entries = some [(ascii "m", false)] := ⟨_, rfl, rfl, rfl⟩
  obtain ⟨m, mailbox, answered, complete⟩ := list_reply_iff oneRecordConfig 0 d ⟨_, run⟩ inside
    (ascii "LIST" ++ crlf) (by decide) (fun _ => oneMail) ∅
  rw [mailbox, Option.map_some, Option.some.injEq] at entries
  obtain ⟨lengths, _, decodes⟩ := complete (answered.mpr ⟨fun _ _ => rfl, fun _ _ => rfl⟩)
  exact ⟨d, lengths, run, decodes.mpr ⟨ascii "m", by simp [entries]⟩⟩

/-- In an empty maildrop the reply is the status line alone, and the client goes on reading. -/
theorem list_reply_empty :
    ∃ d, exec (Dialogue.localStep oneRecordConfig) (created 0) userPassLogin = some d ∧
      d.session.state = .Transaction ∧
      (({ d.session with request := ascii "LIST" ++ crlf } : POP3Session).readImpl oneRecordConfig
        (fun _ => Mailbox.oneByteFiles) ∅).1.thrown = none ∧
      (({ d.session with request := ascii "LIST" ++ crlf } : POP3Session).readImpl oneRecordConfig
        (fun _ => Mailbox.oneByteFiles) ∅).1.session.response = ascii "+OK 0 messages (0 octets)" ++ crlf ∧
      ∀ lengths, ¬ CompleteListing lengths (({ d.session with request := ascii "LIST" ++ crlf } :
        POP3Session).readImpl oneRecordConfig (fun _ => Mailbox.oneByteFiles) ∅).1.session.response := by
  obtain ⟨d, run, inside, returned, response⟩ : ∃ d,
      exec (Dialogue.localStep oneRecordConfig) (created 0) userPassLogin = some d ∧
      d.session.state = .Transaction ∧
      (({ d.session with request := ascii "LIST" ++ crlf } : POP3Session).readImpl oneRecordConfig
        (fun _ => Mailbox.oneByteFiles) ∅).1.thrown = none ∧
      (({ d.session with request := ascii "LIST" ++ crlf } : POP3Session).readImpl oneRecordConfig
        (fun _ => Mailbox.oneByteFiles) ∅).1.session.response = ascii "+OK 0 messages (0 octets)" ++ crlf :=
    ⟨_, rfl, rfl, rfl, rfl⟩
  refine ⟨d, run, inside, returned, response, fun lengths complete => ?_⟩
  have read := complete.readBack []
  rw [response, List.append_nil, clientListing_status (by decide)] at read
  cases read

end Pop3Serv.Net
