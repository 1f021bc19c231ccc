import Mathlib

/-!
# Texts that end with a lone dot

A multi-line text is sent as lines, each closed by the two elements `cr lf`, and
ends with a line that is a single `dot`; a line that begins with a dot is sent with
one more. `readText` is the receiver: it reads to the first lone dot and takes the
added dots off. A text sent without the added dots is read back exactly if none of
its lines begins with one (`readText_terminated_iff`). For a text given as a list of
lines this is `readText_lines`, and `textLines` gives the lines back.
-/

namespace Pop3Serv.Logic

variable {α : Type*} [DecidableEq α] {cr lf dot : α}

/-- The first line and what follows its end. -/
def readLine (cr lf : α) : List α → Option (List α × List α)
  | [] => none
  | [_] => none
  | a :: b :: rest =>
    if a = cr ∧ b = lf then some ([], rest)
    else (readLine cr lf (b :: rest)).map fun found => (a :: found.1, found.2)

/-- A line as it was before a dot was put in front of it. -/
def unstuff (dot : α) (line : List α) : List α := if line.head? = some dot then line.tail else line

/-- The lines up to the first lone dot, when some of the first one has been read already, and what
follows. -/
def readText (cr lf dot : α) : List α → List α → Option (List α × List α)
  | _, [] => none
  | _, [_] => none
  | line, a :: b :: rest =>
    if a = cr ∧ b = lf then
      if line = [dot] then some ([], rest)
      else (readText cr lf dot [] rest).map fun found => (unstuff dot line ++ [cr, lf] ++ found.1, found.2)
    else readText cr lf dot (line ++ [a]) (b :: rest)

theorem readLine_append {line : List α} (clean : cr ∉ line) (rest : List α) :
    readLine cr lf (line ++ cr :: lf :: rest) = some (line, rest) := by
  induction line with
  | nil => simp [readLine]
  | cons a line ih =>
    rw [List.mem_cons, not_or] at clean
    have other : ¬ a = cr := fun e => clean.1 e.symm
    have read := ih clean.2
    cases line with
    | nil => simp [readLine, other]
    | cons b line =>
      rw [List.cons_append, List.cons_append, readLine, if_neg fun e => other e.1, ← List.cons_append, read]
      rfl

theorem length_unstuff (dot : α) (line : List α) : (unstuff dot line).length ≤ line.length := by
  unfold unstuff
  split
  · simp
  · exact Nat.le_refl _

/-- A text read is shorter than what was sent by the line that ends it, or more. -/
theorem readText_length {line xs text rest : List α} (read : readText cr lf dot line xs = some (text, rest)) :
    text.length + rest.length + 3 ≤ line.length + xs.length := by
  fun_induction readText cr lf dot line xs generalizing text rest with
  | case1 => cases read
  | case2 => cases read
  | case3 a b xs ends =>
    cases read
    simp only [List.length_nil, List.length_cons]
    omega
  | case4 line a b xs ends goesOn ih =>
    obtain ⟨⟨text', rest'⟩, read', same⟩ := Option.map_eq_some_iff.mp read
    have shorter := ih read'
    have shortened := length_unstuff dot line
    cases same
    simp only [List.length_append, List.length_cons, List.length_nil] at shorter ⊢
    omega
  | case5 line a b xs inside ih =>
    have shorter := ih read
    simp only [List.length_append, List.length_cons, List.length_nil] at shorter ⊢
    omega

/-- What follows a text read changes nothing in it. -/
theorem readText_append {line xs text rest : List α} (read : readText cr lf dot line xs = some (text, rest))
    (more : List α) : readText cr lf dot line (xs ++ more) = some (text, rest ++ more) := by
  fun_induction readText cr lf dot line xs generalizing text rest with
  | case1 => cases read
  | case2 => cases read
  | case3 a b xs ends =>
    cases read
    rw [List.cons_append, List.cons_append, readText, if_pos ends, if_pos rfl]
  | case4 line a b xs ends goesOn ih =>
    obtain ⟨⟨text', rest'⟩, read', same⟩ := Option.map_eq_some_iff.mp read
    cases same
    rw [List.cons_append, List.cons_append, readText, if_pos ends, if_neg goesOn, ih read']
    rfl
  | case5 line a b xs inside ih =>
    rw [List.cons_append, List.cons_append, readText, if_neg inside]
    exact ih read

/-- No line begins with a dot: neither the first, of which `line` has been read, nor one after a
line's end. -/
def Undotted (cr lf dot : α) (line text : List α) : Prop :=
  (line ++ text).head? ≠ some dot ∧ ¬ [cr, lf, dot] <:+: text

/-- The text is empty, or its last line is closed. -/
def Closed (cr lf : α) (line text : List α) : Prop := line = [] ∧ text = [] ∨ [cr, lf] <:+ text

omit [DecidableEq α] in
theorem Closed.suffix {line text : List α} {a : α} (closed : Closed cr lf line (a :: text)) :
    [cr, lf] <:+ a :: text := by
  rcases closed with ⟨_, empty⟩ | closing
  · cases empty
  · exact closing

omit [DecidableEq α] in
theorem Closed.after_end (h' : cr ≠ lf) {line rest : List α} (closed : Closed cr lf line (cr :: lf :: rest)) :
    Closed cr lf [] rest := by
  rcases List.suffix_cons_iff.mp closed.suffix with same | later
  · exact .inl ⟨rfl, by simpa using same⟩
  · rcases List.suffix_cons_iff.mp later with same | later
    · exact absurd (congrArg List.head? same) (by simp [h'])
    · exact .inr later

omit [DecidableEq α] in
theorem Closed.step {line rest : List α} {a b : α} (inside : ¬ (a = cr ∧ b = lf))
    (closed : Closed cr lf line (a :: b :: rest)) : Closed cr lf (line ++ [a]) (b :: rest) := by
  rcases List.suffix_cons_iff.mp closed.suffix with same | later
  · simp only [List.cons.injEq] at same
    exact absurd ⟨same.1.symm, same.2.1.symm⟩ inside
  · exact .inr later

omit [DecidableEq α] in
/-- A line's end: the next line must not begin with a dot. -/
theorem undotted_end (h : dot ≠ cr) (h' : cr ≠ lf) {line rest : List α} :
    Undotted cr lf dot line (cr :: lf :: rest) ↔ line.head? ≠ some dot ∧ Undotted cr lf dot [] rest := by
  have start : (line ++ cr :: lf :: rest).head? = some dot ↔ line.head? = some dot := by
    cases line with
    | nil => simp [h.symm]
    | cons a line => simp
  have inside : [cr, lf, dot] <:+: cr :: lf :: rest ↔ rest.head? = some dot ∨ [cr, lf, dot] <:+: rest := by
    rw [List.infix_cons_iff, List.infix_cons_iff]
    have here : [cr, lf, dot] <+: cr :: lf :: rest ↔ rest.head? = some dot := by
      cases rest with
      | nil => simp
      | cons a rest => simp [eq_comm]
    have next : ¬ [cr, lf, dot] <+: lf :: rest := fun e => h' (List.cons_prefix_cons.mp e).1
    rw [here, or_iff_right next]
  unfold Undotted
  rw [Ne, start, inside, not_or, List.nil_append]

omit [DecidableEq α] in
/-- Inside a line. -/
theorem undotted_step {line rest : List α} {a b : α} (inside : ¬ (a = cr ∧ b = lf)) :
    Undotted cr lf dot line (a :: b :: rest) ↔ Undotted cr lf dot (line ++ [a]) (b :: rest) := by
  have here : ¬ [cr, lf, dot] <+: a :: b :: rest := by
    intro e
    obtain ⟨first, e⟩ := List.cons_prefix_cons.mp e
    obtain ⟨second, _⟩ := List.cons_prefix_cons.mp e
    exact inside ⟨first.symm, second.symm⟩
  unfold Undotted
  rw [List.infix_cons_iff, or_iff_right here, List.append_assoc, List.singleton_append]

theorem unstuff_of_undotted {line : List α} (h : line.head? ≠ some dot) : unstuff dot line = line := if_neg h

/-- A line is read back as it was exactly if it did not begin with a dot: a dot taken off cannot be
made up for by the lines that follow. -/
theorem readText_line_iff {line text : List α} :
    ((readText cr lf dot [] (text ++ [dot, cr, lf])).map fun found =>
        (unstuff dot line ++ [cr, lf] ++ found.1, found.2)) = some (line ++ cr :: lf :: text, []) ↔
      line.head? ≠ some dot ∧ readText cr lf dot [] (text ++ [dot, cr, lf]) = some (text, []) := by
  constructor
  · intro read
    obtain ⟨⟨text', rest'⟩, read', same⟩ := Option.map_eq_some_iff.mp read
    simp only [Prod.mk.injEq, List.append_assoc, List.cons_append, List.nil_append] at same
    obtain ⟨same, rfl⟩ := same
    have shorter := readText_length read'
    have lengths := congrArg List.length same
    have shortened := length_unstuff dot line
    simp only [List.length_append, List.length_cons, List.length_nil] at shorter lengths
    have undotted : line.head? ≠ some dot := by
      intro dotted
      have nonempty : 0 < line.length := List.length_pos_of_ne_nil (by rintro rfl; cases dotted)
      have taken : (unstuff dot line).length = line.length - 1 := by
        rw [unstuff, if_pos dotted, List.length_tail]
      omega
    rw [unstuff_of_undotted undotted, List.append_cancel_left_eq] at same
    simp only [List.cons.injEq, true_and] at same
    rw [same] at read'
    exact ⟨undotted, read'⟩
  · rintro ⟨undotted, read⟩
    rw [read, unstuff_of_undotted undotted]
    simp

/-- **A text sent as it is** is read back, with nothing left over, exactly if none of its lines begins
with a dot. -/
theorem readText_terminated_iff (h : dot ≠ cr) (h' : cr ≠ lf) (line text : List α)
    (closed : Closed cr lf line text) :
    readText cr lf dot line (text ++ [dot, cr, lf]) = some (line ++ text, []) ↔
      Undotted cr lf dot line text := by
  match text with
  | [] =>
    rcases closed with ⟨rfl, _⟩ | short
    · simp [readText, Undotted, h]
    · exact absurd short.length_le (by simp)
  | [a] => exact absurd closed.suffix.length_le (by simp)
  | a :: b :: rest =>
    rw [List.cons_append, List.cons_append, readText]
    by_cases ends : a = cr ∧ b = lf
    · rw [if_pos ends, ends.1, ends.2, undotted_end h h']
      rw [ends.1, ends.2] at closed
      have ih := readText_terminated_iff h h' [] rest (closed.after_end h')
      by_cases lone : line = [dot]
      · rw [if_pos lone]
        exact iff_of_false (by simp) (by simp [lone])
      · rw [if_neg lone, readText_line_iff]
        exact and_congr_right fun _ => ih
    · have ih := readText_terminated_iff h h' (line ++ [a]) (b :: rest) (closed.step ends)
      rw [if_neg ends, undotted_step ends]
      rw [List.cons_append, List.append_assoc, List.singleton_append] at ih
      exact ih

/-! ## Texts made of lines -/

/-- The lines of a text, of the first of which some has been read already. -/
def textLines (cr lf : α) : List α → List α → List (List α)
  | _, [] => []
  | _, [_] => []
  | line, a :: b :: rest =>
    if a = cr ∧ b = lf then line :: textLines cr lf [] rest
    else textLines cr lf (line ++ [a]) (b :: rest)

omit [DecidableEq α] in
/-- What takes the elements inside a line one by one takes the rest of a line in one go. -/
theorem line_in_one_go {β : Type*} {f : List α → List α → β}
    (inside : ∀ line rest (a b : α), ¬ (a = cr ∧ b = lf) →
      f line (a :: b :: rest) = f (line ++ [a]) (b :: rest))
    {more : List α} (clean : cr ∉ more) (line rest : List α) :
    f line (more ++ cr :: rest) = f (line ++ more) (cr :: rest) := by
  induction more generalizing line with
  | nil => rw [List.nil_append, List.append_nil]
  | cons a more ih =>
    rw [List.mem_cons, not_or] at clean
    have notEnd : ∀ b : α, ¬ (a = cr ∧ b = lf) := fun b e => clean.1 e.1.symm
    have later := ih clean.2 (line ++ [a])
    rw [List.append_assoc, List.singleton_append] at later
    cases more with
    | nil => exact (inside line rest a cr (notEnd cr)).trans later
    | cons b more => exact (inside line _ a b (notEnd b)).trans later

/-- The rest of a line is read in one go. -/
theorem readText_line {line more : List α} (clean : cr ∉ more) (rest : List α) :
    readText cr lf dot line (more ++ cr :: lf :: rest) =
      if line ++ more = [dot] then some ([], rest)
      else (readText cr lf dot [] rest).map fun found =>
        (unstuff dot (line ++ more) ++ [cr, lf] ++ found.1, found.2) := by
  have goesOn := line_in_one_go (f := readText cr lf dot)
    (fun line rest a b inside => by rw [readText, if_neg inside]) clean line (lf :: rest)
  rw [goesOn, readText, if_pos ⟨rfl, rfl⟩]

theorem textLines_line {line more : List α} (clean : cr ∉ more) (rest : List α) :
    textLines cr lf line (more ++ cr :: lf :: rest) = (line ++ more) :: textLines cr lf [] rest := by
  have goesOn := line_in_one_go (f := textLines cr lf)
    (fun line rest a b inside => by rw [textLines, if_neg inside]) clean line (lf :: rest)
  rw [goesOn, textLines, if_pos ⟨rfl, rfl⟩]

/-- **A text of lines**, none of which begins with a dot, is read up to its lone dot, whatever follows. -/
theorem readText_lines (h : dot ≠ cr) {lines : List (List α)}
    (each : ∀ line ∈ lines, cr ∉ line ∧ line.head? ≠ some dot) (rest : List α) :
    readText cr lf dot [] ((lines.map (· ++ [cr, lf])).flatten ++ dot :: cr :: lf :: rest) =
      some ((lines.map (· ++ [cr, lf])).flatten, rest) := by
  induction lines with
  | nil =>
    have lone : cr ∉ [dot] := by simpa using h.symm
    have read := @readText_line _ _ cr lf dot [] [dot] lone rest
    rw [List.nil_append, if_pos rfl] at read
    exact read
  | cons line lines ih =>
    obtain ⟨clean, undotted⟩ := each line (by simp)
    have later := ih fun l hl => each l (by simp [hl])
    have notLone : ¬ [] ++ line = [dot] := by
      rintro rfl
      exact undotted rfl
    rw [List.map_cons, List.flatten_cons, List.append_assoc, List.append_assoc]
    rw [List.cons_append, List.cons_append, List.nil_append, readText_line clean, if_neg notLone, later]
    simp [unstuff_of_undotted undotted]

theorem textLines_lines {lines : List (List α)} (each : ∀ line ∈ lines, cr ∉ line) :
    textLines cr lf [] (lines.map (· ++ [cr, lf])).flatten = lines := by
  induction lines with
  | nil => rfl
  | cons line lines ih =>
    have later := ih fun l hl => each l (by simp [hl])
    rw [List.map_cons, List.flatten_cons, List.append_assoc, List.cons_append, List.cons_append,
      List.nil_append, textLines_line (each line (by simp)), later, List.nil_append]

end Pop3Serv.Logic
