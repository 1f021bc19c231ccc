import Mathlib.Data.List.Basic
import Mathlib.Data.List.TakeWhile

/-!
# The pieces of a split list

`List.splitOnP` cuts a list at the elements that satisfy a predicate. The facts
here say what the pieces are made of: no piece contains a separator, every element
of a piece is one of the list, and every other element of the list is in a piece.
The pieces that are not empty are the maximal runs between the separators (`Runs`).
-/

namespace Pop3Serv.Logic

variable {α : Type*} {p : α → Bool} {xs piece : List α} {x : α}

/-- The first piece of a list that begins with an element that is no separator. -/
theorem splitOnP_cons_keep (keep : p x = false) (xs : List α) :
    ∃ first rest, xs.splitOnP p = first :: rest ∧ (x :: xs).splitOnP p = (x :: first) :: rest := by
  obtain ⟨first, rest, parts⟩ := List.exists_cons_of_ne_nil (List.splitOnP_ne_nil p xs)
  refine ⟨first, rest, parts, ?_⟩
  rw [List.splitOnP_cons_eq_if_modifyHead, keep, if_neg (by simp), parts]
  simp

theorem splitOnP_cons_cut (cut : p x = true) (xs : List α) :
    (x :: xs).splitOnP p = [] :: xs.splitOnP p := by
  rw [List.splitOnP_cons_eq_if_modifyHead, if_pos cut]

/-- A piece is made of elements of the list that are no separators. -/
theorem mem_piece (h : piece ∈ xs.splitOnP p) (hx : x ∈ piece) : x ∈ xs ∧ p x = false := by
  induction xs generalizing piece with
  | nil =>
    rw [List.splitOnP_nil, List.mem_singleton] at h
    subst h
    exact absurd hx List.not_mem_nil
  | cons y ys ih =>
    cases sort : p y with
    | true =>
      rw [splitOnP_cons_cut sort] at h
      rcases List.mem_cons.mp h with rfl | h
      · exact absurd hx List.not_mem_nil
      · exact ⟨List.mem_cons_of_mem _ (ih h hx).1, (ih h hx).2⟩
    | false =>
      obtain ⟨first, rest, parts, split'⟩ := splitOnP_cons_keep sort ys
      rw [split'] at h
      rw [parts] at ih
      rcases List.mem_cons.mp h with rfl | h
      · rcases List.mem_cons.mp hx with rfl | hx
        · exact ⟨List.mem_cons_self, sort⟩
        · have inside := ih List.mem_cons_self hx
          exact ⟨List.mem_cons_of_mem _ inside.1, inside.2⟩
      · have inside := ih (List.mem_cons_of_mem _ h) hx
        exact ⟨List.mem_cons_of_mem _ inside.1, inside.2⟩

/-- No element is lost but the separators. -/
theorem exists_piece (hx : x ∈ xs) (keep : p x = false) : ∃ piece ∈ xs.splitOnP p, x ∈ piece := by
  induction xs with
  | nil => exact absurd hx List.not_mem_nil
  | cons y ys ih =>
    cases sort : p y with
    | true =>
      have later : x ∈ ys := by
        rcases List.mem_cons.mp hx with rfl | later
        · rw [keep] at sort; cases sort
        · exact later
      obtain ⟨piece, member, inside⟩ := ih later
      refine ⟨piece, ?_, inside⟩
      rw [splitOnP_cons_cut sort]
      exact List.mem_cons_of_mem _ member
    | false =>
      obtain ⟨first, rest, parts, split'⟩ := splitOnP_cons_keep sort ys
      rw [split']
      rcases List.mem_cons.mp hx with rfl | later
      · exact ⟨_, List.mem_cons_self, List.mem_cons_self⟩
      · obtain ⟨piece, member, inside⟩ := ih later
        rw [parts] at member
        rcases List.mem_cons.mp member with rfl | member
        · exact ⟨_, List.mem_cons_self, List.mem_cons_of_mem _ inside⟩
        · exact ⟨piece, List.mem_cons_of_mem _ member, inside⟩

/-- The runs of a list: its maximal stretches without a separator, in order. -/
inductive Runs (p : α → Bool) : List α → List (List α) → Prop
  | nil {gap : List α} (blank : ∀ x ∈ gap, p x = true) : Runs p gap []
  | cons {gap run rest : List α} {runs : List (List α)} (blank : ∀ x ∈ gap, p x = true)
      (nonempty : run ≠ []) (solid : ∀ x ∈ run, p x = false) (maximal : ∀ x ∈ rest.head?, p x = true)
      (later : Runs p rest runs) : Runs p (gap ++ run ++ rest) (run :: runs)

/-- The pieces that are not empty. -/
def solidPieces (p : α → Bool) (xs : List α) : List (List α) := (xs.splitOnP p).filter (!·.isEmpty)

theorem solidPieces_cons_cut (cut : p x = true) (xs : List α) :
    solidPieces p (x :: xs) = solidPieces p xs := by
  rw [solidPieces, splitOnP_cons_cut cut]
  rfl

/-- A separator ends what stands before it, and begins nothing. -/
theorem solidPieces_append_cut (cut : p x = true) (xs ys : List α) :
    solidPieces p (xs ++ x :: ys) = solidPieces p xs ++ solidPieces p ys := by
  unfold solidPieces
  rw [List.splitOnP_append_cons xs ys cut, List.filter_append]

theorem solidPieces_blank_append {gap : List α} (blank : ∀ x ∈ gap, p x = true) (xs : List α) :
    solidPieces p (gap ++ xs) = solidPieces p xs := by
  induction gap with
  | nil => rfl
  | cons x gap ih =>
    rw [List.cons_append, solidPieces_cons_cut (blank x (by simp)), ih fun y hy => blank y (by simp [hy])]

/-- A run, up to the separator that ends it, is the first piece that is not empty. -/
theorem solidPieces_run_append {run rest : List α} (nonempty : run ≠ []) (solid : ∀ x ∈ run, p x = false)
    (maximal : ∀ x ∈ rest.head?, p x = true) : solidPieces p (run ++ rest) = run :: solidPieces p rest := by
  have kept : (!run.isEmpty) = true := by simp [nonempty]
  cases rest with
  | nil =>
    rw [List.append_nil, solidPieces, List.splitOnP_eq_singleton solid, List.filter_cons, if_pos kept]
    rfl
  | cons sep rest =>
    have cut : p sep = true := maximal sep rfl
    rw [solidPieces, List.splitOnP_append_cons_of_forall_mem solid sep cut, List.filter_cons, if_pos kept,
      solidPieces_cons_cut cut]
    rfl

theorem Runs.eq_solidPieces {runs : List (List α)} (h : Runs p xs runs) : runs = solidPieces p xs := by
  induction h with
  | nil blank =>
    rename_i gap
    rw [← List.append_nil gap, solidPieces_blank_append blank]
    rfl
  | cons blank nonempty solid maximal later ih =>
    rw [List.append_assoc, solidPieces_blank_append blank, solidPieces_run_append nonempty solid maximal, ih]

theorem runs_solidPieces (p : α → Bool) (xs : List α) : Runs p xs (solidPieces p xs) := by
  -- the gap and the run at the front, then the rest, which is shorter
  induction size : xs.length using Nat.strongRecOn generalizing xs with
  | ind n ih =>
    have blank : ∀ x ∈ xs.takeWhile p, p x = true := fun x hx => List.mem_takeWhile_imp hx
    have whole : xs.takeWhile p ++ xs.dropWhile p = xs := List.takeWhile_append_dropWhile
    cases after : xs.dropWhile p with
    | nil =>
      rw [after, List.append_nil] at whole
      have noPieces : solidPieces p xs = [] := by
        rw [← whole, ← List.append_nil (xs.takeWhile p), solidPieces_blank_append blank]
        rfl
      rw [noPieces, ← whole]
      exact .nil blank
    | cons y ys =>
      have solidHead : p y = false := by
        have := List.head?_dropWhile_not p xs
        rw [after] at this
        simpa using this
      let run := (y :: ys).takeWhile (!p ·)
      let rest := (y :: ys).dropWhile (!p ·)
      have whole : xs = xs.takeWhile p ++ run ++ rest := by
        rw [List.append_assoc, List.takeWhile_append_dropWhile, ← after, whole]
      have nonempty : run ≠ [] := by simp [run, solidHead]
      have solid : ∀ x ∈ run, p x = false := fun x hx => by simpa using List.mem_takeWhile_imp hx
      have maximal : ∀ x ∈ rest.head?, p x = true := by
        intro x hx
        have := List.head?_dropWhile_not (!p ·) (y :: ys)
        rw [show ((y :: ys).dropWhile (!p ·)).head? = some x from hx] at this
        simpa using this
      have shorter : rest.length < n := by
        have lengths := congrArg List.length whole
        rw [List.length_append, List.length_append] at lengths
        have := List.length_pos_of_ne_nil nonempty
        omega
      have later := ih rest.length shorter rest rfl
      have pieces : solidPieces p xs = run :: solidPieces p rest := by
        rw [whole, List.append_assoc, solidPieces_blank_append blank,
          solidPieces_run_append nonempty solid maximal]
      rw [pieces]
      conv => arg 2; rw [whole]
      exact .cons blank nonempty solid maximal later

/-- **The pieces that are not empty are the runs**, and nothing else is. -/
theorem runs_iff {runs : List (List α)} : Runs p xs runs ↔ solidPieces p xs = runs :=
  ⟨fun h => h.eq_solidPieces.symm, fun h => h ▸ runs_solidPieces p xs⟩

end Pop3Serv.Logic
