import Mathlib.Data.Tree.Basic
import Mathlib.Order.RelIso.Basic
import Mathlib.Data.List.Lex

/-!
# Search trees under a comparator

What a `std::set` does: it descends from the root by a comparator, which also compares an element
with a key, and it puts a new element where the descent ends. Rotations are anything that
keeps the order of the elements (`Rotations`), so the results hold for every shape the
tree can have. The comparator is given by a strict total order on the keys of the elements.
-/

namespace Pop3Serv.Logic

variable {α κ : Type*}

/-- The elements, from left to right. -/
def inorder : BinaryTree α → List α
  | .nil => []
  | .node a left right => inorder left ++ a :: inorder right

/-- The descent of `lower_bound`: `found` is the last element that was not before the key. -/
def lowerBoundFrom (before : α → Bool) (found : Option α) : BinaryTree α → Option α
  | .nil => found
  | .node a left right =>
    if before a then lowerBoundFrom before found right else lowerBoundFrom before (some a) left

/-- `find`: the lower bound, unless it comes after the key. -/
def findTree (before after : α → Bool) (t : BinaryTree α) : Option α :=
  (lowerBoundFrom before none t).filter (!after ·)

/-- A new leaf, where the descent ends. -/
def insertLeaf (less : α → α → Bool) (new : α) : BinaryTree α → BinaryTree α
  | .nil => .node new .nil .nil
  | .node a left right =>
    if less new a then .node a (insertLeaf less new left) right else .node a left (insertLeaf less new right)

/-- What an insertion does to the shape of the tree. -/
structure Rotations (α : Type*) where
  rotate : BinaryTree α → BinaryTree α
  inorder_rotate : ∀ t, inorder (rotate t) = inorder t

/-- The lower bound is the first element, from left to right, that is not before the key. -/
theorem lowerBoundFrom_eq {before : α → Bool} {t : BinaryTree α} (found : Option α)
    (cut : (inorder t).Pairwise fun a b => before b = true → before a = true) :
    lowerBoundFrom before found t = ((inorder t).find? (!before ·)).or found := by
  induction t generalizing found with
  | nil => rfl
  | node a left right ihLeft ihRight =>
    rw [inorder, List.pairwise_append, List.pairwise_cons] at cut
    obtain ⟨cutLeft, ⟨_, cutRight⟩, across⟩ := cut
    rw [inorder, List.find?_append, List.find?_cons, lowerBoundFrom]
    cases here : before a with
    | true =>
      have nothing : (inorder left).find? (!before ·) = none := by
        refine List.find?_eq_none.mpr fun b member => ?_
        simp [across b member a List.mem_cons_self here]
      rw [if_pos rfl, ihRight found cutRight, nothing]
      rfl
    | false =>
      rw [if_neg Bool.false_ne_true, ihLeft (some a) cutLeft]
      cases (inorder left).find? (!before ·) <;> rfl

section Keys
variable (lt : κ → κ → Prop) (key : α → κ)

/-- The keys grow from left to right. -/
def SortedTree (t : BinaryTree α) : Prop := (inorder t).Pairwise fun a b => lt (key a) (key b)

variable {lt key} {t : BinaryTree α} {a : α} {k : κ}

/-- Rotations keep the order. -/
theorem SortedTree.rotate (sorted : SortedTree lt key t) (rotations : Rotations α) :
    SortedTree lt key (rotations.rotate t) := by
  rw [SortedTree, rotations.inorder_rotate]
  exact sorted

variable [DecidableRel lt] [IsStrictTotalOrder κ lt]

/-- **A lookup finds the element with the key**, and nothing else. -/
theorem findTree_eq_some_iff (sorted : SortedTree lt key t) :
    findTree (fun a => decide (lt (key a) k)) (fun a => decide (lt k (key a))) t = some a ↔
      a ∈ inorder t ∧ key a = k := by
  have cut : (inorder t).Pairwise fun a b => decide (lt (key b) k) = true → decide (lt (key a) k) = true :=
    sorted.imp fun {a b} first before => decide_eq_true (IsTrans.trans (r := lt) _ _ _ first (of_decide_eq_true before))
  rw [findTree, lowerBoundFrom_eq none cut, Option.or_none, Option.filter_eq_some_iff, List.find?_eq_some_iff_append]
  constructor
  · rintro ⟨⟨notBefore, front, back, split, _⟩, notAfter⟩
    refine ⟨by rw [split]; simp, ?_⟩
    exact Std.Trichotomous.trichotomous _ _ (by simpa using notBefore) (by simpa using notAfter)
  · rintro ⟨member, rfl⟩
    obtain ⟨front, back, split⟩ := List.append_of_mem member
    have irrefl := Std.Irrefl.irrefl (r := lt) (key a)
    refine ⟨⟨by simpa using irrefl, front, back, split, fun b early => ?_⟩, by simpa using irrefl⟩
    rw [SortedTree, split, List.pairwise_append] at sorted
    simpa using sorted.2.2 b early a List.mem_cons_self

theorem inorder_insertLeaf_perm (less : α → α → Bool) (new : α) (t : BinaryTree α) :
    (inorder (insertLeaf less new t)).Perm (new :: inorder t) := by
  induction t with
  | nil => exact .refl _
  | node a left right ihLeft ihRight =>
    rw [insertLeaf, inorder]
    split
    · rw [inorder]
      exact ihLeft.append_right (a :: inorder right)
    · rw [inorder]
      exact (List.Perm.append_left _ ((ihRight.cons a).trans (.swap new a _))).trans List.perm_middle

theorem mem_insertLeaf {less : α → α → Bool} {new b : α} :
    b ∈ inorder (insertLeaf less new t) ↔ b = new ∨ b ∈ inorder t := by
  rw [(inorder_insertLeaf_perm less new t).mem_iff, List.mem_cons]

/-- **A new key keeps the order.** -/
theorem SortedTree.insertLeaf (sorted : SortedTree lt key t) {new : α}
    (fresh : ∀ b ∈ inorder t, key b ≠ key new) :
    SortedTree lt key (insertLeaf (fun a b => decide (lt (key a) (key b))) new t) := by
  induction t with
  | nil => exact List.pairwise_singleton _ new
  | node a left right ihLeft ihRight =>
    rw [SortedTree, inorder, List.pairwise_append, List.pairwise_cons] at sorted
    obtain ⟨sortedLeft, ⟨later, sortedRight⟩, across⟩ := sorted
    have freshLeft : ∀ b ∈ inorder left, key b ≠ key new :=
      fun b member => fresh b (by simp [inorder, member])
    have freshRight : ∀ b ∈ inorder right, key b ≠ key new :=
      fun b member => fresh b (by simp [inorder, member])
    rw [Logic.insertLeaf]
    split
    · rename_i less
      have first : lt (key new) (key a) := of_decide_eq_true less
      rw [SortedTree, inorder, List.pairwise_append, List.pairwise_cons]
      refine ⟨ihLeft sortedLeft freshLeft, ⟨later, sortedRight⟩, fun b member c onRight => ?_⟩
      rcases mem_insertLeaf.mp member with rfl | old
      · rcases List.mem_cons.mp onRight with rfl | onRight
        · exact first
        · exact IsTrans.trans (r := lt) _ _ _ first (later c onRight)
      · exact across b old c onRight
    · rename_i notLess
      have last : lt (key a) (key new) := by
        by_contra notLast
        refine fresh a (by simp [inorder]) (Std.Trichotomous.trichotomous _ _ notLast ?_)
        simpa using notLess
      rw [SortedTree, inorder, List.pairwise_append, List.pairwise_cons]
      refine ⟨sortedLeft, ⟨fun b member => ?_, ihRight sortedRight freshRight⟩, fun b member c onRight => ?_⟩
      · rcases mem_insertLeaf.mp member with rfl | old
        · exact last
        · exact later b old
      · rcases List.mem_cons.mp onRight with rfl | onRight
        · exact across b member c List.mem_cons_self
        · rcases mem_insertLeaf.mp onRight with rfl | old
          · exact IsTrans.trans (r := lt) _ _ _ (across b member a List.mem_cons_self) last
          · exact across b member c (List.mem_cons_of_mem a old)

end Keys

end Pop3Serv.Logic
