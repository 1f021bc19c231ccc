import Mathlib

/-!
# A table of names and its holders

Each member of a list holds some names, with multiplicity (`held`). A table is
`Exact` if it is, as a multiset, what all of them hold together: then a name is in
the table exactly if a member holds it, and as the table holds a name once, no two
members hold the same. A member that acquires a free name, releases one, or keeps
what it has leaves the table exact.
-/

namespace Pop3Serv.Logic

variable {α κ : Type*} {held : α → Multiset κ}

/-- What the members hold together. -/
def heldBy (held : α → Multiset κ) (members : List α) : Multiset κ := (members.map held).sum

/-- The table holds what the members hold. -/
def Exact (held : α → Multiset κ) (table : Finset κ) (members : List α) : Prop :=
  table.val = heldBy held members

theorem mem_heldBy {members : List α} {k : κ} :
    k ∈ heldBy held members ↔ ∃ a ∈ members, k ∈ held a := by
  unfold heldBy
  induction members with
  | nil => simp
  | cons a members ih => simp [ih]

/-- Replacing one member exchanges what it holds. -/
theorem heldBy_set (held : α → Multiset κ) {members : List α} {i : Nat} {a : α} (at_i : members[i]? = some a)
    (b : α) : heldBy held (members.set i b) + held a = heldBy held members + held b := by
  unfold heldBy
  induction members generalizing i with
  | nil => simp at at_i
  | cons x members ih =>
    cases i with
    | zero =>
      obtain rfl : x = a := by simpa using at_i
      simp only [List.set_cons_zero, List.map_cons, List.sum_cons]
      abel
    | succ i =>
      have rest := ih (i := i) (by simpa using at_i)
      simp only [List.set_cons_succ, List.map_cons, List.sum_cons]
      rw [add_assoc, rest, add_assoc]

/-- If nothing is held twice, two members with a name in common are one. -/
theorem eq_of_nodup_heldBy {members : List α} {i j : Nat} {a b : α} {k : κ}
    (nodup : (heldBy held members).Nodup) (at_i : members[i]? = some a) (at_j : members[j]? = some b)
    (mine : k ∈ held a) (yours : k ∈ held b) : i = j := by
  induction members generalizing i j with
  | nil => simp at at_i
  | cons x members ih =>
    have split : heldBy held (x :: members) = held x + heldBy held members := by simp [heldBy]
    rw [split, Multiset.nodup_add] at nodup
    obtain ⟨_, later, apart⟩ := nodup
    have elsewhere : ∀ {n : Nat} {c : α}, members[n]? = some c → k ∈ held c → k ∉ held x :=
      fun at_n his first => Multiset.disjoint_left.mp apart first
        (mem_heldBy.mpr ⟨_, List.mem_of_getElem? at_n, his⟩)
    cases i with
    | zero =>
      obtain rfl : x = a := by simpa using at_i
      cases j with
      | zero => rfl
      | succ j => exact absurd mine (elsewhere (by simpa using at_j) yours)
    | succ i =>
      cases j with
      | zero =>
        obtain rfl : x = b := by simpa using at_j
        exact absurd yours (elsewhere (by simpa using at_i) mine)
      | succ j => exact congrArg (· + 1) (ih later (by simpa using at_i) (by simpa using at_j))

namespace Exact

variable {table : Finset κ} {members : List α} {i : Nat} {a b : α} {k : κ}

theorem mem_iff (h : Exact held table members) : k ∈ table ↔ ∃ a ∈ members, k ∈ held a := by
  rw [← mem_heldBy, ← h]
  rfl

/-- **No two members hold the same name.** -/
theorem exclusive (h : Exact held table members) {j : Nat} (at_i : members[i]? = some a)
    (at_j : members[j]? = some b) (mine : k ∈ held a) (yours : k ∈ held b) : i = j :=
  eq_of_nodup_heldBy (h ▸ table.nodup) at_i at_j mine yours

theorem keep (h : Exact held table members) (at_i : members[i]? = some a) (same : held b = held a) :
    Exact held table (members.set i b) := by
  have exchanged := heldBy_set held at_i b
  rw [same] at exchanged
  exact h.trans (add_right_cancel exchanged).symm

theorem acquire [DecidableEq κ] (h : Exact held table members) (at_i : members[i]? = some a) (free : k ∉ table)
    (gains : held b = k ::ₘ held a) : Exact held (insert k table) (members.set i b) := by
  have exchanged := heldBy_set held at_i b
  rw [gains, Multiset.add_cons, ← Multiset.cons_add] at exchanged
  unfold Exact
  rw [Finset.insert_val_of_notMem free, h]
  exact (add_right_cancel exchanged).symm

theorem release [DecidableEq κ] (h : Exact held table members) (at_i : members[i]? = some a)
    (loses : held a = k ::ₘ held b) : Exact held (table.erase k) (members.set i b) := by
  have exchanged := heldBy_set held at_i b
  rw [loses, Multiset.add_cons, ← Multiset.cons_add] at exchanged
  unfold Exact
  rw [Finset.erase_val, h, ← add_right_cancel exchanged, Multiset.erase_cons_head]

theorem append (h : Exact held table members) (free : held a = 0) :
    Exact held table (members ++ [a]) := by
  have nothing : heldBy held (members ++ [a]) = heldBy held members := by simp [heldBy, free]
  exact h.trans nothing.symm

end Exact

end Pop3Serv.Logic
