import Mathlib

/-!
# Containers made of nodes, and their iterators

A list or a set whose elements stand in nodes: an iterator names a node, not a
position, so it is kept by every insertion and by the erasure of another node, and
it is invalid from the erasure of its own on. The nodes carry the identities they
were given, none of them twice; an iterator is an identity or the end.
-/

namespace Pop3Serv.Logic

variable {α : Type*}

structure Nodes (α : Type*) where
  nodes : List (Nat × α)
  /-- the identity of the next node -/
  next : Nat
  below : ∀ node ∈ nodes, node.1 < next
  distinct : (nodes.map Prod.fst).Nodup

/-- The identity of a node, or the end. -/
abbrev Nodes.Iterator := Option Nat

namespace Nodes

def empty : Nodes α where
  nodes := []
  next := 0
  below := by simp
  distinct := List.nodup_nil

def elements (c : Nodes α) : List α := c.nodes.map Prod.snd

/-- A new node behind the others. -/
def insert (c : Nodes α) (a : α) : Nodes α where
  nodes := c.nodes ++ [(c.next, a)]
  next := c.next + 1
  below := by
    intro node member
    rcases List.mem_append.mp member with old | new
    · exact Nat.lt_succ_of_lt (c.below node old)
    · rw [List.mem_singleton.mp new]
      exact Nat.lt_succ_self _
  distinct := by
    rw [List.map_append, List.nodup_append]
    refine ⟨c.distinct, List.nodup_singleton _, ?_⟩
    intro identity old other new same
    obtain ⟨node, member, rfl⟩ := List.mem_map.mp old
    have here := c.below node member
    have there : other = c.next := List.mem_singleton.mp new
    omega

def ofList (as : List α) : Nodes α := as.foldl insert empty

/-- The first node whose element satisfies `p`. -/
def findIf (c : Nodes α) (p : α → Bool) : Iterator := (c.nodes.find? fun node => p node.2).map Prod.fst

/-- What `*it` reads, where `it` points to a node. -/
def deref (c : Nodes α) (it : Iterator) : Option α :=
  it.bind fun identity => (c.nodes.find? fun node => node.1 = identity).map Prod.snd

/-- The nodes that are kept by an erasure keep their identities. -/
def filter (c : Nodes α) (keep : Nat × α → Bool) : Nodes α where
  nodes := c.nodes.filter keep
  next := c.next
  below := fun node member => c.below node (List.mem_of_mem_filter member)
  distinct := c.distinct.sublist (List.filter_sublist.map Prod.fst)

def erase (c : Nodes α) (it : Iterator) : Nodes α := c.filter fun node => some node.1 ≠ it

def clear (c : Nodes α) : Nodes α := c.filter fun _ => false

/-! ## Elements -/

@[simp] theorem elements_empty : (empty : Nodes α).elements = [] := rfl

@[simp] theorem elements_insert (c : Nodes α) (a : α) : (c.insert a).elements = c.elements ++ [a] := by
  simp [elements, insert]

@[simp] theorem elements_clear (c : Nodes α) : c.clear.elements = [] := by
  simp [elements, clear, filter]

theorem elements_foldl_insert (as : List α) (c : Nodes α) :
    (as.foldl insert c).elements = c.elements ++ as := by
  induction as generalizing c with
  | nil => simp
  | cons a as ih => rw [List.foldl_cons, ih, elements_insert, List.append_assoc, List.singleton_append]

@[simp] theorem elements_ofList (as : List α) : (ofList as).elements = as := by
  rw [ofList, elements_foldl_insert, elements_empty, List.nil_append]

/-! ## Iterators -/

@[simp] theorem deref_end (c : Nodes α) : c.deref none = none := rfl

theorem deref_eq_some_iff (c : Nodes α) (identity : Nat) (a : α) :
    c.deref (some identity) = some a ↔ (identity, a) ∈ c.nodes := by
  constructor
  · intro read
    obtain ⟨node, found, rfl⟩ := Option.map_eq_some_iff.mp read
    have same : node.1 = identity := by simpa using List.find?_some found
    rw [← same]
    exact List.mem_of_find?_eq_some found
  · intro member
    have found : ((c.nodes.find? fun node => node.1 = identity).isSome) = true :=
      List.find?_isSome.mpr ⟨_, member, by simp⟩
    obtain ⟨node, found⟩ := Option.isSome_iff_exists.mp found
    have same : node.1 = identity := by simpa using List.find?_some found
    have one := List.inj_on_of_nodup_map c.distinct (List.mem_of_find?_eq_some found) member same
    simp [deref, found, one]

theorem deref_eq_none_iff (c : Nodes α) (identity : Nat) :
    c.deref (some identity) = none ↔ ∀ a, (identity, a) ∉ c.nodes := by
  simp only [Option.eq_none_iff_forall_ne_some, ne_eq, deref_eq_some_iff]

/-- A search ends at the end exactly where no element is found. -/
theorem findIf_eq_end_iff (c : Nodes α) (p : α → Bool) :
    c.findIf p = none ↔ ∀ a ∈ c.elements, p a = false := by
  unfold findIf elements
  rw [Option.map_eq_none_iff, List.find?_eq_none, List.forall_mem_map]
  simp

/-- **What a search found is what its iterator reads.** -/
theorem deref_findIf (c : Nodes α) (p : α → Bool) : c.deref (c.findIf p) = c.elements.find? p := by
  unfold findIf elements
  rw [List.find?_map]
  cases found : c.nodes.find? fun node => p node.2 with
  | none => simp [found]
  | some node =>
    rw [Option.map_some, (c.deref_eq_some_iff node.1 node.2).mpr (List.mem_of_find?_eq_some found)]
    simp [found]

/-- **An iterator is invalid once its node is erased**, and every other is as it was. -/
theorem deref_erase (c : Nodes α) (it it' : Iterator) :
    (c.erase it).deref it' = if it' = it then none else c.deref it' := by
  cases it' with
  | none => simp
  | some identity =>
    split
    · rename_i same
      apply ((c.erase it).deref_eq_none_iff identity).mpr
      intro a member
      simp [erase, filter, ← same] at member
    · rename_i differ
      apply Option.ext
      intro a
      rw [deref_eq_some_iff, deref_eq_some_iff]
      simp [erase, filter, differ]

@[simp] theorem deref_erase_self (c : Nodes α) (it : Iterator) : (c.erase it).deref it = none := by
  rw [deref_erase, if_pos rfl]

@[simp] theorem deref_clear (c : Nodes α) (it : Iterator) : c.clear.deref it = none := by
  cases it <;> simp [clear, filter, deref]

/-- **An insertion keeps every iterator**, the invalid ones invalid. -/
theorem deref_insert (c : Nodes α) (a : α) {identity : Nat} (old : identity < c.next) :
    (c.insert a).deref (some identity) = c.deref (some identity) := by
  apply Option.ext
  intro b
  rw [deref_eq_some_iff, deref_eq_some_iff]
  have differ : identity ≠ c.next := by omega
  simp [insert, differ]

/-- An iterator that reads something has an identity given before. -/
theorem lt_next_of_deref {c : Nodes α} {identity : Nat} {a : α} (read : c.deref (some identity) = some a) :
    identity < c.next :=
  c.below _ ((c.deref_eq_some_iff identity a).mp read)

/-- What is left when the first element found is erased. -/
theorem elements_erase_findIf (c : Nodes α) (p : α → Bool) :
    (c.erase (c.findIf p)).elements = c.elements.eraseP p := by
  have left : ∀ nodes : List (Nat × α), (nodes.map Prod.fst).Nodup →
      (nodes.filter fun node => decide (some node.1 ≠ (nodes.find? fun node => p node.2).map Prod.fst)).map
        Prod.snd = (nodes.map Prod.snd).eraseP p := by
    intro nodes distinct
    induction nodes with
    | nil => rfl
    | cons node nodes ih =>
      rw [List.map_cons, List.nodup_cons] at distinct
      by_cases here : p node.2 = true
      · -- the node found goes, and no other has its identity
        have others : nodes.filter (fun other => decide (some other.1 ≠ some node.1)) = nodes := by
          apply List.filter_eq_self.mpr
          intro other member
          have differ : other.1 ≠ node.1 := fun same => distinct.1 (same ▸ List.mem_map_of_mem member)
          simp [differ]
        have found : (node :: nodes).find? (fun node => p node.2) = some node := by simp [here]
        rw [found, Option.map_some, List.filter_cons_of_neg (by simp), others, List.map_cons,
          List.eraseP_cons_of_pos here]
      · have stays : some node.1 ≠ (nodes.find? fun node => p node.2).map Prod.fst := by
          intro same
          obtain ⟨other, found, same⟩ := Option.map_eq_some_iff.mp same.symm
          exact distinct.1 (same ▸ List.mem_map_of_mem (List.mem_of_find?_eq_some found))
        have passed : (node :: nodes).find? (fun node => p node.2) = nodes.find? fun node => p node.2 := by
          simp [here]
        rw [passed, List.filter_cons_of_pos (by simpa using stays), List.map_cons, ih distinct.2,
          List.map_cons, List.eraseP_cons_of_neg here]
  exact left c.nodes c.distinct

end Nodes

end Pop3Serv.Logic
