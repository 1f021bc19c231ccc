import Mathlib.Data.List.Basic
import Mathlib.Data.List.TakeWhile

/-!
# Paths read as texts

A path is a sequence of components, two of which are not names: `dot` stays where it
is, and `up` takes back the component before it. Taken one by one they leave a stack
of names (`resolve`), below them the `up`s that found nothing to take back; from a root
there is nothing above, and these vanish. A sequence that takes back no more than it
has entered means the same wherever it starts (`resolve_append`).
-/

namespace Pop3Serv.Logic

/-- A path in normal form: whether it starts at the root, and its components, the innermost first. -/
structure LexicalPath (α : Type*) where
  rooted : Bool
  components : List α
  deriving DecidableEq

variable {α : Type*} [DecidableEq α] {dot up : α}

namespace LexicalPath

/-- One component more. -/
def enter (dot up : α) (rooted : Bool) (stack : List α) (component : α) : List α :=
  if component = dot then stack
  else if component = up then
    match stack with
    | [] => if rooted then [] else [up]
    | top :: rest => if top = up then up :: top :: rest else rest
  else component :: stack

def resolve (dot up : α) (rooted : Bool) (stack components : List α) : List α :=
  components.foldl (enter dot up rooted) stack

@[simp] theorem resolve_nil (rooted : Bool) (stack : List α) : resolve dot up rooted stack [] = stack := rfl

theorem resolve_cons (rooted : Bool) (stack : List α) (component : α) (components : List α) :
    resolve dot up rooted stack (component :: components) =
      resolve dot up rooted (enter dot up rooted stack component) components := rfl

/-- A name is entered. -/
theorem enter_name {component : α} (notDot : component ≠ dot) (notUp : component ≠ up) (rooted : Bool)
    (stack : List α) : enter dot up rooted stack component = component :: stack := by
  unfold enter
  rw [if_neg notDot, if_neg notUp]

/-- An `up` that found nothing to take back is never taken back itself. -/
theorem up_mem_resolve {stack components : List α} (there : up ∈ stack) :
    up ∈ resolve dot up false stack components := by
  induction components generalizing stack with
  | nil => exact there
  | cons component components ih =>
    apply ih
    unfold enter
    split
    · exact there
    · split
      · cases stack with
        | nil => exact absurd there List.not_mem_nil
        | cons top rest =>
          simp only
          split
          · exact List.mem_cons_self
          · rename_i name
            exact (List.mem_cons.mp there).resolve_left (Ne.symm name)
      · exact List.mem_cons_of_mem _ there

/-- **Components that take back no more than they have entered** leave what they leave on an empty
stack, on top of whatever was there before. -/
theorem resolve_append {stack components : List α}
    (inside : up ∉ resolve dot up false stack components) (rooted : Bool) (below : List α) :
    resolve dot up rooted (stack ++ below) components = resolve dot up false stack components ++ below := by
  induction components generalizing stack with
  | nil => rfl
  | cons component components ih =>
    rw [resolve_cons] at inside ⊢
    rw [resolve_cons, ← ih inside]
    congr 1
    unfold enter at inside ⊢
    split
    · rfl
    · rename_i notDot
      rw [if_neg notDot] at inside
      split
      · rename_i isUp
        rw [if_pos isUp] at inside
        cases stack with
        | nil => exact absurd (up_mem_resolve (by simp)) inside
        | cons top rest =>
          simp only [List.cons_append]
          split <;> rfl
      · rfl

/-- `child` is the directory `parent` with one name added. -/
def IsChild (up : α) (parent child : LexicalPath α) : Prop :=
  child.rooted = parent.rooted ∧ ∃ name, name ≠ up ∧ child.components = name :: parent.components

end LexicalPath

end Pop3Serv.Logic
