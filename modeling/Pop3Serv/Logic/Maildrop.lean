import Pop3Serv.Logic.Blocks

/-!
# Numbered messages with deferred deletion

A drop is a list of messages, numbered by their places. A deletion marks a message
and renumbers nothing, and a mark can be taken back. `step` answers one command. A
listing is known by its entries, which come with increasing numbers (`eq_listing`).
-/

namespace Pop3Serv.Logic

/-- The messages in the order of their numbers, each with its mark. -/
abbrev Maildrop (α : Type*) := List (α × Bool)

namespace Maildrop

variable {α : Type*} {size : α → Nat}

inductive Ask where
  | stat
  | list
  | listOne (n : Nat)
  | retr (n : Nat)
  | dele (n : Nat)
  | deleteAll
  | rset
  | other
  deriving DecidableEq, Repr

inductive Reply (α : Type*) where
  | totals (count total : Nat)
  | listing (entries : List (Nat × Nat))
  | one (n length : Nat)
  | message (a : α)
  | noSuchMessage
  | line
  deriving DecidableEq, Repr

/-- The replies a command can have. -/
inductive Reply.Answers : Ask → Reply α → Prop
  | stat (count total : Nat) : Answers .stat (.totals count total)
  | list (entries : List (Nat × Nat)) : Answers .list (.listing entries)
  | listOne (n length : Nat) : Answers (.listOne n) (.one n length)
  | listNone (n : Nat) : Answers (.listOne n) .noSuchMessage
  | retr (n : Nat) (a : α) : Answers (.retr n) (.message a)
  | retrNone (n : Nat) : Answers (.retr n) .noSuchMessage
  | dele (n count total : Nat) : Answers (.dele n) (.totals count total)
  | deleNone (n : Nat) : Answers (.dele n) .noSuchMessage
  | deleteAll : Answers .deleteAll .line
  | rset (count total : Nat) : Answers .rset (.totals count total)
  | other : Answers .other .line

/-- Messages of which none is marked. -/
def unmarked (messages : List α) : Maildrop α := messages.map fun a => (a, false)

/-- The message with this number, unless it is marked. -/
def message? (drop : Maildrop α) (n : Nat) : Option α :=
  drop[n]?.bind fun e => if e.2 then none else some e.1

/-- Number and size of every message left, the first of them numbered `first`. -/
def listingFrom (size : α → Nat) : Nat → Maildrop α → List (Nat × Nat)
  | _, [] => []
  | first, (_, true) :: rest => listingFrom size (first + 1) rest
  | first, (a, false) :: rest => (first, size a) :: listingFrom size (first + 1) rest

def listing (size : α → Nat) (drop : Maildrop α) : List (Nat × Nat) := listingFrom size 0 drop

/-- How many messages are left. -/
def count (drop : Maildrop α) : Nat := remaining Prod.snd drop

/-- The sizes of the messages left, added up. -/
def total (size : α → Nat) (drop : Maildrop α) : Nat :=
  ((drop.filter fun e => !e.2).map fun e => size e.1).sum

def mark (drop : Maildrop α) (n : Nat) : Maildrop α := drop.modify n fun e => (e.1, true)

def markAll (drop : Maildrop α) : Maildrop α := drop.map fun e => (e.1, true)

def reset (drop : Maildrop α) : Maildrop α := drop.map fun e => (e.1, false)

def totals (size : α → Nat) (drop : Maildrop α) : Reply α := .totals drop.count (drop.total size)

/-- One command: the reply, and the drop it leaves. -/
def step (size : α → Nat) (drop : Maildrop α) : Ask → Reply α × Maildrop α
  | .stat => (drop.totals size, drop)
  | .list => (.listing (drop.listing size), drop)
  | .listOne n => ((drop.message? n).elim .noSuchMessage fun a => .one n (size a), drop)
  | .retr n => ((drop.message? n).elim .noSuchMessage .message, drop)
  | .dele n =>
    if (drop.message? n).isSome then ((drop.mark n).totals size, drop.mark n) else (.noSuchMessage, drop)
  | .deleteAll => (.line, drop.markAll)
  | .rset => (drop.reset.totals size, drop.reset)
  | .other => (.line, drop)

/-- The replies to a list of commands, and the drop they leave. -/
def run (size : α → Nat) (drop : Maildrop α) : List Ask → List (Reply α) × Maildrop α
  | [] => ([], drop)
  | ask :: asks =>
    ((drop.step size ask).1 :: ((drop.step size ask).2.run size asks).1, ((drop.step size ask).2.run size asks).2)

/-- Every deletion asks for the last message left, or for one past it. -/
def DeletesLast (size : α → Nat) (drop : Maildrop α) : List Ask → Prop
  | [] => True
  | ask :: asks => (∀ n, ask = .dele n → drop.count ≤ n + 1) ∧ (drop.step size ask).2.DeletesLast size asks

theorem run_append (drop : Maildrop α) (asks later : List Ask) :
    drop.run size (asks ++ later) =
      ((drop.run size asks).1 ++ ((drop.run size asks).2.run size later).1,
        ((drop.run size asks).2.run size later).2) := by
  induction asks generalizing drop with
  | nil => rfl
  | cons ask asks ih =>
    rw [List.cons_append, run, run, ih]
    rfl

theorem deletesLast_append {drop : Maildrop α} {asks later : List Ask} :
    drop.DeletesLast size (asks ++ later) ↔
      drop.DeletesLast size asks ∧ (drop.run size asks).2.DeletesLast size later := by
  induction asks generalizing drop with
  | nil => exact (and_iff_right trivial).symm
  | cons ask asks ih =>
    rw [List.cons_append, DeletesLast, DeletesLast, ih, and_assoc]
    rfl

theorem message?_eq_some_iff {drop : Maildrop α} {n : Nat} {a : α} :
    drop.message? n = some a ↔ drop[n]? = some (a, false) := by
  unfold message?
  cases drop[n]? with
  | none => simp
  | some e =>
    obtain ⟨b, mark⟩ := e
    cases mark <;> simp

theorem mark_eq_set {drop : Maildrop α} {n : Nat} {a : α} {marked : Bool} (place : drop[n]? = some (a, marked)) :
    drop.mark n = drop.set n (a, true) := by
  rw [mark, List.modify_eq_set_getElem?, place]
  rfl

theorem map_fst_mark (drop : Maildrop α) (n : Nat) : (drop.mark n).map Prod.fst = drop.map Prod.fst := by
  refine List.ext_getElem? fun i => ?_
  rw [List.getElem?_map, List.getElem?_map, mark, List.getElem?_modify]
  cases drop[i]? <;> simp [apply_ite Prod.fst]

/-- A command changes marks only. -/
theorem map_fst_step (drop : Maildrop α) (ask : Ask) : (drop.step size ask).2.map Prod.fst = drop.map Prod.fst := by
  cases ask with
  | dele n =>
    simp only [step]
    split
    · exact map_fst_mark drop n
    · rfl
  | deleteAll => simp [step, markAll]
  | rset => simp [step, reset]
  | _ => rfl

theorem answers_step (drop : Maildrop α) (ask : Ask) : (drop.step size ask).1.Answers ask := by
  cases ask with
  | listOne n =>
    simp only [step]
    cases drop.message? n with
    | none => exact .listNone n
    | some a => exact .listOne n (size a)
  | retr n =>
    simp only [step]
    cases drop.message? n with
    | none => exact .retrNone n
    | some a => exact .retr n a
  | dele n =>
    simp only [step]
    split
    · exact .dele n _ _
    · exact .deleNone n
  | stat => exact .stat _ _
  | list => exact .list _
  | deleteAll => exact .deleteAll
  | rset => exact .rset _ _
  | other => exact .other

theorem answers_run (drop : Maildrop α) (asks : List Ask) :
    List.Forall₂ (fun ask reply => Reply.Answers ask reply) asks (drop.run size asks).1 := by
  induction asks generalizing drop with
  | nil => exact .nil
  | cons ask asks ih => exact .cons (answers_step drop ask) (ih _)

/-- A message replied is one of the drop. -/
theorem message_mem_run {drop : Maildrop α} {asks : List Ask} {a : α} (replied : .message a ∈ (drop.run size asks).1) :
    a ∈ drop.map Prod.fst := by
  induction asks generalizing drop with
  | nil => exact absurd replied List.not_mem_nil
  | cons ask asks ih =>
    rcases List.mem_cons.mp replied with now | later
    · cases ask with
      | retr n =>
        simp only [step] at now
        cases found : drop.message? n with
        | none =>
          rw [found] at now
          cases now
        | some b =>
          rw [found] at now
          cases now
          exact List.mem_map.mpr ⟨_, List.mem_of_getElem? (message?_eq_some_iff.mp found), rfl⟩
      | listOne n =>
        simp only [step] at now
        cases found : drop.message? n <;> (rw [found] at now; cases now)
      | dele n =>
        simp only [step] at now
        split at now <;> cases now
      | _ => cases now
    · exact map_fst_step drop ask ▸ ih later

/-! ## Listings -/

theorem mem_listingFrom_iff {first k l : Nat} {drop : Maildrop α} :
    (k, l) ∈ listingFrom size first drop ↔ ∃ i a, drop[i]? = some (a, false) ∧ k = first + i ∧ size a = l := by
  induction drop generalizing first with
  | nil => simp [listingFrom]
  | cons e rest ih =>
    obtain ⟨a, mark⟩ := e
    -- a place in the list is the first, or a place in the rest
    have places : (∃ i b, ((a, mark) :: rest)[i]? = some (b, false) ∧ k = first + i ∧ size b = l) ↔
        (mark = false ∧ k = first ∧ size a = l) ∨
          ∃ i b, rest[i]? = some (b, false) ∧ k = first + 1 + i ∧ size b = l := by
      constructor
      · rintro ⟨i, b, place, number, length⟩
        cases i with
        | zero =>
          cases place
          exact .inl ⟨rfl, number, length⟩
        | succ i => exact .inr ⟨i, b, place, by omega, length⟩
      · rintro (⟨rfl, number, length⟩ | ⟨i, b, place, number, length⟩)
        · exact ⟨0, a, rfl, number, length⟩
        · exact ⟨i + 1, b, place, by omega, length⟩
    rw [places]
    cases mark with
    | true => simp [listingFrom, ih]
    | false => simp [listingFrom, ih, eq_comm]

/-- A listing has the messages left, under their numbers. -/
theorem mem_listing_iff {k l : Nat} {drop : Maildrop α} :
    (k, l) ∈ drop.listing size ↔ (drop.message? k).map size = some l := by
  rw [listing, mem_listingFrom_iff, Option.map_eq_some_iff]
  simp only [message?_eq_some_iff, Nat.zero_add]
  constructor
  · rintro ⟨i, a, place, rfl, length⟩
    exact ⟨a, place, length⟩
  · rintro ⟨a, place, length⟩
    exact ⟨k, a, place, rfl, length⟩

theorem increasing_listing (drop : Maildrop α) : (drop.listing size).Pairwise fun p q => p.1 < q.1 := by
  suffices all : ∀ first, (listingFrom size first drop).Pairwise fun p q => p.1 < q.1 from all 0
  induction drop with
  | nil => exact fun _ => .nil
  | cons e rest ih =>
    intro first
    obtain ⟨a, mark⟩ := e
    cases mark with
    | true => exact ih (first + 1)
    | false =>
      refine .cons (fun p later => ?_) (ih (first + 1))
      obtain ⟨i, _, _, number, _⟩ := mem_listingFrom_iff.mp (show (p.1, p.2) ∈ _ from later)
      show first < p.1
      omega

/-- **The listing is the one** with increasing numbers and these entries. -/
theorem eq_listing {drop : Maildrop α} {entries : List (Nat × Nat)}
    (increasing : entries.Pairwise fun p q => p.1 < q.1)
    (same : ∀ k l, (k, l) ∈ entries ↔ (drop.message? k).map size = some l) : entries = drop.listing size := by
  have nodup : ∀ xs : List (Nat × Nat), (xs.Pairwise fun p q => p.1 < q.1) → xs.Nodup := fun xs h =>
    h.imp fun before e => by rw [e] at before; omega
  have perm : entries.Perm (drop.listing size) :=
    (List.perm_ext_iff_of_nodup (nodup _ increasing) (nodup _ (increasing_listing drop))).mpr fun p =>
      (same p.1 p.2).trans mem_listing_iff.symm
  refine perm.eq_of_pairwise (fun p q _ _ before after => ?_) increasing (increasing_listing drop)
  omega

theorem length_listing (drop : Maildrop α) : (drop.listing size).length = drop.count := by
  suffices all : ∀ first, (listingFrom size first drop).length = drop.count from all 0
  induction drop with
  | nil => exact fun _ => rfl
  | cons e rest ih =>
    intro first
    obtain ⟨a, mark⟩ := e
    cases mark <;> simpa [listingFrom, count, remaining] using ih (first + 1)

theorem sum_listing (drop : Maildrop α) : ((drop.listing size).map Prod.snd).sum = drop.total size := by
  suffices all : ∀ first, ((listingFrom size first drop).map Prod.snd).sum = drop.total size from all 0
  induction drop with
  | nil => exact fun _ => rfl
  | cons e rest ih =>
    intro first
    obtain ⟨a, mark⟩ := e
    cases mark <;> simpa [listingFrom, total] using ih (first + 1)

/-! ## Taking everything -/

/-- The message a reply carries. -/
def Reply.content : Reply α → Option α
  | .message a => some a
  | _ => none

/-- Every message is retrieved and deleted, from the last to the first. -/
def takeDown : Nat → List Ask
  | 0 => []
  | n + 1 => .retr n :: .dele n :: takeDown n

/-- Messages are retrieved and deleted, from one number upwards. -/
def takeUp : Nat → Nat → List Ask
  | _, 0 => []
  | first, n + 1 => .retr first :: .dele first :: takeUp (first + 1) n

/-- The first messages are left, the others have been taken. -/
def taken (front back : List α) : Maildrop α := unmarked front ++ back.map fun a => (a, true)

theorem count_taken (front back : List α) : (taken front back).count = front.length := by
  simp [taken, count, remaining, unmarked, List.countP_map, Function.comp_def]

theorem message?_taken (front : List α) (a : α) (back : List α) :
    (taken (front ++ [a]) back).message? front.length = some a := by
  rw [message?_eq_some_iff]
  simp [taken, unmarked]

theorem mark_taken (front : List α) (a : α) (back : List α) :
    (taken (front ++ [a]) back).mark front.length = taken front (a :: back) := by
  have place := message?_eq_some_iff.mp (message?_taken front a back)
  rw [mark_eq_set place]
  simp [taken, unmarked]

theorem snd_taken {back : List α} {n : Nat} (inside : n < back.length) :
    ((taken [] back)[n]?).map Prod.snd = some true := by
  simp [taken, unmarked, inside]

/-- **Taking down** leaves nothing, gives each message once, and deletes the last one left each time. -/
theorem run_takeDown (front back : List α) :
    ((taken front back).run size (takeDown front.length)).1.filterMap Reply.content = front.reverse ∧
      ((taken front back).run size (takeDown front.length)).2 = taken [] (front ++ back) ∧
      (taken front back).DeletesLast size (takeDown front.length) := by
  induction front using List.reverseRecOn generalizing back with
  | nil => exact ⟨rfl, rfl, trivial⟩
  | append_singleton front a ih =>
    obtain ⟨replies, left, last⟩ := ih (a :: back)
    have retr : (taken (front ++ [a]) back).step size (.retr front.length) =
        (.message a, taken (front ++ [a]) back) := by
      rw [step, message?_taken]
      rfl
    have dele : (taken (front ++ [a]) back).step size (.dele front.length) =
        ((taken front (a :: back)).totals size, taken front (a :: back)) := by
      simp only [step, message?_taken, Option.isSome_some, if_true, mark_taken]
    rw [List.length_append, List.length_singleton, takeDown]
    simp only [run, DeletesLast, retr, dele]
    refine ⟨?_, ?_, ?_, ?_, last⟩
    · rw [List.reverse_append, ← replies]
      rfl
    · rw [left, List.append_assoc]
      rfl
    · intro n same
      cases same
    · intro n same
      cases same
      rw [count_taken]
      simp

end Maildrop

end Pop3Serv.Logic
