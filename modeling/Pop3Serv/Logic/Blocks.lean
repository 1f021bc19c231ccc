import Mathlib

/-!
# Numbering a sequence of blocks

A sequence is kept as a list of blocks and a number is resolved by walking the
blocks with a count for each (`locateBy`). With the lengths as counts the walk
finds the element at that position of the concatenation. With the counts of what
*remains* in each block (the elements that are not `gone`) it finds the right
element for every number that is left exactly when what is gone is gone from the
end (`GoneLast`). Taken from the front, elements are stepped over, but none is found
twice (`LiveAhead`).
-/

namespace Pop3Serv.Logic

section Locate

variable {β : Type*} (count : β → Nat)

/-- Walk the blocks: the block a number falls into, its position, and the number inside it. -/
def locateBy : List β → Nat → Option (Nat × β × Nat)
  | [], _ => none
  | b :: bs, n =>
    if n < count b then some (0, b, n)
    else (locateBy bs (n - count b)).map fun found => (found.1 + 1, found.2.1, found.2.2)

/-- The sum of the counts before block `k`. -/
def offsetOf (bs : List β) (k : Nat) : Nat := ((bs.take k).map count).sum

variable {count}

@[simp] theorem offsetOf_zero (bs : List β) : offsetOf count bs 0 = 0 := by simp [offsetOf]

@[simp] theorem offsetOf_cons_succ (b : β) (bs : List β) (k : Nat) :
    offsetOf count (b :: bs) (k + 1) = count b + offsetOf count bs k := by simp [offsetOf]

/-- **The walk decomposes a number**: into a block, and a place below its count. -/
theorem locateBy_eq_some_iff {bs : List β} {n k r : Nat} {b : β} :
    locateBy count bs n = some (k, b, r) ↔
      bs[k]? = some b ∧ r < count b ∧ offsetOf count bs k + r = n := by
  induction bs generalizing n k with
  | nil => simp [locateBy]
  | cons c bs ih =>
    by_cases inside : n < count c
    · cases k with
      | zero =>
        simp only [locateBy, inside, if_true, Option.some.injEq, Prod.mk.injEq, true_and,
          List.getElem?_cons_zero, offsetOf_zero, Nat.zero_add]
        constructor
        · rintro ⟨rfl, rfl⟩
          exact ⟨rfl, inside, rfl⟩
        · rintro ⟨rfl, _, rfl⟩
          exact ⟨rfl, rfl⟩
      | succ k =>
        simp only [locateBy, inside, if_true, offsetOf_cons_succ]
        constructor
        · rintro ⟨⟩
        · rintro ⟨_, _, sum⟩
          omega
    · cases k with
      | zero =>
        simp only [locateBy, inside, if_false, List.getElem?_cons_zero, offsetOf_zero, Nat.zero_add]
        constructor
        · intro h
          simp at h
        · rintro ⟨same, below, rfl⟩
          cases same
          exact absurd below inside
      | succ k =>
        have walked : locateBy count (c :: bs) n = some (k + 1, b, r) ↔
            locateBy count bs (n - count c) = some (k, b, r) := by
          simp only [locateBy, inside, if_false, Option.map_eq_some_iff, Prod.mk.injEq,
            Nat.add_right_cancel_iff]
          constructor
          · rintro ⟨⟨k', b', r'⟩, found, rfl, rfl, rfl⟩
            exact found
          · intro found
            exact ⟨(k, b, r), found, rfl, rfl, rfl⟩
        rw [walked, ih]
        simp only [List.getElem?_cons_succ, offsetOf_cons_succ]
        have shift : offsetOf count bs k + r = n - count c ↔ count c + offsetOf count bs k + r = n := by
          omega
        rw [shift]

theorem locateBy_eq_none_iff {bs : List β} {n : Nat} :
    locateBy count bs n = none ↔ (bs.map count).sum ≤ n := by
  induction bs generalizing n with
  | nil => simp [locateBy]
  | cons c bs ih =>
    by_cases inside : n < count c
    · simp [locateBy, inside]
      omega
    · simp only [locateBy, inside, if_false, Option.map_eq_none_iff, ih, List.map_cons, List.sum_cons]
      omega

theorem offsetOf_add_lt {bs : List β} {k r : Nat} {b : β} (block : bs[k]? = some b)
    (below : r < count b) : offsetOf count bs k + r < (bs.map count).sum := by
  by_contra past
  have := locateBy_eq_none_iff.mpr (Nat.le_of_not_lt past)
  rw [locateBy_eq_some_iff.mpr ⟨block, below, rfl⟩] at this
  cases this

theorem locateBy_congr {count' : β → Nat} {bs : List β} (same : ∀ b ∈ bs, count b = count' b) (n : Nat) :
    locateBy count bs n = locateBy count' bs n := by
  induction bs generalizing n with
  | nil => rfl
  | cons c bs ih =>
    rw [locateBy, locateBy, same c (by simp), ih fun b hb => same b (by simp [hb])]

theorem locateBy_map {γ : Type*} (f : γ → β) (bs : List γ) (n : Nat) :
    locateBy count (bs.map f) n =
      (locateBy (fun b => count (f b)) bs n).map fun found => (found.1, f found.2.1, found.2.2) := by
  induction bs generalizing n with
  | nil => rfl
  | cons c bs ih =>
    rw [List.map_cons, locateBy, locateBy, ih]
    split
    · rfl
    · simp [Option.map_map, Function.comp_def]

end Locate

section Flatten

variable {α : Type*}

/-- Counted by lengths, the walk finds the element of the concatenation. -/
theorem flatten_getElem?_offsetOf {bs : List (List α)} {k r : Nat} {b : List α}
    (block : bs[k]? = some b) (below : r < b.length) :
    bs.flatten[offsetOf List.length bs k + r]? = b[r]? := by
  induction bs generalizing k with
  | nil => simp at block
  | cons c bs ih =>
    cases k with
    | zero =>
      cases block
      simp [List.getElem?_append_left, below]
    | succ k =>
      have rest := ih (by simpa using block)
      rw [offsetOf_cons_succ, List.flatten_cons, List.getElem?_append_right (by omega)]
      rw [← rest]
      congr 1
      omega

/-- Replacing one element of one block replaces it in the concatenation. -/
theorem flatten_set_offsetOf {bs : List (List α)} {k r : Nat} {b : List α}
    (block : bs[k]? = some b) (below : r < b.length) (x : α) :
    (bs.set k (b.set r x)).flatten = bs.flatten.set (offsetOf List.length bs k + r) x := by
  induction bs generalizing k with
  | nil => simp at block
  | cons c bs ih =>
    cases k with
    | zero =>
      cases block
      simp [List.set_append_left _ _ below]
    | succ k =>
      rw [List.set_cons_succ, List.flatten_cons, ih (by simpa using block), List.flatten_cons,
        offsetOf_cons_succ, List.set_append_right _ _ (by omega)]
      congr 2
      omega

end Flatten

section Gone

variable {α : Type*} (gone : α → Bool)

/-- How many elements are not gone. -/
def remaining (l : List α) : Nat := l.countP fun a => !gone a

/-- Whatever is gone is followed only by what is gone. -/
def GoneLast (l : List α) : Prop := l.Pairwise fun a b => gone a = true → gone b = true

variable {gone}

theorem remaining_append (l m : List α) : remaining gone (l ++ m) = remaining gone l + remaining gone m :=
  List.countP_append

theorem remaining_flatten (bs : List (List α)) :
    remaining gone bs.flatten = (bs.map (remaining gone)).sum := by
  induction bs with
  | nil => rfl
  | cons b bs ih => simp [remaining_append, ih]

theorem remaining_take_add_drop (l : List α) (n : Nat) :
    remaining gone (l.take n) + remaining gone (l.drop n) = remaining gone l := by
  rw [← remaining_append, List.take_append_drop]

theorem remaining_le_length (l : List α) : remaining gone l ≤ l.length := List.countP_le_length

theorem remaining_eq_zero {l : List α} : remaining gone l = 0 ↔ ∀ a ∈ l, gone a = true := by
  simp [remaining, List.countP_eq_zero]

theorem remaining_eq_length {l : List α} :
    remaining gone l = l.length ↔ ∀ a ∈ l, gone a = false := by
  simp [remaining, List.countP_eq_length]

/-- Nothing is gone below the number of elements that remain. -/
theorem GoneLast.live_of_lt {l : List α} (last : GoneLast gone l) {n : Nat} {a : α}
    (below : n < remaining gone l) (at_n : l[n]? = some a) : gone a = false := by
  induction l generalizing n with
  | nil => simp at at_n
  | cons x l ih =>
    obtain ⟨head, tail⟩ := List.pairwise_cons.mp last
    cases hx : gone x with
    | true =>
      have none_left : remaining gone (x :: l) = 0 :=
        remaining_eq_zero.mpr fun b hb => by
          rcases List.mem_cons.mp hb with rfl | hb
          · exact hx
          · exact head b hb hx
      omega
    | false =>
      cases n with
      | zero =>
        cases at_n
        exact hx
      | succ n =>
        refine ih tail ?_ (by simpa using at_n)
        simp only [remaining, List.countP_cons, hx, Bool.not_false, if_true] at below ⊢
        omega

/-- A list that is live up to some place and gone from there on. -/
theorem goneLast_append {front back : List α} (live : ∀ a ∈ front, gone a = false)
    (dead : ∀ a ∈ back, gone a = true) : GoneLast gone (front ++ back) := by
  rw [GoneLast, List.pairwise_append]
  refine ⟨?_, ?_, ?_⟩
  · refine List.Pairwise.imp_of_mem (fun ha _ _ h => ?_) (List.pairwise_of_forall fun _ _ => trivial)
    rw [live _ ha] at h
    cases h
  · exact List.Pairwise.imp_of_mem (fun _ hb _ _ => dead _ hb)
      (List.pairwise_of_forall fun _ _ => trivial)
  · intro a ha b _ h
    rw [live a ha] at h
    cases h

/-- If every element before the number that remains is live, what is gone is last. -/
theorem goneLast_of_live {l : List α}
    (live : ∀ n a, n < remaining gone l → l[n]? = some a → gone a = false) : GoneLast gone l := by
  have split := List.take_append_drop (remaining gone l) l
  have front : ∀ a ∈ l.take (remaining gone l), gone a = false := by
    intro a ha
    obtain ⟨n, hn⟩ := List.mem_iff_getElem?.mp ha
    rw [List.getElem?_take] at hn
    split at hn
    · exact live n a ‹_› hn
    · cases hn
  -- the front accounts for everything that remains, so the rest is gone
  have back : ∀ a ∈ l.drop (remaining gone l), gone a = true := by
    have total : remaining gone (l.take (remaining gone l)) + remaining gone (l.drop (remaining gone l)) =
        remaining gone l := remaining_take_add_drop l _
    rw [remaining_eq_length.mpr front, List.length_take,
      Nat.min_eq_left (remaining_le_length l)] at total
    exact remaining_eq_zero.mp (by omega)
  rw [← split]
  exact goneLast_append front back

/-- If everything live is before the number that remains, what is gone is last. -/
theorem goneLast_of_lt {l : List α}
    (low : ∀ n a, l[n]? = some a → gone a = false → n < remaining gone l) : GoneLast gone l := by
  have split := List.take_append_drop (remaining gone l) l
  have back : ∀ a ∈ l.drop (remaining gone l), gone a = true := by
    intro a ha
    obtain ⟨n, hn⟩ := List.mem_iff_getElem?.mp ha
    rw [List.getElem?_drop] at hn
    cases ga : gone a with
    | true => rfl
    | false =>
      have := low _ a hn ga
      omega
  -- nothing remains in the back, so the front has as many live elements as places
  have front : ∀ a ∈ l.take (remaining gone l), gone a = false := by
    have total : remaining gone (l.take (remaining gone l)) + remaining gone (l.drop (remaining gone l)) =
        remaining gone l := remaining_take_add_drop l _
    rw [remaining_eq_zero.mpr back, Nat.add_zero] at total
    refine remaining_eq_length.mp ?_
    rw [List.length_take, Nat.min_eq_left (remaining_le_length l)]
    exact total
  rw [← split]
  exact goneLast_append front back

/-- At or past the number that remains everything is gone. -/
theorem GoneLast.gone_of_le {l : List α} (last : GoneLast gone l) {n : Nat} {a : α}
    (past : remaining gone l ≤ n) (at_n : l[n]? = some a) : gone a = true := by
  induction l generalizing n with
  | nil => simp at at_n
  | cons x l ih =>
    obtain ⟨head, tail⟩ := List.pairwise_cons.mp last
    cases hx : gone x with
    | true =>
      rcases List.mem_cons.mp (List.mem_of_getElem? at_n) with rfl | hb
      · exact hx
      · exact head a hb hx
    | false =>
      simp only [remaining, List.countP_cons, hx, Bool.not_false, if_true] at past
      cases n with
      | zero => omega
      | succ n => exact ih tail (Nat.le_of_succ_le_succ past) (by simpa using at_n)

/-- Taking one more element away keeps what is gone last exactly for the last one left. -/
theorem GoneLast.set_iff {l : List α} (last : GoneLast gone l) {n : Nat} {x : α}
    (below : n < remaining gone l) (hx : gone x = true) :
    GoneLast gone (l.set n x) ↔ remaining gone l ≤ n + 1 := by
  have fits : remaining gone l ≤ l.length := remaining_le_length l
  rw [GoneLast, List.pairwise_iff_getElem]
  constructor
  · intro h
    by_contra more
    have inside : n + 1 < l.length := by omega
    have next := h n (n + 1) (by simp; omega) (by simpa using inside) (by omega)
    simp only [List.getElem_set_self, List.getElem_set_ne (show n ≠ n + 1 by omega)] at next
    rw [last.live_of_lt (by omega) (List.getElem?_eq_getElem inside)] at next
    exact absurd (next hx) (by simp)
  · intro enough i j hi hj before
    rw [List.length_set] at hi hj
    rw [List.getElem_set, List.getElem_set]
    by_cases atJ : n = j
    · simp [atJ, hx]
    · rw [if_neg atJ]
      by_cases atI : n = i
      · intro _
        exact last.gone_of_le (by omega) (List.getElem?_eq_getElem hj)
      · rw [if_neg atI]
        exact List.pairwise_iff_getElem.mp last i j hi hj before

theorem goneLast_flatten_cons {b : List α} {bs : List (List α)} :
    GoneLast gone (b :: bs).flatten ↔
      GoneLast gone b ∧ GoneLast gone bs.flatten ∧
        ((∃ a ∈ b, gone a = true) → ∀ a ∈ bs.flatten, gone a = true) := by
  rw [List.flatten_cons, GoneLast, List.pairwise_append]
  constructor
  · rintro ⟨hb, hbs, across⟩
    exact ⟨hb, hbs, fun ⟨a, ha, ga⟩ c hc => across a ha c hc ga⟩
  · rintro ⟨hb, hbs, across⟩
    exact ⟨hb, hbs, fun a ha c hc ga => across ⟨a, ha, ga⟩ c hc⟩

/-- **The walk by what remains is right when what is gone is last**: it finds the element of
the concatenation with the number it is given. -/
theorem GoneLast.locateBy_remaining {bs : List (List α)} (last : GoneLast gone bs.flatten)
    {n k r : Nat} {b : List α} (found : locateBy (remaining gone) bs n = some (k, b, r)) :
    offsetOf List.length bs k + r = n := by
  induction bs generalizing n k with
  | nil => simp [locateBy] at found
  | cons c bs ih =>
    obtain ⟨_, tail, across⟩ := goneLast_flatten_cons.mp last
    obtain ⟨block, below, sum⟩ := locateBy_eq_some_iff.mp found
    cases k with
    | zero => simpa using sum
    | succ k =>
      rw [offsetOf_cons_succ] at sum ⊢
      rw [List.getElem?_cons_succ] at block
      -- the block found has something left, so nothing is gone from the blocks before it
      have rest := ih tail (locateBy_eq_some_iff.mpr ⟨block, below, rfl⟩)
      have whole : remaining gone c = c.length := by
        refine remaining_eq_length.mpr fun a ha => ?_
        cases ga : gone a with
        | false => rfl
        | true =>
          have all := across ⟨a, ha, ga⟩
          have : remaining gone b = 0 := remaining_eq_zero.mpr fun x hx =>
            all x (List.mem_flatten.mpr ⟨b, List.mem_of_getElem? block, hx⟩)
          omega
      omega

/-- Distinct positions below `n` leave `n` minus their number of positions. -/
theorem countP_range_not_contains {marks : List Nat} {n : Nat} (nodup : marks.Nodup)
    (inRange : ∀ i ∈ marks, i < n) :
    (List.range n).countP (fun i => !marks.contains i) = n - marks.length := by
  have hit : (List.range n).countP marks.contains = marks.length := by
    rw [List.countP_eq_length_filter]
    refine List.Perm.length_eq ((List.perm_ext_iff_of_nodup (List.nodup_range.filter _) nodup).mpr ?_)
    intro i
    simp only [List.mem_filter, List.mem_range, List.contains_iff_mem]
    exact ⟨fun h => h.2, fun h => ⟨inRange i h, h⟩⟩
  have total : (List.range n).length = _ := List.length_eq_countP_add_countP marks.contains
  rw [List.length_range, hit] at total
  have same : (List.range n).countP (fun i => !marks.contains i) =
      (List.range n).countP fun i => decide (¬ marks.contains i = true) := by
    congr 1
    funext i
    cases marks.contains i <;> rfl
  omega

/-! ## Taking elements from the front -/

variable (gone) in
/-- Nothing is gone at or past the place that the walk by what remains comes to in any of the blocks. -/
def LiveAhead : List (List α) → Nat → Prop
  | [], _ => True
  | b :: bs, n => (∀ i a, n ≤ i → b[i]? = some a → gone a = false) ∧ LiveAhead bs (n - remaining gone b)

theorem LiveAhead.start {bs : List (List α)} (live : ∀ a ∈ bs.flatten, gone a = false) : LiveAhead gone bs 0 := by
  induction bs with
  | nil => trivial
  | cons b bs ih =>
    rw [List.flatten_cons] at live
    refine ⟨fun i a _ place => live a (List.mem_append_left _ (List.mem_of_getElem? place)), ?_⟩
    rw [Nat.zero_sub]
    exact ih fun a member => live a (List.mem_append_right _ member)

theorem LiveAhead.mono {bs : List (List α)} {n n' : Nat} (h : LiveAhead gone bs n) (le : n ≤ n') :
    LiveAhead gone bs n' := by
  induction bs generalizing n n' with
  | nil => trivial
  | cons b bs ih => exact ⟨fun i a past => h.1 i a (le.trans past), ih h.2 (Nat.sub_le_sub_right le _)⟩

/-- What the walk finds is not gone. -/
theorem LiveAhead.live {bs : List (List α)} {n k r : Nat} {b : List α} {a : α} (h : LiveAhead gone bs n)
    (found : locateBy (remaining gone) bs n = some (k, b, r)) (place : b[r]? = some a) : gone a = false := by
  induction bs generalizing n k with
  | nil => cases found
  | cons c bs ih =>
    obtain ⟨block, below, sum⟩ := locateBy_eq_some_iff.mp found
    cases k with
    | zero =>
      cases block
      rw [offsetOf_zero] at sum
      exact h.1 r a (by omega) place
    | succ k =>
      rw [offsetOf_cons_succ] at sum
      exact ih h.2 (locateBy_eq_some_iff.mpr ⟨block, below, by omega⟩)

theorem remaining_set {l : List α} {n : Nat} {a x : α} (place : l[n]? = some a) (live : gone a = false)
    (goes : gone x = true) : remaining gone (l.set n x) + 1 = remaining gone l := by
  obtain ⟨bound, rfl⟩ := List.getElem?_eq_some_iff.mp place
  have counted := List.countP_set (p := fun a => !gone a) (a := x) bound
  have positive : 0 < remaining gone l := List.countP_pos_iff.mpr ⟨_, List.getElem_mem bound, by simp [live]⟩
  simp only [live, goes, Bool.not_false, Bool.not_true, if_true, Bool.false_eq_true, if_false] at counted
  unfold remaining at positive ⊢
  omega

/-- **Taking what the walk finds** leaves nothing gone ahead of the next number. -/
theorem LiveAhead.take {bs : List (List α)} {n k r : Nat} {b : List α} {a x : α} (h : LiveAhead gone bs n)
    (found : locateBy (remaining gone) bs n = some (k, b, r)) (place : b[r]? = some a) (taken : gone x = true) :
    LiveAhead gone (bs.set k (b.set r x)) (n + 1) := by
  have live := h.live found place
  induction bs generalizing n k with
  | nil => trivial
  | cons c bs ih =>
    obtain ⟨block, below, sum⟩ := locateBy_eq_some_iff.mp found
    cases k with
    | zero =>
      cases block
      rw [offsetOf_zero, Nat.zero_add] at sum
      subst sum
      -- one less remains in the block, so the walk comes to the next block one place later at most
      have one := remaining_set place live taken
      refine ⟨fun i a' past place' => ?_, h.2.mono (by omega)⟩
      rw [List.getElem?_set_ne (by omega)] at place'
      exact h.1 i a' (by omega) place'
    | succ k =>
      rw [offsetOf_cons_succ] at sum
      have later := ih h.2 (locateBy_eq_some_iff.mpr ⟨block, below, by omega⟩)
      refine ⟨fun i a' past => h.1 i a' (by omega), ?_⟩
      rwa [show n + 1 - remaining gone c = n - remaining gone c + 1 by omega]

end Gone

end Pop3Serv.Logic
