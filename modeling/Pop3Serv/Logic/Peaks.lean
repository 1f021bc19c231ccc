import Mathlib

/-!
# Loops that keep an element

A loop that goes through a list and keeps an element whenever it stands in a relation to
the one kept last ends with the last of the elements `destutter'` keeps. For `<` on numbers
these are the peaks, the numbers above every earlier one, and the loop finds the maximum.
A loop that moves only to a number that is larger by two or more misses a peak that is
larger by one, unless it has missed the peak before; so it ends at the maximum or one below
it, by the parity of the single steps that the peaks end with.
-/

namespace Pop3Serv.Logic

section Keep

variable {α : Type*} (R : α → α → Prop) [DecidableRel R]

/-- What the loop has kept at its end, when it starts with `start`. -/
def lastKept (start : α) (l : List α) : α := l.foldl (fun kept a => if R kept a then a else kept) start

theorem lastKept_concat (start : α) (l : List α) (a : α) :
    lastKept R start (l ++ [a]) = if R (lastKept R start l) a then a else lastKept R start l :=
  List.foldl_append

/-- One more element is kept if it stands in the relation to the last one kept. -/
theorem destutter'_concat (start : α) (l : List α) (a : α) :
    (l ++ [a]).destutter' R start =
      if R (lastKept R start l) a then l.destutter' R start ++ [a] else l.destutter' R start := by
  induction l generalizing start with
  | nil => exact List.destutter'_cons [] R
  | cons b l ih =>
    by_cases kept : R start b
    · have goesOn : lastKept R start (b :: l) = lastKept R b l := by simp [lastKept, kept]
      rw [List.cons_append, List.destutter'_cons_pos _ kept, List.destutter'_cons_pos _ kept, ih, goesOn]
      split <;> rfl
    · have goesOn : lastKept R start (b :: l) = lastKept R start l := by simp [lastKept, kept]
      rw [List.cons_append, List.destutter'_cons_neg _ kept, List.destutter'_cons_neg _ kept, ih, goesOn]

end Keep

/-! ## Peaks -/

theorem le_lastKept {start : ℕ} {sizes : List ℕ} {size : ℕ} (member : size ∈ start :: sizes) :
    size ≤ lastKept (· < ·) start sizes := by
  induction sizes using List.reverseRecOn with
  | nil => exact (List.mem_singleton.mp member).le
  | append_singleton sizes last ih =>
    rw [lastKept_concat]
    rw [← List.cons_append, List.mem_append, List.mem_singleton] at member
    rcases member with earlier | rfl
    · have bound := ih earlier
      split
      · omega
      · exact bound
    · split <;> omega

theorem lastKept_mem (start : ℕ) (sizes : List ℕ) : lastKept (· < ·) start sizes ∈ start :: sizes := by
  induction sizes using List.reverseRecOn with
  | nil => simp [lastKept]
  | append_singleton sizes last ih =>
    rw [lastKept_concat, ← List.cons_append, List.mem_append]
    split
    · exact .inr (List.mem_singleton.mpr rfl)
    · exact .inl ih

/-- The numbers above every earlier one, the last of them first, down to a 0 below them all. -/
def peaks (sizes : List ℕ) : List ℕ := (sizes.destutter' (· < ·) 0).reverse

/-- How many single steps down the list begins with. -/
def singleSteps : List ℕ → ℕ
  | high :: low :: rest => if high = low + 1 then singleSteps (low :: rest) + 1 else 0
  | _ => 0

theorem peaks_concat (sizes : List ℕ) (size : ℕ) :
    peaks (sizes ++ [size]) =
      if lastKept (· < ·) 0 sizes < size then size :: peaks sizes else peaks sizes := by
  unfold peaks
  rw [destutter'_concat]
  split
  · rw [List.reverse_append]
    rfl
  · rfl

/-- The first of the peaks listed is the maximum. -/
theorem peaks_eq_cons (sizes : List ℕ) : ∃ lower, peaks sizes = lastKept (· < ·) 0 sizes :: lower := by
  induction sizes using List.reverseRecOn with
  | nil => exact ⟨[], rfl⟩
  | append_singleton sizes size ih =>
    rw [peaks_concat, lastKept_concat]
    split
    · exact ⟨_, rfl⟩
    · exact ih

theorem singleSteps_peaks_concat (sizes : List ℕ) {size : ℕ} (above : lastKept (· < ·) 0 sizes < size) :
    singleSteps (peaks (sizes ++ [size])) =
      if size = lastKept (· < ·) 0 sizes + 1 then singleSteps (peaks sizes) + 1 else 0 := by
  obtain ⟨lower, same⟩ := peaks_eq_cons sizes
  rw [peaks_concat, if_pos above, same]
  rfl

/-- **The loop that moves by two or more** ends at the maximum, or one below it after an odd number of
single steps. -/
theorem lastKept_byTwo (sizes : List ℕ) :
    lastKept (fun kept size => kept + 1 < size) 0 sizes + singleSteps (peaks sizes) % 2 =
      lastKept (· < ·) 0 sizes := by
  induction sizes using List.reverseRecOn with
  | nil => rfl
  | append_singleton sizes size ih =>
    rw [lastKept_concat, lastKept_concat]
    by_cases above : lastKept (· < ·) 0 sizes < size
    · rw [if_pos above, singleSteps_peaks_concat sizes above]
      by_cases single : size = lastKept (· < ·) 0 sizes + 1
      · rw [if_pos single]
        split <;> omega
      · rw [if_neg single, if_pos (by omega)]
        rfl
    · rw [if_neg above, peaks_concat, if_neg above, if_neg (by omega)]
      exact ih

/-- It ends at a bound of all the numbers exactly if the single steps are even in number. -/
theorem lastKept_byTwo_bounds_iff {sizes : List ℕ} :
    (∀ size ∈ sizes, size ≤ lastKept (fun kept size => kept + 1 < size) 0 sizes) ↔
      Even (singleSteps (peaks sizes)) := by
  have short := lastKept_byTwo sizes
  rw [Nat.even_iff]
  constructor
  · intro bounds
    rcases List.mem_cons.mp (lastKept_mem 0 sizes) with zero | member
    · omega
    · have reached := bounds _ member
      omega
  · intro even size member
    have bound := le_lastKept (List.mem_cons_of_mem 0 member)
    omega

theorem mem_of_mem_peaks {sizes : List ℕ} {size : ℕ} (member : size ∈ peaks sizes) : size ∈ 0 :: sizes :=
  (List.destutter'_sublist sizes (· < ·) 0).subset (List.mem_reverse.mp member)

/-- Where no number is larger by one than another, or than 0, there are no single steps. -/
theorem singleSteps_peaks_eq_zero {sizes : List ℕ}
    (apart : ∀ high ∈ sizes, ∀ low ∈ 0 :: sizes, high ≠ low + 1) : singleSteps (peaks sizes) = 0 := by
  match listed : peaks sizes with
  | [] => rfl
  | [_] => rfl
  | high :: low :: rest =>
    have highest : high ∈ 0 :: sizes := mem_of_mem_peaks (by simp [listed])
    have next : low ∈ 0 :: sizes := mem_of_mem_peaks (by simp [listed])
    have larger : high ≠ low + 1 := by
      rcases List.mem_cons.mp highest with zero | member
      · omega
      · exact apart high member low next
    exact if_neg larger

end Pop3Serv.Logic
