import Pop3Serv.Logic.Peaks
import Pop3Serv.Mail.ConsumerInfo

/-!
# The buffer for an option name

`getMaximumOptionName` is to find the size of a `compact_string` that holds every name of
its table with a terminator. Its loop compares the length of a name, without the
terminator, with a maximum that includes one, so it moves only to a size that is larger by
two or more. The table of the program has one name; with a second, one byte longer, the
size would be that of the first.
-/

namespace Pop3Serv.Mail
open Logic

/-- The check of the constructor as it is written: `charArray.size() - 1` is a `std::size_t`, and
without a place it wraps. -/
theorem CompactString.ofView_throws_iff {size : Nat} {sv : Bytes} (place : 0 < size ∨ sv = []) :
    ofView size sv = .error .outOfRange ↔ sizeSub size 1 < sv.length := by
  unfold ofView
  by_cases sized : 0 < size
  · rw [sizeSub_of_le sized]
    split
    · rename_i fits
      exact iff_of_false (fun same => by cases same) (Nat.not_lt.mpr fits)
    · rename_i long
      exact iff_of_true rfl (Nat.lt_of_not_le long)
  · obtain rfl : sv = [] := place.resolve_left sized
    have fits : ([] : Bytes).length ≤ size - 1 := Nat.zero_le _
    rw [dif_pos fits]
    exact iff_of_false (fun same => by cases same) (Nat.not_lt_zero _)

theorem CompactString.ofView_ok {size : Nat} {sv : Bytes} (fits : sv.length + 1 ≤ size) :
    ∃ kept, ofView size sv = .ok kept := ⟨_, dif_pos (Nat.le_sub_of_add_le fits)⟩

/-- The bytes that the names of a table take with their terminators. -/
def sizesOf (options : List Bytes) : List Nat := options.map fun option => length option + 1

/-- The loop moves to the size of a name only from a size that is smaller by two or more. -/
theorem getMaximumOptionName_eq (options : List Bytes) :
    getMaximumOptionName options = lastKept (fun maximum size => maximum + 1 < size) 0 (sizesOf options) := by
  unfold getMaximumOptionName lastKept sizesOf
  rw [List.foldl_map]
  congr 1
  funext maximum option
  simp only [gt_iff_lt, Nat.add_lt_add_iff_right]

/-- The size computed is the size of the longest name, or one less. -/
theorem getMaximumOptionName_short (options : List Bytes) :
    getMaximumOptionName options + singleSteps (peaks (sizesOf options)) % 2 =
      lastKept (· < ·) 0 (sizesOf options) := by
  rw [getMaximumOptionName_eq]
  exact lastKept_byTwo (sizesOf options)

/-- Every name of the table has its place and that of a terminator. -/
def NamesFit (options : List Bytes) : Prop :=
  ∀ option ∈ options, length option + 1 ≤ getMaximumOptionName options

instance (options : List Bytes) : Decidable (NamesFit options) := by unfold NamesFit; infer_instance

theorem namesFit_iff {options : List Bytes} :
    NamesFit options ↔ Even (singleSteps (peaks (sizesOf options))) := by
  rw [← lastKept_byTwo_bounds_iff, ← getMaximumOptionName_eq]
  unfold NamesFit sizesOf
  rw [List.forall_mem_map]

/-- Then every name of the table can be made a string of that size. -/
theorem NamesFit.constructed {options : List Bytes} (fit : NamesFit options) {option : Bytes}
    (member : option ∈ options) :
    ∃ name, CompactString.ofView (getMaximumOptionName options) (cstr option) = .ok name :=
  CompactString.ofView_ok (fit option member)

/-- A table without an empty name in which no name is just one byte longer than another one. -/
theorem namesFit_of_apart {options : List Bytes} (nonempty : ∀ option ∈ options, length option ≠ 0)
    (apart : ∀ option ∈ options, ∀ other ∈ options, length option ≠ length other + 1) : NamesFit options := by
  rw [namesFit_iff]
  have noStep : singleSteps (peaks (sizesOf options)) = 0 := by
    apply singleSteps_peaks_eq_zero
    intro high highest low next same
    obtain ⟨option, member, rfl⟩ := List.mem_map.mp highest
    have long : length option = low := Nat.succ.inj same
    rcases List.mem_cons.mp next with rfl | shorter
    · exact nonempty option member long
    · obtain ⟨other, member', rfl⟩ := List.mem_map.mp shorter
      exact apart option member other member' long
  rw [noStep]
  exact Even.zero

/-- The table of the program. -/
theorem declaredOptions_fit : NamesFit declaredOptions := namesFit_of_apart (by decide) (by decide)

/-- **The size computed is enough** for every name of a table, and the constructor throws for none of
them, exactly if the sizes that exceed every earlier one end with an even number of single steps. -/
theorem option_names_fit_iff (options : List Bytes) :
    (∀ option ∈ options, length option + 1 ≤ getMaximumOptionName options ∧
        CompactString.ofView (getMaximumOptionName options) (cstr option) ≠ .error .outOfRange) ↔
      Even (singleSteps (peaks (sizesOf options))) := by
  rw [← namesFit_iff]
  constructor
  · exact fun each option member => (each option member).1
  · intro fit option member
    obtain ⟨name, made⟩ := fit.constructed member
    refine ⟨fit option member, ?_⟩
    rw [made]
    nofun

/-- A second name that is one byte longer: the constructor throws for it. -/
theorem second_name_throws :
    getMaximumOptionName [ascii "path", ascii "paths"] = 5 ∧
      CompactString.ofView (getMaximumOptionName [ascii "path", ascii "paths"]) (cstr (ascii "paths")) =
        .error .outOfRange ∧
      ¬ ∀ option ∈ [ascii "path", ascii "paths"],
        length option + 1 ≤ getMaximumOptionName [ascii "path", ascii "paths"] ∧
          CompactString.ofView (getMaximumOptionName [ascii "path", ascii "paths"]) (cstr option) ≠
            .error .outOfRange := by
  have throws : CompactString.ofView (getMaximumOptionName [ascii "path", ascii "paths"])
      (cstr (ascii "paths")) = .error .outOfRange := by decide
  refine ⟨by decide, throws, fun each => ?_⟩
  exact (each (ascii "paths") (by simp)).2 throws

end Pop3Serv.Mail
