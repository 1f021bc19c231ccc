import Mathlib

/-!
# Ordered maps filled without overwriting

`insertIfNew` keeps the value a key already has, as `emplace` and an inserter do.
The lemmas read such a map back after a list of insertions, and relate the size of
a map with number keys to the keys it holds. The last part is about totals: where
several sources offer a value for a key and the first wins, the values kept add up
to all that was offered exactly if no source loses anything but a zero.
-/

namespace Pop3Serv.Logic

variable {ν : Type*}

/-- The first entry with a key wins, and an entry already there wins over all. -/
theorem getElem?_foldl_insertIfNew (entries : List (Nat × ν)) (t : Std.TreeMap Nat ν) (k : Nat) :
    (entries.foldl (fun m p => m.insertIfNew p.1 p.2) t)[k]? =
      t[k]?.or ((entries.find? fun p => p.1 = k).map Prod.snd) := by
  induction entries generalizing t with
  | nil => simp
  | cons p entries ih =>
    rw [List.foldl_cons, ih, Std.TreeMap.getElem?_insertIfNew, List.find?_cons]
    by_cases same : p.1 = k
    · subst same
      by_cases present : p.1 ∈ t
      · simp [present]
      · simp [present]
    · simp [same]

/-- Copying a whole map through an inserter. -/
theorem getElem?_copy (mp t : Std.TreeMap Nat ν) (k : Nat) :
    (mp.toList.foldl (fun m p => m.insertIfNew p.1 p.2) t)[k]? = t[k]?.or mp[k]? := by
  rw [getElem?_foldl_insertIfNew]
  congr 1
  cases found : mp.toList.find? fun p => p.1 = k with
  | none =>
    rw [Option.map_none]
    symm
    apply Std.TreeMap.getElem?_eq_none
    intro present
    obtain ⟨v, hv⟩ : ∃ v, mp[k]? = some v := ⟨mp[k], Std.TreeMap.getElem?_eq_some_getElem present⟩
    have member := Std.TreeMap.mem_toList_iff_getElem?_eq_some.mpr hv
    simpa using List.find?_eq_none.mp found _ member
  | some p =>
    have member := List.mem_of_find?_eq_some found
    have key : p.1 = k := by simpa using List.find?_some found
    rw [Option.map_some]
    symm
    exact key ▸ Std.TreeMap.mem_toList_iff_getElem?_eq_some.mp member

theorem nodup_keys (t : Std.TreeMap Nat ν) : t.keys.Nodup :=
  t.distinct_keys.imp fun {a b} h e => h (by simp [e])

/-- A map whose keys are the numbers below `n` has `n` entries. -/
theorem size_eq_of_mem_iff {t : Std.TreeMap Nat ν} {n : Nat} (keys : ∀ k, k ∈ t ↔ k < n) : t.size = n := by
  have same : t.keys.Perm (List.range n) :=
    (List.perm_ext_iff_of_nodup (nodup_keys t) List.nodup_range).mpr fun k => by
      rw [Std.TreeMap.mem_keys, keys, List.mem_range]
  rw [← Std.TreeMap.length_keys, same.length_eq, List.length_range]

/-- A map of `n` entries with all its keys below `n` holds every number below `n`. -/
theorem mem_of_size {t : Std.TreeMap Nat ν} (low : ∀ k, k ∈ t → k < t.size) {k : Nat}
    (below : k < t.size) : k ∈ t := by
  have sub : t.keys ⊆ List.range t.size := fun k hk =>
    List.mem_range.mpr (low k (Std.TreeMap.mem_keys.mp hk))
  have same : t.keys.Perm (List.range t.size) :=
    ((nodup_keys t).subperm sub).perm_of_length_le (by simp [Std.TreeMap.length_keys])
  exact Std.TreeMap.mem_keys.mp (same.mem_iff.mpr (List.mem_range.mpr below))

/-- The sum of the values, key by key. -/
theorem sum_values (t : Std.TreeMap Nat Nat) {n : Nat} (low : ∀ k, k ∈ t → k < n) :
    (t.toList.map Prod.snd).sum = ∑ k ∈ Finset.range n, (t[k]?).getD 0 := by
  have byKey : t.toList.map Prod.snd = t.keys.map fun k => (t[k]?).getD 0 := by
    rw [← Std.TreeMap.map_fst_toList_eq_keys, List.map_map]
    apply List.map_congr_left
    rintro ⟨k, v⟩ member
    simp [Std.TreeMap.mem_toList_iff_getElem?_eq_some.mp member]
  rw [byKey, ← List.sum_toFinset _ (nodup_keys t)]
  apply Finset.sum_subset
  · intro k hk
    exact Finset.mem_range.mpr (low k (Std.TreeMap.mem_keys.mp (List.mem_toFinset.mp hk)))
  · intro k _ absent
    have missing : k ∉ t := fun present => absent (List.mem_toFinset.mpr (Std.TreeMap.mem_keys.mpr present))
    rw [Std.TreeMap.getElem?_eq_none missing]
    rfl

section FirstWins

variable {α : Type*}

theorem getD_findSome?_le (f : α → Option Nat) (l : List α) :
    (l.findSome? f).getD 0 ≤ (l.map fun a => (f a).getD 0).sum := by
  induction l with
  | nil => simp
  | cons a l ih =>
    rw [List.findSome?_cons, List.map_cons, List.sum_cons]
    cases f a with
    | none => simpa using ih
    | some v => simp

/-- At one key: the first value is the sum of all of them if those after a value are zero. -/
theorem getD_findSome?_eq_iff (f : α → Option Nat) (l : List α) :
    (l.findSome? f).getD 0 = (l.map fun a => (f a).getD 0).sum ↔
      l.Pairwise fun a b => (f a).isSome → (f b).getD 0 = 0 := by
  induction l with
  | nil => simp
  | cons a l ih =>
    rw [List.findSome?_cons, List.map_cons, List.sum_cons, List.pairwise_cons, ← ih]
    cases f a with
    | none => simp
    | some v =>
      have later : (∀ b ∈ l, (f b).getD 0 = 0) ↔ (l.map fun b => (f b).getD 0).sum = 0 := by
        simp [List.sum_eq_zero_iff]
      have le := getD_findSome?_le f l
      simp only [Option.getD_some, Option.isSome_some, forall_const, later]
      omega

/-- **The total of what is kept**: with a first-wins choice at every key, it is the total of
all that the sources offer exactly if a value is lost only where it is zero. -/
theorem sum_findSome?_eq_iff (f : α → Nat → Option Nat) (l : List α) (n : Nat) :
    ∑ k ∈ Finset.range n, (l.findSome? (f · k)).getD 0 =
        (l.map fun a => ∑ k ∈ Finset.range n, (f a k).getD 0).sum ↔
      l.Pairwise fun a b => ∀ k < n, (f a k).isSome → (f b k).getD 0 = 0 := by
  have swapped : (l.map fun a => ∑ k ∈ Finset.range n, (f a k).getD 0).sum =
      ∑ k ∈ Finset.range n, (l.map fun a => (f a k).getD 0).sum := by
    induction l with
    | nil => simp
    | cons a l ih => simp only [List.map_cons, List.sum_cons, ih, Finset.sum_add_distrib]
  rw [swapped, Finset.sum_eq_sum_iff_of_le fun k _ => getD_findSome?_le (f · k) l]
  simp only [getD_findSome?_eq_iff, Finset.mem_range, List.pairwise_iff_getElem]
  exact ⟨fun h i j hi hj before k below => h k below i j hi hj before,
    fun h k below i j hi hj before => h i j hi hj before k below⟩

end FirstWins

end Pop3Serv.Logic
