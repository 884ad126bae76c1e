/-
Means, extrema and medians of lists over an ordered field.

The median of a list is the middle element of the sorted list, or the mean of the two middle
ones.  `exists_median_between` places it between two positions of the sorted list, and what
is said about medians comes from there: at least half of the elements are on each side
(`length_le_two_mul_countP_le_median`, `length_le_two_mul_countP_median_le`), and a bound of
all elements bounds the median.
-/
import Mathlib.Algebra.Order.BigOperators.Group.List
import Mathlib.Algebra.Order.Field.Basic
import Mathlib.Data.List.GetD
import Mathlib.Data.List.Sort
import Mathlib.Tactic.Linarith

namespace ExternalPodAutoscaler.Lib

section Sorted

variable {V : Type*} [LinearOrder V]

/-- The elements up to a position of a sorted list are not larger than the one there. -/
lemma le_countP_le {l : List V} (hl : l.SortedLE) {i : ℕ} (hi : i < l.length) {m : V}
    (hm : l[i] ≤ m) : i + 1 ≤ l.countP (· ≤ m) := by
  have htake : (l.take (i + 1)).countP (· ≤ m) = i + 1 := by
    rw [List.countP_eq_length.2, List.length_take, min_eq_left hi]
    intro x hx
    obtain ⟨j, hj, rfl⟩ := List.getElem_of_mem hx
    rw [List.length_take] at hj
    have hji : j ≤ i := by omega
    rw [List.getElem_take, decide_eq_true_eq]
    exact (hl.getElem_le_getElem_of_le hji).trans hm
  rw [← htake]
  exact (List.take_sublist _ _).countP_le

/-- The elements from a position of a sorted list on are not smaller than the one there. -/
lemma le_countP_ge {l : List V} (hl : l.SortedLE) {i : ℕ} (hi : i < l.length) {m : V}
    (hm : m ≤ l[i]) : l.length - i ≤ l.countP (m ≤ ·) := by
  have hdrop : (l.drop i).countP (m ≤ ·) = l.length - i := by
    rw [List.countP_eq_length.2, List.length_drop]
    intro x hx
    obtain ⟨j, hj, rfl⟩ := List.getElem_of_mem hx
    rw [List.getElem_drop, decide_eq_true_eq]
    exact hm.trans (hl.getElem_le_getElem_of_le (Nat.le_add_right i j))
  rw [← hdrop]
  exact (List.drop_sublist _ _).countP_le

/-- Sorting forgets the order. -/
lemma mergeSort_eq_of_perm {l l' : List V} (h : l.Perm l') :
    l.mergeSort (· ≤ ·) = l'.mergeSort (· ≤ ·) :=
  List.Perm.eq_of_sortedLE List.sortedLE_mergeSort List.sortedLE_mergeSort
    ((List.mergeSort_perm l _).trans (h.trans (List.mergeSort_perm l' _).symm))

/-! ### Extrema -/

variable {x : V} {l l' : List V} {x' : V}

lemma foldl_max_mem_and_le (x : V) (l : List V) :
    l.foldl max x ∈ x :: l ∧ ∀ y ∈ x :: l, y ≤ l.foldl max x :=
  List.max?_eq_some_iff.1 List.max?_cons'

lemma foldl_min_mem_and_le (x : V) (l : List V) :
    l.foldl min x ∈ x :: l ∧ ∀ y ∈ x :: l, l.foldl min x ≤ y :=
  List.min?_eq_some_iff.1 List.min?_cons'

lemma foldl_max_eq_of_perm (h : (x :: l).Perm (x' :: l')) : l.foldl max x = l'.foldl max x' := by
  obtain ⟨hmem, hle⟩ := foldl_max_mem_and_le x l
  obtain ⟨hmem', hle'⟩ := foldl_max_mem_and_le x' l'
  exact le_antisymm (hle' _ (h.mem_iff.1 hmem)) (hle _ (h.mem_iff.2 hmem'))

lemma foldl_min_eq_of_perm (h : (x :: l).Perm (x' :: l')) : l.foldl min x = l'.foldl min x' := by
  obtain ⟨hmem, hle⟩ := foldl_min_mem_and_le x l
  obtain ⟨hmem', hle'⟩ := foldl_min_mem_and_le x' l'
  exact le_antisymm (hle _ (h.mem_iff.2 hmem')) (hle' _ (h.mem_iff.1 hmem))

end Sorted

section Mean

variable {V : Type*} [Field V] [LinearOrder V] [IsStrictOrderedRing V] {l : List V} {a : V}

/-- The mean of a list that is not empty is not smaller than a lower bound. -/
lemma le_mean (hl : l ≠ []) (h : ∀ x ∈ l, a ≤ x) : a ≤ l.sum / (l.length : V) := by
  have hpos : (0 : V) < l.length := Nat.cast_pos.2 (List.length_pos_iff.2 hl)
  rw [le_div_iff₀ hpos, mul_comm, ← nsmul_eq_mul]
  exact List.card_nsmul_le_sum l a h

lemma mean_le (hl : l ≠ []) (h : ∀ x ∈ l, x ≤ a) : l.sum / (l.length : V) ≤ a := by
  have hpos : (0 : V) < l.length := Nat.cast_pos.2 (List.length_pos_iff.2 hl)
  rw [div_le_iff₀ hpos, mul_comm, ← nsmul_eq_mul]
  exact List.sum_le_card_nsmul l a h

end Mean

/-! ### Medians -/

section Median

variable {V : Type*} [Field V] [LinearOrder V]

/-- The median of a list, zero for the empty one. -/
def median (l : List V) : V :=
  let sorted := l.mergeSort (· ≤ ·)
  let mid := sorted.length / 2
  if sorted.length % 2 = 0 then (sorted.getD (mid - 1) 0 + sorted.getD mid 0) / (2 : ℕ)
  else sorted.getD mid 0

lemma median_eq_of_perm {l l' : List V} (h : l.Perm l') : median l = median l' := by
  rw [median, median, mergeSort_eq_of_perm h]

variable [IsStrictOrderedRing V] {l : List V} {a : V}

/-- The median is between two positions of the sorted list, the first with half of the list
up to it, the second with half of the list from it on. -/
lemma exists_median_between (hl : l ≠ []) :
    ∃ i j, ∃ (hi : i < (l.mergeSort (· ≤ ·)).length) (hj : j < (l.mergeSort (· ≤ ·)).length),
      l.length ≤ 2 * (i + 1) ∧ l.length ≤ 2 * (l.length - j) ∧
      (l.mergeSort (· ≤ ·))[i] ≤ median l ∧ median l ≤ (l.mergeSort (· ≤ ·))[j] := by
  have hlength : (l.mergeSort (· ≤ ·)).length = l.length := List.length_mergeSort l
  have hpos : 0 < l.length := List.length_pos_iff.2 hl
  have hmid : l.length / 2 < (l.mergeSort (· ≤ ·)).length := by omega
  rcases Nat.mod_two_eq_zero_or_one l.length with heven | hodd
  · have hbefore : l.length / 2 - 1 < (l.mergeSort (· ≤ ·)).length := by omega
    have hmedian : median l = ((l.mergeSort (· ≤ ·))[l.length / 2 - 1] +
        (l.mergeSort (· ≤ ·))[l.length / 2]) / 2 := by
      simp only [median, hlength, if_pos heven, Nat.cast_ofNat]
      rw [List.getD_eq_getElem _ _ hbefore, List.getD_eq_getElem _ _ hmid]
    have hle : (l.mergeSort (· ≤ ·))[l.length / 2 - 1] ≤ (l.mergeSort (· ≤ ·))[l.length / 2] :=
      List.sortedLE_mergeSort.getElem_le_getElem_of_le (Nat.sub_le _ 1)
    refine ⟨_, _, hbefore, hmid, by omega, by omega, ?_, ?_⟩
    · rw [hmedian]
      linarith
    · rw [hmedian]
      linarith
  · have hmedian : median l = (l.mergeSort (· ≤ ·))[l.length / 2] := by
      simp only [median, hlength, hodd, one_ne_zero, if_false]
      rw [List.getD_eq_getElem _ _ hmid]
    exact ⟨_, _, hmid, hmid, by omega, by omega, hmedian.ge, hmedian.le⟩

/-- At least half of the elements are not larger than the median. -/
lemma length_le_two_mul_countP_le_median (l : List V) :
    l.length ≤ 2 * l.countP (· ≤ median l) := by
  by_cases hl : l = []
  · simp [hl]
  · obtain ⟨i, -, hi, -, hhalf, -, hle, -⟩ := exists_median_between hl
    have hcount := le_countP_le List.sortedLE_mergeSort hi hle
    rw [(List.mergeSort_perm l _).countP_eq] at hcount
    omega

/-- At least half of the elements are not smaller than the median. -/
lemma length_le_two_mul_countP_median_le (l : List V) :
    l.length ≤ 2 * l.countP (median l ≤ ·) := by
  by_cases hl : l = []
  · simp [hl]
  · obtain ⟨-, j, -, hj, -, hhalf, -, hle⟩ := exists_median_between hl
    have hcount := le_countP_ge List.sortedLE_mergeSort hj hle
    rw [(List.mergeSort_perm l _).countP_eq, List.length_mergeSort] at hcount
    omega

lemma le_median (hl : l ≠ []) (h : ∀ x ∈ l, a ≤ x) : a ≤ median l := by
  obtain ⟨i, -, hi, -, -, -, hle, -⟩ := exists_median_between hl
  exact (h _ (List.mem_mergeSort.1 (List.getElem_mem hi))).trans hle

lemma median_le (hl : l ≠ []) (h : ∀ x ∈ l, x ≤ a) : median l ≤ a := by
  obtain ⟨-, j, -, hj, -, -, -, hle⟩ := exists_median_between hl
  exact hle.trans (h _ (List.mem_mergeSort.1 (List.getElem_mem hj)))

end Median

end ExternalPodAutoscaler.Lib
