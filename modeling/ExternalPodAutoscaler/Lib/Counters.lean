/-
Families of counters.

A counter only grows, except that it may restart at zero.  What a family of counters has in all
is what it had, and what was counted since, without what was lost by restarts
(`sum_valuesAfter`); counters that have all restarted have lost at least what they had
(`sum_le_totalLost`).  A single counter has what was counted after its last restart
(`valueAfter_eq`).
-/
import Mathlib.Algebra.BigOperators.Group.Finset.Piecewise
import Mathlib.Algebra.Order.BigOperators.Group.Finset
import Mathlib.Algebra.Order.BigOperators.Group.List
import Mathlib.Data.List.DropRight
import Mathlib.Tactic.Abel

namespace ExternalPodAutoscaler.Lib

variable {ι V : Type*} [AddCommGroup V] [LinearOrder V] [IsOrderedAddMonoid V]

/-- A counter counts, or it restarts. -/
inductive CounterChange (ι V : Type*) [Zero V] [LE V] where
  | add (i : ι) (amount : V) (nonneg : 0 ≤ amount)
  | reset (i : ι)

namespace CounterChange

/-- What is counted by a change. -/
def counted : CounterChange ι V → V
  | .add _ amount _ => amount
  | .reset _ => 0

variable [DecidableEq ι]

def apply (values : ι → V) : CounterChange ι V → ι → V
  | .add i amount _ => Function.update values i (values i + amount)
  | .reset i => Function.update values i 0

/-- What is lost by a change. -/
def lost (values : ι → V) : CounterChange ι V → V
  | .add _ _ _ => 0
  | .reset i => values i

end CounterChange

/-- What is counted in all. -/
def totalCounted (changes : List (CounterChange ι V)) : V :=
  (changes.map CounterChange.counted).sum

section

variable [DecidableEq ι] {values : ι → V} {changes : List (CounterChange ι V)}

def valuesAfter (values : ι → V) (changes : List (CounterChange ι V)) : ι → V :=
  changes.foldl CounterChange.apply values

/-- What is lost in all. -/
def totalLost : (ι → V) → List (CounterChange ι V) → V
  | _, [] => 0
  | values, c :: changes => c.lost values + totalLost (c.apply values) changes

lemma apply_nonneg (h : ∀ i, 0 ≤ values i) (c : CounterChange ι V) (i : ι) :
    0 ≤ c.apply values i := by
  cases c with
  | add j amount nonneg =>
      by_cases hij : i = j
      · subst hij
        simpa [CounterChange.apply] using add_nonneg (h i) nonneg
      · simpa [CounterChange.apply, hij] using h i
  | reset j =>
      by_cases hij : i = j
      · simp [CounterChange.apply, hij]
      · simpa [CounterChange.apply, hij] using h i

lemma valuesAfter_nonneg (h : ∀ i, 0 ≤ values i) (changes : List (CounterChange ι V)) :
    ∀ i, 0 ≤ valuesAfter values changes i := by
  induction changes generalizing values with
  | nil => exact h
  | cons c changes ih => exact ih (apply_nonneg h c)

lemma totalLost_nonneg (h : ∀ i, 0 ≤ values i) (changes : List (CounterChange ι V)) :
    0 ≤ totalLost values changes := by
  induction changes generalizing values with
  | nil => exact le_rfl
  | cons c changes ih =>
      refine add_nonneg ?_ (ih (apply_nonneg h c))
      cases c with
      | add _ _ _ => exact le_rfl
      | reset j => exact h j

lemma le_valuesAfter_of_no_reset {i : ι} (hreset : .reset i ∉ changes) :
    values i ≤ valuesAfter values changes i := by
  induction changes generalizing values with
  | nil => exact le_rfl
  | cons c changes ih =>
      rw [List.mem_cons, not_or] at hreset
      have hrest : c.apply values i ≤ valuesAfter values (c :: changes) i := ih hreset.2
      refine le_trans ?_ hrest
      cases c with
      | add j amount nonneg =>
          by_cases hij : i = j
          · subst hij
            simpa [CounterChange.apply] using nonneg
          · simp [CounterChange.apply, hij]
      | reset j =>
          have hij : i ≠ j := fun hij => hreset.1 (by rw [hij])
          simp [CounterChange.apply, hij]

/-- Counters that restart lose what they had. -/
lemma sum_le_totalLost (h : ∀ i, 0 ≤ values i) {J : Finset ι}
    (hreset : ∀ i ∈ J, .reset i ∈ changes) : ∑ i ∈ J, values i ≤ totalLost values changes := by
  induction changes generalizing values J with
  | nil =>
      have hJ : J = ∅ := Finset.eq_empty_of_forall_notMem fun i hi => by simpa using hreset i hi
      simp [hJ, totalLost]
  | cons c changes ih =>
      cases c with
      | add j amount nonneg =>
          have hgrow : ∀ i, values i ≤ Function.update values j (values j + amount) i := by
            intro i
            by_cases hij : i = j
            · subst hij
              simpa using nonneg
            · simp [hij]
          have hrest := ih (apply_nonneg h (.add j amount nonneg)) (J := J) fun i hi => by
            simpa using hreset i hi
          calc ∑ i ∈ J, values i
              ≤ ∑ i ∈ J, Function.update values j (values j + amount) i :=
                Finset.sum_le_sum fun i _ => hgrow i
            _ ≤ totalLost values (.add j amount nonneg :: changes) := by
                rw [totalLost, CounterChange.lost, zero_add]
                exact hrest
      | reset j =>
          have hrest := ih (apply_nonneg h (.reset j)) (J := J.erase j) fun i hi => by
            have hi' := hreset i (Finset.mem_of_mem_erase hi)
            simpa [Finset.ne_of_mem_erase hi] using hi'
          have hothers : ∑ i ∈ J.erase j, values i =
              ∑ i ∈ J.erase j, Function.update values j 0 i :=
            Finset.sum_congr rfl fun i hi => by
              rw [Function.update_of_ne (Finset.ne_of_mem_erase hi)]
          calc ∑ i ∈ J, values i
              ≤ values j + ∑ i ∈ J.erase j, values i := by
                by_cases hj : j ∈ J
                · rw [Finset.add_sum_erase J values hj]
                · rw [Finset.erase_eq_of_notMem hj]
                  exact le_add_of_nonneg_left (h j)
            _ ≤ totalLost values (.reset j :: changes) := by
                rw [hothers]
                exact add_le_add_right hrest (values j)

end

section Balance

variable [Fintype ι] [DecidableEq ι] {values : ι → V}

lemma sum_apply (values : ι → V) (c : CounterChange ι V) :
    ∑ i, c.apply values i + c.lost values = ∑ i, values i + c.counted := by
  have hupdate : ∀ (j : ι) (x : V),
      ∑ i, Function.update values j x i + values j = ∑ i, values i + x := by
    intro j x
    rw [Finset.sum_update_of_mem (Finset.mem_univ j),
      Finset.sum_eq_add_sum_sdiff_singleton_of_mem (Finset.mem_univ j) values]
    abel
  cases c with
  | add j amount nonneg =>
      have hj := hupdate j (values j + amount)
      rw [add_left_comm, add_comm _ (values j), add_right_inj] at hj
      simpa [CounterChange.apply, CounterChange.lost, CounterChange.counted] using hj
  | reset j =>
      simpa [CounterChange.apply, CounterChange.lost, CounterChange.counted] using hupdate j 0

/-- **Balance.** What the counters have is what they had and what was counted, without what
was lost. -/
theorem sum_valuesAfter (values : ι → V) (changes : List (CounterChange ι V)) :
    ∑ i, valuesAfter values changes i + totalLost values changes =
      ∑ i, values i + totalCounted changes := by
  induction changes generalizing values with
  | nil => simp [valuesAfter, totalLost, totalCounted]
  | cons c changes ih =>
      calc ∑ i, valuesAfter values (c :: changes) i + totalLost values (c :: changes)
          = (∑ i, valuesAfter (c.apply values) changes i +
              totalLost (c.apply values) changes) + c.lost values := by
            simp only [valuesAfter, List.foldl_cons, totalLost]
            abel
        _ = (∑ i, c.apply values i + c.lost values) + totalCounted changes := by
            rw [ih]
            abel
        _ = ∑ i, values i + totalCounted (c :: changes) := by
            rw [sum_apply, totalCounted, totalCounted, List.map_cons, List.sum_cons]
            abel

end Balance

/-! ### A single counter -/

section Single

omit [IsOrderedAddMonoid V] in
lemma totalCounted_append (changes changes' : List (CounterChange ι V)) :
    totalCounted (changes ++ changes') = totalCounted changes + totalCounted changes' := by
  simp [totalCounted]

lemma totalCounted_nonneg (changes : List (CounterChange ι V)) : 0 ≤ totalCounted changes := by
  refine List.sum_nonneg fun amount hamount => ?_
  obtain ⟨c, -, rfl⟩ := List.mem_map.1 hamount
  cases c with
  | add i amount nonneg => exact nonneg
  | reset i => exact le_rfl

/-- The change is a restart. -/
def CounterChange.isReset : CounterChange ι V → Bool
  | .add _ _ _ => false
  | .reset _ => true

/-- What is counted after the last restart. -/
def countedSinceReset (changes : List (CounterChange ι V)) : V :=
  totalCounted (changes.rtakeWhile fun c => !c.isReset)

lemma countedSinceReset_le_totalCounted (changes : List (CounterChange ι V)) :
    countedSinceReset changes ≤ totalCounted changes := by
  conv_rhs => rw [← List.rdropWhile_append_rtakeWhile (p := fun c => !c.isReset) (l := changes)]
  rw [totalCounted_append]
  exact le_add_of_nonneg_left (totalCounted_nonneg _)

/-- The value of a counter after some changes. -/
def valueAfter (v : V) (changes : List (CounterChange Unit V)) : V :=
  valuesAfter (fun _ => v) changes ()

omit [IsOrderedAddMonoid V] in
lemma valueAfter_concat (v : V) (changes : List (CounterChange Unit V))
    (c : CounterChange Unit V) : valueAfter v (changes ++ [c]) =
      if c.isReset then 0 else valueAfter v changes + c.counted := by
  rw [valueAfter, valuesAfter, List.foldl_append, List.foldl_cons, List.foldl_nil]
  cases c with
  | add i amount nonneg => simp [CounterChange.apply, CounterChange.isReset, CounterChange.counted,
      valueAfter, valuesAfter]
  | reset i => simp [CounterChange.apply, CounterChange.isReset]

lemma valueAfter_nonneg {v : V} (hv : 0 ≤ v) (changes : List (CounterChange Unit V)) :
    0 ≤ valueAfter v changes := valuesAfter_nonneg (fun _ => hv) changes ()

omit [IsOrderedAddMonoid V] in
/-- A counter has what was counted after its last restart, or, without one, what it had and what
was counted. -/
lemma valueAfter_eq (v : V) (changes : List (CounterChange Unit V)) :
    valueAfter v changes =
      if changes.any CounterChange.isReset then countedSinceReset changes
      else v + totalCounted changes := by
  induction changes using List.reverseRecOn with
  | nil => simp [valueAfter, valuesAfter, totalCounted]
  | append_singleton changes c ih =>
      have hsince : countedSinceReset (changes ++ [c]) =
          if c.isReset then 0 else countedSinceReset changes + c.counted := by
        rw [countedSinceReset, List.rtakeWhile_concat]
        by_cases hreset : c.isReset = true
        · simp [hreset, totalCounted]
        · simp [hreset, totalCounted, countedSinceReset]
      have htotal : totalCounted (changes ++ [c]) = totalCounted changes + c.counted := by
        simp [totalCounted]
      rw [valueAfter_concat, ih, hsince, htotal]
      by_cases hreset : c.isReset = true
      · simp [hreset]
      · by_cases hany : changes.any CounterChange.isReset = true
        · simp [hreset, hany]
        · simp [hreset, hany, add_assoc]

omit [IsOrderedAddMonoid V] in
lemma countedSinceReset_of_no_reset {changes : List (CounterChange ι V)}
    (h : changes.any CounterChange.isReset = false) :
    countedSinceReset changes = totalCounted changes := by
  rw [countedSinceReset, List.rtakeWhile_eq_self_iff.2]
  intro c hc
  rw [List.any_eq_false] at h
  simpa using h c hc

end Single

end ExternalPodAutoscaler.Lib
