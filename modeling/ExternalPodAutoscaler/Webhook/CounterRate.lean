/-
The rate of a single counter (`calculate_rate` of `webhook/metrics/aggregation.rs`).

A counter counts, or restarts at zero, any number of times between two samples of it.  The rate
only sees the samples: a restart shows as a drop, unless the counter has by then grown past its
last sample.

The main result of this file is `counter_rate_exact`: the rate never overstates what was counted,
is exact without restarts, and where every restart shows it counts what came after the last one
of each pair of samples.
-/
import ExternalPodAutoscaler.Webhook.Aggregation

namespace ExternalPodAutoscaler.Webhook

open ExternalPodAutoscaler.Lib ExternalPodAutoscaler.Store

section CounterRate

variable {V : Type} [Field V] [LinearOrder V]

/-- The samples show a counter, which is `v` at first, after each list of changes. -/
inductive Records : V → List (List (CounterChange Unit V)) → List (LabeledSample V) → Prop where
  | nil (v : V) : Records v [] []
  | cons {v : V} {changes : List (CounterChange Unit V)}
      {history : List (List (CounterChange Unit V))} {s : LabeledSample V}
      {samples : List (LabeledSample V)} (hs : s.value = valueAfter v changes)
      (h : Records s.value history samples) : Records v (changes :: history) (s :: samples)

/-- The counter restarts among the changes. -/
def Restarts (changes : List (CounterChange Unit V)) : Prop :=
  changes.any CounterChange.isReset = true

/-- Where the counter restarts between two samples, the second one is smaller. -/
def RestartsShow : V → List (List (CounterChange Unit V)) → Prop
  | _, [] => True
  | v, changes :: history =>
    (Restarts changes → valueAfter v changes < v) ∧ RestartsShow (valueAfter v changes) history

/-- What is counted over a history. -/
def totalOf (history : List (List (CounterChange Unit V))) : V := (history.map totalCounted).sum

/-- What is counted after the last restart of each pair of samples. -/
def totalSinceRestarts (history : List (List (CounterChange Unit V))) : V :=
  (history.map countedSinceReset).sum

variable [IsStrictOrderedRing V] {v : V} {changes : List (CounterChange Unit V)}
  {history : List (List (CounterChange Unit V))} {first : LabeledSample V}
  {samples : List (LabeledSample V)}

/-! ### One pair of samples -/

omit [IsStrictOrderedRing V] in
lemma valueAfter_of_restarts (h : Restarts changes) :
    valueAfter v changes = countedSinceReset changes :=
  (valueAfter_eq v changes).trans (if_pos h)

omit [IsStrictOrderedRing V] in
lemma valueAfter_of_not_restarts (h : ¬ Restarts changes) :
    valueAfter v changes = v + totalCounted changes :=
  (valueAfter_eq v changes).trans (if_neg h)

lemma pairIncrease_of_not_restarts (h : ¬ Restarts changes) :
    pairIncrease v (valueAfter v changes) = totalCounted changes := by
  have hgrow : v ≤ valueAfter v changes := by
    rw [valueAfter_of_not_restarts h]
    exact le_add_of_nonneg_right (totalCounted_nonneg changes)
  rw [pairIncrease, if_pos hgrow, valueAfter_of_not_restarts h, add_sub_cancel_left]

lemma pairIncrease_nonneg (hv : 0 ≤ v) : 0 ≤ pairIncrease v (valueAfter v changes) := by
  rw [pairIncrease]
  split
  · rename_i hle
    exact sub_nonneg.2 hle
  · exact valueAfter_nonneg hv changes

/-- A restart that does not show only hides what was counted. -/
lemma pairIncrease_le_totalCounted (hv : 0 ≤ v) :
    pairIncrease v (valueAfter v changes) ≤ totalCounted changes := by
  by_cases h : Restarts changes
  · have hle : pairIncrease v (valueAfter v changes) ≤ valueAfter v changes := by
      rw [pairIncrease]
      split
      · exact sub_le_self _ hv
      · exact le_rfl
    calc pairIncrease v (valueAfter v changes)
        ≤ valueAfter v changes := hle
      _ = countedSinceReset changes := valueAfter_of_restarts h
      _ ≤ totalCounted changes := countedSinceReset_le_totalCounted changes
  · exact (pairIncrease_of_not_restarts h).le

lemma pairIncrease_of_shows (h : Restarts changes → valueAfter v changes < v) :
    pairIncrease v (valueAfter v changes) = countedSinceReset changes := by
  by_cases hrestarts : Restarts changes
  · rw [pairIncrease, if_neg (not_le.2 (h hrestarts)), valueAfter_of_restarts hrestarts]
  · have hnone : changes.any CounterChange.isReset = false := by simpa [Restarts] using hrestarts
    rw [pairIncrease_of_not_restarts hrestarts, countedSinceReset_of_no_reset hnone]

/-! ### All pairs -/

omit [IsStrictOrderedRing V] in
lemma increase_cons_cons (s : LabeledSample V) (samples : List (LabeledSample V)) :
    increase (first :: s :: samples) =
      pairIncrease first.value s.value + increase (s :: samples) := rfl

omit [IsStrictOrderedRing V] in
lemma totalOf_cons : totalOf (changes :: history) = totalCounted changes + totalOf history :=
  List.sum_cons

omit [IsStrictOrderedRing V] in
lemma totalSinceRestarts_cons : totalSinceRestarts (changes :: history) =
    countedSinceReset changes + totalSinceRestarts history :=
  List.sum_cons

/-- The increase is not negative and not more than what was counted. -/
lemma increase_bounds (hfirst : 0 ≤ first.value) (h : Records first.value history samples) :
    0 ≤ increase (first :: samples) ∧ increase (first :: samples) ≤ totalOf history := by
  induction samples generalizing first history with
  | nil =>
      cases h
      exact ⟨le_rfl, le_rfl⟩
  | cons s samples ih =>
      cases h with
      | @cons _ changes history _ _ hs h =>
          have hs' : 0 ≤ s.value := by
            rw [hs]
            exact valueAfter_nonneg hfirst changes
          obtain ⟨hnonneg, hle⟩ := ih hs' h
          rw [increase_cons_cons, hs, totalOf_cons]
          exact ⟨add_nonneg (pairIncrease_nonneg hfirst) hnonneg,
            add_le_add (pairIncrease_le_totalCounted hfirst) hle⟩

/-- Without restarts the increase is what was counted, and telescopes. -/
lemma increase_of_no_restart (h : Records first.value history samples)
    (hnone : ∀ changes ∈ history, ¬ Restarts changes) :
    increase (first :: samples) = totalOf history ∧
      ((first :: samples).getLast (List.cons_ne_nil _ _)).value =
        first.value + totalOf history := by
  induction samples generalizing first history with
  | nil =>
      cases h
      simp [totalOf, increase]
  | cons s samples ih =>
      cases h with
      | @cons _ changes history _ _ hs h =>
          obtain ⟨hchanges, hhistory⟩ := List.forall_mem_cons.1 hnone
          obtain ⟨hincrease, hlast⟩ := ih h hhistory
          rw [List.getLast_cons (List.cons_ne_nil s samples), hlast, increase_cons_cons, hincrease,
            totalOf_cons, hs, pairIncrease_of_not_restarts hchanges,
            valueAfter_of_not_restarts hchanges, add_assoc]
          exact ⟨rfl, rfl⟩

/-- Where every restart shows, the increase is what was counted after the restarts. -/
lemma increase_of_shows (h : Records first.value history samples)
    (hshow : RestartsShow first.value history) :
    increase (first :: samples) = totalSinceRestarts history := by
  induction samples generalizing first history with
  | nil =>
      cases h
      rfl
  | cons s samples ih =>
      cases h with
      | @cons _ changes history _ _ hs h =>
          obtain ⟨hchanges, hhistory⟩ := hshow
          rw [increase_cons_cons, ih h (hs ▸ hhistory), hs, pairIncrease_of_shows hchanges,
            totalSinceRestarts_cons]

/-! ### The rate -/

lemma asSecsF64_pos {now since : ℕ} (h : since < now) :
    (0 : V) < asSecsF64 (elapsed now since) := by
  have hpos : 0 < elapsed now since := Nat.sub_pos_of_lt h
  exact div_pos (Nat.cast_pos.2 hpos) (by norm_num)

/-- **The rate of a counter.** It is missing exactly for fewer than two samples.  For two samples
of a counter or more over some time it is the increase by that time, with a limit.  The increase
is not negative and at most what was counted between the first and the last sample; it is that,
and the difference of these samples, without restarts, and if every restart shows it is what was
counted after the last restart of each pair. -/
theorem counter_rate_exact {before : List (CounterChange Unit V)}
    (hrecords : Records 0 (before :: history) (first :: samples)) (hne : samples ≠ [])
    (helapsed : first.scrapedAt < (samples.getLast hne).scrapedAt) :
    (∀ l : List (LabeledSample V), calculateRate l = none ↔ l.length < 2) ∧
    calculateRate (first :: samples) = some (min
      (increase (first :: samples) /
        asSecsF64 (elapsed (samples.getLast hne).scrapedAt first.scrapedAt)) 1000000000) ∧
    0 ≤ increase (first :: samples) ∧ increase (first :: samples) ≤ totalOf history ∧
    ((∀ changes ∈ history, ¬ Restarts changes) →
      increase (first :: samples) = totalOf history ∧
      increase (first :: samples) = (samples.getLast hne).value - first.value) ∧
    (RestartsShow first.value history →
      increase (first :: samples) = totalSinceRestarts history) := by
  obtain ⟨hfirst, h⟩ : 0 ≤ first.value ∧ Records first.value history samples := by
    cases hrecords with
    | cons hs h =>
        refine ⟨?_, h⟩
        rw [hs]
        exact valueAfter_nonneg le_rfl before
  obtain ⟨hnonneg, hle⟩ := increase_bounds hfirst h
  refine ⟨fun l => ?_, ?_, hnonneg, hle, fun hnone => ?_, increase_of_shows h⟩
  · rw [← Option.not_isSome_iff_eq_none, calculateRate_isSome_iff, not_le]
  · obtain ⟨second, rest, rfl⟩ := List.exists_cons_of_ne_nil hne
    have hpos := asSecsF64_pos (V := V) helapsed
    rw [calculateRate]
    exact if_neg hpos.ne'
  · obtain ⟨hincrease, hlast⟩ := increase_of_no_restart h hnone
    rw [List.getLast_cons hne] at hlast
    rw [hincrease, hlast, add_sub_cancel_left]
    exact ⟨rfl, rfl⟩

end CounterRate

/-! ### A restart that shows -/

/-- A counter has counted 900, restarts, counts 50, and counts 30 more. -/
def restartedHistory : List (List (CounterChange Unit ℚ)) :=
  [[.add () 900 (by norm_num)], [.add () 7 (by norm_num), .reset (), .add () 50 (by norm_num)],
    [.add () 30 (by norm_num)]]

/-- Its samples, ten seconds apart. -/
def restartedSamples : List (LabeledSample ℚ) :=
  [⟨900, 0, true, .counter⟩, ⟨50, secs 10, true, .counter⟩, ⟨80, secs 20, true, .counter⟩]

theorem counter_rate_exact_restarted :
    increase restartedSamples ≤ totalOf restartedHistory.tail ∧
    increase restartedSamples = totalSinceRestarts restartedHistory.tail := by
  have hrecords : Records 0 restartedHistory restartedSamples := by
    refine .cons ?_ (.cons ?_ (.cons ?_ (.nil _)))
    all_goals decide +kernel
  have helapsed : 0 < secs 20 := by decide
  have hshow : RestartsShow 900 restartedHistory.tail :=
    ⟨fun _ => by decide +kernel, fun h => absurd h Bool.false_ne_true, trivial⟩
  obtain ⟨-, -, -, hle, -, hexact⟩ :=
    counter_rate_exact hrecords (List.cons_ne_nil _ _) helapsed
  exact ⟨hle, hexact hshow⟩

end ExternalPodAutoscaler.Webhook
