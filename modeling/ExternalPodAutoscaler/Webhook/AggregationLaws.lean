/-
The laws of the aggregation of windows (`webhook/metrics/aggregation.rs`).

The store hands out the windows of a metric in the order of its map, so what is served may
not depend on it.  Values are those of an ordered field, and sums are exact.

The main result of this file is `aggregateMetric_laws`: the sum over the pods and their
number are the same for every order of the windows, are additive, and do not see failed
samples or windows without others; the sum lies between those for the minimum and the
maximum; and every aggregation but the last sample forgets the order of the samples, with at
least half of the samples on each side of the median.
-/
import ExternalPodAutoscaler.Lib.OrderStatistics
import ExternalPodAutoscaler.Webhook.Aggregation

namespace ExternalPodAutoscaler.Webhook

open ExternalPodAutoscaler.Api ExternalPodAutoscaler.Lib ExternalPodAutoscaler.Store

/-! ### The samples of a window -/

section Samples

variable {V : Type} [Field V] [LinearOrder V]

lemma aggregateSamples_median (samples : List (LabeledSample V)) :
    aggregateSamples samples .median = median (samples.map LabeledSample.value) := by
  rcases samples with _ | ⟨x, samples⟩
  · simp [aggregateSamples, median]
  · simp only [aggregateSamples, median, List.map_cons, Nat.cast_ofNat]

/-- Every aggregation but `last` forgets the order of the samples. -/
lemma aggregateSamples_eq_of_perm {aggregation : AggregationType} (hlast : aggregation ≠ .last)
    {samples samples' : List (LabeledSample V)} (h : samples.Perm samples') :
    aggregateSamples samples aggregation = aggregateSamples samples' aggregation := by
  have hvalues : (samples.map LabeledSample.value).Perm (samples'.map LabeledSample.value) :=
    h.map _
  unfold aggregateSamples
  rcases hv : samples.map LabeledSample.value with _ | ⟨x, l⟩
  · rw [hv] at hvalues
    rw [hvalues.nil_eq]
  · rcases hv' : samples'.map LabeledSample.value with _ | ⟨x', l'⟩
    · rw [hv'] at hvalues
      rw [hvalues.eq_nil] at hv
      cases hv
    · rw [hv, hv'] at hvalues
      cases aggregation with
      | avg =>
          show (x :: l).sum / ((x :: l).length : V) = (x' :: l').sum / ((x' :: l').length : V)
          rw [hvalues.sum_eq, hvalues.length_eq]
      | max => exact foldl_max_eq_of_perm hvalues
      | min => exact foldl_min_eq_of_perm hvalues
      | median => exact median_eq_of_perm hvalues
      | last => exact absurd rfl hlast

variable [IsStrictOrderedRing V]

/-- Every aggregation of samples is between the minimum and the maximum. -/
lemma aggregateSamples_bounds (samples : List (LabeledSample V)) (aggregation : AggregationType) :
    aggregateSamples samples .min ≤ aggregateSamples samples aggregation ∧
      aggregateSamples samples aggregation ≤ aggregateSamples samples .max := by
  unfold aggregateSamples
  rcases samples.map LabeledSample.value with _ | ⟨x, l⟩
  · exact ⟨le_rfl, le_rfl⟩
  · have hne : x :: l ≠ [] := List.cons_ne_nil x l
    obtain ⟨hmin, hle⟩ := foldl_min_mem_and_le x l
    obtain ⟨hmax, hge⟩ := foldl_max_mem_and_le x l
    cases aggregation with
    | avg => exact ⟨le_mean hne hle, mean_le hne hge⟩
    | max => exact ⟨hge _ hmin, le_rfl⟩
    | min => exact ⟨le_rfl, hge _ hmin⟩
    | median => exact ⟨le_median hne hle, median_le hne hge⟩
    | last => exact ⟨hle _ (List.getLast_mem hne), hge _ (List.getLast_mem hne)⟩

end Samples

/-! ### The values of the pods -/

section Pods

variable {V : Type} [Field V] [LinearOrder V]

/-- A window without counters: the oldest successful sample, if there is one, is that of a
gauge. -/
def IsGauge (w : MetricWindow V) : Prop :=
  ∀ first ∈ (successfulSamples w).head?, first.metricType = .gauge

/-- The windows are those of the same pod and differ at most in their failed samples. -/
def SameButFailed (entry entry' : String × MetricWindow V) : Prop :=
  entry.1 = entry'.1 ∧ successfulSamples entry.2 = successfulSamples entry'.2

variable {aggregation : AggregationType} {w w' : MetricWindow V}

/-- The value of a pod is read off the successful samples. -/
lemma podValue_congr (h : successfulSamples w = successfulSamples w') :
    podValue aggregation w = podValue aggregation w' := by
  rw [podValue, podValue, h]

lemma podValue_of_nil (h : successfulSamples w = []) : podValue aggregation w = none := by
  rw [podValue, h]

/-- The value of the pod of a gauge. -/
lemma podValue_of_isGauge (hgauge : IsGauge w) : podValue aggregation w =
    if successfulSamples w = [] then none
    else some (aggregateSamples (successfulSamples w) aggregation) := by
  rcases hsamples : successfulSamples w with _ | ⟨first, rest⟩
  · rw [podValue_of_nil hsamples, if_pos rfl]
  · have htype : first.metricType = .gauge := hgauge first (by rw [hsamples]; rfl)
    rw [podValue, hsamples, if_neg (List.cons_ne_nil _ _)]
    simp only [htype]

lemma podValue_eq_of_perm (hlast : aggregation ≠ .last) (hgauge : IsGauge w)
    (hgauge' : IsGauge w') (h : w.samples.Perm w'.samples) :
    podValue aggregation w = podValue aggregation w' := by
  have hperm : (successfulSamples w).Perm (successfulSamples w') := h.filter _
  have hnil : successfulSamples w = [] ↔ successfulSamples w' = [] := by
    rw [← List.length_eq_zero_iff, hperm.length_eq, List.length_eq_zero_iff]
  rw [podValue_of_isGauge hgauge, podValue_of_isGauge hgauge',
    aggregateSamples_eq_of_perm hlast hperm]
  exact if_congr hnil rfl rfl

variable [IsStrictOrderedRing V]

/-- A pod is left out by every aggregation, or it has a value for each, and these are between
that of the minimum and that of the maximum. -/
lemma podValue_bounds (w : MetricWindow V) :
    (∀ aggregation, podValue aggregation w = none) ∨
      ∃ value : AggregationType → V,
        (∀ aggregation, podValue aggregation w = some (value aggregation)) ∧
        ∀ aggregation, value .min ≤ value aggregation ∧ value aggregation ≤ value .max := by
  rcases hsamples : successfulSamples w with _ | ⟨first, rest⟩
  · exact Or.inl fun aggregation => podValue_of_nil hsamples
  · rcases htype : first.metricType with _ | _
    · refine Or.inr ⟨aggregateSamples (first :: rest), fun aggregation => ?_,
        aggregateSamples_bounds _⟩
      simp only [podValue, hsamples, htype]
    · -- the rate does not depend on the aggregation
      have hrate : ∀ aggregation, podValue aggregation w = calculateRate (first :: rest) := by
        intro aggregation
        simp only [podValue, hsamples, htype]
      rcases hvalue : calculateRate (first :: rest) with _ | rate
      · exact Or.inl fun aggregation => (hrate aggregation).trans hvalue
      · exact Or.inr ⟨fun _ => rate, fun aggregation => (hrate aggregation).trans hvalue,
          fun _ => ⟨le_rfl, le_rfl⟩⟩

end Pods

/-! ### The sum over the pods -/

section Sums

variable {V : Type} [Field V] [LinearOrder V] {aggregation : AggregationType}
  {windows windows' : List (String × MetricWindow V)}

lemma aggregateMetric_perm (h : windows.Perm windows') :
    aggregateMetric windows aggregation = aggregateMetric windows' aggregation := by
  have hvalues := h.filterMap fun entry => podValue aggregation entry.2
  exact Prod.ext hvalues.sum_eq hvalues.length_eq

lemma aggregateMetric_append (windows windows' : List (String × MetricWindow V)) :
    aggregateMetric (windows ++ windows') aggregation =
      aggregateMetric windows aggregation + aggregateMetric windows' aggregation := by
  simp only [aggregateMetric, List.filterMap_append, List.sum_append, List.length_append]
  rfl

/-- The first window contributes its value. -/
lemma aggregateMetric_cons (entry : String × MetricWindow V)
    (windows : List (String × MetricWindow V)) :
    aggregateMetric (entry :: windows) aggregation =
      (((podValue aggregation entry.2).toList.sum, (podValue aggregation entry.2).toList.length) :
        V × ℕ) + aggregateMetric windows aggregation := by
  rcases hvalue : podValue aggregation entry.2 with _ | value
  · simp [aggregateMetric, hvalue]
  · simp [aggregateMetric, hvalue, add_comm]

/-- A window without a successful sample can be left out. -/
lemma aggregateMetric_insert {podName : String} {w : MetricWindow V}
    (hw : successfulSamples w = []) (windows windows' : List (String × MetricWindow V)) :
    aggregateMetric (windows ++ (podName, w) :: windows') aggregation =
      aggregateMetric (windows ++ windows') aggregation := by
  rw [aggregateMetric_append, aggregateMetric_cons, podValue_of_nil hw, aggregateMetric_append]
  exact congrArg _ (zero_add _)

/-- Failed samples do not count. -/
lemma aggregateMetric_congr (h : List.Forall₂ SameButFailed windows windows') :
    aggregateMetric windows aggregation = aggregateMetric windows' aggregation := by
  induction h with
  | nil => rfl
  | cons hentry _ ih => rw [aggregateMetric_cons, aggregateMetric_cons, ih,
      podValue_congr hentry.2]

variable [IsStrictOrderedRing V]

/-- The sum is between the sum of the minima and the sum of the maxima. -/
lemma aggregateMetric_bounds (windows : List (String × MetricWindow V))
    (aggregation : AggregationType) :
    (aggregateMetric windows .min).1 ≤ (aggregateMetric windows aggregation).1 ∧
      (aggregateMetric windows aggregation).1 ≤ (aggregateMetric windows .max).1 := by
  induction windows with
  | nil => exact ⟨le_rfl, le_rfl⟩
  | cons entry windows ih =>
      simp only [aggregateMetric_cons, Prod.fst_add]
      rcases podValue_bounds entry.2 with hnone | ⟨value, hvalue, hbounds⟩
      · simpa [hnone] using ih
      · simp only [hvalue, Option.toList_some, List.sum_singleton]
        exact ⟨add_le_add (hbounds aggregation).1 ih.1, add_le_add (hbounds aggregation).2 ih.2⟩

/-- **The laws of aggregation.** The sum over the pods and their number are the same for
every order of the windows, are additive, and do not change with windows that have no
successful sample or with failed samples.  The sum is between those for the minimum and the
maximum.  The mean, the extrema and the median of a window do not depend on the order of its
samples, and half of its successful samples or more are on each side of the median. -/
theorem aggregateMetric_laws (aggregation : AggregationType) :
    (∀ windows windows' : List (String × MetricWindow V), windows.Perm windows' →
      aggregateMetric windows aggregation = aggregateMetric windows' aggregation) ∧
    (∀ windows windows' : List (String × MetricWindow V),
      aggregateMetric (windows ++ windows') aggregation =
        aggregateMetric windows aggregation + aggregateMetric windows' aggregation) ∧
    (∀ (windows windows' : List (String × MetricWindow V)) (podName : String)
      (w : MetricWindow V), successfulSamples w = [] →
      aggregateMetric (windows ++ (podName, w) :: windows') aggregation =
        aggregateMetric (windows ++ windows') aggregation) ∧
    (∀ windows windows' : List (String × MetricWindow V),
      List.Forall₂ SameButFailed windows windows' →
      aggregateMetric windows aggregation = aggregateMetric windows' aggregation) ∧
    (∀ windows : List (String × MetricWindow V),
      (aggregateMetric windows .min).1 ≤ (aggregateMetric windows aggregation).1 ∧
        (aggregateMetric windows aggregation).1 ≤ (aggregateMetric windows .max).1) ∧
    (aggregation ≠ .last → ∀ w w' : MetricWindow V, w.samples.Perm w'.samples →
      aggregateSamples (successfulSamples w) aggregation =
          aggregateSamples (successfulSamples w') aggregation ∧
        (IsGauge w → IsGauge w' → podValue aggregation w = podValue aggregation w')) ∧
    ∀ w : MetricWindow V,
      (successfulSamples w).length ≤ 2 * (successfulSamples w).countP
          (·.value ≤ aggregateSamples (successfulSamples w) .median) ∧
        (successfulSamples w).length ≤ 2 * (successfulSamples w).countP
          (aggregateSamples (successfulSamples w) .median ≤ ·.value) := by
  refine ⟨?_, ?_, ?_, ?_, ?_, ?_, ?_⟩
  · exact fun windows windows' h => aggregateMetric_perm h
  · exact fun windows windows' => aggregateMetric_append windows windows'
  · exact fun windows windows' podName w hw => aggregateMetric_insert hw windows windows'
  · exact fun windows windows' h => aggregateMetric_congr h
  · exact fun windows => aggregateMetric_bounds windows aggregation
  · intro hlast w w' h
    exact ⟨aggregateSamples_eq_of_perm hlast (h.filter _),
      fun hgauge hgauge' => podValue_eq_of_perm hlast hgauge hgauge' h⟩
  · intro w
    have hle := length_le_two_mul_countP_le_median ((successfulSamples w).map LabeledSample.value)
    have hge := length_le_two_mul_countP_median_le ((successfulSamples w).map LabeledSample.value)
    rw [List.length_map, List.countP_map] at hle hge
    rw [aggregateSamples_median]
    exact ⟨hle, hge⟩

end Sums

/-- The window of a gauge that is scraped three times, once without success. -/
def gaugeWindow : MetricWindow ℚ :=
  ⟨[⟨4, 0, true, .gauge⟩, ⟨0, secs 10, false, .gauge⟩, ⟨1, secs 20, true, .gauge⟩], 6⟩

theorem aggregateMetric_laws_two_pods :
    aggregateMetric [("web-0", gaugeWindow), ("web-1", windowOfTwo 6)] .avg = (11/2, 2) ∧
    aggregateMetric [("web-0", gaugeWindow), ("web-1", windowOfTwo 6)] .avg =
      aggregateMetric [("web-1", windowOfTwo 6), ("web-0", gaugeWindow)] .avg ∧
    aggregateMetric [("web-0", gaugeWindow), ("web-1", windowOfTwo 6)] .avg =
      aggregateMetric [("web-0", ⟨successfulSamples gaugeWindow, 6⟩), ("web-1", windowOfTwo 6)]
        .avg :=
  ⟨by decide +kernel, (aggregateMetric_laws .avg).1 _ _ (List.Perm.swap _ _ _),
    (aggregateMetric_laws .avg).2.2.2.1 _ _
      (.cons ⟨rfl, by decide +kernel⟩ (.cons ⟨rfl, rfl⟩ .nil))⟩

end ExternalPodAutoscaler.Webhook
