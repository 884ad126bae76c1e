/-
The aggregation of windows (`webhook/metrics/aggregation.rs`) and the part of
`get_external_metric` that answers from the store of the replica.

The windows of a metric are aggregated pod by pod and summed.  The value of a counter is its
rate over the window, which takes two samples; a pod without a value is left out, and if
every pod is, the metric is unavailable.  Values are those of an ordered field, and sums are
exact.

The main result of this file is `counter_served_iff`: a pod whose counter has been scraped at
two instants or more has a value exactly when its window has room for two samples, that is
when the evaluation period is longer than the interval.  Nothing makes it longer
(`counter_never_served`).
-/
import ExternalPodAutoscaler.Scraper.Capacity
import ExternalPodAutoscaler.Webhook.ExternalName
import ExternalPodAutoscaler.Webhook.Rate

namespace ExternalPodAutoscaler.Webhook

open ExternalPodAutoscaler.Api ExternalPodAutoscaler.Scraper ExternalPodAutoscaler.Store

section Aggregation

variable {V : Type} [Field V] [LinearOrder V]

/-- `aggregate_samples`. -/
def aggregateSamples (samples : List (LabeledSample V)) (aggregation : AggregationType) : V :=
  match samples.map LabeledSample.value with
  | [] => 0
  | value :: values =>
    match aggregation with
    | .avg => (value :: values).sum / ((value :: values).length : V)
    | .max => values.foldl max value
    | .min => values.foldl min value
    | .median =>
      let sorted := (value :: values).mergeSort (· ≤ ·)
      let mid := sorted.length / 2
      if sorted.length % 2 = 0 then (sorted.getD (mid - 1) 0 + sorted.getD mid 0) / 2
      else sorted.getD mid 0
    | .last => (value :: values).getLast (List.cons_ne_nil value values)

/-- The samples of successful scrapes. -/
def successfulSamples (w : MetricWindow V) : List (LabeledSample V) := w.samples.filter (·.success)

/-- The value of a pod, `none` if it is left out. -/
def podValue (aggregation : AggregationType) (w : MetricWindow V) : Option V :=
  match successfulSamples w with
  | [] => none
  | first :: rest =>
    -- the oldest sample decides whether this is a counter
    match first.metricType with
    | .counter => calculateRate (first :: rest)
    | .gauge => some (aggregateSamples (first :: rest) aggregation)

/-- `aggregate_metric`: the sum over the pods that have a value, and how many these are. -/
def aggregateMetric (windows : List (String × MetricWindow V)) (aggregation : AggregationType) :
    V × ℕ :=
  let perPodValues := windows.filterMap fun (_, w) => podValue aggregation w
  (perPodValues.sum, perPodValues.length)

/-- The part of `get_external_metric` that answers from the store, given the cached value. -/
def answerLocally (cached : Option V) (store : MetricsStore V) (ns epaName metricName : String) :
    Except ApiError V :=
  match cached with
  | some value => .ok value
  | none =>
    let windows := store.getWindows ns epaName metricName
    if windows.isEmpty then
      .error (.metricUnavailable s!"no metric data available for {metricName}")
    else
      let (value, contributingPods) :=
        aggregateMetric windows (store.getMetricConfig ns epaName metricName)
      if contributingPods = 0 then
        .error (.metricUnavailable s!"no contributing pods for metric {metricName}")
      else .ok value

variable {aggregation : AggregationType} {store : MetricsStore V} {key : SampleKey}
  {podName : String} {w : MetricWindow V}

/-- A pod is counted exactly if it has a value. -/
lemma count_singleton_eq_one_iff :
    (aggregateMetric [(podName, w)] aggregation).2 = 1 ↔ (podValue aggregation w).isSome := by
  rcases hvalue : podValue aggregation w with _ | value <;> simp [aggregateMetric, hvalue]

/-- The metric is available if one of its pods has a value. -/
lemma answerLocally_isOk (hw : store.windows.lookup key = some w)
    (hvalue : (podValue (store.getMetricConfig key.ns key.epaName key.metricName) w).isSome)
    (cached : Option V) :
    (answerLocally cached store key.ns key.epaName key.metricName).isOk = true := by
  rcases cached with _ | value
  · have hmem : (key.podName, w) ∈ store.getWindows key.ns key.epaName key.metricName :=
      MetricsStore.mem_getWindows.2 hw
    obtain ⟨value, hvalue⟩ := Option.isSome_iff_exists.1 hvalue
    have hcount : (aggregateMetric (store.getWindows key.ns key.epaName key.metricName)
        (store.getMetricConfig key.ns key.epaName key.metricName)).2 ≠ 0 := by
      rw [aggregateMetric, Ne, List.length_eq_zero_iff]
      exact List.ne_nil_of_mem (List.mem_filterMap.2 ⟨_, hmem, hvalue⟩)
    have hwindows : (store.getWindows key.ns key.epaName key.metricName).isEmpty = false :=
      List.isEmpty_eq_false_iff.2 (List.ne_nil_of_mem hmem)
    simp only [answerLocally, hwindows, Bool.false_eq_true, if_false, if_neg hcount]
    rfl
  · rfl

/-! ### Counters -/

lemma calculateRate_isSome_iff {samples : List (LabeledSample V)} :
    (calculateRate samples).isSome = true ↔ 2 ≤ samples.length := by
  rcases samples with _ | ⟨first, _ | ⟨second, rest⟩⟩
  · simp [calculateRate]
  · simp [calculateRate]
  · simp only [calculateRate, List.length_cons]
    split <;> simp

/-- The window holds a sample, and another one if the oldest is that of a counter. -/
def IsCounted (w : MetricWindow V) : Prop :=
  ∃ first rest, successfulSamples w = first :: rest ∧ (first.metricType = .counter → rest ≠ [])

lemma podValue_isSome_iff (aggregation : AggregationType) :
    (podValue aggregation w).isSome = true ↔ IsCounted w := by
  rcases hsamples : successfulSamples w with _ | ⟨first, rest⟩
  · simp [podValue, IsCounted, hsamples]
  · rcases htype : first.metricType with _ | _
    · simp [podValue, IsCounted, hsamples, htype]
    · simp only [podValue, IsCounted, hsamples, htype, calculateRate_isSome_iff]
      rcases rest with _ | ⟨second, rest⟩ <;> simp [htype]

variable {pushed : List (LabeledSample V)} {n : ℕ}

/-- A counter has a value if its window holds two samples. -/
lemma podValue_isSome_iff_of_counter
    (hcounter : ∀ x ∈ pushed, x.success = true ∧ x.metricType = .counter) :
    (podValue aggregation (pushed.foldl MetricWindow.push (.new n))).isSome = true ↔
      2 ≤ min pushed.length (max n 1) := by
  have hsamples := (MetricWindow.samples_foldl_push n pushed).1
  have hlength : (pushed.drop (pushed.length - max n 1)).length =
      min pushed.length (max n 1) := by
    rw [List.length_drop]
    omega
  have hall : ∀ x ∈ pushed.drop (pushed.length - max n 1),
      x.success = true ∧ x.metricType = .counter :=
    fun x hx => hcounter x (List.mem_of_mem_drop hx)
  have hsuccessful : successfulSamples (pushed.foldl MetricWindow.push (.new n)) =
      pushed.drop (pushed.length - max n 1) := by
    rw [successfulSamples, hsamples, List.filter_eq_self]
    exact fun x hx => (hall x hx).1
  rw [← hlength, podValue, hsuccessful]
  rcases hkept : pushed.drop (pushed.length - max n 1) with _ | ⟨first, rest⟩
  · simp
  · have htype := (hall first (by simp [hkept])).2
    simp only [htype]
    exact calculateRate_isSome_iff

omit [Field V] [LinearOrder V] in
/-- Scrapes at two instants are two scrapes. -/
lemma two_le_length_of_distinct
    (hdistinct : ∃ x ∈ pushed, ∃ y ∈ pushed, x.scrapedAt ≠ y.scrapedAt) : 2 ≤ pushed.length := by
  obtain ⟨x, hx, y, hy, hne⟩ := hdistinct
  rcases pushed with _ | ⟨first, _ | ⟨second, rest⟩⟩
  · cases hx
  · rw [List.mem_singleton.1 hx, List.mem_singleton.1 hy] at hne
    exact absurd rfl hne
  · simp

/-- **Counters are served.** Let a counter of a pod have been scraped at two instants or more
into a window of the capacity that `process_epa` computes.  The pod is counted, and the
metric is available, exactly when the evaluation period is longer than the interval, both in
whole seconds and the interval at least one. -/
theorem counter_served_iff {P I : ℕ}
    (hcounter : ∀ x ∈ pushed, x.success = true ∧ x.metricType = .counter)
    (hdistinct : ∃ x ∈ pushed, ∃ y ∈ pushed, x.scrapedAt ≠ y.scrapedAt)
    (hw : store.windows.lookup key = some w)
    (hpushed : w = pushed.foldl MetricWindow.push (.new (maxSamples P I))) :
    ((aggregateMetric [(key.podName, w)]
          (store.getMetricConfig key.ns key.epaName key.metricName)).2 = 1 ∧
        ∀ cached, (answerLocally cached store key.ns key.epaName key.metricName).isOk = true) ↔
      max (asSecs I) 1 < asSecs P := by
  have hlength := two_le_length_of_distinct hdistinct
  have hvalue : (podValue (store.getMetricConfig key.ns key.epaName key.metricName) w).isSome =
      true ↔ max (asSecs I) 1 < asSecs P := by
    rw [hpushed, podValue_isSome_iff_of_counter hcounter, ← two_le_maxSamples_iff]
    omega
  rw [count_singleton_eq_one_iff, ← hvalue]
  constructor
  · rintro ⟨hcounted, -⟩
    exact hcounted
  · intro hcounted
    exact ⟨hcounted, answerLocally_isOk hw hcounted⟩

end Aggregation

/-! ### An evaluation period of one interval -/

/-- The EPA of `examples/epa.yaml`. -/
def dummyEpa : Epa where
  metadata := ⟨some "dummy-metrics-scaler", some "epa-system", none, none⟩
  spec :=
    { minReplicas := 1
      maxReplicas := 10
      scrape := ⟨9090, "/metrics", "10s", "2s", "http", none, "10s", .avg⟩
      scrapeTargetRef := none
      scaleTargetRef := ⟨"apps/v1", "Deployment", "dummy-metrics"⟩
      metrics := [⟨"queue_depth", .averageValue, "10", none, none, none⟩]
      behavior := some ⟨none, some ⟨some 0, none, none⟩⟩ }

/-- The samples of a counter that is scraped twice. -/
def twoScrapes : List (LabeledSample ℚ) :=
  [⟨100, 0, true, .counter⟩, ⟨130, secs 10, true, .counter⟩]

/-- The key of its window. -/
def dummyKey : SampleKey := ⟨"epa-system", "dummy-metrics-scaler", "queue_depth", "dummy-0"⟩

/-- The window after the scrapes. -/
def windowOfTwo (n : ℕ) : MetricWindow ℚ := twoScrapes.foldl MetricWindow.push (.new n)

/-- The store after the scrapes. -/
def storeOfTwo (n : ℕ) : MetricsStore ℚ :=
  twoScrapes.foldl (fun store x => store.pushSample dummyKey x n) .new

lemma counter_twoScrapes : ∀ x ∈ twoScrapes, x.success = true ∧ x.metricType = .counter := by
  simp [twoScrapes]

lemma distinct_twoScrapes : ∃ x ∈ twoScrapes, ∃ y ∈ twoScrapes, x.scrapedAt ≠ y.scrapedAt :=
  ⟨_, List.mem_cons_self, _, List.mem_cons_of_mem _ List.mem_cons_self, by decide +kernel⟩

lemma lookup_storeOfTwo (n : ℕ) :
    (storeOfTwo n).windows.lookup dummyKey = some (windowOfTwo n) := by
  have hfirst : ((MetricsStore.new : MetricsStore ℚ).windows.lookup dummyKey) = none := rfl
  simp only [storeOfTwo, windowOfTwo, twoScrapes, List.foldl_cons, List.foldl_nil,
    MetricsStore.lookup_pushSample_self, hfirst, Option.getD_none, Option.getD_some]

/-- **A counter that is never served.** The evaluation period of the example is one interval,
and a counter that has been scraped twice has no value. -/
theorem counter_never_served :
    (validateEpaSpec dummyEpa).accepts = true ∧
    (∀ x ∈ twoScrapes, x.success = true ∧ x.metricType = .counter) ∧
    (∃ x ∈ twoScrapes, ∃ y ∈ twoScrapes, x.scrapedAt ≠ y.scrapedAt) ∧
    (storeOfTwo (maxSamples (secs 10) (secs 10))).windows.lookup dummyKey =
      some (windowOfTwo (maxSamples (secs 10) (secs 10))) ∧
    (aggregateMetric [("dummy-0", windowOfTwo (maxSamples (secs 10) (secs 10)))] .avg).2 = 0 ∧
    answerLocally none (storeOfTwo (maxSamples (secs 10) (secs 10))) "epa-system"
        "dummy-metrics-scaler" "queue_depth" =
      .error (.metricUnavailable "no contributing pods for metric queue_depth") :=
  ⟨by decide +kernel, counter_twoScrapes, distinct_twoScrapes, lookup_storeOfTwo _,
    by decide +kernel, by decide +kernel⟩

theorem counter_served_iff_two_scrapes :
    ((aggregateMetric [("dummy-0", windowOfTwo (maxSamples (secs 10) (secs 10)))]
          ((storeOfTwo (maxSamples (secs 10) (secs 10))).getMetricConfig "epa-system"
            "dummy-metrics-scaler" "queue_depth")).2 = 1 ∧
        ∀ cached, (answerLocally cached (storeOfTwo (maxSamples (secs 10) (secs 10))) "epa-system"
          "dummy-metrics-scaler" "queue_depth").isOk = true) ↔
      max (asSecs (secs 10)) 1 < asSecs (secs 10) :=
  counter_served_iff counter_twoScrapes distinct_twoScrapes (lookup_storeOfTwo _) rfl

end ExternalPodAutoscaler.Webhook
