/-
From the pods to the autoscaler.

Pods expose families of series as text.  A scrape parses the text, adds up the series that an entry
of `spec.metrics` selects and pushes the sum into the window of the pod; a request for the name
that the autoscaler uses is parsed, the window of each pod is aggregated, the sum over the pods is
rounded and written into a list.

The main result of this file is `gauge_reaches_autoscaler`: for a gauge the answer is, through all
of these steps, the sum over the pods of the aggregate of what each of them exposed in its last
scrapes.
-/
import Mathlib.Algebra.BigOperators.Group.List.Basic
import ExternalPodAutoscaler.Scraper.Exposition
import ExternalPodAutoscaler.Scraper.OneSample
import ExternalPodAutoscaler.Scraper.Pool
import ExternalPodAutoscaler.Scraper.Selectors
import ExternalPodAutoscaler.Store.SlidingWindows
import ExternalPodAutoscaler.Webhook.AggregationLaws
import ExternalPodAutoscaler.Webhook.Requests

namespace ExternalPodAutoscaler.Webhook

open ExternalPodAutoscaler.Api ExternalPodAutoscaler.Lib ExternalPodAutoscaler.Membership
open ExternalPodAutoscaler.Scraper ExternalPodAutoscaler.Store

/-! ### What pods expose -/

section Exposed

variable {V : Type} {parseF64 : List Char → Option V}

/-- A series of a family is selected by an entry of `spec.metrics`. -/
def isSelected (spec : MetricSpec) (series : MetricFamily parseF64 × ExposedSample parseF64) :
    Bool :=
  series.1.name == spec.metricName && spec.labelSelector.all
    (matchesLabelSelector (series.2.labels.map fun l => (l.name, l.value)))

/-- The values of the series that an entry selects. -/
def exposedValues (families : List (MetricFamily parseF64)) (spec : MetricSpec) : List V :=
  ((families.flatMap fun f => f.samples.map fun s => (f, s)).filter (isSelected spec)).map
    fun series => series.2.value

/-- What a pod exposes when it is scraped, and when that is. -/
structure Exposure (parseF64 : List Char → Option V) where
  pod : Pod
  families : List (MetricFamily parseF64)
  scrapedAt : ℕ

/-- The sample of a gauge that an exposure is worth. -/
def exposedSample [Add V] [Zero V] (spec : MetricSpec) (x : Exposure parseF64) :
    Option (LabeledSample V) :=
  match exposedValues x.families spec with
  | [] => none
  | values => some ⟨values.foldl (· + ·) 0, x.scrapedAt, true, .gauge⟩

/-- What a pod has exposed of a gauge, oldest first. -/
def exposedBy [Add V] [Zero V] (spec : MetricSpec) (exposures : List (Exposure parseF64))
    (podName : String) : List (LabeledSample V) :=
  (exposures.filter (·.pod.name = podName)).filterMap (exposedSample spec)

/-- The pods that have exposed a gauge. -/
def exposingPods [Add V] [Zero V] (spec : MetricSpec) (exposures : List (Exposure parseF64)) :
    List String :=
  ((exposures.filter fun x => (exposedSample spec x).isSome).map (·.pod.name)).dedup

/-- The value of a pod: the aggregate of its last samples. -/
def exposedValue [Field V] [LinearOrder V] (spec : MetricSpec) (aggregation : AggregationType)
    (maxSamples : ℕ) (exposures : List (Exposure parseF64)) (podName : String) : V :=
  let exposed := exposedBy spec exposures podName
  aggregateSamples (exposed.drop (exposed.length - max maxSamples 1)) aggregation

/-- The answer for a gauge: the sum over the pods that have exposed it. -/
def exposedAnswer [Field V] [LinearOrder V] (spec : MetricSpec) (aggregation : AggregationType)
    (maxSamples : ℕ) (exposures : List (Exposure parseF64)) : Except ApiError V :=
  if exposingPods spec exposures = [] then
    .error (.metricUnavailable s!"no metric data available for {spec.metricName}")
  else .ok ((exposingPods spec exposures).map
    (exposedValue spec aggregation maxSamples exposures)).sum

/-- The pushes of a scrape, until one of them panics. -/
def pushUntilPanic (sampleSize maxSamples : ℕ) :
    MetricsStore V → List (SampleKey × LabeledSample V) → MetricsStore V
  | store, [] => store
  | store, (key, sample) :: samples =>
    match checkedPushSample sampleSize maxSamples store key sample with
    | none => store
    | some store => pushUntilPanic sampleSize maxSamples store samples

/-- The store after a scrape of a pod, which answers with what it exposes. -/
def scrapeInto [Add V] [Zero V] (parseDuration : String → Except String ℕ)
    (showStatus : ℕ → String) (sampleSize : ℕ) (epa : Epa) (maxSamples : ℕ)
    (useInsecureTls : Bool) (store : MetricsStore V) (x : Exposure parseF64) : MetricsStore V :=
  let job : ScrapeJob := ⟨epa, x.pod, maxSamples, useInsecureTls⟩
  let response := responseText parseDuration showStatus job
    (.answered 200 (.ok (exposition x.families)))
  match scrapePodStatic parseF64 job response x.scrapedAt with
  | some (.ok samples) => pushUntilPanic sampleSize maxSamples store samples
  | _ => store

end Exposed

/-! ### One scrape -/

section Scrape

variable {V : Type} {parseF64 : List Char → Option V}
  {families : List (MetricFamily parseF64)} {spec : MetricSpec}

lemma matchesLabelSelector_congr {labels labels' : List (String × String)}
    (h : ∀ key, labels.lookup key = labels'.lookup key) :
    matchesLabelSelector labels = matchesLabelSelector labels' := by
  have hmeets : meetsRequirement labels = meetsRequirement labels' := by
    funext expr
    simp only [meetsRequirement, h]
  funext selector
  simp only [matchesLabelSelector, h, hmeets]

/-- Plain labels are read as they were written. -/
lemma roundTrips_of_plain
    (h : ∀ f ∈ families, ∀ s ∈ f.samples, ∀ l ∈ s.labels, PlainValue l.value) :
    RoundTrips families := by
  have hlines : ∀ line ∈ families.flatMap familyLines, IsLine line := by
    intro line hline
    obtain ⟨f, -, hline⟩ := List.mem_flatMap.1 hline
    rcases List.mem_cons.1 hline with rfl | hline
    · exact isLine_typeLine f
    · obtain ⟨s, -, rfl⟩ := List.mem_map.1 hline
      exact isLine_sampleLine f.isName.isNameChar s
  rw [RoundTrips, parsePrometheusText, exposition, String.toList_ofList, lines_flatMap hlines]
  exact (parsesInto_families_iff families).2 h

/-- The parsed series that an entry selects are those of the families. -/
lemma forall₂_selectedSeries [Add V] [Zero V] {parsed : List (ParsedMetric V)}
    (h : List.Forall₂ (fun p m => Matches p.1 p.2 m)
      (families.flatMap fun f => f.samples.map fun s => (f, s)) parsed) :
    List.Forall₂ (fun p m => Matches p.1 p.2 m)
      ((families.flatMap fun f => f.samples.map fun s => (f, s)).filter (isSelected spec))
      (selectedSeries parsed spec) := by
  refine List.rel_filter (fun p m hmatch => ?_) h
  have hsame : isSelected spec p = (m.name == spec.metricName &&
      spec.labelSelector.all (matchesLabelSelector m.labels)) := by
    rw [isSelected, hmatch.name, matchesLabelSelector_congr hmatch.labels]
  show isSelected spec p = true ↔ _
  rw [hsame]

/-- The sample of a response for an entry. -/
lemma scrapedMetric_exposition [Add V] [Zero V] {parsed : List (ParsedMetric V)}
    {x : Exposure parseF64}
    (h : List.Forall₂ (fun p m => Matches p.1 p.2 m)
      (x.families.flatMap fun f => f.samples.map fun s => (f, s)) parsed)
    (hgauge : ∀ f ∈ x.families, f.name = spec.metricName → f.type = .gauge) :
    (scrapedMetric parsed spec).map (fun entry => (⟨entry.2.1, x.scrapedAt, true, entry.2.2⟩ :
      LabeledSample V)) = exposedSample spec x := by
  have hselected : List.Forall₂ (fun p m => Matches p.1 p.2 m)
      ((x.families.flatMap fun f => f.samples.map fun s => (f, s)).filter (isSelected spec))
      (selectedSeries parsed spec) := forall₂_selectedSeries h
  have hvalues : List.Forall₂ (· = ·) (exposedValues x.families spec)
      ((selectedSeries parsed spec).map ParsedMetric.value) :=
    List.forall₂_map_left_iff.2 (List.forall₂_map_right_iff.2
      (hselected.imp fun p m hmatch => hmatch.value.symm))
  rw [List.forall₂_eq_eq_eq] at hvalues
  have hmetric : scrapedMetric parsed spec = (selectedSeries parsed spec).head?.map
      fun first => (spec.metricName, selectedSum parsed spec, first.metricType) := rfl
  rw [hmetric, exposedSample, hvalues, selectedSum]
  rcases hfirst : selectedSeries parsed spec with _ | ⟨first, rest⟩
  · rfl
  · -- the first series is one of a gauge
    rw [hfirst] at hselected
    obtain ⟨p, ps, hmatch, -, hp⟩ := List.forall₂_cons_right_iff.1 hselected
    have hmem : p ∈ (x.families.flatMap fun f => f.samples.map fun s => (f, s)).filter
        (isSelected spec) := hp ▸ List.mem_cons_self
    obtain ⟨hmem, hsel⟩ := List.mem_filter.1 hmem
    obtain ⟨f, hf, hs⟩ := List.mem_flatMap.1 hmem
    obtain ⟨s, -, rfl⟩ := List.mem_map.1 hs
    have hname : f.name = spec.metricName := by
      have hboth := (Bool.and_eq_true_iff.1 hsel).1
      exact beq_iff_eq.1 hboth
    have htype : first.metricType = .gauge := hmatch.type.trans (hgauge f hf hname)
    simp [htype]

/-- The sample for a window of what a scrape reads for an entry, if it is for that window. -/
def sampleFor [Add V] [Zero V] (key : SampleKey) (ns epaName podName : String)
    (parsed : List (ParsedMetric V)) (scrapedAt : ℕ) (spec : MetricSpec) :
    Option (LabeledSample V) :=
  if key = ⟨ns, epaName, spec.metricName, podName⟩ then
    (scrapedMetric parsed spec).map fun entry => ⟨entry.2.1, scrapedAt, true, entry.2.2⟩
  else none

/-- The samples of a scrape for one window, entry by entry. -/
lemma samplesFor_scrapedSamples [Add V] [Zero V] {key : SampleKey} {ns epaName podName : String}
    {parsed : List (ParsedMetric V)} {scrapedAt : ℕ} {epa : Epa} :
    samplesFor key (scrapedSamples ns epaName podName epa parsed scrapedAt) =
      epa.spec.metrics.filterMap (sampleFor key ns epaName podName parsed scrapedAt) := by
  have hall : ∀ metrics : List MetricSpec,
      samplesFor key ((metrics.filterMap (scrapedMetric parsed)).map fun entry =>
          ((⟨ns, epaName, entry.1, podName⟩ : SampleKey),
            (⟨entry.2.1, scrapedAt, true, entry.2.2⟩ : LabeledSample V))) =
        metrics.filterMap (sampleFor key ns epaName podName parsed scrapedAt) := by
    intro metrics
    induction metrics with
    | nil => rfl
    | cons spec metrics ih =>
        rcases hentry : scrapedMetric parsed spec with _ | entry
        · rw [List.filterMap_cons_none hentry, List.filterMap_cons_none (by
            simp [sampleFor, hentry]), ih]
        · rw [List.filterMap_cons_some hentry, List.map_cons]
          obtain ⟨first, rest, -, rfl⟩ := scrapedMetric_eq_some_iff.1 hentry
          by_cases hkey : key = ⟨ns, epaName, spec.metricName, podName⟩
          · rw [List.filterMap_cons_some (b := ⟨_, scrapedAt, true, _⟩) (by
              rw [sampleFor, if_pos hkey, hentry]; rfl), ← ih]
            simp [samplesFor, hkey]
          · rw [List.filterMap_cons_none (by rw [sampleFor, if_neg hkey]), ← ih]
            simp [samplesFor, Ne.symm hkey]
  exact hall epa.spec.metrics

/-- An entry that is the only one of its name decides what its windows get. -/
lemma filterMap_sampleFor [Add V] [Zero V] {key : SampleKey} {ns epaName podName : String}
    {parsed : List (ParsedMetric V)} {scrapedAt : ℕ} {metrics : List MetricSpec}
    (hspec : metrics.filter (·.metricName = key.metricName) = [spec]) :
    metrics.filterMap (sampleFor key ns epaName podName parsed scrapedAt) =
      (sampleFor key ns epaName podName parsed scrapedAt spec).toList := by
  have hother : ∀ m : MetricSpec, m.metricName ≠ key.metricName →
      sampleFor key ns epaName podName parsed scrapedAt m = none := by
    intro m hne
    rw [sampleFor, if_neg]
    rintro rfl
    exact hne rfl
  have hfilter : metrics.filterMap (sampleFor key ns epaName podName parsed scrapedAt) =
      (metrics.filter (·.metricName = key.metricName)).filterMap
        (sampleFor key ns epaName podName parsed scrapedAt) := by
    rw [List.filterMap_filter]
    refine List.filterMap_congr fun m _ => ?_
    by_cases hname : m.metricName = key.metricName
    · simp [hname]
    · simp [hname, hother m hname]
  rw [hfilter, hspec]
  rcases hsample : sampleFor key ns epaName podName parsed scrapedAt spec with _ | sample <;>
    simp [hsample]

end Scrape

/-! ### The windows after some scrapes -/

section Windows

variable {V : Type} [Add V] [Zero V] {parseF64 : List Char → Option V}
  {parseDuration : String → Except String ℕ} {showStatus : ℕ → String} {sampleSize timeout : ℕ}
  {epa : Epa} {ns epaName podName : String} {spec : MetricSpec} {maxSamples : ℕ}
  {useInsecureTls : Bool} {exposures : List (Exposure parseF64)} {x : Exposure parseF64}
  {store : MetricsStore V}

/-- The exposures are those of a gauge, by pods in the namespace of the EPA.  The gauge has one
entry, and the labels are plain. -/
structure IsGaugeOf (epa : Epa) (ns epaName : String) (spec : MetricSpec)
    (exposures : List (Exposure parseF64)) : Prop where
  name : epa.metadata.name = some epaName
  entry : epa.spec.metrics.filter (·.metricName = spec.metricName) = [spec]
  pods : ∀ x ∈ exposures, x.pod.ns = some ns ∧ x.pod.podIp.isSome
  plain : ∀ x ∈ exposures, ∀ f ∈ x.families, ∀ s ∈ f.samples, ∀ l ∈ s.labels, PlainValue l.value
  gauge : ∀ x ∈ exposures, ∀ f ∈ x.families, f.name = spec.metricName → f.type = .gauge

omit [Add V] [Zero V] in
lemma IsGaugeOf.of_cons (h : IsGaugeOf epa ns epaName spec (x :: exposures)) :
    IsGaugeOf epa ns epaName spec exposures where
  name := h.name
  entry := h.entry
  pods y hy := h.pods y (List.mem_cons_of_mem _ hy)
  plain y hy := h.plain y (List.mem_cons_of_mem _ hy)
  gauge y hy := h.gauge y (List.mem_cons_of_mem _ hy)

omit [Add V] [Zero V] in
/-- No push panics while windows can be allocated. -/
lemma pushUntilPanic_eq (hfits : maxSamples * sampleSize ≤ maxBytes)
    (samples : List (SampleKey × LabeledSample V)) :
    pushUntilPanic sampleSize maxSamples store samples = pushSamples maxSamples store samples := by
  induction samples generalizing store with
  | nil => rfl
  | cons entry samples ih =>
      rw [pushUntilPanic, checkedPushSample_eq_some (allocateWindow_of_le hfits)]
      exact ih

section Scrapes

variable (htimeout : parseDuration epa.spec.scrape.timeout = .ok timeout)
  (hfits : maxSamples * sampleSize ≤ maxBytes)

include htimeout hfits

/-- A scrape pushes the samples of the parsed text. -/
lemma exists_scrapeInto (h : IsGaugeOf epa ns epaName spec (x :: exposures)) :
    ∃ parsed, scrapeInto parseDuration showStatus sampleSize epa maxSamples useInsecureTls
          store x =
        pushSamples maxSamples store
          (scrapedSamples ns epaName x.pod.name epa parsed x.scrapedAt) ∧
      (scrapedMetric parsed spec).map (fun entry => ⟨entry.2.1, x.scrapedAt, true, entry.2.2⟩) =
        exposedSample spec x := by
  have hx : x ∈ x :: exposures := List.mem_cons_self
  obtain ⟨parsed, hparsed, hmatches⟩ := roundTrips_of_plain (h.plain x hx)
  refine ⟨parsed, ?_, scrapedMetric_exposition hmatches (h.gauge x hx)⟩
  obtain ⟨hns, hip⟩ := h.pods x hx
  obtain ⟨podIp, hip⟩ := Option.isSome_iff_exists.1 hip
  have htarget : scrapeTarget ⟨epa, x.pod, maxSamples, useInsecureTls⟩ =
      .ok (ns, epaName, podIp) := by
    simp [scrapeTarget, hns, h.name, hip]
  have hresponse : responseText parseDuration showStatus
      ⟨epa, x.pod, maxSamples, useInsecureTls⟩ (.answered 200 (.ok (exposition x.families))) =
        .ok (exposition x.families) := by
    rw [responseText, scrapeTimeout, htimeout]
    rfl
  have hscrape : scrapePodStatic parseF64 ⟨epa, x.pod, maxSamples, useInsecureTls⟩
      (.ok (exposition x.families)) x.scrapedAt =
      pure (scrapedSamples ns epaName x.pod.name epa parsed x.scrapedAt) := by
    unfold scrapePodStatic
    simp only [htarget, hparsed]
    rfl
  rw [scrapeInto, hresponse, hscrape]
  exact pushUntilPanic_eq hfits _

/-- What a scrape does to the window of a pod. -/
lemma lookup_scrapeInto (h : IsGaugeOf epa ns epaName spec (x :: exposures)) :
    (scrapeInto parseDuration showStatus sampleSize epa maxSamples useInsecureTls store
        x).windows.lookup ⟨ns, epaName, spec.metricName, podName⟩ =
      ((if x.pod.name = podName then exposedSample spec x else none).map fun sample =>
          ((store.windows.lookup ⟨ns, epaName, spec.metricName, podName⟩).getD
            (.new maxSamples)).push sample).or
        (store.windows.lookup ⟨ns, epaName, spec.metricName, podName⟩) := by
  obtain ⟨parsed, hinto, hsample⟩ : ∃ parsed,
      scrapeInto parseDuration showStatus sampleSize epa maxSamples useInsecureTls
        store x = _ ∧ _ := exists_scrapeInto htimeout hfits h
  have hfor : sampleFor ⟨ns, epaName, spec.metricName, podName⟩ ns epaName x.pod.name parsed
      x.scrapedAt spec = if x.pod.name = podName then exposedSample spec x else none := by
    simp only [sampleFor, hsample, SampleKey.mk.injEq, true_and, eq_comm]
  rw [hinto, lookup_pushSamples, samplesFor_scrapedSamples, filterMap_sampleFor h.entry, hfor]
  rcases (if x.pod.name = podName then exposedSample spec x else none) with _ | sample
  · rfl
  · rfl

/-- The window of a pod after some scrapes. -/
lemma lookup_foldl_scrapeInto (h : IsGaugeOf epa ns epaName spec exposures) :
    (exposures.foldl (scrapeInto parseDuration showStatus sampleSize epa maxSamples useInsecureTls)
        store).windows.lookup ⟨ns, epaName, spec.metricName, podName⟩ =
      if exposedBy spec exposures podName = [] then
        store.windows.lookup ⟨ns, epaName, spec.metricName, podName⟩
      else some ((exposedBy spec exposures podName).foldl MetricWindow.push
        ((store.windows.lookup ⟨ns, epaName, spec.metricName, podName⟩).getD
          (.new maxSamples))) := by
  induction exposures generalizing store with
  | nil => rfl
  | cons x exposures ih =>
      rw [List.foldl_cons, ih h.of_cons, lookup_scrapeInto htimeout hfits h]
      have hcons : exposedBy spec (x :: exposures) podName =
          (if x.pod.name = podName then exposedSample spec x else none).toList ++
            exposedBy spec exposures podName := by
        by_cases hpod : x.pod.name = podName
        · rcases hsample : exposedSample spec x with _ | sample <;>
            simp [exposedBy, hpod, hsample]
        · simp [exposedBy, hpod]
      rw [hcons]
      rcases (if x.pod.name = podName then exposedSample spec x else none) with _ | sample
      · rfl
      · by_cases hnil : exposedBy spec exposures podName = []
        · simp [hnil]
        · simp [hnil]

end Scrapes

/-- Scrapes leave the aggregation as it is configured. -/
lemma configs_foldl_scrapeInto (hfits : maxSamples * sampleSize ≤ maxBytes) :
    (exposures.foldl (scrapeInto parseDuration showStatus sampleSize epa maxSamples useInsecureTls)
      store).configs = store.configs := by
  have hpush : ∀ (samples : List (SampleKey × LabeledSample V)) (store : MetricsStore V),
      (pushSamples maxSamples store samples).configs = store.configs := by
    intro samples
    induction samples with
    | nil => exact fun _ => rfl
    | cons entry samples ih => exact fun store => ih _
  induction exposures generalizing store with
  | nil => rfl
  | cons x exposures ih =>
      rw [List.foldl_cons, ih]
      simp only [scrapeInto]
      split
      · rw [pushUntilPanic_eq hfits]
        exact hpush _ _
      · rfl

omit [Add V] [Zero V] in
/-- The aggregation of a metric with one entry. -/
lemma getMetricConfig_setMetricConfigs
    (hspec : epa.spec.metrics.filter (·.metricName = spec.metricName) = [spec]) :
    (setMetricConfigs ns epaName epa store).getMetricConfig ns epaName spec.metricName =
      spec.aggregationType.getD epa.spec.scrape.aggregationType := by
  have hlookup : ∀ (metrics : List MetricSpec) (store : MetricsStore V),
      (metrics.foldl (fun store metric => store.setMetricConfig ns epaName metric.metricName
          (metric.aggregationType.getD epa.spec.scrape.aggregationType)) store).configs.lookup
          ⟨ns, epaName, spec.metricName⟩ =
        ((metrics.filter (·.metricName = spec.metricName)).getLast?.map fun metric =>
          metric.aggregationType.getD epa.spec.scrape.aggregationType).or
            (store.configs.lookup ⟨ns, epaName, spec.metricName⟩) := by
    intro metrics
    induction metrics with
    | nil => exact fun _ => rfl
    | cons m metrics ih =>
        intro store
        rw [List.foldl_cons, ih]
        by_cases hname : m.metricName = spec.metricName
        · rw [List.filter_cons_of_pos (by simp [hname]), List.getLast?_cons]
          rcases hlast : (metrics.filter (·.metricName = spec.metricName)).getLast? with _ | last
          · simp [hlast, MetricsStore.setMetricConfig, hname]
          · simp [hlast]
        · rw [List.filter_cons_of_neg (by simp [hname])]
          have hne : (⟨ns, epaName, spec.metricName⟩ : CacheKey) ≠
              ⟨ns, epaName, m.metricName⟩ := by simp [Ne.symm hname]
          rw [MetricsStore.setMetricConfig, AList.lookup_insert_ne hne]
  rw [MetricsStore.getMetricConfig, setMetricConfigs, hlookup, hspec]
  rfl

end Windows

/-! ### The answer -/

section Answer

variable {V : Type} [Field V] [LinearOrder V] {parseF64 : List Char → Option V}
  {parseDuration : String → Except String ℕ} {showStatus : ℕ → String} {sampleSize timeout : ℕ}
  {epa : Epa} {ns epaName podName : String} {spec : MetricSpec} {maxSamples : ℕ}
  {useInsecureTls : Bool} {exposures : List (Exposure parseF64)}

omit [LinearOrder V] in
lemma mem_exposingPods_iff : podName ∈ exposingPods spec exposures ↔
    exposedBy spec exposures podName ≠ [] := by
  rw [exposingPods, List.mem_dedup, List.mem_map]
  constructor
  · rintro ⟨x, hx, rfl⟩ hnil
    obtain ⟨hx, hsome⟩ := List.mem_filter.1 hx
    obtain ⟨sample, hsample⟩ := Option.isSome_iff_exists.1 hsome
    have hmem : sample ∈ exposedBy spec exposures x.pod.name :=
      List.mem_filterMap.2 ⟨x, List.mem_filter.2 ⟨hx, by simp⟩, hsample⟩
    rw [hnil] at hmem
    cases hmem
  · intro hne
    obtain ⟨sample, rest, hcons⟩ := List.exists_cons_of_ne_nil hne
    have hmem : sample ∈ exposedBy spec exposures podName := hcons ▸ List.mem_cons_self
    obtain ⟨x, hx, hsample⟩ := List.mem_filterMap.1 hmem
    obtain ⟨hx, hpod⟩ := List.mem_filter.1 hx
    exact ⟨x, List.mem_filter.2 ⟨hx, by simp [hsample]⟩, of_decide_eq_true hpod⟩

/-- The value of a window that holds the samples of a gauge. -/
lemma podValue_foldl_push {aggregation : AggregationType} {samples : List (LabeledSample V)}
    (hne : samples ≠ [])
    (hgauge : ∀ sample ∈ samples, sample.success = true ∧ sample.metricType = .gauge) :
    podValue aggregation (samples.foldl MetricWindow.push (.new maxSamples)) =
      some (aggregateSamples (samples.drop (samples.length - max maxSamples 1)) aggregation) := by
  have hsamples := (MetricWindow.samples_foldl_push maxSamples samples).1
  have hsuccess : successfulSamples (samples.foldl MetricWindow.push (.new maxSamples)) =
      samples.drop (samples.length - max maxSamples 1) := by
    rw [successfulSamples, hsamples, List.filter_eq_self]
    exact fun sample hsample => (hgauge sample (List.mem_of_mem_drop hsample)).1
  have hdrop : samples.drop (samples.length - max maxSamples 1) ≠ [] := by
    have hpos := List.length_pos_iff.2 hne
    rw [Ne, List.drop_eq_nil_iff]
    omega
  rw [podValue_of_isGauge, hsuccess, if_neg hdrop]
  intro first hfirst
  rw [hsuccess] at hfirst
  exact (hgauge first (List.mem_of_mem_drop (List.mem_of_mem_head? hfirst))).2

section Scrapes

variable (htimeout : parseDuration epa.spec.scrape.timeout = .ok timeout)
  (hfits : maxSamples * sampleSize ≤ maxBytes)

include htimeout hfits

/-- The windows of a gauge after some scrapes, and what they are worth. -/
lemma windows_of_exposures (h : IsGaugeOf epa ns epaName spec exposures) {store : MetricsStore V}
    (hempty : store.windows = ∅) (showStatus : ℕ → String) (useInsecureTls : Bool)
    (aggregation : AggregationType) :
    let windows := (exposures.foldl (scrapeInto parseDuration showStatus sampleSize epa maxSamples
      useInsecureTls) store).getWindows ns epaName spec.metricName
    (windows.map Prod.fst).Perm (exposingPods spec exposures) ∧
      windows.filterMap (fun entry => podValue aggregation entry.2) =
        (windows.map Prod.fst).map (exposedValue spec aggregation maxSamples exposures) := by
  intro windows
  have hlookup : ∀ pod, (exposures.foldl (scrapeInto parseDuration showStatus sampleSize epa
      maxSamples useInsecureTls) store).windows.lookup ⟨ns, epaName, spec.metricName, pod⟩ =
        if exposedBy spec exposures pod = [] then none
        else some ((exposedBy spec exposures pod).foldl MetricWindow.push (.new maxSamples)) := by
    intro pod
    rw [lookup_foldl_scrapeInto htimeout hfits h, hempty, AList.lookup_empty]
    rfl
  constructor
  · refine (List.perm_ext_iff_of_nodup (nodup_pods _ _ _ _) (List.nodup_dedup _)).2 fun pod => ?_
    rw [mem_pods_iff, hlookup]
    exact ((ite_eq_left_iff.trans (by simp)).not).trans mem_exposingPods_iff.symm
  · rw [List.map_map, ← List.filterMap_eq_map]
    refine List.filterMap_congr fun entry hentry => ?_
    obtain ⟨pod, w⟩ := entry
    have hw := MetricsStore.mem_getWindows.1 hentry
    rw [hlookup] at hw
    split at hw
    · cases hw
    · rename_i hne
      obtain rfl := Option.some.inj hw
      refine podValue_foldl_push hne fun sample hsample => ?_
      obtain ⟨x, -, hx⟩ := List.mem_filterMap.1 hsample
      unfold exposedSample at hx
      split at hx
      · cases hx
      · obtain rfl := Option.some.inj hx
        exact ⟨rfl, rfl⟩

/-- The answer for a gauge after some scrapes. -/
lemma answerLocally_of_exposures (h : IsGaugeOf epa ns epaName spec exposures) :
    answerLocally none (exposures.foldl (scrapeInto parseDuration showStatus sampleSize epa
        maxSamples useInsecureTls) (setMetricConfigs ns epaName epa .new)) ns epaName
          spec.metricName =
      exposedAnswer spec (spec.aggregationType.getD epa.spec.scrape.aggregationType) maxSamples
        exposures := by
  have hconfig : (exposures.foldl (scrapeInto parseDuration showStatus sampleSize epa maxSamples
      useInsecureTls) (setMetricConfigs ns epaName epa .new)).getMetricConfig ns epaName
        spec.metricName = spec.aggregationType.getD epa.spec.scrape.aggregationType := by
    rw [MetricsStore.getMetricConfig, configs_foldl_scrapeInto hfits]
    exact getMetricConfig_setMetricConfigs h.entry
  obtain ⟨hperm, hvalues⟩ := windows_of_exposures htimeout hfits h
    (Scheduler.windows_setMetricConfigs ns epaName epa (.new : MetricsStore V)) showStatus
    useInsecureTls (spec.aggregationType.getD epa.spec.scrape.aggregationType)
  have hempty : ((exposures.foldl (scrapeInto parseDuration showStatus sampleSize epa maxSamples
      useInsecureTls) (setMetricConfigs ns epaName epa .new)).getWindows ns epaName
        spec.metricName).isEmpty = true ↔ exposingPods spec exposures = [] := by
    rw [List.isEmpty_iff, ← List.map_eq_nil_iff (f := Prod.fst)]
    exact ⟨fun hnil => (hnil ▸ hperm).nil_eq.symm, fun hnil => (hnil ▸ hperm).eq_nil⟩
  unfold answerLocally exposedAnswer
  simp only [hempty, hconfig, aggregateMetric, hvalues, (hperm.map _).sum_eq, List.length_map]
  split
  · rfl
  · rename_i hne
    rw [if_neg]
    intro hzero
    exact hne (hempty.1 (List.isEmpty_iff.2 (List.length_eq_zero_iff.1 hzero)))

end Scrapes

end Answer

/-- **From the pods to the autoscaler.** Pods expose a gauge that one entry of the EPA selects, and
are scraped in any order and any number of times, with windows that can be allocated. If nothing is
cached, a serving replica answers the request for the name in the autoscaler with the sum, over the
pods that have exposed the gauge, of the aggregate of the last samples of each. -/
theorem gauge_reaches_autoscaler {V β : Type} [Field V] [LinearOrder V] [FloorRing V]
    {parseF64 : List Char → Option V} {parseDuration : String → Except String ℕ}
    {showStatus : ℕ → String} {sampleSize timeout : ℕ} (parseAuthority : List Char → Option β)
    (resolve : String → Option String) (b : Backends V) (r timestamp : String) (p : Replica)
    {epa : Epa} {ns epaName : String} {spec : MetricSpec} {maxSamples : ℕ} {useInsecureTls : Bool}
    {exposures : List (Exposure parseF64)} (h : IsGaugeOf epa ns epaName spec exposures)
    (htimeout : parseDuration epa.spec.scrape.timeout = .ok timeout)
    (hfits : maxSamples * sampleSize ≤ maxBytes) (hname : IsNamePair (epaName, spec.metricName))
    (hserve : shouldServeEpa r p.sets b.cluster.now ns epaName p.state = true)
    (hcache : (b.cache r).getCached b.cluster.now ⟨ns, epaName, spec.metricName⟩ = none)
    (hstore : b.store r = exposures.foldl (scrapeInto parseDuration showStatus sampleSize epa
      maxSamples useInsecureTls) (setMetricConfigs ns epaName epa .new)) :
    let name := externalMetricName epaName ns spec.metricName
    Request.handled parseAuthority resolve b p ⟨r, ns, name, .arrived⟩ timestamp =
      [⟨r, ns, name, .answered (Request.shown name timestamp (exposedAnswer spec
        (spec.aggregationType.getD epa.spec.scrape.aggregationType) maxSamples exposures))⟩] := by
  intro name
  have hkey : requestedKey ns name = .ok ⟨ns, epaName, spec.metricName⟩ := by
    have hparse : parseExternalMetricName ns name = .ok (epaName, ns, spec.metricName) :=
      parseExternalMetricName_eq_ok_iff.2 ⟨rfl, hname, rfl⟩
    rw [requestedKey, hparse]
    rfl
  have hdecide : b.decide r p ⟨ns, epaName, spec.metricName⟩ =
      .answer (b.localAnswer r ⟨ns, epaName, spec.metricName⟩) := by
    simp [Backends.decide, getExternalMetric, hserve]
  simp only [Request.handled, hkey, hdecide]
  rw [Backends.localAnswer, hcache, hstore, answerLocally_of_exposures htimeout hfits h]

/-- Decimal digits, as a rational number. -/
def readRational (s : List Char) : Option ℚ := (readDigits s).map fun n => (n : ℚ)

lemma isMetricName_queueDepth : IsMetricName "queue_depth".toList :=
  ⟨'q', "ueue_depth".toList, rfl, Or.inl (by decide), by simp; decide⟩

lemma isToken_of_eq_some (t : List Char) (h : none = some t) : IsToken t := nomatch h

/-- The gauge `queue_depth`, without labels. -/
def queueDepthFamily (valueText : List Char) (value : ℚ) (htoken : IsToken valueText)
    (hparses : readRational valueText = some value) : MetricFamily readRational where
  name := "queue_depth"
  type := .gauge
  samples := [⟨[], value, valueText, none, List.nodup_nil, htoken, hparses, isToken_of_eq_some⟩]
  isName := isMetricName_queueDepth

/-- A scrape of a pod. -/
def queueDepthScrape (podName : String) (scrapedAt : ℕ) (valueText : List Char) (value : ℚ)
    (htoken : IsToken valueText) (hparses : readRational valueText = some value) :
    Exposure readRational :=
  ⟨⟨podName, some "default", some "10.0.0.7"⟩, [queueDepthFamily valueText value htoken hparses],
    scrapedAt⟩

/-- Two scrapes of one pod, and one of another in between. -/
def queueDepthScrapes : List (Exposure readRational) :=
  [queueDepthScrape "web-0" 0 ['3'] 3 ⟨by decide, by simp; decide⟩ (by decide +kernel),
    queueDepthScrape "web-1" 1 ['4'] 4 ⟨by decide, by simp; decide⟩ (by decide +kernel),
    queueDepthScrape "web-0" 2 ['5'] 5 ⟨by decide, by simp; decide⟩ (by decide +kernel)]

/-- The only entry of the EPA. -/
def queueDepthSpec : MetricSpec := ⟨"queue_depth", .averageValue, "30", none, none, none⟩

lemma queueDepthScrapes_isGaugeOf :
    IsGaugeOf (webEpa "15s") "default" "web" queueDepthSpec queueDepthScrapes where
  name := rfl
  entry := by decide
  pods := by simp [queueDepthScrapes, queueDepthScrape]
  plain := by simp [queueDepthScrapes, queueDepthScrape, queueDepthFamily]
  gauge := by simp [queueDepthScrapes, queueDepthScrape, queueDepthFamily]

/-- The owner after the scrapes. -/
def scrapedBackends : Backends ℚ :=
  { pairBackends with
    store := fun _ => queueDepthScrapes.foldl
      (scrapeInto (fun _ => .ok (secs 10)) toString 32 (webEpa "15s") 40 false)
      (setMetricConfigs "default" "web" (webEpa "15s") .new)
    cache := fun _ => ∅ }

/-- The average of 3 and 5 and the one value 4 of the other pod come to 8. -/
theorem gauge_reaches_autoscaler_two_pods :
    Request.handled some pairResolve scrapedBackends pairOwner
        ⟨"replica-b", "default", externalMetricName "web" "default" "queue_depth", .arrived⟩ "t" =
      [⟨"replica-b", "default", externalMetricName "web" "default" "queue_depth",
        .answered (.ok (valueList "web-default-queue_depth" 8 "t"))⟩] := by
  have hanswer : Request.shown (externalMetricName "web" "default" "queue_depth") "t"
      (exposedAnswer queueDepthSpec
        (queueDepthSpec.aggregationType.getD (webEpa "15s").spec.scrape.aggregationType) 40
        queueDepthScrapes) = .ok (valueList "web-default-queue_depth" 8 "t") := by
    decide +kernel
  have hserve : shouldServeEpa "replica-b" pairOwner.sets scrapedBackends.cluster.now "default"
      "web" pairOwner.state = true := by decide +kernel
  have hcache : (scrapedBackends.cache "replica-b").getCached scrapedBackends.cluster.now
      ⟨"default", "web", queueDepthSpec.metricName⟩ = none := rfl
  have hstore : scrapedBackends.store "replica-b" =
      queueDepthScrapes.foldl
        (scrapeInto (fun _ => .ok (secs 10)) toString 32 (webEpa "15s") 40 false)
        (setMetricConfigs "default" "web" (webEpa "15s") .new) := rfl
  rw [← hanswer]
  have hreaches := gauge_reaches_autoscaler some pairResolve scrapedBackends "replica-b" "t"
    pairOwner queueDepthScrapes_isGaugeOf rfl (by decide) (by decide) hserve hcache
    hstore
  exact hreaches

end ExternalPodAutoscaler.Webhook
