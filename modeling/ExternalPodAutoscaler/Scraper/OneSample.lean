/-
The samples of one scrape (`Worker::scrape_pod_static` of `scraper/worker.rs`).

A scrape pushes one sample for each entry of `spec.metrics` that selects a series of the
response.  The key of a window has the name of the metric but not the selector of the entry,
so entries that share a name share a window.

The main result of this file is `one_sample_iff`: a scrape adds at most one sample to each
window, with the sum of the series of one entry, exactly when no two entries of one name both
select a series of the response.  Two entries of one name are admitted, and in
`two_samples_of_one_scrape` both select.
-/
import ExternalPodAutoscaler.Scraper.Parser

namespace ExternalPodAutoscaler.Scraper

open ExternalPodAutoscaler.Api ExternalPodAutoscaler.Store
open ExternalPodAutoscaler.Webhook (validateEpaSpec parseU64)

section Scrape

variable {V : Type} [Add V] [Zero V]

/-- The series of a response that an entry of `spec.metrics` selects. -/
def selectedSeries (parsed : List (ParsedMetric V)) (spec : MetricSpec) : List (ParsedMetric V) :=
  parsed.filter fun m =>
    m.name == spec.metricName && spec.labelSelector.all (matchesLabelSelector m.labels)

/-- The samples of a response with the keys of their windows, in the order of the entries. -/
def scrapedSamples (ns epaName podName : String) (epa : Epa) (parsed : List (ParsedMetric V))
    (scrapedAt : ℕ) : List (SampleKey × LabeledSample V) :=
  (scrapedMetrics epa parsed).map fun (metricName, value, metricType) =>
    (⟨ns, epaName, metricName, podName⟩, ⟨value, scrapedAt, true, metricType⟩)

/-- `scrape_pod_static`: the samples that it pushes.  The response is its text, or why there
is none; the clock is read at `scrapedAt`. -/
def scrapePodStatic (parseF64 : List Char → Option V) (job : ScrapeJob)
    (response : Except String String) (scrapedAt : ℕ) :
    ParseResult (List (SampleKey × LabeledSample V)) :=
  match scrapeTarget job, response with
  | .error message, _ => throw message
  | .ok _, .error message => throw message
  | .ok (ns, epaName, _), .ok text => do
    let parsed ← parsePrometheusText parseF64 text
    pure (scrapedSamples ns epaName job.pod.name job.epa parsed scrapedAt)

/-- The samples that are pushed into the window of a key. -/
def samplesFor (key : SampleKey) (samples : List (SampleKey × LabeledSample V)) :
    List (LabeledSample V) :=
  (samples.filter fun entry => entry.1 = key).map Prod.snd

/-- The store after samples are pushed. -/
def pushSamples (maxSamples : ℕ) (store : MetricsStore V)
    (samples : List (SampleKey × LabeledSample V)) : MetricsStore V :=
  samples.foldl (fun store (key, sample) => store.pushSample key sample maxSamples) store

omit [Add V] [Zero V] in
/-- The window of a key gets the samples that are pushed into it, and no others. -/
lemma lookup_pushSamples (maxSamples : ℕ) (key : SampleKey)
    (samples : List (SampleKey × LabeledSample V)) (store : MetricsStore V) :
    (pushSamples maxSamples store samples).windows.lookup key =
      if samplesFor key samples = [] then store.windows.lookup key
      else some ((samplesFor key samples).foldl MetricWindow.push
        ((store.windows.lookup key).getD (.new maxSamples))) := by
  induction samples generalizing store with
  | nil => rfl
  | cons entry samples ih =>
      obtain ⟨key', sample⟩ := entry
      have hstep : pushSamples maxSamples store ((key', sample) :: samples) =
          pushSamples maxSamples (store.pushSample key' sample maxSamples) samples := rfl
      rw [hstep, ih]
      by_cases hkey : key' = key
      · subst hkey
        have hcons : samplesFor key' ((key', sample) :: samples) =
            sample :: samplesFor key' samples := by
          simp [samplesFor]
        rw [hcons, MetricsStore.lookup_pushSample_self, if_neg (List.cons_ne_nil _ _),
          List.foldl_cons, Option.getD_some]
        split
        · rename_i hnil
          rw [hnil]
          rfl
        · rfl
      · have hcons : samplesFor key ((key', sample) :: samples) = samplesFor key samples := by
          simp [samplesFor, hkey]
        rw [hcons, MetricsStore.lookup_pushSample_of_ne (Ne.symm hkey)]

/-! ### The entries behind the samples -/

variable {epa : Epa} {parsed : List (ParsedMetric V)} {ns epaName podName : String}
  {scrapedAt : ℕ} {spec : MetricSpec}

/-- The sum of the series that an entry selects. -/
def selectedSum (parsed : List (ParsedMetric V)) (spec : MetricSpec) : V :=
  ((selectedSeries parsed spec).map ParsedMetric.value).foldl (· + ·) 0

/-- An entry has a sample if it selects a series. -/
lemma scrapedMetric_eq_some_iff {entry : String × V × MetricType} :
    scrapedMetric parsed spec = some entry ↔ ∃ first rest, selectedSeries parsed spec =
      first :: rest ∧ entry = (spec.metricName, selectedSum parsed spec, first.metricType) := by
  have hmetric : scrapedMetric parsed spec = (selectedSeries parsed spec).head?.map
      fun first => (spec.metricName, selectedSum parsed spec, first.metricType) := rfl
  rw [hmetric]
  rcases selectedSeries parsed spec with _ | ⟨first, rest⟩
  · simp
  · simp [eq_comm]

/-- The value of a sample is the sum of the series of one entry. -/
lemma value_of_mem_scrapedSamples {sample : SampleKey × LabeledSample V}
    (h : sample ∈ scrapedSamples ns epaName podName epa parsed scrapedAt) :
    ∃ spec ∈ epa.spec.metrics, sample.1 = ⟨ns, epaName, spec.metricName, podName⟩ ∧
      sample.2.value = selectedSum parsed spec := by
  obtain ⟨entry, hentry, rfl⟩ := List.mem_map.1 h
  obtain ⟨spec, hspec, hscraped⟩ := List.mem_filterMap.1 hentry
  obtain ⟨first, rest, -, rfl⟩ := scrapedMetric_eq_some_iff.1 hscraped
  exact ⟨spec, hspec, rfl, rfl⟩

/-- The keys are distinct exactly if no two entries of one name both select a series. -/
lemma nodup_keys_iff :
    ((scrapedSamples ns epaName podName epa parsed scrapedAt).map Prod.fst).Nodup ↔
      epa.spec.metrics.Pairwise fun spec spec' => spec.metricName = spec'.metricName →
        selectedSeries parsed spec = [] ∨ selectedSeries parsed spec' = [] := by
  rw [scrapedSamples, List.map_map, List.Nodup, List.pairwise_map, scrapedMetrics,
    List.pairwise_filterMap]
  refine List.Pairwise.iff fun spec spec' => ?_
  constructor
  · intro h hname
    by_contra hboth
    push Not at hboth
    obtain ⟨first, rest, hfirst⟩ := List.exists_cons_of_ne_nil hboth.1
    obtain ⟨first', rest', hfirst'⟩ := List.exists_cons_of_ne_nil hboth.2
    refine h _ (scrapedMetric_eq_some_iff.2 ⟨first, rest, hfirst, rfl⟩) _
      (scrapedMetric_eq_some_iff.2 ⟨first', rest', hfirst', rfl⟩) ?_
    exact congrArg (fun name => (⟨ns, epaName, name, podName⟩ : SampleKey)) hname
  · intro h entry hentry entry' hentry' hkey
    obtain ⟨first, rest, hfirst, rfl⟩ := scrapedMetric_eq_some_iff.1 hentry
    obtain ⟨first', rest', hfirst', rfl⟩ := scrapedMetric_eq_some_iff.1 hentry'
    rcases h (SampleKey.mk.inj hkey).2.2.1 with hnil | hnil
    · rw [hnil] at hfirst
      cases hfirst
    · rw [hnil] at hfirst'
      cases hfirst'

omit [Add V] [Zero V] in
/-- Every window gets one sample at most exactly if the keys are distinct. -/
lemma samplesFor_length_le_one_iff {samples : List (SampleKey × LabeledSample V)} :
    (∀ key, (samplesFor key samples).length ≤ 1) ↔ (samples.map Prod.fst).Nodup := by
  rw [List.nodup_iff_count_le_one]
  refine forall_congr' fun key => ?_
  rw [samplesFor, List.length_map, ← List.countP_eq_length_filter, List.count_eq_countP,
    List.countP_map]
  have hcongr : ∀ entry ∈ samples, (decide (entry.1 = key)) = true ↔
      ((fun k => k == key) ∘ Prod.fst) entry = true := by
    intro entry _
    simp
  rw [List.countP_congr hcongr]

/-- **One scrape, one sample per window.** Let a scrape read a response.  It pushes at most one
sample into each window, with the sum of the series that one entry selects, if and only if no
two entries of one name both select a series. -/
theorem one_sample_iff {parseF64 : List Char → Option V} {job : ScrapeJob} {text : String}
    {samples : List (SampleKey × LabeledSample V)}
    (hscrape : scrapePodStatic parseF64 job (.ok text) scrapedAt = pure samples)
    (hparsed : parsePrometheusText parseF64 text = pure parsed) :
    ((∀ key, (samplesFor key samples).length ≤ 1) ∧
      ∀ sample ∈ samples, ∃ spec ∈ job.epa.spec.metrics,
        sample.1.metricName = spec.metricName ∧ sample.2.value = selectedSum parsed spec) ↔
      job.epa.spec.metrics.Pairwise fun spec spec' => spec.metricName = spec'.metricName →
        selectedSeries parsed spec = [] ∨ selectedSeries parsed spec' = [] := by
  unfold scrapePodStatic at hscrape
  split at hscrape
  · cases hscrape
  · cases hscrape
  · rename_i ns epaName podIp text' htarget htext
    obtain rfl := Except.ok.inj htext
    rw [hparsed] at hscrape
    have hsamples : scrapedSamples ns epaName job.pod.name job.epa parsed scrapedAt = samples :=
      Except.ok.inj (Option.some.inj hscrape)
    subst hsamples
    rw [samplesFor_length_le_one_iff, nodup_keys_iff]
    refine and_iff_left fun sample hsample => ?_
    obtain ⟨spec, hspec, hkey, hvalue⟩ := value_of_mem_scrapedSamples hsample
    exact ⟨spec, hspec, by rw [hkey], hvalue⟩

end Scrape

/-! ### Two entries of one name -/

/-- The series of one priority. -/
def priorityIs (priority : String) : LabelSelector := ⟨some [("priority", priority)], none⟩

/-- An EPA with one entry for each priority of the same metric. -/
def twoPrioritiesEpa : Epa :=
  { webEpa "15s" with
    spec := { (webEpa "15s").spec with
      metrics :=
        [⟨"queue_depth", .averageValue, "30", none, none, some (priorityIs "high")⟩,
          ⟨"queue_depth", .averageValue, "90", none, none, some (priorityIs "low")⟩] } }

/-- A job for one pod of the EPA. -/
def twoPrioritiesJob : ScrapeJob :=
  ⟨twoPrioritiesEpa, ⟨"web-0", some "default", some "10.0.0.7"⟩, 40, false⟩

/-- A response with a series of each priority. -/
def twoPrioritiesText : String :=
  "queue_depth\x7bpriority=\"high\"\x7d 42\nqueue_depth\x7bpriority=\"low\"\x7d 10\n"

/-- The series of the response. -/
def twoPrioritiesSeries : List (ParsedMetric ℕ) :=
  [⟨"queue_depth", [("priority", "high")], 42, .gauge⟩,
    ⟨"queue_depth", [("priority", "low")], 10, .gauge⟩]

/-- The samples of a scrape, both for one window. -/
def twoPrioritiesSamples : List (SampleKey × LabeledSample ℕ) :=
  [(⟨"default", "web", "queue_depth", "web-0"⟩, ⟨42, 0, true, .gauge⟩),
    (⟨"default", "web", "queue_depth", "web-0"⟩, ⟨10, 0, true, .gauge⟩)]

lemma parse_twoPrioritiesText :
    parsePrometheusText parseU64 twoPrioritiesText = pure twoPrioritiesSeries := by
  rfl

lemma scrape_twoPriorities : scrapePodStatic parseU64 twoPrioritiesJob (.ok twoPrioritiesText) 0 =
    pure twoPrioritiesSamples := by
  rfl

/-- The window of the pod after the scrape. -/
example : (pushSamples 40 .new twoPrioritiesSamples).getWindows "default" "web" "queue_depth" =
    [("web-0", ⟨[⟨42, 0, true, .gauge⟩, ⟨10, 0, true, .gauge⟩], 40⟩)] := by
  decide

/-- **Two samples of one scrape.** An EPA with two entries of one name is admitted, and a scrape
pushes the sums of both into one window. -/
theorem two_samples_of_one_scrape :
    (validateEpaSpec twoPrioritiesJob.epa).accepts = true ∧
    scrapePodStatic parseU64 twoPrioritiesJob (.ok twoPrioritiesText) 0 =
      pure twoPrioritiesSamples ∧
    ¬ ∀ key, (samplesFor key twoPrioritiesSamples).length ≤ 1 :=
  ⟨by decide +kernel, scrape_twoPriorities,
    fun h => absurd (h ⟨"default", "web", "queue_depth", "web-0"⟩) (by decide)⟩

theorem one_sample_iff_two_priorities :
    ((∀ key, (samplesFor key twoPrioritiesSamples).length ≤ 1) ∧
      ∀ sample ∈ twoPrioritiesSamples, ∃ spec ∈ twoPrioritiesJob.epa.spec.metrics,
        sample.1.metricName = spec.metricName ∧
          sample.2.value = selectedSum twoPrioritiesSeries spec) ↔
      twoPrioritiesJob.epa.spec.metrics.Pairwise fun spec spec' =>
        spec.metricName = spec'.metricName →
          selectedSeries twoPrioritiesSeries spec = [] ∨
            selectedSeries twoPrioritiesSeries spec' = [] :=
  one_sample_iff scrape_twoPriorities parse_twoPrioritiesText

end ExternalPodAutoscaler.Scraper
