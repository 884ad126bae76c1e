/-
The age of the samples that a value is computed from (`get_external_metric` of
`webhook/metrics/handlers.rs`, `webhook/metrics/aggregation.rs` and `store/window.rs`).

A window is bounded by the number of its samples, and the aggregation takes all of them,
however old they are.  A failed scrape pushes nothing, so it ages the window.

The main results of this file are `served_fresh_iff`: in every run, all samples that
contribute to a value are of the evaluation period and one more interval exactly when every
older scrape has been followed by as many others as the window has room for; and
`served_fresh_of_regular`: they are, if the scrapes come often enough.  After two failed
scrapes they are not (`stale_sample_served`).
-/
import ExternalPodAutoscaler.Scraper.Sampling
import ExternalPodAutoscaler.Webhook.Aggregation

namespace ExternalPodAutoscaler.Webhook

open ExternalPodAutoscaler.Api ExternalPodAutoscaler.Lib ExternalPodAutoscaler.Membership
open ExternalPodAutoscaler.Scraper ExternalPodAutoscaler.Store

section Freshness

variable {V : Type} [Field V] [LinearOrder V]

/-! ### Contributing samples -/

/-- The value of a pod is its newest sample: the aggregation is `last`, and the pod exposes a
gauge. -/
def onlyLast (aggregation : AggregationType) (w : MetricWindow V) : Bool :=
  aggregation = .last && (successfulSamples w).head?.any fun first => first.metricType = .gauge

/-- The samples that contribute to the value of a pod, none if it is left out. -/
def contributing (aggregation : AggregationType) (w : MetricWindow V) : List (LabeledSample V) :=
  if (podValue aggregation w).isSome then
    if onlyLast aggregation w then (successfulSamples w).getLast?.toList else successfulSamples w
  else []

/-- How many scrapes replace all contributing samples. -/
def scrapesNeeded (aggregation : AggregationType) (w : MetricWindow V) : ℕ :=
  if onlyLast aggregation w then 1 else max w.maxSamples 1

variable {aggregation : AggregationType} {w : MetricWindow V}

/-- **Contributing samples and the history.** A condition holds of the contributing samples of
a pod that is counted exactly if each scrape of which it does not hold has been followed by
enough others. -/
lemma forall_contributing_iff {pushed : List (PushedSample V)} (hw : windowOf pushed = some w)
    (hsuccess : ∀ x ∈ pushed, x.1.success = true) (hvalue : (podValue aggregation w).isSome = true)
    {p : LabeledSample V → Prop} :
    (∀ x ∈ contributing aggregation w, p x) ↔
      ∀ older x newer, pushed.map Prod.fst = older ++ x :: newer → ¬ p x →
        scrapesNeeded aggregation w ≤ newer.length := by
  have hsamples := (samples_of_windowOf hw).1
  have hall : successfulSamples w = w.samples := by
    rw [successfulSamples, List.filter_eq_self, hsamples]
    intro x hx
    obtain ⟨y, hy, rfl⟩ := List.mem_map.1 (List.mem_of_mem_drop hx)
    exact hsuccess y hy
  rw [contributing, if_pos hvalue, hall, scrapesNeeded]
  by_cases hlast : onlyLast aggregation w = true
  · rw [if_pos hlast, if_pos hlast, ← forall_mem_drop_iff]
    have hne : pushed.map Prod.fst ≠ [] := by
      intro hempty
      rw [List.map_eq_nil_iff.1 hempty] at hw
      cases hw
    have hnewest : w.samples.getLast? = some ((pushed.map Prod.fst).getLast hne) := by
      have hpos : 0 < (pushed.map Prod.fst).length := List.length_pos_iff.2 hne
      rw [List.length_map] at hpos
      have hlt : ¬ (pushed.map Prod.fst).length ≤ pushed.length - max w.maxSamples 1 := by
        rw [List.length_map]
        omega
      rw [hsamples, List.getLast?_drop, if_neg hlt, List.getLast?_eq_some_getLast hne]
    rw [List.drop_length_sub_one hne, hnewest]
    rfl
  · rw [if_neg hlast, if_neg hlast]
    exact forall_mem_samples_iff hw

/-! ### Freshness over runs -/

/-- The samples that contribute to the value of a metric are of its evaluation period and one
more interval. -/
def ServedFresh (parseDuration : String → Option ℕ) (s : Sampling V)
    (ns epaName metricName : String) : Prop :=
  ∀ epa metric P scrapeP I, s.activeEpas.lookup (epaKey ns epaName) = some epa →
    metric ∈ epa.spec.metrics → metric.metricName = metricName →
    MetricDurations parseDuration epa metric P scrapeP I →
    ∀ podName w, (podName, w) ∈ s.store.getWindows ns epaName metricName →
      ∀ x ∈ contributing (s.store.getMetricConfig ns epaName metricName) w,
        s.now ≤ x.scrapedAt + (P + I)

/-- Every older scrape of a pod whose window counts has been followed by as many others as the
window has room for. -/
def KeptUp (parseDuration : String → Option ℕ) (s : Sampling V)
    (ns epaName metricName : String) : Prop :=
  ∀ epa metric P scrapeP I, s.activeEpas.lookup (epaKey ns epaName) = some epa →
    metric ∈ epa.spec.metrics → metric.metricName = metricName →
    MetricDurations parseDuration epa metric P scrapeP I →
    ∀ podName w, (podName, w) ∈ s.store.getWindows ns epaName metricName → IsCounted w →
      ∀ older x newer,
        (history ⟨ns, epaName, metricName, podName⟩ s.ops).map Prod.fst = older ++ x :: newer →
        x.scrapedAt + (P + I) < s.now →
        scrapesNeeded (s.store.getMetricConfig ns epaName metricName) w ≤ newer.length

variable {parseDuration : String → Option ℕ} {s : Sampling V} {ns epaName metricName : String}

/-- The contributing samples of a window of a reachable state. -/
lemma contributing_iff_of_reachable
    (hs : (samplingSystem V parseDuration).Reachable System.Any s) {podName : String}
    (hw : (podName, w) ∈ s.store.getWindows ns epaName metricName) {p : LabeledSample V → Prop} :
    (∀ x ∈ contributing aggregation w, p x) ↔ (IsCounted w → ∀ older x newer,
        (history ⟨ns, epaName, metricName, podName⟩ s.ops).map Prod.fst = older ++ x :: newer →
        ¬ p x → scrapesNeeded aggregation w ≤ newer.length) := by
  have hrec := Sampling.recorded_of_reachable hs
  have hwin := (hrec.windows _).symm.trans (MetricsStore.mem_getWindows.1 hw)
  rw [← podValue_isSome_iff aggregation]
  by_cases hvalue : (podValue aggregation w).isSome = true
  · rw [forall_contributing_iff hwin (fun x hx => (hrec.pushed _ x hx).1) hvalue]
    exact ⟨fun h _ => h, fun h => h hvalue⟩
  · refine iff_of_true (fun x hx => ?_) fun h => absurd h hvalue
    rw [contributing, if_neg hvalue] at hx
    cases hx

/-- **Served samples.** In every run, at every instant, the samples that contribute to a value
are of the evaluation period and one more interval exactly when every older scrape has been
followed by as many others as the window has room for. -/
theorem served_fresh_iff (hs : (samplingSystem V parseDuration).Reachable System.Any s) :
    ServedFresh parseDuration s ns epaName metricName ↔
      KeptUp parseDuration s ns epaName metricName := by
  refine forall₅_congr fun epa metric P scrapeP I => ?_
  refine imp_congr_right fun _ => imp_congr_right fun _ => imp_congr_right fun _ =>
    imp_congr_right fun _ => forall₂_congr fun podName w => imp_congr_right fun hw => ?_
  rw [contributing_iff_of_reachable hs hw]
  simp only [Nat.not_le]

/-! ### Regular scrapes -/

/-- The scrapes are at most `gap` apart, and so is now from the last one. -/
def Regular (gap now : ℕ) : List (LabeledSample V) → Prop
  | [] => True
  | [x] => now ≤ x.scrapedAt + gap
  | x :: y :: rest => y.scrapedAt ≤ x.scrapedAt + gap ∧ Regular gap now (y :: rest)

omit [Field V] [LinearOrder V] in
lemma Regular.tail {gap now : ℕ} {x : LabeledSample V} {rest : List (LabeledSample V)}
    (h : Regular gap now (x :: rest)) : Regular gap now rest := by
  rcases rest with _ | ⟨y, rest⟩
  · trivial
  · exact h.2

omit [Field V] [LinearOrder V] in
lemma Regular.of_append {gap now : ℕ} {older newer : List (LabeledSample V)}
    (h : Regular gap now (older ++ newer)) : Regular gap now newer := by
  induction older with
  | nil => exact h
  | cons x older ih => exact ih h.tail

omit [Field V] [LinearOrder V] in
/-- The age of a scrape is bounded by the number of those after it. -/
lemma Regular.le {gap now : ℕ} {x : LabeledSample V} {newer : List (LabeledSample V)}
    (h : Regular gap now (x :: newer)) : now ≤ x.scrapedAt + (newer.length + 1) * gap := by
  induction newer generalizing x with
  | nil =>
      rw [List.length_nil, Nat.zero_add, Nat.one_mul]
      exact h
  | cons y newer ih =>
      obtain ⟨hgap, hrest⟩ := h
      have hy := ih hrest
      rw [List.length_cons, Nat.succ_mul]
      omega

/-- **Regular scrapes.** If the scrapes of a pod come often enough for the capacity of its
window, the samples that contribute to its value are of the given period. -/
theorem served_fresh_of_regular (hs : (samplingSystem V parseDuration).Reachable System.Any s)
    {podName : String} {gap period : ℕ}
    (hw : (podName, w) ∈ s.store.getWindows ns epaName metricName)
    (hregular : Regular gap s.now
      ((history ⟨ns, epaName, metricName, podName⟩ s.ops).map Prod.fst))
    (hgap : scrapesNeeded aggregation w * gap ≤ period) :
    ∀ x ∈ contributing aggregation w, s.now ≤ x.scrapedAt + period := by
  rw [contributing_iff_of_reachable hs hw]
  intro _ older x newer hsplit hold
  by_contra hfew
  rw [hsplit] at hregular
  have hle := hregular.of_append.le
  have hmul : (newer.length + 1) * gap ≤ scrapesNeeded aggregation w * gap :=
    Nat.mul_le_mul_right gap (Nat.not_le.1 hfew)
  omega

end Freshness

/-! ### Failed scrapes -/

/-- A pod is scraped every fifteen seconds, over fifteen seconds; only the first scrape
succeeds. -/
def failingEvents : List (SamplingEvent ℚ) :=
  List.flatten
    [[.update (.upsert (Sampling.webEpaOver "15s"))],
      Sampling.webRound "15s", [.receive 0 (Sampling.webResponse 7), .push 0, .advance (secs 15)],
      Sampling.webRound "15s", [.fail 0, .advance (secs 15)],
      Sampling.webRound "15s", [.fail 0, .advance (secs 1)]]

/-- The state one second after the second failed scrape. -/
def afterFailures : Sampling ℚ :=
  ((Sampling.webSystem ℚ).exec (.start 0) failingEvents).get (by decide +kernel)

lemma afterFailures_reachable : (Sampling.webSystem ℚ).Reachable System.Any afterFailures :=
  .of_exec ⟨0, rfl⟩ (Option.some_get _).symm

/-- The window of the pod. -/
def staleWindow : MetricWindow ℚ := ⟨[⟨7, 0, true, .gauge⟩], 1⟩

lemma mem_getWindows_afterFailures : ("web-0", staleWindow) ∈
    afterFailures.store.getWindows "default" "web" "queue_depth" := by
  decide +kernel

/-- **A stale sample is served.** Both the evaluation period and the interval are fifteen
seconds, and the value is computed from a sample that is 31 seconds old. -/
theorem stale_sample_served :
    (validateEpaSpec (Sampling.webEpaOver "15s")).accepts = true ∧
    (Sampling.webSystem ℚ).Reachable System.Any afterFailures ∧
    answerLocally none afterFailures.store "default" "web" "queue_depth" = .ok 7 ∧
    ¬ ServedFresh TickRun.parseWebDuration afterFailures "default" "web" "queue_depth" := by
  refine ⟨by decide +kernel, afterFailures_reachable, by decide +kernel, fun hfresh => ?_⟩
  have hage := hfresh (Sampling.webEpaOver "15s") _ (secs 15) (secs 15) (secs 15)
    (by decide +kernel) List.mem_cons_self rfl ⟨rfl, rfl, rfl⟩ "web-0" staleWindow
    mem_getWindows_afterFailures ⟨7, 0, true, .gauge⟩ (by decide +kernel)
  exact absurd hage (by decide +kernel)

theorem served_fresh_iff_afterFailures :
    ServedFresh TickRun.parseWebDuration afterFailures "default" "web" "queue_depth" ↔
      KeptUp TickRun.parseWebDuration afterFailures "default" "web" "queue_depth" :=
  served_fresh_iff afterFailures_reachable

end ExternalPodAutoscaler.Webhook
