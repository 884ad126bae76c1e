/-
The capacity of windows (`process_epa` of `scraper/scheduler.rs`).

A window is meant to hold the samples of one evaluation period.  The scheduler divides the
evaluation period of the scrape configuration by the interval, both in whole seconds, and
rounds up; an override of the period by a metric does not enter the capacity.

The main result of this file is `capacity_covers_iff`: the capacity covers the period of a
metric exactly when the division of the whole seconds gives what the division of the periods
themselves gives.  It does if nothing is overridden and the durations are whole seconds
(`capacity_covers_of_whole_seconds`).
-/
import Mathlib.Algebra.Order.Floor.Div
import ExternalPodAutoscaler.Scraper.Eviction

namespace ExternalPodAutoscaler.Scraper

open ExternalPodAutoscaler.Api ExternalPodAutoscaler.Membership ExternalPodAutoscaler.Store
open ExternalPodAutoscaler.Webhook

/-! ### Intervals that cover a period -/

/-- `n` intervals cover the period, and no fewer do unless there is just one. -/
def Covers (period interval n : ℕ) : Prop :=
  period ≤ n * interval ∧ (n = 1 ∨ (n - 1) * interval < period)

instance (period interval n : ℕ) : Decidable (Covers period interval n) :=
  inferInstanceAs (Decidable (_ ∧ _))

/-- Exactly one positive number of intervals covers the period. -/
lemma covers_iff {period interval n : ℕ} (hinterval : 0 < interval) (hn : 0 < n) :
    Covers period interval n ↔ n = max (period ⌈/⌉ interval) 1 := by
  have hle : ∀ m : ℕ, period ⌈/⌉ interval ≤ m ↔ period ≤ m * interval := fun m => by
    rw [ceilDiv_le_iff_le_mul hinterval, Nat.mul_comm]
  rw [Covers, ← hle, ← Nat.not_le, ← hle]
  omega

lemma maxSamples_pos (P I : ℕ) : 0 < maxSamples P I := by
  rw [maxSamples]
  omega

/-- The capacity covers the whole seconds of the period. -/
lemma covers_maxSamples (P I : ℕ) :
    Covers (asSecs P) (max (asSecs I) 1) (maxSamples P I) := by
  have hpos : 0 < max (asSecs I) 1 := by omega
  exact (covers_iff hpos (maxSamples_pos P I)).2 rfl

/-- A window has room for two samples exactly when the period is longer than the interval,
both in whole seconds. -/
lemma two_le_maxSamples_iff {P I : ℕ} : 2 ≤ maxSamples P I ↔ max (asSecs I) 1 < asSecs P := by
  have hpos : 0 < max (asSecs I) 1 := by omega
  have hle : maxSamples P I ≤ 1 ↔ asSecs P ⌈/⌉ max (asSecs I) 1 ≤ 1 := by
    rw [(covers_iff hpos (maxSamples_pos P I)).1 (covers_maxSamples P I)]
    omega
  rw [ceilDiv_le_iff_le_mul hpos, Nat.mul_one] at hle
  omega

/-! ### The capacity for a metric -/

/-- The durations of a metric: the evaluation period with its override, the one of the scrape
configuration, and the interval. -/
structure MetricDurations (parseDuration : String → Option ℕ) (epa : Epa) (metric : MetricSpec)
    (P scrapeP I : ℕ) : Prop where
  effective : parseDuration
    (metric.evaluationPeriod.getD epa.spec.scrape.evaluationPeriod) = some P
  scrape : parseDuration epa.spec.scrape.evaluationPeriod = some scrapeP
  interval : parseDuration epa.spec.scrape.interval = some I

section Capacity

variable {V : Type} {parseDuration : String → Option ℕ} {me : String} {env : Surroundings}
  {now : ℕ} {key : String} {epa : Epa} {metric : MetricSpec} {s : Scheduler V} {job : ScrapeJob}
  {P scrapeP I : ℕ}

/-- The capacity that a dispatched job carries. -/
lemma maxSamples_of_mem_processEpa
    (hP : parseDuration epa.spec.scrape.evaluationPeriod = some scrapeP)
    (hI : parseDuration epa.spec.scrape.interval = some I)
    (hjob : job ∈ (s.processEpa parseDuration me env now key epa).2.getD []) :
    job.maxSamples = maxSamples scrapeP I := by
  rcases s.processEpa_cases parseDuration me env now with
    ⟨-, hnone⟩ | ⟨ns, name, P', I', pods, -, hP', hI', -, -, hround⟩
  · rw [hnone] at hjob
    cases hjob
  · rw [hround] at hjob
    obtain ⟨pod, -, rfl⟩ := List.mem_map.1 hjob
    rw [hP] at hP'
    rw [hI] at hI'
    rw [Option.some.inj hP', Option.some.inj hI']

/-- **Capacity and evaluation period.** The capacity that `process_epa` gives to the windows
of a metric covers its evaluation period exactly when as many intervals of whole seconds cover
the whole seconds of the scrape configuration. -/
theorem capacity_covers_iff (h : MetricDurations parseDuration epa metric P scrapeP I)
    (hI : secs 1 ≤ I) (hP : 0 < P)
    (hjob : job ∈ (s.processEpa parseDuration me env now key epa).2.getD []) :
    Covers P I job.maxSamples ↔ Covers (asSecs scrapeP) (asSecs I) (P ⌈/⌉ I) := by
  have hIpos : 0 < I := Nat.lt_of_lt_of_le (by decide) hI
  have hsecs : 1 ≤ asSecs I := by
    rw [asSecs, Nat.le_div_iff_mul_le (by decide)]
    exact hI
  have hquot : 1 ≤ P ⌈/⌉ I := by
    rw [Nat.one_le_iff_ne_zero, ← Nat.pos_iff_ne_zero, ← Nat.not_le,
      ceilDiv_le_iff_le_mul hIpos, Nat.mul_zero]
    omega
  have hcapacity := covers_maxSamples scrapeP I
  rw [Nat.max_eq_left hsecs, covers_iff hsecs (maxSamples_pos scrapeP I)] at hcapacity
  rw [maxSamples_of_mem_processEpa h.scrape h.interval hjob,
    covers_iff hIpos (maxSamples_pos scrapeP I), covers_iff hsecs hquot, hcapacity]
  omega

/-- **Whole seconds.** Without an override the capacity covers the evaluation period if the
durations are whole seconds. -/
theorem capacity_covers_of_whole_seconds {p i : ℕ}
    (h : MetricDurations parseDuration epa metric P scrapeP I)
    (hover : metric.evaluationPeriod = none) (hP : P = secs p) (hI : I = secs i) (hi : 1 ≤ i)
    (hjob : job ∈ (s.processEpa parseDuration me env now key epa).2.getD []) :
    Covers P I job.maxSamples := by
  have hsame : scrapeP = P := by
    have heffective := h.effective
    rw [hover, Option.getD_none, h.scrape] at heffective
    exact Option.some.inj heffective
  have hasSecs : ∀ n, asSecs (secs n) = n := fun n => Nat.mul_div_cancel n (by decide)
  have hcapacity := covers_maxSamples scrapeP I
  rw [hsame, hP, hI, hasSecs, hasSecs, Nat.max_eq_left hi] at hcapacity
  rw [maxSamples_of_mem_processEpa h.scrape h.interval hjob, hsame, hP, hI]
  obtain ⟨hle, hlt⟩ := hcapacity
  simp only [Covers, secs, ← Nat.mul_assoc]
  refine ⟨Nat.mul_le_mul_right _ hle, hlt.imp id fun hlt => ?_⟩
  exact Nat.mul_lt_mul_of_pos_right hlt (by decide)

end Capacity

/-! ### An override of the evaluation period -/

/-- The pod of `webEpa`. -/
def webPod : Pod := ⟨"web-0", some "default", some "10.0.0.1"⟩

/-- Surroundings in which a single replica scrapes the pod. -/
def webSurroundings (epa : Epa) : Surroundings where
  sets := ⟨IdSet.empty.insert "replica-a", IdSet.empty, false⟩
  activeEpas := [("default/web", epa)]
  readyPods := fun _ _ => some [webPod]

/-- The metric of `webEpa`, over five minutes. -/
def overridingMetric : MetricSpec :=
  ⟨"queue_depth", .averageValue, "30", none, some "5m", none⟩

/-- `webEpa`, which is evaluated over ten minutes, with a metric over five. -/
def overridingEpa : Epa :=
  { webEpa "15s" with spec := { (webEpa "15s").spec with metrics := [overridingMetric] } }

lemma metricDurations_overridingEpa : MetricDurations TickRun.parseWebDuration overridingEpa
    overridingMetric (secs 300) (secs 600) (secs 15) := ⟨rfl, rfl, rfl⟩

/-- The job of the pod of `overridingEpa`. -/
def overridingJob : ScrapeJob := ⟨overridingEpa, webPod, 40, false⟩

lemma overridingJob_dispatched : overridingJob ∈ ((Scheduler.new 0 : Scheduler ℕ).processEpa
    TickRun.parseWebDuration "replica-a" (webSurroundings overridingEpa) 0 "default/web"
    overridingEpa).2.getD [] := by
  decide +kernel

/-- **An override does not size the window.** The windows of a metric that is to be evaluated
over five minutes have room for the samples of ten. -/
theorem override_ignored :
    (validateEpaSpec overridingEpa).accepts = true ∧
    ∃ metric ∈ overridingEpa.spec.metrics,
      MetricDurations TickRun.parseWebDuration overridingEpa metric (secs 300) (secs 600)
        (secs 15) ∧
      ∃ job ∈ ((Scheduler.new 0 : Scheduler ℕ).processEpa TickRun.parseWebDuration "replica-a"
        (webSurroundings overridingEpa) 0 "default/web" overridingEpa).2.getD [],
        ¬ Covers (secs 300) (secs 15) job.maxSamples :=
  ⟨by decide +kernel, overridingMetric, List.mem_singleton.2 rfl, metricDurations_overridingEpa,
    overridingJob, overridingJob_dispatched, by decide +kernel⟩

theorem capacity_covers_iff_overriding :
    Covers (secs 300) (secs 15) overridingJob.maxSamples ↔
      Covers (asSecs (secs 600)) (asSecs (secs 15)) (secs 300 ⌈/⌉ secs 15) :=
  capacity_covers_iff metricDurations_overridingEpa (by decide +kernel) (by decide +kernel)
    overridingJob_dispatched

-- three seconds are two intervals of 1500 ms, and the window has room for three samples
example : ¬ Covers (secs 3) 1500000000 (maxSamples (secs 3) 1500000000) := by decide +kernel

end ExternalPodAutoscaler.Scraper
