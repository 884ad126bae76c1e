/-
Rates of counters (`calculate_rate` of `webhook/metrics/aggregation.rs`).

The webhook sums the increases between neighbouring samples of a window; where a sample is
smaller than the one before it, the counter is taken to have restarted at zero.  A sample is
the sum of all series that a pod exposes under the name of the metric, so a restart of one
series is not told from a restart of all.  Values are those of an ordered field, and sums are
exact.

The main result of this file is `increase_le_counted_iff`: the increase overstates what the
series have counted exactly when the drops of the sum are larger than what was lost in them.
It does not for a single series, nor if all series restart together
(`increase_le_counted_of_restarts`); it does in `restart_of_one_series`.
-/
import Mathlib
import ExternalPodAutoscaler.Lib.Counters
import ExternalPodAutoscaler.Scraper.Workers

namespace ExternalPodAutoscaler.Webhook

open ExternalPodAutoscaler.Api ExternalPodAutoscaler.Lib ExternalPodAutoscaler.Scraper
open ExternalPodAutoscaler.Store

/-! ### The rate of a window -/

section Rate

variable {V : Type} [Field V] [LinearOrder V]

/-- The increase between two neighbours: a drop is a restart. -/
def pairIncrease (before after : V) : V := if before ≤ after then after - before else after

/-- The increase over all pairs of neighbours. -/
def increase : List (LabeledSample V) → V
  | first :: second :: rest => pairIncrease first.value second.value + increase (second :: rest)
  | _ => 0

/-- `Duration::as_secs_f64`. -/
def asSecsF64 (d : ℕ) : V := (d : V) / 1000000000

/-- `calculate_rate`. -/
def calculateRate (samples : List (LabeledSample V)) : Option V :=
  match samples with
  | first :: second :: rest =>
    let last := (second :: rest).getLast (List.cons_ne_nil second rest)
    let elapsed : V := asSecsF64 (elapsed last.scrapedAt first.scrapedAt)
    if elapsed = 0 then some 0 else some (min (increase samples / elapsed) 1000000000)
  | _ => none

end Rate

/-! ### Scrapes of a family of counters -/

section Scrapes

variable {ι V : Type} [Fintype ι] [DecidableEq ι] [Field V] [LinearOrder V]

/-- What happens to the series up to a scrape, and the response. -/
structure CounterScrape (ι V : Type) [Zero V] [LE V] where
  changes : List (CounterChange ι V)
  scrapedAt : ℕ
  response : List (ParsedMetric V)

/-- The series of the response under the name are the counters, in any order. -/
structure Exposes (metricName : String) (values : ι → V) (response : List (ParsedMetric V)) :
    Prop where
  values : (((response.filter fun m => m.name == metricName).map ParsedMetric.value : List V) :
    Multiset V) = Finset.univ.val.map values
  counter : ∀ m ∈ response, m.name = metricName → m.metricType = .counter

/-- Every response exposes the counters, which have the given values at first. -/
def IsHistory (metricName : String) : (ι → V) → List (CounterScrape ι V) → Prop
  | _, [] => True
  | values, scrape :: scrapes =>
    Exposes metricName (valuesAfter values scrape.changes) scrape.response ∧
      IsHistory metricName (valuesAfter values scrape.changes) scrapes

/-- The sample of a response is pushed into the window of the metric. -/
def pushScrape (spec : MetricSpec) (w : MetricWindow V) (scrape : CounterScrape ι V) :
    MetricWindow V :=
  match scrapedMetric scrape.response spec with
  | some (_, value, metricType) => w.push ⟨value, scrape.scrapedAt, true, metricType⟩
  | none => w

/-- The window after the scrapes. -/
def windowAfter (spec : MetricSpec) (maxSamples : ℕ) (scrapes : List (CounterScrape ι V)) :
    MetricWindow V :=
  scrapes.foldl (pushScrape spec) (MetricWindow.new maxSamples)

/-- What happens to the sum of the series between two scrapes. -/
structure Interval (V : Type) where
  before : V
  after : V
  counted : V
  lost : V

/-- The interval up to each scrape. -/
def intervals : (ι → V) → List (CounterScrape ι V) → List (Interval V)
  | _, [] => []
  | values, scrape :: scrapes =>
    ⟨∑ i, values i, ∑ i, valuesAfter values scrape.changes i, totalCounted scrape.changes,
      totalLost values scrape.changes⟩ :: intervals (valuesAfter values scrape.changes) scrapes

/-- The intervals between the first and the last sample of the window. -/
def intervalsInWindow (maxSamples : ℕ) (values : ι → V) (scrapes : List (CounterScrape ι V)) :
    List (Interval V) :=
  (intervals values scrapes).drop (scrapes.length - max maxSamples 1 + 1)

/-- The sum is smaller than at the scrape before. -/
def Interval.Drops (I : Interval V) : Prop := I.after < I.before

instance (I : Interval V) : Decidable I.Drops := inferInstanceAs (Decidable (_ < _))

/-! ### The samples of the window -/

variable {values : ι → V} {spec : MetricSpec} {scrapes : List (CounterScrape ι V)}

/-- The samples of the scrapes. -/
def samplesOf : (ι → V) → List (CounterScrape ι V) → List (LabeledSample V)
  | _, [] => []
  | values, scrape :: scrapes =>
    ⟨∑ i, valuesAfter values scrape.changes i, scrape.scrapedAt, true, .counter⟩ ::
      samplesOf (valuesAfter values scrape.changes) scrapes

lemma length_samplesOf (values : ι → V) (scrapes : List (CounterScrape ι V)) :
    (samplesOf values scrapes).length = scrapes.length := by
  induction scrapes generalizing values with
  | nil => rfl
  | cons scrape scrapes ih => rw [samplesOf, List.length_cons, ih, List.length_cons]

omit [DecidableEq ι] [LinearOrder V] in
/-- The series of a response are summed. -/
lemma scrapedMetric_of_exposes [Nonempty ι] (hsel : spec.labelSelector = none)
    {response : List (ParsedMetric V)} (h : Exposes spec.metricName values response) :
    scrapedMetric response spec = some (spec.metricName, ∑ i, values i, .counter) := by
  have hmatched : (response.filter fun m => m.name == spec.metricName &&
      spec.labelSelector.all (matchesLabelSelector m.labels)) =
      response.filter fun m => m.name == spec.metricName := by
    simp [hsel]
  have hsum : ((response.filter fun m => m.name == spec.metricName).map
      ParsedMetric.value).foldl (· + ·) 0 = ∑ i, values i := by
    rw [← List.sum_eq_foldl, ← Multiset.sum_coe, h.values]
    rfl
  rw [scrapedMetric, hmatched, hsum]
  rcases hseries : response.filter fun m => m.name == spec.metricName with _ | ⟨first, rest⟩
  · -- there is a series
    have hnone := h.values
    rw [hseries] at hnone
    have hcard : 0 = Fintype.card ι := by simpa using congrArg Multiset.card hnone
    exact absurd hcard Fintype.card_ne_zero.symm
  · have hmem : first ∈ response.filter fun m => m.name == spec.metricName := by
      rw [hseries]
      exact List.mem_cons_self
    obtain ⟨hfirst, hname⟩ := List.mem_filter.1 hmem
    have htype := h.counter first hfirst (by simpa using hname)
    rw [hseries, List.head?_cons, Option.map_some, htype]

/-- The window holds the last of the samples. -/
lemma samples_windowAfter [Nonempty ι] (hsel : spec.labelSelector = none)
    (h : IsHistory spec.metricName values scrapes) (maxSamples : ℕ) :
    (windowAfter spec maxSamples scrapes).samples =
      (samplesOf values scrapes).drop (scrapes.length - max maxSamples 1) := by
  have hpush : ∀ w : MetricWindow V, scrapes.foldl (pushScrape spec) w =
      (samplesOf values scrapes).foldl MetricWindow.push w := by
    induction scrapes generalizing values with
    | nil => exact fun w => rfl
    | cons scrape scrapes ih =>
        intro w
        obtain ⟨hexposes, hrest⟩ := h
        rw [List.foldl_cons, samplesOf, List.foldl_cons, ← ih hrest, pushScrape,
          scrapedMetric_of_exposes hsel hexposes]
  rw [windowAfter, hpush, (MetricWindow.samples_foldl_push maxSamples _).1, length_samplesOf]

/-! ### Increases and intervals -/

/-- What an interval adds to the increase. -/
def Interval.increase (I : Interval V) : V := pairIncrease I.before I.after

lemma increase_samplesOf {s : LabeledSample V} (hs : s.value = ∑ i, values i)
    (scrapes : List (CounterScrape ι V)) :
    increase (s :: samplesOf values scrapes) =
      ((intervals values scrapes).map Interval.increase).sum := by
  induction scrapes generalizing values s with
  | nil => rfl
  | cons scrape scrapes ih =>
      rw [samplesOf, increase, ih rfl, intervals, List.map_cons, List.sum_cons, hs]
      rfl

/-- The increase of the last samples is that of the intervals between them. -/
lemma increase_drop_samplesOf (values : ι → V) (scrapes : List (CounterScrape ι V)) (k : ℕ) :
    increase ((samplesOf values scrapes).drop k) =
      (((intervals values scrapes).drop (k + 1)).map Interval.increase).sum := by
  induction scrapes generalizing values k with
  | nil => simp [samplesOf, intervals, increase]
  | cons scrape scrapes ih =>
      cases k with
      | zero => exact increase_samplesOf rfl scrapes
      | succ k => exact ih (valuesAfter values scrape.changes) k

end Scrapes

section Balance

variable {ι V : Type} [Fintype ι] [DecidableEq ι] [Field V] [LinearOrder V] [IsStrictOrderedRing V]
  {values : ι → V} {scrapes : List (CounterScrape ι V)}

lemma interval_balance {I : Interval V} (hI : I ∈ intervals values scrapes) :
    I.after + I.lost = I.before + I.counted := by
  induction scrapes generalizing values with
  | nil => simp [intervals] at hI
  | cons scrape scrapes ih =>
      rcases List.mem_cons.1 hI with rfl | hI
      · exact sum_valuesAfter values scrape.changes
      · exact ih hI

/-- Increases are what was counted, without what was lost, and with the sums before drops. -/
lemma sum_increase {Is : List (Interval V)}
    (h : ∀ I ∈ Is, I.after + I.lost = I.before + I.counted) :
    (Is.map Interval.increase).sum + (Is.map Interval.lost).sum =
      (Is.map Interval.counted).sum + ((Is.filter fun I => I.Drops).map Interval.before).sum := by
  induction Is with
  | nil => simp
  | cons I Is ih =>
      have hrest := ih fun I' hI' => h I' (List.mem_cons_of_mem _ hI')
      have hI := h I List.mem_cons_self
      rw [List.map_cons, List.map_cons, List.map_cons, List.sum_cons, List.sum_cons, List.sum_cons]
      by_cases hdrop : I.Drops
      · have hinc : I.increase = I.after := if_neg (not_le.2 hdrop)
        rw [List.filter_cons_of_pos (by simpa using hdrop), List.map_cons, List.sum_cons, hinc]
        linear_combination hrest + hI
      · have hinc : I.increase = I.after - I.before := if_pos (not_lt.1 hdrop)
        rw [List.filter_cons_of_neg (by simpa using hdrop), hinc]
        linear_combination hrest + hI

lemma increase_windowAfter [Nonempty ι] {spec : MetricSpec} (hsel : spec.labelSelector = none)
    (h : IsHistory spec.metricName values scrapes) (maxSamples : ℕ) :
    increase (windowAfter spec maxSamples scrapes).samples +
        ((intervalsInWindow maxSamples values scrapes).map Interval.lost).sum =
      ((intervalsInWindow maxSamples values scrapes).map Interval.counted).sum +
        (((intervalsInWindow maxSamples values scrapes).filter fun I => I.Drops).map
          Interval.before).sum := by
  rw [samples_windowAfter hsel h, increase_drop_samplesOf]
  exact sum_increase fun I hI => interval_balance (List.mem_of_mem_drop hI)

/-- **Increases of counters.** Let a pod expose a family of counters under the name of a metric
without a label selector.  The increase over the window of the sums is at most what the series
have counted between its first and its last sample exactly when the sums before the drops are
in all at most what the series have lost by restarts. -/
theorem increase_le_counted_iff [Nonempty ι] {spec : MetricSpec} (hsel : spec.labelSelector = none)
    (h : IsHistory spec.metricName values scrapes) (maxSamples : ℕ) :
    increase (windowAfter spec maxSamples scrapes).samples ≤
        ((intervalsInWindow maxSamples values scrapes).map Interval.counted).sum ↔
      (((intervalsInWindow maxSamples values scrapes).filter fun I => I.Drops).map
          Interval.before).sum ≤
        ((intervalsInWindow maxSamples values scrapes).map Interval.lost).sum := by
  have hbalance := increase_windowAfter hsel h maxSamples
  constructor
  · intro hle
    linarith
  · intro hle
    linarith

/-- A drop of the sum that is no larger than what was lost. -/
lemma sum_before_le_sum_lost {Is : List (Interval V)} (hlost : ∀ I ∈ Is, 0 ≤ I.lost)
    (h : ∀ I ∈ Is, I.Drops → I.before ≤ I.lost) :
    ((Is.filter fun I => I.Drops).map Interval.before).sum ≤ (Is.map Interval.lost).sum := by
  induction Is with
  | nil => simp
  | cons I Is ih =>
      have hrest := ih (fun I' hI' => hlost I' (List.mem_cons_of_mem _ hI'))
        fun I' hI' => h I' (List.mem_cons_of_mem _ hI')
      rw [List.map_cons, List.sum_cons]
      by_cases hdrop : I.Drops
      · rw [List.filter_cons_of_pos (by simpa using hdrop), List.map_cons, List.sum_cons]
        exact add_le_add (h I List.mem_cons_self hdrop) hrest
      · rw [List.filter_cons_of_neg (by simpa using hdrop)]
        exact le_add_of_nonneg_of_le (hlost I List.mem_cons_self) hrest

/-- In the changes before each scrape either every series restarts or none does. -/
def RestartsTogether (scrapes : List (CounterScrape ι V)) : Prop :=
  ∀ scrape ∈ scrapes, (∀ i, .reset i ∈ scrape.changes) ∨ ∀ i, .reset i ∉ scrape.changes

lemma interval_of_restarts (hvalues : ∀ i, 0 ≤ values i) (h : RestartsTogether scrapes)
    {I : Interval V} (hI : I ∈ intervals values scrapes) :
    0 ≤ I.lost ∧ (I.Drops → I.before ≤ I.lost) := by
  induction scrapes generalizing values with
  | nil => simp [intervals] at hI
  | cons scrape scrapes ih =>
      rcases List.mem_cons.1 hI with rfl | hI
      · refine ⟨totalLost_nonneg hvalues _, fun hdrop => ?_⟩
        rcases h scrape List.mem_cons_self with hall | hnone
        · exact sum_le_totalLost hvalues fun i _ => hall i
        · -- without a restart the sum does not drop
          refine absurd hdrop (not_lt.2 (Finset.sum_le_sum fun i _ => ?_))
          exact le_valuesAfter_of_no_reset (hnone i)
      · exact ih (valuesAfter_nonneg hvalues _) (fun s hs => h s (List.mem_cons_of_mem _ hs)) hI

/-- **Restarts of a pod.** The increase does not overstate what was counted if the series
always restart together; a single series always does. -/
theorem increase_le_counted_of_restarts [Nonempty ι] {spec : MetricSpec}
    (hsel : spec.labelSelector = none) (h : IsHistory spec.metricName values scrapes)
    (hvalues : ∀ i, 0 ≤ values i) (hrestarts : Subsingleton ι ∨ RestartsTogether scrapes)
    (maxSamples : ℕ) :
    increase (windowAfter spec maxSamples scrapes).samples ≤
      ((intervalsInWindow maxSamples values scrapes).map Interval.counted).sum := by
  have htogether : RestartsTogether scrapes := by
    rcases hrestarts with hsingle | htogether
    · intro scrape _
      by_cases hany : ∃ i, .reset i ∈ scrape.changes
      · obtain ⟨i, hi⟩ := hany
        exact Or.inl fun j => Subsingleton.elim i j ▸ hi
      · exact Or.inr (not_exists.1 hany)
    · exact htogether
  have hall : ∀ I ∈ intervalsInWindow maxSamples values scrapes,
      0 ≤ I.lost ∧ (I.Drops → I.before ≤ I.lost) :=
    fun I hI => interval_of_restarts hvalues htogether (List.mem_of_mem_drop hI)
  have hdrops := sum_before_le_sum_lost (fun I hI => (hall I hI).1) fun I hI => (hall I hI).2
  have hbalance := increase_windowAfter hsel h maxSamples
  linarith

end Balance

/-! ### A restart of one series -/

/-- A scrape of two queues. -/
def queueScrape (changes : List (CounterChange Bool ℚ)) (scrapedAt : ℕ) (first second : ℚ) :
    CounterScrape Bool ℚ where
  changes := changes
  scrapedAt := scrapedAt
  response :=
    [⟨"jobs_total", [("queue", "first")], first, .counter⟩,
      ⟨"jobs_total", [("queue", "second")], second, .counter⟩]

/-- The metric `jobs_total`, without a label selector. -/
def jobsMetric : MetricSpec := ⟨"jobs_total", .averageValue, "30", none, none, none⟩

/-- Two queues have done 1000 and 10 jobs; the first one restarts. -/
def queueScrapes : List (CounterScrape Bool ℚ) :=
  [queueScrape [.add false 1000 (by norm_num), .add true 10 (by norm_num)] 0 1000 10,
    queueScrape [.reset false] (secs 15) 0 10]

lemma counter_queueScrape (changes : List (CounterChange Bool ℚ)) (scrapedAt : ℕ)
    (first second : ℚ) : ∀ m ∈ (queueScrape changes scrapedAt first second).response,
      m.name = jobsMetric.metricName → m.metricType = .counter := by
  simp [queueScrape]

lemma isHistory_queueScrapes :
    IsHistory jobsMetric.metricName (fun _ : Bool => 0) queueScrapes :=
  ⟨⟨by decide +kernel, counter_queueScrape _ _ _ _⟩,
    ⟨by decide +kernel, counter_queueScrape _ _ _ _⟩, trivial⟩

/-- **A restart of one series.** No job is done between the two scrapes, and the increase is
10. -/
theorem restart_of_one_series :
    IsHistory jobsMetric.metricName (fun _ : Bool => 0) queueScrapes ∧
    increase (windowAfter jobsMetric 40 queueScrapes).samples = 10 ∧
    calculateRate (windowAfter jobsMetric 40 queueScrapes).samples = some (2 / 3) ∧
    ((intervalsInWindow 40 (fun _ : Bool => 0) queueScrapes).map Interval.counted).sum = 0 :=
  ⟨isHistory_queueScrapes, by decide +kernel, by decide +kernel, by decide +kernel⟩

theorem increase_le_counted_iff_queues :
    increase (windowAfter jobsMetric 40 queueScrapes).samples ≤
        ((intervalsInWindow 40 (fun _ : Bool => 0) queueScrapes).map Interval.counted).sum ↔
      (((intervalsInWindow 40 (fun _ : Bool => 0) queueScrapes).filter fun I => I.Drops).map
          Interval.before).sum ≤
        ((intervalsInWindow 40 (fun _ : Bool => 0) queueScrapes).map Interval.lost).sum :=
  increase_le_counted_iff rfl isHistory_queueScrapes 40

end ExternalPodAutoscaler.Webhook
