/-
Samples and changes of the spec (`scraper/service.rs`, `scraper/scheduler.rs`,
`scraper/worker.rs` and `store/ops.rs`).

EPAs are registered and changed while they are scraped.  A tick copies the registered EPAs;
the round of an entry drops the windows of other pods and dispatches a job for each ready
one; a worker that has received a response reads the clock and pushes the samples one by one.
Which entries have a round, and which job a worker takes, is left open here, so the runs
include those of the scheduler with its schedule and its ownership (`processEpa_matched`).

Beside the state of the code a `Sampling` has the list of the operations on the windows,
which no step reads.

The capacity of a window travels with each job and is used when the window is created.  The
main result of this file is `window_follows_spec_iff`: a window has the capacity of the
current spec exactly when the job that created it had it.
-/
import ExternalPodAutoscaler.Scraper.Capacity
import ExternalPodAutoscaler.Scraper.Service
import ExternalPodAutoscaler.Scraper.Workers
import ExternalPodAutoscaler.Store.History

namespace ExternalPodAutoscaler.Scraper

open ExternalPodAutoscaler.Api ExternalPodAutoscaler.Controller ExternalPodAutoscaler.Lib
open ExternalPodAutoscaler.Membership ExternalPodAutoscaler.Store

/-- A response whose samples are being pushed. -/
structure Scrape (V : Type) where
  job : ScrapeJob
  ns : String
  epaName : String
  scrapedAt : ℕ
  /-- The samples that are not pushed yet. -/
  todo : List (String × V × MetricType)
deriving DecidableEq

/-- The key of the window of a metric. -/
def Scrape.key {V : Type} (scrape : Scrape V) (metricName : String) : SampleKey :=
  ⟨scrape.ns, scrape.epaName, metricName, scrape.job.pod.name⟩

/-- The state of the scraper. -/
structure Sampling (V : Type) where
  now : ℕ
  activeEpas : AList fun _ : String => Epa
  /-- The entries that the tick in progress has not processed yet. -/
  entries : List (String × Epa)
  /-- The jobs that no worker has taken. -/
  jobs : List ScrapeJob
  scrapes : List (Scrape V)
  store : MetricsStore V
  /-- The operations on the windows so far. -/
  ops : List (StoreOp V)

inductive SamplingEvent (V : Type) where
  | advance (d : ℕ)
  /-- The update handler receives a message. -/
  | update (message : EpaUpdate)
  /-- The windows of an EPA that was deleted are removed. -/
  | removeEpa (ns epaName : String)
  /-- The scheduler copies the registered EPAs, in some order. -/
  | startTick (entries : List (String × Epa))
  /-- The next entry has a round with these ready pods. -/
  | round (pods : List Pod)
  /-- The next entry has no round. -/
  | skip
  /-- The scheduler evicts the stale windows. -/
  | evict
  /-- A worker takes a job and receives a response. -/
  | receive (i : ℕ) (parsed : List (ParsedMetric V))
  /-- A worker takes a job, which fails. -/
  | fail (i : ℕ)
  /-- A worker pushes the next sample of a response. -/
  | push (i : ℕ)

namespace Sampling

variable {V : Type}

/-- A scraper that has just started. -/
def start (now : ℕ) : Sampling V := ⟨now, ∅, [], [], [], .new, []⟩

/-- The state after an operation on the windows. -/
def operate (s : Sampling V) (op : StoreOp V) : Sampling V :=
  { s with store := s.store.apply op, ops := s.ops ++ [op] }

/-- `handle_updates`, for one message. -/
def handleUpdate (s : Sampling V) (message : EpaUpdate) : Sampling V :=
  { s with
    activeEpas := applyUpdate s.activeEpas message
    store :=
      match message with
      | .upsert epa =>
        match epa.metadata.ns, epa.metadata.name with
        | some ns, some name => setMetricConfigs ns name epa s.store
        | _, _ => s.store
      | .delete _ _ => s.store }

/-- The round of the next entry. -/
def round (parseDuration : String → Option ℕ) (s : Sampling V) (pods : List Pod) :
    Option (Sampling V) :=
  match s.entries with
  | [] => none
  | (key, epa) :: entries =>
    match splitKey key, parseDuration epa.spec.scrape.evaluationPeriod,
        parseDuration epa.spec.scrape.interval with
    | some (ns, name), some evaluationPeriod, some interval =>
      let s := s.operate (.retainPods ns name (pods.map Pod.name))
      some { s with
        entries := entries
        store := setMetricConfigs ns name epa s.store
        jobs := s.jobs ++ Scheduler.roundJobs epa evaluationPeriod interval pods }
    | _, _, _ => none

/-- A worker takes job `i` and receives a response. -/
def receive [Add V] [Zero V] (s : Sampling V) (i : ℕ) (parsed : List (ParsedMetric V)) :
    Option (Sampling V) := do
  let job ← s.jobs[i]?
  match scrapeTarget job with
  | .ok (ns, epaName, _) =>
    some { s with
      jobs := s.jobs.eraseIdx i
      scrapes := s.scrapes ++ [⟨job, ns, epaName, s.now, scrapedMetrics job.epa parsed⟩] }
  | .error _ => none

/-- The next sample of response `i` is pushed. -/
def push (s : Sampling V) (i : ℕ) : Option (Sampling V) := do
  let scrape ← s.scrapes[i]?
  match scrape.todo with
  | [] => none
  | (metricName, value, metricType) :: todo =>
    let s := s.operate (.push (scrape.key metricName) ⟨value, scrape.scrapedAt, true, metricType⟩
      scrape.job.maxSamples)
    some { s with scrapes := s.scrapes.set i { scrape with todo := todo } }

/-- The state after an event. -/
def step [Add V] [Zero V] (parseDuration : String → Option ℕ) (s : Sampling V) :
    SamplingEvent V → Option (Sampling V)
  | .advance d => some { s with now := s.now + d }
  | .update message => some (s.handleUpdate message)
  | .removeEpa ns epaName => some (s.operate (.removeEpa ns epaName))
  | .startTick entries =>
    if s.entries = [] ∧
        entries.Perm (s.activeEpas.entries.map fun entry => (entry.1, entry.2)) then
      some { s with entries := entries }
    else none
  | .round pods => s.round parseDuration pods
  | .skip =>
    match s.entries with
    | [] => none
    | _ :: entries => some { s with entries := entries }
  | .evict => some (s.operate (.evictStale s.now (secs 120)))
  | .receive i parsed => s.receive i parsed
  | .fail i => if i < s.jobs.length then some { s with jobs := s.jobs.eraseIdx i } else none
  | .push i => s.push i

end Sampling

/-- The scraper of one replica. -/
def samplingSystem (V : Type) [Add V] [Zero V] (parseDuration : String → Option ℕ) :
    System (Sampling V) (SamplingEvent V) where
  init s := ∃ now, s = .start now
  step := Sampling.step parseDuration

namespace Sampling

variable {V : Type} [Add V] [Zero V] {parseDuration : String → Option ℕ} {s s' : Sampling V}

/-! ### The steps -/

omit [Add V] [Zero V] in
lemma round_cases {pods : List Pod} (h : s.round parseDuration pods = some s') :
    ∃ key epa entries ns name P I, s.entries = (key, epa) :: entries ∧
      parseDuration epa.spec.scrape.evaluationPeriod = some P ∧
      parseDuration epa.spec.scrape.interval = some I ∧
      s' = { s.operate (.retainPods ns name (pods.map Pod.name)) with
        entries := entries
        store := setMetricConfigs ns name epa
          (s.operate (.retainPods ns name (pods.map Pod.name))).store
        jobs := s.jobs ++ Scheduler.roundJobs epa P I pods } := by
  unfold round at h
  split at h
  · cases h
  · rename_i key epa entries hentries
    split at h
    · rename_i ns name P I hkey hP hI
      exact ⟨key, epa, entries, ns, name, P, I, hentries, hP, hI, (Option.some.inj h).symm⟩
    · cases h

lemma receive_cases {i : ℕ} {parsed : List (ParsedMetric V)}
    (h : s.receive i parsed = some s') :
    ∃ job ns epaName, s.jobs[i]? = some job ∧
      s' = { s with
        jobs := s.jobs.eraseIdx i
        scrapes := s.scrapes ++
          [⟨job, ns, epaName, s.now, scrapedMetrics job.epa parsed⟩] } := by
  obtain ⟨job, hjob, h⟩ := Option.bind_eq_some_iff.1 h
  split at h
  · rename_i ns epaName podIp htarget
    exact ⟨job, ns, epaName, hjob, (Option.some.inj h).symm⟩
  · cases h

omit [Add V] [Zero V] in
lemma push_cases {i : ℕ} (h : s.push i = some s') :
    ∃ scrape metricName value metricType todo, s.scrapes[i]? = some scrape ∧
      scrape.todo = (metricName, value, metricType) :: todo ∧
      s' = { s.operate (.push (scrape.key metricName)
          ⟨value, scrape.scrapedAt, true, metricType⟩ scrape.job.maxSamples) with
        scrapes := s.scrapes.set i { scrape with todo := todo } } := by
  obtain ⟨scrape, hscrape, h⟩ := Option.bind_eq_some_iff.1 h
  split at h
  · cases h
  · rename_i metricName value metricType todo htodo
    exact ⟨scrape, metricName, value, metricType, todo, hscrape, htodo, (Option.some.inj h).symm⟩

/-- What a step does to the windows: nothing, or one operation, which is listed.  A push is
that of a successful scrape, with the capacity of its job. -/
lemma step_windows {e : SamplingEvent V} (h : s.step parseDuration e = some s') :
    s'.ops = s.ops ∧ s'.store.windows = s.store.windows ∨
      ∃ op, s'.ops = s.ops ++ [op] ∧ s'.store.windows = (s.store.apply op).windows ∧
        ∀ key sample n, op = .push key sample n →
          sample.success = true ∧ ∃ scrape ∈ s.scrapes, scrape.job.maxSamples = n := by
  cases e with
  | advance d =>
      obtain rfl := Option.some.inj h
      exact Or.inl ⟨rfl, rfl⟩
  | update message =>
      obtain rfl := Option.some.inj h
      refine Or.inl ⟨rfl, ?_⟩
      simp only [handleUpdate]
      split
      · split
        · exact Scheduler.windows_setMetricConfigs _ _ _ _
        · rfl
      · rfl
  | removeEpa ns epaName =>
      obtain rfl := Option.some.inj h
      exact Or.inr ⟨_, rfl, rfl, by simp⟩
  | startTick entries =>
      simp only [step] at h
      split at h
      · obtain rfl := Option.some.inj h
        exact Or.inl ⟨rfl, rfl⟩
      · cases h
  | round pods =>
      obtain ⟨key, epa, entries, ns, name, P, I, -, -, -, rfl⟩ := round_cases h
      exact Or.inr ⟨_, rfl, Scheduler.windows_setMetricConfigs _ _ _ _, by simp⟩
  | skip =>
      simp only [step] at h
      split at h
      · cases h
      · obtain rfl := Option.some.inj h
        exact Or.inl ⟨rfl, rfl⟩
  | evict =>
      obtain rfl := Option.some.inj h
      exact Or.inr ⟨_, rfl, rfl, by simp⟩
  | receive i parsed =>
      obtain ⟨job, ns, epaName, -, rfl⟩ := receive_cases h
      exact Or.inl ⟨rfl, rfl⟩
  | fail i =>
      simp only [step] at h
      split at h
      · obtain rfl := Option.some.inj h
        exact Or.inl ⟨rfl, rfl⟩
      · cases h
  | push i =>
      obtain ⟨scrape, metricName, value, metricType, todo, hscrape, -, rfl⟩ := push_cases h
      refine Or.inr ⟨_, rfl, rfl, fun key sample n hop => ?_⟩
      obtain ⟨-, rfl, rfl⟩ := StoreOp.push.inj hop
      exact ⟨rfl, scrape, List.mem_of_getElem? hscrape, rfl⟩

/-- **The scheduler.** What the processing of an entry does to the store and which jobs it
dispatches is what one of the steps does, whatever the schedule and the ownership are. -/
theorem processEpa_matched {key : String} {epa : Epa} {entries : List (String × Epa)}
    (hentries : s.entries = (key, epa) :: entries) (me : String) (env : Surroundings) (now : ℕ)
    {scheduler : Scheduler V} (hstore : scheduler.store = s.store) :
    ∃ e s', s.step parseDuration e = some s' ∧ s'.entries = entries ∧
      s'.store = (scheduler.processEpa parseDuration me env now key epa).1.store ∧
      s'.jobs = s.jobs ++ (scheduler.processEpa parseDuration me env now key epa).2.getD [] := by
  rcases scheduler.processEpa_cases parseDuration me env now with
    ⟨⟨ownership, hidle⟩, hnone⟩ | ⟨ns, name, P, I, pods, hkey, hP, hI, -, -, hround⟩
  · refine ⟨.skip, { s with entries := entries }, by simp [step, hentries], rfl, ?_, ?_⟩
    · rw [hidle, hstore]
    · rw [hnone, List.append_nil]
  · have hstep : (s.round parseDuration pods).isSome := by
      simp [round, hentries, hkey, hP, hI]
    obtain ⟨s', hs'⟩ := Option.isSome_iff_exists.1 hstep
    refine ⟨.round pods, s', hs', ?_, ?_, ?_⟩
    all_goals
      simp only [round, hentries, hkey, hP, hI] at hs'
      obtain rfl := Option.some.inj hs'
    · rfl
    · rw [hround, Scheduler.scheduleRound, hstore]
      rfl
    · rw [hround]
      rfl

/-! ### Jobs -/

/-- The job has the capacity of its spec. -/
def Sized (parseDuration : String → Option ℕ) (job : ScrapeJob) : Prop :=
  ∃ P I, parseDuration job.epa.spec.scrape.evaluationPeriod = some P ∧
    parseDuration job.epa.spec.scrape.interval = some I ∧ job.maxSamples = maxSamples P I

/-- The jobs that are dispatched and not done. -/
def allJobs (s : Sampling V) : List ScrapeJob := s.jobs ++ s.scrapes.map Scrape.job

/-- A step dispatches jobs of the capacity of their spec only. -/
lemma mem_allJobs_of_step {e : SamplingEvent V} (h : s.step parseDuration e = some s')
    {job : ScrapeJob} (hjob : job ∈ s'.allJobs) : job ∈ s.allJobs ∨ Sized parseDuration job := by
  have herase : ∀ i, job ∈ s.jobs.eraseIdx i → job ∈ s.allJobs :=
    fun i hmem => List.mem_append_left _ (List.mem_of_mem_eraseIdx hmem)
  cases e with
  | advance d =>
      obtain rfl := Option.some.inj h
      exact Or.inl hjob
  | update message =>
      obtain rfl := Option.some.inj h
      exact Or.inl hjob
  | removeEpa ns epaName =>
      obtain rfl := Option.some.inj h
      exact Or.inl hjob
  | startTick entries =>
      simp only [step] at h
      split at h
      · obtain rfl := Option.some.inj h
        exact Or.inl hjob
      · cases h
  | round pods =>
      obtain ⟨key, epa, entries, ns, name, P, I, -, hP, hI, rfl⟩ := round_cases h
      rcases List.mem_append.1 hjob with hjob | hjob
      · rcases List.mem_append.1 hjob with hjob | hjob
        · exact Or.inl (List.mem_append_left _ hjob)
        · obtain ⟨pod, -, rfl⟩ := List.mem_map.1 hjob
          exact Or.inr ⟨P, I, hP, hI, rfl⟩
      · exact Or.inl (List.mem_append_right _ hjob)
  | skip =>
      simp only [step] at h
      split at h
      · cases h
      · obtain rfl := Option.some.inj h
        exact Or.inl hjob
  | evict =>
      obtain rfl := Option.some.inj h
      exact Or.inl hjob
  | receive i parsed =>
      obtain ⟨job', ns, epaName, hjob', rfl⟩ := receive_cases h
      rcases List.mem_append.1 hjob with hjob | hjob
      · exact Or.inl (herase i hjob)
      · rw [List.map_append, List.mem_append, List.map_singleton, List.mem_singleton] at hjob
        rcases hjob with hjob | rfl
        · exact Or.inl (List.mem_append_right _ hjob)
        · exact Or.inl (List.mem_append_left _ (List.mem_of_getElem? hjob'))
  | fail i =>
      simp only [step] at h
      split at h
      · obtain rfl := Option.some.inj h
        rcases List.mem_append.1 hjob with hjob | hjob
        · exact Or.inl (herase i hjob)
        · exact Or.inl (List.mem_append_right _ hjob)
      · cases h
  | push i =>
      obtain ⟨scrape, metricName, value, metricType, todo, hscrape, -, rfl⟩ := push_cases h
      rcases List.mem_append.1 hjob with hjob | hjob
      · exact Or.inl (List.mem_append_left _ hjob)
      · obtain ⟨scrape', hscrape', rfl⟩ := List.mem_map.1 hjob
        refine Or.inl (List.mem_append_right _ (List.mem_map.2 ?_))
        rcases List.mem_or_eq_of_mem_set hscrape' with hscrape' | rfl
        · exact ⟨scrape', hscrape', rfl⟩
        · exact ⟨scrape, List.mem_of_getElem? hscrape, rfl⟩

/-! ### Windows and their histories -/

/-- The windows are those of the histories, which are of successful scrapes by jobs of the
capacity of their spec. -/
structure Recorded (parseDuration : String → Option ℕ) (s : Sampling V) : Prop where
  windows : ∀ key, s.store.windows.lookup key = windowOf (history key s.ops)
  sized : ∀ job ∈ s.allJobs, Sized parseDuration job
  pushed : ∀ key, ∀ x ∈ history key s.ops, x.1.success = true ∧ 0 < x.2

lemma Recorded.step (h : Recorded parseDuration s) {e : SamplingEvent V}
    (hs : s.step parseDuration e = some s') : Recorded parseDuration s' := by
  have hsized : ∀ job ∈ s'.allJobs, Sized parseDuration job := fun job hjob =>
    (mem_allJobs_of_step hs hjob).elim (h.sized job) id
  rcases step_windows hs with ⟨hops, hwindows⟩ | ⟨op, hops, hwindows, hpush⟩
  · refine ⟨fun key => ?_, hsized, ?_⟩
    · rw [hwindows, hops, h.windows]
    · rw [hops]
      exact h.pushed
  · refine ⟨fun key => ?_, hsized, fun key x hx => ?_⟩
    · rw [hwindows, hops, history_concat]
      exact lookup_apply (h.windows key) op
    · rw [hops, history_concat] at hx
      rcases mem_historyAfter hx with hx | hop
      · exact h.pushed key x hx
      · obtain ⟨hsuccess, scrape, hscrape, hn⟩ := hpush key x.1 x.2 hop
        obtain ⟨P, I, -, -, hmax⟩ := h.sized scrape.job
          (List.mem_append_right _ (List.mem_map.2 ⟨scrape, hscrape, rfl⟩))
        refine ⟨hsuccess, ?_⟩
        rw [← hn, hmax]
        exact maxSamples_pos P I

/-- **Windows and histories.** In every run the windows are those of the histories. -/
theorem recorded_of_reachable (hs : (samplingSystem V parseDuration).Reachable System.Any s) :
    Recorded parseDuration s := by
  refine hs.invariant ?_ fun s e s' h _ hstep => h.step hstep
  rintro s ⟨now, rfl⟩
  exact ⟨fun key => rfl, fun job hjob => absurd hjob List.not_mem_nil,
    fun key x hx => absurd hx List.not_mem_nil⟩

/-! ### Changes of the spec -/

/-- A worker pushes a sample into a window, for a job that was dispatched under the current
spec of its EPA; the evaluation period and the interval of the spec are `P` and `I`. -/
def PushesCurrent (parseDuration : String → Option ℕ) (key : SampleKey) (P I : ℕ)
    (s s' : Sampling V) : Prop :=
  ∃ i scrape metricName sample todo, s.scrapes[i]? = some scrape ∧
    scrape.todo = (metricName, sample) :: todo ∧ scrape.key metricName = key ∧
    s.activeEpas.lookup (epaKey scrape.ns scrape.epaName) = some scrape.job.epa ∧
    parseDuration scrape.job.epa.spec.scrape.evaluationPeriod = some P ∧
    parseDuration scrape.job.epa.spec.scrape.interval = some I ∧ s.push i = some s'

/-- From `s` to `s'` a window is not removed, and `n` samples are pushed into it, by jobs of
capacity `n`. -/
def ScrapedOn (key : SampleKey) (n : ℕ) (s s' : Sampling V) : Prop :=
  ∃ more, history key s'.ops = history key s.ops ++ more ∧ more.length = n ∧
    ∀ x ∈ more, x.2 = n

/-- The capacity of the job that created a window. -/
def createdWith (key : SampleKey) (s : Sampling V) : Option ℕ :=
  (history key s.ops).head?.map Prod.snd

omit [Add V] [Zero V] in
lemma createdWith_eq (h : Recorded parseDuration s) {key : SampleKey} {w : MetricWindow V}
    (hw : s.store.windows.lookup key = some w) :
    createdWith key s = some w.maxSamples ∧ 0 < w.maxSamples := by
  rw [h.windows] at hw
  have hhead := (samples_of_windowOf hw).2
  refine ⟨hhead, ?_⟩
  obtain ⟨first, hfirst, hn⟩ := Option.map_eq_some_iff.1 hhead
  rw [← hn]
  exact (h.pushed key first (List.mem_of_head? hfirst)).2

omit [Add V] [Zero V] in
/-- A window that is not removed keeps its capacity. -/
lemma createdWith_of_scrapedOn {key : SampleKey} {n c : ℕ} (hmore : ScrapedOn key n s s')
    (hs : createdWith key s = some c) : createdWith key s' = some c := by
  obtain ⟨more, hhistory, -, -⟩ := hmore
  rw [createdWith] at hs
  rw [createdWith, hhistory]
  rcases hold : history key s.ops with _ | ⟨first, rest⟩
  · simp [hold] at hs
  · simpa [hold] using hs

/-- **Windows and the current spec.** Let a worker push a sample of a job that was dispatched
under the current spec, and let as many samples as the spec has room for be pushed after it.
The window fits the spec at once, and is what a new window would be in the end, exactly when
the job that created it had the capacity of the spec. -/
theorem window_follows_spec_iff {key : SampleKey} {P I : ℕ} {s₁ s₂ : Sampling V}
    {es : List (SamplingEvent V)} {w₁ w₂ : MetricWindow V}
    (hs : (samplingSystem V parseDuration).Reachable System.Any s)
    (hpush : PushesCurrent parseDuration key P I s s₁)
    (hpath : (samplingSystem V parseDuration).Path System.Any s₁ es s₂)
    (hmore : ScrapedOn key (maxSamples P I) s₁ s₂)
    (hw₁ : s₁.store.windows.lookup key = some w₁) (hw₂ : s₂.store.windows.lookup key = some w₂) :
    (w₁.samples.length ≤ maxSamples P I ∧ w₂.samples.length = maxSamples P I ∧
        w₂ = ((history key s₂.ops).map Prod.fst).foldl MetricWindow.push
          (.new (maxSamples P I))) ↔
      createdWith key s₁ = some (maxSamples P I) := by
  obtain ⟨i, scrape, metricName, sample, todo, -, -, -, -, -, -, hstep⟩ := hpush
  have hreach : (samplingSystem V parseDuration).Reachable System.Any s₁ :=
    hs.step (e := .push i) trivial hstep
  have hrec₁ := recorded_of_reachable hreach
  have hrec₂ := recorded_of_reachable (hreach.path hpath)
  obtain ⟨hcreated₁, hpos⟩ := createdWith_eq hrec₁ hw₁
  have hcreated₂ := (createdWith_eq hrec₂ hw₂).1
  rw [createdWith_of_scrapedOn hmore hcreated₁] at hcreated₂
  have hcap : w₁.maxSamples = w₂.maxSamples := Option.some.inj hcreated₂
  have hwin₁ := (hrec₁.windows key).symm.trans hw₁
  have hwin₂ := (hrec₂.windows key).symm.trans hw₂
  have hlen₁ := length_samples_of_windowOf hwin₁
  have hlen₂ := length_samples_of_windowOf hwin₂
  have hn := maxSamples_pos P I
  have hlonger : (history key s₂.ops).length = (history key s₁.ops).length + maxSamples P I := by
    obtain ⟨more, hhistory, hlength, -⟩ := hmore
    rw [hhistory, List.length_append, hlength]
  have hnonempty : 0 < (history key s₁.ops).length := by
    rw [List.length_pos_iff]
    intro hempty
    rw [hempty] at hwin₁
    cases hwin₁
  rw [hcreated₁, Option.some.injEq]
  constructor
  · rintro ⟨-, hfull, -⟩
    omega
  · intro hsame
    refine ⟨by omega, by omega, ?_⟩
    rw [← hsame, hcap]
    exact eq_foldl_of_windowOf hwin₂

/-! ### A window that outlives its spec -/

/-- `webEpa` with an evaluation period. -/
def webEpaOver (evaluationPeriod : String) : Epa :=
  { webEpa "15s" with
    spec := { (webEpa "15s").spec with
      scrape := { (webEpa "15s").spec.scrape with evaluationPeriod := evaluationPeriod } } }

/-- The response of the pod. -/
def webResponse (value : V) : List (ParsedMetric V) := [⟨"queue_depth", [], value, .gauge⟩]

/-- A round of `webEpaOver`, up to the dispatch of its job. -/
def webRound (evaluationPeriod : String) : List (SamplingEvent V) :=
  [.startTick [("default/web", webEpaOver evaluationPeriod)], .round [webPod]]

/-- The system of the replica that scrapes the pod. -/
abbrev webSystem (V : Type) [Add V] [Zero V] : System (Sampling V) (SamplingEvent V) :=
  samplingSystem V TickRun.parseWebDuration

/-- The pod is scraped over five minutes; then the evaluation period becomes fifteen seconds,
and it is scraped again. -/
def shrinkEvents : List (SamplingEvent ℕ) :=
  List.flatten
    [[.update (.upsert (webEpaOver "5m"))],
      webRound "5m", [.receive 0 (webResponse 7), .push 0],
      [.advance (secs 15), .update (.upsert (webEpaOver "15s"))],
      webRound "15s", [.receive 0 (webResponse 8)]]

/-- The state before the second sample is pushed. -/
def beforeShrunk : Sampling ℕ :=
  ((webSystem ℕ).exec (.start 0) shrinkEvents).get (by decide +kernel)

/-- The state after it. -/
def afterShrunk : Sampling ℕ := (beforeShrunk.push 1).get (by decide +kernel)

lemma beforeShrunk_reachable : (webSystem ℕ).Reachable System.Any beforeShrunk :=
  .of_exec ⟨0, rfl⟩ (Option.some_get _).symm

lemma pushesCurrent_shrunk : PushesCurrent TickRun.parseWebDuration TickRun.webSample (secs 15)
    (secs 15) beforeShrunk afterShrunk := by
  refine ⟨1, ⟨⟨webEpaOver "15s", webPod, 1, false⟩, "default", "web", secs 15,
    [("queue_depth", 8, .gauge)]⟩, "queue_depth", (8, .gauge), [], ?_, rfl, rfl, ?_, rfl, rfl,
    (Option.some_get _).symm⟩
  · decide +kernel
  · decide +kernel

/-- **A window that outlives its spec.** After a sample of a job with room for one, the window
holds two. -/
theorem shrunk_window_too_long :
    (webSystem ℕ).Reachable System.Any beforeShrunk ∧
    PushesCurrent TickRun.parseWebDuration TickRun.webSample (secs 15) (secs 15) beforeShrunk
      afterShrunk ∧
    maxSamples (secs 15) (secs 15) = 1 ∧
    (afterShrunk.store.windows.lookup TickRun.webSample).map (fun w => w.samples.length) =
      some 2 :=
  ⟨beforeShrunk_reachable, pushesCurrent_shrunk, by decide +kernel, by decide +kernel⟩

/-- One more round. -/
def moreEvents : List (SamplingEvent ℕ) :=
  List.flatten [[.advance (secs 15)], webRound "15s", [.receive 0 (webResponse 9), .push 2]]

/-- The state after it. -/
def laterShrunk : Sampling ℕ := ((webSystem ℕ).exec afterShrunk moreEvents).get (by decide +kernel)

lemma scrapedOn_shrunk :
    ScrapedOn TickRun.webSample (maxSamples (secs 15) (secs 15)) afterShrunk laterShrunk :=
  ⟨[(⟨9, secs 30, true, .gauge⟩, 1)], by decide +kernel, by decide +kernel, by decide +kernel⟩

/-- The window of the pod in a state. -/
def webWindow (s : Sampling ℕ) : MetricWindow ℕ :=
  (s.store.windows.lookup TickRun.webSample).getD (.new 0)

lemma lookup_webWindow {s : Sampling ℕ}
    (h : (s.store.windows.lookup TickRun.webSample).isSome = true) :
    s.store.windows.lookup TickRun.webSample = some (webWindow s) := by
  obtain ⟨w, hw⟩ := Option.isSome_iff_exists.1 h
  rw [webWindow, hw, Option.getD_some]

theorem window_follows_spec_iff_shrunk :
    ((webWindow afterShrunk).samples.length ≤ maxSamples (secs 15) (secs 15) ∧
        (webWindow laterShrunk).samples.length = maxSamples (secs 15) (secs 15) ∧
        webWindow laterShrunk = ((history TickRun.webSample laterShrunk.ops).map
          Prod.fst).foldl MetricWindow.push (.new (maxSamples (secs 15) (secs 15)))) ↔
      createdWith TickRun.webSample afterShrunk = some (maxSamples (secs 15) (secs 15)) :=
  window_follows_spec_iff beforeShrunk_reachable pushesCurrent_shrunk
    (System.exec_eq_some_iff.1 (Option.some_get _).symm) scrapedOn_shrunk
    (lookup_webWindow (by decide +kernel)) (lookup_webWindow (by decide +kernel))

end Sampling

end ExternalPodAutoscaler.Scraper
