/-
The scrape scheduler (`scraper/scheduler.rs`).

At every tick the scheduler goes through the registered EPAs: it refreshes the ownership,
and for an EPA that this replica scrapes and whose next scrape is due it looks up the
ready pods, drops the windows of the other pods and dispatches a job for each ready one.
Once a minute it evicts the windows that have had no sample for two minutes.  Parsing of
durations and the lookup of pods are parameters.

The main results of this file are `dispatch_registered` and `dispatch_unregistered`: what
a tick does to one EPA, whatever the other EPAs are.
-/
import ExternalPodAutoscaler.Membership.TransitionState
import ExternalPodAutoscaler.Store.Window

namespace ExternalPodAutoscaler.Scraper

open ExternalPodAutoscaler.Api ExternalPodAutoscaler.Membership ExternalPodAutoscaler.Store

/-- What the scraper reads of a pod. -/
structure Pod where
  name : String
  ns : Option String
  podIp : Option String
deriving DecidableEq

/-- A job for the workers: scrape one pod for one EPA. -/
structure ScrapeJob where
  epa : Epa
  pod : Pod
  maxSamples : ℕ
  useInsecureTls : Bool
deriving DecidableEq

/-- The state of the scheduler, with the ownership and the store it shares with others. -/
structure Scheduler (V : Type) where
  /-- The next scheduled scrape of an EPA and the interval it was scheduled with. -/
  nextScrape : String → Option (ℕ × ℕ)
  lastEviction : ℕ
  ownership : TransitionState
  store : MetricsStore V

/-- What the scheduler reads from its surroundings at a tick. -/
structure Surroundings where
  /-- The membership view. -/
  sets : ReplicaSets
  /-- The registered EPAs, in the iteration order of the map. -/
  activeEpas : List (String × Epa)
  /-- The ready pods of a workload, `none` if a lookup fails. -/
  readyPods : String → TargetRef → Option (List Pod)

/-- `str::split_once('/')`. -/
def splitKey (key : String) : Option (String × String) :=
  match key.toList.dropWhile (· ≠ '/') with
  | [] => none
  | _ :: name => some (String.ofList (key.toList.takeWhile (· ≠ '/')), String.ofList name)

/-- `Duration::as_secs`. -/
def asSecs (d : ℕ) : ℕ := d / 1000000000

/-- The capacity of the windows of an EPA. -/
def maxSamples (evaluationPeriod interval : ℕ) : ℕ :=
  let intervalSecs := max (asSecs interval) 1
  max ((asSecs evaluationPeriod + intervalSecs - 1) / intervalSecs) 1

/-- Sets the aggregation of each metric of an EPA. -/
def setMetricConfigs {V : Type} (ns name : String) (epa : Epa) (store : MetricsStore V) :
    MetricsStore V :=
  epa.spec.metrics.foldl (fun store metric =>
    store.setMetricConfig ns name metric.metricName
      (metric.aggregationType.getD epa.spec.scrape.aggregationType)) store

namespace Scheduler

variable {V : Type}

/-- `Scheduler::new`, with an empty store. -/
def new (now : ℕ) : Scheduler V := ⟨fun _ => none, now, .new, .new⟩

section ProcessEpa

variable (parseDuration : String → Option ℕ) (me : String) (env : Surroundings) (now : ℕ)

/-- The state after the ready pods of an EPA that is due were looked up: the windows of
other pods are dropped, the next scrape is scheduled and the metrics are configured. -/
def scheduleRound (key ns name : String) (epa : Epa) (interval : ℕ) (pods : List Pod)
    (s : Scheduler V) : Scheduler V :=
  { s with
    nextScrape := Function.update s.nextScrape key (some (now + interval, interval))
    store := setMetricConfigs ns name epa
      (s.store.retainPodWindows ns name (pods.map Pod.name)).1 }

/-- The jobs of a round, one for each ready pod. -/
def roundJobs (epa : Epa) (evaluationPeriod interval : ℕ) (pods : List Pod) : List ScrapeJob :=
  pods.map fun pod =>
    { epa := epa
      pod := pod
      maxSamples := maxSamples evaluationPeriod interval
      -- TLS verification is skipped only when the block is there and says so
      useInsecureTls := (epa.spec.scrape.tls.map TlsConfig.insecureSkipVerify).getD false }

/-- The round of an EPA that is due.  `none` is an error. -/
def scrapeRound (key ns name : String) (epa : Epa) (evaluationPeriod interval : ℕ)
    (s : Scheduler V) : Scheduler V × Option (List ScrapeJob) :=
  match env.readyPods ns (epa.spec.scrapeTargetRef.getD epa.spec.scaleTargetRef) with
  | none => (s, none)
  | some pods =>
    (scheduleRound now key ns name epa interval pods s,
      some (roundJobs epa evaluationPeriod interval pods))

/-- Whether the scrape of an EPA is scheduled for later, with the interval it has now. -/
def isScheduledLater (s : Scheduler V) (key : String) (interval : ℕ) : Bool :=
  match s.nextScrape key with
  | some (nextTime, storedInterval) => storedInterval == interval && now < nextTime
  | none => false

/-- `process_epa`: the jobs it dispatches, or `none` for an error. -/
def processEpa (key : String) (epa : Epa) (s : Scheduler V) :
    Scheduler V × Option (List ScrapeJob) :=
  match splitKey key with
  | none => (s, none)
  | some (ns, name) =>
    match parseDuration epa.spec.scrape.evaluationPeriod,
        parseDuration epa.spec.scrape.interval with
    | some evaluationPeriod, some interval =>
      let s := { s with
        ownership := refreshOwnership me env.sets now ns name evaluationPeriod s.ownership }
      if shouldScrapeEpa s.ownership ns name then
        if isScheduledLater now s key interval then (s, some [])
        else scrapeRound env now key ns name epa evaluationPeriod interval s
      else (s, some [])
    | _, _ => (s, none)

/-- The loop of a tick over the EPAs.  The jobs are listed with the key of their EPA; an
error is logged. -/
def processAll : List (String × Epa) → Scheduler V → Scheduler V × List (String × ScrapeJob)
  | [], s => (s, [])
  | (key, epa) :: epas, s =>
    let processed := processEpa parseDuration me env now key epa s
    let rest := processAll epas processed.1
    (rest.1, (processed.2.getD []).map (fun job => (key, job)) ++ rest.2)

/-- The part of a tick before the eviction. -/
def dispatch (s : Scheduler V) : Scheduler V × List (String × ScrapeJob) :=
  let processed := processAll parseDuration me env now env.activeEpas s
  let activeKeys := env.activeEpas.map Prod.fst
  ({ processed.1 with
      nextScrape := fun key => if key ∈ activeKeys then processed.1.nextScrape key else none },
    processed.2)

end ProcessEpa

/-- The eviction at the end of the tick at `now`; it reads the clock at `evictAt`. -/
def evict (now evictAt : ℕ) (s : Scheduler V) : Scheduler V :=
  if secs 60 ≤ now - s.lastEviction then
    { s with
      store := (s.store.evictStaleWindows evictAt (secs 120)).1
      lastEviction := now }
  else s

/-! ### What a tick does to one EPA -/

/-- A key that can be split is the key of the EPA with that namespace and name. -/
lemma key_eq_of_splitKey {key ns name : String} (h : splitKey key = some (ns, name)) :
    key = epaKey ns name := by
  unfold splitKey at h
  split at h
  · cases h
  · rename_i c rest heq
    obtain ⟨rfl, rfl⟩ := Prod.mk.inj (Option.some.inj h)
    have hslash : c = '/' := by
      have hhead := List.head?_dropWhile_not (fun x => decide (x ≠ '/')) key.toList
      rw [heq] at hhead
      simpa using hhead
    subst hslash
    have hsplit : key.toList.takeWhile (fun x => decide (x ≠ '/')) ++ '/' :: rest = key.toList := by
      rw [← heq, List.takeWhile_append_dropWhile]
    have hkey : epaKey (String.ofList (key.toList.takeWhile fun x => decide (x ≠ '/')))
        (String.ofList rest) = String.ofList
          (key.toList.takeWhile (fun x => decide (x ≠ '/')) ++ '/' :: rest) := by
      rw [← String.toList_inj, epaKey_toList]
      simp
    rw [hkey, hsplit, String.ofList_toList]

lemma windows_setMetricConfigs (ns name : String) (epa : Epa) (store : MetricsStore V) :
    (setMetricConfigs ns name epa store).windows = store.windows := by
  unfold setMetricConfigs
  induction epa.spec.metrics generalizing store with
  | nil => rfl
  | cons m metrics ih => exact ih _

/-- The jobs of a tick are for registered EPAs. -/
lemma key_mem_of_dispatch (parseDuration : String → Option ℕ) (me : String)
    (env : Surroundings) (now : ℕ) (s : Scheduler V) :
    ∀ job ∈ (dispatch parseDuration me env now s).2, job.1 ∈ env.activeEpas.map Prod.fst := by
  have hall : ∀ (epas : List (String × Epa)) (s : Scheduler V),
      ∀ job ∈ (processAll parseDuration me env now epas s).2, job.1 ∈ epas.map Prod.fst := by
    intro epas
    induction epas with
    | nil => simp [processAll]
    | cons entry epas ih =>
        obtain ⟨key, epa⟩ := entry
        intro s job hjob
        rcases List.mem_append.1 hjob with hjob | hjob
        · obtain ⟨j, -, rfl⟩ := List.mem_map.1 hjob
          exact List.mem_cons_self
        · exact List.mem_cons_of_mem _ (ih _ job hjob)
  exact hall env.activeEpas s

section OneEpa

variable (parseDuration : String → Option ℕ) (me : String) (env : Surroundings) (now : ℕ)
  {s : Scheduler V} {key ns name : String} {epa : Epa} {sample : SampleKey}

/-- What the schedule, the eviction timer and the window of a sample key are in two states
of the scheduler. -/
def SameFor (key : String) (sample : SampleKey) (s s' : Scheduler V) : Prop :=
  s'.nextScrape key = s.nextScrape key ∧ s'.lastEviction = s.lastEviction ∧
    s'.store.windows.lookup sample = s.store.windows.lookup sample

lemma SameFor.trans {s s' s'' : Scheduler V} (h : SameFor key sample s s')
    (h' : SameFor key sample s' s'') : SameFor key sample s s'' :=
  ⟨h'.1.trans h.1, h'.2.1.trans h.2.1, h'.2.2.trans h.2.2⟩

/-- The window of a sample key after a round. -/
lemma lookup_scheduleRound {key' ns' name' : String} {epa' : Epa} {I : ℕ} {pods : List Pod} :
    (scheduleRound now key' ns' name' epa' I pods s).store.windows.lookup sample =
      if sample.ns = ns' ∧ sample.epaName = name' ∧ sample.podName ∉ pods.map Pod.name
      then none else s.store.windows.lookup sample := by
  rw [scheduleRound, windows_setMetricConfigs, MetricsStore.lookup_retainPodWindows]

/-- The processing of an EPA changes the ownership at most and dispatches nothing, or it has a
round: its durations parse, it is not scheduled for later, and its pods can be looked up. -/
lemma processEpa_cases (s : Scheduler V) :
    (∃ ownership, (processEpa parseDuration me env now key epa s).1 =
        { s with ownership := ownership }) ∧
      (processEpa parseDuration me env now key epa s).2.getD [] = [] ∨
      ∃ ns name P I pods, splitKey key = some (ns, name) ∧
        parseDuration epa.spec.scrape.evaluationPeriod = some P ∧
        parseDuration epa.spec.scrape.interval = some I ∧ isScheduledLater now s key I = false ∧
        env.readyPods ns (epa.spec.scrapeTargetRef.getD epa.spec.scaleTargetRef) = some pods ∧
        processEpa parseDuration me env now key epa s =
          (scheduleRound now key ns name epa I pods
            { s with ownership := refreshOwnership me env.sets now ns name P s.ownership },
            some (roundJobs epa P I pods)) := by
  have hidle : ∀ ownership, ∃ ownership', ({ s with ownership := ownership } : Scheduler V) =
      { s with ownership := ownership' } := fun ownership => ⟨ownership, rfl⟩
  rcases hkey : splitKey key with _ | ⟨ns, name⟩
  · refine Or.inl ⟨?_, ?_⟩ <;> simp only [processEpa, hkey]
    · exact hidle s.ownership
    · rfl
  · rcases hP : parseDuration epa.spec.scrape.evaluationPeriod with _ | P
    · refine Or.inl ⟨?_, ?_⟩ <;> simp only [processEpa, hkey, hP]
      · exact hidle s.ownership
      · rfl
    · rcases hI : parseDuration epa.spec.scrape.interval with _ | I
      · refine Or.inl ⟨?_, ?_⟩ <;> simp only [processEpa, hkey, hP, hI]
        · exact hidle s.ownership
        · rfl
      · simp only [processEpa, hkey, hP, hI]
        split
        · split
          · exact Or.inl ⟨hidle _, rfl⟩
          · rename_i hdue
            rw [scrapeRound]
            rcases hpods : env.readyPods ns
                (epa.spec.scrapeTargetRef.getD epa.spec.scaleTargetRef) with _ | pods
            · exact Or.inl ⟨hidle _, rfl⟩
            · exact Or.inr ⟨ns, name, P, I, pods, rfl, rfl, rfl, Bool.eq_false_iff.2 hdue, hpods,
                rfl⟩
        · exact Or.inl ⟨hidle _, rfl⟩

/-- The processing of another EPA leaves this one alone. -/
lemma sameFor_processEpa {key' : String} {epa' : Epa} (hne : key' ≠ key)
    (hkey : splitKey key = some (ns, name)) (hns : sample.ns = ns) (hname : sample.epaName = name) :
    SameFor key sample s (processEpa parseDuration me env now key' epa' s).1 := by
  rcases s.processEpa_cases parseDuration me env now with
    ⟨⟨ownership, hidle⟩, -⟩ | ⟨ns', name', P, I, pods, hkey', -, -, -, -, hround⟩
  · rw [hidle]
    exact ⟨rfl, rfl, rfl⟩
  · have hother : ¬ (sample.ns = ns' ∧ sample.epaName = name') := by
      rintro ⟨rfl, rfl⟩
      exact hne ((key_eq_of_splitKey hkey').trans (by rw [hns, hname, key_eq_of_splitKey hkey]))
    rw [hround]
    refine ⟨Function.update_of_ne (Ne.symm hne) _ _, rfl, ?_⟩
    rw [lookup_scheduleRound, if_neg]
    rintro ⟨hns, hname, -⟩
    exact hother ⟨hns, hname⟩

lemma sameFor_processAll {epas : List (String × Epa)} (hne : key ∉ epas.map Prod.fst)
    (hkey : splitKey key = some (ns, name)) (hns : sample.ns = ns) (hname : sample.epaName = name) :
    SameFor key sample s (processAll parseDuration me env now epas s).1 ∧
      ∀ job ∈ (processAll parseDuration me env now epas s).2, job.1 ≠ key := by
  induction epas generalizing s with
  | nil => exact ⟨⟨rfl, rfl, rfl⟩, by simp [processAll]⟩
  | cons entry epas ih =>
      obtain ⟨key', epa'⟩ := entry
      simp only [List.map_cons, List.mem_cons, not_or] at hne
      obtain ⟨hhead, htail⟩ := hne
      have hstep : SameFor key sample s (processEpa parseDuration me env now key' epa' s).1 :=
        sameFor_processEpa _ _ _ _ (Ne.symm hhead) hkey hns hname
      obtain ⟨hsame, hjobs⟩ := ih (s := (processEpa parseDuration me env now key' epa' s).1) htail
      refine ⟨hstep.trans hsame, ?_⟩
      intro job hjob
      rcases List.mem_append.1 hjob with hjob | hjob
      · obtain ⟨j, -, rfl⟩ := List.mem_map.1 hjob
        exact Ne.symm hhead
      · exact hjobs job hjob

/-- **A tick without the EPA.** An EPA that is not registered has no schedule after the
tick and no jobs, and its windows are left alone. -/
theorem dispatch_unregistered (hne : key ∉ env.activeEpas.map Prod.fst)
    (hkey : splitKey key = some (ns, name)) (hns : sample.ns = ns) (hname : sample.epaName = name) :
    (dispatch parseDuration me env now s).1.nextScrape key = none ∧
      (dispatch parseDuration me env now s).1.lastEviction = s.lastEviction ∧
      (dispatch parseDuration me env now s).1.store.windows.lookup sample =
        s.store.windows.lookup sample ∧
      ∀ job ∈ (dispatch parseDuration me env now s).2, job.1 ≠ key := by
  obtain ⟨⟨-, hev, hlook⟩, hjobs⟩ := sameFor_processAll parseDuration me env now
    (s := s) hne hkey hns hname
  exact ⟨if_neg hne, hev, hlook, hjobs⟩

/-- An owner scrapes the EPA after the refresh. -/
lemma shouldScrapeEpa_of_owner {P : ℕ} {st : TransitionState}
    (hown : isEpaOwner me env.sets ns name = true) :
    shouldScrapeEpa (refreshOwnership me env.sets now ns name P st) ns name = true := by
  rw [shouldScrapeEpa_eq, phase_refreshOwnership_self, hown]
  obtain ⟨o, ho, -⟩ := KeyPhase.refresh_win now P (st.phase (epaKey ns name))
  rw [ho]
  exact KeyPhase.noConfusion

/-- What the processing of an owned EPA does, when its durations parse and its pods can be
looked up. -/
lemma processEpa_owned {P I : ℕ} {pods : List Pod} (hkey : splitKey key = some (ns, name))
    (hP : parseDuration epa.spec.scrape.evaluationPeriod = some P)
    (hI : parseDuration epa.spec.scrape.interval = some I)
    (hown : isEpaOwner me env.sets ns name = true)
    (hpods : env.readyPods ns (epa.spec.scrapeTargetRef.getD epa.spec.scaleTargetRef) = some pods) :
    processEpa parseDuration me env now key epa s =
      let refreshed := { s with
        ownership := refreshOwnership me env.sets now ns name P s.ownership }
      if isScheduledLater now s key I then (refreshed, some [])
      else (scheduleRound now key ns name epa I pods refreshed, some (roundJobs epa P I pods)) := by
  simp only [processEpa, hkey, hP, hI, shouldScrapeEpa_of_owner me env now hown, if_true,
    scrapeRound, hpods]
  rfl

lemma processAll_append (epas epas' : List (String × Epa)) (s : Scheduler V) :
    processAll parseDuration me env now (epas ++ epas') s =
      let first := processAll parseDuration me env now epas s
      let second := processAll parseDuration me env now epas' first.1
      (second.1, first.2 ++ second.2) := by
  induction epas generalizing s with
  | nil => rfl
  | cons entry epas ih =>
      obtain ⟨key, epa⟩ := entry
      simp only [List.cons_append, processAll, ih, List.append_assoc]

/-- The loop of a tick processes a registered EPA once; the EPAs before and after it leave it
alone. -/
lemma processAll_of_mem {epas : List (String × Epa)} (s : Scheduler V)
    (hnodup : (epas.map Prod.fst).Nodup) (hmem : (key, epa) ∈ epas)
    (hkey : splitKey key = some (ns, name)) (hns : sample.ns = ns) (hname : sample.epaName = name) :
    ∃ s₁ s₂ jobs₁ jobs₂, SameFor key sample s s₁ ∧
      SameFor key sample (processEpa parseDuration me env now key epa s₁).1 s₂ ∧
      (∀ job ∈ jobs₁ ++ jobs₂, job.1 ≠ key) ∧
      processAll parseDuration me env now epas s = (s₂, jobs₁ ++
        ((((processEpa parseDuration me env now key epa s₁).2.getD []).map
          fun job => (key, job)) ++ jobs₂)) := by
  obtain ⟨l₁, l₂, rfl⟩ := List.append_of_mem hmem
  rw [List.map_append, List.map_cons] at hnodup
  obtain ⟨-, hnodup₂, hdisj⟩ := List.nodup_append.1 hnodup
  have hne₁ : key ∉ l₁.map Prod.fst := fun h => hdisj key h key List.mem_cons_self rfl
  have hne₂ : key ∉ l₂.map Prod.fst := (List.nodup_cons.1 hnodup₂).1
  obtain ⟨hsame₁, hjobs₁⟩ := sameFor_processAll parseDuration me env now
    (s := s) hne₁ hkey hns hname
  obtain ⟨hsame₂, hjobs₂⟩ := sameFor_processAll parseDuration me env now
    (s := (processEpa parseDuration me env now key epa
      (processAll parseDuration me env now l₁ s).1).1) hne₂ hkey hns hname
  refine ⟨_, _, _, _, hsame₁, hsame₂, ?_, by rw [processAll_append]; rfl⟩
  intro job hjob
  rcases List.mem_append.1 hjob with hjob | hjob
  · exact hjobs₁ job hjob
  · exact hjobs₂ job hjob

/-- **A tick with the EPA.** A registered EPA that is owned and whose lookups succeed keeps
its schedule and gets no job if its next scrape is later than now; otherwise its next scrape
is one interval from now, and a job is dispatched for each ready pod.  The windows of ready
pods stay. -/
theorem dispatch_registered {P I : ℕ} {pods : List Pod}
    (hnodup : (env.activeEpas.map Prod.fst).Nodup) (hmem : (key, epa) ∈ env.activeEpas)
    (hkey : splitKey key = some (ns, name)) (hns : sample.ns = ns) (hname : sample.epaName = name)
    (hP : parseDuration epa.spec.scrape.evaluationPeriod = some P)
    (hI : parseDuration epa.spec.scrape.interval = some I)
    (hown : isEpaOwner me env.sets ns name = true)
    (hpods : env.readyPods ns (epa.spec.scrapeTargetRef.getD epa.spec.scaleTargetRef) = some pods)
    (hready : sample.podName ∈ pods.map Pod.name) :
    (dispatch parseDuration me env now s).1.lastEviction = s.lastEviction ∧
    (dispatch parseDuration me env now s).1.store.windows.lookup sample =
      s.store.windows.lookup sample ∧
    if isScheduledLater now s key I then
      (dispatch parseDuration me env now s).1.nextScrape key = s.nextScrape key ∧
        ∀ job ∈ (dispatch parseDuration me env now s).2, job.1 ≠ key
    else
      (dispatch parseDuration me env now s).1.nextScrape key = some (now + I, I) ∧
        ∃ job ∈ (dispatch parseDuration me env now s).2,
          job.1 = key ∧ job.2.pod.name = sample.podName := by
  have hactive : key ∈ env.activeEpas.map Prod.fst := List.mem_map.2 ⟨_, hmem, rfl⟩
  obtain ⟨s₁, s₂, jobs₁, jobs₂, ⟨hnext₁, hev₁, hlook₁⟩, ⟨hnext₂, hev₂, hlook₂⟩, hjobs, hall⟩ :=
    processAll_of_mem parseDuration me env now s hnodup hmem hkey hns hname
  have hlater₁ : isScheduledLater now s₁ key I = isScheduledLater now s key I := by
    rw [isScheduledLater, hnext₁, isScheduledLater]
  have hself := processEpa_owned parseDuration me env now (s := s₁) hkey hP hI hown hpods
  rw [hlater₁] at hself
  simp only [dispatch, hall, if_pos hactive]
  by_cases hlater : isScheduledLater now s key I = true
  · rw [if_pos hlater] at hself ⊢
    rw [hself] at hnext₂ hev₂ hlook₂ ⊢
    refine ⟨hev₂.trans hev₁, hlook₂.trans hlook₁, hnext₂.trans hnext₁, ?_⟩
    intro job hjob
    exact hjobs job (by simpa using hjob)
  · rw [if_neg hlater] at hself ⊢
    rw [hself] at hnext₂ hev₂ hlook₂ ⊢
    have hspared : ¬ (sample.ns = ns ∧ sample.epaName = name ∧
        sample.podName ∉ pods.map Pod.name) := fun h => h.2.2 hready
    rw [lookup_scheduleRound, if_neg hspared] at hlook₂
    refine ⟨hev₂.trans hev₁, hlook₂.trans hlook₁, ?_, ?_⟩
    · rw [hnext₂]
      exact Function.update_self _ _ _
    · obtain ⟨pod, hpod, hpodName⟩ := List.mem_map.1 hready
      refine ⟨(key, _), List.mem_append_right _ (List.mem_append_left _ (List.mem_map.2
        ⟨_, List.mem_map.2 ⟨pod, hpod, rfl⟩, rfl⟩)), rfl, hpodName⟩

end OneEpa

end Scheduler

end ExternalPodAutoscaler.Scraper
