/-
What the deletion of an EPA leaves in the store (`Reconciler::reconcile`,
`ScraperService::handle_updates`, `Scheduler::process_epa` and `Worker::run`).

The owner of an EPA that is being deleted sends a `Delete` to the scraper and then sweeps the
maps of the store.  Beside it, the update handler registers and unregisters EPAs as the messages
arrive, a tick of the scheduler goes through its copy of the registered EPAs, workers have jobs,
and the webhook caches values; all of them write to the same maps.  `cleanupSystem` interleaves
their steps: what a step does to the maps is a `StoreCall`, and what it does to everything else
is `Process.next`.

The main result of this file is `nothing_left_of_idle`: the deletion leaves nothing in the store
if nothing that is registered or under way can write an entry of the EPA when the sweep begins.
The deletion does not wait for that (`entries_left_behind`); `Controller/Leftovers.lean` shows that
it leaves something in some run otherwise.
-/
import ExternalPodAutoscaler.Controller.Reconcile
import ExternalPodAutoscaler.Scraper.Eviction
import ExternalPodAutoscaler.Scraper.OneSample
import ExternalPodAutoscaler.Store.Calls

namespace ExternalPodAutoscaler.Controller

open ExternalPodAutoscaler.Api ExternalPodAutoscaler.Lib ExternalPodAutoscaler.Membership
open ExternalPodAutoscaler.Scraper ExternalPodAutoscaler.Store

/-! ### The tasks of a replica -/

/-- Where the handling of a deletion is. -/
inductive Deletion where
  | notifying
  /-- The maps that are still to be swept. -/
  | sweeping (maps : List StoreMap)
deriving DecidableEq

/-- Where the round of an EPA is. -/
inductive RoundStage where
  /-- The pods are being looked up. -/
  | resolving
  /-- The metrics that are still to be configured, and the jobs that are still to be sent. -/
  | dispatching (metrics : List MetricSpec) (jobs : List ScrapeJob)

/-- The round of an EPA in a tick of the scheduler. -/
structure Round where
  k : ResourceName
  epa : Epa
  evaluationPeriod : ℕ
  interval : ℕ
  stage : RoundStage

/-- Where a job is.  The metrics to be stored are listed with whether they had several series
and no label selector. -/
inductive TaskStage where
  | scraping
  | storing (ns epaName : String) (todo : List (String × Bool))
  /-- The sample of a metric is being pushed. -/
  | pushing (ns epaName : String) (todo : List (String × Bool))

/-- A job that a worker has taken. -/
structure StoreTask where
  job : ScrapeJob
  stage : TaskStage

/-- The store of a replica and the tasks that share it. -/
structure Process (V : Type) where
  maps : StoreMaps V
  /-- The deletions that the controller handles or has handled. -/
  deletions : AList fun _ : ResourceName => Deletion
  /-- The channel to the update handler, the oldest message first. -/
  updates : List EpaUpdate
  /-- The `Upsert` that is being handled, with the metrics that are not configured yet. -/
  handling : Option (ResourceName × Epa × List MetricSpec)
  activeEpas : AList fun _ : String => Epa
  /-- The entries that the tick in progress has not processed yet. -/
  tick : Option (List (String × Epa))
  round : Option Round
  /-- The channel to the workers. -/
  jobs : List ScrapeJob
  tasks : List StoreTask

inductive ProcessEvent (V : Type) where
  /-- A reconcile sends an `Upsert`. -/
  | sendUpsert (epa : Epa)
  /-- The reconcile of the owner finds its EPA under deletion. -/
  | beginDelete (k : ResourceName)
  | sendDelete (k : ResourceName)
  /-- `remove_epa_windows` goes through the next map. -/
  | sweep (k : ResourceName)
  /-- The update handler receives a message. -/
  | receive
  /-- It configures the next metric. -/
  | configure
  | register
  /-- The scheduler copies the registered EPAs, in some order. -/
  | startTick (entries : List (String × Epa))
  /-- The next entry is malformed, not owned or not due. -/
  | skip
  /-- The round of the next entry starts with `get_scrape_stats`. -/
  | startRound
  /-- The ready pods are found. -/
  | resolve (pods : List Pod)
  /-- The ready pods are not found. -/
  | abandon
  /-- The scheduler configures the next metric. -/
  | configureRound
  /-- It sends the next job. -/
  | dispatch
  | endRound
  /-- The eviction at the end of a tick removes windows. -/
  | evict (stale : List SampleKey)
  | endTick
  /-- A worker takes a job, with `get_scrape_stats`. -/
  | take
  | respond (i : ℕ) (parsed : List (ParsedMetric V))
  /-- A worker warns of several series. -/
  | warn (i : ℕ)
  /-- The first half of `push_sample`. -/
  | lookup (i : ℕ)
  /-- The second half of `push_sample`. -/
  | push (i : ℕ)
  /-- A job has failed, or is done. -/
  | finish (i : ℕ)
  /-- The webhook caches a value. -/
  | cacheResult (key : CacheKey) (value : V)
  | cleanupCache (expired : List CacheKey)

/-- The metrics of an EPA that a response has series of, and whether to warn of them. -/
def metricsFound {V : Type} (epa : Epa) (parsed : List (ParsedMetric V)) : List (String × Bool) :=
  epa.spec.metrics.filterMap fun spec =>
    let matched := selectedSeries parsed spec
    matched.head?.map fun _ => (spec.metricName, 1 < matched.length && spec.labelSelector.isNone)

/-- The configuration of a metric of an EPA. -/
def configOf (epa : Epa) (metric : MetricSpec) : AggregationType :=
  metric.aggregationType.getD epa.spec.scrape.aggregationType

namespace Process

variable {V : Type}

/-- A replica that has just started. -/
def new : Process V := ⟨.new, ∅, [], none, ∅, none, none, [], []⟩

/-- The job `i` of the workers is `task`. -/
def setTask (s : Process V) (i : ℕ) (task : StoreTask) : Process V :=
  { s with tasks := s.tasks.set i task }

/-- The tasks after an event, and the call that the event makes. -/
def next (parseDuration : String → Option ℕ) (s : Process V) :
    ProcessEvent V → Option (Process V × Option (StoreCall V))
  | .sendUpsert epa => some ({ s with updates := s.updates ++ [.upsert epa] }, none)
  | .beginDelete k =>
    match s.deletions.lookup k with
    | none | some (.sweeping []) =>
      some ({ s with deletions := s.deletions.insert k .notifying }, none)
    | _ => none
  | .sendDelete k =>
    match s.deletions.lookup k with
    | some .notifying =>
      some ({ s with
        updates := s.updates ++ [.delete k.1 k.2]
        deletions := s.deletions.insert k (.sweeping StoreMap.all) }, none)
    | _ => none
  | .sweep k =>
    match s.deletions.lookup k with
    | some (.sweeping (m :: maps)) =>
      some ({ s with deletions := s.deletions.insert k (.sweeping maps) },
        some (.sweep m k.1 k.2))
    | _ => none
  | .receive =>
    match s.handling, s.updates with
    | none, .upsert epa :: updates =>
      match epa.metadata.ns, epa.metadata.name with
      | some ns, some name =>
        some ({ s with updates := updates, handling := some ((ns, name), epa, epa.spec.metrics) },
          none)
      | _, _ => some ({ s with updates := updates }, none)
    | none, .delete ns name :: updates =>
      some ({ s with updates := updates, activeEpas := s.activeEpas.erase (epaKey ns name) }, none)
    | _, _ => none
  | .configure =>
    match s.handling with
    | some (k, epa, metric :: metrics) =>
      some ({ s with handling := some (k, epa, metrics) },
        some (.setMetricConfig ⟨k.1, k.2, metric.metricName⟩ (configOf epa metric)))
    | _ => none
  | .register =>
    match s.handling with
    | some (k, epa, []) =>
      some ({ s with
        handling := none
        activeEpas := s.activeEpas.insert (epaKey k.1 k.2) epa }, none)
    | _ => none
  | .startTick entries =>
    if s.tick.isNone ∧
        entries.Perm (s.activeEpas.entries.map fun entry => (entry.1, entry.2)) then
      some ({ s with tick := some entries }, none)
    else none
  | .skip =>
    match s.round, s.tick with
    | none, some (_ :: entries) => some ({ s with tick := some entries }, none)
    | _, _ => none
  | .startRound =>
    match s.round, s.tick with
    | none, some ((key, epa) :: entries) =>
      match splitKey key, parseDuration epa.spec.scrape.evaluationPeriod,
          parseDuration epa.spec.scrape.interval with
      | some k, some evaluationPeriod, some interval =>
        some ({ s with
          tick := some entries
          round := some ⟨k, epa, evaluationPeriod, interval, .resolving⟩ },
          some (.getScrapeStats k.1 k.2))
      | _, _, _ => none
    | _, _ => none
  | .resolve pods =>
    match s.round with
    | some ⟨k, epa, evaluationPeriod, interval, .resolving⟩ =>
      -- the pod cache lists the pods of one namespace
      if ∀ pod ∈ pods, pod.ns = some k.1 then
        some ({ s with
          round := some ⟨k, epa, evaluationPeriod, interval, .dispatching epa.spec.metrics
            (Scheduler.roundJobs epa evaluationPeriod interval pods)⟩ },
          some (.retainPodWindows k.1 k.2 (pods.map Pod.name)))
      else none
    | _ => none
  | .abandon =>
    match s.round with
    | some ⟨_, _, _, _, .resolving⟩ => some ({ s with round := none }, none)
    | _ => none
  | .configureRound =>
    match s.round with
    | some ⟨k, epa, evaluationPeriod, interval, .dispatching (metric :: metrics) jobs⟩ =>
      some ({ s with
        round := some ⟨k, epa, evaluationPeriod, interval, .dispatching metrics jobs⟩ },
        some (.setMetricConfig ⟨k.1, k.2, metric.metricName⟩ (configOf epa metric)))
    | _ => none
  | .dispatch =>
    match s.round with
    | some ⟨k, epa, evaluationPeriod, interval, .dispatching [] (job :: jobs)⟩ =>
      some ({ s with
        round := some ⟨k, epa, evaluationPeriod, interval, .dispatching [] jobs⟩
        jobs := s.jobs ++ [job] }, none)
    | _ => none
  | .endRound =>
    match s.round with
    | some ⟨_, _, _, _, .dispatching [] []⟩ => some ({ s with round := none }, none)
    | _ => none
  | .evict stale =>
    match s.round, s.tick with
    | none, some [] => some (s, some (.evictStaleWindows stale))
    | _, _ => none
  | .endTick =>
    match s.round, s.tick with
    | none, some [] => some ({ s with tick := none }, none)
    | _, _ => none
  | .take =>
    match s.jobs with
    | job :: jobs =>
      some ({ s with jobs := jobs, tasks := s.tasks ++ [⟨job, .scraping⟩] },
        some (.getScrapeStats (job.epa.metadata.ns.getD "<no-namespace>")
          (job.epa.metadata.name.getD "<unnamed>")))
    | [] => none
  | .respond i parsed =>
    match s.tasks[i]? with
    | some ⟨job, .scraping⟩ =>
      match scrapeTarget job with
      | .ok (ns, epaName, _) =>
        some (s.setTask i ⟨job, .storing ns epaName (metricsFound job.epa parsed)⟩, none)
      | .error _ => none
    | _ => none
  | .warn i =>
    match s.tasks[i]? with
    | some ⟨job, .storing ns epaName ((metricName, true) :: todo)⟩ =>
      some (s.setTask i ⟨job, .storing ns epaName ((metricName, false) :: todo)⟩,
        some (.firstMultiSeries ⟨ns, epaName, metricName⟩))
    | _ => none
  | .lookup i =>
    match s.tasks[i]? with
    | some ⟨job, .storing ns epaName ((metricName, false) :: todo)⟩ =>
      some (s.setTask i ⟨job, .pushing ns epaName todo⟩,
        some (.pushSample ⟨ns, epaName, metricName, job.pod.name⟩))
    | _ => none
  | .push i =>
    match s.tasks[i]? with
    | some ⟨job, .pushing ns epaName todo⟩ =>
      some (s.setTask i ⟨job, .storing ns epaName todo⟩, none)
    | _ => none
  | .finish i =>
    match s.tasks[i]? with
    | some ⟨_, .scraping⟩ | some ⟨_, .storing _ _ []⟩ =>
      some ({ s with tasks := s.tasks.eraseIdx i }, none)
    | _ => none
  | .cacheResult key value => some (s, some (.cacheResult key value))
  | .cleanupCache expired => some (s, some (.cleanupExpiredCache expired))

/-- The state after a call. -/
def call (s : Process V) : Option (StoreCall V) → Process V
  | some call => { s with maps := s.maps.apply call }
  | none => s

end Process

/-- The tasks of one replica, in any order. -/
def cleanupSystem (V : Type) (parseDuration : String → Option ℕ) :
    System (Process V) (ProcessEvent V) where
  init s := s = .new
  step s e := (s.next parseDuration e).map fun next => next.1.call next.2

/-! ### The maps that are swept -/

namespace Process

variable {V : Type}

/-- The deletion of the EPA has swept the map. -/
def Swept (s : Process V) (k : ResourceName) (m : StoreMap) : Prop :=
  ∃ maps, s.deletions.lookup k = some (.sweeping maps) ∧ m ∉ maps

/-- No map of the store has an entry of the EPA. -/
def NothingLeft (s : Process V) (k : ResourceName) : Prop := ∀ m, s.maps.NothingIn k.1 k.2 m

variable {parseDuration : String → Option ℕ} {s s' : Process V} {e : ProcessEvent V}
  {c : Option (StoreCall V)} {k : ResourceName}

lemma maps_next (h : s.next parseDuration e = some (s', c)) : s'.maps = s.maps := by
  cases e <;> simp only [next] at h <;> (repeat' split at h) <;> cases h <;> rfl

/-- What a step does to the deletions. -/
lemma deletions_next (h : s.next parseDuration e = some (s', c)) :
    s'.deletions = s.deletions ∨
      (∃ k', s'.deletions = s.deletions.insert k' .notifying ∧ c = none) ∨
      (∃ k', s'.deletions = s.deletions.insert k' (.sweeping StoreMap.all) ∧ c = none) ∨
      ∃ k' m maps, s.deletions.lookup k' = some (.sweeping (m :: maps)) ∧
        s'.deletions = s.deletions.insert k' (.sweeping maps) ∧ c = some (.sweep m k'.1 k'.2) := by
  cases e with
  | beginDelete k' =>
      simp only [next] at h
      split at h
      · cases h
        exact Or.inr (Or.inl ⟨k', rfl, rfl⟩)
      · cases h
        exact Or.inr (Or.inl ⟨k', rfl, rfl⟩)
      · cases h
  | sendDelete k' =>
      simp only [next] at h
      split at h
      · cases h
        exact Or.inr (Or.inr (Or.inl ⟨k', rfl, rfl⟩))
      · cases h
  | sweep k' =>
      simp only [next] at h
      split at h
      · rename_i m maps hk
        cases h
        exact Or.inr (Or.inr (Or.inr ⟨k', m, maps, hk, rfl, rfl⟩))
      · cases h
  | _ =>
      left
      simp only [next] at h
      (repeat' split at h) <;> cases h <;> rfl

/-- A map that is swept after a step was so before, or is swept by the step. -/
lemma swept_next (h : s.next parseDuration e = some (s', c)) {m : StoreMap}
    (hswept : s'.Swept k m) : s.Swept k m ∨ c = some (.sweep m k.1 k.2) := by
  obtain ⟨left, hleft, hm⟩ := hswept
  rcases deletions_next h with heq | ⟨k', heq, -⟩ | ⟨k', heq, -⟩ | ⟨k', m', maps, hk', heq, hc⟩
  · exact Or.inl ⟨left, heq ▸ hleft, hm⟩
  · rw [heq] at hleft
    rcases lookup_insert_eq_some_iff.1 hleft with ⟨-, hbad⟩ | ⟨-, hleft⟩
    · cases hbad
    · exact Or.inl ⟨left, hleft, hm⟩
  · rw [heq] at hleft
    rcases lookup_insert_eq_some_iff.1 hleft with ⟨-, hall⟩ | ⟨-, hleft⟩
    · -- all maps are still to be swept
      obtain rfl := Deletion.sweeping.inj hall
      exact absurd (by cases m <;> decide) hm
    · exact Or.inl ⟨left, hleft, hm⟩
  · rw [heq] at hleft
    rcases lookup_insert_eq_some_iff.1 hleft with ⟨rfl, hrest⟩ | ⟨-, hleft⟩
    · obtain rfl := Deletion.sweeping.inj hrest
      by_cases hmm : m = m'
      · exact Or.inr (hmm ▸ hc)
      · exact Or.inl ⟨_, hk', fun hmem => (List.mem_cons.1 hmem).elim hmm hm⟩
    · exact Or.inl ⟨left, hleft, hm⟩

lemma maps_call (s : Process V) (call : StoreCall V) :
    (s.call (some call)).maps = s.maps.apply call := rfl

lemma deletions_call (s : Process V) (c : Option (StoreCall V)) :
    (s.call c).deletions = s.deletions := by
  cases c <;> rfl

/-- The call adds nothing of the EPA. -/
def AddsNothing (k : ResourceName) (c : Option (StoreCall V)) : Prop :=
  ∀ call m, c = some call → ¬ call.Adds k.1 k.2 m

/-- A step that adds nothing of the EPA leaves nothing of it in the maps that are swept. -/
lemma nothingIn_call (hI : ∀ m, s.Swept k m → s.maps.NothingIn k.1 k.2 m)
    (hnext : s.next parseDuration e = some (s', c)) (hadds : AddsNothing k c) :
    ∀ m, (s'.call c).Swept k m → (s'.call c).maps.NothingIn k.1 k.2 m := by
  intro m hswept
  have hswept' : s'.Swept k m := by
    rwa [Swept, ← deletions_call s' c]
  rcases c with _ | call
  · show s'.maps.NothingIn k.1 k.2 m
    rw [maps_next hnext]
    exact hI m ((swept_next hnext hswept').resolve_right (by simp))
  · rw [maps_call, maps_next hnext]
    rcases swept_next hnext hswept' with hold | hsweep
    · exact StoreMaps.nothingIn_apply (hI m hold) (hadds call m rfl)
    · rw [Option.some.inj hsweep]
      exact StoreMaps.nothingIn_sweep s.maps k.1 k.2 m

end Process

/-! ### What can still be written -/

/-- The response to a job can have a series that is stored for the EPA. -/
def ResponseWrites (V : Type) (k : ResourceName) (job : ScrapeJob) : Prop :=
  (∃ podIp, scrapeTarget job = .ok (k.1, k.2, podIp)) ∧
    ∃ parsed : List (ParsedMetric V), metricsFound job.epa parsed ≠ []

/-- The job writes an entry of the EPA when it is taken, or can do so later. -/
def JobWrites (V : Type) (k : ResourceName) (job : ScrapeJob) : Prop :=
  epaKey (job.epa.metadata.ns.getD "<no-namespace>") (job.epa.metadata.name.getD "<unnamed>") =
    epaKey k.1 k.2 ∨ ResponseWrites V k job

/-- The task has something to store for the EPA, or can have. -/
def StoreTask.Writes (V : Type) (k : ResourceName) : StoreTask → Prop
  | ⟨job, .scraping⟩ => ResponseWrites V k job
  | ⟨_, .storing ns epaName todo⟩ | ⟨_, .pushing ns epaName todo⟩ => (ns, epaName) = k ∧ todo ≠ []

/-- Some job of a round in the namespace can write an entry of the EPA. -/
def RoundJobWrites (V : Type) (k : ResourceName) (ns : String) (epa : Epa) : Prop :=
  ∃ job : ScrapeJob, job.epa = epa ∧ job.pod.ns = some ns ∧ JobWrites V k job

/-- The round has a metric of the EPA to configure, or a job to send that can write an entry. -/
def Round.Writes (V : Type) (k : ResourceName) : Round → Prop
  | ⟨k', epa, _, _, .resolving⟩ =>
    (k' = k ∧ epa.spec.metrics ≠ []) ∨ RoundJobWrites V k k'.1 epa
  | ⟨k', _, _, _, .dispatching metrics jobs⟩ =>
    (k' = k ∧ metrics ≠ []) ∨ ∃ job ∈ jobs, JobWrites V k job

/-- A tick that comes to the entry can start a round that writes an entry of the EPA. -/
def EntryWrites (V : Type) (parseDuration : String → Option ℕ) (k : ResourceName)
    (entry : String × Epa) : Prop :=
  ∃ k', splitKey entry.1 = some k' ∧
    (parseDuration entry.2.spec.scrape.evaluationPeriod).isSome ∧
    (parseDuration entry.2.spec.scrape.interval).isSome ∧
    (entry.1 = epaKey k.1 k.2 ∨ RoundJobWrites V k k'.1 entry.2)

/-- An `Upsert` with the metrics still to be configured writes an entry of the EPA, or registers
one of which a tick can do so. -/
def UpsertWrites (V : Type) (parseDuration : String → Option ℕ) (k k' : ResourceName) (epa : Epa)
    (metrics : List MetricSpec) : Prop :=
  (k' = k ∧ metrics ≠ []) ∨ EntryWrites V parseDuration k (epaKey k'.1 k'.2, epa)

namespace Process

variable {V : Type}

/-- Nothing that is registered or under way can write an entry of the EPA. -/
structure Idle (parseDuration : String → Option ℕ) (k : ResourceName) (s : Process V) : Prop where
  updates : ∀ epa, .upsert epa ∈ s.updates → ∀ ns name, epa.metadata.ns = some ns →
    epa.metadata.name = some name →
    ¬ UpsertWrites V parseDuration k (ns, name) epa epa.spec.metrics
  handling : ∀ k' epa metrics, s.handling = some (k', epa, metrics) →
    ¬ UpsertWrites V parseDuration k k' epa metrics
  activeEpas : ∀ key epa, s.activeEpas.lookup key = some epa →
    ¬ EntryWrites V parseDuration k (key, epa)
  tick : ∀ entries, s.tick = some entries → ∀ entry ∈ entries,
    ¬ EntryWrites V parseDuration k entry
  round : ∀ round, s.round = some round → ¬ round.Writes V k
  jobs : ∀ job ∈ s.jobs, ¬ JobWrites V k job
  tasks : ∀ task ∈ s.tasks, ¬ task.Writes V k

/-- The event brings no `Upsert` and no cached value of the EPA.  The namespaces of other EPAs
have no slash, so that their keys are not mistaken. -/
def NoneOf (k : ResourceName) (_ : Process V) : ProcessEvent V → Prop
  | .sendUpsert epa => ∀ ns name, epa.metadata.ns = some ns → epa.metadata.name = some name →
    splitKey (epaKey ns name) = some (ns, name) ∧ epaKey ns name ≠ epaKey k.1 k.2
  | .cacheResult key _ => ¬ key.IsOf k.1 k.2
  | _ => True

end Process

lemma of_scrapeTarget_eq_ok {job : ScrapeJob} {ns epaName podIp : String}
    (h : scrapeTarget job = .ok (ns, epaName, podIp)) :
    job.pod.ns = some ns ∧ job.epa.metadata.name = some epaName := by
  unfold scrapeTarget at h
  split at h
  · cases h
  · cases h
  · cases h
  · rename_i hns hname hip
    obtain ⟨⟩ := h
    exact ⟨hns, hname⟩

/-- The `Upsert` of another EPA writes nothing. -/
lemma not_upsertWrites {V : Type} {parseDuration : String → Option ℕ} {k : ResourceName}
    {epa : Epa} {ns name : String} {metrics : List MetricSpec} (hns : epa.metadata.ns = some ns)
    (hname : epa.metadata.name = some name) (hsplit : splitKey (epaKey ns name) = some (ns, name))
    (hne : epaKey ns name ≠ epaKey k.1 k.2) :
    ¬ UpsertWrites V parseDuration k (ns, name) epa metrics := by
  rintro (⟨rfl, -⟩ | ⟨k', hk', -, -, hkey | ⟨job, rfl, hpod, hjob | ⟨⟨podIp, htarget⟩, -⟩⟩⟩)
  · exact hne rfl
  · exact hne hkey
  · rw [hns, hname] at hjob
    exact hne hjob
  · -- the pods of a round are in the namespace of its EPA
    obtain rfl := Option.some.inj (hsplit.symm.trans hk')
    obtain ⟨hns', hname'⟩ := of_scrapeTarget_eq_ok htarget
    have hns₁ : k.1 = ns := Option.some.inj (hns'.symm.trans hpod)
    have hname₁ : k.2 = name := Option.some.inj (hname'.symm.trans hname)
    rw [hns₁, hname₁] at hne
    exact hne rfl

lemma mem_roundJobs {epa : Epa} {evaluationPeriod interval : ℕ} {pods : List Pod}
    {job : ScrapeJob} (h : job ∈ Scheduler.roundJobs epa evaluationPeriod interval pods) :
    job.epa = epa ∧ job.pod ∈ pods := by
  obtain ⟨pod, hpod, rfl⟩ := List.mem_map.1 h
  exact ⟨rfl, hpod⟩

/-! ### Deletions with nothing under way -/

namespace Process

variable {V : Type} {parseDuration : String → Option ℕ} {s s' : Process V} {e : ProcessEvent V}
  {c : Option (StoreCall V)} {k : ResourceName}

lemma addsNothing_none : AddsNothing k (none : Option (StoreCall V)) := nofun

lemma addsNothing_setMetricConfig {k' : ResourceName} {metricName : String}
    {aggregation : AggregationType} (hne : k' ≠ k) :
    AddsNothing k (some (StoreCall.setMetricConfig (V := V) ⟨k'.1, k'.2, metricName⟩
      aggregation)) := by
  rintro _ m ⟨⟩ hadds
  cases m with
  | configs => exact hne (Prod.ext hadds.1 hadds.2)
  | _ => cases hadds

lemma addsNothing_getScrapeStats {ns name : String} (hne : epaKey ns name ≠ epaKey k.1 k.2) :
    AddsNothing k (some (StoreCall.getScrapeStats (V := V) ns name)) := by
  rintro _ m ⟨⟩ hadds
  cases m with
  | scrapeStats => exact hne hadds
  | _ => cases hadds

namespace Idle

/-- A message is sent that writes nothing. -/
lemma updates_send {update : EpaUpdate} (h : s.Idle parseDuration k)
    (hupdate : ∀ epa, update = .upsert epa → ∀ ns name, epa.metadata.ns = some ns →
      epa.metadata.name = some name →
      ¬ UpsertWrites V parseDuration k (ns, name) epa epa.spec.metrics) :
    ∀ epa, .upsert epa ∈ s.updates ++ [update] → ∀ ns name, epa.metadata.ns = some ns →
      epa.metadata.name = some name →
      ¬ UpsertWrites V parseDuration k (ns, name) epa epa.spec.metrics := by
  intro epa hmem
  rcases List.mem_append.1 hmem with hmem | hmem
  · exact h.updates epa hmem
  · exact hupdate epa (List.mem_singleton.1 hmem).symm

lemma receive (h : s.Idle parseDuration k)
    (hnext : s.next parseDuration .receive = some (s', c)) :
    s'.Idle parseDuration k ∧ AddsNothing k c := by
  simp only [next] at hnext
  split at hnext
  · rename_i epa updates hnone hupdates
    have hrest : ∀ epa', .upsert epa' ∈ updates → .upsert epa' ∈ s.updates := fun epa' hmem =>
      hupdates ▸ List.mem_cons_of_mem _ hmem
    split at hnext
    · rename_i ns name hns hname
      cases hnext
      refine ⟨{ h with
        updates := fun epa' hmem => h.updates epa' (hrest epa' hmem)
        handling := ?_ }, addsNothing_none⟩
      rintro _ _ _ ⟨⟩
      exact h.updates epa (hupdates ▸ List.mem_cons_self) ns name hns hname
    · cases hnext
      exact ⟨{ h with updates := fun epa' hmem => h.updates epa' (hrest epa' hmem) },
        addsNothing_none⟩
  · rename_i ns name updates hnone hupdates
    cases hnext
    refine ⟨{ h with updates := ?_, activeEpas := ?_ }, addsNothing_none⟩
    · exact fun epa' hmem => h.updates epa' (hupdates ▸ List.mem_cons_of_mem _ hmem)
    · exact fun key epa hlookup => h.activeEpas key epa (lookup_erase_eq_some_iff.1 hlookup).2
  · cases hnext

lemma configure (h : s.Idle parseDuration k)
    (hnext : s.next parseDuration .configure = some (s', c)) :
    s'.Idle parseDuration k ∧ AddsNothing k c := by
  simp only [next] at hnext
  split at hnext
  · rename_i k' epa metric metrics hhandling
    cases hnext
    have hwrites := h.handling _ _ _ hhandling
    have hne : k' ≠ k := fun heq => hwrites (Or.inl ⟨heq, List.cons_ne_nil _ _⟩)
    refine ⟨{ h with handling := ?_ }, addsNothing_setMetricConfig hne⟩
    rintro _ _ _ ⟨⟩
    exact fun hrest => hwrites (hrest.imp (fun hk => absurd hk.1 hne) id)
  · cases hnext

lemma register (h : s.Idle parseDuration k)
    (hnext : s.next parseDuration .register = some (s', c)) :
    s'.Idle parseDuration k ∧ AddsNothing k c := by
  simp only [next] at hnext
  split at hnext
  · rename_i k' epa hhandling
    cases hnext
    refine ⟨{ h with handling := ?_, activeEpas := ?_ }, addsNothing_none⟩
    · intro _ _ _ hnone
      cases hnone
    · intro key epa' hlookup
      rcases lookup_insert_eq_some_iff.1 hlookup with ⟨rfl, rfl⟩ | ⟨-, hlookup⟩
      · exact fun hentry => h.handling _ _ _ hhandling (Or.inr hentry)
      · exact h.activeEpas key epa' hlookup
  · cases hnext

lemma startTick {entries : List (String × Epa)} (h : s.Idle parseDuration k)
    (hnext : s.next parseDuration (.startTick entries) = some (s', c)) :
    s'.Idle parseDuration k ∧ AddsNothing k c := by
  simp only [next] at hnext
  split at hnext
  · rename_i hstart
    cases hnext
    refine ⟨{ h with tick := ?_ }, addsNothing_none⟩
    rintro _ ⟨⟩ entry hentry
    obtain ⟨⟨key, epa⟩, hmem, rfl⟩ := List.mem_map.1 (hstart.2.subset hentry)
    exact h.activeEpas key epa (AList.mem_lookup_iff.2 hmem)
  · cases hnext

lemma startRound (h : s.Idle parseDuration k)
    (hnext : s.next parseDuration .startRound = some (s', c)) :
    s'.Idle parseDuration k ∧ AddsNothing k c := by
  simp only [next] at hnext
  split at hnext
  · rename_i key epa entries hnone htick
    split at hnext
    · rename_i k' P I hkey hP hI
      cases hnext
      have hentry := h.tick _ htick _ List.mem_cons_self
      have hwrites : ¬ (key = epaKey k.1 k.2 ∨ RoundJobWrites V k k'.1 epa) := fun hor =>
        hentry ⟨k', hkey, by rw [hP]; rfl, by rw [hI]; rfl, hor⟩
      have hkey' : key = epaKey k'.1 k'.2 := Scheduler.key_eq_of_splitKey hkey
      refine ⟨{ h with tick := ?_, round := ?_ }, addsNothing_getScrapeStats fun heq =>
        hwrites (Or.inl (hkey'.trans heq))⟩
      · rintro _ ⟨⟩ entry hentry
        exact h.tick _ htick entry (List.mem_cons_of_mem _ hentry)
      · rintro _ ⟨⟩
        rintro (⟨rfl, -⟩ | hjob)
        · exact hwrites (Or.inl hkey')
        · exact hwrites (Or.inr hjob)
    · cases hnext
  · cases hnext

lemma resolve {pods : List Pod} (h : s.Idle parseDuration k)
    (hnext : s.next parseDuration (.resolve pods) = some (s', c)) :
    s'.Idle parseDuration k ∧ AddsNothing k c := by
  simp only [next] at hnext
  split at hnext
  · rename_i k' epa P I hround
    split at hnext
    · rename_i hpods
      cases hnext
      have hwrites := h.round _ hround
      refine ⟨{ h with round := ?_ }, ?_⟩
      · rintro _ ⟨⟩
        rintro (hmetrics | ⟨job, hjob, hjobWrites⟩)
        · exact hwrites (Or.inl hmetrics)
        · obtain ⟨hepa, hpod⟩ := mem_roundJobs hjob
          exact hwrites (Or.inr ⟨job, hepa, hpods _ hpod, hjobWrites⟩)
      · rintro _ m ⟨⟩ hadds
        cases m <;> cases hadds
    · cases hnext
  · cases hnext

lemma configureRound (h : s.Idle parseDuration k)
    (hnext : s.next parseDuration .configureRound = some (s', c)) :
    s'.Idle parseDuration k ∧ AddsNothing k c := by
  simp only [next] at hnext
  split at hnext
  · rename_i k' epa P I metric metrics jobs hround
    cases hnext
    have hwrites := h.round _ hround
    have hne : k' ≠ k := fun heq => hwrites (Or.inl ⟨heq, List.cons_ne_nil _ _⟩)
    refine ⟨{ h with round := ?_ }, addsNothing_setMetricConfig hne⟩
    rintro _ ⟨⟩
    exact fun hrest => hwrites (hrest.imp (fun hk => absurd hk.1 hne) id)
  · cases hnext

lemma dispatch (h : s.Idle parseDuration k)
    (hnext : s.next parseDuration .dispatch = some (s', c)) :
    s'.Idle parseDuration k ∧ AddsNothing k c := by
  simp only [next] at hnext
  split at hnext
  · rename_i k' epa P I job jobs hround
    cases hnext
    have hwrites := h.round _ hround
    refine ⟨{ h with round := ?_, jobs := ?_ }, addsNothing_none⟩
    · rintro _ ⟨⟩
      rintro (hmetrics | ⟨job', hjob', hjobWrites⟩)
      · exact hwrites (Or.inl hmetrics)
      · exact hwrites (Or.inr ⟨job', List.mem_cons_of_mem _ hjob', hjobWrites⟩)
    · intro job' hjob'
      rcases List.mem_append.1 hjob' with hjob' | hjob'
      · exact h.jobs job' hjob'
      · rw [List.mem_singleton.1 hjob']
        exact fun hjob => hwrites (Or.inr ⟨job, List.mem_cons_self, hjob⟩)
  · cases hnext

lemma take (h : s.Idle parseDuration k) (hnext : s.next parseDuration .take = some (s', c)) :
    s'.Idle parseDuration k ∧ AddsNothing k c := by
  simp only [next] at hnext
  split at hnext
  · rename_i job jobs hjobs
    cases hnext
    have hwrites : ¬ JobWrites V k job := h.jobs job (hjobs ▸ List.mem_cons_self)
    refine ⟨{ h with jobs := ?_, tasks := ?_ }, addsNothing_getScrapeStats fun heq =>
      hwrites (Or.inl heq)⟩
    · exact fun job' hjob' => h.jobs job' (hjobs ▸ List.mem_cons_of_mem _ hjob')
    · intro task htask
      rcases List.mem_append.1 htask with htask | htask
      · exact h.tasks task htask
      · rw [List.mem_singleton.1 htask]
        exact fun hresponse => hwrites (Or.inr hresponse)
  · cases hnext

/-- A job moves on to a stage in which it writes nothing. -/
lemma setTask {i : ℕ} {task : StoreTask} (h : s.Idle parseDuration k)
    (htask : ¬ task.Writes V k) : (s.setTask i task).Idle parseDuration k := by
  refine { h with tasks := ?_ }
  intro task' htask'
  rcases List.mem_or_eq_of_mem_set htask' with hold | rfl
  · exact h.tasks task' hold
  · exact htask

lemma respond {i : ℕ} {parsed : List (ParsedMetric V)} (h : s.Idle parseDuration k)
    (hnext : s.next parseDuration (.respond i parsed) = some (s', c)) :
    s'.Idle parseDuration k ∧ AddsNothing k c := by
  simp only [next] at hnext
  split at hnext
  · rename_i job htask
    split at hnext
    · rename_i ns epaName podIp hscrape
      cases hnext
      have hwrites := h.tasks _ (List.mem_of_getElem? htask)
      refine ⟨h.setTask ?_, addsNothing_none⟩
      rintro ⟨rfl, hfound⟩
      exact hwrites ⟨⟨podIp, hscrape⟩, parsed, hfound⟩
    · cases hnext
  · cases hnext

lemma warn {i : ℕ} (h : s.Idle parseDuration k)
    (hnext : s.next parseDuration (.warn i) = some (s', c)) :
    s'.Idle parseDuration k ∧ AddsNothing k c := by
  simp only [next] at hnext
  split at hnext
  · rename_i job ns epaName metricName todo htask
    cases hnext
    have hwrites := h.tasks _ (List.mem_of_getElem? htask)
    have hne : (ns, epaName) ≠ k := fun heq => hwrites ⟨heq, List.cons_ne_nil _ _⟩
    refine ⟨h.setTask fun hrest => hne hrest.1, ?_⟩
    rintro _ m ⟨⟩ hadds
    cases m with
    | multiSeriesWarned => exact hne (Prod.ext hadds.1 hadds.2)
    | _ => cases hadds
  · cases hnext

lemma lookup {i : ℕ} (h : s.Idle parseDuration k)
    (hnext : s.next parseDuration (.lookup i) = some (s', c)) :
    s'.Idle parseDuration k ∧ AddsNothing k c := by
  simp only [next] at hnext
  split at hnext
  · rename_i job ns epaName metricName todo htask
    cases hnext
    have hwrites := h.tasks _ (List.mem_of_getElem? htask)
    have hne : (ns, epaName) ≠ k := fun heq => hwrites ⟨heq, List.cons_ne_nil _ _⟩
    refine ⟨h.setTask fun hrest => hne hrest.1, ?_⟩
    rintro _ m ⟨⟩ hadds
    cases m with
    | windows => exact hne (Prod.ext hadds.1 hadds.2)
    | _ => cases hadds
  · cases hnext

lemma push {i : ℕ} (h : s.Idle parseDuration k)
    (hnext : s.next parseDuration (.push i) = some (s', c)) :
    s'.Idle parseDuration k ∧ AddsNothing k c := by
  simp only [next] at hnext
  split at hnext
  · rename_i job ns epaName todo htask
    cases hnext
    have hwrites := h.tasks _ (List.mem_of_getElem? htask)
    exact ⟨h.setTask hwrites, addsNothing_none⟩
  · cases hnext

lemma finish {i : ℕ} (h : s.Idle parseDuration k)
    (hnext : s.next parseDuration (.finish i) = some (s', c)) :
    s'.Idle parseDuration k ∧ AddsNothing k c := by
  have hrest : ∀ task ∈ s.tasks.eraseIdx i, ¬ task.Writes V k :=
    fun task htask => h.tasks task ((List.eraseIdx_sublist _ _).subset htask)
  simp only [next] at hnext
  split at hnext
  · cases hnext
    exact ⟨{ h with tasks := hrest }, addsNothing_none⟩
  · cases hnext
    exact ⟨{ h with tasks := hrest }, addsNothing_none⟩
  · cases hnext

/-- The tick goes on to the entries that remain. -/
lemma rest {entry : String × Epa} {entries : List (String × Epa)} (h : s.Idle parseDuration k)
    (htick : s.tick = some (entry :: entries)) :
    { s with tick := some entries }.Idle parseDuration k := by
  refine { h with tick := ?_ }
  rintro _ ⟨⟩ entry' hentry'
  exact h.tick _ htick entry' (List.mem_cons_of_mem _ hentry')

/-- A round is over. -/
lemma endRound (h : s.Idle parseDuration k) : { s with round := none }.Idle parseDuration k := by
  refine { h with round := ?_ }
  intro _ hnone
  cases hnone

/-- A tick is over. -/
lemma endTick (h : s.Idle parseDuration k) : { s with tick := none }.Idle parseDuration k := by
  refine { h with tick := ?_ }
  intro _ hnone
  cases hnone

/-- What a step does while nothing can write an entry of the EPA: it stays so, and nothing of the
EPA is added. -/
lemma next (h : s.Idle parseDuration k) (hnone : s.NoneOf k e)
    (hnext : s.next parseDuration e = some (s', c)) :
    s'.Idle parseDuration k ∧ AddsNothing k c := by
  cases e with
  | sendUpsert epa =>
      cases hnext
      refine ⟨{ h with updates := h.updates_send ?_ }, addsNothing_none⟩
      rintro epa' ⟨⟩ ns name hns hname
      exact not_upsertWrites hns hname (hnone ns name hns hname).1 (hnone ns name hns hname).2
  | beginDelete k' =>
      simp only [Process.next] at hnext
      split at hnext
      · cases hnext
        exact ⟨{ h with }, addsNothing_none⟩
      · cases hnext
        exact ⟨{ h with }, addsNothing_none⟩
      · cases hnext
  | sendDelete k' =>
      simp only [Process.next] at hnext
      split at hnext
      · cases hnext
        refine ⟨{ h with updates := h.updates_send ?_ }, addsNothing_none⟩
        intro epa hdelete
        cases hdelete
      · cases hnext
  | sweep k' =>
      simp only [Process.next] at hnext
      split at hnext
      · rename_i m' maps hk
        cases hnext
        refine ⟨{ h with }, ?_⟩
        rintro _ m ⟨⟩ hadds
        cases m <;> cases hadds
      · cases hnext
  | receive => exact h.receive hnext
  | configure => exact h.configure hnext
  | register => exact h.register hnext
  | startTick entries => exact h.startTick hnext
  | skip =>
      simp only [Process.next] at hnext
      split at hnext
      · rename_i htick
        cases hnext
        exact ⟨h.rest htick, addsNothing_none⟩
      · cases hnext
  | startRound => exact h.startRound hnext
  | resolve pods => exact h.resolve hnext
  | abandon =>
      simp only [Process.next] at hnext
      split at hnext
      · cases hnext
        exact ⟨h.endRound, addsNothing_none⟩
      · cases hnext
  | configureRound => exact h.configureRound hnext
  | dispatch => exact h.dispatch hnext
  | endRound =>
      simp only [Process.next] at hnext
      split at hnext
      · cases hnext
        exact ⟨h.endRound, addsNothing_none⟩
      · cases hnext
  | evict stale =>
      simp only [Process.next] at hnext
      split at hnext
      · cases hnext
        refine ⟨h, ?_⟩
        rintro _ m ⟨⟩ hadds
        cases m <;> cases hadds
      · cases hnext
  | endTick =>
      simp only [Process.next] at hnext
      split at hnext
      · cases hnext
        exact ⟨h.endTick, addsNothing_none⟩
      · cases hnext
  | take => exact h.take hnext
  | respond i parsed => exact h.respond hnext
  | warn i => exact h.warn hnext
  | lookup i => exact h.lookup hnext
  | push i => exact h.push hnext
  | finish i => exact h.finish hnext
  | cacheResult key value =>
      cases hnext
      refine ⟨h, ?_⟩
      rintro _ m ⟨⟩ hadds
      cases m with
      | cache => exact hnone hadds
      | _ => cases hadds
  | cleanupCache expired =>
      cases hnext
      refine ⟨h, ?_⟩
      rintro _ m ⟨⟩ hadds
      cases m <;> cases hadds

end Idle

/-- What is idle stays so, and the maps that are swept stay without entries of the EPA. -/
lemma idle_path {es : List (ProcessEvent V)}
    (hrun : (cleanupSystem V parseDuration).Path (NoneOf k) s es s') (hs : s.Idle parseDuration k)
    (hI : ∀ m, s.Swept k m → s.maps.NothingIn k.1 k.2 m) :
    ∀ m, s'.Swept k m → s'.maps.NothingIn k.1 k.2 m := by
  have hkept := hrun.preserves (I := fun s => s.Idle parseDuration k ∧
    ∀ m, s.Swept k m → s.maps.NothingIn k.1 k.2 m) ?_ ⟨hs, hI⟩
  · exact hkept.2
  · rintro s e s' ⟨hidle, hI⟩ hnone hs
    obtain ⟨⟨s₁, c⟩, hnext, rfl⟩ := Option.map_eq_some_iff.1 hs
    obtain ⟨hidle', hadds⟩ := hidle.next hnone hnext
    refine ⟨?_, nothingIn_call hI hnext hadds⟩
    rcases c with _ | call
    · exact hidle'
    · exact { hidle' with }

end Process

/-- **Deletions with nothing under way.** If nothing that is registered or under way can write an
entry of the EPA before the deletion has swept a map, and no `Upsert` and no cached value of the EPA
come later, nothing of it is in the store once all maps are swept. -/
theorem nothing_left_of_idle {V : Type} {parseDuration : String → Option ℕ} {k : ResourceName}
    {s s' : Process V} {es : List (ProcessEvent V)} (hidle : s.Idle parseDuration k)
    (hstart : ∀ m, ¬ s.Swept k m)
    (hrun : (cleanupSystem V parseDuration).Path (Process.NoneOf k) s es s')
    (hend : s'.deletions.lookup k = some (.sweeping [])) : s'.NothingLeft k := by
  have hkept := Process.idle_path hrun hidle fun m hswept => absurd hswept (hstart m)
  exact fun m => hkept m ⟨[], hend, List.not_mem_nil⟩

/-! ### A tick that has copied the EPA -/

/-- The deletion of the EPA is over, and nothing is under way. -/
structure Process.Finished {V : Type} (k : ResourceName) (s : Process V) : Prop where
  deletion : s.deletions.lookup k = some (.sweeping [])
  updates : s.updates = []
  handling : s.handling = none
  tick : s.tick = none
  round : s.round = none
  jobs : s.jobs = []
  tasks : s.tasks = []

/-- The EPA is registered, a tick copies it, and its deletion begins. -/
def copiedThenDeleted : List (ProcessEvent ℕ) :=
  [.sendUpsert (webEpa "15s"), .receive, .configure, .register,
    .startTick [("default/web", webEpa "15s")], .beginDelete ("default", "web")]

/-- The `Delete` is sent and the maps are swept. -/
def deleteWeb : List (ProcessEvent ℕ) :=
  .sendDelete ("default", "web") :: List.replicate 5 (.sweep ("default", "web"))

/-- The EPA is unregistered, and the tick goes on: the pod is scraped, and its response has two
series of the metric. -/
def scrapeDeleted : List (ProcessEvent ℕ) :=
  [.receive, .startRound, .resolve [⟨"web-0", some "default", some "10.0.0.1"⟩], .configureRound,
    .dispatch, .endRound, .endTick, .take,
    .respond 0 [⟨"queue_depth", [("shard", "a")], 7, .gauge⟩,
      ⟨"queue_depth", [("shard", "b")], 9, .gauge⟩],
    .warn 0, .lookup 0, .push 0, .finish 0]

/-- The replica when the deletion begins. -/
def webDeleting : Process ℕ :=
  ((cleanupSystem ℕ TickRun.parseWebDuration).exec .new copiedThenDeleted).get (by decide +kernel)

/-- The replica when the maps are swept. -/
def webSwept : Process ℕ :=
  ((cleanupSystem ℕ TickRun.parseWebDuration).exec webDeleting deleteWeb).get (by decide +kernel)

/-- The replica when the job is done. -/
def webScraped : Process ℕ :=
  ((cleanupSystem ℕ TickRun.parseWebDuration).exec webSwept scrapeDeleted).get (by decide +kernel)

lemma deleteWeb_run :
    (cleanupSystem ℕ TickRun.parseWebDuration).Path System.Any webDeleting deleteWeb webSwept :=
  System.exec_eq_some_iff.1 (Option.some_get _).symm

/-- **Entries that are left behind.** The deletion is over and nothing is under way, no `Upsert`
came after the `Delete`, and the store has a window, a configuration, a record of a warning and
scrape statistics of the EPA. -/
theorem entries_left_behind :
    (cleanupSystem ℕ TickRun.parseWebDuration).Reachable System.Any webDeleting ∧
    webDeleting.deletions.lookup ("default", "web") = some .notifying ∧
    (cleanupSystem ℕ TickRun.parseWebDuration).Path System.Any webDeleting
      (deleteWeb ++ scrapeDeleted) webScraped ∧
    (∀ e ∈ deleteWeb ++ scrapeDeleted, ∀ epa, e ≠ .sendUpsert epa) ∧
    webScraped.Finished ("default", "web") ∧ ¬ webScraped.NothingLeft ("default", "web") ∧
    ⟨"default", "web", "queue_depth", "web-0"⟩ ∈ webScraped.maps.windows ∧
    ⟨"default", "web", "queue_depth"⟩ ∈ webScraped.maps.configs ∧
    ⟨"default", "web", "queue_depth"⟩ ∈ webScraped.maps.multiSeriesWarned ∧
    "default/web" ∈ webScraped.maps.scrapeStats := by
  have hrun := deleteWeb_run.append (System.exec_eq_some_iff.1 (Option.some_get _).symm :
    (cleanupSystem ℕ TickRun.parseWebDuration).Path System.Any webSwept scrapeDeleted webScraped)
  have hstats : "default/web" ∈ webScraped.maps.scrapeStats := by decide +kernel
  have hleft : ¬ webScraped.NothingLeft ("default", "web") := fun hnothing =>
    Lacks.not_mem (hnothing .scrapeStats) rfl hstats
  refine ⟨.of_exec rfl (Option.some_get _).symm, by decide +kernel, hrun, ?_, ?_, hleft,
    by decide +kernel, by decide +kernel, by decide +kernel, hstats⟩
  · intro e he epa heq
    simp [deleteWeb, scrapeDeleted, heq] at he
  · exact ⟨by decide +kernel, by decide +kernel, by decide +kernel, by decide +kernel,
      Option.isNone_iff_eq_none.1 (by decide +kernel), by decide +kernel,
      List.isEmpty_iff.1 (by decide +kernel)⟩

end ExternalPodAutoscaler.Controller
