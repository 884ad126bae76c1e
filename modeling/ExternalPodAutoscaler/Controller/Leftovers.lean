/-
When the deletion of an EPA leaves nothing in the store.

The deletion sends its `Delete` and sweeps the maps at once; what the update handler, the
scheduler and the workers have under way goes on.  If one of them can still write an entry of the
EPA, it does so after the sweep in some run, and nothing removes the entry when everything is done.

The main result of this file is `nothing_left_iff`: from the time at which the `Delete` is sent
until the first map is swept, every way to go on leaves nothing of the EPA exactly when nothing that
is registered or under way can write an entry of it.
-/
import ExternalPodAutoscaler.Controller.Cleanup
import ExternalPodAutoscaler.Lib.Cells

namespace ExternalPodAutoscaler.Controller

open ExternalPodAutoscaler.Api ExternalPodAutoscaler.Lib ExternalPodAutoscaler.Membership
open ExternalPodAutoscaler.Scraper ExternalPodAutoscaler.Store

variable {V : Type} {parseDuration : String → Option ℕ} {k k' : ResourceName}
  {s s' : Process V} {e : ProcessEvent V} {c : Option (StoreCall V)}

namespace ProcessEvent

/-- The step is one of the update handler, of a round or of a worker. -/
def IsTask : ProcessEvent V → Prop
  | .sendUpsert _ | .beginDelete _ | .sendDelete _ | .sweep _ | .evict _ | .cacheResult _ _
  | .cleanupCache _ => False
  | _ => True

/-- The step goes on with what is under way, and removes no entry of the store. -/
def Completes : ProcessEvent V → Prop
  | .receive | .configure | .register | .skip | .abandon | .configureRound | .dispatch
  | .endRound | .endTick | .take | .warn _ | .lookup _ | .push _ | .finish _ => True
  | _ => False

lemma Completes.isTask (h : e.Completes) : e.IsTask := by
  cases e <;> trivial

lemma IsTask.noneOf (h : e.IsTask) (s : Process V) : s.NoneOf k e := by
  cases e <;> trivial

end ProcessEvent

/-! ### Steps of the tasks -/

namespace Process

lemma step_of_next {s₁ : Process V} (h : s.next parseDuration e = some (s₁, c)) :
    (cleanupSystem V parseDuration).step s e = some (s₁.call c) := by
  show (s.next parseDuration e).map _ = _
  rw [h]
  rfl

lemma next_resolve {epa : Epa} {evaluationPeriod interval : ℕ} {pods : List Pod}
    (hround : s.round = some ⟨k', epa, evaluationPeriod, interval, .resolving⟩)
    (hpods : ∀ pod ∈ pods, pod.ns = some k'.1) :
    s.next parseDuration (.resolve pods) = some ({ s with
      round := some ⟨k', epa, evaluationPeriod, interval, .dispatching epa.spec.metrics
        (Scheduler.roundJobs epa evaluationPeriod interval pods)⟩ },
      some (.retainPodWindows k'.1 k'.2 (pods.map Pod.name))) := by
  simp only [next, hround, if_pos hpods]

lemma deletions_of_isTask (he : e.IsTask)
    (h : (cleanupSystem V parseDuration).step s e = some s') : s'.deletions = s.deletions := by
  obtain ⟨⟨s₁, c⟩, hnext, rfl⟩ := Option.map_eq_some_iff.1 h
  rw [deletions_call]
  cases e with
  | sendUpsert _ | beginDelete _ | sendDelete _ | sweep _ | evict _ | cacheResult _ _
  | cleanupCache _ => cases he
  | _ =>
      simp only [next] at hnext
      (repeat' split at hnext) <;> cases hnext <;> rfl

/-- What goes on removes nothing. -/
lemma not_nothingIn_of_completes {m : StoreMap} (he : e.Completes)
    (h : (cleanupSystem V parseDuration).step s e = some s')
    (hleft : ¬ s.maps.NothingIn k.1 k.2 m) : ¬ s'.maps.NothingIn k.1 k.2 m := by
  obtain ⟨⟨s₁, c⟩, hnext, rfl⟩ := Option.map_eq_some_iff.1 h
  rcases c with _ | call
  · show ¬ s₁.maps.NothingIn k.1 k.2 m
    rwa [maps_next hnext]
  · have hkeeps : call.Keeps := by
      cases e with
      | receive | configure | register | skip | abandon | configureRound | dispatch | endRound
      | endTick | take | warn _ | lookup _ | push _ | finish _ =>
          simp only [next] at hnext
          (repeat' split at hnext) <;> cases hnext <;> trivial
      | _ => cases he
    rw [maps_call, maps_next hnext]
    exact fun hnothing => hleft (StoreMaps.nothingIn_of_apply hkeeps hnothing)

end Process

/-! ### What leads to an entry -/

/-- The tasks can go on so that the store has an entry of the EPA. -/
def Leads (parseDuration : String → Option ℕ) (k : ResourceName) (s : Process V) : Prop :=
  ∃ es s', (cleanupSystem V parseDuration).Path (fun _ e => e.IsTask) s es s' ∧
    ∃ m, ¬ s'.maps.NothingIn k.1 k.2 m

namespace Leads

lemma of_path {es : List (ProcessEvent V)}
    (hpath : (cleanupSystem V parseDuration).Path (fun _ e => e.IsTask) s es s')
    (h : Leads parseDuration k s') : Leads parseDuration k s := by
  obtain ⟨es', s'', hpath', hleft⟩ := h
  exact ⟨es ++ es', s'', hpath.append hpath', hleft⟩

lemma of_next {s₁ : Process V} (he : e.IsTask) (hnext : s.next parseDuration e = some (s₁, c))
    (h : Leads parseDuration k (s₁.call c)) : Leads parseDuration k s :=
  of_path (.single he (Process.step_of_next hnext)) h

lemma of_adds {s₁ : Process V} {call : StoreCall V} {m : StoreMap} (he : e.IsTask)
    (hnext : s.next parseDuration e = some (s₁, some call)) (hadds : call.Adds k.1 k.2 m) :
    Leads parseDuration k s :=
  ⟨_, _, .single he (Process.step_of_next hnext), m, StoreMaps.not_nothingIn_apply hadds⟩

/-! #### A worker -/

variable {i : ℕ} {job : ScrapeJob}

lemma of_storing {ns epaName : String} {todo : List (String × Bool)}
    (htask : s.tasks[i]? = some ⟨job, .storing ns epaName todo⟩) (hk : (ns, epaName) = k)
    (htodo : todo ≠ []) : Leads parseDuration k s := by
  subst hk
  rcases todo with _ | ⟨⟨metricName, several⟩, todo⟩
  · exact absurd rfl htodo
  · cases several with
    | true =>
        refine of_adds (e := .warn i) (m := .multiSeriesWarned) trivial
          (by simp only [Process.next, htask]; rfl) ?_
        exact ⟨rfl, rfl⟩
    | false =>
        refine of_adds (e := .lookup i) (m := .windows) trivial
          (by simp only [Process.next, htask]; rfl) ?_
        exact ⟨rfl, rfl⟩

/-- What a worker has to store, or can have, leads to an entry. -/
lemma of_task {task : StoreTask} (htask : s.tasks[i]? = some task) (h : task.Writes V k) :
    Leads parseDuration k s := by
  obtain ⟨job, stage⟩ := task
  cases stage with
  | storing ns epaName todo => exact of_storing htask h.1 h.2
  | pushing ns epaName todo =>
      refine of_next (e := .push i) trivial (by simp only [Process.next, htask]; rfl) ?_
      exact of_storing (getElem?_set_of_some htask _) h.1 h.2
  | scraping =>
      obtain ⟨⟨podIp, htarget⟩, parsed, hfound⟩ := h
      refine of_next (e := .respond i parsed) trivial
        (by simp only [Process.next, htask, htarget]; rfl) ?_
      exact of_storing (getElem?_set_of_some htask _) rfl hfound

/-- A job in the channel leads to an entry once the workers have come to it. -/
lemma of_job (hjob : job ∈ s.jobs) (h : JobWrites V k job) : Leads parseDuration k s := by
  induction hjobs : s.jobs generalizing s with
  | nil =>
      rw [hjobs] at hjob
      cases hjob
  | cons job' jobs ih =>
      rw [hjobs] at hjob
      rcases List.mem_cons.1 hjob with rfl | hjob
      · rcases h with hstats | hresponse
        · refine of_adds (e := .take) (m := .scrapeStats) trivial
            (by simp only [Process.next, hjobs]; rfl) ?_
          exact hstats
        · refine of_next (e := .take) trivial (by simp only [Process.next, hjobs]; rfl) ?_
          exact of_task (i := s.tasks.length) List.getElem?_concat_length hresponse
      · refine of_next (e := .take) trivial (by simp only [Process.next, hjobs]; rfl) ?_
        exact ih hjob rfl

/-! #### A round and a tick -/

variable {epa : Epa} {evaluationPeriod interval : ℕ}

/-- The metrics of a round are configured, and then its jobs are sent. -/
lemma of_dispatching {metrics : List MetricSpec} {jobs : List ScrapeJob}
    (hround : s.round =
      some ⟨k', epa, evaluationPeriod, interval, .dispatching metrics jobs⟩)
    (h : (k' = k ∧ metrics ≠ []) ∨ ∃ job ∈ jobs, JobWrites V k job) :
    Leads parseDuration k s := by
  induction metrics generalizing s with
  | cons metric metrics ih =>
      by_cases hk : k' = k
      · subst hk
        refine of_adds (e := .configureRound) (m := .configs) trivial
          (by simp only [Process.next, hround]; rfl) ?_
        exact ⟨rfl, rfl⟩
      · refine of_next (e := .configureRound) trivial
          (by simp only [Process.next, hround]; rfl) ?_
        exact ih rfl (Or.inr (h.resolve_left fun hmetrics => hk hmetrics.1))
  | nil =>
      obtain ⟨job, hjob, hwrites⟩ := h.resolve_left fun hmetrics => hmetrics.2 rfl
      induction jobs generalizing s with
      | nil => cases hjob
      | cons job' jobs ih =>
          refine of_next (e := .dispatch) trivial
            (by simp only [Process.next, hround]; rfl) ?_
          rcases List.mem_cons.1 hjob with rfl | hjob
          · exact of_job (List.mem_append_right _ List.mem_cons_self) hwrites
          · exact ih rfl (Or.inr ⟨job, hjob, hwrites⟩) hjob

/-- A round that looks up its pods can find the one it takes. -/
lemma of_resolving
    (hround : s.round = some ⟨k', epa, evaluationPeriod, interval, .resolving⟩)
    (h : (k' = k ∧ epa.spec.metrics ≠ []) ∨ RoundJobWrites V k k'.1 epa) :
    Leads parseDuration k s := by
  rcases h with hmetrics | ⟨job, rfl, hpod, hwrites⟩
  · refine of_next (e := .resolve []) trivial (Process.next_resolve hround (by simp)) ?_
    exact of_dispatching rfl (Or.inl hmetrics)
  · have hpods : ∀ pod ∈ [job.pod], pod.ns = some k'.1 := by
      intro pod hpod'
      rw [List.mem_singleton.1 hpod', hpod]
    refine of_next (e := .resolve [job.pod]) trivial (Process.next_resolve hround hpods) ?_
    refine of_dispatching rfl (Or.inr ⟨_, List.mem_cons_self, ?_⟩)
    -- the jobs of one EPA for one pod write the same
    exact hwrites

lemma of_tick {entries : List (String × Epa)} {entry : String × Epa} (hround : s.round = none)
    (htick : s.tick = some entries) (hentry : entry ∈ entries)
    (h : EntryWrites V parseDuration k entry) : Leads parseDuration k s := by
  induction entries generalizing s with
  | nil => cases hentry
  | cons entry' entries ih =>
      rcases List.mem_cons.1 hentry with rfl | hentry
      · obtain ⟨key, epa⟩ := entry
        obtain ⟨k', hkey, hP, hI, hwrites⟩ := h
        obtain ⟨P, hP⟩ := Option.isSome_iff_exists.1 hP
        obtain ⟨I, hI⟩ := Option.isSome_iff_exists.1 hI
        have hkey' : key = epaKey k'.1 k'.2 := Scheduler.key_eq_of_splitKey hkey
        rcases hwrites with heq | hjob
        · refine of_adds (e := .startRound) (m := .scrapeStats) trivial
            (by simp only [Process.next, hround, htick, hkey, hP, hI]; rfl) ?_
          exact hkey'.symm.trans heq
        · refine of_next (e := .startRound) trivial
            (by simp only [Process.next, hround, htick, hkey, hP, hI]; rfl) ?_
          exact of_resolving rfl (Or.inr hjob)
      · refine of_next (e := .skip) trivial (by simp only [Process.next, hround, htick]; rfl) ?_
        exact ih rfl rfl hentry

end Leads

/-! ### Going on until nothing is under way -/

/-- The number of steps that a round can still take, with those of the jobs it sends. -/
def roundWeight : Option Round → ℕ
  | none => 0
  | some ⟨_, _, _, _, .resolving⟩ => 1
  | some ⟨_, _, _, _, .dispatching metrics jobs⟩ => metrics.length + 3 * jobs.length + 1

/-- The number of steps that a tick takes to skip its entries. -/
def tickWeight (tick : Option (List (String × Epa))) : ℕ :=
  (tick.map fun entries => entries.length + 1).getD 0

/-- The number of steps of a worker. -/
def taskWeight : StoreTask → ℕ
  | ⟨_, .scraping⟩ => 1
  | ⟨_, .storing _ _ todo⟩ => (todo.map fun metric => if metric.2 then 3 else 2).sum + 1
  | ⟨_, .pushing _ _ todo⟩ => (todo.map fun metric => if metric.2 then 3 else 2).sum + 2

/-- The number of steps that an `Upsert` takes. -/
def handlingWeight (handling : Option (ResourceName × Epa × List MetricSpec)) : ℕ :=
  (handling.map fun upsert => upsert.2.2.length + 1).getD 0

/-- The number of steps that a message takes. -/
def updateWeight : EpaUpdate → ℕ
  | .upsert epa => epa.spec.metrics.length + 2
  | .delete _ _ => 1

namespace Process

/-- Nothing is under way. -/
structure Still (s : Process V) : Prop where
  updates : s.updates = []
  handling : s.handling = none
  tick : s.tick = none
  round : s.round = none
  jobs : s.jobs = []
  tasks : s.tasks = []

variable (parseDuration) in
/-- The round in progress goes on. -/
lemma exists_round_step (h : s.round ≠ none) : ∃ e round jobs c, e.Completes ∧
    s.next parseDuration e = some ({ s with round := round, jobs := jobs }, c) ∧
    roundWeight round < roundWeight s.round ∧
    roundWeight round + 2 * jobs.length < roundWeight s.round + 2 * s.jobs.length := by
  obtain ⟨⟨k', epa, P, I, stage⟩, hround⟩ := Option.ne_none_iff_exists'.1 h
  rw [hround]
  cases stage with
  | resolving =>
      refine ⟨.abandon, none, s.jobs, none, trivial, by simp only [next, hround], ?_, ?_⟩
      · simp [roundWeight]
      · simp [roundWeight]
  | dispatching metrics jobs =>
      rcases metrics with _ | ⟨metric, metrics⟩
      · rcases jobs with _ | ⟨job, jobs⟩
        · refine ⟨.endRound, none, s.jobs, none, trivial, by simp only [next, hround], ?_, ?_⟩
          · simp [roundWeight]
          · simp [roundWeight]
        · refine ⟨.dispatch, _, _, none, trivial, by simp only [next, hround]; rfl, ?_, ?_⟩
          · simp [roundWeight]
          · simp [roundWeight]
            omega
      · refine ⟨.configureRound, _, s.jobs, _, trivial, by simp only [next, hround]; rfl, ?_, ?_⟩
        · simp [roundWeight]
        · simp [roundWeight]

variable (parseDuration) in
/-- The tick in progress goes on. -/
lemma exists_tick_step (hround : s.round = none) (h : s.tick ≠ none) : ∃ e tick, e.Completes ∧
    s.next parseDuration e = some ({ s with tick := tick }, none) ∧
    tickWeight tick < tickWeight s.tick := by
  obtain ⟨entries, htick⟩ := Option.ne_none_iff_exists'.1 h
  rw [htick]
  rcases entries with _ | ⟨entry, entries⟩
  · refine ⟨.endTick, none, trivial, ?_, ?_⟩
    · simp only [next, hround, htick]
    · simp [tickWeight]
  · refine ⟨.skip, some entries, trivial, ?_, ?_⟩
    · simp only [next, hround, htick]
    · simp [tickWeight]

variable (parseDuration) in
/-- A worker goes on with its job. -/
lemma exists_task_step (h : s.tasks ≠ []) : ∃ e tasks c, e.Completes ∧
    s.next parseDuration e = some ({ s with tasks := tasks }, c) ∧
    (tasks.map taskWeight).sum < (s.tasks.map taskWeight).sum := by
  obtain ⟨⟨job, stage⟩, tasks, htasks⟩ := List.exists_cons_of_ne_nil h
  rw [htasks]
  cases stage with
  | scraping =>
      refine ⟨.finish 0, tasks, none, trivial, ?_, by simp [taskWeight]⟩
      simp only [next, htasks]
      rfl
  | pushing ns epaName todo =>
      refine ⟨.push 0, ⟨job, .storing ns epaName todo⟩ :: tasks, none, trivial, ?_,
        by simp [taskWeight]⟩
      simp only [next, setTask, htasks]
      rfl
  | storing ns epaName todo =>
      rcases todo with _ | ⟨⟨metricName, several⟩, todo⟩
      · refine ⟨.finish 0, tasks, none, trivial, ?_, by simp [taskWeight]⟩
        simp only [next, htasks]
        rfl
      · cases several with
        | true =>
            refine ⟨.warn 0, ⟨job, .storing ns epaName ((metricName, false) :: todo)⟩ :: tasks,
              some (.firstMultiSeries ⟨ns, epaName, metricName⟩), trivial, ?_,
              by simp [taskWeight]⟩
            simp only [next, setTask, htasks]
            rfl
        | false =>
            refine ⟨.lookup 0, ⟨job, .pushing ns epaName todo⟩ :: tasks,
              some (.pushSample ⟨ns, epaName, metricName, job.pod.name⟩), trivial, ?_, ?_⟩
            · simp only [next, setTask, htasks]
              rfl
            · simp [taskWeight]
              omega

variable (parseDuration) in
/-- The `Upsert` that is being handled goes on. -/
lemma exists_handling_step (h : s.handling ≠ none) : ∃ e handling activeEpas c, e.Completes ∧
    s.next parseDuration e =
      some ({ s with handling := handling, activeEpas := activeEpas }, c) ∧
    handlingWeight handling < handlingWeight s.handling := by
  obtain ⟨⟨k', epa, metrics⟩, hhandling⟩ := Option.ne_none_iff_exists'.1 h
  rw [hhandling]
  rcases metrics with _ | ⟨metric, metrics⟩
  · refine ⟨.register, none, _, none, trivial, by simp only [next, hhandling]; rfl, ?_⟩
    simp [handlingWeight]
  · refine ⟨.configure, some (k', epa, metrics), s.activeEpas, _, trivial,
      by simp only [next, hhandling]; rfl, ?_⟩
    simp [handlingWeight]

variable (parseDuration) in
/-- The next message is received. -/
lemma exists_update_step (hhandling : s.handling = none) (h : s.updates ≠ []) :
    ∃ handling activeEpas,
      s.next parseDuration .receive = some ({ s with
        updates := s.updates.tail, handling := handling, activeEpas := activeEpas }, none) ∧
      (s.updates.tail.map updateWeight).sum + handlingWeight handling <
        (s.updates.map updateWeight).sum := by
  obtain ⟨update, updates, hupdates⟩ := List.exists_cons_of_ne_nil h
  rw [hupdates]
  cases update with
  | delete ns name =>
      refine ⟨none, s.activeEpas.erase (epaKey ns name), ?_, ?_⟩
      · simp only [next, hhandling, hupdates, List.tail_cons]
      · simp [updateWeight, handlingWeight]
  | upsert epa =>
      rcases hns : epa.metadata.ns with _ | ns
      · refine ⟨none, s.activeEpas, ?_, ?_⟩
        · simp only [next, hhandling, hupdates, hns, List.tail_cons]
        · simp [updateWeight, handlingWeight]
      · rcases hname : epa.metadata.name with _ | name
        · refine ⟨none, s.activeEpas, ?_, ?_⟩
          · simp only [next, hhandling, hupdates, hns, hname, List.tail_cons]
          · simp [updateWeight, handlingWeight]
        · refine ⟨some ((ns, name), epa, epa.spec.metrics), s.activeEpas, ?_, ?_⟩
          · simp only [next, hhandling, hupdates, hns, hname, List.tail_cons]
          · simp [updateWeight, handlingWeight]
            omega

@[simp] lemma updates_call (s : Process V) (c : Option (StoreCall V)) :
    (s.call c).updates = s.updates := by
  cases c <;> rfl

@[simp] lemma handling_call (s : Process V) (c : Option (StoreCall V)) :
    (s.call c).handling = s.handling := by
  cases c <;> rfl

@[simp] lemma activeEpas_call (s : Process V) (c : Option (StoreCall V)) :
    (s.call c).activeEpas = s.activeEpas := by
  cases c <;> rfl

@[simp] lemma tick_call (s : Process V) (c : Option (StoreCall V)) :
    (s.call c).tick = s.tick := by
  cases c <;> rfl

@[simp] lemma round_call (s : Process V) (c : Option (StoreCall V)) :
    (s.call c).round = s.round := by
  cases c <;> rfl

@[simp] lemma jobs_call (s : Process V) (c : Option (StoreCall V)) :
    (s.call c).jobs = s.jobs := by
  cases c <;> rfl

@[simp] lemma tasks_call (s : Process V) (c : Option (StoreCall V)) :
    (s.call c).tasks = s.tasks := by
  cases c <;> rfl

variable (parseDuration) in
/-- The round in progress can end, and the tick stays where it is. -/
lemma exists_endRound (s : Process V) : ∃ es s', (cleanupSystem V parseDuration).Path
    (fun _ e => e.IsTask) s es s' ∧ s'.tick = s.tick ∧ s'.round = none := by
  refine System.exists_path_of_progress (I := fun s' : Process V => s'.tick = s.tick)
    (fun s : Process V => roundWeight s.round) ?_ rfl
  intro s₁ htick hround
  obtain ⟨e, round, jobs, c, he, hnext, hlt, -⟩ :=
    exists_round_step parseDuration hround
  refine ⟨e, _, he.isTask, step_of_next hnext, ?_, ?_⟩
  · rw [tick_call]
    exact htick
  · rw [round_call]
    exact hlt

variable (parseDuration) in
/-- The tick in progress can end, and what is registered stays so. -/
lemma exists_endTick (s : Process V) : ∃ es s', (cleanupSystem V parseDuration).Path
    (fun _ e => e.IsTask) s es s' ∧ s'.activeEpas = s.activeEpas ∧
      s'.round = none ∧ s'.tick = none := by
  refine System.exists_path_of_progress (I := fun s' : Process V => s'.activeEpas = s.activeEpas)
    (fun s : Process V => roundWeight s.round + tickWeight s.tick) ?_ rfl
  intro s₁ hactive hgoal
  by_cases hround : s₁.round = none
  · have htick : s₁.tick ≠ none := fun htick => hgoal ⟨hround, htick⟩
    obtain ⟨e, tick, he, hnext, hlt⟩ :=
      exists_tick_step parseDuration hround htick
    refine ⟨e, _, he.isTask, step_of_next hnext, ?_, ?_⟩
    · rw [activeEpas_call]
      exact hactive
    · rw [round_call, tick_call]
      exact Nat.add_lt_add_left hlt _
  · obtain ⟨e, round, jobs, c, he, hnext, hlt, -⟩ :=
      exists_round_step parseDuration hround
    refine ⟨e, _, he.isTask, step_of_next hnext, ?_, ?_⟩
    · rw [activeEpas_call]
      exact hactive
    · rw [round_call, tick_call]
      exact Nat.add_lt_add_right hlt _

variable (parseDuration) in
/-- The `Upsert` that is being handled can be done with, before the next message. -/
lemma exists_handled (s : Process V) : ∃ es s', (cleanupSystem V parseDuration).Path
    (fun _ e => e.IsTask) s es s' ∧ s'.updates = s.updates ∧ s'.handling = none := by
  refine System.exists_path_of_progress (I := fun s' : Process V => s'.updates = s.updates)
    (fun s : Process V => handlingWeight s.handling) ?_ rfl
  intro s₁ hupdates hhandling
  obtain ⟨e, handling, activeEpas, c, he, hnext, hlt⟩ :=
    exists_handling_step parseDuration hhandling
  refine ⟨e, _, he.isTask, step_of_next hnext, ?_, ?_⟩
  · rw [updates_call]
    exact hupdates
  · rw [handling_call]
    exact hlt

/-- The steps that what is under way can still take. -/
def weight (s : Process V) : ℕ :=
  (s.tasks.map taskWeight).sum + (roundWeight s.round + 2 * s.jobs.length) + tickWeight s.tick +
    ((s.updates.map updateWeight).sum + handlingWeight s.handling)

lemma weight_call (s : Process V) (c : Option (StoreCall V)) : (s.call c).weight = s.weight := by
  cases c <;> rfl

variable (parseDuration) in
/-- What is under way goes on. -/
lemma exists_step_of_not_still (h : ¬ s.Still) : ∃ e s₁ c, e.Completes ∧
    s.next parseDuration e = some (s₁, c) ∧ s₁.weight < s.weight := by
  by_cases htasks : s.tasks = []
  swap
  · obtain ⟨e, tasks, c, he, hnext, hlt⟩ :=
      exists_task_step parseDuration htasks
    refine ⟨e, _, c, he, hnext, ?_⟩
    simp only [weight]
    omega
  by_cases hround : s.round = none
  swap
  · obtain ⟨e, round, jobs, c, he, hnext, -, hlt⟩ :=
      exists_round_step parseDuration hround
    refine ⟨e, _, c, he, hnext, ?_⟩
    simp only [weight]
    omega
  by_cases htick : s.tick = none
  swap
  · obtain ⟨e, tick, he, hnext, hlt⟩ :=
      exists_tick_step parseDuration hround htick
    refine ⟨e, _, none, he, hnext, ?_⟩
    simp only [weight]
    omega
  by_cases hjobs : s.jobs = []
  swap
  · obtain ⟨job, jobs, hjobs⟩ := List.exists_cons_of_ne_nil hjobs
    refine ⟨.take, { s with jobs := jobs, tasks := s.tasks ++ [⟨job, .scraping⟩] }, _, trivial,
      by simp only [next, hjobs]; rfl, ?_⟩
    simp only [weight, hjobs, List.map_append, List.sum_append, List.map_cons, List.map_nil,
      List.sum_cons, List.sum_nil, taskWeight, List.length_cons]
    omega
  by_cases hhandling : s.handling = none
  swap
  · obtain ⟨e, handling, activeEpas, c, he, hnext, hlt⟩ :=
      exists_handling_step parseDuration hhandling
    refine ⟨e, _, c, he, hnext, ?_⟩
    simp only [weight]
    omega
  by_cases hupdates : s.updates = []
  · exact absurd ⟨hupdates, hhandling, htick, hround, hjobs, htasks⟩ h
  · obtain ⟨handling, activeEpas, hnext, hlt⟩ :=
      exists_update_step parseDuration hhandling hupdates
    refine ⟨.receive, _, none, trivial, hnext, ?_⟩
    simp only [weight]
    omega

variable (parseDuration) in
/-- Everything that is under way can be done with. -/
lemma exists_still (s : Process V) : ∃ es s', (cleanupSystem V parseDuration).Path
    (fun _ e => e.Completes) s es s' ∧ s'.Still := by
  have hprogress : ∀ s : Process V, True → ¬ s.Still → ∃ e s', e.Completes ∧
      (cleanupSystem V parseDuration).step s e = some s' ∧ True ∧ s'.weight < s.weight := by
    intro s _ hstill
    obtain ⟨e, s₁, c, he, hnext, hlt⟩ :=
      exists_step_of_not_still parseDuration hstill
    exact ⟨e, s₁.call c, he, step_of_next hnext, trivial, by rwa [weight_call]⟩
  obtain ⟨es, s', hpath, -, hstill⟩ := System.exists_path_of_progress weight hprogress trivial
  exact ⟨es, s', hpath, hstill⟩

end Process

namespace Leads

variable {epa : Epa}

/-- An entry that a tick has still to come to leads to an entry of the store. -/
lemma of_tick_entry {entries : List (String × Epa)} {entry : String × Epa}
    (htick : s.tick = some entries) (hentry : entry ∈ entries)
    (h : EntryWrites V parseDuration k entry) : Leads parseDuration k s := by
  obtain ⟨es, s', hpath, htick', hround⟩ :=
    Process.exists_endRound parseDuration s
  exact .of_path hpath (.of_tick hround (htick'.trans htick) hentry h)

/-- An EPA that is registered is copied by the next tick. -/
lemma of_active {key : String} (hlookup : s.activeEpas.lookup key = some epa)
    (h : EntryWrites V parseDuration k (key, epa)) : Leads parseDuration k s := by
  obtain ⟨es, s', hpath, hactive, hround, htick⟩ :=
    Process.exists_endTick parseDuration s
  refine .of_path hpath ?_
  -- the tick takes the entries in the order in which they are listed
  have hstart : s'.next parseDuration
      (.startTick (s'.activeEpas.entries.map fun entry => (entry.1, entry.2))) = some
        ({ s' with tick := some (s'.activeEpas.entries.map fun entry => (entry.1, entry.2)) },
          none) := by
    simp only [Process.next]
    rw [if_pos ⟨by rw [htick]; rfl, .refl _⟩]
  refine .of_next (e := .startTick _) trivial hstart ?_
  refine .of_tick hround rfl (List.mem_map.2 ⟨⟨key, epa⟩, ?_, rfl⟩) h
  rw [hactive]
  exact AList.mem_lookup_iff.1 hlookup

/-- An `Upsert` that is being handled is configured and registered. -/
lemma of_handling {metrics : List MetricSpec} (hhandling : s.handling = some (k', epa, metrics))
    (h : UpsertWrites V parseDuration k k' epa metrics) : Leads parseDuration k s := by
  induction metrics generalizing s with
  | nil =>
      refine .of_next (e := .register) trivial (by simp only [Process.next, hhandling]; rfl) ?_
      exact .of_active (AList.lookup_insert _) (h.resolve_left fun hmetrics => hmetrics.2 rfl)
  | cons metric metrics ih =>
      by_cases hk : k' = k
      · subst hk
        refine .of_adds (e := .configure) (m := .configs) trivial
          (by simp only [Process.next, hhandling]; rfl) ?_
        exact ⟨rfl, rfl⟩
      · refine .of_next (e := .configure) trivial
          (by simp only [Process.next, hhandling]; rfl) ?_
        exact ih rfl (Or.inr (h.resolve_left fun hmetrics => hk hmetrics.1))

/-- An `Upsert` in the channel is handled once its turn has come. -/
lemma of_update {ns name : String} (hmem : .upsert epa ∈ s.updates)
    (hns : epa.metadata.ns = some ns) (hname : epa.metadata.name = some name)
    (h : UpsertWrites V parseDuration k (ns, name) epa epa.spec.metrics) :
    Leads parseDuration k s := by
  induction hupdates : s.updates generalizing s with
  | nil =>
      rw [hupdates] at hmem
      cases hmem
  | cons update updates ih =>
      obtain ⟨es, s', hpath, hsame, hhandling⟩ :=
        Process.exists_handled parseDuration s
      refine .of_path hpath ?_
      rw [hupdates] at hmem hsame
      rcases List.mem_cons.1 hmem with rfl | hmem
      · refine .of_next (e := .receive) trivial
          (by simp only [Process.next, hhandling, hsame, hns, hname]; rfl) ?_
        exact .of_handling rfl h
      · obtain ⟨handling, activeEpas, hnext, -⟩ :=
          Process.exists_update_step parseDuration hhandling
            (by rw [hsame]; exact List.cons_ne_nil _ _)
        have htail : s'.updates.tail = updates := by rw [hsame, List.tail_cons]
        exact .of_next (e := .receive) trivial hnext (ih (htail ▸ hmem) htail)

/-- Whatever can write an entry of the EPA can come to do so. -/
lemma of_not_idle (h : ¬ s.Idle parseDuration k) : Leads parseDuration k s := by
  by_contra hleads
  refine h ⟨?_, ?_, ?_, ?_, ?_, ?_, ?_⟩
  · exact fun epa hmem ns name hns hname hw => hleads (.of_update hmem hns hname hw)
  · exact fun k' epa metrics hhandling hw => hleads (.of_handling hhandling hw)
  · exact fun key epa hlookup hw => hleads (.of_active hlookup hw)
  · exact fun entries htick entry hentry hw => hleads (.of_tick_entry htick hentry hw)
  · rintro ⟨k', epa, P, I, _ | ⟨metrics, jobs⟩⟩ hround hw
    · exact hleads (.of_resolving hround hw)
    · exact hleads (.of_dispatching hround hw)
  · exact fun job hjob hw => hleads (.of_job hjob hw)
  · intro task htask hw
    obtain ⟨i, hi⟩ := List.getElem?_of_mem htask
    exact hleads (.of_task hi hw)

end Leads

/-! ### The sweep -/

variable (parseDuration) in
/-- The maps can be swept at once, and what is under way stays so. -/
lemma exists_swept {maps : List StoreMap}
    (h : s.deletions.lookup k = some (.sweeping maps)) :
    ∃ es s', (cleanupSystem V parseDuration).Path (Process.NoneOf k) s es s' ∧
      s'.deletions.lookup k = some (.sweeping []) ∧
      (s'.Idle parseDuration k → s.Idle parseDuration k) := by
  induction maps generalizing s with
  | nil => exact ⟨[], s, .nil s, h, id⟩
  | cons m maps ih =>
      have hstep : (cleanupSystem V parseDuration).step s (.sweep k) = some
          (Process.call { s with deletions := s.deletions.insert k (.sweeping maps) }
            (some (.sweep m k.1 k.2))) :=
        Process.step_of_next (by simp only [Process.next, h])
      obtain ⟨es, s', hpath, hend, hidle⟩ := ih (s := Process.call
        { s with deletions := s.deletions.insert k (.sweeping maps) } (some (.sweep m k.1 k.2)))
        (AList.lookup_insert _)
      exact ⟨.sweep k :: es, s', .cons trivial hstep hpath, hend, fun h => { hidle h with }⟩

/-- If something can write an entry of the EPA, the deletion leaves one in some run. -/
lemma exists_left_of_not_idle {maps : List StoreMap}
    (hbegin : s.deletions.lookup k = some (.sweeping maps)) (h : ¬ s.Idle parseDuration k) :
    ∃ es s', (cleanupSystem V parseDuration).Path (Process.NoneOf k) s es s' ∧
      s'.Finished k ∧ ¬ s'.NothingLeft k := by
  obtain ⟨es₁, s₁, hpath₁, hend, hidle⟩ := exists_swept parseDuration hbegin
  obtain ⟨es₂, s₂, hpath₂, m, hleft⟩ := Leads.of_not_idle fun h₁ => h (hidle h₁)
  obtain ⟨es₃, s₃, hpath₃, hstill⟩ := Process.exists_still parseDuration s₂
  have hpath : (cleanupSystem V parseDuration).Path (fun _ e => e.IsTask) s₁ (es₂ ++ es₃) s₃ :=
    hpath₂.append (hpath₃.mono fun _ _ he => he.isTask)
  refine ⟨es₁ ++ (es₂ ++ es₃), s₃, hpath₁.append (hpath.mono fun s _ he => he.noneOf s), ?_, ?_⟩
  · have hdeletions := hpath.preserves (I := fun s => s.deletions = s₁.deletions)
      (fun _ _ _ hI he hs => (Process.deletions_of_isTask he hs).trans hI) rfl
    exact ⟨by rw [hdeletions, hend], hstill.updates, hstill.handling, hstill.tick, hstill.round,
      hstill.jobs, hstill.tasks⟩
  · intro hnothing
    have hkept := hpath₃.preserves (I := fun s => ¬ s.maps.NothingIn k.1 k.2 m)
      (fun _ _ _ hI he hs => Process.not_nothingIn_of_completes he hs hI) hleft
    exact hkept (hnothing m)

/-- **When a deletion leaves nothing behind.** Let the `Delete` of an EPA be sent and its maps still
to be swept.  In every run from there that brings no `Upsert` and no cached value of the EPA,
nothing of it is in the store once everything is done, if and only if nothing that is registered or
under way can write an entry of it. -/
theorem nothing_left_iff (hbegin : s.deletions.lookup k = some (.sweeping StoreMap.all)) :
    (∀ es s', (cleanupSystem V parseDuration).Path (Process.NoneOf k) s es s' →
      s'.Finished k → s'.NothingLeft k) ↔ s.Idle parseDuration k := by
  constructor
  · intro h
    by_contra hidle
    obtain ⟨es, s', hpath, hfinished, hleft⟩ := exists_left_of_not_idle hbegin hidle
    exact hleft (h es s' hpath hfinished)
  · intro hidle es s' hpath hfinished
    refine nothing_left_of_idle hidle ?_ hpath hfinished.deletion
    rintro m ⟨maps, hmaps, hm⟩
    obtain rfl := Deletion.sweeping.inj (Option.some.inj (hbegin.symm.trans hmaps))
    exact hm (by cases m <;> decide)

/-! ### An EPA that is unregistered before the sweep -/

/-- Another EPA of the namespace. -/
def apiEpa : Epa :=
  { webEpa "15s" with metadata := { (webEpa "15s").metadata with name := some "api" } }

/-- The round of the next entry of a tick, whose pod has one series of the metric. -/
def roundOf (value : ℕ) : List (ProcessEvent ℕ) :=
  [.startRound, .resolve [⟨"web-0", some "default", some "10.0.0.1"⟩], .configureRound, .dispatch,
    .endRound, .take, .respond 0 [⟨"queue_depth", [], value, .gauge⟩], .lookup 0, .push 0,
    .finish 0]

/-- Two EPAs are registered and one is scraped; its deletion begins, and its `Delete` is
handled. -/
def scrapedThenDeleted : List (ProcessEvent ℕ) :=
  [.sendUpsert (webEpa "15s"), .receive, .configure, .register, .sendUpsert apiEpa, .receive,
    .configure, .register, .startTick [("default/web", webEpa "15s"), ("default/api", apiEpa)]] ++
    roundOf 7 ++ [.skip, .endTick, .beginDelete ("default", "web"),
      .sendDelete ("default", "web"), .receive]

/-- The maps are swept while a tick scrapes the other EPA. -/
def sweepMeanwhile : List (ProcessEvent ℕ) :=
  [.startTick [("default/api", apiEpa)]] ++ List.replicate 2 (.sweep ("default", "web")) ++
    roundOf 9 ++ [.endTick] ++ List.replicate 3 (.sweep ("default", "web"))

/-- The replica when the `Delete` has been handled. -/
def webUnregistered : Process ℕ :=
  ((cleanupSystem ℕ TickRun.parseWebDuration).exec .new scrapedThenDeleted).get
    (by decide +kernel)

/-- The replica when the maps are swept. -/
def webGone : Process ℕ :=
  ((cleanupSystem ℕ TickRun.parseWebDuration).exec webUnregistered sweepMeanwhile).get
    (by decide +kernel)

lemma webUnregistered_idle :
    webUnregistered.Idle TickRun.parseWebDuration ("default", "web") := by
  have hupdates : webUnregistered.updates = [] := List.isEmpty_iff.1 (by decide +kernel)
  have hhandling : webUnregistered.handling = none :=
    Option.isNone_iff_eq_none.1 (by decide +kernel)
  have htick : webUnregistered.tick = none := Option.isNone_iff_eq_none.1 (by decide +kernel)
  have hround : webUnregistered.round = none := Option.isNone_iff_eq_none.1 (by decide +kernel)
  have hjobs : webUnregistered.jobs = [] := List.isEmpty_iff.1 (by decide +kernel)
  have htasks : webUnregistered.tasks = [] := List.isEmpty_iff.1 (by decide +kernel)
  refine ⟨?_, ?_, ?_, ?_, ?_, ?_, ?_⟩
  · simp [hupdates]
  · simp [hhandling]
  · -- the other EPA is the only one that is registered
    intro key epa hlookup hentry
    have hentries : webUnregistered.activeEpas.entries = [⟨"default/api", apiEpa⟩] := by
      decide +kernel
    have hmem := AList.mem_lookup_iff.1 hlookup
    rw [hentries, List.mem_singleton] at hmem
    obtain ⟨rfl, heq⟩ := Sigma.mk.inj hmem
    obtain rfl := eq_of_heq heq
    have hother : UpsertWrites ℕ TickRun.parseWebDuration ("default", "web") ("default", "api")
        apiEpa [] := Or.inr hentry
    exact not_upsertWrites rfl rfl (by decide +kernel) (by decide +kernel) hother
  · simp [htick]
  · simp [hround]
  · simp [hjobs]
  · simp [htasks]

/-- Nothing is left of the EPA that was deleted, and the other one has its window. -/
theorem nothing_left_iff_unregistered :
    ⟨"default", "web", "queue_depth", "web-0"⟩ ∈ webUnregistered.maps.windows ∧
    webGone.NothingLeft ("default", "web") ∧
    ⟨"default", "api", "queue_depth", "web-0"⟩ ∈ webGone.maps.windows := by
  have hrun : (cleanupSystem ℕ TickRun.parseWebDuration).Path (Process.NoneOf ("default", "web"))
      webUnregistered sweepMeanwhile webGone := by
    have hexec := System.exec_eq_some_iff.1 (Option.some_get
      (show ((cleanupSystem ℕ TickRun.parseWebDuration).exec webUnregistered sweepMeanwhile).isSome
        from by decide +kernel)).symm
    refine hexec.restrict fun e he s => ?_
    simp only [sweepMeanwhile, roundOf, List.mem_append, List.mem_cons, List.mem_replicate,
      List.not_mem_nil, or_false] at he
    rcases he with (((rfl | ⟨-, rfl⟩) | h) | rfl) | ⟨-, rfl⟩
    · trivial
    · trivial
    · rcases h with rfl | rfl | rfl | rfl | rfl | rfl | rfl | rfl | rfl | rfl <;> trivial
    · trivial
    · trivial
  refine ⟨by decide +kernel, ?_, by decide +kernel⟩
  refine (nothing_left_iff (s := webUnregistered) (by decide +kernel)).2 webUnregistered_idle
    sweepMeanwhile webGone hrun ?_
  exact ⟨by decide +kernel, List.isEmpty_iff.1 (by decide +kernel),
    Option.isNone_iff_eq_none.1 (by decide +kernel),
    Option.isNone_iff_eq_none.1 (by decide +kernel),
    Option.isNone_iff_eq_none.1 (by decide +kernel), List.isEmpty_iff.1 (by decide +kernel),
    List.isEmpty_iff.1 (by decide +kernel)⟩

end ExternalPodAutoscaler.Controller
