/-
The scrape workers (`scraper/worker.rs`) and the windows they push into.

A worker receives the response of a pod, reads the clock once, and pushes one sample for
each metric of the EPA.  A push takes two steps, as in `push_sample`: the window is looked
up in the store, which creates it if it does not exist, and then the sample is pushed into
the window, which may have been removed from the store in the meantime.  Windows are
therefore kept in the order of their creation, and the store maps a key to the number of
its window.

The main result of this file is `windows_chronological_unless_overtaken`: the windows stay
in the order of the clock reads in every run in which no sample is pushed into a window
while a job that has read the clock earlier is still to push into it; and wherever a push
overtakes another one in this way, the run can go on to a window that is out of order.
-/
import Mathlib
import ExternalPodAutoscaler.Lib.Cells
import ExternalPodAutoscaler.Lib.Transition
import ExternalPodAutoscaler.Scraper.Scheduler

namespace ExternalPodAutoscaler.Scraper

open ExternalPodAutoscaler.Api ExternalPodAutoscaler.Store ExternalPodAutoscaler.Lib

/-! ### What a response is worth -/

/-- A series of a response. -/
structure ParsedMetric (V : Type) where
  name : String
  labels : List (String × String)
  value : V
  metricType : MetricType

/-- Whether the labels of a series meet one requirement. -/
def meetsRequirement (labels : List (String × String)) (expr : LabelSelectorRequirement) : Bool :=
  let labelValue := labels.lookup expr.key
  match expr.operator with
  | .isIn =>
    match expr.values, labelValue with
    | none, _ => true
    | some values, some v => values.contains v
    | some _, none => false
  | .notIn =>
    match expr.values, labelValue with
    | some values, some v => !values.contains v
    | _, _ => true
  | .exists => labelValue.isSome
  | .doesNotExist => labelValue.isNone

/-- `matches_label_selector`. -/
def matchesLabelSelector (labels : List (String × String)) (selector : LabelSelector) : Bool :=
  (selector.matchLabels.getD []).all (fun (key, value) => labels.lookup key == some value) &&
    (selector.matchExpressions.getD []).all (meetsRequirement labels)

/-- The value and the type of a metric in a response, `none` if no series matches. -/
def scrapedMetric {V : Type} [Add V] [Zero V] (parsed : List (ParsedMetric V))
    (spec : MetricSpec) : Option (String × V × MetricType) :=
  let matched := parsed.filter fun m =>
    m.name == spec.metricName && spec.labelSelector.all (matchesLabelSelector m.labels)
  -- the series of one metric share their type
  matched.head?.map fun first =>
    (spec.metricName, (matched.map ParsedMetric.value).foldl (· + ·) 0, first.metricType)

/-- The samples of a response, in the order of the metrics of the EPA. -/
def scrapedMetrics {V : Type} [Add V] [Zero V] (epa : Epa) (parsed : List (ParsedMetric V)) :
    List (String × V × MetricType) :=
  epa.spec.metrics.filterMap (scrapedMetric parsed)

/-- The namespace of the pod, the name of the EPA and the address of the pod. -/
def scrapeTarget (job : ScrapeJob) : Except String (String × String × String) :=
  match job.pod.ns, job.epa.metadata.name, job.pod.podIp with
  | none, _, _ => .error s!"Pod {job.pod.name} has no namespace"
  | some _, none, _ => .error "EPA missing name metadata"
  | some _, some _, none => .error s!"Pod {job.pod.name} has no IP"
  | some ns, some epaName, some podIp => .ok (ns, epaName, podIp)

/-- The URL that a pod is scraped at. -/
def scrapeUrl (scrape : ScrapeConfig) (podIp : String) : String :=
  s!"{scrape.scheme}://{podIp}:{scrape.port}{scrape.path}"

lemma scrapeUrl_toList {scrape : ScrapeConfig} {port : ℕ} (hport : scrape.port = port)
    (podIp : String) : (scrapeUrl scrape podIp).toList = scrape.scheme.toList ++ "://".toList ++
      (podIp.toList ++ ':' :: Nat.toDigits 10 port) ++ scrape.path.toList := by
  show (scrape.scheme ++ "://" ++ podIp ++ ":" ++ toString scrape.port ++ scrape.path).toList = _
  have hcolon : ":".toList = [':'] := rfl
  have hdigits : toString (port : ℤ) = port.repr := rfl
  simp only [hport, hdigits, String.toList_append, Nat.toList_repr, hcolon, List.append_assoc,
    List.cons_append, List.nil_append]

/-! ### Workers and windows -/

/-- A job whose response is received. -/
structure ScrapeTask (V : Type) where
  ns : String
  epaName : String
  podName : String
  maxSamples : ℕ
  /-- The instant of the clock read, once it is made. -/
  scrapedAt : Option ℕ
  /-- The samples that are not pushed yet. -/
  todo : List (String × V × MetricType)
  /-- The window of the first of them, once it is looked up. -/
  window : Option ℕ

/-- The clock, the windows in the order of their creation, the window of each key, and the
jobs. -/
structure ScrapeWorld (V : Type) where
  now : ℕ
  windows : List (MetricWindow V)
  arcs : SampleKey → Option ℕ
  tasks : List (ScrapeTask V)

inductive WorkerEvent (V : Type) where
  | advance (d : ℕ)
  /-- A worker receives the response of a job. -/
  | receive (job : ScrapeJob) (parsed : List (ParsedMetric V))
  | readClock (i : ℕ)
  /-- The first half of `push_sample`. -/
  | lookup (i : ℕ)
  /-- The second half of `push_sample`. -/
  | push (i : ℕ)
  /-- Windows are removed from the store. -/
  | remove (keys : List SampleKey)

namespace ScrapeTask

variable {V : Type}

/-- The key of the window of a metric. -/
def key (task : ScrapeTask V) (metricName : String) : SampleKey :=
  ⟨task.ns, task.epaName, metricName, task.podName⟩

/-- The job is done: it has read the clock and pushed everything. -/
def isDone (task : ScrapeTask V) : Bool := task.scrapedAt.isSome && task.todo.isEmpty

/-- The samples whose windows are not looked up yet. -/
def ahead (task : ScrapeTask V) : List (String × V × MetricType) :=
  if task.window.isSome then task.todo.tail else task.todo

end ScrapeTask

namespace ScrapeWorld

variable {V : Type}

/-- The number of workers that are busy. -/
def busy (s : ScrapeWorld V) : ℕ := s.tasks.countP (!·.isDone)

/-- Reads the clock. -/
def readClock (s : ScrapeWorld V) (i : ℕ) : Option (ScrapeWorld V) := do
  let task ← s.tasks[i]?
  match task.scrapedAt with
  | none => some { s with tasks := s.tasks.set i { task with scrapedAt := some s.now } }
  | some _ => none

/-- Looks up the window of the next sample; creates it if it does not exist. -/
def lookup (s : ScrapeWorld V) (i : ℕ) : Option (ScrapeWorld V) := do
  let task ← s.tasks[i]?
  match task.scrapedAt, task.window, task.todo with
  | some _, none, (metricName, _) :: _ =>
    match s.arcs (task.key metricName) with
    | some a => some { s with tasks := s.tasks.set i { task with window := some a } }
    | none =>
      let a := s.windows.length
      some { s with
        windows := s.windows ++ [MetricWindow.new task.maxSamples]
        arcs := Function.update s.arcs (task.key metricName) (some a)
        tasks := s.tasks.set i { task with window := some a } }
  | _, _, _ => none

/-- Pushes the next sample into its window. -/
def push (s : ScrapeWorld V) (i : ℕ) : Option (ScrapeWorld V) := do
  let task ← s.tasks[i]?
  match task.scrapedAt, task.window, task.todo with
  | some t, some a, (_, value, metricType) :: todo =>
    some { s with
      windows := s.windows.modify a fun w => w.push ⟨value, t, true, metricType⟩
      tasks := s.tasks.set i { task with todo := todo, window := none } }
  | _, _, _ => none

/-- A response is received by a worker that is not busy. -/
def receive [Add V] [Zero V] (workers : ℕ) (s : ScrapeWorld V) (job : ScrapeJob)
    (parsed : List (ParsedMetric V)) : Option (ScrapeWorld V) :=
  match scrapeTarget job with
  | .ok (ns, epaName, _) =>
    if s.busy < workers then
      some { s with tasks := s.tasks ++
        [⟨ns, epaName, job.pod.name, job.maxSamples, none, scrapedMetrics job.epa parsed, none⟩] }
    else none
  | .error _ => none

/-- Removes windows from the store; jobs that have looked one up keep it. -/
def remove (s : ScrapeWorld V) (keys : List SampleKey) : ScrapeWorld V :=
  { s with arcs := fun key => if key ∈ keys then none else s.arcs key }

end ScrapeWorld

/-- The workers of one process, from an empty store. -/
def scrapeSystem (V : Type) [Add V] [Zero V] (workers : ℕ) :
    System (ScrapeWorld V) (WorkerEvent V) where
  init s := s.windows = [] ∧ s.arcs = (fun _ => none) ∧ s.tasks = []
  step s
    | .advance d => some { s with now := s.now + d }
    | .receive job parsed => s.receive workers job parsed
    | .readClock i => s.readClock i
    | .lookup i => s.lookup i
    | .push i => s.push i
    | .remove keys => some (s.remove keys)

/-! ### What a step does -/

section Steps

variable {V : Type} {s s' : ScrapeWorld V} {i : ℕ}

/-- The world in which job `i` is `task`. -/
def ScrapeWorld.setTask (s : ScrapeWorld V) (i : ℕ) (task : ScrapeTask V) : ScrapeWorld V :=
  { s with tasks := s.tasks.set i task }

lemma readClock_cases (h : s.readClock i = some s') :
    ∃ task, s.tasks[i]? = some task ∧ task.scrapedAt = none ∧
      s' = s.setTask i { task with scrapedAt := some s.now } := by
  obtain ⟨task, htask, h⟩ := Option.bind_eq_some_iff.1 h
  split at h
  · rename_i hread
    exact ⟨task, htask, hread, (Option.some.inj h).symm⟩
  · cases h

lemma lookup_cases (h : s.lookup i = some s') :
    ∃ task t entry todo, s.tasks[i]? = some task ∧ task.scrapedAt = some t ∧
      task.window = none ∧ task.todo = entry :: todo ∧
      ((∃ a, s.arcs (task.key entry.1) = some a ∧
          s' = s.setTask i { task with window := some a }) ∨
        (s.arcs (task.key entry.1) = none ∧
          s' = { s.setTask i { task with window := some s.windows.length } with
            windows := s.windows ++ [MetricWindow.new task.maxSamples]
            arcs := Function.update s.arcs (task.key entry.1) (some s.windows.length) })) := by
  obtain ⟨task, htask, h⟩ := Option.bind_eq_some_iff.1 h
  split at h
  · rename_i t metricName sample todo hread hwindow htodo
    refine ⟨task, t, _, todo, htask, hread, hwindow, htodo, ?_⟩
    split at h
    · rename_i a harc
      exact .inl ⟨a, harc, (Option.some.inj h).symm⟩
    · rename_i harc
      exact .inr ⟨harc, (Option.some.inj h).symm⟩
  · cases h

lemma push_cases (h : s.push i = some s') :
    ∃ task t a metricName value metricType todo, s.tasks[i]? = some task ∧
      task.scrapedAt = some t ∧ task.window = some a ∧
      task.todo = (metricName, value, metricType) :: todo ∧
      s' = { s.setTask i { task with todo := todo, window := none } with
        windows := s.windows.modify a fun w => w.push ⟨value, t, true, metricType⟩ } := by
  obtain ⟨task, htask, h⟩ := Option.bind_eq_some_iff.1 h
  split at h
  · rename_i t a metricName value metricType todo hread hwindow htodo
    exact ⟨task, t, a, metricName, value, metricType, todo, htask, hread, hwindow, htodo,
      (Option.some.inj h).symm⟩
  · cases h

lemma receive_cases [Add V] [Zero V] {workers : ℕ} {job : ScrapeJob}
    {parsed : List (ParsedMetric V)} (h : s.receive workers job parsed = some s') :
    ∃ task : ScrapeTask V, task.scrapedAt = none ∧ task.window = none ∧
      s' = { s with tasks := s.tasks ++ [task] } := by
  unfold ScrapeWorld.receive at h
  split at h
  · split at h
    · exact ⟨_, rfl, rfl, (Option.some.inj h).symm⟩
    · cases h
  · cases h

/-- A job of the world in which one job has been changed. -/
lemma mem_setTask {task other : ScrapeTask V} (h : other ∈ (s.setTask i task).tasks) :
    other = task ∨ other ∈ s.tasks :=
  (List.mem_or_eq_of_mem_set h).symm

lemma getElem?_setTask {task task' : ScrapeTask V} (htask : s.tasks[i]? = some task) :
    (s.setTask i task').tasks[i]? = some task' :=
  getElem?_set_of_some htask task'

/-- A job that has not looked up a window has all its samples ahead. -/
lemma ScrapeTask.ahead_of_none {task : ScrapeTask V} (h : task.window = none) :
    task.ahead = task.todo := by
  simp [ScrapeTask.ahead, h]

/-- The first sample of a job that has looked up a window is not ahead any more. -/
lemma ScrapeTask.ahead_of_some {task : ScrapeTask V} {a : ℕ} (h : task.window = some a) :
    task.ahead = task.todo.tail := by
  simp [ScrapeTask.ahead, h]

/-- An entry of the store once a window has been created. -/
lemma arcs_of_update {arcs : SampleKey → Option ℕ} {key new : SampleKey} {a n : ℕ}
    (h : Function.update arcs new (some n) key = some a) :
    (key = new ∧ a = n) ∨ arcs key = some a := by
  by_cases hk : key = new
  · subst hk
    rw [Function.update_self] at h
    exact .inl ⟨rfl, (Option.some.inj h).symm⟩
  · exact .inr (by rwa [Function.update_of_ne hk] at h)

/-- A removal leaves no new entries. -/
lemma arcs_of_remove {keys : List SampleKey} {key : SampleKey} {a : ℕ}
    (h : (s.remove keys).arcs key = some a) : s.arcs key = some a := by
  by_cases hk : key ∈ keys
  · simp [ScrapeWorld.remove, hk] at h
  · simpa [ScrapeWorld.remove, hk] using h

end Steps

/-! ### Pushes in order -/

section Order

variable {V : Type}

/-- The job is still to push into the window, if it is not removed first. -/
def ScrapeWorld.Targets (s : ScrapeWorld V) (task : ScrapeTask V) (a : ℕ) : Prop :=
  task.window = some a ∨ ∃ entry ∈ task.ahead, s.arcs (task.key entry.1) = some a

/-- Job `i` is about to push into window `a`, and a job that has read the clock earlier is
still to push into it. -/
def Overtakes (s : ScrapeWorld V) (i a : ℕ) : Prop :=
  ∃ task t, s.tasks[i]? = some task ∧ task.scrapedAt = some t ∧ task.window = some a ∧
    ∃ other ∈ s.tasks, ∃ t', other.scrapedAt = some t' ∧ s.Targets other a ∧ t' < t

/-- No push overtakes. -/
def NoOvertaking (s : ScrapeWorld V) (e : WorkerEvent V) : Prop :=
  ∀ i a, e = .push i → ¬ Overtakes s i a

/-- No sample is later than the clock, every window is chronological, and the samples of a
window are not later than those that are still to be pushed into it. -/
structure InOrder (s : ScrapeWorld V) : Prop where
  samples_le : ∀ w ∈ s.windows, ∀ x ∈ w.samples, x.scrapedAt ≤ s.now
  read_le : ∀ task ∈ s.tasks, ∀ t, task.scrapedAt = some t → t ≤ s.now
  chronological : ∀ w ∈ s.windows, w.Chronological
  pending : ∀ task ∈ s.tasks, ∀ t, task.scrapedAt = some t → ∀ a, s.Targets task a →
    ∀ w, s.windows[a]? = some w → ∀ x ∈ w.samples, x.scrapedAt ≤ t

variable {s s' : ScrapeWorld V} {i : ℕ}

/-- A step that pushes nothing and reads no clock: it may create empty windows, and no job
gets a new window to push into. -/
lemma InOrder.of_frame (h : InOrder s) (hnow : s.now ≤ s'.now)
    (hwindows : ∀ w ∈ s'.windows, w ∈ s.windows ∨ w.samples = [])
    (htasks : ∀ task' ∈ s'.tasks, ∀ t, task'.scrapedAt = some t →
      ∃ task ∈ s.tasks, task.scrapedAt = some t ∧ ∀ a w, s'.Targets task' a →
        s'.windows[a]? = some w → w.samples = [] ∨ s.Targets task a ∧ s.windows[a]? = some w) :
    InOrder s' := by
  refine ⟨?_, ?_, ?_, ?_⟩
  · intro w hw x hx
    rcases hwindows w hw with hw | hw
    · exact (h.samples_le w hw x hx).trans hnow
    · simp [hw] at hx
  · intro task' htask' t ht
    obtain ⟨task, htask, hread, -⟩ := htasks task' htask' t ht
    exact (h.read_le task htask t hread).trans hnow
  · intro w hw
    rcases hwindows w hw with hw | hw
    · exact h.chronological w hw
    · rw [MetricWindow.Chronological, hw]
      exact List.Pairwise.nil
  · intro task' htask' t ht a htarget w hw x hx
    obtain ⟨task, htask, hread, hold⟩ := htasks task' htask' t ht
    rcases hold a w htarget hw with hempty | ⟨htarget, hw⟩
    · simp [hempty] at hx
    · exact h.pending task htask t hread a htarget w hw x hx

lemma InOrder.readClock (h : InOrder s) (hs : s.readClock i = some s') : InOrder s' := by
  obtain ⟨task, -, -, rfl⟩ := readClock_cases hs
  refine ⟨h.samples_le, ?_, h.chronological, ?_⟩
  · intro other hother t ht
    rcases mem_setTask hother with rfl | hother
    · exact (Option.some.inj ht).ge
    · exact h.read_le other hother t ht
  · intro other hother t ht a htarget w hw x hx
    rcases mem_setTask hother with rfl | hother
    · obtain rfl : s.now = t := Option.some.inj ht
      exact h.samples_le w (List.mem_of_getElem? hw) x hx
    · exact h.pending other hother t ht a htarget w hw x hx

/-- A lookup gives no job a window to push into, except for a new and empty one. -/
lemma targets_of_lookup (hs : s.lookup i = some s') {task' : ScrapeTask V}
    (htask' : task' ∈ s'.tasks) : ∃ task ∈ s.tasks, task.scrapedAt = task'.scrapedAt ∧
      ∀ a w, s'.Targets task' a → s'.windows[a]? = some w →
        w.samples = [] ∨ s.Targets task a ∧ s.windows[a]? = some w := by
  obtain ⟨task, t, entry, todo, htask, -, hwindow, htodo, hcase⟩ := lookup_cases hs
  have hmem : task ∈ s.tasks := List.mem_of_getElem? htask
  have hahead : task.ahead = entry :: todo := (ScrapeTask.ahead_of_none hwindow).trans htodo
  have hahead' : ∀ a, ScrapeTask.ahead { task with window := some a } = todo :=
    fun a => (ScrapeTask.ahead_of_some rfl).trans (congrArg List.tail htodo)
  rcases hcase with ⟨a, harc, rfl⟩ | ⟨harc, rfl⟩
  · rcases mem_setTask htask' with rfl | hother
    · refine ⟨task, hmem, rfl, fun b w htarget hw => .inr ⟨.inr ?_, hw⟩⟩
      rw [hahead]
      rcases htarget with hb | ⟨e, he, hb⟩
      · obtain rfl : a = b := Option.some.inj hb
        exact ⟨entry, List.mem_cons_self, harc⟩
      · rw [hahead'] at he
        exact ⟨e, List.mem_cons_of_mem _ he, hb⟩
    · exact ⟨task', hother, rfl, fun b w htarget hw => .inr ⟨htarget, hw⟩⟩
  · -- a window other than the new one is targeted only through the old entries of the store
    have harcs : ∀ key b, b < s.windows.length →
        Function.update s.arcs (task.key entry.1) (some s.windows.length) key = some b →
        s.arcs key = some b := by
      intro key b hlt hkey
      rcases arcs_of_update hkey with ⟨-, rfl⟩ | hkey
      · exact absurd hlt (Nat.lt_irrefl _)
      · exact hkey
    rcases mem_setTask htask' with rfl | hother
    · refine ⟨task, hmem, rfl, fun b w htarget hw => ?_⟩
      rcases getElem?_concat_cases hw with ⟨-, rfl⟩ | ⟨hlt, hw⟩
      · exact .inl rfl
      refine .inr ⟨.inr ?_, hw⟩
      rw [hahead]
      rcases htarget with hb | ⟨e, he, hb⟩
      · exact absurd (Option.some.inj hb) (by omega)
      · rw [hahead'] at he
        exact ⟨e, List.mem_cons_of_mem _ he, harcs _ b hlt hb⟩
    · refine ⟨task', hother, rfl, fun b w htarget hw => ?_⟩
      rcases getElem?_concat_cases hw with ⟨-, rfl⟩ | ⟨hlt, hw⟩
      · exact .inl rfl
      refine .inr ⟨?_, hw⟩
      rcases htarget with hb | ⟨e, he, hb⟩
      · exact .inl hb
      · exact .inr ⟨e, he, harcs _ b hlt hb⟩

lemma InOrder.lookup (h : InOrder s) (hs : s.lookup i = some s') : InOrder s' := by
  refine h.of_frame ?_ ?_ ?_
  · obtain ⟨-, -, -, -, -, -, -, -, ⟨-, -, rfl⟩ | ⟨-, rfl⟩⟩ := lookup_cases hs <;> exact le_rfl
  · obtain ⟨-, -, -, -, -, -, -, -, ⟨-, -, rfl⟩ | ⟨-, rfl⟩⟩ := lookup_cases hs
    · exact fun w hw => .inl hw
    · intro w hw
      rcases List.mem_append.1 hw with hw | hw
      · exact .inl hw
      · obtain rfl := List.mem_singleton.1 hw
        exact .inr rfl
  · intro task' htask' t ht
    obtain ⟨task, htask, hread, hold⟩ := targets_of_lookup hs htask'
    exact ⟨task, htask, hread.trans ht, hold⟩

/-- A push gives no job a window to push into. -/
lemma targets_of_push (hs : s.push i = some s') {task' : ScrapeTask V}
    (htask' : task' ∈ s'.tasks) : ∃ task ∈ s.tasks, task.scrapedAt = task'.scrapedAt ∧
      ∀ a, s'.Targets task' a → s.Targets task a := by
  obtain ⟨task, t, a, metricName, value, metricType, todo, htask, -, hwindow, htodo, rfl⟩ :=
    push_cases hs
  rcases mem_setTask htask' with rfl | hother
  · refine ⟨task, List.mem_of_getElem? htask, rfl, ?_⟩
    rintro b (hb | ⟨e, he, hb⟩)
    · cases hb
    · -- what is left to push was ahead already
      refine .inr ⟨e, ?_, hb⟩
      rw [ScrapeTask.ahead_of_some hwindow, htodo]
      rwa [ScrapeTask.ahead_of_none rfl] at he
  · exact ⟨task', hother, rfl, fun b hb => hb⟩

/-- A push that does not overtake. -/
lemma InOrder.push (h : InOrder s) (hno : ∀ a, ¬ Overtakes s i a) (hs : s.push i = some s') :
    InOrder s' := by
  have htargets := fun other (hother : other ∈ s'.tasks) => targets_of_push hs hother
  obtain ⟨task, t, a, metricName, value, metricType, todo, htask, hread, hwindow, -, rfl⟩ :=
    push_cases hs
  have hmem : task ∈ s.tasks := List.mem_of_getElem? htask
  refine ⟨?_, ?_, ?_, ?_⟩
  · intro w hw x hx
    obtain ⟨b, hb⟩ := List.getElem?_of_mem hw
    rcases getElem?_modify_cases hb with ⟨rfl, w₀, hw₀, rfl⟩ | ⟨-, hb⟩
    · rcases MetricWindow.mem_samples_push hx with hx | rfl
      · exact h.samples_le w₀ (List.mem_of_getElem? hw₀) x hx
      · exact h.read_le task hmem t hread
    · exact h.samples_le w (List.mem_of_getElem? hb) x hx
  · intro other hother t' ht'
    obtain ⟨old, hold, hread', -⟩ := htargets other hother
    exact h.read_le old hold t' (hread'.trans ht')
  · intro w hw
    obtain ⟨b, hb⟩ := List.getElem?_of_mem hw
    rcases getElem?_modify_cases hb with ⟨rfl, w₀, hw₀, rfl⟩ | ⟨-, hb⟩
    · refine (h.chronological w₀ (List.mem_of_getElem? hw₀)).push ?_
      exact h.pending task hmem t hread b (.inl hwindow) w₀ hw₀
    · exact h.chronological w (List.mem_of_getElem? hb)
  · intro other hother t' ht' b htarget w hw x hx
    obtain ⟨old, hold, hread', hsub⟩ := htargets other hother
    have hold' := h.pending old hold t' (hread'.trans ht') b (hsub b htarget)
    rcases getElem?_modify_cases hw with ⟨rfl, w₀, hw₀, rfl⟩ | ⟨-, hb⟩
    · rcases MetricWindow.mem_samples_push hx with hx | rfl
      · exact hold' w₀ hw₀ x hx
      · by_contra hlt
        exact hno b ⟨task, t, htask, hread, hwindow, old, hold, t', hread'.trans ht',
          hsub b htarget, Nat.lt_of_not_le hlt⟩
    · exact hold' w hb x hx

variable [Add V] [Zero V] {workers : ℕ}

/-- **The windows of a run without overtaking.** -/
lemma inOrder_of_reachable (h : (scrapeSystem V workers).Reachable NoOvertaking s) : InOrder s := by
  refine h.invariant ?_ ?_
  · rintro s ⟨hwindows, -, htasks⟩
    refine ⟨?_, ?_, ?_, ?_⟩ <;> simp [hwindows, htasks]
  · intro s e s' hinv hok hs
    cases e with
    | advance d =>
        obtain rfl := Option.some.inj hs
        exact hinv.of_frame (Nat.le_add_right _ _) (fun w hw => .inl hw)
          fun task htask t ht => ⟨task, htask, ht, fun a w ha hw => .inr ⟨ha, hw⟩⟩
    | receive job parsed =>
        obtain ⟨new, hread, -, rfl⟩ := receive_cases hs
        refine hinv.of_frame le_rfl (fun w hw => .inl hw) fun task htask t ht => ?_
        rcases List.mem_append.1 htask with htask | htask
        · exact ⟨task, htask, ht, fun a w ha hw => .inr ⟨ha, hw⟩⟩
        · obtain rfl := List.mem_singleton.1 htask
          rw [hread] at ht
          cases ht
    | readClock i => exact hinv.readClock hs
    | lookup i => exact hinv.lookup hs
    | push i => exact hinv.push (fun a => hok i a rfl) hs
    | remove keys =>
        obtain rfl := Option.some.inj hs
        refine hinv.of_frame le_rfl (fun w hw => .inl hw)
          fun task htask t ht => ⟨task, htask, ht, fun a w ha hw => .inr ⟨?_, hw⟩⟩
        rcases ha with ha | ⟨e, he, ha⟩
        · exact .inl ha
        · exact .inr ⟨e, he, arcs_of_remove ha⟩

end Order

/-! ### The windows of the store -/

/-- The sample that a job pushes next, with its key and the capacity of a new window. -/
def ScrapeTask.next {V : Type} (task : ScrapeTask V) :
    Option (SampleKey × LabeledSample V × ℕ) :=
  match task.scrapedAt, task.todo with
  | some t, (metricName, value, metricType) :: _ =>
    some (task.key metricName, ⟨value, t, true, metricType⟩, task.maxSamples)
  | _, _ => none

/-- The store without some windows. -/
def removeWindows {V : Type} (store : MetricsStore V) (keys : List SampleKey) : MetricsStore V :=
  { store with windows := keys.foldl (fun windows key => windows.erase key) store.windows }

/-- The workers when nothing comes between the two halves of a push, and the store with the same
pushes and removals. -/
def serialSystem (V : Type) [Add V] [Zero V] (workers : ℕ) :
    System (ScrapeWorld V × MetricsStore V) (WorkerEvent V) where
  init w := (scrapeSystem V workers).init w.1 ∧ w.2 = .new
  step w
    | .lookup _ => none
    | .push i =>
      (w.1.tasks[i]?.bind ScrapeTask.next).bind fun next =>
        ((w.1.lookup i).bind fun s => s.push i).map fun s =>
          (s, w.2.pushSample next.1 next.2.1 next.2.2)
    | .remove keys => some (w.1.remove keys, removeWindows w.2 keys)
    | e => ((scrapeSystem V workers).step w.1 e).map fun s => (s, w.2)

section Represents

variable {V : Type} {s s' s₁ s₂ : ScrapeWorld V} {store : MetricsStore V} {i : ℕ}

/-- The windows found through the keys are those of the store. -/
def ScrapeWorld.Represents (s : ScrapeWorld V) (store : MetricsStore V) : Prop :=
  ∀ key, store.windows.lookup key = (s.arcs key).bind (s.windows[·]?)

/-- Every key has a window of its own. -/
structure OwnWindows (s : ScrapeWorld V) : Prop where
  lt : ∀ key a, s.arcs key = some a → a < s.windows.length
  inj : ∀ key key' a, s.arcs key = some a → s.arcs key' = some a → key = key'

/-- A new window belongs to one key only. -/
lemma OwnWindows.lookup (h : OwnWindows s) (hs : s.lookup i = some s') : OwnWindows s' := by
  obtain ⟨task, -, entry, -, -, -, -, -, ⟨-, -, rfl⟩ | ⟨-, rfl⟩⟩ := lookup_cases hs
  · exact ⟨h.lt, h.inj⟩
  · constructor
    · intro key a ha
      rw [List.length_append]
      rcases arcs_of_update ha with ⟨-, rfl⟩ | ha
      · exact Nat.lt_succ_self _
      · exact Nat.lt_succ_of_lt (h.lt key a ha)
    · intro key key' a ha ha'
      rcases arcs_of_update ha with ⟨rfl, rfl⟩ | ha <;>
        rcases arcs_of_update ha' with ⟨rfl, h'⟩ | ha'
      · rfl
      · exact absurd (h.lt key' _ ha') (Nat.lt_irrefl _)
      · exact absurd (h.lt key _ ha) (by omega)
      · exact h.inj key key' a ha ha'

/-- A push changes a window, and not whose it is. -/
lemma OwnWindows.push (h : OwnWindows s) (hs : s.push i = some s') : OwnWindows s' := by
  obtain ⟨-, -, a, -, -, -, -, -, -, -, -, rfl⟩ := push_cases hs
  refine ⟨fun key b hb => ?_, h.inj⟩
  rw [List.length_modify]
  exact h.lt key b hb

/-- A push that nothing interrupts is the push of the store. -/
lemma represents_pushSample {key : SampleKey} {sample : LabeledSample V} {maxSamples : ℕ}
    (hown : OwnWindows s) (hrep : s.Represents store)
    (hnext : s.tasks[i]?.bind ScrapeTask.next = some (key, sample, maxSamples))
    (hlookup : s.lookup i = some s₁) (hpush : s₁.push i = some s₂) :
    s₂.Represents (store.pushSample key sample maxSamples) := by
  obtain ⟨task, t, entry, todo, htask, hread, -, htodo, hcase⟩ := lookup_cases hlookup
  obtain ⟨task₁, t₁, a, m, v, ty, todo₁, htask₁, hread₁, hwindow₁, htodo₁, rfl⟩ :=
    push_cases hpush
  -- the job that pushes is the one that has looked up the window
  obtain ⟨b, rfl⟩ : ∃ b, task₁ = { task with window := some b } := by
    rcases hcase with ⟨b, -, rfl⟩ | ⟨-, rfl⟩
    · exact ⟨b, Option.some.inj (htask₁.symm.trans (getElem?_setTask htask))⟩
    · exact ⟨_, Option.some.inj (htask₁.symm.trans (getElem?_setTask htask))⟩
  obtain rfl : b = a := Option.some.inj hwindow₁
  have hnext' : task.next = some (key, sample, maxSamples) := by rwa [htask] at hnext
  simp only [ScrapeTask.next, show task.scrapedAt = some t₁ from hread₁,
    show task.todo = (m, v, ty) :: todo₁ from htodo₁, Option.some.injEq, Prod.mk.injEq] at hnext'
  obtain ⟨rfl, rfl, rfl⟩ := hnext'
  obtain rfl : entry = (m, v, ty) := (List.cons.inj (htodo.symm.trans htodo₁)).1
  intro key
  rcases hcase with ⟨c, harc, rfl⟩ | ⟨harc, rfl⟩
  · have htask' := (getElem?_setTask htask).symm.trans htask₁
    obtain rfl : c = b := by simpa using htask'
    by_cases hk : key = task.key m
    · subst hk
      have hw := List.getElem?_eq_getElem (hown.lt _ _ harc)
      rw [MetricsStore.lookup_pushSample_self, hrep, harc]
      simp [ScrapeWorld.setTask, harc, hw]
    · rw [MetricsStore.lookup_pushSample_of_ne hk, hrep]
      rcases hkey : s.arcs key with _ | d
      · simp [ScrapeWorld.setTask, hkey]
      · have hne : c ≠ d := by
          rintro rfl
          exact hk (hown.inj _ _ _ hkey harc)
        simp [ScrapeWorld.setTask, hkey, hne]
  · have htask' := (getElem?_setTask htask).symm.trans htask₁
    obtain rfl : s.windows.length = b := by simpa using htask'
    by_cases hk : key = task.key m
    · subst hk
      rw [MetricsStore.lookup_pushSample_self, hrep, harc]
      show _ = (Function.update s.arcs _ _ _).bind _
      rw [Function.update_self]
      simp
    · rw [MetricsStore.lookup_pushSample_of_ne hk, hrep]
      show _ = (Function.update s.arcs _ _ _).bind _
      rw [Function.update_of_ne hk]
      rcases hkey : s.arcs key with _ | d
      · rfl
      · have hlt := hown.lt _ _ hkey
        simp [hlt, hlt.ne', List.getElem?_append_left hlt]

/-- **Pushes one after the other.** After every run in which nothing comes between the two halves
of a push, the windows found through the keys are those of the store with the same pushes and
removals. -/
theorem represents_of_serial [Add V] [Zero V] {workers : ℕ} {w : ScrapeWorld V × MetricsStore V}
    (h : (serialSystem V workers).Reachable System.Any w) : w.1.Represents w.2 := by
  suffices hboth : OwnWindows w.1 ∧ w.1.Represents w.2 from hboth.2
  refine h.invariant (I := fun w => OwnWindows w.1 ∧ w.1.Represents w.2) ?_ ?_
  · rintro ⟨s, store⟩ ⟨⟨-, harcs, -⟩, rfl⟩
    have hnone : ∀ key, s.arcs key = none := congrFun harcs
    refine ⟨⟨?_, ?_⟩, fun key => ?_⟩
    · simp [hnone]
    · simp [hnone]
    · simp [hnone, MetricsStore.new]
  · rintro ⟨s, store⟩ e w' ⟨hown, hrep⟩ - hs
    cases e with
    | advance d =>
        obtain rfl := Option.some.inj hs
        exact ⟨⟨hown.lt, hown.inj⟩, hrep⟩
    | receive job parsed =>
        obtain ⟨s', hs', rfl⟩ := Option.map_eq_some_iff.1 hs
        obtain ⟨-, -, -, rfl⟩ := receive_cases hs'
        exact ⟨⟨hown.lt, hown.inj⟩, hrep⟩
    | readClock i =>
        obtain ⟨s', hs', rfl⟩ := Option.map_eq_some_iff.1 hs
        obtain ⟨-, -, -, rfl⟩ := readClock_cases hs'
        exact ⟨⟨hown.lt, hown.inj⟩, hrep⟩
    | lookup i => cases hs
    | push i =>
        obtain ⟨⟨key, sample, maxSamples⟩, hnext, hs⟩ := Option.bind_eq_some_iff.1 hs
        obtain ⟨s₂, hpushed, rfl⟩ := Option.map_eq_some_iff.1 hs
        obtain ⟨s₁, hlookup, hpush⟩ := Option.bind_eq_some_iff.1 hpushed
        exact ⟨(hown.lookup hlookup).push hpush,
          represents_pushSample hown hrep hnext hlookup hpush⟩
    | remove keys =>
        obtain rfl := Option.some.inj hs
        refine ⟨⟨fun key a ha => hown.lt key a (arcs_of_remove ha), fun key key' a ha ha' =>
          hown.inj key key' a (arcs_of_remove ha) (arcs_of_remove ha')⟩, fun key => ?_⟩
        have hlookup : (removeWindows store keys).windows.lookup key =
            if key ∈ keys then none else store.windows.lookup key :=
          lookup_foldl_erase _ _ _
        rw [hlookup, hrep]
        by_cases hk : key ∈ keys <;> simp [ScrapeWorld.remove, hk]

end Represents

/-! ### What follows a push that overtakes -/

section Overtaking

variable {V : Type} [Add V] [Zero V] {workers : ℕ} {s s' : ScrapeWorld V} {i j a t : ℕ}

/-- Jobs that have looked up a window have read the clock and have a sample to push. -/
def HoldsSample (s : ScrapeWorld V) : Prop :=
  ∀ task ∈ s.tasks, task.window.isSome → task.todo ≠ []

lemma holdsSample_of_reachable (h : (scrapeSystem V workers).Reachable System.Any s) :
    HoldsSample s := by
  refine h.invariant ?_ ?_
  · rintro s ⟨-, -, htasks⟩ task htask
    simp [htasks] at htask
  · intro s e s' hinv _ hs task' htask' hwindow'
    cases e with
    | advance d =>
        obtain rfl := Option.some.inj hs
        exact hinv task' htask' hwindow'
    | receive job parsed =>
        obtain ⟨new, -, hnone, rfl⟩ := receive_cases hs
        rcases List.mem_append.1 htask' with htask | htask
        · exact hinv task' htask hwindow'
        · obtain rfl := List.mem_singleton.1 htask
          simp [hnone] at hwindow'
    | readClock i =>
        obtain ⟨task, htask, -, rfl⟩ := readClock_cases hs
        rcases mem_setTask htask' with rfl | hother
        · exact hinv task (List.mem_of_getElem? htask) hwindow'
        · exact hinv task' hother hwindow'
    | lookup i =>
        obtain ⟨task, t, entry, todo, -, -, -, htodo, ⟨b, -, rfl⟩ | ⟨-, rfl⟩⟩ := lookup_cases hs
        all_goals
          rcases mem_setTask htask' with rfl | hother
          · simp [htodo]
          · exact hinv task' hother hwindow'
    | push i =>
        obtain ⟨task, t, b, m, v, ty, todo, -, -, -, -, rfl⟩ := push_cases hs
        rcases mem_setTask htask' with rfl | hother
        · simp at hwindow'
        · exact hinv task' hother hwindow'
    | remove keys =>
        obtain rfl := Option.some.inj hs
        exact hinv task' htask' hwindow'

variable (workers) in
/-- The push of a job that has looked up its window. -/
lemma push_of_window {task : ScrapeTask V} {b : ℕ} {m : String} {v : V} {ty : MetricType}
    {todo : List (String × V × MetricType)} (htask : s.tasks[j]? = some task)
    (hread : task.scrapedAt = some t) (hwindow : task.window = some b)
    (htodo : task.todo = (m, v, ty) :: todo) :
    (scrapeSystem V workers).step s (.push j) =
      some { s.setTask j { task with todo := todo, window := none } with
        windows := s.windows.modify b fun w => w.push ⟨v, t, true, ty⟩ } := by
  show s.push j = _
  simp only [ScrapeWorld.push, htask, Option.bind_eq_bind, Option.bind_some, hread, hwindow, htodo]
  rfl

variable (workers) in
/-- The lookup of a job keeps what it targets. -/
lemma exists_lookup {w : MetricWindow V} {task : ScrapeTask V} {m : String}
    {sample : V × MetricType} {todo : List (String × V × MetricType)}
    (htask : s.tasks[j]? = some task) (hread : task.scrapedAt = some t)
    (hwindow : task.window = none) (htodo : task.todo = (m, sample) :: todo)
    (htarget : s.Targets task a) (hw : s.windows[a]? = some w) :
    ∃ b s', (scrapeSystem V workers).step s (.lookup j) = some s' ∧
      s'.tasks[j]? = some { task with window := some b } ∧
      s'.Targets { task with window := some b } a ∧ s'.windows[a]? = some w := by
  have hahead : ∀ b, ScrapeTask.ahead { task with window := some b } = todo :=
    fun b => (ScrapeTask.ahead_of_some rfl).trans (congrArg List.tail htodo)
  obtain ⟨e, he, ha⟩ : ∃ e ∈ (m, sample) :: todo, s.arcs (task.key e.1) = some a := by
    rcases htarget with ha | ⟨e, he, ha⟩
    · simp [hwindow] at ha
    · rw [ScrapeTask.ahead_of_none hwindow, htodo] at he
      exact ⟨e, he, ha⟩
  rcases harc : s.arcs (task.key m) with _ | b
  · -- a new window is created, which is not the targeted one
    have hlookup : (scrapeSystem V workers).step s (.lookup j) =
        some { s.setTask j { task with window := some s.windows.length } with
          windows := s.windows ++ [MetricWindow.new task.maxSamples]
          arcs := Function.update s.arcs (task.key m) (some s.windows.length) } := by
      show s.lookup j = _
      simp only [ScrapeWorld.lookup, htask, Option.bind_eq_bind, Option.bind_some, hread,
        hwindow, htodo, harc]
      rfl
    have hne : task.key e.1 ≠ task.key m := by
      intro hk
      rw [hk, harc] at ha
      cases ha
    have he' : e ∈ todo := by
      rcases List.mem_cons.1 he with rfl | he
      · exact absurd rfl hne
      · exact he
    refine ⟨_, _, hlookup, getElem?_setTask htask, .inr ⟨e, ?_, ?_⟩,
      getElem?_concat_of_some hw _⟩
    · rw [hahead]
      exact he'
    · exact (Function.update_of_ne hne _ _).trans ha
  · have hlookup : (scrapeSystem V workers).step s (.lookup j) =
        some (s.setTask j { task with window := some b }) := by
      show s.lookup j = _
      simp only [ScrapeWorld.lookup, htask, Option.bind_eq_bind, Option.bind_some, hread,
        hwindow, htodo, harc]
      rfl
    refine ⟨_, _, hlookup, getElem?_setTask htask, ?_, hw⟩
    rcases List.mem_cons.1 he with rfl | he
    · exact .inl (harc.symm.trans ha)
    · refine .inr ⟨e, ?_, ha⟩
      rw [hahead]
      exact he

variable (workers) in
/-- A job can go on alone until it pushes into a window that it targets. -/
lemma exists_path_push {w : MetricWindow V} (todo : List (String × V × MetricType))
    {s : ScrapeWorld V} {task : ScrapeTask V} (htask : s.tasks[j]? = some task)
    (htodo : task.todo = todo) (hread : task.scrapedAt = some t)
    (hholds : task.window.isSome → todo ≠ []) (htarget : s.Targets task a)
    (hw : s.windows[a]? = some w) :
    ∃ es s'' v ty, (scrapeSystem V workers).Path System.Any s es s'' ∧
      s''.windows[a]? = some (w.push ⟨v, t, true, ty⟩) := by
  induction todo generalizing s task with
  | nil =>
      have hnone : task.window = none := by
        by_contra hsome
        exact hholds (Option.isSome_iff_ne_none.2 hsome) rfl
      rcases htarget with ha | ⟨e, he, -⟩
      · simp [hnone] at ha
      · simp [ScrapeTask.ahead_of_none hnone, htodo] at he
  | cons entry todo ih =>
      obtain ⟨m, v, ty⟩ := entry
      -- with the window at hand, one push is enough or leads to the next sample
      have hheld : ∀ (s : ScrapeWorld V) (task : ScrapeTask V) (b : ℕ), s.tasks[j]? = some task →
          task.todo = (m, v, ty) :: todo → task.scrapedAt = some t → task.window = some b →
          s.Targets task a → s.windows[a]? = some w →
          ∃ es s'' v ty, (scrapeSystem V workers).Path System.Any s es s'' ∧
            s''.windows[a]? = some (w.push ⟨v, t, true, ty⟩) := by
        intro s task b htask htodo hread hwindow htarget hw
        have hpush := push_of_window workers htask hread hwindow htodo
        by_cases hba : b = a
        · subst hba
          exact ⟨_, _, v, ty, .single trivial hpush, by simp [hw]⟩
        · have htarget' : ∃ e ∈ todo, s.arcs (task.key e.1) = some a := by
            rcases htarget with ha | ⟨e, he, ha⟩
            · exact absurd (Option.some.inj (hwindow.symm.trans ha)) hba
            · rw [ScrapeTask.ahead_of_some hwindow, htodo] at he
              exact ⟨e, he, ha⟩
          obtain ⟨es, s'', v', ty', hpath, hw''⟩ := ih
            (s := { s.setTask j { task with todo := todo, window := none } with
              windows := s.windows.modify b fun w => w.push ⟨v, t, true, ty⟩ })
            (getElem?_setTask htask) rfl hread (by simp) (.inr htarget') (by simp [hba, hw])
          exact ⟨_, s'', v', ty', .cons trivial hpush hpath, hw''⟩
      rcases hwindow : task.window with _ | b
      · obtain ⟨b, s₁, hlookup, htask₁, htarget₁, hw₁⟩ :=
          exists_lookup workers htask hread hwindow htodo htarget hw
        obtain ⟨es, s'', v', ty', hpath, hw''⟩ :=
          hheld s₁ _ b htask₁ htodo hread rfl htarget₁ hw₁
        exact ⟨_, s'', v', ty', .cons trivial hlookup hpath, hw''⟩
      · exact hheld s task b htask htodo hread hwindow htarget hw

/-- A push that overtakes puts the window out of order once the job it overtakes pushes. -/
lemma exists_disorder {w : MetricWindow V}
    (hreach : (scrapeSystem V workers).Reachable System.Any s) (hover : Overtakes s i a)
    (hw : s.windows[a]? = some w) (hroom : 2 ≤ w.maxSamples)
    (hs : (scrapeSystem V workers).step s (.push i) = some s') :
    ∃ es s'', (scrapeSystem V workers).Path System.Any s' es s'' ∧
      ∃ w ∈ s''.windows, ¬ w.Chronological := by
  obtain ⟨task, t, htask, hread, hwindow, other, hother, t', hread', htarget, hlt⟩ := hover
  obtain ⟨task₁, t₁, b, m, v, ty, todo, htask₁, hread₁, hwindow₁, -, rfl⟩ := push_cases hs
  obtain rfl : task = task₁ := Option.some.inj (htask.symm.trans htask₁)
  obtain rfl : t = t₁ := Option.some.inj (hread.symm.trans hread₁)
  obtain rfl : a = b := Option.some.inj (hwindow.symm.trans hwindow₁)
  obtain ⟨j, hj⟩ := List.getElem?_of_mem hother
  have hij : i ≠ j := by
    rintro rfl
    obtain rfl : task = other := Option.some.inj (htask.symm.trans hj)
    exact absurd (Option.some.inj (hread.symm.trans hread')) (by omega)
  obtain ⟨es, s'', v', ty', hpath, hw''⟩ := exists_path_push workers (j := j)
    (w := w.push ⟨v, t, true, ty⟩) other.todo
    (s := { s.setTask i { task with todo := todo, window := none } with
      windows := s.windows.modify a fun w => w.push ⟨v, t, true, ty⟩ })
    ((List.getElem?_set_ne hij).trans hj) rfl hread'
    (holdsSample_of_reachable hreach other hother) htarget (by simp [hw])
  exact ⟨es, s'', hpath, _, List.mem_of_getElem? hw'',
    MetricWindow.not_chronological_push_push hroom hlt⟩

end Overtaking

/-- **Chronological windows.** In every run in which no sample is pushed into a window while
a job that has read the clock earlier is still to push into it, the windows stay
chronological.  After a push that overtakes in this way, the run can go on to a window that
is out of order, unless the window holds only one sample. -/
theorem windows_chronological_unless_overtaken {V : Type} [Add V] [Zero V] (workers : ℕ) :
    (∀ s, (scrapeSystem V workers).Reachable NoOvertaking s →
      ∀ w ∈ s.windows, w.Chronological) ∧
    (∀ s s' i a w, (scrapeSystem V workers).Reachable System.Any s → Overtakes s i a →
      s.windows[a]? = some w → 2 ≤ w.maxSamples →
      (scrapeSystem V workers).step s (.push i) = some s' →
      ∃ es s'', (scrapeSystem V workers).Path System.Any s' es s'' ∧
        ∃ w ∈ s''.windows, ¬ w.Chronological) := by
  refine ⟨fun s h => (inOrder_of_reachable h).chronological, ?_⟩
  intro s s' i a w hreach hover hw hroom hs
  exact exists_disorder hreach hover hw hroom hs

/-! ### Two jobs for one pod -/

/-- A job for a pod of `webEpa`. -/
def webJob : ScrapeJob := ⟨webEpa "15s", ⟨"web-0", some "default", some "10.0.0.1"⟩, 40, false⟩

/-- A response with the metric of `webEpa`. -/
def webResponse (value : ℕ) : List (ParsedMetric ℕ) := [⟨"queue_depth", [], value, .counter⟩]

/-- Two jobs for the pod are in flight, and the one that reads the clock first pushes last. -/
def overtaken : List (WorkerEvent ℕ) :=
  [.receive webJob (webResponse 100), .receive webJob (webResponse 130), .readClock 0,
    .advance 1, .readClock 1, .lookup 1, .push 1, .lookup 0, .push 0]

/-- With two workers a window can hold a newer sample before an older one. -/
theorem overtaken_window_is_out_of_order :
    ∃ s w, (scrapeSystem ℕ 2).Reachable System.Any s ∧ w ∈ s.windows ∧ ¬ w.Chronological := by
  have hrun : ((scrapeSystem ℕ 2).exec ⟨0, [], fun _ => none, []⟩ overtaken).any (fun s =>
      s.windows.any fun w => !decide w.Chronological) = true := by decide +kernel
  obtain ⟨s, hs, hany⟩ := (Option.any_eq_true _ _).1 hrun
  obtain ⟨w, hw, hdis⟩ := List.any_eq_true.1 hany
  exact ⟨s, w, .of_exec ⟨rfl, rfl, rfl⟩ hs, hw, by simpa using hdis⟩

end ExternalPodAutoscaler.Scraper
