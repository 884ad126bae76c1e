/-
The metrics store (`store/window.rs`, `store/types.rs` and `store/ops.rs`).

The store maps a namespace, EPA, metric and pod to a window: the last samples scraped, at
most as many as the window was created for.  Windows are created by the first sample
pushed into them and removed when they are stale, when their pod is gone or when their EPA
is deleted.  Values of samples are of an arbitrary type; the operations here do not look
at them.

A window whose samples are pushed in the order of their instants is `Chronological`.  The
lemmas of this file say what each operation does to the window of each key:
`lookup_pushSample_self`, `lookup_pushSample_of_ne`, `lookup_evictStaleWindows`,
`lookup_retainPodWindows` and `lookup_removeEpaWindows`.
-/
import Mathlib.Data.List.Induction
import ExternalPodAutoscaler.Api.Epa
import ExternalPodAutoscaler.Clock
import ExternalPodAutoscaler.Lib.Logs
import ExternalPodAutoscaler.Lib.Maps

namespace ExternalPodAutoscaler.Store

open ExternalPodAutoscaler.Api ExternalPodAutoscaler.Lib

/-- The type of a Prometheus metric. -/
inductive MetricType where
  | gauge
  | counter
deriving DecidableEq

/-- A sample of one scrape. -/
structure LabeledSample (V : Type) where
  value : V
  scrapedAt : ℕ
  success : Bool
  metricType : MetricType
deriving DecidableEq

/-- A sliding window of samples, oldest first. -/
structure MetricWindow (V : Type) where
  samples : List (LabeledSample V)
  maxSamples : ℕ
deriving DecidableEq

namespace MetricWindow

variable {V : Type}

/-- An empty window. -/
def new (maxSamples : ℕ) : MetricWindow V := ⟨[], maxSamples⟩

/-- Pushes a new sample, evicting the oldest one at capacity. -/
def push (w : MetricWindow V) (sample : LabeledSample V) : MetricWindow V :=
  { w with samples :=
    (if w.maxSamples ≤ w.samples.length then w.samples.tail else w.samples) ++ [sample] }

/-- The age of the newest sample, read at `now`. -/
def newestSampleAge (now : ℕ) (w : MetricWindow V) : Option ℕ :=
  w.samples.getLast?.map fun s => elapsed now s.scrapedAt

@[simp] lemma getLast?_push (w : MetricWindow V) (sample : LabeledSample V) :
    (w.push sample).samples.getLast? = some sample := List.getLast?_concat

/-- The samples of a window after a push: some of those it held, then the new one. -/
lemma samples_push (w : MetricWindow V) (sample : LabeledSample V) :
    ∃ kept, kept.Sublist w.samples ∧ (w.push sample).samples = kept ++ [sample] := by
  by_cases hfull : w.maxSamples ≤ w.samples.length
  · exact ⟨w.samples.tail, List.tail_sublist _, by simp [push, hfull]⟩
  · exact ⟨w.samples, .refl _, by simp [push, hfull]⟩

/-- A window is a bounded queue. -/
lemma foldl_push (w : MetricWindow V) (pushed : List (LabeledSample V)) :
    pushed.foldl push w = ⟨pushed.foldl (pushBounded w.maxSamples) w.samples, w.maxSamples⟩ := by
  induction pushed generalizing w with
  | nil => rfl
  | cons sample pushed ih => exact ih (w.push sample)

/-- After some pushes a window holds the last of them. -/
lemma samples_foldl_push (maxSamples : ℕ) (pushed : List (LabeledSample V)) :
    (pushed.foldl push (new maxSamples)).samples =
      pushed.drop (pushed.length - max maxSamples 1) ∧
    (pushed.foldl push (new maxSamples)).maxSamples = maxSamples := by
  rw [foldl_push]
  exact ⟨foldl_pushBounded maxSamples pushed, rfl⟩

/-- The samples are in the order of their instants. -/
def Chronological (w : MetricWindow V) : Prop :=
  w.samples.Pairwise fun a b => a.scrapedAt ≤ b.scrapedAt

instance (w : MetricWindow V) : Decidable w.Chronological :=
  inferInstanceAs (Decidable (w.samples.Pairwise _))

lemma mem_samples_push {w : MetricWindow V} {sample x : LabeledSample V}
    (hx : x ∈ (w.push sample).samples) : x ∈ w.samples ∨ x = sample := by
  obtain ⟨kept, hkept, heq⟩ := w.samples_push sample
  rw [heq, List.mem_append, List.mem_singleton] at hx
  rcases hx with hx | hx
  · exact .inl (hkept.subset hx)
  · exact .inr hx

/-- A push of a sample that is not older than any sample of the window. -/
lemma Chronological.push {w : MetricWindow V} {sample : LabeledSample V} (hw : w.Chronological)
    (hle : ∀ x ∈ w.samples, x.scrapedAt ≤ sample.scrapedAt) : (w.push sample).Chronological := by
  obtain ⟨kept, hkept, heq⟩ := w.samples_push sample
  rw [Chronological, heq, List.pairwise_append]
  refine ⟨hw.sublist hkept, List.pairwise_singleton _ _, fun x hx y hy => ?_⟩
  obtain rfl := List.mem_singleton.1 hy
  exact hle x (hkept.subset hx)

/-- In a window with room for two samples an older sample that is pushed after a newer one
is out of order. -/
lemma not_chronological_push_push {w : MetricWindow V} {newer older : LabeledSample V}
    (hroom : 2 ≤ w.maxSamples) (hlt : older.scrapedAt < newer.scrapedAt) :
    ¬ ((w.push newer).push older).Chronological := by
  obtain ⟨kept, -, hkept⟩ := w.samples_push newer
  intro hchron
  have hmem : newer ∈ (if (w.push newer).maxSamples ≤ (w.push newer).samples.length then
      (w.push newer).samples.tail else (w.push newer).samples) := by
    rw [hkept]
    split
    · rename_i hfull
      have hlen : 2 ≤ (kept ++ [newer]).length := Nat.le_trans hroom hfull
      rcases kept with _ | ⟨a, kept⟩
      · simp at hlen
      · simp
    · simp
  rw [Chronological, MetricWindow.push, List.pairwise_append] at hchron
  exact absurd (hchron.2.2 newer hmem older (List.mem_singleton.2 rfl)) (Nat.not_le.2 hlt)

end MetricWindow

/-- Identifies a window. -/
structure SampleKey where
  ns : String
  epaName : String
  metricName : String
  podName : String
deriving DecidableEq

/-- Identifies a metric of an EPA, across its pods. -/
structure CacheKey where
  ns : String
  epaName : String
  metricName : String
deriving DecidableEq

/-- What is kept for the pods of a metric, from a map with an entry for each pod. -/
lemma mem_filterMap_entries {W : Type} {entries : AList fun _ : SampleKey => W}
    {ns epaName metricName podName : String} {w : W} :
    (podName, w) ∈ (entries.entries.filterMap fun entry =>
        if entry.1.ns = ns ∧ entry.1.epaName = epaName ∧ entry.1.metricName = metricName then
          some (entry.1.podName, entry.2)
        else none) ↔
      entries.lookup ⟨ns, epaName, metricName, podName⟩ = some w := by
  rw [← Option.mem_def, AList.mem_lookup_iff, List.mem_filterMap]
  constructor
  · rintro ⟨⟨⟨ns', epaName', metricName', podName'⟩, w'⟩, hmem, hentry⟩
    split at hentry
    · rename_i hkey
      obtain ⟨rfl, rfl, rfl⟩ := hkey
      obtain ⟨rfl, rfl⟩ := Prod.mk.inj (Option.some.inj hentry)
      exact hmem
    · cases hentry
  · intro hmem
    exact ⟨_, hmem, if_pos ⟨rfl, rfl, rfl⟩⟩

/-- The windows and the aggregation configured for each metric. -/
structure MetricsStore (V : Type) where
  windows : AList fun _ : SampleKey => MetricWindow V
  configs : AList fun _ : CacheKey => AggregationType

namespace MetricsStore

variable {V : Type}

/-- `MetricsStore::new`. -/
def new : MetricsStore V := ⟨∅, ∅⟩

/-- Pushes a sample into a window, which is created if it does not exist. -/
def pushSample (store : MetricsStore V) (key : SampleKey) (sample : LabeledSample V)
    (maxSamples : ℕ) : MetricsStore V :=
  let window := (store.windows.lookup key).getD (MetricWindow.new maxSamples)
  { store with windows := store.windows.insert key (window.push sample) }

/-- Sets the aggregation of a metric. -/
def setMetricConfig (store : MetricsStore V) (ns epaName metricName : String)
    (config : AggregationType) : MetricsStore V :=
  { store with configs := store.configs.insert ⟨ns, epaName, metricName⟩ config }

/-- The keys of the windows whose newest sample is older than `maxAge` at `now`; windows
without a sample are not stale. -/
def staleKeys (store : MetricsStore V) (now maxAge : ℕ) : List SampleKey :=
  store.windows.keys.filter fun key =>
    ((store.windows.lookup key).bind (MetricWindow.newestSampleAge now)).any (maxAge < ·)

/-- Evicts the stale windows and counts them. -/
def evictStaleWindows (store : MetricsStore V) (now maxAge : ℕ) : MetricsStore V × ℕ :=
  let stale := store.staleKeys now maxAge
  ({ store with windows := stale.foldl (fun windows key => windows.erase key) store.windows },
    stale.length)

/-- Removes the windows of the EPA whose pod is not active, and counts them. -/
def retainPodWindows (store : MetricsStore V) (ns epaName : String) (activePods : List String) :
    MetricsStore V × ℕ :=
  let windows := retain (fun key : SampleKey =>
    key.ns ≠ ns || key.epaName ≠ epaName || key.podName ∈ activePods) store.windows
  ({ store with windows := windows },
    store.windows.entries.length - windows.entries.length)

/-- Removes everything the store has about an EPA. -/
def removeEpaWindows (store : MetricsStore V) (ns epaName : String) : MetricsStore V where
  windows := retain (fun key : SampleKey => !(key.ns = ns && key.epaName = epaName)) store.windows
  configs := retain (fun key : CacheKey => !(key.ns = ns && key.epaName = epaName)) store.configs

/-- The windows of a metric, with the names of their pods, in the iteration order of the
map. -/
def getWindows (store : MetricsStore V) (ns epaName metricName : String) :
    List (String × MetricWindow V) :=
  store.windows.entries.filterMap fun entry =>
    if entry.1.ns = ns ∧ entry.1.epaName = epaName ∧ entry.1.metricName = metricName then
      some (entry.1.podName, entry.2)
    else none

/-- The aggregation of a metric, `avg` if it is not configured. -/
def getMetricConfig (store : MetricsStore V) (ns epaName metricName : String) : AggregationType :=
  (store.configs.lookup ⟨ns, epaName, metricName⟩).getD .avg

variable {store : MetricsStore V} {key key' : SampleKey}

lemma mem_getWindows {ns epaName metricName podName : String} {w : MetricWindow V} :
    (podName, w) ∈ store.getWindows ns epaName metricName ↔
      store.windows.lookup ⟨ns, epaName, metricName, podName⟩ = some w :=
  mem_filterMap_entries

lemma lookup_pushSample_self (sample : LabeledSample V) (maxSamples : ℕ) :
    (store.pushSample key sample maxSamples).windows.lookup key =
      some (((store.windows.lookup key).getD (MetricWindow.new maxSamples)).push sample) :=
  AList.lookup_insert _

lemma lookup_pushSample_of_ne (hne : key' ≠ key) (sample : LabeledSample V) (maxSamples : ℕ) :
    (store.pushSample key sample maxSamples).windows.lookup key' = store.windows.lookup key' :=
  AList.lookup_insert_ne hne

/-- **Eviction.** A window is gone after the eviction exactly when its newest sample is
older than `maxAge`. -/
lemma lookup_evictStaleWindows (now maxAge : ℕ) :
    (store.evictStaleWindows now maxAge).1.windows.lookup key =
      if ((store.windows.lookup key).bind (MetricWindow.newestSampleAge now)).any (maxAge < ·)
      then none else store.windows.lookup key := by
  show AList.lookup key ((store.staleKeys now maxAge).foldl _ store.windows) = _
  rw [lookup_foldl_erase]
  rcases hl : store.windows.lookup key with _ | w
  · simp
  · have hmem : key ∈ store.windows.keys := by
      rw [← AList.mem_keys, ← AList.lookup_isSome, hl]
      rfl
    simp [staleKeys, hmem, hl]

lemma lookup_retainPodWindows (ns epaName : String) (activePods : List String) :
    (store.retainPodWindows ns epaName activePods).1.windows.lookup key =
      if key.ns = ns ∧ key.epaName = epaName ∧ key.podName ∉ activePods then none
      else store.windows.lookup key := by
  show (retain _ _).lookup key = _
  rw [lookup_retain]
  by_cases h : key.ns = ns ∧ key.epaName = epaName ∧ key.podName ∉ activePods
  · obtain ⟨h₁, h₂, h₃⟩ := h
    simp [h₁, h₂, h₃]
  · rw [if_neg h, if_pos]
    simp only [Bool.or_eq_true, decide_eq_true_eq]
    tauto

lemma lookup_removeEpaWindows (ns epaName : String) :
    (store.removeEpaWindows ns epaName).windows.lookup key =
      if key.ns = ns ∧ key.epaName = epaName then none else store.windows.lookup key := by
  show (retain _ _).lookup key = _
  rw [lookup_retain]
  by_cases h : key.ns = ns ∧ key.epaName = epaName
  · simp [h]
  · rw [if_neg h, if_pos]
    rw [not_and_or] at h
    simpa using h

end MetricsStore

end ExternalPodAutoscaler.Store
