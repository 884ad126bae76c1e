/-
The store as a family of sliding windows (`store/ops.rs`).

Pushes, the removal of the windows of pods that are gone and the removal of an EPA are about one
EPA each.  After any of these, the windows of a metric are determined by the log of operations:
there is one for each pod that has been pushed to since its last removal, and it holds the last
samples pushed since then, as many as the first of these pushes has room for.

The main result of this file is `store_is_independent_windows`.  With evictions of stale windows in
between, the same holds of the histories (`getWindows_replay`), and the windows of an EPA are those
that the operations about it and the evictions leave on their own (`getWindows_replay_filter`).
-/
import ExternalPodAutoscaler.Store.History

namespace ExternalPodAutoscaler.Store

open ExternalPodAutoscaler.Api ExternalPodAutoscaler.Lib

variable {V : Type} {key : SampleKey} {op : StoreOp V} {ops : List (StoreOp V)}
  {store store' : MetricsStore V} {ns epaName metricName podName : String} {w : MetricWindow V}

/-! ### Logs of operations -/

namespace StoreOp

/-- The namespace and the name of the EPA that an operation is about; evictions are about all. -/
def epa : StoreOp V → Option (String × String)
  | .push key _ _ => some (key.ns, key.epaName)
  | .evictStale _ _ => none
  | .retainPods ns epaName _ => some (ns, epaName)
  | .removeEpa ns epaName => some (ns, epaName)

/-- The operation removes the window of the key, if there is one. -/
def removes (key : SampleKey) : StoreOp V → Bool
  | .retainPods ns epaName activePods =>
    key.ns = ns ∧ key.epaName = epaName ∧ key.podName ∉ activePods
  | .removeEpa ns epaName => key.ns = ns ∧ key.epaName = epaName
  | .push _ _ _ | .evictStale _ _ => false

/-- What the operation pushes to the key. -/
def pushes (key : SampleKey) : StoreOp V → Option (PushedSample V)
  | .push key' sample maxSamples => if key = key' then some (sample, maxSamples) else none
  | _ => none

end StoreOp

/-- What has been pushed to the key since it was last removed, oldest first. -/
def pushedSince (key : SampleKey) (ops : List (StoreOp V)) : List (PushedSample V) :=
  recordedSince (StoreOp.removes key) (StoreOp.pushes key) ops

lemma historyAfter_eq_logAfter (hop : op.epa.isSome = true) (pushed : List (PushedSample V)) :
    historyAfter key pushed op =
      logAfter (StoreOp.removes key) (StoreOp.pushes key) pushed op := by
  cases op with
  | push key' sample n =>
      by_cases hkey : key = key' <;>
        simp [historyAfter, logAfter, StoreOp.removes, StoreOp.pushes, hkey]
  | evictStale now maxAge => cases hop
  | retainPods ns epaName activePods =>
      simp [historyAfter, logAfter, StoreOp.removes, StoreOp.pushes]
  | removeEpa ns epaName => simp [historyAfter, logAfter, StoreOp.removes, StoreOp.pushes]

/-- Without evictions the history is the log since the last removal. -/
lemma history_eq_pushedSince (hops : ∀ op ∈ ops, op.epa.isSome = true) :
    history key ops = pushedSince key ops := by
  rw [pushedSince, ← foldl_logAfter, history]
  exact List.foldl_ext _ _ _ fun pushed op hop => historyAfter_eq_logAfter (hops op hop) pushed

/-! ### The windows of a metric -/

/-- The window holds the last of the samples that were pushed, in their order, and as many as the
first push has room for. -/
structure HoldsLast (w : MetricWindow V) (pushed : List (PushedSample V)) : Prop where
  capacity : pushed.head?.map Prod.snd = some w.maxSamples
  last : w.samples <:+ pushed.map Prod.fst
  count : 1 ≤ w.maxSamples → w.samples.length = min w.maxSamples pushed.length

lemma holdsLast_of_windowOf {pushed : List (PushedSample V)} (h : windowOf pushed = some w) :
    HoldsLast w pushed where
  capacity := (samples_of_windowOf h).2
  last := by
    rw [(samples_of_windowOf h).1]
    exact List.drop_suffix _ _
  count hroom := by
    rw [length_samples_of_windowOf h, max_eq_left hroom, min_comm]

lemma windowOf_eq_none_iff {pushed : List (PushedSample V)} :
    windowOf pushed = none ↔ pushed = [] := by
  cases pushed <;> simp [windowOf]

/-- There is at most one window for each pod. -/
lemma nodup_pods (store : MetricsStore V) (ns epaName metricName : String) :
    ((store.getWindows ns epaName metricName).map Prod.fst).Nodup := by
  have hpods : (store.getWindows ns epaName metricName).map Prod.fst =
      store.windows.keys.filterMap fun key =>
        if key.ns = ns ∧ key.epaName = epaName ∧ key.metricName = metricName then some key.podName
        else none := by
    rw [MetricsStore.getWindows, List.map_filterMap, AList.keys, List.keys, List.filterMap_map]
    refine List.filterMap_congr fun entry _ => ?_
    by_cases hkey : entry.1.ns = ns ∧ entry.1.epaName = epaName ∧ entry.1.metricName = metricName
    · simp [hkey]
    · simp [hkey]
  rw [hpods]
  refine store.windows.keys_nodup.filterMap ?_
  rintro ⟨ns₁, epa₁, metric₁, pod₁⟩ ⟨ns₂, epa₂, metric₂, pod₂⟩ podName h₁ h₂
  -- keys with the same metric and the same pod are the same
  simp only [Option.mem_def, Option.ite_none_right_eq_some, Option.some.injEq] at h₁ h₂
  obtain ⟨⟨rfl, rfl, rfl⟩, rfl⟩ := h₁
  obtain ⟨⟨rfl, rfl, rfl⟩, rfl⟩ := h₂
  rfl

lemma mem_pods_iff : podName ∈ (store.getWindows ns epaName metricName).map Prod.fst ↔
    store.windows.lookup ⟨ns, epaName, metricName, podName⟩ ≠ none := by
  rw [List.mem_map, Option.ne_none_iff_exists']
  constructor
  · rintro ⟨⟨podName, w⟩, hmem, rfl⟩
    exact ⟨w, MetricsStore.mem_getWindows.1 hmem⟩
  · rintro ⟨w, hlookup⟩
    exact ⟨(podName, w), MetricsStore.mem_getWindows.2 hlookup, rfl⟩

/-- **The windows of a metric.** After any operations there is one window for each pod with a
history, and it holds the last samples of the history. -/
theorem getWindows_replay (ops : List (StoreOp V)) (ns epaName metricName podName : String) :
    (podName ∈ ((MetricsStore.replay ops).getWindows ns epaName metricName).map Prod.fst ↔
      history ⟨ns, epaName, metricName, podName⟩ ops ≠ []) ∧
    ∀ w, (podName, w) ∈ (MetricsStore.replay ops).getWindows ns epaName metricName →
      HoldsLast w (history ⟨ns, epaName, metricName, podName⟩ ops) := by
  constructor
  · rw [mem_pods_iff, lookup_replay, Ne, windowOf_eq_none_iff]
  · intro w hmem
    rw [MetricsStore.mem_getWindows, lookup_replay] at hmem
    exact holdsLast_of_windowOf hmem

/-! ### Independence -/

/-- Stores with the same windows for each pod return the same windows. -/
lemma getWindows_perm (h : ∀ podName, store'.windows.lookup ⟨ns, epaName, metricName, podName⟩ =
      store.windows.lookup ⟨ns, epaName, metricName, podName⟩) :
    (store'.getWindows ns epaName metricName).Perm (store.getWindows ns epaName metricName) := by
  have hnodup : ∀ store : MetricsStore V, (store.getWindows ns epaName metricName).Nodup :=
    fun store => (nodup_pods store ns epaName metricName).of_map
  rw [List.perm_ext_iff_of_nodup (hnodup store') (hnodup store)]
  rintro ⟨podName, w⟩
  rw [MetricsStore.mem_getWindows, MetricsStore.mem_getWindows, h podName]

/-- An operation about another EPA is not recorded. -/
lemma historyAfter_of_other {epa : String × String} (hop : op.epa = some epa)
    (hne : epa ≠ (key.ns, key.epaName)) (pushed : List (PushedSample V)) :
    historyAfter key pushed op = pushed := by
  cases op with
  | push key' sample n =>
      refine if_neg ?_
      rintro rfl
      exact hne (Option.some.inj hop).symm
  | evictStale now maxAge => cases hop
  | retainPods ns epaName activePods =>
      obtain rfl := Option.some.inj hop
      refine if_neg ?_
      rintro ⟨rfl, rfl, -⟩
      exact hne rfl
  | removeEpa ns epaName =>
      obtain rfl := Option.some.inj hop
      refine if_neg ?_
      rintro ⟨rfl, rfl⟩
      exact hne rfl

/-- **Independence of the EPAs.** The windows of an EPA are as they would be if all operations
about other EPAs were left out. -/
theorem getWindows_replay_filter (ops : List (StoreOp V)) (ns epaName metricName : String) :
    ((MetricsStore.replay ops).getWindows ns epaName metricName).Perm
      ((MetricsStore.replay (ops.filter fun op => op.epa.all (· == (ns, epaName)))).getWindows
        ns epaName metricName) := by
  refine getWindows_perm fun podName => ?_
  rw [lookup_replay, lookup_replay, history, history, List.foldl_filter]
  refine congrArg windowOf (List.foldl_ext _ _ _ fun pushed op _ => ?_)
  split
  · rfl
  · rename_i hother
    rw [Option.all_eq_true, not_forall] at hother
    obtain ⟨epa, hother⟩ := hother
    rw [Classical.not_imp, beq_iff_eq] at hother
    exact historyAfter_of_other hother.1 hother.2 pushed

/-- **The store is a family of independent sliding windows.** After pushes, removals of pods that
are gone and removals of EPAs, a metric has one window for each pod that was pushed to since its
last removal, the window holds the last samples pushed since then, and an operation about another
EPA leaves these windows as they are. -/
theorem store_is_independent_windows (hops : ∀ op ∈ ops, op.epa.isSome = true)
    (ns epaName metricName : String) :
    (((MetricsStore.replay ops).getWindows ns epaName metricName).map Prod.fst).Nodup ∧
    (∀ podName,
      (podName ∈ ((MetricsStore.replay ops).getWindows ns epaName metricName).map Prod.fst ↔
        pushedSince ⟨ns, epaName, metricName, podName⟩ ops ≠ []) ∧
      ∀ w, (podName, w) ∈ (MetricsStore.replay ops).getWindows ns epaName metricName →
        HoldsLast w (pushedSince ⟨ns, epaName, metricName, podName⟩ ops)) ∧
    ∀ (op : StoreOp V) (epa : String × String), op.epa = some epa → epa ≠ (ns, epaName) →
      (((MetricsStore.replay ops).apply op).getWindows ns epaName metricName).Perm
        ((MetricsStore.replay ops).getWindows ns epaName metricName) := by
  refine ⟨nodup_pods _ ns epaName metricName, fun podName => ?_, fun op epa hop hne => ?_⟩
  · rw [← history_eq_pushedSince hops]
    exact getWindows_replay ops ns epaName metricName podName
  · refine getWindows_perm fun podName => ?_
    rw [lookup_apply (lookup_replay _ ops) op, historyAfter_of_other hop hne, lookup_replay]

/-- A successful scrape of a gauge. -/
def gaugeSample (value scrapedAt : ℕ) : LabeledSample ℕ := ⟨value, scrapedAt, true, .gauge⟩

/-- A key of the EPA `web`. -/
def podKey (podName : String) : SampleKey := ⟨"default", "web", "queue_depth", podName⟩

/-- The pod `web-0` terminates after three samples, in a window of two, and comes back with a
window of three. -/
def recreatedPod : List (StoreOp ℕ) :=
  [.push (podKey "web-0") (gaugeSample 1 10) 2, .push (podKey "web-1") (gaugeSample 7 10) 2,
    .push (podKey "web-0") (gaugeSample 2 20) 2, .push (podKey "web-0") (gaugeSample 3 30) 2,
    .retainPods "default" "web" ["web-1"], .removeEpa "default" "api",
    .push (podKey "web-0") (gaugeSample 4 40) 3, .push (podKey "web-0") (gaugeSample 5 50) 3]

/-- What was pushed before the removal is forgotten, and so is the capacity. -/
theorem recreatedPod_windows :
    "web-0" ∈ ((MetricsStore.replay recreatedPod).getWindows "default" "web" "queue_depth").map
      Prod.fst ∧
    ∀ w, ("web-0", w) ∈
        (MetricsStore.replay recreatedPod).getWindows "default" "web" "queue_depth" →
      HoldsLast w [(gaugeSample 4 40, 3), (gaugeSample 5 50, 3)] := by
  have hops : ∀ op ∈ recreatedPod, op.epa.isSome = true := by decide +kernel
  have hpushed : pushedSince ⟨"default", "web", "queue_depth", "web-0"⟩ recreatedPod =
      [(gaugeSample 4 40, 3), (gaugeSample 5 50, 3)] := by decide +kernel
  have hwindows := (store_is_independent_windows hops
    "default" "web" "queue_depth").2.1 "web-0"
  rw [hpushed] at hwindows
  exact ⟨hwindows.1.2 (List.cons_ne_nil _ _), hwindows.2⟩

end ExternalPodAutoscaler.Store
