/-
The maps of the store and the calls that change them (`MetricsStore` of `store/ops.rs`).

The store has five maps; those of the windows and of the scrape statistics hold handles, which
the callers keep.  A `StoreCall` is what one call does to the maps at one instant: a call of
`push_sample` takes the handle of a window, `evict_stale_windows` removes the keys it has found
stale, and `remove_epa_windows` sweeps one map after the other.  What is behind the handles is
left to `Store/ConcurrentEviction.lean` and `Store/ScrapeStats.lean`.

The main results of this file are `nothingIn_sweep` and `nothingIn_apply`: a sweep of a map
leaves nothing of its EPA, and a call that adds no entry of an EPA leaves it so.  What a call does
to the keys of the windows and to the configurations is what the operation of `MetricsStore` does
(`Shape`); the five sweeps together are `removeEpaWindows`.
-/
import ExternalPodAutoscaler.Membership.Weight
import ExternalPodAutoscaler.Store.Window

namespace ExternalPodAutoscaler.Store

open ExternalPodAutoscaler.Api ExternalPodAutoscaler.Lib ExternalPodAutoscaler.Membership

/-- A map of the store. -/
inductive StoreMap where
  | windows
  | cache
  | configs
  | multiSeriesWarned
  | scrapeStats
deriving DecidableEq

/-- The maps in the order in which `remove_epa_windows` goes through them. -/
def StoreMap.all : List StoreMap := [.windows, .cache, .configs, .multiSeriesWarned, .scrapeStats]

/-- The maps of the store.  A handle is the number of its creation. -/
structure StoreMaps (V : Type) where
  windows : AList fun _ : SampleKey => ℕ
  cache : AList fun _ : CacheKey => V
  configs : AList fun _ : CacheKey => AggregationType
  multiSeriesWarned : AList fun _ : CacheKey => Unit
  scrapeStats : AList fun _ : String => ℕ
  /-- The number of handles that have been created. -/
  created : ℕ

/-- What a call of a method does to the maps at one instant. -/
inductive StoreCall (V : Type) where
  /-- `push_sample`: the window is looked up, or created. -/
  | pushSample (key : SampleKey)
  | cacheResult (key : CacheKey) (value : V)
  | setMetricConfig (key : CacheKey) (aggregation : AggregationType)
  | firstMultiSeries (key : CacheKey)
  | getScrapeStats (ns epaName : String)
  | retainPodWindows (ns epaName : String) (activePods : List String)
  /-- `evict_stale_windows`: the keys found stale are removed. -/
  | evictStaleWindows (stale : List SampleKey)
  /-- `cleanup_expired_cache`, with the keys whose values have expired. -/
  | cleanupExpiredCache (expired : List CacheKey)
  /-- `remove_epa_windows`: one of the maps is swept. -/
  | sweep (m : StoreMap) (ns epaName : String)

/-- The window is one of the EPA. -/
def SampleKey.IsOf (ns epaName : String) (key : SampleKey) : Prop :=
  key.ns = ns ∧ key.epaName = epaName

/-- The metric is one of the EPA. -/
def CacheKey.IsOf (ns epaName : String) (key : CacheKey) : Prop :=
  key.ns = ns ∧ key.epaName = epaName

namespace StoreMaps

variable {V : Type}

/-- `MetricsStore::new`. -/
def new : StoreMaps V := ⟨∅, ∅, ∅, ∅, ∅, 0⟩

/-- The maps after a call. -/
def apply (maps : StoreMaps V) : StoreCall V → StoreMaps V
  | .pushSample key =>
    if key ∈ maps.windows then maps
    else { maps with
      windows := maps.windows.insert key maps.created
      created := maps.created + 1 }
  | .cacheResult key value => { maps with cache := maps.cache.insert key value }
  | .setMetricConfig key aggregation => { maps with configs := maps.configs.insert key aggregation }
  | .firstMultiSeries key => { maps with multiSeriesWarned := maps.multiSeriesWarned.insert key () }
  | .getScrapeStats ns epaName =>
    if epaKey ns epaName ∈ maps.scrapeStats then maps
    else { maps with
      scrapeStats := maps.scrapeStats.insert (epaKey ns epaName) maps.created
      created := maps.created + 1 }
  | .retainPodWindows ns epaName activePods =>
    { maps with
      windows := retain (fun key : SampleKey =>
        key.ns ≠ ns || key.epaName ≠ epaName || key.podName ∈ activePods) maps.windows }
  | .evictStaleWindows stale =>
    { maps with windows := stale.foldl (fun windows key => windows.erase key) maps.windows }
  | .cleanupExpiredCache expired =>
    { maps with cache := retain (fun key : CacheKey => !(expired.contains key)) maps.cache }
  | .sweep .windows ns epaName =>
    { maps with
      windows := retain (fun key : SampleKey => !(key.ns = ns && key.epaName = epaName))
        maps.windows }
  | .sweep .cache ns epaName =>
    { maps with
      cache := retain (fun key : CacheKey => !(key.ns = ns && key.epaName = epaName)) maps.cache }
  | .sweep .configs ns epaName =>
    { maps with
      configs := retain (fun key : CacheKey => !(key.ns = ns && key.epaName = epaName))
        maps.configs }
  | .sweep .multiSeriesWarned ns epaName =>
    { maps with
      multiSeriesWarned := retain (fun key : CacheKey => !(key.ns = ns && key.epaName = epaName))
        maps.multiSeriesWarned }
  | .sweep .scrapeStats ns epaName =>
    { maps with scrapeStats := maps.scrapeStats.erase (epaKey ns epaName) }

/-- A map has no entry of the EPA. -/
def NothingIn (ns epaName : String) (maps : StoreMaps V) : StoreMap → Prop
  | .windows => Lacks (SampleKey.IsOf ns epaName) maps.windows
  | .cache => Lacks (CacheKey.IsOf ns epaName) maps.cache
  | .configs => Lacks (CacheKey.IsOf ns epaName) maps.configs
  | .multiSeriesWarned => Lacks (CacheKey.IsOf ns epaName) maps.multiSeriesWarned
  | .scrapeStats => Lacks (· = epaKey ns epaName) maps.scrapeStats

end StoreMaps

/-- The call sees to it that the map has an entry of the EPA. -/
def StoreCall.Adds {V : Type} (ns epaName : String) : StoreCall V → StoreMap → Prop
  | .pushSample key, .windows => key.IsOf ns epaName
  | .cacheResult key _, .cache => key.IsOf ns epaName
  | .setMetricConfig key _, .configs => key.IsOf ns epaName
  | .firstMultiSeries key, .multiSeriesWarned => key.IsOf ns epaName
  | .getScrapeStats ns' epaName', .scrapeStats => epaKey ns' epaName' = epaKey ns epaName
  | _, _ => False

/-- The call removes no entry. -/
def StoreCall.Keeps {V : Type} : StoreCall V → Prop
  | .pushSample _ | .cacheResult _ _ | .setMetricConfig _ _ | .firstMultiSeries _
  | .getScrapeStats _ _ => True
  | _ => False

lemma SampleKey.not_isOf_of_kept {ns epaName : String} {key : SampleKey}
    (h : (!(key.ns = ns && key.epaName = epaName)) = true) : ¬ key.IsOf ns epaName := by
  rintro ⟨rfl, rfl⟩
  simp at h

lemma CacheKey.not_isOf_of_kept {ns epaName : String} {key : CacheKey}
    (h : (!(key.ns = ns && key.epaName = epaName)) = true) : ¬ key.IsOf ns epaName := by
  rintro ⟨rfl, rfl⟩
  simp at h

namespace StoreMaps

variable {V : Type} {ns epaName : String} {maps : StoreMaps V}

/-- **Calls that add nothing.** A call that adds no entry of an EPA to a map leaves none in a map
that has none. -/
lemma nothingIn_apply {m : StoreMap} (h : maps.NothingIn ns epaName m) {call : StoreCall V}
    (hadds : ¬ call.Adds ns epaName m) : (maps.apply call).NothingIn ns epaName m := by
  cases call with
  | pushSample key =>
      rw [apply]
      split
      · exact h
      · cases m with
        | windows => exact Lacks.insert h hadds _
        | _ => exact h
  | cacheResult key value =>
      cases m with
      | cache => exact Lacks.insert h hadds _
      | _ => exact h
  | setMetricConfig key aggregation =>
      cases m with
      | configs => exact Lacks.insert h hadds _
      | _ => exact h
  | firstMultiSeries key =>
      cases m with
      | multiSeriesWarned => exact Lacks.insert h hadds _
      | _ => exact h
  | getScrapeStats ns' epaName' =>
      rw [apply]
      split
      · exact h
      · cases m with
        | scrapeStats => exact Lacks.insert h hadds _
        | _ => exact h
  | retainPodWindows ns' epaName' activePods =>
      cases m with
      | windows => exact Lacks.retain h _
      | _ => exact h
  | evictStaleWindows stale =>
      cases m with
      | windows => exact Lacks.foldl_erase h stale
      | _ => exact h
  | cleanupExpiredCache expired =>
      cases m with
      | cache => exact Lacks.retain h _
      | _ => exact h
  | sweep m' ns' epaName' =>
      cases m' with
      | scrapeStats =>
          cases m with
          | scrapeStats => exact Lacks.erase h _
          | _ => exact h
      | _ => cases m <;> first | exact h | exact Lacks.retain h _

/-- `push_sample` finds the window of its key, or creates it. -/
lemma mem_windows_apply (maps : StoreMaps V) (key : SampleKey) :
    key ∈ (maps.apply (.pushSample key)).windows := by
  rw [apply]
  split
  · assumption
  · exact (AList.mem_insert _).2 (Or.inl rfl)

/-- `get_scrape_stats` finds the statistics of its EPA, or creates them. -/
lemma mem_scrapeStats_apply (maps : StoreMaps V) (ns epaName : String) :
    epaKey ns epaName ∈ (maps.apply (.getScrapeStats ns epaName)).scrapeStats := by
  rw [apply]
  split
  · assumption
  · exact (AList.mem_insert _).2 (Or.inl rfl)

/-- A call that adds an entry of an EPA to a map leaves one there. -/
lemma not_nothingIn_apply {m : StoreMap} {call : StoreCall V} (hadds : call.Adds ns epaName m) :
    ¬ (maps.apply call).NothingIn ns epaName m := by
  intro hnone
  cases call with
  | pushSample key =>
      cases m with
      | windows => exact Lacks.not_mem hnone hadds (mem_windows_apply maps key)
      | _ => cases hadds
  | cacheResult key value =>
      cases m with
      | cache => exact hnone key value (AList.lookup_insert _) hadds
      | _ => cases hadds
  | setMetricConfig key aggregation =>
      cases m with
      | configs => exact hnone key aggregation (AList.lookup_insert _) hadds
      | _ => cases hadds
  | firstMultiSeries key =>
      cases m with
      | multiSeriesWarned => exact hnone key () (AList.lookup_insert _) hadds
      | _ => cases hadds
  | getScrapeStats ns' epaName' =>
      cases m with
      | scrapeStats => exact Lacks.not_mem hnone hadds (mem_scrapeStats_apply maps ns' epaName')
      | _ => cases hadds
  | _ => cases m <;> cases hadds

/-- A call that removes no entry leaves what there is of an EPA. -/
lemma nothingIn_of_apply {m : StoreMap} {call : StoreCall V} (hkeeps : call.Keeps)
    (h : (maps.apply call).NothingIn ns epaName m) : maps.NothingIn ns epaName m := by
  cases call with
  | pushSample key =>
      rw [apply] at h
      split at h
      · exact h
      · cases m with
        | windows => exact Lacks.of_insert h
        | _ => exact h
  | cacheResult key value =>
      cases m with
      | cache => exact Lacks.of_insert h
      | _ => exact h
  | setMetricConfig key aggregation =>
      cases m with
      | configs => exact Lacks.of_insert h
      | _ => exact h
  | firstMultiSeries key =>
      cases m with
      | multiSeriesWarned => exact Lacks.of_insert h
      | _ => exact h
  | getScrapeStats ns' epaName' =>
      rw [apply] at h
      split at h
      · exact h
      · cases m with
        | scrapeStats => exact Lacks.of_insert h
        | _ => exact h
  | _ => cases hkeeps

/-- **A sweep.** A sweep of a map leaves no entry of its EPA there. -/
lemma nothingIn_sweep (maps : StoreMaps V) (ns epaName : String) (m : StoreMap) :
    (maps.apply (.sweep m ns epaName)).NothingIn ns epaName m := by
  cases m with
  | windows => exact Lacks.retain_of_imp (fun _ hkept => SampleKey.not_isOf_of_kept hkept) _
  | cache => exact Lacks.retain_of_imp (fun _ hkept => CacheKey.not_isOf_of_kept hkept) _
  | configs => exact Lacks.retain_of_imp (fun _ hkept => CacheKey.not_isOf_of_kept hkept) _
  | multiSeriesWarned =>
      exact Lacks.retain_of_imp (fun _ hkept => CacheKey.not_isOf_of_kept hkept) _
  | scrapeStats => exact Lacks.erase_self _ _

/-! ### The windows and the configurations -/

/-- The maps have windows for the keys of a store, and its configurations. -/
structure Shape (maps : StoreMaps V) (store : MetricsStore V) : Prop where
  mem_windows : ∀ key, key ∈ maps.windows ↔ key ∈ store.windows
  configs : maps.configs = store.configs

namespace Shape

variable {store : MetricsStore V}

lemma pushSample (h : maps.Shape store) (key : SampleKey) (sample : LabeledSample V)
    (maxSamples : ℕ) :
    (maps.apply (.pushSample key)).Shape (store.pushSample key sample maxSamples) := by
  rw [apply, MetricsStore.pushSample]
  split
  · rename_i hmem
    refine ⟨fun key' => ?_, h.configs⟩
    rw [AList.mem_insert, h.mem_windows, or_iff_right_of_imp]
    rintro rfl
    exact (h.mem_windows _).1 hmem
  · refine ⟨fun key' => ?_, h.configs⟩
    rw [AList.mem_insert, AList.mem_insert, h.mem_windows]

lemma setMetricConfig (h : maps.Shape store) (metricName : String) (config : AggregationType) :
    (maps.apply (.setMetricConfig ⟨ns, epaName, metricName⟩ config)).Shape
      (store.setMetricConfig ns epaName metricName config) := by
  refine ⟨h.mem_windows, ?_⟩
  rw [apply, MetricsStore.setMetricConfig, h.configs]

lemma retainPodWindows (h : maps.Shape store) (activePods : List String) :
    (maps.apply (.retainPodWindows ns epaName activePods)).Shape
      (store.retainPodWindows ns epaName activePods).1 := by
  refine ⟨fun key => ?_, h.configs⟩
  rw [apply, MetricsStore.retainPodWindows, mem_retain, mem_retain, h.mem_windows]

lemma evictStaleWindows (h : maps.Shape store) (now maxAge : ℕ) :
    (maps.apply (.evictStaleWindows (store.staleKeys now maxAge))).Shape
      (store.evictStaleWindows now maxAge).1 := by
  refine ⟨fun key => ?_, h.configs⟩
  rw [apply, MetricsStore.evictStaleWindows, mem_foldl_erase, mem_foldl_erase, h.mem_windows]

/-- The sweeps of `remove_epa_windows`. -/
theorem sweepAll (h : maps.Shape store) :
    (StoreMap.all.foldl (fun maps m => maps.apply (.sweep m ns epaName)) maps).Shape
      (store.removeEpaWindows ns epaName) := by
  refine ⟨fun key => ?_, ?_⟩
  · show key ∈ retain _ maps.windows ↔ _
    rw [MetricsStore.removeEpaWindows, mem_retain, mem_retain, h.mem_windows]
  · rw [MetricsStore.removeEpaWindows, ← h.configs]
    rfl

end Shape

end StoreMaps

end ExternalPodAutoscaler.Store
