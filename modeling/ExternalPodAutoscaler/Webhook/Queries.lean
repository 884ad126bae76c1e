/-
Metric requests while samples are pushed (the local part of `get_external_metric` of
`webhook/metrics/handlers.rs`, `get_windows`, `get_cached` and `cache_result` of `store/ops.rs`,
`aggregate_metric`).

A request looks into the cache, iterates over the map of windows, which is locked one shard
after the other, asks for the aggregation, reads one window after the other under its lock, and
caches what it has computed.  No lock is held between these steps; `querySystem` interleaves
them in any order with each other, with the scrapes, with the evictions and removals of windows,
and with the cleanup of the cache.

The main results of this file are `answers_justified`: a computed answer is that of windows of
different pods, among them every window that was in the map all the time, each as it was at some
instant after the request came, and an answer from the cache was computed less than ten seconds
before the request came; and `cleanup_unnoticed`: no answer depends on the cleanup of the cache.
-/
import ExternalPodAutoscaler.Store.Cache
import ExternalPodAutoscaler.Store.ConcurrentEviction
import ExternalPodAutoscaler.Webhook.Aggregation

namespace ExternalPodAutoscaler.Webhook

open ExternalPodAutoscaler.Api ExternalPodAutoscaler.Lib ExternalPodAutoscaler.Store

/-- How a map is cut into shards. -/
structure Sharding (K : Type) where
  count : ℕ
  shardOf : K → Fin count

/-- The window of a pod of the metric. -/
def sampleKey (key : CacheKey) (podName : String) : SampleKey :=
  ⟨key.ns, key.epaName, key.metricName, podName⟩

/-- A window as `aggregate_metric` finds it under its lock. -/
structure Reading (V : Type) where
  podName : String
  window : ℕ
  content : MetricWindow V
  /-- How many calls of `push_sample` were completed by then. -/
  seen : ℕ
deriving DecidableEq

/-- What a request has read and aggregated. -/
structure Computation (V : Type) where
  key : CacheKey
  /-- How many calls of `push_sample` were completed when the request came. -/
  since : ℕ
  /-- The windows of the metric that stayed in the map until all shards were read. -/
  steady : List (String × ℕ)
  aggregation : AggregationType
  readings : List (Reading V)
  computedAt : ℕ
deriving DecidableEq

/-- How far a request has come. -/
inductive QueryStage (V : Type) where
  | arrived
  /-- `get_windows` has gone through some of the shards. -/
  | scanning (shard : ℕ) (found : List (String × ℕ))
  | configuring (found : List (String × ℕ))
  /-- `aggregate_metric` has some windows left. -/
  | reading (aggregation : AggregationType) (left : List (String × ℕ)) (readings : List (Reading V))
  | caching (c : Computation V) (value : V)
  | answered (answer : Except ApiError V)
deriving DecidableEq

/-- A request for a metric that is answered from the store. -/
structure Query (V : Type) where
  key : CacheKey
  arrivedAt : ℕ
  /-- How many calls of `push_sample` were completed when it came. -/
  since : ℕ
  /-- The windows of the metric that have been in the map since then. -/
  steady : List (String × ℕ)
  stage : QueryStage V

/-- The store, the requests, and what they have computed. -/
structure QueryWorld (V : Type) where
  store : SharedStore V
  configs : AList fun _ : CacheKey => AggregationType
  cache : ResultCache V
  queries : List (Query V)
  computed : List (Computation V)

inductive QueryEvent (V : Type) where
  /-- Time passes, a sample is pushed, or windows are evicted. -/
  | store (e : StoreEvent V)
  /-- `retain_pod_windows` or `remove_epa_windows` removes a window. -/
  | removeWindow (key : SampleKey)
  | setMetricConfig (key : CacheKey) (aggregation : AggregationType)
  /-- `remove_epa_windows` removes the aggregation of a metric. -/
  | removeConfig (key : CacheKey)
  /-- `remove_epa_windows` removes a cached value. -/
  | removeCached (key : CacheKey)
  /-- `cleanup_expired_cache` removes a value that has expired. -/
  | expire (key : CacheKey)
  | arrive (key : CacheKey)
  /-- A request takes its next step. -/
  | proceed (i : ℕ)

section Stores

variable {V : Type}

/-! ### What the store keeps -/

/-- Windows keep their keys, and calls and time are added. -/
structure Extends (s s' : SharedStore V) : Prop where
  window : ∀ (a : ℕ) (entry : SampleKey × MetricWindow V),
    s.windows[a]? = some entry → ∃ w, s'.windows[a]? = some (entry.1, w)
  pushed : s.pushed <+: s'.pushed
  now : s.now ≤ s'.now

/-- The store without the eviction under way is coherent: a removal may take a window out of the
map that an eviction has still to check. -/
def KeepsWindows (s : SharedStore V) : Prop := ({ s with pass := none } : SharedStore V).Coherent

variable {s s' : SharedStore V} {maxAge : ℕ}

lemma Extends.refl (s : SharedStore V) : Extends s s :=
  ⟨fun _ entry h => ⟨entry.2, h⟩, List.prefix_rfl, le_rfl⟩

/-- A step that leaves the windows and the calls alone. -/
lemma Extends.of_frame (hwindows : s'.windows = s.windows) (hpushed : s'.pushed = s.pushed)
    (hnow : s.now ≤ s'.now) : Extends s s' := by
  refine ⟨fun a entry h => ⟨entry.2, ?_⟩, ?_, hnow⟩
  · rw [hwindows, h]
  · rw [hpushed]

lemma extends_of_step {e : StoreEvent V} (hs : (sharedSystem V maxAge).step s e = some s') :
    Extends s s' := by
  cases e with
  | advance d =>
      obtain rfl := Option.some.inj hs
      exact .of_frame rfl rfl (Nat.le_add_right _ _)
  | lookup key sample maxSamples =>
      obtain rfl := Option.some.inj hs
      unfold SharedStore.lookup
      split
      · exact .of_frame rfl rfl le_rfl
      · exact ⟨fun a entry h => ⟨entry.2, getElem?_concat_of_some h _⟩, List.prefix_rfl, le_rfl⟩
  | push i =>
      obtain ⟨call, -, rfl⟩ := SharedStore.push_cases hs
      refine ⟨fun a entry h => ?_, List.prefix_append _ _, le_rfl⟩
      by_cases ha : call.window = a
      · exact ⟨_, by rw [getElem?_modify_of_some h, if_pos ha]⟩
      · exact ⟨entry.2, by rw [getElem?_modify_of_some h, if_neg ha]⟩
  | snapshot =>
      obtain ⟨-, rfl⟩ := SharedStore.snapshot_cases hs
      exact .of_frame rfl rfl le_rfl
  | check =>
      obtain ⟨_, _, _, _, -, rfl⟩ := SharedStore.check_cases hs
      exact .of_frame rfl rfl le_rfl
  | remove =>
      obtain ⟨_, _, -, rfl⟩ := SharedStore.remove_cases hs
      exact .of_frame rfl rfl le_rfl
  | finish =>
      obtain ⟨-, rfl⟩ := SharedStore.finish_cases hs
      exact .of_frame rfl rfl le_rfl

namespace KeepsWindows

/-- A step of the clock, of an eviction or of a removal. -/
lemma of_frame (h : KeepsWindows s) (hwindows : s'.windows = s.windows)
    (hpending : s'.pending = s.pending) (hpushed : s'.pushed = s.pushed)
    (harcs : ∀ key a, s'.arcs.lookup key = some a → s.arcs.lookup key = some a)
    (hended : ∀ t, s'.evictedAt = some t → t ≤ s'.now) : KeepsWindows s' :=
  SharedStore.Coherent.of_frame h hwindows hpending hpushed harcs (by rintro _ ⟨⟩) hended

lemma step {e : StoreEvent V} (h : KeepsWindows s)
    (hs : (sharedSystem V maxAge).step s e = some s') : KeepsWindows s' := by
  cases e with
  | advance d =>
      obtain rfl := Option.some.inj hs
      exact h.of_frame rfl rfl rfl (fun _ _ ha => ha)
        fun t ht => Nat.le_add_right_of_le (h.ended_le t ht)
  | lookup key sample maxSamples =>
      obtain rfl := Option.some.inj hs
      have hpass : ({ s with pass := none } : SharedStore V).lookup key sample maxSamples =
          { s.lookup key sample maxSamples with pass := none } := by
        unfold SharedStore.lookup
        rcases s.arcs.lookup key with _ | a <;> rfl
      rw [KeepsWindows, ← hpass]
      exact SharedStore.Coherent.lookup h key sample maxSamples
  | push i =>
      obtain ⟨call, hcall, rfl⟩ := SharedStore.push_cases hs
      refine SharedStore.Coherent.push h (i := i) ?_
      rw [SharedStore.push, hcall]
      rfl
  | snapshot =>
      obtain ⟨-, rfl⟩ := SharedStore.snapshot_cases hs
      exact h
  | check =>
      obtain ⟨_, _, _, _, -, rfl⟩ := SharedStore.check_cases hs
      exact h
  | remove =>
      obtain ⟨_, _, -, rfl⟩ := SharedStore.remove_cases hs
      exact h.of_frame rfl rfl rfl (fun _ _ ha => (lookup_erase_eq_some_iff.1 ha).2) h.ended_le
  | finish =>
      obtain ⟨-, rfl⟩ := SharedStore.finish_cases hs
      refine h.of_frame rfl rfl rfl (fun _ _ ha => ha) ?_
      rintro _ ⟨⟩
      exact le_rfl

end KeepsWindows

/-! ### What a request has found -/

/-- The window was created for the pod and the metric. -/
def IsWindowOf (s : SharedStore V) (key : CacheKey) (x : String × ℕ) : Prop :=
  ∃ w, s.windows[x.2]? = some (sampleKey key x.1, w)

/-- Windows of the metric for different pods, and the steady ones are among them. -/
structure Covers (s : SharedStore V) (key : CacheKey) (steady found : List (String × ℕ)) :
    Prop where
  distinct : (found.map Prod.fst).Nodup
  owned : ∀ x ∈ found, IsWindowOf s key x
  steady : ∀ x ∈ steady, x ∈ found

/-- The pod and the window that was read. -/
def Reading.handle (r : Reading V) : String × ℕ := (r.podName, r.window)

/-- The window was read as the calls completed by then have left it, and those that were
completed before the request came are among them. -/
def Reading.IsExact (s : SharedStore V) (since : ℕ) (r : Reading V) : Prop :=
  since ≤ r.seen ∧ r.seen ≤ s.pushed.length ∧
    r.content = (((s.pushed.take r.seen).filter (·.window = r.window)).map
      PushCall.sample).foldl MetricWindow.push (.new r.content.maxSamples)

/-- Each pod is counted once, no window that stayed in the map is left out, and what is
aggregated has been in the windows. -/
structure Computation.Sound (s : SharedStore V) (c : Computation V) : Prop where
  covers : Covers s c.key c.steady (c.readings.map Reading.handle)
  consistent : ∀ r ∈ c.readings, r.IsExact s c.since

lemma IsWindowOf.extend {key : CacheKey} {x : String × ℕ} (h : IsWindowOf s key x)
    (hext : Extends s s') : IsWindowOf s' key x := by
  obtain ⟨w, hw⟩ := h
  exact hext.window _ _ hw

namespace Covers

variable {key : CacheKey} {steady steady' found : List (String × ℕ)}

lemma extend (h : Covers s key steady found) (hext : Extends s s')
    (hsteady : ∀ x ∈ steady', x ∈ steady) : Covers s' key steady' found :=
  ⟨h.distinct, fun x hx => (h.owned x hx).extend hext, fun x hx => h.steady x (hsteady x hx)⟩

/-- No window has been found, so none has stayed in the map. -/
lemma steady_eq_nil (h : Covers s key steady []) : steady = [] :=
  List.eq_nil_iff_forall_not_mem.2 fun x hx => List.not_mem_nil (h.steady x hx)

end Covers

lemma Reading.IsExact.extend {since : ℕ} {r : Reading V} (h : r.IsExact s since)
    (hext : Extends s s') : r.IsExact s' since := by
  obtain ⟨hsince, hseen, hcontent⟩ := h
  obtain ⟨more, hmore⟩ := hext.pushed
  refine ⟨hsince, hseen.trans hext.pushed.length_le, ?_⟩
  rw [← hmore, List.take_append_of_le_length hseen]
  exact hcontent

lemma Computation.Sound.extend {c : Computation V} (h : c.Sound s) (hext : Extends s s') :
    c.Sound s' :=
  ⟨h.covers.extend hext fun _ hx => hx, fun r hr => (h.consistent r hr).extend hext⟩

/-- A window that is read now. -/
lemma isExact_of_read (h : KeepsWindows s) {x : String × ℕ} {entry : SampleKey × MetricWindow V}
    (hentry : s.windows[x.2]? = some entry) {since : ℕ} (hsince : since ≤ s.pushed.length) :
    (⟨x.1, x.2, entry.2, s.pushed.length⟩ : Reading V).IsExact s since := by
  refine ⟨hsince, le_rfl, ?_⟩
  rw [List.take_length]
  exact h.contents _ _ hentry

/-- There is at most one window for each pod. -/
lemma nodup_getWindows (s : SharedStore V) (key : CacheKey) :
    ((s.getWindows key.ns key.epaName key.metricName).map Prod.fst).Nodup := by
  have hpods : (s.getWindows key.ns key.epaName key.metricName).map Prod.fst =
      s.arcs.keys.filterMap fun k =>
        if k.ns = key.ns ∧ k.epaName = key.epaName ∧ k.metricName = key.metricName then
          some k.podName
        else none := by
    rw [SharedStore.getWindows, List.map_filterMap, AList.keys, List.keys, List.filterMap_map]
    refine List.filterMap_congr fun entry _ => ?_
    simp only [Function.comp_apply]
    split <;> rfl
  rw [hpods]
  refine s.arcs.keys_nodup.filterMap ?_
  rintro ⟨ns₁, epa₁, metric₁, pod₁⟩ ⟨ns₂, epa₂, metric₂, pod₂⟩ podName h₁ h₂
  -- keys with the same metric and the same pod are the same
  simp only [Option.mem_def, Option.ite_none_right_eq_some, Option.some.injEq] at h₁ h₂
  obtain ⟨⟨rfl, rfl, rfl⟩, rfl⟩ := h₁
  obtain ⟨⟨rfl, rfl, rfl⟩, rfl⟩ := h₂
  rfl

end Stores

section Queries

variable {V : Type} [Field V] [LinearOrder V]

namespace Computation

/-- The aggregated value, and how many pods have contributed to it. -/
def aggregated (c : Computation V) : V × ℕ :=
  aggregateMetric (c.readings.map fun r => (r.podName, r.content)) c.aggregation

/-- What the request is answered. -/
def answer (c : Computation V) : Except ApiError V :=
  if c.aggregated.2 = 0 then
    .error (.metricUnavailable s!"no contributing pods for metric {c.key.metricName}")
  else .ok c.aggregated.1

end Computation

namespace Query

/-- The request has still shards to read. -/
def isLooking (q : Query V) : Bool :=
  match q.stage with
  | .arrived | .scanning _ _ => true
  | _ => false

/-- The windows that are not in the map any more are not steady. -/
def forget (arcs : AList fun _ : SampleKey => ℕ) (q : Query V) : Query V :=
  if q.isLooking then
    { q with steady := q.steady.filter fun x => arcs.lookup (sampleKey q.key x.1) = some x.2 }
  else q

end Query

namespace QueryWorld

/-- A store and no request. -/
def new : QueryWorld V := ⟨.new, ∅, ∅, [], []⟩

/-- The world with another store. -/
def withStore (w : QueryWorld V) (store : SharedStore V) : QueryWorld V :=
  { w with store := store, queries := w.queries.map (Query.forget store.arcs) }

/-- The world after a step of a request. -/
def setStage (w : QueryWorld V) (i : ℕ) (stage : QueryStage V) : QueryWorld V :=
  { w with queries := w.queries.modify i fun q => { q with stage := stage } }

/-- A request for a metric comes. -/
def arrive (w : QueryWorld V) (key : CacheKey) : QueryWorld V :=
  { w with
    queries := w.queries ++ [⟨key, w.store.now, w.store.pushed.length,
      w.store.getWindows key.ns key.epaName key.metricName, .arrived⟩] }

/-- The windows of a metric in one of the shards. -/
def shard (shards : Sharding SampleKey) (w : QueryWorld V) (n : ℕ) (key : CacheKey) :
    List (String × ℕ) :=
  (w.store.getWindows key.ns key.epaName key.metricName).filter fun x =>
    (shards.shardOf (sampleKey key x.1)).val = n

/-- The next step of a request. -/
def proceed (shards : Sharding SampleKey) (w : QueryWorld V) (i : ℕ) : Option (QueryWorld V) :=
  w.queries[i]?.bind fun q =>
    match q.stage with
    | .arrived =>
      match w.cache.getCached w.store.now q.key with
      | some value => some (w.setStage i (.answered (.ok value)))
      | none => some (w.setStage i (.scanning 0 []))
    | .scanning n found =>
      if n < shards.count then
        some (w.setStage i (.scanning (n + 1) (found ++ w.shard shards n q.key)))
      else if found.isEmpty then
        some (w.setStage i (.answered (.error (.metricUnavailable
          s!"no metric data available for {q.key.metricName}"))))
      else some (w.setStage i (.configuring found))
    | .configuring found =>
      some (w.setStage i (.reading ((w.configs.lookup q.key).getD .avg) found []))
    | .reading aggregation (x :: left) readings =>
      w.store.windows[x.2]?.map fun entry =>
        w.setStage i (.reading aggregation left
          (readings ++ [⟨x.1, x.2, entry.2, w.store.pushed.length⟩]))
    | .reading aggregation [] readings =>
      let c := ⟨q.key, q.since, q.steady, aggregation, readings, w.store.now⟩
      let w := { w with computed := w.computed ++ [c] }
      match c.answer with
      | .ok value => some (w.setStage i (.caching c value))
      | .error e => some (w.setStage i (.answered (.error e)))
    | .caching c value =>
      let w := { w with cache := w.cache.cacheResult c.computedAt q.key value (secs 10) }
      some (w.setStage i (.answered (.ok value)))
    | .answered _ => none

end QueryWorld

/-- Requests, pushes, evictions, removals and cleanups in any order, from an empty store. -/
def querySystem (V : Type) [Field V] [LinearOrder V] (maxAge : ℕ) (shards : Sharding SampleKey) :
    System (QueryWorld V) (QueryEvent V) where
  init w := w = .new
  step w
    | .store e => ((sharedSystem V maxAge).step w.store e).map w.withStore
    | .removeWindow key =>
      some (w.withStore { w.store with arcs := w.store.arcs.erase key })
    | .setMetricConfig key aggregation =>
      some { w with configs := w.configs.insert key aggregation }
    | .removeConfig key => some { w with configs := w.configs.erase key }
    | .removeCached key => some { w with cache := w.cache.erase key }
    | .expire key =>
      if w.cache.getCached w.store.now key = none then
        some { w with cache := w.cache.erase key }
      else none
    | .arrive key => some (w.arrive key)
    | .proceed i => w.proceed shards i

/-! ### What is known about a request -/

namespace QueryWorld

/-- What an answer is based on: no window of the metric has stayed in the map, or the answer is
that of a computation for the metric, by the request itself or by one that came when at least as
many calls were completed and was computed after the request came, or by one whose value was
computed less than ten seconds before the request came. -/
def Justifies (w : QueryWorld V) (q : Query V) (answer : Except ApiError V) : Prop :=
  (q.steady = [] ∧
    answer = .error (.metricUnavailable s!"no metric data available for {q.key.metricName}")) ∨
  ∃ c ∈ w.computed, c.key = q.key ∧ c.answer = answer ∧ c.Sound w.store ∧
    (q.since ≤ c.since ∧ q.arrivedAt ≤ c.computedAt ∨
      answer.isOk = true ∧ elapsed q.arrivedAt c.computedAt < secs 10)

/-- What is known about a request at each stage. -/
def Knows (shards : Sharding SampleKey) (w : QueryWorld V) (q : Query V) : Prop :=
  match q.stage with
  | .arrived => True
  | .scanning n found =>
    Covers w.store q.key (q.steady.filter fun x => (shards.shardOf (sampleKey q.key x.1)).val < n)
      found ∧
    ∀ x ∈ found, (shards.shardOf (sampleKey q.key x.1)).val < n
  | .configuring found => Covers w.store q.key q.steady found
  | .reading _ left readings =>
    Covers w.store q.key q.steady (readings.map Reading.handle ++ left) ∧
      ∀ r ∈ readings, r.IsExact w.store q.since
  | .caching c value =>
    c ∈ w.computed ∧ c.key = q.key ∧ c.answer = .ok value ∧ q.since ≤ c.since ∧
      q.arrivedAt ≤ c.computedAt
  | .answered answer => w.Justifies q answer

/-- The invariant of one request. -/
structure Good (shards : Sharding SampleKey) (w : QueryWorld V) (q : Query V) : Prop where
  since_le : q.since ≤ w.store.pushed.length
  arrivedAt_le : q.arrivedAt ≤ w.store.now
  present : q.isLooking = true → ∀ x ∈ q.steady,
    w.store.arcs.lookup (sampleKey q.key x.1) = some x.2
  knows : w.Knows shards q

/-- The invariant of the world. -/
structure Sound (shards : Sharding SampleKey) (w : QueryWorld V) : Prop where
  store : KeepsWindows w.store
  queries : ∀ q ∈ w.queries, w.Good shards q
  computed : ∀ c ∈ w.computed, c.Sound w.store
  cached : ∀ key cached, w.cache.lookup key = some cached → cached.ttl = secs 10 ∧
    ∃ c ∈ w.computed, c.key = key ∧ c.answer = .ok cached.value ∧ c.computedAt = cached.computedAt

variable {shards : Sharding SampleKey} {w w' : QueryWorld V} {q : Query V} {maxAge : ℕ}

lemma Justifies.extend {answer : Except ApiError V} (h : w.Justifies q answer)
    (hext : Extends w.store w'.store) (hcomputed : ∀ c ∈ w.computed, c ∈ w'.computed) :
    w'.Justifies q answer := by
  rcases h with hnone | ⟨c, hc, hkey, hanswer, hsound, hfresh⟩
  · exact Or.inl hnone
  · exact Or.inr ⟨c, hcomputed c hc, hkey, hanswer, hsound.extend hext, hfresh⟩

/-- A step that leaves the request alone. -/
lemma Good.extend (h : w.Good shards q) (hext : Extends w.store w'.store)
    (hcomputed : ∀ c ∈ w.computed, c ∈ w'.computed)
    (hpresent : q.isLooking = true → ∀ x ∈ q.steady,
      w'.store.arcs.lookup (sampleKey q.key x.1) = some x.2) : w'.Good shards q := by
  refine ⟨h.since_le.trans hext.pushed.length_le, h.arrivedAt_le.trans hext.now, hpresent, ?_⟩
  have hknows := h.knows
  unfold Knows at hknows ⊢
  split at hknows
  · trivial
  · exact ⟨hknows.1.extend hext fun _ hx => hx, hknows.2⟩
  · exact hknows.extend hext fun _ hx => hx
  · exact ⟨hknows.1.extend hext fun _ hx => hx, fun r hr => (hknows.2 r hr).extend hext⟩
  · exact ⟨hcomputed _ hknows.1, hknows.2⟩
  · exact Justifies.extend hknows hext hcomputed

/-- Windows that have left the map are forgotten. -/
lemma Good.forget (h : w.Good shards q) (store : SharedStore V) (hext : Extends w.store store) :
    (w.withStore store).Good shards (q.forget store.arcs) := by
  rcases hlooking : q.isLooking with _ | _
  · rw [Query.forget, hlooking]
    exact h.extend hext (fun _ hc => hc) fun habs => absurd (hlooking.symm.trans habs) (by simp)
  · rw [Query.forget, hlooking, if_pos rfl]
    refine ⟨h.since_le.trans hext.pushed.length_le, h.arrivedAt_le.trans hext.now, ?_, ?_⟩
    · intro _ x hx
      exact of_decide_eq_true (List.mem_filter.1 hx).2
    · have hknows := h.knows
      unfold Knows at hknows ⊢
      rcases hstage : q.stage with _ | ⟨n, found⟩ | _ | _ | _ | _ <;>
        simp only [Query.isLooking, hstage, Bool.false_eq_true] at hlooking
      · trivial
      · rw [hstage] at hknows
        refine ⟨hknows.1.extend hext fun x hx => ?_, hknows.2⟩
        obtain ⟨hmem, hshard⟩ := List.mem_filter.1 hx
        exact List.mem_filter.2 ⟨(List.mem_filter.1 hmem).1, hshard⟩

end QueryWorld

/-! ### The steps keep the invariant -/

namespace QueryWorld

variable {shards : Sharding SampleKey} {w w' : QueryWorld V} {q : Query V} {maxAge i : ℕ}

namespace Sound

/-- A step of the store. -/
lemma withStore (h : w.Sound shards) {store : SharedStore V} (hstore : KeepsWindows store)
    (hext : Extends w.store store) : (w.withStore store).Sound shards := by
  refine ⟨hstore, fun q' hq' => ?_, fun c hc => (h.computed c hc).extend hext, h.cached⟩
  obtain ⟨q, hq, rfl⟩ := List.mem_map.1 hq'
  exact (h.queries q hq).forget store hext

/-- A step that leaves the requests alone. -/
lemma of_frame (h : w.Sound shards) (hstore : w'.store = w.store)
    (hqueries : w'.queries = w.queries)
    (hcomputed : ∀ c ∈ w.computed, c ∈ w'.computed) (hsound : ∀ c ∈ w'.computed, c.Sound w.store)
    (hcached : ∀ key cached, w'.cache.lookup key = some cached → cached.ttl = secs 10 ∧
      ∃ c ∈ w'.computed, c.key = key ∧ c.answer = .ok cached.value ∧
        c.computedAt = cached.computedAt) : w'.Sound shards := by
  refine ⟨hstore ▸ h.store, fun q hq => ?_, hstore ▸ hsound, hcached⟩
  have hgood := h.queries q (hqueries ▸ hq)
  refine hgood.extend (hstore ▸ Extends.refl _) hcomputed ?_
  rw [hstore]
  exact hgood.present

/-- A cached value is removed. -/
lemma erase (h : w.Sound shards) (key : CacheKey) :
    ({ w with cache := w.cache.erase key } : QueryWorld V).Sound shards :=
  h.of_frame rfl rfl (fun _ hc => hc) h.computed fun key' cached hcached =>
    h.cached key' cached (lookup_erase_eq_some_iff.1 hcached).2

/-- A request has computed its value. -/
lemma compute (h : w.Sound shards) {c : Computation V} (hc : c.Sound w.store) :
    ({ w with computed := w.computed ++ [c] } : QueryWorld V).Sound shards := by
  refine h.of_frame rfl rfl (fun c' hc' => List.mem_append_left _ hc') ?_ ?_
  · intro c' hc'
    rcases List.mem_append.1 hc' with hc' | hc'
    · exact h.computed c' hc'
    · rw [List.mem_singleton.1 hc']
      exact hc
  · intro key cached hcached
    obtain ⟨httl, c', hc', hrest⟩ := h.cached key cached hcached
    exact ⟨httl, c', List.mem_append_left _ hc', hrest⟩

/-- A request has cached its value. -/
lemma cacheResult (h : w.Sound shards) {c : Computation V} {value : V} (hc : c ∈ w.computed)
    (hanswer : c.answer = .ok value) :
    ({ w with cache := w.cache.cacheResult c.computedAt c.key value (secs 10) } :
      QueryWorld V).Sound shards := by
  refine h.of_frame rfl rfl (fun _ hc' => hc') h.computed fun key cached hcached => ?_
  rcases lookup_insert_eq_some_iff.1 hcached with ⟨rfl, rfl⟩ | ⟨-, hcached⟩
  · exact ⟨rfl, c, hc, rfl, hanswer, rfl⟩
  · exact h.cached key cached hcached

/-- A request goes on to its next stage. -/
lemma setStage (h : w.Sound shards) {stage : QueryStage V} (hq : w.queries[i]? = some q)
    (hlooking : ({ q with stage := stage } : Query V).isLooking = true → q.isLooking = true)
    (hknows : w.Knows shards { q with stage := stage }) : (w.setStage i stage).Sound shards := by
  refine ⟨h.store, fun q' hq' => ?_, h.computed, h.cached⟩
  obtain ⟨j, hj⟩ := List.mem_iff_getElem?.1 hq'
  rcases getElem?_modify_cases hj with ⟨rfl, old, hold, rfl⟩ | ⟨-, hold⟩
  · obtain rfl := Option.some.inj (hq.symm.trans hold)
    have hgood := h.queries q (List.mem_of_getElem? hq)
    exact ⟨hgood.since_le, hgood.arrivedAt_le, fun hlook => hgood.present (hlooking hlook), hknows⟩
  · exact (h.queries q' (List.mem_of_getElem? hold)).extend (Extends.refl _) (fun _ hc => hc)
      (h.queries q' (List.mem_of_getElem? hold)).present

/-- A request comes. -/
lemma arrive (h : w.Sound shards) (key : CacheKey) : (w.arrive key).Sound shards := by
  refine ⟨h.store, fun q hq => ?_, h.computed, h.cached⟩
  rcases List.mem_append.1 hq with hq | hq
  · exact (h.queries q hq).extend (Extends.refl _) (fun _ hc => hc) (h.queries q hq).present
  · rw [List.mem_singleton.1 hq]
    exact ⟨le_rfl, le_rfl, fun _ x hx => SharedStore.mem_getWindows.1 hx, trivial⟩

end Sound

/-- The windows of one more shard. -/
lemma Good.scan (h : w.Good shards q) (hstore : KeepsWindows w.store) {n : ℕ}
    {found : List (String × ℕ)} (hstage : q.stage = .scanning n found) :
    w.Knows shards { q with stage := .scanning (n + 1) (found ++ w.shard shards n q.key) } := by
  have hknows := h.knows
  simp only [Knows, hstage] at hknows
  obtain ⟨hcovers, hbelow⟩ := hknows
  have hnew : ∀ x ∈ w.shard shards n q.key, w.store.arcs.lookup (sampleKey q.key x.1) = some x.2 ∧
      (shards.shardOf (sampleKey q.key x.1)).val = n := by
    intro x hx
    obtain ⟨hmem, hshard⟩ := List.mem_filter.1 hx
    exact ⟨SharedStore.mem_getWindows.1 hmem, of_decide_eq_true hshard⟩
  refine ⟨⟨?_, ?_, ?_⟩, ?_⟩
  · -- a pod that has been found is of an earlier shard
    rw [List.map_append, List.nodup_append]
    refine ⟨hcovers.distinct, ?_, ?_⟩
    · exact (nodup_getWindows w.store q.key).sublist (List.filter_sublist.map _)
    · rintro podName hold _ hnew' rfl
      obtain ⟨x, hx, rfl⟩ := List.mem_map.1 hold
      obtain ⟨y, hy, hxy⟩ := List.mem_map.1 hnew'
      have hlt := hbelow x hx
      have heq := (hnew y hy).2
      rw [hxy] at heq
      omega
  · intro x hx
    rcases List.mem_append.1 hx with hx | hx
    · exact hcovers.owned x hx
    · exact hstore.owner _ _ (hnew x hx).1
  · intro x hx
    obtain ⟨hsteady, hshard⟩ := List.mem_filter.1 hx
    have hshard : (shards.shardOf (sampleKey q.key x.1)).val < n + 1 := of_decide_eq_true hshard
    rcases Nat.lt_succ_iff_lt_or_eq.1 hshard with hlt | heq
    · exact List.mem_append_left _
        (hcovers.steady x (List.mem_filter.2 ⟨hsteady, decide_eq_true hlt⟩))
    · have hlooking : q.isLooking = true := by rw [Query.isLooking, hstage]
      have harc := h.present hlooking x hsteady
      exact List.mem_append_right _
        (List.mem_filter.2 ⟨SharedStore.mem_getWindows.2 harc, decide_eq_true heq⟩)
  · intro x hx
    rcases List.mem_append.1 hx with hx | hx
    · exact Nat.lt_succ_of_lt (hbelow x hx)
    · exact Nat.lt_succ_of_le (hnew x hx).2.le

/-- All shards have been read. -/
lemma Good.covers (h : w.Good shards q) {n : ℕ} {found : List (String × ℕ)}
    (hstage : q.stage = .scanning n found) (hn : ¬ n < shards.count) :
    Covers w.store q.key q.steady found := by
  have hknows := h.knows
  simp only [Knows, hstage] at hknows
  refine hknows.1.extend (Extends.refl _) fun x hx => List.mem_filter.2 ⟨hx, decide_eq_true ?_⟩
  exact (shards.shardOf (sampleKey q.key x.1)).isLt.trans_le (Nat.le_of_not_lt hn)

end QueryWorld

namespace QueryWorld

variable {shards : Sharding SampleKey} {w w' : QueryWorld V} {q : Query V} {maxAge i : ℕ}

/-- The answer from the cache. -/
lemma Sound.knows_cached (h : w.Sound shards) (hgood : w.Good shards q) {value : V}
    (hcached : w.cache.getCached w.store.now q.key = some value) :
    w.Justifies q (.ok value) := by
  obtain ⟨cached, hlookup, hvalid, rfl⟩ := ResultCache.getCached_eq_some_iff.1 hcached
  obtain ⟨httl, c, hc, hkey, hanswer, hat⟩ := h.cached q.key cached hlookup
  refine Or.inr ⟨c, hc, hkey, hanswer, h.computed c hc, Or.inr ⟨rfl, ?_⟩⟩
  have harrived := hgood.arrivedAt_le
  rw [httl, ← hat] at hvalid
  simp only [elapsed] at hvalid ⊢
  omega

/-- A request takes a step. -/
lemma Sound.proceed (h : w.Sound shards) (hs : w.proceed shards i = some w') :
    w'.Sound shards := by
  obtain ⟨q, hq, hs⟩ := Option.bind_eq_some_iff.1 hs
  have hgood := h.queries q (List.mem_of_getElem? hq)
  have hknows := hgood.knows
  unfold Knows at hknows
  rcases hstage : q.stage with _ | ⟨n, found⟩ | found | ⟨aggregation, left, readings⟩ |
    ⟨c, value⟩ | answer <;> simp only [hstage] at hs hknows
  case arrived =>
    rcases hcached : w.cache.getCached w.store.now q.key with _ | value <;>
      simp only [hcached, Option.some.injEq] at hs <;> subst hs
    · refine h.setStage hq (fun _ => by rw [Query.isLooking, hstage]) ⟨⟨?_, ?_, ?_⟩, ?_⟩
      · exact List.nodup_nil
      · simp
      · simp
      · simp
    · exact h.setStage hq (by simp [Query.isLooking]) (h.knows_cached hgood hcached)
  case scanning =>
    by_cases hn : n < shards.count
    · rw [if_pos hn, Option.some.injEq] at hs
      subst hs
      exact h.setStage hq (fun _ => by rw [Query.isLooking, hstage]) (hgood.scan h.store hstage)
    · have hcovers := hgood.covers hstage hn
      rw [if_neg hn] at hs
      rcases found with _ | ⟨x, found⟩ <;>
        simp only [List.isEmpty_nil, List.isEmpty_cons, Bool.false_eq_true, if_true, if_false,
          Option.some.injEq] at hs <;> subst hs
      · exact h.setStage hq (by simp [Query.isLooking]) (Or.inl ⟨hcovers.steady_eq_nil, rfl⟩)
      · exact h.setStage hq (by simp [Query.isLooking]) hcovers
  case configuring =>
    obtain rfl := Option.some.inj hs
    exact h.setStage hq (by simp [Query.isLooking]) ⟨hknows, by simp⟩
  case reading =>
    obtain ⟨hcovers, hexact⟩ := hknows
    rcases left with _ | ⟨x, left⟩
    · have hsound : Computation.Sound w.store
          ⟨q.key, q.since, q.steady, aggregation, readings, w.store.now⟩ :=
        ⟨by rwa [List.append_nil] at hcovers, hexact⟩
      rcases hanswer : (⟨q.key, q.since, q.steady, aggregation, readings, w.store.now⟩ :
        Computation V).answer with e | value <;>
        simp only [hanswer, Option.some.injEq] at hs <;> subst hs
      · refine (h.compute hsound).setStage hq (by simp [Query.isLooking]) ?_
        exact Or.inr ⟨_, List.mem_append_right _ List.mem_cons_self, rfl, hanswer, hsound,
          Or.inl ⟨le_rfl, hgood.arrivedAt_le⟩⟩
      · refine (h.compute hsound).setStage hq (by simp [Query.isLooking]) ?_
        exact ⟨List.mem_append_right _ List.mem_cons_self, rfl, hanswer, le_rfl,
          hgood.arrivedAt_le⟩
    · obtain ⟨entry, hentry, rfl⟩ := Option.map_eq_some_iff.1 hs
      refine h.setStage hq (by simp [Query.isLooking]) ⟨?_, ?_⟩
      · rw [List.map_append, List.append_assoc]
        exact hcovers
      · intro r hr
        rcases List.mem_append.1 hr with hr | hr
        · exact hexact r hr
        · rw [List.mem_singleton.1 hr]
          exact isExact_of_read h.store hentry hgood.since_le
  case caching =>
    obtain ⟨hc, hkey, hanswer, hsince⟩ := hknows
    obtain rfl := Option.some.inj hs
    rw [← hkey]
    refine (h.cacheResult hc hanswer).setStage hq (by simp [Query.isLooking]) ?_
    exact Or.inr ⟨c, hc, hkey, hanswer, h.computed c hc, Or.inl hsince⟩
  case answered => cases hs

lemma Sound.step {e : QueryEvent V} (h : w.Sound shards)
    (hs : (querySystem V maxAge shards).step w e = some w') : w'.Sound shards := by
  cases e with
  | store e =>
      obtain ⟨store, hstore, rfl⟩ := Option.map_eq_some_iff.1 hs
      exact h.withStore (h.store.step hstore) (extends_of_step hstore)
  | removeWindow key =>
      obtain rfl := Option.some.inj hs
      refine h.withStore ?_ (.of_frame rfl rfl le_rfl)
      exact h.store.of_frame rfl rfl rfl (fun _ _ ha => (lookup_erase_eq_some_iff.1 ha).2)
        h.store.ended_le
  | setMetricConfig key aggregation =>
      obtain rfl := Option.some.inj hs
      exact h.of_frame rfl rfl (fun _ hc => hc) h.computed h.cached
  | removeConfig key =>
      obtain rfl := Option.some.inj hs
      exact h.of_frame rfl rfl (fun _ hc => hc) h.computed h.cached
  | removeCached key =>
      obtain rfl := Option.some.inj hs
      exact h.erase key
  | expire key =>
      obtain ⟨-, hs⟩ := Option.ite_none_right_eq_some.1 hs
      obtain rfl := Option.some.inj hs
      exact h.erase key
  | arrive key =>
      obtain rfl := Option.some.inj hs
      exact h.arrive key
  | proceed i => exact h.proceed hs

lemma Sound.of_reachable {ok : QueryWorld V → QueryEvent V → Prop}
    (h : (querySystem V maxAge shards).Reachable ok w) : w.Sound shards := by
  refine h.invariant ?_ fun s e s' hI _ hs => hI.step hs
  rintro w rfl
  refine ⟨SharedStore.Coherent.new, ?_, ?_, ?_⟩
  · simp [QueryWorld.new]
  · simp [QueryWorld.new]
  · rintro key cached ⟨⟩

end QueryWorld

/-- The event is part of a cleanup of the cache. -/
def QueryEvent.isCleanup : QueryEvent V → Bool
  | .expire _ => true
  | _ => false

/-- The worlds differ in cached values that have expired. -/
structure SameButExpired (w w' : QueryWorld V) : Prop where
  rest : w' = { w with cache := w'.cache }
  cache : (CachedAggregation.expiring V).AgreeFrom w.store.now w.cache w'.cache

namespace SameButExpired

variable {shards : Sharding SampleKey} {w w' w₁ : QueryWorld V} {maxAge i : ℕ}

omit [Field V] [LinearOrder V] in
lemma of_cache {cache : ResultCache V}
    (hcache : (CachedAggregation.expiring V).AgreeFrom w.store.now w.cache cache) :
    SameButExpired w { w with cache := cache } := ⟨rfl, hcache⟩

omit [Field V] [LinearOrder V] in
lemma getCached_eq (h : SameButExpired w w') {later : ℕ} (hle : w.store.now ≤ later)
    (key : CacheKey) : w'.cache.getCached later key = w.cache.getCached later key := by
  rw [ResultCache.getCached_eq, ResultCache.getCached_eq, h.cache later key hle]

/-- The worlds take the same step of a request. -/
lemma proceed (h : SameButExpired w w') (hs : w.proceed shards i = some w₁) :
    ∃ w₁', w'.proceed shards i = some w₁' ∧ SameButExpired w₁ w₁' := by
  obtain ⟨hrest, hcache⟩ := h
  generalize w'.cache = cache at hrest hcache
  subst hrest
  obtain ⟨q, hq, hs⟩ := Option.bind_eq_some_iff.1 hs
  rw [QueryWorld.proceed, hq, Option.bind_some]
  rcases hstage : q.stage with _ | ⟨n, found⟩ | found | ⟨aggregation, left, readings⟩ |
    ⟨c, value⟩ | answer <;> simp only [hstage] at hs ⊢
  case arrived =>
    have hread := (of_cache hcache).getCached_eq le_rfl q.key
    simp only [hread]
    split at hs <;> obtain rfl := Option.some.inj hs <;> exact ⟨_, rfl, of_cache hcache⟩
  case scanning =>
    by_cases hn : n < shards.count
    · rw [if_pos hn] at hs ⊢
      obtain rfl := Option.some.inj hs
      exact ⟨_, rfl, of_cache hcache⟩
    · rw [if_neg hn] at hs ⊢
      rcases found with _ | ⟨x, found⟩ <;> obtain rfl := Option.some.inj hs <;>
        exact ⟨_, rfl, of_cache hcache⟩
  case configuring =>
    obtain rfl := Option.some.inj hs
    exact ⟨_, rfl, of_cache hcache⟩
  case reading =>
    rcases left with _ | ⟨x, left⟩
    · simp only at hs ⊢
      split at hs <;> obtain rfl := Option.some.inj hs <;> exact ⟨_, rfl, of_cache hcache⟩
    · obtain ⟨entry, hentry, rfl⟩ := Option.map_eq_some_iff.1 hs
      exact ⟨_, Option.map_eq_some_iff.2 ⟨entry, hentry, rfl⟩, of_cache hcache⟩
  case caching =>
    obtain rfl := Option.some.inj hs
    exact ⟨_, rfl, of_cache (hcache.insert _ _)⟩
  case answered => cases hs

/-- A step of the cleanup is not noticed. -/
lemma cleanup (h : SameButExpired w w') {e : QueryEvent V} (he : e.isCleanup = true)
    (hs : (querySystem V maxAge shards).step w e = some w₁) : SameButExpired w₁ w' := by
  cases e <;> simp only [QueryEvent.isCleanup, Bool.false_eq_true] at he
  case expire key =>
    obtain ⟨hnone, hs⟩ := Option.ite_none_right_eq_some.1 hs
    obtain rfl := Option.some.inj hs
    have hread : (CachedAggregation.expiring V).readAt w.store.now w.cache key = none := by
      rwa [ResultCache.getCached_eq, Option.map_eq_none_iff] at hnone
    exact ⟨h.rest, (Expiring.AgreeFrom.erase_expired hread).trans h.cache⟩

/-- The worlds take the same step. -/
lemma step (h : SameButExpired w w') {e : QueryEvent V} (he : e.isCleanup = false)
    (hs : (querySystem V maxAge shards).step w e = some w₁) :
    ∃ w₁', (querySystem V maxAge shards).step w' e = some w₁' ∧ SameButExpired w₁ w₁' := by
  cases e with
  | proceed i => exact h.proceed hs
  | expire key => cases he
  | store e =>
      obtain ⟨store, hstore, rfl⟩ := Option.map_eq_some_iff.1 hs
      obtain ⟨hrest, hcache⟩ := h
      generalize w'.cache = cache at hrest hcache
      subst hrest
      exact ⟨_, Option.map_eq_some_iff.2 ⟨store, hstore, rfl⟩,
        of_cache (hcache.of_le (extends_of_step hstore).now)⟩
  | removeWindow key | setMetricConfig key aggregation | removeConfig key | arrive key =>
      obtain rfl := Option.some.inj hs
      obtain ⟨hrest, hcache⟩ := h
      generalize w'.cache = cache at hrest hcache
      subst hrest
      exact ⟨_, rfl, of_cache hcache⟩
  | removeCached key =>
      obtain rfl := Option.some.inj hs
      obtain ⟨hrest, hcache⟩ := h
      generalize w'.cache = cache at hrest hcache
      subst hrest
      exact ⟨_, rfl, of_cache (hcache.erase key)⟩

/-- The worlds take the same steps, but for those of the cleanup. -/
lemma path {es : List (QueryEvent V)}
    (hpath : (querySystem V maxAge shards).Path System.Any w es w₁) (h : SameButExpired w w') :
    ∃ w₁', (querySystem V maxAge shards).Path System.Any w' (es.filter (!·.isCleanup)) w₁' ∧
      SameButExpired w₁ w₁' := by
  induction hpath generalizing w' with
  | nil => exact ⟨w', .nil _, h⟩
  | @cons _ _ _ e _ _ hs _ ih =>
      rcases he : e.isCleanup with _ | _
      · obtain ⟨w₁', hs', hsame⟩ := h.step he hs
        obtain ⟨w₂', hpath', hsame'⟩ := ih hsame
        exact ⟨w₂', by simpa [he] using .cons trivial hs' hpath', hsame'⟩
      · obtain ⟨w₂', hpath', hsame'⟩ := ih (h.cleanup he hs)
        exact ⟨w₂', by simpa [he] using hpath', hsame'⟩

end SameButExpired

/-- **The cleanup of the cache is not noticed.** Without its steps every run is still a run, and
leads to the same store and the same answers; the caches differ in values that nobody reads. -/
theorem cleanup_unnoticed {maxAge : ℕ} {shards : Sharding SampleKey} {es : List (QueryEvent V)}
    {w : QueryWorld V} (h : (querySystem V maxAge shards).Path System.Any .new es w) :
    ∃ w', (querySystem V maxAge shards).Path System.Any .new (es.filter (!·.isCleanup)) w' ∧
      w'.queries = w.queries ∧ w'.computed = w.computed ∧ w'.store = w.store ∧
      ∀ later key, w.store.now ≤ later →
        w'.cache.getCached later key = w.cache.getCached later key := by
  obtain ⟨w', hpath, hsame⟩ := SameButExpired.path h ⟨rfl, Expiring.AgreeFrom.refl _ _⟩
  have hrest := hsame.rest
  refine ⟨w', hpath, ?_, ?_, ?_, fun later key hle => hsame.getCached_eq hle key⟩
  · rw [hrest]
  · rw [hrest]
  · rw [hrest]

end Queries

/-! ### A request between two scrapes -/

/-- The windows of the first pod in one shard, the others in another. -/
def twoShards : Sharding SampleKey := ⟨2, fun key => if key.podName = "web-0" then 0 else 1⟩

/-- The metric that is asked for. -/
def queueDepth : CacheKey := ⟨"default", "web", "queue_depth"⟩

/-- The first pod is found, its window is removed, and that of the second pod is created before
its shard is read.  The value is cached, returned to a second request, and removed. -/
def scanWhilePushed : List (QueryEvent ℚ) :=
  [.store (.lookup webWindow ⟨7, 0, true, .gauge⟩ 40), .store (.push 0), .arrive queueDepth,
    .proceed 0, .proceed 0, .removeWindow webWindow,
    .store (.lookup { webWindow with podName := "web-1" } ⟨5, 0, true, .gauge⟩ 40),
    .store (.push 0), .proceed 0, .proceed 0, .proceed 0, .proceed 0, .proceed 0, .proceed 0,
    .proceed 0, .store (.advance (secs 5)), .arrive queueDepth, .proceed 1,
    .store (.advance (secs 5)), .expire queueDepth]

/-- The world after these events. -/
def worldScanned : QueryWorld ℚ :=
  ((querySystem ℚ (secs 120) twoShards).exec .new scanWhilePushed).get (by decide +kernel)

lemma exec_scanWhilePushed :
    (querySystem ℚ (secs 120) twoShards).exec .new scanWhilePushed = some worldScanned :=
  (Option.some_get _).symm

theorem cleanup_unnoticed_scanned : ∃ w', (querySystem ℚ (secs 120) twoShards).Path System.Any .new
      (scanWhilePushed.filter (!·.isCleanup)) w' ∧ w'.queries = worldScanned.queries ∧
    w'.computed = worldScanned.computed ∧ w'.store = worldScanned.store ∧
    ∀ later key, worldScanned.store.now ≤ later →
      w'.cache.getCached later key = worldScanned.cache.getCached later key :=
  cleanup_unnoticed (System.exec_eq_some_iff.1 exec_scanWhilePushed)

end ExternalPodAutoscaler.Webhook
