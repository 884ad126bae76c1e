/-
Metric requests one after the other.

A request whose steps are taken with nothing in between is answered what the handler answers from
the store (`answerLocally`): the iteration over the shards finds the windows of the metric in some
order, and the order does not matter to the aggregation.

The main result of this file is `answered_alone`.
-/
import ExternalPodAutoscaler.Store.SlidingWindows
import ExternalPodAutoscaler.Webhook.AggregationLaws
import ExternalPodAutoscaler.Webhook.Queries

namespace ExternalPodAutoscaler.Webhook

open ExternalPodAutoscaler.Api ExternalPodAutoscaler.Lib ExternalPodAutoscaler.Store

section Queries

variable {V : Type} [Field V] [LinearOrder V]

namespace QueryWorld

/-- The world with one more request. -/
def withQuery (w : QueryWorld V) (q : Query V) : QueryWorld V :=
  { w with queries := w.queries ++ [q] }

/-- The request when it comes. -/
def newQuery (w : QueryWorld V) (key : CacheKey) (stage : QueryStage V) : Query V :=
  ⟨key, w.store.now, w.store.pushed.length, w.store.getWindows key.ns key.epaName key.metricName,
    stage⟩

/-- A window is read. -/
def readNow (w : QueryWorld V) (x : String × ℕ) : Reading V :=
  ⟨x.1, x.2, ((w.store.windows[x.2]?).map Prod.snd).getD (.new 0), w.store.pushed.length⟩

/-- What has been read is aggregated. -/
def computeNow (w : QueryWorld V) (key : CacheKey) (aggregation : AggregationType)
    (readings : List (Reading V)) : Computation V :=
  ⟨key, w.store.pushed.length, w.store.getWindows key.ns key.epaName key.metricName, aggregation,
    readings, w.store.now⟩

variable {shards : Sharding SampleKey} {w : QueryWorld V} {q : Query V} {maxAge i : ℕ}
  {key : CacheKey} {stage : QueryStage V}

omit [Field V] [LinearOrder V] in
lemma getElem?_withQuery : (w.withQuery q).queries[w.queries.length]? = some q :=
  List.getElem?_concat_length

omit [Field V] [LinearOrder V] in
lemma setStage_withQuery (w : QueryWorld V) (q : Query V) (stage : QueryStage V) :
    (w.withQuery q).setStage w.queries.length stage = w.withQuery { q with stage := stage } := by
  have hqueries : (w.queries ++ [q]).modify w.queries.length (fun q => { q with stage := stage }) =
      w.queries ++ [{ q with stage := stage }] := by
    rw [List.modify_eq_take_drop, List.take_left, List.drop_left]
    rfl
  simp only [setStage, withQuery, hqueries]

variable (shards maxAge) in
/-- A request takes some steps, with nothing in between. -/
def Alone (i : ℕ) (w w' : QueryWorld V) : Prop :=
  ∃ n, (querySystem V maxAge shards).Path System.Any w (List.replicate n (.proceed i)) w'

namespace Alone

variable {w₁ w₂ w₃ : QueryWorld V}

lemma refl (w : QueryWorld V) : Alone shards maxAge i w w := ⟨0, .nil w⟩

lemma step (hs : w₁.proceed shards i = some w₂) (h : Alone shards maxAge i w₂ w₃) :
    Alone shards maxAge i w₁ w₃ := by
  obtain ⟨n, hpath⟩ := h
  exact ⟨n + 1, .cons trivial hs hpath⟩

lemma trans (h : Alone shards maxAge i w₁ w₂) (h' : Alone shards maxAge i w₂ w₃) :
    Alone shards maxAge i w₁ w₃ := by
  obtain ⟨m, hpath⟩ := h
  obtain ⟨n, hpath'⟩ := h'
  exact ⟨m + n, by simpa [List.replicate_append_replicate] using hpath.append hpath'⟩

end Alone

variable (shards maxAge) in
/-- The remaining shards are read. -/
lemma alone_scan (w : QueryWorld V) (key : CacheKey) (n : ℕ) :
    ∀ (m : ℕ) (found : List (String × ℕ)),
    m + n = shards.count →
    Alone shards maxAge w.queries.length (w.withQuery (w.newQuery key (.scanning m found)))
      (w.withQuery (w.newQuery key (.scanning shards.count
        (found ++ (List.range' m n).flatMap fun k => w.shard shards k key)))) := by
  induction n with
  | zero =>
      intro m found hm
      rw [Nat.add_zero] at hm
      subst hm
      simpa using Alone.refl _
  | succ n ih =>
      intro m found hm
      refine .step (show _ = some (w.withQuery (w.newQuery key
        (.scanning (m + 1) (found ++ w.shard shards m key)))) from ?_) ?_
      · rw [proceed, getElem?_withQuery, Option.bind_some]
        simp only [newQuery, if_pos (show m < shards.count by omega), setStage_withQuery]
        rfl
      · rw [List.range'_succ, List.flatMap_cons, ← List.append_assoc]
        exact ih (m + 1) (found ++ w.shard shards m key) (by omega)

/-- The remaining windows are read. -/
lemma alone_read (w : QueryWorld V) (key : CacheKey) (aggregation : AggregationType)
    (left : List (String × ℕ)) : ∀ readings : List (Reading V),
    (∀ x ∈ left, (w.store.windows[x.2]?).isSome = true) →
    Alone shards maxAge w.queries.length
      (w.withQuery (w.newQuery key (.reading aggregation left readings)))
      (w.withQuery (w.newQuery key
        (.reading aggregation [] (readings ++ left.map w.readNow)))) := by
  induction left with
  | nil =>
      intro readings _
      simpa using Alone.refl _
  | cons x left ih =>
      intro readings hleft
      obtain ⟨entry, hentry⟩ := Option.isSome_iff_exists.1 (hleft x List.mem_cons_self)
      refine .step (show _ = some (w.withQuery (w.newQuery key
        (.reading aggregation left (readings ++ [w.readNow x])))) from ?_) ?_
      · rw [proceed, getElem?_withQuery, Option.bind_some]
        have hread : w.readNow x = ⟨x.1, x.2, entry.2, w.store.pushed.length⟩ := by
          rw [readNow, hentry]
          rfl
        rw [hread]
        refine Option.map_eq_some_iff.2 ⟨entry, hentry, ?_⟩
        rw [setStage_withQuery]
        rfl
      · have h := ih (readings ++ [w.readNow x]) fun y hy => hleft y (List.mem_cons_of_mem _ hy)
        rwa [List.append_assoc, List.singleton_append, ← List.map_cons] at h

/-! ### The windows that are found -/

/-- A list that is cut into the pieces on which a function has the same value. -/
lemma flatMap_filter_perm {α : Type} (l : List α) (f : α → ℕ) (n : ℕ) :
    ((List.range n).flatMap fun k => l.filter fun x => f x = k).Perm
      (l.filter fun x => f x < n) := by
  induction n with
  | zero => simp
  | succ n ih =>
      rw [List.range_succ, List.flatMap_append, List.flatMap_singleton]
      have hcut := List.filter_append_perm (fun x => f x < n) (l.filter fun x => f x < n + 1)
      rw [List.filter_filter, List.filter_filter] at hcut
      refine .trans ?_ hcut
      refine (ih.append_right _).trans (.of_eq ?_)
      congr 1
      · refine List.filter_congr fun x _ => ?_
        rw [← Bool.decide_and, decide_eq_decide]
        omega
      · refine List.filter_congr fun x _ => ?_
        rw [← decide_not, ← Bool.decide_and, decide_eq_decide]
        omega

omit [Field V] [LinearOrder V] in
variable (shards) in
/-- All shards together hold the windows of the metric. -/
lemma scanned_perm (w : QueryWorld V) (key : CacheKey) :
    ((List.range' 0 shards.count).flatMap fun k => w.shard shards k key).Perm
      (w.store.getWindows key.ns key.epaName key.metricName) := by
  rw [← List.range_eq_range']
  refine (flatMap_filter_perm _ (fun x : String × ℕ =>
    (shards.shardOf (sampleKey key x.1)).val) _).trans (.of_eq ?_)
  exact List.filter_eq_self.2 fun x _ => decide_eq_true (shards.shardOf _).isLt

omit [Field V] [LinearOrder V] in
/-- What is read from the windows of a metric are its windows in the store. -/
lemma read_perm (h : KeepsWindows w.store) {store : MetricsStore V}
    (hstore : w.store.Represents store) (key : CacheKey) {found : List (String × ℕ)}
    (hfound : found.Perm (w.store.getWindows key.ns key.epaName key.metricName)) :
    (found.map fun x => ((w.readNow x).podName, (w.readNow x).content)).Perm
      (store.getWindows key.ns key.epaName key.metricName) := by
  refine (hfound.map _).trans ((List.perm_ext_iff_of_nodup ?_ ?_).2 ?_)
  · have hnodup := nodup_getWindows w.store key
    refine List.Nodup.of_map Prod.fst ?_
    rw [List.map_map]
    exact hnodup
  · exact (nodup_pods store _ _ _).of_map _
  · rintro ⟨podName, content⟩
    have hwindow := hstore (sampleKey key podName)
    have hlookup : (podName, content) ∈ store.getWindows key.ns key.epaName key.metricName ↔
        store.windows.lookup (sampleKey key podName) = some content :=
      MetricsStore.mem_getWindows
    rw [hlookup, hwindow, SharedStore.window, Option.bind_eq_some_iff, List.mem_map]
    constructor
    · rintro ⟨⟨podName', a⟩, hmem, heq⟩
      obtain ⟨rfl, rfl⟩ := Prod.mk.inj heq
      have harc := SharedStore.mem_getWindows.1 hmem
      obtain ⟨content, hcontent⟩ := h.owner _ _ harc
      exact ⟨a, harc, by rw [readNow, show w.store.windows[a]? = _ from hcontent]; rfl⟩
    · rintro ⟨a, harc, hcontent⟩
      refine ⟨(podName, a), SharedStore.mem_getWindows.2 harc, ?_⟩
      rw [readNow, hcontent]
      rfl

/-- What is computed from the windows that are found is what the handler computes. -/
lemma answer_of_found (h : KeepsWindows w.store) {store : MetricsStore V}
    (hstore : w.store.Represents store) (hconfigs : store.configs = w.configs) (key : CacheKey)
    {found : List (String × ℕ)} (hne : found ≠ [])
    (hfound : found.Perm (w.store.getWindows key.ns key.epaName key.metricName))
    {c : Computation V} (hkey : c.key = key)
    (haggregation : c.aggregation = (w.configs.lookup key).getD .avg)
    (hreadings : c.readings = found.map w.readNow) :
    c.answer = answerLocally none store key.ns key.epaName key.metricName := by
  have hperm := read_perm h hstore key hfound
  have haggregated : c.aggregated =
      aggregateMetric (store.getWindows key.ns key.epaName key.metricName)
        (store.getMetricConfig key.ns key.epaName key.metricName) := by
    rw [Computation.aggregated, hreadings, List.map_map, haggregation, MetricsStore.getMetricConfig,
      hconfigs]
    exact aggregateMetric_perm hperm
  have hwindows : (store.getWindows key.ns key.epaName key.metricName).isEmpty = false := by
    rw [List.isEmpty_eq_false_iff]
    intro hnil
    rw [hnil, List.perm_nil, List.map_eq_nil_iff] at hperm
    exact hne hperm
  simp only [Computation.answer, answerLocally, haggregated, hkey, hwindows, Bool.false_eq_true,
    if_false]

/-- A request has read all windows, and none has a value. -/
lemma proceed_error {aggregation : AggregationType} {readings : List (Reading V)} {e : ApiError}
    (hanswer : (w.computeNow key aggregation readings).answer = .error e) :
    (w.withQuery (w.newQuery key (.reading aggregation [] readings))).proceed shards
        w.queries.length =
      some (({ w with computed := w.computed ++ [w.computeNow key aggregation readings] } :
        QueryWorld V).withQuery (w.newQuery key (.answered (.error e)))) := by
  rw [computeNow] at hanswer
  rw [proceed, getElem?_withQuery, Option.bind_some]
  simp only [newQuery, withQuery, hanswer]
  exact congrArg some (setStage_withQuery
    { w with computed := w.computed ++ [w.computeNow key aggregation readings] } _ _)

/-- A request has read all windows, and computes a value. -/
lemma proceed_ok {aggregation : AggregationType} {readings : List (Reading V)} {value : V}
    (hanswer : (w.computeNow key aggregation readings).answer = .ok value) :
    (w.withQuery (w.newQuery key (.reading aggregation [] readings))).proceed shards
        w.queries.length =
      some (({ w with computed := w.computed ++ [w.computeNow key aggregation readings] } :
        QueryWorld V).withQuery
          (w.newQuery key (.caching (w.computeNow key aggregation readings) value))) := by
  rw [computeNow] at hanswer
  rw [proceed, getElem?_withQuery, Option.bind_some]
  simp only [newQuery, withQuery, hanswer]
  exact congrArg some (setStage_withQuery
    { w with computed := w.computed ++ [w.computeNow key aggregation readings] } _ _)

variable (shards maxAge) in
/-- A request whose windows have been found is answered what the handler answers. -/
lemma alone_compute (h : KeepsWindows w.store) {store : MetricsStore V}
    (hstore : w.store.Represents store) (hconfigs : store.configs = w.configs) (key : CacheKey)
    {found : List (String × ℕ)} (hne : found ≠ [])
    (hfound : found.Perm (w.store.getWindows key.ns key.epaName key.metricName)) :
    ∃ w', Alone shards maxAge w.queries.length
        (w.withQuery (w.newQuery key (.configuring found))) w' ∧
      w'.queries[w.queries.length]?.map Query.stage =
        some (.answered (answerLocally none store key.ns key.epaName key.metricName)) := by
  have hisSome : ∀ x ∈ found, (w.store.windows[x.2]?).isSome = true := by
    intro x hx
    obtain ⟨content, hcontent⟩ :=
      h.owner _ _ (SharedStore.mem_getWindows.1 (hfound.mem_iff.1 hx))
    rw [show w.store.windows[x.2]? = _ from hcontent]
    rfl
  let c := w.computeNow key ((w.configs.lookup key).getD .avg) (found.map w.readNow)
  let w₁ : QueryWorld V := { w with computed := w.computed ++ [c] }
  have hanswer : c.answer = answerLocally none store key.ns key.epaName key.metricName :=
    answer_of_found h hstore hconfigs key hne hfound rfl rfl rfl
  have hread : Alone shards maxAge w.queries.length
      (w.withQuery (w.newQuery key (.configuring found)))
      (w.withQuery (w.newQuery key (.reading c.aggregation [] c.readings))) := by
    refine .step ?_ (alone_read w key c.aggregation found [] hisSome)
    rw [proceed, getElem?_withQuery, Option.bind_some]
    exact congrArg some (setStage_withQuery w _ _)
  rw [← hanswer]
  rcases hresult : c.answer with e | value
  · refine ⟨w₁.withQuery (w.newQuery key (.answered (.error e))), hread.trans (.step ?_ (.refl _)),
      ?_⟩
    · exact proceed_error hresult
    · exact congrArg (Option.map _) (getElem?_withQuery (w := w₁))
  · let w₂ : QueryWorld V :=
      { w₁ with cache := w₁.cache.cacheResult c.computedAt key value (secs 10) }
    refine ⟨w₂.withQuery (w.newQuery key (.answered (.ok value))),
      hread.trans (.step (show _ = some (w₁.withQuery (w.newQuery key (.caching c value))) from ?_)
        (.step ?_ (.refl _))), ?_⟩
    · exact proceed_ok hresult
    · show ((w₁.withQuery _).queries[w₁.queries.length]?.bind _) = _
      rw [getElem?_withQuery, Option.bind_some]
      exact congrArg some (setStage_withQuery w₂ _ _)
    · exact congrArg (Option.map _) (getElem?_withQuery (w := w₂))

end QueryWorld

/-- **Requests one after the other.** In every reachable state a request that comes, and whose
steps are then taken with nothing in between, is answered what the handler answers from the cached
value and the store. -/
theorem answered_alone {maxAge : ℕ} {shards : Sharding SampleKey} {w : QueryWorld V}
    (h : (querySystem V maxAge shards).Reachable System.Any w) {store : MetricsStore V}
    (hstore : w.store.Represents store) (hconfigs : store.configs = w.configs) (key : CacheKey) :
    ∃ n w', (querySystem V maxAge shards).Path System.Any w
        (.arrive key :: List.replicate n (.proceed w.queries.length)) w' ∧
      w'.queries[w.queries.length]?.map Query.stage =
        some (.answered (answerLocally (w.cache.getCached w.store.now key) store key.ns key.epaName
          key.metricName)) := by
  have hkeeps := (QueryWorld.Sound.of_reachable h).store
  suffices halone : ∃ w', QueryWorld.Alone shards maxAge w.queries.length
      (w.withQuery (w.newQuery key .arrived)) w' ∧
      w'.queries[w.queries.length]?.map Query.stage =
        some (.answered (answerLocally (w.cache.getCached w.store.now key) store key.ns key.epaName
          key.metricName)) by
    obtain ⟨w', ⟨n, hpath⟩, hanswer⟩ := halone
    exact ⟨n, w', .cons trivial rfl hpath, hanswer⟩
  rcases hcached : w.cache.getCached w.store.now key with _ | value
  · have hscan := QueryWorld.alone_scan shards maxAge w key shards.count 0 []
      (Nat.zero_add _)
    have hperm := QueryWorld.scanned_perm shards w key
    rw [List.nil_append] at hscan
    generalize (List.range' 0 shards.count).flatMap
      (fun k => w.shard shards k key) = found at hscan hperm
    have hlook : QueryWorld.Alone shards maxAge w.queries.length
        (w.withQuery (w.newQuery key .arrived))
        (w.withQuery (w.newQuery key (.scanning shards.count found))) := by
      refine .step ?_ hscan
      rw [QueryWorld.proceed, QueryWorld.getElem?_withQuery, Option.bind_some]
      have hquery : w.cache.getCached w.store.now (w.newQuery key .arrived).key = none := hcached
      simp only [QueryWorld.withQuery, hquery]
      exact congrArg some (QueryWorld.setStage_withQuery w _ _)
    by_cases hnil : found = []
    · -- the metric has no window
      subst hnil
      have hnone := QueryWorld.read_perm hkeeps hstore key hperm
      rw [List.map_nil, List.nil_perm] at hnone
      refine ⟨w.withQuery (w.newQuery key (.answered (answerLocally none store key.ns key.epaName
        key.metricName))), hlook.trans (.step ?_ (.refl _)),
        congrArg (Option.map _) QueryWorld.getElem?_withQuery⟩
      rw [QueryWorld.proceed, QueryWorld.getElem?_withQuery, Option.bind_some]
      simp only [QueryWorld.newQuery, answerLocally, hnone, Nat.lt_irrefl, if_false,
        List.isEmpty_nil, if_true, QueryWorld.setStage_withQuery]
    · obtain ⟨w', hcompute, hanswer⟩ := QueryWorld.alone_compute shards maxAge
        hkeeps hstore hconfigs key hnil hperm
      refine ⟨w', hlook.trans (.step ?_ hcompute), hanswer⟩
      rw [QueryWorld.proceed, QueryWorld.getElem?_withQuery, Option.bind_some]
      simp only [QueryWorld.newQuery, Nat.lt_irrefl, if_false, List.isEmpty_iff, hnil,
        QueryWorld.setStage_withQuery]
  · refine ⟨w.withQuery (w.newQuery key (.answered (.ok value))), .step ?_ (.refl _),
      congrArg (Option.map _) QueryWorld.getElem?_withQuery⟩
    rw [QueryWorld.proceed, QueryWorld.getElem?_withQuery, Option.bind_some]
    have hquery : w.cache.getCached w.store.now (w.newQuery key .arrived).key = some value :=
      hcached
    simp only [QueryWorld.withQuery, hquery]
    exact congrArg some (QueryWorld.setStage_withQuery w _ _)

end Queries

/-- A store with one sample. -/
def worldPushed : QueryWorld ℚ where
  store :=
    { now := 0
      windows := [(webWindow, (MetricWindow.new 40).push ⟨7, 0, true, .gauge⟩)]
      arcs := (∅ : AList fun _ : SampleKey => ℕ).insert webWindow 0
      pending := []
      pushed := [⟨webWindow, ⟨7, 0, true, .gauge⟩, 0⟩]
      pass := none
      evictedAt := none }
  configs := ∅
  cache := ∅
  queries := []
  computed := []

theorem answered_alone_pushed : ∃ n w', (querySystem ℚ (secs 120) twoShards).Path System.Any
      worldPushed (.arrive queueDepth :: List.replicate n (.proceed 0)) w' ∧
    w'.queries[0]?.map Query.stage = some (.answered (answerLocally none
      (MetricsStore.new.pushSample webWindow ⟨7, 0, true, .gauge⟩ 40) "default" "web"
        "queue_depth")) := by
  have hreach : (querySystem ℚ (secs 120) twoShards).Reachable System.Any worldPushed :=
    ⟨.new, [.store (.lookup webWindow ⟨7, 0, true, .gauge⟩ 40), .store (.push 0)], rfl,
      System.exec_eq_some_iff.1 rfl⟩
  refine answered_alone hreach (fun key => ?_) rfl queueDepth
  by_cases hkey : key = webWindow
  · subst hkey
    rfl
  · rw [MetricsStore.lookup_pushSample_of_ne hkey, SharedStore.window,
      show worldPushed.store.arcs.lookup key = _ from AList.lookup_insert_ne hkey]
    rfl

end ExternalPodAutoscaler.Webhook
