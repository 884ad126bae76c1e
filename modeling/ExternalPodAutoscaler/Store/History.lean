/-
The history of a window.

The window of a key is determined by what has been pushed into it since it was last removed.
`history` reads this off the operations on the store: pushes append to it, and an eviction of
stale windows, of the windows of other pods or of the windows of an EPA may clear it.  The
capacity comes from the first push of a history; that of later pushes is not used.

The main results of this file are `lookup_replay`, which says that the store is the family of
the windows of all histories, and `forall_mem_samples_iff`: what holds of the samples of a
window, in terms of what has been pushed.
-/
import ExternalPodAutoscaler.Store.Window

namespace ExternalPodAutoscaler.Store

open ExternalPodAutoscaler.Api ExternalPodAutoscaler.Lib

variable {V : Type}

/-- An operation on the windows of the store. -/
inductive StoreOp (V : Type) where
  | push (key : SampleKey) (sample : LabeledSample V) (maxSamples : ℕ)
  | evictStale (now maxAge : ℕ)
  | retainPods (ns epaName : String) (activePods : List String)
  | removeEpa (ns epaName : String)

namespace MetricsStore

/-- The store after an operation. -/
def apply (store : MetricsStore V) : StoreOp V → MetricsStore V
  | .push key sample maxSamples => store.pushSample key sample maxSamples
  | .evictStale now maxAge => (store.evictStaleWindows now maxAge).1
  | .retainPods ns epaName activePods => (store.retainPodWindows ns epaName activePods).1
  | .removeEpa ns epaName => store.removeEpaWindows ns epaName

/-- The store after some operations, from an empty one. -/
def replay (ops : List (StoreOp V)) : MetricsStore V := ops.foldl apply new

end MetricsStore

/-! ### Histories -/

/-- A pushed sample, with the capacity it was pushed with. -/
abbrev PushedSample (V : Type) := LabeledSample V × ℕ

/-- The history of a key after an operation. -/
def historyAfter (key : SampleKey) (history : List (PushedSample V)) :
    StoreOp V → List (PushedSample V)
  | .push key' sample maxSamples =>
    if key = key' then history ++ [(sample, maxSamples)] else history
  | .evictStale now maxAge =>
    if history.getLast?.any (fun newest => maxAge < elapsed now newest.1.scrapedAt) then []
    else history
  | .retainPods ns epaName activePods =>
    if key.ns = ns ∧ key.epaName = epaName ∧ key.podName ∉ activePods then [] else history
  | .removeEpa ns epaName => if key.ns = ns ∧ key.epaName = epaName then [] else history

/-- What was pushed into the window of a key since it was last removed, oldest first. -/
def history (key : SampleKey) (ops : List (StoreOp V)) : List (PushedSample V) :=
  ops.foldl (historyAfter key) []

/-- The window of a history. -/
def windowOf : List (PushedSample V) → Option (MetricWindow V)
  | [] => none
  | first :: rest =>
    some (((first :: rest).map Prod.fst).foldl MetricWindow.push (.new first.2))

lemma windowOf_cons (first : PushedSample V) (rest : List (PushedSample V)) :
    windowOf (first :: rest) =
      some (((first :: rest).map Prod.fst).foldl MetricWindow.push (.new first.2)) := rfl

/-- A push continues the history. -/
lemma windowOf_concat (pushed : List (PushedSample V)) (sample : LabeledSample V) (n : ℕ) :
    windowOf (pushed ++ [(sample, n)]) =
      some (((windowOf pushed).getD (.new n)).push sample) := by
  rcases pushed with _ | ⟨first, rest⟩
  · rfl
  · rw [List.cons_append, windowOf_cons, windowOf_cons, ← List.cons_append, List.map_append,
      List.foldl_append, Option.getD_some]
    rfl

/-- The newest sample of the window of a history. -/
lemma newestSampleAge_windowOf (pushed : List (PushedSample V)) (now : ℕ) :
    (windowOf pushed).bind (MetricWindow.newestSampleAge now) =
      pushed.getLast?.map fun newest => elapsed now newest.1.scrapedAt := by
  induction pushed using List.reverseRecOn with
  | nil => rfl
  | append_singleton pushed newest ih =>
      obtain ⟨sample, n⟩ := newest
      rw [windowOf_concat, Option.bind_some, MetricWindow.newestSampleAge,
        MetricWindow.getLast?_push, List.getLast?_concat]
      rfl

/-- One operation does to the window of a key what it does to its history. -/
lemma lookup_apply {store : MetricsStore V} {key : SampleKey} {pushed : List (PushedSample V)}
    (h : store.windows.lookup key = windowOf pushed) (op : StoreOp V) :
    (store.apply op).windows.lookup key = windowOf (historyAfter key pushed op) := by
  cases op with
  | push key' sample n =>
      by_cases hkey : key = key'
      · subst hkey
        rw [historyAfter, if_pos rfl, windowOf_concat, ← h]
        exact MetricsStore.lookup_pushSample_self sample n
      · rw [historyAfter, if_neg hkey, ← h]
        exact MetricsStore.lookup_pushSample_of_ne hkey sample n
  | evictStale now maxAge =>
      show (store.evictStaleWindows now maxAge).1.windows.lookup key = _
      rw [MetricsStore.lookup_evictStaleWindows, h, newestSampleAge_windowOf, Option.any_map,
        historyAfter, apply_ite windowOf]
      rfl
  | retainPods ns epaName activePods =>
      show (store.retainPodWindows ns epaName activePods).1.windows.lookup key = _
      rw [MetricsStore.lookup_retainPodWindows, h, historyAfter, apply_ite windowOf]
      rfl
  | removeEpa ns epaName =>
      show (store.removeEpaWindows ns epaName).windows.lookup key = _
      rw [MetricsStore.lookup_removeEpaWindows, h, historyAfter, apply_ite windowOf]
      rfl

/-- **The store is a family of windows.** After any operations, the window of every key is that
of its history. -/
theorem lookup_replay (key : SampleKey) (ops : List (StoreOp V)) :
    (MetricsStore.replay ops).windows.lookup key = windowOf (history key ops) := by
  induction ops using List.reverseRecOn with
  | nil => rfl
  | append_singleton ops op ih =>
      rw [MetricsStore.replay, List.foldl_append, history, List.foldl_append]
      exact lookup_apply ih op

lemma history_concat (key : SampleKey) (ops : List (StoreOp V)) (op : StoreOp V) :
    history key (ops ++ [op]) = historyAfter key (history key ops) op := by
  rw [history, List.foldl_append]
  rfl

/-- An operation puts nothing into a history but what it pushes. -/
lemma mem_historyAfter {key : SampleKey} {pushed : List (PushedSample V)} {op : StoreOp V}
    {x : PushedSample V} (hx : x ∈ historyAfter key pushed op) :
    x ∈ pushed ∨ op = .push key x.1 x.2 := by
  cases op with
  | push key' sample n =>
      by_cases hkey : key = key'
      · subst hkey
        rw [historyAfter, if_pos rfl, List.mem_append, List.mem_singleton] at hx
        exact hx.imp id fun hx => by rw [hx]
      · rw [historyAfter, if_neg hkey] at hx
        exact Or.inl hx
  | evictStale now maxAge =>
      rw [historyAfter] at hx
      split at hx
      · cases hx
      · exact Or.inl hx
  | retainPods ns epaName activePods =>
      rw [historyAfter] at hx
      split at hx
      · cases hx
      · exact Or.inl hx
  | removeEpa ns epaName =>
      rw [historyAfter] at hx
      split at hx
      · cases hx
      · exact Or.inl hx

/-! ### Samples of the window of a history -/

/-- The last `n` of a list: those with fewer than `n` after them. -/
lemma forall_mem_drop_iff {α : Type*} {l : List α} {n : ℕ} {p : α → Prop} :
    (∀ x ∈ l.drop (l.length - n), p x) ↔
      ∀ older x newer, l = older ++ x :: newer → ¬ p x → n ≤ newer.length := by
  constructor
  · rintro hall older x newer rfl hx
    by_contra hfew
    refine hx (hall x ?_)
    have hle : (older ++ x :: newer).length - n ≤ older.length := by
      rw [List.length_append, List.length_cons]
      omega
    rw [List.drop_append_of_le_length hle]
    exact List.mem_append_right _ List.mem_cons_self
  · intro hmany x hx
    by_contra hpx
    obtain ⟨before, newer, hsplit⟩ := List.append_of_mem hx
    have hl : l = (l.take (l.length - n) ++ before) ++ x :: newer := by
      rw [List.append_assoc, ← hsplit, List.take_append_drop]
    have hlen := congrArg List.length hsplit
    rw [List.length_drop, List.length_append, List.length_cons] at hlen
    have hn := hmany _ x newer hl hpx
    omega

/-- The window of a history holds the last samples, as many as the first push has room for. -/
lemma samples_of_windowOf {pushed : List (PushedSample V)} {w : MetricWindow V}
    (h : windowOf pushed = some w) :
    w.samples = (pushed.map Prod.fst).drop (pushed.length - max w.maxSamples 1) ∧
      pushed.head?.map Prod.snd = some w.maxSamples := by
  rcases pushed with _ | ⟨first, rest⟩
  · cases h
  · obtain rfl := Option.some.inj h
    obtain ⟨hsamples, hmax⟩ :=
      MetricWindow.samples_foldl_push first.2 ((first :: rest).map Prod.fst)
    rw [hsamples, hmax, List.length_map]
    exact ⟨rfl, rfl⟩

/-- The window of a history is what its pushes make of an empty one of its capacity. -/
lemma eq_foldl_of_windowOf {pushed : List (PushedSample V)} {w : MetricWindow V}
    (h : windowOf pushed = some w) :
    w = (pushed.map Prod.fst).foldl MetricWindow.push (.new w.maxSamples) := by
  rcases pushed with _ | ⟨first, rest⟩
  · cases h
  · obtain rfl := Option.some.inj h
    rw [(MetricWindow.samples_foldl_push first.2 _).2]

lemma length_samples_of_windowOf {pushed : List (PushedSample V)} {w : MetricWindow V}
    (h : windowOf pushed = some w) :
    w.samples.length = min pushed.length (max w.maxSamples 1) := by
  rw [(samples_of_windowOf h).1, List.length_drop, List.length_map]
  omega

/-- **Samples of a window.** A condition holds of the samples of a window exactly if each push
of which it does not hold has been followed by as many others as the window has room for. -/
theorem forall_mem_samples_iff {pushed : List (PushedSample V)} {w : MetricWindow V}
    (h : windowOf pushed = some w) {p : LabeledSample V → Prop} :
    (∀ x ∈ w.samples, p x) ↔ ∀ older x newer, pushed.map Prod.fst = older ++ x :: newer →
      ¬ p x → max w.maxSamples 1 ≤ newer.length := by
  rw [(samples_of_windowOf h).1, ← forall_mem_drop_iff, List.length_map]

end ExternalPodAutoscaler.Store
