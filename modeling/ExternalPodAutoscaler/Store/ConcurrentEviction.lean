/-
Eviction of stale windows while samples are pushed (`push_sample` and `evict_stale_windows`
of `store/ops.rs`).

The store maps a key to a handle of its window.  `push_sample` takes the handle from the map,
which may create the window, and pushes into the window afterwards.  `evict_stale_windows`
copies the keys and handles, checks one window after the other, and then removes the keys of
those that were stale.  No lock is held between these steps; `sharedSystem` interleaves them
in any order, for calls of `push_sample` in any number and one eviction at a time, and keeps
the calls that are completed.  Calls that are not interleaved are the operations on the map
of windows (`Represents.pushSample` and `Represents.evictStaleWindows`).

The main result of this file is `fresh_kept_unless_doomed`.  A call is doomed when its window
is no longer the one of its key, or when the eviction has found it stale.  In every run in
which no fresh sample is pushed by a doomed call, and no window with a fresh sample is found
stale, an eviction loses no fresh sample; after a step that breaks this, the run can go on to
the end of an eviction that has lost one (`fresh_sample_lost`).
-/
import Mathlib.Order.Basic
import Mathlib.Tactic.Common
import ExternalPodAutoscaler.Lib.Cells
import ExternalPodAutoscaler.Lib.Transition
import ExternalPodAutoscaler.Store.Window

namespace ExternalPodAutoscaler.Store

open ExternalPodAutoscaler.Lib

/-! ### Handles of windows -/

/-- A call of `push_sample` that has its handle: the number of a window in the order of their
creation. -/
structure PushCall (V : Type) where
  key : SampleKey
  sample : LabeledSample V
  window : ℕ
deriving DecidableEq

/-- An eviction under way: the entries that are still to be checked, and the keys found stale
that are still to be removed. -/
structure EvictionPass where
  entries : List (Sigma fun _ : SampleKey => ℕ)
  staleKeys : List SampleKey

/-- The windows behind their handles, the map of the store, and the calls in flight. -/
structure SharedStore (V : Type) where
  now : ℕ
  /-- The windows in the order of their creation, each with the key it was created for. -/
  windows : List (SampleKey × MetricWindow V)
  /-- The handle of the window of each key. -/
  arcs : AList fun _ : SampleKey => ℕ
  pending : List (PushCall V)
  /-- The completed calls, in the order of their pushes. -/
  pushed : List (PushCall V)
  pass : Option EvictionPass
  /-- The end of the last eviction. -/
  evictedAt : Option ℕ

inductive StoreEvent (V : Type) where
  | advance (d : ℕ)
  /-- The first half of `push_sample`. -/
  | lookup (key : SampleKey) (sample : LabeledSample V) (maxSamples : ℕ)
  /-- The second half of a call of `push_sample`. -/
  | push (i : ℕ)
  /-- `evict_stale_windows` copies the keys and handles. -/
  | snapshot
  /-- It checks the next window. -/
  | check
  /-- It removes the next key. -/
  | remove
  /-- It returns. -/
  | finish

namespace SharedStore

variable {V : Type}

/-- `MetricsStore::new`. -/
def new : SharedStore V := ⟨0, [], ∅, [], [], none, none⟩

/-- Takes the handle of the window, which is created if it does not exist. -/
def lookup (s : SharedStore V) (key : SampleKey) (sample : LabeledSample V) (maxSamples : ℕ) :
    SharedStore V :=
  match s.arcs.lookup key with
  | some a => { s with pending := s.pending ++ [⟨key, sample, a⟩] }
  | none =>
    let a := s.windows.length
    { s with
      windows := s.windows ++ [(key, MetricWindow.new maxSamples)]
      arcs := s.arcs.insert key a
      pending := s.pending ++ [⟨key, sample, a⟩] }

/-- Pushes the sample into the window behind the handle. -/
def push (s : SharedStore V) (i : ℕ) : Option (SharedStore V) :=
  s.pending[i]?.map fun call =>
    { s with
      windows := s.windows.modify call.window fun entry => (entry.1, entry.2.push call.sample)
      pending := s.pending.eraseIdx i
      pushed := s.pushed ++ [call] }

/-- The window behind the handle has samples, and the newest is older than `maxAge`. -/
def isStale (maxAge : ℕ) (s : SharedStore V) (a : ℕ) : Bool :=
  (s.windows[a]?.bind fun entry => entry.2.newestSampleAge s.now).any (maxAge < ·)

/-- Copies the keys and handles. -/
def snapshot (s : SharedStore V) : Option (SharedStore V) :=
  match s.pass with
  | none => some { s with pass := some ⟨s.arcs.entries, []⟩ }
  | some _ => none

/-- Checks the next window. -/
def check (maxAge : ℕ) (s : SharedStore V) : Option (SharedStore V) :=
  match s.pass with
  | some ⟨⟨key, a⟩ :: entries, staleKeys⟩ =>
    some { s with
      pass := some ⟨entries, if s.isStale maxAge a then staleKeys ++ [key] else staleKeys⟩ }
  | _ => none

/-- Removes the next stale key, once all windows are checked. -/
def remove (s : SharedStore V) : Option (SharedStore V) :=
  match s.pass with
  | some ⟨[], key :: staleKeys⟩ =>
    some { s with arcs := s.arcs.erase key, pass := some ⟨[], staleKeys⟩ }
  | _ => none

/-- Ends the eviction. -/
def finish (s : SharedStore V) : Option (SharedStore V) :=
  match s.pass with
  | some ⟨[], []⟩ => some { s with pass := none, evictedAt := some s.now }
  | _ => none

/-- The handles of the windows of a metric, with the names of their pods. -/
def getWindows (s : SharedStore V) (ns epaName metricName : String) : List (String × ℕ) :=
  s.arcs.entries.filterMap fun entry =>
    if entry.1.ns = ns ∧ entry.1.epaName = epaName ∧ entry.1.metricName = metricName then
      some (entry.1.podName, entry.2)
    else none

end SharedStore

/-- Calls of `push_sample` and evictions with one `maxAge`, from an empty store. -/
def sharedSystem (V : Type) (maxAge : ℕ) : System (SharedStore V) (StoreEvent V) where
  init s := s = .new
  step s
    | .advance d => some { s with now := s.now + d }
    | .lookup key sample maxSamples => some (s.lookup key sample maxSamples)
    | .push i => s.push i
    | .snapshot => s.snapshot
    | .check => s.check maxAge
    | .remove => s.remove
    | .finish => s.finish

/-! ### Lost samples -/

namespace SharedStore

variable {V : Type}

/-- `get_windows` returns the window of the call, and the sample is in it. -/
def Reaches (s : SharedStore V) (call : PushCall V) : Prop :=
  (call.key.podName, call.window) ∈ s.getWindows call.key.ns call.key.epaName call.key.metricName ∧
    ∃ entry, s.windows[call.window]? = some entry ∧ call.sample ∈ entry.2.samples

/-- The calls completed after the call have filled its window. -/
def EvictedByCapacity (s : SharedStore V) (call : PushCall V) (after : List (PushCall V)) : Prop :=
  ∃ entry, s.windows[call.window]? = some entry ∧
    max entry.2.maxSamples 1 ≤ after.countP (·.window = call.window)

/-- Every sample of a completed call that is within `maxAge` of the end of the last eviction
can be reached, unless the capacity of its window has evicted it. -/
def FreshKept (maxAge : ℕ) (s : SharedStore V) : Prop :=
  ∀ endedAt, s.pass = none → s.evictedAt = some endedAt →
    ∀ before call after, s.pushed = before ++ call :: after →
      elapsed endedAt call.sample.scrapedAt ≤ maxAge →
      s.Reaches call ∨ s.EvictedByCapacity call after

/-- The keys found stale that are not removed yet. -/
def staleKeys (s : SharedStore V) : List SampleKey := (s.pass.map EvictionPass.staleKeys).getD []

/-- The window of the call is not the one of its key any more, or is about to be removed. -/
def Doomed (s : SharedStore V) (call : PushCall V) : Prop :=
  s.arcs.lookup call.key ≠ some call.window ∨ call.key ∈ s.staleKeys

/-- The instant that ages are compared at: the current one during an eviction, else the end of
the last one. -/
def reference (s : SharedStore V) : ℕ := if s.pass.isSome then s.now else s.evictedAt.getD s.now

/-- A push by a doomed call is not of a fresh sample, and a window that is found stale has no
fresh sample. -/
def SparesFresh (maxAge : ℕ) (s : SharedStore V) : StoreEvent V → Prop
  | .push i => ∀ call, s.pending[i]? = some call → s.Doomed call →
      maxAge < elapsed s.reference call.sample.scrapedAt
  | .check => ∀ key a entries staleKeys, s.pass = some ⟨⟨key, a⟩ :: entries, staleKeys⟩ →
      s.isStale maxAge a = true → ∀ entry, s.windows[a]? = some entry →
      ∀ x ∈ entry.2.samples, maxAge < elapsed s.now x.scrapedAt
  | _ => True

/-! ### What a step does -/

variable {s s' : SharedStore V} {maxAge : ℕ}

lemma mem_getWindows {ns epaName metricName podName : String} {a : ℕ} :
    (podName, a) ∈ s.getWindows ns epaName metricName ↔
      s.arcs.lookup ⟨ns, epaName, metricName, podName⟩ = some a :=
  mem_filterMap_entries

lemma push_cases {i : ℕ} (h : s.push i = some s') : ∃ call, s.pending[i]? = some call ∧
    s' = { s with
      windows := s.windows.modify call.window fun entry => (entry.1, entry.2.push call.sample)
      pending := s.pending.eraseIdx i
      pushed := s.pushed ++ [call] } := by
  obtain ⟨call, hcall, h⟩ := Option.map_eq_some_iff.1 h
  exact ⟨call, hcall, h.symm⟩

lemma snapshot_cases (h : s.snapshot = some s') :
    s.pass = none ∧ s' = { s with pass := some ⟨s.arcs.entries, []⟩ } := by
  unfold snapshot at h
  split at h
  · rename_i hpass
    exact ⟨hpass, (Option.some.inj h).symm⟩
  · cases h

lemma check_cases (h : s.check maxAge = some s') : ∃ key a entries staleKeys,
    s.pass = some ⟨⟨key, a⟩ :: entries, staleKeys⟩ ∧
      s' = { s with
        pass := some ⟨entries, if s.isStale maxAge a then staleKeys ++ [key] else staleKeys⟩ } := by
  unfold check at h
  split at h
  · rename_i key a entries staleKeys hpass
    exact ⟨key, a, entries, staleKeys, hpass, (Option.some.inj h).symm⟩
  · cases h

lemma remove_cases (h : s.remove = some s') : ∃ key staleKeys,
    s.pass = some ⟨[], key :: staleKeys⟩ ∧
      s' = { s with arcs := s.arcs.erase key, pass := some ⟨[], staleKeys⟩ } := by
  unfold remove at h
  split at h
  · rename_i key staleKeys hpass
    exact ⟨key, staleKeys, hpass, (Option.some.inj h).symm⟩
  · cases h

lemma finish_cases (h : s.finish = some s') :
    s.pass = some ⟨[], []⟩ ∧ s' = { s with pass := none, evictedAt := some s.now } := by
  unfold finish at h
  split at h
  · rename_i hpass
    exact ⟨hpass, (Option.some.inj h).symm⟩
  · cases h

lemma staleKeys_of_pass {pass : EvictionPass} (h : s.pass = some pass) :
    s.staleKeys = pass.staleKeys := by
  rw [staleKeys, h]
  rfl

lemma reference_of_pass {pass : EvictionPass} (h : s.pass = some pass) : s.reference = s.now := by
  rw [reference, h]
  rfl

/-! ### Handles and windows -/

/-- The completed calls that have pushed into a window. -/
def callsInto (s : SharedStore V) (a : ℕ) : List (PushCall V) :=
  s.pushed.filter fun call => call.window = a

/-- A completed call has pushed into its own window. -/
lemma callsInto_push {call : PushCall V} (h : s'.pushed = s.pushed ++ [call]) (a : ℕ) :
    s'.callsInto a = s.callsInto a ++ if call.window = a then [call] else [] := by
  rw [callsInto, callsInto, h, List.filter_append]
  by_cases ha : call.window = a
  · rw [if_pos ha, List.filter_cons_of_pos (by simpa using ha), List.filter_nil]
  · rw [if_neg ha, List.filter_cons_of_neg (by simpa using ha), List.filter_nil]

/-- Handles are those of windows created for their keys, a window holds what was pushed into it,
and the entries of an eviction are in the map until it removes keys. -/
structure Coherent (s : SharedStore V) : Prop where
  owner : ∀ key a, s.arcs.lookup key = some a → ∃ w, s.windows[a]? = some (key, w)
  holder : ∀ call, call ∈ s.pending ∨ call ∈ s.pushed →
    ∃ w, s.windows[call.window]? = some (call.key, w)
  contents : ∀ a entry, s.windows[a]? = some entry →
    entry.2 = ((s.callsInto a).map PushCall.sample).foldl MetricWindow.push
      (MetricWindow.new entry.2.maxSamples)
  listed : ∀ pass, s.pass = some pass → ∀ entry ∈ pass.entries,
    s.arcs.lookup entry.1 = some entry.2
  ended_le : ∀ t, s.evictedAt = some t → t ≤ s.now

namespace Coherent

/-- A step of the clock or of an eviction. -/
lemma of_frame (h : s.Coherent) (hwindows : s'.windows = s.windows)
    (hpending : s'.pending = s.pending) (hpushed : s'.pushed = s.pushed)
    (harcs : ∀ key a, s'.arcs.lookup key = some a → s.arcs.lookup key = some a)
    (hlisted : ∀ pass, s'.pass = some pass → ∀ entry ∈ pass.entries,
      s'.arcs.lookup entry.1 = some entry.2)
    (hended : ∀ t, s'.evictedAt = some t → t ≤ s'.now) : s'.Coherent := by
  refine ⟨?_, ?_, ?_, hlisted, hended⟩
  · intro key a ha
    rw [hwindows]
    exact h.owner key a (harcs key a ha)
  · intro call hcall
    rw [hpending, hpushed] at hcall
    rw [hwindows]
    exact h.holder call hcall
  · intro a entry hentry
    rw [hwindows] at hentry
    rw [callsInto, hpushed]
    exact h.contents a entry hentry

lemma new : (SharedStore.new : SharedStore V).Coherent := by
  refine ⟨?_, ?_, ?_, ?_, ?_⟩
  · intro key a ha
    cases ha
  · intro call hcall
    simp [SharedStore.new] at hcall
  · intro a entry hentry
    simp [SharedStore.new] at hentry
  · intro pass hpass
    cases hpass
  · intro t ht
    cases ht

lemma window_lt (h : s.Coherent) {call : PushCall V} (hcall : call ∈ s.pending ∨ call ∈ s.pushed) :
    call.window < s.windows.length := by
  obtain ⟨w, hw⟩ := h.holder call hcall
  exact (List.getElem?_eq_some_iff.1 hw).1

/-- Nothing has been pushed into a window that is still to be created. -/
lemma callsInto_length (h : s.Coherent) : s.callsInto s.windows.length = [] := by
  refine List.filter_eq_nil_iff.2 fun call hcall => ?_
  have hwindow := h.window_lt (Or.inr hcall)
  simp only [decide_eq_true_eq]
  omega

lemma lookup (h : s.Coherent) (key : SampleKey) (sample : LabeledSample V) (maxSamples : ℕ) :
    (s.lookup key sample maxSamples).Coherent := by
  unfold SharedStore.lookup
  split
  · rename_i a ha
    refine ⟨h.owner, ?_, h.contents, h.listed, h.ended_le⟩
    intro call hcall
    rw [List.mem_append, List.mem_singleton, or_right_comm] at hcall
    rcases hcall with hcall | rfl
    · exact h.holder call hcall
    · exact h.owner key a ha
  · rename_i hnone
    have hnew : (s.windows ++ [(key, MetricWindow.new maxSamples)])[s.windows.length]? =
        some (key, MetricWindow.new maxSamples) := List.getElem?_concat_length
    refine ⟨?_, ?_, ?_, ?_, h.ended_le⟩
    · intro key' a ha
      rcases lookup_insert_eq_some_iff.1 ha with ⟨rfl, rfl⟩ | ⟨-, ha⟩
      · exact ⟨_, hnew⟩
      · obtain ⟨w, hw⟩ := h.owner key' a ha
        exact ⟨w, getElem?_concat_of_some hw _⟩
    · intro call hcall
      rw [List.mem_append, List.mem_singleton, or_right_comm] at hcall
      rcases hcall with hcall | rfl
      · obtain ⟨w, hw⟩ := h.holder call hcall
        exact ⟨w, getElem?_concat_of_some hw _⟩
      · exact ⟨_, hnew⟩
    · intro a entry hentry
      rcases getElem?_concat_cases hentry with ⟨rfl, rfl⟩ | ⟨-, hentry⟩
      · show _ = ((s.callsInto s.windows.length).map _).foldl _ _
        rw [h.callsInto_length]
        rfl
      · exact h.contents a entry hentry
    · -- the new key is not among the entries, which are all in the map
      intro pass hpass entry hentry
      have hlookup := h.listed pass hpass entry hentry
      refine lookup_insert_eq_some_iff.2 (Or.inr ⟨?_, hlookup⟩)
      rintro rfl
      rw [hnone] at hlookup
      cases hlookup

lemma push {i : ℕ} (h : s.Coherent) (hs : s.push i = some s') : s'.Coherent := by
  obtain ⟨call, hcall, rfl⟩ := push_cases hs
  have hmem : call ∈ s.pending := List.mem_of_getElem? hcall
  have hwindows : ∀ {a : ℕ} {key w}, s.windows[a]? = some (key, w) → ∃ w',
      (s.windows.modify call.window fun entry => (entry.1, entry.2.push call.sample))[a]? =
        some (key, w') := by
    intro a key w hw
    rw [getElem?_modify_of_some hw]
    split
    · exact ⟨_, rfl⟩
    · exact ⟨w, rfl⟩
  refine ⟨?_, ?_, ?_, h.listed, h.ended_le⟩
  · intro key a ha
    obtain ⟨w, hw⟩ := h.owner key a ha
    exact hwindows hw
  · intro call' hcall'
    have hold : call' ∈ s.pending ∨ call' ∈ s.pushed := by
      rcases hcall' with hcall' | hcall'
      · exact Or.inl ((List.eraseIdx_sublist _ _).subset hcall')
      · rcases List.mem_append.1 hcall' with hcall' | hcall'
        · exact Or.inr hcall'
        · rw [List.mem_singleton.1 hcall']
          exact Or.inl hmem
    obtain ⟨w, hw⟩ := h.holder call' hold
    exact hwindows hw
  · intro a entry hentry
    rw [callsInto_push rfl]
    rcases getElem?_modify_cases hentry with ⟨rfl, old, hold, rfl⟩ | ⟨ha, hentry⟩
    · rw [if_pos rfl, List.map_append, List.foldl_append]
      show old.2.push call.sample = MetricWindow.push _ call.sample
      exact congrArg (MetricWindow.push · call.sample) (h.contents _ old hold)
    · rw [if_neg ha.symm, List.append_nil]
      exact h.contents a entry hentry

lemma step {e : StoreEvent V} (h : s.Coherent) (hs : (sharedSystem V maxAge).step s e = some s') :
    s'.Coherent := by
  cases e with
  | advance d =>
      obtain rfl := Option.some.inj hs
      exact h.of_frame rfl rfl rfl (fun _ _ ha => ha) h.listed
        fun t ht => Nat.le_add_right_of_le (h.ended_le t ht)
  | lookup key sample maxSamples =>
      obtain rfl := Option.some.inj hs
      exact h.lookup key sample maxSamples
  | push i => exact h.push hs
  | snapshot =>
      obtain ⟨-, rfl⟩ := snapshot_cases hs
      refine h.of_frame rfl rfl rfl (fun _ _ ha => ha) ?_ h.ended_le
      rintro _ ⟨⟩ entry hentry
      exact AList.mem_lookup_iff.2 hentry
  | check =>
      obtain ⟨key, a, entries, staleKeys, hpass, rfl⟩ := check_cases hs
      refine h.of_frame rfl rfl rfl (fun _ _ ha => ha) ?_ h.ended_le
      rintro _ ⟨⟩ entry hentry
      exact h.listed _ hpass entry (List.mem_cons_of_mem _ hentry)
  | remove =>
      obtain ⟨key, staleKeys, -, rfl⟩ := remove_cases hs
      refine h.of_frame rfl rfl rfl (fun _ _ ha => (lookup_erase_eq_some_iff.1 ha).2) ?_ h.ended_le
      rintro _ ⟨⟩ entry hentry
      cases hentry
  | finish =>
      obtain ⟨-, rfl⟩ := finish_cases hs
      refine h.of_frame rfl rfl rfl (fun _ _ ha => ha) ?_ ?_
      · rintro _ ⟨⟩
      · rintro _ ⟨⟩
        exact le_rfl

lemma of_reachable {ok : SharedStore V → StoreEvent V → Prop}
    (h : (sharedSystem V maxAge).Reachable ok s) : s.Coherent := by
  refine h.invariant ?_ fun s e s' hI _ hs => hI.step hs
  rintro s rfl
  exact Coherent.new

/-- The window of a call holds its sample until it is full of later ones. -/
lemma sample_mem (h : s.Coherent) {before after : List (PushCall V)} {call : PushCall V}
    (hpushed : s.pushed = before ++ call :: after) (hkept : ¬ s.EvictedByCapacity call after) :
    ∃ entry, s.windows[call.window]? = some entry ∧ call.sample ∈ entry.2.samples := by
  obtain ⟨w, hw⟩ := h.holder call (Or.inr (by simp [hpushed]))
  refine ⟨_, hw, ?_⟩
  have hfew : after.countP (·.window = call.window) < max w.maxSamples 1 := by
    by_contra hfull
    exact hkept ⟨_, hw, Nat.not_lt.1 hfull⟩
  have hinto : (s.callsInto call.window).map PushCall.sample =
      (before.filter (·.window = call.window)).map PushCall.sample ++
        call.sample :: (after.filter (·.window = call.window)).map PushCall.sample := by
    rw [callsInto, hpushed, List.filter_append, List.filter_cons_of_pos (by simp), List.map_append,
      List.map_cons]
  rw [h.contents _ _ hw, hinto, (MetricWindow.samples_foldl_push _ _).1]
  rw [List.countP_eq_length_filter] at hfew
  rw [List.drop_append_of_le_length]
  · simp
  · simp only [List.length_append, List.length_cons, List.length_map]
    omega

/-- A sample of a window is that of a completed call, and the window is not full of later
ones. -/
lemma exists_call (h : s.Coherent) {a : ℕ} {entry : SampleKey × MetricWindow V}
    (hentry : s.windows[a]? = some entry) {x : LabeledSample V} (hx : x ∈ entry.2.samples) :
    ∃ before call after, s.pushed = before ++ call :: after ∧ call.window = a ∧
      call.sample = x ∧ ¬ s.EvictedByCapacity call after := by
  rw [h.contents _ _ hentry, (MetricWindow.samples_foldl_push _ _).1, List.length_map,
    ← List.map_drop] at hx
  obtain ⟨call, hcall, rfl⟩ := List.mem_map.1 hx
  obtain ⟨older, later, hsplit⟩ := List.append_of_mem hcall
  have hinto : (s.pushed.filter fun c => c.window = a) =
      ((s.callsInto a).take ((s.callsInto a).length - max entry.2.maxSamples 1) ++ older) ++
        call :: later := by
    rw [List.append_assoc, ← hsplit, List.take_append_drop]
    rfl
  obtain ⟨front, rest, hpushed, -, hrest⟩ := List.filter_eq_append_iff.1 hinto
  obtain ⟨between, after, rfl, -, hwindow, rfl⟩ := List.filter_eq_cons_iff.1 hrest
  obtain rfl : call.window = a := by simpa using hwindow
  refine ⟨front ++ between, call, after, by rw [hpushed, List.append_assoc], rfl, rfl, ?_⟩
  rintro ⟨entry', hentry', hfull⟩
  obtain rfl := Option.some.inj (hentry'.symm.trans hentry)
  have hlen := congrArg List.length hsplit
  rw [List.length_drop, List.length_append, List.length_cons] at hlen
  rw [List.countP_eq_length_filter] at hfull
  omega

end Coherent

/-! ### Fresh samples -/

/-- What a doomed call has pushed is old, or evicted by the capacity of its window. -/
def FreshSafe (maxAge : ℕ) (s : SharedStore V) : Prop :=
  ∀ before call after, s.pushed = before ++ call :: after → s.Doomed call →
    maxAge < elapsed s.reference call.sample.scrapedAt ∨ s.EvictedByCapacity call after

namespace FreshSafe

/-- A step that completes no call. -/
lemma of_frame (h : s.FreshSafe maxAge) (hpushed : s'.pushed = s.pushed)
    (href : s.reference ≤ s'.reference)
    (hevicted : ∀ call after, s.EvictedByCapacity call after → s'.EvictedByCapacity call after)
    (hdoomed : ∀ before call after, s.pushed = before ++ call :: after → s'.Doomed call →
      s.Doomed call ∨ maxAge < elapsed s'.reference call.sample.scrapedAt ∨
        s'.EvictedByCapacity call after) : s'.FreshSafe maxAge := by
  intro before call after hsplit hdoom
  rw [hpushed] at hsplit
  rcases hdoomed before call after hsplit hdoom with hdoom | hsafe
  · rcases h before call after hsplit hdoom with hold | hevict
    · exact Or.inl (Nat.lt_of_lt_of_le hold (Nat.sub_le_sub_right href _))
    · exact Or.inr (hevicted call after hevict)
  · exact hsafe

lemma lookup (h : s.FreshSafe maxAge) (key : SampleKey) (sample : LabeledSample V)
    (maxSamples : ℕ) : (s.lookup key sample maxSamples).FreshSafe maxAge := by
  unfold SharedStore.lookup
  split
  · exact h.of_frame rfl le_rfl (fun _ _ hevict => hevict) fun _ _ _ _ hdoom => Or.inl hdoom
  · rename_i hnone
    refine h.of_frame rfl le_rfl ?_ ?_
    · rintro call after ⟨entry, hentry, hfull⟩
      exact ⟨entry, getElem?_concat_of_some hentry _, hfull⟩
    · rintro before call after - (harc | hstale)
      · left; left
        intro hold
        refine harc (lookup_insert_eq_some_iff.2 (Or.inr ⟨?_, hold⟩))
        intro hkey
        rw [hkey, hnone] at hold
        cases hold
      · exact Or.inl (Or.inr hstale)

lemma push {i : ℕ} (h : s.FreshSafe maxAge) (hspares : s.SparesFresh maxAge (.push i))
    (hs : s.push i = some s') : s'.FreshSafe maxAge := by
  obtain ⟨c, hc, rfl⟩ := push_cases hs
  intro before call after hsplit hdoom
  -- the call is the one that is completed now, or an earlier one
  rcases List.eq_nil_or_concat after with rfl | ⟨after, last, rfl⟩
  · obtain ⟨-, hlast⟩ := List.append_inj' hsplit rfl
    obtain rfl : c = call := (List.cons.inj hlast).1
    exact Or.inl (hspares c hc hdoom)
  · rw [List.concat_eq_append, ← List.cons_append, ← List.append_assoc] at hsplit
    obtain ⟨hpushed, -⟩ := List.append_inj' hsplit rfl
    refine (h before call after hpushed hdoom).imp_right ?_
    rintro ⟨entry, hentry, hfull⟩
    have hlater : after.countP (·.window = call.window) ≤
        (after.concat last).countP (·.window = call.window) := by
      rw [List.concat_eq_append]
      exact (List.sublist_append_left _ _).countP_le
    refine ⟨_, getElem?_modify_of_some hentry _ c.window, ?_⟩
    split
    · exact Nat.le_trans hfull hlater
    · exact Nat.le_trans hfull hlater

lemma check (h : s.FreshSafe maxAge) (hcoherent : s.Coherent)
    (hspares : s.SparesFresh maxAge .check) (hs : s.check maxAge = some s') :
    s'.FreshSafe maxAge := by
  obtain ⟨key, a, entries, staleKeys, hpass, rfl⟩ := check_cases hs
  have hkey : s.arcs.lookup key = some a := hcoherent.listed _ hpass _ List.mem_cons_self
  refine h.of_frame rfl (reference_of_pass hpass).le (fun _ _ hevict => hevict) ?_
  rintro before call after hsplit (harc | hstale)
  · exact Or.inl (Or.inl harc)
  · rw [staleKeys_of_pass rfl] at hstale
    by_cases hfound : s.isStale maxAge a = true
    · rw [if_pos hfound, List.mem_append, List.mem_singleton] at hstale
      rcases hstale with hstale | hcall
      · exact Or.inl (Or.inr ((staleKeys_of_pass hpass).symm ▸ hstale))
      · -- the window has just been found stale; the call may have pushed into an older one
        by_cases hwindow : call.window = a
        · right
          rw [or_iff_not_imp_right]
          intro hkept
          obtain ⟨entry, hentry, hmem⟩ := hcoherent.sample_mem hsplit hkept
          exact hspares key a entries staleKeys hpass hfound entry (hwindow ▸ hentry) _ hmem
        · left; left
          rw [hcall, hkey]
          exact fun heq => hwindow (Option.some.inj heq).symm
    · rw [if_neg hfound] at hstale
      exact Or.inl (Or.inr ((staleKeys_of_pass hpass).symm ▸ hstale))

lemma step {e : StoreEvent V} (h : s.FreshSafe maxAge) (hcoherent : s.Coherent)
    (hspares : s.SparesFresh maxAge e) (hs : (sharedSystem V maxAge).step s e = some s') :
    s'.FreshSafe maxAge := by
  cases e with
  | advance d =>
      obtain rfl := Option.some.inj hs
      refine h.of_frame rfl ?_ (fun _ _ hevict => hevict) fun _ _ _ _ hdoom => Or.inl hdoom
      unfold reference
      rcases s.pass with _ | pass
      · rcases s.evictedAt with _ | t
        · exact Nat.le_add_right _ _
        · exact le_rfl
      · exact Nat.le_add_right _ _
  | lookup key sample maxSamples =>
      obtain rfl := Option.some.inj hs
      exact h.lookup key sample maxSamples
  | push i => exact h.push hspares hs
  | snapshot =>
      obtain ⟨hpass, rfl⟩ := snapshot_cases hs
      refine h.of_frame rfl ?_ (fun _ _ hevict => hevict) ?_
      · rw [reference, hpass]
        rcases ht : s.evictedAt with _ | t
        · exact le_rfl
        · exact hcoherent.ended_le t ht
      · rintro before call after - (harc | hstale)
        · exact Or.inl (Or.inl harc)
        · cases hstale
  | check => exact h.check hcoherent hspares hs
  | remove =>
      obtain ⟨key, staleKeys, hpass, rfl⟩ := remove_cases hs
      refine h.of_frame rfl (reference_of_pass hpass).le (fun _ _ hevict => hevict) ?_
      have hstale' : s.staleKeys = key :: staleKeys := staleKeys_of_pass hpass
      rintro before call after - (harc | hstale)
      · -- the key that is removed was doomed before
        by_cases hcall : call.key = key
        · exact Or.inl (Or.inr (by simp [hstale', hcall]))
        · exact Or.inl (Or.inl fun hold => harc (lookup_erase_eq_some_iff.2 ⟨hcall, hold⟩))
      · rw [staleKeys_of_pass rfl] at hstale
        exact Or.inl (Or.inr (hstale' ▸ List.mem_cons_of_mem _ hstale))
  | finish =>
      obtain ⟨hpass, rfl⟩ := finish_cases hs
      refine h.of_frame rfl (reference_of_pass hpass).le (fun _ _ hevict => hevict) ?_
      rintro before call after - (harc | hstale)
      · exact Or.inl (Or.inl harc)
      · cases hstale

lemma of_reachable (h : (sharedSystem V maxAge).Reachable (SparesFresh maxAge) s) :
    s.Coherent ∧ s.FreshSafe maxAge := by
  refine h.invariant (I := fun s => s.Coherent ∧ s.FreshSafe maxAge) ?_ ?_
  · rintro s rfl
    refine ⟨Coherent.new, ?_⟩
    intro before call after hsplit
    simp [SharedStore.new] at hsplit
  · rintro s e s' ⟨hcoherent, hsafe⟩ hspares hs
    exact ⟨hcoherent.step hs, hsafe.step hcoherent hspares hs⟩

/-- A call that is not doomed reaches its sample. -/
lemma freshKept (h : s.FreshSafe maxAge) (hcoherent : s.Coherent) : s.FreshKept maxAge := by
  intro endedAt hpass hended before call after hsplit hfresh
  rw [or_iff_not_imp_right]
  intro hkept
  have harc : s.arcs.lookup call.key = some call.window := by
    by_contra harc
    have hold := (h before call after hsplit (Or.inl harc)).resolve_right hkept
    rw [reference, hpass, hended] at hold
    exact absurd hold (Nat.not_lt.2 hfresh)
  exact ⟨mem_getWindows.2 harc, hcoherent.sample_mem hsplit hkept⟩

end FreshSafe

/-! ### Lost samples -/

/-- An eviction under way can go on to its end without a delay: the keys found stale are removed
and those of the entries that are. -/
lemma exists_finish (maxAge : ℕ) {entries : List (Sigma fun _ : SampleKey => ℕ)}
    {staleKeys : List SampleKey} (hpass : s.pass = some ⟨entries, staleKeys⟩) :
    ∃ es s', (sharedSystem V maxAge).Path System.Any s es s' ∧ s'.pass = none ∧
      s'.evictedAt = some s.now ∧ s'.pushed = s.pushed ∧ s'.windows = s.windows ∧
      ∀ key a, s'.arcs.lookup key = some a ↔ s.arcs.lookup key = some a ∧ key ∉ staleKeys ∧
        ∀ b, ⟨key, b⟩ ∈ entries → s.isStale maxAge b = false := by
  induction entries generalizing s staleKeys with
  | cons entry entries ih =>
      obtain ⟨key, a⟩ := entry
      have hs : (sharedSystem V maxAge).step s .check = some { s with
          pass :=
            some ⟨entries, if s.isStale maxAge a then staleKeys ++ [key] else staleKeys⟩ } := by
        show s.check maxAge = _
        rw [SharedStore.check, hpass]
      obtain ⟨es, s', hpath, hnone, hended, hpushed, hwindows, harcs⟩ := ih
        (s := { s with
          pass :=
            some ⟨entries, if s.isStale maxAge a then staleKeys ++ [key] else staleKeys⟩ }) rfl
      refine ⟨_, s', .cons trivial hs hpath, hnone, hended, hpushed, hwindows, ?_⟩
      intro key' a'
      refine (harcs key' a').trans (and_congr_right fun _ => ?_)
      show _ ∧ (∀ b, _ → s.isStale maxAge b = false) ↔ _
      by_cases hfound : s.isStale maxAge a = true
      · grind
      · grind
  | nil =>
      induction staleKeys generalizing s with
      | cons key staleKeys ih =>
          have hs : (sharedSystem V maxAge).step s .remove =
              some { s with arcs := s.arcs.erase key, pass := some ⟨[], staleKeys⟩ } := by
            show s.remove = _
            rw [SharedStore.remove, hpass]
          obtain ⟨es, s', hpath, hnone, hended, hpushed, hwindows, harcs⟩ := ih
            (s := { s with arcs := s.arcs.erase key, pass := some ⟨[], staleKeys⟩ }) rfl
          refine ⟨_, s', .cons trivial hs hpath, hnone, hended, hpushed, hwindows, ?_⟩
          intro key' a'
          rw [harcs, lookup_erase_eq_some_iff, List.mem_cons, not_or]
          simp only [List.not_mem_nil, false_imp_iff, implies_true, and_true]
          tauto
      | nil =>
          have hs : (sharedSystem V maxAge).step s .finish =
              some { s with pass := none, evictedAt := some s.now } := by
            show s.finish = _
            rw [SharedStore.finish, hpass]
          exact ⟨_, _, .single trivial hs, rfl, rfl, rfl, rfl, by simp⟩

/-! ### Calls one after the other -/

/-- The window of a key. -/
def window (s : SharedStore V) (key : SampleKey) : Option (MetricWindow V) :=
  (s.arcs.lookup key).bind fun a => s.windows[a]?.map Prod.snd

/-- The map and the windows behind its handles are the windows of a store. -/
def Represents (s : SharedStore V) (store : MetricsStore V) : Prop :=
  ∀ key, store.windows.lookup key = s.window key

/-- The handle taken is the one of the key, and its window is the one of the key or a new one. -/
lemma lookup_eq (hcoherent : s.Coherent) (key : SampleKey) (sample : LabeledSample V)
    (maxSamples : ℕ) :
    ∃ a, (s.lookup key sample maxSamples).pending = s.pending ++ [⟨key, sample, a⟩] ∧
      (s.lookup key sample maxSamples).arcs.lookup key = some a ∧
      (s.lookup key sample maxSamples).window key =
        some ((s.window key).getD (MetricWindow.new maxSamples)) ∧
      ∀ key', key' ≠ key → (s.lookup key sample maxSamples).window key' = s.window key' := by
  unfold SharedStore.lookup
  split
  · rename_i a ha
    obtain ⟨w, hw⟩ := hcoherent.owner key a ha
    exact ⟨a, rfl, ha, by simp [window, ha, hw], fun _ _ => rfl⟩
  · rename_i hnone
    refine ⟨s.windows.length, rfl, AList.lookup_insert _, ?_, ?_⟩
    · simp [window, hnone]
    · intro key' hne
      rw [window, window, AList.lookup_insert_ne hne]
      rcases ha : s.arcs.lookup key' with _ | a
      · rfl
      · obtain ⟨w, hw⟩ := hcoherent.owner key' a ha
        rw [Option.bind_some, Option.bind_some, hw, getElem?_concat_of_some hw]

/-- A push through the handle of a key changes the window of the key alone. -/
lemma window_push (hcoherent : s.Coherent) {i : ℕ} {call : PushCall V}
    (hcall : s.pending[i]? = some call) (harc : s.arcs.lookup call.key = some call.window)
    (hs : s.push i = some s') (key : SampleKey) :
    s'.window key = if key = call.key then (s.window key).map (·.push call.sample)
      else s.window key := by
  obtain ⟨call', hcall', rfl⟩ := push_cases hs
  obtain rfl := Option.some.inj (hcall.symm.trans hcall')
  rw [window, window]
  rcases ha : s.arcs.lookup key with _ | a
  · simp
  · obtain ⟨w, hw⟩ := hcoherent.owner key a ha
    obtain ⟨w', hw'⟩ := hcoherent.owner call.key call.window harc
    rw [Option.bind_some, Option.bind_some, getElem?_modify_of_some hw, hw]
    by_cases hkey : key = call.key
    · subst hkey
      obtain rfl := Option.some.inj (ha.symm.trans harc)
      simp
    · have hne : call.window ≠ a := by
        rintro rfl
        exact hkey (congrArg Prod.fst (Option.some.inj (hw.symm.trans hw')))
      simp [hkey, hne]

/-- A call of `push_sample` with nothing in between is `pushSample`. -/
theorem Represents.pushSample {store : MetricsStore V} (h : s.Represents store)
    (hcoherent : s.Coherent) (key : SampleKey) (sample : LabeledSample V) (maxSamples : ℕ) :
    ∃ s', (sharedSystem V maxAge).Path System.Any s
        [.lookup key sample maxSamples, .push s.pending.length] s' ∧
      s'.Represents (store.pushSample key sample maxSamples) := by
  obtain ⟨a, hpending, harc, hself, hother⟩ := lookup_eq hcoherent key sample maxSamples
  have hcall : (s.lookup key sample maxSamples).pending[s.pending.length]? =
      some ⟨key, sample, a⟩ := by
    rw [hpending, List.getElem?_concat_length]
  obtain ⟨s', hs⟩ : ∃ s', (s.lookup key sample maxSamples).push s.pending.length = some s' := by
    rw [SharedStore.push, hcall]
    exact ⟨_, rfl⟩
  refine ⟨s', .cons trivial rfl (.single trivial hs), ?_⟩
  intro key'
  rw [window_push (hcoherent.lookup key sample maxSamples) hcall harc hs]
  by_cases hkey : key' = key
  · subst hkey
    rw [MetricsStore.lookup_pushSample_self, if_pos rfl, hself, h key']
    rfl
  · rw [MetricsStore.lookup_pushSample_of_ne hkey, if_neg hkey, hother key' hkey, h key']

/-- An eviction with nothing in between is `evictStaleWindows`. -/
theorem Represents.evictStaleWindows {store : MetricsStore V} (h : s.Represents store)
    (hpass : s.pass = none) :
    ∃ es s', (sharedSystem V maxAge).Path System.Any s es s' ∧ s'.pass = none ∧
      s'.evictedAt = some s.now ∧ s'.Represents (store.evictStaleWindows s.now maxAge).1 := by
  have hs : (sharedSystem V maxAge).step s .snapshot =
      some { s with pass := some ⟨s.arcs.entries, []⟩ } := by
    show s.snapshot = _
    rw [SharedStore.snapshot, hpass]
  obtain ⟨es, s', hpath, hnone, hended, -, hwindows, harcs⟩ := exists_finish maxAge
    (s := { s with pass := some ⟨s.arcs.entries, []⟩ }) rfl
  refine ⟨_, s', .cons trivial hs hpath, hnone, hended, ?_⟩
  intro key
  rw [MetricsStore.lookup_evictStaleWindows, h key, window, window, hwindows]
  rcases harc : s.arcs.lookup key with _ | a
  · have hgone : s'.arcs.lookup key = none := by
      refine Option.eq_none_iff_forall_ne_some.2 fun a ha => ?_
      rw [show s.arcs.lookup key = some a from ((harcs key a).1 ha).1] at harc
      cases harc
    simp [hgone]
  · have hstale : (((some a).bind fun a => s.windows[a]?.map Prod.snd).bind
        (MetricWindow.newestSampleAge s.now)).any (maxAge < ·) = s.isStale maxAge a := by
      rw [isStale, Option.bind_some, Option.bind_map]
      rfl
    rw [hstale]
    have hkept : s'.arcs.lookup key = some a ↔ s.isStale maxAge a = false := by
      rw [harcs]
      constructor
      · rintro ⟨-, -, hfound⟩
        exact hfound a (AList.mem_lookup_iff.1 harc)
      · intro hfound
        refine ⟨harc, List.not_mem_nil, fun b hb => ?_⟩
        obtain rfl := Option.some.inj (harc.symm.trans (AList.mem_lookup_iff.2 hb))
        exact hfound
    rcases hfound : s.isStale maxAge a with _ | _
    · rw [hkept.2 hfound]
      rfl
    · have hgone : s'.arcs.lookup key = none := by
        refine Option.eq_none_iff_forall_ne_some.2 fun b hb => ?_
        obtain rfl := Option.some.inj (harc.symm.trans ((harcs key b).1 hb).1)
        rw [hkept.1 hb] at hfound
        cases hfound
      rw [hgone]
      rfl

/-- From every state there is a run to the end of an eviction that compares ages at the same
instant. -/
lemma exists_evicted (maxAge : ℕ) (s : SharedStore V) :
    ∃ es s', (sharedSystem V maxAge).Path System.Any s es s' ∧ s'.pass = none ∧
      s'.evictedAt = some s.reference ∧ s'.pushed = s.pushed ∧ s'.windows = s.windows ∧
      ∀ call, s.Doomed call → s'.arcs.lookup call.key ≠ some call.window := by
  rcases hpass : s.pass with _ | pass
  · have hstale : s.staleKeys = [] := by
      rw [staleKeys, hpass]
      rfl
    rcases hended : s.evictedAt with _ | t
    · -- there has been no eviction yet
      have href : s.reference = s.now := by
        rw [reference, hpass, hended]
        rfl
      have hs : (sharedSystem V maxAge).step s .snapshot =
          some { s with pass := some ⟨s.arcs.entries, []⟩ } := by
        show s.snapshot = _
        rw [SharedStore.snapshot, hpass]
      obtain ⟨es, s', hpath, hnone, hended', hpushed, hwindows, harcs⟩ :=
        exists_finish maxAge
          (s := { s with pass := some ⟨s.arcs.entries, []⟩ }) rfl
      refine ⟨_, s', .cons trivial hs hpath, hnone, href ▸ hended', hpushed, hwindows, ?_⟩
      rintro call (harc | hmem) ha'
      · exact harc ((harcs _ _).1 ha').1
      · simp [hstale] at hmem
    · refine ⟨[], s, .nil s, hpass, ?_, rfl, rfl, ?_⟩
      · rw [reference, hpass, hended]
        rfl
      · rintro call (harc | hmem)
        · exact harc
        · simp [hstale] at hmem
  · obtain ⟨es, s', hpath, hnone, hended, hpushed, hwindows, harcs⟩ :=
      exists_finish maxAge hpass
    refine ⟨es, s', hpath, hnone, reference_of_pass hpass ▸ hended, hpushed, hwindows, ?_⟩
    rintro call (harc | hmem) ha'
    · exact harc ((harcs _ _).1 ha').1
    · exact ((harcs _ _).1 ha').2.1 (staleKeys_of_pass hpass ▸ hmem)

/-- A fresh sample of a doomed call is lost at the end of an eviction. -/
lemma exists_lost {before after : List (PushCall V)} {call : PushCall V}
    (hsplit : s.pushed = before ++ call :: after) (hdoom : s.Doomed call)
    (hfresh : elapsed s.reference call.sample.scrapedAt ≤ maxAge)
    (hkept : ¬ s.EvictedByCapacity call after) :
    ∃ es s', (sharedSystem V maxAge).Path System.Any s es s' ∧ ¬ s'.FreshKept maxAge := by
  obtain ⟨es, s', hpath, hnone, hended, hpushed, hwindows, harcs⟩ :=
    exists_evicted maxAge s
  refine ⟨es, s', hpath, fun hall => ?_⟩
  rcases hall _ hnone hended before call after (hpushed.trans hsplit) hfresh with hreach | hevict
  · exact harcs call hdoom (mem_getWindows.1 hreach.1)
  · obtain ⟨entry, hentry, hfull⟩ := hevict
    exact hkept ⟨entry, hwindows ▸ hentry, hfull⟩

/-- A step that does not spare fresh samples leads to a lost one. -/
lemma exists_lost_of_step {e : StoreEvent V} (hcoherent : s.Coherent)
    (hs : (sharedSystem V maxAge).step s e = some s') (hspares : ¬ s.SparesFresh maxAge e) :
    ∃ es s'', (sharedSystem V maxAge).Path System.Any s' es s'' ∧ ¬ s''.FreshKept maxAge := by
  cases e with
  | push i =>
      simp only [SparesFresh] at hspares
      push Not at hspares
      obtain ⟨call, hcall, hdoom, hfresh⟩ := hspares
      obtain ⟨call', hcall', rfl⟩ := push_cases hs
      obtain rfl := Option.some.inj (hcall.symm.trans hcall')
      have hsplit : s.pushed ++ [call] = s.pushed ++ call :: [] := rfl
      refine exists_lost hsplit hdoom hfresh ?_
      rintro ⟨entry, -, hfull⟩
      exact absurd (Nat.le_trans (Nat.le_max_right _ _) hfull) (by simp)
  | check =>
      simp only [SparesFresh] at hspares
      push Not at hspares
      obtain ⟨key, a, entries, staleKeys, hpass, hfound, entry, hentry, x, hx, hfresh⟩ := hspares
      obtain ⟨key', a', entries', staleKeys', hpass', rfl⟩ := check_cases hs
      obtain ⟨⟩ := hpass.symm.trans hpass'
      obtain ⟨before, call, after, hsplit, rfl, rfl, hkept⟩ := hcoherent.exists_call hentry hx
      have hkey : call.key = key := by
        obtain ⟨w, hw⟩ := hcoherent.holder call (Or.inr (by simp [hsplit]))
        obtain ⟨w', hw'⟩ := hcoherent.owner key _ (hcoherent.listed _ hpass _ List.mem_cons_self)
        exact congrArg Prod.fst (Option.some.inj (hw.symm.trans hw'))
      refine exists_lost hsplit (Or.inr ?_) hfresh hkept
      rw [staleKeys_of_pass rfl, if_pos hfound, hkey]
      exact List.mem_append_right _ List.mem_cons_self
  | _ => exact absurd trivial hspares

end SharedStore

/-- **Fresh samples are kept.** In every run in which a push by a doomed call is not of a fresh
sample and a window found stale has none, every fresh sample of a completed call can be reached
at the end of each eviction, unless the capacity of its window has evicted it.  After any other
step the run can go on to the end of an eviction that has lost a fresh sample. -/
theorem fresh_kept_unless_doomed (V : Type) (maxAge : ℕ) :
    (∀ s, (sharedSystem V maxAge).Reachable (SharedStore.SparesFresh maxAge) s →
      s.FreshKept maxAge) ∧
    (∀ s s' e, (sharedSystem V maxAge).Reachable System.Any s →
      (sharedSystem V maxAge).step s e = some s' → ¬ s.SparesFresh maxAge e →
      ∃ es s'', (sharedSystem V maxAge).Path System.Any s' es s'' ∧ ¬ s''.FreshKept maxAge) := by
  constructor
  · intro s hreach
    obtain ⟨hcoherent, hsafe⟩ := SharedStore.FreshSafe.of_reachable hreach
    exact hsafe.freshKept hcoherent
  · intro s s' e hreach hs hspares
    exact SharedStore.exists_lost_of_step (SharedStore.Coherent.of_reachable hreach) hs hspares

/-! ### Pushes around the check of a window -/

/-- The window of a metric of an EPA for one of its pods. -/
def webWindow : SampleKey := ⟨"default", "web", "queue_depth", "web-0"⟩

/-- A push by a call that is not doomed. -/
lemma SharedStore.sparesFresh_push {V : Type} {s : SharedStore V} {maxAge i : ℕ}
    (h : ∀ call ∈ s.pending[i]?, s.arcs.lookup call.key = some call.window ∧ s.staleKeys = []) :
    s.SparesFresh maxAge (.push i) := by
  intro call hcall hdoom
  obtain ⟨harc, hstale⟩ := h call hcall
  rcases hdoom with hdoom | hdoom
  · exact absurd harc hdoom
  · simp [hstale] at hdoom

/-- The window is filled again before it is checked. -/
def pushedInTime : List (StoreEvent ℕ) :=
  [.lookup webWindow ⟨7, 0, true, .gauge⟩ 40, .advance (secs 121), .push 0, .snapshot,
    .lookup webWindow ⟨9, secs 121, true, .gauge⟩ 40, .push 0, .check, .finish]

/-- The store after these events. -/
def storePushedInTime : SharedStore ℕ :=
  ((sharedSystem ℕ (secs 120)).exec .new pushedInTime).get (by decide +kernel)

lemma pushedInTime_run : (sharedSystem ℕ (secs 120)).Path (SharedStore.SparesFresh (secs 120))
    .new pushedInTime storePushedInTime := by
  refine .cons trivial rfl <| .cons trivial rfl <|
    .cons (SharedStore.sparesFresh_push (by decide +kernel)) rfl <| .cons trivial rfl <|
    .cons trivial rfl <| .cons (SharedStore.sparesFresh_push (by decide +kernel)) rfl <|
    .cons ?_ rfl <| .cons trivial rfl <| .nil _
  intro key a entries staleKeys hpass hstale
  obtain ⟨⟩ := hpass
  exact absurd hstale (by decide +kernel)

theorem fresh_kept_unless_doomed_in_time :
    storePushedInTime.evictedAt = some (secs 121) ∧ storePushedInTime.FreshKept (secs 120) :=
  ⟨by decide +kernel, (fresh_kept_unless_doomed ℕ (secs 120)).1 _ ⟨_, _, rfl, pushedInTime_run⟩⟩

/-- The window is found stale, and a fresh sample is pushed into it before it is removed. -/
def pushedTooLate : List (StoreEvent ℕ) :=
  [.lookup webWindow ⟨7, 0, true, .gauge⟩ 40, .push 0, .advance (secs 121), .snapshot, .check,
    .lookup webWindow ⟨9, secs 121, true, .gauge⟩ 40, .push 0, .remove, .finish]

/-- The store after these events. -/
def storePushedTooLate : SharedStore ℕ :=
  ((sharedSystem ℕ (secs 120)).exec .new pushedTooLate).get (by decide +kernel)

/-- **A fresh sample that is lost.** The sample is pushed at the very instant at which the
eviction ends, and the store has no window of its metric. -/
theorem fresh_sample_lost :
    (sharedSystem ℕ (secs 120)).Reachable System.Any storePushedTooLate ∧
    ¬ storePushedTooLate.FreshKept (secs 120) ∧
    storePushedTooLate.getWindows "default" "web" "queue_depth" = [] := by
  have hgone : storePushedTooLate.getWindows "default" "web" "queue_depth" = [] := by
    decide +kernel
  refine ⟨.of_exec rfl (Option.some_get _).symm, ?_, hgone⟩
  intro hall
  have hpushed : storePushedTooLate.pushed = [⟨webWindow, ⟨7, 0, true, .gauge⟩, 0⟩] ++
      ⟨webWindow, ⟨9, secs 121, true, .gauge⟩, 0⟩ :: [] := by decide +kernel
  rcases hall (secs 121) (by decide +kernel) (by decide +kernel) _ _ _ hpushed
    (by decide +kernel) with hreach | ⟨entry, -, hfull⟩
  · have hmem : ("web-0", 0) ∈ storePushedTooLate.getWindows "default" "web" "queue_depth" :=
      hreach.1
    rw [hgone] at hmem
    cases hmem
  · exact absurd (Nat.le_trans (Nat.le_max_right _ _) hfull) (by decide)

end ExternalPodAutoscaler.Store
