/-
The numbers of removed entries (`retain_pod_windows` and `cleanup_expired_cache` of
`store/ops.rs`).

Both calls read the size of a map, go through it once and return by how much the size has
dropped at a second reading.  Other calls of the store go on between the readings.  The
subtraction is one of `usize`, so it panics in a checked build if the map has grown.

The main result of this file is `removal_count_iff`: the number returned is the number of entries
that the call has removed exactly if the other calls have added as many entries to the map
between the readings as they have taken from it.
-/
import ExternalPodAutoscaler.Lib.CountedRemoval
import ExternalPodAutoscaler.Store.Calls

namespace ExternalPodAutoscaler.Store

open ExternalPodAutoscaler.Api ExternalPodAutoscaler.Lib

/-- A key of one of the two maps. -/
abbrev EntryKey := SampleKey ⊕ CacheKey

/-- The calls that count what they remove. -/
inductive CountedCall where
  | retainPodWindows (ns epaName : String) (activePods : List String)
  | cleanupExpiredCache
deriving DecidableEq

namespace CountedCall

variable {V : Type}

/-- The keys of the map that the call goes through. -/
def keys : CountedCall → StoreMaps V → Finset EntryKey
  | .retainPodWindows _ _ _, maps => (maps.windows.keys.map Sum.inl).toFinset
  | .cleanupExpiredCache, maps => (maps.cache.keys.map Sum.inr).toFinset

/-- The call of `retain`, with the keys of the cache whose values have expired then. -/
def retainCall : CountedCall → List CacheKey → StoreCall V
  | .retainPodWindows ns epaName activePods, _ => .retainPodWindows ns epaName activePods
  | .cleanupExpiredCache, expired => .cleanupExpiredCache expired

/-- The runs of the call among other calls of the store. -/
def runs (V : Type) (call : CountedCall) :
    System (Counting (StoreMaps V)) (CountingEvent (List CacheKey) (StoreCall V)) :=
  Counting.system call.keys (fun maps expired => maps.apply (call.retainCall expired))
    StoreMaps.apply

/-- The entries of the map that other calls add between the two readings. -/
def added (call : CountedCall) :
    Counting (StoreMaps V) → List (CountingEvent (List CacheKey) (StoreCall V)) → ℕ :=
  (call.runs V).total (Counting.added call.keys StoreMaps.apply)

/-- The entries of the map that other calls take between the two readings. -/
def taken (call : CountedCall) :
    Counting (StoreMaps V) → List (CountingEvent (List CacheKey) (StoreCall V)) → ℕ :=
  (call.runs V).total (Counting.taken call.keys StoreMaps.apply)

/-- The call adds nothing to its map. -/
lemma keys_retainCall_subset (call : CountedCall) (maps : StoreMaps V) (expired : List CacheKey) :
    call.keys (maps.apply (call.retainCall expired)) ⊆ call.keys maps := by
  cases call with
  | retainPodWindows ns epaName activePods =>
      intro key hkey
      simp only [keys, retainCall, StoreMaps.apply, List.mem_toFinset, List.mem_map] at hkey ⊢
      obtain ⟨key, hmem, rfl⟩ := hkey
      exact ⟨key, (mem_retain.1 hmem).2, rfl⟩
  | cleanupExpiredCache =>
      intro key hkey
      simp only [keys, retainCall, StoreMaps.apply, List.mem_toFinset, List.mem_map] at hkey ⊢
      obtain ⟨key, hmem, rfl⟩ := hkey
      exact ⟨key, (mem_retain.1 hmem).2, rfl⟩

end CountedCall

/-- **Removal counts.** In every run the call returns the number of entries that it has removed
exactly if other calls have added as many entries to the map between the two readings as they
have taken from it; and the subtraction underflows exactly if they have added more than they and
the call together have taken. -/
theorem removal_count_iff {V : Type} {call : CountedCall} {s s' : Counting (StoreMaps V)}
    {es : List (CountingEvent (List CacheKey) (StoreCall V))} {before removed after : ℕ}
    (hcalled : s.stage = .called) (hrun : (call.runs V).Path System.Any s es s')
    (hreturned : s'.stage = .returned before removed after) :
    (checkedSub before after = some removed ↔ call.added s es = call.taken s es) ∧
    (checkedSub before after = none ↔ call.taken s es + removed < call.added s es) :=
  ⟨Counting.checkedSub_eq_removed_iff call.keys_retainCall_subset hcalled hrun hreturned,
    Counting.checkedSub_eq_none_iff call.keys_retainCall_subset hcalled hrun hreturned⟩

/-! ### A sample pushed meanwhile -/

/-- The window of `web-0`. -/
def webKey : SampleKey := ⟨"default", "web", "queue_depth", "web-0"⟩

/-- The store of one window. -/
def storeOfOne : Counting (StoreMaps ℕ) := ⟨StoreMaps.new.apply (.pushSample webKey), .called⟩

/-- All pods of the EPA are active, and a worker of another EPA pushes its first sample between
the readings. -/
def pushMeanwhile : List (CountingEvent (List CacheKey) (StoreCall ℕ)) :=
  [.countBefore, .other (.pushSample ⟨"default", "api", "latency", "api-0"⟩), .remove [],
    .countAfter]

/-- The call of the scheduler for the EPA. -/
def webCall : CountedCall := .retainPodWindows "default" "web" ["web-0"]

/-- The state after the call. -/
def afterPush : Counting (StoreMaps ℕ) :=
  ((webCall.runs ℕ).exec storeOfOne pushMeanwhile).get (by decide +kernel)

lemma path_afterPush : (webCall.runs ℕ).Path System.Any storeOfOne pushMeanwhile afterPush :=
  System.exec_eq_some_iff.1 (Option.some_get _).symm

lemma stage_afterPush : afterPush.stage = .returned 1 0 2 := by
  decide +kernel

/-- **A count that underflows.** The call removes nothing, the map grows, and the difference of
its sizes is no natural number. -/
theorem push_underflows :
    (webCall.runs ℕ).Path System.Any storeOfOne pushMeanwhile afterPush ∧
      afterPush.stage = .returned 1 0 2 ∧ checkedSub 1 2 = none :=
  ⟨path_afterPush, stage_afterPush, rfl⟩

theorem removal_count_iff_push :
    (checkedSub 1 2 = some 0 ↔
      webCall.added storeOfOne pushMeanwhile = webCall.taken storeOfOne pushMeanwhile) ∧
    (checkedSub 1 2 = none ↔
      webCall.taken storeOfOne pushMeanwhile + 0 < webCall.added storeOfOne pushMeanwhile) :=
  removal_count_iff rfl path_afterPush stage_afterPush

end ExternalPodAutoscaler.Store
