/-
The cache of aggregated values (`store/ops.rs`, `CachedAggregation` of `store/types.rs`).

A value is cached with the instant at which it was computed and the time for which it may be
used.  `cleanup_expired_cache` removes the values that have expired, and reads the number of entries
before and after; `getCached_cleanup` says that nobody notices, and that the difference is the
number of expired values if nobody changes the map meanwhile.
-/
import ExternalPodAutoscaler.Clock
import ExternalPodAutoscaler.Lib.CountedRemoval
import ExternalPodAutoscaler.Lib.Expiry
import ExternalPodAutoscaler.Store.Window

namespace ExternalPodAutoscaler.Store

open ExternalPodAutoscaler.Lib

/-- An aggregated value, when it was computed, and for how long it may be used. -/
structure CachedAggregation (V : Type) where
  value : V
  computedAt : ℕ
  ttl : ℕ

namespace CachedAggregation

variable {V : Type}

/-- The value is still valid. -/
def isValid (now : ℕ) (cached : CachedAggregation V) : Bool :=
  elapsed now cached.computedAt < cached.ttl

/-- Cached values expire. -/
def expiring (V : Type) : Expiring (CachedAggregation V) where
  valid := isValid
  valid_of_le := by
    intro t t' cached hle hvalid
    have hage : elapsed t' cached.computedAt < cached.ttl := of_decide_eq_true hvalid
    refine decide_eq_true ?_
    simp only [elapsed] at hage ⊢
    omega

end CachedAggregation

/-- The cached value of each metric. -/
abbrev ResultCache (V : Type) := AList fun _ : CacheKey => CachedAggregation V

namespace ResultCache

variable {V : Type}

/-- The cached value of a metric, if it is still valid. -/
def getCached (cache : ResultCache V) (now : ℕ) (key : CacheKey) : Option V :=
  ((cache.lookup key).filter (CachedAggregation.isValid now)).map CachedAggregation.value

/-- Caches a value that is computed now. -/
def cacheResult (cache : ResultCache V) (now : ℕ) (key : CacheKey) (value : V) (ttl : ℕ) :
    ResultCache V :=
  cache.insert key ⟨value, now, ttl⟩

/-- Removes the expired values, and counts them by the number of entries before and after. -/
def cleanupExpiredCache (cache : ResultCache V) (now : ℕ) : ResultCache V × Option ℕ :=
  let kept := (CachedAggregation.expiring V).cleanup now cache
  (kept, checkedSub cache.keys.length kept.keys.length)

variable {cache cache' : ResultCache V} {now : ℕ} {key : CacheKey} {value : V}

lemma getCached_eq :
    cache.getCached now key =
      ((CachedAggregation.expiring V).readAt now cache key).map CachedAggregation.value := rfl

lemma getCached_eq_some_iff :
    cache.getCached now key = some value ↔
      ∃ cached, cache.lookup key = some cached ∧ elapsed now cached.computedAt < cached.ttl ∧
        cached.value = value := by
  rw [getCached_eq, Option.map_eq_some_iff]
  constructor
  · rintro ⟨cached, hread, rfl⟩
    obtain ⟨hlookup, hvalid⟩ := Expiring.readAt_eq_some_iff.1 hread
    exact ⟨cached, hlookup, of_decide_eq_true hvalid, rfl⟩
  · rintro ⟨cached, hlookup, hvalid, rfl⟩
    exact ⟨cached, Expiring.readAt_eq_some_iff.2 ⟨hlookup, decide_eq_true hvalid⟩, rfl⟩

/-- **The cleanup is not noticed**, and it counts the expired values. -/
theorem getCached_cleanup (cache : ResultCache V) (now : ℕ) :
    (∀ later key, now ≤ later →
      (cache.cleanupExpiredCache now).1.getCached later key = cache.getCached later key) ∧
    (cache.cleanupExpiredCache now).2 =
      some (cache.entries.countP fun entry => !entry.2.isValid now) := by
  refine ⟨fun later key hle => ?_, checkedSub_eq_some_iff.2 ?_⟩
  · rw [getCached_eq, getCached_eq, cleanupExpiredCache]
    exact congrArg _ (Expiring.AgreeFrom.cleanup now cache later key hle)
  · have hkept : ((CachedAggregation.expiring V).cleanup now cache).entries.length =
        cache.entries.countP fun entry => entry.2.isValid now :=
      List.countP_eq_length_filter.symm
    simp only [AList.keys, List.keys, List.length_map]
    have hsplit := List.length_eq_countP_add_countP (l := cache.entries)
      fun entry => entry.2.isValid now
    simpa only [hkept, Bool.not_eq_true, Bool.decide_eq_false] using hsplit

end ResultCache

end ExternalPodAutoscaler.Store
