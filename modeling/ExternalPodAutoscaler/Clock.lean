/-
Instants and durations.

Instants and durations are natural numbers of nanoseconds.  Instants count from an origin
common to all replicas; only differences of instants taken on one replica are ever used
by the code.
-/
import Mathlib.Data.Nat.Notation

namespace ExternalPodAutoscaler

/-- `Duration::from_secs`. -/
def secs (n : ℕ) : ℕ := n * 1000000000

/-- `Instant::elapsed`, read at `now`; it saturates at zero. -/
def elapsed (now since : ℕ) : ℕ := now - since

lemma secs_add (m n : ℕ) : secs (m + n) = secs m + secs n := by
  simp only [secs]
  omega

end ExternalPodAutoscaler
