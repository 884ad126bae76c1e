/-
Logs with resets and bounded queues.

Events are recorded in a log, and some of them reset it: then it holds what has been recorded
since the last reset (`foldl_logAfter`).  A bounded queue drops its oldest element when it is full,
so that it holds the last elements that were pushed (`foldl_pushBounded`).
-/
import Mathlib.Data.List.DropRight
import Mathlib.Tactic.Common

namespace ExternalPodAutoscaler.Lib

variable {ε α : Type*}

/-! ### Logs -/

/-- The log after an event. -/
def logAfter (resets : ε → Bool) (record : ε → Option α) (log : List α) (e : ε) : List α :=
  if resets e then [] else log ++ (record e).toList

/-- What the events since the last reset have recorded. -/
def recordedSince (resets : ε → Bool) (record : ε → Option α) (events : List ε) : List α :=
  (events.rtakeWhile fun e => !resets e).filterMap record

/-- **Logs.** The log holds what has been recorded since the last reset. -/
theorem foldl_logAfter (resets : ε → Bool) (record : ε → Option α) (events : List ε) :
    events.foldl (logAfter resets record) [] = recordedSince resets record events := by
  induction events using List.reverseRecOn with
  | nil => rfl
  | append_singleton events e ih =>
      rw [List.foldl_concat, ih, logAfter, recordedSince, recordedSince, List.rtakeWhile_concat]
      by_cases he : resets e = true
      · simp [he]
      · cases hrecord : record e <;> simp [he, hrecord]

/-! ### Bounded queues -/

/-- A push into a queue for `n` elements. -/
def pushBounded (n : ℕ) (queue : List α) (x : α) : List α :=
  (if n ≤ queue.length then queue.tail else queue) ++ [x]

lemma length_rtake (l : List α) (n : ℕ) : (l.rtake n).length = min n l.length := by
  rw [List.rtake, List.length_drop]
  omega

/-- The last elements are the same after a push. -/
lemma pushBounded_rtake {n : ℕ} (hn : 1 ≤ n) (l : List α) (x : α) :
    pushBounded n (l.rtake n) x = (l ++ [x]).rtake n := by
  obtain ⟨m, rfl⟩ := Nat.exists_eq_add_of_le' hn
  rw [List.rtake_concat_succ, pushBounded, length_rtake]
  congr 1
  by_cases hfull : m + 1 ≤ l.length
  · rw [if_pos (le_min le_rfl hfull), List.rtake, List.tail_drop, List.rtake]
    congr 1
    omega
  · rw [if_neg (by omega), List.rtake, List.rtake]
    congr 1
    omega

/-- **Bounded queues.** A queue holds the last elements pushed, at least one. -/
theorem foldl_pushBounded (n : ℕ) (l : List α) :
    l.foldl (pushBounded n) [] = l.rtake (max n 1) := by
  induction l using List.reverseRecOn with
  | nil => exact (List.rtake_nil _).symm
  | append_singleton l x ih =>
      have hroom : ∀ queue : List α, pushBounded n queue x = pushBounded (max n 1) queue x := by
        intro queue
        rcases queue with _ | ⟨y, queue⟩
        · simp [pushBounded]
        · have hiff : n ≤ (y :: queue).length ↔ max n 1 ≤ (y :: queue).length := by
            rw [List.length_cons]
            omega
          simp only [pushBounded, hiff]
      rw [List.foldl_concat, ih, hroom, pushBounded_rtake (le_max_right n 1)]

end ExternalPodAutoscaler.Lib
