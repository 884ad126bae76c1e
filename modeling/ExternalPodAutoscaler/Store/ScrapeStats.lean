/-
The scrape statistics of an EPA (`ScrapeStats` of `store/types.rs` and its use in
`scraper/scheduler.rs` and `scraper/worker.rs`).

Workers count the scrapes of an EPA in two 32-bit counters.  At each round the scheduler swaps
them with zero, one after the other, and patches the status of the EPA with what it took; if
the patch fails, it adds both back.  `statsSystem` interleaves the atomic operations of both
sides for an EPA that stays registered, so that its counters are not removed, and keeps what
was recorded and which patches were sent.

The main result of this file is `statistics_conserved`: while fewer than `2 ^ 31` events are
unreported, what was sent, what the scheduler holds and what is in the counters add up to what
was recorded.
-/
import Mathlib.Algebra.BigOperators.Group.List.Basic
import Mathlib.Algebra.Order.Ring.Int
import Mathlib.Tactic.Common
import ExternalPodAutoscaler.Lib.Transition

namespace ExternalPodAutoscaler.Store

open ExternalPodAutoscaler.Lib

/-! ### Counters that wrap around -/

/-- What was sent, held and counted adds up to what was recorded, and neither is negative. -/
structure Balanced (sent : ℤ) (held current : BitVec 32) (recorded : ℕ) : Prop where
  sum_eq : sent + held.toInt + current.toInt = recorded
  held_nonneg : 0 ≤ held.toInt
  current_nonneg : 0 ≤ current.toInt

namespace Balanced

variable {sent : ℤ} {held current : BitVec 32} {recorded : ℕ}

/-- A sum of counters that are not negative wraps around from `2 ^ 31` on. -/
lemma toInt_add_of_lt {a b : BitVec 32} (ha : 0 ≤ a.toInt) (hb : 0 ≤ b.toInt)
    (hlt : a.toInt + b.toInt < 2 ^ 31) : (a + b).toInt = a.toInt + b.toInt := by
  rw [BitVec.toInt_add]
  exact Int.bmod_eq_of_le_mul_two (by omega) (by omega)

lemma toInt_zero : (0 : BitVec 32).toInt = 0 := rfl

/-- Nothing is recorded yet. -/
lemma start : Balanced 0 0 0 0 := ⟨rfl, toInt_zero.ge, toInt_zero.ge⟩

/-- One more event. -/
lemma record (h : Balanced sent held current recorded)
    (hfew : (recorded + 1 : ℕ) - sent < 2 ^ 31) :
    Balanced sent held (current + 1) (recorded + 1) := by
  have hone : (1 : BitVec 32).toInt = 1 := rfl
  obtain ⟨hsum, hheld, hcurrent⟩ := h
  have hadd : (current + 1).toInt = current.toInt + 1 := by
    rw [toInt_add_of_lt hcurrent (by omega) (by omega), hone]
  exact ⟨by omega, hheld, by omega⟩

/-- The counter is swapped with zero. -/
lemma take (h : Balanced sent 0 current recorded) : Balanced sent current 0 recorded := by
  have hzero := toInt_zero
  obtain ⟨hsum, -, hcurrent⟩ := h
  exact ⟨by omega, hcurrent, hzero.ge⟩

/-- What is held is sent. -/
lemma send (h : Balanced sent held current recorded) :
    Balanced (sent + held.toInt) 0 current recorded := by
  have hzero := toInt_zero
  obtain ⟨hsum, -, hcurrent⟩ := h
  exact ⟨by omega, hzero.ge, hcurrent⟩

/-- Nothing is held, and nothing is sent. -/
lemma drop (h : Balanced sent held current recorded) (hheld : held.toInt ≤ 0) :
    Balanced sent 0 current recorded := by
  have hzero := toInt_zero
  obtain ⟨hsum, hnonneg, hcurrent⟩ := h
  exact ⟨by omega, hzero.ge, hcurrent⟩

/-- What is held is added back. -/
lemma restore (h : Balanced sent held current recorded) (hfew : recorded - sent < 2 ^ 31) :
    Balanced sent 0 (current + held) recorded := by
  have hzero := toInt_zero
  obtain ⟨hsum, hheld, hcurrent⟩ := h
  have hadd := toInt_add_of_lt hcurrent hheld (by omega)
  exact ⟨by omega, hzero.ge, by omega⟩

end Balanced

/-! ### Rounds and workers -/

/-- The counters of an EPA. -/
structure ScrapeStats where
  scraped : BitVec 32
  errors : BitVec 32
deriving DecidableEq

namespace ScrapeStats

/-- `ScrapeStats::new`. -/
def new : ScrapeStats := ⟨0, 0⟩

/-- `record_success`. -/
def recordSuccess (stats : ScrapeStats) : ScrapeStats :=
  { stats with scraped := stats.scraped + 1 }

/-- `record_error`. -/
def recordError (stats : ScrapeStats) : ScrapeStats := { stats with errors := stats.errors + 1 }

/-- The first swap of `snapshot_and_reset`. -/
def swapScraped (stats : ScrapeStats) : BitVec 32 × ScrapeStats :=
  (stats.scraped, { stats with scraped := 0 })

/-- Its second swap. -/
def swapErrors (stats : ScrapeStats) : BitVec 32 × ScrapeStats :=
  (stats.errors, { stats with errors := 0 })

/-- The first addition of `restore`. -/
def restoreScraped (stats : ScrapeStats) (scraped : BitVec 32) : ScrapeStats :=
  { stats with scraped := stats.scraped + scraped }

/-- Its second addition. -/
def restoreErrors (stats : ScrapeStats) (errors : BitVec 32) : ScrapeStats :=
  { stats with errors := stats.errors + errors }

end ScrapeStats

/-- How far the scheduler is with the statistics of the EPA, with what it holds. -/
inductive StatsRound where
  | idle
  /-- The first counter is swapped. -/
  | swapped (scraped : BitVec 32)
  /-- Both are, and the patch is not decided. -/
  | snapshot (scraped errors : BitVec 32)
  /-- The patch has failed. -/
  | failed (scraped errors : BitVec 32)
  /-- The first counter is restored. -/
  | restored (errors : BitVec 32)
deriving DecidableEq

namespace StatsRound

/-- What the scheduler holds of the first counter. -/
def heldScraped : StatsRound → BitVec 32
  | swapped scraped => scraped
  | snapshot scraped _ => scraped
  | failed scraped _ => scraped
  | _ => 0

/-- What it holds of the second. -/
def heldErrors : StatsRound → BitVec 32
  | snapshot _ errors => errors
  | failed _ errors => errors
  | restored errors => errors
  | _ => 0

end StatsRound

/-- The counters, the round of the scheduler, how many events of each kind were recorded, and
the patches that were sent. -/
structure StatsWorld where
  stats : ScrapeStats
  round : StatsRound
  successes : ℕ
  failures : ℕ
  patches : List (BitVec 32 × BitVec 32)

inductive StatsEvent where
  /-- A worker's `record_success`. -/
  | success
  /-- A worker's `record_error`. -/
  | error
  | swapScraped
  | swapErrors
  /-- There is nothing to report. -/
  | skip
  /-- The status is patched. -/
  | patch
  /-- The patch fails. -/
  | patchFails
  | restoreScraped
  | restoreErrors

namespace StatsWorld

/-- `scraped > 0 || errors > 0`. -/
def isReported (scraped errors : BitVec 32) : Bool := 0 < scraped.toInt || 0 < errors.toInt

/-- One atomic operation. -/
def step (s : StatsWorld) : StatsEvent → Option StatsWorld
  | .success =>
    some { s with stats := s.stats.recordSuccess, successes := s.successes + 1 }
  | .error => some { s with stats := s.stats.recordError, failures := s.failures + 1 }
  | .swapScraped =>
    match s.round with
    | .idle =>
      let (scraped, stats) := s.stats.swapScraped
      some { s with stats := stats, round := .swapped scraped }
    | _ => none
  | .swapErrors =>
    match s.round with
    | .swapped scraped =>
      let (errors, stats) := s.stats.swapErrors
      some { s with stats := stats, round := .snapshot scraped errors }
    | _ => none
  | .skip =>
    match s.round with
    | .snapshot scraped errors =>
      if isReported scraped errors then none else some { s with round := .idle }
    | _ => none
  | .patch =>
    match s.round with
    | .snapshot scraped errors =>
      if isReported scraped errors then
        some { s with round := .idle, patches := s.patches ++ [(scraped, errors)] }
      else none
    | _ => none
  | .patchFails =>
    match s.round with
    | .snapshot scraped errors =>
      if isReported scraped errors then some { s with round := .failed scraped errors } else none
    | _ => none
  | .restoreScraped =>
    match s.round with
    | .failed scraped errors =>
      some { s with stats := s.stats.restoreScraped scraped, round := .restored errors }
    | _ => none
  | .restoreErrors =>
    match s.round with
    | .restored errors =>
      some { s with stats := s.stats.restoreErrors errors, round := .idle }
    | _ => none

/-- The sum of the first values of the patches. -/
def sentScraped (s : StatsWorld) : ℤ := (s.patches.map fun p => p.1.toInt).sum

/-- The sum of the second values. -/
def sentErrors (s : StatsWorld) : ℤ := (s.patches.map fun p => p.2.toInt).sum

/-- Fewer than `2 ^ 31` events of each kind are unreported. -/
def FewUnreported (s : StatsWorld) : Prop :=
  s.successes - s.sentScraped < 2 ^ 31 ∧ s.failures - s.sentErrors < 2 ^ 31

instance (s : StatsWorld) : Decidable s.FewUnreported := inferInstanceAs (Decidable (_ ∧ _))

/-- What was sent, what the scheduler holds and what is counted is what was recorded, of either
kind. -/
structure Conserved (s : StatsWorld) : Prop where
  scraped : Balanced s.sentScraped s.round.heldScraped s.stats.scraped s.successes
  errors : Balanced s.sentErrors s.round.heldErrors s.stats.errors s.failures

end StatsWorld

/-- The workers and the scheduler of an EPA that stays registered. -/
def statsSystem : System StatsWorld StatsEvent where
  init s := s = ⟨.new, .idle, 0, 0, []⟩
  step s e := s.step e

section Runs

open StatsWorld

variable {s s' : StatsWorld} {e : StatsEvent}

/-- Every operation conserves the statistics, if few events are unreported after it. -/
lemma StatsWorld.Conserved.step (h : s.Conserved) (hfew : s'.FewUnreported)
    (hs : s.step e = some s') : s'.Conserved := by
  obtain ⟨stats, round, successes, failures, patches⟩ := s
  obtain ⟨hscraped, herrors⟩ := h
  cases e with
  | success =>
      obtain rfl := Option.some.inj hs
      exact ⟨hscraped.record hfew.1, herrors⟩
  | error =>
      obtain rfl := Option.some.inj hs
      exact ⟨hscraped, herrors.record hfew.2⟩
  | swapScraped =>
      cases round <;> cases hs
      exact ⟨hscraped.take, herrors⟩
  | swapErrors =>
      cases round <;> cases hs
      exact ⟨hscraped, herrors.take⟩
  | skip =>
      rcases round with _ | scraped | ⟨scraped, errors⟩ | ⟨scraped, errors⟩ | errors <;>
        try cases hs
      simp only [StatsWorld.step] at hs
      split at hs
      · cases hs
      · rename_i hreported
        obtain rfl := Option.some.inj hs
        simp only [isReported, Bool.or_eq_true, decide_eq_true_eq, not_or, not_lt] at hreported
        exact ⟨hscraped.drop hreported.1, herrors.drop hreported.2⟩
  | patch =>
      rcases round with _ | scraped | ⟨scraped, errors⟩ | ⟨scraped, errors⟩ | errors <;>
        try cases hs
      simp only [StatsWorld.step] at hs
      split at hs
      · obtain rfl := Option.some.inj hs
        refine ⟨?_, ?_⟩
        · simp only [sentScraped, List.map_append, List.sum_append, List.map_singleton,
            List.sum_singleton]
          exact hscraped.send
        · simp only [sentErrors, List.map_append, List.sum_append, List.map_singleton,
            List.sum_singleton]
          exact herrors.send
      · cases hs
  | patchFails =>
      rcases round with _ | scraped | ⟨scraped, errors⟩ | ⟨scraped, errors⟩ | errors <;>
        try cases hs
      simp only [StatsWorld.step] at hs
      split at hs
      · obtain rfl := Option.some.inj hs
        exact ⟨hscraped, herrors⟩
      · cases hs
  | restoreScraped =>
      cases round <;> cases hs
      exact ⟨hscraped.restore hfew.1, herrors⟩
  | restoreErrors =>
      cases round <;> cases hs
      exact ⟨hscraped, herrors.restore hfew.2⟩

/-- Few events are unreported after the operation. -/
def KeepsFewUnreported (s : StatsWorld) (e : StatsEvent) : Prop :=
  ∀ s' ∈ s.step e, s'.FewUnreported

instance (s : StatsWorld) (e : StatsEvent) : Decidable (KeepsFewUnreported s e) :=
  inferInstanceAs (Decidable (∀ s' ∈ s.step e, s'.FewUnreported))

/-- **Scrape statistics are conserved.** In every run of the workers and the scheduler in which
fewer than `2 ^ 31` events of each kind are unreported after every operation, the sum of the
values that were sent, the value that the scheduler holds and the value of the counter is the
number of the events that were recorded. -/
theorem statistics_conserved (hrun : statsSystem.Reachable KeepsFewUnreported s) :
    s.sentScraped + s.round.heldScraped.toInt + s.stats.scraped.toInt = s.successes ∧
      s.sentErrors + s.round.heldErrors.toInt + s.stats.errors.toInt = s.failures := by
  have hconserved : s.Conserved := by
    refine hrun.invariant ?_ ?_
    · rintro s rfl
      exact ⟨.start, .start⟩
    · intro s e s' h hfew hs
      exact h.step (hfew s' hs) hs
  exact ⟨hconserved.scraped.sum_eq, hconserved.errors.sum_eq⟩

end Runs

/-! ### A round that fails -/

/-- A scrape succeeds, and one fails between the two swaps; the patch fails, and what was taken
is half restored. -/
def failedRound : List StatsEvent :=
  [.success, .swapScraped, .error, .swapErrors, .patchFails, .success, .restoreScraped]

/-- The state after these operations. -/
def afterFailedRound : StatsWorld := ⟨⟨2, 0⟩, .restored 1, 2, 1, []⟩

theorem statistics_conserved_failed_round :
    afterFailedRound.sentScraped + afterFailedRound.round.heldScraped.toInt +
        afterFailedRound.stats.scraped.toInt = 2 ∧
      afterFailedRound.sentErrors + afterFailedRound.round.heldErrors.toInt +
        afterFailedRound.stats.errors.toInt = 1 := by
  refine statistics_conserved ⟨_, failedRound, rfl, ?_⟩
  exact .cons (by decide +kernel) rfl <| .cons (by decide +kernel) rfl <|
    .cons (by decide +kernel) rfl <| .cons (by decide +kernel) rfl <|
    .cons (by decide +kernel) rfl <| .cons (by decide +kernel) rfl <|
    .cons (by decide +kernel) rfl <| .nil _

-- from `2 ^ 31` events on a counter is negative
example : ((2147483647 : BitVec 32) + 1).toInt = -2147483648 := by decide

end ExternalPodAutoscaler.Store
