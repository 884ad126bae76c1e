/-
Counting removals by the size of a collection.

A call reads how many entries a collection has, removes some of them at once, reads the number
again and returns the difference, which is a natural number or else a panic.  Meanwhile others
change the collection.

The main results of this file are `checkedSub_eq_removed_iff`: the difference is what the call
has removed exactly if others have added as many entries between the two readings as they have
taken; and `checkedSub_eq_none_iff`: there is no difference exactly if they have added more than
was taken in all.
-/
import Mathlib.Data.Finset.Card
import Mathlib.Tactic.Common
import ExternalPodAutoscaler.Lib.Transition

namespace ExternalPodAutoscaler.Lib

/-- Subtraction of natural numbers, `none` if it underflows. -/
def checkedSub (m n : ℕ) : Option ℕ := if n ≤ m then some (m - n) else none

lemma checkedSub_eq_none_iff_lt {m n : ℕ} : checkedSub m n = none ↔ m < n := by
  rw [checkedSub, ite_eq_right_iff, ← not_le]
  simp

lemma checkedSub_eq_some_iff {m n k : ℕ} : checkedSub m n = some k ↔ m = n + k := by
  rw [checkedSub]
  split
  · rw [Option.some_inj]
    omega
  · refine iff_of_false nofun ?_
    omega

/-- How far a call has got, with what it has read and, for the proof, how many entries it has
removed. -/
inductive CountingStage where
  | called
  | counted (before : ℕ)
  | removed (before removed : ℕ)
  | returned (before removed after : ℕ)
deriving DecidableEq

/-- The call is between its two readings. -/
def CountingStage.isCounting : CountingStage → Bool
  | .counted _ | .removed _ _ => true
  | _ => false

/-- The collection and the call. -/
structure Counting (σ : Type*) where
  store : σ
  stage : CountingStage
deriving DecidableEq

inductive CountingEvent (ρ ε : Type*) where
  | countBefore
  | remove (r : ρ)
  | countAfter
  /-- Others change the collection. -/
  | other (c : ε)

namespace Counting

variable {σ ρ ε K : Type*} [DecidableEq K] (keys : σ → Finset K) (sweep : σ → ρ → σ)
  (change : σ → ε → σ)

/-- The runs of one call. -/
def system : System (Counting σ) (CountingEvent ρ ε) where
  init s := s.stage = .called
  step s e :=
    match e, s.stage with
    | .countBefore, .called => some { s with stage := .counted (keys s.store).card }
    | .remove r, .counted before =>
      some ⟨sweep s.store r, .removed before (keys s.store \ keys (sweep s.store r)).card⟩
    | .countAfter, .removed before removed =>
      some { s with stage := .returned before removed (keys s.store).card }
    | .other c, _ => some { s with store := change s.store c }
    | _, _ => none

/-- The entries that others add in a step between the readings. -/
def added (s : Counting σ) : CountingEvent ρ ε → ℕ
  | .other c => if s.stage.isCounting then (keys (change s.store c) \ keys s.store).card else 0
  | _ => 0

/-- The entries that others take in a step between the readings. -/
def taken (s : Counting σ) : CountingEvent ρ ε → ℕ
  | .other c => if s.stage.isCounting then (keys s.store \ keys (change s.store c)).card else 0
  | _ => 0

/-- What is missing since the first reading and has not been removed by the call. -/
def missing (s : Counting σ) : ℤ :=
  match s.stage with
  | .called => 0
  | .counted before => before - (keys s.store).card
  | .removed before removed => before - removed - (keys s.store).card
  | .returned before removed after => before - removed - after

variable {keys sweep change} {s s' : Counting σ} {es : List (CountingEvent ρ ε)}
  {e : CountingEvent ρ ε}

/-- What one collection has and another has not makes the difference of their sizes. -/
lemma card_add_card_sdiff (s t : Finset K) : t.card + (s \ t).card = s.card + (t \ s).card := by
  rw [Nat.add_comm, Finset.card_sdiff_add_card, Nat.add_comm, Finset.card_sdiff_add_card,
    Finset.union_comm]

/-- Only what others add and take changes what is missing. -/
lemma missing_step (hsweep : ∀ s r, keys (sweep s r) ⊆ keys s)
    (h : (system keys sweep change).step s e = some s') :
    missing keys s' + added keys change s e = missing keys s + taken keys change s e := by
  obtain ⟨store, stage⟩ := s
  cases e with
  | countBefore =>
      cases stage with
      | called =>
          obtain rfl := Option.some.inj h
          simp [missing, added, taken]
      | _ => cases h
  | remove r =>
      cases stage with
      | counted before =>
          obtain rfl := Option.some.inj h
          have hcard := card_add_card_sdiff (keys store) (keys (sweep store r))
          rw [Finset.sdiff_eq_empty_iff_subset.2 (hsweep store r), Finset.card_empty] at hcard
          simp only [missing, added, taken]
          omega
      | _ => cases h
  | countAfter =>
      cases stage with
      | removed before removed =>
          obtain rfl := Option.some.inj h
          simp [missing, added, taken]
      | _ => cases h
  | other c =>
      obtain rfl : (⟨change store c, stage⟩ : Counting σ) = s' := by
        cases stage <;> exact Option.some.inj h
      have hcard := card_add_card_sdiff (keys store) (keys (change store c))
      cases stage with
      | called => simp [missing, added, taken, CountingStage.isCounting]
      | counted before =>
          simp only [missing, added, taken, CountingStage.isCounting, if_true]
          omega
      | removed before removed =>
          simp only [missing, added, taken, CountingStage.isCounting, if_true]
          omega
      | returned before removed after => simp [missing, added, taken, CountingStage.isCounting]

section Run

variable {before removed after : ℕ}

/-- **The balance of a call.** The difference of the readings is what the call has removed and
others have taken, without what others have added. -/
theorem balance (hsweep : ∀ s r, keys (sweep s r) ⊆ keys s)
    (hs : s.stage = .called) (h : (system keys sweep change).Path System.Any s es s')
    (hreturned : s'.stage = .returned before removed after) :
    before + (system keys sweep change).total (added keys change) s es =
      after + removed + (system keys sweep change).total (taken keys change) s es := by
  have hstep : ∀ (s : Counting σ) (e : CountingEvent ρ ε) (s' : Counting σ), System.Any s e →
      (system keys sweep change).step s e = some s' →
      missing keys s' + added keys change s e = missing keys s + taken keys change s e :=
    fun _ _ _ _ hstep => missing_step hsweep hstep
  have hbalance := h.balance hstep
  have hfirst : missing keys s = 0 := by rw [missing, hs]
  have hlast : missing keys s' = before - removed - after := by rw [missing, hreturned]
  omega

/-- **The number is right** exactly if others have added as many entries as they have taken. -/
theorem checkedSub_eq_removed_iff (hsweep : ∀ s r, keys (sweep s r) ⊆ keys s)
    (hs : s.stage = .called) (h : (system keys sweep change).Path System.Any s es s')
    (hreturned : s'.stage = .returned before removed after) :
    checkedSub before after = some removed ↔
      (system keys sweep change).total (added keys change) s es =
        (system keys sweep change).total (taken keys change) s es := by
  have hbalance := balance hsweep hs h hreturned
  rw [checkedSub_eq_some_iff]
  omega

/-- **The subtraction underflows** exactly if others have added more entries than were taken and
removed. -/
theorem checkedSub_eq_none_iff (hsweep : ∀ s r, keys (sweep s r) ⊆ keys s)
    (hs : s.stage = .called) (h : (system keys sweep change).Path System.Any s es s')
    (hreturned : s'.stage = .returned before removed after) :
    checkedSub before after = none ↔
      (system keys sweep change).total (taken keys change) s es + removed <
        (system keys sweep change).total (added keys change) s es := by
  have hbalance := balance hsweep hs h hreturned
  rw [checkedSub_eq_none_iff_lt]
  omega

end Run

end Counting

end ExternalPodAutoscaler.Lib
