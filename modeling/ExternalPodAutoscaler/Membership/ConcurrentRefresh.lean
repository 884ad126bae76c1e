/-
Concurrent refreshes of different EPAs (`refresh_ownership` of `membership/ownership.rs`).

A refresh reads the winner of its EPA before it takes the lock of the ownership maps, and then
updates the maps under the lock; refreshes of other EPAs, and updates of the membership, may
come between the two.  Every refresh also prunes the grace windows of all EPAs.

Seen from one EPA, refreshes of others at the same instant only prune, and pruning commutes
with the refresh of the EPA itself (`KeyPhase.retain_refresh`), so refreshes of different EPAs
commute (`TransitionState.refresh_comm`).  The main result of this file is
`concurrent_refreshes_independent`.
-/
import ExternalPodAutoscaler.Lib.ReadThenUpdate
import ExternalPodAutoscaler.Membership.TransitionState

namespace ExternalPodAutoscaler.Membership

open Lib

/-! ### Pruning and refreshing at one instant -/

namespace KeyPhase

lemma retain_lost_of_open {now : ℕ} {l : LostOwnership}
    (hopen : elapsed now l.lostAt < l.evaluationPeriod + graceBuffer) :
    (lost l).retain now = lost l :=
  if_pos hopen

lemma retain_lost_of_over {now : ℕ} {l : LostOwnership}
    (hover : ¬ elapsed now l.lostAt < l.evaluationPeriod + graceBuffer) :
    (lost l).retain now = notTracking :=
  if_neg hover

lemma retain_retain (now : ℕ) (φ : KeyPhase) : (φ.retain now).retain now = φ.retain now := by
  cases φ with
  | notTracking => rfl
  | owned s => rfl
  | lost l =>
      by_cases hopen : elapsed now l.lostAt < l.evaluationPeriod + graceBuffer
      · rw [retain_lost_of_open hopen, retain_lost_of_open hopen]
      · rw [retain_lost_of_over hopen]
        rfl

/-- Pruning after a refresh at the same instant makes no difference. -/
lemma retain_refresh (now P : ℕ) (w : Bool) (φ : KeyPhase) :
    (φ.refresh now w P).retain now = φ.refresh now w P :=
  retain_retain now _

/-- Pruning before a refresh at the same instant makes no difference either: a grace window that
is over ends in the refresh itself. -/
lemma refresh_retain (now P : ℕ) (w : Bool) (φ : KeyPhase) :
    (φ.retain now).refresh now w P = φ.refresh now w P := by
  cases φ with
  | notTracking => rfl
  | owned s => rfl
  | lost l =>
      by_cases hopen : elapsed now l.lostAt < l.evaluationPeriod + graceBuffer
      · rw [retain_lost_of_open hopen]
      · rw [retain_lost_of_over hopen]
        cases w with
        | true => rfl
        | false => exact (retain_lost_of_over hopen).symm

end KeyPhase

namespace TransitionState

variable {st st' : TransitionState} {key key' : String}

/-- The maps are determined by the phases of all EPAs. -/
lemma eq_of_phase_eq (h : ∀ key, st.phase key = st'.phase key) : st = st' := by
  have howned : st.owned = st'.owned := by
    ext key s
    rw [← phase_eq_owned_iff, h key, phase_eq_owned_iff]
  have hlost : st.lost = st'.lost := by
    ext key l
    rw [← phase_eq_lost_iff, h key, phase_eq_lost_iff]
  cases st
  cases st'
  simp_all

/-- **Refreshes of different EPAs commute.** -/
theorem refresh_comm (hne : key ≠ key') (now : ℕ) (w w' : Bool) (P P' : ℕ)
    (st : TransitionState) :
    (st.refresh now w key P).refresh now w' key' P' =
      (st.refresh now w' key' P').refresh now w key P := by
  refine eq_of_phase_eq fun k => ?_
  by_cases hk : k = key
  · subst hk
    rw [phase_refresh_of_ne hne, phase_refresh_self, phase_refresh_self, phase_refresh_of_ne hne,
      KeyPhase.refresh_retain, KeyPhase.retain_refresh]
  · by_cases hk' : k = key'
    · subst hk'
      rw [phase_refresh_self, phase_refresh_of_ne hk, phase_refresh_of_ne hk, phase_refresh_self,
        KeyPhase.refresh_retain, KeyPhase.retain_refresh]
    · rw [phase_refresh_of_ne hk', phase_refresh_of_ne hk, phase_refresh_of_ne hk,
        phase_refresh_of_ne hk']

lemma owned_refresh_of_ne (hne : key ≠ key') (now : ℕ) (w : Bool) (P : ℕ) :
    (st.refresh now w key' P).owned key = st.owned key := by
  cases w with
  | true => exact Function.update_of_ne hne _ _
  | false => exact Function.update_of_ne hne _ _

lemma lost_refresh_of_ne (hne : key ≠ key') (now : ℕ) (w : Bool) (P : ℕ) :
    (st.refresh now w key' P).lost key = (st.lost key).filter fun entry =>
      elapsed now entry.lostAt < entry.evaluationPeriod + graceBuffer := by
  cases w with
  | true => simp [refresh, retain, win, Function.update_of_ne hne]
  | false =>
      by_cases howned : (st.owned key').isSome <;>
        simp [refresh, retain, lose, howned, Function.update_of_ne hne]

/-- The maps `st'` still have what `st` has on the EPA, except for a grace window that is
over. -/
def Frames (now : ℕ) (key : String) (st st' : TransitionState) : Prop :=
  st'.owned key = st.owned key ∧ (st'.lost key = st.lost key ∨
    ∃ l, st.lost key = some l ∧ l.evaluationPeriod + graceBuffer ≤ elapsed now l.lostAt ∧
      st'.lost key = none)

/-- A refresh of another EPA keeps the frame. -/
lemma Frames.refresh {now : ℕ} (h : Frames now key st st') (hne : key ≠ key') (w : Bool) (P : ℕ) :
    Frames now key st (st'.refresh now w key' P) := by
  obtain ⟨howned, hlost⟩ := h
  refine ⟨(owned_refresh_of_ne hne now w P).trans howned, ?_⟩
  rw [lost_refresh_of_ne hne]
  rcases hlost with hsame | ⟨l, hl, hover, hnone⟩
  · rw [hsame]
    rcases hl : st.lost key with _ | l
    · exact Or.inl rfl
    · by_cases hopen : elapsed now l.lostAt < l.evaluationPeriod + graceBuffer
      · exact Or.inl (by simp [hopen])
      · exact Or.inr ⟨l, rfl, not_lt.1 hopen, by simpa using not_lt.1 hopen⟩
  · exact Or.inr ⟨l, hl, hover, by simp [hnone]⟩

end TransitionState

/-! ### Concurrent calls -/

/-- A call of `refresh_ownership`. -/
structure RefreshCall where
  ns : String
  name : String
  evaluationPeriod : ℕ
deriving DecidableEq

/-- The key of the EPA. -/
def RefreshCall.key (call : RefreshCall) : String := epaKey call.ns call.name

/-- Calls at replica `me` and instant `now`: the winner is read from the replica sets, which may
change at any time, and the maps are updated under the lock. -/
def concurrentRefreshes (me : String) (now : ℕ) (calls : List RefreshCall) :
    System (Concurrent RefreshCall ReplicaSets TransitionState Bool)
      (ConcurrentEvent RefreshCall ReplicaSets) :=
  Concurrent.system calls (fun sets call => isEpaOwner me sets call.ns call.name)
    fun st call iAmWinner => st.refresh now iAmWinner call.key call.evaluationPeriod

variable {me : String} {now : ℕ} {calls : List RefreshCall}
  {s s' : Concurrent RefreshCall ReplicaSets TransitionState Bool}
  {es : List (ConcurrentEvent RefreshCall ReplicaSets)}

/-- **Refreshes of different EPAs are independent.** However the steps of concurrent refreshes
at one instant are interleaved, the maps at the end are those of the refreshes one after the
other, in any order and from any replica sets with the winners that the calls have read.
On any other EPA no refresh changes anything, except that it drops a grace window that is
over. -/
theorem concurrent_refreshes_independent (hkeys : (calls.map RefreshCall.key).Nodup)
    (h₀ : (concurrentRefreshes me now calls).init s)
    (hrun : (concurrentRefreshes me now calls).Path System.Any s es s') :
    (∀ (order : List RefreshCall) (views : RefreshCall → ReplicaSets), order.Perm calls →
      (∀ call ∈ calls, s'.stage call =
        .returned (isEpaOwner me (views call) call.ns call.name)) →
      s'.state = order.foldl (fun st call => refreshOwnership me (views call) now call.ns
        call.name call.evaluationPeriod st) s.state) ∧
    ∀ key ∉ calls.map RefreshCall.key, s'.state.owned key = s.state.owned key ∧
      (s'.state.lost key = s.state.lost key ∨ ∃ l, s.state.lost key = some l ∧
        l.evaluationPeriod + graceBuffer ≤ elapsed now l.lostAt ∧ s'.state.lost key = none) := by
  constructor
  · intro order views horder hall
    refine Concurrent.state_eq_foldl (hkeys.of_map _) (fun i hi j hj hne st w w' => ?_) h₀ hrun
      hall horder
    have hdistinct : i.key ≠ j.key := fun heq =>
      hne (List.inj_on_of_nodup_map hkeys hi hj heq)
    exact TransitionState.refresh_comm hdistinct now w w' _ _ st
  · intro key hkey
    refine Concurrent.state_preserves (I := TransitionState.Frames now key s.state) ?_ h₀ hrun
      ⟨rfl, Or.inl rfl⟩
    intro st hframes call hcall w
    refine hframes.refresh (fun heq => hkey ?_) w _
    exact heq ▸ List.mem_map_of_mem hcall

/-- The replica sets before another replica joins. -/
def viewAlone : ReplicaSets := ⟨IdSet.empty.insert "replica-a", .empty, false⟩

/-- The replica sets afterwards. -/
def viewJoined : ReplicaSets :=
  ⟨(IdSet.empty.insert "replica-b").insert "replica-a", .empty, false⟩

/-- Two calls of a process that has just started. -/
def overlappingCalls : List RefreshCall :=
  [⟨"default", "web", secs 60⟩, ⟨"default", "api", secs 30⟩]

def overlappingStart : Concurrent RefreshCall ReplicaSets TransitionState Bool :=
  ⟨viewAlone, .new, fun _ => .called⟩

/-- The other replica joins after the first call has read the winner. -/
def overlappingEvents : List (ConcurrentEvent RefreshCall ReplicaSets) :=
  [.read ⟨"default", "web", secs 60⟩, .change viewJoined, .read ⟨"default", "api", secs 30⟩,
    .update ⟨"default", "api", secs 30⟩, .update ⟨"default", "web", secs 60⟩]

/-- The replica sets from which a call has read the winner. -/
def overlappingView (call : RefreshCall) : ReplicaSets :=
  if call.name = "web" then viewAlone else viewJoined

lemma overlapping_run :
    ((concurrentRefreshes "replica-a" 0 overlappingCalls).exec overlappingStart
      overlappingEvents).any (fun s' => overlappingCalls.all fun call => s'.stage call ==
        .returned (isEpaOwner "replica-a" (overlappingView call) call.ns call.name)) = true := by
  decide +kernel

/-- The two calls end as if they had been made one after the other. -/
theorem concurrent_refreshes_independent_overlapping :
    ∃ s', (concurrentRefreshes "replica-a" 0 overlappingCalls).Path System.Any overlappingStart
        overlappingEvents s' ∧
      s'.state = overlappingCalls.foldl (fun st call => refreshOwnership "replica-a"
        (overlappingView call) 0 call.ns call.name call.evaluationPeriod st) .new ∧
      s'.state.owned (epaKey "default" "db") = none := by
  obtain ⟨s', hs', hall⟩ := (Option.any_eq_true _ _).1 overlapping_run
  have hrun := System.exec_eq_some_iff.1 hs'
  obtain ⟨hseq, hframe⟩ :=
    concurrent_refreshes_independent (by decide) (fun _ => rfl : (concurrentRefreshes
      "replica-a" 0 overlappingCalls).init overlappingStart) hrun
  refine ⟨s', hrun, hseq _ overlappingView (List.Perm.refl _) fun call hcall => ?_, ?_⟩
  · exact beq_iff_eq.1 (List.all_eq_true.1 hall call hcall)
  · exact (hframe (epaKey "default" "db") (by decide)).1

end ExternalPodAutoscaler.Membership
