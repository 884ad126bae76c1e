/-
Calls that read first and update afterwards.

A finite set of calls runs concurrently.  A call has two steps: it reads an environment, which
may change at any time, and later it updates a shared state with what it has read, at once.
Between the two steps of a call any steps of others may happen, so an update may rest on a
reading that is out of date.

The main result of this file is `state_eq_foldl`: if the updates of different calls commute,
then after all calls have returned the state is that of the calls one after the other, in any
order, each with what it has read.
-/
import Mathlib.Data.List.Nodup
import Mathlib.Data.List.Perm.Basic
import Mathlib.Logic.Function.Basic
import ExternalPodAutoscaler.Lib.Transition

namespace ExternalPodAutoscaler.Lib

/-- How far a call has got, and what it has read. -/
inductive CallStage (τ : Type*) where
  | called
  | read (seen : τ)
  | returned (seen : τ)
deriving DecidableEq

/-- The environment, the shared state and the calls. -/
structure Concurrent (ι ρ σ τ : Type*) where
  env : ρ
  state : σ
  stage : ι → CallStage τ

inductive ConcurrentEvent (ι ρ : Type*) where
  /-- The environment changes. -/
  | change (env : ρ)
  /-- The first step of a call. -/
  | read (i : ι)
  /-- The second step of a call. -/
  | update (i : ι)

namespace Concurrent

variable {ι ρ σ τ : Type*} [DecidableEq ι]

/-- The runs of some calls, none of which has begun. -/
def system (calls : List ι) (look : ρ → ι → τ) (update : σ → ι → τ → σ) :
    System (Concurrent ι ρ σ τ) (ConcurrentEvent ι ρ) where
  init s := ∀ i, s.stage i = .called
  step s
    | .change env => some { s with env := env }
    | .read i =>
      match s.stage i with
      | .called =>
        if i ∈ calls then
          some { s with stage := Function.update s.stage i (.read (look s.env i)) }
        else none
      | _ => none
    | .update i =>
      match s.stage i with
      | .read seen =>
        some { s with
          state := update s.state i seen
          stage := Function.update s.stage i (.returned seen) }
      | _ => none

variable {calls order : List ι} {look : ρ → ι → τ} {update : σ → ι → τ → σ}
  {s s' : Concurrent ι ρ σ τ} {i : ι} {ok : Concurrent ι ρ σ τ → ConcurrentEvent ι ρ → Prop}
  {es : List (ConcurrentEvent ι ρ)} {done : List (ι × τ)} {st₀ : σ}

lemma step_read (h : (system calls look update).step s (.read i) = some s') :
    i ∈ calls ∧ s.stage i = .called ∧
      s' = { s with stage := Function.update s.stage i (.read (look s.env i)) } := by
  rcases hstage : s.stage i with _ | seen | seen
  · simp only [system, hstage, Option.ite_none_right_eq_some, Option.some.injEq] at h
    exact ⟨h.1, rfl, h.2.symm⟩
  · simp [system, hstage] at h
  · simp [system, hstage] at h

lemma step_update (h : (system calls look update).step s (.update i) = some s') :
    ∃ seen, s.stage i = .read seen ∧ s' = { s with
      state := update s.state i seen
      stage := Function.update s.stage i (.returned seen) } := by
  rcases hstage : s.stage i with _ | seen | seen
  · simp [system, hstage] at h
  · simp only [system, hstage, Option.some.injEq] at h
    exact ⟨seen, rfl, h.symm⟩
  · simp [system, hstage] at h

/-- The calls that have returned, in the order of their updates and with what they had read,
make the state. -/
structure Replays (calls : List ι) (update : σ → ι → τ → σ) (st₀ : σ) (done : List (ι × τ))
    (s : Concurrent ι ρ σ τ) : Prop where
  nodup : (done.map Prod.fst).Nodup
  mem_iff : ∀ i seen, (i, seen) ∈ done ↔ s.stage i = .returned seen
  mem_calls : ∀ i, s.stage i ≠ .called → i ∈ calls
  state_eq : s.state = done.foldl (fun st call => update st call.1 call.2) st₀

lemma Replays.step {e : ConcurrentEvent ι ρ} (h : Replays calls update st₀ done s)
    (hs : (system calls look update).step s e = some s') :
    ∃ done', Replays calls update st₀ done' s' := by
  obtain ⟨hnodup, hmem, hcalls, hstate⟩ := h
  cases e with
  | change env =>
      obtain rfl := Option.some.inj hs
      exact ⟨done, hnodup, hmem, hcalls, hstate⟩
  | read i =>
      obtain ⟨hi, hcalled, rfl⟩ := step_read hs
      refine ⟨done, hnodup, fun j seen => ?_, fun j hj => ?_, hstate⟩
      · rw [hmem]
        by_cases hji : j = i
        · subst hji
          simp [hcalled]
        · simp [hji]
      · by_cases hji : j = i
        · exact hji ▸ hi
        · exact hcalls j (by simpa [Function.update_of_ne hji] using hj)
  | update i =>
      obtain ⟨seen, hread, rfl⟩ := step_update hs
      -- the call has not returned before
      have hnew : i ∉ done.map Prod.fst := by
        intro hi
        obtain ⟨⟨j, seen'⟩, hj, rfl⟩ := List.mem_map.1 hi
        rw [(hmem j seen').1 hj] at hread
        cases hread
      refine ⟨done ++ [(i, seen)], ?_, fun j seen' => ?_, fun j hj => ?_, ?_⟩
      · rw [List.map_append, List.nodup_append']
        exact ⟨hnodup, List.nodup_singleton _, by simpa using hnew⟩
      · rw [List.mem_append, hmem, List.mem_singleton, Prod.mk.injEq]
        by_cases hji : j = i
        · subst hji
          simp [hread, eq_comm]
        · simp [hji]
      · by_cases hji : j = i
        · exact hji ▸ hcalls i (by simp [hread])
        · exact hcalls j (by simpa [Function.update_of_ne hji] using hj)
      · rw [List.foldl_append, ← hstate]
        rfl

lemma exists_replays (h₀ : (system calls look update).init s)
    (hrun : (system calls look update).Path ok s es s') :
    ∃ done, Replays calls update s.state done s' := by
  have hstart : Replays calls update s.state [] s := by
    refine ⟨List.nodup_nil, fun i seen => ?_, fun i hi => absurd (h₀ i) hi, rfl⟩
    simp [h₀ i]
  refine hrun.preserves (I := fun s' => ∃ done, Replays calls update s.state done s') ?_
    ⟨[], hstart⟩
  rintro s₁ e s₂ ⟨done, hdone⟩ - hs
  exact hdone.step hs

/-- What the update of every call keeps, a run keeps. -/
lemma state_preserves {I : σ → Prop} (hI : ∀ st, I st → ∀ i ∈ calls, ∀ seen, I (update st i seen))
    (h₀ : (system calls look update).init s)
    (hrun : (system calls look update).Path ok s es s') (hs : I s.state) : I s'.state := by
  obtain ⟨done, hdone⟩ := exists_replays h₀ hrun
  have hcalls : ∀ call ∈ done, call.1 ∈ calls := fun call hcall => by
    refine hdone.mem_calls call.1 ?_
    rw [(hdone.mem_iff call.1 call.2).1 hcall]
    simp
  rw [hdone.state_eq]
  exact List.foldlRecOn done _ hs fun st hst call hcall => hI st hst call.1 (hcalls call hcall) _

/-- **Interleaved and sequential calls.** If the updates of different calls commute, a run after
which all calls have returned ends in the state of the calls one after the other. -/
theorem state_eq_foldl (hcalls : calls.Nodup)
    (hcomm : ∀ i ∈ calls, ∀ j ∈ calls, i ≠ j → ∀ st t u,
      update (update st i t) j u = update (update st j u) i t)
    (h₀ : (system calls look update).init s)
    (hrun : (system calls look update).Path ok s es s') {seen : ι → τ}
    (hall : ∀ i ∈ calls, s'.stage i = .returned (seen i)) (horder : order.Perm calls) :
    s'.state = order.foldl (fun st i => update st i (seen i)) s.state := by
  obtain ⟨done, hdone⟩ := exists_replays h₀ hrun
  have hseen : ∀ call ∈ done, call.1 ∈ calls ∧ call.2 = seen call.1 := by
    intro call hcall
    have hstage := (hdone.mem_iff call.1 call.2).1 hcall
    have hmem := hdone.mem_calls call.1 (by simp [hstage])
    exact ⟨hmem, CallStage.returned.inj (hstage.symm.trans (hall call.1 hmem))⟩
  have hperm : (done.map Prod.fst).Perm order := by
    refine List.Perm.trans ?_ horder.symm
    refine (List.perm_ext_iff_of_nodup hdone.nodup hcalls).2 fun i => ⟨fun hi => ?_, fun hi => ?_⟩
    · obtain ⟨call, hcall, rfl⟩ := List.mem_map.1 hi
      exact (hseen call hcall).1
    · exact List.mem_map.2 ⟨(i, seen i), (hdone.mem_iff i (seen i)).2 (hall i hi), rfl⟩
  calc s'.state = done.foldl (fun st call => update st call.1 call.2) s.state := hdone.state_eq
    _ = done.foldl (fun st call => update st call.1 (seen call.1)) s.state :=
        List.foldl_ext _ _ _ fun st call hcall => by rw [(hseen call hcall).2]
    _ = (done.map Prod.fst).foldl (fun st i => update st i (seen i)) s.state := by
        rw [List.foldl_map]
    _ = order.foldl (fun st i => update st i (seen i)) s.state := by
        refine hperm.foldl_eq' (fun i hi j hj st => ?_) _
        rcases eq_or_ne i j with rfl | hne
        · rfl
        · exact hcomm i (horder.subset (hperm.subset hi)) j (horder.subset (hperm.subset hj))
            hne st _ _

end Concurrent

end ExternalPodAutoscaler.Lib
