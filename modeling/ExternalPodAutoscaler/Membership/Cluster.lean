/-
The cluster: the leases in the API and the processes of the replicas.

Replicas start, renew their leases, list them, mark themselves draining, refresh the
ownership of EPAs, and go away, in any order and at any instant.  A renewal stores the
lease that the manager built when it read its draining flag, which may have been before
the flag was set; a listing returns the leases of some earlier moment.  Leases are never
removed by their expiry: an expired lease is skipped by those who list it.

The main results of this file are `disjoint_of_reachable`, the invariant of the processes
that the election relies on, and `leases_distinct`, what the API guarantees about the
names of leases.
-/
import ExternalPodAutoscaler.Membership.Replica

namespace ExternalPodAutoscaler.Membership

open Lib

/-- The API, the clock and the processes. -/
structure Cluster where
  now : ℕ
  /-- The leases the API holds. -/
  leases : List Lease
  /-- What the API held at earlier moments. -/
  past : List (List Lease)
  /-- The live replicas. -/
  procs : String → Option Replica
  /-- The EPAs created so far. -/
  epas : List (String × String)

/-- What can happen in the cluster. -/
inductive ClusterEvent where
  | advance (d : ℕ)
  /-- A replica starts. -/
  | join (id : String)
  /-- A replica exits or crashes; its lease stays. -/
  | leave (id : String)
  /-- A renewal takes effect; the manager read the clock and its draining flag before. -/
  | renew (me : Identity) (renewTime : ℕ) (isDraining : Bool)
  /-- A lease is deleted, by its replica or by the garbage collector. -/
  | deleteLease (id : String)
  | createEpa (ns name : String)
  /-- A process takes a step. -/
  | act (id : String) (e : ReplicaEvent)

/-- Creating or applying a lease replaces the one of the same name. -/
def putLease (leases : List Lease) (lease : Lease) : List Lease :=
  leases.filter (fun l => l.name ≠ lease.name) ++ [lease]

/-- Deleting a lease by its name. -/
def dropLease (leases : List Lease) (name : String) : List Lease :=
  leases.filter fun l => l.name ≠ some name

namespace Cluster

/-- Nothing has happened yet. -/
def start (now : ℕ) : Cluster := ⟨now, [], [], fun _ => none, []⟩

/-- The leases of the API change. -/
def setLeases (c : Cluster) (leases : List Lease) : Cluster :=
  { c with leases := leases, past := c.leases :: c.past }

/-- What a process may see and do: a listing returns what the API has held at some moment
and is read by now, and only EPAs that have been created are refreshed. -/
def Allows (c : Cluster) : ReplicaEvent → Prop
  | .discover leases readAt _ => leases ∈ c.leases :: c.past ∧ readAt ≤ c.now
  | .markDraining => True
  | .refresh ns name _ => (ns, name) ∈ c.epas

instance (c : Cluster) : (e : ReplicaEvent) → Decidable (c.Allows e)
  | .discover _ _ _ => inferInstanceAs (Decidable (_ ∧ _))
  | .markDraining => inferInstanceAs (Decidable True)
  | .refresh _ _ _ => inferInstanceAs (Decidable (_ ∈ _))

/-- A step of the cluster. -/
def step (c : Cluster) : ClusterEvent → Option Cluster
  | .advance d => some { c with now := c.now + d }
  | .join id =>
    if (c.procs id).isNone then
      some { c with procs := Function.update c.procs id (some .start) }
    else none
  | .leave id => some { c with procs := Function.update c.procs id none }
  | .renew me renewTime isDraining =>
    (c.procs me.replicaId).bind fun p =>
      -- the flag is never reset, so only `false` can be out of date
      if renewTime ≤ c.now ∧ (isDraining → p.sets.localDraining) then
        some (c.setLeases (putLease c.leases (renewedLease me renewTime isDraining)))
      else none
  | .deleteLease id => some (c.setLeases (dropLease c.leases (leaseName id)))
  | .createEpa ns name => some { c with epas := (ns, name) :: c.epas }
  | .act id e =>
    (c.procs id).bind fun p =>
      if c.Allows e then
        (p.step id c.now e).map fun p' =>
          { c with procs := Function.update c.procs id (some p') }
      else none

end Cluster

/-- The runs of a cluster. -/
def clusterSystem : System Cluster ClusterEvent where
  init c := ∃ now, c = Cluster.start now
  step := Cluster.step

namespace Cluster

variable {c c' : Cluster} {e : ClusterEvent}

/-- What a step of a process does to the cluster. -/
lemma step_act {id : String} {e : ReplicaEvent} (h : c.step (.act id e) = some c') :
    ∃ p p', c.procs id = some p ∧ c.Allows e ∧ p.step id c.now e = some p' ∧
      c' = { c with procs := Function.update c.procs id (some p') } := by
  simp only [step, Option.bind_eq_some_iff] at h
  obtain ⟨p, hp, h⟩ := h
  split at h
  · rename_i hallow
    obtain ⟨p', hp', rfl⟩ := Option.map_eq_some_iff.1 h
    exact ⟨p, p', hp, hallow, hp', rfl⟩
  · cases h

/-- **What a step does to the processes.** A process that is live after a step was live
before and is as it was, or has taken a step of its own, or has just started. -/
lemma procs_step (h : c.step e = some c') {id : String} {p' : Replica}
    (hp' : c'.procs id = some p') :
    (e = .join id ∧ p' = .start) ∨ ∃ p, c.procs id = some p ∧
      (p' = p ∨ ∃ e', e = .act id e' ∧ p.step id c.now e' = some p') := by
  cases e with
  | advance d =>
      obtain rfl := Option.some.inj h
      exact Or.inr ⟨p', hp', Or.inl rfl⟩
  | join j =>
      simp only [step] at h
      split at h
      · obtain rfl := Option.some.inj h
        by_cases hid : id = j
        · subst hid
          exact Or.inl ⟨rfl, (Option.some.inj (by simpa using hp')).symm⟩
        · exact Or.inr ⟨p', by simpa [Function.update_of_ne hid] using hp', Or.inl rfl⟩
      · cases h
  | leave j =>
      obtain rfl := Option.some.inj h
      by_cases hid : id = j
      · subst hid
        simp at hp'
      · exact Or.inr ⟨p', by simpa [Function.update_of_ne hid] using hp', Or.inl rfl⟩
  | renew me renewTime isDraining =>
      simp only [step, Option.bind_eq_some_iff] at h
      obtain ⟨q, -, h⟩ := h
      split at h
      · obtain rfl := Option.some.inj h
        exact Or.inr ⟨p', hp', Or.inl rfl⟩
      · cases h
  | deleteLease j =>
      obtain rfl := Option.some.inj h
      exact Or.inr ⟨p', hp', Or.inl rfl⟩
  | createEpa ns name =>
      obtain rfl := Option.some.inj h
      exact Or.inr ⟨p', hp', Or.inl rfl⟩
  | act j e' =>
      obtain ⟨q, q', hq, -, hstep, rfl⟩ := step_act h
      by_cases hid : id = j
      · subst hid
        obtain rfl : q' = p' := Option.some.inj (by simpa using hp')
        exact Or.inr ⟨q, hq, Or.inr ⟨e', rfl, hstep⟩⟩
      · exact Or.inr ⟨p', by simpa [Function.update_of_ne hid] using hp', Or.inl rfl⟩

/-- A replica that is live after a run was live before or has joined. -/
lemma join_mem_of_path {ok : Cluster → ClusterEvent → Prop} {es : List ClusterEvent}
    (h : clusterSystem.Path ok c es c') {id : String} (hlive : (c'.procs id).isSome) :
    (c.procs id).isSome ∨ .join id ∈ es := by
  induction h with
  | nil => exact Or.inl hlive
  | cons _ hs _ ih =>
      rcases ih hlive with hsome | hjoin
      · obtain ⟨p', hp'⟩ := Option.isSome_iff_exists.1 hsome
        rcases procs_step hs hp' with ⟨rfl, -⟩ | ⟨p, hp, -⟩
        · exact Or.inr List.mem_cons_self
        · exact Or.inl (by simp [hp])
      · exact Or.inr (List.mem_cons_of_mem _ hjoin)

/-- The sets of every live replica are disjoint. -/
theorem disjoint_of_reachable (h : clusterSystem.Reachable System.Any c) {id : String}
    {p : Replica} (hp : c.procs id = some p) : p.sets.Disjoint := by
  have hinv := h.invariant (I := fun c => ∀ id p, c.procs id = some p → p.sets.Disjoint) ?_ ?_
  · exact hinv id p hp
  · rintro c₀ ⟨now, rfl⟩ id p hp
    cases hp
  · intro c e c' ih _ hs id p' hp'
    rcases procs_step hs hp' with ⟨-, rfl⟩ | ⟨p, hp, rfl | ⟨e', -, hstep⟩⟩
    · exact Replica.disjoint_start
    · exact ih id p' hp
    · exact Replica.disjoint_step (ih id p hp) hstep

lemma distinctNames_putLease {leases : List Lease} (h : DistinctNames leases) (lease : Lease) :
    DistinctNames (putLease leases lease) := by
  refine List.pairwise_append.2 ⟨h.filter _, List.pairwise_singleton _ _, ?_⟩
  intro l hl l' hl'
  obtain rfl := List.mem_singleton.1 hl'
  exact Or.inr (by simpa using (List.mem_filter.1 hl).2)

/-- The API never holds two leases of one name, so a listing is never refused for it. -/
theorem leases_distinct (h : clusterSystem.Reachable System.Any c) :
    ∀ leases ∈ c.leases :: c.past, DistinctNames leases := by
  have hnew : ∀ {c : Cluster} {leases : List Lease},
      (∀ l ∈ c.leases :: c.past, DistinctNames l) → DistinctNames leases →
      ∀ l ∈ (c.setLeases leases).leases :: (c.setLeases leases).past, DistinctNames l := by
    intro c leases hc hl l hmem
    rcases List.mem_cons.1 hmem with rfl | hmem
    · exact hl
    · exact hc l hmem
  refine h.invariant (I := fun c => ∀ l ∈ c.leases :: c.past, DistinctNames l) ?_ ?_
  · rintro c₀ ⟨now, rfl⟩ l hl
    obtain rfl : l = [] := by simpa [start] using hl
    exact List.Pairwise.nil
  · intro c e c' ih _ hs
    cases e with
    | advance d =>
        obtain rfl := Option.some.inj hs
        exact ih
    | join j =>
        simp only [clusterSystem, step] at hs
        split at hs
        · obtain rfl := Option.some.inj hs
          exact ih
        · cases hs
    | leave j =>
        obtain rfl := Option.some.inj hs
        exact ih
    | renew me renewTime isDraining =>
        simp only [clusterSystem, step, Option.bind_eq_some_iff] at hs
        obtain ⟨q, -, hs⟩ := hs
        split at hs
        · obtain rfl := Option.some.inj hs
          exact hnew ih (distinctNames_putLease (ih _ List.mem_cons_self) _)
        · cases hs
    | deleteLease j =>
        obtain rfl := Option.some.inj hs
        exact hnew ih ((ih _ List.mem_cons_self).filter _)
    | createEpa ns name =>
        obtain rfl := Option.some.inj hs
        exact ih
    | act j e' =>
        obtain ⟨q, q', -, -, -, rfl⟩ := step_act hs
        exact ih

/-! ### Shared views -/

/-- All live replicas hold the view `V`. -/
def SharesView (c : Cluster) (V : ReplicaSets) : Prop :=
  ∀ id p, c.procs id = some p → p.sets.SameView V

section Shared

variable {V : ReplicaSets} {ns name id : String} {p : Replica}

lemma SharesView.owner (h : c.SharesView V) (hw : DistinctWeights V ns name)
    (hp : c.procs id = some p) : getEpaOwner p.sets ns name = getEpaOwner V ns name :=
  (getEpaOwner_congr hw (h id p hp).symm).symm

lemma SharesView.previousOwner (h : c.SharesView V) (hw : DistinctWeights V ns name)
    (hp : c.procs id = some p) :
    getPreviousEpaOwner p.sets ns name = getPreviousEpaOwner V ns name :=
  (getPreviousEpaOwner_congr hw (h id p hp).symm).symm

end Shared

end Cluster

/-! ### An EPA that is created while its previous owner drains -/

/-- The view of both replicas once `replica-b` drains. -/
def drainView (localDraining : Bool) : ReplicaSets :=
  ⟨⟨["replica-a"], List.nodup_singleton _⟩, ⟨["replica-b"], List.nodup_singleton _⟩,
    localDraining⟩

/-- Two replicas start; `replica-b`, which is the heavier one for the EPA, drains, and both
replicas see this.  Then the EPA is created. -/
def drainThenCreate : List ClusterEvent :=
  [.join "replica-a", .renew (deployed "replica-a") 0 false,
    .join "replica-b", .renew (deployed "replica-b") 0 false,
    .advance (secs 5), .act "replica-b" .markDraining,
    .renew (deployed "replica-b") (secs 5) true,
    .act "replica-a" (.discover
      [deployedLease "replica-a" 0 false, deployedLease "replica-b" 5 true] (secs 5)
      (drainView false)),
    .act "replica-b" (.discover
      [deployedLease "replica-a" 0 false, deployedLease "replica-b" 5 true] (secs 5)
      (drainView true)),
    .createEpa "default" "web"]

/-- Both replicas refresh the EPA. -/
def bothRefresh : List ClusterEvent :=
  [.act "replica-a" (.refresh "default" "web" (secs 60)),
    .act "replica-b" (.refresh "default" "web" (secs 60))]

/-- The EPA is created during the drain and refreshed by both replicas. -/
def createdDuringDrain : List ClusterEvent := drainThenCreate ++ bothRefresh

/-- The state of the two replicas after the run. -/
lemma createdDuringDrain_exec :
    (clusterSystem.exec (.start 0) createdDuringDrain).any (fun c => decide (c.now = secs 5) &&
      (c.procs "replica-a").any (fun p => decide (p.sets = drainView false ∧
        p.state.phase (epaKey "default" "web") = .owned ⟨secs 5, secs 60⟩)) &&
      (c.procs "replica-b").any (fun p => decide (p.sets = drainView true ∧
        p.state.phase (epaKey "default" "web") = .notTracking))) = true := by
  decide +kernel

/-- In the state after the run, which is reachable, both replicas hold the same view, the
remaining replica has owned the EPA for less than its evaluation period, and the draining
one does not know it. -/
lemma createdDuringDrain_state :
    ∃ c pa pb, clusterSystem.exec (.start 0) createdDuringDrain = some c ∧ c.now = secs 5 ∧
      (∀ id p, c.procs id = some p → (id = "replica-a" ∧ p = pa) ∨ (id = "replica-b" ∧ p = pb)) ∧
      c.procs "replica-a" = some pa ∧ c.procs "replica-b" = some pb ∧
      pa.sets = drainView false ∧ pb.sets = drainView true ∧
      pa.state.phase (epaKey "default" "web") = .owned ⟨secs 5, secs 60⟩ ∧
      pb.state.phase (epaKey "default" "web") = .notTracking := by
  obtain ⟨c, hc, hrun⟩ := (Option.any_eq_true _ _).1 createdDuringDrain_exec
  obtain ⟨hrun, hb⟩ := Bool.and_eq_true_iff.1 hrun
  obtain ⟨hnow, ha⟩ := Bool.and_eq_true_iff.1 hrun
  obtain ⟨pa, hpa, ha⟩ := (Option.any_eq_true _ _).1 ha
  obtain ⟨pb, hpb, hb⟩ := (Option.any_eq_true _ _).1 hb
  obtain ⟨hva, hsa⟩ := of_decide_eq_true ha
  obtain ⟨hvb, hsb⟩ := of_decide_eq_true hb
  refine ⟨c, pa, pb, hc, of_decide_eq_true hnow, ?_, hpa, hpb, hva, hvb, hsa, hsb⟩
  intro id p hp
  have hlive : (c.procs id).isSome := by simp [hp]
  rcases Cluster.join_mem_of_path (System.exec_eq_some_iff.1 hc) hlive with hnone | hjoin
  · cases hnone
  · have hid : id = "replica-a" ∨ id = "replica-b" := by
      simpa [createdDuringDrain, drainThenCreate, bothRefresh] using hjoin
    rcases hid with rfl | rfl
    · exact Or.inl ⟨rfl, Option.some.inj (hp.symm.trans hpa)⟩
    · exact Or.inr ⟨rfl, Option.some.inj (hp.symm.trans hpb)⟩

lemma createdDuringDrain_sharesView {c : Cluster} {pa pb : Replica}
    (hlive : ∀ id p, c.procs id = some p →
      (id = "replica-a" ∧ p = pa) ∨ (id = "replica-b" ∧ p = pb))
    (ha : pa.sets = drainView false) (hb : pb.sets = drainView true) :
    c.SharesView (drainView false) := by
  intro id p hp
  rcases hlive id p hp with ⟨-, rfl⟩ | ⟨-, rfl⟩
  · rw [ha]
    decide
  · rw [hb]
    decide

end ExternalPodAutoscaler.Membership
