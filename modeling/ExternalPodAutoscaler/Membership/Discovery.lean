/-
What an update of the replica sets reads off the list of leases
(`update_active_replicas` of `membership/manager.rs`).

A lease keeps a replica alive as long as its duration, of which at most a day counts, has
not passed since its renewal.  An update that completes puts the replicas that are kept alive
into the two sets, by the label of their lease; the own ID of a process that drains is put
among the draining ones.

The main result of this file is `replica_sets_exact`: in every run of one process the sets
are disjoint, and after every update they are exactly these.
-/
import ExternalPodAutoscaler.Membership.Replica

namespace ExternalPodAutoscaler.Membership

open Lib

/-- At instant `now` the lease keeps the replica `id` alive. -/
def Lease.KeepsAlive (lease : Lease) (id : String) (now : ℤ) : Prop :=
  lease.name = some (leaseName id) ∧ ∃ spec renewTime duration, lease.spec = some spec ∧
    spec.renewTime = some renewTime ∧ spec.leaseDurationSeconds = some duration ∧
    0 ≤ duration ∧ now < renewTime + secs (min duration.toNat 86400)

/-- What a lease says of a replica when the expiry can be computed. -/
lemma observeLease_eq_some_iff {now : ℤ} {lease : Lease} {id : String} {b : Bool}
    (hok : observeLease now lease ≠ none) :
    observeLease now lease = some (some (id, b)) ↔
      lease.KeepsAlive id now ∧ lease.isDraining = b := by
  constructor
  · intro h
    obtain ⟨hname, hdraining⟩ := name_of_observeLease h
    refine ⟨⟨hname, ?_⟩, hdraining⟩
    unfold observeLease at h
    split at h
    · simp at h
    · rename_i spec hspec
      split at h
      · rename_i renewTime duration hrenew hduration
        split at h
        · simp at h
        · rename_i hneg
          obtain ⟨expiresAt, hadd, h⟩ := Option.map_eq_some_iff.1 h
          split at h
          · rename_i hlive
            rw [timestampAdd] at hadd
            split at hadd
            · obtain rfl := Option.some.inj hadd
              exact ⟨spec, renewTime, duration, hspec, hrenew, hduration, Int.not_lt.1 hneg, hlive⟩
            · cases hadd
          · cases h
      · simp at h
  · rintro ⟨⟨hname, spec, renewTime, duration, hspec, hrenew, hduration, hnonneg, hlive⟩, rfl⟩
    have hstrip : stripPrefix "epa-replica-" (leaseName id) = some id :=
      stripPrefix_eq_some_iff.2 rfl
    simp only [observeLease, hspec, hrenew, hduration, if_neg (Int.not_lt.2 hnonneg)] at hok ⊢
    -- the addition did not panic
    rcases hadd : timestampAdd renewTime (secs (min duration.toNat 86400)) with _ | expiresAt
    · rw [hadd] at hok
      exact absurd rfl hok
    · have hexpires : expiresAt = renewTime + secs (min duration.toNat 86400) := by
        rw [timestampAdd] at hadd
        split at hadd
        · exact (Option.some.inj hadd).symm
        · cases hadd
      simp [hexpires, hlive, hname, hstrip]

/-- An update that completes has computed the expiry of every lease. -/
lemma observeLease_ne_none {now : ℤ} {leases : List Lease} {sets sets' : IdSet × IdSet}
    (h : collectReplicas now leases sets = some sets') :
    ∀ lease ∈ leases, observeLease now lease ≠ none := by
  induction leases generalizing sets with
  | nil => simp
  | cons lease leases ih =>
      obtain ⟨observed, hobs, h⟩ := Option.bind_eq_some_iff.1 h
      intro l hl
      rcases List.mem_cons.1 hl with rfl | hl
      · simp [hobs]
      · rcases observed with _ | ⟨id, _ | _⟩
        · exact ih h l hl
        · exact ih h l hl
        · exact ih h l hl

/-- Which replicas the leases of a list keep alive, by their label. -/
lemma exists_observeLease_iff {me : String} {leases : List Lease} {now : ℤ}
    {sets sets' : ReplicaSets} (h : updateActiveReplicas me leases now sets = some sets')
    (id : String) (b : Bool) :
    (∃ l ∈ leases, observeLease now l = some (some (id, b))) ↔
      ∃ l ∈ leases, l.KeepsAlive id now ∧ l.isDraining = b := by
  obtain ⟨collected, hcollected, -⟩ := Option.map_eq_some_iff.1 h
  have hok := observeLease_ne_none hcollected
  constructor
  · rintro ⟨l, hl, hobs⟩
    exact ⟨l, hl, (observeLease_eq_some_iff (hok l hl)).1 hobs⟩
  · rintro ⟨l, hl, hkeeps⟩
    exact ⟨l, hl, (observeLease_eq_some_iff (hok l hl)).2 hkeeps⟩

/-- **The replica sets.** In every run the active and the draining set are disjoint, and after
an update a replica ID is in one of them exactly when a lease of the list keeps it alive, by
the label of the lease; the own ID of a process that drains is draining, and not active. -/
theorem replica_sets_exact {me : String} {s : LocalState}
    (hs : (localSystem me).Reachable System.Any s) :
    s.proc.sets.Disjoint ∧ ∀ leases readAt sets s',
      (localSystem me).step s (.act (.discover leases readAt sets)) = some s' → ∀ id,
        (id ∈ s'.proc.sets.active ↔ ¬ (id = me ∧ s.proc.sets.localDraining = true) ∧
          ∃ l ∈ leases, l.KeepsAlive id readAt ∧ l.isDraining = false) ∧
        (id ∈ s'.proc.sets.draining ↔ (id = me ∧ s.proc.sets.localDraining = true) ∨
          ∃ l ∈ leases, l.KeepsAlive id readAt ∧ l.isDraining = true) := by
  refine ⟨localSystem_disjoint hs, fun leases readAt sets s' hstep id => ?_⟩
  obtain ⟨proc, hproc, rfl⟩ := localSystem_act hstep
  obtain ⟨updated, hupdated, -, ⟨hactive, hdraining⟩, rfl⟩ := Replica.step_discover hproc
  obtain ⟨hmemActive, hmemDraining⟩ := mem_updateActiveReplicas hupdated id
  constructor
  · rw [← exists_observeLease_iff hupdated, ← hmemActive]
    exact (hactive id).symm
  · rw [← exists_observeLease_iff hupdated, ← hmemDraining]
    exact (hdraining id).symm

/-- A process that has started to drain. -/
def drainingState : LocalState := ⟨0, ⟨setDraining .new, .new⟩⟩

lemma drainingState_reachable :
    (localSystem "replica-b").Reachable System.Any drainingState := by
  have hdrains : (localSystem "replica-b").step ⟨0, .start⟩ (.act .markDraining) =
      some drainingState := rfl
  exact ⟨_, _, localSystem_init 0, .single trivial hdrains⟩

/-- Two leases, the own one without the label. -/
def unlabelledLeases : List Lease :=
  [deployedLease "replica-a" 0 false, deployedLease "replica-b" 0 false]

/-- The view from the leases. -/
def overriddenView : ReplicaSets :=
  ⟨IdSet.empty.insert "replica-a", IdSet.empty.insert "replica-b", true⟩

theorem replica_sets_exact_draining :
    drainingState.proc.sets.Disjoint ∧
      ("replica-b" ∈ overriddenView.active ↔ ¬ ("replica-b" = "replica-b" ∧ true = true) ∧
        ∃ l ∈ unlabelledLeases, l.KeepsAlive "replica-b" 0 ∧ l.isDraining = false) ∧
      ("replica-b" ∈ overriddenView.draining ↔ ("replica-b" = "replica-b" ∧ true = true) ∨
        ∃ l ∈ unlabelledLeases, l.KeepsAlive "replica-b" 0 ∧ l.isDraining = true) := by
  obtain ⟨hdisjoint, hexact⟩ := replica_sets_exact drainingState_reachable
  have hstep : ((localSystem "replica-b").step drainingState
      (.act (.discover unlabelledLeases 0 overriddenView))).any (fun s' =>
        decide (s'.proc.sets = overriddenView)) = true := by decide +kernel
  obtain ⟨s', hs', hview⟩ := (Option.any_eq_true _ _).1 hstep
  have hexact' := hexact _ _ _ s' hs' "replica-b"
  rw [of_decide_eq_true hview] at hexact'
  exact ⟨hdisjoint, hexact'⟩

end ExternalPodAutoscaler.Membership
