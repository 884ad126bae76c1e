/-
The membership manager (`membership/manager.rs`).

Every replica keeps a lease alive and derives its view of the other replicas from the
list of all leases: a lease that has not expired counts its replica as active, or as
draining when it carries the label `draining=true`.  A replica that drains forces its own
ID into the draining set whatever the list says.

The main results of this file are `mem_updateActiveReplicas`, which says exactly which
leases of the list put a replica ID in which set, and `updateActiveReplicas_disjoint`: the
two sets are disjoint when the leases of the list have distinct names.
-/
import Mathlib.Data.List.Basic
import Mathlib.Tactic.TypeStar
import ExternalPodAutoscaler.Api.Epa
import ExternalPodAutoscaler.Clock
import ExternalPodAutoscaler.Membership.ReplicaSets

namespace ExternalPodAutoscaler.Membership

open ExternalPodAutoscaler.Api

/-- `str::strip_prefix`. -/
def stripPrefix (pre s : String) : Option String :=
  (s.toList.dropPrefix? pre.toList).map String.ofList

lemma stripPrefix_eq_some_iff {pre s t : String} :
    stripPrefix pre s = some t ↔ s = pre ++ t := by
  simp only [stripPrefix, Option.map_eq_some_iff, List.dropPrefix?_eq_some_iff, beq_iff_eq]
  constructor
  · rintro ⟨r, ⟨p, hp, rfl⟩, rfl⟩
    rw [← String.toList_inj, hp, String.toList_append, String.toList_ofList]
  · rintro rfl
    exact ⟨t.toList, ⟨pre.toList, String.toList_append, rfl⟩, String.ofList_toList⟩

/-- The fields of a lease's spec that the manager sets.  Times are nanoseconds since the
Unix epoch. -/
structure LeaseSpec where
  holderIdentity : Option String
  leaseDurationSeconds : Option ℤ
  renewTime : Option ℤ
  acquireTime : Option ℤ
deriving DecidableEq

/-- A lease, with the fields of its metadata that the manager sets or reads. -/
structure Lease where
  name : Option String
  ns : Option String
  labels : Option (List (String × String))
  ownerReferences : Option (List OwnerReference)
  spec : Option LeaseSpec
deriving DecidableEq

/-- What a manager knows of its own replica. -/
structure Identity where
  replicaId : String
  podIp : String
  podName : String
  ns : String
  webhookPort : ℕ
deriving DecidableEq

/-- The replica `id` of a deployment. -/
def deployed (id : String) : Identity := ⟨id, "10.0.0.1", id, "epa-system", 8443⟩

/-- The name of a replica's lease. -/
def leaseName (replicaId : String) : String := s!"epa-replica-{replicaId}"

/-- The lease that `register_and_renew` sends at time `now` after reading the draining
flag. -/
def renewedLease (me : Identity) (now : ℤ) (isDraining : Bool) : Lease where
  name := some (leaseName me.replicaId)
  ns := some me.ns
  labels := some ([("app", "external-pod-autoscaler"), ("replica-id", me.replicaId)] ++
    if isDraining then [("draining", "true")] else [])
  ownerReferences := some [
    { apiVersion := "v1"
      kind := "Pod"
      name := me.podName
      uid := me.replicaId
      controller := none
      blockOwnerDeletion := none }]
  spec := some
    { holderIdentity := some s!"{me.podIp}:{me.webhookPort}"
      leaseDurationSeconds := some 30 -- three times the renewal interval
      renewTime := some now
      acquireTime := some now }

/-- Whether a lease carries the label `draining=true`. -/
def Lease.isDraining (lease : Lease) : Bool :=
  (lease.labels.bind fun l => l.lookup "draining").any (· == "true")

@[simp] lemma renewedLease_isDraining (me : Identity) (now : ℤ) (b : Bool) :
    (renewedLease me now b).isDraining = b := by
  cases b <;> simp [Lease.isDraining, renewedLease, List.lookup_cons]

/-! ### Discovery -/

/-- The last instant a timestamp can hold. -/
def maxTimestamp : ℤ := 253402207200 * 1000000000 + 999999999

/-- Timestamp addition; `none` is the panic of an addition out of range. -/
def timestampAdd (t : ℤ) (d : ℕ) : Option ℤ :=
  if t + d ≤ maxTimestamp then some (t + d) else none

/-- What a lease of the list says at time `now`: the replica ID it keeps alive and whether
that replica drains, or nothing.  The outer `none` is a panic. -/
def observeLease (now : ℤ) (lease : Lease) : Option (Option (String × Bool)) :=
  match lease.spec with
  | none => some none
  | some spec =>
    match spec.renewTime, spec.leaseDurationSeconds with
    | some renewTime, some duration =>
      -- a negative duration is skipped with a warning
      if duration < 0 then some none
      else
        let clamped := min duration.toNat 86400
        (timestampAdd renewTime (secs clamped)).map fun expiresAt =>
          if now < expiresAt then
            (lease.name.bind (stripPrefix "epa-replica-")).map fun id => (id, lease.isDraining)
          else none
    | _, _ => some none

/-- The active and the draining set that the loop of `update_active_replicas` builds. -/
def collectReplicas (now : ℤ) : List Lease → IdSet × IdSet → Option (IdSet × IdSet)
  | [], sets => some sets
  | lease :: leases, (active, draining) =>
    (observeLease now lease).bind fun observed =>
      match observed with
      | none => collectReplicas now leases (active, draining)
      | some (id, true) => collectReplicas now leases (active, draining.insert id)
      | some (id, false) => collectReplicas now leases (active.insert id, draining)

/-- The replica sets after an update from a list of leases, read at time `now`.  `none` is
a panic in the timestamp arithmetic. -/
def updateActiveReplicas (me : String) (leases : List Lease) (now : ℤ) (sets : ReplicaSets) :
    Option ReplicaSets :=
  (collectReplicas now leases (IdSet.empty, IdSet.empty)).map fun (active, draining) =>
    if sets.localDraining then
      { active := active.remove me
        draining := draining.insert me
        localDraining := sets.localDraining }
    else
      { active := active
        draining := draining
        localDraining := sets.localDraining }

/-- The lock section of `mark_draining` and of `delete_lease`. -/
def setDraining (sets : ReplicaSets) : ReplicaSets := { sets with localDraining := true }

/-- No two leases of the list have the same name. -/
def DistinctNames (leases : List Lease) : Prop :=
  leases.Pairwise fun l l' => l.name = none ∨ l.name ≠ l'.name

instance (leases : List Lease) : Decidable (DistinctNames leases) :=
  inferInstanceAs (Decidable (leases.Pairwise _))

lemma mem_collectReplicas {now : ℤ} {leases : List Lease} {sets sets' : IdSet × IdSet}
    (h : collectReplicas now leases sets = some sets') (id : String) :
    (id ∈ sets'.1 ↔ id ∈ sets.1 ∨ ∃ l ∈ leases, observeLease now l = some (some (id, false))) ∧
    (id ∈ sets'.2 ↔ id ∈ sets.2 ∨ ∃ l ∈ leases, observeLease now l = some (some (id, true))) := by
  induction leases generalizing sets with
  | nil =>
      obtain rfl : sets = sets' := Option.some.inj h
      simp
  | cons lease leases ih =>
      obtain ⟨active, draining⟩ := sets
      rcases hobs : observeLease now lease with _ | _ | ⟨id', _ | _⟩
      · simp [collectReplicas, hobs] at h
      all_goals
        have := ih (by simpa [collectReplicas, hobs] using h)
        simp only [this, hobs, List.mem_cons, exists_eq_or_imp, IdSet.mem_insert,
          Option.some.injEq, Prod.mk.injEq, reduceCtorEq, false_or, Bool.false_eq_true,
          Bool.true_eq_false, and_false, and_true, and_self, true_and]
      all_goals
        rw [or_comm (a := id = id'), or_assoc, eq_comm]

/-- Which replica IDs an update puts in the two sets. -/
theorem mem_updateActiveReplicas {me : String} {leases : List Lease} {now : ℤ}
    {sets sets' : ReplicaSets} (h : updateActiveReplicas me leases now sets = some sets')
    (id : String) :
    (id ∈ sets'.active ↔ ¬ (id = me ∧ sets.localDraining = true) ∧
      ∃ l ∈ leases, observeLease now l = some (some (id, false))) ∧
    (id ∈ sets'.draining ↔ (id = me ∧ sets.localDraining = true) ∨
      ∃ l ∈ leases, observeLease now l = some (some (id, true))) := by
  simp only [updateActiveReplicas, Option.map_eq_some_iff] at h
  obtain ⟨⟨active, draining⟩, hc, rfl⟩ := h
  have := mem_collectReplicas hc id
  simp only [IdSet.not_mem_empty, false_or] at this
  by_cases hl : sets.localDraining = true
  · simp [hl, this]
  · simp [hl, this]

lemma name_of_observeLease {now : ℤ} {l : Lease} {id : String} {b : Bool}
    (h : observeLease now l = some (some (id, b))) :
    l.name = some (leaseName id) ∧ l.isDraining = b := by
  unfold observeLease at h
  split at h
  · simp at h
  · split at h
    · split at h
      · simp at h
      · simp only [Option.map_eq_some_iff] at h
        obtain ⟨expiresAt, -, h⟩ := h
        split at h
        · simp only [Option.map_eq_some_iff, Option.bind_eq_some_iff, Prod.mk.injEq] at h
          obtain ⟨a, ⟨name, hn, hs⟩, rfl, rfl⟩ := h
          rw [hn, stripPrefix_eq_some_iff.1 hs]
          exact ⟨rfl, rfl⟩
        · simp at h
    · simp at h

/-- A list in which the leases have distinct names says one thing about each replica. -/
lemma observeLease_unique {leases : List Lease} (hd : DistinctNames leases) {now : ℤ}
    {id : String} {b b' : Bool} (h : ∃ l ∈ leases, observeLease now l = some (some (id, b)))
    (h' : ∃ l ∈ leases, observeLease now l = some (some (id, b'))) : b = b' := by
  obtain ⟨l, hl, ho⟩ := h
  obtain ⟨l', hl', ho'⟩ := h'
  obtain ⟨hn, hb⟩ := name_of_observeLease ho
  obtain ⟨hn', hb'⟩ := name_of_observeLease ho'
  have heq : l = l' := by
    by_contra hne
    have hsymm : ∀ a b : Lease, (a.name = none ∨ a.name ≠ b.name) ∧ b.name ≠ none →
        b.name = none ∨ b.name ≠ a.name := fun a b ⟨h₁, h₂⟩ =>
      h₁.elim (fun h => Or.inr (h ▸ h₂)) fun h => Or.inr (Ne.symm h)
    rcases List.pairwise_iff_getElem.1 hd with hp
    obtain ⟨i, hi, rfl⟩ := List.getElem_of_mem hl
    obtain ⟨j, hj, rfl⟩ := List.getElem_of_mem hl'
    rcases lt_trichotomy i j with hij | rfl | hij
    · have := hp i j hi hj hij
      simp [hn, hn'] at this
    · exact hne rfl
    · have := hp j i hj hi hij
      simp [hn, hn'] at this
  subst heq
  rw [← hb, hb']

/-- An update leaves the two sets disjoint. -/
theorem updateActiveReplicas_disjoint {me : String} {leases : List Lease} {now : ℤ}
    {sets sets' : ReplicaSets} (hd : DistinctNames leases)
    (h : updateActiveReplicas me leases now sets = some sets') : sets'.Disjoint := by
  intro id ha hdr
  obtain ⟨hme, hact⟩ := (mem_updateActiveReplicas h id).1.1 ha
  rcases (mem_updateActiveReplicas h id).2.1 hdr with hdr | hdr
  · exact hme hdr
  · exact absurd (observeLease_unique hd hact hdr) (by simp)

end ExternalPodAutoscaler.Membership
