/-
The arithmetic of lease expiry (`update_active_replicas` and `discovery_loop` of
`membership/manager.rs`).

A lease expires at its renewal time plus its duration, of which at most a day counts.  The
renewal time is whatever the API returns, so it may be less than that from the last timestamp
there is, and then the addition panics: the update classifies no lease at all, and the process
ends.

The main result of this file is `update_completes_iff`: an update completes and classifies every
lease exactly if no lease of the list is renewed so late.  The discovery loop goes on exactly if
that is so for every list it reads (`discoveryLoop_isSome_iff`).
-/
import ExternalPodAutoscaler.Membership.Discovery

namespace ExternalPodAutoscaler.Membership

/-- The expiry of the lease, if there is one, is a timestamp. -/
def Lease.ExpiresInRange (lease : Lease) : Prop :=
  ∀ spec renewTime duration, lease.spec = some spec → spec.renewTime = some renewTime →
    spec.leaseDurationSeconds = some duration → 0 ≤ duration →
    renewTime ≤ maxTimestamp - secs (min duration.toNat 86400)

/-- The addition panics exactly beyond the last timestamp. -/
lemma timestampAdd_ne_none_iff {t : ℤ} {d : ℕ} :
    timestampAdd t d ≠ none ↔ t ≤ maxTimestamp - d := by
  unfold timestampAdd
  split
  · simp only [ne_eq, reduceCtorEq, not_false_eq_true, true_iff]
    omega
  · simp only [ne_eq, not_true_eq_false, false_iff]
    omega

/-- What is read off a lease panics exactly if its expiry is out of range. -/
lemma observeLease_ne_none_iff {now : ℤ} {lease : Lease} :
    observeLease now lease ≠ none ↔ lease.ExpiresInRange := by
  unfold observeLease Lease.ExpiresInRange
  split
  · rename_i hspec
    refine iff_of_true nofun fun spec _ _ h => ?_
    rw [hspec] at h
    cases h
  · rename_i spec hspec
    split
    · rename_i renewTime duration hrenew hduration
      have honly : (∀ spec' renewTime' duration', lease.spec = some spec' →
          spec'.renewTime = some renewTime' → spec'.leaseDurationSeconds = some duration' →
          0 ≤ duration' → renewTime' ≤ maxTimestamp - secs (min duration'.toNat 86400)) ↔
          (0 ≤ duration → renewTime ≤ maxTimestamp - secs (min duration.toNat 86400)) := by
        constructor
        · exact fun h => h spec renewTime duration hspec hrenew hduration
        · intro h spec' renewTime' duration' hspec' hrenew' hduration'
          obtain rfl : spec = spec' := Option.some.inj (hspec.symm.trans hspec')
          obtain rfl : renewTime = renewTime' := Option.some.inj (hrenew.symm.trans hrenew')
          obtain rfl : duration = duration' := Option.some.inj (hduration.symm.trans hduration')
          exact h
      rw [honly]
      split
      · rename_i hneg
        -- a negative duration is skipped
        exact iff_of_true nofun fun hnonneg => absurd hneg (Int.not_lt.2 hnonneg)
      · rename_i hnonneg
        rw [ne_eq, Option.map_eq_none_iff, ← ne_eq, timestampAdd_ne_none_iff,
          forall_prop_of_true (Int.not_lt.1 hnonneg)]
    · rename_i hmissing
      refine iff_of_true nofun fun spec' renewTime duration hspec' hrenew hduration => ?_
      obtain rfl : spec = spec' := Option.some.inj (hspec.symm.trans hspec')
      exact absurd hduration (hmissing renewTime duration hrenew)

lemma collectReplicas_isSome {now : ℤ} {leases : List Lease}
    (h : ∀ lease ∈ leases, observeLease now lease ≠ none) (sets : IdSet × IdSet) :
    ∃ sets', collectReplicas now leases sets = some sets' := by
  induction leases generalizing sets with
  | nil => exact ⟨sets, rfl⟩
  | cons lease leases ih =>
      obtain ⟨hlease, hleases⟩ := List.forall_mem_cons.1 h
      obtain ⟨observed, hobserved⟩ := Option.ne_none_iff_exists'.1 hlease
      simp only [collectReplicas, hobserved, Option.bind_some]
      rcases observed with _ | ⟨id, _ | _⟩
      · exact ih hleases _
      · exact ih hleases _
      · exact ih hleases _

/-- An update does not panic exactly if every lease of the list expires in range. -/
lemma updateActiveReplicas_isSome_iff {me : String} {leases : List Lease} {now : ℤ}
    {sets : ReplicaSets} : (updateActiveReplicas me leases now sets).isSome = true ↔
      ∀ lease ∈ leases, lease.ExpiresInRange := by
  rw [updateActiveReplicas, Option.isSome_map]
  constructor
  · intro h lease hlease
    obtain ⟨sets', hsets⟩ := Option.isSome_iff_exists.1 h
    exact observeLease_ne_none_iff.1 (observeLease_ne_none hsets lease hlease)
  · intro h
    obtain ⟨sets', hsets⟩ := collectReplicas_isSome
      (fun lease hlease => observeLease_ne_none_iff.2 (h lease hlease)) (IdSet.empty, IdSet.empty)
    rw [hsets, Option.isSome_some]

/-- The replica IDs of the leases are in the two sets, by the labels of the leases; the own ID
of a process that drains is draining. -/
def Classified (me : String) (leases : List Lease) (now : ℤ) (sets sets' : ReplicaSets) : Prop :=
  ∀ id,
    (id ∈ sets'.active ↔ ¬ (id = me ∧ sets.localDraining = true) ∧
      ∃ l ∈ leases, l.KeepsAlive id now ∧ l.isDraining = false) ∧
    (id ∈ sets'.draining ↔ (id = me ∧ sets.localDraining = true) ∨
      ∃ l ∈ leases, l.KeepsAlive id now ∧ l.isDraining = true)

/-- **Updates and odd leases.** An update completes, with every lease classified, exactly if
every lease of the list that has a renewal time and a duration, not negative, is renewed no
later than that duration, or a day, before the last timestamp. -/
theorem update_completes_iff (me : String) (leases : List Lease) (now : ℤ) (sets : ReplicaSets) :
    (∃ sets', updateActiveReplicas me leases now sets = some sets' ∧
      Classified me leases now sets sets') ↔ ∀ lease ∈ leases, lease.ExpiresInRange := by
  rw [← updateActiveReplicas_isSome_iff, Option.isSome_iff_exists]
  refine exists_congr fun sets' => and_iff_left_of_imp fun hupdate id => ?_
  obtain ⟨hactive, hdraining⟩ := mem_updateActiveReplicas hupdate id
  rw [hactive, hdraining, exists_observeLease_iff hupdate, exists_observeLease_iff hupdate]
  exact ⟨Iff.rfl, Iff.rfl⟩

/-! ### The discovery loop -/

/-- What the lease watcher yields, and for a lease what the list that is read then is. -/
inductive DiscoveryEvent where
  | watchError
  | listError
  | listed (leases : List Lease) (readAt : ℤ)

/-- `discovery_loop`, over the events of the watcher; `none` is the end of the process. -/
def discoveryLoop (me : String) : List DiscoveryEvent → ReplicaSets → Option ReplicaSets
  | [], sets => some sets
  | .watchError :: events, sets => discoveryLoop me events sets
  | .listError :: events, sets => discoveryLoop me events sets
  | .listed leases readAt :: events, sets =>
    (updateActiveReplicas me leases readAt sets).bind fun sets' => discoveryLoop me events sets'

/-- **The loop goes on** exactly if every lease that it ever reads expires in range. -/
theorem discoveryLoop_isSome_iff {me : String} {events : List DiscoveryEvent}
    {sets : ReplicaSets} : (discoveryLoop me events sets).isSome = true ↔
      ∀ leases readAt, .listed leases readAt ∈ events → ∀ lease ∈ leases, lease.ExpiresInRange := by
  induction events generalizing sets with
  | nil => simp [discoveryLoop]
  | cons event events ih =>
      cases event with
      | watchError => simp [discoveryLoop, ih]
      | listError => simp [discoveryLoop, ih]
      | listed leases readAt =>
          have hcons : (∀ leases' readAt', .listed leases' readAt' ∈
                .listed leases readAt :: events → ∀ lease ∈ leases', lease.ExpiresInRange) ↔
              (∀ lease ∈ leases, lease.ExpiresInRange) ∧ ∀ leases' readAt',
                .listed leases' readAt' ∈ events → ∀ lease ∈ leases', lease.ExpiresInRange := by
            constructor
            · intro h
              exact ⟨h leases readAt List.mem_cons_self,
                fun leases' readAt' hmem => h leases' readAt' (List.mem_cons_of_mem _ hmem)⟩
            · rintro ⟨hfirst, hrest⟩ leases' readAt' hmem
              rcases List.mem_cons.1 hmem with heq | hmem
              · cases heq
                exact hfirst
              · exact hrest leases' readAt' hmem
          have hupdate : (updateActiveReplicas me leases readAt sets).isSome = true ↔
              ∀ lease ∈ leases, lease.ExpiresInRange := updateActiveReplicas_isSome_iff
          rw [hcons, ← hupdate, discoveryLoop]
          rcases updateActiveReplicas me leases readAt sets with _ | sets'
          · simp
          · simpa using ih

/-! ### A lease from the end of time -/

/-- A lease of `replica-b` that is renewed in the last second that a timestamp can hold. -/
def lateLease : Lease := renewedLease (deployed "replica-b") maxTimestamp false

/-- **An odd lease.** It is renewed at a timestamp, for 30 seconds; an update that reads it
panics, and the lease of `replica-a` beside it is not classified. -/
theorem late_lease_panics :
    (lateLease.spec.bind LeaseSpec.renewTime) = some maxTimestamp ∧
    (lateLease.spec.bind LeaseSpec.leaseDurationSeconds) = some 30 ∧
    updateActiveReplicas "replica-a" [deployedLease "replica-a" 0 false, lateLease] 0 .new =
      none ∧
    (updateActiveReplicas "replica-a" [deployedLease "replica-a" 0 false] 0 .new).isSome = true ∧
    discoveryLoop "replica-a" [.listed [deployedLease "replica-a" 0 false, lateLease] 0] .new =
      none := by
  refine ⟨rfl, rfl, ?_, ?_, ?_⟩
  all_goals decide +kernel

end ExternalPodAutoscaler.Membership
