/-
The lease writes of a replica, seen from the cluster.

The runs of `leaseSystem` show the requests of one replica in detail; in the cluster a write
is a single event.  `LeaseIn` relates the two: the cluster holds the lease that the requests
have left, the process has the same draining flag, and the leases that are still to be
written were built at instants that have passed.

The main results of this file are `cluster_simulates`: the cluster can follow every run of
the requests of one of its replicas; and `readmitted_by_peers`: where such a run ends with a
lease that was built before the flag was set, every peer that lists the leases counts the
draining replica as active until the lease expires.
-/
import ExternalPodAutoscaler.Membership.Cluster
import ExternalPodAutoscaler.Membership.LeaseWrites

namespace ExternalPodAutoscaler.Membership

open Lib

/-- The cluster holds the lease of replica `me`, its process the draining flag, and the leases
of its pending calls were built by now. -/
structure LeaseIn (me : Identity) (s : LeaseWorld) (c : Cluster) : Prop where
  flag : ∃ p, c.procs me.replicaId = some p ∧ p.sets.localDraining = s.localDraining
  stored : ∀ l, s.lease = some l ↔ l ∈ c.leases ∧ l.name = some (leaseName me.replicaId)
  pending : ∀ call ∈ s.calls, ∀ l, call.state.pending = some l →
    ∃ (t : ℕ) (b : Bool), l = renewedLease me t b ∧ t ≤ c.now ∧ (b → s.localDraining)

/-- A call reads the clock of the cluster by the instant `now`. -/
def ClockRead (now : ℕ) (_ : LeaseWorld) : LeaseEvent → Prop
  | .renewal t | .markDraining t => ∃ n : ℕ, t = n ∧ n ≤ now
  | _ => True

/-- The events of the cluster that are writes of replica `me` or set its flag. -/
def OwnWrite (me : Identity) (_ : Cluster) : ClusterEvent → Prop
  | .renew me' _ _ => me' = me
  | .deleteLease id => id = me.replicaId
  | .act id .markDraining => id = me.replicaId
  | _ => False

variable {me : Identity} {s s' : LeaseWorld} {c : Cluster} {e : LeaseEvent}

/-! ### The cluster follows the requests -/

section Simulation

/-- A write of the replica takes effect in the cluster. -/
lemma exists_renew {t : ℕ} {b : Bool} (h : LeaseIn me s c) (ht : t ≤ c.now)
    (hb : b → s.localDraining) :
    clusterSystem.step c (.renew me t b) =
      some (c.setLeases (putLease c.leases (renewedLease me t b))) := by
  obtain ⟨p, hp, hflag⟩ := h.flag
  have hguard : t ≤ c.now ∧ (b → p.sets.localDraining) := ⟨ht, by rwa [hflag]⟩
  simp only [clusterSystem, Cluster.step, hp, Option.bind_some, if_pos hguard]

/-- The stored lease after a write. -/
lemma mem_putLease {leases : List Lease} {lease l : Lease} {name : String}
    (hname : lease.name = some name) :
    l ∈ putLease leases lease ∧ l.name = some name ↔ l = lease := by
  simp only [putLease, List.mem_append, List.mem_filter, List.mem_singleton, hname]
  constructor
  · rintro ⟨⟨-, hne⟩ | rfl, hl⟩
    · simp [hl] at hne
    · rfl
  · rintro rfl
    exact ⟨.inr rfl, hname⟩

/-- The call that moves on keeps or drops its pending lease. -/
lemma pending_of_set {i : ℕ} {call : Call} {state : CallState}
    (h : LeaseIn me s c) (hcall : s.calls[i]? = some call)
    (hstate : ∀ l, state.pending = some l → call.state.pending = some l) :
    ∀ call' ∈ s.calls.set i { call with state := state }, ∀ l, call'.state.pending = some l →
      ∃ (t : ℕ) (b : Bool), l = renewedLease me t b ∧ t ≤ c.now ∧ (b → s.localDraining) := by
  intro call' hcall' l hl
  rcases List.mem_or_eq_of_mem_set hcall' with hold | rfl
  · exact h.pending call' hold l hl
  · exact h.pending call (List.mem_of_getElem? hcall) l (hstate l hl)

/-- A call is added whose lease is built by now. -/
lemma LeaseIn.append (h : LeaseIn me s c) {call : Call}
    (hcall : ∀ l, call.state.pending = some l →
      ∃ (t : ℕ) (b : Bool), l = renewedLease me t b ∧ t ≤ c.now ∧ (b → s.localDraining)) :
    LeaseIn me { s with calls := s.calls ++ [call] } c := by
  refine ⟨h.flag, h.stored, fun call' hcall' l hl => ?_⟩
  rcases List.mem_append.1 hcall' with hold | hnew
  · exact h.pending call' hold l hl
  · obtain rfl := List.mem_singleton.1 hnew
    exact hcall l hl

/-- The flag is set in both. -/
lemma LeaseIn.setFlag (h : LeaseIn me s c) :
    ∃ c', clusterSystem.Path (OwnWrite me) c [.act me.replicaId .markDraining] c' ∧
      c'.now = c.now ∧ LeaseIn me { s with localDraining := true } c' := by
  obtain ⟨p, hp, -⟩ := h.flag
  have hmark : clusterSystem.step c (.act me.replicaId .markDraining) = some { c with
      procs := Function.update c.procs me.replicaId
        (some { p with sets := setDraining p.sets }) } := by
    simp only [clusterSystem, Cluster.step, hp, Option.bind_some, Cluster.Allows]
    rfl
  have hown : OwnWrite me c (.act me.replicaId .markDraining) := rfl
  refine ⟨_, .single hown hmark, rfl, ⟨_, Function.update_self _ _ _, rfl⟩, h.stored, ?_⟩
  intro call hcall l hl
  obtain ⟨t, b, rfl, ht, -⟩ := h.pending call hcall l hl
  exact ⟨t, b, rfl, ht, fun _ => rfl⟩

/-- The effect of a request. -/
lemma LeaseIn.effect (h : LeaseIn me s c) {i : ℕ} {call : Call} {lease : Option Lease}
    {state : CallState} (hcall : s.calls[i]? = some call)
    (he : call.state.effect s.lease = some (lease, state)) :
    ∃ es c', clusterSystem.Path (OwnWrite me) c es c' ∧ c'.now = c.now ∧
      LeaseIn me { s with lease := lease, calls := s.calls.set i { call with state := state } }
        c' := by
  have hmem := List.mem_of_getElem? hcall
  have hkept : state.pending = none → _ := fun hnone => pending_of_set h hcall fun l hl => by
    rw [hnone] at hl
    cases hl
  rcases CallState.effect_cases he with ⟨l, hl, hl', rfl⟩ | ⟨l, hl, hl', rfl⟩ | ⟨-, hl', rfl⟩
  · -- a create that meets a conflict
    refine ⟨[], c, .nil c, rfl, h.flag, h.stored, pending_of_set h hcall fun l' hl'' => ?_⟩
    rw [hl, ← hl', hl'']
  · obtain ⟨t, b, rfl, ht, hb⟩ := h.pending call hmem l hl
    have hown : OwnWrite me c (.renew me t b) := rfl
    have hname : (renewedLease me t b).name = some (leaseName me.replicaId) := rfl
    refine ⟨_, _, .single hown (exists_renew h ht hb), rfl, h.flag, fun l' => ?_, hkept hl'⟩
    show some _ = some l' ↔ l' ∈ putLease c.leases (renewedLease me t b) ∧ _
    rw [mem_putLease hname, Option.some.injEq, eq_comm]
  · have hown : OwnWrite me c (.deleteLease me.replicaId) := rfl
    have hdelete : clusterSystem.step c (.deleteLease me.replicaId) =
        some (c.setLeases (dropLease c.leases (leaseName me.replicaId))) := rfl
    refine ⟨_, _, .single hown hdelete, rfl, h.flag, fun l' => ?_, hkept hl'⟩
    simp [Cluster.setLeases, dropLease]

/-- **One request in the cluster.** -/
lemma cluster_simulates_step {now : ℕ} (h : LeaseIn me s c) (hnow : now ≤ c.now)
    (hclock : ClockRead now s e) (hs : (leaseSystem me).step s e = some s') :
    ∃ es c', clusterSystem.Path (OwnWrite me) c es c' ∧ c'.now = c.now ∧ LeaseIn me s' c' := by
  -- an answer or an error moves a call on and writes nothing
  have hmoved : ∀ (i : ℕ) (call : Call) (state : CallState), s.calls[i]? = some call →
      (call.state.answer = some state ∨ call.state.fail = some state) →
      LeaseIn me { s with calls := s.calls.set i { call with state := state } } c :=
    fun i call state hcall hstate => ⟨h.flag, h.stored,
      pending_of_set h hcall (CallState.answer_cases hstate).1⟩
  cases e with
  | renewal t =>
      obtain ⟨n, rfl, hn⟩ := hclock
      obtain rfl := Option.some.inj hs
      refine ⟨[], c, .nil c, rfl, h.append fun l hl => ?_⟩
      exact ⟨n, s.localDraining, (Option.some.inj hl).symm, hn.trans hnow, fun hb => hb⟩
  | markDraining t =>
      obtain ⟨n, rfl, hn⟩ := hclock
      obtain rfl := Option.some.inj hs
      obtain ⟨c', hp, hnow', h'⟩ := h.setFlag
      refine ⟨_, c', hp, hnow', h'.append fun l hl => ?_⟩
      exact ⟨n, true, (Option.some.inj hl).symm, by omega, fun _ => rfl⟩
  | deleteLease =>
      obtain rfl := Option.some.inj hs
      obtain ⟨c', hp, hnow', h'⟩ := h.setFlag
      exact ⟨_, c', hp, hnow', h'.append fun l hl => by cases hl⟩
  | effect i =>
      simp only [leaseSystem, Option.bind_eq_bind, Option.bind_eq_some_iff,
        Option.some.injEq] at hs
      obtain ⟨call, hcall, ⟨lease, state⟩, he, rfl⟩ := hs
      exact h.effect hcall he
  | answer i =>
      simp only [leaseSystem, Option.bind_eq_bind, Option.bind_eq_some_iff,
        Option.some.injEq] at hs
      obtain ⟨call, hcall, state, ha, rfl⟩ := hs
      exact ⟨[], c, .nil c, rfl, hmoved i call state hcall (.inl ha)⟩
  | fail i =>
      simp only [leaseSystem, Option.bind_eq_bind, Option.bind_eq_some_iff,
        Option.some.injEq] at hs
      obtain ⟨call, hcall, state, hf, rfl⟩ := hs
      exact ⟨[], c, .nil c, rfl, hmoved i call state hcall (.inr hf)⟩

/-- **The cluster follows the requests.** Every run of the requests of a replica, whose clock
reads are not later than the present, is followed by the cluster with writes of that replica
alone. -/
theorem cluster_simulates {now : ℕ} {es : List LeaseEvent} (hnow : now ≤ c.now)
    (h : LeaseIn me s c) (hp : (leaseSystem me).Path (ClockRead now) s es s') :
    ∃ fs c', clusterSystem.Path (OwnWrite me) c fs c' ∧ LeaseIn me s' c' := by
  have hstep : ∀ s e s' c, LeaseIn me s c ∧ now ≤ c.now → ClockRead now s e →
      (leaseSystem me).step s e = some s' →
      ∃ fs c', clusterSystem.Path (OwnWrite me) c fs c' ∧ LeaseIn me s' c' ∧ now ≤ c'.now := by
    rintro s e s' c ⟨h, hnow⟩ hclock hs
    obtain ⟨fs, c', hpath, hnow', h'⟩ := cluster_simulates_step h hnow hclock hs
    exact ⟨fs, c', hpath, h', by rwa [hnow']⟩
  obtain ⟨fs, c', hpath, h', -⟩ := hp.simulates hstep ⟨h, hnow⟩
  exact ⟨fs, c', hpath, h'⟩

end Simulation

/-! ### What the peers see -/

/-- A renewed lease that has not expired says what it was built with. -/
lemma observeLease_renewedLease {t : ℕ} {b : Bool} {readAt : ℤ} (hexpires : readAt < t + secs 30)
    (hrange : (t : ℤ) + secs 30 ≤ maxTimestamp) :
    observeLease readAt (renewedLease me t b) = some (some (me.replicaId, b)) := by
  have hname : stripPrefix "epa-replica-" (leaseName me.replicaId) = some me.replicaId :=
    stripPrefix_eq_some_iff.2 rfl
  have hadd : timestampAdd t (secs 30) = some ((t : ℤ) + secs 30) := if_pos hrange
  have hdraining := renewedLease_isDraining me t b
  simp only [observeLease, renewedLease] at hdraining ⊢
  rw [if_neg (by decide), show min (30 : ℤ).toNat 86400 = 30 from rfl, hadd, Option.map_some,
    if_pos hexpires, Option.bind_some, hname, hdraining]
  rfl

/-- **Readmission.** Where the requests of a replica end with a lease that was built at the
instant `t` with the flag unset, the cluster can follow them to a state in which every peer
that lists the leases before this lease expires counts the replica as active. -/
theorem readmitted_by_peers {now t : ℕ} {es : List LeaseEvent} (hnow : now ≤ c.now)
    (h : LeaseIn me s c) (hp : (leaseSystem me).Path (ClockRead now) s es s')
    (hlease : s'.lease = some (renewedLease me t false))
    (hrange : (t : ℤ) + secs 30 ≤ maxTimestamp) :
    ∃ fs c', clusterSystem.Path (OwnWrite me) c fs c' ∧
      ∀ peer readAt sets sets', peer ≠ me.replicaId → readAt < (t : ℤ) + secs 30 →
        updateActiveReplicas peer c'.leases readAt sets = some sets' →
        me.replicaId ∈ sets'.active := by
  obtain ⟨fs, c', hpath, h'⟩ := cluster_simulates hnow h hp
  refine ⟨fs, c', hpath, fun peer readAt sets sets' hpeer hexpires hupdate => ?_⟩
  refine ((mem_updateActiveReplicas hupdate me.replicaId).1).2 ⟨fun hme => hpeer hme.1.symm, ?_⟩
  exact ⟨_, ((h'.stored _).1 hlease).1, observeLease_renewedLease hexpires hrange⟩

end ExternalPodAutoscaler.Membership
