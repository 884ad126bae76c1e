/-
Forwarding of metric requests (`webhook/metrics/handlers.rs`).

A replica that does not serve an EPA forwards the request to the owner, or, when it is the
owner itself, to the previous owner.  A forwarded request is treated by the same handler,
so a request travels along a chain of replicas.

The main result of this file is `forwarding_terminates_iff`: when all replicas hold one
view, the chains visit no replica twice and take at most two hops, except in one
situation, the `OrphanedHandover`: the owner waits for a draining replica that is alive
but has no record of the EPA.  The two then forward to each other for ever
(`created_during_drain_cycles`).
-/
import ExternalPodAutoscaler.Membership.Cluster

namespace ExternalPodAutoscaler.Webhook

open Lib ExternalPodAutoscaler.Membership

/-- What `get_external_metric` decides to do with a request. -/
inductive Routing where
  /-- The replica serves the EPA. -/
  | serve
  /-- The request goes to another replica, the previous owner if the flag is set. -/
  | forward (target : String) (isDrainingForward : Bool)
  /-- There is nobody to forward to; local data is used if there is any. -/
  | localData
deriving DecidableEq

/-- The replica to forward to, and whether it is the previous owner. -/
def forwardTarget (me : String) (sets : ReplicaSets) (ns name : String) : Option (String × Bool) :=
  match getEpaOwner sets ns name with
  | none => none
  | some ownerId =>
    if ownerId = me then
      match getPreviousEpaOwner sets ns name with
      | some prev => if prev ≠ ownerId then some (prev, true) else none
      | none => none
    else some (ownerId, false)

/-- The decision of `get_external_metric` at replica `me`. -/
def getExternalMetric (me : String) (now : ℕ) (p : Replica) (ns name : String) : Routing :=
  if shouldServeEpa me p.sets now ns name p.state then .serve
  else
    match forwardTarget me p.sets ns name with
    | some (target, isDrainingForward) => .forward target isDrainingForward
    | none => .localData

/-- Replica `r` is alive and forwards requests for the EPA to `r'`. -/
def Forwards (c : Cluster) (ns name r r' : String) : Prop :=
  ∃ p flag, c.procs r = some p ∧ getExternalMetric r c.now p ns name = .forward r' flag

/-- The chains of replicas that requests for the EPA travel along visit no replica twice
and take at most two hops. -/
def ForwardingTerminates (c : Cluster) (ns name : String) : Prop :=
  ∀ chain : List String, chain.IsChain (Forwards c ns name) → chain.Nodup ∧ chain.length ≤ 3

/-- In the view `V` the EPA is being handed over by a replica `p` that does not know it:
the owner `o` is alive, has not lost the EPA and has not owned it for an evaluation
period; the previous owner `p` is another replica, is alive, and neither owns the EPA nor
remembers having lost it. -/
def OrphanedHandover (c : Cluster) (V : ReplicaSets) (ns name : String) : Prop :=
  ∃ o p, getEpaOwner V ns name = some o ∧ getPreviousEpaOwner V ns name = some p ∧ p ≠ o ∧
    (∃ ro, c.procs o = some ro ∧ ro.state.lost (epaKey ns name) = none ∧
      ∀ s, ro.state.owned (epaKey ns name) = some s →
        elapsed c.now s.since < s.evaluationPeriod) ∧
    ∃ rp, c.procs p = some rp ∧ rp.state.owned (epaKey ns name) = none ∧
      rp.state.lost (epaKey ns name) = none

/-! ### Where a request goes -/

section Routing

variable {c : Cluster} {V : ReplicaSets} {ns name : String}

lemma getExternalMetric_eq_forward_iff {me r' : String} {now : ℕ} {p : Replica} {flag : Bool} :
    getExternalMetric me now p ns name = .forward r' flag ↔
      shouldServeEpa me p.sets now ns name p.state = false ∧
        forwardTarget me p.sets ns name = some (r', flag) := by
  rcases hs : shouldServeEpa me p.sets now ns name p.state with _ | _
  · rcases ht : forwardTarget me p.sets ns name with _ | ⟨t, f⟩ <;>
      simp [getExternalMetric, hs, ht]
  · simp [getExternalMetric, hs]

/-- A request is forwarded to the owner by the others, and to the previous owner by the
owner. -/
lemma forwardTarget_eq_some_iff {me r' : String} {sets : ReplicaSets} {flag : Bool} :
    forwardTarget me sets ns name = some (r', flag) ↔
      (flag = false ∧ getEpaOwner sets ns name = some r' ∧ r' ≠ me) ∨
      (flag = true ∧ getEpaOwner sets ns name = some me ∧
        getPreviousEpaOwner sets ns name = some r' ∧ r' ≠ me) := by
  unfold forwardTarget
  rcases ho : getEpaOwner sets ns name with _ | o
  · simp
  · by_cases hme : o = me
    · subst hme
      rcases hp : getPreviousEpaOwner sets ns name with _ | prev
      · simp only [if_true, reduceCtorEq, false_iff, Option.some.injEq, false_and, and_false,
          or_false]
        rintro ⟨-, rfl, hne⟩
        exact hne rfl
      · by_cases hprev : prev = o
        · subst hprev
          simp_all
        · simp only [ne_eq, if_true, hprev, not_false_eq_true, Option.some.injEq, Prod.mk.injEq,
            true_and]
          constructor
          · rintro ⟨rfl, rfl⟩
            exact Or.inr ⟨rfl, rfl, hprev⟩
          · rintro (⟨-, rfl, hne⟩ | ⟨rfl, rfl, -⟩)
            · exact absurd rfl hne
            · exact ⟨rfl, rfl⟩
    · simp only [if_neg hme, Option.some.injEq, Prod.mk.injEq]
      constructor
      · rintro ⟨rfl, rfl⟩
        exact Or.inl ⟨rfl, rfl, hme⟩
      · rintro (⟨rfl, rfl, -⟩ | ⟨-, rfl, -⟩)
        · exact ⟨rfl, rfl⟩
        · exact absurd rfl hme

/-- A replica that forwards has no grace window. -/
lemma lost_eq_none_of_forwards {r r' : String} {p : Replica} (hp : c.procs r = some p)
    (h : Forwards c ns name r r') : p.state.lost (epaKey ns name) = none := by
  obtain ⟨q, flag, hq, hfw⟩ := h
  obtain rfl : p = q := Option.some.inj (hp.symm.trans hq)
  have hserve := (getExternalMetric_eq_forward_iff.1 hfw).1
  rw [shouldServeEpa_eq] at hserve
  rcases hl : p.state.lost (epaKey ns name) with _ | l
  · rfl
  · rw [TransitionState.phase_eq_lost_iff.2 hl] at hserve
    cases hserve

/-- An owner that forwards has not owned the EPA for an evaluation period. -/
lemma young_of_forwards {r r' : String} {p : Replica} (hp : c.procs r = some p)
    (h : Forwards c ns name r r') (s : OwnershipState)
    (hs : p.state.owned (epaKey ns name) = some s) :
    elapsed c.now s.since < s.evaluationPeriod := by
  obtain ⟨q, flag, hq, hfw⟩ := h
  obtain rfl : p = q := Option.some.inj (hp.symm.trans hq)
  have hserve := (getExternalMetric_eq_forward_iff.1 hfw).1
  rw [shouldServeEpa_eq, TransitionState.phase_eq_owned_iff.2 hs] at hserve
  by_contra hold
  simp [KeyPhase.serves, Nat.le_of_not_lt hold] at hserve

variable (hview : c.SharesView V) (hw : DistinctWeights V ns name)

include hview hw

/-- The replicas a request may go to, in terms of the shared view. -/
lemma target_of_forwards {r r' : String} (h : Forwards c ns name r r') :
    r' ≠ r ∧ ((getEpaOwner V ns name = some r') ∨
      (getEpaOwner V ns name = some r ∧ getPreviousEpaOwner V ns name = some r')) := by
  obtain ⟨p, flag, hp, hfw⟩ := h
  rw [getExternalMetric_eq_forward_iff, forwardTarget_eq_some_iff, hview.owner hw hp,
    hview.previousOwner hw hp] at hfw
  rcases hfw.2 with ⟨-, ho, hne⟩ | ⟨-, ho, hprev, hne⟩
  · exact ⟨hne, Or.inl ho⟩
  · exact ⟨hne, Or.inr ⟨ho, hprev⟩⟩

/-- The previous owner forwards only if it has no record of the EPA: with a record of it
as owned it would serve, since it waits for nobody. -/
lemma notTracking_of_previousOwner_forwards {p r' : String} {rp : Replica}
    (hprev : getPreviousEpaOwner V ns name = some p) (hp : c.procs p = some rp)
    (h : Forwards c ns name p r') :
    rp.state.owned (epaKey ns name) = none ∧ rp.state.lost (epaKey ns name) = none := by
  refine ⟨?_, lost_eq_none_of_forwards hp h⟩
  obtain ⟨q, flag, hq, hfw⟩ := h
  obtain rfl : rp = q := Option.some.inj (hp.symm.trans hq)
  have hserve := (getExternalMetric_eq_forward_iff.1 hfw).1
  have hself : hasPreviousOwner p rp.sets ns name = false := by
    rw [hasPreviousOwner, hview.previousOwner hw hp, hprev]
    simp
  rw [shouldServeEpa_eq, hself] at hserve
  rcases ho : rp.state.owned (epaKey ns name) with _ | s
  · rfl
  · rw [TransitionState.phase_eq_owned_iff.2 ho] at hserve
    simp [KeyPhase.serves] at hserve

/-- Two hops in a row from one replica to itself, or on from the previous owner, are an
orphaned handover. -/
lemma orphaned_of_forwards {o p r' : String} (hop : Forwards c ns name o p)
    (ho : getEpaOwner V ns name = some o) (hprev : getPreviousEpaOwner V ns name = some p)
    (hp : Forwards c ns name p r') : OrphanedHandover c V ns name := by
  have hne := (target_of_forwards hview hw hop).1
  obtain ⟨ro, -, hro, -⟩ := id hop
  obtain ⟨rp, -, hrp, -⟩ := id hp
  refine ⟨o, p, ho, hprev, hne, ⟨ro, hro, ?_, ?_⟩, ⟨rp, hrp, ?_⟩⟩
  · exact lost_eq_none_of_forwards hro hop
  · exact young_of_forwards hro hop
  · exact notTracking_of_previousOwner_forwards hview hw hprev hrp hp

/-- In an orphaned handover the owner and the previous owner forward to each other. -/
lemma forwards_of_orphaned (h : OrphanedHandover c V ns name) :
    ∃ o p, Forwards c ns name o p ∧ Forwards c ns name p o := by
  obtain ⟨o, p, ho, hprev, hne, ⟨ro, hro, hlost, hyoung⟩, ⟨rp, hrp, hpo, hpl⟩⟩ := h
  refine ⟨o, p, ⟨ro, true, hro, ?_⟩, ⟨rp, false, hrp, ?_⟩⟩
  · rw [getExternalMetric_eq_forward_iff, forwardTarget_eq_some_iff, hview.owner hw hro,
      hview.previousOwner hw hro]
    refine ⟨?_, Or.inr ⟨rfl, ho, hprev, hne⟩⟩
    have hwaits : hasPreviousOwner o ro.sets ns name = true :=
      hasPreviousOwner_iff.2 ⟨p, by rw [hview.previousOwner hw hro, hprev], hne⟩
    rw [shouldServeEpa_eq, hwaits]
    rcases hph : ro.state.phase (epaKey ns name) with _ | s | l
    · rfl
    · have := hyoung s (TransitionState.phase_eq_owned_iff.1 hph)
      simp only [KeyPhase.serves, Bool.not_true, Bool.or_false, decide_eq_false_iff_not]
      omega
    · rw [TransitionState.phase_eq_lost_iff.1 hph] at hlost
      cases hlost
  · rw [getExternalMetric_eq_forward_iff, forwardTarget_eq_some_iff, hview.owner hw hrp]
    refine ⟨?_, Or.inl ⟨rfl, ho, Ne.symm hne⟩⟩
    rw [shouldServeEpa_eq, TransitionState.phase_eq_notTracking_iff.2 ⟨hpo, hpl⟩]
    rfl

/-- Without an orphaned handover the previous owner of a forwarding owner does not forward. -/
lemma not_forwards_of_forwards {o p r' : String} (h : ¬ OrphanedHandover c V ns name)
    (ho : getEpaOwner V ns name = some o) (hop : Forwards c ns name o p) :
    ¬ Forwards c ns name p r' := by
  intro hp
  obtain ⟨hne, howner | ⟨-, hprev⟩⟩ := target_of_forwards hview hw hop
  · exact hne (Option.some.inj (howner.symm.trans ho))
  · exact h (orphaned_of_forwards hview hw hop ho hprev hp)

/-- Without an orphaned handover every chain is short and simple. -/
lemma chain_of_not_orphaned (h : ¬ OrphanedHandover c V ns name) {chain : List String}
    (hc : chain.IsChain (Forwards c ns name)) : chain.Nodup ∧ chain.length ≤ 3 := by
  -- the second replica of a chain that goes on is the owner, so the third ends it
  have hsecond : ∀ {x y z : String}, Forwards c ns name x y → Forwards c ns name y z →
      getEpaOwner V ns name = some y := by
    intro x y z hxy hyz
    obtain ⟨-, howner | ⟨ho, hprev⟩⟩ := target_of_forwards hview hw hxy
    · exact howner
    · exact absurd hyz (not_forwards_of_forwards hview hw h ho hxy)
  match chain, hc with
  | [], _ => simp
  | [x], _ => simp
  | [x, y], hc =>
      have hxy : Forwards c ns name x y := by simpa using hc
      have hne := (target_of_forwards hview hw hxy).1
      simp [hne.symm]
  | [x, y, z], hc =>
      obtain ⟨hxy, hyz⟩ : Forwards c ns name x y ∧ Forwards c ns name y z := by simpa using hc
      have hxz : x ≠ z := by
        rintro rfl
        exact not_forwards_of_forwards hview hw h (hsecond hxy hyz) hyz hxy
      have hne := (target_of_forwards hview hw hxy).1
      have hne' := (target_of_forwards hview hw hyz).1
      simp [hne.symm, hne'.symm, hxz]
  | x :: y :: z :: w :: rest, hc =>
      simp only [List.isChain_cons_cons] at hc
      obtain ⟨hxy, hyz, hzw, -⟩ := hc
      exact absurd hzw (not_forwards_of_forwards hview hw h (hsecond hxy hyz) hyz)

end Routing

/-- **When forwarding terminates.** When all live replicas hold one view, in which the
replicas have distinct weights for the EPA, the chains of forwarded requests visit no
replica twice and take at most two hops exactly when there is no orphaned handover. -/
theorem forwarding_terminates_iff {c : Cluster} {V : ReplicaSets} {ns name : String}
    (hview : c.SharesView V) (hw : DistinctWeights V ns name) :
    ForwardingTerminates c ns name ↔ ¬ OrphanedHandover c V ns name := by
  constructor
  · intro h horph
    obtain ⟨o, p, hop, hpo⟩ := forwards_of_orphaned hview hw horph
    obtain ⟨hnodup, -⟩ := h [o, p, o] (by simp [hop, hpo])
    simp at hnodup
  · intro h chain hc
    exact chain_of_not_orphaned hview hw h hc

/-- The draining replica and its successor forward to each other when the EPA was created
during the drain. -/
theorem created_during_drain_cycles :
    ∃ c V, clusterSystem.Reachable System.Any c ∧ c.SharesView V ∧ V.Disjoint ∧
      DistinctWeights V "default" "web" ∧
      ["replica-b", "replica-a", "replica-b"].IsChain (Forwards c "default" "web") ∧
      ¬ ForwardingTerminates c "default" "web" := by
  obtain ⟨c, pa, pb, hc, hnow, hlive, hpa, hpb, hva, hvb, hsa, hsb⟩ := createdDuringDrain_state
  have hab : Forwards c "default" "web" "replica-a" "replica-b" := by
    refine ⟨pa, true, hpa, getExternalMetric_eq_forward_iff.2 ⟨?_, ?_⟩⟩
    · rw [shouldServeEpa_eq, hsa, hva, hnow]
      decide +kernel
    · rw [hva]
      decide +kernel
  have hba : Forwards c "default" "web" "replica-b" "replica-a" := by
    refine ⟨pb, false, hpb, getExternalMetric_eq_forward_iff.2 ⟨?_, ?_⟩⟩
    · rw [shouldServeEpa_eq, hsb]
      rfl
    · rw [hvb]
      decide +kernel
  have hchain : ["replica-b", "replica-a", "replica-b"].IsChain (Forwards c "default" "web") := by
    simp [hab, hba]
  refine ⟨c, drainView false, .of_exec ⟨0, rfl⟩ hc, createdDuringDrain_sharesView hlive hva hvb,
    by decide, by decide +kernel, hchain, ?_⟩
  intro h
  exact absurd (h _ hchain).1 (by decide)

/-- In that state the handover is orphaned. -/
theorem forwarding_terminates_iff_created_during_drain :
    ∃ c, clusterSystem.Reachable System.Any c ∧ (ForwardingTerminates c "default" "web" ↔
      ¬ OrphanedHandover c (drainView false) "default" "web") := by
  obtain ⟨c, pa, pb, hc, -, hlive, -, -, hva, hvb, -, -⟩ := createdDuringDrain_state
  exact ⟨c, .of_exec ⟨0, rfl⟩ hc,
    forwarding_terminates_iff (createdDuringDrain_sharesView hlive hva hvb) (by decide +kernel)⟩

end ExternalPodAutoscaler.Webhook
