/-
One replica process and its runs.

A process holds the replica sets of its membership manager and the ownership maps.  It
takes three kinds of steps: it derives its sets from a list of leases, it sets its own
draining flag, and its scheduler refreshes the ownership of an EPA.  `localSystem me`
runs one process against whatever lists of leases the API may return, with a clock.

The main result of this file is `serves_iff_no_heavy_draining`: as long as the process is
the winner and has not been so for an evaluation period, it serves exactly when no
draining replica is at least as heavy as itself.  `new_owner_waits_iff` says the same of
a whole run: being an active member is not enough for a predecessor to be waited for, and
`scale_up_serves_at_once` is a run in which it is not.
-/
import ExternalPodAutoscaler.Lib.Transition
import ExternalPodAutoscaler.Membership.Manager
import ExternalPodAutoscaler.Membership.TransitionState

namespace ExternalPodAutoscaler.Membership

open Lib

/-- The membership manager's sets and the ownership maps of a process. -/
structure Replica where
  sets : ReplicaSets
  state : TransitionState

/-- A step of a process. -/
inductive ReplicaEvent where
  /-- `update_active_replicas`, with the leases the API returned, the instant the
  timestamps are compared with, and the sets the process holds afterwards in the iteration
  order of its hash sets. -/
  | discover (leases : List Lease) (readAt : ℤ) (sets : ReplicaSets)
  /-- The draining flag is set. -/
  | markDraining
  /-- `refresh_ownership`. -/
  | refresh (ns name : String) (evaluationPeriod : ℕ)

namespace Replica

/-- A process that has just started. -/
def start : Replica := ⟨.new, .new⟩

/-- A step of the process of replica `me` at instant `now`. -/
def step (me : String) (now : ℕ) (p : Replica) : ReplicaEvent → Option Replica
  | .discover leases readAt sets =>
    (updateActiveReplicas me leases readAt p.sets).bind fun updated =>
      if DistinctNames leases ∧ updated.SameView sets ∧
          sets.localDraining = updated.localDraining then
        some { p with sets := sets }
      else none
  | .markDraining => some { p with sets := setDraining p.sets }
  | .refresh ns name evaluationPeriod =>
    some { p with state := refreshOwnership me p.sets now ns name evaluationPeriod p.state }

variable {me : String} {now : ℕ} {p p' : Replica} {e : ReplicaEvent}

lemma step_discover {leases : List Lease} {readAt : ℤ} {sets : ReplicaSets}
    (h : p.step me now (.discover leases readAt sets) = some p') :
    ∃ updated, updateActiveReplicas me leases readAt p.sets = some updated ∧
      DistinctNames leases ∧ updated.SameView sets ∧ p' = { p with sets := sets } := by
  simp only [step, Option.bind_eq_some_iff] at h
  obtain ⟨updated, hup, h⟩ := h
  split at h
  · rename_i hc
    exact ⟨updated, hup, hc.1, hc.2.1, (Option.some.inj h).symm⟩
  · cases h

/-- The two sets of a process stay disjoint. -/
lemma disjoint_step (hd : p.sets.Disjoint) (h : p.step me now e = some p') :
    p'.sets.Disjoint := by
  cases e with
  | discover leases readAt sets =>
      obtain ⟨updated, hup, hnames, hsame, rfl⟩ := step_discover h
      have hdis := updateActiveReplicas_disjoint hnames hup
      intro id ha hdr
      exact hdis id ((hsame.1 id).2 ha) ((hsame.2 id).2 hdr)
  | markDraining =>
      obtain rfl := Option.some.inj h
      exact hd
  | refresh ns name P =>
      obtain rfl := Option.some.inj h
      exact hd

lemma disjoint_start : start.sets.Disjoint := fun id ha => absurd ha (IdSet.not_mem_empty id)

end Replica

/-! ### Runs of one process -/

/-- A process and the clock it reads. -/
structure LocalState where
  now : ℕ
  proc : Replica

/-- What can happen around one process. -/
inductive LocalEvent where
  | advance (d : ℕ)
  | act (e : ReplicaEvent)

/-- One process among arbitrary lists of leases. -/
def localSystem (me : String) : System LocalState LocalEvent where
  init s := s.proc = Replica.start
  step s
    | .advance d => some { s with now := s.now + d }
    | .act e => (s.proc.step me s.now e).map fun proc => { s with proc := proc }

variable {me : String} {s s' : LocalState}

lemma localSystem_init (now : ℕ) : (localSystem me).init ⟨now, .start⟩ := rfl

lemma localSystem_act {e : ReplicaEvent}
    (h : (localSystem me).step s (.act e) = some s') :
    ∃ proc, s.proc.step me s.now e = some proc ∧ s' = { s with proc := proc } := by
  obtain ⟨proc, hp, rfl⟩ := Option.map_eq_some_iff.1 h
  exact ⟨proc, hp, rfl⟩

/-- The two sets are disjoint in every reachable state. -/
lemma localSystem_disjoint (h : (localSystem me).Reachable System.Any s) :
    s.proc.sets.Disjoint := by
  refine h.invariant (I := fun s => s.proc.sets.Disjoint) ?_ ?_
  · intro s₀ h₀
    show s₀.proc.sets.Disjoint
    rw [show s₀.proc = Replica.start from h₀]
    exact Replica.disjoint_start
  · intro s e s' hd _ hs
    cases e with
    | advance d =>
        obtain rfl := Option.some.inj hs
        exact hd
    | act e =>
        obtain ⟨proc, hp, rfl⟩ := localSystem_act hs
        exact Replica.disjoint_step hd hp

/-! ### The waiting of a new owner -/

section Waiting

variable {ns name : String}

/-- Every refresh of the EPA finds the process to be its owner. -/
def StaysOwner (me ns name : String) (s : LocalState) (e : LocalEvent) : Prop :=
  ∀ ns' name' P, e = .act (.refresh ns' name' P) → epaKey ns' name' = epaKey ns name →
    isEpaOwner me s.proc.sets ns name = true

/-- The evaluation period of the EPA after the events: that of its last refresh. -/
def periodInForce (ns name : String) : ℕ → List LocalEvent → ℕ
  | P, [] => P
  | P, .act (.refresh ns' name' P') :: es =>
    periodInForce ns name (if epaKey ns' name' = epaKey ns name then P' else P) es
  | P, _ :: es => periodInForce ns name P es

lemma periodInForce_cons (ns name : String) (P : ℕ) (e : LocalEvent) (es : List LocalEvent) :
    periodInForce ns name P (e :: es) =
      periodInForce ns name (periodInForce ns name P [e]) es := by
  rcases e with d | (_ | _ | _) <;> rfl

/-- The process has won the EPA at instant `t₀`, which is not after the present, and its
evaluation period is `P`. -/
def OwnedSince (ns name : String) (t₀ P : ℕ) (s : LocalState) : Prop :=
  t₀ ≤ s.now ∧
    s.proc.state.phase (epaKey ns name) = .owned { since := t₀, evaluationPeriod := P }

/-- What one step does to an EPA that is owned. -/
lemma ownedSince_step {t₀ P : ℕ} {e : LocalEvent} (h : OwnedSince ns name t₀ P s)
    (hok : StaysOwner me ns name s e) (hs : (localSystem me).step s e = some s') :
    OwnedSince ns name t₀ (periodInForce ns name P [e]) s' := by
  obtain ⟨hle, hph⟩ := h
  cases e with
  | advance d =>
      obtain rfl := Option.some.inj hs
      refine ⟨?_, hph⟩
      show t₀ ≤ s.now + d
      omega
  | act e =>
      obtain ⟨proc, hp, rfl⟩ := localSystem_act hs
      refine ⟨hle, ?_⟩
      cases e with
      | discover leases readAt sets =>
          obtain ⟨-, -, -, -, rfl⟩ := Replica.step_discover hp
          exact hph
      | markDraining =>
          obtain rfl := Option.some.inj hp
          exact hph
      | refresh ns' name' P' =>
          obtain rfl := Option.some.inj hp
          show (refreshOwnership me s.proc.sets s.now ns' name' P' s.proc.state).phase
            (epaKey ns name) = _
          by_cases hkey : epaKey ns' name' = epaKey ns name
          · -- a refresh of this EPA takes over the period and keeps the instant
            have hwin := hok ns' name' P' rfl hkey
            rw [refreshOwnership_key_congr hkey, phase_refreshOwnership_self, hwin, hph]
            simp only [periodInForce, hkey, if_true]
            rfl
          · rw [phase_refreshOwnership_of_ne (Ne.symm hkey), hph]
            simp only [periodInForce, hkey, if_false]
            rfl

lemma ownedSince_path {t₀ P : ℕ} {es : List LocalEvent}
    (hp : (localSystem me).Path (StaysOwner me ns name) s es s')
    (h : OwnedSince ns name t₀ P s) : OwnedSince ns name t₀ (periodInForce ns name P es) s' := by
  induction hp generalizing P with
  | nil => exact h
  | cons hok hs _ ih =>
      rw [periodInForce_cons]
      exact ih (ownedSince_step h hok hs)

/-- The first refresh that finds the process to be the owner starts the period. -/
lemma ownedSince_of_refresh {P : ℕ} (hnew : s.proc.state.owned (epaKey ns name) = none)
    (hwin : isEpaOwner me s.proc.sets ns name = true)
    (hs : (localSystem me).step s (.act (.refresh ns name P)) = some s') :
    OwnedSince ns name s.now P s' := by
  obtain ⟨proc, hp, rfl⟩ := localSystem_act hs
  obtain rfl := Option.some.inj hp
  refine ⟨le_rfl, ?_⟩
  show (refreshOwnership me s.proc.sets s.now ns name P s.proc.state).phase (epaKey ns name) = _
  rw [phase_refreshOwnership_self, hwin]
  rcases hph : s.proc.state.phase (epaKey ns name) with _ | o | l
  · rfl
  · rw [TransitionState.phase_eq_owned_iff.1 hph] at hnew
    cases hnew
  · rfl

/-- A winner whose evaluation period has not elapsed serves exactly when every draining
replica is lighter than itself. -/
lemma serves_iff_no_heavy_draining {t₀ P : ℕ} (hd : s.proc.sets.Disjoint)
    (h : OwnedSince ns name t₀ P s) (hnow : s.now < t₀ + P)
    (hown : isEpaOwner me s.proc.sets ns name = true) :
    shouldServeEpa me s.proc.sets s.now ns name s.proc.state = true ↔
      ∀ d ∈ s.proc.sets.draining, weight (epaKey ns name) d < weight (epaKey ns name) me := by
  obtain ⟨hle, hph⟩ := h
  have hyoung : ¬ P ≤ elapsed s.now t₀ := by
    simp only [elapsed]
    omega
  have howner := isEpaOwner_iff.1 hown
  obtain ⟨prev, hprev⟩ := exists_previousOwner howner
  rw [shouldServeEpa_eq, hph, ← previousOwner_eq_owner_iff hd howner, hprev]
  simp [KeyPhase.serves, hyoung, hasPreviousOwner, hprev]

/-- `Q` holds whenever, along the events `es` that follow the win at `t₀`, the evaluation
period has not elapsed, the process is still the winner, and the replica `X` is still a
member of one of its sets. -/
def WhileWaiting (me ns name X : String) (t₀ P : ℕ) (s : LocalState) (es : List LocalEvent)
    (Q : LocalState → Prop) : Prop :=
  ∀ es₁ es₂ s', es = es₁ ++ es₂ →
    (localSystem me).Path (StaysOwner me ns name) s es₁ s' →
    s'.now < t₀ + periodInForce ns name P es₁ →
    isEpaOwner me s'.proc.sets ns name = true →
    X ∈ s'.proc.sets.active ∨ X ∈ s'.proc.sets.draining → Q s'

/-- **When a new owner waits.** A process that becomes the owner of an EPA at some instant
is held back for the evaluation period, as long as it is the winner and the replica `X` is
a member of its view, exactly when all this time some draining replica is at least as
heavy as itself. -/
theorem new_owner_waits_iff {P : ℕ} (hreach : (localSystem me).Reachable System.Any s)
    (hnew : s.proc.state.owned (epaKey ns name) = none)
    (hwin : isEpaOwner me s.proc.sets ns name = true)
    (hs : (localSystem me).step s (.act (.refresh ns name P)) = some s') (X : String)
    (es : List LocalEvent) :
    WhileWaiting me ns name X s.now P s' es (fun s₁ =>
        shouldServeEpa me s₁.proc.sets s₁.now ns name s₁.proc.state = false) ↔
      WhileWaiting me ns name X s.now P s' es (fun s₁ =>
        ∃ d ∈ s₁.proc.sets.draining,
          weight (epaKey ns name) me ≤ weight (epaKey ns name) d) := by
  have hreach' := hreach.step trivial hs
  have hown := ownedSince_of_refresh hnew hwin hs
  -- at each instant of the window the two properties are equivalent
  have hpoint : ∀ es₁ s₁, (localSystem me).Path (StaysOwner me ns name) s' es₁ s₁ →
      s₁.now < s.now + periodInForce ns name P es₁ →
      isEpaOwner me s₁.proc.sets ns name = true →
      (shouldServeEpa me s₁.proc.sets s₁.now ns name s₁.proc.state = false ↔
        ∃ d ∈ s₁.proc.sets.draining,
          weight (epaKey ns name) me ≤ weight (epaKey ns name) d) := by
    intro es₁ s₁ hp hnow hwin₁
    have hd := localSystem_disjoint (hreach'.path (hp.mono fun _ _ _ => trivial))
    have hiff := serves_iff_no_heavy_draining hd (ownedSince_path hp hown) hnow hwin₁
    rw [← Bool.not_eq_true, hiff]
    simp only [not_forall, not_lt, exists_prop]
  constructor
  · intro h es₁ es₂ s₁ heq hp hnow hwin₁ hX
    exact (hpoint es₁ s₁ hp hnow hwin₁).1 (h es₁ es₂ s₁ heq hp hnow hwin₁ hX)
  · intro h es₁ es₂ s₁ heq hp hnow hwin₁ hX
    exact (hpoint es₁ s₁ hp hnow hwin₁).2 (h es₁ es₂ s₁ heq hp hnow hwin₁ hX)

end Waiting

/-! ### A scale-up -/

/-- The lease of a replica of the deployment, renewed at second `t`. -/
def deployedLease (id : String) (t : ℕ) (isDraining : Bool) : Lease :=
  renewedLease (deployed id) (secs t) isDraining

/-- A replica that joins first sees the lease of the other replica alone. -/
def seesOther : List LocalEvent :=
  [.act (.discover [deployedLease "replica-a" 0 false] 0
      ⟨⟨["replica-a"], by decide⟩, .empty, false⟩),
    .act (.refresh "default" "web" (secs 60))]

/-- A second later it sees its own lease as well. -/
def seesItself : List LocalEvent :=
  [.advance (secs 1),
    .act (.discover [deployedLease "replica-a" 0 false, deployedLease "replica-b" 1 false] (secs 1)
      ⟨⟨["replica-b", "replica-a"], by decide⟩, .empty, false⟩)]

/-- The two views of the joining replica, and that it serves right after the refresh that
finds it to be the owner. -/
lemma joining_run :
    ((localSystem "replica-b").exec ⟨0, .start⟩ seesOther).any (fun s₀ =>
      getEpaOwner s₀.proc.sets "default" "web" == some "replica-a" &&
      ((localSystem "replica-b").exec s₀ seesItself).any fun s =>
        decide (s.proc.state.owned (epaKey "default" "web") = none) &&
        isEpaOwner "replica-b" s.proc.sets "default" "web" &&
        decide ("replica-a" ∈ s.proc.sets.active) &&
        shouldServeEpa "replica-b" s.proc.sets s.now "default" "web"
          (refreshOwnership "replica-b" s.proc.sets s.now "default" "web" (secs 60)
            s.proc.state)) = true := by
  decide +kernel

/-- The EPA moves from the other replica to the one that joins; the other one is active, and
the new owner serves from its first refresh on. -/
theorem scale_up_serves_at_once :
    ∃ s₀ s s' es, (localSystem "replica-b").Reachable System.Any s₀ ∧
      getEpaOwner s₀.proc.sets "default" "web" = some "replica-a" ∧
      (localSystem "replica-b").Path System.Any s₀ es s ∧
      (localSystem "replica-b").step s (.act (.refresh "default" "web" (secs 60))) = some s' ∧
      s'.now < s.now + secs 60 ∧ "replica-a" ∈ s'.proc.sets.active ∧
      isEpaOwner "replica-b" s'.proc.sets "default" "web" = true ∧
      shouldServeEpa "replica-b" s'.proc.sets s'.now "default" "web" s'.proc.state = true := by
  obtain ⟨s₀, h₀, hrun⟩ := (Option.any_eq_true _ _).1 joining_run
  obtain ⟨ha, hrun⟩ := Bool.and_eq_true_iff.1 hrun
  obtain ⟨s, hs, hrun⟩ := (Option.any_eq_true _ _).1 hrun
  simp only [Bool.and_eq_true, decide_eq_true_eq] at hrun
  obtain ⟨⟨⟨-, hb⟩, hact⟩, hserve⟩ := hrun
  refine ⟨s₀, s, _, seesItself, .of_exec (localSystem_init 0) h₀, beq_iff_eq.1 ha,
    System.exec_eq_some_iff.1 hs, rfl, ?_, hact, hb, hserve⟩
  show s.now < s.now + secs 60
  simp only [secs]
  omega

/-- At the joining replica the two sides of the equivalence are false. -/
theorem new_owner_waits_iff_joining :
    ∃ s s', (localSystem "replica-b").step s (.act (.refresh "default" "web" (secs 60))) =
        some s' ∧
      (WhileWaiting "replica-b" "default" "web" "replica-a" s.now (secs 60) s' [] (fun s₁ =>
          shouldServeEpa "replica-b" s₁.proc.sets s₁.now "default" "web" s₁.proc.state =
            false) ↔
        WhileWaiting "replica-b" "default" "web" "replica-a" s.now (secs 60) s' [] (fun s₁ =>
          ∃ d ∈ s₁.proc.sets.draining, weight (epaKey "default" "web") "replica-b" ≤
            weight (epaKey "default" "web") d)) := by
  obtain ⟨s₀, h₀, hrun⟩ := (Option.any_eq_true _ _).1 joining_run
  obtain ⟨-, hrun⟩ := Bool.and_eq_true_iff.1 hrun
  obtain ⟨s, hs, hrun⟩ := (Option.any_eq_true _ _).1 hrun
  simp only [Bool.and_eq_true, decide_eq_true_eq] at hrun
  obtain ⟨⟨⟨hnew, hb⟩, -⟩, -⟩ := hrun
  have hreach : (localSystem "replica-b").Reachable System.Any s :=
    (System.Reachable.of_exec (localSystem_init 0) h₀).path (System.exec_eq_some_iff.1 hs)
  exact ⟨s, _, rfl, new_owner_waits_iff hreach hnew hb rfl "replica-a" []⟩

end ExternalPodAutoscaler.Membership
