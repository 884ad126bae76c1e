/-
The life of a replica's process (`main.rs`, `health/server.rs`).

`main` registers the lease of its replica, lists the leases for the first time and spawns its
components, the renewal loop among them.  A SIGTERM marks the replica as draining and lets it
serve for the drain duration; then, as on a SIGINT, the renewal loop is aborted and the lease is
deleted.  An aborted task never hears of its request again, and a request whose answer has not
come in time is given up; either may still take effect.

The lease itself is that of `leaseSystem`, which every step of the process is a step of or leaves
alone (`leaseSystem_of_lifecycle`).  The main results of this file are `gone_for_good`: when the
deletion takes effect the lease is gone for good, unless a request to write it is in flight, and
then it may be left behind as that request wrote it; and `drains_until_deleted`: from the mark to
the deletion the lease is there and draining.
-/
import ExternalPodAutoscaler.Lib.Cells
import ExternalPodAutoscaler.Lib.Transition
import ExternalPodAutoscaler.Membership.LeaseWrites

namespace ExternalPodAutoscaler.Membership

open Lib

/-! ### Readiness -/

/-- Startup conditions that must hold before the replica reports ready. -/
structure Readiness where
  tlsLoaded : Bool
  leaseRegistered : Bool
  membershipPopulated : Bool
deriving DecidableEq

namespace Readiness

def default : Readiness := ⟨false, false, false⟩

def markTlsLoaded (r : Readiness) : Readiness := { r with tlsLoaded := true }

def markLeaseRegistered (r : Readiness) : Readiness := { r with leaseRegistered := true }

def markMembershipPopulated (r : Readiness) : Readiness := { r with membershipPopulated := true }

end Readiness

/-! ### The process -/

/-- Where `main` is. -/
inductive MainStage where
  /-- Before it registers the lease. -/
  | starting
  /-- It awaits the first `register_and_renew`. -/
  | registering (call : ℕ)
  /-- It awaits the first `update_active_replicas` and spawns its components. -/
  | discovering
  /-- It waits for a component to end or for a signal. -/
  | running
  /-- It awaits `mark_draining`. -/
  | marking (call : ℕ)
  /-- It sleeps for the drain duration. -/
  | draining
  /-- It has aborted the membership task and awaits its end. -/
  | stopping
  /-- It awaits `delete_lease`. -/
  | deleting (call : ℕ)
  | exited
deriving DecidableEq

/-- Where the renewal loop of the membership task is. -/
inductive RenewalTask where
  /-- Not spawned yet, or over. -/
  | off
  /-- It waits for its next tick. -/
  | idle
  /-- It awaits `register_and_renew`. -/
  | renewing (call : ℕ)
deriving DecidableEq

/-- The call that `main` awaits. -/
def MainStage.awaits : MainStage → Option ℕ
  | .registering i | .marking i | .deleting i => some i
  | _ => none

/-- The components have been spawned. -/
def MainStage.spawned : MainStage → Bool
  | .running | .marking _ | .draining | .stopping | .deleting _ => true
  | _ => false

/-- The call that the renewal loop awaits. -/
def RenewalTask.awaits : RenewalTask → Option ℕ
  | .renewing i => some i
  | _ => none

/-- A process and the lease it writes. -/
structure Lifecycle where
  world : LeaseWorld
  stage : MainStage
  renewalTask : RenewalTask
  readiness : Readiness
deriving DecidableEq

/-- What can happen next. -/
inductive LifecycleEvent where
  /-- `main` starts to register the lease at time `now`. -/
  | register (now : ℤ)
  /-- The first `update_active_replicas` has succeeded; the components are spawned. -/
  | populated
  /-- `main` returns because its setup fails or a component has ended. -/
  | quit
  /-- The webhook server has loaded its certificate. -/
  | tlsLoaded
  /-- A tick of the renewal loop. -/
  | tick (now : ℤ)
  /-- The membership task ends by itself: its watcher has stopped, or it panics. -/
  | taskEnds
  | sigterm (now : ℤ)
  | sigint
  /-- The drain duration is over, or a second signal arrives. -/
  | drainOver
  /-- The aborted membership task has ended. -/
  | stopped
  /-- The request of the call takes effect. -/
  | effect (i : ℕ)
  /-- The one who awaits the call receives the answer to its request. -/
  | answer (i : ℕ)
  /-- The one who awaits the call receives an error; its request takes no effect any more. -/
  | fail (i : ℕ)
  /-- The one who awaits the call receives an error, and the request is still on its way. -/
  | giveUp (i : ℕ)

namespace Lifecycle

/-- The process at the start of `main`. -/
def start (lease : Option Lease) : Lifecycle :=
  ⟨⟨lease, false, []⟩, .starting, .off, .default⟩

/-- `main` or the renewal loop awaits the call. -/
def Awaits (p : Lifecycle) (i : ℕ) : Prop :=
  p.stage.awaits = some i ∨ p.renewalTask.awaits = some i

instance (p : Lifecycle) (i : ℕ) : Decidable (p.Awaits i) :=
  inferInstanceAs (Decidable (_ ∨ _))

/-- `main` returns, and the tasks end with it. -/
def exit (p : Lifecycle) : Lifecycle := { p with stage := .exited, renewalTask := .off }

/-- The call has returned to the one who awaits it. -/
def returned (p : Lifecycle) (i : ℕ) (success : Bool) : Lifecycle :=
  if p.renewalTask = .renewing i then { p with renewalTask := .idle }
  else
    match p.stage with
    | .registering _ =>
      if success then
        { p with stage := .discovering, readiness := p.readiness.markLeaseRegistered }
      else p.exit
    -- an error of the mark or of the deletion is only logged
    | .marking _ => { p with stage := .draining }
    | .deleting _ => p.exit
    | _ => p

/-- The one who awaits the call goes on if the call has returned. -/
def heard (p : Lifecycle) (i : ℕ) : Lifecycle :=
  match p.world.calls[i]? with
  | some ⟨_, .finished success⟩ => p.returned i success
  | _ => p

end Lifecycle

/-- The life of the process of replica `me`, from any stored lease. -/
def lifecycle (me : Identity) : System Lifecycle LifecycleEvent where
  init p := ∃ lease, p = .start lease
  step p
    | .register now =>
      if p.stage = .starting then
        some { p with
          stage := .registering p.world.calls.length
          world := registerAndRenew me now .renewal p.world }
      else none
    | .populated =>
      if p.stage = .discovering then
        some { p with
          stage := .running
          renewalTask := .idle
          readiness := p.readiness.markMembershipPopulated }
      else none
    | .quit =>
      if p.stage = .starting ∨ p.stage = .discovering ∨ p.stage = .running then some p.exit
      else none
    | .tlsLoaded =>
      if p.stage.spawned then some { p with readiness := p.readiness.markTlsLoaded } else none
    -- until it has ended, an aborted loop may still go on
    | .tick now =>
      if p.renewalTask = .idle then
        some { p with
          renewalTask := .renewing p.world.calls.length
          world := registerAndRenew me now .renewal p.world }
      else none
    | .taskEnds => if p.renewalTask ≠ .off then some { p with renewalTask := .off } else none
    | .sigterm now =>
      if p.stage = .running then
        some { p with
          stage := .marking p.world.calls.length
          world := markDraining me now p.world }
      else none
    | .sigint => if p.stage = .running then some { p with stage := .stopping } else none
    | .drainOver => if p.stage = .draining then some { p with stage := .stopping } else none
    | .stopped =>
      if p.stage = .stopping then
        some { p with
          stage := .deleting p.world.calls.length
          renewalTask := .off
          world := deleteLease p.world }
      else none
    | .effect i =>
      ((leaseSystem me).step p.world (.effect i)).map fun world => { p with world := world }
    | .answer i =>
      if p.Awaits i then
        ((leaseSystem me).step p.world (.answer i)).map fun world =>
          { p with world := world }.heard i
      else none
    | .fail i =>
      if p.Awaits i then
        ((leaseSystem me).step p.world (.fail i)).map fun world =>
          { p with world := world }.heard i
      else none
    | .giveUp i => if p.Awaits i then some (p.returned i false) else none

variable {me : Identity} {p p' q : Lifecycle} {e : LifecycleEvent} {i : ℕ}

namespace Lifecycle

@[simp] lemma returned_world (p : Lifecycle) (i : ℕ) (success : Bool) :
    (p.returned i success).world = p.world := by
  unfold returned
  repeat' split
  all_goals rfl

@[simp] lemma heard_world (p : Lifecycle) (i : ℕ) : (p.heard i).world = p.world := by
  unfold heard
  split
  · exact returned_world _ _ _
  · rfl

end Lifecycle

/-! ### The end of a process -/

namespace CallState

/-- The lease that the request on its way is going to write. -/
def inFlight : CallState → Option Lease
  | .creating l | .applying l => some l
  | _ => none

lemma inFlight_of_pending {st : CallState} (h : st.pending = none) : st.inFlight = none := by
  cases st <;> first | rfl | cases h

/-- A request that takes effect and writes no lease is a deletion. -/
lemma effect_of_inFlight {stored lease : Option Lease} {st st' : CallState}
    (hst : st.inFlight = none) (h : st.effect stored = some (lease, st')) :
    st = .deleting ∧ lease = none ∧ st' = .deleted := by
  cases st with
  | creating l | applying l => cases hst
  | deleting =>
      obtain ⟨rfl, rfl⟩ := Prod.mk.inj (Option.some.inj h)
      exact ⟨rfl, rfl, rfl⟩
  | _ => cases h

/-- A request on its way takes effect, and its lease is stored where there is none. -/
lemma effect_inFlight {st : CallState} {l : Lease} (h : st.inFlight = some l) :
    ∃ st', st.effect none = some (some l, st') := by
  cases st with
  | creating l' | applying l' =>
      obtain rfl := Option.some.inj h
      exact ⟨_, rfl⟩
  | _ => cases h

/-- A call that has nothing more to write returns with its answer. -/
lemma finished_of_next {st st' : CallState} (hp : st.pending = none)
    (h : st.answer = some st' ∨ st.fail = some st') : ∃ success, st' = .finished success := by
  rcases h with h | h
  · cases st with
    | created | applied | deleted => exact ⟨true, (Option.some.inj h).symm⟩
    | conflict l => cases hp
    | _ => cases h
  · cases st with
    | finished b => cases h
    | _ => exact ⟨false, (Option.some.inj h).symm⟩

lemma ne_deleting_of_next {st st' : CallState}
    (h : (∃ stored lease, st.effect stored = some (lease, st')) ∨ st.answer = some st' ∨
      st.fail = some st') : st' ≠ .deleting := by
  rintro rfl
  rcases h with ⟨stored, lease, h⟩ | h | h
  · cases st with
    | creating l => cases stored <;> simp [effect] at h
    | _ => simp [effect] at h
  · cases st <;> simp [answer] at h
  · cases st <;> simp [fail] at h

end CallState

namespace Lifecycle

/-- The renewal loop is over, and `main` awaits its deletion or has returned. -/
def Closing (p : Lifecycle) : Prop :=
  p.renewalTask = .off ∧ (p.stage = .exited ∨
    ∃ j c, p.stage = .deleting j ∧ p.world.calls[j]? = some c ∧ c.state.pending = none)

lemma returned_of_deleting {success : Bool} (hoff : p.renewalTask = .off)
    (hstage : p.stage = .deleting i) : p.returned i success = p.exit := by
  unfold returned
  rw [if_neg (by rw [hoff]; simp)]
  simp only [hstage]

lemma heard_of_finished {kind : CallKind} {success : Bool}
    (h : p.world.calls[i]? = some ⟨kind, .finished success⟩) :
    p.heard i = p.returned i success := by
  simp only [heard, h]

/-- Only the deletion is still awaited. -/
lemma Closing.of_awaits (hp : p.Closing) (h : p.Awaits i) :
    p.stage = .deleting i ∧ ∃ c, p.world.calls[i]? = some c ∧ c.state.pending = none := by
  obtain ⟨hoff, hexit | ⟨j, c, hj, hc, hpending⟩⟩ := hp
  · rcases h with h | h
    · rw [hexit] at h
      cases h
    · rw [hoff] at h
      cases h
  · rcases h with h | h
    · rw [hj] at h
      obtain rfl : j = i := Option.some.inj h
      exact ⟨hj, c, hc, hpending⟩
    · rw [hoff] at h
      cases h

lemma Closing.not_spawning (hp : p.Closing) :
    p.stage ≠ .starting ∧ p.stage ≠ .discovering ∧ p.stage ≠ .running ∧ p.stage ≠ .draining ∧
      p.stage ≠ .stopping := by
  obtain ⟨-, hexit | ⟨j, c, hj, -⟩⟩ := hp
  · simp [hexit]
  · simp [hj]

end Lifecycle

/-- **What a step does once `main` is closing.** A request takes effect, or the deletion returns
and `main` with it; otherwise the lease and the calls stay as they are. -/
lemma step_of_closing (hp : p.Closing) (h : (lifecycle me).step p e = some p') :
    (p'.world = p.world ∧ p'.renewalTask = .off ∧
      (p'.stage = p.stage ∨ p'.stage = .exited)) ∨
    (∃ i c lease state, p.world.calls[i]? = some c ∧
      c.state.effect p.world.lease = some (lease, state) ∧
      p' = { p with world := { p.world with
        lease := lease
        calls := p.world.calls.set i { c with state := state } } }) ∨
    ∃ i c success, p.world.calls[i]? = some c ∧ p'.renewalTask = .off ∧ p'.stage = .exited ∧
      p'.world = { p.world with
        calls := p.world.calls.set i { c with state := .finished success } } := by
  obtain ⟨hstarting, hdiscovering, hrunning, hdraining, hstopping⟩ := hp.not_spawning
  cases e with
  | register now => exact absurd (Option.ite_none_right_eq_some.1 h).1 hstarting
  | populated => exact absurd (Option.ite_none_right_eq_some.1 h).1 hdiscovering
  | quit => simp [lifecycle, hstarting, hdiscovering, hrunning] at h
  | sigterm now => exact absurd (Option.ite_none_right_eq_some.1 h).1 hrunning
  | sigint => exact absurd (Option.ite_none_right_eq_some.1 h).1 hrunning
  | drainOver => exact absurd (Option.ite_none_right_eq_some.1 h).1 hdraining
  | stopped => exact absurd (Option.ite_none_right_eq_some.1 h).1 hstopping
  | tick now => simp [lifecycle, hp.1] at h
  | taskEnds => simp [lifecycle, hp.1] at h
  | tlsLoaded =>
      obtain ⟨-, ⟨⟩⟩ := Option.ite_none_right_eq_some.1 h
      exact Or.inl ⟨rfl, hp.1, Or.inl rfl⟩
  | giveUp i =>
      obtain ⟨ha, ⟨⟩⟩ := Option.ite_none_right_eq_some.1 h
      rw [Lifecycle.returned_of_deleting hp.1 (hp.of_awaits ha).1]
      exact Or.inl ⟨rfl, rfl, Or.inr rfl⟩
  | effect i =>
      obtain ⟨w, hw, rfl⟩ := Option.map_eq_some_iff.1 h
      simp only [leaseSystem, Option.bind_eq_bind, Option.bind_eq_some_iff,
        Option.some.injEq] at hw
      obtain ⟨c, hc, ⟨lease, state⟩, he, rfl⟩ := hw
      exact Or.inr (Or.inl ⟨i, c, lease, state, hc, he, rfl⟩)
  | answer i | fail i =>
      obtain ⟨ha, h⟩ := Option.ite_none_right_eq_some.1 h
      obtain ⟨hstage, c₀, hc₀, hpending⟩ := hp.of_awaits ha
      obtain ⟨w, hw, rfl⟩ := Option.map_eq_some_iff.1 h
      simp only [leaseSystem, Option.bind_eq_bind, Option.bind_eq_some_iff,
        Option.some.injEq] at hw
      obtain ⟨c, hc, state, hstate, rfl⟩ := hw
      obtain rfl : c₀ = c := Option.some.inj (hc₀.symm.trans hc)
      obtain ⟨success, rfl⟩ : ∃ success, state = .finished success := by
        first
        | exact CallState.finished_of_next hpending (Or.inl hstate)
        | exact CallState.finished_of_next hpending (Or.inr hstate)
      rw [Lifecycle.heard_of_finished (getElem?_set_of_some hc _), Lifecycle.returned_of_deleting]
      · exact Or.inr (Or.inr ⟨i, c₀, success, hc, rfl, rfl, rfl⟩)
      · exact hp.1
      · exact hstage

lemma closing_step (hp : p.Closing) (h : (lifecycle me).step p e = some p') : p'.Closing := by
  rcases step_of_closing hp h with ⟨hw, hoff, hstage | hexit⟩ | ⟨i, c, lease, st, hc, he, rfl⟩ |
    ⟨-, -, -, -, hoff, hexit, -⟩
  · refine ⟨hoff, ?_⟩
    rw [hstage, hw]
    exact hp.2
  · exact ⟨hoff, Or.inl hexit⟩
  · obtain ⟨hoff, hexit | ⟨j, c', hj, hc', hpending⟩⟩ := hp
    · exact ⟨hoff, Or.inl hexit⟩
    · by_cases hij : i = j
      · subst hij
        obtain rfl : c = c' := Option.some.inj (hc.symm.trans hc')
        refine ⟨hoff, Or.inr ⟨i, _, hj, getElem?_set_of_some hc _, ?_⟩⟩
        rcases Option.eq_none_or_eq_some st.pending with hst | ⟨l, hl⟩
        · exact hst
        · rw [CallState.pending_of_next (Or.inl he) hl] at hpending
          cases hpending
      · refine ⟨hoff, Or.inr ⟨j, c', hj, ?_, hpending⟩⟩
        rw [← hc']
        exact List.getElem?_set_ne hij
  · exact ⟨hoff, Or.inl hexit⟩

/-- A step of the process leaves the lease and the calls alone or is a step of the lease
system, and the one that sends the deletion closes the process. -/
lemma world_step (h : (lifecycle me).step p e = some p') :
    p'.world = p.world ∨ ∃ le, (leaseSystem me).step p.world le = some p'.world ∧
      (∀ i, le = .effect i → e = .effect i) ∧ (le = .deleteLease → p'.Closing) := by
  cases e with
  | register now | tick now =>
      obtain ⟨-, ⟨⟩⟩ := Option.ite_none_right_eq_some.1 h
      exact Or.inr ⟨.renewal now, rfl, by rintro i ⟨⟩, by rintro ⟨⟩⟩
  | sigterm now =>
      obtain ⟨-, ⟨⟩⟩ := Option.ite_none_right_eq_some.1 h
      exact Or.inr ⟨.markDraining now, rfl, by rintro i ⟨⟩, by rintro ⟨⟩⟩
  | stopped =>
      obtain ⟨-, ⟨⟩⟩ := Option.ite_none_right_eq_some.1 h
      refine Or.inr ⟨.deleteLease, rfl, by rintro i ⟨⟩, fun _ => ?_⟩
      exact ⟨rfl, Or.inr ⟨_, ⟨.delete, .deleting⟩, rfl, List.getElem?_concat_length, rfl⟩⟩
  | populated | quit | tlsLoaded | taskEnds | sigint | drainOver =>
      obtain ⟨-, ⟨⟩⟩ := Option.ite_none_right_eq_some.1 h
      exact Or.inl rfl
  | giveUp i =>
      obtain ⟨-, ⟨⟩⟩ := Option.ite_none_right_eq_some.1 h
      exact Or.inl (p.returned_world i false)
  | effect i =>
      obtain ⟨w, hw, rfl⟩ := Option.map_eq_some_iff.1 h
      exact Or.inr ⟨_, hw, fun j hj => by cases hj; rfl, by rintro ⟨⟩⟩
  | answer i | fail i =>
      obtain ⟨-, h⟩ := Option.ite_none_right_eq_some.1 h
      obtain ⟨w, hw, rfl⟩ := Option.map_eq_some_iff.1 h
      rw [Lifecycle.heard_world]
      exact Or.inr ⟨_, hw, by rintro j ⟨⟩, by rintro ⟨⟩⟩

/-- The lease and the calls of a process are those of a run of the lease system. -/
lemma leaseSystem_of_lifecycle {ok : Lifecycle → LifecycleEvent → Prop}
    {okL : LeaseWorld → LeaseEvent → Prop}
    (hok : ∀ p e le, ok p e → (∀ i, le = .effect i → e = .effect i) → okL p.world le)
    (h : (lifecycle me).Reachable ok p) : (leaseSystem me).Reachable okL p.world := by
  obtain ⟨p₀, es, ⟨lease, rfl⟩, hpath⟩ := h
  have hsim : ∀ p e p' w, p.world = w → ok p e → (lifecycle me).step p e = some p' →
      ∃ fs w', (leaseSystem me).Path okL w fs w' ∧ p'.world = w' := by
    rintro p e p' w rfl he hs
    rcases world_step hs with heq | ⟨le, hle, heffect, -⟩
    · exact ⟨[], p.world, .nil _, heq⟩
    · exact ⟨[le], p'.world, .single (hok p e le he heffect) hle, rfl⟩
  obtain ⟨fs, w, hw, rfl⟩ := hpath.simulates hsim rfl
  exact ⟨_, fs, ⟨rfl, rfl⟩, hw⟩

/-- A deletion has been sent before, or is sent now. -/
lemma delete_mem_or {w w' : LeaseWorld} {le : LeaseEvent} {c : Call}
    (h : (leaseSystem me).step w le = some w') (hc : c ∈ w'.calls) (hkind : c.kind = .delete) :
    (∃ c ∈ w.calls, c.kind = .delete) ∨ le = .deleteLease := by
  cases le with
  | renewal now | markDraining now =>
      obtain rfl := Option.some.inj h
      rcases List.mem_append.1 hc with hc | hc
      · exact Or.inl ⟨c, hc, hkind⟩
      · obtain rfl := List.mem_singleton.1 hc
        cases hkind
  | deleteLease => exact Or.inr rfl
  | effect i | answer i | fail i =>
      simp only [leaseSystem, Option.bind_eq_bind, Option.bind_eq_some_iff,
        Option.some.injEq] at h
      obtain ⟨c₀, hc₀, x, -, rfl⟩ := h
      rcases List.mem_or_eq_of_mem_set hc with hc | rfl
      · exact Or.inl ⟨c, hc, hkind⟩
      · exact Or.inl ⟨c₀, List.mem_of_getElem? hc₀, hkind⟩

/-- Once a deletion has been sent, `main` is closing. -/
lemma closing_of_delete {ok : Lifecycle → LifecycleEvent → Prop}
    (h : (lifecycle me).Reachable ok p) (hc : ∃ c ∈ p.world.calls, c.kind = .delete) :
    p.Closing := by
  refine h.invariant (I := fun p => (∃ c ∈ p.world.calls, c.kind = .delete) → p.Closing)
    ?_ ?_ hc
  · rintro p ⟨lease, rfl⟩ ⟨c, hc, -⟩
    cases hc
  · rintro p e p' hI - hs ⟨c, hc, hkind⟩
    rcases world_step hs with heq | ⟨le, hle, -, hclosing⟩
    · exact closing_step (hI ⟨c, heq ▸ hc, hkind⟩) hs
    · rcases delete_mem_or hle hc hkind with hold | rfl
      · exact closing_step (hI hold) hs
      · exact hclosing rfl

/-- What is deleted was sent to be deleted, and a lease that has been written is there until a
deletion is sent. -/
structure Kept (w : LeaseWorld) : Prop where
  kind : ∀ c ∈ w.calls, c.state = .deleting → c.kind = .delete
  stored : (∀ c ∈ w.calls, c.kind ≠ .delete) → (∃ c ∈ w.calls, c.state.Wrote) → w.lease ≠ none

/-- A call that has only been sent has written nothing. -/
lemma Kept.send {w w' : LeaseWorld} {c₀ : Call} (hw : Kept w)
    (hcalls : w'.calls = w.calls ++ [c₀]) (hlease : w'.lease = w.lease)
    (hkind : c₀.state = .deleting → c₀.kind = .delete) (hwrote : ¬ c₀.state.Wrote) : Kept w' := by
  refine ⟨fun c hc hstate => ?_, ?_⟩
  · rw [hcalls] at hc
    rcases List.mem_append.1 hc with hc | hc
    · exact hw.kind c hc hstate
    · obtain rfl := List.mem_singleton.1 hc
      exact hkind hstate
  · rintro hnone ⟨c, hc, hst⟩
    rw [hcalls] at hnone hc
    rw [hlease]
    refine hw.stored (fun c hc => hnone c (List.mem_append_left _ hc)) ?_
    rcases List.mem_append.1 hc with hc | hc
    · exact ⟨c, hc, hst⟩
    · obtain rfl := List.mem_singleton.1 hc
      exact absurd hst hwrote

lemma kept_step {w w' : LeaseWorld} {le : LeaseEvent} (hw : Kept w)
    (h : (leaseSystem me).step w le = some w') : Kept w' := by
  rcases leaseSystem_step h with ⟨now, rfl⟩ | ⟨now, rfl⟩ | rfl | ⟨i, c, st, hc, hcalls, -, he⟩
  · exact hw.send rfl rfl (by rintro ⟨⟩) (CallState.not_wrote_of_pending rfl)
  · exact hw.send rfl rfl (by rintro ⟨⟩) (CallState.not_wrote_of_pending rfl)
  · refine hw.send rfl rfl (fun _ => rfl) ?_
    rintro (h | h | h | h) <;> cases h
  · have hmem := List.mem_of_getElem? hc
    refine ⟨fun c' hc' hstate => ?_, ?_⟩
    · rw [hcalls] at hc'
      rcases List.mem_or_eq_of_mem_set hc' with hc' | rfl
      · exact hw.kind c' hc' hstate
      · have hne : st ≠ .deleting :=
          CallState.ne_deleting_of_next (he.imp (fun he => ⟨_, _, he.2⟩) And.right)
        exact absurd hstate hne
    · rintro hnone ⟨c', hc', hwrote⟩
      rw [hcalls] at hnone hc'
      have hkinds : ∀ c ∈ w.calls, c.kind ≠ .delete := by
        intro c₀ hc₀ hkind
        obtain ⟨j, hj⟩ := List.getElem?_of_mem hc₀
        by_cases hij : i = j
        · subst hij
          obtain rfl := Option.some.inj (hc.symm.trans hj)
          exact hnone _ (List.mem_of_getElem? (getElem?_set_of_some hc _)) hkind
        · refine hnone c₀ (List.mem_of_getElem? (i := j) ?_) hkind
          rw [List.getElem?_set_ne hij, hj]
      rcases he with ⟨-, he⟩ | ⟨heq, ha⟩
      · rcases CallState.effect_cases he with ⟨l, -, h', heq⟩ | ⟨l, -, -, heq⟩ | ⟨hp, -, -⟩
        · rw [heq]
          refine hw.stored hkinds ?_
          rcases List.mem_or_eq_of_mem_set hc' with hc' | rfl
          · exact ⟨c', hc', hwrote⟩
          · exact absurd hwrote (CallState.not_wrote_of_pending h')
        · rw [heq]
          simp
        · have hdel := (CallState.effect_of_inFlight (CallState.inFlight_of_pending hp) he).1
          exact absurd (hw.kind c hmem hdel) (hkinds c hmem)
      · rw [heq]
        refine hw.stored hkinds ?_
        rcases List.mem_or_eq_of_mem_set hc' with hc' | rfl
        · exact ⟨c', hc', hwrote⟩
        · exact ⟨c, hmem, (CallState.answer_cases ha).2 hwrote⟩

lemma kept_of_reachable {ok : Lifecycle → LifecycleEvent → Prop}
    (h : (lifecycle me).Reachable ok p) : Kept p.world := by
  have hworld : (leaseSystem me).Reachable System.Any p.world :=
    leaseSystem_of_lifecycle (fun _ _ _ _ _ => trivial) h
  refine hworld.invariant ?_ fun _ _ _ hw _ hs => kept_step hw hs
  rintro w ⟨-, hcalls⟩
  refine ⟨?_, ?_⟩ <;> simp [hcalls]

/-- The lease is gone, and nothing on its way will write it. -/
structure Gone (p : Lifecycle) : Prop where
  closing : p.Closing
  lease : p.world.lease = none
  nothing : ∀ c ∈ p.world.calls, c.state.inFlight = none

lemma gone_step (hp : Gone p) (h : (lifecycle me).step p e = some p') : Gone p' := by
  refine ⟨closing_step hp.closing h, ?_, ?_⟩ <;>
    rcases step_of_closing hp.closing h with ⟨hw, -⟩ | ⟨i, c, lease, st, hc, he, rfl⟩ |
      ⟨i, c, success, -, -, -, hw⟩
  · rw [hw]
    exact hp.lease
  · exact (CallState.effect_of_inFlight (hp.nothing c (List.mem_of_getElem? hc)) he).2.1
  · rw [hw]
    exact hp.lease
  · rw [hw]
    exact hp.nothing
  · intro c' hc'
    rcases List.mem_or_eq_of_mem_set hc' with hc' | rfl
    · exact hp.nothing c' hc'
    · rw [(CallState.effect_of_inFlight (hp.nothing c (List.mem_of_getElem? hc)) he).2.2]
      rfl
  · intro c' hc'
    rw [hw] at hc'
    rcases List.mem_or_eq_of_mem_set hc' with hc' | rfl
    · exact hp.nothing c' hc'
    · rfl

variable (me) in
lemma step_effect_lifecycle {c : Call} {lease : Option Lease} {st : CallState}
    (hc : p.world.calls[i]? = some c) (he : c.state.effect p.world.lease = some (lease, st)) :
    (lifecycle me).step p (.effect i) = some { p with world := { p.world with
      lease := lease
      calls := p.world.calls.set i { c with state := st } } } := by
  show ((leaseSystem me).step p.world (.effect i)).map _ = _
  rw [step_effect me hc he]
  rfl

variable (me) in
/-- The deletion that `main` awaits is answered, and `main` returns. -/
lemma step_answer_lifecycle {kind : CallKind} (hp : p.Closing) (hstage : p.stage = .deleting i)
    (hc : p.world.calls[i]? = some ⟨kind, .deleted⟩) :
    (lifecycle me).step p (.answer i) = some { p with
      world := { p.world with calls := p.world.calls.set i ⟨kind, .finished true⟩ }
      stage := .exited
      renewalTask := .off } := by
  have hawaits : p.Awaits i := by
    left
    rw [hstage]
    rfl
  show (if p.Awaits i then ((leaseSystem me).step p.world (.answer i)).map _ else none) = _
  rw [if_pos hawaits, step_answer me hc rfl, Option.map_some,
    Lifecycle.heard_of_finished (getElem?_set_of_some hc _), Lifecycle.returned_of_deleting]
  · rfl
  · exact hp.1
  · exact hstage

/-- **When a deletion is final.** Let the deletion of the lease take effect.  If no request
to write the lease is on its way, of a renewal that was aborted or of a call that was given up,
the lease is gone in every state from then on.  If there is such a request, then `delete_lease`
may succeed, the process exit, and the lease be there as the request writes it. -/
theorem gone_for_good {c : Call} (hreach : (lifecycle me).Reachable System.Any p)
    (hc : p.world.calls[i]? = some c) (hstate : c.state = .deleting)
    (hs : (lifecycle me).step p (.effect i) = some p') :
    ((∀ c ∈ p.world.calls, c.state.inFlight = none) →
      ∀ es q, (lifecycle me).Path System.Any p' es q → q.world.lease = none) ∧
    (p.stage = .deleting i → ∀ r ∈ p.world.calls, ∀ l, r.state.inFlight = some l →
      ∃ es q, (lifecycle me).Path System.Any p' es q ∧ q.stage = .exited ∧
        q.world.calls[i]? = some ⟨c.kind, .finished true⟩ ∧ q.world.lease = some l) := by
  have hclosing := closing_of_delete hreach
    ⟨c, List.mem_of_getElem? hc, (kept_of_reachable hreach).kind c (List.mem_of_getElem? hc) hstate⟩
  obtain ⟨kind, st⟩ := c
  obtain rfl : st = .deleting := hstate
  obtain rfl := Option.some.inj ((step_effect_lifecycle me hc rfl).symm.trans hs)
  refine ⟨fun hnothing es q hpath => ?_, fun hstage r hr l hl => ?_⟩
  · have hgone : Gone { p with world := { p.world with
        lease := none
        calls := p.world.calls.set i ⟨kind, .deleted⟩ } } := by
      refine ⟨closing_step hclosing hs, rfl, fun c' hc' => ?_⟩
      rcases List.mem_or_eq_of_mem_set hc' with hc' | rfl
      · exact hnothing c' hc'
      · rfl
    exact (hpath.preserves (fun _ _ _ hp _ h => gone_step hp h) hgone).lease
  · obtain ⟨k, hk⟩ := List.getElem?_of_mem hr
    have hik : i ≠ k := by
      rintro rfl
      obtain rfl := Option.some.inj (hc.symm.trans hk)
      cases hl
    -- the deletion is answered, and then the request takes effect
    have hanswer := step_answer_lifecycle me (closing_step hclosing hs) hstage
      (getElem?_set_of_some hc _)
    obtain ⟨st', he⟩ := CallState.effect_inFlight hl
    have hwrite := step_effect_lifecycle me (i := k) (c := r)
      (p := ⟨⟨none, p.world.localDraining, (p.world.calls.set i ⟨kind, .deleted⟩).set i
        ⟨kind, .finished true⟩⟩, .exited, .off, p.readiness⟩)
      (by rw [List.getElem?_set_ne hik, List.getElem?_set_ne hik, hk]) he
    refine ⟨_, _, .cons trivial hanswer (.single trivial hwrite), rfl, ?_, rfl⟩
    rw [List.getElem?_set_ne (Ne.symm hik)]
    exact getElem?_set_of_some (getElem?_set_of_some hc _) _

/-- A process that is stopped while its renewal is on its way: the renewal has found the lease
of the registration, and applies its own. -/
def interrupted : Lifecycle :=
  { world :=
      { lease := some (renewedLease (deployed "replica-a") 0 false)
        localDraining := true
        calls := [⟨.renewal, .finished true⟩,
          ⟨.renewal, .applying (renewedLease (deployed "replica-a") (secs 10) false)⟩,
          ⟨.delete, .deleting⟩] }
    stage := .deleting 2
    renewalTask := .off
    readiness := ⟨false, true, true⟩ }

/-- The deletion has succeeded, the process has exited, and its lease is active. -/
theorem gone_for_good_interrupted :
    ∃ q, (lifecycle (deployed "replica-a")).Reachable System.Any q ∧ q.stage = .exited ∧
      q.world.calls[2]? = some ⟨.delete, .finished true⟩ ∧
      ∃ l, q.world.lease = some l ∧ l.isDraining = false := by
  have hreach : (lifecycle (deployed "replica-a")).Reachable System.Any interrupted :=
    ⟨.start none, [.register 0, .effect 0, .answer 0, .populated, .tick (secs 10), .effect 1,
      .answer 1, .sigint, .stopped], ⟨none, rfl⟩, System.exec_eq_some_iff.1 rfl⟩
  have hstep := step_effect_lifecycle (deployed "replica-a") (p := interrupted) (i := 2)
    (c := ⟨.delete, .deleting⟩) rfl rfl
  obtain ⟨es, q, hpath, hexit, hdone, hlease⟩ := (gone_for_good hreach (i := 2) rfl rfl hstep).2
    rfl ⟨.renewal, .applying (renewedLease (deployed "replica-a") (secs 10) false)⟩ (by
      simp [interrupted]) _ rfl
  exact ⟨q, (hreach.step trivial hstep).path hpath, hexit, hdone, _, hlease, by simp⟩

/-! ### While the replica drains -/

/-- No renewal with a stale flag is pending when a mark or a deletion takes effect. -/
def NoneStaleAtEffect (p : Lifecycle) (e : LifecycleEvent) : Prop :=
  ∀ i, e = .effect i → NoneStaleAtSeal p.world (.effect i)

/-- **The lease of a draining replica.** In every run in which no renewal that has read the flag
unset is pending whenever a mark or a deletion takes effect: while `main` sleeps for the drain
duration and until it deletes the lease, the lease is there and draining if the mark has
succeeded. -/
theorem drains_until_deleted (h : (lifecycle me).Reachable NoneStaleAtEffect p)
    (hmark : ∃ c ∈ p.world.calls, c.kind = .mark ∧ c.state = .finished true)
    (hstage : p.stage = .draining ∨ p.stage = .stopping) :
    ∃ l, p.world.lease = some l ∧ l.isDraining = true := by
  obtain ⟨c, hc, hkind, hfinished⟩ := hmark
  have hnone : ∀ c ∈ p.world.calls, c.kind ≠ .delete := by
    intro c hc hkind
    obtain ⟨-, -, -, hdraining, hstopping⟩ := (closing_of_delete h ⟨c, hc, hkind⟩).not_spawning
    exact hstage.elim hdraining hstopping
  have hworld : (leaseSystem me).Reachable NoneStaleAtSeal p.world := by
    refine leaseSystem_of_lifecycle (fun p e le hok heffect => ?_) h
    rintro ⟨i, c, lease, st, rfl, hseal⟩
    exact hok i (heffect i rfl) ⟨i, c, lease, st, rfl, hseal⟩
  obtain ⟨l, hl⟩ := Option.ne_none_iff_exists'.1 ((kept_of_reachable h).stored hnone
    ⟨c, hc, Or.inr (Or.inr (Or.inr hfinished))⟩)
  refine ⟨l, hl, absentOrDraining_of_reachable hworld ⟨c, hc, ?_, hfinished⟩ l hl⟩
  rw [hkind]
  simp

/-- A replica that has registered its lease receives a SIGTERM and is marked. -/
theorem drains_until_deleted_marked :
    ∃ p, (lifecycle (deployed "replica-a")).Reachable NoneStaleAtEffect p ∧
      p.stage = .draining ∧ ∃ l, p.world.lease = some l ∧ l.isDraining = true := by
  -- the registration has returned, and the mark carries the flag
  have hfresh : ∀ st : CallState,
      st.pending = some (renewedLease (deployed "replica-a") 0 true) →
      ∀ c ∈ [(⟨.renewal, .finished true⟩ : Call), ⟨.mark, st⟩], ¬ c.Stale := by
    rintro st hst c hc ⟨l, hl, hd⟩
    rcases List.mem_cons.1 hc with rfl | hc
    · cases hl
    · obtain rfl := List.mem_singleton.1 hc
      obtain rfl := Option.some.inj (hst.symm.trans hl)
      simp at hd
  obtain ⟨p, hp, hstage, hmark⟩ : ∃ p, (lifecycle (deployed "replica-a")).Reachable
      NoneStaleAtEffect p ∧ p.stage = .draining ∧
      ∃ c ∈ p.world.calls, c.kind = .mark ∧ c.state = .finished true := by
    refine ⟨_, ⟨.start none, [.register 0, .effect 0, .answer 0, .populated, .sigterm 0, .effect 1,
      .answer 1, .effect 1, .answer 1], ⟨none, rfl⟩, .cons ?_ rfl (.cons ?_ rfl (.cons ?_ rfl
      (.cons ?_ rfl (.cons ?_ rfl (.cons ?_ rfl (.cons ?_ rfl (.cons ?_ rfl
      (.cons ?_ rfl (.nil _)))))))))⟩, rfl, ⟨.mark, .finished true⟩, ?_, rfl, rfl⟩
    · rintro i ⟨⟩
    -- the registration is no mark
    · rintro i ⟨⟩ ⟨i, c, lease, st, ⟨⟩, hc, hkind, -⟩
      obtain rfl := Option.some.inj hc
      exact absurd rfl hkind
    · rintro i ⟨⟩
    · rintro i ⟨⟩
    · rintro i ⟨⟩
    · rintro i ⟨⟩ - c hc
      exact hfresh _ rfl c hc
    · rintro i ⟨⟩
    · rintro i ⟨⟩ - c hc
      exact hfresh _ rfl c hc
    · rintro i ⟨⟩
    · exact List.mem_cons_of_mem _ List.mem_cons_self
  exact ⟨p, hp, hstage, drains_until_deleted hp hmark (Or.inl hstage)⟩

end ExternalPodAutoscaler.Membership
