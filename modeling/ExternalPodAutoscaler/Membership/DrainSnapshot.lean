/-
What readers of the replica sets see of a drain (`membership/manager.rs`).

The sets and the draining flag of a replica are behind one lock.  `update_active_replicas`
writes the sets and applies the flag to them; `mark_draining` and `delete_lease` write the
flag alone.  `setsSystem` runs the lock sections in any order, with updates that fail or never
come; a reader may take the lock in every state.

The main result of this file is `drain_snapshot_iff`: with the flag set, a reader sees the own
ID of the replica in the draining set and not in the active one exactly when the sets were
updated after the flag was set first, or were so already.  Between the two it does not
(`drain_seen_as_active`).
-/
import ExternalPodAutoscaler.Lib.Transition
import ExternalPodAutoscaler.Membership.Manager

namespace ExternalPodAutoscaler.Membership

open Lib

/-- A lock section of the manager, or an update that does not reach it. -/
inductive SetsEvent where
  /-- `update_active_replicas`, with the leases it has listed and the instant it has compared
  them with. -/
  | update (leases : List Lease) (readAt : ℤ)
  /-- The list of the leases fails. -/
  | updateFails
  | markDraining
  | deleteLease

/-- The lock sections of one process, in any order. -/
def setsSystem (me : String) : System ReplicaSets SetsEvent where
  init sets := sets = .new
  step sets
    | .update leases readAt => updateActiveReplicas me leases readAt sets
    | .updateFails => some sets
    | .markDraining => some (setDraining sets)
    | .deleteLease => some (setDraining sets)

/-- The event writes the sets. -/
def SetsEvent.IsUpdate : SetsEvent → Prop
  | .update _ _ => True
  | _ => False

/-- The replica is among the draining ones, and not among the active ones. -/
def SeesDrain (me : String) (sets : ReplicaSets) : Prop := me ∈ sets.draining ∧ me ∉ sets.active

section Runs

variable {me : String} {sets sets' : ReplicaSets} {e : SetsEvent} {events : List SetsEvent}
  {ok : ReplicaSets → SetsEvent → Prop}

/-- An update with the flag set leaves the replica draining. -/
lemma seesDrain_update {leases : List Lease} {readAt : ℤ} (hflag : sets.localDraining = true)
    (h : updateActiveReplicas me leases readAt sets = some sets') :
    SeesDrain me sets' ∧ sets'.localDraining = true := by
  obtain ⟨hactive, hdraining⟩ := mem_updateActiveReplicas h me
  refine ⟨⟨hdraining.2 (Or.inl ⟨rfl, hflag⟩), fun hmem => (hactive.1 hmem).1 ⟨rfl, hflag⟩⟩, ?_⟩
  obtain ⟨⟨active, draining⟩, -, rfl⟩ := Option.map_eq_some_iff.1 h
  simp [hflag]

/-- What a step does once the flag is set: an update puts the replica right, and nothing else
changes what is seen. -/
lemma seesDrain_step (hflag : sets.localDraining = true)
    (h : (setsSystem me).step sets e = some sets') :
    sets'.localDraining = true ∧ (SeesDrain me sets' ↔ SeesDrain me sets ∨ e.IsUpdate) := by
  cases e with
  | update leases readAt =>
      obtain ⟨hsees, hflag'⟩ := seesDrain_update hflag h
      exact ⟨hflag', iff_of_true hsees (Or.inr trivial)⟩
  | updateFails =>
      obtain rfl := Option.some.inj h
      exact ⟨hflag, (or_iff_left not_false).symm⟩
  | markDraining =>
      obtain rfl := Option.some.inj h
      exact ⟨rfl, (or_iff_left not_false).symm⟩
  | deleteLease =>
      obtain rfl := Option.some.inj h
      exact ⟨rfl, (or_iff_left not_false).symm⟩

/-- What is seen at the end of a run in which the flag is set all along. -/
lemma seesDrain_path (h : (setsSystem me).Path ok sets events sets')
    (hflag : sets.localDraining = true) :
    SeesDrain me sets' ↔ SeesDrain me sets ∨ ∃ e ∈ events, e.IsUpdate := by
  induction h with
  | nil => simp
  | cons _ hs _ ih =>
      obtain ⟨hflag', hstep⟩ := seesDrain_step hflag hs
      rw [ih hflag', hstep, or_assoc, List.exists_mem_cons_iff]

/-- The step that sets the flag leaves the sets alone. -/
lemma seesDrain_of_flag_set (hflag : sets.localDraining = false)
    (hflag' : sets'.localDraining = true) (h : (setsSystem me).step sets e = some sets') :
    (e = .markDraining ∨ e = .deleteLease) ∧ (SeesDrain me sets' ↔ SeesDrain me sets) := by
  cases e with
  | update leases readAt =>
      obtain ⟨⟨active, draining⟩, -, rfl⟩ := Option.map_eq_some_iff.1 h
      simp [hflag] at hflag'
  | updateFails =>
      obtain rfl := Option.some.inj h
      rw [hflag] at hflag'
      cases hflag'
  | markDraining =>
      obtain rfl := Option.some.inj h
      exact ⟨Or.inl rfl, Iff.rfl⟩
  | deleteLease =>
      obtain rfl := Option.some.inj h
      exact ⟨Or.inr rfl, Iff.rfl⟩

/-- A run to a state with the flag has a step that sets it first. -/
lemma exists_flag_set (h : (setsSystem me).Path ok sets events sets')
    (hflag : sets.localDraining = false) (hflag' : sets'.localDraining = true) :
    ∃ before e after marked flagged, events = before ++ e :: after ∧
      (setsSystem me).Path ok sets before marked ∧ marked.localDraining = false ∧
      (setsSystem me).step marked e = some flagged ∧ flagged.localDraining = true ∧
      (setsSystem me).Path ok flagged after sets' := by
  induction h with
  | nil =>
      rw [hflag] at hflag'
      cases hflag'
  | @cons sets sets₁ sets' e events hok hs hp ih =>
      rcases hnext : sets₁.localDraining with _ | _
      · obtain ⟨before, e', after, marked, flagged, rfl, hbefore, hmarked⟩ := ih hnext hflag'
        exact ⟨e :: before, e', after, marked, flagged, rfl, .cons hok hs hbefore, hmarked⟩
      · exact ⟨[], e, events, sets, sets₁, rfl, .nil _, hflag, hs, hnext, hp⟩

/-- **When a reader sees the drain.** In every run to a state with the flag set, the flag was
set by a `mark_draining` or a `delete_lease` in a state without it, and a reader sees the
replica as draining and not as active exactly when the sets have been updated since, or were
so in that state. -/
theorem drain_snapshot_iff (hrun : (setsSystem me).Path System.Any .new events sets)
    (hflag : sets.localDraining = true) :
    ∃ before e after marked, events = before ++ e :: after ∧
      (setsSystem me).Path System.Any .new before marked ∧ marked.localDraining = false ∧
      (e = .markDraining ∨ e = .deleteLease) ∧
      (SeesDrain me sets ↔ SeesDrain me marked ∨ ∃ e' ∈ after, e'.IsUpdate) := by
  obtain ⟨before, e, after, marked, flagged, rfl, hbefore, hmarked, hs, hflagged, hafter⟩ :=
    exists_flag_set hrun rfl hflag
  obtain ⟨hsets, hsame⟩ := seesDrain_of_flag_set hmarked hflagged hs
  exact ⟨before, e, after, marked, rfl, hbefore, hmarked, hsets,
    by rw [seesDrain_path hafter hflagged, hsame]⟩

end Runs

/-! ### Before the next update -/

/-- The replica renews its lease, finds it, and is marked draining. -/
def markedActive : List SetsEvent :=
  [.update [renewedLease (deployed "replica-a") 0 false] (secs 1), .markDraining, .updateFails]

/-- The sets after these events. -/
def setsMarkedActive : ReplicaSets :=
  ((setsSystem "replica-a").exec .new markedActive).get (by decide +kernel)

lemma markedActive_run :
    (setsSystem "replica-a").Path System.Any .new markedActive setsMarkedActive :=
  System.exec_eq_some_iff.1 (Option.some_get _).symm

/-- **A drain that is seen as active.** The flag is set, and until the sets are updated the
replica is among the active ones. -/
theorem drain_seen_as_active :
    (setsSystem "replica-a").Path System.Any .new markedActive setsMarkedActive ∧
    setsMarkedActive.localDraining = true ∧ ¬ SeesDrain "replica-a" setsMarkedActive ∧
    "replica-a" ∈ setsMarkedActive.active :=
  ⟨markedActive_run, by decide +kernel, fun h => absurd h.1 (by decide +kernel),
    by decide +kernel⟩

theorem drain_snapshot_iff_marked_active :
    ∃ before e after marked, markedActive = before ++ e :: after ∧
      (setsSystem "replica-a").Path System.Any .new before marked ∧
      marked.localDraining = false ∧ (e = .markDraining ∨ e = .deleteLease) ∧
      (SeesDrain "replica-a" setsMarkedActive ↔
        SeesDrain "replica-a" marked ∨ ∃ e' ∈ after, e'.IsUpdate) :=
  drain_snapshot_iff markedActive_run (by decide +kernel)

end ExternalPodAutoscaler.Membership
