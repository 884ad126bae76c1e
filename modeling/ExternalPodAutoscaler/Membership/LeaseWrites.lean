/-
The writes of one replica to its lease (`register_and_renew`, `mark_draining` and
`delete_lease` of `membership/manager.rs`).

The renewal loop, `mark_draining` and `delete_lease` run concurrently.  A call reads or
sets the draining flag under the lock and sends its first request after the lock is
released; a request takes effect at the API at some moment before it is answered, if it is
answered at all (a call that is cancelled never hears of its request again).

The main result of this file is `draining_is_kept_unless_stale`: once `mark_draining` or
`delete_lease` has completed, the lease stays absent or draining, in every run in which no
renewal that has read the flag unset is still to be written when the mark or the deletion
takes effect; and wherever such a renewal is pending, the run can go on to a state in which
the call has completed and the lease is active again.  `stale_renewal_readmits` is such a
run.
-/
import ExternalPodAutoscaler.Lib.Cells
import ExternalPodAutoscaler.Lib.Transition
import ExternalPodAutoscaler.Membership.Manager

namespace ExternalPodAutoscaler.Membership

open Lib

/-- Who made a call: the renewal loop, `mark_draining` or `delete_lease`. -/
inductive CallKind where
  | renewal
  | mark
  | delete
deriving DecidableEq

/-- How far a call has come. -/
inductive CallState where
  /-- The create request is sent. -/
  | creating (lease : Lease)
  /-- It has created the lease. -/
  | created
  /-- It has found a lease, and will be answered with 409. -/
  | conflict (lease : Lease)
  /-- The server-side apply is sent. -/
  | applying (lease : Lease)
  | applied
  /-- The delete request is sent. -/
  | deleting
  /-- It has taken effect; a missing lease is a success as well. -/
  | deleted
  /-- The call has returned. -/
  | finished (success : Bool)
deriving DecidableEq

/-- A call in progress or finished. -/
structure Call where
  kind : CallKind
  state : CallState
deriving DecidableEq

/-- The stored lease of a replica, its draining flag, and the calls made so far. -/
structure LeaseWorld where
  lease : Option Lease
  localDraining : Bool
  calls : List Call
deriving DecidableEq

/-- What can happen next. -/
inductive LeaseEvent where
  /-- A tick of the renewal loop at time `now`. -/
  | renewal (now : ℤ)
  | markDraining (now : ℤ)
  | deleteLease
  /-- The request of the call takes effect. -/
  | effect (i : ℕ)
  /-- The call receives the answer to its request. -/
  | answer (i : ℕ)
  /-- The call receives an error and returns it. -/
  | fail (i : ℕ)

/-- The start of `register_and_renew`: the flag is read and the create request is sent. -/
def registerAndRenew (me : Identity) (now : ℤ) (kind : CallKind) (s : LeaseWorld) : LeaseWorld :=
  { s with calls := s.calls ++ [⟨kind, .creating (renewedLease me now s.localDraining)⟩] }

/-- The start of `mark_draining`: the flag is set, then the lease is renewed. -/
def markDraining (me : Identity) (now : ℤ) (s : LeaseWorld) : LeaseWorld :=
  registerAndRenew me now .mark { s with localDraining := true }

/-- The start of `delete_lease`: the flag is set, then the delete request is sent. -/
def deleteLease (s : LeaseWorld) : LeaseWorld :=
  { s with localDraining := true, calls := s.calls ++ [⟨.delete, .deleting⟩] }

/-- The effect of a request on the stored lease, and the state it puts its call in. -/
def CallState.effect (stored : Option Lease) : CallState → Option (Option Lease × CallState)
  | .creating lease =>
    match stored with
    | none => some (some lease, .created)
    | some l => some (some l, .conflict lease)
  -- the manager owns every field it has set, so an apply replaces the lease
  | .applying lease => some (some lease, .applied)
  | .deleting => some (none, .deleted)
  | _ => none

/-- What a call does with the answer to its request. -/
def CallState.answer : CallState → Option CallState
  | .created | .applied | .deleted => some (.finished true)
  | .conflict lease => some (.applying lease)
  | _ => none

/-- An error ends a call that has not returned. -/
def CallState.fail : CallState → Option CallState
  | .finished _ => none
  | _ => some (.finished false)

/-- The lease writes of replica `me`, from any stored lease. -/
def leaseSystem (me : Identity) : System LeaseWorld LeaseEvent where
  init s := s.localDraining = false ∧ s.calls = []
  step s
    | .renewal now => some (registerAndRenew me now .renewal s)
    | .markDraining now => some (markDraining me now s)
    | .deleteLease => some (deleteLease s)
    | .effect i => do
      let c ← s.calls[i]?
      let (lease, state) ← c.state.effect s.lease
      some { s with lease := lease, calls := s.calls.set i { c with state := state } }
    | .answer i => do
      let c ← s.calls[i]?
      let state ← c.state.answer
      some { s with calls := s.calls.set i { c with state := state } }
    | .fail i => do
      let c ← s.calls[i]?
      let state ← c.state.fail
      some { s with calls := s.calls.set i { c with state := state } }

/-! ### The property and its condition -/

/-- The call is `mark_draining` or `delete_lease` and has completed successfully. -/
def Call.Completed (c : Call) : Prop := c.kind ≠ .renewal ∧ c.state = .finished true

/-- The stored lease is absent or carries `draining=true`. -/
def AbsentOrDraining (s : LeaseWorld) : Prop := ∀ l, s.lease = some l → l.isDraining = true

/-- The lease a call is still going to write. -/
def CallState.pending : CallState → Option Lease
  | .creating l | .conflict l | .applying l => some l
  | _ => none

/-- The call is going to write a lease built before the flag was set. -/
def Call.Stale (c : Call) : Prop := ∃ l, c.state.pending = some l ∧ l.isDraining = false

/-- The event is the moment at which the write of a `mark_draining` or of a `delete_lease`
takes effect. -/
def Seals (s : LeaseWorld) (e : LeaseEvent) : Prop :=
  ∃ i c lease state, e = .effect i ∧ s.calls[i]? = some c ∧ c.kind ≠ .renewal ∧
    c.state.effect s.lease = some (lease, state) ∧ state.pending = none

/-- No renewal with a stale flag is pending when a mark or a deletion takes effect. -/
def NoneStaleAtSeal (s : LeaseWorld) (e : LeaseEvent) : Prop :=
  Seals s e → ∀ c ∈ s.calls, ¬ c.Stale

variable {me : Identity} {s s' : LeaseWorld} {e : LeaseEvent}

/-! ### What a step can do -/

/-- **What a step does.** It appends a call, or it moves one call on; only an effect changes
the stored lease. -/
lemma leaseSystem_step (h : (leaseSystem me).step s e = some s') :
    (∃ now, s' = registerAndRenew me now .renewal s) ∨ (∃ now, s' = markDraining me now s) ∨
    s' = deleteLease s ∨
    ∃ i c state, s.calls[i]? = some c ∧ s'.calls = s.calls.set i { c with state := state } ∧
      s'.localDraining = s.localDraining ∧
      ((e = .effect i ∧ c.state.effect s.lease = some (s'.lease, state)) ∨
        (s'.lease = s.lease ∧ (c.state.answer = some state ∨ c.state.fail = some state))) := by
  cases e with
  | renewal now => exact Or.inl ⟨now, (Option.some.inj h).symm⟩
  | markDraining now => exact Or.inr (Or.inl ⟨now, (Option.some.inj h).symm⟩)
  | deleteLease => exact Or.inr (Or.inr (Or.inl (Option.some.inj h).symm))
  | effect i =>
      simp only [leaseSystem, Option.bind_eq_bind, Option.bind_eq_some_iff,
        Option.some.injEq] at h
      obtain ⟨c, hc, ⟨lease, state⟩, he, rfl⟩ := h
      exact Or.inr (Or.inr (Or.inr ⟨i, c, state, hc, rfl, rfl, Or.inl ⟨rfl, he⟩⟩))
  | answer i =>
      simp only [leaseSystem, Option.bind_eq_bind, Option.bind_eq_some_iff,
        Option.some.injEq] at h
      obtain ⟨c, hc, state, ha, rfl⟩ := h
      exact Or.inr (Or.inr (Or.inr ⟨i, c, state, hc, rfl, rfl, Or.inr ⟨rfl, Or.inl ha⟩⟩))
  | fail i =>
      simp only [leaseSystem, Option.bind_eq_bind, Option.bind_eq_some_iff,
        Option.some.injEq] at h
      obtain ⟨c, hc, state, hf, rfl⟩ := h
      exact Or.inr (Or.inr (Or.inr ⟨i, c, state, hc, rfl, rfl, Or.inr ⟨rfl, Or.inr hf⟩⟩))

namespace CallState

/-- A request either writes its lease, or deletes the lease, or meets a conflict and leaves
its write pending. -/
lemma effect_cases {stored lease : Option Lease} {st st' : CallState}
    (h : st.effect stored = some (lease, st')) :
    (∃ l, st.pending = some l ∧ st'.pending = some l ∧ lease = stored) ∨
    (∃ l, st.pending = some l ∧ st'.pending = none ∧ lease = some l) ∨
    (st.pending = none ∧ st'.pending = none ∧ lease = none) := by
  cases st with
  | creating l =>
      cases stored with
      | none =>
          obtain ⟨rfl, rfl⟩ := Prod.mk.inj (Option.some.inj h)
          exact Or.inr (Or.inl ⟨l, rfl, rfl, rfl⟩)
      | some l' =>
          obtain ⟨rfl, rfl⟩ := Prod.mk.inj (Option.some.inj h)
          exact Or.inl ⟨l, rfl, rfl, rfl⟩
  | applying l =>
      obtain ⟨rfl, rfl⟩ := Prod.mk.inj (Option.some.inj h)
      exact Or.inr (Or.inl ⟨l, rfl, rfl, rfl⟩)
  | deleting =>
      obtain ⟨rfl, rfl⟩ := Prod.mk.inj (Option.some.inj h)
      exact Or.inr (Or.inr ⟨rfl, rfl, rfl⟩)
  | _ => cases h

/-- The write of the call has taken effect, as far as the call has not failed since. -/
def Wrote (st : CallState) : Prop :=
  st = .created ∨ st = .applied ∨ st = .deleted ∨ st = .finished true

lemma not_wrote_of_pending {st : CallState} {l : Lease} (h : st.pending = some l) :
    ¬ st.Wrote := by
  rintro (rfl | rfl | rfl | rfl) <;> cases h

/-- An answer or an error takes a call on without a new write, and never makes it forget a
pending one it will still make. -/
lemma answer_cases {st st' : CallState}
    (h : st.answer = some st' ∨ st.fail = some st') :
    (∀ l, st'.pending = some l → st.pending = some l) ∧ (st'.Wrote → st.Wrote) := by
  rcases h with h | h
  · cases st with
    | created | applied | deleted =>
        obtain rfl := Option.some.inj h
        refine ⟨?_, fun _ => by simp [Wrote]⟩
        rintro l ⟨⟩
    | conflict l =>
        obtain rfl := Option.some.inj h
        exact ⟨fun l hl => hl, fun hw => absurd hw (not_wrote_of_pending rfl)⟩
    | _ => cases h
  · have hst' : st' = .finished false := by
      cases st <;> first | exact (Option.some.inj h).symm | cases h
    subst hst'
    refine ⟨?_, ?_⟩
    · rintro l ⟨⟩
    · rintro (h | h | h | h) <;> cases h

/-- A call that goes on writes what it was going to write before. -/
lemma pending_of_next {stored lease : Option Lease} {st st' : CallState} {l : Lease}
    (h : st.effect stored = some (lease, st') ∨ st.answer = some st' ∨ st.fail = some st')
    (hl : st'.pending = some l) : st.pending = some l := by
  rcases h with he | ha
  · rcases effect_cases he with ⟨l', h, h', -⟩ | ⟨l', -, h', -⟩ | ⟨-, h', -⟩
    · rw [h, ← h', hl]
    · rw [h'] at hl
      cases hl
    · rw [h'] at hl
      cases hl
  · exact (answer_cases ha).1 l hl

end CallState

/-! ### The invariants -/

/-- The calls other than renewals are never stale, and the flag is set once there is one. -/
structure FlagSet (s : LeaseWorld) : Prop where
  notStale : ∀ c ∈ s.calls, c.kind ≠ .renewal → ¬ c.Stale
  flag : ∀ c ∈ s.calls, c.kind ≠ .renewal → s.localDraining = true

/-- Once a mark or a deletion has been written, no call is stale and the lease is absent or
draining. -/
def Sealed (s : LeaseWorld) : Prop :=
  (∃ c ∈ s.calls, c.kind ≠ .renewal ∧ c.state.Wrote) →
    (∀ c ∈ s.calls, ¬ c.Stale) ∧ AbsentOrDraining s

lemma not_stale_new {now : ℤ} {kind : CallKind} :
    ¬ Call.Stale ⟨kind, .creating (renewedLease me now true)⟩ := by
  rintro ⟨l, hl, hd⟩
  obtain rfl : renewedLease me now true = l := Option.some.inj hl
  simp at hd

lemma flagSet_step (hI : FlagSet s) (hs : (leaseSystem me).step s e = some s') : FlagSet s' := by
  rcases leaseSystem_step hs with ⟨now, rfl⟩ | ⟨now, rfl⟩ | rfl | ⟨i, c, st, hc, hcalls, hflag, he⟩
  · refine ⟨fun c hc hk => ?_, fun c hc hk => ?_⟩
    all_goals
      rcases List.mem_append.1 hc with hc | hc
      · first
        | exact hI.notStale c hc hk
        | exact hI.flag c hc hk
      · obtain rfl := List.mem_singleton.1 hc
        exact absurd rfl hk
  · refine ⟨fun c hc hk => ?_, fun c hc hk => rfl⟩
    rcases List.mem_append.1 hc with hc | hc
    · exact hI.notStale c hc hk
    · obtain rfl := List.mem_singleton.1 hc
      exact not_stale_new
  · refine ⟨fun c hc hk => ?_, fun c hc hk => rfl⟩
    rcases List.mem_append.1 hc with hc | hc
    · exact hI.notStale c hc hk
    · obtain rfl := List.mem_singleton.1 hc
      rintro ⟨l, hl, -⟩
      cases hl
  · have hmem := List.mem_of_getElem? hc
    have hpending : ∀ l, st.pending = some l → c.state.pending = some l := fun l hl =>
      CallState.pending_of_next (he.imp And.right And.right) hl
    refine ⟨fun c' hc' hk => ?_, fun c' hc' hk => ?_⟩ <;> rw [hcalls] at hc' <;>
      rcases List.mem_or_eq_of_mem_set hc' with hc' | rfl
    · exact hI.notStale c' hc' hk
    · rintro ⟨l, hl, hd⟩
      exact hI.notStale c hmem hk ⟨l, hpending l hl, hd⟩
    · rw [hflag]
      exact hI.flag c' hc' hk
    · rw [hflag]
      exact hI.flag c hmem hk

/-- A call that has only been sent has not been written. -/
lemma Sealed.send {t : LeaseWorld} {c₀ : Call} (hI : Sealed s) (hcalls : t.calls = s.calls ++ [c₀])
    (hlease : t.lease = s.lease) (hwrote : ¬ c₀.state.Wrote)
    (hstale : (∃ c ∈ s.calls, c.kind ≠ .renewal ∧ c.state.Wrote) → ¬ c₀.Stale) : Sealed t := by
  rintro ⟨c, hc, hk, hw⟩
  rw [hcalls] at hc
  have hold : ∃ c ∈ s.calls, c.kind ≠ .renewal ∧ c.state.Wrote := by
    rcases List.mem_append.1 hc with hc | hc
    · exact ⟨c, hc, hk, hw⟩
    · obtain rfl := List.mem_singleton.1 hc
      exact absurd hw hwrote
  obtain ⟨hns, had⟩ := hI hold
  refine ⟨fun c' hc' => ?_, fun l hl => had l (hlease ▸ hl)⟩
  rw [hcalls] at hc'
  rcases List.mem_append.1 hc' with hc' | hc'
  · exact hns c' hc'
  · obtain rfl := List.mem_singleton.1 hc'
    exact hstale hold

/-- The condition keeps the lease sealed. -/
lemma sealed_step (hF : FlagSet s) (hI : Sealed s) (hok : NoneStaleAtSeal s e)
    (hs : (leaseSystem me).step s e = some s') : Sealed s' := by
  rcases leaseSystem_step hs with ⟨now, rfl⟩ | ⟨now, rfl⟩ | rfl | ⟨i, c, st, hc, hcalls, -, he⟩
  · refine hI.send rfl rfl (CallState.not_wrote_of_pending rfl) ?_
    rintro ⟨c, hc, hk, -⟩
    rw [hF.flag c hc hk]
    exact not_stale_new
  · exact hI.send rfl rfl (CallState.not_wrote_of_pending rfl) fun _ => not_stale_new
  · refine hI.send rfl rfl ?_ fun _ => ?_
    · rintro (h | h | h | h) <;> cases h
    · rintro ⟨l, hl, -⟩
      cases hl
  · have hmem := List.mem_of_getElem? hc
    rintro ⟨w, hw, hk, hwrote⟩
    rw [hcalls] at hw
    -- either something was written before, or this step is the first write
    have hns : ∀ c' ∈ s.calls, ¬ c'.Stale := by
      rcases List.mem_or_eq_of_mem_set hw with hw | rfl
      · exact (hI ⟨w, hw, hk, hwrote⟩).1
      · rcases he with ⟨rfl, he⟩ | ⟨-, ha⟩
        · refine hok ⟨i, c, s'.lease, st, rfl, hc, hk, he, ?_⟩
          by_contra hp
          obtain ⟨l, hl⟩ := Option.ne_none_iff_exists'.1 hp
          exact CallState.not_wrote_of_pending hl hwrote
        · exact (hI ⟨c, hmem, hk, (CallState.answer_cases ha).2 hwrote⟩).1
    refine ⟨fun c' hc' => ?_, ?_⟩
    · rw [hcalls] at hc'
      rcases List.mem_or_eq_of_mem_set hc' with hc' | rfl
      · exact hns c' hc'
      · rintro ⟨l, hl, hd⟩
        exact hns c hmem ⟨l, CallState.pending_of_next (he.imp And.right And.right) hl, hd⟩
    · intro l hl
      have hold : (∃ w ∈ s.calls, w.kind ≠ .renewal ∧ w.state.Wrote) → s'.lease = s.lease →
          l.isDraining = true := fun hw heq => (hI hw).2 l (heq ▸ hl)
      rcases he with ⟨-, he⟩ | ⟨heq, ha⟩
      · rcases CallState.effect_cases he with ⟨l', -, h', heq⟩ | ⟨l', h, -, heq⟩ | ⟨-, -, heq⟩
        · rcases List.mem_or_eq_of_mem_set hw with hw | rfl
          · exact hold ⟨w, hw, hk, hwrote⟩ heq
          · exact absurd hwrote (CallState.not_wrote_of_pending h')
        · obtain rfl : l' = l := Option.some.inj (heq.symm.trans hl)
          by_contra hd
          exact hns c hmem ⟨l', h, by simpa using hd⟩
        · exact absurd (heq.symm.trans hl) (by simp)
      · rcases List.mem_or_eq_of_mem_set hw with hw | rfl
        · exact hold ⟨w, hw, hk, hwrote⟩ heq
        · exact hold ⟨c, hmem, hk, (CallState.answer_cases ha).2 hwrote⟩ heq

lemma flagSet_of_reachable {ok : LeaseWorld → LeaseEvent → Prop}
    (h : (leaseSystem me).Reachable ok s) : FlagSet s := by
  refine h.invariant ?_ fun _ _ _ hI _ hs => flagSet_step hI hs
  rintro s ⟨-, hcalls⟩
  refine ⟨?_, ?_⟩ <;> simp [hcalls]

/-- In the runs that meet the condition the lease is absent or draining once a mark or a
deletion has completed. -/
lemma absentOrDraining_of_reachable (h : (leaseSystem me).Reachable NoneStaleAtSeal s)
    (hc : ∃ c ∈ s.calls, c.Completed) : AbsentOrDraining s := by
  have hsealed : Sealed s := by
    have hinv := h.invariant (I := fun s => FlagSet s ∧ Sealed s) ?_ ?_
    · exact hinv.2
    · rintro s ⟨-, hcalls⟩
      refine ⟨⟨?_, ?_⟩, ?_⟩ <;> simp [Sealed, hcalls]
    · rintro s e s' ⟨hF, hI⟩ hok hs
      exact ⟨flagSet_step hF hs, sealed_step hF hI hok hs⟩
  obtain ⟨c, hmem, hk, hfin⟩ := hc
  exact (hsealed ⟨c, hmem, hk, Or.inr (Or.inr (Or.inr hfin))⟩).2

/-! ### What a stale renewal does -/

variable (me) in
lemma step_effect {i : ℕ} {c : Call} {lease : Option Lease} {state : CallState}
    (hc : s.calls[i]? = some c) (he : c.state.effect s.lease = some (lease, state)) :
    (leaseSystem me).step s (.effect i) =
      some { s with lease := lease, calls := s.calls.set i { c with state := state } } := by
  simp [leaseSystem, hc, he]

variable (me) in
lemma step_answer {i : ℕ} {c : Call} {state : CallState} (hc : s.calls[i]? = some c)
    (ha : c.state.answer = some state) :
    (leaseSystem me).step s (.answer i) =
      some { s with calls := s.calls.set i { c with state := state } } := by
  simp [leaseSystem, hc, ha]

variable (me) in
/-- A pending write can be made, and nothing but its own call is touched. -/
lemma exists_path_write {j : ℕ} {c : Call} {l : Lease} (hc : s.calls[j]? = some c)
    (hl : c.state.pending = some l) :
    ∃ es s', (leaseSystem me).Path System.Any s es s' ∧ s'.lease = some l ∧
      ∀ i, i ≠ j → s'.calls[i]? = s.calls[i]? := by
  -- the apply, and what leads to it
  have happly : ∀ (t : LeaseWorld) (k : CallKind), t.calls[j]? = some ⟨k, .applying l⟩ →
      ∃ es s', (leaseSystem me).Path System.Any t es s' ∧ s'.lease = some l ∧
        ∀ i, i ≠ j → s'.calls[i]? = t.calls[i]? := by
    intro t k ht
    refine ⟨_, _, .single trivial (step_effect me ht rfl), rfl, fun i hi => ?_⟩
    exact List.getElem?_set_ne (Ne.symm hi)
  have hconflict : ∀ (t : LeaseWorld) (k : CallKind), t.calls[j]? = some ⟨k, .conflict l⟩ →
      ∃ es s', (leaseSystem me).Path System.Any t es s' ∧ s'.lease = some l ∧
        ∀ i, i ≠ j → s'.calls[i]? = t.calls[i]? := by
    intro t k ht
    have hstep := step_answer me ht rfl
    obtain ⟨es, s', hp, hlease, hsame⟩ := happly
      { t with calls := t.calls.set j ⟨k, .applying l⟩ } k (getElem?_set_of_some ht _)
    refine ⟨_, s', .cons trivial hstep hp, hlease, fun i hi => ?_⟩
    rw [hsame i hi]
    exact List.getElem?_set_ne (Ne.symm hi)
  obtain ⟨k, st⟩ := c
  cases st with
  | creating l' =>
      obtain rfl : l' = l := Option.some.inj hl
      rcases hlease : s.lease with _ | old
      · have he : (CallState.creating l').effect s.lease = some (some l', .created) := by
          rw [hlease]
          rfl
        refine ⟨_, _, .single trivial (step_effect me hc he), rfl, fun i hi => ?_⟩
        exact List.getElem?_set_ne (Ne.symm hi)
      · have he : (CallState.creating l').effect s.lease = some (some old, .conflict l') := by
          rw [hlease]
          rfl
        have hstep := step_effect me hc he
        obtain ⟨es, s', hp, hwritten, hsame⟩ := hconflict
          { s with lease := some old, calls := s.calls.set j ⟨k, .conflict l'⟩ } k
          (getElem?_set_of_some hc _)
        refine ⟨_, s', .cons trivial hstep hp, hwritten, fun i hi => ?_⟩
        rw [hsame i hi]
        exact List.getElem?_set_ne (Ne.symm hi)
  | conflict l' =>
      obtain rfl : l' = l := Option.some.inj hl
      exact hconflict s k hc
  | applying l' =>
      obtain rfl : l' = l := Option.some.inj hl
      exact happly s k hc
  | _ => cases hl

lemma answer_of_written {stored lease : Option Lease} {st st' : CallState}
    (h : st.effect stored = some (lease, st')) (hp : st'.pending = none) :
    st'.answer = some (.finished true) := by
  cases st with
  | creating l =>
      cases stored with
      | none =>
          obtain ⟨-, rfl⟩ := Prod.mk.inj (Option.some.inj h)
          rfl
      | some l' =>
          obtain ⟨-, rfl⟩ := Prod.mk.inj (Option.some.inj h)
          cases hp
  | applying l =>
      obtain ⟨-, rfl⟩ := Prod.mk.inj (Option.some.inj h)
      rfl
  | deleting =>
      obtain ⟨-, rfl⟩ := Prod.mk.inj (Option.some.inj h)
      rfl
  | _ => cases h

/-- A mark or a deletion that takes effect while a stale renewal is pending can complete and
be undone by it. -/
lemma readmitted_of_stale (hreach : (leaseSystem me).Reachable System.Any s)
    (hs : (leaseSystem me).step s e = some s') (hbad : ¬ NoneStaleAtSeal s e) :
    ∃ es s'', (leaseSystem me).Path System.Any s' es s'' ∧
      (∃ c ∈ s''.calls, c.Completed) ∧ ¬ AbsentOrDraining s'' := by
  simp only [NoneStaleAtSeal, not_forall, not_not] at hbad
  obtain ⟨⟨i, c, lease, state, rfl, hc, hk, he, hp⟩, r, hr, hstale⟩ := hbad
  obtain rfl := Option.some.inj ((step_effect me hc he).symm.trans hs)
  obtain ⟨j, hj⟩ := List.getElem?_of_mem hr
  have hij : i ≠ j := by
    rintro rfl
    obtain rfl : c = r := Option.some.inj (hc.symm.trans hj)
    exact (flagSet_of_reachable hreach).notStale c hr hk hstale
  -- the call completes, then the stale write is made
  have hc' : (s.calls.set i { c with state := state })[i]? = some { c with state := state } :=
    getElem?_set_of_some hc _
  have hanswer := step_answer me
    (s := { s with lease := lease, calls := s.calls.set i { c with state := state } })
    hc' (answer_of_written he hp)
  obtain ⟨l, hl, hd⟩ := hstale
  obtain ⟨es, s'', hpath, hlease, hsame⟩ := exists_path_write me (j := j) (c := r) (l := l)
    (s := { s with
      lease := lease
      calls := (s.calls.set i { c with state := state }).set i ⟨c.kind, .finished true⟩ })
    (by rw [List.getElem?_set_ne hij, List.getElem?_set_ne hij, hj]) hl
  refine ⟨_, s'', .cons trivial hanswer hpath, ⟨⟨c.kind, .finished true⟩, ?_, hk, rfl⟩, ?_⟩
  · refine List.mem_of_getElem? (i := i) ?_
    rw [hsame i hij]
    exact getElem?_set_of_some hc' _
  · intro h
    rw [h l hlease] at hd
    cases hd

/-- **When draining is irrevocable.** In every run in which no renewal that has read the
draining flag unset is pending whenever the write of a `mark_draining` or a `delete_lease`
takes effect, the lease is absent or draining in every state in which one of these calls
has completed.  Where the condition is violated, the run can go on to a state in which the
call has completed and the lease is active. -/
theorem draining_is_kept_unless_stale (me : Identity) :
    (∀ s, (leaseSystem me).Reachable NoneStaleAtSeal s → (∃ c ∈ s.calls, c.Completed) →
      AbsentOrDraining s) ∧
    ∀ s e s', (leaseSystem me).Reachable System.Any s → (leaseSystem me).step s e = some s' →
      ¬ NoneStaleAtSeal s e →
      ∃ es s'', (leaseSystem me).Path System.Any s' es s'' ∧
        (∃ c ∈ s''.calls, c.Completed) ∧ ¬ AbsentOrDraining s'' :=
  ⟨fun _ h hc => absentOrDraining_of_reachable h hc,
    fun _ _ _ hreach hs hbad => readmitted_of_stale hreach hs hbad⟩

/-- A replica renews its lease, reads the flag for the next renewal, and is marked draining;
the mark completes before the renewal is written. -/
def markOvertakesRenewal : List LeaseEvent :=
  [.renewal 0, .effect 0, .answer 0, .renewal (secs 10), .markDraining (secs 10),
    .effect 2, .answer 2, .effect 2, .answer 2, .effect 1, .answer 1, .effect 1]

/-- `mark_draining` has completed and the lease is active. -/
theorem stale_renewal_readmits :
    ∃ s, (leaseSystem (deployed "replica-a")).Reachable System.Any s ∧
      (∃ c ∈ s.calls, c.kind = .mark ∧ c.Completed) ∧
      ∃ l, s.lease = some l ∧ l.isDraining = false := by
  have hrun : ((leaseSystem (deployed "replica-a")).exec ⟨none, false, []⟩
      markOvertakesRenewal).any (fun s =>
        s.calls.any (fun c => decide (c = ⟨.mark, .finished true⟩)) &&
        s.lease.any fun l => !l.isDraining) = true := by
    decide +kernel
  obtain ⟨s, hs, hrun⟩ := (Option.any_eq_true _ _).1 hrun
  obtain ⟨hcalls, hlease⟩ := Bool.and_eq_true_iff.1 hrun
  obtain ⟨c, hc, heq⟩ := List.any_eq_true.1 hcalls
  obtain ⟨l, hl, hd⟩ := (Option.any_eq_true _ _).1 hlease
  obtain rfl := of_decide_eq_true heq
  refine ⟨s, .of_exec ⟨rfl, rfl⟩ hs, ⟨_, hc, rfl, ?_⟩, l, hl, by simpa using hd⟩
  simp [Call.Completed]

end ExternalPodAutoscaler.Membership
