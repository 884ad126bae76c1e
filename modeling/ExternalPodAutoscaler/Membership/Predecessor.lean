/-
The previous owner through a series of drains.

A view is what all replicas hold as their active and draining sets.  An update may find that
several replicas have joined, drain or are gone, so a step of `viewSystem` replaces the view
by any disjoint one; the updates of a process are such steps (`viewSystem_simulates`).

When the owner `X` of an EPA drains, another replica becomes the owner and looks for its
predecessor by an election over the active and the draining replicas.  The main result of
this file is `predecessor_found_iff`: as long as `X` drains and nobody joins, the election
finds `X` exactly when every replica that was draining before `X`, and still is, is lighter
than `X`.  The replicas that drain after `X` were lighter than `X` when it was the owner
(`le_of_path`).  In `second_drain_hides_predecessor` a heavier replica drains before `X`.
-/
import ExternalPodAutoscaler.Membership.Rebalancing
import ExternalPodAutoscaler.Membership.Replica

namespace ExternalPodAutoscaler.Membership

open Lib

/-- The runs of a shared view. -/
def viewSystem : System ReplicaSets ReplicaSets where
  init view := view.active = .empty ∧ view.draining = .empty
  step _ view' := if view'.Disjoint then some view' else none

/-- No replica appears and no draining replica becomes active. -/
def NoJoin (view view' : ReplicaSets) : Prop :=
  (∀ id ∈ view'.active, id ∈ view.active) ∧
    ∀ id ∈ view'.draining, id ∈ view.active ∨ id ∈ view.draining

instance (view view' : ReplicaSets) : Decidable (NoJoin view view') :=
  inferInstanceAs (Decidable
    ((∀ id ∈ view'.active.toList, id ∈ view.active) ∧ ∀ id ∈ view'.draining.toList, _))

variable {V V' V'' : ReplicaSets} {ns name X O : String} {es : List ReplicaSets}

lemma viewSystem_step (h : viewSystem.step V V' = some V'') : V'' = V' ∧ V'.Disjoint := by
  simp only [viewSystem] at h
  split at h
  · rename_i hd
    exact ⟨(Option.some.inj h).symm, hd⟩
  · cases h

lemma viewSystem_step_of_disjoint (hd : V'.Disjoint) : viewSystem.step V V' = some V' :=
  if_pos hd

lemma viewSystem_disjoint (h : viewSystem.Reachable System.Any V) : V.Disjoint := by
  refine h.invariant ?_ ?_
  · rintro view ⟨hactive, -⟩ id hid
    rw [hactive] at hid
    exact absurd hid (IdSet.not_mem_empty id)
  · intro view e view' _ _ hs
    obtain ⟨rfl, hd⟩ := viewSystem_step hs
    exact hd

/-- The sets of a process change as a view does. -/
theorem viewSystem_simulates {me : String} {s s' : LocalState} {es : List LocalEvent}
    (hd : s.proc.sets.Disjoint) (h : (localSystem me).Path System.Any s es s') :
    ∃ views, viewSystem.Path System.Any s.proc.sets views s'.proc.sets := by
  have hstep : ∀ s e s' (V : ReplicaSets), (s.proc.sets = V ∧ V.Disjoint) → System.Any s e →
      (localSystem me).step s e = some s' → ∃ views V', viewSystem.Path System.Any V views V' ∧
        (s'.proc.sets = V' ∧ V'.Disjoint) := by
    rintro s e s' V ⟨rfl, hd⟩ - hs
    have hd' : s'.proc.sets.Disjoint := by
      cases e with
      | advance d =>
          obtain rfl := Option.some.inj hs
          exact hd
      | act e =>
          obtain ⟨proc, hp, rfl⟩ := localSystem_act hs
          exact Replica.disjoint_step hd hp
    exact ⟨_, _, .single trivial (viewSystem_step_of_disjoint hd'), rfl, hd'⟩
  obtain ⟨views, V', hpath, hV', -⟩ := h.simulates hstep ⟨rfl, hd⟩
  exact ⟨views, hV' ▸ hpath⟩

/-! ### Runs without joins -/

/-- Without joins the active replicas were active and the draining ones were members. -/
lemma NoJoin.trans (h : NoJoin V V') (h' : NoJoin V' V'') : NoJoin V V'' := by
  refine ⟨fun id hid => h.1 id (h'.1 id hid), fun id hid => ?_⟩
  rcases h'.2 id hid with hact | hdr
  · exact Or.inl (h.1 id hact)
  · exact h.2 id hdr

lemma noJoin_of_path (h : viewSystem.Path NoJoin V es V') : NoJoin V V' := by
  induction h with
  | nil => exact ⟨fun _ hid => hid, fun _ hid => Or.inr hid⟩
  | cons hok hs _ ih =>
      obtain ⟨rfl, -⟩ := viewSystem_step hs
      exact hok.trans ih

lemma mem_all_iff {sets : ReplicaSets} {id : String} :
    id ∈ sets.getAllReplicas ↔ id ∈ sets.active ∨ id ∈ sets.draining := List.mem_append

lemma DistinctWeights.of_noJoin (hw : DistinctWeights V ns name) (h : NoJoin V V') :
    DistinctWeights V' ns name := by
  have hsub : ∀ id ∈ V'.getAllReplicas, id ∈ V.getAllReplicas := by
    intro id hid
    rcases mem_all_iff.1 hid with hact | hdr
    · exact mem_all_iff.2 (Or.inl (h.1 id hact))
    · exact mem_all_iff.2 (h.2 id hdr)
  intro a ha b hb
  exact hw a (hsub a ha) b (hsub b hb)

/-- A member of a later view that was not draining before `X` is not heavier than `X`, which
was the owner. -/
lemma le_of_path (hw : DistinctWeights V ns name) (howner : getEpaOwner V ns name = some X)
    (hlight : ∀ d ∈ V.draining, d ∈ V'.draining →
      weight (epaKey ns name) d < weight (epaKey ns name) X)
    (hstep : NoJoin V V') (hpath : NoJoin V' V'') {id : String}
    (hid : id ∈ V''.active ∨ id ∈ V''.draining) :
    weight (epaKey ns name) id ≤ weight (epaKey ns name) X := by
  have hwa : DistinctOn ns name V.active.toFinset :=
    (distinctOn_iff_distinctWeights.2 hw).mono Finset.subset_union_left
  have htop := ((getEpaOwner_eq_some_iff hwa).1 howner).2
  have hmember : id ∈ V'.active ∨ id ∈ V'.draining := by
    rcases hid with hact | hdr
    · exact Or.inl (hpath.1 id hact)
    · exact hpath.2 id hdr
  rcases hmember with hact | hdr
  · exact htop id (hstep.1 id hact)
  · rcases hstep.2 id hdr with hact | hdr₀
    · exact htop id hact
    · exact (hlight id hdr₀ hdr).le

/-- **The predecessor is found.** Let the owner `X` of an EPA drain in a change of a reachable
view in which nobody joins, and let the replicas have pairwise distinct weights.  Then the previous
owner is `X` in every later view in which `X` still drains and until which nobody has joined,
exactly when every replica that was draining before `X`, and still is when `X` starts to, is
lighter than `X`. -/
theorem predecessor_found_iff (hreach : viewSystem.Reachable System.Any V)
    (hw : DistinctWeights V ns name) (howner : getEpaOwner V ns name = some X)
    (hstep : NoJoin V V') (hX : X ∈ V'.draining) (hO : getEpaOwner V' ns name = some O) :
    (∀ es V'', viewSystem.Path NoJoin V' es V'' → X ∈ V''.draining →
        getEpaOwner V'' ns name = some O → getPreviousEpaOwner V'' ns name = some X) ↔
      ∀ d ∈ V.draining, d ∈ V'.draining →
        weight (epaKey ns name) d < weight (epaKey ns name) X := by
  constructor
  · intro hfound d hd hd'
    have hprev := hfound [] V' (.nil _) hX hO
    have hw' := hw.of_noJoin hstep
    have htop := ((getPreviousEpaOwner_eq_some_iff hw').1 hprev).2
    have hle := htop d (Finset.mem_union_right _ hd')
    have hne : weight (epaKey ns name) d ≠ weight (epaKey ns name) X := by
      intro heq
      have hdX : d = X := hw d (mem_all_iff.2 (Or.inr hd)) X
        (mem_all_iff.2 (Or.inl (mem_active_of_owner howner))) heq
      exact viewSystem_disjoint hreach X (mem_active_of_owner howner) (hdX ▸ hd)
    omega
  · intro hlight es V'' hpath hX'' _
    have hpath' := noJoin_of_path hpath
    have hw'' := hw.of_noJoin (hstep.trans hpath')
    rw [getPreviousEpaOwner_eq_some_iff hw'']
    refine ⟨Finset.mem_union_right _ hX'', fun id hid => ?_⟩
    exact le_of_path hw howner hlight hstep hpath' (Finset.mem_union.1 hid)

/-! ### Two drains in a row -/

/-- Three active replicas; for `default/web` the heaviest is `replica-b`, then `replica-d`. -/
def threeActive : ReplicaSets :=
  ⟨⟨["replica-a", "replica-b", "replica-d"], by decide⟩, .empty, false⟩

/-- Of the three, `replica-b` and `replica-d` drain. -/
def twoDrain : ReplicaSets :=
  ⟨⟨["replica-a"], List.nodup_singleton _⟩, ⟨["replica-d", "replica-b"], by decide⟩, false⟩

lemma oneDrains_reachable : viewSystem.Reachable System.Any oneDrains :=
  ⟨.new, [threeActive, oneDrains], ⟨rfl, rfl⟩,
    .cons trivial (viewSystem_step_of_disjoint (by decide))
      (.single trivial (viewSystem_step_of_disjoint (by decide)))⟩

/-- After `replica-b` the next owner `replica-d` drains; the previous owner is then
`replica-b` and not `replica-d`. -/
theorem second_drain_hides_predecessor :
    viewSystem.Reachable System.Any oneDrains ∧ DistinctWeights oneDrains "default" "web" ∧
      getEpaOwner oneDrains "default" "web" = some "replica-d" ∧
      viewSystem.step oneDrains twoDrain = some twoDrain ∧ NoJoin oneDrains twoDrain ∧
      "replica-d" ∈ twoDrain.draining ∧ getEpaOwner twoDrain "default" "web" = some "replica-a" ∧
      getPreviousEpaOwner twoDrain "default" "web" = some "replica-b" := by
  refine ⟨oneDrains_reachable, by decide +kernel, by decide +kernel,
    viewSystem_step_of_disjoint (by decide), by decide, by decide, by decide +kernel,
    by decide +kernel⟩

/-- For these two drains both sides of the equivalence are false. -/
theorem predecessor_found_iff_two_drain :
    (∀ es V'', viewSystem.Path NoJoin twoDrain es V'' → "replica-d" ∈ V''.draining →
        getEpaOwner V'' "default" "web" = some "replica-a" →
        getPreviousEpaOwner V'' "default" "web" = some "replica-d") ↔
      ∀ d ∈ oneDrains.draining, d ∈ twoDrain.draining →
        weight (epaKey "default" "web") d < weight (epaKey "default" "web") "replica-d" :=
  predecessor_found_iff oneDrains_reachable (by decide +kernel) (by decide +kernel) (by decide)
    (by decide) (by decide +kernel)

end ExternalPodAutoscaler.Membership
