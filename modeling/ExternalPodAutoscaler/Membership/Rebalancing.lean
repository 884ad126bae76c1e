/-
How the ownership of an EPA moves when the replicas change (`membership/ownership.rs`).

When the replicas have pairwise distinct weights, the owner of an EPA is the heaviest
active replica, and the previous owner the heaviest of all.  A change of the active set
therefore moves an EPA only away from a replica that is gone or to one that is new, and the
previous owner is another replica than the owner only while a draining replica outweighs
every active one.

The main result of this file is `rebalancing_minimal`.
-/
import Mathlib.Data.Set.Function
import ExternalPodAutoscaler.Membership.Election

namespace ExternalPodAutoscaler.Membership

open Lib

variable {sets m₁ m₂ union : ReplicaSets} {ns name id o : String}

/-- The replicas of the set have pairwise distinct weights for the EPA. -/
def DistinctOn (ns name : String) (S : Finset String) : Prop :=
  Set.InjOn (weight (epaKey ns name)) S

instance (ns name : String) (S : Finset String) : Decidable (DistinctOn ns name S) :=
  decidable_of_iff (∀ a ∈ S, ∀ b ∈ S, weight (epaKey ns name) a = weight (epaKey ns name) b → a = b)
    ⟨fun h _ ha _ hb => h _ ha _ hb, fun h _ ha _ hb => h ha hb⟩

lemma DistinctOn.mono {S T : Finset String} (h : DistinctOn ns name T) (hsub : S ⊆ T) :
    DistinctOn ns name S := Set.InjOn.mono (Finset.coe_subset.2 hsub) h

lemma distinctOn_iff_distinctWeights :
    DistinctOn ns name (sets.active.toFinset ∪ sets.draining.toFinset) ↔
      DistinctWeights sets ns name := by
  have hmem : ∀ a, a ∈ sets.getAllReplicas ↔
      a ∈ sets.active.toFinset ∪ sets.draining.toFinset := by
    intro a
    rw [Finset.mem_union, ReplicaSets.getAllReplicas, List.mem_append]
    rfl
  constructor
  · intro h a ha b hb
    exact h ((hmem a).1 ha) ((hmem b).1 hb)
  · intro h a ha b hb
    exact h a ((hmem a).2 ha) b ((hmem b).2 hb)

/-- The owner is the heaviest active replica. -/
lemma getEpaOwner_eq_some_iff (hw : DistinctOn ns name sets.active.toFinset) :
    getEpaOwner sets ns name = some o ↔ Heaviest ns name sets.active.toFinset o := by
  rw [getEpaOwner_eq, heaviest_iff_hasMaxKey]
  exact maxByKey_eq_some_iff fun a ha b hb => hw ha hb

/-- The previous owner is the heaviest of all replicas. -/
lemma getPreviousEpaOwner_eq_some_iff (hw : DistinctWeights sets ns name) :
    getPreviousEpaOwner sets ns name = some o ↔
      Heaviest ns name (sets.active.toFinset ∪ sets.draining.toFinset) o := by
  rw [getPreviousEpaOwner_eq, heaviest_union_iff_hasMaxKey]
  exact maxByKey_eq_some_iff hw

lemma exists_owner_of_mem (h : id ∈ sets.active) : ∃ o, getEpaOwner sets ns name = some o := by
  rw [getEpaOwner_eq]
  exact exists_maxByKey _ (List.ne_nil_of_mem h)

/-- An EPA stays with its owner, or moves to a replica that is new. -/
lemma owner_stays_or_is_new
    (hw : DistinctOn ns name (m₁.active.toFinset ∪ m₂.active.toFinset))
    (ho : getEpaOwner m₁ ns name = some o) (hmem : o ∈ m₂.active) :
    ∃ o', getEpaOwner m₂ ns name = some o' ∧ (o' = o ∨ (o' ∈ m₂.active ∧ o' ∉ m₁.active)) := by
  have htop := (getEpaOwner_eq_some_iff (hw.mono Finset.subset_union_left)).1 ho
  obtain ⟨o', ho'⟩ : ∃ o', getEpaOwner m₂ ns name = some o' := exists_owner_of_mem hmem
  have htop' := (getEpaOwner_eq_some_iff (hw.mono Finset.subset_union_right)).1 ho'
  refine ⟨o', ho', ?_⟩
  by_cases hold : o' ∈ m₁.active
  · -- both replicas are in both sets, so neither outweighs the other
    left
    have hle : weight (epaKey ns name) o' ≤ weight (epaKey ns name) o := htop.2 o' hold
    have hge : weight (epaKey ns name) o ≤ weight (epaKey ns name) o' := htop'.2 o hmem
    exact hw (Finset.mem_union_right _ htop'.1) (Finset.mem_union_left _ htop.1)
      (le_antisymm hle hge)
  · exact Or.inr ⟨mem_active_of_owner ho', hold⟩

/-- The previous owner is the owner of the view in which the draining replicas are active. -/
lemma previousOwner_eq_owner_of_union (hw : DistinctWeights sets ns name)
    (hunion : union.active.toFinset = sets.active.toFinset ∪ sets.draining.toFinset) :
    getPreviousEpaOwner sets ns name = getEpaOwner union ns name := by
  have hw' : DistinctOn ns name union.active.toFinset := by
    rw [hunion]
    exact distinctOn_iff_distinctWeights.2 hw
  ext o
  rw [getPreviousEpaOwner_eq_some_iff hw, getEpaOwner_eq_some_iff hw', hunion]

/-- A draining replica outweighs every active one. -/
def DrainingOutweighs (sets : ReplicaSets) (ns name : String) : Prop :=
  ∃ d ∈ sets.draining, ∀ a ∈ sets.active, weight (epaKey ns name) a < weight (epaKey ns name) d

/-- The previous owner is a draining replica if a draining replica outweighs every active
one. -/
lemma previousOwner_mem_draining (hw : DistinctWeights sets ns name)
    (h : DrainingOutweighs sets ns name) :
    ∃ p ∈ sets.draining, getPreviousEpaOwner sets ns name = some p := by
  obtain ⟨d, hd, hheavy⟩ := h
  have hne : sets.active.toList ++ sets.draining.toList ≠ [] :=
    List.ne_nil_of_mem (List.mem_append_right _ hd)
  obtain ⟨p, hp⟩ := exists_maxByKey (weight (epaKey ns name)) hne
  rw [← getPreviousEpaOwner_eq] at hp
  obtain ⟨hmem, htop⟩ := (getPreviousEpaOwner_eq_some_iff hw).1 hp
  refine ⟨p, ?_, hp⟩
  rcases Finset.mem_union.1 hmem with hact | hdr
  · have hlt := hheavy p hact
    have hle := htop d (Finset.mem_union_right _ hd)
    omega
  · exact hdr

/-- The previous owner is another replica than the owner exactly when a draining replica
outweighs every active one. -/
lemma previousOwner_ne_owner_iff (hd : sets.Disjoint) (hw : DistinctWeights sets ns name) :
    getPreviousEpaOwner sets ns name ≠ getEpaOwner sets ns name ↔
      DrainingOutweighs sets ns name := by
  have hwa : DistinctOn ns name sets.active.toFinset :=
    (distinctOn_iff_distinctWeights.2 hw).mono Finset.subset_union_left
  constructor
  · intro hne
    by_contra hlight
    refine hne ?_
    -- no draining replica is the heaviest of all, so the heaviest of all is active
    ext o
    rw [getPreviousEpaOwner_eq_some_iff hw, getEpaOwner_eq_some_iff hwa]
    constructor
    · rintro ⟨hmem, htop⟩
      rcases Finset.mem_union.1 hmem with hact | hdr
      · exact ⟨hact, fun a ha => htop a (Finset.mem_union_left _ ha)⟩
      · refine absurd ⟨o, hdr, fun a ha => ?_⟩ hlight
        have hle := htop a (Finset.mem_union_left _ ha)
        have hdiff : weight (epaKey ns name) a ≠ weight (epaKey ns name) o := by
          intro heq
          have hao : a = o := hw a (List.mem_append_left _ ha) o (List.mem_append_right _ hdr) heq
          exact hd a ha (hao ▸ hdr)
        omega
    · rintro ⟨hact, htop⟩
      refine ⟨Finset.mem_union_left _ hact, fun b hb => ?_⟩
      rcases Finset.mem_union.1 hb with hb | hb
      · exact htop b hb
      · by_contra hlt
        refine hlight ⟨b, hb, fun a ha => ?_⟩
        have hle := htop a ha
        omega
  · intro h heq
    obtain ⟨p, hdr, hp⟩ := previousOwner_mem_draining hw h
    rw [hp] at heq
    exact hd p (mem_active_of_owner heq.symm) hdr

/-- **Rebalancing is minimal.** If the replicas of two active sets have pairwise distinct
weights for an EPA, its owner over the first set keeps it over the second one, unless the
owner is gone or a new replica takes over.  If the replicas of disjoint active and draining
sets have pairwise distinct weights, the previous owner is the owner over their union; it is
another replica than the owner exactly when a draining replica outweighs every active one,
and then it is draining. -/
theorem rebalancing_minimal (ns name : String) :
    (∀ m₁ m₂ : ReplicaSets, DistinctOn ns name (m₁.active.toFinset ∪ m₂.active.toFinset) →
      ∀ o, getEpaOwner m₁ ns name = some o → o ∈ m₂.active →
        ∃ o', getEpaOwner m₂ ns name = some o' ∧
          (o' = o ∨ (o' ∈ m₂.active ∧ o' ∉ m₁.active))) ∧
    ∀ sets : ReplicaSets, sets.Disjoint → DistinctWeights sets ns name →
      (∀ union : ReplicaSets,
        union.active.toFinset = sets.active.toFinset ∪ sets.draining.toFinset →
        getPreviousEpaOwner sets ns name = getEpaOwner union ns name) ∧
      (getPreviousEpaOwner sets ns name ≠ getEpaOwner sets ns name ↔
        DrainingOutweighs sets ns name) ∧
      (getPreviousEpaOwner sets ns name ≠ getEpaOwner sets ns name →
        ∃ p ∈ sets.draining, getPreviousEpaOwner sets ns name = some p) := by
  refine ⟨fun m₁ m₂ hw o ho hmem => owner_stays_or_is_new hw ho hmem, fun sets hd hw => ?_⟩
  refine ⟨fun union hunion => previousOwner_eq_owner_of_union hw hunion,
    previousOwner_ne_owner_iff hd hw, fun hne => ?_⟩
  exact previousOwner_mem_draining hw ((previousOwner_ne_owner_iff hd hw).1 hne)

/-- A view in which `replica-b`, the heaviest replica for `default/web`, drains; `replica-d`
is heavier than `replica-a`. -/
def oneDrains : ReplicaSets :=
  ⟨⟨["replica-a", "replica-d"], by decide⟩, ⟨["replica-b"], List.nodup_singleton _⟩, false⟩

/-- A view in which `replica-c` has come and `replica-a` is gone. -/
def oneReplaced : ReplicaSets := ⟨⟨["replica-c", "replica-d"], by decide⟩, .empty, false⟩

/-- The owner `replica-d` of the first view is that of the second one, and the previous owner
of the first view is draining. -/
theorem rebalancing_minimal_one_drains :
    (∃ o', getEpaOwner oneReplaced "default" "web" = some o' ∧
      (o' = "replica-d" ∨ (o' ∈ oneReplaced.active ∧ o' ∉ oneDrains.active))) ∧
    ∃ p ∈ oneDrains.draining, getPreviousEpaOwner oneDrains "default" "web" = some p := by
  obtain ⟨hmoves, hprevious⟩ := rebalancing_minimal "default" "web"
  obtain ⟨-, hiff, hdraining⟩ := hprevious oneDrains (by decide) (by decide +kernel)
  have hheavy : DrainingOutweighs oneDrains "default" "web" := by
    refine ⟨"replica-b", by decide, fun a ha => ?_⟩
    have hactive : a = "replica-a" ∨ a = "replica-d" := by
      simpa [oneDrains, IdSet.mem_def] using ha
    rcases hactive with rfl | rfl <;> decide +kernel
  have howner : getEpaOwner oneDrains "default" "web" = some "replica-d" := by decide +kernel
  exact ⟨hmoves oneDrains oneReplaced (by decide +kernel) "replica-d" howner (by decide),
    hdraining (hiff.2 hheavy)⟩

end ExternalPodAutoscaler.Membership
