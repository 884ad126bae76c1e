/-
The ownership election (`membership/ownership.rs`).

An EPA is owned by the active replica of greatest weight; the previous owner is the
replica of greatest weight among the active and the draining ones.  Both are computed by
`max_by_key` over the iteration order of the hash sets of the process.

The main result of this file is `owners_agree_iff`: processes that hold the same sets
agree on the owner in every iteration order exactly when a single replica has the
greatest weight.  The election breaks ties by the iteration order, so two replicas of
equal greatest weight are enough for two processes to disagree.
-/
import ExternalPodAutoscaler.Lib.MaxByKey
import ExternalPodAutoscaler.Membership.ReplicaSets
import ExternalPodAutoscaler.Membership.Weight

namespace ExternalPodAutoscaler.Membership

open Lib

/-- The replica with the greatest weight for the key, the last one in the given order if
there are several. -/
def highestWeightReplica (replicas : List String) (key : String) : Option String :=
  maxByKey (weight key) replicas

/-- The replica that owns the EPA, `none` if no replica is active. -/
def getEpaOwner (sets : ReplicaSets) (ns name : String) : Option String :=
  let activeReplicas := sets.getActiveReplicas
  if activeReplicas.isEmpty then none
  else highestWeightReplica activeReplicas (epaKey ns name)

/-- Whether the replica `me` owns the EPA. -/
def isEpaOwner (me : String) (sets : ReplicaSets) (ns name : String) : Bool :=
  getEpaOwner sets ns name == some me

/-- The replica that would own the EPA if the draining replicas were still active. -/
def getPreviousEpaOwner (sets : ReplicaSets) (ns name : String) : Option String :=
  let allReplicas := sets.getAllReplicas
  if allReplicas.isEmpty then none
  else highestWeightReplica allReplicas (epaKey ns name)

lemma getEpaOwner_eq (sets : ReplicaSets) (ns name : String) :
    getEpaOwner sets ns name = maxByKey (weight (epaKey ns name)) sets.active.toList := by
  rcases h : sets.active.toList with _ | ⟨a, l⟩ <;>
    simp [getEpaOwner, ReplicaSets.getActiveReplicas, highestWeightReplica, h]

lemma getPreviousEpaOwner_eq (sets : ReplicaSets) (ns name : String) :
    getPreviousEpaOwner sets ns name =
      maxByKey (weight (epaKey ns name)) (sets.active.toList ++ sets.draining.toList) := by
  rcases h : sets.active.toList ++ sets.draining.toList with _ | ⟨a, l⟩ <;>
    simp [getPreviousEpaOwner, ReplicaSets.getAllReplicas, highestWeightReplica, h]

/-- The election depends on the key of the EPA alone. -/
lemma getEpaOwner_key_congr {sets : ReplicaSets} {ns name ns' name' : String}
    (h : epaKey ns' name' = epaKey ns name) :
    getEpaOwner sets ns' name' = getEpaOwner sets ns name := by
  rw [getEpaOwner, getEpaOwner, h]

section Owner

variable {sets : ReplicaSets} {ns name id : String}

lemma mem_active_of_owner (h : getEpaOwner sets ns name = some id) : id ∈ sets.active := by
  rw [getEpaOwner_eq] at h
  exact maxByKey_mem h

lemma isEpaOwner_iff : isEpaOwner id sets ns name = true ↔ getEpaOwner sets ns name = some id := by
  simp [isEpaOwner]

/-- The owner is followed by a previous owner. -/
lemma exists_previousOwner (h : getEpaOwner sets ns name = some id) :
    ∃ p, getPreviousEpaOwner sets ns name = some p := by
  rw [getPreviousEpaOwner_eq]
  have hmem : id ∈ sets.active.toList := mem_active_of_owner h
  exact exists_maxByKey _ (List.ne_nil_of_mem (List.mem_append_left _ hmem))

/-- The previous owner is the owner itself exactly when every draining replica is lighter
than the owner. -/
lemma previousOwner_eq_owner_iff (hd : sets.Disjoint) (h : getEpaOwner sets ns name = some id) :
    getPreviousEpaOwner sets ns name = some id ↔
      ∀ d ∈ sets.draining, weight (epaKey ns name) d < weight (epaKey ns name) id := by
  have hmem := mem_active_of_owner h
  rw [getEpaOwner_eq] at h
  rw [getPreviousEpaOwner_eq, maxByKey_append, h]
  rcases hdr : maxByKey (weight (epaKey ns name)) sets.draining.toList with _ | b
  · have hnil : sets.draining.toList = [] := maxByKey_eq_none.1 hdr
    simp [IdSet.mem_def, hnil]
  · have hb : b ∈ sets.draining := maxByKey_mem hdr
    have hle : ∀ d ∈ sets.draining, weight (epaKey ns name) d ≤ weight (epaKey ns name) b :=
      fun d hdm => key_le_of_maxByKey hdr hdm
    dsimp only
    split
    · rename_i hlt
      exact ⟨fun _ d hdm => (hle d hdm).trans_lt hlt, fun _ => rfl⟩
    · rename_i hge
      constructor
      · intro heq
        obtain rfl : b = id := Option.some.inj heq
        exact absurd hb (hd b hmem)
      · intro hall
        exact absurd (hall b hb) hge

end Owner

/-! ### Agreement between processes -/

/-- `id` has the greatest weight among the replicas of `S`. -/
def Heaviest (ns name : String) (S : Finset String) (id : String) : Prop :=
  id ∈ S ∧ ∀ other ∈ S, weight (epaKey ns name) other ≤ weight (epaKey ns name) id

/-- The process holds the active replicas `A` and the draining replicas `D`. -/
def ReplicaSets.Holds (m : ReplicaSets) (A D : Finset String) : Prop :=
  m.active.toFinset = A ∧ m.draining.toFinset = D

/-- An iteration order of a finite set of IDs. -/
lemma exists_idSet (A : Finset String) : ∃ s : IdSet, s.toFinset = A :=
  ⟨⟨A.toList, A.nodup_toList⟩, by ext id; simp [IdSet.mem_def]⟩

lemma idSet_eq_of_perm {s : IdSet} {l : List String} (h : l.Perm s.toList) :
    ∃ t : IdSet, t.toList = l ∧ t.toFinset = s.toFinset := by
  refine ⟨⟨l, h.nodup_iff.2 s.nodup⟩, rfl, ?_⟩
  ext id
  exact h.mem_iff

lemma heaviest_iff_hasMaxKey {ns name id : String} {s : IdSet} :
    Heaviest ns name s.toFinset id ↔ HasMaxKey (weight (epaKey ns name)) s.toList id := Iff.rfl

lemma heaviest_union_iff_hasMaxKey {ns name id : String} {s t : IdSet} :
    Heaviest ns name (s.toFinset ∪ t.toFinset) id ↔
      HasMaxKey (weight (epaKey ns name)) (s.toList ++ t.toList) id := by
  simp only [Heaviest, HasMaxKey, Finset.mem_union, List.mem_append, IdSet.mem_toFinset,
    IdSet.mem_def]

/-- All processes that hold the active set `A` agree on the owner exactly when a single
replica of `A` has the greatest weight. -/
lemma owner_agree_iff (ns name : String) (A : Finset String) :
    (∀ m₁ m₂ : ReplicaSets, m₁.active.toFinset = A → m₂.active.toFinset = A →
        getEpaOwner m₁ ns name = getEpaOwner m₂ ns name) ↔
      ∀ a b, Heaviest ns name A a → Heaviest ns name A b → a = b := by
  obtain ⟨s, rfl⟩ := exists_idSet A
  simp only [heaviest_iff_hasMaxKey, ← maxByKey_agree_iff]
  constructor
  · intro h l₁ l₂ h₁ h₂
    obtain ⟨s₁, rfl, hs₁⟩ := idSet_eq_of_perm h₁
    obtain ⟨s₂, rfl, hs₂⟩ := idSet_eq_of_perm h₂
    simpa [getEpaOwner_eq] using h ⟨s₁, IdSet.empty, false⟩ ⟨s₂, IdSet.empty, false⟩ hs₁ hs₂
  · intro h m₁ m₂ h₁ h₂
    rw [getEpaOwner_eq, getEpaOwner_eq]
    exact h _ _ (IdSet.toFinset_eq_iff.1 h₁).perm (IdSet.toFinset_eq_iff.1 h₂).perm

/-- All processes that hold the active set `A` and the draining set `D` agree on the
previous owner exactly when `D` holds at most one replica of greatest weight and, if it
holds none, `A` holds at most one. -/
lemma previousOwner_agree_iff (ns name : String) (A D : Finset String) :
    (∀ m₁ m₂ : ReplicaSets, m₁.Holds A D → m₂.Holds A D →
        getPreviousEpaOwner m₁ ns name = getPreviousEpaOwner m₂ ns name) ↔
      (∀ a ∈ D, ∀ b ∈ D, Heaviest ns name (A ∪ D) a → Heaviest ns name (A ∪ D) b → a = b) ∧
      ((∀ a ∈ D, ¬ Heaviest ns name (A ∪ D) a) →
        ∀ a b, Heaviest ns name (A ∪ D) a → Heaviest ns name (A ∪ D) b → a = b) := by
  obtain ⟨s, rfl⟩ := exists_idSet A
  obtain ⟨t, rfl⟩ := exists_idSet D
  simp only [heaviest_union_iff_hasMaxKey, IdSet.mem_toFinset, IdSet.mem_def]
  rw [← maxByKey_append_agree_iff]
  constructor
  · intro h k₁ k₂ m₁ m₂ hk₁ hm₁ hk₂ hm₂
    obtain ⟨s₁, rfl, hs₁⟩ := idSet_eq_of_perm hk₁
    obtain ⟨s₂, rfl, hs₂⟩ := idSet_eq_of_perm hm₁
    obtain ⟨t₁, rfl, ht₁⟩ := idSet_eq_of_perm hk₂
    obtain ⟨t₂, rfl, ht₂⟩ := idSet_eq_of_perm hm₂
    simpa [getPreviousEpaOwner_eq] using
      h ⟨s₁, t₁, false⟩ ⟨s₂, t₂, false⟩ ⟨hs₁, ht₁⟩ ⟨hs₂, ht₂⟩
  · rintro h m₁ m₂ ⟨ha₁, hd₁⟩ ⟨ha₂, hd₂⟩
    rw [getPreviousEpaOwner_eq, getPreviousEpaOwner_eq]
    exact h _ _ _ _ (IdSet.toFinset_eq_iff.1 ha₁).perm (IdSet.toFinset_eq_iff.1 ha₂).perm
      (IdSet.toFinset_eq_iff.1 hd₁).perm (IdSet.toFinset_eq_iff.1 hd₂).perm

/-- **Agreement on the owners.** For every EPA, processes that hold the same active set
agree on the owner in every iteration order exactly when one replica alone has the
greatest weight, and processes that hold the same active and draining sets agree on the
previous owner exactly when the draining set has at most one replica of greatest weight
and, if it has none, the active set has at most one. -/
theorem owners_agree_iff (ns name : String) (A D : Finset String) :
    ((∀ m₁ m₂ : ReplicaSets, m₁.active.toFinset = A → m₂.active.toFinset = A →
        getEpaOwner m₁ ns name = getEpaOwner m₂ ns name) ↔
      ∀ a b, Heaviest ns name A a → Heaviest ns name A b → a = b) ∧
    ((∀ m₁ m₂ : ReplicaSets, m₁.Holds A D → m₂.Holds A D →
        getPreviousEpaOwner m₁ ns name = getPreviousEpaOwner m₂ ns name) ↔
      (∀ a ∈ D, ∀ b ∈ D, Heaviest ns name (A ∪ D) a → Heaviest ns name (A ∪ D) b → a = b) ∧
      ((∀ a ∈ D, ¬ Heaviest ns name (A ∪ D) a) →
        ∀ a b, Heaviest ns name (A ∪ D) a → Heaviest ns name (A ∪ D) b → a = b)) :=
  ⟨owner_agree_iff ns name A, previousOwner_agree_iff ns name A D⟩

/-- Two replica IDs (version 4 UUIDs) with the same FNV-1a hash, in one iteration order. -/
def tiedReplicas : ReplicaSets where
  active := ⟨["3f2b8c1e-9a4d-4e70-bb73-f40c8f834dfa", "3f2b8c1e-9a4d-4e72-9627-0926a91d2e79"],
    by decide⟩
  draining := IdSet.empty
  localDraining := false

/-- The same two replica IDs in the other iteration order. -/
def tiedReplicasReversed : ReplicaSets where
  active := ⟨["3f2b8c1e-9a4d-4e72-9627-0926a91d2e79", "3f2b8c1e-9a4d-4e70-bb73-f40c8f834dfa"],
    by decide⟩
  draining := IdSet.empty
  localDraining := false

/-- Two processes that hold the same two active replicas elect different owners. -/
theorem tied_replicas_disagree :
    tiedReplicas.SameView tiedReplicasReversed ∧
    getEpaOwner tiedReplicas "production" "queue-worker-scaler" =
      some "3f2b8c1e-9a4d-4e72-9627-0926a91d2e79" ∧
    getEpaOwner tiedReplicasReversed "production" "queue-worker-scaler" =
      some "3f2b8c1e-9a4d-4e70-bb73-f40c8f834dfa" := by
  refine ⟨by decide, ?_, ?_⟩ <;> decide +kernel

/-! ### Views with pairwise distinct weights -/

/-- The replicas of the view have pairwise distinct weights for the EPA. -/
def DistinctWeights (sets : ReplicaSets) (ns name : String) : Prop :=
  ∀ a ∈ sets.getAllReplicas, ∀ b ∈ sets.getAllReplicas,
    weight (epaKey ns name) a = weight (epaKey ns name) b → a = b

instance (sets : ReplicaSets) (ns name : String) : Decidable (DistinctWeights sets ns name) :=
  inferInstanceAs (Decidable (∀ a ∈ sets.getAllReplicas, ∀ b ∈ sets.getAllReplicas, _))

lemma getEpaOwner_congr {m₁ m₂ : ReplicaSets} {ns name : String}
    (hw : DistinctWeights m₁ ns name) (h : m₁.SameView m₂) :
    getEpaOwner m₁ ns name = getEpaOwner m₂ ns name := by
  rw [getEpaOwner_eq, getEpaOwner_eq]
  refine maxByKey_perm (fun a ha b hb => ?_) h.1.perm
  exact hw a (List.mem_append_left _ ha) b (List.mem_append_left _ hb)

lemma getPreviousEpaOwner_congr {m₁ m₂ : ReplicaSets} {ns name : String}
    (hw : DistinctWeights m₁ ns name) (h : m₁.SameView m₂) :
    getPreviousEpaOwner m₁ ns name = getPreviousEpaOwner m₂ ns name := by
  rw [getPreviousEpaOwner_eq, getPreviousEpaOwner_eq]
  exact maxByKey_perm hw (h.1.perm.append h.2.perm)

end ExternalPodAutoscaler.Membership
