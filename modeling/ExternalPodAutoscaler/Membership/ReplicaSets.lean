/-
The replica sets of a membership manager (`membership/manager.rs`).

Every process holds the IDs of the active and of the draining replicas in two hash sets.
An `IdSet` is such a set together with the order in which the process iterates it: two
processes that hold the same set may enumerate it differently.
-/
import Mathlib.Data.Finset.Basic
import Mathlib.Data.Finset.Dedup
import Mathlib.Data.List.Nodup

namespace ExternalPodAutoscaler.Membership

/-- A `HashSet` of replica IDs, as the list of its elements in the iteration order of the
process that holds it. -/
structure IdSet where
  /-- The elements, in iteration order. -/
  toList : List String
  nodup : toList.Nodup
deriving DecidableEq

namespace IdSet

instance : Membership String IdSet := ⟨fun s id => id ∈ s.toList⟩

instance (id : String) (s : IdSet) : Decidable (id ∈ s) :=
  inferInstanceAs (Decidable (id ∈ s.toList))

lemma mem_def {id : String} {s : IdSet} : id ∈ s ↔ id ∈ s.toList := Iff.rfl

/-- `HashSet::new`. -/
def empty : IdSet := ⟨[], List.nodup_nil⟩

/-- `HashSet::insert`. -/
def insert (s : IdSet) (id : String) : IdSet := ⟨s.toList.insert id, s.nodup.insert⟩

/-- `HashSet::remove`. -/
def remove (s : IdSet) (id : String) : IdSet := ⟨s.toList.erase id, s.nodup.erase id⟩

@[simp] lemma not_mem_empty (id : String) : id ∉ empty := by
  simp [mem_def, empty]

@[simp] lemma mem_insert {s : IdSet} {id id' : String} :
    id ∈ s.insert id' ↔ id = id' ∨ id ∈ s := by
  simp [mem_def, insert]

@[simp] lemma mem_remove {s : IdSet} {id id' : String} :
    id ∈ s.remove id' ↔ id ≠ id' ∧ id ∈ s := by
  simp [mem_def, remove, s.nodup.mem_erase_iff]

/-- Two processes hold the same set. -/
def Same (s t : IdSet) : Prop := ∀ id, id ∈ s ↔ id ∈ t

lemma Same.perm {s t : IdSet} (h : s.Same t) : s.toList.Perm t.toList :=
  (List.perm_ext_iff_of_nodup s.nodup t.nodup).2 h

lemma Same.symm {s t : IdSet} (h : s.Same t) : t.Same s := fun id => (h id).symm

lemma Same.trans {s t u : IdSet} (h : s.Same t) (h' : t.Same u) : s.Same u :=
  fun id => (h id).trans (h' id)

instance (s t : IdSet) : Decidable (s.Same t) :=
  decidable_of_iff (s.toList.Perm t.toList) (List.perm_ext_iff_of_nodup s.nodup t.nodup)

/-- The set, without the iteration order. -/
def toFinset (s : IdSet) : Finset String := ⟨s.toList, s.nodup⟩

@[simp] lemma mem_toFinset {s : IdSet} {id : String} : id ∈ s.toFinset ↔ id ∈ s := Iff.rfl

lemma toFinset_eq_iff {s t : IdSet} : s.toFinset = t.toFinset ↔ s.Same t := by
  simp [Finset.ext_iff, Same]

end IdSet

/-- The replica sets of a process and its own draining flag. -/
structure ReplicaSets where
  active : IdSet
  draining : IdSet
  localDraining : Bool
deriving DecidableEq

namespace ReplicaSets

/-- The sets of a manager that has not seen any lease. -/
def new : ReplicaSets := ⟨IdSet.empty, IdSet.empty, false⟩

/-- The active replica IDs, in iteration order. -/
def getActiveReplicas (sets : ReplicaSets) : List String := sets.active.toList

/-- The union of the active and draining replica IDs, the active ones first. -/
def getAllReplicas (sets : ReplicaSets) : List String :=
  sets.active.toList ++ sets.draining.toList

/-- Two processes hold the same active and the same draining replicas. -/
def SameView (m₁ m₂ : ReplicaSets) : Prop :=
  m₁.active.Same m₂.active ∧ m₁.draining.Same m₂.draining

instance (m₁ m₂ : ReplicaSets) : Decidable (m₁.SameView m₂) :=
  inferInstanceAs (Decidable (_ ∧ _))

lemma SameView.symm {m₁ m₂ : ReplicaSets} (h : m₁.SameView m₂) : m₂.SameView m₁ :=
  ⟨h.1.symm, h.2.symm⟩

lemma SameView.trans {m₁ m₂ m₃ : ReplicaSets} (h : m₁.SameView m₂) (h' : m₂.SameView m₃) :
    m₁.SameView m₃ :=
  ⟨h.1.trans h'.1, h.2.trans h'.2⟩

/-- No replica is both active and draining. -/
def Disjoint (sets : ReplicaSets) : Prop := ∀ id ∈ sets.active, id ∉ sets.draining

instance (sets : ReplicaSets) : Decidable sets.Disjoint :=
  inferInstanceAs (Decidable (∀ id ∈ sets.active.toList, id ∉ sets.draining))

end ReplicaSets

end ExternalPodAutoscaler.Membership
