/-
Ties between replicas (`compute_weight` of `membership/ownership.rs`).

The weight of a replica for an EPA hashes the replica ID first and the key of the EPA after it.
Each step of FNV-1a is reversible, so the key makes no tie and breaks none: replicas tie for an EPA
exactly if the hasher is in the same state after their IDs.

The main result of this file is `ties_independent_of_epa`: two replicas that tie for one EPA tie for
every EPA.  So whether the weights of a view are distinct is a matter of the replicas alone
(`distinctWeights_iff`), and processes whose replicas have distinct hashes agree on the owners of
all EPAs (`owners_agree_of_distinct_hashes`).
-/
import Mathlib.Data.UInt
import ExternalPodAutoscaler.Lib.Hashing
import ExternalPodAutoscaler.Membership.Election

namespace ExternalPodAutoscaler.Membership

open ExternalPodAutoscaler.Lib

/-! ### The hasher -/

/-- The prime is odd, and so has an inverse among the 64-bit numbers. -/
lemma isUnit_fnvPrime : IsUnit fnvPrime :=
  have hinverse : fnvPrime * 0xce965057aff6957b = 1 := by decide
  .of_mul_eq_one _ hinverse

/-- FNV-1a forgets nothing of its state. -/
lemma reversible_fnv :
    Reversible fun (h : UInt64) (b : UInt8) => (h ^^^ b.toUInt64) * fnvPrime := by
  have hmix : Reversible fun (h : UInt64) (b : UInt8) => h ^^^ b.toUInt64 :=
    fun b _ _ heq => (UInt64.xor_left_inj b.toUInt64).1 heq
  exact hmix.mul isUnit_fnvPrime

/-- What `Hash for str` feeds to the hasher. -/
def strBytes (s : String) : List UInt8 := s.toUTF8.toList ++ [0xff]

lemma hashStr_eq (hasher : UInt64) (s : String) : hashStr hasher s = fnvWrite hasher (strBytes s) :=
  List.foldl_append.symm

/-- The state of the hasher after the ID of a replica. -/
def replicaHash (replicaId : String) : UInt64 := hashStr fnvOffsetBasis replicaId

/-! ### Ties -/

variable {a b : String}

/-- The key of the EPA makes no tie and breaks none. -/
lemma computeWeight_eq_iff (key : String) :
    computeWeight a key = computeWeight b key ↔ replicaHash a = replicaHash b := by
  have hweight : ∀ id, computeWeight id key =
      fnvWrite fnvOffsetBasis (strBytes id ++ strBytes key) := by
    intro id
    rw [computeWeight, hashStr_eq, hashStr_eq]
    exact List.foldl_append.symm
  rw [hweight, hweight, replicaHash, replicaHash, hashStr_eq, hashStr_eq]
  exact reversible_fnv.collide_append_iff (strBytes key)

lemma weight_eq_iff (key : String) : weight key a = weight key b ↔ replicaHash a = replicaHash b :=
  UInt64.toNat_inj.trans (computeWeight_eq_iff key)

/-- **Ties are a property of the replicas alone.** Two replicas that have the same weight for one
key have the same weight for every key; so they tie for one EPA exactly if they tie for all. -/
theorem ties_independent_of_epa (a b : String) :
    (∀ k k', computeWeight a k = computeWeight b k ↔ computeWeight a k' = computeWeight b k') ∧
    ((∃ ns name, weight (epaKey ns name) a = weight (epaKey ns name) b) ↔
      ∀ ns name, weight (epaKey ns name) a = weight (epaKey ns name) b) := by
  constructor
  · intro k k'
    rw [computeWeight_eq_iff, computeWeight_eq_iff]
  · simp only [weight_eq_iff, exists_const, forall_const]

/-- Two replicas that tie for every EPA. -/
example : replicaHash "3f2b8c1e-9a4d-4e70-bb73-f40c8f834dfa" =
    replicaHash "3f2b8c1e-9a4d-4e72-9627-0926a91d2e79" := by
  decide +kernel

/-! ### Distinct weights -/

variable {sets m₁ m₂ : ReplicaSets}

/-- **Distinct weights** can be checked once for a view: they are distinct for an EPA exactly if
the hashes of the replicas are. -/
theorem distinctWeights_iff (sets : ReplicaSets) (ns name : String) :
    DistinctWeights sets ns name ↔
      ∀ a ∈ sets.getAllReplicas, ∀ b ∈ sets.getAllReplicas,
        replicaHash a = replicaHash b → a = b := by
  simp only [DistinctWeights, weight_eq_iff]

/-- **Agreement on all EPAs.** Processes with the same view of replicas with distinct hashes agree
on the owner and on the previous owner of every EPA. -/
theorem owners_agree_of_distinct_hashes
    (hdistinct : ∀ a ∈ m₁.getAllReplicas, ∀ b ∈ m₁.getAllReplicas,
      replicaHash a = replicaHash b → a = b)
    (hview : m₁.SameView m₂) (ns name : String) :
    getEpaOwner m₁ ns name = getEpaOwner m₂ ns name ∧
      getPreviousEpaOwner m₁ ns name = getPreviousEpaOwner m₂ ns name := by
  have hweights := (distinctWeights_iff m₁ ns name).2 hdistinct
  exact ⟨getEpaOwner_congr hweights hview, getPreviousEpaOwner_congr hweights hview⟩

end ExternalPodAutoscaler.Membership
