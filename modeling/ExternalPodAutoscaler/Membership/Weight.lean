/-
Rendezvous weights (`membership/ownership.rs`, `compute_weight`).

A replica's weight for an EPA is the 64-bit FNV-1a hash of the replica ID followed by the
EPA key.  Hashing a string feeds its bytes and then the byte `0xff`.
-/
import Mathlib.Data.Nat.Notation
import Mathlib.Tactic.Lemma

namespace ExternalPodAutoscaler.Membership

/-- The key of an EPA: its namespace and name. -/
def epaKey (ns name : String) : String := s!"{ns}/{name}"

lemma epaKey_toList (ns name : String) :
    (epaKey ns name).toList = ns.toList ++ '/' :: name.toList := by
  show (ns ++ "/" ++ name).toList = _
  rw [String.toList_append, String.toList_append, List.append_assoc]
  rfl

/-- The state of a fresh `FnvHasher`. -/
def fnvOffsetBasis : UInt64 := 0xcbf29ce484222325

/-- The FNV prime for 64-bit hashes. -/
def fnvPrime : UInt64 := 0x100000001b3

/-- `FnvHasher::write`: each byte is xored into the state, which is then multiplied by the
prime. -/
def fnvWrite (hasher : UInt64) (bytes : List UInt8) : UInt64 :=
  bytes.foldl (fun h b => (h ^^^ b.toUInt64) * fnvPrime) hasher

/-- `Hash for str`. -/
def hashStr (hasher : UInt64) (s : String) : UInt64 :=
  fnvWrite (fnvWrite hasher s.toUTF8.toList) [0xff]

/-- The rendezvous weight of a replica for an EPA key. -/
def computeWeight (replicaId epaKey : String) : UInt64 :=
  hashStr (hashStr fnvOffsetBasis replicaId) epaKey

/-- The weight as the number by which the election compares replicas. -/
def weight (key replicaId : String) : ℕ := (computeWeight replicaId key).toNat

end ExternalPodAutoscaler.Membership
