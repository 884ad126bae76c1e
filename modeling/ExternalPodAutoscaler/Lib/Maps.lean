/-
Finite maps and operations that change all their entries at once.

A finite map is an `AList`.  `lookup_insert_eq_some_iff` and `lookup_erase_eq_some_iff` say
which entries a map has after a change of one of them, and `lookup_foldl_erase` after several
erasures.  `retain` keeps the entries whose keys meet a condition and `mapValues` changes every
value; `lookup_retain` and `lookup_mapValues` say what they do to the entry of one key.  A map
`Lacks` the keys with a property if it has no entry for any of them.  A map that is listed by
its entries is cut at the entry of one key by `exists_eq_takeWhile_append`.
-/
import Mathlib.Data.List.AList

namespace ExternalPodAutoscaler.Lib

variable {K W W' : Type} [DecidableEq K]

/-- The entries of a map after an insertion. -/
lemma lookup_insert_eq_some_iff {s : AList fun _ : K => W} {k k' : K} {w w' : W} :
    (s.insert k w).lookup k' = some w' ↔
      k' = k ∧ w' = w ∨ k' ≠ k ∧ s.lookup k' = some w' := by
  by_cases hk : k' = k
  · subst hk
    rw [AList.lookup_insert, Option.some.injEq]
    simp [eq_comm]
  · rw [AList.lookup_insert_ne hk]
    simp [hk]

/-- The entries of a map after an erasure. -/
lemma lookup_erase_eq_some_iff {s : AList fun _ : K => W} {k k' : K} {w' : W} :
    (s.erase k).lookup k' = some w' ↔ k' ≠ k ∧ s.lookup k' = some w' := by
  by_cases hk : k' = k
  · subst hk
    simp
  · rw [AList.lookup_erase_ne hk]
    simp [hk]

/-- The entries whose keys meet a condition. -/
def retain (p : K → Bool) (s : AList fun _ : K => W) : AList fun _ : K => W :=
  ⟨s.entries.filter fun entry => p entry.1, s.nodupKeys.sublist List.filter_sublist⟩

lemma lookup_retain (p : K → Bool) (s : AList fun _ : K => W) (k : K) :
    (retain p s).lookup k = if p k = true then s.lookup k else none := by
  ext w
  rw [← Option.mem_def, AList.mem_lookup_iff]
  by_cases hp : p k = true
  · rw [if_pos hp, ← Option.mem_def, AList.mem_lookup_iff]
    simp [retain, hp]
  · simp [retain, hp]

lemma mem_retain {p : K → Bool} {s : AList fun _ : K => W} {k : K} :
    k ∈ retain p s ↔ p k = true ∧ k ∈ s := by
  rw [← AList.lookup_isSome, lookup_retain, ← AList.lookup_isSome]
  by_cases hp : p k = true
  · simp [hp]
  · simp [hp]

/-- The entries after several erasures. -/
lemma lookup_foldl_erase (ks : List K) (s : AList fun _ : K => W) (k : K) :
    (ks.foldl (fun s k => s.erase k) s).lookup k = if k ∈ ks then none else s.lookup k := by
  induction ks generalizing s with
  | nil => simp
  | cons k' ks ih =>
      rw [List.foldl_cons, ih]
      by_cases hk : k = k'
      · subst hk
        simp
      · simp [hk, AList.lookup_erase_ne hk]

lemma mem_foldl_erase {ks : List K} {s : AList fun _ : K => W} {k : K} :
    k ∈ ks.foldl (fun s k => s.erase k) s ↔ k ∉ ks ∧ k ∈ s := by
  rw [← AList.lookup_isSome, lookup_foldl_erase, ← AList.lookup_isSome]
  by_cases hk : k ∈ ks
  · simp [hk]
  · simp [hk]

omit [DecidableEq K] in
lemma keys_mapEntries (f : W → W') (l : List (Sigma fun _ : K => W)) :
    (l.map fun entry => (⟨entry.1, f entry.2⟩ : Sigma fun _ : K => W')).keys = l.keys := by
  simp [List.keys, Function.comp_def]

/-- The map with every value changed. -/
def mapValues (f : W → W') (s : AList fun _ : K => W) : AList fun _ : K => W' :=
  ⟨s.entries.map fun entry => ⟨entry.1, f entry.2⟩, by
    rw [List.NodupKeys, keys_mapEntries]
    exact s.nodupKeys⟩

lemma lookup_mapValues (f : W → W') (s : AList fun _ : K => W) (k : K) :
    (mapValues f s).lookup k = (s.lookup k).map f := by
  ext w
  rw [← Option.mem_def, AList.mem_lookup_iff, Option.map_eq_some_iff]
  simp only [mapValues, List.mem_map, Sigma.mk.injEq]
  constructor
  · rintro ⟨⟨k', w'⟩, hmem, rfl, heq⟩
    exact ⟨w', Option.mem_def.1 (AList.mem_lookup_iff.2 hmem), eq_of_heq heq⟩
  · rintro ⟨w', hw', rfl⟩
    exact ⟨⟨k, w'⟩, AList.mem_lookup_iff.1 hw', rfl, HEq.rfl⟩

/-- The map has no entry whose key has the property. -/
def Lacks (p : K → Prop) (s : AList fun _ : K => W) : Prop :=
  ∀ k w, s.lookup k = some w → ¬ p k

namespace Lacks

variable {p : K → Prop} {s : AList fun _ : K => W} {k : K}

lemma not_mem (h : Lacks p s) (hp : p k) : k ∉ s := by
  intro hk
  obtain ⟨w, hw⟩ := Option.isSome_iff_exists.1 (AList.lookup_isSome.2 hk)
  exact h k w hw hp

lemma insert (h : Lacks p s) (hp : ¬ p k) (w : W) : Lacks p (s.insert k w) := by
  intro k' w' hw'
  rcases lookup_insert_eq_some_iff.1 hw' with ⟨rfl, -⟩ | ⟨-, hw'⟩
  · exact hp
  · exact h k' w' hw'

/-- What a map with one more entry lacks, the map lacks. -/
lemma of_insert {w : W} (h : Lacks p (s.insert k w)) : Lacks p s := by
  intro k' w' hw'
  by_cases hk : k' = k
  · subst hk
    exact h k' w (AList.lookup_insert s)
  · exact h k' w' ((AList.lookup_insert_ne hk).trans hw')

lemma erase (h : Lacks p s) (k : K) : Lacks p (s.erase k) := fun k' w' hw' =>
  h k' w' (lookup_erase_eq_some_iff.1 hw').2

lemma foldl_erase (h : Lacks p s) (ks : List K) :
    Lacks p (ks.foldl (fun s k => s.erase k) s) := by
  intro k w hw
  rw [lookup_foldl_erase] at hw
  split at hw
  · cases hw
  · exact h k w hw

lemma erase_self (s : AList fun _ : K => W) (k : K) : Lacks (· = k) (s.erase k) :=
  fun _ _ hw' => (lookup_erase_eq_some_iff.1 hw').1

lemma retain (h : Lacks p s) (q : K → Bool) : Lacks p (retain q s) := by
  intro k' w' hw'
  rw [lookup_retain] at hw'
  split at hw'
  · exact h k' w' hw'
  · cases hw'

lemma retain_of_imp {q : K → Bool} (hq : ∀ k, q k = true → ¬ p k) (s : AList fun _ : K => W) :
    Lacks p (Lib.retain q s) := by
  intro k' w' hw'
  rw [lookup_retain] at hw'
  split at hw'
  · exact hq k' ‹_›
  · cases hw'

end Lacks

/-- The entries before the one of a key, that entry, and those after it. -/
lemma exists_eq_takeWhile_append {l : List (K × W)} {k : K} {w : W}
    (hnodup : (l.map Prod.fst).Nodup) (hmem : (k, w) ∈ l) :
    ∃ after, l = (l.takeWhile fun entry => entry.1 ≠ k) ++ (k, w) :: after ∧
      k ∉ (l.takeWhile fun entry => entry.1 ≠ k).map Prod.fst ∧ k ∉ after.map Prod.fst := by
  induction l with
  | nil => cases hmem
  | cons entry l ih =>
      rw [List.map_cons, List.nodup_cons] at hnodup
      by_cases hk : entry.1 = k
      · subst hk
        rcases List.mem_cons.1 hmem with hmem | hmem
        · exact ⟨l, by simp [hmem], by simp, hnodup.1⟩
        · exact absurd (List.mem_map.2 ⟨_, hmem, rfl⟩) hnodup.1
      · have hl : (k, w) ∈ l := by
          rcases List.mem_cons.1 hmem with hmem | hmem
          · exact absurd (congrArg Prod.fst hmem).symm hk
          · exact hmem
        obtain ⟨after, hsplit, hbefore, hafter⟩ := ih hnodup.2 hl
        refine ⟨after, ?_, ?_, hafter⟩
        · rw [List.takeWhile_cons_of_pos (by simpa using hk), List.cons_append, ← hsplit]
        · rw [List.takeWhile_cons_of_pos (by simpa using hk), List.map_cons, List.mem_cons, not_or]
          exact ⟨Ne.symm hk, hbefore⟩

end ExternalPodAutoscaler.Lib
