/-
Maps as lists of entries in the order of their keys.

`insertSorted` puts an entry into a map and `ofPairs` makes a map of any entries, so that equal maps
are equal lists (`IsSorted.eq_of_lookup`).
-/
import Mathlib.Data.List.Induction
import Mathlib.Data.List.Nodup
import Mathlib.Data.List.Sort
import Mathlib.Order.Defs.LinearOrder

namespace ExternalPodAutoscaler.Lib

variable {K W : Type} [LinearOrder K]

/-- An entry is inserted, or replaces the one of its key. -/
def insertSorted (k : K) (w : W) : List (K × W) → List (K × W)
  | [] => [(k, w)]
  | (k', w') :: m =>
    if k < k' then (k, w) :: (k', w') :: m
    else if k = k' then (k, w) :: m
    else (k', w') :: insertSorted k w m

/-- The map of some entries; a later entry replaces an earlier one. -/
def ofPairs (l : List (K × W)) : List (K × W) :=
  l.foldl (fun m entry => insertSorted entry.1 entry.2 m) []

/-- The keys are in order. -/
def IsSorted (m : List (K × W)) : Prop := m.Pairwise fun a b => a.1 < b.1

variable {k k' : K} {w : W} {m l : List (K × W)}

lemma lookup_cons_eq (k k' : K) (w : W) (m : List (K × W)) :
    ((k, w) :: m).lookup k' = if k' = k then some w else m.lookup k' := by
  by_cases hk : k' = k
  · rw [if_pos hk, hk, List.lookup_cons_self]
  · rw [if_neg hk, List.lookup_cons, beq_eq_false_iff_ne.2 hk]

lemma lookup_insertSorted (k k' : K) (w : W) (m : List (K × W)) :
    (insertSorted k w m).lookup k' = if k' = k then some w else m.lookup k' := by
  induction m with
  | nil => exact lookup_cons_eq k k' w []
  | cons entry m ih =>
      obtain ⟨k₁, w₁⟩ := entry
      simp only [insertSorted]
      split
      · exact lookup_cons_eq k k' w _
      · split
        · rename_i hk₁
          subst hk₁
          rw [lookup_cons_eq, lookup_cons_eq]
          split <;> rfl
        · rename_i hne
          rw [lookup_cons_eq, lookup_cons_eq, ih]
          by_cases hk₁ : k' = k₁
          · rw [if_pos hk₁, if_pos hk₁, if_neg (hk₁ ▸ Ne.symm hne)]
          · rw [if_neg hk₁, if_neg hk₁]

lemma mem_insertSorted {entry : K × W} (h : entry ∈ insertSorted k w m) :
    entry = (k, w) ∨ entry ∈ m := by
  induction m with
  | nil => simpa [insertSorted] using h
  | cons entry' m ih =>
      obtain ⟨k₁, w₁⟩ := entry'
      simp only [insertSorted] at h
      split at h
      · simpa using h
      · split at h
        · rcases List.mem_cons.1 h with h | h
          · exact Or.inl h
          · exact Or.inr (List.mem_cons_of_mem _ h)
        · rcases List.mem_cons.1 h with h | h
          · exact Or.inr (h ▸ List.mem_cons_self)
          · exact (ih h).imp_right (List.mem_cons_of_mem _)

lemma IsSorted.insert (h : IsSorted m) (k : K) (w : W) : IsSorted (insertSorted k w m) := by
  induction m with
  | nil => exact List.pairwise_singleton _ _
  | cons entry m ih =>
      obtain ⟨k₁, w₁⟩ := entry
      obtain ⟨hfirst, hrest⟩ := List.pairwise_cons.1 h
      simp only [insertSorted]
      split
      · rename_i hlt
        refine List.pairwise_cons.2 ⟨fun entry hentry => ?_, h⟩
        rcases List.mem_cons.1 hentry with rfl | hentry
        · exact hlt
        · exact hlt.trans (hfirst entry hentry)
      · rename_i hle
        split
        · rename_i heq
          exact List.pairwise_cons.2 ⟨heq ▸ hfirst, hrest⟩
        · rename_i hne
          refine List.pairwise_cons.2 ⟨fun entry hentry => ?_, ih hrest⟩
          rcases mem_insertSorted hentry with rfl | hentry
          · exact lt_of_le_of_ne (not_lt.1 hle) (Ne.symm hne)
          · exact hfirst entry hentry

lemma isSorted_foldl (l : List (K × W)) : ∀ m : List (K × W), IsSorted m →
    IsSorted (l.foldl (fun m entry => insertSorted entry.1 entry.2 m) m) := by
  induction l with
  | nil => exact fun m h => h
  | cons entry l ih => exact fun m h => ih _ (h.insert entry.1 entry.2)

lemma isSorted_ofPairs (l : List (K × W)) : IsSorted (ofPairs l) :=
  isSorted_foldl l [] List.Pairwise.nil

/-- An entry after all others. -/
lemma insertSorted_of_lt (h : ∀ entry ∈ m, entry.1 < k) (w : W) :
    insertSorted k w m = m ++ [(k, w)] := by
  induction m with
  | nil => rfl
  | cons entry m ih =>
      obtain ⟨k₁, w₁⟩ := entry
      have hlt : k₁ < k := h _ List.mem_cons_self
      simp only [insertSorted]
      rw [if_neg (not_lt.2 hlt.le), if_neg hlt.ne', ih fun entry hentry =>
        h entry (List.mem_cons_of_mem _ hentry)]
      rfl

/-- A map is the map of its entries. -/
lemma ofPairs_of_isSorted (h : IsSorted l) : ofPairs l = l := by
  induction l using List.reverseRecOn with
  | nil => rfl
  | append_singleton l entry ih =>
      obtain ⟨hl, -, hlast⟩ := List.pairwise_append.1 h
      rw [ofPairs, List.foldl_append, ← ofPairs, ih hl]
      exact insertSorted_of_lt (fun entry' hentry' => hlast entry' hentry' entry
        List.mem_cons_self) _

lemma mem_of_mem_ofPairs {entry : K × W} (h : entry ∈ ofPairs l) : entry ∈ l := by
  induction l using List.reverseRecOn with
  | nil => exact h
  | append_singleton l entry' ih =>
      rw [ofPairs, List.foldl_append, ← ofPairs] at h
      rcases mem_insertSorted h with rfl | h
      · exact List.mem_append_right _ List.mem_cons_self
      · exact List.mem_append_left _ (ih h)

lemma lookup_ofPairs (hnodup : (l.map Prod.fst).Nodup) (k : K) :
    (ofPairs l).lookup k = l.lookup k := by
  induction l using List.reverseRecOn with
  | nil => rfl
  | append_singleton l entry ih =>
      rw [List.map_append, List.nodup_append] at hnodup
      obtain ⟨hl, -, hlast⟩ := hnodup
      obtain ⟨k₁, w₁⟩ := entry
      rw [ofPairs, List.foldl_append, ← ofPairs, List.foldl_cons, List.foldl_nil,
        lookup_insertSorted, ih hl, List.lookup_append, lookup_cons_eq]
      by_cases hk : k = k₁
      · have hnone : l.lookup k = none := by
          rw [List.lookup_eq_none_iff]
          intro entry' hentry'
          have hne := hlast entry'.1 (List.mem_map_of_mem hentry') k₁ (by simp)
          simpa [hk] using hne.symm
        rw [if_pos hk, if_pos hk, hnone, Option.none_or]
      · rw [if_neg hk, if_neg hk, List.lookup_nil, Option.or_none]

lemma mem_of_lookup (h : m.lookup k = some w) : (k, w) ∈ m := by
  obtain ⟨l₁, l₂, rfl, -⟩ := List.lookup_eq_some_iff.1 h
  exact List.mem_append_right l₁ List.mem_cons_self

/-- Sorted maps are equal if they have the same entries. -/
lemma IsSorted.eq_of_lookup {m' : List (K × W)} (h : IsSorted m) (h' : IsSorted m')
    (hlookup : ∀ k, m.lookup k = m'.lookup k) : m = m' := by
  induction m generalizing m' with
  | nil =>
      rcases m' with _ | ⟨⟨k', w'⟩, m'⟩
      · rfl
      · have hfirst := hlookup k'
        rw [List.lookup_cons_self] at hfirst
        cases hfirst
  | cons entry m ih =>
      obtain ⟨k, w⟩ := entry
      obtain ⟨hlt, hm⟩ := List.pairwise_cons.1 h
      rcases m' with _ | ⟨⟨k', w'⟩, m'⟩
      · have hfirst := hlookup k
        rw [List.lookup_cons_self] at hfirst
        cases hfirst
      obtain ⟨hlt', hm'⟩ := List.pairwise_cons.1 h'
      -- each of the two first keys is in the other map
      have hle : k' ≤ k := by
        have hmem := mem_of_lookup ((hlookup k).symm.trans List.lookup_cons_self)
        rcases List.mem_cons.1 hmem with heq | hlater
        · exact (congrArg Prod.fst heq).ge
        · exact (hlt' _ hlater).le
      have hge : k ≤ k' := by
        have hmem := mem_of_lookup ((hlookup k').trans List.lookup_cons_self)
        rcases List.mem_cons.1 hmem with heq | hlater
        · exact (congrArg Prod.fst heq).ge
        · exact (hlt _ hlater).le
      obtain rfl := le_antisymm hge hle
      have hw := hlookup k
      rw [List.lookup_cons_self, List.lookup_cons_self] at hw
      obtain rfl := Option.some.inj hw
      have hnone : ∀ l : List (K × W), (∀ entry ∈ l, k < entry.1) → l.lookup k = none := by
        intro l hl
        rw [List.lookup_eq_none_iff]
        intro entry hentry
        simpa using (hl entry hentry).ne
      rw [ih hm hm' fun j => ?_]
      by_cases hj : j = k
      · rw [hj, hnone m hlt, hnone m' hlt']
      · have hrest := hlookup j
        rw [lookup_cons_eq, lookup_cons_eq, if_neg hj, if_neg hj] at hrest
        exact hrest

end ExternalPodAutoscaler.Lib
