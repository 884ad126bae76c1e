/-
Cutting lists at separators.

`splitOnce` and `rsplitOnce` cut a list at the first or at the last occurrence of a
separator, `words` gives the non-empty pieces between the elements that meet a condition, and
`dropEnds` drops such elements at both ends.  The lemmas say from which lists a given cut comes
(`splitOnce_eq_some_iff`, `rsplitOnce_eq_some_iff`), that the words of two parts that are
separated are the words of each (`words_append_cons`), and that dropping the ends undoes
appending them (`dropEnds_append`).  Where elements weigh something, `sum_splitOnP` weighs the
pieces of a list, and `eq_of_sublist_of_sum_le` says that a part of a list that weighs as much as
the list is all of it.
-/
import Mathlib.Algebra.GroupWithZero.Nat
import Mathlib.Algebra.Order.BigOperators.Group.List
import Mathlib.Algebra.Order.Group.Nat
import Mathlib.Data.List.DropRight
import Mathlib.Data.List.TakeWhile
import Mathlib.Tactic.Common

namespace ExternalPodAutoscaler.Lib

variable {α : Type*}

section Once

variable [DecidableEq α]

/-- The parts before and after the first occurrence of `c`. -/
def splitOnce (c : α) : List α → Option (List α × List α)
  | [] => none
  | x :: s => if x = c then some ([], s) else (splitOnce c s).map fun (a, b) => (x :: a, b)

/-- The parts before and after the last occurrence of `c`. -/
def rsplitOnce (c : α) (s : List α) : Option (List α × List α) :=
  (splitOnce c s.reverse).map fun (a, b) => (b.reverse, a.reverse)

variable {c : α} {s a b : List α}

lemma splitOnce_eq_some_iff : splitOnce c s = some (a, b) ↔ s = a ++ c :: b ∧ c ∉ a := by
  induction s generalizing a with
  | nil => simp [splitOnce]
  | cons x s ih =>
      by_cases hx : x = c
      · subst hx
        rcases a with _ | ⟨y, a⟩
        · simp [splitOnce, eq_comm]
        · simp only [splitOnce, if_true, Option.some.injEq, Prod.mk.injEq, List.cons_append,
            List.cons.injEq, List.mem_cons, not_or, reduceCtorEq, false_and, false_iff, not_and]
          rintro ⟨rfl, -⟩ hne
          exact absurd rfl hne
      · rcases a with _ | ⟨y, a⟩
        · have hnil : ∀ p : List α × List α, ((x :: p.1, p.2) : List α × List α) ≠ ([], b) := by
            rintro p ⟨⟩
          simp [splitOnce, hx]
        · have hcx : c ≠ x := Ne.symm hx
          have hmap : (splitOnce c s).map (fun p => (x :: p.1, p.2)) = some (y :: a, b) ↔
              x = y ∧ splitOnce c s = some (a, b) := by
            rcases splitOnce c s with _ | ⟨a', b'⟩ <;> simp [and_assoc]
          have hcons : x :: s = (y :: a) ++ c :: b ∧ c ∉ y :: a ↔
              x = y ∧ s = a ++ c :: b ∧ c ∉ a := by
            constructor
            · rintro ⟨heq, hmem⟩
              obtain ⟨rfl, rfl⟩ := List.cons.inj heq
              exact ⟨rfl, rfl, fun h => hmem (List.mem_cons_of_mem _ h)⟩
            · rintro ⟨rfl, rfl, hmem⟩
              exact ⟨rfl, by simp [hcx, hmem]⟩
          rw [splitOnce, if_neg hx, hcons, ← ih]
          exact hmap

lemma splitOnce_eq_none_iff : splitOnce c s = none ↔ c ∉ s := by
  induction s with
  | nil => simp [splitOnce]
  | cons x s ih =>
      by_cases hx : x = c
      · simp [splitOnce, hx]
      · simp [splitOnce, hx, ih, Ne.symm hx]

lemma rsplitOnce_eq_some_iff : rsplitOnce c s = some (a, b) ↔ s = a ++ c :: b ∧ c ∉ b := by
  have hrev : rsplitOnce c s = some (a, b) ↔
      splitOnce c s.reverse = some (b.reverse, a.reverse) := by
    rw [rsplitOnce]
    rcases splitOnce c s.reverse with _ | ⟨a', b'⟩
    · simp
    · simp only [Option.map_some, Option.some.injEq, Prod.mk.injEq, List.reverse_eq_iff]
      exact and_comm
  rw [hrev, splitOnce_eq_some_iff, List.reverse_eq_iff]
  simp

lemma rsplitOnce_eq_none_iff : rsplitOnce c s = none ↔ c ∉ s := by
  rw [rsplitOnce, Option.map_eq_none_iff, splitOnce_eq_none_iff, List.mem_reverse]

end Once

section Prefix

variable {p : α → Bool} {a b : List α}

/-- The longest prefix that meets `p` ends where the first other element stands. -/
lemma takeWhile_append_eq (ha : ∀ x ∈ a, p x = true) (hb : ∀ x ∈ b.head?, p x = false) :
    (a ++ b).takeWhile p = a := by
  rw [List.takeWhile_append_of_pos ha]
  rcases b with _ | ⟨x, b⟩
  · simp
  · rw [List.takeWhile_cons_of_neg (by simp [hb x rfl]), List.append_nil]

lemma dropWhile_append_eq (ha : ∀ x ∈ a, p x = true) (hb : ∀ x ∈ b.head?, p x = false) :
    (a ++ b).dropWhile p = b := by
  rw [List.dropWhile_append_of_pos ha]
  rcases b with _ | ⟨x, b⟩
  · rfl
  · rw [List.dropWhile_cons_of_neg (by simp [hb x rfl])]

end Prefix

section Words

/-- The non-empty pieces between the elements that meet `p`. -/
def words (p : α → Bool) (s : List α) : List (List α) :=
  (s.splitOnP p).filter fun word => !word.isEmpty

variable {p : α → Bool} {s t : List α} {c : α}

lemma words_append_cons (hc : p c = true) : words p (s ++ c :: t) = words p s ++ words p t := by
  rw [words, List.splitOnP_append_cons s t hc, List.filter_append]
  rfl

/-- A list without separators is a single word. -/
lemma words_eq_singleton (hne : s ≠ []) (h : ∀ x ∈ s, p x = false) : words p s = [s] := by
  rw [words, List.splitOnP_eq_singleton h]
  simp [hne]

/-- A list with an element that is no separator has a word. -/
lemma words_ne_nil {x : α} (hx : x ∈ s) (hp : p x = false) : words p s ≠ [] := by
  induction s with
  | nil => simp at hx
  | cons y s ih =>
      rw [words, List.splitOnP_cons_eq_if_modifyHead]
      split
      · rename_i hy
        rcases List.mem_cons.1 hx with rfl | hx
        · exact absurd hy (by simp [hp])
        · exact ih hx
      · obtain ⟨first, rest, hsplit⟩ := List.exists_cons_of_ne_nil (List.splitOnP_ne_nil p s)
        simp [hsplit]

lemma of_mem_splitOnP {piece : List α} (h : piece ∈ s.splitOnP p) :
    ∀ x ∈ piece, p x = false ∧ x ∈ s := by
  induction s generalizing piece with
  | nil =>
      rw [List.splitOnP_nil, List.mem_singleton] at h
      simp [h]
  | cons y s ih =>
      rw [List.splitOnP_cons_eq_if_modifyHead] at h
      split at h
      · rcases List.mem_cons.1 h with rfl | h
        · simp
        · exact fun x hx => ⟨(ih h x hx).1, List.mem_cons_of_mem _ (ih h x hx).2⟩
      · rename_i hy
        obtain ⟨first, rest, hsplit⟩ := List.exists_cons_of_ne_nil (List.splitOnP_ne_nil p s)
        rw [hsplit, List.modifyHead_cons] at h
        rw [hsplit] at ih
        rcases List.mem_cons.1 h with rfl | h
        · intro x hx
          rcases List.mem_cons.1 hx with rfl | hx
          · exact ⟨Bool.eq_false_iff.2 hy, List.mem_cons_self⟩
          · have hfirst := ih List.mem_cons_self x hx
            exact ⟨hfirst.1, List.mem_cons_of_mem _ hfirst.2⟩
        · have hrest := ih (List.mem_cons_of_mem _ h)
          exact fun x hx => ⟨(hrest x hx).1, List.mem_cons_of_mem _ (hrest x hx).2⟩

lemma of_mem_intercalate {pieces : List (List α)} {x : α} (h : x ∈ [c].intercalate pieces) :
    x = c ∨ ∃ piece ∈ pieces, x ∈ piece := by
  induction pieces with
  | nil => simp at h
  | cons piece pieces ih =>
      rcases pieces with _ | ⟨next, pieces⟩
      · exact Or.inr ⟨piece, List.mem_cons_self, by simpa using h⟩
      · rw [List.intercalate_cons_cons, List.append_assoc, List.mem_append, List.mem_append,
          List.mem_singleton] at h
        rcases h with h | h | h
        · exact Or.inr ⟨piece, List.mem_cons_self, h⟩
        · exact Or.inl h
        · rcases ih h with h | ⟨piece', hpiece, hx⟩
          · exact Or.inl h
          · exact Or.inr ⟨piece', List.mem_cons_of_mem _ hpiece, hx⟩

lemma of_mem_words {word : List α} (h : word ∈ words p s) : ∀ x ∈ word, p x = false ∧ x ∈ s :=
  of_mem_splitOnP (List.mem_filter.1 h).1

lemma splitOnP_eq_singleton_iff : s.splitOnP p = [t] ↔ s = t ∧ ∀ x ∈ s, p x = false := by
  refine ⟨fun h => ?_, fun h => h.1 ▸ List.splitOnP_eq_singleton h.2⟩
  induction s generalizing t with
  | nil => simpa using h
  | cons x s ih =>
      rw [List.splitOnP_cons_eq_if_modifyHead] at h
      obtain ⟨first, rest, hsplit⟩ := List.exists_cons_of_ne_nil (List.splitOnP_ne_nil p s)
      split at h
      · rw [hsplit] at h
        cases h
      · rename_i hx
        rw [hsplit, List.modifyHead_cons, List.cons.injEq] at h
        obtain ⟨rfl, rfl⟩ := h
        obtain ⟨rfl, hs⟩ := ih hsplit
        exact ⟨rfl, List.forall_mem_cons.2 ⟨Bool.eq_false_iff.2 hx, hs⟩⟩

/-- Elements that are no separators can be dropped before or after cutting. -/
lemma splitOnP_filter {q : α → Bool} (hpq : ∀ x, p x = true → q x = true) (s : List α) :
    (s.filter q).splitOnP p = (s.splitOnP p).map (List.filter q) := by
  induction s with
  | nil => rfl
  | cons x s ih =>
      obtain ⟨first, rest, hsplit⟩ := List.exists_cons_of_ne_nil (List.splitOnP_ne_nil p s)
      rw [List.splitOnP_cons_eq_if_modifyHead]
      by_cases hq : q x = true
      · rw [List.filter_cons_of_pos hq, List.splitOnP_cons_eq_if_modifyHead, ih, hsplit]
        by_cases hp : p x = true
        · simp [hp]
        · simp [hp, hq]
      · have hp : ¬ p x = true := fun hp => hq (hpq x hp)
        rw [List.filter_cons_of_neg hq, ih, hsplit]
        simp [hp, hq]

end Words

section Weights

variable {w : α → ℕ} {p : α → Bool} {s t : List α}

lemma sum_map_le_of_sublist (h : s.Sublist t) : (s.map w).sum ≤ (t.map w).sum :=
  (h.map w).sum_le_sum fun _ _ => Nat.zero_le _

/-- Where every element weighs something, a part that weighs as much as the whole is the whole. -/
lemma eq_of_sublist_of_sum_le (hw : ∀ x, 0 < w x) (h : s.Sublist t)
    (hle : (t.map w).sum ≤ (s.map w).sum) : s = t := by
  induction h with
  | slnil => rfl
  | @cons s t x h ih =>
      have hpos := hw x
      have hsub : (s.map w).sum ≤ (t.map w).sum := sum_map_le_of_sublist h
      rw [List.map_cons, List.sum_cons] at hle
      omega
  | cons_cons x h ih =>
      rw [List.map_cons, List.map_cons, List.sum_cons, List.sum_cons] at hle
      rw [ih (by omega)]

/-- The end of a part of two lists is a part of the second if the rest has room for the first. -/
lemma sublist_of_append_sublist {a b x y : List α} (h : (x ++ y).Sublist (a ++ b))
    (hlen : a.length ≤ x.length) : y.Sublist b := by
  obtain ⟨l, r, heq, hl, hr⟩ := List.sublist_append_iff.1 h
  have hle := hl.length_le
  have hnil : l.drop x.length = [] := List.drop_eq_nil_of_le (by omega)
  have hdrop : y = r.drop (x.length - l.length) :=
    calc y = (x ++ y).drop x.length := List.drop_left.symm
      _ = r.drop (x.length - l.length) := by rw [heq, List.drop_append, hnil, List.nil_append]
  rw [hdrop]
  exact (List.drop_sublist _ r).trans hr

/-- Together with one separator for each, the pieces weigh what the list weighs, and one more. -/
lemma sum_splitOnP (hw : ∀ x, p x = true → w x = 1) (s : List α) :
    ((s.splitOnP p).map fun piece => (piece.map w).sum + 1).sum = (s.map w).sum + 1 := by
  induction s with
  | nil => rfl
  | cons x s ih =>
      rw [List.splitOnP_cons_eq_if_modifyHead]
      split
      · rename_i hx
        rw [List.map_cons, List.sum_cons, ih, List.map_cons, List.sum_cons, hw x hx]
        simp only [List.map_nil, List.sum_nil]
        omega
      · obtain ⟨first, rest, hsplit⟩ := List.exists_cons_of_ne_nil (List.splitOnP_ne_nil p s)
        rw [hsplit] at ih ⊢
        simp only [List.modifyHead_cons, List.map_cons, List.sum_cons] at ih ⊢
        omega

end Weights

section Ends

/-- Drops the elements that meet `p` at both ends. -/
def dropEnds (p : α → Bool) (s : List α) : List α :=
  ((s.dropWhile p).reverse.dropWhile p).reverse

variable {p : α → Bool} {s before after : List α}

lemma dropWhile_eq_self (h : ∀ x, s.head? = some x → p x = false) : s.dropWhile p = s := by
  cases s with
  | nil => rfl
  | cons x s => simp [h x rfl]

/-- The ends are dropped up to the first and the last element that does not meet `p`. -/
lemma dropEnds_append (hbefore : ∀ x ∈ before, p x = true) (hafter : ∀ x ∈ after, p x = true)
    (hhead : ∀ x, s.head? = some x → p x = false)
    (hlast : ∀ x, s.getLast? = some x → p x = false) :
    dropEnds p (before ++ s ++ after) = s := by
  rw [dropEnds, List.append_assoc, List.dropWhile_append_of_pos hbefore, List.dropWhile_append,
    dropWhile_eq_self hhead]
  split
  · rename_i hempty
    rw [List.isEmpty_iff.1 hempty, List.dropWhile_eq_nil_iff.2 hafter]
    rfl
  · have hafter' : ∀ x ∈ after.reverse, p x = true := fun x hx => hafter x (List.mem_reverse.1 hx)
    have hlast' : ∀ x, s.reverse.head? = some x → p x = false := by
      intro x hx
      rw [List.head?_reverse] at hx
      exact hlast x hx
    rw [List.reverse_append, List.dropWhile_append_of_pos hafter', dropWhile_eq_self hlast',
      List.reverse_reverse]

lemma dropEnds_eq_self (hhead : ∀ x, s.head? = some x → p x = false)
    (hlast : ∀ x, s.getLast? = some x → p x = false) : dropEnds p s = s := by
  have hends := dropEnds_append (List.forall_mem_nil _) (List.forall_mem_nil _) hhead hlast
  rwa [List.nil_append, List.append_nil] at hends

/-- Nothing is dropped before an element that does not meet `p`. -/
lemma rdropWhile_append (hlast : ∀ x, s.getLast? = some x → p x = false) (t : List α) :
    (s ++ t).rdropWhile p = s ++ t.rdropWhile p := by
  have hback : s.reverse.dropWhile p = s.reverse := by
    refine dropWhile_eq_self fun x hx => hlast x ?_
    rwa [List.head?_reverse] at hx
  rw [List.rdropWhile, List.rdropWhile, List.reverse_append, List.dropWhile_append]
  split
  · rename_i hempty
    rw [List.isEmpty_iff.1 hempty, hback, List.reverse_reverse, List.reverse_nil, List.append_nil]
  · rw [List.reverse_append, List.reverse_reverse]

lemma dropEnds_append_right (hne : s ≠ []) (hhead : ∀ x, s.head? = some x → p x = false)
    (hlast : ∀ x, s.getLast? = some x → p x = false) (t : List α) :
    dropEnds p (s ++ t) = s ++ t.rdropWhile p := by
  have hfront : (s ++ t).dropWhile p = s ++ t := by
    refine dropWhile_eq_self fun x hx => hhead x ?_
    rwa [List.head?_append_of_ne_nil _ hne] at hx
  rw [dropEnds, hfront]
  exact rdropWhile_append hlast t

/-- Only elements that meet `p` are dropped. -/
lemma exists_eq_append_dropEnds (p : α → Bool) (s : List α) : ∃ before after,
    (∀ x ∈ before, p x = true) ∧ (∀ x ∈ after, p x = true) ∧
      s = before ++ dropEnds p s ++ after := by
  refine ⟨s.takeWhile p, ((s.dropWhile p).reverse.takeWhile p).reverse, ?_, ?_, ?_⟩
  · exact fun x hx => List.mem_takeWhile_imp hx
  · exact fun x hx => List.mem_takeWhile_imp (List.mem_reverse.1 hx)
  · rw [dropEnds, List.append_assoc, ← List.reverse_append, List.takeWhile_append_dropWhile,
      List.reverse_reverse, List.takeWhile_append_dropWhile]

lemma mem_of_mem_dropEnds {x : α} (h : x ∈ dropEnds p s) : x ∈ s := by
  obtain ⟨before, after, -, -, hs⟩ := exists_eq_append_dropEnds p s
  rw [hs]
  exact List.mem_append_left _ (List.mem_append_right _ h)

end Ends

end ExternalPodAutoscaler.Lib
