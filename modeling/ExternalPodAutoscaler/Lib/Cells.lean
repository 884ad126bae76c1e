/-
Cells that are addressed by their numbers.

A list of cells that only grows at its end keeps the number of every cell.  The lemmas of this file
say what a number stands for once a cell has been appended, replaced or changed: what has become of
the cell it stood for, and where the cell it stands for comes from (`getElem?_concat_cases`,
`getElem?_modify_cases`).  A sum over all cells changes with the one that is replaced
(`exists_split_set`).
-/
import Mathlib.Data.List.Basic
import Mathlib.Tactic.Common

namespace ExternalPodAutoscaler.Lib

variable {α : Type*} {cells : List α} {x y : α} {f : α → α} {i j : ℕ}

/-- The other cells keep their numbers when one is appended. -/
lemma getElem?_concat_of_some (h : cells[i]? = some x) (y : α) :
    (cells ++ [y])[i]? = some x := by
  obtain ⟨hi, -⟩ := List.getElem?_eq_some_iff.1 h
  rw [List.getElem?_append_left hi, h]

/-- Once a cell has been appended, a cell is the new one or an old one. -/
lemma getElem?_concat_cases (h : (cells ++ [y])[i]? = some x) :
    (i = cells.length ∧ x = y) ∨ i < cells.length ∧ cells[i]? = some x := by
  rcases Nat.lt_or_ge i cells.length with hi | hi
  · rw [List.getElem?_append_left hi] at h
    exact .inr ⟨hi, h⟩
  · rw [List.getElem?_append_right hi, List.getElem?_singleton] at h
    split at h
    · exact .inl ⟨by omega, (Option.some.inj h).symm⟩
    · cases h

lemma getElem?_set_of_some (h : cells[i]? = some x) (y : α) : (cells.set i y)[i]? = some y := by
  obtain ⟨hi, -⟩ := List.getElem?_eq_some_iff.1 h
  exact List.getElem?_set_self hi

lemma getElem?_modify_of_some (h : cells[i]? = some x) (f : α → α) (j : ℕ) :
    (cells.modify j f)[i]? = some (if j = i then f x else x) := by
  rw [List.getElem?_modify, h]
  rfl

/-- The cells before and after one that is replaced. -/
lemma exists_split_set (h : cells[i]? = some x) :
    ∃ before after, cells = before ++ x :: after ∧ ∀ y, cells.set i y = before ++ y :: after := by
  obtain ⟨hi, rfl⟩ := List.getElem?_eq_some_iff.1 h
  refine ⟨cells.take i, cells.drop (i + 1), ?_, fun y => ?_⟩
  · rw [List.getElem_cons_drop, List.take_append_drop]
  · rw [List.set_eq_take_append_cons_drop, if_pos hi]

/-- Once a cell has been changed, a cell is that one or an old one. -/
lemma getElem?_modify_cases (h : (cells.modify j f)[i]? = some x) :
    (i = j ∧ ∃ old, cells[j]? = some old ∧ x = f old) ∨ i ≠ j ∧ cells[i]? = some x := by
  rw [List.getElem?_modify] at h
  obtain ⟨old, hold, rfl⟩ := Option.map_eq_some_iff.1 h
  by_cases hj : j = i
  · subst hj
    exact .inl ⟨rfl, old, hold, if_pos rfl⟩
  · exact .inr ⟨Ne.symm hj, by rw [if_neg hj, hold]⟩

end ExternalPodAutoscaler.Lib
