/-
Extended numbers: the values of a floating-point type, without rounding.

A value is a number of an ordered field, one of the two infinities, or no number at all.
Comparisons are those of IEEE 754: what is no number is not comparable to anything, and the
maximum of two values ignores it.

The lemmas say when the folds of a list with `maxNum` and `minNum` from an infinity are in the list
(`foldl_maxNum_mem_iff`, `foldl_minNum_mem_iff`), and when a comparison that takes incomparable
values for equal is a total preorder on the list (`transCmp_cmpOrEqual_iff`).
-/
import Mathlib.Algebra.Field.Defs
import Mathlib.Order.Compare
import Mathlib.Order.WithBot

namespace ExternalPodAutoscaler.Lib

/-- A value of a floating-point type. -/
inductive Extended (V : Type*) where
  | nan
  | negInf
  | finite (x : V)
  | posInf
deriving DecidableEq

namespace Extended

variable {V : Type*}

/-! ### Arithmetic -/

section Arithmetic

def neg [Neg V] : Extended V → Extended V
  | nan => nan
  | negInf => posInf
  | finite x => finite (-x)
  | posInf => negInf

def add [Add V] : Extended V → Extended V → Extended V
  | nan, _ | _, nan => nan
  | negInf, posInf | posInf, negInf => nan
  | finite x, finite y => finite (x + y)
  | negInf, _ | _, negInf => negInf
  | posInf, _ | _, posInf => posInf

/-- The quotient by a positive number. -/
def divNat [Field V] (a : Extended V) (n : ℕ) : Extended V :=
  match a with
  | finite x => finite (x / n)
  | _ => a

end Arithmetic

/-! ### Comparisons -/

section Order

variable [LinearOrder V]

/-- The comparison of IEEE 754, `none` for incomparable values. -/
def partialCmp : Extended V → Extended V → Option Ordering
  | nan, _ | _, nan => none
  | negInf, negInf | posInf, posInf => some .eq
  | negInf, _ | _, posInf => some .lt
  | posInf, _ | _, negInf => some .gt
  | finite x, finite y => some (compare x y)

/-- Incomparable values are taken for equal. -/
def cmpOrEqual (a b : Extended V) : Ordering := (partialCmp a b).getD .eq

/-- The larger value; what is no number is ignored. -/
def maxNum : Extended V → Extended V → Extended V
  | nan, b => b
  | a, nan => a
  | a, b => if partialCmp a b = some .lt then b else a

/-- The smaller value; what is no number is ignored. -/
def minNum : Extended V → Extended V → Extended V
  | nan, b => b
  | a, nan => a
  | a, b => if partialCmp a b = some .gt then b else a

variable {a b : Extended V} {l : List (Extended V)}

lemma maxNum_eq_or (a b : Extended V) : maxNum a b = a ∨ maxNum a b = b := by
  unfold maxNum
  split
  · exact Or.inr rfl
  · exact Or.inl rfl
  · split
    · exact Or.inr rfl
    · exact Or.inl rfl

lemma minNum_eq_or (a b : Extended V) : minNum a b = a ∨ minNum a b = b := by
  unfold minNum
  split
  · exact Or.inr rfl
  · exact Or.inl rfl
  · split
    · exact Or.inr rfl
    · exact Or.inl rfl

lemma maxNum_negInf (hb : b ≠ nan) : maxNum negInf b = b := by
  cases b with
  | nan => exact absurd rfl hb
  | negInf => rfl
  | finite x => rfl
  | posInf => rfl

lemma minNum_posInf (hb : b ≠ nan) : minNum posInf b = b := by
  cases b with
  | nan => exact absurd rfl hb
  | negInf => rfl
  | finite x => rfl
  | posInf => rfl

omit [LinearOrder V] in
lemma finite_ne_nan {x : V} : finite x ≠ nan := nofun

/-- Finite values are compared as in the field. -/
lemma maxNum_finite (x y : V) : maxNum (finite x) (finite y) = finite (max x y) := by
  rcases lt_or_ge x y with h | h
  · simp [maxNum, partialCmp, compare_lt_iff_lt.2 h, max_eq_right h.le]
  · have hcmp : compare x y ≠ .lt := fun hlt => h.not_gt (compare_lt_iff_lt.1 hlt)
    simp [maxNum, partialCmp, hcmp, max_eq_left h]

lemma minNum_finite (x y : V) : minNum (finite x) (finite y) = finite (min x y) := by
  rcases lt_or_ge y x with h | h
  · simp [minNum, partialCmp, compare_gt_iff_gt.2 h, min_eq_right h.le]
  · have hcmp : compare x y ≠ .gt := fun hgt => h.not_gt (compare_gt_iff_gt.1 hgt)
    simp [minNum, partialCmp, hcmp, min_eq_left h]

end Order

/-! ### Folds from an infinity -/

section Folds

variable {op : Extended V → Extended V → Extended V} {e : Extended V} {l : List (Extended V)}

lemma foldl_mem (hop : ∀ a b, op a b = a ∨ op a b = b) (a : Extended V) (l : List (Extended V)) :
    l.foldl op a ∈ a :: l := by
  induction l generalizing a with
  | nil => exact List.mem_singleton.2 rfl
  | cons b l ih =>
      rw [List.foldl_cons]
      rcases hop a b with hab | hab
      · rw [hab]
        rcases List.mem_cons.1 (ih a) with h | h
        · rw [h]
          exact List.mem_cons_self
        · exact List.mem_cons_of_mem _ (List.mem_cons_of_mem _ h)
      · rw [hab]
        exact List.mem_cons_of_mem _ (ih b)

lemma foldl_eq_of_forall_nan (hnan : op e nan = e) (h : ∀ x ∈ l, x = nan) : l.foldl op e = e := by
  induction l with
  | nil => rfl
  | cons b l ih =>
      obtain ⟨rfl, hl⟩ := List.forall_mem_cons.1 h
      rw [List.foldl_cons, hnan, ih hl]

/-- A fold from a neutral element is in the list if the list has a number. -/
lemma foldl_mem_of_neutral (hop : ∀ a b, op a b = a ∨ op a b = b) (hnan : op e nan = e)
    (hneutral : ∀ b, b ≠ nan → op e b = b) (h : ∃ x ∈ l, x ≠ nan) : l.foldl op e ∈ l := by
  induction l with
  | nil => simp at h
  | cons b l ih =>
      rw [List.foldl_cons]
      by_cases hb : b = nan
      · rw [hb, hnan]
        refine List.mem_cons_of_mem _ (ih ?_)
        simpa [hb] using h
      · rw [hneutral b hb]
        exact foldl_mem hop b l

lemma foldl_mem_iff (hop : ∀ a b, op a b = a ∨ op a b = b) (he : e ≠ nan)
    (hnan : op e nan = e) (hneutral : ∀ b, b ≠ nan → op e b = b) :
    l.foldl op e ∈ l ↔ ∃ x ∈ l, x ≠ nan := by
  refine ⟨fun hmem => ?_, foldl_mem_of_neutral hop hnan hneutral⟩
  by_contra hnone
  push Not at hnone
  rw [foldl_eq_of_forall_nan hnan hnone] at hmem
  exact he (hnone e hmem)

variable [LinearOrder V]

/-- The maximum of a list is in it unless the list has no numbers. -/
lemma foldl_maxNum_mem_iff : l.foldl maxNum negInf ∈ l ↔ ∃ x ∈ l, x ≠ nan :=
  foldl_mem_iff maxNum_eq_or (by simp) rfl fun _ => maxNum_negInf

lemma foldl_minNum_mem_iff : l.foldl minNum posInf ∈ l ↔ ∃ x ∈ l, x ≠ nan :=
  foldl_mem_iff minNum_eq_or (by simp) rfl fun _ => minNum_posInf

omit [LinearOrder V] in
/-- On finite values a fold is that of the field. -/
lemma foldl_map_finite {f : V → V → V} (hop : ∀ x y, op (finite x) (finite y) = finite (f x y))
    (x : V) (l : List V) : (l.map finite).foldl op (finite x) = finite (l.foldl f x) := by
  induction l generalizing x with
  | nil => rfl
  | cons y l ih => rw [List.map_cons, List.foldl_cons, hop, ih, List.foldl_cons]

end Folds

/-! ### Total preorders -/

section Preorder

variable [LinearOrder V] {a b : Extended V} {l : List (Extended V)}

/-- The place of a number in the order. -/
def place : Extended V → WithBot (WithTop V)
  | nan | negInf => ⊥
  | finite x => ((x : WithTop V) : WithBot (WithTop V))
  | posInf => ((⊤ : WithTop V) : WithBot (WithTop V))

lemma place_injective (ha : a ≠ nan) (hb : b ≠ nan) (h : place a = place b) : a = b := by
  cases a <;> cases b <;> simp_all [place]

lemma compare_eq_of_lt_iff {α β : Type*} [LinearOrder α] [LinearOrder β] {x y : α} {x' y' : β}
    (hlt : x < y ↔ x' < y') (hgt : y < x ↔ y' < x') : compare x y = compare x' y' := by
  rcases lt_trichotomy x y with h | h | h
  · rw [compare_lt_iff_lt.2 h, compare_lt_iff_lt.2 (hlt.1 h)]
  · have h' : x' = y' := le_antisymm (not_lt.1 fun h' => (hgt.2 h').ne h.symm)
      (not_lt.1 fun h' => (hlt.2 h').ne h)
    rw [compare_eq_iff_eq.2 h, compare_eq_iff_eq.2 h']
  · rw [compare_gt_iff_gt.2 h, compare_gt_iff_gt.2 (hgt.1 h)]

/-- Numbers are compared by their places. -/
lemma cmpOrEqual_eq_compare (ha : a ≠ nan) (hb : b ≠ nan) :
    cmpOrEqual a b = compare (place a) (place b) := by
  cases a with
  | nan => exact absurd rfl ha
  | negInf =>
      cases b with
      | nan => exact absurd rfl hb
      | negInf => exact (compare_eq_iff_eq.2 rfl).symm
      | finite y => exact (compare_lt_iff_lt.2 (WithBot.bot_lt_coe _)).symm
      | posInf => exact (compare_lt_iff_lt.2 (WithBot.bot_lt_coe _)).symm
  | finite x =>
      cases b with
      | nan => exact absurd rfl hb
      | negInf => exact (compare_gt_iff_gt.2 (WithBot.bot_lt_coe _)).symm
      | finite y => exact compare_eq_of_lt_iff (by simp [place]) (by simp [place])
      | posInf => exact (compare_lt_iff_lt.2 (WithBot.coe_lt_coe.2 (WithTop.coe_lt_top x))).symm
  | posInf =>
      cases b with
      | nan => exact absurd rfl hb
      | negInf => exact (compare_gt_iff_gt.2 (WithBot.bot_lt_coe _)).symm
      | finite y => exact (compare_gt_iff_gt.2 (WithBot.coe_lt_coe.2 (WithTop.coe_lt_top y))).symm
      | posInf => exact (compare_eq_iff_eq.2 rfl).symm

lemma isLE_cmpOrEqual_iff (ha : a ≠ nan) (hb : b ≠ nan) :
    (cmpOrEqual a b).isLE = true ↔ place a ≤ place b := by
  rw [cmpOrEqual_eq_compare ha hb, Ordering.isLE_iff_ne_gt]
  exact compare_le_iff_le

@[simp] lemma cmpOrEqual_nan_left (b : Extended V) : cmpOrEqual nan b = .eq := rfl

@[simp] lemma cmpOrEqual_nan_right (a : Extended V) : cmpOrEqual a nan = .eq := by
  cases a <;> rfl

lemma cmpOrEqual_self (a : Extended V) : cmpOrEqual a a = .eq := by
  by_cases ha : a = nan
  · rw [ha, cmpOrEqual_nan_left]
  · rw [cmpOrEqual_eq_compare ha ha, compare_eq_iff_eq]

lemma cmpOrEqual_swap (a b : Extended V) : cmpOrEqual a b = (cmpOrEqual b a).swap := by
  by_cases ha : a = nan
  · rw [ha, cmpOrEqual_nan_left, cmpOrEqual_nan_right]
    rfl
  · by_cases hb : b = nan
    · rw [hb, cmpOrEqual_nan_left, cmpOrEqual_nan_right]
      rfl
    · rw [cmpOrEqual_eq_compare ha hb, cmpOrEqual_eq_compare hb ha]
      exact Std.OrientedOrd.eq_swap

/-- **Total preorders.** The comparison that takes incomparable values for equal is a total
preorder on a list exactly if the list has only numbers, or else at most one number. -/
theorem transCmp_cmpOrEqual_iff :
    Std.TransCmp (fun a b : {x // x ∈ l} => cmpOrEqual a.1 b.1) ↔
      (nan ∈ l → ∀ a ∈ l, ∀ b ∈ l, a ≠ nan → b ≠ nan → a = b) := by
  constructor
  · intro htrans hnan a ha b hb hane hbne
    -- what is no number is between any two values, in both directions
    have hbetween : ∀ x (hx : x ∈ l) y (hy : y ∈ l), (cmpOrEqual x y).isLE := by
      intro x hx y hy
      exact htrans.isLE_trans (a := ⟨x, hx⟩) (b := ⟨nan, hnan⟩) (c := ⟨y, hy⟩) (by simp) (by simp)
    have hab := hbetween a ha b hb
    have hba := hbetween b hb a ha
    rw [isLE_cmpOrEqual_iff hane hbne] at hab
    rw [isLE_cmpOrEqual_iff hbne hane] at hba
    exact place_injective hane hbne (le_antisymm hab hba)
  · intro h
    refine { eq_swap := fun {a b} => cmpOrEqual_swap a.1 b.1, isLE_trans := ?_ }
    rintro ⟨a, ha⟩ ⟨b, hb⟩ ⟨c, hc⟩ hab hbc
    by_cases hnan : nan ∈ l
    · by_cases hane : a = nan
      · simp [hane]
      · by_cases hcne : c = nan
        · simp [hcne]
        · obtain rfl := h hnan a ha c hc hane hcne
          simp [cmpOrEqual_self]
    · have hne : ∀ x ∈ l, x ≠ nan := fun x hx heq => hnan (heq ▸ hx)
      rw [isLE_cmpOrEqual_iff (hne a ha) (hne b hb)] at hab
      rw [isLE_cmpOrEqual_iff (hne b hb) (hne c hc)] at hbc
      rw [isLE_cmpOrEqual_iff (hne a ha) (hne c hc)]
      exact hab.trans hbc

end Preorder

end Extended

end ExternalPodAutoscaler.Lib
