/-
Target values as quantities (`validate_epa_spec` of `webhook/admission/handlers.rs` and
`build_hpa_spec` of `controller/externalpodautoscaler/reconcile.rs`).

The validating webhook takes a target value that is a float, and the controller puts it into
the autoscaler as a quantity, as it stands.  A quantity is a signed number with a suffix: a
unit, or an exponent, which may have a point.

The main result of this file is `targetValue_iff`: the check admits a target value exactly if it
is a quantity, unless the value is infinite or `NaN`, which are no quantities, or has a unit or
an exponent with a point, which are not floats.
-/
import ExternalPodAutoscaler.Controller.Hpa
import ExternalPodAutoscaler.Webhook.Admission

namespace ExternalPodAutoscaler.Webhook

open ExternalPodAutoscaler.Api ExternalPodAutoscaler.Controller ExternalPodAutoscaler.Lib

/-! ### Quantities -/

/-- `<digits>`. -/
def IsDigits (s : List Char) : Prop := s ≠ [] ∧ ∀ c ∈ s, isDigit c = true

/-- `<number>`. -/
inductive IsNumeral : List Char → Prop where
  | digits {a : List Char} (ha : IsDigits a) : IsNumeral a
  | pointBetween {a b : List Char} (ha : IsDigits a) (hb : IsDigits b) : IsNumeral (a ++ '.' :: b)
  | pointAfter {a : List Char} (ha : IsDigits a) : IsNumeral (a ++ ['.'])
  | pointBefore {b : List Char} (hb : IsDigits b) : IsNumeral ('.' :: b)

/-- `<signedNumber>`. -/
inductive IsSignedNumber : List Char → Prop where
  | unsigned {s : List Char} (h : IsNumeral s) : IsSignedNumber s
  | signed {sign : Char} {s : List Char} (hsign : sign = '+' ∨ sign = '-') (h : IsNumeral s) :
      IsSignedNumber (sign :: s)

/-- `<binarySI>`. -/
def binarySI : List String := ["Ki", "Mi", "Gi", "Ti", "Pi", "Ei"]

/-- `<decimalSI>`, without the empty suffix. -/
def decimalSI : List String := ["n", "u", "m", "k", "M", "G", "T", "P", "E"]

/-- `<suffix>`. -/
inductive IsSuffix : List Char → Prop where
  | empty : IsSuffix []
  | unit {unit : String} (h : unit ∈ binarySI ++ decimalSI) : IsSuffix unit.toList
  | decimalExponent {e : Char} {s : List Char} (he : e = 'e' ∨ e = 'E') (h : IsSignedNumber s) :
      IsSuffix (e :: s)

/-- `<quantity>`. -/
def IsQuantity (s : List Char) : Prop :=
  ∃ number suffix, s = number ++ suffix ∧ IsSignedNumber number ∧ IsSuffix suffix

/-- The quantities of the target of a metric. -/
def targetQuantities (metric : HpaMetricSpec) : List String :=
  (metric.external.map fun source =>
    source.target.value.toList ++ source.target.averageValue.toList).getD []

/-- The target value of a metric of the EPA is put into the autoscaler as it stands. -/
lemma targetQuantities_hpaMetric (ns name : String) (metric : MetricSpec) :
    targetQuantities (hpaMetric ns name metric) = [metric.targetValue] := by
  cases htype : metric.type <;> simp [targetQuantities, hpaMetric, htype]

/-! ### Numbers and what follows them -/

/-- The characters of signed numbers. -/
def isNumberChar (c : Char) : Bool := isDigit c || c == '.' || c == '+' || c == '-'

lemma isNumberChar_of_isDigit {c : Char} (h : isDigit c = true) : isNumberChar c = true := by
  simp [isNumberChar, h]

lemma IsDigits.forall_mem {s : List Char} (h : IsDigits s) :
    ∀ c ∈ s, isNumberChar c = true := fun c hc => isNumberChar_of_isDigit (h.2 c hc)

lemma IsNumeral.forall_mem {s : List Char} (h : IsNumeral s) : ∀ c ∈ s, isNumberChar c = true := by
  have hpoint : isNumberChar '.' = true := by decide
  cases h with
  | digits ha => exact ha.forall_mem
  | pointBetween ha hb =>
      exact List.forall_mem_append.2
        ⟨ha.forall_mem, List.forall_mem_cons.2 ⟨hpoint, hb.forall_mem⟩⟩
  | pointAfter ha =>
      exact List.forall_mem_append.2 ⟨ha.forall_mem, List.forall_mem_singleton.2 hpoint⟩
  | pointBefore hb => exact List.forall_mem_cons.2 ⟨hpoint, hb.forall_mem⟩

lemma IsSignedNumber.forall_mem {s : List Char} (h : IsSignedNumber s) :
    ∀ c ∈ s, isNumberChar c = true := by
  cases h with
  | unsigned h => exact h.forall_mem
  | signed hsign h =>
      refine List.forall_mem_cons.2 ⟨?_, h.forall_mem⟩
      rcases hsign with rfl | rfl <;> decide

/-- The first character is none of a number. -/
def StartsOutside (s : List Char) : Prop := ∀ c ∈ s.head?, isNumberChar c = false

/-- A number ends where the first other character stands. -/
lemma number_append_inj {a a' b b' : List Char} (ha : ∀ c ∈ a, isNumberChar c = true)
    (ha' : ∀ c ∈ a', isNumberChar c = true) (hb : StartsOutside b) (hb' : StartsOutside b')
    (h : a ++ b = a' ++ b') : a = a' ∧ b = b' := by
  have heq : a = a' := by
    rw [← takeWhile_append_eq ha hb, h, takeWhile_append_eq ha' hb']
  exact ⟨heq, List.append_cancel_left (heq ▸ h)⟩

/-! ### Signs -/

lemma dropSign_cases (s : List Char) :
    dropSign s = s ∨ ∃ sign, (sign = '+' ∨ sign = '-') ∧ s = sign :: dropSign s := by
  unfold dropSign
  split
  · exact Or.inr ⟨'+', Or.inl rfl, rfl⟩
  · exact Or.inr ⟨'-', Or.inr rfl, rfl⟩
  · exact Or.inl rfl

lemma mem_dropSign_iff {c : Char} (hplus : c ≠ '+') (hminus : c ≠ '-') {s : List Char} :
    c ∈ dropSign s ↔ c ∈ s := by
  rcases dropSign_cases s with h | ⟨sign, hsign, h⟩
  · rw [h]
  · conv_rhs => rw [h]
    have hne : c ≠ sign := by
      rcases hsign with rfl | rfl
      · exact hplus
      · exact hminus
    rw [List.mem_cons, or_iff_right hne]

/-- A number starts with a digit or a point. -/
lemma IsNumeral.exists_eq_cons {s : List Char} (h : IsNumeral s) :
    ∃ c t, s = c :: t ∧ (isDigit c = true ∨ c = '.') := by
  have hdigits : ∀ {a : List Char}, IsDigits a → ∃ c t, a = c :: t ∧ isDigit c = true := by
    rintro a ⟨hne, ha⟩
    obtain ⟨c, t, rfl⟩ := List.exists_cons_of_ne_nil hne
    exact ⟨c, t, rfl, ha c List.mem_cons_self⟩
  cases h with
  | digits ha =>
      obtain ⟨c, t, rfl, hc⟩ := hdigits ha
      exact ⟨c, t, rfl, Or.inl hc⟩
  | pointBetween ha hb =>
      obtain ⟨c, t, rfl, hc⟩ := hdigits ha
      exact ⟨c, _, rfl, Or.inl hc⟩
  | pointAfter ha =>
      obtain ⟨c, t, rfl, hc⟩ := hdigits ha
      exact ⟨c, _, rfl, Or.inl hc⟩
  | pointBefore hb => exact ⟨'.', _, rfl, Or.inr rfl⟩

lemma IsNumeral.dropSign_append {s : List Char} (h : IsNumeral s) (t : List Char) :
    dropSign (s ++ t) = s ++ t := by
  obtain ⟨c, s, rfl, hc⟩ := h.exists_eq_cons
  rcases dropSign_cases (c :: s ++ t) with heq | ⟨sign, hsign, heq⟩
  · exact heq
  · obtain rfl : c = sign := (List.cons.inj heq).1
    rcases hsign with rfl | rfl
    · exact absurd hc (by decide)
    · exact absurd hc (by decide)

lemma isSignedNumber_iff {s : List Char} : IsSignedNumber s ↔ IsNumeral (dropSign s) := by
  constructor
  · intro h
    cases h with
    | unsigned h =>
        have hdrop := h.dropSign_append []
        rw [List.append_nil] at hdrop
        rwa [hdrop]
    | signed hsign h => rcases hsign with rfl | rfl <;> exact h
  · intro h
    rcases dropSign_cases s with heq | ⟨sign, hsign, heq⟩
    · exact .unsigned (heq ▸ h)
    · rw [heq]
      exact .signed hsign h

/-! ### Suffixes -/

/-- A unit, or an exponent with a point: what no float ends in. -/
inductive IsUnread : List Char → Prop where
  | unit {unit : String} (h : unit ∈ binarySI ++ decimalSI) : IsUnread unit.toList
  | pointExponent {e : Char} {s : List Char} (he : e = 'e' ∨ e = 'E') (h : IsSignedNumber s)
      (hpoint : '.' ∈ s) : IsUnread (e :: s)

lemma IsNumeral.isDigits_iff {s : List Char} (h : IsNumeral s) : IsDigits s ↔ '.' ∉ s := by
  refine ⟨fun hs hmem => absurd (hs.2 '.' hmem) (by decide), fun hmem => ?_⟩
  cases h with
  | digits ha => exact ha
  | pointBetween ha hb => simp at hmem
  | pointAfter ha => simp at hmem
  | pointBefore hb => simp at hmem

/-- The exponent of a float is that of a quantity, without a point. -/
lemma isExponent_cons_iff {c : Char} {s : List Char} : isExponent (c :: s) = true ↔
    (c = 'e' ∨ c = 'E') ∧ IsSignedNumber s ∧ '.' ∉ s := by
  have hdigits : (!(dropSign s).isEmpty && (dropSign s).all isDigit) = true ↔
      IsDigits (dropSign s) := by
    simp [IsDigits]
  rw [isExponent, Bool.and_assoc, Bool.and_eq_true, hdigits]
  simp only [Bool.or_eq_true, beq_iff_eq]
  refine and_congr_right fun _ => ?_
  rw [isSignedNumber_iff, ← mem_dropSign_iff (s := s) (by decide) (by decide)]
  constructor
  · exact fun h => ⟨.digits h, (IsNumeral.digits h).isDigits_iff.1 h⟩
  · exact fun h => h.1.isDigits_iff.2 h.2

lemma isExponent_unit : ∀ unit ∈ binarySI ++ decimalSI, isExponent unit.toList = false := by
  decide

lemma IsUnread.isSuffix {s : List Char} (h : IsUnread s) : IsSuffix s := by
  cases h with
  | unit h => exact .unit h
  | pointExponent he h hpoint => exact .decimalExponent he h

/-- The exponent of a float is a suffix that floats may have. -/
lemma isExponent_iff {s : List Char} : isExponent s = true ↔ IsSuffix s ∧ ¬ IsUnread s := by
  constructor
  · intro h
    refine ⟨?_, fun hunread => ?_⟩
    · rcases s with _ | ⟨c, s⟩
      · exact .empty
      · obtain ⟨he, hs, -⟩ := isExponent_cons_iff.1 h
        exact .decimalExponent he hs
    · cases hunread with
      | unit hunit => exact absurd h (by simp [isExponent_unit _ hunit])
      | pointExponent he hs hpoint => exact (isExponent_cons_iff.1 h).2.2 hpoint
  · rintro ⟨hsuffix, hread⟩
    cases hsuffix with
    | empty => rfl
    | unit hunit => exact absurd (.unit hunit) hread
    | decimalExponent he hs =>
        exact isExponent_cons_iff.2 ⟨he, hs, fun hpoint => hread (.pointExponent he hs hpoint)⟩

/-! ### Floats -/

/-- A word for an infinite value or for no number, signed or not. -/
def IsSpecialWord (s : List Char) : Prop :=
  (dropSign s).map Char.toLower ∈ ["inf".toList, "infinity".toList, "nan".toList]

/-- An exponent starts with a letter. -/
lemma isExponent_head {s : List Char} (h : isExponent s = true) :
    ∀ c ∈ s.head?, isNumberChar c = false := by
  intro c hc
  rcases s with _ | ⟨e, s⟩
  · cases hc
  · obtain rfl : e = c := by simpa using hc
    rcases (isExponent_cons_iff.1 h).1 with rfl | rfl <;> decide

lemma isDigit_eq_false {c : Char} (h : isNumberChar c = false) : isDigit c = false := by
  by_contra hdigit
  rw [isNumberChar_of_isDigit (by simpa using hdigit)] at h
  cases h

lemma isDecimal_of_digits {a exponent : List Char} (ha : IsDigits a)
    (hexponent : isExponent exponent = true) : isDecimal (a ++ exponent) = true := by
  have hhead : ∀ c ∈ exponent.head?, isDigit c = false :=
    fun c hc => isDigit_eq_false (isExponent_head hexponent c hc)
  simp only [isDecimal, takeWhile_append_eq ha.2 hhead, dropWhile_append_eq ha.2 hhead]
  split
  · -- an exponent does not start with the point
    exact absurd (isExponent_head hexponent '.' rfl) (by decide)
  · simp [ha.1, hexponent]

lemma isDecimal_of_point {a b exponent : List Char} (ha : ∀ c ∈ a, isDigit c = true)
    (hb : ∀ c ∈ b, isDigit c = true) (hne : a ≠ [] ∨ b ≠ [])
    (hexponent : isExponent exponent = true) : isDecimal (a ++ '.' :: (b ++ exponent)) = true := by
  have hpoint : ∀ c ∈ ('.' :: (b ++ exponent)).head?, isDigit c = false := by
    rintro c ⟨⟩
    decide
  have hhead : ∀ c ∈ exponent.head?, isDigit c = false :=
    fun c hc => isDigit_eq_false (isExponent_head hexponent c hc)
  simp only [isDecimal, takeWhile_append_eq ha hpoint, dropWhile_append_eq ha hpoint,
    takeWhile_append_eq hb hhead, dropWhile_append_eq hb hhead]
  simpa [hexponent] using hne

/-- A decimal number is a number and an exponent. -/
lemma isDecimal_iff {s : List Char} : isDecimal s = true ↔
    ∃ number exponent, s = number ++ exponent ∧ IsNumeral number ∧ isExponent exponent = true := by
  have hwhole : ∀ {t : List Char}, t.takeWhile isDigit ≠ [] → IsDigits (t.takeWhile isDigit) :=
    fun hne => ⟨hne, fun c hc => List.mem_takeWhile_imp hc⟩
  constructor
  · intro h
    unfold isDecimal at h
    dsimp only at h
    have hs := (List.takeWhile_append_dropWhile (p := isDigit) (l := s)).symm
    split at h
    · rename_i rest hrest
      rw [hrest, ← List.takeWhile_append_dropWhile (p := isDigit) (l := rest)] at hs
      rw [Bool.and_eq_true, Bool.or_eq_true, Bool.not_eq_true', Bool.not_eq_true',
        List.isEmpty_eq_false_iff, List.isEmpty_eq_false_iff] at h
      obtain ⟨hne, hexponent⟩ := h
      refine ⟨s.takeWhile isDigit ++ '.' :: rest.takeWhile isDigit, rest.dropWhile isDigit, ?_, ?_,
        hexponent⟩
      · rw [List.append_assoc]
        exact hs
      · by_cases hbefore : s.takeWhile isDigit = []
        · rw [hbefore]
          exact .pointBefore (hwhole (hne.resolve_left (not_not.2 hbefore)))
        · by_cases hafter : rest.takeWhile isDigit = []
          · rw [hafter]
            exact .pointAfter (hwhole hbefore)
          · exact .pointBetween (hwhole hbefore) (hwhole hafter)
    · rw [Bool.and_eq_true, Bool.not_eq_true', List.isEmpty_eq_false_iff] at h
      exact ⟨_, _, hs, .digits (hwhole h.1), h.2⟩
  · rintro ⟨number, exponent, rfl, hnumber, hexponent⟩
    cases hnumber with
    | digits ha => exact isDecimal_of_digits ha hexponent
    | @pointBetween a b ha hb =>
        rw [List.append_assoc]
        exact isDecimal_of_point ha.2 hb.2 (Or.inl ha.1) hexponent
    | @pointAfter a ha =>
        rw [List.append_assoc]
        exact isDecimal_of_point (b := []) ha.2 (by simp) (Or.inl ha.1) hexponent
    | @pointBefore b hb =>
        exact isDecimal_of_point (a := []) (by simp) hb.2 (Or.inr hb.1) hexponent

/-- A float is a special word, or a signed number and an exponent. -/
lemma parsesF64_iff {s : List Char} : parsesF64 s = true ↔ IsSpecialWord s ∨
    ∃ number exponent, s = number ++ exponent ∧ IsSignedNumber number ∧
      isExponent exponent = true := by
  have hword : parsesF64 s = true ↔ IsSpecialWord s ∨ isDecimal (dropSign s) = true := by
    simp [parsesF64, IsSpecialWord, or_assoc]
  rw [hword, isDecimal_iff]
  refine or_congr_right ⟨?_, ?_⟩
  · rintro ⟨number, exponent, heq, hnumber, hexponent⟩
    rcases dropSign_cases s with hs | ⟨sign, hsign, hs⟩
    · exact ⟨number, exponent, hs ▸ heq, .unsigned hnumber, hexponent⟩
    · exact ⟨sign :: number, exponent, by rw [hs, heq]; rfl, .signed hsign hnumber, hexponent⟩
  · rintro ⟨number, exponent, rfl, hnumber, hexponent⟩
    cases hnumber with
    | unsigned h => exact ⟨number, exponent, h.dropSign_append exponent, h, hexponent⟩
    | signed hsign h =>
        rcases hsign with rfl | rfl
        · exact ⟨_, exponent, rfl, h, hexponent⟩
        · exact ⟨_, exponent, rfl, h, hexponent⟩

/-! ### Target values -/

/-- A signed number with a unit, or with an exponent that has a point. -/
def HasUnreadSuffix (s : List Char) : Prop :=
  ∃ number suffix, s = number ++ suffix ∧ IsSignedNumber number ∧ IsUnread suffix

lemma IsUnread.startsOutside {s : List Char} (h : IsUnread s) : StartsOutside s := by
  have hunits : ∀ unit ∈ binarySI ++ decimalSI,
      (unit.toList.head?.all fun c => !isNumberChar c) = true := by
    decide
  cases h with
  | unit hunit =>
      intro c hc
      have hall := hunits _ hunit
      rw [Option.mem_def.1 hc] at hall
      simpa using hall
  | pointExponent he _ _ =>
      rintro c ⟨⟩
      rcases he with rfl | rfl <;> decide

/-- A number has one suffix only. -/
lemma not_hasUnreadSuffix {number exponent : List Char} (hnumber : IsSignedNumber number)
    (hexponent : isExponent exponent = true) : ¬ HasUnreadSuffix (number ++ exponent) := by
  rintro ⟨number', suffix, heq, hnumber', hunread⟩
  obtain ⟨-, rfl⟩ := number_append_inj hnumber.forall_mem hnumber'.forall_mem
    (isExponent_head hexponent) hunread.startsOutside heq
  exact (isExponent_iff.1 hexponent).2 hunread

/-- A quantity is a float without special words, or has a suffix that floats do not have. -/
lemma isQuantity_iff {s : List Char} : IsQuantity s ↔
    (∃ number exponent, s = number ++ exponent ∧ IsSignedNumber number ∧
      isExponent exponent = true) ∨ HasUnreadSuffix s := by
  constructor
  · rintro ⟨number, suffix, heq, hnumber, hsuffix⟩
    by_cases hunread : IsUnread suffix
    · exact Or.inr ⟨number, suffix, heq, hnumber, hunread⟩
    · exact Or.inl ⟨number, suffix, heq, hnumber, isExponent_iff.2 ⟨hsuffix, hunread⟩⟩
  · rintro (⟨number, exponent, heq, hnumber, hexponent⟩ | ⟨number, suffix, heq, hnumber, hunread⟩)
    · exact ⟨number, exponent, heq, hnumber, (isExponent_iff.1 hexponent).1⟩
    · exact ⟨number, suffix, heq, hnumber, hunread.isSuffix⟩

lemma IsSignedNumber.exists_dropSign_eq {number : List Char} (h : IsSignedNumber number)
    (suffix : List Char) :
    ∃ c t, dropSign (number ++ suffix) = c :: t ∧ (isDigit c = true ∨ c = '.') := by
  cases h with
  | unsigned h =>
      rw [h.dropSign_append]
      obtain ⟨c, t, rfl, hc⟩ := h.exists_eq_cons
      exact ⟨c, _, rfl, hc⟩
  | signed hsign h =>
      obtain ⟨c, t, rfl, hc⟩ := h.exists_eq_cons
      rcases hsign with rfl | rfl
      · exact ⟨c, _, rfl, hc⟩
      · exact ⟨c, _, rfl, hc⟩

lemma toLower_of_isDigit {c : Char} (h : isDigit c = true) : c.toLower = c := by
  have hle : c.toNat ≤ 57 := by
    have hbounds : 48 ≤ c.toNat ∧ c.toNat ≤ 57 := by
      simpa [isDigit, Char.le_def, UInt32.le_iff_toNat_le] using h
    exact hbounds.2
  rw [Char.toLower, dif_neg]
  rintro ⟨hupper, -⟩
  have hupper' : 65 ≤ c.toNat := by simpa [UInt32.le_iff_toNat_le] using hupper
  omega

/-- Special words start with letters, and quantities do not. -/
lemma IsSpecialWord.not_isQuantity {s : List Char} (h : IsSpecialWord s) : ¬ IsQuantity s := by
  rintro ⟨number, suffix, rfl, hnumber, -⟩
  obtain ⟨c, t, hs, hc⟩ := hnumber.exists_dropSign_eq suffix
  have hlower : c.toLower = c := by
    rcases hc with hc | rfl
    · exact toLower_of_isDigit hc
    · decide
  have hletter : c = 'i' ∨ c = 'n' := by
    have hword : c :: t.map Char.toLower ∈ ["inf".toList, "infinity".toList, "nan".toList] := by
      rw [← hlower, ← List.map_cons, ← hs]
      exact h
    simp only [List.mem_cons, List.not_mem_nil, or_false] at hword
    rcases hword with hword | hword | hword
    · exact Or.inl (List.cons.inj hword).1
    · exact Or.inl (List.cons.inj hword).1
    · exact Or.inr (List.cons.inj hword).1
  rcases hletter with rfl | rfl
  · exact absurd hc (by decide)
  · exact absurd hc (by decide)

lemma parsesF64_iff_isQuantity_iff {s : List Char} :
    (parsesF64 s = true ↔ IsQuantity s) ↔ ¬ IsSpecialWord s ∧ ¬ HasUnreadSuffix s := by
  have hexclusive : (∃ number exponent, s = number ++ exponent ∧ IsSignedNumber number ∧
      isExponent exponent = true) → ¬ HasUnreadSuffix s := by
    rintro ⟨number, exponent, rfl, hnumber, hexponent⟩
    exact not_hasUnreadSuffix hnumber hexponent
  have hspecial : IsSpecialWord s → ¬ IsQuantity s := IsSpecialWord.not_isQuantity
  rw [isQuantity_iff] at hspecial ⊢
  rw [parsesF64_iff]
  generalize (∃ number exponent, s = number ++ exponent ∧ IsSignedNumber number ∧
    isExponent exponent = true) = decimal at hexclusive hspecial ⊢
  tauto

/-- **Target values.** The target value of a metric is put into the autoscaler as it stands, and
the check admits it exactly if it is a quantity, unless it is a special word, or has a unit or an
exponent with a point. -/
theorem targetValue_iff {metric : MetricSpec} (hname : metric.metricName ≠ "") (i : ℕ)
    (ns name : String) :
    targetQuantities (hpaMetric ns name metric) = [metric.targetValue] ∧
    (((validateMetrics i [metric]).accepts = true ↔ IsQuantity metric.targetValue.toList) ↔
      ¬ IsSpecialWord metric.targetValue.toList ∧ ¬ HasUnreadSuffix metric.targetValue.toList) := by
  refine ⟨targetQuantities_hpaMetric ns name metric, ?_⟩
  have haccepts : (validateMetrics i [metric]).accepts = true ↔
      parsesF64 metric.targetValue.toList = true := by
    rw [validateMetrics_accepts_iff, List.forall_mem_singleton]
    refine ⟨fun h => h.2.2, fun h => ⟨hname, fun hempty => ?_, h⟩⟩
    rw [hempty] at h
    exact absurd h (by decide)
  rw [haccepts]
  exact parsesF64_iff_isQuantity_iff

/-- A metric with the given target value. -/
def metricWithTarget (targetValue : String) : MetricSpec :=
  ⟨"queue_depth", .averageValue, targetValue, none, none, none⟩

/-- **`NaN` and `1k`.** The first is admitted and is no quantity, the second is a quantity and is
not admitted. -/
theorem nan_admitted_and_unit_refused :
    (validateMetrics 0 [metricWithTarget "NaN"]).accepts = true ∧ ¬ IsQuantity "NaN".toList ∧
    (validateMetrics 0 [metricWithTarget "1k"]).accepts = false ∧ IsQuantity "1k".toList := by
  have hnan : IsSpecialWord "NaN".toList := by
    unfold IsSpecialWord
    decide
  refine ⟨by decide, hnan.not_isQuantity, by decide, ['1'], ['k'], rfl, ?_, ?_⟩
  · exact .unsigned (.digits ⟨List.cons_ne_nil _ _, List.forall_mem_singleton.2 (by decide)⟩)
  · have hunit : "k" ∈ binarySI ++ decimalSI := by decide
    exact .unit hunit

theorem targetValue_iff_thirty :
    targetQuantities (hpaMetric "default" "web" (metricWithTarget "30")) = ["30"] ∧
    (((validateMetrics 0 [metricWithTarget "30"]).accepts = true ↔ IsQuantity "30".toList) ↔
      ¬ IsSpecialWord "30".toList ∧ ¬ HasUnreadSuffix "30".toList) :=
  have hname : (metricWithTarget "30").metricName ≠ "" := by decide
  targetValue_iff hname 0 "default" "web"

end ExternalPodAutoscaler.Webhook
