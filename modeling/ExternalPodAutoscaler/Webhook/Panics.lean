/-
Panics of the validating webhook (`webhook/admission/handlers.rs`).

The validation takes no slice but those of `validate_duration`, which cuts the last byte of
the trimmed duration off as its unit.  The guard before the cut counts bytes as well, so it
lets a last character of several bytes through, and the cut then falls within it.

The main result of this file is `validation_never_panics_iff`: the validation returns exactly
when no duration that it reaches ends in such a character.
-/
import ExternalPodAutoscaler.Webhook.Durations

namespace ExternalPodAutoscaler.Webhook

open ExternalPodAutoscaler.Api

/-! ### Sequences of checks -/

lemma pure_ne_panic : (pure () : Check) ≠ panic := by
  intro h
  cases h

lemma throw_ne_panic (message : String) : (throw message : Check) ≠ panic := by
  intro h
  cases h

lemma denyIf_ne_panic (b : Bool) (message : String) : denyIf b message ≠ panic := by
  cases b
  · exact pure_ne_panic
  · exact throw_ne_panic message

/-- A sequence of checks panics in the first one that does not pass. -/
lemma bind_eq_panic_iff {c d : Check} :
    (do c; d) = panic ↔ c = panic ∨ c.accepts = true ∧ d = panic := by
  rcases c with _ | message | ⟨⟨⟩⟩
  · exact iff_of_true rfl (Or.inl rfl)
  · refine iff_of_false (throw_ne_panic message) ?_
    rintro (h | ⟨h, -⟩)
    · exact throw_ne_panic message h
    · cases h
  · constructor
    · exact fun h => Or.inr ⟨rfl, h⟩
    · rintro (h | ⟨-, h⟩)
      · exact absurd h pure_ne_panic
      · exact h

lemma denyIf_bind_eq_panic_iff {b : Bool} {message : String} {d : Check} :
    (do denyIf b message; d) = panic ↔ b = false ∧ d = panic := by
  rw [bind_eq_panic_iff, accepts_denyIf, Bool.not_eq_true']
  simp [denyIf_ne_panic]

lemma validateMetrics_ne_panic (i : ℕ) (metrics : List MetricSpec) :
    validateMetrics i metrics ≠ panic := by
  induction metrics generalizing i with
  | nil => exact pure_ne_panic
  | cons metric metrics ih => simp [validateMetrics, denyIf_bind_eq_panic_iff, ih]

lemma validateScrapePath_ne_panic (path : String) : validateScrapePath path ≠ panic := by
  simp [validateScrapePath, denyIf_bind_eq_panic_iff, denyIf_ne_panic]

lemma validateParts_ne_panic (field duration : String) (num : List Char) (unit : String) :
    validateParts field duration num unit ≠ panic := by
  simp [validateParts, denyIf_bind_eq_panic_iff, denyIf_ne_panic]

/-! ### Durations -/

/-- After trimming, the last character of the string takes several bytes. -/
def EndsMultiByte (s : String) : Prop := ∃ c, (trim s.toList).getLast? = some c ∧ 1 < c.utf8Size

lemma utf8Size_le_byteLength (num : List Char) (c : Char) :
    c.utf8Size ≤ byteLength (num ++ [c]) := by
  simp [byteLength]

lemma getLast_of_dropSuffix_ms {num millis : List Char} {c : Char}
    (h : (num ++ [c]).dropSuffix? ['m', 's'] = some millis) : c = 's' := by
  obtain ⟨s', heq, hs'⟩ := List.dropSuffix?_eq_some_iff.1 h
  obtain rfl : s' = ['m', 's'] := beq_iff_eq.1 hs'
  have hlast := congrArg List.getLast? heq
  simpa using hlast

/-- The unit of a duration is cut off within a character. -/
lemma validateDuration_eq_panic_iff {duration field : String} :
    validateDuration duration field = panic ↔ EndsMultiByte duration := by
  simp only [validateDuration, EndsMultiByte]
  rcases List.eq_nil_or_concat (trim duration.toList) with htrim | ⟨num, c, htrim⟩
  · simp [htrim, throw_ne_panic]
  · rw [if_neg (by simp [htrim]), htrim, List.concat_eq_append, List.getLast?_concat]
    have hpos := c.utf8Size_pos
    rcases hsuffix : (num ++ [c]).dropSuffix? ['m', 's'] with _ | millis
    · by_cases hlong : 1 < byteLength (num ++ [c])
      · by_cases hsize : c.utf8Size = 1
        · simp [hlong, hsize, validateParts_ne_panic]
        · have hmulti : 1 < c.utf8Size := by omega
          simp [hlong, hsize, hmulti]
      · -- the only character of the string is a single byte
        have hsize := utf8Size_le_byteLength num c
        have hsingle : ¬ 1 < c.utf8Size := by omega
        simp [hlong, hsingle, throw_ne_panic]
    · obtain rfl : c = 's' := getLast_of_dropSuffix_ms hsuffix
      simp [validateParts_ne_panic, show ¬ 1 < 's'.utf8Size by decide]

/-! ### The whole validation -/

/-- The checks before those of the durations. -/
structure PassesEarlierChecks (epa : Epa) : Prop where
  minReplicas : 1 ≤ epa.spec.minReplicas
  maxReplicas : epa.spec.minReplicas ≤ epa.spec.maxReplicas
  targetName : epa.spec.scaleTargetRef.name ≠ ""
  targetKind : epa.spec.scaleTargetRef.kind ≠ ""
  metrics : epa.spec.metrics ≠ []
  metric : ∀ metric ∈ epa.spec.metrics, metric.metricName ≠ "" ∧ metric.targetValue ≠ "" ∧
    parsesF64 metric.targetValue.toList = true
  port : 1 ≤ epa.spec.scrape.port ∧ epa.spec.scrape.port ≤ 65535
  scheme : epa.spec.scrape.scheme = "http" ∨ epa.spec.scrape.scheme = "https"
  path : epa.spec.scrape.path.toList.head? = some '/' ∧
    ¬ ['.', '.'] <:+: epa.spec.scrape.path.toList ∧
    ¬ ['/', '/'] <:+: epa.spec.scrape.path.toList ∧
    '\x00' ∉ epa.spec.scrape.path.toList ∧ byteLength epa.spec.scrape.path.toList ≤ 256

lemma validateScrapePath_accepts_iff {path : String} :
    (validateScrapePath path).accepts = true ↔ path.toList.head? = some '/' ∧
      ¬ ['.', '.'] <:+: path.toList ∧ ¬ ['/', '/'] <:+: path.toList ∧
      '\x00' ∉ path.toList ∧ byteLength path.toList ≤ 256 := by
  simp only [validateScrapePath, accepts_bind, accepts_denyIf, Bool.and_eq_true,
    Bool.not_eq_true', decide_eq_false_iff_not, not_not, ne_eq, not_lt]

lemma validateEpaSpec_eq_panic_iff {epa : Epa} : validateEpaSpec epa = panic ↔
    PassesEarlierChecks epa ∧ (EndsMultiByte epa.spec.scrape.interval ∨
      (recognisedDuration epa.spec.scrape.interval).isSome = true ∧
      (EndsMultiByte epa.spec.scrape.timeout ∨
        (recognisedDuration epa.spec.scrape.timeout).isSome = true ∧
        EndsMultiByte epa.spec.scrape.evaluationPeriod)) := by
  -- only the checks of the durations can panic
  simp only [validateEpaSpec, bind_eq_panic_iff, denyIf_ne_panic, validateMetrics_ne_panic,
    validateScrapePath_ne_panic, validateDuration_eq_panic_iff, false_or]
  simp only [accepts_denyIf, validateMetrics_accepts_iff, validateScrapePath_accepts_iff,
    validateDuration_accepts_iff, Bool.not_eq_true', decide_eq_false_iff_not, not_lt, not_or,
    List.isEmpty_eq_false_iff, not_and_or, not_not, ne_eq]
  constructor
  · rintro ⟨hmin, hmax, hname, hkind, hne, hmetric, hport, hscheme, hpath, hdurations⟩
    exact ⟨⟨hmin, hmax, hname, hkind, hne, hmetric, hport, hscheme, hpath⟩, hdurations⟩
  · rintro ⟨⟨hmin, hmax, hname, hkind, hne, hmetric, hport, hscheme, hpath⟩, hdurations⟩
    exact ⟨hmin, hmax, hname, hkind, hne, hmetric, hport, hscheme, hpath, hdurations⟩

/-- **Validation and panics.** The validation returns, with an acceptance or a denial, exactly
when no duration that it reaches ends in a character of several bytes: the interval, if the
earlier checks pass, then the timeout, if the interval is a number with a unit, and then the
evaluation period, if the timeout is one too. -/
theorem validation_never_panics_iff {epa : Epa} :
    validateEpaSpec epa ≠ panic ↔ (PassesEarlierChecks epa →
      ¬ EndsMultiByte epa.spec.scrape.interval ∧
      ((recognisedDuration epa.spec.scrape.interval).isSome = true →
        ¬ EndsMultiByte epa.spec.scrape.timeout ∧
        ((recognisedDuration epa.spec.scrape.timeout).isSome = true →
          ¬ EndsMultiByte epa.spec.scrape.evaluationPeriod))) := by
  rw [ne_eq, validateEpaSpec_eq_panic_iff, not_and]
  refine imp_congr_right fun _ => ?_
  rw [not_or, not_and, not_or, not_and]

/-- An interval in microseconds ends in the two bytes of `µ`, or of any other letter. -/
theorem micro_interval_panics : validateEpaSpec (webEpa "15µ") = panic := by
  have hends : EndsMultiByte "15µ" := ⟨'µ', by decide +kernel, by decide⟩
  refine validateEpaSpec_eq_panic_iff.2 ⟨?_, Or.inl hends⟩
  exact ⟨by decide, by decide, by decide, by decide, by decide, by decide +kernel, by decide,
    by decide, by decide +kernel⟩

end ExternalPodAutoscaler.Webhook
