/-
Infinite values and values that are no numbers in the aggregation of a window
(`aggregate_samples` of `webhook/metrics/aggregation.rs`).

The parser reads every value that `str::parse::<f64>` does, so a pod can expose infinities and
`NaN`.  Here values are extended numbers; their sums and quotients are exact.  On finite values
the aggregation is that of the ordered field (`aggregateSamplesF64_finite`).

The main result of this file is `special_values_iff`: the comparator of the median is a total
preorder on the values of a window, and the maximum and the minimum are among them, exactly if
one of the values is a number and, where another one is not, all numbers are equal.
-/
import ExternalPodAutoscaler.Lib.Extended
import ExternalPodAutoscaler.Scraper.Parser
import ExternalPodAutoscaler.Webhook.Aggregation

namespace ExternalPodAutoscaler.Webhook

open ExternalPodAutoscaler.Api ExternalPodAutoscaler.Lib ExternalPodAutoscaler.Scraper
open ExternalPodAutoscaler.Store

/-! ### Reading values -/

/-- The value of an exponent. -/
def exponentValue : List Char → ℤ
  | [] => 0
  | _ :: rest =>
    let magnitude : ℤ := digitsValue (dropSign rest)
    if rest.head? = some '-' then -magnitude else magnitude

/-- The value of a decimal number. -/
def decimalValue (s : List Char) : ℚ :=
  let whole := s.takeWhile isDigit
  match s.dropWhile isDigit with
  | '.' :: rest =>
    let fraction := rest.takeWhile isDigit
    (digitsValue (whole ++ fraction) : ℚ) *
      10 ^ (exponentValue (rest.dropWhile isDigit) - fraction.length)
  | rest => (digitsValue whole : ℚ) * 10 ^ exponentValue rest

/-- `str::parse::<f64>`, without rounding. -/
def parseF64 (s : List Char) : Option (Extended ℚ) :=
  if parsesF64 s then
    let lower := (dropSign s).map Char.toLower
    let magnitude : Extended ℚ :=
      if lower = "nan".toList then .nan
      else if lower = "inf".toList ∨ lower = "infinity".toList then .posInf
      else .finite (decimalValue (dropSign s))
    some (if s.head? = some '-' then magnitude.neg else magnitude)
  else none

/-- A series without labels has any value that can be read. -/
lemma parseMetricLine_unlabelled {V : Type} {parse : List Char → Option V}
    {name word : List Char} {value : V} (hname : name ≠ [])
    (hchars : ∀ c ∈ name, isWhitespace c = false ∧ c ≠ '{') (hword : word ≠ [])
    (hplain : ∀ c ∈ word, isWhitespace c = false) (hvalue : parse word = some value) :
    parseMetricLine parse (name ++ ' ' :: word) none =
      pure (some ⟨String.ofList name, [], value, .gauge⟩) := by
  have hspace : isWhitespace ' ' = true := by simp [isWhitespace]
  have hwords : words isWhitespace (name ++ ' ' :: word) = [name, word] := by
    rw [words_append_cons hspace, words_eq_singleton hname fun c hc => (hchars c hc).1,
      words_eq_singleton hword hplain]
    rfl
  have hbrace : splitOnce '{' name = none :=
    splitOnce_eq_none_iff.2 fun hmem => (hchars _ hmem).2 rfl
  rw [parseMetricLine, hwords]
  simp only [hvalue, parseMetricPart, hbrace]
  rfl

/-! ### Aggregation -/

section Aggregation

variable {V : Type} [Field V] [LinearOrder V]

/-- The comparator that `aggregate_samples` sorts by. -/
def compareForMedian (a b : Extended V) : Ordering := (a.partialCmp b).getD .eq

/-- `aggregate_samples`.  Where the comparator is not a total preorder the order of the sorted
list is unspecified, and `sort_by` may panic. -/
def aggregateSamplesF64 (samples : List (LabeledSample (Extended V)))
    (aggregation : AggregationType) : Extended V :=
  match samples.map LabeledSample.value with
  | [] => .finite 0
  | value :: values =>
    match aggregation with
    | .avg =>
      ((value :: values).foldl Extended.add (Extended.finite 0)).divNat (value :: values).length
    | .max => (value :: values).foldl Extended.maxNum Extended.negInf
    | .min => (value :: values).foldl Extended.minNum Extended.posInf
    | .median =>
      let sorted := (value :: values).mergeSort fun a b => (compareForMedian a b).isLE
      let mid := sorted.length / 2
      if sorted.length % 2 = 0 then
        ((sorted.getD (mid - 1) (.finite 0)).add (sorted.getD mid (.finite 0))).divNat 2
      else sorted.getD mid (.finite 0)
    | .last => (value :: values).getLast (List.cons_ne_nil value values)

/-- A sample of a finite value. -/
def finiteSample (sample : LabeledSample V) : LabeledSample (Extended V) :=
  ⟨.finite sample.value, sample.scrapedAt, sample.success, sample.metricType⟩

omit [Field V] in
lemma isLE_compareForMedian_finite (x y : V) :
    (compareForMedian (.finite x) (.finite y)).isLE = decide (x ≤ y) := by
  rw [Bool.eq_iff_iff, decide_eq_true_eq]
  exact Ordering.isLE_iff_ne_gt.trans compare_le_iff_le

omit [Field V] in
/-- Finite values are sorted as before. -/
lemma mergeSort_finite (values : List V) :
    (values.map Extended.finite).mergeSort (fun a b => (compareForMedian a b).isLE) =
      (values.mergeSort (· ≤ ·)).map Extended.finite :=
  (List.map_mergeSort fun x _ y _ => (isLE_compareForMedian_finite x y).symm).symm

/-- **Finite values** are aggregated as before. -/
theorem aggregateSamplesF64_finite (samples : List (LabeledSample V))
    (aggregation : AggregationType) :
    aggregateSamplesF64 (samples.map finiteSample) aggregation =
      .finite (aggregateSamples samples aggregation) := by
  have hvalues : (samples.map finiteSample).map LabeledSample.value =
      (samples.map LabeledSample.value).map Extended.finite := by
    rw [List.map_map, List.map_map]
    rfl
  simp only [aggregateSamplesF64, aggregateSamples, hvalues]
  rcases samples.map LabeledSample.value with _ | ⟨value, values⟩
  · rfl
  · cases aggregation with
    | avg =>
        have hsum : (Extended.finite value :: values.map Extended.finite).foldl Extended.add
            (Extended.finite 0) = Extended.finite (value :: values).sum := by
          rw [List.sum_eq_foldl]
          exact Extended.foldl_map_finite (fun _ _ => rfl) 0 (value :: values)
        simp only [List.map_cons, hsum, List.length_cons, List.length_map]
        rfl
    | max =>
        have hmax := Extended.foldl_map_finite (f := max) Extended.maxNum_finite value values
        simp only [List.map_cons, List.foldl_cons, Extended.maxNum_negInf Extended.finite_ne_nan,
          hmax]
    | min =>
        have hmin := Extended.foldl_map_finite (f := min) Extended.minNum_finite value values
        simp only [List.map_cons, List.foldl_cons, Extended.minNum_posInf Extended.finite_ne_nan,
          hmin]
    | median =>
        have hsorted := mergeSort_finite (value :: values)
        rw [List.map_cons] at hsorted
        simp only [List.map_cons, hsorted, List.length_map, List.getD_map]
        split
        · simp [Extended.add, Extended.divNat]
        · rfl
    | last =>
        have hne : (value :: values).map Extended.finite ≠ [] := List.cons_ne_nil _ _
        exact List.getLast_map hne

variable {samples : List (LabeledSample (Extended V))}

lemma max_mem_values_iff :
    aggregateSamplesF64 samples .max ∈ samples.map LabeledSample.value ↔
      ∃ x ∈ samples.map LabeledSample.value, x ≠ .nan := by
  rw [aggregateSamplesF64]
  rcases samples.map LabeledSample.value with _ | ⟨value, values⟩
  · simp
  · exact Extended.foldl_maxNum_mem_iff

lemma min_mem_values_iff :
    aggregateSamplesF64 samples .min ∈ samples.map LabeledSample.value ↔
      ∃ x ∈ samples.map LabeledSample.value, x ≠ .nan := by
  rw [aggregateSamplesF64]
  rcases samples.map LabeledSample.value with _ | ⟨value, values⟩
  · simp
  · exact Extended.foldl_minNum_mem_iff

/-- **Special values.** The comparator of the median is a total preorder on the values of a
window, and the maximum and the minimum are among the values, exactly if some value is a number
and the numbers are all equal if some value is not. -/
theorem special_values_iff :
    (Std.TransCmp (fun a b : {x // x ∈ samples.map LabeledSample.value} =>
        compareForMedian a.1 b.1) ∧
      aggregateSamplesF64 samples .max ∈ samples.map LabeledSample.value ∧
      aggregateSamplesF64 samples .min ∈ samples.map LabeledSample.value) ↔
    (∃ x ∈ samples.map LabeledSample.value, x ≠ .nan) ∧
      (.nan ∈ samples.map LabeledSample.value →
        ∀ a ∈ samples.map LabeledSample.value, ∀ b ∈ samples.map LabeledSample.value,
          a ≠ .nan → b ≠ .nan → a = b) := by
  rw [max_mem_values_iff, min_mem_values_iff, and_self, and_comm]
  exact and_congr_right fun _ => Extended.transCmp_cmpOrEqual_iff

end Aggregation

/-! ### Values that are no numbers -/

/-- The samples of a gauge with the given values. -/
def gaugeSamples (values : List (Extended ℚ)) : List (LabeledSample (Extended ℚ)) :=
  values.map fun value => ⟨value, 0, true, .gauge⟩

/-- **A comparator that is not transitive.** A pod exposes 2, `NaN` and 1: 2 is not greater than
`NaN`, which is not greater than 1.  Of a pod that exposes `NaN` only, the maximum and the
minimum are infinite. -/
theorem nan_breaks_median_and_extrema :
    ["queue_depth 2", "queue_depth NaN", "queue_depth 1"].map
        (fun line => parseMetricLine parseF64 line.toList none) =
      [.finite 2, .nan, .finite 1].map
        (fun value => pure (some ⟨"queue_depth", [], value, .gauge⟩)) ∧
    compareForMedian (.finite 2 : Extended ℚ) .nan = .eq ∧
    compareForMedian (.nan : Extended ℚ) (.finite 1) = .eq ∧
    compareForMedian (.finite 2 : Extended ℚ) (.finite 1) = .gt ∧
    ¬ Std.TransCmp (fun a b : {x // x ∈ (gaugeSamples [.finite 2, .nan, .finite 1]).map
        LabeledSample.value} => compareForMedian a.1 b.1) ∧
    aggregateSamplesF64 (gaugeSamples [.nan]) .max = .negInf ∧
    aggregateSamplesF64 (gaugeSamples [.nan]) .min = .posInf := by
  refine ⟨?_, rfl, rfl, by decide +kernel, ?_, rfl, rfl⟩
  · have hread : ∀ word value, word ≠ [] → (∀ c ∈ word, isWhitespace c = false) →
        parseF64 word = some value →
        parseMetricLine parseF64 ("queue_depth".toList ++ ' ' :: word) none =
          pure (some ⟨"queue_depth", [], value, .gauge⟩) := fun word value =>
      parseMetricLine_unlabelled (by decide) (by simp [isWhitespace])
    have htwo := hread ['2'] (.finite 2) (by decide) (by simp [isWhitespace]) (by decide +kernel)
    have hnan := hread ['N', 'a', 'N'] .nan (by decide) (by simp [isWhitespace]) (by decide +kernel)
    have hone := hread ['1'] (.finite 1) (by decide) (by simp [isWhitespace]) (by decide +kernel)
    exact congrArg₂ List.cons htwo (congrArg₂ List.cons hnan (congrArg₂ List.cons hone rfl))
  · intro htrans
    have hequal := Extended.transCmp_cmpOrEqual_iff.1 htrans
    have h := hequal (by decide +kernel) (.finite 2) (by decide +kernel) (.finite 1)
      (by decide +kernel) nofun nofun
    exact absurd h (by decide +kernel)

end ExternalPodAutoscaler.Webhook
