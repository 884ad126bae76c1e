/-
Validation of EPAs (`webhook/admission/handlers.rs`).

The checks of the validating webhook, in the order in which it makes them; the first one
that fails gives the message of the denial.  A duration is cut into its number and its
unit by byte positions, which is a panic when the last character is not a single byte.

The main result of this file is `validateDuration_accepts`: every number below `2 ^ 64`
followed by one of the units is admitted as a duration, so no check bounds a duration.
-/
import Mathlib
import ExternalPodAutoscaler.Api.Epa
import ExternalPodAutoscaler.Lib.Splitting

namespace ExternalPodAutoscaler.Webhook

open ExternalPodAutoscaler.Api ExternalPodAutoscaler.Lib

/-- The outcome of a check: a panic is `none`, a denial carries its message. -/
abbrev Check := ExceptT String Option Unit

/-- The check passes. -/
def Check.accepts (c : Check) : Bool :=
  match c.run with
  | some (.ok ()) => true
  | _ => false

/-- A condition on which the check returns with a denial. -/
def denyIf (b : Bool) (message : String) : Check := if b then throw message else pure ()

/-- A slice that is not on character boundaries. -/
def panic : Check := (none : Option (Except String Unit))

/-! ### Parsing of numbers -/

/-- `char::is_ascii_digit`. -/
def isDigit (c : Char) : Bool := '0' ≤ c ∧ c ≤ '9'

/-- `char::is_whitespace`: the Unicode property `White_Space`. -/
def isWhitespace (c : Char) : Bool :=
  let n := c.toNat
  (9 ≤ n && n ≤ 13) || n == 0x20 || n == 0x85 || n == 0xa0 || n == 0x1680 ||
    (0x2000 ≤ n && n ≤ 0x200a) || n == 0x2028 || n == 0x2029 || n == 0x202f || n == 0x205f ||
    n == 0x3000

/-- `str::trim`. -/
def trim (s : List Char) : List Char :=
  ((s.dropWhile isWhitespace).reverse.dropWhile isWhitespace).reverse

/-- `str::len`: the number of bytes. -/
def byteLength (s : List Char) : ℕ := (s.map Char.utf8Size).sum

/-- The value of a list of decimal digits. -/
def digitsValue (digits : List Char) : ℕ :=
  digits.foldl (fun n c => 10 * n + (c.toNat - '0'.toNat)) 0

/-- Drops an optional plus sign. -/
def dropPlus : List Char → List Char
  | '+' :: rest => rest
  | s => s

/-- `str::parse::<u64>`: an optional plus sign and at least one digit, in range. -/
def parseU64 (s : List Char) : Option ℕ :=
  let digits := dropPlus s
  if digits ≠ [] ∧ digits.all isDigit ∧ digitsValue digits < 2 ^ 64 then some (digitsValue digits)
  else none

/-- Drops an optional sign. -/
def dropSign : List Char → List Char
  | '+' :: rest => rest
  | '-' :: rest => rest
  | s => s

/-- The exponent of a float: `e` or `E`, an optional sign and at least one digit. -/
def isExponent : List Char → Bool
  | [] => true
  | c :: rest =>
    (c == 'e' || c == 'E') && !(dropSign rest).isEmpty && (dropSign rest).all isDigit

/-- A decimal number: digits with an optional point, at least one digit, and an optional
exponent. -/
def isDecimal (s : List Char) : Bool :=
  let whole := s.takeWhile isDigit
  match s.dropWhile isDigit with
  | '.' :: rest =>
    let fraction := rest.takeWhile isDigit
    (!whole.isEmpty || !fraction.isEmpty) && isExponent (rest.dropWhile isDigit)
  | rest => !whole.isEmpty && isExponent rest

/-- Whether `str::parse::<f64>` succeeds. -/
def parsesF64 (s : List Char) : Bool :=
  let unsigned := dropSign s
  let lower := unsigned.map Char.toLower
  lower == "inf".toList || lower == "infinity".toList || lower == "nan".toList ||
    isDecimal unsigned

/-! ### The checks -/

/-- `validate_scrape_path`. -/
def validateScrapePath (path : String) : Check := do
  denyIf (path.toList.head? ≠ some '/') s!"scrape.path must start with '/', got '{path}'"
  denyIf (['.', '.'] <:+: path.toList)
    s!"scrape.path must not contain '..' (path traversal attempt): '{path}'"
  denyIf (['/', '/'] <:+: path.toList)
    s!"scrape.path must not contain consecutive slashes: '{path}'"
  denyIf ('\x00' ∈ path.toList) "scrape.path must not contain null bytes"
  denyIf (256 < byteLength path.toList)
    s!"scrape.path too long (max 256 characters), got {byteLength path.toList} characters"

/-- The units of a duration. -/
def durationUnits : List String := ["ms", "s", "m", "h"]

/-- The check of a duration that has been cut into its number and its unit. -/
def validateParts (field duration : String) (num : List Char) (unit : String) : Check := do
  denyIf (parseU64 num).isNone s!"{field} has invalid number: {duration}"
  denyIf (unit ∉ durationUnits) s!"{field} has invalid unit (must be ms, s, m, or h): {duration}"

/-- `validate_duration`. -/
def validateDuration (duration field : String) : Check :=
  let trimmed := trim duration.toList
  let shown := String.ofList trimmed
  if trimmed = [] then throw s!"{field} must not be empty"
  else
    match trimmed.dropSuffix? ['m', 's'] with
    | some num => validateParts field shown num "ms"
    | none =>
      if 1 < byteLength trimmed then
        match trimmed.getLast? with
        | some c =>
          -- the unit is the last byte of the string
          if c.utf8Size = 1 then
            validateParts field shown trimmed.dropLast (String.singleton c)
          else panic
        | none => panic
      else throw s!"{field} has invalid format: {shown}"

/-- The checks of the entries of `spec.metrics`, from index `i` on. -/
def validateMetrics : ℕ → List MetricSpec → Check
  | _, [] => pure ()
  | i, metric :: metrics => do
    denyIf (metric.metricName = "") s!"metrics[{i}].metricName must not be empty"
    denyIf (metric.targetValue = "") s!"metrics[{i}].targetValue must not be empty"
    -- the string is not empty, so the parser has only one other error
    denyIf (!parsesF64 metric.targetValue.toList)
      s!"metrics[{i}].targetValue must be a valid number: invalid float literal"
    validateMetrics (i + 1) metrics

/-- `validate_epa_spec`. -/
def validateEpaSpec (epa : Epa) : Check := do
  denyIf (epa.spec.minReplicas < 1) "minReplicas must be at least 1"
  denyIf (epa.spec.maxReplicas < epa.spec.minReplicas)
    (s!"maxReplicas ({epa.spec.maxReplicas}) must be greater than or equal to " ++
      s!"minReplicas ({epa.spec.minReplicas})")
  denyIf (epa.spec.scaleTargetRef.name = "") "scaleTargetRef.name must not be empty"
  denyIf (epa.spec.scaleTargetRef.kind = "") "scaleTargetRef.kind must not be empty"
  denyIf epa.spec.metrics.isEmpty "At least one metric must be specified"
  validateMetrics 0 epa.spec.metrics
  denyIf (epa.spec.scrape.port < 1 ∨ 65535 < epa.spec.scrape.port)
    s!"scrape.port must be between 1 and 65535, got {epa.spec.scrape.port}"
  denyIf (epa.spec.scrape.scheme ≠ "http" ∧ epa.spec.scrape.scheme ≠ "https")
    s!"scrape.scheme must be 'http' or 'https', got '{epa.spec.scrape.scheme}'"
  validateScrapePath epa.spec.scrape.path
  validateDuration epa.spec.scrape.interval "scrape.interval"
  validateDuration epa.spec.scrape.timeout "scrape.timeout"
  validateDuration epa.spec.scrape.evaluationPeriod "scrape.evaluationPeriod"

/-! ### What is admitted -/

@[simp] lemma accepts_pure : Check.accepts (pure ()) = true := rfl

@[simp] lemma accepts_bind (c d : Check) :
    Check.accepts (do c; d) = (c.accepts && d.accepts) := by
  rcases c with _ | _ | ⟨⟨⟩⟩ <;> rfl

@[simp] lemma accepts_denyIf (b : Bool) (message : String) :
    (denyIf b message).accepts = !b := by
  cases b <;> rfl

lemma validateMetrics_accepts_iff {i : ℕ} {metrics : List MetricSpec} :
    (validateMetrics i metrics).accepts = true ↔ ∀ metric ∈ metrics,
      metric.metricName ≠ "" ∧ metric.targetValue ≠ "" ∧
        parsesF64 metric.targetValue.toList = true := by
  induction metrics generalizing i with
  | nil => simp [validateMetrics]
  | cons metric metrics ih => simp [validateMetrics, ih, and_assoc]

lemma validateEpaSpec_accepts_iff {epa : Epa} : (validateEpaSpec epa).accepts = true ↔
    1 ≤ epa.spec.minReplicas ∧ epa.spec.minReplicas ≤ epa.spec.maxReplicas ∧
    epa.spec.scaleTargetRef.name ≠ "" ∧ epa.spec.scaleTargetRef.kind ≠ "" ∧
    epa.spec.metrics ≠ [] ∧ (∀ metric ∈ epa.spec.metrics, metric.metricName ≠ "" ∧
      metric.targetValue ≠ "" ∧ parsesF64 metric.targetValue.toList = true) ∧
    (1 ≤ epa.spec.scrape.port ∧ epa.spec.scrape.port ≤ 65535) ∧
    (epa.spec.scrape.scheme = "http" ∨ epa.spec.scrape.scheme = "https") ∧
    (validateScrapePath epa.spec.scrape.path).accepts = true ∧
    (validateDuration epa.spec.scrape.interval "scrape.interval").accepts = true ∧
    (validateDuration epa.spec.scrape.timeout "scrape.timeout").accepts = true ∧
    (validateDuration epa.spec.scrape.evaluationPeriod
      "scrape.evaluationPeriod").accepts = true := by
  simp only [validateEpaSpec, accepts_bind, accepts_denyIf, Bool.and_eq_true, Bool.not_eq_true',
    decide_eq_false_iff_not, validateMetrics_accepts_iff, not_lt, not_or,
    List.isEmpty_eq_false_iff, not_and_or, not_not, ne_eq]

/-! ### Admitted durations -/

lemma isWhitespace_eq_false_of_isDigit {c : Char} (h : isDigit c = true) :
    isWhitespace c = false := by
  have hbounds : 48 ≤ c.toNat ∧ c.toNat ≤ 57 := by
    simpa [isDigit, Char.le_def, UInt32.le_iff_toNat_le] using h
  simp only [isWhitespace, Bool.or_eq_false_iff, Bool.and_eq_false_iff, beq_eq_false_iff_ne,
    decide_eq_false_iff_not, ne_eq]
  omega

lemma trim_eq_dropEnds (s : List Char) : trim s = dropEnds isWhitespace s := rfl

/-- White space around a list without any is trimmed. -/
lemma trim_append {before s after : List Char} (hbefore : ∀ c ∈ before, isWhitespace c = true)
    (hafter : ∀ c ∈ after, isWhitespace c = true) (hs : ∀ c ∈ s, isWhitespace c = false) :
    trim (before ++ s ++ after) = s :=
  dropEnds_append hbefore hafter (fun c hc => hs c (List.mem_of_head? hc))
    (fun c hc => hs c (List.mem_of_getLast? hc))

lemma trim_eq_self {s : List Char} (hs : ∀ c ∈ s, isWhitespace c = false) : trim s = s :=
  dropEnds_eq_self (fun c hc => hs c (List.mem_of_head? hc))
    (fun c hc => hs c (List.mem_of_getLast? hc))

lemma parseU64_of_digits {digits : List Char} (hne : digits ≠ [])
    (hdig : ∀ c ∈ digits, isDigit c = true) (hval : digitsValue digits < 2 ^ 64) :
    parseU64 digits = some (digitsValue digits) := by
  have hplus : dropPlus digits = digits := by
    unfold dropPlus
    split
    · exact absurd (hdig '+' List.mem_cons_self) (by decide)
    · rfl
  have hall : digits.all isDigit = true := List.all_eq_true.2 hdig
  simp only [parseU64, hplus]
  rw [if_pos ⟨hne, hall, hval⟩]

lemma validateParts_accepts {field shown unit : String} {digits : List Char}
    (hne : digits ≠ []) (hdig : ∀ c ∈ digits, isDigit c = true)
    (hval : digitsValue digits < 2 ^ 64) (hunit : unit ∈ durationUnits) :
    (validateParts field shown digits unit).accepts = true := by
  simp [validateParts, parseU64_of_digits hne hdig hval, hunit]

lemma isWhitespace_of_mem_append {digits u : List Char} (hdig : ∀ c ∈ digits, isDigit c = true)
    (hu : ∀ c ∈ u, isWhitespace c = false) : ∀ c ∈ digits ++ u, isWhitespace c = false := by
  intro c hc
  rcases List.mem_append.1 hc with hc | hc
  · exact isWhitespace_eq_false_of_isDigit (hdig c hc)
  · exact hu c hc

lemma trim_digits_append {digits u : List Char} (hdig : ∀ c ∈ digits, isDigit c = true)
    (hu : ∀ c ∈ u, isWhitespace c = false) : trim (digits ++ u) = digits ++ u :=
  trim_eq_self (isWhitespace_of_mem_append hdig hu)

lemma one_lt_byteLength {digits : List Char} {c : Char} (hne : digits ≠ []) :
    1 < byteLength (digits ++ [c]) := by
  rcases digits with _ | ⟨d, digits⟩
  · exact absurd rfl hne
  · have hd := d.utf8Size_pos
    have hc := c.utf8Size_pos
    simp only [byteLength, List.cons_append, List.map_cons, List.map_append, List.sum_cons,
      List.sum_append, List.map_nil, List.sum_nil]
    omega

/-- A number with a unit of one letter is not mistaken for one in milliseconds. -/
lemma dropSuffix_ms_eq_none {digits : List Char} {c : Char}
    (hdig : ∀ c ∈ digits, isDigit c = true) :
    (digits ++ [c]).dropSuffix? ['m', 's'] = none := by
  by_contra hsome
  obtain ⟨num, hnum⟩ := Option.ne_none_iff_exists'.1 hsome
  obtain ⟨s', heq, hs'⟩ := List.dropSuffix?_eq_some_iff.1 hnum
  obtain rfl : s' = ['m', 's'] := beq_iff_eq.1 hs'
  have hdrop : digits = num ++ ['m'] := by
    have := congrArg List.dropLast heq
    simpa using this
  have hm := hdig 'm' (by simp [hdrop])
  exact absurd hm (by decide)

/-- **Every number with a unit is an admitted duration.** -/
theorem validateDuration_accepts {digits : List Char} {unit : String} (field : String)
    (hne : digits ≠ []) (hdig : ∀ c ∈ digits, isDigit c = true)
    (hval : digitsValue digits < 2 ^ 64) (hunit : unit ∈ durationUnits) :
    (validateDuration (String.ofList digits ++ unit) field).accepts = true := by
  have hletter : ∀ c : Char, isWhitespace c = false → c.utf8Size = 1 →
      String.singleton c ∈ durationUnits →
      (validateDuration (String.ofList digits ++ String.singleton c) field).accepts = true := by
    intro c hc hsize hu
    have htrim : trim (digits ++ [c]) = digits ++ [c] :=
      trim_digits_append hdig (by simpa using hc)
    simp only [validateDuration, String.toList_append, String.toList_ofList,
      String.toList_singleton, htrim, List.append_eq_nil_iff, List.cons_ne_nil, and_false, if_false,
      dropSuffix_ms_eq_none hdig, one_lt_byteLength hne, if_true, List.getLast?_concat, hsize,
      List.dropLast_concat]
    exact validateParts_accepts hne hdig hval hu
  simp only [durationUnits, List.mem_cons, List.not_mem_nil, or_false] at hunit
  rcases hunit with rfl | rfl | rfl | rfl
  · have hms : ("ms" : String).toList = ['m', 's'] := by decide
    have hletters : ∀ c ∈ ['m', 's'], isWhitespace c = false :=
      List.forall_mem_cons.2 ⟨by decide, List.forall_mem_singleton.2 (by decide)⟩
    have htrim : trim (digits ++ ['m', 's']) = digits ++ ['m', 's'] :=
      trim_digits_append hdig hletters
    have hsuffix : (digits ++ ['m', 's']).dropSuffix? ['m', 's'] = some digits :=
      List.dropSuffix?_eq_some_iff.2 ⟨_, rfl, by decide⟩
    simp only [validateDuration, String.toList_append, String.toList_ofList, hms, htrim,
      List.append_eq_nil_iff, List.cons_ne_nil, and_false, if_false, hsuffix]
    exact validateParts_accepts hne hdig hval (by decide)
  · exact hletter 's' (by decide) (by decide) (by decide)
  · exact hletter 'm' (by decide) (by decide) (by decide)
  · exact hletter 'h' (by decide) (by decide) (by decide)

end ExternalPodAutoscaler.Webhook
