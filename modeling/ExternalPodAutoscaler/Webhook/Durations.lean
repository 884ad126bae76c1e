/-
Durations of admitted EPAs (`validate_duration` of `webhook/admission/handlers.rs` and
`parse_duration` of `scraper/worker.rs`).

The webhook reads a duration as a number of type `u64` and one of four units; the scraper
leaves it to a library that reads numbers with units, of which only the documented part is
assumed here: a number with a unit is read unless it overflows, and nothing else may come
before the first digit than white space.

The main result of this file is `admitted_duration_usable_iff`: an admitted duration is read
as the number times the unit exactly when it has no plus sign and does not overflow.  The
webhook checks neither (`admitted_durations_rejected`).
-/
import ExternalPodAutoscaler.Clock
import ExternalPodAutoscaler.Webhook.Admission

namespace ExternalPodAutoscaler.Webhook

open ExternalPodAutoscaler.Lib

/-! ### What the webhook reads -/

/-- The number and the unit of a trimmed duration, as `validate_duration` cuts it. -/
def durationParts (trimmed : List Char) : Option (List Char × String) :=
  match trimmed.dropSuffix? ['m', 's'] with
  | some num => some (num, "ms")
  | none => trimmed.getLast?.map fun c => (trimmed.dropLast, String.singleton c)

/-- The number and the unit that `validate_duration` recognises. -/
def recognisedDuration (duration : String) : Option (ℕ × String) := do
  let (num, unit) ← durationParts (trim duration.toList)
  let n ← parseU64 num
  if unit ∈ durationUnits then some (n, unit) else none

/-- A number without a sign. -/
def IsNumber (digits : List Char) : Prop := digits ≠ [] ∧ ∀ c ∈ digits, isDigit c = true

lemma validateParts_accepts_iff {field shown unit : String} {num : List Char} :
    (validateParts field shown num unit).accepts = true ↔
      (parseU64 num).isSome = true ∧ unit ∈ durationUnits := by
  simp [validateParts]

lemma utf8Size_of_mem_durationUnits {c : Char} (h : String.singleton c ∈ durationUnits) :
    c.utf8Size = 1 := by
  have hletter : ∀ d : Char, String.singleton c = String.singleton d → c = d := fun d hd => by
    simpa using congrArg String.toList hd
  simp only [durationUnits, List.mem_cons, List.not_mem_nil, or_false] at h
  rcases h with h | h | h | h
  · have hlen : 1 = ("ms" : String).length := by
      simpa using congrArg String.length h
    exact absurd hlen (by decide)
  · rw [hletter 's' h]
    rfl
  · rw [hletter 'm' h]
    rfl
  · rw [hletter 'h' h]
    rfl

lemma recognisedDuration_isSome_iff {duration : String} {num : List Char} {unit : String}
    (h : durationParts (trim duration.toList) = some (num, unit)) :
    (recognisedDuration duration).isSome = true ↔
      (parseU64 num).isSome = true ∧ unit ∈ durationUnits := by
  simp only [recognisedDuration, h, Option.bind_eq_bind, Option.bind_some]
  rcases parseU64 num with _ | n
  · simp
  · by_cases hunit : unit ∈ durationUnits <;> simp [hunit]

/-- A duration is admitted exactly if it is recognised. -/
lemma validateDuration_accepts_iff {duration field : String} :
    (validateDuration duration field).accepts = true ↔
      (recognisedDuration duration).isSome = true := by
  unfold validateDuration
  dsimp only
  split
  · rename_i hempty
    simp [recognisedDuration, durationParts, hempty]
    rfl
  · rename_i hne
    split
    · rename_i num hsuffix
      have hparts : durationParts (trim duration.toList) = some (num, "ms") := by
        rw [durationParts, hsuffix]
      rw [validateParts_accepts_iff, recognisedDuration_isSome_iff hparts]
    · rename_i hsuffix
      obtain ⟨c, hlast⟩ := Option.ne_none_iff_exists'.1 (mt List.getLast?_eq_none_iff.1 hne)
      have hparts : durationParts (trim duration.toList) =
          some ((trim duration.toList).dropLast, String.singleton c) := by
        simp only [durationParts, hsuffix, hlast, Option.map_some]
      rw [recognisedDuration_isSome_iff hparts]
      split
      · simp only [hlast]
        split
        · exact validateParts_accepts_iff
        · rename_i hsize
          refine iff_of_false Bool.false_ne_true ?_
          exact fun h => hsize (utf8Size_of_mem_durationUnits h.2)
      · -- a single character is a unit without a number
        rename_i hshort
        refine iff_of_false Bool.false_ne_true ?_
        rintro ⟨hnum, -⟩
        have hone : (trim duration.toList).dropLast = [] := by
          by_contra hmore
          have hlong := one_lt_byteLength (c := c) hmore
          rw [List.dropLast_append_getLast? c hlast] at hlong
          exact hshort hlong
        rw [hone] at hnum
        exact absurd hnum (by decide)

lemma parseU64_eq_some {num : List Char} {n : ℕ} (h : parseU64 num = some n) :
    ∃ plus digits, (plus = [] ∨ plus = ['+']) ∧ IsNumber digits ∧ digitsValue digits < 2 ^ 64 ∧
      num = plus ++ digits ∧ n = digitsValue digits := by
  have hsplit : ∃ plus, (plus = [] ∨ plus = ['+']) ∧ num = plus ++ dropPlus num := by
    unfold dropPlus
    split
    · exact ⟨['+'], Or.inr rfl, rfl⟩
    · exact ⟨[], Or.inl rfl, rfl⟩
  obtain ⟨plus, hplus, hnum⟩ := hsplit
  simp only [parseU64] at h
  split at h
  · rename_i hcond
    obtain ⟨hne, hall, hlt⟩ := hcond
    exact ⟨plus, dropPlus num, hplus, ⟨hne, List.all_eq_true.1 hall⟩, hlt, hnum,
      (Option.some.inj h).symm⟩
  · cases h

lemma durationParts_eq_some {trimmed num : List Char} {unit : String}
    (h : durationParts trimmed = some (num, unit)) : trimmed = num ++ unit.toList := by
  unfold durationParts at h
  split at h
  · rename_i num' hsuffix
    obtain ⟨rfl, rfl⟩ := Prod.mk.inj (Option.some.inj h)
    obtain ⟨suffix, htrimmed, hsame⟩ := List.dropSuffix?_eq_some_iff.1 hsuffix
    rw [htrimmed, beq_iff_eq.1 hsame]
    rfl
  · obtain ⟨c, hlast, heq⟩ := Option.map_eq_some_iff.1 h
    obtain ⟨rfl, rfl⟩ := Prod.mk.inj heq
    rw [String.toList_singleton, List.dropLast_append_getLast? c hlast]

/-- An admitted duration is a number with a unit, and it may have a plus sign. -/
lemma parts_of_validateDuration {duration field : String}
    (h : (validateDuration duration field).accepts = true) :
    ∃ plus digits unit, (plus = [] ∨ plus = ['+']) ∧ IsNumber digits ∧ unit ∈ durationUnits ∧
      digitsValue digits < 2 ^ 64 ∧ trim duration.toList = plus ++ digits ++ unit.toList ∧
      recognisedDuration duration = some (digitsValue digits, unit) := by
  obtain ⟨⟨n, unit⟩, hrec⟩ := Option.isSome_iff_exists.1 (validateDuration_accepts_iff.1 h)
  obtain ⟨⟨num, unit'⟩, hparts, hrest⟩ := Option.bind_eq_some_iff.1 hrec
  obtain ⟨n', hnum, hunit⟩ := Option.bind_eq_some_iff.1 hrest
  split at hunit
  · rename_i hmem
    obtain ⟨rfl, rfl⟩ := Prod.mk.inj (Option.some.inj hunit)
    obtain ⟨plus, digits, hplus, hdigits, hlt, rfl, rfl⟩ := parseU64_eq_some hnum
    exact ⟨plus, digits, unit', hplus, hdigits, hmem, hlt, durationParts_eq_some hparts, hrec⟩
  · cases hunit

/-! ### What the scraper reads -/

/-- The length of a unit. -/
def unitNanos (unit : String) : ℕ :=
  if unit = "ms" then 1000000
  else if unit = "s" then secs 1
  else if unit = "m" then secs 60
  else secs 3600

/-- The number and the duration do not overflow: the number and the seconds are of type `u64`,
and milliseconds have a limit of their own. -/
def InRange (maxMillis n : ℕ) (unit : String) : Prop :=
  n < 2 ^ 64 ∧ n * unitNanos unit < secs (2 ^ 64) ∧ (unit = "ms" → n ≤ maxMillis)

instance (maxMillis n : ℕ) (unit : String) : Decidable (InRange maxMillis n unit) :=
  inferInstanceAs (Decidable (_ ∧ _ ∧ _))

/-- What is documented of the library: a number with a unit, between white space, is read
unless it overflows; and what does not start with a digit is an error. -/
structure ReadsNumbers (parseDuration : String → Option ℕ) (maxMillis : ℕ) : Prop where
  number : ∀ (before digits after : List Char) (unit : String),
    (∀ c ∈ before, isWhitespace c = true) → (∀ c ∈ after, isWhitespace c = true) →
    IsNumber digits → unit ∈ durationUnits →
    parseDuration (String.ofList (before ++ (digits ++ unit.toList) ++ after)) =
      if InRange maxMillis (digitsValue digits) unit
      then some (digitsValue digits * unitNanos unit) else none
  noSign : ∀ (before : List Char) (c : Char) (rest : List Char),
    (∀ c ∈ before, isWhitespace c = true) → isDigit c = false → isWhitespace c = false →
    parseDuration (String.ofList (before ++ c :: rest)) = none

section Usable

variable {parseDuration : String → Option ℕ} {maxMillis : ℕ} {duration field : String}

/-- **Admitted durations are usable exactly without a sign and in range.** An admitted
duration is a number with a unit, between white space, and may have a plus sign.  The scraper
reads the number times the unit exactly when there is no sign and nothing overflows. -/
theorem admitted_duration_usable_iff (hp : ReadsNumbers parseDuration maxMillis)
    (hadm : (validateDuration duration field).accepts = true) :
    ∃ plus digits unit, (plus = [] ∨ plus = ['+']) ∧ IsNumber digits ∧ unit ∈ durationUnits ∧
      trim duration.toList = plus ++ digits ++ unit.toList ∧
      recognisedDuration duration = some (digitsValue digits, unit) ∧
      (parseDuration duration = some (digitsValue digits * unitNanos unit) ↔
        plus = [] ∧ InRange maxMillis (digitsValue digits) unit) := by
  obtain ⟨plus, digits, unit, hplus, hdigits, hunit, -, htrim, hrec⟩ :=
    parts_of_validateDuration hadm
  refine ⟨plus, digits, unit, hplus, hdigits, hunit, htrim, hrec, ?_⟩
  obtain ⟨before, after, hbefore, hafter, heq⟩ :=
    exists_eq_append_dropEnds isWhitespace duration.toList
  rw [← trim_eq_dropEnds, htrim] at heq
  rcases hplus with rfl | rfl
  · have hread := hp.number before digits after unit hbefore hafter hdigits hunit
    rw [List.nil_append] at heq
    rw [← heq, String.ofList_toList] at hread
    rw [hread]
    by_cases hrange : InRange maxMillis (digitsValue digits) unit
    · simp [hrange]
    · simp [hrange]
  · have hread := hp.noSign before '+' (digits ++ unit.toList ++ after) hbefore (by decide)
      (by decide)
    have hsame : before ++ '+' :: (digits ++ unit.toList ++ after) = duration.toList := by
      rw [heq]
      simp
    rw [hsame, String.ofList_toList] at hread
    simp [hread]

end Usable

/-! ### A reader of durations -/

/-- A reader of a single number with a unit. -/
def readNumber (maxMillis : ℕ) (duration : String) : Option ℕ :=
  let trimmed := trim duration.toList
  let digits := trimmed.takeWhile isDigit
  let unit := String.ofList (trimmed.dropWhile isDigit)
  let n := digitsValue digits
  if digits ≠ [] ∧ unit ∈ durationUnits ∧ InRange maxMillis n unit then some (n * unitNanos unit)
  else none

lemma isWhitespace_of_mem_unit {unit : String} (hunit : unit ∈ durationUnits) :
    ∀ c ∈ unit.toList, isWhitespace c = false ∧ isDigit c = false := by
  have hall : ∀ unit ∈ durationUnits,
      unit.toList.all (fun c => !isWhitespace c && !isDigit c) = true := by decide
  intro c hc
  simpa using List.all_eq_true.1 (hall unit hunit) c hc

/-- What starts with another character keeps it when it is trimmed. -/
lemma exists_trim_eq_cons {before rest : List Char} {c : Char}
    (hbefore : ∀ c ∈ before, isWhitespace c = true) (hc : isWhitespace c = false) :
    ∃ rest', trim (before ++ c :: rest) = c :: rest' := by
  have hstart : (c :: rest).dropWhile isWhitespace = c :: rest := by simp [hc]
  rw [trim, List.dropWhile_append_of_pos hbefore, hstart, List.reverse_cons, List.dropWhile_append]
  split
  · exact ⟨[], by simp [hc]⟩
  · exact ⟨(rest.reverse.dropWhile isWhitespace).reverse, by simp⟩

lemma readNumber_reads (maxMillis : ℕ) : ReadsNumbers (readNumber maxMillis) maxMillis where
  number before digits after unit hbefore hafter hdigits hunit := by
    obtain ⟨hne, hdig⟩ := hdigits
    have hletters := isWhitespace_of_mem_unit hunit
    have htrim : trim (before ++ (digits ++ unit.toList) ++ after) = digits ++ unit.toList :=
      trim_append hbefore hafter (isWhitespace_of_mem_append hdig fun c hc => (hletters c hc).1)
    have hnone : unit.toList.takeWhile isDigit = [] ∧
        unit.toList.dropWhile isDigit = unit.toList := by
      rcases hu : unit.toList with _ | ⟨c, cs⟩
      · exact ⟨rfl, rfl⟩
      · have hc : isDigit c = false := (hletters c (hu ▸ List.mem_cons_self)).2
        simp [hc]
    simp only [readNumber, String.toList_ofList, htrim, List.takeWhile_append_of_pos hdig,
      List.dropWhile_append_of_pos hdig, hnone, List.append_nil, String.ofList_toList]
    simp [hne, hunit]
  noSign before c rest hbefore hdigit hc := by
    obtain ⟨rest', htrim⟩ : ∃ rest', trim (before ++ c :: rest) = c :: rest' :=
      exists_trim_eq_cons hbefore hc
    simp [readNumber, htrim, hdigit]

/-- **Signs and long durations are admitted.** A plus sign and a number of minutes that does
not fit into `u64` seconds are admitted, and not read. -/
theorem admitted_durations_rejected :
    ReadsNumbers (readNumber 18446744073709) 18446744073709 ∧
    (validateDuration "+15s" "scrape.interval").accepts = true ∧
    recognisedDuration "+15s" = some (15, "s") ∧
    readNumber 18446744073709 "+15s" = none ∧
    (validateDuration "307445734561825861m" "scrape.interval").accepts = true ∧
    recognisedDuration "307445734561825861m" = some (307445734561825861, "m") ∧
    readNumber 18446744073709 "307445734561825861m" = none :=
  ⟨readNumber_reads _, by decide, by decide, by decide, by decide, by decide, by decide⟩

theorem admitted_duration_usable_iff_fifteen_seconds :
    ∃ plus digits unit, (plus = [] ∨ plus = ['+']) ∧ IsNumber digits ∧ unit ∈ durationUnits ∧
      trim (" 15s" : String).toList = plus ++ digits ++ unit.toList ∧
      recognisedDuration " 15s" = some (digitsValue digits, unit) ∧
      (readNumber 18446744073709 " 15s" = some (digitsValue digits * unitNanos unit) ↔
        plus = [] ∧ InRange 18446744073709 (digitsValue digits) unit) := by
  have hadm : (validateDuration " 15s" "scrape.interval").accepts = true := by decide
  exact admitted_duration_usable_iff (readNumber_reads 18446744073709) hadm

end ExternalPodAutoscaler.Webhook
