/-
Durations that overflow (`scraper/scheduler.rs`, `membership/ownership.rs` and
`store/window.rs`).

Three steps of the scheduler and of the workers depend on the durations of an EPA and panic
when they overflow: the instant of the next scrape, the length of the grace window, and the
capacity of a new window.  The seconds of an instant are of type `i64`, those of a duration
of type `u64`, and a buffer has at most `isize::MAX` bytes.

The main result of this file is `durations_in_range_iff`: the upper bounds on the durations of
an EPA under which no step panics.  Then the steps are those of the scheduler and of the store
without bounds (`steps_of_stepsInRange`).  The webhook does not check the bounds
(`admitted_durations_overflow`).
-/
import ExternalPodAutoscaler.Scraper.Scheduler
import ExternalPodAutoscaler.Webhook.Durations

namespace ExternalPodAutoscaler.Scraper

open ExternalPodAutoscaler.Api ExternalPodAutoscaler.Membership ExternalPodAutoscaler.Store
open ExternalPodAutoscaler.Webhook

/-! ### The steps that may panic -/

/-- A result that has to be below a limit; `none` is a panic. -/
def checked (limit n : ℕ) : Option ℕ := if n < limit then some n else none

/-- `Instant + Duration`. -/
def instantAdd (now d : ℕ) : Option ℕ := checked (secs (2 ^ 63)) (now + d)

/-- `Duration + Duration`. -/
def durationAdd (d d' : ℕ) : Option ℕ := checked (secs (2 ^ 64)) (d + d')

/-- `isize::MAX`. -/
def maxBytes : ℕ := 2 ^ 63 - 1

/-- `MetricWindow::new`, for samples of the given number of bytes. -/
def allocateWindow (V : Type) (sampleSize maxSamples : ℕ) : Option (MetricWindow V) :=
  (checked (maxBytes + 1) (maxSamples * sampleSize)).map fun _ => MetricWindow.new maxSamples

/-- `push_sample`, with the allocation of a new window. -/
def checkedPushSample {V : Type} (sampleSize maxSamples : ℕ) (store : MetricsStore V)
    (key : SampleKey) (sample : LabeledSample V) : Option (MetricsStore V) :=
  let window : Option (MetricWindow V) :=
    match store.windows.lookup key with
    | some window => some window
    | none => allocateWindow V sampleSize maxSamples
  window.map fun window =>
    { store with windows := store.windows.insert key (window.push sample) }

lemma checked_eq_some_iff {limit n m : ℕ} : checked limit n = some m ↔ n = m ∧ n < limit := by
  by_cases h : n < limit
  · simp [checked, h]
  · simp only [checked, h, if_false, and_false, reduceCtorEq]

lemma checked_eq_none_iff {limit n : ℕ} : checked limit n = none ↔ limit ≤ n := by
  simp [checked]

lemma isSome_checked_iff {limit n : ℕ} : (checked limit n).isSome = true ↔ n < limit := by
  rw [Option.isSome_iff_exists]
  simp only [checked_eq_some_iff]
  exact ⟨fun ⟨_, _, h⟩ => h, fun h => ⟨n, rfl, h⟩⟩

/-- A window that can be allocated is the new window of the store. -/
lemma allocateWindow_of_le {V : Type} {sampleSize maxSamples : ℕ}
    (h : maxSamples * sampleSize ≤ maxBytes) :
    allocateWindow V sampleSize maxSamples = some (.new maxSamples) := by
  rw [allocateWindow, checked_eq_some_iff.2 ⟨rfl, Nat.lt_succ_of_le h⟩]
  rfl

/-- A push whose window can be allocated is that of the store. -/
lemma checkedPushSample_eq_some {V : Type} {sampleSize maxSamples : ℕ}
    (h : allocateWindow V sampleSize maxSamples = some (.new maxSamples))
    (store : MetricsStore V) (key : SampleKey) (sample : LabeledSample V) :
    checkedPushSample sampleSize maxSamples store key sample =
      some (store.pushSample key sample maxSamples) := by
  rcases hlookup : store.windows.lookup key with _ | window
  · simp [checkedPushSample, hlookup, h, MetricsStore.pushSample]
  · simp [checkedPushSample, hlookup, MetricsStore.pushSample]

/-- No step that depends on the durations of the EPA panics at `now`. -/
def StepsInRange (V : Type) (parseDuration : String → Option ℕ) (sampleSize now : ℕ)
    (epa : Epa) : Prop :=
  ∀ P I, parseDuration epa.spec.scrape.evaluationPeriod = some P →
    parseDuration epa.spec.scrape.interval = some I →
    (instantAdd now I).isSome = true ∧ (durationAdd P graceBuffer).isSome = true ∧
      (allocateWindow V sampleSize (maxSamples P I)).isSome = true

/-- **Steps in range.** While no step panics, the steps are those of the scheduler, of the
ownership and of the store, whose numbers have no bounds. -/
theorem steps_of_stepsInRange {V : Type} {parseDuration : String → Option ℕ}
    {sampleSize now P I : ℕ} {epa : Epa} (h : StepsInRange V parseDuration sampleSize now epa)
    (hP : parseDuration epa.spec.scrape.evaluationPeriod = some P)
    (hI : parseDuration epa.spec.scrape.interval = some I) :
    (∀ (s : Scheduler V) (key ns name : String) (pods : List Pod), ∃ next,
      instantAdd now I = some next ∧
        (s.scheduleRound now key ns name epa I pods).nextScrape key = some (next, I)) ∧
    (∀ l : LostOwnership, l.evaluationPeriod = P → ∃ window,
      durationAdd P graceBuffer = some window ∧
        ∀ t, (KeyPhase.lost l).retain t =
          if elapsed t l.lostAt < window then .lost l else .notTracking) ∧
    ∀ (store : MetricsStore V) (key : SampleKey) (sample : LabeledSample V),
      checkedPushSample sampleSize (maxSamples P I) store key sample =
        some (store.pushSample key sample (maxSamples P I)) := by
  obtain ⟨hnext, hgrace, hwindow⟩ := h P I hP hI
  refine ⟨fun s key ns name pods => ?_, ?_, ?_⟩
  · obtain ⟨next, hnext⟩ := Option.isSome_iff_exists.1 hnext
    obtain ⟨rfl, -⟩ := checked_eq_some_iff.1 hnext
    exact ⟨_, hnext, Function.update_self _ _ _⟩
  · rintro l rfl
    obtain ⟨window, hgrace⟩ := Option.isSome_iff_exists.1 hgrace
    obtain ⟨rfl, -⟩ := checked_eq_some_iff.1 hgrace
    exact ⟨_, hgrace, fun _ => rfl⟩
  · obtain ⟨window, hwindow⟩ := Option.isSome_iff_exists.1 hwindow
    obtain ⟨-, -, rfl⟩ := Option.map_eq_some_iff.1 hwindow
    exact checkedPushSample_eq_some hwindow

/-! ### The bounds -/

/-- A window of an EPA fits into memory exactly if its evaluation period is short enough for
its interval. -/
lemma maxSamples_mul_le_iff {sampleSize P I : ℕ} (hpos : 0 < sampleSize)
    (hle : sampleSize ≤ maxBytes) :
    maxSamples P I * sampleSize ≤ maxBytes ↔
      asSecs P ≤ maxBytes / sampleSize * max (asSecs I) 1 := by
  have hone : 1 ≤ maxBytes / sampleSize := (Nat.one_le_div_iff hpos).2 hle
  have hinterval : 0 < max (asSecs I) 1 := by omega
  calc maxSamples P I * sampleSize ≤ maxBytes
      ↔ maxSamples P I ≤ maxBytes / sampleSize := (Nat.le_div_iff_mul_le hpos).symm
    _ ↔ (asSecs P + max (asSecs I) 1 - 1) / max (asSecs I) 1 ≤ maxBytes / sampleSize := by
        simp only [maxSamples]
        omega
    _ ↔ asSecs P ≤ maxBytes / sampleSize * max (asSecs I) 1 := by
        rw [Nat.div_le_iff_le_mul_add_pred hinterval, Nat.mul_comm (max (asSecs I) 1)]
        omega

/-- **Durations in range.** For an EPA whose durations can be parsed no step panics exactly
when the interval ends before the last instant, the grace window is a duration, and the window
of samples fits into memory. -/
theorem durations_in_range_iff (V : Type) {parseDuration : String → Option ℕ} {epa : Epa}
    {sampleSize now P I : ℕ} (hP : parseDuration epa.spec.scrape.evaluationPeriod = some P)
    (hI : parseDuration epa.spec.scrape.interval = some I) (hpos : 0 < sampleSize)
    (hle : sampleSize ≤ maxBytes) :
    StepsInRange V parseDuration sampleSize now epa ↔
      I < secs (2 ^ 63) - now ∧ P < secs (2 ^ 64 - 5) ∧
        asSecs P ≤ maxBytes / sampleSize * max (asSecs I) 1 := by
  have hinstant : (instantAdd now I).isSome = true ↔ I < secs (2 ^ 63) - now := by
    rw [instantAdd, isSome_checked_iff]
    omega
  have hgrace : (durationAdd P graceBuffer).isSome = true ↔ P < secs (2 ^ 64 - 5) := by
    rw [durationAdd, isSome_checked_iff]
    simp only [graceBuffer, secs]
    omega
  have hwindow : (allocateWindow V sampleSize (maxSamples P I)).isSome = true ↔
      asSecs P ≤ maxBytes / sampleSize * max (asSecs I) 1 := by
    rw [← maxSamples_mul_le_iff hpos hle, allocateWindow, Option.isSome_map, isSome_checked_iff,
      Nat.lt_succ_iff]
  rw [← hinstant, ← hgrace, ← hwindow]
  constructor
  · intro h
    exact h P I hP hI
  · intro h P' I' hP' hI'
    obtain rfl := Option.some.inj (hP.symm.trans hP')
    obtain rfl := Option.some.inj (hI.symm.trans hI')
    exact h

/-! ### Durations without a bound -/

/-- The EPA `default/web` with the given durations. -/
def durationEpa (evaluationPeriod interval : String) : Epa :=
  { webEpa interval with spec := { (webEpa interval).spec with
      scrape := { (webEpa interval).spec.scrape with evaluationPeriod := evaluationPeriod } } }

/-- The reader of durations, with the limit of milliseconds that the library has. -/
def readDuration : String → Option ℕ := readNumber 18446744073709

/-- **Durations without a bound are admitted.** The longest evaluation period leaves no room
for the grace buffer, nor for the windows with samples of 32 bytes, and an interval of
`2 ^ 63` seconds ends after the last instant. -/
theorem admitted_durations_overflow :
    (validateEpaSpec (durationEpa "18446744073709551615s" "15s")).accepts = true ∧
    durationAdd (secs (2 ^ 64 - 1)) graceBuffer = none ∧
    allocateWindow ℕ 32 (maxSamples (secs (2 ^ 64 - 1)) (secs 15)) = none ∧
    ¬ StepsInRange ℕ readDuration 32 0 (durationEpa "18446744073709551615s" "15s") ∧
    (validateEpaSpec (durationEpa "10m" "9223372036854775808s")).accepts = true ∧
    instantAdd 0 (secs (2 ^ 63)) = none ∧
    ¬ StepsInRange ℕ readDuration 32 0 (durationEpa "10m" "9223372036854775808s") := by
  have hlong : readDuration "18446744073709551615s" = some (secs (2 ^ 64 - 1)) := by decide
  have hfar : readDuration "9223372036854775808s" = some (secs (2 ^ 63)) := by decide
  have hgrace : durationAdd (secs (2 ^ 64 - 1)) graceBuffer = none := by decide
  have hnext : instantAdd 0 (secs (2 ^ 63)) = none := by decide
  refine ⟨by decide, hgrace, by rfl, ?_, by decide, hnext, ?_⟩
  · intro h
    obtain ⟨-, hsome, -⟩ := h (secs (2 ^ 64 - 1)) (secs 15) hlong (by decide)
    rw [hgrace] at hsome
    cases hsome
  · intro h
    obtain ⟨hsome, -⟩ := h (secs 600) (secs (2 ^ 63)) (by decide) hfar
    rw [hnext] at hsome
    cases hsome

theorem durations_in_range_iff_fifteen_seconds :
    StepsInRange ℕ readDuration 32 0 (durationEpa "10m" "15s") ↔
      secs 15 < secs (2 ^ 63) - 0 ∧ secs 600 < secs (2 ^ 64 - 5) ∧
        asSecs (secs 600) ≤ maxBytes / 32 * max (asSecs (secs 15)) 1 := by
  have hP : readDuration (durationEpa "10m" "15s").spec.scrape.evaluationPeriod =
      some (secs 600) := by decide
  have hI : readDuration (durationEpa "10m" "15s").spec.scrape.interval = some (secs 15) := by
    decide
  exact durations_in_range_iff ℕ hP hI (by decide) (by decide)

end ExternalPodAutoscaler.Scraper
