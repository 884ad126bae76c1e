/-
Eviction of stale windows while an EPA is scraped (`Scheduler::run`).

The scheduler ticks once a second.  A run assigns to every tick the surroundings it reads,
the time from the tick to the clock read of its eviction, and the samples that workers push
between the tick and the next one, before or after the eviction.

The main result of this file is `live_windows_kept_iff`: while an EPA is owned and its pod
is scraped at each round, the eviction removes no window of the pod in any run exactly when
the interval, rounded up to whole ticks, together with what the scrapes and the eviction are
delayed by, is at most the two minutes after which a window is stale.  The proof compares
the tick at which the last sample was pushed with the tick of the eviction: the next push is
due at most one round and one scrape later (`exists_next_push`).
-/
import ExternalPodAutoscaler.Scraper.Scheduler
import ExternalPodAutoscaler.Webhook.Admission

namespace ExternalPodAutoscaler.Scraper

open ExternalPodAutoscaler.Api ExternalPodAutoscaler.Membership ExternalPodAutoscaler.Store
open ExternalPodAutoscaler.Webhook

/-- A sample pushed by a worker. -/
structure Push (V : Type) where
  key : SampleKey
  sample : LabeledSample V
  maxSamples : ℕ

/-- A run of the scheduler. -/
structure TickRun (V : Type) where
  /-- The instant at which the scheduler is created. -/
  created : ℕ
  /-- The instant of the first tick. -/
  start : ℕ
  surroundings : ℕ → Surroundings
  /-- The time from a tick to the clock read of its eviction. -/
  evictDelay : ℕ → ℕ
  /-- The pushes from a tick to its eviction. -/
  before : ℕ → List (Push V)
  /-- The pushes from the eviction to the next tick. -/
  after : ℕ → List (Push V)

/-- The number of ticks from a round to the next one. -/
def roundTicks (interval : ℕ) : ℕ := max 1 ((interval + 999999999) / 1000000000)

lemma roundTicks_pos (I : ℕ) : 0 < roundTicks I := by
  rw [roundTicks]
  omega

/-- Pushes samples in the given order. -/
def pushAll {V : Type} (pushes : List (Push V)) (s : Scheduler V) : Scheduler V :=
  { s with
    store := pushes.foldl (fun store p => store.pushSample p.key p.sample p.maxSamples) s.store }

namespace TickRun

variable {V : Type} (parseDuration : String → Option ℕ) (me : String) (run : TickRun V)

/-- The instant of the `n`-th tick. -/
def tickNow (n : ℕ) : ℕ := run.start + secs n

/-- The pushes from a tick to the next one. -/
def pushes (n : ℕ) : List (Push V) := run.before n ++ run.after n

/-- The part of a tick before its eviction. -/
def dispatched (n : ℕ) (s : Scheduler V) : Scheduler V × List (String × ScrapeJob) :=
  s.dispatch parseDuration me (run.surroundings n) (run.tickNow n)

/-- The state at the eviction of a tick. -/
def atEviction (n : ℕ) (s : Scheduler V) : Scheduler V :=
  pushAll (run.before n) (run.dispatched parseDuration me n s).1

/-- The state after the eviction of a tick. -/
def evicted (n : ℕ) (s : Scheduler V) : Scheduler V :=
  (run.atEviction parseDuration me n s).evict (run.tickNow n) (run.tickNow n + run.evictDelay n)

/-- The state at the `n`-th tick. -/
def stateAt : ℕ → Scheduler V
  | 0 => .new run.created
  | n + 1 => pushAll (run.after n) (run.evicted parseDuration me n (stateAt n))

/-- The eviction of a tick removes the window. -/
def LosesWindow (key : SampleKey) (n : ℕ) : Prop :=
  (run.atEviction parseDuration me n (run.stateAt parseDuration me n)).store.windows.lookup key ≠
    none ∧
  (run.evicted parseDuration me n (run.stateAt parseDuration me n)).store.windows.lookup key = none

/-- A job for the pod of a window is dispatched at the tick. -/
def IsRound (key : String) (sample : SampleKey) (n : ℕ) : Prop :=
  ∃ job ∈ (run.dispatched parseDuration me n (run.stateAt parseDuration me n)).2,
    job.1 = key ∧ job.2.pod.name = sample.podName

/-- A sample is pushed into the window between the tick and the next one. -/
def Pushed (sample : SampleKey) (n : ℕ) : Prop := ∃ p ∈ run.pushes n, p.key = sample

/-- The EPA is registered from a tick on, it is owned and its pod is ready. -/
structure RegisteredFrom (key : String) (epa : Epa) (sample : SampleKey) (first : ℕ) : Prop where
  /-- The registered EPAs are the entries of a map. -/
  nodup : ∀ n, ((run.surroundings n).activeEpas.map Prod.fst).Nodup
  absent : ∀ n < first, key ∉ (run.surroundings n).activeEpas.map Prod.fst
  present : ∀ n, first ≤ n → (key, epa) ∈ (run.surroundings n).activeEpas
  owned : ∀ n, first ≤ n →
    isEpaOwner me (run.surroundings n).sets sample.ns sample.epaName = true
  ready : ∀ n, first ≤ n → ∃ pods, (run.surroundings n).readyPods sample.ns
    (epa.spec.scrapeTargetRef.getD epa.spec.scaleTargetRef) = some pods ∧
      sample.podName ∈ pods.map Pod.name

/-- Every job for the pod of a window, and nothing else, pushes a sample into it at most `F`
ticks after its round.  The clock of the eviction is read at most `J` after the tick. -/
structure ScrapesEachRound (key : String) (epa : Epa) (sample : SampleKey) (F J : ℕ) : Prop where
  created_le : run.created ≤ run.start
  registered : ∃ first, run.RegisteredFrom me key epa sample first
  scraped : ∃ latency : ℕ → ℕ, (∀ r, latency r ≤ F) ∧
    ∀ n, run.Pushed sample n ↔ ∃ r, run.IsRound parseDuration me key sample r ∧ r + latency r = n
  scrapedAt : ∀ n, ∀ p ∈ run.pushes n, p.key = sample →
    run.tickNow n ≤ p.sample.scrapedAt ∧ p.sample.scrapedAt < run.tickNow (n + 1)
  delay_le : ∀ n, run.evictDelay n ≤ J

/-! ### Pushes and evictions -/

section Store

variable {pushes : List (Push V)} {s : Scheduler V} {sample : SampleKey}

lemma nextScrape_pushAll : (pushAll pushes s).nextScrape = s.nextScrape := rfl

lemma lastEviction_pushAll : (pushAll pushes s).lastEviction = s.lastEviction := rfl

lemma lookup_pushAll_of_forall (h : ∀ p ∈ pushes, p.key ≠ sample) :
    (pushAll pushes s).store.windows.lookup sample = s.store.windows.lookup sample := by
  induction pushes generalizing s with
  | nil => rfl
  | cons p pushes ih =>
      have hne : sample ≠ p.key := Ne.symm (h p List.mem_cons_self)
      have htail := ih (s := pushAll [p] s) fun q hq => h q (List.mem_cons_of_mem _ hq)
      exact htail.trans (MetricsStore.lookup_pushSample_of_ne hne _ _)

/-- After some pushes into a window, its newest sample is one of those pushed. -/
lemma lookup_pushAll_of_exists (h : ∃ p ∈ pushes, p.key = sample) :
    ∃ w, (pushAll pushes s).store.windows.lookup sample = some w ∧
      ∃ p ∈ pushes, p.key = sample ∧ w.samples.getLast? = some p.sample := by
  induction pushes generalizing s with
  | nil =>
      obtain ⟨p, hp, -⟩ := h
      cases hp
  | cons p pushes ih =>
      by_cases htail : ∃ q ∈ pushes, q.key = sample
      · obtain ⟨w, hw, q, hq, hqk, hlast⟩ := ih (s := pushAll [p] s) htail
        exact ⟨w, hw, q, List.mem_cons_of_mem _ hq, hqk, hlast⟩
      · have hp : p.key = sample := by
          obtain ⟨q, hq, hqk⟩ := h
          rcases List.mem_cons.1 hq with rfl | hq
          · exact hqk
          · exact absurd ⟨q, hq, hqk⟩ htail
        have hrest := lookup_pushAll_of_forall (s := pushAll [p] s) fun q hq hqk =>
          htail ⟨q, hq, hqk⟩
        subst hp
        exact ⟨_, hrest.trans (MetricsStore.lookup_pushSample_self _ _), p, List.mem_cons_self, rfl,
          MetricWindow.getLast?_push _ _⟩

/-- A window survives an eviction if its newest sample is not older than two minutes. -/
lemma lookup_evict_of_fresh {now evictAt : ℕ} {w : MetricWindow V} {newest : LabeledSample V}
    (hw : s.store.windows.lookup sample = some w) (hlast : w.samples.getLast? = some newest)
    (hfresh : evictAt - newest.scrapedAt ≤ secs 120) :
    (s.evict now evictAt).store.windows.lookup sample = some w := by
  unfold Scheduler.evict
  split
  · have hkept : ¬ secs 120 < elapsed evictAt newest.scrapedAt := Nat.not_lt.2 hfresh
    rw [MetricsStore.lookup_evictStaleWindows, hw, if_neg]
    simpa [MetricWindow.newestSampleAge, hlast] using hkept
  · exact hw

/-- An eviction that is due removes a window whose newest sample is older than two minutes. -/
lemma lookup_evict_of_stale {now evictAt : ℕ} {w : MetricWindow V} {newest : LabeledSample V}
    (hdue : secs 60 ≤ now - s.lastEviction)
    (hw : s.store.windows.lookup sample = some w) (hlast : w.samples.getLast? = some newest)
    (hstale : secs 120 < evictAt - newest.scrapedAt) :
    (s.evict now evictAt).store.windows.lookup sample = none := by
  have hage : secs 120 < elapsed evictAt newest.scrapedAt := hstale
  rw [Scheduler.evict, if_pos hdue, MetricsStore.lookup_evictStaleWindows, hw, if_pos]
  simpa [MetricWindow.newestSampleAge, hlast] using hage

lemma nextScrape_evict {now evictAt : ℕ} : (s.evict now evictAt).nextScrape = s.nextScrape := by
  unfold Scheduler.evict
  split <;> rfl

lemma lastEviction_evict {now evictAt : ℕ} : (s.evict now evictAt).lastEviction =
    if secs 60 ≤ now - s.lastEviction then now else s.lastEviction := by
  unfold Scheduler.evict
  split <;> rfl

end Store

/-! ### Rounds -/

section Rounds

variable {parseDuration me run} {key : String} {epa : Epa} {sample : SampleKey} {P I first : ℕ}
  (hkey : splitKey key = some (sample.ns, sample.epaName))
  (hP : parseDuration epa.spec.scrape.evaluationPeriod = some P)
  (hI : parseDuration epa.spec.scrape.interval = some I)
  (hreg : run.RegisteredFrom me key epa sample first)

include hkey hP hI hreg

/-- The dispatch of a tick leaves the windows of a ready pod alone. -/
lemma lookup_dispatched (n : ℕ) (s : Scheduler V) :
    (run.dispatched parseDuration me n s).1.store.windows.lookup sample =
      s.store.windows.lookup sample ∧
    (run.dispatched parseDuration me n s).1.lastEviction = s.lastEviction := by
  by_cases hn : first ≤ n
  · obtain ⟨pods, hpods, hready⟩ := hreg.ready n hn
    obtain ⟨hev, hlook, -⟩ := Scheduler.dispatch_registered parseDuration me
      (run.surroundings n) (run.tickNow n) (s := s) (hreg.nodup n) (hreg.present n hn) hkey rfl rfl
      hP hI (hreg.owned n hn) hpods hready
    exact ⟨hlook, hev⟩
  · obtain ⟨-, hev, hlook, -⟩ := Scheduler.dispatch_unregistered parseDuration me
      (run.surroundings n) (run.tickNow n) (s := s) (hreg.absent n (Nat.lt_of_not_le hn)) hkey
      rfl rfl
    exact ⟨hlook, hev⟩

omit hP hI in
/-- Before the EPA is registered nothing is scheduled and no job is dispatched. -/
lemma dispatched_of_lt {n : ℕ} (hn : n < first) (s : Scheduler V) :
    (run.dispatched parseDuration me n s).1.nextScrape key = none ∧
      ∀ job ∈ (run.dispatched parseDuration me n s).2, job.1 ≠ key := by
  have hns : sample.ns = sample.ns := rfl
  obtain ⟨hnext, -, -, hjobs⟩ := Scheduler.dispatch_unregistered parseDuration me
    (run.surroundings n) (run.tickNow n) (s := s) (hreg.absent n hn) hkey hns rfl
  exact ⟨hnext, hjobs⟩

omit hkey hP hI hreg in
lemma nextScrape_stateAt_succ (n : ℕ) :
    (run.stateAt parseDuration me (n + 1)).nextScrape =
      (run.dispatched parseDuration me n (run.stateAt parseDuration me n)).1.nextScrape := by
  rw [stateAt, nextScrape_pushAll, evicted, nextScrape_evict, atEviction, nextScrape_pushAll]

omit hkey hP hI in
lemma nextScrape_of_le (hkey : splitKey key = some (sample.ns, sample.epaName)) {n : ℕ}
    (hn : n ≤ first) : (run.stateAt parseDuration me n).nextScrape key = none := by
  cases n with
  | zero => rfl
  | succ n =>
      rw [nextScrape_stateAt_succ]
      exact (dispatched_of_lt hkey hreg hn _).1

omit hkey hP hI hreg in
/-- The scrape scheduled at the round of tick `r` is due one round later. -/
lemma isScheduledLater_iff {s : Scheduler V} {r n : ℕ} (hr : r < n)
    (hnext : s.nextScrape key = some (run.tickNow r + I, I)) :
    Scheduler.isScheduledLater (run.tickNow n) s key I = true ↔ n < r + roundTicks I := by
  have hlt : run.tickNow n < run.tickNow r + I ↔ n < r + roundTicks I := by
    simp only [tickNow, secs, roundTicks]
    omega
  rw [Scheduler.isScheduledLater, hnext, ← hlt]
  simp

/-- A tick with the EPA is a round exactly when no later scrape is scheduled. -/
lemma round_or_later {n : ℕ} (hn : first ≤ n) :
    let later := Scheduler.isScheduledLater (run.tickNow n) (run.stateAt parseDuration me n) key I
    (run.IsRound parseDuration me key sample n ↔ later = false) ∧
      (run.stateAt parseDuration me (n + 1)).nextScrape key =
        if later then (run.stateAt parseDuration me n).nextScrape key
        else some (run.tickNow n + I, I) := by
  obtain ⟨pods, hpods, hready⟩ := hreg.ready n hn
  obtain ⟨-, -, hround⟩ := Scheduler.dispatch_registered parseDuration me
    (run.surroundings n) (run.tickNow n) (s := run.stateAt parseDuration me n) (hreg.nodup n)
    (hreg.present n hn) hkey rfl rfl hP hI (hreg.owned n hn) hpods hready
  intro later
  rw [nextScrape_stateAt_succ]
  by_cases hlater : later = true
  · rw [if_pos hlater] at hround ⊢
    refine ⟨⟨?_, fun hf => by simp [hlater] at hf⟩, hround.1⟩
    rintro ⟨job, hjob, hjobKey, -⟩
    exact absurd hjobKey (hround.2 job hjob)
  · rw [if_neg hlater] at hround ⊢
    exact ⟨⟨fun _ => Bool.eq_false_iff.2 hlater, fun _ => hround.2⟩, hround.1⟩

/-- **The rounds.** From the tick at which the EPA is registered on, every `roundTicks`-th
tick is a round, and the next scrape is scheduled from the last round. -/
lemma schedule {n : ℕ} (hn : first ≤ n) :
    (run.IsRound parseDuration me key sample n ↔ roundTicks I ∣ n - first) ∧
    ∃ r, first ≤ r ∧ r ≤ n ∧ n < r + roundTicks I ∧ roundTicks I ∣ r - first ∧
      (run.stateAt parseDuration me (n + 1)).nextScrape key = some (run.tickNow r + I, I) := by
  have hpos := roundTicks_pos I
  induction n, hn using Nat.le_induction with
  | base =>
      obtain ⟨hround, hnext⟩ := round_or_later hkey hP hI hreg (le_refl first)
      have hlater : Scheduler.isScheduledLater (run.tickNow first)
          (run.stateAt parseDuration me first) key I = false := by
        rw [Scheduler.isScheduledLater, nextScrape_of_le hreg hkey le_rfl]
      rw [hlater] at hround hnext
      rw [if_neg Bool.false_ne_true] at hnext
      refine ⟨by simp [hround], first, le_rfl, le_rfl, by omega, by simp, hnext⟩
  | succ n hn ih =>
      obtain ⟨-, r, hfr, hrn, hnr, hdvd, hr⟩ := ih
      obtain ⟨hround, hnext⟩ := round_or_later hkey hP hI hreg (Nat.le_succ_of_le hn)
      have hiff := isScheduledLater_iff (n := n + 1) (by omega) hr
      obtain ⟨k, hk⟩ := hdvd
      rcases Nat.lt_or_ge (n + 1) (r + roundTicks I) with hlt | hge
      · have hlater := hiff.2 hlt
        rw [hlater] at hround hnext
        rw [if_pos rfl] at hnext
        refine ⟨⟨fun h => by simp [hround] at h, ?_⟩, r, hfr, by omega, hlt, ⟨k, hk⟩,
          hnext.trans hr⟩
        -- the tick is strictly between two multiples
        intro hdvd
        have hsub : n + 1 - first = (n + 1 - r) + roundTicks I * k := by omega
        rw [hsub, Nat.dvd_add_left ⟨k, rfl⟩] at hdvd
        exact absurd (Nat.le_of_dvd (by omega) hdvd) (by omega)
      · have hlater : Scheduler.isScheduledLater (run.tickNow (n + 1))
            (run.stateAt parseDuration me (n + 1)) key I = false :=
          Bool.eq_false_iff.2 fun h => absurd (hiff.1 h) (Nat.not_lt.2 hge)
        rw [hlater] at hround hnext
        rw [if_neg Bool.false_ne_true] at hnext
        have hmul : n + 1 - first = roundTicks I * (k + 1) := by
          rw [Nat.mul_succ]
          omega
        have hmultiple : roundTicks I ∣ n + 1 - first := ⟨k + 1, hmul⟩
        refine ⟨⟨fun _ => hmultiple, fun _ => hround.2 rfl⟩, n + 1, by omega, le_rfl, by omega,
          hmultiple, hnext⟩

lemma isRound_iff {n : ℕ} : run.IsRound parseDuration me key sample n ↔
    first ≤ n ∧ roundTicks I ∣ n - first := by
  constructor
  · rintro ⟨job, hjob, hjobKey, hpod⟩
    have hn : first ≤ n := by
      by_contra hlt
      exact (dispatched_of_lt hkey hreg (Nat.lt_of_not_le hlt) _).2 job hjob hjobKey
    exact ⟨hn, (schedule hkey hP hI hreg hn).1.1 ⟨job, hjob, hjobKey, hpod⟩⟩
  · rintro ⟨hn, hdvd⟩
    exact (schedule hkey hP hI hreg hn).1.2 hdvd

omit hreg in
/-- **The next push.** A window that has been pushed into is pushed into again at most one
round and one scrape later. -/
lemma exists_next_push {F J m : ℕ}
    (hrun : run.ScrapesEachRound parseDuration me key epa sample F J) (hm : run.Pushed sample m) :
    ∃ n, m < n ∧ n ≤ m + roundTicks I + F ∧ run.Pushed sample n := by
  obtain ⟨first, hreg⟩ := hrun.registered
  obtain ⟨latency, hlat, hpushed⟩ := hrun.scraped
  obtain ⟨r, hround, hrm⟩ := (hpushed m).1 hm
  have hpos := roundTicks_pos I
  have hfirst := ((isRound_iff hkey hP hI hreg).1 hround).1
  -- the first round after tick `m`
  have hmod := Nat.mod_lt (m - first) hpos
  have hdiv := Nat.div_add_mod (m - first) (roundTicks I)
  have hnext : run.IsRound parseDuration me key sample
      (first + roundTicks I * ((m - first) / roundTicks I + 1)) := by
    rw [isRound_iff hkey hP hI hreg, Nat.add_sub_cancel_left]
    exact ⟨Nat.le_add_right _ _, ⟨_, rfl⟩⟩
  rw [Nat.mul_succ] at hnext
  have hle := hlat (first + (roundTicks I * ((m - first) / roundTicks I) + roundTicks I))
  exact ⟨_, by omega, by omega, (hpushed _).2 ⟨_, hnext, rfl⟩⟩

end Rounds

/-! ### The newest sample -/

section Newest

variable {parseDuration me run} {key : String} {epa : Epa} {sample : SampleKey} {P I first : ℕ}

/-- The last tick before `n` with a push into the window. -/
def LastPush (sample : SampleKey) (m n : ℕ) : Prop :=
  m < n ∧ run.Pushed sample m ∧ ∀ j, m < j → j < n → ¬ run.Pushed sample j

/-- The newest sample of the window was pushed at tick `m`. -/
def NewestFrom (sample : SampleKey) (s : Scheduler V) (m : ℕ) : Prop :=
  ∃ w, s.store.windows.lookup sample = some w ∧
    ∃ p ∈ run.pushes m, p.key = sample ∧ w.samples.getLast? = some p.sample

lemma NewestFrom.congr {s s' : Scheduler V} {m : ℕ} (h : run.NewestFrom sample s m)
    (heq : s'.store.windows.lookup sample = s.store.windows.lookup sample) :
    run.NewestFrom sample s' m := by
  obtain ⟨w, hw, hp⟩ := h
  exact ⟨w, heq.trans hw, hp⟩

lemma newestFrom_pushAll {pushes : List (Push V)} {s : Scheduler V} {m : ℕ}
    (hsub : ∀ p ∈ pushes, p ∈ run.pushes m) (h : ∃ p ∈ pushes, p.key = sample) :
    run.NewestFrom sample (pushAll pushes s) m := by
  obtain ⟨w, hw, p, hp, hpk, hlast⟩ := lookup_pushAll_of_exists (s := s) h
  exact ⟨w, hw, p, hsub p hp, hpk, hlast⟩

/-- Before tick `n` the window is the one last pushed into; it does not exist if there was no
push. -/
def Tracks (sample : SampleKey) (n : ℕ) (s : Scheduler V) : Prop :=
  ((∀ j < n, ¬ run.Pushed sample j) ∧ s.store.windows.lookup sample = none) ∨
    ∃ m, run.LastPush sample m n ∧ run.NewestFrom sample s m

section Step

variable (hkey : splitKey key = some (sample.ns, sample.epaName))
  (hP : parseDuration epa.spec.scrape.evaluationPeriod = some P)
  (hI : parseDuration epa.spec.scrape.interval = some I)
  (hreg : run.RegisteredFrom me key epa sample first)

include hkey hP hI hreg

/-- At the eviction the window is as before the tick, unless there was a push in between. -/
lemma tracks_atEviction {s : Scheduler V} {n : ℕ} (h : run.Tracks sample n s) :
    ((∃ p ∈ run.before n, p.key = sample) ∧
      run.NewestFrom sample (run.atEviction parseDuration me n s) n) ∨
    ((∀ p ∈ run.before n, p.key ≠ sample) ∧
      run.Tracks sample n (run.atEviction parseDuration me n s)) := by
  have hdisp := (lookup_dispatched hkey hP hI hreg n s).1
  by_cases hbefore : ∃ p ∈ run.before n, p.key = sample
  · exact .inl ⟨hbefore, newestFrom_pushAll (fun p hp => List.mem_append_left _ hp) hbefore⟩
  · have hnone : ∀ p ∈ run.before n, p.key ≠ sample := fun p hp hpk => hbefore ⟨p, hp, hpk⟩
    have hlook := (lookup_pushAll_of_forall (s := (run.dispatched parseDuration me n s).1)
      hnone).trans hdisp
    refine .inr ⟨hnone, ?_⟩
    rcases h with ⟨hno, hs⟩ | ⟨m, hlast, hs⟩
    · exact .inl ⟨hno, hlook.trans hs⟩
    · exact .inr ⟨m, hlast, hs.congr hlook⟩

omit hkey hP hI hreg in
/-- An eviction that does not remove the window does not change it. -/
lemma lookup_evicted {s : Scheduler V} {n : ℕ}
    (hkept : ¬ ((run.atEviction parseDuration me n s).store.windows.lookup sample ≠ none ∧
      (run.evicted parseDuration me n s).store.windows.lookup sample = none)) :
    (run.evicted parseDuration me n s).store.windows.lookup sample =
      (run.atEviction parseDuration me n s).store.windows.lookup sample := by
  rw [evicted, Scheduler.evict] at hkept ⊢
  split at hkept
  · rename_i hdue
    rw [if_pos hdue]
    rw [MetricsStore.lookup_evictStaleWindows] at hkept ⊢
    split at hkept
    · rename_i hstale
      rw [if_pos hstale]
      by_contra hne
      exact hkept ⟨Ne.symm hne, rfl⟩
    · rename_i hfresh
      rw [if_neg hfresh]
  · rename_i hearly
    rw [if_neg hearly]

/-- One tick whose eviction does not remove the window. -/
lemma tracks_succ {n : ℕ} (hkept : ¬ run.LosesWindow parseDuration me sample n)
    (h : run.Tracks sample n (run.stateAt parseDuration me n)) :
    run.Tracks sample (n + 1) (run.stateAt parseDuration me (n + 1)) := by
  have hevicted := lookup_evicted hkept
  by_cases hafter : ∃ p ∈ run.after n, p.key = sample
  · have hpushed : run.Pushed sample n := by
      obtain ⟨p, hp, hpk⟩ := hafter
      exact ⟨p, List.mem_append_right _ hp, hpk⟩
    exact .inr ⟨n, ⟨Nat.lt_succ_self n, hpushed, fun j hj hj' => by omega⟩,
      newestFrom_pushAll (fun p hp => List.mem_append_right _ hp) hafter⟩
  · have hnone : ∀ p ∈ run.after n, p.key ≠ sample := fun p hp hpk => hafter ⟨p, hp, hpk⟩
    have hlook := (lookup_pushAll_of_forall
      (s := run.evicted parseDuration me n (run.stateAt parseDuration me n)) hnone).trans hevicted
    rcases tracks_atEviction hkey hP hI hreg h with ⟨⟨p, hp, hpk⟩, hnew⟩ | ⟨hbefore, hold⟩
    · exact .inr ⟨n, ⟨Nat.lt_succ_self n, ⟨p, List.mem_append_left _ hp, hpk⟩,
        fun j hj hj' => by omega⟩, hnew.congr hlook⟩
    · have hsilent : ¬ run.Pushed sample n := by
        rintro ⟨p, hp, hpk⟩
        rcases List.mem_append.1 hp with hp | hp
        · exact hbefore p hp hpk
        · exact hnone p hp hpk
      rcases hold with ⟨hno, hs⟩ | ⟨m, ⟨hmn, hm, hbetween⟩, hs⟩
      · refine .inl ⟨fun j hj => ?_, hlook.trans hs⟩
        rcases Nat.lt_succ_iff_lt_or_eq.1 hj with hj | rfl
        · exact hno j hj
        · exact hsilent
      · refine .inr ⟨m, ⟨Nat.lt_succ_of_lt hmn, hm, fun j hmj hj => ?_⟩, hs.congr hlook⟩
        rcases Nat.lt_succ_iff_lt_or_eq.1 hj with hj | rfl
        · exact hbetween j hmj hj
        · exact hsilent

/-- As long as no eviction removes the window, it is the one last pushed into. -/
lemma tracks_stateAt {n : ℕ} (hkept : ∀ j < n, ¬ run.LosesWindow parseDuration me sample j) :
    run.Tracks sample n (run.stateAt parseDuration me n) := by
  induction n with
  | zero =>
      refine .inl ⟨fun j hj => absurd hj (Nat.not_lt_zero j), ?_⟩
      exact AList.lookup_empty sample
  | succ n ih =>
      exact tracks_succ hkey hP hI hreg (hkept n (Nat.lt_succ_self n))
        (ih fun j hj => hkept j (Nat.lt_succ_of_lt hj))

end Step

/-- **Live windows are kept.** -/
lemma not_losesWindow {F J : ℕ} (hkey : splitKey key = some (sample.ns, sample.epaName))
    (hP : parseDuration epa.spec.scrape.evaluationPeriod = some P)
    (hI : parseDuration epa.spec.scrape.interval = some I)
    (hbound : secs (roundTicks I + F) + J ≤ secs 120)
    (hrun : run.ScrapesEachRound parseDuration me key epa sample F J) (n : ℕ) :
    ¬ run.LosesWindow parseDuration me sample n := by
  obtain ⟨first, hreg⟩ := hrun.registered
  induction n using Nat.strong_induction_on with
  | _ n ih =>
    rintro ⟨hpresent, hgone⟩
    have hdelay := hrun.delay_le n
    -- it is enough that the newest sample was pushed at most two minutes before
    have hfresh : ∀ m, run.NewestFrom sample
        (run.atEviction parseDuration me n (run.stateAt parseDuration me n)) m →
        m ≤ n → n ≤ m + roundTicks I + F → False := by
      rintro m ⟨w, hw, p, hp, hpk, hlast⟩ hmn hnm
      have hat := (hrun.scrapedAt m p hp hpk).1
      have hage : run.tickNow n + run.evictDelay n - p.sample.scrapedAt ≤ secs 120 := by
        simp only [tickNow, secs] at *
        omega
      rw [evicted, lookup_evict_of_fresh hw hlast hage] at hgone
      cases hgone
    rcases tracks_atEviction hkey hP hI hreg (tracks_stateAt hkey hP hI hreg ih) with
      ⟨-, hnew⟩ | ⟨-, ⟨-, hnone⟩ | ⟨m, ⟨hmn, hm, hbetween⟩, hold⟩⟩
    · exact hfresh n hnew le_rfl (by omega)
    · exact hpresent hnone
    · obtain ⟨j, hmj, hj, hpushed⟩ := exists_next_push hkey hP hI hrun hm
      have hnj : n ≤ j := by
        by_contra hlt
        exact hbetween j hmj (by omega) hpushed
      exact hfresh m hold (by omega) (by omega)

end Newest

/-! ### A run that loses the window -/

section Late

variable (me key : String) (epa : Epa) (sample : SampleKey) (P I F J : ℕ) (v : V)

/-- The tick from which on the EPA is registered in `lateRun`. -/
def lateFirst : ℕ := 59 * (roundTicks I + F)

/-- The tick of the second sample in `lateRun`, at which windows are evicted. -/
def lateSecond : ℕ := 60 * (roundTicks I + F)

/-- A sample scraped at `scrapedAt`. -/
def latePush (scrapedAt : ℕ) : Push V :=
  ⟨sample, ⟨v, scrapedAt, true, .gauge⟩, maxSamples P I⟩

/-- The first round is scraped at its tick, the later ones after `F` ticks and the eviction. -/
def lateRun : TickRun V where
  created := 0
  start := 0
  surroundings n :=
    { sets := ⟨IdSet.empty.insert me, IdSet.empty, false⟩
      activeEpas := if n < lateFirst I F then [] else [(key, epa)]
      readyPods := fun _ _ => some [⟨sample.podName, some sample.ns, some "10.0.0.1"⟩] }
  evictDelay _ := J
  before n := if n = lateFirst I F then [latePush sample P I v (secs n)] else []
  after n :=
    if lateSecond I F ≤ n ∧ roundTicks I ∣ n - lateSecond I F then
      [latePush sample P I v (secs n + J)]
    else []

lemma lateSecond_eq : lateSecond I F = lateFirst I F + roundTicks I + F := by
  rw [lateSecond, lateFirst]
  omega

lemma pushes_lateRun {n : ℕ} {p : Push V}
    (hp : p ∈ (lateRun me key epa sample P I F J v).pushes n) :
    (n = lateFirst I F ∧ p = latePush sample P I v (secs n)) ∨
      ((lateSecond I F ≤ n ∧ roundTicks I ∣ n - lateSecond I F) ∧
        p = latePush sample P I v (secs n + J)) := by
  rcases List.mem_append.1 hp with hp | hp
  · by_cases h : n = lateFirst I F
    · exact .inl ⟨h, by simpa [lateRun, h] using hp⟩
    · simp [lateRun, h] at hp
  · by_cases h : lateSecond I F ≤ n ∧ roundTicks I ∣ n - lateSecond I F
    · exact .inr ⟨h, by simpa [lateRun, h] using hp⟩
    · simp [lateRun, h] at hp

lemma pushed_lateRun {n : ℕ} : (lateRun me key epa sample P I F J v).Pushed sample n ↔
    n = lateFirst I F ∨ (lateSecond I F ≤ n ∧ roundTicks I ∣ n - lateSecond I F) := by
  constructor
  · rintro ⟨p, hp, -⟩
    rcases pushes_lateRun me key epa sample P I F J v hp with ⟨h, -⟩ | ⟨h, -⟩
    · exact .inl h
    · exact .inr h
  · rintro (h | h)
    · exact ⟨latePush sample P I v (secs n), List.mem_append_left _ (by simp [lateRun, h]), rfl⟩
    · exact ⟨latePush sample P I v (secs n + J), List.mem_append_right _ (by simp [lateRun, h]),
        rfl⟩

lemma registeredFrom_lateRun :
    (lateRun me key epa sample P I F J v).RegisteredFrom me key epa sample (lateFirst I F) where
  nodup n := by
    by_cases h : n < lateFirst I F <;> simp [lateRun, h]
  absent n hn := by simp [lateRun, hn]
  present n hn := by simp [lateRun, Nat.not_lt.2 hn]
  owned n hn := by
    rw [isEpaOwner_iff, getEpaOwner_eq]
    rfl
  ready n hn := ⟨_, rfl, List.mem_singleton.2 rfl⟩

variable {parseDuration : String → Option ℕ} {me key epa sample P I J}

lemma scrapedAt_lateRun (hJ : J < secs 1) {n : ℕ} {p : Push V}
    (hp : p ∈ (lateRun me key epa sample P I F J v).pushes n) :
    (lateRun me key epa sample P I F J v).tickNow n ≤ p.sample.scrapedAt ∧
      p.sample.scrapedAt < (lateRun me key epa sample P I F J v).tickNow (n + 1) := by
  have hnow : (lateRun me key epa sample P I F J v).tickNow n = secs n := Nat.zero_add _
  have hnext : (lateRun me key epa sample P I F J v).tickNow (n + 1) = secs n + secs 1 := by
    rw [← secs_add]
    exact Nat.zero_add _
  rw [hnow, hnext]
  rcases pushes_lateRun me key epa sample P I F J v hp with ⟨-, rfl⟩ | ⟨-, rfl⟩
  · show secs n ≤ secs n ∧ secs n < secs n + secs 1
    omega
  · show secs n ≤ secs n + J ∧ secs n + J < secs n + secs 1
    omega

lemma scrapesEachRound_lateRun (hkey : splitKey key = some (sample.ns, sample.epaName))
    (hP : parseDuration epa.spec.scrape.evaluationPeriod = some P)
    (hI : parseDuration epa.spec.scrape.interval = some I) (hJ : J < secs 1) :
    (lateRun me key epa sample P I F J v).ScrapesEachRound parseDuration me key epa sample F J where
  created_le := le_rfl
  registered := ⟨_, registeredFrom_lateRun me key epa sample P I F J v⟩
  scraped := by
    refine ⟨fun r => if r = lateFirst I F then 0 else F, fun r => ?_, fun n => ?_⟩
    · dsimp only
      split <;> omega
    · have hpos := roundTicks_pos I
      have hgap := lateSecond_eq I F
      rw [pushed_lateRun]
      simp only [isRound_iff hkey hP hI (registeredFrom_lateRun me key epa sample P I F J v)]
      constructor
      · rintro (rfl | ⟨hle, k, hk⟩)
        · have hself : roundTicks I ∣ lateFirst I F - lateFirst I F := by
            rw [Nat.sub_self]
            exact Nat.dvd_zero _
          refine ⟨lateFirst I F, ⟨le_rfl, hself⟩, ?_⟩
          rw [if_pos (rfl : lateFirst I F = lateFirst I F), Nat.add_zero]
        · -- the round of this push is `F` ticks earlier
          have hround : n - F - lateFirst I F = roundTicks I * (k + 1) := by
            rw [Nat.mul_succ]
            omega
          have hne : n - F ≠ lateFirst I F := by omega
          refine ⟨n - F, ⟨by omega, ⟨k + 1, hround⟩⟩, ?_⟩
          rw [if_neg hne]
          omega
      · rintro ⟨r, ⟨hle, k, hk⟩, hr⟩
        split at hr
        · rename_i hfirst
          exact .inl (by omega)
        · rename_i hne
          cases k with
          | zero => omega
          | succ k =>
              rw [Nat.mul_succ] at hk
              exact .inr ⟨by omega, k, by omega⟩
  scrapedAt n p hp _ := scrapedAt_lateRun F v hJ hp
  delay_le n := le_rfl

/-- In `lateRun` windows are evicted at every sixtieth tick. -/
lemma lastEviction_lateRun (hkey : splitKey key = some (sample.ns, sample.epaName))
    (hP : parseDuration epa.spec.scrape.evaluationPeriod = some P)
    (hI : parseDuration epa.spec.scrape.interval = some I) (n : ℕ) :
    ((lateRun me key epa sample P I F J v).stateAt parseDuration me n).lastEviction =
      secs (60 * ((n - 1) / 60)) := by
  induction n with
  | zero => rfl
  | succ n ih =>
      have hreg := registeredFrom_lateRun me key epa sample P I F J v
      have hnow : (lateRun me key epa sample P I F J v).tickNow n = secs n := Nat.zero_add _
      rw [stateAt, lastEviction_pushAll, evicted, lastEviction_evict, atEviction,
        lastEviction_pushAll, (lookup_dispatched hkey hP hI hreg n _).2, ih, hnow]
      split <;> simp only [secs] at * <;> omega

/-- The eviction at the tick of the second sample removes the window. -/
lemma exists_losesWindow_lateRun (hkey : splitKey key = some (sample.ns, sample.epaName))
    (hP : parseDuration epa.spec.scrape.evaluationPeriod = some P)
    (hI : parseDuration epa.spec.scrape.interval = some I)
    (hlate : secs 120 < secs (roundTicks I + F) + J) :
    ∃ n, (lateRun me key epa sample P I F J v).LosesWindow parseDuration me sample n := by
  by_contra hkept
  have hreg := registeredFrom_lateRun me key epa sample P I F J v
  have hpos := roundTicks_pos I
  have hgap := lateSecond_eq I F
  have hnow : (lateRun me key epa sample P I F J v).tickNow (lateSecond I F) =
      secs (lateSecond I F) := Nat.zero_add _
  have htracks := tracks_stateAt (n := lateSecond I F) hkey hP hI hreg
    fun j _ hj => hkept ⟨j, hj⟩
  rcases tracks_atEviction hkey hP hI hreg htracks with ⟨⟨p, hp, -⟩, -⟩ | ⟨-, hold⟩
  · have hne : lateSecond I F ≠ lateFirst I F := by omega
    simp [lateRun, hne] at hp
  · rcases hold with ⟨hno, -⟩ | ⟨m, ⟨hlt, hm, -⟩, w, hw, p, hp, -, hlast⟩
    · exact hno (lateFirst I F) (by omega) ((pushed_lateRun me key epa sample P I F J v).2
        (.inl rfl))
    · rcases pushes_lateRun me key epa sample P I F J v hp with ⟨rfl, rfl⟩ | ⟨⟨hle, -⟩, -⟩
      · refine hkept ⟨lateSecond I F, by simp [hw], lookup_evict_of_stale ?_ hw hlast ?_⟩
        · rw [atEviction, lastEviction_pushAll, (lookup_dispatched hkey hP hI hreg _ _).2,
            lastEviction_lateRun F v hkey hP hI, hnow]
          simp only [secs, lateSecond]
          omega
        · show secs 120 < _ + J - secs (lateFirst I F)
          rw [hnow, hgap]
          simp only [secs] at *
          omega
      · omega

end Late

variable {parseDuration : String → Option ℕ} {me key : String} {epa : Epa} {sample : SampleKey}
  {P I F J : ℕ}

/-- **Live windows.** While an EPA is owned and a pod of it is scraped at each round, no
eviction ever removes a window of the pod exactly when a round and a scrape, and the delay
of the eviction after its tick, fit into the two minutes after which a window is stale. -/
theorem live_windows_kept_iff [Inhabited V]
    (hkey : splitKey key = some (sample.ns, sample.epaName))
    (hP : parseDuration epa.spec.scrape.evaluationPeriod = some P)
    (hI : parseDuration epa.spec.scrape.interval = some I) (hJ : J < secs 1) :
    (∀ run : TickRun V, run.ScrapesEachRound parseDuration me key epa sample F J →
      ∀ n, ¬ run.LosesWindow parseDuration me sample n) ↔
    secs (roundTicks I + F) + J ≤ secs 120 := by
  constructor
  · intro hall
    by_contra hlate
    obtain ⟨n, hn⟩ : ∃ n, (lateRun me key epa sample P I F J (default : V)).LosesWindow
        parseDuration me sample n :=
      exists_losesWindow_lateRun F default hkey hP hI (Nat.lt_of_not_le hlate)
    exact hall _ (scrapesEachRound_lateRun F default hkey hP hI hJ) n hn
  · intro hbound run hrun n
    exact not_losesWindow hkey hP hI hbound hrun n

/-! ### An interval of five minutes -/

/-- The window of the metric of `webEpa` for one of its pods. -/
def webSample : SampleKey := ⟨"default", "web", "queue_depth", "web-0"⟩

/-- The durations of `webEpa`. -/
def parseWebDuration : String → Option ℕ
  | "15s" => some (secs 15)
  | "5m" => some (secs 300)
  | "10m" => some (secs 600)
  | _ => none

lemma splitKey_web : splitKey "default/web" = some (webSample.ns, webSample.epaName) := by
  decide +kernel

/-- At the interval of fifteen seconds scrapes may take ten seconds. -/
theorem live_windows_kept_iff_fifteen_seconds :
    roundTicks (secs 15) = 15 ∧ ∀ run : TickRun ℕ,
      run.ScrapesEachRound parseWebDuration "replica-a" "default/web" (webEpa "15s") webSample
        10 0 →
      ∀ n, ¬ run.LosesWindow parseWebDuration "replica-a" webSample n := by
  have hbound : secs (roundTicks (secs 15) + 10) + 0 ≤ secs 120 := by decide +kernel
  refine ⟨by decide +kernel, ?_⟩
  exact (live_windows_kept_iff splitKey_web rfl rfl (by decide +kernel)).2 hbound

/-- An EPA that is scraped every five minutes is admitted, and its windows are evicted
between two scrapes even if neither the scrapes nor the evictions are ever late. -/
theorem five_minute_window_is_lost :
    (validateEpaSpec (webEpa "5m")).accepts = true ∧
    ∃ run : TickRun ℕ,
      run.ScrapesEachRound parseWebDuration "replica-a" "default/web" (webEpa "5m") webSample 0 0 ∧
      ∃ n, run.LosesWindow parseWebDuration "replica-a" webSample n := by
  refine ⟨by decide +kernel, lateRun "replica-a" "default/web" (webEpa "5m") webSample (secs 600)
    (secs 300) 0 0 0, ?_, ?_⟩
  · exact scrapesEachRound_lateRun 0 0 splitKey_web rfl rfl (by decide +kernel)
  · exact exists_losesWindow_lateRun 0 0 splitKey_web rfl rfl (by decide +kernel)

end TickRun

end ExternalPodAutoscaler.Scraper
