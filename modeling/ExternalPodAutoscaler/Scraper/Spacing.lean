/-
The spacing of scrape rounds (`scraper/scheduler.rs`).

At every tick the scheduler calls `process_epa` for each registered EPA, with the ownership
and the store as other tasks have left them.  A call that gets to the ready pods schedules
the next scrape; a call that is skipped or fails does not.

The main result of this file is `rounds_keep_spacing`: two rounds that dispatch jobs for an EPA
are an interval apart unless the interval is changed in between, a call that fails schedules
nothing and is made up for by the next tick, and a changed interval is scraped at once.
-/
import ExternalPodAutoscaler.Lib.Maps
import ExternalPodAutoscaler.Lib.Transition
import ExternalPodAutoscaler.Scraper.Capacity

namespace ExternalPodAutoscaler.Scraper

open ExternalPodAutoscaler.Api ExternalPodAutoscaler.Lib ExternalPodAutoscaler.Membership
open ExternalPodAutoscaler.Store

/-- A tick: the instant it starts at, the clock read of the eviction, its surroundings, and the
ownership and the store that it finds. -/
structure Tick (V : Type) where
  now : ℕ
  evictAt : ℕ
  env : Surroundings
  ownership : TransitionState
  store : MetricsStore V
  /-- The keys of a map are distinct. -/
  nodup : (env.activeEpas.map Prod.fst).Nodup

/-- The jobs for one EPA, in order. -/
def jobsFor (key : String) (jobs : List (String × ScrapeJob)) : List ScrapeJob :=
  (jobs.filter fun job => job.1 = key).map Prod.snd

namespace Scheduler

variable {V : Type} (parseDuration : String → Option ℕ) (me : String)

/-- The scheduler with what a tick finds. -/
def meet (t : Tick V) (s : Scheduler V) : Scheduler V :=
  { s with
    ownership := t.ownership
    store := t.store }

/-- A tick of `Scheduler::run`, with the jobs it dispatches. -/
def tick (s : Scheduler V) (t : Tick V) : Scheduler V × List (String × ScrapeJob) :=
  let dispatched := dispatch parseDuration me t.env t.now (s.meet t)
  (evict t.now t.evictAt dispatched.1, dispatched.2)

/-- The state in which a tick calls `process_epa` for an EPA. -/
def callState (s : Scheduler V) (t : Tick V) (key : String) : Scheduler V :=
  (processAll parseDuration me t.env t.now (t.env.activeEpas.takeWhile fun e => e.1 ≠ key)
    (s.meet t)).1

/-- The call of `process_epa` that a tick makes for an EPA. -/
def call (s : Scheduler V) (t : Tick V) (key : String) (epa : Epa) :
    Scheduler V × Option (List ScrapeJob) :=
  processEpa parseDuration me t.env t.now key epa (callState parseDuration me s t key)

/-- The ticks of a scheduler. -/
def tickSystem (V : Type) : System (Scheduler V) (Tick V) where
  init s := ∃ now, s = .new now
  step s t := some (tick parseDuration me s t).1

variable {parseDuration me} {s s' : Scheduler V} {t : Tick V} {key key' : String} {epa : Epa}

/-! ### One call -/

section Call

variable {env : Surroundings} {now : ℕ}

/-- A call that fails leaves the schedule alone. -/
lemma nextScrape_of_processEpa_fails
    (hfails : (processEpa parseDuration me env now key epa s).2 = none) :
    (processEpa parseDuration me env now key epa s).1.nextScrape = s.nextScrape := by
  rcases s.processEpa_cases parseDuration me env now with
    ⟨⟨ownership, hidle⟩, -⟩ | ⟨ns, name, P, I, pods, -, -, -, -, -, hcall⟩
  · rw [hidle]
  · rw [hcall] at hfails
    cases hfails

/-- A call for another EPA leaves the schedule of this one alone. -/
lemma nextScrape_processEpa_of_ne (hne : key' ≠ key) :
    (processEpa parseDuration me env now key' epa s).1.nextScrape key = s.nextScrape key := by
  rcases s.processEpa_cases parseDuration me env now with
    ⟨⟨ownership, hidle⟩, -⟩ | ⟨ns, name, P, I, pods, -, -, -, -, -, hcall⟩
  · rw [hidle]
  · rw [hcall]
    exact Function.update_of_ne (Ne.symm hne) _ _

/-- The calls for other EPAs leave this one alone. -/
lemma processAll_of_not_mem (parseDuration : String → Option ℕ) (me : String)
    (env : Surroundings) (now : ℕ) {epas : List (String × Epa)} (s : Scheduler V)
    (hne : key ∉ epas.map Prod.fst) :
    (processAll parseDuration me env now epas s).1.nextScrape key = s.nextScrape key ∧
      jobsFor key (processAll parseDuration me env now epas s).2 = [] := by
  induction epas generalizing s with
  | nil => exact ⟨rfl, rfl⟩
  | cons entry epas ih =>
      obtain ⟨key', epa'⟩ := entry
      rw [List.map_cons, List.mem_cons, not_or] at hne
      obtain ⟨hnext, hjobs⟩ := ih (processEpa parseDuration me env now key' epa' s).1 hne.2
      refine ⟨hnext.trans (nextScrape_processEpa_of_ne (Ne.symm hne.1)), ?_⟩
      rw [jobsFor, processAll, List.filter_append, List.map_append]
      refine List.append_eq_nil_iff.2 ⟨?_, hjobs⟩
      simp [List.filter_map, Function.comp_def, Ne.symm hne.1]

end Call

/-! ### One tick -/

/-- The EPA is registered at the tick. -/
def Registered (key : String) (epa : Epa) (t : Tick V) : Prop := (key, epa) ∈ t.env.activeEpas

/-- A tick does to a registered EPA what its call does. -/
lemma tick_registered (parseDuration : String → Option ℕ) (me : String) (s : Scheduler V)
    (hreg : Registered key epa t) :
    (callState parseDuration me s t key).nextScrape key = s.nextScrape key ∧
      (tick parseDuration me s t).1.nextScrape key =
        (call parseDuration me s t key epa).1.nextScrape key ∧
      jobsFor key (tick parseDuration me s t).2 =
        (call parseDuration me s t key epa).2.getD [] := by
  obtain ⟨after, hsplit, hne, hafter⟩ := exists_eq_takeWhile_append t.nodup hreg
  obtain ⟨hnext, hjobs⟩ := processAll_of_not_mem parseDuration me t.env t.now (s.meet t) hne
  obtain ⟨hnext', hjobs'⟩ := processAll_of_not_mem parseDuration me t.env t.now
    (call parseDuration me s t key epa).1 hafter
  have hall : processAll parseDuration me t.env t.now t.env.activeEpas (s.meet t) =
      ((processAll parseDuration me t.env t.now after (call parseDuration me s t key epa).1).1,
        (processAll parseDuration me t.env t.now
            (t.env.activeEpas.takeWhile fun e => e.1 ≠ key) (s.meet t)).2 ++
          (((call parseDuration me s t key epa).2.getD []).map (fun job => (key, job)) ++
            (processAll parseDuration me t.env t.now after
              (call parseDuration me s t key epa).1).2)) := by
    conv_lhs => rw [hsplit]
    rw [processAll_append]
    rfl
  refine ⟨hnext, ?_, ?_⟩
  · have hevict : (tick parseDuration me s t).1.nextScrape key =
        (dispatch parseDuration me t.env t.now (s.meet t)).1.nextScrape key := by
      rw [tick, evict]
      split <;> rfl
    have hactive : key ∈ t.env.activeEpas.map Prod.fst := List.mem_map.2 ⟨_, hreg, rfl⟩
    rw [hevict, dispatch, hall]
    simp only [if_pos hactive]
    exact hnext'
  · rw [tick, dispatch, hall]
    simp only [jobsFor, List.filter_append, List.map_append] at hjobs hjobs' ⊢
    rw [hjobs, hjobs', List.nil_append, List.append_nil]
    simp [List.filter_map, Function.comp_def]

/-- A tick leaves the schedule of a registered EPA alone and dispatches nothing for it, or it has
a round for it, which is due. -/
lemma tick_idle_or_round (parseDuration : String → Option ℕ) (me : String) (s : Scheduler V)
    (hreg : Registered key epa t) :
    (tick parseDuration me s t).1.nextScrape key = s.nextScrape key ∧
        jobsFor key (tick parseDuration me s t).2 = [] ∨
      ∃ P I pods, parseDuration epa.spec.scrape.interval = some I ∧
        isScheduledLater t.now s key I = false ∧
        (tick parseDuration me s t).1.nextScrape key = some (t.now + I, I) ∧
        jobsFor key (tick parseDuration me s t).2 = roundJobs epa P I pods := by
  obtain ⟨hbefore, hnext, hjobs⟩ := tick_registered parseDuration me s hreg
  rw [hnext, hjobs]
  rcases (callState parseDuration me s t key).processEpa_cases parseDuration me t.env t.now with
    ⟨⟨ownership, hidle⟩, hnone⟩ | ⟨ns, name, P, I, pods, -, -, hI, hdue, -, hcall⟩
  · refine Or.inl ⟨?_, hnone⟩
    rw [call, hidle]
    exact hbefore
  · refine Or.inr ⟨P, I, pods, hI, ?_, ?_, ?_⟩
    · rwa [isScheduledLater, hbefore] at hdue
    · rw [call, hcall]
      exact Function.update_self _ _ _
    · rw [call, hcall]
      rfl

/-! ### Runs -/

/-- The EPA is registered at the tick, and with no interval but `I`. -/
def KeepsInterval (parseDuration : String → Option ℕ) (key : String) (I : ℕ)
    (_ : Scheduler V) (t : Tick V) : Prop :=
  ∃ epa, Registered key epa t ∧ ∀ J, parseDuration epa.spec.scrape.interval = some J → J = I

/-- The next scrape of the EPA is not before an instant. -/
def NotBefore (key : String) (I start : ℕ) (s : Scheduler V) : Prop :=
  ∃ next, s.nextScrape key = some (next, I) ∧ start ≤ next

variable {I start : ℕ}

/-- An EPA that is due is not scheduled for later. -/
lemma NotBefore.le_now (h : NotBefore key I start s)
    (hdue : isScheduledLater t.now s key I = false) : start ≤ t.now := by
  obtain ⟨next, hnext, hle⟩ := h
  simp only [isScheduledLater, hnext, beq_self_eq_true, Bool.true_and, decide_eq_false_iff_not,
    not_lt] at hdue
  exact hle.trans hdue

/-- A tick under the same interval schedules nothing earlier. -/
lemma NotBefore.tick (h : NotBefore key I start s) (hkeep : KeepsInterval parseDuration key I s t) :
    NotBefore key I start (tick parseDuration me s t).1 := by
  obtain ⟨epa, hreg, hinterval⟩ := hkeep
  rcases tick_idle_or_round parseDuration me s hreg with
    ⟨hidle, -⟩ | ⟨P, J, pods, hJ, hdue, hnext, -⟩
  · obtain ⟨next, hnext, hle⟩ := h
    exact ⟨next, hidle.trans hnext, hle⟩
  · obtain rfl := hinterval J hJ
    exact ⟨t.now + J, hnext, (h.le_now hdue).trans (Nat.le_add_right _ _)⟩

/-- A tick with jobs for the EPA is a round, which schedules the next one. -/
lemma round_of_jobsFor_ne_nil (hkeep : KeepsInterval parseDuration key I s t)
    (hjobs : jobsFor key (tick parseDuration me s t).2 ≠ []) :
    isScheduledLater t.now s key I = false ∧
      NotBefore key I (t.now + I) (tick parseDuration me s t).1 := by
  obtain ⟨epa, hreg, hinterval⟩ := hkeep
  rcases tick_idle_or_round parseDuration me s hreg with
    ⟨-, hidle⟩ | ⟨P, J, pods, hJ, hdue, hnext, -⟩
  · exact absurd hidle hjobs
  · obtain rfl := hinterval J hJ
    exact ⟨hdue, t.now + J, hnext, le_rfl⟩

/-- Two rounds are an interval apart. -/
lemma interval_le_of_rounds {t' : Tick V} {ticks : List (Tick V)} {s₂ : Scheduler V}
    (hkeep : KeepsInterval parseDuration key I s t)
    (hjobs : jobsFor key (tick parseDuration me s t).2 ≠ [])
    (hticks : (tickSystem parseDuration me V).Path (KeepsInterval parseDuration key I)
      (tick parseDuration me s t).1 ticks s₂)
    (hkeep' : KeepsInterval parseDuration key I s₂ t')
    (hjobs' : jobsFor key (tick parseDuration me s₂ t').2 ≠ []) : t.now + I ≤ t'.now := by
  have hscheduled : NotBefore key I (t.now + I) s₂ := by
    refine hticks.preserves ?_ (round_of_jobsFor_ne_nil hkeep hjobs).2
    intro s t s' h hkeep hs
    obtain rfl := Option.some.inj hs
    exact h.tick hkeep
  exact hscheduled.le_now (round_of_jobsFor_ne_nil hkeep' hjobs').1

/-! ### Calls that are made -/

/-- The durations of the EPA, of this name, are read at the tick, its call finds that this
replica is to scrape it, and its pods are found. -/
structure Scrapable (parseDuration : String → Option ℕ) (me : String) (s : Scheduler V)
    (t : Tick V) (key : String) (epa : Epa) (P I : ℕ) (pods : List Pod) : Prop where
  registered : Registered key epa t
  evaluationPeriod : parseDuration epa.spec.scrape.evaluationPeriod = some P
  interval : parseDuration epa.spec.scrape.interval = some I
  found : ∃ ns name, splitKey key = some (ns, name) ∧
    shouldScrapeEpa (refreshOwnership me t.env.sets t.now ns name P
      (callState parseDuration me s t key).ownership) ns name = true ∧
    t.env.readyPods ns (epa.spec.scrapeTargetRef.getD epa.spec.scaleTargetRef) = some pods

variable {P : ℕ} {pods : List Pod}

/-- A scrapable EPA that is due has a job for each ready pod. -/
lemma jobsFor_of_scrapable (h : Scrapable parseDuration me s t key epa P I pods)
    (hdue : isScheduledLater t.now s key I = false) :
    jobsFor key (tick parseDuration me s t).2 = roundJobs epa P I pods := by
  obtain ⟨hreg, hP, hI, ns, name, hkey, hscrape, hpods⟩ := h
  obtain ⟨hbefore, -, hjobs⟩ := tick_registered parseDuration me s hreg
  have hdue' : isScheduledLater t.now { callState parseDuration me s t key with
      ownership := refreshOwnership me t.env.sets t.now ns name P
        (callState parseDuration me s t key).ownership } key I = false := by
    rw [isScheduledLater]
    rwa [isScheduledLater, ← hbefore] at hdue
  rw [hjobs, call, processEpa]
  simp only [hkey, hP, hI, hscrape, if_true, hdue', Bool.false_eq_true, if_false, scrapeRound,
    hpods, Option.getD_some]

/-- A call whose durations are read and that fails is for an EPA that is due. -/
lemma due_of_fails (hreg : Registered key epa t)
    (hkey : (splitKey key).isSome) (hP : parseDuration epa.spec.scrape.evaluationPeriod = some P)
    (hI : parseDuration epa.spec.scrape.interval = some I)
    (hfails : (call parseDuration me s t key epa).2 = none) :
    isScheduledLater t.now s key I = false := by
  obtain ⟨hbefore, -, -⟩ := tick_registered parseDuration me s hreg
  obtain ⟨⟨ns, name⟩, hkey⟩ := Option.isSome_iff_exists.1 hkey
  rw [call, processEpa] at hfails
  simp only [hkey, hP, hI] at hfails
  split at hfails
  · split at hfails
    · cases hfails
    · rename_i hdue
      rw [isScheduledLater, hbefore] at hdue
      exact Bool.eq_false_iff.2 hdue
  · cases hfails

/-- An EPA that is due stays so while its schedule is left alone. -/
lemma due_of_le {now now' : ℕ} (hdue : isScheduledLater now s key I = false) (hle : now ≤ now')
    (hsame : s'.nextScrape key = s.nextScrape key) :
    isScheduledLater now' s' key I = false := by
  rcases hnext : s.nextScrape key with _ | ⟨next, stored⟩
  · simp [isScheduledLater, hsame, hnext]
  · simp only [isScheduledLater, hsame, hnext, Bool.and_eq_false_iff, beq_eq_false_iff_ne,
      decide_eq_false_iff_not, not_lt] at hdue ⊢
    exact hdue.imp_right hle.trans'

/-- **Scrape rounds keep their spacing.** (1) Two rounds that dispatch jobs for an EPA that is
registered all along, with no call under another interval, are an interval apart.  (2) A call
that fails leaves the schedule of the EPA alone and dispatches nothing; the next tick that is
to scrape the EPA has a round for it, if the call had read the same interval or the EPA is due
by the schedule from before.  (3) An EPA to be scraped that is not scheduled with its interval
has a job for each ready pod. -/
theorem rounds_keep_spacing (parseDuration : String → Option ℕ) (me key : String) :
    (∀ (s s₂ : Scheduler V) (t t' : Tick V) (ticks : List (Tick V)) (I : ℕ),
      KeepsInterval parseDuration key I s t →
      jobsFor key (tick parseDuration me s t).2 ≠ [] →
      (tickSystem parseDuration me V).Path (KeepsInterval parseDuration key I)
        (tick parseDuration me s t).1 ticks s₂ →
      KeepsInterval parseDuration key I s₂ t' →
      jobsFor key (tick parseDuration me s₂ t').2 ≠ [] → t.now + I ≤ t'.now) ∧
    (∀ (s : Scheduler V) (t : Tick V) (epa : Epa), Registered key epa t →
      (call parseDuration me s t key epa).2 = none →
      (tick parseDuration me s t).1.nextScrape key = s.nextScrape key ∧
        jobsFor key (tick parseDuration me s t).2 = [] ∧
        ∀ (t' : Tick V) (epa' : Epa) (P I : ℕ) (pods : List Pod), t.now ≤ t'.now →
          Scrapable parseDuration me (tick parseDuration me s t).1 t' key epa' P I pods →
          ((parseDuration epa.spec.scrape.evaluationPeriod).isSome ∧
              parseDuration epa.spec.scrape.interval = some I ∨
            isScheduledLater t'.now s key I = false) →
          jobsFor key (tick parseDuration me (tick parseDuration me s t).1 t').2 =
            roundJobs epa' P I pods) ∧
    ∀ (s : Scheduler V) (t : Tick V) (epa : Epa) (P I : ℕ) (pods : List Pod),
      Scrapable parseDuration me s t key epa P I pods →
      (∀ next, s.nextScrape key ≠ some (next, I)) →
      jobsFor key (tick parseDuration me s t).2 = roundJobs epa P I pods ∧
        (jobsFor key (tick parseDuration me s t).2).map ScrapeJob.pod = pods := by
  refine ⟨?_, ?_, ?_⟩
  · intro s s₂ t t' ticks I hkeep hjobs hticks hkeep' hjobs'
    exact interval_le_of_rounds hkeep hjobs hticks hkeep' hjobs'
  · intro s t epa hreg hfails
    obtain ⟨hbefore, hnext, hjobs⟩ := tick_registered parseDuration me s hreg
    have hsame : (tick parseDuration me s t).1.nextScrape key = s.nextScrape key := by
      rw [hnext, call, nextScrape_of_processEpa_fails hfails, hbefore]
    refine ⟨hsame, by rw [hjobs, hfails]; rfl, ?_⟩
    intro t' epa' P I pods hle hscrapable hread
    refine jobsFor_of_scrapable hscrapable ?_
    rcases hread with ⟨hP, hI⟩ | hdue
    · obtain ⟨P', hP⟩ := Option.isSome_iff_exists.1 hP
      obtain ⟨ns, name, hkey, -⟩ := hscrapable.found
      exact due_of_le (due_of_fails hreg (by rw [hkey]; rfl) hP hI hfails) hle hsame
    · exact due_of_le hdue le_rfl hsame
  · intro s t epa P I pods hscrapable hchanged
    have hdue : isScheduledLater t.now s key I = false := by
      rw [isScheduledLater]
      split
      · rename_i next stored hstored
        have hne : stored ≠ I := by
          rintro rfl
          exact hchanged next hstored
        simp [hne]
      · rfl
    have hjobs := jobsFor_of_scrapable hscrapable hdue
    refine ⟨hjobs, ?_⟩
    rw [hjobs, roundJobs, List.map_map]
    exact List.map_id pods

/-! ### Rounds of one EPA -/

/-- A tick at an instant, of a replica that owns `webEpa`. -/
def webTickAt (now : ℕ) : Tick ℕ where
  now := now
  evictAt := now
  env := webSurroundings (webEpa "15s")
  ownership := .new
  store := .new
  nodup := List.nodup_singleton _

/-- The state after a tick of the owner. -/
def afterWebTick (s : Scheduler ℕ) (now : ℕ) : Scheduler ℕ :=
  (tick TickRun.parseWebDuration "replica-a" s (webTickAt now)).1

lemma keepsInterval_webTickAt (s : Scheduler ℕ) (now : ℕ) :
    KeepsInterval TickRun.parseWebDuration "default/web" (secs 15) s (webTickAt now) :=
  ⟨webEpa "15s", List.mem_singleton.2 rfl, fun _ hJ => (Option.some.inj hJ).symm⟩

/-- A round at once, a tick that is skipped, and a round after fifteen seconds. -/
theorem rounds_keep_spacing_fifteen_seconds :
    jobsFor "default/web" (tick TickRun.parseWebDuration "replica-a" (Scheduler.new 0)
      (webTickAt 0)).2 ≠ [] ∧
    jobsFor "default/web" (tick TickRun.parseWebDuration "replica-a"
        (afterWebTick (afterWebTick (Scheduler.new 0) 0) (secs 14))
        (webTickAt (secs 15))).2 ≠ [] ∧
    0 + secs 15 ≤ secs 15 := by
  have hfirst : jobsFor "default/web" (tick TickRun.parseWebDuration "replica-a"
      (Scheduler.new 0) (webTickAt 0)).2 ≠ [] := by
    decide +kernel
  have hsecond : jobsFor "default/web" (tick TickRun.parseWebDuration "replica-a"
      (afterWebTick (afterWebTick (Scheduler.new 0) 0) (secs 14))
      (webTickAt (secs 15))).2 ≠ [] := by
    decide +kernel
  refine ⟨hfirst, hsecond, ?_⟩
  exact (rounds_keep_spacing TickRun.parseWebDuration "replica-a" "default/web").1
    (Scheduler.new 0) _ (webTickAt 0) (webTickAt (secs 15)) [webTickAt (secs 14)] (secs 15)
    (keepsInterval_webTickAt _ _) hfirst (.single (keepsInterval_webTickAt _ _) rfl)
    (keepsInterval_webTickAt _ _) hsecond

end Scheduler

end ExternalPodAutoscaler.Scraper
