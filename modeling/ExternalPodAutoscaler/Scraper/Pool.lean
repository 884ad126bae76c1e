/-
The worker pool of the scraper (`ScraperService::run`, `Worker::run` and
`Worker::scrape_pod_static`).

The scheduler sends the jobs of a round through a bounded channel and waits while it is full; the
workers take them off and scrape one pod at a time.  A scrape that fails is an error and is
counted.  Two panics end the task of a worker: that of the parser, and that of `push_sample` when
the buffer of a new window is too long.  No worker is started again; `run` keeps a receiver of its
own, so that the channel is never closed.

The main results of this file are `jobs_scraped_unless_all_lost`: every job is scraped exactly
once, in rounds that end, as long as a worker is left; and `scrapes_go_on_iff`: the scraper goes on
exactly until as many panics as there are workers have ended them, and then the scheduler waits for
ever at a full channel that is not closed.
-/
import ExternalPodAutoscaler.Lib.WorkerPool
import ExternalPodAutoscaler.Scraper.OneSample
import ExternalPodAutoscaler.Scraper.Overflow

namespace ExternalPodAutoscaler.Scraper

open ExternalPodAutoscaler.Api ExternalPodAutoscaler.Lib ExternalPodAutoscaler.Store

/-! ### The scrape of a pod -/

/-- What comes back from a pod. -/
inductive PodResponse where
  | httpError (message : String)
  | timeout
  /-- A status, and the body or the error of reading it. -/
  | answered (status : ℕ) (body : Except String String)

/-- What a scrape depends on. -/
structure ScrapeReply where
  response : PodResponse
  /-- The instant at which the response is complete. -/
  scrapedAt : ℕ
  /-- Whether the store has no window for a sample when it is pushed, by the place of the sample. -/
  isNew : ℕ → Bool

/-- The samples that a scrape has pushed, or its error. -/
abbrev ScrapeOutcome (V : Type) := Except String (List (SampleKey × LabeledSample V))

section Scrape

variable {V : Type} [Add V] [Zero V] (parseF64 : List Char → Option V)
  (parseDuration : String → Except String ℕ) (showStatus : ℕ → String) (sampleSize : ℕ)

/-- `parse_duration`, with its error. -/
def scrapeTimeout (timeout : String) : Except String ℕ :=
  (parseDuration timeout).mapError fun e => s!"Invalid duration '{timeout}': {e}"

/-- The body of a response; other statuses than successes are errors. -/
def scrapedText (pod : Pod) : PodResponse → Except String String
  | .httpError message => .error s!"HTTP error: {message}"
  | .timeout => .error "Request timeout"
  | .answered status body =>
    if 200 ≤ status ∧ status < 300 then body.mapError fun e => s!"Failed to read response: {e}"
    else .error s!"HTTP {showStatus status} from pod {pod.name}"

/-- The text of a response, or why there is none: the timeout is parsed before the request. -/
def responseText (job : ScrapeJob) (response : PodResponse) : Except String String :=
  (scrapeTimeout parseDuration job.epa.spec.scrape.timeout).bind fun _ =>
    scrapedText showStatus job.pod response

/-- The samples of a job, or its error; `none` is a panic of the parser. -/
def scraped (job : ScrapeJob) (reply : ScrapeReply) : Option (ScrapeOutcome V) :=
  (scrapePodStatic parseF64 job (responseText parseDuration showStatus job reply.response)
    reply.scrapedAt).run

omit [Add V] [Zero V] in
/-- `push_sample`, for one sample after the other; `none` is a panic of `MetricWindow::new`. -/
def pushEach (maxSamples : ℕ) :
    List (SampleKey × LabeledSample V) → (ℕ → Bool) → Option Unit
  | [], _ => some ()
  | _ :: samples, isNew =>
    if isNew 0 then
      (allocateWindow V sampleSize maxSamples).bind fun _ =>
        pushEach maxSamples samples fun i => isNew (i + 1)
    else pushEach maxSamples samples fun i => isNew (i + 1)

/-- The result of a job, `none` if the worker does not survive the reply. -/
def scrapeResult (job : ScrapeJob) (reply : ScrapeReply) : Option (ScrapeOutcome V) :=
  (scraped parseF64 parseDuration showStatus job reply).bind fun
    | .error e => some (.error e)
    | .ok samples =>
      (pushEach sampleSize job.maxSamples samples reply.isNew).map fun _ => .ok samples

/-- The response of a job makes the parser panic. -/
def BreaksParser (job : ScrapeJob) (response : PodResponse) : Prop :=
  (∃ target, scrapeTarget job = .ok target) ∧
  (∃ d, parseDuration job.epa.spec.scrape.timeout = .ok d) ∧
  ∃ status text, response = .answered status (.ok text) ∧ 200 ≤ status ∧ status < 300 ∧
    ∃ before line after, lines text.toList = before ++ line :: after ∧
      SlicesBackwards parseF64 line ∧ ∀ l ∈ before, ¬ IsRejected parseF64 l

/-- A sample of the reply to a job needs a new window, whose buffer is too long. -/
def OverflowsWindow (job : ScrapeJob) (reply : ScrapeReply) : Prop :=
  maxBytes < job.maxSamples * sampleSize ∧
  ∃ samples, scraped parseF64 parseDuration showStatus job reply = some (.ok samples) ∧
    ∃ i < samples.length, reply.isNew i = true

/-- The reply to a job ends the task of its worker. -/
def EndsWorker (job : ScrapeJob) (reply : ScrapeReply) : Prop :=
  BreaksParser parseF64 parseDuration job reply.response ∨
    OverflowsWindow parseF64 parseDuration showStatus sampleSize job reply

end Scrape

/-! ### The pool -/

/-- The number of workers: `SCRAPER_WORKERS`, 20 if it is not set to a number, at least one. -/
def workerCount (scraperWorkers : Option String) : ℕ :=
  max ((scraperWorkers.bind fun s => Webhook.parseU64 s.toList).getD 20) 1

/-- The capacity of the channel. -/
def jobCapacity (workers : ℕ) : ℕ := workers * 64

/-- The jobs and the workers of a scraper. -/
abbrev ScraperPool (V : Type) := Pool ScrapeJob (ScrapeOutcome V)

/-- The receivers of the channel: those of the workers that are left, and the one that `run`
keeps. -/
def receivers {V : Type} (w : ScraperPool V) : ℕ := w.workers.countP (!·.isLost) + 1

/-- `Sender::is_closed`: nobody can receive. -/
def isClosed {V : Type} (w : ScraperPool V) : Bool := receivers w == 0

section Runs

variable {V : Type} [Add V] [Zero V] (parseF64 : List Char → Option V)
  (parseDuration : String → Except String ℕ) (showStatus : ℕ → String) (sampleSize workers : ℕ)

/-- The scraper with a number of workers. -/
def poolSystem : System (ScraperPool V) (PoolEvent ScrapeJob ScrapeReply) :=
  Pool.system (jobCapacity workers) (scrapeResult parseF64 parseDuration showStatus sampleSize)
    workers

end Runs

/-! ### When a worker is lost -/

section Panics

variable {V : Type} [Add V] [Zero V] {parseF64 : List Char → Option V}
  {parseDuration : String → Except String ℕ} {showStatus : ℕ → String} {sampleSize : ℕ}
  {job : ScrapeJob} {response : PodResponse}

lemma scrapedText_eq_ok_iff (showStatus : ℕ → String) (pod : Pod) {text : String} :
    scrapedText showStatus pod response = .ok text ↔
      ∃ status, response = .answered status (.ok text) ∧ 200 ≤ status ∧ status < 300 := by
  rcases response with message | _ | ⟨status, body⟩
  · simp [scrapedText]
  · simp [scrapedText]
  · simp only [scrapedText]
    split
    · rename_i hsuccess
      rcases body with e | text'
      · simp [Except.mapError]
      · simp [Except.mapError, hsuccess]
    · rename_i hfailure
      simp only [reduceCtorEq, false_iff]
      rintro ⟨status', heq, hsuccess⟩
      obtain ⟨rfl, -⟩ := PodResponse.answered.inj heq
      exact hfailure hsuccess

lemma scrapeTimeout_eq_ok_iff {timeout : String} {d : ℕ} :
    scrapeTimeout parseDuration timeout = .ok d ↔ parseDuration timeout = .ok d := by
  unfold scrapeTimeout
  rcases parseDuration timeout with e | d' <;> simp [Except.mapError]

/-- When the parser panics. -/
lemma scraped_eq_none_iff {reply : ScrapeReply} :
    scraped parseF64 parseDuration showStatus job reply = none ↔
      BreaksParser parseF64 parseDuration job reply.response := by
  have hpanics : scraped parseF64 parseDuration showStatus job reply = none ↔
      (∃ target, scrapeTarget job = .ok target) ∧ ∃ text,
        responseText parseDuration showStatus job reply.response = .ok text ∧
          parsePrometheusText parseF64 text = panicSlice := by
    rcases htarget : scrapeTarget job with e | target
    · simp [scraped, scrapePodStatic, htarget, throw, throwThe, MonadExceptOf.throw,
        ExceptT.run, ExceptT.mk]
    · rcases htext : responseText parseDuration showStatus job reply.response with e | text
      · simp [scraped, scrapePodStatic, htarget, htext, throw, throwThe,
          MonadExceptOf.throw, ExceptT.run, ExceptT.mk]
      · simp only [scraped, scrapePodStatic, htarget, htext, Except.ok.injEq,
          exists_eq', true_and, exists_eq_left']
        rcases parsePrometheusText parseF64 text with _ | _ | parsed
        · exact ⟨fun _ => rfl, fun _ => rfl⟩
        · exact ⟨fun h => (nomatch h), fun h => (nomatch h)⟩
        · exact ⟨fun h => (nomatch h), fun h => (nomatch h)⟩
  have htext : ∀ text, responseText parseDuration showStatus job reply.response = .ok text ↔
      (∃ d, parseDuration job.epa.spec.scrape.timeout = .ok d) ∧
        ∃ status, reply.response = .answered status (.ok text) ∧ 200 ≤ status ∧
          status < 300 := by
    intro text
    have htimeout : (∃ d, parseDuration job.epa.spec.scrape.timeout = .ok d) ↔
        ∃ d, scrapeTimeout parseDuration job.epa.spec.scrape.timeout = .ok d :=
      exists_congr fun d => scrapeTimeout_eq_ok_iff.symm
    rw [← scrapedText_eq_ok_iff showStatus job.pod, htimeout, responseText]
    rcases scrapeTimeout parseDuration job.epa.spec.scrape.timeout with e | d
    · simp [Except.bind]
    · simp [Except.bind]
  rw [hpanics, BreaksParser]
  simp only [htext, parsePrometheusText, parseLines_eq_panicSlice_iff]
  constructor
  · rintro ⟨htarget, text, ⟨hd, status, hstatus, hlow, hhigh⟩, hbreaks⟩
    exact ⟨htarget, hd, status, text, hstatus, hlow, hhigh, hbreaks⟩
  · rintro ⟨htarget, hd, status, text, hstatus, hlow, hhigh, hbreaks⟩
    exact ⟨htarget, text, ⟨hd, status, hstatus, hlow, hhigh⟩, hbreaks⟩

omit [Add V] [Zero V] in
/-- When the allocation of a window panics. -/
lemma pushEach_eq_none_iff {maxSamples : ℕ} {samples : List (SampleKey × LabeledSample V)}
    {isNew : ℕ → Bool} : pushEach sampleSize maxSamples samples isNew = none ↔
      maxBytes < maxSamples * sampleSize ∧ ∃ i < samples.length, isNew i = true := by
  have hallocate : allocateWindow V sampleSize maxSamples = none ↔
      maxBytes < maxSamples * sampleSize := by
    rw [allocateWindow, Option.map_eq_none_iff, checked_eq_none_iff]
    exact Nat.succ_le_iff
  induction samples generalizing isNew with
  | nil => simp [pushEach]
  | cons sample samples ih =>
      have hexists : (∃ i < (sample :: samples).length, isNew i = true) ↔
          isNew 0 = true ∨ ∃ i < samples.length, isNew (i + 1) = true := by
        rw [List.length_cons, Nat.exists_lt_succ_left]
      have hrest : pushEach sampleSize maxSamples samples (fun i => isNew (i + 1)) = none ↔
          maxBytes < maxSamples * sampleSize ∧ ∃ i < samples.length, isNew (i + 1) = true := ih
      rw [pushEach, hexists]
      split
      · rename_i hnew
        rcases hwindow : allocateWindow V sampleSize maxSamples with _ | window
        · simp [hallocate.1 hwindow, hnew]
        · have hle : ¬ maxBytes < maxSamples * sampleSize := fun hlt => by
            rw [hallocate.2 hlt] at hwindow
            cases hwindow
          rw [Option.bind_some, hrest]
          simp [hle]
      · rename_i hold
        rw [hrest, Bool.eq_false_iff.2 hold]
        simp

/-- **When a worker is lost.** -/
lemma scrapeResult_eq_none_iff {reply : ScrapeReply} :
    scrapeResult parseF64 parseDuration showStatus sampleSize job reply = none ↔
      EndsWorker parseF64 parseDuration showStatus sampleSize job reply := by
  rw [EndsWorker, ← scraped_eq_none_iff (V := V), OverflowsWindow, scrapeResult]
  rcases hscraped : scraped parseF64 parseDuration showStatus job reply with _ | e | samples
  · simp
  · simp
  · simp [pushEach_eq_none_iff]

/-- A worker survives a timeout. -/
lemma exists_scrapeResult (job : ScrapeJob) : ∃ reply y,
    scrapeResult parseF64 parseDuration showStatus sampleSize job reply = some y := by
  refine ⟨⟨.timeout, 0, fun _ => false⟩, Option.ne_none_iff_exists'.1 fun hnone => ?_⟩
  rcases scrapeResult_eq_none_iff.1 hnone with ⟨-, -, status, text, heq, -⟩ | ⟨-, _, -, _, -, hnew⟩
  · cases heq
  · cases hnew

end Panics

lemma workerCount_pos (scraperWorkers : Option String) : 0 < workerCount scraperWorkers :=
  Nat.lt_of_lt_of_le Nat.zero_lt_one (Nat.le_max_right _ _)

lemma jobCapacity_pos (scraperWorkers : Option String) :
    0 < jobCapacity (workerCount scraperWorkers) :=
  Nat.mul_pos (workerCount_pos scraperWorkers) (by decide)

/-! ### Every job is scraped -/

section Runs

variable {V : Type} [Add V] [Zero V] {parseF64 : List Char → Option V}
  {parseDuration : String → Except String ℕ} {showStatus : ℕ → String} {sampleSize : ℕ}
  {scraperWorkers : Option String} {w w' : ScraperPool V}

/-- A reply to a job leaves its worker lost or idle. -/
lemma lost_iff_endsWorker {i : ℕ} {job : ScrapeJob} {reply : ScrapeReply}
    (hworker : w.workers[i]? = some (.busy job))
    (hstep : (poolSystem parseF64 parseDuration showStatus sampleSize
      (workerCount scraperWorkers)).step w (.reply i reply) = some w') :
    w'.workers[i]? = some .lost ↔
      EndsWorker parseF64 parseDuration showStatus sampleSize job reply := by
  rw [← scrapeResult_eq_none_iff (V := V)]
  simp only [poolSystem, Pool.system, Pool.step, hworker] at hstep
  split at hstep
  · rename_i outcome hsome
    obtain rfl := Option.some.inj hstep
    rw [getElem?_set_of_some hworker, hsome]
    simp
  · rename_i hnone
    obtain rfl := Option.some.inj hstep
    rw [getElem?_set_of_some hworker, hnone]
    simp

/-- **Jobs are scraped once.** In every run, whatever the pods answer, the workers take the jobs in
the order in which the scheduler has sent them, and each job is held by one worker, scraped once or
lost with its worker, which is so exactly on a reply that ends it.  A round that is under way ends
after a bounded number of steps; then all jobs that were sent are scraped or lost, unless all
workers are lost. -/
theorem jobs_scraped_unless_all_lost {es : List (PoolEvent ScrapeJob ScrapeReply)}
    (hreach : (poolSystem parseF64 parseDuration showStatus sampleSize
      (workerCount scraperWorkers)).Reachable System.Any w)
    (hpath : (poolSystem parseF64 parseDuration showStatus sampleSize
      (workerCount scraperWorkers)).Path Pool.Internal w es w') :
    (∃ taken, w'.sent = taken ++ w'.queue ∧
      taken.Perm (w'.held ++ w'.handled.map Prod.fst ++ w'.lost)) ∧
    w'.queue.length ≤ jobCapacity (workerCount scraperWorkers) ∧
    w'.lost.length ≤ workerCount scraperWorkers ∧
    (∀ job ∈ w'.lost, ∃ reply,
      EndsWorker parseF64 parseDuration showStatus sampleSize job reply) ∧
    (∀ i job reply w₁, w'.workers[i]? = some (.busy job) →
      (poolSystem parseF64 parseDuration showStatus sampleSize
        (workerCount scraperWorkers)).step w' (.reply i reply) = some w₁ →
      (w₁.workers[i]? = some .lost ↔
        EndsWorker parseF64 parseDuration showStatus sampleSize job reply)) ∧
    es.length ≤ w.work ∧
    (Pool.Quiet (jobCapacity (workerCount scraperWorkers))
        (scrapeResult parseF64 parseDuration showStatus sampleSize) w' →
      w'.lost.length < workerCount scraperWorkers →
      w'.todo = [] ∧ w'.sent = w.sent ++ w.todo ∧
        w'.sent.Perm (w'.handled.map Prod.fst ++ w'.lost)) := by
  have : Nonempty ScrapeReply := ⟨⟨.timeout, 0, fun _ => false⟩⟩
  obtain ⟨hbound, hend⟩ := Pool.drains (jobCapacity_pos scraperWorkers) hreach hpath
  have h := Pool.accounted (hreach.path (hpath.mono fun _ _ _ => trivial))
  refine ⟨h.taken, h.queue_le, ?_, fun job hjob => ?_,
    fun i job reply w₁ hworker hstep => lost_iff_endsWorker hworker hstep, hbound,
    fun hquiet hleft => ?_⟩
  · rw [← h.lost, ← h.workers]
    exact List.countP_le_length
  · obtain ⟨reply, hnone⟩ := h.of_lost job hjob
    exact ⟨reply, scrapeResult_eq_none_iff.1 hnone⟩
  · obtain ⟨hsent, htodo, hperm⟩ := hend hquiet hleft
    exact ⟨htodo, hsent, hperm⟩

/-- **The scraper stops silently.** It goes on exactly as long as fewer jobs than there are workers
are lost, each on a reply that ended its worker.  Afterwards no job is scraped in any run, the
scheduler sends no more than fits in the channel and then waits for ever, and the channel is not
closed. -/
theorem scrapes_go_on_iff
    (hreach : (poolSystem parseF64 parseDuration showStatus sampleSize
      (workerCount scraperWorkers)).Reachable System.Any w) :
    (Pool.GoesOn (jobCapacity (workerCount scraperWorkers)) (workerCount scraperWorkers)
        (scrapeResult parseF64 parseDuration showStatus sampleSize) w ↔
      w.lost.length < workerCount scraperWorkers) ∧
    (∀ job ∈ w.lost, ∃ reply,
      EndsWorker parseF64 parseDuration showStatus sampleSize job reply) ∧
    (w.lost.length = workerCount scraperWorkers → ∀ es w',
      (poolSystem parseF64 parseDuration showStatus sampleSize
        (workerCount scraperWorkers)).Path System.Any w es w' →
      isClosed w' = false ∧ w'.handled = w.handled ∧
      w'.sent.length ≤ w.sent.length +
        (jobCapacity (workerCount scraperWorkers) - w.queue.length) ∧
      (w'.todo ≠ [] → w'.queue.length = jobCapacity (workerCount scraperWorkers) →
        ∀ e, (poolSystem parseF64 parseDuration showStatus sampleSize
          (workerCount scraperWorkers)).step w' e = none)) := by
  have h := Pool.accounted hreach
  have hle : w.lost.length ≤ workerCount scraperWorkers := by
    rw [← h.lost, ← h.workers]
    exact List.countP_le_length
  refine ⟨⟨fun hgoes => ?_, fun hleft => ?_⟩, fun job hjob => ?_, fun hlost es w' hpath => ?_⟩
  · refine Nat.lt_of_le_of_ne hle fun hlost => ?_
    obtain ⟨es, w', hpath, hlt⟩ := hgoes
    obtain ⟨-, hhandled, -⟩ := (h.allLost hlost).stuck hpath
    rw [hhandled] at hlt
    exact Nat.lt_irrefl _ hlt
  · have : Nonempty ScrapeJob :=
      ⟨{ epa := webEpa "15s", pod := ⟨"web-0", none, none⟩, maxSamples := 1
         useInsecureTls := false }⟩
    exact h.goesOn (jobCapacity_pos scraperWorkers) exists_scrapeResult hleft
  · obtain ⟨reply, hnone⟩ := h.of_lost job hjob
    exact ⟨reply, scrapeResult_eq_none_iff.1 hnone⟩
  · obtain ⟨hworkers, hhandled, -, more, hsent, hqueue⟩ := (h.allLost hlost).stuck hpath
    have hroom := (Pool.accounted (hreach.path hpath)).queue_le
    have hall : Pool.AllLost w' := by
      rw [Pool.AllLost, hworkers]
      exact h.allLost hlost
    refine ⟨rfl, hhandled, ?_, fun htodo hfull e => hall.step_eq_none htodo hfull.ge e⟩
    rw [hqueue, List.length_append] at hroom
    rw [hsent, List.length_append]
    omega

end Runs

/-! ### A pool with two workers -/

section Example

/-- The scraper with two workers, for samples of 32 bytes. -/
def twoWorkers : System (ScraperPool ℕ) (PoolEvent ScrapeJob ScrapeReply) :=
  poolSystem Webhook.parseU64 (fun _ => .ok (secs 10)) toString 32 (workerCount (some "2"))

/-- A job of an EPA with an evaluation period of more than thirty billion years. -/
def longJob : ScrapeJob := { webJob with maxSamples := 10 ^ 18 }

/-- A round with two jobs. -/
def webRound : ScraperPool ℕ := ⟨[webJob, longJob], [], [.idle, .idle], [], [], []⟩

/-- The jobs are sent, taken and replied to. -/
def webReplies (first second : ScrapeReply) : List (PoolEvent ScrapeJob ScrapeReply) :=
  [.send, .send, .take 0, .take 1, .reply 0 first, .reply 1 second]

/-- The pod has not answered in time. -/
def timedOut : ScrapeReply := ⟨.timeout, secs 1, fun _ => false⟩

/-- The braces of a line are reversed. -/
def reversedBraces : ScrapeReply :=
  ⟨.answered 200 (.ok "a\x7db\x7bc 1"), secs 1, fun _ => true⟩

/-- The first sample of a metric. -/
def firstSample : ScrapeReply := ⟨.answered 200 (.ok "queue_depth 7"), secs 1, fun _ => true⟩

/-- Both jobs have timed out. -/
def webTimeout : ScraperPool ℕ :=
  ⟨[], [], [.idle, .idle], [webJob, longJob],
    [(webJob, .error "Request timeout"), (longJob, .error "Request timeout")], []⟩

/-- Both workers are lost. -/
def webPanic : ScraperPool ℕ :=
  ⟨[], [], [.lost, .lost], [webJob, longJob], [], [webJob, longJob]⟩

lemma webRound_reachable : twoWorkers.Reachable System.Any webRound :=
  ⟨Pool.start 2, [.produce [webJob, longJob]], rfl, .single trivial rfl⟩

lemma webReplies_path {ok : ScraperPool ℕ → PoolEvent ScrapeJob ScrapeReply → Prop}
    {first second : ScrapeReply} {w' : ScraperPool ℕ}
    (hok : ∀ w, ∀ e ∈ webReplies first second, ok w e)
    (h : twoWorkers.exec webRound (webReplies first second) = some w') :
    twoWorkers.Path ok webRound (webReplies first second) w' :=
  (System.exec_eq_some_iff.1 h).restrict fun e he w => hok w e he

theorem jobs_scraped_unless_all_lost_timeout :
    webTimeout.todo = [] ∧ webTimeout.sent = webRound.sent ++ webRound.todo ∧
      webTimeout.sent.Perm (webTimeout.handled.map Prod.fst ++ webTimeout.lost) := by
  have hpath : twoWorkers.Path Pool.Internal webRound (webReplies timedOut timedOut)
      webTimeout :=
    webReplies_path (by simp [webReplies, Pool.Internal]) rfl
  obtain ⟨-, -, -, -, -, -, hend⟩ := jobs_scraped_unless_all_lost webRound_reachable hpath
  refine hend ?_ (by decide)
  rintro (jobs | _ | i | ⟨i, reply⟩) hinternal
  · cases hinternal
  · rfl
  · rcases i with _ | _ | i <;> rfl
  · rcases i with _ | _ | i <;> rfl

/-- One worker is lost to the parser, the other one to a window. -/
theorem scrapes_go_on_iff_both_lost :
    ¬ Pool.GoesOn (jobCapacity (workerCount (some "2"))) (workerCount (some "2"))
      (scrapeResult Webhook.parseU64 (fun _ => .ok (secs 10)) toString 32) webPanic := by
  have hpath : twoWorkers.Path System.Any webRound (webReplies reversedBraces firstSample)
      webPanic :=
    webReplies_path (fun _ _ _ => trivial) rfl
  have hiff := (scrapes_go_on_iff (webRound_reachable.path hpath)).1
  exact fun hgoes => absurd (hiff.1 hgoes) (by decide)

end Example

end ExternalPodAutoscaler.Scraper
