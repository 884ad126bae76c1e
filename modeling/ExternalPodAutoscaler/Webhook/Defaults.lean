/-
Default values of EPAs (`apply_defaults` of `webhook/admission/handlers.rs`).

The mutating webhook fills the fields that are not set, one after the other.  A missing
`scrapeTargetRef` is a copy of `scaleTargetRef`, made before the API version of the latter is
filled in.

The main result of this file is `applyDefaults_coherent_iff`: defaulting is idempotent and keeps
what is set, and a missing `scrapeTargetRef` becomes the resulting `scaleTargetRef` exactly if
the API version of `scaleTargetRef` is set.  What is filled in passes the checks of the
validating webhook (`applyDefaults_accepts`).
-/
import ExternalPodAutoscaler.Webhook.Admission

namespace ExternalPodAutoscaler.Webhook

open ExternalPodAutoscaler.Api

section Fields

variable {α : Type} [DecidableEq α] {unset default value : α}

/-- A field that is not set gets the default. -/
def fillIn (unset default value : α) : α := if value = unset then default else value

@[simp] lemma fillIn_unset : fillIn unset default unset = default := if_pos rfl

lemma fillIn_of_ne (h : value ≠ unset) : fillIn unset default value = value := if_neg h

/-- A field that has been filled in is not changed by filling it in with anything. -/
lemma fillIn_fillIn (h : default ≠ unset) (default' : α) :
    fillIn unset default' (fillIn unset default value) = fillIn unset default value := by
  refine fillIn_of_ne ?_
  by_cases hvalue : value = unset
  · rw [hvalue, fillIn_unset]
    exact h
  · rw [fillIn_of_ne hvalue]
    exact hvalue

end Fields

/-- `apply_defaults`. -/
def applyDefaults (epa : Epa) : Epa :=
  let target := epa.spec.scaleTargetRef
  let scrape := epa.spec.scrape
  { epa with spec := { epa.spec with
      minReplicas := fillIn 0 1 epa.spec.minReplicas
      -- the copy is made before the API version is filled in
      scrapeTargetRef := fillIn none (some target) epa.spec.scrapeTargetRef
      scaleTargetRef := { target with apiVersion := fillIn "" "apps/v1" target.apiVersion }
      scrape := { scrape with
        port := fillIn 0 8080 scrape.port
        path := fillIn "" "/metrics" scrape.path
        interval := fillIn "" "15s" scrape.interval
        timeout := fillIn "" "1s" scrape.timeout
        scheme := fillIn "" "http" scrape.scheme
        evaluationPeriod := fillIn "" "60s" scrape.evaluationPeriod } } }

/-- A field that is set is kept. -/
def Keeps {α : Type} (unset old new : α) : Prop := old ≠ unset → new = old

/-- Every field that is set is kept, and those without defaults are kept anyway. -/
structure KeepsSetFields (old new : Epa) : Prop where
  metadata : new.metadata = old.metadata
  minReplicas : Keeps 0 old.spec.minReplicas new.spec.minReplicas
  maxReplicas : new.spec.maxReplicas = old.spec.maxReplicas
  port : Keeps 0 old.spec.scrape.port new.spec.scrape.port
  path : Keeps "" old.spec.scrape.path new.spec.scrape.path
  interval : Keeps "" old.spec.scrape.interval new.spec.scrape.interval
  timeout : Keeps "" old.spec.scrape.timeout new.spec.scrape.timeout
  scheme : Keeps "" old.spec.scrape.scheme new.spec.scrape.scheme
  tls : new.spec.scrape.tls = old.spec.scrape.tls
  evaluationPeriod : Keeps "" old.spec.scrape.evaluationPeriod new.spec.scrape.evaluationPeriod
  aggregationType : new.spec.scrape.aggregationType = old.spec.scrape.aggregationType
  scrapeTargetRef : Keeps none old.spec.scrapeTargetRef new.spec.scrapeTargetRef
  apiVersion : Keeps "" old.spec.scaleTargetRef.apiVersion new.spec.scaleTargetRef.apiVersion
  kind : new.spec.scaleTargetRef.kind = old.spec.scaleTargetRef.kind
  name : new.spec.scaleTargetRef.name = old.spec.scaleTargetRef.name
  metrics : new.spec.metrics = old.spec.metrics
  behavior : new.spec.behavior = old.spec.behavior

lemma keepsSetFields_applyDefaults (epa : Epa) : KeepsSetFields epa (applyDefaults epa) where
  metadata := rfl
  minReplicas := fillIn_of_ne
  maxReplicas := rfl
  port := fillIn_of_ne
  path := fillIn_of_ne
  interval := fillIn_of_ne
  timeout := fillIn_of_ne
  scheme := fillIn_of_ne
  tls := rfl
  evaluationPeriod := fillIn_of_ne
  aggregationType := rfl
  scrapeTargetRef := fillIn_of_ne
  apiVersion := fillIn_of_ne
  kind := rfl
  name := rfl
  metrics := rfl
  behavior := rfl

lemma applyDefaults_applyDefaults (epa : Epa) :
    applyDefaults (applyDefaults epa) = applyDefaults epa := by
  simp [applyDefaults, fillIn_fillIn]

/-- **Defaulting.** It is idempotent and keeps what is set, and a missing `scrapeTargetRef`
becomes equal to the resulting `scaleTargetRef`, exactly if the API version of the latter is set
where the former is missing. -/
theorem applyDefaults_coherent_iff (epa : Epa) :
    (applyDefaults (applyDefaults epa) = applyDefaults epa ∧
      KeepsSetFields epa (applyDefaults epa) ∧
      (epa.spec.scrapeTargetRef = none →
        (applyDefaults epa).spec.scrapeTargetRef =
          some (applyDefaults epa).spec.scaleTargetRef)) ↔
      (epa.spec.scrapeTargetRef = none → epa.spec.scaleTargetRef.apiVersion ≠ "") := by
  have hcopy : epa.spec.scrapeTargetRef = none →
      ((applyDefaults epa).spec.scrapeTargetRef = some (applyDefaults epa).spec.scaleTargetRef ↔
        epa.spec.scaleTargetRef.apiVersion ≠ "") := by
    intro hnone
    have hscrape : (applyDefaults epa).spec.scrapeTargetRef = some epa.spec.scaleTargetRef := by
      simp [applyDefaults, hnone]
    rw [hscrape, Option.some_inj]
    constructor
    · intro heq hempty
      -- the API version is filled in, and the copy has none
      have hversion := congrArg TargetRef.apiVersion heq
      simp [applyDefaults, hempty] at hversion
    · intro hset
      simp [applyDefaults, fillIn_of_ne hset]
  constructor
  · rintro ⟨-, -, h⟩ hnone
    exact (hcopy hnone).1 (h hnone)
  · intro hset
    exact ⟨applyDefaults_applyDefaults epa, keepsSetFields_applyDefaults epa,
      fun hnone => (hcopy hnone).2 (hset hnone)⟩

/-- The fields that have defaults and are checked, each passing its check or not set. -/
structure PassesOrUnset (epa : Epa) : Prop where
  minReplicas : 0 ≤ epa.spec.minReplicas
  maxReplicas : fillIn 0 1 epa.spec.minReplicas ≤ epa.spec.maxReplicas
  port : 0 ≤ epa.spec.scrape.port ∧ epa.spec.scrape.port ≤ 65535
  path : epa.spec.scrape.path ≠ "" → (validateScrapePath epa.spec.scrape.path).accepts = true
  interval : epa.spec.scrape.interval ≠ "" →
    (validateDuration epa.spec.scrape.interval "scrape.interval").accepts = true
  timeout : epa.spec.scrape.timeout ≠ "" →
    (validateDuration epa.spec.scrape.timeout "scrape.timeout").accepts = true
  scheme : epa.spec.scrape.scheme ∈ ["", "http", "https"]
  evaluationPeriod : epa.spec.scrape.evaluationPeriod ≠ "" →
    (validateDuration epa.spec.scrape.evaluationPeriod "scrape.evaluationPeriod").accepts = true
  name : epa.spec.scaleTargetRef.name ≠ ""
  kind : epa.spec.scaleTargetRef.kind ≠ ""
  metrics : epa.spec.metrics ≠ [] ∧ ∀ metric ∈ epa.spec.metrics, metric.metricName ≠ "" ∧
    metric.targetValue ≠ "" ∧ parsesF64 metric.targetValue.toList = true

/-- A check that the default passes is passed by what has been filled in. -/
lemma fillIn_passes {α : Type} [DecidableEq α] {unset default value : α} (p : α → Prop)
    (hdefault : p default) (hvalue : value ≠ unset → p value) :
    p (fillIn unset default value) := by
  by_cases h : value = unset
  · rw [h, fillIn_unset]
    exact hdefault
  · rw [fillIn_of_ne h]
    exact hvalue h

/-- **The defaults are valid.** An EPA with its defaults is admitted if each of its fields passes
its check or is filled in. -/
theorem applyDefaults_accepts {epa : Epa} (h : PassesOrUnset epa) :
    (validateEpaSpec (applyDefaults epa)).accepts = true := by
  have hmin : 1 ≤ fillIn 0 1 epa.spec.minReplicas := by
    refine fillIn_passes (1 ≤ ·) le_rfl fun hne => ?_
    have := h.minReplicas
    omega
  have hport : 1 ≤ fillIn 0 8080 epa.spec.scrape.port ∧
      fillIn 0 8080 epa.spec.scrape.port ≤ 65535 := by
    refine fillIn_passes (fun port => 1 ≤ port ∧ port ≤ 65535) (by decide) fun hne => ?_
    have := h.port
    omega
  have hscheme : fillIn "" "http" epa.spec.scrape.scheme = "http" ∨
      fillIn "" "http" epa.spec.scrape.scheme = "https" := by
    refine fillIn_passes (fun scheme => scheme = "http" ∨ scheme = "https") (Or.inl rfl) ?_
    intro hne
    simpa [hne] using h.scheme
  have hpath : (validateScrapePath (fillIn "" "/metrics" epa.spec.scrape.path)).accepts = true :=
    fillIn_passes (fun path => (validateScrapePath path).accepts = true) (by decide +kernel) h.path
  have hduration : ∀ (field duration default : String),
      (validateDuration default field).accepts = true →
      (duration ≠ "" → (validateDuration duration field).accepts = true) →
      (validateDuration (fillIn "" default duration) field).accepts = true :=
    fun field _ _ => fillIn_passes (fun d => (validateDuration d field).accepts = true)
  refine validateEpaSpec_accepts_iff.2 ⟨hmin, h.maxReplicas, h.name, h.kind, h.metrics.1,
    h.metrics.2, hport, hscheme, hpath, ?_, ?_, ?_⟩
  · exact hduration _ _ "15s" (by decide +kernel) h.interval
  · exact hduration _ _ "1s" (by decide +kernel) h.timeout
  · exact hduration _ _ "60s" (by decide +kernel) h.evaluationPeriod

/-! ### A reference without an API version -/

/-- **A copy without an API version.** The API version of `scaleTargetRef` is empty and there is
no `scrapeTargetRef`.  The first gets its default and the second does not. -/
theorem copied_before_default :
    let epa : Epa := { webEpa "15s" with spec := { (webEpa "15s").spec with
      scaleTargetRef := ⟨"", "Deployment", "web"⟩ } }
    epa.spec.scrapeTargetRef = none ∧
    (validateEpaSpec epa).accepts = true ∧
    (applyDefaults epa).spec.scrapeTargetRef = some ⟨"", "Deployment", "web"⟩ ∧
    (applyDefaults epa).spec.scaleTargetRef = ⟨"apps/v1", "Deployment", "web"⟩ ∧
    (applyDefaults epa).spec.scrapeTargetRef ≠ some (applyDefaults epa).spec.scaleTargetRef := by
  decide +kernel

end ExternalPodAutoscaler.Webhook
