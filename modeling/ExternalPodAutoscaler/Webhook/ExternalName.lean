/-
External metric names (`parse_external_metric_name` of `webhook/metrics/handlers.rs` and
`build_hpa_spec` of `controller/externalpodautoscaler/reconcile.rs`).

The autoscaler names a metric by the EPA, its namespace and the metric, joined by hyphens;
the webhook cuts the name at its last hyphen and takes the namespace of the URL off the end
of what is before it.

The main results of this file are `external_names_exact`: for every namespace, parsing and
joining are inverse to each other as long as metric names have no hyphen; and
`admitted_metric_reachable_iff`: a metric of an admitted EPA is found under the name that its
autoscaler has for it exactly when the name of the metric has no hyphen.  Admission does not
check this (`hyphenated_metric_unreachable`).
-/
import Mathlib.Data.Set.Function
import ExternalPodAutoscaler.Controller.Hpa
import ExternalPodAutoscaler.Lib.Splitting
import ExternalPodAutoscaler.Scraper.Workers
import ExternalPodAutoscaler.Webhook.Admission

namespace ExternalPodAutoscaler.Webhook

open ExternalPodAutoscaler.Api ExternalPodAutoscaler.Controller ExternalPodAutoscaler.Lib
open ExternalPodAutoscaler.Scraper ExternalPodAutoscaler.Store

/-- The errors of the metrics API. -/
inductive ApiError where
  | notFound
  | badRequest (message : String)
  | internalError (message : String)
  | metricUnavailable (message : String)
deriving DecidableEq

/-- The name of a metric in the autoscaler of an EPA. -/
def externalMetricName (name ns metricName : String) : String := s!"{name}-{ns}-{metricName}"

/-- `parse_external_metric_name`. -/
def parseExternalMetricName (urlNamespace metricName : String) :
    Except ApiError (String × String × String) :=
  let invalid := ApiError.badRequest s!"Invalid external metric name format: {metricName}"
  match rsplitOnce '-' metricName.toList with
  | none => .error invalid
  | some (before, actualMetric) =>
    -- the rest is the EPA and the namespace
    match before.dropSuffix? ('-' :: urlNamespace.toList) with
    | none => .error invalid
    | some epaName =>
      if epaName.isEmpty || actualMetric.isEmpty then .error invalid
      else .ok (String.ofList epaName, urlNamespace, String.ofList actualMetric)

/-- The names of an EPA and of a metric that make an external name. -/
def IsNamePair (p : String × String) : Prop := p.1 ≠ "" ∧ p.2 ≠ "" ∧ '-' ∉ p.2.toList

instance (p : String × String) : Decidable (IsNamePair p) :=
  inferInstanceAs (Decidable (_ ∧ _ ∧ _))

lemma externalMetricName_toList (name ns metricName : String) :
    (externalMetricName name ns metricName).toList =
      (name.toList ++ '-' :: ns.toList) ++ '-' :: metricName.toList := by
  show (name ++ "-" ++ ns ++ "-" ++ metricName).toList = _
  have hhyphen : ("-" : String).toList = ['-'] := rfl
  simp only [String.toList_append, hhyphen, List.append_assoc, List.cons_append, List.nil_append]

lemma hpaMetric_externalName (ns name : String) (metric : MetricSpec) :
    (hpaMetric ns name metric).external.map ExternalMetricSource.metricName =
      some (externalMetricName name ns metric.metricName) := rfl

/-! ### Parsing and joining -/

section Exact

variable {ns s epaName epaNs metricName : String}

lemma toList_eq_nil_iff {s : String} : s.toList = [] ↔ s = "" := by
  rw [← String.toList_inj]
  rfl

/-- A name is parsed exactly if it is joined from its parts. -/
lemma parseExternalMetricName_eq_ok_iff :
    parseExternalMetricName ns s = .ok (epaName, epaNs, metricName) ↔
      epaNs = ns ∧ IsNamePair (epaName, metricName) ∧
        s = externalMetricName epaName ns metricName := by
  have hjoin : s = externalMetricName epaName ns metricName ↔
      s.toList = (epaName.toList ++ '-' :: ns.toList) ++ '-' :: metricName.toList := by
    rw [← String.toList_inj, externalMetricName_toList]
  constructor
  · intro h
    unfold parseExternalMetricName at h
    dsimp only at h
    split at h
    · cases h
    · rename_i before actualMetric hcut
      obtain ⟨hs, hhyphen⟩ := rsplitOnce_eq_some_iff.1 hcut
      split at h
      · cases h
      · rename_i epa hsuffix
        obtain ⟨suffix, hbefore, hsame⟩ := List.dropSuffix?_eq_some_iff.1 hsuffix
        obtain rfl : suffix = '-' :: ns.toList := beq_iff_eq.1 hsame
        split at h
        · cases h
        · rename_i hne
          simp only [Bool.or_eq_true, List.isEmpty_iff, not_or] at hne
          simp only [Except.ok.injEq, Prod.mk.injEq] at h
          obtain ⟨rfl, rfl, rfl⟩ := h
          refine ⟨rfl, ⟨?_, ?_, ?_⟩, hjoin.2 ?_⟩
          · rw [Ne, ← toList_eq_nil_iff, String.toList_ofList]
            exact hne.1
          · rw [Ne, ← toList_eq_nil_iff, String.toList_ofList]
            exact hne.2
          · rwa [String.toList_ofList]
          · rw [String.toList_ofList, String.toList_ofList, hs, hbefore]
  · rintro ⟨rfl, ⟨hepa, hmetric, hhyphen⟩, hs⟩
    have hcut : rsplitOnce '-' s.toList =
        some (epaName.toList ++ '-' :: epaNs.toList, metricName.toList) :=
      rsplitOnce_eq_some_iff.2 ⟨hjoin.1 hs, hhyphen⟩
    have hsuffix : (epaName.toList ++ '-' :: epaNs.toList).dropSuffix? ('-' :: epaNs.toList) =
        some epaName.toList := List.dropSuffix?_eq_some_iff.2 ⟨_, rfl, beq_self_eq_true _⟩
    have hne : ¬ (epaName.toList.isEmpty || metricName.toList.isEmpty) = true := by
      simp only [Bool.or_eq_true, List.isEmpty_iff, toList_eq_nil_iff, not_or]
      exact ⟨hepa, hmetric⟩
    simp only [parseExternalMetricName, hcut, hsuffix, if_neg hne, String.ofList_toList]

/-- A rejected name is named in the message of the error. -/
theorem parseExternalMetricName_error {e : ApiError} (h : parseExternalMetricName ns s = .error e) :
    e = .badRequest s!"Invalid external metric name format: {s}" := by
  unfold parseExternalMetricName at h
  dsimp only at h
  split at h
  · exact (Except.error.inj h).symm
  · split at h
    · exact (Except.error.inj h).symm
    · split at h
      · exact (Except.error.inj h).symm
      · cases h

end Exact

/-- **External names are an exact code.** For every namespace, joining is a bijection from
the pairs of a non-empty EPA name and a non-empty metric name without a hyphen to the names
that the parser accepts in this namespace, and parsing is its inverse; what is parsed keeps
the namespace. -/
theorem external_names_exact (ns : String) :
    Set.BijOn (fun p : String × String => externalMetricName p.1 ns p.2) {p | IsNamePair p}
      {s | ∃ parsed, parseExternalMetricName ns s = .ok parsed} ∧
    ∀ s epaName epaNs metricName,
      parseExternalMetricName ns s = .ok (epaName, epaNs, metricName) ↔
        epaNs = ns ∧ IsNamePair (epaName, metricName) ∧
          s = externalMetricName epaName ns metricName := by
  have hparse : ∀ p : String × String, IsNamePair p →
      parseExternalMetricName ns (externalMetricName p.1 ns p.2) = .ok (p.1, ns, p.2) :=
    fun p hp => parseExternalMetricName_eq_ok_iff.2 ⟨rfl, hp, rfl⟩
  refine ⟨⟨?_, ?_, ?_⟩, fun s epaName epaNs metricName => parseExternalMetricName_eq_ok_iff⟩
  · intro p hp
    exact ⟨_, hparse p hp⟩
  · intro p hp q hq heq
    have hsame : (.ok (p.1, ns, p.2) : Except ApiError _) = .ok (q.1, ns, q.2) := by
      rw [← hparse p hp, ← hparse q hq]
      exact congrArg _ heq
    simp only [Except.ok.injEq, Prod.mk.injEq, true_and] at hsame
    exact Prod.ext hsame.1 hsame.2
  · rintro s ⟨⟨epaName, epaNs, metricName⟩, hs⟩
    obtain ⟨-, hpair, rfl⟩ := parseExternalMetricName_eq_ok_iff.1 hs
    exact ⟨(epaName, metricName), hpair, rfl⟩

/-! ### Metrics of admitted EPAs -/

section Admitted

variable {V : Type} [Add V] [Zero V] {epa : Epa} {hpa : Hpa} {ns name : String}
  {metric : MetricSpec} {i : ℕ}

/-- The name under which the autoscaler requests its `i`-th metric. -/
def requestedName (hpa : Hpa) (i : ℕ) : Option String :=
  (hpa.metrics[i]?.bind HpaMetricSpec.external).map ExternalMetricSource.metricName

lemma requestedName_of_buildHpaSpec (hname : epaNameNamespace epa.metadata = .ok (ns, name))
    (hbuild : buildHpaSpec epa = .ok hpa) (hi : epa.spec.metrics[i]? = some metric) :
    requestedName hpa i = some (externalMetricName name ns metric.metricName) := by
  obtain ⟨ns', name', uid, hname', -, rfl⟩ := buildHpaSpec_eq_ok.1 hbuild
  obtain ⟨rfl, rfl⟩ := Prod.mk.inj (Except.ok.inj (hname.symm.trans hname'))
  have hmetric : (hpaOf ns name uid epa).metrics[i]? = some (hpaMetric ns name metric) := by
    rw [hpaOf, List.getElem?_map, hi]
    rfl
  rw [requestedName, hmetric]
  exact hpaMetric_externalName ns name metric

/-- The samples of a metric are stored under its name. -/
lemma metricName_of_scrapedMetric {parsed : List (ParsedMetric V)} {s : String × V × MetricType}
    (h : scrapedMetric parsed metric = some s) : s.1 = metric.metricName := by
  obtain ⟨first, -, rfl⟩ := Option.map_eq_some_iff.1 h
  rfl

/-- The metric is requested under a name that is parsed into the EPA and the name that the
samples of the metric are stored under. -/
def Reachable (V : Type) [Add V] [Zero V] (ns name : String) (metric : MetricSpec)
    (external : String) : Prop :=
  parseExternalMetricName ns external = .ok (name, ns, metric.metricName) ∧
    ∀ (parsed : List (ParsedMetric V)) (s : String × V × MetricType),
      scrapedMetric parsed metric = some s → s.1 = metric.metricName

/-- **Admitted metrics are reachable exactly without hyphens.** The name that the autoscaler
has for a metric of an admitted EPA is parsed into the EPA and the metric exactly when the
name of the metric has no hyphen. -/
theorem admitted_metric_reachable_iff (hadm : (validateEpaSpec epa).accepts = true)
    (hname : epaNameNamespace epa.metadata = .ok (ns, name)) (hne : name ≠ "")
    (hbuild : buildHpaSpec epa = .ok hpa) (hi : epa.spec.metrics[i]? = some metric) :
    ∃ external, requestedName hpa i = some external ∧
      (Reachable V ns name metric external ↔ '-' ∉ metric.metricName.toList) := by
  have hmetrics := (validateEpaSpec_accepts_iff.1 hadm).2.2.2.2.2.1
  have hne' : metric.metricName ≠ "" := (hmetrics metric (List.mem_of_getElem? hi)).1
  refine ⟨_, requestedName_of_buildHpaSpec hname hbuild hi, ?_⟩
  have hparse : parseExternalMetricName ns (externalMetricName name ns metric.metricName) =
      .ok (name, ns, metric.metricName) ↔ IsNamePair (name, metric.metricName) := by
    rw [parseExternalMetricName_eq_ok_iff]
    exact ⟨fun h => h.2.1, fun h => ⟨rfl, h, rfl⟩⟩
  constructor
  · rintro ⟨hok, -⟩
    exact (hparse.1 hok).2.2
  · intro hhyphen
    exact ⟨hparse.2 ⟨hne, hne', hhyphen⟩, fun parsed s hs => metricName_of_scrapedMetric hs⟩

/-- A metric whose name starts with the namespace is requested under the name of a metric of
another EPA. -/
theorem externalMetricName_of_other_epa (name ns metricName : String) :
    externalMetricName name ns s!"{ns}-{metricName}" =
      externalMetricName s!"{name}-{ns}" ns metricName := by
  have hhyphen : ("-" : String).toList = ['-'] := rfl
  have happend : ∀ a b : String, s!"{a}-{b}" = a ++ "-" ++ b := fun _ _ => rfl
  rw [← String.toList_inj, externalMetricName_toList, externalMetricName_toList, happend, happend]
  simp [hhyphen]

end Admitted

/-! ### A metric with a hyphen -/

/-- The metric of the EPA `default/web` with the given name. -/
def queueMetric (metricName : String) : MetricSpec :=
  ⟨metricName, .averageValue, "30", none, none, none⟩

/-- The EPA `default/web` with one metric. -/
def queueEpa (metricName : String) : Epa :=
  { webEpa "15s" with spec := { (webEpa "15s").spec with metrics := [queueMetric metricName] } }

/-- The autoscaler of `queueEpa`. -/
def queueHpa (metricName : String) : Hpa := hpaOf "default" "web" "7c1f" (queueEpa metricName)

/-- **A hyphen is admitted.** The metric `queue-depth` is admitted, and the name that the
autoscaler has for it is not parsed. -/
theorem hyphenated_metric_unreachable :
    (validateEpaSpec (queueEpa "queue-depth")).accepts = true ∧
    buildHpaSpec (queueEpa "queue-depth") = .ok (queueHpa "queue-depth") ∧
    requestedName (queueHpa "queue-depth") 0 = some "web-default-queue-depth" ∧
    parseExternalMetricName "default" "web-default-queue-depth" =
      .error (.badRequest "Invalid external metric name format: web-default-queue-depth") ∧
    ¬ Reachable ℕ "default" "web" (queueMetric "queue-depth") "web-default-queue-depth" := by
  have hparse : parseExternalMetricName "default" "web-default-queue-depth" =
      .error (.badRequest "Invalid external metric name format: web-default-queue-depth") := by
    decide
  refine ⟨by decide, by decide, by decide, hparse, ?_⟩
  rintro ⟨hok, -⟩
  rw [hparse] at hok
  cases hok

theorem admitted_metric_reachable_iff_queue_depth :
    ∃ external, requestedName (queueHpa "queue_depth") 0 = some external ∧
      (Reachable ℕ "default" "web" (queueMetric "queue_depth") external ↔
        '-' ∉ (queueMetric "queue_depth").metricName.toList) := by
  have hadm : (validateEpaSpec (queueEpa "queue_depth")).accepts = true := by decide
  have hbuild : buildHpaSpec (queueEpa "queue_depth") = .ok (queueHpa "queue_depth") := by decide
  exact admitted_metric_reachable_iff hadm rfl (by decide) hbuild rfl

end ExternalPodAutoscaler.Webhook
