/-
The managed autoscaler (`build_hpa_spec` of `controller/externalpodautoscaler/reconcile.rs`).

The controller applies one `HorizontalPodAutoscaler` for each EPA, of the same name and
namespace, and owned by the EPA.  Its metrics are external metrics served by the webhook.

The main result of this file is `exists_buildHpaSpec_iff`: the autoscaler can be built exactly
when the metadata of the EPA has a name, a namespace and a UID.
-/
import ExternalPodAutoscaler.Api.Epa

namespace ExternalPodAutoscaler.Controller

open ExternalPodAutoscaler.Api

/-- The errors of a reconcile. -/
inductive ReconcileError where
  | kube (message : String)
  | observation (message : String)
  | hpa (message : String)
deriving DecidableEq

/-- The namespace and the name of a resource. -/
abbrev ResourceName := String × String

/-- `epa_name_namespace`. -/
def epaNameNamespace (metadata : ObjectMeta) : Except ReconcileError ResourceName :=
  match metadata.name, metadata.ns with
  | none, _ => .error (.observation "EPA missing metadata.name")
  | some _, none => .error (.observation "EPA missing metadata.namespace")
  | some name, some ns => .ok (ns, name)

structure MetricTarget where
  type : String
  value : Option String
  averageValue : Option String
deriving DecidableEq

structure ExternalMetricSource where
  metricName : String
  selector : Option LabelSelector
  target : MetricTarget
deriving DecidableEq

structure HpaMetricSpec where
  type : String
  external : Option ExternalMetricSource
deriving DecidableEq

structure HpaScalingPolicy where
  type : String
  value : ℤ
  periodSeconds : ℤ
deriving DecidableEq

structure HpaScalingRules where
  stabilizationWindowSeconds : Option ℤ
  policies : Option (List HpaScalingPolicy)
  selectPolicy : Option String
  tolerance : Option String
deriving DecidableEq

structure HpaBehavior where
  scaleUp : Option HpaScalingRules
  scaleDown : Option HpaScalingRules
deriving DecidableEq

/-- A `HorizontalPodAutoscaler`. -/
structure Hpa where
  name : String
  ns : String
  ownerReferences : List OwnerReference
  scaleTargetRef : TargetRef
  minReplicas : Option ℤ
  maxReplicas : ℤ
  metrics : List HpaMetricSpec
  behavior : Option HpaBehavior
deriving DecidableEq

/-- The namespace and the name of an autoscaler. -/
def Hpa.key (hpa : Hpa) : ResourceName := (hpa.ns, hpa.name)

/-- The metric of the autoscaler for one metric of the EPA. -/
def hpaMetric (ns name : String) (metric : MetricSpec) : HpaMetricSpec where
  type := "External"
  external := some
    { metricName := s!"{name}-{ns}-{metric.metricName}"
      -- the label selector is handled by the webhook
      selector := none
      target :=
        { type := if metric.type = .averageValue then "AverageValue" else "Value"
          value := if metric.type = .value then some metric.targetValue else none
          averageValue := if metric.type = .averageValue then some metric.targetValue else none } }

def hpaScalingRules (rules : ScalingRules) : HpaScalingRules where
  stabilizationWindowSeconds := rules.stabilizationWindowSeconds
  policies := rules.policies.map fun policies =>
    policies.map fun p => ⟨p.type, p.value, p.periodSeconds⟩
  selectPolicy := rules.selectPolicy
  tolerance := none

/-- The autoscaler of an EPA with the given namespace, name and UID. -/
def hpaOf (ns name uid : String) (epa : Epa) : Hpa where
  name := name
  ns := ns
  ownerReferences :=
    [⟨"ctx.sh/v1beta1", "ExternalPodAutoscaler", name, uid, some true, some true⟩]
  scaleTargetRef := epa.spec.scaleTargetRef
  minReplicas := some epa.spec.minReplicas
  maxReplicas := epa.spec.maxReplicas
  metrics := epa.spec.metrics.map (hpaMetric ns name)
  behavior := epa.spec.behavior.map fun b =>
    ⟨b.scaleUp.map hpaScalingRules, b.scaleDown.map hpaScalingRules⟩

/-- `build_hpa_spec`. -/
def buildHpaSpec (epa : Epa) : Except ReconcileError Hpa :=
  match epaNameNamespace epa.metadata with
  | .error e => .error e
  | .ok (ns, name) =>
    match epa.metadata.uid with
    | none => .error (.hpa
        s!"ExternalPodAutoscaler {ns}/{name} missing required UID for owner reference")
    | some uid => .ok (hpaOf ns name uid epa)

lemma epaNameNamespace_eq_ok {metadata : ObjectMeta} {k : ResourceName} :
    epaNameNamespace metadata = .ok k ↔ metadata.ns = some k.1 ∧ metadata.name = some k.2 := by
  obtain ⟨ns, name⟩ := k
  unfold epaNameNamespace
  split <;> simp_all

lemma buildHpaSpec_eq_ok {epa : Epa} {hpa : Hpa} : buildHpaSpec epa = .ok hpa ↔
    ∃ ns name uid, epaNameNamespace epa.metadata = .ok (ns, name) ∧
      epa.metadata.uid = some uid ∧ hpa = hpaOf ns name uid epa := by
  unfold buildHpaSpec
  constructor
  · intro h
    split at h
    · cases h
    · rename_i ns name hname
      split at h
      · cases h
      · rename_i uid huid
        exact ⟨ns, name, uid, hname, huid, (Except.ok.inj h).symm⟩
  · rintro ⟨ns, name, uid, hname, huid, rfl⟩
    simp only [hname, huid]

/-- **Building the autoscaler.** It fails only for metadata that the API always sets. -/
theorem exists_buildHpaSpec_iff (epa : Epa) : (∃ hpa, buildHpaSpec epa = .ok hpa) ↔
    epa.metadata.name.isSome ∧ epa.metadata.ns.isSome ∧ epa.metadata.uid.isSome := by
  simp only [buildHpaSpec_eq_ok, epaNameNamespace_eq_ok, Option.isSome_iff_exists]
  constructor
  · rintro ⟨hpa, ns, name, uid, ⟨hns, hname⟩, huid, -⟩
    exact ⟨⟨name, hname⟩, ⟨ns, hns⟩, uid, huid⟩
  · rintro ⟨⟨name, hname⟩, ⟨ns, hns⟩, uid, huid⟩
    exact ⟨_, ns, name, uid, ⟨hns, hname⟩, huid, rfl⟩

/-- The autoscaler is applied under the name of the EPA. -/
lemma key_of_buildHpaSpec {epa : Epa} {hpa : Hpa} {k : ResourceName}
    (h : buildHpaSpec epa = .ok hpa) (hk : epaNameNamespace epa.metadata = .ok k) :
    hpa.key = k := by
  obtain ⟨ns, name, uid, hname, -, rfl⟩ := buildHpaSpec_eq_ok.1 h
  exact Except.ok.inj (hname.symm.trans hk)

end ExternalPodAutoscaler.Controller
