/-
EPAs as documents (the `serde` attributes of `apis/ctx.sh/v1beta1/externalpodautoscaler.rs`).

Each type of the resource is described by its fields, in their order: the key, the type, and
whether the field is required, has a default, or is left out if there is no value.  Unknown fields
are ignored, and are lost when the value is written again.  The code derived from the descriptions
is that of the library `serde`, a parameter, and so is what the client library does with metadata.

The main result of this file is `resource_round_trip`: the resources that can be read are those
with numbers of type `i32` and sorted labels, and each of them is read back as it was written.
-/
import ExternalPodAutoscaler.Api.Epa
import ExternalPodAutoscaler.Lib.Serde

namespace ExternalPodAutoscaler.Api

open ExternalPodAutoscaler.Lib

variable (serde : Serde)

/-! ### Enumerations -/

/-- The name of a target type. -/
def metricTargetTypeName : MetricTargetType → String
  | .averageValue => "AverageValue"
  | .value => "Value"

/-- `MetricTargetType`. -/
def metricTargetType : Codec MetricTargetType :=
  serde.enum [.averageValue, .value] metricTargetTypeName (by rintro ⟨⟩ <;> simp)
    (by rintro ⟨⟩ ⟨⟩ <;> simp [metricTargetTypeName])

/-- The name of an aggregation, in lower case. -/
def aggregationTypeName : AggregationType → String
  | .avg => "avg"
  | .max => "max"
  | .min => "min"
  | .median => "median"
  | .last => "last"

/-- `AggregationType`. -/
def aggregationType : Codec AggregationType :=
  serde.enum [.avg, .max, .min, .median, .last] aggregationTypeName (by rintro ⟨⟩ <;> simp)
    (by rintro ⟨⟩ ⟨⟩ <;> simp [aggregationTypeName])

/-- The name of an operator. -/
def labelSelectorOperatorName : LabelSelectorOperator → String
  | .isIn => "In"
  | .notIn => "NotIn"
  | .exists => "Exists"
  | .doesNotExist => "DoesNotExist"

/-- `LabelSelectorOperator`. -/
def labelSelectorOperator : Codec LabelSelectorOperator :=
  serde.enum [.isIn, .notIn, .exists, .doesNotExist] labelSelectorOperatorName
    (by rintro ⟨⟩ <;> simp) (by rintro ⟨⟩ ⟨⟩ <;> simp [labelSelectorOperatorName])

/-! ### The types of the spec -/

/-- `LabelSelectorRequirement`. -/
def labelSelectorRequirement : Codec LabelSelectorRequirement :=
  serde.struct
    (.equiv
      (.and (.one "key" (.required serde.string))
        (.and (.one "operator" (.required (labelSelectorOperator serde)))
          (.one "values" (.optional (serde.list serde.string)))))
      ⟨fun x => ⟨x.1, x.2.1, x.2.2⟩, fun r => (r.key, r.operator, r.values), fun _ => rfl,
        fun _ => rfl⟩)
    (of_decide_eq_true rfl)

/-- `LabelSelector`. -/
def labelSelector : Codec LabelSelector :=
  serde.struct
    (.equiv
      (.and (.one "matchLabels" (.optional (serde.map serde.string)))
        (.one "matchExpressions" (.optional (serde.list (labelSelectorRequirement serde)))))
      ⟨fun x => ⟨x.1, x.2⟩, fun s => (s.matchLabels, s.matchExpressions), fun _ => rfl,
        fun _ => rfl⟩)
    (of_decide_eq_true rfl)

/-- `MetricSpec`. -/
def metricSpec : Codec MetricSpec :=
  serde.struct
    (.equiv
      (.and (.one "metricName" (.required serde.string))
        (.and (.one "type" (.withDefault (metricTargetType serde) .averageValue trivial))
          (.and (.one "targetValue" (.required serde.string))
            (.and (.one "aggregationType" (.optional (aggregationType serde)))
              (.and (.one "evaluationPeriod" (.optional serde.string))
                (.one "labelSelector" (.optional (labelSelector serde))))))))
      ⟨fun x => ⟨x.1, x.2.1, x.2.2.1, x.2.2.2.1, x.2.2.2.2.1, x.2.2.2.2.2⟩,
        fun m => (m.metricName, m.type, m.targetValue, m.aggregationType, m.evaluationPeriod,
          m.labelSelector), fun _ => rfl, fun _ => rfl⟩)
    (of_decide_eq_true rfl)

/-- The fields of `TargetRef`. -/
def targetRefFields : Fields TargetRef :=
  .equiv
    (.and (.one "apiVersion" (.withDefault serde.string "apps/v1" (serde.valid_string _)))
      (.and (.one "kind" (.required serde.string)) (.one "name" (.required serde.string))))
    ⟨fun x => ⟨x.1, x.2.1, x.2.2⟩, fun t => (t.apiVersion, t.kind, t.name), fun _ => rfl,
      fun _ => rfl⟩

/-- `TargetRef`. -/
def targetRef : Codec TargetRef := serde.struct (targetRefFields serde) (of_decide_eq_true rfl)

/-- `TlsConfig`. -/
def tlsConfig : Codec TlsConfig :=
  serde.struct
    (.equiv (.one "insecureSkipVerify" (.withDefault serde.bool false (serde.valid_bool _)))
      ⟨fun x => ⟨x⟩, fun t => t.insecureSkipVerify, fun _ => rfl, fun _ => rfl⟩)
    (of_decide_eq_true rfl)

lemma i32_valid {n : ℤ} (hlow : -2147483648 ≤ n) (hhigh : n ≤ 2147483647) :
    serde.i32.Valid n := (serde.valid_i32 n).2 ⟨hlow, hhigh⟩

/-- The fields of `ScrapeConfig`. -/
def scrapeConfigFields : Fields ScrapeConfig :=
  .equiv
    (.and (.one "port" (.withDefault serde.i32 8080 (i32_valid serde (by decide) (by decide))))
      (.and (.one "path" (.withDefault serde.string "/metrics" (serde.valid_string _)))
        (.and (.one "interval" (.withDefault serde.string "15s" (serde.valid_string _)))
          (.and (.one "timeout" (.withDefault serde.string "1s" (serde.valid_string _)))
            (.and (.one "scheme" (.withDefault serde.string "http" (serde.valid_string _)))
              (.and (.one "tls" (.optional (tlsConfig serde)))
                (.and
                  (.one "evaluationPeriod" (.withDefault serde.string "60s" (serde.valid_string _)))
                  (.one "aggregationType"
                    (.withDefault (aggregationType serde) .avg trivial)))))))))
    ⟨fun x => ⟨x.1, x.2.1, x.2.2.1, x.2.2.2.1, x.2.2.2.2.1, x.2.2.2.2.2.1, x.2.2.2.2.2.2.1,
        x.2.2.2.2.2.2.2⟩,
      fun s => (s.port, s.path, s.interval, s.timeout, s.scheme, s.tls, s.evaluationPeriod,
        s.aggregationType), fun _ => rfl, fun _ => rfl⟩

/-- `ScrapeConfig`. -/
def scrapeConfig : Codec ScrapeConfig :=
  serde.struct (scrapeConfigFields serde) (of_decide_eq_true rfl)

/-- `ScalingPolicy`. -/
def scalingPolicy : Codec ScalingPolicy :=
  serde.struct
    (.equiv
      (.and (.one "type" (.required serde.string))
        (.and (.one "value" (.required serde.i32)) (.one "periodSeconds" (.required serde.i32))))
      ⟨fun x => ⟨x.1, x.2.1, x.2.2⟩, fun p => (p.type, p.value, p.periodSeconds), fun _ => rfl,
        fun _ => rfl⟩)
    (of_decide_eq_true rfl)

/-- `ScalingRules`. -/
def scalingRules : Codec ScalingRules :=
  serde.struct
    (.equiv
      (.and (.one "stabilizationWindowSeconds" (.optional serde.i32))
        (.and (.one "policies" (.optional (serde.list (scalingPolicy serde))))
          (.one "selectPolicy" (.optional serde.string))))
      ⟨fun x => ⟨x.1, x.2.1, x.2.2⟩,
        fun r => (r.stabilizationWindowSeconds, r.policies, r.selectPolicy), fun _ => rfl,
        fun _ => rfl⟩)
    (of_decide_eq_true rfl)

/-- `ScalingBehavior`. -/
def scalingBehavior : Codec ScalingBehavior :=
  serde.struct
    (.equiv
      (.and (.one "scaleUp" (.optional (scalingRules serde)))
        (.one "scaleDown" (.optional (scalingRules serde))))
      ⟨fun x => ⟨x.1, x.2⟩, fun b => (b.scaleUp, b.scaleDown), fun _ => rfl, fun _ => rfl⟩)
    (of_decide_eq_true rfl)

/-- The fields of `ExternalPodAutoscalerSpec`. -/
def epaSpecFields : Fields EpaSpec :=
  .equiv
    (.and (.one "minReplicas" (.withDefault serde.i32 1 (i32_valid serde (by decide) (by decide))))
      (.and (.one "maxReplicas" (.required serde.i32))
        (.and (.one "scrape" (.required (scrapeConfig serde)))
          (.and (.one "scrapeTargetRef" (.optional (targetRef serde)))
            (.and (.one "scaleTargetRef" (.required (targetRef serde)))
              (.and (.one "metrics" (.required (serde.list (metricSpec serde))))
                (.one "behavior" (.optional (scalingBehavior serde)))))))))
    ⟨fun x => ⟨x.1, x.2.1, x.2.2.1, x.2.2.2.1, x.2.2.2.2.1, x.2.2.2.2.2.1, x.2.2.2.2.2.2⟩,
      fun s => (s.minReplicas, s.maxReplicas, s.scrape, s.scrapeTargetRef, s.scaleTargetRef,
        s.metrics, s.behavior), fun _ => rfl, fun _ => rfl⟩

/-- `ExternalPodAutoscalerSpec`. -/
def epaSpec : Codec EpaSpec := serde.struct (epaSpecFields serde) (of_decide_eq_true rfl)

/-! ### The status -/

structure Condition where
  type : String
  status : String
  lastTransitionTime : String
  reason : String
  message : String
deriving DecidableEq

structure ManagedHpaStatus where
  name : String
  lastSyncTime : Option String
deriving DecidableEq

/-- `ExternalPodAutoscalerStatus`. -/
structure EpaStatus where
  managedHpa : Option ManagedHpaStatus
  scrapedReplicas : Option ℤ
  scrapeErrors : Option ℤ
  conditions : List Condition
deriving DecidableEq

/-- `Condition`. -/
def condition : Codec Condition :=
  serde.struct
    (.equiv
      (.and (.one "type" (.required serde.string))
        (.and (.one "status" (.required serde.string))
          (.and (.one "lastTransitionTime" (.required serde.string))
            (.and (.one "reason" (.required serde.string))
              (.one "message" (.required serde.string))))))
      ⟨fun x => ⟨x.1, x.2.1, x.2.2.1, x.2.2.2.1, x.2.2.2.2⟩,
        fun c => (c.type, c.status, c.lastTransitionTime, c.reason, c.message), fun _ => rfl,
        fun _ => rfl⟩)
    (of_decide_eq_true rfl)

/-- `ManagedHpaStatus`. -/
def managedHpaStatus : Codec ManagedHpaStatus :=
  serde.struct
    (.equiv
      (.and (.one "name" (.required serde.string)) (.one "lastSyncTime" (.optional serde.string)))
      ⟨fun x => ⟨x.1, x.2⟩, fun h => (h.name, h.lastSyncTime), fun _ => rfl, fun _ => rfl⟩)
    (of_decide_eq_true rfl)

lemma nil_valid {α : Type} (c : Codec α) : (serde.list c).Valid [] :=
  (serde.valid_list c []).2 fun _ ha => nomatch ha

/-- The conditions, which are left out if there are none. -/
def conditionsMember : Member (List Condition) :=
  .nonempty (serde.list (condition serde)) (nil_valid serde _)

/-- `ExternalPodAutoscalerStatus`, as a document. -/
def epaStatus : Codec EpaStatus :=
  serde.struct
    (.equiv
      (.and (.one "managedHpa" (.optional (managedHpaStatus serde)))
        (.and (.one "scrapedReplicas" (.optional serde.i32))
          (.and (.one "scrapeErrors" (.optional serde.i32))
            (.one "conditions" (conditionsMember serde)))))
      ⟨fun x => ⟨x.1, x.2.1, x.2.2.1, x.2.2.2⟩,
        fun s => (s.managedHpa, s.scrapedReplicas, s.scrapeErrors, s.conditions), fun _ => rfl,
        fun _ => rfl⟩)
    (of_decide_eq_true rfl)

/-! ### The resource -/

/-- `ExternalPodAutoscaler`, with metadata of any type. -/
structure EpaResource (M : Type) where
  metadata : M
  spec : EpaSpec
  status : Option EpaStatus
deriving DecidableEq

section Resource

variable {M : Type} (metadata : Codec M)

/-- The fields of the resource.  The version and the kind are written, and not read. -/
def epaResourceFields : Fields (EpaResource M) :=
  .equiv
    (.and (.constant "apiVersion" (.str "ctx.sh/v1beta1"))
      (.and (.constant "kind" (.str "ExternalPodAutoscaler"))
        (.and (.one "metadata" (.required metadata))
          (.and (.one "spec" (.required (epaSpec serde)))
            (.one "status" (.optional (epaStatus serde)))))))
    ⟨fun x => ⟨x.2.2.1, x.2.2.2.1, x.2.2.2.2⟩,
      fun e => ((), (), e.metadata, e.spec, e.status), fun _ => rfl, fun _ => rfl⟩

lemma epaResourceFields_keys_nodup : (epaResourceFields serde metadata).keys.Nodup := by
  show ["apiVersion", "kind", "metadata", "spec", "status"].Nodup
  decide

/-- `ExternalPodAutoscaler`, as a document. -/
def epaResource : Codec (EpaResource M) :=
  serde.struct (epaResourceFields serde metadata) (epaResourceFields_keys_nodup serde metadata)

end Resource

/-! ### What the types can hold -/

/-- The numbers of a set of rules. -/
structure RulesInRange (rules : ScalingRules) : Prop where
  window : ∀ seconds, rules.stabilizationWindowSeconds = some seconds → IsI32 seconds
  policies : ∀ policies, rules.policies = some policies → ∀ policy ∈ policies,
    IsI32 policy.value ∧ IsI32 policy.periodSeconds

/-- The numbers are of type `i32`, and the labels of the selectors are a sorted map. -/
structure SpecInRange (spec : EpaSpec) : Prop where
  minReplicas : IsI32 spec.minReplicas
  maxReplicas : IsI32 spec.maxReplicas
  port : IsI32 spec.scrape.port
  matchLabels : ∀ metric ∈ spec.metrics, ∀ selector, metric.labelSelector = some selector →
    ∀ labels, selector.matchLabels = some labels → IsSorted labels
  scaleUp : ∀ behavior, spec.behavior = some behavior → ∀ rules, behavior.scaleUp = some rules →
    RulesInRange rules
  scaleDown : ∀ behavior, spec.behavior = some behavior →
    ∀ rules, behavior.scaleDown = some rules → RulesInRange rules

/-- The numbers of a status. -/
structure StatusInRange (status : EpaStatus) : Prop where
  scrapedReplicas : ∀ n, status.scrapedReplicas = some n → IsI32 n
  scrapeErrors : ∀ n, status.scrapeErrors = some n → IsI32 n

section Valid

variable {serde : Serde}

lemma labelSelector_valid_iff {selector : LabelSelector} :
    (labelSelector serde).Valid selector ↔
      ∀ labels, selector.matchLabels = some labels → IsSorted labels := by
  simp [labelSelector, labelSelectorRequirement, labelSelectorOperator]

lemma metricSpec_valid_iff {metric : MetricSpec} :
    (metricSpec serde).Valid metric ↔ ∀ selector, metric.labelSelector = some selector →
      ∀ labels, selector.matchLabels = some labels → IsSorted labels := by
  simp [metricSpec, metricTargetType, aggregationType, labelSelector_valid_iff]

lemma targetRef_valid (target : TargetRef) : (targetRef serde).Valid target := by
  simp [targetRef, targetRefFields]

lemma scrapeConfig_valid_iff {scrape : ScrapeConfig} :
    (scrapeConfig serde).Valid scrape ↔ IsI32 scrape.port := by
  simp [scrapeConfig, scrapeConfigFields, aggregationType, tlsConfig]

lemma scalingRules_valid_iff {rules : ScalingRules} :
    (scalingRules serde).Valid rules ↔ RulesInRange rules := by
  have hpolicy : ∀ policy, (scalingPolicy serde).Valid policy ↔
      IsI32 policy.value ∧ IsI32 policy.periodSeconds := by
    simp [scalingPolicy]
  constructor
  · intro h
    simp only [scalingRules, Serde.valid_struct, Fields.valid_equiv, Fields.valid_and,
      Fields.valid_one, Member.valid_optional, Serde.valid_list, Serde.valid_i32, hpolicy] at h
    exact ⟨h.1, h.2.1⟩
  · intro h
    simp only [scalingRules, Serde.valid_struct, Fields.valid_equiv, Fields.valid_and,
      Fields.valid_one, Member.valid_optional, Serde.valid_list, Serde.valid_i32, hpolicy,
      Serde.valid_string, implies_true, and_true]
    exact ⟨h.window, h.policies⟩

lemma epaSpec_valid_iff {spec : EpaSpec} : (epaSpec serde).Valid spec ↔ SpecInRange spec := by
  have hiff : (epaSpec serde).Valid spec ↔ IsI32 spec.minReplicas ∧ IsI32 spec.maxReplicas ∧
      IsI32 spec.scrape.port ∧ (∀ metric ∈ spec.metrics, (metricSpec serde).Valid metric) ∧
      ∀ behavior, spec.behavior = some behavior →
        (∀ rules, behavior.scaleUp = some rules → RulesInRange rules) ∧
        ∀ rules, behavior.scaleDown = some rules → RulesInRange rules := by
    simp [epaSpec, epaSpecFields, scalingBehavior, targetRef_valid, scrapeConfig_valid_iff,
      scalingRules_valid_iff]
  rw [hiff]
  constructor
  · rintro ⟨hmin, hmax, hport, hmetrics, hbehavior⟩
    exact ⟨hmin, hmax, hport,
      fun metric hmetric => metricSpec_valid_iff.1 (hmetrics metric hmetric),
      fun behavior h => (hbehavior behavior h).1, fun behavior h => (hbehavior behavior h).2⟩
  · intro h
    exact ⟨h.minReplicas, h.maxReplicas, h.port,
      fun metric hmetric => metricSpec_valid_iff.2 (h.matchLabels metric hmetric),
      fun behavior hbehavior => ⟨h.scaleUp behavior hbehavior, h.scaleDown behavior hbehavior⟩⟩

lemma epaStatus_valid_iff {status : EpaStatus} :
    (epaStatus serde).Valid status ↔ StatusInRange status := by
  have hiff : (epaStatus serde).Valid status ↔ (∀ n, status.scrapedReplicas = some n → IsI32 n) ∧
      ∀ n, status.scrapeErrors = some n → IsI32 n := by
    simp [epaStatus, conditionsMember, condition, managedHpaStatus]
  rw [hiff]
  exact ⟨fun h => ⟨h.1, h.2⟩, fun h => ⟨h.scrapedReplicas, h.scrapeErrors⟩⟩

end Valid

variable {M : Type}

lemma epaResource_valid_iff {serde : Serde} {metadata : Codec M} {epa : EpaResource M} :
    (epaResource serde metadata).Valid epa ↔ metadata.Valid epa.metadata ∧ SpecInRange epa.spec ∧
      ∀ status, epa.status = some status → StatusInRange status := by
  simp [epaResource, epaResourceFields, epaSpec_valid_iff, epaStatus_valid_iff]

/-- **Round trip.** The resources that can be read are those with readable metadata, numbers of
type `i32` and sorted labels; these, and no others, are read back as they were written. -/
theorem resource_round_trip (serde : Serde) (metadata : Codec M) (epa : EpaResource M) :
    ((∃ v, (epaResource serde metadata).decode v = some epa) ↔
      (epaResource serde metadata).decode ((epaResource serde metadata).encode epa) = some epa) ∧
    ((∃ v, (epaResource serde metadata).decode v = some epa) ↔
      metadata.Valid epa.metadata ∧ SpecInRange epa.spec ∧
        ∀ status, epa.status = some status → StatusInRange status) := by
  rw [← @epaResource_valid_iff M serde, ← Codec.valid_iff_exists_decode]
  exact ⟨⟨(epaResource serde metadata).decode_encode epa,
    (epaResource serde metadata).valid_of_decode _ epa⟩, Iff.rfl⟩

end ExternalPodAutoscaler.Api
