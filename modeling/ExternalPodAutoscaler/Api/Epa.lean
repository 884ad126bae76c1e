/-
The `ExternalPodAutoscaler` resource (`apis/ctx.sh/v1beta1/externalpodautoscaler.rs`).

The spec as the API stores it, the fields of the metadata that the controller reads, and the
owner references it sets.  Numbers of type `i32` are integers here.
-/
import Mathlib.Data.Int.Notation
import Mathlib.Data.Nat.Notation

namespace ExternalPodAutoscaler.Api

/-- How a metric's target is compared. -/
inductive MetricTargetType where
  | averageValue
  | value
deriving DecidableEq

/-- How the samples of a window and of several pods are combined. -/
inductive AggregationType where
  | avg
  | max
  | min
  | median
  | last
deriving DecidableEq

inductive LabelSelectorOperator where
  | isIn
  | notIn
  | «exists»
  | doesNotExist
deriving DecidableEq

structure LabelSelectorRequirement where
  key : String
  operator : LabelSelectorOperator
  values : Option (List String)
deriving DecidableEq

/-- Selects series by their labels. -/
structure LabelSelector where
  matchLabels : Option (List (String × String))
  matchExpressions : Option (List LabelSelectorRequirement)
deriving DecidableEq

/-- One entry of `spec.metrics`. -/
structure MetricSpec where
  metricName : String
  type : MetricTargetType
  targetValue : String
  aggregationType : Option AggregationType
  evaluationPeriod : Option String
  labelSelector : Option LabelSelector
deriving DecidableEq

/-- A reference to a workload. -/
structure TargetRef where
  apiVersion : String
  kind : String
  name : String
deriving DecidableEq

structure TlsConfig where
  insecureSkipVerify : Bool
deriving DecidableEq

/-- How the pods of the target are scraped. -/
structure ScrapeConfig where
  port : ℤ
  path : String
  interval : String
  timeout : String
  scheme : String
  tls : Option TlsConfig
  evaluationPeriod : String
  aggregationType : AggregationType
deriving DecidableEq

structure ScalingPolicy where
  type : String
  value : ℤ
  periodSeconds : ℤ
deriving DecidableEq

structure ScalingRules where
  stabilizationWindowSeconds : Option ℤ
  policies : Option (List ScalingPolicy)
  selectPolicy : Option String
deriving DecidableEq

structure ScalingBehavior where
  scaleUp : Option ScalingRules
  scaleDown : Option ScalingRules
deriving DecidableEq

structure EpaSpec where
  minReplicas : ℤ
  maxReplicas : ℤ
  scrape : ScrapeConfig
  scrapeTargetRef : Option TargetRef
  scaleTargetRef : TargetRef
  metrics : List MetricSpec
  behavior : Option ScalingBehavior
deriving DecidableEq

/-- The owner of a lease or of an autoscaler, in its metadata. -/
structure OwnerReference where
  apiVersion : String
  kind : String
  name : String
  uid : String
  controller : Option Bool
  blockOwnerDeletion : Option Bool
deriving DecidableEq

/-- The fields of the metadata that the controller and the scraper read. -/
structure ObjectMeta where
  name : Option String
  ns : Option String
  uid : Option String
  deletionTimestamp : Option String
deriving DecidableEq

/-- An `ExternalPodAutoscaler`. -/
structure Epa where
  metadata : ObjectMeta
  spec : EpaSpec
deriving DecidableEq

/-- An EPA with the given scrape interval. -/
def webEpa (interval : String) : Epa where
  metadata := ⟨some "web", some "default", some "7c1f", none⟩
  spec :=
    { minReplicas := 1
      maxReplicas := 10
      scrape := ⟨8080, "/metrics", interval, "10s", "http", none, "10m", .avg⟩
      scrapeTargetRef := none
      scaleTargetRef := ⟨"apps/v1", "Deployment", "web"⟩
      metrics := [⟨"queue_depth", .averageValue, "30", none, none, none⟩]
      behavior := none }

end ExternalPodAutoscaler.Api
