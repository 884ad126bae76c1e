/-
Selectors of series and of pods (`scraper/worker.rs` and `scraper/pod_cache.rs`).

`matches_label_selector` selects the series of a metric by the selector of its entry in the
EPA.  The pods of a workload are selected by the selector of the workload, which is written
as a string of equations by `build_label_selector_string` and read back by the pod cache.
Label maps are lists of pairs, read with `List.lookup`.

The main results of this file are `matchesLabelSelector_iff_holds`, which says for which
labels a selector of series is matched wrongly, all for a requirement `In` without values
(`series_selected_by_empty_in`), and `podMatchesSelector_iff_holds`: the string selects the
pods that the selector of the workload selects.
-/
import ExternalPodAutoscaler.Scraper.Workers
import ExternalPodAutoscaler.Webhook.Admission

namespace ExternalPodAutoscaler.Scraper

open ExternalPodAutoscaler.Api ExternalPodAutoscaler.Lib
open ExternalPodAutoscaler.Webhook (Check validateEpaSpec isWhitespace trim trim_eq_self)

/-! ### The meaning of a selector -/

/-- What a requirement says of a label map; values that are omitted are none at all. -/
def RequirementHolds (labels : List (String × String)) (expr : LabelSelectorRequirement) : Prop :=
  match expr.operator with
  | .isIn => ∃ v ∈ labels.lookup expr.key, v ∈ expr.values.getD []
  | .notIn => ∀ v ∈ labels.lookup expr.key, v ∉ expr.values.getD []
  | .exists => (labels.lookup expr.key).isSome
  | .doesNotExist => (labels.lookup expr.key).isNone

/-- The labels have a pair of `matchLabels`. -/
def PairHolds (labels : List (String × String)) (pair : String × String) : Prop :=
  labels.lookup pair.1 = some pair.2

/-- What a selector says of a label map. -/
def SelectorHolds (labels : List (String × String)) (selector : LabelSelector) : Prop :=
  (∀ pair ∈ selector.matchLabels.getD [], PairHolds labels pair) ∧
    ∀ expr ∈ selector.matchExpressions.getD [], RequirementHolds labels expr

/-! ### Series -/

section Series

variable {labels : List (String × String)} {expr : LabelSelectorRequirement}

/-- A requirement `In` without values. -/
def OmitsValues (expr : LabelSelectorRequirement) : Prop :=
  expr.operator = .isIn ∧ expr.values = none

/-- Nothing meets a requirement `In` without values. -/
lemma not_requirementHolds_of_omitsValues (h : OmitsValues expr) :
    ¬ RequirementHolds labels expr := by
  obtain ⟨hop, hvalues⟩ := h
  rw [RequirementHolds, hop, hvalues]
  rintro ⟨v, -, hv⟩
  cases hv

/-- A requirement `In` without values is met in the code, every other one as it should be. -/
lemma meetsRequirement_iff :
    meetsRequirement labels expr = true ↔ OmitsValues expr ∨ RequirementHolds labels expr := by
  obtain ⟨key, op, values⟩ := expr
  cases op with
  | isIn =>
      rcases values with _ | values
      · simp [meetsRequirement, OmitsValues]
      · rcases hv : labels.lookup key with _ | v <;>
          simp [meetsRequirement, OmitsValues, RequirementHolds, hv]
  | notIn =>
      rcases values with _ | values <;> rcases hv : labels.lookup key with _ | v <;>
        simp [meetsRequirement, OmitsValues, RequirementHolds, hv]
  | «exists» => simp [meetsRequirement, OmitsValues, RequirementHolds]
  | doesNotExist => simp [meetsRequirement, OmitsValues, RequirementHolds]

lemma matchesLabelSelector_iff {selector : LabelSelector} :
    matchesLabelSelector labels selector = true ↔
      (∀ pair ∈ selector.matchLabels.getD [], PairHolds labels pair) ∧
        ∀ expr ∈ selector.matchExpressions.getD [], OmitsValues expr ∨
          RequirementHolds labels expr := by
  simp only [matchesLabelSelector, Bool.and_eq_true, List.all_eq_true, beq_iff_eq,
    meetsRequirement_iff, PairHolds]

/-- **Which labels are matched rightly.** A label map matches a selector exactly when it
should, if and only if every requirement `In` has values, or a pair or another requirement is
not met either. -/
theorem matchesLabelSelector_iff_holds (labels : List (String × String))
    (selector : LabelSelector) :
    (matchesLabelSelector labels selector = true ↔ SelectorHolds labels selector) ↔
      (∀ expr ∈ selector.matchExpressions.getD [], ¬ OmitsValues expr) ∨
        (∃ pair ∈ selector.matchLabels.getD [], ¬ PairHolds labels pair) ∨
        ∃ expr ∈ selector.matchExpressions.getD [], ¬ OmitsValues expr ∧
          ¬ RequirementHolds labels expr := by
  rw [matchesLabelSelector_iff, SelectorHolds]
  constructor
  · intro h
    by_contra hbad
    push Not at hbad
    obtain ⟨⟨expr, hexpr, homits⟩, hpairs, hothers⟩ := hbad
    have hholds := (h.1 ⟨hpairs, fun expr hexpr => or_iff_not_imp_left.2 (hothers expr hexpr)⟩).2
    exact not_requirementHolds_of_omitsValues homits (hholds expr hexpr)
  · rintro (hvalues | ⟨pair, hpair, hmiss⟩ | ⟨expr, hexpr, hvalues, hfail⟩)
    · refine and_congr_right fun _ => forall₂_congr fun expr hexpr => ?_
      exact or_iff_right (hvalues expr hexpr)
    · exact iff_of_false (fun h => hmiss (h.1 pair hpair)) fun h => hmiss (h.1 pair hpair)
    · exact iff_of_false (fun h => (h.2 expr hexpr).elim hvalues hfail)
        fun h => hfail (h.2 expr hexpr)

/-- A selector of the series whose priority is one of no values. -/
def emptyIn : LabelSelector := ⟨none, some [⟨"priority", .isIn, none⟩]⟩

/-- An EPA with that selector. -/
def emptyInEpa : Epa :=
  { webEpa "15s" with
    spec := { (webEpa "15s").spec with
      metrics := [⟨"queue_depth", .averageValue, "30", none, none, some emptyIn⟩] } }

/-- **A requirement that is never met, and passes.** An EPA whose requirement `In` omits its
values is admitted, and every series is selected by it. -/
theorem series_selected_by_empty_in :
    (validateEpaSpec emptyInEpa).accepts = true ∧
    emptyInEpa.spec.metrics.map MetricSpec.labelSelector = [some emptyIn] ∧
    matchesLabelSelector [("priority", "low")] emptyIn = true ∧
    ¬ SelectorHolds [("priority", "low")] emptyIn :=
  ⟨by decide +kernel, rfl, by decide +kernel,
    fun h => not_requirementHolds_of_omitsValues ⟨rfl, rfl⟩ (h.2 _ List.mem_cons_self)⟩

end Series

/-! ### The string form of a workload's selector -/

/-- A requirement of a workload's selector, whose operator is a string. -/
structure WorkloadRequirement where
  key : String
  operator : String
  values : Option (List String)
deriving DecidableEq

/-- The selector of a workload. -/
structure WorkloadSelector where
  matchLabels : Option (List (String × String))
  matchExpressions : Option (List WorkloadRequirement)
deriving DecidableEq

/-- The part of the string for one requirement. -/
def requirementPart (expr : WorkloadRequirement) : Except String String :=
  if expr.operator = "In" then
    match expr.values with
    | some [value] => .ok s!"{expr.key}={value}"
    | _ =>
      .error s!"matchExpressions 'In' on key '{expr.key}' requires exactly one value"
  else
    .error s!"matchExpressions operator '{expr.operator}' on key '{expr.key}' is not supported"

/-- `build_label_selector_string`. -/
def buildLabelSelectorString (selector : WorkloadSelector) : Except String String := do
  let labelParts := (selector.matchLabels.getD []).map fun (k, v) => s!"{k}={v}"
  let exprParts ← (selector.matchExpressions.getD []).mapM requirementPart
  let parts := labelParts ++ exprParts
  if parts.isEmpty then .error "Selector has no usable label constraints"
  else .ok (",".intercalate parts)

/-- One part of the string, read back; `none` if it is ignored. -/
def parsePair (pair : List Char) : Option (String × String) :=
  (splitOnce '=' pair).bind fun (key, value) =>
    if (trim key).isEmpty then none
    else some (String.ofList (trim key), String.ofList (trim value))

/-- `parse_label_selector`. -/
def parseLabelSelector (selector : String) : List (String × String) :=
  if selector.isEmpty then []
  else (selector.toList.splitOn ',').filterMap parsePair

/-- `pod_matches_selector`, of the labels of a pod. -/
def podMatchesSelector (podLabels : Option (List (String × String)))
    (selectorPairs : List (String × String)) : Bool :=
  if selectorPairs.isEmpty then true
  else
    match podLabels with
    | none => false
    | some labels => selectorPairs.all fun (k, v) => (labels.lookup k).any (· == v)

/-! ### What the selector of a workload selects -/

/-- The operators of a workload's selector. -/
def parseOperator (operator : String) : Option LabelSelectorOperator :=
  if operator = "In" then some .isIn
  else if operator = "NotIn" then some .notIn
  else if operator = "Exists" then some .exists
  else if operator = "DoesNotExist" then some .doesNotExist
  else none

/-- What a workload's selector says of a label map. -/
def WorkloadSelector.Holds (selector : WorkloadSelector) (labels : List (String × String)) :
    Prop :=
  (∀ pair ∈ selector.matchLabels.getD [], PairHolds labels pair) ∧
    ∀ expr ∈ selector.matchExpressions.getD [], ∃ operator,
      parseOperator expr.operator = some operator ∧
        RequirementHolds labels ⟨expr.key, operator, expr.values⟩

/-- No comma, equals sign or whitespace, as in every label value. -/
def IsLabelValue (s : String) : Prop :=
  ∀ c ∈ s.toList, c ≠ ',' ∧ c ≠ '=' ∧ isWhitespace c = false

/-- A label key is not empty. -/
def IsLabelKey (s : String) : Prop := s ≠ "" ∧ IsLabelValue s

/-- The keys and values of a selector are those of labels. -/
structure WorkloadSelector.LabelSyntax (selector : WorkloadSelector) : Prop where
  matchLabels : ∀ pair ∈ selector.matchLabels.getD [], IsLabelKey pair.1 ∧ IsLabelValue pair.2
  matchExpressions : ∀ expr ∈ selector.matchExpressions.getD [], IsLabelKey expr.key ∧
    ∀ value ∈ expr.values.getD [], IsLabelValue value

section Pods

variable {labels : List (String × String)} {selector : WorkloadSelector} {k v : String}

/-- The text of an equation. -/
lemma toList_equation (k v : String) : s!"{k}={v}".toList = k.toList ++ '=' :: v.toList := by
  show (k ++ "=" ++ v).toList = _
  rw [String.toList_append, String.toList_append, List.append_assoc]
  rfl

/-- An equation is read back as its two sides. -/
lemma parsePair_equation (hk : IsLabelKey k) (hv : IsLabelValue v) :
    parsePair s!"{k}={v}".toList = some (k, v) := by
  have hcut : splitOnce '=' s!"{k}={v}".toList = some (k.toList, v.toList) :=
    splitOnce_eq_some_iff.2 ⟨toList_equation k v, fun hmem => (hk.2 _ hmem).2.1 rfl⟩
  have htrimk : trim k.toList = k.toList := trim_eq_self fun c hc => (hk.2 c hc).2.2
  have htrimv : trim v.toList = v.toList := trim_eq_self fun c hc => (hv c hc).2.2
  have hne : k.toList.isEmpty = false := by
    rw [List.isEmpty_eq_false_iff, Ne, String.toList_eq_nil_iff]
    exact hk.1
  rw [parsePair, hcut, Option.bind_some]
  simp only [htrimk, htrimv, hne, Bool.false_eq_true, if_false, String.ofList_toList]

/-- The string of some equations is read back as these equations. -/
lemma parseLabelSelector_intercalate {pairs : List (String × String)} (hne : pairs ≠ [])
    (hpairs : ∀ pair ∈ pairs, IsLabelKey pair.1 ∧ IsLabelValue pair.2) :
    parseLabelSelector (",".intercalate (pairs.map fun (k, v) => s!"{k}={v}")) = pairs := by
  have hcomma : ∀ piece ∈ (pairs.map fun (k, v) => s!"{k}={v}").map String.toList,
      ',' ∉ piece := by
    intro piece hpiece hmem
    obtain ⟨part, hpart, rfl⟩ := List.mem_map.1 hpiece
    obtain ⟨⟨k, v⟩, hpair, rfl⟩ := List.mem_map.1 hpart
    rw [toList_equation, List.mem_append, List.mem_cons] at hmem
    obtain ⟨hk, hv⟩ := hpairs _ hpair
    rcases hmem with hmem | hmem | hmem
    · exact (hk.2 _ hmem).1 rfl
    · exact absurd hmem (by decide)
    · exact (hv _ hmem).1 rfl
  have hsplit : (",".intercalate (pairs.map fun (k, v) => s!"{k}={v}")).toList.splitOn ',' =
      (pairs.map fun (k, v) => s!"{k}={v}").map String.toList := by
    rw [String.toList_intercalate]
    exact List.splitOn_intercalate ',' hcomma (by simpa using hne)
  have hread : ((pairs.map fun (k, v) => s!"{k}={v}").map String.toList).filterMap parsePair =
      pairs := by
    rw [List.map_map, List.filterMap_map]
    refine (List.filterMap_congr (g := some) fun pair hpair => ?_).trans (List.filterMap_some)
    exact parsePair_equation (hpairs pair hpair).1 (hpairs pair hpair).2
  have hempty : (",".intercalate (pairs.map fun (k, v) => s!"{k}={v}")).isEmpty = false := by
    rw [Bool.eq_false_iff, Ne, String.isEmpty_iff]
    intro hnil
    rw [hnil] at hsplit
    rw [← hsplit] at hread
    exact hne (hread.symm.trans (by decide))
  rw [parseLabelSelector, hempty, hsplit, hread]
  rfl

lemma podMatchesSelector_of_ne_nil {pairs : List (String × String)} (hne : pairs ≠ [])
    (podLabels : Option (List (String × String))) :
    podMatchesSelector podLabels pairs = true ↔
      ∀ pair ∈ pairs, PairHolds (podLabels.getD []) pair := by
  have hempty : pairs.isEmpty = false := List.isEmpty_eq_false_iff.2 hne
  rcases podLabels with _ | labels
  · obtain ⟨pair, pairs, rfl⟩ := List.exists_cons_of_ne_nil hne
    exact iff_of_false Bool.false_ne_true fun h => by cases h pair List.mem_cons_self
  · have hany : ∀ pair : String × String,
        ((labels.lookup pair.1).any (· == pair.2)) = true ↔ PairHolds labels pair := by
      intro pair
      rcases hl : labels.lookup pair.1 with _ | value <;> simp [PairHolds, hl]
    simp only [podMatchesSelector, hempty, Bool.false_eq_true, if_false, List.all_eq_true, hany,
      Option.getD_some]

/-- A requirement with a part in the string is an equation. -/
lemma requirementPart_eq_ok {expr : WorkloadRequirement} {part : String}
    (h : requirementPart expr = .ok part) :
    ∃ value, expr.operator = "In" ∧ expr.values = some [value] ∧
      part = s!"{expr.key}={value}" := by
  unfold requirementPart at h
  split at h
  · rename_i hop
    split at h
    · rename_i value hvalues
      exact ⟨value, hop, hvalues, (Except.ok.inj h).symm⟩
    · cases h
  · cases h

/-- The requirements of a selector that has a string are equations, and hold where these do. -/
lemma mapM_requirementPart {exprs : List WorkloadRequirement} {parts : List String}
    (h : exprs.mapM requirementPart = .ok parts)
    (hlabels : ∀ expr ∈ exprs, IsLabelKey expr.key ∧
      ∀ value ∈ expr.values.getD [], IsLabelValue value) :
    ∃ pairs : List (String × String), parts = (pairs.map fun (k, v) => s!"{k}={v}") ∧
      (∀ pair ∈ pairs, IsLabelKey pair.1 ∧ IsLabelValue pair.2) ∧
      ∀ labels, (∀ pair ∈ pairs, PairHolds labels pair) ↔
        ∀ expr ∈ exprs, ∃ operator, parseOperator expr.operator = some operator ∧
          RequirementHolds labels ⟨expr.key, operator, expr.values⟩ := by
  induction exprs generalizing parts with
  | nil =>
      obtain rfl := Except.ok.inj h
      exact ⟨[], rfl, by simp, by simp⟩
  | cons expr exprs ih =>
      rw [List.mapM_cons] at h
      rcases hpart : requirementPart expr with e | part
      · rw [hpart] at h
        cases h
      · rcases hrest : exprs.mapM requirementPart with e | rest
        · rw [hpart, hrest] at h
          cases h
        · rw [hpart, hrest] at h
          obtain rfl := Except.ok.inj h
          obtain ⟨value, hop, hvalues, rfl⟩ := requirementPart_eq_ok hpart
          obtain ⟨pairs, rfl, hpairs, hholds⟩ := ih hrest fun expr hexpr =>
            hlabels expr (List.mem_cons_of_mem _ hexpr)
          obtain ⟨hkey, hvalue⟩ := hlabels expr List.mem_cons_self
          refine ⟨(expr.key, value) :: pairs, rfl, ?_, fun labels => ?_⟩
          · refine List.forall_mem_cons.2 ⟨⟨hkey, hvalue value ?_⟩, hpairs⟩
            simp [hvalues]
          · rw [List.forall_mem_cons, List.forall_mem_cons, hholds labels]
            refine and_congr_left fun _ => ?_
            simp only [PairHolds, hop, parseOperator, if_true, Option.some.injEq,
              exists_eq_left', RequirementHolds, hvalues, Option.getD_some,
              List.mem_singleton]
            simp

/-- **Pods are selected by the selector of their workload.** Let the keys and values of a
workload's selector be those of labels, and let it have a string.  The pods that match the
string are those whose labels satisfy the selector, and the string selects by one label at
least. -/
theorem podMatchesSelector_iff_holds {s : String} (hlabels : selector.LabelSyntax)
    (hbuild : buildLabelSelectorString selector = .ok s) :
    (∀ podLabels : Option (List (String × String)),
      podMatchesSelector podLabels (parseLabelSelector s) = true ↔
        selector.Holds (podLabels.getD [])) ∧
      parseLabelSelector s ≠ [] := by
  unfold buildLabelSelectorString at hbuild
  rcases hexprs : (selector.matchExpressions.getD []).mapM requirementPart with e | parts
  · rw [hexprs] at hbuild
    cases hbuild
  · rw [hexprs] at hbuild
    obtain ⟨pairs, rfl, hpairs, hholds⟩ := mapM_requirementPart hexprs hlabels.matchExpressions
    simp only [bind, Except.bind, ← List.map_append, List.isEmpty_map] at hbuild
    split at hbuild
    · cases hbuild
    · rename_i hempty
      obtain rfl := Except.ok.inj hbuild
      have hne : selector.matchLabels.getD [] ++ pairs ≠ [] := by simpa using hempty
      have hread := parseLabelSelector_intercalate hne fun pair hpair =>
        (List.mem_append.1 hpair).elim (hlabels.matchLabels pair) (hpairs pair)
      rw [hread]
      refine ⟨fun podLabels => ?_, hne⟩
      rw [podMatchesSelector_of_ne_nil hne, WorkloadSelector.Holds, ← hholds]
      exact List.forall_mem_append

end Pods

/-- A selector with two values for one label, which no pod has. -/
def workerSelector : WorkloadSelector :=
  ⟨some [("app", "worker"), ("tier", "")], some [⟨"app", "In", some ["batch"]⟩]⟩

theorem podMatchesSelector_iff_holds_worker :
    buildLabelSelectorString workerSelector = .ok "app=worker,tier=,app=batch" ∧
    (podMatchesSelector (some [("app", "worker"), ("tier", "")])
        (parseLabelSelector "app=worker,tier=,app=batch") = true ↔
      workerSelector.Holds [("app", "worker"), ("tier", "")]) ∧
    parseLabelSelector "app=worker,tier=,app=batch" ≠ [] := by
  have hbuild : buildLabelSelectorString workerSelector = .ok "app=worker,tier=,app=batch" := by
    decide +kernel
  have hlabels : workerSelector.LabelSyntax := by
    constructor <;> simp [workerSelector, IsLabelKey, IsLabelValue, isWhitespace]
  exact ⟨hbuild, (podMatchesSelector_iff_holds hlabels hbuild).1 _,
    (podMatchesSelector_iff_holds hlabels hbuild).2⟩

end ExternalPodAutoscaler.Scraper
