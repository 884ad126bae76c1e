/-
The status of an EPA (`patch_epa_status` of `controller/externalpodautoscaler/reconcile.rs` and
of `scraper/scheduler.rs`).

The reconciler reads the EPA and patches its condition and the managed HPA; the scheduler
patches the statistics of a round.  Both are merge patches of the same object.  `statusSystem`
runs calls of the reconciler one after the other, with patches of the scheduler anywhere, also
between the read and the patch of a call.

The main result of this file is `status_history`: the condition carries the instant of the
first call in the current run of calls that agree on readiness, and every field of the status is
that of the last patch of the one who writes it.
-/
import Mathlib.Data.List.Induction
import ExternalPodAutoscaler.Api.Resource
import ExternalPodAutoscaler.Lib.MergePatch
import ExternalPodAutoscaler.Lib.Transition

namespace ExternalPodAutoscaler.Controller

open ExternalPodAutoscaler.Api ExternalPodAutoscaler.Lib

/-! ### What is read -/

/-- A number. -/
def readInt : Json → Option ℤ
  | .int n => some n
  | _ => none

/-- A field of the status of an EPA. -/
def statusField (epa : Json) (name : String) : Option Json := (epa.get "status").bind (·.get name)

section Serde

variable (serde : Serde)

/-- `status.conditions`, empty by default; `none` if they cannot be deserialized. -/
def readConditions (epa : Json) : Option (List Condition) :=
  (conditionsMember serde).read (statusField epa "conditions")

/-- `status.managedHpa`. -/
def readManagedHpa (epa : Json) : Option ManagedHpaStatus :=
  (statusField epa "managedHpa").bind (managedHpaStatus serde).decode

end Serde

/-- `status.scrapedReplicas`. -/
def readScrapedReplicas (epa : Json) : Option ℤ := (statusField epa "scrapedReplicas").bind readInt

/-- `status.scrapeErrors`. -/
def readScrapeErrors (epa : Json) : Option ℤ := (statusField epa "scrapeErrors").bind readInt

/-! ### What is patched -/

/-- A call of the reconciler's `patch_epa_status`, with the instant it reads first. -/
structure StatusCall where
  name : String
  now : String
  ready : Bool
  reason : String
  message : String

/-- The status of the condition. -/
def conditionStatus (ready : Bool) : String := if ready then "True" else "False"

/-- The transition time of the condition, by the conditions that the call has read; `none` is an
error of the read. -/
def transitionTime (conditions : Option (List Condition)) (call : StatusCall) : String :=
  match conditions with
  | some conditions =>
    match conditions.find? (·.type == "Ready") with
    | some c =>
      -- the state is unchanged
      if c.status == conditionStatus call.ready then c.lastTransitionTime else call.now
    | none => call.now
  | none => call.now

/-- The fields of the status that the reconciler patches. -/
def reconcilerFields (call : StatusCall) (transition : String) : List (String × Json) :=
  [("managedHpa", .obj [("name", .str call.name), ("lastSyncTime", .str call.now)]),
    ("conditions", .arr [.obj
      [("type", .str "Ready"), ("status", .str (conditionStatus call.ready)),
        ("lastTransitionTime", .str transition), ("reason", .str call.reason),
        ("message", .str call.message)]])]

/-- The fields of the status that the scheduler patches. -/
def schedulerFields (scrapedReplicas scrapeErrors : ℤ) : List (String × Json) :=
  [("scrapedReplicas", .int scrapedReplicas), ("scrapeErrors", .int scrapeErrors)]

/-- A merge patch of fields of the status. -/
def patchStatus (fields : List (String × Json)) (epa : Json) : Json :=
  epa.mergePatch (.obj [("status", .obj fields)])

section Patches

variable {serde : Serde}

/-- A field of the status after a patch of the status. -/
lemma statusField_patchStatus {fields : List (String × Json)}
    (hnodup : (fields.map Prod.fst).Nodup) (epa : Json) (name : String) :
    statusField (patchStatus fields epa) name =
      Json.mergeField (statusField epa name) (fields.lookup name) := by
  have hstatus : (patchStatus fields epa).get "status" =
      some (((epa.get "status").getD .null).mergePatch (.obj fields)) :=
    Json.get_mergePatch (by simp) epa
  rw [statusField, hstatus, Option.bind_some, Json.get_mergePatch hnodup, statusField]
  rcases epa.get "status" with _ | status <;> rfl

lemma statusField_reconcilerFields (epa : Json) (call : StatusCall) (transition name : String) :
    statusField (patchStatus (reconcilerFields call transition) epa) name =
      Json.mergeField (statusField epa name) ((reconcilerFields call transition).lookup name) :=
  statusField_patchStatus (by simp [reconcilerFields]) epa name

lemma statusField_schedulerFields (epa : Json) (scraped errors : ℤ) (name : String) :
    statusField (patchStatus (schedulerFields scraped errors) epa) name =
      Json.mergeField (statusField epa name) ((schedulerFields scraped errors).lookup name) :=
  statusField_patchStatus (by simp [schedulerFields]) epa name

lemma decode_condition {fields : List (String × Json)}
    {type status lastTransitionTime reason message : String}
    (htype : fields.lookup "type" = some (.str type))
    (hstatus : fields.lookup "status" = some (.str status))
    (htime : fields.lookup "lastTransitionTime" = some (.str lastTransitionTime))
    (hreason : fields.lookup "reason" = some (.str reason))
    (hmessage : fields.lookup "message" = some (.str message)) :
    (condition serde).decode (.obj fields) =
      some ⟨type, status, lastTransitionTime, reason, message⟩ := by
  rw [condition, Serde.decode_struct]
  simp only [Fields.equiv, Fields.and, Fields.one, Member.required, htype, hstatus, htime, hreason,
    hmessage, Option.bind_some, Serde.decode_string, Option.map_some]
  rfl

lemma decode_managedHpaStatus {fields : List (String × Json)} {name lastSyncTime : String}
    (hname : fields.lookup "name" = some (.str name))
    (htime : fields.lookup "lastSyncTime" = some (.str lastSyncTime)) :
    (managedHpaStatus serde).decode (.obj fields) = some ⟨name, some lastSyncTime⟩ := by
  have htime' : (Member.optional serde.string).read (some (.str lastSyncTime)) =
      some (some lastSyncTime) := congrArg (Option.map some) (Serde.decode_string lastSyncTime)
  rw [managedHpaStatus, Serde.decode_struct]
  simp only [Fields.equiv, Fields.and, Fields.one, Member.required, hname, htime, htime',
    Option.bind_some, Serde.decode_string, Option.map_some]
  rfl

/-- The reconciler's patch sets the condition, and the managed HPA whatever was there, and
leaves the statistics alone. -/
lemma read_reconcilerFields (epa : Json) (call : StatusCall) (transition : String) :
    readConditions serde (patchStatus (reconcilerFields call transition) epa) =
        some [⟨"Ready", conditionStatus call.ready, transition, call.reason, call.message⟩] ∧
      readManagedHpa serde (patchStatus (reconcilerFields call transition) epa) =
        some ⟨call.name, some call.now⟩ ∧
      readScrapedReplicas (patchStatus (reconcilerFields call transition) epa) =
        readScrapedReplicas epa ∧
      readScrapeErrors (patchStatus (reconcilerFields call transition) epa) =
        readScrapeErrors epa := by
  refine ⟨?_, ?_, ?_, ?_⟩
  · rw [readConditions, statusField_reconcilerFields]
    show (serde.list (condition serde)).decode (.arr [_]) = _
    rw [serde.decode_list, Codec.decodeAll, decode_condition rfl rfl rfl rfl rfl]
    rfl
  · have hfields : ((([("name", .str call.name), ("lastSyncTime", .str call.now)] :
        List (String × Json)).map Prod.fst)).Nodup := by
      simp
    rw [readManagedHpa, statusField_reconcilerFields]
    refine decode_managedHpaStatus ?_ ?_
    · exact Json.lookup_mergeFields hfields
    · exact Json.lookup_mergeFields hfields
  · rw [readScrapedReplicas, statusField_reconcilerFields]
    rfl
  · rw [readScrapeErrors, statusField_reconcilerFields]
    rfl

/-- The scheduler's patch sets the statistics and leaves the rest alone. -/
lemma read_schedulerFields (epa : Json) (scraped errors : ℤ) :
    readScrapedReplicas (patchStatus (schedulerFields scraped errors) epa) = some scraped ∧
      readScrapeErrors (patchStatus (schedulerFields scraped errors) epa) = some errors ∧
      readConditions serde (patchStatus (schedulerFields scraped errors) epa) =
        readConditions serde epa ∧
      readManagedHpa serde (patchStatus (schedulerFields scraped errors) epa) =
        readManagedHpa serde epa := by
  refine ⟨?_, ?_, ?_, ?_⟩
  · rw [readScrapedReplicas, statusField_schedulerFields]
    rfl
  · rw [readScrapeErrors, statusField_schedulerFields]
    rfl
  · rw [readConditions, statusField_schedulerFields]
    rfl
  · rw [readManagedHpa, statusField_schedulerFields]
    rfl

end Patches

/-! ### Runs of calls that agree -/

/-- The first call of the current run, after one more call. -/
def runStartAfter (start : Option StatusCall) (call : StatusCall) : Option StatusCall :=
  match start with
  | some first => if first.ready = call.ready then some first else some call
  | none => some call

/-- The first call of the current run of calls that agree on readiness. -/
def runStart (calls : List StatusCall) : Option StatusCall := calls.foldl runStartAfter none

lemma runStart_concat (calls : List StatusCall) (call : StatusCall) :
    runStart (calls ++ [call]) = runStartAfter (runStart calls) call := by
  rw [runStart, List.foldl_append]
  rfl

/-- The first call of the run agrees with the last one. -/
lemma ready_of_runStart {calls : List StatusCall} {call : StatusCall}
    (hlast : call ∈ calls.getLast?) : ∃ first, runStart calls = some first ∧
      first.ready = call.ready := by
  obtain ⟨before, rfl⟩ := List.getLast?_eq_some_iff.1 hlast
  rw [runStart_concat]
  rcases runStart before with _ | first
  · exact ⟨call, rfl, rfl⟩
  · by_cases hready : first.ready = call.ready
    · exact ⟨first, if_pos hready, hready⟩
    · exact ⟨call, if_neg hready, rfl⟩

/-- The first call after one that disagrees starts the run, as long as those after it agree. -/
lemma runStart_eq {before rest : List StatusCall} {first : StatusCall}
    (hbefore : ∀ c ∈ before.getLast?, c.ready ≠ first.ready)
    (hrest : ∀ c ∈ rest, c.ready = first.ready) :
    runStart (before ++ first :: rest) = some first := by
  induction rest using List.reverseRecOn with
  | nil =>
      rw [runStart_concat]
      rcases hlast : before.getLast? with _ | last
      · rw [List.getLast?_eq_none_iff.1 hlast]
        rfl
      · obtain ⟨start, hstart, hready⟩ := ready_of_runStart hlast
        rw [hstart, runStartAfter, if_neg]
        rw [hready]
        exact hbefore last hlast
  | append_singleton rest call ih =>
      rw [← List.cons_append, ← List.append_assoc, runStart_concat,
        ih fun c hc => hrest c (List.mem_append_left _ hc), runStartAfter, if_pos]
      exact (hrest call (List.mem_append_right _ (List.mem_singleton.2 rfl))).symm

/-! ### Runs of the two writers -/

/-- The EPA, the call that has read and is to patch with its transition time, the calls that have
patched and the patches of the scheduler, oldest first. -/
structure StatusWorld where
  epa : Json
  pending : Option (StatusCall × String)
  calls : List StatusCall
  rounds : List (ℤ × ℤ)

inductive StatusEvent where
  /-- A call of the reconciler reads the EPA. -/
  | read (call : StatusCall)
  /-- It patches the status. -/
  | patch
  /-- The scheduler patches the status. -/
  | report (scrapedReplicas scrapeErrors : ℤ)

/-- The two writers of the status of an EPA that is `epa₀` at first. -/
def statusSystem (serde : Serde) (epa₀ : Json) : System StatusWorld StatusEvent where
  init s := s = ⟨epa₀, none, [], []⟩
  step s
    | .read call =>
      match s.pending with
      | none =>
        some { s with pending := some (call, transitionTime (readConditions serde s.epa) call) }
      | some _ => none
    | .patch =>
      match s.pending with
      | some (call, transition) =>
        some { s with
          epa := patchStatus (reconcilerFields call transition) s.epa
          pending := none
          calls := s.calls ++ [call] }
      | none => none
    | .report scraped errors =>
      some { s with
        epa := patchStatus (schedulerFields scraped errors) s.epa
        rounds := s.rounds ++ [(scraped, errors)] }

/-- There is no condition `Ready`. -/
def NeverReady (serde : Serde) (epa : Json) : Prop :=
  ∃ conditions, readConditions serde epa = some conditions ∧ ∀ c ∈ conditions, c.type ≠ "Ready"

/-- The condition and the managed HPA are those of the last call, with the instant of the first
one in its run. -/
def OfCalls (serde : Serde) (epa₀ : Json) (s : StatusWorld) : Prop :=
  match s.calls.getLast? with
  | none =>
    readConditions serde s.epa = readConditions serde epa₀ ∧
      readManagedHpa serde s.epa = readManagedHpa serde epa₀
  | some call =>
    (∃ first, runStart s.calls = some first ∧ readConditions serde s.epa =
      some [⟨"Ready", conditionStatus call.ready, first.now, call.reason, call.message⟩]) ∧
      readManagedHpa serde s.epa = some ⟨call.name, some call.now⟩

/-- The statistics are those of the last patch of the scheduler. -/
def OfRounds (epa₀ : Json) (s : StatusWorld) : Prop :=
  match s.rounds.getLast? with
  | none =>
    readScrapedReplicas s.epa = readScrapedReplicas epa₀ ∧
      readScrapeErrors s.epa = readScrapeErrors epa₀
  | some round =>
    readScrapedReplicas s.epa = some round.1 ∧ readScrapeErrors s.epa = some round.2

/-- The status is that of the last patches, and a call that is to patch has the instant of the
first one in its run. -/
structure Current (serde : Serde) (epa₀ : Json) (s : StatusWorld) : Prop where
  ofCalls : OfCalls serde epa₀ s
  ofRounds : OfRounds epa₀ s
  pending : ∀ p ∈ s.pending, ∃ first, runStartAfter (runStart s.calls) p.1 = some first ∧
    p.2 = first.now

section Runs

variable {serde : Serde} {epa₀ : Json} {s s' : StatusWorld} {call : StatusCall} {e : StatusEvent}

lemma conditionStatus_eq_iff {b b' : Bool} : conditionStatus b = conditionStatus b' ↔ b = b' := by
  cases b <;> cases b' <;> simp [conditionStatus]

/-- A call reads the instant of the first call in the run that it continues, or starts. -/
lemma transitionTime_eq (hnever : NeverReady serde epa₀) (h : OfCalls serde epa₀ s)
    (call : StatusCall) :
    ∃ first, runStartAfter (runStart s.calls) call = some first ∧
      transitionTime (readConditions serde s.epa) call = first.now := by
  rw [OfCalls] at h
  rcases hlast : s.calls.getLast? with _ | last
  · rw [hlast] at h
    obtain ⟨conditions, hread, hnone⟩ := hnever
    have hfind : conditions.find? (·.type == "Ready") = none :=
      List.find?_eq_none.2 fun c hc => by simpa using hnone c hc
    rw [List.getLast?_eq_none_iff.1 hlast, h.1, hread, transitionTime]
    exact ⟨call, rfl, by rw [hfind]⟩
  · rw [hlast] at h
    obtain ⟨⟨first, hstart, hread⟩, -⟩ := h
    obtain ⟨first', hstart', hready⟩ := ready_of_runStart hlast
    obtain rfl := Option.some.inj (hstart.symm.trans hstart')
    rw [hstart, hread]
    by_cases hsame : first.ready = call.ready
    · refine ⟨first, if_pos hsame, if_pos ?_⟩
      rw [beq_iff_eq, conditionStatus_eq_iff, ← hready, hsame]
    · refine ⟨call, if_neg hsame, if_neg ?_⟩
      rw [beq_iff_eq, conditionStatus_eq_iff, ← hready]
      exact hsame

/-- Every step of the two writers keeps the status current. -/
lemma Current.step (hnever : NeverReady serde epa₀) (h : Current serde epa₀ s)
    (hs : (statusSystem serde epa₀).step s e = some s') : Current serde epa₀ s' := by
  cases e with
  | read call =>
      simp only [statusSystem] at hs
      split at hs
      · obtain rfl := Option.some.inj hs
        refine ⟨h.ofCalls, h.ofRounds, ?_⟩
        rintro p ⟨⟩
        exact transitionTime_eq hnever h.ofCalls call
      · cases hs
  | patch =>
      simp only [statusSystem] at hs
      split at hs
      · rename_i call transition hpending
        obtain rfl := Option.some.inj hs
        obtain ⟨first, hstart, rfl⟩ : ∃ first, runStartAfter (runStart s.calls) call = some first ∧
            transition = first.now := h.pending (call, transition) hpending
        obtain ⟨hconditions, hmanaged, hscraped, herrors⟩ :=
          read_reconcilerFields s.epa call first.now
        refine ⟨?_, ?_, by rintro p ⟨⟩⟩
        · rw [OfCalls, List.getLast?_concat]
          exact ⟨⟨first, by rw [runStart_concat, hstart], hconditions⟩, hmanaged⟩
        · have hrounds := h.ofRounds
          rw [OfRounds] at hrounds ⊢
          rwa [hscraped, herrors]
      · cases hs
  | report scraped errors =>
      obtain rfl := Option.some.inj hs
      obtain ⟨hscraped, herrors, hconditions, hmanaged⟩ :=
        read_schedulerFields s.epa scraped errors
      refine ⟨?_, ?_, h.pending⟩
      · have hcalls := h.ofCalls
        rw [OfCalls] at hcalls ⊢
        rwa [hconditions, hmanaged]
      · rw [OfRounds, List.getLast?_concat]
        exact ⟨hscraped, herrors⟩

lemma current_of_reachable (hnever : NeverReady serde epa₀)
    (hrun : (statusSystem serde epa₀).Reachable System.Any s) : Current serde epa₀ s := by
  refine hrun.invariant ?_ ?_
  · rintro s rfl
    exact ⟨⟨rfl, rfl⟩, ⟨rfl, rfl⟩, by rintro p ⟨⟩⟩
  · intro s e s' h _ hs
    exact h.step hnever hs

/-- **The history of the status.** Let an EPA have no condition `Ready` at first.  In every run of
the reconciler's calls, one after the other, among patches of the scheduler: the transition time
of the condition is the instant of the first call in the last run of calls that agree on
readiness, the condition and the managed HPA are otherwise those of the last call, and the
statistics are those of the scheduler's last patch; what nobody has patched is as at first. -/
theorem status_history (hnever : NeverReady serde epa₀)
    (hrun : (statusSystem serde epa₀).Reachable System.Any s) :
    (∀ before first rest last, s.calls = before ++ first :: rest →
      (∀ c ∈ before.getLast?, c.ready ≠ first.ready) → (∀ c ∈ rest, c.ready = first.ready) →
      last ∈ s.calls.getLast? →
      readConditions serde s.epa =
          some [⟨"Ready", conditionStatus last.ready, first.now, last.reason, last.message⟩] ∧
        readManagedHpa serde s.epa = some ⟨last.name, some last.now⟩) ∧
    (s.calls = [] →
      readConditions serde s.epa = readConditions serde epa₀ ∧
        readManagedHpa serde s.epa = readManagedHpa serde epa₀) ∧
    (∀ round ∈ s.rounds.getLast?,
      readScrapedReplicas s.epa = some round.1 ∧ readScrapeErrors s.epa = some round.2) ∧
    (s.rounds = [] → readScrapedReplicas s.epa = readScrapedReplicas epa₀ ∧
      readScrapeErrors s.epa = readScrapeErrors epa₀) := by
  obtain ⟨hcalls, hrounds, -⟩ := current_of_reachable hnever hrun
  rw [OfCalls] at hcalls
  rw [OfRounds] at hrounds
  refine ⟨?_, ?_, ?_, ?_⟩
  · intro before first rest last hsplit hbefore hrest hlast
    rw [Option.mem_def.1 hlast] at hcalls
    obtain ⟨⟨first', hstart, hconditions⟩, hmanaged⟩ := hcalls
    rw [hsplit, runStart_eq hbefore hrest] at hstart
    obtain rfl := Option.some.inj hstart
    exact ⟨hconditions, hmanaged⟩
  · intro hnil
    rw [hnil] at hcalls
    exact hcalls
  · intro round hround
    rw [Option.mem_def.1 hround] at hrounds
    exact hrounds
  · intro hnil
    rw [hnil] at hrounds
    exact hrounds

end Runs

/-! ### A synchronisation that fails twice and recovers -/

/-- A call of the reconciler at an instant. -/
def syncCall (now : String) (ready : Bool) : StatusCall :=
  ⟨"web", now, ready, if ready then "HpaSynced" else "HpaError", ""⟩

/-- Two calls that fail and two that do not, with patches of the scheduler after their reads. -/
def recovery : List StatusEvent :=
  [.read (syncCall "10:00" false), .report 3 0, .patch, .read (syncCall "10:01" false), .patch,
    .read (syncCall "10:02" true), .report 4 1, .patch, .read (syncCall "10:03" true), .patch]

/-- The state after these events, from an EPA without a status. -/
def recovered : StatusWorld :=
  ((statusSystem .plain (.obj [])).exec ⟨.obj [], none, [], []⟩ recovery).get (by decide +kernel)

theorem status_history_recovered :
    readConditions .plain recovered.epa = some [⟨"Ready", "True", "10:02", "HpaSynced", ""⟩] ∧
      readManagedHpa .plain recovered.epa = some ⟨"web", some "10:03"⟩ ∧
      readScrapedReplicas recovered.epa = some 4 ∧ readScrapeErrors recovered.epa = some 1 := by
  have hnever : NeverReady .plain (.obj []) := ⟨[], rfl, by simp⟩
  have hrun : (statusSystem .plain (.obj [])).Reachable System.Any recovered :=
    .of_exec rfl (Option.some_get _).symm
  obtain ⟨hcalls, -, hrounds, -⟩ := status_history hnever hrun
  obtain ⟨hconditions, hmanaged⟩ := hcalls [syncCall "10:00" false, syncCall "10:01" false]
    (syncCall "10:02" true) [syncCall "10:03" true] (syncCall "10:03" true) rfl
    (by rintro c ⟨⟩; decide) (by simp [syncCall]) rfl
  exact ⟨hconditions, hmanaged, hrounds (4, 1) rfl⟩

end ExternalPodAutoscaler.Controller
