/-
The scraper service of one replica: the scheduler and the update handler beside each other
(`scraper/service.rs`, `scraper/scheduler.rs`).

The update handler registers and unregisters EPAs as the messages of the controller arrive.
The scheduler copies the registered EPAs at the start of a tick and goes through the copy
entry by entry; messages, changes of the view and the clock come in between.  An entry whose
key and durations parse refreshes the ownership of its EPA, and nothing else touches the
ownership.

Beside the state of the code a `Service` has a record of every EPA, which no step reads: when
the replica last refreshed it, lost it, and when it was registered and unregistered.

The main results of this file are `ownership_dispatch`, which ties the ticks of a `Service`
to those of the scheduler, and `no_stale_ownership`.
-/
import ExternalPodAutoscaler.Controller.Reconcile
import ExternalPodAutoscaler.Membership.GraceWindow
import ExternalPodAutoscaler.Scraper.Eviction

namespace ExternalPodAutoscaler.Scraper

open ExternalPodAutoscaler.Api ExternalPodAutoscaler.Controller ExternalPodAutoscaler.Lib
open ExternalPodAutoscaler.Membership ExternalPodAutoscaler.Store

/-! ### The refresh of one entry -/

/-- What `process_epa` hands to `refresh_ownership`: the namespace, the name and the
evaluation period of an entry.  There is no refresh if the key or a duration does not
parse. -/
def refreshArgs (parseDuration : String → Option ℕ) (entry : String × Epa) :
    Option (String × String × ℕ) :=
  match splitKey entry.1 with
  | none => none
  | some (ns, name) =>
    match parseDuration entry.2.spec.scrape.evaluationPeriod,
        parseDuration entry.2.spec.scrape.interval with
    | some evaluationPeriod, some _ => some (ns, name, evaluationPeriod)
    | _, _ => none

lemma epaKey_of_refreshArgs {parseDuration : String → Option ℕ} {entry : String × Epa}
    {ns name : String} {P : ℕ} (h : refreshArgs parseDuration entry = some (ns, name, P)) :
    epaKey ns name = entry.1 := by
  unfold refreshArgs at h
  split at h
  · cases h
  · rename_i ns' name' hkey
    split at h
    · obtain ⟨rfl, hrest⟩ := Prod.mk.inj (Option.some.inj h)
      obtain ⟨rfl, -⟩ := Prod.mk.inj hrest
      exact (Scheduler.key_eq_of_splitKey hkey).symm
    · cases h

section Refresh

variable (parseDuration : String → Option ℕ) (me : String) (sets : ReplicaSets) (now : ℕ)

/-- What the processing of an entry does to the ownership. -/
def refreshEntry (st : TransitionState) (entry : String × Epa) : TransitionState :=
  match refreshArgs parseDuration entry with
  | some (ns, name, evaluationPeriod) => refreshOwnership me sets now ns name evaluationPeriod st
  | none => st

variable {V : Type} (env : Surroundings)

lemma ownership_scrapeRound (key ns name : String) (epa : Epa) (P I : ℕ) (s : Scheduler V) :
    (s.scrapeRound env now key ns name epa P I).1.ownership = s.ownership := by
  unfold Scheduler.scrapeRound
  split <;> rfl

/-- `process_epa` changes the ownership by at most one refresh. -/
lemma ownership_processEpa (key : String) (epa : Epa) (s : Scheduler V) :
    (s.processEpa parseDuration me env now key epa).1.ownership =
      refreshEntry parseDuration me env.sets now s.ownership (key, epa) := by
  rcases hkey : splitKey key with _ | ⟨ns, name⟩
  · simp [Scheduler.processEpa, refreshEntry, refreshArgs, hkey]
  · rcases hP : parseDuration epa.spec.scrape.evaluationPeriod with _ | P
    · simp [Scheduler.processEpa, refreshEntry, refreshArgs, hkey, hP]
    · rcases hI : parseDuration epa.spec.scrape.interval with _ | I
      · simp [Scheduler.processEpa, refreshEntry, refreshArgs, hkey, hP, hI]
      · simp only [Scheduler.processEpa, refreshEntry, refreshArgs, hkey, hP, hI]
        -- the round that may follow the refresh leaves the ownership alone
        split
        · split
          · rfl
          · exact ownership_scrapeRound _ _ _ _ _ _ _ _ _
        · rfl

lemma ownership_processAll (entries : List (String × Epa)) (s : Scheduler V) :
    (s.processAll parseDuration me env now entries).1.ownership =
      entries.foldl (refreshEntry parseDuration me env.sets now) s.ownership := by
  induction entries generalizing s with
  | nil => rfl
  | cons entry entries ih =>
      obtain ⟨key, epa⟩ := entry
      rw [List.foldl_cons, ← ownership_processEpa]
      exact ih _

/-- **The ownership after a tick.** A tick of the scheduler refreshes the entries of the
registered EPAs in turn. -/
theorem ownership_dispatch (s : Scheduler V) :
    (s.dispatch parseDuration me env now).1.ownership =
      env.activeEpas.foldl (refreshEntry parseDuration me env.sets now) s.ownership :=
  ownership_processAll parseDuration me now env env.activeEpas s

end Refresh

/-! ### The registered EPAs -/

/-- What `handle_updates` does to the registered EPAs. -/
def applyUpdate (activeEpas : AList fun _ : String => Epa) :
    EpaUpdate → AList fun _ : String => Epa
  | .upsert epa =>
    match epa.metadata.ns, epa.metadata.name with
    | some ns, some name => activeEpas.insert (epaKey ns name) epa
    | _, _ => activeEpas
  | .delete ns name => activeEpas.erase (epaKey ns name)

/-- **Messages.** The scraper of a replica that reconciles registers the same EPAs. -/
theorem activeEpas_handleUpdate {V : Type} (r : ReplicaState V) (message : EpaUpdate) :
    (r.handleUpdate message).activeEpas = applyUpdate r.activeEpas message := by
  rcases message with epa | ⟨ns, name⟩
  · rcases hns : epa.metadata.ns with _ | ns <;> rcases hname : epa.metadata.name with _ | name <;>
      simp [ReplicaState.handleUpdate, applyUpdate, hns, hname]
  · rfl

/-! ### The record of an EPA -/

/-- What a replica has done with an EPA. -/
structure EpaRecord where
  /-- The number of the tick that refreshed the EPA last, and whether the replica was the
  hash winner then. -/
  lastRefresh : Option (ℕ × Bool)
  /-- The first refresh that was not won after one that was, until the next one that is. -/
  lostHash : Option LostOwnership
  /-- The last time the EPA was unregistered, with the evaluation period it had. -/
  unregistered : Option LostOwnership
  /-- When the EPA was registered last. -/
  registeredAt : ℕ

namespace EpaRecord

/-- The record of an EPA that has not been seen. -/
def new : EpaRecord := ⟨none, none, none, 0⟩

/-- Whether the last refresh was won. -/
def wasWinner (r : EpaRecord) : Bool := r.lastRefresh.any Prod.snd

/-- The record after a refresh. -/
def refreshed (now tick : ℕ) (won : Bool) (evaluationPeriod : ℕ) (r : EpaRecord) : EpaRecord :=
  { r with
    lastRefresh := some (tick, won)
    lostHash :=
      if won then none
      else if r.wasWinner then some ⟨now, evaluationPeriod⟩ else r.lostHash }

/-- The record after the EPA was registered. -/
def registered (now : ℕ) (r : EpaRecord) : EpaRecord := { r with registeredAt := now }

/-- The record after the EPA was unregistered. -/
def removed (now evaluationPeriod : ℕ) (r : EpaRecord) : EpaRecord :=
  { r with unregistered := some ⟨now, evaluationPeriod⟩ }

end EpaRecord

/-! ### The service -/

/-- The state of the scheduler and the update handler. -/
structure Service where
  now : ℕ
  /-- The membership view. -/
  sets : ReplicaSets
  activeEpas : AList fun _ : String => Epa
  ownership : TransitionState
  /-- The entries that the tick in progress has not processed yet. -/
  todo : Option (List (String × Epa))
  /-- How many ticks have been started. -/
  ticks : ℕ
  /-- When the last tick was started, or has made its last refresh. -/
  checkedAt : ℕ
  records : String → EpaRecord

inductive ServiceEvent where
  | advance (d : ℕ)
  /-- The membership view changes. -/
  | setView (sets : ReplicaSets)
  /-- The update handler receives a message. -/
  | update (message : EpaUpdate)
  /-- The scheduler copies the registered EPAs, in some order. -/
  | startTick (entries : List (String × Epa))
  /-- The scheduler processes the next entry. -/
  | process
  | endTick

namespace Service

/-- A service that has just started. -/
def start (now : ℕ) : Service := ⟨now, .new, ∅, .new, none, 0, now, fun _ => .new⟩

variable (parseDuration : String → Option ℕ) (me : String)

/-- The records after a message: an EPA is registered if it was not, or unregistered if it
was registered. -/
def recordUpdate (s : Service) : EpaUpdate → String → EpaRecord
  | .upsert epa =>
    match epa.metadata.ns, epa.metadata.name with
    | some ns, some name =>
      if epaKey ns name ∈ s.activeEpas then s.records
      else
        Function.update s.records (epaKey ns name)
          ((s.records (epaKey ns name)).registered s.now)
    | _, _ => s.records
  | .delete ns name =>
    match s.activeEpas.lookup (epaKey ns name) with
    | some epa =>
      Function.update s.records (epaKey ns name) ((s.records (epaKey ns name)).removed s.now
        ((parseDuration epa.spec.scrape.evaluationPeriod).getD 0))
    | none => s.records

/-- The state after an entry was processed. -/
def processEntry (entry : String × Epa) (rest : List (String × Epa)) (s : Service) : Service :=
  match refreshArgs parseDuration entry with
  | some (ns, name, evaluationPeriod) =>
    { s with
      ownership := refreshOwnership me s.sets s.now ns name evaluationPeriod s.ownership
      todo := some rest
      checkedAt := s.now
      records := Function.update s.records entry.1 ((s.records entry.1).refreshed s.now s.ticks
        (isEpaOwner me s.sets ns name) evaluationPeriod) }
  | none => { s with todo := some rest }

/-- The state after an event. -/
def step (s : Service) : ServiceEvent → Option Service
  | .advance d => some { s with now := s.now + d }
  | .setView sets => some { s with sets := sets }
  | .update message =>
    some { s with
      activeEpas := applyUpdate s.activeEpas message
      records := s.recordUpdate parseDuration message }
  | .startTick entries =>
    if s.todo = none ∧
        entries.Perm (s.activeEpas.entries.map fun entry => (entry.1, entry.2)) then
      some { s with todo := some entries, ticks := s.ticks + 1, checkedAt := s.now }
    else none
  | .process =>
    match s.todo with
    | some (entry :: rest) => some (s.processEntry parseDuration me entry rest)
    | _ => none
  | .endTick =>
    match s.todo with
    | some [] => some { s with todo := none }
    | _ => none

end Service

/-- The service of the replica `me`. -/
def serviceSystem (parseDuration : String → Option ℕ) (me : String) :
    System Service ServiceEvent where
  init s := ∃ now, s = .start now
  step := Service.step parseDuration me

namespace Service

variable {parseDuration : String → Option ℕ} {me : String} {s s' : Service}

lemma step_endTick (h : s.todo = some []) :
    (serviceSystem parseDuration me).step s .endTick = some { s with todo := none } := by
  simp [serviceSystem, step, h]

lemma of_step_startTick {entries : List (String × Epa)}
    (h : s.step parseDuration me (.startTick entries) = some s') :
    entries.Perm (s.activeEpas.entries.map fun entry => (entry.1, entry.2)) ∧
      s' = { s with todo := some entries, ticks := s.ticks + 1, checkedAt := s.now } := by
  simp only [step] at h
  split at h
  · rename_i hstart
    exact ⟨hstart.2, (Option.some.inj h).symm⟩
  · cases h

lemma of_step_process (h : s.step parseDuration me .process = some s') :
    ∃ entry rest, s.todo = some (entry :: rest) ∧
      s' = s.processEntry parseDuration me entry rest := by
  simp only [step] at h
  split at h
  · rename_i entry rest htodo
    exact ⟨entry, rest, htodo, (Option.some.inj h).symm⟩
  · cases h

lemma of_step_endTick (h : s.step parseDuration me .endTick = some s') :
    s.todo = some [] ∧ s' = { s with todo := none } := by
  simp only [step] at h
  split at h
  · rename_i htodo
    exact ⟨htodo, (Option.some.inj h).symm⟩
  · cases h

lemma ownership_processEntry (entry : String × Epa) (rest : List (String × Epa)) :
    (s.processEntry parseDuration me entry rest).ownership =
      refreshEntry parseDuration me s.sets s.now s.ownership entry := by
  rcases hargs : refreshArgs parseDuration entry with _ | ⟨ns, name, P⟩ <;>
    simp [processEntry, refreshEntry, hargs]

/-- Processing an entry leaves the view, the clock and the registered EPAs alone. -/
lemma processEntry_frame (parseDuration : String → Option ℕ) (me : String) (s : Service)
    (entry : String × Epa) (rest : List (String × Epa)) :
    (s.processEntry parseDuration me entry rest).now = s.now ∧
      (s.processEntry parseDuration me entry rest).sets = s.sets ∧
      (s.processEntry parseDuration me entry rest).activeEpas = s.activeEpas ∧
      (s.processEntry parseDuration me entry rest).ticks = s.ticks ∧
      (s.processEntry parseDuration me entry rest).todo = some rest := by
  rcases hargs : refreshArgs parseDuration entry with _ | ⟨ns, name, P⟩ <;>
    simp [processEntry, hargs]

/-- The entries of a tick that nothing interrupts are processed in turn. -/
lemma exec_process (parseDuration : String → Option ℕ) (me : String) {s : Service}
    {entries : List (String × Epa)} (h : s.todo = some entries) :
    ∃ s', (serviceSystem parseDuration me).exec s (List.replicate entries.length .process) =
        some s' ∧ s'.todo = some [] ∧
      s'.ownership = entries.foldl (refreshEntry parseDuration me s.sets s.now) s.ownership := by
  induction entries generalizing s with
  | nil => exact ⟨s, rfl, h, rfl⟩
  | cons entry entries ih =>
      obtain ⟨hnow, hsets, -, -, htodo⟩ :=
        processEntry_frame parseDuration me s entry entries
      obtain ⟨s', hs', hdone, hown⟩ := ih htodo
      refine ⟨s', ?_, hdone, ?_⟩
      · have hstep : (serviceSystem parseDuration me).step s .process =
            some (s.processEntry parseDuration me entry entries) := by
          simp [serviceSystem, step, h]
        rw [List.length_cons, List.replicate_succ, System.exec, hstep]
        exact hs'
      · rw [hown, hnow, hsets, ownership_processEntry, List.foldl_cons]

/-- **A tick that nothing interrupts.** It leaves the ownership as a tick of the scheduler
does. -/
theorem ownership_uninterrupted {V : Type} {env : Surroundings} {scheduler : Scheduler V}
    (hsets : env.sets = s.sets) (hown : scheduler.ownership = s.ownership)
    (h : s.step parseDuration me (.startTick env.activeEpas) = some s') :
    ∃ s'', (serviceSystem parseDuration me).exec s'
        (List.replicate env.activeEpas.length .process ++ [.endTick]) = some s'' ∧
      s''.ownership = (scheduler.dispatch parseDuration me env s.now).1.ownership := by
  obtain ⟨-, rfl⟩ := of_step_startTick h
  obtain ⟨s₁, hs₁, hdone, hown₁⟩ := exec_process parseDuration me
    (s := { s with todo := some env.activeEpas, ticks := s.ticks + 1, checkedAt := s.now }) rfl
  refine ⟨{ s₁ with todo := none }, ?_, ?_⟩
  · have hprocess := System.exec_eq_some_iff.1 hs₁
    exact System.exec_eq_some_iff.2 (hprocess.append (.single trivial (step_endTick hdone)))
  · rw [ownership_dispatch, hsets, hown]
    exact hown₁

end Service

/-! ### What a tick leaves behind -/

/-- At `t` the evaluation period and the buffer since an EPA was given up are not over. -/
def Recent (l : LostOwnership) (t : ℕ) : Prop :=
  t < l.lostAt + l.evaluationPeriod + graceBuffer

lemma recent_of_retain {now : ℕ} {φ : KeyPhase} {l : LostOwnership}
    (h : φ.retain now = .lost l) : Recent l now := by
  cases φ with
  | lost l' =>
      rw [KeyPhase.retain_lost] at h
      split at h
      · rename_i hopen
        obtain rfl := KeyPhase.lost.inj h
        exact hopen
      · cases h
  | owned o => cases h
  | notTracking => cases h

namespace Service

/-- The EPA is registered and the last tick found the replica to be its hash winner, or when
the tick looked last the replica had lost or unregistered it not long ago. -/
def Accounted (s : Service) (key : String) : Prop :=
  key ∈ s.activeEpas ∧ (s.records key).lastRefresh = some (s.ticks, true) ∨
    (∃ l, (s.records key).lostHash = some l ∧ Recent l s.checkedAt) ∨
    ∃ l, (s.records key).unregistered = some l ∧ Recent l s.checkedAt

/-- The replica scrapes and serves no EPA without a reason, and the evaluation window of an
EPA that it owns has begun after the EPA was registered last. -/
structure NoStaleOwnership (me : String) (s : Service) : Prop where
  accounted : ∀ ns name, shouldScrapeEpa s.ownership ns name = true ∨
    shouldServeEpa me s.sets s.now ns name s.ownership = true → s.Accounted (epaKey ns name)
  fresh : ∀ key o, s.ownership.owned key = some o → (s.records key).registeredAt ≤ o.since

/-- The steps that keep the ownership in line with the registered EPAs.  An EPA is not
unregistered while it is owned; an entry that is won belongs to an EPA that is still
registered, and one that cannot be refreshed to an EPA that is not owned; a tick that starts
when the window of a lost EPA is over has an entry that can be refreshed. -/
def Orderly (parseDuration : String → Option ℕ) (me : String) (s : Service) :
    ServiceEvent → Prop
  | .update (.delete ns name) => s.ownership.owned (epaKey ns name) = none
  | .startTick entries =>
    (∃ entry ∈ entries, (refreshArgs parseDuration entry).isSome) ∨
      ∀ key l, s.ownership.lost key = some l → Recent l s.now
  | .process =>
    ∀ entry rest, s.todo = some (entry :: rest) →
      match refreshArgs parseDuration entry with
      | some (ns, name, _) => isEpaOwner me s.sets ns name = true → entry.1 ∈ s.activeEpas
      | none => s.ownership.owned entry.1 = none
  | _ => True

end Service

namespace EpaRecord

variable {r : EpaRecord} {φ : KeyPhase}

/-- The phase of an EPA is the one that its record leads to expect. -/
def Matches (r : EpaRecord) : KeyPhase → Prop
  | .owned o => r.wasWinner = true ∧ r.registeredAt ≤ o.since
  | .lost l => r.wasWinner = false ∧ r.lostHash = some l
  | .notTracking => r.wasWinner = false

@[simp] lemma wasWinner_refreshed (now tick : ℕ) (won : Bool) (P : ℕ) :
    (r.refreshed now tick won P).wasWinner = won := rfl

lemma Matches.wasWinner_iff (h : r.Matches φ) : r.wasWinner = true ↔ ∃ o, φ = .owned o := by
  cases φ with
  | owned o => exact ⟨fun _ => ⟨o, rfl⟩, fun _ => h.1⟩
  | lost l => simp [h.1]
  | notTracking => simp [show r.wasWinner = false from h]

/-- Pruning keeps to the record. -/
lemma Matches.retain (h : r.Matches φ) (now : ℕ) : r.Matches (φ.retain now) := by
  cases φ with
  | owned o => exact h
  | lost l =>
      rw [KeyPhase.retain_lost]
      split
      · exact h
      · exact h.1
  | notTracking => exact h

/-- A refresh keeps to the record. -/
lemma Matches.refresh {now : ℕ} (h : r.Matches φ) (hpast : r.registeredAt ≤ now) (tick : ℕ)
    (won : Bool) (P : ℕ) : (r.refreshed now tick won P).Matches (φ.refresh now won P) := by
  cases won with
  | true =>
      cases φ with
      | owned o => exact ⟨rfl, h.2⟩
      | lost l => exact ⟨rfl, hpast⟩
      | notTracking => exact ⟨rfl, hpast⟩
  | false =>
      cases φ with
      | owned o =>
          rw [KeyPhase.refresh_lose_owned]
          exact ⟨rfl, by simp [refreshed, h.1]⟩
      | lost l =>
          have hlost : (r.refreshed now tick false P).Matches (.lost l) :=
            ⟨rfl, by simp [refreshed, h.1, h.2]⟩
          exact hlost.retain now
      | notTracking => rfl

/-- An EPA that is not owned may be registered. -/
lemma Matches.registered (h : r.Matches φ) (hw : r.wasWinner = false) (now : ℕ) :
    (r.registered now).Matches φ := by
  cases φ with
  | owned o => exact absurd h.1 (by simp [hw])
  | lost l => exact h
  | notTracking => exact h

lemma Matches.removed (h : r.Matches φ) (now P : ℕ) : (r.removed now P).Matches φ := by
  cases φ <;> exact h

end EpaRecord

/-! ### The ownership follows the records -/

namespace Service

variable {parseDuration : String → Option ℕ} {me : String} {s s' : Service}

/-- The invariant of orderly runs. -/
structure Tracked (parseDuration : String → Option ℕ) (s : Service) : Prop where
  matched : ∀ key, (s.records key).Matches (s.ownership.phase key)
  past : ∀ key, (s.records key).registeredAt ≤ s.now
  active : ∀ key, (s.records key).wasWinner = true → key ∈ s.activeEpas
  /-- During a tick an EPA that is owned is still to be processed, or was won already. -/
  pending : ∀ entries, s.todo = some entries → ∀ key, (s.records key).wasWinner = true →
    key ∈ entries.map Prod.fst ∨ (s.records key).lastRefresh = some (s.ticks, true)
  /-- During a tick the lost EPAs are still to be pruned, or their windows are open. -/
  pruned : ∀ entries, s.todo = some entries →
    (∃ entry ∈ entries, (refreshArgs parseDuration entry).isSome) ∨
      ∀ key l, s.ownership.phase key = .lost l → Recent l s.checkedAt

lemma Tracked.wasWinner_eq_false (h : s.Tracked parseDuration) {key : String}
    (hown : s.ownership.owned key = none) : (s.records key).wasWinner = false := by
  by_contra hwinner
  obtain ⟨o, ho⟩ := (h.matched key).wasWinner_iff.1 (Bool.eq_true_of_not_eq_false hwinner)
  rw [TransitionState.phase_eq_owned_iff, hown] at ho
  cases ho

lemma tracked_start (now : ℕ) : (start now).Tracked parseDuration where
  matched _ := rfl
  past _ := Nat.zero_le _
  active _ hw := nomatch hw
  pending _ h := nomatch h
  pruned _ h := nomatch h

/-- What a message does to the record of an EPA. -/
lemma recordUpdate_cases (parseDuration : String → Option ℕ) (s : Service) (message : EpaUpdate)
    (key : String) :
    s.recordUpdate parseDuration message key = s.records key ∨
      (s.recordUpdate parseDuration message key = (s.records key).registered s.now ∧
        key ∉ s.activeEpas) ∨
      ∃ P, s.recordUpdate parseDuration message key = (s.records key).removed s.now P := by
  rcases message with epa | ⟨ns, name⟩
  · rcases hns : epa.metadata.ns with _ | ns
    · exact .inl (by simp only [recordUpdate, hns])
    · rcases hname : epa.metadata.name with _ | name
      · exact .inl (by simp only [recordUpdate, hns, hname])
      · simp only [recordUpdate, hns, hname]
        by_cases hreg : epaKey ns name ∈ s.activeEpas
        · exact .inl (by rw [if_pos hreg])
        · rw [if_neg hreg]
          by_cases hkey : key = epaKey ns name
          · subst hkey
            exact .inr (.inl ⟨Function.update_self .., hreg⟩)
          · exact .inl (Function.update_of_ne hkey ..)
  · rcases hlook : s.activeEpas.lookup (epaKey ns name) with _ | epa
    · exact .inl (by simp only [recordUpdate, hlook])
    · simp only [recordUpdate, hlook]
      by_cases hkey : key = epaKey ns name
      · subst hkey
        exact .inr (.inr ⟨_, Function.update_self ..⟩)
      · exact .inl (Function.update_of_ne hkey ..)

/-- A message leaves the refreshes of an EPA alone. -/
lemma lastRefresh_recordUpdate (message : EpaUpdate) (key : String) :
    (s.recordUpdate parseDuration message key).lastRefresh = (s.records key).lastRefresh := by
  rcases recordUpdate_cases parseDuration s message key with h | ⟨h, -⟩ | ⟨P, h⟩ <;> rw [h] <;> rfl

lemma wasWinner_recordUpdate (message : EpaUpdate) (key : String) :
    (s.recordUpdate parseDuration message key).wasWinner = (s.records key).wasWinner := by
  rw [EpaRecord.wasWinner, lastRefresh_recordUpdate, EpaRecord.wasWinner]

/-- An EPA stays registered unless it is deleted. -/
lemma mem_applyUpdate {activeEpas : AList fun _ : String => Epa} {key : String}
    (h : key ∈ activeEpas) {message : EpaUpdate}
    (hdel : ∀ ns name, message = .delete ns name → key ≠ epaKey ns name) :
    key ∈ applyUpdate activeEpas message := by
  cases message with
  | upsert epa =>
      simp only [applyUpdate]
      split
      · exact (AList.mem_insert _).2 (.inr h)
      · exact h
  | delete ns name => exact AList.mem_erase.2 ⟨hdel ns name rfl, h⟩

lemma tracked_update {message : EpaUpdate} (h : s.Tracked parseDuration)
    (hok : Orderly parseDuration me s (.update message)) :
    Tracked parseDuration { s with
      activeEpas := applyUpdate s.activeEpas message
      records := s.recordUpdate parseDuration message } where
  matched key := by
    show (s.recordUpdate parseDuration message key).Matches (s.ownership.phase key)
    rcases recordUpdate_cases parseDuration s message key with hr | ⟨hr, habsent⟩ | ⟨P, hr⟩ <;>
      rw [hr]
    · exact h.matched key
    · -- only an EPA that is registered is owned
      have hw : (s.records key).wasWinner = false :=
        Bool.eq_false_iff.2 fun hw => habsent (h.active key hw)
      exact (h.matched key).registered hw s.now
    · exact (h.matched key).removed s.now P
  past key := by
    show (s.recordUpdate parseDuration message key).registeredAt ≤ s.now
    rcases recordUpdate_cases parseDuration s message key with hr | ⟨hr, -⟩ | ⟨P, hr⟩ <;> rw [hr]
    · exact h.past key
    · exact le_rfl
    · exact h.past key
  active key hw := by
    have hwas : (s.records key).wasWinner = true :=
      (wasWinner_recordUpdate message key).symm.trans hw
    refine mem_applyUpdate (h.active key hwas) ?_
    rintro ns name rfl rfl
    rw [h.wasWinner_eq_false hok] at hwas
    cases hwas
  pending entries hentries key hw := by
    have hwas : (s.records key).wasWinner = true :=
      (wasWinner_recordUpdate message key).symm.trans hw
    rcases h.pending entries hentries key hwas with hmem | hlast
    · exact .inl hmem
    · exact .inr ((lastRefresh_recordUpdate message key).trans hlast)
  pruned := h.pruned

lemma tracked_startTick {entries : List (String × Epa)} (h : s.Tracked parseDuration)
    (hok : Orderly parseDuration me s (.startTick entries))
    (hperm : entries.Perm (s.activeEpas.entries.map fun entry => (entry.1, entry.2))) :
    Tracked parseDuration
      { s with todo := some entries, ticks := s.ticks + 1, checkedAt := s.now } where
  matched := h.matched
  past := h.past
  active := h.active
  pending entries' hentries key hw := by
    obtain rfl := Option.some.inj hentries
    obtain ⟨entry, hentry, rfl⟩ := List.mem_map.1 (h.active key hw)
    exact .inl (List.mem_map.2 ⟨_, hperm.mem_iff.2 (List.mem_map.2 ⟨entry, hentry, rfl⟩), rfl⟩)
  pruned entries' hentries := by
    obtain rfl := Option.some.inj hentries
    refine hok.imp id fun hopen key l hl => ?_
    exact hopen key l (TransitionState.phase_eq_lost_iff.1 hl)

/-- A refresh prunes every EPA. -/
lemma phase_refreshOwnership_retain (me : String) (sets : ReplicaSets) (now : ℕ)
    (ns name : String) (P : ℕ) (st : TransitionState) (key : String) :
    ∃ φ : KeyPhase, (refreshOwnership me sets now ns name P st).phase key = φ.retain now := by
  by_cases hkey : key = epaKey ns name
  · subst hkey
    exact ⟨_, phase_refreshOwnership_self now P⟩
  · exact ⟨_, phase_refreshOwnership_of_ne hkey now P⟩

/-- The processing of an entry that can be refreshed. -/
lemma tracked_refresh {ns name : String} {P : ℕ} {epa : Epa} {rest : List (String × Epa)}
    (h : s.Tracked parseDuration) (htodo : s.todo = some ((epaKey ns name, epa) :: rest))
    (hok : isEpaOwner me s.sets ns name = true → epaKey ns name ∈ s.activeEpas) :
    Tracked parseDuration { s with
      ownership := refreshOwnership me s.sets s.now ns name P s.ownership
      todo := some rest
      checkedAt := s.now
      records := Function.update s.records (epaKey ns name)
        ((s.records (epaKey ns name)).refreshed s.now s.ticks (isEpaOwner me s.sets ns name) P) }
    where
  matched key := by
    dsimp only
    by_cases hkey : key = epaKey ns name
    · subst hkey
      rw [Function.update_self, phase_refreshOwnership_self]
      exact (h.matched _).refresh (h.past _) s.ticks _ P
    · rw [Function.update_of_ne hkey, phase_refreshOwnership_of_ne hkey]
      exact (h.matched key).retain s.now
  past key := by
    dsimp only
    by_cases hkey : key = epaKey ns name
    · subst hkey
      rw [Function.update_self]
      exact h.past (epaKey ns name)
    · rw [Function.update_of_ne hkey]
      exact h.past key
  active key hw := by
    dsimp only at hw
    by_cases hkey : key = epaKey ns name
    · subst hkey
      rw [Function.update_self, EpaRecord.wasWinner_refreshed] at hw
      exact hok hw
    · rw [Function.update_of_ne hkey] at hw
      exact h.active key hw
  pending entries hentries key hw := by
    obtain rfl := Option.some.inj hentries
    dsimp only at hw ⊢
    by_cases hkey : key = epaKey ns name
    · subst hkey
      rw [Function.update_self] at hw ⊢
      rw [EpaRecord.wasWinner_refreshed] at hw
      rw [hw]
      exact .inr rfl
    · rw [Function.update_of_ne hkey] at hw ⊢
      rcases h.pending _ htodo key hw with hmem | hlast
      · exact .inl ((List.mem_cons.1 hmem).resolve_left hkey)
      · exact .inr hlast
  pruned entries _ := by
    refine .inr fun key l hl => ?_
    obtain ⟨φ, hφ⟩ := phase_refreshOwnership_retain me s.sets s.now ns name P s.ownership key
    exact recent_of_retain (hφ.symm.trans hl)

lemma tracked_process {entry : String × Epa} {rest : List (String × Epa)}
    (h : s.Tracked parseDuration) (htodo : s.todo = some (entry :: rest))
    (hok : Orderly parseDuration me s .process) :
    Tracked parseDuration (s.processEntry parseDuration me entry rest) := by
  obtain ⟨key, epa⟩ := entry
  have hentry := hok _ _ htodo
  rcases hargs : refreshArgs parseDuration (key, epa) with _ | ⟨ns, name, P⟩
  · rw [hargs] at hentry
    simp only [processEntry, hargs]
    have hw : (s.records key).wasWinner = false := h.wasWinner_eq_false hentry
    refine ⟨h.matched, h.past, h.active, ?_, ?_⟩
    · -- the EPA of the entry is not owned, so the others are still to be processed
      intro entries hentries key' hw'
      obtain rfl := Option.some.inj hentries
      refine (h.pending _ htodo key' hw').imp_left fun hmem => ?_
      refine (List.mem_cons.1 hmem).resolve_left ?_
      rintro rfl
      rw [hw] at hw'
      cases hw'
    · intro entries hentries
      obtain rfl := Option.some.inj hentries
      refine (h.pruned _ htodo).imp_left ?_
      rintro ⟨entry, hmem, hsome⟩
      rcases List.mem_cons.1 hmem with rfl | hmem
      · rw [hargs] at hsome
        cases hsome
      · exact ⟨entry, hmem, hsome⟩
  · rw [hargs] at hentry
    obtain rfl : epaKey ns name = key := epaKey_of_refreshArgs hargs
    simp only [processEntry, hargs]
    exact tracked_refresh h htodo hentry

/-- An orderly step keeps the invariant. -/
lemma tracked_step {event : ServiceEvent} (h : s.Tracked parseDuration)
    (hok : Orderly parseDuration me s event) (hs : s.step parseDuration me event = some s') :
    s'.Tracked parseDuration := by
  cases event with
  | advance d =>
      obtain rfl := Option.some.inj hs
      exact ⟨h.matched, fun key => (h.past key).trans (Nat.le_add_right _ _), h.active, h.pending,
        h.pruned⟩
  | setView sets =>
      obtain rfl := Option.some.inj hs
      exact ⟨h.matched, h.past, h.active, h.pending, h.pruned⟩
  | update message =>
      obtain rfl := Option.some.inj hs
      exact tracked_update h hok
  | startTick entries =>
      obtain ⟨hperm, rfl⟩ := of_step_startTick hs
      exact tracked_startTick h hok hperm
  | process =>
      obtain ⟨entry, rest, htodo, rfl⟩ := of_step_process hs
      exact tracked_process h htodo hok
  | endTick =>
      obtain ⟨-, rfl⟩ := of_step_endTick hs
      exact ⟨h.matched, h.past, h.active, nofun, nofun⟩

lemma tracked_of_reachable
    (h : (serviceSystem parseDuration me).Reachable (Orderly parseDuration me) s) :
    s.Tracked parseDuration := by
  refine h.invariant ?_ fun _ _ _ htracked hok hs => tracked_step htracked hok hs
  rintro _ ⟨now, rfl⟩
  exact tracked_start now

lemma phase_ne_of_shouldServeEpa {sets : ReplicaSets} {now : ℕ} {ns name : String}
    {st : TransitionState} (h : shouldServeEpa me sets now ns name st = true) :
    st.phase (epaKey ns name) ≠ .notTracking := by
  intro hphase
  rw [shouldServeEpa_eq, hphase] at h
  cases h

/-- **No stale ownership after a tick.** After each tick of an orderly run the replica
scrapes or serves an EPA only if the EPA is registered and was won in this tick, or was lost
less than its evaluation period and the buffer ago; and an EPA that is owned has been owned
for no longer than it has been registered. -/
theorem no_stale_ownership
    (h : (serviceSystem parseDuration me).Reachable (Orderly parseDuration me) s)
    (hs : (serviceSystem parseDuration me).step s .endTick = some s') :
    NoStaleOwnership me s' := by
  have htracked := tracked_of_reachable h
  have hend : s.step parseDuration me .endTick = some s' := hs
  obtain ⟨htodo, rfl⟩ := of_step_endTick hend
  refine ⟨fun ns name htracks => ?_, fun key o ho => ?_⟩
  · have hphase : s.ownership.phase (epaKey ns name) ≠ .notTracking :=
      htracks.elim (shouldScrapeEpa_eq _ _ _).1 phase_ne_of_shouldServeEpa
    have hmatched := htracked.matched (epaKey ns name)
    rcases hk : s.ownership.phase (epaKey ns name) with _ | o | l
    · exact absurd hk hphase
    · rw [hk] at hmatched
      have hlast := (htracked.pending _ htodo _ hmatched.1).resolve_left List.not_mem_nil
      exact .inl ⟨htracked.active _ hmatched.1, hlast⟩
    · rw [hk] at hmatched
      have hopen : Recent l s.checkedAt := by
        rcases htracked.pruned _ htodo with ⟨entry, hmem, -⟩ | hopen
        · cases hmem
        · exact hopen _ l hk
      exact .inr (.inl ⟨l, hmatched.2, hopen⟩)
  · have hmatched := htracked.matched key
    rw [TransitionState.phase_eq_owned_iff.2 ho] at hmatched
    exact hmatched.2

/-! ### An EPA that is no longer refreshed -/

/-- The step processes no entry of the EPA. -/
def SkipsKey (key : String) (s : Service) (event : ServiceEvent) : Prop :=
  event = .process → ∀ entry rest, s.todo = some (entry :: rest) → entry.1 ≠ key

lemma owned_step {key : String} {o : OwnershipState} {event : ServiceEvent}
    (hskip : SkipsKey key s event) (hs : s.step parseDuration me event = some s')
    (ho : s.ownership.owned key = some o) : s'.ownership.owned key = some o := by
  cases event with
  | advance d | setView sets | update message =>
      obtain rfl := Option.some.inj hs
      exact ho
  | startTick entries =>
      obtain ⟨-, rfl⟩ := of_step_startTick hs
      exact ho
  | process =>
      obtain ⟨entry, rest, htodo, rfl⟩ := of_step_process hs
      have hne : entry.1 ≠ key := hskip rfl entry rest htodo
      rw [ownership_processEntry, refreshEntry]
      rcases hargs : refreshArgs parseDuration entry with _ | ⟨ns, name, P⟩
      · exact ho
      · have hother : key ≠ epaKey ns name := by
          rw [epaKey_of_refreshArgs hargs]
          exact hne.symm
        refine TransitionState.phase_eq_owned_iff.1 ?_
        show (refreshOwnership me s.sets s.now ns name P s.ownership).phase key = .owned o
        rw [phase_refreshOwnership_of_ne hother, TransitionState.phase_eq_owned_iff.2 ho]
        rfl
  | endTick =>
      obtain ⟨-, rfl⟩ := of_step_endTick hs
      exact ho

/-- **Ownership without refreshes.** An EPA that is owned stays owned, with the same
evaluation window, for as long as none of its entries is processed: however much time
passes, whatever becomes of the view, and whether it is unregistered. -/
theorem owned_without_refresh {key : String} {o : OwnershipState} {events : List ServiceEvent}
    (h : (serviceSystem parseDuration me).Path (SkipsKey key) s events s')
    (ho : s.ownership.owned key = some o) : s'.ownership.owned key = some o := by
  have hstep : ∀ s event s', s.ownership.owned key = some o → SkipsKey key s event →
      (serviceSystem parseDuration me).step s event = some s' →
      s'.ownership.owned key = some o :=
    fun _ _ _ ho hskip hs => owned_step hskip hs ho
  exact h.preserves (I := fun s => s.ownership.owned key = some o) hstep ho

/-! ### An EPA that is deleted while it is owned -/

/-- The service of a replica that reads the durations of `webEpa`. -/
def webService : System Service ServiceEvent := serviceSystem TickRun.parseWebDuration "replica-a"

/-- The view of a replica that is alone. -/
def aloneView (id : String) : ReplicaSets := ⟨⟨[id], List.nodup_singleton _⟩, .empty, false⟩

/-- A tick with one entry. -/
def webTick : List ServiceEvent := [.startTick [("default/web", webEpa "15s")], .process]

/-- The EPA is registered, won, and unregistered; then its evaluation period and the buffer
pass, and the scheduler starts a tick without it. -/
def deletedRun : List ServiceEvent :=
  [.setView (aloneView "replica-a"), .update (.upsert (webEpa "15s"))] ++ webTick ++
    [.endTick, .update (.delete "default" "web"), .advance (secs 605), .startTick []]

/-- The EPA is created again after `deletedRun`, and won in the next tick. -/
def recreatedRun : List ServiceEvent :=
  deletedRun ++ [.endTick, .update (.upsert (webEpa "15s"))] ++ webTick

/-- A tick over the one registered EPA is orderly. -/
lemma webTick_path {s : Service} (htodo : s.todo = none)
    (hactive : s.activeEpas = applyUpdate ∅ (.upsert (webEpa "15s"))) :
    ∃ s', webService.Path (Orderly TickRun.parseWebDuration "replica-a") s webTick s' ∧
      s'.todo = some [] ∧ s'.now = s.now ∧ s'.activeEpas = s.activeEpas ∧
      s'.ownership = refreshOwnership "replica-a" s.sets s.now "default" "web" (secs 600)
        s.ownership := by
  have hargs : refreshArgs TickRun.parseWebDuration ("default/web", webEpa "15s") =
      some ("default", "web", secs 600) := by
    decide +kernel
  have hperm : [("default/web", webEpa "15s")].Perm
      (s.activeEpas.entries.map fun entry => (entry.1, entry.2)) := by
    rw [hactive]
    decide +kernel
  have hmem : "default/web" ∈ s.activeEpas := by
    rw [hactive]
    decide +kernel
  obtain ⟨hnow, -, hepas, -, hdone⟩ := processEntry_frame TickRun.parseWebDuration "replica-a"
    { s with
      todo := some [("default/web", webEpa "15s")], ticks := s.ticks + 1, checkedAt := s.now }
    ("default/web", webEpa "15s") []
  refine ⟨_, .cons (.inl ⟨_, List.mem_cons_self, ?_⟩) (if_pos ⟨htodo, hperm⟩)
    (.single ?_ rfl), hdone, hnow, hepas, ?_⟩
  · rw [hargs]
    rfl
  · intro entry rest h
    obtain ⟨rfl, rfl⟩ := List.cons.inj (Option.some.inj h)
    rw [hargs]
    exact fun _ => hmem
  · rw [ownership_processEntry, refreshEntry, hargs]

/-- The replica wins the EPA in one tick and loses it in the next, after which it still
scrapes it. -/
theorem no_stale_ownership_lost :
    ∃ s : Service, NoStaleOwnership "replica-a" s ∧ s.ownership.owned "default/web" = none ∧
      shouldScrapeEpa s.ownership "default" "web" = true := by
  obtain ⟨s₀, hregister, hidle, hactive, hnow, hsets, hown⟩ : ∃ s₀,
      webService.Path (Orderly TickRun.parseWebDuration "replica-a") (.start 0)
        [.setView (aloneView "replica-a"), .update (.upsert (webEpa "15s"))] s₀ ∧
      s₀.todo = none ∧ s₀.activeEpas = applyUpdate ∅ (.upsert (webEpa "15s")) ∧ s₀.now = 0 ∧
      s₀.sets = aloneView "replica-a" ∧ s₀.ownership = .new :=
    ⟨_, .cons trivial rfl (.single trivial rfl), rfl, rfl, rfl, rfl, rfl⟩
  obtain ⟨s₁, hfirst, hdone₁, hnow₁, hactive₁, hown₁⟩ := webTick_path hidle hactive
  have hmove : webService.Path (Orderly TickRun.parseWebDuration "replica-a") s₁
      [.endTick, .setView (aloneView "replica-b")]
      { s₁ with todo := none, sets := aloneView "replica-b" } :=
    .cons trivial (step_endTick hdone₁) (.single trivial rfl)
  obtain ⟨s₂, hsecond, hdone₂, -, -, hown₂⟩ :=
    webTick_path (s := { s₁ with todo := none, sets := aloneView "replica-b" }) rfl
      (hactive₁.trans hactive)
  have hreach : webService.Reachable (Orderly TickRun.parseWebDuration "replica-a") s₂ :=
    ⟨.start 0, _, ⟨0, rfl⟩, ((hregister.append hfirst).append hmove).append hsecond⟩
  have hend : s₂.ownership = refreshOwnership "replica-a" (aloneView "replica-b") 0 "default" "web"
      (secs 600) (refreshOwnership "replica-a" (aloneView "replica-a") 0 "default" "web"
        (secs 600) .new) := by
    rw [hown₂]
    show refreshOwnership _ (aloneView "replica-b") s₁.now _ _ _ s₁.ownership = _
    rw [hnow₁, hown₁, hnow, hsets, hown]
  refine ⟨{ s₂ with todo := none }, no_stale_ownership hreach (step_endTick hdone₂), ?_, ?_⟩
  · rw [hend]
    decide +kernel
  · rw [hend]
    decide +kernel

/-- An EPA that is deleted while it is owned is still scraped and served 605 seconds later,
and when it is created again its evaluation window is the old one. -/
theorem deleted_epa_stays_owned :
    (∃ s s' : Service, webService.Reachable System.Any s ∧
      webService.step s .endTick = some s' ∧
      epaKey "default" "web" ∉ s'.activeEpas ∧
      shouldScrapeEpa s'.ownership "default" "web" = true ∧
      shouldServeEpa "replica-a" s'.sets s'.now "default" "web" s'.ownership = true ∧
      ¬ NoStaleOwnership "replica-a" s') ∧
    ∃ s s' : Service, webService.Reachable System.Any s ∧
      webService.step s .endTick = some s' ∧
      s'.ownership.owned (epaKey "default" "web") = some ⟨0, secs 600⟩ ∧
      (s'.records (epaKey "default" "web")).registeredAt = secs 605 ∧
      ¬ NoStaleOwnership "replica-a" s' := by
  constructor
  · have hrun : (webService.exec (.start 0) deletedRun).any
        (fun s => (webService.step s .endTick).any fun s' =>
          decide (epaKey "default" "web" ∉ s'.activeEpas ∧
            shouldScrapeEpa s'.ownership "default" "web" = true ∧
            shouldServeEpa "replica-a" s'.sets s'.now "default" "web" s'.ownership = true ∧
            s'.checkedAt = secs 605 ∧
            (s'.records (epaKey "default" "web")).lostHash = none ∧
            (s'.records (epaKey "default" "web")).unregistered = some ⟨0, secs 600⟩)) = true := by
      decide +kernel
    obtain ⟨s, hs, hrun⟩ := (Option.any_eq_true _ _).1 hrun
    obtain ⟨s', hs', hfacts⟩ := (Option.any_eq_true _ _).1 hrun
    obtain ⟨habsent, hscrape, hserve, hchecked, hlost, hgone⟩ := of_decide_eq_true hfacts
    refine ⟨s, s', .of_exec ⟨0, rfl⟩ hs, hs', habsent, hscrape, hserve, fun hno => ?_⟩
    rcases hno.accounted "default" "web" (.inl hscrape) with
      ⟨hactive, -⟩ | ⟨l, hl, -⟩ | ⟨l, hl, hrecent⟩
    · exact habsent hactive
    · rw [hlost] at hl
      cases hl
    · rw [hgone] at hl
      obtain rfl := Option.some.inj hl
      rw [hchecked] at hrecent
      simp only [Recent, graceBuffer, secs] at hrecent
      omega
  · have hrun : (webService.exec (.start 0) recreatedRun).any
        (fun s => (webService.step s .endTick).any fun s' =>
          decide (s'.ownership.owned (epaKey "default" "web") = some ⟨0, secs 600⟩ ∧
            (s'.records (epaKey "default" "web")).registeredAt = secs 605)) = true := by
      decide +kernel
    obtain ⟨s, hs, hrun⟩ := (Option.any_eq_true _ _).1 hrun
    obtain ⟨s', hs', hfacts⟩ := (Option.any_eq_true _ _).1 hrun
    obtain ⟨hown, hregistered⟩ := of_decide_eq_true hfacts
    refine ⟨s, s', .of_exec ⟨0, rfl⟩ hs, hs', hown, hregistered, fun hno => ?_⟩
    have hfresh := hno.fresh _ _ hown
    rw [hregistered] at hfresh
    simp only [secs] at hfresh
    omega

end Service

end ExternalPodAutoscaler.Scraper
