/-
The controllers of a cluster (`Reconciler::reconcile`, `Controller::run` and
`ScraperService::handle_updates`).

Every replica runs a controller over all EPAs.  A change of an EPA queues a reconcile at
each of them; the runtime runs at most one reconcile of an EPA at a time and queues it again
after an error.  A reconcile reads the EPA from the API, asks whether the replica owns it,
applies the autoscaler if so, and tells the scraper of the replica through a channel.  The
requests of a reconcile take effect at the API at single instants, with the events of the
other replicas, of the membership and of the users in between; a write that was sent before
a crash may still arrive.  The timing of retries and the status of the EPA are left out.

`reconcileSystem` is the system of all replicas and the API.  What an event does to one
replica is `ReplicaState.Effect`, and what it does to the others `Cluster.step_cases`.
-/
import ExternalPodAutoscaler.Controller.Hpa
import ExternalPodAutoscaler.Lib.Transition
import ExternalPodAutoscaler.Scraper.Scheduler

namespace ExternalPodAutoscaler.Controller

open ExternalPodAutoscaler.Api ExternalPodAutoscaler.Lib ExternalPodAutoscaler.Membership
open ExternalPodAutoscaler.Scraper ExternalPodAutoscaler.Store

/-! ### One reconcile -/

/-- What the runtime does after a reconcile. -/
inductive Action where
  | awaitChange
  | requeue (delay : ℕ)
deriving DecidableEq

/-- Where a reconcile is. -/
inductive Stage where
  /-- The EPA is being read. -/
  | observing
  /-- The EPA has been read, the ownership comes next. -/
  | checking (epa : Epa)
  | notifyingDelete
  | removingWindows
  /-- The autoscaler is being applied. -/
  | applying (epa : Epa) (hpa : Hpa)
  | upserting (epa : Epa)
  | finished (result : Except ReconcileError Action)
deriving DecidableEq

/-- `ObservedState::is_deleting`. -/
def isDeleting (epa : Epa) : Bool := epa.metadata.deletionTimestamp.isSome

/-- After the EPA was read: `none` is the answer 404. -/
def Stage.afterObserve : Except String (Option Epa) → Stage
  | .error message => .finished (.error (.observation message))
  | .ok none => .finished (.ok .awaitChange)
  | .ok (some epa) => .checking epa

/-- After the replica has asked whether it owns the EPA. -/
def Stage.afterCheck (isOwner : Bool) (epa : Epa) : Stage :=
  if isDeleting epa then
    if isOwner then .notifyingDelete else .finished (.ok .awaitChange)
  else if isOwner then
    match buildHpaSpec epa with
    | .ok hpa => .applying epa hpa
    | .error e => .finished (.error e)
  else .upserting epa

/-- After the autoscaler was applied. -/
def Stage.afterApply (epa : Epa) : Except String Unit → Stage
  | .ok () => .upserting epa
  | .error message => .finished (.error (.hpa s!"Failed to apply HPA: {message}"))

/-- A message to the scraper. -/
inductive EpaUpdate where
  | upsert (epa : Epa)
  | delete (ns name : String)
deriving DecidableEq

/-- The message of a reconcile and its next stage. -/
def Stage.message (k : ResourceName) : Stage → Option (EpaUpdate × Stage)
  | .upserting epa => some (.upsert epa, .finished (.ok .awaitChange))
  | .notifyingDelete => some (.delete k.1 k.2, .removingWindows)
  | _ => none

/-- `error_policy`. -/
def errorPolicy (_ : ReconcileError) : Action := .requeue (secs 60)

/-! ### One replica -/

/-- The state of a replica. -/
structure ReplicaState (V : Type) where
  /-- Its membership view. -/
  sets : ReplicaSets
  /-- Its lease is marked as draining. -/
  draining : Bool
  /-- The EPAs whose reconcile is queued. -/
  queue : List ResourceName
  running : AList fun _ : ResourceName => Stage
  /-- The channel to the scraper, the oldest message first. -/
  updates : List EpaUpdate
  activeEpas : AList fun _ : String => Epa
  store : MetricsStore V

inductive ReplicaEvent where
  | setView (sets : ReplicaSets)
  | markDraining
  /-- The runtime starts a queued reconcile. -/
  | start (k : ResourceName)
  | observe (k : ResourceName)
  | observeFailed (k : ResourceName) (message : String)
  | check (k : ResourceName)
  | apply (k : ResourceName)
  /-- The reconcile is told that the write failed, which may have taken effect. -/
  | applyFailed (k : ResourceName) (tookEffect : Bool) (message : String)
  | send (k : ResourceName)
  | removeWindows (k : ResourceName)
  /-- The runtime is handed the result of a reconcile. -/
  | finish (k : ResourceName)
  /-- The scraper receives a message. -/
  | receive

namespace ReplicaState

variable {V : Type}

/-- A replica that has just started; it lists the EPAs that exist. -/
def start (sets : ReplicaSets) (existing : List ResourceName) : ReplicaState V :=
  ⟨sets, false, existing, ∅, [], ∅, .new⟩

/-- Queues a reconcile, once. -/
def enqueue (k : ResourceName) (r : ReplicaState V) : ReplicaState V :=
  { r with queue := r.queue.insert k }

def setStage (k : ResourceName) (stage : Stage) (r : ReplicaState V) : ReplicaState V :=
  { r with running := r.running.insert k stage }

/-- The messages that the channel to the scraper holds at most. -/
def channelCapacity : ℕ := 1000

/-- `handle_updates`, for one message. -/
def handleUpdate (r : ReplicaState V) : EpaUpdate → ReplicaState V
  | .upsert epa =>
    match epa.metadata.ns, epa.metadata.name with
    | some ns, some name =>
      { r with
        store := setMetricConfigs ns name epa r.store
        activeEpas := r.activeEpas.insert (epaKey ns name) epa }
    | _, _ => r
  | .delete ns name => { r with activeEpas := r.activeEpas.erase (epaKey ns name) }

/-- The state after an event, and the autoscaler that is written. -/
def step (me : String) (epas : AList fun _ : ResourceName => Epa) (r : ReplicaState V) :
    ReplicaEvent → Option (ReplicaState V × Option Hpa)
  | .setView sets => some ({ r with sets := sets }, none)
  | .markDraining => some ({ r with draining := true }, none)
  | .start k =>
    if k ∈ r.queue ∧ (r.running.lookup k).isNone then
      some ({ r with queue := r.queue.erase k, running := r.running.insert k .observing }, none)
    else none
  | .observe k =>
    match r.running.lookup k with
    | some .observing => some (r.setStage k (.afterObserve (.ok (epas.lookup k))), none)
    | _ => none
  | .observeFailed k message =>
    match r.running.lookup k with
    | some .observing => some (r.setStage k (.afterObserve (.error message)), none)
    | _ => none
  | .check k =>
    match r.running.lookup k with
    | some (.checking epa) =>
      some (r.setStage k (.afterCheck (isEpaOwner me r.sets k.1 k.2) epa), none)
    | _ => none
  | .apply k =>
    match r.running.lookup k with
    | some (.applying epa hpa) => some (r.setStage k (.afterApply epa (.ok ())), some hpa)
    | _ => none
  | .applyFailed k tookEffect message =>
    match r.running.lookup k with
    | some (.applying epa hpa) =>
      some (r.setStage k (.afterApply epa (.error message)),
        if tookEffect then some hpa else none)
    | _ => none
  | .send k =>
    match (r.running.lookup k).bind (Stage.message k) with
    | some (update, stage) =>
      if r.updates.length < channelCapacity then
        some ({ r.setStage k stage with updates := r.updates ++ [update] }, none)
      else none
    | none => none
  | .removeWindows k =>
    match r.running.lookup k with
    | some .removingWindows =>
      some ({ r.setStage k (.finished (.ok .awaitChange)) with
        store := r.store.removeEpaWindows k.1 k.2 }, none)
    | _ => none
  | .finish k =>
    match r.running.lookup k with
    | some (.finished result) =>
      let done := { r with running := r.running.erase k }
      match (match result with | .ok action => action | .error e => errorPolicy e) with
      | .awaitChange => some (done, none)
      | .requeue _ => some (done.enqueue k, none)
    | _ => none
  | .receive =>
    match r.updates with
    | update :: updates => some ({ r with updates := updates }.handleUpdate update, none)
    | [] => none

/-! ### What an event does to a replica -/

variable {me : String} {epas : AList fun _ : ResourceName => Epa} {r r' : ReplicaState V}
  {event : ReplicaEvent} {hpa : Option Hpa}

lemma lookup_setStage (k : ResourceName) (stage : Stage) (k' : ResourceName) :
    (r.setStage k stage).running.lookup k' =
      if k' = k then some stage else r.running.lookup k' := by
  by_cases hk : k' = k
  · subst hk
    rw [if_pos rfl]
    exact AList.lookup_insert _
  · rw [if_neg hk]
    exact AList.lookup_insert_ne hk

/-- The steps of one reconcile that send no message: its next stage and the autoscaler it
writes. -/
inductive Next (me : String) (epas : AList fun _ : ResourceName => Epa) (sets : ReplicaSets)
    (k : ResourceName) : Stage → Stage → Option Hpa → Prop
  | observe : Next me epas sets k .observing (.afterObserve (.ok (epas.lookup k))) none
  | observeFailed (message : String) :
      Next me epas sets k .observing (.afterObserve (.error message)) none
  | check (epa : Epa) : Next me epas sets k (.checking epa)
      (.afterCheck (isEpaOwner me sets k.1 k.2) epa) none
  | apply (epa : Epa) (hpa : Hpa) :
      Next me epas sets k (.applying epa hpa) (.afterApply epa (.ok ())) (some hpa)
  | applyFailed (epa : Epa) (hpa : Hpa) (tookEffect : Bool) (message : String) :
      Next me epas sets k (.applying epa hpa) (.afterApply epa (.error message))
        (if tookEffect then some hpa else none)
  | removeWindows :
      Next me epas sets k .removingWindows (.finished (.ok .awaitChange)) none

lemma Next.message_eq_none {sets : ReplicaSets} {k : ResourceName} {stage stage' : Stage}
    (h : Next me epas sets k stage stage' hpa) : stage.message k = none := by
  cases h <;> rfl

/-- What an event does to a replica, and the autoscaler it writes. -/
inductive Effect (me : String) (epas : AList fun _ : ResourceName => Epa) (r : ReplicaState V) :
    ReplicaEvent → ReplicaState V → Option Hpa → Prop
  | setView (sets : ReplicaSets) : Effect me epas r (.setView sets) { r with sets := sets } none
  | markDraining : Effect me epas r .markDraining { r with draining := true } none
  | start {k : ResourceName} : k ∈ r.queue → r.running.lookup k = none →
      Effect me epas r (.start k)
        { r with queue := r.queue.erase k, running := r.running.insert k .observing } none
  /-- A reconcile takes a step that sends no message. -/
  | advance {event : ReplicaEvent} {k : ResourceName} {stage stage' : Stage} {hpa : Option Hpa}
      (store : MetricsStore V) : r.running.lookup k = some stage →
      Next me epas r.sets k stage stage' hpa →
      Effect me epas r event { r.setStage k stage' with store := store } hpa
  | send {k : ResourceName} {stage stage' : Stage} {update : EpaUpdate} :
      r.running.lookup k = some stage → stage.message k = some (update, stage') →
      Effect me epas r (.send k)
        { r.setStage k stage' with updates := r.updates ++ [update] } none
  | finish {k : ResourceName} {result : Except ReconcileError Action}
      {queue : List ResourceName} : r.running.lookup k = some (.finished result) →
      queue = r.queue.insert k ∨ queue = r.queue ∧ result = .ok .awaitChange →
      Effect me epas r (.finish k) { r with running := r.running.erase k, queue := queue } none
  | receive {update : EpaUpdate} {updates : List EpaUpdate} : r.updates = update :: updates →
      Effect me epas r .receive ({ r with updates := updates }.handleUpdate update) none

lemma effect_of_step (h : r.step me epas event = some (r', hpa)) :
    Effect me epas r event r' hpa := by
  cases event with
  | setView sets =>
      obtain ⟨rfl, rfl⟩ := Prod.mk.inj (Option.some.inj h)
      exact .setView sets
  | markDraining =>
      obtain ⟨rfl, rfl⟩ := Prod.mk.inj (Option.some.inj h)
      exact .markDraining
  | start k =>
      simp only [step] at h
      split at h
      · rename_i hk
        obtain ⟨rfl, rfl⟩ := Prod.mk.inj (Option.some.inj h)
        exact .start hk.1 (Option.isNone_iff_eq_none.1 hk.2)
      · cases h
  | observe k =>
      simp only [step] at h
      split at h
      · rename_i hk
        obtain ⟨rfl, rfl⟩ := Prod.mk.inj (Option.some.inj h)
        exact .advance r.store hk .observe
      · cases h
  | observeFailed k message =>
      simp only [step] at h
      split at h
      · rename_i hk
        obtain ⟨rfl, rfl⟩ := Prod.mk.inj (Option.some.inj h)
        exact .advance r.store hk (.observeFailed message)
      · cases h
  | check k =>
      simp only [step] at h
      split at h
      · rename_i epa hk
        obtain ⟨rfl, rfl⟩ := Prod.mk.inj (Option.some.inj h)
        exact .advance r.store hk (.check epa)
      · cases h
  | apply k =>
      simp only [step] at h
      split at h
      · rename_i epa write hk
        obtain ⟨rfl, rfl⟩ := Prod.mk.inj (Option.some.inj h)
        exact .advance r.store hk (.apply epa write)
      · cases h
  | applyFailed k tookEffect message =>
      simp only [step] at h
      split at h
      · rename_i epa write hk
        obtain ⟨rfl, rfl⟩ := Prod.mk.inj (Option.some.inj h)
        exact .advance r.store hk (.applyFailed epa write tookEffect message)
      · cases h
  | send k =>
      simp only [step] at h
      split at h
      · rename_i update stage' hk
        split at h
        · obtain ⟨stage, hstage, hmessage⟩ := Option.bind_eq_some_iff.1 hk
          obtain ⟨rfl, rfl⟩ := Prod.mk.inj (Option.some.inj h)
          exact .send hstage hmessage
        · cases h
      · cases h
  | removeWindows k =>
      simp only [step] at h
      split at h
      · rename_i hk
        obtain ⟨rfl, rfl⟩ := Prod.mk.inj (Option.some.inj h)
        exact .advance _ hk .removeWindows
      · cases h
  | finish k =>
      simp only [step] at h
      split at h
      · rename_i result hk
        rcases result with e | (_ | delay)
        · obtain ⟨rfl, rfl⟩ := Prod.mk.inj (Option.some.inj h)
          exact .finish hk (.inl rfl)
        · obtain ⟨rfl, rfl⟩ := Prod.mk.inj (Option.some.inj h)
          exact .finish hk (.inr ⟨rfl, rfl⟩)
        · obtain ⟨rfl, rfl⟩ := Prod.mk.inj (Option.some.inj h)
          exact .finish hk (.inl rfl)
      · cases h
  | receive =>
      simp only [step] at h
      split at h
      · rename_i update updates hu
        obtain ⟨rfl, rfl⟩ := Prod.mk.inj (Option.some.inj h)
        exact .receive hu
      · cases h

/-- The scraper touches neither the view nor the reconciles. -/
lemma handleUpdate_frame (r : ReplicaState V) (update : EpaUpdate) :
    (r.handleUpdate update).sets = r.sets ∧ (r.handleUpdate update).queue = r.queue ∧
      (r.handleUpdate update).running = r.running ∧
      (r.handleUpdate update).updates = r.updates := by
  rcases update with epa | ⟨ns, name⟩
  · simp only [handleUpdate]
    split <;> exact ⟨rfl, rfl, rfl, rfl⟩
  · exact ⟨rfl, rfl, rfl, rfl⟩

end ReplicaState

/-! ### The cluster -/

/-- The API and the replicas. -/
structure Cluster (V : Type) where
  epas : AList fun _ : ResourceName => Epa
  hpas : AList fun _ : ResourceName => Hpa
  replicas : AList fun _ : String => ReplicaState V
  /-- The writes of replicas that are gone. -/
  inFlight : List Hpa

inductive Event where
  /-- An EPA is created, or its spec is changed. -/
  | putEpa (epa : Epa)
  /-- The deletion of an EPA that has finalizers begins. -/
  | terminateEpa (k : ResourceName) (timestamp : String)
  /-- An EPA is gone. -/
  | removeEpa (k : ResourceName)
  /-- The garbage collector removes an autoscaler whose owner is gone. -/
  | collectHpa (k : ResourceName)
  | land (i : ℕ)
  | join (id : String) (sets : ReplicaSets)
  /-- A replica exits or crashes. -/
  | leave (id : String)
  | replica (id : String) (event : ReplicaEvent)

namespace Cluster

variable {V : Type}

/-- Stores an EPA, which queues a reconcile at every replica. -/
def storeEpa (k : ResourceName) (epa : Epa) (w : Cluster V) : Cluster V :=
  { w with
    epas := w.epas.insert k epa
    replicas := mapValues (ReplicaState.enqueue k) w.replicas }

/-- A write of an autoscaler takes effect. -/
def writeHpa (hpa : Option Hpa) (w : Cluster V) : Cluster V :=
  match hpa with
  | none => w
  | some hpa => { w with hpas := w.hpas.insert hpa.key hpa }

/-- The autoscaler is owned by the EPA. -/
def ownedBy (hpa : Hpa) (epa : Epa) : Bool :=
  hpa.ownerReferences.any fun o => epa.metadata.uid == some o.uid

/-- The writes of a replica that are on their way. -/
def writes (r : ReplicaState V) : List Hpa :=
  r.running.entries.filterMap fun entry =>
    match entry.2 with
    | .applying _ hpa => some hpa
    | _ => none

def step (w : Cluster V) : Event → Option (Cluster V)
  | .putEpa epa =>
    match epaNameNamespace epa.metadata with
    | .ok k => some (w.storeEpa k epa)
    | .error _ => none
  | .terminateEpa k timestamp => do
    let epa ← w.epas.lookup k
    some (w.storeEpa k
      { epa with metadata := { epa.metadata with deletionTimestamp := some timestamp } })
  | .removeEpa k => some { w with epas := w.epas.erase k }
  | .collectHpa k => do
    let hpa ← w.hpas.lookup k
    if (w.epas.lookup k).any (ownedBy hpa) then none
    else some { w with hpas := w.hpas.erase k }
  | .land i => do
    let hpa ← w.inFlight[i]?
    some ({ w with inFlight := w.inFlight.eraseIdx i }.writeHpa (some hpa))
  | .join id sets =>
    if id ∈ w.replicas then none
    else some { w with replicas := w.replicas.insert id (.start sets w.epas.keys) }
  | .leave id => do
    let r ← w.replicas.lookup id
    some { w with
      replicas := w.replicas.erase id
      inFlight := w.inFlight ++ writes r }
  | .replica id event => do
    let r ← w.replicas.lookup id
    let (r', hpa) ← r.step id w.epas event
    some ({ w with replicas := w.replicas.insert id r' }.writeHpa hpa)

/-! ### What an event does -/

variable {w w' : Cluster V} {id : String}

@[simp] lemma writeHpa_epas (hpa : Option Hpa) : (w.writeHpa hpa).epas = w.epas := by
  cases hpa <;> rfl

@[simp] lemma writeHpa_replicas (hpa : Option Hpa) :
    (w.writeHpa hpa).replicas = w.replicas := by
  cases hpa <;> rfl

@[simp] lemma writeHpa_inFlight (hpa : Option Hpa) :
    (w.writeHpa hpa).inFlight = w.inFlight := by
  cases hpa <;> rfl

lemma lookup_storeEpa (k : ResourceName) (epa : Epa) :
    (w.storeEpa k epa).replicas.lookup id =
      (w.replicas.lookup id).map (ReplicaState.enqueue k) :=
  lookup_mapValues _ _ _

/-- An event of a replica. -/
lemma step_replica {event : ReplicaEvent} (h : w.step (.replica id event) = some w') :
    ∃ r r' hpa, w.replicas.lookup id = some r ∧ r.step id w.epas event = some (r', hpa) ∧
      w' = { w with replicas := w.replicas.insert id r' }.writeHpa hpa := by
  obtain ⟨r, hr, h⟩ := Option.bind_eq_some_iff.1 h
  obtain ⟨⟨r', hpa⟩, hstep, h⟩ := Option.bind_eq_some_iff.1 h
  exact ⟨r, r', hpa, hr, hstep, (Option.some.inj h).symm⟩

/-- What an event does to one replica: it joins, it takes a step, or at most a reconcile is
queued for it. -/
lemma step_cases {e : Event} {r' : ReplicaState V} (h : w.step e = some w')
    (hr' : w'.replicas.lookup id = some r') :
    (∃ sets, e = .join id sets ∧ r' = .start sets w.epas.keys) ∨
    ∃ r, w.replicas.lookup id = some r ∧
      ((∃ event hpa, e = .replica id event ∧ r.step id w.epas event = some (r', hpa)) ∨
        r' = r ∨ ∃ k, r' = r.enqueue k) := by
  cases e with
  | putEpa epa =>
      simp only [step] at h
      split at h
      · rename_i k hk
        obtain rfl := Option.some.inj h
        rw [lookup_storeEpa] at hr'
        obtain ⟨r, hr, rfl⟩ := Option.map_eq_some_iff.1 hr'
        exact .inr ⟨r, hr, .inr (.inr ⟨k, rfl⟩)⟩
      · cases h
  | terminateEpa k timestamp =>
      obtain ⟨epa, -, h⟩ := Option.bind_eq_some_iff.1 h
      obtain rfl := Option.some.inj h
      rw [lookup_storeEpa] at hr'
      obtain ⟨r, hr, rfl⟩ := Option.map_eq_some_iff.1 hr'
      exact .inr ⟨r, hr, .inr (.inr ⟨k, rfl⟩)⟩
  | removeEpa k =>
      obtain rfl := Option.some.inj h
      exact .inr ⟨r', hr', .inr (.inl rfl)⟩
  | collectHpa k =>
      obtain ⟨hpa, -, h⟩ := Option.bind_eq_some_iff.1 h
      split at h
      · cases h
      · obtain rfl := Option.some.inj h
        exact .inr ⟨r', hr', .inr (.inl rfl)⟩
  | land i =>
      obtain ⟨hpa, -, h⟩ := Option.bind_eq_some_iff.1 h
      obtain rfl := Option.some.inj h
      exact .inr ⟨r', by simpa using hr', .inr (.inl rfl)⟩
  | join id' sets =>
      simp only [step] at h
      split at h
      · cases h
      · obtain rfl := Option.some.inj h
        rcases lookup_insert_eq_some_iff.1 hr' with ⟨rfl, rfl⟩ | ⟨-, hr'⟩
        · exact .inl ⟨sets, rfl, rfl⟩
        · exact .inr ⟨r', hr', .inr (.inl rfl)⟩
  | leave id' =>
      obtain ⟨r, -, h⟩ := Option.bind_eq_some_iff.1 h
      obtain rfl := Option.some.inj h
      obtain ⟨-, hr'⟩ := lookup_erase_eq_some_iff.1 hr'
      exact .inr ⟨r', hr', .inr (.inl rfl)⟩
  | replica id' event =>
      obtain ⟨r, r₁, hpa, hr, hstep, rfl⟩ := step_replica h
      rw [writeHpa_replicas] at hr'
      rcases lookup_insert_eq_some_iff.1 hr' with ⟨rfl, rfl⟩ | ⟨-, hr'⟩
      · exact .inr ⟨r, hr, .inl ⟨event, hpa, rfl, hstep⟩⟩
      · exact .inr ⟨r', hr', .inr (.inl rfl)⟩

end Cluster

/-- The replicas and the API, from an empty cluster. -/
def reconcileSystem (V : Type) : System (Cluster V) Event where
  init w := w = ⟨∅, ∅, ∅, []⟩
  step := Cluster.step

/-- A view of two replicas, of which `replica-b` owns `default/web`. -/
def bothActive : ReplicaSets := ⟨⟨["replica-a", "replica-b"], by decide⟩, .empty, false⟩

end ExternalPodAutoscaler.Controller
