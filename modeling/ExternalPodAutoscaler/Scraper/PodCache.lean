/-
The cache of pod reflectors (`scraper/pod_cache.rs`).

A call of `ensure_namespace` that finds no store for its namespace sets the starting flag of the
namespace, spawns a reflector, waits for its first list, publishes its store or aborts it, and
clears the flag.  A reflector whose stream ends removes the store of the namespace, and then clears
the flag as well.  The calls and the reflectors take these steps in any order.  What is done under
the lock of the flags is one step: nothing else reads or writes a flag in the meantime, and the
store is read once.

The main result of this file is `live_stores_unless_overtaken`: in every run in which a start is
registered only when the reflectors of the namespace that are ending have ended and the calls that
started them have returned, and a store is published only while its reflector has not yet run its
eviction, there is at most one reflector for each namespace, and every store belongs to a reflector
that is alive or about to run its eviction.  Without the two conditions the cache serves the store
of a reflector that has ended for ever, or has two reflectors (`dead_store_published`).
-/
import Mathlib.Data.Finset.Basic
import Mathlib.Logic.Function.Basic
import Mathlib.Tactic.Common
import ExternalPodAutoscaler.Lib.Transition

namespace ExternalPodAutoscaler.Scraper

open ExternalPodAutoscaler.Lib

/-! ### Calls and reflectors -/

/-- How far a call of `ensure_namespace` has come. -/
inductive EnsureStage where
  | called
  /-- It has found no store. -/
  | missed
  /-- Another call has set the flag; it waits for the store. -/
  | waiting
  /-- It has set the flag. -/
  | flagged
  /-- It has spawned a reflector, and waits for the first list. -/
  | awaiting (task : ℕ)
  /-- The first list is there. -/
  | publishing (task : ℕ)
  /-- The time is out, or the stream has been dropped. -/
  | aborting (task : ℕ)
  /-- It has published the store or aborted the reflector, and the flag is to be cleared. -/
  | clearing (task : ℕ)
deriving DecidableEq

/-- A call of `ensure_namespace` under way. -/
structure EnsureCall where
  ns : String
  stage : EnsureStage
deriving DecidableEq

/-- How far a reflector has come. -/
inductive ReflectorPhase where
  | watching
  /-- The stream has ended; the store is to be removed. -/
  | evicting
  /-- The store is removed; the flag is to be cleared. -/
  | unflagging
  | finished
deriving DecidableEq

/-- The task of a reflector. -/
structure Reflector where
  ns : String
  phase : ReflectorPhase
  /-- The first list has filled the store. -/
  synced : Bool
  /-- `abort` was called. -/
  aborted : Bool
deriving DecidableEq

/-- The cache, the calls under way and the reflectors spawned so far. -/
structure PodCache where
  /-- The reflector whose store is published for a namespace. -/
  stores : String → Option ℕ
  starting : Finset String
  calls : ℕ → Option EnsureCall
  tasks : ℕ → Option Reflector
  spawned : ℕ

inductive PodCacheEvent where
  | call (c : ℕ) (ns : String)
  /-- The look at the stores without the lock. -/
  | check (c : ℕ)
  /-- The section under the lock. -/
  | enter (c : ℕ)
  /-- A waiting call finds the store, or its time is out. -/
  | leave (c : ℕ)
  | spawn (c : ℕ)
  | ready (c : ℕ)
  | giveUp (c : ℕ)
  | publish (c : ℕ)
  | abort (c : ℕ)
  | clear (c : ℕ)
  /-- The first list of a reflector arrives. -/
  | sync (t : ℕ)
  | streamEnd (t : ℕ)
  | evict (t : ℕ)
  | unflag (t : ℕ)
  /-- An aborted task is dropped. -/
  | cancel (t : ℕ)

namespace PodCache

/-- `PodCache::new`. -/
def new : PodCache := ⟨fun _ => none, ∅, fun _ => none, fun _ => none, 0⟩

def setCall (s : PodCache) (c : ℕ) (call : Option EnsureCall) : PodCache :=
  { s with calls := Function.update s.calls c call }

def setTask (s : PodCache) (t : ℕ) (r : Reflector) : PodCache :=
  { s with tasks := Function.update s.tasks t (some r) }

/-! ### `ensure_namespace` -/

def call (s : PodCache) (c : ℕ) (ns : String) : Option PodCache :=
  match s.calls c with
  | none => some (s.setCall c (some ⟨ns, .called⟩))
  | some _ => none

def check (s : PodCache) (c : ℕ) : Option PodCache :=
  match s.calls c with
  | some ⟨ns, .called⟩ =>
    match s.stores ns with
    | some _ => some (s.setCall c none)
    | none => some (s.setCall c (some ⟨ns, .missed⟩))
  | _ => none

def enter (s : PodCache) (c : ℕ) : Option PodCache :=
  match s.calls c with
  | some ⟨ns, .missed⟩ =>
    match s.stores ns with
    | some _ => some (s.setCall c none)
    | none =>
      if ns ∈ s.starting then some (s.setCall c (some ⟨ns, .waiting⟩))
      else some { s.setCall c (some ⟨ns, .flagged⟩) with starting := insert ns s.starting }
  | _ => none

def leave (s : PodCache) (c : ℕ) : Option PodCache :=
  match s.calls c with
  | some ⟨_, .waiting⟩ => some (s.setCall c none)
  | _ => none

def spawn (s : PodCache) (c : ℕ) : Option PodCache :=
  match s.calls c with
  | some ⟨ns, .flagged⟩ =>
    some { (s.setCall c (some ⟨ns, .awaiting s.spawned⟩)).setTask s.spawned
      ⟨ns, .watching, false, false⟩ with spawned := s.spawned + 1 }
  | _ => none

/-- The end of `wait_until_ready`, with or without the first list. -/
def awaited (s : PodCache) (c : ℕ) (synced : Bool) : Option PodCache :=
  match s.calls c with
  | some ⟨ns, .awaiting t⟩ =>
    if (s.tasks t).any (·.synced == synced) then
      some (s.setCall c (some ⟨ns, if synced then .publishing t else .aborting t⟩))
    else none
  | _ => none

def publish (s : PodCache) (c : ℕ) : Option PodCache :=
  match s.calls c with
  | some ⟨ns, .publishing t⟩ =>
    some { s.setCall c (some ⟨ns, .clearing t⟩) with
      stores := Function.update s.stores ns (some t) }
  | _ => none

def abort (s : PodCache) (c : ℕ) : Option PodCache :=
  match s.calls c with
  | some ⟨ns, .aborting t⟩ =>
    (s.tasks t).map fun r =>
      (s.setCall c (some ⟨ns, .clearing t⟩)).setTask t { r with aborted := true }
  | _ => none

def clear (s : PodCache) (c : ℕ) : Option PodCache :=
  match s.calls c with
  | some ⟨ns, .clearing _⟩ => some { s.setCall c none with starting := s.starting.erase ns }
  | _ => none

/-! ### The reflector -/

def sync (s : PodCache) (t : ℕ) : Option PodCache :=
  match s.tasks t with
  | some r => if r.phase = .watching then some (s.setTask t { r with synced := true }) else none
  | none => none

def streamEnd (s : PodCache) (t : ℕ) : Option PodCache :=
  match s.tasks t with
  | some r => if r.phase = .watching then some (s.setTask t { r with phase := .evicting }) else none
  | none => none

def evict (s : PodCache) (t : ℕ) : Option PodCache :=
  match s.tasks t with
  | some r =>
    if r.phase = .evicting then
      some { s.setTask t { r with phase := .unflagging } with
        stores := Function.update s.stores r.ns none }
    else none
  | none => none

def unflag (s : PodCache) (t : ℕ) : Option PodCache :=
  match s.tasks t with
  | some r =>
    if r.phase = .unflagging then
      some { s.setTask t { r with phase := .finished } with starting := s.starting.erase r.ns }
    else none
  | none => none

def cancel (s : PodCache) (t : ℕ) : Option PodCache :=
  match s.tasks t with
  | some r =>
    -- a task is dropped where it waits: for the stream or for the lock
    if r.aborted ∧ (r.phase = .watching ∨ r.phase = .unflagging) then
      some (s.setTask t { r with phase := .finished })
    else none
  | none => none

/-- The reflector whose store `get_ready_pods` reads. -/
def getReadyPods (s : PodCache) (ns : String) : Option ℕ := s.stores ns

end PodCache

/-- The cache, from an empty one. -/
def podCacheSystem : System PodCache PodCacheEvent where
  init s := s = .new
  step s
    | .call c ns => s.call c ns
    | .check c => s.check c
    | .enter c => s.enter c
    | .leave c => s.leave c
    | .spawn c => s.spawn c
    | .ready c => s.awaited c true
    | .giveUp c => s.awaited c false
    | .publish c => s.publish c
    | .abort c => s.abort c
    | .clear c => s.clear c
    | .sync t => s.sync t
    | .streamEnd t => s.streamEnd t
    | .evict t => s.evict t
    | .unflag t => s.unflag t
    | .cancel t => s.cancel t

/-! ### The property and its conditions -/

/-- The task has not ended. -/
def Reflector.Alive (r : Reflector) : Prop := r.phase ≠ .finished

/-- The stream has ended or the task was aborted. -/
def Reflector.Left (r : Reflector) : Prop := r.phase ≠ .watching ∨ r.aborted = true

/-- The store is updated, or is about to be removed. -/
def Reflector.Serves (r : Reflector) : Prop := r.phase = .watching ∨ r.phase = .evicting

lemma Reflector.Serves.alive {r : Reflector} (h : r.Serves) : r.Alive := by
  intro hphase
  rw [Reflector.Serves, hphase] at h
  rcases h with h | h <;> cases h

/-- The reflector that a call has spawned. -/
def EnsureStage.task : EnsureStage → Option ℕ
  | .awaiting t | .publishing t | .aborting t | .clearing t => some t
  | _ => none

namespace PodCache

/-- At most one reflector of a namespace is alive, and every store that can be read belongs to one
that is alive and has not run its eviction. -/
structure ServesLive (s : PodCache) : Prop where
  single : ∀ t t' r r', s.tasks t = some r → s.tasks t' = some r' → r.ns = r'.ns →
    r.Alive → r'.Alive → t = t'
  live : ∀ ns t, s.getReadyPods ns = some t → ∃ r, s.tasks t = some r ∧ r.ns = ns ∧ r.Serves

/-- The reflectors of the namespace that are ending have ended, and the calls that started them
have returned. -/
structure Settled (s : PodCache) (ns : String) : Prop where
  ended : ∀ t r, s.tasks t = some r → r.ns = ns → r.Left → ¬ r.Alive
  returned : ∀ c call t r, s.calls c = some call → call.stage.task = some t →
    s.tasks t = some r → r.ns = ns → ¬ r.Left

end PodCache

/-- A start is registered when the namespace is settled, and a store is published when its
reflector has not run its eviction. -/
def NotOvertaken (s : PodCache) : PodCacheEvent → Prop
  | .enter c => ∀ call, s.calls c = some call → s.stores call.ns = none →
      call.ns ∉ s.starting → s.Settled call.ns
  | .publish c => ∀ call t r, s.calls c = some call → call.stage = .publishing t →
      s.tasks t = some r → r.Serves
  | _ => True

/-! ### The invariant -/

namespace EnsureStage

/-- The call has set the flag and not yet cleared it. -/
def starts : EnsureStage → Bool
  | .called | .missed | .waiting => false
  | _ => true

/-- The reflector that a call has spawned and neither published nor aborted. -/
def unpublished : EnsureStage → Option ℕ
  | .awaiting t | .publishing t | .aborting t => some t
  | _ => none

lemma task_of_unpublished {stage : EnsureStage} {t : ℕ} (h : stage.unpublished = some t) :
    stage.task = some t := by
  cases stage <;> simp_all [unpublished, task]

lemma starts_of_task {stage : EnsureStage} {t : ℕ} (h : stage.task = some t) :
    stage.starts = true := by
  cases stage <;> simp_all [starts, task]

end EnsureStage

namespace PodCache

variable {s s' : PodCache} {c t : ℕ} {r : Reflector}

lemma setCall_calls (s : PodCache) (c c' : ℕ) (call : Option EnsureCall) :
    (s.setCall c call).calls c' = if c' = c then call else s.calls c' := by
  simp [setCall, Function.update_apply]

lemma setCall_self (s : PodCache) (c : ℕ) (call : Option EnsureCall) :
    (s.setCall c call).calls c = call := by
  rw [setCall_calls, if_pos rfl]

lemma setTask_tasks (s : PodCache) (t t' : ℕ) (r : Reflector) :
    (s.setTask t r).tasks t' = if t' = t then some r else s.tasks t' := by
  simp [setTask, Function.update_apply]

/-- The call is starting a reflector of the namespace, and has spawned `task`. -/
def Starts (s : PodCache) (c : ℕ) (ns : String) (task : Option ℕ) : Prop :=
  ∃ stage, s.calls c = some ⟨ns, stage⟩ ∧ stage.starts = true ∧ stage.task = task

/-- The call is going to publish or to abort the reflector. -/
def Unpublished (s : PodCache) (c : ℕ) (ns : String) (t : ℕ) : Prop :=
  ∃ stage, s.calls c = some ⟨ns, stage⟩ ∧ stage.unpublished = some t

/-- Who starts what: reflectors belong to the namespace of the call that has spawned them, and
neither two starts nor two reflectors of a namespace go on at a time. -/
structure Owned (s : PodCache) : Prop where
  fresh : ∀ t r, s.tasks t = some r → t < s.spawned
  spawnedBy : ∀ c ns t, s.Starts c ns (some t) → ∃ r, s.tasks t = some r ∧ r.ns = ns
  starter : ∀ c c' ns o o', s.Starts c ns o → s.Starts c' ns o' → c = c'
  single : ∀ t t' r r', s.tasks t = some r → s.tasks t' = some r' → r.ns = r'.ns →
    r.Alive → r'.Alive → t = t'
  /-- While a call starts a reflector, no other one of the namespace is alive. -/
  own : ∀ c o t r, s.Starts c r.ns o → s.tasks t = some r → r.Alive → o = some t

/-- What is published, and what the flags say. -/
structure Published (s : PodCache) : Prop where
  /-- The flag is set until the reflector has ended. -/
  flag : ∀ c ns o, s.Starts c ns o → (∀ t r, o = some t → s.tasks t = some r → r.Alive) →
    ns ∈ s.starting
  stored : ∀ ns t, s.stores ns = some t →
    ∃ r, s.tasks t = some r ∧ r.ns = ns ∧ r.Serves ∧ r.aborted = false
  /-- A reflector that watches is published, or about to be published or aborted. -/
  watched : ∀ t r, s.tasks t = some r → r.phase = .watching → r.aborted = false →
    s.stores r.ns = some t ∨ ∃ c, s.Unpublished c r.ns t
  unpublished : ∀ c ns t r, s.Unpublished c ns t → s.tasks t = some r →
    s.stores ns ≠ some t ∧ r.aborted = false

/-- What holds in every run that is in order. -/
structure Inv (s : PodCache) : Prop where
  owned : s.Owned
  published : s.Published

lemma Inv.servesLive (h : s.Inv) : s.ServesLive where
  single := h.owned.single
  live ns t hstore := by
    obtain ⟨r, hr, hns, hserves, -⟩ := h.published.stored ns t hstore
    exact ⟨r, hr, hns, hserves⟩

lemma not_starts_new {ns : String} {o : Option ℕ} : ¬ new.Starts c ns o := by
  rintro ⟨stage, hcall, -⟩
  cases hcall

lemma Inv.init : new.Inv where
  owned :=
    { fresh := nofun
      spawnedBy := fun _ _ _ h => absurd h not_starts_new
      starter := fun _ _ _ _ _ h => absurd h not_starts_new
      single := nofun
      own := fun _ _ _ _ h => absurd h not_starts_new }
  published :=
    { flag := fun _ _ _ h => absurd h not_starts_new
      stored := nofun
      watched := nofun
      unpublished := nofun }

lemma Unpublished.starts {ns : String} (h : s.Unpublished c ns t) : s.Starts c ns (some t) := by
  obtain ⟨stage, hcall, hstage⟩ := h
  have htask := EnsureStage.task_of_unpublished hstage
  exact ⟨stage, hcall, EnsureStage.starts_of_task htask, htask⟩

lemma Owned.ns_eq {ns : String} (h : s.Owned) (hstarts : s.Starts c ns (some t))
    (hr : s.tasks t = some r) : r.ns = ns := by
  obtain ⟨r', hr', hns⟩ := h.spawnedBy c ns t hstarts
  obtain rfl := Option.some.inj (hr.symm.trans hr')
  exact hns

lemma Published.of_stored {ns : String} (h : s.Published) (hstore : s.stores ns = some t)
    (hr : s.tasks t = some r) : r.ns = ns ∧ r.Serves ∧ r.aborted = false := by
  obtain ⟨r', hr', hfacts⟩ := h.stored ns t hstore
  obtain rfl := Option.some.inj (hr.symm.trans hr')
  exact hfacts

/-! ### Steps that start nothing -/

/-- Nothing is spawned or started: the tasks of `s'` are those of `s`, as far as they have come, and
its starts are starts of `s`. -/
structure Follows (s s' : PodCache) : Prop where
  spawned : s'.spawned = s.spawned
  task : ∀ t r', s'.tasks t = some r' →
    ∃ r, s.tasks t = some r ∧ r'.ns = r.ns ∧ (r'.Alive → r.Alive)
  kept : ∀ t r, s.tasks t = some r → ∃ r', s'.tasks t = some r' ∧ r'.ns = r.ns
  start : ∀ c ns o, s'.Starts c ns o → s.Starts c ns o

lemma Follows.trans {s₁ : PodCache} (h : s.Follows s₁) (h' : s₁.Follows s') : s.Follows s' where
  spawned := h'.spawned.trans h.spawned
  task t r' hr' := by
    obtain ⟨r₁, hr₁, hns₁, halive₁⟩ := h'.task t r' hr'
    obtain ⟨r, hr, hns, halive⟩ := h.task t r₁ hr₁
    exact ⟨r, hr, hns₁.trans hns, halive ∘ halive₁⟩
  kept t r hr := by
    obtain ⟨r₁, hr₁, hns₁⟩ := h.kept t r hr
    obtain ⟨r', hr', hns'⟩ := h'.kept t r₁ hr₁
    exact ⟨r', hr', hns'.trans hns₁⟩
  start c ns o hstarts := h.start c ns o (h'.start c ns o hstarts)

lemma Owned.follows (h : s.Owned) (hs : s.Follows s') : s'.Owned where
  fresh t r' hr' := by
    obtain ⟨r, hr, -⟩ := hs.task t r' hr'
    rw [hs.spawned]
    exact h.fresh t r hr
  spawnedBy c ns t hstarts := by
    obtain ⟨r, hr, hns⟩ := h.spawnedBy c ns t (hs.start _ _ _ hstarts)
    obtain ⟨r', hr', hns'⟩ := hs.kept t r hr
    exact ⟨r', hr', hns'.trans hns⟩
  starter c c' ns o o' h₁ h₂ := h.starter c c' ns o o' (hs.start _ _ _ h₁) (hs.start _ _ _ h₂)
  single t₁ t₂ r₁' r₂' h₁ h₂ heq ha₁ ha₂ := by
    obtain ⟨r₁, hr₁, hns₁, halive₁⟩ := hs.task t₁ r₁' h₁
    obtain ⟨r₂, hr₂, hns₂, halive₂⟩ := hs.task t₂ r₂' h₂
    exact h.single t₁ t₂ r₁ r₂ hr₁ hr₂ (by rw [← hns₁, heq, hns₂]) (halive₁ ha₁) (halive₂ ha₂)
  own c o t r' hstarts hr' ha := by
    obtain ⟨r, hr, hns, halive⟩ := hs.task t r' hr'
    exact h.own c o t r (hs.start _ _ _ (hns ▸ hstarts)) hr (halive ha)

/-- The flag of a start that goes on was set before. -/
lemma Published.flag_of_follows (h : s.Published) (hs : s.Follows s') {ns : String}
    {o : Option ℕ} (hstarts : s'.Starts c ns o)
    (halive : ∀ t r, o = some t → s'.tasks t = some r → r.Alive) : ns ∈ s.starting := by
  refine h.flag c ns o (hs.start _ _ _ hstarts) fun t r ho hr => ?_
  obtain ⟨r', hr', -⟩ := hs.kept t r hr
  obtain ⟨r₁, hr₁, -, himp⟩ := hs.task t r' hr'
  obtain rfl := Option.some.inj (hr.symm.trans hr₁)
  exact himp (halive t r' ho hr')

/-! ### Steps of calls -/

lemma starts_setCall_of_ne {x : Option EnsureCall} {c' : ℕ} {ns : String} {o : Option ℕ}
    (hc : c' ≠ c) : (s.setCall c x).Starts c' ns o ↔ s.Starts c' ns o := by
  simp [Starts, setCall_calls, hc]

lemma unpublished_setCall_of_ne {x : Option EnsureCall} {c' : ℕ} {ns : String}
    (hc : c' ≠ c) : (s.setCall c x).Unpublished c' ns t ↔ s.Unpublished c' ns t := by
  simp [Unpublished, setCall_calls, hc]

/-- A call goes on, and its start with it. -/
lemma follows_setCall {x : Option EnsureCall}
    (hstart : ∀ ns o, (s.setCall c x).Starts c ns o → s.Starts c ns o) :
    s.Follows (s.setCall c x) where
  spawned := rfl
  task t r hr := ⟨r, hr, rfl, id⟩
  kept t r hr := ⟨r, hr, rfl⟩
  start c' ns o hstarts := by
    by_cases hc : c' = c
    · subst hc
      exact hstart ns o hstarts
    · exact (starts_setCall_of_ne hc).1 hstarts

/-- A call goes on and changes nothing else. -/
lemma Inv.setCall {x : Option EnsureCall} (h : s.Inv)
    (hstart : ∀ ns o, (s.setCall c x).Starts c ns o → s.Starts c ns o)
    (hunpublished : ∀ ns t, (s.setCall c x).Unpublished c ns t ↔ s.Unpublished c ns t) :
    (s.setCall c x).Inv := by
  have hfollows := follows_setCall hstart
  have hsame : ∀ c' ns t, (s.setCall c x).Unpublished c' ns t ↔ s.Unpublished c' ns t := by
    intro c' ns t
    by_cases hc : c' = c
    · subst hc
      exact hunpublished ns t
    · exact unpublished_setCall_of_ne hc
  refine ⟨h.owned.follows hfollows, ?_⟩
  exact
    { flag := fun c' ns o => h.published.flag_of_follows hfollows
      stored := h.published.stored
      watched := fun t r hr hphase haborted => by
        simp only [hsame]
        exact h.published.watched t r hr hphase haborted
      unpublished := fun c' ns t r hunp =>
        h.published.unpublished c' ns t r ((hsame _ _ _).1 hunp) }

/-- A call that is not starting a reflector goes on. -/
lemma Inv.setCall_idle {x : Option EnsureCall} (h : s.Inv)
    (hold : ∀ call, s.calls c = some call → call.stage.starts = false)
    (hnew : ∀ call, x = some call → call.stage.starts = false) : (s.setCall c x).Inv := by
  have hnone : ∀ ns o, ¬ (s.setCall c x).Starts c ns o := by
    rintro ns o ⟨stage, hcall, hstarts, -⟩
    rw [setCall_calls, if_pos rfl] at hcall
    rw [hnew _ hcall] at hstarts
    cases hstarts
  refine h.setCall (fun ns o hstarts => absurd hstarts (hnone ns o)) fun ns t => ?_
  refine iff_of_false (fun hunp => hnone ns _ hunp.starts) fun hunp => ?_
  obtain ⟨stage, hcall, hstarts, -⟩ := hunp.starts
  rw [hold _ hcall] at hstarts
  cases hstarts

lemma Inv.call {ns : String} (h : s.Inv) (hs : s.call c ns = some s') : s'.Inv := by
  unfold PodCache.call at hs
  split at hs
  · rename_i hcall
    obtain rfl := Option.some.inj hs
    refine h.setCall_idle (fun call hcall' => ?_) ?_
    · rw [hcall] at hcall'
      cases hcall'
    · rintro call ⟨⟩
      rfl
  · cases hs

/-- The cases of a call in a stage that starts nothing. -/
lemma starts_eq_false {stage : EnsureStage} {ns : String}
    (hcall : s.calls c = some ⟨ns, stage⟩) (hstage : stage.starts = false) :
    ∀ call, s.calls c = some call → call.stage.starts = false := by
  intro call hcall'
  obtain rfl := Option.some.inj (hcall.symm.trans hcall')
  exact hstage

lemma Inv.check (h : s.Inv) (hs : s.check c = some s') : s'.Inv := by
  unfold PodCache.check at hs
  split at hs
  · rename_i ns hcall
    split at hs
    · obtain rfl := Option.some.inj hs
      exact h.setCall_idle (starts_eq_false hcall rfl) nofun
    · obtain rfl := Option.some.inj hs
      refine h.setCall_idle (starts_eq_false hcall rfl) ?_
      rintro call ⟨⟩
      rfl
  · cases hs

lemma Inv.leave (h : s.Inv) (hs : s.leave c = some s') : s'.Inv := by
  unfold PodCache.leave at hs
  split at hs
  · rename_i ns hcall
    obtain rfl := Option.some.inj hs
    exact h.setCall_idle (starts_eq_false hcall rfl) nofun
  · cases hs

/-- A start goes on with the same reflector. -/
lemma starts_setCall {stage stage' : EnsureStage} {ns : String}
    (hcall : s.calls c = some ⟨ns, stage⟩) (hstarts : stage.starts = true)
    (htask : stage'.task = stage.task) :
    ∀ ns' o, (s.setCall c (some ⟨ns, stage'⟩)).Starts c ns' o → s.Starts c ns' o := by
  rintro ns' o ⟨stage₁, hcall', -, ho⟩
  rw [setCall_calls, if_pos rfl] at hcall'
  obtain ⟨rfl, rfl⟩ : ns = ns' ∧ stage' = stage₁ := by simpa using hcall'
  exact ⟨stage, hcall, hstarts, by rw [← htask, ho]⟩

lemma unpublished_setCall {stage stage' : EnsureStage} {ns : String}
    (hcall : s.calls c = some ⟨ns, stage⟩) (hsame : stage'.unpublished = stage.unpublished) :
    ∀ ns' t, (s.setCall c (some ⟨ns, stage'⟩)).Unpublished c ns' t ↔ s.Unpublished c ns' t := by
  intro ns' t
  simp [Unpublished, setCall_calls, hcall, hsame]

lemma Inv.awaited {synced : Bool} (h : s.Inv) (hs : s.awaited c synced = some s') : s'.Inv := by
  unfold PodCache.awaited at hs
  split at hs
  · rename_i ns t hcall
    split at hs
    · obtain rfl := Option.some.inj hs
      cases synced
      · exact h.setCall (starts_setCall hcall rfl rfl) (unpublished_setCall hcall rfl)
      · exact h.setCall (starts_setCall hcall rfl rfl) (unpublished_setCall hcall rfl)
    · cases hs
  · cases hs

/-- The stage of a call determines what it is starting. -/
lemma starts_iff {stage : EnsureStage} {ns ns' : String} {o : Option ℕ}
    (hcall : s.calls c = some ⟨ns, stage⟩) :
    s.Starts c ns' o ↔ ns' = ns ∧ stage.starts = true ∧ stage.task = o := by
  simp only [Starts, hcall, Option.some.injEq, EnsureCall.mk.injEq]
  constructor
  · rintro ⟨stage', ⟨rfl, rfl⟩, hstarts⟩
    exact ⟨rfl, hstarts⟩
  · rintro ⟨rfl, hstarts⟩
    exact ⟨stage, ⟨rfl, rfl⟩, hstarts⟩

lemma unpublished_iff {stage : EnsureStage} {ns ns' : String}
    (hcall : s.calls c = some ⟨ns, stage⟩) :
    s.Unpublished c ns' t ↔ ns' = ns ∧ stage.unpublished = some t := by
  simp only [Unpublished, hcall, Option.some.injEq, EnsureCall.mk.injEq]
  constructor
  · rintro ⟨stage', ⟨rfl, rfl⟩, hstage⟩
    exact ⟨rfl, hstage⟩
  · rintro ⟨rfl, hstage⟩
    exact ⟨stage, ⟨rfl, rfl⟩, hstage⟩

/-- After a step of a call it is starting what its new stage says; another one goes on. -/
lemma starts_setCall_cases {stage : EnsureStage} {ns ns' : String} {c' : ℕ} {o : Option ℕ}
    (h : (s.setCall c (some ⟨ns, stage⟩)).Starts c' ns' o) :
    c' = c ∧ ns' = ns ∧ o = stage.task ∨ c' ≠ c ∧ s.Starts c' ns' o := by
  by_cases hc : c' = c
  · subst hc
    obtain ⟨hns, -, ho⟩ := (starts_iff (setCall_self _ _ _)).1 h
    exact Or.inl ⟨rfl, hns, ho.symm⟩
  · exact Or.inr ⟨hc, (starts_setCall_of_ne hc).1 h⟩

/-- A call that has published or aborted its reflector is not going to do so again. -/
lemma of_unpublished_clearing {ns ns' : String} {c' t' : ℕ}
    (h : (s.setCall c (some ⟨ns, .clearing t⟩)).Unpublished c' ns' t') :
    c' ≠ c ∧ s.Unpublished c' ns' t' := by
  have hc : c' ≠ c := by
    rintro rfl
    have hstage := ((unpublished_iff (s := s.setCall c' _)
      (setCall_self _ _ _)).1 h).2
    cases hstage
  exact ⟨hc, (unpublished_setCall_of_ne hc).1 h⟩

lemma Inv.publish (h : s.Inv) (hserves : ∀ call t r, s.calls c = some call →
    call.stage = .publishing t → s.tasks t = some r → r.Serves)
    (hs : s.publish c = some s') : s'.Inv := by
  unfold PodCache.publish at hs
  split at hs
  · rename_i ns t hcall
    obtain rfl := Option.some.inj hs
    have hunp : s.Unpublished c ns t := (unpublished_iff hcall).2 ⟨rfl, rfl⟩
    obtain ⟨r, hr, hns⟩ := h.owned.spawnedBy c ns t hunp.starts
    have hrserves := hserves _ t r hcall rfl hr
    have hfollows : s.Follows (s.setCall c (some ⟨ns, .clearing t⟩)) :=
      follows_setCall (starts_setCall hcall rfl rfl)
    -- the other calls are about other namespaces
    have hother : ∀ c' ns' t', (s.setCall c (some ⟨ns, .clearing t⟩)).Unpublished c' ns' t' →
        ns' ≠ ns ∧ s.Unpublished c' ns' t' := by
      intro c' ns' t' hunp'
      obtain ⟨hc, hunp''⟩ := of_unpublished_clearing hunp'
      refine ⟨?_, hunp''⟩
      rintro rfl
      exact hc (h.owned.starter _ _ _ _ _ hunp''.starts hunp.starts)
    have hfollows' : s.Follows { s.setCall c (some ⟨ns, .clearing t⟩) with
        stores := Function.update s.stores ns (some t) } :=
      ⟨hfollows.spawned, hfollows.task, hfollows.kept, hfollows.start⟩
    refine ⟨h.owned.follows hfollows', ?_⟩
    exact
      { flag := fun c' ns' o => h.published.flag_of_follows hfollows'
        stored := fun ns' t' hstore => by
          by_cases heq : ns' = ns
          · subst heq
            obtain rfl : t = t' := by simpa using hstore
            exact ⟨r, hr, hns, hrserves, (h.published.unpublished c ns' t r hunp hr).2⟩
          · exact h.published.stored ns' t' (by simpa [heq] using hstore)
        watched := fun t' r' hr' hphase haborted => by
          by_cases heq : r'.ns = ns
          · -- the only reflector of the namespace that is alive
            have halive : r'.Alive := Reflector.Serves.alive (Or.inl hphase)
            obtain rfl := h.owned.single t' t r' r hr' hr (heq.trans hns.symm) halive
              hrserves.alive
            exact Or.inl (by simp [heq])
          · refine (h.published.watched t' r' hr' hphase haborted).imp ?_ ?_
            · intro hstore
              simpa [heq] using hstore
            · rintro ⟨c', hunp'⟩
              have hc : c' ≠ c := by
                rintro rfl
                exact heq ((unpublished_iff hcall).1 hunp').1
              exact ⟨c', (unpublished_setCall_of_ne hc).2 hunp'⟩
        unpublished := fun c' ns' t' r' hunp' hr' => by
          obtain ⟨hne, hunp''⟩ := hother c' ns' t' hunp'
          have hold := h.published.unpublished c' ns' t' r' hunp'' hr'
          refine ⟨?_, hold.2⟩
          simpa [hne] using hold.1 }
  · cases hs

/-! ### Steps of reflectors -/

lemma follows_setTask {r' : Reflector} (hr : s.tasks t = some r) (hns : r'.ns = r.ns)
    (halive : r'.Alive → r.Alive) : s.Follows (s.setTask t r') where
  spawned := rfl
  task t' r₁ hr₁ := by
    rw [setTask_tasks] at hr₁
    split at hr₁
    · rename_i heq
      subst heq
      obtain rfl := Option.some.inj hr₁
      exact ⟨r, hr, hns, halive⟩
    · exact ⟨r₁, hr₁, rfl, id⟩
  kept t' r₁ hr₁ := by
    rw [setTask_tasks]
    split
    · rename_i heq
      subst heq
      obtain rfl := Option.some.inj (hr.symm.trans hr₁)
      exact ⟨r', rfl, hns⟩
    · exact ⟨r₁, hr₁, rfl⟩
  start c ns o hstarts := hstarts

/-- A reflector after a step of the reflector `t`: another one is as it was. -/
lemma setTask_cases {r' r₁ : Reflector} {t₁ : ℕ} (h : (s.setTask t r').tasks t₁ = some r₁) :
    t₁ = t ∧ r₁ = r' ∨ t₁ ≠ t ∧ s.tasks t₁ = some r₁ := by
  rw [setTask_tasks] at h
  split at h
  · rename_i heq
    exact Or.inl ⟨heq, (Option.some.inj h).symm⟩
  · rename_i heq
    exact Or.inr ⟨heq, h⟩

/-- A reflector goes on and touches neither the stores nor the flags. -/
lemma Inv.setTask {r' : Reflector} (h : s.Inv) (hr : s.tasks t = some r) (hns : r'.ns = r.ns)
    (halive : r'.Alive → r.Alive) (haborted : r'.aborted = r.aborted)
    (hwatching : r'.phase = .watching → r.phase = .watching)
    (hserves : r.Serves → r.aborted = false → r'.Serves) : (s.setTask t r').Inv := by
  have hfollows := follows_setTask hr hns halive
  refine ⟨h.owned.follows hfollows, ?_⟩
  exact
    { flag := fun c ns o => h.published.flag_of_follows hfollows
      stored := fun ns t' hstore => by
        by_cases heq : t' = t
        · subst heq
          obtain ⟨hns₁, hserves₁, haborted₁⟩ := h.published.of_stored hstore hr
          exact ⟨r', by rw [setTask_tasks, if_pos rfl], hns.trans hns₁,
            hserves hserves₁ haborted₁, haborted.trans haborted₁⟩
        · obtain ⟨r₁, hr₁, hrest⟩ := h.published.stored ns t' hstore
          exact ⟨r₁, by rw [setTask_tasks, if_neg heq, hr₁], hrest⟩
      watched := fun t' r₁ hr₁ hphase haborted₁ => by
        rcases setTask_cases hr₁ with ⟨rfl, rfl⟩ | ⟨-, hr₁⟩
        · rw [hns]
          exact h.published.watched t' r hr (hwatching hphase) (haborted ▸ haborted₁)
        · exact h.published.watched t' r₁ hr₁ hphase haborted₁
      unpublished := fun c ns t' r₁ hunp hr₁ => by
        rcases setTask_cases hr₁ with ⟨rfl, rfl⟩ | ⟨-, hr₁⟩
        · rw [haborted]
          exact h.published.unpublished c ns t' r hunp hr
        · exact h.published.unpublished c ns t' r₁ hunp hr₁ }

lemma Inv.sync (h : s.Inv) (hs : s.sync t = some s') : s'.Inv := by
  unfold PodCache.sync at hs
  split at hs
  · rename_i r hr
    split at hs
    · obtain rfl := Option.some.inj hs
      exact h.setTask hr rfl id rfl id fun hserves _ => hserves
    · cases hs
  · cases hs

lemma Inv.streamEnd (h : s.Inv) (hs : s.streamEnd t = some s') : s'.Inv := by
  unfold PodCache.streamEnd at hs
  split at hs
  · rename_i r hr
    split at hs
    · rename_i hphase
      obtain rfl := Option.some.inj hs
      refine h.setTask hr rfl (fun _ => ?_) rfl nofun fun _ _ => Or.inr rfl
      exact Reflector.Serves.alive (Or.inl hphase)
    · cases hs
  · cases hs

lemma Inv.cancel (h : s.Inv) (hs : s.cancel t = some s') : s'.Inv := by
  unfold PodCache.cancel at hs
  split at hs
  · rename_i r hr
    split at hs
    · rename_i hcancel
      obtain rfl := Option.some.inj hs
      refine h.setTask hr rfl (fun halive => absurd rfl halive) rfl nofun ?_
      -- an aborted reflector is not published
      intro _ haborted
      rw [haborted] at hcancel
      exact absurd hcancel.1 Bool.false_ne_true
    · cases hs
  · cases hs

lemma Inv.evict (h : s.Inv) (hs : s.evict t = some s') : s'.Inv := by
  unfold PodCache.evict at hs
  split at hs
  · rename_i r hr
    split at hs
    · rename_i hphase
      obtain rfl := Option.some.inj hs
      have hserves : r.Serves := Or.inr hphase
      have hfollows : s.Follows (s.setTask t { r with phase := .unflagging }) :=
        follows_setTask hr rfl fun _ => hserves.alive
      have hfollows' : s.Follows { s.setTask t { r with phase := .unflagging } with
          stores := Function.update s.stores r.ns none } :=
        ⟨hfollows.spawned, hfollows.task, hfollows.kept, hfollows.start⟩
      refine ⟨h.owned.follows hfollows', ?_⟩
      exact
        { flag := fun c ns o => h.published.flag_of_follows hfollows'
          stored := fun ns t' hstore => by
            have hne : ns ≠ r.ns := by
              rintro rfl
              simp at hstore
            have hstore' : s.stores ns = some t' := by simpa [hne] using hstore
            have hne' : t' ≠ t := by
              rintro rfl
              exact hne (h.published.of_stored hstore' hr).1.symm
            obtain ⟨r₁, hr₁, hrest⟩ := h.published.stored ns t' hstore'
            exact ⟨r₁, by rw [setTask_tasks, if_neg hne', hr₁], hrest⟩
          watched := fun t' r₁ hr₁ hphase₁ haborted₁ => by
            rcases setTask_cases hr₁ with ⟨rfl, rfl⟩ | ⟨hne, hr₁⟩
            · cases hphase₁
            · refine (h.published.watched t' r₁ hr₁ hphase₁ haborted₁).imp_left fun hstore => ?_
              have halive : r₁.Alive := Reflector.Serves.alive (Or.inl hphase₁)
              have hns : r₁.ns ≠ r.ns := fun heq =>
                hne (h.owned.single t' t r₁ r hr₁ hr heq halive hserves.alive)
              simpa [hns] using hstore
          unpublished := fun c ns t' r₁ hunp hr₁ => by
            have hold : s.stores ns ≠ some t' ∧ r₁.aborted = false := by
              rcases setTask_cases hr₁ with ⟨rfl, rfl⟩ | ⟨-, hr₁⟩
              · exact h.published.unpublished c ns t' r hunp hr
              · exact h.published.unpublished c ns t' r₁ hunp hr₁
            refine ⟨?_, hold.2⟩
            by_cases heq : ns = r.ns
            · simp [heq]
            · simpa [heq] using hold.1 }
    · cases hs
  · cases hs

lemma Inv.unflag (h : s.Inv) (hs : s.unflag t = some s') : s'.Inv := by
  unfold PodCache.unflag at hs
  split at hs
  · rename_i r hr
    split at hs
    · rename_i hphase
      obtain rfl := Option.some.inj hs
      have halive : r.Alive := by
        rw [Reflector.Alive, hphase]
        exact nofun
      have hinv : (s.setTask t { r with phase := .finished }).Inv := by
        refine h.setTask hr rfl (fun _ => halive) rfl nofun fun hserves => ?_
        rw [Reflector.Serves, hphase] at hserves
        rcases hserves with hserves | hserves <;> cases hserves
      have howned := hinv.owned
      refine ⟨⟨howned.fresh, howned.spawnedBy, howned.starter, howned.single, howned.own⟩, ?_⟩
      refine ⟨fun c ns o hstarts hall => ?_, hinv.published.stored, hinv.published.watched,
        hinv.published.unpublished⟩
      refine Finset.mem_erase.2 ⟨?_, hinv.published.flag c ns o hstarts hall⟩
      -- a start of the namespace would be the one of this reflector, which ends
      rintro rfl
      obtain rfl := h.owned.own c o t r hstarts hr halive
      exact hall t _ rfl (by rw [setTask_tasks, if_pos rfl]) rfl
    · cases hs
  · cases hs

lemma Inv.abort (h : s.Inv) (hs : s.abort c = some s') : s'.Inv := by
  unfold PodCache.abort at hs
  split at hs
  · rename_i ns t hcall
    obtain ⟨r, hr, rfl⟩ := Option.map_eq_some_iff.1 hs
    have hunp : s.Unpublished c ns t := (unpublished_iff hcall).2 ⟨rfl, rfl⟩
    have hns := h.owned.ns_eq hunp.starts hr
    have hcalls : s.Follows (s.setCall c (some ⟨ns, .clearing t⟩)) :=
      follows_setCall (starts_setCall hcall rfl rfl)
    have htasks : (s.setCall c (some ⟨ns, .clearing t⟩)).Follows
        ((s.setCall c (some ⟨ns, .clearing t⟩)).setTask t { r with aborted := true }) :=
      follows_setTask hr rfl id
    have hfollows := hcalls.trans htasks
    refine ⟨h.owned.follows hfollows, ?_⟩
    exact
      { flag := fun c' ns' o => h.published.flag_of_follows hfollows
        stored := fun ns' t' hstore => by
          have hne : t' ≠ t := by
            rintro rfl
            obtain rfl := hns.symm.trans (h.published.of_stored hstore hr).1
            exact (h.published.unpublished c _ t' r hunp hr).1 hstore
          obtain ⟨r₂, hr₂, hrest⟩ := h.published.stored ns' t' hstore
          exact ⟨r₂, (setTask_tasks _ _ _ _).trans ((if_neg hne).trans hr₂), hrest⟩
        watched := fun t' r₁ hr₁ hphase haborted => by
          rcases setTask_cases hr₁ with ⟨rfl, rfl⟩ | ⟨hne, hr₁⟩
          · cases haborted
          · refine (h.published.watched t' r₁ hr₁ hphase haborted).imp_right ?_
            rintro ⟨c', hunp'⟩
            have hc : c' ≠ c := by
              rintro rfl
              exact hne (Option.some.inj ((unpublished_iff hcall).1 hunp').2).symm
            exact ⟨c', (unpublished_setCall_of_ne hc).2 hunp'⟩
        unpublished := fun c' ns' t' r₁ hunp' hr₁ => by
          obtain ⟨hc, hunp''⟩ := of_unpublished_clearing hunp'
          rcases setTask_cases hr₁ with ⟨rfl, rfl⟩ | ⟨-, hr₁⟩
          · -- the reflector is the one of this call
            obtain rfl := hns.symm.trans (h.owned.ns_eq hunp''.starts hr)
            exact absurd (h.owned.starter _ _ _ _ _ hunp''.starts hunp.starts) hc
          · exact h.published.unpublished c' ns' t' r₁ hunp'' hr₁ }
  · cases hs

lemma Inv.clear (h : s.Inv) (hs : s.clear c = some s') : s'.Inv := by
  unfold PodCache.clear at hs
  split at hs
  · rename_i ns t hcall
    obtain rfl := Option.some.inj hs
    have hnone : ∀ ns' o, ¬ (s.setCall c none).Starts c ns' o := by
      rintro ns' o ⟨stage, hcall', -⟩
      rw [setCall_calls, if_pos rfl] at hcall'
      cases hcall'
    have hinv : (s.setCall c none).Inv := by
      refine h.setCall (fun ns' o hstarts => absurd hstarts (hnone ns' o)) fun ns' t' => ?_
      refine iff_of_false (fun hunp => hnone ns' _ hunp.starts) fun hunp => ?_
      have hstage := ((unpublished_iff hcall).1 hunp).2
      cases hstage
    have howned := hinv.owned
    refine ⟨⟨howned.fresh, howned.spawnedBy, howned.starter, howned.single, howned.own⟩, ?_⟩
    refine ⟨fun c' ns' o hstarts hall => ?_, hinv.published.stored, hinv.published.watched,
      hinv.published.unpublished⟩
    refine Finset.mem_erase.2 ⟨?_, hinv.published.flag c' ns' o hstarts hall⟩
    -- no other call is starting a reflector of the namespace
    rintro rfl
    have hc : c' ≠ c := by
      rintro rfl
      exact hnone _ _ hstarts
    have hself : s.Starts c ns' (some t) := (starts_iff hcall).2 ⟨rfl, rfl, rfl⟩
    exact hc (h.owned.starter _ _ _ _ _ ((starts_setCall_of_ne hc).1 hstarts) hself)
  · cases hs

/-! ### Steps that start something -/

/-- Where a start can be registered, nothing is being started. -/
lemma Inv.not_starts {ns : String} (h : s.Inv) (hflag : ns ∉ s.starting)
    (hsettled : s.Settled ns) (c : ℕ) (o : Option ℕ) : ¬ s.Starts c ns o := by
  intro hstarts
  refine hflag (h.published.flag c ns o hstarts ?_)
  rintro t r rfl hr
  have hns := h.owned.ns_eq hstarts hr
  obtain ⟨stage, hcall, -, htask⟩ := hstarts
  have hleft := hsettled.returned c ⟨ns, stage⟩ t r hcall htask hr hns
  rw [Reflector.Left, not_or, not_not] at hleft
  exact Reflector.Serves.alive (Or.inl hleft.1)

/-- Where a start can be registered, no reflector is alive. -/
lemma Inv.not_alive {ns : String} (h : s.Inv) (hstore : s.stores ns = none)
    (hflag : ns ∉ s.starting) (hsettled : s.Settled ns) (hr : s.tasks t = some r)
    (hns : r.ns = ns) : ¬ r.Alive := by
  by_cases hleft : r.Left
  · exact hsettled.ended t r hr hns hleft
  · rw [Reflector.Left, not_or, not_not, Bool.not_eq_true] at hleft
    rcases h.published.watched t r hr hleft.1 hleft.2 with hstored | ⟨c, hunp⟩
    · rw [hns, hstore] at hstored
      cases hstored
    · rw [hns] at hunp
      exact absurd hunp.starts (h.not_starts hflag hsettled c _)

/-- A start is registered where nothing is being started and no reflector is alive. -/
lemma Owned.register {ns : String} (h : s.Owned) (hidle : ∀ c o, ¬ s.Starts c ns o)
    (hdead : ∀ t r, s.tasks t = some r → r.ns = ns → ¬ r.Alive) (c : ℕ) :
    Owned { s.setCall c (some ⟨ns, .flagged⟩) with starting := insert ns s.starting } where
  fresh := h.fresh
  spawnedBy c' ns' t hstarts := by
    rcases starts_setCall_cases (s := s) (c := c) hstarts with ⟨-, -, ho⟩ | ⟨-, hstarts⟩
    · cases ho
    · exact h.spawnedBy c' ns' t hstarts
  starter c₁ c₂ ns' o₁ o₂ h₁ h₂ := by
    rcases starts_setCall_cases (s := s) (c := c) h₁ with ⟨hc₁, rfl, -⟩ | ⟨-, hold₁⟩
    · rcases starts_setCall_cases (s := s) (c := c) h₂ with ⟨hc₂, -⟩ | ⟨-, hold₂⟩
      · exact hc₁.trans hc₂.symm
      · exact absurd hold₂ (hidle c₂ o₂)
    · rcases starts_setCall_cases (s := s) (c := c) h₂ with ⟨-, rfl, -⟩ | ⟨-, hold₂⟩
      · exact absurd hold₁ (hidle c₁ o₁)
      · exact h.starter c₁ c₂ ns' o₁ o₂ hold₁ hold₂
  single := h.single
  own c' o t r hstarts hr halive := by
    rcases starts_setCall_cases (s := s) (c := c) hstarts with ⟨-, hns, -⟩ | ⟨-, hstarts⟩
    · exact absurd halive (hdead t r hr hns)
    · exact h.own c' o t r hstarts hr halive

lemma Published.register {ns : String} (h : s.Published)
    (hcall : s.calls c = some ⟨ns, .missed⟩) :
    Published { s.setCall c (some ⟨ns, .flagged⟩) with starting := insert ns s.starting } := by
  have hunp : ∀ c' ns' t, (s.setCall c (some ⟨ns, .flagged⟩)).Unpublished c' ns' t ↔
      s.Unpublished c' ns' t := by
    intro c' ns' t
    by_cases hc : c' = c
    · subst hc
      have hsame : EnsureStage.flagged.unpublished = EnsureStage.missed.unpublished := rfl
      exact unpublished_setCall hcall hsame ns' t
    · exact unpublished_setCall_of_ne hc
  exact
    { flag := fun c' ns' o hstarts hall => by
        rcases starts_setCall_cases (s := s) (c := c) hstarts with ⟨-, rfl, -⟩ | ⟨-, hstarts⟩
        · exact Finset.mem_insert_self _ _
        · exact Finset.mem_insert_of_mem (h.flag c' ns' o hstarts hall)
      stored := h.stored
      watched := fun t r hr hphase haborted =>
        (h.watched t r hr hphase haborted).imp_right fun ⟨c', hunp'⟩ => ⟨c', (hunp _ _ _).2 hunp'⟩
      unpublished := fun c' ns' t r hunp' => h.unpublished c' ns' t r ((hunp _ _ _).1 hunp') }

lemma Inv.enter (h : s.Inv) (hsettled : ∀ call, s.calls c = some call → s.stores call.ns = none →
    call.ns ∉ s.starting → s.Settled call.ns) (hs : s.enter c = some s') : s'.Inv := by
  unfold PodCache.enter at hs
  split at hs
  · rename_i ns hcall
    have hidle := starts_eq_false hcall rfl
    split at hs
    · obtain rfl := Option.some.inj hs
      exact h.setCall_idle hidle nofun
    · rename_i hstore
      split at hs
      · obtain rfl := Option.some.inj hs
        refine h.setCall_idle hidle ?_
        rintro call ⟨⟩
        rfl
      · rename_i hflag
        obtain rfl := Option.some.inj hs
        have hset : s.Settled ns := hsettled _ hcall hstore hflag
        have hdead : ∀ t r, s.tasks t = some r → r.ns = ns → ¬ r.Alive :=
          fun t r => h.not_alive hstore hflag hset
        exact ⟨h.owned.register (h.not_starts hflag hset) hdead c, h.published.register hcall⟩
  · cases hs

lemma spawn_eq {ns : String} (hcall : s.calls c = some ⟨ns, .flagged⟩) :
    s.spawn c = some { (s.setCall c (some ⟨ns, .awaiting s.spawned⟩)).setTask s.spawned
      ⟨ns, .watching, false, false⟩ with spawned := s.spawned + 1 } := by
  rw [PodCache.spawn, hcall]

/-- The reflectors before the spawn are kept. -/
lemma Owned.tasks_setTask {r' : Reflector} (h : s.Owned) (hr : s.tasks t = some r) :
    (s.setTask s.spawned r').tasks t = some r := by
  rw [setTask_tasks, if_neg (h.fresh t r hr).ne, hr]

lemma Owned.spawn {ns : String} (h : s.Owned) (hcall : s.calls c = some ⟨ns, .flagged⟩)
    (hs : s.spawn c = some s') : s'.Owned := by
  rw [spawn_eq hcall] at hs
  obtain rfl := Option.some.inj hs
  have hflagged : s.Starts c ns none := (starts_iff hcall).2 ⟨rfl, rfl, rfl⟩
  -- no reflector of the namespace is alive
  have hdead : ∀ t r, s.tasks t = some r → r.ns = ns → ¬ r.Alive := by
    rintro t r hr rfl halive
    cases h.own c none t r hflagged hr halive
  exact
    { fresh := fun t r hr => by
        rcases setTask_cases hr with ⟨rfl, -⟩ | ⟨-, hr⟩
        · exact Nat.lt_succ_self _
        · exact Nat.lt_succ_of_lt (h.fresh t r hr)
      spawnedBy := fun c' ns' t hstarts => by
        rcases starts_setCall_cases (s := s) (c := c) hstarts with ⟨-, rfl, ht⟩ | ⟨-, hstarts⟩
        · obtain rfl := Option.some.inj ht
          exact ⟨_, (setTask_tasks _ _ _ _).trans (if_pos rfl), rfl⟩
        · obtain ⟨r, hr, hns⟩ := h.spawnedBy c' ns' t hstarts
          exact ⟨r, h.tasks_setTask hr, hns⟩
      starter := fun c₁ c₂ ns' o₁ o₂ h₁ h₂ => by
        have hstart : ∀ c' o, (s.setCall c (some ⟨ns, .awaiting s.spawned⟩)).Starts c' ns' o →
            ∃ o', s.Starts c' ns' o' := by
          intro c' o hstarts
          rcases starts_setCall_cases hstarts with ⟨rfl, rfl, -⟩ | ⟨-, hstarts⟩
          · exact ⟨none, hflagged⟩
          · exact ⟨o, hstarts⟩
        obtain ⟨o₁', h₁'⟩ := hstart c₁ o₁ h₁
        obtain ⟨o₂', h₂'⟩ := hstart c₂ o₂ h₂
        exact h.starter c₁ c₂ ns' o₁' o₂' h₁' h₂'
      single := fun t₁ t₂ r₁ r₂ h₁ h₂ heq ha₁ ha₂ => by
        rcases setTask_cases h₁ with ⟨rfl, rfl⟩ | ⟨-, h₁⟩
        · rcases setTask_cases h₂ with ⟨rfl, rfl⟩ | ⟨-, h₂⟩
          · rfl
          · exact absurd ha₂ (hdead t₂ r₂ h₂ heq.symm)
        · rcases setTask_cases h₂ with ⟨rfl, rfl⟩ | ⟨-, h₂⟩
          · exact absurd ha₁ (hdead t₁ r₁ h₁ heq)
          · exact h.single t₁ t₂ r₁ r₂ h₁ h₂ heq ha₁ ha₂
      own := fun c' o t r hstarts hr halive => by
        rcases starts_setCall_cases (s := s) (c := c) hstarts with ⟨-, hns, rfl⟩ | ⟨hc, hstarts⟩
        · rcases setTask_cases hr with ⟨rfl, -⟩ | ⟨-, hr⟩
          · rfl
          · exact absurd halive (hdead t r hr hns)
        · rcases setTask_cases hr with ⟨rfl, rfl⟩ | ⟨-, hr⟩
          · exact absurd (h.starter _ _ _ _ _ hstarts hflagged) hc
          · exact h.own c' o t r hstarts hr halive }

lemma Inv.spawn (h : s.Inv) (hs : s.spawn c = some s') : s'.Inv := by
  obtain ⟨ns, hcall⟩ : ∃ ns, s.calls c = some ⟨ns, .flagged⟩ := by
    unfold PodCache.spawn at hs
    split at hs
    · rename_i ns hcall
      exact ⟨ns, hcall⟩
    · cases hs
  refine ⟨h.owned.spawn hcall hs, ?_⟩
  rw [spawn_eq hcall] at hs
  obtain rfl := Option.some.inj hs
  exact
    { flag := fun c' ns' o hstarts hall => by
        rcases starts_setCall_cases (s := s) (c := c) hstarts with ⟨-, rfl, -⟩ | ⟨-, hstarts⟩
        · exact h.published.flag c ns' none ((starts_iff hcall).2 ⟨rfl, rfl, rfl⟩) nofun
        · refine h.published.flag c' ns' o hstarts fun t r ho hr => ?_
          exact hall t r ho (h.owned.tasks_setTask hr)
      stored := fun ns' t hstore => by
        obtain ⟨r, hr, hrest⟩ := h.published.stored ns' t hstore
        exact ⟨r, h.owned.tasks_setTask hr, hrest⟩
      watched := fun t r hr hphase haborted => by
        rcases setTask_cases hr with ⟨rfl, rfl⟩ | ⟨-, hr⟩
        · exact Or.inr ⟨c, _, (setCall_calls _ _ _ _).trans (if_pos rfl), rfl⟩
        · refine (h.published.watched t r hr hphase haborted).imp_right ?_
          rintro ⟨c', hunp⟩
          have hc : c' ≠ c := by
            rintro rfl
            have hstage := ((unpublished_iff hcall).1 hunp).2
            cases hstage
          exact ⟨c', (unpublished_setCall_of_ne hc).2 hunp⟩
      unpublished := fun c' ns' t r hunp hr => by
        rcases setTask_cases hr with ⟨rfl, rfl⟩ | ⟨hne, hr⟩
        · -- the new reflector is not published yet
          refine ⟨fun hstore => ?_, rfl⟩
          obtain ⟨r, hr, -⟩ := h.published.stored ns' _ hstore
          exact (h.owned.fresh _ r hr).ne rfl
        · have hc : c' ≠ c := by
            rintro rfl
            have hstage := ((unpublished_iff (s := s.setCall c' _) (setCall_self _ _ _)).1 hunp).2
            exact hne (Option.some.inj hstage).symm
          exact h.published.unpublished c' ns' t r ((unpublished_setCall_of_ne hc).1 hunp) hr }

/-! ### Runs in order -/

lemma Inv.step {e : PodCacheEvent} (h : s.Inv) (hok : NotOvertaken s e)
    (hs : podCacheSystem.step s e = some s') : s'.Inv := by
  cases e with
  | call c ns => exact h.call hs
  | check c => exact h.check hs
  | enter c => exact h.enter hok hs
  | leave c => exact h.leave hs
  | spawn c => exact h.spawn hs
  | ready c => exact h.awaited hs
  | giveUp c => exact h.awaited hs
  | publish c => exact h.publish hok hs
  | abort c => exact h.abort hs
  | clear c => exact h.clear hs
  | sync t => exact h.sync hs
  | streamEnd t => exact h.streamEnd hs
  | evict t => exact h.evict hs
  | unflag t => exact h.unflag hs
  | cancel t => exact h.cancel hs

lemma inv_of_reachable (h : podCacheSystem.Reachable NotOvertaken s) : s.Inv :=
  h.invariant (fun s (hinit : s = .new) => hinit ▸ Inv.init) fun _ _ _ => Inv.step

/-! ### Steps out of order -/

/-- The run can go on to a state in which the cache does not serve live stores. -/
def Breaks (s : PodCache) : Prop :=
  ∃ es s', podCacheSystem.Path System.Any s es s' ∧ ¬ s'.ServesLive

lemma Breaks.step {e : PodCacheEvent} (hs : podCacheSystem.step s e = some s') (h : s'.Breaks) :
    s.Breaks := by
  obtain ⟨es, s'', hpath, hbreaks⟩ := h
  exact ⟨e :: es, s'', .cons trivial hs hpath, hbreaks⟩

lemma breaks_of_not_servesLive (h : ¬ s.ServesLive) : s.Breaks := ⟨[], s, .nil s, h⟩

/-- The store of a reflector that has run its eviction. -/
lemma breaks_of_stored {ns : String} (hstore : s.stores ns = some t) (hr : s.tasks t = some r)
    (hserves : ¬ r.Serves) : s.Breaks := by
  refine breaks_of_not_servesLive fun hlive => ?_
  obtain ⟨r', hr', -, hserves'⟩ := hlive.live ns t hstore
  obtain rfl := Option.some.inj (hr.symm.trans hr')
  exact hserves hserves'

/-- A reflector of the namespace is alive, and no store is published. -/
structure Running (s : PodCache) (ns : String) (t : ℕ) : Prop where
  store : s.stores ns = none
  alive : ∃ r, s.tasks t = some r ∧ r.ns = ns ∧ r.Alive
  spawned : t ≠ s.spawned

variable {ns : String} {t₁ : ℕ}

/-- A start is registered while a reflector of the namespace is alive. -/
lemma breaks_of_flagged (hcall : s.calls c = some ⟨ns, .flagged⟩) (h : s.Running ns t₁) :
    s.Breaks := by
  obtain ⟨r, hr, hns, halive⟩ := h.alive
  refine .step (e := .spawn c) (spawn_eq hcall) (breaks_of_not_servesLive fun hlive => h.spawned ?_)
  refine hlive.single t₁ s.spawned r ⟨ns, .watching, false, false⟩ ?_ ?_ hns halive nofun
  · exact (setTask_tasks _ _ _ _).trans ((if_neg h.spawned).trans hr)
  · exact (setTask_tasks _ _ _ _).trans (if_pos rfl)

lemma Running.setCall (h : s.Running ns t₁) (c : ℕ) (x : Option EnsureCall) :
    (s.setCall c x).Running ns t₁ := ⟨h.store, h.alive, h.spawned⟩

/-- A start can be registered while a reflector of the namespace is alive. -/
lemma breaks_of_idle (hcall : s.calls c = none) (hflag : ns ∉ s.starting)
    (h : s.Running ns t₁) : s.Breaks := by
  have hcalled : podCacheSystem.step s (.call c ns) = some (s.setCall c (some ⟨ns, .called⟩)) := by
    show s.call c ns = _
    rw [PodCache.call, hcall]
  have hchecked : ∀ s : PodCache, s.calls c = some ⟨ns, .called⟩ → s.stores ns = none →
      podCacheSystem.step s (.check c) = some (s.setCall c (some ⟨ns, .missed⟩)) := by
    intro s hcall hstore
    show s.check c = _
    rw [PodCache.check, hcall]
    simp only [hstore]
  have hentered : ∀ s : PodCache, s.calls c = some ⟨ns, .missed⟩ → s.stores ns = none →
      ns ∉ s.starting → podCacheSystem.step s (.enter c) =
        some { s.setCall c (some ⟨ns, .flagged⟩) with starting := insert ns s.starting } := by
    intro s hcall hstore hflag
    show s.enter c = _
    rw [PodCache.enter, hcall]
    simp only [hstore, if_neg hflag]
  refine .step hcalled (.step (hchecked _ (setCall_self _ _ _) h.store)
    (.step (hentered _ (setCall_self _ _ _) h.store hflag) ?_))
  have hflagged := ((h.setCall c (some ⟨ns, .called⟩)).setCall c (some ⟨ns, .missed⟩)).setCall c
    (some ⟨ns, .flagged⟩)
  exact breaks_of_flagged (setCall_self _ _ _) ⟨hflagged.store, hflagged.alive, hflagged.spawned⟩

/-- The call of an earlier start is going to clear the flag. -/
lemma breaks_of_clearing (hcall : s.calls c = some ⟨ns, .clearing t⟩) (h : s.Running ns t₁) :
    s.Breaks := by
  have hcleared : podCacheSystem.step s (.clear c) =
      some { s.setCall c none with starting := s.starting.erase ns } := by
    show s.clear c = _
    rw [PodCache.clear, hcall]
  exact .step hcleared (breaks_of_idle (setCall_self _ _ _) (Finset.notMem_erase _ _)
    ⟨h.store, h.alive, h.spawned⟩)

/-- The call of an earlier start is going to abort a reflector that has ended. -/
lemma breaks_of_aborting (hcall : s.calls c = some ⟨ns, .aborting t⟩) (hr : s.tasks t = some r)
    (hne : t₁ ≠ t) (h : s.Running ns t₁) : s.Breaks := by
  have haborted : podCacheSystem.step s (.abort c) = some
      ((s.setCall c (some ⟨ns, .clearing t⟩)).setTask t { r with aborted := true }) := by
    show s.abort c = _
    rw [PodCache.abort, hcall]
    simp only [hr, Option.map_some]
  refine .step haborted (breaks_of_clearing (setCall_self _ _ _) ⟨h.store, ?_, h.spawned⟩)
  obtain ⟨r₁, hr₁, hrest⟩ := h.alive
  exact ⟨r₁, (setTask_tasks _ _ _ _).trans ((if_neg hne).trans hr₁), hrest⟩

/-- The call of an earlier start is going to publish a reflector that has ended. -/
lemma breaks_of_publishing (hcall : s.calls c = some ⟨ns, .publishing t⟩) (hr : s.tasks t = some r)
    (hserves : ¬ r.Serves) : s.Breaks := by
  have hpublished : podCacheSystem.step s (.publish c) = some
      { s.setCall c (some ⟨ns, .clearing t⟩) with
        stores := Function.update s.stores ns (some t) } := by
    show s.publish c = _
    rw [PodCache.publish, hcall]
  exact .step hpublished (breaks_of_stored (Function.update_self _ _ _) hr hserves)

/-- The reflector of an earlier start has ended, and its call has not returned. -/
lemma breaks_of_task {stage : EnsureStage} (hcall : s.calls c = some ⟨ns, stage⟩)
    (htask : stage.task = some t) (hr : s.tasks t = some r) (halive : ¬ r.Alive)
    (h : s.Running ns t₁) : s.Breaks := by
  have hserves : ¬ r.Serves := fun hserves => halive hserves.alive
  have hne : t₁ ≠ t := by
    rintro rfl
    obtain ⟨r₁, hr₁, -, halive₁⟩ := h.alive
    obtain rfl := Option.some.inj (hr.symm.trans hr₁)
    exact halive halive₁
  cases stage with
  | called => cases htask
  | missed => cases htask
  | waiting => cases htask
  | flagged => cases htask
  | awaiting t' =>
      obtain rfl := Option.some.inj htask
      rcases hsynced : r.synced with _ | _
      · have hgiven : podCacheSystem.step s (.giveUp c) =
            some (s.setCall c (some ⟨ns, .aborting t'⟩)) := by
          show s.awaited c false = _
          rw [PodCache.awaited, hcall]
          simp [hr, hsynced]
        exact .step hgiven (breaks_of_aborting (setCall_self _ _ _) hr hne (h.setCall _ _))
      · have hready : podCacheSystem.step s (.ready c) =
            some (s.setCall c (some ⟨ns, .publishing t'⟩)) := by
          show s.awaited c true = _
          rw [PodCache.awaited, hcall]
          simp [hr, hsynced]
        exact .step hready (breaks_of_publishing (setCall_self _ _ _) hr hserves)
  | publishing t' =>
      obtain rfl := Option.some.inj htask
      exact breaks_of_publishing hcall hr hserves
  | aborting t' =>
      obtain rfl := Option.some.inj htask
      exact breaks_of_aborting hcall hr hne h
  | clearing t' => exact breaks_of_clearing hcall h

/-- A start that is registered in a namespace that is not settled. -/
lemma breaks_of_enter (h : s.Inv) (hs : s.enter c = some s')
    (hbad : ¬ NotOvertaken s (.enter c)) : s'.Breaks := by
  simp only [NotOvertaken, not_forall] at hbad
  obtain ⟨⟨ns, stage⟩, hcall, hstore, hflag, hunsettled⟩ := hbad
  have hmissed : stage = .missed := by
    unfold PodCache.enter at hs
    split at hs
    · rename_i hcall'
      simpa using congrArg EnsureCall.stage (Option.some.inj (hcall.symm.trans hcall'))
    · cases hs
  subst hmissed
  rw [PodCache.enter, hcall] at hs
  simp only [hstore, if_neg hflag] at hs
  obtain rfl := Option.some.inj hs
  by_cases halive : ∃ t r, s.tasks t = some r ∧ r.ns = ns ∧ r.Alive
  · obtain ⟨t, r, hr, hrest⟩ := halive
    exact breaks_of_flagged (setCall_self _ _ _)
      ⟨hstore, ⟨r, hr, hrest⟩, (h.owned.fresh t r hr).ne⟩
  · -- the reflectors have ended, and the call of one of them has not returned
    have hreturned : ∃ c' call' t r, s.calls c' = some call' ∧ call'.stage.task = some t ∧
        s.tasks t = some r ∧ r.ns = ns := by
      by_contra hnone
      refine hunsettled ⟨fun t r hr hns _ ha => halive ⟨t, r, hr, hns, ha⟩, ?_⟩
      intro c' call' t r hcall' htask hr hns
      exact absurd ⟨c', call', t, r, hcall', htask, hr, hns⟩ hnone
    obtain ⟨c', ⟨ns', stage'⟩, t, r, hcall', htask, hr, hns⟩ := hreturned
    have hc : c' ≠ c := by
      rintro rfl
      obtain rfl : stage' = .missed := by
        simpa using congrArg EnsureCall.stage (Option.some.inj (hcall'.symm.trans hcall))
      cases htask
    obtain rfl := hns.symm.trans
      (h.owned.ns_eq ⟨stage', hcall', EnsureStage.starts_of_task htask, htask⟩ hr)
    have hcall₂ : ((s.setCall c (some ⟨ns, .flagged⟩)).setCall c
        (some ⟨ns, .awaiting s.spawned⟩)).calls c' = some ⟨ns, stage'⟩ := by
      rw [setCall_calls, if_neg hc, setCall_calls, if_neg hc, hcall']
    have hended : ¬ r.Alive := fun ha => halive ⟨t, r, hr, hns, ha⟩
    -- a new reflector is spawned, and the call goes on to clear the flag
    refine .step (e := .spawn c) (spawn_eq (setCall_self _ _ _))
      (breaks_of_task hcall₂ htask (h.owned.tasks_setTask hr) hended
        ⟨hstore, ⟨_, (setTask_tasks _ _ _ _).trans (if_pos rfl), rfl, nofun⟩,
          (Nat.lt_succ_self _).ne⟩)

/-- A store is published whose reflector has run its eviction. -/
lemma breaks_of_publish (hs : s.publish c = some s') (hbad : ¬ NotOvertaken s (.publish c)) :
    s'.Breaks := by
  simp only [NotOvertaken, not_forall] at hbad
  obtain ⟨⟨ns, stage⟩, t, r, hcall, hstage, hr, hserves⟩ := hbad
  obtain rfl : stage = .publishing t := hstage
  rw [PodCache.publish, hcall] at hs
  obtain rfl := Option.some.inj hs
  exact breaks_of_stored (Function.update_self _ _ _) hr hserves

lemma breaks_of_overtaken {e : PodCacheEvent} (h : s.Inv)
    (hs : podCacheSystem.step s e = some s') (hbad : ¬ NotOvertaken s e) : s'.Breaks := by
  cases e with
  | enter c => exact breaks_of_enter h hs hbad
  | publish c => exact breaks_of_publish hs hbad
  | _ => exact absurd trivial hbad

end PodCache

/-- **Live stores.** In every state of a run in which starts are registered when their namespace is
settled and stores are published before their reflector has run its eviction, at most one reflector
of a namespace is alive, and every store that `get_ready_pods` reads belongs to one that is alive or
about to run its eviction.  After the first step that is out of order, the run can go on to a state
in which this is not so. -/
theorem live_stores_unless_overtaken {s : PodCache}
    (h : podCacheSystem.Reachable NotOvertaken s) :
    s.ServesLive ∧
      ∀ e s', podCacheSystem.step s e = some s' → ¬ NotOvertaken s e →
        ∃ es s'', podCacheSystem.Path System.Any s' es s'' ∧ ¬ s''.ServesLive := by
  have hinv := PodCache.inv_of_reachable h
  exact ⟨hinv.servesLive, fun _ _ => PodCache.breaks_of_overtaken hinv⟩

/-- The first list arrives in time, and the store is published. -/
def publishesInTime : List PodCacheEvent :=
  [.call 0 "default", .check 0, .enter 0, .spawn 0, .sync 0, .ready 0, .publish 0, .clear 0]

/-- Nothing has been spawned when the start is registered, and the reflector watches when its store
is published. -/
theorem live_stores_unless_overtaken_published :
    ∃ s, podCacheSystem.Path NotOvertaken .new publishesInTime s ∧
      s.getReadyPods "default" = some 0 ∧ s.ServesLive := by
  have hpath : ∃ s, podCacheSystem.Path NotOvertaken .new publishesInTime s ∧
      s.getReadyPods "default" = some 0 := by
    refine ⟨_, .cons trivial rfl (.cons trivial rfl (.cons ?_ rfl (.cons trivial rfl
      (.cons trivial rfl (.cons trivial rfl (.cons ?_ rfl (.cons trivial rfl (.nil _)))))))), rfl⟩
    · exact fun call _ _ _ => ⟨nofun, nofun⟩
    · rintro call t r hcall hstage hr
      obtain rfl := Option.some.inj hcall
      obtain rfl := EnsureStage.publishing.inj hstage
      obtain rfl := Option.some.inj hr
      exact .inl rfl
  obtain ⟨s, hs, hstore⟩ := hpath
  exact ⟨s, hs, hstore, (live_stores_unless_overtaken ⟨_, _, rfl, hs⟩).1⟩

/-! ### A store that nobody updates -/

/-- A stream ends after the first list, and the reflector ends before its store is published. -/
def endsBeforePublication : List PodCacheEvent :=
  [.call 0 "default", .check 0, .enter 0, .spawn 0, .sync 0, .ready 0, .streamEnd 0, .evict 0,
    .unflag 0, .publish 0, .clear 0]

/-- The same, but a second call has registered a start between the eviction and the end of the
reflector, which clears the flag of this start, so that a third call registers another one. -/
def registersBeforeEnd : List PodCacheEvent :=
  [.call 0 "default", .check 0, .enter 0, .spawn 0, .sync 0, .ready 0, .publish 0, .clear 0,
    .streamEnd 0, .evict 0, .call 1 "default", .check 1, .enter 1, .spawn 1, .unflag 0,
    .call 2 "default", .check 2, .enter 2, .spawn 2]

/-- **A dead store and two reflectors.** In the first run the cache is left with the store of a
reflector that has ended; in the second, two reflectors of the namespace watch at the same time. -/
theorem dead_store_published :
    (∃ s, podCacheSystem.Reachable System.Any s ∧ s.getReadyPods "default" = some 0 ∧
      s.tasks 0 = some ⟨"default", .finished, true, false⟩ ∧ s.calls 0 = none) ∧
    ∃ s, podCacheSystem.Reachable System.Any s ∧
      s.tasks 1 = some ⟨"default", .watching, false, false⟩ ∧
      s.tasks 2 = some ⟨"default", .watching, false, false⟩ := by
  constructor
  · have hrun : (podCacheSystem.exec .new endsBeforePublication).any (fun s =>
        decide (s.getReadyPods "default" = some 0 ∧
          s.tasks 0 = some ⟨"default", .finished, true, false⟩ ∧ s.calls 0 = none)) = true := by
      decide +kernel
    obtain ⟨s, hs, hfacts⟩ := (Option.any_eq_true _ _).1 hrun
    exact ⟨s, .of_exec rfl hs, of_decide_eq_true hfacts⟩
  · have hrun : (podCacheSystem.exec .new registersBeforeEnd).any (fun s =>
        decide (s.tasks 1 = some ⟨"default", .watching, false, false⟩ ∧
          s.tasks 2 = some ⟨"default", .watching, false, false⟩)) = true := by
      decide +kernel
    obtain ⟨s, hs, hfacts⟩ := (Option.any_eq_true _ _).1 hrun
    exact ⟨s, .of_exec rfl hs, of_decide_eq_true hfacts⟩

end ExternalPodAutoscaler.Scraper
