/-
A pool of workers behind a bounded channel.

A producer sends jobs in batches, one job after the other, and waits while the channel is full.
Workers take the jobs off the channel and handle them; what becomes of a job depends on a reply
from outside, and there may be replies that a worker does not survive (`handle job reply = none`).
No worker is replaced.

The main results of this file are `Pool.accounted`: in every run each job is where it belongs
and nowhere else; `Pool.drains`: a batch takes a bounded number of steps, and at its end every job
is handled unless all workers are lost; and `Pool.stuck`: once all workers are lost, nothing more
is handled, and as soon as the channel is full nothing happens at all.
-/
import Mathlib.Data.List.Perm.Basic
import Mathlib.Data.List.Count
import Mathlib.Tactic.Common
import ExternalPodAutoscaler.Lib.Cells
import ExternalPodAutoscaler.Lib.Transition

namespace ExternalPodAutoscaler.Lib

/-- What a worker is doing. -/
inductive WorkerState (J : Type*) where
  | idle
  | busy (job : J)
  | lost
deriving DecidableEq

/-- The job that a worker holds. -/
def WorkerState.job? {J : Type*} : WorkerState J → Option J
  | .busy job => some job
  | _ => none

/-- Whether a worker is lost. -/
def WorkerState.isLost {J : Type*} : WorkerState J → Bool
  | .lost => true
  | _ => false

/-- The producer, the channel and the workers, with a record of the jobs. -/
structure Pool (J Y : Type*) where
  /-- The jobs of the batch that are still to be sent. -/
  todo : List J
  /-- The channel, the oldest job first. -/
  queue : List J
  workers : List (WorkerState J)
  /-- The jobs that were sent, in this order. -/
  sent : List J
  /-- The jobs that were handled, with their results. -/
  handled : List (J × Y)
  /-- The jobs whose workers were lost. -/
  lost : List J

inductive PoolEvent (J R : Type*) where
  /-- The producer starts on a batch. -/
  | produce (jobs : List J)
  /-- It sends a job. -/
  | send
  /-- A worker takes a job. -/
  | take (i : ℕ)
  /-- The job of a worker is replied to. -/
  | reply (i : ℕ) (r : R)

namespace Pool

variable {J R Y : Type*}

/-- A pool of `n` workers. -/
def start (n : ℕ) : Pool J Y := ⟨[], [], List.replicate n .idle, [], [], []⟩

/-- The jobs that workers hold. -/
def held (w : Pool J Y) : List J := w.workers.filterMap WorkerState.job?

/-- The steps that are left of the batch. -/
def work (w : Pool J Y) : ℕ := 3 * w.todo.length + 2 * w.queue.length + w.held.length

section Steps

variable (capacity : ℕ) (handle : J → R → Option Y)

/-- The state after an event, `none` if it cannot happen. -/
def step (w : Pool J Y) : PoolEvent J R → Option (Pool J Y)
  | .produce jobs => if w.todo.isEmpty then some { w with todo := jobs } else none
  | .send =>
    match w.todo with
    | job :: rest =>
      if w.queue.length < capacity then
        some { w with todo := rest, queue := w.queue ++ [job], sent := w.sent ++ [job] }
      else none
    | [] => none
  | .take i =>
    match w.workers[i]?, w.queue with
    | some .idle, job :: rest =>
      some { w with queue := rest, workers := w.workers.set i (.busy job) }
    | _, _ => none
  | .reply i r =>
    match w.workers[i]? with
    | some (.busy job) =>
      match handle job r with
      | some y =>
        some { w with workers := w.workers.set i .idle, handled := w.handled ++ [(job, y)] }
      | none => some { w with workers := w.workers.set i .lost, lost := w.lost ++ [job] }
    | _ => none

/-- The runs of a pool of `n` workers. -/
def system (n : ℕ) : System (Pool J Y) (PoolEvent J R) where
  init w := w = start n
  step := step capacity handle

/-- The events of a batch that has been started. -/
def Internal (_ : Pool J Y) : PoolEvent J R → Prop
  | .produce _ => False
  | _ => True

/-- The batch cannot go on. -/
def Quiet (w : Pool J Y) : Prop :=
  ∀ e : PoolEvent J R, Internal w e → w.step capacity handle e = none

end Steps

/-- **What a step does.** -/
inductive Effect (capacity : ℕ) (handle : J → R → Option Y) (w : Pool J Y) :
    PoolEvent J R → Pool J Y → Prop
  | produce (jobs : List J) (hidle : w.todo = []) :
      Effect capacity handle w (.produce jobs) { w with todo := jobs }
  | send {job : J} {rest : List J} (htodo : w.todo = job :: rest)
      (hroom : w.queue.length < capacity) :
      Effect capacity handle w .send
        { w with todo := rest, queue := w.queue ++ [job], sent := w.sent ++ [job] }
  | take {i : ℕ} {job : J} {rest : List J} (hworker : w.workers[i]? = some .idle)
      (hqueue : w.queue = job :: rest) :
      Effect capacity handle w (.take i)
        { w with queue := rest, workers := w.workers.set i (.busy job) }
  | handled {i : ℕ} {r : R} {job : J} {y : Y} (hworker : w.workers[i]? = some (.busy job))
      (hhandle : handle job r = some y) :
      Effect capacity handle w (.reply i r)
        { w with workers := w.workers.set i .idle, handled := w.handled ++ [(job, y)] }
  | lost {i : ℕ} {r : R} {job : J} (hworker : w.workers[i]? = some (.busy job))
      (hhandle : handle job r = none) :
      Effect capacity handle w (.reply i r)
        { w with workers := w.workers.set i .lost, lost := w.lost ++ [job] }

variable {capacity n : ℕ} {handle : J → R → Option Y} {w w' : Pool J Y} {e : PoolEvent J R}

lemma effect_of_step (h : w.step capacity handle e = some w') :
    Effect capacity handle w e w' := by
  cases e with
  | produce jobs =>
      obtain ⟨hidle, heq⟩ := Option.ite_none_right_eq_some.1 h
      obtain rfl := Option.some.inj heq
      exact .produce jobs (List.isEmpty_iff.1 hidle)
  | send =>
      simp only [step] at h
      split at h
      · rename_i job rest htodo
        obtain ⟨hroom, heq⟩ := Option.ite_none_right_eq_some.1 h
        obtain rfl := Option.some.inj heq
        exact .send htodo hroom
      · cases h
  | take i =>
      simp only [step] at h
      split at h
      · rename_i job rest hworker hqueue
        obtain rfl := Option.some.inj h
        exact .take hworker hqueue
      · cases h
  | reply i r =>
      simp only [step] at h
      split at h
      · rename_i job hworker
        split at h
        · rename_i y hhandle
          obtain rfl := Option.some.inj h
          exact .handled hworker hhandle
        · rename_i hhandle
          obtain rfl := Option.some.inj h
          exact .lost hworker hhandle
      · cases h

/-! ### Every job is somewhere -/

/-- The jobs that are held once a worker does something else. -/
lemma held_set {workers : List (WorkerState J)} {i : ℕ} {old : WorkerState J}
    (h : workers[i]? = some old) (new : WorkerState J) :
    (old.job?.toList ++ (workers.set i new).filterMap WorkerState.job?).Perm
      (new.job?.toList ++ workers.filterMap WorkerState.job?) := by
  obtain ⟨before, after, rfl, hset⟩ := exists_split_set h
  have hcons : ∀ x : WorkerState J, ((before ++ x :: after).filterMap WorkerState.job?).Perm
      (x.job?.toList ++ (before.filterMap WorkerState.job? ++
        after.filterMap WorkerState.job?)) := by
    intro x
    rw [List.filterMap_append]
    rcases hx : x.job? with _ | job
    · rw [List.filterMap_cons_none hx]
      exact .refl _
    · rw [List.filterMap_cons_some hx]
      exact List.perm_middle
  rw [hset]
  exact ((hcons new).append_left _).trans
    ((List.perm_append_comm_assoc _ _ _).trans ((hcons old).append_left _).symm)

/-- The workers that are lost once a worker does something else. -/
lemma countP_isLost_set {workers : List (WorkerState J)} {i : ℕ} {old : WorkerState J}
    (h : workers[i]? = some old) (hold : old.isLost = false) (new : WorkerState J) :
    (workers.set i new).countP WorkerState.isLost =
      workers.countP WorkerState.isLost + if new.isLost = true then 1 else 0 := by
  obtain ⟨before, after, rfl, hset⟩ := exists_split_set h
  rw [hset, List.countP_append, List.countP_append, List.countP_cons, List.countP_cons, hold]
  simp only [Bool.false_eq_true, if_false, Nat.add_zero, Nat.add_assoc]

/-- Every job is where it belongs. -/
structure Accounted (capacity n : ℕ) (handle : J → R → Option Y) (w : Pool J Y) : Prop where
  /-- The jobs have left the channel in the order in which they were sent. -/
  taken : ∃ taken, w.sent = taken ++ w.queue ∧
    taken.Perm (w.held ++ w.handled.map Prod.fst ++ w.lost)
  queue_le : w.queue.length ≤ capacity
  workers : w.workers.length = n
  /-- A worker is lost with each lost job. -/
  lost : w.workers.countP WorkerState.isLost = w.lost.length
  of_handled : ∀ entry ∈ w.handled, ∃ r, handle entry.1 r = some entry.2
  of_lost : ∀ job ∈ w.lost, ∃ r, handle job r = none

lemma accounted_start : Accounted capacity n handle (start n : Pool J Y) where
  taken := ⟨[], rfl, by simp [start, held, List.filterMap_replicate, WorkerState.job?]⟩
  queue_le := Nat.zero_le _
  workers := List.length_replicate
  lost := by simp [start, List.countP_replicate, WorkerState.isLost]
  of_handled := by simp [start]
  of_lost := by simp [start]

/-- Every step keeps the account. -/
lemma Accounted.step (h : Accounted capacity n handle w)
    (hstep : w.step capacity handle e = some w') : Accounted capacity n handle w' := by
  obtain ⟨taken, hsent, hperm⟩ := h.taken
  cases effect_of_step hstep with
  | produce jobs hidle => exact ⟨⟨taken, hsent, hperm⟩, h.2, h.3, h.4, h.5, h.6⟩
  | @send job rest htodo hroom =>
      refine ⟨⟨taken, ?_, hperm⟩, ?_, h.workers, h.lost, h.of_handled, h.of_lost⟩
      · show w.sent ++ [job] = taken ++ (w.queue ++ [job])
        rw [hsent, List.append_assoc]
      · show (w.queue ++ [job]).length ≤ capacity
        rw [List.length_append, List.length_singleton]
        exact hroom
  | @take i job rest hworker hqueue =>
      refine ⟨⟨taken ++ [job], ?_, ?_⟩, ?_, ?_, ?_, h.of_handled, h.of_lost⟩
      · show w.sent = taken ++ [job] ++ rest
        rw [hsent, hqueue, List.append_assoc, List.singleton_append]
      · have hheld := held_set hworker (.busy job)
        calc (taken ++ [job]).Perm (job :: taken) := List.perm_append_comm
          List.Perm _ (job :: (w.held ++ w.handled.map Prod.fst ++ w.lost)) := hperm.cons job
          List.Perm _ _ := (hheld.symm.append_right _).append_right _
      · have hle := h.queue_le
        rw [hqueue, List.length_cons] at hle
        exact Nat.le_of_succ_le hle
      · exact (List.length_set ..).trans h.workers
      · exact (countP_isLost_set hworker rfl _).trans h.lost
  | @handled i r job y hworker hhandle =>
      refine ⟨⟨taken, hsent, ?_⟩, h.queue_le, ?_, ?_, ?_, h.of_lost⟩
      · have hheld := held_set hworker .idle
        calc taken.Perm (w.held ++ w.handled.map Prod.fst ++ w.lost) := hperm
          List.Perm _ (job :: (w.workers.set i .idle).filterMap WorkerState.job? ++
            w.handled.map Prod.fst ++ w.lost) := (hheld.symm.append_right _).append_right _
          List.Perm _ _ := by
            rw [held, List.map_append]
            refine List.Perm.append_right _ ?_
            rw [List.cons_append, ← List.append_assoc]
            exact (List.perm_append_singleton job _).symm
      · exact (List.length_set ..).trans h.workers
      · exact (countP_isLost_set hworker rfl _).trans h.lost
      · intro entry hentry
        rcases List.mem_append.1 hentry with hold | hnew
        · exact h.of_handled entry hold
        · obtain rfl := List.mem_singleton.1 hnew
          exact ⟨r, hhandle⟩
  | @lost i r job hworker hhandle =>
      refine ⟨⟨taken, hsent, ?_⟩, h.queue_le, ?_, ?_, h.of_handled, ?_⟩
      · have hheld := held_set hworker .lost
        calc taken.Perm (w.held ++ w.handled.map Prod.fst ++ w.lost) := hperm
          List.Perm _ (job :: (w.workers.set i .lost).filterMap WorkerState.job? ++
            w.handled.map Prod.fst ++ w.lost) := (hheld.symm.append_right _).append_right _
          List.Perm _ _ := by
            rw [held, List.cons_append, List.cons_append, ← List.append_assoc]
            exact (List.perm_append_singleton job _).symm
      · exact (List.length_set ..).trans h.workers
      · rw [countP_isLost_set hworker rfl, h.lost, List.length_append]
        rfl
      · intro job' hjob'
        rcases List.mem_append.1 hjob' with hold | hnew
        · exact h.of_lost job' hold
        · obtain rfl := List.mem_singleton.1 hnew
          exact ⟨r, hhandle⟩

/-- **Every job is accounted for.** In every run the jobs leave the channel in the order in which
they were sent, and each of them is held by one worker, handled once or lost with its worker. -/
theorem accounted (h : (system capacity handle n).Reachable System.Any w) :
    Accounted capacity n handle w := by
  refine h.invariant ?_ fun w e w' h _ hstep => h.step hstep
  rintro w rfl
  exact accounted_start

/-! ### A batch ends -/

lemma length_held_set {workers : List (WorkerState J)} {i : ℕ} {old : WorkerState J}
    (h : workers[i]? = some old) (new : WorkerState J) :
    old.job?.toList.length + ((workers.set i new).filterMap WorkerState.job?).length =
      new.job?.toList.length + (workers.filterMap WorkerState.job?).length := by
  rw [← List.length_append, ← List.length_append]
  exact (held_set h new).length_eq

/-- Each step of a batch does a part of its work, and sends what is to be sent in order. -/
lemma work_step (hinternal : Internal w e) (hstep : w.step capacity handle e = some w') :
    w'.work + 1 = w.work ∧ w'.sent ++ w'.todo = w.sent ++ w.todo := by
  cases effect_of_step hstep with
  | produce jobs hidle => exact hinternal.elim
  | @send job rest htodo hroom =>
      simp only [work, held, htodo, List.length_cons, List.length_append, List.length_nil,
        List.append_assoc, List.singleton_append, and_true]
      omega
  | @take i job rest hworker hqueue =>
      have hheld := length_held_set hworker (.busy job)
      simp only [WorkerState.job?, Option.toList_none, Option.toList_some, List.length_nil,
        List.length_singleton] at hheld
      simp only [work, held, hqueue, List.length_cons, and_true]
      omega
  | @handled i r job y hworker hhandle =>
      have hheld := length_held_set hworker .idle
      simp only [WorkerState.job?, Option.toList_none, Option.toList_some, List.length_nil,
        List.length_singleton] at hheld
      simp only [work, held, and_true]
      omega
  | @lost i r job hworker hhandle =>
      have hheld := length_held_set hworker .lost
      simp only [WorkerState.job?, Option.toList_none, Option.toList_some, List.length_nil,
        List.length_singleton] at hheld
      simp only [work, held, and_true]
      omega

lemma work_path {es : List (PoolEvent J R)}
    (h : (system capacity handle n).Path Internal w es w') :
    w'.work + es.length = w.work ∧ w'.sent ++ w'.todo = w.sent ++ w.todo := by
  induction h with
  | nil => exact ⟨rfl, rfl⟩
  | cons hok hs _ ih =>
      obtain ⟨hwork, hsent⟩ := work_step hok hs
      refine ⟨?_, ih.2.trans hsent⟩
      rw [List.length_cons]
      omega

/-- A worker that is not lost is idle or busy. -/
lemma Accounted.exists_left (h : Accounted capacity n handle w) (hleft : w.lost.length < n) :
    ∃ i : ℕ, w.workers[i]? = some WorkerState.idle ∨
      ∃ job, w.workers[i]? = some (WorkerState.busy job) := by
  have hsome : ∃ worker ∈ w.workers, worker.isLost = false := by
    by_contra hnone
    push Not at hnone
    have hall : w.workers.countP WorkerState.isLost = w.workers.length :=
      List.countP_eq_length.2 fun worker hworker => Bool.not_eq_false _ ▸ hnone worker hworker
    rw [h.lost, h.workers] at hall
    exact (Nat.ne_of_lt hleft) hall
  obtain ⟨worker, hworker, hworking⟩ := hsome
  obtain ⟨i, hi⟩ := List.getElem?_of_mem hworker
  rcases worker with _ | job | _
  · exact ⟨i, .inl hi⟩
  · exact ⟨i, .inr ⟨job, hi⟩⟩
  · cases hworking

/-- A batch that cannot go on has no work left, unless all workers are lost. -/
lemma Accounted.work_eq_zero [Nonempty R] (h : Accounted capacity n handle w)
    (hcapacity : 0 < capacity) (hquiet : Quiet capacity handle w) (halive : w.lost.length < n) :
    w.todo = [] ∧ w.queue = [] ∧ w.held = [] := by
  obtain ⟨r⟩ := ‹Nonempty R›
  have hbusy : ∀ (i : ℕ) (job : J), w.workers[i]? ≠ some (WorkerState.busy job) := by
    intro i job hworker
    have hreply := hquiet (.reply i r) trivial
    simp only [Pool.step, hworker] at hreply
    split at hreply <;> cases hreply
  have hheld : w.held = [] := by
    refine List.filterMap_eq_nil_iff.2 fun worker hworker => ?_
    obtain ⟨i, hi⟩ := List.getElem?_of_mem hworker
    rcases worker with _ | job | _
    · rfl
    · exact absurd hi (hbusy i job)
    · rfl
  obtain ⟨i, hidle⟩ : ∃ i : ℕ, w.workers[i]? = some WorkerState.idle := by
    obtain ⟨i, hidle | ⟨job, hworker⟩⟩ := h.exists_left halive
    · exact ⟨i, hidle⟩
    · exact absurd hworker (hbusy i job)
  have hqueue : w.queue = [] := by
    rcases hcase : w.queue with _ | ⟨job, rest⟩
    · rfl
    · have htake := hquiet (.take i) trivial
      simp only [Pool.step, hidle, hcase] at htake
      cases htake
  have htodo : w.todo = [] := by
    rcases hcase : w.todo with _ | ⟨job, rest⟩
    · rfl
    · have hsend := hquiet .send trivial
      simp only [Pool.step, hcase, hqueue, List.length_nil, hcapacity, if_true] at hsend
      cases hsend
  exact ⟨htodo, hqueue, hheld⟩

/-- **Batches end.** The steps of a batch are bounded by its work, and when it cannot go on all of
its jobs are handled or lost, in every run that leaves a worker. -/
theorem drains [Nonempty R] (hcapacity : 0 < capacity) {es : List (PoolEvent J R)}
    (hreach : (system capacity handle n).Reachable System.Any w)
    (hpath : (system capacity handle n).Path Internal w es w') :
    es.length ≤ w.work ∧ (Quiet capacity handle w' → w'.lost.length < n →
      w'.sent = w.sent ++ w.todo ∧ w'.todo = [] ∧
        w'.sent.Perm (w'.handled.map Prod.fst ++ w'.lost)) := by
  obtain ⟨hwork, hsent⟩ := work_path hpath
  refine ⟨by omega, fun hquiet halive => ?_⟩
  have haccounted := accounted (hreach.path (hpath.mono fun _ _ _ => trivial))
  obtain ⟨htodo, hqueue, hheld⟩ := haccounted.work_eq_zero hcapacity hquiet halive
  obtain ⟨taken, htaken, hperm⟩ := haccounted.taken
  rw [htodo, List.append_nil] at hsent
  rw [hheld, List.nil_append] at hperm
  rw [hqueue, List.append_nil] at htaken
  exact ⟨hsent, htodo, htaken ▸ hperm⟩

/-! ### A worker is left -/

/-- Something more is handled in some run from here on. -/
def GoesOn (capacity n : ℕ) (handle : J → R → Option Y) (w : Pool J Y) : Prop :=
  ∃ es w', (system capacity handle n).Path System.Any w es w' ∧
    w.handled.length < w'.handled.length

lemma GoesOn.of_step (hstep : w.step capacity handle e = some w')
    (hhandled : w'.handled = w.handled) (h : GoesOn capacity n handle w') :
    GoesOn capacity n handle w := by
  obtain ⟨es, w'', hpath, hlt⟩ := h
  exact ⟨e :: es, w'', .cons trivial hstep hpath, hhandled ▸ hlt⟩

/-- As long as a worker is left, something more can be handled, if every job has a reply that a
worker survives. -/
lemma Accounted.goesOn [Nonempty J] (h : Accounted capacity n handle w) (hcapacity : 0 < capacity)
    (hhandle : ∀ job : J, ∃ r y, handle job r = some y) (hleft : w.lost.length < n) :
    GoesOn capacity n handle w := by
  have hbusy : ∀ (w : Pool J Y) (i : ℕ) (job : J),
      w.workers[i]? = some (WorkerState.busy job) → GoesOn capacity n handle w := by
    intro w i job hworker
    obtain ⟨r, y, hr⟩ := hhandle job
    have hstep : w.step capacity handle (.reply i r) = some { w with
        workers := w.workers.set i .idle, handled := w.handled ++ [(job, y)] } := by
      simp only [Pool.step, hworker, hr]
    refine ⟨[.reply i r], _, .cons trivial hstep (.nil _), ?_⟩
    show w.handled.length < (w.handled ++ [(job, y)]).length
    rw [List.length_append]
    exact Nat.lt_succ_self _
  have hqueued : ∀ (w : Pool J Y) (i : ℕ) (job : J) (rest : List J),
      w.workers[i]? = some WorkerState.idle → w.queue = job :: rest →
      GoesOn capacity n handle w := by
    intro w i job rest hworker hqueue
    have hstep : w.step capacity handle (.take i) = some { w with
        queue := rest, workers := w.workers.set i (.busy job) } := by
      simp only [Pool.step, hworker, hqueue]
    exact .of_step hstep rfl (hbusy _ i job (getElem?_set_of_some hworker _))
  have hwaiting : ∀ (w : Pool J Y) (i : ℕ) (job : J) (rest : List J),
      w.workers[i]? = some WorkerState.idle → w.queue = [] → w.todo = job :: rest →
      GoesOn capacity n handle w := by
    intro w i job rest hworker hqueue htodo
    have hstep : w.step capacity handle .send = some { w with
        todo := rest, queue := w.queue ++ [job], sent := w.sent ++ [job] } := by
      simp only [Pool.step, htodo, hqueue, List.length_nil, hcapacity, if_true]
    exact .of_step hstep rfl (hqueued _ i job [] hworker (by simp [hqueue]))
  obtain ⟨i, hworker | ⟨job, hworker⟩⟩ := h.exists_left hleft
  · rcases hqueue : w.queue with _ | ⟨job, rest⟩
    · rcases htodo : w.todo with _ | ⟨job, rest⟩
      · obtain ⟨job⟩ := ‹Nonempty J›
        have hstep : w.step capacity handle (.produce [job]) =
            some { w with todo := [job] } := by
          simp only [Pool.step, htodo, List.isEmpty_nil, if_true]
        exact .of_step hstep rfl (hwaiting _ i job [] hworker hqueue rfl)
      · exact hwaiting w i job rest hworker hqueue htodo
    · exact hqueued w i job rest hworker hqueue
  · exact hbusy w i job hworker

/-! ### No worker is left -/

/-- All workers are lost. -/
def AllLost (w : Pool J Y) : Prop := ∀ worker ∈ w.workers, worker = .lost

lemma Accounted.allLost (h : Accounted capacity n handle w) (hlost : w.lost.length = n) :
    AllLost w := by
  intro worker hworker
  rw [← h.lost, ← h.workers, List.countP_eq_length] at hlost
  have := hlost worker hworker
  rcases worker with _ | job | _
  · cases this
  · cases this
  · rfl

lemma AllLost.getElem? (h : AllLost w) {i : ℕ} {worker : WorkerState J}
    (hworker : w.workers[i]? = some worker) : worker = .lost :=
  h worker (List.mem_of_getElem? hworker)

/-- **The end of a pool.** Once all workers are lost nothing more is handled, what is sent stays in
the channel, and as soon as the channel is full a batch that is not empty cannot go on. -/
theorem AllLost.stuck (h : AllLost w) {es : List (PoolEvent J R)}
    (hpath : (system capacity handle n).Path System.Any w es w') :
    w'.workers = w.workers ∧ w'.handled = w.handled ∧ w'.lost = w.lost ∧
      ∃ more, w'.sent = w.sent ++ more ∧ w'.queue = w.queue ++ more := by
  refine hpath.preserves (I := fun w' => w'.workers = w.workers ∧ w'.handled = w.handled ∧
    w'.lost = w.lost ∧ ∃ more, w'.sent = w.sent ++ more ∧ w'.queue = w.queue ++ more) ?_
    ⟨rfl, rfl, rfl, [], (List.append_nil _).symm, (List.append_nil _).symm⟩
  rintro w₁ e w₂ ⟨hworkers, hhandled, hlost, more, hsent, hqueue⟩ - hstep
  have hall : AllLost w₁ := by
    rw [AllLost, hworkers]
    exact h
  cases effect_of_step hstep with
  | produce jobs hidle => exact ⟨hworkers, hhandled, hlost, more, hsent, hqueue⟩
  | @send job rest htodo hroom =>
      refine ⟨hworkers, hhandled, hlost, more ++ [job], ?_, ?_⟩
      · rw [hsent, List.append_assoc]
      · rw [hqueue, List.append_assoc]
  | take hworker hqueue => cases hall.getElem? hworker
  | handled hworker hhandle => cases hall.getElem? hworker
  | lost hworker hhandle => cases hall.getElem? hworker

/-- A batch waits for a full channel that nobody reads. -/
lemma AllLost.step_eq_none (h : AllLost w) (htodo : w.todo ≠ [])
    (hfull : capacity ≤ w.queue.length) (e : PoolEvent J R) : w.step capacity handle e = none := by
  rcases hstep : w.step capacity handle e with _ | w'
  · rfl
  · cases effect_of_step hstep with
    | produce jobs hidle => exact absurd hidle htodo
    | send htodo hroom => exact absurd hroom (Nat.not_lt.2 hfull)
    | take hworker hqueue => cases h.getElem? hworker
    | handled hworker hhandle => cases h.getElem? hworker
    | lost hworker hhandle => cases h.getElem? hworker

end Pool

end ExternalPodAutoscaler.Lib
