/-
Unregistering a deleted EPA (`Reconciler::reconcile` and `ScraperService::handle_updates`).

A reconcile that finds its EPA under deletion tells the scraper to drop it, provided that
the replica owns the EPA in its own view; a replica that does not own it sends nothing.

The main result of this file is `owner_unregisters_deleted_epa`: after the message of the
owner the EPA stays unregistered, once the channel has been drained, for as long as no
reconcile sends an `Upsert` of it.  In the runs of `deleted_epa_stays_registered` a replica
that does not own a deleted EPA keeps it registered, and so does an owner that finds the EPA
gone.
-/
import ExternalPodAutoscaler.Controller.Reconcile

namespace ExternalPodAutoscaler.Controller

open ExternalPodAutoscaler.Api ExternalPodAutoscaler.Lib ExternalPodAutoscaler.Membership
open ExternalPodAutoscaler.Scraper ExternalPodAutoscaler.Store

variable {V : Type}

/-- The key under which a message registers an EPA. -/
def EpaUpdate.upsertKey : EpaUpdate → Option String
  | .upsert epa =>
    match epa.metadata.ns, epa.metadata.name with
    | some ns, some name => some (epaKey ns name)
    | _, _ => none
  | .delete _ _ => none

/-- No reconcile of replica `me` sends an `Upsert` of the EPA. -/
def NoUpsert (me key : String) (w : Cluster V) (e : Event) : Prop :=
  ∀ k r update stage, e = .replica me (.send k) → w.replicas.lookup me = some r →
    (r.running.lookup k).bind (Stage.message k) = some (update, stage) →
    update.upsertKey ≠ some key

/-- No message in the channel registers the EPA, and it is not registered. -/
def Gone (key : String) (r : ReplicaState V) : Prop :=
  (∀ update ∈ r.updates, update.upsertKey ≠ some key) ∧ r.activeEpas.lookup key = none

/-- The EPA is gone once the channel is drained: a message that unregisters it is followed
by none that registers it again. -/
def Cleared (key : String) (r : ReplicaState V) : Prop :=
  Gone key r ∨ ∃ earlier ns name later, r.updates = earlier ++ .delete ns name :: later ∧
    epaKey ns name = key ∧ ∀ update ∈ later, update.upsertKey ≠ some key

/-- No EPA of the key is registered, and no tick dispatches a job for it. -/
def Unregistered (key : String) (r : ReplicaState V) : Prop :=
  r.activeEpas.lookup key = none ∧
  ∀ (parseDuration : String → Option ℕ) (me : String) (env : Surroundings) (now : ℕ)
    (s : Scheduler V), (∀ entry ∈ env.activeEpas, r.activeEpas.lookup entry.1 = some entry.2) →
    ∀ job ∈ (s.dispatch parseDuration me env now).2, job.1 ≠ key

lemma Gone.unregistered {key : String} {r : ReplicaState V} (h : Gone key r) :
    Unregistered key r := by
  refine ⟨h.2, fun parseDuration me env now s henv job hjob hkey => ?_⟩
  obtain ⟨entry, hentry, heq⟩ :=
    List.mem_map.1 (Scheduler.key_mem_of_dispatch parseDuration me env now s job hjob)
  have hlookup := henv entry hentry
  rw [heq, hkey, h.2] at hlookup
  cases hlookup

/-! ### The channel -/

/-- **The channel of a replica.** It is new, or an event leaves it and the scraper alone, and
no reconcile that is about to send has moved, or a reconcile has sent its message, or the
scraper has handled the oldest one. -/
lemma channel_cases {w w' : Cluster V} {e : Event} {me : String} {r' : ReplicaState V}
    (h : w.step e = some w') (hr' : w'.replicas.lookup me = some r') :
    (r'.updates = [] ∧ r'.activeEpas = ∅) ∨ ∃ r, w.replicas.lookup me = some r ∧
      ((r'.updates = r.updates ∧ r'.activeEpas = r.activeEpas ∧
        ∀ k stage, r.running.lookup k = some stage → (stage.message k).isSome →
          r'.running.lookup k = some stage) ∨
      (∃ k stage stage' update, e = .replica me (.send k) ∧ r.running.lookup k = some stage ∧
        stage.message k = some (update, stage') ∧ r'.updates = r.updates ++ [update] ∧
        r'.activeEpas = r.activeEpas ∧ ∀ k', k' ≠ k →
          r'.running.lookup k' = r.running.lookup k') ∨
      (∃ update, r.updates = update :: r'.updates ∧
        r'.activeEpas = (r.handleUpdate update).activeEpas ∧ r'.running = r.running)) := by
  rcases Cluster.step_cases h hr' with ⟨sets, -, rfl⟩ | ⟨r, hr, hcase⟩
  · exact .inl ⟨rfl, rfl⟩
  · refine .inr ⟨r, hr, ?_⟩
    rcases hcase with ⟨event, hpa, rfl, hstep⟩ | rfl | ⟨k, rfl⟩
    · cases ReplicaState.effect_of_step hstep with
      | setView sets => exact .inl ⟨rfl, rfl, fun k stage hk _ => hk⟩
      | markDraining => exact .inl ⟨rfl, rfl, fun k stage hk _ => hk⟩
      | @start k' hk' hidle =>
          refine .inl ⟨rfl, rfl, fun k stage hk _ => ?_⟩
          have hne : k ≠ k' := by
            rintro rfl
            rw [hk] at hidle
            cases hidle
          exact (AList.lookup_insert_ne hne).trans hk
      | @advance event k' stage₁ stage' hpa store hk' hnext =>
          refine .inl ⟨rfl, rfl, fun k stage hk hsome => ?_⟩
          show (r.setStage k' stage').running.lookup k = _
          rw [ReplicaState.lookup_setStage, if_neg, hk]
          rintro rfl
          obtain rfl := Option.some.inj (hk'.symm.trans hk)
          rw [hnext.message_eq_none] at hsome
          cases hsome
      | @send k' stage stage' update hk' hmessage =>
          refine .inr (.inl ⟨k', stage, stage', update, rfl, hk', hmessage, rfl, rfl, ?_⟩)
          exact fun k hne => AList.lookup_insert_ne hne
      | @finish k' result queue hk' hqueue =>
          refine .inl ⟨rfl, rfl, fun k stage hk hsome => ?_⟩
          have hne : k ≠ k' := by
            rintro rfl
            obtain rfl := Option.some.inj (hk'.symm.trans hk)
            cases hsome
          exact (AList.lookup_erase_ne hne).trans hk
      | @receive update updates hupdates =>
          have hframe := ReplicaState.handleUpdate_frame { r with updates := updates } update
          refine .inr (.inr ⟨update, by rw [hupdates, hframe.2.2.2], ?_, hframe.2.2.1⟩)
          rcases update with epa | ⟨ns, name⟩
          · simp only [ReplicaState.handleUpdate]
            split <;> rfl
          · rfl
    · exact .inl ⟨rfl, rfl, fun k stage hk _ => hk⟩
    · exact .inl ⟨rfl, rfl, fun k stage hk _ => hk⟩

section Channel

variable {key : String} {r r' : ReplicaState V} {update : EpaUpdate}

/-- A message that does not register the EPA. -/
lemma lookup_handleUpdate (hupdate : update.upsertKey ≠ some key)
    (h : r.activeEpas.lookup key = none) :
    (r.handleUpdate update).activeEpas.lookup key = none := by
  rcases update with epa | ⟨ns, name⟩
  · rcases hns : epa.metadata.ns with _ | ns <;> rcases hname : epa.metadata.name with _ | name
    all_goals simp only [ReplicaState.handleUpdate, EpaUpdate.upsertKey, hns, hname] at hupdate ⊢
    · exact h
    · exact h
    · exact h
    · have hne : key ≠ epaKey ns name := fun heq => hupdate (congrArg some heq.symm)
      rw [AList.lookup_insert_ne hne]
      exact h
  · by_cases hk : key = epaKey ns name
    · subst hk
      exact AList.lookup_erase _ _
    · exact (AList.lookup_erase_ne hk).trans h

lemma Gone.send (h : Gone key r) (hupdate : update.upsertKey ≠ some key)
    (hupdates : r'.updates = r.updates ++ [update]) (hactive : r'.activeEpas = r.activeEpas) :
    Gone key r' := by
  refine ⟨fun u hu => ?_, by rw [hactive, h.2]⟩
  rw [hupdates] at hu
  rcases List.mem_append.1 hu with hu | hu
  · exact h.1 u hu
  · rwa [List.mem_singleton.1 hu]

lemma Gone.receive (h : Gone key r) (hupdates : r.updates = update :: r'.updates)
    (hactive : r'.activeEpas = (r.handleUpdate update).activeEpas) : Gone key r' := by
  have hall := h.1
  rw [hupdates] at hall
  refine ⟨fun u hu => hall u (List.mem_cons_of_mem _ hu), ?_⟩
  rw [hactive]
  exact lookup_handleUpdate (hall update List.mem_cons_self) h.2

lemma Cleared.send (h : Cleared key r) (hupdate : update.upsertKey ≠ some key)
    (hupdates : r'.updates = r.updates ++ [update]) (hactive : r'.activeEpas = r.activeEpas) :
    Cleared key r' := by
  rcases h with hgone | ⟨earlier, ns, name, later, heq, hkey, hlater⟩
  · exact .inl (hgone.send hupdate hupdates hactive)
  · refine .inr ⟨earlier, ns, name, later ++ [update], by simp [hupdates, heq], hkey, ?_⟩
    intro u hu
    rcases List.mem_append.1 hu with hu | hu
    · exact hlater u hu
    · rwa [List.mem_singleton.1 hu]

lemma Cleared.receive (h : Cleared key r) (hupdates : r.updates = update :: r'.updates)
    (hactive : r'.activeEpas = (r.handleUpdate update).activeEpas) : Cleared key r' := by
  rcases h with hgone | ⟨earlier, ns, name, later, heq, hkey, hlater⟩
  · exact .inl (hgone.receive hupdates hactive)
  · rcases earlier with _ | ⟨u, earlier⟩
    · -- the message that unregisters the EPA is received
      obtain ⟨rfl, hrest⟩ := List.cons.inj (hupdates.symm.trans heq)
      subst hkey
      refine .inl ⟨by rwa [hrest], ?_⟩
      rw [hactive]
      exact AList.lookup_erase _ _
    · obtain ⟨rfl, hrest⟩ := List.cons.inj (hupdates.symm.trans heq)
      exact .inr ⟨earlier, ns, name, later, hrest, hkey, hlater⟩

end Channel

/-! ### From the check of the owner to the drained channel -/

section Run

variable {me key : String} {k : ResourceName} {w w' : Cluster V} {es : List Event}

/-- As long as no `Upsert` is sent, an EPA that is gone stays gone. -/
lemma gone_of_path (hpath : (reconcileSystem V).Path (NoUpsert me key) w es w')
    (h : ∀ r, w.replicas.lookup me = some r → Gone key r) :
    ∀ r, w'.replicas.lookup me = some r → Gone key r := by
  refine hpath.preserves (I := fun w => ∀ r, w.replicas.lookup me = some r → Gone key r) ?_ h
  intro w e w' h hno hs r' hr'
  rcases channel_cases hs hr' with ⟨hupdates, hactive⟩ | ⟨r, hr, hcase⟩
  · exact ⟨by simp [hupdates], by rw [hactive, AList.lookup_empty]⟩
  · rcases hcase with ⟨hupdates, hactive, -⟩ | ⟨k, stage, stage', update, rfl, hk, hmessage,
      hupdates, hactive, -⟩ | ⟨update, hupdates, hactive, -⟩
    · rw [Gone, hupdates, hactive]
      exact h r hr
    · have hupdate := hno k r update stage' rfl hr (by rw [hk]; exact hmessage)
      exact (h r hr).send hupdate hupdates hactive
    · exact (h r hr).receive hupdates hactive

/-- The message of a reconcile that is to unregister the EPA clears it, if no `Upsert` is
sent afterwards. -/
lemma cleared_of_path
    (hpath : (reconcileSystem V).Path (NoUpsert me (epaKey k.1 k.2)) w es w')
    (h : ∀ r, w.replicas.lookup me = some r → r.running.lookup k = some .notifyingDelete) :
    ∀ r, w'.replicas.lookup me = some r →
      r.running.lookup k = some .notifyingDelete ∨ Cleared (epaKey k.1 k.2) r := by
  refine hpath.preserves (I := fun w => ∀ r, w.replicas.lookup me = some r →
    r.running.lookup k = some .notifyingDelete ∨ Cleared (epaKey k.1 k.2) r) ?_
    fun r hr => .inl (h r hr)
  intro w e w' h hno hs r' hr'
  rcases channel_cases hs hr' with ⟨hupdates, hactive⟩ | ⟨r, hr, hcase⟩
  · exact .inr (.inl ⟨by simp [hupdates], by rw [hactive, AList.lookup_empty]⟩)
  · rcases hcase with ⟨hupdates, hactive, hrunning⟩ | ⟨k', stage, stage', update, rfl, hk',
      hmessage, hupdates, hactive, hrunning⟩ | ⟨update, hupdates, hactive, hrunning⟩
    · refine (h r hr).imp (fun hk => hrunning k _ hk rfl) fun hclear => ?_
      rw [Cleared, Gone, hupdates, hactive]
      exact hclear
    · have hupdate := hno k' r update stage' rfl hr (by rw [hk']; exact hmessage)
      rcases h r hr with hk | hclear
      · by_cases hkk : k = k'
        · subst hkk
          obtain rfl := Option.some.inj (hk'.symm.trans hk)
          obtain ⟨rfl, -⟩ := Prod.mk.inj (Option.some.inj hmessage)
          exact .inr (.inr ⟨r.updates, k.1, k.2, [], hupdates, rfl, by simp⟩)
        · exact .inl ((hrunning k hkk).trans hk)
      · exact .inr (hclear.send hupdate hupdates hactive)
    · rw [hrunning]
      exact (h r hr).imp_right fun hclear => hclear.receive hupdates hactive

end Run

/-- **Deletion at the owner.** A reconcile of the owner that has found its EPA under deletion
goes on to send a `Delete`.  Once it has sent it and the channel has been drained, the EPA
stays unregistered for as long as no `Upsert` of it is sent after the `Delete`.  A replica
that does not own the EPA ends the reconcile without a message. -/
theorem owner_unregisters_deleted_epa {me : String} {k : ResourceName} {w w₁ : Cluster V}
    {r : ReplicaState V} {epa : Epa} (hr : w.replicas.lookup me = some r)
    (hk : r.running.lookup k = some (.checking epa)) (hdel : isDeleting epa = true)
    (hs : (reconcileSystem V).step w (.replica me (.check k)) = some w₁) :
    (isEpaOwner me r.sets k.1 k.2 = true →
      (∀ r₁, w₁.replicas.lookup me = some r₁ → r₁.running.lookup k = some .notifyingDelete) ∧
      ∀ es₁ w₂ r₂ es₂ w₃ r₃ es₃ w₄ r₄,
        (reconcileSystem V).Path System.Any w₁ es₁ w₂ → w₂.replicas.lookup me = some r₂ →
        -- the `Delete` is still to be sent
        r₂.running.lookup k = some .notifyingDelete →
        (reconcileSystem V).Path (NoUpsert me (epaKey k.1 k.2)) w₂ es₂ w₃ →
        w₃.replicas.lookup me = some r₃ →
        -- it has been sent and the channel has been drained
        r₃.running.lookup k ≠ some .notifyingDelete → r₃.updates = [] →
        (reconcileSystem V).Path (NoUpsert me (epaKey k.1 k.2)) w₃ es₃ w₄ →
        w₄.replicas.lookup me = some r₄ → Unregistered (epaKey k.1 k.2) r₄) ∧
    (isEpaOwner me r.sets k.1 k.2 = false →
      w₁ = { w with
        replicas := w.replicas.insert me (r.setStage k (.finished (.ok .awaitChange))) }) := by
  obtain ⟨r₀, r', hpa, hr₀, hstep, rfl⟩ := Cluster.step_replica hs
  obtain rfl := Option.some.inj (hr.symm.trans hr₀)
  simp only [ReplicaState.step, hk, Option.some.injEq, Prod.mk.injEq] at hstep
  obtain ⟨rfl, rfl⟩ := hstep
  constructor
  · intro hown
    refine ⟨?_, ?_⟩
    · intro r₁ hr₁
      rw [Cluster.writeHpa_replicas, AList.lookup_insert] at hr₁
      obtain rfl := Option.some.inj hr₁
      rw [ReplicaState.lookup_setStage, if_pos rfl, Stage.afterCheck, if_pos hdel, if_pos hown]
    · intro es₁ w₂ r₂ es₂ w₃ r₃ es₃ w₄ r₄ _ hr₂ hk₂ hpath hr₃ hsent hdrained hlater hr₄
      have hstart : ∀ r, w₂.replicas.lookup me = some r →
          r.running.lookup k = some .notifyingDelete := by
        intro r hr
        rwa [Option.some.inj (hr.symm.trans hr₂)]
      have hgone : Gone (epaKey k.1 k.2) r₃ := by
        rcases (cleared_of_path hpath hstart r₃ hr₃).resolve_left hsent with
          hgone | ⟨earlier, ns, name, later, heq, -, -⟩
        · exact hgone
        · simp [hdrained] at heq
      have hend := gone_of_path hlater fun r hr => by
        rwa [Option.some.inj (hr.symm.trans hr₃)]
      exact (hend r₄ hr₄).unregistered
  · intro hother
    rw [Stage.afterCheck, if_pos hdel, hother]
    rfl

/-! ### An EPA that is registered and then deleted -/

/-- `webEpa` under deletion. -/
def deletedWebEpa : Epa :=
  { webEpa "15s" with metadata :=
    { (webEpa "15s").metadata with deletionTimestamp := some "2025-01-01T00:00:00Z" } }

/-- A replica registers an EPA whose deletion then begins, and reads it again. -/
def registerThenDelete (me : String) (k : ResourceName) (reconciled : List ReplicaEvent) :
    List Event :=
  [.join me bothActive, .putEpa (webEpa "15s")] ++ reconciled.map (.replica me) ++
    [.terminateEpa k "2025-01-01T00:00:00Z", .replica me (.start k), .replica me (.observe k)]

/-- The reconcile of a replica that does not own the EPA. -/
def skipped (k : ResourceName) : List ReplicaEvent :=
  [.start k, .observe k, .check k, .send k, .finish k, .receive]

/-- The reconcile of the owner. -/
def managed (k : ResourceName) : List ReplicaEvent :=
  [.start k, .observe k, .check k, .apply k, .send k, .finish k, .receive]

/-- The events of the owner from the message on. -/
def dropEpa (k : ResourceName) : List Event :=
  [.replica "replica-b" (.removeWindows k), .replica "replica-b" (.finish k),
    .replica "replica-b" .receive]

/-- An EPA registered at its owner is unregistered after its deletion. -/
theorem owner_unregisters_deleted_epa_web :
    ∃ (w w₃ : Cluster ℕ) (r r₃ : ReplicaState ℕ), w.replicas.lookup "replica-b" = some r ∧
      r.activeEpas.lookup (epaKey "default" "web") ≠ none ∧
      w₃.replicas.lookup "replica-b" = some r₃ ∧ Unregistered (epaKey "default" "web") r₃ := by
  have hrun : ((reconcileSystem ℕ).exec ⟨∅, ∅, ∅, []⟩ (registerThenDelete "replica-b"
      ("default", "web") (managed ("default", "web")))).any (fun w =>
        (w.replicas.lookup "replica-b").any (fun r => decide
          (r.running.lookup ("default", "web") = some (.checking deletedWebEpa) ∧
            isEpaOwner "replica-b" r.sets "default" "web" = true ∧
            r.activeEpas.lookup (epaKey "default" "web") ≠ none)) &&
        ((reconcileSystem ℕ).step w (.replica "replica-b" (.check ("default", "web")))).any
          (fun w₁ => ((reconcileSystem ℕ).step w₁
            (.replica "replica-b" (.send ("default", "web")))).any (fun w₂ =>
              ((reconcileSystem ℕ).exec w₂ (dropEpa ("default", "web"))).any (fun w₃ =>
                (w₃.replicas.lookup "replica-b").any (fun r₃ => decide
                  (r₃.running.lookup ("default", "web") ≠ some .notifyingDelete ∧
                    r₃.updates = [])))))) = true := by
    decide +kernel
  obtain ⟨w, -, hrun⟩ := (Option.any_eq_true _ _).1 hrun
  obtain ⟨hr, hrun⟩ := Bool.and_eq_true_iff.1 hrun
  obtain ⟨r, hr, hfacts⟩ := (Option.any_eq_true _ _).1 hr
  obtain ⟨hk, hown, hactive⟩ := of_decide_eq_true hfacts
  obtain ⟨w₁, hcheck, hrun⟩ := (Option.any_eq_true _ _).1 hrun
  obtain ⟨w₂, hsend, hrun⟩ := (Option.any_eq_true _ _).1 hrun
  obtain ⟨w₃, hrest, hrun⟩ := (Option.any_eq_true _ _).1 hrun
  obtain ⟨r₃, hr₃, hfacts⟩ := (Option.any_eq_true _ _).1 hrun
  obtain ⟨hsent, hdrained⟩ := of_decide_eq_true hfacts
  obtain ⟨hnotify, hclear⟩ :=
    (owner_unregisters_deleted_epa hr hk (by decide) hcheck).1 hown
  obtain ⟨r₁, -, -, hr₁, -⟩ := Cluster.step_replica hsend
  have hquiet : NoUpsert "replica-b" (epaKey "default" "web") w₁
      (.replica "replica-b" (.send ("default", "web"))) := by
    intro k r update stage heq hr hmessage
    obtain rfl : ("default", "web") = k := ReplicaEvent.send.inj (Event.replica.inj heq).2
    rw [hnotify r hr] at hmessage
    obtain ⟨rfl, -⟩ := Prod.mk.inj (Option.some.inj hmessage)
    exact nofun
  have hpath : (reconcileSystem ℕ).Path (NoUpsert "replica-b" (epaKey "default" "web")) w₁
      (.replica "replica-b" (.send ("default", "web")) :: dropEpa ("default", "web")) w₃ := by
    refine .cons hquiet hsend ((System.exec_eq_some_iff.1 hrest).restrict ?_)
    intro e he w k r update stage heq
    simp only [dropEpa, List.mem_cons, List.not_mem_nil, or_false] at he
    rcases he with rfl | rfl | rfl <;> cases heq
  exact ⟨w, w₃, r, r₃, hr, hactive, hr₃, hclear [] w₁ r₁ _ w₃ r₃ [] w₃ r₃ (.nil _) hr₁
    (hnotify r₁ hr₁) hpath hr₃ hsent hdrained (.nil _) hr₃⟩

/-- Run `before` and then `after`: the reconcile has run and the channel is drained, and the
replica still has the EPA. -/
def keepsWeb (me : String) (before after : List Event)
    (p : Cluster ℕ → ReplicaState ℕ → Bool) : Bool :=
  ((reconcileSystem ℕ).exec ⟨∅, ∅, ∅, []⟩ before).any fun w =>
    (w.replicas.lookup me).any (p w) &&
    ((reconcileSystem ℕ).exec w after).any fun w' => (w'.replicas.lookup me).any fun r' =>
      decide (r'.running.lookup ("default", "web") = none ∧ r'.updates = [] ∧
        r'.activeEpas.lookup (epaKey "default" "web") ≠ none)

lemma exists_of_keepsWeb {me : String} {before after : List Event}
    {p : Cluster ℕ → ReplicaState ℕ → Bool} (h : keepsWeb me before after p = true)
    (hsilent : ∀ e ∈ after, ∀ k, e ≠ .replica me (.send k)) :
    ∃ (w w' : Cluster ℕ) (es : List Event) (r r' : ReplicaState ℕ),
      (reconcileSystem ℕ).Reachable System.Any w ∧ w.replicas.lookup me = some r ∧
      p w r = true ∧
      (reconcileSystem ℕ).Path (NoUpsert me (epaKey "default" "web")) w es w' ∧
      w'.replicas.lookup me = some r' ∧ r'.running.lookup ("default", "web") = none ∧
      r'.updates = [] ∧ r'.activeEpas.lookup (epaKey "default" "web") ≠ none := by
  obtain ⟨w, hw, h⟩ := (Option.any_eq_true _ _).1 h
  obtain ⟨hr, h⟩ := Bool.and_eq_true_iff.1 h
  obtain ⟨r, hr, hp⟩ := (Option.any_eq_true _ _).1 hr
  obtain ⟨w', hw', h⟩ := (Option.any_eq_true _ _).1 h
  obtain ⟨r', hr', h⟩ := (Option.any_eq_true _ _).1 h
  obtain ⟨hidle, hdrained, hactive⟩ := of_decide_eq_true h
  refine ⟨w, w', after, r, r', .of_exec rfl hw, hr, hp, ?_, hr', hidle, hdrained, hactive⟩
  exact (System.exec_eq_some_iff.1 hw').restrict fun e he w k _ _ _ heq =>
    absurd heq (hsilent e he k)

/-- A replica that does not own a deleted EPA keeps it registered; so does the owner if the
EPA is gone before its reconcile reads it. -/
theorem deleted_epa_stays_registered :
    (∃ (w w' : Cluster ℕ) (es : List Event) (r r' : ReplicaState ℕ),
      (reconcileSystem ℕ).Reachable System.Any w ∧
      w.replicas.lookup "replica-a" = some r ∧
      r.running.lookup ("default", "web") = some (.checking deletedWebEpa) ∧
      isDeleting deletedWebEpa = true ∧
      (reconcileSystem ℕ).Path (NoUpsert "replica-a" (epaKey "default" "web")) w es w' ∧
      w'.replicas.lookup "replica-a" = some r' ∧ r'.running.lookup ("default", "web") = none ∧
      r'.updates = [] ∧ r'.activeEpas.lookup (epaKey "default" "web") ≠ none) ∧
    ∃ (w w' : Cluster ℕ) (es : List Event) (r r' : ReplicaState ℕ),
      (reconcileSystem ℕ).Reachable System.Any w ∧
      w.replicas.lookup "replica-b" = some r ∧
      r.running.lookup ("default", "web") = some .observing ∧
      w.epas.lookup ("default", "web") = none ∧
      (reconcileSystem ℕ).Path (NoUpsert "replica-b" (epaKey "default" "web")) w es w' ∧
      w'.replicas.lookup "replica-b" = some r' ∧ r'.running.lookup ("default", "web") = none ∧
      r'.updates = [] ∧ r'.activeEpas.lookup (epaKey "default" "web") ≠ none := by
  constructor
  · have hrun : keepsWeb "replica-a"
        (registerThenDelete "replica-a" ("default", "web") (skipped ("default", "web")))
        [.replica "replica-a" (.check ("default", "web")),
          .replica "replica-a" (.finish ("default", "web"))]
        (fun _ r => decide (r.running.lookup ("default", "web") =
          some (.checking deletedWebEpa))) = true := by decide +kernel
    obtain ⟨w, w', es, r, r', hreach, hr, hk, hend⟩ := exists_of_keepsWeb hrun (by simp)
    exact ⟨w, w', es, r, r', hreach, hr, of_decide_eq_true hk, by decide, hend⟩
  · have hrun : keepsWeb "replica-b"
        ([.join "replica-b" bothActive, .putEpa (webEpa "15s")] ++
          (managed ("default", "web")).map (.replica "replica-b") ++
          [.terminateEpa ("default", "web") "2025-01-01T00:00:00Z", .removeEpa ("default", "web"),
            .replica "replica-b" (.start ("default", "web"))])
        [.replica "replica-b" (.observe ("default", "web")),
          .replica "replica-b" (.finish ("default", "web"))]
        (fun w r => decide (r.running.lookup ("default", "web") = some .observing ∧
          w.epas.lookup ("default", "web") = none)) = true := by decide +kernel
    obtain ⟨w, w', es, r, r', hreach, hr, hk, hend⟩ := exists_of_keepsWeb hrun (by simp)
    obtain ⟨hk, hnone⟩ := of_decide_eq_true hk
    exact ⟨w, w', es, r, r', hreach, hr, hk, hnone, hend⟩

end ExternalPodAutoscaler.Controller
