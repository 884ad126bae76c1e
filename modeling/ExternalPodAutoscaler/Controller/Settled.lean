/-
The autoscalers of a settled cluster (`Reconciler::reconcile` and `Controller::run`).

The autoscaler of an EPA is written by a replica that owns the EPA in its own view when its
reconcile asks; the other replicas skip it, and no reconcile is queued when the ownership
moves.  An EPA is covered while some replica that owns it still has a reconcile ahead that
will read or has read its latest version.  It is vacant while no replica may own it in its own
view: then the next owner is to have a reconcile ahead, as a replica has that starts, since it
lists all EPAs.

The main result of this file is `settled_clusters_have_hpas`: every EPA of a settled cluster
has the autoscaler of its latest spec, in every run in which the ownership moves only so: an
owner with an unfinished reconcile leaves the EPA to another owner that still has a reconcile
ahead, or vacant; and a vacant EPA that still lacks its autoscaler is taken over by a replica that
has a reconcile ahead.  The invariant is that each EPA has its autoscaler, is covered or is vacant
(`HpaInv`).  In the run of `settled_cluster_without_hpa` the owner crashes before its reconcile.
-/
import ExternalPodAutoscaler.Controller.Reconcile

namespace ExternalPodAutoscaler.Controller

open ExternalPodAutoscaler.Api ExternalPodAutoscaler.Lib ExternalPodAutoscaler.Membership
open ExternalPodAutoscaler.Scraper ExternalPodAutoscaler.Store

variable {V : Type}

/-- The replica owns the EPA in its own view. -/
def Owns (id : String) (r : ReplicaState V) (k : ResourceName) : Prop :=
  isEpaOwner id r.sets k.1 k.2 = true

/-- A reconcile that is not past the write of the autoscaler, or that will be queued again. -/
def Stage.beforeWrite : Stage → Bool
  | .observing | .checking _ | .applying _ _ | .finished (.error _) => true
  | _ => false

/-- The replica has a reconcile of the EPA queued or not past its write. -/
def Unfinished (r : ReplicaState V) (k : ResourceName) : Prop :=
  k ∈ r.queue ∨ ∃ stage, r.running.lookup k = some stage ∧ stage.beforeWrite = true

/-- The reconcile will read the EPA, has read this version of it, or will be queued again. -/
def Stage.Fresh (epa : Epa) : Stage → Prop
  | .observing => True
  | .checking epa' => epa' = epa
  | .applying epa' _ => epa' = epa
  | .finished (.error _) => True
  | _ => False

/-- The replica still has a reconcile ahead of this version of the EPA. -/
def Pending (r : ReplicaState V) (k : ResourceName) (epa : Epa) : Prop :=
  k ∈ r.queue ∨ ∃ stage, r.running.lookup k = some stage ∧ stage.Fresh epa

/-- The replica has no write of the autoscaler under way. -/
def NoWrite (r : ReplicaState V) (k : ResourceName) : Prop :=
  ∀ epa hpa, r.running.lookup k ≠ some (.applying epa hpa)

/-- No active replica of the view is heavier, so that the replica owns the EPA but for a tie. -/
def MayOwn (id : String) (sets : ReplicaSets) (k : ResourceName) : Prop :=
  HasMaxKey (weight (epaKey k.1 k.2)) sets.active.toList id

/-- No replica may own the EPA in its own view. -/
def Vacant (replicas : AList fun _ : String => ReplicaState V) (k : ResourceName) : Prop :=
  ∀ id r, replicas.lookup id = some r → ¬ MayOwn id r.sets k

/-- The EPA has the autoscaler of its spec. -/
def HasHpa (w : Cluster V) (k : ResourceName) (epa : Epa) : Prop :=
  ∃ hpa, buildHpaSpec epa = .ok hpa ∧ w.hpas.lookup k = some hpa

/-- If the EPA is not under deletion, another owner still has a reconcile ahead of its latest
version. -/
def HandedOver (w : Cluster V) (id : String) (k : ResourceName) : Prop :=
  ∀ epa, w.epas.lookup k = some epa → isDeleting epa = false →
    ∃ id' r', id' ≠ id ∧ w.replicas.lookup id' = some r' ∧ Owns id' r' k ∧ Pending r' k epa

/-- If the EPA is not under deletion, it has its autoscaler or a replica owns it. -/
def Attended (w : Cluster V) (k : ResourceName) : Prop :=
  ∀ epa, w.epas.lookup k = some epa → isDeleting epa = false →
    HasHpa w k epa ∨ ∃ id r, w.replicas.lookup id = some r ∧ Owns id r k

/-- If the EPA is not under deletion, the replica owns it in the view and has a reconcile ahead of
its latest version. -/
def TakesOver (w : Cluster V) (id : String) (r : ReplicaState V) (sets : ReplicaSets)
    (k : ResourceName) : Prop :=
  ∀ epa, w.epas.lookup k = some epa → isDeleting epa = false →
    isEpaOwner id sets k.1 k.2 = true ∧ Pending r k epa

/-- The ownership moves to a replica with a reconcile ahead.  An owner with an unfinished reconcile
that ceases to own the EPA has no write under way, and has handed the EPA over or leaves it
vacant; and a replica that may own the EPA from now on takes it over, unless the EPA is
attended.  Where replicas of the same weight all disown an EPA, it is not created. -/
def StaysResponsible (w : Cluster V) : Event → Prop
  | .putEpa epa => isDeleting epa = false → ∀ k, epaNameNamespace epa.metadata = .ok k →
      (∃ id r, w.replicas.lookup id = some r ∧ Owns id r k) ∨ Vacant w.replicas k
  | .join id sets => ∀ k, MayOwn id sets k → isEpaOwner id sets k.1 k.2 = true ∨ Attended w k
  | .replica id (.setView sets) => ∀ r, w.replicas.lookup id = some r → ∀ k,
      (Owns id r k → Unfinished r k → isEpaOwner id sets k.1 k.2 = true ∨
        NoWrite r k ∧ (HandedOver w id k ∨
          ¬ MayOwn id sets k ∧ Vacant (w.replicas.erase id) k)) ∧
      (MayOwn id sets k → TakesOver w id r sets k ∨ Attended w k)
  | .leave id => ∀ r, w.replicas.lookup id = some r → ∀ k, Owns id r k → Unfinished r k →
      NoWrite r k ∧ (HandedOver w id k ∨ Vacant (w.replicas.erase id) k)
  | _ => True

/-- No reconcile is queued or running, and all replicas hold the same view, whose active set
is the set of the live replicas that are not draining and is not empty. -/
def Settled (w : Cluster V) : Prop :=
  (∀ id r, w.replicas.lookup id = some r → r.queue = [] ∧ ∀ k, r.running.lookup k = none) ∧
  ∃ view : ReplicaSets, (∀ id r, w.replicas.lookup id = some r → r.sets.SameView view) ∧
    (∃ id, id ∈ view.active) ∧
    ∀ id, id ∈ view.active ↔ ∃ r, w.replicas.lookup id = some r ∧ r.draining = false

/-! ### The invariant -/

/-- Some owner has a reconcile ahead. -/
def Covered (replicas : AList fun _ : String => ReplicaState V) (k : ResourceName) (epa : Epa) :
    Prop :=
  ∃ id r, replicas.lookup id = some r ∧ Owns id r k ∧ Pending r k epa

/-- The version of an EPA that a reconcile has read is the latest one, or a reconcile is
queued. -/
def Latest (epas : AList fun _ : ResourceName => Epa) (r : ReplicaState V) (k : ResourceName)
    (epa : Epa) : Prop :=
  epaNameNamespace epa.metadata = .ok k ∧
    ∀ latest, epas.lookup k = some latest → epa = latest ∨ k ∈ r.queue

/-- What is known of a reconcile; only an owner writes. -/
def StageOk (epas : AList fun _ : ResourceName => Epa) (id : String) (r : ReplicaState V)
    (k : ResourceName) : Stage → Prop
  | .checking epa => Latest epas r k epa
  | .applying epa hpa => Latest epas r k epa ∧ buildHpaSpec epa = .ok hpa ∧ Owns id r k
  | _ => True

/-- Each EPA that is not under deletion has its autoscaler, is covered or is vacant. -/
structure HpaInv (w : Cluster V) : Prop where
  named : ∀ k epa, w.epas.lookup k = some epa → epaNameNamespace epa.metadata = .ok k
  landed : w.inFlight = []
  stages : ∀ id r, w.replicas.lookup id = some r → ∀ k stage,
    r.running.lookup k = some stage → StageOk w.epas id r k stage
  covered : ∀ k epa, w.epas.lookup k = some epa → isDeleting epa = false →
    HasHpa w k epa ∨ Covered w.replicas k epa ∨ Vacant w.replicas k

section Facts

variable {epas epas' : AList fun _ : ResourceName => Epa} {id : String} {r r' : ReplicaState V}
  {k : ResourceName} {epa : Epa} {stage : Stage}

lemma Owns.mayOwn (h : Owns id r k) : MayOwn id r.sets k := by
  have howner := isEpaOwner_iff.1 h
  rw [getEpaOwner_eq] at howner
  exact maxByKey_hasMaxKey howner

lemma Vacant.not_owns {replicas : AList fun _ : String => ReplicaState V} (h : Vacant replicas k)
    (hr : replicas.lookup id = some r) : ¬ Owns id r k := fun howns => h id r hr howns.mayOwn

/-- A replica whose view may own nothing more leaves a vacant EPA vacant. -/
lemma Vacant.insert {replicas : AList fun _ : String => ReplicaState V}
    (h : ∀ id' r', id' ≠ id → replicas.lookup id' = some r' → ¬ MayOwn id' r'.sets k)
    (hid : ¬ MayOwn id r.sets k) : Vacant (replicas.insert id r) k := by
  intro id' r' hr'
  rcases lookup_insert_eq_some_iff.1 hr' with ⟨rfl, rfl⟩ | ⟨hne, hr'⟩
  · exact hid
  · exact h id' r' hne hr'

lemma Stage.Fresh.beforeWrite (h : stage.Fresh epa) : stage.beforeWrite = true := by
  rcases stage with _ | _ | _ | _ | _ | _ | (e | a) <;> first | rfl | exact h.elim

lemma Pending.unfinished (h : Pending r k epa) : Unfinished r k :=
  h.imp_right fun ⟨stage, hk, hfresh⟩ => ⟨stage, hk, hfresh.beforeWrite⟩

/-- What is known of a reconcile stays true while its replica owns the EPA, its queue keeps
the EPA, and the EPA does not change. -/
lemma StageOk.mono (h : StageOk epas id r k stage) (howns : Owns id r k → Owns id r' k)
    (hqueue : k ∈ r.queue → k ∈ r'.queue)
    (hepas : ∀ latest, epas'.lookup k = some latest → epas.lookup k = some latest ∨
      k ∈ r'.queue) : StageOk epas' id r' k stage := by
  have hlatest : ∀ epa, Latest epas r k epa → Latest epas' r' k epa := by
    rintro epa ⟨hname, hlatest⟩
    refine ⟨hname, fun latest hl => ?_⟩
    rcases hepas latest hl with hl | hq
    · exact (hlatest latest hl).imp_right hqueue
    · exact .inr hq
  cases stage with
  | checking epa => exact hlatest epa h
  | applying epa hpa => exact ⟨hlatest epa h.1, h.2.1, howns h.2.2⟩
  | _ => trivial

end Facts

/-! ### Events of the API and of the membership -/

section Steps

variable {w w' : Cluster V} {id : String} {r r' : ReplicaState V} {k : ResourceName} {epa : Epa}

/-- Storing an EPA queues its reconcile at every replica. -/
lemma HpaInv.storeEpa (h : HpaInv w) (hname : epaNameNamespace epa.metadata = .ok k)
    (howner : isDeleting epa = false →
      (∃ id r, w.replicas.lookup id = some r ∧ Owns id r k) ∨ Vacant w.replicas k) :
    HpaInv (w.storeEpa k epa) := by
  have hqueue : ∀ (r : ReplicaState V) k', k' ∈ r.queue → k' ∈ (r.enqueue k).queue :=
    fun r k' hk' => List.mem_insert_iff.2 (.inr hk')
  refine ⟨?_, h.landed, ?_, ?_⟩
  · intro k' epa' hk'
    rcases lookup_insert_eq_some_iff.1 hk' with ⟨rfl, rfl⟩ | ⟨-, hk'⟩
    · exact hname
    · exact h.named k' epa' hk'
  · intro id r' hr' k' stage hstage
    rw [Cluster.lookup_storeEpa] at hr'
    obtain ⟨r, hr, rfl⟩ := Option.map_eq_some_iff.1 hr'
    refine (h.stages id r hr k' stage hstage).mono (fun howns => howns) (hqueue r k') ?_
    intro latest hlatest
    rcases lookup_insert_eq_some_iff.1 hlatest with ⟨rfl, -⟩ | ⟨-, hlatest⟩
    · exact .inr (List.mem_insert_iff.2 (.inl rfl))
    · exact .inl hlatest
  · intro k' epa' hk' hlive
    have hcover : ∀ id r, w.replicas.lookup id = some r → Owns id r k' →
        Pending (r.enqueue k) k' epa' → Covered (w.storeEpa k epa).replicas k' epa' := by
      intro id r hr howns hpending
      refine ⟨id, r.enqueue k, ?_, howns, hpending⟩
      rw [Cluster.lookup_storeEpa, hr]
      rfl
    have hvacant : Vacant w.replicas k' → Vacant (w.storeEpa k epa).replicas k' := by
      intro hv id r' hr'
      rw [Cluster.lookup_storeEpa] at hr'
      obtain ⟨r, hr, rfl⟩ := Option.map_eq_some_iff.1 hr'
      exact hv id r hr
    rcases lookup_insert_eq_some_iff.1 hk' with ⟨rfl, rfl⟩ | ⟨-, hk'⟩
    · rcases howner hlive with ⟨id, r, hr, howns⟩ | hv
      · exact .inr (.inl (hcover id r hr howns (.inl (List.mem_insert_iff.2 (.inl rfl)))))
      · exact .inr (.inr (hvacant hv))
    · rcases h.covered k' epa' hk' hlive with hhpa | ⟨id, r, hr, howns, hpending⟩ | hv
      · exact .inl hhpa
      · exact .inr (.inl (hcover id r hr howns (hpending.imp_left (hqueue r k'))))
      · exact .inr (.inr (hvacant hv))

lemma HpaInv.removeEpa (h : HpaInv w) (k : ResourceName) :
    HpaInv { w with epas := w.epas.erase k } := by
  have hsub : ∀ k' epa', (w.epas.erase k).lookup k' = some epa' →
      w.epas.lookup k' = some epa' := fun k' epa' hk' => (lookup_erase_eq_some_iff.1 hk').2
  refine ⟨fun k' epa' hk' => h.named k' epa' (hsub k' epa' hk'), h.landed, ?_, ?_⟩
  · intro id r hr k' stage hstage
    exact (h.stages id r hr k' stage hstage).mono (fun howns => howns) (fun hq => hq)
      fun latest hlatest => .inl (hsub k' latest hlatest)
  · intro k' epa' hk' hlive
    exact h.covered k' epa' (hsub k' epa' hk') hlive

/-- The autoscaler of an EPA is owned by it and not collected. -/
lemma HpaInv.collectHpa (h : HpaInv w) {hpa : Hpa} (hk : w.hpas.lookup k = some hpa)
    (hgone : ¬ (w.epas.lookup k).any (Cluster.ownedBy hpa) = true) :
    HpaInv { w with hpas := w.hpas.erase k } := by
  refine ⟨h.named, h.landed, h.stages, fun k' epa' hk' hlive => ?_⟩
  refine (h.covered k' epa' hk' hlive).imp_left ?_
  rintro ⟨hpa', hbuild, hlookup⟩
  refine ⟨hpa', hbuild, ?_⟩
  have hne : k' ≠ k := by
    rintro rfl
    obtain rfl := Option.some.inj (hk.symm.trans hlookup)
    obtain ⟨ns, name, uid, -, huid, rfl⟩ := buildHpaSpec_eq_ok.1 hbuild
    exact hgone (by simp [hk', Cluster.ownedBy, hpaOf, huid])
  exact lookup_erase_eq_some_iff.2 ⟨hne, hlookup⟩

/-- A replica that starts has a reconcile ahead of every EPA. -/
lemma HpaInv.join (h : HpaInv w) (hnew : id ∉ w.replicas) {sets : ReplicaSets}
    (hok : StaysResponsible w (.join id sets)) :
    HpaInv { w with replicas := w.replicas.insert id (.start sets w.epas.keys) } := by
  refine ⟨h.named, h.landed, ?_, ?_⟩
  · intro id' r' hr' k' stage hstage
    rcases lookup_insert_eq_some_iff.1 hr' with ⟨rfl, rfl⟩ | ⟨-, hr'⟩
    · have hnone := AList.lookup_empty (β := fun _ : ResourceName => Stage) k'
      rw [ReplicaState.start, hnone] at hstage
      cases hstage
    · exact h.stages id' r' hr' k' stage hstage
  · intro k' epa' hk' hlive
    rcases h.covered k' epa' hk' hlive with hhpa | ⟨id', r', hr', howns, hpending⟩ | hv
    · exact .inl hhpa
    · have hne : id' ≠ id := by
        rintro rfl
        exact hnew (AList.lookup_isSome.1 (by simp [hr']))
      exact .inr (.inl ⟨id', r', lookup_insert_eq_some_iff.2 (.inr ⟨hne, hr'⟩), howns, hpending⟩)
    · by_cases hmay : MayOwn id sets k'
      · rcases hok k' hmay with howner | hattended
        · have hlisted : k' ∈ w.epas.keys := AList.lookup_isSome.1 (by simp [hk'])
          exact .inr (.inl ⟨id, _, AList.lookup_insert _, howner, .inl hlisted⟩)
        · refine .inl ((hattended epa' hk' hlive).resolve_right ?_)
          rintro ⟨id', r', hr', howns⟩
          exact hv.not_owns hr' howns
      · exact .inr (.inr (.insert (fun id' r' _ hr' => hv id' r' hr') hmay))

/-- No write is under way where no reconcile is applying. -/
lemma writes_eq_nil (hno : ∀ k epa hpa, r.running.lookup k ≠ some (.applying epa hpa)) :
    Cluster.writes r = [] := by
  rw [Cluster.writes, List.filterMap_eq_nil_iff]
  rintro ⟨k, stage⟩ hmem
  have hk : r.running.lookup k = some stage := AList.mem_lookup_iff.2 hmem
  split
  · rename_i epa hpa heq
    exact absurd (hk.trans (congrArg some heq)) (hno k epa hpa)
  · rfl

lemma HpaInv.leave (h : HpaInv w) (hr : w.replicas.lookup id = some r)
    (hok : StaysResponsible w (.leave id)) :
    HpaInv { w with
      replicas := w.replicas.erase id
      inFlight := w.inFlight ++ Cluster.writes r } := by
  have hwrites : Cluster.writes r = [] := by
    refine writes_eq_nil fun k epa hpa hk => ?_
    obtain ⟨-, -, howns⟩ := h.stages id r hr k _ hk
    exact (hok r hr k howns (.inr ⟨_, hk, rfl⟩)).1 epa hpa hk
  refine ⟨h.named, by rw [hwrites, List.append_nil]; exact h.landed, ?_, ?_⟩
  · intro id' r' hr' k' stage hstage
    exact h.stages id' r' (lookup_erase_eq_some_iff.1 hr').2 k' stage hstage
  · intro k' epa' hk' hlive
    rcases h.covered k' epa' hk' hlive with hhpa | ⟨id', r', hr', howns, hpending⟩ | hv
    · exact .inl hhpa
    · refine .inr ?_
      by_cases hid : id' = id
      · subst hid
        obtain rfl := Option.some.inj (hr.symm.trans hr')
        obtain ⟨-, hother | hvacant⟩ := hok r hr k' howns hpending.unfinished
        · obtain ⟨id₂, r₂, hne, hr₂, howns₂, hahead⟩ := hother epa' hk' hlive
          exact .inl ⟨id₂, r₂, lookup_erase_eq_some_iff.2 ⟨hne, hr₂⟩, howns₂, hahead⟩
        · exact .inr hvacant
      · exact .inl ⟨id', r', lookup_erase_eq_some_iff.2 ⟨hid, hr'⟩, howns, hpending⟩
    · exact .inr (.inr fun id' r' hr' => hv id' r' (lookup_erase_eq_some_iff.1 hr').2)

/-! ### Events of a replica -/

lemma covered_self (replicas : AList fun _ : String => ReplicaState V) (howns : Owns id r' k)
    (hpending : Pending r' k epa) : Covered (replicas.insert id r') k epa :=
  ⟨id, r', AList.lookup_insert _, howns, hpending⟩

/-- An event of one replica: what is to be shown of its reconciles, of the EPAs it covers, of the
autoscalers that exist, and of the EPAs that are vacant. -/
lemma HpaInv.of_replica (h : HpaInv w) (hr : w.replicas.lookup id = some r) (write : Option Hpa)
    (hstages : ∀ k stage, r'.running.lookup k = some stage → StageOk w.epas id r' k stage)
    (hkeep : ∀ k epa, w.epas.lookup k = some epa → isDeleting epa = false → Owns id r k →
      Pending r k epa →
      HasHpa ({ w with replicas := w.replicas.insert id r' }.writeHpa write) k epa ∨
        Covered (w.replicas.insert id r') k epa ∨ Vacant (w.replicas.insert id r') k)
    (hhpa : ∀ k epa, w.epas.lookup k = some epa → HasHpa w k epa →
      HasHpa ({ w with replicas := w.replicas.insert id r' }.writeHpa write) k epa ∨
        Covered (w.replicas.insert id r') k epa)
    (hvacant : ∀ k epa, w.epas.lookup k = some epa → isDeleting epa = false →
      Vacant w.replicas k →
      HasHpa ({ w with replicas := w.replicas.insert id r' }.writeHpa write) k epa ∨
        Covered (w.replicas.insert id r') k epa ∨ Vacant (w.replicas.insert id r') k) :
    HpaInv ({ w with replicas := w.replicas.insert id r' }.writeHpa write) := by
  refine ⟨?_, ?_, ?_, ?_⟩
  · rw [Cluster.writeHpa_epas]
    exact h.named
  · rw [Cluster.writeHpa_inFlight]
    exact h.landed
  · rw [Cluster.writeHpa_epas, Cluster.writeHpa_replicas]
    intro id' r₁ hr₁ k stage hstage
    rcases lookup_insert_eq_some_iff.1 hr₁ with ⟨rfl, rfl⟩ | ⟨-, hr₁⟩
    · exact hstages k stage hstage
    · exact h.stages id' r₁ hr₁ k stage hstage
  · rw [Cluster.writeHpa_epas, Cluster.writeHpa_replicas]
    intro k epa hk hlive
    rcases h.covered k epa hk hlive with hold | ⟨id', r₁, hr₁, howns, hpending⟩ | hv
    · exact (hhpa k epa hk hold).imp_right .inl
    · by_cases hid : id' = id
      · subst hid
        obtain rfl := Option.some.inj (hr.symm.trans hr₁)
        exact hkeep k epa hk hlive howns hpending
      · exact .inr (.inl ⟨id', r₁, lookup_insert_eq_some_iff.2 (.inr ⟨hid, hr₁⟩), howns, hpending⟩)
    · exact hvacant k epa hk hlive hv

/-- An EPA stays vacant while no view changes. -/
lemma vacant_insert (hr : w.replicas.lookup id = some r) (hsets : r'.sets = r.sets)
    (hv : Vacant w.replicas k) : Vacant (w.replicas.insert id r') k := by
  refine .insert (fun id' r₁ _ hr₁ => hv id' r₁ hr₁) ?_
  rw [hsets]
  exact hv id r hr

/-- An event that neither writes an autoscaler nor ends a reconcile that is still ahead. -/
lemma HpaInv.of_quiet (h : HpaInv w) (hr : w.replicas.lookup id = some r)
    (hsets : r'.sets = r.sets)
    (hstages : ∀ k stage, r'.running.lookup k = some stage → StageOk w.epas id r' k stage)
    (hpending : ∀ k epa, w.epas.lookup k = some epa → isDeleting epa = false → Owns id r k →
      Pending r k epa → Pending r' k epa) :
    HpaInv { w with replicas := w.replicas.insert id r' } := by
  refine h.of_replica hr none hstages (fun k epa hk hlive howns hp => .inr (.inl ?_))
    (fun k epa hk hhpa => .inl hhpa) fun k epa _ _ hv => .inr (.inr (vacant_insert hr hsets hv))
  refine covered_self _ ?_ (hpending k epa hk hlive howns hp)
  rwa [Owns, hsets]

lemma HpaInv.setView (h : HpaInv w) (hr : w.replicas.lookup id = some r) (sets : ReplicaSets)
    (hok : StaysResponsible w (.replica id (.setView sets))) :
    HpaInv { w with replicas := w.replicas.insert id { r with sets := sets } } := by
  have hvacate : ∀ k, ¬ MayOwn id sets k → Vacant (w.replicas.erase id) k →
      Vacant (w.replicas.insert id { r with sets := sets }) k := fun k hmay hv =>
    .insert (fun id' r' hne hr' => hv id' r' (lookup_erase_eq_some_iff.2 ⟨hne, hr'⟩)) hmay
  refine h.of_replica hr none ?_ ?_ (fun k epa hk hhpa => .inl hhpa) ?_
  · intro k stage hstage
    have hold := h.stages id r hr k stage hstage
    cases stage with
    | applying epa hpa =>
        rcases (hok r hr k).1 hold.2.2 (.inr ⟨_, hstage, rfl⟩) with hnew | ⟨hno, -⟩
        · exact ⟨hold.1, hold.2.1, hnew⟩
        · exact absurd hstage (hno epa hpa)
    | checking epa => exact hold
    | _ => trivial
  · intro k epa hk hlive howns hp
    refine .inr ?_
    rcases (hok r hr k).1 howns hp.unfinished with hnew | ⟨-, hother | ⟨hmay, hv⟩⟩
    · exact .inl (covered_self _ hnew hp)
    · obtain ⟨id', r', hne, hr', howns', hahead⟩ := hother epa hk hlive
      exact .inl ⟨id', r', lookup_insert_eq_some_iff.2 (.inr ⟨hne, hr'⟩), howns', hahead⟩
    · exact .inr (hvacate k hmay hv)
  · intro k epa hk hlive hv
    by_cases hmay : MayOwn id sets k
    · rcases (hok r hr k).2 hmay with htakes | hattended
      · obtain ⟨hnew, hp⟩ := htakes epa hk hlive
        exact .inr (.inl (covered_self _ hnew hp))
      · refine .inl ((hattended epa hk hlive).resolve_right ?_)
        rintro ⟨id', r', hr', howns⟩
        exact hv.not_owns hr' howns
    · exact .inr (.inr (hvacate k hmay fun id' r' hr' =>
        hv id' r' (lookup_erase_eq_some_iff.1 hr').2))

/-- The runtime starts a queued reconcile, which will read the EPA. -/
lemma HpaInv.start (h : HpaInv w) (hr : w.replicas.lookup id = some r) :
    HpaInv { w with
      replicas := w.replicas.insert id
        { r with queue := r.queue.erase k, running := r.running.insert k .observing } } := by
  refine h.of_quiet hr rfl ?_ ?_
  · intro k' stage hstage
    rcases lookup_insert_eq_some_iff.1 hstage with ⟨rfl, rfl⟩ | ⟨hkk, hstage⟩
    · trivial
    · have hok : StageOk w.epas id r k' stage := h.stages id r hr k' stage hstage
      exact hok.mono (fun howns => howns) (fun hq => (List.mem_erase_of_ne hkk).2 hq)
        fun latest hl => .inl hl
  · intro k' epa hk' hlive howns hp
    by_cases hkk : k' = k
    · subst hkk
      exact .inr ⟨.observing, AList.lookup_insert _, trivial⟩
    · rcases hp with hq | ⟨stage, hstage, hfresh⟩
      · exact .inl ((List.mem_erase_of_ne hkk).2 hq)
      · exact .inr ⟨stage, lookup_insert_eq_some_iff.2 (.inr ⟨hkk, hstage⟩), hfresh⟩

/-- A reconcile that has nothing ahead ends, or its result queues it again. -/
lemma HpaInv.finish (h : HpaInv w) (hr : w.replicas.lookup id = some r)
    {result : Except ReconcileError Action} {queue : List ResourceName}
    (hk : r.running.lookup k = some (.finished result))
    (hqueue : queue = r.queue.insert k ∨ queue = r.queue ∧ result = .ok .awaitChange) :
    HpaInv { w with
      replicas := w.replicas.insert id
        { r with running := r.running.erase k, queue := queue } } := by
  have hsub : ∀ k', k' ∈ r.queue → k' ∈ queue := by
    intro k' hk'
    rcases hqueue with rfl | ⟨rfl, -⟩
    · exact List.mem_insert_iff.2 (.inr hk')
    · exact hk'
  refine h.of_quiet hr rfl ?_ ?_
  · intro k' stage hstage
    obtain ⟨-, hstage⟩ := lookup_erase_eq_some_iff.1 hstage
    have hok : StageOk w.epas id r k' stage := h.stages id r hr k' stage hstage
    exact hok.mono (fun howns => howns) (hsub k') fun latest hl => .inl hl
  · intro k' epa hk' hlive howns hp
    rcases hp with hq | ⟨stage, hstage, hfresh⟩
    · exact .inl (hsub k' hq)
    · by_cases hkk : k' = k
      · subst hkk
        obtain rfl := Option.some.inj (hk.symm.trans hstage)
        rcases hqueue with rfl | ⟨-, rfl⟩
        · exact .inl (List.mem_insert_iff.2 (.inl rfl))
        · exact hfresh.elim
      · exact .inr ⟨stage, lookup_erase_eq_some_iff.2 ⟨hkk, hstage⟩, hfresh⟩

/-- What is known of a reconcile after a step of it. -/
lemma stageOk_next {epas : AList fun _ : ResourceName => Epa} {stage stage' : Stage}
    {hpa : Option Hpa} (hok : StageOk epas id r k stage)
    (hnamed : ∀ epa, epas.lookup k = some epa → epaNameNamespace epa.metadata = .ok k)
    (hnext : ReplicaState.Next id epas r.sets k stage stage' hpa) :
    StageOk epas id r k stage' := by
  cases hnext with
  | observe =>
      rcases hk : epas.lookup k with _ | epa
      · trivial
      · refine ⟨hnamed epa hk, fun latest hl => .inl ?_⟩
        exact Option.some.inj (hk.symm.trans hl)
  | check epa =>
      unfold Stage.afterCheck
      split
      · split <;> trivial
      · split
        · rename_i howns
          split
          · rename_i hpa hbuild
            exact ⟨hok, hbuild, howns⟩
          · trivial
        · trivial
  | _ => trivial

/-- A write under way is the autoscaler of the EPA that was read, under the name of the
EPA. -/
lemma write_of_next {epas : AList fun _ : ResourceName => Epa} {stage stage' : Stage} {hpa : Hpa}
    (hok : StageOk epas id r k stage)
    (hnext : ReplicaState.Next id epas r.sets k stage stage' (some hpa)) :
    ∃ epa, stage = .applying epa hpa ∧ Latest epas r k epa ∧ buildHpaSpec epa = .ok hpa ∧
      Owns id r k ∧ hpa.key = k := by
  have hwrite : ∀ epa hpa', stage = .applying epa hpa' → some hpa' = some hpa →
      ∃ epa, stage = .applying epa hpa ∧ Latest epas r k epa ∧ buildHpaSpec epa = .ok hpa ∧
        Owns id r k ∧ hpa.key = k := by
    rintro epa hpa' rfl heq
    obtain rfl := Option.some.inj heq
    exact ⟨epa, rfl, hok.1, hok.2.1, hok.2.2, key_of_buildHpaSpec hok.2.1 hok.1.1⟩
  generalize hwritten : some hpa = write at hnext
  cases hnext with
  | apply epa hpa' => exact hwrite epa hpa' rfl hwritten.symm
  | applyFailed epa hpa' tookEffect message =>
      cases tookEffect with
      | true => exact hwrite epa hpa' rfl hwritten.symm
      | false => cases hwritten
  | _ => cases hwritten

/-- A reconcile that is ahead of an EPA stays so until it has written the autoscaler. -/
lemma fresh_next {stage stage' : Stage} {hpa : Option Hpa} (hfresh : stage.Fresh epa)
    (hok : StageOk w.epas id r k stage) (hepa : w.epas.lookup k = some epa)
    (hlive : isDeleting epa = false) (howns : Owns id r k)
    (hnext : ReplicaState.Next id w.epas r.sets k stage stage' hpa) :
    stage'.Fresh epa ∨ HasHpa (w.writeHpa hpa) k epa := by
  cases hnext with
  | observe =>
      rw [hepa]
      exact .inl rfl
  | observeFailed message => exact .inl trivial
  | check epa' =>
      obtain rfl : epa' = epa := hfresh
      refine .inl ?_
      have howner : isEpaOwner id r.sets k.1 k.2 = true := howns
      rw [Stage.afterCheck, hlive, howner]
      rcases hbuild : buildHpaSpec epa' with e | hpa
      · trivial
      · rfl
  | apply epa' hpa =>
      obtain rfl : epa' = epa := hfresh
      refine .inr ⟨hpa, hok.2.1, ?_⟩
      rw [← key_of_buildHpaSpec hok.2.1 hok.1.1]
      exact AList.lookup_insert _
  | applyFailed epa' hpa tookEffect message => exact .inl trivial
  | removeWindows => exact hfresh.elim

/-- A step of a reconcile; a write of an old version leaves a reconcile queued at an owner. -/
lemma HpaInv.advance (h : HpaInv w) (hr : w.replicas.lookup id = some r) {stage stage' : Stage}
    {hpa : Option Hpa} (store : MetricsStore V) (hk : r.running.lookup k = some stage)
    (hnext : ReplicaState.Next id w.epas r.sets k stage stage' hpa) :
    HpaInv ({ w with
      replicas := w.replicas.insert id { r.setStage k stage' with store := store } }.writeHpa
        hpa) := by
  have hok := h.stages id r hr k stage hk
  have hrun : ∀ k', ({ r.setStage k stage' with store := store } : ReplicaState V).running.lookup
      k' = if k' = k then some stage' else r.running.lookup k' :=
    fun k' => ReplicaState.lookup_setStage k stage' k'
  refine h.of_replica hr hpa ?_ ?_ ?_ fun k' epa _ _ hv =>
    .inr (.inr (vacant_insert hr rfl hv))
  · intro k' stage₁ hstage
    rw [hrun] at hstage
    split at hstage
    · rename_i hkk
      subst hkk
      obtain rfl := Option.some.inj hstage
      exact (stageOk_next hok (h.named k') hnext).mono (fun howns => howns) (fun hq => hq)
        fun latest hl => .inl hl
    · exact (h.stages id r hr k' stage₁ hstage).mono (fun howns => howns) (fun hq => hq)
        fun latest hl => .inl hl
  · intro k' epa hepa hlive howns hp
    rcases hp with hq | ⟨stage₁, hstage₁, hfresh⟩
    · exact .inr (.inl (covered_self _ howns (.inl hq)))
    · by_cases hkk : k' = k
      · subst hkk
        obtain rfl := Option.some.inj (hk.symm.trans hstage₁)
        rcases fresh_next hfresh hok hepa hlive howns hnext with hfresh | hhpa
        · refine .inr (.inl (covered_self _ howns (.inr ⟨stage', ?_, hfresh⟩)))
          rw [hrun, if_pos rfl]
        · refine .inl ?_
          cases hpa <;> exact hhpa
      · refine .inr (.inl (covered_self _ howns (.inr ⟨stage₁, ?_, hfresh⟩)))
        rw [hrun, if_neg hkk, hstage₁]
  · rintro k' epa hepa ⟨hpa', hbuild, hlookup⟩
    cases hpa with
    | none => exact .inl ⟨hpa', hbuild, hlookup⟩
    | some write =>
        obtain ⟨epa', -, hlatest, hbuild', howns, hkey⟩ := write_of_next hok hnext
        by_cases hkk : k' = k
        · subst hkk
          rcases hlatest.2 epa hepa with rfl | hq
          · refine .inl ⟨write, hbuild', ?_⟩
            rw [← hkey]
            exact AList.lookup_insert _
          · exact .inr (covered_self _ howns (.inl hq))
        · refine .inl ⟨hpa', hbuild, ?_⟩
          exact (AList.lookup_insert_ne (by rwa [hkey])).trans hlookup

/-- A reconcile that sends its message has nothing ahead. -/
lemma HpaInv.send (h : HpaInv w) (hr : w.replicas.lookup id = some r) {stage stage' : Stage}
    {update : EpaUpdate} (hk : r.running.lookup k = some stage)
    (hmessage : stage.message k = some (update, stage')) :
    HpaInv { w with
      replicas := w.replicas.insert id
        { r.setStage k stage' with updates := r.updates ++ [update] } } := by
  have hrun : ∀ k', (r.setStage k stage').running.lookup k' =
      if k' = k then some stage' else r.running.lookup k' :=
    fun k' => ReplicaState.lookup_setStage k stage' k'
  refine h.of_quiet hr rfl ?_ ?_
  · intro k' stage₁ hstage
    rw [hrun] at hstage
    split at hstage
    · obtain rfl := Option.some.inj hstage
      cases stage <;> cases hmessage <;> trivial
    · exact (h.stages id r hr k' stage₁ hstage).mono (fun howns => howns) (fun hq => hq)
        fun latest hl => .inl hl
  · intro k' epa hepa hlive howns hp
    refine hp.imp_right ?_
    rintro ⟨stage₁, hstage₁, hfresh⟩
    have hkk : k' ≠ k := by
      rintro rfl
      obtain rfl := Option.some.inj (hk.symm.trans hstage₁)
      cases stage <;> first | exact hfresh.elim | cases hmessage
    exact ⟨stage₁, by rw [hrun, if_neg hkk, hstage₁], hfresh⟩

lemma HpaInv.replica (h : HpaInv w) {event : ReplicaEvent}
    (hok : StaysResponsible w (.replica id event))
    (hs : w.step (.replica id event) = some w') : HpaInv w' := by
  obtain ⟨r, r', hpa, hr, hstep, rfl⟩ := Cluster.step_replica hs
  cases ReplicaState.effect_of_step hstep with
  | setView sets => exact h.setView hr sets hok
  | markDraining =>
      exact h.of_quiet hr rfl (fun k stage hk => (h.stages id r hr k stage hk).mono
        (fun howns => howns) (fun hq => hq) fun latest hl => .inl hl) fun k epa _ _ _ hp => hp
  | start hk hidle => exact h.start hr
  | advance store hk hnext => exact h.advance hr store hk hnext
  | send hk hmessage => exact h.send hr hk hmessage
  | finish hk hqueue => exact h.finish hr hk hqueue
  | @receive update updates hupdates =>
      obtain ⟨hsets, hqueue, hrunning, -⟩ :=
        ReplicaState.handleUpdate_frame { r with updates := updates } update
      refine h.of_quiet hr hsets ?_ ?_
      · intro k stage hk
        rw [hrunning] at hk
        refine (h.stages id r hr k stage hk).mono ?_ ?_ fun latest hl => .inl hl
        · rw [Owns, Owns, hsets]
          exact fun howns => howns
        · rw [hqueue]
          exact fun hq => hq
      · intro k epa _ _ _ hp
        rw [Pending, hqueue, hrunning]
        exact hp

/-- **The invariant.** -/
lemma hpaInv_step {e : Event} (h : HpaInv w) (hok : StaysResponsible w e)
    (hs : (reconcileSystem V).step w e = some w') : HpaInv w' := by
  cases e with
  | putEpa epa =>
      simp only [reconcileSystem, Cluster.step] at hs
      split at hs
      · rename_i k hname
        obtain rfl := Option.some.inj hs
        exact h.storeEpa hname fun hlive => hok hlive k hname
      · cases hs
  | terminateEpa k timestamp =>
      obtain ⟨epa, hepa, hs⟩ := Option.bind_eq_some_iff.1 hs
      obtain rfl := Option.some.inj hs
      refine h.storeEpa ?_ fun hlive => by cases hlive
      exact h.named k epa hepa
  | removeEpa k =>
      obtain rfl := Option.some.inj hs
      exact h.removeEpa k
  | collectHpa k =>
      obtain ⟨hpa, hk, hs⟩ := Option.bind_eq_some_iff.1 hs
      split at hs
      · cases hs
      · rename_i hgone
        obtain rfl := Option.some.inj hs
        exact h.collectHpa hk hgone
  | land i =>
      obtain ⟨hpa, hi, -⟩ := Option.bind_eq_some_iff.1 hs
      rw [h.landed] at hi
      cases hi
  | join id sets =>
      simp only [reconcileSystem, Cluster.step] at hs
      split at hs
      · cases hs
      · rename_i hnew
        obtain rfl := Option.some.inj hs
        exact h.join hnew hok
  | leave id =>
      obtain ⟨r, hr, hs⟩ := Option.bind_eq_some_iff.1 hs
      obtain rfl := Option.some.inj hs
      exact h.leave hr hok
  | replica id event => exact h.replica hok hs

lemma hpaInv_of_reachable (h : (reconcileSystem V).Reachable StaysResponsible w) : HpaInv w := by
  refine h.invariant ?_ fun w e w' hinv hok hs => hpaInv_step hinv hok hs
  rintro w rfl
  refine ⟨?_, rfl, ?_, ?_⟩
  · intro k epa hk
    rw [AList.lookup_empty] at hk
    cases hk
  · intro id r hr
    rw [AList.lookup_empty] at hr
    cases hr
  · intro k epa hk
    rw [AList.lookup_empty] at hk
    cases hk

/-- In a settled cluster some replica may own the EPA. -/
lemma Settled.not_vacant (h : Settled w) (k : ResourceName) : ¬ Vacant w.replicas k := by
  obtain ⟨-, view, hview, ⟨id, hid⟩, hactive⟩ := h
  obtain ⟨winner, hwinner⟩ := exists_maxByKey (weight (epaKey k.1 k.2)) (List.ne_nil_of_mem hid)
  have hmax := maxByKey_hasMaxKey hwinner
  obtain ⟨r, hr, -⟩ := (hactive winner).1 hmax.1
  intro hv
  exact hv winner r hr (hmax.perm (hview winner r hr).1.symm.perm)

/-- **The autoscalers of a settled cluster.** If no owner with an unfinished reconcile loses the EPA
or exits without leaving it to another owner that still has a reconcile ahead, or vacant, and a
vacant EPA that lacks its autoscaler is taken over by replicas with a reconcile ahead, then in every
settled state each EPA that is not under deletion has the autoscaler of its latest spec. -/
theorem settled_clusters_have_hpas
    (hreach : (reconcileSystem V).Reachable StaysResponsible w) (hsettled : Settled w)
    (hepa : w.epas.lookup k = some epa) (hlive : isDeleting epa = false) : HasHpa w k epa := by
  refine ((hpaInv_of_reachable hreach).covered k epa hepa hlive).resolve_right ?_
  rintro (⟨id, r, hr, -, hq | ⟨stage, hstage, -⟩⟩ | hv)
  · rw [(hsettled.1 id r hr).1] at hq
    cases hq
  · rw [(hsettled.1 id r hr).2 k] at hstage
    cases hstage
  · exact hsettled.not_vacant k hv

end Steps

/-! ### A crash of the owner -/

/-- A cluster is settled if its replicas meet a condition that can be computed. -/
def settledAt (view : ReplicaSets) (w : Cluster V) : Bool :=
  (w.replicas.entries.all fun entry =>
    entry.2.queue.isEmpty && entry.2.running.entries.isEmpty && decide (entry.2.sets.SameView view)
      && (entry.2.draining || decide (entry.1 ∈ view.active))) &&
  !view.active.toList.isEmpty &&
  view.active.toList.all fun id => (w.replicas.lookup id).any fun r => !r.draining

lemma settled_of_settledAt {view : ReplicaSets} {w : Cluster V} (h : settledAt view w = true) :
    Settled w := by
  simp only [settledAt, Bool.and_eq_true_iff, List.all_eq_true, List.isEmpty_iff,
    Bool.or_eq_true, decide_eq_true_eq] at h
  obtain ⟨⟨hentries, hne⟩, hactive⟩ := h
  have hmem : ∀ id r, w.replicas.lookup id = some r → ⟨id, r⟩ ∈ w.replicas.entries :=
    fun id r hr => AList.mem_lookup_iff.1 hr
  refine ⟨fun id r hr => ?_, view, fun id r hr => (hentries _ (hmem id r hr)).1.2, ?_, ?_⟩
  · obtain ⟨⟨⟨hqueue, hrunning⟩, -⟩, -⟩ := hentries _ (hmem id r hr)
    refine ⟨hqueue, fun k => AList.lookup_eq_none.2 ?_⟩
    rw [AList.mem_keys, AList.keys, hrunning]
    exact List.not_mem_nil
  · rcases hids : view.active.toList with _ | ⟨id, ids⟩
    · simp [hids] at hne
    · exact ⟨id, by simp [IdSet.mem_def, hids]⟩
  · intro id
    constructor
    · intro hid
      obtain ⟨r, hr, hlive⟩ := (Option.any_eq_true _ _).1 (hactive id hid)
      exact ⟨r, hr, by simpa using hlive⟩
    · rintro ⟨r, hr, hlive⟩
      rcases (hentries _ (hmem id r hr)).2 with hdraining | hid
      · exact absurd (hlive.symm.trans hdraining) Bool.false_ne_true
      · exact hid

/-- The view of one replica alone. -/
def alone (id : String) : ReplicaSets := ⟨⟨[id], List.nodup_singleton _⟩, .empty, false⟩

/-- The reconcile of the owner after the EPA was created. -/
def writeWeb : List Event :=
  [.start ("default", "web"), .observe ("default", "web"), .check ("default", "web"),
    .apply ("default", "web"), .send ("default", "web"), .receive,
    .finish ("default", "web")].map (.replica "replica-b")

/-- A replica that is alone owns every EPA. -/
lemma isEpaOwner_alone (id : String) (k : ResourceName) :
    isEpaOwner id (alone id) k.1 k.2 = true := by
  rw [isEpaOwner_iff, getEpaOwner_eq]
  rfl

/-- The replica has started in a cluster with one EPA. -/
def startedAlone : Cluster ℕ :=
  let w : Cluster ℕ := Cluster.storeEpa ("default", "web") (webEpa "15s") ⟨∅, ∅, ∅, []⟩
  { w with
    replicas := w.replicas.insert "replica-b" (.start (alone "replica-b") [("default", "web")]) }

/-- The EPA is there before the only replica, which crashes before its reconcile and starts again;
then it has its autoscaler. -/
theorem settled_clusters_have_hpas_alone :
    ∃ w : Cluster ℕ, Settled w ∧ w.epas.lookup ("default", "web") = some (webEpa "15s") ∧
      HasHpa w ("default", "web") (webEpa "15s") := by
  have hrun : ((reconcileSystem ℕ).exec startedAlone writeWeb).any (fun w =>
      settledAt (alone "replica-b") w &&
        decide (w.epas.lookup ("default", "web") = some (webEpa "15s"))) = true := by
    decide +kernel
  obtain ⟨w, hwrite, hrun⟩ := (Option.any_eq_true _ _).1 hrun
  obtain ⟨hsettled, hepa⟩ := Bool.and_eq_true_iff.1 hrun
  have hcreate : StaysResponsible (⟨∅, ∅, ∅, []⟩ : Cluster ℕ) (.putEpa (webEpa "15s")) :=
    fun _ k _ => .inr fun id r hr => nomatch hr
  have hjoin : ∀ w : Cluster ℕ, StaysResponsible w (.join "replica-b" (alone "replica-b")) :=
    fun _ k _ => .inl (isEpaOwner_alone _ k)
  have hcrash : StaysResponsible startedAlone (.leave "replica-b") := by
    intro r hr k _ _
    obtain rfl := Option.some.inj hr
    refine ⟨fun epa hpa => ?_, .inr fun id r hr => ?_⟩
    · rintro ⟨⟩
    · cases hr
  have hstart : ((reconcileSystem ℕ).Path StaysResponsible ⟨∅, ∅, ∅, []⟩
      [.putEpa (webEpa "15s"), .join "replica-b" (alone "replica-b"), .leave "replica-b",
        .join "replica-b" (alone "replica-b")] startedAlone) :=
    .cons hcreate rfl (.cons (hjoin _) rfl (.cons hcrash rfl (.single (hjoin _) rfl)))
  have hreach : (reconcileSystem ℕ).Reachable StaysResponsible w := by
    refine ⟨_, _, rfl, hstart.append ((System.exec_eq_some_iff.1 hwrite).restrict ?_)⟩
    intro e he w
    simp only [writeWeb, List.map_cons, List.map_nil, List.mem_cons, List.not_mem_nil,
      or_false] at he
    rcases he with rfl | rfl | rfl | rfl | rfl | rfl | rfl <;> trivial
  have hend := settled_of_settledAt hsettled
  exact ⟨w, hend, of_decide_eq_true hepa,
    settled_clusters_have_hpas hreach hend (of_decide_eq_true hepa) (by decide)⟩

/-- The EPA is created, the other replica skips it, and the owner crashes before its
reconcile. -/
def crashOfOwner : List Event :=
  [.join "replica-a" bothActive, .join "replica-b" bothActive, .putEpa (webEpa "15s")] ++
  [.start ("default", "web"), .observe ("default", "web"), .check ("default", "web"),
    .send ("default", "web"), .receive, .finish ("default", "web")].map (.replica "replica-a") ++
  [.leave "replica-b", .replica "replica-a" (.setView (alone "replica-a"))]

/-- After the crash of the owner the cluster settles without the autoscaler of the EPA. -/
theorem settled_cluster_without_hpa :
    ∃ (w : Cluster ℕ) (k : ResourceName) (epa : Epa),
      (reconcileSystem ℕ).Reachable System.Any w ∧ Settled w ∧
      w.epas.lookup k = some epa ∧ isDeleting epa = false ∧ ¬ HasHpa w k epa := by
  have hrun : ((reconcileSystem ℕ).exec ⟨∅, ∅, ∅, []⟩ crashOfOwner).any (fun w =>
      settledAt (alone "replica-a") w &&
        decide (w.epas.lookup ("default", "web") = some (webEpa "15s") ∧
          w.hpas.lookup ("default", "web") = none)) = true := by decide +kernel
  obtain ⟨w, hw, hrun⟩ := (Option.any_eq_true _ _).1 hrun
  obtain ⟨hsettled, hfacts⟩ := Bool.and_eq_true_iff.1 hrun
  obtain ⟨hepa, hnone⟩ := of_decide_eq_true hfacts
  refine ⟨w, _, _, .of_exec rfl hw, settled_of_settledAt hsettled, hepa, by decide, ?_⟩
  rintro ⟨hpa, -, hlookup⟩
  rw [hnone] at hlookup
  cases hlookup

end ExternalPodAutoscaler.Controller
