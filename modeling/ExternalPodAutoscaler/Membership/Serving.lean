/-
Whether anybody serves an EPA.

After a refresh a replica has a record of the EPA as owned exactly when it is the owner in
its own view (`tracksOwnership_of_path`), so once every live replica has refreshed the EPA
the answer is in their records: a replica with an open grace window serves, and an owner
serves when its evaluation period is over or no draining replica is to be waited for.

The main result of this file is `some_replica_serves_iff`, which states this for a cluster
whose live replicas share a view and have all refreshed the EPA;
`created_during_drain_unserved` is a reachable cluster of this kind in which nobody serves.
-/
import ExternalPodAutoscaler.Membership.Cluster

namespace ExternalPodAutoscaler.Membership

open Lib

/-- Only refreshes happen and time passes. -/
def OnlyRefreshes (_ : Cluster) : ClusterEvent → Prop
  | .advance _ => True
  | .act _ (.refresh _ _ _) => True
  | _ => False

/-- The process has a record of the EPA as owned exactly when it is the owner in its own
view. -/
def TracksOwnership (ns name id : String) (p : Replica) : Prop :=
  (∃ s, p.state.phase (epaKey ns name) = .owned s) ↔ isEpaOwner id p.sets ns name = true

variable {c c' : Cluster} {ns name id : String} {es : List ClusterEvent}

lemma KeyPhase.refresh_owned_iff (now P : ℕ) (w : Bool) (φ : KeyPhase) :
    (∃ s, φ.refresh now w P = .owned s) ↔ w = true := by
  cases w with
  | true =>
      obtain ⟨s, hs, -⟩ := φ.refresh_win now P
      simp [hs]
  | false => simpa using fun s => φ.refresh_lose_ne_owned now P s

/-- A refresh of the EPA makes the record follow the ownership. -/
lemma tracksOwnership_of_refresh {now P : ℕ} {p : Replica} :
    TracksOwnership ns name id
      { p with state := refreshOwnership id p.sets now ns name P p.state } := by
  show (∃ s, (refreshOwnership id p.sets now ns name P p.state).phase (epaKey ns name) = _) ↔ _
  rw [phase_refreshOwnership_self]
  exact KeyPhase.refresh_owned_iff _ _ _ _

/-- A refresh of any EPA keeps it so. -/
lemma TracksOwnership.refresh {now P : ℕ} {ns' name' : String} {p : Replica}
    (h : TracksOwnership ns name id p) : TracksOwnership ns name id
      { p with state := refreshOwnership id p.sets now ns' name' P p.state } := by
  by_cases hkey : epaKey ns' name' = epaKey ns name
  · rw [refreshOwnership_key_congr hkey]
    exact tracksOwnership_of_refresh
  · show (∃ s, (refreshOwnership id p.sets now ns' name' P p.state).phase (epaKey ns name) = _) ↔ _
    rw [phase_refreshOwnership_of_ne (Ne.symm hkey)]
    simp only [KeyPhase.retain_owned_iff]
    exact h

/-- What one of the permitted steps does to a live process. -/
lemma procs_of_onlyRefreshes {e : ClusterEvent} (hok : OnlyRefreshes c e)
    (hs : clusterSystem.step c e = some c') (id : String) :
    c'.procs id = c.procs id ∨ ∃ p ns name P, e = .act id (.refresh ns name P) ∧
      c.procs id = some p ∧ c'.procs id = some
        { p with state := refreshOwnership id p.sets c.now ns name P p.state } := by
  cases e with
  | advance d =>
      obtain rfl := Option.some.inj hs
      exact Or.inl rfl
  | act j e' =>
      cases e' with
      | refresh ns name P =>
          obtain ⟨p, p', hp, -, hstep, rfl⟩ := Cluster.step_act hs
          obtain rfl := Option.some.inj hstep
          by_cases hid : id = j
          · subst hid
            exact Or.inr ⟨p, ns, name, P, rfl, hp, by simp⟩
          · exact Or.inl (by simp [Function.update_of_ne hid])
      | _ => cases hok
  | _ => cases hok

/-- The permitted steps do not change the views, and nobody joins or leaves. -/
lemma sets_of_path (h : clusterSystem.Path OnlyRefreshes c es c') (id : String) :
    (c'.procs id).map Replica.sets = (c.procs id).map Replica.sets := by
  induction h with
  | nil => rfl
  | cons hok hs _ ih =>
      rw [ih]
      rcases procs_of_onlyRefreshes hok hs id with heq | ⟨p, ns, name, P, -, hp, hp'⟩
      · rw [heq]
      · rw [hp, hp']
        rfl

lemma sharesView_of_path {V : ReplicaSets} (hview : c.SharesView V)
    (h : clusterSystem.Path OnlyRefreshes c es c') : c'.SharesView V := by
  intro id p hp
  have hsets := sets_of_path h id
  rw [hp] at hsets
  obtain ⟨p₀, hp₀, heq⟩ := Option.map_eq_some_iff.1 hsets.symm
  rw [← heq]
  exact hview id p₀ hp₀

/-- A live replica that has refreshed the EPA along the run tracks its ownership. -/
lemma tracksOwnership_of_path (h : clusterSystem.Path OnlyRefreshes c es c')
    {p' : Replica} (hp' : c'.procs id = some p')
    (hstart : (∃ P, .act id (.refresh ns name P) ∈ es) ∨
      ∀ p, c.procs id = some p → TracksOwnership ns name id p) :
    TracksOwnership ns name id p' := by
  induction h with
  | nil =>
      rcases hstart with ⟨P, hmem⟩ | htracks
      · cases hmem
      · exact htracks p' hp'
  | @cons c c₁ c' e es hok hs _ ih =>
      refine ih hp' ?_
      rcases procs_of_onlyRefreshes hok hs id with heq | ⟨p, ns', name', P', rfl, hp, hp₁⟩
      · rcases hstart with ⟨P, hmem⟩ | htracks
        · rcases List.mem_cons.1 hmem with rfl | hmem
          · -- the refresh itself cannot have left the process alone
            obtain ⟨p, p₁, hp, -, hstep, rfl⟩ := Cluster.step_act hs
            obtain rfl := Option.some.inj hstep
            right
            intro q hq
            obtain rfl := Option.some.inj ((by simpa using hq) : some _ = some q)
            exact tracksOwnership_of_refresh
          · exact Or.inl ⟨P, hmem⟩
        · right
          rwa [heq]
      · rcases hstart with ⟨P, hmem⟩ | htracks
        · rcases List.mem_cons.1 hmem with heq | hmem
          · obtain ⟨rfl, rfl, rfl⟩ : ns = ns' ∧ name = name' ∧ P = P' := by simpa using heq
            right
            intro q hq
            obtain rfl := Option.some.inj (hp₁.symm.trans hq)
            exact tracksOwnership_of_refresh
          · exact Or.inl ⟨P, hmem⟩
        · right
          intro q hq
          obtain rfl := Option.some.inj (hp₁.symm.trans hq)
          exact (htracks p hp).refresh

/-- When a replica that tracks the ownership serves. -/
lemma serves_iff_of_tracks {p : Replica} {now : ℕ} (hd : p.sets.Disjoint)
    (ht : TracksOwnership ns name id p) :
    shouldServeEpa id p.sets now ns name p.state = true ↔
      (∃ l, p.state.lost (epaKey ns name) = some l) ∨
      ∃ s, p.state.owned (epaKey ns name) = some s ∧ getEpaOwner p.sets ns name = some id ∧
        (s.evaluationPeriod ≤ elapsed now s.since ∨ ∀ d ∈ p.sets.draining,
          weight (epaKey ns name) d < weight (epaKey ns name) id) := by
  rw [shouldServeEpa_eq]
  simp only [← TransitionState.phase_eq_lost_iff, ← TransitionState.phase_eq_owned_iff]
  rcases hph : p.state.phase (epaKey ns name) with _ | s | l
  · simp [KeyPhase.serves]
  · have howner : getEpaOwner p.sets ns name = some id := isEpaOwner_iff.1 (ht.1 ⟨s, hph⟩)
    have hwaits : hasPreviousOwner id p.sets ns name = false ↔ ∀ d ∈ p.sets.draining,
        weight (epaKey ns name) d < weight (epaKey ns name) id := by
      rw [← previousOwner_eq_owner_iff hd howner]
      obtain ⟨prev, hprev⟩ := exists_previousOwner howner
      simp [hasPreviousOwner, hprev]
    simp [KeyPhase.serves, howner, hwaits]
  · simp [KeyPhase.serves]

/-- **When somebody serves.** Let all live replicas of a reachable cluster share a view, and
let each of them refresh the EPA under it.  Then a live replica serves the EPA exactly when
one of them has an open grace window for it, or one of them is its owner and has either
owned it for an evaluation period or is heavier than every draining replica. -/
theorem some_replica_serves_iff {V : ReplicaSets} (hreach : clusterSystem.Reachable System.Any c)
    (hview : c.SharesView V) (hpath : clusterSystem.Path OnlyRefreshes c es c')
    (hall : ∀ id p, c.procs id = some p → ∃ P, .act id (.refresh ns name P) ∈ es) :
    (∃ id p, c'.procs id = some p ∧
        shouldServeEpa id p.sets c'.now ns name p.state = true) ↔
      (∃ id p l, c'.procs id = some p ∧ p.state.lost (epaKey ns name) = some l) ∨
      ∃ id p s, c'.procs id = some p ∧ p.state.owned (epaKey ns name) = some s ∧
        getEpaOwner p.sets ns name = some id ∧
        (s.evaluationPeriod ≤ elapsed c'.now s.since ∨ ∀ d ∈ V.draining,
          weight (epaKey ns name) d < weight (epaKey ns name) id) := by
  have hview' := sharesView_of_path hview hpath
  have hreach' := hreach.path (hpath.mono fun _ _ _ => trivial)
  have hserves : ∀ id p, c'.procs id = some p →
      (shouldServeEpa id p.sets c'.now ns name p.state = true ↔
        (∃ l, p.state.lost (epaKey ns name) = some l) ∨
        ∃ s, p.state.owned (epaKey ns name) = some s ∧ getEpaOwner p.sets ns name = some id ∧
          (s.evaluationPeriod ≤ elapsed c'.now s.since ∨ ∀ d ∈ V.draining,
            weight (epaKey ns name) d < weight (epaKey ns name) id)) := by
    intro id p hp
    have hsets := sets_of_path hpath id
    rw [hp] at hsets
    obtain ⟨p₀, hp₀, -⟩ := Option.map_eq_some_iff.1 hsets.symm
    have htracks : TracksOwnership ns name id p :=
      tracksOwnership_of_path hpath hp (Or.inl (hall id p₀ hp₀))
    rw [serves_iff_of_tracks (Cluster.disjoint_of_reachable hreach' hp) htracks]
    simp only [(hview' id p hp).2 _]
  constructor
  · rintro ⟨id, p, hp, hserve⟩
    rcases (hserves id p hp).1 hserve with ⟨l, hl⟩ | ⟨s, hs, howner, hor⟩
    · exact Or.inl ⟨id, p, l, hp, hl⟩
    · exact Or.inr ⟨id, p, s, hp, hs, howner, hor⟩
  · rintro (⟨id, p, l, hp, hl⟩ | ⟨id, p, s, hp, hs, howner, hor⟩)
    · exact ⟨id, p, hp, (hserves id p hp).2 (Or.inl ⟨l, hl⟩)⟩
    · exact ⟨id, p, hp, (hserves id p hp).2 (Or.inr ⟨s, hs, howner, hor⟩)⟩

/-! ### An EPA that is created during a drain -/

/-- The refreshes at the end of the run start in a reachable cluster with a shared view. -/
lemma bothRefresh_path {c : Cluster} {pa pb : Replica}
    (hc : clusterSystem.exec (.start 0) createdDuringDrain = some c)
    (hlive : ∀ id p, c.procs id = some p →
      (id = "replica-a" ∧ p = pa) ∨ (id = "replica-b" ∧ p = pb))
    (ha : pa.sets = drainView false) (hb : pb.sets = drainView true) :
    ∃ c₀, clusterSystem.Reachable System.Any c₀ ∧ c₀.SharesView (drainView false) ∧
      clusterSystem.Path OnlyRefreshes c₀ bothRefresh c ∧
      ∀ id p, c₀.procs id = some p →
        ∃ P, .act id (.refresh "default" "web" P) ∈ bothRefresh := by
  obtain ⟨c₀, hp₀, hp⟩ := (System.exec_eq_some_iff.1 hc).of_append
  have hpath : clusterSystem.Path OnlyRefreshes c₀ bothRefresh c :=
    hp.restrict (by simp [bothRefresh, OnlyRefreshes])
  have hlive₀ : ∀ id p, c₀.procs id = some p → ∃ q, c.procs id = some q ∧ q.sets = p.sets := by
    intro id p hp
    have hsets := sets_of_path hpath id
    rw [hp] at hsets
    exact Option.map_eq_some_iff.1 hsets
  refine ⟨c₀, ⟨_, _, ⟨0, rfl⟩, hp₀⟩, ?_, hpath, ?_⟩
  · intro id p hp
    obtain ⟨q, hq, heq⟩ := hlive₀ id p hp
    rw [← heq]
    exact createdDuringDrain_sharesView hlive ha hb id q hq
  · intro id p hp
    obtain ⟨q, hq, -⟩ := hlive₀ id p hp
    rcases hlive id q hq with ⟨rfl, -⟩ | ⟨rfl, -⟩
    · exact ⟨secs 60, by simp [bothRefresh]⟩
    · exact ⟨secs 60, by simp [bothRefresh]⟩

/-- Nobody serves an EPA that was created while its previous owner drains: the owner waits
for the draining replica, which does not know the EPA. -/
theorem created_during_drain_unserved :
    ∃ c₀ V c, clusterSystem.Reachable System.Any c₀ ∧ c₀.SharesView V ∧
      V.active.toList ≠ [] ∧ clusterSystem.Path OnlyRefreshes c₀ bothRefresh c ∧
      (∀ id p, c₀.procs id = some p →
        ∃ P, .act id (.refresh "default" "web" P) ∈ bothRefresh) ∧
      (∃ id p, c.procs id = some p ∧ id ∈ V.active) ∧
      ∀ id p, c.procs id = some p →
        shouldServeEpa id p.sets c.now "default" "web" p.state = false := by
  obtain ⟨c, pa, pb, hc, hnow, hlive, hpa, -, hva, hvb, hsa, hsb⟩ := createdDuringDrain_state
  obtain ⟨c₀, hreach, hview, hpath, hall⟩ := bothRefresh_path hc hlive hva hvb
  refine ⟨c₀, drainView false, c, hreach, hview, by decide, hpath, hall,
    ⟨"replica-a", pa, hpa, by decide⟩, ?_⟩
  intro id p hp
  rcases hlive id p hp with ⟨rfl, rfl⟩ | ⟨rfl, rfl⟩
  · rw [shouldServeEpa_eq, hsa, hva, hnow]
    decide +kernel
  · rw [shouldServeEpa_eq, hsb]
    rfl

/-- In that cluster both sides of the equivalence are false. -/
theorem some_replica_serves_iff_created_during_drain :
    ∃ c, clusterSystem.exec (.start 0) createdDuringDrain = some c ∧
      ((∃ id p, c.procs id = some p ∧
          shouldServeEpa id p.sets c.now "default" "web" p.state = true) ↔
        (∃ id p l, c.procs id = some p ∧ p.state.lost (epaKey "default" "web") = some l) ∨
        ∃ id p s, c.procs id = some p ∧ p.state.owned (epaKey "default" "web") = some s ∧
          getEpaOwner p.sets "default" "web" = some id ∧
          (s.evaluationPeriod ≤ elapsed c.now s.since ∨ ∀ d ∈ (drainView false).draining,
            weight (epaKey "default" "web") d < weight (epaKey "default" "web") id)) := by
  obtain ⟨c, pa, pb, hc, -, hlive, -, -, hva, hvb, -, -⟩ := createdDuringDrain_state
  obtain ⟨c₀, hreach, hview, hpath, hall⟩ := bothRefresh_path hc hlive hva hvb
  exact ⟨c, hc, some_replica_serves_iff hreach hview hpath hall⟩

end ExternalPodAutoscaler.Membership
