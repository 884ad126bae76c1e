/-
How a cluster settles.

While the replicas see a change of the membership at different instants, an EPA may be scraped and
served by several of them: the one that has lost it does so in its grace window, the new owner
may wait, and replicas may differ about who that is.  The main result of this file is `settles`:
once all replicas hold one view and it stays, a refresh of the EPA at every replica and then, an
evaluation period and the buffer later, a refresh of any EPA at every replica leave the owner as
the only one that scrapes and serves it.
-/
import ExternalPodAutoscaler.Membership.Cluster
import ExternalPodAutoscaler.Membership.GraceWindow

namespace ExternalPodAutoscaler.Membership

open Lib

/-! ### What the phase of an EPA remembers -/

namespace KeyPhase

variable {t P : ℕ} {key : String} {φ : KeyPhase} {log : List Refresh}

/-- If the EPA is lost, then since `t` or earlier, with an evaluation period of at most `P`. -/
def LostBy (t P : ℕ) (φ : KeyPhase) : Prop :=
  ∀ l, φ = lost l → l.lostAt ≤ t ∧ l.evaluationPeriod ≤ P

lemma LostBy.retain (h : φ.LostBy t P) (now : ℕ) : (φ.retain now).LostBy t P := by
  cases φ with
  | owned s =>
      rintro l ⟨⟩
  | lost l =>
      rw [retain_lost]
      split
      · exact h
      · rintro l' ⟨⟩
  | notTracking =>
      rintro l ⟨⟩

lemma LostBy.refresh (h : φ.LostBy t P) {now P' : ℕ} (hnow : now ≤ t) (hP : P' ≤ P) (w : Bool) :
    (φ.refresh now w P').LostBy t P := by
  unfold KeyPhase.refresh
  refine LostBy.retain ?_ now
  cases w with
  | true =>
      cases φ <;> rintro l ⟨⟩
  | false =>
      cases φ with
      | owned s =>
          rintro l ⟨⟩
          exact ⟨hnow, hP⟩
      | lost l => exact h
      | notTracking =>
          rintro l ⟨⟩

lemma LostBy.mono {t' : ℕ} (h : φ.LostBy t P) (hle : t ≤ t') : φ.LostBy t' P :=
  fun l hl => ⟨(h l hl).1.trans hle, (h l hl).2⟩

lemma LostBy.after (h : φ.LostBy t P)
    (hlog : ∀ x ∈ log, x.instant ≤ t ∧ (x.key = key → x.evaluationPeriod ≤ P)) :
    (φ.after key log).LostBy t P := by
  induction log generalizing φ with
  | nil => exact h
  | cons x log ih =>
      rw [after_cons]
      refine ih ?_ fun x' hx' => hlog x' (List.mem_cons_of_mem _ hx')
      obtain ⟨hnow, hP⟩ := hlog x List.mem_cons_self
      split
      · rename_i hkey
        exact h.refresh hnow (hP hkey) _
      · exact h.retain _

/-- A loser that refreshes the EPA does not own it afterwards. -/
lemma after_ne_owned (hlose : ∀ x ∈ log, x.key = key → x.iAmWinner = false)
    (h : (∃ x ∈ log, x.key = key) ∨ ∀ s, φ ≠ owned s) (s : OwnershipState) :
    φ.after key log ≠ owned s := by
  induction log generalizing φ with
  | nil =>
      rcases h with ⟨x, hx, -⟩ | h
      · cases hx
      · exact h s
  | cons x log ih =>
      rw [after_cons]
      refine ih (fun x' hx' => hlose x' (List.mem_cons_of_mem _ hx')) ?_
      by_cases hkey : x.key = key
      · rw [if_pos hkey, hlose x List.mem_cons_self hkey]
        exact Or.inr (refresh_lose_ne_owned _ _ _)
      · rw [if_neg hkey]
        rcases h with ⟨x', hx', hkey'⟩ | h
        · rcases List.mem_cons.1 hx' with rfl | hx'
          · exact absurd hkey' hkey
          · exact Or.inl ⟨x', hx', hkey'⟩
        · exact Or.inr fun s' hs' => h s' ((retain_owned_iff _ _ _).1 hs')

/-- An owner stays the owner since the same instant, with the evaluation period of its last
refresh. -/
lemma after_wins_owned {s : OwnershipState} (hs : s.evaluationPeriod ≤ P)
    (hwin : ∀ x ∈ log, x.key = key → x.iAmWinner = true ∧ x.evaluationPeriod ≤ P) :
    ∃ s', (owned s).after key log = owned s' ∧ s'.since = s.since ∧ s'.evaluationPeriod ≤ P := by
  induction log generalizing s with
  | nil => exact ⟨s, rfl, rfl, hs⟩
  | cons x log ih =>
      rw [after_cons]
      have hrest : ∀ x' ∈ log, x'.key = key → x'.iAmWinner = true ∧ x'.evaluationPeriod ≤ P :=
        fun x' hx' => hwin x' (List.mem_cons_of_mem _ hx')
      by_cases hkey : x.key = key
      · obtain ⟨hw, hP⟩ := hwin x List.mem_cons_self hkey
        rw [if_pos hkey, hw]
        exact ih (s := { s with evaluationPeriod := x.evaluationPeriod }) hP hrest
      · rw [if_neg hkey]
        exact ih hs hrest

/-- A winner that refreshes the EPA owns it afterwards. -/
lemma exists_after_owned
    (hwin : ∀ x ∈ log, x.key = key → x.iAmWinner = true ∧ x.evaluationPeriod ≤ P)
    (h : ∃ x ∈ log, x.key = key) :
    ∃ s, φ.after key log = owned s ∧ s.evaluationPeriod ≤ P := by
  induction log generalizing φ with
  | nil =>
      obtain ⟨x, hx, -⟩ := h
      cases hx
  | cons x log ih =>
      rw [after_cons]
      have hrest : ∀ x' ∈ log, x'.key = key → x'.iAmWinner = true ∧ x'.evaluationPeriod ≤ P :=
        fun x' hx' => hwin x' (List.mem_cons_of_mem _ hx')
      by_cases hkey : x.key = key
      · obtain ⟨hw, hP⟩ := hwin x List.mem_cons_self hkey
        obtain ⟨s, hs, hperiod, -⟩ := refresh_win x.instant x.evaluationPeriod φ
        rw [if_pos hkey, hw, hs]
        obtain ⟨s', hs', -, hP'⟩ := after_wins_owned (hperiod.trans_le hP) hrest
        exact ⟨s', hs', hP'⟩
      · rw [if_neg hkey]
        obtain ⟨x', hx', hkey'⟩ := h
        rcases List.mem_cons.1 hx' with rfl | hx'
        · exact absurd hkey' hkey
        · exact ih hrest ⟨x', hx', hkey'⟩

end KeyPhase

/-! ### The refreshes of a replica in a run -/

/-- The time that passes during the events. -/
def passed : List ClusterEvent → ℕ
  | [] => 0
  | .advance d :: es => d + passed es
  | _ :: es => passed es

/-- Refreshes of the EPA have an evaluation period of at most `P`. -/
def PeriodsWithin (ns name : String) (P : ℕ) (_ : Cluster) : ClusterEvent → Prop
  | .act _ (.refresh ns' name' P') => epaKey ns' name' = epaKey ns name → P' ≤ P
  | _ => True

/-- Replicas do not start and go on seeing the view, and refreshes of the EPA have an evaluation
period of at most `P`. -/
def Steady (view : ReplicaSets) (ns name : String) (P : ℕ) (c : Cluster) (e : ClusterEvent) :
    Prop :=
  PeriodsWithin ns name P c e ∧ (∀ id, e ≠ .join id) ∧
    ∀ id leases readAt sets, e = .act id (.discover leases readAt sets) → sets.SameView view

section Log

variable {c c₁ c' : Cluster} {e : ClusterEvent} {es : List ClusterEvent} {view : ReplicaSets}
  {ns name r : String} {P : ℕ} {p' : Replica}

lemma now_of_step (h : c.step e = some c') : c'.now = c.now + passed [e] := by
  cases e with
  | advance d =>
      obtain rfl := Option.some.inj h
      simp [passed]
  | join id =>
      simp only [Cluster.step] at h
      split at h
      · obtain rfl := Option.some.inj h
        rfl
      · cases h
  | leave id =>
      obtain rfl := Option.some.inj h
      rfl
  | renew me renewTime isDraining =>
      simp only [Cluster.step, Option.bind_eq_some_iff] at h
      obtain ⟨q, -, h⟩ := h
      split at h
      · obtain rfl := Option.some.inj h
        rfl
      · cases h
  | deleteLease id =>
      obtain rfl := Option.some.inj h
      rfl
  | createEpa ns name =>
      obtain rfl := Option.some.inj h
      rfl
  | act id e' =>
      obtain ⟨q, q', -, -, -, rfl⟩ := Cluster.step_act h
      rfl

lemma passed_cons (e : ClusterEvent) (es : List ClusterEvent) :
    passed (e :: es) = passed [e] + passed es := by
  cases e <;> simp [passed]

lemma now_of_path {ok : Cluster → ClusterEvent → Prop} (h : clusterSystem.Path ok c es c') :
    c'.now = c.now + passed es := by
  induction h with
  | nil => rfl
  | @cons c _ _ e es _ hs _ ih =>
      rw [ih, now_of_step hs, passed_cons e es, Nat.add_assoc]

/-- A step of the cluster refreshes an EPA at a replica, or leaves its records. -/
lemma state_of_step (h : c.step e = some c₁) (hjoin : ∀ id, e ≠ .join id)
    (hp' : c₁.procs r = some p') :
    ∃ p, c.procs r = some p ∧
      ((∃ ns' name' P', e = .act r (.refresh ns' name' P') ∧
          p'.state = refreshOwnership r p.sets c.now ns' name' P' p.state) ∨
        ((∀ ns' name' P', e ≠ .act r (.refresh ns' name' P')) ∧ p'.state = p.state)) := by
  rcases Cluster.procs_step h hp' with ⟨rfl, -⟩ | ⟨p, hp, hcases⟩
  · exact absurd rfl (hjoin r)
  · refine ⟨p, hp, ?_⟩
    by_cases hrefresh : ∃ ns' name' P', e = .act r (.refresh ns' name' P')
    · obtain ⟨ns', name', P', rfl⟩ := hrefresh
      refine Or.inl ⟨ns', name', P', rfl, ?_⟩
      obtain ⟨q, q', hq, -, hstep, rfl⟩ := Cluster.step_act h
      obtain rfl := Option.some.inj (hp.symm.trans hq)
      obtain rfl := Option.some.inj hstep
      have hself : p' = ⟨p.sets, refreshOwnership r p.sets c.now ns' name' P' p.state⟩ :=
        (Option.some.inj (by simpa using hp')).symm
      rw [hself]
    · have hother : ∀ ns' name' P', e ≠ .act r (.refresh ns' name' P') :=
        fun ns' name' P' he => hrefresh ⟨ns', name', P', he⟩
      refine Or.inr ⟨hother, ?_⟩
      rcases hcases with rfl | ⟨e', rfl, hstep⟩
      · rfl
      · cases e' with
        | discover leases readAt sets =>
            obtain ⟨-, -, -, -, rfl⟩ := Replica.step_discover hstep
            rfl
        | markDraining =>
            obtain rfl := Option.some.inj hstep
            rfl
        | refresh ns' name' P' => exact absurd rfl (hother ns' name' P')

/-- The replicas go on sharing the view. -/
lemma sharesView_of_step (hview : c.SharesView view) (hok : Steady view ns name P c e)
    (h : c.step e = some c₁) : c₁.SharesView view := by
  intro id p' hp'
  rcases Cluster.procs_step h hp' with ⟨rfl, -⟩ | ⟨p, hp, rfl | ⟨e', rfl, hstep⟩⟩
  · exact absurd rfl (hok.2.1 id)
  · exact hview id _ hp
  · cases e' with
    | discover leases readAt sets =>
        obtain ⟨-, -, -, -, rfl⟩ := Replica.step_discover hstep
        exact hok.2.2 id leases readAt sets rfl
    | markDraining =>
        obtain rfl := Option.some.inj hstep
        exact hview id p hp
    | refresh ns' name' P' =>
        obtain rfl := Option.some.inj hstep
        exact hview id p hp

/-- A replica refreshes the EPA with this key, at an instant when at least `d` has passed. -/
def Refreshes (r key : String) (d : ℕ) (es : List ClusterEvent) : Prop :=
  ∃ pre ns name P post, es = pre ++ .act r (.refresh ns name P) :: post ∧
    epaKey ns name = key ∧ d ≤ passed pre

/-- The records of a replica after a steady run are those of a log of its refreshes. -/
lemma exists_log (h : clusterSystem.Path (Steady view ns name P) c es c')
    (hview : c.SharesView view) (hw : DistinctWeights view ns name)
    (hp' : c'.procs r = some p') :
    ∃ p log, c.procs r = some p ∧ p'.state = stateAfter p.state log ∧
      (∀ x ∈ log, x.instant ≤ c'.now ∧ (x.key = epaKey ns name →
        x.evaluationPeriod ≤ P ∧ x.iAmWinner = (getEpaOwner view ns name == some r))) ∧
      ∀ key d, Refreshes r key d es → ∃ x ∈ log, x.key = key ∧ c.now + d ≤ x.instant := by
  induction h with
  | nil c =>
      refine ⟨p', [], hp', rfl, by simp, ?_⟩
      rintro key d ⟨pre, _, _, _, _, hes, -⟩
      simp at hes
  | @cons c c₁ c' e es hok hs hrest ih =>
      obtain ⟨p₁, log, hp₁, hstate, hlog, hfound⟩ := ih (sharesView_of_step hview hok hs) hp'
      obtain ⟨p, hp, ⟨ns', name', P', rfl, hrefresh⟩ | ⟨hother, hsame⟩⟩ :=
        state_of_step hs hok.2.1 hp₁
      · -- the refresh comes first in the log
        have hstep : c.step (.act r (.refresh ns' name' P')) = some c₁ := hs
        have hnow : c₁.now = c.now := now_of_step hstep
        refine ⟨p, ⟨c.now, epaKey ns' name', getEpaOwner p.sets ns' name' == some r, P'⟩ :: log,
          hp, by rw [hstate, hrefresh]; rfl, ?_, ?_⟩
        · rintro x hx
          rcases List.mem_cons.1 hx with rfl | hx
          · have hle := now_of_path hrest
            refine ⟨by show c.now ≤ c'.now; omega, fun hkey => ⟨hok.1 hkey, ?_⟩⟩
            show (getEpaOwner p.sets ns' name' == some r) = _
            rw [getEpaOwner_key_congr hkey, hview.owner hw hp]
          · exact hlog x hx
        · rintro key d ⟨pre, ns₀, name₀, P₀, post, hes, hkey, hd⟩
          rcases pre with _ | ⟨e', pre⟩
          · obtain ⟨hhead, -⟩ := List.cons.inj hes
            obtain ⟨-, hact⟩ := ClusterEvent.act.inj hhead
            obtain ⟨rfl, rfl, -⟩ := ReplicaEvent.refresh.inj hact
            have hzero : d ≤ 0 := hd
            exact ⟨_, List.mem_cons_self, hkey, by show c.now + d ≤ c.now; omega⟩
          · obtain ⟨rfl, htail⟩ := List.cons.inj hes
            obtain ⟨x, hx, hxkey, hle⟩ :=
              hfound key d ⟨pre, ns₀, name₀, P₀, post, htail, hkey, hd⟩
            exact ⟨x, List.mem_cons_of_mem _ hx, hxkey, by omega⟩
      · have hnow := now_of_step hs
        refine ⟨p, log, hp, by rw [hstate, hsame], hlog, ?_⟩
        rintro key d ⟨pre, ns₀, name₀, P₀, post, hes, hkey, hd⟩
        rcases pre with _ | ⟨e', pre⟩
        · exact absurd (List.cons.inj hes).1 (hother ns₀ name₀ P₀)
        · obtain ⟨rfl, htail⟩ := List.cons.inj hes
          rw [passed_cons] at hd
          obtain ⟨x, hx, hxkey, hle⟩ := hfound key (d - passed [e])
            ⟨pre, ns₀, name₀, P₀, post, htail, hkey, by omega⟩
          exact ⟨x, hx, hxkey, by omega⟩

/-- What the replicas remember is not from the future, and has no longer period than those of the
refreshes. -/
lemma recorded_of_reachable (h : clusterSystem.Reachable (PeriodsWithin ns name P) c) :
    ∀ r p, c.procs r = some p → (p.state.phase (epaKey ns name)).StartedBy c.now ∧
      (p.state.phase (epaKey ns name)).LostBy c.now P := by
  refine h.invariant (I := fun c => ∀ r p, c.procs r = some p →
    (p.state.phase (epaKey ns name)).StartedBy c.now ∧
      (p.state.phase (epaKey ns name)).LostBy c.now P) ?_ ?_
  · rintro c₀ ⟨now, rfl⟩ r p hp
    cases hp
  · intro c e c₁ ih hok hs r p' hp'
    replace hs : c.step e = some c₁ := hs
    have hnow := now_of_step hs
    have hlater : ∀ {φ : KeyPhase}, φ.StartedBy c.now ∧ φ.LostBy c.now P →
        φ.StartedBy c₁.now ∧ φ.LostBy c₁.now P := by
      rintro φ ⟨hstarted, hlost⟩
      exact ⟨fun s hs => (hstarted s hs).trans (by omega), hlost.mono (by omega)⟩
    by_cases hjoin : ∃ id, e = .join id
    · obtain ⟨id, rfl⟩ := hjoin
      rcases Cluster.procs_step hs hp' with ⟨-, rfl⟩ | ⟨p, hp, rfl | ⟨e', he, -⟩⟩
      · exact ⟨by rintro s ⟨⟩, by rintro l ⟨⟩⟩
      · exact hlater (ih r _ hp)
      · cases he
    · obtain ⟨p, hp, ⟨ns', name', P', rfl, hrefresh⟩ | ⟨-, hsame⟩⟩ :=
        state_of_step hs (fun id he => hjoin ⟨id, he⟩) hp'
      · refine hlater ?_
        obtain ⟨hstarted, hlost⟩ := ih r p hp
        rw [hrefresh]
        by_cases hkey : epaKey ns' name' = epaKey ns name
        · rw [refreshOwnership_key_congr hkey, phase_refreshOwnership_self]
          exact ⟨hstarted.refresh le_rfl _ _, hlost.refresh le_rfl (hok hkey) _⟩
        · rw [phase_refreshOwnership_of_ne (Ne.symm hkey)]
          exact ⟨fun s hs => hstarted s ((KeyPhase.retain_owned_iff _ _ _).1 hs),
            hlost.retain _⟩
      · rw [hsame]
        exact hlater (ih r p hp)

end Log

/-! ### Settling -/

section Settles

variable {c₀ c₁ c₂ : Cluster} {view : ReplicaSets} {ns name r : String} {P : ℕ}
  {es₁ es₂ : List ClusterEvent} {p₂ : Replica}

/-- The phase of the EPA at a replica that has settled. -/
lemma phase_of_settled (h₀ : clusterSystem.Reachable (PeriodsWithin ns name P) c₀)
    (hview : c₀.SharesView view) (hw : DistinctWeights view ns name)
    (h₁ : clusterSystem.Path (Steady view ns name P) c₀ es₁ c₁)
    (h₂ : clusterSystem.Path (Steady view ns name P) c₁ es₂ c₂)
    (hp₂ : c₂.procs r = some p₂) (hfirst : Refreshes r (epaKey ns name) 0 es₁)
    (hthen : ∃ key, Refreshes r key (P + graceBuffer) es₂) :
    if getEpaOwner view ns name = some r then
      ∃ s, p₂.state.phase (epaKey ns name) = .owned s ∧ s.since + s.evaluationPeriod ≤ c₂.now
    else p₂.state.phase (epaKey ns name) = .notTracking := by
  have hview₁ : c₁.SharesView view :=
    h₁.preserves (I := fun c => c.SharesView view)
      (fun _ _ _ hview hok hs => sharesView_of_step hview hok hs) hview
  obtain ⟨p₁, log₂, hp₁, hstate₂, hlog₂, hfound₂⟩ := exists_log h₂ hview₁ hw hp₂
  obtain ⟨p₀, log₁, hp₀, hstate₁, hlog₁, hfound₁⟩ := exists_log h₁ hview hw hp₁
  obtain ⟨hstarted, hlost⟩ := recorded_of_reachable h₀ r p₀ hp₀
  obtain ⟨x₁, hx₁, hkey₁, -⟩ := hfound₁ _ _ hfirst
  obtain ⟨key₂, hthen⟩ := hthen
  obtain ⟨x₂, hx₂, -, hlate⟩ := hfound₂ _ _ hthen
  have hnow₁ := now_of_path h₁
  rw [hstate₂, hstate₁, phase_stateAfter, phase_stateAfter]
  split
  · rename_i howner
    have hwin : ∀ {log : List Refresh} {now : ℕ}, (∀ x ∈ log, x.instant ≤ now ∧
        (x.key = epaKey ns name → x.evaluationPeriod ≤ P ∧
          x.iAmWinner = (getEpaOwner view ns name == some r))) →
        ∀ x ∈ log, x.key = epaKey ns name → x.iAmWinner = true ∧ x.evaluationPeriod ≤ P := by
      intro log now hlog x hx hkey
      obtain ⟨hP, hwinner⟩ := (hlog x hx).2 hkey
      exact ⟨by rw [hwinner, howner, beq_self_eq_true], hP⟩
    obtain ⟨s, hs, hP⟩ := KeyPhase.exists_after_owned
      (φ := p₀.state.phase (epaKey ns name)) (hwin hlog₁) ⟨x₁, hx₁, hkey₁⟩
    obtain ⟨s', hs', hsince, hP'⟩ := KeyPhase.after_wins_owned hP (hwin hlog₂)
    have hstarted₁ : s.since ≤ c₁.now := by
      have hbefore : (p₀.state.phase (epaKey ns name)).StartedBy c₁.now :=
        fun s hs => (hstarted s hs).trans (by omega)
      exact hbefore.after (fun x hx => (hlog₁ x hx).1) s hs
    have hx₂now := (hlog₂ x₂ hx₂).1
    exact ⟨s', by rw [hs, hs'], by omega⟩
  · rename_i howner
    have hlose : ∀ {log : List Refresh} {now : ℕ}, (∀ x ∈ log, x.instant ≤ now ∧
        (x.key = epaKey ns name → x.evaluationPeriod ≤ P ∧
          x.iAmWinner = (getEpaOwner view ns name == some r))) →
        ∀ x ∈ log, x.key = epaKey ns name → x.iAmWinner = false := by
      intro log now hlog x hx hkey
      rw [((hlog x hx).2 hkey).2]
      exact beq_eq_false_iff_ne.2 howner
    have hlost₁ : ((p₀.state.phase (epaKey ns name)).after (epaKey ns name) log₁).LostBy
        c₁.now P :=
      (hlost.mono (by omega)).after fun x hx =>
        ⟨(hlog₁ x hx).1, fun hkey => ((hlog₁ x hx).2 hkey).1⟩
    rcases hphase : (p₀.state.phase (epaKey ns name)).after (epaKey ns name) log₁ with _ | s | l
    · exact KeyPhase.after_notTracking (hlose hlog₂)
    · exact absurd hphase (KeyPhase.after_ne_owned (hlose hlog₁) (Or.inl ⟨x₁, hx₁, hkey₁⟩) s)
    · -- the refresh after the end of the window forgets the EPA
      rw [KeyPhase.after_lost (hlose hlog₂), if_neg]
      intro hopen
      have hwithin := hopen x₂ hx₂
      obtain ⟨hat, hperiod⟩ := hlost₁ l hphase
      omega

end Settles

/-- **How a cluster settles.** Suppose that all replicas hold one view, that this stays so, and that
no evaluation period of the EPA is longer than `P`. Once every live replica has refreshed the EPA
and, after `P` and the buffer, any EPA, the owner is the only live replica that scrapes the EPA and
the only one that serves it, and this stays so. -/
theorem settles {c₀ c₁ c₂ : Cluster} {view : ReplicaSets} {ns name owner : String} {P : ℕ}
    {es₁ es₂ : List ClusterEvent}
    (h₀ : clusterSystem.Reachable (PeriodsWithin ns name P) c₀)
    (hview : c₀.SharesView view) (hw : DistinctWeights view ns name)
    (howner : getEpaOwner view ns name = some owner)
    (h₁ : clusterSystem.Path (Steady view ns name P) c₀ es₁ c₁)
    (hfirst : ∀ r, (c₂.procs r).isSome → Refreshes r (epaKey ns name) 0 es₁)
    (h₂ : clusterSystem.Path (Steady view ns name P) c₁ es₂ c₂)
    (hthen : ∀ r, (c₂.procs r).isSome → ∃ key, Refreshes r key (P + graceBuffer) es₂)
    {r : String} {p : Replica} (hp : c₂.procs r = some p) :
    (shouldScrapeEpa p.state ns name = true ↔ r = owner) ∧
      (shouldServeEpa r p.sets c₂.now ns name p.state = true ↔ r = owner) := by
  have hlive : (c₂.procs r).isSome := by simp [hp]
  have hphase := phase_of_settled h₀ hview hw h₁ h₂ hp (hfirst r hlive) (hthen r hlive)
  rw [shouldScrapeEpa_eq, shouldServeEpa_eq]
  by_cases hr : r = owner
  · subst hr
    rw [if_pos howner] at hphase
    obtain ⟨s, hs, hover⟩ := hphase
    have hold : s.evaluationPeriod ≤ elapsed c₂.now s.since := by
      rw [elapsed]
      omega
    simp [hs, KeyPhase.serves, hold]
  · have hother : getEpaOwner view ns name ≠ some r := fun h =>
      hr (Option.some.inj (h.symm.trans howner))
    rw [if_neg hother] at hphase
    simp [hphase, KeyPhase.serves, hr]

/-- Both replicas refresh the EPA again when the grace window is over. -/
def refreshLater : List ClusterEvent := .advance (secs 60 + graceBuffer) :: bothRefresh

lemma steady_bothRefresh {c : Cluster} {view : ReplicaSets} {e : ClusterEvent}
    (he : e ∈ refreshLater ++ bothRefresh) : Steady view "default" "web" (secs 60) c e := by
  simp only [refreshLater, bothRefresh, List.cons_append, List.nil_append, List.mem_cons,
    List.not_mem_nil, or_false] at he
  rcases he with rfl | rfl | rfl | rfl | rfl <;> simp [Steady, PeriodsWithin]

lemma refreshes_bothRefresh {r : String} (hr : r = "replica-a" ∨ r = "replica-b") :
    Refreshes r (epaKey "default" "web") 0 bothRefresh ∧
      Refreshes r (epaKey "default" "web") (secs 60 + graceBuffer) refreshLater := by
  rcases hr with rfl | rfl
  · exact ⟨⟨[], _, _, _, _, rfl, rfl, Nat.zero_le _⟩,
      ⟨[.advance (secs 60 + graceBuffer)], _, _, _, _, rfl, rfl, le_rfl⟩⟩
  · exact ⟨⟨bothRefresh.take 1, _, _, _, _, rfl, rfl, Nat.zero_le _⟩,
      ⟨refreshLater.take 2, _, _, _, _, rfl, rfl, le_rfl⟩⟩

lemma refreshLater_exec :
    ((clusterSystem.exec (.start 0) createdDuringDrain).any fun c =>
      (clusterSystem.exec c bothRefresh).any fun c₁ =>
        (clusterSystem.exec c₁ refreshLater).any fun c₂ => (c₂.procs "replica-a").isSome) =
      true := by
  decide +kernel

/-- The replica that remains serves the EPA when the handover is over. -/
theorem settles_after_drain :
    ∃ c p, clusterSystem.Reachable System.Any c ∧ c.procs "replica-a" = some p ∧
      shouldServeEpa "replica-a" p.sets c.now "default" "web" p.state = true := by
  obtain ⟨c₀, pa, pb, hc₀, -, hlive, -, -, hva, hvb, -, -⟩ := createdDuringDrain_state
  obtain ⟨c, hc, hrun⟩ := (Option.any_eq_true _ _).1 refreshLater_exec
  obtain rfl := Option.some.inj (hc₀.symm.trans hc)
  obtain ⟨c₁, hc₁, hrun⟩ := (Option.any_eq_true _ _).1 hrun
  obtain ⟨c₂, hc₂, hrun⟩ := (Option.any_eq_true _ _).1 hrun
  obtain ⟨p, hp⟩ := Option.isSome_iff_exists.1 hrun
  have hpath₀ := System.exec_eq_some_iff.1 hc₀
  have hpath := (System.exec_eq_some_iff.1 hc₁).append (System.exec_eq_some_iff.1 hc₂)
  have h₀ : clusterSystem.Reachable (PeriodsWithin "default" "web" (secs 60)) c₀ :=
    ⟨.start 0, createdDuringDrain, ⟨0, rfl⟩, hpath₀.restrict (by
      simp [createdDuringDrain, drainThenCreate, bothRefresh, PeriodsWithin])⟩
  have h₁ : clusterSystem.Path (Steady (drainView false) "default" "web" (secs 60)) c₀
      bothRefresh c₁ :=
    (System.exec_eq_some_iff.1 hc₁).restrict fun e he c =>
      steady_bothRefresh (List.mem_append_right _ he)
  have h₂ : clusterSystem.Path (Steady (drainView false) "default" "web" (secs 60)) c₁
      refreshLater c₂ :=
    (System.exec_eq_some_iff.1 hc₂).restrict fun e he c =>
      steady_bothRefresh (List.mem_append_left _ he)
  have hboth : ∀ r, (c₂.procs r).isSome → r = "replica-a" ∨ r = "replica-b" := by
    intro r hr
    rcases Cluster.join_mem_of_path hpath hr with hsome | hjoin
    · obtain ⟨q, hq⟩ := Option.isSome_iff_exists.1 hsome
      exact (hlive r q hq).imp And.left And.left
    · simp [bothRefresh, refreshLater] at hjoin
  have hreach : clusterSystem.Reachable System.Any c₀ := .of_exec ⟨0, rfl⟩ hc₀
  refine ⟨c₂, p, hreach.path hpath, hp, ?_⟩
  exact (settles h₀ (createdDuringDrain_sharesView hlive hva hvb) (by decide +kernel)
    (by decide +kernel) h₁ (fun r hr => (refreshes_bothRefresh (hboth r hr)).1) h₂
    (fun r hr => ⟨_, (refreshes_bothRefresh (hboth r hr)).2⟩) hp).2.2 rfl

end ExternalPodAutoscaler.Membership
