/-
The handoff of an EPA between two replicas.

A replica's ownership state is what its refreshes have made of it, so a run of two
replicas is a log of timed refreshes for each of them, of the EPA in question and of
others.  The two logs are independent: the replicas observe a change of the ring at
different instants and prune their grace windows at their own ticks.

The main result of this file is `handoff_without_gap`: if the new owner observes the
change at most `graceBuffer` after the old one, one of the two serves at every instant.
The old owner's grace window lasts for the evaluation period and the buffer, counted from
its own loss (`KeyPhase.after_losses`); the new owner serves from one evaluation period
after its first win on (`KeyPhase.after_wins`).
-/
import Mathlib.Tactic.Tauto
import ExternalPodAutoscaler.Membership.TransitionState

namespace ExternalPodAutoscaler.Membership

/-- One call of `refresh_ownership` in the log of a replica. -/
structure Refresh where
  instant : ℕ
  key : String
  iAmWinner : Bool
  evaluationPeriod : ℕ
deriving DecidableEq

/-- The ownership state after the refreshes of a log. -/
def stateAfter (st : TransitionState) (log : List Refresh) : TransitionState :=
  log.foldl (fun st r => st.refresh r.instant r.iAmWinner r.key r.evaluationPeriod) st

/-- The instants of a log do not go back. -/
def Chronological (log : List Refresh) : Prop :=
  log.Pairwise fun r r' => r.instant ≤ r'.instant

instance (log : List Refresh) : Decidable (Chronological log) :=
  inferInstanceAs (Decidable (log.Pairwise _))

/-- Every refresh of the EPA uses the evaluation period `P`. -/
def Uniform (key : String) (P : ℕ) (log : List Refresh) : Prop :=
  ∀ r ∈ log, r.key = key → r.evaluationPeriod = P

instance (key : String) (P : ℕ) (log : List Refresh) : Decidable (Uniform key P log) :=
  inferInstanceAs (Decidable (∀ r ∈ log, r.key = key → r.evaluationPeriod = P))

/-- The replica wins the EPA at instant `s`, holds it until it loses it at instant `a`, and
does not win it again. -/
def OwnsUntil (key : String) (log : List Refresh) (s a : ℕ) : Prop :=
  ∃ pre win mid loss post, log = (pre ++ win :: mid) ++ loss :: post ∧
    (win.key = key ∧ win.iAmWinner = true ∧ win.instant = s) ∧
    (∀ r ∈ mid, r.key = key → r.iAmWinner = true) ∧
    (loss.key = key ∧ loss.iAmWinner = false ∧ loss.instant = a) ∧
    ∀ r ∈ post, r.key = key → r.iAmWinner = false

/-- The replica wins the EPA at instant `b` and does not lose it again. -/
def OwnsFrom (key : String) (log : List Refresh) (b : ℕ) : Prop :=
  ∃ pre win post, log = pre ++ win :: post ∧
    (win.key = key ∧ win.iAmWinner = true ∧ win.instant = b) ∧
    ∀ r ∈ post, r.key = key → r.iAmWinner = true

/-- `past` is the part of the log that has happened when the replica is asked at instant
`t`.  Of the refreshes at `t` itself any number may have happened, and all of them if the
evaluation period is empty. -/
def PastAt (P t : ℕ) (log past : List Refresh) : Prop :=
  ∃ rest, log = past ++ rest ∧ (∀ r ∈ past, r.instant ≤ t) ∧
    ∀ r ∈ rest, t ≤ r.instant ∧ (P = 0 → t < r.instant)

/-- A refresh of a log that is cut in two is in one of the parts. -/
lemma mem_cut {α : Type*} {pre post past rest : List α} {x : α}
    (h : pre ++ x :: post = past ++ rest) :
    (∃ c, past = pre ++ x :: c ∧ post = c ++ rest) ∨
      ∃ c, pre = past ++ c ∧ rest = c ++ x :: post := by
  rcases List.append_eq_append_iff.1 h with ⟨c, hpast, hrest⟩ | ⟨c, hpre, hrest⟩
  · cases c with
    | nil => exact Or.inr ⟨[], by simpa using hpast.symm, by simpa using hrest.symm⟩
    | cons y c =>
        obtain ⟨rfl, rfl⟩ := List.cons.inj hrest
        exact Or.inl ⟨c, hpast, rfl⟩
  · exact Or.inr ⟨c, hpre, hrest⟩

/-! ### The phase of the EPA along a log -/

namespace KeyPhase

/-- The phase of the EPA `key` after the refreshes of a log. -/
def after (key : String) (φ : KeyPhase) (log : List Refresh) : KeyPhase :=
  log.foldl (fun φ r => if r.key = key then φ.refresh r.instant r.iAmWinner r.evaluationPeriod
    else φ.retain r.instant) φ

@[simp] lemma after_nil (key : String) (φ : KeyPhase) : φ.after key [] = φ := rfl

lemma after_cons (key : String) (φ : KeyPhase) (r : Refresh) (log : List Refresh) :
    φ.after key (r :: log) =
      (if r.key = key then φ.refresh r.instant r.iAmWinner r.evaluationPeriod
        else φ.retain r.instant).after key log := rfl

lemma after_append (key : String) (φ : KeyPhase) (log log' : List Refresh) :
    φ.after key (log ++ log') = (φ.after key log).after key log' := List.foldl_append

/-- The EPA has not been owned for longer than since `t`. -/
def StartedBy (t : ℕ) (φ : KeyPhase) : Prop := ∀ s, φ = owned s → s.since ≤ t

lemma StartedBy.refresh {t now : ℕ} {φ : KeyPhase} (h : φ.StartedBy t) (hnow : now ≤ t)
    (w : Bool) (P : ℕ) : (φ.refresh now w P).StartedBy t := by
  cases w with
  | true =>
      rintro s hs
      cases φ with
      | owned s' =>
          obtain rfl : { s' with evaluationPeriod := P } = s := KeyPhase.owned.inj hs
          exact h s' rfl
      | lost l =>
          obtain rfl : { since := now, evaluationPeriod := P } = s := KeyPhase.owned.inj hs
          exact hnow
      | notTracking =>
          obtain rfl : { since := now, evaluationPeriod := P } = s := KeyPhase.owned.inj hs
          exact hnow
  | false => exact fun s hs => absurd hs (refresh_lose_ne_owned now P φ s)

lemma StartedBy.after {t : ℕ} {key : String} {log : List Refresh} {φ : KeyPhase}
    (h : φ.StartedBy t) (hlog : ∀ r ∈ log, r.instant ≤ t) : (φ.after key log).StartedBy t := by
  induction log generalizing φ with
  | nil => exact h
  | cons r log ih =>
      rw [after_cons]
      refine ih ?_ fun r' hr' => hlog r' (List.mem_cons_of_mem _ hr')
      split
      · exact h.refresh (hlog r List.mem_cons_self) _ _
      · intro s hs
        exact h s ((retain_owned_iff _ _ _).1 hs)

/-- Refreshes as the winner keep an owned EPA as it is. -/
lemma after_wins {key : String} {log : List Refresh} {s : OwnershipState}
    (hper : Uniform key s.evaluationPeriod log)
    (hwin : ∀ r ∈ log, r.key = key → r.iAmWinner = true) :
    (owned s).after key log = owned s := by
  induction log with
  | nil => rfl
  | cons r log ih =>
      have hhead : (if r.key = key then (owned s).refresh r.instant r.iAmWinner r.evaluationPeriod
          else (owned s).retain r.instant) = owned s := by
        split
        · rename_i hkey
          rw [hwin r List.mem_cons_self hkey, hper r List.mem_cons_self hkey]
          rfl
        · rfl
      rw [after_cons, hhead]
      exact ih (fun r' hr' => hper r' (List.mem_cons_of_mem _ hr'))
        fun r' hr' => hwin r' (List.mem_cons_of_mem _ hr')

/-- Refreshes as a loser keep a lost EPA as it is while its grace window is open. -/
lemma after_losses {key : String} {log : List Refresh} {l : LostOwnership}
    (hopen : ∀ r ∈ log, elapsed r.instant l.lostAt < l.evaluationPeriod + graceBuffer)
    (hlose : ∀ r ∈ log, r.key = key → r.iAmWinner = false) :
    (lost l).after key log = lost l := by
  induction log with
  | nil => rfl
  | cons r log ih =>
      have hretain : (lost l).retain r.instant = lost l := if_pos (hopen r List.mem_cons_self)
      have hhead : (if r.key = key then (lost l).refresh r.instant r.iAmWinner r.evaluationPeriod
          else (lost l).retain r.instant) = lost l := by
        split
        · rename_i hkey
          rw [hlose r List.mem_cons_self hkey]
          exact hretain
        · exact hretain
      rw [after_cons, hhead]
      exact ih (fun r' hr' => hopen r' (List.mem_cons_of_mem _ hr'))
        fun r' hr' => hlose r' (List.mem_cons_of_mem _ hr')

/-- A stretch of winning refreshes that starts at instant `s` leaves the EPA owned since
`s` or earlier. -/
lemma after_stretch {key : String} {pre mid : List Refresh} {win : Refresh} {P : ℕ}
    (hpre : ∀ r ∈ pre, r.instant ≤ win.instant) (hkey : win.key = key)
    (hwin : win.iAmWinner = true) (hmid : ∀ r ∈ mid, r.key = key → r.iAmWinner = true)
    (hper : Uniform key P (win :: mid)) :
    ∃ s, notTracking.after key (pre ++ win :: mid) = owned s ∧ s.evaluationPeriod = P ∧
      s.since ≤ win.instant := by
  have hstart : (notTracking.after key pre).StartedBy win.instant :=
    StartedBy.after (by rintro s ⟨⟩) hpre
  obtain ⟨s, hs, hP, -⟩ := refresh_win win.instant P (notTracking.after key pre)
  subst hP
  refine ⟨s, ?_, rfl, hstart.refresh le_rfl true _ s hs⟩
  rw [after_append, after_cons, if_pos hkey, hwin, hper win List.mem_cons_self hkey, hs]
  exact after_wins (fun r hr => hper r (List.mem_cons_of_mem _ hr)) hmid

end KeyPhase

lemma phase_stateAfter (st : TransitionState) (key : String) (log : List Refresh) :
    (stateAfter st log).phase key = (st.phase key).after key log := by
  induction log generalizing st with
  | nil => rfl
  | cons r log ih =>
      show (stateAfter (st.refresh r.instant r.iAmWinner r.key r.evaluationPeriod) log).phase key
        = _
      rw [ih, KeyPhase.after_cons]
      split
      · rename_i hkey
        rw [← hkey, TransitionState.phase_refresh_self]
      · rename_i hkey
        rw [TransitionState.phase_refresh_of_ne (Ne.symm hkey)]

lemma Uniform.mono {key : String} {P : ℕ} {log log' : List Refresh} (h : Uniform key P log)
    (hsub : ∀ r ∈ log', r ∈ log) : Uniform key P log' := fun r hr => h r (hsub r hr)

lemma Chronological.le_of_append {pre post : List Refresh} {r : Refresh}
    (h : Chronological (pre ++ r :: post)) : ∀ r' ∈ pre, r'.instant ≤ r.instant := fun r' hr' =>
  (List.pairwise_append.1 h).2.2 r' hr' r List.mem_cons_self

/-! ### The two sides of a handoff -/

/-- The old owner serves until its grace window is over. -/
lemma OwnsUntil.serves {key : String} {P s a t : ℕ} {log past : List Refresh}
    (h : OwnsUntil key log s a) (hchron : Chronological log) (hper : Uniform key P log)
    (hpast : PastAt P t log past) (hs : s + P ≤ a) (hst : s + P ≤ t)
    (ht : t < a + P + graceBuffer) (waits : Bool) :
    (KeyPhase.notTracking.after key past).serves t waits = true := by
  obtain ⟨pre, win, mid, loss, post, rfl, ⟨hwk, hww, rfl⟩, hmid, ⟨hlk, hlw, rfl⟩, hpost⟩ := h
  obtain ⟨rest, hlog, hle, hge⟩ := hpast
  have hpre : ∀ r ∈ pre, r.instant ≤ win.instant := by
    rw [List.append_assoc, List.cons_append] at hchron
    exact hchron.le_of_append
  rcases mem_cut hlog with ⟨c, rfl, rfl⟩ | ⟨c, hc, rfl⟩
  · -- the loss has happened: the grace window is still open
    obtain ⟨σ, hσ, hP, hsince⟩ := KeyPhase.after_stretch hpre hwk hww hmid
      (hper.mono fun r hr => by simp only [List.mem_append, List.mem_cons] at hr ⊢; tauto)
    have hlost : KeyPhase.notTracking.after key ((pre ++ win :: mid) ++ loss :: c) =
        .lost ⟨loss.instant, P⟩ := by
      rw [KeyPhase.after_append, hσ, KeyPhase.after_cons, if_pos hlk, hlw,
        hper loss (by simp) hlk, KeyPhase.refresh_lose_owned]
      refine KeyPhase.after_losses (fun r hr => ?_) fun r hr => hpost r (by simp [hr])
      have := hle r (by simp [hr])
      have := graceBuffer_pos
      simp only [elapsed]
      omega
    rw [hlost]
    rfl
  · -- the loss is still to come: the EPA has been owned for long enough
    rcases mem_cut hc with ⟨d, rfl, rfl⟩ | ⟨d, rfl, rfl⟩
    · have hd : ∀ r ∈ d, r.key = key → r.iAmWinner = true := fun r hr => hmid r (by simp [hr])
      obtain ⟨σ, hσ, hP, hsince⟩ := KeyPhase.after_stretch hpre hwk hww hd
        (hper.mono fun r hr => by simp only [List.mem_append, List.mem_cons] at hr ⊢; tauto)
      rw [hσ, KeyPhase.serves, Bool.or_eq_true]
      left
      rw [decide_eq_true_eq, elapsed]
      omega
    · have := hge win (by simp)
      omega

/-- The new owner serves from one evaluation period after its win on. -/
lemma OwnsFrom.serves {key : String} {P b t : ℕ} {log past : List Refresh}
    (h : OwnsFrom key log b) (hchron : Chronological log) (hper : Uniform key P log)
    (hpast : PastAt P t log past) (ht : b + P ≤ t) (waits : Bool) :
    (KeyPhase.notTracking.after key past).serves t waits = true := by
  obtain ⟨pre, win, post, rfl, ⟨hwk, hww, rfl⟩, hpost⟩ := h
  obtain ⟨rest, hlog, hle, hge⟩ := hpast
  rcases mem_cut hlog with ⟨c, rfl, rfl⟩ | ⟨c, rfl, rfl⟩
  · have hc : ∀ r ∈ c, r.key = key → r.iAmWinner = true := fun r hr => hpost r (by simp [hr])
    obtain ⟨σ, hσ, hP, hsince⟩ := KeyPhase.after_stretch hchron.le_of_append hwk hww hc
      (hper.mono fun r hr => by simp only [List.mem_append, List.mem_cons] at hr ⊢; tauto)
    rw [hσ, KeyPhase.serves, Bool.or_eq_true]
    left
    rw [decide_eq_true_eq, elapsed]
    omega
  · have := hge win (by simp)
    omega

/-- **Handoff without a gap.** Replica A owns the EPA from instant `s` until it observes at
instant `a` that it has lost it; replica B owns it from instant `b` on, at most
`graceBuffer` later than `a`.  If A has owned the EPA for the evaluation period when the
first of the two observes the change, then from that instant on one of the two serves,
whatever sets of replicas the two hold. -/
theorem handoff_without_gap {ns name : String} {P s a b t : ℕ}
    {logA logB pastA pastB : List Refresh}
    (hA : OwnsUntil (epaKey ns name) logA s a) (hB : OwnsFrom (epaKey ns name) logB b)
    (hchronA : Chronological logA) (hchronB : Chronological logB)
    (hperA : Uniform (epaKey ns name) P logA) (hperB : Uniform (epaKey ns name) P logB)
    (hs : s + P ≤ min a b) (hab : b ≤ a + graceBuffer) (ht : min a b ≤ t)
    (hpastA : PastAt P t logA pastA) (hpastB : PastAt P t logB pastB)
    (idA idB : String) (setsA setsB : ReplicaSets) :
    shouldServeEpa idA setsA t ns name (stateAfter .new pastA) = true ∨
      shouldServeEpa idB setsB t ns name (stateAfter .new pastB) = true := by
  rw [shouldServeEpa_eq, shouldServeEpa_eq, phase_stateAfter, phase_stateAfter]
  by_cases hlate : b + P ≤ t
  · right
    exact hB.serves hchronB hperB hpastB hlate _
  · left
    exact hA.serves hchronA hperA hpastA (by omega) (by omega) (by omega) _

/-- A replica that wins an EPA, ticks for another one, and loses it after 100 seconds. -/
def departingLog : List Refresh :=
  [⟨secs 1, epaKey "default" "web", true, secs 60⟩,
    ⟨secs 40, epaKey "default" "api", true, secs 30⟩,
    ⟨secs 100, epaKey "default" "web", false, secs 60⟩]

/-- A replica that observes three seconds later that it has won the EPA. -/
def arrivingLog : List Refresh := [⟨secs 103, epaKey "default" "web", true, secs 60⟩]

/-- One of the two replicas serves 10 seconds after the loss. -/
theorem handoff_without_gap_at_110 :
    shouldServeEpa "a" .new (secs 110) "default" "web" (stateAfter .new departingLog) = true ∨
      shouldServeEpa "b" .new (secs 110) "default" "web" (stateAfter .new arrivingLog) = true :=
  handoff_without_gap (P := secs 60) (s := secs 1) (a := secs 100) (b := secs 103)
    ⟨[], _, [_], _, [], rfl, ⟨rfl, rfl, rfl⟩, by decide, ⟨rfl, rfl, rfl⟩, by decide⟩
    ⟨[], _, [], rfl, ⟨rfl, rfl, rfl⟩, by decide⟩
    (by decide) (by decide) (by decide) (by decide) (by decide) (by decide) (by decide)
    ⟨[], rfl, by decide, by decide⟩ ⟨[], rfl, by decide, by decide⟩ _ _ _ _

end ExternalPodAutoscaler.Membership
