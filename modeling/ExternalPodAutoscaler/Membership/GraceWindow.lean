/-
The grace window of a lost EPA.

After a replica has lost an EPA it goes on to scrape and serve it for the evaluation period
it had at the loss and a buffer.  The window is closed by the first refresh, of any EPA, that
comes after its end: refreshes prune the map of lost EPAs, and nothing else does.  Later
refreshes as a loser neither restart the window nor change its length.

The main result of this file is `grace_window_exact`.
-/
import ExternalPodAutoscaler.Membership.Handoff

namespace ExternalPodAutoscaler.Membership

namespace KeyPhase

variable {key : String} {l : LostOwnership} {log : List Refresh}

/-- Pruning forgets a lost EPA from the end of its window on. -/
lemma retain_lost (now : ℕ) (l : LostOwnership) : (lost l).retain now =
    if now < l.lostAt + l.evaluationPeriod + graceBuffer then lost l else notTracking := by
  have hpos := graceBuffer_pos
  have hwindow : elapsed now l.lostAt < l.evaluationPeriod + graceBuffer ↔
      now < l.lostAt + l.evaluationPeriod + graceBuffer := by
    rw [elapsed]
    omega
  rw [retain]
  simp only [hwindow]

/-- A loser that does not track the EPA does not start to. -/
lemma after_notTracking (hlose : ∀ r ∈ log, r.key = key → r.iAmWinner = false) :
    notTracking.after key log = notTracking := by
  induction log with
  | nil => rfl
  | cons r log ih =>
      have hhead : (if r.key = key then
          notTracking.refresh r.instant r.iAmWinner r.evaluationPeriod
          else notTracking.retain r.instant) = notTracking := by
        split
        · rename_i hkey
          rw [hlose r List.mem_cons_self hkey]
          rfl
        · rfl
      rw [after_cons, hhead]
      exact ih fun r' hr' => hlose r' (List.mem_cons_of_mem _ hr')

/-- A lost EPA is forgotten at the first refresh after the end of its window. -/
lemma after_lost (hlose : ∀ r ∈ log, r.key = key → r.iAmWinner = false) :
    (lost l).after key log =
      if ∀ r ∈ log, r.instant < l.lostAt + l.evaluationPeriod + graceBuffer then lost l
      else notTracking := by
  induction log with
  | nil => simp
  | cons r log ih =>
      have hrest : ∀ r' ∈ log, r'.key = key → r'.iAmWinner = false :=
        fun r' hr' => hlose r' (List.mem_cons_of_mem _ hr')
      have hhead : (if r.key = key then (lost l).refresh r.instant r.iAmWinner r.evaluationPeriod
          else (lost l).retain r.instant) = (lost l).retain r.instant := by
        split
        · rename_i hkey
          rw [hlose r List.mem_cons_self hkey]
          rfl
        · rfl
      rw [after_cons, hhead, retain_lost]
      by_cases hopen : r.instant < l.lostAt + l.evaluationPeriod + graceBuffer
      · rw [if_pos hopen, ih hrest]
        simp [hopen]
      · rw [if_neg hopen, after_notTracking hrest, if_neg]
        intro hall
        exact hopen (hall r List.mem_cons_self)

end KeyPhase

/-- The phase of an EPA some time after it was lost. -/
lemma phase_after_loss {key : String} {pre past : List Refresh} {loss : Refresh}
    (howned : ((stateAfter .new pre).owned key).isSome) (hkey : loss.key = key)
    (hlose : loss.iAmWinner = false) (hpast : ∀ r ∈ past, r.key = key → r.iAmWinner = false) :
    (stateAfter .new (pre ++ loss :: past)).phase key =
      if ∀ r ∈ past, r.instant < loss.instant + loss.evaluationPeriod + graceBuffer then
        .lost ⟨loss.instant, loss.evaluationPeriod⟩
      else .notTracking := by
  obtain ⟨s, hs⟩ := Option.isSome_iff_exists.1 howned
  have hbefore : (KeyPhase.notTracking).after key pre = .owned s := by
    have hphase := phase_stateAfter .new key pre
    rw [TransitionState.phase_eq_owned_iff.2 hs] at hphase
    exact hphase.symm
  rw [phase_stateAfter, TransitionState.phase_new, KeyPhase.after_append, hbefore,
    KeyPhase.after_cons, if_pos hkey, hlose, KeyPhase.refresh_lose_owned]
  exact KeyPhase.after_lost hpast

/-- **The grace window is exact.** After any refreshes no EPA is both owned and lost.  When a
refresh as a loser, at its instant and with its evaluation period, finds the EPA owned, and
no later one finds the replica to be the winner, then the replica scrapes and serves the EPA
until the first refresh, of any EPA, at least the evaluation period and the buffer later, and
never after it. -/
theorem grace_window_exact (ns name : String) :
    (∀ (log : List Refresh) (key : String), ((stateAfter .new log).owned key).isSome →
      (stateAfter .new log).lost key = none) ∧
    ∀ (pre past : List Refresh) (loss : Refresh),
      ((stateAfter .new pre).owned (epaKey ns name)).isSome →
      loss.key = epaKey ns name → loss.iAmWinner = false →
      (∀ r ∈ past, r.key = epaKey ns name → r.iAmWinner = false) →
      let st := stateAfter .new (pre ++ loss :: past)
      (shouldScrapeEpa st ns name = true ↔
        ∀ r ∈ past, r.instant < loss.instant + loss.evaluationPeriod + graceBuffer) ∧
      ∀ (me : String) (sets : ReplicaSets) (now : ℕ),
        shouldServeEpa me sets now ns name st = true ↔
          ∀ r ∈ past, r.instant < loss.instant + loss.evaluationPeriod + graceBuffer := by
  refine ⟨fun log key => (stateAfter .new log).exclusive key, ?_⟩
  intro pre past loss howned hkey hlose hpast st
  have hphase : st.phase (epaKey ns name) = _ := phase_after_loss howned hkey hlose hpast
  constructor
  · rw [shouldScrapeEpa_eq, hphase]
    split <;> simp_all
  · intro me sets now
    rw [shouldServeEpa_eq, hphase]
    split <;> simp_all [KeyPhase.serves]

/-- In the log of the departing replica the window closes at a refresh of another EPA, 65
seconds after the loss. -/
theorem grace_window_exact_departing :
    shouldScrapeEpa (stateAfter .new (departingLog ++
      [⟨secs 164, epaKey "default" "api", true, secs 30⟩])) "default" "web" = true ∧
    shouldServeEpa "a" .new (secs 166) "default" "web" (stateAfter .new (departingLog ++
      [⟨secs 165, epaKey "default" "api", true, secs 30⟩])) = false := by
  have howned :
      ((stateAfter .new (departingLog.take 2)).owned (epaKey "default" "web")).isSome := by
    decide
  obtain ⟨-, hwindow⟩ := grace_window_exact "default" "web"
  constructor
  · exact (hwindow (departingLog.take 2) [_] ⟨secs 100, epaKey "default" "web", false, secs 60⟩
      howned rfl rfl (by decide)).1.2 (by decide)
  · have hclosed := (hwindow (departingLog.take 2)
      [⟨secs 165, epaKey "default" "api", true, secs 30⟩]
      ⟨secs 100, epaKey "default" "web", false, secs 60⟩ howned rfl rfl (by decide)).2 "a" .new
      (secs 166)
    exact Bool.eq_false_iff.2 fun hserves => absurd (hclosed.1 hserves) (by decide)

end ExternalPodAutoscaler.Membership
