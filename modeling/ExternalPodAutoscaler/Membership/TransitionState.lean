/-
Ownership transitions (`membership/ownership.rs`).

A replica remembers since when it owns an EPA, and for some time after it has lost an EPA
that it did.  `refreshOwnership` keeps the two maps; `shouldScrapeEpa` and
`shouldServeEpa` read them.

Seen from one EPA, the two maps are a machine with three phases: the EPA is not tracked,
owned or lost.  The main results of this file are `phase_refresh_self` and
`phase_refresh_of_ne`: a refresh moves the phase of its own EPA by `KeyPhase.refresh` and
does nothing but prune the grace windows of the others; `shouldServeEpa_eq` says what the
phase means for serving.
-/
import Mathlib.Logic.Function.Basic
import ExternalPodAutoscaler.Clock
import ExternalPodAutoscaler.Membership.Election

namespace ExternalPodAutoscaler.Membership

/-- Buffer added to the evaluation period when determining how long the old owner
continues to scrape and serve. -/
def graceBuffer : ℕ := secs 5

lemma graceBuffer_pos : 0 < graceBuffer := by
  simp only [graceBuffer, secs]
  omega

/-- When this replica became the hash winner for an EPA, and the EPA's evaluation
period. -/
structure OwnershipState where
  since : ℕ
  evaluationPeriod : ℕ
deriving DecidableEq

/-- When this replica lost an EPA, and the evaluation period it had then. -/
structure LostOwnership where
  lostAt : ℕ
  evaluationPeriod : ℕ
deriving DecidableEq

/-- Both ownership maps.  No EPA is in both. -/
structure TransitionState where
  owned : String → Option OwnershipState
  lost : String → Option LostOwnership
  exclusive : ∀ key, (owned key).isSome → lost key = none

namespace TransitionState

/-- The maps of a replica that has just started. -/
def new : TransitionState where
  owned := fun _ => none
  lost := fun _ => none
  exclusive := fun _ _ => rfl

/-- The EPA is owned: an entry keeps its instant and takes over the period. -/
def win (st : TransitionState) (now : ℕ) (key : String) (evaluationPeriod : ℕ) :
    TransitionState where
  owned := Function.update st.owned key (some
    (match st.owned key with
    | some s => { s with evaluationPeriod := evaluationPeriod }
    | none => { since := now, evaluationPeriod := evaluationPeriod }))
  lost := Function.update st.lost key none
  exclusive := by
    intro k hk
    by_cases hkey : k = key
    · simp [hkey]
    · rw [Function.update_of_ne hkey] at hk ⊢
      exact st.exclusive k hk

/-- The EPA is not owned: an entry of the owned map moves to the lost map. -/
def lose (st : TransitionState) (now : ℕ) (key : String) (evaluationPeriod : ℕ) :
    TransitionState where
  owned := Function.update st.owned key none
  lost :=
    if (st.owned key).isSome then
      Function.update st.lost key (some
        ((st.lost key).getD { lostAt := now, evaluationPeriod := evaluationPeriod }))
    else st.lost
  exclusive := by
    intro k hk
    by_cases hkey : k = key
    · simp [hkey] at hk
    · rw [Function.update_of_ne hkey] at hk
      split <;> simp [Function.update_of_ne hkey, st.exclusive k hk]

/-- Drops the entries of the lost map whose grace window is over. -/
def retain (st : TransitionState) (now : ℕ) : TransitionState where
  owned := st.owned
  lost := fun key => (st.lost key).filter fun entry =>
    elapsed now entry.lostAt < entry.evaluationPeriod + graceBuffer
  exclusive := by
    intro k hk
    rw [st.exclusive k hk]
    rfl

/-- One call of `refresh_ownership` for the EPA `key`, after the winner was read. -/
def refresh (st : TransitionState) (now : ℕ) (iAmWinner : Bool) (key : String)
    (evaluationPeriod : ℕ) : TransitionState :=
  (if iAmWinner then st.win now key evaluationPeriod
    else st.lose now key evaluationPeriod).retain now

end TransitionState

/-- One call of `refresh_ownership` at replica `me`. -/
def refreshOwnership (me : String) (sets : ReplicaSets) (now : ℕ) (ns name : String)
    (evaluationPeriod : ℕ) (st : TransitionState) : TransitionState :=
  let winner := getEpaOwner sets ns name
  st.refresh now (winner == some me) (epaKey ns name) evaluationPeriod

/-- Whether the replica scrapes metrics for the EPA. -/
def shouldScrapeEpa (st : TransitionState) (ns name : String) : Bool :=
  (st.owned (epaKey ns name)).isSome || (st.lost (epaKey ns name)).isSome

/-- Whether some other replica would own the EPA if the draining ones were active. -/
def hasPreviousOwner (me : String) (sets : ReplicaSets) (ns name : String) : Bool :=
  match getPreviousEpaOwner sets ns name with
  | some prev => prev != me
  | none => false

/-- Whether the replica `me` serves scaling decisions for the EPA. -/
def shouldServeEpa (me : String) (sets : ReplicaSets) (now : ℕ) (ns name : String)
    (st : TransitionState) : Bool :=
  match st.owned (epaKey ns name) with
  | some s =>
    if s.evaluationPeriod ≤ elapsed now s.since then true
    -- partial data is better than no data: nobody else is waited for
    else !hasPreviousOwner me sets ns name
  | none => (st.lost (epaKey ns name)).isSome

/-! ### The phases of one EPA -/

/-- What a replica remembers of one EPA. -/
inductive KeyPhase where
  | notTracking
  | owned (s : OwnershipState)
  | lost (l : LostOwnership)
deriving DecidableEq

namespace KeyPhase

/-- The phase after a refresh as the winner, before pruning. -/
def win (now evaluationPeriod : ℕ) : KeyPhase → KeyPhase
  | owned s => owned { s with evaluationPeriod := evaluationPeriod }
  | lost _ | notTracking => owned { since := now, evaluationPeriod := evaluationPeriod }

/-- The phase after a refresh as a loser, before pruning. -/
def lose (now evaluationPeriod : ℕ) : KeyPhase → KeyPhase
  | owned _ => lost { lostAt := now, evaluationPeriod := evaluationPeriod }
  | lost l => lost l
  | notTracking => notTracking

/-- A lost EPA is forgotten when its grace window is over. -/
def retain (now : ℕ) : KeyPhase → KeyPhase
  | lost l =>
    if elapsed now l.lostAt < l.evaluationPeriod + graceBuffer then lost l else notTracking
  | owned s => owned s
  | notTracking => notTracking

/-- The phase after a refresh of this EPA. -/
def refresh (now : ℕ) (iAmWinner : Bool) (evaluationPeriod : ℕ) (φ : KeyPhase) : KeyPhase :=
  (if iAmWinner then φ.win now evaluationPeriod else φ.lose now evaluationPeriod).retain now

/-- Whether the EPA is served in this phase; `waits` says that another replica is to be
waited for. -/
def serves (now : ℕ) (waits : Bool) : KeyPhase → Bool
  | owned s => decide (s.evaluationPeriod ≤ elapsed now s.since) || !waits
  | lost _ => true
  | notTracking => false

/-- A refresh as the winner leaves the EPA owned. -/
lemma refresh_win (now P : ℕ) (φ : KeyPhase) :
    ∃ s, φ.refresh now true P = owned s ∧ s.evaluationPeriod = P ∧
      ∀ s', φ = owned s' → s.since = s'.since := by
  cases φ with
  | owned s => exact ⟨{ s with evaluationPeriod := P }, rfl, rfl, by rintro s' ⟨⟩; rfl⟩
  | lost l => exact ⟨⟨now, P⟩, rfl, rfl, by rintro s' ⟨⟩⟩
  | notTracking => exact ⟨⟨now, P⟩, rfl, rfl, by rintro s' ⟨⟩⟩

/-- A refresh as a loser leaves the EPA lost or forgotten. -/
lemma refresh_lose_ne_owned (now P : ℕ) (φ : KeyPhase) (s : OwnershipState) :
    φ.refresh now false P ≠ owned s := by
  cases φ <;> simp only [refresh, Bool.false_eq_true, if_false, lose, retain]
  case owned => split <;> simp
  case lost => split <;> simp
  case notTracking => simp

lemma retain_owned_iff (now : ℕ) (φ : KeyPhase) (s : OwnershipState) :
    φ.retain now = owned s ↔ φ = owned s := by
  cases φ with
  | lost l => simp only [retain]; split <;> simp
  | owned s' => rfl
  | notTracking => rfl

/-- Losing the EPA starts the grace window, which is open at the instant of the loss. -/
lemma refresh_lose_owned (now P : ℕ) (s : OwnershipState) :
    (owned s).refresh now false P = lost ⟨now, P⟩ := by
  have hwindow : elapsed now now < P + graceBuffer := by
    have := graceBuffer_pos
    simp only [elapsed]
    omega
  simp [refresh, lose, retain, hwindow]

end KeyPhase

namespace TransitionState

/-- What the two maps say about one EPA. -/
def phase (st : TransitionState) (key : String) : KeyPhase :=
  match st.owned key, st.lost key with
  | some s, _ => .owned s
  | none, some l => .lost l
  | none, none => .notTracking

variable {st : TransitionState} {key : String}

@[simp] lemma phase_new (key : String) : new.phase key = .notTracking := rfl

lemma phase_eq_owned_iff {s : OwnershipState} :
    st.phase key = .owned s ↔ st.owned key = some s := by
  rcases ho : st.owned key with _ | s' <;> rcases hl : st.lost key with _ | l <;>
    simp [phase, ho, hl]

lemma phase_eq_lost_iff {l : LostOwnership} :
    st.phase key = .lost l ↔ st.lost key = some l := by
  have hex := st.exclusive key
  rcases ho : st.owned key with _ | s' <;> rcases hl : st.lost key with _ | l' <;>
    simp_all [phase]

lemma phase_eq_notTracking_iff :
    st.phase key = .notTracking ↔ st.owned key = none ∧ st.lost key = none := by
  rcases ho : st.owned key with _ | s' <;> rcases hl : st.lost key with _ | l' <;>
    simp [phase, ho, hl]

lemma phase_retain (now : ℕ) : (st.retain now).phase key = (st.phase key).retain now := by
  have hex := st.exclusive key
  rcases ho : st.owned key with _ | s <;> rcases hl : st.lost key with _ | l
  · simp [phase, retain, KeyPhase.retain, ho, hl]
  · by_cases hw : elapsed now l.lostAt < l.evaluationPeriod + graceBuffer <;>
      simp [phase, retain, KeyPhase.retain, Option.filter, ho, hl, hw]
  · simp [phase, retain, KeyPhase.retain, ho, hl]
  · simp [ho, hl] at hex

lemma phase_win_self (now P : ℕ) : (st.win now key P).phase key = (st.phase key).win now P := by
  rcases ho : st.owned key with _ | s <;> rcases hl : st.lost key with _ | l <;>
    simp [phase, win, KeyPhase.win, ho, hl]

lemma phase_lose_self (now P : ℕ) :
    (st.lose now key P).phase key = (st.phase key).lose now P := by
  have hex := st.exclusive key
  rcases ho : st.owned key with _ | s <;> rcases hl : st.lost key with _ | l <;>
    simp_all [phase, lose, KeyPhase.lose]

lemma phase_win_of_ne {key' : String} (hne : key' ≠ key) (now P : ℕ) :
    (st.win now key P).phase key' = st.phase key' := by
  simp [phase, win, Function.update_of_ne hne]

lemma phase_lose_of_ne {key' : String} (hne : key' ≠ key) (now P : ℕ) :
    (st.lose now key P).phase key' = st.phase key' := by
  by_cases ho : (st.owned key).isSome <;> simp [phase, lose, Function.update_of_ne hne, ho]

/-- **A refresh moves its own EPA by the phase machine.** -/
theorem phase_refresh_self (now P : ℕ) (w : Bool) :
    (st.refresh now w key P).phase key = (st.phase key).refresh now w P := by
  cases w with
  | true => simp [refresh, KeyPhase.refresh, phase_retain, phase_win_self]
  | false => simp [refresh, KeyPhase.refresh, phase_retain, phase_lose_self]

/-- **A refresh only prunes the other EPAs.** -/
theorem phase_refresh_of_ne {key' : String} (hne : key' ≠ key) (now P : ℕ) (w : Bool) :
    (st.refresh now w key P).phase key' = (st.phase key').retain now := by
  cases w with
  | true => simp [refresh, phase_retain, phase_win_of_ne hne]
  | false => simp [refresh, phase_retain, phase_lose_of_ne hne]

end TransitionState

/-- What the phase of an EPA means for scraping. -/
theorem shouldScrapeEpa_eq (st : TransitionState) (ns name : String) :
    shouldScrapeEpa st ns name = true ↔ st.phase (epaKey ns name) ≠ .notTracking := by
  rw [Ne, TransitionState.phase_eq_notTracking_iff, shouldScrapeEpa]
  rcases st.owned (epaKey ns name) with _ | s <;> rcases st.lost (epaKey ns name) with _ | l <;>
    simp

/-- What the phase of an EPA means for serving. -/
theorem shouldServeEpa_eq (me : String) (sets : ReplicaSets) (now : ℕ) (ns name : String)
    (st : TransitionState) :
    shouldServeEpa me sets now ns name st =
      (st.phase (epaKey ns name)).serves now (hasPreviousOwner me sets ns name) := by
  simp only [shouldServeEpa, TransitionState.phase]
  rcases st.owned (epaKey ns name) with _ | s <;> rcases st.lost (epaKey ns name) with _ | l
  · rfl
  · rfl
  all_goals
    by_cases hold : s.evaluationPeriod ≤ elapsed now s.since <;> simp [KeyPhase.serves, hold]

lemma phase_refreshOwnership_self {me : String} {sets : ReplicaSets} {ns name : String}
    {st : TransitionState} (now P : ℕ) :
    (refreshOwnership me sets now ns name P st).phase (epaKey ns name) =
      (st.phase (epaKey ns name)).refresh now (isEpaOwner me sets ns name) P :=
  TransitionState.phase_refresh_self now P _

lemma phase_refreshOwnership_of_ne {me : String} {sets : ReplicaSets} {ns name key : String}
    {st : TransitionState} (hne : key ≠ epaKey ns name) (now P : ℕ) :
    (refreshOwnership me sets now ns name P st).phase key = (st.phase key).retain now :=
  TransitionState.phase_refresh_of_ne hne now P _

/-- Refreshes of EPAs with the same key are the same. -/
lemma refreshOwnership_key_congr {me : String} {sets : ReplicaSets} {ns name ns' name' : String}
    {st : TransitionState} (hkey : epaKey ns' name' = epaKey ns name) (now P : ℕ) :
    refreshOwnership me sets now ns' name' P st = refreshOwnership me sets now ns name P st := by
  rw [refreshOwnership, refreshOwnership, hkey, getEpaOwner_key_congr hkey]

lemma hasPreviousOwner_iff {me : String} {sets : ReplicaSets} {ns name : String} :
    hasPreviousOwner me sets ns name = true ↔
      ∃ prev, getPreviousEpaOwner sets ns name = some prev ∧ prev ≠ me := by
  rcases hp : getPreviousEpaOwner sets ns name with _ | prev <;> simp [hasPreviousOwner, hp]

end ExternalPodAutoscaler.Membership
