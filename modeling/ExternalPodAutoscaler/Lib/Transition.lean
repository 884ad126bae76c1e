/-
Systems of guarded steps and their runs.

A system has a set of initial states and a partial step function on states and events: an
event that cannot happen in a state has no successor.  A run is a path of steps; a
condition `ok` on a state and the event taken in it singles out the runs all of whose
steps meet the condition, so that `S.Reachable ok` ranges from every reachable state
(`ok := Any`) to those of restricted runs.  Facts about runs are proved from facts about
one step by `Path.preserves` and `Reachable.invariant`, what the steps add to a quantity is
summed up by `Path.balance`, the runs of two systems are compared by `Path.simulates`, and a
concrete run is computed by `exec`.  A run that reaches a goal is put together from steps that bring
it nearer by `exists_path_of_progress`.
-/
import Mathlib.Data.Int.Notation
import Mathlib.Data.Nat.Notation
import Mathlib.Logic.Basic
import Mathlib.Tactic.TypeStar

namespace ExternalPodAutoscaler.Lib

/-- Initial states and a partial step function. -/
structure System (σ ε : Type*) where
  /-- The states a run starts in. -/
  init : σ → Prop
  /-- The state after an event, `none` when the event cannot happen. -/
  step : σ → ε → Option σ

namespace System

variable {σ ε : Type*}

/-- The condition that every step meets. -/
def Any : σ → ε → Prop := fun _ _ => True

variable (S : System σ ε)

/-- The state after a list of events, `none` when one of them cannot happen. -/
def exec : σ → List ε → Option σ
  | s, [] => some s
  | s, e :: es => (S.step s e).bind fun s' => exec s' es

/-- What the steps of a run come to in all. -/
def total (f : σ → ε → ℕ) : σ → List ε → ℕ
  | _, [] => 0
  | s, e :: es => f s e + ((S.step s e).map fun s' => total f s' es).getD 0

/-- `S.Path ok s es s'`: the events `es` lead from `s` to `s'`, and each of them meets
`ok` in the state it is taken in. -/
inductive Path (ok : σ → ε → Prop) : σ → List ε → σ → Prop
  | nil (s : σ) : Path ok s [] s
  | cons {s s₁ s' : σ} {e : ε} {es : List ε} :
      ok s e → S.step s e = some s₁ → Path ok s₁ es s' → Path ok s (e :: es) s'

/-- The states of the runs all of whose steps meet `ok`. -/
def Reachable (ok : σ → ε → Prop) (s : σ) : Prop :=
  ∃ s₀ es, S.init s₀ ∧ S.Path ok s₀ es s

variable {S} {ok ok' : σ → ε → Prop} {s s' s'' : σ} {e : ε} {es es' : List ε}

namespace Path

lemma append (h : S.Path ok s es s') (h' : S.Path ok s' es' s'') :
    S.Path ok s (es ++ es') s'' := by
  induction h with
  | nil => exact h'
  | cons hok hs _ ih => exact .cons hok hs (ih h')

lemma single (hok : ok s e) (hs : S.step s e = some s') : S.Path ok s [e] s' :=
  .cons hok hs (.nil _)

lemma mono (himp : ∀ s e, ok s e → ok' s e) (h : S.Path ok s es s') :
    S.Path ok' s es s' := by
  induction h with
  | nil => exact .nil _
  | cons hok hs _ ih => exact .cons (himp _ _ hok) hs ih

/-- A run all of whose events meet a condition in every state meets the condition. -/
lemma restrict (h : S.Path ok s es s') (hes : ∀ e ∈ es, ∀ s, ok' s e) : S.Path ok' s es s' := by
  induction h with
  | nil => exact .nil _
  | cons _ hs _ ih =>
      exact .cons (hes _ List.mem_cons_self _) hs
        (ih fun e he => hes e (List.mem_cons_of_mem _ he))

lemma of_append (h : S.Path ok s (es ++ es') s'') :
    ∃ s', S.Path ok s es s' ∧ S.Path ok s' es' s'' := by
  induction es generalizing s with
  | nil => exact ⟨s, .nil _, h⟩
  | cons e es ih =>
      cases h with
      | cons hok hs h =>
          obtain ⟨s', h₁, h₂⟩ := ih h
          exact ⟨s', .cons hok hs h₁, h₂⟩

/-- The events of a run determine its last state. -/
lemma unique (h : S.Path ok s es s') (h' : S.Path ok' s es s'') : s' = s'' := by
  induction h with
  | nil =>
      cases h'
      rfl
  | cons _ hs _ ih =>
      cases h' with
      | cons _ hs' h' =>
          obtain rfl := Option.some.inj (hs.symm.trans hs')
          exact ih h'

/-- The parts of a run meet its condition. -/
lemma parts (h : S.Path ok s (es ++ es') s'') (h' : S.Path ok' s es s') :
    S.Path ok s es s' ∧ S.Path ok s' es' s'' := by
  obtain ⟨s₁, hfirst, hsecond⟩ := h.of_append
  obtain rfl := hfirst.unique h'
  exact ⟨hfirst, hsecond⟩

/-- What every step keeps, a run keeps. -/
lemma preserves {I : σ → Prop} (hstep : ∀ s e s', I s → ok s e → S.step s e = some s' → I s')
    (h : S.Path ok s es s') (hs : I s) : I s' := by
  induction h with
  | nil => exact hs
  | cons hok hst _ ih => exact ih (hstep _ _ _ hs hok hst)

/-- **The balance rule.** If every step changes a quantity by what it adds and what it takes,
so does every run. -/
theorem balance {Φ : σ → ℤ} {gain loss : σ → ε → ℕ}
    (hstep : ∀ s e s', ok s e → S.step s e = some s' → Φ s' + loss s e = Φ s + gain s e)
    (h : S.Path ok s es s') : Φ s' + S.total loss s es = Φ s + S.total gain s es := by
  induction h with
  | nil => simp [total]
  | cons hok hs _ ih =>
      have hfirst := hstep _ _ _ hok hs
      simp only [total, hs, Option.map_some, Option.getD_some]
      omega

/-- **The simulation rule.** If each step is matched by a run of another system from related
states to related states, so is each run. -/
theorem simulates {τ δ : Type*} {T : System τ δ} {okT : τ → δ → Prop} {R : σ → τ → Prop}
    (hstep : ∀ s e s' t, R s t → ok s e → S.step s e = some s' →
      ∃ fs t', T.Path okT t fs t' ∧ R s' t')
    (h : S.Path ok s es s') {t : τ} (hR : R s t) : ∃ fs t', T.Path okT t fs t' ∧ R s' t' := by
  induction h generalizing t with
  | nil => exact ⟨[], t, .nil t, hR⟩
  | cons hok hs _ ih =>
      obtain ⟨fs, t₁, hp, hR₁⟩ := hstep _ _ _ _ hR hok hs
      obtain ⟨fs', t', hp', hR'⟩ := ih hR₁
      exact ⟨fs ++ fs', t', hp.append hp', hR'⟩

end Path

/-- **The progress rule.** If from every state short of a goal some step keeps an invariant and
brings a measure down, a run leads to the goal. -/
theorem exists_path_of_progress {I Goal : σ → Prop} (μ : σ → ℕ)
    (hstep : ∀ s, I s → ¬ Goal s → ∃ e s', ok s e ∧ S.step s e = some s' ∧ I s' ∧ μ s' < μ s)
    (hs : I s) : ∃ es s', S.Path ok s es s' ∧ I s' ∧ Goal s' := by
  induction hn : μ s using Nat.strongRecOn generalizing s with
  | ind n ih =>
      by_cases hgoal : Goal s
      · exact ⟨[], s, .nil s, hs, hgoal⟩
      · obtain ⟨e, s₁, hok, hs₁, hI, hlt⟩ := hstep s hs hgoal
        obtain ⟨es, s', hp, hI', hgoal'⟩ := ih (μ s₁) (hn ▸ hlt) hI rfl
        exact ⟨e :: es, s', .cons hok hs₁ hp, hI', hgoal'⟩

lemma exec_eq_some_iff : S.exec s es = some s' ↔ S.Path Any s es s' := by
  constructor
  · intro h
    induction es generalizing s with
    | nil =>
        obtain rfl : s = s' := Option.some.inj h
        exact .nil _
    | cons e es ih =>
        rcases hs : S.step s e with _ | s₁
        · simp [exec, hs] at h
        · exact .cons trivial hs (ih (by simpa [exec, hs] using h))
  · intro h
    induction h with
    | nil => rfl
    | cons _ hs _ ih => simpa [exec, hs] using ih

namespace Reachable

lemma path (h : S.Reachable ok s) (hp : S.Path ok s es s') : S.Reachable ok s' := by
  obtain ⟨s₀, es₀, h₀, hp₀⟩ := h
  exact ⟨s₀, es₀ ++ es, h₀, hp₀.append hp⟩

lemma step (h : S.Reachable ok s) (hok : ok s e) (hs : S.step s e = some s') :
    S.Reachable ok s' :=
  h.path (.single hok hs)

lemma mono (himp : ∀ s e, ok s e → ok' s e) (h : S.Reachable ok s) : S.Reachable ok' s := by
  obtain ⟨s₀, es, h₀, hp⟩ := h
  exact ⟨s₀, es, h₀, hp.mono himp⟩

lemma of_exec (h₀ : S.init s) (h : S.exec s es = some s') : S.Reachable Any s' :=
  ⟨s, es, h₀, exec_eq_some_iff.1 h⟩

/-- **The invariant rule.** What holds initially and is kept by every step holds of every
reachable state. -/
theorem invariant {I : σ → Prop} (h₀ : ∀ s, S.init s → I s)
    (hstep : ∀ s e s', I s → ok s e → S.step s e = some s' → I s')
    (h : S.Reachable ok s) : I s := by
  obtain ⟨s₀, es, hinit, hp⟩ := h
  exact hp.preserves hstep (h₀ s₀ hinit)

end Reachable

end System

end ExternalPodAutoscaler.Lib
