/-
Serving along the runs of one process.

A process serves an EPA it owns from the end of its evaluation period on, and before that
whenever nobody is heavier than itself among all replicas it sees, the draining ones
included; a process that has lost the EPA serves it in its grace window.  Neither of the two
rules looks at what the process has answered before.

The main results of this file are `serving_kept_iff`: an owner that serves goes on serving
exactly when the replicas it sees until the end of its evaluation period stay lighter than
itself; and `loss_continues_serving_iff`: the grace window continues what the process did as
the owner exactly when, at some instant, its evaluation period was over or nobody it saw was
heavier.
-/
import ExternalPodAutoscaler.Membership.Replica

namespace ExternalPodAutoscaler.Membership

open Lib

variable {me ns name : String} {s s' s₀ s₁ s₂ s₃ : LocalState} {es es₁ es₂ : List LocalEvent}
  {e : LocalEvent} {P t₀ : ℕ}

/-! ### When an owner serves -/

/-- The process serves the EPA. -/
def Serves (me ns name : String) (s : LocalState) : Prop :=
  shouldServeEpa me s.proc.sets s.now ns name s.proc.state = true

/-- No replica that the process sees, draining or not, is heavier than the process itself,
and none of the same weight comes after it in the iteration order. -/
def LeadsView (me ns name : String) (sets : ReplicaSets) : Prop :=
  sets.getAllReplicas = [] ∨ ∃ before after, sets.getAllReplicas = before ++ me :: after ∧
    (∀ id ∈ before, weight (epaKey ns name) id ≤ weight (epaKey ns name) me) ∧
    ∀ id ∈ after, weight (epaKey ns name) id < weight (epaKey ns name) me

lemma hasPreviousOwner_eq_false_iff {sets : ReplicaSets} :
    hasPreviousOwner me sets ns name = false ↔ LeadsView me ns name sets := by
  have hempty : sets.getAllReplicas = [] ↔ getPreviousEpaOwner sets ns name = none := by
    rw [getPreviousEpaOwner_eq, maxByKey_eq_none]
    rfl
  have hleads : getPreviousEpaOwner sets ns name = some me ↔ ∃ before after,
      sets.getAllReplicas = before ++ me :: after ∧
      (∀ id ∈ before, weight (epaKey ns name) id ≤ weight (epaKey ns name) me) ∧
      ∀ id ∈ after, weight (epaKey ns name) id < weight (epaKey ns name) me := by
    rw [getPreviousEpaOwner_eq, maxByKey_eq_some_iff_exists_append]
    rfl
  rw [LeadsView, hempty, ← hleads]
  rcases hprev : getPreviousEpaOwner sets ns name with _ | prev <;> simp [hasPreviousOwner, hprev]

/-- An owner serves if its evaluation period is over or it leads its view. -/
lemma serves_iff_of_ownedSince (h : OwnedSince ns name t₀ P s) :
    Serves me ns name s ↔ t₀ + P ≤ s.now ∨ LeadsView me ns name s.proc.sets := by
  obtain ⟨hle, hphase⟩ := h
  have hover : P ≤ elapsed s.now t₀ ↔ t₀ + P ≤ s.now := by
    rw [elapsed]
    omega
  rw [Serves, shouldServeEpa_eq, hphase, ← hover, ← hasPreviousOwner_eq_false_iff]
  simp [KeyPhase.serves]

lemma not_serves_of_notTracking
    (h : s.proc.state.phase (epaKey ns name) = .notTracking) : ¬ Serves me ns name s := by
  rw [Serves, shouldServeEpa_eq, h]
  exact Bool.false_ne_true

/-! ### Runs as the winner -/

/-- Every refresh of the EPA has the evaluation period `P` and finds the process to be the
owner. -/
def WinsWith (me ns name : String) (P : ℕ) (s : LocalState) (e : LocalEvent) : Prop :=
  ∀ ns' name' P', e = .act (.refresh ns' name' P') → epaKey ns' name' = epaKey ns name →
    P' = P ∧ isEpaOwner me s.proc.sets ns name = true

/-- The instant of the first refresh of the EPA in a run that starts at a given instant. -/
def firstRefresh (ns name : String) : ℕ → List LocalEvent → Option ℕ
  | _, [] => none
  | now, .advance d :: es => firstRefresh ns name (now + d) es
  | now, .act (.refresh ns' name' _) :: es =>
    if epaKey ns' name' = epaKey ns name then some now else firstRefresh ns name now es
  | now, _ :: es => firstRefresh ns name now es

lemma WinsWith.staysOwner (h : WinsWith me ns name P s e) : StaysOwner me ns name s e :=
  fun ns' name' P' he hkey => (h ns' name' P' he hkey).2

lemma periodInForce_of_winsWith (h : (localSystem me).Path (WinsWith me ns name P) s es s') :
    periodInForce ns name P es = P := by
  induction h with
  | nil => rfl
  | @cons s s₁ s' e es hok _ _ ih =>
      have hone : periodInForce ns name P [e] = P := by
        rcases e with d | (_ | _ | ⟨ns', name', P'⟩)
        · rfl
        · rfl
        · rfl
        · by_cases hkey : epaKey ns' name' = epaKey ns name
          · simp [periodInForce, hkey, (hok ns' name' P' rfl hkey).1]
          · simp [periodInForce, hkey]
      rw [periodInForce_cons, hone, ih]

lemma step_refresh_key_congr {ns' name' : String} (hkey : epaKey ns' name' = epaKey ns name) :
    (localSystem me).step s (.act (.refresh ns' name' P)) =
      (localSystem me).step s (.act (.refresh ns name P)) := by
  simp only [localSystem, Replica.step, refreshOwnership_key_congr hkey]

/-- The record of the EPA along a run as the winner. -/
lemma ownedSince_of_winsWith (h : (localSystem me).Path (WinsWith me ns name P) s es s')
    (hnew : s.proc.state.phase (epaKey ns name) = .notTracking) :
    match firstRefresh ns name s.now es with
    | none => s'.proc.state.phase (epaKey ns name) = .notTracking
    | some t₀ => OwnedSince ns name t₀ P s' := by
  induction h with
  | nil => exact hnew
  | @cons s s₁ s' e es hok hs hrest ih =>
      rcases e with d | (⟨leases, readAt, sets⟩ | _ | ⟨ns', name', P'⟩)
      · obtain rfl := Option.some.inj hs
        exact ih hnew
      · obtain ⟨proc, hproc, rfl⟩ := localSystem_act hs
        obtain ⟨-, -, -, -, rfl⟩ := Replica.step_discover hproc
        exact ih hnew
      · obtain rfl := Option.some.inj hs
        exact ih hnew
      · by_cases hkey : epaKey ns' name' = epaKey ns name
        · obtain ⟨rfl, hwin⟩ := hok ns' name' P' rfl hkey
          rw [step_refresh_key_congr hkey] at hs
          have hfree := (TransitionState.phase_eq_notTracking_iff.1 hnew).1
          have howned := ownedSince_path (hrest.mono fun _ _ => WinsWith.staysOwner)
            (ownedSince_of_refresh hfree hwin hs)
          rw [periodInForce_of_winsWith hrest] at howned
          simpa [firstRefresh, hkey] using howned
        · have hpruned : s₁.proc.state.phase (epaKey ns name) = .notTracking := by
            obtain rfl := Option.some.inj hs
            show (refreshOwnership me s.proc.sets s.now ns' name' P' s.proc.state).phase
              (epaKey ns name) = _
            rw [phase_refreshOwnership_of_ne (Ne.symm hkey), hnew]
            rfl
          have hnow : s₁.now = s.now := by
            obtain rfl := Option.some.inj hs
            rfl
          simpa [firstRefresh, hkey, hnow] using ih hpruned

lemma now_le_of_path {ok : LocalState → LocalEvent → Prop}
    (h : (localSystem me).Path ok s es s') : s.now ≤ s'.now := by
  refine h.preserves (I := fun s' => s.now ≤ s'.now) (fun s₁ e s₂ hle _ hs => ?_) le_rfl
  cases e with
  | advance d =>
      obtain rfl := Option.some.inj hs
      show s.now ≤ s₁.now + d
      omega
  | act e =>
      obtain ⟨proc, -, rfl⟩ := localSystem_act hs
      exact hle

/-- `R` holds of any two instants of a run, in their order; its first argument is the part of
the run before the first of them. -/
def InOrder (me : String) (s₀ : LocalState) (es : List LocalEvent)
    (R : List LocalEvent → LocalState → LocalState → Prop) : Prop :=
  ∀ es₁ es₂ es₃ s₁ s₂, es = es₁ ++ es₂ ++ es₃ → (localSystem me).Path System.Any s₀ es₁ s₁ →
    (localSystem me).Path System.Any s₁ es₂ s₂ → R es₁ s₁ s₂

/-- What serving at one instant of a run as the winner says about a later one. -/
lemma serves_later_iff (h₀ : (localSystem me).init s₀)
    (h₁ : (localSystem me).Path (WinsWith me ns name P) s₀ es₁ s₁)
    (h₂ : (localSystem me).Path (WinsWith me ns name P) s₁ es₂ s₂) :
    (Serves me ns name s₁ → Serves me ns name s₂) ↔
      ∀ t₀, firstRefresh ns name s₀.now es₁ = some t₀ → s₂.now < t₀ + P →
        LeadsView me ns name s₁.proc.sets → LeadsView me ns name s₂.proc.sets := by
  have hnew : s₀.proc.state.phase (epaKey ns name) = .notTracking := by
    rw [show s₀.proc = Replica.start from h₀]
    rfl
  have hrecord := ownedSince_of_winsWith h₁ hnew
  rcases hfirst : firstRefresh ns name s₀.now es₁ with _ | t₀
  · rw [hfirst] at hrecord
    refine iff_of_true (fun hserves => ?_) (by simp)
    exact absurd hserves (not_serves_of_notTracking hrecord)
  · rw [hfirst] at hrecord
    have hlater : OwnedSince ns name t₀ P s₂ := by
      have howned := ownedSince_path (h₂.mono fun _ _ => WinsWith.staysOwner) hrecord
      rwa [periodInForce_of_winsWith h₂] at howned
    have hnow := now_le_of_path h₂
    rw [serves_iff_of_ownedSince hrecord, serves_iff_of_ownedSince hlater]
    constructor
    · rintro hkept t ht hwithin hleads
      obtain rfl := Option.some.inj ht
      rcases hkept (Or.inr hleads) with hover | hleads'
      · omega
      · exact hleads'
    · rintro hkept (hover | hleads)
      · left
        omega
      · rcases Nat.lt_or_ge s₂.now (t₀ + P) with hwithin | hover
        · exact Or.inr (hkept t₀ rfl hwithin hleads)
        · exact Or.inl hover

/-- **Serving as the owner.** In a run in which every refresh of the EPA finds the process to
be its owner, with one evaluation period, the process goes on serving once it has begun to
exactly when it goes on leading its view once it does, from its first refresh until the
evaluation period after it is over. -/
theorem serving_kept_iff (h₀ : (localSystem me).init s₀)
    (hrun : (localSystem me).Path (WinsWith me ns name P) s₀ es s) :
    InOrder me s₀ es (fun _ s₁ s₂ => Serves me ns name s₁ → Serves me ns name s₂) ↔
      InOrder me s₀ es (fun es₁ s₁ s₂ => ∀ t₀, firstRefresh ns name s₀.now es₁ = some t₀ →
        s₂.now < t₀ + P → LeadsView me ns name s₁.proc.sets →
          LeadsView me ns name s₂.proc.sets) := by
  have hpoint : ∀ es₁ es₂ es₃ s₁ s₂, es = es₁ ++ es₂ ++ es₃ →
      (localSystem me).Path System.Any s₀ es₁ s₁ → (localSystem me).Path System.Any s₁ es₂ s₂ →
      ((Serves me ns name s₁ → Serves me ns name s₂) ↔
        ∀ t₀, firstRefresh ns name s₀.now es₁ = some t₀ → s₂.now < t₀ + P →
          LeadsView me ns name s₁.proc.sets → LeadsView me ns name s₂.proc.sets) := by
    rintro es₁ es₂ es₃ s₁ s₂ rfl h₁ h₂
    obtain ⟨hfirst, -⟩ := hrun.parts (h₁.append h₂)
    obtain ⟨h₁', h₂'⟩ := hfirst.parts h₁
    exact serves_later_iff h₀ h₁' h₂'
  constructor
  · intro h es₁ es₂ es₃ s₁ s₂ heq h₁ h₂
    exact (hpoint es₁ es₂ es₃ s₁ s₂ heq h₁ h₂).1 (h es₁ es₂ es₃ s₁ s₂ heq h₁ h₂)
  · intro h es₁ es₂ es₃ s₁ s₂ heq h₁ h₂
    exact (hpoint es₁ es₂ es₃ s₁ s₂ heq h₁ h₂).2 (h es₁ es₂ es₃ s₁ s₂ heq h₁ h₂)

/-- The lease of `replica-a` alone. -/
def seesAlone : LocalEvent :=
  .act (.discover [deployedLease "replica-a" 0 false] 0
    ⟨IdSet.empty.insert "replica-a", .empty, false⟩)

/-- The heavier `replica-b` is seen for the first time, and drains. -/
def seesNewcomerDrain : LocalEvent :=
  .act (.discover [deployedLease "replica-a" 0 false, deployedLease "replica-b" 0 true] 0
    ⟨IdSet.empty.insert "replica-a", IdSet.empty.insert "replica-b", false⟩)

/-- A refresh of the EPA. -/
def refreshesWeb : LocalEvent := .act (.refresh "default" "web" (secs 60))

lemma winsWith_discover {leases : List Lease} {readAt : ℤ} {sets : ReplicaSets} :
    WinsWith me ns name P s (.act (.discover leases readAt sets)) := by
  rintro ns' name' P' ⟨⟩

lemma winsWith_refreshesWeb (hown : isEpaOwner me s.proc.sets "default" "web" = true) :
    WinsWith me "default" "web" (secs 60) s refreshesWeb := by
  rintro ns' name' P' ⟨⟩ -
  exact ⟨rfl, hown⟩

lemma newcomer_run :
    ((localSystem "replica-a").step ⟨0, .start⟩ seesAlone).any (fun s =>
      isEpaOwner "replica-a" s.proc.sets "default" "web" &&
      ((localSystem "replica-a").step s refreshesWeb).any fun s₁ =>
        shouldServeEpa "replica-a" s₁.proc.sets s₁.now "default" "web" s₁.proc.state &&
        ((localSystem "replica-a").step s₁ seesNewcomerDrain).any fun s₂ =>
          !shouldServeEpa "replica-a" s₂.proc.sets s₂.now "default" "web" s₂.proc.state) =
      true := by
  decide +kernel

/-- The process serves, alone, and stops when the newcomer is seen. -/
lemma newcomer_path : ∃ s₁ s₂,
    (localSystem "replica-a").Path (WinsWith "replica-a" "default" "web" (secs 60))
      ⟨0, .start⟩ [seesAlone, refreshesWeb] s₁ ∧
    (localSystem "replica-a").Path (WinsWith "replica-a" "default" "web" (secs 60))
      s₁ [seesNewcomerDrain] s₂ ∧
    Serves "replica-a" "default" "web" s₁ ∧ ¬ Serves "replica-a" "default" "web" s₂ := by
  obtain ⟨s, hs, hrun⟩ := (Option.any_eq_true _ _).1 newcomer_run
  obtain ⟨hown, hrun⟩ := Bool.and_eq_true_iff.1 hrun
  obtain ⟨s₁, hs₁, hrun⟩ := (Option.any_eq_true _ _).1 hrun
  obtain ⟨hserves, hrun⟩ := Bool.and_eq_true_iff.1 hrun
  obtain ⟨s₂, hs₂, hquiet⟩ := (Option.any_eq_true _ _).1 hrun
  refine ⟨s₁, s₂, ?_, .single winsWith_discover hs₂, hserves, ?_⟩
  · exact .cons winsWith_discover hs (.single (winsWith_refreshesWeb hown) hs₁)
  · simpa [Serves] using hquiet

/-- A process that serves as the owner stops when it first sees a heavier replica that
drains. -/
theorem newcomer_drain_stops_serving :
    ∃ s, (localSystem "replica-a").init ⟨0, .start⟩ ∧
      (localSystem "replica-a").Path (WinsWith "replica-a" "default" "web" (secs 60))
        ⟨0, .start⟩ [seesAlone, refreshesWeb, seesNewcomerDrain] s ∧
      ¬ InOrder "replica-a" ⟨0, .start⟩ [seesAlone, refreshesWeb, seesNewcomerDrain]
        (fun _ s₁ s₂ => Serves "replica-a" "default" "web" s₁ →
          Serves "replica-a" "default" "web" s₂) := by
  obtain ⟨s₁, s₂, h₁, h₂, hserves, hquiet⟩ := newcomer_path
  refine ⟨s₂, localSystem_init 0, h₁.append h₂, fun hkept => hquiet ?_⟩
  exact hkept [seesAlone, refreshesWeb] [seesNewcomerDrain] [] s₁ s₂ rfl
    (h₁.mono fun _ _ _ => trivial) (h₂.mono fun _ _ _ => trivial) hserves

theorem serving_kept_iff_newcomer :
    InOrder "replica-a" ⟨0, .start⟩ [seesAlone, refreshesWeb, seesNewcomerDrain]
        (fun _ s₁ s₂ => Serves "replica-a" "default" "web" s₁ →
          Serves "replica-a" "default" "web" s₂) ↔
      InOrder "replica-a" ⟨0, .start⟩ [seesAlone, refreshesWeb, seesNewcomerDrain]
        (fun es₁ s₁ s₂ => ∀ t₀, firstRefresh "default" "web" 0 es₁ = some t₀ →
          s₂.now < t₀ + secs 60 → LeadsView "replica-a" "default" "web" s₁.proc.sets →
            LeadsView "replica-a" "default" "web" s₂.proc.sets) := by
  obtain ⟨s₁, s₂, h₁, h₂, -⟩ := newcomer_path
  exact serving_kept_iff (localSystem_init 0) (h₁.append h₂)

/-! ### The grace window after a loss -/

/-- No refresh of the EPA finds the process to be its owner. -/
def NeverWins (me ns name : String) (s : LocalState) (e : LocalEvent) : Prop :=
  ∀ ns' name' P', e = .act (.refresh ns' name' P') → epaKey ns' name' = epaKey ns name →
    isEpaOwner me s.proc.sets ns name = false

/-- The process acquires the EPA in the refresh from `s` to `s₁`, remains its owner along the
events `es`, and loses it in the refresh from `s₂` to `s₃`. -/
structure HoldsUntilLoss (me ns name : String) (P : ℕ) (s s₁ : LocalState)
    (es : List LocalEvent) (s₂ s₃ : LocalState) : Prop where
  free : s.proc.state.owned (epaKey ns name) = none
  wins : isEpaOwner me s.proc.sets ns name = true
  acquires : (localSystem me).step s (.act (.refresh ns name P)) = some s₁
  holds : (localSystem me).Path (StaysOwner me ns name) s₁ es s₂
  loses : isEpaOwner me s₂.proc.sets ns name = false
  loss : ∃ P', (localSystem me).step s₂ (.act (.refresh ns name P')) = some s₃

lemma HoldsUntilLoss.serves_at_loss (h : HoldsUntilLoss me ns name P s s₁ es s₂ s₃) :
    Serves me ns name s₃ := by
  obtain ⟨-, howned⟩ := ownedSince_path h.holds (ownedSince_of_refresh h.free h.wins h.acquires)
  obtain ⟨P', hloss⟩ := h.loss
  obtain rfl := Option.some.inj hloss
  rw [Serves, shouldServeEpa_eq]
  show KeyPhase.serves _ _ ((refreshOwnership me s₂.proc.sets s₂.now ns name P'
    s₂.proc.state).phase (epaKey ns name)) = true
  rw [phase_refreshOwnership_self, howned, h.loses, KeyPhase.refresh_lose_owned]
  rfl

/-- A process that serves at no instant while it owns the EPA, along the events `es` from
`s₁`, does not serve after the loss in `s₃` either, until it wins the EPA again. -/
def OnlyContinues (me ns name : String) (s₁ : LocalState) (es : List LocalEvent)
    (s₃ : LocalState) : Prop :=
  (∀ es₁ es₂ s', es = es₁ ++ es₂ → (localSystem me).Path System.Any s₁ es₁ s' →
      ¬ Serves me ns name s') →
    ∀ es' s', (localSystem me).Path (NeverWins me ns name) s₃ es' s' → ¬ Serves me ns name s'

/-- **Serving after a loss.** A loss starts no serving exactly when the process has served as
the owner: at some instant between the win and the loss the evaluation period in force is
over, or the process leads its view. -/
theorem loss_continues_serving_iff (h : HoldsUntilLoss me ns name P s s₁ es s₂ s₃) :
    OnlyContinues me ns name s₁ es s₃ ↔
      ∃ es₁ es₂ s', es = es₁ ++ es₂ ∧ (localSystem me).Path System.Any s₁ es₁ s' ∧
        (s.now + periodInForce ns name P es₁ ≤ s'.now ∨ LeadsView me ns name s'.proc.sets) := by
  have hacquired := ownedSince_of_refresh h.free h.wins h.acquires
  have hserves : ∀ es₁ es₂ s', es = es₁ ++ es₂ → (localSystem me).Path System.Any s₁ es₁ s' →
      (Serves me ns name s' ↔ s.now + periodInForce ns name P es₁ ≤ s'.now ∨
        LeadsView me ns name s'.proc.sets) := by
    rintro es₁ es₂ s' rfl hpath
    obtain ⟨hheld, -⟩ := h.holds.parts hpath
    exact serves_iff_of_ownedSince (ownedSince_path hheld hacquired)
  constructor
  · intro hquiet
    by_contra hnone
    push Not at hnone
    refine hquiet (fun es₁ es₂ s' heq hpath hserving => ?_) [] s₃ (.nil _) h.serves_at_loss
    obtain ⟨hwithin, hfollows⟩ := hnone es₁ es₂ s' heq hpath
    rcases (hserves es₁ es₂ s' heq hpath).1 hserving with hover | hleads
    · omega
    · exact hfollows hleads
  · rintro ⟨es₁, es₂, s', heq, hpath, hrule⟩ hquiet
    exact absurd ((hserves es₁ es₂ s' heq hpath).2 hrule) (hquiet es₁ es₂ s' heq hpath)

/-- The process `replica-c` is active, and the heavier `replica-b` drains. -/
def seesPredecessor : LocalEvent :=
  .act (.discover [deployedLease "replica-b" 0 true, deployedLease "replica-c" 0 false] 0
    ⟨IdSet.empty.insert "replica-c", IdSet.empty.insert "replica-b", false⟩)

/-- The heavier `replica-d` has joined. -/
def seesSuccessor : LocalEvent :=
  .act (.discover [deployedLease "replica-b" 0 true, deployedLease "replica-c" 0 false,
      deployedLease "replica-d" 0 false] 0
    ⟨(IdSet.empty.insert "replica-d").insert "replica-c", IdSet.empty.insert "replica-b", false⟩)

lemma early_loss_run :
    ((localSystem "replica-c").step ⟨0, .start⟩ seesPredecessor).any (fun s =>
      decide (s.proc.state.owned (epaKey "default" "web") = none) &&
      isEpaOwner "replica-c" s.proc.sets "default" "web" &&
      ((localSystem "replica-c").step s refreshesWeb).any fun s₁ =>
        !shouldServeEpa "replica-c" s₁.proc.sets s₁.now "default" "web" s₁.proc.state &&
        ((localSystem "replica-c").step s₁ seesSuccessor).any fun s₂ =>
          !shouldServeEpa "replica-c" s₂.proc.sets s₂.now "default" "web" s₂.proc.state &&
          !isEpaOwner "replica-c" s₂.proc.sets "default" "web" &&
          ((localSystem "replica-c").step s₂ refreshesWeb).isSome) = true := by
  decide +kernel

/-- The process waits for its predecessor while it owns the EPA, and loses it at once. -/
lemma early_loss_path : ∃ s s₁ s₂ s₃, (localSystem "replica-c").Reachable System.Any s ∧
    HoldsUntilLoss "replica-c" "default" "web" (secs 60) s s₁ [seesSuccessor] s₂ s₃ ∧
    (localSystem "replica-c").step s₁ seesSuccessor = some s₂ ∧
    ¬ Serves "replica-c" "default" "web" s₁ ∧ ¬ Serves "replica-c" "default" "web" s₂ := by
  obtain ⟨s, hs, hrun⟩ := (Option.any_eq_true _ _).1 early_loss_run
  simp only [Bool.and_eq_true, decide_eq_true_eq] at hrun
  obtain ⟨⟨hfree, hwins⟩, hrun⟩ := hrun
  obtain ⟨s₁, hs₁, hrun⟩ := (Option.any_eq_true _ _).1 hrun
  obtain ⟨hquiet₁, hrun⟩ := Bool.and_eq_true_iff.1 hrun
  obtain ⟨s₂, hs₂, hrun⟩ := (Option.any_eq_true _ _).1 hrun
  simp only [Bool.and_eq_true, Bool.not_eq_true'] at hrun
  obtain ⟨⟨hquiet₂, hloses⟩, hlost⟩ := hrun
  obtain ⟨s₃, hs₃⟩ := Option.isSome_iff_exists.1 hlost
  refine ⟨s, s₁, s₂, s₃, ⟨_, _, localSystem_init 0, .single trivial hs⟩,
    ⟨hfree, hwins, hs₁, .single ?_ hs₂, hloses, _, hs₃⟩, hs₂, ?_, ?_⟩
  · rintro ns' name' P' ⟨⟩
  · simpa [Serves] using hquiet₁
  · simpa [Serves] using hquiet₂

/-- A process that has waited for its predecessor all the time it owned the EPA begins to
serve when it loses it. -/
theorem early_loss_starts_serving : ∃ s s₁ s₂ s₃,
    (localSystem "replica-c").Reachable System.Any s ∧
    HoldsUntilLoss "replica-c" "default" "web" (secs 60) s s₁ [seesSuccessor] s₂ s₃ ∧
    ¬ OnlyContinues "replica-c" "default" "web" s₁ [seesSuccessor] s₃ := by
  obtain ⟨s, s₁, s₂, s₃, hreach, hheld, hs₂, hquiet₁, hquiet₂⟩ := early_loss_path
  refine ⟨s, s₁, s₂, s₃, hreach, hheld, fun honly => honly ?_ [] s₃ (.nil _) hheld.serves_at_loss⟩
  intro es₁ es₂ s' heq hpath
  rcases List.singleton_eq_append_iff.1 heq with ⟨rfl, -⟩ | ⟨rfl, -⟩
  · obtain rfl := hpath.unique (.nil s₁ : (localSystem "replica-c").Path System.Any s₁ [] s₁)
    exact hquiet₁
  · obtain rfl := hpath.unique
      (.single trivial hs₂ : (localSystem "replica-c").Path System.Any s₁ [seesSuccessor] s₂)
    exact hquiet₂

theorem loss_continues_serving_iff_early_loss : ∃ s s₁ s₂ s₃,
    HoldsUntilLoss "replica-c" "default" "web" (secs 60) s s₁ [seesSuccessor] s₂ s₃ ∧
    (OnlyContinues "replica-c" "default" "web" s₁ [seesSuccessor] s₃ ↔
      ∃ es₁ es₂ s', [seesSuccessor] = es₁ ++ es₂ ∧
        (localSystem "replica-c").Path System.Any s₁ es₁ s' ∧
        (s.now + periodInForce "default" "web" (secs 60) es₁ ≤ s'.now ∨
          LeadsView "replica-c" "default" "web" s'.proc.sets)) := by
  obtain ⟨s, s₁, s₂, s₃, -, hheld, -⟩ := early_loss_path
  exact ⟨s, s₁, s₂, s₃, hheld, loss_continues_serving_iff hheld⟩

end ExternalPodAutoscaler.Membership
