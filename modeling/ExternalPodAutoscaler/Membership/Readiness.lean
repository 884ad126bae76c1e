/-
The readiness of a replica over the life of its process (`health/server.rs`, `main.rs`).

The health listener answers before anything else is started, and names the conditions that are
not met yet.  A call of `readyz` loads the flags one after the other, and the process goes on
meanwhile.  The main result of this file is `ready_for_life`: in every run the conditions are met
in one order and for good, so that a replica that drains is still ready.
-/
import ExternalPodAutoscaler.Membership.Lifecycle

namespace ExternalPodAutoscaler.Membership

open Lib

/-! ### The answers of `readyz` -/

namespace Readiness

/-- The flags in the order in which they are loaded. -/
def flags (r : Readiness) : List Bool := [r.tlsLoaded, r.leaseRegistered, r.membershipPopulated]

/-- `pending`: the names of the unmet conditions, by the flags as they were loaded. -/
def pending (loaded : List Bool) : List String :=
  ((["tls", "lease", "membership"].zip loaded).filter fun (_, met) => !met).map
    fun (name, _) => name

variable {r : Readiness} {loaded : List Bool}

lemma mem_pending {name : String} : name ∈ pending loaded ↔
    ∃ k : ℕ, ["tls", "lease", "membership"][k]? = some name ∧ loaded[k]? = some false := by
  simp only [pending, List.mem_map, List.mem_filter, Prod.exists, Bool.not_eq_true']
  constructor
  · rintro ⟨_, met, ⟨hmem, hfalse⟩, rfl⟩
    obtain ⟨k, hk⟩ := List.getElem?_of_mem hmem
    obtain ⟨hname, hmet⟩ := List.getElem?_zip_eq_some.1 hk
    exact ⟨k, hname, hfalse ▸ hmet⟩
  · rintro ⟨k, hname, hmet⟩
    have hk := List.getElem?_zip_eq_some (z := (name, false)).2 ⟨hname, hmet⟩
    exact ⟨name, false, ⟨List.mem_of_getElem? hk, rfl⟩, rfl⟩

end Readiness

/-- `readyz`: the status and the body, by the names of the unmet conditions. -/
def readyz (pending : List String) : ℕ × String :=
  if pending.isEmpty then (200, "ok") else (503, "not ready: " ++ ", ".intercalate pending)

lemma readyz_eq_ok_iff {pending : List String} : (readyz pending).1 = 200 ↔ pending = [] := by
  unfold readyz
  split
  · rename_i h
    simpa using h
  · rename_i h
    simpa using h

/-! ### The calls of `readyz` -/

/-- A process and the calls of `readyz`, each by the flags that it has loaded. -/
structure Observed where
  process : Lifecycle
  calls : List (List Bool)
deriving DecidableEq

inductive ReadinessEvent where
  /-- The process takes a step. -/
  | process (e : LifecycleEvent)
  /-- A request for `/readyz` arrives. -/
  | request
  /-- A call loads its next flag. -/
  | load (i : ℕ)

/-- The runs of a process whose readiness is asked for. -/
def observed (me : Identity) : System Observed ReadinessEvent where
  init s := (lifecycle me).init s.process ∧ s.calls = []
  step s
    | .process e => ((lifecycle me).step s.process e).map fun p => { s with process := p }
    | .request =>
      -- the health listener is there until `main` returns
      if s.process.stage = .exited then none else some { s with calls := s.calls ++ [[]] }
    | .load i =>
      if s.process.stage = .exited then none
      else s.calls[i]?.bind fun loaded =>
        (s.process.readiness.flags[loaded.length]?).map fun met =>
          { s with calls := s.calls.set i (loaded ++ [met]) }

variable {me : Identity} {p p' q : Lifecycle} {e : LifecycleEvent} {i : ℕ}

/-! ### What a step does to the stage -/

namespace Lifecycle

/-- What the return of a call does to the stage and to the readiness. -/
lemma returned_cases (ha : p.Awaits i) (success : Bool) :
    (((p.returned i success).stage = p.stage ∨ (p.returned i success).stage = .exited ∨
        p.stage.spawned = true ∧ (p.returned i success).stage.spawned = true) ∧
      (p.returned i success).readiness = p.readiness) ∨
    (success = true ∧ p.stage = .registering i ∧ (p.returned i success).stage = .discovering ∧
      (p.returned i success).readiness = p.readiness.markLeaseRegistered) := by
  by_cases htask : p.renewalTask = .renewing i
  · simp [returned, htask]
  · have hstage : p.stage.awaits = some i := by
      refine ha.resolve_right fun h => htask ?_
      cases hr : p.renewalTask with
      | renewing j =>
          rw [hr] at h
          rw [Option.some.inj h]
      | off | idle =>
          rw [hr] at h
          cases h
    cases hs : p.stage with
    | registering j =>
        rw [hs] at hstage
        obtain rfl : j = i := Option.some.inj hstage
        cases success <;> simp [returned, htask, hs, exit]
    | marking j => simp [returned, htask, hs, MainStage.spawned]
    | deleting j => simp [returned, htask, hs, exit]
    | _ =>
        rw [hs] at hstage
        cases hstage

lemma heard_cases (ha : p.Awaits i) :
    p.heard i = p ∨
    (((p.heard i).stage = p.stage ∨ (p.heard i).stage = .exited ∨
        p.stage.spawned = true ∧ (p.heard i).stage.spawned = true) ∧
      (p.heard i).readiness = p.readiness) ∨
    (∃ kind, p.world.calls[i]? = some ⟨kind, .finished true⟩ ∧ p.stage = .registering i ∧
      (p.heard i).stage = .discovering ∧
      (p.heard i).readiness = p.readiness.markLeaseRegistered) := by
  unfold heard
  split
  · rename_i kind success hcall
    rcases returned_cases ha success with h | ⟨rfl, h⟩
    · exact Or.inr (Or.inl h)
    · exact Or.inr (Or.inr ⟨kind, hcall, h⟩)
  · exact Or.inl rfl

end Lifecycle

/-- What a step does to the stage and to the readiness. -/
lemma stage_cases (h : (lifecycle me).step p e = some p') :
    ((p'.stage = p.stage ∨ p'.stage = .exited ∨ p.stage.spawned = true ∧ p'.stage.spawned = true) ∧
      (p'.readiness = p.readiness ∨
        p.stage.spawned = true ∧ p'.readiness = p.readiness.markTlsLoaded)) ∨
    (∃ now, p.stage = .starting ∧ p'.stage = .registering p.world.calls.length ∧
      p'.readiness = p.readiness ∧ p'.world = registerAndRenew me now .renewal p.world) ∨
    (∃ i kind, p.stage = .registering i ∧ p'.stage = .discovering ∧
      p'.readiness = p.readiness.markLeaseRegistered ∧
      p'.world.calls[i]? = some ⟨kind, .finished true⟩) ∨
    (p.stage = .discovering ∧ p'.stage = .running ∧
      p'.readiness = p.readiness.markMembershipPopulated) := by
  cases e with
  | register now =>
      obtain ⟨hstage, ⟨⟩⟩ := Option.ite_none_right_eq_some.1 h
      exact Or.inr (Or.inl ⟨now, hstage, rfl, rfl, rfl⟩)
  | populated =>
      obtain ⟨hstage, ⟨⟩⟩ := Option.ite_none_right_eq_some.1 h
      exact Or.inr (Or.inr (Or.inr ⟨hstage, rfl, rfl⟩))
  | quit =>
      obtain ⟨-, ⟨⟩⟩ := Option.ite_none_right_eq_some.1 h
      exact Or.inl ⟨Or.inr (Or.inl rfl), Or.inl rfl⟩
  | tlsLoaded =>
      obtain ⟨hspawned, ⟨⟩⟩ := Option.ite_none_right_eq_some.1 h
      exact Or.inl ⟨Or.inl rfl, Or.inr ⟨hspawned, rfl⟩⟩
  | tick now | taskEnds =>
      obtain ⟨-, ⟨⟩⟩ := Option.ite_none_right_eq_some.1 h
      exact Or.inl ⟨Or.inl rfl, Or.inl rfl⟩
  | sigterm now | sigint | drainOver | stopped =>
      obtain ⟨hstage, ⟨⟩⟩ := Option.ite_none_right_eq_some.1 h
      exact Or.inl ⟨Or.inr (Or.inr ⟨by rw [hstage]; rfl, rfl⟩), Or.inl rfl⟩
  | effect i =>
      obtain ⟨w, -, rfl⟩ := Option.map_eq_some_iff.1 h
      exact Or.inl ⟨Or.inl rfl, Or.inl rfl⟩
  | answer i | fail i =>
      obtain ⟨ha, h⟩ := Option.ite_none_right_eq_some.1 h
      obtain ⟨w, -, rfl⟩ := Option.map_eq_some_iff.1 h
      rcases Lifecycle.heard_cases (p := { p with world := w }) ha with heq | ⟨hstage, hready⟩ |
        ⟨kind, hcall, hstage, hdiscovering, hready⟩
      · rw [heq]
        exact Or.inl ⟨Or.inl rfl, Or.inl rfl⟩
      · exact Or.inl ⟨hstage, Or.inl hready⟩
      · rw [← Lifecycle.heard_world { p with world := w } i] at hcall
        exact Or.inr (Or.inr (Or.inl ⟨i, kind, hstage, hdiscovering, hready, hcall⟩))
  | giveUp i =>
      obtain ⟨ha, ⟨⟩⟩ := Option.ite_none_right_eq_some.1 h
      rcases Lifecycle.returned_cases ha false with ⟨hstage, hready⟩ | ⟨hsuccess, -⟩
      · exact Or.inl ⟨hstage, Or.inl hready⟩
      · cases hsuccess

/-! ### The order of the conditions -/

/-- A call keeps its number and its kind, and once it has returned it stays as it is. -/
lemma call_stays {c : Call} (h : (lifecycle me).step p e = some p')
    (hc : p.world.calls[i]? = some c) :
    ∃ c', p'.world.calls[i]? = some c' ∧ c'.kind = c.kind ∧
      ∀ success, c.state = .finished success → c'.state = .finished success := by
  rcases world_step h with heq | ⟨le, hle, -⟩
  · rw [heq]
    exact ⟨c, hc, rfl, fun _ hs => hs⟩
  · rcases leaseSystem_step hle with ⟨now, heq⟩ | ⟨now, heq⟩ | heq |
      ⟨j, c₀, st, hj, hcalls, -, he⟩
    · rw [heq]
      exact ⟨c, getElem?_concat_of_some hc _, rfl, fun _ hs => hs⟩
    · rw [heq]
      exact ⟨c, getElem?_concat_of_some hc _, rfl, fun _ hs => hs⟩
    · rw [heq]
      exact ⟨c, getElem?_concat_of_some hc _, rfl, fun _ hs => hs⟩
    · rw [hcalls]
      by_cases hij : j = i
      · subst hij
        obtain rfl : c₀ = c := Option.some.inj (hj.symm.trans hc)
        refine ⟨_, getElem?_set_of_some hc _, rfl, fun success hs => ?_⟩
        -- a call that has returned has no next state
        rw [hs] at he
        rcases he with ⟨-, he⟩ | ⟨-, he | he⟩ <;> cases he
      · refine ⟨c, ?_, rfl, fun _ hs => hs⟩
        rw [List.getElem?_set_ne hij, hc]

/-- The conditions of readiness are met one after the other: the lease when its registration has
succeeded, the membership before the components are spawned, and the certificate by one of
these. -/
structure MetInOrder (p : Lifecycle) : Prop where
  registering : ∀ i, p.stage = .registering i →
    ∃ c, p.world.calls[i]? = some c ∧ c.kind = .renewal
  discovering : p.stage = .discovering → p.readiness.leaseRegistered = true
  spawned : p.stage.spawned = true → p.readiness.membershipPopulated = true
  lease : p.readiness.leaseRegistered = true →
    ∃ c ∈ p.world.calls, c.kind = .renewal ∧ c.state = .finished true
  membership : p.readiness.membershipPopulated = true → p.readiness.leaseRegistered = true
  tls : p.readiness.tlsLoaded = true → p.readiness.membershipPopulated = true

/-- A renewal that has succeeded stays among the calls. -/
lemma renewed_of_step (h : (lifecycle me).step p e = some p')
    (hc : ∃ c ∈ p.world.calls, c.kind = .renewal ∧ c.state = .finished true) :
    ∃ c ∈ p'.world.calls, c.kind = .renewal ∧ c.state = .finished true := by
  obtain ⟨c, hc, hkind, hstate⟩ := hc
  obtain ⟨j, hj⟩ := List.getElem?_of_mem hc
  obtain ⟨c', hc', hkind', hstate'⟩ := call_stays h hj
  exact ⟨c', List.mem_of_getElem? hc', hkind'.trans hkind, hstate' true hstate⟩

namespace MetInOrder

/-- The order is kept by a step that neither reaches a stage before the components are spawned nor
meets a condition other than the certificate. -/
lemma of_kept (hp : MetInOrder p) (h : (lifecycle me).step p e = some p')
    (hstage : p'.stage = p.stage ∨ p'.stage = .exited ∨
      p.stage.spawned = true ∧ p'.stage.spawned = true)
    (hready : p'.readiness = p.readiness ∨
      p.stage.spawned = true ∧ p'.readiness = p.readiness.markTlsLoaded) : MetInOrder p' := by
  obtain ⟨hl, hm, ht⟩ : p'.readiness.leaseRegistered = p.readiness.leaseRegistered ∧
      p'.readiness.membershipPopulated = p.readiness.membershipPopulated ∧
      (p'.readiness.tlsLoaded = true →
        p.readiness.tlsLoaded = true ∨ p.stage.spawned = true) := by
    rcases hready with hready | ⟨hspawned, hready⟩ <;> rw [hready]
    · exact ⟨rfl, rfl, Or.inl⟩
    · exact ⟨rfl, rfl, fun _ => Or.inr hspawned⟩
  have hspawned : p'.stage.spawned = true → p.stage.spawned = true := by
    rcases hstage with hstage | hstage | ⟨hspawned, -⟩
    · rw [hstage]
      exact id
    · rw [hstage]
      intro hs
      cases hs
    · exact fun _ => hspawned
  -- before the components are spawned the stage has not changed
  have hearly : ∀ {stage : MainStage}, p'.stage = stage → stage ≠ .exited →
      stage.spawned = false → p.stage = stage := by
    rintro stage rfl hexit hs
    rcases hstage with hstage | hstage | ⟨-, hstage⟩
    · exact hstage.symm
    · exact absurd hstage hexit
    · rw [hstage] at hs
      cases hs
  refine ⟨fun i hi => ?_, fun hd => ?_, fun hs => ?_, fun h' => ?_, fun h' => ?_, fun h' => ?_⟩
  · obtain ⟨c, hc, hkind⟩ := hp.registering i (hearly hi (by simp) rfl)
    obtain ⟨c', hc', hkind', -⟩ := call_stays h hc
    exact ⟨c', hc', hkind'.trans hkind⟩
  · rw [hl]
    exact hp.discovering (hearly hd (by simp) rfl)
  · rw [hm]
    exact hp.spawned (hspawned hs)
  · exact renewed_of_step h (hp.lease (hl ▸ h'))
  · rw [hl]
    exact hp.membership (hm ▸ h')
  · rw [hm]
    exact (ht h').elim hp.tls hp.spawned

lemma step (hp : MetInOrder p) (h : (lifecycle me).step p e = some p') : MetInOrder p' := by
  have hlease : p.readiness.leaseRegistered = true →
      ∃ c ∈ p'.world.calls, c.kind = .renewal ∧ c.state = .finished true :=
    fun hl => renewed_of_step h (hp.lease hl)
  rcases stage_cases h with ⟨hstage, hready⟩ | ⟨now, hstage, hstage', hready, hworld⟩ |
    ⟨i, kind, hstage, hstage', hready, hcall⟩ | ⟨hstage, hstage', hready⟩
  · exact hp.of_kept h hstage hready
  · refine ⟨fun i hi => ?_, by simp [hstage'], by simp [hstage', MainStage.spawned], ?_, ?_, ?_⟩
    · obtain rfl : p.world.calls.length = i := by simpa [hstage'] using hi
      rw [hworld]
      exact ⟨_, List.getElem?_concat_length, rfl⟩
    all_goals rw [hready]
    · exact hlease
    · exact hp.membership
    · exact hp.tls
  · refine ⟨by simp [hstage'], ?_, by simp [hstage', MainStage.spawned], fun _ => ?_, ?_, ?_⟩
    · rw [hready]
      exact fun _ => rfl
    · obtain ⟨c, hc, hkind⟩ := hp.registering i hstage
      obtain ⟨c', hc', hkind', -⟩ := call_stays h hc
      obtain rfl := Option.some.inj (hc'.symm.trans hcall)
      exact ⟨_, List.mem_of_getElem? hcall, hkind'.trans hkind, rfl⟩
    · rw [hready]
      exact fun _ => rfl
    · rw [hready]
      exact hp.tls
  · refine ⟨by simp [hstage'], by simp [hstage'], ?_, ?_, ?_, ?_⟩ <;> rw [hready]
    · exact fun _ => rfl
    · exact hlease
    · exact fun _ => hp.discovering hstage
    · exact fun _ => rfl

end MetInOrder

lemma metInOrder_of_reachable (h : (lifecycle me).Reachable System.Any p) : MetInOrder p := by
  refine h.invariant ?_ fun _ _ _ hp _ hs => hp.step hs
  rintro p ⟨lease, rfl⟩
  refine ⟨?_, ?_, ?_, ?_, ?_, ?_⟩ <;> simp [Lifecycle.start, Readiness.default, MainStage.spawned]

/-- What is met stays met. -/
lemma flags_of_step {k : ℕ} (h : (lifecycle me).step p e = some p')
    (hk : p.readiness.flags[k]? = some true) : p'.readiness.flags[k]? = some true := by
  have hmark : p'.readiness = p.readiness ∨ p'.readiness = p.readiness.markTlsLoaded ∨
      p'.readiness = p.readiness.markLeaseRegistered ∨
      p'.readiness = p.readiness.markMembershipPopulated := by
    rcases stage_cases h with ⟨-, h | ⟨-, h⟩⟩ | ⟨-, -, -, h, -⟩ | ⟨-, -, -, -, h, -⟩ | ⟨-, -, h⟩
    · exact Or.inl h
    · exact Or.inr (Or.inl h)
    · exact Or.inl h
    · exact Or.inr (Or.inr (Or.inl h))
    · exact Or.inr (Or.inr (Or.inr h))
  rcases hmark with h | h | h | h <;> rw [h]
  · exact hk
  all_goals
    rcases k with _ | _ | _ | k
    all_goals first | rfl | exact hk

/-! ### What the calls load -/

/-- The flags that a call has loaded as set are set, and if that of the certificate is, all are. -/
structure LoadsSound (r : Readiness) (loaded : List Bool) : Prop where
  met : ∀ k : ℕ, loaded[k]? = some true → r.flags[k]? = some true
  tls : loaded[0]? = some true → ∀ k : ℕ, loaded[k]? ≠ some false

variable {s s' : Observed} {event : ReadinessEvent} {loaded : List Bool}

/-- The next flag is loaded. -/
lemma LoadsSound.load (h : LoadsSound p.readiness loaded) (hp : MetInOrder p) {met : Bool}
    (hmet : p.readiness.flags[loaded.length]? = some met) :
    LoadsSound p.readiness (loaded ++ [met]) where
  met k hk := by
    rcases getElem?_concat_cases hk with ⟨rfl, rfl⟩ | ⟨-, hk⟩
    · exact hmet
    · exact h.met k hk
  tls hfirst k hk := by
    rcases getElem?_concat_cases hk with ⟨rfl, rfl⟩ | ⟨-, hk⟩
    · rcases getElem?_concat_cases hfirst with ⟨-, hfalse⟩ | ⟨-, hfirst⟩
      · cases hfalse
      · -- the certificate was met before the flag was loaded, and so was its condition
        have htls : p.readiness.tlsLoaded = true := Option.some.inj (h.met 0 hfirst)
        have hmembership := hp.tls htls
        have hlease := hp.membership hmembership
        have hfalse := List.mem_of_getElem? hmet
        simp [Readiness.flags, htls, hmembership, hlease] at hfalse
    · rcases getElem?_concat_cases hfirst with ⟨hlength, -⟩ | ⟨-, hfirst⟩
      · simp [List.length_eq_zero_iff.1 hlength.symm] at hk
      · exact h.tls hfirst k hk

/-- The process is in order, and the calls have loaded what it has met. -/
structure ObservedSound (s : Observed) : Prop where
  process : MetInOrder s.process
  calls : ∀ loaded ∈ s.calls, LoadsSound s.process.readiness loaded

lemma ObservedSound.step (h : ObservedSound s) (hs : (observed me).step s event = some s') :
    ObservedSound s' := by
  cases event with
  | process e =>
      obtain ⟨p, hp, rfl⟩ := Option.map_eq_some_iff.1 hs
      refine ⟨h.process.step hp, fun loaded hloaded => ?_⟩
      obtain ⟨hmet, htls⟩ := h.calls loaded hloaded
      exact ⟨fun k hk => flags_of_step hp (hmet k hk), htls⟩
  | request =>
      obtain ⟨-, hs⟩ := Option.ite_none_left_eq_some.1 hs
      obtain rfl := Option.some.inj hs
      refine ⟨h.process, fun loaded hloaded => ?_⟩
      rcases List.mem_append.1 hloaded with hloaded | hloaded
      · exact h.calls loaded hloaded
      · obtain rfl := List.mem_singleton.1 hloaded
        exact ⟨by simp, by simp⟩
  | load i =>
      obtain ⟨-, hs⟩ := Option.ite_none_left_eq_some.1 hs
      obtain ⟨loaded, hi, hs⟩ := Option.bind_eq_some_iff.1 hs
      obtain ⟨met, hmet, rfl⟩ := Option.map_eq_some_iff.1 hs
      refine ⟨h.process, fun loaded' hloaded' => ?_⟩
      rcases List.mem_or_eq_of_mem_set hloaded' with hold | rfl
      · exact h.calls loaded' hold
      · exact (h.calls loaded (List.mem_of_getElem? hi)).load h.process hmet

lemma observedSound_of_reachable (h : (observed me).Reachable System.Any s) : ObservedSound s := by
  refine h.invariant ?_ fun _ _ _ hs _ hstep => hs.step hstep
  rintro s ⟨hinit, hcalls⟩
  refine ⟨?_, by simp [hcalls]⟩
  exact metInOrder_of_reachable ⟨s.process, [], hinit, .nil _⟩

/-- A call that comes later loads no flag as unset that is set now. -/
structure SetSince (s s' : Observed) : Prop where
  stays : ∀ k : ℕ, s.process.readiness.flags[k]? = some true →
    s'.process.readiness.flags[k]? = some true
  length_le : s.calls.length ≤ s'.calls.length
  loaded : ∀ j, s.calls.length ≤ j → ∀ loaded, s'.calls[j]? = some loaded →
    ∀ k : ℕ, s.process.readiness.flags[k]? = some true → loaded[k]? ≠ some false

lemma SetSince.step {s₀ : Observed} (h : SetSince s₀ s)
    (hs : (observed me).step s event = some s') : SetSince s₀ s' := by
  cases event with
  | process e =>
      obtain ⟨p, hp, rfl⟩ := Option.map_eq_some_iff.1 hs
      exact ⟨fun k hk => flags_of_step hp (h.stays k hk), h.length_le, h.loaded⟩
  | request =>
      obtain ⟨-, hs⟩ := Option.ite_none_left_eq_some.1 hs
      obtain rfl := Option.some.inj hs
      refine ⟨h.stays, ?_, fun j hj loaded hloaded k hk => ?_⟩
      · rw [List.length_append]
        exact Nat.le_add_right_of_le h.length_le
      · rcases getElem?_concat_cases hloaded with ⟨-, rfl⟩ | ⟨-, hloaded⟩
        · simp
        · exact h.loaded j hj loaded hloaded k hk
  | load i =>
      obtain ⟨-, hs⟩ := Option.ite_none_left_eq_some.1 hs
      obtain ⟨before, hi, hs⟩ := Option.bind_eq_some_iff.1 hs
      obtain ⟨met, hmet, rfl⟩ := Option.map_eq_some_iff.1 hs
      refine ⟨h.stays, ?_, fun j hj loaded hloaded k hk hfalse => ?_⟩
      · rw [List.length_set]
        exact h.length_le
      · by_cases hij : i = j
        · subst hij
          rw [getElem?_set_of_some hi] at hloaded
          obtain rfl := Option.some.inj hloaded
          rcases getElem?_concat_cases hfalse with ⟨rfl, rfl⟩ | ⟨-, hfalse⟩
          · rw [h.stays _ hk] at hmet
            cases hmet
          · exact h.loaded i hj before hi k hk hfalse
        · rw [List.getElem?_set_ne hij] at hloaded
          exact h.loaded j hj loaded hloaded k hk hfalse

lemma setSince_of_path {es : List ReadinessEvent}
    (h : (observed me).Path System.Any s es s') : SetSince s s' := by
  refine h.preserves (I := SetSince s) (fun _ _ _ hI _ hs => hI.step hs)
    ⟨fun _ hk => hk, le_rfl, fun j hj loaded hloaded => ?_⟩
  rw [List.getElem?_eq_none hj] at hloaded
  cases hloaded

/-- The lists of unmet conditions when they are met in the order of the start. -/
lemma LoadsSound.pending_mem {r : Readiness} (h : LoadsSound r loaded)
    (hlength : loaded.length = 3) : Readiness.pending loaded ∈
      [["tls", "lease", "membership"], ["tls", "membership"], ["tls", "lease"], ["tls"], []] := by
  obtain ⟨tls, lease, membership, rfl⟩ := List.length_eq_three.1 hlength
  cases tls with
  | true =>
      have hlease : lease = true := by simpa using h.tls rfl 1
      have hmembership : membership = true := by simpa using h.tls rfl 2
      simp [hlease, hmembership, Readiness.pending]
  | false => cases lease <;> cases membership <;> simp [Readiness.pending]

/-- **Readiness over a life.** In every run the conditions are met in the order in which `main`
comes to them, so that a call of `readyz`, which loads the flags while the process goes on, has one
of five answers; it answers that the replica is ready only once the lease is registered; a call
that comes after the components are spawned finds at most the certificate missing, also while the
replica drains; and no call finds a condition unmet that an earlier one has found met. -/
theorem ready_for_life (me : Identity) (hreach : (observed me).Reachable System.Any s) :
    (∀ loaded ∈ s.calls, loaded.length = 3 →
      Readiness.pending loaded ∈ [["tls", "lease", "membership"], ["tls", "membership"],
        ["tls", "lease"], ["tls"], []] ∧
      ((readyz (Readiness.pending loaded)).1 = 200 →
        ∃ c ∈ s.process.world.calls, c.kind = .renewal ∧ c.state = .finished true)) ∧
    ∀ es s', (observed me).Path System.Any s es s' →
      ∀ j, s.calls.length ≤ j → ∀ loaded, s'.calls[j]? = some loaded →
        (s.process.stage.spawned = true → Readiness.pending loaded ⊆ ["tls"]) ∧
        ∀ earlier ∈ s.calls, earlier.length = 3 →
          Readiness.pending loaded ⊆ Readiness.pending earlier := by
  have hs := observedSound_of_reachable hreach
  refine ⟨fun loaded hloaded hlength => ⟨(hs.calls loaded hloaded).pending_mem hlength, ?_⟩,
    fun es s' hpath j hj loaded hloaded => ⟨fun hspawned name hname => ?_,
      fun earlier hearlier hlength name hname => ?_⟩⟩
  · intro hready
    have hnil := readyz_eq_ok_iff.1 hready
    have hlease : loaded[1]? = some true := by
      obtain ⟨tls, lease, membership, rfl⟩ := List.length_eq_three.1 hlength
      cases lease with
      | true => rfl
      | false =>
          have hmem : "lease" ∈ Readiness.pending [tls, false, membership] :=
            Readiness.mem_pending.2 ⟨1, rfl, rfl⟩
          rw [hnil] at hmem
          cases hmem
    refine hs.process.lease ?_
    simpa [Readiness.flags] using (hs.calls loaded hloaded).met 1 hlease
  · obtain ⟨k, hk, hfalse⟩ := Readiness.mem_pending.1 hname
    have hmembership := hs.process.spawned hspawned
    have hlease := hs.process.membership hmembership
    have hmet := (setSince_of_path hpath).loaded j hj loaded hloaded
    rcases k with _ | _ | _ | k
    · obtain rfl := Option.some.inj hk
      exact List.mem_cons_self
    · exact absurd hfalse (hmet 1 (congrArg some hlease))
    · exact absurd hfalse (hmet 2 (congrArg some hmembership))
    · cases hk
  · obtain ⟨k, hk, hfalse⟩ := Readiness.mem_pending.1 hname
    have hlt : k < earlier.length := by
      rw [hlength]
      exact (List.getElem?_eq_some_iff.1 hk).1
    refine Readiness.mem_pending.2 ⟨k, hk, ?_⟩
    rcases hmet : earlier[k] with _ | _
    · rw [List.getElem?_eq_getElem hlt, hmet]
    · have hset : earlier[k]? = some true := by rw [List.getElem?_eq_getElem hlt, hmet]
      exact absurd hfalse ((setSince_of_path hpath).loaded j hj loaded hloaded k
        ((hs.calls earlier hearlier).met k hset))

/-- A call loads the flags of the certificate and of the lease before the registration returns,
and that of the membership after the components are spawned; the next call lacks the certificate
at most. -/
theorem ready_for_life_overtaken :
    ∃ s, (observed (deployed "replica-a")).Reachable System.Any s ∧
      s.calls = [[false, false, true]] ∧
      readyz (Readiness.pending [false, false, true]) = (503, "not ready: tls, lease") ∧
      ∀ es s', (observed (deployed "replica-a")).Path System.Any s es s' →
        ∀ loaded, s'.calls[1]? = some loaded → Readiness.pending loaded ⊆ ["tls"] := by
  have hreach : (observed (deployed "replica-a")).Reachable System.Any
      ⟨⟨⟨some (renewedLease (deployed "replica-a") 0 false), false, [⟨.renewal, .finished true⟩]⟩,
        .running, .idle, ⟨false, true, true⟩⟩, [[false, false, true]]⟩ :=
    ⟨⟨.start none, []⟩, [.process (.register 0), .request, .load 0, .load 0,
      .process (.effect 0), .process (.answer 0), .process .populated, .load 0],
      ⟨⟨none, rfl⟩, rfl⟩, System.exec_eq_some_iff.1 rfl⟩
  refine ⟨_, hreach, rfl, rfl, fun es s' hpath loaded hloaded => ?_⟩
  exact ((ready_for_life _ hreach).2 es s' hpath 1 le_rfl loaded hloaded).1 rfl

end ExternalPodAutoscaler.Membership
