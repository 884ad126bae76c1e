/-
The objects that replicas install when they start (`install_crd` and `register_api_service` of
`controller/run.rs`).

Every replica reads the definition of the resource and the registration of the metrics API, creates
what is missing and replaces what exists, naming the version that it has read.  Meanwhile other
replicas do the same, and cert-manager writes the bundle of the certificate authority into the
registration.  A refused update is taken for a needless one; a refused creation ends the replica.

The main results of this file are `caBundle_kept`: in every run, whatever fails, the registration is
what some replica wants, with the bundle that was injected last; and `installs_end_well`: if nothing
fails, the objects exist once a replica has finished, one replica has succeeded by then, and
those that start then succeed.
-/
import Mathlib.Data.List.Induction
import ExternalPodAutoscaler.Lib.Versioned

namespace ExternalPodAutoscaler.Controller

open ExternalPodAutoscaler.Lib

structure ServiceReference where
  name : Option String
  ns : Option String
  port : Option ℕ
deriving DecidableEq

structure ApiServiceSpec where
  service : Option ServiceReference
  group : Option String
  version : Option String
  insecureSkipTlsVerify : Option Bool
  groupPriorityMinimum : ℕ
  versionPriority : ℕ
  caBundle : Option String
deriving DecidableEq

/-- The registration of the metrics API. -/
structure ApiService where
  name : Option String
  annotations : List (String × String)
  spec : Option ApiServiceSpec
deriving DecidableEq

/-- The variables that `register_api_service` reads. -/
structure InstallEnv where
  serviceNamespace : Option String
  serviceName : Option String
  certName : Option String
deriving DecidableEq

/-- What a replica registers. -/
def wantedApiService (env : InstallEnv) : ApiService :=
  let serviceNamespace := env.serviceNamespace.getD "epa-system"
  let serviceName := env.serviceName.getD "epa-webhook"
  let certName := env.certName.getD "epa-webhook-cert"
  { name := some "v1beta1.external.metrics.k8s.io"
    annotations := [("cert-manager.io/inject-ca-from", s!"{serviceNamespace}/{certName}")]
    spec := some
      { service := some ⟨some serviceName, some serviceNamespace, some 443⟩
        group := some "external.metrics.k8s.io"
        version := some "v1beta1"
        insecureSkipTlsVerify := some false
        groupPriorityMinimum := 100
        versionPriority := 100
        caBundle := none } }

namespace ApiService

/-- The bundle of the certificate authority. -/
def caBundle (s : ApiService) : Option String := s.spec.bind ApiServiceSpec.caBundle

/-- The registration with another bundle. -/
def withCaBundle (s : ApiService) (caBundle : Option String) : ApiService :=
  { s with spec := s.spec.map fun spec => { spec with caBundle := caBundle } }

end ApiService

/-- `register_api_service`, and the injection of a bundle by cert-manager. -/
def registerApiService : Protocol ApiService InstallEnv String where
  initial := wantedApiService
  merge env existing := (wantedApiService env).withCaBundle existing.caBundle
  edit caBundle s := s.withCaBundle (some caBundle)
  createsAfterError := false

/-- `install_crd`, for the definition that each replica was built with. -/
def installCrd (Crd : Type) : Protocol Crd Crd (Crd → Crd) where
  initial crd := crd
  merge crd _ := crd
  edit change crd := change crd
  createsAfterError := true

/-! ### The bundle is kept -/

/-- The bundle that was injected last, since the registration was created. -/
def injected (log : List (Operation InstallEnv String)) : Option String :=
  log.foldl (fun caBundle op =>
    match op with
    | .create _ | .delete => none
    | .merge _ => caBundle
    | .edit new => some new) none

lemma injected_concat (log : List (Operation InstallEnv String))
    (op : Operation InstallEnv String) :
    injected (log ++ [op]) =
      match op with
      | .create _ | .delete => none
      | .merge _ => injected log
      | .edit new => some new := by
  rw [injected, List.foldl_append]
  rfl

/-- The registration after some operations. -/
lemma replay_registerApiService (log : List (Operation InstallEnv String)) {s : ApiService}
    (h : registerApiService.replay log = some s) :
    ∃ env, (.create env ∈ log ∨ .merge env ∈ log) ∧
      s = (wantedApiService env).withCaBundle (injected log) := by
  induction log using List.reverseRecOn generalizing s with
  | nil => cases h
  | append_singleton log op ih =>
      rw [Protocol.replay_concat] at h
      rw [injected_concat]
      cases op with
      | create env =>
          obtain rfl := Option.some.inj h
          exact ⟨env, Or.inl (by simp), rfl⟩
      | merge env =>
          obtain ⟨s', hs', rfl⟩ := Option.map_eq_some_iff.1 h
          obtain ⟨env', -, rfl⟩ := ih hs'
          exact ⟨env, Or.inr (by simp), rfl⟩
      | edit new =>
          obtain ⟨s', hs', rfl⟩ := Option.map_eq_some_iff.1 h
          obtain ⟨env, henv, rfl⟩ := ih hs'
          refine ⟨env, henv.imp (List.mem_append_left _) (List.mem_append_left _), rfl⟩
      | delete => cases h

/-- **No bundle is lost.** In every run of any number of replicas, with injections, deletions and
failures at any instant, the registration is what one of the replicas wants, with the bundle that
was injected last since the registration was created. -/
theorem caBundle_kept {w : Clients ApiService InstallEnv String}
    (h : registerApiService.system.Reachable System.Any w) {s : ApiService}
    (hs : w.register.value = some s) :
    ∃ env, (.create env ∈ w.log ∨ .merge env ∈ w.log) ∧
      s = (wantedApiService env).withCaBundle (injected w.log) :=
  replay_registerApiService w.log (Protocol.replay_log h ▸ hs)

/-! ### Replicas that start together -/

/-- Once a replica has finished there is an object, and another one has succeeded; a replica that
has started since then has succeeded itself. -/
def EndsWell {α ω δ : Type} (w : Clients α ω δ) : Prop :=
  ∀ c ∈ w.clients, ∀ ok, c.stage = .finished ok →
    w.register.object.isSome = true ∧ (∃ c' ∈ w.clients, c'.stage = .finished true) ∧
      (c.found = true → ok = true)

/-- **Starting together.** If nothing fails and nothing is deleted, then in every run the definition
and the registration exist once a replica has finished with them, one of the replicas has
succeeded, and only a replica that started before there was an object can have failed. -/
theorem installs_end_well {Crd : Type} {w : Clients Crd Crd (Crd → Crd)}
    {w' : Clients ApiService InstallEnv String}
    (h : (installCrd Crd).system.Reachable Clients.Healthy w)
    (h' : registerApiService.system.Reachable Clients.Healthy w') : EndsWell w ∧ EndsWell w' := by
  constructor
  · intro c hc ok hstage
    obtain ⟨hsome, hok⟩ := Protocol.ends_well h hc hstage
    exact ⟨hsome, Protocol.exists_ok h hsome, hok⟩
  · intro c hc ok hstage
    obtain ⟨hsome, hok⟩ := Protocol.ends_well h' hc hstage
    exact ⟨hsome, Protocol.exists_ok h' hsome, hok⟩

/-! ### Two replicas and a third -/

/-- The names of a deployment by default. -/
def defaultEnv : InstallEnv := ⟨none, none, none⟩

/-- Two replicas start, one of them creates the registration, and the bundle is injected while a
third has read it and not written yet. -/
def injectedMeanwhile : List (ClientEvent InstallEnv String) :=
  [.start defaultEnv, .start defaultEnv, .read 0, .read 1, .write 0, .write 1, .start defaultEnv,
    .read 2, .edit "ca", .write 2]

/-- The registration after these events. -/
def registeredMeanwhile : Clients ApiService InstallEnv String :=
  (registerApiService.system.exec .new injectedMeanwhile).get (by decide +kernel)

/-- Two replicas find no definition, and only one of them can create it; a third replaces it. -/
def createdTwice : List (ClientEvent String (String → String)) :=
  [.start "v1", .start "v1", .read 0, .read 1, .write 0, .write 1, .start "v2", .read 2, .write 2]

/-- The definition after these events. -/
def installedTwice : Clients String String (String → String) :=
  ((installCrd String).system.exec .new createdTwice).get (by decide +kernel)

lemma registeredMeanwhile_path : registerApiService.system.Path System.Any .new injectedMeanwhile
    registeredMeanwhile :=
  System.exec_eq_some_iff.1 (Option.some_get _).symm

lemma installedTwice_path : (installCrd String).system.Path System.Any .new createdTwice
    installedTwice :=
  System.exec_eq_some_iff.1 (Option.some_get _).symm

/-- The third replica has not overwritten the bundle. -/
theorem caBundle_kept_injected_meanwhile :
    ∃ env, (.create env ∈ registeredMeanwhile.log ∨ .merge env ∈ registeredMeanwhile.log) ∧
      (wantedApiService defaultEnv).withCaBundle (some "ca") =
        (wantedApiService env).withCaBundle (injected registeredMeanwhile.log) :=
  caBundle_kept ⟨_, _, rfl, registeredMeanwhile_path⟩ (by decide +kernel)

theorem installs_end_well_created_twice :
    EndsWell installedTwice ∧ EndsWell registeredMeanwhile := by
  have hcrd : ∀ e ∈ createdTwice, ∀ w : Clients String String (String → String), w.Healthy e := by
    simp [createdTwice, Clients.Healthy]
  have hapi : ∀ e ∈ injectedMeanwhile, ∀ w : Clients ApiService InstallEnv String, w.Healthy e := by
    simp [injectedMeanwhile, Clients.Healthy]
  exact installs_end_well ⟨_, _, rfl, installedTwice_path.restrict hcrd⟩
    ⟨_, _, rfl, registeredMeanwhile_path.restrict hapi⟩

end ExternalPodAutoscaler.Controller
