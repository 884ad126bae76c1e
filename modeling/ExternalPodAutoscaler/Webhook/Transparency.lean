/-
Which replica is asked for a metric makes no difference.

While all replicas hold one view and no handover is orphaned, one replica is in charge of an EPA:
the owner, or the previous owner for whom it waits.  The main result of this file is
`asked_anywhere`: a request that arrives at any other replica that does not serve the EPA takes at
most five steps, cannot get stuck before, and ends with the value of the replica in charge.
-/
import ExternalPodAutoscaler.Webhook.Requests

namespace ExternalPodAutoscaler.Webhook

open ExternalPodAutoscaler.Lib ExternalPodAutoscaler.Membership ExternalPodAutoscaler.Store

/-! ### The replica in charge -/

section InCharge

variable {c : Cluster} {view : ReplicaSets} {ns name : String}

/-- A live replica forwards if it does not serve and is not the owner. -/
lemma forwards_owner {r owner : String} {p : Replica} (hview : c.SharesView view)
    (hw : DistinctWeights view ns name) (howner : getEpaOwner view ns name = some owner)
    (hp : c.procs r = some p) (hserve : shouldServeEpa r p.sets c.now ns name p.state = false)
    (hne : owner ≠ r) : Forwards c ns name r owner := by
  refine ⟨p, false, hp, getExternalMetric_eq_forward_iff.2 ⟨hserve, ?_⟩⟩
  rw [forwardTarget_eq_some_iff, hview.owner hw hp]
  exact Or.inl ⟨rfl, howner, hne⟩

/-- Requests go to replicas of the view. -/
lemma mem_all_of_forwards {r r' : String} (hview : c.SharesView view)
    (hw : DistinctWeights view ns name) (h : Forwards c ns name r r') :
    r' ∈ view.getAllReplicas := by
  obtain ⟨-, howner | ⟨-, hprev⟩⟩ := target_of_forwards hview hw h
  · exact List.mem_append_left _ (mem_active_of_owner howner)
  · rw [getPreviousEpaOwner_eq] at hprev
    exact maxByKey_mem hprev

/-- All requests that are not served where they arrive end at one replica, which does not
forward. -/
lemma exists_inCharge {owner : String} (hview : c.SharesView view)
    (hw : DistinctWeights view ns name) (hno : ¬ OrphanedHandover c view ns name)
    (hlive : ∀ id ∈ view.getAllReplicas, (c.procs id).isSome)
    (howner : getEpaOwner view ns name = some owner) :
    ∃ o po, c.procs o = some po ∧ (∀ r, ¬ Forwards c ns name o r) ∧
      ∀ r p, c.procs r = some p → shouldServeEpa r p.sets c.now ns name p.state = false →
        ∃ chain : List String, chain.head? = some r ∧ chain.getLast? = some o ∧
          chain.IsChain (Forwards c ns name) ∧ chain.length ≤ 3 := by
  by_cases hfwd : ∃ prev, Forwards c ns name owner prev
  · -- the owner waits for the previous owner
    obtain ⟨prev, hprev⟩ := hfwd
    obtain ⟨po, hpo⟩ := Option.isSome_iff_exists.1 (hlive prev (mem_all_of_forwards hview hw hprev))
    refine ⟨prev, po, hpo, fun r => not_forwards_of_forwards hview hw hno howner hprev, ?_⟩
    intro r p hp hserve
    by_cases hr : owner = r
    · subst hr
      exact ⟨[owner, prev], rfl, rfl, by simp [hprev], by simp⟩
    · have hrOwner := forwards_owner hview hw howner hp hserve hr
      exact ⟨[r, owner, prev], rfl, rfl, by simp [hrOwner, hprev], by simp⟩
  · obtain ⟨po, hpo⟩ := Option.isSome_iff_exists.1
      (hlive owner (List.mem_append_left _ (mem_active_of_owner howner)))
    refine ⟨owner, po, hpo, fun r hr => hfwd ⟨r, hr⟩, ?_⟩
    intro r p hp hserve
    by_cases hr : owner = r
    · subst hr
      exact ⟨[owner], rfl, rfl, by simp, by simp⟩
    · have hrOwner := forwards_owner hview hw howner hp hserve hr
      exact ⟨[r, owner], rfl, rfl, by simp [hrOwner], by simp⟩

end InCharge

/-! ### The way along a chain -/

section Chain

variable {V β : Type} [Field V] [LinearOrder V] [FloorRing V]
  (parseAuthority : List Char → Option β) (resolve : String → Option String)

/-- Nothing happens but the request. -/
def Undisturbed : Request V → RequestEvent V → Prop
  | _, .handle _ => True
  | _, .receive _ => True
  | _, _ => False

/-- A replica is reached by the address in its lease. -/
def Reached (b : Backends V) (id : String) : Prop :=
  ∃ address, b.replicaAddress id = some address ∧ (parseAuthority address.toList).isSome ∧
    resolve address = some id

/-- A call that waits. -/
def waitingAt (ns metricName id : String) : Call := ⟨id, ns, metricName, .waiting⟩

/-- A request on its way along a chain of replicas, after `n` steps.  The last replica of the chain
has the value. -/
inductive OnItsWay (b : Backends V) (ns metricName : String) (value : V) (chain : List String) :
    ℕ → Request V → Prop
  | going {pre post : List String} {x : String} (h : chain = pre ++ x :: post) :
      OnItsWay b ns metricName value chain pre.length
        ⟨b, [], ⟨x, ns, metricName, .arrived⟩ :: (pre.map (waitingAt ns metricName)).reverse⟩
  | returning {pre post : List String} {x : String} (timestamp : String)
      (h : chain = pre ++ x :: post) :
      OnItsWay b ns metricName value chain (chain.length + post.length)
        ⟨b, [], ⟨x, ns, metricName,
          .answered (.ok (valueList metricName (valueI64 value) timestamp))⟩ ::
            (pre.map (waitingAt ns metricName)).reverse⟩

variable {parseAuthority resolve} {b : Backends V} {ns metricName : String} {key : CacheKey}
  {value : V} {chain : List String} {n : ℕ} {q q' : Request V} {serde : Serde}

/-- The number of steps is bounded. -/
lemma OnItsWay.lt_two_mul (h : OnItsWay b ns metricName value chain n q) :
    n < 2 * chain.length := by
  cases h with
  | going h => simp [h]; omega
  | returning timestamp h => simp [h]; omega

omit [Field V] [LinearOrder V] [FloorRing V] in
/-- The call that arrives at a replica that is reached. -/
lemma arriving_of_reached {id address : String} (hns : ns ≠ "")
    (hkey : requestedKey ns metricName = .ok key)
    (hsurvives : SurvivesPasting ns.toList metricName.toList) (hwritten : WrittenByManagers b)
    (hreached : Reached parseAuthority resolve b id)
    (haddress : b.replicaAddress id = some address) :
    Request.arriving parseAuthority resolve address ns metricName =
      some ⟨id, ns, metricName, .arrived⟩ := by
  obtain ⟨address', haddress', haccepted, hresolve⟩ := hreached
  obtain rfl := Option.some.inj (haddress.symm.trans haddress')
  obtain ⟨a, ha⟩ := Option.isSome_iff_exists.1 haccepted
  rw [Request.arriving_eq hns hkey hsurvives hwritten haddress, ha, hresolve]
  rfl

/-- What the steps along a chain need. -/
structure Answers (parseAuthority : List Char → Option β) (resolve : String → Option String)
    (b : Backends V) (key : CacheKey) (value : V) (chain : List String) : Prop where
  isChain : chain.IsChain (Forwards b.cluster key.ns key.epaName)
  reached : ∀ r r', Forwards b.cluster key.ns key.epaName r r' → Reached parseAuthority resolve b r'
  last : ∀ o, chain.getLast? = some o →
    ∃ po, b.cluster.procs o = some po ∧ b.decide o po key = .answer (.ok value)

/-- A replica that forwards sends the request on to the next one. -/
lemma handled_of_forwards {r r' : String} (timestamp : String) (hns : ns ≠ "")
    (hkey : requestedKey ns metricName = .ok key)
    (hsurvives : SurvivesPasting ns.toList metricName.toList) (hwritten : WrittenByManagers b)
    (hreached : Reached parseAuthority resolve b r')
    (h : Forwards b.cluster key.ns key.epaName r r') :
    ∃ p, b.cluster.procs r = some p ∧
      Request.handled parseAuthority resolve b p ⟨r, ns, metricName, .arrived⟩ timestamp =
        [⟨r', ns, metricName, .arrived⟩, waitingAt ns metricName r] := by
  obtain ⟨p, flag, hp, hdecision⟩ := h
  obtain ⟨address, haddress, -⟩ := id hreached
  have hdecide : b.decide r p key = .forward address := by
    simp [Backends.decide, hdecision, haddress]
  refine ⟨p, hp, ?_⟩
  simp only [Request.handled, hkey, hdecide,
    arriving_of_reached hns hkey hsurvives hwritten hreached haddress]
  rfl

/-- The steps of a request on its way. -/
lemma OnItsWay.step (h : OnItsWay b ns metricName value chain n q) (hns : ns ≠ "")
    (hkey : requestedKey ns metricName = .ok key)
    (hsurvives : SurvivesPasting ns.toList metricName.toList) (hwritten : WrittenByManagers b)
    (hchain : Answers parseAuthority resolve b key value chain) {event : RequestEvent V}
    (hevent : Undisturbed q event)
    (hstep : Request.step parseAuthority resolve serde q event = some q') :
    OnItsWay b ns metricName value chain (n + 1) q' := by
  rcases event with _ | timestamp | timestamp | _
  · exact hevent.elim
  · cases h with
    | @going pre post x hpath =>
      rcases post with _ | ⟨y, post⟩
      · -- the last replica of the chain
        obtain ⟨po, hpo, hdecide⟩ := hchain.last x (by simp [hpath])
        simp only [Request.step, hpo, Request.handled, hkey, hdecide] at hstep
        obtain rfl := Option.some.inj hstep
        have hlen : pre.length + 1 = chain.length + ([] : List String).length := by simp [hpath]
        rw [hlen]
        exact .returning timestamp hpath
      · have hfwd : Forwards b.cluster key.ns key.epaName x y :=
          (List.isChain_append_cons_cons.1 (hpath ▸ hchain.isChain)).2.1
        obtain ⟨p, hp, hhandled⟩ := handled_of_forwards timestamp hns hkey hsurvives hwritten
          (hchain.reached x y hfwd) hfwd
        simp only [Request.step, hp, hhandled] at hstep
        obtain rfl := Option.some.inj hstep
        have hgoing : OnItsWay b ns metricName value chain (pre ++ [x]).length _ :=
          .going (hpath.trans (List.append_cons pre x (y :: post)))
        simpa using hgoing
    | returning timestamp' hpath => simp [Request.step] at hstep
  · cases h with
    | @going pre post x hpath =>
      rcases hcalls : (pre.map (waitingAt ns metricName)).reverse with _ | ⟨c, rest⟩ <;>
        simp [Request.step, hcalls] at hstep
    | @returning pre post x timestamp' hpath =>
      rcases List.eq_nil_or_concat pre with rfl | ⟨pre, y, rfl⟩
      · simp [Request.step] at hstep
      · have hreceived : Request.received serde b (waitingAt ns metricName y) timestamp
            (.ok (valueList metricName (valueI64 value) timestamp')) =
              .answered (.ok (valueList metricName (valueI64 value) timestamp')) := by
          simp only [Request.received, decode_valueList]
        simp only [Request.step, List.concat_eq_append, List.map_append, List.map_cons,
          List.map_nil, List.reverse_append, List.reverse_cons, List.reverse_nil, List.nil_append,
          List.singleton_append, hreceived] at hstep
        obtain rfl := Option.some.inj hstep
        have hpath' : chain = pre ++ y :: x :: post := by simp [hpath]
        exact .returning timestamp' hpath'
  · exact hevent.elim

lemma OnItsWay.path {r : String} {es : List (RequestEvent V)}
    (h : OnItsWay b ns metricName value chain n q) (hns : ns ≠ "")
    (hkey : requestedKey ns metricName = .ok key)
    (hsurvives : SurvivesPasting ns.toList metricName.toList) (hwritten : WrittenByManagers b)
    (hchain : Answers parseAuthority resolve b key value chain)
    (hpath : (requestSystem serde parseAuthority resolve r ns metricName).Path Undisturbed
      q es q') :
    OnItsWay b ns metricName value chain (n + es.length) q' := by
  induction hpath generalizing n with
  | nil => exact h
  | @cons q₀ q₁ q' event es hevent hstep hpath ih =>
      have hq := ih (h.step hns hkey hsurvives hwritten hchain hevent hstep)
      rwa [Nat.add_assoc, Nat.add_comm 1, ← List.length_cons] at hq

variable (serde) in
/-- A request on its way is not stuck before it has arrived back. -/
lemma OnItsWay.goesOn (h : OnItsWay b ns metricName value chain n q)
    (hchain : Answers parseAuthority resolve b key value chain) :
    (∃ event, Undisturbed q event ∧
      (Request.step parseAuthority resolve serde q event).isSome) ∨
    ∃ r timestamp, chain.head? = some r ∧ q.calls = [⟨r, ns, metricName,
      .answered (.ok (valueList metricName (valueI64 value) timestamp))⟩] := by
  cases h with
  | @going pre post x hpath =>
    refine Or.inl ⟨.handle "", trivial, ?_⟩
    rcases post with _ | ⟨y, post⟩
    · obtain ⟨po, hpo, -⟩ := hchain.last x (by simp [hpath])
      simp [Request.step, hpo]
    · obtain ⟨p, flag, hp, -⟩ : Forwards b.cluster key.ns key.epaName x y :=
        (List.isChain_append_cons_cons.1 (hpath ▸ hchain.isChain)).2.1
      simp [Request.step, hp]
  | @returning pre post x timestamp hpath =>
    rcases List.eq_nil_or_concat pre with rfl | ⟨pre, y, rfl⟩
    · exact Or.inr ⟨x, timestamp, by simp [hpath], by simp⟩
    · refine Or.inl ⟨.receive "", trivial, ?_⟩
      simp [Request.step, Request.resume, waitingAt]

end Chain

/-! ### Asking any replica -/

section Main

variable {V β : Type} [Field V] [LinearOrder V] [FloorRing V]
  {serde : Serde} {parseAuthority : List Char → Option β} {resolve : String → Option String}

/-- **It makes no difference which replica is asked.** There is one replica that does not forward,
such that a request to any live replica that does not serve the EPA takes at most five steps, can
always go on until it is answered, and is answered with the value that this replica has. -/
theorem asked_anywhere {b : Backends V} {view : ReplicaSets} {ns metricName owner : String}
    {key : CacheKey} (hns : ns ≠ "") (hkey : requestedKey ns metricName = .ok key)
    (hsurvives : SurvivesPasting ns.toList metricName.toList) (hwritten : WrittenByManagers b)
    (hview : b.cluster.SharesView view) (hw : DistinctWeights view key.ns key.epaName)
    (hno : ¬ OrphanedHandover b.cluster view key.ns key.epaName)
    (hlive : ∀ id ∈ view.getAllReplicas, (b.cluster.procs id).isSome)
    (hreached : ∀ id ∈ view.getAllReplicas, Reached parseAuthority resolve b id)
    (howner : getEpaOwner view key.ns key.epaName = some owner) :
    ∃ o po, b.cluster.procs o = some po ∧
      (∀ r, ¬ Forwards b.cluster key.ns key.epaName o r) ∧
      ∀ value, b.decide o po key = .answer (.ok value) →
        ∀ r p, b.cluster.procs r = some p →
          shouldServeEpa r p.sets b.cluster.now key.ns key.epaName p.state = false →
          ∀ es q, (requestSystem serde parseAuthority resolve r ns metricName).Path Undisturbed
              ⟨b, [], [⟨r, ns, metricName, .arrived⟩]⟩ es q →
            es.length ≤ 5 ∧
            ((∃ event, Undisturbed q event ∧
                (Request.step parseAuthority resolve serde q event).isSome) ∨
              ∃ timestamp, q.calls = [⟨r, ns, metricName,
                .answered (.ok (valueList metricName (valueI64 value) timestamp))⟩]) := by
  obtain ⟨o, po, hpo, hends, hchains⟩ := exists_inCharge hview hw hno hlive howner
  refine ⟨o, po, hpo, hends, fun value hvalue r p hp hserve es q hpath => ?_⟩
  obtain ⟨chain, hhead, hlast, hchain, hlength⟩ := hchains r p hp hserve
  have hanswers : Answers parseAuthority resolve b key value chain := by
    refine ⟨hchain, fun r r' h => hreached r' (mem_all_of_forwards hview hw h), ?_⟩
    rintro o' ho'
    obtain rfl := Option.some.inj (hlast.symm.trans ho')
    exact ⟨po, hpo, hvalue⟩
  obtain ⟨rest, rfl⟩ : ∃ rest, chain = r :: rest := by
    rcases chain with _ | ⟨r', rest⟩
    · cases hhead
    · exact ⟨rest, by rw [Option.some.inj hhead]⟩
  have hq := OnItsWay.path (.going (List.nil_append _).symm) hns hkey hsurvives hwritten hanswers
    hpath
  refine ⟨?_, (hq.goesOn serde hanswers).imp id ?_⟩
  · have := hq.lt_two_mul
    simp only [List.length_nil] at this
    omega
  · rintro ⟨r', timestamp, hr', hcalls⟩
    obtain rfl := Option.some.inj hr'
    exact ⟨timestamp, hcalls⟩

end Main

/-- A request at `replica-a`, which `replica-b` answers. -/
theorem asked_anywhere_pair :
    ∃ q, pairSystem.Path Undisturbed pairRequest pairRun q ∧ pairRun.length ≤ 5 ∧
      ((∃ event, Undisturbed q event ∧ (pairSystem.step q event).isSome) ∨
        ∃ timestamp, q.calls = [⟨"replica-a", "default", "web-default-queue_depth",
          .answered (.ok (valueList "web-default-queue_depth" 3 timestamp))⟩]) := by
  have hlive : ∀ id p, pairBackends.cluster.procs id = some p →
      id = "replica-a" ∨ id = "replica-b" := by
    intro id p hp
    by_contra hid
    obtain ⟨ha, hb⟩ := not_or.1 hid
    simp [pairBackends, ha, hb] at hp
  have hview : pairBackends.cluster.SharesView pairView := by
    intro id p hp
    rcases hlive id p hp with rfl | rfl
    · obtain rfl := Option.some.inj hp
      decide
    · obtain rfl := Option.some.inj hp
      decide
  have howner : getEpaOwner pairView "default" "web" = some "replica-b" := by decide +kernel
  have hno : ¬ OrphanedHandover pairBackends.cluster pairView "default" "web" := by
    rintro ⟨o, p, ho, hprev, hne, -⟩
    have hsame : getPreviousEpaOwner pairView "default" "web" = some "replica-b" := by
      decide +kernel
    rw [howner] at ho
    rw [hsame] at hprev
    exact hne ((Option.some.inj hprev).symm.trans (Option.some.inj ho))
  have hreached : ∀ id ∈ pairView.getAllReplicas, Reached some pairResolve pairBackends id := by
    rintro id hid
    rcases List.mem_pair.1 hid with rfl | rfl
    · exact ⟨"10.0.0.1:9443", by decide +kernel, rfl, by decide⟩
    · exact ⟨"10.0.0.1:8443", by decide +kernel, rfl, by decide⟩
  have hkey : requestedKey "default" "web-default-queue_depth" =
      .ok ⟨"default", "web", "queue_depth"⟩ := rfl
  obtain ⟨o, po, hpo, hends, hanswers⟩ := asked_anywhere (by decide) hkey
    queueDepth_survivesPasting pairBackends_written hview (by decide +kernel) hno
    (by decide +kernel) hreached howner
  rcases hlive o po hpo with rfl | rfl
  · have hfwd : Forwards pairBackends.cluster "default" "web" "replica-a" "replica-b" :=
      ⟨_, false, rfl, by decide +kernel⟩
    exact absurd hfwd (hends _)
  · obtain rfl := Option.some.inj hpo
    obtain ⟨q, hq, -⟩ := (Option.any_eq_true _ _).1 pairRun_exec
    have hpath : pairSystem.Path Undisturbed pairRequest pairRun q :=
      (System.exec_eq_some_iff.1 hq).restrict (by simp [pairRun, Undisturbed])
    have hvalue : valueI64 (7 / 2 : ℚ) = 3 := by decide +kernel
    rw [← hvalue]
    exact ⟨q, hpath, hanswers (7 / 2) (by decide +kernel) "replica-a" _ rfl (by decide +kernel)
      pairRun q hpath⟩

end ExternalPodAutoscaler.Webhook
