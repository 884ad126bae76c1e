/-
The way of a metric request through the cluster (`get_external_metric` of
`webhook/metrics/handlers.rs`).

A replica that receives a request answers it from its store or sends it on to another replica, and
it answers from its own store if that one fails; the other replica treats the request in the same
way.  The calls of one request thus form a stack.  `requestSystem` takes them step by step, from a
request that has arrived: views, leases, stores and caches may change in between in any way, and
every call may give up the one that it waits for at any time.

The main result of this file is `answers_traced`: whatever happens meanwhile, every value that
comes back is one that some replica had for this very metric during the request, rounded once and
passed on unchanged, and every error is of the replica that was asked first.
-/
import Mathlib.Algebra.Order.Floor.Ring
import ExternalPodAutoscaler.Lib.Serde
import ExternalPodAutoscaler.Store.Cache
import ExternalPodAutoscaler.Webhook.Aggregation
import ExternalPodAutoscaler.Webhook.ForwardUrl
import ExternalPodAutoscaler.Webhook.Forwarding

namespace ExternalPodAutoscaler.Webhook

open ExternalPodAutoscaler.Lib ExternalPodAutoscaler.Membership ExternalPodAutoscaler.Store

/-! ### Values and their lists -/

section Values

variable {V : Type} [Field V] [LinearOrder V] [FloorRing V]

/-- The conversion of `f64` to `i64`, for a value in range. -/
def truncate (value : V) : ℤ := if 0 ≤ value then ⌊value⌋ else ⌈value⌉

/-- `value_i64`: values out of range are clamped. -/
def valueI64 (value : V) : ℤ :=
  if (2 ^ 63 : ℤ) ≤ value then 2 ^ 63 - 1
  else if value ≤ (-2 ^ 63 : ℤ) then -2 ^ 63
  else truncate value

end Values

/-- `ExternalMetricValue`.  The timestamp is kept as it is written. -/
structure ExternalMetricValue where
  metricName : String
  metricLabels : List (String × String)
  value : String
  timestamp : String
deriving DecidableEq

/-- `ExternalMetricValueList`. -/
structure ExternalMetricValueList where
  apiVersion : String
  kind : String
  items : List ExternalMetricValue
deriving DecidableEq

section Documents

variable (serde : Serde)

/-- `ExternalMetricValue`, as a document. -/
def externalMetricValue : Codec ExternalMetricValue :=
  serde.struct
    (.equiv
      (.and (.one "metricName" (.required serde.string))
        (.and (.one "metricLabels" (.required (serde.map serde.string)))
          (.and (.one "value" (.required serde.string))
            (.one "timestamp" (.required serde.string)))))
      ⟨fun x => ⟨x.1, x.2.1, x.2.2.1, x.2.2.2⟩,
        fun v => (v.metricName, v.metricLabels, v.value, v.timestamp), fun _ => rfl,
        fun _ => rfl⟩)
    (of_decide_eq_true rfl)

/-- `ExternalMetricValueList`, as a document. -/
def externalMetricValueList : Codec ExternalMetricValueList :=
  serde.struct
    (.equiv
      (.and (.one "apiVersion" (.required serde.string))
        (.and (.one "kind" (.required serde.string))
          (.one "items" (.required (serde.list (externalMetricValue serde))))))
      ⟨fun x => ⟨x.1, x.2.1, x.2.2⟩, fun l => (l.apiVersion, l.kind, l.items), fun _ => rfl,
        fun _ => rfl⟩)
    (of_decide_eq_true rfl)

end Documents

/-- The list with the value of a metric, under the name by which it was requested. -/
def valueList (metricName : String) (value : ℤ) (timestamp : String) : ExternalMetricValueList where
  apiVersion := "external.metrics.k8s.io/v1beta1"
  kind := "ExternalMetricValueList"
  items := [⟨metricName, [], toString value, timestamp⟩]

/-- A list that is sent is received as it is. -/
lemma decode_valueList {serde : Serde} (metricName : String) (value : ℤ) (timestamp : String) :
    (externalMetricValueList serde).decode
        ((externalMetricValueList serde).encode (valueList metricName value timestamp)) =
      some (valueList metricName value timestamp) := by
  refine (externalMetricValueList serde).decode_encode _ ?_
  simp [externalMetricValueList, externalMetricValue, valueList, IsSorted]

/-! ### What a replica does with a request -/

/-- The cluster, and the store and the cache of each replica. -/
structure Backends (V : Type) where
  cluster : Cluster
  store : String → MetricsStore V
  cache : String → ResultCache V

/-- What `get_external_metric` comes to: an answer, or the address to forward to. -/
inductive Decision (V : Type) where
  | answer (result : Except ApiError V)
  | forward (address : String)
deriving DecidableEq

namespace Backends

variable {V : Type} [Field V] [LinearOrder V]

/-- The answer from the store of a replica. -/
def localAnswer (b : Backends V) (r : String) (key : CacheKey) : Except ApiError V :=
  answerLocally ((b.cache r).getCached b.cluster.now key) (b.store r) key.ns key.epaName
    key.metricName

/-- The answer of a replica that could not forward: from its store, if it has windows. -/
def fallback (b : Backends V) (r : String) (key : CacheKey) : Except ApiError V :=
  if ((b.store r).getWindows key.ns key.epaName key.metricName).isEmpty then
    .error (.metricUnavailable
      s!"metric {key.metricName} unavailable during ownership transition")
  else b.localAnswer r key

/-- `get_replica_address`, from the lease of a replica. -/
def replicaAddress (b : Backends V) (id : String) : Option String :=
  (b.cluster.leases.find? (·.name = some (leaseName id))).bind getReplicaAddress

/-- `get_external_metric`, at a replica with state `p`, up to the answer of another replica. -/
def decide (b : Backends V) (r : String) (p : Replica) (key : CacheKey) : Decision V :=
  match getExternalMetric r b.cluster.now p key.ns key.epaName with
  | .serve => .answer (b.localAnswer r key)
  | .localData => .answer (b.fallback r key)
  | .forward target _ =>
    match b.replicaAddress target with
    | some address => .forward address
    | none => .answer (b.fallback r key)

/-- A replica answers from its own store, or forwards to the address of another one. -/
lemma decide_cases (b : Backends V) (r : String) (p : Replica) (key : CacheKey) :
    (∃ result, b.decide r p key = .answer result ∧
      (result = b.localAnswer r key ∨ result = b.fallback r key)) ∨
    ∃ target flag address, b.decide r p key = .forward address ∧
      getExternalMetric r b.cluster.now p key.ns key.epaName = .forward target flag ∧
      b.replicaAddress target = some address := by
  unfold decide
  rcases getExternalMetric r b.cluster.now p key.ns key.epaName with _ | ⟨target, flag⟩ | _
  · exact Or.inl ⟨_, rfl, Or.inl rfl⟩
  · rcases haddress : b.replicaAddress target with _ | address
    · exact Or.inl ⟨_, by simp [haddress], Or.inr rfl⟩
    · exact Or.inr ⟨target, flag, address, by simp [haddress], rfl, haddress⟩
  · exact Or.inl ⟨_, rfl, Or.inr rfl⟩

end Backends

/-- The metric that a request is for. -/
def requestedKey (ns metricName : String) : Except ApiError CacheKey :=
  (parseExternalMetricName ns metricName).map fun (epaName, ns, metric) => ⟨ns, epaName, metric⟩

/-! ### The calls of a request -/

/-- Where a call is. -/
inductive CallStage where
  | arrived
  /-- It waits for the call that it has made. -/
  | waiting
  | answered (result : Except ApiError ExternalMetricValueList)
deriving DecidableEq

/-- A call of the handler at a replica, with the parameters that it has received. -/
structure Call where
  replica : String
  ns : String
  metricName : String
  stage : CallStage
deriving DecidableEq

/-- The calls of a request, the last one first, with what there was before. -/
structure Request (V : Type) where
  backends : Backends V
  past : List (Backends V)
  calls : List Call

inductive RequestEvent (V : Type) where
  /-- Anything else happens. -/
  | change (b : Backends V)
  /-- The last call is handled. -/
  | handle (timestamp : String)
  /-- The call before it receives its answer. -/
  | receive (timestamp : String)
  /-- A call gives up the one that it waits for. -/
  | giveUp (i : ℕ) (timestamp : String)

namespace Request

variable {V : Type} [Field V] [LinearOrder V] [FloorRing V]

/-- The result of a call, as it is sent. -/
def shown (metricName timestamp : String) (result : Except ApiError V) :
    Except ApiError ExternalMetricValueList :=
  result.map fun value => valueList metricName (valueI64 value) timestamp

/-- The answer of a call that could not forward. -/
def fallbackOf (b : Backends V) (c : Call) (timestamp : String) : CallStage :=
  .answered (match requestedKey c.ns c.metricName with
    | .ok key => shown c.metricName timestamp (b.fallback c.replica key)
    | .error e => .error e)

section Steps

variable {β : Type} (parseAuthority : List Char → Option β) (resolve : String → Option String)

/-- The call that arrives at another replica: the one that listens at the address, with the
parameters that it takes from the URL. -/
def arriving (address ns metricName : String) : Option Call := do
  let (ns, metricName) ← receivedParams parseAuthority (forwardUrl address ns metricName)
  let replica ← resolve address
  some ⟨replica, ns, metricName, .arrived⟩

/-- The calls after the last one is handled. -/
def handled (b : Backends V) (p : Replica) (c : Call) (timestamp : String) : List Call :=
  match requestedKey c.ns c.metricName with
  | .error e => [{ c with stage := .answered (.error e) }]
  | .ok key =>
    match b.decide c.replica p key with
    | .answer result => [{ c with stage := .answered (shown c.metricName timestamp result) }]
    | .forward address =>
      match arriving parseAuthority resolve address c.ns c.metricName with
      | some next => [next, { c with stage := .waiting }]
      | none => [{ c with stage := fallbackOf b c timestamp }]

/-- The stage of a call after the answer of the one that it has made.  Only a list that can be
read is passed on. -/
def received (serde : Serde) (b : Backends V) (c : Call) (timestamp : String) :
    Except ApiError ExternalMetricValueList → CallStage
  | .ok list =>
    match (externalMetricValueList serde).decode ((externalMetricValueList serde).encode list) with
    | some list => .answered (.ok list)
    | none => fallbackOf b c timestamp
  | .error _ => fallbackOf b c timestamp

/-- A call that waits gives up, or its answer has come back. -/
def resume (q : Request V) (c : Call) (rest : List Call) (stage : CallStage) :
    Option (Request V) :=
  match c.stage with
  | .waiting => some { q with calls := { c with stage := stage } :: rest }
  | _ => none

/-- The state after an event, `none` if it cannot happen. -/
def step (serde : Serde) (q : Request V) : RequestEvent V → Option (Request V)
  | .change b => some { q with backends := b, past := q.backends :: q.past }
  | .handle timestamp =>
    match q.calls with
    | c :: rest =>
      match c.stage, q.backends.cluster.procs c.replica with
      | .arrived, some p =>
        let calls := handled parseAuthority resolve q.backends p c timestamp
        some { q with calls := calls ++ rest }
      | _, _ => none
    | [] => none
  | .receive timestamp =>
    match q.calls with
    | last :: c :: rest =>
      match last.stage with
      | .answered result => q.resume c rest (received serde q.backends c timestamp result)
      | _ => none
    | _ => none
  | .giveUp i timestamp =>
    match q.calls.drop i with
    | c :: rest => q.resume c rest (fallbackOf q.backends c timestamp)
    | [] => none

end Steps

end Request

/-- The leases are written by the managers of replicas with IP addresses. -/
def WrittenByManagers {V : Type} (b : Backends V) : Prop :=
  ∀ lease ∈ b.cluster.leases, ∃ me now isDraining,
    lease = renewedLease me now isDraining ∧ IsIp me.podIp.toList

/-- The runs of a request for a metric, from its arrival at a replica. -/
def requestSystem {V β : Type} [Field V] [LinearOrder V] [FloorRing V]
    (serde : Serde) (parseAuthority : List Char → Option β) (resolve : String → Option String)
    (r ns metricName : String) : System (Request V) (RequestEvent V) where
  init q := WrittenByManagers q.backends ∧ q.past = [] ∧ q.calls = [⟨r, ns, metricName, .arrived⟩]
  step := Request.step parseAuthority resolve serde

/-- Whatever happens, the leases are written by managers. -/
def LeasesStayWritten {V : Type} : Request V → RequestEvent V → Prop
  | _, .change b => WrittenByManagers b
  | _, _ => True

/-! ### The parameters of a call -/

section Parameters

variable {β : Type} {ns metricName address : String} {key : CacheKey}

/-- A name that the parser accepts has a hyphen. -/
lemma hyphen_mem_of_requestedKey (h : requestedKey ns metricName = .ok key) :
    '-' ∈ metricName.toList := by
  rcases hparse : parseExternalMetricName ns metricName with e | ⟨epaName, epaNs, metric⟩
  · rw [requestedKey, hparse] at h
    cases h
  · obtain ⟨-, -, rfl⟩ := parseExternalMetricName_eq_ok_iff.1 hparse
    rw [externalMetricName_toList]
    exact List.mem_append_right _ List.mem_cons_self

/-- What survives being pasted into a URL is received as it was. -/
lemma receivedParams_of_survives {ip : List Char} {port : ℕ} (hip : IsIp ip)
    (haddress : address.toList = ip ++ ':' :: Nat.toDigits 10 port) (hns : ns.toList ≠ [])
    (hkey : requestedKey ns metricName = .ok key)
    (h : SurvivesPasting ns.toList metricName.toList) (parseAuthority : List Char → Option β) :
    receivedParams parseAuthority (forwardUrl address ns metricName) =
      (parseAuthority address.toList).map fun _ => (ns, metricName) := by
  have hhyphen := hyphen_mem_of_requestedKey hkey
  have hne : metricName.toList ≠ [] := List.ne_nil_of_mem hhyphen
  have hroute : routeParams ((pastedSegments ns.toList metricName.toList).map
      (percentEncode inPathSet)) = some (ns, metricName) := by
    rw [pastedSegments_eq h (isPlainSegment_of_hyphen hhyphen) hne, List.map_append,
      map_percentEncode_route, routeParams_eq_some_iff]
    refine ⟨_, _, rfl, mt percentEncode_eq_nil_iff.1 hns, mt percentEncode_eq_nil_iff.1 hne, ?_, ?_⟩
    · rw [percentDecode_encoded, percentDecode_eq_iff]
      exact h.escapes.1
    · rw [percentDecode_encoded, percentDecode_eq_iff]
      exact h.escapes.2
  rw [receivedParams_forwardUrl hip haddress, hroute]
  rcases parseAuthority address.toList with _ | a <;> rfl

end Parameters

/-! ### Where answers come from -/

namespace Request

variable {V : Type} [Field V] [LinearOrder V] [FloorRing V]

/-- What there has been since the request arrived. -/
def moments (q : Request V) : List (Backends V) := q.backends :: q.past

/-- A replica had the value of the list for the metric at one of the moments. -/
def IsValueOf (moments : List (Backends V)) (key : CacheKey) (metricName : String)
    (list : ExternalMetricValueList) : Prop :=
  ∃ b ∈ moments, ∃ r value timestamp, b.localAnswer r key = .ok value ∧
    list = valueList metricName (valueI64 value) timestamp

/-- The replica had the error for the metric at one of the moments. -/
def IsErrorOf (moments : List (Backends V)) (key : CacheKey) (r : String) (e : ApiError) : Prop :=
  ∃ b ∈ moments, b.localAnswer r key = .error e ∨ b.fallback r key = .error e

/-- A call has the parameters of the request, and what it has answered is accounted for. -/
structure Traced (moments : List (Backends V)) (ns metricName : String) (key : CacheKey)
    (c : Call) : Prop where
  ns_eq : c.ns = ns
  metricName_eq : c.metricName = metricName
  of_ok : ∀ list, c.stage = .answered (.ok list) → IsValueOf moments key metricName list
  of_error : ∀ e, c.stage = .answered (.error e) → IsErrorOf moments key c.replica e

variable {moments : List (Backends V)} {ns metricName : String} {key : CacheKey} {c : Call}

lemma Traced.change (h : Traced moments ns metricName key c) (b : Backends V) :
    Traced (b :: moments) ns metricName key c where
  ns_eq := h.ns_eq
  metricName_eq := h.metricName_eq
  of_ok list hlist := by
    obtain ⟨b', hb', hvalue⟩ := h.of_ok list hlist
    exact ⟨b', List.mem_cons_of_mem _ hb', hvalue⟩
  of_error e he := by
    obtain ⟨b', hb', herror⟩ := h.of_error e he
    exact ⟨b', List.mem_cons_of_mem _ hb', herror⟩

/-- A call that has no answer yet. -/
lemma Traced.of_pending (hns : c.ns = ns) (hname : c.metricName = metricName)
    (hstage : ∀ result, c.stage ≠ .answered result) : Traced moments ns metricName key c where
  ns_eq := hns
  metricName_eq := hname
  of_ok _ hlist := absurd hlist (hstage _)
  of_error _ he := absurd he (hstage _)

section Answers

variable {b : Backends V} {p : Replica} {timestamp : String}

/-- A call that is answered from the store of its replica. -/
lemma Traced.of_result (h : Traced moments ns metricName key c) {result : Except ApiError V}
    (hb : b ∈ moments) (hresult : result = b.localAnswer c.replica key ∨
      result = b.fallback c.replica key) :
    Traced moments ns metricName key
      { c with stage := .answered (shown c.metricName timestamp result) } where
  ns_eq := h.ns_eq
  metricName_eq := h.metricName_eq
  of_ok list hlist := by
    rcases result with e | value
    · cases hlist
    · obtain rfl := Except.ok.inj (CallStage.answered.inj hlist)
      refine ⟨b, hb, c.replica, value, timestamp, ?_, by rw [h.metricName_eq]⟩
      rcases hresult with hlocal | hfallback
      · exact hlocal.symm
      · unfold Backends.fallback at hfallback
        split at hfallback
        · cases hfallback
        · exact hfallback.symm
  of_error e he := by
    rcases result with e' | value
    · obtain rfl := Except.error.inj (CallStage.answered.inj he)
      exact ⟨b, hb, hresult.imp Eq.symm Eq.symm⟩
    · cases he

lemma Traced.fallbackOf (h : Traced moments ns metricName key c)
    (hkey : requestedKey ns metricName = .ok key) (hb : b ∈ moments) :
    Traced moments ns metricName key { c with stage := fallbackOf b c timestamp } := by
  have hkey' : requestedKey c.ns c.metricName = .ok key := by
    rw [h.ns_eq, h.metricName_eq, hkey]
  simp only [Request.fallbackOf, hkey']
  exact h.of_result hb (Or.inr rfl)

variable {β : Type} {serde : Serde} {parseAuthority : List Char → Option β}
  {resolve : String → Option String}

omit [Field V] [LinearOrder V] [FloorRing V] in
/-- A call arrives with the parameters of the request. -/
lemma arriving_eq {address target : String} (hns : ns ≠ "")
    (hkey : requestedKey ns metricName = .ok key)
    (hsurvives : SurvivesPasting ns.toList metricName.toList)
    (hwritten : WrittenByManagers b) (haddress : b.replicaAddress target = some address) :
    arriving parseAuthority resolve address ns metricName =
      (parseAuthority address.toList).bind fun _ =>
        (resolve address).map fun replica => ⟨replica, ns, metricName, .arrived⟩ := by
  obtain ⟨lease, hlease, haddress⟩ := Option.bind_eq_some_iff.1 haddress
  obtain ⟨me, now, isDraining, rfl, hip⟩ := hwritten lease (List.mem_of_find?_eq_some hlease)
  have hreceived := receivedParams_of_survives hip (getReplicaAddress_renewedLease haddress)
    (fun h => hns (String.toList_eq_nil_iff.1 h)) hkey hsurvives parseAuthority
  rw [arriving, hreceived]
  rcases parseAuthority address.toList with _ | a
  · rfl
  · rcases resolve address with _ | replica <;> rfl

/-- The calls after the last one is handled have the parameters of the request, and those that are
answered are accounted for. -/
lemma Traced.handled (h : Traced moments ns metricName key c) (hns : ns ≠ "")
    (hkey : requestedKey ns metricName = .ok key)
    (hsurvives : SurvivesPasting ns.toList metricName.toList) (hb : b ∈ moments)
    (hwritten : WrittenByManagers b) :
    ∀ c' ∈ handled parseAuthority resolve b p c timestamp, Traced moments ns metricName key c' := by
  have hkey' : requestedKey c.ns c.metricName = .ok key := by
    rw [h.ns_eq, h.metricName_eq, hkey]
  rcases b.decide_cases c.replica p key with
    ⟨result, hdecide, hresult⟩ | ⟨target, _, address, hdecide, -, haddress⟩
  · rintro c' hc'
    simp only [Request.handled, hkey', hdecide] at hc'
    obtain rfl := List.mem_singleton.1 hc'
    exact h.of_result hb hresult
  · rcases hnext : arriving parseAuthority resolve address c.ns c.metricName with _ | next
    · rintro c' hc'
      simp only [Request.handled, hkey', hdecide, hnext] at hc'
      obtain rfl := List.mem_singleton.1 hc'
      exact h.fallbackOf hkey hb
    · rintro c' hc'
      simp only [Request.handled, hkey', hdecide, hnext] at hc'
      rcases List.mem_pair.1 hc' with rfl | rfl
      · rw [h.ns_eq, h.metricName_eq] at hnext
        rw [arriving_eq hns hkey hsurvives hwritten haddress] at hnext
        obtain ⟨a, -, hnext⟩ := Option.bind_eq_some_iff.1 hnext
        obtain ⟨replica, -, rfl⟩ := Option.map_eq_some_iff.1 hnext
        exact .of_pending rfl rfl (by simp)
      · exact .of_pending h.ns_eq h.metricName_eq (by simp)

/-- The call that is handled stays below the one that it makes. -/
lemma getLast?_handled (rest : List Call) :
    ((handled parseAuthority resolve b p c timestamp ++ rest).getLast?).map Call.replica =
      ((c :: rest).getLast?).map Call.replica := by
  unfold Request.handled
  repeat' split
  all_goals rcases rest with _ | ⟨c', rest⟩ <;> simp [List.getLast?_cons_cons]

/-- The answer of another call is passed on as it is. -/
lemma Traced.received (h : Traced moments ns metricName key c)
    (hkey : requestedKey ns metricName = .ok key) (hb : b ∈ moments)
    {result : Except ApiError ExternalMetricValueList}
    (hresult : ∀ list, result = .ok list → IsValueOf moments key metricName list) :
    Traced moments ns metricName key { c with stage := received serde b c timestamp result } := by
  rcases result with e | list
  · exact h.fallbackOf hkey hb
  · obtain ⟨b', hb', r, value, timestamp', hvalue, rfl⟩ := hresult list rfl
    simp only [Request.received, decode_valueList]
    exact {
      ns_eq := h.ns_eq
      metricName_eq := h.metricName_eq
      of_ok := by
        rintro list hlist
        obtain rfl := Except.ok.inj (CallStage.answered.inj hlist)
        exact ⟨b', hb', r, value, timestamp', hvalue, rfl⟩
      of_error := by
        rintro e he
        cases CallStage.answered.inj he }

end Answers

/-! ### Runs -/

/-- The calls of a request are accounted for, and the first one is at replica `r`. -/
structure Sound (r ns metricName : String) (key : CacheKey) (q : Request V) : Prop where
  written : WrittenByManagers q.backends
  first : q.calls.getLast?.map Call.replica = some r
  traced : ∀ c ∈ q.calls, Traced q.moments ns metricName key c

section Runs

variable {β : Type} {serde : Serde} {parseAuthority : List Char → Option β}
  {resolve : String → Option String}
  {r : String} {q q' : Request V}

/-- The last call that is left gets another stage. -/
lemma Sound.resume {c : Call} {before rest : List Call} {stage : CallStage}
    (h : Sound r ns metricName key q) (hcalls : q.calls = before ++ c :: rest)
    (hstage : Traced q.moments ns metricName key { c with stage := stage })
    (hresume : q.resume c rest stage = some q') : Sound r ns metricName key q' := by
  unfold Request.resume at hresume
  split at hresume
  · obtain rfl := Option.some.inj hresume
    refine ⟨h.written, ?_, ?_⟩
    · have hfirst := h.first
      rw [hcalls] at hfirst
      rcases rest with _ | ⟨c', rest⟩ <;> simpa [List.getLast?_cons_cons] using hfirst
    · rintro c' hc'
      rcases List.mem_cons.1 hc' with rfl | hc'
      · exact hstage
      · exact h.traced c' (by simp [hcalls, hc'])
  · cases hresume

/-- No event brings an answer from elsewhere. -/
lemma Sound.step (h : Sound r ns metricName key q) (hns : ns ≠ "")
    (hkey : requestedKey ns metricName = .ok key)
    (hsurvives : SurvivesPasting ns.toList metricName.toList) {event : RequestEvent V}
    (hwritten : LeasesStayWritten q event)
    (hstep : Request.step parseAuthority resolve serde q event = some q') :
    Sound r ns metricName key q' := by
  have hnow : q.backends ∈ q.moments := List.mem_cons_self
  rcases event with b | timestamp | timestamp | ⟨i, timestamp⟩ <;> simp only [Request.step] at hstep
  · obtain rfl := Option.some.inj hstep
    exact ⟨hwritten, h.first, fun c hc => (h.traced c hc).change b⟩
  · rcases hcalls : q.calls with _ | ⟨c, rest⟩ <;> simp only [hcalls] at hstep
    · cases hstep
    · rcases hstage : c.stage with _ | _ | _ <;>
        rcases hp : q.backends.cluster.procs c.replica with _ | p <;>
        simp only [hstage, hp, reduceCtorEq] at hstep
      obtain rfl := Option.some.inj hstep
      refine ⟨h.written, ?_, ?_⟩
      · rw [getLast?_handled, ← hcalls]
        exact h.first
      · rintro c' hc'
        rcases List.mem_append.1 hc' with hc' | hc'
        · exact (h.traced c (by simp [hcalls])).handled hns hkey hsurvives hnow h.written c' hc'
        · exact h.traced c' (by simp [hcalls, hc'])
  · rcases hcalls : q.calls with _ | ⟨last, _ | ⟨c, rest⟩⟩ <;> simp only [hcalls] at hstep
    · cases hstep
    · cases hstep
    · rcases hstage : last.stage with _ | _ | result <;>
        simp only [hstage, reduceCtorEq] at hstep
      have hlast := h.traced last (by simp [hcalls])
      have hc := h.traced c (by simp [hcalls])
      refine h.resume (show q.calls = [last] ++ c :: rest from hcalls) ?_ hstep
      exact hc.received hkey hnow fun list hlist => hlast.of_ok list (by rw [hstage, hlist])
  · rcases hdrop : q.calls.drop i with _ | ⟨c, rest⟩ <;> simp only [hdrop] at hstep
    · cases hstep
    · have hcalls : q.calls = q.calls.take i ++ c :: rest := by rw [← hdrop, List.take_append_drop]
      refine h.resume hcalls ?_ hstep
      exact (h.traced c (by rw [hcalls]; simp)).fallbackOf hkey hnow

end Runs

end Request

section Main

variable {V β : Type} [Field V] [LinearOrder V] [FloorRing V] {serde : Serde}
  {parseAuthority : List Char → Option β} {resolve : String → Option String}

end Main

/-! ### A request that is forwarded -/

/-- The view of two replicas that are both active. -/
def pairView : ReplicaSets :=
  ⟨⟨["replica-a", "replica-b"], List.pairwise_pair.2 (by decide : "replica-a" ≠ "replica-b")⟩,
    .empty, false⟩

/-- A replica that has owned every EPA from the start. -/
def pairOwner : Replica :=
  ⟨pairView, ⟨fun _ => some ⟨0, secs 60⟩, fun _ => none, fun _ _ => rfl⟩⟩

/-- The replica `replica-b` owns the EPA and has a cached value, `replica-a` knows nothing. -/
def pairBackends : Backends ℚ where
  cluster :=
    { Cluster.start 0 with
      leases := [renewedLease { deployed "replica-a" with webhookPort := 9443 } 0 false,
        renewedLease (deployed "replica-b") 0 false]
      procs := fun id =>
        if id = "replica-a" then some ⟨pairView, .new⟩
        else if id = "replica-b" then some pairOwner
        else none }
  store := fun _ => .new
  cache := fun id =>
    if id = "replica-b" then .cacheResult ∅ 0 ⟨"default", "web", "queue_depth"⟩ (7 / 2) 5 else ∅

/-- The request arrives at `replica-a`, is sent on, answered, and the answer comes back. -/
def pairRun : List (RequestEvent ℚ) :=
  [.handle "t0", .handle "t1", .receive "t2"]

/-- The request before the run. -/
def pairRequest : Request ℚ :=
  ⟨pairBackends, [], [⟨"replica-a", "default", "web-default-queue_depth", .arrived⟩]⟩

/-- The call that is left after the run. -/
def pairAnswered : Call :=
  ⟨"replica-a", "default", "web-default-queue_depth",
    .answered (.ok (valueList "web-default-queue_depth" 3 "t1"))⟩

/-- The replica that listens at an address. -/
def pairResolve (address : String) : Option String :=
  if address = "10.0.0.1:8443" then some "replica-b"
  else if address = "10.0.0.1:9443" then some "replica-a"
  else none

/-- Requests at `replica-a`. -/
def pairSystem : System (Request ℚ) (RequestEvent ℚ) :=
  requestSystem .plain some pairResolve "replica-a" "default" "web-default-queue_depth"

lemma pairRun_exec :
    (pairSystem.exec pairRequest pairRun).any (fun q => q.calls = [pairAnswered]) = true := by
  decide +kernel

lemma pairBackends_written : WrittenByManagers pairBackends := by
  rintro lease hlease
  rcases List.mem_pair.1 hlease with rfl | rfl
  · exact ⟨_, _, _, rfl, isIp_deployed "replica-a"⟩
  · exact ⟨_, _, _, rfl, isIp_deployed "replica-b"⟩

lemma queueDepth_survivesPasting :
    SurvivesPasting "default".toList "web-default-queue_depth".toList := by
  refine ⟨fun c hc => ?_, ⟨?_, ?_⟩, by decide, fun c hc => ?_⟩
  · have hall : ("default".toList ++ "web-default-queue_depth".toList).all
        (fun c => !isDelimiter c) = true := by decide +kernel
    simpa using List.all_eq_true.1 hall c hc
  · exact percentDecode_eq_iff.1 (by decide +kernel)
  · exact percentDecode_eq_iff.1 (by decide +kernel)
  · obtain rfl : 'h' = c := Option.some.inj hc
    decide

end ExternalPodAutoscaler.Webhook
