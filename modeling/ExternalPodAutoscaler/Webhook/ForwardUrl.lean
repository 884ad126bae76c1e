/-
The URLs of forwarded requests (`webhook/metrics/handlers.rs`, `webhook/server.rs` and
`membership/manager.rs`).

The router takes the namespace and the name of a metric from the last two segments of the path of
a request and percent-decodes them.  To forward the request, `get_external_metric` puts both into
the URL of the peer as they are, and the peer takes them from there in the same way.

The main result of this file is `forwarding_preserves_iff`: the peer receives the same namespace
and the same name exactly if they survive being pasted into a URL, that is, if no character ends
or cuts a segment or is removed, no percent sign starts an escape, and the namespace is no dot
segment.  The length of the texts shows that nothing else can happen to give them back.
-/
import ExternalPodAutoscaler.Lib.Urls
import ExternalPodAutoscaler.Membership.Manager
import ExternalPodAutoscaler.Webhook.ExternalName

namespace ExternalPodAutoscaler.Webhook

open ExternalPodAutoscaler.Lib ExternalPodAutoscaler.Membership

/-! ### The route and the URL -/

/-- The segments of the route before its parameters. -/
def metricsRoute : List String :=
  ["apis", "external.metrics.k8s.io", "v1beta1", "namespaces"]

/-- The parameters that the router takes from the path of a request for a metric. -/
def routeParams : List (List Char) → Option (String × String)
  | [apis, group, version, namespaces, ns, metricName] =>
    if [apis, group, version, namespaces] = metricsRoute.map String.toList ∧
        ns ≠ [] ∧ metricName ≠ [] then
      (decodeText ns).bind fun ns => (decodeText metricName).map fun metricName => (ns, metricName)
    else none
  | _ => none

/-- `get_replica_address`, on the lease of the replica. -/
def getReplicaAddress (lease : Lease) : Option String :=
  lease.spec.bind LeaseSpec.holderIdentity

/-- The URL that `get_external_metric` forwards a request to. -/
def forwardUrl (ownerAddress ns metricName : String) : String :=
  s!"https://{ownerAddress}/apis/external.metrics.k8s.io/v1beta1/namespaces/{ns}/{metricName}"

/-- The parameters that the peer takes from the URL. -/
def receivedParams {β : Type} (parseAuthority : List Char → Option β) (url : String) :
    Option (String × String) :=
  (parseUrl parseAuthority url.toList).bind fun url => routeParams url.path

variable {β : Type} {parseAuthority : List Char → Option β} {ns metricName : String}
  {n m path : List Char} {segments : List (List Char)}

lemma routeParams_eq_some_iff : routeParams segments = some (ns, metricName) ↔
    ∃ n m, segments = metricsRoute.map String.toList ++ [n, m] ∧ n ≠ [] ∧ m ≠ [] ∧
      percentDecode n = utf8Bytes ns.toList ∧ percentDecode m = utf8Bytes metricName.toList := by
  constructor
  · intro h
    unfold routeParams at h
    split at h
    · rename_i apis group version namespaces n m
      split at h
      · rename_i hroute
        obtain ⟨ns', hns, hparams⟩ := Option.bind_eq_some_iff.1 h
        obtain ⟨metric', hmetric, heq⟩ := Option.map_eq_some_iff.1 hparams
        obtain ⟨rfl, rfl⟩ := Prod.mk.inj heq
        refine ⟨n, m, ?_, hroute.2.1, hroute.2.2, decodeText_eq_some_iff.1 hns,
          decodeText_eq_some_iff.1 hmetric⟩
        rw [← hroute.1]
        rfl
      · cases h
    · cases h
  · rintro ⟨n, m, rfl, hn, hm, hns, hmetric⟩
    rw [← decodeText_eq_some_iff] at hns hmetric
    show (if _ then _ else none) = _
    rw [if_pos ⟨rfl, hn, hm⟩, hns, hmetric]
    rfl

lemma ne_empty_of_routeParams (h : routeParams segments = some (ns, metricName)) :
    ns.toList ≠ [] := by
  obtain ⟨n, m, -, hn, -, hns, -⟩ := routeParams_eq_some_iff.1 h
  intro hempty
  rw [hempty] at hns
  exact hn (percentDecode_eq_nil_iff.1 hns)

lemma forwardUrl_toList (address ns metricName : String) :
    (forwardUrl address ns metricName).toList = "https".toList ++ "://".toList ++ address.toList ++
      '/' :: ("apis/external.metrics.k8s.io/v1beta1/namespaces/".toList ++
        (ns.toList ++ '/' :: metricName.toList)) := by
  show ("https://" ++ address ++ "/apis/external.metrics.k8s.io/v1beta1/namespaces/" ++ ns ++ "/" ++
    metricName).toList = _
  have hscheme : "https://".toList = "https".toList ++ "://".toList := rfl
  have hroute : "/apis/external.metrics.k8s.io/v1beta1/namespaces/".toList =
      '/' :: "apis/external.metrics.k8s.io/v1beta1/namespaces/".toList := rfl
  have hslash : "/".toList = ['/'] := rfl
  simp only [String.toList_append, hscheme, hroute, hslash, List.append_assoc, List.cons_append,
    List.nil_append]

/-! ### Pasted segments -/

/-- The segments of a path that two texts are pasted into. -/
def pastedSegments (n m : List Char) : List (List Char) :=
  resolveDots [] (metricsRoute.map String.toList ++
    (pathText (n ++ '/' :: m)).splitOnP isSeparator)

/-- The segments of the route are cut off before the parameters. -/
lemma splitOnP_route (t : List Char) :
    ("apis/external.metrics.k8s.io/v1beta1/namespaces/".toList ++ t).splitOnP isSeparator =
      metricsRoute.map String.toList ++ t.splitOnP isSeparator := by
  have hslash : "apis/external.metrics.k8s.io/v1beta1/namespaces/".toList =
      "apis/external.metrics.k8s.io/v1beta1/namespaces".toList ++ ['/'] := by decide +kernel
  have hroute : "apis/external.metrics.k8s.io/v1beta1/namespaces".toList.splitOnP isSeparator =
      metricsRoute.map String.toList := by decide +kernel
  rw [hslash, List.append_assoc, List.singleton_append, List.splitOnP_append_cons _ _ rfl, hroute]

lemma receivedParams_forwardUrl {address : String} {ip : List Char} {port : ℕ} (hip : IsIp ip)
    (haddress : address.toList = ip ++ ':' :: Nat.toDigits 10 port) (ns metricName : String) :
    receivedParams parseAuthority (forwardUrl address ns metricName) =
      (parseAuthority address.toList).bind fun _ => routeParams
        ((pastedSegments ns.toList metricName.toList).map (percentEncode inPathSet)) := by
  have hplain : ("apis/external.metrics.k8s.io/v1beta1/namespaces/".toList.all fun c =>
      !isC0OrSpace c && !endsPath c) = true := by decide +kernel
  have hplain' : ∀ c ∈ "apis/external.metrics.k8s.io/v1beta1/namespaces/".toList,
      isC0OrSpace c = false ∧ endsPath c = false := by
    simpa only [List.all_eq_true, Bool.and_eq_true, Bool.not_eq_true'] using hplain
  rw [receivedParams, forwardUrl_toList, haddress,
    parseUrl_ip parseAuthority (List.mem_pair.2 (Or.inr rfl)) hip, pathText_append hplain',
    splitOnP_route]
  rcases parseAuthority (ip ++ ':' :: Nat.toDigits 10 port) with _ | a
  · rfl
  · rfl

/-- A character that ends or cuts a segment, or is removed. -/
def isDelimiter (c : Char) : Bool := isSeparator c || endsPath c || isTabOrNewline c

/-- Two texts come back from the end of a URL that they are pasted into. -/
structure SurvivesPasting (n m : List Char) : Prop where
  delimiters : ∀ c ∈ n ++ m, isDelimiter c = false
  escapes : ¬ HasEscape n ∧ ¬ HasEscape m
  plain : IsPlainSegment n
  last : ∀ c, m.getLast? = some c → isC0OrSpace c = false

/-- A name of a metric has a hyphen, and is thus no dot segment. -/
lemma isPlainSegment_of_hyphen (h : '-' ∈ m) : IsPlainSegment m := by
  have hlower : '-' ∈ m.map Char.toLower := List.mem_map.2 ⟨'-', h, rfl⟩
  have hdots : ∀ dots ∈ ["..".toList, ".%2e".toList, "%2e.".toList, "%2e%2e".toList, ".".toList,
      "%2e".toList], '-' ∉ dots := by decide
  simp only [IsPlainSegment, isDoubleDot, isSingleDot, decide_eq_false_iff_not]
  refine ⟨fun hmem => hdots _ ?_ hlower, fun hmem => hdots _ ?_ hlower⟩
  · exact List.mem_append_left [".".toList, "%2e".toList] hmem
  · exact List.mem_append_right ["..".toList, ".%2e".toList, "%2e.".toList, "%2e%2e".toList] hmem

lemma map_percentEncode_route : (metricsRoute.map String.toList).map (percentEncode inPathSet) =
    metricsRoute.map String.toList := by
  decide +kernel

lemma metricsRoute_plain : ∀ segment ∈ metricsRoute.map String.toList, IsPlainSegment segment := by
  decide +kernel

/-- What survives is cut at the slash in between. -/
lemma pastedSegments_eq (h : SurvivesPasting n m) (hm : IsPlainSegment m) (hne : m ≠ []) :
    pastedSegments n m = metricsRoute.map String.toList ++ [n, m] := by
  have hdelim : ∀ c ∈ n ++ m, isSeparator c = false ∧ endsPath c = false ∧
      isTabOrNewline c = false := by
    intro c hc
    have hdelim := h.delimiters c hc
    simp only [isDelimiter, Bool.or_eq_false_iff, and_assoc] at hdelim
    exact hdelim
  have htext : pathText (n ++ '/' :: m) = n ++ '/' :: m := by
    refine pathText_eq_self_iff.2 ⟨?_, fun c hc => h.last c ?_⟩
    · intro c hc
      rcases List.mem_append.1 hc with hc | hc
      · exact (hdelim c (List.mem_append_left _ hc)).2.symm
      · rcases List.mem_cons.1 hc with rfl | hc
        · decide
        · exact (hdelim c (List.mem_append_right _ hc)).2.symm
    · rwa [List.append_cons, List.getLast?_append_of_ne_nil _ hne] at hc
  have hn : n.splitOnP isSeparator = [n] := splitOnP_eq_singleton_iff.2
    ⟨rfl, fun c hc => (hdelim c (List.mem_append_left _ hc)).1⟩
  have hm' : m.splitOnP isSeparator = [m] := splitOnP_eq_singleton_iff.2
    ⟨rfl, fun c hc => (hdelim c (List.mem_append_right _ hc)).1⟩
  rw [pastedSegments, htext, List.splitOnP_append_cons _ _ rfl, hn, hm',
    resolveDots_append metricsRoute_plain, List.singleton_append, resolveDots_cons h.plain,
    resolveDots_cons hm, List.nil_append, List.append_assoc]
  rfl

/-- The segments that come back are pieces of the text that is cut. -/
lemma sublist_of_pastedSegments {front : List (List Char)} {n' m' : List Char} (hne : m' ≠ [])
    (hfront : front.length = metricsRoute.length) (h : pastedSegments n m = front ++ [n', m']) :
    [n', m'].Sublist ((pathText (n ++ '/' :: m)).splitOnP isSeparator) := by
  obtain ⟨rest, hrest, heq⟩ := resolveDots_sublist [] (metricsRoute.map String.toList ++
    (pathText (n ++ '/' :: m)).splitOnP isSeparator)
  rw [List.nil_append] at hrest
  rcases heq with heq | heq
  · rw [← heq] at hrest
    rw [pastedSegments] at h
    rw [h] at hrest
    exact sublist_of_append_sublist hrest (by rw [List.length_map, hfront])
  · -- the last segment is not empty
    have hlast : (pastedSegments n m).getLast? = some [] := by
      rw [pastedSegments, heq, List.getLast?_concat]
    rw [h, List.append_cons, List.getLast?_concat] at hlast
    exact absurd (Option.some.inj hlast) hne

/-- A text that weighs no more than its decoded bytes has no escape. -/
lemma not_hasEscape_of_le (h : (n.map Char.utf8Size).sum ≤ (percentDecode n).length) :
    ¬ HasEscape n := fun hescape =>
  absurd ((length_percentDecode_le n).2 hescape) (not_lt_of_ge h)

/-- What comes back is as long as the texts, so that nothing was lost on the way. -/
lemma eq_of_pastedSegments {front : List (List Char)} {n' m' : List Char} (hne : m' ≠ [])
    (hfront : front.length = metricsRoute.length) (h : pastedSegments n m = front ++ [n', m'])
    (hn' : percentDecode n' = utf8Bytes n) (hm' : percentDecode m' = utf8Bytes m) :
    pathText (n ++ '/' :: m) = n ++ '/' :: m ∧
      [n', m'] = (n ++ '/' :: m).splitOnP isSeparator ∧ ¬ HasEscape n' ∧ ¬ HasEscape m' := by
  have hsub := sublist_of_pastedSegments hne hfront h
  have hsize : ∀ c, isSeparator c = true → c.utf8Size = 1 := by
    intro c hc
    simp only [isSeparator, Bool.or_eq_true, beq_iff_eq] at hc
    rcases hc with rfl | rfl
    · decide
    · decide
  have hnLen := congrArg List.length hn'
  have hmLen := congrArg List.length hm'
  rw [length_utf8Bytes] at hnLen hmLen
  have hnLe := (length_percentDecode_le n').1
  have hmLe := (length_percentDecode_le m').1
  -- the pieces weigh at least what comes back, and at most what is pasted
  have hpieces := sum_splitOnP hsize (pathText (n ++ '/' :: m))
  have hpath : ((pathText (n ++ '/' :: m)).map Char.utf8Size).sum ≤
      ((n ++ '/' :: m).map Char.utf8Size).sum := sum_map_le_of_sublist (pathText_sublist _)
  have hparts : ([n', m'].map fun piece => (piece.map Char.utf8Size).sum + 1).sum ≤
      (((pathText (n ++ '/' :: m)).splitOnP isSeparator).map
        fun piece => (piece.map Char.utf8Size).sum + 1).sum := sum_map_le_of_sublist hsub
  have hpasted : ((n ++ '/' :: m).map Char.utf8Size).sum =
      (n.map Char.utf8Size).sum + (m.map Char.utf8Size).sum + 1 := by
    have hslash : '/'.utf8Size = 1 := rfl
    rw [List.map_append, List.sum_append, List.map_cons, List.sum_cons, hslash]
    omega
  have hback : ([n', m'].map fun piece => (piece.map Char.utf8Size).sum + 1).sum =
      (n'.map Char.utf8Size).sum + (m'.map Char.utf8Size).sum + 2 := by
    simp only [List.map_cons, List.map_nil, List.sum_cons, List.sum_nil]
    omega
  have htext : pathText (n ++ '/' :: m) = n ++ '/' :: m :=
    eq_of_sublist_of_sum_le Char.utf8Size_pos (pathText_sublist _) (by omega)
  refine ⟨htext, ?_, not_hasEscape_of_le (by omega), not_hasEscape_of_le (by omega)⟩
  have hpos : ∀ piece : List Char, 0 < (piece.map Char.utf8Size).sum + 1 :=
    fun _ => Nat.succ_pos _
  rw [← htext]
  exact eq_of_sublist_of_sum_le hpos hsub (by omega)

/-- What comes back survives. -/
lemma survivesPasting_of_eq {front : List (List Char)} {n' m' : List Char} (hne : m' ≠ [])
    (hm : IsPlainSegment m) (hfront : front.length = metricsRoute.length)
    (h : pastedSegments n m = front ++ [n', m'])
    (hn' : percentDecode n' = utf8Bytes n) (hm' : percentDecode m' = utf8Bytes m) :
    SurvivesPasting n m := by
  obtain ⟨htext, hsplit, hnEscape, hmEscape⟩ := eq_of_pastedSegments hne hfront h hn' hm'
  -- both texts are pieces
  rw [List.splitOnP_append_cons _ _ rfl] at hsplit
  obtain ⟨piece, rest, hcut⟩ := List.exists_cons_of_ne_nil (List.splitOnP_ne_nil isSeparator n)
  obtain ⟨piece', rest', hcut'⟩ := List.exists_cons_of_ne_nil (List.splitOnP_ne_nil isSeparator m)
  have hlen := congrArg List.length hsplit
  simp only [hcut, hcut', List.length_cons, List.length_nil, List.length_append] at hlen
  obtain rfl : rest = [] := List.eq_nil_of_length_eq_zero (by omega)
  obtain rfl : rest' = [] := List.eq_nil_of_length_eq_zero (by omega)
  rw [hcut, hcut'] at hsplit
  obtain ⟨rfl, rfl⟩ : n' = piece ∧ m' = piece' := by simpa using hsplit
  obtain ⟨rfl, hnSep⟩ := splitOnP_eq_singleton_iff.1 hcut
  obtain ⟨rfl, hmSep⟩ := splitOnP_eq_singleton_iff.1 hcut'
  obtain ⟨hkept, hlast⟩ := pathText_eq_self_iff.1 htext
  refine ⟨?_, ⟨hnEscape, hmEscape⟩, ?_, fun c hc => hlast c ?_⟩
  · intro c hc
    have hsep : isSeparator c = false := by
      rcases List.mem_append.1 hc with hc | hc
      · exact hnSep c hc
      · exact hmSep c hc
    have hmem : c ∈ n ++ '/' :: m := by
      rw [List.append_cons, List.mem_append, List.mem_append]
      rcases List.mem_append.1 hc with hc | hc
      · exact Or.inl (Or.inl hc)
      · exact Or.inr hc
    simp [isDelimiter, hsep, hkept c hmem]
  · rw [pastedSegments, htext, List.splitOnP_append_cons _ _ rfl, hcut, hcut',
      resolveDots_append metricsRoute_plain, List.nil_append, List.singleton_append] at h
    have hlength : (resolveDots (metricsRoute.map String.toList) [n, m]).length =
        (metricsRoute.map String.toList).length + 2 := by
      rw [h, List.length_append, hfront, List.length_map]
      rfl
    exact isPlainSegment_of_length hm hlength
  · rwa [List.append_cons, List.getLast?_append_of_ne_nil _ hne]

/-! ### Forwarding -/

section Forward

variable {parsed : String × String × String} {me : Identity} {now : ℤ} {isDraining : Bool}
  {address : String}

lemma getReplicaAddress_renewedLease
    (haddress : getReplicaAddress (renewedLease me now isDraining) = some address) :
    address.toList = me.podIp.toList ++ ':' :: Nat.toDigits 10 me.webhookPort := by
  obtain rfl : s!"{me.podIp}:{me.webhookPort}" = address := Option.some.inj haddress
  show (me.podIp ++ ":" ++ me.webhookPort.repr).toList = _
  have hcolon : ":".toList = [':'] := rfl
  rw [String.toList_append, String.toList_append, Nat.toList_repr, hcolon, List.append_assoc]
  rfl

/-- **Forwarding preserves the request exactly for what survives pasting.** For every namespace
and name that the router takes from a path and the parser of the names accepts, the peer takes the
same namespace and name from the URL exactly if its address is accepted and both texts survive
being pasted into the URL. -/
theorem forwarding_preserves_iff (parseAuthority : List Char → Option β)
    (hroute : routeParams segments = some (ns, metricName))
    (hparse : parseExternalMetricName ns metricName = .ok parsed)
    (hip : IsIp me.podIp.toList)
    (haddress : getReplicaAddress (renewedLease me now isDraining) = some address) :
    receivedParams parseAuthority (forwardUrl address ns metricName) = some (ns, metricName) ↔
      (parseAuthority address.toList).isSome = true ∧
        SurvivesPasting ns.toList metricName.toList := by
  have hhyphen : '-' ∈ metricName.toList := by
    obtain ⟨epaName, epaNs, metric⟩ := parsed
    obtain ⟨-, -, rfl⟩ := parseExternalMetricName_eq_ok_iff.1 hparse
    rw [externalMetricName_toList]
    exact List.mem_append_right _ List.mem_cons_self
  have hplain := isPlainSegment_of_hyphen hhyphen
  have hne : metricName.toList ≠ [] := List.ne_nil_of_mem hhyphen
  have hnsNe := ne_empty_of_routeParams hroute
  rw [receivedParams_forwardUrl hip (getReplicaAddress_renewedLease haddress)]
  rcases parseAuthority address.toList with _ | a
  · simp
  · rw [Option.bind_some, Option.isSome_some, eq_self, true_and, routeParams_eq_some_iff]
    constructor
    · rintro ⟨n, m, hpath, -, -, hn, hm⟩
      obtain ⟨front, back, heq, hfront, hback⟩ := List.map_eq_append_iff.1 hpath
      obtain ⟨n', rest, rfl, rfl, hrest⟩ := List.map_eq_cons_iff.1 hback
      obtain ⟨m', last, rfl, rfl, hlast⟩ := List.map_eq_cons_iff.1 hrest
      obtain rfl := List.map_eq_nil_iff.1 hlast
      rw [percentDecode_encoded] at hn hm
      have hm' : m' ≠ [] := by
        rintro rfl
        exact hne (utf8Bytes_eq_nil_iff.1 hm.symm)
      have hlen := congrArg List.length hfront
      rw [List.length_map, List.length_map] at hlen
      exact survivesPasting_of_eq hm' hplain hlen heq hn hm
    · intro h
      refine ⟨percentEncode inPathSet ns.toList, percentEncode inPathSet metricName.toList, ?_, ?_,
        ?_, ?_, ?_⟩
      · rw [pastedSegments_eq h hplain hne, List.map_append, map_percentEncode_route]
        rfl
      · rwa [Ne, percentEncode_eq_nil_iff]
      · rwa [Ne, percentEncode_eq_nil_iff]
      · rw [percentDecode_encoded, percentDecode_eq_iff]
        exact h.escapes.1
      · rw [percentDecode_encoded, percentDecode_eq_iff]
        exact h.escapes.2

end Forward

lemma isIp_deployed (id : String) : IsIp (deployed id).podIp.toList := by
  show IsIp "10.0.0.1".toList
  exact Or.inl ⟨_, _, _, _, ⟨10, by decide, rfl⟩, ⟨0, by decide, rfl⟩, ⟨0, by decide, rfl⟩,
    ⟨1, by decide, rfl⟩, by decide⟩

/-- The path of a request, with the last two segments as they are written. -/
def requestPath (ns metricName : String) : List (List Char) :=
  metricsRoute.map String.toList ++ [ns.toList, metricName.toList]

/-- **A question mark cuts the name.** The replica receives a request for the metric
`queue_depth?a`, and the peer receives one for `queue_depth`. -/
theorem question_mark_cuts_name :
    routeParams (requestPath "default" "web-default-queue_depth%3Fa") =
      some ("default", "web-default-queue_depth?a") ∧
    parseExternalMetricName "default" "web-default-queue_depth?a" =
      .ok ("web", "default", "queue_depth?a") ∧
    getReplicaAddress (renewedLease (deployed "replica-b") 0 false) = some "10.0.0.1:8443" ∧
    receivedParams some (forwardUrl "10.0.0.1:8443" "default" "web-default-queue_depth?a") =
      some ("default", "web-default-queue_depth") := by
  decide +kernel

theorem forwarding_preserves_iff_default :
    receivedParams some (forwardUrl "10.0.0.1:8443" "default" "web-default-queue_depth") =
        some ("default", "web-default-queue_depth") ↔
      (some "10.0.0.1:8443".toList).isSome = true ∧
        SurvivesPasting "default".toList "web-default-queue_depth".toList := by
  have hroute : routeParams (requestPath "default" "web-default-queue_depth") =
      some ("default", "web-default-queue_depth") := by decide +kernel
  have hparse : parseExternalMetricName "default" "web-default-queue_depth" =
      .ok ("web", "default", "queue_depth") := by decide
  have haddress : getReplicaAddress (renewedLease (deployed "replica-b") 0 false) =
      some "10.0.0.1:8443" := by decide
  exact forwarding_preserves_iff some hroute hparse (isIp_deployed "replica-b") haddress

end ExternalPodAutoscaler.Webhook
