/-
Addresses in URLs (`scrape_pod_static` of `scraper/worker.rs`, `register_and_renew` and
`get_replica_address` of `membership/manager.rs`, and `get_external_metric` of
`webhook/metrics/handlers.rs`).

The address of a pod, a colon and a port are joined in three places: in the URL of a scrape, in
the lease of a replica, and, from there, in the URL of a forwarded request.  None of them puts
brackets around an address, which IPv6 addresses need.

The main result of this file is `addresses_survive_iff`: both URLs have the address as their host
and the port exactly if the address is an IPv4 address.
-/
import ExternalPodAutoscaler.Webhook.ForwardUrl
import ExternalPodAutoscaler.Webhook.Panics

namespace ExternalPodAutoscaler.Webhook

open ExternalPodAutoscaler.Api ExternalPodAutoscaler.Lib ExternalPodAutoscaler.Membership
open ExternalPodAutoscaler.Scraper

variable {epa : Epa} {podIp address : String} {me : Identity}

/-- The URL of a scrape for an admitted EPA. -/
lemma addresses_scrapeUrl_iff (hadm : (validateEpaSpec epa).accepts = true)
    (hip : IsIp podIp.toList) : Addresses (scrapeUrl epa.spec.scrape podIp).toList podIp.toList
      epa.spec.scrape.port.toNat ↔ IsIpv4 podIp.toList := by
  obtain ⟨-, -, -, -, -, -, ⟨hport, -⟩, hscheme, hpath, -⟩ := validateEpaSpec_accepts_iff.1 hadm
  have hcolon : ':' ∉ epa.spec.scrape.scheme.toList := by
    rcases hscheme with hscheme | hscheme
    · rw [hscheme]
      decide
    · rw [hscheme]
      decide
  obtain ⟨path, hslash⟩ : ∃ path, epa.spec.scrape.path.toList = '/' :: path :=
    List.head?_eq_some_iff.1 (validateScrapePath_accepts_iff.1 hpath).1
  have hnonneg : 0 ≤ epa.spec.scrape.port := by omega
  rw [scrapeUrl_toList (Int.toNat_of_nonneg hnonneg).symm, hslash]
  exact addresses_iff hcolon hip _

/-- The URL of a forwarded request, for the address of the lease. -/
lemma addresses_forwardUrl_iff {now : ℤ} {isDraining : Bool} (hip : IsIp me.podIp.toList)
    (haddress : getReplicaAddress (renewedLease me now isDraining) = some address)
    (ns metricName : String) :
    Addresses (forwardUrl address ns metricName).toList me.podIp.toList me.webhookPort ↔
      IsIpv4 me.podIp.toList := by
  rw [forwardUrl_toList, getReplicaAddress_renewedLease haddress]
  exact addresses_iff (by decide) hip _

/-- **Addresses survive the construction of URLs exactly if they are IPv4.** For every admitted
EPA, every address of a pod, every replica and every request, the URL of the scrape has the address
of the pod and the port of the EPA, and the URL of the forwarded request has the address of the
replica and its port, exactly if these are IPv4 addresses. -/
theorem addresses_survive_iff {now : ℤ} {isDraining : Bool}
    (hadm : (validateEpaSpec epa).accepts = true) (hpod : IsIp podIp.toList)
    (hme : IsIp me.podIp.toList)
    (haddress : getReplicaAddress (renewedLease me now isDraining) = some address)
    (ns metricName : String) :
    (Addresses (scrapeUrl epa.spec.scrape podIp).toList podIp.toList epa.spec.scrape.port.toNat ↔
      IsIpv4 podIp.toList) ∧
    (Addresses (forwardUrl address ns metricName).toList me.podIp.toList me.webhookPort ↔
      IsIpv4 me.podIp.toList) :=
  ⟨addresses_scrapeUrl_iff hadm hpod, addresses_forwardUrl_iff hme haddress ns metricName⟩

/-- The replica `id`, on a node with IPv6. -/
def deployedIpv6 (id : String) : Identity := { deployed id with podIp := "2001:db8::1" }

/-- **An IPv6 address is lost.** The URLs of a scrape and of a forwarded request do not have the
address `2001:db8::1` and the port, as they have no brackets. -/
theorem ipv6_address_lost :
    (validateEpaSpec (webEpa "15s")).accepts = true ∧ IsIpv6 "2001:db8::1".toList ∧
    scrapeUrl (webEpa "15s").spec.scrape "2001:db8::1" = "http://2001:db8::1:8080/metrics" ∧
    ¬ Addresses "http://2001:db8::1:8080/metrics".toList "2001:db8::1".toList 8080 ∧
    getReplicaAddress (renewedLease (deployedIpv6 "replica-b") 0 false) =
      some "2001:db8::1:8443" ∧
    ¬ Addresses (forwardUrl "2001:db8::1:8443" "default" "web-default-queue_depth").toList
      "2001:db8::1".toList 8443 := by
  have hadm : (validateEpaSpec (webEpa "15s")).accepts = true := by decide
  have hv6 : IsIpv6 "2001:db8::1".toList := by
    have hfirst : IsHextet "2001".toList := ⟨by decide, by decide, List.all_eq_true.1 (by decide)⟩
    have hsecond : IsHextet "db8".toList := ⟨by decide, by decide, List.all_eq_true.1 (by decide)⟩
    have hlast : IsHextet "1".toList := ⟨by decide, by decide, List.all_eq_true.1 (by decide)⟩
    have hfront : IsGroups 2 "2001:db8".toList := .cons hfirst (.hextet hsecond)
    exact .gap (Or.inr hfront) (by decide) (Or.inr (.hextet hlast)) (by decide)
  have hv4 : ¬ IsIpv4 "2001:db8::1".toList := by
    rw [IsIp.isIpv4_iff (Or.inr hv6), not_not]
    exact hv6.colon_mem
  have haddress : getReplicaAddress (renewedLease (deployedIpv6 "replica-b") 0 false) =
      some "2001:db8::1:8443" := by decide
  have hscrape : Addresses (scrapeUrl (webEpa "15s").spec.scrape "2001:db8::1").toList
      "2001:db8::1".toList 8080 ↔ IsIpv4 "2001:db8::1".toList :=
    addresses_scrapeUrl_iff hadm (Or.inr hv6)
  refine ⟨hadm, hv6, by decide, fun h => hv4 (hscrape.1 h), haddress, ?_⟩
  exact fun h => hv4 ((addresses_forwardUrl_iff (Or.inr hv6) haddress _ _).1 h)

theorem addresses_survive_iff_web :
    (Addresses (scrapeUrl (webEpa "15s").spec.scrape "10.0.0.1").toList "10.0.0.1".toList
      (webEpa "15s").spec.scrape.port.toNat ↔ IsIpv4 "10.0.0.1".toList) ∧
    (Addresses (forwardUrl "10.0.0.1:8443" "default" "web-default-queue_depth").toList
      (deployed "replica-b").podIp.toList (deployed "replica-b").webhookPort ↔
      IsIpv4 (deployed "replica-b").podIp.toList) := by
  have hip : IsIp "10.0.0.1".toList := isIp_deployed "replica-b"
  have hadm : (validateEpaSpec (webEpa "15s")).accepts = true := by decide
  have haddress : getReplicaAddress (renewedLease (deployed "replica-b") 0 false) =
      some "10.0.0.1:8443" := by decide
  exact addresses_survive_iff hadm hip hip haddress "default" "web-default-queue_depth"

end ExternalPodAutoscaler.Webhook
