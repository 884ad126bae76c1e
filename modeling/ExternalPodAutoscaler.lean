import ExternalPodAutoscaler.Lib.Transition
import ExternalPodAutoscaler.Clock
import ExternalPodAutoscaler.Membership.Manager
import ExternalPodAutoscaler.Membership.TransitionState
import ExternalPodAutoscaler.Membership.Handoff
import ExternalPodAutoscaler.Membership.Replica
import ExternalPodAutoscaler.Membership.Cluster
import ExternalPodAutoscaler.Webhook.Forwarding
import ExternalPodAutoscaler.Membership.Serving
import ExternalPodAutoscaler.Membership.LeaseWrites
import ExternalPodAutoscaler.Api.Epa
import ExternalPodAutoscaler.Webhook.Admission
import ExternalPodAutoscaler.Store.Window
import ExternalPodAutoscaler.Scraper.Scheduler
import ExternalPodAutoscaler.Scraper.Eviction
import ExternalPodAutoscaler.Scraper.Workers
import ExternalPodAutoscaler.Controller.Hpa
import ExternalPodAutoscaler.Controller.Reconcile
import ExternalPodAutoscaler.Controller.Unregister
import ExternalPodAutoscaler.Controller.Settled
import ExternalPodAutoscaler.Membership.Readmission
import ExternalPodAutoscaler.Membership.Rebalancing
import ExternalPodAutoscaler.Membership.Predecessor
import ExternalPodAutoscaler.Membership.GraceWindow
import ExternalPodAutoscaler.Lib.Splitting
import ExternalPodAutoscaler.Webhook.ExternalName
import ExternalPodAutoscaler.Webhook.Durations
import ExternalPodAutoscaler.Scraper.Overflow
import ExternalPodAutoscaler.Scraper.Exposition
import ExternalPodAutoscaler.Lib.Counters
import ExternalPodAutoscaler.Webhook.Rate
import ExternalPodAutoscaler.Scraper.Service
import ExternalPodAutoscaler.Scraper.Capacity
import ExternalPodAutoscaler.Webhook.Aggregation
import ExternalPodAutoscaler.Scraper.Sampling
import ExternalPodAutoscaler.Webhook.Freshness
import ExternalPodAutoscaler.Membership.Discovery
import ExternalPodAutoscaler.Webhook.Panics
import ExternalPodAutoscaler.Lib.ReadThenUpdate
import ExternalPodAutoscaler.Membership.ServingRuns
import ExternalPodAutoscaler.Membership.ConcurrentRefresh
import ExternalPodAutoscaler.Lib.OrderStatistics
import ExternalPodAutoscaler.Webhook.AggregationLaws
import ExternalPodAutoscaler.Membership.DrainSnapshot
import ExternalPodAutoscaler.Scraper.OneSample
import ExternalPodAutoscaler.Scraper.Selectors
import ExternalPodAutoscaler.Scraper.Spacing
import ExternalPodAutoscaler.Controller.Status
import ExternalPodAutoscaler.Store.ScrapeStats
import ExternalPodAutoscaler.Store.ConcurrentEviction
import ExternalPodAutoscaler.Store.Calls
import ExternalPodAutoscaler.Controller.Cleanup
import ExternalPodAutoscaler.Lib.Extended
import ExternalPodAutoscaler.Webhook.SpecialValues
import ExternalPodAutoscaler.Webhook.Defaults
import ExternalPodAutoscaler.Webhook.Quantities
import ExternalPodAutoscaler.Lib.CountedRemoval
import ExternalPodAutoscaler.Membership.LeaseExpiry
import ExternalPodAutoscaler.Store.RemovalCounts
import ExternalPodAutoscaler.Webhook.CounterRate
import ExternalPodAutoscaler.Lib.PercentCoding
import ExternalPodAutoscaler.Lib.Urls
import ExternalPodAutoscaler.Webhook.ForwardUrl
import ExternalPodAutoscaler.Webhook.Addresses
import ExternalPodAutoscaler.Webhook.ScrapePath
import ExternalPodAutoscaler.Scraper.PodCache
import ExternalPodAutoscaler.Lib.Hashing
import ExternalPodAutoscaler.Membership.WeightTies
import ExternalPodAutoscaler.Store.SlidingWindows
import ExternalPodAutoscaler.Lib.Expiry
import ExternalPodAutoscaler.Store.Cache
import ExternalPodAutoscaler.Webhook.Queries
import ExternalPodAutoscaler.Webhook.SequentialQueries
import ExternalPodAutoscaler.Lib.Versioned
import ExternalPodAutoscaler.Controller.Install
import ExternalPodAutoscaler.Lib.Serde
import ExternalPodAutoscaler.Api.Resource
import ExternalPodAutoscaler.Webhook.Mutation
import ExternalPodAutoscaler.Lib.WorkerPool
import ExternalPodAutoscaler.Scraper.Pool
import ExternalPodAutoscaler.Webhook.Requests
import ExternalPodAutoscaler.Webhook.Transparency
import ExternalPodAutoscaler.Membership.Settling
import ExternalPodAutoscaler.Webhook.Pipeline
import ExternalPodAutoscaler.Membership.Lifecycle
import ExternalPodAutoscaler.Membership.Readiness
import ExternalPodAutoscaler.Controller.Leftovers
