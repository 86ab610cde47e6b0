import Dnsix.SingleFlight
import Dnsix.StoreHistory
import Dnsix.Isolation
import Dnsix.Superseded
import Dnsix.ServeStale
import Dnsix.Dns64Decision
import Dnsix.TtlSources
import Dnsix.Transparency
import Dnsix.RrSet
import Dnsix.Acl
import Dnsix.Blocking
import Dnsix.Gate
import Dnsix.Presentation
import Dnsix.BlocklistSemantics
import Dnsix.Configuration
import Dnsix.Http
import Dnsix.ListFetch
import Dnsix.Nat64Eligibility
import Dnsix.Bypass
import Dnsix.RefreshSlots
import Dnsix.Redundancy
import Dnsix.Reconnect
import Dnsix.Redials
import Dnsix.Displacement
import Dnsix.Accounting
import Dnsix.NegativeLife
import Dnsix.Failover
import Dnsix.HostText
import Dnsix.S3Endpoints
import Dnsix.AlibabaEndpoints
import Dnsix.OracleEndpoints
import Dnsix.NoPanic
import Dnsix.Confinement
import Dnsix.Comments
import Dnsix.ListSyntax
import Dnsix.ListedNames
import Dnsix.AclMatching
import Dnsix.Chunked
import Dnsix.Truncation
import Dnsix.References
import Dnsix.Redirects
import Dnsix.HostGuard
import Dnsix.Processes
import Dnsix.RequestRuns
import Dnsix.QueryLog
import Dnsix.Conservation
import Dnsix.Calendar
import Dnsix.CheckedInts
import Dnsix.CivilDate
import Dnsix.Exposition
import Dnsix.Prometheus
import Dnsix.BoundedRing
import Dnsix.LogViews
import Dnsix.Draining
import Dnsix.PoolProgress
import Dnsix.Forwarder
import Dnsix.Served
import Dnsix.Workload
import Dnsix.Grounding
import Dnsix.Utf8
import Dnsix.MetricsEndpoint
import Dnsix.Markup
import Dnsix.Ranking
import Dnsix.Dashboard
import Dnsix.DashboardViews
import Dnsix.Transport
import Dnsix.Ledger
import Dnsix.Startup
import Dnsix.Origins
import Dnsix.Freshness
