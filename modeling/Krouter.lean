import Krouter.Auth.Endpoints
import Krouter.Auth.GroupSearch
import Krouter.Auth.Jwt
import Krouter.Auth.Lifetime
import Krouter.Auth.Merge
import Krouter.Auth.Pruning
import Krouter.Auth.ReturnURL
import Krouter.Auth.SharedJar
import Krouter.ControlPlane.AttachedRoutes
import Krouter.ControlPlane.BackendPolicy
import Krouter.ControlPlane.ContentAddress
import Krouter.ControlPlane.CorruptedObjects
import Krouter.ControlPlane.HostAgreement
import Krouter.ControlPlane.Idempotence
import Krouter.ControlPlane.MatchMeaning
import Krouter.ControlPlane.ParentStatuses
import Krouter.ControlPlane.PortRestart
import Krouter.ControlPlane.Programmed
import Krouter.ControlPlane.PublishedDocuments
import Krouter.ControlPlane.PublishedLoads
import Krouter.ControlPlane.Topology
import Krouter.ControlPlane.PolicyAncestors
import Krouter.Extensions.Admission
import Krouter.Extensions.RateLimitDocs
import Krouter.Extensions.RetryAfter
import Krouter.Loader.LastValid
import Krouter.Proxy.ChainedGateways
import Krouter.Proxy.Cors
import Krouter.Proxy.Firewall
import Krouter.Proxy.GeneratedForwarded
import Krouter.Proxy.IdentityHeaders
import Krouter.Proxy.MirrorBody
import Krouter.Proxy.RedirectAuthority
import Krouter.Routing.EndpointLists
import Krouter.Routing.Handshake
import Krouter.Routing.ReservedEndpoints
import Krouter.Routing.Resolver
import Krouter.Routing.RoundRobin
import Krouter.Transports.BoundedPreamble
import Krouter.Transports.Splice
import Krouter.Transports.UDPFlows
