import Krouter.Auth.Enforcer
import Krouter.Compiled.Config

/-! The routing tables of the data plane. A certificate stands for its key pair, a pool for the bundle, a
transport for its TLS settings; round-robin counters are not part of a table. -/

namespace Krouter.Routing
open Std Compiled Auth

structure Certificate where
  certPEM : String
  keyPEM : String
  deriving DecidableEq

inductive ClientAuthType where
  | noClientCert
  | requestClientCert
  | requireAndVerifyClientCert
  deriving DecidableEq

structure TLSTransport where
  serverName : String
  clientCert : Option Certificate
  /-- The policy bundle, `none` for the system pool. -/
  rootCAs : Option String
  subjectAltNames : List SubjectAltName
  deriving DecidableEq

structure BackendTable where
  ns : String
  name : String
  port : Int32
  weight : Int32
  valid : Bool
  h2c : Bool
  filters : List Filter
  tlsKey : String
  tlsTransport : Option TLSTransport
  tlsInvalid : Bool
  deriving DecidableEq

structure MirrorTable where
  backend : BackendTable
  percent : Json.Number
  deriving DecidableEq

structure RuleTable where
  ruleMatches : List Match
  filters : List Filter
  backends : List BackendTable
  mirrors : List MirrorTable
  cors : Option CORS
  grpc : Bool
  requestTimeout : Duration
  backendTimeout : Duration
  total : Int64
  limiter : Option RateLimit
  /-- The program of the compiled engine. -/
  wafEngine : Option String
  authEnforcer : Option Enforcer
  extensionsInvalid : Bool
  deriving DecidableEq

structure RouteTable where
  ns : String
  name : String
  hostnames : List String
  created : Int64
  rules : List RuleTable
  deriving DecidableEq

def RouteTable.key (r : RouteTable) : String := r.ns ++ "/" ++ r.name

structure ListenerTable where
  name : String
  hostname : String
  cert : Option Certificate
  terminate : Bool
  clientCAs : Option String
  clientAuth : ClientAuthType
  routes : List RouteTable
  deriving DecidableEq

structure PortTable where
  gatewayUID : String
  gatewayName : String
  tls : Bool
  tcp : Bool
  udp : Bool
  tlsPassthrough : Bool
  proxyProtocol : Bool
  listeners : List ListenerTable
  /-- The trusted networks; none of them trusts no peer. -/
  trust : List String
  deriving DecidableEq

structure GatewayTable where
  generation : String
  byPort : GoMap Int32 PortTable
  namespaces : GoMap String Bool
  deriving DecidableEq

structure Tables where
  byPort : GoMap Int32 PortTable
  backends : GoMap String Bool
  deriving DecidableEq

def emptyTables : Tables := ⟨∅, ∅⟩

structure GatewayStatus where
  desiredGeneration : String
  appliedGeneration : String
  lastError : String
  deriving DecidableEq

end Krouter.Routing
