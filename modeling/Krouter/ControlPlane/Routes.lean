import Krouter.Compiled.AuthConfig
import Krouter.Compiled.Config
import Krouter.ControlPlane.World

/-! Routes of the five kinds, with the fields the compilation reads, and what it needs to
know of the cluster besides. -/

namespace Krouter.ControlPlane
open Compiled

structure RouteMeta where
  uid : String
  ns : String
  name : String
  created : Int64
  deriving DecidableEq

/-! ## Backends -/

structure BackendObjectReference where
  group : Option String
  kind : Option String
  ns : Option String
  name : String
  port : Option Int32
  deriving DecidableEq

structure BackendRef extends BackendObjectReference where
  weight : Option Int32
  deriving DecidableEq

/-! ## Filters -/

structure HTTPHeader where
  name : String
  value : String
  deriving DecidableEq

structure HTTPHeaderFilter where
  set : List HTTPHeader
  add : List HTTPHeader
  remove : List String
  deriving DecidableEq

structure HTTPCORSFilter where
  allowOrigins : List String
  allowCredentials : Option Bool
  allowMethods : List String
  allowHeaders : List String
  exposeHeaders : List String
  maxAge : Int32
  deriving DecidableEq

structure HTTPPathModifier where
  type : String
  replaceFullPath : Option String
  replacePrefixMatch : Option String
  deriving DecidableEq

structure HTTPRequestRedirectFilter where
  scheme : Option String
  hostname : Option String
  path : Option HTTPPathModifier
  port : Option Int32
  statusCode : Option Int64
  deriving DecidableEq

structure HTTPURLRewriteFilter where
  hostname : Option String
  path : Option HTTPPathModifier
  deriving DecidableEq

structure Fraction where
  numerator : Int32
  denominator : Option Int32
  deriving DecidableEq

structure HTTPRequestMirrorFilter where
  backendRef : BackendObjectReference
  percent : Option Int32
  fraction : Option Fraction
  deriving DecidableEq

structure LocalObjectReference where
  group : String
  kind : String
  name : String
  deriving DecidableEq

structure GRPCRouteFilter where
  type : String
  requestHeaderModifier : Option HTTPHeaderFilter
  responseHeaderModifier : Option HTTPHeaderFilter
  requestMirror : Option HTTPRequestMirrorFilter
  extensionRef : Option LocalObjectReference
  deriving DecidableEq

structure HTTPRouteFilter extends GRPCRouteFilter where
  requestRedirect : Option HTTPRequestRedirectFilter
  urlRewrite : Option HTTPURLRewriteFilter
  cors : Option HTTPCORSFilter
  deriving DecidableEq

def filterExtensionRef : String := "ExtensionRef"

/-! ## Rules -/

structure HTTPPathMatch where
  type : Option String
  value : Option String
  deriving DecidableEq

structure ValueMatch where
  type : Option String
  name : String
  value : String
  deriving DecidableEq

structure HTTPRouteMatch where
  path : Option HTTPPathMatch
  headers : List ValueMatch
  queryParams : List ValueMatch
  method : Option String
  deriving DecidableEq

structure GRPCMethodMatch where
  type : Option String
  service : Option String
  method : Option String
  deriving DecidableEq

structure GRPCRouteMatch where
  method : Option GRPCMethodMatch
  headers : List ValueMatch
  deriving DecidableEq

structure HTTPRouteTimeouts where
  request : Option String
  backendRequest : Option String
  deriving DecidableEq

structure FilteredBackendRef extends BackendRef where
  filters : List GRPCRouteFilter
  deriving DecidableEq

structure HTTPRouteRule where
  ruleMatches : List HTTPRouteMatch
  filters : List HTTPRouteFilter
  backendRefs : List FilteredBackendRef
  timeouts : Option HTTPRouteTimeouts
  deriving DecidableEq

structure GRPCRouteRule where
  ruleMatches : List GRPCRouteMatch
  filters : List GRPCRouteFilter
  backendRefs : List FilteredBackendRef
  deriving DecidableEq

/-! ## Routes -/

structure HTTPRoute where
  objectMeta : RouteMeta
  hostnames : List String
  rules : List HTTPRouteRule
  deriving DecidableEq

structure GRPCRoute where
  objectMeta : RouteMeta
  hostnames : List String
  rules : List GRPCRouteRule
  deriving DecidableEq

/-- The backend references of each rule are all a TCPRoute or UDPRoute rule has. -/
structure TCPRoute where
  objectMeta : RouteMeta
  rules : List (List BackendRef)
  deriving DecidableEq

structure UDPRoute where
  objectMeta : RouteMeta
  rules : List (List BackendRef)
  deriving DecidableEq

structure TLSRoute where
  objectMeta : RouteMeta
  hostnames : List String
  rules : List (List BackendRef)
  deriving DecidableEq

/-! ## The cluster -/

/-- One policy on one target Service; without a section it is for every port. -/
structure BackendTLSBinding where
  tls : Option BackendTLS
  sectionName : String
  conflicted : Bool
  deriving DecidableEq

structure ExtensionSecret where
  uid : String
  data : GoMap String String
  deriving DecidableEq

/-- What compiling routes reads of the cluster. Extension objects that cannot be fetched
are the error of the fetch. -/
structure Snapshot extends World where
  backendTLS : GoMap String (List BackendTLSBinding)
  extensionCM : String → String → Except String (GoMap String String)
  extensionSecret : String → String → Except String ExtensionSecret

end Krouter.ControlPlane
