import Krouter.Routing.Match
import Mathlib.Data.List.Sort

/-! Choosing the endpoint of a request or connection: the weights of a rule, then round-robin over the ready
endpoints. -/

namespace Krouter.Routing
open Compiled

/-! ## Endpoints -/

structure SlicePort where
  name : Option String
  port : Option Int32
  deriving DecidableEq

structure SliceEndpoint where
  addresses : List String
  ready : Option Bool
  terminating : Option Bool
  deriving DecidableEq

structure EndpointSlice where
  addressType : String
  ports : List SlicePort
  endpoints : List SliceEndpoint
  deriving DecidableEq

structure EndpointsIndex where
  services : GoMap String BackendService
  slices : GoMap String (List EndpointSlice)
  deriving DecidableEq

structure Endpoint where
  address : String
  port : Int32
  deriving DecidableEq

def SlicePort.isNamed (port : SlicePort) (name : String) : Bool :=
  match port.name with
  | none => name = ""
  | some n => n = name

def EndpointSlice.targetPort (slice : EndpointSlice) (name : String) : Option Int32 :=
  slice.ports.findSome? fun port => if port.isNamed name then port.port else none

def SliceEndpoint.eligible (ep : SliceEndpoint) : Bool :=
  ep.ready ≠ some false && ep.terminating ≠ some true

def EndpointSlice.ready (slice : EndpointSlice) (name : String) : List Endpoint :=
  if slice.addressType = "IPv4" then
    match slice.targetPort name with
    | none => []
    | some port => (slice.endpoints.filter SliceEndpoint.eligible).flatMap fun ep =>
        ep.addresses.map fun address => ⟨address, port⟩
  else []

def EndpointsIndex.endpoints (index : EndpointsIndex) (ns name : String) (servicePort : Int32) :
    List Endpoint :=
  let key := ns ++ "/" ++ name
  match (index.services[key]?).bind fun svc => svc.ports.find? fun port => port.port = servicePort with
  | none => []
  | some port => ((index.slices.read key []).flatMap fun slice => slice.ready port.name).insertionSort
      fun a b => ¬ b.address < a.address

/-! ## Round-robin -/

/-- What the counters of a rule and of its backend read when they are asked. -/
structure Turn where
  rule : Nat
  backend : Nat

def pickSlot : List BackendTable → Int → Option BackendTable
  | [], _ => none
  | backend :: backends, slot =>
    if slot - backend.weight.toInt < 0 then some backend
    else pickSlot backends (slot - backend.weight.toInt)

def pickBucket (counter : Nat) (backends : List BackendTable) (total : Int64) : Option BackendTable :=
  if total ≤ 0 then none else pickSlot backends (counter % total.toInt)

def RuleTable.pickBackend (rule : RuleTable) (turn : Turn) : Option BackendTable :=
  pickBucket turn.rule rule.backends rule.total

def BackendTable.pick (backend : BackendTable) (index : EndpointsIndex) (turn : Turn) : Option Endpoint :=
  let endpoints := index.endpoints backend.ns backend.name backend.port
  endpoints[turn.backend % endpoints.length]?

/-! ## Connections -/

/-- What a TCP or UDP forwarder is told; the endpoint is its dial address. -/
structure Selection where
  endpoint : String
  gateway : String
  route : String
  backend : String
  deriving DecidableEq

structure TLSSelection extends Selection where
  terminate : Bool
  certificate : Option Certificate
  deriving DecidableEq

def hostPort (host : String) (port : Int32) : String := host ++ ":" ++ String.ofList (Decimal.itoa port.toInt)

structure Target where
  backend : BackendTable
  endpoint : Endpoint
  deriving DecidableEq

def Target.selection (target : Target) (table : PortTable) (route : RouteTable) : Selection where
  endpoint := hostPort target.endpoint.address target.endpoint.port
  gateway := table.gatewayName
  route := route.key
  backend := hostPort (target.backend.ns ++ "/" ++ target.backend.name) target.backend.port

def Target.tlsSelection (target : Target) (table : PortTable) (listener : ListenerTable)
    (route : RouteTable) : TLSSelection :=
  { target.selection table route with terminate := listener.terminate, certificate := listener.cert }

/-- A connection gets its backend only when the reference was valid. -/
def RuleTable.connect (rule : RuleTable) (index : EndpointsIndex) (turn : Turn) : Option Target :=
  match rule.pickBackend turn with
  | none => none
  | some backend =>
    if backend.valid then (backend.pick index turn).map fun endpoint => ⟨backend, endpoint⟩ else none

def l4Route (table : PortTable) : Option RouteTable :=
  (table.listeners.flatMap ListenerTable.routes).foldl (fun best route =>
    if route.rules = [] then best
    else match best with
      | none => some route
      | some b =>
        if route.created < b.created ∨ route.created = b.created ∧ route.key < b.key then some route
        else some b) none

def l4Target (table : PortTable) (index : EndpointsIndex) (turn : Turn) : Option (RouteTable × Target) :=
  match l4Route table with
  | none => none
  | some route =>
    match route.rules with
    | [] => none
    | rule :: _ => (rule.connect index turn).map fun target => (route, target)

def l4Selection (table : PortTable) (index : EndpointsIndex) (turn : Turn) : Option Selection :=
  (l4Target table index turn).map fun picked => picked.2.selection table picked.1

def tlsScore (sni : String) (listener : ListenerTable) (route : RouteTable) : MatchScore :=
  ⟨hostnameScore listener.hostname, routeHostnameScore listener route sni, ⟨0, 0, 0, 0⟩,
    route.created, route.key⟩

def tlsRule (sni : String) (listener : ListenerTable) (route : RouteTable) (best : Best)
    (rule : RuleTable) : Best :=
  match best with
  | none => some (⟨rule, listener, route⟩, tlsScore sni listener route)
  | some b =>
    if (tlsScore sni listener route).beats b.2 then
      some (⟨rule, listener, route⟩, tlsScore sni listener route)
    else some b

def tlsRoute (sni : String) (listener : ListenerTable) (best : Best) (route : RouteTable) : Best :=
  if routeHostnameMatches route.hostnames sni then route.rules.foldl (tlsRule sni listener route) best
  else best

def tlsListener (sni : String) (best : Best) (listener : ListenerTable) : Best :=
  if hostnameMatches listener.hostname sni then listener.routes.foldl (tlsRoute sni listener) best
  else best

/-- The rule that a server name selects: as for requests, but over every listener that
matches the name. -/
def tlsMatch (table : PortTable) (sni : String) : Option Matched :=
  (table.listeners.foldl (tlsListener sni) none).map Prod.fst

def tlsTarget (table : PortTable) (sni : String) (index : EndpointsIndex) (turn : Turn) :
    Option (Matched × Target) :=
  match tlsMatch table sni with
  | none => none
  | some c => (c.rule.connect index turn).map fun target => (c, target)

namespace Tables

def pickTCP (t : Tables) (port : Int32) (index : EndpointsIndex) (turn : Turn) : Option Selection :=
  (t.byPort[port]?).bind fun table => if table.tcp then l4Selection table index turn else none

def pickUDP (t : Tables) (port : Int32) (index : EndpointsIndex) (turn : Turn) : Option Selection :=
  (t.byPort[port]?).bind fun table => if table.udp then l4Selection table index turn else none

def pickTLS (t : Tables) (port : Int32) (sni : String) (index : EndpointsIndex) (turn : Turn) :
    Option TLSSelection :=
  (t.byPort[port]?).bind fun table =>
    if table.tlsPassthrough then
      (tlsTarget table sni index turn).map fun picked =>
        picked.2.tlsSelection table picked.1.listener picked.1.route
    else none

end Tables

end Krouter.Routing
