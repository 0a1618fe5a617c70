import Krouter.Routing.Types

/-! Matching a request against the tables: nested loops that keep a running best. Lengths are counted in
bytes. -/

namespace Krouter.Routing
open Std Compiled Auth Http GoString

/-! ## Hostnames -/

def hostnameMatches (pattern host : String) : Bool :=
  if pattern = "" then true
  else if hasPrefix pattern "*." then
    let suffix := String.ofList (pattern.toList.drop 1)
    suffix.utf8ByteSize < host.utf8ByteSize && hasSuffix host suffix
  else equalFold pattern host

def routeHostnameMatches (hostnames : List String) (host : String) : Bool :=
  hostnames.isEmpty || hostnames.any fun pattern => hostnameMatches pattern host

def hostnameScore (hostname : String) : Int :=
  if hostname = "" then 0
  else if hasPrefix hostname "*." then hostname.utf8ByteSize
  else 65536 + hostname.utf8ByteSize

def routeHostnameScore (listener : ListenerTable) (route : RouteTable) (host : String) : Int :=
  if route.hostnames = [] then hostnameScore listener.hostname
  else route.hostnames.foldl (fun best pattern =>
    if hostnameMatches pattern host ∧ best < hostnameScore pattern then hostnameScore pattern
    else best) 0

/-! ## Rule matches -/

def pathPrefixMatches (pre path : String) : Bool :=
  let pre := trimSuffix pre "/"
  if pre = "" then true
  else if hasPrefix path pre then
    match path.toList.drop pre.toList.length with
    | [] => true
    | c :: _ => c = '/'
  else false

def pathApplies (m : Match) (path : String) : Bool :=
  if m.pathType = "" ∨ m.pathType = "PathPrefix" then
    m.pathValue = "" || pathPrefixMatches m.pathValue path
  else if m.pathType = "Exact" then path = m.pathValue
  else false

def matchApplies (m : Match) (r : Request) : Bool :=
  pathApplies m r.path && (m.method = "" || r.method = m.method) &&
    m.headers.all (fun h => r.header.get h.name = h.value) &&
    m.queryParams.all fun p => (r.query[p.name]?).bind List.head? = some p.value

def pathScore (m : Match) : Int :=
  if m.pathType = "Exact" then 65536 + m.pathValue.utf8ByteSize
  else if m.pathType = "" ∨ m.pathType = "PathPrefix" then (trimSuffix m.pathValue "/").utf8ByteSize
  else 0

structure RuleSpecificity where
  path : Int
  method : Int
  headers : Int
  queryParams : Int
  deriving DecidableEq

def RuleSpecificity.beats (s other : RuleSpecificity) : Bool :=
  if s.path ≠ other.path then other.path < s.path
  else if s.method ≠ other.method then other.method < s.method
  else if s.headers ≠ other.headers then other.headers < s.headers
  else other.queryParams < s.queryParams

def matchSpecificity (m : Match) : RuleSpecificity where
  path := pathScore m
  method := if m.method ≠ "" then 1 else 0
  headers := m.headers.length
  queryParams := m.queryParams.length

def ruleBestMatch (rule : RuleTable) (r : Request) : Option RuleSpecificity :=
  if rule.ruleMatches = [] then some ⟨0, 0, 0, 0⟩
  else rule.ruleMatches.foldl (fun best m =>
    if matchApplies m r then
      match best with
      | none => some (matchSpecificity m)
      | some b => if (matchSpecificity m).beats b then some (matchSpecificity m) else some b
    else best) none

/-! ## Tables -/

structure MatchScore where
  listenerHostname : Int
  routeHostname : Int
  specificity : RuleSpecificity
  created : Int64
  name : String
  deriving DecidableEq

def MatchScore.beats (s other : MatchScore) : Bool :=
  if s.listenerHostname ≠ other.listenerHostname then other.listenerHostname < s.listenerHostname
  else if s.routeHostname ≠ other.routeHostname then other.routeHostname < s.routeHostname
  else if s.specificity ≠ other.specificity then s.specificity.beats other.specificity
  else if s.created ≠ other.created then s.created < other.created
  else s.name < other.name

structure Matched where
  rule : RuleTable
  listener : ListenerTable
  route : RouteTable
  deriving DecidableEq

abbrev Best := Option (Matched × MatchScore)

def matchRule (host : String) (r : Request) (wantGRPC : Bool) (listener : ListenerTable)
    (route : RouteTable) (best : Best) (rule : RuleTable) : Best :=
  if rule.grpc ≠ wantGRPC then best
  else match ruleBestMatch rule r with
    | none => best
    | some specificity =>
      let score : MatchScore := ⟨hostnameScore listener.hostname,
        routeHostnameScore listener route host, specificity, route.created, route.key⟩
      match best with
      | none => some (⟨rule, listener, route⟩, score)
      | some b => if score.beats b.2 then some (⟨rule, listener, route⟩, score) else some b

def matchRoute (host : String) (r : Request) (wantGRPC : Bool) (listener : ListenerTable)
    (best : Best) (route : RouteTable) : Best :=
  if routeHostnameMatches route.hostnames host then
    route.rules.foldl (matchRule host r wantGRPC listener route) best
  else best

def winningScore (listeners : List ListenerTable) (host : String) : Int :=
  listeners.foldl (fun winning listener =>
    if hostnameMatches listener.hostname host ∧ winning < hostnameScore listener.hostname then
      hostnameScore listener.hostname
    else winning) (-1)

def matchListener (host : String) (r : Request) (wantGRPC : Bool) (winning : Int) (best : Best)
    (listener : ListenerTable) : Best :=
  if hostnameMatches listener.hostname host ∧ hostnameScore listener.hostname = winning then
    listener.routes.foldl (matchRoute host r wantGRPC listener) best
  else best

def matchPort (table : PortTable) (host : String) (r : Request) (wantGRPC : Bool) : Option Matched :=
  (table.listeners.foldl
    (matchListener host r wantGRPC (winningScore table.listeners host)) none).map Prod.fst

def isGRPCRequest (r : Request) : Bool := hasPrefix (r.header.get "Content-Type") "application/grpc"

namespace Tables

def matchFor (t : Tables) (port : Int32) (host : String) (r : Request) (wantGRPC : Bool) :
    Option Matched := (t.byPort[port]?).bind fun table => matchPort table host r wantGRPC

/-- A gRPC request prefers the rules of GRPCRoutes and falls back to the others. -/
def matchRequest (t : Tables) (port : Int32) (host : String) (r : Request) : Option Matched :=
  if isGRPCRequest r then (t.matchFor port host r true).or (t.matchFor port host r false)
  else t.matchFor port host r false

/-- The enforcers whose reserved endpoints intercept a path, once per extension. -/
def authEndpoint (t : Tables) (port : Int32) (host path : String) : List Enforcer :=
  match t.byPort[port]? with
  | none => []
  | some table =>
    let listeners := table.listeners.filter fun l => hostnameMatches l.hostname host
    let routes := listeners.flatMap fun l =>
      l.routes.filter fun rt => routeHostnameMatches rt.hostnames host
    (routes.flatMap RouteTable.rules).foldl (fun candidates rule =>
      match rule.authEnforcer with
      | none => candidates
      | some e =>
        if e.hasCookieProvider ∧ ¬ candidates.any (fun c => c.cfg.identity = e.cfg.identity) ∧
            (path = e.cfg.pathPrefix ∨ hasPrefix path (e.cfg.pathPrefix ++ "/")) then candidates ++ [e]
        else candidates) []

end Tables

/-! ## Listener ownership -/

/-- The listener that owns a hostname, with its position: the source compares pointers. -/
def bestListenerFor (table : PortTable) (host : String) : Option (ListenerTable × Nat) :=
  (table.listeners.zipIdx.foldl (fun best l =>
    if hostnameMatches l.1.hostname host ∧ best.2 < hostnameScore l.1.hostname then
      (some l, hostnameScore l.1.hostname)
    else best) ((none : Option (ListenerTable × Nat)), (-1 : Int))).1

def Tables.misdirected (t : Tables) (port : Int32) (serverName host : String) : Bool :=
  match (t.byPort[port]?).bind fun table => (bestListenerFor table serverName).map (table, ·) with
  | none => false
  | some (table, selected) => (bestListenerFor table host).map Prod.snd ≠ some selected.2

/-- The listener whose certificate a handshake gets: the first with one that matches the server name, or
else the first with one. -/
def PortTable.certificateFor (table : PortTable) (serverName : String) : Option (ListenerTable × Nat) :=
  let certified := table.listeners.zipIdx.filter fun l => l.1.cert.isSome
  (certified.find? fun l => serverName ≠ "" && hostnameMatches l.1.hostname serverName).or
    certified.head?

def Tables.certificateFor (t : Tables) (port : Int32) (serverName : String) :
    Option (ListenerTable × Nat) :=
  (t.byPort[port]?).bind fun table => table.certificateFor serverName

end Krouter.Routing
