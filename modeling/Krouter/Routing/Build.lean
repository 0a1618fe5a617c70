import Krouter.Lib.Result
import Krouter.Routing.Match
import Krouter.Routing.Platform
import Mathlib.Data.List.Sort

/-! Building the routing table of one Gateway from its compiled payloads. -/

namespace Krouter.Routing
open Compiled Auth GoString

abbrev SecretData := GoMap String String

section
variable (p : Platform)

def newTrust (cidrs : List String) : Except String (List String) :=
  cidrs.mapM fun cidr => (p.parsePrefix cidr).mapError fun err =>
    "invalid trusted proxy " ++ quote cidr ++ ": " ++ err

def buildAuthEnforcer (identity : String) (secret : Option SecretData) : Except String Enforcer := do
  let secret ← secret.elim (.error ("no generated secret for auth extension " ++ identity)) .ok
  let payload ← (secret[authSecretKey identity]?).elim
    (.error ("generated secret misses auth extension " ++ identity)) .ok
  let config ← (p.unmarshal authCodec "Auth" payload).mapError fun err =>
    "auth extension " ++ identity ++ ": " ++ err
  newEnforcer p.toHydration config

/-! ## Listeners -/

def listenerCertificate (secret : Option SecretData) (lst : Listener) :
    Except String (Option Certificate) :=
  if lst.hasTLS then
    match secret with
    | none => .error ("listener " ++ lst.name ++ ": missing generation TLS secret")
    | some secret =>
      let cert : Certificate :=
        ⟨secret.read (lst.name ++ ".tls.crt") "", secret.read (lst.name ++ ".tls.key") ""⟩
      match p.x509KeyPair cert.certPEM cert.keyPEM with
      | .error err => .error ("listener " ++ lst.name ++ ": invalid certificate: " ++ err)
      | .ok _ => .ok (some cert)
  else .ok none

def listenerClientCAs (secret : Option SecretData) (lst : Listener) : Except String (Option String) :=
  if lst.clientCAMode ≠ "" then
    match secret with
    | none => .error ("listener " ++ lst.name ++ ": missing generation TLS secret")
    | some secret =>
      let bundle := secret.read (lst.name ++ ".client-ca.crt") ""
      if p.appendCertsFromPEM bundle then .ok (some bundle)
      else .error ("listener " ++ lst.name ++ ": invalid client CA bundle")
  else .ok none

def listenerClientAuth (lst : Listener) : ClientAuthType :=
  if lst.clientCAMode = "" then .noClientCert
  else if lst.clientCAMode = "AllowInsecureFallback" then .requestClientCert
  else .requireAndVerifyClientCert

def buildListener (secret : Option SecretData) (lst : Listener) : Except String ListenerTable := do
  let cert ← listenerCertificate p secret lst
  let clientCAs ← listenerClientCAs p secret lst
  return ⟨lst.name, lst.hostname, cert, lst.protocol = "TLS" && lst.hasTLS, clientCAs,
    listenerClientAuth lst, []⟩

def newPort (gateway : GatewayConfig) (trust : List String) (lst : Listener) : PortTable where
  gatewayUID := gateway.uid
  gatewayName := gateway.ns ++ "/" ++ gateway.name
  tls := lst.hasTLS && lst.protocol != "TLS"
  tcp := lst.protocol = "TCP"
  udp := lst.protocol = "UDP"
  tlsPassthrough := lst.protocol = "TLS"
  proxyProtocol := false
  listeners := []
  trust := trust

def openPort (gateway : GatewayConfig) (trust : List String) (ports : GoMap Int32 PortTable)
    (lst : Listener) : GoMap Int32 PortTable :=
  let port := ports.read lst.internalPort (newPort gateway trust lst)
  ports.insert lst.internalPort { port with proxyProtocol := port.proxyProtocol || lst.proxyProtocol }

/-! ## Backends -/

abbrev Transports := GoMap String TLSTransport

def backendsOf (table : GatewayTable) : List BackendTable :=
  table.byPort.toList.flatMap fun port => port.2.listeners.flatMap fun lst =>
    lst.routes.flatMap fun rt => rt.rules.flatMap fun rule =>
      rule.backends ++ rule.mirrors.map MirrorTable.backend

def previousTransports (previous : Option GatewayTable) : Transports :=
  match previous with
  | none => ∅
  | some table => (backendsOf table).foldl (fun cache backend =>
      match backend.tlsTransport with
      | some transport => if backend.tlsKey ≠ "" then cache.insert backend.tlsKey transport else cache
      | none => cache) ∅

def backendTLSFingerprint (tls : BackendTLS) (clientCertSum : String) : String :=
  tls.subjectAltNames.foldl (fun key san => key ++ "|" ++ san.type ++ ":" ++ san.value)
    (tls.hostname ++ "|" ++ clientCertSum ++ "|" ++
      if tls.systemCAs then "system" else checksumBytes p.sum256 tls.caPem)

structure ClientCert where
  cert : Option Certificate
  sum : String

def plainBackend (backend : BackendTarget) (filters : List Filter) : BackendTable where
  ns := backend.ns
  name := backend.name
  port := backend.port
  weight := backend.weight
  valid := backend.valid
  h2c := backend.appProtocol = appProtocolH2C
  filters := filters
  tlsKey := ""
  tlsTransport := none
  tlsInvalid := false

def buildBackendTable (client : ClientCert) (transports : Transports) (backend : BackendTarget)
    (filters : List Filter) : BackendTable × Transports :=
  let entry := plainBackend backend filters
  match backend.tls with
  | none => (entry, transports)
  | some tls =>
    if tls.invalid then ({ entry with tlsInvalid := true }, transports)
    else
      let key := backendTLSFingerprint p tls client.sum
      match transports[key]? with
      | some transport => ({ entry with tlsKey := key, tlsTransport := some transport }, transports)
      | none =>
        if ¬ tls.systemCAs ∧ ¬ p.appendCertsFromPEM tls.caPem then
          ({ entry with tlsKey := key, tlsInvalid := true }, transports)
        else
          let transport : TLSTransport := ⟨tls.hostname, client.cert,
            if tls.systemCAs then none else some tls.caPem, tls.subjectAltNames⟩
          ({ entry with tlsKey := key, tlsTransport := some transport }, transports.insert key transport)

/-! ## Routes -/

structure BuildState where
  transports : Transports
  namespaces : GoMap String Bool

def BuildState.declare (s : BuildState) (backend : BackendTarget) : BuildState :=
  if backend.valid then { s with namespaces := s.namespaces.insert backend.ns true } else s

def defaultPercent : Json.Number := ⟨['1', '0', '0'], by decide⟩

def addFilter (client : ClientCert) (acc : RuleTable × BuildState) (filter : Filter) :
    RuleTable × BuildState :=
  let entry := if filter.type = filterCORS then { acc.1 with cors := filter.cors } else acc.1
  match filter.mirror with
  | none => (entry, acc.2)
  | some mirror =>
    if filter.type ≠ filterRequestMirror then (entry, acc.2)
    else
      let (backend, transports) := buildBackendTable p client acc.2.transports mirror []
      ({ entry with mirrors := entry.mirrors ++ [⟨backend, filter.mirrorPercent.getD defaultPercent⟩] },
        { acc.2 with transports }.declare mirror)

def addBackend (client : ClientCert) (acc : RuleTable × BuildState) (backend : Backend) :
    RuleTable × BuildState :=
  if backend.weight ≤ 0 then acc
  else
    let (table, transports) :=
      buildBackendTable p client acc.2.transports backend.toBackendTarget backend.filters
    ({ acc.1 with
        backends := acc.1.backends ++ [table]
        total := acc.1.total + backend.weight.toInt64 },
      { acc.2 with transports }.declare backend.toBackendTarget)

def ruleExtensions (grpc : Bool) (secret : Option SecretData) (rule : Rule) : RuleTable where
  ruleMatches := rule.ruleMatches
  filters := rule.filters
  backends := []
  mirrors := []
  cors := none
  grpc := grpc
  requestTimeout := rule.requestTimeoutMillis * 1000000
  backendTimeout := rule.backendTimeoutMillis * 1000000
  total := 0
  limiter := rule.rateLimit
  wafEngine := if rule.waf ≠ "" ∧ (p.newEngine rule.waf).toBool then some rule.waf else none
  authEnforcer := if rule.auth ≠ "" then (buildAuthEnforcer p rule.auth secret).toOption else none
  extensionsInvalid := rule.extensionsInvalid ||
    (rule.waf != "" && !(p.newEngine rule.waf).toBool) ||
    (rule.auth != "" && !(buildAuthEnforcer p rule.auth secret).toBool)

def buildRuleTable (client : ClientCert) (secret : Option SecretData) (grpc : Bool)
    (state : BuildState) (rule : Rule) : RuleTable × BuildState :=
  let filtered := rule.filters.foldl (addFilter p client) (ruleExtensions p grpc secret rule, state)
  rule.backends.foldl (addBackend p client) filtered

def buildRule (client : ClientCert) (secret : Option SecretData) (grpc : Bool)
    (acc : List RuleTable × BuildState) (rule : Rule) : List RuleTable × BuildState :=
  let (entry, state) := buildRuleTable p client secret grpc acc.2 rule
  (acc.1 ++ [entry], state)

abbrev Entry := Int32 × ListenerTable

/-- The route is attached to the last listener of that name. -/
def attachRoute (rt : RouteTable) (name : String) : List Entry → List Entry
  | [] => []
  | entry :: entries =>
    if entry.2.name = name ∧ entries.all (fun e => e.2.name ≠ name) then
      (entry.1, { entry.2 with routes := entry.2.routes ++ [rt] }) :: entries
    else entry :: attachRoute rt name entries

def buildRoute (client : ClientCert) (secret : Option SecretData)
    (acc : List Entry × BuildState) (route : RouteConfig) : List Entry × BuildState :=
  let (rules, state) := route.rules.foldl (buildRule p client secret route.grpc) ([], acc.2)
  let rt : RouteTable := ⟨route.ns, route.name, route.hostnames, route.created, rules⟩
  (route.listeners.foldl (fun entries name => attachRoute rt name entries) acc.1, state)

def hostnameSpecificity (hostname : String) : Nat :=
  if hostname = "" then 0 else if hasPrefix hostname "*." then 1 else 2

/-- `sort.SliceStable`: the most specific listener first. -/
def sortListeners (listeners : List ListenerTable) : List ListenerTable :=
  listeners.insertionSort fun a b => hostnameSpecificity b.hostname ≤ hostnameSpecificity a.hostname

def backendClientCert (gateway : GatewayConfig) (secret : Option SecretData) :
    Except String ClientCert :=
  match secret with
  | none => .ok ⟨none, ""⟩
  | some secret =>
    if gateway.backendClientCert then
      let cert : Certificate := ⟨secret.read backendClientCertKey "", secret.read backendClientKeyKey ""⟩
      match p.x509KeyPair cert.certPEM cert.keyPEM with
      | .error err => .error ("invalid backend client certificate: " ++ err)
      | .ok _ => .ok ⟨some cert, checksumBytes p.sum256 (cert.certPEM ++ cert.keyPEM)⟩
    else .ok ⟨none, ""⟩

def buildGatewayTable (generation : String) (gateway : GatewayConfig) (routes : List RouteConfig)
    (secret : Option SecretData) (previous : Option GatewayTable) : Except String GatewayTable := do
  let trust ← (newTrust p gateway.trustedProxies).mapError fun err => "invalid trusted proxies: " ++ err
  let entries ← gateway.listeners.mapM fun lst => do
    let entry ← buildListener p secret lst
    return ((lst.internalPort, entry) : Entry)
  let client ← backendClientCert p gateway secret
  let (entries, state) :=
    routes.foldl (buildRoute p client secret) (entries, ⟨previousTransports previous, ∅⟩)
  let ports := gateway.listeners.foldl (openPort gateway trust) ∅
  let byPort := ports.map fun port table =>
    { table with listeners := sortListeners ((entries.filter fun e => e.1 = port).map Prod.snd) }
  return ⟨generation, byPort, state.namespaces⟩

variable {p} in
theorem buildGatewayTable_generation {generation : String} {gateway : GatewayConfig}
    {routes : List RouteConfig} {secret : Option SecretData} {previous : Option GatewayTable}
    {table : GatewayTable}
    (h : buildGatewayTable p generation gateway routes secret previous = .ok table) :
    table.generation = generation := by
  obtain ⟨trust, -, h⟩ := Result.bind_eq_ok.mp h
  obtain ⟨entries, -, h⟩ := Result.bind_eq_ok.mp h
  obtain ⟨client, -, h⟩ := Result.bind_eq_ok.mp h
  cases h
  rfl

end

def mergeTables (gateways : List GatewayTable) : Tables :=
  gateways.foldl (fun merged gateway =>
    ⟨merged.byPort.setAll gateway.byPort.toList, merged.backends.setAll
      (gateway.namespaces.toList.map fun entry => (entry.1, true))⟩) emptyTables

end Krouter.Routing
