import Krouter.ControlPlane.Listeners
import Krouter.ControlPlane.Publish

/-! What `publishGeneration` makes of the validated listeners and the outcomes of a Gateway: its
configuration, one for each attached route, and the data of the Secret. -/

namespace Krouter.ControlPlane
open Compiled Routing

/-! ## The backend client certificate -/

inductive GatewayReason where
  | resolvedRefs
  | invalidClientCertificateRef
  | refNotPermitted
  deriving DecidableEq

structure BackendClientCert where
  cert : Option Certificate
  resolved : Bool
  reason : GatewayReason
  message : String
  deriving DecidableEq

def BackendClientCert.invalid (reason : GatewayReason) (message : String) : BackendClientCert :=
  ⟨none, false, reason, message⟩

def resolveBackendClientCert (p : Platform) (w : World) (gw : Gateway) : BackendClientCert :=
  match gw.backendClientCertificateRef with
  | none => ⟨none, true, .resolvedRefs, "all references resolved"⟩
  | some ref =>
    let ns := ref.ns.getD gw.ns
    if ¬ ref.isSecret then
      .invalid .invalidClientCertificateRef "clientCertificateRef must reference a core Secret"
    else if ¬ permitted w ⟨"Gateway", gw.ns⟩ "Secret" ns ref.name then
      .invalid .refNotPermitted
        ("reference to Secret " ++ nsName ns ref.name ++ " not permitted by any ReferenceGrant")
    else match w.secret ns ref.name with
      | none => .invalid .invalidClientCertificateRef ("Secret " ++ nsName ns ref.name ++ " not found")
      | some data =>
        let cert : Certificate := ⟨data.read "tls.crt" "", data.read "tls.key" ""⟩
        match p.x509KeyPair cert.certPEM cert.keyPEM with
        | .error _ => .invalid .invalidClientCertificateRef
            ("Secret " ++ nsName ns ref.name ++ " holds no valid keypair")
        | .ok _ => ⟨some cert, true, .resolvedRefs, "all references resolved"⟩

/-! ## Route outcomes -/

inductive RouteReason where
  | accepted
  | resolvedRefs
  | noMatchingParent
  | notAllowedByListeners
  | noMatchingListenerHostname
  | unsupportedValue
  | invalidKind
  | refNotPermitted
  | backendNotFound
  | invalidExtensionRef
  deriving DecidableEq

structure RouteOutcome where
  accepted : Bool
  acceptedReason : RouteReason
  refsResolved : Bool
  refsReason : RouteReason
  refsMessage : String
  config : Option RouteConfig
  /-- The authentication documents of the rules by extension identity. -/
  authDocs : GoMap String String
  deriving DecidableEq

/-! ## Payloads -/

def compileListener (infra : InfraParams) (lst : ListenerState) : Listener where
  name := lst.effectiveName
  port := lst.spec.port
  internalPort := lst.internalPort
  protocol := lst.spec.protocol
  hostname := lst.spec.hostname.getD ""
  hasTLS := lst.spec.protocol = protocolHTTPS || listenerTerminatesTLS lst.spec
  clientCAMode := lst.clientCAMode
  proxyProtocol := lst.set.isNone && infra.proxyProtocolListeners.contains lst.spec.name

def compileGatewayConfig (gw : Gateway) (infra : InfraParams) (listeners : List ListenerState)
    (clientCert : BackendClientCert) : GatewayConfig where
  uid := gw.uid
  ns := gw.ns
  name := gw.name
  listeners := (listeners.filter ListenerState.valid).map (compileListener infra)
  backendClientCert := clientCert.resolved && clientCert.cert.isSome
  trustedProxies := infra.trustedProxies

def clientCertData (clientCert : BackendClientCert) : GoMap String String :=
  match clientCert.cert with
  | none => ∅
  | some cert =>
    if clientCert.resolved then
      ((∅ : GoMap String String).insert backendClientCertKey cert.certPEM).insert backendClientKeyKey cert.keyPEM
    else ∅

def tlsSecretData (clientCert : BackendClientCert) (listeners : List ListenerState) : GoMap String String :=
  (listeners.filter ListenerState.valid).foldl (fun data lst => GoMap.setAll data lst.certData.toList)
    (clientCertData clientCert)

def addListeners (listeners names : List String) : List String :=
  names.foldl (fun all name => if all.contains name then all else all ++ [name]) listeners

structure Attachments where
  routeConfigs : GoMap String RouteConfig
  secretData : GoMap String String
  deriving DecidableEq

/-- Outcomes of one route share an attachment with the listeners of them all; an outcome
without listeners contributes nothing. -/
def addOutcome (acc : Attachments) (outcome : RouteOutcome) : Attachments :=
  match outcome.config with
  | none => acc
  | some config =>
    if config.listeners = [] then acc
    else
      let secretData := GoMap.setAll acc.secretData
        (outcome.authDocs.toList.map fun doc => (authSecretKey doc.1, doc.2))
      match acc.routeConfigs[config.uid]? with
      | none => ⟨acc.routeConfigs.insert config.uid config, secretData⟩
      | some existing =>
        ⟨acc.routeConfigs.insert config.uid
          { existing with listeners := addListeners existing.listeners config.listeners }, secretData⟩

def compileAttachments (clientCert : BackendClientCert) (listeners : List ListenerState)
    (outcomes : List RouteOutcome) : Attachments :=
  outcomes.foldl addOutcome ⟨∅, tlsSecretData clientCert listeners⟩

/-- The order in which a loop happens to visit the entries of a map. -/
structure MapOrder where
  visit : List (String × String) → List (String × String)
  perm : ∀ entries, (visit entries).Perm entries

def MapOrder.sorted : MapOrder := ⟨id, fun _ => .refl _⟩

def publicationOf (order : MapOrder) (uid : Publish.UID) (gw : Gateway) (infra : InfraParams)
    (listeners : List ListenerState) (clientCert : BackendClientCert) (outcomes : List RouteOutcome) :
    Publish.Publication :=
  let compiled := compileAttachments clientCert listeners outcomes
  let attachments := compiled.routeConfigs.map fun _ config => routeConfigCodec.marshal config
  { uid := uid
    gatewayPayload := gatewayConfigCodec.marshal (compileGatewayConfig gw infra listeners clientCert)
    attachments := attachments
    secretData := compiled.secretData
    visit := order.visit attachments.toList
    visit_perm := order.perm _ }

end Krouter.ControlPlane
