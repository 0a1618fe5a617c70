import Krouter.ControlPlane.Ports
import Krouter.ControlPlane.World
import Krouter.Routing.Platform
import Krouter.Routing.Types
import Mathlib.Data.List.Sort

/-! The effective listeners of a Gateway: its own and those of its accepted ListenerSets,
validated one by one and then against each other. -/

namespace Krouter.ControlPlane
open Compiled Ports Routing

/-! ## Listener sets -/

structure ListenerSetState where
  set : ListenerSet
  accepted : Bool

def parentGatewayMatches (set : ListenerSet) (gw : Gateway) : Bool :=
  let ref := set.parentRef
  ref.group.all (fun group => group = groupName || group = "") &&
    ref.kind.all (· = "Gateway") && ref.ns.getD set.ns = gw.ns && ref.name = gw.name

def selects (namespaces : GoMap String Labels) (selector : Option LabelSelector) (ns : String) : Bool :=
  match selector.bind LabelSelector.parsed with
  | none => false
  | some matchesLabels => matchesLabels (namespaces.read ns ∅)

def fromAll : String := "All"
def fromSame : String := "Same"
def fromSelector : String := "Selector"

/-- Without an explicit policy no ListenerSet is allowed. -/
def listenerSetAllowed (gw : Gateway) (set : ListenerSet) (namespaces : GoMap String Labels) : Bool :=
  match gw.allowedListeners.bind fun allowed => allowed.origin.map (allowed, ·) with
  | none => false
  | some (allowed, origin) =>
    if origin = fromAll then true
    else if origin = fromSame then set.ns = gw.ns
    else if origin = fromSelector then selects namespaces allowed.selector set.ns
    else false

def selectListenerSets (w : World) (gw : Gateway) : List ListenerSetState :=
  ((w.listenerSets.filter fun set => parentGatewayMatches set gw).map fun set =>
    ⟨set, listenerSetAllowed gw set w.namespaces⟩).insertionSort fun a b =>
      a.set.created < b.set.created ∨ a.set.created = b.set.created ∧
        ¬ nsName b.set.ns b.set.name < nsName a.set.ns a.set.name

/-! ## Listener states -/

inductive ListenerReason where
  | accepted
  | resolvedRefs
  | unsupportedValue
  | unsupportedProtocol
  | portUnavailable
  | invalidRouteKinds
  | invalidCertificateRef
  | refNotPermitted
  | noValidCACertificate
  | invalidCACertificateKind
  | invalidCACertificateRef
  | protocolConflict
  | hostnameConflict
  deriving DecidableEq

structure SetName where
  ns : String
  name : String
  deriving DecidableEq

/-- The validated view of one listener. The published `supportedKinds` are the allowed
kinds. -/
structure ListenerState where
  spec : ListenerSpec
  set : Option SetName
  internalPort : Int32
  accepted : Bool
  acceptedReason : ListenerReason
  conflicted : Bool
  refsResolved : Bool
  refsReason : ListenerReason
  refsMessage : String
  allowedKinds : List String
  certData : GoMap String String
  clientCAMode : String
  attachedRoutes : Int32

namespace ListenerState

def valid (l : ListenerState) : Bool := l.accepted && l.refsResolved

def ownerKey (l : ListenerState) : String :=
  match l.set with
  | none => ""
  | some set => nsName set.ns set.name

def effectiveName (l : ListenerState) : String :=
  match l.set with
  | none => l.spec.name
  | some set => set.ns ++ "--" ++ set.name ++ "--" ++ l.spec.name

def reject (l : ListenerState) (reason : ListenerReason) : ListenerState :=
  { l with accepted := false, acceptedReason := reason }

def unresolve (l : ListenerState) (reason : ListenerReason) (message : String) : ListenerState :=
  { l with refsResolved := false, refsReason := reason, refsMessage := message }

end ListenerState

/-! ## Route kinds -/

def protocolHTTP : String := "HTTP"
def protocolHTTPS : String := "HTTPS"
def protocolTCP : String := "TCP"
def protocolUDP : String := "UDP"
def protocolTLS : String := "TLS"

def modePassthrough : String := "Passthrough"
def modeTerminate : String := "Terminate"

def protocolRouteKinds (protocol : String) : List String :=
  if protocol = protocolHTTP ∨ protocol = protocolHTTPS then ["HTTPRoute", "GRPCRoute"]
  else if protocol = protocolTCP then ["TCPRoute"]
  else if protocol = protocolUDP then ["UDPRoute"]
  else if protocol = protocolTLS then ["TLSRoute"]
  else []

def servable (protocol : String) (kind : RouteGroupKind) : Bool :=
  kind.group.all (· = groupName) && (protocolRouteKinds protocol).contains kind.kind

def resolveRouteKinds (state : ListenerState) : ListenerState :=
  if ¬ state.accepted then { state with allowedKinds := [] }
  else
    let requested := (state.spec.allowedRoutes.map AllowedRoutes.kinds).getD []
    if requested = [] then { state with allowedKinds := protocolRouteKinds state.spec.protocol }
    else
      let kinds := ((requested.filter (servable state.spec.protocol)).map RouteGroupKind.kind).eraseDups
      let state := { state with allowedKinds := kinds }
      if requested.any (fun kind => ¬ servable state.spec.protocol kind) ∧ state.refsResolved then
        state.unresolve .invalidRouteKinds "allowedRoutes.kinds contains kinds this listener cannot serve"
      else state

/-! ## Certificates -/

structure RefOwner where
  kind : String
  ns : String
  deriving DecidableEq

/-- The object lies in the owner's namespace, or a grant there lets the owner refer to it. -/
def permitted (w : World) (owner : RefOwner) (kind ns name : String) : Bool :=
  ns = owner.ns || referenceGrantAllows w.grants groupName owner.kind owner.ns kind ns name

def listenerOwner (gw : Gateway) (set : Option SetName) : RefOwner :=
  match set with
  | none => ⟨"Gateway", gw.ns⟩
  | some set => ⟨"ListenerSet", set.ns⟩

def SecretRef.isSecret (ref : SecretRef) : Bool :=
  ref.kind.all (· = "Secret") && ref.group.all (· = "")

variable (p : Platform) (w : World) (gw : Gateway)

def resolveCertificateRef (owner : RefOwner) (ref : SecretRef) :
    Except (ListenerReason × String) Certificate :=
  let ns := ref.ns.getD owner.ns
  if ¬ ref.isSecret then
    .error (.invalidCertificateRef, "certificateRefs must reference core Secrets")
  else if ¬ permitted w owner "Secret" ns ref.name then
    .error (.refNotPermitted,
      "reference to Secret " ++ nsName ns ref.name ++ " not permitted by any ReferenceGrant")
  else match w.secret ns ref.name with
    | none => .error (.invalidCertificateRef, "Secret " ++ nsName ns ref.name ++ " not found")
    | some data =>
      let cert : Certificate := ⟨data.read "tls.crt" "", data.read "tls.key" ""⟩
      if cert.certPEM = "" ∨ cert.keyPEM = "" then
        .error (.invalidCertificateRef, "Secret " ++ nsName ns ref.name ++ " has no TLS material")
      else match p.x509KeyPair cert.certPEM cert.keyPEM with
        | .error err => .error (.invalidCertificateRef,
            "Secret " ++ nsName ns ref.name ++ " has malformed TLS material: " ++ err)
        | .ok _ => .ok cert

def ListenerState.addCertificate (state : ListenerState) (cert : Certificate) : ListenerState :=
  { state with
    certData := (state.certData.insert (state.effectiveName ++ ".tls.crt") cert.certPEM).insert
      (state.effectiveName ++ ".tls.key") cert.keyPEM }

def resolveCertificateRefs (owner : RefOwner) : ListenerState → List SecretRef → ListenerState
  | state, [] => state
  | state, ref :: refs =>
    match resolveCertificateRef p w owner ref with
    | .error (reason, message) => state.unresolve reason message
    | .ok cert => resolveCertificateRefs owner (state.addCertificate cert) refs

def resolveCertificates (state : ListenerState) : ListenerState :=
  let refs := (state.spec.tls.map TLSConfig.certificateRefs).getD []
  if refs = [] then state.unresolve .invalidCertificateRef "HTTPS listener requires a certificateRef"
  else resolveCertificateRefs p w (listenerOwner gw state.set) state refs

/-! ## Client certificates -/

def frontendValidationFor (port : Int32) : Option FrontendTLSValidation :=
  gw.frontendTLS.bind fun frontend =>
    (frontend.perPort.findSome? fun entry => if entry.port = port then entry.validation else none).or
      frontend.default

def validCAPem (bundle : String) : Bool :=
  (p.pemBlocks bundle).any fun block => block.type = "CERTIFICATE" && p.parseCertificate block.bytes

def resolveCARef (ref : ObjectReference) : Except ListenerReason String :=
  let ns := ref.ns.getD gw.ns
  if ref.kind ≠ "ConfigMap" ∨ ref.group ≠ "" then .error .invalidCACertificateKind
  else if ¬ permitted w ⟨"Gateway", gw.ns⟩ "ConfigMap" ns ref.name then .error .refNotPermitted
  else match w.configMap ns ref.name with
    | none => .error .invalidCACertificateRef
    | some data => .ok (data.read "ca.crt" "")

def resolveCABundle (refs : List ObjectReference) : Except ListenerReason String := do
  let bundles ← refs.mapM (resolveCARef w gw)
  let bundle := String.join (bundles.map (· ++ "\n"))
  if validCAPem p bundle then pure bundle else .error .invalidCACertificateRef

def allowValidOnly : String := "AllowValidOnly"

def FrontendTLSValidation.effectiveMode (validation : FrontendTLSValidation) : String :=
  if validation.mode = "" then allowValidOnly else validation.mode

def resolveFrontendValidation (state : ListenerState) : ListenerState :=
  match frontendValidationFor gw state.spec.port with
  | none => state
  | some validation =>
    match resolveCABundle p w gw validation.caCertificateRefs with
    | .error reason =>
      { state with refsResolved := false, refsReason := reason }.reject .noValidCACertificate
    | .ok bundle =>
      { state with
        clientCAMode := validation.effectiveMode
        certData := state.certData.insert (state.effectiveName ++ ".client-ca.crt") bundle }

/-! ## Validation -/

def listenerTerminatesTLS (spec : ListenerSpec) : Bool :=
  spec.protocol = protocolTLS && (spec.tls.bind TLSConfig.mode) = some modeTerminate

def newListenerState (spec : ListenerSpec) (set : Option SetName) : ListenerState where
  spec := spec
  set := set
  internalPort := 0
  accepted := true
  acceptedReason := .accepted
  conflicted := false
  refsResolved := true
  refsReason := .resolvedRefs
  refsMessage := ""
  allowedKinds := []
  certData := ∅
  clientCAMode := ""
  attachedRoutes := 0

def checkProtocol (state : ListenerState) : ListenerState :=
  let spec := state.spec
  if spec.protocol = protocolHTTP ∨ spec.protocol = protocolHTTPS ∨ spec.protocol = protocolTCP ∨
      spec.protocol = protocolUDP then state
  else if spec.protocol = protocolTLS then
    let mode := spec.tls.bind TLSConfig.mode
    if mode = some modePassthrough ∨ mode = some modeTerminate then state
    else state.reject .unsupportedValue
  else state.reject .unsupportedProtocol

def resolveKeyPair (state : ListenerState) : ListenerState :=
  if state.refsResolved ∧ (state.spec.protocol = protocolHTTPS ∨ listenerTerminatesTLS state.spec) then
    resolveCertificates p w gw state
  else state

def resolveRefs (state : ListenerState) : ListenerState :=
  let state := resolveKeyPair p w gw state
  if state.spec.protocol = protocolHTTPS ∧ state.refsResolved then resolveFrontendValidation p w gw state
  else state

/-- A port is allocated even to a listener that was rejected. -/
def validateListener (spec : ListenerSpec) (set : Option SetName) (allocator : PortAllocator) :
    ListenerState × PortAllocator :=
  let state := resolveRefs p w gw (resolveRouteKinds (checkProtocol (newListenerState spec set)))
  match allocator.allocate gw.uid spec.port spec.protocol with
  | (.ok port, allocator) => ({ state with internalPort := port }, allocator)
  | (.error _, allocator) => (state.reject .portUnavailable, allocator)

def effectiveSpecs (sets : List ListenerSetState) : List (ListenerSpec × Option SetName) :=
  gw.listeners.map (·, none) ++
    (sets.filter ListenerSetState.accepted).flatMap fun state =>
      state.set.listeners.map (·, some ⟨state.set.ns, state.set.name⟩)

def validateEach : List (ListenerSpec × Option SetName) → PortAllocator → List ListenerState × PortAllocator
  | [], allocator => ([], allocator)
  | (spec, set) :: specs, allocator =>
    let (state, allocator) := validateListener p w gw spec set allocator
    let (states, allocator) := validateEach specs allocator
    (state :: states, allocator)

/-! ## Conflicts -/

structure Claimed where
  port : Int32
  protocol : String
  hostname : String
  deriving DecidableEq

def ListenerState.claimed (l : ListenerState) : Claimed :=
  ⟨l.spec.port, l.spec.protocol, l.spec.hostname.getD ""⟩

def conflictReason (earlier : List Claimed) (c : Claimed) : Option ListenerReason :=
  (earlier.filter fun e => e.port = c.port).findSome? fun e =>
    if e.protocol ≠ c.protocol then some .protocolConflict
    else if e.hostname = c.hostname then some .hostnameConflict
    else none

def rejectConflicting (earlier : List Claimed) : List ListenerState → List ListenerState
  | [] => []
  | lst :: rest =>
    if ¬ lst.accepted then lst :: rejectConflicting earlier rest
    else match conflictReason earlier lst.claimed with
      | some reason =>
        resolveRouteKinds ({ lst with conflicted := true }.reject reason) :: rejectConflicting earlier rest
      | none => lst :: rejectConflicting (earlier ++ [lst.claimed]) rest

def rejectConflictingListeners (listeners : List ListenerState) : List ListenerState :=
  rejectConflicting [] listeners

def validateListeners (sets : List ListenerSetState) (allocator : PortAllocator) :
    List ListenerState × PortAllocator :=
  let (states, allocator) := validateEach p w gw (effectiveSpecs gw sets) allocator
  (rejectConflictingListeners states, allocator)

end Krouter.ControlPlane
