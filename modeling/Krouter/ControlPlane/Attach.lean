import Krouter.ControlPlane.RouteCompile

/-! Attaching a route to the listeners of a parent: admission, compilation of the whole route, and the
counters of its listeners. -/

namespace Krouter.ControlPlane
open Compiled Routing GoString

/-! ## Admission -/

def inSection (parentRef : ParentReference) (l : ListenerState) : Bool :=
  parentRef.sectionName.all (· = l.spec.name) && parentRef.port.all (· = l.spec.port)

def namespaceAllowed (allowed : Option AllowedRoutes) (routeNamespace ownerNamespace : String)
    (namespaces : GoMap String Labels) : Bool :=
  let policy := allowed.bind AllowedRoutes.namespaces
  let origin := (policy.bind RouteNamespaces.origin).getD fromSame
  if origin = fromAll then true
  else if origin = fromSame then routeNamespace = ownerNamespace
  else if origin = fromSelector then selects namespaces (policy.bind RouteNamespaces.selector) routeNamespace
  else false

def admitsNamespace (gatewayNamespace routeNamespace : String) (namespaces : GoMap String Labels)
    (l : ListenerState) : Bool :=
  namespaceAllowed l.spec.allowedRoutes routeNamespace ((l.set.map SetName.ns).getD gatewayNamespace) namespaces

def wildcardMatches (pattern host : String) : Bool :=
  if hasPrefix pattern "*." then
    let suffix := String.ofList (pattern.toList.drop 1)
    suffix.utf8ByteSize < host.utf8ByteSize && hasSuffix host suffix
  else equalFold pattern host

def hostnamesIntersect (listenerHostname : Option String) (routeHostnames : List String) : Bool :=
  let pattern := listenerHostname.getD ""
  pattern = "" || routeHostnames.isEmpty ||
    routeHostnames.any fun host => wildcardMatches pattern host || wildcardMatches host pattern

structure Applicant where
  kind : String
  ns : String
  parentRef : ParentReference

section
variable (w : Snapshot) (gw : Gateway) (route : Applicant)

def admitListeners (listeners : List ListenerState) : Except RouteReason (List ListenerState) :=
  let candidates := listeners.filter (inSection route.parentRef)
  let kindAdmitted := candidates.filter fun l => l.allowedKinds.contains route.kind
  let admitted := kindAdmitted.filter (admitsNamespace gw.ns route.ns w.namespaces)
  if candidates.isEmpty then .error .noMatchingParent
  else if kindAdmitted.isEmpty then .error .notAllowedByListeners
  else if admitted.isEmpty then .error .notAllowedByListeners
  else .ok admitted

def admitByHostname (listeners : List ListenerState) (hostnames : List String) : List ListenerState :=
  listeners.filter fun l => hostnamesIntersect l.spec.hostname hostnames

def admits (hostnames : List String) (l : ListenerState) : Bool :=
  inSection route.parentRef l && l.allowedKinds.contains route.kind &&
    admitsNamespace gw.ns route.ns w.namespaces l && hostnamesIntersect l.spec.hostname hostnames

end

/-! ## Outcomes -/

def RouteOutcome.rejected (reason : RouteReason) : RouteOutcome where
  accepted := false
  acceptedReason := reason
  refsResolved := true
  refsReason := .resolvedRefs
  refsMessage := ""
  config := none
  authDocs := ∅

/-- The configuration of a route on the valid ones of the listeners that admitted it. -/
def routeConfig (route : RouteMeta) (hostnames : List String) (grpc : Bool) (admitted : List ListenerState)
    (rules : List Rule) : RouteConfig where
  uid := route.uid
  ns := route.ns
  name := route.name
  listeners := (admitted.filter ListenerState.valid).map ListenerState.effectiveName
  hostnames := hostnames
  created := route.created
  grpc := grpc
  rules := rules

def ListenerState.countRoute (l : ListenerState) : ListenerState :=
  { l with attachedRoutes := l.attachedRoutes + 1 }

def finishAttach (listeners : List ListenerState) (admitted : ListenerState → Bool)
    (compile : Compiler RouteConfig) : RouteOutcome × List ListenerState :=
  match compile.eval (.rejected .unsupportedValue) with
  | (.error _, outcome) => (outcome, listeners)
  | (.ok config, outcome) =>
    ({ outcome with accepted := true, acceptedReason := .accepted, config := some config },
      listeners.map fun l => if admitted l then l.countRoute else l)

section
variable {D : Type} (docs : Documents D) (p : Platform) (w : Snapshot) (gw : Gateway)

def attachByHostname (listeners : List ListenerState) (route : Applicant) (hostnames : List String)
    (compile : List ListenerState → Compiler RouteConfig) : RouteOutcome × List ListenerState :=
  match admitListeners w gw route listeners with
  | .error reason => (.rejected reason, listeners)
  | .ok namespaceAdmitted =>
    let admitted := admitByHostname namespaceAdmitted hostnames
    if admitted.isEmpty then (.rejected .noMatchingListenerHostname, listeners)
    else finishAttach listeners (admits w gw route hostnames) (compile admitted)

def attachByKind (listeners : List ListenerState) (route : Applicant)
    (compile : List ListenerState → Compiler RouteConfig) : RouteOutcome × List ListenerState :=
  match admitListeners w gw route listeners with
  | .error reason => (.rejected reason, listeners)
  | .ok admitted => finishAttach listeners (admits w gw route []) (compile admitted)

def compileRoute (route : HTTPRoute) (admitted : List ListenerState) : Compiler RouteConfig := do
  let rules ← route.rules.mapM (compileHTTPRule docs p w route.objectMeta.ns)
  return routeConfig route.objectMeta route.hostnames false admitted rules

def compileGRPCRoute (route : GRPCRoute) (admitted : List ListenerState) : Compiler RouteConfig := do
  let rules ← route.rules.mapM (compileGRPCRule docs p w route.objectMeta.ns)
  return routeConfig route.objectMeta route.hostnames true admitted rules

/-- More than one rule would be ambiguous. -/
def compileL4Route (kind : String) (route : RouteMeta) (hostnames : List String)
    (rules : List (List BackendRef)) (admitted : List ListenerState) : Compiler RouteConfig :=
  match rules with
  | [refs] => do
    let rule ← compileL4Rule w route.ns kind refs
    return routeConfig route hostnames false admitted [rule]
  | _ => throw "L4 routes have exactly one rule"

def attachRoute (listeners : List ListenerState) (route : HTTPRoute) (parentRef : ParentReference) :
    RouteOutcome × List ListenerState :=
  attachByHostname w gw listeners ⟨"HTTPRoute", route.objectMeta.ns, parentRef⟩ route.hostnames
    (compileRoute docs p w route)

def attachGRPCRoute (listeners : List ListenerState) (route : GRPCRoute) (parentRef : ParentReference) :
    RouteOutcome × List ListenerState :=
  attachByHostname w gw listeners ⟨"GRPCRoute", route.objectMeta.ns, parentRef⟩ route.hostnames
    (compileGRPCRoute docs p w route)

def attachTLSRoute (listeners : List ListenerState) (route : TLSRoute) (parentRef : ParentReference) :
    RouteOutcome × List ListenerState :=
  attachByHostname w gw listeners ⟨"TLSRoute", route.objectMeta.ns, parentRef⟩ route.hostnames
    (compileL4Route w "TLSRoute" route.objectMeta route.hostnames route.rules)

def attachTCPRoute (listeners : List ListenerState) (route : TCPRoute) (parentRef : ParentReference) :
    RouteOutcome × List ListenerState :=
  attachByKind w gw listeners ⟨"TCPRoute", route.objectMeta.ns, parentRef⟩
    (compileL4Route w "TCPRoute" route.objectMeta [] route.rules)

def attachUDPRoute (listeners : List ListenerState) (route : UDPRoute) (parentRef : ParentReference) :
    RouteOutcome × List ListenerState :=
  attachByKind w gw listeners ⟨"UDPRoute", route.objectMeta.ns, parentRef⟩
    (compileL4Route w "UDPRoute" route.objectMeta [] route.rules)

end

/-! ## Every kind of route -/

inductive Route where
  | http (route : HTTPRoute)
  | grpc (route : GRPCRoute)
  | tcp (route : TCPRoute)
  | tls (route : TLSRoute)
  | udp (route : UDPRoute)

def Route.kind : Route → String
  | .http _ => "HTTPRoute"
  | .grpc _ => "GRPCRoute"
  | .tcp _ => "TCPRoute"
  | .tls _ => "TLSRoute"
  | .udp _ => "UDPRoute"

def Route.meta : Route → RouteMeta
  | .http route => route.objectMeta
  | .grpc route => route.objectMeta
  | .tcp route => route.objectMeta
  | .tls route => route.objectMeta
  | .udp route => route.objectMeta

def Route.attach {D : Type} (docs : Documents D) (p : Platform) (w : Snapshot) (gw : Gateway)
    (listeners : List ListenerState) (parentRef : ParentReference) :
    Route → RouteOutcome × List ListenerState
  | .http route => attachRoute docs p w gw listeners route parentRef
  | .grpc route => attachGRPCRoute docs p w gw listeners route parentRef
  | .tcp route => attachTCPRoute w gw listeners route parentRef
  | .tls route => attachTLSRoute w gw listeners route parentRef
  | .udp route => attachUDPRoute w gw listeners route parentRef

end Krouter.ControlPlane
