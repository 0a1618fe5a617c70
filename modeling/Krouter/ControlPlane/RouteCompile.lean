import Krouter.ControlPlane.RouteExtensions

/-! Compiling the rules of a route. Anything that is not supported fails the whole route. -/

namespace Krouter.ControlPlane
open Compiled Routing Attempt

def RouteReason.text : RouteReason → String
  | .accepted => "Accepted"
  | .resolvedRefs => "ResolvedRefs"
  | .noMatchingParent => "NoMatchingParent"
  | .notAllowedByListeners => "NotAllowedByListeners"
  | .noMatchingListenerHostname => "NoMatchingListenerHostname"
  | .unsupportedValue => "UnsupportedValue"
  | .invalidKind => "InvalidKind"
  | .refNotPermitted => "RefNotPermitted"
  | .backendNotFound => "BackendNotFound"
  | .invalidExtensionRef => "InvalidExtensionRef"

section
variable (w : Snapshot)

def servicePortName (ns name : String) (port : Int32) : String :=
  (((w.services[nsName ns name]?).bind fun svc => svc.ports.find? fun p => p.port = port).map
    BackendPort.name).getD ""

def servicePortAppProtocol (ns name : String) (port : Int32) : String :=
  ((w.services[nsName ns name]?).bind fun svc =>
    svc.ports.findSome? fun p => if p.port = port then p.appProtocol else none).getD ""

/-- A policy for the port of that name, or else the first one for every port. -/
def backendTLSFor (ns name portName : String) : Option BackendTLS :=
  let bindings := (w.backendTLS.read (nsName ns name) []).filter fun b => !b.conflicted
  match bindings.find? fun b => b.sectionName = portName && portName ≠ "" with
  | some binding => binding.tls
  | none => bindings.findSome? fun b => if b.sectionName = "" then b.tls else none

def referencedBackend (routeNamespace : String) (ref : BackendRef) : BackendTarget where
  ns := ref.ns.getD routeNamespace
  name := ref.name
  port := ref.port.getD 0
  weight := ref.weight.getD 1
  valid := true
  invalidReason := ""
  appProtocol := ""
  tls := none

def invalidBackend (backend : BackendTarget) (reason : RouteReason) (message : String) :
    BackendTarget × Option (RouteReason × String) :=
  ({ backend with valid := false, invalidReason := reason.text }, some (reason, message))

def resolveBackend (routeNamespace routeKind : String) (ref : BackendRef) :
    BackendTarget × Option (RouteReason × String) :=
  let backend := referencedBackend routeNamespace ref
  if ¬ (ref.kind.all (· = "Service") ∧ ref.group.all (· = "")) then
    invalidBackend backend .invalidKind "backendRefs must reference core Services"
  else if backend.port = 0 then
    invalidBackend backend .unsupportedValue "backendRefs to Services require a port"
  else if backend.ns ≠ routeNamespace ∧ ¬ referenceGrantAllows w.grants groupName routeKind
      routeNamespace "Service" backend.ns backend.name then
    invalidBackend backend .refNotPermitted ("reference to Service " ++
      nsName backend.ns backend.name ++ " not permitted by any ReferenceGrant")
  else if (w.services[nsName backend.ns backend.name]?).isNone then
    invalidBackend backend .backendNotFound
      ("Service " ++ nsName backend.ns backend.name ++ " not found")
  else
    ({ backend with
        tls := backendTLSFor w backend.ns backend.name
          (servicePortName w backend.ns backend.name backend.port)
        appProtocol := servicePortAppProtocol w backend.ns backend.name backend.port }, none)

/-- The first failure is the one that is reported. -/
def RouteOutcome.degrade (outcome : RouteOutcome) (reason : RouteReason) (message : String) : RouteOutcome :=
  if outcome.refsResolved then
    { outcome with refsResolved := false, refsReason := reason, refsMessage := message }
  else outcome

def compileBackend (routeNamespace routeKind : String) (ref : BackendRef) : Compiler BackendTarget := do
  match (resolveBackend w routeNamespace routeKind ref).2 with
  | none => pure ()
  | some (reason, message) => modify (·.degrade reason message)
  return (resolveBackend w routeNamespace routeKind ref).1

end

/-! ## Filters -/

def filterOf (type : String) : Filter := ⟨type, ∅, ∅, [], none, "", "", 0, 0, "", "", "", none, none⟩

def compileHeaderModifier (filterType : String) (modifier : HTTPHeaderFilter) : Filter :=
  { filterOf filterType with
    setHeaders := GoMap.setAll ∅ (modifier.set.map fun h => (h.name, h.value))
    addHeaders := GoMap.setAll ∅ (modifier.add.map fun h => (h.name, h.value))
    removeHeaders := modifier.remove }

def compileCORS (cors : HTTPCORSFilter) : Filter :=
  { filterOf filterCORS with
    cors := some {
      allowOrigins := cors.allowOrigins
      allowMethods := cors.allowMethods
      allowHeaders := cors.allowHeaders
      exposeHeaders := cors.exposeHeaders
      allowCredentials := cors.allowCredentials.getD false
      maxAgeSeconds := if 0 < cors.maxAge then cors.maxAge else 5 } }

def rulePathPrefix (ruleMatches : List HTTPRouteMatch) : String :=
  (ruleMatches.findSome? fun m => m.path.bind fun path =>
    if path.type.all (· = "PathPrefix") then path.value else none).getD "/"

def compilePathModifier (entry : Filter) (modifier : HTTPPathModifier) (ruleMatches : List HTTPRouteMatch) :
    Except String Filter :=
  if modifier.type = "ReplaceFullPath" then
    match modifier.replaceFullPath with
    | none => .error "missing replaceFullPath"
    | some value => .ok { entry with pathRewriteType := "ReplaceFullPath", pathRewriteValue := value }
  else if modifier.type = "ReplacePrefixMatch" then
    match modifier.replacePrefixMatch with
    | none => .error "missing replacePrefixMatch"
    | some value => .ok { entry with
        pathRewriteType := "ReplacePrefixMatch"
        pathRewriteValue := value
        pathPrefix := rulePathPrefix ruleMatches }
  else .error ("unsupported path modifier " ++ GoString.quote modifier.type)

def withPath (entry : Filter) (path : Option HTTPPathModifier) (ruleMatches : List HTTPRouteMatch) :
    Except String Filter :=
  match path with
  | none => .ok entry
  | some modifier => compilePathModifier entry modifier ruleMatches

def compileRedirect (redirect : HTTPRequestRedirectFilter) (ruleMatches : List HTTPRouteMatch) :
    Except String Filter :=
  withPath { filterOf filterRequestRedirect with
    scheme := redirect.scheme.getD ""
    hostname := redirect.hostname.getD ""
    port := redirect.port.getD 0
    statusCode := redirect.statusCode.getD 302 } redirect.path ruleMatches

def compileRewrite (rewrite : HTTPURLRewriteFilter) (ruleMatches : List HTTPRouteMatch) :
    Except String Filter :=
  withPath { filterOf filterURLRewrite with hostname := rewrite.hostname.getD "" } rewrite.path ruleMatches

def wholeNumber (n : Int32) : Json.Number :=
  ⟨Decimal.itoa n.toInt, by simpa using (Json.isNumber_itoa n.toInt).2 [] fun _ h => by cases h⟩

section
variable {D : Type} (docs : Documents D) (w : Snapshot)

def mirrorPercent (mirror : HTTPRequestMirrorFilter) : Except String (Option Json.Number) :=
  match mirror.fraction with
  | none => .ok (mirror.percent.map wholeNumber)
  | some fraction =>
    if fraction.denominator.getD 100 ≤ 0 then .error "invalid mirror fraction denominator"
    else .ok (some (docs.percentOf fraction.numerator (fraction.denominator.getD 100)))

def compileMirror (routeNamespace routeKind : String) (mirror : HTTPRequestMirrorFilter) :
    Compiler (Option Filter) := do
  let backend ← compileBackend w routeNamespace routeKind ⟨mirror.backendRef, none⟩
  if ¬ backend.valid then return none
  else
    let percent ← ofResult (mirrorPercent docs mirror)
    return some { filterOf filterRequestMirror with mirror := some backend, mirrorPercent := percent }

def compileGRPCFilter (routeNamespace routeKind : String) (filter : GRPCRouteFilter) :
    Compiler (Option Filter) :=
  if filter.type = filterRequestHeaderModifier then do
    let modifier ← require filter.requestHeaderModifier "missing requestHeaderModifier"
    return some (compileHeaderModifier filterRequestHeaderModifier modifier)
  else if filter.type = filterResponseHeaderModifier then do
    let modifier ← require filter.responseHeaderModifier "missing responseHeaderModifier"
    return some (compileHeaderModifier filterResponseHeaderModifier modifier)
  else if filter.type = filterRequestMirror then do
    let mirror ← require filter.requestMirror "missing requestMirror"
    compileMirror docs w routeNamespace routeKind mirror
  else throw ("unsupported filter type " ++ GoString.quote filter.type)

def compileHTTPFilter (routeNamespace routeKind : String) (rule : HTTPRouteRule) (filter : HTTPRouteFilter) :
    Compiler (Option Filter) :=
  if filter.type = filterCORS then do
    let cors ← require filter.cors "missing cors"
    return some (compileCORS cors)
  else if filter.type = filterRequestRedirect then do
    let redirect ← require filter.requestRedirect "missing requestRedirect"
    let entry ← ofResult (compileRedirect redirect rule.ruleMatches)
    return some entry
  else if filter.type = filterURLRewrite then do
    let rewrite ← require filter.urlRewrite "missing urlRewrite"
    let entry ← ofResult (compileRewrite rewrite rule.ruleMatches)
    return some entry
  else compileGRPCFilter docs w routeNamespace routeKind filter.toGRPCRouteFilter

inductive FilterResult where
  | extension (ref : LocalObjectReference)
  | entry (filter : Filter)
  | dropped

def FilterResult.compiled : Option Filter → FilterResult
  | none => .dropped
  | some filter => .entry filter

def sortFilter (type : String) (extensionRef : Option LocalObjectReference)
    (compile : Compiler (Option Filter)) : Compiler FilterResult :=
  if type = filterExtensionRef then do
    let ref ← require extensionRef "missing extensionRef"
    return .extension ref
  else do
    let entry ← compile
    return .compiled entry

def FilterResult.ref : FilterResult → Option LocalObjectReference
  | .extension ref => some ref
  | _ => none

def FilterResult.filter : FilterResult → Option Filter
  | .entry filter => some filter
  | _ => none

end

def compileBackendHeaderFilter (filter : GRPCRouteFilter) : Except String Filter :=
  if filter.type = filterRequestHeaderModifier then
    match filter.requestHeaderModifier with
    | none => .error "missing requestHeaderModifier"
    | some modifier => .ok (compileHeaderModifier filterRequestHeaderModifier modifier)
  else if filter.type = filterResponseHeaderModifier then
    match filter.responseHeaderModifier with
    | none => .error "missing responseHeaderModifier"
    | some modifier => .ok (compileHeaderModifier filterResponseHeaderModifier modifier)
  else .error ("unsupported backendRef filter type " ++ GoString.quote filter.type)

/-! ## Matches -/

def compileValueMatch (unsupported : String → String) (m : ValueMatch) : Except String ValueMatch :=
  if m.type.all (· = "Exact") then .ok m else .error (unsupported (m.type.getD ""))

def compileHTTPMatch (m : HTTPRouteMatch) : Except String Match := do
  let pathType := m.path.bind HTTPPathMatch.type
  if ¬ pathType.all (fun type => type = "Exact" || type = "PathPrefix") then
    .error ("unsupported path match type " ++ GoString.quote (pathType.getD ""))
  let headers ← m.headers.mapM (compileValueMatch fun type =>
    "unsupported header match type " ++ GoString.quote type)
  let queryParams ← m.queryParams.mapM (compileValueMatch fun type =>
    "unsupported query parameter match type " ++ GoString.quote type)
  return {
    pathType := pathType.getD ""
    pathValue := (m.path.bind HTTPPathMatch.value).getD ""
    method := m.method.getD ""
    headers := headers.map fun h => ⟨h.name, h.value⟩
    queryParams := queryParams.map fun q => ⟨q.name, q.value⟩ }

def grpcMethodPath (m : Option GRPCMethodMatch) : Except String (String × String) :=
  match m with
  | none => .ok ("", "")
  | some m =>
    let service := m.service.getD ""
    let method := m.method.getD ""
    if ¬ m.type.all (· = "Exact") then .error "unsupported method match type"
    else if service ≠ "" ∧ method ≠ "" then .ok ("Exact", "/" ++ service ++ "/" ++ method)
    else if service ≠ "" then .ok ("PathPrefix", "/" ++ service)
    else .error "method match requires a service"

def compileGRPCMatch (m : GRPCRouteMatch) : Except String Match := do
  let (pathType, pathValue) ← grpcMethodPath m.method
  let headers ← m.headers.mapM (compileValueMatch fun _ => "unsupported header match type")
  return ⟨pathType, pathValue, "", headers.map fun h => ⟨h.name, h.value⟩, []⟩

variable {D : Type} (docs : Documents D) (p : Platform) (w : Snapshot)

def timeoutMillis (what value : String) : Except String Int64 :=
  match docs.parseDuration value with
  | none => .error ("invalid " ++ what ++ " timeout")
  | some duration =>
    if duration < 0 then .error ("invalid " ++ what ++ " timeout") else .ok (duration / 1000000)

def compileTimeouts (timeouts : Option HTTPRouteTimeouts) : Except String (Int64 × Int64) :=
  match timeouts with
  | none => .ok (0, 0)
  | some timeouts => do
    let request ← match timeouts.request with
      | none => pure 0
      | some value => timeoutMillis docs "request" value
    match timeouts.backendRequest with
    | none => return (request, 0)
    | some value =>
      let backend ← timeoutMillis docs "backendRequest" value
      if 0 < request ∧ request < backend then .error "backendRequest timeout exceeds request timeout"
      else return (request, backend)

def compileFilteredBackend (routeNamespace routeKind : String) (ref : FilteredBackendRef) :
    Compiler Backend := do
  let backend ← compileBackend w routeNamespace routeKind ref.toBackendRef
  let filters ← ofResult (ref.filters.mapM compileBackendHeaderFilter)
  return ⟨backend, filters⟩

def compiledRule (ruleMatches : List Match) (results : List FilterResult) (ext : RuleExtensions)
    (timeouts : Int64 × Int64) (backends : List Backend) : Rule where
  ruleMatches := ruleMatches
  filters := results.filterMap FilterResult.filter
  backends := backends
  requestTimeoutMillis := timeouts.1
  backendTimeoutMillis := timeouts.2
  rateLimit := ext.rateLimit
  waf := ext.waf
  extensionsInvalid := ext.invalid
  auth := (ext.auth.map Auth.identity).getD ""

def compileHTTPRule (ns : String) (rule : HTTPRouteRule) : Compiler Rule := do
  let ruleMatches ← ofResult (rule.ruleMatches.mapM compileHTTPMatch)
  let results ← rule.filters.mapM fun filter => sortFilter filter.type filter.extensionRef
    (compileHTTPFilter docs w ns "HTTPRoute" rule filter)
  let ext ← compileExtensions docs p w ns (results.filterMap FilterResult.ref) false
  let timeouts ← ofResult (compileTimeouts docs rule.timeouts)
  let backends ← rule.backendRefs.mapM (compileFilteredBackend w ns "HTTPRoute")
  return compiledRule ruleMatches results ext timeouts backends

def compileGRPCRule (ns : String) (rule : GRPCRouteRule) : Compiler Rule := do
  let ruleMatches ← ofResult (rule.ruleMatches.mapM compileGRPCMatch)
  let results ← rule.filters.mapM fun filter => sortFilter filter.type filter.extensionRef
    (compileGRPCFilter docs w ns "GRPCRoute" filter)
  let ext ← compileExtensions docs p w ns (results.filterMap FilterResult.ref) true
  let backends ← rule.backendRefs.mapM (compileFilteredBackend w ns "GRPCRoute")
  return compiledRule ruleMatches results ext (0, 0) backends

def compileL4Rule (ns routeKind : String) (refs : List BackendRef) : Compiler Rule := do
  let backends ← refs.mapM fun ref => do return (⟨← compileBackend w ns routeKind ref, []⟩ : Backend)
  return compiledRule [] [] noExtensions (0, 0) backends

end Krouter.ControlPlane
