import Krouter.Compiled.Objects
import Krouter.Lib.JsonCodec

/-! The compiled configuration that the planes exchange, with the JSON codec of every payload. Nil and
empty lists are one value, and a mirror target carries no filters. -/

namespace Krouter.Compiled
open Json Json.Codec Json.Fields

/-! ## Rule matches and filters -/

structure HeaderMatch where
  name : String
  value : String
  deriving DecidableEq

structure QueryParamMatch where
  name : String
  value : String
  deriving DecidableEq

structure Match where
  pathType : String
  pathValue : String
  method : String
  headers : List HeaderMatch
  queryParams : List QueryParamMatch
  deriving DecidableEq

structure CORS where
  allowOrigins : List String
  allowMethods : List String
  allowHeaders : List String
  exposeHeaders : List String
  allowCredentials : Bool
  maxAgeSeconds : Int32
  deriving DecidableEq

structure SubjectAltName where
  type : String
  value : String
  deriving DecidableEq

structure BackendTLS where
  hostname : String
  caPem : String
  systemCAs : Bool
  invalid : Bool
  subjectAltNames : List SubjectAltName
  deriving DecidableEq

structure BackendTarget where
  ns : String
  name : String
  port : Int32
  weight : Int32
  valid : Bool
  invalidReason : String
  appProtocol : String
  tls : Option BackendTLS
  deriving DecidableEq

def filterRequestHeaderModifier : String := "RequestHeaderModifier"
def filterResponseHeaderModifier : String := "ResponseHeaderModifier"
def filterRequestRedirect : String := "RequestRedirect"
def filterURLRewrite : String := "URLRewrite"
def filterRequestMirror : String := "RequestMirror"
def filterCORS : String := "CORS"

def appProtocolH2C : String := "kubernetes.io/h2c"

structure Filter where
  type : String
  setHeaders : GoMap String String
  addHeaders : GoMap String String
  removeHeaders : List String
  cors : Option CORS
  scheme : String
  hostname : String
  port : Int32
  statusCode : Int64
  pathRewriteType : String
  pathRewriteValue : String
  pathPrefix : String
  mirror : Option BackendTarget
  mirrorPercent : Option Number
  deriving DecidableEq

structure Backend extends BackendTarget where
  filters : List Filter
  deriving DecidableEq

/-! ## Routes and Gateways -/

structure RateLimit where
  requests : Int64
  windowMillis : Int64
  burst : Int64
  key : String
  status : Int32
  deriving DecidableEq

structure Rule where
  ruleMatches : List Match
  filters : List Filter
  backends : List Backend
  requestTimeoutMillis : Int64
  backendTimeoutMillis : Int64
  rateLimit : Option RateLimit
  waf : String
  extensionsInvalid : Bool
  auth : String
  deriving DecidableEq

structure RouteConfig where
  uid : String
  ns : String
  name : String
  listeners : List String
  hostnames : List String
  created : Int64
  grpc : Bool
  rules : List Rule
  deriving DecidableEq

structure Listener where
  name : String
  port : Int32
  internalPort : Int32
  protocol : String
  hostname : String
  hasTLS : Bool
  clientCAMode : String
  proxyProtocol : Bool
  deriving DecidableEq

structure GatewayConfig where
  uid : String
  ns : String
  name : String
  listeners : List Listener
  backendClientCert : Bool
  trustedProxies : List String
  deriving DecidableEq

/-! ## Manifests -/

structure ObjectRef where
  kind : String
  name : String
  checksum : String
  deriving DecidableEq

structure Manifest where
  gatewayUID : String
  generation : String
  previous : String
  objects : List ObjectRef
  deriving DecidableEq

/-! ## Codecs -/

def headerMatchCodec : Codec HeaderMatch :=
  struct ⟨"", ""⟩ <| ((field "name" string).prod <| field "value" string).iso
    (fun ⟨a, b⟩ => ⟨a, b⟩) (fun h => (h.name, h.value)) fun _ => rfl

def queryParamMatchCodec : Codec QueryParamMatch :=
  struct ⟨"", ""⟩ <| ((field "name" string).prod <| field "value" string).iso
    (fun ⟨a, b⟩ => ⟨a, b⟩) (fun q => (q.name, q.value)) fun _ => rfl

def matchCodec : Codec Match :=
  struct ⟨"", "", "", [], []⟩ <|
    ((omitempty "pathType" string).prod <|
      (omitempty "pathValue" string).prod <|
      (omitempty "method" string).prod <|
      (omitempty "headers" headerMatchCodec.list).prod <|
      omitempty "queryParams" queryParamMatchCodec.list).iso
    (fun ⟨a, b, c, d, e⟩ => ⟨a, b, c, d, e⟩)
    (fun m => (m.pathType, m.pathValue, m.method, m.headers, m.queryParams)) fun _ => rfl

def corsCodec : Codec CORS :=
  struct ⟨[], [], [], [], false, 0⟩ <|
    ((omitempty "allowOrigins" string.list).prod <|
      (omitempty "allowMethods" string.list).prod <|
      (omitempty "allowHeaders" string.list).prod <|
      (omitempty "exposeHeaders" string.list).prod <|
      (omitempty "allowCredentials" bool).prod <|
      omitempty "maxAgeSeconds" int32).iso
    (fun ⟨a, b, c, d, e, f⟩ => ⟨a, b, c, d, e, f⟩)
    (fun c => (c.allowOrigins, c.allowMethods, c.allowHeaders, c.exposeHeaders, c.allowCredentials,
      c.maxAgeSeconds)) fun _ => rfl

def subjectAltNameCodec : Codec SubjectAltName :=
  struct ⟨"", ""⟩ <| ((field "type" string).prod <| field "value" string).iso
    (fun ⟨a, b⟩ => ⟨a, b⟩) (fun n => (n.type, n.value)) fun _ => rfl

def backendTLSCodec : Codec BackendTLS :=
  struct ⟨"", "", false, false, []⟩ <|
    ((omitempty "hostname" string).prod <|
      (omitempty "caPem" string).prod <|
      (omitempty "systemCAs" bool).prod <|
      (omitempty "invalid" bool).prod <|
      omitempty "subjectAltNames" subjectAltNameCodec.list).iso
    (fun ⟨a, b, c, d, e⟩ => ⟨a, b, c, d, e⟩)
    (fun t => (t.hostname, t.caPem, t.systemCAs, t.invalid, t.subjectAltNames)) fun _ => rfl

def backendTargetCodec : Codec BackendTarget :=
  struct ⟨"", "", 0, 0, false, "", "", none⟩ <|
    ((field "namespace" string).prod <|
      (field "name" string).prod <|
      (field "port" int32).prod <|
      (field "weight" int32).prod <|
      (field "valid" bool).prod <|
      (omitempty "invalidReason" string).prod <|
      (omitempty "appProtocol" string).prod <|
      omitnil "tls" backendTLSCodec (struct_enc_ne_null _ _)).iso
    (fun ⟨a, b, c, d, e, f, g, h⟩ => ⟨a, b, c, d, e, f, g, h⟩)
    (fun t => (t.ns, t.name, t.port, t.weight, t.valid, t.invalidReason, t.appProtocol, t.tls))
    fun _ => rfl

theorem number_enc_ne_null (n : Number) : number.enc n ≠ .null := Value.noConfusion

def filterCodec : Codec Filter :=
  struct ⟨"", ∅, ∅, [], none, "", "", 0, 0, "", "", "", none, none⟩ <|
    ((field "type" string).prod <|
      (omitempty "setHeaders" string.map).prod <|
      (omitempty "addHeaders" string.map).prod <|
      (omitempty "removeHeaders" string.list).prod <|
      (omitnil "cors" corsCodec (struct_enc_ne_null _ _)).prod <|
      (omitempty "scheme" string).prod <|
      (omitempty "hostname" string).prod <|
      (omitempty "port" int32).prod <|
      (omitempty "statusCode" int64).prod <|
      (omitempty "pathRewriteType" string).prod <|
      (omitempty "pathRewriteValue" string).prod <|
      (omitempty "pathPrefix" string).prod <|
      (omitnil "mirror" backendTargetCodec (struct_enc_ne_null _ _)).prod <|
      omitnil "mirrorPercent" number number_enc_ne_null).iso
    (fun ⟨a, b, c, d, e, f, g, h, i, j, k, l, m, n⟩ => ⟨a, b, c, d, e, f, g, h, i, j, k, l, m, n⟩)
    (fun f => (f.type, f.setHeaders, f.addHeaders, f.removeHeaders, f.cors, f.scheme, f.hostname,
      f.port, f.statusCode, f.pathRewriteType, f.pathRewriteValue, f.pathPrefix, f.mirror,
      f.mirrorPercent)) fun _ => rfl

def backendCodec : Codec Backend :=
  struct ⟨⟨"", "", 0, 0, false, "", "", none⟩, []⟩ <|
    ((field "namespace" string).prod <|
      (field "name" string).prod <|
      (field "port" int32).prod <|
      (field "weight" int32).prod <|
      (field "valid" bool).prod <|
      (omitempty "invalidReason" string).prod <|
      (omitempty "appProtocol" string).prod <|
      (omitempty "filters" filterCodec.list).prod <|
      omitnil "tls" backendTLSCodec (struct_enc_ne_null _ _)).iso
    (fun ⟨a, b, c, d, e, f, g, h, i⟩ => ⟨⟨a, b, c, d, e, f, g, i⟩, h⟩)
    (fun b => (b.ns, b.name, b.port, b.weight, b.valid, b.invalidReason, b.appProtocol, b.filters,
      b.tls)) fun _ => rfl

def rateLimitCodec : Codec RateLimit :=
  struct ⟨0, 0, 0, "", 0⟩ <|
    ((field "requests" int64).prod <|
      (field "windowMillis" int64).prod <|
      (field "burst" int64).prod <|
      (field "key" string).prod <|
      field "status" int32).iso
    (fun ⟨a, b, c, d, e⟩ => ⟨a, b, c, d, e⟩)
    (fun l => (l.requests, l.windowMillis, l.burst, l.key, l.status)) fun _ => rfl

def ruleCodec : Codec Rule :=
  struct ⟨[], [], [], 0, 0, none, "", false, ""⟩ <|
    ((omitempty "matches" matchCodec.list).prod <|
      (omitempty "filters" filterCodec.list).prod <|
      (field "backends" backendCodec.list).prod <|
      (omitempty "requestTimeoutMillis" int64).prod <|
      (omitempty "backendTimeoutMillis" int64).prod <|
      (omitnil "rateLimit" rateLimitCodec (struct_enc_ne_null _ _)).prod <|
      (omitempty "waf" string).prod <|
      (omitempty "extensionsInvalid" bool).prod <|
      omitempty "auth" string).iso
    (fun ⟨a, b, c, d, e, f, g, h, i⟩ => ⟨a, b, c, d, e, f, g, h, i⟩)
    (fun r => (r.ruleMatches, r.filters, r.backends, r.requestTimeoutMillis, r.backendTimeoutMillis,
      r.rateLimit, r.waf, r.extensionsInvalid, r.auth)) fun _ => rfl

def routeConfigCodec : Codec RouteConfig :=
  struct ⟨"", "", "", [], [], 0, false, []⟩ <|
    ((field "uid" string).prod <|
      (field "namespace" string).prod <|
      (field "name" string).prod <|
      (field "listeners" string.list).prod <|
      (omitempty "hostnames" string.list).prod <|
      (omitempty "created" int64).prod <|
      (omitempty "grpc" bool).prod <|
      field "rules" ruleCodec.list).iso
    (fun ⟨a, b, c, d, e, f, g, h⟩ => ⟨a, b, c, d, e, f, g, h⟩)
    (fun r => (r.uid, r.ns, r.name, r.listeners, r.hostnames, r.created, r.grpc, r.rules))
    fun _ => rfl

def listenerCodec : Codec Listener :=
  struct ⟨"", 0, 0, "", "", false, "", false⟩ <|
    ((field "name" string).prod <|
      (field "port" int32).prod <|
      (field "internalPort" int32).prod <|
      (field "protocol" string).prod <|
      (omitempty "hostname" string).prod <|
      (omitempty "hasTLS" bool).prod <|
      (omitempty "clientCAMode" string).prod <|
      omitempty "proxyProtocol" bool).iso
    (fun ⟨a, b, c, d, e, f, g, h⟩ => ⟨a, b, c, d, e, f, g, h⟩)
    (fun l => (l.name, l.port, l.internalPort, l.protocol, l.hostname, l.hasTLS, l.clientCAMode,
      l.proxyProtocol)) fun _ => rfl

def gatewayConfigCodec : Codec GatewayConfig :=
  struct ⟨"", "", "", [], false, []⟩ <|
    ((field "uid" string).prod <|
      (field "namespace" string).prod <|
      (field "name" string).prod <|
      (field "listeners" listenerCodec.list).prod <|
      (omitempty "backendClientCert" bool).prod <|
      omitempty "trustedProxies" string.list).iso
    (fun ⟨a, b, c, d, e, f⟩ => ⟨a, b, c, d, e, f⟩)
    (fun g => (g.uid, g.ns, g.name, g.listeners, g.backendClientCert, g.trustedProxies))
    fun _ => rfl

theorem objectRef_eta (r : ObjectRef) : ObjectRef.mk r.kind r.name r.checksum = r := rfl

def objectRefCodec : Codec ObjectRef :=
  struct ⟨"", "", ""⟩ <|
    ((field "kind" string).prod <|
      (field "name" string).prod <|
      field "checksum" string).iso
    (fun r => ⟨r.1, r.2.1, r.2.2⟩) (fun r => (r.kind, r.name, r.checksum)) objectRef_eta

def manifestCodec : Codec Manifest :=
  struct ⟨"", "", "", []⟩ <|
    ((field "gatewayUID" string).prod <|
      (field "generation" string).prod <|
      (omitempty "previous" string).prod <|
      field "objects" objectRefCodec.list).iso
    (fun ⟨a, b, c, d⟩ => ⟨a, b, c, d⟩)
    (fun m => (m.gatewayUID, m.generation, m.previous, m.objects)) fun _ => rfl

end Krouter.Compiled
