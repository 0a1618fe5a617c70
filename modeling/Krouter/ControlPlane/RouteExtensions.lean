import Krouter.ControlPlane.Compile
import Krouter.ControlPlane.Routes
import Krouter.Lib.Attempt

/-! The extension configuration of a route rule: the documents behind its references, read
and merged in filter order. -/

namespace Krouter.ControlPlane
open Compiled Routing

def rateLimitKey : String := "ratelimit.hcl"
def wafKey : String := "waf.hcl"
def authKey : String := "auth.hcl"

/-! ## Documents -/

/-- One parsed rate limit document; every attribute is optional. The window is in
nanoseconds. -/
structure RateLimitDocument where
  requests : Option Int64
  window : Option Int64
  burst : Option Int64
  key : Option String
  status : Option Int32
  deriving DecidableEq

def RateLimitDocument.override (merged doc : RateLimitDocument) : RateLimitDocument where
  requests := doc.requests.or merged.requests
  window := doc.window.or merged.window
  burst := doc.burst.or merged.burst
  key := doc.key.or merged.key
  status := doc.status.or merged.status

def mergeRateLimits (docs : List RateLimitDocument) : Except String RateLimit :=
  let merged := docs.foldl RateLimitDocument.override ⟨none, none, none, none, none⟩
  match merged.requests, merged.window with
  | some requests, some window => .ok {
      requests := requests
      windowMillis := window / 1000000
      burst := merged.burst.getD requests
      key := merged.key.getD "client_ip"
      status := merged.status.getD 429 }
  | _, _ => .error "merged configuration must define requests and window"

def concatDirectives (fragments : List String) : String := "\n".intercalate fragments

/-- What reads the values and documents that come as text. `D` is a parsed authentication
document. -/
structure Documents (D : Type) where
  /-- `time.ParseDuration`, in nanoseconds. -/
  parseDuration : String → Option Int64
  /-- A share of 100 as `encoding/json` prints the quotient. -/
  percentOf : Int32 → Int32 → Json.Number
  parseRateLimit : String → Except String RateLimitDocument
  /-- The directives of a document. -/
  parseWAF : String → Except String String
  parseAuth : String → Except String D
  mergeAuth : List D → Except String Auth

structure ExtensionDocs (D : Type) where
  rateLimits : List RateLimitDocument
  wafs : List String
  /-- Authentication documents with the UIDs of their Secrets. -/
  auths : List (String × D)

inductive ExtensionFailure where
  | unsupported (message : String)
  | invalid (message : String)
  deriving DecidableEq

section
variable {D : Type} (docs : Documents D) (w : Snapshot)

def readExtensionSecret (name : String) (secret : ExtensionSecret) :
    Except ExtensionFailure (ExtensionDocs D) :=
  if secret.data[rateLimitKey]?.isSome then
    .error (.invalid ("extension Secret " ++ name ++ " carries " ++ rateLimitKey ++
      ": enforcement keys live in ConfigMaps"))
  else if secret.data[wafKey]?.isSome then
    .error (.invalid ("extension Secret " ++ name ++ " carries " ++ wafKey ++
      ": enforcement keys live in ConfigMaps"))
  else match secret.data[authKey]? with
    | none => .error (.invalid ("extension Secret " ++ name ++ " carries no " ++ authKey))
    | some src => match docs.parseAuth src with
      | .error err =>
        .error (.invalid ("extension Secret " ++ name ++ ": invalid " ++ authKey ++ ": " ++ err))
      | .ok doc => .ok ⟨[], [], [(secret.uid, doc)]⟩

def readDocument {α : Type} (name key : String) (data : GoMap String String)
    (parse : String → Except String α) : Except ExtensionFailure (List α) :=
  match data[key]? with
  | none => .ok []
  | some src => match parse src with
    | .error err =>
      .error (.invalid ("extension ConfigMap " ++ name ++ ": invalid " ++ key ++ ": " ++ err))
    | .ok doc => .ok [doc]

def readExtensionCM (name : String) (data : GoMap String String) :
    Except ExtensionFailure (ExtensionDocs D) :=
  if data[authKey]?.isSome then
    .error (.invalid ("extension ConfigMap " ++ name ++ " carries " ++ authKey ++
      ": authentication lives in Secrets"))
  else if data[rateLimitKey]?.isNone ∧ data[wafKey]?.isNone then
    .error (.invalid ("extension ConfigMap " ++ name ++ " carries neither " ++ rateLimitKey ++
      " nor " ++ wafKey))
  else do
    let rateLimits ← readDocument name rateLimitKey data docs.parseRateLimit
    let wafs ← readDocument name wafKey data docs.parseWAF
    return ⟨rateLimits, wafs, []⟩

def readExtension (ns : String) (ref : LocalObjectReference) :
    Except ExtensionFailure (ExtensionDocs D) :=
  let name := nsName ns ref.name
  if ref.group ≠ "" ∨ ref.kind ≠ "ConfigMap" ∧ ref.kind ≠ "Secret" then
    .error (.unsupported ("unsupported extensionRef kind " ++ ref.group ++ "/" ++ ref.kind))
  else if ref.kind = "Secret" then
    match w.extensionSecret ns ref.name with
    | .error err => .error (.invalid ("extension Secret " ++ name ++ ": " ++ err))
    | .ok secret => readExtensionSecret docs name secret
  else
    match w.extensionCM ns ref.name with
    | .error err => .error (.invalid ("extension ConfigMap " ++ name ++ ": " ++ err))
    | .ok data => readExtensionCM docs name data

end

/-! ## Merging -/

/-- The compiled extension configuration of a rule, with its authentication document. -/
structure RuleExtensions where
  rateLimit : Option RateLimit
  waf : String
  auth : Option Auth
  invalid : Bool
  deriving DecidableEq

def noExtensions : RuleExtensions := ⟨none, "", none, false⟩

def invalidExtensions : RuleExtensions := ⟨none, "", none, true⟩

def authIdentity (sum256 : String → String) (secretUIDs : List String) : String :=
  String.ofList ((sum256 (String.join (secretUIDs.map (· ++ "\x00")))).toList.take 12)

section
variable {D : Type} (docs : Documents D) (p : Platform)

def mergedRateLimit (parts : List RateLimitDocument) : Except String (Option RateLimit) :=
  if parts = [] then .ok none
  else (mergeRateLimits parts).map some |>.mapError fun err =>
    "merged " ++ rateLimitKey ++ " invalid: " ++ err

/-- The program is built once to see that it compiles. -/
def mergedWAF (fragments : List String) : Except String String :=
  if fragments = [] then .ok ""
  else match p.newEngine (concatDirectives fragments) with
    | .error err => .error ("concatenated " ++ wafKey ++ " invalid: " ++ err)
    | .ok _ => .ok (concatDirectives fragments)

/-- Only the JWT provider makes sense for gRPC clients. -/
def mergedAuth (grpcRoute : Bool) (parts : List (String × D)) : Except String (Option Auth) :=
  match parts with
  | [] => .ok none
  | parts => match docs.mergeAuth (parts.map Prod.snd) with
    | .error err => .error ("merged " ++ authKey ++ " invalid: " ++ err)
    | .ok config =>
      if grpcRoute ∧ (config.oidc.isSome ∨ config.saml.isSome ∨ config.ldap.isSome) then
        .error ("merged " ++ authKey ++ " invalid: only the jwt provider is valid on GRPCRoute rules")
      else .ok (some { config with identity := authIdentity p.sum256 (parts.map Prod.fst) })

def mergeExtensions (grpcRoute : Bool) (parts : List (ExtensionDocs D)) : Except String RuleExtensions := do
  let rateLimit ← mergedRateLimit (parts.flatMap ExtensionDocs.rateLimits)
  let waf ← mergedWAF p (parts.flatMap ExtensionDocs.wafs)
  let auth ← mergedAuth docs p grpcRoute (parts.flatMap ExtensionDocs.auths)
  return ⟨rateLimit, waf, auth, false⟩

end

/-! ## Compiling -/

/-- Compiling a route writes the status of its outcome on the way. -/
abbrev Compiler := Attempt RouteOutcome String

def RouteOutcome.invalidateExtension (outcome : RouteOutcome) (message : String) : RouteOutcome :=
  { outcome with refsResolved := false, refsReason := .invalidExtensionRef, refsMessage := message }

def RouteOutcome.addAuthDoc (outcome : RouteOutcome) (auth : Option Auth) : RouteOutcome :=
  match auth with
  | none => outcome
  | some config =>
    { outcome with authDocs := outcome.authDocs.insert config.identity (authCodec.marshal config) }

variable {D : Type} (docs : Documents D) (p : Platform) (w : Snapshot)

def compileExtensions (ns : String) (refs : List LocalObjectReference) (grpcRoute : Bool) :
    Compiler RuleExtensions :=
  if refs = [] then pure noExtensions
  else match refs.mapM (readExtension docs w ns) with
    | .error (.unsupported message) => throw message
    | .error (.invalid message) => do
      modify (·.invalidateExtension message)
      return invalidExtensions
    | .ok parts => match mergeExtensions docs p grpcRoute parts with
      | .error message => do
        modify (·.invalidateExtension message)
        return invalidExtensions
      | .ok ext => do
        modify (·.addAuthDoc ext.auth)
        return ext

end Krouter.ControlPlane
