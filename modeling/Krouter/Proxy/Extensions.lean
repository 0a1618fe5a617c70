import Krouter.Routing.Types

/-! The enforcement chain of a rule: broken extensions, rate limiting, authentication, firewall. A status
of zero continues; `none` is a panic of the handler. -/

namespace Krouter.Proxy
open Std Compiled Auth Http GoString Routing

structure Interruption where
  status : Int
  ruleID : Int

structure Denial where
  status : Int
  ruleID : Int
  deriving DecidableEq

def denialFrom (interruption : Interruption) : Denial :=
  ⟨if interruption.status = 0 then 403 else interruption.status, interruption.ruleID⟩

/-- What the request meets besides tables and configuration: the providers, the address
resolution, the limiter's buckets and the firewall. -/
structure Environment where
  providers : Providers
  /-- The client address, and whether the peer is a trusted proxy. -/
  resolve : List String → Request → String × Bool
  /-- Whether the key's bucket has a token, or the nanoseconds to wait for one. -/
  allow : RateLimit → String → Bool × Int
  inspect : String → Request → String → Bool → Except String (Option Interruption)

/-- The body of a response the gateway produces itself. -/
inductive Answer where
  | error (status : Int) (message : String)
  | redirect (location : String) (status : Int)
  | grpcStatus (code message : String)
  deriving DecidableEq

/-- The headers set so far. -/
@[ext]
structure Writer where
  header : Header
  cookies : List SetCookie

instance : DecidableEq Writer := fun w w' =>
  decidable_of_iff (w.header = w'.header ∧ w.cookies = w'.cookies) Writer.ext_iff.symm

structure Response where
  writer : Writer
  answer : Answer
  deriving DecidableEq

def validCode (status : Int) : Bool := 100 ≤ status && status ≤ 999

def deny (w : Writer) (grpcRule : Bool) (httpStatus : Int) (grpcCode message : String) :
    Option (Int × Response) :=
  if grpcRule then some (200, ⟨w, .grpcStatus grpcCode message⟩)
  else if validCode httpStatus then some (httpStatus, ⟨w, .error httpStatus message⟩)
  else none

def isCORSPreflight (r : Request) : Bool :=
  r.method = "OPTIONS" && r.header.get "Origin" ≠ "" &&
    r.header.get "Access-Control-Request-Method" ≠ ""

def isUpgrade (r : Request) : Bool :=
  r.header.get "Upgrade" ≠ "" &&
    (Header.values r.header "Connection").any fun value =>
      containsChars "upgrade".toList (toLower value).toList

inductive Extension where
  | extensionref
  | ratelimit
  | auth
  | waf
  deriving DecidableEq

/-- What the chain returns: the status, the rejecting extension, the firewall rule, the user, the response
if one was written, and what to continue with. -/
structure Enforced where
  status : Int
  extension : Option Extension
  wafRule : Int
  user : String
  response : Option Response
  writer : Writer
  request : Request

def rejected (extension : Extension) (wafRule : Int) (w : Writer) (r : Request)
    (denied : Option (Int × Response)) : Option Enforced :=
  denied.map fun d => ⟨d.1, some extension, wafRule, "", some d.2, w, r⟩

/-! ## Rate limiting -/

def keyFor (limit : RateLimit) (r : Request) (clientIP : String) : String :=
  if hasPrefix limit.key "header:" then r.header.get (dropPrefix limit.key "header:") else clientIP

def retryAfter (wait : Int) : Int := max 1 (-((-wait) / 1000000000))

def limited (env : Environment) (rule : RuleTable) (r : Request) (clientIP : String) :
    Option (RateLimit × Int) :=
  rule.limiter.bind fun limit =>
    let (allowed, wait) := env.allow limit (keyFor limit r clientIP)
    if allowed then none else some (limit, wait)

/-! ## Authentication -/

structure Authenticated where
  status : Int
  user : String
  response : Option Response
  writer : Writer
  request : Request

def serveAuth (env : Environment) (w : Writer) (request : Request) (e : Enforcer) (grpcRule : Bool) :
    Option Authenticated :=
  match e.evaluate env.providers request grpcRule with
  | (none, _) => none
  | (some (decision, cookies), r) =>
    let w := { w with cookies := w.cookies ++ cookies }
    if decision.allowed then
      decision.identity.map fun identity =>
        ⟨0, identity.user, none, w, { r with header := identity.apply r.header }⟩
    else if decision.redirectTo ≠ "" then
      if validCode decision.status then
        some ⟨decision.status, "", some ⟨w, .redirect decision.redirectTo decision.status⟩, w, r⟩
      else none
    else
      let header := decision.challenges.foldl
        (fun header challenge => Header.add header "WWW-Authenticate" challenge) w.header
      let w := { w with header := header }
      (deny w grpcRule decision.status decision.grpcCode decision.message).map fun d =>
        ⟨d.1, "", some d.2, w, r⟩

/-- Preflights carry no credentials: on rules with a CORS filter they skip the step. -/
def authenticate (env : Environment) (w : Writer) (r : Request) (rule : RuleTable) :
    Option Authenticated :=
  match rule.authEnforcer with
  | none => some ⟨0, "", none, w, r⟩
  | some e =>
    if rule.cors.isNone || !isCORSPreflight r then serveAuth env w r e rule.grpc
    else some ⟨0, "", none, w, r⟩

/-! ## Firewall -/

def inspectRequest (env : Environment) (a : Authenticated) (rule : RuleTable) (clientIP : String) :
    Option Enforced :=
  match rule.wafEngine with
  | none => some ⟨0, none, 0, a.user, none, a.writer, a.request⟩
  | some program =>
    match env.inspect program a.request clientIP (isUpgrade a.request) with
    | .error _ => rejected .waf 0 a.writer a.request
        (deny a.writer rule.grpc 500 grpcInternal "web application firewall error")
    | .ok (some interruption) =>
      let denial := denialFrom interruption
      rejected .waf denial.ruleID a.writer a.request
        (deny a.writer rule.grpc denial.status grpcPermissionDenied "forbidden")
    | .ok none => some ⟨0, none, 0, a.user, none, a.writer, a.request⟩

/-! ## The chain -/

def serveExtensions (env : Environment) (w : Writer) (r : Request) (rule : RuleTable)
    (clientIP : String) : Option Enforced :=
  if rule.extensionsInvalid then
    rejected .extensionref 0 w r (deny w rule.grpc 500 grpcInternal "invalid route extension")
  else
    match limited env rule r clientIP with
    | some (limit, wait) =>
      let w := { w with header := Header.set w.header "Retry-After" (toString (retryAfter wait)) }
      rejected .ratelimit 0 w r
        (deny w rule.grpc limit.status.toInt grpcResourceExhausted "rate limited")
    | none =>
      (authenticate env w r rule).bind fun a =>
        if a.status ≠ 0 then some ⟨a.status, some .auth, 0, "", a.response, a.writer, a.request⟩
        else inspectRequest env a rule clientIP

end Krouter.Proxy
