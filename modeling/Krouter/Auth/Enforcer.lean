import Krouter.Auth.Session

/-! The enforcement of one authentication extension on a request. What the remote
providers answer is a parameter; `none` stands for a panic of the handler. -/

namespace Krouter.Auth
open Std Compiled Http GoString

def headerUser : String := "X-Auth-Request-User"
def headerEmail : String := "X-Auth-Request-Email"
def headerGroups : String := "X-Auth-Request-Groups"

def grpcPermissionDenied : String := "7"
def grpcResourceExhausted : String := "8"
def grpcUnimplemented : String := "12"
def grpcInternal : String := "13"
def grpcUnavailable : String := "14"
def grpcUnauthenticated : String := "16"

@[ext]
structure Identity where
  user : String
  email : String
  groups : List String
  claims : GoMap String (List String)

instance : DecidableEq Identity := fun i j =>
  decidable_of_iff (i.user = j.user ∧ i.email = j.email ∧ i.groups = j.groups ∧ i.claims = j.claims)
    Identity.ext_iff.symm

structure Decision where
  allowed : Bool
  identity : Option Identity
  provider : String
  result : String
  status : Int
  redirectTo : String
  challenges : List String
  grpcCode : String
  message : String
  deriving DecidableEq

/-- The other providers are present exactly when the configuration names them. -/
structure Enforcer where
  cfg : Auth
  codec : Option Codec
  deriving DecidableEq

/-- What `NewLDAPProvider` and `NewSAMLProvider` say of their key material. -/
structure Hydration where
  sum256 : String → String
  ldap : AuthLDAP → Except String Unit
  saml : AuthSAML → Except String Unit

def hydrate {α : Type} (cfg : Option α) (new : α → Except String Unit) : Except String Unit :=
  match cfg with
  | none => .ok ()
  | some cfg => new cfg

def newEnforcer (h : Hydration) (cfg : Auth) : Except String Enforcer := do
  (hydrate cfg.ldap h.ldap).mapError fun err => "ldap provider: " ++ err
  (hydrate cfg.saml h.saml).mapError fun err => "saml provider: " ++ err
  return ⟨cfg, cfg.session.map (newCodec h.sum256 cfg.identity)⟩

inductive CredentialError where
  | unavailable
  | rejected
  deriving DecidableEq

/-- What a request meets: the time in nanoseconds, what has been sealed, the random choices of one
sealing, and the answers of the providers. -/
structure Providers where
  now : Int
  log : List SealRecord
  nonce : List UInt8
  box : List UInt8
  basicAuth : Request → Option (String × String)
  jwtValidate : AuthJWT → String → Except CredentialError (GoMap String (List String))
  ldapAuthenticate : AuthLDAP → String → String → Except CredentialError Identity
  oidcRefresh : AuthOIDC → Session → Except CredentialError Session

def Providers.unix (p : Providers) : Int64 := Int64.ofInt (p.now / 1000000000)

/-! ## Helpers -/

def cutSpace : List Char → Option (List Char × List Char)
  | [] => none
  | c :: cs => if c = ' ' then some ([], cs) else (cutSpace cs).map fun p => (c :: p.1, p.2)

def isSpaceChar (c : Char) : Bool :=
  c = ' ' || (9 ≤ c.toNat && c.toNat ≤ 13) || c.toNat = 0x85 || c.toNat = 0xA0

def trimSpace (cs : List Char) : List Char :=
  ((cs.dropWhile isSpaceChar).reverse.dropWhile isSpaceChar).reverse

def authorizationHeader (r : Request) : String × String :=
  match cutSpace (r.header.get "Authorization").toList with
  | none => ("", "")
  | some (scheme, credentials) =>
    (toLower (String.ofList scheme), String.ofList (trimSpace credentials))

def containsChars (sub : List Char) : List Char → Bool
  | [] => sub.isEmpty
  | c :: cs => sub.isPrefixOf (c :: cs) || containsChars sub cs

def isNavigation (r : Request) : Bool :=
  (r.method = "GET" || r.method = "HEAD") &&
    containsChars "text/html".toList (r.header.get "Accept").toList

def intersects (values allowed : List String) : Bool := values.any fun v => allowed.contains v

def claimValues (identity : Identity) (claim : String) : List String :=
  if claim = "user" then [identity.user]
  else if claim = "email" then [identity.email]
  else if claim = "groups" then identity.groups
  else GoMap.read identity.claims claim []

def firstValue (values : List String) : String := values.headD ""

def sessionFromClaims (provider : String) (claims : GoMap String (List String)) : Session where
  provider := provider
  user := firstValue (GoMap.read claims "sub" [])
  email := firstValue (GoMap.read claims "email" [])
  groups := GoMap.read claims "groups" []
  claims := claims
  issuedAt := 0
  expiresAt := 0
  tokenExpiresAt := 0
  refreshToken := ""
  nameID := ""
  sessionIndex := ""

def hexUpper (n : Nat) : Char := if n < 10 then Char.ofNat (n + 48) else Char.ofNat (n + 55)

def queryEscape (s : String) : String :=
  String.ofList (s.toUTF8.toList.flatMap fun b =>
    let c := Char.ofNat b.toNat
    if c.isAlphanum || c = '-' || c = '_' || c = '.' || c = '~' then [c]
    else if c = ' ' then ['+']
    else ['%', hexUpper (b.toNat / 16), hexUpper (b.toNat % 16)])

def Identity.apply (identity : Identity) (header : Header) : Header :=
  let header := if identity.user ≠ "" then header.set headerUser identity.user else header
  let header := if identity.email ≠ "" then header.set headerEmail identity.email else header
  if identity.groups ≠ [] then header.set headerGroups (",".intercalate identity.groups) else header

namespace Enforcer

def hasCookieProvider (e : Enforcer) : Bool :=
  e.cfg.oidc.isSome || e.cfg.saml.isSome || e.cfg.ldap.isSome

def loginURL (e : Enforcer) (returnURL : String) : String :=
  let target := e.cfg.pathPrefix ++ "/login?ext=" ++ queryEscape e.cfg.identity
  if returnURL ≠ "" then target ++ "&rd=" ++ queryEscape returnURL else target

def authorize (e : Enforcer) (session : Session) (provider : String) : Decision :=
  let identity : Identity := ⟨session.user, session.email, session.groups, session.claims⟩
  if e.cfg.authorization.all fun require => intersects (claimValues identity require.claim) require.values
  then ⟨true, some identity, provider, "allowed", 0, "", [], "", ""⟩
  else ⟨false, none, provider, "forbidden", 403, "", [], grpcPermissionDenied, "forbidden"⟩

def failure (provider : String) : Decision :=
  ⟨false, none, provider, "error", 503, "", [], grpcUnavailable, "authentication provider unavailable"⟩

def challenges (e : Enforcer) : List String :=
  (if e.cfg.jwt.isSome then ["Bearer realm=\"krouter\""] else []) ++
    match e.cfg.ldap with
    | none => []
    | some ldap => ["Basic realm=" ++ quote (if ldap.realm = "" then "krouter" else ldap.realm)]

def unauthenticated (e : Enforcer) (grpcRule navigation : Bool) (returnURL : String) : Decision :=
  if navigation && !grpcRule && e.hasCookieProvider then
    ⟨false, none, "", "unauthenticated", 302, e.loginURL returnURL, [], "", ""⟩
  else
    ⟨false, none, "", "unauthenticated", 401, "", e.challenges, grpcUnauthenticated,
      "authentication required"⟩

def credentialFailure (e : Enforcer) (provider : String) (err : CredentialError) (grpcRule : Bool) :
    Decision :=
  match err with
  | .unavailable => failure provider
  | .rejected => { e.unauthenticated grpcRule false "" with provider := provider }

def pruneClaims (e : Enforcer) (claims : GoMap String (List String)) : GoMap String (List String) :=
  (e.cfg.authorization.filterMap fun require =>
    if require.claim = "user" ∨ require.claim = "email" ∨ require.claim = "groups" then none
    else claims[require.claim]?.map fun values => (require.claim, values)).foldl
      (fun m p => m.insert p.1 p.2) ∅

/-- The session of an LDAP identity; without a codec its lifetime is a nil dereference. -/
def mintSession (e : Enforcer) (p : Providers) (provider : String) (identity : Identity) :
    Option Session :=
  e.codec.map fun codec =>
    ⟨provider, identity.user, identity.email, identity.groups, e.pruneClaims identity.claims, p.unix,
      Int64.ofInt ((p.now + codec.lifetime.toInt) / 1000000000), 0, "", "", ""⟩

def refreshIfNeeded (e : Enforcer) (p : Providers) (codec : Codec) (r : Request) (session : Session) :
    Option (Session × List SetCookie) :=
  if session.tokenExpiresAt = 0 ∨ p.unix < session.tokenExpiresAt then some (session, [])
  else
    match e.cfg.oidc with
    | none => none
    | some oidc =>
      if session.provider ≠ "oidc" ∨ session.refreshToken = "" then none
      else match p.oidcRefresh oidc session with
        | .error _ => none
        | .ok refreshed =>
          match (codec.sealSession r refreshed p.nonce p.box).2 with
          | .error _ => none
          | .ok cookies => some (refreshed, cookies)

def evaluateSession (e : Enforcer) (p : Providers) (r : Request) :
    Option (Decision × List SetCookie) :=
  e.codec.bind fun codec => (codec.openSession p.log p.unix r).bind fun session =>
    (e.refreshIfNeeded p codec r session).map fun refreshed =>
      (e.authorize refreshed.1 refreshed.1.provider, refreshed.2)

def evaluateLDAP (e : Enforcer) (p : Providers) (ldap : AuthLDAP) (r : Request) (grpcRule : Bool) :
    Option (Decision × List SetCookie) :=
  match p.basicAuth r with
  | none => some (e.unauthenticated grpcRule false "", [])
  | some (username, password) =>
    match p.ldapAuthenticate ldap username password with
    | .error err => some (e.credentialFailure "ldap" err grpcRule, [])
    | .ok identity =>
      (e.mintSession p "ldap" identity).bind fun session => e.codec.map fun codec =>
        match (codec.sealSession r session p.nonce p.box).2 with
        | .error _ => (failure "ldap", [])
        | .ok cookies => (e.authorize session "ldap", cookies)

def stripIdentity (r : Request) : Request :=
  { r with header := ((r.header.del headerUser).del headerEmail).del headerGroups }

/-- The decision on the request and the cookies of its response; the client's identity headers are
gone in any case. -/
def evaluate (e : Enforcer) (p : Providers) (request : Request) (grpcRule : Bool) :
    Option (Decision × List SetCookie) × Request :=
  let r := stripIdentity request
  (match e.evaluateSession p r with
    | some decided => some decided
    | none =>
      match authorizationHeader r, e.cfg.jwt, e.cfg.ldap with
      | ("bearer", credentials), some jwt, _ =>
        match p.jwtValidate jwt credentials with
        | .error err => some (e.credentialFailure "jwt" err grpcRule, [])
        | .ok claims => some (e.authorize (sessionFromClaims "jwt" claims) "jwt", [])
      | ("basic", _), _, some ldap => e.evaluateLDAP p ldap r grpcRule
      | _, _, _ => some (e.unauthenticated grpcRule (isNavigation r) r.requestURI, []), r)

end Enforcer

end Krouter.Auth
