import Krouter.Compiled.AuthConfig
import Krouter.Lib.Result

/-! Authentication documents. All of their attributes are optional, so that documents compose;
what one sets is checked as it is parsed. The decoding of HCL into its blocks is open. -/

namespace Krouter.Auth
open Compiled GoString

def defaultPathPrefix : String := "/.krouter/auth"

def defaultSessionLifetime : Int64 := 43200000000000

def minSessionSecretBytes : Nat := 32

@[ext]
structure SessionDoc where
  secret : Option String := none
  lifetime : Option Int64 := none
  deriving DecidableEq

@[ext]
structure OIDCDoc where
  issuer : Option String := none
  clientID : Option String := none
  clientSecret : Option String := none
  scopes : Option (List String) := none
  displayName : Option String := none
  deriving DecidableEq

@[ext]
structure SAMLDoc where
  entityID : Option String := none
  idpMetadataURL : Option String := none
  idpMetadata : Option String := none
  spKey : Option String := none
  spCertificate : Option String := none
  attributes : Option (GoMap String String) := none
  displayName : Option String := none
  deriving DecidableEq

@[ext]
structure LDAPDoc where
  url : Option String := none
  startTLS : Option Bool := none
  ca : Option String := none
  bindDN : Option String := none
  bindPassword : Option String := none
  userBaseDN : Option String := none
  userFilter : Option String := none
  realm : Option String := none
  attributes : Option (GoMap String String) := none
  groupSearch : Option AuthGroupSearch := none
  displayName : Option String := none
  deriving DecidableEq

@[ext]
structure JWTDoc where
  issuer : Option String := none
  audiences : Option (List String) := none
  jwksURL : Option String := none
  deriving DecidableEq

structure Document where
  session : Option SessionDoc := none
  oidc : Option OIDCDoc := none
  saml : Option SAMLDoc := none
  ldap : Option LDAPDoc := none
  jwt : Option JWTDoc := none
  requires : List AuthRequire := []
  pathPrefix : Option String := none
  deriving DecidableEq

/-! ## Parsing -/

structure HclSession where
  secret : Option String
  lifetime : Option String

structure HclAttributes where
  email : Option String
  groups : Option String

structure HclSAML where
  entityID : Option String
  idpMetadataURL : Option String
  idpMetadata : Option String
  spKey : Option String
  spCertificate : Option String
  attributes : Option HclAttributes
  displayName : Option String

structure HclLDAP where
  url : Option String
  startTLS : Option Bool
  ca : Option String
  bindDN : Option String
  bindPassword : Option String
  userBaseDN : Option String
  userFilter : Option String
  realm : Option String
  attributes : Option HclAttributes
  groupSearch : Option AuthGroupSearch
  displayName : Option String

structure HclProvider (Body : Type) where
  type : String
  body : Body

structure HclAuth (Body : Type) where
  session : Option HclSession
  providers : List (HclProvider Body)
  /-- The requirements of the authorization block, if there is one. -/
  authorization : Option (List AuthRequire)
  pathPrefix : Option String

structure HclAuthDocument (Body : Type) where
  version : Int64
  auth : Option (HclAuth Body)

/-- What HCL and `time` do for the parser. The blocks of two providers have the fields of their
documents. -/
structure Decoding (Body : Type) where
  document : String → Except String (HclAuthDocument Body)
  oidc : Body → Except String OIDCDoc
  saml : Body → Except String HclSAML
  ldap : Body → Except String HclLDAP
  jwt : Body → Except String JWTDoc
  parseDuration : String → Option Int64

def HclAttributes.toMap (a : HclAttributes) : GoMap String String :=
  let attributes := match a.email with
    | none => ∅
    | some email => (∅ : GoMap String String).insert "email" email
  match a.groups with
  | none => attributes
  | some groups => attributes.insert "groups" groups

def HclSAML.toDoc (raw : HclSAML) : SAMLDoc where
  entityID := raw.entityID
  idpMetadataURL := raw.idpMetadataURL
  idpMetadata := raw.idpMetadata
  spKey := raw.spKey
  spCertificate := raw.spCertificate
  attributes := raw.attributes.map HclAttributes.toMap
  displayName := raw.displayName

def HclLDAP.toDoc (raw : HclLDAP) : LDAPDoc where
  url := raw.url
  startTLS := raw.startTLS
  ca := raw.ca
  bindDN := raw.bindDN
  bindPassword := raw.bindPassword
  userBaseDN := raw.userBaseDN
  userFilter := raw.userFilter
  realm := raw.realm
  attributes := raw.attributes.map HclAttributes.toMap
  groupSearch := raw.groupSearch
  displayName := raw.displayName

variable {Body : Type} (decoding : Decoding Body)

def placeProvider {Raw B : Type} (label : String) (place : Option B) (decoded : Except String Raw) (toDoc : Raw → B) :
    Except String (Option B) :=
  if place.isSome then .error ("duplicate provider " ++ quote label)
  else
    match decoded with
    | .error err => .error ("provider " ++ quote label ++ ": " ++ err)
    | .ok raw => .ok (some (toDoc raw))

def Document.decodeProvider (d : Document) (provider : HclProvider Body) : Except String Document :=
  if provider.type = "oidc" then do
    let oidc ← placeProvider provider.type d.oidc (decoding.oidc provider.body) id
    return { d with oidc }
  else if provider.type = "saml" then do
    let saml ← placeProvider provider.type d.saml (decoding.saml provider.body) HclSAML.toDoc
    return { d with saml }
  else if provider.type = "ldap" then do
    let ldap ← placeProvider provider.type d.ldap (decoding.ldap provider.body) HclLDAP.toDoc
    return { d with ldap }
  else if provider.type = "jwt" then do
    let jwt ← placeProvider provider.type d.jwt (decoding.jwt provider.body) id
    return { d with jwt }
  else .error ("unknown provider type " ++ quote provider.type)

def parseSession : Option HclSession → Except String (Option SessionDoc)
  | none => .ok none
  | some raw =>
    match raw.lifetime with
    | none => .ok (some ⟨raw.secret, none⟩)
    | some text =>
      match decoding.parseDuration text with
      | none => .error ("invalid session lifetime " ++ quote text)
      | some lifetime =>
        if lifetime ≤ 0 then .error ("invalid session lifetime " ++ quote text)
        else .ok (some ⟨raw.secret, some lifetime⟩)

def validPathPrefix (path : String) : Bool :=
  hasPrefix path "/" && path ≠ "/" && !hasSuffix path "/"

def Document.parse (src : String) : Except String Document := do
  let raw ← decoding.document src
  if raw.version ≠ 1 then .error ("unsupported version " ++ toString raw.version)
  else
    match raw.auth with
    | none => .error "missing auth block"
    | some auth =>
      let session ← parseSession decoding auth.session
      let doc ← auth.providers.foldlM (Document.decodeProvider decoding) ⟨session, none, none, none, none, [], auth.pathPrefix⟩
      let requires := auth.authorization.getD []
      if requires.any fun require => require.claim = "" || require.values = [] then
        .error "require blocks need a claim and values"
      else
        let doc := { doc with requires }
        match doc.pathPrefix with
        | none => .ok doc
        | some path =>
          if !validPathPrefix path then .error ("invalid path_prefix " ++ quote path) else .ok doc

variable {decoding}

theorem decodeProvider_session {d d' : Document} {provider : HclProvider Body}
    (h : d.decodeProvider decoding provider = .ok d') : d'.session = d.session := by
  unfold Document.decodeProvider at h
  split_ifs at h <;> obtain ⟨block, -, h⟩ := Result.bind_eq_ok.mp h <;> cases h <;> rfl

theorem foldlM_decodeProvider_session {d d' : Document} {providers : List (HclProvider Body)}
    (h : providers.foldlM (Document.decodeProvider decoding) d = .ok d') : d'.session = d.session := by
  induction providers generalizing d with
  | nil =>
    cases h
    rfl
  | cons provider providers ih =>
    rw [List.foldlM_cons] at h
    obtain ⟨d₁, hfirst, hrest⟩ := Result.bind_eq_ok.mp h
    rw [ih hrest, decodeProvider_session hfirst]

theorem parseSession_lifetime {raw : Option HclSession} {session : Option SessionDoc}
    (h : parseSession decoding raw = .ok session) : ∀ ns ∈ session.bind SessionDoc.lifetime, 0 < ns := by
  intro ns hns
  unfold parseSession at h
  split at h
  · cases h
    cases hns
  · split at h
    · cases h
      cases hns
    · split at h
      · cases h
      · split_ifs at h with hpos
        cases h
        cases hns
        exact Int64.not_le.mp hpos

theorem Document.parse_lifetime {src : String} {doc : Document} (h : Document.parse decoding src = .ok doc) :
    ∀ ns ∈ doc.session.bind SessionDoc.lifetime, 0 < ns := by
  obtain ⟨raw, -, h⟩ := Result.bind_eq_ok.mp h
  split_ifs at h
  split at h
  · cases h
  · next auth hauth =>
    obtain ⟨session, hsession, h⟩ := Result.bind_eq_ok.mp h
    obtain ⟨doc₁, hproviders, h⟩ := Result.bind_eq_ok.mp h
    -- the checks that follow do not touch the session
    have hdoc : doc.session = doc₁.session := by
      dsimp only at h
      split_ifs at h
      split at h
      · cases h
        rfl
      · split_ifs at h
        cases h
        rfl
    rw [hdoc, foldlM_decodeProvider_session hproviders]
    exact parseSession_lifetime hsession

end Krouter.Auth
