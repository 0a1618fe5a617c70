import Krouter.Auth.Documents
import Krouter.Auth.Enforcer
import Krouter.Lib.LastSet

/-! The merging of authentication documents: attribute by attribute, in the order of the references,
and checked as a whole at the end. -/

namespace Krouter.Auth
open Compiled GoString

/-! ## Blocks -/

def SessionDoc.override (merged doc : SessionDoc) : SessionDoc where
  secret := doc.secret.or merged.secret
  lifetime := doc.lifetime.or merged.lifetime

def OIDCDoc.override (merged doc : OIDCDoc) : OIDCDoc where
  issuer := doc.issuer.or merged.issuer
  clientID := doc.clientID.or merged.clientID
  clientSecret := doc.clientSecret.or merged.clientSecret
  scopes := doc.scopes.or merged.scopes
  displayName := doc.displayName.or merged.displayName

/-- The nested block of attributes is replaced as a unit. -/
def SAMLDoc.override (merged doc : SAMLDoc) : SAMLDoc where
  entityID := doc.entityID.or merged.entityID
  idpMetadataURL := doc.idpMetadataURL.or merged.idpMetadataURL
  idpMetadata := doc.idpMetadata.or merged.idpMetadata
  spKey := doc.spKey.or merged.spKey
  spCertificate := doc.spCertificate.or merged.spCertificate
  attributes := doc.attributes.or merged.attributes
  displayName := doc.displayName.or merged.displayName

def LDAPDoc.override (merged doc : LDAPDoc) : LDAPDoc where
  url := doc.url.or merged.url
  startTLS := doc.startTLS.or merged.startTLS
  ca := doc.ca.or merged.ca
  bindDN := doc.bindDN.or merged.bindDN
  bindPassword := doc.bindPassword.or merged.bindPassword
  userBaseDN := doc.userBaseDN.or merged.userBaseDN
  userFilter := doc.userFilter.or merged.userFilter
  realm := doc.realm.or merged.realm
  attributes := doc.attributes.or merged.attributes
  groupSearch := doc.groupSearch.or merged.groupSearch
  displayName := doc.displayName.or merged.displayName

def JWTDoc.override (merged doc : JWTDoc) : JWTDoc where
  issuer := doc.issuer.or merged.issuer
  audiences := doc.audiences.or merged.audiences
  jwksURL := doc.jwksURL.or merged.jwksURL

def mergeBlock {B : Type} (override : B → B → B) (empty : B) (merged : Option B) : Option B → Option B
  | none => merged
  | some doc => some (override (merged.getD empty) doc)

def mergeSession (merged doc : Document) : Document :=
  { merged with session := mergeBlock SessionDoc.override {} merged.session doc.session }

def mergeOIDC (merged doc : Document) : Document :=
  { merged with oidc := mergeBlock OIDCDoc.override {} merged.oidc doc.oidc }

def mergeSAML (merged doc : Document) : Document :=
  { merged with saml := mergeBlock SAMLDoc.override {} merged.saml doc.saml }

def mergeLDAP (merged doc : Document) : Document :=
  { merged with ldap := mergeBlock LDAPDoc.override {} merged.ldap doc.ldap }

def mergeJWT (merged doc : Document) : Document :=
  { merged with jwt := mergeBlock JWTDoc.override {} merged.jwt doc.jwt }

def Document.add (merged doc : Document) : Document :=
  let merged := mergeJWT (mergeLDAP (mergeSAML (mergeOIDC (mergeSession merged doc) doc) doc) doc) doc
  { merged with
    requires := merged.requires ++ doc.requires
    pathPrefix := doc.pathPrefix.or merged.pathPrefix }

/-! ## Validation -/

/-- The standard library on URLs, key pairs and certificates: scheme and host, the error of a pair,
the typed blocks of a bundle, and which of them parse. -/
structure KeyMaterial where
  parseURL : String → Option (String × String)
  x509KeyPair : String → String → Option String
  pemBlocks : String → List (String × List UInt8)
  parseCertificate : List UInt8 → Bool

def contains (s sub : String) : Bool := containsChars sub.toList s.toList

section
variable (km : KeyMaterial)

def validateHTTPURL (what raw : String) : Except String Unit :=
  match km.parseURL raw with
  | none => .error ("invalid " ++ what ++ " " ++ quote raw)
  | some (scheme, host) =>
    if (scheme ≠ "http" ∧ scheme ≠ "https") ∨ host = "" then .error ("invalid " ++ what ++ " " ++ quote raw)
    else .ok ()

def validCAPEM (bundle : String) : Bool :=
  (km.pemBlocks bundle).any fun block => block.1 = "CERTIFICATE" && km.parseCertificate block.2

def validateSession (required : Bool) : Option SessionDoc → Except String (Option AuthSession)
  | none => if required then .error "session block is required with cookie providers" else .ok none
  | some session =>
    if !required then .error "session block is invalid when jwt is the only provider"
    else
      match session.secret with
      | none => .error "session secret must hold at least 32 bytes"
      | some secret =>
        if secret.utf8ByteSize < minSessionSecretBytes then .error "session secret must hold at least 32 bytes"
        else .ok (some ⟨secret, session.lifetime.getD defaultSessionLifetime / 1000000⟩)

def validateOIDC (doc : OIDCDoc) : Except String AuthOIDC :=
  match doc.issuer, doc.clientID with
  | some issuer, some clientID => do
    validateHTTPURL km "oidc issuer" issuer
    return ⟨trimSuffix issuer "/", clientID, doc.clientSecret.getD "", doc.scopes.getD [], doc.displayName.getD ""⟩
  | _, _ => .error "oidc provider must define issuer and client_id"

def validateMetadataURL : Option String → Except String Unit
  | none => .ok ()
  | some metadataURL => validateHTTPURL km "saml idp_metadata_url" metadataURL

def validateSAML (doc : SAMLDoc) : Except String AuthSAML :=
  match doc.entityID with
  | none => .error "saml provider must define entity_id"
  | some entityID =>
    if doc.idpMetadataURL.isSome = doc.idpMetadata.isSome then
      .error "saml provider must define exactly one of idp_metadata_url and idp_metadata"
    else do
      validateMetadataURL km doc.idpMetadataURL
      match doc.spKey, doc.spCertificate with
      | some key, some certificate =>
        match km.x509KeyPair certificate key with
        | some err => .error ("saml sp key material: " ++ err)
        | none => return ⟨entityID, doc.idpMetadataURL.getD "", doc.idpMetadata.getD "", key, certificate,
            doc.attributes.getD ∅, doc.displayName.getD ""⟩
      | _, _ => .error "saml provider must define sp_key and sp_certificate"

def validateGroupSearch : Option AuthGroupSearch → Except String Unit
  | none => .ok ()
  | some gs =>
    if gs.baseDN = "" ∨ gs.filter = "" ∨ gs.attributeName = "" then
      .error "ldap group_search must define base_dn, filter and attribute"
    else if !contains gs.filter "\x7bdn\x7d" ∧ !contains gs.filter "\x7busername\x7d" then
      .error "ldap group_search filter must reference \x7bdn\x7d or \x7busername\x7d"
    else .ok ()

def validateLDAP (doc : LDAPDoc) : Except String AuthLDAP :=
  match doc.url, doc.bindDN, doc.bindPassword, doc.userBaseDN, doc.userFilter with
  | some url, some bindDN, some bindPassword, some userBaseDN, some userFilter =>
    match km.parseURL url with
    | none => .error ("invalid ldap url " ++ quote url)
    | some (scheme, host) =>
      if (scheme ≠ "ldap" ∧ scheme ≠ "ldaps") ∨ host = "" then .error ("invalid ldap url " ++ quote url)
      else if !contains userFilter "\x7busername\x7d" then .error "ldap user_filter must reference \x7busername\x7d"
      else if scheme = "ldaps" ∧ doc.startTLS = some true then .error "start_tls does not apply to ldaps urls"
      else if ∃ ca ∈ doc.ca, !validCAPEM km ca then .error "ldap ca does not hold a certificate"
      else do
        validateGroupSearch doc.groupSearch
        return ⟨url, doc.startTLS.getD false, doc.ca.getD "", bindDN, bindPassword, userBaseDN, userFilter,
          doc.realm.getD "", doc.attributes.getD ∅, doc.groupSearch, doc.displayName.getD ""⟩
  | _, _, _, _, _ =>
    .error "ldap provider must define url, bind_dn, bind_password, user_base_dn and user_filter"

def validateKeySource (issuer : String) : Option String → Except String Unit
  | some jwksURL => validateHTTPURL km "jwt jwks_url" jwksURL
  | none => validateHTTPURL km "jwt issuer" issuer

def validateJWT (doc : JWTDoc) : Except String AuthJWT :=
  match doc.issuer, doc.audiences.getD [] with
  | some issuer, audience :: audiences => do
    validateKeySource km issuer doc.jwksURL
    return ⟨issuer, audience :: audiences, doc.jwksURL.getD ""⟩
  | _, _ => .error "jwt provider must define issuer and audiences"

def validateBlock {B C : Type} (validate : B → Except String C) : Option B → Except String (Option C)
  | none => .ok none
  | some block => (validate block).map some

def Document.validate (merged : Document) : Except String Auth := do
  let oidc ← validateBlock (validateOIDC km) merged.oidc
  let saml ← validateBlock (validateSAML km) merged.saml
  let ldap ← validateBlock (validateLDAP km) merged.ldap
  let jwt ← validateBlock (validateJWT km) merged.jwt
  let cookieProviders := merged.oidc.isSome || merged.saml.isSome || merged.ldap.isSome
  if !cookieProviders && merged.jwt.isNone then
    .error "merged configuration must configure at least one provider"
  else
    let session ← validateSession cookieProviders merged.session
    -- the caller sets the identity
    return ⟨"", merged.pathPrefix.getD defaultPathPrefix, session, oidc, saml, ldap, jwt, merged.requires⟩

def Document.merge (docs : List Document) : Except String Auth := (docs.foldl Document.add {}).validate km

end

/-! ## The attributes of the last documents that set them -/

structure Block (B : Type) where
  of : Document → Option B
  override : B → B → B
  empty : B
  of_add : ∀ merged doc, of (merged.add doc) = mergeBlock override empty (of merged) (of doc)
  of_empty : of {} = none

namespace Block
variable {B α : Type} (b : Block B)

def last (get : B → Option α) (docs : List Document) : Option α := lastSet (fun d => (b.of d).bind get) docs

theorem bind_mergeBlock {override : B → B → B} {empty : B} {get : B → Option α}
    (hget : ∀ merged doc, get (override merged doc) = (get doc).or (get merged)) (hempty : get empty = none)
    (merged doc : Option B) :
    (mergeBlock override empty merged doc).bind get = (doc.bind get).or (merged.bind get) := by
  cases doc with
  | none => rfl
  | some d =>
    rw [mergeBlock, Option.bind_some, Option.bind_some, hget]
    cases merged with
    | none => rw [Option.getD_none, hempty, Option.bind_none]
    | some m => rfl

variable {b}

theorem get_eq_last {docs : List Document} {block : B} (h : b.of (docs.foldl Document.add {}) = some block)
    (get : B → Option α) (hget : ∀ merged doc, get (b.override merged doc) = (get doc).or (get merged))
    (hempty : get b.empty = none) : get block = b.last get docs := by
  have hfold := foldl_eq_lastSet Document.add (fun d => (b.of d).bind get) (fun d => (b.of d).bind get)
    (fun merged doc => by rw [b.of_add, bind_mergeBlock hget hempty]) docs {}
  rw [h, b.of_empty, Option.bind_some, Option.bind_none, Option.or_none] at hfold
  exact hfold

theorem isSome_foldl (docs : List Document) (start : Document) :
    (b.of (docs.foldl Document.add start)).isSome = ((b.of start).isSome || docs.any fun d => (b.of d).isSome) := by
  induction docs generalizing start with
  | nil => rw [List.foldl_nil, List.any_nil, Bool.or_false]
  | cons d docs ih =>
    rw [List.foldl_cons, ih, b.of_add, List.any_cons, ← Bool.or_assoc]
    cases hd : b.of d with
    | none => rw [mergeBlock, Option.isSome_none, Bool.or_false]
    | some block => rw [mergeBlock, Option.isSome_some, Option.isSome_some, Bool.or_true]

end Block

def sessionBlock : Block SessionDoc := ⟨Document.session, SessionDoc.override, {}, fun _ _ => rfl, rfl⟩

def oidcBlock : Block OIDCDoc := ⟨Document.oidc, OIDCDoc.override, {}, fun _ _ => rfl, rfl⟩

def samlBlock : Block SAMLDoc := ⟨Document.saml, SAMLDoc.override, {}, fun _ _ => rfl, rfl⟩

def ldapBlock : Block LDAPDoc := ⟨Document.ldap, LDAPDoc.override, {}, fun _ _ => rfl, rfl⟩

def jwtBlock : Block JWTDoc := ⟨Document.jwt, JWTDoc.override, {}, fun _ _ => rfl, rfl⟩

section
variable (docs : List Document)

def lastSession : SessionDoc where
  secret := sessionBlock.last SessionDoc.secret docs
  lifetime := sessionBlock.last SessionDoc.lifetime docs

def lastOIDC : OIDCDoc where
  issuer := oidcBlock.last OIDCDoc.issuer docs
  clientID := oidcBlock.last OIDCDoc.clientID docs
  clientSecret := oidcBlock.last OIDCDoc.clientSecret docs
  scopes := oidcBlock.last OIDCDoc.scopes docs
  displayName := oidcBlock.last OIDCDoc.displayName docs

def lastSAML : SAMLDoc where
  entityID := samlBlock.last SAMLDoc.entityID docs
  idpMetadataURL := samlBlock.last SAMLDoc.idpMetadataURL docs
  idpMetadata := samlBlock.last SAMLDoc.idpMetadata docs
  spKey := samlBlock.last SAMLDoc.spKey docs
  spCertificate := samlBlock.last SAMLDoc.spCertificate docs
  attributes := samlBlock.last SAMLDoc.attributes docs
  displayName := samlBlock.last SAMLDoc.displayName docs

def lastLDAP : LDAPDoc where
  url := ldapBlock.last LDAPDoc.url docs
  startTLS := ldapBlock.last LDAPDoc.startTLS docs
  ca := ldapBlock.last LDAPDoc.ca docs
  bindDN := ldapBlock.last LDAPDoc.bindDN docs
  bindPassword := ldapBlock.last LDAPDoc.bindPassword docs
  userBaseDN := ldapBlock.last LDAPDoc.userBaseDN docs
  userFilter := ldapBlock.last LDAPDoc.userFilter docs
  realm := ldapBlock.last LDAPDoc.realm docs
  attributes := ldapBlock.last LDAPDoc.attributes docs
  groupSearch := ldapBlock.last LDAPDoc.groupSearch docs
  displayName := ldapBlock.last LDAPDoc.displayName docs

def lastJWT : JWTDoc where
  issuer := jwtBlock.last JWTDoc.issuer docs
  audiences := jwtBlock.last JWTDoc.audiences docs
  jwksURL := jwtBlock.last JWTDoc.jwksURL docs

variable {docs}

theorem session_eq_last {block : SessionDoc} (h : (docs.foldl Document.add {}).session = some block) :
    block = lastSession docs := by
  ext1
  all_goals exact Block.get_eq_last (b := sessionBlock) h _ (fun _ _ => rfl) rfl

theorem oidc_eq_last {block : OIDCDoc} (h : (docs.foldl Document.add {}).oidc = some block) :
    block = lastOIDC docs := by
  ext1
  all_goals exact Block.get_eq_last (b := oidcBlock) h _ (fun _ _ => rfl) rfl

theorem saml_eq_last {block : SAMLDoc} (h : (docs.foldl Document.add {}).saml = some block) :
    block = lastSAML docs := by
  ext1
  all_goals exact Block.get_eq_last (b := samlBlock) h _ (fun _ _ => rfl) rfl

theorem ldap_eq_last {block : LDAPDoc} (h : (docs.foldl Document.add {}).ldap = some block) :
    block = lastLDAP docs := by
  ext1
  all_goals exact Block.get_eq_last (b := ldapBlock) h _ (fun _ _ => rfl) rfl

theorem jwt_eq_last {block : JWTDoc} (h : (docs.foldl Document.add {}).jwt = some block) :
    block = lastJWT docs := by
  ext1
  all_goals exact Block.get_eq_last (b := jwtBlock) h _ (fun _ _ => rfl) rfl

theorem pathPrefix_foldl : (docs.foldl Document.add {}).pathPrefix = lastSet Document.pathPrefix docs := by
  have hfold := foldl_eq_lastSet Document.add Document.pathPrefix Document.pathPrefix (fun _ _ => rfl) docs {}
  rw [Option.or_none] at hfold
  exact hfold

theorem requires_foldl (start : Document) :
    (docs.foldl Document.add start).requires = start.requires ++ docs.flatMap Document.requires := by
  induction docs generalizing start with
  | nil => rw [List.foldl_nil, List.flatMap_nil, List.append_nil]
  | cons d docs ih =>
    rw [List.foldl_cons, ih, List.flatMap_cons, ← List.append_assoc]
    rfl

end

/-! ## What a block comes to -/

structure SessionDoc.CompilesTo (doc : SessionDoc) (c : AuthSession) : Prop where
  secret : doc.secret = some c.secret
  long : minSessionSecretBytes ≤ c.secret.utf8ByteSize
  lifetimeMillis : c.lifetimeMillis = doc.lifetime.getD defaultSessionLifetime / 1000000

/-- The issuer is without the slash that it may end in. -/
structure OIDCDoc.CompilesTo (doc : OIDCDoc) (c : AuthOIDC) : Prop where
  issuer : doc.issuer.map (trimSuffix · "/") = some c.issuer
  clientID : doc.clientID = some c.clientID
  clientSecret : c.clientSecret = doc.clientSecret.getD ""
  scopes : c.scopes = doc.scopes.getD []
  displayName : c.displayName = doc.displayName.getD ""

structure SAMLDoc.CompilesTo (doc : SAMLDoc) (c : AuthSAML) : Prop where
  entityID : doc.entityID = some c.entityID
  idpMetadataURL : c.idpMetadataURL = doc.idpMetadataURL.getD ""
  idpMetadata : c.idpMetadata = doc.idpMetadata.getD ""
  spKeyPEM : doc.spKey = some c.spKeyPEM
  spCertPEM : doc.spCertificate = some c.spCertPEM
  attributes : c.attributes = doc.attributes.getD ∅
  displayName : c.displayName = doc.displayName.getD ""

structure LDAPDoc.CompilesTo (doc : LDAPDoc) (c : AuthLDAP) : Prop where
  url : doc.url = some c.url
  startTLS : c.startTLS = doc.startTLS.getD false
  ca : c.ca = doc.ca.getD ""
  bindDN : doc.bindDN = some c.bindDN
  bindPassword : doc.bindPassword = some c.bindPassword
  userBaseDN : doc.userBaseDN = some c.userBaseDN
  userFilter : doc.userFilter = some c.userFilter
  realm : c.realm = doc.realm.getD ""
  attributes : c.attributes = doc.attributes.getD ∅
  groupSearch : c.groupSearch = doc.groupSearch
  displayName : c.displayName = doc.displayName.getD ""

structure JWTDoc.CompilesTo (doc : JWTDoc) (c : AuthJWT) : Prop where
  issuer : doc.issuer = some c.issuer
  audiences : c.audiences = doc.audiences.getD []
  jwksURL : c.jwksURL = doc.jwksURL.getD ""

section
variable {km : KeyMaterial}

theorem validateSession_ok {required : Bool} {session : Option SessionDoc} {c : Option AuthSession}
    (h : validateSession required session = .ok c) :
    c.isSome = required ∧ ∀ compiled ∈ c, ∃ doc, session = some doc ∧ doc.CompilesTo compiled := by
  cases session with
  | none =>
    rw [validateSession] at h
    split_ifs at h with hrequired
    cases h
    exact ⟨(Bool.eq_false_iff.mpr hrequired).symm, fun compiled hc => by cases hc⟩
  | some doc =>
    rw [validateSession] at h
    split_ifs at h with hrequired
    split at h
    · cases h
    · next secret hsecret =>
      split_ifs at h with hlong
      cases h
      refine ⟨by simpa using hrequired, fun compiled hc => ⟨doc, rfl, ?_⟩⟩
      cases hc
      exact ⟨hsecret, Nat.not_lt.mp hlong, rfl⟩

theorem validateOIDC_ok {doc : OIDCDoc} {c : AuthOIDC} (h : validateOIDC km doc = .ok c) : doc.CompilesTo c := by
  rw [validateOIDC] at h
  split at h
  · rename_i issuer clientID hissuer hclientID
    obtain ⟨_, -, h⟩ := Result.bind_eq_ok.mp h
    cases h
    exact ⟨by rw [hissuer, Option.map_some], hclientID, rfl, rfl, rfl⟩
  · cases h

theorem validateSAML_ok {doc : SAMLDoc} {c : AuthSAML} (h : validateSAML km doc = .ok c) : doc.CompilesTo c := by
  rw [validateSAML] at h
  split at h
  · cases h
  · rename_i entityID hentity
    split at h
    · cases h
    · obtain ⟨_, -, h⟩ := Result.bind_eq_ok.mp h
      split at h
      · rename_i key certificate hkey hcertificate
        split at h
        · cases h
        · cases h
          exact ⟨hentity, rfl, rfl, hkey, hcertificate, rfl, rfl⟩
      · cases h

theorem validateLDAP_ok {doc : LDAPDoc} {c : AuthLDAP} (h : validateLDAP km doc = .ok c) : doc.CompilesTo c := by
  rw [validateLDAP] at h
  split at h
  · rename_i url bindDN bindPassword userBaseDN userFilter hurl hbindDN hbindPassword huserBaseDN huserFilter
    split at h
    · cases h
    · split_ifs at h
      obtain ⟨_, -, h⟩ := Result.bind_eq_ok.mp h
      cases h
      exact ⟨hurl, rfl, rfl, hbindDN, hbindPassword, huserBaseDN, huserFilter, rfl, rfl, rfl, rfl⟩
  · cases h

theorem validateJWT_ok {doc : JWTDoc} {c : AuthJWT} (h : validateJWT km doc = .ok c) : doc.CompilesTo c := by
  rw [validateJWT] at h
  split at h
  · rename_i issuer audience audiences hissuer haudiences
    obtain ⟨_, -, h⟩ := Result.bind_eq_ok.mp h
    cases h
    exact ⟨hissuer, haudiences.symm, rfl⟩
  · cases h

theorem validateBlock_ok {B C : Type} {validate : B → Except String C} {block : Option B} {c : Option C}
    (h : validateBlock validate block = .ok c) :
    c.isSome = block.isSome ∧ ∀ compiled ∈ c, ∃ b, block = some b ∧ validate b = .ok compiled := by
  cases block with
  | none =>
    cases h
    exact ⟨rfl, fun compiled hc => by cases hc⟩
  | some b =>
    rw [validateBlock] at h
    cases hb : validate b with
    | error err =>
      rw [hb] at h
      cases h
    | ok compiled =>
      rw [hb] at h
      cases h
      refine ⟨rfl, fun compiled' hc => ⟨b, rfl, ?_⟩⟩
      cases hc
      exact hb

end

/-! ## Merging -/

/-- A configuration as its documents say it: the blocks that one of them has, with the attributes of
the last ones that set them. -/
structure Merged (docs : List Document) (config : Auth) : Prop where
  pathPrefix : config.pathPrefix = (lastSet Document.pathPrefix docs).getD defaultPathPrefix
  authorization : config.authorization = docs.flatMap Document.requires
  oidc_isSome : config.oidc.isSome = docs.any fun d => d.oidc.isSome
  oidc : ∀ c ∈ config.oidc, (lastOIDC docs).CompilesTo c
  saml_isSome : config.saml.isSome = docs.any fun d => d.saml.isSome
  saml : ∀ c ∈ config.saml, (lastSAML docs).CompilesTo c
  ldap_isSome : config.ldap.isSome = docs.any fun d => d.ldap.isSome
  ldap : ∀ c ∈ config.ldap, (lastLDAP docs).CompilesTo c
  jwt_isSome : config.jwt.isSome = docs.any fun d => d.jwt.isSome
  jwt : ∀ c ∈ config.jwt, (lastJWT docs).CompilesTo c
  session_isSome : config.session.isSome = (config.oidc.isSome || config.saml.isSome || config.ldap.isSome)
  session : ∀ c ∈ config.session, (lastSession docs).CompilesTo c

section
variable {km : KeyMaterial} {docs : List Document} {config : Auth}

theorem merge_merged (h : Document.merge km docs = .ok config) : Merged docs config := by
  rw [Document.merge, Document.validate] at h
  obtain ⟨oidc, hoidc, h⟩ := Result.bind_eq_ok.mp h
  obtain ⟨saml, hsaml, h⟩ := Result.bind_eq_ok.mp h
  obtain ⟨ldap, hldap, h⟩ := Result.bind_eq_ok.mp h
  obtain ⟨jwt, hjwt, h⟩ := Result.bind_eq_ok.mp h
  dsimp only at h
  split_ifs at h
  obtain ⟨session, hsession, h⟩ := Result.bind_eq_ok.mp h
  cases h
  obtain ⟨hoidcSome, hoidc⟩ := validateBlock_ok hoidc
  obtain ⟨hsamlSome, hsaml⟩ := validateBlock_ok hsaml
  obtain ⟨hldapSome, hldap⟩ := validateBlock_ok hldap
  obtain ⟨hjwtSome, hjwt⟩ := validateBlock_ok hjwt
  obtain ⟨hsessionSome, hsession⟩ := validateSession_ok hsession
  refine ⟨congrArg (·.getD defaultPathPrefix) pathPrefix_foldl, requires_foldl {},
    hoidcSome.trans (Block.isSome_foldl (b := oidcBlock) docs {}), fun c hc => ?_,
    hsamlSome.trans (Block.isSome_foldl (b := samlBlock) docs {}), fun c hc => ?_,
    hldapSome.trans (Block.isSome_foldl (b := ldapBlock) docs {}), fun c hc => ?_,
    hjwtSome.trans (Block.isSome_foldl (b := jwtBlock) docs {}), fun c hc => ?_, ?_, fun c hc => ?_⟩
  · obtain ⟨block, hblock, hvalid⟩ := hoidc c hc
    rw [← oidc_eq_last hblock]
    exact validateOIDC_ok hvalid
  · obtain ⟨block, hblock, hvalid⟩ := hsaml c hc
    rw [← saml_eq_last hblock]
    exact validateSAML_ok hvalid
  · obtain ⟨block, hblock, hvalid⟩ := hldap c hc
    rw [← ldap_eq_last hblock]
    exact validateLDAP_ok hvalid
  · obtain ⟨block, hblock, hvalid⟩ := hjwt c hc
    rw [← jwt_eq_last hblock]
    exact validateJWT_ok hvalid
  · dsimp only
    rw [hsessionSome, hoidcSome, hsamlSome, hldapSome]
  · obtain ⟨block, hblock, hcompiled⟩ := hsession c hc
    rw [← session_eq_last hblock]
    exact hcompiled

theorem Enforcer.authorize_allowed (e : Enforcer) (session : Session) (provider : String) :
    (e.authorize session provider).allowed = true ↔ ∀ require ∈ e.cfg.authorization,
      intersects (claimValues ⟨session.user, session.email, session.groups, session.claims⟩ require.claim)
        require.values = true := by
  rw [← List.all_eq_true, Enforcer.authorize]
  split
  · exact iff_of_true rfl ‹_›
  · exact iff_of_false Bool.false_ne_true ‹_›

theorem div_million_nonneg {ns : Int64} (h : 0 < ns) : 0 ≤ ns / 1000000 := by
  have hpos : 0 < ns.toInt := by simpa using Int64.lt_iff_toInt_lt.mp h
  rw [Int64.le_iff_toInt_le, Int64.toInt_div_of_ne_right _ _ (by decide)]
  exact Int.tdiv_nonneg (Int.le_of_lt hpos) (by decide)

end

/-- Whenever documents merge, the configuration is as the last of them say it, but for the slash at the
end of the issuer and fractions of milliseconds; and a further document lets no new identity in. -/
theorem merge_last_wins {Body : Type} (decoding : Decoding Body) (km : KeyMaterial) (docs : List Document)
    (config : Auth) (hparsed : ∀ d ∈ docs, ∃ src, Document.parse decoding src = .ok d)
    (h : Document.merge km docs = .ok config) :
    Merged docs config ∧ (∀ c ∈ config.session, 0 ≤ c.lifetimeMillis) ∧
      ∀ d config', Document.merge km (docs ++ [d]) = .ok config' → ∀ codec codec' session provider,
        ((⟨config', codec'⟩ : Enforcer).authorize session provider).allowed = true →
        ((⟨config, codec⟩ : Enforcer).authorize session provider).allowed = true := by
  have hmerged := merge_merged h
  refine ⟨hmerged, fun c hc => ?_, fun d config' h' codec codec' session provider hallowed => ?_⟩
  · rw [(hmerged.session c hc).lifetimeMillis]
    have hpos : ∀ ns ∈ (lastSession docs).lifetime, (0 : Int64) < ns := by
      refine lastSet_forall fun d hd ns hns => ?_
      obtain ⟨src, hsrc⟩ := hparsed d hd
      exact Document.parse_lifetime hsrc ns hns
    have hlifetime : 0 < (lastSession docs).lifetime.getD defaultSessionLifetime := by
      cases hset : (lastSession docs).lifetime with
      | none => decide
      | some ns => exact hpos ns hset
    exact div_million_nonneg hlifetime
  · rw [Enforcer.authorize_allowed] at hallowed ⊢
    intro require hrequire
    refine hallowed require ?_
    have hlonger := (merge_merged h').authorization
    rw [List.flatMap_append] at hlonger
    rw [hmerged.authorization] at hrequire
    rw [hlonger]
    exact List.mem_append_left _ hrequire

/-! ## Two documents -/

def sampleDecoding : Decoding OIDCDoc where
  document src :=
    if src = "base" then
      .ok ⟨1, some ⟨some ⟨some "0123456789abcdef0123456789abcdef", some "1500us"⟩,
        [⟨"oidc", ⟨some "https://idp/", some "krouter", none, none, none⟩⟩], some [⟨"groups", ["staff"]⟩], none⟩⟩
    else .ok ⟨1, some ⟨none, [], some [⟨"groups", ["admins"]⟩], some "/login"⟩⟩
  oidc := .ok
  saml _ := .error ""
  ldap _ := .error ""
  jwt _ := .error ""
  parseDuration _ := some 1500000

def sampleKeyMaterial : KeyMaterial := ⟨fun _ => some ("https", "idp"), fun _ _ => none, fun _ => [], fun _ => false⟩

def baseDocument : Document where
  session := some ⟨some "0123456789abcdef0123456789abcdef", some 1500000⟩
  oidc := some ⟨some "https://idp/", some "krouter", none, none, none⟩
  requires := [⟨"groups", ["staff"]⟩]

def refinement : Document where
  requires := [⟨"groups", ["admins"]⟩]
  pathPrefix := some "/login"

theorem parse_base : Document.parse sampleDecoding "base" = .ok baseDocument := by decide

theorem parse_refinement : Document.parse sampleDecoding "refinement" = .ok refinement := by decide

def refined : Auth where
  identity := ""
  pathPrefix := "/login"
  session := some ⟨"0123456789abcdef0123456789abcdef", 1⟩
  oidc := some ⟨"https://idp", "krouter", "", [], ""⟩
  saml := none
  ldap := none
  jwt := none
  authorization := [⟨"groups", ["staff"]⟩, ⟨"groups", ["admins"]⟩]

theorem merge_refined : Document.merge sampleKeyMaterial [baseDocument, refinement] = .ok refined := by
  decide

theorem refinement_wins : Merged [baseDocument, refinement] refined ∧ (∀ c ∈ refined.session, 0 ≤ c.lifetimeMillis) ∧
    ∀ d config', Document.merge sampleKeyMaterial ([baseDocument, refinement] ++ [d]) = .ok config' →
      ∀ codec codec' session provider,
        ((⟨config', codec'⟩ : Enforcer).authorize session provider).allowed = true →
        ((⟨refined, codec⟩ : Enforcer).authorize session provider).allowed = true := by
  refine merge_last_wins sampleDecoding sampleKeyMaterial _ _ (fun d hd => ?_) merge_refined
  simp only [List.mem_cons, List.not_mem_nil, or_false] at hd
  rcases hd with rfl | rfl
  · exact ⟨"base", parse_base⟩
  · exact ⟨"refinement", parse_refinement⟩

theorem issuer_and_lifetime_change : Document.parse sampleDecoding "base" = .ok baseDocument ∧
    ∃ config, Document.merge sampleKeyMaterial [baseDocument] = .ok config ∧
      config.oidc.map AuthOIDC.issuer = some "https://idp" ∧ (lastOIDC [baseDocument]).issuer = some "https://idp/" ∧
      config.session.map AuthSession.lifetimeMillis = some 1 ∧
      (lastSession [baseDocument]).lifetime = some 1500000 :=
  ⟨parse_base, { refined with pathPrefix := defaultPathPrefix, authorization := [⟨"groups", ["staff"]⟩] },
    by decide, rfl, rfl, rfl, rfl⟩

end Krouter.Auth
