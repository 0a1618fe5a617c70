import Krouter.Compiled.Objects
import Krouter.Lib.JsonCodec

/-! The compiled authentication document of one extension. It is sensitive and rides the
generated Secret of its generation. -/

namespace Krouter.Compiled
open Json Json.Codec Json.Fields

structure AuthSession where
  secret : String
  lifetimeMillis : Int64
  deriving DecidableEq

structure AuthOIDC where
  issuer : String
  clientID : String
  clientSecret : String
  scopes : List String
  displayName : String
  deriving DecidableEq

structure AuthSAML where
  entityID : String
  idpMetadataURL : String
  idpMetadata : String
  spKeyPEM : String
  spCertPEM : String
  attributes : GoMap String String
  displayName : String
  deriving DecidableEq

structure AuthGroupSearch where
  baseDN : String
  filter : String
  attributeName : String
  deriving DecidableEq

structure AuthLDAP where
  url : String
  startTLS : Bool
  ca : String
  bindDN : String
  bindPassword : String
  userBaseDN : String
  userFilter : String
  realm : String
  attributes : GoMap String String
  groupSearch : Option AuthGroupSearch
  displayName : String
  deriving DecidableEq

structure AuthJWT where
  issuer : String
  audiences : List String
  jwksURL : String
  deriving DecidableEq

structure AuthRequire where
  claim : String
  values : List String
  deriving DecidableEq

structure Auth where
  identity : String
  pathPrefix : String
  session : Option AuthSession
  oidc : Option AuthOIDC
  saml : Option AuthSAML
  ldap : Option AuthLDAP
  jwt : Option AuthJWT
  authorization : List AuthRequire
  deriving DecidableEq

/-! ## Codecs -/

def authSessionCodec : Codec AuthSession :=
  struct ⟨"", 0⟩ <| ((field "secret" string).prod <| field "lifetimeMillis" int64).iso
    (fun ⟨a, b⟩ => ⟨a, b⟩) (fun s => (s.secret, s.lifetimeMillis)) fun _ => rfl

def authOIDCCodec : Codec AuthOIDC :=
  struct ⟨"", "", "", [], ""⟩ <|
    ((field "issuer" string).prod <|
      (field "clientId" string).prod <|
      (omitempty "clientSecret" string).prod <|
      (omitempty "scopes" string.list).prod <|
      omitempty "displayName" string).iso
    (fun ⟨a, b, c, d, e⟩ => ⟨a, b, c, d, e⟩)
    (fun o => (o.issuer, o.clientID, o.clientSecret, o.scopes, o.displayName)) fun _ => rfl

def authSAMLCodec : Codec AuthSAML :=
  struct ⟨"", "", "", "", "", ∅, ""⟩ <|
    ((field "entityId" string).prod <|
      (omitempty "idpMetadataUrl" string).prod <|
      (omitempty "idpMetadata" string).prod <|
      (field "spKeyPem" string).prod <|
      (field "spCertPem" string).prod <|
      (omitempty "attributes" string.map).prod <|
      omitempty "displayName" string).iso
    (fun ⟨a, b, c, d, e, f, g⟩ => ⟨a, b, c, d, e, f, g⟩)
    (fun s => (s.entityID, s.idpMetadataURL, s.idpMetadata, s.spKeyPEM, s.spCertPEM, s.attributes,
      s.displayName)) fun _ => rfl

def authGroupSearchCodec : Codec AuthGroupSearch :=
  struct ⟨"", "", ""⟩ <|
    ((field "baseDn" string).prod <|
      (field "filter" string).prod <|
      field "attribute" string).iso
    (fun ⟨a, b, c⟩ => ⟨a, b, c⟩) (fun g => (g.baseDN, g.filter, g.attributeName)) fun _ => rfl

def authLDAPCodec : Codec AuthLDAP :=
  struct ⟨"", false, "", "", "", "", "", "", ∅, none, ""⟩ <|
    ((field "url" string).prod <|
      (omitempty "startTls" bool).prod <|
      (omitempty "ca" string).prod <|
      (field "bindDn" string).prod <|
      (omitempty "bindPassword" string).prod <|
      (field "userBaseDn" string).prod <|
      (field "userFilter" string).prod <|
      (omitempty "realm" string).prod <|
      (omitempty "attributes" string.map).prod <|
      (omitnil "groupSearch" authGroupSearchCodec (struct_enc_ne_null _ _)).prod <|
      omitempty "displayName" string).iso
    (fun ⟨a, b, c, d, e, f, g, h, i, j, k⟩ => ⟨a, b, c, d, e, f, g, h, i, j, k⟩)
    (fun l => (l.url, l.startTLS, l.ca, l.bindDN, l.bindPassword, l.userBaseDN, l.userFilter,
      l.realm, l.attributes, l.groupSearch, l.displayName)) fun _ => rfl

def authJWTCodec : Codec AuthJWT :=
  struct ⟨"", [], ""⟩ <|
    ((field "issuer" string).prod <|
      (field "audiences" string.list).prod <|
      omitempty "jwksUrl" string).iso
    (fun ⟨a, b, c⟩ => ⟨a, b, c⟩) (fun j => (j.issuer, j.audiences, j.jwksURL)) fun _ => rfl

def authRequireCodec : Codec AuthRequire :=
  struct ⟨"", []⟩ <| ((field "claim" string).prod <| field "values" string.list).iso
    (fun ⟨a, b⟩ => ⟨a, b⟩) (fun r => (r.claim, r.values)) fun _ => rfl

def authCodec : Codec Auth :=
  struct ⟨"", "", none, none, none, none, none, []⟩ <|
    ((field "identity" string).prod <|
      (field "pathPrefix" string).prod <|
      (omitnil "session" authSessionCodec (struct_enc_ne_null _ _)).prod <|
      (omitnil "oidc" authOIDCCodec (struct_enc_ne_null _ _)).prod <|
      (omitnil "saml" authSAMLCodec (struct_enc_ne_null _ _)).prod <|
      (omitnil "ldap" authLDAPCodec (struct_enc_ne_null _ _)).prod <|
      (omitnil "jwt" authJWTCodec (struct_enc_ne_null _ _)).prod <|
      omitempty "authorization" authRequireCodec.list).iso
    (fun ⟨a, b, c, d, e, f, g, h⟩ => ⟨a, b, c, d, e, f, g, h⟩)
    (fun a => (a.identity, a.pathPrefix, a.session, a.oidc, a.saml, a.ldap, a.jwt, a.authorization))
    fun _ => rfl

end Krouter.Compiled
