import Krouter.Auth.Enforcer

/-! What the cryptographic and network libraries say of key material, bundles, programs and prefixes, the
same for both planes. -/

namespace Krouter.Routing
open Auth

/-- One block as `pem.Decode` yields it. -/
structure PemBlock where
  type : String
  headers : List (String × String)
  bytes : String
  deriving DecidableEq

structure Platform extends Hydration where
  x509KeyPair : String → String → Except String Unit
  /-- The blocks that repeated `pem.Decode` finds in a bundle. -/
  pemBlocks : String → List PemBlock
  parseCertificate : String → Bool
  /-- The masked prefix, in its canonical text. -/
  parsePrefix : String → Except String String
  newEngine : String → Except String Unit
  /-- The error of `json.Unmarshal` into a value of the named type. -/
  jsonError : String → String → String

namespace Platform
variable (p : Platform)

def appendCertsFromPEM (bundle : String) : Bool :=
  (p.pemBlocks bundle).any fun block =>
    block.type = "CERTIFICATE" && block.headers.isEmpty && p.parseCertificate block.bytes

def unmarshal {α : Type} (c : Json.Codec α) (type payload : String) : Except String α :=
  match c.unmarshal payload with
  | some value => .ok value
  | none => .error (p.jsonError type payload)

def trusting : Platform where
  sum256 := id
  ldap := fun _ => .ok ()
  saml := fun _ => .ok ()
  x509KeyPair := fun _ _ => .ok ()
  pemBlocks := fun bundle => [⟨"CERTIFICATE", [], bundle⟩]
  parseCertificate := fun _ => true
  parsePrefix := .ok
  newEngine := fun _ => .ok ()
  jsonError := fun type _ => "cannot unmarshal " ++ type

end Platform

end Krouter.Routing
