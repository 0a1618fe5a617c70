import Krouter.Compiled.Objects
import Krouter.Lib.GoString

/-! The Gateway API objects a reconciliation reads, with the fields that listeners use. An absent pointer
is `none`, and so are objects that cannot be read. -/

namespace Krouter.ControlPlane
open Compiled

def groupName : String := "gateway.networking.k8s.io"

/-! ## References and grants -/

structure GrantFrom where
  group : String
  kind : String
  ns : String
  deriving DecidableEq

structure GrantTo where
  group : String
  kind : String
  name : Option String
  deriving DecidableEq

structure ReferenceGrant where
  ns : String
  sources : List GrantFrom
  targets : List GrantTo
  deriving DecidableEq

def referenceGrantAllows (grants : List ReferenceGrant) (fromGroup fromKind fromNamespace : String)
    (toKind toNamespace toName : String) : Bool :=
  grants.any fun grant =>
    grant.ns = toNamespace &&
      grant.sources.any (fun source =>
        source.group = fromGroup && source.kind = fromKind && source.ns = fromNamespace) &&
      grant.targets.any fun target =>
        target.group = "" && target.kind = toKind && target.name.all (· = toName)

/-- A grant in the target's namespace names the referring group, kind and namespace, and
the core kind with no name or the target's. -/
def Granted (grants : List ReferenceGrant) (source : GrantFrom) (toKind toNamespace toName : String) : Prop :=
  ∃ grant ∈ grants, grant.ns = toNamespace ∧ source ∈ grant.sources ∧
    ∃ target ∈ grant.targets, target.group = "" ∧ target.kind = toKind ∧
      (target.name = none ∨ target.name = some toName)

theorem referenceGrantAllows_iff {grants : List ReferenceGrant} {fromGroup fromKind fromNamespace : String}
    {toKind toNamespace toName : String} :
    referenceGrantAllows grants fromGroup fromKind fromNamespace toKind toNamespace toName = true ↔
      Granted grants ⟨fromGroup, fromKind, fromNamespace⟩ toKind toNamespace toName := by
  have hsource : ∀ source : GrantFrom, (source.group = fromGroup ∧ source.kind = fromKind) ∧
      source.ns = fromNamespace ↔ source = ⟨fromGroup, fromKind, fromNamespace⟩ := by
    rintro ⟨group, kind, ns⟩
    simp [and_assoc]
  have hname : ∀ name : Option String,
      name.all (· = toName) = true ↔ name = none ∨ name = some toName := by
    rintro (_ | name) <;> simp
  simp only [referenceGrantAllows, Granted, List.any_eq_true, Bool.and_eq_true, decide_eq_true_eq,
    hsource, hname, exists_eq_right, and_assoc]

structure SecretRef where
  group : Option String
  kind : Option String
  ns : Option String
  name : String
  deriving DecidableEq

structure ObjectReference where
  group : String
  kind : String
  ns : Option String
  name : String
  deriving DecidableEq

structure LabelSelector where
  parsed : Option (Labels → Bool)

/-! ## Listeners -/

structure TLSConfig where
  mode : Option String
  certificateRefs : List SecretRef
  deriving DecidableEq

structure RouteGroupKind where
  group : Option String
  kind : String
  deriving DecidableEq

structure RouteNamespaces where
  origin : Option String
  selector : Option LabelSelector

structure AllowedRoutes where
  namespaces : Option RouteNamespaces
  kinds : List RouteGroupKind

structure ListenerSpec where
  name : String
  hostname : Option String
  port : Int32
  protocol : String
  tls : Option TLSConfig
  allowedRoutes : Option AllowedRoutes

structure ParentReference where
  group : Option String
  kind : Option String
  ns : Option String
  name : String
  sectionName : Option String
  port : Option Int32
  deriving DecidableEq

structure ListenerSet where
  ns : String
  name : String
  created : Int
  parentRef : ParentReference
  listeners : List ListenerSpec

structure FrontendTLSValidation where
  mode : String
  caCertificateRefs : List ObjectReference
  deriving DecidableEq

structure TLSPortConfig where
  port : Int32
  validation : Option FrontendTLSValidation
  deriving DecidableEq

structure FrontendTLSConfig where
  default : Option FrontendTLSValidation
  perPort : List TLSPortConfig
  deriving DecidableEq

structure Gateway where
  uid : String
  ns : String
  name : String
  listeners : List ListenerSpec
  frontendTLS : Option FrontendTLSConfig
  backendClientCertificateRef : Option SecretRef
  allowedListeners : Option RouteNamespaces

/-- What one pass sees of the cluster. -/
structure World where
  grants : List ReferenceGrant
  namespaces : GoMap String Labels
  listenerSets : List ListenerSet
  services : GoMap String BackendService
  /-- The data of a Secret, by namespace and name. -/
  secret : String → String → Option (GoMap String String)
  configMap : String → String → Option (GoMap String String)

structure InfraParams where
  trustedProxies : List String
  proxyProtocolListeners : List String
  deriving DecidableEq

def nsName (ns name : String) : String := ns ++ "/" ++ name

/-! ## A small world -/

def World.small : World where
  grants := []
  namespaces := ∅
  listenerSets := []
  services := ∅
  secret := fun ns name =>
    some (GoMap.setAll ∅ [("tls.crt", nsName ns name), ("tls.key", nsName ns name)])
  configMap := fun ns name => some (GoMap.setAll ∅ [("ca.crt", nsName ns name)])

def ListenerSpec.https (name hostname : String) (port : Int32) : ListenerSpec where
  name := name
  hostname := some hostname
  port := port
  protocol := "HTTPS"
  tls := some ⟨none, [⟨none, none, none, "tls"⟩]⟩
  allowedRoutes := none

def Gateway.small (listeners : List ListenerSpec) (frontendTLS : Option FrontendTLSConfig) : Gateway where
  uid := "uid"
  ns := "shop"
  name := "gw"
  listeners := listeners
  frontendTLS := frontendTLS
  backendClientCertificateRef := none
  allowedListeners := none

end Krouter.ControlPlane
