import Krouter.Routing.Build

/-! Loading one generation: every object the manifest lists is verified before a table is
built from them. -/

namespace Krouter.Routing
open Compiled GoString

structure Verified where
  gatewayConfig : Option GatewayConfig
  routes : List RouteConfig
  secret : Option SecretData

variable (p : Platform)

def verifyConfigMap (manifest : Manifest) (ref : ObjectRef) (cm : Option ConfigMap) (v : Verified) :
    Except String Verified :=
  match cm with
  | none => .error ("missing object " ++ ref.name)
  | some cm =>
    let payload := cm.data.read dataKey ""
    if cm.labels.read labelGatewayUID "" ≠ manifest.gatewayUID then
      .error ("object " ++ ref.name ++ " has unexpected identity")
    else if checksumBytes p.sum256 payload ≠ ref.checksum then
      .error ("checksum mismatch for " ++ ref.name)
    else if cm.labels.read labelRole "" = roleGatewayCfg then
      match p.unmarshal gatewayConfigCodec "GatewayConfig" payload with
      | .error err => .error ("invalid gateway config " ++ ref.name ++ ": " ++ err)
      | .ok config => .ok { v with gatewayConfig := some config }
    else if cm.labels.read labelRole "" = roleAttachment then
      match p.unmarshal routeConfigCodec "RouteConfig" payload with
      | .error err => .error ("invalid attachment " ++ ref.name ++ ": " ++ err)
      | .ok route => .ok { v with routes := v.routes ++ [route] }
    else .error ("object " ++ ref.name ++ " has unexpected role")

def verifySecret (manifest : Manifest) (ref : ObjectRef) (secret : Option Secret) (v : Verified) :
    Except String Verified :=
  match secret with
  | none => .error ("missing secret " ++ ref.name)
  | some obj =>
    if obj.labels.read labelGatewayUID "" ≠ manifest.gatewayUID then
      .error ("secret " ++ ref.name ++ " has unexpected identity")
    else if checksumSecret p.sum256 obj.data ≠ ref.checksum then
      .error ("checksum mismatch for secret " ++ ref.name)
    else .ok { v with secret := some obj.data }

def verifyObject (manifest : Manifest) (configMaps : GoMap String ConfigMap)
    (secrets : GoMap String Secret) (v : Verified) (ref : ObjectRef) : Except String Verified :=
  if ref.kind = objectKindConfigMap then verifyConfigMap p manifest ref configMaps[ref.name]? v
  else if ref.kind = objectKindSecret then verifySecret p manifest ref secrets[ref.name]? v
  else .error ("unknown object kind " ++ quote ref.kind)

def loadGeneration (manifest : Manifest) (configMaps : GoMap String ConfigMap)
    (secrets : GoMap String Secret) (previous : Option GatewayTable) : Except String GatewayTable :=
  match manifest.objects.foldlM (verifyObject p manifest configMaps secrets) ⟨none, [], none⟩ with
  | .error err => .error err
  | .ok v =>
    match v.gatewayConfig with
    | none => .error "manifest lists no gateway configuration"
    | some config => buildGatewayTable p manifest.generation config v.routes v.secret previous

variable {p}

variable {manifest : Manifest} {configMaps configMaps' : GoMap String ConfigMap} {secrets secrets' : GoMap String Secret}

theorem loadGeneration_generation {previous : Option GatewayTable} {table : GatewayTable}
    (h : loadGeneration p manifest configMaps secrets previous = .ok table) :
    table.generation = manifest.generation := by
  unfold loadGeneration at h
  split at h
  · cases h
  · split at h
    · cases h
    · exact buildGatewayTable_generation h

theorem verifyObject_congr {ref : ObjectRef}
    (hc : ref.kind = objectKindConfigMap → configMaps[ref.name]? = configMaps'[ref.name]?)
    (hs : ref.kind = objectKindSecret → secrets[ref.name]? = secrets'[ref.name]?) (v : Verified) :
    verifyObject p manifest configMaps secrets v ref =
      verifyObject p manifest configMaps' secrets' v ref := by
  unfold verifyObject
  split_ifs with h1 h2
  · rw [hc h1]
  · rw [hs h2]
  · rfl

theorem loadGeneration_congr (previous : Option GatewayTable)
    (hc : ∀ ref ∈ manifest.objects, ref.kind = objectKindConfigMap →
      configMaps[ref.name]? = configMaps'[ref.name]?)
    (hs : ∀ ref ∈ manifest.objects, ref.kind = objectKindSecret →
      secrets[ref.name]? = secrets'[ref.name]?) :
    loadGeneration p manifest configMaps secrets previous =
      loadGeneration p manifest configMaps' secrets' previous := by
  have hfold : ∀ (refs : List ObjectRef) (v : Verified), (∀ ref ∈ refs, ref ∈ manifest.objects) →
      refs.foldlM (verifyObject p manifest configMaps secrets) v =
        refs.foldlM (verifyObject p manifest configMaps' secrets') v := by
    intro refs
    induction refs with
    | nil => exact fun v _ => rfl
    | cons ref refs ih =>
      intro v hmem
      have href := hmem ref (.head _)
      rw [List.foldlM_cons, List.foldlM_cons, verifyObject_congr (hc ref href) (hs ref href)]
      exact bind_congr fun v' => ih v' fun r hr => hmem r (List.mem_cons_of_mem ref hr)
  rw [loadGeneration, loadGeneration, hfold _ _ fun _ h => h]

end Krouter.Routing
