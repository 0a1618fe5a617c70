import Krouter.Compiled.Config
import Krouter.ControlPlane.Kube

/-! The atomic publication protocol: the immutable objects of a generation first, then
the manifest that commits to them, then the collection of older generations. -/

namespace Krouter.Publish
open Calls Compiled Kube

/-- A Kubernetes UID in its canonical form of 36 characters. -/
structure UID extends Ports.GatewayUID where
  canonical : value.toList.length = 36
  deriving DecidableEq

def UID.sample : UID where
  value := "5c0e1f6a-0000-4000-8000-000000000001"
  nonempty := by decide
  pipeFree := by decide
  canonical := by decide

/-! ## Acknowledgements -/

structure GatewayAck where
  appliedGeneration : String
  deriving DecidableEq

structure PodAck where
  healthy : Bool
  gateways : GoMap String GatewayAck
  deriving DecidableEq

structure AckState where
  pods : GoMap String PodAck
  deriving DecidableEq

namespace AckState

def allAckedLoop (gatewayUID generation : String) : List PodAck → Nat → Bool
  | [], healthy => decide (0 < healthy)
  | pod :: pods, healthy =>
    if !pod.healthy then allAckedLoop gatewayUID generation pods healthy
    else match pod.gateways[gatewayUID]? with
      | none => false
      | some ack =>
        if ack.appliedGeneration ≠ generation then false
        else allAckedLoop gatewayUID generation pods (healthy + 1)

def allAcked (s : AckState) (gatewayUID generation : String) : Bool :=
  allAckedLoop gatewayUID generation (s.pods.toList.map Prod.snd) 0

def ackedGenerations (s : AckState) (gatewayUID : String) : GoMap String Bool :=
  GoMap.setAll ∅ ((s.pods.toList.map Prod.snd).filterMap fun pod =>
    match pod.gateways[gatewayUID]? with
    | some ack => if ack.appliedGeneration ≠ "" then some (ack.appliedGeneration, true) else none
    | none => none)

end AckState

/-! ## What is published -/

/-- The compiled payloads of one Gateway, and the order in which the loop over the
attachments happens to visit them. -/
structure Publication where
  uid : UID
  gatewayPayload : String
  attachments : GoMap String String
  secretData : GoMap String String
  visit : List (String × String)
  visit_perm : visit.Perm attachments.toList

theorem Publication.visit_perm_nil : ([] : List (String × String)).Perm (∅ : GoMap String String).toList := by
  decide

def configMapOf (name : String) (labels : Labels) (payload : String) : ConfigMap :=
  ⟨name, labels, (∅ : GoMap String String).insert dataKey payload⟩

def manifestLabels (gatewayUID : String) : Labels := (baseLabels gatewayUID).insert labelRole roleManifest

def manifestData (manifest : Manifest) : GoMap String String :=
  (∅ : GoMap String String).insert manifestKey (manifestCodec.marshal manifest)

def manifestConfigMap (gatewayUID : String) (manifest : Manifest) : ConfigMap :=
  ⟨manifestName gatewayUID, manifestLabels gatewayUID, manifestData manifest⟩

section
variable (sum256 : String → String)

namespace Publication
variable (p : Publication)

def secretChecksum : String :=
  if p.secretData.isEmpty then "" else checksumSecret sum256 p.secretData

def generation : String :=
  generationID sum256 p.gatewayPayload p.attachments (p.secretChecksum sum256)

def gatewayConfigMap : ConfigMap :=
  configMapOf (gatewayConfigName p.uid.value (p.generation sum256))
    (objectLabels p.uid.value (p.generation sum256) roleGatewayCfg) p.gatewayPayload

def attachmentConfigMap (attachment : String × String) : ConfigMap :=
  configMapOf (attachmentName p.uid.value attachment.1 (p.generation sum256))
    ((objectLabels p.uid.value (p.generation sum256) roleAttachment).insert labelSourceUID attachment.1)
    attachment.2

def generatedSecret : Secret :=
  ⟨tlsSecretName p.uid.value (p.generation sum256),
    objectLabels p.uid.value (p.generation sum256) roleTLS, p.secretData⟩

def configMaps : List ConfigMap :=
  p.gatewayConfigMap sum256 :: p.visit.map (p.attachmentConfigMap sum256)

def configMapRef (cm : ConfigMap) : ObjectRef :=
  ⟨objectKindConfigMap, cm.name, checksumBytes sum256 (GoMap.read cm.data dataKey "")⟩

def manifest : Manifest where
  gatewayUID := p.uid.value
  generation := p.generation sum256
  previous := ""
  objects := (p.configMaps sum256).map (configMapRef sum256) ++
    if p.secretData.isEmpty then []
    else [⟨objectKindSecret, tlsSecretName p.uid.value (p.generation sum256), p.secretChecksum sum256⟩]

end Publication

def ensureImmutableCM (name : String) (labels : Labels) (payload : String) : Api Unit :=
  configMaps.ensureImmutable name (configMapOf name labels payload)

def ensureGeneratedSecret (name gatewayUID generation : String) (data : GoMap String String) :
    Api Unit :=
  secrets.ensureImmutable name ⟨name, objectLabels gatewayUID generation roleTLS, data⟩

end

def equalStringMaps (a b : GoMap String String) : Bool :=
  a.size == b.size && a.toList.all fun entry => GoMap.read b entry.1 "" == entry.2

def previousAfter (stored : Manifest) (generation : String) : String :=
  if stored.generation = generation then stored.previous else stored.generation

def ensureManifest (gatewayUID : String) (manifest : Manifest) : Api Manifest := do
  let name := manifestName gatewayUID
  match ← (configMaps.get name).attempt with
  | .error .notFound => do
    configMaps.create name (manifestConfigMap gatewayUID manifest)
    pure manifest
  | .error e => .fail e
  | .ok existing =>
    -- a corrupted manifest counts as an empty one
    let stored := (manifestCodec.unmarshal (GoMap.read existing.data manifestKey "")).getD ⟨"", "", "", []⟩
    let manifest := { manifest with previous := previousAfter stored manifest.generation }
    if equalStringMaps existing.data (manifestData manifest) &&
        GoMap.read existing.labels labelRole "" == roleManifest then pure manifest
    else do
      let labels := (GoMap.setAll existing.labels (baseLabels gatewayUID).toList).insert labelRole roleManifest
      configMaps.update name { existing with labels := labels, data := manifestData manifest }
      pure manifest

/-! ## Garbage collection -/

structure Listing where
  configMaps : List ConfigMap
  secrets : List Secret

def managed (labels : Labels) : Bool := GoMap.read labels labelManagedBy "" == managedByValue

def listing (s : Store) : Listing where
  configMaps := (s.configMaps.toList.map Prod.snd).filter fun cm => managed cm.labels
  secrets := (s.secrets.toList.map Prod.snd).filter fun secret => managed secret.labels

def keptGenerations (acks : AckState) (gatewayUID : String) (manifest : Manifest) :
    GoMap String Bool :=
  let keep := (∅ : GoMap String Bool).insert manifest.generation true
  let keep := if manifest.previous ≠ "" then keep.insert manifest.previous true else keep
  GoMap.setAll keep (acks.ackedGenerations gatewayUID).toList

def superseded (gatewayUID : String) (keep : GoMap String Bool) (labels : Labels) : Bool :=
  GoMap.read labels labelGatewayUID "" == gatewayUID &&
    GoMap.read labels labelGeneration "" != "" &&
    !GoMap.read keep (GoMap.read labels labelGeneration "") false

def gcGenerations (acks : AckState) (listed : Listing) (gatewayUID : String) (manifest : Manifest) :
    Api Unit := do
  if acks.allAcked gatewayUID manifest.generation then
    let keep := keptGenerations acks gatewayUID manifest
    configMaps.deleteWhere ConfigMap.name (fun cm => superseded gatewayUID keep cm.labels) listed.configMaps
    secrets.deleteWhere Secret.name (fun secret => superseded gatewayUID keep secret.labels) listed.secrets
  else pure ()

def orphaned (ownedUIDs : List String) (labels : Labels) : Bool :=
  GoMap.read labels labelGatewayUID "" != "" && !ownedUIDs.contains (GoMap.read labels labelGatewayUID "")

def gcOrphans (listed : Listing) (ownedUIDs : List String) : Api Unit := do
  configMaps.deleteWhere ConfigMap.name (fun cm => orphaned ownedUIDs cm.labels) listed.configMaps
  secrets.deleteWhere Secret.name (fun secret => orphaned ownedUIDs secret.labels) listed.secrets

/-! ## Publication -/

def publishGeneration (sum256 : String → String) (acks : AckState) (listed : Listing)
    (p : Publication) : Api String := do
  let uid := p.uid.value
  let generation := p.generation sum256
  ensureImmutableCM (gatewayConfigName uid generation) (objectLabels uid generation roleGatewayCfg)
    p.gatewayPayload
  .forEach p.visit fun attachment =>
    ensureImmutableCM (attachmentName uid attachment.1 generation)
      ((objectLabels uid generation roleAttachment).insert labelSourceUID attachment.1) attachment.2
  (if p.secretData.isEmpty then pure ()
    else ensureGeneratedSecret (tlsSecretName uid generation) uid generation p.secretData)
  let manifest ← ensureManifest uid (p.manifest sum256)
  gcGenerations acks listed uid manifest
  pure generation

end Krouter.Publish
