import Krouter.ControlPlane.ClientValidation
import Krouter.ControlPlane.Parameters
import Krouter.ControlPlane.Republication
import Krouter.Routing.Load

/-! Whether the data plane can load what is published. Both planes check the same material with code of
their own; they agree on all but the bundles of client certificate authorities. -/

namespace Krouter.ControlPlane
open Calls Compiled Kube Ports Publish Routing

variable {sets : List ListenerSetState} {a : PortAllocator} {clientCert : BackendClientCert}
  {outcomes : List RouteOutcome}

section
variable (p : Platform) (w : World) (gw : Gateway)

def lastKeyPair (listeners : List ListenerState) (name : String) : Option Certificate :=
  ((validOnes listeners).filterMap fun l =>
    if l.effectiveName = name then (ownMaterial p w gw l.spec l.set).bind OwnMaterial.cert
    else none).getLast?

variable {p w gw} {listeners : List ListenerState}

theorem getLast?_filterMap_map {α β γ : Type} (f : β → γ) {g : α → Option β} {g' : α → Option γ}
    {l : List α} (h : ∀ x ∈ l, g' x = (g x).map f) :
    (l.filterMap g').getLast? = (l.filterMap g).getLast?.map f := by
  rw [List.filterMap_congr h, ← List.getLast?_map, List.map_filterMap]

theorem lastMaterial_keyPair (name : String) :
    lastMaterial p w gw listeners name .certificate =
        (lastKeyPair p w gw listeners name).map Certificate.certPEM ∧
      lastMaterial p w gw listeners name .privateKey =
        (lastKeyPair p w gw listeners name).map Certificate.keyPEM := by
  constructor <;>
  · apply getLast?_filterMap_map
    intro l _
    split_ifs
    · cases ownMaterial p w gw l.spec l.set <;> rfl
    · rfl

theorem exists_lastKeyPair {l : ListenerState} (hl : l ∈ validOnes (validateListeners p w gw sets a).1)
    (ht : terminates l.spec = true) :
    ∃ cert, lastKeyPair p w gw (validateListeners p w gw sets a).1 l.effectiveName = some cert := by
  obtain ⟨m, hown, -⟩ := validateListeners_material hl
  obtain ⟨-, -, hsome, -⟩ := ownCertificate_some ht (ownMaterial_some hown).1
  obtain ⟨cert, hcert⟩ := Option.isSome_iff_exists.mp hsome
  exact exists_getLast?_filterMap hl (b := cert) (by rw [if_pos rfl, hown, Option.bind_some, hcert])

theorem lastKeyPair_pair {name : String} {cert : Certificate}
    (h : lastKeyPair p w gw listeners name = some cert) :
    ∃ u, p.x509KeyPair cert.certPEM cert.keyPEM = .ok u := by
  obtain ⟨l, -, hl⟩ := List.mem_filterMap.mp (List.mem_of_getLast? h)
  split_ifs at hl
  obtain ⟨m, hown, hcert⟩ := Option.bind_eq_some_iff.mp hl
  have ht : terminates l.spec = true := by
    by_contra ht
    rw [ownMaterial_of_not_terminates ht hown] at hcert
    cases hcert
  obtain ⟨certs, hcerts, -, hlast⟩ := ownCertificate_some ht (ownMaterial_some hown).1
  obtain ⟨ref, -, hok⟩ := Result.mem_of_mapM_eq_ok hcerts (List.mem_of_getLast? (hlast.trans hcert))
  exact (resolveCertificateRef_ok hok).1.pair

end

/-! ## Building from published material -/

/-- The data of the Secret as a manifest hands it over: no Secret is written without any. -/
def publishedSecret (data : SecretData) : Option SecretData := if data.isEmpty then none else some data

theorem publishedSecret_of_get {data : SecretData} {k v : String} (h : data[k]? = some v) :
    publishedSecret data = some data := by
  rw [publishedSecret, if_neg]
  intro hempty
  rw [Std.ExtTreeMap.isEmpty_iff.mp hempty, GoMap.get_empty] at h
  cases h

/-- Some block of the bundle is a certificate without PEM headers that parses. -/
def HasAuthority (p : Platform) (bundle : String) : Prop :=
  ∃ block ∈ p.pemBlocks bundle, block.type = "CERTIFICATE" ∧ block.headers = [] ∧
    p.parseCertificate block.bytes = true

theorem appendCertsFromPEM_iff {p : Platform} {bundle : String} :
    p.appendCertsFromPEM bundle = true ↔ HasAuthority p bundle := by
  simp [Platform.appendCertsFromPEM, HasAuthority, and_assoc]

/-- Under every name of a listener that validates client certificates, the last bundle published has an
authority. -/
def UsableBundles (p : Platform) (w : World) (gw : Gateway) (listeners : List ListenerState) : Prop :=
  ∀ l ∈ validOnes listeners, ∀ bundle, lastBundle p w gw listeners l.effectiveName = some bundle →
    HasAuthority p bundle

variable {p : Platform}

section
variable {w : World} {gw : Gateway} {infra : InfraParams} {data : SecretData}

theorem clientCertData_pair {cert : Certificate} (hc : clientCert.cert = some cert)
    (hr : clientCert.resolved = true) :
    (clientCertData clientCert)[backendClientCertKey]? = some cert.certPEM ∧
      (clientCertData clientCert)[backendClientKeyKey]? = some cert.keyPEM := by
  unfold clientCertData
  rw [hc]
  dsimp only
  rw [if_pos hr, GoMap.get_insert_of_ne _ _ (by decide)]
  exact ⟨GoMap.get_insert_self .., GoMap.get_insert_self ..⟩

theorem exists_buildListener_iff {secret : Option SecretData} {lst : Listener} :
    (∃ entry, buildListener p secret lst = .ok entry) ↔
      (∃ cert, listenerCertificate p secret lst = .ok cert) ∧
        ∃ bundle, listenerClientCAs p secret lst = .ok bundle := by
  constructor
  · rintro ⟨entry, h⟩
    obtain ⟨cert, hcert, h⟩ := Result.bind_eq_ok.mp h
    obtain ⟨bundle, hbundle, -⟩ := Result.bind_eq_ok.mp h
    exact ⟨⟨cert, hcert⟩, bundle, hbundle⟩
  · rintro ⟨⟨cert, hcert⟩, bundle, hbundle⟩
    exact ⟨_, Result.bind_eq_ok.mpr ⟨cert, hcert, Result.bind_eq_ok.mpr ⟨bundle, hbundle, rfl⟩⟩⟩

variable (hdata : data = (compileAttachments clientCert (validateListeners p w gw sets a).1 outcomes).secretData)
include hdata

theorem keyPair_published {name : String} {cert : Certificate}
    (h : lastKeyPair p w gw (validateListeners p w gw sets a).1 name = some cert) :
    data[name ++ ".tls.crt"]? = some cert.certPEM ∧ data[name ++ ".tls.key"]? = some cert.keyPEM := by
  rw [hdata]
  constructor
  · refine (published_material clientCert outcomes name .certificate).trans ?_
    rw [(lastMaterial_keyPair _).1, h]
    rfl
  · refine (published_material clientCert outcomes name .privateKey).trans ?_
    rw [(lastMaterial_keyPair _).2, h]
    rfl

theorem listenerCertificate_published {l : ListenerState} (hl : l ∈ validOnes (validateListeners p w gw sets a).1) :
    ∃ cert, listenerCertificate p (publishedSecret data) (compileListener infra l) = .ok cert := by
  unfold listenerCertificate
  split_ifs with htls
  · obtain ⟨cert, hcert⟩ := exists_lastKeyPair hl htls
    obtain ⟨hcrt, hkey⟩ := keyPair_published hdata hcert
    obtain ⟨u, hpair⟩ := lastKeyPair_pair hcert
    rw [publishedSecret_of_get hcrt]
    dsimp only [compileListener]
    rw [GoMap.read_of_get hcrt, GoMap.read_of_get hkey, hpair]
    exact ⟨some cert, rfl⟩
  · exact ⟨none, rfl⟩

variable (infra) in
theorem listenerClientCAs_published_iff {l : ListenerState} (hl : l ∈ validOnes (validateListeners p w gw sets a).1) :
    (∃ bundle, listenerClientCAs p (publishedSecret data) (compileListener infra l) = .ok bundle) ↔
      ((ownBundle p w gw l.spec).isSome = true → ∀ bundle,
        lastBundle p w gw (validateListeners p w gw sets a).1 l.effectiveName = some bundle →
          HasAuthority p bundle) := by
  obtain ⟨m, hown, hm⟩ := validateListeners_material hl
  have hbundle := ownMaterial_ownBundle hown
  have hmode : (compileListener infra l).clientCAMode = m.mode := hm.mode
  unfold listenerClientCAs
  rw [hmode, hbundle]
  cases hca : m.clientCA with
  | none => simp [OwnMaterial.mode, hca]
  | some ca =>
    have hne : m.mode ≠ "" := by
      rw [OwnMaterial.mode, hca]
      exact ownBundle_mode_ne (hbundle.trans hca)
    obtain ⟨last, hlast⟩ := exists_lastBundle hl (hbundle.trans hca)
    have hget : data[l.effectiveName ++ ".client-ca.crt"]? = some last := by
      rw [hdata, published_bundle, hlast]
      rfl
    rw [if_pos hne, publishedSecret_of_get hget, hlast]
    dsimp only [compileListener]
    rw [GoMap.read_of_get hget]
    -- what is left is whether the bundle is refused
    have hiff : p.appendCertsFromPEM last = true ↔ HasAuthority p last := appendCertsFromPEM_iff
    split_ifs with happend
    · exact iff_of_true ⟨_, rfl⟩ fun _ bundle hb => Option.some.inj hb ▸ hiff.mp happend
    · exact iff_of_false (by rintro ⟨_, h⟩; cases h) fun h => happend (hiff.mpr (h rfl last rfl))

variable (hcert : clientCert = resolveBackendClientCert p w gw)
include hcert

theorem backendKeyPair_published {own : Certificate} (hown : clientCert.cert = some own)
    (hr : clientCert.resolved = true) :
    ∃ cert : Certificate, data[backendClientCertKey]? = some cert.certPEM ∧
      data[backendClientKeyKey]? = some cert.keyPEM ∧
      ∃ u, p.x509KeyPair cert.certPEM cert.keyPEM = .ok u := by
  cases hlast : lastKeyPair p w gw (validateListeners p w gw sets a).1 "_backend-client" with
  | some cert =>
    obtain ⟨hcrt, hkey⟩ := keyPair_published hdata hlast
    exact ⟨cert, hcrt, hkey, lastKeyPair_pair hlast⟩
  | none =>
    obtain ⟨hcrt, hkey⟩ := clientCertData_pair hown hr
    rw [hcert] at hown
    obtain ⟨ref, -, hpair⟩ := resolveBackendClientCert_cert hown
    refine ⟨own, ?_, ?_, hpair.pair⟩
    · rw [hdata]
      refine (published_material clientCert outcomes "_backend-client" .certificate).trans ?_
      rw [(lastMaterial_keyPair _).1, hlast]
      exact hcrt
    · rw [hdata]
      refine (published_material clientCert outcomes "_backend-client" .privateKey).trans ?_
      rw [(lastMaterial_keyPair _).2, hlast]
      exact hkey

variable (infra) in
theorem backendClientCert_published : ∃ client, backendClientCert p
    (compileGatewayConfig gw infra (validateListeners p w gw sets a).1 clientCert)
      (publishedSecret data) = .ok client := by
  unfold backendClientCert
  by_cases hclient : (compileGatewayConfig gw infra (validateListeners p w gw sets a).1
      clientCert).backendClientCert = true
  · obtain ⟨hr, hsome⟩ := Bool.and_eq_true_iff.mp hclient
    obtain ⟨own, hown⟩ := Option.isSome_iff_exists.mp hsome
    obtain ⟨cert, hcrt, hkey, u, hpair⟩ := backendKeyPair_published hdata hcert hown hr
    rw [publishedSecret_of_get hcrt]
    dsimp only
    rw [if_pos hclient, GoMap.read_of_get hcrt, GoMap.read_of_get hkey, hpair]
    exact ⟨_, rfl⟩
  · split
    · exact ⟨_, rfl⟩
    · rw [if_neg hclient]
      exact ⟨_, rfl⟩

theorem exists_buildGatewayTable_iff (htrust : ∃ trust, newTrust p infra.trustedProxies = .ok trust) (generation : String)
    (routes : List RouteConfig) (previous : Option GatewayTable) :
    (∃ table, buildGatewayTable p generation
      (compileGatewayConfig gw infra (validateListeners p w gw sets a).1 clientCert) routes
      (publishedSecret data) previous = .ok table) ↔
      UsableBundles p w gw (validateListeners p w gw sets a).1 := by
  obtain ⟨trust, htrust⟩ := htrust
  obtain ⟨client, hclient⟩ := backendClientCert_published infra hdata hcert
  constructor
  · rintro ⟨table, h⟩ l hl bundle hlast
    obtain ⟨_, _, h⟩ := Result.bind_eq_ok.mp h
    obtain ⟨entries, hentries, -⟩ := Result.bind_eq_ok.mp h
    -- the bundle is that of a listener of the same name, and that listener was built
    obtain ⟨o, ho, hob⟩ := List.mem_filterMap.mp (List.mem_of_getLast? hlast)
    split_ifs at hob with hname
    have hmem : compileListener infra o ∈
        (compileGatewayConfig gw infra (validateListeners p w gw sets a).1 clientCert).listeners :=
      List.mem_map_of_mem ho
    obtain ⟨e, he⟩ := Result.exists_of_mapM_eq_ok hentries hmem
    obtain ⟨entry, hentry, -⟩ := Result.bind_eq_ok.mp he
    have hcas := (exists_buildListener_iff.mp ⟨entry, hentry⟩).2
    obtain ⟨ca, hca, -⟩ := Option.map_eq_some_iff.mp hob
    exact (listenerClientCAs_published_iff infra hdata ho).mp hcas (Option.isSome_iff_exists.mpr ⟨ca, hca⟩)
      bundle (hname ▸ hlast)
  · intro husable
    obtain ⟨entries, hentries⟩ : ∃ entries,
        (compileGatewayConfig gw infra (validateListeners p w gw sets a).1 clientCert).listeners.mapM
          (fun lst => do
            let entry ← buildListener p (publishedSecret data) lst
            return ((lst.internalPort, entry) : Entry)) = .ok entries := by
      refine Result.exists_mapM_eq_ok fun lst hlst => ?_
      obtain ⟨l, hl, rfl⟩ := List.mem_map.mp hlst
      have hcas := (listenerClientCAs_published_iff infra hdata hl).mpr fun _ => husable l hl
      obtain ⟨entry, hentry⟩ := exists_buildListener_iff.mpr ⟨listenerCertificate_published hdata hl, hcas⟩
      exact ⟨_, Result.bind_eq_ok.mpr ⟨entry, hentry, rfl⟩⟩
    have htrust' : (newTrust p infra.trustedProxies).mapError (fun err => "invalid trusted proxies: " ++ err) =
        .ok trust := by
      rw [htrust]
      rfl
    exact ⟨_, Result.bind_eq_ok.mpr ⟨trust, htrust', Result.bind_eq_ok.mpr ⟨entries, hentries,
      Result.bind_eq_ok.mpr ⟨client, hclient, rfl⟩⟩⟩⟩

end

/-! ## Loading stored objects -/

theorem unmarshal_marshal {α : Type} (p : Platform) (c : Json.Codec α) (type : String) (x : α) :
    p.unmarshal c type (c.marshal x) = .ok x := by
  rw [Platform.unmarshal, c.unmarshal_marshal]

structure Stored (sum256 : String → String) (pub : Publication) (s : Store) : Prop where
  configMaps : ∀ cm ∈ pub.configMaps sum256, s.configMaps[cm.name]? = some cm
  secret : pub.secretData.isEmpty = false →
    s.secrets[(pub.generatedSecret sum256).name]? = some (pub.generatedSecret sum256)

section
variable {pub : Publication} {s : Store} {m : Manifest}

theorem verify_configMap (hs : Stored p.sum256 pub s) (hm : m.gatewayUID = pub.uid.value) {cm : ConfigMap}
    (hcm : cm ∈ pub.configMaps p.sum256) (v : Verified) {result : Except String Verified}
    (hresult : (if cm.labels.read labelRole "" = roleGatewayCfg then
        match p.unmarshal gatewayConfigCodec "GatewayConfig" (cm.data.read dataKey "") with
        | .error err => .error ("invalid gateway config " ++ cm.name ++ ": " ++ err)
        | .ok config => .ok { v with gatewayConfig := some config }
      else if cm.labels.read labelRole "" = roleAttachment then
        match p.unmarshal routeConfigCodec "RouteConfig" (cm.data.read dataKey "") with
        | .error err => .error ("invalid attachment " ++ cm.name ++ ": " ++ err)
        | .ok route => .ok { v with routes := v.routes ++ [route] }
      else .error ("object " ++ cm.name ++ " has unexpected role")) = result) :
    verifyObject p m s.configMaps s.secrets v (Publication.configMapRef p.sum256 cm) = result := by
  have huid : cm.labels.read labelGatewayUID "" = m.gatewayUID := by
    rw [hm]
    exact GoMap.read_of_get (Publication.configMaps_labels hcm).1 ""
  have hkind : (Publication.configMapRef p.sum256 cm).kind = objectKindConfigMap := rfl
  rw [verifyObject, if_pos hkind]
  dsimp only [Publication.configMapRef]
  rw [hs.configMaps cm hcm, verifyConfigMap]
  rw [if_neg (not_not.mpr huid), if_neg (not_not.mpr rfl)]
  exact hresult

theorem verify_gatewayConfig (hs : Stored p.sum256 pub s) (hm : m.gatewayUID = pub.uid.value)
    {config : GatewayConfig} (hconfig : pub.gatewayPayload = gatewayConfigCodec.marshal config) (v : Verified) :
    verifyObject p m s.configMaps s.secrets v
        (Publication.configMapRef p.sum256 (pub.gatewayConfigMap p.sum256)) =
      .ok { v with gatewayConfig := some config } := by
  have hrole : (pub.gatewayConfigMap p.sum256).labels[labelRole]? = some roleGatewayCfg := objectLabels_role ..
  apply verify_configMap hs hm (Publication.mem_configMaps.mpr (.inl rfl))
  rw [if_pos (GoMap.read_of_get hrole ""), Publication.gatewayConfigMap, configMapOf_data, hconfig,
    unmarshal_marshal]

theorem verify_attachment (hs : Stored p.sum256 pub s) (hm : m.gatewayUID = pub.uid.value)
    {route : String} {config : RouteConfig}
    (hatt : pub.attachments[route]? = some (routeConfigCodec.marshal config)) (v : Verified) :
    verifyObject p m s.configMaps s.secrets v (Publication.configMapRef p.sum256
        (pub.attachmentConfigMap p.sum256 (route, routeConfigCodec.marshal config))) =
      .ok { v with routes := v.routes ++ [config] } := by
  have hrole : (pub.attachmentConfigMap p.sum256 (route, routeConfigCodec.marshal config)).labels[labelRole]? =
      some roleAttachment := by
    rw [Publication.attachmentConfigMap, configMapOf, GoMap.get_insert_of_ne _ _ (by decide)]
    exact objectLabels_role ..
  apply verify_configMap hs hm (Publication.mem_configMaps.mpr (.inr ⟨route, _, hatt, rfl⟩))
  rw [if_neg (by rw [GoMap.read_of_get hrole]; decide), if_pos (GoMap.read_of_get hrole ""),
    Publication.attachmentConfigMap, configMapOf_data, unmarshal_marshal]

theorem verify_attachments (hs : Stored p.sum256 pub s) (hm : m.gatewayUID = pub.uid.value)
    (hatt : ∀ route payload : String, pub.attachments[route]? = some payload →
      ∃ config, payload = routeConfigCodec.marshal config)
    (visit : List (String × String)) (hvisit : ∀ e ∈ visit, pub.attachments[e.1]? = some e.2) (v : Verified) :
    ∃ routes, (visit.map fun e => Publication.configMapRef p.sum256 (pub.attachmentConfigMap p.sum256 e)).foldlM
      (verifyObject p m s.configMaps s.secrets) v = .ok { v with routes := v.routes ++ routes } := by
  induction visit generalizing v with
  | nil => exact ⟨[], by rw [List.append_nil]; rfl⟩
  | cons e visit ih =>
    obtain ⟨route, payload⟩ := e
    have hget := hvisit _ (.head _)
    obtain ⟨config, rfl⟩ := hatt route payload hget
    obtain ⟨routes, hroutes⟩ := ih (fun e he => hvisit e (.tail _ he))
      { v with routes := v.routes ++ [config] }
    refine ⟨config :: routes, ?_⟩
    rw [List.map_cons, List.foldlM_cons, verify_attachment hs hm hget]
    refine hroutes.trans ?_
    simp

theorem verify_secret (hs : Stored p.sum256 pub s) (hm : m.gatewayUID = pub.uid.value)
    (hdata : pub.secretData.isEmpty = false) (v : Verified) :
    verifyObject p m s.configMaps s.secrets v
        ⟨objectKindSecret, tlsSecretName pub.uid.value (pub.generation p.sum256), pub.secretChecksum p.sum256⟩ =
      .ok { v with secret := some pub.secretData } := by
  have huid : (pub.generatedSecret p.sum256).labels.read labelGatewayUID "" = m.gatewayUID := by
    rw [hm]
    exact GoMap.read_of_get (objectLabels_gatewayUID ..) ""
  have hsum : checksumSecret p.sum256 (pub.generatedSecret p.sum256).data = pub.secretChecksum p.sum256 := by
    rw [Publication.secretChecksum, hdata]
    rfl
  have hget : s.secrets[tlsSecretName pub.uid.value (pub.generation p.sum256)]? =
      some (pub.generatedSecret p.sum256) := hs.secret hdata
  rw [verifyObject, if_neg (by decide : objectKindSecret ≠ objectKindConfigMap), if_pos rfl]
  rw [hget, verifySecret]
  rw [if_neg (not_not.mpr huid), if_neg (not_not.mpr hsum)]
  rfl

theorem loadGeneration_stored (hs : Stored p.sum256 pub s) {config : GatewayConfig}
    (hconfig : pub.gatewayPayload = gatewayConfigCodec.marshal config)
    (hatt : ∀ route payload : String, pub.attachments[route]? = some payload →
      ∃ config, payload = routeConfigCodec.marshal config)
    (stored : Option Manifest) (previous : Option GatewayTable) :
    ∃ routes, loadGeneration p (pub.manifestAfter p.sum256 stored) s.configMaps s.secrets previous =
      buildGatewayTable p (pub.generation p.sum256) config routes (publishedSecret pub.secretData) previous := by
  generalize hm : pub.manifestAfter p.sum256 stored = m
  have huid : m.gatewayUID = pub.uid.value := by rw [← hm]; rfl
  have hgen : m.generation = pub.generation p.sum256 := by rw [← hm]; rfl
  have hobjects : m.objects = (pub.manifest p.sum256).objects := by rw [← hm]; rfl
  obtain ⟨routes, hroutes⟩ := verify_attachments hs huid hatt pub.visit
    (fun e he => Publication.mem_visit.mp he) ⟨some config, [], none⟩
  refine ⟨routes, ?_⟩
  have hverified : m.objects.foldlM (verifyObject p m s.configMaps s.secrets) ⟨none, [], none⟩ =
      .ok ⟨some config, routes, publishedSecret pub.secretData⟩ := by
    rw [hobjects, Publication.manifest]
    dsimp only [Publication.configMaps]
    rw [List.map_cons, List.cons_append, List.foldlM_cons]
    refine Result.bind_eq_ok.mpr ⟨_, verify_gatewayConfig hs huid hconfig _, ?_⟩
    rw [List.map_map, List.foldlM_append]
    refine Result.bind_eq_ok.mpr ⟨_, hroutes, ?_⟩
    rw [publishedSecret]
    split_ifs with hdata
    · rfl
    · rw [List.foldlM_cons]
      exact Result.bind_eq_ok.mpr ⟨_, verify_secret hs huid (by simpa using hdata) _, rfl⟩
  rw [loadGeneration, hverified, hgen]

end

/-! ## Publication and loading -/

/-- No two publications write different Secrets with one checksum. -/
def SecretsDistinct (sum256 : String → String) (S : Publication → Prop) : Prop :=
  ∀ p q, S p → S q → p.secretChecksum sum256 = q.secretChecksum sum256 → p.secretData = q.secretData

theorem stored_of_ready {d : Digest} {S : Publication → Prop} (hS : CollisionFree d.sum256 S)
    (hsecrets : SecretsDistinct d.sum256 S) {pub : Publication} (hpub : S pub) {m : Option Manifest} {s : Store}
    (h : Ready d.sum256 S pub m s) : Stored d.sum256 pub s where
  configMaps := h.holds.configMaps
  secret hdata := by
    obtain ⟨secret, hget, -, -⟩ := h.holds.secret hdata
    obtain ⟨hname, q, hq, -, rfl⟩ := h.legit.secrets _ secret hget
    obtain ⟨hu, hg, hsum⟩ := hS.secret hq hpub hname
    have heq : q.generatedSecret d.sum256 = pub.generatedSecret d.sum256 := by
      rw [Publication.generatedSecret, Publication.generatedSecret, hu, hg, hsecrets q pub hq hpub hsum]
    rw [← heq]
    exact hname ▸ hget

/-- What one turn of a Gateway compiles from its validated listeners, its client certificate
and its accepted parameters. -/
structure Turn (p : Platform) where
  order : MapOrder
  uid : UID
  w : World
  gw : Gateway
  sets : List ListenerSetState
  allocator : PortAllocator
  outcomes : List RouteOutcome
  decode : String → Except String InfraSource
  parameters : String
  infra : ParsedInfra
  accepted : parseInfra p decode parameters = .ok infra

namespace Turn
variable (t : Turn p)

def listeners : List ListenerState := (validateListeners p t.w t.gw t.sets t.allocator).1

def publication : Publication :=
  publicationOf t.order t.uid t.gw t.infra.toInfraParams t.listeners (resolveBackendClientCert p t.w t.gw)
    t.outcomes

theorem load_stored_iff {s : Store} (hs : Stored p.sum256 t.publication s) (stored : Option Manifest)
    (previous : Option GatewayTable) :
    (∃ table, loadGeneration p (t.publication.manifestAfter p.sum256 stored) s.configMaps s.secrets previous =
      .ok table) ↔ UsableBundles p t.w t.gw t.listeners := by
  have hatt : ∀ route payload : String, t.publication.attachments[route]? = some payload →
      ∃ config, payload = routeConfigCodec.marshal config := by
    intro route payload h
    rw [publication, publicationOf, GoMap.get_map] at h
    obtain ⟨config, -, rfl⟩ := Option.map_eq_some_iff.mp h
    exact ⟨config, rfl⟩
  obtain ⟨routes, hload⟩ := loadGeneration_stored hs rfl hatt stored previous
  rw [hload]
  exact exists_buildGatewayTable_iff rfl rfl (newTrust_of_parseInfra t.accepted) _ routes previous

end Turn

theorem stored_of_publishGeneration {d : Digest} {S : Publication → Prop} (hS : CollisionFree d.sum256 S)
    (hsecrets : SecretsDistinct d.sum256 S) {pub : Publication} (hpub : S pub) {acks : AckState} {listed : Listing}
    (hlisted : GeneratedListing d.sum256 S listed) {fails : Call → Bool} {s : Store} (hs : Legit d.sum256 S s)
    {generation : String} (hok : (publishGeneration d.sum256 acks listed pub fails s).result = .ok generation) :
    generation = pub.generation d.sum256 ∧
      storedManifest (publishGeneration d.sum256 acks listed pub fails s).store pub.uid.value =
        some (pub.manifestAfter d.sum256 (storedManifest s pub.uid.value)) ∧
      Stored d.sum256 pub (publishGeneration d.sum256 acks listed pub fails s).store := by
  have hspec := (@publishGeneration_spec d S fails acks pub _ hS hpub listed hlisted s ⟨hs, rfl⟩).2
  rw [hok] at hspec
  exact ⟨hspec.1, hspec.2.stored, stored_of_ready hS hsecrets hpub hspec.2⟩

/-- A committed generation loads exactly if, under the name of every listener that validates client
certificates, the bundle published last has a certificate block without PEM headers. -/
theorem published_generation_loads_iff (p : Platform) (hlength : ∀ text, (p.sum256 text).toList.length = 64)
    (t : Turn p) (S : Publication → Prop) (hS : CollisionFree p.sum256 S) (hsecrets : SecretsDistinct p.sum256 S)
    (hpub : S t.publication) (acks : AckState) (listed : Listing) (hlisted : GeneratedListing p.sum256 S listed)
    (fails : Call → Bool) (s : Store) (hs : Legit p.sum256 S s) (generation : String)
    (hok : (publishGeneration p.sum256 acks listed t.publication fails s).result = .ok generation)
    (previous : Option GatewayTable) :
    ∃ m, storedManifest (publishGeneration p.sum256 acks listed t.publication fails s).store t.uid.value = some m ∧
      m.generation = generation ∧
      ((∃ table, loadGeneration p m
          (publishGeneration p.sum256 acks listed t.publication fails s).store.configMaps
          (publishGeneration p.sum256 acks listed t.publication fails s).store.secrets previous = .ok table) ↔
        UsableBundles p t.w t.gw t.listeners) := by
  obtain ⟨rfl, hm, hstored⟩ := stored_of_publishGeneration (d := ⟨p.sum256, hlength⟩) hS hsecrets hpub hlisted hs hok
  exact ⟨_, hm, rfl, t.load_stored_iff hstored _ previous⟩

/-! A Gateway that validates the clients of its only listener, for a bundle of one block
with the given PEM headers. -/

def headerPlatform (headers : List (String × String)) : Platform :=
  { Platform.trusting with
    sum256 := Digest.charSum.sum256
    pemBlocks := fun bundle => [⟨"CERTIFICATE", headers, bundle⟩] }

def headerDigest (headers : List (String × String)) : Digest := ⟨(headerPlatform headers).sum256, Digest.charSum.length⟩

def headerTurn (headers : List (String × String)) : Turn (headerPlatform headers) where
  order := .sorted
  uid := .sample
  w := World.small
  gw := Gateway.small [.https "web" "" 443] (some ⟨validateWith "ca", []⟩)
  sets := []
  allocator := newPortAllocator 10000 10010 []
  outcomes := []
  decode := fun _ => .ok ⟨1, none, none⟩
  parameters := "version = 1\n"
  infra := ⟨⟨[], []⟩, ⟨"NodePort", "Local", none, ∅, ∅⟩⟩
  accepted := rfl

def headerRun (headers : List (String × String)) : Run Store ApiError String :=
  publishGeneration (headerPlatform headers).sum256 ⟨∅⟩ (listing Store.empty) (headerTurn headers).publication
    (fun _ => false) Store.empty

def Alone (headers : List (String × String)) (pub : Publication) : Prop := pub = (headerTurn headers).publication

section
variable (headers : List (String × String))

theorem alone_collisionFree : CollisionFree (headerPlatform headers).sum256 (Alone headers) := by
  rintro _ _ rfl rfl _ _
  exact ⟨rfl, rfl, rfl⟩

theorem alone_secretsDistinct : SecretsDistinct (headerPlatform headers).sum256 (Alone headers) := by
  rintro _ _ rfl rfl _
  rfl

theorem alone_legit : Legit (headerPlatform headers).sum256 (Alone headers) Store.empty :=
  Legit.empty (d := headerDigest headers)

theorem alone_listing : GeneratedListing (headerPlatform headers).sum256 (Alone headers) (listing Store.empty) :=
  Legit.listing (d := headerDigest headers) (alone_legit headers)

theorem headerRun_ok : (headerRun headers).result = .ok ((headerTurn headers).publication.generation
    (headerPlatform headers).sum256) :=
  Idempotence.publishGeneration_returns (fun _ => rfl) Store.empty

theorem headerRun_stored :
    storedManifest (headerRun headers).store (headerTurn headers).uid.value =
        some ((headerTurn headers).publication.manifestAfter (headerPlatform headers).sum256
          (storedManifest Store.empty (headerTurn headers).uid.value)) ∧
      Stored (headerPlatform headers).sum256 (headerTurn headers).publication (headerRun headers).store :=
  (stored_of_publishGeneration (d := headerDigest headers) (alone_collisionFree headers)
    (alone_secretsDistinct headers) rfl (alone_listing headers) (alone_legit headers) (headerRun_ok headers)).2

end

def commented : List (String × String) := [("Comment", "root")]

theorem plain_bundle_loads : ∃ m,
    storedManifest (headerRun []).store (headerTurn []).uid.value = some m ∧
      ∃ table, loadGeneration (headerPlatform []) m (headerRun []).store.configMaps (headerRun []).store.secrets none =
        .ok table := by
  have husable : UsableBundles (headerPlatform []) (headerTurn []).w (headerTurn []).gw (headerTurn []).listeners :=
    fun _ _ _ _ => ⟨_, List.mem_singleton_self _, rfl, rfl, rfl⟩
  obtain ⟨m, hm, -, hiff⟩ := published_generation_loads_iff (headerPlatform []) Digest.charSum.length
    (headerTurn []) (Alone []) (alone_collisionFree []) (alone_secretsDistinct []) rfl ⟨∅⟩ (listing Store.empty)
    (alone_listing []) (fun _ => false) Store.empty (alone_legit []) _ (headerRun_ok []) none
  unfold headerRun
  exact ⟨m, hm, hiff.mpr husable⟩

theorem header_bundle_published_then_refused :
    validCAPem (headerPlatform commented) "shop/ca\n" = true ∧
      (headerTurn commented).listeners.map ListenerState.valid = [true] ∧
      (headerRun commented).result = .ok ((headerTurn commented).publication.generation
        (headerPlatform commented).sum256) ∧
      ∃ m, storedManifest (headerRun commented).store (headerTurn commented).uid.value = some m ∧
        ∀ previous table, loadGeneration (headerPlatform commented) m (headerRun commented).store.configMaps
          (headerRun commented).store.secrets previous ≠ .ok table := by
  have hbundles : (validOnes (headerTurn commented).listeners).map (fun l =>
      lastBundle (headerPlatform commented) World.small (headerTurn commented).gw
        (headerTurn commented).listeners l.effectiveName) = [some "shop/ca\n"] := by
    decide
  obtain ⟨l, hl, hlast⟩ := List.mem_map.mp (hbundles ▸ List.mem_singleton_self (some "shop/ca\n"))
  obtain ⟨hm, hstored⟩ := headerRun_stored commented
  refine ⟨by decide, by decide, headerRun_ok commented, _, hm, fun previous table hload => ?_⟩
  obtain ⟨block, hblock, -, hheaders, -⟩ :=
    ((headerTurn commented).load_stored_iff hstored _ previous).mp ⟨table, hload⟩ l hl _ hlast
  rw [List.mem_singleton.mp hblock] at hheaders
  cases hheaders

end Krouter.ControlPlane
