import Krouter.ControlPlane.SecretKeys

/-! Where the TLS material of the generated Secret comes from: every entry was read from an
object that its owner references and may reference. -/

namespace Krouter.ControlPlane
open Compiled Ports Routing

/-! ## Authorized references -/

def Authorized (w : World) (owner : RefOwner) (kind ns name : String) : Prop :=
  ns = owner.ns ∨ Granted w.grants ⟨groupName, owner.kind, owner.ns⟩ kind ns name

theorem permitted_iff {w : World} {owner : RefOwner} {kind ns name : String} :
    permitted w owner kind ns name = true ↔ Authorized w owner kind ns name := by
  rw [permitted, Bool.or_eq_true, decide_eq_true_eq, referenceGrantAllows_iff]
  rfl

structure KeyPairOf (p : Platform) (w : World) (owner : RefOwner) (ref : SecretRef)
    (cert : Certificate) : Prop where
  secret : ref.isSecret = true
  authorized : Authorized w owner "Secret" (ref.ns.getD owner.ns) ref.name
  read : ∃ data, w.secret (ref.ns.getD owner.ns) ref.name = some data ∧
    cert = ⟨data.read "tls.crt" "", data.read "tls.key" ""⟩
  pair : ∃ u, p.x509KeyPair cert.certPEM cert.keyPEM = .ok u

structure BundleOf (w : World) (gw : Gateway) (ref : ObjectReference) (bundle : String) : Prop where
  configMap : ref.kind = "ConfigMap" ∧ ref.group = ""
  authorized : Authorized w ⟨"Gateway", gw.ns⟩ "ConfigMap" (ref.ns.getD gw.ns) ref.name
  read : ∃ data, w.configMap (ref.ns.getD gw.ns) ref.name = some data ∧ bundle = data.read "ca.crt" ""

variable {p : Platform} {w : World} {gw : Gateway}

theorem resolveCertificateRef_ok {owner : RefOwner} {ref : SecretRef} {cert : Certificate}
    (h : resolveCertificateRef p w owner ref = .ok cert) :
    KeyPairOf p w owner ref cert ∧ cert.certPEM ≠ "" ∧ cert.keyPEM ≠ "" := by
  unfold resolveCertificateRef at h
  dsimp only at h
  split_ifs at h with hsecret hpermitted
  split at h
  · cases h
  · next data hdata =>
    split_ifs at h with hempty
    split at h
    · cases h
    · next u hpair =>
      cases h
      exact ⟨⟨hsecret, permitted_iff.mp hpermitted, ⟨data, hdata, rfl⟩, u, hpair⟩, not_or.mp hempty⟩

theorem resolveCARef_ok {ref : ObjectReference} {bundle : String}
    (h : resolveCARef w gw ref = .ok bundle) : BundleOf w gw ref bundle := by
  unfold resolveCARef at h
  dsimp only at h
  split_ifs at h with hkind hpermitted
  split at h
  · cases h
  · next data hdata =>
    cases h
    obtain ⟨hk, hg⟩ := not_or.mp hkind
    exact ⟨⟨not_not.mp hk, not_not.mp hg⟩, permitted_iff.mp hpermitted, data, hdata, rfl⟩

theorem resolveCABundle_ok {refs : List ObjectReference} {bundle : String}
    (h : resolveCABundle p w gw refs = .ok bundle) :
    validCAPem p bundle = true ∧ ∃ bundles, List.Forall₂ (BundleOf w gw) refs bundles ∧
      bundle = String.join (bundles.map (· ++ "\n")) := by
  obtain ⟨bundles, hbundles, h⟩ := Result.bind_eq_ok.mp h
  dsimp only at h
  split_ifs at h with hvalid
  cases h
  exact ⟨hvalid, bundles, (Result.forall₂_of_mapM_eq_ok hbundles).imp fun _ _ => resolveCARef_ok, rfl⟩

theorem resolveBackendClientCert_cert {cert : Certificate}
    (h : (resolveBackendClientCert p w gw).cert = some cert) :
    ∃ ref, gw.backendClientCertificateRef = some ref ∧ KeyPairOf p w ⟨"Gateway", gw.ns⟩ ref cert := by
  unfold resolveBackendClientCert at h
  split at h
  · cases h
  · next ref href =>
    dsimp only at h
    split_ifs at h with hsecret hpermitted
    · split at h
      · cases h
      · next data hdata =>
        split at h
        · cases h
        · next u hpair =>
          cases h
          exact ⟨ref, href, hsecret, permitted_iff.mp hpermitted, ⟨data, hdata, rfl⟩, u, hpair⟩
    · cases h
    · cases h

/-! ## Intact listeners -/

def ListenerState.certificateRefs (l : ListenerState) : List SecretRef :=
  (l.spec.tls.map TLSConfig.certificateRefs).getD []

structure Intact (p : Platform) (w : World) (gw : Gateway) (l : ListenerState) : Prop where
  keyPairs : ∀ ref ∈ l.certificateRefs, ∃ cert,
    KeyPairOf p w (listenerOwner gw l.set) ref cert ∧ cert.certPEM ≠ "" ∧ cert.keyPEM ≠ ""
  clientCA : l.spec.protocol = protocolHTTPS →
    ∀ validation, frontendValidationFor gw l.spec.port = some validation →
      ∃ bundles, List.Forall₂ (BundleOf w gw) validation.caCertificateRefs bundles ∧
        validCAPem p (String.join (bundles.map (· ++ "\n"))) = true

inductive ListenerSource (p : Platform) (w : World) (gw : Gateway) (l : ListenerState) :
    Material → String → Prop where
  | certificate {ref : SecretRef} {cert : Certificate} : ref ∈ l.certificateRefs →
      KeyPairOf p w (listenerOwner gw l.set) ref cert → ListenerSource p w gw l .certificate cert.certPEM
  | privateKey {ref : SecretRef} {cert : Certificate} : ref ∈ l.certificateRefs →
      KeyPairOf p w (listenerOwner gw l.set) ref cert → ListenerSource p w gw l .privateKey cert.keyPEM
  | clientCA {validation : FrontendTLSValidation} {bundles : List String} :
      frontendValidationFor gw l.spec.port = some validation →
      List.Forall₂ (BundleOf w gw) validation.caCertificateRefs bundles →
      ListenerSource p w gw l .clientCA (String.join (bundles.map (· ++ "\n")))

section
variable {l : ListenerState} {m : OwnMaterial}

theorem ownCertificate_some {cert : Option Certificate} (ht : terminates l.spec = true)
    (h : ownCertificate p w gw l.spec l.set = some cert) :
    ∃ certs, l.certificateRefs.mapM (resolveCertificateRef p w (listenerOwner gw l.set)) = .ok certs ∧
      cert.isSome = true ∧ certs.getLast? = cert := by
  rw [ownCertificate, if_pos ht] at h
  obtain ⟨certs, hcerts, h⟩ := Option.bind_eq_some_iff.mp h
  obtain ⟨last, hlast, rfl⟩ := Option.map_eq_some_iff.mp h
  refine ⟨certs, ?_, rfl, hlast⟩
  unfold ListenerState.certificateRefs
  cases hm : ((l.spec.tls.map TLSConfig.certificateRefs).getD []).mapM
      (resolveCertificateRef p w (listenerOwner gw l.set)) with
  | error err =>
    rw [hm] at hcerts
    cases hcerts
  | ok certs' =>
    rw [hm] at hcerts
    cases hcerts
    rfl

theorem ownClientCA_some {ca : Option (String × String)} {validation : FrontendTLSValidation}
    (hp : l.spec.protocol = protocolHTTPS) (hv : frontendValidationFor gw l.spec.port = some validation)
    (h : ownClientCA p w gw l.spec = some ca) :
    ∃ bundle, ca = some (validation.effectiveMode, bundle) ∧
      resolveCABundle p w gw validation.caCertificateRefs = .ok bundle := by
  rw [ownClientCA, if_pos hp, hv] at h
  dsimp only at h
  cases hb : resolveCABundle p w gw validation.caCertificateRefs with
  | error reason =>
    rw [hb] at h
    cases h
  | ok bundle =>
    rw [hb] at h
    cases h
    exact ⟨bundle, rfl, rfl⟩

theorem ownClientCA_none {ca : Option (String × String)}
    (hv : l.spec.protocol = protocolHTTPS → frontendValidationFor gw l.spec.port = none)
    (h : ownClientCA p w gw l.spec = some ca) : ca = none := by
  unfold ownClientCA at h
  split_ifs at h with hp
  · rw [hv hp] at h
    cases h
    rfl
  · cases h
    rfl

theorem ownMaterial_some (h : ownMaterial p w gw l.spec l.set = some m) :
    ownCertificate p w gw l.spec l.set = some m.cert ∧ ownClientCA p w gw l.spec = some m.clientCA := by
  obtain ⟨cert, hcert, h⟩ := Option.bind_eq_some_iff.mp h
  obtain ⟨ca, hca, rfl⟩ := Option.map_eq_some_iff.mp h
  exact ⟨hcert, hca⟩

theorem intact_of_ownMaterial (ht : terminates l.spec = true)
    (h : ownMaterial p w gw l.spec l.set = some m) : Intact p w gw l := by
  obtain ⟨hcert, hca⟩ := ownMaterial_some h
  refine ⟨fun ref href => ?_, fun hp validation hv => ?_⟩
  · obtain ⟨certs, hcerts, -, -⟩ := ownCertificate_some ht hcert
    obtain ⟨cert, hok⟩ := Result.exists_of_mapM_eq_ok hcerts href
    exact ⟨cert, resolveCertificateRef_ok hok⟩
  · obtain ⟨bundle, -, hok⟩ := ownClientCA_some hp hv hca
    obtain ⟨hvalid, bundles, hbundles, rfl⟩ := resolveCABundle_ok hok
    exact ⟨bundles, hbundles, hvalid⟩

theorem ownMaterial_of_not_terminates (ht : ¬ terminates l.spec = true)
    (h : ownMaterial p w gw l.spec l.set = some m) : m = ⟨none, none⟩ := by
  obtain ⟨hcert, hca⟩ := ownMaterial_some h
  have hp : l.spec.protocol ≠ protocolHTTPS := fun hp => ht (by simp [terminates, hp])
  rw [ownCertificate, if_neg ht] at hcert
  have hnone := ownClientCA_none (fun hp' => absurd hp' hp) hca
  obtain ⟨cert, clientCA⟩ := m
  cases hcert
  cases hnone
  rfl

theorem source_of_entry (h : ownMaterial p w gw l.spec l.set = some m) {part : Material} {v : String}
    (he : m.entry part = some v) : ListenerSource p w gw l part v := by
  have ht : terminates l.spec = true := by
    by_contra ht
    rw [ownMaterial_of_not_terminates ht h] at he
    cases part <;> cases he
  obtain ⟨hcert, hca⟩ := ownMaterial_some h
  -- the key pair is the last of those the references resolve to
  have hpair : ∀ cert, m.cert = some cert → ∃ ref ∈ l.certificateRefs,
      KeyPairOf p w (listenerOwner gw l.set) ref cert := by
    intro cert hm
    obtain ⟨certs, hcerts, -, hlast⟩ := ownCertificate_some ht hcert
    obtain ⟨ref, href, hok⟩ := Result.mem_of_mapM_eq_ok hcerts (List.mem_of_getLast? (hlast.trans hm))
    exact ⟨ref, href, (resolveCertificateRef_ok hok).1⟩
  cases part with
  | certificate =>
    obtain ⟨cert, hm, rfl⟩ := Option.map_eq_some_iff.mp he
    obtain ⟨ref, href, hok⟩ := hpair cert hm
    exact .certificate href hok
  | privateKey =>
    obtain ⟨cert, hm, rfl⟩ := Option.map_eq_some_iff.mp he
    obtain ⟨ref, href, hok⟩ := hpair cert hm
    exact .privateKey href hok
  | clientCA =>
    obtain ⟨⟨mode, bundle⟩, hm, rfl⟩ := Option.map_eq_some_iff.mp he
    by_cases hp : l.spec.protocol = protocolHTTPS
    · cases hv : frontendValidationFor gw l.spec.port with
      | none =>
        rw [ownClientCA_none (fun _ => hv) hca] at hm
        cases hm
      | some validation =>
        obtain ⟨bundle', hb, hok⟩ := ownClientCA_some hp hv hca
        rw [hm] at hb
        cases hb
        obtain ⟨-, bundles, hbundles, rfl⟩ := resolveCABundle_ok hok
        exact .clientCA hv hbundles
    · rw [ownClientCA_none (fun hp' => absurd hp' hp) hca] at hm
      cases hm

end

/-! ## The generated Secret -/

inductive Provenance (p : Platform) (w : World) (gw : Gateway) (listeners : List ListenerState)
    (outcomes : List RouteOutcome) (k v : String) : Prop where
  | listener (l : ListenerState) (part : Material) : l ∈ validOnes listeners → Intact p w gw l →
      k = l.effectiveName ++ part.suffix → ListenerSource p w gw l part v →
      Provenance p w gw listeners outcomes k v
  | backendClient (ref : SecretRef) (cert : Certificate) : gw.backendClientCertificateRef = some ref →
      KeyPairOf p w ⟨"Gateway", gw.ns⟩ ref cert →
      (k = backendClientCertKey ∧ v = cert.certPEM ∨ k = backendClientKeyKey ∧ v = cert.keyPEM) →
      Provenance p w gw listeners outcomes k v
  | authDocument (outcome : RouteOutcome) (identity : String) : outcome ∈ outcomes →
      k = authSecretKey identity → outcome.authDocs[identity]? = some v →
      Provenance p w gw listeners outcomes k v

variable {sets : List ListenerSetState} {a : PortAllocator} {k v : String}

theorem addOutcome_get {acc : Attachments} {outcome : RouteOutcome}
    (h : (addOutcome acc outcome).secretData[k]? = some v) :
    (∃ identity, k = authSecretKey identity ∧ outcome.authDocs[identity]? = some v) ∨
      acc.secretData[k]? = some v := by
  have hdocs : (GoMap.setAll acc.secretData
      (outcome.authDocs.toList.map fun doc => (authSecretKey doc.1, doc.2)))[k]? = some v →
        (∃ identity, k = authSecretKey identity ∧ outcome.authDocs[identity]? = some v) ∨
          acc.secretData[k]? = some v := by
    intro h
    rcases (GoMap.get_setAll_iff _).mp h with ⟨before, after, hsplit, -⟩ | ⟨-, hacc⟩
    · have hmem : (k, v) ∈ outcome.authDocs.toList.map fun doc => (authSecretKey doc.1, doc.2) := by
        rw [hsplit]
        exact List.mem_append_right _ (.head _)
      obtain ⟨doc, hdoc, he⟩ := List.mem_map.mp hmem
      cases he
      exact .inl ⟨doc.1, rfl, GoMap.mem_toList.mp hdoc⟩
    · exact .inr hacc
  unfold addOutcome at h
  split at h
  · exact .inr h
  · split_ifs at h
    · exact .inr h
    · dsimp only at h
      split at h <;> exact hdocs h

theorem compileAttachments_get {clientCert : BackendClientCert} {listeners : List ListenerState}
    {outcomes : List RouteOutcome}
    (h : (compileAttachments clientCert listeners outcomes).secretData[k]? = some v) :
    (∃ outcome ∈ outcomes, ∃ identity, k = authSecretKey identity ∧
      outcome.authDocs[identity]? = some v) ∨
      (tlsSecretData clientCert listeners)[k]? = some v := by
  unfold compileAttachments at h
  generalize hacc : (⟨∅, tlsSecretData clientCert listeners⟩ : Attachments) = acc at h
  have hdata : tlsSecretData clientCert listeners = acc.secretData := by rw [← hacc]
  rw [hdata]
  clear hacc hdata
  induction outcomes generalizing acc with
  | nil => exact .inr h
  | cons outcome outcomes ih =>
    rcases ih _ h with ⟨o, ho, hdoc⟩ | hacc
    · exact .inl ⟨o, .tail _ ho, hdoc⟩
    · rcases addOutcome_get hacc with hdoc | hacc
      · exact .inl ⟨outcome, .head _, hdoc⟩
      · exact .inr hacc

theorem clientCertData_get {clientCert : BackendClientCert} (h : (clientCertData clientCert)[k]? = some v) :
    ∃ cert, clientCert.cert = some cert ∧
      (k = backendClientCertKey ∧ v = cert.certPEM ∨ k = backendClientKeyKey ∧ v = cert.keyPEM) := by
  unfold clientCertData at h
  split at h
  · rw [GoMap.get_empty] at h
    cases h
  · next cert hcert =>
    split_ifs at h
    · rw [GoMap.get_insert, GoMap.get_insert] at h
      split_ifs at h with hkey hcrt
      · exact ⟨cert, hcert, .inr ⟨hkey.symm, (Option.some.inj h).symm⟩⟩
      · exact ⟨cert, hcert, .inl ⟨hcrt.symm, (Option.some.inj h).symm⟩⟩
      · rw [GoMap.get_empty] at h
        cases h
    · rw [GoMap.get_empty] at h
      cases h

theorem intact_or_empty {l : ListenerState} (hl : l ∈ validOnes (validateListeners p w gw sets a).1) :
    Intact p w gw l ∨ l.certData = ∅ := by
  obtain ⟨m, hown, hm⟩ := validateListeners_material hl
  by_cases ht : terminates l.spec = true
  · exact .inl (intact_of_ownMaterial ht hown)
  · right
    rw [hm.certData, ownMaterial_of_not_terminates ht hown]
    rfl

open Classical in
theorem tlsSecretData_intact (clientCert : BackendClientCert) :
    tlsSecretData clientCert ((validateListeners p w gw sets a).1.filter fun l => Intact p w gw l) =
      tlsSecretData clientCert (validateListeners p w gw sets a).1 := by
  unfold tlsSecretData
  have hcomm : ((validateListeners p w gw sets a).1.filter fun l => Intact p w gw l).filter
      ListenerState.valid = (validOnes (validateListeners p w gw sets a).1).filter
        fun l => Intact p w gw l := by
    rw [validOnes, List.filter_filter, List.filter_filter]
    exact congrArg (fun f => List.filter f _) (funext fun l => Bool.and_comm ..)
  rw [hcomm, List.foldl_filter]
  apply List.foldl_ext
  intro data l hl
  split_ifs with hi
  · rfl
  · rw [(intact_or_empty hl).resolve_left (by simpa using hi)]
    rfl

open Classical in
/-- Every certificate, key and bundle in the Secret of a generation was read from an object that its
owner references and may reference; a listener with a broken reference contributes nothing. -/
theorem published_material_authorized (order : MapOrder) (uid : Publish.UID) (sum256 : String → String)
    (p : Platform) (w : World) (gw : Gateway) (infra : InfraParams) (sets : List ListenerSetState)
    (a : PortAllocator) (outcomes : List RouteOutcome) :
    (∀ k v : String, ((publicationOf order uid gw infra (validateListeners p w gw sets a).1
        (resolveBackendClientCert p w gw) outcomes).generatedSecret sum256).data[k]? = some v →
      Provenance p w gw (validateListeners p w gw sets a).1 outcomes k v) ∧
    (publicationOf order uid gw infra ((validateListeners p w gw sets a).1.filter fun l => Intact p w gw l)
        (resolveBackendClientCert p w gw) outcomes).secretData =
      (publicationOf order uid gw infra (validateListeners p w gw sets a).1
        (resolveBackendClientCert p w gw) outcomes).secretData := by
  refine ⟨fun k v h => ?_, ?_⟩
  · rcases compileAttachments_get h with ⟨outcome, ho, identity, hk, hdoc⟩ | h
    · exact .authDocument outcome identity ho hk hdoc
    · rw [tlsSecretData_get] at h
      rcases Option.or_eq_some_iff.mp h with h | ⟨-, h⟩
      · obtain ⟨l, hl, hv⟩ := List.mem_filterMap.mp (List.mem_of_getLast? h)
        obtain ⟨m, hown, hm⟩ := validateListeners_material hl
        obtain ⟨part, hk, he⟩ := (certData_get_iff hm).mp hv
        refine .listener l part hl ((intact_or_empty hl).resolve_right fun hempty => ?_) hk
          (source_of_entry hown he)
        rw [hempty, GoMap.get_empty] at hv
        cases hv
      · obtain ⟨cert, hcert, hkv⟩ := clientCertData_get h
        obtain ⟨ref, href, hpair⟩ := resolveBackendClientCert_cert hcert
        exact .backendClient ref cert href hpair hkv
  · show (compileAttachments _ _ outcomes).secretData = (compileAttachments _ _ outcomes).secretData
    unfold compileAttachments
    rw [tlsSecretData_intact]

end Krouter.ControlPlane
