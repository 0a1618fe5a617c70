import Krouter.ControlPlane.Publish

/-! The objects of a generation. Their names tell the Gateway, the generation and the route apart, so a
name stands for one content, collisions aside. -/

namespace Krouter.Publish
open Compiled GoString

/-- SHA-256 in hexadecimal, up to what its values are. -/
structure Digest where
  sum256 : String → String
  length : ∀ text, (sum256 text).toList.length = 64

def Digest.charSum : Digest where
  sum256 text := String.ofList
    ((Nat.toDigits 10 (text.toList.foldl (fun n c => n + c.toNat) 0) ++ List.replicate 64 '0').take 64)
  length text := by
    rw [String.toList_ofList, List.length_take, List.length_append, List.length_replicate]
    omega

variable {d : Digest}

theorem Publication.generation_length (d : Digest) (p : Publication) :
    (p.generation d.sum256).toList.length = 12 := by
  rw [generation, generationID, String.toList_ofList, List.length_take, d.length]
  rfl

theorem Publication.generation_ne_empty (d : Digest) (p : Publication) :
    p.generation d.sum256 ≠ "" := by
  intro h
  have hl := p.generation_length d
  rw [h] at hl
  cases hl

/-! ## Names -/

variable {u v : UID} {g h : String} {p : Publication} {S : Publication → Prop}

theorem UID.ext_value (h : u.value = v.value) : u = v := by
  cases u
  cases v
  congr 1
  exact Ports.GatewayUID.ext_value h

theorem UID.append_inj {x y : String} (h : u.value ++ x = v.value ++ y) : u = v ∧ x = y := by
  obtain ⟨huv, hxy⟩ := append_inj_left (u.canonical.trans v.canonical.symm) h
  exact ⟨UID.ext_value huv, hxy⟩

theorem manifestName_ne {u v : String} (h : u ≠ v) : manifestName u ≠ manifestName v :=
  fun he => h (append_cancel he)

-- Equations between literals are chained by hand: rewriting would unfold the literals.

theorem gatewayConfigName_eq (u g : String) :
    gatewayConfigName u g = "krouter-gwcfg-" ++ (u ++ ("-" ++ g)) :=
  String.append_assoc.trans String.append_assoc

theorem tlsSecretName_eq (u g : String) : tlsSecretName u g = "krouter-tls-" ++ (u ++ ("-" ++ g)) :=
  String.append_assoc.trans String.append_assoc

theorem attachmentName_eq (u r g : String) :
    attachmentName u r g = "krouter-att-" ++ (u ++ ("-" ++ (r ++ ("-" ++ g)))) :=
  String.append_assoc.trans <| String.append_assoc.trans <|
    String.append_assoc.trans String.append_assoc

theorem gatewayConfigName_inj (hn : gatewayConfigName u.value g = gatewayConfigName v.value h) : u = v ∧ g = h := by
  have hn' := (gatewayConfigName_eq _ _).symm.trans (hn.trans (gatewayConfigName_eq _ _))
  obtain ⟨huv, hgh⟩ := UID.append_inj (append_cancel hn')
  exact ⟨huv, append_cancel hgh⟩

theorem tlsSecretName_inj (hn : tlsSecretName u.value g = tlsSecretName v.value h) : u = v ∧ g = h := by
  have hn' := (tlsSecretName_eq _ _).symm.trans (hn.trans (tlsSecretName_eq _ _))
  obtain ⟨huv, hgh⟩ := UID.append_inj (append_cancel hn')
  exact ⟨huv, append_cancel hgh⟩

theorem attachmentName_inj {r r' : String} (hlen : g.toList.length = h.toList.length)
    (hn : attachmentName u.value r g = attachmentName v.value r' h) : u = v ∧ r = r' ∧ g = h := by
  have hn' := (attachmentName_eq _ _ _).symm.trans (hn.trans (attachmentName_eq _ _ _))
  obtain ⟨huv, hrg⟩ := UID.append_inj (append_cancel hn')
  have hlen' : ("-" ++ g).toList.length = ("-" ++ h).toList.length := by
    rw [String.toList_append, String.toList_append, List.length_append, List.length_append, hlen]
  obtain ⟨hr, hg⟩ := append_inj_right hlen' (append_cancel hrg)
  exact ⟨huv, hr, append_cancel hg⟩

theorem role_ne {a b x y : String} (ha : 9 ≤ a.toList.length) (hb : 9 ≤ b.toList.length)
    (h : a.toList.take 9 ≠ b.toList.take 9) : a ++ x ≠ b ++ y := by
  intro he
  have hl := congrArg (fun s => s.toList.take 9) he
  simp only [String.toList_append] at hl
  rw [List.take_append_of_le_length ha, List.take_append_of_le_length hb] at hl
  exact h hl

theorem gatewayConfigName_ne_attachmentName (u g v r h : String) :
    gatewayConfigName u g ≠ attachmentName v r h := by
  rw [gatewayConfigName_eq, attachmentName_eq]
  exact role_ne (by decide) (by decide) (by decide)

theorem gatewayConfigName_ne_manifestName (u g v : String) : gatewayConfigName u g ≠ manifestName v := by
  rw [gatewayConfigName_eq]
  exact role_ne (by decide) (by decide) (by decide)

theorem attachmentName_ne_manifestName (u r g v : String) : attachmentName u r g ≠ manifestName v := by
  rw [attachmentName_eq]
  exact role_ne (by decide) (by decide) (by decide)

/-! ## Labels and data -/

theorem objectLabels_gatewayUID (u g r : String) :
    (objectLabels u g r)[labelGatewayUID]? = some u := by
  rw [objectLabels, GoMap.get_insert_of_ne _ _ (by decide), GoMap.get_insert_of_ne _ _ (by decide),
    baseLabels, GoMap.get_insert_self]

theorem objectLabels_managedBy (u g r : String) :
    (objectLabels u g r)[labelManagedBy]? = some managedByValue := by
  rw [objectLabels, GoMap.get_insert_of_ne _ _ (by decide), GoMap.get_insert_of_ne _ _ (by decide),
    baseLabels, GoMap.get_insert_of_ne _ _ (by decide), GoMap.get_insert_self]

theorem objectLabels_role (u g r : String) : (objectLabels u g r)[labelRole]? = some r := by
  rw [objectLabels, GoMap.get_insert_self]

theorem objectLabels_generation (u g r : String) :
    (objectLabels u g r)[labelGeneration]? = some g := by
  rw [objectLabels, GoMap.get_insert_of_ne _ _ (by decide), GoMap.get_insert_self]

theorem configMapOf_data (name : String) (labels : Labels) (payload : String) :
    GoMap.read (configMapOf name labels payload).data dataKey "" = payload := by
  rw [configMapOf, GoMap.read, GoMap.get_insert_self, Option.getD_some]

theorem manifestLabels_gatewayUID (u : String) : (manifestLabels u)[labelGatewayUID]? = some u := by
  rw [manifestLabels, GoMap.get_insert_of_ne _ _ (by decide), baseLabels, GoMap.get_insert_self]

theorem manifestLabels_generation (u : String) : (manifestLabels u)[labelGeneration]? = none := by
  rw [manifestLabels, GoMap.get_insert_of_ne _ _ (by decide), baseLabels,
    GoMap.get_insert_of_ne _ _ (by decide), GoMap.get_insert_of_ne _ _ (by decide), GoMap.get_empty]

theorem read_manifestData (m : Manifest) :
    GoMap.read (manifestData m) manifestKey "" = manifestCodec.marshal m := by
  rw [manifestData, GoMap.read, GoMap.get_insert_self, Option.getD_some]

/-! ## The objects of a publication -/

namespace Publication

variable {p : Publication} {sum256 : String → String} {cm : ConfigMap}

theorem mem_visit {route payload : String} :
    (route, payload) ∈ p.visit ↔ p.attachments[route]? = some payload := by
  rw [p.visit_perm.mem_iff, GoMap.mem_toList]

theorem mem_configMaps : cm ∈ p.configMaps sum256 ↔ cm = p.gatewayConfigMap sum256 ∨
      ∃ route payload, p.attachments[route]? = some payload ∧
        cm = p.attachmentConfigMap sum256 (route, payload) := by
  rw [configMaps, List.mem_cons, List.mem_map]
  constructor
  · rintro (h | ⟨⟨route, payload⟩, hm, rfl⟩)
    · exact .inl h
    · exact .inr ⟨route, payload, mem_visit.mp hm, rfl⟩
  · rintro (h | ⟨route, payload, hm, rfl⟩)
    · exact .inl h
    · exact .inr ⟨(route, payload), mem_visit.mpr hm, rfl⟩

theorem configMaps_labels (h : cm ∈ p.configMaps sum256) : cm.labels[labelGatewayUID]? = some p.uid.value ∧
      cm.labels[labelGeneration]? = some (p.generation sum256) := by
  rcases mem_configMaps.mp h with rfl | ⟨route, payload, -, rfl⟩
  · exact ⟨objectLabels_gatewayUID .., objectLabels_generation ..⟩
  · constructor
    · rw [attachmentConfigMap, configMapOf, GoMap.get_insert_of_ne _ _ (by decide)]
      exact objectLabels_gatewayUID ..
    · rw [attachmentConfigMap, configMapOf, GoMap.get_insert_of_ne _ _ (by decide)]
      exact objectLabels_generation ..

theorem configMaps_name_ne (h : cm ∈ p.configMaps sum256) (u : String) : cm.name ≠ manifestName u := by
  rcases mem_configMaps.mp h with rfl | ⟨route, payload, -, rfl⟩
  · exact gatewayConfigName_ne_manifestName _ _ _
  · exact attachmentName_ne_manifestName _ _ _ _

end Publication

theorem managed_configMaps
    (hcm : cm ∈ p.configMaps sum256) : managed cm.labels = true := by
  have hlabel : cm.labels[labelManagedBy]? = some managedByValue := by
    rcases Publication.mem_configMaps.mp hcm with rfl | ⟨route, payload, -, rfl⟩
    · exact objectLabels_managedBy ..
    · rw [Publication.attachmentConfigMap, configMapOf, GoMap.get_insert_of_ne _ _ (by decide)]
      exact objectLabels_managedBy ..
  rw [managed, GoMap.read_of_get hlabel]
  rfl

/-- No two publications of a Gateway share a generation without sharing their content. -/
def CollisionFree (sum256 : String → String) (S : Publication → Prop) : Prop :=
  ∀ p q, S p → S q → p.uid = q.uid → p.generation sum256 = q.generation sum256 →
    p.gatewayPayload = q.gatewayPayload ∧ p.attachments = q.attachments ∧
      p.secretChecksum sum256 = q.secretChecksum sum256

theorem CollisionFree.configMap_eq (hS : CollisionFree d.sum256 S)
    {q : Publication} (hp : S p) (hq : S q) {cm' : ConfigMap} (hcm : cm ∈ p.configMaps d.sum256)
    (hcm' : cm' ∈ q.configMaps d.sum256) (hname : cm.name = cm'.name) :
    p.uid = q.uid ∧ p.generation d.sum256 = q.generation d.sum256 ∧ cm = cm' := by
  rcases Publication.mem_configMaps.mp hcm with rfl | ⟨route, payload, hr, rfl⟩ <;>
    rcases Publication.mem_configMaps.mp hcm' with rfl | ⟨route', payload', hr', rfl⟩
  · obtain ⟨hu, hg⟩ := gatewayConfigName_inj hname
    obtain ⟨hpay, -, -⟩ := hS p q hp hq hu hg
    refine ⟨hu, hg, ?_⟩
    rw [Publication.gatewayConfigMap, Publication.gatewayConfigMap, hu, hg, hpay]
  · exact absurd hname (gatewayConfigName_ne_attachmentName _ _ _ _ _)
  · exact absurd hname.symm (gatewayConfigName_ne_attachmentName _ _ _ _ _)
  · have hlen := (p.generation_length d).trans (q.generation_length d).symm
    obtain ⟨hu, rfl, hg⟩ := attachmentName_inj hlen hname
    obtain ⟨-, hatt, -⟩ := hS p q hp hq hu hg
    rw [hatt, hr'] at hr
    refine ⟨hu, hg, ?_⟩
    rw [Publication.attachmentConfigMap, Publication.attachmentConfigMap, hu, hg, Option.some.inj hr]

theorem CollisionFree.secret (hS : CollisionFree d.sum256 S) {q : Publication} (hp : S p) (hq : S q)
    (hname : (p.generatedSecret d.sum256).name = (q.generatedSecret d.sum256).name) :
    p.uid = q.uid ∧ p.generation d.sum256 = q.generation d.sum256 ∧
      p.secretChecksum d.sum256 = q.secretChecksum d.sum256 := by
  obtain ⟨hu, hg⟩ := tlsSecretName_inj hname
  exact ⟨hu, hg, (hS p q hp hq hu hg).2.2⟩

end Krouter.Publish
