import Krouter.ControlPlane.Atomic
import Krouter.ControlPlane.Retention

/-! Publication into any store. An object that carries a name of the generation is taken for the object
itself, so what is committed is intact exactly when nothing else stood there. -/

namespace Krouter.Idempotence
open Calls Compiled Kube Publish
open Sync (RefPresent)

variable {sum256 : String → String} {fails : Call → Bool} {acks : AckState} {listed : Listing} {p : Publication}
  {s t : Store}

/-! ## Where the objects of a generation come from -/

theorem configMaps_name_inj {own own' : ConfigMap} (h : own ∈ p.configMaps sum256)
    (h' : own' ∈ p.configMaps sum256) (hname : own.name = own'.name) : own = own' := by
  rcases Publication.mem_configMaps.mp h with rfl | ⟨route, payload, hr, rfl⟩ <;>
    rcases Publication.mem_configMaps.mp h' with rfl | ⟨route', payload', hr', rfl⟩
  · rfl
  · exact absurd hname (gatewayConfigName_ne_attachmentName _ _ _ _ _)
  · exact absurd hname.symm (gatewayConfigName_ne_attachmentName _ _ _ _ _)
  · obtain ⟨-, rfl, -⟩ := attachmentName_inj rfl hname
    rw [Option.some.inj (hr.symm.trans hr')]

structure Inherited (sum256 : String → String) (p : Publication) (s t : Store) : Prop where
  configMaps : ∀ own ∈ p.configMaps sum256, ∀ stored, t.configMaps[own.name]? = some stored →
    s.configMaps[own.name]?.getD own = stored
  secret : ∀ stored, t.secrets[(p.generatedSecret sum256).name]? = some stored →
    s.secrets[(p.generatedSecret sum256).name]?.getD (p.generatedSecret sum256) = stored

structure Grown (sum256 : String → String) (p : Publication) (s t : Store) : Prop extends Inherited sum256 p s t where
  keptConfigMaps : ∀ own ∈ p.configMaps sum256, t.configMaps[own.name]? = none → s.configMaps[own.name]? = none
  keptSecret : t.secrets[(p.generatedSecret sum256).name]? = none →
    s.secrets[(p.generatedSecret sum256).name]? = none

theorem Grown.create_configMap (h : Grown sum256 p s t) {own : ConfigMap} (hown : own ∈ p.configMaps sum256)
    (hnone : t.configMaps[own.name]? = none) : Grown sum256 p s (Kube.configMaps.set t own.name own) where
  configMaps own' hown' stored hstored := by
    rw [set_configMaps, GoMap.get_insert] at hstored
    split_ifs at hstored with hname
    · obtain rfl := configMaps_name_inj hown hown' hname
      rw [h.keptConfigMaps own hown hnone]
      exact Option.some.inj hstored
    · exact h.configMaps own' hown' stored hstored
  secret := h.secret
  keptConfigMaps own' hown' hgone := by
    rw [set_configMaps, GoMap.get_insert] at hgone
    split_ifs at hgone
    exact h.keptConfigMaps own' hown' hgone
  keptSecret := h.keptSecret

theorem Grown.create_secret (h : Grown sum256 p s t)
    (hnone : t.secrets[(p.generatedSecret sum256).name]? = none) :
    Grown sum256 p s (secrets.set t (p.generatedSecret sum256).name (p.generatedSecret sum256)) where
  configMaps := h.configMaps
  secret stored hstored := by
    rw [set_secrets, GoMap.get_insert_self] at hstored
    rw [h.keptSecret hnone]
    exact Option.some.inj hstored
  keptConfigMaps := h.keptConfigMaps
  keptSecret hgone := by
    rw [set_secrets, GoMap.get_insert_self] at hgone
    cases hgone

theorem Inherited.set_manifest (h : Inherited sum256 p s t) (cm : ConfigMap) :
    Inherited sum256 p s (Kube.configMaps.set t (manifestName p.uid.value) cm) where
  configMaps own hown stored hstored := by
    rw [set_configMaps, GoMap.get_insert_of_ne _ _ (Publication.configMaps_name_ne hown _).symm] at hstored
    exact h.configMaps own hown stored hstored
  secret := h.secret

theorem Inherited.remove_configMap (h : Inherited sum256 p s t) (name : String) :
    Inherited sum256 p s (Kube.configMaps.remove t name) where
  configMaps own hown stored hstored := by
    rw [remove_configMaps, GoMap.get_erase] at hstored
    split_ifs at hstored
    exact h.configMaps own hown stored hstored
  secret := h.secret

theorem Inherited.remove_secret (h : Inherited sum256 p s t) (name : String) :
    Inherited sum256 p s (secrets.remove t name) where
  configMaps := h.configMaps
  secret stored hstored := by
    rw [remove_secrets, GoMap.get_erase] at hstored
    split_ifs at hstored
    exact h.secret stored hstored

theorem ensureManifest_keeps {m : Manifest} (inv : Store → Prop)
    (hset : ∀ t cm, inv t → inv (configMaps.set t (manifestName p.uid.value) cm)) :
    Triple fails (fun _ _ => True) inv (ensureManifest p.uid.value m) (fun _ => inv) (fun _ _ => True) := by
  rw [ensureManifest_eq]
  exact configMaps.ensure_spec (fun _ _ _ _ => trivial) (fun _ t ht _ => ⟨trivial, hset t _ ht⟩)
    (fun _ _ ht _ _ => ht) fun _ t _ _ ht _ _ => ⟨trivial, hset t _ ht⟩

theorem publishGeneration_inherits (s : Store) :
    Triple fails (fun _ _ => True) (· = s) (publishGeneration sum256 acks listed p)
      (fun _ => Inherited sum256 p s) (fun _ _ => True) := by
  have hobjects := @writeObjects_leaves sum256 p fails (fun _ _ => True) (Grown sum256 p s)
    (fun own hown _ t ht hnone => ⟨trivial, ht.create_configMap hown hnone⟩)
    (fun _ _ t ht hnone => ⟨trivial, ht.create_secret hnone⟩)
  have hstart : Grown sum256 p s s := by
    refine ⟨⟨fun own _ stored h => ?_, fun stored h => ?_⟩, fun _ _ h => h, fun h => h⟩
    · rw [h, Option.getD_some]
    · rw [h, Option.getD_some]
  rw [publishGeneration_eq, writeGeneration, Program.bind_assoc]
  refine Triple.bind (hobjects.consequence (fun t ht => ht ▸ hstart) (fun _ _ h => h.1.toInherited)
    fun _ _ _ => trivial) fun _ => ?_
  refine Triple.bind (ensureManifest_keeps _ fun t cm ht => ht.set_manifest cm) fun m => ?_
  have hgc := @gcGenerations_keeps fails acks listed p.uid.value m (Inherited sum256 p s)
    (fun _ cm _ _ t ht => ht.remove_configMap cm.name) (fun _ secret _ _ t ht => ht.remove_secret secret.name)
  exact Triple.bind (hgc.consequence (fun _ h => h) (fun _ _ h => h) fun _ _ h => h.elim) fun _ => .ret fun _ h => h

/-! ## Intact publications -/

/-- If the publication returns, every object that its stored manifest lists is there, the
Gateway's own, with the listed content; if it does not, the manifest is what it was. -/
def RepairsOrRefuses (sum256 : String → String) (acks : AckState) (listed : Listing) (p : Publication) (s : Store) :
    Prop :=
  ∀ fails, match (publishGeneration sum256 acks listed p fails s).result with
    | .ok generation => ∃ m,
        storedManifest (publishGeneration sum256 acks listed p fails s).store p.uid.value = some m ∧
          m.generation = generation ∧ ∀ ref ∈ m.objects,
            RefPresent sum256 (publishGeneration sum256 acks listed p fails s).store p.uid.value ref
    | .error _ => (publishGeneration sum256 acks listed p fails s).store.configMaps[manifestName p.uid.value]? =
        s.configMaps[manifestName p.uid.value]?

/-- Whatever is stored under a name of the generation is the Gateway's own and has its content, the
manifest is not mistaken for an up-to-date one, and nothing under those names would be collected. -/
structure Uncorrupted (sum256 : String → String) (acks : AckState) (listed : Listing) (p : Publication) (s : Store) :
    Prop extends Spared sum256 acks listed p s where
  readable : ¬ Overlooked s p.uid.value
  ownConfigMaps : ∀ own ∈ p.configMaps sum256, ∀ stored, s.configMaps[own.name]? = some stored →
    stored.labels[labelGatewayUID]? = some p.uid.value ∧
      checksumBytes sum256 (GoMap.read stored.data dataKey "") = checksumBytes sum256 (GoMap.read own.data dataKey "")
  ownSecret : p.secretData.isEmpty = false →
    ∀ stored, s.secrets[(p.generatedSecret sum256).name]? = some stored →
      stored.labels[labelGatewayUID]? = some p.uid.value ∧
        checksumSecret sum256 stored.data = p.secretChecksum sum256

theorem refs_iff {present : ObjectRef → Prop} : (∀ ref ∈ (p.manifest sum256).objects, present ref) ↔
    (∀ cm ∈ p.configMaps sum256, present (Publication.configMapRef sum256 cm)) ∧
      (p.secretData.isEmpty = false → present ⟨objectKindSecret, tlsSecretName p.uid.value (p.generation sum256),
        p.secretChecksum sum256⟩) := by
  rw [Publication.manifest, List.forall_mem_append, List.forall_mem_map]
  apply and_congr_right'
  cases p.secretData.isEmpty with
  | true => exact iff_of_true (fun _ h => (List.not_mem_nil h).elim) fun h => by cases h
  | false => exact List.forall_mem_singleton.trans ⟨fun h _ => h, fun h => h rfl⟩

theorem refPresent_configMapRef {u : String} {cm : ConfigMap} :
    RefPresent sum256 s u (Publication.configMapRef sum256 cm) ↔ ∃ stored, s.configMaps[cm.name]? = some stored ∧
      stored.labels[labelGatewayUID]? = some u ∧
      checksumBytes sum256 (GoMap.read stored.data dataKey "") =
        checksumBytes sum256 (GoMap.read cm.data dataKey "") := by
  constructor
  · rintro (⟨-, h⟩ | ⟨hkind, -⟩)
    · exact h
    · exact absurd hkind (show objectKindConfigMap ≠ objectKindSecret by decide)
  · exact fun h => .inl ⟨rfl, h⟩

theorem refPresent_secretRef {u name checksum : String} :
    RefPresent sum256 s u ⟨objectKindSecret, name, checksum⟩ ↔ ∃ stored, s.secrets[name]? = some stored ∧
      stored.labels[labelGatewayUID]? = some u ∧ checksumSecret sum256 stored.data = checksum := by
  constructor
  · rintro (⟨hkind, -⟩ | ⟨-, h⟩)
    · exact absurd hkind (show objectKindSecret ≠ objectKindConfigMap by decide)
    · exact h
  · exact fun h => .inr ⟨rfl, h⟩

theorem Uncorrupted.repairs (h : Uncorrupted sum256 acks listed p s) : RepairsOrRefuses sum256 acks listed p s := by
  intro fails
  have hdone := (@publishGeneration_done sum256 p s fails acks listed h.toSpared s rfl).2
  have hinherited := (@publishGeneration_inherits sum256 fails acks listed p s s rfl).2
  cases hr : (publishGeneration sum256 acks listed p fails s).result with
  | error e =>
    rw [hr] at hdone
    exact hdone.2
  | ok generation =>
    rw [hr] at hdone hinherited
    obtain ⟨rfl, hdone⟩ := hdone
    refine ⟨_, hdone.storedManifest_eq h.readable, rfl, refs_iff.mpr ⟨fun own hown => ?_, fun hdata => ?_⟩⟩
    · obtain ⟨stored, hstored⟩ := hdone.configMaps own hown
      refine refPresent_configMapRef.mpr ⟨stored, hstored, ?_⟩
      rw [← hinherited.configMaps own hown stored hstored]
      cases hold : s.configMaps[own.name]? with
      | some old => exact h.ownConfigMaps own hown old hold
      | none => exact ⟨(Publication.configMaps_labels hown).1, rfl⟩
    · obtain ⟨stored, hstored⟩ := hdone.secret hdata
      refine refPresent_secretRef.mpr ⟨stored, hstored, ?_⟩
      rw [← hinherited.secret stored hstored]
      cases hold : s.secrets[(p.generatedSecret sum256).name]? with
      | some old => exact h.ownSecret hdata old hold
      | none =>
        refine ⟨objectLabels_gatewayUID .., ?_⟩
        rw [Publication.secretChecksum, hdata]
        rfl

theorem unmarshal_empty : manifestCodec.unmarshal "" = none := by decide

theorem Overlooked.storedManifest_eq {uid : String} (h : Overlooked s uid) : storedManifest s uid = none := by
  obtain ⟨cm, hcm, -, key, hkey, hdata⟩ := h
  rw [storedManifest, hcm, Option.bind_some, hdata, GoMap.read, GoMap.get_insert_of_ne _ _ hkey, GoMap.get_empty,
    Option.getD_none, unmarshal_empty]

/-- A manifest that can be read is the one the publication writes. -/
def ReadsBack (sum256 : String → String) (p : Publication) (s t : Store) : Prop :=
  ∀ m, storedManifest t p.uid.value = some m →
    m = p.manifestAfter sum256 (storedManifest s p.uid.value) ∧ ¬ Overlooked s p.uid.value

theorem Done.readsBack (h : Done sum256 p s t) : ReadsBack sum256 p s t := by
  intro m hm
  by_cases hseen : Overlooked s p.uid.value
  · rw [storedManifest_congr (h.overlooked hseen), hseen.storedManifest_eq] at hm
    cases hm
  · exact ⟨Option.some.inj (hm.symm.trans (h.storedManifest_eq hseen)), hseen⟩

theorem ReadsBack.remove_configMap (h : ReadsBack sum256 p s t) (name : String) :
    ReadsBack sum256 p s (configMaps.remove t name) := by
  intro m hm
  rw [storedManifest, remove_configMaps, GoMap.get_erase] at hm
  split_ifs at hm
  · cases hm
  · exact h m hm

theorem publishGeneration_readsBack (s : Store) :
    Triple fails (fun _ _ => True) (· = s) (publishGeneration sum256 acks listed p)
      (fun _ => ReadsBack sum256 p s) (fun _ => Refused fails p s) := by
  rw [publishGeneration_eq]
  refine Triple.bind writeGeneration_done fun m => ?_
  have hgc := @gcGenerations_keeps fails acks listed p.uid.value m (ReadsBack sum256 p s)
    (fun _ cm _ _ t ht => ht.remove_configMap cm.name) (fun _ _ _ _ _ ht => ht)
  exact (hgc.consequence (fun _ h => h.2.readsBack) (fun _ _ h => h) fun _ _ h => h.elim).bind fun _ => .ret fun _ h => h

theorem RepairsOrRefuses.uncorrupted (h : RepairsOrRefuses sum256 acks listed p s) :
    Uncorrupted sum256 acks listed p s := by
  -- without failed calls the publication returns, and collects all it can
  have hfails : ∀ call : Call, (fun _ => false : Call → Bool) call = false := fun _ => rfl
  have hrun := h fun _ => false
  have hinherited := (@publishGeneration_inherits sum256 (fun _ => false) acks listed p s s rfl).2
  have hreads := (@publishGeneration_readsBack sum256 (fun _ => false) acks listed p s s rfl).2
  rw [publishGeneration_returns hfails] at hrun hinherited hreads
  obtain ⟨m, hm, -, hrefs⟩ := hrun
  obtain ⟨rfl, hreadable⟩ := hreads m hm
  obtain ⟨hconfigMaps, hsecret⟩ := refs_iff.mp hrefs
  obtain ⟨manifest, hmanifest, -⟩ := Option.bind_eq_some_iff.mp hm
  have hobjects : Objects sum256 p (publishGeneration sum256 acks listed p (fun _ => false) s).store := by
    refine ⟨fun own hown => ?_, fun hdata => ?_⟩
    · obtain ⟨stored, hstored, -⟩ := refPresent_configMapRef.mp (hconfigMaps own hown)
      exact ⟨stored, hstored⟩
    · obtain ⟨stored, hstored, -⟩ := refPresent_secretRef.mp (hsecret hdata)
      exact ⟨stored, hstored⟩
  refine ⟨spared_of_objects hfails hobjects hmanifest, hreadable, fun own hown old hold => ?_,
    fun hdata old hold => ?_⟩
  · obtain ⟨stored, hstored, hintact⟩ := refPresent_configMapRef.mp (hconfigMaps own hown)
    have hsame := hinherited.configMaps own hown stored hstored
    rw [hold, Option.getD_some] at hsame
    rw [hsame]
    exact hintact
  · obtain ⟨stored, hstored, hintact⟩ := refPresent_secretRef.mp (hsecret hdata)
    have hsame := hinherited.secret stored hstored
    rw [hold, Option.getD_some] at hsame
    rw [hsame]
    exact hintact

/-- A publication repairs or refuses exactly the stores in which nothing corrupted bears a
name of its generation. -/
theorem repairs_or_refuses_iff (sum256 : String → String) (acks : AckState) (listed : Listing) (p : Publication)
    (s : Store) : RepairsOrRefuses sum256 acks listed p s ↔ Uncorrupted sum256 acks listed p s :=
  ⟨RepairsOrRefuses.uncorrupted, Uncorrupted.repairs⟩

def alteredStore : Store where
  configMaps := (∅ : GoMap String ConfigMap).insert
    ((tinyPublication "a").gatewayConfigMap Digest.charSum.sum256).name
    { (tinyPublication "a").gatewayConfigMap Digest.charSum.sum256 with
      data := (∅ : GoMap String String).insert dataKey "b" }
  secrets := ∅
  services := ∅

theorem altered_config_published : ¬ RepairsOrRefuses Digest.charSum.sum256 ⟨∅⟩ (listing alteredStore)
    (tinyPublication "a") alteredStore := by
  intro h
  have hgateway : (tinyPublication "a").gatewayConfigMap Digest.charSum.sum256 ∈
      (tinyPublication "a").configMaps Digest.charSum.sum256 := Publication.mem_configMaps.mpr (Or.inl rfl)
  have hcontent := (h.uncorrupted.ownConfigMaps _ hgateway _ (GoMap.get_insert_self ..)).2
  exact absurd hcontent (by decide)

end Krouter.Idempotence
