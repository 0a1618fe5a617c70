import Krouter.ControlPlane.Generations

/-! The publication protocol as a transition system: whatever calls fail, `publishGeneration` and
`gcOrphans` move the store along its steps only. -/

namespace Krouter.Publish
open Calls Compiled Kube

variable {d : Digest} {S : Publication → Prop} {s : Store}

/-! ## What a store holds -/

def storedManifest (s : Store) (gatewayUID : String) : Option Manifest :=
  (s.configMaps[manifestName gatewayUID]?).bind fun cm =>
    manifestCodec.unmarshal (GoMap.read cm.data manifestKey "")

def Publication.manifestAfter (sum256 : String → String) (p : Publication) (stored : Option Manifest) :
    Manifest :=
  { p.manifest sum256 with
    previous := match stored with
      | none => ""
      | some m => previousAfter m (p.generation sum256) }

structure Holds (sum256 : String → String) (s : Store) (p : Publication) : Prop where
  configMaps : ∀ cm ∈ p.configMaps sum256, s.configMaps[cm.name]? = some cm
  secret : p.secretData.isEmpty = false → ∃ secret,
    s.secrets[tlsSecretName p.uid.value (p.generation sum256)]? = some secret ∧
      secret.labels = objectLabels p.uid.value (p.generation sum256) roleTLS ∧
      checksumSecret sum256 secret.data = p.secretChecksum sum256

def GeneratedConfigMap (sum256 : String → String) (S : Publication → Prop) (cm : ConfigMap) : Prop :=
  (∃ p, S p ∧ cm ∈ p.configMaps sum256) ∨ ∃ p m, S p ∧ cm = manifestConfigMap p.uid.value m

def GeneratedSecret (sum256 : String → String) (S : Publication → Prop) (secret : Secret) : Prop :=
  ∃ p, S p ∧ p.secretData.isEmpty = false ∧ secret = p.generatedSecret sum256

structure Legit (sum256 : String → String) (S : Publication → Prop) (s : Store) : Prop where
  configMaps : ∀ name cm, s.configMaps[name]? = some cm →
    cm.name = name ∧ GeneratedConfigMap sum256 S cm
  secrets : ∀ name secret, s.secrets[name]? = some secret →
    secret.name = name ∧ GeneratedSecret sum256 S secret

/-! ## Steps -/

inductive Step (sum256 : String → String) (acks : AckState) (p : Publication) : Store → Store → Prop
  | createConfigMap {s : Store} {cm : ConfigMap} (hcm : cm ∈ p.configMaps sum256)
      (hnew : s.configMaps[cm.name]? = none) : Step sum256 acks p s (configMaps.set s cm.name cm)
  | createSecret {s : Store} (hdata : p.secretData.isEmpty = false)
      (hnew : s.secrets[(p.generatedSecret sum256).name]? = none) :
      Step sum256 acks p s (secrets.set s (p.generatedSecret sum256).name (p.generatedSecret sum256))
  | commit {s : Store} (hholds : Holds sum256 s p) :
      Step sum256 acks p s (configMaps.set s (manifestName p.uid.value)
        (manifestConfigMap p.uid.value (p.manifestAfter sum256 (storedManifest s p.uid.value))))
  | collectConfigMap {s : Store} {m : Manifest} {cm : ConfigMap}
      (hm : storedManifest s p.uid.value = some m) (hg : m.generation = p.generation sum256)
      (hacked : acks.allAcked p.uid.value m.generation = true)
      (hcm : s.configMaps[cm.name]? = some cm)
      (hold : superseded p.uid.value (keptGenerations acks p.uid.value m) cm.labels = true) :
      Step sum256 acks p s (configMaps.remove s cm.name)
  | collectSecret {s : Store} {m : Manifest} {secret : Secret}
      (hm : storedManifest s p.uid.value = some m) (hg : m.generation = p.generation sum256)
      (hacked : acks.allAcked p.uid.value m.generation = true)
      (hsecret : s.secrets[secret.name]? = some secret)
      (hold : superseded p.uid.value (keptGenerations acks p.uid.value m) secret.labels = true) :
      Step sum256 acks p s (secrets.remove s secret.name)

inductive OrphanStep (ownedUIDs : List String) : Store → Store → Prop
  | configMap {s : Store} {cm : ConfigMap} (hcm : s.configMaps[cm.name]? = some cm)
      (horphan : orphaned ownedUIDs cm.labels = true) :
      OrphanStep ownedUIDs s (configMaps.remove s cm.name)
  | secret {s : Store} {secret : Secret} (hsecret : s.secrets[secret.name]? = some secret)
      (horphan : orphaned ownedUIDs secret.labels = true) :
      OrphanStep ownedUIDs s (secrets.remove s secret.name)

/-! ## Frames -/

@[simp] theorem set_configMaps (s : Store) (name : String) (cm : ConfigMap) :
    (configMaps.set s name cm).configMaps = s.configMaps.insert name cm := rfl

@[simp] theorem set_secrets (s : Store) (name : String) (secret : Secret) :
    (secrets.set s name secret).secrets = s.secrets.insert name secret := rfl

@[simp] theorem remove_configMaps (s : Store) (name : String) :
    (configMaps.remove s name).configMaps = s.configMaps.erase name := rfl

@[simp] theorem remove_secrets (s : Store) (name : String) :
    (secrets.remove s name).secrets = s.secrets.erase name := rfl

variable {t : Store} {u g : String} {keep : GoMap String Bool} {acks : AckState} {p q : Publication}
  {ownedUIDs : List String}

theorem storedManifest_congr (h : s.configMaps[manifestName u]? = t.configMaps[manifestName u]?) :
    storedManifest s u = storedManifest t u := by
  rw [storedManifest, storedManifest, h]

theorem storedManifest_of_none (h : s.configMaps[manifestName u]? = none) : storedManifest s u = none := by
  rw [storedManifest, h]
  rfl

theorem storedManifest_set_manifest (s : Store) (u : String) (m : Manifest) :
    storedManifest (configMaps.set s (manifestName u) (manifestConfigMap u m)) u = some m := by
  rw [storedManifest, set_configMaps, GoMap.get_insert_self, Option.bind_some, manifestConfigMap,
    read_manifestData, manifestCodec.unmarshal_marshal]

/-! ## Steps keep the store legitimate -/

namespace Legit

theorem empty : Legit d.sum256 S Store.empty where
  configMaps name cm h := by simp [Store.empty] at h
  secrets name secret h := by simp [Store.empty] at h

theorem set_configMap (h : Legit d.sum256 S s) {cm : ConfigMap}
    (hcm : GeneratedConfigMap d.sum256 S cm) : Legit d.sum256 S (Kube.configMaps.set s cm.name cm) where
  configMaps name x hx := by
    rw [set_configMaps, GoMap.get_insert] at hx
    split_ifs at hx with hn
    · obtain rfl := Option.some.inj hx
      exact ⟨hn, hcm⟩
    · exact h.configMaps name x hx
  secrets := h.secrets

theorem set_secret (h : Legit d.sum256 S s) {secret : Secret}
    (hsecret : GeneratedSecret d.sum256 S secret) :
    Legit d.sum256 S (Kube.secrets.set s secret.name secret) where
  configMaps := h.configMaps
  secrets name x hx := by
    rw [set_secrets, GoMap.get_insert] at hx
    split_ifs at hx with hn
    · obtain rfl := Option.some.inj hx
      exact ⟨hn, hsecret⟩
    · exact h.secrets name x hx

theorem remove_configMap (h : Legit d.sum256 S s) (name : String) :
    Legit d.sum256 S (Kube.configMaps.remove s name) where
  configMaps name' x hx := by
    rw [remove_configMaps, GoMap.get_erase] at hx
    split_ifs at hx
    exact h.configMaps name' x hx
  secrets := h.secrets

theorem remove_secret (h : Legit d.sum256 S s) (name : String) :
    Legit d.sum256 S (Kube.secrets.remove s name) where
  configMaps := h.configMaps
  secrets name' x hx := by
    rw [remove_secrets, GoMap.get_erase] at hx
    split_ifs at hx
    exact h.secrets name' x hx

theorem step (h : Legit d.sum256 S s) (hp : S p)
    (hstep : Step d.sum256 acks p s t) : Legit d.sum256 S t := by
  cases hstep with
  | createConfigMap hcm hnew => exact h.set_configMap (.inl ⟨p, hp, hcm⟩)
  | createSecret hdata hnew => exact h.set_secret ⟨p, hp, hdata, rfl⟩
  | commit hholds =>
    have hcm : ∀ m, GeneratedConfigMap d.sum256 S (manifestConfigMap p.uid.value m) :=
      fun m => .inr ⟨p, m, hp, rfl⟩
    exact h.set_configMap (hcm _)
  | collectConfigMap => exact h.remove_configMap _
  | collectSecret => exact h.remove_secret _

theorem orphanStep (h : Legit d.sum256 S s)
    (hstep : OrphanStep ownedUIDs s t) : Legit d.sum256 S t := by
  cases hstep with
  | configMap => exact h.remove_configMap _
  | secret => exact h.remove_secret _

theorem manifest_at (h : Legit d.sum256 S s) {cm : ConfigMap}
    (hcm : s.configMaps[manifestName u]? = some cm) :
    (∃ p, S p ∧ p.uid.value = u) ∧ ∃ m, cm = manifestConfigMap u m := by
  obtain ⟨hname, ⟨p, -, hp⟩ | ⟨p, m, hp, rfl⟩⟩ := h.configMaps _ cm hcm
  · exact absurd hname (Publication.configMaps_name_ne hp u)
  · have hu : p.uid.value = u := GoString.append_cancel hname
    exact ⟨⟨p, hp, hu⟩, m, by rw [hu]⟩

theorem storedManifest_eq_some (h : Legit d.sum256 S s) {m : Manifest} :
    storedManifest s u = some m ↔ s.configMaps[manifestName u]? = some (manifestConfigMap u m) := by
  constructor
  · intro hm
    rw [storedManifest] at hm
    obtain ⟨cm, hcm, hdec⟩ := Option.bind_eq_some_iff.mp hm
    obtain ⟨-, m', rfl⟩ := h.manifest_at hcm
    rw [manifestConfigMap, read_manifestData, manifestCodec.unmarshal_marshal] at hdec
    rw [hcm, Option.some.inj hdec]
  · intro hcm
    rw [storedManifest, hcm, Option.bind_some, manifestConfigMap, read_manifestData,
      manifestCodec.unmarshal_marshal]

end Legit

/-! ## What steps leave alone -/

theorem superseded_iff {labels : Labels}
    (hu : labels[labelGatewayUID]? = some u) (hg : labels[labelGeneration]? = some g) {v : String} :
    superseded v keep labels = true ↔ u = v ∧ g ≠ "" ∧ GoMap.read keep g false = false := by
  rw [superseded, GoMap.read, hu, GoMap.read, hg, Option.getD_some, Option.getD_some]
  simp [and_assoc]

theorem not_superseded_manifest (u v : String) (keep : GoMap String Bool) :
    superseded v keep (manifestLabels u) = false := by
  rw [superseded, GoMap.read, GoMap.read, manifestLabels_generation, Option.getD_none]
  simp

theorem ackedGenerations_true {b : Bool} (h : (acks.ackedGenerations u)[g]? = some b) : b = true := by
  rw [AckState.ackedGenerations, GoMap.get_setAll_iff] at h
  rcases h with ⟨before, after, hl, -⟩ | ⟨-, he⟩
  · have hm : (g, b) ∈ before ++ (g, b) :: after := by simp
    rw [← hl] at hm
    obtain ⟨pod, -, hpod⟩ := List.mem_filterMap.mp hm
    split at hpod
    · split_ifs at hpod
      exact (Prod.mk.inj (Option.some.inj hpod)).2.symm
    · cases hpod
  · rw [GoMap.get_empty] at he
    cases he

/-- What the collection keeps: the desired generation, its predecessor, and what pods report. -/
theorem keptGenerations_iff {m : Manifest} :
    GoMap.read (keptGenerations acks u m) g false = true ↔ g = m.generation ∨
      m.previous ≠ "" ∧ g = m.previous ∨ GoMap.read (acks.ackedGenerations u) g false = true := by
  simp only [keptGenerations, GoMap.read, GoMap.setAll_toList]
  cases h : (acks.ackedGenerations u)[g]? with
  | some b =>
    obtain rfl := ackedGenerations_true h
    simp
  | none =>
    rw [Option.none_or, Option.getD_none, @eq_comm _ g m.generation, @eq_comm _ g m.previous]
    split_ifs with hp
    · rw [GoMap.get_insert, GoMap.get_insert]
      split_ifs with h1 h2
      · exact iff_of_true rfl (.inr (.inl ⟨hp, h1⟩))
      · exact iff_of_true rfl (.inl h2)
      · simp [h1, h2]
    · rw [GoMap.get_insert]
      split_ifs with h1 <;> simp [h1, not_not.mp hp]

theorem Legit.storedManifest_collect (hs : Legit d.sum256 S s) {cm : ConfigMap} {v : String}
    (hcm : s.configMaps[cm.name]? = some cm)
    (hold : superseded v keep cm.labels = true) (u : String) :
    storedManifest (Kube.configMaps.remove s cm.name) u = storedManifest s u := by
  apply storedManifest_congr
  rw [remove_configMaps, GoMap.get_erase, if_neg]
  intro hn
  obtain ⟨-, m, rfl⟩ := hs.manifest_at (hn ▸ hcm)
  rw [manifestConfigMap, not_superseded_manifest] at hold
  cases hold

theorem Step.storedManifest_eq (hs : Legit d.sum256 S s) (hstep : Step d.sum256 acks p s t) (u : String) :
    storedManifest t u = storedManifest s u ∨ Holds d.sum256 s p ∧ u = p.uid.value ∧
      storedManifest t u = some (p.manifestAfter d.sum256 (storedManifest s u)) := by
  cases hstep with
  | createConfigMap hcm hnew =>
    refine .inl (storedManifest_congr ?_)
    rw [set_configMaps, GoMap.get_insert_of_ne _ _ (Publication.configMaps_name_ne hcm u)]
  | createSecret hdata hnew => exact .inl rfl
  | commit hholds =>
    by_cases hu : u = p.uid.value
    · subst hu
      exact .inr ⟨hholds, rfl, storedManifest_set_manifest ..⟩
    · refine .inl (storedManifest_congr ?_)
      rw [set_configMaps, GoMap.get_insert_of_ne _ _ (manifestName_ne fun he => hu he.symm)]
  | collectConfigMap hm hg hacked hcm hold => exact .inl (hs.storedManifest_collect hcm hold u)
  | collectSecret => exact .inl rfl

def Kept (sum256 : String → String) (acks : AckState) (p q : Publication) (s : Store) : Prop :=
  q.uid = p.uid → ∀ m, storedManifest s p.uid.value = some m → m.generation = p.generation sum256 →
    acks.allAcked p.uid.value m.generation = true →
    GoMap.read (keptGenerations acks p.uid.value m) (q.generation sum256) false = true

theorem Step.keeps_configMap (hstep : Step d.sum256 acks p s t) (hkeep : Kept d.sum256 acks p q s) {x : ConfigMap}
    (hx : x ∈ q.configMaps d.sum256) (hget : s.configMaps[x.name]? = some x) :
    t.configMaps[x.name]? = some x := by
  cases hstep with
  | createConfigMap hcm hnew =>
    rw [set_configMaps, GoMap.get_insert_of_ne, hget]
    intro hn
    rw [hn, hget] at hnew
    cases hnew
  | createSecret hdata hnew => exact hget
  | commit hp =>
    rw [set_configMaps, GoMap.get_insert_of_ne _ _ (Publication.configMaps_name_ne hx _).symm, hget]
  | @collectConfigMap m cm hm hg hacked hcm hold =>
    rw [remove_configMaps, GoMap.get_erase, if_neg, hget]
    intro hn
    -- the collected object would be the one under that name, whose generation is kept
    obtain rfl : x = cm := Option.some.inj (hget.symm.trans (hn ▸ hcm))
    obtain ⟨hu, hgen⟩ := Publication.configMaps_labels hx
    obtain ⟨hup, -, hdrop⟩ := (superseded_iff hu hgen).mp hold
    rw [hkeep (UID.ext_value hup) m hm hg hacked] at hdrop
    cases hdrop
  | collectSecret => exact hget

theorem Holds.step (hholds : Holds d.sum256 s q)
    (hstep : Step d.sum256 acks p s t) (hkeep : Kept d.sum256 acks p q s) : Holds d.sum256 t q := by
  refine ⟨fun x hx => hstep.keeps_configMap hkeep hx (hholds.configMaps x hx), fun hq => ?_⟩
  obtain ⟨secret, hsecret, hlabels, hsum⟩ := hholds.secret hq
  refine ⟨secret, ?_, hlabels, hsum⟩
  cases hstep with
  | createConfigMap => exact hsecret
  | createSecret hdata hnew =>
    rw [set_secrets, GoMap.get_insert_of_ne, hsecret]
    intro hn
    rw [hn, hsecret] at hnew
    cases hnew
  | commit => exact hsecret
  | collectConfigMap => exact hsecret
  | @collectSecret m x hm hg hacked hx hold =>
    rw [remove_secrets, GoMap.get_erase, if_neg, hsecret]
    intro hn
    obtain rfl : secret = x := Option.some.inj (hsecret.symm.trans (hn ▸ hx))
    rw [hlabels] at hold
    obtain ⟨hup, -, hdrop⟩ := (superseded_iff (objectLabels_gatewayUID ..) (objectLabels_generation ..)).mp hold
    rw [hkeep (UID.ext_value hup) m hm hg hacked] at hdrop
    cases hdrop

theorem not_orphaned (ho : u ∈ ownedUIDs) {labels : Labels}
    (hu : labels[labelGatewayUID]? = some u) : orphaned ownedUIDs labels = false := by
  rw [orphaned, GoMap.read, hu, Option.getD_some]
  simp [ho]

theorem OrphanStep.keeps_configMap (hq : q.uid.value ∈ ownedUIDs) (hstep : OrphanStep ownedUIDs s t)
    {x : ConfigMap} (hx : x ∈ q.configMaps d.sum256)
    (hget : s.configMaps[x.name]? = some x) : t.configMaps[x.name]? = some x := by
  cases hstep with
  | @configMap cm hcm horphan =>
    rw [remove_configMaps, GoMap.get_erase, if_neg, hget]
    intro hn
    obtain rfl : x = cm := Option.some.inj (hget.symm.trans (hn ▸ hcm))
    rw [not_orphaned hq (Publication.configMaps_labels hx).1] at horphan
    cases horphan
  | secret => exact hget

theorem Holds.orphanStep (hq : q.uid.value ∈ ownedUIDs)
    (hholds : Holds d.sum256 s q) (hstep : OrphanStep ownedUIDs s t) :
    Holds d.sum256 t q := by
  refine ⟨fun x hx => hstep.keeps_configMap hq hx (hholds.configMaps x hx), fun hdata => ?_⟩
  obtain ⟨x, hx, hlabels, hsum⟩ := hholds.secret hdata
  refine ⟨x, ?_, hlabels, hsum⟩
  cases hstep with
  | configMap => exact hx
  | @secret secret hsecret horphan =>
    rw [remove_secrets, GoMap.get_erase, if_neg, hx]
    intro hn
    obtain rfl : x = secret := Option.some.inj (hx.symm.trans (hn ▸ hsecret))
    rw [hlabels, not_orphaned hq (objectLabels_gatewayUID ..)] at horphan
    cases horphan

theorem OrphanStep.storedManifest_eq (hs : Legit d.sum256 S s)
    (hstep : OrphanStep ownedUIDs s t) (hu : u ∈ ownedUIDs) :
    storedManifest t u = storedManifest s u := by
  cases hstep with
  | @configMap cm hcm horphan =>
    apply storedManifest_congr
    rw [remove_configMaps, GoMap.get_erase, if_neg]
    intro hn
    obtain ⟨-, m, rfl⟩ := hs.manifest_at (hn ▸ hcm)
    rw [manifestConfigMap, not_orphaned hu (manifestLabels_gatewayUID u)] at horphan
    cases horphan
  | secret => rfl

/-! ## The program moves along the steps -/

/-- The objects listed at the start of a pass were written by the control plane. -/
structure GeneratedListing (sum256 : String → String) (S : Publication → Prop) (l : Listing) : Prop where
  configMaps : ∀ cm ∈ l.configMaps, GeneratedConfigMap sum256 S cm
  secrets : ∀ secret ∈ l.secrets, GeneratedSecret sum256 S secret

theorem Legit.listing (h : Legit d.sum256 S s) : GeneratedListing d.sum256 S (listing s) where
  configMaps cm hcm := by
    obtain ⟨⟨name, x⟩, hx, rfl⟩ := List.mem_map.mp (List.mem_filter.mp hcm).1
    exact (h.configMaps name x (GoMap.mem_toList.mp hx)).2
  secrets secret hsecret := by
    obtain ⟨⟨name, x⟩, hx, rfl⟩ := List.mem_map.mp (List.mem_filter.mp hsecret).1
    exact (h.secrets name x (GoMap.mem_toList.mp hx)).2

end Krouter.Publish
