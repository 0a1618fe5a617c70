import Krouter.ControlPlane.Drift
import Krouter.ControlPlane.Protocol

/-! The programs of the control plane refine the publication protocol: their writes are steps of it, and
a publication that returns has committed. -/

namespace Krouter.Idempotence
open Calls Compiled Kube Publish

theorem ensureImmutable_leaves {α : Type} (r : Resource α) {name : String} {object : α} {fails : Call → Bool}
    {R : Store → Store → Prop} (keep : Store → Prop)
    (hnew : fails ⟨.create, r.kind, name⟩ = false → ∀ t, keep t → (r.objects t)[name]? = none →
      R t (r.set t name object) ∧ keep (r.set t name object)) :
    Triple fails R keep (r.ensureImmutable name object)
      (fun _ t => keep t ∧ ∃ stored, (r.objects t)[name]? = some stored)
      (fun _ t => (∃ call, fails call = true) ∧ keep t) := by
  refine r.ensureImmutable_spec (fun _ _ hcall ht => ⟨hcall, ht⟩) (fun _ stored ht h => ⟨ht, stored, h⟩)
    fun hcreate t ht h => ⟨(hnew hcreate t ht h).1, (hnew hcreate t ht h).2, object, ?_⟩
  rw [Resource.set, r.objects_put, GoMap.get_insert_self]

structure Objects (sum256 : String → String) (p : Publication) (s : Store) : Prop where
  configMaps : ∀ own ∈ p.configMaps sum256, ∃ stored, s.configMaps[own.name]? = some stored
  secret : p.secretData.isEmpty = false →
    ∃ stored, s.secrets[tlsSecretName p.uid.value (p.generation sum256)]? = some stored

def writeObjects (sum256 : String → String) (p : Publication) : Api Unit := do
  let uid := p.uid.value
  let generation := p.generation sum256
  ensureImmutableCM (gatewayConfigName uid generation) (objectLabels uid generation roleGatewayCfg)
    p.gatewayPayload
  .forEach p.visit fun attachment =>
    ensureImmutableCM (attachmentName uid attachment.1 generation)
      ((objectLabels uid generation roleAttachment).insert labelSourceUID attachment.1) attachment.2
  if p.secretData.isEmpty then pure ()
  else ensureGeneratedSecret (tlsSecretName uid generation) uid generation p.secretData

variable {sum256 : String → String} {p : Publication} {fails : Call → Bool} {R : Store → Store → Prop}

theorem writeObjects_leaves (keep : Store → Prop)
    (hconfigMaps : ∀ own ∈ p.configMaps sum256, fails ⟨.create, .configMap, own.name⟩ = false → ∀ t, keep t →
      t.configMaps[own.name]? = none → R t (configMaps.set t own.name own) ∧ keep (configMaps.set t own.name own))
    (hsecret : p.secretData.isEmpty = false → fails ⟨.create, .secret, (p.generatedSecret sum256).name⟩ = false →
      ∀ t, keep t → t.secrets[(p.generatedSecret sum256).name]? = none →
        R t (secrets.set t (p.generatedSecret sum256).name (p.generatedSecret sum256)) ∧
          keep (secrets.set t (p.generatedSecret sum256).name (p.generatedSecret sum256))) :
    Triple fails R keep (writeObjects sum256 p) (fun _ t => keep t ∧ Objects sum256 p t)
      (fun _ t => (∃ call, fails call = true) ∧ keep t) := by
  -- the names so far stay taken, since nothing is deleted
  have hone : ∀ own ∈ p.configMaps sum256, ∀ done : List ConfigMap, Triple fails R
      (fun t => keep t ∧ ∀ cm ∈ done, ∃ stored, t.configMaps[cm.name]? = some stored)
      (configMaps.ensureImmutable own.name own)
      (fun _ t => keep t ∧ ∀ cm ∈ done ++ [own], ∃ stored, t.configMaps[cm.name]? = some stored)
      (fun _ t => (∃ call, fails call = true) ∧ keep t) := by
    intro own hown done
    refine (ensureImmutable_leaves configMaps _ ?_).consequence (fun _ h => h) ?_ fun _ _ h => ⟨h.1, h.2.1⟩
    · rintro hcreate t ⟨ht, hdone⟩ hnone
      obtain ⟨hstep, hkeep⟩ := hconfigMaps own hown hcreate t ht hnone
      refine ⟨hstep, hkeep, fun cm hcm => ?_⟩
      rw [set_configMaps, GoMap.get_insert]
      split_ifs
      · exact ⟨own, rfl⟩
      · exact hdone cm hcm
    · rintro _ t ⟨⟨ht, hdone⟩, hstored⟩
      refine ⟨ht, fun cm hcm => ?_⟩
      rcases List.mem_append.mp hcm with hcm | hcm
      · exact hdone cm hcm
      · rw [List.mem_singleton.mp hcm]
        exact hstored
  have hgateway := (hone (p.gatewayConfigMap sum256) (.head _) []).consequence
    (fun _ h => ⟨h, fun _ hcm => (List.not_mem_nil hcm).elim⟩) (fun _ _ h => h) fun _ _ h => h
  refine Triple.bind hgateway fun _ => ?_
  refine Triple.bind (Triple.forEach (fun visited t => keep t ∧
    ∀ cm ∈ p.gatewayConfigMap sum256 :: visited.map (p.attachmentConfigMap sum256),
      ∃ stored, t.configMaps[cm.name]? = some stored) ?_) fun _ => ?_
  · intro before attachment after hl
    have hatt : p.attachmentConfigMap sum256 attachment ∈ p.configMaps sum256 := by
      refine .tail _ (List.mem_map_of_mem ?_)
      rw [hl]
      simp
    rw [List.map_append]
    exact hone _ hatt _
  · split
    next hdata => exact .ret fun t ht => ⟨ht.1, ht.2, fun h => by rw [hdata] at h; cases h⟩
    next hdata =>
      refine (ensureImmutable_leaves secrets _ ?_).consequence (fun _ h => h)
        (fun _ t ht => ⟨ht.1.1, ht.1.2, fun _ => ht.2⟩) fun _ _ h => ⟨h.1, h.2.1⟩
      intro hcreate t ht hnone
      obtain ⟨hstep, hkeep⟩ := hsecret (by simpa using hdata) hcreate t ht.1 hnone
      exact ⟨hstep, hkeep, ht.2⟩

end Krouter.Idempotence

namespace Krouter.Publish
open Calls Compiled Kube Idempotence

variable {d : Digest} {S : Publication → Prop} {fails : Call → Bool}

/-! ## Listed objects -/

theorem GeneratedConfigMap.labels_eq (hS : CollisionFree d.sum256 S) {cm cm' : ConfigMap}
    (h : GeneratedConfigMap d.sum256 S cm) (h' : GeneratedConfigMap d.sum256 S cm')
    (hname : cm.name = cm'.name) : cm.labels = cm'.labels := by
  rcases h with ⟨p, hp, hcm⟩ | ⟨p, m, hp, rfl⟩ <;> rcases h' with ⟨q, hq, hcm'⟩ | ⟨q, m', hq, rfl⟩
  · rw [(hS.configMap_eq hp hq hcm hcm' hname).2.2]
  · exact absurd hname (Publication.configMaps_name_ne hcm _)
  · exact absurd hname.symm (Publication.configMaps_name_ne hcm' _)
  · have hu : p.uid.value = q.uid.value := GoString.append_cancel hname
    rw [hu]
    rfl

theorem GeneratedSecret.labels_eq (hS : CollisionFree d.sum256 S) {secret secret' : Secret}
    (h : GeneratedSecret d.sum256 S secret) (h' : GeneratedSecret d.sum256 S secret')
    (hname : secret.name = secret'.name) : secret.labels = secret'.labels := by
  obtain ⟨p, hp, -, rfl⟩ := h
  obtain ⟨q, hq, -, rfl⟩ := h'
  obtain ⟨hu, hg, -⟩ := hS.secret hp hq hname
  rw [Publication.generatedSecret, Publication.generatedSecret, hu, hg]

variable {l : Listing} {R : Store → Store → Prop} {err : ApiError → Store → Prop}

theorem deleteWhere_configMaps (hS : CollisionFree d.sum256 S)
    (hl : GeneratedListing d.sum256 S l) {pre : Store → Prop} {condition : Labels → Bool}
    (hpre : ∀ s, pre s → Legit d.sum256 S s)
    (hstep : ∀ s (cm : ConfigMap), pre s → s.configMaps[cm.name]? = some cm → condition cm.labels = true →
      R s (configMaps.remove s cm.name) ∧ pre (configMaps.remove s cm.name)) :
    Triple fails R pre
      (configMaps.deleteWhere ConfigMap.name (fun cm => condition cm.labels) l.configMaps)
      (fun _ => pre) err := by
  apply Resource.deleteWhere_spec
  intro cm hcm hc s stored hs hstored
  obtain ⟨hname, hgen⟩ := (hpre s hs).configMaps _ stored hstored
  rw [← hname] at hstored ⊢
  apply hstep s stored hs hstored
  rw [hgen.labels_eq hS (hl.configMaps cm hcm) hname]
  exact hc

theorem deleteWhere_secrets (hS : CollisionFree d.sum256 S)
    (hl : GeneratedListing d.sum256 S l) {pre : Store → Prop} {condition : Labels → Bool}
    (hpre : ∀ s, pre s → Legit d.sum256 S s)
    (hstep : ∀ s (secret : Secret), pre s → s.secrets[secret.name]? = some secret →
      condition secret.labels = true →
      R s (secrets.remove s secret.name) ∧ pre (secrets.remove s secret.name)) :
    Triple fails R pre
      (secrets.deleteWhere Secret.name (fun secret => condition secret.labels) l.secrets)
      (fun _ => pre) err := by
  apply Resource.deleteWhere_spec
  intro secret hsecret hc s stored hs hstored
  obtain ⟨hname, hgen⟩ := (hpre s hs).secrets _ stored hstored
  rw [← hname] at hstored ⊢
  apply hstep s stored hs hstored
  rw [hgen.labels_eq hS (hl.secrets secret hsecret) hname]
  exact hc

theorem gcOrphans_spec (hS : CollisionFree d.sum256 S)
    (hl : GeneratedListing d.sum256 S l) (ownedUIDs : List String) :
    Triple fails (OrphanStep ownedUIDs) (Legit d.sum256 S) (gcOrphans l ownedUIDs)
      (fun _ => Legit d.sum256 S) err := by
  refine Triple.bind (deleteWhere_configMaps hS hl (fun _ h => h) fun s cm hs hcm hc => ?_) fun _ =>
    deleteWhere_secrets hS hl (fun _ h => h) fun s secret hs hsecret hc => ?_
  · exact ⟨.configMap hcm hc, hs.remove_configMap _⟩
  · exact ⟨.secret hsecret hc, hs.remove_secret _⟩

variable {acks : AckState} {p : Publication} {old : Option Manifest}

structure Pending (sum256 : String → String) (S : Publication → Prop) (p : Publication)
    (old : Option Manifest) (s : Store) : Prop where
  legit : Legit sum256 S s
  stored : storedManifest s p.uid.value = old

def Aborted (fails : Call → Bool) (sum256 : String → String) (S : Publication → Prop) (p : Publication)
    (old : Option Manifest) (s : Store) : Prop := (∃ call, fails call = true) ∧ Pending sum256 S p old s

structure Ready (sum256 : String → String) (S : Publication → Prop) (p : Publication)
    (stored : Option Manifest) (s : Store) : Prop extends Pending sum256 S p stored s where
  holds : Holds sum256 s p

theorem holds_of_objects (hS : CollisionFree d.sum256 S) (hp : S p) {s : Store} (hs : Legit d.sum256 S s)
    (h : Objects d.sum256 p s) : Holds d.sum256 s p where
  -- what exists under the name of an object is the object
  configMaps cm hcm := by
    obtain ⟨stored, hstored⟩ := h.configMaps cm hcm
    obtain ⟨hname, ⟨q, hq, hown⟩ | ⟨q, m, -, rfl⟩⟩ := hs.configMaps _ stored hstored
    · rw [hstored, (hS.configMap_eq hq hp hown hcm hname).2.2]
    · exact absurd hname.symm (Publication.configMaps_name_ne hcm _)
  secret hdata := by
    obtain ⟨stored, hstored⟩ := h.secret hdata
    obtain ⟨hname, q, hq, hqdata, rfl⟩ := hs.secrets _ stored hstored
    obtain ⟨hu, hg, hc⟩ := hS.secret hq hp hname
    refine ⟨_, hstored, ?_, ?_⟩
    · rw [Publication.generatedSecret, hu, hg]
    · rw [← hc, Publication.secretChecksum, hqdata]
      rfl

theorem equalStringMaps_manifestData {m m' : Manifest}
    (h : equalStringMaps (manifestData m) (manifestData m') = true) : m = m' := by
  rw [equalStringMaps, Bool.and_eq_true, List.all_eq_true] at h
  have hmem : (manifestKey, manifestCodec.marshal m) ∈ (manifestData m).toList :=
    GoMap.mem_toList.mpr (GoMap.get_insert_self ..)
  have heq := h.2 _ hmem
  rw [beq_iff_eq, read_manifestData] at heq
  exact (manifestCodec.marshal_injective heq).symm

theorem manifestLabels_repaired (u : String) :
    (GoMap.setAll (manifestLabels u) (baseLabels u).toList).insert labelRole roleManifest =
      manifestLabels u := by
  apply Std.ExtTreeMap.ext_getElem?
  intro k
  rw [GoMap.get_insert, GoMap.setAll_toList, manifestLabels, GoMap.get_insert]
  split_ifs with hk
  · rfl
  · rw [Option.or_self]

theorem ensureManifest_spec (hp : S p) :
    Triple fails (Step d.sum256 acks p) (Ready d.sum256 S p old)
      (ensureManifest p.uid.value (p.manifest d.sum256))
      (fun m s => m = p.manifestAfter d.sum256 old ∧ Ready d.sum256 S p (some m) s)
      (fun _ => Aborted fails d.sum256 S p old) := by
  -- both writes are commits, since a stored manifest is what an earlier commit wrote
  have hcommit : ∀ s, Ready d.sum256 S p old s →
      Step d.sum256 acks p s (configMaps.set s (manifestName p.uid.value)
        (manifestConfigMap p.uid.value (p.manifestAfter d.sum256 old))) ∧
      Ready d.sum256 S p (some (p.manifestAfter d.sum256 old))
        (configMaps.set s (manifestName p.uid.value)
          (manifestConfigMap p.uid.value (p.manifestAfter d.sum256 old))) := by
    intro s hs
    have hstep : Step d.sum256 acks p s _ := .commit hs.holds
    rw [hs.stored] at hstep
    exact ⟨hstep, ⟨hs.legit.step hp hstep, storedManifest_set_manifest ..⟩,
      hs.holds.step hstep fun _ m hm hg _ => keptGenerations_iff.mpr (.inl hg.symm)⟩
  have hover : ∀ s cm, Ready d.sum256 S p old s → s.configMaps[manifestName p.uid.value]? = some cm →
      ∃ m, cm = manifestConfigMap p.uid.value m ∧ old = some m ∧
        overwriting cm (p.manifest d.sum256) = p.manifestAfter d.sum256 old := by
    intro s cm hs hcm
    obtain ⟨-, m, rfl⟩ := hs.legit.manifest_at hcm
    have hold : old = some m := hs.stored.symm.trans (hs.legit.storedManifest_eq_some.mpr hcm)
    refine ⟨m, rfl, hold, ?_⟩
    simp only [overwriting, manifestConfigMap, read_manifestData, manifestCodec.unmarshal_marshal, hold]
    rfl
  rw [ensureManifest_eq]
  refine configMaps.ensure_spec (fun _ s hcall hs => ⟨hcall, hs.toPending⟩) (fun _ s hs hnone => ?_)
    (fun s cm hs hcm hskip => ?_) fun _ s cm changed hs hcm hwrite => ?_
  · have hnew : p.manifestAfter d.sum256 old = p.manifest d.sum256 := by
      rw [← hs.stored, storedManifest_of_none hnone]
      rfl
    rw [hnew] at hcommit ⊢
    exact ⟨(hcommit s hs).1, rfl, (hcommit s hs).2⟩
  · -- nothing to write: the stored manifest is the new one
    obtain ⟨m, rfl, hold, hafter⟩ := hover s cm hs hcm
    rw [hafter] at hskip
    have hseen : Idempotence.Seen (manifestConfigMap p.uid.value m) (p.manifestAfter d.sum256 old) := by
      simpa using hskip
    refine ⟨hafter, ?_⟩
    change Ready d.sum256 S p (some (overwriting _ _)) s
    rw [hafter, ← equalStringMaps_manifestData hseen.1, ← hold]
    exact hs
  · obtain ⟨m, rfl, -, hafter⟩ := hover s cm hs hcm
    rw [hafter] at hwrite
    obtain rfl : manifestConfigMap p.uid.value (p.manifestAfter d.sum256 old) = changed := by
      have hrepaired : Idempotence.repaired p.uid.value (manifestConfigMap p.uid.value m)
          (p.manifestAfter d.sum256 old) = manifestConfigMap p.uid.value (p.manifestAfter d.sum256 old) := by
        rw [Idempotence.repaired]
        simp only [manifestConfigMap, manifestLabels_repaired]
      split at hwrite
      · cases hwrite
      · exact hrepaired.symm.trans (Option.some.inj hwrite)
    refine ⟨(hcommit s hs).1, hafter, ?_⟩
    change Ready d.sum256 S p (some (overwriting _ _)) _
    rw [hafter]
    exact (hcommit s hs).2

theorem gcGenerations_spec (hS : CollisionFree d.sum256 S) (hp : S p) {l : Listing}
    (hl : GeneratedListing d.sum256 S l) {err : ApiError → Store → Prop} {m : Manifest}
    (hm : m.generation = p.generation d.sum256) :
    Triple fails (Step d.sum256 acks p) (Ready d.sum256 S p (some m))
      (gcGenerations acks l p.uid.value m) (fun _ => Ready d.sum256 S p (some m)) err := by
  have hready : ∀ s t, Ready d.sum256 S p (some m) s → Step d.sum256 acks p s t →
      storedManifest t p.uid.value = storedManifest s p.uid.value →
      Ready d.sum256 S p (some m) t := by
    intro s t hs hstep hst
    refine ⟨⟨hs.legit.step hp hstep, hst.trans hs.stored⟩, hs.holds.step hstep fun _ m' hm' hg _ => ?_⟩
    exact keptGenerations_iff.mpr (.inl hg.symm)
  rw [gcGenerations]
  split
  next hacked =>
    refine Triple.bind (deleteWhere_configMaps hS hl (fun _ h => h.legit) fun s cm hs hcm hc => ?_)
      fun _ => deleteWhere_secrets hS hl (fun _ h => h.legit) fun s secret hs hsecret hc => ?_
    · have hstep : Step d.sum256 acks p s _ := .collectConfigMap hs.stored hm hacked hcm hc
      exact ⟨hstep, hready s _ hs hstep (hs.legit.storedManifest_collect hcm hc _)⟩
    · have hstep : Step d.sum256 acks p s _ := .collectSecret hs.stored hm hacked hsecret hc
      exact ⟨hstep, hready s _ hs hstep rfl⟩
  · exact .ret fun _ h => h

def writeGeneration (sum256 : String → String) (p : Publication) : Api Manifest :=
  writeObjects sum256 p >>= fun _ => ensureManifest p.uid.value (p.manifest sum256)

theorem publishGeneration_eq (sum256 : String → String) (l : Listing) :
    publishGeneration sum256 acks l p = writeGeneration sum256 p >>= fun manifest =>
      gcGenerations acks l p.uid.value manifest >>= fun _ => pure (p.generation sum256) := by
  simp only [writeGeneration, writeObjects, Program.bind_assoc]
  rfl

theorem writeGeneration_spec (hS : CollisionFree d.sum256 S) (hp : S p) :
    Triple fails (Step d.sum256 acks p) (Pending d.sum256 S p old) (writeGeneration d.sum256 p)
      (fun m s => m = p.manifestAfter d.sum256 old ∧ Ready d.sum256 S p (some m) s)
      (fun _ => Aborted fails d.sum256 S p old) := by
  rw [writeGeneration]
  have hobjects : Triple fails (Step d.sum256 acks p) (Pending d.sum256 S p old) (writeObjects d.sum256 p)
      (fun _ s => Pending d.sum256 S p old s ∧ Objects d.sum256 p s) (fun _ => Aborted fails d.sum256 S p old) := by
    refine writeObjects_leaves _ (fun cm hcm _ s hs hnone => ?_) fun hdata _ s hs hnone => ?_
    · have hstep : Step d.sum256 acks p s (configMaps.set s cm.name cm) := .createConfigMap hcm hnone
      refine ⟨hstep, hs.legit.step hp hstep, ?_⟩
      rw [← hs.stored]
      apply storedManifest_congr
      rw [set_configMaps, GoMap.get_insert_of_ne _ _ (Publication.configMaps_name_ne hcm _)]
    · have hstep : Step d.sum256 acks p s (secrets.set s _ _) := .createSecret hdata hnone
      exact ⟨hstep, hs.legit.step hp hstep, hs.stored⟩
  exact (hobjects.consequence (fun _ h => h)
    (fun _ _ h => (⟨h.1, holds_of_objects hS hp h.1.legit h.2⟩ : Ready d.sum256 S p old _)) fun _ _ h => h).bind
      fun _ => ensureManifest_spec hp

theorem publishGeneration_spec (hS : CollisionFree d.sum256 S) (hp : S p) {l : Listing}
    (hl : GeneratedListing d.sum256 S l) :
    Triple fails (Step d.sum256 acks p) (Pending d.sum256 S p old)
      (publishGeneration d.sum256 acks l p)
      (fun generation s => generation = p.generation d.sum256 ∧
        Ready d.sum256 S p (some (p.manifestAfter d.sum256 old)) s)
      (fun _ => Aborted fails d.sum256 S p old) := by
  rw [publishGeneration_eq]
  refine Triple.bind (writeGeneration_spec hS hp) fun m => Triple.assuming fun s hs => ?_
  rw [hs.1]
  exact Triple.bind ((gcGenerations_spec hS hp hl rfl).consequence (fun _ h => h.2) (fun _ _ h => h)
    fun _ _ h => h) fun _ => .ret fun _ h => ⟨rfl, h⟩

end Krouter.Publish
