import Krouter.ControlPlane.MergedOutcomes
import Krouter.ControlPlane.Republication

/-! Publishing the same inputs twice. The second run finds every object of the generation, but the
manifest lists the attachments in the order the loop took. -/

namespace Krouter.Idempotence
open Calls Compiled Kube Publish ControlPlane

/-! ## Two orders of one publication -/

/-- The same payloads, visited in any two orders. -/
structure Reordered (p p' : Publication) : Prop where
  uid : p'.uid = p.uid
  gatewayPayload : p'.gatewayPayload = p.gatewayPayload
  attachments : p'.attachments = p.attachments
  secretData : p'.secretData = p.secretData

section
variable {sum256 : String → String} {p p' : Publication} {s t : Store} {acks : AckState} {listed : Listing}

theorem Reordered.generation (h : Reordered p p') : p'.generation sum256 = p.generation sum256 := by
  rw [Publication.generation, Publication.generation, Publication.secretChecksum, Publication.secretChecksum,
    h.gatewayPayload, h.attachments, h.secretData]

theorem Reordered.mem_configMaps (h : Reordered p p') {cm : ConfigMap} :
    cm ∈ p'.configMaps sum256 ↔ cm ∈ p.configMaps sum256 := by
  simp only [Publication.mem_configMaps, Publication.gatewayConfigMap, Publication.attachmentConfigMap,
    h.generation, h.uid, h.gatewayPayload, h.attachments]

theorem Reordered.objects (h : Reordered p p') (ho : Objects sum256 p t) : Objects sum256 p' t where
  configMaps own hown := ho.configMaps own (h.mem_configMaps.mp hown)
  secret hdata := by
    rw [h.uid, h.generation]
    exact ho.secret (h.secretData ▸ hdata)

theorem Reordered.manifestAfter_again (h : Reordered p p') (stored : Option Manifest) :
    p'.manifestAfter sum256 (some (p.manifestAfter sum256 stored)) =
      { p.manifestAfter sum256 stored with objects := (p'.manifest sum256).objects } := by
  have hprevious : previousAfter (p.manifestAfter sum256 stored) (p'.generation sum256) =
      (p.manifestAfter sum256 stored).previous := if_pos h.generation.symm
  rw [Publication.manifestAfter, hprevious]
  simp only [Publication.manifest, h.generation, h.uid, Publication.manifestAfter]

theorem Done.inPlace (hdone : Done sum256 p s t) (h : Reordered p p')
    (hsame : Overlooked s p.uid.value ∨ (p'.manifest sum256).objects = (p.manifest sum256).objects) :
    InPlace sum256 p' t where
  toObjects := h.objects hdone.toObjects
  manifest := by
    rw [h.uid]
    by_cases hoverlooked : Overlooked s p.uid.value
    · obtain ⟨cm, hcm, hrole, hunseen⟩ := hoverlooked
      refine ⟨cm, (hdone.overlooked ⟨cm, hcm, hrole, hunseen⟩).trans hcm, ?_, hrole⟩
      exact equalStringMaps_manifestData_iff.mpr (.inr hunseen)
    · obtain ⟨cm, hcm, hrole, hdata⟩ := hdone.manifest hoverlooked
      have hagain : p'.manifestAfter sum256 (storedManifest t p.uid.value) =
          p.manifestAfter sum256 (storedManifest s p.uid.value) := by
        rw [hdone.storedManifest_eq hoverlooked, h.manifestAfter_again, hsame.resolve_left hoverlooked]
        rfl
      refine ⟨cm, hcm, equalStringMaps_manifestData_iff.mpr (.inl ?_), hrole⟩
      rw [hagain, hdata]

theorem Done.objects_eq (hdone : Done sum256 p s t) (h : Reordered p p') (hoverlooked : ¬ Overlooked s p.uid.value)
    (hplace : InPlace sum256 p' t) : (p'.manifest sum256).objects = (p.manifest sum256).objects := by
  obtain ⟨cm, hcm, -, hdata⟩ := hdone.manifest hoverlooked
  obtain ⟨cm', hcm', hseen, -⟩ := hplace.manifest
  rw [h.uid] at hcm' hseen
  obtain rfl := Option.some.inj (hcm.symm.trans hcm')
  rw [hdata, hdone.storedManifest_eq hoverlooked, h.manifestAfter_again] at hseen
  have hobjects := congrArg Manifest.objects (equalStringMaps_manifestData hseen)
  exact hobjects.symm

theorem Reordered.visit_perm (h : Reordered p p') : p'.visit.Perm p.visit :=
  p'.visit_perm.trans (h.attachments ▸ p.visit_perm.symm)

theorem Reordered.visit_eq (h : Reordered p p')
    (hobjects : (p'.manifest sum256).objects = (p.manifest sum256).objects) :
    p'.visit.map Prod.fst = p.visit.map Prod.fst := by
  have hname : ∀ q : Publication, (q.visit.map (q.attachmentConfigMap sum256)).map
      (ObjectRef.name ∘ Publication.configMapRef sum256) =
      (q.visit.map Prod.fst).map fun route => attachmentName q.uid.value route (q.generation sum256) := by
    intro q
    rw [List.map_map, List.map_map]
    rfl
  have hnames := congrArg (fun objects => (objects.map ObjectRef.name).tail.take p.visit.length) hobjects
  have htake : ∀ q : Publication, q.visit.length = p.visit.length →
      ((q.manifest sum256).objects.map ObjectRef.name).tail.take p.visit.length =
        (q.visit.map Prod.fst).map fun route => attachmentName q.uid.value route (q.generation sum256) := by
    intro q hlength
    rw [← hname, Publication.manifest, Publication.configMaps, List.map_append, List.map_map, List.map_cons,
      List.cons_append, List.tail_cons, List.take_append_of_le_length (by simp [hlength])]
    exact List.take_of_length_le (by simp [hlength])
  rw [htake p' h.visit_perm.length_eq, htake p rfl, h.uid, h.generation] at hnames
  refine List.map_injective_iff.mpr (fun route route' hroute => ?_) hnames
  exact (attachmentName_inj rfl hroute).2.1

theorem visit_keys_nodup (p : Publication) : (p.visit.map Prod.fst).Nodup :=
  (p.visit_perm.map Prod.fst).nodup_iff.mpr (GoMap.toList_keys_nodup p.attachments)

def Single (p : Publication) : Prop := ∀ route payload route' payload', (route, payload) ∈ p.visit →
  (route', payload') ∈ p.visit → route = route'

theorem Reordered.visit_unique (h : Reordered p p') (hone : Single p) : p'.visit = p.visit := by
  have hperm := h.visit_perm
  have hnodup := visit_keys_nodup p
  unfold Single at hone
  generalize p.visit = l at hperm hnodup hone
  match l with
  | [] => exact List.perm_nil.mp hperm
  | [a] => exact List.perm_singleton.mp hperm
  | a :: b :: rest =>
    have hab := hone a.1 a.2 b.1 b.2 (.head _) (.tail _ (.head _))
    rw [List.map_cons, List.map_cons, List.nodup_cons] at hnodup
    exact absurd (hab ▸ List.mem_cons_self) hnodup.1

theorem eq_of_reverse_eq {α : Type} {l : List α} (hnodup : l.Nodup) (h : l.reverse = l) {a b : α} (ha : a ∈ l)
    (hb : b ∈ l) : a = b := by
  match l with
  | [] => cases ha
  | [c] => rw [List.mem_singleton.mp ha, List.mem_singleton.mp hb]
  | c :: d :: rest =>
    have hlast : (d :: rest).getLast (List.cons_ne_nil _ _) = c := by
      have hhead := congrArg List.head? h
      rw [List.head?_reverse, List.getLast?_cons_cons, List.getLast?_eq_some_getLast (List.cons_ne_nil _ _)] at hhead
      exact Option.some.inj hhead
    exact absurd (hlast ▸ List.getLast_mem (List.cons_ne_nil d rest)) (List.nodup_cons.mp hnodup).1

end

/-! ## Publishing twice -/

/-- What `publishGeneration` is called with, the acknowledgements and the listing of the pass included. -/
structure Inputs where
  uid : UID
  gw : Gateway
  infra : InfraParams
  listeners : List ListenerState
  clientCert : BackendClientCert
  outcomes : List RouteOutcome
  acks : AckState
  listed : Listing

namespace Inputs
variable (i : Inputs)

def publication (order : MapOrder) : Publication :=
  publicationOf order i.uid i.gw i.infra i.listeners i.clientCert i.outcomes

def publish (sum256 : String → String) (order : MapOrder) : Api String :=
  publishGeneration sum256 i.acks i.listed (i.publication order)

def afterwards : Inputs :=
  { i with outcomes := merged (compileAttachments i.clientCert i.listeners i.outcomes).routeConfigs [] i.outcomes }

end Inputs

/-- A publication run again returns the same generation unless a read fails, and makes no create and
no update; whatever order each run visits the attachments in. -/
def Idempotent (sum256 : String → String) (i : Inputs) (s : Store) : Prop :=
  ∀ (order order' : MapOrder) (fails fails' : Call → Bool) (generation : String),
    (i.publish sum256 order fails s).result = .ok generation →
    ∀ again ∈ [i, i.afterwards],
      (again.publish sum256 order').Avoids Writes fails' (i.publish sum256 order fails s).store ∧
      ((∀ call : Call, call.verb = .get → fails' call = false) →
        (again.publish sum256 order' fails' (i.publish sum256 order fails s).store).result = .ok generation)

def OneRoute (outcomes : List RouteOutcome) : Prop :=
  ∀ outcome ∈ outcomes, ∀ outcome' ∈ outcomes, ∀ config config', Attaches outcome config →
    Attaches outcome' config' → config.uid = config'.uid

/-- No object that the publication needs is collected at its end. -/
def Inputs.Spares (i : Inputs) (sum256 : String → String) (s : Store) : Prop :=
  ∀ order, Spared sum256 i.acks i.listed (i.publication order) s

def forwards : MapOrder := .sorted

def backwards : MapOrder := ⟨List.reverse, List.reverse_perm⟩

section
variable {sum256 : String → String} {i : Inputs} {s : Store}

theorem compileAttachments_afterwards (i : Inputs) :
    compileAttachments i.clientCert i.listeners i.afterwards.outcomes =
      compileAttachments i.clientCert i.listeners i.outcomes :=
  foldl_merged i.outcomes [] rfl (fun _ _ => ⟨GoMap.get_empty _, GoMap.get_empty _⟩) (fun _ h => (nomatch h)) rfl

theorem reordered_publication (order order' : MapOrder) {again : Inputs} (h : again ∈ [i, i.afterwards]) :
    Reordered (i.publication order) (again.publication order') := by
  have hcompiled : compileAttachments again.clientCert again.listeners again.outcomes =
      compileAttachments i.clientCert i.listeners i.outcomes := by
    rcases List.mem_pair.mp h with rfl | rfl
    · rfl
    · exact compileAttachments_afterwards i
  have hgateway : again.uid = i.uid ∧ again.gw = i.gw ∧ again.infra = i.infra ∧ again.listeners = i.listeners ∧
      again.clientCert = i.clientCert := by
    rcases List.mem_pair.mp h with rfl | rfl <;> exact ⟨rfl, rfl, rfl, rfl, rfl⟩
  obtain ⟨huid, hgw, hinfra, hlisteners, hcert⟩ := hgateway
  constructor
  · exact huid
  · simp only [Inputs.publication, publicationOf, hgw, hinfra, hlisteners, hcert]
  · simp only [Inputs.publication, publicationOf, hcompiled]
  · simp only [Inputs.publication, publicationOf, hcompiled]

theorem single_iff (order : MapOrder) : Single (i.publication order) ↔ OneRoute i.outcomes := by
  have hmem : ∀ uid : String, (∃ payload, (uid, payload) ∈ (i.publication order).visit) ↔
      ∃ outcome ∈ i.outcomes, ∃ config, Attaches outcome config ∧ config.uid = uid := by
    intro uid
    have hkeys := @mem_compileAttachments ⟨∅, tlsSecretData i.clientCert i.listeners⟩ uid i.outcomes
    simp only [GoMap.get_empty, reduceCtorEq, exists_false, false_or] at hkeys
    rw [← hkeys]
    simp only [Publication.mem_visit]
    change (∃ payload, ((compileAttachments i.clientCert i.listeners i.outcomes).routeConfigs.map
      fun _ config => routeConfigCodec.marshal config)[uid]? = some payload) ↔ _
    simp only [GoMap.get_map, Option.map_eq_some_iff]
    exact ⟨fun ⟨_, config, hconfig, _⟩ => ⟨config, hconfig⟩, fun ⟨config, hconfig⟩ => ⟨_, config, hconfig, rfl⟩⟩
  constructor
  · intro hsingle outcome ho outcome' ho' config config' hconfig hconfig'
    obtain ⟨payload, hvisit⟩ := (hmem config.uid).mpr ⟨outcome, ho, config, hconfig, rfl⟩
    obtain ⟨payload', hvisit'⟩ := (hmem config'.uid).mpr ⟨outcome', ho', config', hconfig', rfl⟩
    exact hsingle _ _ _ _ hvisit hvisit'
  · intro hone route payload route' payload' hvisit hvisit'
    obtain ⟨outcome, ho, config, hconfig, rfl⟩ := (hmem route).mp ⟨payload, hvisit⟩
    obtain ⟨outcome', ho', config', hconfig', rfl⟩ := (hmem route').mp ⟨payload', hvisit'⟩
    exact hone outcome ho outcome' ho' config config' hconfig hconfig'

theorem Reordered.objects_eq {p p' : Publication} (h : Reordered p p') (hvisit : p'.visit = p.visit) :
    (p'.manifest sum256).objects = (p.manifest sum256).objects := by
  have hattachment : p'.attachmentConfigMap sum256 = p.attachmentConfigMap sum256 := by
    funext attachment
    rw [Publication.attachmentConfigMap, Publication.attachmentConfigMap, h.generation, h.uid]
  have hconfigMaps : p'.configMaps sum256 = p.configMaps sum256 := by
    simp only [Publication.configMaps, hvisit, hattachment, Publication.gatewayConfigMap, h.generation, h.uid,
      h.gatewayPayload]
  simp only [Publication.manifest, hconfigMaps, h.secretData, h.uid, h.generation, Publication.secretChecksum]

theorem Idempotent.inPlace (h : Idempotent sum256 i s) (order order' : MapOrder) :
    InPlace sum256 (i.publication order') (i.publish sum256 order (fun _ => false) s).store := by
  have hfirst : (i.publish sum256 order (fun _ => false) s).result = .ok _ :=
    publishGeneration_returns (fun _ => rfl) s
  obtain ⟨havoids, hreturns⟩ := h order order' _ (fun _ => false) _ hfirst i (.head _)
  have hrefused := havoids refusing fun call hcall => by
    rw [refusing, decide_eq_false_iff_not]
    exact hcall
  have hok : (publishGeneration sum256 i.acks i.listed (i.publication order') refusing
      (i.publish sum256 order (fun _ => false) s).store).result = _ :=
    (congrArg Run.result hrefused).trans (hreturns fun _ _ => rfl)
  exact inPlace_of_refusing hok

theorem Idempotent.spares (h : Idempotent sum256 i s) : i.Spares sum256 s := by
  intro order
  have hplace := h.inPlace order order
  obtain ⟨manifest, hmanifest, -⟩ := hplace.manifest
  exact spared_of_objects (fun _ => rfl) hplace.toObjects hmanifest

theorem oneRoute_of_inPlace (hspares : i.Spares sum256 s) (hoverlooked : ¬ Overlooked s i.uid.value)
    (hplace : InPlace sum256 (i.publication backwards) (i.publish sum256 forwards (fun _ => false) s).store) :
    OneRoute i.outcomes := by
  have hreordered : Reordered (i.publication forwards) (i.publication backwards) :=
    reordered_publication forwards backwards (.head _)
  have hdone : Done sum256 (i.publication forwards) s (i.publish sum256 forwards (fun _ => false) s).store := by
    have hend := (@publishGeneration_done sum256 (i.publication forwards) s (fun _ => false) i.acks i.listed
      (hspares forwards) s rfl).2
    rw [publishGeneration_returns fun _ => rfl] at hend
    exact hend.2
  have hobjects := hdone.objects_eq hreordered hoverlooked hplace
  have hreversed : ((i.publication forwards).visit.map Prod.fst).reverse =
      (i.publication forwards).visit.map Prod.fst := by
    have hback : (i.publication backwards).visit = (i.publication forwards).visit.reverse := rfl
    rw [← List.map_reverse, ← hback]
    exact hreordered.visit_eq hobjects
  refine (single_iff forwards).mp fun route payload route' payload' hvisit hvisit' => ?_
  exact eq_of_reverse_eq (visit_keys_nodup _) hreversed (List.mem_map_of_mem hvisit) (List.mem_map_of_mem hvisit')

end

/-- Publishing twice is publishing once exactly if nothing that the publication needs is collected, and
at most one route is attached or the stored manifest is one whose drift is overlooked. -/
theorem idempotent_iff (sum256 : String → String) (i : Inputs) (s : Store) :
    Idempotent sum256 i s ↔ i.Spares sum256 s ∧ (OneRoute i.outcomes ∨ Overlooked s i.uid.value) := by
  constructor
  · intro h
    refine ⟨h.spares, ?_⟩
    by_cases hoverlooked : Overlooked s i.uid.value
    · exact Or.inr hoverlooked
    · exact Or.inl (oneRoute_of_inPlace h.spares hoverlooked (h.inPlace forwards backwards))
  · rintro ⟨hspares, hroutes⟩ order order' fails fails' generation hok again hagain
    have hend := (@publishGeneration_done sum256 (i.publication order) s fails i.acks i.listed (hspares order) s rfl).2
    have hreordered := reordered_publication order order' hagain
    rw [Inputs.publish] at hok
    rw [hok] at hend
    obtain ⟨rfl, hdone⟩ := hend
    have hplace : InPlace sum256 (again.publication order') (i.publish sum256 order fails s).store := by
      refine hdone.inPlace hreordered (hroutes.symm.imp_right fun hone => ?_)
      exact hreordered.objects_eq (hreordered.visit_unique ((single_iff order).mpr hone))
    rw [← hreordered.generation]
    exact hplace.publish

/-! A Gateway with two attached routes. -/

def attached (uid : String) : RouteOutcome where
  accepted := true
  acceptedReason := .accepted
  refsResolved := true
  refsReason := .resolvedRefs
  refsMessage := ""
  config := some ⟨uid, "shop", uid, ["web"], [], 0, false, []⟩
  authDocs := ∅

def twoRoutes : Inputs where
  uid := .sample
  gw := Gateway.small [] none
  infra := ⟨[], []⟩
  listeners := []
  clientCert := ⟨none, true, .resolvedRefs, ""⟩
  outcomes := [attached "cart", attached "search"]
  acks := ⟨∅⟩
  listed := ⟨[], []⟩

theorem two_routes_written_again :
    (∃ generation, (twoRoutes.publish Digest.charSum.sum256 forwards (fun _ => false) Store.empty).result =
      .ok generation) ∧
    (∀ generation, (twoRoutes.publish Digest.charSum.sum256 backwards refusing
      (twoRoutes.publish Digest.charSum.sum256 forwards (fun _ => false) Store.empty).store).result ≠
        .ok generation) ∧
    ¬ Idempotent Digest.charSum.sum256 twoRoutes Store.empty := by
  have hspares : twoRoutes.Spares Digest.charSum.sum256 Store.empty := fun _ =>
    ⟨fun _ h => (nomatch h), fun _ h => (nomatch h), fun _ h => (nomatch h)⟩
  have hoverlooked : ¬ Overlooked Store.empty twoRoutes.uid.value := by
    rintro ⟨cm, hcm, -⟩
    rw [show Store.empty.configMaps = ∅ from rfl, GoMap.get_empty] at hcm
    cases hcm
  have htwo : ¬ OneRoute twoRoutes.outcomes := by
    intro hone
    have hsame := hone (attached "cart") List.mem_cons_self (attached "search")
      (List.mem_cons_of_mem _ List.mem_cons_self) _ _ ⟨rfl, by simp⟩ ⟨rfl, by simp⟩
    exact absurd hsame (by decide)
  refine ⟨⟨_, publishGeneration_returns (fun _ => rfl) _⟩, fun generation hok => ?_, fun h => ?_⟩
  · exact htwo (oneRoute_of_inPlace hspares hoverlooked (inPlace_of_refusing hok))
  · exact htwo (oneRoute_of_inPlace hspares hoverlooked (h.inPlace forwards backwards))

end Krouter.Idempotence
