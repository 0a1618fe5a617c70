import Krouter.ControlPlane.Refinement
import Krouter.ControlPlane.Sync

/-! Atomic publication over whole runs: the manifest of an owned Gateway always lists objects that are
there, its own, and have the content that it names. -/

namespace Krouter.Sync
open Calls Compiled Kube Publish

variable {d : Digest} {S : Publication → Prop} {pass : Pass}

/-! ## A pass as a path -/

inductive PassStep (sum256 : String → String) (pass : Pass) : Store → Store → Prop
  | publish {s t : Store} {p : Publication} (hp : p ∈ pass.publications)
      (hstep : Step sum256 pass.acks p s t) : PassStep sum256 pass s t
  | frontend {s : Store} {request : Frontend.Request} {svc : FrontendService}
      (hwork : ∃ w ∈ pass.work, w.frontend = some request)
      (hsvc : svc.toService = Frontend.desiredService request.gw request.service.annotations
        request.portMapJSON) :
      PassStep sum256 pass s (services.set s request.serviceName svc)
  | orphan {s t : Store} (hstep : OrphanStep pass.ownedUIDs s t) : PassStep sum256 pass s t

variable {p : Publication} {s : Store} {u : String}

theorem mem_publications : p ∈ pass.publications ↔ ∃ w ∈ pass.work, w.publication = some p := List.mem_filterMap

theorem uid_mem_ownedUIDs (h : p ∈ pass.publications) : p.uid.value ∈ pass.ownedUIDs := by
  obtain ⟨w, hw, hp⟩ := mem_publications.mp h
  exact List.mem_map.mpr ⟨w, hw, by rw [w.owner p hp]⟩

theorem ensureFrontend_spec {fails : Call → Bool} {request : Frontend.Request}
    (hwork : ∃ w ∈ pass.work, w.frontend = some request) {err : ApiError → Store → Prop}
    (herr : ∀ e s, Legit d.sum256 S s → err e s) :
    Triple fails (PassStep d.sum256 pass) (Legit d.sum256 S) (Frontend.ensureFrontend request)
      (fun _ => Legit d.sum256 S) err := by
  have hset : ∀ s svc, Legit d.sum256 S s → Legit d.sum256 S (services.set s request.serviceName svc) :=
    fun s svc hs => ⟨hs.configMaps, hs.secrets⟩
  rw [ensureFrontend_eq]
  refine services.ensure_spec (fun e s _ hs => herr e s hs) (fun _ s hs _ => ⟨.frontend hwork rfl, hset s _ hs⟩)
    (fun _ _ hs _ _ => hs) fun _ s _ _ hs _ hwrite => ⟨.frontend hwork ?_, hset s _ hs⟩
  split at hwrite
  · cases hwrite
  · rw [← Option.some.inj hwrite]
    rfl

theorem reconcileGateway_spec {fails : Call → Bool} (hS : CollisionFree d.sum256 S)
    (hpubs : ∀ p ∈ pass.publications, S p) {l : Listing} (hl : GeneratedListing d.sum256 S l)
    {w : Work} (hw : w ∈ pass.work) {err : ApiError → Store → Prop} :
    Triple fails (PassStep d.sum256 pass) (Legit d.sum256 S)
      (reconcileGateway d.sum256 pass.acks l w) (fun _ => Legit d.sum256 S) err := by
  rw [reconcileGateway]
  cases hpub : w.publication with
  | none => exact .ret fun _ h => h
  | some p =>
    have hp : p ∈ pass.publications := mem_publications.mpr ⟨w, hw, hpub⟩
    have hpublish : Triple fails (PassStep d.sum256 pass) (Legit d.sum256 S)
        (publishGeneration d.sum256 pass.acks l p) (fun _ => Legit d.sum256 S)
        (fun _ => Legit d.sum256 S) := by
      refine Triple.sharpen fun s hs =>
        ⟨Pending d.sum256 S p (storedManifest s p.uid.value), ⟨hs, rfl⟩, ?_⟩
      exact ((publishGeneration_spec hS (hpubs p hp) hl).steps_mono fun _ _ => .publish hp).consequence
        (fun _ h => h) (fun _ _ h => h.2.legit) fun _ _ h => h.2.legit
    refine Triple.bind hpublish.attempt fun result => ?_
    cases result with
    | error e => exact .ret fun _ h => h
    | ok generation =>
      cases hfront : w.frontend with
      | none => exact .ret fun _ h => h
      | some request =>
        refine Triple.bind (ensureFrontend_spec ⟨w, hw, hfront⟩ fun _ _ h => h).attempt fun result => ?_
        cases result with
        | error e => exact .ret fun _ h => h
        | ok _ => exact .ret fun _ h => h

theorem runPass_path (hS : CollisionFree d.sum256 S) (hpubs : ∀ p ∈ pass.publications, S p)
    (hs : Legit d.sum256 S s) :
    Path (PassStep d.sum256 pass) (release s pass.released) (runPass d.sum256 s pass).visited
      (runPass d.sum256 s pass).store := by
  have hfound : Legit d.sum256 S (release s pass.released) := ⟨hs.configMaps, hs.secrets⟩
  have hsync : Triple pass.fails (PassStep d.sum256 pass) (Legit d.sum256 S)
      (sync d.sum256 pass.acks (listing (release s pass.released)) pass.work pass.ownedUIDs)
      (fun _ => Legit d.sum256 S) (fun _ _ => True) := by
    refine Triple.bind (Triple.forEach (fun _ => Legit d.sum256 S) fun before w after hw => ?_) fun _ => ?_
    · exact reconcileGateway_spec hS hpubs hfound.listing (by rw [hw]; simp)
    · exact (gcOrphans_spec hS hfound.listing pass.ownedUIDs).steps_mono fun _ _ => .orphan
  exact (hsync _ hfound).1

/-! ## Commitment -/

/-- The stored manifest is one of a publication whose objects are all there. -/
def Committed (sum256 : String → String) (S : Publication → Prop) (u : String) (s : Store) : Prop :=
  ∀ m, storedManifest s u = some m → ∃ p previous, S p ∧ p.uid.value = u ∧
    m = { p.manifest sum256 with previous := previous } ∧ Holds sum256 s p

theorem Committed.publish {acks : AckState} (hp : S p) {s t : Store} (hs : Legit d.sum256 S s)
    (h : Committed d.sum256 S u s) (hstep : Step d.sum256 acks p s t) : Committed d.sum256 S u t := by
  intro m hm
  rcases hstep.storedManifest_eq hs u with hsame | ⟨hholds, rfl, hnew⟩
  · obtain ⟨q, previous, hq, rfl, rfl, hholds⟩ := h m (hsame ▸ hm)
    refine ⟨q, previous, hq, rfl, rfl, hholds.step hstep fun hu m' hm' hg _ => ?_⟩
    -- the collection keeps the generation of the stored manifest, which is the one of `q`
    rw [← hu, ← hsame, hm] at hm'
    obtain rfl := Option.some.inj hm'
    exact keptGenerations_iff.mpr (.inl rfl)
  · obtain rfl := Option.some.inj (hnew.symm.trans hm)
    exact ⟨p, _, hp, rfl, rfl, hholds.step hstep fun _ m' _ hg _ => keptGenerations_iff.mpr (.inl hg.symm)⟩

theorem Committed.passStep (hpubs : ∀ p ∈ pass.publications, S p)
    (hown : u ∈ pass.ownedUIDs ∨ ∀ p, S p → p.uid.value ≠ u) {s t : Store} (hs : Legit d.sum256 S s)
    (h : Committed d.sum256 S u s) (hstep : PassStep d.sum256 pass s t) :
    Legit d.sum256 S t ∧ Committed d.sum256 S u t := by
  cases hstep with
  | publish hp hstep => exact ⟨hs.step (hpubs _ hp) hstep, h.publish (hpubs _ hp) hs hstep⟩
  | frontend hwork hsvc =>
    refine ⟨⟨hs.configMaps, hs.secrets⟩, fun m hm => ?_⟩
    obtain ⟨q, previous, hq, hu, rfl, hholds⟩ := h m hm
    exact ⟨q, previous, hq, hu, rfl, hholds.configMaps, hholds.secret⟩
  | orphan hstep =>
    have ht := hs.orphanStep hstep
    refine ⟨ht, fun m hm => ?_⟩
    rcases hown with hown | hnone
    · rw [hstep.storedManifest_eq hs hown] at hm
      obtain ⟨q, previous, hq, rfl, rfl, hholds⟩ := h m hm
      exact ⟨q, previous, hq, rfl, rfl, hholds.orphanStep hown hstep⟩
    · obtain ⟨⟨p, hp, hu⟩, -⟩ := ht.manifest_at (ht.storedManifest_eq_some.mp hm)
      exact absurd hu (hnone p hp)

/-! ## Runs -/

def Published (passes : List Pass) (p : Publication) : Prop := p ∈ passes.flatMap Pass.publications

/-- Once owned, the Gateway is owned by every later pass. -/
def ContinuouslyOwned (u : String) (passes : List Pass) : Prop :=
  passes.Pairwise fun earlier later => u ∈ earlier.ownedUIDs → u ∈ later.ownedUIDs

/-- The object of a reference is there, the Gateway's own, with the referenced content. -/
def RefPresent (sum256 : String → String) (s : Store) (u : String) (ref : ObjectRef) : Prop :=
  (ref.kind = objectKindConfigMap ∧ ∃ cm, s.configMaps[ref.name]? = some cm ∧
    cm.labels[labelGatewayUID]? = some u ∧
    checksumBytes sum256 (GoMap.read cm.data dataKey "") = ref.checksum) ∨
  (ref.kind = objectKindSecret ∧ ∃ secret, s.secrets[ref.name]? = some secret ∧
    secret.labels[labelGatewayUID]? = some u ∧ checksumSecret sum256 secret.data = ref.checksum)

/-- The manifest ConfigMap, if there is one, decodes to a manifest whose references are all
present. -/
def Complete (sum256 : String → String) (s : Store) (u : String) : Prop :=
  ∀ cm, s.configMaps[manifestName u]? = some cm → ∃ m,
    manifestCodec.unmarshal (GoMap.read cm.data manifestKey "") = some m ∧
      ∀ ref ∈ m.objects, RefPresent sum256 s u ref

theorem refPresent_of_holds (h : Holds d.sum256 s p) {ref : ObjectRef} (href : ref ∈ (p.manifest d.sum256).objects) :
    RefPresent d.sum256 s p.uid.value ref := by
  rcases List.mem_append.mp href with hmap | hsecret
  · obtain ⟨cm, hcm, rfl⟩ := List.mem_map.mp hmap
    exact .inl ⟨rfl, cm, h.configMaps cm hcm, (Publication.configMaps_labels hcm).1, rfl⟩
  · split at hsecret
    · cases hsecret
    next hdata =>
      obtain rfl := List.mem_singleton.mp hsecret
      obtain ⟨secret, hs, hlabels, hsum⟩ := h.secret (by simpa using hdata)
      exact .inr ⟨rfl, secret, hs, by rw [hlabels, objectLabels_gatewayUID], hsum⟩

theorem Committed.complete (hs : Legit d.sum256 S s) (h : Committed d.sum256 S u s) : Complete d.sum256 s u := by
  intro cm hcm
  obtain ⟨-, m, rfl⟩ := hs.manifest_at hcm
  refine ⟨m, by rw [manifestConfigMap, read_manifestData, manifestCodec.unmarshal_marshal], fun ref href => ?_⟩
  obtain ⟨p, previous, -, rfl, rfl, hholds⟩ := h m (hs.storedManifest_eq_some.mpr hcm)
  exact refPresent_of_holds hholds href

theorem Legit.mono {S' : Publication → Prop} (hSS' : ∀ p, S p → S' p) (h : Legit d.sum256 S s) :
    Legit d.sum256 S' s where
  configMaps name cm hcm := by
    obtain ⟨hname, ⟨p, hp, hcm⟩ | ⟨p, m, hp, hcm⟩⟩ := h.configMaps name cm hcm
    · exact ⟨hname, .inl ⟨p, hSS' p hp, hcm⟩⟩
    · exact ⟨hname, .inr ⟨p, m, hSS' p hp, hcm⟩⟩
  secrets name secret hsecret := by
    obtain ⟨hname, p, hp, hrest⟩ := h.secrets name secret hsecret
    exact ⟨hname, p, hSS' p hp, hrest⟩

theorem Committed.mono {S' : Publication → Prop} (hSS' : ∀ p, S p → S' p) (h : Committed d.sum256 S u s) :
    Committed d.sum256 S' u s := by
  intro m hm
  obtain ⟨p, previous, hp, hrest⟩ := h m hm
  exact ⟨p, previous, hSS' p hp, hrest⟩

theorem runPass_committed (hS : CollisionFree d.sum256 S) (hpubs : ∀ p ∈ pass.publications, S p)
    (hown : u ∈ pass.ownedUIDs ∨ ∀ p, S p → p.uid.value ≠ u) (hs : Legit d.sum256 S s)
    (h : Committed d.sum256 S u s) :
    ∀ t ∈ release s pass.released :: (runPass d.sum256 s pass).visited ++ [(runPass d.sum256 s pass).store],
      Legit d.sum256 S t ∧ Committed d.sum256 S u t := by
  have hfound : Legit d.sum256 S (release s pass.released) ∧
      Committed d.sum256 S u (release s pass.released) := by
    refine ⟨⟨hs.configMaps, hs.secrets⟩, fun m hm => ?_⟩
    obtain ⟨p, previous, hp, hu, hm, hholds⟩ := h m hm
    exact ⟨p, previous, hp, hu, hm, hholds.configMaps, hholds.secret⟩
  obtain ⟨hvisited, hend⟩ := (runPass_path hS hpubs hs).invariant
    (fun t => Legit d.sum256 S t ∧ Committed d.sum256 S u t) (fun _ _ hinv hstep => hinv.2.passStep hpubs hown hinv.1 hstep) hfound
  intro t ht
  simp only [List.cons_append, List.mem_cons, List.mem_append, List.not_mem_nil, or_false] at ht
  rcases ht with rfl | ht | rfl
  · exact hfound
  · exact hvisited t ht
  · exact hend

theorem run_complete {passes : List Pass} (before : List Pass)
    (hfree : CollisionFree d.sum256 (Published (before ++ passes))) (hown : ContinuouslyOwned u (before ++ passes))
    (hs : Legit d.sum256 (Published before) s) (h : Committed d.sum256 (Published before) u s) :
    ∀ t ∈ (run d.sum256 s passes).2, Complete d.sum256 t u := by
  induction passes generalizing before s with
  | nil => exact fun t ht => (List.not_mem_nil ht).elim
  | cons pass passes ih =>
    rw [List.append_cons] at hfree hown
    have hsub : ∀ p, Published before p → Published (before ++ [pass]) p := by
      intro p hp
      rw [Published, List.flatMap_append]
      exact List.mem_append_left _ hp
    have hpubs : ∀ p ∈ pass.publications, Published (before ++ [pass]) p := by
      intro p hp
      rw [Published, List.flatMap_append]
      exact List.mem_append_right _ (by simpa using hp)
    have hfree' : CollisionFree d.sum256 (Published (before ++ [pass])) := by
      intro p q hp hq
      apply hfree p q <;> rw [Published, List.flatMap_append]
      · exact List.mem_append_left _ hp
      · exact List.mem_append_left _ hq
    have hnow : u ∈ pass.ownedUIDs ∨ ∀ p, Published (before ++ [pass]) p → p.uid.value ≠ u := by
      refine or_iff_not_imp_left.mpr fun hu p hp hpu => hu ?_
      obtain ⟨q, hq, hp⟩ := List.mem_flatMap.mp hp
      have howner := hpu ▸ uid_mem_ownedUIDs hp
      rcases List.mem_append.mp hq with hq | hq
      · have hpair := (List.pairwise_append.mp (List.pairwise_append.mp hown).1).2.2
        exact hpair q hq pass (List.mem_singleton.mpr rfl) howner
      · rw [← List.mem_singleton.mp hq]
        exact howner
    have hpass := runPass_committed hfree' hpubs hnow (Legit.mono hsub hs) (h.mono hsub)
    intro t ht
    rw [run, List.mem_append] at ht
    rcases ht with ht | ht
    · obtain ⟨hlegit, hcommitted⟩ := hpass t (List.mem_append_left _ ht)
      exact hcommitted.complete hlegit
    · obtain ⟨hlegit, hcommitted⟩ := hpass _ (List.mem_append_right _ (List.mem_singleton.mpr rfl))
      exact ih (before ++ [pass]) hfree hown hlegit hcommitted t ht

/-- In every run from an empty system namespace, whatever is published and whatever calls
fail, the manifest of a continuously owned Gateway is complete at every step. -/
theorem manifest_complete_at_every_step (d : Digest) (passes : List Pass)
    (hfree : CollisionFree d.sum256 (Published passes)) (u : UID)
    (hown : ContinuouslyOwned u.value passes) :
    ∀ s ∈ (run d.sum256 Store.empty passes).2, Complete d.sum256 s u.value :=
  run_complete [] hfree hown .empty fun m hm => by
    rw [storedManifest_of_none (GoMap.get_empty _)] at hm
    cases hm

/-! A Gateway that goes back to its first configuration after a collection that could not
delete all of it. -/

def shopUID : UID := .sample

def shopPublication (payload : String) (secretData : GoMap String String) : Publication where
  uid := shopUID
  gatewayPayload := payload
  attachments := (∅ : GoMap String String).insert "route" "rules"
  secretData := secretData
  visit := [("route", "rules")]
  visit_perm := by decide

def firstVersion : Publication :=
  shopPublication "first" ((∅ : GoMap String String).insert "web.tls.crt" "pem")

def secondVersion : Publication := shopPublication "second" ∅

def thirdVersion : Publication := shopPublication "third" ∅

def podReporting (generation : String) : AckState :=
  ⟨(∅ : GoMap String PodAck).insert "krouter-0"
    ⟨true, (∅ : GoMap String GatewayAck).insert shopUID.value ⟨generation⟩⟩⟩

def shopPass (p : Publication) (hp : p.uid = shopUID) (acks : AckState) (fails : Call → Bool) : Pass where
  work := [⟨shopUID, some p, fun _ hq => Option.some.inj hq ▸ hp, none⟩]
  acks := acks
  fails := fails
  released := []

def revertPasses : List Pass :=
  [shopPass firstVersion rfl ⟨∅⟩ fun _ => false,
   shopPass secondVersion rfl ⟨∅⟩ fun call => call.verb = .update,
   shopPass secondVersion rfl ⟨∅⟩ fun _ => false,
   shopPass thirdVersion rfl ⟨∅⟩ fun _ => false,
   shopPass thirdVersion rfl (podReporting (thirdVersion.generation Digest.charSum.sum256))
     fun call => call.verb = .delete && call.kind = .secret,
   shopPass firstVersion rfl ⟨∅⟩ fun _ => false]

theorem revertPasses_collisionFree :
    CollisionFree Digest.charSum.sum256 (Published revertPasses) := by
  have hall : ∀ p ∈ revertPasses.flatMap Pass.publications,
      ∀ q ∈ revertPasses.flatMap Pass.publications, p.uid = q.uid →
      p.generation Digest.charSum.sum256 = q.generation Digest.charSum.sum256 →
      p.gatewayPayload = q.gatewayPayload ∧ p.attachments = q.attachments ∧
        p.secretChecksum Digest.charSum.sum256 = q.secretChecksum Digest.charSum.sum256 := by
    decide +kernel
  exact fun p q hp hq => hall p hp q hq

theorem revertPasses_owned : ContinuouslyOwned shopUID.value revertPasses := by
  refine List.pairwise_of_forall_mem_list fun p _ q hq _ => ?_
  simp only [revertPasses, List.mem_cons, List.not_mem_nil, or_false] at hq
  rcases hq with rfl | rfl | rfl | rfl | rfl | rfl <;> exact List.mem_singleton.mpr rfl

theorem revert_complete_at_every_step :
    (run Digest.charSum.sum256 Store.empty (revertPasses.take 1)).1.configMaps.contains
      (manifestName shopUID.value) = true ∧
    ∀ s ∈ (run Digest.charSum.sum256 Store.empty revertPasses).2,
      Complete Digest.charSum.sum256 s shopUID.value :=
  ⟨by decide +kernel, manifest_complete_at_every_step Digest.charSum revertPasses
    revertPasses_collisionFree shopUID revertPasses_owned⟩

end Krouter.Sync
