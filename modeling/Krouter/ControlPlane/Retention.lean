import Krouter.ControlPlane.Republication
import Mathlib.Data.List.Induction

/-! Which generations survive the collection, over whole runs of one Gateway. The manifest remembers one
predecessor only, programmed or not. -/

namespace Krouter.Publish
open Calls Compiled Kube

variable {d : Digest} {S : Publication → Prop} {acks : AckState} {p q : Publication} {s : Store}

/-! ## What one publication keeps -/

theorem previousAfter_of_eq {m : Manifest} {g : String} (h : m.generation = g) : previousAfter m g = m.previous :=
  if_pos h

theorem previousAfter_of_ne {m : Manifest} {g : String} (h : m.generation ≠ g) : previousAfter m g = m.generation :=
  if_neg h

theorem manifestAfter_previous (sum256 : String → String) (p : Publication) (m : Manifest) :
    (p.manifestAfter sum256 (some m)).previous = previousAfter m (p.generation sum256) := rfl

theorem manifestAfter_again (sum256 : String → String) (p : Publication) (old : Option Manifest) :
    p.manifestAfter sum256 (some (p.manifestAfter sum256 old)) = p.manifestAfter sum256 old := by
  have hprevious : previousAfter (p.manifestAfter sum256 old) (p.generation sum256) =
      (p.manifestAfter sum256 old).previous := previousAfter_of_eq rfl
  have hsome : ∀ m, p.manifestAfter sum256 (some m) =
      { p.manifest sum256 with previous := previousAfter m (p.generation sum256) } := fun _ => rfl
  rw [hsome, hprevious]
  rfl

theorem Holds.path (hp : S p) {visited : List Store} {t : Store} (hs : Legit d.sum256 S s)
    (hq : Holds d.sum256 s q) (hpath : Path (Step d.sum256 acks p) s visited t)
    (hkeep : acks.allAcked p.uid.value (p.generation d.sum256) = true →
      GoMap.read (keptGenerations acks p.uid.value
        (p.manifestAfter d.sum256 (storedManifest s p.uid.value))) (q.generation d.sum256) false = true) :
    Holds d.sum256 t q := by
  generalize hold : storedManifest s p.uid.value = old at hkeep
  have hinv := hpath.invariant (fun t => Legit d.sum256 S t ∧ Holds d.sum256 t q ∧
    (storedManifest t p.uid.value = old ∨
      storedManifest t p.uid.value = some (p.manifestAfter d.sum256 old))) ?_ ⟨hs, hq, .inl hold⟩
  · exact hinv.2.2.1
  · intro t t' ⟨ht, hholds, hstored⟩ hstep
    refine ⟨ht.step hp hstep, hholds.step hstep fun _ m hm hg hacked => ?_, ?_⟩
    · rw [hg] at hacked
      have hkept := hkeep hacked
      rcases hstored with hstored | hstored
      · -- the manifest of an earlier publication of the same generation has the same predecessor
        have hsame : (p.manifestAfter d.sum256 old).previous = m.previous := by
          rw [← hstored, hm]
          exact previousAfter_of_eq hg
        rw [keptGenerations_iff] at hkept ⊢
        rwa [hsame, show (p.manifestAfter d.sum256 old).generation = m.generation from hg.symm] at hkept
      · rw [hstored] at hm
        rwa [← Option.some.inj hm]
    · rcases hstep.storedManifest_eq ht p.uid.value with hsame | ⟨-, -, hnew⟩
      · rwa [hsame]
      · right
        rcases hstored with hstored | hstored
        · rw [hnew, hstored]
        · rw [hnew, hstored, manifestAfter_again]

section
variable {fails : Call → Bool} {l : Listing}

theorem publishGeneration_keeps (hS : CollisionFree d.sum256 S) (hp : S p)
    (hl : GeneratedListing d.sum256 S l) (hs : Legit d.sum256 S s) (hq : Holds d.sum256 s q)
    (hkeep : acks.allAcked p.uid.value (p.generation d.sum256) = true →
      GoMap.read (keptGenerations acks p.uid.value
        (p.manifestAfter d.sum256 (storedManifest s p.uid.value))) (q.generation d.sum256) false = true) :
    Holds d.sum256 (publishGeneration d.sum256 acks l p fails s).store q :=
  hq.path hp hs (publishGeneration_spec hS hp hl s ⟨hs, rfl⟩).1 hkeep

theorem publishGeneration_keeps_of_error (hS : CollisionFree d.sum256 S) (hp : S p)
    (hl : GeneratedListing d.sum256 S l) (hs : Legit d.sum256 S s) (hq : Holds d.sum256 s q) {e : ApiError}
    (herr : (publishGeneration d.sum256 acks l p fails s).result = .error e) :
    Holds d.sum256 (publishGeneration d.sum256 acks l p fails s).store q := by
  -- pods that report nothing acknowledge nothing, so these steps are all writes
  have hwrite := @writeGeneration_spec d S fails ⟨∅⟩ p _ hS hp s ⟨hs, rfl⟩
  have hheld := hq.path hp hs hwrite.1 fun hacked => by cases hacked
  rw [publishGeneration_eq] at herr ⊢
  simp only [Bind.bind, Program.andThen] at herr ⊢
  rcases hr : writeGeneration d.sum256 p fails s with ⟨result, t, visited⟩
  rw [hr] at hwrite hheld herr
  cases result with
  | error e => exact hheld
  | ok m =>
    obtain ⟨rfl, hready⟩ := hwrite.2
    have hcollect := (@gcGenerations_spec d S fails acks p hS hp l hl (fun _ _ => False) _ rfl t hready).2
    rcases hg : gcGenerations acks l p.uid.value
      (p.manifestAfter d.sum256 (storedManifest s p.uid.value)) fails t with ⟨result, t', visited'⟩
    dsimp only at herr
    rw [hg] at hcollect herr
    cases result with
    | error e => exact hcollect.elim
    | ok _ => cases herr

theorem Step.get_none {t : Store} {name : String} (hown : ∀ cm ∈ p.configMaps d.sum256, cm.name ≠ name)
    (hmanifest : manifestName p.uid.value ≠ name) (hs : s.configMaps[name]? = none)
    (hstep : Step d.sum256 acks p s t) : t.configMaps[name]? = none := by
  cases hstep with
  | createConfigMap hcm hnew => rw [set_configMaps, GoMap.get_insert_of_ne _ _ (hown _ hcm), hs]
  | createSecret hdata hnew => exact hs
  | commit hholds => rw [set_configMaps, GoMap.get_insert_of_ne _ _ hmanifest, hs]
  | collectConfigMap hm hg hacked hcm hold => rw [remove_configMaps, GoMap.get_erase, hs, ite_self]
  | collectSecret => exact hs

theorem publishGeneration_forgets (hS : CollisionFree d.sum256 S) (hp : S p) (hq : S q) (hu : q.uid = p.uid)
    (hs : Legit d.sum256 S s) (hfails : ∀ call, fails call = false)
    (hacked : acks.allAcked p.uid.value (p.generation d.sum256) = true)
    (hdrop : GoMap.read (keptGenerations acks p.uid.value
      (p.manifestAfter d.sum256 (storedManifest s p.uid.value))) (q.generation d.sum256) false = false) :
    ¬ Holds d.sum256 (publishGeneration d.sum256 acks (listing s) p fails s).store q := by
  generalize hcm : q.gatewayConfigMap d.sum256 = cm
  have hmem : cm ∈ q.configMaps d.sum256 := Publication.mem_configMaps.mpr (.inl hcm.symm)
  suffices hnone : (publishGeneration d.sum256 acks (listing s) p fails s).store.configMaps[cm.name]? = none by
    intro hholds
    cases hnone.symm.trans (hholds.configMaps cm hmem)
  -- the objects of the publication itself are kept
  have hown : ∀ x ∈ p.configMaps d.sum256, x.name ≠ cm.name := by
    intro x hx hname
    have hsame := (hS.configMap_eq hp hq hx hmem hname).2.1
    exact (Bool.eq_false_iff.mp hdrop) (keptGenerations_iff.mpr (.inl hsame.symm))
  have hmanifest : manifestName p.uid.value ≠ cm.name := (Publication.configMaps_name_ne hmem _).symm
  cases hget : s.configMaps[cm.name]? with
  | none =>
    have hpath := (@publishGeneration_spec d S fails acks p _ hS hp _ hs.listing s ⟨hs, rfl⟩).1
    exact (hpath.invariant (fun t => t.configMaps[cm.name]? = none)
      (fun _ _ ht hstep => hstep.get_none hown hmanifest ht) hget).2
  | some stored =>
    -- what is stored under the name is the object of that generation, so it was listed
    obtain ⟨hname, hgen⟩ := hs.configMaps _ stored hget
    obtain rfl : stored = cm := by
      rcases hgen with ⟨o, ho, hstored⟩ | ⟨o, m, ho, rfl⟩
      · exact (hS.configMap_eq ho hq hstored hmem hname).2.2
      · exact absurd hname.symm (Publication.configMaps_name_ne hmem _)
    have hlisted : stored ∈ (listing s).configMaps :=
      List.mem_filter.mpr ⟨List.mem_map.mpr ⟨_, GoMap.mem_toList.mpr hget, rfl⟩, managed_configMaps hmem⟩
    have hold : superseded p.uid.value (keptGenerations acks p.uid.value
        (p.manifestAfter d.sum256 (storedManifest s p.uid.value))) stored.labels = true := by
      obtain ⟨huid, hgeneration⟩ := Publication.configMaps_labels hmem
      exact (superseded_iff huid hgeneration).mpr ⟨by rw [hu], q.generation_ne_empty d, hdrop⟩
    have hcollected := (@Idempotence.publishGeneration_collects d.sum256 p s fails acks (listing s) hfails s rfl).2
    rw [Idempotence.publishGeneration_returns hfails] at hcollected
    exact hcollected.1 stored hlisted ⟨hacked, hold⟩

end

/-! ## Runs of one Gateway -/

structure Round (u : UID) where
  publication : Publication
  owner : publication.uid = u
  acks : AckState
  fails : Call → Bool

/-- The store, and the generations that were found acknowledged so far, oldest first. -/
structure History where
  store : Store
  programmed : List String

section
variable (sum256 : String → String) {u : UID}

def Round.generation (r : Round u) : String := r.publication.generation sum256

def Round.run (r : Round u) (s : Store) : Run Store ApiError String :=
  publishGeneration sum256 r.acks (listing s) r.publication r.fails s

def Round.acked (r : Round u) : Bool := r.acks.allAcked r.publication.uid.value (r.generation sum256)

def History.next (h : History) (r : Round u) : History where
  store := (r.run sum256 h.store).store
  programmed := match (r.run sum256 h.store).result with
    | .ok _ => if r.acked sum256 then h.programmed ++ [r.generation sum256] else h.programmed
    | .error _ => h.programmed

def history (rounds : List (Round u)) : History := rounds.foldl (History.next sum256) ⟨Store.empty, []⟩

/-- The most recent generation other than the desired one that was found acknowledged. -/
def preceding (programmed : List String) (desired : String) : Option String :=
  (programmed.filter (· ≠ desired)).getLast?

/-- All objects of a generation that the Gateway has published are there. -/
def HoldsGeneration (rounds : List (Round u)) (s : Store) (generation : String) : Prop :=
  ∃ r ∈ rounds, r.generation sum256 = generation ∧ Holds sum256 s r.publication

/-- When the desired generation is acknowledged, the preceding programmed one is named by the stored
manifest, or a pod still reports it. -/
def Remembered (h : History) (r : Round u) : Prop :=
  r.acked sum256 = true → ∀ g ∈ preceding h.programmed (r.generation sum256),
    (∃ m ∈ storedManifest h.store r.publication.uid.value,
      m.generation = g ∨ m.generation = r.generation sum256 ∧ m.previous = g) ∨
    GoMap.read (r.acks.ackedGenerations r.publication.uid.value) g false = true

end

theorem preceding_concat (programmed : List String) (g desired : String) :
    preceding (programmed ++ [g]) desired = if g = desired then preceding programmed desired else some g := by
  unfold preceding
  rw [List.filter_append]
  split_ifs with hg
  · simp [hg]
  · simp [hg]

section
variable {u : UID} {rounds : List (Round u)} {h : History} {r : Round u}

structure Retaining (sum256 : String → String) (rounds : List (Round u)) (h : History) : Prop where
  legit : Legit sum256 (fun p => ∃ r ∈ rounds, r.publication = p) h.store
  held : ∀ desired g, preceding h.programmed desired = some g → HoldsGeneration sum256 rounds h.store g

variable (hS : CollisionFree d.sum256 fun p => ∃ r ∈ rounds, r.publication = p) (hr : r ∈ rounds)
  (hinv : Retaining d.sum256 rounds h)
include hS hr hinv

theorem HoldsGeneration.keep {g : String} (hg : HoldsGeneration d.sum256 rounds h.store g)
    (hkeep : r.acked d.sum256 = true →
      (∃ m ∈ storedManifest h.store r.publication.uid.value,
        m.generation = g ∨ m.generation = r.generation d.sum256 ∧ m.previous = g) ∨
      GoMap.read (r.acks.ackedGenerations r.publication.uid.value) g false = true) :
    HoldsGeneration d.sum256 rounds (r.run d.sum256 h.store).store g := by
  obtain ⟨q, hq, rfl, hholds⟩ := hg
  refine ⟨q, hq, rfl, publishGeneration_keeps hS ⟨r, hr, rfl⟩ hinv.legit.listing hinv.legit hholds fun hacked => ?_⟩
  rw [keptGenerations_iff]
  rcases hkeep hacked with ⟨m, hm, hnamed⟩ | hreported
  · -- the new manifest has the old one, or the predecessor of the old one, as its own predecessor
    by_cases hsame : m.generation = r.generation d.sum256
    · rcases hnamed with hnamed | ⟨-, hprevious⟩
      · exact .inl (hnamed.symm.trans hsame)
      · refine .inr (.inl ?_)
        have hafter : (r.publication.manifestAfter d.sum256 (storedManifest h.store r.publication.uid.value)).previous =
            m.previous := by
          rw [Option.mem_def.mp hm]
          exact previousAfter_of_eq hsame
        rw [hafter, hprevious]
        exact ⟨q.publication.generation_ne_empty d, rfl⟩
    · have hnamed : m.generation = q.generation d.sum256 := hnamed.resolve_right fun hn => hsame hn.1
      refine .inr (.inl ?_)
      have hafter : (r.publication.manifestAfter d.sum256 (storedManifest h.store r.publication.uid.value)).previous =
          m.generation := by
        rw [Option.mem_def.mp hm]
        exact previousAfter_of_ne hsame
      rw [hafter, hnamed]
      exact ⟨q.publication.generation_ne_empty d, rfl⟩
  · exact .inr (.inr hreported)

omit hinv in
theorem Round.run_spec (hlegit : Legit d.sum256 (fun p => ∃ r ∈ rounds, r.publication = p) h.store) :
    match (r.run d.sum256 h.store).result with
    | .ok generation => generation = r.generation d.sum256 ∧ ∃ m,
        Ready d.sum256 (fun p => ∃ r ∈ rounds, r.publication = p) r.publication m (r.run d.sum256 h.store).store
    | .error _ => Legit d.sum256 (fun p => ∃ r ∈ rounds, r.publication = p) (r.run d.sum256 h.store).store := by
  have hspec := (@publishGeneration_spec d _ r.fails r.acks r.publication _ hS ⟨r, hr, rfl⟩ _ hlegit.listing
    h.store ⟨hlegit, rfl⟩).2
  unfold Round.run
  cases hresult : (publishGeneration d.sum256 r.acks (listing h.store) r.publication r.fails h.store).result with
  | ok generation =>
    rw [hresult] at hspec
    exact ⟨hspec.1, _, hspec.2⟩
  | error e =>
    rw [hresult] at hspec
    exact hspec.2.legit

theorem Retaining.next (hremembered : Remembered d.sum256 h r) :
    Retaining d.sum256 rounds (h.next d.sum256 r) ∧
      ∀ generation, (r.run d.sum256 h.store).result = .ok generation →
        Holds d.sum256 (r.run d.sum256 h.store).store r.publication ∧
        ∀ g, preceding h.programmed generation = some g →
          HoldsGeneration d.sum256 rounds (r.run d.sum256 h.store).store g := by
  have hspec := Round.run_spec hS hr hinv.legit
  cases hresult : (r.run d.sum256 h.store).result with
  | error e =>
    rw [hresult] at hspec
    refine ⟨⟨hspec, fun desired g hg => ?_⟩, fun generation hok => by cases hok⟩
    have hprogrammed : (h.next d.sum256 r).programmed = h.programmed := by rw [History.next, hresult]
    rw [hprogrammed] at hg
    obtain ⟨q, hq, rfl, hholds⟩ := hinv.held desired g hg
    exact ⟨q, hq, rfl, publishGeneration_keeps_of_error hS ⟨r, hr, rfl⟩ hinv.legit.listing hinv.legit hholds hresult⟩
  | ok generation =>
    rw [hresult] at hspec
    obtain ⟨rfl, m, hready⟩ := hspec
    have hpreceding : ∀ g, preceding h.programmed (r.generation d.sum256) = some g →
        HoldsGeneration d.sum256 rounds (r.run d.sum256 h.store).store g := fun g hg =>
      (hinv.held _ g hg).keep hS hr hinv fun hacked => hremembered hacked g hg
    refine ⟨⟨hready.legit, fun desired g hg => ?_⟩, fun generation hok => ?_⟩
    · have hprogrammed : (h.next d.sum256 r).programmed =
          if r.acked d.sum256 then h.programmed ++ [r.generation d.sum256] else h.programmed := by
        rw [History.next, hresult]
      rw [hprogrammed] at hg
      split_ifs at hg with hacked
      · -- the desired generation is now the last programmed one
        rw [preceding_concat] at hg
        split_ifs at hg with hdesired
        · rw [← hdesired] at hg
          exact hpreceding g hg
        · obtain rfl := Option.some.inj hg
          exact ⟨r, hr, rfl, hready.holds⟩
      · exact (hinv.held desired g hg).keep hS hr hinv fun h => absurd h hacked
    · obtain rfl := Except.ok.inj hok
      exact ⟨hready.holds, hpreceding⟩

omit hS hr hinv in
theorem Round.run_ok (sum256 : String → String) (hfails : ∀ call, r.fails call = false) (s : Store) :
    (r.run sum256 s).result = .ok (r.generation sum256) := Idempotence.publishGeneration_returns hfails s

omit hinv in
theorem History.next_of_ok (hlegit : Legit d.sum256 (fun p => ∃ r ∈ rounds, r.publication = p) h.store)
    (hfails : ∀ call, r.fails call = false) :
    (h.next d.sum256 r).programmed =
        (if r.acked d.sum256 then h.programmed ++ [r.generation d.sum256] else h.programmed) ∧
      storedManifest (h.next d.sum256 r).store u.value =
        some (r.publication.manifestAfter d.sum256 (storedManifest h.store u.value)) ∧
      Legit d.sum256 (fun p => ∃ r ∈ rounds, r.publication = p) (h.next d.sum256 r).store := by
  have hspec := (@publishGeneration_spec d _ r.fails r.acks r.publication _ hS ⟨r, hr, rfl⟩ _ hlegit.listing
    h.store ⟨hlegit, rfl⟩).2
  rw [Idempotence.publishGeneration_returns hfails] at hspec
  have hstored := hspec.2.stored
  rw [r.owner] at hstored
  exact ⟨by rw [next, r.run_ok d.sum256 hfails], hstored, hspec.2.legit⟩

omit hinv in
theorem not_holdsGeneration_next
    (hlegit : Legit d.sum256 (fun p => ∃ r ∈ rounds, r.publication = p) h.store)
    (hfails : ∀ call, r.fails call = false) (hacked : r.acked d.sum256 = true) {g : String}
    (hother : g ≠ r.generation d.sum256)
    (hunnamed : ∀ m ∈ storedManifest h.store u.value, m.generation ≠ g ∧
      (m.generation = r.generation d.sum256 → m.previous ≠ g))
    (hunreported : GoMap.read (r.acks.ackedGenerations u.value) g false = false) :
    ¬ HoldsGeneration d.sum256 rounds (h.next d.sum256 r).store g := by
  rintro ⟨q, hq, rfl, hholds⟩
  refine publishGeneration_forgets hS ⟨r, hr, rfl⟩ ⟨q, hq, rfl⟩ (q.owner.trans r.owner.symm) hlegit hfails hacked
    ?_ hholds
  rw [r.owner, Bool.eq_false_iff, Ne, keptGenerations_iff]
  rintro (hsame | ⟨hsome, hsame⟩ | hreported)
  · exact hother hsame
  · cases hm : storedManifest h.store u.value with
    | none =>
      rw [hm] at hsome
      exact hsome rfl
    | some m =>
      obtain ⟨hgeneration, hprevious⟩ := hunnamed m hm
      rw [hm, manifestAfter_previous] at hsame
      by_cases hdesired : m.generation = r.generation d.sum256
      · exact hprevious hdesired ((previousAfter_of_eq hdesired).symm.trans hsame.symm)
      · exact hgeneration ((previousAfter_of_ne hdesired).symm.trans hsame.symm)
  · exact (Bool.eq_false_iff.mp hunreported) hreported

end

theorem history_concat (sum256 : String → String) {u : UID} (rounds : List (Round u)) (r : Round u) :
    history sum256 (rounds ++ [r]) = (history sum256 rounds).next sum256 r := by
  rw [history, List.foldl_append]
  rfl

def AllRemembered (sum256 : String → String) {u : UID} (rounds : List (Round u)) : Prop :=
  ∀ before r after, rounds = before ++ r :: after → Remembered sum256 (history sum256 before) r

theorem history_retaining {u : UID} {rounds : List (Round u)}
    (hS : CollisionFree d.sum256 fun p => ∃ r ∈ rounds, r.publication = p)
    (hremembered : AllRemembered d.sum256 rounds) {before after : List (Round u)} (hsplit : rounds = before ++ after) :
    Retaining d.sum256 rounds (history d.sum256 before) := by
  induction before using List.reverseRecOn generalizing after with
  | nil => exact ⟨.empty, fun desired g hg => by cases hg⟩
  | append_singleton before r ih =>
    rw [List.append_assoc] at hsplit
    have hr : r ∈ rounds := by
      rw [hsplit]
      simp
    rw [history_concat]
    exact ((ih hsplit).next hS hr (hremembered before r after hsplit)).1

/-- In every run in which the preceding programmed generation is remembered whenever the desired one is
acknowledged, every pass that publishes leaves all objects of both. -/
theorem preceding_generation_retained (d : Digest) (u : UID) (rounds : List (Round u))
    (hS : CollisionFree d.sum256 fun p => ∃ r ∈ rounds, r.publication = p)
    (hremembered : AllRemembered d.sum256 rounds) (before : List (Round u)) (r : Round u) (after : List (Round u))
    (hsplit : rounds = before ++ r :: after) (generation : String)
    (hok : (r.run d.sum256 (history d.sum256 before).store).result = .ok generation) :
    Holds d.sum256 (history d.sum256 (before ++ [r])).store r.publication ∧
      ∀ g, preceding (history d.sum256 before).programmed generation = some g →
        HoldsGeneration d.sum256 rounds (history d.sum256 (before ++ [r])).store g := by
  have hr : r ∈ rounds := by
    rw [hsplit]
    simp
  rw [history_concat]
  exact ((history_retaining hS hremembered hsplit).next hS hr (hremembered before r after hsplit)).2 generation hok

/-! Three versions of a Gateway without routes, and one pod. -/

def tinyUID : UID := .sample

def tinyPublication (payload : String) : Publication where
  uid := tinyUID
  gatewayPayload := payload
  attachments := ∅
  secretData := ∅
  visit := []
  visit_perm := Publication.visit_perm_nil

def tinyGeneration (payload : String) : String := (tinyPublication payload).generation Digest.charSum.sum256

def tinyRound (payload : String) (applied : Option String) : Round tinyUID where
  publication := tinyPublication payload
  owner := rfl
  acks := ⟨(∅ : GoMap String PodAck).insert "krouter-0" ⟨true, GoMap.setAll ∅
    (applied.toList.map fun payload => (tinyUID.value, ⟨tinyGeneration payload⟩))⟩⟩
  fails := fun _ => false

theorem tiny_fails (payload : String) (applied : Option String) (call : Call) :
    (tinyRound payload applied).fails call = false := rfl

theorem tiny_collisionFree {rounds : List (Round tinyUID)}
    (h : ∀ r ∈ rounds, ∃ payload ∈ ["a", "b", "c"], r.publication = tinyPublication payload) :
    CollisionFree Digest.charSum.sum256 fun p => ∃ r ∈ rounds, r.publication = p := by
  have hdistinct : ∀ x ∈ ["a", "b", "c"], ∀ y ∈ ["a", "b", "c"], tinyGeneration x = tinyGeneration y → x = y := by
    decide
  rintro _ _ ⟨r, hr, rfl⟩ ⟨r', hr', rfl⟩ _ hg
  obtain ⟨x, hx, hrx⟩ := h r hr
  obtain ⟨y, hy, hry⟩ := h r' hr'
  rw [hrx, hry] at hg ⊢
  rw [hdistinct x hx y hy hg]
  exact ⟨rfl, rfl, rfl⟩

def steadyRounds : List (Round tinyUID) := [tinyRound "a" (some "a"), tinyRound "b" (some "b")]

theorem steady_collisionFree : CollisionFree Digest.charSum.sum256
    fun p => ∃ r ∈ steadyRounds, r.publication = p := by
  apply tiny_collisionFree
  intro r hr
  rcases List.mem_pair.mp hr with rfl | rfl
  · exact ⟨"a", by decide, rfl⟩
  · exact ⟨"b", by decide, rfl⟩

theorem first_round_acked : (tinyRound "a" (some "a")).acked Digest.charSum.sum256 = true := by decide

theorem tiny_start {rounds : List (Round tinyUID)} : Legit Digest.charSum.sum256
    (fun p => ∃ r ∈ rounds, r.publication = p) (⟨Store.empty, []⟩ : History).store := .empty

theorem steady_remembered : AllRemembered Digest.charSum.sum256 steadyRounds := by
  rintro (_ | ⟨r₁, before⟩) r after hsplit
  · intro _ g hg
    cases hg
  · obtain ⟨rfl, hrest⟩ := List.cons.inj hsplit
    obtain ⟨rfl, rfl⟩ : before = [] ∧ r = tinyRound "b" (some "b") := by
      rcases before with _ | ⟨r₂, before⟩
      · exact ⟨rfl, (List.cons.inj hrest).1.symm⟩
      · exact absurd (List.cons.inj hrest).2 (by simp)
    intro _ g hg
    obtain ⟨hprogrammed, hstored, -⟩ :=
      History.next_of_ok steady_collisionFree (.head _) tiny_start (tiny_fails "a" (some "a"))
    rw [first_round_acked, if_pos rfl] at hprogrammed
    have hlast : preceding [tinyGeneration "a"] (tinyGeneration "b") = some (tinyGeneration "a") := by
      decide
    have hgen : g = tinyGeneration "a" := by
      have hg' : preceding (History.next Digest.charSum.sum256 ⟨Store.empty, []⟩ (tinyRound "a" (some "a"))).programmed
        (tinyGeneration "b") = some g := hg
      rw [hprogrammed] at hg'
      exact Option.some.inj (hg'.symm.trans hlast)
    exact .inl ⟨_, hstored, .inl hgen.symm⟩

theorem steady_generation_retained :
    preceding (history Digest.charSum.sum256 [tinyRound "a" (some "a")]).programmed (tinyGeneration "b") =
        some (tinyGeneration "a") ∧
      HoldsGeneration Digest.charSum.sum256 steadyRounds (history Digest.charSum.sum256 steadyRounds).store
        (tinyGeneration "a") := by
  obtain ⟨hprogrammed, -, -⟩ :=
    History.next_of_ok steady_collisionFree (List.mem_cons_self ..) tiny_start (tiny_fails "a" (some "a"))
  rw [first_round_acked, if_pos rfl] at hprogrammed
  have hpreceding : preceding (history Digest.charSum.sum256 [tinyRound "a" (some "a")]).programmed
      (tinyGeneration "b") = some (tinyGeneration "a") := by
    change preceding (History.next Digest.charSum.sum256 ⟨Store.empty, []⟩ (tinyRound "a" (some "a"))).programmed _ = _
    rw [hprogrammed]
    decide
  exact ⟨hpreceding, (preceding_generation_retained Digest.charSum tinyUID steadyRounds steady_collisionFree
    steady_remembered [tinyRound "a" (some "a")] (tinyRound "b" (some "b")) [] rfl _
    (Round.run_ok _ (tiny_fails "b" (some "b")) _)).2 _ hpreceding⟩

def skippingRounds : List (Round tinyUID) :=
  [tinyRound "a" none, tinyRound "a" (some "a"), tinyRound "b" (some "a"), tinyRound "c" (some "a"),
    tinyRound "c" (some "c")]

theorem skipping_collisionFree : CollisionFree Digest.charSum.sum256
    fun p => ∃ r ∈ skippingRounds, r.publication = p := by
  apply tiny_collisionFree
  intro r hr
  simp only [skippingRounds, List.mem_cons, List.not_mem_nil, or_false] at hr
  rcases hr with rfl | rfl | rfl | rfl | rfl
  · exact ⟨"a", by decide, rfl⟩
  · exact ⟨"a", by decide, rfl⟩
  · exact ⟨"b", by decide, rfl⟩
  · exact ⟨"c", by decide, rfl⟩
  · exact ⟨"c", by decide, rfl⟩

theorem skipping_next {h : History} (hlegit : Legit Digest.charSum.sum256
      (fun p => ∃ r ∈ skippingRounds, r.publication = p) h.store) {payload : String} {applied : Option String}
    (hr : tinyRound payload applied ∈ skippingRounds) :
    (h.next Digest.charSum.sum256 (tinyRound payload applied)).programmed =
        (if (tinyRound payload applied).acked Digest.charSum.sum256 then h.programmed ++ [tinyGeneration payload]
          else h.programmed) ∧
      storedManifest (h.next Digest.charSum.sum256 (tinyRound payload applied)).store tinyUID.value =
        some ((tinyPublication payload).manifestAfter Digest.charSum.sum256
          (storedManifest h.store tinyUID.value)) ∧
      Legit Digest.charSum.sum256 (fun p => ∃ r ∈ skippingRounds, r.publication = p)
        (h.next Digest.charSum.sum256 (tinyRound payload applied)).store :=
  History.next_of_ok skipping_collisionFree hr hlegit (tiny_fails payload applied)

def skippingHistory : History := history Digest.charSum.sum256 (skippingRounds.take 4)

theorem skippingHistory_spec :
    skippingHistory.programmed = [tinyGeneration "a"] ∧
      (∃ m, storedManifest skippingHistory.store tinyUID.value = some m ∧ m.generation = tinyGeneration "c" ∧
        m.previous = tinyGeneration "b") ∧
      Legit Digest.charSum.sum256 (fun p => ∃ r ∈ skippingRounds, r.publication = p) skippingHistory.store := by
  have hacks : (tinyRound "a" none).acked Digest.charSum.sum256 = false ∧
      (tinyRound "b" (some "a")).acked Digest.charSum.sum256 = false ∧
      (tinyRound "c" (some "a")).acked Digest.charSum.sum256 = false := by
    decide
  obtain ⟨hp₁, -, hl₁⟩ := skipping_next tiny_start (by simp [skippingRounds] : tinyRound "a" none ∈ _)
  obtain ⟨hp₂, -, hl₂⟩ := skipping_next hl₁ (by simp [skippingRounds] : tinyRound "a" (some "a") ∈ _)
  obtain ⟨hp₃, hm₃, hl₃⟩ := skipping_next hl₂ (by simp [skippingRounds] : tinyRound "b" (some "a") ∈ _)
  obtain ⟨hp₄, hm₄, hl₄⟩ := skipping_next hl₃ (by simp [skippingRounds] : tinyRound "c" (some "a") ∈ _)
  rw [hacks.1] at hp₁
  rw [hp₁, first_round_acked] at hp₂
  rw [hp₂, hacks.2.1] at hp₃
  rw [hp₃, hacks.2.2] at hp₄
  rw [hm₃] at hm₄
  have hother : tinyGeneration "b" ≠ tinyGeneration "c" := by decide
  exact ⟨hp₄, ⟨_, hm₄, rfl, (manifestAfter_previous ..).trans (previousAfter_of_ne hother)⟩, hl₄⟩

theorem programmed_generation_collected :
    preceding skippingHistory.programmed (tinyGeneration "c") = some (tinyGeneration "a") ∧
      ((tinyRound "c" (some "c")).run Digest.charSum.sum256 skippingHistory.store).result =
        .ok (tinyGeneration "c") ∧
      ¬ HoldsGeneration Digest.charSum.sum256 skippingRounds
        (history Digest.charSum.sum256 skippingRounds).store (tinyGeneration "a") := by
  obtain ⟨hprogrammed, ⟨m, hm, hgeneration, hprevious⟩, hlegit⟩ := skippingHistory_spec
  have hr : tinyRound "c" (some "c") ∈ skippingRounds := by simp [skippingRounds]
  refine ⟨by rw [hprogrammed]; decide, Round.run_ok _ (tiny_fails "c" _) _, ?_⟩
  have hlast : history Digest.charSum.sum256 skippingRounds =
      skippingHistory.next Digest.charSum.sum256 (tinyRound "c" (some "c")) :=
    history_concat _ (skippingRounds.take 4) _
  rw [hlast]
  apply not_holdsGeneration_next skipping_collisionFree hr hlegit (tiny_fails "c" _)
  · decide
  · decide
  · intro m' hm'
    obtain rfl := Option.some.inj (hm.symm.trans hm')
    rw [hgeneration, hprevious]
    decide
  · decide

end Krouter.Publish
