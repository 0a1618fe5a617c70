import Krouter.ControlPlane.Refinement

/-! What a publication writes and what it leaves alone, from any store: objects that are there are only
read, and the stored manifest is compared byte for byte. -/

namespace Krouter.Idempotence
open Calls Compiled Kube Publish

/-! ## Runs without a create or an update -/

def Writes (call : Call) : Prop := call.verb = .create ∨ call.verb = .update

def refusing (call : Call) : Bool := decide (call.verb = .create ∨ call.verb = .update)

/-- From this store the program does nothing but read, and returns this unless a read fails. -/
structure ReadsOnly {α : Type} (m : Api α) (s : Store) (a : α) : Prop where
  avoids : ∀ fails, m.Avoids Writes fails s
  store : ∀ fails, (m fails s).store = s
  returns : ∀ fails, (∀ call : Call, call.verb = .get → fails call = false) → m fails s = ⟨.ok a, s, []⟩

namespace ReadsOnly
variable {α : Type} {s : Store}

theorem ret (a : α) : ReadsOnly (pure a) s a := ⟨fun _ => .ret a, fun _ => rfl, fun _ _ => rfl⟩

theorem bind {m : Api Unit} {f : Unit → Api α} {a : α} (hm : ReadsOnly m s ()) (hf : ReadsOnly (f ()) s a) :
    ReadsOnly (m >>= f) s a where
  avoids fails := (hm.avoids fails).bind fun _ _ => by
    rw [hm.store fails]
    exact hf.avoids fails
  store fails := by
    have hstore := hm.store fails
    simp only [Bind.bind, Program.andThen]
    rcases hr : m fails s with ⟨result, t, visited⟩
    rw [hr] at hstore
    obtain rfl : t = s := hstore
    cases result with
    | error e => rfl
    | ok _ => exact hf.store fails
  returns fails hget := (Program.bind_of_read (hm.returns fails hget) f).trans (hf.returns fails hget)

theorem forEach {l : List α} {body : α → Api Unit} (h : ∀ a ∈ l, ReadsOnly (body a) s ()) :
    ReadsOnly (Program.forEach l body) s () := by
  induction l with
  | nil => exact ret ()
  | cons a l ih => exact (h a (.head _)).bind (ih fun b hb => h b (.tail _ hb))

end ReadsOnly

section
variable {α : Type} (r : Resource α) {name : String} {s : Store} {fails : Call → Bool} {object : α}

theorem ensure_readsOnly {β : Type} {new stored : α} {change : α → Option α} {value : Option α → β}
    (h : (r.objects s)[name]? = some stored) (hkeep : change stored = none) :
    ReadsOnly (r.ensure name new change value) s (value (some stored)) := by
  have hrun : ∀ fails, r.ensure name new change value fails s = if fails ⟨.get, r.kind, name⟩
      then ⟨.error .unavailable, s, []⟩ else ⟨.ok (value (some stored)), s, []⟩ := by
    intro fails
    rw [r.ensure_of_some h, hkeep]
  constructor
  · intro fails fails' hsame
    rw [hrun, hrun, hsame _ (by simp [Writes])]
  · intro fails
    rw [hrun]
    split <;> rfl
  · intro fails hget
    rw [hrun, hget _ rfl]
    rfl

theorem ensureImmutable_readsOnly (h : ∃ stored, (r.objects s)[name]? = some stored) :
    ReadsOnly (r.ensureImmutable name object) s () := by
  obtain ⟨stored, hstored⟩ := h
  rw [r.ensureImmutable_eq]
  exact ensure_readsOnly r hstored rfl

theorem deleteWhere_avoids {nameOf : α → String} {condition : α → Bool} {listed : List α} :
    (r.deleteWhere nameOf condition listed).Avoids Writes fails s := by
  refine Program.Avoids.forEach (fun _ => True) (fun o _ t _ => ⟨?_, trivial⟩) trivial
  split
  · exact Program.Avoids.bind (Program.Avoids.attempt (Program.Avoids.perform (by simp [Writes]))) fun _ _ => .ret _
  · exact .ret _

end

/-! ## The manifest -/

/-- Data that `equalStringMaps` takes for any manifest: one empty entry under another key. -/
def Unseen (data : GoMap String String) : Prop :=
  ∃ key, key ≠ manifestKey ∧ data = (∅ : GoMap String String).insert key ""

theorem mistaken_manifestData_iff {data : GoMap String String} {m : Manifest} :
    Mistaken data (manifestData m) ↔ Unseen data := by
  have hsize : ∀ (key value : String), ((∅ : GoMap String String).insert key value).size = 1 := by
    intro key value
    simp [Std.ExtTreeMap.size_insert]
  constructor
  · rintro ⟨hone, -, key, hget, hnone⟩
    rw [manifestData, hsize, ← Std.ExtTreeMap.length_toList] at hone
    obtain ⟨entry, hlist⟩ := List.length_eq_one_iff.mp hone
    obtain rfl : (key, "") = entry := List.mem_singleton.mp (hlist ▸ GoMap.mem_toList.mpr hget)
    refine ⟨key, fun hkey => ?_, Std.ExtTreeMap.toList_inj.mp hlist⟩
    rw [hkey, manifestData, GoMap.get_insert_self] at hnone
    cases hnone
  · rintro ⟨key, hkey, rfl⟩
    have hnone : (manifestData m)[key]? = none := by
      rw [manifestData, GoMap.get_insert_of_ne _ _ hkey.symm, GoMap.get_empty]
    refine ⟨by rw [hsize, manifestData, hsize], fun k v hv => ?_, key, GoMap.get_insert_self .., hnone⟩
    rw [GoMap.get_insert, GoMap.get_empty] at hv
    split_ifs at hv with hk
    exact .inr ⟨(Option.some.inj hv).symm, hk ▸ hnone⟩

theorem equalStringMaps_manifestData_iff {data : GoMap String String} {m : Manifest} :
    equalStringMaps data (manifestData m) = true ↔ data = manifestData m ∨ Unseen data := by
  rw [equalStringMaps_iff, mistaken_manifestData_iff]

section
variable {sum256 : String → String} {p : Publication} {s : Store} {cm : ConfigMap}

theorem manifestAfter_eq (h : s.configMaps[manifestName p.uid.value]? = some cm) :
    p.manifestAfter sum256 (storedManifest s p.uid.value) = overwriting cm (p.manifest sum256) := by
  rw [storedManifest, h, Option.bind_some, overwriting]
  cases manifestCodec.unmarshal (GoMap.read cm.data manifestKey "") with
  | some m => rfl
  | none =>
    simp only [Option.getD_none, previousAfter]
    split_ifs <;> rfl

theorem ensureManifest_readsOnly (h : s.configMaps[manifestName p.uid.value]? = some cm)
    (hseen : Seen cm (p.manifestAfter sum256 (storedManifest s p.uid.value))) :
    ReadsOnly (ensureManifest p.uid.value (p.manifest sum256)) s
      (p.manifestAfter sum256 (storedManifest s p.uid.value)) := by
  rw [manifestAfter_eq h] at hseen ⊢
  rw [ensureManifest_eq]
  exact ensure_readsOnly configMaps h (if_pos hseen)

end

/-! ## What is in place -/

structure InPlace (sum256 : String → String) (p : Publication) (s : Store) : Prop extends Objects sum256 p s where
  manifest : ∃ cm, s.configMaps[manifestName p.uid.value]? = some cm ∧
    Seen cm (p.manifestAfter sum256 (storedManifest s p.uid.value))

section
variable {sum256 : String → String} {p : Publication} {s : Store}

theorem Objects.readsOnly (h : Objects sum256 p s) : ReadsOnly (writeObjects sum256 p) s () := by
  have hgateway : p.gatewayConfigMap sum256 ∈ p.configMaps sum256 := (.head _)
  refine (ensureImmutable_readsOnly Kube.configMaps (h.configMaps _ hgateway)).bind ?_
  refine (ReadsOnly.forEach fun attachment ha => ?_).bind ?_
  · have hatt : p.attachmentConfigMap sum256 attachment ∈ p.configMaps sum256 :=
      .tail _ (List.mem_map_of_mem ha)
    exact ensureImmutable_readsOnly Kube.configMaps (h.configMaps _ hatt)
  · split
    · exact .ret ()
    next hdata => exact ensureImmutable_readsOnly secrets (h.secret (by simpa using hdata))

end

section
variable {sum256 : String → String} {p : Publication} {s : Store} {fails : Call → Bool} {acks : AckState}
  {listed : Listing}

theorem gcGenerations_avoids {uid : String} {m : Manifest} :
    (gcGenerations acks listed uid m).Avoids Writes fails s := by
  rw [gcGenerations]
  split
  · exact Program.Avoids.bind (deleteWhere_avoids configMaps) fun _ _ => deleteWhere_avoids secrets
  · exact .ret _

theorem gcGenerations_keeps {uid : String} {m : Manifest} (inv : Store → Prop)
    (hconfigMaps : acks.allAcked uid m.generation = true → ∀ cm ∈ listed.configMaps,
      superseded uid (keptGenerations acks uid m) cm.labels = true → ∀ t, inv t → inv (configMaps.remove t cm.name))
    (hsecrets : acks.allAcked uid m.generation = true → ∀ secret ∈ listed.secrets,
      superseded uid (keptGenerations acks uid m) secret.labels = true → ∀ t, inv t → inv (secrets.remove t secret.name)) :
    Triple fails (fun _ _ => True) inv (gcGenerations acks listed uid m) (fun _ => inv) (fun _ _ => False) := by
  rw [gcGenerations]
  split
  next hacked =>
    refine Triple.bind (configMaps.deleteWhere_spec fun cm hcm hc t _ ht _ => ⟨trivial, ?_⟩)
      fun _ => secrets.deleteWhere_spec fun secret hsecret hc t _ ht _ => ⟨trivial, ?_⟩
    · exact hconfigMaps hacked cm hcm hc t ht
    · exact hsecrets hacked secret hsecret hc t ht
  · exact .ret fun _ h => h

theorem publish_returns (m : Manifest) (t : Store) :
    ((gcGenerations acks listed p.uid.value m >>= fun _ => pure (p.generation sum256)) fails t).result =
      .ok (p.generation sum256) := by
  have hspec : Triple fails (fun _ _ => True) (fun _ => True)
      (gcGenerations acks listed p.uid.value m >>= fun _ => (pure (p.generation sum256) : Api String))
      (fun generation _ => generation = p.generation sum256) (fun _ _ => False) :=
    Triple.bind (gcGenerations_keeps (fun _ => True) (fun _ _ _ _ _ h => h) fun _ _ _ _ _ h => h)
      fun _ => .ret fun _ _ => rfl
  have hend := (hspec t trivial).2
  split at hend
  next hok => rw [hok, hend]
  · exact hend.elim

theorem InPlace.publish (h : InPlace sum256 p s) :
    (publishGeneration sum256 acks listed p).Avoids Writes fails s ∧
      ((∀ call : Call, call.verb = .get → fails call = false) →
        (publishGeneration sum256 acks listed p fails s).result = .ok (p.generation sum256)) := by
  obtain ⟨cm, hcm, hseen⟩ := h.manifest
  have hreads : ReadsOnly (writeGeneration sum256 p) s (p.manifestAfter sum256 (storedManifest s p.uid.value)) := by
    rw [writeGeneration]
    exact h.toObjects.readsOnly.bind (ensureManifest_readsOnly hcm hseen)
  rw [publishGeneration_eq]
  refine ⟨(hreads.avoids fails).bind fun _ _ => gcGenerations_avoids.bind fun _ _ => .ret _, fun hget => ?_⟩
  rw [Program.bind_of_read (hreads.returns fails hget)]
  exact publish_returns _ s

theorem ensureManifest_refusing :
    Triple refusing (fun _ _ => True) (· = s) (ensureManifest p.uid.value (p.manifest sum256))
      (fun _ _ => ∃ cm, s.configMaps[manifestName p.uid.value]? = some cm ∧
        Seen cm (p.manifestAfter sum256 (storedManifest s p.uid.value))) (fun _ _ => True) := by
  rw [ensureManifest_eq]
  refine configMaps.ensure_spec (fun _ _ _ _ => trivial) (fun hcreate => by cases hcreate) (fun t cm ht hcm hskip => ?_)
    fun hupdate => by cases hupdate
  obtain rfl : t = s := ht
  rw [manifestAfter_eq hcm]
  exact ⟨cm, hcm, by simpa using hskip⟩

theorem inPlace_of_refusing {generation : String}
    (hok : (publishGeneration sum256 acks listed p refusing s).result = .ok generation) : InPlace sum256 p s := by
  have hobjects : Triple refusing (fun _ _ => True) (· = s) (writeObjects sum256 p)
      (fun _ t => t = s ∧ Objects sum256 p t) (fun _ _ => True) :=
    (writeObjects_leaves (· = s) (fun _ _ hcreate => by cases hcreate) fun _ hcreate => by cases hcreate).consequence
      (fun _ h => h) (fun _ _ h => h) fun _ _ _ => trivial
  have hwritten : Triple refusing (fun _ _ => True) (· = s) (writeGeneration sum256 p)
      (fun _ _ => InPlace sum256 p s) (fun _ _ => True) := by
    rw [writeGeneration]
    refine Triple.bind hobjects fun _ => Triple.assuming fun t ht => ?_
    obtain ⟨rfl, hpresent⟩ := ht
    exact ensureManifest_refusing.consequence (fun _ h => h.1) (fun _ _ h => ⟨hpresent, h⟩) fun _ _ h => h
  have hpublished : Triple refusing (fun _ _ => True) (· = s) (publishGeneration sum256 acks listed p)
      (fun _ _ => InPlace sum256 p s) (fun _ _ => True) := by
    rw [publishGeneration_eq]
    refine Triple.bind hwritten fun m => Triple.bind ((gcGenerations_keeps (fun _ => InPlace sum256 p s)
      (fun _ _ _ _ _ h => h) fun _ _ _ _ _ h => h).consequence (fun _ h => h) (fun _ _ h => h) fun _ _ _ => trivial)
      fun _ => .ret fun _ h => h
  have hend := (hpublished s rfl).2
  rw [hok] at hend
  exact hend

end

/-! ## What a publication leaves behind -/

/-- The stored manifest has drifted, and every publication takes it for its own. -/
def Overlooked (s : Store) (uid : String) : Prop := ∃ cm, s.configMaps[manifestName uid]? = some cm ∧
  GoMap.read cm.labels labelRole "" = roleManifest ∧ Unseen cm.data

/-- The objects are there, and the manifest is the publication's, unless its drift was overlooked. -/
structure Done (sum256 : String → String) (p : Publication) (s t : Store) : Prop extends Objects sum256 p t where
  overlooked : Overlooked s p.uid.value →
    t.configMaps[manifestName p.uid.value]? = s.configMaps[manifestName p.uid.value]?
  manifest : ¬ Overlooked s p.uid.value → ∃ cm, t.configMaps[manifestName p.uid.value]? = some cm ∧
    GoMap.read cm.labels labelRole "" = roleManifest ∧
      cm.data = manifestData (p.manifestAfter sum256 (storedManifest s p.uid.value))

def Refused (fails : Call → Bool) (p : Publication) (s t : Store) : Prop :=
  (∃ call, fails call = true) ∧
    t.configMaps[manifestName p.uid.value]? = s.configMaps[manifestName p.uid.value]?

variable {sum256 : String → String} {p : Publication} {s t : Store} {fails : Call → Bool}

theorem Objects.set_configMap (h : Objects sum256 p t) (name : String) (cm : ConfigMap) :
    Objects sum256 p (Kube.configMaps.set t name cm) where
  configMaps own hown := by
    rw [set_configMaps, GoMap.get_insert]
    split_ifs
    · exact ⟨cm, rfl⟩
    · exact h.configMaps own hown
  secret := h.secret

theorem done_of_write (hobjects : Objects sum256 p t) (hseen : ¬ Overlooked s p.uid.value) {cm : ConfigMap}
    (hrole : GoMap.read cm.labels labelRole "" = roleManifest)
    (hdata : cm.data = manifestData (p.manifestAfter sum256 (storedManifest s p.uid.value))) :
    Done sum256 p s (configMaps.set t (manifestName p.uid.value) cm) :=
  ⟨hobjects.set_configMap _ _, fun h => absurd h hseen, fun _ => ⟨cm, GoMap.get_insert_self .., hrole, hdata⟩⟩

theorem Done.storedManifest_eq (h : Done sum256 p s t) (hseen : ¬ Overlooked s p.uid.value) :
    storedManifest t p.uid.value = some (p.manifestAfter sum256 (storedManifest s p.uid.value)) := by
  obtain ⟨cm, hcm, -, hdata⟩ := h.manifest hseen
  rw [storedManifest, hcm, Option.bind_some, hdata, read_manifestData, manifestCodec.unmarshal_marshal]

theorem ensureManifest_done :
    Triple fails (fun _ _ => True)
      (fun t => t.configMaps[manifestName p.uid.value]? = s.configMaps[manifestName p.uid.value]? ∧
        Objects sum256 p t)
      (ensureManifest p.uid.value (p.manifest sum256))
      (fun m t => m = p.manifestAfter sum256 (storedManifest s p.uid.value) ∧ Done sum256 p s t)
      (fun _ => Refused fails p s) := by
  rw [ensureManifest_eq]
  refine configMaps.ensure_spec (fun _ t hcall ht => ⟨hcall, ht.1⟩) (fun _ t ht hnone => ⟨trivial, ?_⟩)
    (fun t cm ht hcm hskip => ?_) fun _ t cm changed ht hcm hwrite => ⟨trivial, ?_⟩
  · have hseen : ¬ Overlooked s p.uid.value := by
      rintro ⟨cm, hold, -⟩
      cases hold.symm.trans (ht.1.symm.trans hnone)
    have hnew : p.manifest sum256 = p.manifestAfter sum256 (storedManifest s p.uid.value) := by
      rw [← storedManifest_congr ht.1, storedManifest_of_none hnone]
      rfl
    exact ⟨hnew, done_of_write ht.2 hseen (GoMap.read_of_get (GoMap.get_insert_self ..) _)
      (congrArg manifestData hnew)⟩
  · have hafter : p.manifestAfter sum256 (storedManifest t p.uid.value) = _ := manifestAfter_eq hcm
    have hseen : Seen cm (overwriting cm (p.manifest sum256)) := by simpa using hskip
    rw [storedManifest_congr ht.1] at hafter
    refine ⟨hafter.symm, ht.2, fun _ => ht.1, fun hoverlooked => ⟨cm, hcm, hseen.2, ?_⟩⟩
    rw [hafter]
    refine (equalStringMaps_manifestData_iff.mp hseen.1).resolve_right fun hunseen => hoverlooked ?_
    exact ⟨cm, ht.1 ▸ hcm, hseen.2, hunseen⟩
  · have hafter : p.manifestAfter sum256 (storedManifest t p.uid.value) = _ := manifestAfter_eq hcm
    rw [storedManifest_congr ht.1] at hafter
    split at hwrite
    · cases hwrite
    next hseen =>
      obtain rfl := Option.some.inj hwrite
      have hoverlooked : ¬ Overlooked s p.uid.value := by
        rintro ⟨cm', hold, hrole, hunseen⟩
        obtain rfl := Option.some.inj (hcm.symm.trans (ht.1.trans hold))
        exact hseen ⟨equalStringMaps_manifestData_iff.mpr (.inr hunseen), hrole⟩
      exact ⟨hafter.symm, done_of_write ht.2 hoverlooked (GoMap.read_of_get (GoMap.get_insert_self ..) _)
        (congrArg manifestData hafter.symm)⟩

theorem writeGeneration_done :
    Triple fails (fun _ _ => True) (· = s) (writeGeneration sum256 p)
      (fun m t => m = p.manifestAfter sum256 (storedManifest s p.uid.value) ∧ Done sum256 p s t)
      (fun _ => Refused fails p s) := by
  rw [writeGeneration]
  have hobjects := @writeObjects_leaves sum256 p fails (fun _ _ => True)
    (fun t => t.configMaps[manifestName p.uid.value]? = s.configMaps[manifestName p.uid.value]?)
    (fun own hown _ t ht _ => by
      rw [set_configMaps, GoMap.get_insert_of_ne _ _ (Publication.configMaps_name_ne hown _)]
      exact ⟨trivial, ht⟩)
    (fun _ _ t ht _ => ⟨trivial, ht⟩)
  exact (hobjects.consequence (fun _ h => by rw [h]) (fun _ _ h => h) fun _ _ h => h).bind fun _ => ensureManifest_done

def Collected (acks : AckState) (uid : String) (m : Manifest) (labels : Labels) : Prop :=
  acks.allAcked uid m.generation = true ∧ superseded uid (keptGenerations acks uid m) labels = true

/-- No listed object with the name of something that the publication needs is collected. -/
structure Spared (sum256 : String → String) (acks : AckState) (listed : Listing) (p : Publication) (s : Store) :
    Prop where
  manifest : ∀ cm ∈ listed.configMaps,
    Collected acks p.uid.value (p.manifestAfter sum256 (storedManifest s p.uid.value)) cm.labels →
    cm.name ≠ manifestName p.uid.value
  configMaps : ∀ cm ∈ listed.configMaps,
    Collected acks p.uid.value (p.manifestAfter sum256 (storedManifest s p.uid.value)) cm.labels →
    ∀ own ∈ p.configMaps sum256, cm.name ≠ own.name
  secret : ∀ secret ∈ listed.secrets,
    Collected acks p.uid.value (p.manifestAfter sum256 (storedManifest s p.uid.value)) secret.labels →
    p.secretData.isEmpty = false → secret.name ≠ tlsSecretName p.uid.value (p.generation sum256)

variable {acks : AckState} {listed : Listing}

theorem publishGeneration_done (hspared : Spared sum256 acks listed p s) :
    Triple fails (fun _ _ => True) (· = s) (publishGeneration sum256 acks listed p)
      (fun generation t => generation = p.generation sum256 ∧ Done sum256 p s t)
      (fun _ => Refused fails p s) := by
  rw [publishGeneration_eq]
  refine writeGeneration_done.bind fun m => Triple.assuming fun t ht => ?_
  obtain ⟨rfl, -⟩ := ht
  have hkeeps := @gcGenerations_keeps fails acks listed p.uid.value
    (p.manifestAfter sum256 (storedManifest s p.uid.value)) (Done sum256 p s)
    (fun hacked cm hcm hc t ht => ?_) (fun hacked secret hsecret hc t ht => ?_)
  · exact (hkeeps.consequence (fun _ h => h.2) (fun _ _ h => h) fun _ _ h => h.elim).bind fun _ =>
      .ret fun _ h => ⟨rfl, h⟩
  · have hkept : (configMaps.remove t cm.name).configMaps[manifestName p.uid.value]? =
        t.configMaps[manifestName p.uid.value]? := by
      rw [remove_configMaps, GoMap.get_erase, if_neg (hspared.manifest cm hcm ⟨hacked, hc⟩)]
    refine ⟨⟨fun own hown => ?_, ht.secret⟩, by rw [hkept]; exact ht.overlooked, by rw [hkept]; exact ht.manifest⟩
    rw [remove_configMaps, GoMap.get_erase, if_neg (hspared.configMaps cm hcm ⟨hacked, hc⟩ own hown)]
    exact ht.configMaps own hown
  · refine ⟨⟨ht.configMaps, fun hdata => ?_⟩, ht.overlooked, ht.manifest⟩
    rw [remove_secrets, GoMap.get_erase, if_neg (hspared.secret secret hsecret ⟨hacked, hc⟩ hdata)]
    exact ht.secret hdata

theorem gcGenerations_removes (hfails : ∀ call, fails call = false) (uid : String) (m : Manifest) :
    Triple fails (fun _ _ => True) (fun _ => True) (gcGenerations acks listed uid m)
      (fun _ t => (∀ cm ∈ listed.configMaps, Collected acks uid m cm.labels → t.configMaps[cm.name]? = none) ∧
        ∀ secret ∈ listed.secrets, Collected acks uid m secret.labels → t.secrets[secret.name]? = none)
      (fun _ _ => False) := by
  rw [gcGenerations]
  split
  next hacked =>
    refine (configMaps.deleteWhere_removes hfails).bind fun _ => ?_
    -- the deletions of Secrets leave the ConfigMaps as they are
    have hkeep := @Resource.deleteWhere_spec Secret secrets fails (fun _ _ => True)
      (fun t => ∀ cm ∈ listed.configMaps, superseded uid (keptGenerations acks uid m) cm.labels = true →
        t.configMaps[cm.name]? = none) (fun _ _ => False) Secret.name
      (fun secret => superseded uid (keptGenerations acks uid m) secret.labels) listed.secrets
      fun _ _ _ _ _ ht _ => ⟨trivial, ht⟩
    have hremoves := @Resource.deleteWhere_removes Secret secrets fails (fun _ _ => False) hfails Secret.name
      (fun secret => superseded uid (keptGenerations acks uid m) secret.labels) listed.secrets
    exact (hkeep.and hremoves).consequence (fun _ h => ⟨h, trivial⟩)
      (fun _ _ h => ⟨fun cm hcm hc => h.1 cm hcm hc.2, fun secret hsecret hc => h.2 secret hsecret hc.2⟩)
      fun _ _ h => h.1
  next hacked => exact .ret fun _ _ => ⟨fun _ _ hc => absurd hc.1 hacked, fun _ _ hc => absurd hc.1 hacked⟩

theorem publishGeneration_collects (hfails : ∀ call, fails call = false) :
    Triple fails (fun _ _ => True) (· = s) (publishGeneration sum256 acks listed p)
      (fun _ t => (∀ cm ∈ listed.configMaps,
          Collected acks p.uid.value (p.manifestAfter sum256 (storedManifest s p.uid.value)) cm.labels →
          t.configMaps[cm.name]? = none) ∧
        ∀ secret ∈ listed.secrets,
          Collected acks p.uid.value (p.manifestAfter sum256 (storedManifest s p.uid.value)) secret.labels →
          t.secrets[secret.name]? = none)
      (fun _ => Refused fails p s) := by
  rw [publishGeneration_eq]
  refine writeGeneration_done.bind fun m => Triple.assuming fun t ht => ?_
  obtain ⟨rfl, -⟩ := ht
  exact ((gcGenerations_removes hfails _ _).consequence (fun _ _ => trivial) (fun _ _ h => h) fun _ _ h => h.elim).bind
    fun _ => .ret fun _ h => h

theorem publishGeneration_generation :
    Triple fails (fun _ _ => True) (· = s) (publishGeneration sum256 acks listed p)
      (fun generation _ => generation = p.generation sum256) (fun _ => Refused fails p s) := by
  rw [publishGeneration_eq]
  have hkeeps := fun m => @gcGenerations_keeps fails acks listed p.uid.value m (fun _ => True)
    (fun _ _ _ _ _ h => h) fun _ _ _ _ _ h => h
  exact writeGeneration_done.bind fun m =>
    ((hkeeps m).consequence (fun _ _ => trivial) (fun _ _ h => h) fun _ _ h => h.elim).bind fun _ => .ret fun _ _ => rfl

theorem publishGeneration_returns (hfails : ∀ call, fails call = false) (s : Store) :
    (publishGeneration sum256 acks listed p fails s).result = .ok (p.generation sum256) := by
  have hend := (@publishGeneration_generation sum256 p s fails acks listed s rfl).2
  split at hend
  next hok => rw [hok, hend]
  next =>
    obtain ⟨⟨call, hcall⟩, -⟩ := hend
    rw [hfails call] at hcall
    cases hcall

theorem spared_of_objects (hfails : ∀ call, fails call = false)
    (hobjects : Objects sum256 p (publishGeneration sum256 acks listed p fails s).store) {manifest : ConfigMap}
    (hmanifest : (publishGeneration sum256 acks listed p fails s).store.configMaps[manifestName p.uid.value]? =
      some manifest) : Spared sum256 acks listed p s := by
  have hcollected := (@publishGeneration_collects sum256 p s fails acks listed hfails s rfl).2
  rw [publishGeneration_returns hfails] at hcollected
  obtain ⟨hconfigMaps, hsecrets⟩ := hcollected
  constructor
  · intro cm hcm hc hname
    cases hmanifest.symm.trans (hname ▸ hconfigMaps cm hcm hc)
  · intro cm hcm hc own hown hname
    obtain ⟨stored, hstored⟩ := hobjects.configMaps own hown
    cases hstored.symm.trans (hname ▸ hconfigMaps cm hcm hc)
  · intro secret hsecret hc hdata hname
    obtain ⟨stored, hstored⟩ := hobjects.secret hdata
    cases hstored.symm.trans (hname ▸ hsecrets secret hsecret hc)

end Krouter.Idempotence
