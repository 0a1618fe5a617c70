import Krouter.Lib.Register
import Krouter.Loader.Worker

/-! Over any run of the loader, a Gateway serves the table of its latest successful load, and nothing of
the others shows. -/

namespace Krouter.Loader
open Compiled Routing Register

variable (p : Platform)

/-- The table a snapshot makes the loader build: none when the manifest is malformed or its generation
applied, or when the load fails. -/
def newlyLoaded (previous : Option Loaded) (raw : RawConfig) (text : String) : Option GatewayTable :=
  match p.unmarshal manifestCodec "Manifest" text with
  | .error _ => none
  | .ok manifest =>
    if previous.map (·.table.generation) = some manifest.generation then none
    else (loadGeneration p manifest raw.configMaps raw.secrets (previous.map Loaded.table)).toOption

def snapshotEffect (uid : String) (before : List Snapshot) (s : Snapshot) : Effect GatewayTable :=
  match s.raw.manifestText uid with
  | none => .reset
  | some text =>
    match newlyLoaded p (run p before).applied[uid]? s.raw text with
    | none => .keep
    | some table => .write table

/-- The status of a Gateway whose manifest is `text`, read by a loader that had `previous`
applied and has `current` applied now. -/
structure StatusDescribes (previous current : Option Loaded) (raw : RawConfig) (text : String)
    (status : GatewayStatus) : Prop where
  applied : status.appliedGeneration = (current.map (·.table.generation)).getD ""
  malformed : ∀ err, p.unmarshal manifestCodec "Manifest" text = .error err →
    status.desiredGeneration = "" ∧ status.lastError = "invalid manifest: " ++ err
  desired : ∀ manifest, p.unmarshal manifestCodec "Manifest" text = .ok manifest →
    status.desiredGeneration = manifest.generation ∧
    (status.appliedGeneration = manifest.generation ∧ status.lastError = "" ∨
      loadGeneration p manifest raw.configMaps raw.secrets (previous.map Loaded.table) =
        .error status.lastError)

/-- Two snapshots agree on the Gateway's manifest and on the objects it lists. -/
def AgreeOn (uid : String) (s s' : Snapshot) : Prop :=
  s.raw.manifestText uid = s'.raw.manifestText uid ∧
    ∀ text manifest, s.raw.manifestText uid = some text →
      p.unmarshal manifestCodec "Manifest" text = .ok manifest → ∀ ref ∈ manifest.objects,
        (ref.kind = objectKindConfigMap →
          s.raw.configMaps[ref.name]? = s'.raw.configMaps[ref.name]?) ∧
        (ref.kind = objectKindSecret → s.raw.secrets[ref.name]? = s'.raw.secrets[ref.name]?)

def Consistent (loaded : Option Loaded) (status : Option GatewayStatus) : Prop :=
  (status.map GatewayStatus.appliedGeneration).getD "" = (loaded.map (·.table.generation)).getD ""

variable {p}

variable {previous : Option Loaded} {previousStatus : Option GatewayStatus} {text : String} {uid : String}
  {snapshots : List Snapshot} {s : Snapshot}

theorem keepPrevious_applied (h : Consistent previous previousStatus) (desired err : String) :
    (keepPrevious previous previousStatus desired err).1 = previous ∧
      (keepPrevious previous previousStatus desired err).2 =
        ⟨desired, (previous.map (·.table.generation)).getD "", err⟩ := by
  cases previous with
  | some loaded => exact ⟨rfl, rfl⟩
  | none =>
    refine ⟨rfl, ?_⟩
    rw [← h]
    rfl

theorem resolve_applied {now : Nat} {raw : RawConfig} : (resolve p now previous previousStatus raw text).1 =
      match newlyLoaded p previous raw text with
      | some table => some ⟨table, now⟩
      | none => previous := by
  have hkeep : ∀ desired err, (keepPrevious previous previousStatus desired err).1 = previous := by
    intro desired err
    cases previous <;> rfl
  unfold resolve newlyLoaded
  cases p.unmarshal manifestCodec "Manifest" text with
  | error err => exact hkeep _ _
  | ok manifest =>
    simp only
    split_ifs with hg
    · rfl
    · cases loadGeneration p manifest raw.configMaps raw.secrets (previous.map Loaded.table) with
      | ok table => rfl
      | error err => exact hkeep _ _

theorem resolve_status {now : Nat} {raw : RawConfig} (h : Consistent previous previousStatus) :
    StatusDescribes p previous (resolve p now previous previousStatus raw text).1 raw text
      (resolve p now previous previousStatus raw text).2 := by
  unfold resolve
  cases hm : p.unmarshal manifestCodec "Manifest" text with
  | error err =>
    obtain ⟨ha, hs⟩ := keepPrevious_applied h "" ("invalid manifest: " ++ err)
    simp only [ha, hs]
    refine ⟨rfl, fun err' he => ?_, fun manifest he => ?_⟩
    · rw [hm] at he
      cases he
      exact ⟨rfl, rfl⟩
    · rw [hm] at he
      cases he
  | ok manifest =>
    have hmal : ∀ {P : Prop} err, p.unmarshal manifestCodec "Manifest" text = .error err → P :=
      fun err he => by rw [hm] at he; cases he
    have hman : ∀ m, p.unmarshal manifestCodec "Manifest" text = .ok m → m = manifest :=
      fun m he => by rw [hm] at he; cases he; rfl
    simp only
    split_ifs with hg
    · refine ⟨by rw [hg]; rfl, fun err => hmal err, fun m he => ?_⟩
      rw [hman m he]
      exact ⟨rfl, .inl ⟨rfl, rfl⟩⟩
    · cases hl : loadGeneration p manifest raw.configMaps raw.secrets (previous.map Loaded.table) with
      | ok table =>
        refine ⟨(loadGeneration_generation hl).symm, fun err => hmal err, fun m he => ?_⟩
        rw [hman m he]
        exact ⟨rfl, .inl ⟨rfl, rfl⟩⟩
      | error err =>
        obtain ⟨ha, hs⟩ := keepPrevious_applied h manifest.generation err
        simp only [ha, hs]
        refine ⟨rfl, fun err => hmal err, fun m he => ?_⟩
        rw [hman m he]
        exact ⟨rfl, .inr hl⟩

/-! ## Runs -/

theorem run_concat (snapshots : List Snapshot) (s : Snapshot) :
    run p (snapshots ++ [s]) = rebuild p (run p snapshots) s := by
  rw [run, List.foldl_append]
  rfl

theorem run_rebuilds (snapshots : List Snapshot) : (run p snapshots).rebuilds = snapshots.length := by
  induction snapshots using List.reverseRecOn with
  | nil => rfl
  | append_singleton snapshots s ih =>
    rw [run_concat, List.length_append, ← ih]
    rfl

def UniqueManifest (uid : String) (snapshots : List Snapshot) : Prop :=
  ∀ s ∈ snapshots, (s.raw.manifests uid).length ≤ 1

theorem UniqueManifest.init (h : UniqueManifest uid (snapshots ++ [s])) : UniqueManifest uid snapshots :=
  fun t ht => h t (List.mem_append_left _ ht)

theorem UniqueManifest.last (h : UniqueManifest uid (snapshots ++ [s])) : (s.raw.manifests uid).length ≤ 1 :=
  h s (List.mem_append_right _ (.head _))

theorem run_consistent (h : UniqueManifest uid snapshots) :
    Consistent (run p snapshots).applied[uid]? (run p snapshots).statuses[uid]? := by
  induction snapshots using List.reverseRecOn with
  | nil =>
    rw [run, List.foldl_nil, newWorker, GoMap.get_empty, GoMap.get_empty]
    rfl
  | append_singleton snapshots s ih =>
    obtain ⟨ha, hs⟩ := rebuild_get (p := p) (w := run p snapshots) h.last
    rw [run_concat, ha, hs]
    cases s.raw.manifestText uid with
    | none => rfl
    | some text => exact (resolve_status (ih h.init)).applied

theorem run_concat_applied (h : (s.raw.manifests uid).length ≤ 1) :
    (run p (snapshots ++ [s])).applied[uid]? = match snapshotEffect p uid snapshots s with
      | .reset => none
      | .keep => (run p snapshots).applied[uid]?
      | .write table => some ⟨table, snapshots.length⟩ := by
  rw [run_concat, (rebuild_get h).1, run_rebuilds, snapshotEffect]
  cases s.raw.manifestText uid with
  | none => rfl
  | some text =>
    rw [Option.bind_some, resolve_applied]
    dsimp only
    cases newlyLoaded p (run p snapshots).applied[uid]? s.raw text <;> rfl

theorem run_applied_iff (h : UniqueManifest uid snapshots) {table : GatewayTable} {index : Nat} :
    (run p snapshots).applied[uid]? = some ⟨table, index⟩ ↔
      Latest (snapshotEffect p uid) snapshots table index := by
  -- The register of the Gateway is its table with the number of the rebuild.
  have hcontent := eq_some_iff_latest (snapshotEffect p uid)
    (fun history => (run p history).applied[uid]?.map fun l => (l.table, l.loadedAt)) snapshots rfl ?_
      (v := table) (i := index)
  · rw [← hcontent]
    cases (run p snapshots).applied[uid]? with
    | none => simp
    | some l => cases l; simp
  · intro past last hp
    have hlast := h last (hp.subset (List.mem_append_right _ (.head _)))
    simp only [run_concat_applied hlast]
    cases snapshotEffect p uid past last <;> rfl

/-! ## Two runs -/

theorem resolve_agree {s' : Snapshot} (h : AgreeOn p uid s s') (ht : s.raw.manifestText uid = some text)
    (now : Nat) (previous : Option Loaded) (previousStatus : Option GatewayStatus) :
    resolve p now previous previousStatus s.raw text =
      resolve p now previous previousStatus s'.raw text := by
  unfold resolve
  cases hm : p.unmarshal manifestCodec "Manifest" text with
  | error err => rfl
  | ok manifest =>
    have hobjects := h.2 text manifest ht hm
    simp only
    rw [loadGeneration_congr _ (fun ref hr => (hobjects ref hr).1) fun ref hr => (hobjects ref hr).2]

structure SameFor (uid : String) (w w' : Worker) : Prop where
  applied : w.applied[uid]? = w'.applied[uid]?
  statuses : w.statuses[uid]? = w'.statuses[uid]?
  rebuilds : w.rebuilds = w'.rebuilds

theorem SameFor.rebuild {w w' : Worker} {s' : Snapshot} (hw : SameFor uid w w')
    (h : AgreeOn p uid s s') (hs : (s.raw.manifests uid).length ≤ 1)
    (hs' : (s'.raw.manifests uid).length ≤ 1) :
    SameFor uid (rebuild p w s) (rebuild p w' s') := by
  obtain ⟨ha, hst⟩ := rebuild_get (p := p) (w := w) hs
  obtain ⟨ha', hst'⟩ := rebuild_get (p := p) (w := w') hs'
  have hround : (Loader.rebuild p w s).rebuilds = (Loader.rebuild p w' s').rebuilds :=
    congrArg (· + 1) hw.rebuilds
  rw [← h.1, ← hw.applied, ← hw.statuses, ← hw.rebuilds] at ha' hst'
  cases ht : s.raw.manifestText uid with
  | none =>
    rw [ht] at ha hst ha' hst'
    exact ⟨ha.trans ha'.symm, hst.trans hst'.symm, hround⟩
  | some text =>
    have hr := resolve_agree h ht w.rebuilds w.applied[uid]? w.statuses[uid]?
    rw [ht] at ha hst ha' hst'
    rw [Option.bind_some, hr] at ha
    rw [Option.map_some, hr] at hst
    exact ⟨ha.trans ha'.symm, hst.trans hst'.symm, hround⟩

theorem SameFor.foldl {snapshots' : List Snapshot}
    (h : List.Forall₂ (AgreeOn p uid) snapshots snapshots') (hu : UniqueManifest uid snapshots)
    (hu' : UniqueManifest uid snapshots') {w w' : Worker} (hw : SameFor uid w w') :
    SameFor uid (snapshots.foldl (Loader.rebuild p) w) (snapshots'.foldl (Loader.rebuild p) w') := by
  induction h generalizing w w' with
  | nil => exact hw
  | cons hs _ ih =>
    exact ih (fun t ht => hu t (.tail _ ht)) (fun t ht => hu' t (.tail _ ht))
      (hw.rebuild hs (hu _ (.head _)) (hu' _ (.head _)))

/-- After every rebuild a Gateway has the table of its latest successful load since its manifest was last
absent, the same pointer while the generation stays, and a status that describes both. -/
theorem rebuild_keeps_last_valid (p : Platform) (uid : String) (snapshots : List Snapshot)
    (hu : UniqueManifest uid snapshots) :
    (∀ table index, (run p snapshots).applied[uid]? = some ⟨table, index⟩ ↔
      Latest (snapshotEffect p uid) snapshots table index) ∧
    (∀ before s, snapshots = before ++ [s] →
      (s.raw.manifestText uid = none →
        (run p snapshots).applied[uid]? = none ∧ (run p snapshots).statuses[uid]? = none) ∧
      ∀ text, s.raw.manifestText uid = some text →
        (∀ manifest l, p.unmarshal manifestCodec "Manifest" text = .ok manifest →
          (run p before).applied[uid]? = some l → l.table.generation = manifest.generation →
          (run p snapshots).applied[uid]? = some l) ∧
        ∃ status, (run p snapshots).statuses[uid]? = some status ∧
          StatusDescribes p (run p before).applied[uid]? (run p snapshots).applied[uid]? s.raw text
            status) ∧
    ∀ snapshots', UniqueManifest uid snapshots' →
      List.Forall₂ (AgreeOn p uid) snapshots snapshots' →
      (run p snapshots).applied[uid]? = (run p snapshots').applied[uid]? ∧
        (run p snapshots).statuses[uid]? = (run p snapshots').statuses[uid]? := by
  refine ⟨fun table index => run_applied_iff hu, ?_, fun snapshots' hu' hagree => ?_⟩
  · rintro before s rfl
    obtain ⟨ha, hs⟩ := rebuild_get (p := p) (w := run p before) hu.last
    rw [run_concat]
    refine ⟨fun hn => ?_, fun text ht => ?_⟩
    · rw [hn] at ha hs
      exact ⟨ha, hs⟩
    · rw [ht, Option.bind_some] at ha
      rw [ht, Option.map_some] at hs
      refine ⟨fun manifest l hm hl hg => ?_, _, hs, ?_⟩
      · rw [ha, resolve, hm]
        simp only
        rw [if_pos (by rw [hl, Option.map_some, hg]), hl]
      · rw [ha]
        exact resolve_status (run_consistent hu.init)
  · have hsame := SameFor.foldl hagree hu hu' (⟨rfl, rfl, rfl⟩ : SameFor uid newWorker newWorker)
    exact ⟨hsame.applied, hsame.statuses⟩

/-! A generation that loads, followed by a malformed manifest. -/

def goodConfig : GatewayConfig := ⟨"g", "default", "gateway", [], false, []⟩

def goodManifest : Manifest :=
  ⟨"g", "gen1", "", [⟨objectKindConfigMap, "cfg", gatewayConfigCodec.marshal goodConfig⟩]⟩

def snapshotOf (configMaps : List ConfigMap) : Snapshot where
  raw := ⟨GoMap.setAll ∅ (configMaps.map fun cm => (cm.name, cm)), ∅⟩
  visited := ((GoMap.setAll ∅ (configMaps.map fun cm => (cm.name, cm))).toList).map Prod.snd
  perm := List.Perm.refl _

def manifestMap (text : String) : ConfigMap :=
  ⟨"manifest", (baseLabels "g").insert labelRole roleManifest,
    (∅ : GoMap String String).insert manifestKey text⟩

def goodSnapshot : Snapshot :=
  snapshotOf [manifestMap (manifestCodec.marshal goodManifest),
    ⟨"cfg", objectLabels "g" "gen1" roleGatewayCfg,
      (∅ : GoMap String String).insert dataKey (gatewayConfigCodec.marshal goodConfig)⟩]

def malformedSnapshot : Snapshot := snapshotOf [manifestMap "\x7b"]

theorem malformed_manifest_keeps_table :
    (run .trusting [goodSnapshot, malformedSnapshot]).applied["g"]? = some ⟨⟨"gen1", ∅, ∅⟩, 0⟩ := by
  have hu : UniqueManifest "g" [goodSnapshot, malformedSnapshot] := by
    unfold UniqueManifest
    decide
  refine ((rebuild_keeps_last_valid .trusting "g" _ hu).1 _ _).mpr ?_
  refine ⟨[], goodSnapshot, [malformedSnapshot], rfl, rfl, by decide +kernel, ?_⟩
  intro mid later rest he
  have hmid : mid = [] := by
    cases mid with
    | nil => rfl
    | cons x mid => simp at he
  subst hmid
  obtain ⟨rfl, -⟩ := List.cons.inj he
  decide

end Krouter.Loader
