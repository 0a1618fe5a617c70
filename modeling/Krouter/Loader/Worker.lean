import Krouter.Lib.Folds
import Krouter.Routing.Load

/-! The loader: for every snapshot of the generated objects it loads the desired generation of each
Gateway and keeps the last valid one on failure. -/

namespace Krouter.Loader
open Compiled Routing

/-- One consistent read of the generated objects, by name. -/
structure RawConfig where
  configMaps : GoMap String ConfigMap
  secrets : GoMap String Secret

/-- A pointer to a table: the table and the number of the rebuild that allocated it. -/
structure Loaded where
  table : GatewayTable
  loadedAt : Nat
  deriving DecidableEq

structure Worker where
  applied : GoMap String Loaded
  statuses : GoMap String GatewayStatus
  tables : Tables
  rebuilds : Nat

def newWorker : Worker := ⟨∅, ∅, emptyTables, 0⟩

section
variable (p : Platform)

def keepPrevious (previous : Option Loaded) (previousStatus : Option GatewayStatus)
    (desired err : String) : Option Loaded × GatewayStatus :=
  match previous with
  | some loaded => (some loaded, ⟨desired, loaded.table.generation, err⟩)
  | none => (none, ⟨desired, (previousStatus.map GatewayStatus.appliedGeneration).getD "", err⟩)

/-- What one manifest makes of the table and the status of its Gateway. -/
def resolve (now : Nat) (previous : Option Loaded) (previousStatus : Option GatewayStatus)
    (raw : RawConfig) (text : String) : Option Loaded × GatewayStatus :=
  match p.unmarshal manifestCodec "Manifest" text with
  | .error err => keepPrevious previous previousStatus "" ("invalid manifest: " ++ err)
  | .ok manifest =>
    if previous.map (·.table.generation) = some manifest.generation then
      (previous, ⟨manifest.generation, manifest.generation, ""⟩)
    else
      match loadGeneration p manifest raw.configMaps raw.secrets (previous.map Loaded.table) with
      | .ok table => (some ⟨table, now⟩, ⟨manifest.generation, manifest.generation, ""⟩)
      | .error err => keepPrevious previous previousStatus manifest.generation err

def manifestUID (cm : ConfigMap) : String :=
  if cm.labels.read labelRole "" = roleManifest then cm.labels.read labelGatewayUID "" else ""

abbrev Rebuilt := GoMap String Loaded × GoMap String GatewayStatus

def rebuildOne (w : Worker) (raw : RawConfig) (acc : Rebuilt) (cm : ConfigMap) : Rebuilt :=
  let uid := manifestUID cm
  if uid = "" then acc
  else
    let (table, status) := resolve p w.rebuilds w.applied[uid]? w.statuses[uid]? raw
      (cm.data.read manifestKey "")
    ((match table with
      | some loaded => acc.1.insert uid loaded
      | none => acc.1), acc.2.insert uid status)

/-- A snapshot, and the order in which the loop happens to visit its ConfigMaps. -/
structure Snapshot where
  raw : RawConfig
  visited : List ConfigMap
  perm : visited.Perm (raw.configMaps.toList.map Prod.snd)

def rebuild (w : Worker) (s : Snapshot) : Worker :=
  let (applied, statuses) := s.visited.foldl (rebuildOne p w s.raw) (∅, ∅)
  ⟨applied, statuses, mergeTables (applied.toList.map fun entry => entry.2.table), w.rebuilds + 1⟩

def run (snapshots : List Snapshot) : Worker := snapshots.foldl (rebuild p) newWorker

end

/-! ## One Gateway at a time -/

namespace RawConfig

def manifests (raw : RawConfig) (uid : String) : List ConfigMap :=
  (raw.configMaps.toList.map Prod.snd).filter fun cm => uid ≠ "" ∧ manifestUID cm = uid

def manifestText (raw : RawConfig) (uid : String) : Option String :=
  (raw.manifests uid).head?.map fun cm => cm.data.read manifestKey ""

end RawConfig

variable {p : Platform} {w : Worker} {uid : String}

theorem rebuildOne_of_ne (raw : RawConfig) (acc : Rebuilt) {cm : ConfigMap}
    (h : ¬ (uid ≠ "" ∧ manifestUID cm = uid)) :
    (rebuildOne p w raw acc cm).1[uid]? = acc.1[uid]? ∧
      (rebuildOne p w raw acc cm).2[uid]? = acc.2[uid]? := by
  unfold rebuildOne
  by_cases h0 : manifestUID cm = ""
  · simp only [if_pos h0, and_self]
  · have hne : manifestUID cm ≠ uid := fun he => h ⟨he ▸ h0, he⟩
    simp only [if_neg h0]
    refine ⟨?_, GoMap.get_insert_of_ne _ _ hne⟩
    split
    · exact GoMap.get_insert_of_ne _ _ hne
    · rfl

theorem foldl_rebuildOne_of_ne (raw : RawConfig) {cms : List ConfigMap}
    (h : ∀ cm ∈ cms, ¬ (uid ≠ "" ∧ manifestUID cm = uid)) (acc : Rebuilt) :
    (cms.foldl (rebuildOne p w raw) acc).1[uid]? = acc.1[uid]? ∧
      (cms.foldl (rebuildOne p w raw) acc).2[uid]? = acc.2[uid]? :=
  ⟨List.foldl_kept (fun acc => acc.1[uid]?) (fun acc cm hcm => (rebuildOne_of_ne raw acc (h cm hcm)).1) acc,
    List.foldl_kept (fun acc => acc.2[uid]?) (fun acc cm hcm => (rebuildOne_of_ne raw acc (h cm hcm)).2) acc⟩

theorem rebuildOne_self (raw : RawConfig) {acc : Rebuilt} {cm : ConfigMap} (ha : acc.1[uid]? = none)
    (h0 : uid ≠ "") (h : manifestUID cm = uid) :
    (rebuildOne p w raw acc cm).1[uid]? = (resolve p w.rebuilds w.applied[uid]? w.statuses[uid]? raw
        (cm.data.read manifestKey "")).1 ∧
      (rebuildOne p w raw acc cm).2[uid]? = some (resolve p w.rebuilds w.applied[uid]?
        w.statuses[uid]? raw (cm.data.read manifestKey "")).2 := by
  unfold rebuildOne
  simp only [h, if_neg h0, GoMap.get_insert_self, and_true]
  split
  · rename_i loaded hr
    rw [GoMap.get_insert_self, hr]
  · rename_i hr
    rw [ha, hr]

theorem rebuild_get {s : Snapshot} (h : (s.raw.manifests uid).length ≤ 1) :
    (rebuild p w s).applied[uid]? = ((s.raw.manifestText uid).bind fun text =>
        (resolve p w.rebuilds w.applied[uid]? w.statuses[uid]? s.raw text).1) ∧
      (rebuild p w s).statuses[uid]? = ((s.raw.manifestText uid).map fun text =>
        (resolve p w.rebuilds w.applied[uid]? w.statuses[uid]? s.raw text).2) := by
  have hperm : (s.visited.filter fun cm => uid ≠ "" ∧ manifestUID cm = uid).Perm
      (s.raw.manifests uid) := s.perm.filter _
  unfold rebuild RawConfig.manifestText
  cases hm : s.raw.manifests uid with
  | nil =>
    rw [hm] at hperm
    have hnone := List.filter_eq_nil_iff.mp hperm.eq_nil
    obtain ⟨ha, hs⟩ := foldl_rebuildOne_of_ne (p := p) (w := w) s.raw
      (fun cm hcm => by simpa using hnone cm hcm) (∅, ∅)
    exact ⟨ha.trans (GoMap.get_empty uid), hs.trans (GoMap.get_empty uid)⟩
  | cons cm rest =>
    obtain rfl : rest = [] := by
      rw [hm] at h
      exact List.length_eq_zero_iff.mp (by simpa using h)
    rw [hm] at hperm
    obtain ⟨before, after, hv, hb, hcm, ha⟩ := List.filter_eq_cons_iff.mp hperm.eq_singleton
    have hbefore := foldl_rebuildOne_of_ne (p := p) (w := w) s.raw
      (fun d hd => by simpa using hb d hd) (∅, ∅)
    have hafter := foldl_rebuildOne_of_ne (p := p) (w := w) s.raw
      (fun d hd => by simpa using List.filter_eq_nil_iff.mp ha d hd)
      (rebuildOne p w s.raw (before.foldl (rebuildOne p w s.raw) (∅, ∅)) cm)
    simp only [decide_eq_true_eq] at hcm
    have hself := rebuildOne_self (p := p) (w := w) s.raw
      (hbefore.1.trans (GoMap.get_empty uid)) hcm.1 hcm.2
    rw [hv, List.foldl_append, List.foldl_cons]
    exact ⟨hafter.1.trans hself.1, hafter.2.trans hself.2⟩

end Krouter.Loader
