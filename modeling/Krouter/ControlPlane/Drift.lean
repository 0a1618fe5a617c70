import Mathlib.Data.List.Nodup
import Mathlib.Data.List.Perm.Subperm
import Krouter.ControlPlane.Frontend

/-! What `equalStringMaps` takes for equal. A key that the second map lacks reads as the empty string,
so an empty entry of the first can stand for a missing one. -/

namespace Krouter.Publish
open Calls Compiled Kube

section
variable {a b : GoMap String String}

/-- The maps differ in keys alone, as many on both sides, with empty values on the first. -/
structure Mistaken (a b : GoMap String String) : Prop where
  size : a.size = b.size
  entries : ∀ k v : String, a[k]? = some v → b[k]? = some v ∨ v = "" ∧ b[k]? = none
  missing : ∃ k : String, a[k]? = some "" ∧ b[k]? = none

theorem equalStringMaps_eq_true :
    equalStringMaps a b = true ↔ a.size = b.size ∧ ∀ k v : String, a[k]? = some v → GoMap.read b k "" = v := by
  simp only [equalStringMaps, Bool.and_eq_true, beq_iff_eq, List.all_eq_true, Prod.forall, GoMap.mem_toList]

theorem eq_of_entries (hsize : a.size = b.size) (h : ∀ k v : String, a[k]? = some v → b[k]? = some v) : a = b := by
  have hsub : a.toList.Subperm b.toList := by
    refine List.subperm_of_subset (List.Nodup.of_map _ (GoMap.toList_keys_nodup a)) ?_
    rintro ⟨k, v⟩ hkv
    exact GoMap.mem_toList.mpr (h k v (GoMap.mem_toList.mp hkv))
  have hlength : b.toList.length ≤ a.toList.length := by
    rw [Std.ExtTreeMap.length_toList, Std.ExtTreeMap.length_toList]
    exact Nat.le_of_eq hsize.symm
  have hperm := hsub.perm_of_length_le hlength
  apply Std.ExtTreeMap.ext_getElem?
  intro k
  apply Option.ext
  intro v
  rw [← GoMap.mem_toList, ← GoMap.mem_toList, hperm.mem_iff]

theorem equalStringMaps_iff : equalStringMaps a b = true ↔ a = b ∨ Mistaken a b := by
  rw [equalStringMaps_eq_true]
  constructor
  · rintro ⟨hsize, hread⟩
    refine or_iff_not_imp_left.mpr fun hne => ?_
    have hentries : ∀ k v : String, a[k]? = some v → b[k]? = some v ∨ v = "" ∧ b[k]? = none := by
      intro k v hv
      have hvalue := hread k v hv
      rw [GoMap.read] at hvalue
      cases hget : b[k]? with
      | some w => exact .inl (by rw [← hvalue, hget]; rfl)
      | none => exact .inr ⟨by rw [← hvalue, hget]; rfl, rfl⟩
    refine ⟨hsize, hentries, ?_⟩
    by_contra hmissing
    refine hne (eq_of_entries hsize fun k v hv => (hentries k v hv).resolve_right ?_)
    rintro ⟨rfl, hnone⟩
    exact hmissing ⟨k, hv, hnone⟩
  · rintro (rfl | h)
    · exact ⟨rfl, fun k v hv => GoMap.read_of_get hv ""⟩
    · refine ⟨h.size, fun k v hv => ?_⟩
      rcases h.entries k v hv with hget | ⟨rfl, hnone⟩
      · exact GoMap.read_of_get hget ""
      · rw [GoMap.read, hnone]
        rfl

theorem Mistaken.ne (h : Mistaken a b) : a ≠ b := by
  rintro rfl
  obtain ⟨k, hk, hnone⟩ := h.missing
  cases hk.symm.trans hnone

end

/-! ## Updates that are skipped -/

/-- The manifest that is written over a stored ConfigMap. -/
def overwriting (existing : ConfigMap) (m : Manifest) : Manifest :=
  let stored := (manifestCodec.unmarshal (GoMap.read existing.data manifestKey "")).getD ⟨"", "", "", []⟩
  { m with previous := previousAfter stored m.generation }

end Krouter.Publish

namespace Krouter.Idempotence
open Compiled Publish

/-- The publication leaves this ConfigMap alone. -/
def Seen (cm : ConfigMap) (m : Manifest) : Prop :=
  equalStringMaps cm.data (manifestData m) = true ∧ GoMap.read cm.labels labelRole "" = roleManifest

instance (cm : ConfigMap) (m : Manifest) : Decidable (Seen cm m) := inferInstanceAs (Decidable (_ ∧ _))

def repaired (uid : String) (cm : ConfigMap) (m : Manifest) : ConfigMap :=
  { cm with
    labels := (GoMap.setAll cm.labels (baseLabels uid).toList).insert labelRole roleManifest
    data := manifestData m }

end Krouter.Idempotence

namespace Krouter.Publish
open Calls Compiled Kube Idempotence

theorem ensureManifest_eq (uid : String) (m : Manifest) : ensureManifest uid m =
    configMaps.ensure (manifestName uid) (manifestConfigMap uid m)
      (fun cm => if Seen cm (overwriting cm m) then none else some (repaired uid cm (overwriting cm m)))
      fun found => found.elim m (overwriting · m) := by
  refine congrArg (fun f => (configMaps.get (manifestName uid)).attempt >>= f) (funext fun result => ?_)
  rcases result with (_ | _ | _) | existing
  · rfl
  · rfl
  · rfl
  · by_cases hseen : Seen existing (overwriting existing m)
    · have hskip := Bool.and_eq_true_iff.mpr ⟨hseen.1, beq_iff_eq.mpr hseen.2⟩
      dsimp only
      rw [if_pos hseen]
      exact if_pos hskip
    · dsimp only
      rw [if_neg hseen]
      exact if_neg fun h => hseen ⟨(Bool.and_eq_true_iff.mp h).1, beq_iff_eq.mp (Bool.and_eq_true_iff.mp h).2⟩

theorem ensureFrontend_eq (r : Frontend.Request) : Frontend.ensureFrontend r =
    services.ensure r.serviceName (Frontend.desiredFrontend r.gw r.ports r.service r.portMapJSON none)
      (fun existing => if Frontend.serviceEqual existing (r.updated existing) then none else some (r.updated existing))
      fun _ => () := by
  have hunit : ∀ write : Api Unit, (write >>= fun _ => pure ()) = write := by
    intro write
    funext fails s
    simp only [Bind.bind, Program.andThen]
    rcases write fails s with ⟨_ | _, _, _⟩
    · rfl
    · simp [Pure.pure, Program.ret]
  refine congrArg (fun f => (services.get r.serviceName).attempt >>= f) (funext fun result => ?_)
  rcases result with (_ | _ | _) | existing
  · exact (hunit _).symm
  · rfl
  · rfl
  · dsimp only
    split
    · rfl
    · exact (hunit _).symm

section
variable {s : Store}

theorem ensureManifest_visited {uid : String} (m : Manifest) {existing : ConfigMap}
    (h : s.configMaps[manifestName uid]? = some existing) :
    (ensureManifest uid m (fun _ => false) s).visited = [] ↔ Seen existing (overwriting existing m) := by
  rw [ensureManifest_eq, configMaps.ensure_of_some h]
  by_cases hseen : Seen existing (overwriting existing m) <;> simp [hseen]

theorem ensureFrontend_visited (r : Frontend.Request) {existing : FrontendService}
    (h : s.services[r.serviceName]? = some existing) :
    (Frontend.ensureFrontend r (fun _ => false) s).visited = [] ↔
      Frontend.serviceEqual existing (r.updated existing) = true := by
  rw [ensureFrontend_eq, services.ensure_of_some h]
  by_cases hsame : Frontend.serviceEqual existing (r.updated existing) = true <;> simp [hsame]

end

/-- Maps are told apart unless mistaken for each other. An update of the manifest or the frontend is
left out when what is compared is as desired, or was mistaken for it. -/
theorem drift_detected_iff (a b : GoMap String String) :
    ((equalStringMaps a b = true ↔ a = b) ↔ ¬ Mistaken a b) ∧
    (∀ (s : Store) (uid : String) (m : Manifest) (existing : ConfigMap),
      s.configMaps[manifestName uid]? = some existing →
        let desired := manifestData (overwriting existing m)
        ((ensureManifest uid m (fun _ => false) s).visited = [] ↔
          (existing.data = desired ∨ Mistaken existing.data desired) ∧
            GoMap.read existing.labels labelRole "" = roleManifest)) ∧
    (∀ (s : Store) (r : Frontend.Request) (existing : FrontendService),
      s.services[r.serviceName]? = some existing →
        let desired := r.updated existing
        ((Frontend.ensureFrontend r (fun _ => false) s).visited = [] ↔
          (existing.labels = desired.labels ∨ Mistaken existing.labels desired.labels) ∧
          (existing.annotations = desired.annotations ∨ Mistaken existing.annotations desired.annotations) ∧
          existing.type = desired.type ∧ existing.externalTrafficPolicy = desired.externalTrafficPolicy ∧
          existing.selector.isEmpty = desired.selector.isEmpty ∧
          Frontend.servicePortsEqual existing.ports desired.ports = true ∧
          existing.ownerReferences.length = desired.ownerReferences.length)) := by
  refine ⟨?_, fun s uid m existing h => ?_, fun s r existing h => ?_⟩
  · rw [equalStringMaps_iff]
    exact ⟨fun h hmistaken => hmistaken.ne (h.mp (Or.inr hmistaken)),
      fun h => ⟨fun heq => heq.resolve_right h, Or.inl⟩⟩
  · intro desired
    rw [ensureManifest_visited m h, Seen, equalStringMaps_iff]
  · intro desired
    rw [ensureFrontend_visited r h, ← equalStringMaps_iff, ← equalStringMaps_iff]
    simp only [Frontend.serviceEqual, Bool.and_eq_true, beq_iff_eq, and_assoc]
    rfl

theorem renamed_key_overlooked :
    let stored : GoMap String String := GoMap.setAll ∅ [("app", "shop"), ("note", "")]
    let desired : GoMap String String := GoMap.setAll ∅ [("app", "shop"), ("team", "web")]
    equalStringMaps stored desired = true ∧ stored ≠ desired := by
  decide

end Krouter.Publish
