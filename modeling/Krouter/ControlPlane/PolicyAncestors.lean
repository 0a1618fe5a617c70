import Krouter.ControlPlane.BackendTLSPolicies
import Krouter.ControlPlane.RejectedListeners

/-! The ancestors of a BackendTLSPolicy, read off the parent references of the routes, which may name a
ListenerSet in place of its Gateway. -/

namespace Krouter.ControlPlane
open Compiled GoString Routing

structure GatewayRef where
  ns : String
  name : String
  deriving DecidableEq

def GatewayRef.key (ref : GatewayRef) : String := nsName ref.ns ref.name

/-- What an outcome was computed for. -/
structure Placement where
  gw : Gateway
  sets : List ListenerSetState
  listeners : List ListenerState
  route : Route
  parentRef : ParentReference

namespace Placement
variable {D : Type} (docs : Documents D) (p : Platform) (w : Snapshot) (policy : BackendTLSPolicy) (a : Placement)

def gateway : GatewayRef := ⟨a.gw.ns, a.gw.name⟩

/-- The parent reference, taken for one to a Gateway. -/
def named : GatewayRef := ⟨a.parentRef.ns.getD a.route.meta.ns, a.parentRef.name⟩

def throughSet : Bool := a.parentRef.kind = some "ListenerSet"

def outcome : Option RouteOutcome :=
  (resolveRouteParent a.parentRef a.route.meta.ns a.gw a.sets).map fun ownerKey =>
    (a.route.attach docs p w a.gw (listenersOwnedBy a.listeners ownerKey) a.parentRef).1

def references : List String :=
  ((a.outcome docs p w).bind RouteOutcome.config).elim [] fun config =>
    config.rules.flatMap fun rule => rule.backends.map fun backend => nsName backend.ns backend.name

/-- The route is accepted and refers to a Service that the policy targets. -/
def Concerns : Prop := (∃ outcome ∈ a.outcome docs p w, outcome.accepted = true) ∧
  ∃ t ∈ policy.targetRefs, t.isService = true ∧ targetKey policy t ∈ a.references docs p w

end Placement

section
variable {D : Type} (docs : Documents D) (p : Platform) (w : Snapshot) (claimed : GoMap String Bool)
  (policy : BackendTLSPolicy) (placements : List Placement)

/-- The ancestors that the outcomes add to the state of one policy, in the order of the visit. -/
def ancestorEntries : List (String × GatewayRef) :=
  placements.flatMap fun a => (a.references docs p w).flatMap fun key =>
    ((bindTargets p w.toWorld claimed policy).bound.filter fun b => b.key = key).map fun _ => (a.named.key, a.named)

def collectBackendTLSAncestors : GoMap String GatewayRef :=
  GoMap.setAll ∅ (ancestorEntries docs p w claimed policy placements)

def RightAncestors : Prop := ∀ key ref,
  (collectBackendTLSAncestors docs p w claimed policy placements)[key]? = some ref ↔
    key = ref.key ∧ ∃ a ∈ placements, a.Concerns docs p w policy ∧ a.gateway = ref

variable {docs p w claimed policy placements}

theorem bound_keys : (bindTargets p w.toWorld claimed policy).bound.map BoundTarget.key =
    (policy.targetRefs.filter PolicyTarget.isService).map (targetKey policy) := by
  rw [← List.filterMap_eq_filter]
  refine (List.foldl_appends (fun s : TargetPass => s.bound.map BoundTarget.key) (fun _ => True) ?_ ?_ trivial).1
  · intro s t _ ht
    have hother : ¬ t.isService = true := by simpa [Option.guard] using ht
    rw [bindTarget, if_pos hother]
    exact ⟨rfl, trivial⟩
  · intro s t u _ _ ht
    obtain ⟨rfl, hservice⟩ := Option.guard_eq_some_iff.mp ht
    rw [bindTarget, if_neg (not_not_intro hservice), List.map_append]
    exact ⟨rfl, trivial⟩

theorem accepted_of_references {a : Placement} {key : String} (h : key ∈ a.references docs p w) :
    ∃ outcome ∈ a.outcome docs p w, outcome.accepted = true := by
  unfold Placement.references at h
  cases hconfig : (a.outcome docs p w).bind RouteOutcome.config with
  | none =>
    rw [hconfig] at h
    cases h
  | some config =>
    obtain ⟨outcome, houtcome, hconfig⟩ := Option.bind_eq_some_iff.mp hconfig
    refine ⟨outcome, houtcome, ?_⟩
    obtain ⟨ownerKey, -, rfl⟩ := Option.map_eq_some_iff.mp houtcome
    exact (config_isSome_iff _ _).mp (Option.isSome_of_mem hconfig)

theorem concerns_iff {a : Placement} : a.Concerns docs p w policy ↔ ∃ key ∈ a.references docs p w,
    key ∈ (bindTargets p w.toWorld claimed policy).bound.map BoundTarget.key := by
  rw [bound_keys]
  constructor
  · rintro ⟨-, t, ht, hservice, hkey⟩
    exact ⟨_, hkey, List.mem_map_of_mem (List.mem_filter.mpr ⟨ht, hservice⟩)⟩
  · rintro ⟨key, hkey, hbound⟩
    obtain ⟨t, ht, rfl⟩ := List.mem_map.mp hbound
    obtain ⟨ht, hservice⟩ := List.mem_filter.mp ht
    exact ⟨accepted_of_references hkey, t, ht, hservice, hkey⟩

theorem collected_iff (hplain : ∀ a ∈ placements, '/' ∉ a.named.ns.toList) {key : String} {ref : GatewayRef} :
    (collectBackendTLSAncestors docs p w claimed policy placements)[key]? = some ref ↔
      key = ref.key ∧ ∃ a ∈ placements, a.Concerns docs p w policy ∧ a.named = ref := by
  have hmem : ∀ ref, (key, ref) ∈ ancestorEntries docs p w claimed policy placements ↔ key = ref.key ∧ ∃ a ∈ placements, a.Concerns docs p w policy ∧ a.named = ref := by
    intro ref
    simp only [ancestorEntries, List.mem_flatMap, List.mem_map, List.mem_filter, decide_eq_true_eq, Prod.mk.injEq,
      @concerns_iff _ _ _ _ claimed]
    constructor
    · rintro ⟨a, ha, k, hk, b, ⟨hb, rfl⟩, rfl, rfl⟩
      exact ⟨rfl, a, ha, ⟨_, hk, b, hb, rfl⟩, rfl⟩
    · rintro ⟨rfl, a, ha, ⟨k, hk, b, hb, rfl⟩, rfl⟩
      exact ⟨a, ha, _, hk, b, ⟨hb, rfl⟩, rfl, rfl⟩
  rw [collectBackendTLSAncestors, GoMap.get_setAll_empty, hmem]
  intro ref' h h'
  obtain ⟨hkey, a, ha, -, rfl⟩ := (hmem _).mp h
  obtain ⟨hkey', b, hb, -, rfl⟩ := (hmem _).mp h'
  obtain ⟨hns, hname⟩ := joined_inj (c := '/') rfl (.inl ⟨hplain b hb, hplain a ha⟩) (hkey'.symm.trans hkey)
  exact congrArg₂ GatewayRef.mk hns hname

theorem named_eq_gateway {a : Placement} {ownerKey : String} (hdirect : ¬ a.throughSet = true)
    (h : resolveRouteParent a.parentRef a.route.meta.ns a.gw a.sets = some ownerKey) : a.named = a.gateway := by
  have hset : ¬ a.parentRef.kind.getD "Gateway" = "ListenerSet" := by
    unfold Placement.throughSet at hdirect
    cases hkind : a.parentRef.kind with
    | none => decide
    | some kind => simpa [hkind] using hdirect
  unfold resolveRouteParent at h
  dsimp only at h
  split_ifs at h with _ _ howner
  exact congrArg₂ GatewayRef.mk howner.1 howner.2

end

/-! A route of a Gateway, and the same route of one of its ListenerSets. -/

def ledgerPlacement (kind : Option String) (name : String) (set : Option SetName) : Placement where
  gw := .small [] none
  sets := [⟨⟨"shop", "team", 0, ⟨none, none, none, "gw", none, none⟩, []⟩, true⟩]
  listeners := [{ tcpListener with set }]
  route := ledgerRoute
  parentRef := ⟨none, kind, none, name, none, none⟩

end Krouter.ControlPlane
