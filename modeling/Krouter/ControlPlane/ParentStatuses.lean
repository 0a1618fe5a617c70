import Krouter.ControlPlane.Attach
import Krouter.ControlPlane.Conditions

/-! The statuses of a route's parents: what this controller reports, merged into what is there. -/

namespace Krouter.ControlPlane

structure RouteParentStatus where
  parentRef : ParentReference
  controllerName : String
  conditions : List Condition
  deriving DecidableEq

section
variable (controllerName : String)

def parentStatuses (outcomes : List (ParentReference × RouteOutcome)) (generation : Int) : List RouteParentStatus :=
  outcomes.map fun (parentRef, outcome) =>
    ⟨parentRef, controllerName,
      [condition "Accepted" (boolStatus outcome.accepted) outcome.acceptedReason.text "" generation,
        condition "ResolvedRefs" (boolStatus outcome.refsResolved) outcome.refsReason.text outcome.refsMessage
          generation]⟩

def heldConditions (existing : List RouteParentStatus) (parentRef : ParentReference) : List Condition :=
  ((existing.find? fun current => current.controllerName = controllerName ∧ current.parentRef = parentRef).map
    RouteParentStatus.conditions).getD []

/-- The statuses of this controller. Each is merged at a time of its own. -/
def mergeOurs (clock : Nat → Int) (existing ours : List RouteParentStatus) : List RouteParentStatus :=
  ours.mapIdx fun i parent => { parent with
    conditions := mergeConditions (clock i) (heldConditions controllerName existing parent.parentRef) parent.conditions }

def mergeParentStatuses (clock : Nat → Int) (existing ours : List RouteParentStatus) : List RouteParentStatus × Bool :=
  let desired := existing.filter (fun parent => parent.controllerName ≠ controllerName) ++
    mergeOurs controllerName clock existing ours
  (desired, existing ≠ desired)

end

section
variable {controllerName : String} {outcomes : List (ParentReference × RouteOutcome)} {generation : Int}
  (clock : Nat → Int) (existing : List RouteParentStatus)

section
variable {ours : List RouteParentStatus} (hours : ours = parentStatuses controllerName outcomes generation)
include hours

theorem mem_mergeOurs {parent : RouteParentStatus}
    (h : parent ∈ mergeOurs controllerName clock existing ours) :
    parent.controllerName = controllerName := by
  simp only [hours, mergeOurs, List.mem_mapIdx, parentStatuses, List.getElem_map] at h
  obtain ⟨i, hi, rfl⟩ := h
  rfl

theorem parentRef_mergeOurs :
    (mergeOurs controllerName clock existing ours).map
      RouteParentStatus.parentRef = outcomes.map Prod.fst :=
  List.ext_getElem (by simp [hours, mergeOurs, parentStatuses]) fun i hi hi' => by simp [hours, mergeOurs, parentStatuses]

theorem filter_merged :
    (mergeParentStatuses controllerName clock existing ours).1.filter
        (fun parent => parent.controllerName ≠ controllerName) =
      existing.filter (fun parent => parent.controllerName ≠ controllerName) ∧
    (mergeParentStatuses controllerName clock existing ours).1.filter
        (fun parent => parent.controllerName = controllerName) =
      mergeOurs controllerName clock existing ours := by
  have hforeign : ∀ parent ∈ existing.filter (fun parent => parent.controllerName ≠ controllerName),
      parent.controllerName ≠ controllerName := fun parent hparent => of_decide_eq_true (List.mem_filter.mp hparent).2
  rw [mergeParentStatuses, List.filter_append, List.filter_append]
  constructor
  · refine (congrArg₂ (· ++ ·) (List.filter_eq_self.mpr ?_) (List.filter_eq_nil_iff.mpr ?_)).trans (List.append_nil _)
    · exact fun parent hparent => decide_eq_true (hforeign parent hparent)
    · exact fun parent hparent => by simp [mem_mergeOurs clock existing hours hparent]
  · refine congrArg₂ (· ++ ·) (List.filter_eq_nil_iff.mpr ?_) (List.filter_eq_self.mpr ?_)
    · exact fun parent hparent => by simp [hforeign parent hparent]
    · exact fun parent hparent => decide_eq_true (mem_mergeOurs clock existing hours hparent)

theorem heldConditions_merged (hdistinct : (outcomes.map Prod.fst).Nodup) {parent : RouteParentStatus}
    (hparent : parent ∈ mergeOurs controllerName clock existing ours) : heldConditions controllerName
      (mergeParentStatuses controllerName clock existing ours).1 parent.parentRef = parent.conditions := by
  have hnodup : ((mergeOurs controllerName clock existing ours).map
      fun current => (current.controllerName, current.parentRef)).Nodup := by
    refine List.Nodup.of_map Prod.snd ?_
    rw [List.map_map]
    exact (parentRef_mergeOurs clock existing hours).symm ▸ hdistinct
  have hfind := find?_key_of_mem hnodup hparent
  simp only [Prod.mk.injEq, mem_mergeOurs clock existing hours hparent] at hfind
  have hforeign : (existing.filter fun current => current.controllerName ≠ controllerName).find? (fun current =>
      current.controllerName = controllerName ∧ current.parentRef = parent.parentRef) = none := by
    refine List.find?_eq_none.mpr fun current hcurrent => ?_
    have hne := of_decide_eq_true (List.mem_filter.mp hcurrent).2
    simp [hne]
  rw [heldConditions, mergeParentStatuses, List.find?_append, hforeign, Option.none_or, hfind]
  rfl

theorem mergeOurs_merged (hdistinct : (outcomes.map Prod.fst).Nodup) (clock' : Nat → Int) :
    mergeOurs controllerName clock' (mergeParentStatuses controllerName clock existing ours).1 ours =
      mergeOurs controllerName clock existing ours := by
  refine List.ext_getElem (by simp [mergeOurs]) fun i hi hi' => ?_
  have hheld := heldConditions_merged clock existing hours hdistinct (List.getElem_mem hi')
  simp only [mergeOurs, List.getElem_mapIdx] at hheld ⊢
  rw [hheld, mergeConditions_of_content (clock' i) (mergeConditions_content ..)]
  simp [hours, parentStatuses, condition]

end

end

def shopParent (sectionName : String) : ParentReference := ⟨none, none, none, "shop", some sectionName, none⟩

end Krouter.ControlPlane
