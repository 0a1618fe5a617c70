import Krouter.ControlPlane.Listeners

/-! Status conditions: how the wanted ones are merged into those already there, and the
top-level conditions of a Gateway. -/

namespace Krouter.ControlPlane

inductive ConditionStatus where
  | isTrue
  | isFalse
  | unknown
  deriving DecidableEq

def boolStatus (ok : Bool) : ConditionStatus := if ok then .isTrue else .isFalse

structure Condition where
  type : String
  status : ConditionStatus
  observedGeneration : Int
  lastTransitionTime : Int
  reason : String
  message : String
  deriving DecidableEq

def condition (type : String) (status : ConditionStatus) (reason message : String)
    (observedGeneration : Int) : Condition := ⟨type, status, observedGeneration, 0, reason, message⟩

def mergeCondition (now : Int) (existing : List Condition) (want : Condition) : Condition :=
  match existing.find? fun held => held.type = want.type with
  | none => { want with lastTransitionTime := now }
  | some held =>
    let want := { want with
      lastTransitionTime := if held.status = want.status then held.lastTransitionTime else now }
    if held.status = want.status ∧ held.reason = want.reason ∧ held.message = want.message ∧
        held.observedGeneration = want.observedGeneration then held
    else want

def mergeConditions (now : Int) (existing desired : List Condition) : List Condition :=
  desired.map (mergeCondition now existing)

/-! ## Merging -/

def Condition.content (c : Condition) : Condition := { c with lastTransitionTime := 0 }

theorem Condition.ext_content {c d : Condition} (h : c.content = d.content)
    (ht : c.lastTransitionTime = d.lastTransitionTime) : c = d := by
  cases c
  cases d
  simp only [content, mk.injEq] at h ht ⊢
  exact ⟨h.1, h.2.1, h.2.2.1, ht, h.2.2.2.2⟩

theorem Condition.type_eq {c d : Condition} (h : c.content = d.content) : c.type = d.type := by
  have htype : c.content.type = d.content.type := by rw [h]
  exact htype

theorem Condition.status_eq {c d : Condition} (h : c.content = d.content) : c.status = d.status := by
  have hstatus : c.content.status = d.content.status := by rw [h]
  exact hstatus

section
variable {now : Int} {existing desired kept : List Condition} {want : Condition}

def transitionTime (now : Int) (existing : List Condition) (want : Condition) : Int :=
  match existing.find? fun held => held.type = want.type with
  | none => now
  | some held => if held.status = want.status then held.lastTransitionTime else now

theorem mergeCondition_eq (now : Int) (existing : List Condition) (want : Condition) :
    mergeCondition now existing want =
      { want with lastTransitionTime := transitionTime now existing want } := by
  unfold mergeCondition transitionTime
  cases hfind : existing.find? fun held => held.type = want.type with
  | none => rfl
  | some held =>
    have htype : held.type = want.type := by simpa using List.find?_some hfind
    dsimp only
    split_ifs with hsame hstatus hstatus
    · cases held
      cases want
      simp only [Condition.mk.injEq] at hsame htype ⊢
      exact ⟨htype, hsame.1, hsame.2.2.2, trivial, hsame.2.1, hsame.2.2.1⟩
    · exact absurd hsame.1 hstatus
    · rfl
    · rfl

theorem mergeCondition_content : (mergeCondition now existing want).content = want.content := by
  rw [mergeCondition_eq]
  rfl

theorem mergeConditions_content (now : Int) (existing desired : List Condition) :
    (mergeConditions now existing desired).map Condition.content = desired.map Condition.content := by
  rw [mergeConditions, List.map_map]
  exact List.map_congr_left fun want _ => mergeCondition_content

theorem find?_key_of_mem {α κ : Type} [DecidableEq κ] {key : α → κ} {l : List α} (hnodup : (l.map key).Nodup) {a : α}
    (ha : a ∈ l) : (l.find? fun b => key b = key a) = some a := by
  induction l with
  | nil => cases ha
  | cons first rest ih =>
    rw [List.map_cons, List.nodup_cons] at hnodup
    rcases List.mem_cons.mp ha with rfl | ha
    · exact List.find?_cons_of_pos (decide_eq_true rfl)
    · have hother : key first ≠ key a := fun he => hnodup.1 (he ▸ List.mem_map_of_mem ha)
      rw [List.find?_cons, decide_eq_false hother]
      exact ih hnodup.2 ha

theorem mergeConditions_of_content (now : Int)
    (hcontent : kept.map Condition.content = desired.map Condition.content)
    (hnodup : (desired.map Condition.type).Nodup) : mergeConditions now kept desired = kept := by
  have htypes : kept.map Condition.type = desired.map Condition.type := by
    have := congrArg (List.map Condition.type) hcontent
    rwa [List.map_map, List.map_map] at this
  have hlength : desired.length = kept.length := by
    simpa using (congrArg List.length hcontent).symm
  refine List.ext_getElem (by rw [mergeConditions, List.length_map, hlength]) fun i hi hi' => ?_
  have hid : i < desired.length := hlength ▸ hi'
  have hsame : kept[i].content = desired[i].content := by
    have := List.getElem_of_eq hcontent (by rwa [List.length_map] : i < (kept.map Condition.content).length)
    rwa [List.getElem_map, List.getElem_map] at this
  have hfind : (kept.find? fun held => held.type = desired[i].type) = some kept[i] := by
    rw [← Condition.type_eq hsame]
    exact find?_key_of_mem (htypes ▸ hnodup) (List.getElem_mem hi')
  have htime : transitionTime now kept desired[i] = kept[i].lastTransitionTime := by
    rw [transitionTime, hfind]
    exact if_pos (Condition.status_eq hsame)
  simp only [mergeConditions, List.getElem_map]
  refine Condition.ext_content (mergeCondition_content.trans hsame.symm) ?_
  rw [mergeCondition_eq, htime]

end

/-! ## The conditions of a Gateway -/

structure Verdict where
  status : ConditionStatus
  reason : String
  message : String
  observedGeneration : Int
  deriving DecidableEq

def Verdict.as (v : Verdict) (type : String) : Condition :=
  condition type v.status v.reason v.message v.observedGeneration

structure GatewayAddresses where
  unsupportedType : Bool
  unusable : List String
  static : List String
  deriving DecidableEq

structure GatewaySpecAddress where
  type : Option String
  value : String
  deriving DecidableEq

def ipAddressType : String := "IPAddress"

/-- Addresses must be those of nodes with a healthy pod; one without a value is assigned. -/
def validateGatewayAddresses (nodeIPs : List String) (addresses : List GatewaySpecAddress) :
    GatewayAddresses :=
  let supported := addresses.filter fun addr => addr.type.all (· = ipAddressType)
  let static := (supported.map GatewaySpecAddress.value).filter (· ≠ "")
  { unsupportedType := addresses.any fun addr => !addr.type.all (· = ipAddressType)
    static := static
    unusable := static.filter fun value => !nodeIPs.contains value }

def gatewayConditions (generation : Int) (paramsErr : Option String) (addresses : GatewayAddresses)
    (acked : Bool) (validListeners invalidOwnListeners : Nat) : Verdict × Verdict :=
  match paramsErr with
  | some err =>
    let invalid : Verdict := ⟨.isFalse, "InvalidParameters", err, generation⟩
    (invalid, invalid)
  | none =>
    if addresses.unsupportedType then
      let unsupported : Verdict :=
        ⟨.isFalse, "UnsupportedAddress", "only IPAddress spec.addresses entries are supported", generation⟩
      (unsupported, unsupported)
    else
      let accepted : Verdict :=
        if validListeners = 0 then ⟨.isFalse, "ListenersNotValid", "no valid listeners", generation⟩
        else if 0 < invalidOwnListeners then
          ⟨.isTrue, "ListenersNotValid", toString invalidOwnListeners ++
            " invalid listener(s), the remaining listeners are accepted", generation⟩
        else ⟨.isTrue, "Accepted", "Gateway is accepted", generation⟩
      let programmed : Verdict :=
        if addresses.unusable ≠ [] then
          ⟨.isFalse, "AddressNotUsable", "addresses not served by any data-plane node: " ++
            ", ".intercalate addresses.unusable, generation⟩
        else if validListeners = 0 then ⟨.isFalse, "Invalid", "no valid listeners", generation⟩
        else if acked then
          ⟨.isTrue, "Programmed", "every healthy data-plane pod applied the desired generation", generation⟩
        else ⟨.isFalse, "Pending",
          "waiting for every healthy data-plane pod to apply the desired generation", generation⟩
      (accepted, programmed)

theorem acked_of_programmed {generation : Int} {paramsErr : Option String} {addresses : GatewayAddresses}
    {acked : Bool} {validListeners invalidOwnListeners : Nat}
    (h : (gatewayConditions generation paramsErr addresses acked validListeners invalidOwnListeners).2.status =
      .isTrue) : acked = true := by
  unfold gatewayConditions at h
  cases paramsErr with
  | some err => cases h
  | none =>
    by_cases hunsupported : addresses.unsupportedType = true
    · rw [if_pos hunsupported] at h
      cases h
    · rw [if_neg hunsupported] at h
      dsimp only at h
      split_ifs at h with _ _ hacked
      exact hacked

end Krouter.ControlPlane
