import Krouter.ControlPlane.Compile
import Krouter.ControlPlane.Conditions

/-! The status of a Gateway: what is written over the status found, and what a second writing
does to the first one's result. -/

namespace Krouter.ControlPlane.Status

def reasonText : ListenerReason → String
  | .accepted => "Accepted"
  | .resolvedRefs => "ResolvedRefs"
  | .unsupportedValue => "UnsupportedValue"
  | .unsupportedProtocol => "UnsupportedProtocol"
  | .portUnavailable => "PortUnavailable"
  | .invalidRouteKinds => "InvalidRouteKinds"
  | .invalidCertificateRef => "InvalidCertificateRef"
  | .refNotPermitted => "RefNotPermitted"
  | .noValidCACertificate => "NoValidCACertificate"
  | .invalidCACertificateKind => "InvalidCACertificateKind"
  | .invalidCACertificateRef => "InvalidCACertificateRef"
  | .protocolConflict => "ProtocolConflict"
  | .hostnameConflict => "HostnameConflict"

structure ListenerStatus where
  name : String
  supportedKinds : List RouteGroupKind
  attachedRoutes : Int32
  conditions : List Condition
  deriving DecidableEq

structure GatewayStatus where
  addresses : List GatewaySpecAddress
  conditions : List Condition
  listeners : List ListenerStatus
  attachedListenerSets : Option Int32
  deriving DecidableEq

structure GatewayObject where
  generation : Int
  status : GatewayStatus

structure StatusInput where
  accepted : Verdict
  programmed : Verdict
  resolvedRefs : Verdict
  address : String
  listeners : List ListenerState
  gatewayAcked : Bool
  staticAddresses : List String
  attachedListenerSets : Option Int32

def allowInsecureFallback : String := "AllowInsecureFallback"

namespace StatusInput
variable (input : StatusInput)

def insecureFallback : Bool := input.listeners.any fun lst => lst.clientCAMode = allowInsecureFallback

def conditions : List Condition :=
  [input.accepted.as "Accepted", input.programmed.as "Programmed", input.resolvedRefs.as "ResolvedRefs"]

def own : List ListenerState := input.listeners.filter fun lst => lst.set.isNone

def addresses : List GatewaySpecAddress :=
  if input.staticAddresses ≠ [] then input.staticAddresses.map (⟨some ipAddressType, ·⟩)
  else if input.address ≠ "" then [⟨some ipAddressType, input.address⟩]
  else []

end StatusInput

/-- `ResolvedRefs` of a Gateway is about its backend client certificate. -/
def resolvedRefsVerdict (generation : Int) (cert : BackendClientCert) : Verdict :=
  ⟨boolStatus cert.resolved, match cert.reason with
    | .resolvedRefs => "ResolvedRefs"
    | .invalidClientCertificateRef => "InvalidClientCertificateRef"
    | .refNotPermitted => "RefNotPermitted", cert.message, generation⟩

def rejectedInput (generation : Int) (paramsErr : Option String) (addresses : GatewayAddresses)
    (cert : BackendClientCert) : StatusInput :=
  let (accepted, programmed) := gatewayConditions generation paramsErr addresses false 0 0
  ⟨accepted, programmed, resolvedRefsVerdict generation cert, "", [], false, [], none⟩

def reconciledInput (generation : Int) (addresses : GatewayAddresses) (cert : BackendClientCert)
    (listeners : List ListenerState) (acked : Bool) (address : String)
    (attachedListenerSets : Option Int32) : StatusInput :=
  let validListeners := listeners.countP ListenerState.valid
  let invalidOwnListeners := listeners.countP fun lst => !lst.valid && lst.set.isNone
  let (accepted, programmed) :=
    gatewayConditions generation none addresses acked validListeners invalidOwnListeners
  { accepted, programmed
    resolvedRefs := resolvedRefsVerdict generation cert
    address, listeners
    gatewayAcked := acked
    -- usable static addresses take the place of the Service's
    staticAddresses := if addresses.static ≠ [] ∧ addresses.unusable = [] then addresses.static else []
    attachedListenerSets }

def insecureType : String := "InsecureFrontendValidationMode"

def insecureCondition (generation : Int) : Condition :=
  condition insecureType .isTrue "ConfigurationChanged"
    "a listener allows insecure client-certificate fallback" generation

def listenerConditions (generation : Int) (acked : Bool) (lst : ListenerState) : List Condition :=
  [condition "Accepted" (boolStatus lst.accepted) (reasonText lst.acceptedReason) "" generation,
    condition "ResolvedRefs" (boolStatus lst.refsResolved) (reasonText lst.refsReason) lst.refsMessage generation,
    if lst.valid && acked then condition "Programmed" .isTrue "Programmed" "" generation
    else condition "Programmed" .isFalse "Pending" "" generation]

def existingConditions (status : GatewayStatus) (name : String) : List Condition :=
  ((status.listeners.find? fun current => current.name = name).map ListenerStatus.conditions).getD []

def listenerStatus (now : Int) (fresh : GatewayObject) (acked : Bool) (lst : ListenerState) : ListenerStatus where
  name := lst.spec.name
  supportedKinds := lst.allowedKinds.map (⟨some groupName, ·⟩)
  attachedRoutes := lst.attachedRoutes
  conditions := mergeConditions now (existingConditions fresh.status lst.spec.name)
    (listenerConditions fresh.generation acked lst)

/-- `clock` is what the successive readings of the time return: one for each merge. -/
def desiredStatus (clock : Nat → Int) (fresh : GatewayObject) (input : StatusInput) : GatewayStatus :=
  let merged := mergeConditions (clock 0) fresh.status.conditions input.conditions
  { addresses := input.addresses
    conditions :=
      if input.insecureFallback then mergeConditions (clock 1) merged [insecureCondition fresh.generation]
      else merged.filter fun c => c.type ≠ insecureType
    listeners := input.own.mapIdx fun i lst => listenerStatus (clock (2 + i)) fresh input.gatewayAcked lst
    attachedListenerSets := input.attachedListenerSets.or fresh.status.attachedListenerSets }

/-- The status that is sent to the API, if any. -/
def writeGatewayStatus (clock : Nat → Int) (fresh : GatewayObject) (input : StatusInput) :
    Option GatewayStatus :=
  let desired := desiredStatus clock fresh input
  if fresh.status = desired then none else some desired

/-! ## What is read back -/

def storedCondition (c : Condition) : Condition :=
  { c with lastTransitionTime := c.lastTransitionTime / 1000000000 * 1000000000 }

def ListenerStatus.stored (l : ListenerStatus) : ListenerStatus :=
  { l with conditions := l.conditions.map storedCondition }

def GatewayStatus.stored (s : GatewayStatus) : GatewayStatus :=
  { s with
    conditions := s.conditions.map storedCondition
    listeners := s.listeners.map ListenerStatus.stored }

def written (clock : Nat → Int) (fresh : GatewayObject) (input : StatusInput) : GatewayObject :=
  match writeGatewayStatus clock fresh input with
  | none => fresh
  | some status => { fresh with status := status.stored }

def StatusInput.expected (input : StatusInput) (generation : Int) : List Condition :=
  input.conditions ++ if input.insecureFallback then [insecureCondition generation] else []

structure Complete (input : StatusInput) (g : GatewayObject) : Prop where
  contains : ∀ c ∈ input.expected g.generation, ∃ c' ∈ g.status.conditions, c'.content = c.content
  fallback : (∃ c ∈ g.status.conditions, c.type = insecureType) ↔ input.insecureFallback = true

/-- The status is complete after one writing, and a second one does not update it. -/
structure CompleteAndConverges (input : StatusInput) (fresh : GatewayObject) (clock clock' : Nat → Int) :
    Prop where
  complete : Complete input (written clock fresh input)
  converges : writeGatewayStatus clock' (written clock fresh input) input = none

/-! ## Settled statuses -/

def ListenerStatus.content (l : ListenerStatus) : ListenerStatus :=
  { l with conditions := l.conditions.map Condition.content }

def listenerContent (generation : Int) (acked : Bool) (lst : ListenerState) : ListenerStatus where
  name := lst.spec.name
  supportedKinds := lst.allowedKinds.map (⟨some groupName, ·⟩)
  attachedRoutes := lst.attachedRoutes
  conditions := (listenerConditions generation acked lst).map Condition.content

structure Settled (input : StatusInput) (g : GatewayObject) : Prop where
  conditions : g.status.conditions.map Condition.content = input.conditions.map Condition.content
  addresses : g.status.addresses = input.addresses
  listeners : g.status.listeners.map ListenerStatus.content =
    input.own.map (listenerContent g.generation input.gatewayAcked)
  attached : input.attachedListenerSets.or g.status.attachedListenerSets = g.status.attachedListenerSets

section
variable {input : StatusInput} {fresh g : GatewayObject} {clock clock' : Nat → Int}

theorem conditions_types (input : StatusInput) :
    input.conditions.map Condition.type = ["Accepted", "Programmed", "ResolvedRefs"] := rfl

theorem listenerConditions_types (generation : Int) (acked : Bool) (lst : ListenerState) :
    (listenerConditions generation acked lst).map Condition.type =
      ["Accepted", "ResolvedRefs", "Programmed"] := by
  simp only [listenerConditions, List.map_cons, List.map_nil, apply_ite Condition.type]
  simp only [condition, ite_self]

theorem types_of_content {cs ds : List Condition} (h : cs.map Condition.content = ds.map Condition.content) :
    cs.map Condition.type = ds.map Condition.type := by
  have htypes := congrArg (List.map Condition.type) h
  rwa [List.map_map, List.map_map] at htypes

theorem filter_conditions {cs : List Condition}
    (h : cs.map Condition.content = input.conditions.map Condition.content) :
    (cs.filter fun c => c.type ≠ insecureType) = cs := by
  refine List.filter_eq_self.mpr fun c hc => decide_eq_true fun htype => ?_
  have hmem := List.mem_map_of_mem (f := Condition.type) hc
  rw [types_of_content h, conditions_types, htype] at hmem
  exact absurd hmem (by decide)

theorem listenerStatus_content (now : Int) (fresh : GatewayObject) (acked : Bool) (lst : ListenerState) :
    (listenerStatus now fresh acked lst).content = listenerContent fresh.generation acked lst := by
  rw [ListenerStatus.content, listenerStatus, listenerContent, mergeConditions_content]

theorem desiredStatus_settled (clock : Nat → Int) (fresh : GatewayObject) (h : input.insecureFallback = false) :
    Settled input { fresh with status := desiredStatus clock fresh input } where
  conditions := by
    dsimp only [desiredStatus]
    rw [h, if_neg Bool.false_ne_true, filter_conditions (mergeConditions_content ..), mergeConditions_content]
  addresses := rfl
  listeners := by
    dsimp only [desiredStatus]
    refine List.ext_getElem (by simp only [List.length_map, List.length_mapIdx]) fun i _ _ => ?_
    rw [List.getElem_map, List.getElem_mapIdx, List.getElem_map, listenerStatus_content]
  attached := by
    dsimp only [desiredStatus]
    cases input.attachedListenerSets <;> rfl

theorem Settled.stored (h : Settled input g) : Settled input { g with status := g.status.stored } where
  conditions := by
    rw [← h.conditions]
    dsimp only [GatewayStatus.stored]
    rw [List.map_map]
    rfl
  addresses := h.addresses
  listeners := by
    rw [← h.listeners]
    dsimp only [GatewayStatus.stored]
    rw [List.map_map]
    refine List.map_congr_left fun l _ => ?_
    simp only [Function.comp_apply, ListenerStatus.content, ListenerStatus.stored, List.map_map]
    rfl
  attached := h.attached

theorem written_settled (clock : Nat → Int) (fresh : GatewayObject) (h : input.insecureFallback = false) :
    Settled input (written clock fresh input) := by
  have hdesired := desiredStatus_settled clock fresh h
  unfold written writeGatewayStatus
  dsimp only
  split_ifs with hsame
  · rwa [← hsame] at hdesired
  · exact hdesired.stored

def StatusInput.DistinctNames (input : StatusInput) : Prop :=
  (input.own.map fun lst => lst.spec.name).Nodup

theorem Settled.desiredStatus_eq (h : Settled input g) (hfallback : input.insecureFallback = false)
    (hnames : input.DistinctNames) : desiredStatus clock g input = g.status := by
  have hnames' : g.status.listeners.map ListenerStatus.name = input.own.map fun lst => lst.spec.name := by
    have hcontents := congrArg (List.map ListenerStatus.name) h.listeners
    rwa [List.map_map, List.map_map] at hcontents
  have hlength : input.own.length = g.status.listeners.length := by
    simpa using (congrArg List.length h.listeners).symm
  have hlisteners : (input.own.mapIdx fun i lst => listenerStatus (clock (2 + i)) g input.gatewayAcked lst) =
      g.status.listeners := by
    refine List.ext_getElem (by rw [List.length_mapIdx, hlength]) fun i hi hi' => ?_
    have hio : i < input.own.length := hlength ▸ hi'
    have hsame : g.status.listeners[i].content =
        listenerContent g.generation input.gatewayAcked input.own[i] := by
      have hat := List.getElem_of_eq h.listeners
        (by rwa [List.length_map] : i < (g.status.listeners.map ListenerStatus.content).length)
      rwa [List.getElem_map, List.getElem_map] at hat
    rcases hl : g.status.listeners[i] with ⟨name, kinds, routes, cs⟩
    rw [hl, ListenerStatus.content, listenerContent, ListenerStatus.mk.injEq] at hsame
    obtain ⟨rfl, rfl, rfl, hcs⟩ := hsame
    have hexisting : existingConditions g.status input.own[i].spec.name = cs := by
      have hmem : g.status.listeners[i] ∈ g.status.listeners := List.getElem_mem hi'
      rw [hl] at hmem
      have hfind := find?_key_of_mem (by rw [hnames']; exact hnames) hmem
      rw [existingConditions, hfind]
      rfl
    rw [List.getElem_mapIdx, listenerStatus, hexisting, mergeConditions_of_content _ hcs]
    rw [listenerConditions_types]
    decide
  have hmerged : mergeConditions (clock 0) g.status.conditions input.conditions = g.status.conditions :=
    mergeConditions_of_content _ h.conditions (by rw [conditions_types]; decide)
  rw [desiredStatus, hlisteners, hfallback, if_neg Bool.false_ne_true, hmerged,
    filter_conditions h.conditions, h.attached, ← h.addresses]

theorem Settled.complete (h : Settled input g) (hfallback : input.insecureFallback = false) : Complete input g where
  contains c hc := by
    rw [StatusInput.expected, hfallback, if_neg Bool.false_ne_true, List.append_nil] at hc
    have hmem := List.mem_map_of_mem (f := Condition.content) hc
    rw [← h.conditions] at hmem
    exact List.mem_map.mp hmem
  fallback := by
    rw [hfallback]
    refine ⟨fun ⟨c, hc, htype⟩ => ?_, fun h => (nomatch h)⟩
    have hmem := List.mem_map_of_mem (f := Condition.type) hc
    rw [types_of_content h.conditions, conditions_types, htype] at hmem
    exact absurd hmem (by decide)

theorem written_fallback (clock : Nat → Int) (fresh : GatewayObject) (h : input.insecureFallback = true) :
    (written clock fresh input).status.conditions.map Condition.type = [insecureType] := by
  have hdesired : (desiredStatus clock fresh input).conditions.map Condition.type = [insecureType] := by
    dsimp only [desiredStatus]
    rw [h, if_pos rfl, types_of_content (mergeConditions_content ..)]
    rfl
  unfold written writeGatewayStatus
  dsimp only
  split_ifs with hsame
  · rw [← hsame] at hdesired
    exact hdesired
  · dsimp only [GatewayStatus.stored]
    rw [List.map_map]
    exact hdesired

theorem not_complete_of_fallback (clock : Nat → Int) (fresh : GatewayObject) (h : input.insecureFallback = true) :
    ¬ Complete input (written clock fresh input) := by
  intro hcomplete
  obtain ⟨c, hc, hcontent⟩ := hcomplete.contains (input.accepted.as "Accepted") (.head _)
  have hmem := List.mem_map_of_mem (f := Condition.type) hc
  rw [written_fallback clock fresh h, Condition.type_eq hcontent] at hmem
  exact absurd hmem (by decide : "Accepted" ∉ [insecureType])

theorem completeAndConverges_of_settled (fresh : GatewayObject) (clock clock' : Nat → Int)
    (hfallback : input.insecureFallback = false) (hnames : input.DistinctNames) :
    CompleteAndConverges input fresh clock clock' := by
  have hsettled := written_settled clock fresh hfallback
  refine ⟨hsettled.complete hfallback, ?_⟩
  rw [writeGatewayStatus, hsettled.desiredStatus_eq hfallback hnames]
  exact if_pos rfl

/-! ## Listeners of one name -/

def noStatus : GatewayObject := ⟨0, ⟨[], [], [], none⟩⟩

def seconds (n : Nat) : Int := n * 1000000000

def before (_ : Nat) : Int := -1

theorem stored_seconds (n : Nat) : seconds n / 1000000000 * 1000000000 = seconds n := by
  unfold seconds
  omega

def timed (t : Int) (c : Condition) : Condition := { c with lastTransitionTime := t }

def firstStatus (acked : Bool) (i : Nat) (lst : ListenerState) : ListenerStatus :=
  { listenerContent 0 acked lst with
    conditions := (listenerConditions 0 acked lst).map (timed (seconds (2 + i))) }

theorem written_noStatus_listeners (hown : input.own ≠ []) :
    (written seconds noStatus input).status.listeners = input.own.mapIdx (firstStatus input.gatewayAcked) := by
  have hupdate : noStatus.status ≠ desiredStatus seconds noStatus input := by
    intro hsame
    have hlength := congrArg (fun s => s.listeners.length) hsame
    simp only [noStatus, desiredStatus, List.length_mapIdx, List.length_nil] at hlength
    exact hown (List.length_eq_zero_iff.mp hlength.symm)
  have hmerged : ∀ (i : Nat) (desired : List Condition),
      (mergeConditions (seconds (2 + i)) [] desired).map storedCondition =
        desired.map (timed (seconds (2 + i))) := by
    intro i desired
    rw [mergeConditions, List.map_map]
    refine List.map_congr_left fun want _ => ?_
    rw [Function.comp_apply, mergeCondition_eq]
    exact congrArg (fun t => timed t want) (stored_seconds (2 + i))
  have hstatus : ∀ (i : Nat) (lst : ListenerState),
      (listenerStatus (seconds (2 + i)) noStatus input.gatewayAcked lst).stored =
        firstStatus input.gatewayAcked i lst := by
    intro i lst
    exact congrArg (fun cs => { listenerContent 0 input.gatewayAcked lst with conditions := cs })
      (hmerged i (listenerConditions 0 input.gatewayAcked lst))
  unfold written writeGatewayStatus
  rw [if_neg hupdate]
  refine List.ext_getElem (by simp [GatewayStatus.stored, desiredStatus]) fun i _ _ => ?_
  simp only [GatewayStatus.stored, desiredStatus, List.getElem_map, List.getElem_mapIdx]
  exact hstatus i _

theorem find?_firstStatus {acked : Bool} {own : List ListenerState} {i : Nat} {lst : ListenerState}
    (hi : own[i]? = some lst) : ∃ k ≤ i, ∃ first,
      ((own.mapIdx (firstStatus acked)).find? fun current => current.name = lst.spec.name) =
        some (firstStatus acked k first) := by
  have hat : (own.mapIdx (firstStatus acked))[i]? = some (firstStatus acked i lst) := by
    rw [List.getElem?_mapIdx, hi, Option.map_some]
  cases hfind : (own.mapIdx (firstStatus acked)).find? fun current => current.name = lst.spec.name with
  | none =>
    have hnone := List.find?_eq_none.mp hfind _ (List.mem_of_getElem? hat)
    exact absurd (decide_eq_true rfl) hnone
  | some found =>
    obtain ⟨-, earlier, later, hsplit, hearlier⟩ := List.find?_eq_some_iff_append.mp hfind
    have hk : (own.mapIdx (firstStatus acked))[earlier.length]? = some found := by
      rw [hsplit, List.getElem?_append_right (Nat.le_refl _), Nat.sub_self, List.getElem?_cons_zero]
    refine ⟨earlier.length, Nat.le_of_not_lt fun hlt => ?_, ?_⟩
    · -- the elements before the one found have other names
      rw [hsplit, List.getElem?_append_left hlt] at hat
      exact absurd (hearlier _ (List.mem_of_getElem? hat)) (by simp [firstStatus, listenerContent])
    · rw [List.getElem?_mapIdx] at hk
      obtain ⟨first, -, rfl⟩ := Option.map_eq_some_iff.mp hk
      exact ⟨first, rfl⟩

theorem transitionTime_firstStatus (acked : Bool) (k : Nat) (first : ListenerState) (want : Condition)
    (htype : want.type = "Accepted") : transitionTime (-1) (firstStatus acked k first).conditions want =
      seconds (2 + k) ∨ transitionTime (-1) (firstStatus acked k first).conditions want = -1 := by
  have hfind : ((firstStatus acked k first).conditions.find? fun held => held.type = want.type) =
      some (timed (seconds (2 + k))
        (condition "Accepted" (boolStatus first.accepted) (reasonText first.acceptedReason) "" 0)) := by
    rw [htype]
    exact List.find?_cons_of_pos (decide_eq_true rfl)
  rw [transitionTime, hfind]
  dsimp only
  split_ifs
  · exact .inl rfl
  · exact .inr rfl

theorem not_converges_of_same_name {i j : Nat} {lst lst' : ListenerState} (hij : i < j)
    (hi : input.own[i]? = some lst) (hj : input.own[j]? = some lst') (hname : lst.spec.name = lst'.spec.name) :
    writeGatewayStatus before (written seconds noStatus input) input ≠ none := by
  intro hnone
  have hown : input.own ≠ [] := by
    intro he
    rw [he] at hi
    cases hi
  have hlisteners := written_noStatus_listeners hown
  have hsame : (written seconds noStatus input).status =
      desiredStatus before (written seconds noStatus input) input := by
    by_contra hne
    rw [writeGatewayStatus, if_neg hne] at hnone
    cases hnone
  have hat := congrArg (fun s => s.listeners[j]?) hsame
  dsimp only [desiredStatus] at hat
  rw [hlisteners, List.getElem?_mapIdx, List.getElem?_mapIdx, hj, Option.map_some, Option.map_some,
    Option.some.injEq] at hat
  obtain ⟨k, hk, first, hfind⟩ := @find?_firstStatus input.gatewayAcked _ _ _ hi
  rw [hname, ← hlisteners] at hfind
  have htime : seconds (2 + j) = transitionTime (-1) (firstStatus input.gatewayAcked k first).conditions
      (condition "Accepted" (boolStatus lst'.accepted) (reasonText lst'.acceptedReason) ""
        (written seconds noStatus input).generation) := by
    have hheads := congrArg (fun l => l.conditions.head?.map Condition.lastTransitionTime) hat
    simp only [listenerStatus, existingConditions, hfind, Option.map_some, Option.getD_some, firstStatus,
      mergeConditions, listenerConditions, List.map_cons, List.head?_cons, mergeCondition_eq, before,
      Option.some.injEq] at hheads
    exact hheads
  rcases transitionTime_firstStatus input.gatewayAcked k first (condition "Accepted" (boolStatus lst'.accepted)
    (reasonText lst'.acceptedReason) "" (written seconds noStatus input).generation) rfl with h | h
  · rw [h] at htime
    unfold seconds at htime
    omega
  · rw [h] at htime
    unfold seconds at htime
    omega

end

/-- The status is complete and converges, for every previous one and all clocks, exactly without the
insecure fallback and two own listeners of one name; with the fallback it is never complete. -/
theorem status_complete_and_converges_iff (input : StatusInput) :
    ((∀ (fresh : GatewayObject) (clock clock' : Nat → Int), CompleteAndConverges input fresh clock clock') ↔
      input.insecureFallback = false ∧ input.DistinctNames) ∧
    (input.insecureFallback = true → ∀ (fresh : GatewayObject) (clock : Nat → Int),
      ¬ Complete input (written clock fresh input)) := by
  refine ⟨⟨fun h => ?_, fun h fresh clock clock' =>
    completeAndConverges_of_settled fresh clock clock' h.1 h.2⟩,
    fun h fresh clock => not_complete_of_fallback clock fresh h⟩
  constructor
  · rw [Bool.eq_false_iff]
    exact fun hfallback => not_complete_of_fallback seconds noStatus hfallback (h noStatus seconds before).complete
  · rw [StatusInput.DistinctNames, List.Nodup, List.pairwise_iff_getElem]
    intro i j hi hj hij hname
    rw [List.length_map] at hi hj
    rw [List.getElem_map, List.getElem_map] at hname
    exact not_converges_of_same_name hij (List.getElem?_eq_getElem hi) (List.getElem?_eq_getElem hj) hname
      (h noStatus seconds before).converges

/-! A Gateway that accepts clients without a valid certificate. -/

def fallbackGateway : Gateway :=
  .small [.https "web" "" 443] (some ⟨some ⟨allowInsecureFallback, [⟨"", "ConfigMap", none, "ca"⟩]⟩, []⟩)

def fallbackInput : StatusInput :=
  reconciledInput 1 ⟨false, [], []⟩ (resolveBackendClientCert .trusting .small fallbackGateway)
    (validateListeners .trusting .small fallbackGateway [] (Ports.newPortAllocator 10000 10010 [])).1 true
    "192.0.2.1" none

theorem fallback_status_incomplete :
    (written seconds noStatus fallbackInput).status.conditions.map Condition.type = [insecureType] ∧
      ¬ Complete fallbackInput (written seconds noStatus fallbackInput) ∧
      writeGatewayStatus (fun n => seconds (n + 60)) (written seconds noStatus fallbackInput) fallbackInput ≠
        none := by
  have hfallback : fallbackInput.insecureFallback = true := by decide
  exact ⟨written_fallback seconds noStatus hfallback, not_complete_of_fallback seconds noStatus hfallback,
    by decide⟩

end Krouter.ControlPlane.Status
