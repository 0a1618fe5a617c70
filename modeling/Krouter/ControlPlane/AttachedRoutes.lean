import Krouter.ControlPlane.RejectedListeners

/-! The routes that a listener counts as attached, against those accepted on it. A route is counted
once for every parent reference that brings it to the listener. -/

namespace Krouter.ControlPlane
open Compiled Routing

theorem sum_eq_countP_iff {α : Type} (f : α → Nat) (l : List α) :
    (l.map f).sum = l.countP (fun a => 0 < f a) ↔ ∀ a ∈ l, f a ≤ 1 := by
  have hle : ∀ l : List α, l.countP (fun a => 0 < f a) ≤ (l.map f).sum := by
    intro l
    induction l with
    | nil => exact Nat.le_refl 0
    | cons a l ih =>
      rw [List.countP_cons, List.map_cons, List.sum_cons]
      split_ifs with hpos
      · have := of_decide_eq_true hpos
        omega
      · omega
  induction l with
  | nil => simp
  | cons a l ih =>
    have hrest := hle l
    rw [List.forall_mem_cons, List.countP_cons, List.map_cons, List.sum_cons]
    refine Iff.trans ?_ (and_congr Iff.rfl ih)
    split_ifs with hpos
    · have := of_decide_eq_true hpos
      omega
    · have := mt decide_eq_true hpos
      omega

section
variable {D : Type} (docs : Documents D) (p : Platform) (w : Snapshot) (gw : Gateway) (sets : List ListenerSetState)

def ListenerState.countRoutes (l : ListenerState) (n : Nat) : ListenerState :=
  { l with attachedRoutes := l.attachedRoutes + Int32.ofNat n }

theorem attachAll_listeners (attachments : List (Route × ParentReference)) (listeners : List ListenerState) :
    (attachAll docs p w gw sets attachments listeners).2 =
      listeners.map fun l => l.countRoutes (attachments.countP (reaches docs p w gw sets l)) := by
  unfold attachAll
  induction attachments using List.reverseRecOn with
  | nil => simp [ListenerState.countRoutes]
  | append_singleton attachments attachment ih =>
    rw [List.foldl_append, List.foldl_cons, List.foldl_nil, attachParent_listeners, ih, List.map_map]
    refine List.map_congr_left fun l _ => ?_
    have hsame : reaches docs p w gw sets (l.countRoutes (attachments.countP (reaches docs p w gw sets l))) attachment =
        reaches docs p w gw sets l attachment := rfl
    rw [Function.comp_apply, hsame, List.countP_append, List.countP_singleton]
    split
    · simp [ListenerState.countRoute, ListenerState.countRoutes, Int32.ofNat_add, Int32.add_assoc]
    · rfl

def attachmentsOf (routes : List (Route × List ParentReference)) : List (Route × ParentReference) :=
  routes.flatMap fun r => r.2.map (r.1, ·)

def timesReached (l : ListenerState) (r : Route × List ParentReference) : Nat :=
  r.2.countP fun ref => reaches docs p w gw sets l (r.1, ref)

/-- The number of routes that some parent reference attaches to the listener. -/
def routesOn (routes : List (Route × List ParentReference)) (l : ListenerState) : Nat :=
  routes.countP fun r => r.2.any fun ref => reaches docs p w gw sets l (r.1, ref)

theorem countP_attachmentsOf (l : ListenerState) (routes : List (Route × List ParentReference)) :
    (attachmentsOf routes).countP (reaches docs p w gw sets l) =
      (routes.map (timesReached docs p w gw sets l)).sum := by
  rw [attachmentsOf, List.countP_flatMap]
  refine congrArg List.sum (List.map_congr_left fun r _ => ?_)
  rw [Function.comp_apply, List.countP_map]
  rfl

variable {docs p w gw sets}

theorem reaches_iff {listeners : List ListenerState} {l : ListenerState} (hl : l ∈ listeners)
    (route : Route) (ref : ParentReference) :
    reaches docs p w gw sets l (route, ref) = true ↔
      resolveRouteParent ref route.meta.ns gw sets = some l.ownerKey ∧
      (route.attach docs p w gw (listenersOwnedBy listeners l.ownerKey) ref).1.accepted = true ∧
      admits w gw (route.applicant ref) route.hostnames l = true := by
  rw [accepted_attach, reaches, Bool.and_eq_true, Bool.and_eq_true, decide_eq_true_eq]
  have howned : l ∈ listenersOwnedBy listeners l.ownerKey := List.mem_filter.mpr ⟨hl, decide_eq_true rfl⟩
  constructor
  · rintro ⟨hto, hcompiles, hadmits⟩
    exact ⟨hto, ⟨hcompiles, l, howned, hadmits⟩, hadmits⟩
  · rintro ⟨hto, ⟨hcompiles, -⟩, hadmits⟩
    exact ⟨hto, hcompiles, hadmits⟩

theorem listeners_of_attach {ownerKey : String} {route : Route} {ref : ParentReference}
    (hto : resolveRouteParent ref route.meta.ns gw sets = some ownerKey) (listeners : List ListenerState)
    {config : RouteConfig}
    (hconfig : (route.attach docs p w gw (listenersOwnedBy listeners ownerKey) ref).1.config = some config) :
    config.listeners = ((listeners.filter fun l => reaches docs p w gw sets l (route, ref)).filter
      ListenerState.valid).map ListenerState.effectiveName := by
  have hcompiles := (accepted_attach _ _).mp ((config_isSome_iff _ _).mp (Option.isSome_of_mem hconfig))
  obtain ⟨rules, -, rfl⟩ := attach_config _ _ hconfig
  have hreached : (listenersOwnedBy listeners ownerKey).filter (admits w gw (route.applicant ref) route.hostnames) =
      listeners.filter fun l => reaches docs p w gw sets l (route, ref) := by
    rw [listenersOwnedBy, List.filter_filter]
    refine List.filter_congr fun l _ => ?_
    simp [reaches, hto, hcompiles.1, Bool.and_comm, eq_comm]
  rw [← hreached]
  rfl

theorem toInt_attachAll (a : Ports.PortAllocator) (routes : List (Route × List ParentReference))
    (hfew : (attachmentsOf routes).length < 2 ^ 31) {l : ListenerState}
    (hl : l ∈ (validateListeners p w.toWorld gw sets a).1) :
    (l.countRoutes ((attachmentsOf routes).countP (reaches docs p w gw sets l))).attachedRoutes.toInt =
      (routes.map (timesReached docs p w gw sets l)).sum := by
  have hle : (attachmentsOf routes).countP (reaches docs p w gw sets l) ≤ (attachmentsOf routes).length :=
    List.countP_le_length
  have hzero := validateListeners_attached p w.toWorld gw sets a l hl
  rw [← countP_attachmentsOf]
  change (l.attachedRoutes + Int32.ofNat _).toInt = _
  rw [hzero, Int32.zero_add, Int32.toInt_ofNat_of_lt (by omega)]

/-- A validated listener counts the routes accepted on it exactly when no route comes to it by two of
its parent references. -/
theorem attached_routes_counted_iff (a : Ports.PortAllocator) (routes : List (Route × List ParentReference))
    (hfew : (attachmentsOf routes).length < 2 ^ 31) :
    let listeners := (validateListeners p w.toWorld gw sets a).1
    (∀ l ∈ listeners, ∀ route ref, reaches docs p w gw sets l (route, ref) = true ↔
      resolveRouteParent ref route.meta.ns gw sets = some l.ownerKey ∧
      (route.attach docs p w gw (listenersOwnedBy listeners l.ownerKey) ref).1.accepted = true ∧
      admits w gw (route.applicant ref) route.hostnames l = true) ∧
    (∀ route ref ownerKey config, resolveRouteParent ref route.meta.ns gw sets = some ownerKey →
      (route.attach docs p w gw (listenersOwnedBy listeners ownerKey) ref).1.config = some config →
      config.listeners = ((listeners.filter fun l => reaches docs p w gw sets l (route, ref)).filter
        ListenerState.valid).map ListenerState.effectiveName) ∧
    (List.Forall₂ (fun (l counted : ListenerState) =>
        counted.attachedRoutes.toInt = routesOn docs p w gw sets routes l) listeners
      (attachAll docs p w gw sets (attachmentsOf routes) listeners).2 ↔
      ∀ l ∈ listeners, ∀ r ∈ routes, r.2.countP (fun ref => reaches docs p w gw sets l (r.1, ref)) ≤ 1) := by
  intro listeners
  refine ⟨fun l hl route ref => reaches_iff hl route ref,
    fun route ref ownerKey config hto hconfig => listeners_of_attach hto listeners hconfig, ?_⟩
  rw [attachAll_listeners, List.forall₂_map_right_iff, List.forall₂_same]
  refine forall₂_congr fun l hl => ?_
  have hany : (fun r : Route × List ParentReference => r.2.any fun ref => reaches docs p w gw sets l (r.1, ref)) =
      fun r => decide (0 < timesReached docs p w gw sets l r) := by
    funext r
    rw [timesReached, Bool.eq_iff_iff, List.any_eq_true, decide_eq_true_eq, List.countP_pos_iff]
  rw [toInt_attachAll a routes hfew hl, Nat.cast_inj, routesOn, hany, sum_eq_countP_iff]
  rfl

end

def ledgerSpelledTwice : Route × List ParentReference :=
  (ledgerRoute, [⟨none, none, none, "gw", none, none⟩, ⟨none, none, some "shop", "gw", none, none⟩])

def tcpListeners : List ListenerState :=
  (validateListeners .trusting bankWorld.toWorld portlessGateway [] ⟨10000, 10010, ∅, ∅⟩).1

theorem ledger_counted_once :
    List.Forall₂ (fun (l counted : ListenerState) => counted.attachedRoutes.toInt =
        routesOn noDocuments .trusting bankWorld portlessGateway [] [(ledgerRoute, [ledgerAttachment.2])] l)
      tcpListeners
      (attachAll noDocuments .trusting bankWorld portlessGateway []
        (attachmentsOf [(ledgerRoute, [ledgerAttachment.2])]) tcpListeners).2 :=
  (attached_routes_counted_iff ⟨10000, 10010, ∅, ∅⟩ [(ledgerRoute, [ledgerAttachment.2])]
    (by decide)).2.2.mpr (by decide : ∀ l ∈ tcpListeners, ∀ r ∈ [(ledgerRoute, [ledgerAttachment.2])],
      r.2.countP (fun ref => reaches noDocuments .trusting bankWorld portlessGateway [] l (r.1, ref)) ≤ 1)

theorem ledger_counted_twice :
    tcpListeners.map (routesOn noDocuments .trusting bankWorld portlessGateway [] [ledgerSpelledTwice]) = [1] ∧
    (attachAll noDocuments .trusting bankWorld portlessGateway [] (attachmentsOf [ledgerSpelledTwice]) tcpListeners).2.map
      ListenerState.attachedRoutes = [2] := by
  decide

end Krouter.ControlPlane
