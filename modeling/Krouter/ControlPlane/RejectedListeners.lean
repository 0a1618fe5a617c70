import Krouter.ControlPlane.BackendGrants
import Krouter.ControlPlane.ListenerConflicts

/-! Listeners that are not accepted. One rejected for its client CAs or for want of a port has had its
route kinds resolved and goes on admitting routes; the others admit none. -/

namespace Krouter.ControlPlane
open Compiled Ports Routing Attempt

/-! ## What a listener asks for -/

def supported (spec : ListenerSpec) : Bool :=
  spec.protocol = protocolHTTP || spec.protocol = protocolHTTPS || spec.protocol = protocolTCP ||
    spec.protocol = protocolUDP || spec.protocol = protocolTLS &&
      (spec.tls.bind TLSConfig.mode = some modePassthrough || spec.tls.bind TLSConfig.mode = some modeTerminate)

def requestedKinds (spec : ListenerSpec) : List RouteGroupKind :=
  (spec.allowedRoutes.map AllowedRoutes.kinds).getD []

def offeredKinds (spec : ListenerSpec) : List String :=
  if requestedKinds spec = [] then protocolRouteKinds spec.protocol
  else (((requestedKinds spec).filter (servable spec.protocol)).map RouteGroupKind.kind).eraseDups

def kindsServable (spec : ListenerSpec) : Bool := (requestedKinds spec).all (servable spec.protocol)

def ListenerState.supportedKinds (l : ListenerState) : List RouteGroupKind :=
  l.allowedKinds.map fun kind => ⟨some groupName, kind⟩

def ListenerState.Silent (l : ListenerState) : Prop := l.accepted = false → l.allowedKinds = []

section
variable (p : Platform) (w : World) (gw : Gateway)

/-- The listener is rejected after its kinds were resolved: for client CAs that do not resolve, or
because no port is left. -/
def RefusedLate (spec : ListenerSpec) (set : Option SetName) (a : PortAllocator) : Prop :=
  supported spec = true ∧ offeredKinds spec ≠ [] ∧
    (kindsServable spec = true ∧ (ownCertificate p w gw spec set).isSome = true ∧ ownClientCA p w gw spec = none ∨
      ∃ err, (a.allocate gw.uid spec.port spec.protocol).1 = .error err)

def NoneRefusedLate : List (ListenerSpec × Option SetName) → PortAllocator → Prop
  | [], _ => True
  | (spec, set) :: specs, a =>
    ¬ RefusedLate p w gw spec set a ∧ NoneRefusedLate specs (a.allocate gw.uid spec.port spec.protocol).2

end

/-! ## The steps of the validation -/

theorem checkProtocol_newListenerState (spec : ListenerSpec) (set : Option SetName) :
    (checkProtocol (newListenerState spec set)).accepted = supported spec ∧
      (checkProtocol (newListenerState spec set)).refsResolved = true ∧
      (checkProtocol (newListenerState spec set)).attachedRoutes = 0 := by
  unfold checkProtocol supported
  dsimp only [newListenerState]
  split_ifs with hplain htls hmode
  · refine ⟨?_, rfl, rfl⟩
    rcases hplain with h | h | h | h <;> simp [h]
  · refine ⟨?_, rfl, rfl⟩
    rcases hmode with h | h <;> simp [htls, h]
  · rw [not_or] at hmode
    refine ⟨?_, rfl, rfl⟩
    simp only [not_or] at hplain
    simp [ListenerState.reject, hplain, hmode]
  · refine ⟨?_, rfl, rfl⟩
    simp only [not_or] at hplain
    simp [ListenerState.reject, hplain, htls]

theorem resolveRouteKinds_of_rejected {l : ListenerState} (h : l.accepted = false) :
    resolveRouteKinds l = { l with allowedKinds := [] } := by
  rw [resolveRouteKinds, if_pos (by rw [h]; exact Bool.false_ne_true)]

theorem resolveRouteKinds_of_accepted {l : ListenerState} (h : l.accepted = true) :
    (resolveRouteKinds l).allowedKinds = offeredKinds l.spec ∧
      (resolveRouteKinds l).refsResolved = (l.refsResolved && kindsServable l.spec) ∧
      (resolveRouteKinds l).attachedRoutes = l.attachedRoutes := by
  unfold resolveRouteKinds offeredKinds kindsServable requestedKinds
  rw [if_neg (not_not.mpr h)]
  dsimp only
  generalize (l.spec.allowedRoutes.map AllowedRoutes.kinds).getD [] = requested
  split_ifs with hnone hinvalid
  · rw [hnone]
    exact ⟨rfl, (Bool.and_true _).symm, rfl⟩
  · refine ⟨rfl, ?_, rfl⟩
    have hsome : requested.all (servable l.spec.protocol) = false := by simpa using hinvalid.1
    rw [hsome, Bool.and_false]
    rfl
  · refine ⟨rfl, ?_, rfl⟩
    cases hrefs : l.refsResolved with
    | false => rfl
    | true =>
      have hall : requested.all (servable l.spec.protocol) = true := by simpa [hrefs] using hinvalid
      rw [hall]
      rfl

structure Prepared (spec : ListenerSpec) (l : ListenerState) : Prop where
  accepted : l.accepted = supported spec
  kinds : l.allowedKinds = if supported spec then offeredKinds spec else []
  refs : supported spec = true → l.refsResolved = kindsServable spec
  attached : l.attachedRoutes = 0

theorem prepared (spec : ListenerSpec) (set : Option SetName) :
    Prepared spec (resolveRouteKinds (checkProtocol (newListenerState spec set))) := by
  obtain ⟨haccepted, hrefs, hattached⟩ := checkProtocol_newListenerState spec set
  have hspec : (checkProtocol (newListenerState spec set)).spec = spec :=
    (Prod.mk.inj (checkProtocol_origin (newListenerState spec set))).1
  generalize checkProtocol (newListenerState spec set) = l at haccepted hrefs hattached hspec
  subst hspec
  cases hsupported : supported l.spec with
  | false =>
    rw [resolveRouteKinds_of_rejected (haccepted.trans hsupported)]
    exact ⟨haccepted, by rw [hsupported]; rfl, fun h => absurd (hsupported.symm.trans h) Bool.false_ne_true, hattached⟩
  | true =>
    obtain ⟨hkinds, hresolved, hcount⟩ := resolveRouteKinds_of_accepted (haccepted.trans hsupported)
    refine ⟨(resolveRouteKinds_accepted l).trans haccepted, ?_, fun _ => ?_, hcount.trans hattached⟩
    · rw [hkinds, hsupported, if_pos rfl]
    · rw [hresolved, hrefs, Bool.true_and]

section
variable {p : Platform} {w : World} {gw : Gateway}

def ListenerState.standing (l : ListenerState) : Bool × List String × Int32 := (l.accepted, l.allowedKinds, l.attachedRoutes)

theorem resolveCertificateRefs_standing (owner : RefOwner) (refs : List SecretRef) (l : ListenerState) :
    (resolveCertificateRefs p w owner l refs).standing = l.standing := by
  induction refs generalizing l with
  | nil => rfl
  | cons ref refs ih =>
    rw [resolveCertificateRefs]
    split
    · rfl
    · exact ih _

variable (p w gw)

theorem resolveKeyPair_standing (l : ListenerState) : (resolveKeyPair p w gw l).standing = l.standing := by
  unfold resolveKeyPair
  split_ifs
  · unfold resolveCertificates
    dsimp only
    split_ifs
    · rfl
    · exact resolveCertificateRefs_standing ..
  · rfl

variable {p w gw} in
theorem resolveCertificateRefs_of_ok {owner : RefOwner} {refs : List SecretRef} {certs : List Certificate}
    (h : refs.mapM (resolveCertificateRef p w owner) = .ok certs) (l : ListenerState) :
    (resolveCertificateRefs p w owner l refs).refsResolved = l.refsResolved := by
  induction refs generalizing l certs with
  | nil => rfl
  | cons ref refs ih =>
    obtain ⟨cert, rest, hcert, hrest, -⟩ := Result.mapM_cons_eq_ok.mp h
    rw [resolveCertificateRefs, hcert]
    exact ih hrest (l.addCertificate cert)

theorem resolveKeyPair_resolved_iff (l : ListenerState) : (resolveKeyPair p w gw l).refsResolved = true ↔
    l.refsResolved = true ∧ (ownCertificate p w gw l.spec l.set).isSome = true := by
  constructor
  · intro h
    obtain ⟨hrefs, cert, hcert, -⟩ := resolveKeyPair_resolved h
    rw [hcert]
    exact ⟨hrefs, rfl⟩
  · rintro ⟨hrefs, hsome⟩
    unfold resolveKeyPair
    split_ifs with hterminates
    · have hown : terminates l.spec = true := by simpa [terminates] using hterminates.2
      unfold ownCertificate at hsome
      rw [if_pos hown] at hsome
      unfold resolveCertificates
      generalize (l.spec.tls.map TLSConfig.certificateRefs).getD [] = refs at hsome
      cases hcerts : refs.mapM (resolveCertificateRef p w (listenerOwner gw l.set)) with
      | error err =>
        rw [hcerts] at hsome
        cases hsome
      | ok certs =>
        dsimp only
        split_ifs with hnil
        · rw [hnil] at hcerts
          cases hcerts
          rw [hnil] at hsome
          cases hsome
        · exact (resolveCertificateRefs_of_ok hcerts l).trans hrefs
    · exact hrefs

theorem resolveFrontendValidation_kept (l : ListenerState) :
    (resolveFrontendValidation p w gw l).allowedKinds = l.allowedKinds ∧
      (resolveFrontendValidation p w gw l).attachedRoutes = l.attachedRoutes := by
  unfold resolveFrontendValidation
  split
  · exact ⟨rfl, rfl⟩
  · split <;> exact ⟨rfl, rfl⟩

variable {p w gw} in
theorem resolveFrontendValidation_accepted {l : ListenerState} (hp : l.spec.protocol = protocolHTTPS) :
    (resolveFrontendValidation p w gw l).accepted = false ↔ l.accepted = false ∨ ownClientCA p w gw l.spec = none := by
  unfold resolveFrontendValidation ownClientCA
  rw [if_pos hp]
  cases frontendValidationFor gw l.spec.port with
  | none => simp
  | some validation =>
    dsimp only
    cases resolveCABundle p w gw validation.caCertificateRefs with
    | error reason => simp [ListenerState.reject, Except.toOption]
    | ok bundle => simp [Except.toOption]

theorem resolveRefs_kept (l : ListenerState) :
    (resolveRefs p w gw l).allowedKinds = l.allowedKinds ∧ (resolveRefs p w gw l).attachedRoutes = l.attachedRoutes := by
  have hstanding := resolveKeyPair_standing p w gw l
  obtain ⟨-, hpair⟩ := Prod.mk.inj hstanding
  obtain ⟨hkinds, hattached⟩ := Prod.mk.inj hpair
  unfold resolveRefs
  dsimp only
  split_ifs
  · obtain ⟨hkinds', hattached'⟩ := resolveFrontendValidation_kept p w gw (resolveKeyPair p w gw l)
    exact ⟨hkinds'.trans hkinds, hattached'.trans hattached⟩
  · exact ⟨hkinds, hattached⟩

theorem resolveRefs_accepted (l : ListenerState) : (resolveRefs p w gw l).accepted = false ↔ l.accepted = false ∨
    l.refsResolved = true ∧ (ownCertificate p w gw l.spec l.set).isSome = true ∧ ownClientCA p w gw l.spec = none := by
  have haccepted : (resolveKeyPair p w gw l).accepted = l.accepted := (Prod.mk.inj (resolveKeyPair_standing p w gw l)).1
  have hspec : (resolveKeyPair p w gw l).spec = l.spec := (Prod.mk.inj (resolveKeyPair_origin p w gw l)).1
  have hresolved := resolveKeyPair_resolved_iff p w gw l
  unfold resolveRefs
  dsimp only
  rw [← haccepted, ← and_assoc, ← hresolved]
  split_ifs with hhttps
  · rw [resolveFrontendValidation_accepted hhttps.1, hspec, and_iff_right hhttps.2]
  · refine (or_iff_left ?_).symm
    rintro ⟨hrefs, hca⟩
    -- without client CAs to look at there is nothing to refuse
    have hplain : ¬ l.spec.protocol = protocolHTTPS := fun h => hhttps ⟨hspec ▸ h, hrefs⟩
    rw [ownClientCA, if_neg hplain] at hca
    cases hca

variable (spec : ListenerSpec) (set : Option SetName) (a : PortAllocator)

theorem validateListener_kept :
    (validateListener p w gw spec set a).1.allowedKinds = (if supported spec then offeredKinds spec else []) ∧
      (validateListener p w gw spec set a).1.attachedRoutes = 0 := by
  obtain ⟨hkinds, hattached⟩ := resolveRefs_kept p w gw
    (resolveRouteKinds (checkProtocol (newListenerState spec set)))
  have hprepared := prepared spec set
  rw [hprepared.kinds] at hkinds
  rw [hprepared.attached] at hattached
  unfold validateListener
  split <;> exact ⟨hkinds, hattached⟩

theorem validateListener_accepted :
    (validateListener p w gw spec set a).1.accepted = false ↔ supported spec = false ∨
      kindsServable spec = true ∧ (ownCertificate p w gw spec set).isSome = true ∧ ownClientCA p w gw spec = none ∨
      ∃ err, (a.allocate gw.uid spec.port spec.protocol).1 = .error err := by
  have hprepared := prepared spec set
  have horigin : (resolveRouteKinds (checkProtocol (newListenerState spec set))).origin = (spec, set) := by
    rw [resolveRouteKinds_origin, checkProtocol_origin]
    rfl
  have hrefs := resolveRefs_accepted p w gw
    (resolveRouteKinds (checkProtocol (newListenerState spec set)))
  obtain ⟨hspec, hset⟩ := Prod.mk.inj horigin
  rw [hprepared.accepted, hspec, hset] at hrefs
  unfold validateListener
  generalize resolveRouteKinds (checkProtocol (newListenerState spec set)) = l at hrefs hprepared
  cases hsupported : supported spec with
  | false =>
    rw [hsupported] at hrefs
    have hrejected := hrefs.mpr (.inl rfl)
    refine iff_of_true ?_ (.inl rfl)
    split
    · exact hrejected
    · rfl
  | true =>
    rw [hprepared.refs hsupported, hsupported, or_iff_right Bool.noConfusion] at hrefs
    rw [or_iff_right Bool.noConfusion, ← hrefs]
    split
    · next port a' hport =>
      rw [hport]
      exact (or_iff_left (by rintro ⟨_, h⟩; cases h)).symm
    · next err a' herr =>
      rw [herr]
      exact iff_of_true rfl (.inr ⟨err, rfl⟩)

theorem validateListener_silent_iff :
    (validateListener p w gw spec set a).1.Silent ↔ ¬ RefusedLate p w gw spec set a := by
  obtain ⟨hkinds, -⟩ := validateListener_kept p w gw spec set a
  unfold ListenerState.Silent RefusedLate
  rw [validateListener_accepted, hkinds]
  cases supported spec with
  | false => exact iff_of_true (fun _ => rfl) fun h => absurd h.1 Bool.false_ne_true
  | true => rw [or_iff_right Bool.noConfusion, if_pos rfl, and_iff_right rfl, not_and', not_not]

theorem validateEach_silent_iff (specs : List (ListenerSpec × Option SetName)) (a : PortAllocator) :
    (∀ l ∈ (validateEach p w gw specs a).1, l.Silent) ↔ NoneRefusedLate p w gw specs a := by
  induction specs generalizing a with
  | nil => exact iff_of_true (fun l hl => absurd hl List.not_mem_nil) trivial
  | cons s specs ih =>
    obtain ⟨spec, set⟩ := s
    rw [validateEach, NoneRefusedLate, ← validateListener_silent_iff, ← validateListener_allocator (p := p) (w := w), ← ih]
    exact List.forall_mem_cons

theorem validateEach_attached (specs : List (ListenerSpec × Option SetName)) (a : PortAllocator) :
    ∀ l ∈ (validateEach p w gw specs a).1, l.attachedRoutes = 0 := by
  induction specs generalizing a with
  | nil => exact fun l hl => absurd hl List.not_mem_nil
  | cons s specs ih => exact List.forall_mem_cons.mpr ⟨(validateListener_kept p w gw s.1 s.2 a).2, ih _⟩

end

/-! ## Conflicts -/

variable (earlier : List Claimed)

theorem settle_silent_iff (l : ListenerState) : (settle earlier l).Silent ↔ l.Silent := by
  cases haccepted : l.accepted with
  | false => rw [settle_of_rejected haccepted]
  | true =>
    refine iff_of_true (fun hlost => ?_) (fun h => absurd (haccepted.symm.trans h) Bool.noConfusion)
    rw [settle, if_neg (not_not.mpr haccepted)] at hlost ⊢
    cases hreason : conflictReason earlier l.claimed with
    | none =>
      rw [hreason] at hlost
      exact absurd (haccepted.symm.trans hlost) Bool.noConfusion
    | some reason =>
      dsimp only
      rw [resolveRouteKinds_of_rejected rfl]

theorem settle_attached (l : ListenerState) : (settle earlier l).attachedRoutes = l.attachedRoutes := by
  unfold settle
  split
  · rfl
  · split
    · rw [resolveRouteKinds_of_rejected rfl]
      rfl
    · rfl

theorem rejectConflicting_silent_iff (ls : List ListenerState) :
    (∀ l ∈ rejectConflicting earlier ls, l.Silent) ↔ ∀ l ∈ ls, l.Silent := by
  induction ls generalizing earlier with
  | nil => exact Iff.rfl
  | cons l ls ih => rw [rejectConflicting_cons, List.forall_mem_cons, List.forall_mem_cons, settle_silent_iff, ih]

theorem rejectConflicting_attached {ls : List ListenerState} (h : ∀ l ∈ ls, l.attachedRoutes = 0) :
    ∀ l ∈ rejectConflicting earlier ls, l.attachedRoutes = 0 := by
  induction ls generalizing earlier with
  | nil => exact h
  | cons l ls ih =>
    obtain ⟨hhere, hthere⟩ := List.forall_mem_cons.mp h
    rw [rejectConflicting_cons]
    exact List.forall_mem_cons.mpr ⟨(settle_attached earlier l).trans hhere, ih _ hthere⟩

section
variable (p : Platform) (w : World) (gw : Gateway) (sets : List ListenerSetState) (a : PortAllocator)

theorem validateListeners_silent_iff : (∀ l ∈ (validateListeners p w gw sets a).1, l.Silent) ↔
    NoneRefusedLate p w gw (effectiveSpecs gw sets) a :=
  (rejectConflicting_silent_iff [] _).trans (validateEach_silent_iff p w gw (effectiveSpecs gw sets) a)

theorem validateListeners_attached : ∀ l ∈ (validateListeners p w gw sets a).1, l.attachedRoutes = 0 :=
  rejectConflicting_attached [] (validateEach_attached p w gw (effectiveSpecs gw sets) a)

end

/-! ## Attaching the routes of a pass -/

def resolveRouteParent (ref : ParentReference) (routeNamespace : String) (gw : Gateway)
    (sets : List ListenerSetState) : Option String :=
  let ns := ref.ns.getD routeNamespace
  let kind := ref.kind.getD "Gateway"
  if ¬ ref.group.all (fun group => group = groupName || group = "") then none
  else if kind = "Gateway" then if ns = gw.ns ∧ ref.name = gw.name then some "" else none
  else if kind = "ListenerSet" then
    if sets.any fun set => set.set.ns = ns && set.set.name = ref.name then some (nsName ns ref.name) else none
  else none

def listenersOwnedBy (listeners : List ListenerState) (ownerKey : String) : List ListenerState :=
  listeners.filter fun l => l.ownerKey = ownerKey

def writeBack (ownerKey : String) : List ListenerState → List ListenerState → List ListenerState
  | l :: listeners, owned =>
    if l.ownerKey = ownerKey then
      match owned with
      | [] => l :: listeners
      | o :: owned => o :: writeBack ownerKey listeners owned
    else l :: writeBack ownerKey listeners owned
  | [], _ => []

section
variable {D : Type} (docs : Documents D) (p : Platform) (w : Snapshot) (gw : Gateway) (sets : List ListenerSetState)

def attachParent (acc : List RouteOutcome × List ListenerState) (attachment : Route × ParentReference) :
    List RouteOutcome × List ListenerState :=
  match resolveRouteParent attachment.2 attachment.1.meta.ns gw sets with
  | none => acc
  | some ownerKey =>
    let (outcome, owned) := attachment.1.attach docs p w gw (listenersOwnedBy acc.2 ownerKey) attachment.2
    (acc.1 ++ [outcome], writeBack ownerKey acc.2 owned)

def attachAll (attachments : List (Route × ParentReference)) (listeners : List ListenerState) :
    List RouteOutcome × List ListenerState :=
  attachments.foldl (attachParent docs p w gw sets) ([], listeners)

/-- What becomes of a listener during the pass: routes may be counted on it if it offers any kind. -/
structure Kept (l l' : ListenerState) : Prop where
  accepted : l'.accepted = l.accepted
  kinds : l'.allowedKinds = l.allowedKinds
  owner : l'.ownerKey = l.ownerKey
  attached : l.allowedKinds = [] → l'.attachedRoutes = l.attachedRoutes

theorem Kept.refl (l : ListenerState) : Kept l l := ⟨rfl, rfl, rfl, fun _ => rfl⟩

theorem Kept.trans {l l' l'' : ListenerState} (h : Kept l l') (h' : Kept l' l'') : Kept l l'' :=
  ⟨h'.accepted.trans h.accepted, h'.kinds.trans h.kinds, h'.owner.trans h.owner,
    fun hnone => (h'.attached (h.kinds.trans hnone)).trans (h.attached hnone)⟩

theorem Kept.silent {l l' : ListenerState} (h : Kept l l') (hl : l.Silent) : l'.Silent :=
  fun hrejected => h.kinds.trans (hl (h.accepted.symm.trans hrejected))

theorem forall₂_kept_refl (ls : List ListenerState) : List.Forall₂ Kept ls ls :=
  List.forall₂_same.mpr fun l _ => .refl l

theorem forall₂_kept_trans {ls ls' ls'' : List ListenerState} (h : List.Forall₂ Kept ls ls')
    (h' : List.Forall₂ Kept ls' ls'') : List.Forall₂ Kept ls ls'' := by
  induction h generalizing ls'' with
  | nil => exact h'
  | cons hhead _ ih =>
    obtain ⟨l'', rest, hhead', hrest, rfl⟩ := List.forall₂_cons_left_iff.mp h'
    exact .cons (hhead.trans hhead') (ih hrest)

variable {docs p w gw sets}

variable {applicant : Applicant} {listeners : List ListenerState}

theorem kinds_ne_nil_of_admits {hostnames : List String} {l : ListenerState}
    (h : admits w gw applicant hostnames l = true) : l.allowedKinds ≠ [] := by
  intro hnone
  simp [admits, hnone] at h

/-! ## Accepted routes -/

variable (docs p w) in
def Route.compiles (route : Route) : Bool :=
  (eval (route.compile docs p w []) (.rejected .unsupportedValue)).1.isOk

theorem compiles_eq (admitted : List ListenerState) (route : Route) :
    (eval (route.compile docs p w admitted) (.rejected .unsupportedValue)).1.isOk = route.compiles docs p w := by
  have hbind : ∀ {α : Type} (rules : Compiler α) (config config' : α → RouteConfig) (s : RouteOutcome),
      (eval (rules >>= fun rules => pure (config rules)) s).1.isOk =
        (eval (rules >>= fun rules => pure (config' rules)) s).1.isOk := by
    intro α rules config config' s
    rw [eval_bind, eval_bind]
    rcases eval rules s with ⟨_ | _, _⟩ <;> rfl
  have hl4 : ∀ kind object hostnames (rules : List (List BackendRef)) s,
      (eval (compileL4Route w kind object hostnames rules admitted) s).1.isOk =
        (eval (compileL4Route w kind object hostnames rules []) s).1.isOk := by
    intro kind object hostnames rules s
    match rules with
    | [] => rfl
    | [refs] => exact hbind ..
    | _ :: _ :: _ => rfl
  cases route with
  | http route => exact hbind ..
  | grpc route => exact hbind ..
  | tcp route => exact hl4 ..
  | tls route => exact hl4 ..
  | udp route => exact hl4 ..

theorem admits_of_admitListeners_error {reason : RouteReason}
    (h : admitListeners w gw applicant listeners = .error reason)
    (hostnames : List String) : listeners.filter (admits w gw applicant hostnames) = [] := by
  have hall : listeners.filter (fun l => admitsNamespace gw.ns applicant.ns w.namespaces l &&
      (l.allowedKinds.contains applicant.kind && inSection applicant.parentRef l)) = [] := by
    unfold admitListeners at h
    simp only [List.isEmpty_iff] at h
    rw [← List.filter_filter, ← List.filter_filter]
    split_ifs at h with hcandidates hkinds hadmitted
    · rw [hcandidates]
      rfl
    · rw [hkinds]
      rfl
    · exact hadmitted
  rw [List.filter_eq_nil_iff] at hall ⊢
  intro l hl hadmits
  simp only [admits, Bool.and_eq_true] at hadmits
  exact hall l hl (by simp only [hadmits, Bool.and_self])

theorem accepted_attach (route : Route) (parentRef : ParentReference) :
    (route.attach docs p w gw listeners parentRef).1.accepted = true ↔ route.compiles docs p w = true ∧
      ∃ l ∈ listeners, admits w gw (route.applicant parentRef) route.hostnames l = true := by
  have hsome : (∃ l ∈ listeners, admits w gw (route.applicant parentRef) route.hostnames l = true) ↔
      listeners.filter (admits w gw (route.applicant parentRef) route.hostnames) ≠ [] := by
    simp [List.filter_eq_nil_iff]
  rw [hsome, attach_eq]
  unfold attachByHostname
  cases hadmit : admitListeners w gw (route.applicant parentRef) listeners with
  | error reason => simp [RouteOutcome.rejected, admits_of_admitListeners_error hadmit]
  | ok admitted =>
    dsimp only
    rw [admitByHostname_admitListeners hadmit]
    split_ifs with hempty
    · simp [RouteOutcome.rejected, List.isEmpty_iff.mp hempty]
    · rw [← compiles_eq (listeners.filter (admits w gw (route.applicant parentRef) route.hostnames))]
      have hsome : ¬ listeners.filter (admits w gw (route.applicant parentRef) route.hostnames) = [] :=
        fun hnil => hempty (List.isEmpty_iff.mpr hnil)
      rcases finishAttach_cases route _ _ with ⟨_, _, heval, haccepted, -, hfinish⟩ | ⟨_, _, heval, hfinish⟩ <;>
        rw [hfinish, heval]
      · simp [haccepted, Except.isOk, Except.toBool]
      · simp [hsome, Except.isOk, Except.toBool]

theorem attach_listeners (route : Route) (parentRef : ParentReference) :
    (route.attach docs p w gw listeners parentRef).2 = listeners.map fun l =>
      if route.compiles docs p w && admits w gw (route.applicant parentRef) route.hostnames l then l.countRoute
      else l := by
  have haccepted := @accepted_attach D docs p w gw listeners route parentRef
  have hattached : Attached docs p w gw listeners parentRef route (route.attach docs p w gw listeners parentRef) :=
    attached_attach route parentRef
  generalize route.attach docs p w gw listeners parentRef = result at hattached haccepted
  cases hattached with
  | rejected hrejected =>
    rw [hrejected] at haccepted
    refine ((List.map_congr_left fun l hl => if_neg fun h => ?_).trans (List.map_id _)).symm
    obtain ⟨hcompiles, hadmits⟩ := Bool.and_eq_true_iff.mp h
    exact Bool.false_ne_true (haccepted.mpr ⟨hcompiles, l, hl, hadmits⟩)
  | accepted hyes => rw [(haccepted.mp hyes).1]; rfl

/-! ## The counters of the listeners -/

theorem writeBack_map (ownerKey : String) (f : ListenerState → ListenerState) (listeners : List ListenerState) :
    writeBack ownerKey listeners ((listenersOwnedBy listeners ownerKey).map f) =
      listeners.map fun l => if l.ownerKey = ownerKey then f l else l := by
  induction listeners with
  | nil => rfl
  | cons l listeners ih =>
    unfold listenersOwnedBy writeBack
    rw [List.map_cons]
    by_cases howner : l.ownerKey = ownerKey
    · rw [List.filter_cons_of_pos (by simpa using howner), if_pos howner, if_pos howner]
      exact congrArg _ ih
    · rw [List.filter_cons_of_neg (by simpa using howner), if_neg howner, if_neg howner]
      exact congrArg _ ih

variable (docs p w gw sets) in
/-- The parent reference attaches the route to the listener. -/
def reaches (l : ListenerState) (attachment : Route × ParentReference) : Bool :=
  resolveRouteParent attachment.2 attachment.1.meta.ns gw sets = some l.ownerKey &&
    (attachment.1.compiles docs p w &&
      admits w gw (attachment.1.applicant attachment.2) attachment.1.hostnames l)

theorem attachParent_listeners (acc : List RouteOutcome × List ListenerState) (attachment : Route × ParentReference) :
    (attachParent docs p w gw sets acc attachment).2 = acc.2.map fun l =>
      if reaches docs p w gw sets l attachment then l.countRoute else l := by
  unfold attachParent reaches
  cases resolveRouteParent attachment.2 attachment.1.meta.ns gw sets with
  | none => simp
  | some ownerKey =>
    dsimp only
    rw [attach_listeners, writeBack_map]
    refine List.map_congr_left fun l _ => ?_
    by_cases howner : l.ownerKey = ownerKey
    · simp [howner]
    · simp [howner, Ne.symm howner]

theorem attachParent_kept (acc : List RouteOutcome × List ListenerState) (attachment : Route × ParentReference) :
    List.Forall₂ Kept acc.2 (attachParent docs p w gw sets acc attachment).2 := by
  rw [attachParent_listeners]
  refine List.forall₂_map_right_iff.mpr (List.forall₂_same.mpr fun l _ => ?_)
  split
  · next hreaches =>
    simp only [reaches, Bool.and_eq_true] at hreaches
    exact ⟨rfl, rfl, rfl, fun hnone => absurd hnone (kinds_ne_nil_of_admits hreaches.2.2)⟩
  · exact .refl l

theorem attachAll_kept (attachments : List (Route × ParentReference)) (listeners : List ListenerState) :
    List.Forall₂ Kept listeners (attachAll docs p w gw sets attachments listeners).2 :=
  List.foldlRecOn attachments _ (motive := fun s => List.Forall₂ Kept listeners s.2) (forall₂_kept_refl listeners)
    fun s hs attachment _ => forall₂_kept_trans hs (attachParent_kept s attachment)

theorem attachAll_silent (attachments : List (Route × ParentReference)) (h : ∀ l ∈ listeners, l.Silent) :
    ∀ l ∈ (attachAll docs p w gw sets attachments listeners).2, l.Silent := by
  intro l hl
  obtain ⟨before, hbefore, hkept⟩ := Result.exists_left_of_mem (attachAll_kept attachments listeners) hl
  exact hkept.silent (h before hbefore)

variable (docs p w gw sets) in
/-- The listeners that are not accepted offer no kind, admit no route, have none counted on them, and no
route is accepted through them alone. -/
structure RejectedServeNothing (listeners : List ListenerState) : Prop where
  kinds : ∀ l ∈ listeners, l.accepted = false → l.allowedKinds = [] ∧ l.supportedKinds = []
  admitted : ∀ ownerKey applicant admitted,
    admitListeners w gw applicant (listenersOwnedBy listeners ownerKey) = .ok admitted → ∀ l ∈ admitted, l.accepted = true
  counted : ∀ attachments, List.Forall₂ (fun l l' => l.accepted = false → l'.attachedRoutes = 0) listeners
    (attachAll docs p w gw sets attachments listeners).2
  carried : ∀ attachments ownerKey (route : Route) parentRef,
    let owned := listenersOwnedBy (attachAll docs p w gw sets attachments listeners).2 ownerKey
    (route.attach docs p w gw owned parentRef).1.accepted = true →
      ∃ l ∈ owned, l.accepted = true ∧ admits w gw (route.applicant parentRef) route.hostnames l = true

theorem ListenerState.Silent.accepted {l : ListenerState} (h : l.Silent) (hkinds : l.allowedKinds ≠ []) :
    l.accepted = true :=
  Bool.eq_true_of_not_eq_false fun hrejected => hkinds (h hrejected)

theorem kinds_ne_nil_of_admitListeners {admitted : List ListenerState}
    (h : admitListeners w gw applicant listeners = .ok admitted) {l : ListenerState} (hl : l ∈ admitted) :
    l ∈ listeners ∧ l.allowedKinds ≠ [] := by
  have hall := admitByHostname_admitListeners h []
  rw [admitByHostname_nil] at hall
  rw [hall] at hl
  obtain ⟨hmem, hadmits⟩ := List.mem_filter.mp hl
  exact ⟨hmem, kinds_ne_nil_of_admits hadmits⟩

theorem rejectedServeNothing_of_silent (hsilent : ∀ l ∈ listeners, l.Silent)
    (hfresh : ∀ l ∈ listeners, l.attachedRoutes = 0) : RejectedServeNothing docs p w gw sets listeners where
  kinds := by
    intro l hl hrejected
    have hnone := hsilent l hl hrejected
    exact ⟨hnone, by rw [ListenerState.supportedKinds, hnone]; rfl⟩
  admitted := by
    intro ownerKey applicant admitted hadmit l hl
    obtain ⟨howned, hkinds⟩ := kinds_ne_nil_of_admitListeners hadmit hl
    exact (hsilent l (List.mem_filter.mp howned).1).accepted hkinds
  counted := by
    intro attachments
    have hboth : ∀ l ∈ listeners, l.Silent ∧ l.attachedRoutes = 0 := fun l hl => ⟨hsilent l hl, hfresh l hl⟩
    have hkept : List.Forall₂ Kept listeners (attachAll docs p w gw sets attachments listeners).2 :=
      attachAll_kept attachments listeners
    refine ((List.forall₂_and_left _ _).mpr ⟨hboth, hkept⟩).imp fun l l' h hrejected => ?_
    obtain ⟨⟨hl, hzero⟩, hl'⟩ := h
    exact (hl'.attached (hl hrejected)).trans hzero
  carried := by
    intro attachments ownerKey route parentRef owned haccepted
    obtain ⟨-, l, hl, hadmits⟩ := (accepted_attach ..).mp haccepted
    have hafter := attachAll_silent attachments hsilent l (List.mem_filter.mp hl).1
    exact ⟨l, hl, hafter.accepted (kinds_ne_nil_of_admits hadmits), hadmits⟩

variable (docs p w gw sets) in
/-- A rejected listener serves nothing exactly if no listener is rejected after its kinds were resolved. -/
theorem rejected_serve_nothing_iff (a : PortAllocator) :
    RejectedServeNothing docs p w gw sets (validateListeners p w.toWorld gw sets a).1 ↔
      NoneRefusedLate p w.toWorld gw (effectiveSpecs gw sets) a := by
  rw [← validateListeners_silent_iff]
  constructor
  · exact fun h l hl hrejected => (h.kinds l hl hrejected).1
  · exact fun h => rejectedServeNothing_of_silent h (validateListeners_attached p w.toWorld gw sets a)

end

/-! ## A listener for which no port is left -/

def portlessGateway : Gateway := .small [⟨"tcp", none, 5432, "TCP", none, none⟩] none

def portlessListeners : List ListenerState :=
  (validateListeners .trusting bankWorld.toWorld portlessGateway [] ⟨10000, 9999, ∅, ∅⟩).1

def ledgerAttachment : Route × ParentReference := (ledgerRoute, ⟨none, none, none, "gw", none, none⟩)

theorem portless_listener_serves :
    portlessListeners.map (fun l => (l.accepted, l.acceptedReason, l.allowedKinds)) =
      [(false, .portUnavailable, ["TCPRoute"])] ∧
    ((attachAll noDocuments .trusting bankWorld portlessGateway [] [ledgerAttachment] portlessListeners).1.map
      RouteOutcome.accepted) = [true] ∧
    ((attachAll noDocuments .trusting bankWorld portlessGateway [] [ledgerAttachment] portlessListeners).2.map
      ListenerState.attachedRoutes) = [1] ∧
    ¬ RejectedServeNothing noDocuments .trusting bankWorld portlessGateway [] portlessListeners := by
  refine ⟨by decide, by decide, by decide, fun h => ?_⟩
  have hcounted := h.counted [ledgerAttachment]
  revert hcounted
  decide

end Krouter.ControlPlane
