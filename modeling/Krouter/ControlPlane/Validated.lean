import Krouter.ControlPlane.Listeners
import Krouter.ControlPlane.PortSafety
import Krouter.Lib.Result

/-! What validation makes of a listener: a valid one holds the material of its own references, and the
port of its group. -/

namespace Krouter.ControlPlane
open Compiled Ports Routing

/-! ## Own material -/

/-- The key pair a listener terminates TLS with, and the mode and bundle of its client
certificate validation. -/
structure OwnMaterial where
  cert : Option Certificate
  clientCA : Option (String × String)
  deriving DecidableEq

namespace OwnMaterial

def mode (m : OwnMaterial) : String := (m.clientCA.map Prod.fst).getD ""

def certData (m : OwnMaterial) (name : String) : GoMap String String :=
  match m.cert with
  | none => ∅
  | some cert => ((∅ : GoMap String String).insert (name ++ ".tls.crt") cert.certPEM).insert
      (name ++ ".tls.key") cert.keyPEM

def data (m : OwnMaterial) (name : String) : GoMap String String :=
  match m.clientCA with
  | none => m.certData name
  | some ca => (m.certData name).insert (name ++ ".client-ca.crt") ca.2

end OwnMaterial

def terminates (spec : ListenerSpec) : Bool := spec.protocol = protocolHTTPS || listenerTerminatesTLS spec

section
variable (p : Platform) (w : World) (gw : Gateway) (spec : ListenerSpec)

def ownCertificate (set : Option SetName) : Option (Option Certificate) :=
  if terminates spec then
    (((spec.tls.map TLSConfig.certificateRefs).getD []).mapM
      (resolveCertificateRef p w (listenerOwner gw set))).toOption.bind fun certs =>
        certs.getLast?.map some
  else some none

def ownClientCA : Option (Option (String × String)) :=
  if spec.protocol = protocolHTTPS then
    match frontendValidationFor gw spec.port with
    | none => some none
    | some validation => (resolveCABundle p w gw validation.caCertificateRefs).toOption.map fun bundle =>
        some (validation.effectiveMode, bundle)
  else some none

def ownMaterial (set : Option SetName) : Option OwnMaterial :=
  (ownCertificate p w gw spec set).bind fun cert =>
    (ownClientCA p w gw spec).map fun clientCA => ⟨cert, clientCA⟩

end

/-! ## What the steps leave alone -/

def ListenerState.origin (l : ListenerState) : ListenerSpec × Option SetName := (l.spec, l.set)

@[simp] theorem addCertificate_origin (l : ListenerState) (cert : Certificate) :
    (l.addCertificate cert).origin = l.origin := rfl

@[simp] theorem resolveRouteKinds_origin (l : ListenerState) : (resolveRouteKinds l).origin = l.origin := by
  unfold resolveRouteKinds
  dsimp only
  split_ifs <;> rfl

@[simp] theorem checkProtocol_origin (l : ListenerState) : (checkProtocol l).origin = l.origin := by
  unfold checkProtocol
  dsimp only
  split_ifs <;> rfl

section
variable (p : Platform) (w : World) (gw : Gateway)

@[simp] theorem resolveCertificateRefs_origin (owner : RefOwner) (refs : List SecretRef)
    (l : ListenerState) : (resolveCertificateRefs p w owner l refs).origin = l.origin := by
  induction refs generalizing l with
  | nil => rfl
  | cons ref refs ih =>
    rw [resolveCertificateRefs]
    split
    · rfl
    · rw [ih, addCertificate_origin]

@[simp] theorem resolveCertificates_origin (l : ListenerState) :
    (resolveCertificates p w gw l).origin = l.origin := by
  unfold resolveCertificates
  dsimp only
  split_ifs
  · rfl
  · exact resolveCertificateRefs_origin ..

@[simp] theorem resolveFrontendValidation_origin (l : ListenerState) :
    (resolveFrontendValidation p w gw l).origin = l.origin := by
  unfold resolveFrontendValidation
  split
  · rfl
  · split <;> rfl

@[simp] theorem resolveKeyPair_origin (l : ListenerState) :
    (resolveKeyPair p w gw l).origin = l.origin := by
  unfold resolveKeyPair
  split_ifs <;> simp

@[simp] theorem resolveRefs_origin (l : ListenerState) : (resolveRefs p w gw l).origin = l.origin := by
  unfold resolveRefs
  dsimp only
  split_ifs <;> simp

end

/-! ## Resolved references -/

theorem addCertificate_again (l : ListenerState) (c c' : Certificate) :
    (l.addCertificate c).addCertificate c' = l.addCertificate c' := by
  unfold ListenerState.addCertificate
  congr 1
  exact GoMap.insert_pair_again ..

theorem foldl_addCertificate {certs : List Certificate} {c : Certificate} (l : ListenerState)
    (h : certs.getLast? = some c) : certs.foldl ListenerState.addCertificate l = l.addCertificate c := by
  induction certs generalizing l with
  | nil => cases h
  | cons a certs ih =>
    cases certs with
    | nil =>
      cases h
      rfl
    | cons b certs =>
      rw [List.foldl_cons, ih _ h, addCertificate_again]

variable {p : Platform} {w : World} {gw : Gateway} {l : ListenerState} {a : PortAllocator}

section

theorem resolveCertificateRefs_resolved {owner : RefOwner} {refs : List SecretRef}
    (h : (resolveCertificateRefs p w owner l refs).refsResolved = true) :
    ∃ certs, refs.mapM (resolveCertificateRef p w owner) = .ok certs ∧
      resolveCertificateRefs p w owner l refs = certs.foldl ListenerState.addCertificate l := by
  induction refs generalizing l with
  | nil => exact ⟨[], rfl, rfl⟩
  | cons ref refs ih =>
    rw [resolveCertificateRefs] at h ⊢
    split at h
    · cases h
    · next cert hr =>
      obtain ⟨certs, hcerts, he⟩ := ih h
      exact ⟨cert :: certs, Result.mapM_cons_eq_ok.mpr ⟨cert, certs, hr, hcerts, rfl⟩, he⟩

theorem resolveCertificates_resolved (ht : terminates l.spec = true)
    (h : (resolveCertificates p w gw l).refsResolved = true) :
    ∃ cert, ownCertificate p w gw l.spec l.set = some (some cert) ∧
      resolveCertificates p w gw l = l.addCertificate cert := by
  unfold resolveCertificates at h ⊢
  unfold ownCertificate
  rw [if_pos ht]
  generalize (l.spec.tls.map TLSConfig.certificateRefs).getD [] = refs at h ⊢
  dsimp only at h ⊢
  split_ifs at h ⊢ with hnil
  · cases h
  · obtain ⟨certs, hcerts, he⟩ := resolveCertificateRefs_resolved h
    obtain ⟨ref, rest, rfl⟩ := List.exists_cons_of_ne_nil hnil
    obtain ⟨cert, certs', -, -, rfl⟩ := Result.mapM_cons_eq_ok.mp hcerts
    obtain ⟨last, hlast⟩ : ∃ last, (cert :: certs').getLast? = some last :=
      ⟨_, List.getLast?_eq_some_getLast (List.cons_ne_nil _ _)⟩
    refine ⟨last, ?_, he.trans (foldl_addCertificate l hlast)⟩
    rw [hcerts]
    simp [Except.toOption, hlast]

theorem resolveFrontendValidation_resolved (hp : l.spec.protocol = protocolHTTPS)
    (h : (resolveFrontendValidation p w gw l).refsResolved = true) :
    (ownClientCA p w gw l.spec = some none ∧ resolveFrontendValidation p w gw l = l) ∨
      ∃ mode bundle, ownClientCA p w gw l.spec = some (some (mode, bundle)) ∧
        resolveFrontendValidation p w gw l = { l with
          clientCAMode := mode
          certData := l.certData.insert (l.effectiveName ++ ".client-ca.crt") bundle } := by
  unfold resolveFrontendValidation at h ⊢
  unfold ownClientCA
  rw [if_pos hp]
  cases hv : frontendValidationFor gw l.spec.port with
  | none => exact .inl ⟨rfl, rfl⟩
  | some validation =>
    rw [hv] at h
    dsimp only at h ⊢
    cases hb : resolveCABundle p w gw validation.caCertificateRefs with
    | error reason =>
      rw [hb] at h
      cases h
    | ok bundle => exact .inr ⟨_, bundle, rfl, rfl⟩

theorem resolveKeyPair_resolved (h : (resolveKeyPair p w gw l).refsResolved = true) :
    l.refsResolved = true ∧ ∃ cert, ownCertificate p w gw l.spec l.set = some cert ∧
      resolveKeyPair p w gw l = cert.elim l l.addCertificate := by
  have hcond : terminates l.spec = true ↔
      l.spec.protocol = protocolHTTPS ∨ listenerTerminatesTLS l.spec = true := by simp [terminates]
  unfold resolveKeyPair at h ⊢
  split_ifs at h ⊢ with hc
  · obtain ⟨cert, hown, he⟩ := resolveCertificates_resolved (hcond.mpr hc.2) h
    exact ⟨hc.1, some cert, hown, he⟩
  · refine ⟨h, none, if_neg fun ht => hc ⟨h, hcond.mp ht⟩, rfl⟩

structure Carries (m : OwnMaterial) (l : ListenerState) : Prop where
  certData : l.certData = m.data l.effectiveName
  mode : l.clientCAMode = m.mode

theorem carries_keyPair (hd : l.certData = ∅) (hm : l.clientCAMode = "")
    (cert : Option Certificate) : Carries ⟨cert, none⟩ (cert.elim l l.addCertificate) := by
  cases cert with
  | none => exact ⟨hd, hm⟩
  | some cert => exact ⟨by rw [Option.elim_some, ListenerState.addCertificate, hd]; rfl, hm⟩

theorem resolveRefs_resolved (hd : l.certData = ∅) (hm : l.clientCAMode = "")
    (h : (resolveRefs p w gw l).refsResolved = true) :
    ∃ m, ownMaterial p w gw l.spec l.set = some m ∧ Carries m (resolveRefs p w gw l) := by
  have hpair : (resolveKeyPair p w gw l).refsResolved = true := by
    by_contra hn
    rw [resolveRefs, if_neg fun hc => hn hc.2] at h
    exact hn h
  obtain ⟨-, cert, hcert, he⟩ := resolveKeyPair_resolved hpair
  have hcarries := carries_keyPair hd hm cert
  rw [← he] at hcarries
  have hspec : (resolveKeyPair p w gw l).spec = l.spec := congrArg Prod.fst (resolveKeyPair_origin p w gw l)
  unfold resolveRefs at h ⊢
  dsimp only at h ⊢
  generalize resolveKeyPair p w gw l = l' at *
  split_ifs at h ⊢ with hc
  · rcases resolveFrontendValidation_resolved hc.1 h with ⟨hca, hf⟩ | ⟨mode, bundle, hca, hf⟩
    · rw [hspec] at hca
      rw [hf]
      exact ⟨⟨cert, none⟩, by simp [ownMaterial, hcert, hca], hcarries⟩
    · rw [hspec] at hca
      rw [hf]
      refine ⟨⟨cert, some (mode, bundle)⟩, by simp [ownMaterial, hcert, hca], ?_, rfl⟩
      exact congrArg (fun d => Std.ExtTreeMap.insert d (l'.effectiveName ++ ".client-ca.crt") bundle)
        hcarries.certData
  · have hp : ¬ l.spec.protocol = protocolHTTPS := fun hp => hc ⟨hspec ▸ hp, hpair⟩
    exact ⟨⟨cert, none⟩, by simp [ownMaterial, hcert, ownClientCA, hp], hcarries⟩

/-! ## One listener -/

theorem prepared_fresh (spec : ListenerSpec) (set : Option SetName) :
    (resolveRouteKinds (checkProtocol (newListenerState spec set))).certData = ∅ ∧
      (resolveRouteKinds (checkProtocol (newListenerState spec set))).clientCAMode = "" := by
  have hcheck : (checkProtocol (newListenerState spec set)).certData = ∅ ∧
      (checkProtocol (newListenerState spec set)).clientCAMode = "" := by
    unfold checkProtocol
    dsimp only
    split_ifs <;> exact ⟨rfl, rfl⟩
  generalize checkProtocol (newListenerState spec set) = l at hcheck
  unfold resolveRouteKinds
  dsimp only
  split_ifs <;> exact hcheck

variable {spec : ListenerSpec} {set : Option SetName}

theorem validateListener_origin : (validateListener p w gw spec set a).1.origin = (spec, set) := by
  have horigin : (resolveRefs p w gw (resolveRouteKinds (checkProtocol (newListenerState spec set)))).origin =
      (spec, set) := by
    rw [resolveRefs_origin, resolveRouteKinds_origin, checkProtocol_origin]
    rfl
  unfold validateListener
  split <;> exact horigin

theorem validateListener_allocator : (validateListener p w gw spec set a).2 =
    (a.allocate gw.uid spec.port spec.protocol).2 := by
  unfold validateListener
  split
  · next h => rw [h]
  · next h => rw [h]

theorem validateListener_valid (hv : (validateListener p w gw spec set a).1.valid = true) :
    (∃ m, ownMaterial p w gw spec set = some m ∧ Carries m (validateListener p w gw spec set a).1) ∧
      (a.allocate gw.uid spec.port spec.protocol).1 =
        .ok (validateListener p w gw spec set a).1.internalPort := by
  obtain ⟨hd, hm⟩ := prepared_fresh spec set
  have horigin : (resolveRouteKinds (checkProtocol (newListenerState spec set))).origin = (spec, set) := by
    rw [resolveRouteKinds_origin, checkProtocol_origin]
    rfl
  unfold validateListener at hv ⊢
  generalize resolveRouteKinds (checkProtocol (newListenerState spec set)) = l at *
  obtain ⟨hspec, hset⟩ := Prod.mk.inj horigin
  cases halloc : a.allocate gw.uid spec.port spec.protocol with
  | mk result a' =>
    rw [halloc] at hv
    cases result with
    | error err => simp [ListenerState.valid, ListenerState.reject] at hv
    | ok port =>
      refine ⟨?_, rfl⟩
      have hres : (resolveRefs p w gw l).refsResolved = true := by
        simp only [ListenerState.valid, Bool.and_eq_true] at hv
        exact hv.2
      obtain ⟨m, hown, hcarries⟩ := resolveRefs_resolved hd hm hres
      rw [hspec, hset] at hown
      exact ⟨m, hown, hcarries.certData, hcarries.mode⟩

end

theorem validateEach_origins (specs : List (ListenerSpec × Option SetName)) (a : PortAllocator) :
    (validateEach p w gw specs a).1.map ListenerState.origin = specs := by
  induction specs generalizing a with
  | nil => rfl
  | cons s specs ih =>
    obtain ⟨spec, set⟩ := s
    rw [validateEach, List.map_cons, validateListener_origin, ih]

variable {uid : GatewayUID}

theorem validateEach_material {specs : List (ListenerSpec × Option SetName)}
    (hl : l ∈ (validateEach p w gw specs a).1) (hv : l.valid = true) :
    ∃ m, ownMaterial p w gw l.spec l.set = some m ∧ Carries m l := by
  induction specs generalizing a with
  | nil => cases hl
  | cons s specs ih =>
    obtain ⟨spec, set⟩ := s
    rw [validateEach] at hl
    rcases List.mem_cons.mp hl with rfl | hl
    · have horigin : (validateListener p w gw spec set a).1.origin = (spec, set) := validateListener_origin
      obtain ⟨hspec, hset⟩ := Prod.mk.inj horigin
      rw [hspec, hset]
      exact (validateListener_valid hv).1
    · exact ih hl

/-! ## Conflicts -/

def Claimed.Compatible (c d : Claimed) : Prop :=
  c.port = d.port → c.protocol = d.protocol ∧ c.hostname ≠ d.hostname

theorem conflictReason_eq_none {earlier : List Claimed} {c : Claimed} (h : conflictReason earlier c = none) :
    ∀ e ∈ earlier, e.Compatible c := by
  intro e he hport
  have hnone := List.findSome?_eq_none_iff.mp h e (List.mem_filter.mpr ⟨he, decide_eq_true hport⟩)
  split_ifs at hnone with h1 h2
  exact ⟨not_not.mp h1, h2⟩

theorem rejectConflicting_origins (earlier : List Claimed) (ls : List ListenerState) :
    (rejectConflicting earlier ls).map ListenerState.origin = ls.map ListenerState.origin := by
  induction ls generalizing earlier with
  | nil => rfl
  | cons l ls ih =>
    rw [rejectConflicting]
    split_ifs
    · split
      · rw [List.map_cons, List.map_cons, ih, resolveRouteKinds_origin]
        rfl
      · rw [List.map_cons, List.map_cons, ih]
    · rw [List.map_cons, List.map_cons, ih]

theorem resolveRouteKinds_accepted (l : ListenerState) : (resolveRouteKinds l).accepted = l.accepted := by
  unfold resolveRouteKinds
  dsimp only
  split_ifs <;> rfl

theorem rejectConflicting_accepted (earlier : List Claimed) (ls : List ListenerState) :
    ((rejectConflicting earlier ls).filter ListenerState.accepted).Sublist ls ∧
      ((rejectConflicting earlier ls).filter ListenerState.accepted).Pairwise
        (fun l m => l.claimed.Compatible m.claimed) ∧
      ∀ e ∈ earlier, ∀ l ∈ (rejectConflicting earlier ls).filter ListenerState.accepted,
        e.Compatible l.claimed := by
  induction ls generalizing earlier with
  | nil => exact ⟨List.Sublist.slnil, List.Pairwise.nil, fun _ _ _ hl => by cases hl⟩
  | cons l ls ih =>
    rw [rejectConflicting]
    split_ifs with ha
    · split
      · rw [List.filter_cons_of_neg (by rw [resolveRouteKinds_accepted]; exact Bool.false_ne_true)]
        obtain ⟨hsub, hpair, hearlier⟩ := ih earlier
        exact ⟨hsub.cons l, hpair, hearlier⟩
      · next hnone =>
        rw [List.filter_cons_of_pos ha]
        obtain ⟨hsub, hpair, hearlier⟩ := ih (earlier ++ [l.claimed])
        refine ⟨hsub.cons_cons l, List.pairwise_cons.mpr ⟨fun m hm => ?_, hpair⟩, fun e he m hm => ?_⟩
        · exact hearlier _ (List.mem_append_right _ (.head _)) m hm
        · rcases List.mem_cons.mp hm with rfl | hm
          · exact conflictReason_eq_none hnone e he
          · exact hearlier e (List.mem_append_left _ he) m hm
    · rw [List.filter_cons_of_neg ha]
      obtain ⟨hsub, hpair, hearlier⟩ := ih earlier
      exact ⟨hsub.cons l, hpair, hearlier⟩

/-! ## The effective listeners -/

variable {sets : List ListenerSetState}

theorem validateListeners_origins : (validateListeners p w gw sets a).1.map ListenerState.origin =
    effectiveSpecs gw sets :=
  (rejectConflicting_origins [] _).trans (validateEach_origins _ a)

def validOnes (listeners : List ListenerState) : List ListenerState := listeners.filter ListenerState.valid

theorem mem_validOnes {listeners : List ListenerState} :
    l ∈ validOnes listeners ↔ l ∈ listeners ∧ l.valid = true := List.mem_filter

theorem validOnes_sublist (listeners : List ListenerState) :
    (validOnes listeners).Sublist (listeners.filter ListenerState.accepted) := by
  have hboth : validOnes listeners =
      (listeners.filter ListenerState.accepted).filter ListenerState.refsResolved := by
    rw [List.filter_filter]
    exact congrArg (fun f => listeners.filter f) (funext fun l => Bool.and_comm ..)
  rw [hboth]
  exact List.filter_sublist

theorem rejectConflictingListeners_compatible (listeners : List ListenerState) :
    (validOnes (rejectConflictingListeners listeners)).Pairwise
      fun l m => l.claimed.Compatible m.claimed :=
  (rejectConflicting_accepted [] _).2.1.sublist (validOnes_sublist _)

theorem mem_validateEach (hl : l ∈ validOnes (validateListeners p w gw sets a).1) :
    l ∈ (validateEach p w gw (effectiveSpecs gw sets) a).1 :=
  (rejectConflicting_accepted [] _).1.subset ((validOnes_sublist _).subset hl)

theorem validateListeners_material (hl : l ∈ validOnes (validateListeners p w gw sets a).1) :
    ∃ m, ownMaterial p w gw l.spec l.set = some m ∧ Carries m l :=
  validateEach_material (mem_validateEach hl) (mem_validOnes.mp hl).2

end Krouter.ControlPlane
