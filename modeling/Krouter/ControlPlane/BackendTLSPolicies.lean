import Krouter.ControlPlane.RouteCompile
import Krouter.Lib.Precedence
import Mathlib.Data.List.Induction
import Mathlib.Data.String.Basic

/-! BackendTLSPolicies: what each one compiles to, which one a target belongs to, and what a Service
port finds. -/

namespace Krouter.ControlPlane
open Compiled GoString Routing

/-! ## Policies -/

structure PolicyTarget where
  group : String
  kind : String
  name : String
  sectionName : Option String
  deriving DecidableEq

def PolicyTarget.isService (t : PolicyTarget) : Bool := t.kind = "Service" && t.group = ""

structure SubjectAltNameEntry where
  type : String
  hostname : String
  uri : String
  deriving DecidableEq

structure PolicyValidation where
  hostname : String
  subjectAltNames : List SubjectAltNameEntry
  wellKnownCACertificates : Option String
  caCertificateRefs : List LocalObjectReference
  deriving DecidableEq

structure BackendTLSPolicy where
  ns : String
  name : String
  created : Int
  targetRefs : List PolicyTarget
  options : GoMap String String
  validation : PolicyValidation
  deriving DecidableEq

inductive PolicyReason where
  | accepted
  | invalid
  | conflicted
  | noValidCACertificate
  | resolvedRefs
  | invalidKind
  | invalidCACertificateRef
  deriving DecidableEq

/-- `backendTLSPolicyState`, without the ancestors that are collected later. -/
structure PolicyState where
  tls : Option BackendTLS
  accepted : Bool
  acceptedReason : PolicyReason
  resolvedOK : Bool
  resolvedReason : PolicyReason
  message : String
  deriving DecidableEq

def invalidTLS : BackendTLS := ⟨"", "", false, true, []⟩

namespace PolicyState

def fresh : PolicyState := ⟨none, true, .accepted, true, .resolvedRefs, ""⟩

def invalidate (state : PolicyState) (acceptedReason : PolicyReason) (resolvedReason : Option PolicyReason)
    (message : String) : PolicyState where
  tls := some invalidTLS
  accepted := false
  acceptedReason := acceptedReason
  resolvedOK := state.resolvedOK && resolvedReason.isNone
  resolvedReason := resolvedReason.getD state.resolvedReason
  message := message

def rejectTarget (state : PolicyState) : PolicyState :=
  { state with accepted := false, acceptedReason := .invalid, tls := some invalidTLS }

def conflict (state : PolicyState) : PolicyState :=
  { state with accepted := false, acceptedReason := .conflicted }

end PolicyState

def compileSAN (san : SubjectAltNameEntry) : Option SubjectAltName :=
  let value := if san.type = "Hostname" then san.hostname else if san.type = "URI" then san.uri else ""
  if value = "" then none else some ⟨san.type, value⟩

section
variable (p : Platform) (w : World)

def resolvePolicyCARef (ns : String) (ref : LocalObjectReference) :
    Except (PolicyReason × String) String :=
  if ref.kind ≠ "ConfigMap" ∨ ref.group ≠ "" then
    .error (.invalidKind, "caCertificateRefs must reference core ConfigMaps")
  else match w.configMap ns ref.name with
    | none => .error (.invalidCACertificateRef, "ConfigMap " ++ ref.name ++ " not found")
    | some data => .ok (data.read "ca.crt" "" ++ "\n")

def resolvePolicyCAs (policy : BackendTLSPolicy) (tls : BackendTLS) : PolicyState :=
  match policy.validation.caCertificateRefs.mapM (resolvePolicyCARef w policy.ns) with
  | .error (reason, message) => PolicyState.fresh.invalidate .noValidCACertificate (some reason) message
  | .ok bundles =>
    let bundle := String.join bundles
    if validCAPem p bundle then { PolicyState.fresh with tls := some { tls with caPem := bundle } }
    else PolicyState.fresh.invalidate .noValidCACertificate (some .invalidCACertificateRef)
      "no valid CA certificate"

def resolvePolicyValidation (policy : BackendTLSPolicy) : PolicyState :=
  if ¬ policy.options.isEmpty then
    PolicyState.fresh.invalidate .invalid none "unsupported validation options"
  else match policy.validation.subjectAltNames.mapM compileSAN with
    | none => PolicyState.fresh.invalidate .invalid none "invalid subjectAltName entry"
    | some names =>
      let tls : BackendTLS := ⟨policy.validation.hostname, "", false, false, names⟩
      if policy.validation.wellKnownCACertificates.isSome then
        { PolicyState.fresh with tls := some { tls with systemCAs := true } }
      else resolvePolicyCAs p w policy tls

/-! ## Claims on targets -/

structure BoundTarget where
  key : String
  sectionName : String
  conflicted : Bool
  deriving DecidableEq

structure TargetPass where
  claimed : GoMap String Bool
  state : PolicyState
  bound : List BoundTarget

def PolicyTarget.sectionText (t : PolicyTarget) : String := t.sectionName.getD ""

def targetKey (policy : BackendTLSPolicy) (t : PolicyTarget) : String := nsName policy.ns t.name

def claimOf (policy : BackendTLSPolicy) (t : PolicyTarget) : String :=
  targetKey policy t ++ "|" ++ t.sectionText

/-- A target that is not a Service fails the whole policy; one that is claimed already is
only reported. -/
def bindTarget (policy : BackendTLSPolicy) (pass : TargetPass) (t : PolicyTarget) : TargetPass :=
  if ¬ t.isService then { pass with state := pass.state.rejectTarget }
  else
    let conflicted := pass.claimed.read (claimOf policy t) false
    ⟨pass.claimed.insert (claimOf policy t) true,
      if conflicted then pass.state.conflict else pass.state,
      pass.bound ++ [⟨targetKey policy t, t.sectionText, conflicted⟩]⟩

structure PolicyIndex where
  claimed : GoMap String Bool
  backendTLS : GoMap String (List BackendTLSBinding)
  states : List PolicyState

def addBinding (tls : Option BackendTLS) (index : GoMap String (List BackendTLSBinding)) (b : BoundTarget) :
    GoMap String (List BackendTLSBinding) :=
  index.insert b.key (index.read b.key [] ++ [⟨tls, b.sectionName, b.conflicted⟩])

def bindTargets (claimed : GoMap String Bool) (policy : BackendTLSPolicy) : TargetPass :=
  policy.targetRefs.foldl (bindTarget policy) ⟨claimed, resolvePolicyValidation p w policy, []⟩

/-- The bindings of a policy share its state, so all of them have the outcome after its last
target. -/
def resolvePolicy (index : PolicyIndex) (policy : BackendTLSPolicy) : PolicyIndex :=
  let pass := bindTargets p w index.claimed policy
  ⟨pass.claimed, pass.bound.foldl (addBinding pass.state.tls) index.backendTLS,
    index.states ++ [pass.state]⟩

def policyName (policy : BackendTLSPolicy) : String := nsName policy.ns policy.name

def orderPolicies (policies : List BackendTLSPolicy) : List BackendTLSPolicy :=
  policies.insertionSort fun a b => a.created < b.created ∨ a.created = b.created ∧
    ¬ policyName b < policyName a

def resolveBackendTLSPolicies (policies : List BackendTLSPolicy) : PolicyIndex :=
  (orderPolicies policies).foldl (resolvePolicy p w) ⟨∅, ∅, []⟩

end

/-! ## The outcome of a policy -/

inductive Broken (p : Platform) (w : World) (policy : BackendTLSPolicy) : Prop where
  | target (t : PolicyTarget) (ht : t ∈ policy.targetRefs) (h : t.isService = false)
  | options (h : policy.options.isEmpty = false)
  | altName (h : policy.validation.subjectAltNames.mapM compileSAN = none)
  | caRef (hown : policy.validation.wellKnownCACertificates = none) (reason : PolicyReason × String)
      (h : policy.validation.caCertificateRefs.mapM (resolvePolicyCARef w policy.ns) = .error reason)
  | bundle (hown : policy.validation.wellKnownCACertificates = none) (bundles : List String)
      (hrefs : policy.validation.caCertificateRefs.mapM (resolvePolicyCARef w policy.ns) = .ok bundles)
      (h : validCAPem p (String.join bundles) = false)

section
variable (p : Platform) (w : World) (policy : BackendTLSPolicy)

def policyTLS : BackendTLS :=
  if policy.targetRefs.all PolicyTarget.isService then
    (resolvePolicyValidation p w policy).tls.getD invalidTLS
  else invalidTLS

theorem resolvePolicyCAs_tls (tls : BackendTLS) : ∃ out, (resolvePolicyCAs p w policy tls).tls = some out := by
  unfold resolvePolicyCAs
  split
  · exact ⟨_, rfl⟩
  · dsimp only
    split_ifs
    · exact ⟨_, rfl⟩
    · exact ⟨_, rfl⟩

theorem resolvePolicyValidation_tls : ∃ out, (resolvePolicyValidation p w policy).tls = some out := by
  unfold resolvePolicyValidation
  split
  · exact ⟨_, rfl⟩
  · split
    · exact ⟨_, rfl⟩
    · dsimp only
      split
      · exact ⟨_, rfl⟩
      · exact resolvePolicyCAs_tls p w policy _

theorem resolvePolicyCAs_invalid {tls : BackendTLS} (htls : tls.invalid = false) :
    ((resolvePolicyCAs p w policy tls).tls.getD invalidTLS).invalid = true ↔
      (∃ reason, policy.validation.caCertificateRefs.mapM (resolvePolicyCARef w policy.ns) = .error reason) ∨
      ∃ bundles, policy.validation.caCertificateRefs.mapM (resolvePolicyCARef w policy.ns) = .ok bundles ∧
        validCAPem p (String.join bundles) = false := by
  rw [resolvePolicyCAs]
  cases hrefs : policy.validation.caCertificateRefs.mapM (resolvePolicyCARef w policy.ns) with
  | error reason => simp [PolicyState.invalidate, invalidTLS]
  | ok bundles =>
    cases hvalid : validCAPem p (String.join bundles) with
    | true => simp [hvalid, htls]
    | false => simp [hvalid, PolicyState.invalidate, invalidTLS]

theorem resolvePolicyValidation_invalid (hoptions : policy.options.isEmpty = true)
    {names : List SubjectAltName} (hnames : policy.validation.subjectAltNames.mapM compileSAN = some names) :
    ((resolvePolicyValidation p w policy).tls.getD invalidTLS).invalid = true ↔
      policy.validation.wellKnownCACertificates = none ∧
      ((∃ reason, policy.validation.caCertificateRefs.mapM (resolvePolicyCARef w policy.ns) = .error reason) ∨
      ∃ bundles, policy.validation.caCertificateRefs.mapM (resolvePolicyCARef w policy.ns) = .ok bundles ∧
        validCAPem p (String.join bundles) = false) := by
  rw [resolvePolicyValidation, if_neg (not_not.mpr hoptions), hnames]
  dsimp only
  cases hown : policy.validation.wellKnownCACertificates with
  | none =>
    rw [if_neg (by simp), resolvePolicyCAs_invalid p w policy rfl]
    simp
  | some source => simp

theorem policyTLS_invalid_iff : (policyTLS p w policy).invalid = true ↔ Broken p w policy := by
  by_cases htargets : policy.targetRefs.all PolicyTarget.isService = true
  · have htarget : ∀ t ∈ policy.targetRefs, ¬ t.isService = false := fun t ht h => by
      rw [List.all_eq_true.mp htargets t ht] at h
      cases h
    rw [policyTLS, if_pos htargets]
    cases hoptions : policy.options.isEmpty with
    | false =>
      refine ⟨fun _ => .options hoptions, fun _ => ?_⟩
      rw [resolvePolicyValidation, if_pos (by simp [hoptions])]
      rfl
    | true =>
      cases hnames : policy.validation.subjectAltNames.mapM compileSAN with
      | none =>
        refine ⟨fun _ => .altName hnames, fun _ => ?_⟩
        rw [resolvePolicyValidation, if_neg (not_not.mpr hoptions), hnames]
        rfl
      | some names =>
        rw [resolvePolicyValidation_invalid p w policy hoptions hnames]
        constructor
        · rintro ⟨hown, ⟨reason, hrefs⟩ | ⟨bundles, hrefs, hvalid⟩⟩
          · exact .caRef hown reason hrefs
          · exact .bundle hown bundles hrefs hvalid
        · rintro (⟨t, ht, h⟩ | h | h | ⟨hown, reason, hrefs⟩ | ⟨hown, bundles, hrefs, hvalid⟩)
          · exact absurd h (htarget t ht)
          · rw [hoptions] at h
            cases h
          · rw [hnames] at h
            cases h
          · exact ⟨hown, .inl ⟨reason, hrefs⟩⟩
          · exact ⟨hown, .inr ⟨bundles, hrefs, hvalid⟩⟩
  · rw [policyTLS, if_neg htargets]
    refine ⟨fun _ => ?_, fun _ => rfl⟩
    have hsome : ∃ t ∈ policy.targetRefs, t.isService = false := by simpa using htargets
    obtain ⟨t, ht, h⟩ := hsome
    exact .target t ht h

end

/-! ## One policy -/

def asks (policy : BackendTLSPolicy) (key sec : String) (t : PolicyTarget) : Bool :=
  t.isService && targetKey policy t = key && t.sectionText = sec

def Targets (policy : BackendTLSPolicy) (key sec : String) : Bool :=
  policy.targetRefs.any (asks policy key sec)

theorem asks_iff {policy : BackendTLSPolicy} {key sec : String} {t : PolicyTarget} :
    asks policy key sec t = true ↔
      t.isService = true ∧ targetKey policy t = key ∧ t.sectionText = sec := by
  simp [asks, and_assoc]

theorem claim_inj {key key' sec sec' : String} (hs : '|' ∉ sec.toList) (hs' : '|' ∉ sec'.toList) :
    key ++ "|" ++ sec = key' ++ "|" ++ sec' ↔ key = key' ∧ sec = sec' := by
  exact ⟨joined_inj rfl (.inr ⟨hs, hs'⟩), fun h => by rw [h.1, h.2]⟩

theorem read_insert_true (m : GoMap String Bool) (k c : String) :
    GoMap.read (m.insert k true) c false = (m.read c false || k = c) := by
  rw [GoMap.read, GoMap.get_insert]
  split_ifs with h
  · simp [h]
  · simp [h, GoMap.read]

variable {policy : BackendTLSPolicy}

section
variable {pass : TargetPass}

theorem foldl_bindTarget_tls (ts : List PolicyTarget) :
    (ts.foldl (bindTarget policy) pass).state.tls =
      if ts.all PolicyTarget.isService then pass.state.tls else some invalidTLS := by
  induction ts using List.reverseRecOn with
  | nil => rfl
  | append_singleton ts t ih =>
    rw [List.foldl_append, List.foldl_cons, List.foldl_nil, bindTarget]
    cases ht : t.isService with
    | false => simp [ht, PolicyState.rejectTarget]
    | true =>
      have hstate : ∀ (b : Bool) (state : PolicyState),
          (if b then state.conflict else state).tls = state.tls := by
        intro b state
        cases b <;> rfl
      simp [ht, hstate, ih]

variable {key sec : String} {ts : List PolicyTarget}

theorem claimOf_eq_iff {t : PolicyTarget} (ht : '|' ∉ t.sectionText.toList) (hs : '|' ∉ sec.toList) :
    (t.isService = true ∧ claimOf policy t = key ++ "|" ++ sec) ↔ asks policy key sec t = true := by
  rw [asks_iff, claimOf, claim_inj ht hs]

theorem bindTarget_claimed {t : PolicyTarget} (ht : '|' ∉ t.sectionText.toList) (hs : '|' ∉ sec.toList) :
    (bindTarget policy pass t).claimed.read (key ++ "|" ++ sec) false =
      (pass.claimed.read (key ++ "|" ++ sec) false || asks policy key sec t) := by
  rw [bindTarget, Bool.eq_iff_iff, Bool.or_eq_true, ← claimOf_eq_iff ht hs]
  by_cases hservice : t.isService = true
  · rw [if_neg (not_not.mpr hservice)]
    rw [read_insert_true]
    simp [hservice]
  · simp [hservice]

theorem foldl_bindTarget_claimed (hplain : ∀ t ∈ ts, '|' ∉ t.sectionText.toList) (hs : '|' ∉ sec.toList) :
    (ts.foldl (bindTarget policy) pass).claimed.read (key ++ "|" ++ sec) false =
      (pass.claimed.read (key ++ "|" ++ sec) false || ts.any (asks policy key sec)) := by
  induction ts generalizing pass with
  | nil => simp
  | cons t ts ih =>
    rw [List.foldl_cons, ih fun u hu => hplain u (List.mem_cons_of_mem t hu),
      bindTarget_claimed (hplain t (.head _)) hs, List.any_cons, Bool.or_assoc]

def standing (key sec : String) (b : BoundTarget) : Bool :=
  b.key = key && !b.conflicted && b.sectionName = sec

theorem bindTarget_standing (t : PolicyTarget) (key sec : String) :
    (bindTarget policy pass t).bound.filter (standing key sec) =
      pass.bound.filter (standing key sec) ++
        if asks policy key sec t && !pass.claimed.read (key ++ "|" ++ sec) false then
          [⟨key, sec, false⟩]
        else [] := by
  rw [bindTarget]
  by_cases hservice : t.isService = true
  · rw [if_neg (not_not.mpr hservice), List.filter_append]
    congr 1
    by_cases hkey : targetKey policy t = key ∧ t.sectionText = sec
    · have hclaim : claimOf policy t = key ++ "|" ++ sec := by rw [claimOf, hkey.1, hkey.2]
      rw [hclaim, hkey.1, hkey.2, asks_iff.mpr ⟨hservice, hkey⟩]
      cases hflag : pass.claimed.read (key ++ "|" ++ sec) false <;> simp [standing]
    · have hasks : asks policy key sec t = false := by
        rw [← Bool.not_eq_true, asks_iff]
        exact fun h => hkey h.2
      have hnot : standing key sec ⟨targetKey policy t, t.sectionText,
          pass.claimed.read (claimOf policy t) false⟩ = false := by
        rw [← Bool.not_eq_true]
        intro h
        simp only [standing, Bool.and_eq_true, decide_eq_true_eq] at h
        exact hkey ⟨h.1.1, h.2⟩
      simp [hasks, hnot]
  · have hasks : asks policy key sec t = false := by
      rw [← Bool.not_eq_true, asks_iff]
      exact fun h => hservice h.1
    simp [hservice, hasks]

theorem foldl_bindTarget_standing
    (hplain : ∀ t ∈ ts, '|' ∉ t.sectionText.toList) (key sec : String) (hbound : pass.bound = []) :
    (ts.foldl (bindTarget policy) pass).bound.filter (standing key sec) =
      if ts.any (asks policy key sec) && !pass.claimed.read (key ++ "|" ++ sec) false then
        [⟨key, sec, false⟩]
      else [] := by
  induction ts using List.reverseRecOn with
  | nil => simp [hbound]
  | append_singleton ts t ih =>
    have hearlier : ∀ u ∈ ts, '|' ∉ u.sectionText.toList := fun u hu => hplain u (List.mem_append_left _ hu)
    rw [List.foldl_append, List.foldl_cons, List.foldl_nil, bindTarget_standing, ih hearlier]
    cases hasks : asks policy key sec t with
    | false => simp [hasks]
    | true =>
      have hs : '|' ∉ sec.toList := (asks_iff.mp hasks).2.2 ▸ hplain t (by simp)
      rw [foldl_bindTarget_claimed hearlier hs]
      -- asked for before in this pass or in an earlier one, or now for the first time
      cases ts.any (asks policy key sec) <;> cases pass.claimed.read (key ++ "|" ++ sec) false <;>
        simp [hasks]

end

variable {p : Platform} {w : World}

theorem read_foldl_addBinding (tls : Option BackendTLS) (bound : List BoundTarget)
    (index : GoMap String (List BackendTLSBinding)) (key : String) :
    (bound.foldl (addBinding tls) index).read key [] = index.read key [] ++
      (bound.filter fun b => b.key = key).map fun b => ⟨tls, b.sectionName, b.conflicted⟩ := by
  induction bound generalizing index with
  | nil => simp
  | cons b bound ih =>
    have hone : (addBinding tls index b).read key [] = index.read key [] ++
        ([b].filter fun b => b.key = key).map fun b => ⟨tls, b.sectionName, b.conflicted⟩ := by
      rw [addBinding, GoMap.read, GoMap.get_insert]
      split_ifs with h
      · simp [h]
      · simp [h, GoMap.read]
    rw [List.foldl_cons, ih, hone, List.append_assoc, ← List.map_append, ← List.filter_append]
    rfl

def BackendTLSBinding.stands (sec : String) (b : BackendTLSBinding) : Bool :=
  !b.conflicted && b.sectionName = sec

structure Indexed (p : Platform) (w : World) (done : List BackendTLSPolicy) (index : PolicyIndex) : Prop where
  claimed : ∀ key sec, '|' ∉ sec.toList →
    index.claimed.read (key ++ "|" ++ sec) false = done.any (Targets · key sec)
  standing : ∀ key sec, (index.backendTLS.read key []).filter (BackendTLSBinding.stands sec) =
    ((done.find? (Targets · key sec)).map fun q => ⟨some (policyTLS p w q), sec, false⟩).toList

theorem indexed_nil : Indexed p w [] ⟨∅, ∅, []⟩ where
  claimed key sec _ := by rw [GoMap.read, GoMap.get_empty]; rfl
  standing key sec := by rw [GoMap.read, GoMap.get_empty]; rfl

/-- Section names are port names, so they are free of the separator of the claims. -/
def PlainSections (policy : BackendTLSPolicy) : Prop := ∀ t ∈ policy.targetRefs, '|' ∉ t.sectionText.toList

instance (policy : BackendTLSPolicy) : Decidable (PlainSections policy) :=
  inferInstanceAs (Decidable (∀ t ∈ policy.targetRefs, '|' ∉ t.sectionText.toList))

theorem PlainSections.of_targets (h : PlainSections policy) {key sec : String}
    (ht : Targets policy key sec = true) : '|' ∉ sec.toList := by
  obtain ⟨t, hmem, hasks⟩ := List.any_eq_true.mp ht
  exact (asks_iff.mp hasks).2.2 ▸ h t hmem

theorem bindTargets_tls (claimed : GoMap String Bool) (policy : BackendTLSPolicy) :
    (bindTargets p w claimed policy).state.tls = some (policyTLS p w policy) := by
  obtain ⟨out, hout⟩ := resolvePolicyValidation_tls p w policy
  rw [bindTargets, foldl_bindTarget_tls, policyTLS, hout, Option.getD_some]
  split_ifs <;> rfl

theorem resolvePolicy_standing {index : PolicyIndex} (hplain : PlainSections policy) (key sec : String) :
    ((resolvePolicy p w index policy).backendTLS.read key []).filter (BackendTLSBinding.stands sec) =
      (index.backendTLS.read key []).filter (BackendTLSBinding.stands sec) ++
        if Targets policy key sec && !index.claimed.read (key ++ "|" ++ sec) false then
          [⟨some (policyTLS p w policy), sec, false⟩]
        else [] := by
  rw [resolvePolicy]
  rw [read_foldl_addBinding, List.filter_append, bindTargets_tls]
  congr 1
  have hfilter : ((bindTargets p w index.claimed policy).bound.filter fun b => b.key = key).filter
      (fun b => BackendTLSBinding.stands sec ⟨some (policyTLS p w policy), b.sectionName, b.conflicted⟩) =
      if Targets policy key sec && !index.claimed.read (key ++ "|" ++ sec) false then
        [⟨key, sec, false⟩] else [] := by
    rw [List.filter_filter]
    refine (List.filter_congr fun b _ => ?_).trans (foldl_bindTarget_standing hplain key sec rfl)
    simp only [BackendTLSBinding.stands, standing]
    cases b.conflicted <;> simp [Bool.and_comm]
  rw [List.filter_map]
  refine (congrArg (List.map _) hfilter).trans ?_
  split_ifs <;> rfl

theorem Indexed.step {done : List BackendTLSPolicy} {index : PolicyIndex} (h : Indexed p w done index)
    (hplain : PlainSections policy) :
    Indexed p w (done ++ [policy]) (resolvePolicy p w index policy) where
  claimed key sec hs := by
    rw [resolvePolicy]
    rw [bindTargets, foldl_bindTarget_claimed hplain hs, h.claimed key sec hs, List.any_append]
    simp [Targets]
  standing key sec := by
    rw [resolvePolicy_standing hplain, h.standing, List.find?_append]
    cases htargets : Targets policy key sec with
    | false => simp [htargets]
    | true =>
      rw [h.claimed key sec (hplain.of_targets htargets)]
      cases hfind : done.find? (Targets · key sec) with
      | none =>
        have hany : done.any (Targets · key sec) = false := by
          rw [List.any_eq_false]
          exact List.find?_eq_none.mp hfind
        simp [hany, htargets]
      | some q =>
        have hfound : Targets q key sec = true := @List.find?_some _ (Targets · key sec) q done hfind
        have hany : done.any (Targets · key sec) = true :=
          List.any_eq_true.mpr ⟨q, List.mem_of_find?_eq_some hfind,
            hfound⟩
        simp [hany]

theorem indexed_foldl {policies : List BackendTLSPolicy} (hplain : ∀ q ∈ policies, PlainSections q) :
    Indexed p w policies (policies.foldl (resolvePolicy p w) ⟨∅, ∅, []⟩) := by
  induction policies using List.reverseRecOn with
  | nil => exact indexed_nil
  | append_singleton done policy ih =>
    rw [List.foldl_append]
    exact (ih fun q hq => hplain q (List.mem_append_left _ hq)).step (hplain policy (by simp))

/-! ## Service ports -/

theorem findSome?_ite {α β : Type} (q : α → Prop) [DecidablePred q] (f : α → Option β) (l : List α) :
    l.findSome? (fun a => if q a then f a else none) = (l.filter q).findSome? f := by
  induction l with
  | nil => rfl
  | cons a l ih =>
    by_cases h : q a
    · rw [List.filter_cons_of_pos (by simpa using h), List.findSome?_cons, List.findSome?_cons, if_pos h, ih]
    · rw [List.filter_cons_of_neg (by simpa using h), List.findSome?_cons, if_neg h, ih]

theorem backendTLSFor_eq (w : Snapshot) (ns name portName : String) :
    backendTLSFor w ns name portName =
      let bindings := w.backendTLS.read (nsName ns name) []
      match if portName = "" then none else (bindings.filter (BackendTLSBinding.stands portName)).head? with
      | some binding => binding.tls
      | none => (bindings.filter (BackendTLSBinding.stands "")).findSome? BackendTLSBinding.tls := by
  have hstands : ∀ (sec : String) (l : List BackendTLSBinding),
      (l.filter fun b => !b.conflicted).filter (fun b => b.sectionName = sec) =
        l.filter (BackendTLSBinding.stands sec) := by
    intro sec l
    rw [List.filter_filter]
    exact List.filter_congr fun b _ => Bool.and_comm ..
  unfold backendTLSFor
  dsimp only
  rw [findSome?_ite, hstands]
  have hselected : ∀ l : List BackendTLSBinding,
      (l.filter fun b => !b.conflicted).find? (fun b => b.sectionName = portName && portName ≠ "") =
        if portName = "" then none else (l.filter (BackendTLSBinding.stands portName)).head? := by
    intro l
    by_cases hport : portName = ""
    · rw [if_pos hport]
      exact List.find?_eq_none.mpr fun b _ => by simp [hport]
    · have hnamed : (fun b : BackendTLSBinding => decide (b.sectionName = portName) && decide (portName ≠ "")) =
          fun b => decide (b.sectionName = portName) := by
        funext b
        simp [hport]
      rw [if_neg hport, ← hstands, List.head?_filter, hnamed]
  exact hselected _ ▸ rfl

/-- What the API makes sure of: objects have distinct names, namespaces are labels, and section names
are port names. -/
structure ApiPolicies (policies : List BackendTLSPolicy) : Prop where
  distinct : (policies.map policyName).Nodup
  namespaces : ∀ q ∈ policies, '/' ∉ q.ns.toList
  sections : ∀ q ∈ policies, PlainSections q

def Covers (name sec ns : String) (policy : BackendTLSPolicy) : Prop :=
  policy.ns = ns ∧ ∃ t ∈ policy.targetRefs, t.isService = true ∧ t.name = name ∧ t.sectionText = sec

theorem targets_iff_covers {ns name sec : String}
    (hpolicy : '/' ∉ policy.ns.toList) (hns : '/' ∉ ns.toList) :
    Targets policy (nsName ns name) sec = true ↔ Covers name sec ns policy := by
  have hkey : ∀ t : PolicyTarget, targetKey policy t = nsName ns name ↔ policy.ns = ns ∧ t.name = name := by
    exact fun t => ⟨joined_inj rfl (.inl ⟨hpolicy, hns⟩), fun h => by rw [targetKey, h.1, h.2]⟩
  simp only [Targets, List.any_eq_true, asks_iff, hkey, Covers]
  constructor
  · rintro ⟨t, ht, hservice, ⟨hpns, hname⟩, hsec⟩
    exact ⟨hpns, t, ht, hservice, hname, hsec⟩
  · rintro ⟨hpns, t, ht, hservice, hname, hsec⟩
    exact ⟨t, ht, hservice, ⟨hpns, hname⟩, hsec⟩

def OldestPolicy (covers : BackendTLSPolicy → Prop) (policies : List BackendTLSPolicy)
    (policy : BackendTLSPolicy) : Prop :=
  Precedence.Oldest BackendTLSPolicy.created policyName covers policies policy

/-- What a port of a Service is to find: the oldest policy for its name, else the oldest for every
port. -/
inductive Applies (p : Platform) (w : World) (policies : List BackendTLSPolicy) (ns name portName : String) :
    Option BackendTLS → Prop where
  | sectioned (policy : BackendTLSPolicy) (hport : portName ≠ "")
      (h : OldestPolicy (Covers name portName ns) policies policy) :
      Applies p w policies ns name portName (some (policyTLS p w policy))
  | unsectioned (policy : BackendTLSPolicy)
      (hnone : portName = "" ∨ ∀ q ∈ policies, ¬ Covers name portName ns q)
      (h : OldestPolicy (Covers name "" ns) policies policy) :
      Applies p w policies ns name portName (some (policyTLS p w policy))
  | uncovered (hnone : portName = "" ∨ ∀ q ∈ policies, ¬ Covers name portName ns q)
      (h : ∀ q ∈ policies, ¬ Covers name "" ns q) :
      Applies p w policies ns name portName none

theorem orderPolicies_eq (policies : List BackendTLSPolicy) :
    orderPolicies policies = Precedence.sort BackendTLSPolicy.created policyName policies := by
  congr

section
variable {ns name : String}

theorem oldest_of_find (h : ApiPolicies policies) (hns : '/' ∉ ns.toList) {sec : String}
    (hfind : (orderPolicies policies).find? (Targets · (nsName ns name) sec) = some policy) :
    OldestPolicy (Covers name sec ns) policies policy := by
  rw [orderPolicies_eq] at hfind
  obtain ⟨hmem, hpass, hfirst⟩ := Precedence.oldest_of_find? hfind
  refine ⟨hmem, (targets_iff_covers (h.namespaces _ hmem) hns).mp hpass, fun q hq hcovers => ?_⟩
  exact hfirst q hq ((targets_iff_covers (h.namespaces _ hq) hns).mpr hcovers)

theorem uncovered_of_find (h : ApiPolicies policies) (hns : '/' ∉ ns.toList) {sec : String}
    (hfind : (orderPolicies policies).find? (Targets · (nsName ns name) sec) = none) :
    ∀ q ∈ policies, ¬ Covers name sec ns q := by
  intro q hq hcovers
  rw [orderPolicies_eq] at hfind
  exact List.find?_eq_none.mp hfind q (Precedence.mem_sort.mpr hq)
    ((targets_iff_covers (h.namespaces q hq) hns).mpr hcovers)

theorem standing_resolved (h : ApiPolicies policies) (key sec : String) :
    ((resolveBackendTLSPolicies p w policies).backendTLS.read key []).filter
        (BackendTLSBinding.stands sec) =
      (((orderPolicies policies).find? (Targets · key sec)).map fun q =>
        ⟨some (policyTLS p w q), sec, false⟩).toList := by
  have hsections : ∀ q ∈ orderPolicies policies, PlainSections q := by
    intro q hq
    rw [orderPolicies_eq] at hq
    exact h.sections q (Precedence.mem_sort.mp hq)
  exact (indexed_foldl hsections).standing key sec

end

/-- The cluster as the routes are compiled against it, with its policies resolved. -/
def Snapshot.withPolicies (p : Platform) (w : Snapshot) (policies : List BackendTLSPolicy) : Snapshot :=
  { w with backendTLS := (resolveBackendTLSPolicies p w.toWorld policies).backendTLS }

section
variable (p : Platform) (w : Snapshot)

theorem applies_backendTLSFor (h : ApiPolicies policies) {ns : String} (hns : '/' ∉ ns.toList)
    (name portName : String) :
    Applies p w.toWorld policies ns name portName (backendTLSFor (w.withPolicies p policies) ns name portName) := by
  rw [backendTLSFor_eq]
  unfold Snapshot.withPolicies
  dsimp only
  rw [standing_resolved h, standing_resolved h]
  -- the policies for no section decide when none is for the name of the port
  have hrest : (portName = "" ∨ ∀ q ∈ policies, ¬ Covers name portName ns q) →
      Applies p w.toWorld policies ns name portName
        ((((orderPolicies policies).find? (Targets · (nsName ns name) "")).map fun q =>
          (⟨some (policyTLS p w.toWorld q), "", false⟩ : BackendTLSBinding)).toList.findSome?
            BackendTLSBinding.tls) := by
    intro hnone
    cases hfind : (orderPolicies policies).find? (Targets · (nsName ns name) "") with
    | none => exact .uncovered hnone (uncovered_of_find h hns hfind)
    | some policy => exact .unsectioned policy hnone (oldest_of_find h hns hfind)
  by_cases hport : portName = ""
  · rw [if_pos hport]
    exact hrest (.inl hport)
  · rw [if_neg hport]
    cases hfind : (orderPolicies policies).find? (Targets · (nsName ns name) portName) with
    | none => exact hrest (.inr (uncovered_of_find h hns hfind))
    | some policy => exact .sectioned policy hport (oldest_of_find h hns hfind)

theorem resolveBackendTLSPolicies_perm (h : ApiPolicies policies) {other : List BackendTLSPolicy}
    (hperm : other.Perm policies) :
    resolveBackendTLSPolicies p w.toWorld other = resolveBackendTLSPolicies p w.toWorld policies := by
  rw [resolveBackendTLSPolicies, resolveBackendTLSPolicies, orderPolicies_eq, orderPolicies_eq,
    Precedence.sort_eq_of_perm h.distinct hperm.symm]

/-- A covered port has an outcome, and the outcome of a policy that cannot be applied fails
closed; `other` is another order of the same policies. -/
theorem oldest_policy_applies (h : ApiPolicies policies) (other : List BackendTLSPolicy)
    (hperm : other.Perm policies) (ns name portName : String) (hns : '/' ∉ ns.toList) :
    let applied := backendTLSFor (w.withPolicies p policies) ns name portName
    Applies p w.toWorld policies ns name portName applied ∧
      backendTLSFor (w.withPolicies p other) ns name portName = applied ∧
      ((∃ q ∈ policies, Covers name portName ns q ∨ Covers name "" ns q) → ∃ tls, applied = some tls) ∧
      ∀ policy, (policyTLS p w.toWorld policy).invalid = true ↔ Broken p w.toWorld policy := by
  intro applied
  have happlies : Applies p w.toWorld policies ns name portName applied :=
    applies_backendTLSFor p w h hns name portName
  refine ⟨happlies, ?_, ?_, policyTLS_invalid_iff p w.toWorld⟩
  · rw [Snapshot.withPolicies, resolveBackendTLSPolicies_perm p w h hperm]
    rfl
  · rintro ⟨q, hq, hcovers⟩
    generalize applied = result at happlies
    cases happlies with
    | sectioned policy hport hold => exact ⟨_, rfl⟩
    | unsectioned policy hnone hold => exact ⟨_, rfl⟩
    | uncovered hnone hplain =>
      exfalso
      rcases hcovers with hsection | hall
      · rcases hnone with hempty | hnone
        · exact hplain q hq (hempty ▸ hsection)
        · exact hnone q hq hsection
      · exact hplain q hq hall

end

/-! The oldest policy of a Service refers to a bundle that is not there. -/

def ledgerPolicy (name : String) (created : Int) (sec : Option String) (wellKnown : Option String) :
    BackendTLSPolicy where
  ns := "bank"
  name := name
  created := created
  targetRefs := [⟨"", "Service", "ledger", sec⟩]
  options := ∅
  validation := ⟨"ledger.internal", [], wellKnown, [⟨"", "ConfigMap", "ca"⟩]⟩

def ledgerPolicies : List BackendTLSPolicy :=
  [ledgerPolicy "young" 2 none (some "System"), ledgerPolicy "named" 3 (some "grpc") (some "System"),
    ledgerPolicy "old" 1 none none]

def policySnapshot : Snapshot where
  grants := []
  namespaces := ∅
  listenerSets := []
  services := ∅
  secret := fun _ _ => none
  configMap := fun _ _ => none
  backendTLS := ∅
  extensionCM := fun _ _ => .error "not found"
  extensionSecret := fun _ _ => .error "not found"

/-- It keeps the unnamed ports, in whatever order the policies come; the port with a policy of
its own is not touched. -/
theorem old_policy_fails_closed :
    backendTLSFor (policySnapshot.withPolicies .trusting ledgerPolicies) "bank" "ledger" "" =
      some invalidTLS ∧
    backendTLSFor (policySnapshot.withPolicies .trusting ledgerPolicies) "bank" "ledger" "grpc" =
      some ⟨"ledger.internal", "", true, false, []⟩ ∧
    backendTLSFor (policySnapshot.withPolicies .trusting ledgerPolicies.reverse) "bank" "ledger" "" =
      backendTLSFor (policySnapshot.withPolicies .trusting ledgerPolicies) "bank" "ledger" "" := by
  have hapi : ApiPolicies ledgerPolicies := ⟨by decide, by decide, by decide⟩
  have happlied := oldest_policy_applies .trusting policySnapshot hapi ledgerPolicies.reverse
    (List.reverse_perm _) "bank" "ledger" "" (by decide)
  exact ⟨by decide, by decide, happlied.2.1⟩

end Krouter.ControlPlane
