import Krouter.ControlPlane.Attach
import Krouter.Lib.Result

/-! What a compiled route says of the rules, matches, filters and backends it was compiled from. -/

namespace Krouter.ControlPlane
open Compiled Routing Attempt

/-! ## What compiling does to an outcome -/

structure Reports (s t : RouteOutcome) : Prop where
  refs : s.refsResolved = false → t.refsResolved = false
  authDocs : ∀ identity : String, s.authDocs[identity]?.isSome = true → t.authDocs[identity]?.isSome = true

structure Progress (s t : RouteOutcome) : Prop extends Reports s t where
  config : t.config = s.config
  accepted : t.accepted = s.accepted

instance : Std.Refl Progress := ⟨fun _ => ⟨⟨id, fun _ => id⟩, rfl, rfl⟩⟩

instance : IsTrans RouteOutcome Progress := ⟨fun _ _ _ h k => ⟨⟨fun hs => k.refs (h.refs hs),
  fun i hi => k.authDocs i (h.authDocs i hi)⟩, k.config.trans h.config, k.accepted.trans h.accepted⟩⟩

theorem progress_degrade (s : RouteOutcome) (reason : RouteReason) (message : String) :
    Progress s (s.degrade reason message) := by
  unfold RouteOutcome.degrade
  split_ifs
  · exact ⟨⟨fun _ => rfl, fun _ => id⟩, rfl, rfl⟩
  · exact Std.Refl.refl s

theorem degrade_refsResolved (s : RouteOutcome) (reason : RouteReason) (message : String) :
    (s.degrade reason message).refsResolved = false := by
  unfold RouteOutcome.degrade
  split_ifs with h
  · rfl
  · simpa using h

theorem progress_invalidateExtension (s : RouteOutcome) (message : String) :
    Progress s (s.invalidateExtension message) := ⟨⟨fun _ => rfl, fun _ => id⟩, rfl, rfl⟩

theorem progress_addAuthDoc (s : RouteOutcome) (auth : Option Auth) : Progress s (s.addAuthDoc auth) := by
  cases auth with
  | none => exact Std.Refl.refl s
  | some config =>
    refine ⟨⟨id, fun identity hi => ?_⟩, rfl, rfl⟩
    simp only [RouteOutcome.addAuthDoc, GoMap.get_insert]
    split_ifs
    · rfl
    · exact hi

section
variable (w : Snapshot) (ns kind : String)

theorem resolveBackend_invalid {ref : BackendRef} (h : (resolveBackend w ns kind ref).1.valid = false) :
    ∃ reason message, (resolveBackend w ns kind ref).2 = some (reason, message) := by
  unfold resolveBackend invalidBackend at h ⊢
  dsimp only at h ⊢
  split_ifs at h ⊢ <;> first | exact ⟨_, _, rfl⟩ | cases h

theorem resolveBackend_reference (ref : BackendRef) :
    (resolveBackend w ns kind ref).1.ns = ref.ns.getD ns ∧
      (resolveBackend w ns kind ref).1.name = ref.name ∧
      (resolveBackend w ns kind ref).1.port = ref.port.getD 0 ∧
      (resolveBackend w ns kind ref).1.weight = ref.weight.getD 1 := by
  unfold resolveBackend invalidBackend
  dsimp only
  split_ifs <;> exact ⟨rfl, rfl, rfl, rfl⟩

theorem eval_compileBackend (ref : BackendRef) (s : RouteOutcome) :
    ∃ t, eval (compileBackend w ns kind ref) s = (.ok (resolveBackend w ns kind ref).1, t) ∧ Progress s t ∧
      ((resolveBackend w ns kind ref).1.valid = false → t.refsResolved = false) := by
  unfold compileBackend
  cases hf : (resolveBackend w ns kind ref).2 with
  | none =>
    refine ⟨s, rfl, Std.Refl.refl s, fun hi => ?_⟩
    obtain ⟨reason, message, hsome⟩ := resolveBackend_invalid w ns kind hi
    rw [hf] at hsome
    cases hsome
  | some failure =>
    exact ⟨s.degrade failure.1 failure.2, rfl, progress_degrade s _ _,
      fun _ => degrade_refsResolved s _ _⟩

theorem keeps_compileBackend {R : RouteOutcome → RouteOutcome → Prop} [Std.Refl R] [IsTrans RouteOutcome R]
    (hR : ∀ s reason message, R s (s.degrade reason message)) (ref : BackendRef) :
    Keeps R (compileBackend w ns kind ref) := by
  unfold compileBackend
  cases (resolveBackend w ns kind ref).2 with
  | none => exact Keeps.pure _
  | some failure => exact (Keeps.modify fun s => hR s failure.1 failure.2).bind fun _ => Keeps.pure _

end

/-! ## Filters -/

def mirrorEntry (backend : BackendTarget) (percent : Option Json.Number) : Filter :=
  { filterOf filterRequestMirror with mirror := some backend, mirrorPercent := percent }

/-- What accounts for one filter of a rule, in a route whose references ended up resolved or
not. -/
inductive FilterAccount {D : Type} (docs : Documents D) (w : Snapshot) (ns kind : String)
    (ruleMatches : List HTTPRouteMatch) (filter : HTTPRouteFilter) (outcome : RouteOutcome) :
    FilterResult → Prop where
  | extension {ref : LocalObjectReference} : filter.type = filterExtensionRef →
      filter.extensionRef = some ref →
      FilterAccount docs w ns kind ruleMatches filter outcome (.extension ref)
  | requestHeaders {modifier : HTTPHeaderFilter} : filter.type = filterRequestHeaderModifier →
      filter.requestHeaderModifier = some modifier →
      FilterAccount docs w ns kind ruleMatches filter outcome
        (.entry (compileHeaderModifier filterRequestHeaderModifier modifier))
  | responseHeaders {modifier : HTTPHeaderFilter} : filter.type = filterResponseHeaderModifier →
      filter.responseHeaderModifier = some modifier →
      FilterAccount docs w ns kind ruleMatches filter outcome
        (.entry (compileHeaderModifier filterResponseHeaderModifier modifier))
  | cors {cors : HTTPCORSFilter} : filter.type = filterCORS → filter.cors = some cors →
      FilterAccount docs w ns kind ruleMatches filter outcome (.entry (compileCORS cors))
  | redirect {redirect : HTTPRequestRedirectFilter} {entry : Filter} :
      filter.type = filterRequestRedirect → filter.requestRedirect = some redirect →
      compileRedirect redirect ruleMatches = .ok entry →
      FilterAccount docs w ns kind ruleMatches filter outcome (.entry entry)
  | rewrite {rewrite : HTTPURLRewriteFilter} {entry : Filter} : filter.type = filterURLRewrite →
      filter.urlRewrite = some rewrite → compileRewrite rewrite ruleMatches = .ok entry →
      FilterAccount docs w ns kind ruleMatches filter outcome (.entry entry)
  | mirror {mirror : HTTPRequestMirrorFilter} {percent : Option Json.Number} :
      filter.type = filterRequestMirror → filter.requestMirror = some mirror →
      (resolveBackend w ns kind ⟨mirror.backendRef, none⟩).1.valid = true →
      mirrorPercent docs mirror = .ok percent →
      FilterAccount docs w ns kind ruleMatches filter outcome
        (.entry (mirrorEntry (resolveBackend w ns kind ⟨mirror.backendRef, none⟩).1 percent))
  | droppedMirror {mirror : HTTPRequestMirrorFilter} : filter.type = filterRequestMirror →
      filter.requestMirror = some mirror →
      (resolveBackend w ns kind ⟨mirror.backendRef, none⟩).1.valid = false →
      outcome.refsResolved = false → FilterAccount docs w ns kind ruleMatches filter outcome .dropped

variable {D : Type} {docs : Documents D} {w : Snapshot} {ns kind : String} {s t : RouteOutcome}

section
variable {ruleMatches : List HTTPRouteMatch} {filter : HTTPRouteFilter}

theorem FilterAccount.mono {result : FilterResult} (h : Reports s t)
    (hf : FilterAccount docs w ns kind ruleMatches filter s result) :
    FilterAccount docs w ns kind ruleMatches filter t result := by
  cases hf with
  | extension h1 h2 => exact .extension h1 h2
  | requestHeaders h1 h2 => exact .requestHeaders h1 h2
  | responseHeaders h1 h2 => exact .responseHeaders h1 h2
  | cors h1 h2 => exact .cors h1 h2
  | redirect h1 h2 h3 => exact .redirect h1 h2 h3
  | rewrite h1 h2 h3 => exact .rewrite h1 h2 h3
  | mirror h1 h2 h3 h4 => exact .mirror h1 h2 h3 h4
  | droppedMirror h1 h2 h3 h4 => exact .droppedMirror h1 h2 h3 (h.refs h4)

variable {result : Option Filter} {compile : Compiler (Option Filter)}

theorem compileMirror_ok {mirror : HTTPRequestMirrorFilter}
    (h : eval (compileMirror docs w ns kind mirror) s = (.ok result, t)) :
    (result = none ∧ (resolveBackend w ns kind ⟨mirror.backendRef, none⟩).1.valid = false ∧
      t.refsResolved = false) ∨
    ∃ percent, mirrorPercent docs mirror = .ok percent ∧
      (resolveBackend w ns kind ⟨mirror.backendRef, none⟩).1.valid = true ∧
      result = some (mirrorEntry (resolveBackend w ns kind ⟨mirror.backendRef, none⟩).1 percent) := by
  obtain ⟨backend, r, hb, h⟩ := bind_ok.mp h
  obtain ⟨r', hr, -, hrefs⟩ := eval_compileBackend w ns kind ⟨mirror.backendRef, none⟩ s
  rw [hr] at hb
  obtain ⟨hbackend, rfl⟩ := Prod.mk.inj hb
  cases hbackend
  split_ifs at h with hv
  · obtain ⟨percent, r'', hp, h⟩ := bind_ok.mp h
    rw [eval_ofResult] at hp
    obtain ⟨hpercent, -⟩ := Prod.mk.inj hp
    cases h
    exact .inr ⟨percent, hpercent, hv, rfl⟩
  · rw [Bool.not_eq_true] at hv
    cases h
    exact .inl ⟨rfl, hv, hrefs hv⟩

section
variable {R : RouteOutcome → RouteOutcome → Prop} [Std.Refl R] [IsTrans RouteOutcome R]
  (hR : ∀ s reason message, R s (s.degrade reason message))
include hR

theorem keeps_compileMirror (mirror : HTTPRequestMirrorFilter) :
    Keeps R (compileMirror docs w ns kind mirror) := by
  refine (keeps_compileBackend w ns kind hR _).bind fun backend => ?_
  split_ifs
  · exact (Keeps.ofResult _).bind fun percent => Keeps.pure _
  · exact Keeps.pure _

theorem keeps_compileGRPCFilter (filter : GRPCRouteFilter) :
    Keeps R (compileGRPCFilter docs w ns kind filter) := by
  unfold compileGRPCFilter
  split_ifs
  · exact (Keeps.require _ _).bind fun _ => Keeps.pure _
  · exact (Keeps.require _ _).bind fun _ => Keeps.pure _
  · exact (Keeps.require _ _).bind fun mirror => keeps_compileMirror hR mirror
  · exact Keeps.throw _

theorem keeps_compileHTTPFilter (rule : HTTPRouteRule) (filter : HTTPRouteFilter) :
    Keeps R (compileHTTPFilter docs w ns kind rule filter) := by
  unfold compileHTTPFilter
  split_ifs
  · exact (Keeps.require _ _).bind fun _ => Keeps.pure _
  · exact (Keeps.require _ _).bind fun _ => (Keeps.ofResult _).bind fun _ => Keeps.pure _
  · exact (Keeps.require _ _).bind fun _ => (Keeps.ofResult _).bind fun _ => Keeps.pure _
  · exact keeps_compileGRPCFilter hR _

end

theorem compileGRPCFilter_ok
    (h : eval (compileGRPCFilter docs w ns kind filter.toGRPCRouteFilter) s = (.ok result, t)) :
    FilterAccount docs w ns kind ruleMatches filter t (.compiled result) := by
  unfold compileGRPCFilter at h
  split_ifs at h with h1 h2 h3
  · obtain ⟨modifier, r, hm, h⟩ := bind_ok.mp h
    cases h
    exact .requestHeaders h1 (require_ok.mp hm).1
  · obtain ⟨modifier, r, hm, h⟩ := bind_ok.mp h
    cases h
    exact .responseHeaders h2 (require_ok.mp hm).1
  · obtain ⟨mirror, r, hm, h⟩ := bind_ok.mp h
    rcases compileMirror_ok h with ⟨rfl, hv, hrefs⟩ | ⟨percent, hp, hv, rfl⟩
    · exact .droppedMirror h3 (require_ok.mp hm).1 hv hrefs
    · exact .mirror h3 (require_ok.mp hm).1 hv hp
  · cases h

theorem compileHTTPFilter_ok {rule : HTTPRouteRule}
    (h : eval (compileHTTPFilter docs w ns kind rule filter) s = (.ok result, t)) :
    FilterAccount docs w ns kind rule.ruleMatches filter t (.compiled result) := by
  unfold compileHTTPFilter at h
  split_ifs at h with h1 h2 h3
  · obtain ⟨cors, r, hm, h⟩ := bind_ok.mp h
    cases h
    exact .cors h1 (require_ok.mp hm).1
  · obtain ⟨redirect, r, hm, h⟩ := bind_ok.mp h
    obtain ⟨entry, r', he, h⟩ := bind_ok.mp h
    cases h
    exact .redirect h2 (require_ok.mp hm).1 (ofResult_ok.mp he).1
  · obtain ⟨rewrite, r, hm, h⟩ := bind_ok.mp h
    obtain ⟨entry, r', he, h⟩ := bind_ok.mp h
    cases h
    exact .rewrite h3 (require_ok.mp hm).1 (ofResult_ok.mp he).1
  · exact compileGRPCFilter_ok h

theorem sortFilter_ok {result : FilterResult} (hcompile : ∀ entry s t, eval compile s = (.ok entry, t) →
      FilterAccount docs w ns kind ruleMatches filter t (.compiled entry))
    (h : eval (sortFilter filter.type filter.extensionRef compile) s = (.ok result, t)) :
    FilterAccount docs w ns kind ruleMatches filter t result := by
  unfold sortFilter at h
  split_ifs at h with htype
  · obtain ⟨ref, r, hr, h⟩ := bind_ok.mp h
    cases h
    exact .extension htype (require_ok.mp hr).1
  · obtain ⟨entry, r, he, h⟩ := bind_ok.mp h
    cases h
    exact hcompile entry s t he

theorem keeps_sortFilter {R : RouteOutcome → RouteOutcome → Prop} [Std.Refl R] [IsTrans RouteOutcome R]
    {type : String} {ref : Option LocalObjectReference}
    (h : Keeps R compile) : Keeps R (sortFilter type ref compile) := by
  unfold sortFilter
  split_ifs
  · exact (Keeps.require _ _).bind fun _ => Keeps.pure _
  · exact h.bind fun _ => Keeps.pure _

end

/-! ## Extensions -/

/-- The references of a rule fail it closed, or are all in its merged configuration. -/
inductive ExtensionAccount {D : Type} (docs : Documents D) (p : Platform) (w : Snapshot) (ns : String)
    (grpcRoute : Bool) (refs : List LocalObjectReference) (outcome : RouteOutcome) (ext : RuleExtensions) :
    Prop where
  | invalid : ext.invalid = true → ExtensionAccount docs p w ns grpcRoute refs outcome ext
  | merged {parts : List (ExtensionDocs D)} : refs.mapM (readExtension docs w ns) = .ok parts →
      mergeExtensions docs p grpcRoute parts = .ok ext →
      (∀ config, ext.auth = some config → outcome.authDocs[config.identity]?.isSome = true) →
      ExtensionAccount docs p w ns grpcRoute refs outcome ext

variable {p : Platform}

section
variable {grpcRoute : Bool} {refs : List LocalObjectReference} {ext : RuleExtensions}

theorem ExtensionAccount.mono (h : Reports s t) (he : ExtensionAccount docs p w ns grpcRoute refs s ext) :
    ExtensionAccount docs p w ns grpcRoute refs t ext := by
  cases he with
  | invalid hi => exact .invalid hi
  | merged h1 h2 h3 => exact .merged h1 h2 fun config hc => h.authDocs _ (h3 config hc)

/-- All that compiling the references can do: reject the route, fail the rule closed, or merge them. -/
theorem compileExtensions_cases (docs : Documents D) (p : Platform) (w : Snapshot) (ns : String)
    (refs : List LocalObjectReference) (grpcRoute : Bool) (s : RouteOutcome) :
    (∃ message, refs.mapM (readExtension docs w ns) = .error (.unsupported message) ∧
      eval (compileExtensions docs p w ns refs grpcRoute) s = (.error message, s)) ∨
    ((∀ message, refs.mapM (readExtension docs w ns) ≠ .error (.unsupported message)) ∧ ∃ message,
      eval (compileExtensions docs p w ns refs grpcRoute) s = (.ok invalidExtensions, s.invalidateExtension message)) ∨
    ∃ parts ext, refs.mapM (readExtension docs w ns) = .ok parts ∧
      mergeExtensions docs p grpcRoute parts = .ok ext ∧
      eval (compileExtensions docs p w ns refs grpcRoute) s = (.ok ext, s.addAuthDoc ext.auth) := by
  unfold compileExtensions
  split_ifs with hnil
  · subst hnil
    exact .inr (.inr ⟨[], noExtensions, rfl, rfl, rfl⟩)
  · cases hread : refs.mapM (readExtension docs w ns) with
    | error failure =>
      cases failure with
      | unsupported message => exact .inl ⟨message, rfl, rfl⟩
      | invalid message => exact .inr (.inl ⟨fun _ h => (by cases h), message, rfl⟩)
    | ok parts =>
      dsimp only
      cases hmerge : mergeExtensions docs p grpcRoute parts with
      | error message => exact .inr (.inl ⟨fun _ h => (by cases h), message, rfl⟩)
      | ok ext => exact .inr (.inr ⟨parts, ext, rfl, hmerge, rfl⟩)

theorem compileExtensions_ok
    (h : eval (compileExtensions docs p w ns refs grpcRoute) s = (.ok ext, t)) :
    ExtensionAccount docs p w ns grpcRoute refs t ext := by
  rcases compileExtensions_cases docs p w ns refs grpcRoute s with
    ⟨_, -, heval⟩ | ⟨-, _, heval⟩ | ⟨parts, merged, hread, hmerge, heval⟩ <;> rw [heval] at h <;> cases h
  · exact .invalid rfl
  · exact .merged hread hmerge fun config hc => by simp [hc, RouteOutcome.addAuthDoc]

theorem keeps_compileExtensions : Keeps Progress (compileExtensions docs p w ns refs grpcRoute) := by
  intro s
  rcases compileExtensions_cases docs p w ns refs grpcRoute s with
    ⟨_, -, heval⟩ | ⟨-, _, heval⟩ | ⟨_, _, -, -, heval⟩ <;> rw [heval]
  · exact Std.Refl.refl s
  · exact progress_invalidateExtension s _
  · exact progress_addAuthDoc s _

end

/-! ## Rules -/

structure BackendAccount (w : Snapshot) (ns kind : String) (ref : FilteredBackendRef) (b : Backend) : Prop where
  target : b.toBackendTarget = (resolveBackend w ns kind ref.toBackendRef).1
  reference : b.ns = ref.ns.getD ns ∧ b.name = ref.name ∧ b.port = ref.port.getD 0
  weight : b.weight = ref.weight.getD 1
  filters : ref.filters.mapM compileBackendHeaderFilter = .ok b.filters

/-- What a compiled rule accounts for, besides its matches. -/
structure RuleAccount {D : Type} (docs : Documents D) (p : Platform) (w : Snapshot) (ns kind : String)
    (grpcRoute : Bool) (ruleMatches : List HTTPRouteMatch) (filters : List HTTPRouteFilter)
    (backendRefs : List FilteredBackendRef) (outcome : RouteOutcome) (rule : Rule) : Prop where
  filters : ∃ results ext,
    List.Forall₂ (fun filter => FilterAccount docs w ns kind ruleMatches filter outcome) filters results ∧
      rule.filters = results.filterMap FilterResult.filter ∧
      ExtensionAccount docs p w ns grpcRoute (results.filterMap FilterResult.ref) outcome ext ∧
      rule.rateLimit = ext.rateLimit ∧ rule.waf = ext.waf ∧ rule.extensionsInvalid = ext.invalid ∧
      rule.auth = (ext.auth.map Auth.identity).getD ""
  backends : List.Forall₂ (BackendAccount w ns kind) backendRefs rule.backends

structure HTTPMatchAccount (m : HTTPRouteMatch) (c : Match) : Prop where
  pathType : c.pathType = (m.path.bind HTTPPathMatch.type).getD ""
  pathValue : c.pathValue = (m.path.bind HTTPPathMatch.value).getD ""
  method : c.method = m.method.getD ""
  headers : c.headers = m.headers.map fun h => ⟨h.name, h.value⟩
  queryParams : c.queryParams = m.queryParams.map fun q => ⟨q.name, q.value⟩

/-- The path of a gRPC match: exactly the method, every method of the service, or any. -/
structure GRPCMatchAccount (m : GRPCRouteMatch) (c : Match) : Prop where
  path : match m.method with
    | none => c.pathType = "" ∧ c.pathValue = ""
    | some method => method.service.getD "" ≠ "" ∧
        if method.method.getD "" = "" then
          c.pathType = "PathPrefix" ∧ c.pathValue = "/" ++ method.service.getD ""
        else c.pathType = "Exact" ∧
          c.pathValue = "/" ++ method.service.getD "" ++ "/" ++ method.method.getD ""
  method : c.method = ""
  headers : c.headers = m.headers.map fun h => ⟨h.name, h.value⟩
  queryParams : c.queryParams = []

structure HTTPRuleAccount {D : Type} (docs : Documents D) (p : Platform) (w : Snapshot) (ns : String)
    (rule : HTTPRouteRule) (outcome : RouteOutcome) (c : Rule) : Prop extends
    RuleAccount docs p w ns "HTTPRoute" false rule.ruleMatches rule.filters rule.backendRefs outcome c where
  ruleMatches : List.Forall₂ HTTPMatchAccount rule.ruleMatches c.ruleMatches
  timeouts : compileTimeouts docs rule.timeouts = .ok (c.requestTimeoutMillis, c.backendTimeoutMillis)

/-- A GRPCRoute filter has no CORS, redirect or rewrite part. -/
def GRPCRouteFilter.toHTTP (filter : GRPCRouteFilter) : HTTPRouteFilter := ⟨filter, none, none, none⟩

structure GRPCRuleAccount {D : Type} (docs : Documents D) (p : Platform) (w : Snapshot) (ns : String)
    (rule : GRPCRouteRule) (outcome : RouteOutcome) (c : Rule) : Prop extends
    RuleAccount docs p w ns "GRPCRoute" true [] (rule.filters.map GRPCRouteFilter.toHTTP) rule.backendRefs
      outcome c where
  ruleMatches : List.Forall₂ GRPCMatchAccount rule.ruleMatches c.ruleMatches

variable {c : Rule}

theorem RuleAccount.mono {grpcRoute : Bool} {ruleMatches : List HTTPRouteMatch} {filters : List HTTPRouteFilter}
    {backendRefs : List FilteredBackendRef} (h : Reports s t)
    (hr : RuleAccount docs p w ns kind grpcRoute ruleMatches filters backendRefs s c) :
    RuleAccount docs p w ns kind grpcRoute ruleMatches filters backendRefs t c := by
  obtain ⟨⟨results, ext, hfilters, hentries, hext, hrest⟩, hbackends⟩ := hr
  exact ⟨⟨results, ext, hfilters.imp fun _ _ => FilterAccount.mono h, hentries, hext.mono h, hrest⟩, hbackends⟩

theorem HTTPRuleAccount.mono {rule : HTTPRouteRule} (h : Reports s t)
    (hr : HTTPRuleAccount docs p w ns rule s c) : HTTPRuleAccount docs p w ns rule t c :=
  ⟨hr.toRuleAccount.mono h, hr.ruleMatches, hr.timeouts⟩

theorem GRPCRuleAccount.mono {rule : GRPCRouteRule} (h : Reports s t)
    (hr : GRPCRuleAccount docs p w ns rule s c) : GRPCRuleAccount docs p w ns rule t c :=
  ⟨hr.toRuleAccount.mono h, hr.ruleMatches⟩

end Krouter.ControlPlane
