import Krouter.ControlPlane.RouteFaithful

/-! Attachment is all or nothing: an accepted route is compiled as a whole; a rejected one leaves no
trace. -/

namespace Krouter.ControlPlane
open Compiled Routing Attempt

/-! ## Matches -/

theorem mapM_compileValueMatch {unsupported : String → String} {l r : List ValueMatch}
    (h : l.mapM (compileValueMatch unsupported) = .ok r) : r = l := by
  have hid : r.map id = l.map id := Result.map_of_mapM_eq_ok h fun a b hab => by
    unfold compileValueMatch at hab
    split_ifs at hab
    cases hab
    rfl
  simpa using hid

theorem compileHTTPMatch_ok {m : HTTPRouteMatch} {c : Match} (h : compileHTTPMatch m = .ok c) :
    HTTPMatchAccount m c := by
  unfold compileHTTPMatch at h
  dsimp only at h
  split_ifs at h with htype
  · obtain ⟨headers, hh, h⟩ := Result.bind_eq_ok.mp h
    obtain ⟨queryParams, hq, h⟩ := Result.bind_eq_ok.mp h
    cases h
    rw [mapM_compileValueMatch hh, mapM_compileValueMatch hq]
    exact ⟨rfl, rfl, rfl, rfl, rfl⟩
  · obtain ⟨u, hu, -⟩ := Result.bind_eq_ok.mp h
    cases hu

theorem compileGRPCMatch_ok {m : GRPCRouteMatch} {c : Match} (h : compileGRPCMatch m = .ok c) :
    GRPCMatchAccount m c := by
  obtain ⟨⟨pathType, pathValue⟩, hpath, h⟩ := Result.bind_eq_ok.mp h
  obtain ⟨headers, hh, h⟩ := Result.bind_eq_ok.mp h
  cases h
  rw [mapM_compileValueMatch hh]
  refine ⟨?_, rfl, rfl, rfl⟩
  unfold grpcMethodPath at hpath
  cases hm : m.method with
  | none =>
    rw [hm] at hpath
    cases hpath
    exact ⟨rfl, rfl⟩
  | some method =>
    rw [hm] at hpath
    dsimp only at hpath ⊢
    split_ifs at hpath with htype hboth hservice <;> cases hpath
    · exact ⟨hboth.1, by rw [if_neg hboth.2]; exact ⟨rfl, rfl⟩⟩
    · have hmethod : method.method.getD "" = "" := by
        by_contra hne
        exact hboth ⟨hservice, hne⟩
      exact ⟨hservice, by rw [if_pos hmethod]; exact ⟨rfl, rfl⟩⟩

variable {D : Type} {docs : Documents D} {p : Platform} {w : Snapshot} {s t : RouteOutcome}

section
variable {ns kind : String}

theorem compileFilteredBackend_ok {ref : FilteredBackendRef} {b : Backend}
    (h : eval (compileFilteredBackend w ns kind ref) s = (.ok b, t)) : BackendAccount w ns kind ref b := by
  obtain ⟨backend, r, hb, h⟩ := bind_ok.mp h
  obtain ⟨filters, r', hf, h⟩ := bind_ok.mp h
  obtain ⟨r'', hr, -, -⟩ := eval_compileBackend w ns kind ref.toBackendRef s
  rw [hr] at hb
  cases hb
  cases h
  obtain ⟨hns, hname, hport, hweight⟩ := resolveBackend_reference w ns kind ref.toBackendRef
  exact ⟨rfl, ⟨hns, hname, hport⟩, hweight, (ofResult_ok.mp hf).1⟩

theorem keeps_compileFilteredBackend {R : RouteOutcome → RouteOutcome → Prop} [Std.Refl R]
    [IsTrans RouteOutcome R] (hR : ∀ s reason message, R s (s.degrade reason message))
    (ref : FilteredBackendRef) : Keeps R (compileFilteredBackend w ns kind ref) :=
  (keeps_compileBackend w ns kind hR _).bind fun _ => (Keeps.ofResult _).bind fun _ => Keeps.pure _

theorem mapM_compileFilteredBackend {refs : List FilteredBackendRef} {backends : List Backend}
    (h : eval (refs.mapM (compileFilteredBackend w ns kind)) s = (.ok backends, t)) :
    List.Forall₂ (BackendAccount w ns kind) refs backends :=
  forall₂_of_mapM_ok (R := Progress) (P := fun ref b _ => BackendAccount w ns kind ref b)
    (fun _ _ _ _ => compileFilteredBackend_ok) (keeps_compileFilteredBackend progress_degrade)
    (fun _ _ _ _ _ => id) h

def ruleSteps {F : Type} (docs : Documents D) (p : Platform) (w : Snapshot) (ns kind : String) (grpcRoute : Bool)
    (ruleMatches : Except String (List Match)) (filters : List F) (sort : F → Compiler FilterResult)
    (timeouts : Except String (Int64 × Int64)) (backendRefs : List FilteredBackendRef) : Compiler Rule := do
  let ruleMatches ← ofResult ruleMatches
  let results ← filters.mapM sort
  let ext ← compileExtensions docs p w ns (results.filterMap FilterResult.ref) grpcRoute
  let timeouts ← ofResult timeouts
  let backends ← backendRefs.mapM (compileFilteredBackend w ns kind)
  return compiledRule ruleMatches results ext timeouts backends

theorem compileHTTPRule_eq (rule : HTTPRouteRule) : compileHTTPRule docs p w ns rule =
    ruleSteps docs p w ns "HTTPRoute" false (rule.ruleMatches.mapM compileHTTPMatch) rule.filters
      (fun filter => sortFilter filter.type filter.extensionRef
        (compileHTTPFilter docs w ns "HTTPRoute" rule filter))
      (compileTimeouts docs rule.timeouts) rule.backendRefs := rfl

theorem compileGRPCRule_eq (rule : GRPCRouteRule) : compileGRPCRule docs p w ns rule =
    ruleSteps docs p w ns "GRPCRoute" true (rule.ruleMatches.mapM compileGRPCMatch) rule.filters
      (fun filter => sortFilter filter.type filter.extensionRef (compileGRPCFilter docs w ns "GRPCRoute" filter))
      (.ok (0, 0)) rule.backendRefs := rfl

section
variable {F : Type} {grpcRoute : Bool} {ruleMatches : Except String (List Match)} {filters : List F}
  {sort : F → Compiler FilterResult} {timeouts : Except String (Int64 × Int64)}
  {backendRefs : List FilteredBackendRef} {c : Rule}

theorem ruleSteps_ok
    (h : eval (ruleSteps docs p w ns kind grpcRoute ruleMatches filters sort timeouts backendRefs) s = (.ok c, t)) :
    ∃ compiled results ext millis backends s2 s3, ruleMatches = .ok compiled ∧
      eval (filters.mapM sort) s = (.ok results, s2) ∧
      eval (compileExtensions docs p w ns (results.filterMap FilterResult.ref) grpcRoute) s2 = (.ok ext, s3) ∧
      timeouts = .ok millis ∧
      eval (backendRefs.mapM (compileFilteredBackend w ns kind)) s3 = (.ok backends, t) ∧
      c = compiledRule compiled results ext millis backends := by
  obtain ⟨compiled, s1, hmatches, h⟩ := bind_ok.mp h
  obtain ⟨results, s2, hresults, h⟩ := bind_ok.mp h
  obtain ⟨ext, s3, hext, h⟩ := bind_ok.mp h
  obtain ⟨millis, s4, htimeouts, h⟩ := bind_ok.mp h
  obtain ⟨backends, s5, hbackends, h⟩ := bind_ok.mp h
  cases h
  obtain ⟨hcompiled, rfl⟩ := ofResult_ok.mp hmatches
  obtain ⟨hmillis, rfl⟩ := ofResult_ok.mp htimeouts
  exact ⟨compiled, results, ext, millis, backends, s2, s4, hcompiled, hresults, hext, hmillis, hbackends, rfl⟩

theorem keeps_ruleSteps (hsort : ∀ filter, Keeps Progress (sort filter)) : Keeps Progress
    (ruleSteps docs p w ns kind grpcRoute ruleMatches filters sort timeouts backendRefs) :=
  (Keeps.ofResult _).bind fun _ => (Keeps.mapM hsort _).bind fun _ =>
    keeps_compileExtensions.bind fun _ => (Keeps.ofResult _).bind fun _ =>
      (Keeps.mapM (keeps_compileFilteredBackend progress_degrade) _).bind fun _ => Keeps.pure _

theorem ruleSteps_account (asHTTP : F → HTTPRouteFilter) {sources : List HTTPRouteMatch}
    (hkeep : ∀ filter, Keeps Progress (sort filter))
    (hsort : ∀ filter s result t, eval (sort filter) s = (.ok result, t) →
      FilterAccount docs w ns kind sources (asHTTP filter) t result)
    (h : eval (ruleSteps docs p w ns kind grpcRoute ruleMatches filters sort timeouts backendRefs) s = (.ok c, t)) :
    RuleAccount docs p w ns kind grpcRoute sources (filters.map asHTTP) backendRefs t c := by
  obtain ⟨compiled, results, ext, millis, backends, s2, s3, -, hresults, hext, -, hbackends, rfl⟩ :=
    ruleSteps_ok h
  -- what later steps do to the outcome keeps what earlier ones account for
  have h23 : Progress s2 s3 := keeps_compileExtensions.of_eval hext
  have h34 : Progress s3 t := (Keeps.mapM (keeps_compileFilteredBackend progress_degrade) _).of_eval hbackends
  have hfilters := forall₂_of_mapM_ok (R := Progress)
    (P := fun f r st => FilterAccount docs w ns kind sources (asHTTP f) st r) hsort hkeep
    (fun _ _ _ _ hst => FilterAccount.mono hst.toReports) hresults
  refine ⟨⟨results, ext, ?_, rfl, (compileExtensions_ok hext).mono h34.toReports, rfl, rfl, rfl, rfl⟩,
    mapM_compileFilteredBackend hbackends⟩
  exact List.forall₂_map_left_iff.mpr
    (hfilters.imp fun f r hf => hf.mono (IsTrans.trans (r := Progress) _ _ _ h23 h34).toReports)

end

theorem keeps_sortHTTPFilter (rule : HTTPRouteRule) (filter : HTTPRouteFilter) : Keeps Progress
    (sortFilter filter.type filter.extensionRef (compileHTTPFilter docs w ns kind rule filter)) :=
  keeps_sortFilter (keeps_compileHTTPFilter progress_degrade rule filter)

theorem keeps_sortGRPCFilter (filter : GRPCRouteFilter) : Keeps Progress
    (sortFilter filter.type filter.extensionRef (compileGRPCFilter docs w ns kind filter)) :=
  keeps_sortFilter (keeps_compileGRPCFilter progress_degrade filter)

theorem compileHTTPRule_ok {rule : HTTPRouteRule} {c : Rule}
    (h : eval (compileHTTPRule docs p w ns rule) s = (.ok c, t)) : HTTPRuleAccount docs p w ns rule t c := by
  rw [compileHTTPRule_eq] at h
  have haccount := ruleSteps_account id (keeps_sortHTTPFilter rule)
    (fun f s r t hf => sortFilter_ok (fun _ _ _ => compileHTTPFilter_ok) hf) h
  rw [List.map_id] at haccount
  obtain ⟨compiled, results, ext, millis, backends, -, -, hmatches, -, -, hmillis, -, rfl⟩ := ruleSteps_ok h
  exact ⟨haccount, (Result.forall₂_of_mapM_eq_ok hmatches).imp fun _ _ => compileHTTPMatch_ok, hmillis⟩

theorem keeps_compileHTTPRule (rule : HTTPRouteRule) : Keeps Progress (compileHTTPRule docs p w ns rule) := by
  rw [compileHTTPRule_eq]
  exact keeps_ruleSteps (keeps_sortHTTPFilter rule)

theorem compileGRPCRule_ok {rule : GRPCRouteRule} {c : Rule}
    (h : eval (compileGRPCRule docs p w ns rule) s = (.ok c, t)) : GRPCRuleAccount docs p w ns rule t c := by
  rw [compileGRPCRule_eq] at h
  have haccount := ruleSteps_account GRPCRouteFilter.toHTTP keeps_sortGRPCFilter
    (fun f s r t hf => @sortFilter_ok D docs w ns "GRPCRoute" s t [] f.toHTTP _ r
      (fun _ _ _ => compileGRPCFilter_ok) hf) h
  obtain ⟨compiled, results, ext, millis, backends, -, -, hmatches, -, -, -, -, rfl⟩ := ruleSteps_ok h
  exact ⟨haccount, (Result.forall₂_of_mapM_eq_ok hmatches).imp fun _ _ => compileGRPCMatch_ok⟩

theorem keeps_compileGRPCRule (rule : GRPCRouteRule) : Keeps Progress (compileGRPCRule docs p w ns rule) := by
  rw [compileGRPCRule_eq]
  exact keeps_ruleSteps keeps_sortGRPCFilter

/-- The rule of an L4 route has backends and nothing else. -/
structure L4RuleAccount (w : Snapshot) (ns kind : String) (refs : List BackendRef) (c : Rule) : Prop where
  backends : List.Forall₂ (fun ref => BackendAccount w ns kind ⟨ref, []⟩) refs c.backends
  rest : c = compiledRule [] [] noExtensions (0, 0) c.backends

theorem keeps_compileL4Backend (ref : BackendRef) : Keeps Progress
    (do return (⟨← compileBackend w ns kind ref, []⟩ : Backend) : Compiler Backend) :=
  (keeps_compileBackend w ns kind progress_degrade ref).bind fun _ => Keeps.pure _

theorem compileL4Rule_ok {refs : List BackendRef} {c : Rule}
    (h : eval (compileL4Rule w ns kind refs) s = (.ok c, t)) : L4RuleAccount w ns kind refs c := by
  obtain ⟨backends, r, hbackends, h⟩ := bind_ok.mp h
  cases h
  refine ⟨forall₂_of_mapM_ok (R := Progress) (P := fun ref b _ => BackendAccount w ns kind ⟨ref, []⟩ b)
    (fun ref s b t hb => ?_) keeps_compileL4Backend (fun _ _ _ _ _ => id) hbackends, rfl⟩
  obtain ⟨backend, r, hr, hb⟩ := bind_ok.mp hb
  exact compileFilteredBackend_ok (bind_ok.mpr ⟨backend, r, hr, hb⟩)

end

/-! ## Routes -/

def Route.hostnames : Route → List String
  | .http route => route.hostnames
  | .grpc route => route.hostnames
  | .tls route => route.hostnames
  | .tcp _ => []
  | .udp _ => []

def Route.isGRPC : Route → Bool
  | .grpc _ => true
  | _ => false

def RulesAccount {D : Type} (docs : Documents D) (p : Platform) (w : Snapshot) (outcome : RouteOutcome) :
    Route → List Rule → Prop
  | .http route => List.Forall₂ (fun rule => HTTPRuleAccount docs p w route.objectMeta.ns rule outcome) route.rules
  | .grpc route => List.Forall₂ (fun rule => GRPCRuleAccount docs p w route.objectMeta.ns rule outcome) route.rules
  | .tcp route => List.Forall₂ (L4RuleAccount w route.objectMeta.ns "TCPRoute") route.rules
  | .tls route => List.Forall₂ (L4RuleAccount w route.objectMeta.ns "TLSRoute") route.rules
  | .udp route => List.Forall₂ (L4RuleAccount w route.objectMeta.ns "UDPRoute") route.rules

variable {gw : Gateway}

theorem RulesAccount.mono {route : Route} {rules : List Rule} (h : Reports s t)
    (hr : RulesAccount docs p w s route rules) : RulesAccount docs p w t route rules := by
  cases route with
  | http route => exact List.Forall₂.imp (fun _ _ => HTTPRuleAccount.mono h) hr
  | grpc route => exact List.Forall₂.imp (fun _ _ => GRPCRuleAccount.mono h) hr
  | tcp route => exact hr
  | tls route => exact hr
  | udp route => exact hr

def Route.compile (docs : Documents D) (p : Platform) (w : Snapshot) (admitted : List ListenerState) :
    Route → Compiler RouteConfig
  | .http route => compileRoute docs p w route admitted
  | .grpc route => compileGRPCRoute docs p w route admitted
  | .tcp route => compileL4Route w "TCPRoute" route.objectMeta [] route.rules admitted
  | .tls route => compileL4Route w "TLSRoute" route.objectMeta route.hostnames route.rules admitted
  | .udp route => compileL4Route w "UDPRoute" route.objectMeta [] route.rules admitted

theorem compileL4Route_ok {kind : String} {route : RouteMeta} {hostnames : List String}
    {rules : List (List BackendRef)} {admitted : List ListenerState} {config : RouteConfig}
    (h : eval (compileL4Route w kind route hostnames rules admitted) s = (.ok config, t)) :
    ∃ compiled, List.Forall₂ (L4RuleAccount w route.ns kind) rules compiled ∧
      config = routeConfig route hostnames false admitted compiled := by
  match rules, h with
  | [refs], h =>
    obtain ⟨rule, r, hrule, h⟩ := bind_ok.mp h
    cases h
    exact ⟨[rule], .cons (compileL4Rule_ok hrule) .nil, rfl⟩
  | [], h => cases h
  | _ :: _ :: _, h => cases h

theorem keeps_compileL4Route (kind : String) (route : RouteMeta) (hostnames : List String)
    (rules : List (List BackendRef)) (admitted : List ListenerState) :
    Keeps Progress (compileL4Route w kind route hostnames rules admitted) := by
  unfold compileL4Route
  split
  · exact ((Keeps.mapM keeps_compileL4Backend _).bind fun _ => Keeps.pure _).bind fun _ => Keeps.pure _
  · exact Keeps.throw _

theorem Route.compile_ok {admitted : List ListenerState} {route : Route} {config : RouteConfig}
    (h : eval (route.compile docs p w admitted) s = (.ok config, t)) :
    ∃ rules, RulesAccount docs p w t route rules ∧
      config = routeConfig route.meta route.hostnames route.isGRPC admitted rules := by
  cases route with
  | http route =>
    obtain ⟨rules, r, hrules, h⟩ := bind_ok.mp h
    cases h
    exact ⟨rules, forall₂_of_mapM_ok (fun _ _ _ _ => compileHTTPRule_ok) keeps_compileHTTPRule
      (fun _ _ _ _ h => HTTPRuleAccount.mono h.toReports) hrules, rfl⟩
  | grpc route =>
    obtain ⟨rules, r, hrules, h⟩ := bind_ok.mp h
    cases h
    exact ⟨rules, forall₂_of_mapM_ok (fun _ _ _ _ => compileGRPCRule_ok) keeps_compileGRPCRule
      (fun _ _ _ _ h => GRPCRuleAccount.mono h.toReports) hrules, rfl⟩
  | tcp route => exact compileL4Route_ok h
  | tls route => exact compileL4Route_ok h
  | udp route => exact compileL4Route_ok h

theorem Route.keeps_compile (admitted : List ListenerState) (route : Route) :
    Keeps Progress (route.compile docs p w admitted) := by
  cases route with
  | http route => exact (Keeps.mapM keeps_compileHTTPRule _).bind fun _ => Keeps.pure _
  | grpc route => exact (Keeps.mapM keeps_compileGRPCRule _).bind fun _ => Keeps.pure _
  | tcp route => exact keeps_compileL4Route _ _ _ _ _
  | tls route => exact keeps_compileL4Route _ _ _ _ _
  | udp route => exact keeps_compileL4Route _ _ _ _ _

/-! ## Attachment -/

def Route.applicant (route : Route) (parentRef : ParentReference) : Applicant :=
  ⟨route.kind, route.meta.ns, parentRef⟩

section
variable {listeners : List ListenerState} {parentRef : ParentReference} {route : Route}

/-- What attaching a route to a parent comes to: nothing, or the route on all listeners that
admit it. -/
inductive Attached (docs : Documents D) (p : Platform) (w : Snapshot) (gw : Gateway)
    (listeners : List ListenerState) (parentRef : ParentReference) (route : Route) :
    RouteOutcome × List ListenerState → Prop where
  | rejected {outcome : RouteOutcome} : outcome.accepted = false → outcome.config = none →
      Attached docs p w gw listeners parentRef route (outcome, listeners)
  | accepted {outcome : RouteOutcome} {rules : List Rule} : outcome.accepted = true →
      RulesAccount docs p w outcome route rules →
      outcome.config = some (routeConfig route.meta route.hostnames route.isGRPC
        (listeners.filter (admits w gw (route.applicant parentRef) route.hostnames)) rules) →
      Attached docs p w gw listeners parentRef route (outcome, listeners.map fun l =>
        if admits w gw (route.applicant parentRef) route.hostnames l then l.countRoute else l)

theorem admitByHostname_admitListeners {applicant : Applicant} {admitted : List ListenerState}
    (h : admitListeners w gw applicant listeners = .ok admitted) (hostnames : List String) :
    admitByHostname admitted hostnames = listeners.filter (admits w gw applicant hostnames) := by
  unfold admitListeners at h
  dsimp only at h
  split_ifs at h
  cases h
  simp only [admitByHostname, List.filter_filter]
  refine List.filter_congr fun l _ => ?_
  unfold admits
  ac_rfl

theorem admitByHostname_nil (admitted : List ListenerState) : admitByHostname admitted [] = admitted := by
  simp [admitByHostname, hostnamesIntersect]

variable (route : Route) (parentRef : ParentReference)

/-- Finishing an attachment does nothing for a route that does not compile; else the route is counted on
the listeners that admit it. -/
theorem finishAttach_cases (valid : List ListenerState) (admitted : ListenerState → Bool) :
    let compile := route.compile docs p w valid
    (∃ message outcome, eval compile (.rejected .unsupportedValue) = (.error message, outcome) ∧
      outcome.accepted = false ∧ outcome.config = none ∧ finishAttach listeners admitted compile = (outcome, listeners)) ∨
    ∃ config outcome, eval compile (.rejected .unsupportedValue) = (.ok config, outcome) ∧
      finishAttach listeners admitted compile =
        ({ outcome with accepted := true, acceptedReason := .accepted, config := some config },
          listeners.map fun l => if admitted l then l.countRoute else l) := by
  intro compile
  have hkeep : Keeps Progress compile := route.keeps_compile valid
  unfold finishAttach
  cases heval : eval compile (.rejected .unsupportedValue) with
  | mk result outcome =>
    cases result with
    | error message =>
      exact .inl ⟨message, outcome, rfl, (hkeep.of_eval heval).accepted, (hkeep.of_eval heval).config, rfl⟩
    | ok config => exact .inr ⟨config, outcome, rfl, rfl⟩

theorem attachByKind_eq (applicant : Applicant) (compile : List ListenerState → Compiler RouteConfig) :
    attachByKind w gw listeners applicant compile = attachByHostname w gw listeners applicant [] compile := by
  unfold attachByKind attachByHostname
  cases hadmit : admitListeners w gw applicant listeners with
  | error reason => rfl
  | ok admitted =>
    -- the ladder does not end with an empty list
    have hsome : admitted.isEmpty = false := by
      unfold admitListeners at hadmit
      dsimp only at hadmit
      split_ifs at hadmit with _ _ hlast
      rw [← Except.ok.inj hadmit]
      exact Bool.eq_false_iff.mpr hlast
    dsimp only
    rw [admitByHostname_nil, hsome]
    rfl

theorem attach_eq : route.attach docs p w gw listeners parentRef = attachByHostname w gw listeners
    (route.applicant parentRef) route.hostnames fun admitted => route.compile docs p w admitted := by
  cases route with
  | http route => rfl
  | grpc route => rfl
  | tls route => rfl
  | tcp route => exact attachByKind_eq _ _
  | udp route => exact attachByKind_eq _ _

theorem attached_attach :
    Attached docs p w gw listeners parentRef route (route.attach docs p w gw listeners parentRef) := by
  rw [attach_eq]
  unfold attachByHostname
  cases hadmit : admitListeners w gw (route.applicant parentRef) listeners with
  | error reason => exact .rejected rfl rfl
  | ok admitted =>
    dsimp only
    rw [admitByHostname_admitListeners hadmit]
    split_ifs
    · exact .rejected rfl rfl
    · rcases finishAttach_cases route _ _ with
        ⟨_, outcome, -, haccepted, hconfig, hfinish⟩ | ⟨config, outcome, heval, hfinish⟩
      · rw [hfinish]
        exact .rejected haccepted hconfig
      · obtain ⟨rules, hrules, rfl⟩ := Route.compile_ok heval
        rw [hfinish]
        exact .accepted rfl (RulesAccount.mono (s := outcome) ⟨id, fun _ => id⟩ hrules) rfl

theorem config_isSome_iff : (route.attach docs p w gw listeners parentRef).1.config.isSome = true ↔
    (route.attach docs p w gw listeners parentRef).1.accepted = true := by
  have h : Attached docs p w gw listeners parentRef route _ := attached_attach route parentRef
  generalize route.attach docs p w gw listeners parentRef = result at h
  cases h with
  | rejected haccepted hconfig => simp [haccepted, hconfig]
  | accepted haccepted _ hconfig => simp [haccepted, hconfig]

theorem attach_config {config : RouteConfig} (hc : (route.attach docs p w gw listeners parentRef).1.config = some config) :
    ∃ rules, RulesAccount docs p w (route.attach docs p w gw listeners parentRef).1 route rules ∧
      config = routeConfig route.meta route.hostnames route.isGRPC
        (listeners.filter (admits w gw (route.applicant parentRef) route.hostnames)) rules := by
  have h : Attached docs p w gw listeners parentRef route _ := attached_attach route parentRef
  generalize route.attach docs p w gw listeners parentRef = result at h hc
  cases h with
  | rejected _ hconfig => cases hconfig.symm.trans hc
  | accepted _ hrules hconfig => exact ⟨_, hrules, (Option.some.inj (hconfig.symm.trans hc)).symm⟩

end

theorem compileAttachments_none (clientCert : BackendClientCert) (listeners : List ListenerState)
    {before after : List RouteOutcome} {outcome : RouteOutcome} (h : outcome.config = none) :
    compileAttachments clientCert listeners (before ++ outcome :: after) =
      compileAttachments clientCert listeners (before ++ after) := by
  simp [compileAttachments, addOutcome, h]

end Krouter.ControlPlane
