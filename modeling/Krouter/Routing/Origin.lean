import Krouter.Lib.Folds
import Krouter.Routing.Build

/-! Where the rules of a built table come from: each is the image of a compiled rule, and
its extensions are those of that rule. -/

namespace Krouter.Routing
open Std Compiled Auth

variable {p : Platform} {secret : Option SecretData}

section

def RuleTable.guards (t : RuleTable) :
    Bool × List Filter × Option RateLimit × Option String × Option Enforcer × Bool :=
  (t.grpc, t.filters, t.limiter, t.wafEngine, t.authEnforcer, t.extensionsInvalid)

theorem addFilter_guards (client : ClientCert) (acc : RuleTable × BuildState) (filter : Filter) :
    (addFilter p client acc filter).1.guards = acc.1.guards := by
  unfold addFilter
  dsimp only
  split
  · split_ifs <;> rfl
  · split_ifs <;> rfl

theorem addBackend_guards (client : ClientCert) (acc : RuleTable × BuildState) (backend : Backend) :
    (addBackend p client acc backend).1.guards = acc.1.guards := by
  unfold addBackend
  split_ifs <;> rfl

theorem buildRuleTable_guards (client : ClientCert) (grpc : Bool) (state : BuildState) (rule : Rule) :
    (buildRuleTable p client secret grpc state rule).1.guards =
      (ruleExtensions p grpc secret rule).guards := by
  rw [buildRuleTable, List.foldl_kept (fun s => s.1.guards) fun s backend _ => addBackend_guards client s backend,
    List.foldl_kept (fun s => s.1.guards) fun s filter _ => addFilter_guards client s filter]

variable (p secret) in
/-- The table rule is the image of the compiled rule of a route. -/
def CompiledFrom (route : RouteConfig) (rule : Rule) (t : RuleTable) : Prop :=
  ∃ client state, t = (buildRuleTable p client secret route.grpc state rule).1

theorem CompiledFrom.guards_eq {route : RouteConfig} {rule : Rule} {t : RuleTable}
    (h : CompiledFrom p secret route rule t) :
    t.guards = (ruleExtensions p route.grpc secret rule).guards := by
  obtain ⟨client, state, rfl⟩ := h
  exact buildRuleTable_guards client route.grpc state rule

variable (p secret) in
def FromRoutes (routes : List RouteConfig) (rt : RouteTable) : Prop :=
  ∀ t ∈ rt.rules, ∃ route ∈ routes, ∃ rule ∈ route.rules, CompiledFrom p secret route rule t

theorem mem_foldl_buildRule (client : ClientCert) (route : RouteConfig) (rules : List Rule) (state : BuildState) :
    ∀ t ∈ (rules.foldl (buildRule p client secret route.grpc) ([], state)).1,
      ∃ rule ∈ rules, CompiledFrom p secret route rule t := by
  refine List.foldlRecOn rules _ (motive := fun acc : List RuleTable × BuildState => ∀ t ∈ acc.1,
    ∃ rule ∈ rules, CompiledFrom p secret route rule t) (fun _ h => nomatch h) ?_
  intro acc hacc rule hrule t ht
  rcases List.mem_append.mp ht with ht | ht
  · exact hacc t ht
  · exact ⟨rule, hrule, client, acc.2, List.mem_singleton.mp ht⟩

variable {P : RouteTable → Prop} {routes : List RouteConfig} {previous : Option GatewayTable}

theorem attachRoute_routes {rt : RouteTable} (hrt : P rt) (name : String)
    {entries : List Entry} (h : ∀ e ∈ entries, ∀ x ∈ e.2.routes, P x) :
    ∀ e ∈ attachRoute rt name entries, ∀ x ∈ e.2.routes, P x := by
  induction entries with
  | nil => exact h
  | cons entry entries ih =>
    have htail : ∀ e ∈ entries, ∀ x ∈ e.2.routes, P x := fun e he => h e (List.mem_cons_of_mem entry he)
    have hhead := h entry (.head _)
    intro e he x hx
    rw [attachRoute] at he
    split_ifs at he
    · rcases List.mem_cons.mp he with rfl | he
      · rcases List.mem_append.mp hx with hx | hx
        · exact hhead x hx
        · rwa [List.mem_singleton.mp hx]
      · exact htail e he x hx
    · rcases List.mem_cons.mp he with rfl | he
      · exact hhead x hx
      · exact ih htail e he x hx

variable (p secret) in
/-- The route of the table that a compiled route becomes when it is built from the state. -/
def routeTable (client : ClientCert) (state : BuildState) (route : RouteConfig) : RouteTable :=
  ⟨route.ns, route.name, route.hostnames, route.created,
    (route.rules.foldl (buildRule p client secret route.grpc) ([], state)).1⟩

section
variable {I : BuildState → Prop} {client : ClientCert}
  (hstep : ∀ route ∈ routes, ∀ state, I state → P (routeTable p secret client state route) ∧ I (route.rules.foldl (buildRule p client secret route.grpc) ([], state)).2)
include hstep

theorem buildRoute_routes {route : RouteConfig} (hroute : route ∈ routes) {acc : List Entry × BuildState}
    (hI : I acc.2) (h : ∀ e ∈ acc.1, ∀ x ∈ e.2.routes, P x) :
    ∀ e ∈ (buildRoute p client secret acc route).1, ∀ x ∈ e.2.routes, P x :=
  List.foldlRecOn route.listeners _ (motive := fun entries : List Entry => ∀ e ∈ entries, ∀ x ∈ e.2.routes, P x) h
    fun _ hentries name _ => attachRoute_routes (hstep route hroute acc.2 hI).1 name hentries

theorem foldl_buildRoute_routes {acc : List Entry × BuildState} (hI : I acc.2)
    (h : ∀ e ∈ acc.1, ∀ x ∈ e.2.routes, P x) :
    ∀ e ∈ (routes.foldl (buildRoute p client secret) acc).1, ∀ x ∈ e.2.routes, P x :=
  (List.foldlRecOn routes _ (motive := fun s : List Entry × BuildState => I s.2 ∧ ∀ e ∈ s.1, ∀ x ∈ e.2.routes, P x) ⟨hI, h⟩
    fun s hs route hroute => ⟨(hstep route hroute s.2 hs.1).2, buildRoute_routes hstep hroute hs.1 hs.2⟩).2

end

theorem buildListener_routes {lst : Listener} {entry : ListenerTable}
    (h : buildListener p secret lst = .ok entry) : entry.routes = [] := by
  obtain ⟨cert, -, h⟩ := Result.bind_eq_ok.mp h
  obtain ⟨clientCAs, -, h⟩ := Result.bind_eq_ok.mp h
  cases h
  rfl

/-- What every route has that is built from a state with the invariant, the routes of the
table have. -/
theorem buildGatewayTable_routes {I : BuildState → Prop} {client : ClientCert}
    {generation : String} {gateway : GatewayConfig}
    {table : GatewayTable} (h : buildGatewayTable p generation gateway routes secret previous = .ok table)
    (hclient : backendClientCert p gateway secret = .ok client)
    (hstep : ∀ route ∈ routes, ∀ state, I state → P (routeTable p secret client state route) ∧
      I (route.rules.foldl (buildRule p client secret route.grpc) ([], state)).2)
    (hI : I ⟨previousTransports previous, ∅⟩) {port : Int32} {pt : PortTable} (hp : table.byPort[port]? = some pt) :
    ∀ lst ∈ pt.listeners, ∀ rt ∈ lst.routes, P rt := by
  obtain ⟨trust, -, h⟩ := Result.bind_eq_ok.mp h
  obtain ⟨entries, hentries, h⟩ := Result.bind_eq_ok.mp h
  obtain ⟨client', hclient', h⟩ := Result.bind_eq_ok.mp h
  obtain rfl : client = client' := Except.ok.inj (hclient.symm.trans hclient')
  cases h
  have hnil : ∀ e ∈ entries, ∀ x ∈ e.2.routes, P x := by
    intro e he x hx
    obtain ⟨lst, -, hlst⟩ := Result.mem_of_mapM_eq_ok hentries he
    obtain ⟨entry, hentry, hlst⟩ := Result.bind_eq_ok.mp hlst
    cases hlst
    rw [buildListener_routes hentry] at hx
    cases hx
  have hbuilt := foldl_buildRoute_routes hstep hI
    (show ∀ e ∈ (entries, BuildState.mk (previousTransports previous) ∅).1, ∀ x ∈ e.2.routes, P x from hnil)
  rw [GoMap.get_map] at hp
  obtain ⟨pt', -, rfl⟩ := Option.map_eq_some_iff.mp hp
  intro lst hlst rt hrt
  obtain ⟨e, he, rfl⟩ := List.mem_map.mp ((List.mem_insertionSort _).mp hlst)
  exact hbuilt e (List.mem_filter.mp he).1 rt hrt

theorem buildGatewayTable_origin {generation : String} {gateway : GatewayConfig} {table : GatewayTable}
    (h : buildGatewayTable p generation gateway routes secret previous = .ok table) {port : Int32}
    {pt : PortTable} (hp : table.byPort[port]? = some pt) :
    ∀ lst ∈ pt.listeners, ∀ rt ∈ lst.routes, FromRoutes p secret routes rt := by
  obtain ⟨trust, -, hrest⟩ := Result.bind_eq_ok.mp h
  obtain ⟨entries, -, hrest⟩ := Result.bind_eq_ok.mp hrest
  obtain ⟨client, hclient, -⟩ := Result.bind_eq_ok.mp hrest
  refine buildGatewayTable_routes h hclient (I := fun _ => True) (fun route hroute state _ => ⟨fun t ht => ?_, trivial⟩)
    trivial hp
  exact ⟨route, hroute, mem_foldl_buildRule client route route.rules state t ht⟩

end

theorem mergeTables_get (gateways : List GatewayTable) (port : Int32) :
    (mergeTables gateways).byPort[port]? = (gateways.filterMap fun g => g.byPort[port]?).getLast? := by
  have hfold : (mergeTables gateways).byPort =
      gateways.foldl (fun ports gateway => GoMap.setAll ports gateway.byPort.toList) ∅ :=
    (List.foldl_hom Tables.byPort fun _ _ => rfl).symm
  rw [hfold, GoMap.get_foldl_setAll GatewayTable.byPort, GoMap.get_empty, Option.or_none]

theorem mergeTables_byPort {gateways : List GatewayTable} {port : Int32} {pt : PortTable}
    (h : (mergeTables gateways).byPort[port]? = some pt) : ∃ g ∈ gateways, g.byPort[port]? = some pt := by
  rw [mergeTables_get] at h
  exact List.mem_filterMap.mp (List.mem_of_getLast? h)

variable {route : RouteConfig} {rule : Rule} {t : RuleTable}

theorem CompiledFrom.authEnforcer (h : CompiledFrom p secret route rule t) : t.authEnforcer =
    if rule.auth ≠ "" then (buildAuthEnforcer p rule.auth secret).toOption else none := by
  have hg := h.guards_eq
  simp only [RuleTable.guards, Prod.mk.injEq] at hg
  exact hg.2.2.2.2.1

theorem CompiledFrom.extensionsInvalid (h : CompiledFrom p secret route rule t) : t.extensionsInvalid =
    (ruleExtensions p route.grpc secret rule).extensionsInvalid := by
  have hg := h.guards_eq
  simp only [RuleTable.guards, Prod.mk.injEq] at hg
  exact hg.2.2.2.2.2

theorem CompiledFrom.enforcer_or_invalid (h : CompiledFrom p secret route rule t) (ha : rule.auth ≠ "") :
    (∃ e, buildAuthEnforcer p rule.auth secret = .ok e ∧ t.authEnforcer = some e) ∨
      t.extensionsInvalid = true := by
  rw [h.authEnforcer, h.extensionsInvalid, if_pos ha, ruleExtensions]
  cases hb : buildAuthEnforcer p rule.auth secret with
  | ok e => exact .inl ⟨e, rfl, rfl⟩
  | error err => exact .inr (by simp [ha, Except.toBool])

theorem CompiledFrom.invalid_of (h : CompiledFrom p secret route rule t) (ha : rule.auth ≠ "")
    (hbad : t.extensionsInvalid = true ∨ rule.extensionsInvalid = true ∨
      ∀ e, buildAuthEnforcer p rule.auth secret ≠ .ok e) : t.extensionsInvalid = true := by
  rcases hbad with hbad | hbad | hbad
  · exact hbad
  · rw [h.extensionsInvalid, ruleExtensions]
    simp [hbad]
  · rcases h.enforcer_or_invalid ha with ⟨e, he, -⟩ | hi
    · exact absurd he (hbad e)
    · exact hi

end Krouter.Routing
