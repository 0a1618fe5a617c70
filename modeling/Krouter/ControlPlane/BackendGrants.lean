import Krouter.ControlPlane.MergedOutcomes
import Krouter.ControlPlane.RouteAttachment
import Krouter.Proxy.Connections

/-! References to Services of other namespaces. They are compiled as valid only with a grant; the data
plane connects to valid backends only, and an invalid one keeps its share. -/

namespace Krouter.ControlPlane
open Compiled Routing Proxy

def Permitted (w : Snapshot) (kind ns toNamespace toName : String) : Prop :=
  toNamespace = ns ∨ Granted w.grants ⟨groupName, kind, ns⟩ "Service" toNamespace toName

structure RulePermitted (w : Snapshot) (kind ns : String) (rule : Rule) : Prop where
  backends : ∀ b ∈ rule.backends, b.valid = true → Permitted w kind ns b.ns b.name
  mirrors : ∀ f ∈ rule.filters, ∀ m, f.mirror = some m →
    m.valid = true ∧ Permitted w kind ns m.ns m.name

variable {D : Type} {docs : Documents D} {p : Platform}

section
variable {w : Snapshot} {ns kind : String} {outcome : RouteOutcome}

theorem resolveBackend_permitted {ref : BackendRef} (h : (resolveBackend w ns kind ref).1.valid = true) :
    Permitted w kind ns (resolveBackend w ns kind ref).1.ns (resolveBackend w ns kind ref).1.name := by
  unfold resolveBackend invalidBackend at h ⊢
  dsimp only at h ⊢
  split_ifs at h ⊢ with hkind hport hgrant hservice
  rw [not_and_or, not_not, not_not] at hgrant
  exact hgrant.imp id referenceGrantAllows_iff.mp

variable {ruleMatches : List HTTPRouteMatch}

theorem compilePathModifier_mirror {entry result : Filter} {modifier : HTTPPathModifier}
    (h : compilePathModifier entry modifier ruleMatches = .ok result) : result.mirror = entry.mirror := by
  unfold compilePathModifier at h
  split_ifs at h
  all_goals
    split at h
    · cases h
    · cases h
      rfl

theorem withPath_mirror {entry result : Filter} {path : Option HTTPPathModifier}
    (h : withPath entry path ruleMatches = .ok result) : result.mirror = entry.mirror := by
  cases path with
  | none =>
    cases h
    rfl
  | some modifier => exact compilePathModifier_mirror h

theorem FilterAccount.mirror_permitted {filter : HTTPRouteFilter} {entry : Filter} {m : BackendTarget}
    (h : FilterAccount docs w ns kind ruleMatches filter outcome (.entry entry)) (hm : entry.mirror = some m) :
    m.valid = true ∧ Permitted w kind ns m.ns m.name := by
  cases h with
  | requestHeaders => cases hm
  | responseHeaders => cases hm
  | cors => cases hm
  | redirect _ _ hr =>
    rw [withPath_mirror hr] at hm
    cases hm
  | rewrite _ _ hr =>
    rw [withPath_mirror hr] at hm
    cases hm
  | mirror _ _ hv _ =>
    cases hm
    exact ⟨hv, resolveBackend_permitted hv⟩

theorem BackendAccount.permitted {ref : FilteredBackendRef} {b : Backend} (h : BackendAccount w ns kind ref b)
    (hv : b.valid = true) : Permitted w kind ns b.ns b.name := by
  have htarget := h.target
  rw [htarget] at hv ⊢
  exact resolveBackend_permitted hv

theorem RuleAccount.permitted {grpcRoute : Bool} {filters : List HTTPRouteFilter}
    {backendRefs : List FilteredBackendRef} {c : Rule}
    (h : RuleAccount docs p w ns kind grpcRoute ruleMatches filters backendRefs outcome c) :
    RulePermitted w kind ns c := by
  obtain ⟨⟨results, ext, hfilters, hentries, -⟩, hbackends⟩ := h
  refine ⟨fun b hb hv => ?_, fun f hf m hm => ?_⟩
  · obtain ⟨ref, -, hr⟩ := Result.exists_left_of_mem hbackends hb
    exact hr.permitted hv
  · rw [hentries] at hf
    obtain ⟨result, hresult, hentry⟩ := List.mem_filterMap.mp hf
    obtain ⟨filter, -, haccount⟩ := Result.exists_left_of_mem hfilters hresult
    cases result with
    | entry entry =>
      cases hentry
      exact haccount.mirror_permitted hm
    | extension ref => cases hentry
    | dropped => cases hentry

theorem L4RuleAccount.permitted {refs : List BackendRef} {c : Rule} (h : L4RuleAccount w ns kind refs c) :
    RulePermitted w kind ns c := by
  refine ⟨fun b hb hv => ?_, fun f hf => ?_⟩
  · obtain ⟨ref, -, hr⟩ := Result.exists_left_of_mem h.backends hb
    exact hr.permitted hv
  · rw [h.rest] at hf
    cases hf

theorem RulesAccount.permitted {route : Route} {rules : List Rule} (h : RulesAccount docs p w outcome route rules) :
    ∀ rule ∈ rules, RulePermitted w route.kind route.meta.ns rule := by
  intro rule hrule
  cases route with
  | http route =>
    obtain ⟨source, -, haccount⟩ := Result.exists_left_of_mem h hrule
    exact haccount.permitted
  | grpc route =>
    obtain ⟨source, -, haccount⟩ := Result.exists_left_of_mem h hrule
    exact haccount.permitted
  | tcp route =>
    obtain ⟨source, -, haccount⟩ := Result.exists_left_of_mem h hrule
    exact haccount.permitted
  | tls route =>
    obtain ⟨source, -, haccount⟩ := Result.exists_left_of_mem h hrule
    exact haccount.permitted
  | udp route =>
    obtain ⟨source, -, haccount⟩ := Result.exists_left_of_mem h hrule
    exact haccount.permitted

theorem attach_permitted {gw : Gateway} {listeners : List ListenerState} {parentRef : ParentReference}
    {route : Route} {config : RouteConfig}
    (h : (route.attach docs p w gw listeners parentRef).1.config = some config) :
    ∀ rule ∈ config.rules, RulePermitted w route.kind route.meta.ns rule := by
  obtain ⟨rules, hrules, rfl⟩ := attach_config _ _ h
  exact hrules.permitted

end

section

theorem compileAttachments_rules {clientCert : BackendClientCert} {listeners : List ListenerState}
    {outcomes : List RouteOutcome} {uid : String} {config : RouteConfig}
    (h : (compileAttachments clientCert listeners outcomes).routeConfigs[uid]? = some config) :
    ∃ outcome ∈ outcomes, ∃ source, outcome.config = some source ∧ config.rules = source.rules := by
  rcases Idempotence.grows_of_compiled outcomes h with ⟨_, hempty, -⟩ | ⟨outcome, ho, source, hattaches, hgrows⟩
  · cases hempty
  · exact ⟨outcome, ho, source, hattaches.1, by rw [hgrows.1]⟩

structure Source where
  world : Snapshot
  attached : List Route
  table : GatewayTable

variable (docs p) in
/-- The table is built from what the routes of the world came to on the Gateway. -/
def Source.Built (s : Source) : Prop :=
  ∃ gw infra states clientCert outcomes routes generation secret previous,
    (∀ outcome ∈ outcomes, ∃ route ∈ s.attached, ∃ listeners parentRef,
      outcome = (route.attach docs p s.world gw listeners parentRef).1) ∧
    (∀ config ∈ routes, ∃ uid : String,
      (compileAttachments clientCert states outcomes).routeConfigs[uid]? = some config) ∧
    buildGatewayTable p generation (compileGatewayConfig gw infra states clientCert) routes secret previous =
      .ok s.table

variable (docs p) in
def RuleOf (w : Snapshot) (route : Route) (rule : Rule) (t : RuleTable) : Prop :=
  ∃ gw listeners parentRef config, (route.attach docs p w gw listeners parentRef).1.config = some config ∧
    rule ∈ config.rules ∧ ∃ secret merged, CompiledFrom p secret merged rule t

theorem Source.Built.rule {s : Source} (hb : s.Built docs p) {port : Int32} {pt : PortTable}
    (hp : s.table.byPort[port]? = some pt) {c : Matched} (hc : c ∈ tableOrder pt) :
    ∃ route ∈ s.attached, ∃ rule, RuleOf docs p s.world route rule c.rule := by
  obtain ⟨gw, infra, states, clientCert, outcomes, routes, generation, secret, previous, houtcomes, hroutes,
    hbuild⟩ := hb
  obtain ⟨hl, hr, hrule⟩ := mem_tableOrder.mp hc
  obtain ⟨merged, hmerged, rule, hmem, hfrom⟩ :=
    buildGatewayTable_origin hbuild hp c.listener hl c.route hr c.rule hrule
  obtain ⟨uid, huid⟩ := hroutes merged hmerged
  obtain ⟨outcome, ho, config, hconfig, hrules⟩ := compileAttachments_rules huid
  obtain ⟨route, hroute, listeners, parentRef, rfl⟩ := houtcomes outcome ho
  exact ⟨route, hroute, rule, gw, listeners, parentRef, config, hconfig, hrules ▸ hmem, secret, merged, hfrom⟩

theorem RuleOf.permitted {w : Snapshot} {route : Route} {rule : Rule} {t : RuleTable}
    (h : RuleOf docs p w route rule t) {backend : BackendTable} (hs : ServedBy t backend) :
    backend.valid = true ∧ Permitted w route.kind route.meta.ns backend.ns backend.name := by
  obtain ⟨gw, listeners, parentRef, config, hconfig, hmem, secret, merged, hfrom⟩ := h
  have hr := attach_permitted hconfig rule hmem
  cases hs with
  | backend hentry hvalid =>
    obtain ⟨b, hb, hns, hname, -, -, hv⟩ := Result.exists_left_of_mem hfrom.sameReference hentry
    rw [hns, hname]
    exact ⟨hvalid, hr.backends b (List.mem_of_mem_filter hb) (hv.symm.trans hvalid)⟩
  | @mirror m hmirror heq =>
    obtain ⟨client, hmirrors⟩ := hfrom.mirrors
    obtain ⟨filter, hfilter, target, htarget, himage⟩ := hmirrors m hmirror
    obtain ⟨hns, hname, -, -, hv⟩ := himage.view
    rw [heq, hns, hname, hv]
    exact hr.mirrors filter hfilter target htarget

end

/-- Valid backends and mirrors of a compiled route are in its namespace or granted; every connection is
to such a backend of the route that serves it; and picking pays no attention to validity. -/
theorem connections_granted {D : Type} (docs : Documents D) (p : Platform) (sources : List Source)
    (hbuilt : ∀ s ∈ sources, s.Built docs p) :
    (∀ w gw listeners parentRef (route : Route) config,
      (route.attach docs p w gw listeners parentRef).1.config = some config →
        ∀ rule ∈ config.rules, RulePermitted w route.kind route.meta.ns rule) ∧
    (∀ conn, Opens (mergeTables (sources.map Source.table)) conn → conn.backend.valid = true ∧
      ∃ s ∈ sources, ∃ route ∈ s.attached, ∃ rule t, RuleOf docs p s.world route rule t ∧
        ServedBy t conn.backend ∧
          Permitted s.world route.kind route.meta.ns conn.backend.ns conn.backend.name) ∧
    (∀ (port : Int32) (pt : PortTable), (mergeTables (sources.map Source.table)).byPort[port]? = some pt →
      ∀ c ∈ tableOrder pt,
        (∃ s ∈ sources, ∃ route ∈ s.attached, ∃ rule, RuleOf docs p s.world route rule c.rule ∧
          List.Forall₂ SameReference (rule.backends.filter fun b => 0 < b.weight) c.rule.backends) ∧
        (∀ valid turn, { c.rule with
            backends := c.rule.backends.map (BackendTable.judged valid) }.pickBackend turn =
          (c.rule.pickBackend turn).map (BackendTable.judged valid)) ∧
        (weights c.rule.backends < 2 ^ 63 → ∀ (kind : BackendTable → Bool) (start backend : ℕ),
          ((Finset.Ico start (start + (weights c.rule.backends).toNat)).filter fun n =>
            (c.rule.pickBackend ⟨n, backend⟩).any kind = true).card =
              (weights (c.rule.backends.filter kind)).toNat)) := by
  have horigin : ∀ {port : Int32} {pt : PortTable} {c : Matched},
      (mergeTables (sources.map Source.table)).byPort[port]? = some pt → c ∈ tableOrder pt →
        ∃ s ∈ sources, ∃ route ∈ s.attached, ∃ rule, RuleOf docs p s.world route rule c.rule := by
    intro port pt c hp hc
    obtain ⟨g, hg, hgp⟩ := mergeTables_byPort hp
    obtain ⟨s, hs, rfl⟩ := List.mem_map.mp hg
    exact ⟨s, hs, (hbuilt s hs).rule hgp hc⟩
  refine ⟨fun w gw listeners parentRef route config => attach_permitted, fun conn hopen => ?_,
    fun port pt hp c hc => ?_⟩
  · obtain ⟨port, pt, hp, c, hc, hserved⟩ := hopen.servedBy
    obtain ⟨s, hs, route, hroute, rule, hrule⟩ := horigin hp hc
    obtain ⟨hvalid, hpermitted⟩ := hrule.permitted hserved
    exact ⟨hvalid, s, hs, route, hroute, rule, c.rule, hrule, hserved, hpermitted⟩
  · obtain ⟨s, hs, route, hroute, rule, hrule⟩ := horigin hp hc
    obtain ⟨-, -, -, -, -, -, secret, merged, hfrom⟩ := id hrule
    exact ⟨⟨s, hs, route, hroute, rule, hrule, hfrom.sameReference⟩, c.rule.pickBackend_judged,
      fun hfits => (hfrom.weighted hfits).card_pickBackend⟩

/-! A TCP route to a Service of its own namespace and to one of another, without a grant. -/

def noDocuments : Documents Unit where
  parseDuration := fun _ => none
  percentOf := fun _ _ => defaultPercent
  parseRateLimit := fun _ => .error "no document"
  parseWAF := fun _ => .error "no document"
  parseAuth := fun _ => .error "no document"
  mergeAuth := fun _ => .error "no document"

def bankWorld : Snapshot :=
  { World.small with
    services := GoMap.setAll ∅ [("shop/orders", ⟨[⟨"", 5432, none⟩]⟩), ("bank/ledger", ⟨[⟨"", 5432, none⟩]⟩)]
    backendTLS := ∅
    extensionCM := fun _ _ => .error "not found"
    extensionSecret := fun _ _ => .error "not found" }

def tcpListener : ListenerState where
  spec := ⟨"tcp", none, 5432, "TCP", none, none⟩
  set := none
  internalPort := 10000
  accepted := true
  acceptedReason := .accepted
  conflicted := false
  refsResolved := true
  refsReason := .resolvedRefs
  refsMessage := ""
  allowedKinds := ["TCPRoute"]
  certData := ∅
  clientCAMode := ""
  attachedRoutes := 0

def ledgerRoute : Route :=
  .tcp ⟨⟨"route", "shop", "ledger", 0⟩,
    [[⟨⟨none, none, none, "orders", some 5432⟩, none⟩, ⟨⟨none, none, some "bank", "ledger", some 5432⟩, none⟩]]⟩

def tcpOutcome : RouteOutcome :=
  (ledgerRoute.attach noDocuments .trusting bankWorld (.small [] none) [tcpListener]
    ⟨none, none, none, "gw", none, none⟩).1

def ledgerConfig : RouteConfig where
  uid := "route"
  ns := "shop"
  name := "ledger"
  listeners := ["tcp"]
  hostnames := []
  created := 0
  grpc := false
  rules := [⟨[], [], [⟨⟨"shop", "orders", 5432, 1, true, "", "", none⟩, []⟩,
    ⟨⟨"bank", "ledger", 5432, 1, false, "RefNotPermitted", "", none⟩, []⟩], 0, 0, none, "", false, ""⟩]

def plainEntry (ns name : String) (valid : Bool) : BackendTable :=
  ⟨ns, name, 5432, 1, valid, false, [], "", none, false⟩

def tcpTable : GatewayTable where
  generation := "g1"
  byPort := GoMap.setAll ∅ [(10000, ⟨"uid", "shop/gw", false, true, false, false, false,
    [⟨"tcp", "", none, false, none, .noClientCert, [⟨"shop", "ledger", [], 0,
      [⟨[], [], [plainEntry "shop" "orders" true, plainEntry "bank" "ledger" false], [], none, false, 0, 0, 2,
        none, none, none, false⟩]⟩]⟩], []⟩)]
  namespaces := GoMap.setAll ∅ [("shop", true)]

theorem ungranted_share_refused :
    (∃ conn, Opens (mergeTables [tcpTable]) conn ∧ conn.backend = plainEntry "shop" "orders" true) ∧
    ∀ conn, Opens (mergeTables [tcpTable]) conn → conn.backend.valid = true := by
  have hbuilt : (⟨bankWorld, [ledgerRoute], tcpTable⟩ : Source).Built noDocuments .trusting := by
    refine ⟨.small [] none, ⟨[], []⟩, [tcpListener], ⟨none, true, .resolvedRefs, ""⟩, [tcpOutcome], [ledgerConfig],
      "g1", none, none, ?_, ?_, by decide⟩
    · intro outcome ho
      rw [List.mem_singleton.mp ho]
      exact ⟨ledgerRoute, List.mem_singleton_self _, _, _, rfl⟩
    · intro config hc
      rw [List.mem_singleton.mp hc]
      exact ⟨"route", by decide⟩
  have h := connections_granted noDocuments .trusting [⟨bankWorld, [ledgerRoute], tcpTable⟩]
    (fun s hs => by rw [List.mem_singleton.mp hs]; exact hbuilt)
  have hopen : (mergeTables [tcpTable]).openTCP 10000 (servingIndex (plainEntry "shop" "orders" true)) ⟨0, 0⟩ =
      some ⟨⟨plainEntry "shop" "orders" true, ⟨"10.0.0.1", 8080⟩⟩, .stream⟩ := by decide
  exact ⟨⟨_, .tcp hopen, rfl⟩, fun conn hconn => (h.2.1 conn hconn).1⟩

end Krouter.ControlPlane
