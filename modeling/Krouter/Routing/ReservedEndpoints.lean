import Krouter.Lib.FirstOfKey
import Krouter.Routing.HostCase
import Krouter.Routing.Isolation

/-! The endpoints that authentication extensions reserve on a host. The lookup goes over the same entries as
matching does, without the isolation of listeners. -/

namespace Krouter.Routing
open Compiled Auth Http GoString

/-! ## What a host is served -/

/-- No listener that matches the host has a higher score: matching goes on with these only. -/
def Foremost (table : PortTable) (host : String) (l : ListenerTable) : Prop :=
  l ∈ table.listeners ∧ hostnameMatches l.hostname host = true ∧
    ∀ other ∈ table.listeners, hostnameMatches other.hostname host = true →
      hostnameScore other.hostname ≤ hostnameScore l.hostname

instance (table : PortTable) (host : String) (l : ListenerTable) : Decidable (Foremost table host l) :=
  inferInstanceAs (Decidable (_ ∧ _))

def Selectable (table : PortTable) (host : String) (l : ListenerTable) (route : RouteTable) : Prop :=
  Foremost table host l ∧ route ∈ l.routes ∧ routeHostnameMatches route.hostnames host = true

/-- The extensions of the routes for the host, on whichever listener, in the order of the table. -/
def servedExtensions (table : PortTable) (host : String) : List (ListenerTable × Enforcer) :=
  (table.listeners.filter fun l => hostnameMatches l.hostname host).flatMap fun l =>
    (l.routes.filter fun route => routeHostnameMatches route.hostnames host).flatMap fun route =>
      route.rules.filterMap fun rule => rule.authEnforcer.map fun e => (l, e)

def Reserves (path : String) (e : Enforcer) : Prop :=
  e.hasCookieProvider = true ∧ (path = e.cfg.pathPrefix ∨ hasPrefix path (e.cfg.pathPrefix ++ "/") = true)

instance (path : String) : DecidablePred (Reserves path) := fun _ => inferInstanceAs (Decidable (_ ∧ _))

def Owned (table : PortTable) (host : String) (e : Enforcer) : Prop :=
  ∃ l route, Selectable table host l route ∧ ∃ rule ∈ route.rules, rule.authEnforcer = some e

/-- An extension behind a less specific listener that reserves the path is behind a most specific one too,
or is hidden by one of the same identity. -/
def Confined (table : PortTable) (host path : String) : Prop :=
  ∀ before l e after, servedExtensions table host = before ++ (l, e) :: after → Reserves path e →
    ¬ Foremost table host l → (∃ l', Foremost table host l' ∧ (l', e) ∈ servedExtensions table host) ∨
      ∃ c ∈ before, Reserves path c.2 ∧ c.2.cfg.identity = e.cfg.identity

section
variable {table : PortTable} {host path : String} {l : ListenerTable} {e : Enforcer}

theorem mem_servedExtensions : (l, e) ∈ servedExtensions table host ↔
    l ∈ table.listeners ∧ hostnameMatches l.hostname host = true ∧ ∃ route ∈ l.routes,
      routeHostnameMatches route.hostnames host = true ∧ ∃ rule ∈ route.rules, rule.authEnforcer = some e := by
  simp only [servedExtensions, List.mem_flatMap, List.mem_filter, List.mem_filterMap, Option.map_eq_some_iff,
    Prod.mk.injEq]
  constructor
  · rintro ⟨m, ⟨hm, hmatches⟩, route, ⟨hroute, hhost⟩, rule, hrule, f, hf, rfl, rfl⟩
    exact ⟨hm, hmatches, route, hroute, hhost, rule, hrule, hf⟩
  · rintro ⟨hl, hmatches, route, hroute, hhost, rule, hrule, he⟩
    exact ⟨l, ⟨hl, hmatches⟩, route, ⟨hroute, hhost⟩, rule, hrule, e, he, rfl, rfl⟩

theorem owned_iff : Owned table host e ↔ ∃ l, Foremost table host l ∧ (l, e) ∈ servedExtensions table host := by
  constructor
  · rintro ⟨l, route, ⟨hl, hroute, hhost⟩, hrule⟩
    exact ⟨l, hl, mem_servedExtensions.mpr ⟨hl.1, hl.2.1, route, hroute, hhost, hrule⟩⟩
  · rintro ⟨l, hl, hmem⟩
    obtain ⟨-, -, route, hroute, hhost, hrule⟩ := mem_servedExtensions.mp hmem
    exact ⟨l, route, ⟨hl, hroute, hhost⟩, hrule⟩

theorem authEndpoint_eq {t : Tables} {port : Int32} (ht : t.byPort[port]? = some table) :
    t.authEndpoint port host path =
      firsts (Reserves path) (fun e => e.cfg.identity) ((servedExtensions table host).map Prod.snd) := by
  have hrules : (servedExtensions table host).map Prod.snd =
      (((table.listeners.filter fun l => hostnameMatches l.hostname host).flatMap fun l =>
        l.routes.filter fun route => routeHostnameMatches route.hostnames host).flatMap
          RouteTable.rules).filterMap RuleTable.authEnforcer := by
    simp only [servedExtensions, List.map_flatMap, List.flatMap_assoc, List.filterMap_flatMap,
      List.map_filterMap, Option.map_map, Function.comp_def, Option.map_id']
  rw [hrules, firsts, List.foldl_filterMap, Tables.authEndpoint, ht]
  dsimp only
  congr 1
  funext candidates rule
  cases rule.authEnforcer with
  | none => rfl
  | some e =>
    dsimp only [collectFirst]
    congr 1
    rw [Reserves, eq_iff_iff]
    tauto

theorem authEndpoint_owned_iff {t : Tables} {port : Int32} (ht : t.byPort[port]? = some table) :
    (∀ e ∈ t.authEndpoint port host path, Owned table host e) ↔ Confined table host path := by
  simp only [authEndpoint_eq ht, mem_firsts, owned_iff]
  constructor
  · intro howned before l e after hsplit hreserves _
    by_contra hnone
    rw [not_or] at hnone
    refine hnone.1 (howned e ⟨before.map Prod.snd, after.map Prod.snd, by rw [hsplit]; simp, hreserves, ?_⟩)
    intro c hc hreserved hidentity
    obtain ⟨pair, hpair, rfl⟩ := List.mem_map.mp hc
    exact hnone.2 ⟨pair, hpair, hreserved, hidentity⟩
  · rintro hconfined e ⟨before, after, hsplit, hreserves, hfirst⟩
    obtain ⟨pairs, rest, hserved, rfl, hrest⟩ := List.map_eq_append_iff.mp hsplit
    obtain ⟨⟨l, e'⟩, later, rfl, rfl, rfl⟩ := List.map_eq_cons_iff.mp hrest
    by_cases hl : Foremost table host l
    · exact ⟨l, hl, by rw [hserved]; simp⟩
    · rcases hconfined pairs l e' later hserved hreserves hl with howned | ⟨c, hc, hreserved, hidentity⟩
      · exact howned
      · exact absurd hidentity (hfirst c.2 (List.mem_map_of_mem hc) hreserved)

end

/-! ## Matching -/

theorem matchPort_selectable {table : PortTable} {host : String} {r : Request} {grpc : Bool} {c : Matched}
    (h : matchPort table host r grpc = some c) : Selectable table host c.listener c.route := by
  obtain ⟨hl, hroute, -⟩ := mem_tableOrder.mp (mem_tableOrder_of_matchPort h)
  obtain ⟨hmatches, hscore, hhost, -⟩ := matchPort_considered h
  exact ⟨⟨hl, hmatches, fun other ho hom => hscore ▸ le_winningScore ho hom⟩, hroute, hhost⟩

theorem matchRequest_selectable {t : Tables} {port : Int32} {host : String} {r : Request} {c : Matched}
    (h : t.matchRequest port host r = some c) :
    ∃ table, t.byPort[port]? = some table ∧ Selectable table host c.listener c.route := by
  obtain ⟨table, ht, grpc, hm⟩ := Tables.matchPort_of_matchRequest h
  exact ⟨table, ht, matchPort_selectable hm⟩

/-- Matching stays with the listeners that own the host; the reserved endpoints do exactly if
no extension reserves the path from behind another listener alone. -/
theorem reserved_endpoints_owned_iff (t : Tables) (port : Int32) (host path : String) :
    (∀ r c, t.matchRequest port host r = some c →
      ∃ table, t.byPort[port]? = some table ∧ Selectable table host c.listener c.route) ∧
    ((∀ e ∈ t.authEndpoint port host path, ∃ table, t.byPort[port]? = some table ∧ Owned table host e) ↔
      ∀ table, t.byPort[port]? = some table → Confined table host path) := by
  refine ⟨fun r c => matchRequest_selectable, ?_⟩
  cases ht : t.byPort[port]? with
  | none =>
    have hnone : t.authEndpoint port host path = [] := by rw [Tables.authEndpoint, ht]
    rw [hnone]
    exact ⟨fun _ table h => (by cases h), fun _ e he => (by cases he)⟩
  | some table =>
    simp only [Option.some.injEq, exists_eq_left', forall_eq']
    exact authEndpoint_owned_iff ht

/-! A login page behind the listener for every host, and a host with a listener of its own. -/

def loginEnforcer : Enforcer :=
  ⟨⟨"c0ffee", "/auth", some ⟨"secret", 3600000⟩, some ⟨"https://id.example.com", "web", "", [], ""⟩, none, none, none, []⟩,
    some ⟨"key", "c0ffee", 3600000000000⟩⟩

def loginPortTable : PortTable where
  gatewayUID := "uid"
  gatewayName := "shop/gw"
  tls := false
  tcp := false
  udp := false
  tlsPassthrough := false
  proxyProtocol := false
  listeners := [⟨"any", "", none, false, none, .noClientCert,
      [⟨"shop", "portal", [], 0, [{ openRule with authEnforcer := some loginEnforcer }]⟩]⟩,
    ⟨"bank", "bank.example.com", none, false, none, .noClientCert, [⟨"bank", "web", [], 0, [openRule]⟩]⟩]
  trust := []

def loginTables : Tables := ⟨GoMap.setAll ∅ [(443, loginPortTable)], ∅⟩

theorem login_on_foreign_host :
    loginTables.authEndpoint 443 "bank.example.com" "/auth/login" = [loginEnforcer] ∧
      ¬ Owned loginPortTable "bank.example.com" loginEnforcer := by
  refine ⟨by decide, fun howned => ?_⟩
  obtain ⟨l, hl, hmem⟩ := owned_iff.mp howned
  have hone : servedExtensions loginPortTable "bank.example.com" =
      [(⟨"any", "", none, false, none, .noClientCert,
        [⟨"shop", "portal", [], 0, [{ openRule with authEnforcer := some loginEnforcer }]⟩]⟩, loginEnforcer)] := by
    decide
  rw [hone, List.mem_singleton] at hmem
  obtain rfl := (Prod.mk.inj hmem).1
  exact absurd hl (by decide)

end Krouter.Routing
