import Krouter.Routing.Isolation
import Krouter.Routing.Pick

/-! Route selection by server name. The loops rank the rules of every listener that matches, so the owner
of the name serves it only when it has a route to offer. -/

namespace Krouter.Routing
open Compiled GoString RunningBest

section
variable {table : PortTable} {sni : String}

/-- Listener hostname, route hostname, then the older route, then the smaller name. -/
def tlsRank (sni : String) (c : Matched) : Int ×ₗ Int ×ₗ ℤᵒᵈ ×ₗ Stringᵒᵈ :=
  toLex (hostnameScore c.listener.hostname, toLex (routeHostnameScore c.listener c.route sni,
    toLex (OrderDual.toDual c.route.created.toInt, OrderDual.toDual c.route.key)))

def tlsCandidates (table : PortTable) (sni : String) : List Matched :=
  (tableOrder table).filter fun c =>
    hostnameMatches c.listener.hostname sni && routeHostnameMatches c.route.hostnames sni

theorem mem_tlsCandidates {c : Matched} : c ∈ tlsCandidates table sni ↔
    c ∈ tableOrder table ∧ hostnameMatches c.listener.hostname sni = true ∧
      routeHostnameMatches c.route.hostnames sni = true := by
  rw [tlsCandidates, List.mem_filter, Bool.and_eq_true]

theorem tlsScore_beats_iff (c b : Matched) :
    (tlsScore sni c.listener c.route).beats (tlsScore sni b.listener b.route) = true ↔
      tlsRank sni b < tlsRank sni c := by
  rw [MatchScore.beats, ite_ne_iff (by simp +contextual), ite_ne_iff (by simp +contextual),
    ite_ne_iff (by simp [RuleSpecificity.beats, tlsScore]), ite_ne_iff (by simp +contextual)]
  simp only [decide_eq_true_eq]
  rw [Int64.lt_iff_toInt_lt, ← Int64.toInt_inj, tlsRank, tlsRank, Prod.Lex.toLex_lt_toLex,
    Prod.Lex.toLex_lt_toLex, Prod.Lex.toLex_lt_toLex, OrderDual.toDual_lt_toDual,
    OrderDual.toDual_lt_toDual, OrderDual.toDual_inj]
  simp [tlsScore, RuleSpecificity.beats]

def tlsScored (sni : String) (c : Matched) : Matched × MatchScore := (c, tlsScore sni c.listener c.route)

def keepTLS (sni : String) (best : Best) (c : Matched) : Best :=
  if hostnameMatches c.listener.hostname sni && routeHostnameMatches c.route.hostnames sni then
    keepBest (fun s b => s.2.beats b.2) best (tlsScored sni c)
  else best

theorem foldl_keepTLS_of_not {cs : List Matched} (h : ∀ c ∈ cs,
    ¬ (hostnameMatches c.listener.hostname sni && routeHostnameMatches c.route.hostnames sni) = true)
    (best : Best) : cs.foldl (keepTLS sni) best = best :=
  List.foldl_kept id (fun _ c hc => if_neg (h c hc)) best

theorem tlsRoute_eq {listener : ListenerTable} (hl : hostnameMatches listener.hostname sni = true)
    (best : Best) (route : RouteTable) : tlsRoute sni listener best route =
      (route.rules.map fun rule => (⟨rule, listener, route⟩ : Matched)).foldl (keepTLS sni) best := by
  unfold tlsRoute
  split_ifs with hr
  · rw [List.foldl_map]
    refine congrArg (fun f => route.rules.foldl f best) (funext fun b => funext fun rule => ?_)
    rw [keepTLS, if_pos (by simp [hl, hr])]
    cases b <;> rfl
  · rw [foldl_keepTLS_of_not]
    intro c hc
    obtain ⟨rule, -, rfl⟩ := List.mem_map.mp hc
    simp [hr]

theorem tlsListener_eq (best : Best) (listener : ListenerTable) : tlsListener sni best listener =
    (listener.routes.flatMap fun route => route.rules.map fun rule =>
      (⟨rule, listener, route⟩ : Matched)).foldl (keepTLS sni) best := by
  unfold tlsListener
  split_ifs with hl
  · rw [List.foldl_flatMap]
    exact congrArg (fun f => listener.routes.foldl f best)
      (funext fun b => funext fun route => tlsRoute_eq hl b route)
  · rw [foldl_keepTLS_of_not]
    intro c hc
    obtain ⟨route, -, hc⟩ := List.mem_flatMap.mp hc
    obtain ⟨rule, -, rfl⟩ := List.mem_map.mp hc
    simp [hl]

theorem tlsMatch_eq (table : PortTable) (sni : String) : tlsMatch table sni =
    (tlsCandidates table sni).foldl (keepBest fun c b =>
      (tlsScore sni c.listener c.route).beats (tlsScore sni b.listener b.route)) none := by
  have hloop : table.listeners.foldl (tlsListener sni) none =
      (tableOrder table).foldl (keepTLS sni) none := by
    rw [tableOrder, List.foldl_flatMap]
    exact congrArg (fun f => table.listeners.foldl f none)
      (funext fun best => funext fun listener => tlsListener_eq best listener)
  have hmap := foldl_keepBest_map (tlsScored sni) (fun s b => s.2.beats b.2) (tlsCandidates table sni) none
  rw [tlsCandidates, List.foldl_filter] at hmap
  rw [tlsMatch, hloop]
  refine (congrArg (Option.map Prod.fst) hmap).trans ?_
  rw [Option.map_map]
  exact Option.map_id_apply

theorem tlsMatch_eq_some_iff {c : Matched} :
    tlsMatch table sni = some c ↔ FirstMax (tlsRank sni) (tlsCandidates table sni) c := by
  rw [tlsMatch_eq]
  exact foldl_keepBest_eq_some_iff _ fun c _ b _ => tlsScore_beats_iff c b

end

/-! ## Endpoints for a backend -/

def servingIndex (backend : BackendTable) : EndpointsIndex where
  services := GoMap.setAll ∅ [(backend.ns ++ "/" ++ backend.name, ⟨[⟨"", backend.port, none⟩]⟩)]
  slices := GoMap.setAll ∅ [(backend.ns ++ "/" ++ backend.name,
    [⟨"IPv4", [⟨none, some 8080⟩], [⟨["10.0.0.1"], none, none⟩]⟩])]

theorem pick_servingIndex (backend : BackendTable) (turn : Turn) :
    backend.pick (servingIndex backend) turn = some ⟨"10.0.0.1", 8080⟩ := by
  have hall : (servingIndex backend).endpoints backend.ns backend.name backend.port =
      [⟨"10.0.0.1", 8080⟩] := by
    have hsvc : (servingIndex backend).services[backend.ns ++ "/" ++ backend.name]? =
        some ⟨[⟨"", backend.port, none⟩]⟩ := by
      rw [servingIndex, GoMap.setAll_cons]
      exact GoMap.get_insert_self ..
    have hslices : (servingIndex backend).slices[backend.ns ++ "/" ++ backend.name]? =
        some [⟨"IPv4", [⟨none, some 8080⟩], [⟨["10.0.0.1"], none, none⟩]⟩] := by
      rw [servingIndex, GoMap.setAll_cons]
      exact GoMap.get_insert_self ..
    simp [EndpointsIndex.endpoints, hsvc, GoMap.read, hslices, EndpointSlice.ready,
      EndpointSlice.targetPort, SlicePort.isNamed, SliceEndpoint.eligible]
  simp [BackendTable.pick, hall, Nat.mod_one]

variable {table : PortTable} {sni : String}

/-- Every selection for the name is one that a route of the name's owner gives, with the
owner's mode and certificate. -/
def ServedByOwner (table : PortTable) (sni : String) : Prop :=
  ∀ (t : Tables) (port : Int32) (index : EndpointsIndex) (turn : Turn) (sel : TLSSelection),
    t.byPort[port]? = some table → t.pickTLS port sni index turn = some sel →
      ∃ listener i, bestListenerFor table sni = some (listener, i) ∧
        ∃ route ∈ listener.routes, routeHostnameMatches route.hostnames sni = true ∧
          ∃ rule ∈ route.rules, ∃ target, rule.connect index turn = some target ∧
            sel = target.tlsSelection table listener route

/-- The owner of the name has a matching route with a rule. -/
def OwnerRouted (table : PortTable) (sni : String) : Prop :=
  ∃ listener i, bestListenerFor table sni = some (listener, i) ∧
    ∃ route ∈ listener.routes, routeHostnameMatches route.hostnames sni = true ∧ route.rules ≠ []

def OffersNothing (rule : RuleTable) : Prop :=
  ∀ turn backend, rule.pickBackend turn = some backend → backend.valid = false

theorem OffersNothing.connect_eq_none {rule : RuleTable} (h : OffersNothing rule)
    (index : EndpointsIndex) (turn : Turn) : rule.connect index turn = none := by
  unfold RuleTable.connect
  cases hb : rule.pickBackend turn with
  | none => rfl
  | some backend => exact if_neg (by rw [h turn backend hb]; decide)

theorem pickTLS_eq_some {t : Tables} {port : Int32} (ht : t.byPort[port]? = some table)
    {index : EndpointsIndex} {turn : Turn} {sel : TLSSelection}
    (h : t.pickTLS port sni index turn = some sel) :
    ∃ c, tlsMatch table sni = some c ∧ ∃ target, c.rule.connect index turn = some target ∧
      sel = target.tlsSelection table c.listener c.route := by
  rw [Tables.pickTLS, ht, Option.bind_some] at h
  split_ifs at h
  obtain ⟨⟨c, target⟩, hc, rfl⟩ := Option.map_eq_some_iff.mp h
  unfold tlsTarget at hc
  split at hc
  · cases hc
  · next hm =>
    obtain ⟨_, htgt, he⟩ := Option.map_eq_some_iff.mp hc
    cases he
    exact ⟨c, hm, target, htgt, rfl⟩

theorem tlsMatch_owner (hd : DistinctHostnames table) (hr : OwnerRouted table sni) {c : Matched}
    (hc : tlsMatch table sni = some c) : ∃ i, bestListenerFor table sni = some (c.listener, i) := by
  have hmax := tlsMatch_eq_some_iff.mp hc
  obtain ⟨horder, hm, -⟩ := mem_tlsCandidates.mp hmax.mem
  obtain ⟨listener, i, hbest, route, hroute, hrm, hrules⟩ := hr
  obtain ⟨rule, rest, hrule⟩ := List.exists_cons_of_ne_nil hrules
  have hfirst := bestListenerFor_eq_some_iff.mp hbest
  obtain ⟨hlm, hlh⟩ := mem_matching.mp ⟨i, hfirst.mem⟩
  have hcand : (⟨rule, listener, route⟩ : Matched) ∈ tlsCandidates table sni := by
    refine mem_tlsCandidates.mpr ⟨mem_tableOrder.mpr ⟨hlm, hroute, ?_⟩, hlh, hrm⟩
    rw [hrule]
    exact .head _
  -- the owner's own rule bounds the listener score of the selected one from below
  have hle : hostnameScore listener.hostname ≤ hostnameScore c.listener.hostname := by
    have h := hmax.le hcand
    rw [tlsRank, tlsRank, Prod.Lex.toLex_le_toLex] at h
    rcases h with h | h
    · exact h.le
    · exact h.1.le
  refine hd.owner (mem_tableOrder.mp horder).1 hm fun other ho hom => le_trans ?_ hle
  obtain ⟨j, hj⟩ := mem_matching.mpr ⟨ho, hom⟩
  exact hfirst.le hj

/-- A name on a TLS port is served by its owner alone exactly when the owner has a route for it, or the rule
found elsewhere has no valid backend. -/
theorem servedByOwner_iff (htls : table.tlsPassthrough = true) (hd : DistinctHostnames table) :
    ServedByOwner table sni ↔ OwnerRouted table sni ∨
      ∀ c, FirstMax (tlsRank sni) (tlsCandidates table sni) c → OffersNothing c.rule := by
  constructor
  · intro hs
    refine or_iff_not_imp_left.mpr fun hn c hc turn backend hb => ?_
    by_contra hv
    -- a cluster that serves the backend turns the choice into a selection
    have hvalid : backend.valid = true := by simpa using hv
    have hconnect : c.rule.connect (servingIndex backend) turn = some ⟨backend, ⟨"10.0.0.1", 8080⟩⟩ := by
      simp [RuleTable.connect, hb, hvalid, pick_servingIndex]
    have ht : (⟨GoMap.setAll ∅ [(10000, table)], ∅⟩ : Tables).byPort[(10000 : Int32)]? = some table :=
      GoMap.get_insert_self ..
    have hpick : (⟨GoMap.setAll ∅ [(10000, table)], ∅⟩ : Tables).pickTLS 10000 sni
        (servingIndex backend) turn = some (Target.tlsSelection ⟨backend, ⟨"10.0.0.1", 8080⟩⟩ table
          c.listener c.route) := by
      rw [Tables.pickTLS, ht, Option.bind_some, if_pos htls, tlsTarget, tlsMatch_eq_some_iff.mpr hc]
      simp only [hconnect, Option.map_some]
    obtain ⟨listener, i, hbest, route, hroute, hrm, rule, hrule, -⟩ := hs _ _ _ _ _ ht hpick
    exact hn ⟨listener, i, hbest, route, hroute, hrm, List.ne_nil_of_mem hrule⟩
  · intro hcond t port index turn sel ht hsel
    obtain ⟨c, hc, target, htarget, rfl⟩ := pickTLS_eq_some ht hsel
    rcases hcond with hr | hnone
    · obtain ⟨i, hbest⟩ := tlsMatch_owner hd hr hc
      obtain ⟨horder, -, hrm⟩ := mem_tlsCandidates.mp (tlsMatch_eq_some_iff.mp hc).mem
      obtain ⟨-, hroute, hrule⟩ := mem_tableOrder.mp horder
      exact ⟨c.listener, i, hbest, c.route, hroute, hrm, c.rule, hrule, target, htarget, rfl⟩
    · rw [(hnone c (tlsMatch_eq_some_iff.mp hc)).connect_eq_none] at htarget
      cases htarget

/-! A Terminate listener for one name beside a Passthrough listener for the domain. -/

def sniBackend : BackendTable := ⟨"shop", "web", 443, 1, true, false, [], "", none, false⟩

def sniRoute (hostnames : List String) : RouteTable :=
  ⟨"shop", "route", hostnames, 0, [⟨[], [], [sniBackend], [], none, false, 0, 0, 1, none, none, none, false⟩]⟩

def mixedPort (exactRoutes : List RouteTable) : PortTable where
  gatewayUID := "uid"
  gatewayName := "shop/gw"
  tls := false
  tcp := false
  udp := false
  tlsPassthrough := true
  proxyProtocol := false
  listeners := [
    ⟨"pay", "pay.example.com", some ⟨"cert", "key"⟩, true, none, .noClientCert, exactRoutes⟩,
    ⟨"any", "*.example.com", none, false, none, .noClientCert, [sniRoute []]⟩]
  trust := []

theorem distinct_mixedPort (exactRoutes : List RouteTable) : DistinctHostnames (mixedPort exactRoutes) := by
  have hlower : LowerCase "pay.example.com" ∧ LowerCase "*.example.com" := by decide
  refine ⟨fun l hl => ?_, (by decide : ["pay.example.com", "*.example.com"].Nodup)⟩
  rcases List.mem_cons.mp hl with rfl | hl
  · exact hlower.1
  · rw [List.mem_singleton.mp hl]
    exact hlower.2

theorem unrouted_owner_bypassed :
    (mixedPort []).tlsPassthrough = true ∧ DistinctHostnames (mixedPort []) ∧
    (bestListenerFor (mixedPort []) "pay.example.com").map (·.1.terminate) = some true ∧
    ((⟨GoMap.setAll ∅ [(10000, mixedPort [])], ∅⟩ : Tables).pickTLS 10000 "pay.example.com"
      (servingIndex sniBackend) ⟨0, 0⟩).map (·.terminate) = some false :=
  ⟨rfl, distinct_mixedPort [], by decide, by decide⟩

theorem routed_owner_serves : ServedByOwner (mixedPort [sniRoute ["pay.example.com"]]) "pay.example.com" := by
  refine (servedByOwner_iff rfl (distinct_mixedPort _)).mpr (Or.inl ?_)
  have hbest : bestListenerFor (mixedPort [sniRoute ["pay.example.com"]]) "pay.example.com" =
      some (⟨"pay", "pay.example.com", some ⟨"cert", "key"⟩, true, none, .noClientCert,
        [sniRoute ["pay.example.com"]]⟩, 0) := by decide
  exact ⟨_, _, hbest, _, List.mem_singleton_self _, by decide, List.cons_ne_nil _ _⟩

end Krouter.Routing
