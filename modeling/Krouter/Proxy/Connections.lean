import Krouter.Proxy.Forward
import Krouter.Routing.Backends
import Krouter.Routing.Passthrough

/-! Which connections the data plane opens: to valid backends of a rule of its tables, and to mirrors of
such a rule. -/

namespace Krouter.Proxy
open Compiled Http Routing

/-- A connection of the data plane for a request, a TCP connection, a UDP flow or a TLS
session of some client. -/
inductive Opens (tables : Tables) : Connection → Prop where
  | request {env : Environment} {port : Int32} {withTLS trustedPeer : Bool} {r r' : Request} {w : Writer}
      {rule : RuleTable} {x : Exchange} {conn : Connection} :
      serve env tables port withTLS r = some (.forward w r' rule withTLS trustedPeer) →
      conn ∈ (forward w rule x).connections → Opens tables conn
  | tcp {port : Int32} {index : EndpointsIndex} {turn : Turn} {conn : Connection} :
      tables.openTCP port index turn = some conn → Opens tables conn
  | udp {port : Int32} {index : EndpointsIndex} {turn : Turn} {conn : Connection} :
      tables.openUDP port index turn = some conn → Opens tables conn
  | tls {port : Int32} {sni : String} {index : EndpointsIndex} {turn : Turn} {conn : Connection} :
      tables.openTLS port sni index turn = some conn → Opens tables conn

inductive ServedBy (rule : RuleTable) (backend : BackendTable) : Prop where
  | backend : backend ∈ rule.backends → backend.valid = true → ServedBy rule backend
  | mirror {m : MirrorTable} : m ∈ rule.mirrors → backend = m.backend → ServedBy rule backend

section
variable {rule : RuleTable} {x : Exchange} {w : Writer} {conn : Connection}

theorem mem_sampleMirrors {mirrors : List MirrorTable} {m : MirrorTable × Nat}
    (h : m ∈ sampleMirrors x mirrors) : m.1 ∈ mirrors := by
  obtain ⟨⟨mirror, i⟩, hm, hsome⟩ := List.mem_filterMap.mp h
  split_ifs at hsome
  cases hsome
  have hmem := List.fst_mem_of_mem_zipIdx hm
  exact hmem

theorem mem_fireMirrors {transport : Transport} {mirrors : List (MirrorTable × Nat)}
    (h : conn ∈ fireMirrors x transport mirrors) : ∃ m ∈ mirrors, m.1.backend.tlsInvalid = false ∧
      m.1.backend.pick x.mirrorIndex ⟨0, m.2⟩ = some conn.endpoint ∧ conn.backend = m.1.backend ∧
      conn.transport = transportOver (cleartext transport) m.1.backend := by
  unfold fireMirrors at h
  split_ifs at h
  · cases h
  · obtain ⟨m, hm, hsome⟩ := List.mem_filterMap.mp h
    split_ifs at hsome with htls
    obtain ⟨endpoint, hpick, rfl⟩ := Option.map_eq_some_iff.mp hsome
    exact ⟨m, hm, by simpa using htls, hpick, rfl, rfl⟩

theorem forward_proxied {upstream : Connection} {mirrors : List Connection}
    (h : forward w rule x = .proxied upstream mirrors) :
    rule.pickBackend x.turn = some upstream.backend ∧ upstream.backend.valid = true ∧
      upstream.backend.tlsInvalid = false ∧
      upstream.backend.pick x.index x.turn = some upstream.endpoint ∧
      upstream.transport = requestTransport rule upstream.backend ∧
      mirrors = fireMirrors x upstream.transport (sampleMirrors x rule.mirrors) := by
  unfold forward at h
  cases hb : rule.pickBackend x.turn with
  | none =>
    rw [hb] at h
    dsimp only [grpcStatus, httpError] at h
    split_ifs at h
  | some backend =>
    rw [hb] at h
    dsimp only [grpcStatus, httpError] at h
    by_cases hv : backend.valid = true
    · rw [if_neg (not_not_intro hv)] at h
      by_cases ht : backend.tlsInvalid = true
      · rw [if_pos ht] at h
        cases h
      · rw [if_neg ht] at h
        cases hp : backend.pick x.index x.turn with
        | none =>
          rw [hp] at h
          split_ifs at h
        | some endpoint =>
          rw [hp] at h
          dsimp only at h
          split_ifs at h
          cases h
          exact ⟨rfl, hv, by simpa using ht, hp, rfl, rfl⟩
    · rw [if_pos hv] at h
      split_ifs at h

theorem servedBy_of_forward (h : conn ∈ (forward w rule x).connections) : ServedBy rule conn.backend := by
  cases hf : forward w rule x with
  | answered status response =>
    rw [hf] at h
    cases h
  | proxied upstream mirrors =>
    rw [hf] at h
    obtain ⟨hpick, hvalid, -, -, -, hmirrors⟩ := forward_proxied hf
    rcases List.mem_cons.mp h with rfl | h
    · exact .backend (RuleTable.mem_of_pickBackend hpick) hvalid
    · rw [hmirrors] at h
      obtain ⟨m, hm, -, -, hbackend, -⟩ := mem_fireMirrors h
      exact .mirror (mem_sampleMirrors hm) hbackend

theorem dispatch_forward {enforced : Enforced} {rule' : RuleTable} {withTLS trustedPeer withTLS' trusted' : Bool}
    {r' : Request} (h : dispatch enforced rule withTLS trustedPeer = .forward w r' rule' withTLS' trusted') :
    rule' = rule := by
  unfold dispatch at h
  split_ifs at h
  split at h
  · cases h
  · split at h <;> cases h
    rfl

theorem serve_forward {env : Environment} {tables : Tables} {port : Int32} {withTLS withTLS' trustedPeer : Bool}
    {r r' : Request} (h : serve env tables port withTLS r = some (.forward w r' rule withTLS' trustedPeer)) :
    ∃ c, tables.matchRequest port (GoNet.hostOnly r.host) r = some c ∧ c.rule = rule := by
  obtain ⟨c, enforced, trusted, hc, -, -, hd, -⟩ := serve_handed h rfl
  exact ⟨c, hc, (dispatch_forward hd).symm⟩

end

section
variable {table : PortTable} {index : EndpointsIndex} {turn : Turn}

theorem connect_eq_some {rule : RuleTable} {target : Target} (h : rule.connect index turn = some target) :
    rule.pickBackend turn = some target.backend ∧ target.backend.valid = true ∧
      target.backend.pick index turn = some target.endpoint := by
  unfold RuleTable.connect at h
  split at h
  · cases h
  · next backend hb =>
    split_ifs at h with hv
    obtain ⟨endpoint, hp, rfl⟩ := Option.map_eq_some_iff.mp h
    exact ⟨hb, hv, hp⟩

theorem servedBy_of_connect {rule : RuleTable} {target : Target} (h : rule.connect index turn = some target) :
    ServedBy rule target.backend :=
  .backend (RuleTable.mem_of_pickBackend (connect_eq_some h).1) (connect_eq_some h).2.1

theorem mem_of_l4Route {route : RouteTable} (h : l4Route table = some route) :
    ∃ listener ∈ table.listeners, route ∈ listener.routes := by
  refine (RunningBest.mem_of_foldl (fun best route => ?_) h).elim (fun h => by cases h) List.mem_flatMap.mp
  split_ifs
  · exact .inl rfl
  · cases best with
    | none => exact .inr rfl
    | some b =>
      dsimp only
      split_ifs
      · exact .inr rfl
      · exact .inl rfl

theorem l4Target_spec {route : RouteTable} {target : Target} (h : l4Target table index turn = some (route, target)) :
    ∃ c ∈ tableOrder table, c.rule.connect index turn = some target := by
  unfold l4Target at h
  cases hr : l4Route table with
  | none =>
    rw [hr] at h
    cases h
  | some route' =>
    rw [hr] at h
    dsimp only at h
    obtain ⟨listener, hl, hroute⟩ := mem_of_l4Route hr
    split at h
    · cases h
    · next rule rules hrules =>
      obtain ⟨_, hconnect, he⟩ := Option.map_eq_some_iff.mp h
      cases he
      exact ⟨⟨rule, listener, route⟩, mem_tableOrder.mpr ⟨hl, hroute, by rw [hrules]; exact .head _⟩,
        hconnect⟩

theorem openL4_spec {served : PortTable → Bool} {transport : Transport} {tables : Tables} {port : Int32}
    {conn : Connection} (h : tables.openL4 served transport port index turn = some conn) :
    ∃ table, tables.byPort[port]? = some table ∧ ∃ c ∈ tableOrder table,
      c.rule.connect index turn = some conn.toTarget ∧ conn.transport = transport := by
  obtain ⟨table, ht, h⟩ := Option.bind_eq_some_iff.mp h
  split_ifs at h
  obtain ⟨⟨route, target⟩, hpicked, rfl⟩ := Option.map_eq_some_iff.mp h
  obtain ⟨c, hc, hconnect⟩ := l4Target_spec hpicked
  exact ⟨table, ht, c, hc, hconnect, rfl⟩

theorem openTLS_spec {tables : Tables} {port : Int32} {sni : String} {conn : Connection}
    (h : tables.openTLS port sni index turn = some conn) :
    ∃ table, tables.byPort[port]? = some table ∧ ∃ c, tlsMatch table sni = some c ∧
      c.rule.connect index turn = some conn.toTarget ∧
      conn.transport = if c.listener.terminate then .stream else .passthrough := by
  obtain ⟨table, ht, h⟩ := Option.bind_eq_some_iff.mp h
  split_ifs at h
  obtain ⟨⟨c, target⟩, hpicked, h⟩ := Option.bind_eq_some_iff.mp h
  unfold tlsTarget at hpicked
  split at hpicked
  · cases hpicked
  · next m hm =>
    obtain ⟨_, hconnect, he⟩ := Option.map_eq_some_iff.mp hpicked
    cases he
    refine ⟨table, ht, c, hm, ?_⟩
    split_ifs at h with hterm hcert
    · cases h
      exact ⟨hconnect, by rw [if_pos hterm]⟩
    · cases h
      exact ⟨hconnect, by rw [if_neg hterm]⟩

end

theorem Opens.servedBy {tables : Tables} {conn : Connection} (h : Opens tables conn) :
    ∃ (port : Int32) (table : PortTable), tables.byPort[port]? = some table ∧
      ∃ c ∈ tableOrder table, ServedBy c.rule conn.backend := by
  cases h with
  | @request env port withTLS trustedPeer r r' w rule x _ hserve hconn =>
    obtain ⟨c, hc, rfl⟩ := serve_forward hserve
    obtain ⟨table, ht, hmem⟩ := Tables.mem_tableOrder_of_matchRequest hc
    exact ⟨port, table, ht, c, hmem, servedBy_of_forward hconn⟩
  | @tcp port index turn _ hopen =>
    obtain ⟨table, ht, c, hc, hconnect, -⟩ := openL4_spec hopen
    exact ⟨port, table, ht, c, hc, servedBy_of_connect hconnect⟩
  | @udp port index turn _ hopen =>
    obtain ⟨table, ht, c, hc, hconnect, -⟩ := openL4_spec hopen
    exact ⟨port, table, ht, c, hc, servedBy_of_connect hconnect⟩
  | @tls port sni index turn _ hopen =>
    obtain ⟨table, ht, c, hc, hconnect, -⟩ := openTLS_spec hopen
    exact ⟨port, table, ht, c, (mem_tlsCandidates.mp (tlsMatch_eq_some_iff.mp hc).mem).1,
      servedBy_of_connect hconnect⟩

end Krouter.Proxy
