import Krouter.ControlPlane.BackendGrants

/-! Backends under a BackendTLSPolicy. Requests and mirrors go through the transport of the
policy or are refused; the stream forwarders dial the endpoint as it is. -/

namespace Krouter.ControlPlane
open Compiled Routing Proxy

inductive Path where
  | http
  | grpc
  | mirror
  | tcp
  | terminate
  deriving DecidableEq

def Reaches (path : Path) (b : BackendTable) (conn : Connection) : Prop :=
  conn.backend = b ∧ match path with
    | .http => ∃ w rule x mirrors, rule.grpc = false ∧ forward w rule x = .proxied conn mirrors
    | .grpc => ∃ w rule x mirrors, rule.grpc = true ∧ forward w rule x = .proxied conn mirrors
    | .mirror => ∃ w rule x upstream mirrors, forward w rule x = .proxied upstream mirrors ∧ conn ∈ mirrors
    | .tcp => ∃ (tables : Tables) (port : Int32) (index : EndpointsIndex) (turn : Routing.Turn),
        tables.openTCP port index turn = some conn
    | .terminate => ∃ (tables : Tables) (port : Int32) (sni : String) (index : EndpointsIndex) (turn : Routing.Turn),
        tables.openTLS port sni index turn = some conn ∧ conn.transport = .stream

/-- Every connection to the backend on the path is a TLS connection with the parameters of
the policy, and an invalid policy has none. -/
def Secured (path : Path) (client : ClientCert) (policy : BackendTLS) (b : BackendTable) : Prop :=
  ∀ conn, Reaches path b conn →
    policy.invalid = false ∧ conn.transport = .tls (policyTransport client policy)

/-- A transport that is cached under the fingerprint of a policy is one for that policy. -/
def CacheAgrees (p : Platform) (client : ClientCert) (transports : Transports) (policy : BackendTLS) : Prop :=
  policy.invalid = true ∨ ∀ transport, transports[backendTLSFingerprint p policy client.sum]? = some transport →
    transport = policyTransport client policy

section
variable {b : BackendTable} {conn : Connection}

theorem pickSlot_weight {backends : List BackendTable} {slot : Int} (hs : 0 ≤ slot)
    (h : pickSlot backends slot = some b) : 0 < b.weight := by
  induction backends generalizing slot with
  | nil => cases h
  | cons c backends ih =>
    rw [pickSlot] at h
    split_ifs at h with hneg
    · cases h
      rw [Int32.lt_iff_toInt_lt, Int32.toInt_zero]
      omega
    · exact ih (by omega) h

variable {rule : RuleTable} {mirrors : List Connection}

theorem pickBackend_weight {turn : Routing.Turn} (h : rule.pickBackend turn = some b) : 0 < b.weight := by
  unfold RuleTable.pickBackend pickBucket at h
  split_ifs at h with hzero
  rw [Int64.le_iff_toInt_le, Int64.toInt_zero] at hzero
  exact pickSlot_weight (Int.emod_nonneg _ (by omega)) h

theorem forward_reached {w : Writer} {x : Exchange} (h : forward w rule x = .proxied conn mirrors) :
    conn.backend.valid = true ∧ 0 < conn.backend.weight ∧ conn.backend.tlsInvalid = false ∧
      conn.transport = requestTransport rule conn.backend := by
  obtain ⟨hpick, hvalid, htls, -, htransport, -⟩ := forward_proxied h
  exact ⟨hvalid, pickBackend_weight hpick, htls, htransport⟩

theorem mirror_reached {w : Writer} {x : Exchange} {upstream : Connection} (h : forward w rule x = .proxied upstream mirrors) (hc : conn ∈ mirrors) :
    conn.backend.tlsInvalid = false ∧
      conn.transport = transportOver (cleartext upstream.transport) conn.backend := by
  obtain ⟨-, -, -, -, -, hmirrors⟩ := forward_proxied h
  rw [hmirrors] at hc
  obtain ⟨m, -, htls, -, hbackend, htransport⟩ := mem_fireMirrors hc
  rw [hbackend]
  exact ⟨htls, htransport⟩

theorem connect_reached {index : EndpointsIndex} {turn : Routing.Turn}
    (h : rule.connect index turn = some conn.toTarget) :
    conn.backend.valid = true ∧ 0 < conn.backend.weight :=
  ⟨(connect_eq_some h).2.1, pickBackend_weight (connect_eq_some h).1⟩

theorem transportOver_some {plain : Transport} {transport : TLSTransport}
    (h : b.tlsTransport = some transport) : transportOver plain b = .tls transport := by
  rw [transportOver, h]

end

section
variable (b : BackendTable)

def loneRule (grpc : Bool) (mirrors : List MirrorTable) : RuleTable :=
  ⟨[], [], [b], mirrors, none, grpc, 0, 0, b.weight.toInt64, none, none, none, false⟩

def servingTarget : Target := ⟨b, ⟨"10.0.0.1", 8080⟩⟩

def servingExchange : Exchange :=
  ⟨servingIndex b, ⟨0, 0⟩, true, false, servingIndex b, fun _ => ⟨fun _ => true, 0⟩⟩

def lonePort (tcp : Bool) : PortTable :=
  ⟨"uid", "shop/gw", false, tcp, false, !tcp, false, [⟨"listener", "", some ⟨"cert", "key"⟩, true, none,
    .noClientCert, [⟨"shop", "route", [], 0, [loneRule b false []]⟩]⟩], []⟩

def loneTables (tcp : Bool) : Tables := ⟨GoMap.setAll ∅ [(10000, lonePort b tcp)], ∅⟩

variable {b}

theorem pickBackend_loneRule (hw : 0 < b.weight) (grpc : Bool) (mirrors : List MirrorTable) (backend : ℕ) :
    (loneRule b grpc mirrors).pickBackend ⟨0, backend⟩ = some b := by
  have hpos : (0 : Int) < b.weight.toInt := Int32.lt_iff_toInt_lt.mp hw
  unfold RuleTable.pickBackend pickBucket loneRule
  rw [if_neg (by rw [Int64.le_iff_toInt_le, Int32.toInt_toInt64, Int64.toInt_zero]; omega), pickSlot,
    if_pos (by rw [Nat.cast_zero, Int.zero_emod]; omega)]

theorem connect_loneRule (hv : b.valid = true) (hw : 0 < b.weight) :
    (loneRule b false []).connect (servingIndex b) ⟨0, 0⟩ = some (servingTarget b) := by
  rw [RuleTable.connect, pickBackend_loneRule hw]
  simp only [hv, if_true, pick_servingIndex, Option.map_some]
  rfl

theorem forward_loneRule (hv : b.valid = true) (hw : 0 < b.weight) (ht : b.tlsInvalid = false) (w : Writer)
    (grpc : Bool) (mirrors : List MirrorTable) :
    forward w (loneRule b grpc mirrors) (servingExchange b) =
      .proxied ⟨servingTarget b, requestTransport (loneRule b grpc mirrors) b⟩
        (fireMirrors (servingExchange b) (requestTransport (loneRule b grpc mirrors) b)
          (sampleMirrors (servingExchange b) mirrors)) := by
  have hpick := pick_servingIndex b ⟨0, 0⟩
  unfold forward
  rw [show (servingExchange b).turn = ⟨0, 0⟩ from rfl, pickBackend_loneRule hw]
  dsimp only
  rw [if_neg (not_not_intro hv), if_neg (by rw [ht]; decide),
    show (servingExchange b).index = servingIndex b from rfl, hpick]
  rfl

def plainTwin (b : BackendTable) : BackendTable :=
  ⟨b.ns, b.name, b.port, 1, true, false, [], "", none, false⟩

theorem fireMirrors_twin (ht : b.tlsInvalid = false) (transport : Transport) :
    fireMirrors (servingExchange (plainTwin b)) transport
      (sampleMirrors (servingExchange (plainTwin b)) [⟨b, defaultPercent⟩]) =
        [⟨servingTarget b, transportOver (cleartext transport) b⟩] := by
  have hpick : b.pick (servingIndex (plainTwin b)) ⟨0, 0⟩ = some ⟨"10.0.0.1", 8080⟩ := pick_servingIndex b ⟨0, 0⟩
  simp [fireMirrors, sampleMirrors, servingExchange, ht, hpick, servingTarget]

theorem openTCP_loneTables (hv : b.valid = true) (hw : 0 < b.weight) :
    (loneTables b true).openTCP 10000 (servingIndex b) ⟨0, 0⟩ = some ⟨servingTarget b, .stream⟩ := by
  have hport : (loneTables b true).byPort[(10000 : Int32)]? = some (lonePort b true) := GoMap.get_insert_self ..
  have htarget : l4Target (lonePort b true) (servingIndex b) ⟨0, 0⟩ =
      some (⟨"shop", "route", [], 0, [loneRule b false []]⟩, servingTarget b) := by
    simp [l4Target, l4Route, lonePort, connect_loneRule hv hw]
  rw [Tables.openTCP, Tables.openL4, hport, Option.bind_some, htarget]
  rfl

theorem openTLS_loneTables (hv : b.valid = true) (hw : 0 < b.weight) (sni : String) :
    (loneTables b false).openTLS 10000 sni (servingIndex b) ⟨0, 0⟩ = some ⟨servingTarget b, .stream⟩ := by
  have hport : (loneTables b false).byPort[(10000 : Int32)]? = some (lonePort b false) :=
    GoMap.get_insert_self ..
  have hmatch : (tlsMatch (lonePort b false) sni).map (fun c => (c.rule, c.listener.terminate, c.listener.cert)) =
      some (loneRule b false [], true, some ⟨"cert", "key"⟩) := by
    simp [tlsMatch, lonePort, tlsListener, tlsRoute, tlsRule, hostnameMatches, routeHostnameMatches]
  obtain ⟨c, hc, he⟩ := Option.map_eq_some_iff.mp hmatch
  obtain ⟨hrule, hterm, hcert⟩ : c.rule = loneRule b false [] ∧ c.listener.terminate = true ∧
      c.listener.cert = some ⟨"cert", "key"⟩ := by simpa using he
  have htarget : tlsTarget (lonePort b false) sni (servingIndex b) ⟨0, 0⟩ = some (c, servingTarget b) := by
    rw [tlsTarget, hc]
    simp only [hrule, connect_loneRule hv hw, Option.map_some]
  rw [Tables.openTLS, hport, Option.bind_some, htarget]
  simp [lonePort, hterm, hcert]

end

section
variable {p : Platform} {client : ClientCert} {transports : Transports} {policy : BackendTLS}

def covered (p : Platform) (client : ClientCert) (transports : Transports) (c : BackendTarget)
    (policy : BackendTLS) (filters : List Filter) : BackendTable :=
  (buildBackendTable p client transports { c with tls := some policy } filters).1

/-- Requests want an agreeing cache, unless the backend is never picked; mirrors always want one;
streams are secured only if the backend is never picked. -/
def SecuredWhen (p : Platform) (client : ClientCert) (transports : Transports) (c : BackendTarget)
    (policy : BackendTLS) : Path → Prop
  | .http => c.valid = false ∨ c.weight ≤ 0 ∨ CacheAgrees p client transports policy
  | .grpc => c.valid = false ∨ c.weight ≤ 0 ∨ CacheAgrees p client transports policy
  | .mirror => CacheAgrees p client transports policy
  | .tcp => c.valid = false ∨ c.weight ≤ 0
  | .terminate => c.valid = false ∨ c.weight ≤ 0

theorem not_unpicked {c : BackendTarget} (h : ¬ (c.valid = false ∨ c.weight ≤ 0)) : c.valid = true ∧ 0 < c.weight := by
  rw [not_or, Bool.not_eq_false, Int32.not_le] at h
  exact h

variable {c : BackendTarget} {filters : List Filter} {b : BackendTable}
  (hb : b = covered p client transports c policy filters)
include hb

theorem covered_view : b.valid = c.valid ∧ b.weight = c.weight := by
  rw [hb, covered, buildBackendTable_fst]
  exact ⟨rfl, rfl⟩

theorem covered_tls : b.tlsTransport = (tlsSettings p client transports (some policy)).transport ∧
    b.tlsInvalid = (tlsSettings p client transports (some policy)).invalid := by
  rw [hb, covered, buildBackendTable_fst]
  exact ⟨rfl, rfl⟩

theorem covered_accepted (h : b.tlsInvalid = false) :
    policy.invalid = false ∧ ∃ transport, b.tlsTransport = some transport ∧
      (transports[backendTLSFingerprint p policy client.sum]? = some transport ∨
        transport = policyTransport client policy) := by
  obtain ⟨htransport, hinvalid⟩ := covered_tls hb
  rw [hinvalid] at h
  rw [htransport]
  unfold tlsSettings at h ⊢
  dsimp only at h ⊢
  by_cases hi : policy.invalid = true
  · rw [if_pos hi] at h
    cases h
  · rw [if_neg hi] at h ⊢
    refine ⟨by simpa using hi, ?_⟩
    cases hcache : transports[backendTLSFingerprint p policy client.sum]? with
    | some transport => exact ⟨transport, rfl, .inl rfl⟩
    | none =>
      rw [hcache] at h
      split_ifs at h ⊢
      exact ⟨_, rfl, .inr rfl⟩

theorem covered_cached (hi : policy.invalid = false) {transport : TLSTransport}
    (hcache : transports[backendTLSFingerprint p policy client.sum]? = some transport) :
    b.tlsInvalid = false ∧ b.tlsTransport = some transport := by
  obtain ⟨htransport, hinvalid⟩ := covered_tls hb
  rw [htransport, hinvalid]
  simp [tlsSettings, hi, hcache]

theorem covered_secured (ha : CacheAgrees p client transports policy) (h : b.tlsInvalid = false) (plain : Transport) :
    policy.invalid = false ∧ transportOver plain b = .tls (policyTransport client policy) := by
  obtain ⟨hi, transport, htransport, hfrom⟩ := covered_accepted hb h
  refine ⟨hi, ?_⟩
  rw [transportOver_some htransport]
  rcases hfrom with hcache | rfl
  · rcases ha with ha | ha
    · rw [hi] at ha
      cases ha
    · rw [ha transport hcache]
  · rfl

theorem not_cacheAgrees (ha : ¬ CacheAgrees p client transports policy) (plain : Transport) :
    b.tlsInvalid = false ∧ transportOver plain b ≠ .tls (policyTransport client policy) := by
  rw [CacheAgrees, not_or, Bool.not_eq_true, not_forall] at ha
  obtain ⟨hi, transport, hne⟩ := ha
  rw [Classical.not_imp] at hne
  obtain ⟨htls, htransport⟩ := covered_cached hb hi hne.1
  refine ⟨htls, ?_⟩
  rw [transportOver_some htransport]
  exact fun heq => hne.2 (Transport.tls.inj heq)

theorem unpicked_not_connected (h : c.valid = false ∨ c.weight ≤ 0) {conn : Connection}
    (hc : conn.backend = b) {rule : RuleTable} {index : EndpointsIndex} {turn : Routing.Turn}
    (hconnect : rule.connect index turn = some conn.toTarget) : False := by
  obtain ⟨hvalid, hweight⟩ := covered_view hb
  obtain ⟨hv, hw⟩ := connect_reached hconnect
  rw [hc, hvalid] at hv
  rw [hc, hweight] at hw
  rcases h with h | h
  · rw [hv] at h
    cases h
  · exact Int32.not_le.mpr hw h

theorem secured_request_iff (grpc : Bool) :
    (∀ conn : Connection, conn.backend = b →
      (∃ w rule x mirrors, rule.grpc = grpc ∧ forward w rule x = .proxied conn mirrors) →
        policy.invalid = false ∧ conn.transport = .tls (policyTransport client policy)) ↔
      c.valid = false ∨ c.weight ≤ 0 ∨ CacheAgrees p client transports policy := by
  obtain ⟨hvalid, hweight⟩ := covered_view hb
  constructor
  · intro hs
    rw [← or_assoc]
    refine or_iff_not_imp_left.mpr fun hpicked => ?_
    obtain ⟨hv, hw⟩ := not_unpicked hpicked
    by_contra ha
    obtain ⟨htls, hne⟩ := not_cacheAgrees hb ha (if grpc || b.h2c then .h2c else .http)
    refine hne (hs _ rfl ⟨⟨∅, []⟩, _, _, _, ?_, forward_loneRule (hvalid.trans hv) (by rwa [hweight]) htls _ grpc []⟩).2
    rfl
  · rintro hcond conn hc ⟨w, rule, x, mirrors, -, hf⟩
    obtain ⟨hv, hw, htls, htransport⟩ := forward_reached hf
    rw [hc, hvalid] at hv
    rw [hc, hweight] at hw
    rw [hc] at htls htransport
    have ha : CacheAgrees p client transports policy := by
      rcases hcond with hcond | hcond | hcond
      · rw [hv] at hcond
        cases hcond
      · exact absurd hcond (Int32.not_le.mpr hw)
      · exact hcond
    rw [htransport]
    exact covered_secured hb ha htls _

theorem secured_mirror_iff : Secured .mirror client policy b ↔ CacheAgrees p client transports policy := by
  constructor
  · intro hs
    by_contra ha
    obtain ⟨htls, hne⟩ := not_cacheAgrees hb ha .http
    -- a mirror of a plain backend for the same Service
    have hf := forward_loneRule (b := plainTwin b) rfl (show (0 : Int32) < 1 by decide) rfl ⟨∅, []⟩ false
      [⟨b, defaultPercent⟩]
    rw [fireMirrors_twin htls] at hf
    exact hne (hs _ ⟨rfl, _, _, _, _, _, hf, .head _⟩).2
  · rintro ha conn ⟨hbackend, w, rule, x, upstream, mirrors, hf, hc⟩
    obtain ⟨htls, htransport⟩ := mirror_reached hf hc
    rw [hbackend] at htls htransport
    rw [htransport]
    exact covered_secured hb ha htls _

theorem secured_tcp_iff : Secured .tcp client policy b ↔ c.valid = false ∨ c.weight ≤ 0 := by
  obtain ⟨hvalid, hweight⟩ := covered_view hb
  constructor
  · intro hs
    by_contra hpicked
    obtain ⟨hv, hw⟩ := not_unpicked hpicked
    have hopen := openTCP_loneTables (hvalid.trans hv) (by rwa [hweight])
    cases (hs _ ⟨rfl, _, _, _, _, hopen⟩).2
  · rintro hcond conn ⟨hc, tables, port, index, turn, hopen⟩
    obtain ⟨table, -, m, -, hconnect, -⟩ := openL4_spec hopen
    exact (unpicked_not_connected hb hcond hc hconnect).elim

theorem secured_terminate_iff : Secured .terminate client policy b ↔ c.valid = false ∨ c.weight ≤ 0 := by
  obtain ⟨hvalid, hweight⟩ := covered_view hb
  constructor
  · intro hs
    by_contra hpicked
    obtain ⟨hv, hw⟩ := not_unpicked hpicked
    have hopen := openTLS_loneTables (hvalid.trans hv) (by rwa [hweight]) "shop.example.com"
    cases (hs _ ⟨rfl, _, _, _, _, _, hopen, rfl⟩).2
  · rintro hcond conn ⟨hc, tables, port, sni, index, turn, hopen, -⟩
    obtain ⟨table, -, m, -, hconnect, -⟩ := openTLS_spec hopen
    exact (unpicked_not_connected hb hcond hc hconnect).elim

end

/-- A backend under a policy is spoken to as it says on the paths of requests and mirrors, with an
agreeing cache; on those of streams only if it is never spoken to. -/
theorem secured_iff (p : Platform) (client : ClientCert) (transports : Transports) (c : BackendTarget)
    (policy : BackendTLS) (filters : List Filter) (path : Path) :
    Secured path client policy
        (buildBackendTable p client transports { c with tls := some policy } filters).1 ↔
      SecuredWhen p client transports c policy path := by
  cases path with
  | http =>
    refine Iff.trans ⟨fun h conn hb hr => h conn ⟨hb, hr⟩, fun h conn hr => h conn hr.1 hr.2⟩
      (secured_request_iff rfl false)
  | grpc =>
    refine Iff.trans ⟨fun h conn hb hr => h conn ⟨hb, hr⟩, fun h conn hr => h conn hr.1 hr.2⟩
      (secured_request_iff rfl true)
  | mirror => exact secured_mirror_iff rfl
  | tcp => exact secured_tcp_iff rfl
  | terminate => exact secured_terminate_iff rfl

/-! A TCP route to a Service with a policy, accepted or rejected. -/

def ordersPolicy (invalid : Bool) : BackendTLS := ⟨"orders.internal", "bundle", false, invalid, []⟩

def policyWorld (invalid : Bool) : Snapshot :=
  { bankWorld with
    backendTLS := GoMap.setAll ∅ [("shop/orders", [⟨some (ordersPolicy invalid), "", false⟩])] }

def ordersRoute : Route :=
  .tcp ⟨⟨"route", "shop", "orders", 0⟩, [[⟨⟨none, none, none, "orders", some 5432⟩, none⟩]]⟩

def ordersTarget : BackendTarget := ⟨"shop", "orders", 5432, 1, true, "", "", none⟩

def ordersConfig (invalid : Bool) : RouteConfig where
  uid := "route"
  ns := "shop"
  name := "orders"
  listeners := ["tcp"]
  hostnames := []
  created := 0
  grpc := false
  rules := [⟨[], [], [⟨{ ordersTarget with tls := some (ordersPolicy invalid) }, []⟩], 0, 0, none, "", false, ""⟩]

def ordersEntry (invalid : Bool) : BackendTable :=
  (buildBackendTable .trusting ⟨none, ""⟩ ∅ { ordersTarget with tls := some (ordersPolicy invalid) } []).1

def ordersTable (invalid : Bool) : GatewayTable where
  generation := "g1"
  byPort := GoMap.setAll ∅ [(10000, ⟨"uid", "shop/gw", false, true, false, false, false,
    [⟨"tcp", "", none, false, none, .noClientCert, [⟨"shop", "orders", [], 0,
      [loneRule (ordersEntry invalid) false []]⟩]⟩], []⟩)]
  namespaces := GoMap.setAll ∅ [("shop", true)]

def DialledInCleartext (invalid : Bool) : Prop :=
  (ordersRoute.attach noDocuments .trusting (policyWorld invalid) (.small [] none) [tcpListener]
    ⟨none, none, none, "gw", none, none⟩).1.config = some (ordersConfig invalid) ∧
  buildGatewayTable .trusting "g1"
      (compileGatewayConfig (.small [] none) ⟨[], []⟩ [tcpListener] ⟨none, true, .resolvedRefs, ""⟩)
      [ordersConfig invalid] none none = .ok (ordersTable invalid) ∧
  (mergeTables [ordersTable invalid]).openTCP 10000 (servingIndex (ordersEntry invalid)) ⟨0, 0⟩ =
    some ⟨servingTarget (ordersEntry invalid), .stream⟩

theorem dialledInCleartext (invalid : Bool) : DialledInCleartext invalid := by
  refine ⟨?_, ?_, ?_⟩
  · cases invalid <;> decide
  · cases invalid <;> decide
  · cases invalid <;> decide

theorem stream_ignores_policy :
    (DialledInCleartext false ∧ ¬ Secured .tcp ⟨none, ""⟩ (ordersPolicy false) (ordersEntry false)) ∧
    (DialledInCleartext true ∧ ¬ Secured .tcp ⟨none, ""⟩ (ordersPolicy true) (ordersEntry true)) := by
  have hunsecured : ∀ invalid, ¬ Secured .tcp ⟨none, ""⟩ (ordersPolicy invalid) (ordersEntry invalid) := by
    intro invalid hs
    cases (hs _ ⟨rfl, _, _, _, _, (dialledInCleartext invalid).2.2⟩).2
  exact ⟨⟨dialledInCleartext false, hunsecured false⟩, ⟨dialledInCleartext true, hunsecured true⟩⟩

end Krouter.ControlPlane
