import Krouter.Proxy.Serve
import Krouter.Routing.Origin
import Krouter.Routing.Precedence

/-! The authentication gate on the request path, and the request that the chain hands on: the client's
own, or with the identity headers of the identity that was admitted in place of its own. -/

namespace Krouter.Proxy
open Compiled Auth Http GoString Routing

def Admitted (env : Environment) (rule : RuleTable) (r : Request) : Prop :=
  ∃ e, rule.authEnforcer = some e ∧ ∃ decision cookies,
    (e.evaluate env.providers r rule.grpc).1 = some (decision, cookies) ∧ decision.allowed = true

namespace Outcome

def served : Outcome → Bool
  | redirect .. => true
  | forward .. => true
  | _ => false

def isPreflight : Outcome → Bool
  | preflight .. => true
  | _ => false

def rejectedBy (extension : Extension) : Outcome → Bool
  | rejected enforced => enforced.extension = some extension
  | _ => false

/-- The outcome was produced before the authentication step let the request pass. -/
def beforeGate : Outcome → Bool
  | misdirected => true
  | authEndpoint _ => true
  | unimplemented => true
  | notFound => true
  | rejected enforced => enforced.extension ≠ some .waf
  | _ => false

end Outcome

section
variable {env : Environment} {rule : RuleTable} {r : Request} {clientIP : String}

def identityHeaders : List String := [headerUser, headerEmail, headerGroups]

variable {name : String} {r' : Request}

theorem values_stripIdentity (h : ∀ n ∈ identityHeaders, canonicalKey n ≠ canonicalKey name) :
    (Enforcer.stripIdentity r).header.values name = r.header.values name := by
  rw [Enforcer.stripIdentity, Header.values_del_of_ne (h _ (by decide)),
    Header.values_del_of_ne (h _ (by decide)), Header.values_del_of_ne (h _ (by decide))]

theorem values_apply {identity : Identity} {header : Header}
    (h : ∀ n ∈ identityHeaders, canonicalKey n ≠ canonicalKey name) :
    (identity.apply header).values name = header.values name := by
  have hset : ∀ (p : Prop) [Decidable p] (hd : Header) (n value : String), n ∈ identityHeaders →
      (if p then hd.set n value else hd).values name = hd.values name := by
    intro p _ hd n value hn
    split_ifs
    · exact Header.values_set_of_ne (h n hn)
    · rfl
  rw [Identity.apply, hset _ _ _ _ (by decide), hset _ _ _ _ (by decide), hset _ _ _ _ (by decide)]

def identified (identity : Identity) (r : Request) : Request :=
  let stripped := Enforcer.stripIdentity r
  { stripped with header := identity.apply stripped.header }

/-- The request of a client as a rule hands it on. -/
inductive Passed (env : Environment) (rule : RuleTable) (r : Request) : Request → Prop where
  | unguarded : rule.authEnforcer = none → Passed env rule r r
  | admitted {e : Enforcer} {decision : Decision} {cookies : List SetCookie} {identity : Identity} :
      rule.authEnforcer = some e →
      (e.evaluate env.providers r rule.grpc).1 = some (decision, cookies) →
      decision.allowed = true → decision.identity = some identity →
      Passed env rule r (identified identity r)

theorem Passed.values (h : Passed env rule r r') (hn : ∀ n ∈ identityHeaders, canonicalKey n ≠ canonicalKey name) :
    r'.header.values name = r.header.values name := by
  cases h with
  | unguarded => rfl
  | admitted => exact (values_apply hn).trans (values_stripIdentity hn)

theorem Passed.isUpgrade (h : Passed env rule r r') : isUpgrade r' = isUpgrade r := by
  have hupgrade : r'.header.values "Upgrade" = r.header.values "Upgrade" := h.values (by decide)
  have hconnection : r'.header.values "Connection" = r.header.values "Connection" :=
    h.values (by decide)
  rw [Proxy.isUpgrade, Proxy.isUpgrade, Header.get, Header.get, hupgrade, hconnection]

theorem Passed.admitted_of {e : Enforcer} (h : Passed env rule r r')
    (he : rule.authEnforcer = some e) : Admitted env rule r := by
  cases h with
  | unguarded hnone => rw [hnone] at he; cases he
  | admitted he' hdecided hallowed _ => exact ⟨_, he', _, _, hdecided, hallowed⟩

variable {w : Writer} {grpcRule : Bool} {x : Enforced} {e : Enforcer} {a : Authenticated}

theorem deny_status {httpStatus : Int} {grpcCode message : String} {d : Int × Response}
    (h : deny w grpcRule httpStatus grpcCode message = some d) : d.1 ≠ 0 := by
  unfold deny at h
  split_ifs at h with hg hv
  · cases h
    exact (by decide : (200 : Int) ≠ 0)
  · cases h
    intro h0
    rw [show httpStatus = 0 from h0] at hv
    exact absurd hv (by decide)

theorem rejected_spec {extension : Extension} {wafRule : Int} {r : Request} {httpStatus : Int}
    {grpcCode message : String}
    (h : rejected extension wafRule w r (deny w grpcRule httpStatus grpcCode message) = some x) :
    x.status ≠ 0 ∧ x.extension = some extension := by
  obtain ⟨d, hd, rfl⟩ := Option.map_eq_some_iff.mp h
  exact ⟨deny_status hd, rfl⟩

theorem serveAuth_passed
    (he : rule.authEnforcer = some e) (h : serveAuth env w r e rule.grpc = some a)
    (h0 : a.status = 0) : Passed env rule r a.request ∧ a.writer.header = w.header := by
  have hreq : (e.evaluate env.providers r rule.grpc).2 = Enforcer.stripIdentity r := rfl
  unfold serveAuth at h
  cases hev : e.evaluate env.providers r rule.grpc with
  | mk decided request =>
    rw [hev] at h hreq
    obtain rfl : request = Enforcer.stripIdentity r := hreq
    cases decided with
    | none => cases h
    | some decided =>
      obtain ⟨decision, cookies⟩ := decided
      dsimp only at h
      split_ifs at h with hallowed hredirect hcode
      · obtain ⟨identity, hidentity, rfl⟩ := Option.map_eq_some_iff.mp h
        exact ⟨.admitted he (by rw [hev]) hallowed hidentity, rfl⟩
      · cases h
        rw [show decision.status = 0 from h0] at hcode
        exact absurd hcode (by decide)
      · obtain ⟨d, hd, rfl⟩ := Option.map_eq_some_iff.mp h
        exact absurd h0 (deny_status hd)

theorem authenticate_passed
    (h : authenticate env w r rule = some a) (h0 : a.status = 0) :
    (Passed env rule r a.request ∨
      rule.cors.isSome = true ∧ isCORSPreflight r = true ∧ a.request = r) ∧ a.writer.header = w.header := by
  unfold authenticate at h
  cases he : rule.authEnforcer with
  | none =>
    rw [he] at h
    cases h
    exact ⟨.inl (.unguarded he), rfl⟩
  | some e =>
    rw [he] at h
    split_ifs at h with hskip
    · exact (serveAuth_passed he h h0).imp_left .inl
    · cases h
      refine ⟨.inr ?_, rfl⟩
      cases hcors : rule.cors <;> simp_all

theorem inspectRequest_spec (h : inspectRequest env a rule clientIP = some x) :
    (x.status = 0 ∧ x.request = a.request ∧ x.writer = a.writer ∧ ∀ program, rule.wafEngine = some program →
      env.inspect program a.request clientIP (isUpgrade a.request) = .ok none) ∨
    x.status ≠ 0 ∧ x.extension = some .waf := by
  unfold inspectRequest at h
  split at h
  · rename_i hnone
    cases h
    exact .inl ⟨rfl, rfl, rfl, fun program hp => by rw [hnone] at hp; cases hp⟩
  · rename_i engine hengine
    split at h
    · exact .inr (rejected_spec h)
    · exact .inr (rejected_spec h)
    · rename_i hinspect
      cases h
      refine .inl ⟨rfl, rfl, rfl, fun program hp => ?_⟩
      rw [← Option.some.inj (hengine.symm.trans hp), hinspect]

/-- The chain answers before the firewall, or the request got past authentication and the firewall let it
through or rejected it. -/
theorem serveExtensions_spec (h : serveExtensions env w r rule clientIP = some x) :
    x.status ≠ 0 ∧ x.extension ≠ some .waf ∨ ∃ a, authenticate env w r rule = some a ∧ a.status = 0 ∧
      ((x.status = 0 ∧ x.request = a.request ∧ x.writer = a.writer ∧ ∀ program, rule.wafEngine = some program →
        env.inspect program a.request clientIP (isUpgrade a.request) = .ok none) ∨
      x.status ≠ 0 ∧ x.extension = some .waf) := by
  unfold serveExtensions at h
  split_ifs at h with hinvalid
  · obtain ⟨hs, hx⟩ := rejected_spec h
    exact .inl ⟨hs, by rw [hx]; decide⟩
  · split at h
    · obtain ⟨hs, hx⟩ := rejected_spec h
      exact .inl ⟨hs, by rw [hx]; decide⟩
    · obtain ⟨a, ha, h⟩ := Option.bind_eq_some_iff.mp h
      split_ifs at h with hs
      · cases h
        exact .inl ⟨hs, (by decide : some Extension.auth ≠ some .waf)⟩
      · exact .inr ⟨a, ha, not_not.mp hs, inspectRequest_spec h⟩

theorem serveExtensions_passed (h : serveExtensions env w r rule clientIP = some x) (h0 : x.status = 0) :
    (Passed env rule r x.request ∨
      rule.cors.isSome = true ∧ isCORSPreflight r = true ∧ x.request = r) ∧ x.writer.header = w.header ∧
      ∀ program, rule.wafEngine = some program →
        env.inspect program x.request clientIP (isUpgrade x.request) = .ok none := by
  obtain ⟨hs, -⟩ | ⟨a, ha, ha0, ⟨-, hreq, hwriter, hinspect⟩ | ⟨hs, -⟩⟩ := serveExtensions_spec h
  · exact absurd h0 hs
  · obtain ⟨hpassed, hheader⟩ := authenticate_passed ha ha0
    rw [hreq, hwriter]
    exact ⟨hpassed, hheader, hinspect⟩
  · exact absurd h0 hs

theorem serve_passed {tables : Tables} {port : Int32} {withTLS withTLS' trusted : Bool}
    (h : serve env tables port withTLS r = some (.forward w r' rule withTLS' trusted)) :
    Passed env rule r r' ∧ ∀ program, rule.wafEngine = some program →
      env.inspect program r' (clientAddress env tables port r) (isUpgrade r') = .ok none := by
  obtain ⟨c, x, trusted', -, hx, h0, hd, hhanded⟩ := serve_handed h rfl
  obtain ⟨hpassed, -, hinspect⟩ := serveExtensions_passed hx h0
  obtain ⟨rfl, rfl⟩ := Prod.mk.inj hhanded
  unfold dispatch at hd
  rw [if_pos h0] at hd
  split at hd
  · cases hd
  · rename_i hpre
    split at hd <;> cases hd
    refine ⟨hpassed.resolve_right ?_, hinspect⟩
    rintro ⟨hcors, hflight, hreq⟩
    obtain ⟨cors, hcors⟩ := Option.isSome_iff_exists.mp hcors
    exact hpre cors hcors (by rw [hreq, hflight])

def failClosed (rule : RuleTable) (r : Request) : Enforced :=
  let answer := if rule.grpc then Answer.grpcStatus grpcInternal "invalid route extension"
    else .error 500 "invalid route extension"
  ⟨if rule.grpc then 200 else 500, some .extensionref, 0, "", some ⟨⟨∅, []⟩, answer⟩, ⟨∅, []⟩, r⟩

theorem serveExtensions_invalid (h : rule.extensionsInvalid = true) :
    serveExtensions env ⟨∅, []⟩ r rule clientIP = some (failClosed rule r) := by
  rw [serveExtensions, if_pos h, rejected, deny, failClosed]
  cases rule.grpc <;> rfl

end

/-! ## The gate -/

theorem failClosed_status (rule : RuleTable) (r : Request) : (failClosed rule r).status ≠ 0 := by
  change (if rule.grpc then (200 : Int) else 500) ≠ 0
  split_ifs <;> decide

theorem serve_matched (env : Environment) {tables : Tables} {port : Int32} {withTLS : Bool}
    {r : Request} {c : Matched} (hmis : isMisdirected tables port withTLS r = false)
    (hend : tables.authEndpoint port (GoNet.hostOnly r.host) r.path = [])
    (hc : tables.matchRequest port (GoNet.hostOnly r.host) r = some c) :
    ∃ clientIP trustedPeer, serve env tables port withTLS r =
      (serveExtensions env ⟨∅, []⟩ r c.rule clientIP).map fun enforced =>
        dispatch enforced c.rule withTLS trustedPeer := by
  unfold serve
  dsimp only
  rw [hmis, if_neg (by decide), hend, if_neg (not_not_intro rfl), hc]
  exact ⟨_, _, rfl⟩

theorem serve_unmatched {env : Environment} {tables : Tables} {port : Int32} {withTLS : Bool}
    {r : Request} {outcome : Outcome} (h : serve env tables port withTLS r = some outcome)
    (hor : isMisdirected tables port withTLS r = true ∨
      tables.authEndpoint port (GoNet.hostOnly r.host) r.path ≠ []) :
    outcome.served = false ∧ outcome.beforeGate = true := by
  unfold serve at h
  dsimp only at h
  by_cases hmis : isMisdirected tables port withTLS r = true
  · rw [if_pos hmis] at h
    cases h
    exact ⟨rfl, rfl⟩
  · rw [if_neg hmis, if_pos (hor.resolve_left hmis)] at h
    cases h
    exact ⟨rfl, rfl⟩

variable {x : Enforced} {rule : RuleTable} {withTLS trustedPeer : Bool}

theorem dispatch_rejected (h : x.status ≠ 0) : dispatch x rule withTLS trustedPeer = .rejected x := if_neg h

theorem dispatch_preflight (withTLS trustedPeer : Bool) (h : x.status = 0) (hc : rule.cors.isSome = true)
    (hp : isCORSPreflight x.request = true) : (dispatch x rule withTLS trustedPeer).isPreflight = true := by
  obtain ⟨cors, hcors⟩ := Option.isSome_iff_exists.mp hc
  rw [dispatch, if_pos h, hcors, hp]
  rfl

theorem served_dispatch (h : (dispatch x rule withTLS trustedPeer).isPreflight = true) :
    (dispatch x rule withTLS trustedPeer).served = false := by
  revert h
  generalize dispatch x rule withTLS trustedPeer = outcome
  cases outcome <;> simp [Outcome.isPreflight, Outcome.served]

theorem dispatch_spec {env : Environment} {r : Request} {clientIP : String} {w : Writer} {e : Enforcer}
    (he : rule.authEnforcer = some e) (h : serveExtensions env w r rule clientIP = some x) :
    ((dispatch x rule withTLS trustedPeer).served = true → Admitted env rule r) ∧
      ((dispatch x rule withTLS trustedPeer).beforeGate = true ∨ Admitted env rule r ∨
        rule.cors.isSome = true ∧ isCORSPreflight r = true ∧
          ((dispatch x rule withTLS trustedPeer).isPreflight = true ∨
            (dispatch x rule withTLS trustedPeer).rejectedBy .waf = true)) := by
  obtain ⟨hs, hx⟩ | ⟨a, ha, ha0, hout⟩ := serveExtensions_spec h
  · rw [dispatch_rejected hs]
    exact ⟨fun hserved => (by cases hserved), .inl (decide_eq_true hx)⟩
  · obtain ⟨hpassed | ⟨hcors, hpre, hreq⟩, -⟩ := authenticate_passed ha ha0
    · exact ⟨fun _ => hpassed.admitted_of he, .inr (.inl (hpassed.admitted_of he))⟩
    · rcases hout with ⟨h0, hreq', -⟩ | ⟨hs, hx⟩
      · have hp := dispatch_preflight withTLS trustedPeer h0 hcors (by rw [hreq', hreq, hpre])
        refine ⟨fun hserved => ?_, .inr (.inr ⟨hcors, hpre, .inl hp⟩)⟩
        rw [served_dispatch hp] at hserved
        cases hserved
      · rw [dispatch_rejected hs]
        exact ⟨fun hserved => (by cases hserved),
          .inr (.inr ⟨hcors, hpre, .inr (decide_eq_true hx)⟩)⟩

section
variable {p : Platform} {generation : String} {gateway : GatewayConfig} {routes : List RouteConfig}
  {secret : Option SecretData} {previous : Option GatewayTable} {table : GatewayTable}

theorem matched_compiledFrom
    (hb : buildGatewayTable p generation gateway routes secret previous = .ok table)
    {tables : Tables} {port : Int32} (hport : tables.byPort[port]? = table.byPort[port]?)
    {host : String} {r : Request} {c : Matched} (hc : tables.matchRequest port host r = some c) :
    ∃ route ∈ routes, ∃ rule ∈ route.rules, CompiledFrom p secret route rule c.rule := by
  obtain ⟨pt, hpt, hmem⟩ := Tables.mem_tableOrder_of_matchRequest hc
  obtain ⟨hl, hr, hrule⟩ := mem_tableOrder.mp hmem
  rw [hport] at hpt
  exact buildGatewayTable_origin hb hpt c.listener hl c.route hr c.rule hrule

/-- A request for a rule with authentication is forwarded or redirected only if the enforcer of its document
allowed it; a rule without its enforcer or with broken extensions answers its fail-closed error; and past
authentication there are otherwise only preflights, answered by the gateway or rejected. -/
theorem serve_authenticated (p : Platform) (generation : String) (gateway : GatewayConfig)
    (routes : List RouteConfig) (secret : Option SecretData) (previous : Option GatewayTable)
    (table : GatewayTable)
    (hb : buildGatewayTable p generation gateway routes secret previous = .ok table)
    (env : Environment) (tables : Tables) (port : Int32)
    (hport : tables.byPort[port]? = table.byPort[port]?) (withTLS : Bool) (r : Request) (c : Matched)
    (hc : tables.matchRequest port (GoNet.hostOnly r.host) r = some c) :
    (∃ route ∈ routes, ∃ rule ∈ route.rules, CompiledFrom p secret route rule c.rule) ∧
    ∀ route ∈ routes, ∀ rule ∈ route.rules, CompiledFrom p secret route rule c.rule →
      rule.auth ≠ "" →
      (∀ outcome, serve env tables port withTLS r = some outcome →
        (outcome.served = true → Admitted env c.rule r ∧
          ∃ e, buildAuthEnforcer p rule.auth secret = .ok e ∧ c.rule.authEnforcer = some e) ∧
        (outcome.beforeGate = true ∨ Admitted env c.rule r ∨
          c.rule.cors.isSome = true ∧ isCORSPreflight r = true ∧
            (outcome.isPreflight = true ∨ outcome.rejectedBy .waf = true))) ∧
      ((c.rule.extensionsInvalid = true ∨ rule.extensionsInvalid = true ∨
          ∀ e, buildAuthEnforcer p rule.auth secret ≠ .ok e) →
        isMisdirected tables port withTLS r = false →
        tables.authEndpoint port (GoNet.hostOnly r.host) r.path = [] →
        serve env tables port withTLS r = some (.rejected (failClosed c.rule r))) := by
  refine ⟨matched_compiledFrom hb hport hc, fun route _ rule _ hfrom hauth => ⟨?_, ?_⟩⟩
  · intro outcome ho
    by_cases hor : isMisdirected tables port withTLS r = true ∨
        tables.authEndpoint port (GoNet.hostOnly r.host) r.path ≠ []
    · obtain ⟨hserved, hgate⟩ := serve_unmatched ho hor
      exact ⟨fun hs => absurd (hserved.symm.trans hs) (by decide), Or.inl hgate⟩
    · rw [not_or, Bool.not_eq_true, not_not] at hor
      obtain ⟨clientIP, trustedPeer, hserve⟩ := serve_matched env hor.1 hor.2 hc
      rw [hserve] at ho
      obtain ⟨x, hx, rfl⟩ := Option.map_eq_some_iff.mp ho
      rcases hfrom.enforcer_or_invalid hauth with ⟨e, hbuild, he⟩ | hinvalid
      · obtain ⟨hserved, hgate⟩ := dispatch_spec he hx
        exact ⟨fun hs => ⟨hserved hs, e, hbuild, he⟩, hgate⟩
      · rw [serveExtensions_invalid hinvalid] at hx
        cases hx
        rw [dispatch_rejected (failClosed_status c.rule r)]
        exact ⟨fun hs => (by cases hs), Or.inl rfl⟩
  · intro hbad hmis hend
    obtain ⟨clientIP, trustedPeer, hserve⟩ := serve_matched env hmis hend hc
    rw [hserve, serveExtensions_invalid (hfrom.invalid_of hauth hbad), Option.map_some,
      dispatch_rejected (failClosed_status c.rule r)]

end

/-! ## A preflight that the firewall rejects -/

def cartAuth : Auth :=
  ⟨"aaaaaaaaaaaa", "/_auth", none, none, none, none, some ⟨"https://issuer", ["shop"], ""⟩, []⟩

def corsFilter : Filter :=
  ⟨filterCORS, ∅, ∅, [], some ⟨["*"], [], [], [], false, 0⟩, "", "", 0, 0, "", "", "", none, none⟩

def cartRule : Rule := ⟨[], [corsFilter], [], 0, 0, none, "SecRuleEngine On", false, "aaaaaaaaaaaa"⟩

def cartRoute : RouteConfig := ⟨"r", "shop", "cart", ["web"], [], 0, false, [cartRule]⟩

def cartGateway : GatewayConfig :=
  ⟨"g", "shop", "gateway", [⟨"web", 80, 10000, "HTTP", "", false, "", false⟩], false, []⟩

def cartSecret : SecretData :=
  (∅ : SecretData).insert (authSecretKey "aaaaaaaaaaaa") (authCodec.marshal cartAuth)

def cartBuild : Except String GatewayTable :=
  buildGatewayTable .trusting "gen1" cartGateway [cartRoute] (some cartSecret) none

def cartTable : GatewayTable := cartBuild.toOption.getD ⟨"", ∅, ∅⟩

theorem cartBuild_eq : cartBuild = .ok cartTable := by
  have hok : cartBuild.toBool = true := by decide
  unfold cartTable
  cases h : cartBuild with
  | ok table => rfl
  | error err =>
    rw [h] at hok
    cases hok

def cartTables : Tables := mergeTables [cartTable]

def strictEnvironment : Environment where
  providers := ⟨0, [], [], [], fun _ => none, fun _ _ => .error .rejected,
    fun _ _ _ => .error .rejected, fun _ _ => .error .rejected⟩
  resolve := fun _ r => (r.remoteAddr, false)
  allow := fun _ _ => (true, 0)
  inspect := fun _ _ _ _ => .ok (some ⟨0, 942100⟩)

def preflightRequest : Request :=
  ⟨"OPTIONS", "shop.example.com", "/cart", "/cart", ∅,
    Header.set (Header.set ∅ "Origin" "https://app") "Access-Control-Request-Method" "GET", [],
    "192.0.2.1:4000", none⟩

theorem cartTables_port : cartTables.byPort[(10000 : Int32)]? = cartTable.byPort[(10000 : Int32)]? := by
  decide +kernel

theorem cart_matched : ∃ c, cartTables.matchRequest 10000 (GoNet.hostOnly preflightRequest.host)
    preflightRequest = some c ∧ ¬ Admitted strictEnvironment c.rule preflightRequest := by
  have hall : (cartTables.matchRequest 10000 (GoNet.hostOnly preflightRequest.host)
      preflightRequest).any (fun c => c.rule.authEnforcer.all fun e =>
        (e.evaluate strictEnvironment.providers preflightRequest c.rule.grpc).1.all
          fun d => !d.1.allowed) = true := by
    decide
  cases hc : cartTables.matchRequest 10000 (GoNet.hostOnly preflightRequest.host) preflightRequest with
  | none =>
    rw [hc] at hall
    cases hall
  | some c =>
    rw [hc, Option.any_some] at hall
    refine ⟨c, rfl, ?_⟩
    rintro ⟨e, he, decision, cookies, hd, hallowed⟩
    rw [he, Option.all_some, hd, Option.all_some, hallowed] at hall
    cases hall

theorem preflight_rejected_by_firewall :
    ¬ ∀ (p : Platform) (generation : String) (gateway : GatewayConfig) (routes : List RouteConfig)
      (secret : Option SecretData) (previous : Option GatewayTable) (table : GatewayTable)
      (env : Environment) (tables : Tables) (port : Int32) (withTLS : Bool) (r : Request)
      (c : Matched), buildGatewayTable p generation gateway routes secret previous = .ok table →
      tables.byPort[port]? = table.byPort[port]? →
      tables.matchRequest port (GoNet.hostOnly r.host) r = some c →
      ∀ route ∈ routes, ∀ rule ∈ route.rules, CompiledFrom p secret route rule c.rule →
        rule.auth ≠ "" → ∀ outcome, serve env tables port withTLS r = some outcome →
          outcome.beforeGate = true ∨ Admitted env c.rule r ∨ outcome.isPreflight = true := by
  intro h
  obtain ⟨c, hc, hnot⟩ := cart_matched
  obtain ⟨route, hroute, rule, hrule, hfrom⟩ := matched_compiledFrom cartBuild_eq cartTables_port hc
  obtain rfl := List.mem_singleton.mp hroute
  obtain rfl := List.mem_singleton.mp hrule
  have hserve : (serve strictEnvironment cartTables 10000 false preflightRequest).any
      (fun outcome => !outcome.beforeGate && !outcome.isPreflight) = true := by
    decide +kernel
  cases ho : serve strictEnvironment cartTables 10000 false preflightRequest with
  | none =>
    rw [ho] at hserve
    cases hserve
  | some outcome =>
    rw [ho, Option.any_some, Bool.and_eq_true, Bool.not_eq_true', Bool.not_eq_true'] at hserve
    rcases h _ _ _ _ _ _ _ _ _ _ _ _ c cartBuild_eq cartTables_port hc _ hroute _ hrule hfrom
      (by decide) outcome ho with hb | ha | hp
    · rw [hserve.1] at hb
      cases hb
    · exact hnot ha
    · rw [hserve.2] at hp
      cases hp

theorem cart_preflight_not_served : ∃ c, cartTables.matchRequest 10000
    (GoNet.hostOnly preflightRequest.host) preflightRequest = some c ∧
      ∀ outcome, serve strictEnvironment cartTables 10000 false preflightRequest = some outcome →
        outcome.served = false := by
  obtain ⟨c, hc, hnot⟩ := cart_matched
  obtain ⟨⟨route, hroute, rule, hrule, hfrom⟩, hgate⟩ := serve_authenticated .trusting "gen1"
    cartGateway [cartRoute] (some cartSecret) none cartTable cartBuild_eq strictEnvironment cartTables
    10000 cartTables_port false preflightRequest c hc
  refine ⟨c, hc, fun outcome ho => ?_⟩
  have hauth : rule.auth ≠ "" := by
    obtain rfl := List.mem_singleton.mp hroute
    obtain rfl := List.mem_singleton.mp hrule
    decide
  have hserved := ((hgate route hroute rule hrule hfrom hauth).1 outcome ho).1
  cases hs : outcome.served with
  | false => rfl
  | true => exact absurd (hserved hs).1 hnot

end Krouter.Proxy
