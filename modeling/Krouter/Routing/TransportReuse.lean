import Krouter.Lib.Runs
import Krouter.Routing.TransportKeys

/-! Transports across the rebuilds of a table. A backend may get one made for another backend or an earlier
table; where the keys tell policies apart it is its own policy's. -/

namespace Krouter.Routing
open Compiled

section
variable {p : Platform} {S : Set String} {cert : Option Certificate}

variable (p cert) in
def freshEntry (backend : BackendTarget) (filters : List Filter) : BackendTable :=
  (buildBackendTable p (.of p cert) ∅ backend filters).1

variable (p cert) in
def ownTransport (backend : BackendTarget) : Option TLSTransport :=
  backend.tls.bind fun policy =>
    if policy.invalid ∨ (caSource policy).all p.appendCertsFromPEM = false then none
    else some (policyTransport (.of p cert) policy)

variable (S cert) in
/-- The key tells the policy of the backend apart. -/
def Told (backend : BackendTarget) : Prop :=
  ∀ policy, backend.tls = some policy → policy.invalid = false → Delimited policy ∧ summed policy cert ⊆ S

theorem usable_iff (policy : BackendTLS) :
    (caSource policy).all p.appendCertsFromPEM = true ↔ ¬ (¬ policy.systemCAs ∧ ¬ p.appendCertsFromPEM policy.caPem) := by
  unfold caSource
  cases policy.systemCAs <;> simp

variable {backend : BackendTarget} {routes : List RouteConfig} {table : GatewayTable}

theorem freshEntry_some {policy : BackendTLS} (filters : List Filter)
    (htls : backend.tls = some policy) (hvalid : policy.invalid = false)
    (husable : (caSource policy).all p.appendCertsFromPEM = true) :
    freshEntry p cert backend filters = { plainBackend backend filters with
      tlsKey := backendTLSFingerprint p policy (clientSum p cert)
      tlsTransport := some (policyTransport (.of p cert) policy) } := by
  unfold freshEntry buildBackendTable
  rw [htls]
  dsimp only
  rw [if_neg (by rw [hvalid]; exact Bool.false_ne_true), GoMap.get_empty]
  rw [if_neg ((usable_iff policy).mp husable)]
  rfl

theorem freshEntry_transport (backend : BackendTarget) (filters : List Filter) :
    (freshEntry p cert backend filters).tlsTransport = ownTransport p cert backend := by
  unfold ownTransport
  cases htls : backend.tls with
  | none =>
    unfold freshEntry buildBackendTable
    rw [htls]
    rfl
  | some policy =>
    rw [Option.bind_some]
    cases hvalid : policy.invalid with
    | true =>
      unfold freshEntry buildBackendTable
      rw [htls]
      simp [hvalid, plainBackend]
    | false =>
      cases husable : (caSource policy).all p.appendCertsFromPEM with
      | true =>
        rw [freshEntry_some filters htls hvalid husable]
        simp
      | false =>
        have hbad := (usable_iff (p := p) policy).not.mp (by rw [husable]; exact Bool.false_ne_true)
        unfold freshEntry buildBackendTable
        rw [htls]
        dsimp only
        rw [if_neg (by rw [hvalid]; exact Bool.false_ne_true), GoMap.get_empty]
        rw [if_pos (not_not.mp hbad), if_pos (.inr rfl)]
        rfl

theorem buildBackendTable_of_cached (hhex : HexSums p.sum256) (hS : Set.InjOn p.sum256 S) {transports : Transports}
    (hc : Cached p S cert transports) (htold : Told S cert backend) (filters : List Filter) :
    (buildBackendTable p (.of p cert) transports backend filters).1 = freshEntry p cert backend filters ∧
      Cached p S cert (buildBackendTable p (.of p cert) transports backend filters).2 := by
  unfold freshEntry buildBackendTable
  cases htls : backend.tls with
  | none => exact ⟨rfl, hc⟩
  | some policy =>
    dsimp only
    by_cases hinvalid : policy.invalid = true
    · rw [if_pos hinvalid, if_pos hinvalid]
      exact ⟨rfl, hc⟩
    obtain ⟨hd, hin⟩ := htold policy htls (Bool.eq_false_iff.mpr hinvalid)
    rw [if_neg hinvalid, if_neg hinvalid, GoMap.get_empty]
    cases hcached : transports[backendTLSFingerprint p policy (ClientCert.of p cert).sum]? with
    | some transport =>
      obtain ⟨rfl, husable⟩ := hc.lookup hhex hS hd hin hcached
      dsimp only
      rw [if_neg ((usable_iff policy).mp husable)]
      exact ⟨rfl, hc⟩
    | none =>
      dsimp only
      split
      · exact ⟨rfl, hc⟩
      · next hgood => exact ⟨rfl, hc.insert hd hin ((usable_iff policy).mpr hgood)⟩

/-! ## Rules -/

def mirrorTargets (filters : List Filter) : List BackendTarget :=
  filters.filterMap fun filter => if filter.type = filterRequestMirror then filter.mirror else none

def targets (rule : Rule) : List BackendTarget :=
  mirrorTargets rule.filters ++ (rule.backends.filter fun b => 0 < b.weight).map Backend.toBackendTarget

variable (p cert) in
/-- Every entry of the rule is as if nothing could have been reused. -/
structure OwnEntries (rule : Rule) (t : RuleTable) : Prop where
  backends : t.backends =
    (rule.backends.filter fun b => 0 < b.weight).map fun b => freshEntry p cert b.toBackendTarget b.filters
  mirrors : t.mirrors.map MirrorTable.backend = (mirrorTargets rule.filters).map fun target => freshEntry p cert target []

@[simp] theorem BuildState.declare_transports (s : BuildState) (backend : BackendTarget) :
    (s.declare backend).transports = s.transports := by
  unfold BuildState.declare
  split <;> rfl

variable (hhex : HexSums p.sum256) (hS : Set.InjOn p.sum256 S)
include hhex hS

theorem foldl_addFilter_own {filters : List Filter} (htold : ∀ target ∈ mirrorTargets filters, Told S cert target)
    (acc : RuleTable × BuildState) (hc : Cached p S cert acc.2.transports) :
    (filters.foldl (addFilter p (.of p cert)) acc).1.mirrors.map MirrorTable.backend =
        acc.1.mirrors.map MirrorTable.backend ++ (mirrorTargets filters).map (fun target => freshEntry p cert target []) ∧
      Cached p S cert (filters.foldl (addFilter p (.of p cert)) acc).2.transports := by
  refine List.foldl_appends (fun s : RuleTable × BuildState => s.1.mirrors.map MirrorTable.backend)
    (fun s => Cached p S cert s.2.transports) ?_ ?_ hc
  · intro s filter hs hmirror
    unfold addFilter
    dsimp only
    split
    · exact ⟨by split <;> rfl, hs⟩
    · next target htarget =>
      have htype : filter.type ≠ filterRequestMirror := fun h => by
        rw [if_pos h, htarget] at hmirror
        cases hmirror
      rw [if_pos htype]
      exact ⟨by split <;> rfl, hs⟩
  · intro s filter target hs htarget hmirror
    obtain ⟨hentry, hkept⟩ := buildBackendTable_of_cached hhex hS hs (htold target htarget) []
    split at hmirror
    · next htype =>
      unfold addFilter
      rw [hmirror]
      dsimp only
      rw [if_neg (not_not.mpr htype), BuildState.declare_transports, List.map_append, List.map_singleton, hentry]
      exact ⟨congrArg (· ++ _) (by split <;> rfl), hkept⟩
    · cases hmirror

theorem foldl_addBackend_own {backends : List Backend}
    (htold : ∀ b ∈ backends.filter fun b => 0 < b.weight, Told S cert b.toBackendTarget)
    (acc : RuleTable × BuildState) (hc : Cached p S cert acc.2.transports) :
    (backends.foldl (addBackend p (.of p cert)) acc).1.backends = acc.1.backends ++
        (backends.filter fun b => 0 < b.weight).map (fun b => freshEntry p cert b.toBackendTarget b.filters) ∧
      Cached p S cert (backends.foldl (addBackend p (.of p cert)) acc).2.transports := by
  rw [← List.filterMap_eq_filter] at htold ⊢
  refine List.foldl_appends (fun s : RuleTable × BuildState => s.1.backends)
    (fun s => Cached p S cert s.2.transports) ?_ ?_ hc
  · intro s b hs hb
    have hw : b.weight ≤ 0 := by simpa [Option.guard] using hb
    rw [addBackend, if_pos hw]
    exact ⟨rfl, hs⟩
  · intro s a b hs hmem hb
    obtain ⟨rfl, hw⟩ := Option.guard_eq_some_iff.mp hb
    obtain ⟨hentry, hkept⟩ := buildBackendTable_of_cached hhex hS hs (htold a hmem) a.filters
    rw [addBackend, if_neg (by simpa using hw), ← hentry, BuildState.declare_transports]
    exact ⟨rfl, hkept⟩

theorem buildRuleTable_own {rule : Rule} (htold : ∀ target ∈ targets rule, Told S cert target)
    (secret : Option SecretData) (grpc : Bool) {state : BuildState} (hc : Cached p S cert state.transports) :
    OwnEntries p cert rule (buildRuleTable p (.of p cert) secret grpc state rule).1 ∧
      Cached p S cert (buildRuleTable p (.of p cert) secret grpc state rule).2.transports := by
  have hmirrored : ∀ target ∈ mirrorTargets rule.filters, Told S cert target :=
    fun target h => htold target (List.mem_append_left _ h)
  have hbacked : ∀ b ∈ rule.backends.filter fun b => 0 < b.weight, Told S cert b.toBackendTarget :=
    fun b h => htold _ (List.mem_append_right _ (List.mem_map_of_mem h))
  unfold buildRuleTable
  obtain ⟨hmirrors, hfiltered⟩ := foldl_addFilter_own hhex hS hmirrored (ruleExtensions p grpc secret rule, state) hc
  obtain ⟨hempty, -⟩ := foldl_addFilter_backends p (.of p cert) rule.filters (ruleExtensions p grpc secret rule, state)
  obtain ⟨hbackends, hcached⟩ := foldl_addBackend_own hhex hS hbacked _ hfiltered
  rw [hempty] at hbackends
  refine ⟨⟨hbackends, ?_⟩, hcached⟩
  rw [foldl_addBackend_mirrors]
  exact hmirrors

theorem foldl_buildRule_own {rules : List Rule} (htold : ∀ rule ∈ rules, ∀ target ∈ targets rule, Told S cert target)
    (secret : Option SecretData) (grpc : Bool) (acc : List RuleTable × BuildState) (hc : Cached p S cert acc.2.transports) :
    ∃ new, (rules.foldl (buildRule p (.of p cert) secret grpc) acc).1 = acc.1 ++ new ∧
      List.Forall₂ (OwnEntries p cert) rules new ∧
      Cached p S cert (rules.foldl (buildRule p (.of p cert) secret grpc) acc).2.transports := by
  induction rules generalizing acc with
  | nil => exact ⟨[], (List.append_nil _).symm, .nil, hc⟩
  | cons rule rules ih =>
    obtain ⟨hhere, hthere⟩ := List.forall_mem_cons.mp htold
    obtain ⟨hown, hkept⟩ := buildRuleTable_own hhex hS hhere secret grpc hc
    obtain ⟨new, hnew, hall, hcached⟩ := ih hthere (buildRule p (.of p cert) secret grpc acc rule) hkept
    rw [List.foldl_cons]
    refine ⟨(buildRuleTable p (.of p cert) secret grpc acc.2 rule).1 :: new, ?_, .cons hown hall, hcached⟩
    rw [hnew]
    exact List.append_assoc ..

/-! ## Tables -/

/-- The route of the table is one of the compiled ones, with its rules in order. -/
def RouteFollows (R : Rule → RuleTable → Prop) (routes : List RouteConfig) (rt : RouteTable) : Prop :=
  ∃ route ∈ routes, rt.ns = route.ns ∧ rt.name = route.name ∧ List.Forall₂ R route.rules rt.rules

def TableFollows (R : Rule → RuleTable → Prop) (routes : List RouteConfig) (table : GatewayTable) : Prop :=
  ∀ (port : Int32) (pt : PortTable), table.byPort[port]? = some pt → ∀ lst ∈ pt.listeners, ∀ rt ∈ lst.routes,
    RouteFollows R routes rt

theorem buildGatewayTable_own {generation : String} {gateway : GatewayConfig}
    {secret : Option SecretData} {previous : Option GatewayTable}
    (hbuild : buildGatewayTable p generation gateway routes secret previous = .ok table)
    (hcert : backendClientCert p gateway secret = .ok (.of p cert))
    (htold : ∀ route ∈ routes, ∀ rule ∈ route.rules, ∀ target ∈ targets rule, Told S cert target)
    (hc : Cached p S cert (previousTransports previous)) : TableFollows (OwnEntries p cert) routes table := by
  intro port pt hpt
  refine buildGatewayTable_routes hbuild hcert (I := fun state => Cached p S cert state.transports)
    (fun route hroute state hstate => ?_) hc hpt
  obtain ⟨new, hnew, hall, hcached⟩ := foldl_buildRule_own hhex hS (htold route hroute) secret route.grpc ([], state) hstate
  exact ⟨⟨route, hroute, rfl, rfl, by rw [routeTable, hnew]; exact hall⟩, hcached⟩

omit hhex hS

/-! ## The transports of the previous table -/

theorem freshEntry_eq_some {filters : List Filter} {transport : TLSTransport}
    (h : (freshEntry p cert backend filters).tlsTransport = some transport) :
    ∃ policy, backend.tls = some policy ∧ policy.invalid = false ∧
      (caSource policy).all p.appendCertsFromPEM = true ∧
      (freshEntry p cert backend filters).tlsKey = backendTLSFingerprint p policy (clientSum p cert) ∧
      transport = policyTransport (.of p cert) policy := by
  rw [freshEntry_transport, ownTransport] at h
  obtain ⟨policy, htls, h⟩ := Option.bind_eq_some_iff.mp h
  split at h
  · cases h
  · next hmeets =>
    obtain ⟨hvalid, husable⟩ := not_or.mp hmeets
    have hvalid := Bool.eq_false_iff.mpr hvalid
    have husable := Bool.eq_true_of_not_eq_false husable
    refine ⟨policy, htls, hvalid, husable, ?_, (Option.some.inj h).symm⟩
    rw [freshEntry_some filters htls hvalid husable]

theorem OwnEntries.mem {rule : Rule} {t : RuleTable} (h : OwnEntries p cert rule t) {b : BackendTable}
    (hb : b ∈ t.backends ++ t.mirrors.map MirrorTable.backend) :
    ∃ target ∈ targets rule, ∃ filters, b = freshEntry p cert target filters := by
  rw [h.backends, h.mirrors] at hb
  rcases List.mem_append.mp hb with hb | hb
  · obtain ⟨backend, hbackend, rfl⟩ := List.mem_map.mp hb
    exact ⟨_, List.mem_append_right _ (List.mem_map_of_mem hbackend), _, rfl⟩
  · obtain ⟨target, htarget, rfl⟩ := List.mem_map.mp hb
    exact ⟨target, List.mem_append_left _ htarget, [], rfl⟩

theorem TableFollows.mem
    (h : TableFollows (OwnEntries p cert) routes table) {b : BackendTable} (hb : b ∈ backendsOf table) :
    ∃ route ∈ routes, ∃ rule ∈ route.rules, ∃ target ∈ targets rule, ∃ filters, b = freshEntry p cert target filters := by
  obtain ⟨⟨port, pt⟩, hport, hb⟩ := List.mem_flatMap.mp hb
  obtain ⟨lst, hlst, hb⟩ := List.mem_flatMap.mp hb
  obtain ⟨rt, hrt, hb⟩ := List.mem_flatMap.mp hb
  obtain ⟨t, ht, hb⟩ := List.mem_flatMap.mp hb
  obtain ⟨route, hroute, -, -, hrules⟩ := h port pt (GoMap.mem_toList.mp hport) lst hlst rt hrt
  obtain ⟨rule, hrule, hown⟩ := Result.exists_left_of_mem hrules ht
  exact ⟨route, hroute, rule, hrule, hown.mem hb⟩

theorem previousTransports_eq_some {key : String} {transport : TLSTransport}
    (h : (previousTransports (some table))[key]? = some transport) :
    ∃ b ∈ backendsOf table, b.tlsKey = key ∧ b.tlsTransport = some transport := by
  unfold previousTransports at h
  dsimp only at h
  generalize backendsOf table = backends at h
  induction backends using List.reverseRecOn with
  | nil =>
    rw [List.foldl_nil, GoMap.get_empty] at h
    cases h
  | append_singleton backends b ih =>
    have hmore : (∃ b' ∈ backends, b'.tlsKey = key ∧ b'.tlsTransport = some transport) →
        ∃ b' ∈ backends ++ [b], b'.tlsKey = key ∧ b'.tlsTransport = some transport := by
      rintro ⟨b', hb', hfound⟩
      exact ⟨b', List.mem_append_left _ hb', hfound⟩
    rw [List.foldl_append, List.foldl_cons, List.foldl_nil] at h
    split at h
    · next own hown =>
      split at h
      · rw [GoMap.get_insert] at h
        split at h
        · next hkey => exact ⟨b, List.mem_append_right _ (.head _), hkey, hown.trans h⟩
        · exact hmore (ih h)
      · exact hmore (ih h)
    · exact hmore (ih h)

theorem TableFollows.cached {next : Option Certificate} (h : TableFollows (OwnEntries p cert) routes table)
    (htold : ∀ route ∈ routes, ∀ rule ∈ route.rules, ∀ target ∈ targets rule, Told S cert target)
    (hsplit : cert.map certText = next.map certText → cert = next) :
    Cached p S next (previousTransports (some table)) := by
  intro key transport hcached
  obtain ⟨b, hb, hkey, htransport⟩ := previousTransports_eq_some hcached
  obtain ⟨route, hroute, rule, hrule, target, htarget, filters, rfl⟩ := h.mem hb
  obtain ⟨policy, htls, hvalid, husable, hfingerprint, heq⟩ := freshEntry_eq_some htransport
  obtain ⟨hd, hin⟩ := htold route hroute rule hrule target htarget policy htls hvalid
  exact ⟨policy, cert, hd, hin, husable, hsplit, hkey.symm.trans hfingerprint, heq⟩

end

/-! ## Rebuilds -/

/-- What `BuildGatewayTable` is given for one generation. -/
structure Generation where
  name : String
  gateway : GatewayConfig
  routes : List RouteConfig
  secret : Option SecretData

inductive TableEvent
  | load (generation : Generation)
  /-- The manifest of the Gateway is gone. -/
  | forget

abbrev Applied := Option (Generation × GatewayTable)

section
variable (p : Platform)

/-- The applied table is offered for reuse and stays if the new one cannot be built. -/
def applyEvent (s : Applied) : TableEvent → Option Applied
  | .load g =>
    match buildGatewayTable p g.name g.gateway g.routes g.secret (s.map Prod.snd) with
    | .ok table => some (some (g, table))
    | .error _ => some s
  | .forget => some none

def Generation.cert (g : Generation) : Option Certificate :=
  (backendClientCert p g.gateway g.secret).toOption.bind ClientCert.cert

def Generation.targets (g : Generation) : List BackendTarget :=
  g.routes.flatMap fun route => route.rules.flatMap Routing.targets

/-- The policies of the generation are free of separators, and its client certificate is not the text of the
applied one's cut in another place. `S` has the texts that are summed. -/
def Unambiguous (S : Set String) (s : Applied) (e : TableEvent) : Prop :=
  ∀ g, e = .load g →
    (∀ target ∈ g.targets, Told S (g.cert p) target) ∧
    ∀ applied table, s = some (applied, table) →
      (applied.cert p).map certText = (g.cert p).map certText → applied.cert p = g.cert p

/-- Each backend of the rule has the transport of its own policy. -/
structure OwnTransports (cert : Option Certificate) (rule : Rule) (t : RuleTable) : Prop where
  backends : t.backends.map BackendTable.tlsTransport =
    (rule.backends.filter fun b => 0 < b.weight).map fun b => ownTransport p cert b.toBackendTarget
  mirrors : t.mirrors.map (fun m => m.backend.tlsTransport) = (mirrorTargets rule.filters).map (ownTransport p cert)

variable {p}

theorem OwnEntries.transports {cert : Option Certificate} {rule : Rule} {t : RuleTable} (h : OwnEntries p cert rule t) :
    OwnTransports p cert rule t where
  backends := by
    rw [h.backends, List.map_map]
    exact List.map_congr_left fun b _ => freshEntry_transport ..
  mirrors := by
    have hmirrors := congrArg (List.map BackendTable.tlsTransport) h.mirrors
    rw [List.map_map, List.map_map] at hmirrors
    exact hmirrors.trans (List.map_congr_left fun target _ => freshEntry_transport ..)

theorem Generation.told {S : Set String} {g : Generation} {cert : Option Certificate}
    (h : ∀ target ∈ g.targets, Told S cert target) :
    ∀ route ∈ g.routes, ∀ rule ∈ route.rules, ∀ target ∈ Routing.targets rule, Told S cert target :=
  fun route hroute rule hrule target htarget =>
    h target (List.mem_flatMap.mpr ⟨route, hroute, List.mem_flatMap.mpr ⟨rule, hrule, htarget⟩⟩)

/-- The applied table is as if each of its backends had been built alone. -/
def Following (p : Platform) (S : Set String) (s : Applied) : Prop :=
  ∀ g table, s = some (g, table) → TableFollows (OwnEntries p (g.cert p)) g.routes table ∧
    ∀ target ∈ g.targets, Told S (g.cert p) target

theorem Following.applyEvent {S : Set String} (hhex : HexSums p.sum256) (hS : Set.InjOn p.sum256 S) {s s' : Applied}
    {e : TableEvent} (h : Following p S s) (hmeets : Unambiguous p S s e) (hmove : applyEvent p s e = some s') : Following p S s' := by
  cases e with
  | forget =>
    cases hmove
    exact fun g table hnone => absurd hnone.symm (Option.some_ne_none _)
  | load g =>
    obtain ⟨htold, hsplit⟩ := hmeets g rfl
    rw [Routing.applyEvent] at hmove
    split at hmove
    · next table hbuild =>
      obtain rfl := Option.some.inj hmove
      intro g' table' hsame
      cases hsame
      refine ⟨?_, htold⟩
      obtain ⟨client, hclient⟩ : ∃ client, backendClientCert p g.gateway g.secret = .ok client := by
        obtain ⟨trust, -, hlisteners⟩ := Result.bind_eq_ok.mp hbuild
        obtain ⟨entries, -, hrest⟩ := Result.bind_eq_ok.mp hlisteners
        obtain ⟨client, hclient, -⟩ := Result.bind_eq_ok.mp hrest
        exact ⟨client, hclient⟩
      have hcert : g.cert p = client.cert := by
        rw [Generation.cert, hclient]
        rfl
      have hof : backendClientCert p g.gateway g.secret = .ok (.of p (g.cert p)) := by
        rw [hclient, hcert, ← backendClientCert_eq_of hclient]
      refine buildGatewayTable_own hhex hS hbuild hof (Generation.told htold) ?_
      cases s with
      | none => exact cached_empty _
      | some applied =>
        obtain ⟨hfollows, hbefore⟩ := h applied.1 applied.2 rfl
        exact hfollows.cached (Generation.told hbefore) (hsplit applied.1 applied.2 rfl)
    · obtain rfl := Option.some.inj hmove
      exact h

theorem TableFollows.imp {R R' : Rule → RuleTable → Prop} (himp : ∀ rule t, R rule t → R' rule t)
    {routes : List RouteConfig} {table : GatewayTable} (h : TableFollows R routes table) : TableFollows R' routes table := by
  intro port pt hpt lst hlst rt hrt
  obtain ⟨route, hroute, hns, hname, hrules⟩ := h port pt hpt lst hlst rt hrt
  exact ⟨route, hroute, hns, hname, hrules.imp himp⟩

/-- Policies that the key tells apart share a transport only if they ask for the same one, and after every
rebuild each backend has its own policy's. -/
theorem transports_follow_policies (hhex : HexSums p.sum256) {S : Set String} (hS : Set.InjOn p.sum256 S) :
    (∀ policy policy' cert cert', Delimited policy → Delimited policy' → summed policy cert ⊆ S →
      summed policy' cert' ⊆ S → (cert.map certText = cert'.map certText → cert = cert') →
      backendTLSFingerprint p policy (clientSum p cert) = backendTLSFingerprint p policy' (clientSum p cert') →
      policy.hostname = policy'.hostname ∧ caSource policy = caSource policy' ∧ cert = cert' ∧
        policy.subjectAltNames = policy'.subjectAltNames) ∧
    ∀ es s, Runs (applyEvent p) (Unambiguous p S) none es s → ∀ g table, s = some (g, table) →
      TableFollows (OwnTransports p (g.cert p)) g.routes table := by
  constructor
  · intro policy policy' cert cert' hd hd' hin hin' hsplit hkey
    obtain ⟨hhost, hca, htext, hsans⟩ := fingerprint_inj hhex hS hd hd' hin hin' hkey
    exact ⟨hhost, hca, hsplit htext, hsans⟩
  · intro es s hrun g table happlied
    have hstart : Following p S none := fun _ _ hnone => absurd hnone.symm (Option.some_ne_none _)
    have hsound : Following p S s := hrun.invariant (Following p S) (fun _ _ _ h hmeets => h.applyEvent hhex hS hmeets) hstart
    exact (hsound g table happlied).1.imp fun _ _ hown => hown.transports

theorem applyEvent_load {s : Applied} {g : Generation} {table : GatewayTable}
    (h : buildGatewayTable p g.name g.gateway g.routes g.secret (s.map Prod.snd) = .ok table) :
    applyEvent p s (.load g) = some (some (g, table)) := by
  rw [applyEvent, h]

end

/-! ## One name with a bar, two names without -/

def hexPlatform : Platform := { Platform.trusting with sum256 := fun _ => String.ofList (List.replicate 64 '0') }

theorem hexSums_hexPlatform : HexSums hexPlatform.sum256 := by
  refine ⟨fun s c hc => ?_, fun s => ?_⟩
  · have hc : c ∈ List.replicate 64 '0' := by
      rw [← String.toList_ofList (l := List.replicate 64 '0')]
      exact hc
    rw [List.eq_of_mem_replicate hc]
    decide
  · exact (congrArg List.length String.toList_ofList).trans List.length_replicate

def vaultPolicy (sans : List SubjectAltName) : BackendTLS := ⟨"vault.shop", "", true, false, sans⟩

def vaultBackend (sans : List SubjectAltName) : BackendTarget :=
  ⟨"shop", "vault", 443, 1, true, "", "", some (vaultPolicy sans)⟩

def vaultGeneration (sans : List SubjectAltName) : Generation where
  name := "g1"
  gateway := ⟨"uid", "shop", "gw", [⟨"web", 80, 10000, "HTTP", "", false, "", false⟩], false, []⟩
  routes := [⟨"r1", "shop", "vault", ["web"], [], 0, false,
    [⟨[], [], [⟨vaultBackend sans, []⟩], 0, 0, none, "", false, ""⟩]⟩]
  secret := none

def vaultRuleTable (sans verified : List SubjectAltName) : RuleTable :=
  ⟨[], [], [{ plainBackend (vaultBackend sans) [] with
      tlsKey := backendTLSFingerprint hexPlatform (vaultPolicy sans) ""
      tlsTransport := some ⟨"vault.shop", none, none, verified⟩ }],
    [], none, false, 0, 0, 1, none, none, none, false⟩

def vaultPort (sans verified : List SubjectAltName) : PortTable :=
  ⟨"uid", "shop/gw", false, false, false, false, false,
    [⟨"web", "", none, false, none, .noClientCert, [⟨"shop", "vault", [], 0, [vaultRuleTable sans verified]⟩]⟩], []⟩

def vaultTable (sans verified : List SubjectAltName) : GatewayTable :=
  ⟨"g1", GoMap.setAll ∅ [(10000, vaultPort sans verified)], GoMap.setAll ∅ [("shop", true)]⟩

def twoNames : List SubjectAltName := [⟨"URI", "spiffe://shop/vault"⟩, ⟨"Hostname", "legacy.shop"⟩]

def oneName : List SubjectAltName := [⟨"URI", "spiffe://shop/vault|Hostname:legacy.shop"⟩]

theorem delimited_vaultPolicy {sans : List SubjectAltName}
    (h : (sans.all fun san => !san.type.toList.contains '|' && !san.type.toList.contains ':' &&
      !san.value.toList.contains '|') = true) : Delimited (vaultPolicy sans) := by
  have hsan : ∀ san ∈ sans, ('|' ∉ san.type.toList ∧ ':' ∉ san.type.toList) ∧ '|' ∉ san.value.toList := by
    intro san hmem
    simpa using List.all_eq_true.mp h san hmem
  exact ⟨(by decide : '|' ∉ "vault.shop".toList), fun san hmem => (hsan san hmem).1, fun san hmem => (hsan san hmem).2⟩

theorem unambiguous_vault {sans : List SubjectAltName} (h : Delimited (vaultPolicy sans)) {s : Applied}
    (hs : ∀ applied table, s = some (applied, table) → applied.cert hexPlatform = none) :
    Unambiguous hexPlatform ∅ s (.load (vaultGeneration sans)) := by
  intro g hg
  obtain rfl := TableEvent.load.inj hg
  refine ⟨fun target htarget => ?_, fun applied table happlied _ => hs applied table happlied⟩
  obtain rfl := List.mem_singleton.mp htarget
  intro policy hpolicy _
  obtain rfl := Option.some.inj hpolicy
  refine ⟨h, fun text htext => ?_⟩
  rcases htext with htext | htext <;> cases htext

theorem separate_names_followed :
    TableFollows (OwnTransports hexPlatform none) (vaultGeneration twoNames).routes (vaultTable twoNames twoNames) := by
  have hfirst : applyEvent hexPlatform none (.load (vaultGeneration [])) =
      some (some (vaultGeneration [], vaultTable [] [])) := applyEvent_load (by decide)
  have hsecond : applyEvent hexPlatform (some (vaultGeneration [], vaultTable [] [])) (.load (vaultGeneration twoNames)) =
      some (some (vaultGeneration twoNames, vaultTable twoNames twoNames)) := applyEvent_load (by decide)
  have hrun : Runs (applyEvent hexPlatform) (Unambiguous hexPlatform ∅) none
      [.load (vaultGeneration []), .load (vaultGeneration twoNames)]
      (some (vaultGeneration twoNames, vaultTable twoNames twoNames)) := by
    refine .cons (unambiguous_vault (delimited_vaultPolicy (by decide)) ?_) hfirst
      (.cons (unambiguous_vault (delimited_vaultPolicy (by decide)) ?_) hsecond (.nil _))
    · exact fun _ _ hnone => absurd hnone.symm (Option.some_ne_none _)
    · intro applied table happlied
      cases happlied
      rfl
  exact (transports_follow_policies hexSums_hexPlatform (Set.injOn_empty _)).2 _ _ hrun _ _ rfl

theorem joined_names_share_transport :
    backendTLSFingerprint hexPlatform (vaultPolicy twoNames) "" =
      backendTLSFingerprint hexPlatform (vaultPolicy oneName) "" ∧ twoNames ≠ oneName ∧
    Runs (applyEvent hexPlatform) (fun _ _ => True) none
      [.load (vaultGeneration twoNames), .load (vaultGeneration oneName)]
      (some (vaultGeneration oneName, vaultTable oneName twoNames)) ∧
    ¬ TableFollows (OwnTransports hexPlatform none) (vaultGeneration oneName).routes (vaultTable oneName twoNames) := by
  refine ⟨by decide, by decide, ?_, ?_⟩
  · have hfirst : applyEvent hexPlatform none (.load (vaultGeneration twoNames)) =
        some (some (vaultGeneration twoNames, vaultTable twoNames twoNames)) := applyEvent_load (by decide)
    exact .cons trivial hfirst (.cons trivial (applyEvent_load (by decide)) (.nil _))
  · intro hfollows
    have hport : (vaultTable oneName twoNames).byPort[(10000 : Int32)]? = some (vaultPort oneName twoNames) := by decide
    obtain ⟨route, hroute, -, -, hrules⟩ := hfollows 10000 _ hport _ (List.mem_singleton_self _) _ (List.mem_singleton_self _)
    rw [List.mem_singleton.mp hroute] at hrules
    obtain ⟨hown, -⟩ := List.forall₂_cons.mp hrules
    have hbackends := hown.backends
    revert hbackends
    decide

end Krouter.Routing
