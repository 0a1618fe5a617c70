import Krouter.ControlPlane.Authorized
import Krouter.ControlPlane.ListenerIsolation
import Krouter.ControlPlane.ListenerNames
import Krouter.Proxy.Serve
import Mathlib.Data.List.Pairwise

/-! Client certificate validation of a handshake against that of the listener that serves a request.
The listeners of a port share one validation; its bundle is published under a listener's name. -/

namespace Krouter.ControlPlane
open Compiled Ports Routing Http Proxy

section
variable (p : Platform) (w : World) (gw : Gateway)

def ownBundle (spec : ListenerSpec) : Option (String × String) := (ownClientCA p w gw spec).join

def ownValidation (spec : ListenerSpec) : ClientAuthType × Option String :=
  match ownBundle p w gw spec with
  | none => (.noClientCert, none)
  | some (mode, bundle) =>
    (if mode = "AllowInsecureFallback" then .requestClientCert else .requireAndVerifyClientCert, some bundle)

def lastBundle (listeners : List ListenerState) (name : String) : Option String :=
  ((validOnes listeners).filterMap fun l =>
    if l.effectiveName = name then (ownBundle p w gw l.spec).map Prod.snd else none).getLast?

end

variable {p : Platform} {w : World} {gw : Gateway}

theorem ownBundle_congr {s s' : ListenerSpec} (hport : s.port = s'.port) (hproto : s.protocol = s'.protocol) :
    ownBundle p w gw s = ownBundle p w gw s' := by
  rw [ownBundle, ownBundle, ownClientCA, ownClientCA, hport, hproto]

theorem ownBundle_mode_ne {spec : ListenerSpec} {mode bundle : String}
    (h : ownBundle p w gw spec = some (mode, bundle)) : mode ≠ "" := by
  have hjoin : ownClientCA p w gw spec = some (some (mode, bundle)) := Option.join_eq_some_iff.mp h
  unfold ownClientCA at hjoin
  split_ifs at hjoin with hp
  · split at hjoin
    · cases hjoin
    · next validation _ =>
      obtain ⟨b, -, hb⟩ := Option.map_eq_some_iff.mp hjoin
      obtain ⟨rfl, -⟩ := Prod.mk.inj (Option.some.inj hb)
      unfold FrontendTLSValidation.effectiveMode
      split_ifs with hm
      · decide
      · exact hm
  · cases hjoin

theorem ownMaterial_ownBundle {spec : ListenerSpec} {set : Option SetName} {m : OwnMaterial}
    (h : ownMaterial p w gw spec set = some m) : ownBundle p w gw spec = m.clientCA := by
  obtain ⟨cert, -, h⟩ := Option.bind_eq_some_iff.mp h
  obtain ⟨ca, hca, rfl⟩ := Option.map_eq_some_iff.mp h
  rw [ownBundle, hca]
  rfl

variable {sets : List ListenerSetState} {a : PortAllocator}

theorem published_bundle (clientCert : BackendClientCert) (outcomes : List RouteOutcome) (name : String) :
    (compileAttachments clientCert (validateListeners p w gw sets a).1 outcomes).secretData[
        name ++ ".client-ca.crt"]? =
      (lastBundle p w gw (validateListeners p w gw sets a).1 name).or
        (clientCertData clientCert)[name ++ ".client-ca.crt"]? := by
  refine (published_material clientCert outcomes name .clientCA).trans ?_
  rw [lastMaterial, lastBundle]
  congr 2
  refine List.filterMap_congr fun l hl => ?_
  obtain ⟨m, hown, -⟩ := validateListeners_material hl
  rw [ownMaterial_ownBundle hown, hown]
  rfl

/-! ## The listeners of a port -/

/-- A listener of a loaded port, and the validated listener it was compiled from. -/
structure StateOf (listeners : List ListenerState) (infra : InfraParams) (secret : Option SecretData)
    (port : Int32) (t : ListenerTable) (l : ListenerState) : Prop where
  valid : l ∈ validOnes listeners
  port : l.internalPort = port
  view : t.bare = listenerView secret (compileListener infra l)

section
variable {infra : InfraParams} {clientCert : BackendClientCert} {listeners : List ListenerState}
  {secret : Option SecretData} {port : Int32} {table : PortTable}

theorem exists_stateOf {generation : String} {routes : List RouteConfig} {previous : Option GatewayTable}
    {built : GatewayTable}
    (hbuilt : buildGatewayTable p generation (compileGatewayConfig gw infra listeners clientCert) routes
      secret previous = .ok built) (hb : built.byPort[port]? = some table) {t : ListenerTable}
    (ht : t ∈ table.listeners) : ∃ l, StateOf listeners infra secret port t l := by
  have hmem := List.mem_map_of_mem (f := ListenerTable.bare) ht
  rw [buildGatewayTable_listeners hbuilt hb, declaredOn_compileGatewayConfig, List.map_map, sortListeners,
    (List.perm_insertionSort _ _).mem_iff] at hmem
  obtain ⟨l, hl, hview⟩ := List.mem_map.mp hmem
  obtain ⟨hvalid, hport⟩ := List.mem_filter.mp hl
  exact ⟨l, hvalid, of_decide_eq_true hport, hview.symm⟩

variable {t : ListenerTable} {l : ListenerState}

theorem StateOf.name_eq (h : StateOf listeners infra secret port t l) : t.name = l.effectiveName :=
  congrArg ListenerTable.name h.view

theorem StateOf.cert_isSome (h : StateOf listeners infra secret port t l)
    (hp : l.spec.protocol = protocolHTTPS) : t.cert.isSome = true := by
  have hcert := congrArg ListenerTable.cert h.view
  rw [show t.cert = t.bare.cert from rfl, hcert]
  simp [listenerView, compileListener, hp]

theorem StateOf.validation (h : StateOf listeners infra secret port t l) :
    (if t.clientAuth ≠ .noClientCert then (t.clientAuth, t.clientCAs) else (.noClientCert, none)) =
      if l.clientCAMode = "" then (.noClientCert, none)
      else (if l.clientCAMode = "AllowInsecureFallback" then .requestClientCert
        else .requireAndVerifyClientCert,
        some ((secret.getD ∅).read (l.effectiveName ++ ".client-ca.crt") "")) := by
  have hauth : t.clientAuth = listenerClientAuth (compileListener infra l) :=
    congrArg ListenerTable.clientAuth h.view
  have hcas : t.bare.clientCAs = (listenerView secret (compileListener infra l)).clientCAs :=
    congrArg ListenerTable.clientCAs h.view
  change t.clientCAs = _ at hcas
  rw [hauth, hcas]
  by_cases hm : l.clientCAMode = ""
  · simp [listenerClientAuth, compileListener, hm]
  · by_cases hf : l.clientCAMode = "AllowInsecureFallback" <;>
      simp [listenerClientAuth, listenerView, compileListener, hm, hf]

theorem exists_certificateFor (sni : String) (h : ∃ t ∈ table.listeners, t.cert.isSome = true) :
    ∃ t i, table.certificateFor sni = some (t, i) ∧ t ∈ table.listeners ∧ t.cert.isSome = true := by
  obtain ⟨t, ht, hc⟩ := h
  obtain ⟨i, hi, rfl⟩ := List.getElem_of_mem ht
  have hmem : (table.listeners[i], i) ∈ table.listeners.zipIdx.filter fun l => l.1.cert.isSome :=
    List.mem_filter.mpr ⟨List.mk_mem_zipIdx_iff_getElem?.mpr (List.getElem?_eq_getElem hi), hc⟩
  obtain ⟨first, hfirst⟩ : ∃ first,
      (table.listeners.zipIdx.filter fun l => l.1.cert.isSome).head? = some first :=
    ⟨_, List.head?_eq_some_head (List.ne_nil_of_mem hmem)⟩
  -- whichever of the two it is, it is one of the certified listeners
  have hpick : ∃ l, table.certificateFor sni = some l ∧
      l ∈ table.listeners.zipIdx.filter fun l => l.1.cert.isSome := by
    unfold PortTable.certificateFor
    dsimp only
    cases hf : (table.listeners.zipIdx.filter fun l => l.1.cert.isSome).find?
        (fun l => sni ≠ "" && hostnameMatches l.1.hostname sni) with
    | none => exact ⟨first, by rw [Option.none_or, hfirst], List.mem_of_head? hfirst⟩
    | some l => exact ⟨l, by rw [Option.some_or], List.mem_of_find?_eq_some hf⟩
  obtain ⟨l, hl, hlm⟩ := hpick
  obtain ⟨hz, hcert⟩ := List.mem_filter.mp hlm
  exact ⟨l.1, l.2, hl, List.fst_mem_of_mem_zipIdx hz, hcert⟩

end

theorem same_port_protocol (hports : SeparatePorts (validateListeners p w gw sets a).1) {l m : ListenerState}
    (hl : l ∈ validOnes (validateListeners p w gw sets a).1)
    (hm : m ∈ validOnes (validateListeners p w gw sets a).1) (hport : l.internalPort = m.internalPort) :
    l.spec.port = m.spec.port ∧ l.spec.protocol = m.spec.protocol := by
  have hext := hports l hl m hm hport
  have hsymm : Std.Symm fun l m : ListenerState =>
      l.spec.port = m.spec.port → l.spec.protocol = m.spec.protocol := ⟨fun _ _ h hp => (h hp.symm).symm⟩
  have hpair : (validOnes (validateListeners p w gw sets a).1).Pairwise
      fun l m => l.spec.port = m.spec.port → l.spec.protocol = m.spec.protocol :=
    (rejectConflictingListeners_compatible _).imp fun h hp => (h hp).1
  exact ⟨hext, hpair.forall_of_forall (fun _ _ _ => rfl) hl hm hext⟩

theorem exists_getLast?_filterMap {α β : Type} {l : List α} {f : α → Option β} {a : α} {b : β} (ha : a ∈ l)
    (hb : f a = some b) : ∃ last, (l.filterMap f).getLast? = some last :=
  ⟨_, List.getLast?_eq_some_getLast (List.ne_nil_of_mem (List.mem_filterMap.mpr ⟨a, ha, hb⟩))⟩

theorem exists_lastBundle {s : ListenerState} (hs : s ∈ validOnes (validateListeners p w gw sets a).1)
    {ca : String × String} (hca : ownBundle p w gw s.spec = some ca) :
    ∃ last, lastBundle p w gw (validateListeners p w gw sets a).1 s.effectiveName = some last := by
  exact exists_getLast?_filterMap hs (b := ca.2) (by rw [if_pos rfl, hca]; rfl)

/-- A listener is configured with the validation of another one if it has the same mode
and the last bundle of its name is the other's. -/
def ValidatesLike (p : Platform) (w : World) (gw : Gateway) (listeners : List ListenerState)
    (s l : ListenerState) : Prop :=
  (ownValidation p w gw s.spec).1 = (ownValidation p w gw l.spec).1 ∧
    ∀ mode bundle, ownBundle p w gw l.spec = some (mode, bundle) →
      lastBundle p w gw listeners s.effectiveName = some bundle

/-- What a loaded listener asks of clients, in terms of its own validation and the bundles
published under its name. -/
theorem StateOf.validation_eq_iff {infra : InfraParams} {clientCert : BackendClientCert}
    {outcomes : List RouteOutcome} {secret : Option SecretData} {port : Int32} {t : ListenerTable}
    {s : ListenerState} (hs : StateOf (validateListeners p w gw sets a).1 infra secret port t s)
    (hsecret : secret.getD ∅ =
      (compileAttachments clientCert (validateListeners p w gw sets a).1 outcomes).secretData)
    (l : ListenerState) :
    (if t.clientAuth ≠ .noClientCert then (t.clientAuth, t.clientCAs) else (.noClientCert, none)) =
        ownValidation p w gw l.spec ↔
      ValidatesLike p w gw (validateListeners p w gw sets a).1 s l := by
  obtain ⟨m, hown, hm⟩ := validateListeners_material hs.valid
  have hbundle := ownMaterial_ownBundle hown
  rw [hs.validation, hm.mode, OwnMaterial.mode, ValidatesLike, ownValidation, ownValidation, hbundle]
  cases hca : m.clientCA with
  | none =>
    cases ownBundle p w gw l.spec with
    | none => simp
    | some ca => by_cases hf : ca.1 = "AllowInsecureFallback" <;> simp [hf]
  | some ca =>
    obtain ⟨mode, bundle⟩ := ca
    have hmode : mode ≠ "" := ownBundle_mode_ne (hbundle.trans hca)
    obtain ⟨last, hlast⟩ := exists_lastBundle hs.valid (hbundle.trans hca)
    have hread : (secret.getD ∅).read (s.effectiveName ++ ".client-ca.crt") "" = last := by
      rw [hsecret, GoMap.read, published_bundle, hlast]
      rfl
    rw [hread, hlast]
    cases ownBundle p w gw l.spec with
    | none => by_cases hf : mode = "AllowInsecureFallback" <;> simp [hf, hmode]
    | some ca => simp [hmode, Prod.ext_iff]

/-- The handshake asks for the client certificates that the listener of the request asks for exactly
when the listener of the server name has the same mode and the right bundle under its name. -/
theorem handshake_validation_iff {infra : InfraParams} {clientCert : BackendClientCert}
    {outcomes : List RouteOutcome} {generation : String} {routes : List RouteConfig}
    {secret : Option SecretData} {previous : Option GatewayTable} {built : GatewayTable}
    (hsecret : secret.getD ∅ =
      (compileAttachments clientCert (validateListeners p w gw sets a).1 outcomes).secretData)
    (hbuilt : buildGatewayTable p generation
      (compileGatewayConfig gw infra (validateListeners p w gw sets a).1 clientCert) routes secret
      previous = .ok built) {port : Int32} {table : PortTable} (hb : built.byPort[port]? = some table)
    {t : Tables} (ht : t.byPort[port]? = some table) {host : String} {r : Request} {c : Matched}
    (hmatch : t.matchRequest port host r = some c) {l : ListenerState}
    (hl : StateOf (validateListeners p w gw sets a).1 infra secret port c.listener l)
    (hhttps : l.spec.protocol = protocolHTTPS) (sni : String) :
    ∃ selected i s config, t.certificateFor port sni = some (selected, i) ∧
      StateOf (validateListeners p w gw sets a).1 infra secret port selected s ∧
      tlsConfigFor t port sni = .ok config ∧
      (config.validation = ownValidation p w gw l.spec ↔
        ValidatesLike p w gw (validateListeners p w gw sets a).1 s l) := by
  obtain ⟨table', ht', hc⟩ := Tables.mem_tableOrder_of_matchRequest hmatch
  obtain rfl : table = table' := Option.some.inj (ht.symm.trans ht')
  have hlisted := (mem_tableOrder.mp hc).1
  obtain ⟨selected, i, hsel, hselm, hselc⟩ :=
    exists_certificateFor sni ⟨c.listener, hlisted, hl.cert_isSome hhttps⟩
  have hfor : t.certificateFor port sni = some (selected, i) := by
    rw [Tables.certificateFor, ht, Option.bind_some, hsel]
  obtain ⟨cert, hcert⟩ := Option.isSome_iff_exists.mp hselc
  obtain ⟨config, hconfig, hval⟩ := tlsConfigFor_ok hfor hcert
  obtain ⟨s, hs⟩ := exists_stateOf hbuilt hb hselm
  refine ⟨selected, i, s, config, hfor, hs, hconfig, ?_⟩
  rw [hval]
  exact hs.validation_eq_iff hsecret l

/-- On separate ports with distinct names the condition always holds: all listeners of a
port share its validation, and each keeps its own bundle. -/
theorem validatesLike_of_separate (hw : WellNamed gw sets) (hd : DistinctFields (listenerKeys gw sets))
    (hports : SeparatePorts (validateListeners p w gw sets a).1) {s l : ListenerState}
    (hs : s ∈ validOnes (validateListeners p w gw sets a).1)
    (hl : l ∈ validOnes (validateListeners p w gw sets a).1) (hport : s.internalPort = l.internalPort) :
    ValidatesLike p w gw (validateListeners p w gw sets a).1 s l := by
  obtain ⟨hext, hproto⟩ := same_port_protocol hports hs hl hport
  have hsame := @ownBundle_congr p w gw _ _ hext hproto
  refine ⟨by rw [ownValidation, ownValidation, hsame], fun mode bundle hb => ?_⟩
  rw [← hsame] at hb
  obtain ⟨last, hlast⟩ := exists_lastBundle hs hb
  obtain ⟨o, ho, hob⟩ := List.mem_filterMap.mp (List.mem_of_getLast? hlast)
  split_ifs at hob with hname
  obtain rfl : o = s := List.inj_on_of_nodup_map (validNames_nodup hw hd) ho hs hname
  rw [hb] at hob
  rw [hlast, ← hob]
  rfl

/-! Two own listeners on port 443 and the listener of a set on port 8443; each port has a
validation of its own. -/

def validateWith (bundle : String) : Option FrontendTLSValidation := some ⟨"", [⟨"", "ConfigMap", none, bundle⟩]⟩

def mutualGateway (name : String) : Gateway :=
  { Gateway.small [.https name "a.example.com" 443, .https "main" "b.example.com" 443]
      (some ⟨none, [⟨443, validateWith "front-ca"⟩, ⟨8443, validateWith "extra-ca"⟩]⟩) with
    allowedListeners := some ⟨some fromAll, none⟩ }

def mutualListeners (name : String) : List ListenerState :=
  (validateListeners .trusting sharedWorld (mutualGateway name)
    (selectListenerSets sharedWorld (mutualGateway name)) (newPortAllocator 10000 10010 [])).1

def mutualCert (name : String) : BackendClientCert :=
  resolveBackendClientCert .trusting sharedWorld (mutualGateway name)

def mutualEntry (name hostname keyPair bundle : String) (routes : List RouteTable) : ListenerTable :=
  ⟨name, hostname, some ⟨keyPair, keyPair⟩, false, some bundle, .requireAndVerifyClientCert, routes⟩

def mutualPort (name keyPair bundle : String) : PortTable :=
  { shopPort with listeners := [mutualEntry name "a.example.com" keyPair bundle [],
      mutualEntry "main" "b.example.com" "shop/tls" "shop/front-ca\n" [everywhereTable]] }

def mutualTable (name keyPair bundle : String) : GatewayTable where
  generation := "g1"
  byPort := GoMap.setAll ∅ [(10000, mutualPort name keyPair bundle), (10001, { shopPort with
    listeners := [mutualEntry "infra--extra--web" "" "infra/tls" "shop/extra-ca\n" []] })]
  namespaces := ∅

def clashTable : GatewayTable := mutualTable "infra--extra--web" "infra/tls" "shop/extra-ca\n"

def frontTable : GatewayTable := mutualTable "front" "shop/tls" "shop/front-ca\n"

def mutualRequest : Request := ⟨"GET", "b.example.com", "/", "/", ∅, ∅, [], "", some ""⟩

theorem handshake_verifies_other_bundle :
    buildGatewayTable .trusting "g1" (compileGatewayConfig (mutualGateway "infra--extra--web") ⟨[], []⟩
        (mutualListeners "infra--extra--web") (mutualCert "infra--extra--web"))
      [{ everywhere with listeners := ["main"] }]
      (some (compileAttachments (mutualCert "infra--extra--web") (mutualListeners "infra--extra--web")
        []).secretData) none = .ok clashTable ∧
    isMisdirected (mergeTables [clashTable]) 10000 true mutualRequest = false ∧
    ((mergeTables [clashTable]).matchRequest 10000 "b.example.com" mutualRequest).map
      (·.listener.name) = some "main" ∧
    (tlsConfigFor (mergeTables [clashTable]) 10000 "").toOption.map ServerConfig.validation =
      some (.requireAndVerifyClientCert, some "shop/extra-ca\n") ∧
    ((mutualListeners "infra--extra--web").filter fun l => l.effectiveName = "main").map
      (fun l => ownValidation .trusting sharedWorld (mutualGateway "infra--extra--web") l.spec) =
        [(.requireAndVerifyClientCert, some "shop/front-ca\n")] := by
  refine ⟨by decide, by decide, by decide, by decide, by decide⟩

theorem handshake_verifies_own_bundle :
    ∃ config l, tlsConfigFor (mergeTables [frontTable]) 10000 "" = .ok config ∧
      l ∈ mutualListeners "front" ∧ l.effectiveName = "main" ∧
      config.validation = ownValidation .trusting sharedWorld (mutualGateway "front") l.spec := by
  have hbuilt : buildGatewayTable .trusting "g1"
      (compileGatewayConfig (mutualGateway "front") ⟨[], []⟩ (mutualListeners "front") (mutualCert "front"))
      [{ everywhere with listeners := ["main"] }]
      (some (compileAttachments (mutualCert "front") (mutualListeners "front") []).secretData) none =
        .ok frontTable := by decide
  have hb : frontTable.byPort[(10000 : Int32)]? = some (mutualPort "front" "shop/tls" "shop/front-ca\n") := by
    decide
  have ht : (mergeTables [frontTable]).byPort[(10000 : Int32)]? =
      some (mutualPort "front" "shop/tls" "shop/front-ca\n") := by decide
  have hserved : ((mergeTables [frontTable]).matchRequest 10000 "b.example.com" mutualRequest).map
      (·.listener.name) = some "main" := by decide
  obtain ⟨c, hmatch, hname⟩ := Option.map_eq_some_iff.mp hserved
  obtain ⟨table, ht', hc⟩ := Tables.mem_tableOrder_of_matchRequest hmatch
  obtain rfl := Option.some.inj (ht.symm.trans ht')
  obtain ⟨l, hl⟩ := exists_stateOf hbuilt hb (mem_tableOrder.mp hc).1
  have hhttps : ∀ l ∈ validOnes (mutualListeners "front"), l.spec.protocol = protocolHTTPS := by decide
  obtain ⟨selected, i, s, config, -, hs, hconfig, hiff⟩ :=
    handshake_validation_iff rfl hbuilt hb ht hmatch hl (hhttps l hl.valid) ""
  refine ⟨config, l, hconfig, (mem_validOnes.mp hl.valid).1, hl.name_eq.symm.trans hname, hiff.mpr ?_⟩
  have hw : WellNamed (mutualGateway "front") (selectListenerSets sharedWorld (mutualGateway "front")) := by
    refine ⟨?_, by decide⟩
    unfold ListenerKey.Valid
    decide
  have hd : DistinctFields
      (listenerKeys (mutualGateway "front") (selectListenerSets sharedWorld (mutualGateway "front"))) := by
    unfold DistinctFields
    decide
  have hports : SeparatePorts (mutualListeners "front") := by
    unfold SeparatePorts
    decide
  exact validatesLike_of_separate hw hd hports hs.valid hl.valid (hs.port.trans hl.port.symm)

end Krouter.ControlPlane
