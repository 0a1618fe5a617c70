import Krouter.ControlPlane.Compile
import Krouter.ControlPlane.Validated
import Krouter.Routing.Isolation

/-! Conflict rejection and selection together: the ports of a compiled Gateway have distinct hostnames,
so every request is served from the listener that owns its authority. -/

namespace Krouter.ControlPlane
open Compiled Ports Routing Http RunningBest

def SeparatePorts (listeners : List ListenerState) : Prop :=
  ∀ l ∈ validOnes listeners, ∀ m ∈ validOnes listeners, l.internalPort = m.internalPort →
    l.spec.port = m.spec.port

def LowerCaseHostnames (listeners : List ListenerState) : Prop :=
  ∀ l ∈ validOnes listeners, LowerCase (l.spec.hostname.getD "")

section
variable {p : Platform} {w : World} {gw : Gateway} {sets : List ListenerSetState} {a : PortAllocator}

end

variable {p : Platform} {gw : Gateway} {infra : InfraParams} {clientCert : BackendClientCert}
  {listeners : List ListenerState}

theorem declaredOn_compileGatewayConfig (port : Int32) :
    declaredOn (compileGatewayConfig gw infra listeners clientCert) port =
      ((validOnes listeners).filter fun l => l.internalPort = port).map (compileListener infra) := by
  rw [declaredOn, compileGatewayConfig, List.filter_map]
  rfl

theorem declared_hostnames_nodup (states : List ListenerState)
    (hports : SeparatePorts (rejectConflictingListeners states)) (port : Int32) :
    ((declaredOn (compileGatewayConfig gw infra (rejectConflictingListeners states) clientCert) port).map
      Listener.hostname).Nodup := by
  rw [declaredOn_compileGatewayConfig, List.map_map, List.Nodup, List.pairwise_map, List.pairwise_filter]
  refine (rejectConflictingListeners_compatible states).imp_of_mem ?_
  intro l m hl hm hcompatible hlp hmp
  have hport : l.internalPort = m.internalPort :=
    (of_decide_eq_true hlp).trans (of_decide_eq_true hmp).symm
  exact (hcompatible (hports l hl m hm hport)).2

theorem distinctHostnames_of_built {generation : String} {routes : List RouteConfig}
    {secret : Option SecretData} {previous : Option GatewayTable} {built : GatewayTable}
    {states : List ListenerState} (hports : SeparatePorts (rejectConflictingListeners states))
    (hlower : LowerCaseHostnames (rejectConflictingListeners states))
    (hbuilt : buildGatewayTable p generation
      (compileGatewayConfig gw infra (rejectConflictingListeners states) clientCert) routes secret
      previous = .ok built) {port : Int32} {table : PortTable} (ht : built.byPort[port]? = some table) :
    DistinctHostnames table := by
  have hnames := buildGatewayTable_hostnames hbuilt ht
  have hperm := List.perm_insertionSort
    (fun a b => hostnameSpecificity b ≤ hostnameSpecificity a)
    ((declaredOn (compileGatewayConfig gw infra (rejectConflictingListeners states) clientCert)
      port).map Listener.hostname)
  refine ⟨fun l hl => ?_, ?_⟩
  · have hmem := List.mem_map_of_mem (f := ListenerTable.hostname) hl
    rw [hnames] at hmem
    have hmem := hperm.mem_iff.mp hmem
    rw [declaredOn_compileGatewayConfig, List.map_map] at hmem
    obtain ⟨state, hstate, hname⟩ := List.mem_map.mp hmem
    rw [← hname]
    exact hlower state (List.mem_of_mem_filter hstate)
  · rw [hnames]
    exact hperm.nodup_iff.mpr (declared_hostnames_nodup states hports port)

def shopGateway : Gateway :=
  .small [.https "any" "*.example.com" 443, .https "toys" "toys.example.com" 443] none

def shopStates : List ListenerState :=
  (validateEach .trusting .small shopGateway (effectiveSpecs shopGateway [])
    (newPortAllocator 10000 10010 [])).1

def everywhere : RouteConfig where
  uid := "route"
  ns := "shop"
  name := "everywhere"
  listeners := ["any", "toys"]
  hostnames := []
  created := 0
  grpc := false
  rules := [⟨[], [], [], 0, 0, none, "", false, ""⟩]

def shopConfig : GatewayConfig :=
  compileGatewayConfig shopGateway ⟨[], []⟩ (rejectConflictingListeners shopStates)
    (resolveBackendClientCert .trusting .small shopGateway)

def shopSecret : SecretData :=
  tlsSecretData (resolveBackendClientCert .trusting .small shopGateway)
    (rejectConflictingListeners shopStates)

def everywhereTable : RouteTable :=
  ⟨"shop", "everywhere", [], 0, [⟨[], [], [], [], none, false, 0, 0, 0, none, none, none, false⟩]⟩

def shopPort : PortTable where
  gatewayUID := "uid"
  gatewayName := "shop/gw"
  tls := true
  tcp := false
  udp := false
  tlsPassthrough := false
  proxyProtocol := false
  listeners := [("toys", "toys.example.com"), ("any", "*.example.com")].map fun l =>
    ⟨l.1, l.2, some ⟨"shop/tls", "shop/tls"⟩, false, none, .noClientCert, [everywhereTable]⟩
  trust := []

def shopTable : GatewayTable := ⟨"g1", GoMap.setAll ∅ [(10000, shopPort)], ∅⟩

end Krouter.ControlPlane
