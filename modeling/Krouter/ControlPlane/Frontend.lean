import Krouter.ControlPlane.Publish

/-! The Service generated for a Gateway. The keys krouter owns come after user metadata, so that they
cannot be overridden; it is created or brought up to date. The EndpointSlice is left out. -/

namespace Krouter.Frontend
open Std Calls Compiled Kube Ports Publish

structure GatewayMeta where
  uid : GatewayUID
  namespaceName : String
  name : String
  infrastructureLabels : GoMap String String
  infrastructureAnnotations : GoMap String String
  deriving DecidableEq

def frontendName (gw : GatewayMeta) : String :=
  String.ofList (("krouter-" ++ gw.name).toList.take 54) ++ "-" ++ String.ofList (gw.uid.value.toList.take 8)

def gatewayNameLabel : String := "gateway.networking.k8s.io/gateway-name"

def desiredService (gw : GatewayMeta) (serviceAnnotations : GoMap String String)
    (portMapJSON : String) : Service where
  labels := (GoMap.setAll (GoMap.setAll ∅ gw.infrastructureLabels.toList)
    (baseLabels gw.uid.value).toList).insert gatewayNameLabel gw.name
  annotations := (GoMap.setAll (GoMap.setAll ∅ gw.infrastructureAnnotations.toList)
    serviceAnnotations.toList).insert portMapAnnotation portMapJSON

theorem desiredService_portMap (gw : GatewayMeta) (annotations : GoMap String String)
    (portMapJSON : String) :
    GoMap.read (desiredService gw annotations portMapJSON).annotations portMapAnnotation "" =
      portMapJSON := by
  rw [GoMap.read, desiredService, GoMap.get_insert_self, Option.getD_some]

theorem desiredService_gatewayUID (gw : GatewayMeta) (annotations : GoMap String String)
    (portMapJSON : String) :
    GoMap.read (desiredService gw annotations portMapJSON).labels labelGatewayUID "" =
      gw.uid.value := by
  rw [GoMap.read, desiredService, GoMap.get_insert_of_ne _ _ (by decide), GoMap.setAll_toList,
    baseLabels, GoMap.get_insert_self, Option.some_or, Option.getD_some]

structure ServiceParams where
  type : String
  externalTrafficPolicy : String
  loadBalancerClass : Option String
  annotations : GoMap String String
  nodePorts : GoMap String Int32
  deriving DecidableEq

def serviceTypeClusterIP : String := "ClusterIP"
def serviceTypeLoadBalancer : String := "LoadBalancer"

structure PortGroup where
  name : String
  externalPort : Int32
  internalPort : Int32
  nodePort : Int32
  protocol : String
  deriving DecidableEq

def nsName (namespaceName name : String) : String := namespaceName ++ "/" ++ name

def nodePortFor (service : ServiceParams) (existing : Option FrontendService) (port : PortGroup) : Int32 :=
  if service.type = serviceTypeClusterIP then 0
  else if port.nodePort ≠ 0 then port.nodePort
  else match existing with
    | none => 0
    | some svc => ((svc.ports.find? fun current => current.name = port.name).map (·.nodePort)).getD 0

def desiredFrontend (gw : GatewayMeta) (ports : List PortGroup) (service : ServiceParams)
    (portMapJSON : String) (existing : Option FrontendService) : FrontendService where
  toService := desiredService gw service.annotations portMapJSON
  type := service.type
  externalTrafficPolicy := if service.type = serviceTypeClusterIP then "" else service.externalTrafficPolicy
  loadBalancerClass := if service.type = serviceTypeLoadBalancer then service.loadBalancerClass else none
  selector := ∅
  ports := ports.map fun port =>
    ⟨port.name, port.protocol, port.externalPort, port.internalPort, nodePortFor service existing port⟩
  ownerReferences := [⟨"gateway.networking.k8s.io/v1", "Gateway", gw.name, gw.uid.value, true⟩]

/-- Protocols are not compared. -/
def servicePortsEqual (a b : List ServicePort) : Bool :=
  a.length == b.length && (a.zip b).all fun (x, y) =>
    x.name == y.name && x.port == y.port && x.targetPort == y.targetPort && x.nodePort == y.nodePort

def serviceEqual (a b : FrontendService) : Bool :=
  equalStringMaps a.labels b.labels &&
    equalStringMaps a.annotations b.annotations &&
    a.type == b.type &&
    a.externalTrafficPolicy == b.externalTrafficPolicy &&
    (a.selector.isEmpty == b.selector.isEmpty) &&
    servicePortsEqual a.ports b.ports &&
    a.ownerReferences.length == b.ownerReferences.length

structure Request where
  gw : GatewayMeta
  ports : List PortGroup
  service : ServiceParams
  portMapJSON : String

def Request.serviceName (r : Request) : String := nsName r.gw.namespaceName (frontendName r.gw)

def Request.updated (r : Request) (existing : FrontendService) : FrontendService :=
  { desiredFrontend r.gw r.ports r.service r.portMapJSON (some existing) with
    loadBalancerClass := existing.loadBalancerClass }

def ensureFrontend (r : Request) : Api Unit := do
  match ← (services.get r.serviceName).attempt with
  | .error .notFound =>
    services.create r.serviceName (desiredFrontend r.gw r.ports r.service r.portMapJSON none)
  | .error e => .fail e
  | .ok existing =>
    if serviceEqual existing (r.updated existing) then pure ()
    else services.update r.serviceName (r.updated existing)

end Krouter.Frontend
