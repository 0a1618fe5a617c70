import Krouter.ControlPlane.Frontend
import Krouter.ControlPlane.World
import Krouter.Routing.Build

/-! The infrastructure parameters of a Gateway: defaults and checks after the text has been
decoded. -/

namespace Krouter.ControlPlane
open Frontend GoString Routing

structure ClientIPBlock where
  trustedProxies : List String
  /-- The listeners of the `proxy_protocol` block. -/
  proxyProtocol : Option (List String)
  deriving DecidableEq

structure InfraSource where
  version : Int
  service : Option ServiceParams
  clientIP : Option ClientIPBlock
  deriving DecidableEq

structure ParsedInfra extends InfraParams where
  service : ServiceParams
  deriving DecidableEq

def parseService (block : Option ServiceParams) : Except String ServiceParams :=
  let block := block.getD ⟨"", "", none, ∅, ∅⟩
  let type := if block.type = "" then "NodePort" else block.type
  let policy := if block.externalTrafficPolicy = "" then "Local" else block.externalTrafficPolicy
  if type ≠ "NodePort" ∧ type ≠ serviceTypeLoadBalancer ∧ type ≠ serviceTypeClusterIP then
    .error ("unsupported service type " ++ quote type)
  else if policy ≠ "Local" ∧ policy ≠ "Cluster" then
    .error ("unsupported external_traffic_policy " ++ quote policy)
  else .ok { block with
    type := type
    externalTrafficPolicy := if type = serviceTypeClusterIP then "" else policy }

variable (p : Platform)

/-- A preamble is honored from trusted peers only, so it needs some. -/
def parseClientIP (block : Option ClientIPBlock) : Except String InfraParams :=
  let block := block.getD ⟨[], none⟩
  let listeners := block.proxyProtocol.getD []
  match block.trustedProxies.find? fun cidr => !(p.parsePrefix cidr).toBool with
  | some cidr => .error ("invalid trusted_proxies entry " ++ quote cidr)
  | none =>
    if "" ∈ listeners then .error "proxy_protocol listeners must be named"
    else if listeners ≠ [] ∧ block.trustedProxies = [] then
      .error "proxy_protocol requires trusted_proxies"
    else .ok ⟨block.trustedProxies, listeners⟩

def parseInfra (decode : String → Except String InfraSource) (src : String) : Except String ParsedInfra := do
  let params ← decode src
  if params.version ≠ 1 then .error ("unsupported version " ++ toString params.version)
  else do
    let service ← parseService params.service
    let clientIP ← parseClientIP p params.clientIP
    return { clientIP with service }

variable {p} {decode : String → Except String InfraSource} {src : String} {infra : ParsedInfra}

theorem parseClientIP_trusted {block : Option ClientIPBlock} {params : InfraParams}
    (h : parseClientIP p block = .ok params) {cidr : String} (hc : cidr ∈ params.trustedProxies) :
    ∃ net, p.parsePrefix cidr = .ok net := by
  unfold parseClientIP at h
  dsimp only at h
  split at h
  · cases h
  · next hnone =>
    split_ifs at h
    cases h
    have hparsed := List.find?_eq_none.mp hnone cidr hc
    cases hp : p.parsePrefix cidr with
    | ok net => exact ⟨net, rfl⟩
    | error err =>
      rw [hp] at hparsed
      exact absurd rfl hparsed

theorem newTrust_of_parseInfra (h : parseInfra p decode src = .ok infra) :
    ∃ trust, newTrust p infra.trustedProxies = .ok trust := by
  obtain ⟨params, -, h⟩ := Result.bind_eq_ok.mp h
  split_ifs at h
  obtain ⟨service, -, h⟩ := Result.bind_eq_ok.mp h
  obtain ⟨clientIP, hclient, h⟩ := Result.bind_eq_ok.mp h
  cases h
  refine Result.exists_mapM_eq_ok fun cidr hc => ?_
  obtain ⟨net, hnet⟩ := parseClientIP_trusted hclient hc
  exact ⟨net, by rw [hnet]; rfl⟩

end Krouter.ControlPlane
