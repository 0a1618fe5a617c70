import Krouter.Lib.GoNet
import Krouter.Proxy.Extensions
import Krouter.Routing.Match

/-! The request path of the data plane. -/

namespace Krouter.Proxy
open Std Compiled Auth Http GoString Routing

/-- How a request ends. The last three go past the enforcement chain: an answered preflight, a redirect, and
the call of `forward`, which alone fires mirrors. -/
inductive Outcome where
  | misdirected
  | authEndpoint (candidates : List Enforcer)
  | unimplemented
  | notFound
  | rejected (enforced : Enforced)
  | preflight (w : Writer) (r : Request) (cors : CORS)
  | redirect (w : Writer) (r : Request) (filter : Filter) (withTLS : Bool)
  | forward (w : Writer) (r : Request) (rule : RuleTable) (withTLS trustedPeer : Bool)

def redirectFilter (rule : RuleTable) : Option Filter :=
  rule.filters.find? fun filter => filter.type = filterRequestRedirect

/-- What follows the enforcement chain of a matched rule. -/
def dispatch (enforced : Enforced) (rule : RuleTable) (withTLS trustedPeer : Bool) : Outcome :=
  if enforced.status = 0 then
    match rule.cors, isCORSPreflight enforced.request with
    | some cors, true => .preflight enforced.writer enforced.request cors
    | _, _ =>
      match redirectFilter rule with
      | some filter => .redirect enforced.writer enforced.request filter withTLS
      | none => .forward enforced.writer enforced.request rule withTLS trustedPeer
  else .rejected enforced

/-- The connection's SNI selected another listener than the authority. -/
def isMisdirected (tables : Tables) (port : Int32) (withTLS : Bool) (r : Request) : Bool :=
  withTLS && (r.tls.map fun serverName =>
    tables.misdirected port serverName (GoNet.hostOnly r.host)).getD false

def serve (env : Environment) (tables : Tables) (port : Int32) (withTLS : Bool) (r : Request) :
    Option Outcome :=
  let host := GoNet.hostOnly r.host
  let trust := ((tables.byPort[port]?).map PortTable.trust).getD []
  let (clientIP, trustedPeer) := env.resolve trust r
  if isMisdirected tables port withTLS r then some .misdirected
  else if tables.authEndpoint port host r.path ≠ [] then
    some (.authEndpoint (tables.authEndpoint port host r.path))
  else
    match tables.matchRequest port host r with
    | none => some (if isGRPCRequest r then .unimplemented else .notFound)
    | some c => (serveExtensions env ⟨∅, []⟩ r c.rule clientIP).map fun enforced =>
        dispatch enforced c.rule withTLS trustedPeer

def clientAddress (env : Environment) (tables : Tables) (port : Int32) (r : Request) : String :=
  (env.resolve (((tables.byPort[port]?).map PortTable.trust).getD []) r).1

def Outcome.handed : Outcome → Option (Writer × Request)
  | .preflight w r _ => some (w, r)
  | .redirect w r _ _ => some (w, r)
  | .forward w r _ _ _ => some (w, r)
  | _ => none

theorem serve_handed {env : Environment} {tables : Tables} {port : Int32} {withTLS : Bool} {r : Request}
    {outcome : Outcome} {handed : Writer × Request} (h : serve env tables port withTLS r = some outcome)
    (hpast : outcome.handed = some handed) : ∃ c enforced trustedPeer,
      tables.matchRequest port (GoNet.hostOnly r.host) r = some c ∧
      serveExtensions env ⟨∅, []⟩ r c.rule (clientAddress env tables port r) = some enforced ∧
      enforced.status = 0 ∧ dispatch enforced c.rule withTLS trustedPeer = outcome ∧
      handed = (enforced.writer, enforced.request) := by
  unfold serve at h
  dsimp only at h
  by_cases hmis : isMisdirected tables port withTLS r = true
  · rw [if_pos hmis] at h
    cases h
    cases hpast
  rw [if_neg hmis] at h
  by_cases hend : tables.authEndpoint port (GoNet.hostOnly r.host) r.path ≠ []
  · rw [if_pos hend] at h
    cases h
    cases hpast
  rw [if_neg hend] at h
  cases hm : tables.matchRequest port (GoNet.hostOnly r.host) r with
  | none =>
    rw [hm] at h
    split_ifs at h <;> cases h <;> cases hpast
  | some c =>
    rw [hm] at h
    obtain ⟨enforced, hx, hd⟩ := Option.map_eq_some_iff.mp h
    subst hd
    unfold dispatch at hpast
    split_ifs at hpast with h0
    · refine ⟨c, enforced, _, rfl, hx, h0, rfl, ?_⟩
      split at hpast
      · exact (Option.some.inj hpast).symm
      · split at hpast <;> exact (Option.some.inj hpast).symm
    · cases hpast

/-! ## The TLS configuration of a handshake -/

structure ServerConfig where
  certificate : Certificate
  nextProtos : List String
  clientAuth : ClientAuthType
  clientCAs : Option String
  deriving DecidableEq

def ServerConfig.validation (config : ServerConfig) : ClientAuthType × Option String :=
  (config.clientAuth, config.clientCAs)

def tlsConfigFor (tables : Tables) (port : Int32) (serverName : String) : Except String ServerConfig :=
  match (tables.certificateFor port serverName).bind fun l => l.1.cert.map (l.1, ·) with
  | none => .error ("no certificate for port " ++ String.ofList (Decimal.itoa port.toInt))
  | some (listener, cert) =>
    if listener.clientAuth ≠ .noClientCert then
      .ok ⟨cert, ["h2", "http/1.1"], listener.clientAuth, listener.clientCAs⟩
    else .ok ⟨cert, ["h2", "http/1.1"], .noClientCert, none⟩

theorem tlsConfigFor_ok {tables : Tables} {port : Int32} {serverName : String} {listener : ListenerTable}
    {i : Nat} {cert : Certificate} (h : tables.certificateFor port serverName = some (listener, i))
    (hc : listener.cert = some cert) :
    ∃ config, tlsConfigFor tables port serverName = .ok config ∧
      config.validation = if listener.clientAuth ≠ .noClientCert then
        (listener.clientAuth, listener.clientCAs) else (.noClientCert, none) := by
  have hbind : ((tables.certificateFor port serverName).bind fun l => l.1.cert.map (l.1, ·)) =
      some (listener, cert) := by
    rw [h, Option.bind_some, hc]
    rfl
  rw [tlsConfigFor, hbind]
  dsimp only
  split_ifs
  · exact ⟨_, rfl, rfl⟩
  · exact ⟨_, rfl, rfl⟩

end Krouter.Proxy
