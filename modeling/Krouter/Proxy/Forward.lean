import Krouter.Proxy.Serve
import Krouter.Routing.Pick

/-! The connections that the data plane opens: proxied requests with their mirrors, and the
TCP, UDP and TLS forwarders. -/

namespace Krouter.Proxy
open Compiled Routing

/-! ## Connections -/

inductive Transport where
  | http
  | h2c
  | tls (settings : TLSTransport)
  /-- The bytes of a client's connection, or of a TLS session that ended at the gateway. -/
  | stream
  /-- The client's own TLS session. -/
  | passthrough
  | datagram
  deriving DecidableEq

structure Connection extends Target where
  transport : Transport
  deriving DecidableEq

def Connection.address (c : Connection) : String := hostPort c.endpoint.address c.endpoint.port

/-! ## Requests -/

/-- What one mirror meets: the comparison of the random draw with its percentage, and the
reading of its endpoint counter. -/
structure Draw where
  below : Json.Number → Bool
  counter : Nat

/-- What a request meets on its way besides the matched rule. -/
structure Exchange where
  index : EndpointsIndex
  turn : Turn
  /-- The reverse proxy accepted the request and built the outbound one. -/
  rewritten : Bool
  /-- The body outgrew the capture limit of the mirrors. -/
  overflowed : Bool
  /-- The endpoints when the mirrors are fired, after the response. -/
  mirrorIndex : EndpointsIndex
  draws : Nat → Draw

def transportOver (plain : Transport) (backend : BackendTable) : Transport :=
  match backend.tlsTransport with
  | none => plain
  | some settings => .tls settings

def requestTransport (rule : RuleTable) (backend : BackendTable) : Transport :=
  transportOver (if rule.grpc || backend.h2c then .h2c else .http) backend

/-- With the scheme `http` a transport speaks cleartext, whatever its TLS settings. -/
def cleartext : Transport → Transport
  | .tls _ => .http
  | transport => transport

def sampleMirrors (x : Exchange) (mirrors : List MirrorTable) : List (MirrorTable × Nat) :=
  mirrors.zipIdx.filterMap fun mirror =>
    if (x.draws mirror.2).below mirror.1.percent then some (mirror.1, (x.draws mirror.2).counter) else none

/-- The mirrored copies of a request; nothing here looks at the validity of a mirror. -/
def fireMirrors (x : Exchange) (transport : Transport) (mirrors : List (MirrorTable × Nat)) :
    List Connection :=
  if x.overflowed then []
  else mirrors.filterMap fun mirror =>
    if mirror.1.backend.tlsInvalid then none
    else (mirror.1.backend.pick x.mirrorIndex ⟨0, mirror.2⟩).map fun endpoint =>
      ⟨⟨mirror.1.backend, endpoint⟩, transportOver (cleartext transport) mirror.1.backend⟩

/-- How `forward` ends: with an answer of the gateway, or with a request to the backend and
the mirrored copies of it. -/
inductive Forwarded where
  | answered (status : Int) (response : Response)
  | proxied (upstream : Connection) (mirrors : List Connection)
  deriving DecidableEq

def Forwarded.connections : Forwarded → List Connection
  | .answered _ _ => []
  | .proxied upstream mirrors => upstream :: mirrors

def httpError (w : Writer) (status : Int) (message : String) : Forwarded :=
  .answered status ⟨w, .error status message⟩

def grpcStatus (w : Writer) (code message : String) : Forwarded :=
  .answered 200 ⟨w, .grpcStatus code message⟩

def forward (w : Writer) (rule : RuleTable) (x : Exchange) : Forwarded :=
  match rule.pickBackend x.turn with
  | none =>
    if rule.grpc then grpcStatus w "14" "no ready endpoints" else httpError w 500 "no available backend"
  | some backend =>
    if ¬ backend.valid then
      if rule.grpc then grpcStatus w "13" "invalid backend reference"
      else httpError w 500 "invalid backend reference"
    else if backend.tlsInvalid then httpError w 502 "bad gateway"
    else match backend.pick x.index x.turn with
      | none =>
        if rule.grpc then grpcStatus w "14" "no ready endpoints" else httpError w 503 "no ready endpoints"
      | some endpoint =>
        if ¬ x.rewritten then httpError w 502 "bad gateway"
        else
          let transport := requestTransport rule backend
          .proxied ⟨⟨backend, endpoint⟩, transport⟩
            (fireMirrors x transport (sampleMirrors x rule.mirrors))

end Krouter.Proxy

/-! ## Forwarders -/

namespace Krouter.Routing.Tables
open Proxy

def openL4 (served : PortTable → Bool) (transport : Transport) (t : Tables) (port : Int32)
    (index : EndpointsIndex) (turn : Turn) : Option Connection :=
  (t.byPort[port]?).bind fun table =>
    if served table then (l4Target table index turn).map fun picked => ⟨picked.2, transport⟩ else none

def openTCP : Tables → Int32 → EndpointsIndex → Turn → Option Connection := openL4 PortTable.tcp .stream

def openUDP : Tables → Int32 → EndpointsIndex → Turn → Option Connection := openL4 PortTable.udp .datagram

/-- A session that ends at the gateway needs the listener's certificate, and goes on in
the clear. -/
def openTLS (t : Tables) (port : Int32) (sni : String) (index : EndpointsIndex) (turn : Turn) :
    Option Connection :=
  (t.byPort[port]?).bind fun table =>
    if table.tlsPassthrough then
      (tlsTarget table sni index turn).bind fun picked =>
        if ¬ picked.1.listener.terminate then some ⟨picked.2, .passthrough⟩
        else if picked.1.listener.cert.isSome then some ⟨picked.2, .stream⟩ else none
    else none

/-! The forwarders dial what the pickers select. -/

end Krouter.Routing.Tables
