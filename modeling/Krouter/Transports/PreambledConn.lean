import Krouter.Transports.Preamble

/-! Connections whose peers have to send a preamble: it is read on the first use, once, and only from a
trusted peer. -/

namespace Krouter.ProxyProto
open NetIP

inductive ConnError where
  | unusablePeer
  | untrusted
  | preamble (err : ReadError)
  deriving DecidableEq

/-- The trust is a function that may be nil; the reader is what the peer has sent and will send. -/
structure Conn where
  peer : String
  trusted : Option (Addr → Bool)
  reader : List UInt8
  /-- Whether the preamble was looked for. -/
  once : Bool
  source : Option AddrPort
  err : Option ConnError
  closed : Bool
  sent : List UInt8

def accept (peer : String) (trusted : Option (Addr → Bool)) (stream : List UInt8) : Conn :=
  ⟨peer, trusted, stream, false, none, none, false, []⟩

def peerAddr (peer : String) : Option Addr :=
  (GoNet.splitHostPort peer).bind fun hostport => (parseAddr hostport.1).map fun addr => addr.unmap.withoutZone

def Trusts (trusted : Option (Addr → Bool)) (peer : Addr) : Prop := trusted.any (· peer) = true

instance (trusted : Option (Addr → Bool)) (peer : Addr) : Decidable (Trusts trusted peer) :=
  inferInstanceAs (Decidable (_ = true))

namespace Conn

def reject (c : Conn) (err : ConnError) : Conn := { c with err := some err, closed := true }

def readPreamble (c : Conn) : Conn :=
  match peerAddr c.peer with
  | none => c.reject .unusablePeer
  | some peer =>
    if ¬ Trusts c.trusted peer then c.reject .untrusted
    else
      match ProxyProto.read c.reader with
      | (.error err, rest) => { c with reader := rest }.reject (.preamble err)
      | (.ok source, rest) => { c with reader := rest, source }

def preamble (c : Conn) : Conn := if c.once then c else { c.readPreamble with once := true }

inductive Remote where
  | client (source : AddrPort)
  | peer (addr : String)
  deriving DecidableEq

/-- A use of a connection. A read is for at most so many bytes, of which so many are there. -/
inductive Use where
  | read (size ready : Nat)
  | write (bytes : List UInt8)
  | remoteAddr

inductive Answer where
  | data (bytes : List UInt8) (err : Option ConnError)
  | written (err : Option ConnError)
  | addr (remote : Remote)
  deriving DecidableEq

def remote (c : Conn) : Remote :=
  match c.err, c.source with
  | none, some source => .client source
  | _, _ => .peer c.peer

def read (c : Conn) (size ready : Nat) : Answer × Conn :=
  let c := c.preamble
  match c.err with
  | some err => (.data [] (some err), c)
  | none => (.data (c.reader.take (min size ready)) none, { c with reader := c.reader.drop (min size ready) })

def write (c : Conn) (bytes : List UInt8) : Answer × Conn :=
  let c := c.preamble
  match c.err with
  | some err => (.written (some err), c)
  | none => (.written none, { c with sent := c.sent ++ bytes })

def remoteAddr (c : Conn) : Answer × Conn := (.addr c.preamble.remote, c.preamble)

def use (c : Conn) : Use → Answer × Conn
  | .read size ready => c.read size ready
  | .write bytes => c.write bytes
  | .remoteAddr => c.remoteAddr

def run (c : Conn) : List Use → List Answer × Conn
  | [] => ([], c)
  | u :: us => ((c.use u).1 :: ((c.use u).2.run us).1, ((c.use u).2.run us).2)

end Conn

def received (answers : List Conn.Answer) : List UInt8 :=
  answers.flatMap fun
    | .data bytes _ => bytes
    | _ => []

theorem received_cons (answer : Conn.Answer) (answers : List Conn.Answer) :
    received (answer :: answers) = received [answer] ++ received answers := by
  rw [received, received, received, List.flatMap_cons, List.flatMap_singleton]

def Conn.Answer.Refused (peer : String) : Conn.Answer → Prop
  | .data bytes err => bytes = [] ∧ err.isSome = true
  | .written err => err.isSome = true
  | .addr remote => remote = .peer peer

namespace Conn
variable {c : Conn}

theorem preamble_of_once (h : c.once = true) : c.preamble = c := if_pos h

theorem preamble_once (c : Conn) : c.preamble.once = true := by
  rw [preamble]
  split_ifs with h
  · exact h
  · rfl

theorem use_preamble (c : Conn) (u : Use) : c.preamble.use u = c.use u := by
  have hagain := preamble_of_once c.preamble_once
  cases u with
  | read size ready => rw [use, use, read, read, hagain]
  | write bytes => rw [use, use, write, write, hagain]
  | remoteAddr => rw [use, use, remoteAddr, remoteAddr, hagain]

theorem run_preamble (c : Conn) {us : List Use} (h : us ≠ []) : c.preamble.run us = c.run us := by
  cases us with
  | nil => exact absurd rfl h
  | cons u us => rw [run, run, use_preamble]

theorem use_rejected {err : ConnError} (honce : c.once = true) (herr : c.err = some err) (u : Use) :
    (c.use u).1.Refused c.peer ∧ (c.use u).2 = c := by
  cases u with
  | read size ready =>
    rw [use, read, preamble_of_once honce, herr]
    exact ⟨⟨rfl, rfl⟩, rfl⟩
  | write bytes =>
    rw [use, write, preamble_of_once honce, herr]
    exact ⟨rfl, rfl⟩
  | remoteAddr =>
    rw [use, remoteAddr, preamble_of_once honce, remote, herr]
    exact ⟨rfl, rfl⟩

theorem run_rejected {err : ConnError} (honce : c.once = true) (herr : c.err = some err) (us : List Use) :
    ∀ answer ∈ (c.run us).1, answer.Refused c.peer := by
  induction us with
  | nil => exact fun answer ha => by cases ha
  | cons u us ih =>
    obtain ⟨hrefused, hsame⟩ := use_rejected honce herr u
    intro answer ha
    rw [run, hsame] at ha
    rcases List.mem_cons.mp ha with rfl | ha
    · exact hrefused
    · exact ih answer ha

structure Keeps (c c' : Conn) : Prop where
  once : c'.once = true
  err : c'.err = none
  remote : c'.remote = c.remote

theorem use_read (honce : c.once = true) (herr : c.err = none) (u : Use) :
    Keeps c (c.use u).2 ∧ received [(c.use u).1] ++ (c.use u).2.reader = c.reader ∧
      ∀ remote, (c.use u).1 = .addr remote → remote = c.remote := by
  cases u with
  | read size ready =>
    rw [use, read, preamble_of_once honce, herr]
    refine ⟨⟨honce, rfl, by rw [Conn.remote, Conn.remote, herr]⟩, ?_, fun remote ha => by cases ha⟩
    simp [received]
  | write bytes =>
    rw [use, write, preamble_of_once honce, herr]
    exact ⟨⟨honce, rfl, by rw [Conn.remote, Conn.remote, herr]⟩, rfl, fun remote ha => by cases ha⟩
  | remoteAddr =>
    rw [use, remoteAddr, preamble_of_once honce]
    refine ⟨⟨honce, herr, rfl⟩, rfl, fun remote ha => ?_⟩
    cases ha
    rfl

theorem run_read (honce : c.once = true) (herr : c.err = none) (us : List Use) :
    received (c.run us).1 ++ (c.run us).2.reader = c.reader ∧
      ∀ remote, .addr remote ∈ (c.run us).1 → remote = c.remote := by
  induction us generalizing c with
  | nil => exact ⟨rfl, fun remote ha => by cases ha⟩
  | cons u us ih =>
    obtain ⟨hkeeps, hdata, haddr⟩ := use_read honce herr u
    obtain ⟨hrest, haddrs⟩ := ih hkeeps.once hkeeps.err
    rw [run]
    refine ⟨?_, fun remote ha => ?_⟩
    · rw [received_cons, List.append_assoc, hrest, hdata]
    · rcases List.mem_cons.mp ha with ha | ha
      · exact haddr remote ha.symm
      · rw [haddrs remote ha, hkeeps.remote]

end Conn

/-! ## Connections from the start -/

def TrustedPeer (trusted : Option (Addr → Bool)) (peer : String) : Prop :=
  ∃ addr, peerAddr peer = some addr ∧ Trusts trusted addr

section
variable {peer : String} {trusted : Option (Addr → Bool)} {stream : List UInt8}

theorem preamble_accept :
    (accept peer trusted stream).preamble = { (accept peer trusted stream).readPreamble with once := true } := rfl

theorem preamble_read {source : Option AddrPort} {payload : List UInt8} (hpeer : TrustedPeer trusted peer)
    (hread : read stream = (.ok source, payload)) :
    (accept peer trusted stream).preamble = ⟨peer, trusted, payload, true, source, none, false, []⟩ := by
  obtain ⟨addr, haddr, htrusts⟩ := hpeer
  rw [preamble_accept, Conn.readPreamble, accept]
  rw [haddr]
  dsimp only
  rw [if_neg (not_not_intro htrusts), hread]

theorem preamble_rejected (h : ¬ (TrustedPeer trusted peer ∧ ∃ source payload, read stream = (.ok source, payload))) :
    ∃ err, (accept peer trusted stream).preamble.err = some err ∧
      (accept peer trusted stream).preamble.peer = peer ∧ (accept peer trusted stream).preamble.closed = true := by
  rw [preamble_accept, Conn.readPreamble, accept]
  cases haddr : peerAddr peer with
  | none => exact ⟨.unusablePeer, rfl, rfl, rfl⟩
  | some addr =>
    dsimp only
    by_cases htrusts : Trusts trusted addr
    case neg =>
      rw [if_pos htrusts]
      exact ⟨.untrusted, rfl, rfl, rfl⟩
    rw [if_neg (not_not_intro htrusts)]
    cases hread : read stream with
    | mk result rest =>
      cases result with
      | error err => exact ⟨.preamble err, rfl, rfl, rfl⟩
      | ok source => exact absurd ⟨⟨addr, haddr, htrusts⟩, source, rest, hread⟩ h

/-- On a connection whose peer is not trusted or whose preamble cannot be read, no use gets a byte
or an address other than the peer's. -/
theorem run_accept_rejected
    (h : ¬ (TrustedPeer trusted peer ∧ ∃ source payload, read stream = (.ok source, payload)))
    (us : List Conn.Use) : ∀ answer ∈ ((accept peer trusted stream).run us).1, answer.Refused peer := by
  cases us with
  | nil => exact fun answer ha => by cases ha
  | cons u us =>
    obtain ⟨err, herr, hpeer, -⟩ := preamble_rejected h
    have hrefused := Conn.run_rejected (Conn.preamble_once _) herr (u :: us)
    rwa [Conn.run_preamble _ (List.cons_ne_nil u us), hpeer] at hrefused

theorem run_accept_read {source : Option AddrPort} {payload : List UInt8} (hpeer : TrustedPeer trusted peer)
    (hread : read stream = (.ok source, payload)) {us : List Conn.Use} (hus : us ≠ []) :
    received ((accept peer trusted stream).run us).1 ++ ((accept peer trusted stream).run us).2.reader = payload ∧
      ∀ remote, .addr remote ∈ ((accept peer trusted stream).run us).1 →
        remote = source.elim (.peer peer) .client := by
  have hpreamble := preamble_read hpeer hread
  have hrun := Conn.run_read (c := (accept peer trusted stream).preamble) (Conn.preamble_once _)
    (by rw [hpreamble]) us
  rw [Conn.run_preamble _ hus, hpreamble] at hrun
  refine ⟨hrun.1, fun remote ha => ?_⟩
  rw [hrun.2 remote ha]
  cases source with
  | none => rfl
  | some source => rfl

end

/-- Both forms of a preamble are read back to the client's address and port and leave exactly the payload;
those that name no client give no address; and a connection shows the payload, in order, or the client only
if its peer is trusted and its preamble was read. -/
theorem preamble_read_exactly :
    (∀ (c : Connection) (payload : List UInt8), read (c.encodeV1 ++ payload) = (.ok (some c.client), payload)) ∧
    (∀ (c : Connection) (tlvs payload : List UInt8), (c.addressBlock ++ tlvs).length < 65536 →
      read (encodeV2 cmdProxy c.endpoints.family (c.addressBlock ++ tlvs) ++ payload) =
        (.ok (some c.client), payload)) ∧
    (∀ (family : UInt8) (body payload : List UInt8), body.length < 65536 →
      read (encodeV2 cmdLocal family body ++ payload) = (.ok none, payload) ∧
        read (encodeV2 cmdProxy famUnspec body ++ payload) = (.ok none, payload)) ∧
    (∀ (u : UnknownLine) (payload : List UInt8), read (u.encode ++ payload) = (.ok none, payload)) ∧
    ∀ (peer : String) (trusted : Option (Addr → Bool)) (stream : List UInt8) (us : List Conn.Use),
      (¬ (TrustedPeer trusted peer ∧ ∃ source payload, read stream = (.ok source, payload)) →
        ∀ answer ∈ ((accept peer trusted stream).run us).1, answer.Refused peer) ∧
      ∀ source payload, TrustedPeer trusted peer → read stream = (.ok source, payload) → us ≠ [] →
        received ((accept peer trusted stream).run us).1 ++ ((accept peer trusted stream).run us).2.reader =
            payload ∧
          ∀ remote, .addr remote ∈ ((accept peer trusted stream).run us).1 →
            remote = source.elim (.peer peer) .client := by
  refine ⟨Connection.read_encodeV1, fun c tlvs payload h => ?_, fun family body payload h => ⟨?_, ?_⟩,
    UnknownLine.read_encode, fun peer trusted stream us => ⟨fun h => run_accept_rejected h us, ?_⟩⟩
  · rw [read_encodeV2 _ _ h, c.readBlock_addressBlock]
  · rw [read_encodeV2 _ _ h, readBlock_local]
  · rw [read_encodeV2 _ _ h, readBlock_unspec]
  · exact fun source payload hpeer hread hus => run_accept_read hpeer hread hus

/-! ## One connection -/

def sampleConnection : Connection := ⟨.tcp4 0xCB007107#32 0x0A000001#32, 56324, 443⟩

def sampleStream : List UInt8 :=
  encodeV2 cmdProxy famTCP4 (sampleConnection.addressBlock ++ [4, 0, 0]) ++ [71, 69]

theorem sample_read_exactly : read sampleStream = (.ok (some sampleConnection.client), [71, 69]) ∧
    ((accept "10.1.2.3:40000" (some fun _ => true) sampleStream).run [.read 1 5, .remoteAddr]).1 =
      [.data [71] none, .addr (.client ⟨.v4 0xCB007107#32, 56324⟩)] ∧
    ∀ answer ∈ ((accept "10.1.2.3:40000" none sampleStream).run [.read 1 5, .remoteAddr]).1,
      answer.Refused "10.1.2.3:40000" := by
  refine ⟨preamble_read_exactly.2.1 sampleConnection [4, 0, 0] [71, 69] (by decide), by decide,
    (preamble_read_exactly.2.2.2.2 "10.1.2.3:40000" none sampleStream [.read 1 5, .remoteAddr]).1 ?_⟩
  rintro ⟨⟨addr, -, htrusts⟩, -⟩
  cases htrusts

end Krouter.ProxyProto
