import Krouter.Lib.CopyLoop
import Krouter.Lib.Runs

/-! `Splice` joins the two directions of a client's connection and a backend's. When the copy loop of one
has come to its end, it closes what it writes to. -/

namespace Krouter.TCP
open CopyLoop

/-- What the downstream connection is; the one to the backend is always dialed as plain TCP. -/
inductive ConnKind where
  | tcpConn
  | preambledConn
  | tlsConn
  deriving DecidableEq

inductive Closing where
  | writing
  | everything
  deriving DecidableEq

/-- Only a `*net.TCPConn` is closed by half, whether or not the others could be. -/
def closeWrite : ConnKind → Closing
  | .tcpConn => .writing
  | .preambledConn | .tlsConn => .everything

structure State where
  downstream : ConnKind
  /-- From the client to the backend. -/
  received : Flow UInt8
  /-- From the backend to the client. -/
  sent : Flow UInt8
  /-- Whether the downstream connection was closed as a whole. -/
  closed : Bool
  deriving DecidableEq

inductive Event where
  | received (m : Move)
  | sent (m : Move)
  /-- The read of a connection that this side has closed. -/
  | readClosed
  deriving DecidableEq

def start (downstream : ConnKind) (fromClient fromBackend : List UInt8) : State :=
  ⟨downstream, .start fromClient, .start fromBackend, false⟩

/-- The two loops take turns in any order. What a wrapped connection had buffered can still be
read after it is closed. -/
def step (s : State) : Event → Option State
  -- at its end the backend's connection is closed for writing, which leaves the other loop alone
  | .received m => (s.received.move m).map fun f => { s with received := f }
  | .sent m =>
    (s.sent.move m).map fun f =>
      { s with sent := f, closed := s.closed || (m = .finish && closeWrite s.downstream = .everything) }
  | .readClosed =>
    if s.closed = true ∧ s.received.running = true ∧ s.received.held = [] then
      some { s with received := { s.received with running := false } }
    else none

def State.Returned (s : State) : Prop := s.received.running = false ∧ s.sent.running = false

/-- Everything that either side sent was written to the other one, and the counts say so. -/
structure State.Delivered (fromClient fromBackend : List UInt8) (s : State) : Prop where
  received : s.received.written = fromClient
  sent : s.sent.written = fromBackend
  receivedCount : s.received.count = fromClient.length
  sentCount : s.sent.count = fromBackend.length

/-- The backend's direction ends on a connection that is closed by half, or as the last one. -/
def EndsLast (s : State) (e : Event) : Prop :=
  e = .sent .finish → closeWrite s.downstream = .writing ∨ s.received.running = false

instance (s : State) (e : Event) : Decidable (EndsLast s e) :=
  inferInstanceAs (Decidable (_ → _))

section
variable {fromClient fromBackend : List UInt8} {s s' : State} {e : Event}

/-- The invariant: a connection is closed as a whole only when nothing is read from it any more. -/
structure Inv (fromClient fromBackend : List UInt8) (s : State) : Prop where
  received : s.received.Sound fromClient
  sent : s.sent.Sound fromBackend
  closed : s.closed = true → s.received.running = false

theorem inv_start (downstream : ConnKind) : Inv fromClient fromBackend (start downstream fromClient fromBackend) :=
  ⟨Flow.sound_start fromClient, Flow.sound_start fromBackend, fun h => by cases h⟩

theorem Inv.step (h : Inv fromClient fromBackend s) (hlast : EndsLast s e) (hs : step s e = some s') :
    Inv fromClient fromBackend s' := by
  cases e with
  | received m =>
    obtain ⟨f, hm, rfl⟩ := Option.map_eq_some_iff.mp hs
    refine ⟨h.received.move hm, h.sent, fun hclosed => ?_⟩
    have hstopped := h.closed hclosed
    rcases Flow.move_running hm with rfl | ⟨hrunning, -⟩
    · rw [Flow.move, if_neg fun hend => Bool.false_ne_true (hstopped.symm.trans hend.1)] at hm
      cases hm
    · exact hrunning.trans hstopped
  | sent m =>
    obtain ⟨f, hm, rfl⟩ := Option.map_eq_some_iff.mp hs
    refine ⟨h.received, h.sent.move hm, fun hclosed => ?_⟩
    rcases Bool.or_eq_true_iff.mp hclosed with hbefore | hnow
    · exact h.closed hbefore
    · rw [Bool.and_eq_true, decide_eq_true_eq, decide_eq_true_eq] at hnow
      rcases hlast (congrArg Event.sent hnow.1) with hhalf | hstopped
      · rw [hhalf] at hnow
        cases hnow.2
      · exact hstopped
  | readClosed =>
    rw [TCP.step] at hs
    split_ifs at hs with hread
    exact absurd (h.closed hread.1) (by rw [hread.2.1]; decide)

end

/-- In every interleaving in which the backend's direction ends last, or on a connection that can
be closed by half, whatever either side sent is delivered when `Splice` returns. -/
theorem splice_delivers (downstream : ConnKind) {fromClient fromBackend : List UInt8} {es : List Event} {s : State}
    (hrun : Runs step EndsLast (start downstream fromClient fromBackend) es s) (hreturned : s.Returned) :
    s.Delivered fromClient fromBackend := by
  have hinv : Inv fromClient fromBackend s :=
    hrun.invariant (Inv fromClient fromBackend) (fun _ _ _ h hlast hs => h.step hlast hs) (inv_start downstream)
  exact ⟨hinv.received.complete hreturned.1, hinv.sent.complete hreturned.2, hinv.received.count_eq hreturned.1,
    hinv.sent.count_eq hreturned.2⟩

def clientFirst : List Event :=
  [.received (.send 2), .received .close, .received (.read 2), .received (.write 2), .received .finish,
    .sent (.send 1), .sent .close, .sent (.read 1), .sent (.write 1), .sent .finish]

def clientFirstEnd : State :=
  ⟨.tlsConn, ⟨[], true, [], [], [1, 2], 2, false⟩, ⟨[], true, [], [], [3], 1, false⟩, true⟩

theorem client_first_delivers : Runs step EndsLast (start .tlsConn [1, 2] [3]) clientFirst clientFirstEnd ∧
    clientFirstEnd.Delivered [1, 2] [3] := by
  have hrun : Runs step EndsLast (start .tlsConn [1, 2] [3]) clientFirst clientFirstEnd := Runs.of_exec (by decide)
  exact ⟨hrun, splice_delivers .tlsConn hrun ⟨rfl, rfl⟩⟩

def backendFirst : List Event :=
  [.received (.send 1), .received (.read 1), .received (.write 1), .sent (.send 1), .sent .close, .sent (.read 1),
    .sent (.write 1), .received (.send 1), .sent .finish, .readClosed, .received .close]

def backendFirstEnd (downstream : ConnKind) : State :=
  ⟨downstream, ⟨[], true, [2], [], [1], 1, false⟩, ⟨[], true, [], [], [3], 1, false⟩, true⟩

theorem backend_first_loses :
    Runs step (fun _ _ => True) (start .tlsConn [1, 2] [3]) backendFirst (backendFirstEnd .tlsConn) ∧
    Runs step (fun _ _ => True) (start .preambledConn [1, 2] [3]) backendFirst (backendFirstEnd .preambledConn) ∧
    (backendFirstEnd .tlsConn).Returned ∧ ¬ (backendFirstEnd .tlsConn).Delivered [1, 2] [3] := by
  refine ⟨Runs.of_exec (by decide), Runs.of_exec (by decide), ⟨rfl, rfl⟩, fun hdelivered => ?_⟩
  exact absurd hdelivered.received (by decide)

end Krouter.TCP
