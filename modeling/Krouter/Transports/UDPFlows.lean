import Krouter.Lib.GoMap
import Krouter.Routing.Pick

/-! The datagram loop of a UDP listener and the relays of its flows, which share the map of flows. The
loop looks a client up, opens a flow and writes the datagram in steps between which relays go on. -/

namespace Krouter.UDP
open Routing

/-- The relay of a flow copies responses, has closed the socket, or has removed the entry of the flow. -/
inductive Relay where
  | copying
  | returned
  | removed
  deriving DecidableEq

structure Flow where
  client : String
  selection : Selection
  relay : Relay
  closed : Bool

/-- The map has the places of flows in the list of all that were opened. -/
structure Table where
  flows : GoMap String ℕ
  opened : List Flow

namespace Table

def add (t : Table) (client : String) (selection : Selection) : Table :=
  ⟨t.flows.insert client t.opened.length, t.opened ++ [⟨client, selection, .copying, false⟩]⟩

/-- `relayResponses` closes the socket as it returns. -/
def finish (t : Table) (i : ℕ) : Table :=
  { t with opened := t.opened.mapIdx fun j f => if j = i then { f with relay := .returned, closed := true } else f }

def remove (t : Table) (i : ℕ) (client : String) : Table :=
  ⟨t.flows.erase client, t.opened.mapIdx fun j f => if j = i then { f with relay := .removed } else f⟩

def close (t : Table) : Table :=
  { t with opened := t.opened.mapIdx fun j f => if t.flows[f.client]? = some j then { f with closed := true } else f }

/-- The clients of the flows and the backends they were opened to. -/
def sources (t : Table) : List (String × Selection) := t.opened.map fun f => (f.client, f.selection)

/-- The entry of a client is its flow whose relay has yet to remove it. -/
structure Kept (t : Table) : Prop where
  entry : ∀ (client : String) (i : ℕ), t.flows[client]? = some i → (t.opened[i]?).map Flow.client = some client
  live : ∀ (i : ℕ) (f : Flow), t.opened[i]? = some f → f.relay ≠ .removed → t.flows[f.client]? = some i
  closed : ∀ f ∈ t.opened, f.relay ≠ .copying → f.closed = true

/-- A relay, or the end of the loop, changes nothing else about a flow than how far it has come. -/
structure Moves (t t' : Table) : Prop where
  sources : t'.sources = t.sources
  flows : ∀ client : String, t.flows[client]? = none → t'.flows[client]? = none
  closed : (∀ f ∈ t.opened, f.closed = true) → ∀ f ∈ t'.opened, f.closed = true

variable {t : Table} {i : ℕ} {f : Flow}

theorem moves_of_mapIdx {flows : GoMap String ℕ} {g : ℕ → Flow → Flow}
    (hflows : ∀ client : String, t.flows[client]? = none → flows[client]? = none)
    (hg : ∀ j f, (g j f).client = f.client ∧ (g j f).selection = f.selection ∧ (f.closed = true → (g j f).closed = true)) :
    t.Moves ⟨flows, t.opened.mapIdx g⟩ := by
  refine ⟨List.ext_getElem? fun j => ?_, hflows, fun hall f hf => ?_⟩
  · simp only [sources, List.getElem?_map, List.getElem?_mapIdx, Option.map_map]
    congr 1
    funext f
    simp [hg j f]
  · obtain ⟨j, hj, rfl⟩ := List.mem_mapIdx.mp hf
    exact (hg j _).2.2 (hall _ (List.getElem_mem hj))

theorem moves_finish : t.Moves (t.finish i) := moves_of_mapIdx (fun _ h => h) (by grind)

theorem moves_remove : t.Moves (t.remove i f.client) :=
  moves_of_mapIdx (fun client h => by rw [GoMap.get_erase, h, ite_self]) (by grind)

theorem moves_close : t.Moves t.close := moves_of_mapIdx (fun _ h => h) (by grind)

theorem Kept.add (h : t.Kept) {client : String} (hnew : t.flows[client]? = none) (selection : Selection) :
    (t.add client selection).Kept := by
  obtain ⟨hentry, hlive, hclosed⟩ := h
  constructor <;> simp only [Table.add, GoMap.get_insert, List.getElem?_append, List.getElem?_singleton] <;> grind

theorem Kept.finish (h : t.Kept) (hf : t.opened[i]? = some f) (hcopying : f.relay = .copying) : (t.finish i).Kept := by
  obtain ⟨hentry, hlive, hclosed⟩ := h
  constructor <;> simp only [Table.finish, List.getElem?_mapIdx, List.mem_mapIdx] <;> grind

theorem Kept.remove (h : t.Kept) (hf : t.opened[i]? = some f) (hreturned : f.relay = .returned) :
    (t.remove i f.client).Kept := by
  obtain ⟨hentry, hlive, hclosed⟩ := h
  constructor <;> simp only [Table.remove, List.getElem?_mapIdx, List.mem_mapIdx, GoMap.get_erase] <;> grind

theorem Kept.close (h : t.Kept) : t.close.Kept := by
  obtain ⟨hentry, hlive, hclosed⟩ := h
  constructor <;> simp only [Table.close, List.getElem?_mapIdx, List.mem_mapIdx] <;> grind

theorem Kept.closed_of_close (h : t.Kept) (hf : f ∈ t.close.opened) : f.closed = true := by
  obtain ⟨j, hj, rfl⟩ := List.mem_mapIdx.mp hf
  have hlive := h.live j _ (List.getElem?_eq_getElem hj)
  have hclosed := h.closed _ (List.getElem_mem hj)
  grind

end Table

structure Datagram where
  client : String
  payload : String
  deriving DecidableEq

inductive Loop where
  | receiving
  | opening (d : Datagram)
  | writing (flow : ℕ) (d : Datagram)
  | returned
  deriving DecidableEq

def Loop.held : Loop → List Datagram
  | .opening d | .writing _ d => [d]
  | .receiving | .returned => []

structure State where
  table : Table
  loop : Loop
  received : List Datagram
  forwarded : List (ℕ × Datagram)
  relayed : List (ℕ × Datagram)

inductive Event where
  | receive (d : Datagram)
  | openFlow (tables : Tables) (index : EndpointsIndex) (turn : Turn) (dialed : Bool)
  | write (fails : Bool)
  | copy (flow : ℕ) (payload : String)
  /-- The relay meets its deadline, a closed socket, or a listener it cannot write to. -/
  | finish (flow : ℕ)
  | remove (flow : ℕ)
  | stop

def start : State := ⟨⟨∅, []⟩, .receiving, [], [], []⟩

/-- A step of the loop or of one relay; a party that is elsewhere does not move. -/
def step (port : Int32) (s : State) : Event → State
  | .receive d =>
    if s.loop = .receiving then
      match s.table.flows[d.client]? with
      | some i => { s with received := s.received ++ [d], loop := .writing i d }
      | none => { s with received := s.received ++ [d], loop := .opening d }
    else s
  | .openFlow tables index turn dialed =>
    match s.loop, (tables.pickUDP port index turn).filter fun _ => dialed with
    | .opening d, some selection =>
      { s with table := s.table.add d.client selection, loop := .writing s.table.opened.length d }
    | .opening _, none => { s with loop := .receiving }
    | _, _ => s
  | .write fails =>
    match s.loop with
    | .writing i d =>
      if fails || (s.table.opened[i]?).any Flow.closed then { s with loop := .receiving }
      else { s with loop := .receiving, forwarded := s.forwarded ++ [(i, d)] }
    | _ => s
  | .copy i payload =>
    match s.table.opened[i]? with
    | some f =>
      if f.relay = .copying ∧ f.closed = false then { s with relayed := s.relayed ++ [(i, ⟨f.client, payload⟩)] }
      else s
    | none => s
  | .finish i =>
    match s.table.opened[i]? with
    | some f => if f.relay = .copying then { s with table := s.table.finish i } else s
    | none => s
  | .remove i =>
    match s.table.opened[i]? with
    | some f => if f.relay = .returned then { s with table := s.table.remove i f.client } else s
    | none => s
  | .stop => if s.loop = .receiving then { s with loop := .returned, table := s.table.close } else s

def run (port : Int32) (events : List Event) : State := events.foldl (step port) start

/-- The datagram is of the flow's own client. -/
def Table.Own (t : Table) (x : ℕ × Datagram) : Prop := (t.sources[x.1]?).map Prod.fst = some x.2.client

def Loop.Fits (t : Table) : Loop → Prop
  | .receiving => True
  | .opening d => t.flows[d.client]? = none
  | .writing i d => t.Own (i, d)
  | .returned => ∀ f ∈ t.opened, f.closed = true

structure State.Kept (since : List (String × Selection)) (s : State) : Prop where
  table : s.table.Kept
  loop : s.loop.Fits s.table
  own : ∀ x ∈ s.forwarded ++ s.relayed, s.table.Own x
  order : (s.forwarded.map Prod.snd ++ s.loop.held).Sublist s.received
  pinned : since <+: s.table.sources

section
variable {since : List (String × Selection)} {s : State} {t : Table}

theorem Table.Own.mono {x : ℕ × Datagram} (h : s.table.Own x) (hsources : s.table.sources <+: t.sources) : t.Own x := by
  obtain ⟨rest, hrest⟩ := hsources
  obtain ⟨source, hsource, hclient⟩ := Option.map_eq_some_iff.mp h
  rw [Table.Own, ← hrest, List.getElem?_append_left (List.getElem?_eq_some_iff.mp hsource).1, hsource, ← hclient]
  rfl

theorem State.Kept.drop (h : s.Kept since) : { s with loop := .receiving }.Kept since :=
  { h with loop := trivial, order := (List.append_nil _).symm ▸ (List.sublist_append_left _ _).trans h.order }

theorem State.Kept.moves (h : s.Kept since) (ht : t.Kept) (hmoves : s.table.Moves t) :
    { s with table := t }.Kept since := by
  have hown : ∀ x, s.table.Own x → t.Own x := fun x hx => hx.mono (hmoves.sources ▸ List.prefix_rfl)
  refine ⟨ht, ?_, fun x hx => hown x (h.own x hx), h.order, hmoves.sources ▸ h.pinned⟩
  have hloop := h.loop
  cases hs : s.loop <;> rw [hs] at hloop
  · exact trivial
  · exact hmoves.flows _ hloop
  · exact hown _ hloop
  · exact hmoves.closed hloop

theorem State.Kept.step (h : s.Kept since) (port : Int32) (e : Event) : (step port s e).Kept since := by
  have hloop := h.loop
  have horder := h.order
  cases e with
  | receive d =>
    rw [UDP.step]
    split_ifs with hs
    · rw [hs] at horder
      have hreceived : (s.forwarded.map Prod.snd ++ [d]).Sublist (s.received ++ [d]) := by
        simpa [Loop.held] using horder
      split
      · have hclient := h.table.entry d.client _ ‹_›
        exact { h with loop := by simpa [Loop.Fits, Table.Own, Table.sources] using hclient, order := hreceived }
      · exact { h with loop := ‹_›, order := hreceived }
    · exact h
  | openFlow tables index turn dialed =>
    rw [UDP.step]
    split
    · rename_i d selection hs hpick
      rw [hs] at hloop horder
      have hsources : s.table.sources <+: (s.table.add d.client selection).sources := by
        simp [Table.sources, Table.add]
      refine ⟨h.table.add hloop _, ?_, fun x hx => (h.own x hx).mono hsources, horder, h.pinned.trans hsources⟩
      simp [Loop.Fits, Table.Own, Table.sources, Table.add]
    · exact h.drop
    · exact h
  | write fails =>
    rw [UDP.step]
    split
    · rename_i i d hs
      rw [hs] at hloop horder
      split_ifs
      · exact h.drop
      · refine { h with loop := trivial, own := fun x hx => ?_, order := by simpa [Loop.held] using horder }
        have hcases : x = (i, d) ∨ x ∈ s.forwarded ++ s.relayed := by
          simp only [List.mem_append, List.mem_singleton] at hx ⊢
          tauto
        rcases hcases with rfl | hold
        · exact hloop
        · exact h.own x hold
    · exact h
  | copy i payload =>
    rw [UDP.step]
    split
    · rename_i f hf
      split_ifs
      · refine { h with own := fun x hx => ?_ }
        rw [← List.append_assoc] at hx
        rcases List.mem_append.mp hx with hold | hnew
        · exact h.own x hold
        · rw [List.mem_singleton.mp hnew]
          simp [Table.Own, Table.sources, hf]
      · exact h
    · exact h
  | finish i =>
    rw [UDP.step]
    split
    · split_ifs with hcopying
      · exact h.moves (h.table.finish ‹_› hcopying) Table.moves_finish
      · exact h
    · exact h
  | remove i =>
    rw [UDP.step]
    split
    · split_ifs with hreturned
      · exact h.moves (h.table.remove ‹_› hreturned) Table.moves_remove
      · exact h
    · exact h
  | stop =>
    rw [UDP.step]
    split_ifs with hs
    · have hmoved := h.moves h.table.close Table.moves_close
      rw [hs] at horder
      exact { hmoved with loop := fun _ => h.table.closed_of_close, order := horder }
    · exact h

theorem State.Kept.steps (h : s.Kept since) (port : Int32) (events : List Event) :
    (events.foldl (UDP.step port) s).Kept since :=
  List.foldlRecOn events (UDP.step port) (motive := State.Kept since) h fun _ h e _ => h.step port e

end

theorem kept_run (port : Int32) (events : List Event) : (run port events).Kept [] := by
  refine State.Kept.steps ⟨⟨?_, ?_, ?_⟩, ?_, ?_, ?_, List.nil_prefix⟩ port events <;> simp [start, Loop.held, Loop.Fits]

/-- In every interleaving a client has one flow at a time, datagrams and responses stay with their client
and in order, a flow keeps the backend it was opened to, and no socket outlives the listener. -/
theorem flows_kept_apart (port : Int32) (before after : List Event) :
    let s := run port (before ++ after)
    (∀ (i j : ℕ) (f g : Flow), s.table.opened[i]? = some f → s.table.opened[j]? = some g → f.client = g.client →
      f.relay ≠ .removed → g.relay ≠ .removed → i = j) ∧
    (∀ x ∈ s.forwarded ++ s.relayed, s.table.Own x) ∧ (s.forwarded.map Prod.snd).Sublist s.received ∧
    (run port before).table.sources <+: s.table.sources ∧
    (s.loop = .returned → ∀ f ∈ s.table.opened, f.closed = true) := by
  have hbefore := kept_run port before
  have h := State.Kept.steps { hbefore with pinned := List.prefix_rfl } port after
  rw [run, ← List.foldl_append] at h
  refine ⟨fun i j f g hf hg hclient hlive hlive' => ?_, h.own, (List.sublist_append_left _ _).trans h.order, h.pinned,
    fun hs => ?_⟩
  · have hi := h.table.live i f hf hlive
    rw [hclient, h.table.live j g hg hlive'] at hi
    exact (Option.some.inj hi).symm
  · have hloop := h.loop
    rw [← run, hs] at hloop
    exact hloop

end Krouter.UDP
