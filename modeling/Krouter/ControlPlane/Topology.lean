import Krouter.ControlPlane.GatewayStatus
import Krouter.ControlPlane.RouteAttachment
import Krouter.Lib.KeySort
import Mathlib.Data.List.Induction

/-! The topology of a pass and its revision. The routes are gathered by kind, namespace and name, and
sorted by namespace and name alone. The manifests of the objects do not count and are left out. -/

namespace Krouter.ControlPlane
open Compiled GoString KeySort Status

structure ListenerInfo where
  name : String
  port : Int32
  protocol : String
  hostname : String
  internalPort : Int32
  valid : Bool
  reason : String
  attachedRoutes : Int32

structure GatewayInfo where
  ns : String
  name : String
  uid : String
  className : String
  address : String
  generation : String
  accepted : Bool
  acceptedReason : String
  programmed : Bool
  programmedReason : String
  listeners : List ListenerInfo

structure RouteParentInfo where
  gatewayNs : String
  gatewayName : String
  gatewayUID : String
  accepted : Bool
  reason : String
  refsResolved : Bool
  refsReason : String
  rules : List Rule

structure RouteInfo where
  kind : String
  ns : String
  name : String
  uid : String
  hostnames : List String
  parents : List RouteParentInfo

structure Topology where
  revision : String
  gateways : List GatewayInfo
  routes : List RouteInfo

/-! ## The payload -/

section
open Json Json.Codec

/-- A list that was never appended to is nil. -/
def nullable {α : Type} (enc : α → Value) (l : List α) : Value := if l = [] then .null else .array (l.map enc)

def ListenerInfo.enc (l : ListenerInfo) : Value := .object
  [("name", .string l.name), ("port", int32.enc l.port), ("protocol", .string l.protocol),
    ("hostname", .string l.hostname), ("internalPort", int32.enc l.internalPort), ("valid", .bool l.valid),
    ("reason", .string l.reason), ("attachedRoutes", int32.enc l.attachedRoutes)]

def GatewayInfo.enc (g : GatewayInfo) : Value := .object
  [("namespace", .string g.ns), ("name", .string g.name), ("uid", .string g.uid), ("class", .string g.className),
    ("address", .string g.address), ("generation", .string g.generation), ("accepted", .bool g.accepted),
    ("acceptedReason", .string g.acceptedReason), ("programmed", .bool g.programmed),
    ("programmedReason", .string g.programmedReason), ("listeners", nullable ListenerInfo.enc g.listeners)]

def RouteParentInfo.enc (r : RouteParentInfo) : Value := .object
  [("gatewayNamespace", .string r.gatewayNs), ("gatewayName", .string r.gatewayName),
    ("gatewayUID", .string r.gatewayUID), ("accepted", .bool r.accepted), ("reason", .string r.reason),
    ("refsResolved", .bool r.refsResolved), ("refsReason", .string r.refsReason),
    ("rules", nullable ruleCodec.enc r.rules)]

def RouteInfo.enc (r : RouteInfo) : Value := .object
  [("kind", .string r.kind), ("namespace", .string r.ns), ("name", .string r.name), ("uid", .string r.uid),
    ("hostnames", nullable .string r.hostnames), ("parents", nullable RouteParentInfo.enc r.parents)]

def Topology.enc (t : Topology) : Value := .object
  [("revision", .string t.revision), ("gateways", nullable GatewayInfo.enc t.gateways),
    ("routes", nullable RouteInfo.enc t.routes)]

def Topology.payload (t : Topology) : String := Json.marshal t.enc

theorem nullable_wellFormed {α : Type} {enc : α → Value} (h : ∀ a, WellFormed (enc a)) (l : List α) :
    WellFormed (nullable enc l) := by
  have hitems : WellFormedItems (l.map enc) := by
    induction l with
    | nil => exact trivial
    | cons a l ih => exact ⟨h a, ih⟩
  rw [nullable]
  split
  · exact trivial
  · exact hitems

theorem Topology.wellFormed (t : Topology) : WellFormed t.enc := by
  have hlistener : ∀ l : ListenerInfo, WellFormed l.enc := fun l => ⟨trivial, int32.wellFormed _, trivial, trivial,
    int32.wellFormed _, trivial, trivial, int32.wellFormed _, trivial⟩
  have hgateway : ∀ g : GatewayInfo, WellFormed g.enc := fun g => ⟨trivial, trivial, trivial, trivial, trivial,
    trivial, trivial, trivial, trivial, trivial, nullable_wellFormed hlistener _, trivial⟩
  have hparent : ∀ r : RouteParentInfo, WellFormed r.enc := fun r => ⟨trivial, trivial, trivial, trivial, trivial,
    trivial, trivial, nullable_wellFormed ruleCodec.wellFormed _, trivial⟩
  have hstring : ∀ s : String, WellFormed (.string s) := fun _ => trivial
  have hroute : ∀ r : RouteInfo, WellFormed r.enc := fun r => ⟨trivial, trivial, trivial, trivial,
    nullable_wellFormed hstring _, nullable_wellFormed hparent _, trivial⟩
  exact ⟨trivial, nullable_wellFormed hgateway _, nullable_wellFormed hroute _, trivial⟩

theorem map_enc_of_nullable {α : Type} {enc : α → Value} {l l' : List α} (h : nullable enc l = nullable enc l') :
    l.map enc = l'.map enc := by
  unfold nullable at h
  split_ifs at h with hl hl'
  · rw [hl, hl']
  · exact Value.array.inj h

end

/-! ## Gathering -/

def outcomeKey (kind ns name : String) : String := kind ++ ":" ++ nsName ns name

structure TopologyBuilder where
  gateways : List GatewayInfo
  routes : GoMap String RouteInfo

namespace TopologyBuilder
variable (b : TopologyBuilder)

def addGateway (gw : Gateway) (className : String) (input : StatusInput) (generation : String) :
    TopologyBuilder :=
  let listeners := input.listeners.map fun lst => ⟨lst.spec.name, lst.spec.port, lst.spec.protocol,
    lst.spec.hostname.getD "", lst.internalPort, lst.valid,
    reasonText (if lst.accepted && !lst.refsResolved then lst.refsReason else lst.acceptedReason),
    lst.attachedRoutes⟩
  { b with gateways := b.gateways ++ [⟨gw.ns, gw.name, gw.uid, className, input.address, generation,
    input.accepted.status = .isTrue, input.accepted.reason, input.programmed.status = .isTrue,
    input.programmed.reason, listeners⟩] }

/-- Hostnames and UID are those of the route as it was first met. -/
def addRouteParent (gw : Gateway) (route : Route) (outcome : RouteOutcome) : TopologyBuilder :=
  let key := outcomeKey route.kind route.meta.ns route.meta.name
  let info := (b.routes[key]?).getD
    ⟨route.kind, route.meta.ns, route.meta.name, route.meta.uid, route.hostnames, []⟩
  let parent : RouteParentInfo := ⟨gw.ns, gw.name, gw.uid, outcome.accepted, outcome.acceptedReason.text,
    outcome.refsResolved, outcome.refsReason.text, (outcome.config.map RouteConfig.rules).getD []⟩
  { b with routes := b.routes.insert key { info with parents := info.parents ++ [parent] } }

end TopologyBuilder

/-- What a pass tells the builder. -/
inductive Addition where
  | gateway (gw : Gateway) (className : String) (input : StatusInput) (generation : String)
  | routeParent (gw : Gateway) (route : Route) (outcome : RouteOutcome)

def TopologyBuilder.add (b : TopologyBuilder) : Addition → TopologyBuilder
  | .gateway gw className input generation => b.addGateway gw className input generation
  | .routeParent gw route outcome => b.addRouteParent gw route outcome

def buildTopology (additions : List Addition) : TopologyBuilder := additions.foldl .add ⟨[], ∅⟩

def attached (additions : List Addition) : List Route := additions.filterMap fun
  | .routeParent _ route _ => some route
  | .gateway .. => none

/-! ## The revision -/

def GatewayInfo.nsName (g : GatewayInfo) : String := ControlPlane.nsName g.ns g.name

def RouteInfo.nsName (r : RouteInfo) : String := ControlPlane.nsName r.ns r.name

def RouteInfo.key (r : RouteInfo) : String := outcomeKey r.kind r.ns r.name

def TopologyBuilder.infos (b : TopologyBuilder) : List RouteInfo := b.routes.toList.map Prod.snd

/-- What the language leaves open: the order in which the map is visited, and what the sorts make of
entries that compare equal. -/
structure Choices (b : TopologyBuilder) where
  visit : List RouteInfo
  visit_perm : visit.Perm b.infos
  sortGateways : List GatewayInfo → List GatewayInfo
  sortsGateways : SortsBy GatewayInfo.nsName sortGateways
  sortRoutes : List RouteInfo → List RouteInfo
  sortsRoutes : SortsBy RouteInfo.nsName sortRoutes

section
variable {b : TopologyBuilder}

def Choices.listed (o : Choices b) : Topology := ⟨"", o.sortGateways b.gateways, o.sortRoutes o.visit⟩

def finish (sum256 : String → String) (o : Choices b) : Topology := { o.listed with revision := sum256 o.listed.payload }

def inserted (visit : List RouteInfo) (h : visit.Perm b.infos) : Choices b :=
  ⟨visit, h, _, sortsBy_insertionSort _, _, sortsBy_insertionSort _⟩

theorem map_key_of_payload {t t' : Topology} (h : t.payload = t'.payload) :
    t.routes.map RouteInfo.key = t'.routes.map RouteInfo.key := by
  have henc : t.enc = t'.enc := Option.some.inj (by
    rw [← Json.parse_marshal t.wellFormed, ← Json.parse_marshal t'.wellFormed]
    exact congrArg Json.parse h)
  simp only [Topology.enc, Json.Value.object.injEq, List.cons.injEq, Prod.mk.injEq, true_and, and_true] at henc
  have hlists := map_enc_of_nullable henc.2.2
  -- the key of a route can be read off its encoding
  have hfactors : Function.FactorsThrough RouteInfo.key RouteInfo.enc := fun r r' h => by
    injection h with hfields
    simp_all [RouteInfo.key]
  obtain ⟨keyOf, hkey⟩ := (Function.factorsThrough_iff _).mp hfactors
  rw [hkey, ← List.map_map, ← List.map_map, hlists]

/-- The routes of the map are those that were added. -/
structure Gathered (routes : List Route) (b : TopologyBuilder) : Prop where
  own : ∀ (k : String) info, b.routes[k]? = some info → info.key = k ∧
    ∃ r ∈ routes, r.kind = info.kind ∧ nsName r.meta.ns r.meta.name = info.nsName
  added : ∀ r ∈ routes, ∃ info, b.routes[outcomeKey r.kind r.meta.ns r.meta.name]? = some info

theorem Gathered.addRouteParent {routes : List Route} (h : Gathered routes b) (gw : Gateway) (r : Route)
    (outcome : RouteOutcome) : Gathered (routes ++ [r]) (b.addRouteParent gw r outcome) where
  own k info hget := by
    rw [TopologyBuilder.addRouteParent] at hget
    rw [GoMap.get_insert] at hget
    split_ifs at hget with hk
    · subst hk
      cases Option.some.inj hget
      cases hold : b.routes[outcomeKey r.kind r.meta.ns r.meta.name]? with
      | none => exact ⟨rfl, r, by simp, rfl, rfl⟩
      | some old =>
        obtain ⟨hkey, r', hr', hsame⟩ := h.own _ old hold
        exact ⟨hkey, r', List.mem_append_left _ hr', hsame⟩
    · obtain ⟨hkey, r', hr', hsame⟩ := h.own k info hget
      exact ⟨hkey, r', List.mem_append_left _ hr', hsame⟩
  added r' hr' := by
    rw [TopologyBuilder.addRouteParent]
    rw [GoMap.get_insert]
    split_ifs with hk
    · exact ⟨_, rfl⟩
    · refine h.added r' ((List.mem_append.mp hr').resolve_right fun hlast => hk ?_)
      rw [List.mem_singleton.mp hlast]

theorem gathered_build (additions : List Addition) : Gathered (attached additions) (buildTopology additions) := by
  induction additions using List.reverseRecOn with
  | nil => exact ⟨fun k info hget => (by cases (GoMap.get_empty k).symm.trans hget), fun r hr => (by cases hr)⟩
  | append_singleton additions a ih =>
    rw [attached, List.filterMap_append, buildTopology, List.foldl_append]
    cases a with
    | gateway => exact (List.append_nil _).symm ▸ ⟨ih.own, ih.added⟩
    | routeParent gw r outcome => exact ih.addRouteParent gw r outcome

theorem Gathered.keys_nodup {routes : List Route} (h : Gathered routes b) : (b.infos.map RouteInfo.key).Nodup := by
  have hkeys : b.infos.map RouteInfo.key = b.routes.toList.map Prod.fst := by
    rw [TopologyBuilder.infos, List.map_map]
    exact List.map_congr_left fun e he => (h.own _ _ (GoMap.mem_toList.mp he)).1
  rw [hkeys]
  exact GoMap.toList_keys_nodup _

theorem colon_notMem_kind (r : Route) : ':' ∉ r.kind.toList := by cases r <;> simp [Route.kind]

/-- Entries of the map share namespace and name only if routes of different kinds do. -/
theorem Gathered.names_nodup_iff {routes : List Route} (h : Gathered routes b) :
    (b.infos.map RouteInfo.nsName).Nodup ↔ ∀ r ∈ routes, ∀ r' ∈ routes,
      nsName r.meta.ns r.meta.name = nsName r'.meta.ns r'.meta.name → r.kind = r'.kind := by
  have hinfo : ∀ r ∈ routes, ∃ info ∈ b.infos, info.kind = r.kind ∧ info.nsName = nsName r.meta.ns r.meta.name := by
    intro r hr
    obtain ⟨info, hget⟩ := h.added r hr
    obtain ⟨hkey, r', -, hkind, -⟩ := h.own _ info hget
    have hfree : ':' ∉ info.kind.toList := hkind ▸ colon_notMem_kind r'
    exact ⟨info, List.mem_map.mpr ⟨_, GoMap.mem_toList.mpr hget, rfl⟩,
      joined_inj rfl (.inl ⟨hfree, colon_notMem_kind r⟩) hkey⟩
  constructor
  · intro hnames r hr r' hr' hsame
    obtain ⟨info, hi, hkind, hname⟩ := hinfo r hr
    obtain ⟨info', hi', hkind', hname'⟩ := hinfo r' hr'
    have heq := List.inj_on_of_nodup_map hnames hi hi' (hname.trans (hsame.trans hname'.symm))
    rw [← hkind, ← hkind', heq]
  · intro hkinds
    refine h.keys_nodup.of_map.map_on fun info hi info' hi' hname => ?_
    obtain ⟨⟨k, _⟩, hmem, rfl⟩ := List.mem_map.mp hi
    obtain ⟨⟨k', _⟩, hmem', rfl⟩ := List.mem_map.mp hi'
    obtain ⟨-, r, hr, hkind, hrname⟩ := h.own _ _ (GoMap.mem_toList.mp hmem)
    obtain ⟨-, r', hr', hkind', hrname'⟩ := h.own _ _ (GoMap.mem_toList.mp hmem')
    refine List.inj_on_of_nodup_map h.keys_nodup hi hi' ?_
    have hsame := hkinds r hr r' hr' (hrname.trans (hname.trans hrname'.symm))
    exact congrArg₂ (fun kind name => kind ++ ":" ++ name) (hkind.symm.trans (hsame.trans hkind')) hname

end

/-- The revision depends on the content alone exactly if no two attached routes of different kinds share
namespace and name. -/
theorem revision_canonical_iff (sum256 : String → String) (additions : List Addition)
    (hgateways : ((buildTopology additions).gateways.map GatewayInfo.nsName).Nodup)
    (hsum : ∀ o o' : Choices (buildTopology additions),
      sum256 o.listed.payload = sum256 o'.listed.payload → o.listed.payload = o'.listed.payload) :
    (∀ o o' : Choices (buildTopology additions), (finish sum256 o).revision = (finish sum256 o').revision) ↔
      ∀ r ∈ attached additions, ∀ r' ∈ attached additions,
        nsName r.meta.ns r.meta.name = nsName r'.meta.ns r'.meta.name → r.kind = r'.kind := by
  have hall := gathered_build additions
  rw [← hall.names_nodup_iff]
  constructor
  · intro h
    have hpayload := hsum _ _ (h (inserted _ (List.Perm.refl _)) (inserted _ (List.reverse_perm _)))
    exact nodup_of_reverse hall.keys_nodup (map_key_of_payload hpayload)
  · intro hnames o o'
    have hvisit : o.visit.Perm o'.visit := o.visit_perm.trans o'.visit_perm.symm
    have hdistinct := (o.visit_perm.map RouteInfo.nsName).nodup_iff.mpr hnames
    have hlisted : o.listed = o'.listed := by
      rw [Choices.listed, Choices.listed, o.sortsGateways.eq_of_perm o'.sortsGateways (List.Perm.refl _) hgateways,
        o.sortsRoutes.eq_of_perm o'.sortsRoutes hvisit hdistinct]
    rw [finish, finish, hlisted]

/-! An HTTPRoute and a TCPRoute of one namespace. -/

def webRoute : Route := .http ⟨⟨"uid-http", "shop", "web", 0⟩, [], []⟩

def dbRoute (name : String) : Route := .tcp ⟨⟨"uid-tcp", "shop", name, 0⟩, []⟩

def twoKinds (name : String) : List Addition :=
  [webRoute, dbRoute name].map fun route => .routeParent (.small [] none) route
    ⟨true, .accepted, true, .resolvedRefs, "", none, ∅⟩

theorem separate_names_one_revision : (buildTopology (twoKinds "db")).infos.length = 2 ∧
    ∀ o o' : Choices (buildTopology (twoKinds "db")), (finish id o).revision = (finish id o').revision :=
  ⟨by decide, (revision_canonical_iff id (twoKinds "db") (by decide) fun _ _ h => h).mpr (by decide)⟩

theorem shared_name_two_revisions : ∃ o o' : Choices (buildTopology (twoKinds "web")),
    (finish id o).revision ≠ (finish id o').revision :=
  ⟨inserted _ (List.Perm.refl _), inserted _ (List.reverse_perm _),
    fun h => absurd (map_key_of_payload h) (by decide)⟩

end Krouter.ControlPlane
