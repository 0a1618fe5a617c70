import Krouter.Lib.KeySort
import Krouter.Routing.Pick

/-! What `EndpointsIndex.Endpoints` makes of EndpointSlices. It collects slice by slice and sorts by the
address alone, so an address stays in the list as often, and in the order, as it was met. -/

namespace Krouter.Routing
open Compiled KeySort

namespace EndpointsIndex

def portOf (index : EndpointsIndex) (ns name : String) (servicePort : Int32) : Option BackendPort :=
  (index.services[ns ++ "/" ++ name]?).bind fun svc => svc.ports.find? fun port => port.port = servicePort

def slicesOf (index : EndpointsIndex) (ns name : String) : List EndpointSlice :=
  index.slices.read (ns ++ "/" ++ name) []

/-- `Endpoints` with the sort it relies on left open. -/
def endpointsBy (sort : List Endpoint → List Endpoint) (index : EndpointsIndex) (ns name : String)
    (servicePort : Int32) : List Endpoint :=
  match index.portOf ns name servicePort with
  | none => []
  | some port => sort ((index.slicesOf ns name).flatMap fun slice => slice.ready port.name)

variable (index : EndpointsIndex) (ns name : String)

theorem endpoints_eq_endpointsBy (servicePort : Int32) : index.endpoints ns name servicePort =
      index.endpointsBy (List.insertionSort fun a b => ¬ b.address < a.address) ns name servicePort := rfl

def withSlices (index : EndpointsIndex) (ns name : String) (slices : List EndpointSlice) : EndpointsIndex :=
  { index with slices := index.slices.insert (ns ++ "/" ++ name) slices }

@[simp] theorem portOf_withSlices (slices : List EndpointSlice) (servicePort : Int32) :
    (index.withSlices ns name slices).portOf ns name servicePort = index.portOf ns name servicePort := rfl

@[simp] theorem slicesOf_withSlices (slices : List EndpointSlice) :
    (index.withSlices ns name slices).slicesOf ns name = slices :=
  GoMap.read_of_get (GoMap.get_insert_self ..) []

end EndpointsIndex

/-! ## What a slice carries -/

namespace EndpointSlice

def Exposes (slice : EndpointSlice) (portName : String) (e : Endpoint) : Prop :=
  slice.addressType = "IPv4" ∧ slice.targetPort portName = some e.port ∧
    ∃ ep ∈ slice.endpoints, ep.eligible = true ∧ e.address ∈ ep.addresses

def addresses (slice : EndpointSlice) (portName : String) : List String :=
  if slice.addressType = "IPv4" ∧ (slice.targetPort portName).isSome then
    (slice.endpoints.filter SliceEndpoint.eligible).flatMap SliceEndpoint.addresses
  else []

theorem mem_ready {slice : EndpointSlice} {portName : String} {e : Endpoint} :
    e ∈ slice.ready portName ↔ slice.Exposes portName e := by
  unfold ready Exposes
  split
  next htype =>
    split
    next hport => simp [hport]
    next port hport =>
      rw [hport]
      constructor
      · intro h
        obtain ⟨ep, hep, h⟩ := List.mem_flatMap.mp h
        obtain ⟨address, haddress, rfl⟩ := List.mem_map.mp h
        obtain ⟨hep, heligible⟩ := List.mem_filter.mp hep
        exact ⟨htype, rfl, ep, hep, heligible, haddress⟩
      · rintro ⟨-, hsame, ep, hep, heligible, haddress⟩
        obtain rfl := Option.some.inj hsame
        exact List.mem_flatMap.mpr ⟨ep, List.mem_filter.mpr ⟨hep, heligible⟩, List.mem_map_of_mem haddress⟩
  next htype => simp [htype]

theorem map_address_ready (slice : EndpointSlice) (portName : String) :
    (slice.ready portName).map Endpoint.address = slice.addresses portName := by
  unfold ready addresses
  by_cases htype : slice.addressType = "IPv4"
  · cases hport : slice.targetPort portName with
    | none => simp [htype]
    | some port => simp [htype, List.map_flatMap, Function.comp_def]
  · simp [htype]

theorem eq_of_mem_ready {slice : EndpointSlice} {portName : String} {a b : Endpoint}
    (ha : a ∈ slice.ready portName) (hb : b ∈ slice.ready portName) (haddress : a.address = b.address) : a = b := by
  obtain ⟨-, haport, -⟩ := mem_ready.mp ha
  obtain ⟨-, hbport, -⟩ := mem_ready.mp hb
  have hport : a.port = b.port := Option.some.inj (haport.symm.trans hbport)
  cases a
  cases b
  exact congrArg₂ Endpoint.mk haddress hport

/-- The same slice with its endpoints in another order. -/
structure Alike (slice slice' : EndpointSlice) : Prop where
  addressType : slice'.addressType = slice.addressType
  ports : slice'.ports = slice.ports
  endpoints : slice.endpoints.Perm slice'.endpoints

theorem Alike.refl (slice : EndpointSlice) : slice.Alike slice := ⟨rfl, rfl, List.Perm.refl _⟩

theorem Alike.ready {slice slice' : EndpointSlice} (h : slice.Alike slice') (portName : String) :
    (slice.ready portName).Perm (slice'.ready portName) := by
  have htarget : slice'.targetPort portName = slice.targetPort portName := by
    rw [targetPort, targetPort, h.ports]
  unfold EndpointSlice.ready
  rw [h.addressType, htarget]
  split
  · cases slice.targetPort portName with
    | none => exact List.Perm.refl _
    | some port => exact (h.endpoints.filter _).flatMap_right _
  · exact List.Perm.refl _

end EndpointSlice

/-- The slices in another order, with the endpoints of each in another order. -/
def Rearranged (slices slices' : List EndpointSlice) : Prop :=
  ∃ moved, slices.Perm moved ∧ List.Forall₂ EndpointSlice.Alike moved slices'

theorem rearranged_reverse (slices : List EndpointSlice) : Rearranged slices slices.reverse :=
  ⟨slices.reverse, slices.reverse_perm.symm, List.forall₂_same.mpr fun slice _ => .refl slice⟩

theorem Rearranged.ready {slices slices' : List EndpointSlice} (h : Rearranged slices slices') (portName : String) :
    (slices.flatMap fun slice => slice.ready portName).Perm
      (slices'.flatMap fun slice => slice.ready portName) := by
  obtain ⟨moved, hmoved, halike⟩ := h
  refine (hmoved.flatMap_right _).trans ?_
  clear hmoved
  induction halike with
  | nil => exact List.Perm.refl _
  | cons h _ ih => exact (h.ready portName).append ih

/-! ## The whole list -/

namespace EndpointsIndex
variable {index : EndpointsIndex} {ns name : String} {servicePort : Int32}

def Exposes (index : EndpointsIndex) (ns name : String) (servicePort : Int32) (e : Endpoint) : Prop :=
  ∃ port, index.portOf ns name servicePort = some port ∧ ∃ slice ∈ index.slicesOf ns name, slice.Exposes port.name e

def addresses (index : EndpointsIndex) (ns name : String) (servicePort : Int32) : List String :=
  match index.portOf ns name servicePort with
  | none => []
  | some port => (index.slicesOf ns name).flatMap fun slice => slice.addresses port.name

/-- The list is the set of the exposed pairs in an order of its own. -/
structure Canonical (sort : List Endpoint → List Endpoint) (index : EndpointsIndex) (ns name : String)
    (servicePort : Int32) : Prop where
  exact : ∀ e, e ∈ index.endpointsBy sort ns name servicePort ↔ index.Exposes ns name servicePort e
  once : (index.endpointsBy sort ns name servicePort).Nodup
  ordered : ∀ slices, Rearranged (index.slicesOf ns name) slices →
    (index.withSlices ns name slices).endpointsBy sort ns name servicePort =
      index.endpointsBy sort ns name servicePort

variable (sort : List Endpoint → List Endpoint) {port : BackendPort}

theorem endpointsBy_none (hport : index.portOf ns name servicePort = none) :
    index.endpointsBy sort ns name servicePort = [] := by
  rw [endpointsBy, hport]

theorem endpointsBy_some (hport : index.portOf ns name servicePort = some port) :
    index.endpointsBy sort ns name servicePort =
      sort ((index.slicesOf ns name).flatMap fun slice => slice.ready port.name) := by
  rw [endpointsBy, hport]

theorem endpointsBy_withSlices (slices : List EndpointSlice) (hport : index.portOf ns name servicePort = some port) :
    (index.withSlices ns name slices).endpointsBy sort ns name servicePort =
      sort (slices.flatMap fun slice => slice.ready port.name) := by
  rw [endpointsBy, portOf_withSlices, hport, slicesOf_withSlices]

theorem addresses_some (hport : index.portOf ns name servicePort = some port) :
    index.addresses ns name servicePort =
      ((index.slicesOf ns name).flatMap fun slice => slice.ready port.name).map Endpoint.address := by
  rw [addresses, hport, List.map_flatMap]
  simp only [EndpointSlice.map_address_ready]

theorem canonical_of_portOf_none (hport : index.portOf ns name servicePort = none) :
    index.Canonical sort ns name servicePort where
  exact := by
    intro e
    rw [endpointsBy_none sort hport, Exposes, hport]
    refine iff_of_false List.not_mem_nil ?_
    rintro ⟨_, h, _⟩
    cases h
  once := by
    rw [endpointsBy_none sort hport]
    exact List.nodup_nil
  ordered := by
    intro slices _
    rw [endpointsBy_none sort hport]
    exact endpointsBy_none sort hport

theorem canonical_of_nodup {sort : List Endpoint → List Endpoint} (hsort : SortsBy Endpoint.address sort)
    (hdistinct : (index.addresses ns name servicePort).Nodup) : index.Canonical sort ns name servicePort := by
  cases hport : index.portOf ns name servicePort with
  | none => exact canonical_of_portOf_none sort hport
  | some port =>
    rw [addresses_some hport] at hdistinct
    refine ⟨fun e => ?_, ?_, fun slices hslices => ?_⟩
    · rw [endpointsBy_some sort hport, (hsort.perm _).mem_iff, List.mem_flatMap, Exposes]
      simp only [EndpointSlice.mem_ready, hport, Option.some.injEq, exists_eq_left']
    · rw [endpointsBy_some sort hport, (hsort.perm _).nodup_iff]
      exact hdistinct.of_map
    · rw [endpointsBy_some sort hport, endpointsBy_withSlices sort slices hport]
      exact (hsort.eq_of_perm hsort (hslices.ready port.name) hdistinct).symm

theorem nodup_of_canonical
    (h : index.Canonical (List.insertionSort fun a b => ¬ b.address < a.address) ns name servicePort) :
    (index.addresses ns name servicePort).Nodup := by
  cases hport : index.portOf ns name servicePort with
  | none =>
    rw [addresses, hport]
    exact List.nodup_nil
  | some port =>
    rw [addresses_some hport, List.Nodup, List.pairwise_map, List.pairwise_iff_forall_sublist]
    intro a b hab hkey
    have hreversed := h.ordered _ (rearranged_reverse _)
    have honce := h.once
    rw [endpointsBy_some _ hport, endpointsBy_withSlices _ _ hport] at hreversed
    rw [endpointsBy_some _ hport] at honce
    have hne : a ≠ b := List.pairwise_iff_forall_sublist.mp ((List.perm_insertionSort _ _).nodup_iff.mp honce) hab
    -- one slice has one target port, so the two pairs are of different slices
    have hba := pair_sublist_flatMap_reverse (fun slice _ ha hb => hne (EndpointSlice.eq_of_mem_ready ha hb hkey)) hab
    refine not_both_orders honce (pair_sublist_insertionSort hkey hab) ?_
    rw [← hreversed]
    exact pair_sublist_insertionSort hkey.symm hba

/-- Whatever the sort does with equal addresses, the list is a set in canonical order exactly when no
address is ready twice behind the port. -/
theorem canonical_iff_nodup (index : EndpointsIndex) (ns name : String) (servicePort : Int32) :
    (∀ sort, SortsBy Endpoint.address sort → index.Canonical sort ns name servicePort) ↔
      (index.addresses ns name servicePort).Nodup :=
  ⟨fun h => nodup_of_canonical (h _ (sortsBy_insertionSort _)), fun h _ hsort => canonical_of_nodup hsort h⟩

/-! ## One endpoint in two slices -/

def doubled : EndpointSlice where
  addressType := "IPv4"
  ports := [⟨some "http", some 8080⟩]
  endpoints := [⟨["10.0.0.7"], some true, none⟩]

def doubledIndex : EndpointsIndex where
  services := GoMap.setAll ∅ [("default/shop", ⟨[⟨"http", 80, none⟩]⟩)]
  slices := GoMap.setAll ∅ [("default/shop", [doubled, doubled])]

theorem doubled_endpoint_kept_twice :
    doubledIndex.endpoints "default" "shop" 80 = [⟨"10.0.0.7", 8080⟩, ⟨"10.0.0.7", 8080⟩] ∧
      ¬ ∀ sort, SortsBy Endpoint.address sort → doubledIndex.Canonical sort "default" "shop" 80 := by
  have hlist : doubledIndex.endpoints "default" "shop" 80 = [⟨"10.0.0.7", 8080⟩, ⟨"10.0.0.7", 8080⟩] := by decide
  refine ⟨hlist, fun h => ?_⟩
  have honce := (h _ (sortsBy_insertionSort _)).once
  rw [← endpoints_eq_endpointsBy, hlist] at honce
  simp at honce

end EndpointsIndex

end Krouter.Routing
