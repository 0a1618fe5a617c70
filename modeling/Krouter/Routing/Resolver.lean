import Krouter.Lib.Folds
import Krouter.Routing.Pick

/-! The resolver polls the Services and EndpointSlices of the declared namespaces. Every poll starts from an
empty index. -/

namespace Krouter.Resolver
open Compiled Routing GoString

/-- The API keeps slashes out of namespaces. -/
@[ext]
structure Namespace where
  name : String
  plain : '/' ∉ name.toList
  deriving DecidableEq

def Namespace.key (ns : Namespace) (name : String) : String := ns.name ++ "/" ++ name

/-- What the two lists of a namespace give, if they do not fail. A slice comes with its label of
the Service, which is empty if it has none. -/
structure Listing where
  services : Option (List (String × BackendService))
  slices : Option (List (String × EndpointSlice))

/-! ## Polling -/

def addSlice (ns : Namespace) (slices : GoMap String (List EndpointSlice)) (slice : String × EndpointSlice) :
    GoMap String (List EndpointSlice) :=
  if slice.1 = "" then slices
  else slices.insert (ns.key slice.1) (slices.read (ns.key slice.1) [] ++ [slice.2])

/-- A namespace whose Services cannot be listed is passed over, and one whose slices cannot be
listed is left without them. -/
def pollNamespace (index : EndpointsIndex) (ns : Namespace) (listing : Listing) : EndpointsIndex :=
  match listing.services with
  | none => index
  | some services =>
    let found := index.services.setAll (services.map fun svc => (ns.key svc.1, svc.2))
    match listing.slices with
    | none => ⟨found, index.slices⟩
    | some slices => ⟨found, slices.foldl (addSlice ns) index.slices⟩

def newEndpointsIndex : EndpointsIndex := ⟨∅, ∅⟩

structure Poll where
  namespaces : List Namespace
  distinct : namespaces.Nodup
  listing : Namespace → Listing

def Poll.index (p : Poll) : EndpointsIndex :=
  p.namespaces.foldl (fun index ns => pollNamespace index ns (p.listing ns)) newEndpointsIndex

def published (polls : List Poll) : EndpointsIndex := polls.foldl (fun _ p => p.index) newEndpointsIndex

/-! ## The last known endpoints -/

def Listing.endpoints (listing : Listing) (ns : Namespace) (name : String) (port : Int32) : List Endpoint :=
  (pollNamespace newEndpointsIndex ns listing).endpoints ns.name name port

def Poll.succeeds (ns : Namespace) (p : Poll) : Bool :=
  decide (ns ∈ p.namespaces) && (p.listing ns).services.isSome && (p.listing ns).slices.isSome

/-- The endpoints of the latest poll whose lists of the namespace succeeded, none before the first. -/
def lastKnown (polls : List Poll) (ns : Namespace) (name : String) (port : Int32) : List Endpoint :=
  match polls.reverse.find? (Poll.succeeds ns) with
  | none => []
  | some p => (p.listing ns).endpoints ns name port

/-- After the last poll, every namespace that it was to visit has its last known endpoints. -/
def KeepsLastKnown (polls : List Poll) (last : Poll) : Prop :=
  ∀ ns ∈ last.namespaces, ∀ name port,
    (published (polls ++ [last])).endpoints ns.name name port = lastKnown (polls ++ [last]) ns name port

/-! ## Namespaces do not meet -/

theorem Namespace.key_inj {ns ns' : Namespace} {name name' : String} (h : ns.key name = ns'.key name') :
    ns = ns' ∧ name = name' := by
  obtain ⟨hns, hname⟩ := joined_inj rfl (.inl ⟨ns.plain, ns'.plain⟩) h
  exact ⟨Namespace.ext hns, hname⟩

structure Alike (ns : Namespace) (index index' : EndpointsIndex) : Prop where
  services : ∀ name, index.services[ns.key name]? = index'.services[ns.key name]?
  slices : ∀ name, index.slices.read (ns.key name) [] = index'.slices.read (ns.key name) []

namespace Alike
variable {ns m : Namespace} {i j k : EndpointsIndex} {listing : Listing}

theorem refl (ns : Namespace) (i : EndpointsIndex) : Alike ns i i := ⟨fun _ => rfl, fun _ => rfl⟩

theorem trans (h : Alike ns i j) (h' : Alike ns j k) : Alike ns i k :=
  ⟨fun name => (h.services name).trans (h'.services name), fun name => (h.slices name).trans (h'.slices name)⟩

theorem endpoints (h : Alike ns i j) (name : String) (port : Int32) :
    i.endpoints ns.name name port = j.endpoints ns.name name port := by
  have hservices := h.services name
  have hslices := h.slices name
  rw [Namespace.key] at hservices hslices
  rw [EndpointsIndex.endpoints, EndpointsIndex.endpoints, hservices, hslices]

end Alike

section
variable {ns m : Namespace} {listing : Listing}

theorem read_addSlice (ns : Namespace) (slices : GoMap String (List EndpointSlice)) (slice : String × EndpointSlice)
    (key : String) : (addSlice ns slices slice).read key [] =
      if slice.1 ≠ "" ∧ key = ns.key slice.1 then slices.read key [] ++ [slice.2] else slices.read key [] := by
  rw [addSlice]
  by_cases hempty : slice.1 = ""
  · rw [if_pos hempty, if_neg fun h => h.1 hempty]
  rw [if_neg hempty]
  by_cases hkey : key = ns.key slice.1
  · rw [if_pos ⟨hempty, hkey⟩, hkey, GoMap.read, GoMap.get_insert_self, Option.getD_some]
  · rw [if_neg fun h => hkey h.2, GoMap.read, GoMap.get_insert_of_ne _ _ (Ne.symm hkey), GoMap.read]

theorem read_foldl_addSlice_congr {a b : GoMap String (List EndpointSlice)} (key : String)
    (h : a.read key [] = b.read key []) (slices : List (String × EndpointSlice)) :
    (slices.foldl (addSlice ns) a).read key [] = (slices.foldl (addSlice ns) b).read key [] := by
  induction slices generalizing a b with
  | nil => exact h
  | cons slice slices ih =>
    rw [List.foldl_cons, List.foldl_cons]
    apply ih
    rw [read_addSlice, read_addSlice, h]

theorem read_foldl_addSlice_of_ne (h : m ≠ ns) (name : String) (a : GoMap String (List EndpointSlice))
    (slices : List (String × EndpointSlice)) :
    (slices.foldl (addSlice m) a).read (ns.key name) [] = a.read (ns.key name) [] := by
  refine List.foldl_kept (fun a => a.read (ns.key name) []) (fun a slice _ => ?_) a
  rw [read_addSlice, if_neg fun hkey => h (Namespace.key_inj hkey.2).1.symm]

theorem alike_pollNamespace_of_ne (h : m ≠ ns) (index : EndpointsIndex) (listing : Listing) :
    Alike ns (pollNamespace index m listing) index := by
  have hservices : ∀ (services : List (String × BackendService)) name,
      (index.services.setAll (services.map fun svc => (m.key svc.1, svc.2)))[ns.key name]? =
        index.services[ns.key name]? := by
    intro services name
    apply GoMap.get_setAll_of_notMem
    intro hmem
    rw [List.map_map] at hmem
    obtain ⟨svc, -, hkey⟩ := List.mem_map.mp hmem
    exact h (Namespace.key_inj hkey).1
  unfold pollNamespace
  cases listing.services with
  | none => exact .refl ns index
  | some services =>
    cases listing.slices with
    | none => exact ⟨hservices services, fun _ => rfl⟩
    | some slices => exact ⟨hservices services, fun name => read_foldl_addSlice_of_ne h name index.slices slices⟩

theorem Alike.pollNamespace {i j : EndpointsIndex} (h : Alike ns i j) (listing : Listing) :
    Alike ns (pollNamespace i ns listing) (pollNamespace j ns listing) := by
  unfold Resolver.pollNamespace
  cases listing.services with
  | none => exact h
  | some services =>
    cases listing.slices with
    | none => exact ⟨fun name => GoMap.get_setAll_congr (h.services name) _, h.slices⟩
    | some slices =>
      exact ⟨fun name => GoMap.get_setAll_congr (h.services name) _,
        fun name => read_foldl_addSlice_congr (ns.key name) (h.slices name) slices⟩

theorem alike_foldl_of_notMem (listing : Namespace → Listing) {visited : List Namespace} (h : ns ∉ visited)
    (index : EndpointsIndex) :
    Alike ns (visited.foldl (fun index m => pollNamespace index m (listing m)) index) index :=
  List.foldlRecOn visited _ (motive := fun i => Alike ns i index) (.refl ns index) fun i hi m hm =>
    (alike_pollNamespace_of_ne (fun heq : m = ns => h (heq ▸ hm)) i _).trans hi

theorem Poll.alike_index {p : Poll} (h : ns ∈ p.namespaces) :
    Alike ns p.index (Resolver.pollNamespace newEndpointsIndex ns (p.listing ns)) := by
  obtain ⟨before, after, hsplit⟩ := List.append_of_mem h
  have hdistinct := p.distinct
  rw [hsplit, List.nodup_middle, List.nodup_cons, List.mem_append, not_or] at hdistinct
  obtain ⟨⟨hbefore, hafter⟩, -⟩ := hdistinct
  rw [Poll.index, hsplit, List.foldl_append, List.foldl_cons]
  refine (alike_foldl_of_notMem p.listing hafter _).trans ?_
  exact (alike_foldl_of_notMem p.listing hbefore newEndpointsIndex).pollNamespace (p.listing ns)

end

section
variable {ns : Namespace} {p : Poll}

theorem published_concat (polls : List Poll) (last : Poll) : published (polls ++ [last]) = last.index := by
  rw [published, List.foldl_append]
  rfl

theorem lastKnown_concat (polls : List Poll) (last : Poll) (ns : Namespace) (name : String) (port : Int32) :
    lastKnown (polls ++ [last]) ns name port =
      if last.succeeds ns = true then (last.listing ns).endpoints ns name port else lastKnown polls ns name port := by
  rw [lastKnown, List.reverse_append, List.reverse_singleton, List.singleton_append, List.find?_cons]
  cases last.succeeds ns with
  | true => rfl
  | false => rfl

theorem published_endpoints (polls : List Poll) (h : ns ∈ p.namespaces) (name : String) (port : Int32) :
    (published (polls ++ [p])).endpoints ns.name name port = (p.listing ns).endpoints ns name port := by
  rw [published_concat]
  exact (Poll.alike_index h).endpoints name port

theorem endpoints_of_failed {listing : Listing} (h : listing.services = none ∨ listing.slices = none)
    (ns : Namespace) (name : String) (port : Int32) : listing.endpoints ns name port = [] := by
  have hslices : (pollNamespace newEndpointsIndex ns listing).slices = ∅ := by
    unfold pollNamespace
    cases hservices : listing.services with
    | none => rfl
    | some services =>
      rw [h.resolve_left (by rw [hservices]; exact Option.some_ne_none services)]
      rfl
  have hread : (∅ : GoMap String (List EndpointSlice)).read (ns.name ++ "/" ++ name) [] = [] := by
    rw [GoMap.read, GoMap.get_empty]
    rfl
  rw [Listing.endpoints, EndpointsIndex.endpoints, hslices, hread]
  split
  · rfl
  · rfl

theorem Poll.failed_of_not_succeeds (h : ns ∈ p.namespaces) (hfailed : ¬ p.succeeds ns = true) :
    (p.listing ns).services = none ∨ (p.listing ns).slices = none := by
  rw [Poll.succeeds, decide_eq_true h, Bool.true_and, Bool.and_eq_true, not_and_or] at hfailed
  simpa using hfailed

end

/-- A poll keeps the last known endpoints exactly of the namespaces whose two lists succeed, and of those
without endpoints to lose. -/
theorem last_known_kept_iff (polls : List Poll) (last : Poll) :
    KeepsLastKnown polls last ↔
      ∀ ns ∈ last.namespaces, last.succeeds ns = true ∨ ∀ name port, lastKnown polls ns name port = [] := by
  refine forall₂_congr fun ns hns => ?_
  by_cases hsucceeds : last.succeeds ns = true
  · refine iff_of_true (fun name port => ?_) (Or.inl hsucceeds)
    rw [published_endpoints polls hns, lastKnown_concat, if_pos hsucceeds]
  · have hempty := endpoints_of_failed (Poll.failed_of_not_succeeds hns hsucceeds) ns
    rw [or_iff_right hsucceeds]
    refine forall₂_congr fun name port => ?_
    rw [published_endpoints polls hns, lastKnown_concat, if_neg hsucceeds, hempty]
    exact eq_comm

/-! A Service with one endpoint, and a list that fails once. -/

def shopNamespace : Namespace := ⟨"shop", by decide⟩

def cartListing : Listing :=
  ⟨some [("cart", ⟨[⟨"", 80, none⟩]⟩)],
    some [("cart", ⟨"IPv4", [⟨none, some 8080⟩], [⟨["10.0.0.9"], none, none⟩]⟩)]⟩

def shopPoll (listing : Listing) : Poll := ⟨[shopNamespace], List.nodup_singleton _, fun _ => listing⟩

theorem failed_list_forgets :
    lastKnown [shopPoll cartListing] shopNamespace "cart" 80 = [⟨"10.0.0.9", 8080⟩] ∧
    (published [shopPoll cartListing, shopPoll { cartListing with slices := none }]).endpoints "shop" "cart" 80 = [] ∧
    ¬ KeepsLastKnown [shopPoll cartListing] (shopPoll { cartListing with slices := none }) := by
  refine ⟨by decide, by decide, fun hkeeps => ?_⟩
  have hkept := hkeeps shopNamespace (List.mem_singleton_self _) "cart" 80
  revert hkept
  decide

end Krouter.Resolver
