import Krouter.Lib.Folds
import Krouter.Lib.RunningBest
import Krouter.Routing.Build

/-! Which listener owns a hostname on a port, and which one a handshake gets. Two different loops choose
them. -/

namespace Krouter.Routing
open Compiled Auth GoString RunningBest

/-! ## The listeners of a built table -/

def ListenerTable.bare (l : ListenerTable) : ListenerTable := { l with routes := [] }

def listenerView (secret : Option SecretData) (lst : Listener) : ListenerTable where
  name := lst.name
  hostname := lst.hostname
  cert := if lst.hasTLS then
      some ⟨(secret.getD ∅).read (lst.name ++ ".tls.crt") "", (secret.getD ∅).read (lst.name ++ ".tls.key") ""⟩
    else none
  terminate := lst.protocol = "TLS" && lst.hasTLS
  clientCAs := if lst.clientCAMode ≠ "" then
      some ((secret.getD ∅).read (lst.name ++ ".client-ca.crt") "")
    else none
  clientAuth := listenerClientAuth lst
  routes := []

def declaredOn (gateway : GatewayConfig) (port : Int32) : List Listener :=
  gateway.listeners.filter fun lst => lst.internalPort = port

section
variable {p : Platform} {secret : Option SecretData}

variable {lst : Listener} {routes : List RouteConfig} {previous : Option GatewayTable}

theorem listenerCertificate_eq {cert : Option Certificate}
    (h : listenerCertificate p secret lst = .ok cert) : cert = (listenerView secret lst).cert := by
  by_cases ht : lst.hasTLS = true
  · cases secret with
    | none => simp [listenerCertificate, ht] at h
    | some secret =>
      rw [listenerCertificate, if_pos ht] at h
      dsimp only at h
      split at h
      · cases h
      · cases h
        simp [listenerView, ht]
  · simp only [listenerCertificate, if_neg ht] at h
    cases h
    simp [listenerView, ht]

theorem listenerClientCAs_eq {bundle : Option String}
    (h : listenerClientCAs p secret lst = .ok bundle) : bundle = (listenerView secret lst).clientCAs := by
  by_cases hm : lst.clientCAMode = ""
  · simp only [listenerClientCAs, hm, ne_eq, not_true_eq_false, if_false] at h
    cases h
    simp [listenerView, hm]
  · cases secret with
    | none => simp [listenerClientCAs, hm] at h
    | some secret =>
      rw [listenerClientCAs, if_pos hm] at h
      dsimp only at h
      split_ifs at h
      cases h
      simp [listenerView, hm]

theorem buildListener_eq {entry : ListenerTable}
    (h : buildListener p secret lst = .ok entry) : entry = listenerView secret lst := by
  obtain ⟨cert, hcert, h⟩ := Result.bind_eq_ok.mp h
  obtain ⟨clientCAs, hca, h⟩ := Result.bind_eq_ok.mp h
  cases h
  rw [listenerCertificate_eq hcert, listenerClientCAs_eq hca]
  rfl

theorem attachRoute_bare (rt : RouteTable) (name : String) (entries : List Entry) :
    (attachRoute rt name entries).map (fun e => (e.1, e.2.bare)) =
      entries.map fun e => (e.1, e.2.bare) := by
  induction entries with
  | nil => rfl
  | cons entry entries ih =>
    rw [attachRoute]
    split_ifs
    · rfl
    · rw [List.map_cons, List.map_cons, ih]

theorem buildRoute_bare (client : ClientCert) (acc : List Entry × BuildState) (route : RouteConfig) :
    (buildRoute p client secret acc route).1.map (fun e => (e.1, e.2.bare)) =
      acc.1.map fun e => (e.1, e.2.bare) :=
  List.foldl_kept (List.map fun e => (e.1, e.2.bare)) (fun entries name _ => attachRoute_bare _ name entries) acc.1

theorem foldl_buildRoute_bare (client : ClientCert) (routes : List RouteConfig)
    (acc : List Entry × BuildState) :
    (routes.foldl (buildRoute p client secret) acc).1.map (fun e => (e.1, e.2.bare)) =
      acc.1.map fun e => (e.1, e.2.bare) :=
  List.foldl_kept (fun s => s.1.map fun e => (e.1, e.2.bare)) (fun s route _ => buildRoute_bare client s route) acc

theorem sortListeners_bare (listeners : List ListenerTable) :
    (sortListeners listeners).map ListenerTable.bare =
      sortListeners (listeners.map ListenerTable.bare) :=
  List.map_insertionSort _ _ ListenerTable.bare listeners fun _ _ _ _ => Iff.rfl

variable {generation : String} {gateway : GatewayConfig} {table : GatewayTable} {port : Int32} {pt : PortTable}
  (h : buildGatewayTable p generation gateway routes secret previous = .ok table)
  (hp : table.byPort[port]? = some pt)
include h hp

theorem buildGatewayTable_listeners :
    pt.listeners.map ListenerTable.bare =
      sortListeners ((declaredOn gateway port).map (listenerView secret)) := by
  obtain ⟨trust, -, h⟩ := Result.bind_eq_ok.mp h
  obtain ⟨entries, hentries, h⟩ := Result.bind_eq_ok.mp h
  obtain ⟨client, -, h⟩ := Result.bind_eq_ok.mp h
  cases h
  rw [GoMap.get_map] at hp
  obtain ⟨pt', -, rfl⟩ := Option.map_eq_some_iff.mp hp
  have hviews : entries.map (fun e => (e.1, e.2.bare)) =
      gateway.listeners.map fun lst => (lst.internalPort, listenerView secret lst) := by
    refine Result.map_of_mapM_eq_ok hentries fun lst e he => ?_
    obtain ⟨entry, hentry, he⟩ := Result.bind_eq_ok.mp he
    cases he
    rw [buildListener_eq hentry]
    rfl
  have hattached := (@foldl_buildRoute_bare p secret client routes
    (entries, ⟨previousTransports previous, ∅⟩)).trans hviews
  rw [sortListeners_bare]
  congr 1
  generalize (routes.foldl (buildRoute p client secret)
    (entries, ⟨previousTransports previous, ∅⟩)).1 = attached at hattached
  have hfilter := congrArg (List.filter fun e : Int32 × ListenerTable => e.1 = port) hattached
  rw [List.filter_map, List.filter_map] at hfilter
  have hsnd := congrArg (List.map Prod.snd) hfilter
  rw [List.map_map, List.map_map] at hsnd
  rw [List.map_map]
  exact hsnd

theorem buildGatewayTable_hostnames :
    pt.listeners.map ListenerTable.hostname =
      sortDown hostnameSpecificity ((declaredOn gateway port).map Listener.hostname) := by
  have hl := congrArg (List.map ListenerTable.hostname) (buildGatewayTable_listeners h hp)
  rw [sortListeners, List.map_insertionSort _ (fun a b => hostnameSpecificity b ≤ hostnameSpecificity a)
    ListenerTable.hostname _ fun _ _ _ _ => Iff.rfl, List.map_map, List.map_map] at hl
  exact hl

end

/-! ## Ownership -/

theorem hostnameScore_nonneg (h : String) : 0 ≤ hostnameScore h := by
  unfold hostnameScore
  split_ifs <;> omega

def matching (table : PortTable) (host : String) : List (ListenerTable × Nat) :=
  table.listeners.zipIdx.filter fun l => hostnameMatches l.1.hostname host

theorem bestListenerFor_eq (table : PortTable) (host : String) : bestListenerFor table host =
    (matching table host).foldl
      (keepBest fun l b => hostnameScore b.1.hostname < hostnameScore l.1.hostname) none :=
  foldl_keepPair (fun l : ListenerTable × Nat => hostnameMatches l.1.hostname host)
    (fun l => hostnameScore l.1.hostname)
    (fun l => lt_of_lt_of_le (by decide) (hostnameScore_nonneg l.1.hostname)) _ none

variable {table : PortTable} {host : String}

theorem bestListenerFor_eq_some_iff {c : ListenerTable × Nat} : bestListenerFor table host = some c ↔
      FirstMax (fun l => hostnameScore l.1.hostname) (matching table host) c := by
  rw [bestListenerFor_eq]
  exact foldl_keepBest_eq_some_iff _ fun _ _ _ _ => decide_eq_true_iff

theorem exists_bestListenerFor (h : matching table host ≠ []) : ∃ c, bestListenerFor table host = some c := by
  rw [bestListenerFor_eq]
  rcases foldl_keepBest (fun l : ListenerTable × Nat => hostnameScore l.1.hostname)
    (matching table host) fun _ _ _ _ => decide_eq_true_iff with ⟨hnil, -⟩ | ⟨c, -, hc⟩
  · exact absurd hnil h
  · exact ⟨c, hc⟩

theorem mem_matching {l : ListenerTable} : (∃ i, (l, i) ∈ matching table host) ↔
      l ∈ table.listeners ∧ hostnameMatches l.hostname host = true := by
  simp only [matching, List.mem_filter, exists_and_right]
  refine and_congr_left fun _ => ⟨fun ⟨i, hi⟩ => List.fst_mem_of_mem_zipIdx hi, fun hl => ?_⟩
  obtain ⟨i, hi, rfl⟩ := List.getElem_of_mem hl
  exact ⟨i, List.mk_mem_zipIdx_iff_getElem?.mpr (List.getElem?_eq_getElem hi)⟩

end Krouter.Routing
