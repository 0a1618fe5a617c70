import Krouter.Routing.Ownership

/-! The listener a handshake gets owns the server name only as far as the declaration order of overlapping
wildcards allows. -/

namespace Krouter.Routing
open Compiled GoString RunningBest

section
variable {table : PortTable} {sni : String}

def AllTerminate (table : PortTable) : Prop := ∀ l ∈ table.listeners, l.cert.isSome = true

theorem AllTerminate.certified (h : AllTerminate table) :
    (table.listeners.zipIdx.filter fun l => l.1.cert.isSome) = table.listeners.zipIdx :=
  List.filter_eq_self.mpr fun _ hl => h _ (List.fst_mem_of_mem_zipIdx hl)

theorem certificateFor_of_ne (ht : AllTerminate table) (hne : sni ≠ "")
    {c : ListenerTable × Nat} {rest : List (ListenerTable × Nat)} (hm : matching table sni = c :: rest) :
    table.certificateFor sni = some c := by
  have hfind : table.listeners.zipIdx.find? (fun l => hostnameMatches l.1.hostname sni) = some c := by
    rw [← List.head?_filter]
    exact congrArg List.head? hm
  simp only [PortTable.certificateFor, ht.certified, hne, ne_eq, not_false_eq_true, decide_true,
    Bool.true_and, hfind, Option.some_or]

theorem certificateFor_empty (ht : AllTerminate table) :
    table.certificateFor "" = table.listeners.zipIdx.head? := by
  have hfind : table.listeners.zipIdx.find? (fun _ => false) = none := List.find?_eq_none.mpr (by simp)
  simp [PortTable.certificateFor, ht.certified, hfind]

theorem hostnameMatches_empty {h : String} : hostnameMatches h "" = true ↔ h = "" := by
  refine ⟨fun hm => ?_, fun hh => by simp [hostnameMatches, hh]⟩
  by_contra hne
  rw [hostnameMatches, if_neg hne] at hm
  split_ifs at hm
  · simp at hm
  · simp [equalFold, hne] at hm

theorem hostnameSpecificity_eq_zero {h : String} : hostnameSpecificity h = 0 ↔ h = "" := by
  unfold hostnameSpecificity
  split_ifs with h0 h1 <;> simp [h0]

/-- The hostnames send a server name to its owner: without a name no listener has a hostname; with one, the
first match of the most specific class has the greatest score. -/
def DeclaredInOrder (hostnames : List String) (sni : String) : Prop :=
  if sni = "" then ∀ h ∈ hostnames, h = ""
  else ∀ h, FirstMax hostnameSpecificity (hostnames.filter (hostnameMatches · sni)) h →
    ∀ k ∈ hostnames, hostnameMatches k sni = true → hostnameScore k ≤ hostnameScore h

theorem certificateFor_eq_best_iff_of_ne (ht : AllTerminate table) (hne : sni ≠ "")
    {c : ListenerTable × Nat} {rest : List (ListenerTable × Nat)} (hm : matching table sni = c :: rest) :
    table.certificateFor sni = bestListenerFor table sni ↔
      ∀ l ∈ table.listeners, hostnameMatches l.hostname sni = true →
        hostnameScore l.hostname ≤ hostnameScore c.1.hostname := by
  rw [certificateFor_of_ne ht hne hm, eq_comm, bestListenerFor_eq_some_iff, hm, firstMax_head_iff]
  constructor
  · intro h l hl hmatch
    obtain ⟨i, hi⟩ := mem_matching.mpr ⟨hl, hmatch⟩
    rw [hm] at hi
    rcases List.mem_cons.mp hi with rfl | hi
    · exact le_rfl
    · exact h _ hi
  · intro h d hd
    have hmem : d ∈ matching table sni := hm ▸ List.mem_cons_of_mem c hd
    obtain ⟨hl, hmatch⟩ := mem_matching.mp ⟨d.2, hmem⟩
    exact h d.1 hl hmatch

theorem certificateFor_eq_best_iff_of_empty (ht : AllTerminate table)
    (hsorted : table.listeners.Pairwise fun a b =>
      hostnameSpecificity b.hostname ≤ hostnameSpecificity a.hostname)
    (hmatch : ∃ l ∈ table.listeners, hostnameMatches l.hostname "" = true) :
    table.certificateFor "" = bestListenerFor table "" ↔ ∀ l ∈ table.listeners, l.hostname = "" := by
  rw [certificateFor_empty ht]
  obtain ⟨a, rest, hlist⟩ : ∃ a rest, table.listeners = a :: rest :=
    List.exists_cons_of_ne_nil fun hnil => by simp [hnil] at hmatch
  rw [hlist, List.zipIdx_cons, List.head?_cons, eq_comm, bestListenerFor_eq_some_iff]
  constructor
  · intro h
    have ha : a.hostname = "" := hostnameMatches_empty.mp (mem_matching.mp ⟨0, h.mem⟩).2
    -- nothing after the first listener is more specific than it
    rw [hlist, List.pairwise_cons] at hsorted
    refine List.forall_mem_cons.mpr ⟨ha, fun l hl => hostnameSpecificity_eq_zero.mp ?_⟩
    have := hsorted.1 l hl
    rw [hostnameSpecificity_eq_zero.mpr ha] at this
    omega
  · intro h
    have hall : matching table "" = table.listeners.zipIdx := List.filter_eq_self.mpr fun l hl =>
      hostnameMatches_empty.mpr (h l.1 (hlist ▸ List.fst_mem_of_mem_zipIdx hl))
    rw [hall, hlist, List.zipIdx_cons, firstMax_head_iff]
    intro d hd
    rw [h d.1 (List.mem_cons_of_mem a (List.fst_mem_of_mem_zipIdx hd)), h a (.head _)]

end

variable {p : Platform} {generation : String} {gateway : GatewayConfig} {routes : List RouteConfig}
  {secret : Option SecretData} {previous : Option GatewayTable} {built : GatewayTable}
  {port : Int32} {table : PortTable} {sni : String}

theorem firstMax_of_matching
    (hb : buildGatewayTable p generation gateway routes secret previous = .ok built)
    (hp : built.byPort[port]? = some table) {c : ListenerTable × Nat}
    {rest : List (ListenerTable × Nat)} (hm : matching table sni = c :: rest) :
    FirstMax hostnameSpecificity (((declaredOn gateway port).map Listener.hostname).filter
      (hostnameMatches · sni)) c.1.hostname := by
  rw [← find?_sortDown_eq_some_iff, ← buildGatewayTable_hostnames hb hp, List.find?_map]
  have hfind : (table.listeners.zipIdx.map Prod.fst).find? (hostnameMatches ·.hostname sni) = some c.1 := by
    rw [List.find?_map]
    rw [← List.head?_filter]
    exact congrArg (fun l => (List.head? l).map Prod.fst) hm
  rw [List.zipIdx_map_fst] at hfind
  change (table.listeners.find? (hostnameMatches ·.hostname sni)).map ListenerTable.hostname = _
  rw [hfind]
  rfl

/-- On a port whose listeners all hold a certificate, the handshake for a name that some listener matches
gets its owner exactly when the hostnames were declared in order. -/
theorem certificateFor_eq_bestListenerFor_iff
    (hb : buildGatewayTable p generation gateway routes secret previous = .ok built)
    (hp : built.byPort[port]? = some table) {t : Tables} (ht : t.byPort[port]? = some table)
    (hterm : AllTerminate table)
    (hmatch : ∃ l ∈ table.listeners, hostnameMatches l.hostname sni = true) :
    t.certificateFor port sni = bestListenerFor table sni ↔
      DeclaredInOrder ((declaredOn gateway port).map Listener.hostname) sni := by
  rw [Tables.certificateFor, ht, Option.bind_some, DeclaredInOrder]
  have hnames : ∀ P : String → Prop, (∀ l ∈ table.listeners, P l.hostname) ↔
      ∀ h ∈ (declaredOn gateway port).map Listener.hostname, P h := by
    intro P
    rw [← List.forall_mem_map, buildGatewayTable_hostnames hb hp]
    exact forall_congr' fun h => imp_congr_left (List.mem_insertionSort _)
  split_ifs with hsni
  · subst hsni
    have hsorted := pairwise_sortDown hostnameSpecificity ((declaredOn gateway port).map Listener.hostname)
    rw [← buildGatewayTable_hostnames hb hp, List.pairwise_map] at hsorted
    rw [certificateFor_eq_best_iff_of_empty hterm hsorted hmatch]
    exact hnames (· = "")
  · obtain ⟨l, hl, hlm⟩ := hmatch
    obtain ⟨i, hi⟩ := mem_matching.mpr ⟨hl, hlm⟩
    obtain ⟨c, rest, hm⟩ := List.exists_cons_of_ne_nil (List.ne_nil_of_mem hi)
    have hfirst := firstMax_of_matching hb hp hm
    rw [certificateFor_eq_best_iff_of_ne hterm hsni hm,
      hnames fun h => hostnameMatches h sni = true → hostnameScore h ≤ hostnameScore c.1.hostname]
    exact ⟨fun h k hk => hfirst.unique hk ▸ h, fun h => h _ hfirst⟩

/-! A Gateway with the HTTPS listeners of the given hostnames on port 10000. -/

def httpsListener (hostname : String) : Listener where
  name := hostname
  port := 443
  internalPort := 10000
  protocol := "HTTPS"
  hostname := hostname
  hasTLS := true
  clientCAMode := ""
  proxyProtocol := false

def httpsGateway (hostnames : List String) : GatewayConfig where
  uid := "uid"
  ns := "shop"
  name := "gw"
  listeners := hostnames.map httpsListener
  backendClientCert := false
  trustedProxies := []

def httpsPort (hostnames : List String) : PortTable where
  gatewayUID := "uid"
  gatewayName := "shop/gw"
  tls := true
  tcp := false
  udp := false
  tlsPassthrough := false
  proxyProtocol := false
  listeners := hostnames.map fun hostname =>
    ⟨hostname, hostname, some ⟨"", ""⟩, false, none, .noClientCert, []⟩
  trust := []

def httpsTable (hostnames : List String) : GatewayTable := ⟨"g1", GoMap.setAll ∅ [(10000, httpsPort hostnames)], ∅⟩

theorem shorter_wildcard_presented :
    buildGatewayTable .trusting "g1" (httpsGateway ["*.com", "*.example.com"]) [] (some ∅) none =
      .ok (httpsTable ["*.com", "*.example.com"]) ∧
    (httpsTable ["*.com", "*.example.com"]).byPort[(10000 : Int32)]? =
      some (httpsPort ["*.com", "*.example.com"]) ∧
    AllTerminate (httpsPort ["*.com", "*.example.com"]) ∧
    ((mergeTables [httpsTable ["*.com", "*.example.com"]]).certificateFor 10000 "shop.example.com").map
      (·.1.hostname) = some "*.com" ∧
    (bestListenerFor (httpsPort ["*.com", "*.example.com"]) "shop.example.com").map
      (·.1.hostname) = some "*.example.com" := by
  refine ⟨by decide, by decide, ?_, by decide, by decide⟩
  simp [AllTerminate, httpsPort]

theorem longer_wildcard_first_presented :
    (mergeTables [httpsTable ["*.example.com", "*.com"]]).certificateFor 10000 "shop.example.com" =
      bestListenerFor (httpsPort ["*.example.com", "*.com"]) "shop.example.com" := by
  have hb : buildGatewayTable .trusting "g1" (httpsGateway ["*.example.com", "*.com"]) [] (some ∅) none =
      .ok (httpsTable ["*.example.com", "*.com"]) := by decide
  have hterm : AllTerminate (httpsPort ["*.example.com", "*.com"]) := by simp [AllTerminate, httpsPort]
  refine (certificateFor_eq_bestListenerFor_iff hb (by decide) (by decide) hterm
    ⟨_, List.mem_cons_self .., by decide⟩).mpr ?_
  rw [DeclaredInOrder, if_neg (by decide)]
  intro h hh
  rw [← find?_sortDown_eq_some_iff] at hh
  obtain rfl : "*.example.com" = h := Option.some.inj ((by decide : _ = some _).symm.trans hh)
  decide

end Krouter.Routing
