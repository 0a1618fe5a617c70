import Krouter.Routing.Ownership
import Krouter.Routing.Pick

/-! Letter case in hosts. Exact hostnames ignore it, wildcards do not, so two hosts that
differ in case are told apart by what follows their first label. -/

namespace Krouter.Routing
open Compiled Auth Http GoString

/-- The hosts differ only in the case of ASCII letters. -/
def SameUpToCase (a b : String) : Prop := a.toList.map lowerChar = b.toList.map lowerChar

instance (a b : String) : Decidable (SameUpToCase a b) := inferInstanceAs (Decidable (_ = _))

/-- What a wildcard label leaves of a host: everything from the first dot after its first
character on. -/
def afterFirstLabel (host : String) : List Char := host.toList.tail.dropWhile (· ≠ '.')

/-! ## Patterns -/

theorem foldChar_lowerChar (c : Char) : foldChar (lowerChar c) = foldChar c := by
  unfold lowerChar
  split_ifs with h
  · have hletters : ∀ n, n < 91 → 65 ≤ n → foldChar (Char.ofNat (n + 32)) = foldChar (Char.ofNat n) := by
      decide
    have hc := hletters c.toNat (by omega) h.1
    rwa [Char.ofNat_toNat] at hc
  · rfl

theorem SameUpToCase.equalFold_eq {a b : String} (h : SameUpToCase a b) (pattern : String) :
    equalFold pattern a = equalFold pattern b := by
  have hfold := congrArg (List.map foldChar) h
  simp only [List.map_map, Function.comp_def, foldChar_lowerChar] at hfold
  rw [equalFold, equalFold, hfold]

theorem suffix_tail_iff {α : Type} {s l : List α} (hs : s ≠ []) :
    s <:+ l.tail ↔ ∃ pre, pre ≠ [] ∧ pre ++ s = l := by
  constructor
  · rintro ⟨pre, hpre⟩
    cases l with
    | nil =>
      rw [List.tail_nil, List.append_eq_nil_iff] at hpre
      exact absurd hpre.2 hs
    | cons c l =>
      rw [List.tail_cons] at hpre
      exact ⟨c :: pre, List.cons_ne_nil c pre, by rw [List.cons_append, hpre]⟩
  · rintro ⟨pre, hpre, rfl⟩
    obtain ⟨c, pre, rfl⟩ := List.exists_cons_of_ne_nil hpre
    exact ⟨pre, rfl⟩

theorem suffix_dropWhile_iff {α : Type} [DecidableEq α] {sep : α} {s l : List α} :
    (sep :: s) <:+ l.dropWhile (· ≠ sep) ↔ (sep :: s) <:+ l := by
  induction l with
  | nil => rfl
  | cons c l ih =>
    by_cases hc : c = sep
    · simp [hc]
    · rw [List.dropWhile_cons_of_pos (by simpa using hc), ih]
      refine ⟨fun h => h.trans (List.suffix_cons c l), fun h => ?_⟩
      rcases List.suffix_cons_iff.mp h with he | h
      · exact absurd (List.cons.inj he).1.symm hc
      · exact h

theorem hostnameMatches_wildcard {rest : List Char} {host : String} :
    hostnameMatches (String.ofList ('*' :: '.' :: rest)) host = true ↔
      ('.' :: rest) <:+ afterFirstLabel host := by
  have hne : String.ofList ('*' :: '.' :: rest) ≠ "" := fun h => by
    simpa using congrArg String.toList h
  have hwild : hasPrefix (String.ofList ('*' :: '.' :: rest)) "*." = true := by simp [hasPrefix]
  rw [hostnameMatches, if_neg hne, if_pos hwild, afterFirstLabel, suffix_dropWhile_iff,
    suffix_tail_iff (List.cons_ne_nil '.' rest), String.toList_ofList, List.drop_one, List.tail_cons,
    Bool.and_eq_true, decide_eq_true_eq, hasSuffix, List.isSuffixOf_iff_suffix, String.toList_ofList]
  constructor
  · rintro ⟨hlt, pre, hpre⟩
    refine ⟨pre, fun hnil => ?_, hpre⟩
    -- nothing before the suffix leaves no room for the label
    rw [hnil, List.nil_append] at hpre
    rw [hpre, String.ofList_toList] at hlt
    exact absurd hlt (Nat.lt_irrefl _)
  · rintro ⟨pre, hpre, he⟩
    refine ⟨?_, pre, he⟩
    have hhost : String.ofList pre ++ String.ofList ('.' :: rest) = host := by
      rw [← String.ofList_append, he, String.ofList_toList]
    have hpos : (String.ofList pre).utf8ByteSize ≠ 0 := fun hz =>
      hpre (by simpa using congrArg String.toList (String.utf8ByteSize_eq_zero_iff.mp hz))
    rw [← hhost, String.utf8ByteSize_append]
    omega

theorem hostnameMatches_eq {a b : String} (h : SameUpToCase a b)
    (hl : afterFirstLabel a = afterFirstLabel b) (pattern : String) :
    hostnameMatches pattern a = hostnameMatches pattern b := by
  by_cases hw : hasPrefix pattern "*." = true
  · obtain ⟨rest, rfl⟩ := hasPrefix_iff.mp hw
    have hp : "*." ++ rest = String.ofList ('*' :: '.' :: rest.toList) := by
      rw [← String.toList_inj]
      simp
    rw [hp, Bool.eq_iff_iff, hostnameMatches_wildcard, hostnameMatches_wildcard, hl]
  · rw [hostnameMatches, hostnameMatches, if_neg hw, if_neg hw, h.equalFold_eq]

section
variable {a b : String} (h : ∀ pattern, hostnameMatches pattern a = hostnameMatches pattern b)
include h

theorem routeHostnameMatches_congr (hostnames : List String) :
    routeHostnameMatches hostnames a = routeHostnameMatches hostnames b := by
  simp only [routeHostnameMatches, h]

theorem routeHostnameScore_congr (listener : ListenerTable) (route : RouteTable) :
    routeHostnameScore listener route a = routeHostnameScore listener route b := by
  simp only [routeHostnameScore, h]

theorem matchPort_congr (table : PortTable) (r : Request) (grpc : Bool) :
    matchPort table a r grpc = matchPort table b r grpc := by
  have hrule : matchRule a r grpc = matchRule b r grpc := by
    funext listener route best rule
    simp only [matchRule, routeHostnameScore_congr h]
  have hroute : matchRoute a r grpc = matchRoute b r grpc := by
    funext listener best route
    simp only [matchRoute, routeHostnameMatches_congr h, hrule]
  have hlistener : matchListener a r grpc = matchListener b r grpc := by
    funext winning best listener
    simp only [matchListener, h, hroute]
  simp only [matchPort, hlistener, winningScore, h]

theorem bestListenerFor_congr (table : PortTable) : bestListenerFor table a = bestListenerFor table b := by
  simp only [bestListenerFor, h]

theorem tlsMatch_congr (table : PortTable) : tlsMatch table a = tlsMatch table b := by
  have hscore : tlsScore a = tlsScore b := by
    funext listener route
    simp only [tlsScore, routeHostnameScore_congr h]
  have hrule : tlsRule a = tlsRule b := by
    funext listener route best rule
    simp only [tlsRule, hscore]
  have hroute : tlsRoute a = tlsRoute b := by
    funext listener best route
    simp only [tlsRoute, routeHostnameMatches_congr h, hrule]
  have hlistener : tlsListener a = tlsListener b := by
    funext best listener
    simp only [tlsListener, h, hroute]
  rw [tlsMatch, tlsMatch, hlistener]

end

/-- No table tells the two hosts apart, wherever the request path asks it for one. -/
structure SameRouting (a b : String) : Prop where
  matchRequest : ∀ (t : Tables) port r, t.matchRequest port a r = t.matchRequest port b r
  authEndpoint : ∀ (t : Tables) port path, t.authEndpoint port a path = t.authEndpoint port b path
  misdirectedName : ∀ (t : Tables) port host, t.misdirected port a host = t.misdirected port b host
  misdirectedHost : ∀ (t : Tables) port name, t.misdirected port name a = t.misdirected port name b
  certificateFor : ∀ (t : Tables) port, t.certificateFor port a = t.certificateFor port b
  pickTLS : ∀ (t : Tables) port index turn, t.pickTLS port a index turn = t.pickTLS port b index turn

theorem SameRouting.of_hostnameMatches {a b : String}
    (h : ∀ pattern, hostnameMatches pattern a = hostnameMatches pattern b) (he : a = "" ↔ b = "") :
    SameRouting a b where
  matchRequest t port r := by simp only [Tables.matchRequest, Tables.matchFor, matchPort_congr h]
  authEndpoint t port path := by simp only [Tables.authEndpoint, h, routeHostnameMatches_congr h]
  misdirectedName t port host := by simp only [Tables.misdirected, bestListenerFor_congr h]
  misdirectedHost t port name := by simp only [Tables.misdirected, bestListenerFor_congr h]
  certificateFor t port := by
    simp only [Tables.certificateFor, PortTable.certificateFor, h, ne_eq, he]
  pickTLS t port index turn := by simp only [Tables.pickTLS, tlsTarget, tlsMatch_congr h]

/-! ## Telling hosts apart -/

def openRule : RuleTable where
  ruleMatches := []
  filters := []
  backends := []
  mirrors := []
  cors := none
  grpc := false
  requestTimeout := 0
  backendTimeout := 0
  total := 0
  limiter := none
  wafEngine := none
  authEnforcer := none
  extensionsInvalid := false

def openPortTable (hostnames : List String) : PortTable where
  gatewayUID := "uid"
  gatewayName := "shop/gw"
  tls := false
  tcp := false
  udp := false
  tlsPassthrough := false
  proxyProtocol := false
  listeners := hostnames.map fun hostname => ⟨hostname, hostname, none, false, none, .noClientCert,
    [⟨"shop", hostname, [], 0, [openRule]⟩]⟩
  trust := []

def openTables (hostnames : List String) : Tables := ⟨GoMap.setAll ∅ [(80, openPortTable hostnames)], ∅⟩

theorem matchPort_open_isSome (pattern host : String) (r : Request) (grpc : Bool) :
    (matchPort (openPortTable [pattern]) host r grpc).isSome = (hostnameMatches pattern host && !grpc) := by
  have hscore : (-1 : Int) < hostnameScore pattern :=
    lt_of_lt_of_le (by decide) (hostnameScore_nonneg pattern)
  by_cases hm : hostnameMatches pattern host = true
  · cases grpc <;>
      simp [matchPort, openPortTable, winningScore, matchListener, matchRoute, matchRule, hm, hscore,
        routeHostnameMatches, ruleBestMatch, openRule]
  · simp [matchPort, openPortTable, matchListener, hm]

theorem openTables_match_isSome (pattern host : String) (r : Request) :
    ((openTables [pattern]).matchRequest 80 host r).isSome = hostnameMatches pattern host := by
  have hport : (openTables [pattern]).byPort[(80 : Int32)]? = some (openPortTable [pattern]) := by
    rw [openTables, GoMap.setAll_cons]
    exact GoMap.get_insert_self ..
  have hfor : ∀ grpc, (openTables [pattern]).matchFor 80 host r grpc =
      matchPort (openPortTable [pattern]) host r grpc := fun grpc => by
    rw [Tables.matchFor, hport, Option.bind_some]
  rw [Tables.matchRequest, hfor, hfor]
  split_ifs <;> simp [matchPort_open_isSome]

theorem SameRouting.hostnameMatches_eq {a b : String} (h : SameRouting a b) (pattern : String) :
    hostnameMatches pattern a = hostnameMatches pattern b := by
  have r : Request := ⟨"GET", "", "/", "/", ∅, ∅, [], "", none⟩
  rw [← openTables_match_isSome pattern a r, h.matchRequest, openTables_match_isSome]

theorem afterFirstLabel_cases (host : String) :
    afterFirstLabel host = [] ∨ ∃ rest, afterFirstLabel host = '.' :: rest := by
  cases h : afterFirstLabel host with
  | nil => exact .inl rfl
  | cons c rest =>
    have hc := List.head?_dropWhile_not (fun c : Char => decide (c ≠ '.')) host.toList.tail
    rw [afterFirstLabel] at h
    rw [h] at hc
    exact .inr ⟨rest, by simpa using hc⟩

theorem afterFirstLabel_suffix {a b : String}
    (h : ∀ pattern, hostnameMatches pattern a = hostnameMatches pattern b) :
    afterFirstLabel a <:+ afterFirstLabel b := by
  rcases afterFirstLabel_cases a with ha | ⟨rest, ha⟩
  · rw [ha]
    exact List.nil_suffix
  · have hm : hostnameMatches (String.ofList ('*' :: '.' :: rest)) a = true :=
      hostnameMatches_wildcard.mpr (ha.symm ▸ List.suffix_rfl)
    rw [h] at hm
    rw [ha]
    exact hostnameMatches_wildcard.mp hm

/-- Hosts that differ only in case are routed alike by every table exactly if they agree after their first
label. -/
theorem sameRouting_iff_afterFirstLabel {a b : String} (h : SameUpToCase a b) :
    SameRouting a b ↔ afterFirstLabel a = afterFirstLabel b := by
  constructor
  · intro hs
    have hab := afterFirstLabel_suffix hs.hostnameMatches_eq
    have hba := afterFirstLabel_suffix fun pattern => (hs.hostnameMatches_eq pattern).symm
    exact hab.eq_of_length (Nat.le_antisymm hab.length_le hba.length_le)
  · intro hl
    refine .of_hostnameMatches (hostnameMatches_eq h hl) ?_
    have hlen := congrArg List.length h
    simp only [List.length_map] at hlen
    rw [← String.toList_eq_nil_iff, ← String.toList_eq_nil_iff, ← List.length_eq_zero_iff,
      ← List.length_eq_zero_iff, hlen]

theorem upper_case_host_moves :
    SameUpToCase "shop.example.com" "shop.EXAMPLE.com" ∧
    ((openTables ["*.example.com", ""]).matchRequest 80 "shop.example.com"
      ⟨"GET", "shop.example.com", "/", "/", ∅, ∅, [], "", none⟩).map (·.listener.hostname) =
        some "*.example.com" ∧
    ((openTables ["*.example.com", ""]).matchRequest 80 "shop.EXAMPLE.com"
      ⟨"GET", "shop.example.com", "/", "/", ∅, ∅, [], "", none⟩).map (·.listener.hostname) = some "" := by
  refine ⟨by decide, by decide, by decide⟩

theorem upper_case_first_label_same : SameRouting "SHOP.example.com" "shop.example.com" :=
  (sameRouting_iff_afterFirstLabel (by decide)).mpr (by decide)

end Krouter.Routing
