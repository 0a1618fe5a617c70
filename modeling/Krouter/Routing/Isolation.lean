import Krouter.Routing.Ownership
import Krouter.Routing.Precedence

/-! Listener isolation: on a port whose hostnames are distinct and in lower case, a request is served from
the owner of its authority. -/

namespace Krouter.Routing
open Compiled Http GoString RunningBest

/-! ## One owner for each host -/

def LowerCase (h : String) : Prop := ∀ c ∈ h.toList, foldChar c = c

instance (h : String) : Decidable (LowerCase h) :=
  decidable_of_iff (h.toList.all fun c => foldChar c = c) (by simp [LowerCase])

variable {h host k : String}

theorem LowerCase.map_foldChar (hl : LowerCase h) : h.toList.map foldChar = h.toList :=
  (List.map_congr_left hl).trans (List.map_id _)

structure DistinctHostnames (table : PortTable) : Prop where
  lower : ∀ l ∈ table.listeners, LowerCase l.hostname
  nodup : (table.listeners.map ListenerTable.hostname).Nodup

theorem utf8ByteSize_suffix {s t : List Char} (h : s <:+ t) :
    (String.ofList s).utf8ByteSize ≤ (String.ofList t).utf8ByteSize ∧
      ((String.ofList s).utf8ByteSize = (String.ofList t).utf8ByteSize → s = t) := by
  obtain ⟨pre, rfl⟩ := h
  rw [String.ofList_append, String.utf8ByteSize_append]
  refine ⟨Nat.le_add_left .., fun he => ?_⟩
  have hz : String.ofList pre = "" := String.utf8ByteSize_eq_zero_iff.mp (by omega)
  have hnil : pre = [] := by simpa using congrArg String.toList hz
  rw [hnil, List.nil_append]

def wildcardSuffix (h : String) : List Char := h.toList.drop 1

theorem utf8ByteSize_wildcard (hw : hasPrefix h "*." = true) :
    h.utf8ByteSize = 1 + (String.ofList (wildcardSuffix h)).utf8ByteSize := by
  obtain ⟨rest, rfl⟩ := hasPrefix_iff.mp hw
  have hs : "*." ++ rest = "*" ++ String.ofList (wildcardSuffix ("*." ++ rest)) := by
    rw [← String.toList_inj]
    simp [wildcardSuffix]
  exact (congrArg String.utf8ByteSize hs).trans String.utf8ByteSize_append

/-- How each class of hostname matches and scores. -/
inductive HostClass (h host : String) : Prop where
  | absent : h = "" → hostnameScore h = 0 → HostClass h host
  | wildcard : hasPrefix h "*." = true → wildcardSuffix h <:+ host.toList →
      hostnameScore h = h.utf8ByteSize → HostClass h host
  | exact : h.toList.map foldChar = host.toList.map foldChar →
      hostnameScore h = 65536 + h.utf8ByteSize → HostClass h host

theorem hostClass_of_matches (hm : hostnameMatches h host = true) : HostClass h host := by
  unfold hostnameMatches at hm
  split_ifs at hm with h0 hw
  · exact .absent h0 (by simp [hostnameScore, h0])
  · rw [Bool.and_eq_true, hasSuffix, List.isSuffixOf_iff_suffix, String.toList_ofList] at hm
    exact .wildcard hw hm.2 (by simp [hostnameScore, h0, hw])
  · exact .exact (of_decide_eq_true hm) (by simp [hostnameScore, h0, hw])

theorem wildcardSuffix_inj (hw : hasPrefix h "*." = true) (kw : hasPrefix k "*." = true)
    (he : wildcardSuffix h = wildcardSuffix k) : h = k := by
  obtain ⟨rest, rfl⟩ := hasPrefix_iff.mp hw
  obtain ⟨rest', rfl⟩ := hasPrefix_iff.mp kw
  rw [← String.toList_inj]
  simpa [wildcardSuffix] using he

theorem wildcard_score_lt_exact (hl : LowerCase h) (kl : LowerCase k)
    (hw : hasPrefix h "*." = true) (hs : wildcardSuffix h <:+ host.toList)
    (hk : k.toList.map foldChar = host.toList.map foldChar) : h.utf8ByteSize < 65536 + k.utf8ByteSize := by
  have hsuffix : (wildcardSuffix h).map foldChar <:+ k.toList := by
    rw [← kl.map_foldChar, hk]
    exact hs.map foldChar
  have hfold : (wildcardSuffix h).map foldChar = wildcardSuffix h :=
    (List.map_congr_left fun c hc => hl c (List.mem_of_mem_drop hc)).trans (List.map_id _)
  rw [hfold] at hsuffix
  have hle := (utf8ByteSize_suffix hsuffix).1
  rw [String.ofList_toList] at hle
  have := utf8ByteSize_wildcard hw
  omega

theorem hostname_eq_of_score (hl : LowerCase h) (kl : LowerCase k)
    (hm : hostnameMatches h host = true) (km : hostnameMatches k host = true)
    (he : hostnameScore h = hostnameScore k) : h = k := by
  cases hostClass_of_matches hm with
  | absent h0 hs =>
    cases hostClass_of_matches km with
    | absent k0 _ => rw [h0, k0]
    | wildcard kw _ ks =>
      have := utf8ByteSize_wildcard kw
      omega
    | exact _ ks => omega
  | wildcard hw hsuf hs =>
    cases hostClass_of_matches km with
    | absent _ ks =>
      have := utf8ByteSize_wildcard hw
      omega
    | wildcard kw ksuf ks =>
      have h1 := utf8ByteSize_wildcard hw
      have h2 := utf8ByteSize_wildcard kw
      refine wildcardSuffix_inj hw kw ?_
      -- of two suffixes of the host one is a suffix of the other
      rcases List.suffix_or_suffix_of_suffix hsuf ksuf with hsub | hsub
      · exact (utf8ByteSize_suffix hsub).2 (by omega)
      · exact ((utf8ByteSize_suffix hsub).2 (by omega)).symm
    | exact kf ks =>
      have := wildcard_score_lt_exact hl kl hw hsuf kf
      omega
  | exact hf hs =>
    cases hostClass_of_matches km with
    | absent _ ks => omega
    | wildcard kw ksuf ks =>
      have := wildcard_score_lt_exact kl hl kw ksuf hf
      omega
    | exact kf ks =>
      rw [← String.toList_inj, ← hl.map_foldChar, ← kl.map_foldChar, hf, kf]

variable {table : PortTable} {host : String}

variable {l : ListenerTable} {r : Request} {grpc : Bool} {c : Matched}

theorem DistinctHostnames.listener_eq (hd : DistinctHostnames table) {m : ListenerTable}
    (hl : l ∈ table.listeners) (hm : m ∈ table.listeners) (he : l.hostname = m.hostname) : l = m :=
  List.inj_on_of_nodup_map hd.nodup hl hm he

theorem DistinctHostnames.owner (hd : DistinctHostnames table)
    (hl : l ∈ table.listeners) (hm : hostnameMatches l.hostname host = true)
    (hmax : ∀ other ∈ table.listeners, hostnameMatches other.hostname host = true →
      hostnameScore other.hostname ≤ hostnameScore l.hostname) :
    ∃ i, bestListenerFor table host = some (l, i) := by
  obtain ⟨i, hi⟩ := mem_matching.mpr ⟨hl, hm⟩
  obtain ⟨c, hc⟩ := exists_bestListenerFor (List.ne_nil_of_mem hi)
  have hfirst := bestListenerFor_eq_some_iff.mp hc
  obtain ⟨hcl, hcm⟩ := mem_matching.mp ⟨c.2, hfirst.mem⟩
  have hscore := le_antisymm (hmax c.1 hcl hcm) (hfirst.le hi)
  have heq := hd.listener_eq hcl hl
    (hostname_eq_of_score (hd.lower _ hcl) (hd.lower _ hl) hcm hm hscore)
  exact ⟨c.2, by rw [hc, ← heq]⟩

theorem le_winningScore (hl : l ∈ table.listeners) (hm : hostnameMatches l.hostname host = true) :
    hostnameScore l.hostname ≤ winningScore table.listeners host := by
  rw [winningScore, foldl_keepMax (fun l : ListenerTable => hostnameMatches l.hostname host)]
  exact le_foldl_max.2 _ (List.mem_map_of_mem (List.mem_filter.mpr ⟨hl, hm⟩))

theorem matchPort_considered (h : matchPort table host r grpc = some c) :
    hostnameMatches c.listener.hostname host = true ∧
      hostnameScore c.listener.hostname = winningScore table.listeners host ∧
      routeHostnameMatches c.route.hostnames host = true ∧ c.rule.grpc = grpc := by
  rw [matchPort_eq] at h
  obtain ⟨s, hs, rfl⟩ := Option.map_eq_some_iff.mp h
  obtain ⟨c, -, hs⟩ := List.mem_filterMap.mp (mem_of_foldl_keepBest hs)
  unfold scored at hs
  split_ifs at hs with hc
  obtain ⟨specificity, -, rfl⟩ := Option.map_eq_some_iff.mp hs
  exact hc

theorem matchPort_listener (h : matchPort table host r grpc = some c) :
    c ∈ tableOrder table ∧ hostnameMatches c.listener.hostname host = true ∧
      hostnameScore c.listener.hostname = winningScore table.listeners host := by
  obtain ⟨hmatches, hscore, -⟩ := matchPort_considered h
  exact ⟨mem_tableOrder_of_matchPort h, hmatches, hscore⟩

theorem DistinctHostnames.matchPort_owner (hd : DistinctHostnames table) (h : matchPort table host r grpc = some c) :
    ∃ i, bestListenerFor table host = some (c.listener, i) := by
  obtain ⟨hc, hm, hw⟩ := matchPort_listener h
  exact hd.owner (mem_tableOrder.mp hc).1 hm fun other ho hom => hw ▸ le_winningScore ho hom

theorem DistinctHostnames.matchRequest_owner (hd : DistinctHostnames table) {t : Tables} {port : Int32}
    (ht : t.byPort[port]? = some table)
    (h : t.matchRequest port host r = some c) :
    ∃ i, bestListenerFor table host = some (c.listener, i) := by
  obtain ⟨table, ht', grpc, hm⟩ := Tables.matchPort_of_matchRequest h
  obtain rfl := Option.some.inj (ht'.symm.trans ht)
  exact hd.matchPort_owner hm

/-- An authority that is not misdirected is owned by the listener that the server name
selected, if it selected one. -/
theorem owner_eq_of_not_misdirected {t : Tables} {port : Int32} (ht : t.byPort[port]? = some table)
    {sni : String} (hmis : t.misdirected port sni host = false)
    (hsni : ∃ l ∈ table.listeners, hostnameMatches l.hostname sni = true) :
    bestListenerFor table host = bestListenerFor table sni := by
  obtain ⟨l, hl, hm⟩ := hsni
  obtain ⟨i, hi⟩ := mem_matching.mpr ⟨hl, hm⟩
  obtain ⟨c, hc⟩ := exists_bestListenerFor (List.ne_nil_of_mem hi)
  simp only [Tables.misdirected, ht, Option.bind_some, hc, Option.map_some, ne_eq,
    decide_eq_false_iff_not, not_not] at hmis
  obtain ⟨d, hd, hpos⟩ := Option.map_eq_some_iff.mp hmis
  -- the same position holds the same listener
  have hcm := (List.mem_filter.mp (bestListenerFor_eq_some_iff.mp hc).mem).1
  have hdm := (List.mem_filter.mp (bestListenerFor_eq_some_iff.mp hd).mem).1
  have hcd : d = c := by
    have h1 := List.mk_mem_zipIdx_iff_getElem?.mp hcm
    have h2 := List.mk_mem_zipIdx_iff_getElem?.mp hdm
    rw [hpos, h1] at h2
    exact Prod.ext (Option.some.inj h2).symm hpos
  rw [hd, hc, hcd]

end Krouter.Routing
