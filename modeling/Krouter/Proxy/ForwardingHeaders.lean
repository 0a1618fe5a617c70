import Krouter.Proxy.ClientIP
import Krouter.Proxy.Outbound

/-! What an untrusted peer can make of the forwarding headers a backend gets. Four headers are generated
again; whatever else starts with `X-Forwarded-` goes through. -/

namespace Krouter.Proxy
open Compiled Http GoString Routing

/-- The headers that tell of forwarding, under their canonical names. -/
def isForwardingName (key : String) : Bool := key = "Forwarded" || hasPrefix key "X-Forwarded-"

def SameBut (family : String → Bool) (h h' : Header) : Prop :=
  ∀ key, family key = false → h[key]? = h'[key]?

variable {h h' : Header} {key : String}

theorem values_congr {name : String} (hname : h[canonicalKey name]? = h'[canonicalKey name]?) :
    h.values name = h'.values name := by
  rw [Header.values, Header.values, GoMap.read, GoMap.read, hname]

theorem get_congr {name : String} (hname : h[canonicalKey name]? = h'[canonicalKey name]?) :
    h.get name = h'.get name := by
  rw [Header.get, Header.get, values_congr hname]

theorem set_agree (hk : h[key]? = h'[key]?) (name value : String) :
    (h.set name value)[key]? = (h'.set name value)[key]? := by
  rw [Header.set, Header.set, GoMap.get_insert, GoMap.get_insert, hk]

theorem foldl_del_agree (hk : h[key]? = h'[key]?) (names : List String) :
    (names.foldl Header.del h)[key]? = (names.foldl Header.del h')[key]? := by
  rw [getElem_foldl_del, getElem_foldl_del, hk]

theorem setIfMissing_agree (hk : h[key]? = h'[key]?) {name : String}
    (hname : h[canonicalKey name]? = h'[canonicalKey name]?) (value : String) :
    (setIfMissing h name value)[key]? = (setIfMissing h' name value)[key]? := by
  rw [setIfMissing, setIfMissing, get_congr hname]
  split
  · exact set_agree hk name value
  · exact hk

theorem setIfMissing_of_ne {name value : String} (hne : canonicalKey name ≠ key) :
    (setIfMissing h name value)[key]? = h[key]? := by
  rw [setIfMissing]
  split
  · exact set_of_ne hne
  · rfl

/-- The proxy reads three headers itself; beyond those it treats every entry on its own. -/
structure SameHops (h h' : Header) : Prop where
  connection : h.values "Connection" = h'.values "Connection"
  te : h.values "Te" = h'.values "Te"
  upgrade : h.values "Upgrade" = h'.values "Upgrade"

theorem SameHops.tokens (hs : SameHops h h') : connectionTokens h = connectionTokens h' := by
  rw [connectionTokens, connectionTokens, hs.connection]

theorem SameHops.upgradeType (hs : SameHops h h') : upgradeType h = upgradeType h' := by
  rw [Proxy.upgradeType, Proxy.upgradeType, Header.get, Header.get, hs.connection, hs.upgrade]

theorem SameHops.rewriteInput (hs : SameHops h h') (hk : h[key]? = h'[key]?) :
    (rewriteInput h)[key]? = (rewriteInput h')[key]? := by
  have hremoved : (removeHopByHopHeaders h)[key]? = (removeHopByHopHeaders h')[key]? := by
    rw [removeHopByHopHeaders, removeHopByHopHeaders, hs.tokens]
    exact foldl_del_agree (foldl_del_agree hk _) _
  rw [Proxy.rewriteInput, Proxy.rewriteInput, hs.te, hs.upgradeType]
  refine foldl_del_agree ?_ _
  split_ifs
  · exact set_agree (set_agree (set_agree hremoved _ _) _ _) _ _
  · exact set_agree (set_agree hremoved _ _) _ _
  · exact set_agree hremoved _ _
  · exact hremoved

theorem rewriteInput_forwarding {name : String} (hname : name ∈ forwardingHeaders) (h : Header) :
    (rewriteInput h)[canonicalKey name]? = none := by
  rw [rewriteInput, getElem_foldl_del, if_pos ⟨name, hname, rfl⟩]

theorem rewriteForwardingHeaders_agree {r r' : Request} (haddr : r.remoteAddr = r'.remoteAddr)
    (hhost : r.host = r'.host) (withTLS : Bool)
    (hfwd : ∀ n ∈ forwardingHeaders, h[canonicalKey n]? = h'[canonicalKey n]?)
    (hk : h[key]? = h'[key]?) :
    (rewriteForwardingHeaders r withTLS false h)[key]? =
      (rewriteForwardingHeaders r' withTLS false h')[key]? := by
  have hfor (k : String) (hk : h[k]? = h'[k]?) (peer : String) :
      (h.set "X-Forwarded-For" peer)[k]? = (h'.set "X-Forwarded-For" peer)[k]? := set_agree hk _ _
  have hhosts (k : String) (hk : h[k]? = h'[k]?) (peer host : String) :=
    setIfMissing_agree (hfor k hk peer) (hfor _ (hfwd "X-Forwarded-Host" (by decide)) peer) host
  have hprotos (k : String) (hk : h[k]? = h'[k]?) (peer host proto : String) :=
    setIfMissing_agree (hhosts k hk peer host) (hhosts _ (hfwd "X-Forwarded-Proto" (by decide)) peer host) proto
  rw [rewriteForwardingHeaders, rewriteForwardingHeaders, haddr, hhost]
  exact setIfMissing_agree (hprotos key hk _ _ _) (hprotos _ (hfwd "Forwarded" (by decide)) _ _ _) _

theorem rewriteForwardingHeaders_other (r : Request) (withTLS : Bool)
    (hfwd : ∀ n ∈ forwardingHeaders, canonicalKey n ≠ key) :
    (rewriteForwardingHeaders r withTLS false h)[key]? = h[key]? := by
  rw [rewriteForwardingHeaders, setIfMissing_of_ne (hfwd "Forwarded" (by decide)),
    setIfMissing_of_ne (hfwd "X-Forwarded-Proto" (by decide)),
    setIfMissing_of_ne (hfwd "X-Forwarded-Host" (by decide)),
    set_of_ne (hfwd "X-Forwarded-For" (by decide))]
  rfl

section
variable {visit : Visit} {r r' : Request} {rule : RuleTable} {backend : BackendTable} {withTLS : Bool}

structure WithoutHeaderFilters (rule : RuleTable) (backend : BackendTable) : Prop where
  rule : ∀ f ∈ rule.filters, f.type ≠ filterRequestHeaderModifier
  backend : ∀ f ∈ backend.filters, f.type ≠ filterRequestHeaderModifier

def withUserAgent (h : Header) : Header :=
  if h[canonicalKey "User-Agent"]?.isNone then h.set "User-Agent" "" else h

theorem foldl_applyFilter_with {filters : List Filter}
    (hf : ∀ f ∈ filters, f.type ≠ filterRequestHeaderModifier) (out : Outbound) (h : Header) :
    filters.foldl (applyFilter visit) { out with header := h } =
      { filters.foldl (applyFilter visit) out with header := h } := by
  induction filters generalizing out with
  | nil => rfl
  | cons f filters ih =>
    have hone : applyFilter visit { out with header := h } f =
        { applyFilter visit out f with header := h } := by
      rw [applyFilter, applyFilter, if_neg (hf f (.head _)), if_neg (hf f (.head _))]
      split_ifs <;> rfl
    rw [List.foldl_cons, List.foldl_cons, hone, ih fun g hg => hf g (List.mem_cons_of_mem f hg)]

def target (visit : Visit) (r : Request) (rule : RuleTable) (backend : BackendTable) : String × String :=
  let out := backend.filters.foldl (applyFilter visit)
    (rule.filters.foldl (applyFilter visit) ⟨∅, r.host, joinedPath r.path⟩)
  (out.host, out.path)

theorem outbound_eq (hf : WithoutHeaderFilters rule backend) (trustedPeer : Bool) :
    outbound visit r rule backend withTLS trustedPeer =
      ⟨withUserAgent (rewriteForwardingHeaders r withTLS trustedPeer (rewriteInput r.header)),
        (target visit r rule backend).1, (target visit r rule backend).2⟩ := by
  have hfilters : backend.filters.foldl (applyFilter visit) (rule.filters.foldl (applyFilter visit)
      ⟨rewriteForwardingHeaders r withTLS trustedPeer (rewriteInput r.header), r.host, joinedPath r.path⟩) =
      ⟨rewriteForwardingHeaders r withTLS trustedPeer (rewriteInput r.header),
        (target visit r rule backend).1, (target visit r rule backend).2⟩ := by
    have hrule : rule.filters.foldl (applyFilter visit)
        ⟨rewriteForwardingHeaders r withTLS trustedPeer (rewriteInput r.header), r.host, joinedPath r.path⟩ = _ :=
      foldl_applyFilter_with hf.rule ⟨∅, r.host, joinedPath r.path⟩ _
    rw [hrule]
    exact foldl_applyFilter_with hf.backend _ _
  rw [outbound, hfilters, withUserAgent]
  split_ifs <;> rfl

variable {h : Header}

theorem withUserAgent_agree (hagent : h[canonicalKey "User-Agent"]? = h'[canonicalKey "User-Agent"]?)
    (hk : h[key]? = h'[key]?) : (withUserAgent h)[key]? = (withUserAgent h')[key]? := by
  rw [withUserAgent, withUserAgent, hagent]
  split_ifs
  · exact set_agree hk _ _
  · exact hk

theorem withUserAgent_other (hne : canonicalKey "User-Agent" ≠ key) : (withUserAgent h)[key]? = h[key]? := by
  rw [withUserAgent]
  split_ifs
  · exact set_of_ne hne
  · rfl

theorem ne_of_isForwardingName {name : String} {forwarding : Bool} (hkey : isForwardingName key = forwarding)
    (hname : isForwardingName (canonicalKey name) = !forwarding) : canonicalKey name ≠ key := by
  rintro rfl
  rw [hkey] at hname
  exact Bool.not_ne_self forwarding hname.symm

theorem hopHeaders_ne (hkey : isForwardingName key = true) : ∀ n ∈ hopHeaders, canonicalKey n ≠ key := by
  have hnone : ∀ n ∈ hopHeaders, isForwardingName (canonicalKey n) = false := by decide
  exact fun n hn => ne_of_isForwardingName hkey (hnone n hn)

theorem canonicalKey_forwarding : ∀ n ∈ forwardingHeaders, canonicalKey n = n := by decide

theorem forwardingHeaders_ne (hkey : key ∉ forwardingHeaders) : ∀ n ∈ forwardingHeaders, canonicalKey n ≠ key := by
  intro n hn he
  rw [canonicalKey_forwarding n hn] at he
  exact hkey (he ▸ hn)

theorem outbound_forwarding (hf : WithoutHeaderFilters rule backend)
    (hkey : isForwardingName key = true) (hother : key ∉ forwardingHeaders) :
    (outbound visit r rule backend withTLS false).header[key]? =
      if ∃ n ∈ connectionTokens r.header, canonicalKey n = key then none else r.header[key]? := by
  rw [outbound_eq hf]
  rw [withUserAgent_other (ne_of_isForwardingName hkey (by decide)),
    rewriteForwardingHeaders_other r withTLS (forwardingHeaders_ne hother),
    rewriteInput_other _ (hopHeaders_ne hkey) (forwardingHeaders_ne hother)]

theorem SameBut.sameHops (hs : SameBut isForwardingName h h') : SameHops h h' where
  connection := values_congr (hs _ (by decide))
  te := values_congr (hs _ (by decide))
  upgrade := values_congr (hs _ (by decide))

theorem SameBut.outbound_eq (hs : SameBut isForwardingName r.header r'.header)
    (hf : WithoutHeaderFilters rule backend) (haddr : r.remoteAddr = r'.remoteAddr)
    (hhost : r.host = r'.host) (hpath : r.path = r'.path)
    (hothers : ∀ key, isForwardingName key = true → key ∉ forwardingHeaders →
      (∀ n ∈ connectionTokens r.header, canonicalKey n ≠ key) → r.header[key]? = r'.header[key]?) :
    outbound visit r rule backend withTLS false = outbound visit r' rule backend withTLS false := by
  -- what `Rewrite` gets is the same under every name
  have hinput : ∀ key : String, (rewriteInput r.header)[key]? = (rewriteInput r'.header)[key]? := by
    intro key
    by_cases hkey : isForwardingName key = true
    · by_cases hfour : key ∈ forwardingHeaders
      · rw [← canonicalKey_forwarding key hfour, rewriteInput_forwarding hfour, rewriteInput_forwarding hfour]
      · have hfwd := forwardingHeaders_ne hfour
        rw [rewriteInput_other _ (hopHeaders_ne hkey) hfwd, rewriteInput_other _ (hopHeaders_ne hkey) hfwd,
          ← hs.sameHops.tokens]
        split_ifs with hnamed
        · rfl
        · exact hothers key hkey hfour fun n hn he => hnamed ⟨n, hn, he⟩
    · exact hs.sameHops.rewriteInput (hs key (Bool.not_eq_true _ ▸ hkey))
  have hrewritten : ∀ key : String, (rewriteForwardingHeaders r withTLS false (rewriteInput r.header))[key]? =
      (rewriteForwardingHeaders r' withTLS false (rewriteInput r'.header))[key]? := fun key =>
    rewriteForwardingHeaders_agree haddr hhost withTLS (fun _ _ => hinput _) (hinput key)
  have hheader : withUserAgent (rewriteForwardingHeaders r withTLS false (rewriteInput r.header)) =
      withUserAgent (rewriteForwardingHeaders r' withTLS false (rewriteInput r'.header)) :=
    Std.ExtTreeMap.ext_getElem? fun key => withUserAgent_agree (hrewritten _) (hrewritten key)
  have htarget : target visit r rule backend = target visit r' rule backend := by
    rw [target, target, hhost, hpath]
  rw [Proxy.outbound_eq hf, Proxy.outbound_eq hf, hheader, htarget]

end

theorem resolve_snd (t : ClientIP.Trust) (remoteAddr : String) (h h' : Header) :
    (ClientIP.resolve t remoteAddr h).2 = (ClientIP.resolve t remoteAddr h').2 := by
  rw [ClientIP.resolve, ClientIP.resolve]
  cases NetIP.parseAddr (ClientIP.hostOf remoteAddr) with
  | none => rfl
  | some peer =>
    dsimp only
    split_ifs <;> rfl

/-- Two requests of one untrusted peer that differ in forwarding headers only make the same outbound
request when those that are neither generated again nor named by `Connection` are the same. -/
theorem untrusted_forwarding_iff (visit : Visit) (t : ClientIP.Trust) (r r' : Request)
    (hrequest : r' = { r with header := r'.header })
    (hheader : SameBut isForwardingName r.header r'.header)
    (hpeer : (ClientIP.resolve t r.remoteAddr r.header).2 = false) (rule : RuleTable)
    (backend : BackendTable) (withTLS : Bool) (hf : WithoutHeaderFilters rule backend) :
    outbound visit r rule backend withTLS (ClientIP.resolve t r.remoteAddr r.header).2 =
        outbound visit r' rule backend withTLS (ClientIP.resolve t r'.remoteAddr r'.header).2 ↔
      ∀ key, isForwardingName key = true → key ∉ forwardingHeaders →
        (∀ n ∈ connectionTokens r.header, canonicalKey n ≠ key) → r.header[key]? = r'.header[key]? := by
  have haddr : r'.remoteAddr = r.remoteAddr := by rw [hrequest]
  have hhost : r'.host = r.host := by rw [hrequest]
  have hpath : r'.path = r.path := by rw [hrequest]
  rw [haddr, resolve_snd t r.remoteAddr r'.header r.header, hpeer]
  constructor
  · intro heq key hkey hother hnamed
    have hentry : (outbound visit r rule backend withTLS false).header[key]? =
        (outbound visit r' rule backend withTLS false).header[key]? := by rw [heq]
    rw [outbound_forwarding hf hkey hother, outbound_forwarding hf hkey hother,
      ← hheader.sameHops.tokens] at hentry
    have hunnamed : ¬ ∃ n ∈ connectionTokens r.header, canonicalKey n = key := by
      rintro ⟨n, hn, he⟩
      exact hnamed n hn he
    rwa [if_neg hunnamed, if_neg hunnamed] at hentry
  · exact hheader.outbound_eq hf haddr.symm hhost.symm hpath.symm

/-! ## A port of the client's choice -/

def strangerRequest (header : Header) : Request :=
  ⟨"GET", "shop.example.com", "/", "/", ∅, header, [], "192.0.2.1:4000", none⟩

def plainBackend : BackendTable := ⟨"shop", "web", 80, 1, true, false, [], "", none, false⟩

def plainRule : RuleTable :=
  ⟨[], [], [plainBackend], [], none, false, 0, 0, 1, none, none, none, false⟩

theorem forged_chain_ignored :
    outbound (fun m => m.toList) (strangerRequest ∅) plainRule plainBackend false
        (ClientIP.resolve [] "192.0.2.1:4000" ∅).2 =
      outbound (fun m => m.toList) (strangerRequest (Header.set ∅ "X-Forwarded-For" "10.0.0.7")) plainRule
        plainBackend false
        (ClientIP.resolve [] "192.0.2.1:4000" (Header.set ∅ "X-Forwarded-For" "10.0.0.7")).2 := by
  have hother : ∀ key, key ≠ "X-Forwarded-For" →
      (∅ : Header)[key]? = (Header.set ∅ "X-Forwarded-For" "10.0.0.7")[key]? := by
    intro key hkey
    have hne : canonicalKey "X-Forwarded-For" ≠ key := by
      rw [canonicalKey_forwarding _ (by decide)]
      exact Ne.symm hkey
    exact (set_of_ne hne).symm
  refine (untrusted_forwarding_iff (fun m => m.toList) [] (strangerRequest ∅)
    (strangerRequest (Header.set ∅ "X-Forwarded-For" "10.0.0.7")) rfl (fun key hkey => hother key ?_)
    (by decide) plainRule plainBackend false ⟨by decide, by decide⟩).mpr
    fun key _ hfour _ => hother key ?_
  · rintro rfl
    exact absurd hkey (by decide)
  · rintro rfl
    exact hfour (by decide)

theorem forged_port_forwarded :
    (ClientIP.resolve [] "192.0.2.1:4000" ∅).2 = false ∧
      SameBut isForwardingName (strangerRequest ∅).header
        (strangerRequest (Header.set ∅ "X-Forwarded-Port" "443")).header ∧
      (outbound (fun m => m.toList) (strangerRequest ∅) plainRule plainBackend false false).header.values
        "X-Forwarded-Port" = [] ∧
      (outbound (fun m => m.toList) (strangerRequest (Header.set ∅ "X-Forwarded-Port" "443")) plainRule
        plainBackend false false).header.values "X-Forwarded-Port" = ["443"] := by
  refine ⟨by decide, fun key hkey => ?_, by decide, by decide⟩
  exact (set_of_ne (ne_of_isForwardingName hkey (by decide))).symm

end Krouter.Proxy
