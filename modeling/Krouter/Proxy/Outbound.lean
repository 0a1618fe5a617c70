import Krouter.Lib.Folds
import Krouter.Proxy.Serve

/-! The request that goes to a backend: what `httputil.ReverseProxy`, the forwarding headers and the filters
of the rule make of it. -/

namespace Krouter.Proxy
open Compiled Http GoString Routing

/-! ## Hop-by-hop headers -/

def trimString : String → String := trimChars fun c => c = ' ' || c = '\t' || c = '\n' || c = '\r'

def connectionTokens (h : Header) : List String :=
  ((h.values "Connection").flatMap fun f => (splitChar f ',').map trimString).filter (· ≠ "")

def hopHeaders : List String :=
  ["Connection", "Proxy-Connection", "Keep-Alive", "Proxy-Authenticate", "Proxy-Authorization", "Te",
    "Trailer", "Transfer-Encoding", "Upgrade"]

def removeHopByHopHeaders (h : Header) : Header :=
  hopHeaders.foldl Header.del ((connectionTokens h).foldl Header.del h)

def containsToken (values : List String) (token : String) : Bool :=
  values.any fun v => (splitChar v ',').any fun part =>
    toLower (trimChars (fun c => c = ' ' || c = '\t') part) = toLower token

def upgradeType (h : Header) : String :=
  if containsToken (h.values "Connection") "Upgrade" then h.get "Upgrade" else ""

/-- The forwarding headers a client sent are dropped before the request is rewritten. -/
def forwardingHeaders : List String :=
  ["Forwarded", "X-Forwarded-For", "X-Forwarded-Host", "X-Forwarded-Proto"]

def rewriteInput (h : Header) : Header :=
  let out := removeHopByHopHeaders h
  let out := if containsToken (h.values "Te") "trailers" then out.set "Te" "trailers" else out
  let out := if upgradeType h ≠ "" then (out.set "Connection" "Upgrade").set "Upgrade" (upgradeType h)
    else out
  forwardingHeaders.foldl Header.del out

/-! ## Rewriting -/

structure Outbound where
  header : Header
  host : String
  path : String

def setUnlessEmpty (h : Header) (key value : String) : Header :=
  if value ≠ "" then h.set key value else h

def setIfMissing (h : Header) (key value : String) : Header :=
  if h.get key = "" then h.set key value else h

def rewriteForwardingHeaders (r : Request) (withTLS trustedPeer : Bool) (out : Header) : Header :=
  let peer := GoNet.hostOnly r.remoteAddr
  let proto := if withTLS then "https" else "http"
  let received := ", ".intercalate (r.header.values "X-Forwarded-For")
  let chain := if trustedPeer ∧ received ≠ "" then received ++ ", " else ""
  let out := if trustedPeer then
      let out := setUnlessEmpty out "X-Forwarded-Host" (r.header.get "X-Forwarded-Host")
      let out := setUnlessEmpty out "X-Forwarded-Proto" (r.header.get "X-Forwarded-Proto")
      setUnlessEmpty out "Forwarded" (", ".intercalate (r.header.values "Forwarded"))
    else out
  let out := out.set "X-Forwarded-For" (chain ++ peer)
  let out := setIfMissing out "X-Forwarded-Host" (GoNet.hostOnly r.host)
  let out := setIfMissing out "X-Forwarded-Proto" proto
  setIfMissing out "Forwarded"
    ("for=" ++ peer ++ ";host=" ++ GoNet.hostOnly r.host ++ ";proto=" ++ proto)

def rewrittenPath (path : String) (filter : Filter) : String :=
  if filter.pathRewriteType = "ReplaceFullPath" then filter.pathRewriteValue
  else if filter.pathRewriteType = "ReplacePrefixMatch" then
    let rest := trimPrefix path (trimSuffix filter.pathPrefix "/")
    let replacement := if filter.pathRewriteValue = "" then "/" else filter.pathRewriteValue
    if rest = "" ∨ rest = "/" then replacement else trimSuffix replacement "/" ++ rest
  else path

abbrev Visit := GoMap String String → List (String × String)

def modifyHeader (visit : Visit) (filter : Filter) (h : Header) : Header :=
  let h := (visit filter.setHeaders).foldl (fun h entry => h.set entry.1 entry.2) h
  let h := (visit filter.addHeaders).foldl (fun h entry => h.add entry.1 entry.2) h
  filter.removeHeaders.foldl Header.del h

def applyFilter (visit : Visit) (out : Outbound) (filter : Filter) : Outbound :=
  if filter.type = filterRequestHeaderModifier then
    { out with header := modifyHeader visit filter out.header }
  else if filter.type = filterURLRewrite then
    { out with
      host := if filter.hostname ≠ "" then filter.hostname else out.host
      path := if filter.pathRewriteType ≠ "" then rewrittenPath out.path filter else out.path }
  else out

def joinedPath (path : String) : String := if hasPrefix path "/" then path else "/" ++ path

def outbound (visit : Visit) (r : Request) (rule : RuleTable) (backend : BackendTable)
    (withTLS trustedPeer : Bool) : Outbound :=
  let out : Outbound :=
    ⟨rewriteForwardingHeaders r withTLS trustedPeer (rewriteInput r.header), r.host, joinedPath r.path⟩
  let out := backend.filters.foldl (applyFilter visit) (rule.filters.foldl (applyFilter visit) out)
  -- without one, the transport would send a `User-Agent` of its own
  if out.header[canonicalKey "User-Agent"]?.isNone then
    { out with header := out.header.set "User-Agent" "" }
  else out

/-! ## Headers that survive -/

theorem getElem_foldl_del (names : List String) (h : Header) (key : String) :
    (names.foldl Header.del h)[key]? = if ∃ n ∈ names, canonicalKey n = key then none else h[key]? := by
  induction names generalizing h with
  | nil => simp
  | cons n names ih =>
    rw [List.foldl_cons, ih, Header.del, GoMap.get_erase]
    by_cases hn : canonicalKey n = key
    · simp [hn]
    · simp [hn]

theorem values_foldl_del (names : List String) (h : Header) (name : String) :
    (names.foldl Header.del h).values name =
      if ∃ n ∈ names, canonicalKey n = canonicalKey name then [] else h.values name := by
  rw [Header.values, GoMap.read, getElem_foldl_del]
  split_ifs <;> rfl

theorem set_of_ne {h : Header} {key name value : String} (hne : canonicalKey name ≠ key) :
    (h.set name value)[key]? = h[key]? := GoMap.get_insert_of_ne _ _ hne

theorem rewriteInput_other {key : String} (h : Header) (hhop : ∀ n ∈ hopHeaders, canonicalKey n ≠ key)
    (hfwd : ∀ n ∈ forwardingHeaders, canonicalKey n ≠ key) :
    (rewriteInput h)[key]? =
      if ∃ n ∈ connectionTokens h, canonicalKey n = key then none else h[key]? := by
  have hremoved : (removeHopByHopHeaders h)[key]? =
      if ∃ n ∈ connectionTokens h, canonicalKey n = key then none else h[key]? := by
    rw [removeHopByHopHeaders, getElem_foldl_del, if_neg, getElem_foldl_del]
    rintro ⟨n, hn, he⟩
    exact hhop n hn he
  rw [rewriteInput, getElem_foldl_del, if_neg (by rintro ⟨n, hn, he⟩; exact hfwd n hn he), ← hremoved]
  split_ifs
  · rw [set_of_ne (hhop _ (by decide)), set_of_ne (hhop _ (by decide)), set_of_ne (hhop _ (by decide))]
  · rw [set_of_ne (hhop _ (by decide)), set_of_ne (hhop _ (by decide))]
  · rw [set_of_ne (hhop _ (by decide))]
  · rfl

variable {name : String}

theorem values_rewriteInput (h : Header) (hhop : ∀ n ∈ hopHeaders, canonicalKey n ≠ canonicalKey name)
    (hfwd : ∀ n ∈ forwardingHeaders, canonicalKey n ≠ canonicalKey name) :
    (rewriteInput h).values name =
      if ∃ n ∈ connectionTokens h, canonicalKey n = canonicalKey name then [] else h.values name := by
  rw [Header.values, GoMap.read, rewriteInput_other h hhop hfwd]
  split_ifs <;> rfl

theorem values_setUnlessEmpty {h : Header} {key value : String}
    (hne : canonicalKey key ≠ canonicalKey name) :
    (setUnlessEmpty h key value).values name = h.values name := by
  rw [setUnlessEmpty]
  split_ifs
  · exact Header.values_set_of_ne hne
  · rfl

theorem values_setIfMissing {h : Header} {key value : String}
    (hne : canonicalKey key ≠ canonicalKey name) :
    (setIfMissing h key value).values name = h.values name := by
  rw [setIfMissing]
  split_ifs
  · exact Header.values_set_of_ne hne
  · rfl

theorem values_rewriteForwardingHeaders (r : Request) (withTLS trustedPeer : Bool) (out : Header)
    (hfwd : ∀ n ∈ forwardingHeaders, canonicalKey n ≠ canonicalKey name) :
    (rewriteForwardingHeaders r withTLS trustedPeer out).values name = out.values name := by
  have hfor := hfwd "X-Forwarded-For" (by decide)
  have hhost := hfwd "X-Forwarded-Host" (by decide)
  have hproto := hfwd "X-Forwarded-Proto" (by decide)
  have hforwarded := hfwd "Forwarded" (by decide)
  rw [rewriteForwardingHeaders, values_setIfMissing hforwarded, values_setIfMissing hproto,
    values_setIfMissing hhost, Header.values_set_of_ne hfor]
  split_ifs
  · rw [values_setUnlessEmpty hforwarded, values_setUnlessEmpty hproto, values_setUnlessEmpty hhost]
  · rfl

theorem header_foldl_applyFilter (visit : Visit) {filters : List Filter}
    (h : ∀ f ∈ filters, f.type ≠ filterRequestHeaderModifier) (out : Outbound) :
    (filters.foldl (applyFilter visit) out).header = out.header := by
  refine List.foldl_kept Outbound.header (fun out f hf => ?_) out
  rw [applyFilter, if_neg (h f hf)]
  split_ifs <;> rfl

theorem values_outbound (visit : Visit) (r : Request) {rule : RuleTable} {backend : BackendTable}
    (withTLS trustedPeer : Bool) (hrule : ∀ f ∈ rule.filters, f.type ≠ filterRequestHeaderModifier)
    (hbackend : ∀ f ∈ backend.filters, f.type ≠ filterRequestHeaderModifier)
    (hhop : ∀ n ∈ hopHeaders, canonicalKey n ≠ canonicalKey name)
    (hfwd : ∀ n ∈ forwardingHeaders, canonicalKey n ≠ canonicalKey name)
    (hagent : canonicalKey "User-Agent" ≠ canonicalKey name) :
    (outbound visit r rule backend withTLS trustedPeer).header.values name =
      if ∃ n ∈ connectionTokens r.header, canonicalKey n = canonicalKey name then []
      else r.header.values name := by
  rw [← values_rewriteInput r.header hhop hfwd,
    ← values_rewriteForwardingHeaders r withTLS trustedPeer (rewriteInput r.header) hfwd]
  unfold outbound
  dsimp only
  split_ifs
  · rw [Header.values_set_of_ne hagent, header_foldl_applyFilter visit hbackend,
      header_foldl_applyFilter visit hrule]
  · rw [header_foldl_applyFilter visit hbackend, header_foldl_applyFilter visit hrule]

end Krouter.Proxy
