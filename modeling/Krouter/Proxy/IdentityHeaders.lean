import Krouter.Proxy.Outbound
import Krouter.Proxy.AuthGate

/-! The identity headers that a backend gets. The enforcer replaces the client's by those of the admitted
identity, before the proxy removes the headers that `Connection` names. -/

namespace Krouter.Proxy
open Compiled Auth Http GoString Routing

def isIdentityName (name : String) : Bool := hasPrefix (canonicalKey name) "X-Auth-Request-"

theorem canonicalKey_ne_of_isIdentityName {n name : String} (h : isIdentityName name = true)
    (hn : isIdentityName n = false) : canonicalKey n ≠ canonicalKey name := by
  intro he
  rw [isIdentityName, he] at hn
  rw [isIdentityName, hn] at h
  cases h

theorem proxyHeaders_not_identity :
    (∀ n ∈ hopHeaders, isIdentityName n = false) ∧
      (∀ n ∈ forwardingHeaders, isIdentityName n = false) ∧ isIdentityName "User-Agent" = false := by
  decide

theorem values_set_congr {h h' : Header} {name : String} (he : h.values name = h'.values name)
    (p : Prop) [Decidable p] (key value : String) :
    (if p then h.set key value else h).values name = (if p then h'.set key value else h').values name := by
  split_ifs
  · by_cases hk : canonicalKey key = canonicalKey name
    · rw [Header.values_set h key value hk, Header.values_set h' key value hk]
    · rw [Header.values_set_of_ne hk, Header.values_set_of_ne hk, he]
  · exact he

theorem values_apply_congr {h h' : Header} {name : String} (he : h.values name = h'.values name)
    (identity : Identity) : (identity.apply h).values name = (identity.apply h').values name :=
  values_set_congr (values_set_congr (values_set_congr he _ _ _) _ _ _) _ _ _

theorem values_stripped {r : Request} {n name : String} (hn : n ∈ identityHeaders)
    (he : canonicalKey n = canonicalKey name) : (Enforcer.stripIdentity r).header.values name = [] := by
  have hfold : (Enforcer.stripIdentity r).header = identityHeaders.foldl Header.del r.header := rfl
  rw [hfold, values_foldl_del, if_pos ⟨n, hn, he⟩]

theorem values_identified (identity : Identity) (r : Request) (name : String) :
    (identified identity r).header.values name =
      if ∃ n ∈ identityHeaders, canonicalKey n = canonicalKey name then
        (identity.apply ∅).values name else r.header.values name := by
  split_ifs with hname
  · obtain ⟨n, hn, he⟩ := hname
    refine values_apply_congr ?_ identity
    rw [values_stripped hn he, Header.values_empty]
  · have hne : ∀ n ∈ identityHeaders, canonicalKey n ≠ canonicalKey name :=
      fun n hn he => hname ⟨n, hn, he⟩
    exact (values_apply hne).trans (values_stripIdentity hne)

theorem connectionTokens_identified (identity : Identity) (r : Request) :
    connectionTokens (identified identity r).header = connectionTokens r.header := by
  rw [connectionTokens, connectionTokens, values_identified, if_neg (by decide)]

theorem values_apply_other {name : String} (identity : Identity)
    (h : ¬ ∃ n ∈ identityHeaders, canonicalKey n = canonicalKey name) :
    (identity.apply ∅).values name = [] := by
  rw [values_apply fun n hn he => h ⟨n, hn, he⟩, Header.values_empty]

/-- The client's `Connection` header names no header that the identity sets, and the client sends no other
of that kind, unless it has it removed. -/
structure LeavesIdentity (identity : Identity) (header : Header) : Prop where
  named : ∀ token ∈ connectionTokens header, (identity.apply ∅).values token = []
  others : ∀ name, isIdentityName name = true →
    (∀ n ∈ identityHeaders, canonicalKey n ≠ canonicalKey name) → header.values name ≠ [] →
      ∃ token ∈ connectionTokens header, canonicalKey token = canonicalKey name

theorem values_of_canonicalKey_eq (h : Header) {a b : String} (he : canonicalKey a = canonicalKey b) :
    h.values a = h.values b := by
  rw [Header.values, Header.values, he]

section
variable (visit : Visit) (identity : Identity) (r : Request)
  {rule : RuleTable} {backend : BackendTable} (withTLS trustedPeer : Bool)
  (hrule : ∀ f ∈ rule.filters, f.type ≠ filterRequestHeaderModifier)
  (hbackend : ∀ f ∈ backend.filters, f.type ≠ filterRequestHeaderModifier)
include hrule hbackend

theorem values_outbound_identified {name : String} (hname : isIdentityName name = true) :
    (outbound visit (identified identity r) rule backend withTLS trustedPeer).header.values name =
      if ∃ n ∈ connectionTokens r.header, canonicalKey n = canonicalKey name then []
      else if ∃ n ∈ identityHeaders, canonicalKey n = canonicalKey name then
        (identity.apply ∅).values name
      else r.header.values name := by
  obtain ⟨hhop, hfwd, hagent⟩ := proxyHeaders_not_identity
  rw [values_outbound visit _ withTLS trustedPeer hrule hbackend
    (fun n hn => canonicalKey_ne_of_isIdentityName hname (hhop n hn))
    (fun n hn => canonicalKey_ne_of_isIdentityName hname (hfwd n hn))
    (canonicalKey_ne_of_isIdentityName hname hagent),
    connectionTokens_identified, values_identified]

theorem outbound_identity_iff :
    (∀ name, isIdentityName name = true →
      (outbound visit (identified identity r) rule backend withTLS trustedPeer).header.values name =
        (identity.apply ∅).values name) ↔ LeavesIdentity identity r.header := by
  have hsent := fun (name : String) (hname : isIdentityName name = true) =>
    values_outbound_identified visit identity r withTLS trustedPeer hrule hbackend hname
  constructor
  · intro hall
    refine ⟨fun token htoken => ?_, fun name hname hother hvalues => ?_⟩
    · by_cases hname : isIdentityName token = true
      · rw [← hall token hname, hsent token hname, if_pos ⟨token, htoken, rfl⟩]
      · refine values_apply_other identity ?_
        rintro ⟨n, hn, he⟩
        have hidentity : ∀ n ∈ identityHeaders, isIdentityName n = true := by decide
        exact canonicalKey_ne_of_isIdentityName (hidentity n hn) (Bool.not_eq_true _ ▸ hname) he.symm
    · by_contra hunnamed
      have heq := hall name hname
      have hothers : ¬ ∃ n ∈ identityHeaders, canonicalKey n = canonicalKey name :=
        fun ⟨n, hn, he⟩ => hother n hn he
      rw [hsent name hname, if_neg hunnamed, if_neg hothers,
        values_apply_other identity hothers] at heq
      exact hvalues heq
  · intro h name hname
    rw [hsent name hname]
    split_ifs with hnamed hidentity
    · obtain ⟨token, htoken, he⟩ := hnamed
      rw [← values_of_canonicalKey_eq _ he, h.named token htoken]
    · rfl
    · rw [values_apply_other identity hidentity]
      by_contra hvalues
      exact hnamed (h.others name hname (fun n hn he => hidentity ⟨n, hn, he⟩) hvalues)

end

/-- On a request that a rule with authentication admits and no filter edits, the identity headers are those
of the admitted identity exactly if the client has none removed as hop-by-hop and adds none. -/
theorem identity_headers_exact_iff (env : Environment) (tables : Tables) (port : Int32)
    (withTLS : Bool) (r : Request) (w : Writer) (r' : Request) (rule : RuleTable)
    (withTLS' trusted : Bool) (e : Enforcer) (decision : Decision) (cookies : List SetCookie)
    (identity : Identity) (backend : BackendTable) (visit : Visit)
    (hserve : serve env tables port withTLS r = some (.forward w r' rule withTLS' trusted))
    (he : rule.authEnforcer = some e)
    (hdecision : (e.evaluate env.providers r rule.grpc).1 = some (decision, cookies))
    (hidentity : decision.identity = some identity)
    (hrule : ∀ f ∈ rule.filters, f.type ≠ filterRequestHeaderModifier)
    (hbackend : ∀ f ∈ backend.filters, f.type ≠ filterRequestHeaderModifier) :
    (∀ name, isIdentityName name = true →
      (outbound visit r' rule backend withTLS' trusted).header.values name =
        (identity.apply ∅).values name) ↔ LeavesIdentity identity r.header := by
  have hr' : r' = identified identity r := by
    cases (serve_passed hserve).1 with
    | unguarded hnone =>
      rw [hnone] at he
      cases he
    | admitted he' hdecision' _ hidentity' =>
      rw [he] at he'
      cases he'
      rw [hdecision] at hdecision'
      cases hdecision'
      rw [hidentity] at hidentity'
      cases hidentity'
      rfl
  rw [hr']
  exact outbound_identity_iff visit identity r withTLS' trusted hrule hbackend

/-! ## An identity removed as hop-by-hop -/

def tokenEnforcer : Enforcer := ⟨cartAuth, none⟩

def memberBackend : BackendTable := ⟨"shop", "web", 80, 1, true, false, [], "", none, false⟩

def memberRule : RuleTable :=
  ⟨[⟨"PathPrefix", "/", "", [], []⟩], [], [memberBackend], [], none, false, 0, 0, 1, none, none,
    some tokenEnforcer, false⟩

def memberTables : Tables :=
  ⟨(∅ : GoMap Int32 PortTable).insert 10000 ⟨"uid", "shop/gw", false, false, false, false, false,
    [⟨"web", "", none, false, none, .noClientCert, [⟨"shop", "route", [], 0, [memberRule]⟩]⟩], []⟩, ∅⟩

def aliceClaims : GoMap String (List String) := (∅ : GoMap String (List String)).insert "sub" ["alice"]

def memberEnvironment : Environment :=
  { strictEnvironment with
    providers := { strictEnvironment.providers with jwtValidate := fun _ _ => .ok aliceClaims } }

def alice : Identity := ⟨"alice", "", [], aliceClaims⟩

def admission : Decision := ⟨true, some alice, "jwt", "allowed", 0, "", [], "", ""⟩

def memberRequest (connection : String) : Request :=
  ⟨"GET", "shop.example.com", "/cart", "/cart", ∅, Header.set (Header.set ∅ "Authorization" "Bearer t")
    "Connection" connection, [], "192.0.2.1:4000", none⟩

section
variable {r : Request}

theorem evaluate_member (h : authorizationHeader (Enforcer.stripIdentity r) = ("bearer", "t")) :
    (tokenEnforcer.evaluate memberEnvironment.providers r false).1 = some (admission, []) := by
  unfold Enforcer.evaluate
  dsimp only
  rw [h]
  rfl

theorem serve_member (h : authorizationHeader (Enforcer.stripIdentity r) = ("bearer", "t"))
    (hmis : isMisdirected memberTables 10000 false r = false)
    (hend : memberTables.authEndpoint 10000 (GoNet.hostOnly r.host) r.path = [])
    (hmatch : (memberTables.matchRequest 10000 (GoNet.hostOnly r.host) r).map Matched.rule = some memberRule) :
    serve memberEnvironment memberTables 10000 false r =
      some (.forward ⟨∅, []⟩ (identified alice r) memberRule false false) := by
  obtain ⟨c, hc, hrule⟩ := Option.map_eq_some_iff.mp hmatch
  unfold serve
  dsimp only
  rw [hmis, if_neg (by decide), hend, if_neg (not_not_intro rfl), hc]
  dsimp only
  rw [hrule]
  have hauth : authenticate memberEnvironment ⟨∅, []⟩ r memberRule =
      some ⟨0, "alice", none, ⟨∅, []⟩, identified alice r⟩ := by
    have hev : tokenEnforcer.evaluate memberEnvironment.providers r false =
        (some (admission, []), Enforcer.stripIdentity r) := Prod.ext (evaluate_member h) rfl
    change serveAuth memberEnvironment ⟨∅, []⟩ r tokenEnforcer false = _
    rw [serveAuth, hev]
    rfl
  have hchain : ∀ clientIP, serveExtensions memberEnvironment ⟨∅, []⟩ r memberRule clientIP =
      (authenticate memberEnvironment ⟨∅, []⟩ r memberRule).bind fun a =>
        if a.status ≠ 0 then some ⟨a.status, some .auth, 0, "", a.response, a.writer, a.request⟩
        else inspectRequest memberEnvironment a memberRule clientIP := fun _ => rfl
  rw [hchain, hauth]
  rfl

end

theorem keepAlive_leavesIdentity : LeavesIdentity alice (memberRequest "keep-alive").header where
  named := by decide
  others := fun name hname _ hvalues => by
    have hnone : (memberRequest "keep-alive").header.values name = [] := by
      rw [memberRequest,
        Header.values_set_of_ne (canonicalKey_ne_of_isIdentityName hname (by decide)),
        Header.values_set_of_ne (canonicalKey_ne_of_isIdentityName hname (by decide)),
        Header.values_empty]
    exact absurd hnone hvalues

theorem identity_delivered :
    serve memberEnvironment memberTables 10000 false (memberRequest "keep-alive") =
        some (.forward ⟨∅, []⟩ (identified alice (memberRequest "keep-alive")) memberRule false false) ∧
      ∀ name, isIdentityName name = true →
        (outbound (fun m => m.toList) (identified alice (memberRequest "keep-alive")) memberRule
          memberBackend false false).header.values name = (alice.apply ∅).values name := by
  have hauth : authorizationHeader (Enforcer.stripIdentity (memberRequest "keep-alive")) =
      ("bearer", "t") := by decide
  have hserve := serve_member hauth (by decide) (by decide) (by decide)
  exact ⟨hserve, (identity_headers_exact_iff memberEnvironment memberTables 10000 false (memberRequest "keep-alive")
    ⟨∅, []⟩ _ memberRule false false tokenEnforcer admission [] alice memberBackend
    (fun m => m.toList) hserve rfl (evaluate_member hauth) rfl (by decide) (by decide)).mpr keepAlive_leavesIdentity⟩

theorem identity_removed :
    serve memberEnvironment memberTables 10000 false (memberRequest "X-Auth-Request-User") =
        some (.forward ⟨∅, []⟩ (identified alice (memberRequest "X-Auth-Request-User")) memberRule
          false false) ∧
      (outbound (fun m => m.toList) (identified alice (memberRequest "X-Auth-Request-User"))
        memberRule memberBackend false false).header.values headerUser = [] ∧
      (alice.apply ∅).values headerUser = ["alice"] := by
  refine ⟨serve_member (by decide) (by decide) (by decide) (by decide),
    ?_, Header.values_set _ _ _ rfl⟩
  have hnamed : headerUser ∈ connectionTokens (memberRequest "X-Auth-Request-User").header := by
    decide
  rw [values_outbound_identified _ _ _ _ _ (by decide) (by decide) (by decide),
    if_pos ⟨headerUser, hnamed, rfl⟩]

end Krouter.Proxy
