import Krouter.Proxy.HeaderFilters
import Krouter.Proxy.AuthGate

/-! The CORS headers of a response: of a preflight that the gateway answers, and of a proxied response. -/

namespace Krouter.Proxy
open Compiled Http GoString Routing

/-! ## Origins -/

def cutChars (sep : List Char) : List Char → Option (List Char × List Char)
  | [] => none
  | c :: cs => if sep.isPrefixOf (c :: cs) then some ([], (c :: cs).drop sep.length)
    else (cutChars sep cs).map fun parts => (c :: parts.1, parts.2)

def originParts (s : String) : Option (String × String) :=
  (cutChars "://".toList s.toList).map fun parts => (String.ofList parts.1, String.ofList parts.2)

def corsPatternMatches (origin pattern : String) : Bool :=
  pattern = "*" || pattern = origin ||
    match originParts pattern, originParts origin with
    | some (scheme, host), some (originScheme, originHost) =>
      let suffix := String.ofList (host.toList.drop 1)
      hasPrefix host "*." && originScheme = scheme && suffix.utf8ByteSize < originHost.utf8ByteSize &&
        hasSuffix originHost suffix
    | _, _ => false

def corsOriginAllowed (patterns : List String) (origin : String) : Bool :=
  patterns.any (corsPatternMatches origin)

def corsWildcard (values : List String) : Bool := values = ["*"]

/-! ## Headers -/

def corsAnswer (cors : CORS) (origin : String) (header : Header) : Header :=
  let header := header.set "Access-Control-Allow-Origin" origin
  if cors.allowCredentials then header.set "Access-Control-Allow-Credentials" "true" else header

def exposed (cors : CORS) (header : Header) : Header :=
  if cors.exposeHeaders ≠ [] then
    header.set "Access-Control-Expose-Headers" (", ".intercalate cors.exposeHeaders)
  else header

def listed (values : List String) (requested : String) : String :=
  if corsWildcard values then requested else ", ".intercalate values

/-- The headers of the answer, which has no content. -/
def serveCORSPreflight (header : Header) (r : Request) (cors : CORS) : Header :=
  let header := header.add "Vary" "Origin"
  let origin := r.header.get "Origin"
  if corsOriginAllowed cors.allowOrigins origin then
    let header := corsAnswer cors origin header
    let header := setUnlessEmpty header "Access-Control-Allow-Methods"
      (listed cors.allowMethods (r.header.get "Access-Control-Request-Method"))
    let header := setUnlessEmpty header "Access-Control-Allow-Headers"
      (listed cors.allowHeaders (r.header.get "Access-Control-Request-Headers"))
    (exposed cors header).set "Access-Control-Max-Age" (toString cors.maxAgeSeconds.toInt)
  else header

def applyCORSResponse (header : Header) (origin : String) (cors : CORS) : Header :=
  let header := header.add "Vary" "Origin"
  if origin = "" ∨ corsOriginAllowed cors.allowOrigins origin = false then header
  else exposed cors (corsAnswer cors origin header)

/-- `ModifyResponse` on the headers of a backend's response. -/
def modifyResponse (visit : Visit) (rule : RuleTable) (backend : BackendTable) (origin : String) (header : Header) :
    Header :=
  let header := backend.filters.foldl (applyResponseFilter visit) (rule.filters.foldl (applyResponseFilter visit) header)
  match rule.cors with
  | some cors => applyCORSResponse header origin cors
  | none => header

/-! ## What the configuration says -/

/-- Exactly, any origin, or a host with one or more labels in front of the suffix. -/
def OriginMatches (pattern origin : String) : Prop :=
  pattern = "*" ∨ pattern = origin ∨ ∃ scheme labels suffix, originParts pattern = some (scheme, "*." ++ suffix) ∧
    originParts origin = some (scheme, labels ++ ("." ++ suffix)) ∧ labels ≠ ""

def OriginAllowed (cors : CORS) (origin : String) : Prop :=
  origin ≠ "" ∧ ∃ pattern ∈ cors.allowOrigins, OriginMatches pattern origin

structure FollowsCORS (cors : CORS) (origin : String) (header : Header) : Prop where
  matched : OriginAllowed cors origin → header["Access-Control-Allow-Origin"]? = some [origin] ∧
    ((header["Access-Control-Allow-Credentials"]?).isSome = true ↔ cors.allowCredentials = true)
  other : ¬ OriginAllowed cors origin → ∀ name, hasPrefix name "Access-Control-" = true → header[name]? = none

theorem corsPatternMatches_iff {origin pattern : String} :
    corsPatternMatches origin pattern = true ↔ OriginMatches pattern origin := by
  have hhost : ∀ host originHost : String, (hasPrefix host "*." = true ∧
      (String.ofList (host.toList.drop 1)).utf8ByteSize < originHost.utf8ByteSize ∧
      hasSuffix originHost (String.ofList (host.toList.drop 1)) = true) ↔
      ∃ labels suffix, host = "*." ++ suffix ∧ originHost = labels ++ ("." ++ suffix) ∧ labels ≠ "" := by
    intro host originHost
    have hdrop : ∀ suffix : String, String.ofList (("*." ++ suffix).toList.drop 1) = "." ++ suffix := by
      intro suffix
      rw [← String.toList_inj, String.toList_ofList, String.toList_append, String.toList_append]
      rfl
    simp only [hasPrefix_iff, hasSuffix_iff]
    constructor
    · rintro ⟨⟨suffix, rfl⟩, hlt, labels, rfl⟩
      rw [hdrop] at hlt ⊢
      refine ⟨labels, suffix, rfl, rfl, ?_⟩
      rintro rfl
      simp at hlt
    · rintro ⟨labels, suffix, rfl, rfl, hne⟩
      rw [hdrop]
      have hpos : labels.utf8ByteSize ≠ 0 := fun h => hne (String.utf8ByteSize_eq_zero_iff.mp h)
      exact ⟨⟨suffix, rfl⟩, by simp only [String.utf8ByteSize_append]; omega, labels, rfl⟩
  rw [corsPatternMatches, OriginMatches, Bool.or_eq_true, Bool.or_eq_true, decide_eq_true_eq, decide_eq_true_eq, or_assoc]
  refine or_congr_right (or_congr_right ?_)
  cases hpattern : originParts pattern with
  | none => simp
  | some parts =>
    cases horigin : originParts origin with
    | none => simp
    | some originParts =>
      obtain ⟨scheme, host⟩ := parts
      obtain ⟨originScheme, originHost⟩ := originParts
      have := hhost host originHost
      simp only [Bool.and_eq_true, decide_eq_true_eq, Option.some.injEq, Prod.mk.injEq]
      constructor
      · rintro ⟨⟨⟨hpre, rfl⟩, hlt⟩, hsuf⟩
        obtain ⟨labels, suffix, hh, ho, hne⟩ := this.mp ⟨hpre, hlt, hsuf⟩
        exact ⟨_, labels, suffix, ⟨rfl, hh⟩, ⟨rfl, ho⟩, hne⟩
      · rintro ⟨_, labels, suffix, ⟨rfl, hh⟩, ⟨rfl, ho⟩, hne⟩
        obtain ⟨hpre, hlt, hsuf⟩ := this.mpr ⟨labels, suffix, hh, ho, hne⟩
        exact ⟨⟨⟨hpre, rfl⟩, hlt⟩, hsuf⟩

theorem originAllowed_iff {cors : CORS} {origin : String} :
    OriginAllowed cors origin ↔ origin ≠ "" ∧ corsOriginAllowed cors.allowOrigins origin = true := by
  simp [OriginAllowed, corsOriginAllowed, corsPatternMatches_iff]

section
variable {cors : CORS} {origin : String} {header : Header}

theorem get_vary {name : String} (h : hasPrefix name "Access-Control-" = true) :
    (header.add "Vary" "Origin")[name]? = header[name]? := by
  refine GoMap.get_insert_of_ne _ _ fun he => ?_
  rw [← he] at h
  exact absurd h (by decide)

def corsKeys : List String := ["Access-Control-Allow-Origin", "Access-Control-Allow-Credentials"]

theorem get_set_other {name key value : String} (hkey : key ∈ corsKeys) (hname : name ∈ ["Access-Control-Allow-Methods",
    "Access-Control-Allow-Headers", "Access-Control-Expose-Headers", "Access-Control-Max-Age"]) :
    (header.set name value)[key]? = header[key]? := by
  have hne : ∀ k ∈ corsKeys, ∀ n ∈ ["Access-Control-Allow-Methods", "Access-Control-Allow-Headers",
      "Access-Control-Expose-Headers", "Access-Control-Max-Age"], canonicalKey n ≠ k := by decide
  exact GoMap.get_insert_of_ne _ _ (hne key hkey name hname)

theorem get_exposed {key : String} (hkey : key ∈ corsKeys) : (exposed cors header)[key]? = header[key]? := by
  unfold exposed
  split_ifs
  · exact get_set_other hkey (by decide)
  · rfl

theorem get_setUnlessEmpty {name key value : String} (hkey : key ∈ corsKeys)
    (hname : name ∈ ["Access-Control-Allow-Methods", "Access-Control-Allow-Headers"]) :
    (setUnlessEmpty header name value)[key]? = header[key]? := by
  unfold setUnlessEmpty
  split_ifs
  · exact get_set_other hkey (by simp_all; tauto)
  · rfl

theorem get_corsAnswer : (corsAnswer cors origin header)["Access-Control-Allow-Origin"]? = some [origin] ∧
    (corsAnswer cors origin header)["Access-Control-Allow-Credentials"]? =
      if cors.allowCredentials then some ["true"] else header["Access-Control-Allow-Credentials"]? := by
  have horigin : canonicalKey "Access-Control-Allow-Origin" = "Access-Control-Allow-Origin" := by decide
  have hcredentials : canonicalKey "Access-Control-Allow-Credentials" = "Access-Control-Allow-Credentials" := by decide
  unfold corsAnswer
  cases cors.allowCredentials <;>
    simp only [Header.set, horigin, hcredentials, GoMap.get_insert, String.reduceEq, reduceIte, and_self,
      Bool.false_eq_true]

theorem followsCORS_of_answered {answered : Header} (hallowed : OriginAllowed cors origin)
    (hsame : ∀ key ∈ corsKeys, answered[key]? = (corsAnswer cors origin header)[key]?) :
    FollowsCORS cors origin answered ↔
      cors.allowCredentials = true ∨ header["Access-Control-Allow-Credentials"]? = none := by
  have hanswer := @get_corsAnswer cors origin header
  have horigin : answered["Access-Control-Allow-Origin"]? = some [origin] :=
    (hsame _ (by decide)).trans hanswer.1
  have hcredentials := (hsame "Access-Control-Allow-Credentials" (by decide)).trans hanswer.2
  have hpresent : ((answered["Access-Control-Allow-Credentials"]?).isSome = true ↔ cors.allowCredentials = true) ↔
      cors.allowCredentials = true ∨ header["Access-Control-Allow-Credentials"]? = none := by
    rw [hcredentials]
    cases cors.allowCredentials <;> simp
  rw [← hpresent]
  exact ⟨fun h => (h.matched hallowed).2, fun h => ⟨fun _ => ⟨horigin, h⟩, fun hnot => absurd hallowed hnot⟩⟩

theorem followsCORS_vary (hnot : ¬ OriginAllowed cors origin) :
    FollowsCORS cors origin (header.add "Vary" "Origin") ↔
      ∀ name, hasPrefix name "Access-Control-" = true → header[name]? = none := by
  refine ⟨fun h name hname => ?_, fun h => ⟨fun hallowed => absurd hallowed hnot, fun _ name hname => ?_⟩⟩
  · rw [← get_vary hname]
    exact h.other hnot name hname
  · rw [get_vary hname]
    exact h name hname

/-- What the backend may have sent for its response to follow the configuration. -/
structure CleanResponse (cors : CORS) (origin : String) (header : Header) : Prop where
  matched : OriginAllowed cors origin →
    cors.allowCredentials = true ∨ header["Access-Control-Allow-Credentials"]? = none
  other : ¬ OriginAllowed cors origin → ∀ name, hasPrefix name "Access-Control-" = true → header[name]? = none

theorem applyCORSResponse_iff :
    FollowsCORS cors origin (applyCORSResponse header origin cors) ↔ CleanResponse cors origin header := by
  by_cases hallowed : OriginAllowed cors origin
  · obtain ⟨hne, hmatch⟩ := originAllowed_iff.mp hallowed
    rw [applyCORSResponse, if_neg (by simp [hne, hmatch]),
      followsCORS_of_answered hallowed fun key hkey => get_exposed hkey, get_vary (by decide)]
    exact ⟨fun h => ⟨fun _ => h, fun hnot => absurd hallowed hnot⟩, fun h => h.matched hallowed⟩
  · have hrefused : origin = "" ∨ corsOriginAllowed cors.allowOrigins origin = false := by
      rw [originAllowed_iff, not_and_or, not_not, Bool.not_eq_true] at hallowed
      exact hallowed
    rw [applyCORSResponse, if_pos hrefused, followsCORS_vary hallowed]
    exact ⟨fun h => ⟨fun hyes => absurd hyes hallowed, fun _ => h⟩, fun h => h.other hallowed⟩

theorem foldl_applyResponseFilter {visit : Visit} {filters : List Filter}
    (h : ∀ f ∈ filters, f.type ≠ filterResponseHeaderModifier) (header : Header) :
    filters.foldl (applyResponseFilter visit) header = header :=
  List.foldl_kept id (fun _ f hf => if_pos (h f hf)) header

theorem serveCORSPreflight_follows {r : Request} (hpre : isCORSPreflight r = true) :
    FollowsCORS cors (r.header.get "Origin") (serveCORSPreflight ∅ r cors) := by
  have hne : r.header.get "Origin" ≠ "" := by
    simp only [isCORSPreflight, Bool.and_eq_true, decide_eq_true_eq] at hpre
    exact hpre.1.2
  have hempty : ∀ name : String, (∅ : Header)[name]? = none := fun name => GoMap.get_empty name
  by_cases hmatch : corsOriginAllowed cors.allowOrigins (r.header.get "Origin") = true
  · rw [serveCORSPreflight, if_pos hmatch]
    refine (followsCORS_of_answered (originAllowed_iff.mpr ⟨hne, hmatch⟩) fun key hkey => ?_).mpr
      (.inr ((get_vary (by decide)).trans (hempty _)))
    rw [get_set_other hkey (by decide), get_exposed hkey, get_setUnlessEmpty hkey (by decide),
      get_setUnlessEmpty hkey (by decide)]
  · rw [serveCORSPreflight, if_neg hmatch]
    exact (followsCORS_vary fun h => hmatch (originAllowed_iff.mp h).2).mpr fun name _ => hempty name

end

section
variable {env : Environment} {tables : Tables} {port : Int32} {withTLS : Bool} {r r' : Request} {w : Writer}

theorem handed_header {outcome : Outcome} (h : serve env tables port withTLS r = some outcome)
    (hpast : outcome.handed = some (w, r')) :
    w.header = ∅ ∧ r'.header.get "Origin" = r.header.get "Origin" := by
  obtain ⟨c, enforced, trustedPeer, -, hx, h0, -, hhanded⟩ := serve_handed h hpast
  obtain ⟨hpassed, hheader, -⟩ := serveExtensions_passed hx h0
  obtain ⟨rfl, rfl⟩ := Prod.mk.inj hhanded
  refine ⟨hheader, ?_⟩
  rcases hpassed with hpassed | ⟨-, -, hreq⟩
  · rw [Header.get, hpassed.values (by decide), Header.get]
  · rw [hreq]

theorem preflight_of_serve {cors : CORS} (h : serve env tables port withTLS r = some (.preflight w r' cors)) :
    isCORSPreflight r' = true := by
  obtain ⟨c, enforced, trustedPeer, -, -, h0, hd, hhanded⟩ := serve_handed h rfl
  obtain ⟨rfl, rfl⟩ := Prod.mk.inj hhanded
  unfold dispatch at hd
  rw [if_pos h0] at hd
  split at hd
  · assumption
  · split at hd <;> cases hd

end

/-- A preflight follows the configuration. A proxied response does exactly if the backend sent no such
header to an origin that does not match, and none for credentials unless they are allowed. -/
theorem cors_headers_iff (env : Environment) (tables : Tables) (port : Int32) (withTLS : Bool) (r : Request) :
    (∀ (r' : Request) (w : Writer) (cors : CORS),
      serve env tables port withTLS r = some (.preflight w r' cors) →
      FollowsCORS cors (r.header.get "Origin") (serveCORSPreflight w.header r' cors)) ∧
    (∀ (visit : Visit) (rule : RuleTable) (backend : BackendTable) (cors : CORS), rule.cors = some cors →
      (∀ f ∈ rule.filters, f.type ≠ filterResponseHeaderModifier) →
      (∀ f ∈ backend.filters, f.type ≠ filterResponseHeaderModifier) → ∀ (origin : String) (header : Header),
      (FollowsCORS cors origin (modifyResponse visit rule backend origin header) ↔ CleanResponse cors origin header)) ∧
    ∀ (withTLS' trustedPeer : Bool) (r' : Request) (w : Writer) (rule : RuleTable),
      serve env tables port withTLS r = some (.forward w r' rule withTLS' trustedPeer) →
      w.header = ∅ ∧ r'.header.get "Origin" = r.header.get "Origin" := by
  refine ⟨?_, ?_, fun _ _ _ _ _ h => handed_header h rfl⟩
  · intro r' w cors h
    obtain ⟨hheader, horigin⟩ := handed_header h rfl
    rw [hheader, ← horigin]
    exact serveCORSPreflight_follows (preflight_of_serve h)
  · intro visit rule backend cors hcors hrule hbackend origin header
    rw [modifyResponse, foldl_applyResponseFilter hrule, foldl_applyResponseFilter hbackend, hcors]
    exact applyCORSResponse_iff

def appCORS : CORS := ⟨["https://app.example"], [], [], [], false, 5⟩

theorem backend_headers_kept :
    (applyCORSResponse (Header.set ∅ "Access-Control-Allow-Origin" "*") "https://evil.example"
      appCORS)["Access-Control-Allow-Origin"]? = some ["*"] ∧
    ¬ OriginAllowed appCORS "https://evil.example" ∧
    ¬ FollowsCORS appCORS "https://evil.example" (applyCORSResponse
      (Header.set ∅ "Access-Control-Allow-Origin" "*") "https://evil.example" appCORS) := by
  have hnot : ¬ OriginAllowed appCORS "https://evil.example" := fun h =>
    absurd (originAllowed_iff.mp h).2 (by decide)
  refine ⟨by decide, hnot, fun h => ?_⟩
  exact absurd (h.other hnot "Access-Control-Allow-Origin" (by decide)) (by decide)

end Krouter.Proxy
