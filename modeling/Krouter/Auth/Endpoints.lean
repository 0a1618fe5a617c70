import Krouter.Auth.Enforcer
import Krouter.Auth.SessionIsolation

/-! The dispatch of a request under a reserved prefix, which several extensions may share: the scan
takes the first that can open a cookie of a flow or of a session. -/

namespace Krouter.Auth
open Compiled Http GoString

inductive Endpoint where
  | login
  | logout
  | oidcStart
  | oidcCallback
  | samlStart
  | samlACS
  | samlMetadata
  | samlSLO
  | ldapLogin
  deriving DecidableEq

def endpointOf (endpoint method : String) : Option Endpoint :=
  if endpoint = "/login" ∧ method = "GET" then some .login
  else if endpoint = "/logout" ∧ method = "GET" then some .logout
  else if endpoint = "/oidc/start" ∧ method = "GET" then some .oidcStart
  else if endpoint = "/oidc/callback" ∧ method = "GET" then some .oidcCallback
  else if endpoint = "/saml/start" ∧ method = "GET" then some .samlStart
  else if endpoint = "/saml/acs" ∧ method = "POST" then some .samlACS
  else if endpoint = "/saml/metadata" ∧ method = "GET" then some .samlMetadata
  else if endpoint = "/saml/slo" then some .samlSLO
  else if endpoint = "/ldap/login" ∧ method = "POST" then some .ldapLogin
  else none

def extParameter (r : Request) : String := (GoMap.read r.query "ext" []).headD ""

def onlyCandidate : List Enforcer → Option Enforcer
  | [e] => some e
  | _ => none

section
variable (log : List SealRecord) (now : Int64) (r : Request)

def Enforcer.holdsState (e : Enforcer) : Bool := e.codec.any fun codec => (codec.openState log now r).isSome

def Enforcer.holdsSession (e : Enforcer) : Bool := e.codec.any fun codec => (codec.openSession log now r).isSome

def pickCandidate (candidates : List Enforcer) : Option Enforcer :=
  if extParameter r ≠ "" then candidates.find? fun e => e.cfg.identity = extParameter r
  else
    (candidates.find? fun e => e.holdsState log now r || e.holdsSession log now r).or
      (onlyCandidate candidates)

def selectEndpoint (candidates : List Enforcer) : Option (Enforcer × String) :=
  (pickCandidate log now r candidates).map fun e => (e, trimPrefix r.path e.cfg.pathPrefix)

def serveEndpoint (candidates : List Enforcer) : Option (Enforcer × Endpoint) :=
  (selectEndpoint log now r candidates).bind fun selected =>
    (endpointOf selected.2 r.method).map fun endpoint => (selected.1, endpoint)

end

section
variable {log : List SealRecord} {now : Int64} {r : Request} {before after : List Enforcer} {e : Enforcer}

theorem pickCandidate_of_live {candidate : Enforcer} (hext : extParameter r = "")
    (hmem : candidate ∈ before) (hlive : candidate.holdsSession log now r = true) :
    ∃ c ∈ before, pickCandidate log now r (before ++ e :: after) = some c := by
  cases hfind : before.find? fun c => c.holdsState log now r || c.holdsSession log now r with
  | none =>
    have hnone := List.find?_eq_none.mp hfind candidate hmem
    rw [hlive, Bool.or_true] at hnone
    exact absurd rfl hnone
  | some c =>
    refine ⟨c, List.mem_of_find?_eq_some hfind, ?_⟩
    rw [pickCandidate, if_neg (not_not_intro hext), List.find?_append, hfind]
    rfl

theorem pickCandidate_of_first (hext : extParameter r = "") (hstate : e.holdsState log now r = true)
    (hbefore : ∀ c ∈ before, c.holdsState log now r = false ∧ c.holdsSession log now r = false) :
    pickCandidate log now r (before ++ e :: after) = some e := by
  have hnone : before.find? (fun c => c.holdsState log now r || c.holdsSession log now r) = none := by
    refine List.find?_eq_none.mpr fun c hc => ?_
    obtain ⟨hs, hl⟩ := hbefore c hc
    rw [hs, hl]
    exact Bool.false_ne_true
  have hfirst : (e.holdsState log now r || e.holdsSession log now r) = true := by
    rw [hstate, Bool.true_or]
  rw [pickCandidate, if_neg (not_not_intro hext), List.find?_append, hnone, Option.none_or,
    List.find?_cons, hfirst]
  rfl

theorem pickCandidate_iff (after : List Enforcer) (hext : extParameter r = "") (hstate : e.holdsState log now r = true)
    (honly : ∀ c ∈ before, c.holdsState log now r = false) :
    pickCandidate log now r (before ++ e :: after) = some e ↔
      ∀ c ∈ before, c.holdsSession log now r = false := by
  constructor
  · intro hpick c hc
    by_contra hlive
    obtain ⟨other, hother, hpicked⟩ := pickCandidate_of_live hext hc (eq_true_of_ne_false hlive)
    obtain rfl := Option.some.inj (hpicked.symm.trans hpick)
    rw [honly other hother] at hstate
    cases hstate
  · intro hbefore
    exact pickCandidate_of_first hext hstate fun c hc => ⟨honly c hc, hbefore c hc⟩

end

/-- A login flow returns to the extension that started it exactly if no candidate before has a live
session. -/
theorem flow_returns_iff (log : List SealRecord) (now : Int64) (r : Request) (before after : List Enforcer)
    (e : Enforcer) (rest : String) (hext : extParameter r = "") (hstate : e.holdsState log now r = true)
    (honly : ∀ c ∈ before ++ after, c.holdsState log now r = false)
    (hpath : r.path = e.cfg.pathPrefix ++ rest) :
    (selectEndpoint log now r (before ++ e :: after) = some (e, rest) ↔
      ∀ c ∈ before, c.holdsSession log now r = false) ∧
    ∀ endpoint, endpointOf rest r.method = some endpoint →
      (serveEndpoint log now r (before ++ e :: after) = some (e, endpoint) ↔
        ∀ c ∈ before, c.holdsSession log now r = false) := by
  have hpick := pickCandidate_iff after hext hstate fun c hc => honly c (List.mem_append_left _ hc)
  have hrest : trimPrefix r.path e.cfg.pathPrefix = rest := by rw [hpath, trimPrefix_append]
  rw [← hpick]
  refine ⟨?_, fun endpoint hendpoint => ?_⟩
  · rw [selectEndpoint, Option.map_eq_some_iff]
    constructor
    · rintro ⟨c, hc, hsame⟩
      rw [hc, (Prod.mk.inj hsame).1]
    · intro he
      exact ⟨e, he, by rw [hrest]⟩
  · rw [serveEndpoint, selectEndpoint, Option.bind_eq_some_iff]
    constructor
    · rintro ⟨selected, hselected, hserved⟩
      obtain ⟨c, hc, rfl⟩ := Option.map_eq_some_iff.mp hselected
      obtain ⟨served, -, hsame⟩ := Option.map_eq_some_iff.mp hserved
      have hce : c = e := (Prod.mk.inj hsame).1
      rw [hc, hce]
    · intro he
      exact ⟨(e, rest), by rw [he, Option.map_some, hrest], by rw [hendpoint]; rfl⟩

/-! A user is logged in to the portal and returns from a login to the admin pages, under the
same prefix. -/

def portalEnforcer : Enforcer :=
  ⟨⟨"aaaaaaaaaaaa", "/auth", none, none, none, none, none, []⟩, some ⟨"portal key", "aaaaaaaaaaaa", 3600000000000⟩⟩

def adminEnforcer : Enforcer :=
  ⟨⟨"bbbbbbbbbbbb", "/auth", none, none, none, none, none, []⟩, some ⟨"admin key", "bbbbbbbbbbbb", 3600000000000⟩⟩

def flowState : State := ⟨"bbbbbbbbbbbb", "/", "", "state", "nonce", "verifier", "", 600⟩

def stateBox : List UInt8 := [1, 2, 3]

def flowLog : List SealRecord :=
  [⟨"portal key", "session", sampleNonce, sampleBox, sessionCodec.marshal aliceSession⟩,
    ⟨"admin key", "state", sampleNonce, stateBox, stateCodec.marshal flowState⟩]

def callbackRequest : Request :=
  { plainRequest [("krouter_auth_aaaaaaaa", Base64.encodeToString (sampleNonce ++ sampleBox)),
      ("krouter_state_bbbbbbbb", Base64.encodeToString (sampleNonce ++ stateBox))] with
    path := "/auth/oidc/callback" }

theorem flowLog_functional : Functional flowLog := by
  intro s hs s' hs' hkey _ _ _
  simp only [flowLog, List.mem_cons, List.not_mem_nil, or_false] at hs hs'
  rcases hs with rfl | rfl
  · rcases hs' with rfl | rfl
    · rfl
    · exact absurd hkey (by simp)
  · rcases hs' with rfl | rfl
    · exact absurd hkey (by simp)
    · rfl

theorem portal_holdsSession : portalEnforcer.holdsSession flowLog 0 callbackRequest = true := by
  have hopen : Codec.openValue ⟨"portal key", "aaaaaaaaaaaa", 3600000000000⟩ flowLog "session"
      (Base64.encodeToString (sampleNonce ++ sampleBox)) = some (sessionCodec.marshal aliceSession) :=
    Codec.openValue_of_mem flowLog_functional (.head _) rfl
  have hparts : Codec.sessionParts ⟨"portal key", "aaaaaaaaaaaa", 3600000000000⟩ callbackRequest
      maxCookieChunks 0 = [Base64.encodeToString (sampleNonce ++ sampleBox)] := rfl
  have hjoin : ∀ value : String, String.join [value] = value := fun value => by simp [String.join]
  have hsession : Codec.openSession ⟨"portal key", "aaaaaaaaaaaa", 3600000000000⟩ flowLog 0 callbackRequest =
      some aliceSession :=
    Codec.openSession_of_parts hparts (List.cons_ne_nil _ _) (by rw [hjoin]; exact hopen) (by decide)
  rw [Enforcer.holdsSession, portalEnforcer, Option.any_some, hsession]
  rfl

theorem admin_holdsState : adminEnforcer.holdsState flowLog 0 callbackRequest = true := by
  have hopen : Codec.openValue ⟨"admin key", "bbbbbbbbbbbb", 3600000000000⟩ flowLog "state"
      (Base64.encodeToString (sampleNonce ++ stateBox)) = some (stateCodec.marshal flowState) :=
    Codec.openValue_of_mem flowLog_functional (.tail _ (.head _)) rfl
  have hstate : Codec.openState ⟨"admin key", "bbbbbbbbbbbb", 3600000000000⟩ flowLog 0 callbackRequest =
      some flowState :=
    Codec.openState_of_cookie rfl hopen (by decide)
  rw [Enforcer.holdsState, adminEnforcer, Option.any_some, hstate]
  rfl

theorem portal_holdsState : portalEnforcer.holdsState flowLog 0 callbackRequest = false := rfl

theorem callback_returns_to_admin :
    selectEndpoint flowLog 0 callbackRequest [adminEnforcer, portalEnforcer] =
        some (adminEnforcer, "/oidc/callback") ∧
      serveEndpoint flowLog 0 callbackRequest [adminEnforcer, portalEnforcer] =
        some (adminEnforcer, .oidcCallback) := by
  have h := flow_returns_iff flowLog 0 callbackRequest [] [portalEnforcer] adminEnforcer "/oidc/callback" rfl
    admin_holdsState (by simp [portal_holdsState]) rfl
  exact ⟨h.1.mpr (by simp), (h.2 .oidcCallback rfl).mpr (by simp)⟩

theorem session_takes_callback :
    adminEnforcer.holdsState flowLog 0 callbackRequest = true ∧
      portalEnforcer.holdsState flowLog 0 callbackRequest = false ∧
      selectEndpoint flowLog 0 callbackRequest [portalEnforcer, adminEnforcer] =
        some (portalEnforcer, "/oidc/callback") := by
  refine ⟨admin_holdsState, portal_holdsState, ?_⟩
  obtain ⟨c, hc, hpick⟩ : ∃ c ∈ [portalEnforcer],
      pickCandidate flowLog 0 callbackRequest ([portalEnforcer] ++ adminEnforcer :: []) = some c :=
    pickCandidate_of_live rfl (List.mem_singleton_self _) portal_holdsSession
  obtain rfl := List.mem_singleton.mp hc
  rw [selectEndpoint, ← List.singleton_append, hpick]
  rfl

end Krouter.Auth
