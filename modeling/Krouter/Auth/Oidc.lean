import Krouter.Auth.Enforcer
import Krouter.Lib.Result

/-! Sessions of the OpenID Connect provider: what a login mints and what a refresh makes of a
session. The token endpoint and the validation of tokens are parameters. -/

namespace Krouter.Auth
open Compiled Http

structure OIDCTokens where
  idToken : String
  refreshToken : String
  expiresIn : Int64
  deriving DecidableEq

structure OIDCClient where
  exchange : AuthOIDC → String → Except CredentialError OIDCTokens
  validate : AuthOIDC → String → Except CredentialError (GoMap String (List String))

def OIDCClient.refresh (client : OIDCClient) (now : Int64) (oidc : AuthOIDC) (session : Session) :
    Except CredentialError Session := do
  let tokens ← client.exchange oidc session.refreshToken
  let claims ← client.validate oidc tokens.idToken
  return {
    provider := "oidc"
    user := firstValue (GoMap.read claims "sub" [])
    email := firstValue (GoMap.read claims "email" [])
    groups := GoMap.read claims "groups" []
    claims := claims
    issuedAt := session.issuedAt
    expiresAt := session.expiresAt
    tokenExpiresAt := if 0 < tokens.expiresIn then now + tokens.expiresIn else 0
    -- a provider may withhold the refresh token
    refreshToken := if tokens.refreshToken = "" then session.refreshToken else tokens.refreshToken
    nameID := ""
    sessionIndex := "" }

variable {client : OIDCClient} {oidc : AuthOIDC} {session : Session}

theorem OIDCClient.refresh_ok {now : Int64} {refreshed : Session}
    (h : client.refresh now oidc session = .ok refreshed) :
    ∃ tokens claims, client.exchange oidc session.refreshToken = .ok tokens ∧
      client.validate oidc tokens.idToken = .ok claims ∧ refreshed.issuedAt = session.issuedAt ∧
      refreshed.expiresAt = session.expiresAt ∧ refreshed.claims = claims ∧
      refreshed.user = firstValue (GoMap.read claims "sub" []) := by
  obtain ⟨tokens, htokens, h⟩ := Result.bind_eq_ok.mp h
  obtain ⟨claims, hclaims, h⟩ := Result.bind_eq_ok.mp h
  cases h
  exact ⟨tokens, claims, htokens, hclaims, rfl, rfl, rfl, rfl⟩

theorem OIDCClient.refresh_of_ok {tokens : OIDCTokens} {claims : GoMap String (List String)} (now : Int64)
    (hexchange : client.exchange oidc session.refreshToken = .ok tokens)
    (hvalidate : client.validate oidc tokens.idToken = .ok claims) :
    ∃ refreshed, client.refresh now oidc session = .ok refreshed := by
  unfold OIDCClient.refresh
  simp only [bind, Except.bind, hexchange, hvalidate]
  exact ⟨_, rfl⟩

theorem OIDCClient.refresh_times {now : Int64}
    {refreshed : Session} (h : client.refresh now oidc session = .ok refreshed) :
    refreshed.issuedAt = session.issuedAt ∧ refreshed.expiresAt = session.expiresAt := by
  obtain ⟨tokens, claims, -, -, hissued, hexpires, -⟩ := OIDCClient.refresh_ok h
  exact ⟨hissued, hexpires⟩

namespace Enforcer

/-- `mintSession` with what a provider adds: the tokens of OpenID Connect, or the references
of a SAML session. -/
def mintExtended (e : Enforcer) (p : Providers) (provider : String) (identity : Identity)
    (extra : Option Session) : Option Session :=
  (e.mintSession p provider identity).map fun session =>
    match extra with
    | none => session
    | some extra =>
      { session with
        tokenExpiresAt := extra.tokenExpiresAt
        refreshToken := extra.refreshToken
        nameID := extra.nameID
        sessionIndex := extra.sessionIndex }

def renewed (e : Enforcer) (p : Providers) (session : Session) : Option Session :=
  if session.tokenExpiresAt = 0 ∨ p.unix < session.tokenExpiresAt then none
  else e.cfg.oidc.bind fun oidc =>
    if session.provider ≠ "oidc" ∨ session.refreshToken = "" then none
    else (p.oidcRefresh oidc session).toOption

theorem renewed_some {e : Enforcer} {p : Providers} {next : Session} (h : e.renewed p session = some next) :
    ¬ (session.tokenExpiresAt = 0 ∨ p.unix < session.tokenExpiresAt) ∧ ∃ oidc, e.cfg.oidc = some oidc ∧
      ¬ (session.provider ≠ "oidc" ∨ session.refreshToken = "") ∧ p.oidcRefresh oidc session = .ok next := by
  unfold renewed at h
  split at h
  · cases h
  · next hfresh =>
    obtain ⟨oidc, hoidc, h⟩ := Option.bind_eq_some_iff.mp h
    split_ifs at h with hmissing
    refine ⟨hfresh, oidc, hoidc, hmissing, ?_⟩
    cases hr : p.oidcRefresh oidc session <;> rw [hr] at h <;> cases h
    rfl

theorem refreshIfNeeded_some {e : Enforcer} {p : Providers} {codec : Codec} {r : Request}
    {next : Session} {cookies : List SetCookie}
    (h : e.refreshIfNeeded p codec r session = some (next, cookies)) :
    next = session ∧ cookies = [] ∨ e.renewed p session = some next ∧
      (codec.sealSession r next p.nonce p.box).2 = .ok cookies := by
  unfold refreshIfNeeded at h
  split at h
  · cases h
    exact .inl ⟨rfl, rfl⟩
  · next hfresh =>
    refine .inr ?_
    rw [renewed, if_neg hfresh]
    split at h
    · cases h
    · next oidc hoidc =>
      split_ifs at h with hmissing
      rw [hoidc, Option.bind_some, if_neg hmissing]
      split at h
      · cases h
      · next refreshed hr =>
        rw [hr]
        split at h
        · cases h
        · next hseal =>
          cases h
          exact ⟨rfl, hseal⟩

theorem refreshIfNeeded_of_renewed {e : Enforcer} {p : Providers} {codec : Codec} {r : Request}
    {next : Session} {cookies : List SetCookie}
    (hexpired : ¬ (session.tokenExpiresAt = 0 ∨ p.unix < session.tokenExpiresAt)) (hoidc : e.cfg.oidc = some oidc)
    (hrefreshable : ¬ (session.provider ≠ "oidc" ∨ session.refreshToken = ""))
    (hnext : p.oidcRefresh oidc session = .ok next)
    (hseal : (codec.sealSession r next p.nonce p.box).2 = .ok cookies) :
    e.refreshIfNeeded p codec r session = some (next, cookies) := by
  unfold refreshIfNeeded
  rw [if_neg hexpired, hoidc]
  dsimp only
  rw [if_neg hrefreshable, hnext]
  dsimp only
  rw [hseal]

end Enforcer

end Krouter.Auth
