import Krouter.Auth.CookieJar
import Krouter.Auth.Oidc
import Krouter.Lib.Runs

/-! The claims that sessions carry. A login keeps those that authorization asks for; a refresh takes
over whatever the new token has. -/

namespace Krouter.Auth
open Compiled Http

/-! ## What pruning keeps -/

def Enforcer.Requires (e : Enforcer) (claim : String) : Prop := ∃ require ∈ e.cfg.authorization, require.claim = claim

def Reserved (claim : String) : Prop := claim = "user" ∨ claim = "email" ∨ claim = "groups"

variable {e : Enforcer} {claims : GoMap String (List String)}

section
variable {claim : String} {values : List String}

theorem pruneClaims_get :
    (e.pruneClaims claims)[claim]? = some values ↔
      e.Requires claim ∧ ¬ Reserved claim ∧ claims[claim]? = some values := by
  have hmem : ∀ values, (claim, values) ∈ (e.cfg.authorization.filterMap fun require =>
      if require.claim = "user" ∨ require.claim = "email" ∨ require.claim = "groups" then none
      else claims[require.claim]?.map fun values => (require.claim, values)) ↔
        e.Requires claim ∧ ¬ Reserved claim ∧ claims[claim]? = some values := by
    intro values
    rw [List.mem_filterMap]
    constructor
    · rintro ⟨require, hrequire, hkept⟩
      split_ifs at hkept with hreserved
      obtain ⟨found, hfound, hsame⟩ := Option.map_eq_some_iff.mp hkept
      obtain ⟨rfl, rfl⟩ := Prod.mk.inj hsame
      exact ⟨⟨require, hrequire, rfl⟩, hreserved, hfound⟩
    · rintro ⟨⟨require, hrequire, rfl⟩, hreserved, hfound⟩
      refine ⟨require, hrequire, ?_⟩
      unfold Reserved at hreserved
      rw [if_neg hreserved, hfound]
      rfl
  rw [← hmem]
  refine GoMap.get_setAll_empty fun values' h h' => ?_
  exact Option.some.inj (((hmem _).mp h').2.2.symm.trans ((hmem _).mp h).2.2)

theorem requires_of_pruneClaims (h : (e.pruneClaims claims)[claim]? = some values) : e.Requires claim :=
  (pruneClaims_get.mp h).1

theorem claimValues_pruneClaims (user email : String) (groups : List String) (h : e.Requires claim) :
    claimValues ⟨user, email, groups, e.pruneClaims claims⟩ claim =
      claimValues ⟨user, email, groups, claims⟩ claim := by
  by_cases hreserved : Reserved claim
  · rcases hreserved with rfl | rfl | rfl <;> rfl
  · obtain ⟨huser, hrest⟩ := not_or.mp hreserved
    obtain ⟨hemail, hgroups⟩ := not_or.mp hrest
    have hsame : (e.pruneClaims claims)[claim]? = claims[claim]? := by
      refine Option.ext fun values => ?_
      rw [pruneClaims_get]
      exact ⟨fun hkept => hkept.2.2, fun hfound => ⟨h, hreserved, hfound⟩⟩
    unfold claimValues
    rw [if_neg huser, if_neg huser, if_neg hemail, if_neg hemail, if_neg hgroups, if_neg hgroups,
      GoMap.read, GoMap.read, hsame]

end

/-! ## Decisions -/

def Session.identity (session : Session) : Identity :=
  ⟨session.user, session.email, session.groups, session.claims⟩

def Decision.withClaims (d : Decision) (claims : GoMap String (List String)) : Decision :=
  { d with identity := d.identity.map fun identity => { identity with claims := claims } }

section
variable {p : Providers} {session full : Session} {identity : Identity} {extra : Option Session}

theorem authorize_pruned (hclaims : session.claims = e.pruneClaims full.claims) (huser : session.user = full.user)
    (hemail : session.email = full.email) (hgroups : session.groups = full.groups) (provider : String) :
    e.authorize session provider = (e.authorize full provider).withClaims session.claims := by
  have hall : (e.cfg.authorization.all fun require =>
        intersects (claimValues session.identity require.claim) require.values) =
      e.cfg.authorization.all fun require =>
        intersects (claimValues full.identity require.claim) require.values := by
    rw [Bool.eq_iff_iff, List.all_eq_true, List.all_eq_true]
    refine forall₂_congr fun require hrequire => ?_
    rw [Session.identity, hclaims, huser, hemail, hgroups,
      claimValues_pruneClaims _ _ _ ⟨require, hrequire, rfl⟩]
    rfl
  unfold Enforcer.authorize
  dsimp only
  change (if (e.cfg.authorization.all fun require =>
    intersects (claimValues session.identity require.claim) require.values) = true then _ else _) = _
  rw [hall, huser, hemail, hgroups]
  unfold Session.identity
  split_ifs <;> rfl

theorem mintExtended_fields {provider : String} (h : e.mintExtended p provider identity extra = some session) :
    session.user = identity.user ∧ session.email = identity.email ∧ session.groups = identity.groups ∧
      session.claims = e.pruneClaims identity.claims := by
  obtain ⟨minted, hminted, rfl⟩ := Option.map_eq_some_iff.mp h
  obtain ⟨codec, -, rfl⟩ := Option.map_eq_some_iff.mp hminted
  cases extra <;> exact ⟨rfl, rfl, rfl, rfl⟩

end

/-- A login's session decides as one with all claims of the identity would, up to the claims that the
identity carries along. -/
theorem pruning_transparent (e : Enforcer) (codec : Codec) (hcodec : e.codec = some codec) (p : Providers)
    (provider : String) (identity : Identity) (extra : Option Session) :
    ∃ session, e.mintExtended p provider identity extra = some session ∧
      ∀ full : Session, full.identity = identity → ∀ decider : String,
        e.authorize session decider = (e.authorize full decider).withClaims session.claims ∧
        ∀ header, ((e.authorize session decider).identity.map fun i => i.apply header) =
          (e.authorize full decider).identity.map fun i => i.apply header := by
  obtain ⟨session, hsession⟩ : ∃ session, e.mintExtended p provider identity extra = some session := by
    rw [Enforcer.mintExtended, Enforcer.mintSession, hcodec]
    exact ⟨_, rfl⟩
  refine ⟨session, hsession, fun full hfull decider => ?_⟩
  obtain ⟨huser, hemail, hgroups, hclaims⟩ := mintExtended_fields hsession
  subst hfull
  have hsame := authorize_pruned hclaims huser hemail hgroups decider
  refine ⟨hsame, fun header => ?_⟩
  rw [hsame, Decision.withClaims, Option.map_map]
  rfl

def claimsEnforcer (authorization : List AuthRequire) : Enforcer :=
  ⟨⟨"aaaaaaaaaaaa", "/auth", some ⟨"secret", 3600000⟩, some ⟨"https://id.example.com", "web", "", [], ""⟩, none, none,
    none, authorization⟩, some sampleCodec⟩

def tokenClaims (sub : String) : GoMap String (List String) :=
  (((∅ : GoMap String (List String)).insert "iss" ["https://id.example.com"]).insert "aud" ["web"]).insert
    "sub" [sub]

def quietProviders : Providers :=
  ⟨0, [], sampleNonce, sampleBox, fun _ => none, fun _ _ => .error .rejected, fun _ _ _ => .error .rejected,
    fun _ _ => .error .rejected⟩

theorem pruned_alice_decides_the_same :
    ∃ session, (claimsEnforcer [⟨"user", ["alice"]⟩, ⟨"aud", ["web"]⟩, ⟨"aud", ["api", "web"]⟩]).mintExtended
        quietProviders "oidc" ⟨"alice", "", [], tokenClaims "alice"⟩ none = some session ∧
      (claimsEnforcer [⟨"user", ["alice"]⟩, ⟨"aud", ["web"]⟩, ⟨"aud", ["api", "web"]⟩]).authorize session "oidc" =
        ((claimsEnforcer [⟨"user", ["alice"]⟩, ⟨"aud", ["web"]⟩, ⟨"aud", ["api", "web"]⟩]).authorize
          { aliceSession with claims := tokenClaims "alice" } "oidc").withClaims session.claims := by
  obtain ⟨session, hsession, hsame⟩ := pruning_transparent
    (claimsEnforcer [⟨"user", ["alice"]⟩, ⟨"aud", ["web"]⟩, ⟨"aud", ["api", "web"]⟩]) sampleCodec rfl quietProviders
    "oidc" ⟨"alice", "", [], tokenClaims "alice"⟩ none
  exact ⟨session, hsession, (hsame { aliceSession with claims := tokenClaims "alice" } rfl "oidc").1⟩

/-! ## Logins and refreshes -/

def tokenIdentity (claims : GoMap String (List String)) : Identity :=
  ⟨firstValue (GoMap.read claims "sub" []), firstValue (GoMap.read claims "email" []),
    GoMap.read claims "groups" [], claims⟩

def tokenSession (now : Int64) (tokens : OIDCTokens) : Session :=
  ⟨"", "", "", [], ∅, 0, 0, if 0 < tokens.expiresIn then now + tokens.expiresIn else 0,
    tokens.refreshToken, "", ""⟩

def Enforcer.sessionFromTokens (e : Enforcer) (p : Providers) (client : OIDCClient) (oidc : AuthOIDC)
    (tokens : OIDCTokens) (expectedNonce : String) : Except CredentialError (Option Session) :=
  match client.validate oidc tokens.idToken with
  | .error err => .error err
  | .ok claims =>
    if expectedNonce ≠ "" ∧ GoMap.read claims "nonce" [] ≠ [expectedNonce] then .error .rejected
    else .ok (e.mintExtended p "oidc" (tokenIdentity claims) (some (tokenSession p.unix tokens)))

structure Visit where
  now : Int
  client : OIDCClient
  request : Request
  nonce : List UInt8
  box : List UInt8

def Visit.providers (v : Visit) : Providers where
  now := v.now
  log := []
  nonce := v.nonce
  box := v.box
  basicAuth := fun _ => none
  jwtValidate := fun _ _ => .error .rejected
  ldapAuthenticate := fun _ _ _ => .error .rejected
  oidcRefresh := v.client.refresh (Int64.ofInt (v.now / 1000000000))

def Enforcer.resealed (e : Enforcer) (v : Visit) (session : Session) : Option Session :=
  e.codec.bind fun codec => (e.refreshIfNeeded v.providers codec v.request session).bind fun refreshed =>
    if refreshed.2 = [] then none else some refreshed.1

structure Chain where
  first : Session
  current : Session
  sealed : List Session

def Chain.start (session : Session) : Chain := ⟨session, session, [session]⟩

def Chain.step (e : Enforcer) (c : Chain) (v : Visit) : Option Chain :=
  match e.resealed v c.current with
  | none => some c
  | some next => some ⟨c.first, next, c.sealed ++ [next]⟩

structure Renews (e : Enforcer) (v : Visit) (session : Session) (claims : GoMap String (List String)) : Prop where
  codec : e.codec.isSome = true
  expired : ¬ (session.tokenExpiresAt = 0 ∨ v.providers.unix < session.tokenExpiresAt)
  refreshable : ¬ (session.provider ≠ "oidc" ∨ session.refreshToken = "")
  answer : ∃ oidc tokens, e.cfg.oidc = some oidc ∧ v.client.exchange oidc session.refreshToken = .ok tokens ∧
    v.client.validate oidc tokens.idToken = .ok claims
  fits : Codec.FitsBudget (Codec.sealedValue v.nonce v.box)

def Within (e : Enforcer) (user : String) (claims : GoMap String (List String)) : Prop :=
  (∀ claim values, claims[claim]? = some values → e.Requires claim) ∧ firstValue (GoMap.read claims "sub" []) = user

def Kept (e : Enforcer) (first session : Session) : Prop :=
  (∀ claim values, session.claims[claim]? = some values → e.Requires claim) ∧ session.user = first.user

def TokenWithin (e : Enforcer) (c : Chain) (v : Visit) : Prop :=
  ∀ claims, Renews e v c.current claims → Within e c.first.user claims

variable {v : Visit}

section
variable {session next : Session}

theorem renews_of_resealed (h : e.resealed v session = some next) :
    Renews e v session next.claims ∧ next.user = firstValue (GoMap.read next.claims "sub" []) := by
  obtain ⟨codec, hcodec, h⟩ := Option.bind_eq_some_iff.mp h
  obtain ⟨⟨refreshed, cookies⟩, hrefresh, h⟩ := Option.bind_eq_some_iff.mp h
  split_ifs at h with hcookies
  obtain rfl : next = refreshed := (Option.some.inj h).symm
  rcases Enforcer.refreshIfNeeded_some hrefresh with ⟨-, hnone⟩ | ⟨hrenewed, hseal⟩
  · exact absurd hnone hcookies
  · obtain ⟨hfresh, oidc, hoidc, hmissing, hok⟩ := Enforcer.renewed_some hrenewed
    obtain ⟨tokens, claims, hexchange, hvalidate, -, -, rfl, huser⟩ := OIDCClient.refresh_ok hok
    refine ⟨⟨by rw [hcodec]; rfl, hfresh, hmissing, ⟨oidc, tokens, hoidc, hexchange, hvalidate⟩, ?_⟩, huser⟩
    by_contra hlarge
    obtain ⟨err, herr⟩ : ∃ err, (codec.sealSession v.request next v.nonce v.box).2 = .error err :=
      Codec.sealSession_of_not_fits hlarge
    cases herr.symm.trans hseal

theorem resealed_of_renews (h : Renews e v session claims) :
    ∃ next, e.resealed v session = some next ∧ next.claims = claims := by
  obtain ⟨codec, hcodec⟩ := Option.isSome_iff_exists.mp h.codec
  obtain ⟨oidc, tokens, hoidc, hexchange, hvalidate⟩ := h.answer
  obtain ⟨next, hnext⟩ := OIDCClient.refresh_of_ok (Int64.ofInt (v.now / 1000000000)) hexchange hvalidate
  obtain ⟨tokens', claims', hexchange', hvalidate', -, -, hclaims, -⟩ := OIDCClient.refresh_ok hnext
  obtain rfl := Except.ok.inj (hexchange.symm.trans hexchange')
  obtain rfl := Except.ok.inj (hvalidate.symm.trans hvalidate')
  refine ⟨next, ?_, hclaims⟩
  have hseal : (codec.sealSession v.request next v.nonce v.box).2 =
      .ok (codec.sealedCookies v.request (chunk (Codec.sealedValue v.nonce v.box) cookieChunkSize)) :=
    Codec.sealSession_of_fits h.fits
  have hrefresh : e.refreshIfNeeded v.providers codec v.request session =
      some (next, codec.sealedCookies v.request (chunk (Codec.sealedValue v.nonce v.box) cookieChunkSize)) :=
    Enforcer.refreshIfNeeded_of_renewed h.expired hoidc h.refreshable hnext hseal
  -- a sealed session has at least one chunk
  have hne : codec.sealedCookies v.request (chunk (Codec.sealedValue v.nonce v.box) cookieChunkSize) ≠ [] := by
    intro hnil
    obtain ⟨hchunks, -⟩ := List.append_eq_nil_iff.mp hnil
    exact chunkLoop_ne_nil _ _ _ (List.mapIdx_eq_nil_iff.mp hchunks)
  rw [Enforcer.resealed, hcodec, Option.bind_some, hrefresh, Option.bind_some, if_neg hne]

end

section
variable {c c' : Chain} {first session : Session} {visits : List Visit}

theorem Chain.step_cases (h : c.step e v = some c') :
    (e.resealed v c.current = none ∧ c' = c) ∨
      ∃ next, e.resealed v c.current = some next ∧ c' = ⟨c.first, next, c.sealed ++ [next]⟩ := by
  unfold Chain.step at h
  cases hresealed : e.resealed v c.current with
  | none =>
    rw [hresealed] at h
    exact .inl ⟨rfl, (Option.some.inj h).symm⟩
  | some next =>
    rw [hresealed] at h
    exact .inr ⟨next, rfl, (Option.some.inj h).symm⟩

theorem Chain.step_grows (h : c.step e v = some c') : c'.first = c.first ∧ ∀ s ∈ c.sealed, s ∈ c'.sealed := by
  rcases Chain.step_cases h with ⟨-, rfl⟩ | ⟨next, -, rfl⟩
  · exact ⟨rfl, fun _ hs => hs⟩
  · exact ⟨rfl, fun _ hs => List.mem_append_left _ hs⟩

theorem Chain.run_grows {meets : Chain → Visit → Prop} (h : Runs (Chain.step e) meets c visits c') :
    ∀ s ∈ c.sealed, s ∈ c'.sealed := by
  induction h with
  | nil => exact fun _ hs => hs
  | cons _ hstep _ ih => exact fun s hs => ih s ((Chain.step_grows hstep).2 s hs)

theorem kept_of_login {p : Providers} {client : OIDCClient} {oidc : AuthOIDC} {tokens : OIDCTokens} {nonce : String}
    (h : e.sessionFromTokens p client oidc tokens nonce = .ok (some session)) : Kept e session session := by
  unfold Enforcer.sessionFromTokens at h
  split at h
  · cases h
  · split_ifs at h
    obtain ⟨-, -, -, hclaims⟩ := mintExtended_fields (Except.ok.inj h)
    refine ⟨fun claim values hget => ?_, rfl⟩
    rw [hclaims] at hget
    exact requires_of_pruneClaims hget

theorem Chain.step_kept (hfirst : c.first = first) (hkept : ∀ s ∈ c.sealed, Kept e first s)
    (hwithin : TokenWithin e c v) (h : c.step e v = some c') :
    c'.first = first ∧ ∀ s ∈ c'.sealed, Kept e first s := by
  rcases Chain.step_cases h with ⟨-, rfl⟩ | ⟨next, hnext, rfl⟩
  · exact ⟨hfirst, hkept⟩
  · obtain ⟨hrenews, huser⟩ := renews_of_resealed hnext
    obtain ⟨hclaims, hsub⟩ := hwithin next.claims hrenews
    refine ⟨hfirst, fun s hs => ?_⟩
    rcases List.mem_append.mp hs with hs | hs
    · exact hkept s hs
    · rw [List.mem_singleton.mp hs]
      exact ⟨hclaims, by rw [huser, hsub, hfirst]⟩

theorem Chain.tokenWithin_of_kept (hfirst : c.first = first) (h : c.step e v = some c')
    (hkept : ∀ s ∈ c'.sealed, Kept e first s) : TokenWithin e c v := by
  intro claims hrenews
  obtain ⟨next, hnext, rfl⟩ := resealed_of_renews hrenews
  rcases Chain.step_cases h with ⟨hnone, -⟩ | ⟨next', hnext', rfl⟩
  · rw [hnext] at hnone
    cases hnone
  · obtain rfl := Option.some.inj (hnext.symm.trans hnext')
    obtain ⟨hclaims, huser⟩ := hkept next (List.mem_append_right _ (.head _))
    refine ⟨hclaims, ?_⟩
    rw [← (renews_of_resealed hnext).2, huser, hfirst]

theorem Chain.run_kept_iff (hrun : Runs (Chain.step e) (fun _ _ => True) c visits c') (hfirst : c.first = first)
    (hkept : ∀ s ∈ c.sealed, Kept e first s) :
    (∀ s ∈ c'.sealed, Kept e first s) ↔ Runs (Chain.step e) (TokenWithin e) c visits c' := by
  constructor
  · intro hall
    clear hkept
    induction hrun with
    | nil c => exact .nil c
    | @cons c₁ c₂ c₃ v vs _ hstep hrest ih =>
      have hnext : ∀ s ∈ c₂.sealed, Kept e first s := fun s hs => hall s (Chain.run_grows hrest s hs)
      exact .cons (Chain.tokenWithin_of_kept hfirst hstep hnext) hstep
        (ih ((Chain.step_grows hstep).1.trans hfirst) hall)
  · intro hmeets
    have hinv := hmeets.invariant (fun c => c.first = first ∧ ∀ s ∈ c.sealed, Kept e first s)
      (fun _ _ _ h hwithin hstep => Chain.step_kept h.1 h.2 hwithin hstep) ⟨hfirst, hkept⟩
    exact hinv.2

end

/-- In a run of refreshes, every sealed session is pruned and about the user of the login exactly if
every refresh got an ID token about that user with claims that the configuration names. -/
theorem sessions_stay_pruned_iff (e : Enforcer) (p : Providers) (client : OIDCClient) (oidc : AuthOIDC)
    (tokens : OIDCTokens) (nonce : String) (session : Session)
    (hlogin : e.sessionFromTokens p client oidc tokens nonce = .ok (some session)) (visits : List Visit) (c : Chain)
    (hrun : Runs (Chain.step e) (fun _ _ => True) (Chain.start session) visits c) :
    (∀ s ∈ c.sealed, Kept e session s) ↔ Runs (Chain.step e) (TokenWithin e) (Chain.start session) visits c := by
  refine Chain.run_kept_iff hrun rfl fun s hs => ?_
  rw [List.mem_singleton.mp hs]
  exact kept_of_login hlogin

/-! A login whose tokens last a minute, and a request after that. -/

def oidcOf (sub : String) : OIDCClient :=
  ⟨fun _ _ => .ok ⟨"id token", "", 0⟩, fun _ _ => .ok (tokenClaims sub)⟩

def loginSession (authorization : List AuthRequire) : Session :=
  ⟨"oidc", "alice", "", [], (claimsEnforcer authorization).pruneClaims (tokenClaims "alice"), 0, 3600, 60, "refresh",
    "", ""⟩

def laterVisit (sub : String) : Visit := ⟨100000000000, oidcOf sub, plainRequest [], sampleNonce, [1, 2, 3]⟩

section
variable (authorization : List AuthRequire) (sub : String)

theorem login_ok : (claimsEnforcer authorization).sessionFromTokens quietProviders (oidcOf "alice")
    ⟨"https://id.example.com", "web", "", [], ""⟩ ⟨"id token", "refresh", 60⟩ "" =
      .ok (some (loginSession authorization)) := rfl

theorem later_renews : Renews (claimsEnforcer authorization) (laterVisit sub) (loginSession authorization)
    (tokenClaims sub) where
  codec := rfl
  expired := (by decide : ¬ ((60 : Int64) = 0 ∨ Int64.ofInt (100000000000 / 1000000000) < 60))
  refreshable := (by decide : ¬ ("oidc" ≠ "oidc" ∨ "refresh" = ""))
  answer := ⟨_, _, rfl, rfl, rfl⟩
  fits := (by decide : (Codec.sealedValue sampleNonce [1, 2, 3]).toList.length ≤ 14000)

theorem later_step : ∃ next, (Chain.start (loginSession authorization)).step (claimsEnforcer authorization)
    (laterVisit sub) = some ⟨loginSession authorization, next, [loginSession authorization, next]⟩ ∧
      next.claims = tokenClaims sub ∧ next.user = sub := by
  obtain ⟨next, hnext, hclaims⟩ := resealed_of_renews (later_renews authorization sub)
  have huser := (renews_of_resealed hnext).2
  rw [hclaims, GoMap.read, tokenClaims, GoMap.get_insert_self] at huser
  refine ⟨next, ?_, hclaims, huser⟩
  rw [Chain.step, Chain.start, hnext]
  rfl

end

def roleRequired : List AuthRequire := [⟨"role", ["admin"]⟩]

theorem refresh_keeps_neither :
    ∃ next, (claimsEnforcer roleRequired).sessionFromTokens quietProviders (oidcOf "alice")
        ⟨"https://id.example.com", "web", "", [], ""⟩ ⟨"id token", "refresh", 60⟩ "" =
          .ok (some (loginSession roleRequired)) ∧
      Runs (Chain.step (claimsEnforcer roleRequired)) (fun _ _ => True) (.start (loginSession roleRequired))
        [laterVisit "mallory"] ⟨loginSession roleRequired, next, [loginSession roleRequired, next]⟩ ∧
      next.user ≠ (loginSession roleRequired).user ∧ next.claims["iss"]? = some ["https://id.example.com"] ∧
      ¬ (claimsEnforcer roleRequired).Requires "iss" := by
  obtain ⟨next, hstep, hclaims, huser⟩ := later_step roleRequired "mallory"
  refine ⟨next, login_ok _, .single trivial hstep, ?_, ?_, ?_⟩
  · rw [huser]
    exact (by decide : "mallory" ≠ "alice")
  · rw [hclaims]
    rfl
  · rintro ⟨require, hrequire, hclaim⟩
    rw [List.mem_singleton.mp hrequire] at hclaim
    exact absurd hclaim (by decide)

def tokenRequired : List AuthRequire :=
  [⟨"iss", ["https://id.example.com"]⟩, ⟨"aud", ["web"]⟩, ⟨"sub", ["alice"]⟩]

theorem tokenClaims_within : Within (claimsEnforcer tokenRequired) "alice" (tokenClaims "alice") := by
  refine ⟨fun claim values hget => ?_, rfl⟩
  simp only [tokenClaims, GoMap.get_insert, GoMap.get_empty] at hget
  split_ifs at hget with hsub haud hiss
  · exact ⟨⟨"sub", ["alice"]⟩, by simp [claimsEnforcer, tokenRequired], hsub⟩
  · exact ⟨⟨"aud", ["web"]⟩, by simp [claimsEnforcer, tokenRequired], haud⟩
  · exact ⟨⟨"iss", ["https://id.example.com"]⟩, by simp [claimsEnforcer, tokenRequired], hiss⟩

theorem refresh_keeps_both :
    ∃ next, Runs (Chain.step (claimsEnforcer tokenRequired)) (fun _ _ => True) (.start (loginSession tokenRequired))
        [laterVisit "alice"] ⟨loginSession tokenRequired, next, [loginSession tokenRequired, next]⟩ ∧
      ∀ s ∈ [loginSession tokenRequired, next], Kept (claimsEnforcer tokenRequired) (loginSession tokenRequired) s := by
  obtain ⟨next, hstep, -, -⟩ := later_step tokenRequired "alice"
  have hwithin : TokenWithin (claimsEnforcer tokenRequired) (.start (loginSession tokenRequired))
      (laterVisit "alice") := by
    intro claims hrenews
    obtain ⟨oidc, tokens, -, -, hvalidate⟩ := hrenews.answer
    obtain rfl : tokenClaims "alice" = claims := Except.ok.inj hvalidate
    exact tokenClaims_within
  exact ⟨next, .single trivial hstep, (sessions_stay_pruned_iff _ _ _ _ _ _ _ (login_ok tokenRequired) _ _
    (.single trivial hstep)).mpr (.single hwithin hstep)⟩

end Krouter.Auth
