import Krouter.Compiled.AuthConfig
import Krouter.Http.Request
import Krouter.Lib.Base64

/-! The sealed session and state cookies of an authentication extension. AES-GCM is ideal:
the record of everything sealed so far decides what opens. -/

namespace Krouter.Auth
open Std Compiled Http Json.Fields

structure Session where
  provider : String
  user : String
  email : String
  groups : List String
  claims : GoMap String (List String)
  issuedAt : Int64
  expiresAt : Int64
  tokenExpiresAt : Int64
  refreshToken : String
  nameID : String
  sessionIndex : String
  deriving DecidableEq

def sessionCodec : Json.Codec Session :=
  .struct ⟨"", "", "", [], ∅, 0, 0, 0, "", "", ""⟩ <|
    ((field "p" .string).prod <|
      (omitempty "u" .string).prod <|
      (omitempty "e" .string).prod <|
      (omitempty "g" Json.Codec.string.list).prod <|
      (omitempty "c" Json.Codec.string.list.map).prod <|
      (field "iat" .int64).prod <|
      (field "exp" .int64).prod <|
      (omitempty "texp" .int64).prod <|
      (omitempty "rt" .string).prod <|
      (omitempty "nid" .string).prod <|
      omitempty "sidx" .string).iso
    (fun ⟨a, b, c, d, e, f, g, h, i, j, k⟩ => ⟨a, b, c, d, e, f, g, h, i, j, k⟩)
    (fun s => (s.provider, s.user, s.email, s.groups, s.claims, s.issuedAt, s.expiresAt,
      s.tokenExpiresAt, s.refreshToken, s.nameID, s.sessionIndex)) fun _ => rfl

structure State where
  extension : String
  returnURL : String
  formToken : String
  oidcState : String
  oidcNonce : String
  oidcVerifier : String
  samlRequestID : String
  expiresAt : Int64
  deriving DecidableEq

def stateCodec : Json.Codec State :=
  .struct ⟨"", "", "", "", "", "", "", 0⟩ <|
    ((field "ext" .string).prod <|
      (omitempty "rd" .string).prod <|
      (omitempty "tok" .string).prod <|
      (omitempty "os" .string).prod <|
      (omitempty "on" .string).prod <|
      (omitempty "ov" .string).prod <|
      (omitempty "sid" .string).prod <|
      field "exp" .int64).iso
    (fun ⟨a, b, c, d, e, f, g, h⟩ => ⟨a, b, c, d, e, f, g, h⟩)
    (fun s => (s.extension, s.returnURL, s.formToken, s.oidcState, s.oidcNonce, s.oidcVerifier,
      s.samlRequestID, s.expiresAt)) fun _ => rfl

/-! ## The ideal AEAD -/

structure SealRecord where
  key : String
  context : String
  nonce : List UInt8
  box : List UInt8
  plain : String
  deriving DecidableEq

def aeadOpen (log : List SealRecord) (key : String) (nonce box : List UInt8) (context : String) :
    Option String :=
  (log.find? fun s => s.key = key ∧ s.nonce = nonce ∧ s.box = box ∧ s.context = context).map
    SealRecord.plain

def nonceSize : Nat := 12

def overhead : Nat := 16

/-! ## The codec -/

abbrev Duration := Int64

structure Codec where
  key : String
  identity : String
  lifetime : Duration
  deriving DecidableEq

def cookieChunkSize : Nat := 3500
def maxCookieChunks : Nat := 4

/-- `sum256` is the digest the key is derived with; AES and GCM accept every key of its
length. -/
def newCodec (sum256 : String → String) (identity : String) (session : AuthSession) : Codec where
  key := sum256 session.secret
  identity := identity
  lifetime := session.lifetimeMillis * 1000000

def cookieSuffix (identity : String) : String :=
  if 8 < identity.toList.length then String.ofList (identity.toList.take 8) else identity

def chunkLoop (size : Nat) : Nat → List Char → List String
  | 0, value => [String.ofList value]
  | n + 1, value =>
    if size < value.length then String.ofList (value.take size) :: chunkLoop size n (value.drop size)
    else [String.ofList value]

def chunk (value : String) (size : Nat) : List String :=
  chunkLoop size value.toList.length value.toList

namespace Codec

def sessionCookie (c : Codec) : String := "krouter_auth_" ++ cookieSuffix c.identity

def stateCookie (c : Codec) : String := "krouter_state_" ++ cookieSuffix c.identity

def chunkName (c : Codec) (index : Nat) : String :=
  if index = 0 then c.sessionCookie
  else c.sessionCookie ++ "-" ++ String.ofList (Decimal.itoa index)

/-- The random nonce and the ciphertext are the environment's choice. -/
def sealValue (c : Codec) (context plain : String) (nonce box : List UInt8) : SealRecord × String :=
  (⟨c.key, context, nonce, box, plain⟩, Base64.encodeToString (nonce ++ box))

def openValue (c : Codec) (log : List SealRecord) (context value : String) : Option String :=
  (Base64.decodeString value).bind fun sealed =>
    if sealed.length < nonceSize then none
    else aeadOpen log c.key (sealed.take nonceSize) (sealed.drop nonceSize) context

def cookie (_c : Codec) (r : Request) (name value : String) (maxAge : Duration) : SetCookie where
  name := name
  value := value
  path := "/"
  maxAge := maxAge.toInt.tdiv 1000000000
  httpOnly := true
  secure := r.tls.isSome
  sameSite := .lax

def expiredCookie (c : Codec) (r : Request) (name : String) : SetCookie :=
  { c.cookie r name "" 0 with maxAge := -1 }

def staleCookies (c : Codec) (r : Request) (kept : Nat) : List SetCookie :=
  ((List.range maxCookieChunks).filter fun index =>
    kept ≤ index ∧ (r.cookie (c.chunkName index)).isSome).map fun index =>
      c.expiredCookie r (c.chunkName index)

def sealSession (c : Codec) (r : Request) (session : Session) (nonce box : List UInt8) :
    SealRecord × Except String (List SetCookie) :=
  let (record, value) := c.sealValue "session" (sessionCodec.marshal session) nonce box
  if cookieChunkSize * maxCookieChunks < value.toList.length then
    (record, .error ("session exceeds the cookie budget (" ++ toString value.toList.length ++
      " bytes sealed)"))
  else
    let chunks := chunk value cookieChunkSize
    (record, .ok ((chunks.mapIdx fun index part => c.cookie r (c.chunkName index) part c.lifetime) ++
      c.staleCookies r chunks.length))

def sessionParts (c : Codec) (r : Request) : Nat → Nat → List String
  | 0, _ => []
  | n + 1, index =>
    match r.cookie (c.chunkName index) with
    | none => []
    | some value => value :: sessionParts c r n (index + 1)

def openSession (c : Codec) (log : List SealRecord) (now : Int64) (r : Request) : Option Session :=
  let parts := c.sessionParts r maxCookieChunks 0
  if parts = [] then none
  else (c.openValue log "session" (String.join parts)).bind fun plain =>
    (sessionCodec.unmarshal plain).bind fun session =>
      if session.expiresAt ≤ now then none else some session

def clearSession (c : Codec) (r : Request) : List SetCookie :=
  c.expiredCookie r (c.chunkName 0) :: c.staleCookies r 1

def stateLifetime : Duration := 600000000000

def sealState (c : Codec) (r : Request) (state : State) (crossSite : Bool) (now : Int64)
    (nonce box : List UInt8) : SealRecord × SetCookie :=
  let (record, value) :=
    c.sealValue "state" (stateCodec.marshal { state with expiresAt := now + 600 }) nonce box
  let cookie := c.cookie r c.stateCookie value stateLifetime
  (record, if crossSite ∧ r.tls.isSome then { cookie with sameSite := .none, secure := true }
    else cookie)

def openState (c : Codec) (log : List SealRecord) (now : Int64) (r : Request) : Option State :=
  (r.cookie c.stateCookie).bind fun value => (c.openValue log "state" value).bind fun plain =>
    (stateCodec.unmarshal plain).bind fun state => if state.expiresAt ≤ now then none else some state

def clearState (c : Codec) (r : Request) : SetCookie := c.expiredCookie r c.stateCookie

end Codec

/-! ## What opens -/

def Functional (log : List SealRecord) : Prop :=
  ∀ s ∈ log, ∀ s' ∈ log, s.key = s'.key → s.nonce = s'.nonce → s.box = s'.box → s.context = s'.context →
    s.plain = s'.plain

theorem functional_singleton (s : SealRecord) : Functional [s] := by
  intro a ha b hb _ _ _ _
  rw [List.mem_singleton.mp ha, List.mem_singleton.mp hb]

theorem aeadOpen_some {log : List SealRecord} {key context plain : String} {nonce box : List UInt8}
    (h : aeadOpen log key nonce box context = some plain) :
    ∃ s ∈ log, s.key = key ∧ s.nonce = nonce ∧ s.box = box ∧ s.context = context ∧
      s.plain = plain := by
  obtain ⟨s, hs, hp⟩ := Option.map_eq_some_iff.mp h
  have hmem := List.mem_of_find?_eq_some hs
  have hmatch := List.find?_some hs
  simp only [decide_eq_true_eq] at hmatch
  exact ⟨s, hmem, hmatch.1, hmatch.2.1, hmatch.2.2.1, hmatch.2.2.2, hp⟩

namespace Codec

variable {c : Codec} {log : List SealRecord}

theorem openValue_some {context value plain : String} (h : c.openValue log context value = some plain) :
    ∃ s ∈ log, s.key = c.key ∧ s.context = context ∧ s.plain = plain := by
  obtain ⟨sealed, -, h⟩ := Option.bind_eq_some_iff.mp h
  split_ifs at h
  obtain ⟨s, hs, hk, -, -, hc, hp⟩ := aeadOpen_some h
  exact ⟨s, hs, hk, hc, hp⟩

theorem openValue_of_mem (hlog : Functional log) {context plain : String} {nonce box : List UInt8}
    (hs : ⟨c.key, context, nonce, box, plain⟩ ∈ log) (hn : nonce.length = nonceSize) :
    c.openValue log context (Base64.encodeToString (nonce ++ box)) = some plain := by
  have hlen : ¬ (nonce ++ box).length < nonceSize := by
    rw [List.length_append]
    omega
  rw [openValue, Base64.decodeString_encodeToString, Option.bind_some, if_neg hlen, ← hn,
    List.take_left, List.drop_left, aeadOpen]
  cases hfind : log.find? fun s => s.key = c.key ∧ s.nonce = nonce ∧ s.box = box ∧ s.context = context with
  | none =>
    have hnone := List.find?_eq_none.mp hfind _ hs
    simp at hnone
  | some s =>
    have hfound := List.find?_some hfind
    simp only [decide_eq_true_eq] at hfound
    obtain ⟨hkey, hnonce, hbox, hcontext⟩ := hfound
    rw [Option.map_some, hlog s (List.mem_of_find?_eq_some hfind) _ hs hkey hnonce hbox hcontext]

theorem openSession_some {now : Int64} {r : Request} {session : Session}
    (h : c.openSession log now r = some session) : ∃ s ∈ log, s.key = c.key ∧ s.context = "session" ∧
      sessionCodec.unmarshal s.plain = some session ∧ ¬ session.expiresAt ≤ now := by
  simp only [openSession] at h
  split_ifs at h
  obtain ⟨plain, hp, h⟩ := Option.bind_eq_some_iff.mp h
  obtain ⟨opened, ho, h⟩ := Option.bind_eq_some_iff.mp h
  split_ifs at h with hexp
  obtain rfl := Option.some.inj h
  obtain ⟨s, hs, hk, hc, rfl⟩ := openValue_some hp
  exact ⟨s, hs, hk, hc, ho, hexp⟩

theorem openSession_of_parts {now : Int64} {r : Request} {parts : List String} {session : Session}
    (hparts : c.sessionParts r maxCookieChunks 0 = parts) (hne : parts ≠ [])
    (hopen : c.openValue log "session" (String.join parts) = some (sessionCodec.marshal session))
    (hnow : ¬ session.expiresAt ≤ now) : c.openSession log now r = some session := by
  unfold openSession
  rw [hparts, if_neg hne, hopen, Option.bind_some, sessionCodec.unmarshal_marshal, Option.bind_some, if_neg hnow]

theorem openState_of_cookie {now : Int64} {r : Request} {value : String} {state : State}
    (hcookie : r.cookie c.stateCookie = some value)
    (hopen : c.openValue log "state" value = some (stateCodec.marshal state)) (hnow : ¬ state.expiresAt ≤ now) :
    c.openState log now r = some state := by
  rw [openState, hcookie, Option.bind_some, hopen, Option.bind_some, stateCodec.unmarshal_marshal,
    Option.bind_some, if_neg hnow]

theorem sealSession_record (c : Codec) (r : Request) (session : Session) (nonce box : List UInt8) :
    (c.sealSession r session nonce box).1 =
      ⟨c.key, "session", nonce, box, sessionCodec.marshal session⟩ := by
  rw [sealSession]
  dsimp only
  split <;> rfl

theorem chunkName_one_ne (c : Codec) : c.chunkName 0 ≠ c.chunkName 1 := by
  intro h
  have hl := congrArg (fun s : String => s.toList.length) h
  simp [chunkName, String.toList_append] at hl

end Codec

end Krouter.Auth
