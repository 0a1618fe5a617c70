import Krouter.Auth.Jwks
import Krouter.Lib.Result
import Mathlib.Data.Rat.Floor

/-! Bearer tokens: the compact form, the signature, and the claims. The signature primitives, the
reading of bytes as text and the rounding to a `float64` are open. -/

namespace Krouter.Auth
open Compiled GoString Json Result

/-! ## Signatures -/

inductive Hash where
  | sha256
  | sha384
  | sha512
  deriving DecidableEq

inductive SignatureScheme where
  | rsaPKCS1
  | rsaPSS
  | ecdsa
  deriving DecidableEq

def algorithms : List (String × Hash × SignatureScheme) :=
  [("RS256", .sha256, .rsaPKCS1), ("RS384", .sha384, .rsaPKCS1), ("RS512", .sha512, .rsaPKCS1),
    ("PS256", .sha256, .rsaPSS), ("PS384", .sha384, .rsaPSS), ("PS512", .sha512, .rsaPSS),
    ("ES256", .sha256, .ecdsa), ("ES384", .sha384, .ecdsa), ("ES512", .sha512, .ecdsa)]

def algorithm (alg : String) : Option (Hash × SignatureScheme) :=
  (algorithms.find? fun entry => entry.1 = alg).map Prod.snd

structure Primitives where
  sum : Hash → List UInt8 → List UInt8
  verifyPKCS1v15 : Nat → Int64 → Hash → List UInt8 → List UInt8 → Bool
  verifyPSS : Nat → Int64 → Hash → List UInt8 → List UInt8 → Bool
  verifyECDSA : Curve → Nat → Nat → List UInt8 → Nat → Nat → Bool

def verify (p : Primitives) (scheme : SignatureScheme) (key : PublicKey) (hash : Hash)
    (hashed signature : List UInt8) : Bool :=
  match scheme, key with
  | .rsaPKCS1, .rsa n e => p.verifyPKCS1v15 n e hash hashed signature
  | .rsaPSS, .rsa n e => p.verifyPSS n e hash hashed signature
  | .ecdsa, .ecdsa curve x y =>
    if signature.length ≠ 2 * curve.size then false
    else p.verifyECDSA curve x y hashed (bigInt (signature.take curve.size)) (bigInt (signature.drop curve.size))
  | _, _ => false

/-! ## Claims -/

mutual

/-- A claim in canonical strings; a list comes to the strings of its elements, at any depth. -/
def canonicalValues : Value → List String
  | .string s => [s]
  | .bool b => [if b then "true" else "false"]
  | .number literal => [String.ofList literal]
  | .array items => canonicalItems items
  | .null => []
  | .object _ => []

def canonicalItems : List Value → List String
  | [] => []
  | item :: items => canonicalValues item ++ canonicalItems items

end

abbrev Payload := GoMap String Value

def decodePayload (text : String) : Option Payload :=
  match parseValue (text.toList.length + 1) text.toList with
  | some (.object fields, _) => some (GoMap.setAll ∅ fields)
  | some (.null, _) => some ∅
  | _ => none

def canonicalClaims (payload : Payload) : GoMap String (List String) :=
  payload.filterMap fun _ value => if canonicalValues value = [] then none else some (canonicalValues value)

def numberValue (literal : List Char) : ℚ :=
  let negative := literal.head? = some '-'
  let rest := if negative then literal.drop 1 else literal
  let digits := rest.takeWhile Decimal.isDigit
  let rest := rest.drop digits.length
  let fraction := if rest.head? = some '.' then (rest.drop 1).takeWhile Decimal.isDigit else []
  let rest := if rest.head? = some '.' then rest.drop (1 + fraction.length) else rest
  let exponent : Int := match rest.drop 1 with
    | '-' :: ds => -(Nat.ofDigitChars 10 ds 0 : Int)
    | '+' :: ds => Nat.ofDigitChars 10 ds 0
    | ds => Nat.ofDigitChars 10 ds 0
  let magnitude : ℚ := Nat.ofDigitChars 10 (digits ++ fraction) 0 * (10 : ℚ) ^ (exponent - fraction.length)
  if negative then -magnitude else magnitude

example : numberValue "-12.5e+3".toList = -12500 := by decide +kernel

def wholeSeconds (q : ℚ) : Int := if 0 ≤ q then ⌊q⌋ else ⌈q⌉

def numericClaim : Option Value → Option ℚ
  | some (.number literal) => some (numberValue literal)
  | _ => none

section
variable (text : List UInt8 → String) (float64 : ℚ → Option ℚ)

def numericDate (claim : Option Value) : Option Int :=
  ((numericClaim claim).bind float64).map wholeSeconds

def clockSkew : Int := 60000000000

def unix (seconds : Int) : Int := seconds * 1000000000

def validateClaims (cfg : AuthJWT) (now : Int) (payloadRaw : List UInt8) :
    Except CredentialError (GoMap String (List String)) :=
  match decodePayload (text payloadRaw) with
  | none => .error .rejected
  | some payload =>
    let claims := canonicalClaims payload
    if claims.read "iss" [] ≠ [cfg.issuer] then .error .rejected
    else if !intersects (claims.read "aud" []) cfg.audiences then .error .rejected
    else
      match numericDate float64 payload["exp"]? with
      | none => .error .rejected
      | some exp =>
        if unix exp + clockSkew < now then .error .rejected
        else
          match numericDate float64 payload["nbf"]? with
          -- a date that is missing and one that is no number come to the same here
          | none => .ok claims
          | some nbf => if now + clockSkew < unix nbf then .error .rejected else .ok claims

/-! ## Tokens -/

structure TokenHeader where
  alg : String
  kid : String
  deriving DecidableEq

def headerCodec : Json.Codec TokenHeader :=
  .struct ⟨"", ""⟩ (((Fields.field "alg" .string).prod (.field "kid" .string)).iso
    (fun h => ⟨h.1, h.2⟩) (fun h => (h.alg, h.kid)) fun _ => rfl)

structure Token where
  header : TokenHeader
  hash : Hash
  scheme : SignatureScheme
  payloadRaw : List UInt8
  signature : List UInt8
  signed : List UInt8

def readToken (token : String) : Option Token :=
  match splitChar token '.' with
  | [first, second, third] => do
    let headerRaw ← Base64.decodeString first
    let header ← headerCodec.unmarshal (text headerRaw)
    let (hash, scheme) ← algorithm header.alg
    let payloadRaw ← Base64.decodeString second
    let signature ← Base64.decodeString third
    return ⟨header, hash, scheme, payloadRaw, signature, (first ++ "." ++ second).toUTF8.data.toList⟩
  | _ => none

def Token.verified (p : Primitives) (t : Token) (keys : List PublicKey) : Bool :=
  keys.any fun key => verify p t.scheme key t.hash (p.sum t.hash t.signed) t.signature

/-- A token at the time its claims are looked at, after the keys were had. -/
def Validator.validate (p : Primitives) (cfg : AuthJWT) (v : Validator) (start : Int) (first second : Fetch) (now : Int)
    (token : String) : Except CredentialError (GoMap String (List String)) × Validator :=
  match readToken text token with
  | none => (.error .rejected, v)
  | some t =>
    let looked := keysFor ⟨t.header.kid, start, first, second⟩ v
    match looked.keys with
    | .error e => (.error e, looked.validator)
    | .ok keys =>
      if t.verified p keys then (validateClaims text float64 cfg now t.payloadRaw, looked.validator)
      else (.error .rejected, looked.validator)

end

/-! ## The documented check -/

def PublicKey.fits (key : PublicKey) (scheme : SignatureScheme) : Prop :=
  match scheme, key with
  | .rsaPKCS1, .rsa _ _ => True
  | .rsaPSS, .rsa _ _ => True
  | .ecdsa, .ecdsa _ _ _ => True
  | _, _ => False

def Payload.values (payload : Payload) (name : String) : List String := payload[name]?.elim [] canonicalValues

/-- What a token is accepted for, by the documentation. -/
structure Documented (p : Primitives) (cfg : AuthJWT) (v : Validator) (now : Int) (t : Token) (payload : Payload) :
    Prop where
  asymmetric : t.header.alg ∈ algorithms.map Prod.fst
  signature : ∃ key ∈ lookupLocked v t.header.kid, key.fits t.scheme ∧
    verify p t.scheme key t.hash (p.sum t.hash t.signed) t.signature = true
  issuer : payload["iss"]? = some (.string cfg.issuer)
  audience : cfg.audiences ≠ [] → ∃ a ∈ payload.values "aud", a ∈ cfg.audiences
  expiry : ∃ exp : Int, numericClaim payload["exp"]? = some (exp : ℚ) ∧ now ≤ unix exp + clockSkew
  notBefore : payload["nbf"]? = none ∨
    ∃ nbf : Int, numericClaim payload["nbf"]? = some (nbf : ℚ) ∧ unix nbf ≤ now + clockSkew

/-- What the claims have to be like at this time for the code to accept them. -/
structure Admitted (cfg : AuthJWT) (now : Int) (payload : Payload) : Prop where
  issuer : payload.values "iss" = [cfg.issuer]
  audience : ∃ a ∈ payload.values "aud", a ∈ cfg.audiences
  expiry : ∃ exp : Int, numericClaim payload["exp"]? = some (exp : ℚ) ∧ now ≤ unix exp + clockSkew
  notBefore : ∀ nbf : Int, numericClaim payload["nbf"]? = some (nbf : ℚ) → unix nbf ≤ now + clockSkew

def Token.Signable (t : Token) : Prop :=
  t.scheme = .ecdsa → ∃ curve : Curve, t.signature.length = 2 * curve.size

def IntegerDates (payload : Payload) : Prop :=
  ∀ name ∈ ["exp", "nbf"], ∀ q, numericClaim payload[name]? = some q → ∃ n : Int, n.natAbs < 2 ^ 53 ∧ q = n

theorem read_canonicalClaims (payload : Payload) (name : String) :
    (canonicalClaims payload).read name [] = payload.values name := by
  rw [GoMap.read, canonicalClaims, Std.ExtTreeMap.getElem?_filterMap', Payload.values]
  cases payload[name]? with
  | none => rfl
  | some value =>
    rw [Option.bind_some, Option.elim_some]
    split_ifs with hnone
    · exact hnone.symm
    · rfl

theorem intersects_iff (values allowed : List String) :
    intersects values allowed = true ↔ ∃ a ∈ values, a ∈ allowed := by
  simp [intersects]

theorem wholeSeconds_intCast (n : Int) : wholeSeconds (n : ℚ) = n := by
  rw [wholeSeconds]
  split_ifs
  · exact Int.floor_intCast n
  · exact Int.ceil_intCast n

variable {float64 : ℚ → Option ℚ} {text : List UInt8 → String} {cfg : AuthJWT}

section
variable (hfloat : ∀ n : Int, n.natAbs < 2 ^ 53 → float64 n = some (n : ℚ))
include hfloat

theorem numericDate_eq_some {payload : Payload} (hdates : IntegerDates payload) {name : String}
    (hname : name ∈ ["exp", "nbf"]) (n : Int) :
    numericDate float64 payload[name]? = some n ↔ numericClaim payload[name]? = some (n : ℚ) := by
  rw [numericDate]
  cases hclaim : numericClaim payload[name]? with
  | none => simp
  | some q =>
    obtain ⟨m, hm, rfl⟩ := hdates name hname q hclaim
    rw [Option.bind_some, hfloat m hm, Option.map_some, wholeSeconds_intCast]
    simp

variable {now : Int}

theorem validateClaims_ok_iff {payloadRaw : List UInt8} {payload : Payload}
    (hpayload : decodePayload (text payloadRaw) = some payload) (hdates : IntegerDates payload) :
    (∃ claims, validateClaims text float64 cfg now payloadRaw = .ok claims) ↔ Admitted cfg now payload := by
  have hexp := numericDate_eq_some hfloat hdates (by decide : "exp" ∈ ["exp", "nbf"])
  have hnbf := numericDate_eq_some hfloat hdates (by decide : "nbf" ∈ ["exp", "nbf"])
  rw [validateClaims, hpayload]
  dsimp only
  rw [read_canonicalClaims, read_canonicalClaims, exists_ok_guard, exists_ok_guard, not_not, Bool.not_eq_true',
    Bool.not_eq_false, intersects_iff]
  refine ⟨fun ⟨hissuer, haudience, claims, hclaims⟩ => ?_, fun h => ⟨h.issuer, h.audience, ?_⟩⟩
  · split at hclaims
    · cases hclaims
    · next exp hdate =>
      obtain ⟨hlate, claims, hclaims⟩ := exists_ok_guard.mp ⟨claims, hclaims⟩
      refine ⟨hissuer, haudience, ⟨exp, (hexp exp).mp hdate, by omega⟩, fun nbf hclaim => ?_⟩
      rw [(hnbf nbf).mpr hclaim] at hclaims
      obtain ⟨hearly, -⟩ := exists_ok_guard.mp ⟨claims, hclaims⟩
      omega
  · obtain ⟨exp, hclaim, hin⟩ := h.expiry
    rw [(hexp exp).mpr hclaim]
    refine exists_ok_guard.mpr ⟨by omega, ?_⟩
    cases hdate : numericDate float64 payload["nbf"]? with
    | none => exact ⟨_, rfl⟩
    | some nbf =>
      have hin := h.notBefore nbf ((hnbf nbf).mp hdate)
      exact exists_ok_guard.mpr ⟨by omega, _, rfl⟩

end

/-! ## Keys and signatures -/

theorem keysFor_ok {c : Call} {v : Validator} {keys : List PublicKey} (h : (keysFor c v).keys = .ok keys) :
    keys = lookupLocked (keysFor c v).validator c.kid := by
  have hlookup : ∀ now v, (lookupOrMiss c now v).keys = .ok keys →
      keys = lookupLocked (lookupOrMiss c now v).validator c.kid := by
    intro now v h
    rw [lookupOrMiss] at h ⊢
    split_ifs at h ⊢ with hfound hold
    · exact (Except.ok.inj h).symm
    · dsimp only at h ⊢
      split at h
      · cases h
      · next v hfetch =>
        split_ifs at h with hfound
        exact (Except.ok.inj h).symm
  rw [keysFor] at h ⊢
  split_ifs at h ⊢ with hstale
  · split at h
    · cases h
    · next v hfetch =>
      exact hlookup _ v h
  · exact hlookup _ v h

def Validator.holding (kid : String) (key : PublicKey) : Validator :=
  ⟨some ((∅ : KeySet).insert kid [key]), some 0, none⟩

theorem mem_lookupLocked_holding (kid : String) (key : PublicKey) :
    key ∈ lookupLocked (Validator.holding kid key) kid := by
  have hentry := GoMap.get_insert_self (∅ : KeySet) kid [key]
  rw [lookupLocked, Validator.holding, Option.getD_some]
  split_ifs
  · rw [GoMap.read_of_get hentry]
    exact List.mem_singleton_self key
  · exact List.mem_flatMap.mpr ⟨(kid, [key]), GoMap.mem_toList.mpr hentry, List.mem_singleton_self key⟩

theorem keysFor_holding (c : Call) (hstart : c.start = 0) (key : PublicKey) :
    (keysFor c (Validator.holding c.kid key)).keys = .ok (lookupLocked (Validator.holding c.kid key) c.kid) := by
  have hfresh : (Validator.holding c.kid key).stale c.start = false := by
    rw [hstart]
    rfl
  rw [keysFor, if_neg (by rw [hfresh]; decide), lookupOrMiss,
    if_pos (List.ne_nil_of_mem (mem_lookupLocked_holding c.kid key))]

theorem verify_fits {p : Primitives} {scheme : SignatureScheme} {key : PublicKey} {hash : Hash}
    {hashed signature : List UInt8} (h : verify p scheme key hash hashed signature = true) :
    key.fits scheme ∧ (scheme = .ecdsa → ∃ curve : Curve, signature.length = 2 * curve.size) := by
  cases scheme with
  | rsaPKCS1 =>
    cases key with
    | rsa n e => exact ⟨trivial, fun he => by cases he⟩
    | ecdsa curve x y => cases h
  | rsaPSS =>
    cases key with
    | rsa n e => exact ⟨trivial, fun he => by cases he⟩
    | ecdsa curve x y => cases h
  | ecdsa =>
    cases key with
    | rsa n e => cases h
    | ecdsa curve x y =>
      rw [verify] at h
      split_ifs at h with hlength
      exact ⟨trivial, fun _ => ⟨curve, not_not.mp hlength⟩⟩

/-- Primitives that accept every signature: nothing is assumed of those of the code. -/
def trusting : Primitives := ⟨fun _ _ => [], fun _ _ _ _ _ => true, fun _ _ _ _ _ => true, fun _ _ _ _ _ _ => true⟩

theorem Token.Signable.verified {t : Token} (h : t.Signable) :
    ∃ key, t.verified trusting (lookupLocked (Validator.holding t.header.kid key) t.header.kid) = true := by
  have hverify : ∃ key, verify trusting t.scheme key t.hash (trusting.sum t.hash t.signed) t.signature = true := by
    cases hscheme : t.scheme with
    | rsaPKCS1 => exact ⟨.rsa 0 0, rfl⟩
    | rsaPSS => exact ⟨.rsa 0 0, rfl⟩
    | ecdsa =>
      obtain ⟨curve, hlength⟩ := h hscheme
      exact ⟨.ecdsa curve 0 0, if_neg (not_not_intro hlength)⟩
  obtain ⟨key, hkey⟩ := hverify
  exact ⟨key, List.any_eq_true.mpr ⟨key, mem_lookupLocked_holding t.header.kid key, hkey⟩⟩

theorem readToken_algorithm {token : String} {t : Token}
    (h : readToken text token = some t) : t.header.alg ∈ algorithms.map Prod.fst := by
  rw [readToken] at h
  split at h
  · obtain ⟨headerRaw, -, h⟩ := Option.bind_eq_some_iff.mp h
    obtain ⟨header, -, h⟩ := Option.bind_eq_some_iff.mp h
    obtain ⟨⟨hash, scheme⟩, halg, h⟩ := Option.bind_eq_some_iff.mp h
    obtain ⟨payloadRaw, -, h⟩ := Option.bind_eq_some_iff.mp h
    obtain ⟨signature, -, h⟩ := Option.bind_eq_some_iff.mp h
    cases h
    obtain ⟨entry, hfind, -⟩ := Option.map_eq_some_iff.mp halg
    have hname : entry.1 = header.alg := by simpa using List.find?_some hfind
    exact List.mem_map.mpr ⟨entry, List.mem_of_find?_eq_some hfind, hname⟩
  · cases h

section
variable {p : Primitives} {v : Validator} {start now : Int} {first second : Fetch} {token : String} {t : Token}

theorem validate_ok {claims : GoMap String (List String)}
    (h : (Validator.validate text float64 p cfg v start first second now token).1 = .ok claims) :
    ∃ t, readToken text token = some t ∧
      t.verified p (lookupLocked (Validator.validate text float64 p cfg v start first second now token).2 t.header.kid) = true ∧
      validateClaims text float64 cfg now t.payloadRaw = .ok claims := by
  rw [Validator.validate] at h ⊢
  split at h
  · cases h
  · next t hread =>
    dsimp only at h ⊢
    cases hkeys : (keysFor ⟨t.header.kid, start, first, second⟩ v).keys with
    | error e =>
      rw [hkeys] at h
      cases h
    | ok keys =>
      rw [hkeys] at h
      dsimp only at h ⊢
      split_ifs at h with hverified
      have hlooked := keysFor_ok hkeys
      rw [if_pos hverified]
      exact ⟨t, hread, hlooked ▸ hverified, h⟩

theorem validate_trusting (hread : readToken text token = some t) (hsignable : t.Signable)
    (float64 : ℚ → Option ℚ) (cfg : AuthJWT) (now : Int) (first second : Fetch) :
    ∃ v, (Validator.validate text float64 trusting cfg v 0 first second now token).1 =
      validateClaims text float64 cfg now t.payloadRaw := by
  obtain ⟨key, hverified⟩ := hsignable.verified
  refine ⟨Validator.holding t.header.kid key, ?_⟩
  have hkeys := keysFor_holding ⟨t.header.kid, 0, first, second⟩ rfl key
  rw [Validator.validate, hread]
  dsimp only
  rw [hkeys]
  dsimp only
  rw [if_pos hverified]

end

/-- The accepted tokens are as documented, whatever the keys and the signature primitives, exactly if
a token that the code would accept has its issuer as a string and its earliest date as a number. -/
theorem accepted_as_documented_iff (text : List UInt8 → String) (float64 : ℚ → Option ℚ)
    (hfloat : ∀ n : Int, n.natAbs < 2 ^ 53 → float64 n = some (n : ℚ)) (cfg : AuthJWT) (now : Int) (token : String)
    (hdates : ∀ t payload, readToken text token = some t → decodePayload (text t.payloadRaw) = some payload →
      IntegerDates payload) :
    (∀ p v start first second claims,
      (Validator.validate text float64 p cfg v start first second now token).1 = .ok claims →
      ∃ t payload, readToken text token = some t ∧ decodePayload (text t.payloadRaw) = some payload ∧
        Documented p cfg (Validator.validate text float64 p cfg v start first second now token).2 now t payload) ↔
    ∀ t payload, readToken text token = some t → decodePayload (text t.payloadRaw) = some payload →
      t.Signable → Admitted cfg now payload →
      payload["iss"]? = some (.string cfg.issuer) ∧
        (payload["nbf"]? = none ∨ (numericClaim payload["nbf"]?).isSome = true) := by
  constructor
  · intro h t payload hread hpayload hsignable hadmitted
    obtain ⟨claims, hclaims⟩ := (validateClaims_ok_iff hfloat hpayload (hdates t payload hread hpayload)).mpr hadmitted
    obtain ⟨v, hv⟩ := validate_trusting hread hsignable float64 cfg now unanswered unanswered
    obtain ⟨t', payload', hread', hpayload', hdoc⟩ := h _ v 0 _ _ claims (hv.trans hclaims)
    rw [hread] at hread'
    cases hread'
    rw [hpayload] at hpayload'
    cases hpayload'
    refine ⟨hdoc.issuer, hdoc.notBefore.imp_right ?_⟩
    rintro ⟨nbf, hnbf, -⟩
    rw [hnbf]
    rfl
  · intro h p v start first second claims hok
    obtain ⟨t, hread, hverified, hclaims⟩ := validate_ok hok
    have hdecoded : ∃ payload, decodePayload (text t.payloadRaw) = some payload := by
      cases hpayload : decodePayload (text t.payloadRaw) with
      | none =>
        rw [validateClaims, hpayload] at hclaims
        cases hclaims
      | some payload => exact ⟨payload, rfl⟩
    obtain ⟨payload, hpayload⟩ := hdecoded
    have hinteger := hdates t payload hread hpayload
    have hadmitted := (validateClaims_ok_iff hfloat hpayload hinteger).mp ⟨claims, hclaims⟩
    obtain ⟨key, hkey, hverify⟩ := List.any_eq_true.mp hverified
    obtain ⟨hfits, hsignable⟩ := verify_fits hverify
    obtain ⟨hissuer, hnbf⟩ := h t payload hread hpayload hsignable hadmitted
    refine ⟨t, payload, hread, hpayload, readToken_algorithm hread, ⟨key, hkey, hfits, hverify⟩, hissuer,
      fun _ => hadmitted.audience, hadmitted.expiry, hnbf.imp_right fun hsome => ?_⟩
    obtain ⟨q, hq⟩ := Option.isSome_iff_exists.mp hsome
    obtain ⟨nbf, -, rfl⟩ := hinteger "nbf" (by decide) q hq
    exact ⟨nbf, hq, hadmitted.notBefore nbf hq⟩

/-! ## Three tokens -/

def latin1 (bytes : List UInt8) : String := String.ofList (bytes.map fun b => Char.ofNat b.toNat)

def bytesOf (s : String) : List UInt8 := s.toList.map fun c => UInt8.ofNat c.toNat

def sampleToken (payload : String) : String :=
  Base64.encodeToString (bytesOf "\x7b\"alg\":\"RS256\",\"kid\":\"k\"\x7d") ++ "." ++
    Base64.encodeToString (bytesOf payload) ++ ".AA"

theorem readToken_sampleToken (payload : String) : ∃ t, readToken latin1 (sampleToken payload) = some t ∧
    t.header.kid = "k" ∧ t.scheme = .rsaPKCS1 ∧ t.payloadRaw = bytesOf payload := by
  have hsplit : ∀ header, splitChar (Base64.encodeToString header ++ "." ++ Base64.encodeToString (bytesOf payload) ++
      ".AA") '.' = [Base64.encodeToString header, Base64.encodeToString (bytesOf payload), "AA"] := by
    intro header
    have hdots : Base64.encodeToString header ++ "." ++ Base64.encodeToString (bytesOf payload) ++ ".AA" =
        Base64.encodeToString header ++ String.singleton '.' ++ (Base64.encodeToString (bytesOf payload) ++
          String.singleton '.' ++ "AA") := by
      rw [← String.toList_inj]
      simp
    rw [hdots, splitChar_append, splitChar_append, splitChar_of_notMem (Base64.dot_notMem_encodeToString _),
      splitChar_of_notMem (Base64.dot_notMem_encodeToString _), splitChar_of_notMem (by decide)]
    rfl
  have hheader : headerCodec.unmarshal (latin1 (bytesOf "\x7b\"alg\":\"RS256\",\"kid\":\"k\"\x7d")) =
      some ⟨"RS256", "k"⟩ := by
    decide +kernel
  have halgorithm : algorithm "RS256" = some (.sha256, .rsaPKCS1) := by decide
  have hsignature : Base64.decodeString "AA" = some [0] := by decide +kernel
  rw [readToken, sampleToken, hsplit]
  simp only [Base64.decodeString_encodeToString, Option.bind_eq_bind, Option.bind_some, hheader, halgorithm, hsignature]
  exact ⟨_, rfl, rfl, rfl, rfl⟩

def plainClaims : String := "\x7b\"iss\":\"idp\",\"aud\":[\"web\",\"api\"],\"exp\":100,\"nbf\":50\x7d"

def nestedIssuer : String := "\x7b\"iss\":[[\"idp\"]],\"aud\":\"api\",\"exp\":100\x7d"

def textDate : String := "\x7b\"iss\":\"idp\",\"aud\":\"api\",\"exp\":100,\"nbf\":\"9000000000\"\x7d"

def sampleJWT : AuthJWT := ⟨"idp", ["api"], ""⟩

def checked (payload : String) : Except CredentialError (GoMap String (List String)) × Validator :=
  Validator.validate latin1 some trusting sampleJWT (.holding "k" (.rsa 1 1)) 0 unanswered unanswered 10000000000
    (sampleToken payload)

theorem checked_ok {payload : String}
    (h : (validateClaims latin1 some sampleJWT 10000000000 (bytesOf payload)).toBool = true) :
    ∃ claims, (checked payload).1 = .ok claims := by
  obtain ⟨t, hread, hkid, hscheme, hraw⟩ := readToken_sampleToken payload
  have hkeys := keysFor_holding ⟨"k", 0, unanswered, unanswered⟩ rfl (.rsa 1 1)
  have hverified : t.verified trusting (lookupLocked (.holding "k" (.rsa 1 1)) "k") = true :=
    List.any_eq_true.mpr ⟨.rsa 1 1, mem_lookupLocked_holding "k" (.rsa 1 1), by rw [hscheme]; rfl⟩
  rw [checked, Validator.validate, hread]
  dsimp only
  rw [hkid, hkeys]
  dsimp only
  rw [if_pos hverified, hraw]
  cases hclaims : validateClaims latin1 some sampleJWT 10000000000 (bytesOf payload) with
  | error e =>
    rw [hclaims] at h
    cases h
  | ok claims => exact ⟨claims, rfl⟩

theorem decodePayload_sampleToken {text : String} {t : Token} (hread : readToken latin1 (sampleToken text) = some t) :
    decodePayload (latin1 t.payloadRaw) = decodePayload (latin1 (bytesOf text)) := by
  obtain ⟨t', hread', -, -, hraw⟩ := readToken_sampleToken text
  rw [hread] at hread'
  cases hread'
  rw [hraw]

def wellShaped (payload : Payload) : Bool :=
  (match payload["iss"]? with
    | some (.string s) => s = "idp"
    | _ => false) && (payload["nbf"]?.isNone || (numericClaim payload["nbf"]?).isSome)

theorem wellShaped_iff (payload : Payload) : wellShaped payload = true ↔
    payload["iss"]? = some (.string "idp") ∧
      (payload["nbf"]? = none ∨ (numericClaim payload["nbf"]?).isSome = true) := by
  rw [wellShaped, Bool.and_eq_true, Bool.or_eq_true, Option.isNone_iff_eq_none]
  refine and_congr_left fun _ => ?_
  split
  · next s hiss => simp [hiss]
  · next hother => exact ⟨fun h => (by cases h), fun hiss => absurd hiss (hother _)⟩

theorem plain_claims_documented : (∃ claims, (checked plainClaims).1 = .ok claims) ∧
    ∀ p v start first second claims,
      (Validator.validate latin1 some p sampleJWT v start first second 10000000000 (sampleToken plainClaims)).1 = .ok claims →
      ∃ t payload, readToken latin1 (sampleToken plainClaims) = some t ∧
        decodePayload (latin1 t.payloadRaw) = some payload ∧
        Documented p sampleJWT
          (Validator.validate latin1 some p sampleJWT v start first second 10000000000 (sampleToken plainClaims)).2
          10000000000 t payload := by
  have hdates : (decodePayload (latin1 (bytesOf plainClaims))).map
      (fun p => (numericClaim p["exp"]?, numericClaim p["nbf"]?)) = some (some 100, some 50) := by
    decide +kernel
  have hshape : (decodePayload (latin1 (bytesOf plainClaims))).map wellShaped = some true := by decide +kernel
  refine ⟨checked_ok (by decide +kernel),
    (accepted_as_documented_iff latin1 some (fun _ _ => rfl) sampleJWT 10000000000 (sampleToken plainClaims) ?_).mpr ?_⟩
  · intro t payload hread hpayload
    rw [← decodePayload_sampleToken hread, hpayload, Option.map_some] at hdates
    obtain ⟨hexp, hnbf⟩ := Prod.mk.inj (Option.some.inj hdates)
    intro name hname q hq
    simp only [List.mem_cons, List.not_mem_nil, or_false] at hname
    rcases hname with rfl | rfl
    · rw [hexp] at hq
      exact ⟨100, by decide, (Option.some.inj hq).symm⟩
    · rw [hnbf] at hq
      exact ⟨50, by decide, (Option.some.inj hq).symm⟩
  · intro t payload hread hpayload _ _
    rw [← decodePayload_sampleToken hread, hpayload, Option.map_some] at hshape
    exact (wellShaped_iff payload).mp (Option.some.inj hshape)

def AcceptedUndocumented (text : String) : Prop :=
  (∃ claims, (checked text).1 = .ok claims) ∧
    ¬ ∃ t payload, readToken latin1 (sampleToken text) = some t ∧
      decodePayload (latin1 t.payloadRaw) = some payload ∧
      Documented trusting sampleJWT (checked text).2 10000000000 t payload

theorem acceptedUndocumented {text : String}
    (haccepted : (validateClaims latin1 some sampleJWT 10000000000 (bytesOf text)).toBool = true)
    (hshape : (decodePayload (latin1 (bytesOf text))).map wellShaped = some false) : AcceptedUndocumented text := by
  refine ⟨checked_ok haccepted, ?_⟩
  rintro ⟨t, payload, hread, hpayload, hdoc⟩
  have hgood := (wellShaped_iff payload).mpr ⟨hdoc.issuer, hdoc.notBefore.imp_right fun ⟨nbf, hnbf, _⟩ => by
    rw [hnbf]
    rfl⟩
  rw [← decodePayload_sampleToken hread, hpayload, Option.map_some, hgood] at hshape
  cases hshape

/-- An issuer in nested lists, and a date far ahead that is written as a string. -/
theorem lenient_claims_accepted : AcceptedUndocumented nestedIssuer ∧ AcceptedUndocumented textDate :=
  ⟨acceptedUndocumented (by decide +kernel) (by decide +kernel),
    acceptedUndocumented (by decide +kernel) (by decide +kernel)⟩

end Krouter.Auth
