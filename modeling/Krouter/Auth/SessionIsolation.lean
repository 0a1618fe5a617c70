import Krouter.Auth.Session

/-! Whether one extension accepts the sessions of another. Nothing in a sealed session names the
extension that minted it. -/

namespace Krouter.Auth
open Compiled Http

/-- One call of `SealSession` or `SealState`, with the choices of the environment. -/
inductive Sealing where
  | session (r : Request) (session : Session) (nonce box : List UInt8)
  | state (r : Request) (state : State) (crossSite : Bool) (now : Int64) (nonce box : List UInt8)

namespace Sealing

def record (c : Codec) : Sealing → SealRecord
  | session r s nonce box => (c.sealSession r s nonce box).1
  | state r s crossSite now nonce box => (c.sealState r s crossSite now nonce box).1

def issued (c : Codec) : Sealing → List SetCookie
  | session r s nonce box => ((c.sealSession r s nonce box).2.toOption).getD []
  | state r s crossSite now nonce box => [(c.sealState r s crossSite now nonce box).2]

end Sealing

/-- The client only has cookie values issued by `c`, under whatever names and positions. -/
def BuiltFrom (c : Codec) (sealings : List Sealing) (r : Request) : Prop :=
  ∀ cookie ∈ r.cookies, ∃ s ∈ sealings, cookie.2 ∈ (s.issued c).map SetCookie.value

/-- No request built from the cookies of `a` is a session for `b`. -/
def RejectsSessionsOf (b a : Codec) : Prop :=
  ∀ (sealings : List Sealing) (now : Int64) (r : Request), BuiltFrom a sealings r →
    b.openSession (sealings.map (Sealing.record a)) now r = none

theorem Sealing.record_key (c : Codec) (s : Sealing) : (s.record c).key = c.key := by
  cases s with
  | session r s nonce box => rw [record, Codec.sealSession_record]
  | state r s crossSite now nonce box => rfl

theorem rejects_of_key_ne {a b : Codec} (h : a.key ≠ b.key) : RejectsSessionsOf b a := by
  intro sealings now r _
  cases ho : b.openSession (sealings.map (Sealing.record a)) now r with
  | none => rfl
  | some session =>
    obtain ⟨s, hs, hk, -⟩ := Codec.openSession_some ho
    obtain ⟨sealing, -, rfl⟩ := List.mem_map.mp hs
    exact absurd ((sealing.record_key a).symm.trans hk) h

/-! ## A renamed cookie -/

def plainRequest (cookies : List (String × String)) : Request where
  method := "GET"
  host := "example.com"
  path := "/"
  requestURI := "/"
  query := ∅
  header := ∅
  cookies := cookies
  remoteAddr := "192.0.2.1:4000"
  tls := some "example.com"

def aliceSession : Session := ⟨"oidc", "alice", "", [], ∅, 0, 3600, 0, "", "", ""⟩

def sampleNonce : List UInt8 := List.replicate 12 0

def sampleBox : List UInt8 :=
  List.replicate ((sessionCodec.marshal aliceSession).utf8ByteSize + overhead) 0

def aliceSealing : Sealing := .session (plainRequest []) aliceSession sampleNonce sampleBox

def renamedRequest (b : Codec) : Request :=
  plainRequest [(b.chunkName 0, Base64.encodeToString (sampleNonce ++ sampleBox))]

theorem sample_value_length :
    (Base64.encodeToString (sampleNonce ++ sampleBox)).toList.length ≤ cookieChunkSize := by
  decide

theorem chunk_of_le {value : String} {size : Nat} (h : value.toList.length ≤ size) :
    chunk value size = [value] := by
  rw [chunk]
  cases value.toList.length with
  | zero => rw [chunkLoop, String.ofList_toList]
  | succ n => rw [chunkLoop, if_neg (by omega), String.ofList_toList]

theorem aliceSealing_issued (a : Codec) : Base64.encodeToString (sampleNonce ++ sampleBox) ∈
    (aliceSealing.issued a).map SetCookie.value := by
  have hlen := sample_value_length
  have hbudget : ¬ cookieChunkSize * maxCookieChunks <
      (Base64.encodeToString (sampleNonce ++ sampleBox)).toList.length := by
    simp only [cookieChunkSize, maxCookieChunks] at hlen ⊢
    omega
  simp only [aliceSealing, Sealing.issued, Codec.sealSession, Codec.sealValue, if_neg hbudget,
    chunk_of_le hlen]
  exact List.mem_map.mpr ⟨_, List.mem_append_left _ (.head _), rfl⟩

theorem renamedRequest_builtFrom (a b : Codec) : BuiltFrom a [aliceSealing] (renamedRequest b) := by
  intro cookie hc
  obtain rfl := List.mem_singleton.mp hc
  exact ⟨aliceSealing, .head _, aliceSealing_issued a⟩

theorem renamedRequest_parts (b : Codec) : b.sessionParts (renamedRequest b) maxCookieChunks 0 =
    [Base64.encodeToString (sampleNonce ++ sampleBox)] := by
  have h0 : (renamedRequest b).cookie (b.chunkName 0) =
      some (Base64.encodeToString (sampleNonce ++ sampleBox)) := by
    simp [renamedRequest, plainRequest, Request.cookie]
  have h1 : (renamedRequest b).cookie (b.chunkName 1) = none := by
    simp [renamedRequest, plainRequest, Request.cookie, b.chunkName_one_ne]
  simp only [maxCookieChunks, Codec.sessionParts, h0, h1]

theorem renamed_session_opens {a b : Codec} (h : a.key = b.key) {now : Int64}
    (hnow : ¬ aliceSession.expiresAt ≤ now) :
    b.openSession [aliceSealing.record a] now (renamedRequest b) = some aliceSession := by
  have hrec : aliceSealing.record a =
      ⟨b.key, "session", sampleNonce, sampleBox, sessionCodec.marshal aliceSession⟩ := by
    rw [← h]
    exact Codec.sealSession_record ..
  have hopen : b.openValue [aliceSealing.record a] "session"
      (Base64.encodeToString (sampleNonce ++ sampleBox)) = some (sessionCodec.marshal aliceSession) := by
    rw [hrec]
    exact Codec.openValue_of_mem (functional_singleton _) (.head _) rfl
  have hjoin : ∀ value : String, String.join [value] = value := fun value => by simp [String.join]
  refine Codec.openSession_of_parts (renamedRequest_parts b) (List.cons_ne_nil _ _) ?_ hnow
  rw [hjoin]
  exact hopen

theorem not_rejects_of_key_eq {a b : Codec} (h : a.key = b.key) : ¬ RejectsSessionsOf b a := by
  intro hr
  have hnone := hr [aliceSealing] 0 (renamedRequest b) (renamedRequest_builtFrom a b)
  rw [List.map_singleton, renamed_session_opens h (by decide)] at hnone
  cases hnone

theorem newCodec_key (sum256 : String → String) (identity : String) (session : AuthSession) :
    (newCodec sum256 identity session).key = sum256 session.secret := rfl

/-- Extensions keep their sessions apart exactly when their keys differ; their identities
play no part. -/
theorem rejectsSessionsOf_iff_sum256_ne (sum256 : String → String) (identityA identityB : String)
    (sessionA sessionB : AuthSession) :
    RejectsSessionsOf (newCodec sum256 identityB sessionB) (newCodec sum256 identityA sessionA) ↔
      sum256 sessionA.secret ≠ sum256 sessionB.secret := by
  rw [← newCodec_key sum256 identityA, ← newCodec_key sum256 identityB]
  exact ⟨fun hr heq => not_rejects_of_key_eq heq hr, rejects_of_key_ne⟩

theorem shared_secret_session_accepted :
    ¬ ∀ (sum256 : String → String) (identityA identityB : String) (sessionA sessionB : AuthSession),
      identityA ≠ identityB → RejectsSessionsOf (newCodec sum256 identityB sessionB)
        (newCodec sum256 identityA sessionA) := by
  intro h
  have hr := h id "aaaaaaaaaaaa" "bbbbbbbbbbbb" ⟨"shared", 3600000⟩ ⟨"shared", 3600000⟩ (by decide)
  refine not_rejects_of_key_eq ?_ hr
  rw [newCodec_key, newCodec_key]

end Krouter.Auth
