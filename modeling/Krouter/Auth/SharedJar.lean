import Krouter.Auth.CookieJar
import Krouter.ControlPlane.RouteExtensions

/-! Two extensions on one host share a cookie jar. Cookie names have the first eight characters of an
identity. -/

namespace Krouter.Auth
open Compiled Http ControlPlane

/-! ## Operations on the jar -/

/-- What the codec of an extension writes to the jar, each with the request it answers. -/
inductive CookieOp where
  | issue (s : Sealing)
  | clearSession (r : Request)
  | clearState (r : Request)

def CookieOp.cookies (c : Codec) : CookieOp → List SetCookie
  | .issue s => s.issued c
  | .clearSession r => c.clearSession r
  | .clearState r => [c.clearState r]

def Jar.run (c : Codec) (jar : Jar) (ops : List CookieOp) : Jar :=
  ops.foldl (fun jar op => jar.receive (op.cookies c)) jar

/-- Whatever `a` writes, `b` reads the same session and the same state. -/
def Undisturbed (a b : Codec) : Prop :=
  ∀ jar ops r next, Carries r jar → Carries next (jar.run a ops) → ∀ log now,
    b.openSession log now next = b.openSession log now r ∧ b.openState log now next = b.openState log now r

def Codec.Names (c : Codec) (name : String) : Prop := (∃ index, name = c.chunkName index) ∨ name = c.stateCookie

section
variable {c : Codec} {r : Request}

theorem staleCookies_names {kept : Nat} : ∀ cookie ∈ c.staleCookies r kept, c.Names cookie.name := by
  intro cookie hc
  obtain ⟨index, -, rfl⟩ := List.mem_map.mp hc
  exact .inl ⟨index, rfl⟩

theorem issued_names (s : Sealing) : ∀ cookie ∈ s.issued c, c.Names cookie.name := by
  cases s with
  | session r session nonce box =>
    by_cases hfits : Codec.FitsBudget (Codec.sealedValue nonce box)
    · rw [Sealing.issued, Codec.sealSession_of_fits hfits]
      intro cookie hc
      rcases List.mem_append.mp hc with hc | hc
      · obtain ⟨index, hindex, rfl⟩ := List.mem_mapIdx.mp hc
        exact .inl ⟨index, rfl⟩
      · exact staleCookies_names cookie hc
    · obtain ⟨err, herr⟩ : ∃ err, (c.sealSession r session nonce box).2 = .error err :=
        Codec.sealSession_of_not_fits hfits
      rw [Sealing.issued, herr]
      exact fun cookie hc => (by cases hc)
  | state r state crossSite now nonce box =>
    intro cookie hc
    obtain rfl := List.mem_singleton.mp hc
    refine .inr ?_
    unfold Codec.sealState
    split_ifs <;> rfl

theorem CookieOp.cookies_names (op : CookieOp) : ∀ cookie ∈ op.cookies c, c.Names cookie.name := by
  cases op with
  | issue s => exact issued_names s
  | clearSession r =>
    intro cookie hc
    rcases List.mem_cons.mp hc with rfl | hc
    · exact .inl ⟨0, rfl⟩
    · exact staleCookies_names cookie hc
  | clearState r =>
    intro cookie hc
    obtain rfl := List.mem_singleton.mp hc
    exact .inr rfl

theorem Jar.run_of_not_names {jar : Jar} {name : String} (h : ¬ c.Names name) (ops : List CookieOp) :
    (jar.run c ops)[name]? = jar[name]? := by
  induction ops generalizing jar with
  | nil => rfl
  | cons op ops ih =>
    have hrest : ((jar.receive (op.cookies c)).run c ops)[name]? = (jar.receive (op.cookies c))[name]? := ih
    refine hrest.trans (receive_of_notMem fun hmem => ?_)
    obtain ⟨cookie, hc, rfl⟩ := List.mem_map.mp hmem
    exact h (op.cookies_names cookie hc)

end

section
variable {c : Codec} {r next : Request}

theorem sessionParts_congr (h : ∀ index, next.cookie (c.chunkName index) = r.cookie (c.chunkName index))
    (n index : Nat) : c.sessionParts next n index = c.sessionParts r n index := by
  induction n generalizing index with
  | zero => rfl
  | succ n ih => rw [Codec.sessionParts, Codec.sessionParts, h, ih]

theorem reads_congr (h : ∀ name, c.Names name → next.cookie name = r.cookie name) (log : List SealRecord)
    (now : Int64) :
    c.openSession log now next = c.openSession log now r ∧ c.openState log now next = c.openState log now r := by
  have hparts := sessionParts_congr (fun index => h _ (.inl ⟨index, rfl⟩)) maxCookieChunks 0
  constructor
  · unfold Codec.openSession
    rw [hparts]
  · unfold Codec.openState
    rw [h _ (.inr rfl)]

theorem undisturbed_of_names {a b : Codec} (h : ∀ name, b.Names name → ¬ a.Names name) : Undisturbed a b := by
  intro jar ops r next hr hnext log now
  refine reads_congr (fun name hname => ?_) log now
  rw [hnext, hr, Jar.run_of_not_names (h name hname)]

end

section
variable {a b : Codec}

theorem chunkName_eq_append (c : Codec) (index : Nat) :
    ∃ tail, c.chunkName index = "krouter_auth_" ++ (cookieSuffix c.identity ++ tail) := by
  unfold Codec.chunkName Codec.sessionCookie
  split_ifs
  · exact ⟨"", by rw [String.append_empty]⟩
  · exact ⟨"-" ++ String.ofList (Decimal.itoa index), by simp only [String.append_assoc]⟩

theorem auth_ne_state (x y : String) : "krouter_auth_" ++ x ≠ "krouter_state_" ++ y := by
  intro h
  have hchar := congrArg (fun s : String => s.toList[8]?) h
  simp [String.toList_append] at hchar

theorem names_apart (hlen : (cookieSuffix a.identity).toList.length = (cookieSuffix b.identity).toList.length)
    (hne : cookieSuffix a.identity ≠ cookieSuffix b.identity) : ∀ name, b.Names name → ¬ a.Names name := by
  rintro name (⟨j, rfl⟩ | rfl) (⟨i, hname⟩ | hname)
  · obtain ⟨s, hs⟩ := chunkName_eq_append a i
    obtain ⟨t, ht⟩ := chunkName_eq_append b j
    rw [hs, ht] at hname
    exact hne (GoString.append_inj_left hlen (GoString.append_cancel hname).symm).1
  · obtain ⟨t, ht⟩ := chunkName_eq_append b j
    rw [ht] at hname
    exact auth_ne_state _ _ hname
  · obtain ⟨s, hs⟩ := chunkName_eq_append a i
    rw [hs] at hname
    exact auth_ne_state _ _ hname.symm
  · exact hne (GoString.append_cancel hname).symm

theorem disturbed_of_suffix_eq (h : cookieSuffix a.identity = cookieSuffix b.identity) : ¬ Undisturbed a b := by
  intro hundisturbed
  have hname : a.chunkName 0 = b.chunkName 0 := by
    rw [Codec.chunkName, Codec.chunkName, if_pos rfl, if_pos rfl, Codec.sessionCookie, Codec.sessionCookie, h]
  obtain ⟨jar, hcarries⟩ : ∃ jar, Carries (renamedRequest b) jar := by
    refine ⟨(∅ : Jar).insert (b.chunkName 0) (Base64.encodeToString (sampleNonce ++ sampleBox)), fun name => ?_⟩
    simp only [renamedRequest, plainRequest, Request.cookie, GoMap.get_insert, GoMap.get_empty]
    by_cases hb : b.chunkName 0 = name
    · simp [hb]
    · simp [hb]
  have hopen : b.openSession [aliceSealing.record b] 0 (renamedRequest b) = some aliceSession :=
    renamed_session_opens rfl (by decide)
  -- the first chunk of `b` is the one that `a` expires
  have hcleared : b.openSession [aliceSealing.record b] 0
      (visit (jar.receive (a.clearSession (renamedRequest b)))) = none :=
    Codec.openSession_cleared hname.symm (carries_visit _)
  have hsame := (hundisturbed jar [.clearSession (renamedRequest b)] (renamedRequest b)
    (visit (jar.receive (a.clearSession (renamedRequest b)))) hcarries (carries_visit _)
    [aliceSealing.record b] 0).1
  rw [hopen, hcleared] at hsame
  cases hsame

end

section
variable {sum256 : String → String}

theorem cookieSuffix_length {identity : String} (h : 8 < identity.toList.length) :
    (cookieSuffix identity).toList.length = 8 := by
  rw [cookieSuffix, if_pos h, String.toList_ofList, List.length_take]
  omega

theorem authIdentity_length (hsum : ∀ s, (sum256 s).toList.length = 64) (uids : List String) :
    (authIdentity sum256 uids).toList.length = 12 := by
  rw [authIdentity, String.toList_ofList, List.length_take, hsum]
  rfl

end

/-- Two extensions leave each other's cookies alone exactly if the first eight characters of their
identities differ. -/
theorem cookies_undisturbed_iff (sum256 : String → String) (hsum : ∀ s, (sum256 s).toList.length = 64)
    (uidsA uidsB : List String) (sessionA sessionB : AuthSession) :
    Undisturbed (newCodec sum256 (authIdentity sum256 uidsA) sessionA)
        (newCodec sum256 (authIdentity sum256 uidsB) sessionB) ↔
      (authIdentity sum256 uidsA).toList.take 8 ≠ (authIdentity sum256 uidsB).toList.take 8 := by
  have hlong : ∀ uids, 8 < (authIdentity sum256 uids).toList.length := by
    intro uids
    rw [authIdentity_length hsum]
    decide
  have hsuffix : ∀ uids, cookieSuffix (authIdentity sum256 uids) =
      String.ofList ((authIdentity sum256 uids).toList.take 8) := fun uids => if_pos (hlong uids)
  constructor
  · intro hundisturbed hsame
    refine disturbed_of_suffix_eq ?_ hundisturbed
    change cookieSuffix (authIdentity sum256 uidsA) = cookieSuffix (authIdentity sum256 uidsB)
    rw [hsuffix, hsuffix, hsame]
  · intro hne
    refine undisturbed_of_names (names_apart ?_ fun hsame => hne ?_)
    · exact (cookieSuffix_length (hlong uidsA)).trans (cookieSuffix_length (hlong uidsB)).symm
    · have hsame : cookieSuffix (authIdentity sum256 uidsA) = cookieSuffix (authIdentity sum256 uidsB) := hsame
      rw [hsuffix, hsuffix] at hsame
      exact String.ofList_injective hsame

def sampleDigest (s : String) : String :=
  if s = "f14ff18c-f07d-4521-a96f-a1f93d19bf8d\x00" then
    "0bc6d6279249b2d04501443e0cb6601a0fa68c8f74600a23b2bc0c3a57e3d265"
  else if s = "41ec7f08-252e-4d31-9152-5b0e1baa34a6\x00" then
    "0bc6d627c747b74bdefe91936468a3b7cb0f79e9978aec6dbcb9acf483d2f512"
  else "e3b0c44298fc1c149afbf4c8996fb92427ae41e4649b934ca495991b7852b855"

theorem sampleDigest_length (s : String) : (sampleDigest s).toList.length = 64 := by
  unfold sampleDigest
  split_ifs <;> decide

theorem distant_identities_undisturbed :
    authIdentity sampleDigest ["f14ff18c-f07d-4521-a96f-a1f93d19bf8d"] = "0bc6d6279249" ∧
      Undisturbed (newCodec sampleDigest (authIdentity sampleDigest ["f14ff18c-f07d-4521-a96f-a1f93d19bf8d"]) ⟨"a", 60000⟩)
        (newCodec sampleDigest (authIdentity sampleDigest []) ⟨"b", 60000⟩) :=
  ⟨by decide, (cookies_undisturbed_iff sampleDigest sampleDigest_length _ _ _ _).mpr (by decide)⟩

theorem close_identities_disturbed :
    authIdentity sampleDigest ["f14ff18c-f07d-4521-a96f-a1f93d19bf8d"] = "0bc6d6279249" ∧
      authIdentity sampleDigest ["41ec7f08-252e-4d31-9152-5b0e1baa34a6"] = "0bc6d627c747" ∧
      ¬ Undisturbed (newCodec sampleDigest "0bc6d6279249" ⟨"a", 60000⟩)
        (newCodec sampleDigest "0bc6d627c747" ⟨"b", 60000⟩) :=
  ⟨by decide, by decide, disturbed_of_suffix_eq (by decide)⟩

end Krouter.Auth
