import Krouter.Auth.SessionIsolation
import Krouter.Lib.Writes
import Mathlib.Data.List.Nodup

/-! Sessions in the cookie jar of a browser. A session is cut into chunks under numbered
names, and read back up to the first number that is missing. -/

namespace Krouter.Auth
open Http

/-! ## Jars -/

/-- The cookies a browser keeps for the host, by name; all of them have the path `/`. -/
abbrev Jar := GoMap String String

/-- A negative age is sent as `Max-Age=0`, which removes the cookie; age zero is not sent. -/
def Jar.receive (jar : Jar) (cookies : List SetCookie) : Jar :=
  jar.writeAll (cookies.map fun c => (c.name, if c.maxAge < 0 then none else some c.value))

def Carries (r : Request) (jar : Jar) : Prop := ∀ name, r.cookie name = jar[name]?

def visit (jar : Jar) : Request := plainRequest jar.toList

theorem carries_visit (jar : Jar) : Carries (visit jar) jar := by
  intro name
  unfold Request.cookie visit plainRequest
  cases hfind : jar.toList.find? fun c => c.1 = name with
  | none =>
    cases hget : jar[name]? with
    | none => rfl
    | some value =>
      have hnone := List.find?_eq_none.mp hfind (name, value) (GoMap.mem_toList.mpr hget)
      simp at hnone
  | some c =>
    obtain ⟨key, value⟩ := c
    have hkey := List.find?_some hfind
    simp only [decide_eq_true_eq] at hkey
    subst hkey
    exact (GoMap.mem_toList.mp (List.mem_of_find?_eq_some hfind)).symm

section
variable {jar : Jar} {cookies : List SetCookie} {r : Request}

theorem receive_of_notMem {name : String} (h : name ∉ cookies.map SetCookie.name) :
    (jar.receive cookies)[name]? = jar[name]? := by
  refine GoMap.get_writeAll_of_notMem jar ?_
  rw [List.map_map]
  exact h

theorem receive_of_mem (jar : Jar) {c : SetCookie} (hn : (cookies.map SetCookie.name).Nodup) (hc : c ∈ cookies) :
    (jar.receive cookies)[c.name]? = if c.maxAge < 0 then none else some c.value := by
  have hnames : ((cookies.map fun c => (c.name, if c.maxAge < 0 then none else some c.value)).map
      Prod.fst).Nodup := by
    rw [List.map_map]
    exact hn
  exact GoMap.get_writeAll_of_mem jar hnames (List.mem_map_of_mem hc)

end

/-! ## Names -/

namespace Codec
variable {c : Codec}

theorem chunkName_zero_ne (c : Codec) {index : Nat} (h : index ≠ 0) : c.chunkName 0 ≠ c.chunkName index := by
  intro heq
  rw [chunkName, chunkName, if_pos rfl, if_neg h] at heq
  have hlen := congrArg (fun s : String => s.toList.length) heq
  simp [String.toList_append] at hlen

theorem chunkName_injective (c : Codec) : Function.Injective c.chunkName := by
  intro i j h
  by_cases hi : i = 0
  · by_contra hne
    subst hi
    exact c.chunkName_zero_ne (Ne.symm hne) h
  · by_cases hj : j = 0
    · subst hj
      exact absurd h.symm (c.chunkName_zero_ne hi)
    · rw [chunkName, chunkName, if_neg hi, if_neg hj] at h
      have hdigits := String.ofList_injective (GoString.append_cancel h)
      exact_mod_cast Decimal.itoa_injective hdigits

end Codec

/-! ## Chunks -/

theorem join_chunkLoop (size n : Nat) (value : List Char) :
    String.join (chunkLoop size n value) = String.ofList value := by
  induction n generalizing value with
  | zero => simp [chunkLoop, String.join]
  | succ n ih =>
    rw [chunkLoop]
    split_ifs
    · rw [String.join_cons, ih, ← String.ofList_append, List.take_append_drop]
    · simp [String.join]

theorem join_chunk (value : String) (size : Nat) : String.join (chunk value size) = value := by
  rw [chunk, join_chunkLoop, String.ofList_toList]

theorem chunkLoop_ne_nil (size n : Nat) (value : List Char) : chunkLoop size n value ≠ [] := by
  cases n with
  | zero => exact List.cons_ne_nil _ _
  | succ n =>
    rw [chunkLoop]
    split_ifs
    · exact List.cons_ne_nil _ _
    · exact List.cons_ne_nil _ _

theorem length_chunkLoop_le {size k : Nat} (n : Nat) {value : List Char} (h : value.length ≤ size * (k + 1)) :
    (chunkLoop size n value).length ≤ k + 1 := by
  induction n generalizing value k with
  | zero => exact Nat.succ_le_succ (Nat.zero_le k)
  | succ n ih =>
    rw [chunkLoop]
    split_ifs with hlong
    · cases k with
      | zero =>
        rw [Nat.zero_add, Nat.mul_one] at h
        omega
      | succ k =>
        have hrest : (value.drop size).length ≤ size * (k + 1) := by
          rw [List.length_drop]
          have hsplit : size * (k + 1 + 1) = size * (k + 1) + size := Nat.mul_succ ..
          omega
        exact Nat.succ_le_succ (ih hrest)
    · exact Nat.succ_le_succ (Nat.zero_le k)

namespace Codec
variable {c : Codec} {jar : Jar} {r : Request}

theorem sessionParts_eq {n index : Nat} {parts : List String} (hlen : parts.length ≤ n)
    (hread : ∀ j < n, j ≤ parts.length → r.cookie (c.chunkName (index + j)) = parts[j]?) :
    c.sessionParts r n index = parts := by
  induction n generalizing index parts with
  | zero =>
    rw [List.length_eq_zero_iff.mp (Nat.le_zero.mp hlen)]
    rfl
  | succ n ih =>
    have hfirst := hread 0 (Nat.succ_pos n) (Nat.zero_le _)
    rw [Nat.add_zero] at hfirst
    cases parts with
    | nil =>
      rw [sessionParts, hfirst]
      rfl
    | cons part parts =>
      have hrest : c.sessionParts r n (index + 1) = parts := by
        refine ih (Nat.le_of_succ_le_succ hlen) fun j hj hle => ?_
        have hnext := hread (j + 1) (Nat.succ_lt_succ hj) (Nat.succ_le_succ hle)
        rw [List.getElem?_cons_succ] at hnext
        rw [Nat.add_assoc, Nat.add_comm 1 j]
        exact hnext
      rw [sessionParts, hfirst]
      exact congrArg (part :: ·) hrest

def sealedCookies (c : Codec) (r : Request) (chunks : List String) : List SetCookie :=
  (chunks.mapIdx fun index part => c.cookie r (c.chunkName index) part c.lifetime) ++
    c.staleCookies r chunks.length

theorem sealedCookies_names (chunks : List String) :
    (c.sealedCookies r chunks).map SetCookie.name =
      (List.range chunks.length ++ (List.range maxCookieChunks).filter fun index =>
        chunks.length ≤ index ∧ (r.cookie (c.chunkName index)).isSome).map c.chunkName := by
  have hchunks : (chunks.mapIdx fun index part => c.cookie r (c.chunkName index) part c.lifetime).map
      SetCookie.name = (List.range chunks.length).map c.chunkName := by
    refine List.ext_getElem? fun i => ?_
    by_cases hi : i < chunks.length
    · simp [hi, cookie]
    · simp [hi]
  rw [sealedCookies, List.map_append, hchunks, staleCookies, List.map_map, List.map_append]
  rfl

theorem sealedCookies_nodup (chunks : List String) :
    ((c.sealedCookies r chunks).map SetCookie.name).Nodup := by
  rw [sealedCookies_names]
  refine List.Nodup.map c.chunkName_injective (List.Nodup.append List.nodup_range
    (List.nodup_range.filter _) ?_)
  intro i hi hstale
  have hlt := List.mem_range.mp hi
  have hle := (List.mem_filter.mp hstale).2
  simp only [decide_eq_true_eq] at hle
  omega

theorem receive_sealedCookies (hlife : 0 ≤ c.lifetime.toInt) (hr : Carries r jar) {chunks : List String}
    {index : Nat} (hindex : index < maxCookieChunks) :
    (jar.receive (c.sealedCookies r chunks))[c.chunkName index]? = chunks[index]? := by
  by_cases hnew : index < chunks.length
  · have hmem : c.cookie r (c.chunkName index) chunks[index] c.lifetime ∈ c.sealedCookies r chunks := by
      refine List.mem_append_left _ (List.mem_iff_getElem?.mpr ⟨index, ?_⟩)
      rw [List.getElem?_mapIdx, List.getElem?_eq_getElem hnew]
      rfl
    have hage : ¬ (c.cookie r (c.chunkName index) chunks[index] c.lifetime).maxAge < 0 :=
      Int.not_lt.mpr (Int.tdiv_nonneg hlife (by decide))
    have hget := receive_of_mem jar (sealedCookies_nodup chunks) hmem
    rw [if_neg hage] at hget
    rw [List.getElem?_eq_getElem hnew]
    exact hget
  · rw [List.getElem?_eq_none (Nat.le_of_not_lt hnew)]
    by_cases hold : (r.cookie (c.chunkName index)).isSome = true
    · -- a chunk of an earlier session is expired
      have hmem : c.expiredCookie r (c.chunkName index) ∈ c.sealedCookies r chunks := by
        refine List.mem_append_right _ (List.mem_map.mpr ⟨index, List.mem_filter.mpr ?_, rfl⟩)
        exact ⟨List.mem_range.mpr hindex, decide_eq_true ⟨Nat.le_of_not_lt hnew, hold⟩⟩
      have hget := receive_of_mem jar (sealedCookies_nodup chunks) hmem
      have hage : (c.expiredCookie r (c.chunkName index)).maxAge < 0 := Int.negSucc_lt_zero 0
      rw [if_pos hage] at hget
      exact hget
    · have hnone : jar[c.chunkName index]? = none := by
        rw [← hr, ← Option.not_isSome_iff_eq_none]
        exact hold
      rw [receive_of_notMem, hnone]
      rw [sealedCookies_names, List.mem_map]
      rintro ⟨i, hi, hname⟩
      obtain rfl := c.chunkName_injective hname
      rcases List.mem_append.mp hi with hi | hi
      · exact hnew (List.mem_range.mp hi)
      · have hstale := (List.mem_filter.mp hi).2
        simp only [decide_eq_true_eq] at hstale
        exact hold hstale.2

/-! ## Sessions -/

def sealedValue (nonce box : List UInt8) : String := Base64.encodeToString (nonce ++ box)

def FitsBudget (value : String) : Prop := value.toList.length ≤ cookieChunkSize * maxCookieChunks

theorem sealSession_of_fits {session : Session} {nonce box : List UInt8} (h : FitsBudget (sealedValue nonce box)) :
    (c.sealSession r session nonce box).2 =
      .ok (c.sealedCookies r (chunk (sealedValue nonce box) cookieChunkSize)) := by
  have hbudget : ¬ cookieChunkSize * maxCookieChunks < (sealedValue nonce box).toList.length := Nat.not_lt.mpr h
  unfold sealSession sealValue
  exact congrArg Prod.snd (if_neg hbudget)

theorem sealSession_of_not_fits {session : Session} {nonce box : List UInt8}
    (h : ¬ FitsBudget (sealedValue nonce box)) :
    ∃ err, (c.sealSession r session nonce box).2 = .error err := by
  have hbudget : cookieChunkSize * maxCookieChunks < (sealedValue nonce box).toList.length := Nat.not_le.mp h
  unfold sealSession sealValue
  exact ⟨_, congrArg Prod.snd (if_pos hbudget)⟩

theorem sessionParts_sealed (hlife : 0 ≤ c.lifetime.toInt) (hr : Carries r jar) {value : String}
    (hfits : FitsBudget value) {next : Request}
    (hnext : Carries next (jar.receive (c.sealedCookies r (chunk value cookieChunkSize)))) :
    c.sessionParts next maxCookieChunks 0 = chunk value cookieChunkSize := by
  refine sessionParts_eq (length_chunkLoop_le _ hfits) fun j hj _ => ?_
  rw [Nat.zero_add, hnext, receive_sealedCookies hlife hr hj]

theorem clearSession_nodup : ((c.clearSession r).map SetCookie.name).Nodup := by
  have hnames : (c.clearSession r).map SetCookie.name =
      (0 :: (List.range maxCookieChunks).filter fun index =>
        1 ≤ index ∧ (r.cookie (c.chunkName index)).isSome).map c.chunkName := by
    rw [clearSession, List.map_cons, List.map_cons, staleCookies, List.map_map]
    rfl
  rw [hnames]
  refine List.Nodup.map c.chunkName_injective (List.nodup_cons.mpr ⟨fun hmem => ?_, List.nodup_range.filter _⟩)
  have hpos := (List.mem_filter.mp hmem).2
  simp at hpos

theorem openSession_cleared {d : Codec} (hname : d.chunkName 0 = c.chunkName 0) {log : List SealRecord}
    {now : Int64} {next : Request} (hnext : Carries next (jar.receive (c.clearSession r))) :
    d.openSession log now next = none := by
  have hage : (c.expiredCookie r (c.chunkName 0)).maxAge < 0 := Int.negSucc_lt_zero 0
  have hgone : (jar.receive (c.clearSession r))[c.chunkName 0]? = none := by
    have hget := receive_of_mem jar (clearSession_nodup (c := c) (r := r)) (.head _)
    rw [if_pos hage] at hget
    exact hget
  have hparts : d.sessionParts next maxCookieChunks 0 = [] := by
    refine sessionParts_eq (Nat.zero_le _) fun j _ hle => ?_
    rw [Nat.le_zero.mp hle, Nat.zero_add, hnext, hname, hgone]
    rfl
  unfold openSession
  rw [hparts, if_pos rfl]

end Codec

/-- A session that fits is read back from the jar that received its cookies, whatever it had before;
one that does not is refused; and after a logout the jar has no session. -/
theorem session_round_trip (c : Codec) (hlife : 0 ≤ c.lifetime.toInt) (jar : Jar) (r : Request)
    (hr : Carries r jar) :
    (∀ session nonce box, nonce.length = nonceSize → Codec.FitsBudget (Codec.sealedValue nonce box) →
      ∃ cookies, (c.sealSession r session nonce box).2 = .ok cookies ∧
        ∀ log now next, Functional log → (c.sealSession r session nonce box).1 ∈ log →
          now < session.expiresAt → Carries next (jar.receive cookies) →
          c.openSession log now next = some session) ∧
    (∀ session nonce box, ¬ Codec.FitsBudget (Codec.sealedValue nonce box) →
      (∃ err, (c.sealSession r session nonce box).2 = .error err) ∧
        jar.receive ((Sealing.session r session nonce box).issued c) = jar) ∧
    ∀ log now next, Carries next (jar.receive (c.clearSession r)) → c.openSession log now next = none := by
  refine ⟨fun session nonce box hnonce hfits => ?_, fun session nonce box hlarge => ?_,
    fun log now next => Codec.openSession_cleared rfl⟩
  · refine ⟨_, Codec.sealSession_of_fits hfits, fun log now next hlog hmem hnow hnext => ?_⟩
    rw [Codec.sealSession_record] at hmem
    refine Codec.openSession_of_parts (Codec.sessionParts_sealed hlife hr hfits hnext)
      (chunkLoop_ne_nil _ _ _) ?_ (Int64.not_le.mpr hnow)
    rw [join_chunk]
    exact Codec.openValue_of_mem hlog hmem hnonce
  · obtain ⟨err, herr⟩ : ∃ err, (c.sealSession r session nonce box).2 = .error err :=
      Codec.sealSession_of_not_fits hlarge
    refine ⟨⟨err, herr⟩, ?_⟩
    rw [Sealing.issued, herr]
    rfl

def sampleCodec : Codec := ⟨"key", "aaaaaaaaaaaa", 3600000000000⟩

def leftoverJar : Jar := GoMap.setAll ∅ [(sampleCodec.chunkName 1, "left"), (sampleCodec.chunkName 2, "over")]

theorem alice_survives_leftovers :
    ∃ cookies, (sampleCodec.sealSession (visit leftoverJar) aliceSession sampleNonce sampleBox).2 = .ok cookies ∧
      sampleCodec.openSession [(sampleCodec.sealSession (visit leftoverJar) aliceSession sampleNonce sampleBox).1]
        0 (visit (leftoverJar.receive cookies)) = some aliceSession := by
  have hfits : Codec.FitsBudget (Codec.sealedValue sampleNonce sampleBox) :=
    Nat.le_trans sample_value_length (by decide)
  obtain ⟨cookies, hok, hopen⟩ := (session_round_trip sampleCodec (by decide) leftoverJar (visit leftoverJar)
    (carries_visit _)).1 aliceSession sampleNonce sampleBox rfl hfits
  exact ⟨cookies, hok, hopen _ 0 _ (functional_singleton _) (List.mem_singleton_self _) (by decide)
    (carries_visit _)⟩

end Krouter.Auth
