import Krouter.Auth.Enforcer
import Krouter.Lib.BigEndian
import Krouter.Lib.Runs

/-! The signing keys of bearer tokens, fetched and cached: refreshed after a while, and when a token
names a key that is not there. -/

namespace Krouter.Auth

/-! ## Keys -/

inductive Curve where
  | p256
  | p384
  | p521
  deriving DecidableEq

def Curve.size : Curve → Nat
  | .p256 => 32
  | .p384 => 48
  | .p521 => 66

inductive PublicKey where
  | rsa (n : Nat) (e : Int64)
  | ecdsa (curve : Curve) (x y : Nat)
  deriving DecidableEq

structure Jwk where
  kty : String
  kid : String
  use : String
  n : String
  e : String
  crv : String
  x : String
  y : String

def curveFor (name : String) : Option Curve :=
  if name = "P-256" then some .p256
  else if name = "P-384" then some .p384
  else if name = "P-521" then some .p521
  else none

def bigInt (bytes : List UInt8) : Nat := BigEndian.ofBytes bytes

def parseJWK (key : Jwk) : Option PublicKey :=
  if key.kty = "RSA" then do
    let n ← Base64.decodeString key.n
    let e ← Base64.decodeString key.e
    return .rsa (bigInt n) (Int64.ofNat (bigInt e))
  else if key.kty = "EC" then do
    let curve ← curveFor key.crv
    let x ← Base64.decodeString key.x
    let y ← Base64.decodeString key.y
    return .ecdsa curve (bigInt x) (bigInt y)
  else none

abbrev KeySet := GoMap String (List PublicKey)

def keySet (document : List Jwk) : KeySet :=
  document.foldl (fun keys key =>
    if key.use ≠ "" ∧ key.use ≠ "sig" then keys
    else
      match parseJWK key with
      | none => keys
      | some parsed => keys.insert key.kid (keys.read key.kid [] ++ [parsed])) ∅

/-! ## The cache -/

def jwksTTL : Int := 600000000000

def jwksMissBackoff : Int := 30000000000

/-- What changes in a validator. The times are those of the last success and of the last key
that was missing. -/
structure Validator where
  keys : Option KeySet
  fetchedAt : Option Int
  missedAt : Option Int

def newJWTValidator : Validator := ⟨none, none, none⟩

/-- `time.Since` against a limit; the zero time is longer ago than any. -/
def olderThan (limit now : Int) (since : Option Int) : Bool := since.all fun t => limit < now - t

structure Fetch where
  document : Option (List Jwk)
  took : Nat

def Fetch.keys (f : Fetch) : Option KeySet :=
  f.document.bind fun document => if (keySet document).isEmpty then none else some (keySet document)

def fetchLocked (now : Int) (f : Fetch) (v : Validator) : Option Validator :=
  f.keys.map fun keys => { v with keys := some keys, fetchedAt := some (now + f.took) }

/-- A token without an identifier may be signed with any of the keys. -/
def lookupLocked (v : Validator) (kid : String) : List PublicKey :=
  let keys := v.keys.getD ∅
  if kid ≠ "" then keys.read kid [] else keys.toList.flatMap Prod.snd

/-- A call has the lock from this time on; the two fetches are what it gets if it makes them. -/
structure Call where
  kid : String
  start : Int
  first : Fetch
  second : Fetch

inductive Trigger where
  | refresh
  | miss
  deriving DecidableEq

structure FetchAttempt where
  trigger : Trigger
  time : Int
  deriving DecidableEq

structure Looked where
  validator : Validator
  attempts : List FetchAttempt
  done : Int
  keys : Except CredentialError (List PublicKey)

/-- The second half of `keysFor`: the key is there, or it is fetched at most once in a while. -/
def lookupOrMiss (c : Call) (now : Int) (v : Validator) : Looked :=
  if lookupLocked v c.kid ≠ [] then ⟨v, [], now, .ok (lookupLocked v c.kid)⟩
  else if olderThan jwksMissBackoff now v.missedAt then
    let v := { v with missedAt := some now }
    match fetchLocked now c.second v with
    | none => ⟨v, [⟨.miss, now⟩], now + c.second.took, .error .unavailable⟩
    | some v => ⟨v, [⟨.miss, now⟩], now + c.second.took,
        if lookupLocked v c.kid ≠ [] then .ok (lookupLocked v c.kid) else .error .rejected⟩
  else ⟨v, [], now, .error .rejected⟩

def Validator.stale (v : Validator) (now : Int) : Bool := v.keys.isNone || olderThan jwksTTL now v.fetchedAt

def keysFor (c : Call) (v : Validator) : Looked :=
  if v.stale c.start then
    match fetchLocked c.start c.first v with
    | none => ⟨v, [⟨.refresh, c.start⟩], c.start + c.first.took, .error .unavailable⟩
    | some v =>
      let looked := lookupOrMiss c (c.start + c.first.took) v
      { looked with attempts := ⟨.refresh, c.start⟩ :: looked.attempts }
  else lookupOrMiss c c.start v

/-! ## Runs of calls -/

structure CallRun where
  validator : Validator
  clock : Int
  attempts : List FetchAttempt

def CallRun.start (clock : Int) : CallRun := ⟨newJWTValidator, clock, []⟩

def CallRun.step (s : CallRun) (c : Call) : Option CallRun :=
  if s.clock ≤ c.start then
    let looked := keysFor c s.validator
    some ⟨looked.validator, looked.done, s.attempts ++ looked.attempts⟩
  else none

def CallRun.attemptsIn (s : CallRun) (a length : Int) : Nat :=
  s.attempts.countP fun f => a ≤ f.time ∧ f.time < a + length

/-! ## Pace -/

def Spaced (trigger : Trigger) (gap : Int) (attempts : List FetchAttempt) : Prop :=
  (attempts.filter fun f => f.trigger = trigger).Pairwise fun f g => f.time + gap < g.time

section
variable {trigger : Trigger} {gap : Int} {attempts : List FetchAttempt} {f : FetchAttempt}

theorem Spaced.append_other (h : Spaced trigger gap attempts) (hf : f.trigger ≠ trigger) :
    Spaced trigger gap (attempts ++ [f]) := by
  rw [Spaced, List.filter_append, List.filter_cons_of_neg (by simpa using hf), List.filter_nil, List.append_nil]
  exact h

theorem Spaced.append (h : Spaced trigger gap attempts) (hf : f.trigger = trigger)
    (hlater : ∀ g ∈ attempts, g.trigger = trigger → g.time + gap < f.time) :
    Spaced trigger gap (attempts ++ [f]) := by
  rw [Spaced, List.filter_append, List.filter_cons_of_pos (by simpa using hf), List.filter_nil, List.pairwise_append]
  refine ⟨h, List.pairwise_singleton _ _, fun g hg f' hf' => ?_⟩
  rw [List.mem_singleton.mp hf']
  obtain ⟨hmem, htrigger⟩ := List.mem_filter.mp hg
  exact hlater g hmem (of_decide_eq_true htrigger)

theorem Spaced.count_le_one (h : Spaced trigger gap attempts) (a : Int) {length : Int} (hlength : length ≤ gap) :
    attempts.countP (fun f => f.trigger = trigger ∧ a ≤ f.time ∧ f.time < a + length) ≤ 1 := by
  have hcount : attempts.countP (fun f => f.trigger = trigger ∧ a ≤ f.time ∧ f.time < a + length) =
      (attempts.filter fun f => f.trigger = trigger).countP fun f => a ≤ f.time ∧ f.time < a + length := by
    rw [List.countP_filter]
    exact List.countP_congr fun f _ => by simp [and_comm]
  rw [hcount]
  rw [Spaced] at h
  generalize attempts.filter (fun f => f.trigger = trigger) = fs at h
  induction fs with
  | nil => simp
  | cons g fs ih =>
    obtain ⟨hfirst, hrest⟩ := List.pairwise_cons.mp h
    rw [List.countP_cons]
    split_ifs with hg
    · have hnone : fs.countP (fun f => a ≤ f.time ∧ f.time < a + length) = 0 := by
        rw [List.countP_eq_zero]
        intro f hf hin
        have hgap := hfirst f hf
        simp only [decide_eq_true_eq] at hg hin
        omega
      omega
    · exact ih hrest

end

/-- While every refresh succeeds: how far apart the attempts are, and what the validator remembers
of the last ones. -/
structure Paced (s : CallRun) : Prop where
  refreshes : Spaced .refresh jwksTTL s.attempts
  misses : Spaced .miss jwksMissBackoff s.attempts
  refreshed : ∀ f ∈ s.attempts, f.trigger = .refresh →
    s.validator.keys.isSome = true ∧ ∃ t, s.validator.fetchedAt = some t ∧ f.time ≤ t
  missed : ∀ f ∈ s.attempts, f.trigger = .miss → ∃ t, s.validator.missedAt = some t ∧ f.time ≤ t
  fetched_le : ∀ t, s.validator.fetchedAt = some t → t ≤ s.clock

theorem paced_start (clock : Int) : Paced (CallRun.start clock) where
  refreshes := .nil
  misses := .nil
  refreshed := fun f hf => by cases hf
  missed := fun f hf => by cases hf
  fetched_le := fun t ht => by cases ht

theorem fetchLocked_some {now : Int} {f : Fetch} {v v' : Validator} (h : fetchLocked now f v = some v') :
    v'.keys.isSome = true ∧ v'.fetchedAt = some (now + f.took) ∧ v'.missedAt = v.missedAt := by
  obtain ⟨keys, -, rfl⟩ := Option.map_eq_some_iff.mp h
  exact ⟨rfl, rfl, rfl⟩

theorem olderThan_some {limit now t : Int} (h : olderThan limit now (some t) = true) : t + limit < now := by
  rw [olderThan, Option.all_some, decide_eq_true_eq] at h
  omega

section
variable {s : CallRun} {now : Int} {f : Fetch} {v : Validator}

theorem Paced.later (h : Paced s) (hnow : s.clock ≤ now) : Paced { s with clock := now } :=
  ⟨h.refreshes, h.misses, h.refreshed, h.missed, fun t ht => Int.le_trans (h.fetched_le t ht) hnow⟩

theorem Paced.refresh_later (h : Paced s) (hstale : s.validator.stale now = true) :
    ∀ g ∈ s.attempts, g.trigger = .refresh → g.time + jwksTTL < now := by
  intro g hg htrigger
  obtain ⟨hsome, t, ht, hle⟩ := h.refreshed g hg htrigger
  have hnone : s.validator.keys.isNone = false := by
    obtain ⟨keys, hkeys⟩ := Option.isSome_iff_exists.mp hsome
    rw [hkeys]
    rfl
  rw [Validator.stale, hnone, Bool.false_or, ht] at hstale
  have hold := olderThan_some hstale
  omega

theorem Paced.refresh (h : Paced s) (hnow : s.clock ≤ now) (hstale : s.validator.stale now = true)
    (hfetch : fetchLocked now f s.validator = some v) :
    Paced ⟨v, now + f.took, s.attempts ++ [⟨.refresh, now⟩]⟩ := by
  obtain ⟨hkeys, hfetched, hmissed⟩ := fetchLocked_some hfetch
  refine ⟨h.refreshes.append rfl (h.refresh_later hstale), h.misses.append_other (fun he => by cases he),
    fun g hg htrigger => ⟨hkeys, now + f.took, hfetched, ?_⟩, fun g hg htrigger => ?_, fun t ht => ?_⟩
  · rcases List.mem_append.mp hg with hg | hg
    · obtain ⟨-, t, ht, hle⟩ := h.refreshed g hg htrigger
      have hclock := h.fetched_le t ht
      omega
    · rw [List.mem_singleton.mp hg]
      dsimp only
      omega
  · rcases List.mem_append.mp hg with hg | hg
    · rw [hmissed]
      exact h.missed g hg htrigger
    · rw [List.mem_singleton.mp hg] at htrigger
      cases htrigger
  · rw [hfetched] at ht
    exact Int.le_of_eq (Option.some.inj ht).symm

theorem Paced.miss (h : Paced s) (hnow : s.clock ≤ now)
    (hold : olderThan jwksMissBackoff now s.validator.missedAt = true) (took : Nat)
    (hmissed : v.missedAt = some now)
    (hkept : (v.keys = s.validator.keys ∧ v.fetchedAt = s.validator.fetchedAt) ∨
      (v.keys.isSome = true ∧ v.fetchedAt = some (now + took))) :
    Paced ⟨v, now + took, s.attempts ++ [⟨.miss, now⟩]⟩ := by
  have hlater : ∀ g ∈ s.attempts, g.trigger = .miss → g.time + jwksMissBackoff < now := by
    intro g hg htrigger
    obtain ⟨t, ht, hle⟩ := h.missed g hg htrigger
    rw [ht] at hold
    have hgap := olderThan_some hold
    omega
  refine ⟨h.refreshes.append_other (fun he => by cases he), h.misses.append rfl hlater,
    fun g hg htrigger => ?_, fun g hg htrigger => ⟨now, hmissed, ?_⟩, fun t ht => ?_⟩
  · rcases List.mem_append.mp hg with hg | hg
    · obtain ⟨hsome, t, ht, hle⟩ := h.refreshed g hg htrigger
      rcases hkept with ⟨hkeys, hfetched⟩ | ⟨hkeys, hfetched⟩
      · rw [hkeys, hfetched]
        exact ⟨hsome, t, ht, hle⟩
      · have hclock := h.fetched_le t ht
        exact ⟨hkeys, now + took, hfetched, by omega⟩
    · rw [List.mem_singleton.mp hg] at htrigger
      cases htrigger
  · rcases List.mem_append.mp hg with hg | hg
    · have hgap := hlater g hg htrigger
      rw [jwksMissBackoff] at hgap
      omega
    · have htime : g.time = now := congrArg FetchAttempt.time (List.mem_singleton.mp hg)
      exact Int.le_of_eq htime
  · rcases hkept with ⟨-, hfetched⟩ | ⟨-, hfetched⟩
    · rw [hfetched] at ht
      have hclock := h.fetched_le t ht
      dsimp only
      omega
    · rw [hfetched] at ht
      exact Int.le_of_eq (Option.some.inj ht).symm

theorem Paced.lookupOrMiss (h : Paced s) (hnow : s.clock ≤ now) (c : Call) :
    Paced ⟨(lookupOrMiss c now s.validator).validator, (lookupOrMiss c now s.validator).done,
      s.attempts ++ (lookupOrMiss c now s.validator).attempts⟩ := by
  rw [Auth.lookupOrMiss]
  split_ifs with hfound hold
  · rw [List.append_nil]
    exact h.later hnow
  · dsimp only
    cases hfetch : fetchLocked now c.second { s.validator with missedAt := some now } with
    | none => exact h.miss hnow hold c.second.took rfl (.inl ⟨rfl, rfl⟩)
    | some v =>
      obtain ⟨hkeys, hfetched, hmissed⟩ := fetchLocked_some hfetch
      exact h.miss hnow hold c.second.took hmissed (.inr ⟨hkeys, hfetched⟩)
  · rw [List.append_nil]
    exact h.later hnow

end

def RefreshSucceeds (s : CallRun) (c : Call) : Prop :=
  s.validator.stale c.start = true → c.first.keys.isSome = true

instance (s : CallRun) (c : Call) : Decidable (RefreshSucceeds s c) := by
  unfold RefreshSucceeds
  infer_instance

theorem Paced.step {s s' : CallRun} {c : Call} (h : Paced s) (hmeets : RefreshSucceeds s c)
    (hstep : s.step c = some s') : Paced s' := by
  rw [CallRun.step] at hstep
  split_ifs at hstep with hnow
  cases hstep
  rw [keysFor]
  split_ifs with hstale
  · obtain ⟨keys, hkeys⟩ := Option.isSome_iff_exists.mp (hmeets hstale)
    have hfetch : fetchLocked c.start c.first s.validator =
        some { s.validator with keys := some keys, fetchedAt := some (c.start + c.first.took) } := by
      rw [fetchLocked, hkeys, Option.map_some]
    have hrefreshed := h.refresh hnow hstale hfetch
    rw [hfetch]
    have hlooked := hrefreshed.lookupOrMiss (Int.le_refl _) c
    rw [List.append_assoc] at hlooked
    exact hlooked
  · exact h.lookupOrMiss hnow c

theorem countP_trigger (p : FetchAttempt → Prop) [DecidablePred p] (attempts : List FetchAttempt) :
    attempts.countP (fun f => p f) = attempts.countP (fun f => f.trigger = .refresh ∧ p f) +
      attempts.countP (fun f => f.trigger = .miss ∧ p f) := by
  induction attempts with
  | nil => rfl
  | cons f attempts ih =>
    rw [List.countP_cons, List.countP_cons, List.countP_cons, ih]
    cases hf : f.trigger with
    | refresh => simp [Nat.add_right_comm]
    | miss => simp [Nat.add_assoc]

/-- In every run whose refreshes succeed, an interval as long as the backoff holds at most two
fetches, one for a refresh and one for a missing key. -/
theorem fetches_in_backoff_le (clock : Int) (calls : List Call) (s : CallRun)
    (hrun : Runs CallRun.step RefreshSucceeds (CallRun.start clock) calls s) (a : Int) :
    s.attemptsIn a jwksMissBackoff ≤ 2 := by
  have hpaced := hrun.invariant Paced (fun _ _ _ h hmeets hstep => h.step hmeets hstep) (paced_start clock)
  have hrefresh := hpaced.refreshes.count_le_one a (by decide : jwksMissBackoff ≤ jwksTTL)
  have hmiss := hpaced.misses.count_le_one a (Int.le_refl jwksMissBackoff)
  have hsplit := countP_trigger (fun f => a ≤ f.time ∧ f.time < a + jwksMissBackoff) s.attempts
  rw [CallRun.attemptsIn]
  omega

/-! ## Calls within three seconds -/

def sampleJwk : Jwk := ⟨"RSA", "current", "sig", "AQAB", "AQAB", "", "", ""⟩

def fetched : Fetch := ⟨some [sampleJwk], 0⟩

def unanswered : Fetch := ⟨none, 0⟩

def threeCalls (f : Fetch) : List Call :=
  [⟨"a", 0, f, f⟩, ⟨"b", 1000000000, f, f⟩, ⟨"c", 2000000000, f, f⟩]

theorem unknown_keys_fetched_twice :
    ∃ s, Runs CallRun.step RefreshSucceeds (CallRun.start 0) (threeCalls fetched) s ∧
      s.attempts = [⟨.refresh, 0⟩, ⟨.miss, 0⟩] ∧ s.attemptsIn 0 jwksMissBackoff ≤ 2 := by
  have hattempts : (Runs.exec CallRun.step RefreshSucceeds (CallRun.start 0) (threeCalls fetched)).map
      CallRun.attempts = some [⟨.refresh, 0⟩, ⟨.miss, 0⟩] := by
    decide
  obtain ⟨s, hs, hlist⟩ := Option.map_eq_some_iff.mp hattempts
  have hrun := Runs.of_exec hs
  exact ⟨s, hrun, hlist, fetches_in_backoff_le 0 (threeCalls fetched) s hrun 0⟩

theorem failing_provider_fetched_thrice :
    ∃ s, Runs CallRun.step (fun _ _ => True) (CallRun.start 0) (threeCalls unanswered) s ∧
      s.attemptsIn 0 jwksMissBackoff = 3 := by
  have hcount : (Runs.exec CallRun.step (fun _ _ => True) (CallRun.start 0) (threeCalls unanswered)).map
      (fun s => s.attemptsIn 0 jwksMissBackoff) = some 3 := by
    decide
  obtain ⟨s, hs, hthree⟩ := Option.map_eq_some_iff.mp hcount
  exact ⟨s, Runs.of_exec hs, hthree⟩

end Krouter.Auth
