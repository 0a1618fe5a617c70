import Krouter.Extensions.Limiter
import Krouter.Lib.Runs

/-! Concurrent calls on a limiter. A call reads the clock and then waits for the lock; an admission counts
at the time its call read. -/

namespace Krouter.RateLimiting
open Compiled

structure Served where
  key : String
  now : Int
  allowed : Bool
  deriving DecidableEq

structure System where
  /-- The latest reading of the clock, which never goes back. -/
  clock : Int
  /-- The calls waiting for the lock: their keys and what they read. -/
  waiting : List (String × Int)
  limiter : Limiter
  /-- The calls served, in the order of the lock. -/
  served : List Served
  deriving DecidableEq

inductive Event where
  | read (key : String) (now : Int)
  /-- The lock goes to one of the waiting calls, whichever. -/
  | enter (i : Nat)
  deriving DecidableEq

def System.start (clock : Int) : System := ⟨clock, [], newLimiter, []⟩

def System.serve (config : RateLimit) (s : System) (i : Nat) (key : String) (now : Int) : System where
  clock := s.clock
  waiting := s.waiting.eraseIdx i
  limiter := (allow config now key s.limiter).2
  served := s.served ++ [⟨key, now, (allow config now key s.limiter).1.1⟩]

def System.step (config : RateLimit) (s : System) : Event → Option System
  | .read key now =>
    if s.clock ≤ now then some { s with clock := now, waiting := s.waiting ++ [(key, now)] } else none
  | .enter i => s.waiting[i]?.map fun c => s.serve config i c.1 c.2

def System.allowed (s : System) (key : String) (a t : Int) : ℕ :=
  s.served.countP fun c => c.key = key ∧ c.allowed ∧ a ≤ c.now ∧ c.now ≤ t

/-- The sweep, if this is a call that sweeps, leaves the bucket of the key. -/
def Unswept (config : RateLimit) (key : String) (s : System) : Event → Prop
  | .read _ _ => True
  | .enter i => ∀ c ∈ s.waiting[i]?,
      (reclaimed (sweep config) c.2 s.limiter)[key]? = s.limiter.buckets[key]?

/-- A call on the key does not get the lock with a timestamp before that of the call on the
key that had it last. -/
def InOrder (key : String) (s : System) : Event → Prop
  | .read _ _ => True
  | .enter i => ∀ c ∈ s.waiting[i]?, c.1 = key →
      ∀ entry ∈ s.limiter.buckets[key]?, entry.last ≤ c.2

instance (config : RateLimit) (key : String) (s : System) :
    ∀ e, Decidable (Unswept config key s e)
  | .read _ _ => isTrue trivial
  | .enter i => inferInstanceAs (Decidable (∀ c ∈ s.waiting[i]?, _ = _))

instance (key : String) (s : System) : ∀ e, Decidable (InOrder key s e)
  | .read _ _ => isTrue trivial
  | .enter i => inferInstanceAs (Decidable (∀ c ∈ s.waiting[i]?, c.1 = key →
      ∀ entry ∈ s.limiter.buckets[key]?, entry.last ≤ c.2))

theorem System.step_cases {config : RateLimit} {s s' : System} {e : Event}
    (h : s.step config e = some s') :
    (∃ key now, e = .read key now ∧
      s' = { s with clock := now, waiting := s.waiting ++ [(key, now)] }) ∨
    ∃ i key now, e = .enter i ∧ (key, now) ∈ s.waiting[i]? ∧ s' = s.serve config i key now := by
  cases e with
  | read key now =>
    rw [System.step] at h
    split at h
    · exact .inl ⟨key, now, rfl, (Option.some.inj h).symm⟩
    · cases h
  | enter i =>
    obtain ⟨⟨key, now⟩, hc, hs⟩ := Option.map_eq_some_iff.mp h
    exact .inr ⟨i, key, now, rfl, hc, hs.symm⟩

section
variable {config : RateLimit} {key : String} {s s' : System} {e : Event}

def System.callsOn (key : String) (s : System) : List (ℚ × Bool) :=
  (s.served.filter fun c => c.key = key).map fun c => ((c.now : ℚ), c.allowed)

theorem System.allowed_eq (s : System) (key : String) (a t : Int) :
    s.allowed key a t = TokenBucket.admitted (s.callsOn key) a t := by
  rw [TokenBucket.admitted, System.callsOn, List.countP_map, List.countP_filter, System.allowed]
  refine List.countP_congr fun c _ => ?_
  simp only [Function.comp_apply, Int.cast_le, decide_eq_true_eq, Bool.and_eq_true]
  tauto

/-- The bucket of the key accounts for the calls on the key; without one there were none. -/
def Accounted (config : RateLimit) (key : String) (s : System) : Prop :=
  match s.limiter.buckets[key]? with
  | none => s.callsOn key = []
  | some entry => TokenBucket.Account (burst config) (rate config) (s.callsOn key) entry.tokens
      entry.last ∧ 0 ≤ entry.tokens ∧ entry.tokens ≤ burst config

theorem account_next (hb : 0 ≤ burst config) (hr : 0 ≤ rate config) {calls : List (ℚ × Bool)}
    {entry : Bucket} {now : Int}
    (h : TokenBucket.Account (burst config) (rate config) calls entry.tokens entry.last)
    (hnonneg : 0 ≤ entry.tokens) (hle : entry.tokens ≤ burst config) (hnow : entry.last ≤ now) :
    TokenBucket.Account (burst config) (rate config)
        (calls ++ [((now : ℚ), (Bucket.next config now (some entry)).1.1)])
        (Bucket.next config now (some entry)).2.tokens (Bucket.next config now (some entry)).2.last ∧
      0 ≤ (Bucket.next config now (some entry)).2.tokens ∧
      (Bucket.next config now (some entry)).2.tokens ≤ burst config := by
  have hgain : 0 ≤ gain config now entry :=
    mul_nonneg (Int.cast_nonneg (sub_nonneg_of_le hnow)) hr
  have hearned : gain config now entry ≤ rate config * ((now : ℚ) - entry.last) := by
    have helapsed : (sub now entry.last : ℚ) ≤ (now : ℚ) - entry.last := by
      exact_mod_cast sub_le_of_le hnow
    rw [gain, mul_comm]
    exact mul_le_mul_of_nonneg_left helapsed hr
  rw [Bucket.next_last, Bucket.next_some, Bucket.take_tokens, Bucket.take_allowed, Bucket.refill_tokens hnow hle]
  refine ⟨h.call hb hr hnonneg hgain (Int.cast_le.mpr hnow) hearned, ?_, ?_⟩
  · exact TokenBucket.drain_nonneg (TokenBucket.fill_nonneg hb hgain hnonneg)
  · exact (TokenBucket.drain_le _).trans (TokenBucket.fill_le_cap _ _ _)

theorem callsOn_serve_self (s : System) (i : Nat) (key : String) (now : Int) :
    (s.serve config i key now).callsOn key =
      s.callsOn key ++ [((now : ℚ), (allow config now key s.limiter).1.1)] := by
  simp [System.callsOn, System.serve]

theorem callsOn_serve_of_ne (s : System) (i : Nat) {key other : String} (h : other ≠ key)
    (now : Int) : (s.serve config i other now).callsOn key = s.callsOn key := by
  simp [System.callsOn, System.serve, h]

theorem Accounted.serve_self (hb : 0 ≤ burst config) (hr : 0 ≤ rate config)
    (h : Accounted config key s) {now : Int} (i : Nat)
    (hswept : (reclaimed (sweep config) now s.limiter)[key]? = s.limiter.buckets[key]?)
    (horder : ∀ entry ∈ s.limiter.buckets[key]?, entry.last ≤ now) :
    Accounted config key (s.serve config i key now) := by
  have hentry : (s.serve config i key now).limiter.buckets[key]? =
      some (Bucket.next config now s.limiter.buckets[key]?).2 := by
    rw [← hswept]
    exact allowWith_self now key s.limiter
  have hallowed : (allow config now key s.limiter).1.1 =
      (Bucket.next config now s.limiter.buckets[key]?).1.1 := by
    rw [← hswept]
    rfl
  rw [Accounted, hentry, callsOn_serve_self, hallowed]
  rw [Accounted] at h
  cases hb? : s.limiter.buckets[key]? with
  | none =>
    -- a first call finds a full bucket, as if it were created just before
    have hfresh : TokenBucket.Account (burst config) (rate config) (s.callsOn key)
        (⟨burst config, now⟩ : Bucket).tokens (⟨burst config, now⟩ : Bucket).last := by
      rw [hb?] at h
      rw [h]
      exact TokenBucket.Account.start hb hr now
    exact account_next hb hr hfresh hb le_rfl le_rfl
  | some entry =>
    rw [hb?] at h
    obtain ⟨haccount, hnonneg, hle⟩ := h
    exact account_next hb hr haccount hnonneg hle (horder entry hb?)

theorem Accounted.step (hb : 0 ≤ burst config) (hr : 0 ≤ rate config)
    (h : Accounted config key s) (hswept : Unswept config key s e) (horder : InOrder key s e)
    (hstep : s.step config e = some s') : Accounted config key s' := by
  obtain ⟨k, now, rfl, rfl⟩ | ⟨i, k, now, rfl, hc, rfl⟩ := System.step_cases hstep
  · exact h
  · have hkept : (reclaimed (sweep config) now s.limiter)[key]? = s.limiter.buckets[key]? :=
      hswept (k, now) hc
    by_cases hk : k = key
    · subst hk
      exact h.serve_self hb hr i hkept fun entry hentry => horder (k, now) hc rfl entry hentry
    · have hentry : (s.serve config i k now).limiter.buckets[key]? = s.limiter.buckets[key]? :=
        (allowWith_of_ne now hk s.limiter).trans hkept
      rw [Accounted, hentry, callsOn_serve_of_ne s i hk]
      exact h

theorem Accounted.allowed_le (hb : 0 ≤ burst config) (hr : 0 ≤ rate config)
    (h : Accounted config key s) {a t : Int} (hat : a ≤ t) :
    (s.allowed key a t : ℚ) ≤ burst config + rate config * (t - a) := by
  have hpos : (0 : ℚ) ≤ rate config * (t - a) :=
    mul_nonneg hr (sub_nonneg.mpr (Int.cast_le.mpr hat))
  rw [System.allowed_eq]
  rw [Accounted] at h
  cases hb? : s.limiter.buckets[key]? with
  | none =>
    rw [hb?] at h
    rw [h, TokenBucket.admitted, List.countP_nil, Nat.cast_zero]
    exact add_nonneg hb hpos
  | some entry =>
    rw [hb?] at h
    exact h.1.interval a t (Int.cast_le.mpr hat)

end

/-- In every run in which the bucket of the key is not swept and the calls on it get the lock in the order
of their timestamps, those allowed in an interval are at most the burst and what it earns. -/
theorem allowed_in_interval_le (config : RateLimit) (hrequests : 0 ≤ config.requests.toInt)
    (hwindow : 0 < (window config).toInt) (hburst : 0 ≤ config.burst.toInt) (key : String)
    (clock : Int) (events : List Event) (s : System)
    (hrun : Runs (System.step config) (fun s e => Unswept config key s e ∧ InOrder key s e)
      (System.start clock) events s) (a t : Int) (hat : a ≤ t) :
    (s.allowed key a t : ℚ) ≤
      burst config + requests config * (t - a) / (window config).toInt := by
  have hb : 0 ≤ burst config := Int.cast_nonneg hburst
  have hr : 0 ≤ rate config := div_nonneg (Int.cast_nonneg hrequests) (Int.cast_nonneg hwindow.le)
  have hstart : Accounted config key (System.start clock) := by
    rw [Accounted, System.start, newLimiter, GoMap.get_empty]
    rfl
  have hend := hrun.invariant (Accounted config key)
    (fun _ _ _ h hmeets hstep => h.step hb hr hmeets.1 hmeets.2 hstep) hstart
  have hle := hend.allowed_le hb hr hat
  rwa [rate, div_mul_eq_mul_div] at hle

/-! ## Calls out of order -/

def oneToken : RateLimit := ⟨1, 1, 1, "client_ip", 429⟩

def fourReads : List Event := [.read "" 0, .read "" 0, .read "" 1000000, .read "" 1000000]

def inTurn : List Event := fourReads ++ [.enter 0, .enter 0, .enter 0, .enter 0]

def alternating : List Event := fourReads ++ [.enter 0, .enter 1, .enter 0, .enter 0]

theorem calls_in_turn_bounded :
    ∃ s, Runs (System.step oneToken) (fun s e => Unswept oneToken "" s e ∧ InOrder "" s e)
        (System.start 0) inTurn s ∧ s.allowed "" 0 1000000 = 2 ∧
      (s.allowed "" 0 1000000 : ℚ) ≤
        burst oneToken + requests oneToken * (1000000 - 0) / (window oneToken).toInt := by
  have hcount : (Runs.exec (System.step oneToken)
      (fun s e => Unswept oneToken "" s e ∧ InOrder "" s e) (System.start 0) inTurn).map
        (fun s => s.allowed "" 0 1000000) = some 2 := by
    decide +kernel
  obtain ⟨s, hs, htwo⟩ := Option.map_eq_some_iff.mp hcount
  have hrun := Runs.of_exec hs
  exact ⟨s, hrun, htwo, allowed_in_interval_le oneToken (by decide) (by decide) (by decide) "" 0
    inTurn s hrun 0 1000000 (by decide)⟩

theorem alternating_calls_exceed :
    ∃ s, Runs (System.step oneToken) (Unswept oneToken "") (System.start 0) alternating s ∧
      burst oneToken + requests oneToken * (1000000 - 0) / (window oneToken).toInt <
        (s.allowed "" 0 1000000 : ℚ) := by
  have hcount : (Runs.exec (System.step oneToken) (Unswept oneToken "") (System.start 0)
      alternating).map (fun s => s.allowed "" 0 1000000) = some 3 := by
    decide +kernel
  obtain ⟨s, hs, hthree⟩ := Option.map_eq_some_iff.mp hcount
  refine ⟨s, Runs.of_exec hs, ?_⟩
  rw [hthree]
  decide +kernel

end Krouter.RateLimiting
