import Krouter.Compiled.Config
import Krouter.Lib.TokenBucket

/-! The rate limiter of a rule: a token bucket for each client key, and the sweep that
reclaims idle buckets. Tokens are exact rationals and times are in nanoseconds. -/

namespace Krouter.RateLimiting
open Compiled

def sweepEvery : Nat := 256

@[ext]
structure Bucket where
  tokens : ℚ
  last : Int
  deriving DecidableEq

/-- What changes in a limiter; the rest is its configuration. -/
structure Limiter where
  ops : Nat
  buckets : GoMap String Bucket
  deriving DecidableEq

/-- `time.Time.Sub`: the difference saturates at the bounds of a `time.Duration`. -/
def sub (t u : Int) : Int := max (-2 ^ 63) (min (2 ^ 63 - 1) (t - u))

def truncate (q : ℚ) : Int := q.num.tdiv q.den

section
variable (config : RateLimit)

def window : Int64 := config.windowMillis * 1000000

def requests : ℚ := config.requests.toInt

def burst : ℚ := config.burst.toInt

def rate : ℚ := requests config / (window config).toInt

def newLimiter : Limiter := ⟨0, ∅⟩

def Bucket.refill (now : Int) (entry : Bucket) : Bucket :=
  let elapsed := sub now entry.last
  { tokens := if 0 < elapsed then min (burst config) (entry.tokens + elapsed * rate config)
      else entry.tokens
    last := now }

def Bucket.take (entry : Bucket) : (Bool × Int) × Bucket :=
  if 1 ≤ entry.tokens then ((true, 0), { entry with tokens := entry.tokens - 1 })
  else ((false, truncate ((1 - entry.tokens) / rate config)), entry)

/-- Buckets not used since the horizon are dropped. The product is taken on 64 bits. -/
def sweep (now : Int) (buckets : GoMap String Bucket) : GoMap String Bucket :=
  let horizon := now + (-2 * window config).toInt
  buckets.filter fun _ entry => ¬ entry.last < horizon

def Bucket.next (now : Int) (entry : Option Bucket) : (Bool × Int) × Bucket :=
  ((entry.getD ⟨burst config, now⟩).refill config now).take config

/-- `Allow`, with the reclamation of idle buckets left open. -/
def allowWith (reclaim : Int → GoMap String Bucket → GoMap String Bucket) (now : Int)
    (key : String) (l : Limiter) : (Bool × Int) × Limiter :=
  let ops := l.ops + 1
  let buckets := if ops % sweepEvery = 0 then reclaim now l.buckets else l.buckets
  let (decision, entry) := Bucket.next config now buckets[key]?
  (decision, ⟨ops, buckets.insert key entry⟩)

def allow : Int → String → Limiter → (Bool × Int) × Limiter := allowWith config (sweep config)

/-- The same token buckets with nothing ever reclaimed. -/
def allowKeeping : Int → String → Limiter → (Bool × Int) × Limiter :=
  allowWith config fun _ buckets => buckets

end

section
variable (step : Int → String → Limiter → (Bool × Int) × Limiter)

def decisions (l : Limiter) : List (Int × String) → List (Bool × Int)
  | [] => []
  | (now, key) :: calls => (step now key l).1 :: decisions (step now key l).2 calls

def after (l : Limiter) (calls : List (Int × String)) : Limiter :=
  calls.foldl (fun l c => (step c.1 c.2 l).2) l

theorem decisions_append (l : Limiter) (xs ys : List (Int × String)) :
    decisions step l (xs ++ ys) = decisions step l xs ++ decisions step (after step l xs) ys := by
  induction xs generalizing l with
  | nil => rfl
  | cons c xs ih =>
    rw [List.cons_append, decisions, ih]
    rfl

theorem after_append (l : Limiter) (xs ys : List (Int × String)) :
    after step l (xs ++ ys) = after step (after step l xs) ys := List.foldl_append

theorem decisions_length (l : Limiter) (xs : List (Int × String)) :
    (decisions step l xs).length = xs.length := by
  induction xs generalizing l with
  | nil => rfl
  | cons c xs ih => rw [decisions, List.length_cons, ih, List.length_cons]

end

section
variable {config : RateLimit} {reclaim : Int → GoMap String Bucket → GoMap String Bucket}

def reclaimed (reclaim : Int → GoMap String Bucket → GoMap String Bucket) (now : Int)
    (l : Limiter) : GoMap String Bucket :=
  if (l.ops + 1) % sweepEvery = 0 then reclaim now l.buckets else l.buckets

variable (now : Int) (key : String) (l : Limiter) (entry : Bucket)

theorem allowWith_decision : (allowWith config reclaim now key l).1 =
      (Bucket.next config now (reclaimed reclaim now l)[key]?).1 := rfl

theorem allowWith_ops : (allowWith config reclaim now key l).2.ops = l.ops + 1 := rfl

theorem allowWith_self : (allowWith config reclaim now key l).2.buckets[key]? =
      some (Bucket.next config now (reclaimed reclaim now l)[key]?).2 := GoMap.get_insert_self _ _ _

theorem allowWith_of_ne {key other : String} (h : key ≠ other) (l : Limiter) :
    (allowWith config reclaim now key l).2.buckets[other]? = (reclaimed reclaim now l)[other]? :=
  GoMap.get_insert_of_ne _ _ h

theorem after_ops (calls : List (Int × String)) :
    (after (allowWith config reclaim) l calls).ops = l.ops + calls.length := by
  induction calls generalizing l with
  | nil => rfl
  | cons c calls ih =>
    have hops := ih (allowWith config reclaim c.1 c.2 l).2
    rw [allowWith_ops] at hops
    rw [List.length_cons, ← Nat.add_assoc, Nat.add_right_comm]
    exact hops

theorem sub_same : sub now now = 0 := by
  rw [sub, Int.sub_self]
  decide

theorem sub_le_of_le {t u : Int} (h : u ≤ t) : sub t u ≤ t - u := by
  rw [sub]
  omega

theorem sub_nonneg_of_le {t u : Int} (h : u ≤ t) : 0 ≤ sub t u := by
  rw [sub]
  omega

def gain (config : RateLimit) (now : Int) (entry : Bucket) : ℚ := sub now entry.last * rate config

theorem Bucket.refill_tokens {now : Int} {entry : Bucket} (hnow : entry.last ≤ now)
    (hcap : entry.tokens ≤ burst config) :
    (entry.refill config now).tokens =
      TokenBucket.fill (burst config) (gain config now entry) entry.tokens := by
  by_cases helapsed : 0 < sub now entry.last
  · rw [Bucket.refill, if_pos helapsed]
    rfl
  · have hzero : sub now entry.last = 0 := le_antisymm (not_lt.mp helapsed) (sub_nonneg_of_le hnow)
    rw [Bucket.refill, if_neg helapsed, gain, hzero, Int.cast_zero, zero_mul,
      TokenBucket.fill_zero hcap]

theorem Bucket.take_tokens : (entry.take config).2.tokens = TokenBucket.drain entry.tokens := by
  by_cases h : 1 ≤ entry.tokens
  · rw [Bucket.take, if_pos h, TokenBucket.drain_of_one_le h]
  · rw [Bucket.take, if_neg h, TokenBucket.drain_of_lt_one h]

theorem Bucket.take_last : (entry.take config).2.last = entry.last := by
  rw [Bucket.take]
  split <;> rfl

theorem Bucket.take_allowed : (entry.take config).1.1 = decide (1 ≤ entry.tokens) := by
  by_cases h : 1 ≤ entry.tokens
  · rw [Bucket.take, if_pos h, decide_eq_true h]
  · rw [Bucket.take, if_neg h, decide_eq_false h]

theorem Bucket.next_last (entry : Option Bucket) :
    (Bucket.next config now entry).2.last = now := Bucket.take_last _

theorem Bucket.refill_fresh : (⟨burst config, now⟩ : Bucket).refill config now = ⟨burst config, now⟩ := by
  rw [Bucket.refill, if_neg (by rw [sub_same]; exact lt_irrefl 0)]

theorem Bucket.next_none : Bucket.next config now none = (⟨burst config, now⟩ : Bucket).take config :=
  congrArg (Bucket.take config) (Bucket.refill_fresh now)

theorem Bucket.next_some : Bucket.next config now (some entry) = (entry.refill config now).take config := rfl

theorem mem_sweep {now : Int} {buckets : GoMap String Bucket} {key : String} {entry : Bucket} :
    (sweep config now buckets)[key]? = some entry ↔
      buckets[key]? = some entry ∧ now + (-2 * window config).toInt ≤ entry.last := by
  rw [sweep, Std.ExtTreeMap.getElem?_filter', Option.filter_eq_some_iff]
  simp

end

/-! ## Configurations -/

structure Positive (config : RateLimit) : Prop where
  requests : 0 < config.requests.toInt
  window : 0 < (window config).toInt
  burst : 0 < config.burst.toInt

namespace Positive
variable {config : RateLimit}

theorem rate_pos (h : Positive config) : 0 < rate config := by
  have hr : 0 < RateLimiting.requests config := Int.cast_pos.mpr h.requests
  have hw : (0 : ℚ) < (RateLimiting.window config).toInt := Int.cast_pos.mpr h.window
  exact div_pos hr hw

theorem burst_pos (h : Positive config) : 0 < RateLimiting.burst config := Int.cast_pos.mpr h.burst

end Positive

end Krouter.RateLimiting
