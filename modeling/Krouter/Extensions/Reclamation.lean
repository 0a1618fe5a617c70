import Krouter.Extensions.Limiter

/-! Whether the reclamation of idle buckets can be told from decisions. A bucket is reclaimed after two
windows without a call, and comes back full. -/

namespace Krouter.RateLimiting
open Compiled

/-- Whatever is left in a bucket, it is full when reclaimed. The doubled window is taken on 64 bits, and
the elapsed time saturates there. -/
def Covers (config : RateLimit) : Prop :=
  (window config).toInt ≤ 2 ^ 62 ∧
    config.burst.toInt * (window config).toInt ≤
      config.requests.toInt * min (2 * (window config).toInt + 1) (2 ^ 63 - 1)

instance (config : RateLimit) : Decidable (Covers config) := by
  unfold Covers
  infer_instance

variable {config : RateLimit}

theorem horizon_of_le (hw : 0 < (window config).toInt) (h : (window config).toInt ≤ 2 ^ 62) :
    (-2 * window config).toInt = -2 * (window config).toInt := by
  rw [Int64.toInt_mul]
  have hneg : (-2 : Int64).toInt = -2 := by decide
  rw [hneg]
  exact Int.bmod_eq_of_le (by norm_num; omega) (by norm_num; omega)

theorem horizon_of_lt (h : 2 ^ 62 < (window config).toInt) : 0 < (-2 * window config).toInt := by
  have hlt := (window config).toInt_lt
  have hneg : (-2 : Int64).toInt = -2 := by decide
  rw [Int64.toInt_mul, hneg, Int.bmod_def]
  norm_num at h hlt ⊢
  omega

variable {now : Int}

section

structure Bucket.Within (config : RateLimit) (now : Int) (entry : Bucket) : Prop where
  last_le : entry.last ≤ now
  nonneg : 0 ≤ entry.tokens
  le_burst : entry.tokens ≤ burst config

variable {entry : Bucket}

theorem Bucket.Within.mono {later : Int} (h : entry.Within config now)
    (hl : now ≤ later) : entry.Within config later := ⟨h.last_le.trans hl, h.nonneg, h.le_burst⟩

def Bucket.Reclaimable (config : RateLimit) (now : Int) (entry : Bucket) : Prop :=
  ∀ later, now ≤ later → burst config ≤ entry.tokens + gain config later entry

theorem Bucket.Within.next (hp : Positive config) {entry : Option Bucket}
    (h : ∀ e, entry = some e → e.Within config now) :
    (Bucket.next config now entry).2.Within config now := by
  have hfilled : 0 ≤ ((entry.getD ⟨burst config, now⟩).refill config now).tokens ∧
      ((entry.getD ⟨burst config, now⟩).refill config now).tokens ≤ burst config := by
    cases entry with
    | none =>
      rw [Option.getD_none, Bucket.refill_fresh]
      exact ⟨hp.burst_pos.le, le_rfl⟩
    | some e =>
      obtain ⟨hlast, hnonneg, hle⟩ := h e rfl
      have hgain : 0 ≤ gain config now e :=
        mul_nonneg (Int.cast_nonneg (sub_nonneg_of_le hlast)) hp.rate_pos.le
      rw [Option.getD_some, Bucket.refill_tokens hlast hle]
      exact ⟨TokenBucket.fill_nonneg hp.burst_pos.le hgain hnonneg, TokenBucket.fill_le_cap _ _ _⟩
  refine ⟨(Bucket.next_last now entry).le, ?_, ?_⟩
  · rw [Bucket.next, Bucket.take_tokens]
    exact TokenBucket.drain_nonneg hfilled.1
  · rw [Bucket.next, Bucket.take_tokens]
    exact (TokenBucket.drain_le _).trans hfilled.2

theorem Bucket.next_of_reclaimable (h : entry.Within config now) (hr : entry.Reclaimable config now) :
    Bucket.next config now (some entry) = Bucket.next config now none := by
  have hfull : (entry.refill config now).tokens = burst config := by
    rw [Bucket.refill_tokens h.last_le h.le_burst, TokenBucket.fill_of_cap_le (hr now le_rfl)]
  have hentry : entry.refill config now = ⟨burst config, now⟩ := by
    rw [← hfull]
    rfl
  rw [Bucket.next_none, Bucket.next_some, hentry]

theorem Bucket.reclaimable_of_swept (hp : Positive config) (hc : Covers config) (h : entry.Within config now)
    (hold : entry.last < now + (-2 * window config).toInt) : entry.Reclaimable config now := by
  intro later hlater
  obtain ⟨hwindow, hfill⟩ := hc
  rw [horizon_of_le hp.window hwindow] at hold
  have helapsed : min (2 * (window config).toInt + 1) (2 ^ 63 - 1) ≤ sub later entry.last := by
    rw [sub]
    omega
  have hw : (0 : ℚ) < (window config).toInt := Int.cast_pos.mpr hp.window
  have htokens : burst config ≤ gain config later entry := by
    rw [burst, gain, rate, requests, ← mul_div_assoc, le_div_iff₀ hw]
    have hmono : config.requests.toInt * min (2 * (window config).toInt + 1) (2 ^ 63 - 1) ≤
        sub later entry.last * config.requests.toInt := by
      rw [mul_comm]
      exact mul_le_mul_of_nonneg_right helapsed hp.requests.le
    exact_mod_cast hfill.trans hmono
  linarith [h.nonneg]

/-- The limiter and the one that reclaims nothing: they differ in buckets that are full. -/
structure Matched (config : RateLimit) (now : Int) (l kept : Limiter) : Prop where
  ops : l.ops = kept.ops
  within : ∀ (key : String) (e : Bucket), kept.buckets[key]? = some e → e.Within config now
  entries : ∀ key : String, l.buckets[key]? = kept.buckets[key]? ∨
    l.buckets[key]? = none ∧ ∃ e : Bucket, kept.buckets[key]? = some e ∧
      e.Reclaimable config now

namespace Matched
variable {now later : Int} {l kept : Limiter}

theorem start (now : Int) : Matched config now newLimiter newLimiter where
  ops := rfl
  within := fun key e he => by
    rw [newLimiter, GoMap.get_empty] at he
    cases he
  entries := fun _ => .inl rfl

theorem mono (h : Matched config now l kept) (hl : now ≤ later) : Matched config later l kept where
  ops := h.ops
  within := fun key e he => (h.within key e he).mono hl
  entries := fun key => by
    rcases h.entries key with hsame | ⟨hnone, e, he, hr⟩
    · exact .inl hsame
    · exact .inr ⟨hnone, e, he, fun t ht => hr t (hl.trans ht)⟩

theorem swept (hp : Positive config) (hc : Covers config) (h : Matched config now l kept)
    (key : String) :
    (reclaimed (sweep config) now l)[key]? = kept.buckets[key]? ∨
      (reclaimed (sweep config) now l)[key]? = none ∧
        ∃ e : Bucket, kept.buckets[key]? = some e ∧ e.Reclaimable config now := by
  rw [reclaimed]
  by_cases hops : (l.ops + 1) % sweepEvery = 0
  · rw [if_pos hops]
    rcases h.entries key with hsame | ⟨hnone, hr⟩
    · cases hk : kept.buckets[key]? with
      | none =>
        refine .inl (Option.eq_none_iff_forall_ne_some.mpr fun e he => ?_)
        have hl := (mem_sweep.mp he).1
        rw [hsame, hk] at hl
        cases hl
      | some e =>
        by_cases hold : e.last < now + (-2 * window config).toInt
        · refine .inr ⟨Option.eq_none_iff_forall_ne_some.mpr fun e' he' => ?_, e, rfl,
            Bucket.reclaimable_of_swept hp hc (h.within key e hk) hold⟩
          obtain ⟨hl, hkeep⟩ := mem_sweep.mp he'
          rw [hsame, hk] at hl
          cases hl
          exact absurd hold (not_lt.mpr hkeep)
        · exact .inl (mem_sweep.mpr ⟨hsame.trans hk, not_lt.mp hold⟩)
    · refine .inr ⟨Option.eq_none_iff_forall_ne_some.mpr fun e he => ?_, hr⟩
      rw [(mem_sweep.mp he).1] at hnone
      cases hnone
  · rw [if_neg hops]
    exact h.entries key

theorem reclaimed_keeping (now : Int) (l : Limiter) :
    reclaimed (fun _ buckets => buckets) now l = l.buckets := by
  rw [reclaimed]
  split <;> rfl

theorem next_eq (hp : Positive config) (hc : Covers config) (h : Matched config now l kept)
    (key : String) :
    Bucket.next config now (reclaimed (sweep config) now l)[key]? =
      Bucket.next config now kept.buckets[key]? := by
  rcases h.swept hp hc key with hsame | ⟨hnone, e, he, hr⟩
  · rw [hsame]
  · rw [hnone, he, Bucket.next_of_reclaimable (h.within key e he) hr]

theorem call (hp : Positive config) (hc : Covers config) (h : Matched config now l kept)
    (key : String) :
    (allow config now key l).1 = (allowKeeping config now key kept).1 ∧
      Matched config now (allow config now key l).2 (allowKeeping config now key kept).2 := by
  have hnext := h.next_eq hp hc key
  refine ⟨?_, congrArg (· + 1) h.ops, fun k e he => ?_, fun k => ?_⟩
  · rw [allow, allowKeeping, allowWith_decision, allowWith_decision, hnext, reclaimed_keeping]
  · rw [allowKeeping] at he
    by_cases hk : key = k
    · subst hk
      rw [allowWith_self, reclaimed_keeping] at he
      rw [← Option.some.inj he]
      exact Bucket.Within.next hp fun e' he' => h.within key e' he'
    · rw [allowWith_of_ne now hk, reclaimed_keeping] at he
      exact h.within k e he
  · rw [allow, allowKeeping]
    by_cases hk : key = k
    · subst hk
      rw [allowWith_self, allowWith_self, hnext, reclaimed_keeping]
      exact .inl rfl
    · rw [allowWith_of_ne now hk, allowWith_of_ne now hk, reclaimed_keeping]
      exact h.swept hp hc k

theorem decisions_eq (hp : Positive config) (hc : Covers config) {calls : List (Int × String)}
    (hordered : calls.Pairwise fun c d => c.1 ≤ d.1) (hlater : ∀ c ∈ calls, now ≤ c.1)
    (h : Matched config now l kept) :
    decisions (allow config) l calls = decisions (allowKeeping config) kept calls := by
  induction calls generalizing now l kept with
  | nil => rfl
  | cons c calls ih =>
    obtain ⟨hfirst, hrest⟩ := List.pairwise_cons.mp hordered
    obtain ⟨hdecision, hmatched⟩ := (h.mono (hlater c (.head _))).call hp hc c.2
    rw [decisions, decisions, hdecision, ih hrest hfirst hmatched]

end Matched

end

variable {l : Limiter}

section
variable {reclaim : Int → GoMap String Bucket → GoMap String Bucket} {key : String} {level : ℚ}

def KeepsUsed (reclaim : Int → GoMap String Bucket → GoMap String Bucket) (now : Int) : Prop :=
  ∀ (buckets : GoMap String Bucket) (key : String) (e : Bucket), buckets[key]? = some e →
    e.last = now → (reclaim now buckets)[key]? = some e

theorem keepsUsed_sweep (hw : 0 < (window config).toInt) (h : (window config).toInt ≤ 2 ^ 62)
    (now : Int) : KeepsUsed (sweep config) now := by
  intro buckets key e he hlast
  refine mem_sweep.mpr ⟨he, ?_⟩
  rw [horizon_of_le hw h]
  omega

theorem KeepsUsed.reclaimed (h : KeepsUsed reclaim now) {e : Bucket}
    (he : l.buckets[key]? = some e) (hlast : e.last = now) :
    (reclaimed reclaim now l)[key]? = some e := by
  rw [RateLimiting.reclaimed]
  split
  · exact h _ _ _ he hlast
  · exact he

def Finds (config : RateLimit) (reclaim : Int → GoMap String Bucket → GoMap String Bucket)
    (now : Int) (key : String) (l : Limiter) (level : ℚ) : Prop :=
  Bucket.next config now (reclaimed reclaim now l)[key]? = (⟨level, now⟩ : Bucket).take config

theorem finds_burst (h : (reclaimed reclaim now l)[key]? = none) :
    Finds config reclaim now key l (burst config) := by
  rw [Finds, h, Bucket.next_none]

theorem Finds.allowed (h : Finds config reclaim now key l level) :
    (allowWith config reclaim now key l).1.1 = decide (1 ≤ level) := by
  rw [allowWith_decision, h, Bucket.take_allowed]

theorem Finds.entry (h : Finds config reclaim now key l level) :
    (allowWith config reclaim now key l).2.buckets[key]? = some ⟨TokenBucket.drain level, now⟩ := by
  rw [allowWith_self, h]
  exact congrArg some (Bucket.ext (Bucket.take_tokens _) (Bucket.take_last _))

theorem Finds.next (hk : KeepsUsed reclaim now) (h : Finds config reclaim now key l level) :
    Finds config reclaim now key (allowWith config reclaim now key l).2
      (TokenBucket.drain level) := by
  have hsame : (⟨TokenBucket.drain level, now⟩ : Bucket).refill config now =
      ⟨TokenBucket.drain level, now⟩ := by
    rw [Bucket.refill, if_neg (by rw [sub_same]; exact lt_irrefl 0)]
  rw [Finds, hk.reclaimed h.entry rfl, Bucket.next_some, hsame]

theorem Finds.all_allowed_iff (hk : KeepsUsed reclaim now) (n : ℕ) (hl : 0 ≤ level)
    (h : Finds config reclaim now key l level) :
    (∀ d ∈ decisions (allowWith config reclaim) l (List.replicate n (now, key)), d.1 = true) ↔
      (n : ℚ) ≤ level := by
  induction n generalizing l level with
  | zero => simpa [decisions] using hl
  | succ n ih =>
    rw [List.replicate_succ, decisions, List.forall_mem_cons, h.allowed, decide_eq_true_iff,
      Nat.cast_succ]
    by_cases hone : 1 ≤ level
    · have hrest := ih (TokenBucket.drain_nonneg hl) (h.next hk)
      rw [hrest, TokenBucket.drain_of_one_le hone, le_sub_iff_add_le]
      exact and_iff_right hone
    · refine iff_of_false (fun hall => hone hall.1) (fun hle => hone ?_)
      have hn : (0 : ℚ) ≤ n := Nat.cast_nonneg n
      linarith

theorem Finds.after (hk : KeepsUsed reclaim now) (n : ℕ) (hn : (n : ℚ) ≤ level)
    (h : Finds config reclaim now key l level) :
    Finds config reclaim now key
      (after (allowWith config reclaim) l (List.replicate n (now, key))) (level - n) := by
  induction n generalizing l level with
  | zero =>
    rw [Nat.cast_zero, sub_zero]
    exact h
  | succ n ih =>
    rw [Nat.cast_succ] at hn ⊢
    have hone : 1 ≤ level := by linarith [(Nat.cast_nonneg n : (0 : ℚ) ≤ n)]
    have hnext := h.next hk
    rw [TokenBucket.drain_of_one_le hone] at hnext
    have hrest := ih (by linarith) hnext
    rwa [show level - 1 - n = level - (n + 1) by ring] at hrest

theorem Finds.after_entry (hk : KeepsUsed reclaim now) (n : ℕ) (hn : ((n + 1 : ℕ) : ℚ) ≤ level)
    (h : Finds config reclaim now key l level) :
    (RateLimiting.after (allowWith config reclaim) l
      (List.replicate (n + 1) (now, key))).buckets[key]? = some ⟨level - (n + 1 : ℕ), now⟩ := by
  rw [Nat.cast_succ] at hn ⊢
  have hbefore := h.after hk n (by linarith)
  have hentry := hbefore.entry
  rw [TokenBucket.drain_of_one_le (by linarith), sub_sub] at hentry
  rw [List.replicate_succ', after_append]
  exact hentry

end

section
variable {key other : String} {t : Int}

def UsedBy (key : String) (t : Int) (l : Limiter) : Prop :=
  ∀ e : Bucket, l.buckets[key]? = some e → e.last ≤ t

theorem UsedBy.reclaimed (h : UsedBy key t l) {e : Bucket}
    (he : (reclaimed (sweep config) now l)[key]? = some e) : e.last ≤ t := by
  rw [RateLimiting.reclaimed] at he
  split at he
  · exact h e (mem_sweep.mp he).1
  · exact h e he

variable {calls : List (Int × String)} {later : Int}

theorem UsedBy.after (h : UsedBy key t l)
    (hc : ∀ c ∈ calls, c.2 = key → c.1 ≤ t) : UsedBy key t (after (allow config) l calls) := by
  induction calls generalizing l with
  | nil => exact h
  | cons c calls ih =>
    refine ih (fun e he => ?_) (fun d hd => hc d (List.mem_cons_of_mem c hd))
    rw [allow] at he
    by_cases hk : c.2 = key
    · subst hk
      rw [allowWith_self] at he
      rw [← Option.some.inj he, Bucket.next_last]
      exact hc c (.head _) rfl
    · rw [allowWith_of_ne c.1 hk] at he
      exact h.reclaimed he

theorem UsedBy.swept (h : UsedBy key t l) (hops : (l.ops + 1) % sweepEvery = 0)
    (ht : t < now + (-2 * window config).toInt) (hk : other ≠ key) :
    (allow config now other l).2.buckets[key]? = none := by
  rw [allow, allowWith_of_ne now hk, RateLimiting.reclaimed, if_pos hops]
  refine Option.eq_none_iff_forall_ne_some.mpr fun e he => ?_
  obtain ⟨hold, hkeep⟩ := mem_sweep.mp he
  have hlast := h e hold
  omega

theorem after_keeping (hc : ∀ c ∈ calls, c.2 ≠ key) :
    (after (allowKeeping config) l calls).buckets[key]? = l.buckets[key]? := by
  induction calls generalizing l with
  | nil => rfl
  | cons c calls ih =>
    refine (ih fun d hd => hc d (List.mem_cons_of_mem c hd)).trans ?_
    rw [allowKeeping, allowWith_of_ne c.1 (hc c (.head _)), Matched.reclaimed_keeping]

def lull (config : RateLimit) (later : Int) (n : ℕ) : List (Int × String) :=
  List.replicate config.burst.toInt.toNat (0, "") ++
    (List.replicate (255 * config.burst.toInt.toNat) (later, "other") ++
      List.replicate n (later, ""))

theorem other_ne : "other" ≠ "" := by decide

theorem lull_ordered (h : 0 ≤ later) (n : ℕ) : (lull config later n).Pairwise fun c d => c.1 ≤ d.1 := by
  rw [lull, List.pairwise_append, List.pairwise_append]
  refine ⟨?_, ⟨?_, ?_, ?_⟩, ?_⟩
  · exact List.pairwise_replicate.mpr (.inr le_rfl)
  · exact List.pairwise_replicate.mpr (.inr le_rfl)
  · exact List.pairwise_replicate.mpr (.inr le_rfl)
  · intro c hc d hd
    rw [(List.mem_replicate.mp hc).2, (List.mem_replicate.mp hd).2]
  · intro c hc d hd
    rw [(List.mem_replicate.mp hc).2]
    rcases List.mem_append.mp hd with hd | hd
    · rw [(List.mem_replicate.mp hd).2]
      exact h
    · rw [(List.mem_replicate.mp hd).2]
      exact h

theorem burst_eq_toNat (hp : Positive config) : burst config = (config.burst.toInt.toNat : ℕ) := by
  have hcast : ((config.burst.toInt.toNat : ℕ) : ℤ) = config.burst.toInt :=
    Int.toNat_of_nonneg hp.burst.le
  rw [burst, ← hcast]
  rfl

theorem absent_after_lull (hp : Positive config) (ht : 0 < later + (-2 * window config).toInt) :
    (after (allow config) (after (allow config) newLimiter
      (List.replicate config.burst.toInt.toNat (0, "")))
      (List.replicate (255 * config.burst.toInt.toNat) (later, "other"))).buckets[""]? = none := by
  obtain ⟨m, hm⟩ : ∃ m, 255 * config.burst.toInt.toNat = m + 1 :=
    ⟨255 * config.burst.toInt.toNat - 1, by have := hp.burst; omega⟩
  have hnew : UsedBy "" 0 newLimiter := by
    intro e he
    rw [newLimiter, GoMap.get_empty] at he
    cases he
  have hfirst : UsedBy "" 0 (after (allow config) newLimiter
      (List.replicate config.burst.toInt.toNat (0, ""))) :=
    hnew.after fun c hc _ => by rw [(List.mem_replicate.mp hc).2]
  rw [hm, List.replicate_succ', after_append]
  have hothers : UsedBy "" 0 (after (allow config) (after (allow config) newLimiter
      (List.replicate config.burst.toInt.toNat (0, ""))) (List.replicate m (later, "other"))) := by
    refine hfirst.after fun c hc hkey => ?_
    rw [(List.mem_replicate.mp hc).2] at hkey
    exact absurd hkey other_ne
  refine hothers.swept ?_ ht other_ne
  rw [allow, after_ops, after_ops, List.length_replicate, List.length_replicate]
  simp only [newLimiter, sweepEvery]
  omega

theorem lull_differs (hp : Positive config) {n : ℕ} (hlater : 0 ≤ later)
    (ht : 0 < later + (-2 * window config).toInt)
    (hfresh : ∀ l : Limiter, l.buckets[""]? = none →
      ∀ d ∈ decisions (allow config) l (List.replicate n (later, "")), d.1 = true)
    (hpart : TokenBucket.fill (burst config) (sub later 0 * rate config) 0 < n) :
    decisions (allow config) newLimiter (lull config later n) ≠
      decisions (allowKeeping config) newLimiter (lull config later n) := by
  intro heq
  have hkeep : ∀ t, KeepsUsed (fun _ buckets => buckets) t := fun _ _ _ _ he _ => he
  -- without the sweep the bucket is empty before the lull, and untouched by it
  have hempty : (after (allowKeeping config) (after (allowKeeping config) newLimiter
      (List.replicate config.burst.toInt.toNat (0, "")))
      (List.replicate (255 * config.burst.toInt.toNat) (later, "other"))).buckets[""]? =
        some ⟨0, 0⟩ := by
    obtain ⟨m, hm⟩ : ∃ m, config.burst.toInt.toNat = m + 1 :=
      ⟨config.burst.toInt.toNat - 1, by have := hp.burst; omega⟩
    have hfull : Finds config (fun _ buckets => buckets) 0 "" newLimiter (burst config) :=
      finds_burst (by rw [Matched.reclaimed_keeping, newLimiter, GoMap.get_empty])
    have hused := hfull.after_entry (hkeep 0) m (by rw [burst_eq_toNat hp, hm])
    rw [← hm, burst_eq_toNat hp, sub_self] at hused
    rw [after_keeping fun c hc => by rw [(List.mem_replicate.mp hc).2]; exact other_ne]
    exact hused
  have hgain : 0 ≤ (sub later 0 : ℚ) * rate config :=
    mul_nonneg (Int.cast_nonneg (sub_nonneg_of_le hlater)) hp.rate_pos.le
  -- so after it a call finds only what came in meanwhile
  have hfinds : Finds config (fun _ buckets => buckets) later "" (after (allowKeeping config)
      (after (allowKeeping config) newLimiter (List.replicate config.burst.toInt.toNat (0, "")))
      (List.replicate (255 * config.burst.toInt.toNat) (later, "other")))
      (TokenBucket.fill (burst config) (sub later 0 * rate config) 0) := by
    rw [Finds, Matched.reclaimed_keeping, hempty, Bucket.next_some]
    exact congrArg (Bucket.take config)
      (Bucket.ext (Bucket.refill_tokens hlater hp.burst_pos.le) rfl)
  -- the decisions after the lull are the last part of both
  rw [lull, decisions_append, decisions_append, decisions_append, decisions_append] at heq
  have hrest := (List.append_inj heq (by rw [decisions_length, decisions_length])).2
  have hlast := (List.append_inj hrest (by rw [decisions_length, decisions_length])).2
  have hallowed := hfresh _ (absent_after_lull hp ht)
  rw [hlast] at hallowed
  have hle := (hfinds.all_allowed_iff (hkeep later) n
    (TokenBucket.fill_nonneg hp.burst_pos.le hgain le_rfl)).mp hallowed
  exact absurd hle (not_le.mpr hpart)

end

theorem fresh_allowed (hp : Positive config) {reclaim : Int → GoMap String Bucket →
    GoMap String Bucket} {key : String}
    (hdrop : (reclaimed reclaim now l)[key]? = none) :
    (allowWith config reclaim now key l).1.1 = true := by
  rw [(finds_burst hdrop).allowed, burst_eq_toNat hp, decide_eq_true_iff]
  have hpos := hp.burst
  exact_mod_cast (by omega : 1 ≤ config.burst.toInt.toNat)

theorem absent_reclaimed {key : String} (h : l.buckets[key]? = none) :
    (reclaimed (sweep config) now l)[key]? = none := by
  refine Option.eq_none_iff_forall_ne_some.mpr fun e he => ?_
  rw [reclaimed] at he
  split at he
  · rw [(mem_sweep.mp he).1] at h
    cases h
  · rw [he] at h
    cases h

theorem idle_differs (hp : Positive config) (hw : (window config).toInt ≤ 2 ^ 62)
    (hfill : config.requests.toInt * min (2 * (window config).toInt + 1) (2 ^ 63 - 1) <
      config.burst.toInt * (window config).toInt) :
    decisions (allow config) newLimiter
        (lull config (2 * (window config).toInt + 1) config.burst.toInt.toNat) ≠
      decisions (allowKeeping config) newLimiter
        (lull config (2 * (window config).toInt + 1) config.burst.toInt.toNat) := by
  have hpos := hp.window
  have hwq : (0 : ℚ) < (window config).toInt := Int.cast_pos.mpr hpos
  refine lull_differs hp (by omega) ?_ (fun l hl => ?_) ?_
  · rw [horizon_of_le hpos hw]
    omega
  · refine ((finds_burst (absent_reclaimed hl)).all_allowed_iff (keepsUsed_sweep hpos hw _) _
      hp.burst_pos.le).mpr ?_
    rw [burst_eq_toNat hp]
  · have helapsed : sub (2 * (window config).toInt + 1) 0 =
        min (2 * (window config).toInt + 1) (2 ^ 63 - 1) := by
      rw [sub]
      omega
    refine (TokenBucket.fill_le_add _ _ _).trans_lt ?_
    rw [zero_add, helapsed, rate, requests, ← mul_div_assoc, div_lt_iff₀ hwq,
      ← burst_eq_toNat hp, burst, mul_comm]
    exact_mod_cast hfill

theorem wrapped_differs (hp : Positive config) (hw : 2 ^ 62 < (window config).toInt) :
    decisions (allow config) newLimiter (lull config 0 1) ≠
      decisions (allowKeeping config) newLimiter (lull config 0 1) := by
  refine lull_differs hp le_rfl ?_ (fun l hl => ?_) ?_
  · rw [zero_add]
    exact horizon_of_lt hw
  · intro d hd
    rw [List.replicate_one, decisions, decisions, List.mem_singleton] at hd
    rw [hd]
    exact fresh_allowed hp (absent_reclaimed hl)
  · rw [sub_same, Int.cast_zero, zero_mul, TokenBucket.fill_zero hp.burst_pos.le]
    exact_mod_cast Nat.one_pos

/-- With positive numbers, the limiter decides every run as the same buckets without the sweep do, exactly
when the burst is regained within the two windows after which a bucket is reclaimed. -/
theorem reclamation_invisible_iff (config : RateLimit) (hp : Positive config) :
    (∀ calls : List (Int × String), (calls.Pairwise fun c d => c.1 ≤ d.1) →
      decisions (allow config) newLimiter calls =
        decisions (allowKeeping config) newLimiter calls) ↔ Covers config := by
  constructor
  · intro hall
    have hw : (window config).toInt ≤ 2 ^ 62 := by
      by_contra hw
      exact wrapped_differs hp (not_le.mp hw) (hall _ (lull_ordered le_rfl 1))
    refine ⟨hw, ?_⟩
    by_contra hfill
    have hpos := hp.window
    exact idle_differs hp hw (not_le.mp hfill) (hall _ (lull_ordered (by omega) _))
  · intro hc calls hordered
    cases calls with
    | nil => rfl
    | cons c calls =>
      refine (Matched.start c.1).decisions_eq hp hc hordered fun d hd => ?_
      rcases List.mem_cons.mp hd with rfl | hd
      · exact le_rfl
      · exact (List.pairwise_cons.mp hordered).1 d hd

def doubleBurst : RateLimit := ⟨10, 1000, 20, "client_ip", 429⟩

def slowRefill : RateLimit := ⟨1, 1000, 10, "client_ip", 429⟩

theorem double_burst_invisible :
    Covers doubleBurst ∧ ∀ calls : List (Int × String), (calls.Pairwise fun c d => c.1 ≤ d.1) →
      decisions (allow doubleBurst) newLimiter calls =
        decisions (allowKeeping doubleBurst) newLimiter calls :=
  have hc : Covers doubleBurst := by decide
  ⟨hc, (reclamation_invisible_iff doubleBurst ⟨by decide, by decide, by decide⟩).mpr hc⟩

theorem reclaimed_client_gains :
    Positive slowRefill ∧ ((lull slowRefill 2000000001 10).Pairwise fun c d => c.1 ≤ d.1) ∧
      decisions (allow slowRefill) newLimiter (lull slowRefill 2000000001 10) ≠
        decisions (allowKeeping slowRefill) newLimiter (lull slowRefill 2000000001 10) :=
  have hp : Positive slowRefill := ⟨by decide, by decide, by decide⟩
  ⟨hp, lull_ordered (by decide) 10, idle_differs hp (by decide) (by decide)⟩

end Krouter.RateLimiting
