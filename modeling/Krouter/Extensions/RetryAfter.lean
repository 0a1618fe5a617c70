import Krouter.Extensions.Reclamation
import Krouter.Proxy.Extensions
import Mathlib.Data.Rat.Floor

/-! Whether a client that waits as long as `Retry-After` says is let through. The wait is cut to whole
nanoseconds, so a token between two of them can come after the second announced. -/

namespace Krouter.RateLimiting
open Compiled Http Proxy Routing

/-! ## The next token of a bucket -/

def Bucket.due (config : RateLimit) (entry : Bucket) : ℚ :=
  entry.last + (1 - entry.tokens) / rate config

/-- The next token comes between two nanoseconds, and the first of the two is whole seconds
after `now`. -/
def Bucket.Missed (config : RateLimit) (now : Int) (entry : Bucket) : Prop :=
  (⌊entry.due config⌋ : ℚ) ≠ entry.due config ∧ now < ⌊entry.due config⌋ ∧
    1000000000 ∣ ⌊entry.due config⌋ - now

instance (config : RateLimit) (now : Int) (entry : Bucket) :
    Decidable (entry.Missed config now) := by
  unfold Bucket.Missed
  infer_instance

theorem truncate_of_nonneg {q : ℚ} (h : 0 ≤ q) : truncate q = ⌊q⌋ := by
  have hnum : 0 ≤ q.num := Rat.num_nonneg.mpr h
  rw [truncate, Int.tdiv_eq_ediv_of_nonneg hnum, Rat.floor_def']

section
variable {config : RateLimit} {entry : Bucket} {now : Int}

theorem Bucket.need_le (hp : Positive config) (h : 0 ≤ entry.tokens) :
    (1 - entry.tokens) / rate config ≤ ((window config).toInt : ℚ) := by
  have hw : (0 : ℚ) < (window config).toInt := Int.cast_pos.mpr hp.window
  have hone : (1 : ℚ) ≤ requests config := by
    have hr : (1 : Int) ≤ config.requests.toInt := hp.requests
    rw [requests]
    exact_mod_cast hr
  rw [div_le_iff₀ hp.rate_pos, rate, mul_div_cancel₀ _ hw.ne']
  linarith

theorem Positive.one_le_burst (hp : Positive config) : (1 : ℚ) ≤ RateLimiting.burst config := by
  have hb : (1 : Int) ≤ config.burst.toInt := hp.burst
  rw [RateLimiting.burst]
  exact_mod_cast hb

theorem sub_eq_min (h : entry.last ≤ now) :
    sub now entry.last = min (2 ^ 63 - 1) (now - entry.last) := by
  rw [sub]
  omega

theorem Bucket.need_le_max (hp : Positive config) (h : 0 ≤ entry.tokens) :
    (1 - entry.tokens) / rate config ≤ ((2 ^ 63 - 1 : Int) : ℚ) := by
  have hlt : (window config).toInt ≤ 2 ^ 63 - 1 := by
    have hw := (window config).toInt_lt
    omega
  exact (Bucket.need_le hp h).trans (Int.cast_le.mpr hlt)

theorem Bucket.next_allowed_iff (hp : Positive config) (h : entry.Within config now) :
    (Bucket.next config now (some entry)).1.1 = true ↔ entry.due config ≤ now := by
  -- the elapsed time saturates only above any need
  have helapsed : (1 - entry.tokens) / rate config ≤ (sub now entry.last : ℚ) ↔
      (1 - entry.tokens) / rate config ≤ ((now - entry.last : Int) : ℚ) := by
    rw [sub_eq_min h.last_le, Int.cast_min, le_min_iff]
    exact and_iff_right (Bucket.need_le_max hp h.nonneg)
  rw [Bucket.next_some, Bucket.take_allowed, decide_eq_true_iff,
    Bucket.refill_tokens h.last_le h.le_burst, TokenBucket.fill, le_min_iff, gain]
  have hgain : 1 ≤ entry.tokens + sub now entry.last * rate config ↔
      (1 - entry.tokens) / rate config ≤ (sub now entry.last : ℚ) := by
    rw [div_le_iff₀ hp.rate_pos, sub_le_iff_le_add']
  rw [and_iff_right hp.one_le_burst, hgain, helapsed, Bucket.due, Int.cast_sub, le_sub_iff_add_le']

theorem Bucket.refill_of_short (hp : Positive config) (h : entry.Within config now)
    (hshort : ¬ 1 ≤ (entry.refill config now).tokens) :
    (entry.refill config now).tokens = entry.tokens + (now - entry.last) * rate config := by
  rw [Bucket.refill_tokens h.last_le h.le_burst, TokenBucket.fill, le_min_iff,
    and_iff_right hp.one_le_burst, not_le] at hshort
  have helapsed : (sub now entry.last : ℚ) < (1 - entry.tokens) / rate config := by
    rw [lt_div_iff₀ hp.rate_pos]
    rw [gain] at hshort
    linarith
  have hsub : sub now entry.last = now - entry.last := by
    have hlt := Int.cast_lt.mp (helapsed.trans_le (Bucket.need_le_max hp h.nonneg))
    have hmin := sub_eq_min h.last_le
    omega
  rw [Bucket.refill_tokens h.last_le h.le_burst, TokenBucket.fill,
    min_eq_right (hshort.le.trans hp.one_le_burst), gain, hsub, Int.cast_sub]

theorem Bucket.due_of_denied (hp : Positive config) (h : entry.Within config now)
    (hdenied : (Bucket.next config now (some entry)).1.1 = false) :
    now < entry.due config ∧ (Bucket.next config now (some entry)).2.due config = entry.due config ∧
      (Bucket.next config now (some entry)).1.2 = ⌊entry.due config⌋ - now := by
  have hnow : (now : ℚ) < entry.due config := by
    rw [← not_le, ← Bucket.next_allowed_iff hp h, hdenied]
    exact Bool.false_ne_true
  have hshort : ¬ 1 ≤ (entry.refill config now).tokens := by
    rw [Bucket.next_some, Bucket.take_allowed] at hdenied
    exact of_decide_eq_false hdenied
  have hdue : now + (1 - (entry.refill config now).tokens) / rate config = entry.due config := by
    have hrate := hp.rate_pos.ne'
    rw [Bucket.refill_of_short hp h hshort, Bucket.due]
    field_simp
    ring
  rw [Bucket.next_some, Bucket.take, if_neg hshort]
  refine ⟨hnow, hdue, ?_⟩
  have hneed : (1 - (entry.refill config now).tokens) / rate config = entry.due config - now := by
    linarith
  rw [hneed, truncate_of_nonneg (by linarith), Int.floor_sub_intCast]

end

theorem due_le_retryAfter_iff {due : ℚ} {now : Int} (h : now < due) :
    due ≤ ((now + retryAfter (⌊due⌋ - now) * 1000000000 : Int) : ℚ) ↔
      ¬ ((⌊due⌋ : ℚ) ≠ due ∧ now < ⌊due⌋ ∧ 1000000000 ∣ ⌊due⌋ - now) := by
  have hfloor : now ≤ ⌊due⌋ := Int.le_floor.mpr h.le
  by_cases hwhole : now < ⌊due⌋ ∧ 1000000000 ∣ ⌊due⌋ - now
  · have hannounced : now + retryAfter (⌊due⌋ - now) * 1000000000 = ⌊due⌋ := by
      rw [retryAfter]
      omega
    rw [hannounced, and_iff_left hwhole, not_not]
    exact ⟨fun hle => le_antisymm (Int.floor_le due) hle, fun heq => heq.ge⟩
  · have hlater : ⌊due⌋ + 1 ≤ now + retryAfter (⌊due⌋ - now) * 1000000000 := by
      rw [retryAfter]
      omega
    have hdue : due ≤ ((now + retryAfter (⌊due⌋ - now) * 1000000000 : Int) : ℚ) := by
      have hcast : ((⌊due⌋ + 1 : Int) : ℚ) ≤ _ := Int.cast_le.mpr hlater
      push_cast at hcast ⊢
      linarith [Int.lt_floor_add_one due]
    exact iff_of_true hdue fun hmissed => hwhole hmissed.2

section
variable {config : RateLimit}

def Limiter.Within (config : RateLimit) (now : Int) (l : Limiter) : Prop :=
  ∀ (key : String) (entry : Bucket), l.buckets[key]? = some entry → entry.Within config now

variable {l : Limiter} {calls : List (Int × String)} {t : Int}

theorem mem_of_reclaimed {now : Int} {key : String} {entry : Bucket}
    (he : (reclaimed (sweep config) now l)[key]? = some entry) : l.buckets[key]? = some entry := by
  rw [reclaimed] at he
  split at he
  · exact (mem_sweep.mp he).1
  · exact he

theorem Limiter.Within.call (hp : Positive config) {now : Int}
    (h : l.Within config now) (key : String) : (allow config now key l).2.Within config now := by
  intro k entry he
  by_cases hk : key = k
  · subst hk
    rw [allow, allowWith_self] at he
    rw [← Option.some.inj he]
    exact Bucket.Within.next hp fun e' he' => h key e' (mem_of_reclaimed he')
  · rw [allow, allowWith_of_ne now hk] at he
    exact h k entry (mem_of_reclaimed he)

theorem Limiter.Within.after (hp : Positive config) : ∀ {l : Limiter} {now : Int}, l.Within config now → now ≤ t →
      (now :: calls.map Prod.fst).Pairwise (· ≤ ·) → (∀ c ∈ calls, c.1 ≤ t) →
        (after (allow config) l calls).Within config t := by
  induction calls with
  | nil =>
    intro l now h hnow _ _ key entry he
    exact (h key entry he).mono hnow
  | cons c calls ih =>
    intro l now h hnow hsorted ht
    obtain ⟨hfirst, hrest⟩ := List.pairwise_cons.mp hsorted
    have hc : now ≤ c.1 := hfirst c.1 (.head _)
    have hcalled : (allow config c.1 c.2 l).2.Within config c.1 :=
      Limiter.Within.call hp (fun key entry he => (h key entry he).mono hc) c.2
    exact ih hcalled (ht c (.head _)) hrest fun d hd => ht d (.tail _ hd)

theorem within_after (hp : Positive config)
    (hsorted : (calls.map Prod.fst).Pairwise (· ≤ ·)) (ht : ∀ c ∈ calls, c.1 ≤ t) :
    (after (allow config) newLimiter calls).Within config t := by
  cases calls with
  | nil =>
    intro key entry he
    rw [after, List.foldl_nil, newLimiter, GoMap.get_empty] at he
    cases he
  | cons c calls =>
    have hempty : newLimiter.Within config c.1 := by
      intro key entry he
      rw [newLimiter, GoMap.get_empty] at he
      cases he
    refine hempty.after hp (ht c (.head _)) ?_ ht
    exact List.pairwise_cons.mpr ⟨fun t' ht' => by
      rcases List.mem_cons.mp ht' with rfl | hmem
      · exact le_rfl
      · exact (List.pairwise_cons.mp hsorted).1 t' hmem, hsorted⟩

theorem entry_of_denied (hp : Positive config) {key : String}
    (h : l.Within config t) (hdenied : (allow config t key l).1.1 = false) :
    ∃ entry, l.buckets[key]? = some entry ∧ entry.Within config t ∧
      (allow config t key l).1 = (Bucket.next config t (some entry)).1 ∧
      (allow config t key l).2.buckets[key]? = some (Bucket.next config t (some entry)).2 := by
  rw [allow, allowWith_decision] at hdenied
  cases hk : (reclaimed (sweep config) t l)[key]? with
  | none =>
    rw [hk, Bucket.next_none, Bucket.take_allowed] at hdenied
    exact absurd hp.one_le_burst (of_decide_eq_false hdenied)
  | some entry =>
    have hfound := mem_of_reclaimed hk
    refine ⟨entry, hfound, h key entry hfound, ?_, ?_⟩
    · rw [allow, allowWith_decision, hk]
    · rw [allow, allowWith_self, hk]

end

/-! ## The answer -/

/-- The call at `now` works on the bucket the key had in `l`: no other call on the key came between, and
no sweep. -/
def Untouched (config : RateLimit) (key : String) (now : Int) (l later : Limiter) : Prop :=
  (reclaimed (sweep config) now later)[key]? = l.buckets[key]?

def LetThrough (config : RateLimit) (key : String) (t seconds : Int) (l : Limiter) : Prop :=
  ∀ later, Untouched config key (t + seconds * 1000000000) l later →
    (allow config (t + seconds * 1000000000) key later).1.1 = true

theorem letThrough_iff {config : RateLimit} (hp : Positive config) {key : String} {t seconds : Int}
    {l : Limiter} {entry : Bucket} (hentry : l.buckets[key]? = some entry)
    (hwithin : entry.Within config t) (hseconds : 0 ≤ seconds) :
    LetThrough config key t seconds l ↔
      entry.due config ≤ ((t + seconds * 1000000000 : Int) : ℚ) := by
  have hlater : entry.Within config (t + seconds * 1000000000) := hwithin.mono (by omega)
  rw [← Bucket.next_allowed_iff hp hlater]
  constructor
  · intro h
    -- a limiter whose next call does not sweep
    have hdecision := h ⟨0, l.buckets⟩ rfl
    rw [allow, allowWith_decision] at hdecision
    rw [← hdecision, ← hentry]
    rfl
  · intro h later hlater
    rw [allow, allowWith_decision, hlater, hentry]
    exact h

theorem limited_answer {env : Environment} {w : Writer} {r : Request} {rule : RuleTable}
    {clientIP : String} {config : RateLimit} {wait : Int} {answer : Enforced}
    (hvalid : rule.extensionsInvalid = false) (hrule : rule.limiter = some config)
    (hlimited : env.allow config (keyFor config r clientIP) = (false, wait))
    (hanswer : serveExtensions env w r rule clientIP = some answer) :
    answer.extension = some .ratelimit ∧
      answer.writer.header.get "Retry-After" = toString (retryAfter wait) := by
  have hover : limited env rule r clientIP = some (config, wait) := by
    rw [limited, hrule, Option.bind_some, hlimited]
    rfl
  rw [serveExtensions, hvalid, if_neg Bool.false_ne_true, hover] at hanswer
  obtain ⟨denied, -, rfl⟩ := Option.map_eq_some_iff.mp hanswer
  refine ⟨rfl, ?_⟩
  rw [Header.get, Header.values_set _ _ _ rfl]
  rfl

def threeInTen : RateLimit := ⟨3, 10000, 1, "client_ip", 429⟩

def limitedRule : RuleTable :=
  ⟨[], [], [], [], none, false, 0, 0, 0, some threeInTen, none, none, false⟩

def environmentAt (t : Int) : Environment where
  providers := ⟨t, [], [], [], fun _ => none, fun _ _ => .error .rejected,
    fun _ _ _ => .error .rejected, fun _ _ => .error .rejected⟩
  resolve := fun _ r => (r.remoteAddr, false)
  allow := fun config key =>
    (allow config t key (after (allow config) newLimiter [(0, "192.0.2.1")])).1
  inspect := fun _ _ _ _ => .ok none

def plainRequest : Request :=
  ⟨"GET", "shop.example.com", "/", "/", ∅, ∅, [], "192.0.2.1:4000", none⟩

def toldAt (t : Int) : Option Enforced :=
  serveExtensions (environmentAt t) ⟨∅, []⟩ plainRequest limitedRule "192.0.2.1"

end Krouter.RateLimiting
