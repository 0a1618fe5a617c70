import Mathlib.Algebra.Order.Field.Basic
import Mathlib.Data.List.Count
import Mathlib.Tactic.Linarith
import Mathlib.Tactic.Ring

/-! Token buckets. A bucket gains tokens up to its capacity, and a call is admitted when there is a whole
token to take. Over any interval a bucket admits no more than its capacity and what it gained. -/

set_option linter.unusedSectionVars false

namespace TokenBucket
variable {K : Type*} [Field K] [LinearOrder K] [IsStrictOrderedRing K]

def fill (cap gain level : K) : K := min cap (level + gain)

def drain (level : K) : K := if 1 ≤ level then level - 1 else level

theorem fill_le_cap (cap gain level : K) : fill cap gain level ≤ cap := min_le_left _ _

theorem fill_le_add (cap gain level : K) : fill cap gain level ≤ level + gain := min_le_right _ _

variable {cap level s t : K} {calls : List (K × Bool)}

theorem fill_nonneg {gain : K} (hc : 0 ≤ cap) (hg : 0 ≤ gain) (hl : 0 ≤ level) :
    0 ≤ fill cap gain level := le_min hc (add_nonneg hl hg)

theorem fill_zero (h : level ≤ cap) : fill cap 0 level = level := by
  rw [fill, add_zero, min_eq_right h]

theorem fill_of_cap_le {gain : K} (h : cap ≤ level + gain) : fill cap gain level = cap :=
  min_eq_left h

theorem drain_of_one_le (h : 1 ≤ level) : drain level = level - 1 := if_pos h

theorem drain_of_lt_one (h : ¬ 1 ≤ level) : drain level = level := if_neg h

theorem drain_le (level : K) : drain level ≤ level := by
  by_cases h : 1 ≤ level
  · rw [drain_of_one_le h]
    linarith
  · rw [drain_of_lt_one h]

theorem drain_nonneg (h : 0 ≤ level) : 0 ≤ drain level := by
  by_cases h1 : 1 ≤ level
  · rw [drain_of_one_le h1]
    linarith
  · rwa [drain_of_lt_one h1]

/-! ## The account of a bucket -/

def admitted (calls : List (K × Bool)) (s t : K) : ℕ :=
  calls.countP fun c => c.2 && decide (s ≤ c.1 ∧ c.1 ≤ t)

theorem admitted_append_of_notMem {now : K} {ok : Bool}
    (h : ¬ (s ≤ now ∧ now ≤ t)) : admitted (calls ++ [(now, ok)]) s t = admitted calls s t := by
  rw [admitted, List.countP_append, List.countP_singleton, if_neg (by simp [h])]
  rfl

theorem admitted_append_of_mem {now : K} {ok : Bool} (hs : s ≤ now) (ht : now ≤ t) :
    admitted (calls ++ [(now, ok)]) s t = admitted calls s t + if ok then 1 else 0 := by
  rw [admitted, List.countP_append, List.countP_singleton]
  simp [admitted, hs, ht]

theorem admitted_eq_of_le {last : K}
    (h : ∀ c ∈ calls, c.1 ≤ last) (ht : last ≤ t) : admitted calls s t = admitted calls s last := by
  refine List.countP_congr fun c hc => ?_
  have hl : c.1 ≤ last := h c hc
  have hlt : c.1 ≤ t := hl.trans ht
  simp [hl, hlt]

theorem admitted_eq_zero_of_lt {last : K} (t : K)
    (h : ∀ c ∈ calls, c.1 ≤ last) (hs : last < s) : admitted calls s t = 0 := by
  rw [admitted, List.countP_eq_zero]
  intro c hc
  have hlt : c.1 < s := (h c hc).trans_lt hs
  simp [hlt]

/-- What a bucket's calls, its level and the time of its last call owe each other. -/
structure Account (cap rate : K) (calls : List (K × Bool)) (level last : K) : Prop where
  le_last : ∀ c ∈ calls, c.1 ≤ last
  /-- What was admitted since `s` and what is left came from the capacity and the gains. -/
  reserve : ∀ s ≤ last, admitted calls s last + level ≤ cap + rate * (last - s)
  interval : ∀ s t, s ≤ t → admitted calls s t ≤ cap + rate * (t - s)

namespace Account
variable {cap rate : K} {calls : List (K × Bool)} {level last now gain : K}

theorem start (hc : 0 ≤ cap) (hr : 0 ≤ rate) (now : K) : Account cap rate [] cap now where
  le_last := by simp
  reserve := fun s hs => by
    have hg : 0 ≤ rate * (now - s) := mul_nonneg hr (sub_nonneg.mpr hs)
    simp only [admitted, List.countP_nil, Nat.cast_zero]
    linarith
  interval := fun s t hst => by
    have hg : 0 ≤ rate * (t - s) := mul_nonneg hr (sub_nonneg.mpr hst)
    simp only [admitted, List.countP_nil, Nat.cast_zero]
    linarith

theorem fill_reserve (h : Account cap rate calls level last) (hr : 0 ≤ rate) (hnow : last ≤ now)
    (hg : gain ≤ rate * (now - last)) {s : K} (hs : s ≤ now) :
    admitted calls s now + fill cap gain level ≤ cap + rate * (now - s) := by
  by_cases hsl : s ≤ last
  · have hold := h.reserve s hsl
    have hfill := fill_le_add cap gain level
    have hsplit : rate * (now - s) = rate * (last - s) + rate * (now - last) := by ring
    rw [admitted_eq_of_le h.le_last hnow]
    linarith
  · have hcap := fill_le_cap cap gain level
    have htime : 0 ≤ rate * (now - s) := mul_nonneg hr (sub_nonneg.mpr hs)
    rw [admitted_eq_zero_of_lt now h.le_last (not_le.mp hsl), Nat.cast_zero]
    linarith

theorem drain_add (level : K) :
    ((if decide (1 ≤ level) then 1 else 0 : ℕ) : K) + drain level = level := by
  by_cases h : 1 ≤ level
  · rw [drain_of_one_le h]
    simp [h]
  · rw [drain_of_lt_one h]
    simp [h]

theorem call (h : Account cap rate calls level last) (hc : 0 ≤ cap) (hr : 0 ≤ rate)
    (hl : 0 ≤ level) (hg₀ : 0 ≤ gain) (hnow : last ≤ now) (hg : gain ≤ rate * (now - last)) :
    Account cap rate (calls ++ [(now, decide (1 ≤ fill cap gain level))])
      (drain (fill cap gain level)) now := by
  have hreserve : ∀ s ≤ now,
      (admitted (calls ++ [(now, decide (1 ≤ fill cap gain level))]) s now : K) +
        drain (fill cap gain level) ≤ cap + rate * (now - s) := by
    intro s hs
    have hfill := h.fill_reserve hr hnow hg hs
    have htake := drain_add (fill cap gain level)
    rw [admitted_append_of_mem hs le_rfl, Nat.cast_add]
    linarith
  have hle : ∀ c ∈ calls ++ [(now, decide (1 ≤ fill cap gain level))], c.1 ≤ now := by
    intro c hcm
    rcases List.mem_append.mp hcm with hold | hnew
    · exact (h.le_last c hold).trans hnow
    · rw [List.mem_singleton.mp hnew]
  refine ⟨hle, hreserve, fun s t hst => ?_⟩
  by_cases hin : s ≤ now ∧ now ≤ t
  · have hleft : 0 ≤ drain (fill cap gain level) := drain_nonneg (fill_nonneg hc hg₀ hl)
    have hlong : rate * (now - s) ≤ rate * (t - s) :=
      mul_le_mul_of_nonneg_left (by linarith [hin.2]) hr
    rw [admitted_eq_of_le hle hin.2]
    linarith [hreserve s hin.1]
  · rw [admitted_append_of_notMem hin]
    exact h.interval s t hst

end Account

end TokenBucket
