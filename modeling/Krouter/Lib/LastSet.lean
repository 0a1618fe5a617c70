import Mathlib.Data.List.Basic

/-! Optional attributes over a list of documents: a later document overrides what it sets and
inherits the rest. -/

namespace Krouter

variable {D S α : Type}

@[grind =] def lastSet (f : D → Option α) : List D → Option α
  | [] => none
  | d :: docs => (lastSet f docs).or (f d)

theorem foldl_eq_lastSet (step : S → D → S) (get : S → Option α) (f : D → Option α)
    (h : ∀ s d, get (step s d) = (f d).or (get s)) (docs : List D) (s : S) :
    get (docs.foldl step s) = (lastSet f docs).or (get s) := by
  induction docs generalizing s with
  | nil => rfl
  | cons d docs ih => rw [List.foldl_cons, ih, h, lastSet, Option.or_assoc]

theorem lastSet_eq_none {f : D → Option α} {docs : List D} :
    lastSet f docs = none ↔ ∀ d ∈ docs, f d = none := by
  induction docs with
  | nil => simp [lastSet]
  | cons d docs ih => rw [lastSet, Option.or_eq_none_iff, ih, List.forall_mem_cons, and_comm]

theorem lastSet_append (f : D → Option α) (xs ys : List D) :
    lastSet f (xs ++ ys) = (lastSet f ys).or (lastSet f xs) := by
  induction xs with
  | nil => rw [List.nil_append, lastSet, Option.or_none]
  | cons d xs ih => rw [List.cons_append, lastSet, lastSet, ih, Option.or_assoc]

theorem lastSet_eq_some {f : D → Option α} {docs : List D} {v : α} :
    lastSet f docs = some v ↔ ∃ before d after, docs = before ++ d :: after ∧ f d = some v ∧
      ∀ e ∈ after, f e = none := by
  constructor
  · intro h
    induction docs with
    | nil => cases h
    | cons d docs ih =>
      rw [lastSet, Option.or_eq_some_iff] at h
      rcases h with h | ⟨hnone, hd⟩
      · obtain ⟨before, e, after, rfl, he, hafter⟩ := ih h
        exact ⟨d :: before, e, after, rfl, he, hafter⟩
      · exact ⟨[], d, docs, rfl, hd, lastSet_eq_none.mp hnone⟩
  · rintro ⟨before, d, after, rfl, hd, hafter⟩
    rw [lastSet_append, lastSet, lastSet_eq_none.mpr hafter, Option.none_or, hd, Option.some_or]

theorem lastSet_forall {f : D → Option α} {docs : List D} {p : α → Prop}
    (h : ∀ d ∈ docs, ∀ v ∈ f d, p v) : ∀ v ∈ lastSet f docs, p v := by
  intro v hv
  obtain ⟨before, d, after, rfl, hd, -⟩ := lastSet_eq_some.mp hv
  exact h d (by simp) v hd

end Krouter
