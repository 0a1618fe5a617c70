import Mathlib.Data.List.Induction

/-! A loop that collects elements once for each key: what it returns are the first ones of their
keys. -/

namespace Krouter

variable {α κ : Type} [DecidableEq κ] (keep : α → Prop) [DecidablePred keep] (key : α → κ)

def collectFirst (kept : List α) (a : α) : List α :=
  if keep a ∧ ¬ kept.any (fun c => key c = key a) then kept ++ [a] else kept

def firsts (l : List α) : List α := l.foldl (collectFirst keep key) []

theorem firsts_append_singleton (l : List α) (a : α) :
    firsts keep key (l ++ [a]) = collectFirst keep key (firsts keep key l) a := by
  rw [firsts, List.foldl_append]
  rfl

/-- `a` is to be kept, and is the first of its key at its place. -/
def FirstAt (before : List α) (a : α) : Prop := keep a ∧ ∀ c ∈ before, keep c → key c ≠ key a

variable {keep key}

theorem mem_collectFirst {kept : List α} {a b : α} :
    b ∈ collectFirst keep key kept a ↔ b ∈ kept ∨ b = a ∧ keep a ∧ ∀ c ∈ kept, key c ≠ key a := by
  unfold collectFirst
  split_ifs with h
  · simp only [List.any_eq_true, decide_eq_true_eq, not_exists, not_and] at h
    rw [List.mem_append, List.mem_singleton]
    exact or_congr_right (and_iff_left h).symm
  · simp only [List.any_eq_true, decide_eq_true_eq, not_exists, not_and] at h
    exact (or_iff_left fun hb => h hb.2.1 hb.2.2).symm

theorem key_mem_firsts {l : List α} {k : κ} :
    (∃ c ∈ firsts keep key l, key c = k) ↔ ∃ c ∈ l, keep c ∧ key c = k := by
  induction l using List.reverseRecOn with
  | nil => simp [firsts]
  | append_singleton l a ih =>
    simp only [firsts_append_singleton, mem_collectFirst, List.mem_append, List.mem_singleton]
    constructor
    · rintro ⟨c, hc | ⟨rfl, hkeep, -⟩, hk⟩
      · obtain ⟨d, hd, hkept⟩ := ih.mp ⟨c, hc, hk⟩
        exact ⟨d, .inl hd, hkept⟩
      · exact ⟨c, .inr rfl, hkeep, hk⟩
    · rintro ⟨c, hc | rfl, hkeep, hk⟩
      · obtain ⟨d, hd, hdk⟩ := ih.mpr ⟨c, hc, hkeep, hk⟩
        exact ⟨d, .inl hd, hdk⟩
      · -- the last element is collected unless its key is there already
        by_cases hseen : ∃ d ∈ firsts keep key l, key d = key c
        · obtain ⟨d, hd, hdk⟩ := hseen
          exact ⟨d, .inl hd, hdk.trans hk⟩
        · exact ⟨c, .inr ⟨rfl, hkeep, fun d hd hdk => hseen ⟨d, hd, hdk⟩⟩, hk⟩

theorem mem_firsts {l : List α} {a : α} :
    a ∈ firsts keep key l ↔ ∃ before after, l = before ++ a :: after ∧ FirstAt keep key before a := by
  induction l using List.reverseRecOn with
  | nil => simp [firsts]
  | append_singleton l b ih =>
    rw [firsts_append_singleton, mem_collectFirst, ih]
    constructor
    · rintro (⟨before, after, rfl, hfirst⟩ | ⟨rfl, hkeep, hnew⟩)
      · exact ⟨before, after ++ [b], by simp, hfirst⟩
      · refine ⟨l, [], rfl, hkeep, fun c hc hkept hk => ?_⟩
        obtain ⟨d, hd, hdk⟩ := key_mem_firsts.mpr ⟨c, hc, hkept, hk⟩
        exact hnew d hd hdk
    · rintro ⟨before, after, hsplit, hfirst⟩
      cases after using List.reverseRecOn with
      | nil =>
        obtain ⟨rfl, hba⟩ := List.append_inj' hsplit rfl
        obtain rfl := (List.cons.inj hba).1
        refine .inr ⟨rfl, hfirst.1, fun c hc hk => ?_⟩
        obtain ⟨d, hd, hkept, hdk⟩ := key_mem_firsts.mp ⟨c, hc, hk⟩
        exact hfirst.2 d hd hkept hdk
      | append_singleton after last =>
        rw [← List.cons_append, ← List.append_assoc] at hsplit
        exact .inl ⟨before, after, (List.append_inj' hsplit rfl).1, hfirst⟩

end Krouter
