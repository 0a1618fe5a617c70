import Mathlib.Data.List.Basic

/-! Runs of a system that moves by events, each step meeting a condition on the state before
it and the event. -/

variable {S E : Type*}

inductive Runs (step : S → E → Option S) (meets : S → E → Prop) : S → List E → S → Prop
  | nil (s : S) : Runs step meets s [] s
  | cons {s s' s'' : S} {e : E} {es : List E} : meets s e → step s e = some s' →
      Runs step meets s' es s'' → Runs step meets s (e :: es) s''

namespace Runs
variable {step : S → E → Option S} {meets : S → E → Prop} {s s' : S} {es : List E}

theorem invariant (inv : S → Prop)
    (hstep : ∀ s e s', inv s → meets s e → step s e = some s' → inv s')
    (h : Runs step meets s es s') (hs : inv s) : inv s' := by
  induction h with
  | nil s => exact hs
  | cons hmeets hmove _ ih => exact ih (hstep _ _ _ hs hmeets hmove)

theorem single {e : E} (hmeets : meets s e) (hmove : step s e = some s') : Runs step meets s [e] s' :=
  .cons hmeets hmove (.nil s')

def exec (step : S → E → Option S) (meets : S → E → Prop) [∀ s e, Decidable (meets s e)] :
    S → List E → Option S
  | s, [] => some s
  | s, e :: es => if meets s e then (step s e).bind fun s' => exec step meets s' es else none

theorem of_exec [∀ s e, Decidable (meets s e)] (h : exec step meets s es = some s') :
    Runs step meets s es s' := by
  induction es generalizing s with
  | nil =>
    rw [← Option.some.inj h]
    exact .nil s
  | cons e es ih =>
    rw [exec] at h
    split at h
    · obtain ⟨s₁, hmove, hrest⟩ := Option.bind_eq_some_iff.mp h
      exact .cons ‹_› hmove (ih hrest)
    · cases h

theorem exists_of_exec [∀ s e, Decidable (meets s e)] {check : S → Bool}
    (h : (exec step meets s es).any check = true) : ∃ s', Runs step meets s es s' ∧ check s' = true := by
  cases hexec : exec step meets s es with
  | none =>
    rw [hexec] at h
    cases h
  | some s' =>
    rw [hexec] at h
    exact ⟨s', of_exec hexec, h⟩

end Runs
