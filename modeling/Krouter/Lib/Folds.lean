import Mathlib.Data.List.Basic

/-! Loops over a list: what no step changes, and an output that grows by one entry for each element
that is picked. -/

namespace List
variable {σ α β γ : Type*} {step : σ → α → σ} {l : List α}

theorem foldl_kept (out : σ → β) (h : ∀ s, ∀ a ∈ l, out (step s a) = out s) (s : σ) :
    out (l.foldl step s) = out s :=
  foldlRecOn l step (motive := fun t => out t = out s) rfl fun t ht a ha => (h t a ha).trans ht

theorem foldl_appends (out : σ → List β) (I : σ → Prop) {pick : α → Option γ} {entry : γ → β}
    (hnone : ∀ s a, I s → pick a = none → out (step s a) = out s ∧ I (step s a))
    (hsome : ∀ s a c, I s → c ∈ l.filterMap pick → pick a = some c →
      out (step s a) = out s ++ [entry c] ∧ I (step s a)) {s : σ} (h : I s) :
    out (l.foldl step s) = out s ++ (l.filterMap pick).map entry ∧ I (l.foldl step s) := by
  induction l generalizing s with
  | nil => exact ⟨(append_nil _).symm, h⟩
  | cons a l ih =>
    rw [foldl_cons]
    cases hpick : pick a with
    | none =>
      obtain ⟨hout, hnext⟩ := hnone s a h hpick
      rw [filterMap_cons_none hpick] at hsome ⊢
      rw [← hout]
      exact ih hsome hnext
    | some c =>
      rw [filterMap_cons_some hpick] at hsome ⊢
      obtain ⟨hout, hnext⟩ := hsome s a c h mem_cons_self hpick
      obtain ⟨hlist, hlast⟩ := ih (fun s a c hs hc => hsome s a c hs (mem_cons_of_mem _ hc)) hnext
      rw [hlist, hout, append_assoc]
      exact ⟨rfl, hlast⟩

end List
