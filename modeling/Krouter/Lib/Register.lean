import Mathlib.Data.List.Induction

/-! A register that each event resets, keeps or writes, as the history before it says. Its content is the
latest write since the last reset. -/

namespace Register
variable {α τ : Type}

inductive Effect (τ : Type) where
  | reset
  | keep
  | write (value : τ)
  deriving DecidableEq

variable (effect : List α → α → Effect τ)

/-- `value` was written by event number `index`, and every later event kept it. -/
def Latest (history : List α) (value : τ) (index : Nat) : Prop :=
  ∃ before event after, history = before ++ event :: after ∧ index = before.length ∧
    effect before event = .write value ∧
    ∀ mid later rest, after = mid ++ later :: rest → effect (before ++ event :: mid) later = .keep

variable {effect}

variable {history : List α} {last : α} {value : τ} {index : Nat}

theorem concat_eq_append_cons {before after : List α} {event : α}
    (h : history ++ [last] = before ++ event :: after) :
    (after = [] ∧ before = history ∧ event = last) ∨
      ∃ init, after = init ++ [last] ∧ history = before ++ event :: init := by
  rcases List.eq_nil_or_concat after with rfl | ⟨init, x, rfl⟩
  · obtain ⟨rfl, hx⟩ := List.append_inj' h rfl
    exact .inl ⟨rfl, rfl, (List.singleton_inj.mp hx).symm⟩
  · have h' : history ++ [last] = (before ++ event :: init) ++ [x] := by
      simpa using h
    obtain ⟨rfl, hx⟩ := List.append_inj' h' rfl
    exact .inr ⟨init, by rw [List.singleton_inj.mp hx, List.concat_eq_append], rfl⟩

theorem not_latest_nil : ¬ Latest effect [] value index := by
  rintro ⟨before, event, after, h, -⟩
  exact List.cons_ne_nil _ _ (List.append_eq_nil_iff.mp h.symm).2

theorem not_latest_of_reset (h : effect history last = .reset) : ¬ Latest effect (history ++ [last]) value index := by
  rintro ⟨before, event, after, hh, -, hw, hk⟩
  rcases concat_eq_append_cons hh with ⟨rfl, rfl, rfl⟩ | ⟨init, rfl, rfl⟩
  · rw [h] at hw
    cases hw
  · have := hk init last [] rfl
    rw [h] at this
    cases this

theorem latest_iff_of_keep (h : effect history last = .keep) :
    Latest effect (history ++ [last]) value index ↔ Latest effect history value index := by
  constructor
  · rintro ⟨before, event, after, hh, hi, hw, hk⟩
    rcases concat_eq_append_cons hh with ⟨rfl, rfl, rfl⟩ | ⟨init, rfl, rfl⟩
    · rw [h] at hw
      cases hw
    · exact ⟨before, event, init, rfl, hi, hw, fun mid later rest he =>
        hk mid later (rest ++ [last]) (by rw [he]; simp)⟩
  · rintro ⟨before, event, after, rfl, hi, hw, hk⟩
    refine ⟨before, event, after ++ [last], by simp, hi, hw, fun mid later rest he => ?_⟩
    rcases concat_eq_append_cons he with ⟨rfl, rfl, rfl⟩ | ⟨init, rfl, rfl⟩
    · exact h
    · exact hk mid later init rfl

theorem latest_iff_of_write {written : τ} (h : effect history last = .write written) :
    Latest effect (history ++ [last]) value index ↔ value = written ∧ index = history.length := by
  constructor
  · rintro ⟨before, event, after, hh, hi, hw, hk⟩
    rcases concat_eq_append_cons hh with ⟨rfl, rfl, rfl⟩ | ⟨init, rfl, rfl⟩
    · rw [h] at hw
      cases hw
      exact ⟨rfl, hi⟩
    · have := hk init last [] rfl
      rw [h] at this
      cases this
  · rintro ⟨rfl, rfl⟩
    exact ⟨history, last, [], rfl, rfl, h, fun mid later rest he => by simp at he⟩

variable (effect) in
/-- Whatever follows the effects event by event holds the latest write. -/
theorem eq_some_iff_latest (content : List α → Option (τ × Nat)) (history : List α)
    (hnil : content [] = none)
    (hstep : ∀ past last, past ++ [last] <+: history → content (past ++ [last]) =
      match effect past last with
      | .reset => none
      | .keep => content past
      | .write value => some (value, past.length))
    {v : τ} {i : Nat} : content history = some (v, i) ↔ Latest effect history v i := by
  induction history using List.reverseRecOn with
  | nil =>
    rw [hnil]
    exact ⟨fun h => (by cases h), fun h => (not_latest_nil h).elim⟩
  | append_singleton history last ih =>
    have ih := ih fun past x hp => hstep past x (hp.trans (List.prefix_append history [last]))
    rw [hstep history last (List.prefix_refl _)]
    cases he : effect history last with
    | reset => exact ⟨fun h => (by cases h), fun h => (not_latest_of_reset he h).elim⟩
    | keep => rw [latest_iff_of_keep he, ih]
    | write written =>
      rw [latest_iff_of_write he]
      simp only [Option.some.injEq, Prod.mk.injEq]
      exact ⟨fun h => ⟨h.1.symm, h.2.symm⟩, fun h => ⟨h.1.symm, h.2.symm⟩⟩

end Register
