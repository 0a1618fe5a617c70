import Mathlib.Data.List.Basic

/-! Cutting a list at every doubled separator. What was joined from parts that do not end in it comes
apart into their fields, which determine the list. -/

namespace Krouter.Fields

section
variable {α : Type*}

def consHead (a : α) : List (List α) → List (List α)
  | [] => [[a]]
  | f :: fs => (a :: f) :: fs

theorem consHead_append (a : α) {fs : List (List α)} (h : fs ≠ []) (gs : List (List α)) :
    consHead a (fs ++ gs) = consHead a fs ++ gs := by
  cases fs with
  | nil => exact absurd rfl h
  | cons f fs => rfl

theorem intercalate_consHead (s : List α) (a : α) {fs : List (List α)} (h : fs ≠ []) :
    s.intercalate (consHead a fs) = a :: s.intercalate fs := by
  cases fs with
  | nil => exact absurd rfl h
  | cons f fs => cases fs <;> simp [consHead, List.intercalate_cons_cons]

end

variable {α : Type*} [DecidableEq α]

def fields (d : α) : List α → List (List α)
  | [] => [[]]
  | [a] => [[a]]
  | a :: b :: rest =>
    if a = d ∧ b = d then [] :: fields d rest else consHead a (fields d (b :: rest))

theorem fields_ne_nil (d : α) (l : List α) : fields d l ≠ [] := by
  fun_cases fields d l with
  | case1 => exact List.cons_ne_nil _ _
  | case2 a => exact List.cons_ne_nil _ _
  | case3 a b rest h => exact List.cons_ne_nil _ _
  | case4 a b rest h => cases fields d (b :: rest) <;> exact List.cons_ne_nil _ _

theorem fields_append (d : α) {l : List α} (h : l.getLast? ≠ some d) (r : List α) :
    fields d (l ++ d :: d :: r) = fields d l ++ fields d r := by
  fun_induction fields d l with
  | case1 => simp [fields]
  | case2 a =>
    have ha : a ≠ d := fun ha => h (congrArg some ha)
    simp [fields, ha, consHead]
  | case3 a b rest hab ih =>
    obtain ⟨rfl, rfl⟩ := hab
    have hrest : rest.getLast? ≠ some b := by
      cases rest with
      | nil => simp
      | cons c rest => simpa using h
    simp [fields, ih hrest]
  | case4 a b rest hab ih =>
    have hrest : (b :: rest).getLast? ≠ some d := by simpa using h
    have hih := ih hrest
    rw [List.cons_append] at hih
    rw [List.cons_append, List.cons_append, fields, if_neg hab, hih,
      consHead_append a (fields_ne_nil d _)]

theorem intercalate_fields (d : α) (l : List α) : [d, d].intercalate (fields d l) = l := by
  fun_induction fields d l with
  | case1 => simp
  | case2 a => simp
  | case3 a b rest hab ih =>
    obtain ⟨rfl, rfl⟩ := hab
    obtain ⟨f, fs, hf⟩ := List.exists_cons_of_ne_nil (fields_ne_nil b rest)
    rw [hf, List.intercalate_cons_cons, ← hf, ih]
    rfl
  | case4 a b rest hab ih => rw [intercalate_consHead _ _ (fields_ne_nil d _), ih]

theorem fields_injective (d : α) : Function.Injective (fields d) := by
  intro l r h
  rw [← intercalate_fields d l, h, intercalate_fields]

end Krouter.Fields
