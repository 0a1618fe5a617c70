import Mathlib.Data.List.Basic

/-! Texts joined by a separator come apart again if none of them contains it. -/

namespace Joined

section
variable {α : Type*} {c : α}

theorem intercalate_append_cons (a b : List α) (l : List (List α)) :
    [c].intercalate ((a ++ c :: b) :: l) = [c].intercalate (a :: b :: l) := by
  cases l with
  | nil => rw [List.intercalate_cons_cons, List.intercalate_singleton, List.intercalate_singleton, List.append_assoc,
      List.singleton_append]
  | cons x l =>
    rw [List.intercalate_cons_cons, List.intercalate_cons_cons, List.intercalate_cons_cons]
    simp only [List.append_assoc, List.cons_append, List.nil_append]

theorem intercalate_inj [DecidableEq α] {l l' : List (List α)} (hl : ∀ x ∈ l, c ∉ x) (hl' : ∀ x ∈ l', c ∉ x)
    (hne : l ≠ []) (hne' : l' ≠ []) (h : [c].intercalate l = [c].intercalate l') : l = l' := by
  rw [← List.splitOn_intercalate c hl hne, h, List.splitOn_intercalate c hl' hne']

theorem append_flatMap_cons (init : List α) (l : List (List α)) :
    init ++ l.flatMap (c :: ·) = [c].intercalate (init :: l) := by
  induction l generalizing init with
  | nil => rw [List.flatMap_nil, List.append_nil, List.intercalate_singleton]
  | cons x l ih =>
    rw [List.flatMap_cons, ← List.append_assoc, ih, intercalate_append_cons]

theorem flatMap_append_singleton (l : List (List α)) :
    l.flatMap (· ++ [c]) = [c].intercalate (l ++ [[]]) := by
  induction l with
  | nil => rfl
  | cons x l ih =>
    have hne : l ++ [[]] ≠ [] := List.append_ne_nil_of_right_ne_nil l (List.cons_ne_nil _ _)
    rw [List.flatMap_cons, ih, List.cons_append, List.intercalate_cons_of_ne_nil hne]

end

theorem toList_foldl_join {β : Type*} (sep : Char) (text : β → String) (l : List β) (init : String) :
    (l.foldl (fun acc b => acc ++ String.singleton sep ++ text b) init).toList =
      [sep].intercalate (init.toList :: l.map fun b => (text b).toList) := by
  induction l generalizing init with
  | nil => exact (List.intercalate_singleton ..).symm
  | cons b l ih =>
    rw [List.foldl_cons, ih, String.toList_append, String.toList_append, String.toList_singleton, List.append_assoc,
      List.singleton_append, intercalate_append_cons]
    rfl

end Joined
