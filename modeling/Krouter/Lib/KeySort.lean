import Mathlib.Data.List.Nodup
import Mathlib.Data.List.Sort
import Mathlib.Data.String.Basic

/-! Sorting by a key that elements may share. The result is determined by the elements alone if their
keys are distinct; otherwise it may depend on the order they came in. -/

namespace KeySort
variable {α β κ : Type*} [LinearOrder κ] (key : α → κ)

/-- What `sort.Slice` promises with a comparison of keys: nothing about elements with one key. -/
structure SortsBy (sort : List α → List α) : Prop where
  perm : ∀ l, (sort l).Perm l
  sorted : ∀ l, (sort l).Pairwise fun a b => ¬ key b < key a

theorem sortsBy_insertionSort : SortsBy key (List.insertionSort fun a b => ¬ key b < key a) := by
  have htotal : Std.Total fun a b => ¬ key b < key a :=
    ⟨fun a b => (le_total (key a) (key b)).imp not_lt.mpr not_lt.mpr⟩
  have htrans : IsTrans α fun a b => ¬ key b < key a :=
    ⟨fun a b c hab hbc => not_lt.mpr ((not_lt.mp hab).trans (not_lt.mp hbc))⟩
  exact ⟨List.perm_insertionSort _, List.pairwise_insertionSort _⟩

variable {key}

theorem SortsBy.eq_of_perm {sort sort' : List α → List α} (h : SortsBy key sort) (h' : SortsBy key sort')
    {l l' : List α} (hperm : l.Perm l') (hdistinct : (l.map key).Nodup) : sort l = sort' l' := by
  refine List.Perm.eq_of_pairwise (fun a b ha hb hab hba => ?_) (h.sorted l) (h'.sorted l')
    (((h.perm l).trans hperm).trans (h'.perm l').symm)
  have ha : a ∈ l := (h.perm l).mem_iff.mp ha
  have hb : b ∈ l := hperm.mem_iff.mpr ((h'.perm l').mem_iff.mp hb)
  exact List.inj_on_of_nodup_map hdistinct ha hb (le_antisymm (not_lt.mp hab) (not_lt.mp hba))

/-- Insertion leaves elements with one key as they came. -/
theorem pair_sublist_insertionSort {l : List α} {a b : α} (hkey : key a = key b) (h : [a, b].Sublist l) :
    [a, b].Sublist (l.insertionSort fun a b => ¬ key b < key a) :=
  List.pair_sublist_insertionSort (by rw [hkey]; exact lt_irrefl _) h

/-! ## Pairs in a list -/

theorem pair_sublist_cons {l : List α} {a b c : α} (h : [a, b].Sublist (c :: l)) :
    a = c ∧ b ∈ l ∨ [a, b].Sublist l := by
  cases h with
  | cons _ h => exact .inr h
  | cons_cons _ h => exact .inl ⟨rfl, List.singleton_sublist.mp h⟩

theorem not_both_orders {l : List α} (hl : l.Nodup) {a b : α} (hab : [a, b].Sublist l) (hba : [b, a].Sublist l) :
    False := by
  induction l with
  | nil => cases hab
  | cons c l ih =>
    obtain ⟨hc, hl⟩ := List.nodup_cons.mp hl
    rcases pair_sublist_cons hab with ⟨rfl, hb⟩ | hrest
    · rcases pair_sublist_cons hba with ⟨rfl, -⟩ | hba
      · exact hc hb
      · exact hc (hba.subset (List.mem_cons_of_mem b (.head _)))
    · rcases pair_sublist_cons hba with ⟨rfl, -⟩ | hba
      · exact hc (hrest.subset (List.mem_cons_of_mem a (.head _)))
      · exact ih hl hrest hba

/-- Elements with one key come out of the insertion the other way round when they come backwards. -/
theorem nodup_of_reverse {ν : Type*} {name : α → ν} {l : List α} (hnames : (l.map name).Nodup)
    (h : (l.insertionSort fun a b => ¬ key b < key a).map name =
      (l.reverse.insertionSort fun a b => ¬ key b < key a).map name) : (l.map key).Nodup := by
  rw [List.Nodup, List.pairwise_map, List.pairwise_iff_forall_sublist]
  intro a b hab hkey
  have hsorted : ((l.insertionSort fun a b => ¬ key b < key a).map name).Nodup :=
    ((List.perm_insertionSort _ l).map name).nodup_iff.mpr hnames
  refine not_both_orders hsorted ((pair_sublist_insertionSort hkey hab).map name) ?_
  rw [h]
  exact (pair_sublist_insertionSort hkey.symm hab.reverse).map name

/-- Two elements of different parts change places when the parts are put together backwards. -/
theorem pair_sublist_flatMap_reverse {f : β → List α} {l : List β} {a b : α}
    (happart : ∀ part ∈ l, a ∈ f part → b ∉ f part) (h : [a, b].Sublist (l.flatMap f)) :
    [b, a].Sublist (l.reverse.flatMap f) := by
  induction l with
  | nil => cases h
  | cons part l ih =>
    rw [List.reverse_cons, List.flatMap_append, List.flatMap_singleton]
    have hrest : ∀ part ∈ l, a ∈ f part → b ∉ f part := fun p hp => happart p (List.mem_cons_of_mem part hp)
    rw [List.flatMap_cons] at h
    obtain ⟨before, after, hsplit, hbefore, hafter⟩ := List.sublist_append_iff.mp h
    rcases before with _ | ⟨x, _ | ⟨y, more⟩⟩
    · rw [List.nil_append] at hsplit
      rw [← hsplit] at hafter
      exact (ih hrest hafter).trans (List.sublist_append_left ..)
    · rw [List.singleton_append, List.cons.injEq] at hsplit
      obtain ⟨rfl, rfl⟩ := hsplit
      obtain ⟨p, hp, hbp⟩ := List.mem_flatMap.mp (List.singleton_sublist.mp hafter)
      have hback : b ∈ l.reverse.flatMap f := List.mem_flatMap.mpr ⟨p, List.mem_reverse.mpr hp, hbp⟩
      exact (List.singleton_sublist.mpr hback).append hbefore
    · rw [List.cons_append, List.cons_append, List.cons.injEq, List.cons.injEq] at hsplit
      obtain ⟨rfl, rfl, -⟩ := hsplit
      have ha : a ∈ f part := hbefore.subset (.head _)
      have hb : b ∈ f part := hbefore.subset (List.mem_cons_of_mem a (.head _))
      exact absurd hb (happart part (.head _) ha)

end KeySort
