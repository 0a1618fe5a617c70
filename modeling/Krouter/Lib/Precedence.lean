import Mathlib.Data.List.Sort
import Mathlib.Order.Lattice

/-! Objects with an age and a name, the oldest first and equal ages by name: what sorting makes of them,
whatever the order they came in. -/

namespace Precedence
variable {α τ ν : Type} [LinearOrder τ] [LinearOrder ν]

def Precedes (age : α → τ) (name : α → ν) (a b : α) : Prop :=
  age a < age b ∨ age a = age b ∧ ¬ name b < name a

instance (age : α → τ) (name : α → ν) : DecidableRel (Precedes age name) :=
  fun _ _ => inferInstanceAs (Decidable (_ ∨ _))

def sort (age : α → τ) (name : α → ν) (l : List α) : List α := l.insertionSort (Precedes age name)

variable {age : α → τ} {name : α → ν}

instance : Std.Total (Precedes age name) where
  total a b := by
    rcases lt_trichotomy (age a) (age b) with h | h | h
    · exact Or.inl (Or.inl h)
    · rcases le_total (name a) (name b) with hn | hn
      · exact Or.inl (Or.inr ⟨h, hn.not_gt⟩)
      · exact Or.inr (Or.inr ⟨h.symm, hn.not_gt⟩)
    · exact Or.inr (Or.inl h)

instance : IsTrans α (Precedes age name) where
  trans a b c := by
    rintro (hab | ⟨hab, hn⟩) (hbc | ⟨hbc, hn'⟩)
    · exact Or.inl (hab.trans hbc)
    · exact Or.inl (hbc ▸ hab)
    · exact Or.inl (hab ▸ hbc)
    · exact Or.inr ⟨hab.trans hbc, ((not_lt.mp hn).trans (not_lt.mp hn')).not_gt⟩

theorem Precedes.name_eq {a b : α} (h : Precedes age name a b) (h' : Precedes age name b a) :
    name a = name b := by
  rcases h with h | ⟨he, hn⟩ <;> rcases h' with h' | ⟨he', hn'⟩
  · exact absurd h' h.not_gt
  · exact absurd he' h.ne'
  · exact absurd he h'.ne'
  · exact le_antisymm (not_lt.mp hn) (not_lt.mp hn')

theorem mem_sort {l : List α} {a : α} : a ∈ sort age name l ↔ a ∈ l := List.mem_insertionSort _

theorem pairwise_sort (l : List α) : (sort age name l).Pairwise (Precedes age name) :=
  List.pairwise_insertionSort _ l

theorem perm_sort (l : List α) : (sort age name l).Perm l := List.perm_insertionSort _ l

theorem sort_eq_of_perm {l m : List α} (hnames : (l.map name).Nodup) (h : l.Perm m) :
    sort age name l = sort age name m := by
  refine List.Perm.eq_of_pairwise (fun a b ha hb hab hba => ?_) (pairwise_sort l) (pairwise_sort m)
    ((perm_sort l).trans (h.trans (perm_sort m).symm))
  exact List.inj_on_of_nodup_map hnames (mem_sort.mp ha) (h.mem_iff.mpr (mem_sort.mp hb))
    (hab.name_eq hba)

structure Oldest (age : α → τ) (name : α → ν) (p : α → Prop) (l : List α) (c : α) : Prop where
  mem : c ∈ l
  passes : p c
  first : ∀ d ∈ l, p d → Precedes age name c d

theorem oldest_of_find? {l : List α} {p : α → Bool} {c : α} (h : (sort age name l).find? p = some c) :
    Oldest age name (p · = true) l c := by
  obtain ⟨hc, before, after, hsplit, hbefore⟩ := List.find?_eq_some_iff_append.mp h
  have hsorted : (before ++ c :: after).Pairwise (Precedes age name) := hsplit ▸ pairwise_sort l
  refine ⟨mem_sort.mp (List.mem_of_find?_eq_some h), hc, fun d hd hp => ?_⟩
  have hmem : d ∈ before ++ c :: after := hsplit ▸ mem_sort.mpr hd
  rcases List.mem_append.mp hmem with hd | hd
  · have hnot := hbefore d hd
    rw [hp] at hnot
    cases hnot
  · rcases List.mem_cons.mp hd with rfl | hd
    · exact refl_of (Precedes age name) d
    · exact (List.pairwise_cons.mp (List.pairwise_append.mp hsorted).2.1).1 d hd

end Precedence
