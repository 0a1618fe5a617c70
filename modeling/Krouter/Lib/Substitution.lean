import Mathlib.Data.List.Infix

/-! Replacing words of a text in one pass, and one word after another. A pass over the result of another
also finds its word where that has put it; marks keep the two apart. -/

namespace Substitution
variable {α β γ : Type} [DecidableEq α]

/-- The scan with the number of elements that are left of the word it has just met. -/
def scan (words : List (List α × List β)) (keep : α → List β) : Nat → List α → List β
  | _, [] => []
  | k + 1, _ :: s => scan words keep k s
  | 0, a :: s =>
    match words.find? fun word => word.1.isPrefixOf (a :: s) with
    | some word => word.2 ++ scan words keep (word.1.length - 1) s
    | none => keep a ++ scan words keep 0 s

def substitute (words : List (List α × List β)) (keep : α → List β) (s : List α) : List β := scan words keep 0 s

def replaceAll (old new s : List α) : List α := substitute [(old, new)] (fun a => [a]) s

section
variable {words : List (List α × List β)} {keep : α → List β}

theorem scan_eq_drop (k : Nat) (s : List α) : scan words keep k s = substitute words keep (s.drop k) := by
  induction s generalizing k with
  | nil => cases k <;> rfl
  | cons a s ih =>
    cases k with
    | zero => rfl
    | succ k => exact ih k

theorem substitute_append {old : List α} {new : List β} (hne : old ≠ []) {s : List α}
    (h : (words.find? fun w => w.1.isPrefixOf (old ++ s)) = some (old, new)) :
    substitute words keep (old ++ s) = new ++ substitute words keep s := by
  obtain ⟨a, rest, rfl⟩ := List.exists_cons_of_ne_nil hne
  rw [List.cons_append] at h ⊢
  rw [substitute, scan, h]
  dsimp only
  rw [scan_eq_drop, List.length_cons, Nat.add_sub_cancel, List.drop_left]

theorem substitute_cons {a : α} {s : List α} (h : (words.find? fun w => w.1.isPrefixOf (a :: s)) = none) :
    substitute words keep (a :: s) = keep a ++ substitute words keep s := by
  rw [substitute, scan, h]
  rfl

theorem substitute_induction (words : List (List α × List β)) (hne : ∀ word ∈ words, word.1 ≠ [])
    {motive : List α → Prop} (nil : motive [])
    (occurrence : ∀ old new s, (words.find? fun w => w.1.isPrefixOf (old ++ s)) = some (old, new) → old ≠ [] →
      motive s → motive (old ++ s))
    (step : ∀ a s, (words.find? fun w => w.1.isPrefixOf (a :: s)) = none → motive s → motive (a :: s)) (s : List α) :
    motive s := by
  induction hn : s.length using Nat.strong_induction_on generalizing s with
  | _ n ih =>
    cases s with
    | nil => exact nil
    | cons a s =>
      cases hfind : words.find? fun w => w.1.isPrefixOf (a :: s) with
      | none => exact step a s hfind (ih s.length (by simp [← hn]) s rfl)
      | some word =>
        have hword := hne word (List.mem_of_find?_eq_some hfind)
        have hprefix : word.1.isPrefixOf (a :: s) = true :=
          List.find?_some (p := fun w : List α × List β => w.1.isPrefixOf (a :: s)) hfind
        obtain ⟨t, ht⟩ := List.isPrefixOf_iff_prefix.mp hprefix
        rw [← ht] at hfind hn ⊢
        have hlength := List.length_pos_iff.mpr hword
        exact occurrence word.1 word.2 t hfind hword (ih t.length (by rw [← hn, List.length_append]; omega) t rfl)

theorem flatMap_substitute (hne : ∀ word ∈ words, word.1 ≠ []) (f : β → List γ) (s : List α) :
    (substitute words keep s).flatMap f =
      substitute (words.map fun word => (word.1, word.2.flatMap f)) (fun a => (keep a).flatMap f) s := by
  have hfind : ∀ t : List α, ((words.map fun word => (word.1, word.2.flatMap f)).find? fun w => w.1.isPrefixOf t) =
      (words.find? fun w => w.1.isPrefixOf t).map fun word => (word.1, word.2.flatMap f) := fun t => by
    rw [List.find?_map]
    rfl
  induction s using substitute_induction words hne with
  | nil => rfl
  | occurrence old new s h hold ih =>
    rw [substitute_append hold h, List.flatMap_append, ih]
    refine (substitute_append hold ?_).symm
    rw [hfind, h]
    rfl
  | step a s h ih =>
    rw [substitute_cons h, List.flatMap_append, ih]
    refine Eq.symm (substitute_cons ?_)
    rw [hfind, h]
    rfl

end

section
variable {old new : List α}

theorem replaceAll_append (hold : old ≠ []) (s : List α) :
    replaceAll old new (old ++ s) = new ++ replaceAll old new s :=
  substitute_append hold (by simp)

theorem replaceAll_cons {a : α} {s : List α} (h : ¬ old <+: a :: s) :
    replaceAll old new (a :: s) = a :: replaceAll old new s :=
  substitute_cons (by simpa using h)

theorem replaceAll_induction (old : List α) (hold : old ≠ []) {motive : List α → Prop} (nil : motive [])
    (occurrence : ∀ s, motive s → motive (old ++ s))
    (step : ∀ a s, ¬ old <+: a :: s → motive s → motive (a :: s)) (s : List α) : motive s := by
  induction s using substitute_induction [(old, ([] : List α))] (by simpa using hold) with
  | nil => exact nil
  | occurrence word _ s h _ ih =>
    obtain ⟨rfl, -⟩ := Prod.mk.inj (List.mem_singleton.mp (List.mem_of_find?_eq_some h))
    exact occurrence s ih
  | step a s h ih => exact step a s (by simpa using h) ih

theorem replaceAll_eq_self {s : List α} (h : ¬ old <:+: s) : replaceAll old new s = s := by
  induction s with
  | nil => rfl
  | cons a s ih =>
    rw [replaceAll_cons fun hprefix => h hprefix.isInfix, ih fun hin => h (hin.trans (List.suffix_cons a s).isInfix)]

theorem replaceAll_append_of_notMem {o : α} {rest q : List α} (ho : o ∉ q) (s : List α) :
    replaceAll (o :: rest) new (q ++ s) = q ++ replaceAll (o :: rest) new s := by
  induction q with
  | nil => rfl
  | cons a q ih =>
    rw [List.mem_cons, not_or] at ho
    rw [List.cons_append, replaceAll_cons fun h => ho.1 (List.cons_prefix_cons.mp h).1, ih ho.2]
    rfl

/-- Putting a word in its own place changes nothing, unless another word begins within it. -/
theorem substitute_itself {o : α} {rest word : List α} (hword : word ≠ []) (ho : o ∉ word.tail) (s : List α) :
    substitute [(o :: rest, new), (word, word)] (fun a => [a]) s = replaceAll (o :: rest) new s := by
  induction s using substitute_induction [(o :: rest, new), (word, word)] (by simpa using hword) with
  | nil => rfl
  | occurrence old _ s h hold ih =>
    rw [substitute_append hold h, ih]
    rw [List.find?_cons] at h
    split at h
    · obtain ⟨rfl, rfl⟩ := Prod.mk.inj (Option.some.inj h)
      exact (replaceAll_append hold s).symm
    next hnot =>
      obtain ⟨rfl, rfl⟩ := Prod.mk.inj (List.mem_singleton.mp (List.mem_of_find?_eq_some h))
      obtain ⟨a, q, rfl⟩ := List.exists_cons_of_ne_nil hold
      have hnot : ¬ o :: rest <+: a :: (q ++ s) := by
        rw [← List.isPrefixOf_iff_prefix]
        exact Bool.eq_false_iff.mp hnot
      rw [List.tail_cons] at ho
      rw [List.cons_append, List.cons_append, replaceAll_cons hnot, replaceAll_append_of_notMem ho]
  | step a s h ih =>
    have hnot := List.find?_eq_none.mp h (o :: rest, new) (.head _)
    rw [List.isPrefixOf_iff_prefix] at hnot
    rw [substitute_cons h, ih, replaceAll_cons hnot]
    rfl

end

/-! ## Texts with marks -/

def fill (word : List α) (m : List (Option α)) : List α := m.flatMap fun x => x.elim word fun a => [a]

section
variable {o : α} {rest new : List α}

omit [DecidableEq α] in
theorem fill_cons (word : List α) (x : Option α) (m : List (Option α)) :
    fill word (x :: m) = (x.elim word fun a => [a]) ++ fill word m := rfl

omit [DecidableEq α] in
theorem fill_map_some_append (word s : List α) (m : List (Option α)) :
    fill word (s.map some ++ m) = s ++ fill word m := by
  simp [fill, List.flatMap_append, List.flatMap_map]

omit [DecidableEq α] in
theorem map_some_prefix_of_fill {q : List α} (ho : o ∉ q) {m : List (Option α)} (h : q <+: fill (o :: rest) m) :
    q.map some <+: m := by
  induction q generalizing m with
  | nil => exact List.nil_prefix
  | cons a q ih =>
    rw [List.mem_cons, not_or] at ho
    rcases m with _ | ⟨_ | b, m⟩
    · cases List.prefix_nil.mp h
    · exact absurd (List.cons_prefix_cons.mp h).1.symm ho.1
    · obtain ⟨rfl, hq⟩ := List.cons_prefix_cons.mp h
      exact List.cons_prefix_cons.mpr ⟨rfl, ih ho.2 hq⟩

/-- A second pass finds the word at the marks, and where the text itself spells it. -/
theorem replaceAll_fill (ho : o ∉ rest) (new : List α) (m : List (Option α)) :
    replaceAll (o :: rest) new (fill (o :: rest) m) = fill new (replaceAll ((o :: rest).map some) [none] m) := by
  induction m using replaceAll_induction ((o :: rest).map some) (by simp) with
  | nil => rfl
  | occurrence m ih =>
    rw [fill_map_some_append, replaceAll_append (by simp), replaceAll_append (by simp), ih]
    rfl
  | step x m h ih =>
    rw [replaceAll_cons h, fill_cons, fill_cons, ← ih]
    cases x with
    | none => exact replaceAll_append (by simp) _
    | some a =>
      refine replaceAll_cons fun hprefix => ?_
      obtain ⟨rfl, hrest⟩ := List.cons_prefix_cons.mp hprefix
      exact h (List.cons_prefix_cons.mpr ⟨rfl, map_some_prefix_of_fill ho hrest⟩)

theorem length_fill_replaceAll {old : List α} (hold : old.map some ≠ []) (new : List α) (m : List (Option α)) :
    ∃ k, (fill new (replaceAll (old.map some) [none] m)).length + k * old.length =
      (fill new m).length + k * new.length := by
  induction m using replaceAll_induction (old.map some) hold with
  | nil => exact ⟨0, by simp [replaceAll, substitute, scan]⟩
  | occurrence m ih =>
    obtain ⟨k, hk⟩ := ih
    refine ⟨k + 1, ?_⟩
    rw [replaceAll_append hold, List.singleton_append, fill_cons, fill_map_some_append]
    simp only [Option.elim_none, List.length_append, Nat.succ_mul]
    omega
  | step x m h ih =>
    obtain ⟨k, hk⟩ := ih
    refine ⟨k, ?_⟩
    rw [replaceAll_cons h, fill_cons, fill_cons]
    simp only [List.length_append]
    omega

theorem fill_replaceAll_iff {old : List α} (hold : old.map some ≠ []) (new : List α) (m : List (Option α)) :
    fill new (replaceAll (old.map some) [none] m) = fill new m ↔ new = old ∨ ¬ old.map some <:+: m := by
  constructor
  · intro heq
    refine or_iff_not_imp_left.mpr fun hne => ?_
    induction m using replaceAll_induction (old.map some) hold with
    | nil => exact fun h => hold (List.infix_nil.mp h)
    | occurrence m ih =>
      rw [replaceAll_append hold, List.singleton_append, fill_cons, fill_map_some_append, Option.elim_none] at heq
      -- every occurrence changes the length by the same amount, so by none
      obtain ⟨k, hk⟩ := length_fill_replaceAll hold new m
      have hsum := congrArg List.length heq
      rw [List.length_append, List.length_append] at hsum
      have hlength : (k + 1) * old.length = (k + 1) * new.length := by
        rw [Nat.succ_mul, Nat.succ_mul]
        omega
      exact absurd (List.append_inj_left heq (Nat.eq_of_mul_eq_mul_left k.succ_pos hlength).symm) hne
    | step x m h ih =>
      rw [replaceAll_cons h, fill_cons, fill_cons] at heq
      rw [List.infix_cons_iff]
      exact not_or.mpr ⟨h, ih (List.append_cancel_left heq)⟩
  · rintro (rfl | h)
    · induction m using replaceAll_induction (new.map some) hold with
      | nil => rfl
      | occurrence m ih =>
        rw [replaceAll_append hold, fill_map_some_append, ← ih]
        rfl
      | step x m h ih =>
        rw [replaceAll_cons h, fill_cons, fill_cons, ih]
    · rw [replaceAll_eq_self h]

end

/-- Two passes do what one pass does, unless the first one lets the text spell the second word. -/
theorem replaceAll_replaceAll_iff {o : α} {second : List α} (ho : o ∉ second) (first x y s : List α) :
    replaceAll (o :: second) y (replaceAll (o :: first) x s) =
        substitute [(o :: first, x), (o :: second, y)] (fun a => [a]) s ↔
      y = o :: second ∨ ¬ (o :: second).map some <:+:
        substitute [(o :: first, x.map some), (o :: second, [none])] (fun a => [some a]) s := by
  have hfill : ∀ word, fill word
      (substitute [(o :: first, x.map some), (o :: second, [none])] (fun a => [some a]) s) =
        substitute [(o :: first, x), (o :: second, word)] (fun a => [a]) s := by
    intro word
    rw [fill, flatMap_substitute (by simp)]
    simp [List.flatMap_map]
  have hfirst := (substitute_itself (List.cons_ne_nil o second) ho s).symm.trans (hfill (o :: second)).symm
  rw [hfirst, replaceAll_fill ho, ← hfill y]
  exact fill_replaceAll_iff (by simp) y _

end Substitution
