import Mathlib.Data.List.TakeWhile
import Mathlib.Logic.Relation

/-! `bufio.Reader` looking for a delimiter. Reads fill a buffer of a fixed size; one that is full without
a delimiter is set aside, and the search goes on with an empty one. -/

namespace Bufio
open Relation
variable {α : Type}

structure Reader (α : Type) where
  /-- The full buffers that were set aside, in order. -/
  aside : List α
  buffered : List α
  /-- What the source will still give. -/
  coming : List α

namespace Reader

def start (stream : List α) : Reader α := ⟨[], [], stream⟩

def taken (r : Reader α) : List α := r.aside ++ r.buffered

end Reader

section
variable (size : Nat) (delim : α)

/-- One read of the source, which gives some of what fits. -/
inductive Fill : Reader α → Reader α → Prop
  | mk (aside buffered chunk rest : List α) : chunk ≠ [] → buffered.length + chunk.length ≤ size →
      Fill ⟨aside, buffered, chunk ++ rest⟩ ⟨aside, buffered ++ chunk, rest⟩

def PeekStep (n : Nat) (r r' : Reader α) : Prop := r.buffered.length < n ∧ Fill size r r'

/-- The loop of `ReadString`, as long as it goes on. -/
inductive SearchStep : Reader α → Reader α → Prop
  | fill {r r' : Reader α} : delim ∉ r.buffered → r.buffered.length < size → Fill size r r' → SearchStep r r'
  | full {r : Reader α} : delim ∉ r.buffered → size ≤ r.buffered.length →
      SearchStep r ⟨r.aside ++ r.buffered, [], r.coming⟩

end

variable {size n : Nat} {delim : α} {r r' : Reader α}

theorem Fill.conserves (h : Fill size r r') : r'.taken ++ r'.coming = r.taken ++ r.coming := by
  cases h with
  | mk aside buffered chunk rest => simp [Reader.taken]

theorem Fill.aside (h : Fill size r r') : r'.aside = r.aside := by
  cases h with
  | mk aside buffered chunk rest => rfl

theorem Fill.fits (h : Fill size r r') : r'.buffered.length ≤ size := by
  cases h with
  | mk aside buffered chunk rest hchunk hfits => rwa [List.length_append]

theorem SearchStep.conserves (h : SearchStep size delim r r') : r'.taken ++ r'.coming = r.taken ++ r.coming := by
  cases h with
  | fill hdelim hroom hfill => exact hfill.conserves
  | full hdelim hfull => simp [Reader.taken]

theorem SearchStep.notMem_aside (h : SearchStep size delim r r') (hr : delim ∉ r.aside) : delim ∉ r'.aside := by
  cases h with
  | fill hdelim hroom hfill => rwa [hfill.aside]
  | full hdelim hfull => exact fun hmem => (List.mem_append.mp hmem).elim hr hdelim

theorem SearchStep.fits (h : SearchStep size delim r r') : r'.buffered.length ≤ size := by
  cases h with
  | fill hdelim hroom hfill => exact hfill.fits
  | full hdelim hfull => exact Nat.zero_le size

theorem conserves_of_peek (h : ReflTransGen (PeekStep size n) r r') :
    r'.taken ++ r'.coming = r.taken ++ r.coming ∧ r'.aside = r.aside := by
  induction h with
  | refl => exact ⟨rfl, rfl⟩
  | tail _ hstep ih => exact ⟨hstep.2.conserves.trans ih.1, hstep.2.aside.trans ih.2⟩

theorem fits_of_peek (h : ReflTransGen (PeekStep size n) r r') (hr : r.buffered.length ≤ size) :
    r'.buffered.length ≤ size := by
  cases h with
  | refl => exact hr
  | tail _ hstep => exact hstep.2.fits

theorem conserves_of_search (h : ReflTransGen (SearchStep size delim) r r') :
    r'.taken ++ r'.coming = r.taken ++ r.coming := by
  induction h with
  | refl => rfl
  | tail _ hstep ih => exact hstep.conserves.trans ih

theorem notMem_aside_of_search (h : ReflTransGen (SearchStep size delim) r r') (hr : delim ∉ r.aside) :
    delim ∉ r'.aside := by
  induction h with
  | refl => exact hr
  | tail _ hstep ih => exact hstep.notMem_aside ih

theorem fits_of_search (h : ReflTransGen (SearchStep size delim) r r') (hr : r.buffered.length ≤ size) :
    r'.buffered.length ≤ size := by
  cases h with
  | refl => exact hr
  | tail _ hstep => exact hstep.fits

theorem aside_eq_nil_of_search {stream : List α} (hnear : delim ∈ stream.take size ∨ stream.length < size)
    (h : ReflTransGen (SearchStep size delim) r r') (hr : r.taken ++ r.coming = stream) (haside : r.aside = []) :
    r'.aside = [] := by
  induction h with
  | refl => exact haside
  | @tail s s' hrun hstep ih =>
    cases hstep with
    | fill hdelim hroom hfill => rw [hfill.aside, ih]
    | full hdelim hfull =>
      have hstream : s.buffered ++ s.coming = stream := by
        rw [← hr, ← conserves_of_search hrun, Reader.taken, ih, List.nil_append]
      rcases hnear with hmem | hlength
      · rw [← hstream, List.take_append_of_le_length hfull] at hmem
        exact absurd (List.mem_of_mem_take hmem) hdelim
      · rw [← hstream, List.length_append] at hlength
        omega

end Bufio
