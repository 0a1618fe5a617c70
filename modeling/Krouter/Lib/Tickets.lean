import Krouter.Lib.Runs
import Mathlib.Data.List.Perm.Subperm
import Mathlib.Data.List.Range

/-! Requests that draw a number from a shared counter and are answered in any order. The numbers are
consecutive, so what a window of them was answered does not depend on the interleaving. -/

namespace Tickets
variable {α : Type*}

structure State (α : Type*) where
  counter : ℕ
  /-- Numbers drawn and not answered yet. -/
  held : List ℕ
  answered : List (ℕ × α)

inductive Event
  | draw
  | answer (number : ℕ)

def start (counter : ℕ) : State α := ⟨counter, [], []⟩

/-- Drawing is atomic; the answer depends on the number alone. -/
def step (f : ℕ → α) (s : State α) : Event → Option (State α)
  | .draw => some { s with counter := s.counter + 1, held := s.counter :: s.held }
  | .answer number =>
    if number ∈ s.held then
      some { s with held := s.held.erase number, answered := (number, f number) :: s.answered }
    else none

/-- The numbers from the first one to the counter, each held or answered once. -/
structure Consecutive (f : ℕ → α) (first : ℕ) (s : State α) : Prop where
  below : first ≤ s.counter
  numbers : (s.held ++ s.answered.map Prod.fst).Perm (List.range' first (s.counter - first))
  answers : ∀ a ∈ s.answered, a.2 = f a.1

variable {f : ℕ → α} {first : ℕ} {s s' : State α}

theorem consecutive_start (f : ℕ → α) (first : ℕ) : Consecutive f first (start first) := by
  refine ⟨Nat.le_refl first, ?_, fun a ha => absurd ha List.not_mem_nil⟩
  rw [start, Nat.sub_self]
  exact List.Perm.refl _

theorem Consecutive.step {e : Event} (h : Consecutive f first s) (hstep : step f s e = some s') :
    Consecutive f first s' := by
  cases e with
  | draw =>
    obtain rfl := Option.some.inj hstep
    refine ⟨Nat.le_succ_of_le h.below, ?_, h.answers⟩
    have hlength : s.counter + 1 - first = s.counter - first + 1 := Nat.succ_sub h.below
    have hlast : first + (s.counter - first) = s.counter := Nat.add_sub_cancel' h.below
    rw [hlength, List.range'_1_concat, hlast]
    exact (h.numbers.cons s.counter).trans (List.perm_append_singleton ..).symm
  | answer number =>
    rw [Tickets.step] at hstep
    split at hstep
    · next hheld =>
      obtain rfl := Option.some.inj hstep
      refine ⟨h.below, List.Perm.trans ?_ h.numbers, ?_⟩
      · exact List.perm_middle.trans ((List.perm_cons_erase hheld).symm.append_right _)
      · exact List.forall_mem_cons.mpr ⟨rfl, h.answers⟩
    · cases hstep

theorem Consecutive.of_runs {meets : State α → Event → Prop} {es : List Event}
    (h : Runs (Tickets.step f) meets (Tickets.start first) es s) : Consecutive f first s :=
  h.invariant (Consecutive f first) (fun _ _ _ hs _ hmove => hs.step hmove) (consecutive_start f first)

def State.window (s : State α) (low n : ℕ) : List α :=
  (s.answered.filter fun a => low ≤ a.1 ∧ a.1 < low + n).map Prod.snd

theorem filter_range'_perm {a k b n : ℕ} (hfirst : a ≤ b) (hlast : b + n ≤ a + k) :
    ((List.range' a k).filter fun v => b ≤ v ∧ v < b + n).Perm (List.range' b n) := by
  refine (List.perm_ext_iff_of_nodup ((List.nodup_range' ..).filter _) (List.nodup_range' ..)).mpr fun v => ?_
  rw [List.mem_filter, List.mem_range'_1, List.mem_range'_1, decide_eq_true_iff]
  omega

theorem Consecutive.window (h : Consecutive f first s) {low n : ℕ} (hfirst : first ≤ low)
    (hlast : low + n ≤ s.counter) (hdone : ∀ v ∈ s.held, ¬ (low ≤ v ∧ v < low + n)) :
    (s.window low n).Perm ((List.range' low n).map f) := by
  have hheld : (s.held.filter fun v => low ≤ v ∧ v < low + n) = [] :=
    List.filter_eq_nil_iff.mpr fun v hv => by simpa using hdone v hv
  have hall := h.numbers.filter fun v => low ≤ v ∧ v < low + n
  rw [List.filter_append, hheld, List.nil_append, List.filter_map] at hall
  have hbelow := h.below
  have hnumbers := hall.trans (filter_range'_perm hfirst (by omega))
  refine List.Perm.trans (List.Perm.of_eq ?_) (hnumbers.map f)
  rw [List.map_map]
  refine List.map_congr_left fun a ha => ?_
  exact h.answers a (List.mem_filter.mp ha).1

end Tickets
