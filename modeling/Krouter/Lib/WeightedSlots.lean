import Mathlib.Data.Nat.Periodic

/-! Items that own as many consecutive slots as they weigh, visited round-robin. -/

namespace WeightedSlots
variable {α : Type*} (weight : α → ℕ)

def owner : List α → ℕ → Option α
  | [], _ => none
  | a :: l, slot => if slot < weight a then some a else owner l (slot - weight a)

def total (l : List α) : ℕ := (l.map weight).sum

@[simp] theorem total_cons (a : α) (l : List α) : total weight (a :: l) = weight a + total weight l := rfl

theorem owner_cons_of_lt {a : α} {slot : ℕ} (l : List α) (h : slot < weight a) :
    owner weight (a :: l) slot = some a := if_pos h

theorem owner_cons_add (a : α) (l : List α) (slot : ℕ) :
    owner weight (a :: l) (weight a + slot) = owner weight l slot := by
  rw [owner, if_neg (by omega), Nat.add_sub_cancel_left]

theorem owner_eq_none_iff {l : List α} {slot : ℕ} : owner weight l slot = none ↔ total weight l ≤ slot := by
  induction l generalizing slot with
  | nil => exact iff_of_true rfl (Nat.zero_le slot)
  | cons a l ih =>
    rw [owner, total_cons]
    split_ifs with hlt
    · exact iff_of_false not_false (by omega)
    · rw [ih]
      omega

theorem count_owner (p : α → Bool) (l : List α) :
    Nat.count (fun slot => (owner weight l slot).any p = true) (total weight l) =
      total weight (l.filter p) := by
  induction l with
  | nil => rfl
  | cons a l ih =>
    have hhead : Nat.count (fun slot => (owner weight (a :: l) slot).any p = true) (weight a) =
        if p a then weight a else 0 := by
      have hcongr : ∀ slot < weight a, (owner weight (a :: l) slot).any p = p a := fun slot hslot => by
        rw [owner_cons_of_lt weight l hslot, Option.any_some]
      split_ifs with hp
      · exact Nat.count_iff_forall.mpr fun _ hslot => by rw [hcongr _ hslot, hp]
      · exact Nat.count_iff_forall_not.mpr fun _ hslot => by rw [hcongr _ hslot]; exact hp
    rw [total_cons, Nat.count_add, hhead]
    simp only [owner_cons_add]
    rw [ih, List.filter_cons]
    split_ifs
    · rfl
    · rw [Nat.zero_add]

/-! ## Places -/

def place : List α → ℕ → Option ℕ
  | [], _ => none
  | a :: l, slot => if slot < weight a then some 0 else (place l (slot - weight a)).map (· + 1)

theorem place_cons_of_lt {a : α} {slot : ℕ} (l : List α) (h : slot < weight a) :
    place weight (a :: l) slot = some 0 := if_pos h

theorem place_cons_add (a : α) (l : List α) (slot : ℕ) :
    place weight (a :: l) (weight a + slot) = (place weight l slot).map (· + 1) := by
  rw [place, if_neg (by omega), Nat.add_sub_cancel_left]

theorem count_place (l : List α) (i : ℕ) :
    Nat.count (fun slot => place weight l slot = some i) (total weight l) = (l[i]?).elim 0 weight := by
  induction l generalizing i with
  | nil => rfl
  | cons a l ih =>
    rw [total_cons, Nat.count_add]
    simp only [place_cons_add]
    cases i with
    | zero =>
      have hhead : Nat.count (fun slot => place weight (a :: l) slot = some 0) (weight a) = weight a :=
        Nat.count_iff_forall.mpr fun slot hslot => place_cons_of_lt weight l hslot
      have hrest : Nat.count (fun slot => (place weight l slot).map (· + 1) = some 0) (total weight l) = 0 :=
        Nat.count_iff_forall_not.mpr fun slot _ => by simp
      rw [hhead, hrest]
      rfl
    | succ i =>
      have hhead : Nat.count (fun slot => place weight (a :: l) slot = some (i + 1)) (weight a) = 0 :=
        Nat.count_iff_forall_not.mpr fun slot hslot => by rw [place_cons_of_lt weight l hslot]; simp
      have hsucc : ∀ slot, (place weight l slot).map (· + 1) = some (i + 1) ↔ place weight l slot = some i :=
        fun slot => by simp
      simp only [hsucc]
      rw [hhead, ih, Nat.zero_add, List.getElem?_cons_succ]

/-! ## Windows -/

theorem card_window_eq_count (q : ℕ → Prop) [DecidablePred q] (n start : ℕ) :
    ((Finset.Ico start (start + n)).filter fun v => q (v % n)).card = Nat.count q n := by
  have hperiodic : Function.Periodic (fun v => q (v % n)) n := fun v => by
    simp only [Nat.add_mod_right]
  rw [Nat.filter_Ico_card_eq_of_periodic start n _ hperiodic]
  simp only [Nat.count_eq_card_filter_range]
  refine congrArg Finset.card (Finset.filter_congr fun v hv => ?_)
  rw [Nat.mod_eq_of_lt (Finset.mem_range.mp hv)]

theorem card_window (p : α → Bool) (l : List α) (start : ℕ) :
    ((Finset.Ico start (start + total weight l)).filter fun n =>
      (owner weight l (n % total weight l)).any p = true).card = total weight (l.filter p) := by
  rw [card_window_eq_count fun slot => (owner weight l slot).any p = true, count_owner]

theorem countP_place_window (l : List α) (i start : ℕ) :
    (List.range' start (total weight l)).countP (fun n => place weight l (n % total weight l) = some i) =
      (l[i]?).elim 0 weight := by
  rw [← count_place, ← card_window_eq_count (fun slot => place weight l slot = some i) (total weight l) start,
    List.countP_eq_length_filter]
  have hlength : start + total weight l - start = total weight l := Nat.add_sub_cancel_left start _
  change _ = (List.filter _ (List.range' start (start + total weight l - start))).length
  rw [hlength]

end WeightedSlots
