import Mathlib.Data.List.Basic

/-! Decimal integers as Go's `strconv` writes and reads them, as character lists. -/

namespace Decimal

def isDigit (c : Char) : Bool := 48 ≤ c.toNat && c.toNat ≤ 57

def itoa (n : Int) : List Char :=
  if n < 0 then '-' :: Nat.toDigits 10 n.natAbs else Nat.toDigits 10 n.natAbs

def atoiUnsigned (s : List Char) : Option Nat :=
  if s ≠ [] ∧ s.all isDigit then some (Nat.ofDigitChars 10 s 0) else none

def atoi : List Char → Option Int
  | '-' :: rest => (atoiUnsigned rest).map fun n : Nat => -(n : Int)
  | s => (atoiUnsigned s).map fun n : Nat => (n : Int)

theorem isDigit_eq (c : Char) : isDigit c = c.isDigit := by
  rfl

theorem toDigits_all (n : Nat) : ∀ c ∈ Nat.toDigits 10 n, isDigit c = true := by
  intro c hc
  rw [isDigit_eq]
  exact Nat.isDigit_of_mem_toDigits (by decide) (by decide) hc

theorem toDigits_head (n : Nat) : ∃ c cs, Nat.toDigits 10 n = c :: cs ∧ (c = '0' → cs = []) := by
  induction n using Nat.strongRecOn with
  | _ n ih =>
    by_cases hn : n < 10
    · exact ⟨n.digitChar, [], Nat.toDigits_of_lt_base hn, fun _ => rfl⟩
    · obtain ⟨c, cs, he, hz⟩ := ih (n / 10) (by omega)
      refine ⟨c, cs ++ [(n % 10).digitChar], ?_, fun hc => ?_⟩
      · rw [Nat.toDigits_of_base_le (by decide) (by omega), he, List.cons_append]
      · -- a leading zero would make `n / 10` zero
        have hv := Nat.ofDigitChars_toDigits (b := 10) (n := n / 10) (by decide) (by decide)
        rw [he, hz hc, hc] at hv
        simp only [Nat.ofDigitChars_cons, Nat.ofDigitChars_nil] at hv
        have h0 : ('0' : Char).toNat = 48 := by decide
        omega

theorem atoiUnsigned_toDigits (n : Nat) : atoiUnsigned (Nat.toDigits 10 n) = some n := by
  rw [atoiUnsigned, if_pos ⟨Nat.toDigits_ne_nil, List.all_eq_true.mpr (toDigits_all n)⟩,
    Nat.ofDigitChars_toDigits (by decide) (by decide)]

theorem atoi_of_digit {c : Char} {cs : List Char} (h : isDigit c = true) :
    atoi (c :: cs) = (atoiUnsigned (c :: cs)).map fun n : Nat => (n : Int) := by
  unfold atoi
  split
  · next heq =>
    obtain ⟨rfl, -⟩ := List.cons.inj heq
    exact absurd h (by decide)
  · rfl

theorem atoi_itoa (n : Int) : atoi (itoa n) = some n := by
  obtain ⟨c, cs, he, -⟩ := toDigits_head n.natAbs
  have hc : isDigit c = true := toDigits_all n.natAbs c (he ▸ .head _)
  have hu := atoiUnsigned_toDigits n.natAbs
  unfold itoa
  split_ifs with hn
  · rw [atoi, hu, Option.map_some]
    congr 1
    omega
  · rw [he] at hu ⊢
    rw [atoi_of_digit hc, hu, Option.map_some]
    congr 1
    omega

theorem itoa_injective : Function.Injective itoa := fun m n h =>
  Option.some.inj (by rw [← atoi_itoa m, h, atoi_itoa])

theorem itoa_chars (n : Int) : ∀ c ∈ itoa n, c = '-' ∨ isDigit c = true := by
  intro c hc
  unfold itoa at hc
  split_ifs at hc
  · rcases List.mem_cons.mp hc with rfl | hc
    · exact .inl rfl
    · exact .inr (toDigits_all _ c hc)
  · exact .inr (toDigits_all _ c hc)

end Decimal
