import Mathlib.Data.List.Basic

/-! `base64.RawURLEncoding`: the URL alphabet without padding. Decoding skips line breaks
and does not look at the unused bits of the last character. -/

namespace Base64

def digitChar (n : Nat) : Char :=
  if n < 26 then Char.ofNat (n + 65)
  else if n < 52 then Char.ofNat (n + 71)
  else if n < 62 then Char.ofNat (n - 4)
  else if n = 62 then '-'
  else '_'

def digitVal (c : Char) : Option Nat :=
  if 65 ≤ c.toNat ∧ c.toNat ≤ 90 then some (c.toNat - 65)
  else if 97 ≤ c.toNat ∧ c.toNat ≤ 122 then some (c.toNat - 71)
  else if 48 ≤ c.toNat ∧ c.toNat ≤ 57 then some (c.toNat + 4)
  else if c = '-' then some 62
  else if c = '_' then some 63
  else none

def encodeDigits : List UInt8 → List Nat
  | a :: b :: c :: rest =>
    a.toNat / 4 :: (a.toNat % 4 * 16 + b.toNat / 16) :: (b.toNat % 16 * 4 + c.toNat / 64) ::
      c.toNat % 64 :: encodeDigits rest
  | [a, b] => [a.toNat / 4, a.toNat % 4 * 16 + b.toNat / 16, b.toNat % 16 * 4]
  | [a] => [a.toNat / 4, a.toNat % 4 * 16]
  | [] => []

def decodeDigits : List Nat → Option (List UInt8)
  | w :: x :: y :: z :: rest =>
    (decodeDigits rest).map fun bytes => UInt8.ofNat (w * 4 + x / 16) ::
      UInt8.ofNat (x % 16 * 16 + y / 4) :: UInt8.ofNat (y % 4 * 64 + z) :: bytes
  | [w, x, y] => some [UInt8.ofNat (w * 4 + x / 16), UInt8.ofNat (x % 16 * 16 + y / 4)]
  | [w, x] => some [UInt8.ofNat (w * 4 + x / 16)]
  | [_] => none
  | [] => some []

def encodeToString (bytes : List UInt8) : String :=
  String.ofList ((encodeDigits bytes).map digitChar)

def decodeString (s : String) : Option (List UInt8) :=
  ((s.toList.filter fun c => c ≠ '\r' ∧ c ≠ '\n').mapM digitVal).bind decodeDigits

theorem digitVal_digitChar {n : Nat} (h : n < 64) : digitVal (digitChar n) = some n := by
  revert n
  decide

theorem digitChar_not_break {n : Nat} (h : n < 64) : digitChar n ≠ '\r' ∧ digitChar n ≠ '\n' := by
  revert n
  decide

theorem digitChar_ne_dot {n : Nat} (h : n < 64) : digitChar n ≠ '.' := by
  revert n
  decide

theorem encodeDigits_lt : ∀ (bytes : List UInt8), ∀ n ∈ encodeDigits bytes, n < 64
  | a :: b :: c :: rest, n, h => by
    have ha := a.toNat_lt
    have hb := b.toNat_lt
    have hc := c.toNat_lt
    simp only [encodeDigits, List.mem_cons] at h
    rcases h with rfl | rfl | rfl | rfl | h
    · omega
    · omega
    · omega
    · omega
    · exact encodeDigits_lt rest n h
  | [a, b], n, h => by
    have ha := a.toNat_lt
    have hb := b.toNat_lt
    simp only [encodeDigits, List.mem_cons, List.not_mem_nil, or_false] at h
    omega
  | [a], n, h => by
    have ha := a.toNat_lt
    simp only [encodeDigits, List.mem_cons, List.not_mem_nil, or_false] at h
    omega
  | [], n, h => by cases h

theorem ofNat_eq (a : UInt8) {n : Nat} (h : n = a.toNat) : UInt8.ofNat n = a := by
  rw [h, UInt8.ofNat_toNat]

theorem decodeDigits_encodeDigits : ∀ bytes : List UInt8,
    decodeDigits (encodeDigits bytes) = some bytes
  | a :: b :: c :: rest => by
    have ha := a.toNat_lt
    have hb := b.toNat_lt
    have hc := c.toNat_lt
    rw [encodeDigits, decodeDigits, decodeDigits_encodeDigits rest, Option.map_some,
      ofNat_eq a (by omega), ofNat_eq b (by omega), ofNat_eq c (by omega)]
  | [a, b] => by
    have ha := a.toNat_lt
    have hb := b.toNat_lt
    rw [encodeDigits, decodeDigits, ofNat_eq a (by omega), ofNat_eq b (by omega)]
  | [a] => by
    have ha := a.toNat_lt
    rw [encodeDigits, decodeDigits, ofNat_eq a (by omega)]
  | [] => rfl

theorem decodeString_encodeToString (bytes : List UInt8) :
    decodeString (encodeToString bytes) = some bytes := by
  have hlt := encodeDigits_lt bytes
  have hchars : ∀ ds : List Nat, (∀ n ∈ ds, n < 64) →
      ((ds.map digitChar).filter fun c => c ≠ '\r' ∧ c ≠ '\n').mapM digitVal = some ds := by
    intro ds
    induction ds with
    | nil => exact fun _ => rfl
    | cons d ds ih =>
      intro h
      have hd := h d (.head _)
      have hds := ih fun n hn => h n (List.mem_cons_of_mem d hn)
      rw [List.map_cons, List.filter_cons_of_pos (by simpa using digitChar_not_break hd),
        List.mapM_cons, digitVal_digitChar hd, hds]
      rfl
  rw [decodeString, encodeToString, String.toList_ofList, hchars _ hlt, Option.bind_some,
    decodeDigits_encodeDigits]

theorem dot_notMem_encodeToString (bytes : List UInt8) : '.' ∉ (encodeToString bytes).toList := by
  intro hdot
  rw [encodeToString, String.toList_ofList] at hdot
  obtain ⟨n, hn, hchar⟩ := List.mem_map.mp hdot
  exact digitChar_ne_dot (encodeDigits_lt bytes n hn) hchar

end Base64
