import Mathlib.Data.List.Basic

/-! Bytes read as text the way Go ranges over a string: an invalid byte is one replacement
character. -/

namespace Utf8

def runeError : Char := Char.ofNat 0xFFFD

def within (low high : Nat) (b : UInt8) : Bool := low ≤ b.toNat && b.toNat ≤ high

def decodeRune : List UInt8 → Char × Nat
  | [] => (runeError, 0)
  | a :: rest =>
    let lead := a.toNat
    if lead < 0x80 then (Char.ofNat lead, 1)
    else if 0xC2 ≤ lead ∧ lead ≤ 0xDF then
      match rest with
      | b :: _ =>
        if within 0x80 0xBF b then (Char.ofNat (lead % 32 * 64 + b.toNat % 64), 2) else (runeError, 1)
      | _ => (runeError, 1)
    else if 0xE0 ≤ lead ∧ lead ≤ 0xEF then
      match rest with
      | b :: c :: _ =>
        -- neither overlong forms nor surrogates
        if within (if lead = 0xE0 then 0xA0 else 0x80) (if lead = 0xED then 0x9F else 0xBF) b &&
            within 0x80 0xBF c then
          (Char.ofNat ((lead % 16 * 64 + b.toNat % 64) * 64 + c.toNat % 64), 3)
        else (runeError, 1)
      | _ => (runeError, 1)
    else if 0xF0 ≤ lead ∧ lead ≤ 0xF4 then
      match rest with
      | b :: c :: d :: _ =>
        if within (if lead = 0xF0 then 0x90 else 0x80) (if lead = 0xF4 then 0x8F else 0xBF) b &&
            within 0x80 0xBF c && within 0x80 0xBF d then
          (Char.ofNat (((lead % 8 * 64 + b.toNat % 64) * 64 + c.toNat % 64) * 64 + d.toNat % 64), 4)
        else (runeError, 1)
      | _ => (runeError, 1)
    else (runeError, 1)

def decodeFrom : Nat → List UInt8 → List Char
  | _, [] => []
  | skip + 1, _ :: rest => decodeFrom skip rest
  | 0, a :: rest =>
    let rune := decodeRune (a :: rest)
    rune.1 :: decodeFrom (rune.2 - 1) rest

def decode (bytes : List UInt8) : String := String.ofList (decodeFrom 0 bytes)

example : decode [0x61, 0xC3, 0xA9, 0xFF, 0xE2, 0x82, 0xAC] = "aé�€" := by decide

/-! ## ASCII -/

def IsAscii (cs : List Char) : Prop := ∀ c ∈ cs, c.toNat < 128

def asciiBytes (s : String) : List UInt8 := s.toList.map fun c => UInt8.ofNat c.toNat

theorem toNat_ofNat_of_ascii {c : Char} (h : c.toNat < 128) : (UInt8.ofNat c.toNat).toNat = c.toNat := by
  rw [UInt8.toNat_ofNat', Nat.mod_eq_of_lt (by omega)]

theorem decodeFrom_ascii {cs : List Char} (h : IsAscii cs) (rest : List UInt8) :
    decodeFrom 0 (cs.map (fun c => UInt8.ofNat c.toNat) ++ rest) = cs ++ decodeFrom 0 rest := by
  induction cs with
  | nil => rfl
  | cons c cs ih =>
    have hc := h c (.head _)
    have hrune : decodeRune (UInt8.ofNat c.toNat :: (cs.map (fun c => UInt8.ofNat c.toNat) ++ rest)) = (c, 1) := by
      unfold decodeRune
      dsimp only
      rw [toNat_ofNat_of_ascii hc, if_pos hc, Char.ofNat_toNat]
    rw [List.map_cons, List.cons_append, decodeFrom, hrune, List.cons_append]
    exact congrArg (c :: ·) (ih fun d hd => h d (List.mem_cons_of_mem c hd))

theorem decode_asciiBytes_append {s : String} (h : IsAscii s.toList) (rest : List UInt8) :
    decode (asciiBytes s ++ rest) = s ++ decode rest := by
  rw [decode, asciiBytes, decodeFrom_ascii h, String.ofList_append, String.ofList_toList]
  rfl

theorem length_asciiBytes (s : String) : (asciiBytes s).length = s.toList.length := List.length_map ..

end Utf8
