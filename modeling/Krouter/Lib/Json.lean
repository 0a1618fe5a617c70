import Krouter.Lib.Decimal

/-! JSON text: a value type, the compact printer of `encoding/json`, a parser for the whole grammar, and
the round trip. Numbers keep their literal, which the reader of a typed field interprets. -/

namespace Json
open Decimal

inductive Value where
  | null
  | bool (b : Bool)
  | number (literal : List Char)
  | string (s : String)
  | array (items : List Value)
  | object (fields : List (String × Value))

/-! ## Strings -/

def hexDigit (n : Nat) : Char := if n < 10 then Char.ofNat (n + 48) else Char.ofNat (n + 87)

def hexVal (c : Char) : Option Nat :=
  if 48 ≤ c.toNat ∧ c.toNat ≤ 57 then some (c.toNat - 48)
  else if 97 ≤ c.toNat ∧ c.toNat ≤ 102 then some (c.toNat - 87)
  else if 65 ≤ c.toNat ∧ c.toNat ≤ 70 then some (c.toNat - 55)
  else none

def hex4 (n : Nat) : List Char :=
  [hexDigit (n / 4096 % 16), hexDigit (n / 256 % 16), hexDigit (n / 16 % 16), hexDigit (n % 16)]

def hexVal4 : List Char → Option (Nat × List Char)
  | a :: b :: c :: d :: rest =>
    (hexVal a).bind fun a => (hexVal b).bind fun b => (hexVal c).bind fun c =>
      (hexVal d).bind fun d => some (a * 4096 + b * 256 + c * 16 + d, rest)
  | _ => none

def shortEscape (c : Char) : Option Char :=
  if c = '"' then some '"'
  else if c = '\\' then some '\\'
  else if c = '\x08' then some 'b'
  else if c = '\x0c' then some 'f'
  else if c = '\n' then some 'n'
  else if c = '\r' then some 'r'
  else if c = '\t' then some 't'
  else none

def needsUnicodeEscape (c : Char) : Bool :=
  c.toNat < 32 || c = '<' || c = '>' || c = '&' || c = '\u2028' || c = '\u2029'

def escapeChar (c : Char) : List Char :=
  match shortEscape c with
  | some e => ['\\', e]
  | none => if needsUnicodeEscape c then '\\' :: 'u' :: hex4 c.toNat else [c]

def renderString (s : String) : List Char := '"' :: (s.toList.flatMap escapeChar ++ ['"'])

def shortUnescape (e : Char) : Option Char :=
  if e = '"' then some '"'
  else if e = '\\' then some '\\'
  else if e = '/' then some '/'
  else if e = 'b' then some '\x08'
  else if e = 'f' then some '\x0c'
  else if e = 'n' then some '\n'
  else if e = 'r' then some '\r'
  else if e = 't' then some '\t'
  else none

/-- A code unit read from a `\u` escape, joined with the low surrogate that follows a
high one; a lone surrogate reads as U+FFFD. -/
def joinSurrogates (n : Nat) (rest : List Char) : Char × List Char :=
  if n < 0xD800 ∨ 0xE000 ≤ n then (Char.ofNat n, rest)
  else if 0xDC00 ≤ n then ('\ufffd', rest)
  else match rest with
    | '\\' :: 'u' :: tail =>
      match hexVal4 tail with
      | some (m, tail) =>
        if 0xDC00 ≤ m ∧ m < 0xE000 then
          (Char.ofNat (0x10000 + (n - 0xD800) * 1024 + (m - 0xDC00)), tail)
        else ('\ufffd', rest)
      | none => ('\ufffd', rest)
    | _ => ('\ufffd', rest)

def unescape : List Char → Option (Char × List Char)
  | [] => none
  | e :: rest =>
    match shortUnescape e with
    | some c => some (c, rest)
    | none =>
      if e = 'u' then (hexVal4 rest).map fun p => joinSurrogates p.1 p.2 else none

def parseString : Nat → List Char → Option (List Char × List Char)
  | 0, _ => none
  | _ + 1, [] => none
  | fuel + 1, c :: rest =>
    if c = '"' then some ([], rest)
    else if c = '\\' then
      (unescape rest).bind fun p => (parseString fuel p.2).map fun q => (p.1 :: q.1, q.2)
    else if c.toNat < 32 then none
    else (parseString fuel rest).map fun q => (c :: q.1, q.2)

variable {n : Nat} {rest s a r : List Char}

theorem hexVal_hexDigit (h : n < 16) : hexVal (hexDigit n) = some n := by
  revert n
  decide

theorem hexVal4_hex4 (h : n < 65536) (rest : List Char) : hexVal4 (hex4 n ++ rest) = some (n, rest) := by
  simp only [hex4, List.cons_append, List.nil_append, hexVal4,
    hexVal_hexDigit (Nat.mod_lt _ (by decide : 0 < 16)), Option.bind_some]
  congr 2
  omega

theorem escapeChar_cases (c : Char) : c ≠ '"' ∧ c ≠ '\\' ∧ ¬ c.toNat < 32 ∧ escapeChar c = [c] ∨
    ∃ body, escapeChar c = '\\' :: body ∧ ∀ rest, unescape (body ++ rest) = some (c, rest) := by
  cases hs : shortEscape c with
  | some e =>
    refine .inr ⟨[e], by rw [escapeChar, hs], fun rest => ?_⟩
    have he : shortUnescape e = some c := by
      unfold shortEscape at hs
      split_ifs at hs <;> subst c <;> cases hs <;> decide
    rw [List.singleton_append, unescape, he]
  | none =>
    by_cases hn : needsUnicodeEscape c = true
    · have hlt : c.toNat < 0xD800 := by
        simp only [needsUnicodeEscape, Bool.or_eq_true, decide_eq_true_eq] at hn
        rcases hn with ((((h | rfl) | rfl) | rfl) | rfl) | rfl
        · omega
        all_goals decide
      refine .inr ⟨'u' :: hex4 c.toNat, by rw [escapeChar, hs]; exact if_pos hn, fun rest => ?_⟩
      rw [List.cons_append, unescape, hexVal4_hex4 (by omega)]
      simp only [show shortUnescape 'u' = none from by decide, if_true, Option.map_some]
      unfold joinSurrogates
      rw [if_pos (.inl hlt), Char.ofNat_toNat]
    · refine .inl ⟨?_, ?_, ?_, by rw [escapeChar, hs]; exact if_neg hn⟩
      · rintro rfl
        exact absurd hs (by decide)
      · rintro rfl
        exact absurd hs (by decide)
      · intro h
        exact hn (by simp [needsUnicodeEscape, h])

theorem parseString_escapeChar (c : Char) (fuel : Nat) (rest : List Char) :
    parseString (fuel + 1) (escapeChar c ++ rest) =
      (parseString fuel rest).map fun q => (c :: q.1, q.2) := by
  rcases escapeChar_cases c with ⟨hq, hb, hc, he⟩ | ⟨body, he, hu⟩
  · rw [he, List.singleton_append, parseString, if_neg hq, if_neg hb, if_neg hc]
  · rw [he, List.cons_append, parseString, if_neg (by decide), if_pos rfl, hu, Option.bind_some]

theorem parseString_escaped (cs rest : List Char) (fuel : Nat) (h : cs.length < fuel) :
    parseString fuel (cs.flatMap escapeChar ++ '"' :: rest) = some (cs, rest) := by
  induction cs generalizing fuel with
  | nil =>
    obtain ⟨fuel, rfl⟩ := Nat.exists_eq_succ_of_ne_zero (by omega : fuel ≠ 0)
    rfl
  | cons c cs ih =>
    obtain ⟨fuel, rfl⟩ := Nat.exists_eq_succ_of_ne_zero (by omega : fuel ≠ 0)
    rw [List.flatMap_cons, List.append_assoc, Nat.succ_eq_add_one, parseString_escapeChar,
      ih fuel (by simp only [List.length_cons] at h; omega)]
    rfl

theorem length_le_flatMap_escape (cs : List Char) : cs.length ≤ (cs.flatMap escapeChar).length := by
  induction cs with
  | nil => exact Nat.le_refl 0
  | cons c cs ih =>
    have hc : 0 < (escapeChar c).length := by
      rcases escapeChar_cases c with ⟨-, -, -, he⟩ | ⟨body, he, -⟩ <;> simp [he]
    simp only [List.flatMap_cons, List.length_append, List.length_cons]
    omega

/-! ## Numbers -/

def scanInteger : List Char → Option (List Char × List Char)
  | [] => none
  | c :: rest =>
    if c = '0' then some (['0'], rest)
    else if isDigit c then some (c :: rest.takeWhile isDigit, rest.dropWhile isDigit)
    else none

def scanDigits (s : List Char) : Option (List Char × List Char) :=
  if s.takeWhile isDigit = [] then none else some (s.takeWhile isDigit, s.dropWhile isDigit)

def scanFraction : List Char → Option (List Char × List Char)
  | '.' :: rest => (scanDigits rest).map fun p => ('.' :: p.1, p.2)
  | s => some ([], s)

def scanExponent : List Char → Option (List Char × List Char)
  | [] => some ([], [])
  | e :: rest =>
    if e = 'e' ∨ e = 'E' then
      match rest with
      | [] => none
      | c :: tail =>
        if c = '+' ∨ c = '-' then (scanDigits tail).map fun p => (e :: c :: p.1, p.2)
        else (scanDigits rest).map fun p => (e :: p.1, p.2)
    else some ([], e :: rest)

def scanUnsigned (s : List Char) : Option (List Char × List Char) :=
  (scanInteger s).bind fun i => (scanFraction i.2).bind fun f =>
    (scanExponent f.2).map fun e => (i.1 ++ f.1 ++ e.1, e.2)

def scanNumber : List Char → Option (List Char × List Char)
  | '-' :: rest => (scanUnsigned rest).map fun p => ('-' :: p.1, p.2)
  | s => scanUnsigned s

def Stops (rest : List Char) : Prop := ∀ c, rest.head? = some c → c = ',' ∨ c = ']' ∨ c = '}'

def IsNumber (literal : List Char) : Prop :=
  (∃ c, literal.head? = some c ∧ (c = '-' ∨ isDigit c = true)) ∧
    ∀ rest, Stops rest → scanNumber (literal ++ rest) = some (literal, rest)

theorem Stops.not_digit (h : Stops rest) : rest.takeWhile isDigit = [] := by
  cases rest with
  | nil => rfl
  | cons c cs =>
    have hc : isDigit c = false := by
      rcases h c rfl with rfl | rfl | rfl <;> decide
    rw [List.takeWhile_cons_of_neg (by simp [hc])]

theorem takeWhile_digits {ds : List Char} (hd : ∀ c ∈ ds, isDigit c = true) (h : Stops rest) :
    (ds ++ rest).takeWhile isDigit = ds ∧ (ds ++ rest).dropWhile isDigit = rest := by
  have hdrop : rest.dropWhile isDigit = rest := by
    have := List.takeWhile_append_dropWhile (p := isDigit) (l := rest)
    rwa [h.not_digit, List.nil_append] at this
  rw [List.takeWhile_append_of_pos hd, List.dropWhile_append_of_pos hd, h.not_digit, hdrop]
  exact ⟨List.append_nil ds, rfl⟩

theorem scanFraction_stops (h : Stops rest) : scanFraction rest = some ([], rest) := by
  cases rest with
  | nil => rfl
  | cons c cs => rcases h c rfl with rfl | rfl | rfl <;> rfl

theorem scanExponent_stops (h : Stops rest) : scanExponent rest = some ([], rest) := by
  cases rest with
  | nil => rfl
  | cons c cs => rcases h c rfl with rfl | rfl | rfl <;> rfl

theorem scanUnsigned_toDigits (n : Nat) (h : Stops rest) :
    scanUnsigned (Nat.toDigits 10 n ++ rest) = some (Nat.toDigits 10 n, rest) := by
  obtain ⟨c, cs, he, hz⟩ := toDigits_head n
  have hd := toDigits_all n
  rw [he] at hd ⊢
  have hi : scanInteger (c :: cs ++ rest) = some (c :: cs, rest) := by
    by_cases hc : c = '0'
    · rw [hz hc, hc]
      rfl
    · obtain ⟨ht, hr⟩ := takeWhile_digits (fun d hm => hd d (List.mem_cons_of_mem c hm)) h
      rw [List.cons_append, scanInteger, if_neg hc, if_pos (hd c (.head _)), ht, hr]
  rw [scanUnsigned, hi, Option.bind_some, scanFraction_stops h, Option.bind_some,
    scanExponent_stops h, Option.map_some]
  simp only [List.append_nil]

theorem scanNumber_of_digit {c : Char} {cs : List Char} (h : isDigit c = true) :
    scanNumber (c :: cs) = scanUnsigned (c :: cs) := by
  unfold scanNumber
  split
  · next heq =>
    obtain ⟨rfl, -⟩ := List.cons.inj heq
    exact absurd h (by decide)
  · rfl

theorem isNumber_itoa (n : Int) : IsNumber (itoa n) := by
  obtain ⟨c, cs, he, -⟩ := toDigits_head n.natAbs
  have hc : isDigit c = true := toDigits_all n.natAbs c (he ▸ .head _)
  unfold itoa
  split_ifs with hn
  · refine ⟨⟨'-', rfl, .inl rfl⟩, fun rest h => ?_⟩
    rw [List.cons_append, scanNumber, scanUnsigned_toDigits _ h, Option.map_some]
  · refine ⟨⟨c, by rw [he]; rfl, .inr hc⟩, fun rest h => ?_⟩
    have hs := scanUnsigned_toDigits n.natAbs h
    rw [he, List.cons_append] at hs ⊢
    rw [scanNumber_of_digit hc, hs]

theorem scanDigits_append (h : Stops rest)
    (hs : scanDigits s = some (a, r)) : scanDigits (s ++ rest) = some (a, r ++ rest) := by
  unfold scanDigits at hs ⊢
  split_ifs at hs with hn
  obtain ⟨rfl, rfl⟩ := Prod.mk.inj (Option.some.inj hs)
  have ht : (s ++ rest).takeWhile isDigit = s.takeWhile isDigit := by
    rw [List.takeWhile_append, h.not_digit]
    split_ifs with hl
    · rw [List.append_nil, (List.takeWhile_prefix isDigit).eq_of_length hl]
    · rfl
  have hd : (s ++ rest).dropWhile isDigit = s.dropWhile isDigit ++ rest := by
    have hall := List.takeWhile_append_dropWhile (p := isDigit) (l := s ++ rest)
    have hpart := List.takeWhile_append_dropWhile (p := isDigit) (l := s)
    rw [ht] at hall
    exact List.append_cancel_left (hall.trans (by rw [← List.append_assoc, hpart]))
  rw [ht, if_neg hn, hd]

theorem scanInteger_append (h : Stops rest)
    (hs : scanInteger s = some (a, r)) : scanInteger (s ++ rest) = some (a, r ++ rest) := by
  cases s with
  | nil => cases hs
  | cons c s =>
    rw [List.cons_append]
    simp only [scanInteger] at hs ⊢
    split_ifs at hs ⊢ with h0 hd
    · obtain ⟨rfl, rfl⟩ := Prod.mk.inj (Option.some.inj hs)
      rfl
    · have hrun : scanDigits (c :: s) = some (a, r) := by
        rw [scanDigits, if_neg (by rw [List.takeWhile_cons_of_pos hd]; simp),
          List.takeWhile_cons_of_pos hd, List.dropWhile_cons_of_pos hd, ← hs]
      have happ := scanDigits_append h hrun
      rw [List.cons_append, scanDigits, if_neg (by rw [List.takeWhile_cons_of_pos hd]; simp),
        List.takeWhile_cons_of_pos hd, List.dropWhile_cons_of_pos hd] at happ
      exact happ

theorem scanFraction_append (h : Stops rest)
    (hs : scanFraction s = some (a, r)) : scanFraction (s ++ rest) = some (a, r ++ rest) := by
  cases s with
  | nil =>
    obtain ⟨rfl, rfl⟩ := Prod.mk.inj (Option.some.inj hs)
    exact scanFraction_stops h
  | cons c s =>
    by_cases hc : c = '.'
    · subst hc
      rw [scanFraction] at hs
      obtain ⟨⟨d, q⟩, hq, he⟩ := Option.map_eq_some_iff.mp hs
      obtain ⟨rfl, rfl⟩ := Prod.mk.inj he
      rw [List.cons_append, scanFraction, scanDigits_append h hq, Option.map_some]
    · have hother : ∀ t, scanFraction (c :: t) = some ([], c :: t) := by
        intro t
        unfold scanFraction
        split
        · next heq => exact absurd (List.cons.inj heq).1 hc
        · rfl
      rw [hother] at hs
      obtain ⟨rfl, rfl⟩ := Prod.mk.inj (Option.some.inj hs)
      exact hother _

theorem scanExponent_append (h : Stops rest)
    (hs : scanExponent s = some (a, r)) : scanExponent (s ++ rest) = some (a, r ++ rest) := by
  cases s with
  | nil =>
    obtain ⟨rfl, rfl⟩ := Prod.mk.inj (Option.some.inj hs)
    exact scanExponent_stops h
  | cons e s =>
    rw [List.cons_append]
    simp only [scanExponent] at hs ⊢
    split_ifs at hs ⊢ with he
    · cases s with
      | nil => cases hs
      | cons c t =>
        rw [List.cons_append]
        simp only at hs ⊢
        split_ifs at hs ⊢ with hc
        · obtain ⟨⟨d, q⟩, hq, hp⟩ := Option.map_eq_some_iff.mp hs
          obtain ⟨rfl, rfl⟩ := Prod.mk.inj hp
          rw [scanDigits_append h hq, Option.map_some]
        · obtain ⟨⟨d, q⟩, hq, hp⟩ := Option.map_eq_some_iff.mp hs
          obtain ⟨rfl, rfl⟩ := Prod.mk.inj hp
          rw [← List.cons_append, scanDigits_append h hq, Option.map_some]
    · obtain ⟨rfl, rfl⟩ := Prod.mk.inj (Option.some.inj hs)
      rfl

theorem scanUnsigned_append (h : Stops rest)
    (hs : scanUnsigned s = some (a, r)) : scanUnsigned (s ++ rest) = some (a, r ++ rest) := by
  obtain ⟨i, hi, hs⟩ := Option.bind_eq_some_iff.mp hs
  obtain ⟨f, hf, hs⟩ := Option.bind_eq_some_iff.mp hs
  obtain ⟨e, he, hs⟩ := Option.map_eq_some_iff.mp hs
  obtain ⟨rfl, rfl⟩ := Prod.mk.inj hs
  rw [scanUnsigned, scanInteger_append h hi, Option.bind_some, scanFraction_append h hf,
    Option.bind_some, scanExponent_append h he, Option.map_some]

theorem scanUnsigned_head {c : Char} {p : List Char × List Char}
    (h : scanUnsigned (c :: s) = some p) : isDigit c = true := by
  obtain ⟨i, hi, -⟩ := Option.bind_eq_some_iff.mp h
  simp only [scanInteger] at hi
  split_ifs at hi with h0 hd
  · rw [h0]
    decide
  · exact hd

theorem isNumber_of_scan {literal : List Char} (h : scanNumber literal = some (literal, [])) :
    IsNumber literal := by
  cases literal with
  | nil => cases h
  | cons c s =>
    by_cases hc : c = '-'
    · subst hc
      refine ⟨⟨'-', rfl, .inl rfl⟩, fun rest hr => ?_⟩
      rw [scanNumber] at h
      obtain ⟨p, hp, he⟩ := Option.map_eq_some_iff.mp h
      rw [List.cons_append, scanNumber, scanUnsigned_append hr hp, Option.map_some]
      simp only [Prod.mk.injEq, List.cons.injEq, true_and] at he
      rw [he.1, he.2, List.nil_append]
    · have hother : ∀ t, scanNumber (c :: t) = scanUnsigned (c :: t) := by
        intro t
        unfold scanNumber
        split
        · next heq => exact absurd (List.cons.inj heq).1 hc
        · rfl
      rw [hother] at h
      refine ⟨⟨c, rfl, .inr (scanUnsigned_head h)⟩, fun rest hr => ?_⟩
      rw [List.cons_append, hother, ← List.cons_append, scanUnsigned_append hr h, List.nil_append]

/-- A finite floating-point number, as the literal `encoding/json` prints for it. -/
structure Number where
  literal : List Char
  whole : scanNumber literal = some (literal, [])
  deriving DecidableEq

/-! ## Values -/

mutual

def render : Value → List Char
  | .null => ['n', 'u', 'l', 'l']
  | .bool true => ['t', 'r', 'u', 'e']
  | .bool false => ['f', 'a', 'l', 's', 'e']
  | .number literal => literal
  | .string s => renderString s
  | .array [] => ['[', ']']
  | .array (v :: vs) => '[' :: (render v ++ renderItems vs)
  | .object [] => ['{', '}']
  | .object ((k, v) :: fs) => '{' :: (renderString k ++ ':' :: (render v ++ renderFields fs))

def renderItems : List Value → List Char
  | [] => [']']
  | v :: vs => ',' :: (render v ++ renderItems vs)

def renderFields : List (String × Value) → List Char
  | [] => ['}']
  | (k, v) :: fs => ',' :: (renderString k ++ ':' :: (render v ++ renderFields fs))

end

def isSpace (c : Char) : Bool := c = ' ' || c = '\n' || c = '\r' || c = '\t'

def skipSpace (s : List Char) : List Char := s.dropWhile isSpace

def parseKey (s : List Char) : Option (String × List Char) :=
  match skipSpace s with
  | '"' :: rest =>
    (parseString (rest.length + 1) rest).bind fun p =>
      match skipSpace p.2 with
      | ':' :: rest => some (String.ofList p.1, rest)
      | _ => none
  | _ => none

mutual

def parseValue : Nat → List Char → Option (Value × List Char)
  | 0, _ => none
  | fuel + 1, s =>
    match skipSpace s with
    | 'n' :: 'u' :: 'l' :: 'l' :: rest => some (.null, rest)
    | 't' :: 'r' :: 'u' :: 'e' :: rest => some (.bool true, rest)
    | 'f' :: 'a' :: 'l' :: 's' :: 'e' :: rest => some (.bool false, rest)
    | '"' :: rest =>
      (parseString (rest.length + 1) rest).map fun p => (.string (String.ofList p.1), p.2)
    | '[' :: rest =>
      match skipSpace rest with
      | ']' :: rest => some (.array [], rest)
      | rest =>
        (parseValue fuel rest).bind fun p =>
          (parseItems fuel p.2).map fun q => (.array (p.1 :: q.1), q.2)
    | '{' :: rest =>
      match skipSpace rest with
      | '}' :: rest => some (.object [], rest)
      | rest =>
        (parseKey rest).bind fun k => (parseValue fuel k.2).bind fun p =>
          (parseFields fuel p.2).map fun q => (.object ((k.1, p.1) :: q.1), q.2)
    | rest => (scanNumber rest).map fun p => (.number p.1, p.2)

def parseItems : Nat → List Char → Option (List Value × List Char)
  | 0, _ => none
  | fuel + 1, s =>
    match skipSpace s with
    | ']' :: rest => some ([], rest)
    | ',' :: rest =>
      (parseValue fuel rest).bind fun p =>
        (parseItems fuel p.2).map fun q => (p.1 :: q.1, q.2)
    | _ => none

def parseFields : Nat → List Char → Option (List (String × Value) × List Char)
  | 0, _ => none
  | fuel + 1, s =>
    match skipSpace s with
    | '}' :: rest => some ([], rest)
    | ',' :: rest =>
      (parseKey rest).bind fun k => (parseValue fuel k.2).bind fun p =>
        (parseFields fuel p.2).map fun q => ((k.1, p.1) :: q.1, q.2)
    | _ => none

end

def marshal (v : Value) : String := String.ofList (render v)

/-- `json.Unmarshal` into a generic value: the whole text, and nothing after it. -/
def parse (s : String) : Option Value :=
  match parseValue (s.toList.length + 1) s.toList with
  | some (v, rest) => if skipSpace rest = [] then some v else none
  | none => none

mutual

def WellFormed : Value → Prop
  | .number literal => IsNumber literal
  | .array items => WellFormedItems items
  | .object fields => WellFormedFields fields
  | _ => True

def WellFormedItems : List Value → Prop
  | [] => True
  | v :: vs => WellFormed v ∧ WellFormedItems vs

def WellFormedFields : List (String × Value) → Prop
  | [] => True
  | (_, v) :: fs => WellFormed v ∧ WellFormedFields fs

end

theorem skipSpace_of_not_space {c : Char} {cs : List Char} (h : isSpace c = false) :
    skipSpace (c :: cs) = c :: cs := List.dropWhile_cons_of_neg (by simp [h])

theorem number_head {c : Char} (h : c = '-' ∨ isDigit c = true) :
    isSpace c = false ∧ c ≠ 'n' ∧ c ≠ 't' ∧ c ≠ 'f' ∧ c ≠ '"' ∧ c ≠ '[' ∧ c ≠ '{' ∧
      c ≠ ']' ∧ c ≠ '}' := by
  rcases h with rfl | h
  · decide
  · refine ⟨?_, ?_⟩
    · simp only [isSpace, Bool.or_eq_false_iff, decide_eq_false_iff_not]
      refine ⟨⟨⟨?_, ?_⟩, ?_⟩, ?_⟩ <;> rintro rfl <;> exact absurd h (by decide)
    · refine ⟨?_, ?_, ?_, ?_, ?_, ?_, ?_, ?_⟩ <;> rintro rfl <;> exact absurd h (by decide)

theorem render_head {v : Value} (h : WellFormed v) :
    ∃ c cs, render v = c :: cs ∧ isSpace c = false ∧ c ≠ ']' ∧ c ≠ '}' := by
  match v, h with
  | .null, _ => exact ⟨'n', _, rfl, by decide, by decide, by decide⟩
  | .bool true, _ => exact ⟨'t', _, rfl, by decide, by decide, by decide⟩
  | .bool false, _ => exact ⟨'f', _, rfl, by decide, by decide, by decide⟩
  | .number literal, h =>
    obtain ⟨⟨c, hc, hd⟩, -⟩ := h
    obtain ⟨hs, -, -, -, -, -, -, h1, h2⟩ := number_head hd
    cases literal with
    | nil => cases hc
    | cons d cs =>
      cases hc
      exact ⟨_, cs, rfl, hs, h1, h2⟩
  | .string s, _ => exact ⟨'"', _, rfl, by decide, by decide, by decide⟩
  | .array [], _ => exact ⟨'[', _, rfl, by decide, by decide, by decide⟩
  | .array (_ :: _), _ => exact ⟨'[', _, rfl, by decide, by decide, by decide⟩
  | .object [], _ => exact ⟨'{', _, rfl, by decide, by decide, by decide⟩
  | .object (_ :: _), _ => exact ⟨'{', _, rfl, by decide, by decide, by decide⟩

theorem parseString_rendered (k : String) (rest : List Char) :
    parseString ((k.toList.flatMap escapeChar ++ '"' :: rest).length + 1)
      (k.toList.flatMap escapeChar ++ '"' :: rest) = some (k.toList, rest) := by
  apply parseString_escaped
  have h := length_le_flatMap_escape k.toList
  simp only [List.length_append, List.length_cons]
  omega

theorem renderString_append (k : String) (rest : List Char) :
    renderString k ++ rest = '"' :: (k.toList.flatMap escapeChar ++ '"' :: rest) := by
  simp only [renderString, List.cons_append, List.append_assoc, List.nil_append]

theorem parseKey_renderString (k : String) (rest : List Char) :
    parseKey (renderString k ++ ':' :: rest) = some (k, rest) := by
  rw [renderString_append, parseKey, skipSpace_of_not_space (by decide)]
  have hc : skipSpace (':' :: rest) = ':' :: rest := skipSpace_of_not_space (by decide)
  simp only [parseString_rendered, Option.bind_some, hc, String.ofList_toList]

theorem parseValue_number {c : Char} {cs : List Char} (fuel : Nat) (h : c = '-' ∨ isDigit c = true) :
    parseValue (fuel + 1) (c :: cs) = (scanNumber (c :: cs)).map fun p => (.number p.1, p.2) := by
  obtain ⟨hs, hn, ht, hf, hq, ha, ho, -, -⟩ := number_head h
  rw [parseValue, skipSpace_of_not_space hs]
  split <;> first | rfl | (next heq => exact absurd (List.cons.inj heq).1 (by assumption))

theorem stops_close {c : Char} {rest : List Char} (h : c = ',' ∨ c = ']' ∨ c = '}') :
    Stops (c :: rest) := fun _ hd => Option.some.inj hd ▸ h

theorem renderItems_head (vs : List Value) :
    ∃ c cs, renderItems vs = c :: cs ∧ (c = ',' ∨ c = ']' ∨ c = '}') := by
  cases vs with
  | nil => exact ⟨']', [], rfl, by decide⟩
  | cons v vs => exact ⟨',', _, rfl, by decide⟩

theorem renderFields_head (fs : List (String × Value)) :
    ∃ c cs, renderFields fs = c :: cs ∧ (c = ',' ∨ c = ']' ∨ c = '}') := by
  cases fs with
  | nil => exact ⟨'}', [], rfl, by decide⟩
  | cons f fs => exact ⟨',', _, rfl, by decide⟩

mutual

/-- A printed value is read back with what follows it. The fuel that is enough is the
length of the printed text. -/
theorem parseValue_render : ∀ v, WellFormed v → ∀ fuel rest, (render v).length ≤ fuel → Stops rest →
    parseValue fuel (render v ++ rest) = some (v, rest)
  | .null, _, fuel + 1, rest, _, _ => rfl
  | .bool true, _, fuel + 1, rest, _, _ => rfl
  | .bool false, _, fuel + 1, rest, _, _ => rfl
  | .number literal, h, fuel, rest, hl, hr => by
    obtain ⟨⟨c, hc, hd⟩, hscan⟩ := h
    cases literal with
    | nil => cases hc
    | cons d cs =>
      cases hc
      simp only [render, List.length_cons] at hl
      obtain ⟨fuel, rfl⟩ := Nat.exists_eq_succ_of_ne_zero (by omega : fuel ≠ 0)
      have hs := hscan rest hr
      simp only [render, List.cons_append] at hs ⊢
      rw [parseValue_number fuel hd, hs, Option.map_some]
  | .string s, _, fuel, rest, hl, _ => by
    simp only [render, renderString, List.length_cons] at hl
    obtain ⟨fuel, rfl⟩ := Nat.exists_eq_succ_of_ne_zero (by omega : fuel ≠ 0)
    rw [render, renderString_append, parseValue, skipSpace_of_not_space (by decide)]
    simp only [parseString_rendered, Option.map_some, String.ofList_toList]
  | .array [], _, fuel + 1, rest, _, _ => rfl
  | .array (v :: vs), h, fuel, rest, hl, hr => by
    simp only [render, List.length_cons, List.length_append] at hl
    obtain ⟨fuel, rfl⟩ := Nat.exists_eq_succ_of_ne_zero (by omega : fuel ≠ 0)
    obtain ⟨hv, hvs⟩ : WellFormed v ∧ WellFormedItems vs := h
    obtain ⟨d, ds, hd, hclose⟩ := renderItems_head vs
    have hfirst := parseValue_render v hv fuel (renderItems vs ++ rest) (by omega)
      (by rw [hd]; exact stops_close hclose)
    obtain ⟨c, cs, hc, hs, hbr, -⟩ := render_head hv
    rw [render, List.cons_append, List.append_assoc, parseValue, skipSpace_of_not_space (by decide)]
    rw [hc, List.cons_append] at hfirst ⊢
    simp only [skipSpace_of_not_space hs]
    split
    · next heq => exact absurd (List.cons.inj heq).1 hbr
    · rw [hfirst, Option.bind_some, parseItems_render vs hvs fuel rest (by omega) hr, Option.map_some]
  | .object [], _, fuel + 1, rest, _, _ => rfl
  | .object ((k, v) :: fs), h, fuel, rest, hl, hr => by
    simp only [render, List.length_cons, List.length_append] at hl
    obtain ⟨fuel, rfl⟩ := Nat.exists_eq_succ_of_ne_zero (by omega : fuel ≠ 0)
    obtain ⟨hv, hfs⟩ : WellFormed v ∧ WellFormedFields fs := h
    obtain ⟨d, ds, hd, hclose⟩ := renderFields_head fs
    have hfirst := parseValue_render v hv fuel (renderFields fs ++ rest) (by omega)
      (by rw [hd]; exact stops_close hclose)
    have hkey := parseKey_renderString k (render v ++ (renderFields fs ++ rest))
    rw [render]
    simp only [List.cons_append, List.append_assoc]
    rw [parseValue, skipSpace_of_not_space (by decide)]
    rw [renderString_append] at hkey ⊢
    have hq : ∀ t, skipSpace ('"' :: t) = '"' :: t := fun t => skipSpace_of_not_space (by decide)
    simp only [hq]
    split
    · next heq => exact absurd (List.cons.inj heq).1 (by decide)
    · rw [hkey, Option.bind_some, hfirst, Option.bind_some,
        parseFields_render fs hfs fuel rest (by omega) hr, Option.map_some]
termination_by v => sizeOf v

theorem parseItems_render : ∀ vs, WellFormedItems vs → ∀ fuel rest, (renderItems vs).length ≤ fuel →
    Stops rest → parseItems fuel (renderItems vs ++ rest) = some (vs, rest)
  | [], _, fuel + 1, rest, _, _ => rfl
  | v :: vs, h, fuel, rest, hl, hr => by
    simp only [renderItems, List.length_cons, List.length_append] at hl
    obtain ⟨fuel, rfl⟩ := Nat.exists_eq_succ_of_ne_zero (by omega : fuel ≠ 0)
    obtain ⟨d, ds, hd, hclose⟩ := renderItems_head vs
    have hfirst := parseValue_render v h.1 fuel (renderItems vs ++ rest) (by omega)
      (by rw [hd]; exact stops_close hclose)
    rw [renderItems, List.cons_append, List.append_assoc, parseItems,
      skipSpace_of_not_space (by decide)]
    simp only [hfirst, Option.bind_some]
    rw [parseItems_render vs h.2 fuel rest (by omega) hr, Option.map_some]
termination_by vs => sizeOf vs

theorem parseFields_render : ∀ fs, WellFormedFields fs → ∀ fuel rest,
    (renderFields fs).length ≤ fuel → Stops rest →
    parseFields fuel (renderFields fs ++ rest) = some (fs, rest)
  | [], _, fuel + 1, rest, _, _ => rfl
  | (k, v) :: fs, h, fuel, rest, hl, hr => by
    simp only [renderFields, List.length_cons, List.length_append] at hl
    obtain ⟨fuel, rfl⟩ := Nat.exists_eq_succ_of_ne_zero (by omega : fuel ≠ 0)
    obtain ⟨d, ds, hd, hclose⟩ := renderFields_head fs
    have hfirst := parseValue_render v h.1 fuel (renderFields fs ++ rest) (by omega)
      (by rw [hd]; exact stops_close hclose)
    have hkey := parseKey_renderString k (render v ++ (renderFields fs ++ rest))
    rw [renderFields]
    simp only [List.cons_append, List.append_assoc]
    rw [parseFields, skipSpace_of_not_space (by decide)]
    simp only [hkey, Option.bind_some, hfirst]
    rw [parseFields_render fs h.2 fuel rest (by omega) hr, Option.map_some]
termination_by fs => sizeOf fs

end

/-- What `marshal` prints, `parse` reads back. -/
theorem parse_marshal {v : Value} (h : WellFormed v) : parse (marshal v) = some v := by
  have hp := parseValue_render v h ((render v).length + 1) [] (by omega) (fun _ hc => by cases hc)
  rw [List.append_nil] at hp
  rw [parse, marshal, String.toList_ofList, hp]
  rfl

end Json
