import Krouter.Http.Request

/-! The `Forwarded` header field of RFC 7239: elements between commas, pairs between semicolons, values
that are tokens or quoted strings. -/

namespace Krouter.Http.Forwarded

inductive Lexeme where
  | token (text : List Char)
  | quoted (text : List Char)
  | equals
  | semicolon
  | comma
  | space
  deriving DecidableEq

/-- Outside of a quoted string, in one with what has been read of it, or behind its backslash. -/
inductive Mode where
  | plain
  | quoted (read : List Char)
  | escaped (read : List Char)

def isQuotable (c : Char) : Bool := c = '\t' || (32 ≤ c.toNat && c.toNat ≠ 127)

def separator (c : Char) : Option Lexeme :=
  if c = '=' then some .equals
  else if c = ';' then some .semicolon
  else if c = ',' then some .comma
  else if c = ' ' ∨ c = '\t' then some .space
  else none

def consToken (c : Char) : List Lexeme → List Lexeme
  | .token text :: rest => .token (c :: text) :: rest
  | rest => .token [c] :: rest

def lex : Mode → List Char → Option (List Lexeme)
  | .plain, [] => some []
  | _, [] => none
  | .plain, c :: cs =>
    if c = '"' then lex (.quoted []) cs
    else if isTokenChar c then (lex .plain cs).map (consToken c)
    else (separator c).bind fun l => (lex .plain cs).map (l :: ·)
  | .quoted read, c :: cs =>
    if c = '"' then (lex .plain cs).map (.quoted read.reverse :: ·)
    else if c = '\\' then lex (.escaped read) cs
    else if isQuotable c then lex (.quoted (c :: read)) cs
    else none
  | .escaped read, c :: cs => if isQuotable c then lex (.quoted (c :: read)) cs else none

abbrev Element := List (String × String)

def readPair : List Lexeme → Option (Option (String × String))
  | [] => some none
  | [.token name, .equals, .token value] => some (some (String.ofList name, String.ofList value))
  | [.token name, .equals, .quoted value] => some (some (String.ofList name, String.ofList value))
  | _ => none

def readElement (ls : List Lexeme) : Option Element :=
  ((ls.splitOn .semicolon).mapM readPair).map fun pairs => pairs.filterMap id

def trimSpaces (ls : List Lexeme) : List Lexeme :=
  ((ls.dropWhile (· = .space)).reverse.dropWhile (· = .space)).reverse

def parse (value : String) : Option (List Element) :=
  (lex .plain value.toList).bind fun ls =>
    (((ls.splitOn .comma).map trimSpaces).filter (· ≠ [])).mapM readElement

example : parse "for=192.0.2.60;proto=http, For=\"[2001:db8::17]:4711\"" =
    some [[("for", "192.0.2.60"), ("proto", "http")], [("For", "[2001:db8::17]:4711")]] := by
  decide

/-! ## Tokens -/

def isToken (s : String) : Bool := s.toList ≠ [] && s.toList.all isTokenChar

theorem isToken_iff {s : String} :
    isToken s = true ↔ s.toList ≠ [] ∧ ∀ c ∈ s.toList, isTokenChar c = true := by
  rw [isToken, Bool.and_eq_true, decide_eq_true_iff, List.all_eq_true]

variable {c : Char} {l : Lexeme} {ls : List Lexeme}

theorem separator_ne_token (h : separator c = some l) (text : List Char) : l ≠ .token text := by
  unfold separator at h
  split_ifs at h <;> cases h <;> exact fun he => by cases he

theorem lex_plain_separator (h : separator c = some l) (cs : List Char) :
    lex .plain (c :: cs) = (lex .plain cs).map (l :: ·) := by
  have hquote : c ≠ '"' := by
    rintro rfl
    rw [show separator '"' = none by decide] at h
    cases h
  have htoken : isTokenChar c = false := by
    unfold separator at h
    split_ifs at h with h1 h2 h3 h4
    · rw [h1]; decide
    · rw [h2]; decide
    · rw [h3]; decide
    · rcases h4 with h4 | h4 <;> rw [h4] <;> decide
  rw [lex, if_neg hquote, htoken, if_neg Bool.false_ne_true, h, Option.bind_some]

theorem lex_token {text rest : List Char} (hne : text ≠ []) (htext : ∀ c ∈ text, isTokenChar c = true)
    (hrest : rest = [] ∨ ∃ c cs l, rest = c :: cs ∧ separator c = some l) :
    lex .plain (text ++ rest) = (lex .plain rest).map (.token text :: ·) := by
  have hstart : ∀ c, (lex .plain rest).map (consToken c) = (lex .plain rest).map (.token [c] :: ·) := by
    intro c
    rcases hrest with rfl | ⟨d, cs, l, rfl, hl⟩
    · rfl
    · rw [lex_plain_separator hl, Option.map_map, Option.map_map]
      congr 1
      funext ls
      cases l with
      | token text => exact absurd rfl (separator_ne_token hl text)
      | _ => rfl
  induction text with
  | nil => exact absurd rfl hne
  | cons c text ih =>
    have hc := htext c (.head _)
    have hquote : c ≠ '"' := by
      rintro rfl
      exact absurd hc (by decide)
    rw [List.cons_append, lex, if_neg hquote, if_pos hc]
    by_cases ht : text = []
    · rw [ht, List.nil_append, hstart]
    · rw [ih ht fun d hd => htext d (List.mem_cons_of_mem c hd), Option.map_map]
      rfl

/-! ## Text without quotes -/

theorem lex_none {text rest : List Char} (htext : '"' ∉ text) (hquote : c ≠ '"') (hc : isTokenChar c = false)
    (hsep : separator c = none) : lex .plain (text ++ c :: rest) = none := by
  induction text with
  | nil => rw [List.nil_append, lex, if_neg hquote, hc, if_neg Bool.false_ne_true, hsep, Option.bind_none]
  | cons d text ih =>
    have hd : d ≠ '"' := fun he => htext (he ▸ List.mem_cons_self)
    rw [List.cons_append, lex, if_neg hd, ih fun hm => htext (List.mem_cons_of_mem d hm)]
    cases separator d <;> exact ite_self _

def Lexeme.Plain : Lexeme → Prop
  | .token text => text ≠ [] ∧ ∀ c ∈ text, isTokenChar c = true
  | .quoted _ => False
  | _ => True

theorem separator_plain (h : separator c = some l) : l.Plain := by
  unfold separator at h
  split_ifs at h <;> cases h <;> trivial

theorem consToken_plain (hc : isTokenChar c = true) (h : ∀ l ∈ ls, l.Plain) : ∀ l ∈ consToken c ls, l.Plain := by
  have hsingle : Lexeme.Plain (.token [c]) :=
    ⟨List.cons_ne_nil c [], fun d hd => (List.mem_singleton.mp hd) ▸ hc⟩
  intro l hl
  unfold consToken at hl
  split at hl
  · rename_i text rest
    rcases List.mem_cons.mp hl with rfl | hl
    · have htext : Lexeme.Plain (.token text) := h _ (.head _)
      exact ⟨List.cons_ne_nil c text, List.forall_mem_cons.mpr ⟨hc, htext.2⟩⟩
    · exact h l (.tail _ hl)
  · rcases List.mem_cons.mp hl with rfl | hl
    · exact hsingle
    · exact h l hl

theorem lex_plain {text : List Char} (htext : '"' ∉ text) (h : lex .plain text = some ls) : ∀ l ∈ ls, l.Plain := by
  induction text generalizing ls with
  | nil =>
    cases h
    exact fun l hl => by cases hl
  | cons c text ih =>
    have hc : c ≠ '"' := fun he => htext (he ▸ List.mem_cons_self)
    have hrest : '"' ∉ text := fun hm => htext (List.mem_cons_of_mem c hm)
    rw [lex, if_neg hc] at h
    split_ifs at h with htoken
    · obtain ⟨rest, hlex, rfl⟩ := Option.map_eq_some_iff.mp h
      exact consToken_plain htoken (ih hrest hlex)
    · obtain ⟨sep, hsep, h⟩ := Option.bind_eq_some_iff.mp h
      obtain ⟨rest, hlex, rfl⟩ := Option.map_eq_some_iff.mp h
      exact List.forall_mem_cons.mpr ⟨separator_plain hsep, ih hrest hlex⟩

theorem mem_of_mem_splitOn {sep : Lexeme} {ls part : List Lexeme} (h : part ∈ ls.splitOn sep) (hl : l ∈ part) :
    l ∈ ls := by
  obtain ⟨i, hi⟩ := List.mem_iff_getElem?.mp h
  have hpart : part ∈ (ls.splitOn sep).intersperse [sep] :=
    List.mem_of_getElem? (List.getElem?_intersperse_two_mul.trans hi)
  have hjoin : [sep].intercalate (ls.splitOn sep) = ls := List.intercalate_splitOn sep
  rw [← hjoin, List.intercalate]
  exact List.mem_flatten.mpr ⟨part, hpart, hl⟩

theorem mem_of_mem_trimSpaces (h : l ∈ trimSpaces ls) : l ∈ ls := by
  have hback := List.mem_reverse.mp h
  have hfront := List.mem_reverse.mp ((List.dropWhile_suffix _).mem hback)
  exact (List.dropWhile_suffix _).mem hfront

theorem readPair_value (hls : ∀ l ∈ ls, l.Plain) {name value : String}
    (h : readPair ls = some (some (name, value))) : isToken value = true := by
  unfold readPair at h
  split at h
  · cases h
  · rename_i n v
    cases h
    have hv : Lexeme.Plain (.token v) := hls _ (by simp)
    rw [isToken_iff, String.toList_ofList]
    exact hv
  · rename_i n v
    have hv : Lexeme.Plain (.quoted v) := hls _ (by simp)
    exact hv.elim
  · cases h

theorem mem_of_mapM {α β : Type} {f : α → Option β} {l : List α} {bs : List β} (h : l.mapM f = some bs)
    {b : β} (hb : b ∈ bs) : ∃ a ∈ l, f a = some b := by
  induction l generalizing bs with
  | nil =>
    cases h
    cases hb
  | cons a l ih =>
    rw [List.mapM_cons] at h
    obtain ⟨c, hc, h⟩ := Option.bind_eq_some_iff.mp h
    obtain ⟨rest, hrest, h⟩ := Option.bind_eq_some_iff.mp h
    cases h
    rcases List.mem_cons.mp hb with rfl | hb
    · exact ⟨a, (.head _), hc⟩
    · obtain ⟨d, hd, hf⟩ := ih hrest hb
      exact ⟨d, List.mem_cons_of_mem a hd, hf⟩

theorem isToken_of_parse {text : String} (htext : '"' ∉ text.toList) {elements : List Element}
    (h : parse text = some elements) {element : Element} (helement : element ∈ elements)
    {name value : String} (hpair : (name, value) ∈ element) : isToken value = true := by
  obtain ⟨ls, hlex, h⟩ := Option.bind_eq_some_iff.mp h
  have hplain := lex_plain htext hlex
  obtain ⟨part, hpart, hread⟩ := mem_of_mapM h helement
  obtain ⟨pairs, hpairs, rfl⟩ := Option.map_eq_some_iff.mp hread
  obtain ⟨pair, hmem, hsome⟩ := List.mem_filterMap.mp hpair
  rw [id_eq] at hsome
  obtain ⟨piece, hpiece, hpair⟩ := mem_of_mapM hpairs hmem
  obtain ⟨raw, hraw, rfl⟩ := List.mem_map.mp (List.mem_of_mem_filter hpart)
  refine readPair_value (fun l hl => hplain l ?_) (hpair.trans (congrArg some hsome))
  exact mem_of_mem_splitOn hraw (mem_of_mem_trimSpaces (mem_of_mem_splitOn hpiece hl))

theorem lex_pair {name value rest : List Char} (hname : isToken (String.ofList name) = true)
    (hvalue : isToken (String.ofList value) = true)
    (hrest : rest = [] ∨ ∃ c cs l, rest = c :: cs ∧ separator c = some l) :
    lex .plain (name ++ '=' :: (value ++ rest)) =
      (lex .plain rest).map ([.token name, .equals, .token value] ++ ·) := by
  rw [isToken_iff, String.toList_ofList] at hname hvalue
  rw [lex_token hname.1 hname.2 (.inr ⟨'=', _, .equals, rfl, rfl⟩),
    lex_plain_separator (l := .equals) rfl, lex_token hvalue.1 hvalue.2 hrest, Option.map_map, Option.map_map]
  rfl

theorem parse_three {a b c x y z : String} (ha : isToken a = true) (hb : isToken b = true)
    (hc : isToken c = true) (hx : isToken x = true) (hy : isToken y = true) (hz : isToken z = true) :
    parse (a ++ "=" ++ x ++ ";" ++ b ++ "=" ++ y ++ ";" ++ c ++ "=" ++ z) =
      some [[(a, x), (b, y), (c, z)]] := by
  have htext : (a ++ "=" ++ x ++ ";" ++ b ++ "=" ++ y ++ ";" ++ c ++ "=" ++ z).toList =
      a.toList ++ '=' :: (x.toList ++ ';' :: (b.toList ++ '=' :: (y.toList ++
        ';' :: (c.toList ++ '=' :: (z.toList ++ []))))) := by
    simp
  have hlex : lex .plain (a ++ "=" ++ x ++ ";" ++ b ++ "=" ++ y ++ ";" ++ c ++ "=" ++ z).toList =
      some [.token a.toList, .equals, .token x.toList, .semicolon, .token b.toList, .equals,
        .token y.toList, .semicolon, .token c.toList, .equals, .token z.toList] := by
    rw [htext, lex_pair (by simpa using ha) (by simpa using hx) (.inr ⟨';', _, .semicolon, rfl, rfl⟩),
      lex_plain_separator (l := .semicolon) rfl,
      lex_pair (by simpa using hb) (by simpa using hy) (.inr ⟨';', _, .semicolon, rfl, rfl⟩),
      lex_plain_separator (l := .semicolon) rfl,
      lex_pair (by simpa using hc) (by simpa using hz) (.inl rfl)]
    rfl
  rw [parse, hlex, Option.bind_some]
  have hread : ∀ s : String, String.ofList s.toList = s := fun s => String.ofList_toList
  rw [← hread a, ← hread b, ← hread c, ← hread x, ← hread y, ← hread z]
  simp only [String.toList_ofList]
  rfl

end Krouter.Http.Forwarded
