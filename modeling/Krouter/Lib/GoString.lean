import Mathlib.Data.List.Basic

/-! The functions of Go's `strings` package the program uses, on the characters of a
string: on valid UTF-8 they agree with the byte-wise originals. -/

namespace GoString

def hasPrefix (s p : String) : Bool := p.toList.isPrefixOf s.toList

def hasSuffix (s p : String) : Bool := p.toList.isSuffixOf s.toList

def dropPrefix (s p : String) : String := String.ofList (s.toList.drop p.toList.length)

def trimSuffix (s p : String) : String :=
  if hasSuffix s p then String.ofList (s.toList.take (s.toList.length - p.toList.length)) else s

def trimPrefix (s p : String) : String := if hasPrefix s p then dropPrefix s p else s

/-- Case folding of the characters an ASCII letter can fold to. -/
def foldChar (c : Char) : Char :=
  if 65 ≤ c.toNat ∧ c.toNat ≤ 90 then Char.ofNat (c.toNat + 32)
  else if c = '\u212a' then 'k'
  else if c = '\u017f' then 's'
  else c

def equalFold (s t : String) : Bool := s.toList.map foldChar = t.toList.map foldChar

theorem equalFold_comm (s t : String) : equalFold s t = equalFold t s := by
  simp only [equalFold, eq_comm]

theorem equalFold_self (s : String) : equalFold s s = true := by
  rw [equalFold, decide_eq_true_eq]

def lowerChar (c : Char) : Char :=
  if 65 ≤ c.toNat ∧ c.toNat ≤ 90 then Char.ofNat (c.toNat + 32) else c

def upperChar (c : Char) : Char :=
  if 97 ≤ c.toNat ∧ c.toNat ≤ 122 then Char.ofNat (c.toNat - 32) else c

def toLower (s : String) : String := String.ofList (s.toList.map lowerChar)

def quote (s : String) : String :=
  "\"" ++ String.ofList (s.toList.flatMap fun c => if c = '"' ∨ c = '\\' then ['\\', c] else [c]) ++ "\""

theorem hasPrefix_iff {s p : String} : hasPrefix s p = true ↔ ∃ t, s = p ++ t := by
  rw [hasPrefix, List.isPrefixOf_iff_prefix]
  constructor
  · rintro ⟨t, ht⟩
    exact ⟨String.ofList t, by rw [← String.toList_inj, String.toList_append, String.toList_ofList, ht]⟩
  · rintro ⟨t, rfl⟩
    exact ⟨t.toList, String.toList_append.symm⟩

theorem dropPrefix_append (p t : String) : dropPrefix (p ++ t) p = t := by
  rw [dropPrefix, String.toList_append, List.drop_left, String.ofList_toList]

theorem trimPrefix_append (p rest : String) : trimPrefix (p ++ rest) p = rest := by
  rw [trimPrefix, if_pos (hasPrefix_iff.mpr ⟨rest, rfl⟩), dropPrefix_append]

theorem hasSuffix_iff {s p : String} : hasSuffix s p = true ↔ ∃ t, s = t ++ p := by
  rw [hasSuffix, List.isSuffixOf_iff_suffix]
  constructor
  · rintro ⟨t, ht⟩
    exact ⟨String.ofList t, by rw [← String.toList_inj, String.toList_append, String.toList_ofList, ht]⟩
  · rintro ⟨t, rfl⟩
    exact ⟨t.toList, String.toList_append.symm⟩

theorem trimSuffix_append (t p : String) : trimSuffix (t ++ p) p = t := by
  rw [trimSuffix, if_pos (hasSuffix_iff.mpr ⟨t, rfl⟩), String.toList_append, List.length_append,
    Nat.add_sub_cancel, List.take_left, String.ofList_toList]

theorem utf8ByteSize_trimSuffix_le {s p : String} :
    (trimSuffix s p).utf8ByteSize ≤ s.utf8ByteSize := by
  rw [trimSuffix]
  split_ifs
  · generalize s.toList.length - p.toList.length = n
    have hs : s = String.ofList (s.toList.take n) ++ String.ofList (s.toList.drop n) := by
      rw [← String.ofList_append, List.take_append_drop, String.ofList_toList]
    have hsize := congrArg String.utf8ByteSize hs
    rw [String.utf8ByteSize_append] at hsize
    omega
  · exact Nat.le_refl _

theorem append_inj_left {a b x y : String} (hlen : a.toList.length = b.toList.length)
    (h : a ++ x = b ++ y) : a = b ∧ x = y := by
  have hl := congrArg String.toList h
  rw [String.toList_append, String.toList_append] at hl
  obtain ⟨hab, hxy⟩ := List.append_inj hl hlen
  exact ⟨String.toList_inj.mp hab, String.toList_inj.mp hxy⟩

theorem append_inj_right {a b x y : String} (hlen : x.toList.length = y.toList.length)
    (h : a ++ x = b ++ y) : a = b ∧ x = y := by
  have hl := congrArg String.toList h
  rw [String.toList_append, String.toList_append] at hl
  obtain ⟨hab, hxy⟩ := List.append_inj' hl hlen
  exact ⟨String.toList_inj.mp hab, String.toList_inj.mp hxy⟩

theorem append_cancel {a x y : String} (h : a ++ x = a ++ y) : x = y := (append_inj_left rfl h).2

/-- Two texts that agree up to the first occurrence of a separator agree on both sides
of it. -/
theorem append_cons_inj {α : Type} {sep : α} : ∀ {a b x y : List α}, sep ∉ a → sep ∉ b →
    a ++ sep :: x = b ++ sep :: y → a = b ∧ x = y
  | [], [], _, _, _, _, h => ⟨rfl, (List.cons.inj h).2⟩
  | [], c :: b, _, _, _, hb, h => absurd (List.mem_cons.mpr (.inl (List.cons.inj h).1)) hb
  | c :: a, [], _, _, ha, _, h => absurd (List.mem_cons.mpr (.inl (List.cons.inj h).1.symm)) ha
  | c :: a, d :: b, x, y, ha, hb, h => by
    obtain ⟨hcd, ht⟩ := List.cons.inj h
    obtain ⟨hab, hxy⟩ := append_cons_inj (fun hm => ha (List.mem_cons_of_mem c hm))
      (fun hm => hb (List.mem_cons_of_mem d hm)) ht
    exact ⟨by rw [hcd, hab], hxy⟩

theorem append_cons_inj_last {α : Type} {sep : α} {a b x y : List α} (hx : sep ∉ x) (hy : sep ∉ y)
    (h : a ++ sep :: x = b ++ sep :: y) : a = b ∧ x = y := by
  have hreversed := congrArg List.reverse h
  simp only [List.reverse_append, List.reverse_cons, List.append_assoc, List.singleton_append] at hreversed
  obtain ⟨hxy, hab⟩ := append_cons_inj (fun hm => hx (List.mem_reverse.mp hm))
    (fun hm => hy (List.mem_reverse.mp hm)) hreversed
  exact ⟨List.reverse_injective hab, List.reverse_injective hxy⟩

/-- Texts joined by a character that the first or the last of them is free of. -/
theorem joined_inj {sep : String} {c : Char} (hsep : sep.toList = [c]) {a b x y : String}
    (hfree : c ∉ a.toList ∧ c ∉ b.toList ∨ c ∉ x.toList ∧ c ∉ y.toList) (h : a ++ sep ++ x = b ++ sep ++ y) :
    a = b ∧ x = y := by
  have hlists : a.toList ++ c :: x.toList = b.toList ++ c :: y.toList := by
    simpa [String.toList_append, hsep] using congrArg String.toList h
  have hparts : a.toList = b.toList ∧ x.toList = y.toList := by
    rcases hfree with ⟨ha, hb⟩ | ⟨hx, hy⟩
    · exact append_cons_inj ha hb hlists
    · exact append_cons_inj_last hx hy hlists
  exact ⟨String.toList_inj.mp hparts.1, String.toList_inj.mp hparts.2⟩

/-! ## Splitting -/

def splitChar (s : String) (sep : Char) : List String := (s.toList.splitOn sep).map String.ofList

theorem splitChar_append (a b : String) (sep : Char) :
    splitChar (a ++ String.singleton sep ++ b) sep = splitChar a sep ++ splitChar b sep := by
  rw [splitChar, String.toList_append, String.toList_append, String.toList_singleton,
    List.append_assoc, List.singleton_append, List.splitOn, List.splitOnP_append_cons _ _ (by simp),
    List.map_append]
  rfl

theorem splitChar_of_notMem {s : String} {sep : Char} (h : sep ∉ s.toList) : splitChar s sep = [s] := by
  have hsplit : ([sep].intercalate [s.toList]).splitOn sep = [s.toList] :=
    List.splitOn_intercalate sep (fun l hl => (List.mem_singleton.mp hl) ▸ h) (List.cons_ne_nil _ _)
  rw [List.intercalate_singleton] at hsplit
  rw [splitChar, hsplit, List.map_singleton, String.ofList_toList]

def trimChars (cut : Char → Bool) (s : String) : String :=
  String.ofList (((s.toList.dropWhile cut).reverse.dropWhile cut).reverse)

def isSpace (c : Char) : Bool :=
  c = ' ' || (9 ≤ c.toNat && c.toNat ≤ 13) || c.toNat = 0x85 || c.toNat = 0xA0 || c.toNat = 0x1680 ||
    (0x2000 ≤ c.toNat && c.toNat ≤ 0x200a) || c.toNat = 0x2028 || c.toNat = 0x2029 ||
    c.toNat = 0x202f || c.toNat = 0x205f || c.toNat = 0x3000

def trimSpace : String → String := trimChars isSpace

def fields (s : String) : List String :=
  ((s.toList.splitOnP isSpace).filter fun word => word ≠ []).map String.ofList

theorem fields_append (a b : String) : fields (a ++ " " ++ b) = fields a ++ fields b := by
  rw [fields, String.toList_append, String.toList_append, List.append_assoc,
    show (" " : String).toList ++ b.toList = ' ' :: b.toList from rfl,
    List.splitOnP_append_cons _ _ (by decide), List.filter_append, List.map_append]
  rfl

theorem fields_word {s : String} (hne : s ≠ "") (h : ∀ c ∈ s.toList, isSpace c = false) : fields s = [s] := by
  have hsplit : s.toList.splitOnP isSpace = [s.toList] := by
    rw [List.splitOnP_eq_singleton]
    exact fun c hc => by rw [h c hc]
  have hnil : s.toList ≠ [] := fun hnil => hne (String.toList_inj.mp (hnil.trans (by decide)))
  rw [fields, hsplit, List.filter_cons_of_pos (by simpa using hnil), List.filter_nil, List.map_singleton,
    String.ofList_toList]

theorem fields_cons {c : Char} (hc : isSpace c = false) (cs : List Char) :
    ∃ word rest, fields (String.ofList (c :: cs)) = String.ofList (c :: word) :: rest := by
  have hcons : (c :: cs).splitOnP isSpace = (cs.splitOnP isSpace).modifyHead (c :: ·) := by
    rw [List.splitOnP_cons_eq_if_modifyHead, if_neg (by rw [hc]; exact Bool.false_ne_true)]
  obtain ⟨word, rest, hword⟩ := List.exists_cons_of_ne_nil (List.splitOnP_ne_nil isSpace cs)
  refine ⟨word, ((rest.filter fun word => word ≠ []).map String.ofList), ?_⟩
  rw [fields, String.toList_ofList, hcons, hword, List.modifyHead_cons, List.filter_cons_of_pos (by simp),
    List.map_cons]

end GoString
