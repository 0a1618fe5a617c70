import Krouter.Lib.NetIP
import Krouter.Lib.WebURL

/-! The `Location` header that `http.Redirect` sends for a reference that starts with a single
slash, as it stands on the wire. -/

namespace Krouter.Http.Redirect

def isCTL (c : Char) : Bool := c.toNat < 32 || c.toNat = 127

def isHex (c : Char) : Bool := (NetIP.hexValue c).isSome

def validEscapes : List Char → Bool
  | [] => true
  | '%' :: a :: b :: rest => isHex a && isHex b && validEscapes rest
  | '%' :: _ => false
  | _ :: rest => validEscapes rest

def cutAt (sep : Char) (cs : List Char) : List Char × List Char :=
  (cs.takeWhile (· ≠ sep), (cs.dropWhile (· ≠ sep)).drop 1)

/-- Whether `url.Parse` accepts the reference, which then has neither a scheme nor a host. -/
def parses (url : List Char) : Bool :=
  let (u, fragment) := cutAt '#' url
  !u.any isCTL && validEscapes (cutAt '?' u).1 && validEscapes fragment

def pushElement (path : List (List Char)) (element : List Char) : List (List Char) :=
  if element = [] ∨ element = ['.'] then path
  else if element = ['.', '.'] then path.dropLast
  else path ++ [element]

/-- `path.Clean` on a path that starts with a slash. -/
def clean (path : List Char) : List Char :=
  '/' :: ['/'].intercalate ((path.splitOn '/').foldl pushElement [])

/-- The clean form of everything up to the query, with its trailing slash. The fragment is not
told apart. -/
def cleaned (url : List Char) : List Char :=
  let path := url.takeWhile (· ≠ '?')
  let query := url.dropWhile (· ≠ '?')
  let target := clean path
  (if path.getLast? = some '/' ∧ target.getLast? ≠ some '/' then target ++ ['/'] else target) ++ query

def redirectURL (url : List Char) : List Char := if parses url then cleaned url else url

def hexEscapeNonASCII (url : List Char) : List Char :=
  url.flatMap fun c => if c.toNat < 128 then [c]
    else (String.utf8EncodeChar c).flatMap fun b => '%' :: Nat.toDigits 16 b.toNat

def newlineToSpace (c : Char) : Char := if c = '\n' ∨ c = '\r' then ' ' else c

def wireValue (value : List Char) : List Char :=
  WebURL.trimmed (fun c => c = ' ' || c = '\t' || c = '\n' || c = '\r') (value.map newlineToSpace)

def location (url : List Char) : List Char := wireValue (hexEscapeNonASCII (redirectURL url))

/-! ## What a browser makes of it -/

def slashFollows (cs : List Char) : Bool := (cs.dropWhile (· = '\t')).head?.any WebURL.isSlash

theorem slashFollows_cons (c : Char) (cs : List Char) :
    slashFollows (c :: cs) = if c = '\t' then slashFollows cs else WebURL.isSlash c := by
  rw [slashFollows, List.dropWhile_cons]
  split_ifs with h h' h'
  · rfl
  · exact absurd (of_decide_eq_true h) h'
  · exact absurd (decide_eq_true h') h
  · rfl

theorem leaves_cons (c : Char) (cs : List Char) :
    WebURL.leaves (c :: cs) = if WebURL.isTabOrNewline c then WebURL.leaves cs else WebURL.isSlash c := by
  rw [WebURL.leaves, WebURL.firstShown, List.filter_cons]
  cases WebURL.isTabOrNewline c <;> rfl

theorem leaves_map_newlineToSpace (cs : List Char) :
    WebURL.leaves (cs.map newlineToSpace) = slashFollows cs := by
  induction cs with
  | nil => rfl
  | cons c cs ih =>
    rw [List.map_cons, leaves_cons, slashFollows_cons, ih]
    by_cases hnewline : c = '\n' ∨ c = '\r'
    · rw [newlineToSpace, if_pos hnewline]
      rcases hnewline with rfl | rfl <;> rfl
    · rw [newlineToSpace, if_neg hnewline]
      have htab : WebURL.isTabOrNewline c = decide (c = '\t') := by
        rw [not_or] at hnewline
        rw [WebURL.isTabOrNewline, decide_eq_false hnewline.1, decide_eq_false hnewline.2, Bool.or_false,
          Bool.or_false]
      rw [htab]
      exact ite_congr (by simp) (fun _ => rfl) fun _ => rfl

theorem slashFollows_hexEscape (cs : List Char) : slashFollows (hexEscapeNonASCII cs) = slashFollows cs := by
  induction cs with
  | nil => rfl
  | cons c cs ih =>
    rw [hexEscapeNonASCII, List.flatMap_cons]
    by_cases hascii : c.toNat < 128
    · rw [if_pos hascii, List.singleton_append, slashFollows_cons, slashFollows_cons]
      exact if_congr Iff.rfl ih rfl
    · -- what stands for the character starts with a percent sign
      obtain ⟨b, bs, hbytes⟩ := List.exists_cons_of_ne_nil (String.utf8EncodeChar_ne_nil (c := c))
      have hc : ∀ d : Char, d.toNat < 128 → c ≠ d := fun d hd he => hascii (he ▸ hd)
      have hslash : WebURL.isSlash c = false := by
        rw [WebURL.isSlash, decide_eq_false (hc '/' (by decide)), decide_eq_false (hc '\\' (by decide)), Bool.or_false]
      rw [if_neg hascii, hbytes, List.flatMap_cons, List.cons_append, List.cons_append, slashFollows_cons,
        if_neg (by decide), slashFollows_cons, if_neg (hc '\t' (by decide)), hslash]
      rfl

theorem leaves_wireValue (cs : List Char) : ∃ rest, wireValue ('/' :: cs) = '/' :: rest ∧
    WebURL.leaves rest = slashFollows cs := by
  obtain ⟨kept, dropped, hkept, hcs, hdropped⟩ := WebURL.trimmed_cons
    (fun c => c = ' ' || c = '\t' || c = '\n' || c = '\r') (c := '/') (by decide) (cs.map newlineToSpace)
  refine ⟨kept, hkept, ?_⟩
  have hcut : ∀ d ∈ dropped, WebURL.isC0OrSpace d = true := by
    intro d hd
    have hspace := hdropped d hd
    simp only [Bool.or_eq_true, decide_eq_true_eq] at hspace
    rcases hspace with ((rfl | rfl) | rfl) | rfl <;> decide
  rw [← leaves_map_newlineToSpace, hcs, WebURL.leaves_append_cut hcut]

theorem redirectURL_slash (rest : List Char) : ∃ cs, redirectURL ('/' :: rest) = '/' :: cs := by
  rw [redirectURL]
  split_ifs
  · rw [cleaned]
    split_ifs
    · exact ⟨_, rfl⟩
    · exact ⟨_, rfl⟩
  · exact ⟨rest, rfl⟩

/-- A browser stays on the origin of the request exactly when no slash or backslash follows the
first slash of the redirect. -/
theorem location_same_origin_iff {authority : WebURL.Scheme → List Char → Option (String × Nat)}
    {absolute : WebURL.Origin → List Char → Option WebURL.Origin} (rest : List Char) :
    (∀ base, WebURL.originOf authority absolute base (location ('/' :: rest)) = some base) ↔
      slashFollows (redirectURL ('/' :: rest)).tail = false := by
  obtain ⟨cs, hcs⟩ := redirectURL_slash rest
  have hescaped : hexEscapeNonASCII ('/' :: cs) = '/' :: hexEscapeNonASCII cs := rfl
  obtain ⟨wire, hwire, hleaves⟩ := leaves_wireValue (hexEscapeNonASCII cs)
  rw [location, hcs, hescaped, hwire, WebURL.originOf_slash_iff, hleaves, slashFollows_hexEscape, List.tail_cons]

end Krouter.Http.Redirect
