import Mathlib.Data.List.TakeWhile

/-! The origin that a browser resolves a reference to, against an `http` or `https` base: the states of
the WHATWG URL parser up to the host. Hosts and references with a scheme are left open. -/

namespace WebURL

inductive Scheme where
  | http
  | https
  deriving DecidableEq

structure Origin where
  scheme : Scheme
  host : String
  port : Nat
  deriving DecidableEq

def isC0OrSpace (c : Char) : Bool := c.toNat ≤ 32

def isTabOrNewline (c : Char) : Bool := c = '\t' || c = '\n' || c = '\r'

def isSlash (c : Char) : Bool := c = '/' || c = '\\'

def trimmed (cut : Char → Bool) (cs : List Char) : List Char :=
  ((cs.dropWhile cut).reverse.dropWhile cut).reverse

def shown (input : List Char) : List Char := (trimmed isC0OrSpace input).filter fun c => !isTabOrNewline c

def hasScheme : List Char → Bool
  | [] => false
  | c :: cs => c.isAlpha && ((cs.dropWhile fun d => d.isAlphanum || d = '+' || d = '-' || d = '.').head? = some ':')

section
variable (authority : Scheme → List Char → Option (String × Nat)) (absolute : Origin → List Char → Option Origin)

def withAuthority (base : Origin) (input : List Char) : Option Origin :=
  (authority base.scheme (input.takeWhile fun c => !(isSlash c || c = '?' || c = '#'))).map fun p =>
    ⟨base.scheme, p.1, p.2⟩

/-- From the scheme start state on. Two or more slashes of whatever kind come before an authority;
otherwise the base has the say. -/
def originOf (base : Origin) (input : List Char) : Option Origin :=
  let cs := shown input
  if hasScheme cs then absolute base cs
  else
    match cs with
    | c :: d :: rest =>
      if isSlash c && isSlash d then withAuthority authority base (rest.dropWhile isSlash) else some base
    | _ => some base

end

/-! ## References that start with a slash -/

def firstShown (cs : List Char) : Option Char := (cs.filter fun c => !isTabOrNewline c).head?

/-- The reference goes on with an authority after its first slash. -/
def leaves (cs : List Char) : Bool := (firstShown cs).any isSlash

theorem firstShown_append (as bs : List Char) : firstShown (as ++ bs) = (firstShown as).or (firstShown bs) := by
  rw [firstShown, List.filter_append, List.head?_append]
  rfl

theorem leaves_append_cut {as bs : List Char} (h : ∀ c ∈ bs, isC0OrSpace c = true) :
    leaves (as ++ bs) = leaves as := by
  have hbs : (firstShown bs).any isSlash = false := by
    cases hb : firstShown bs with
    | none => rfl
    | some c =>
      have hc : isC0OrSpace c = true := h c (List.mem_filter.mp (List.mem_of_head? hb)).1
      rw [Option.any_some, isSlash, Bool.or_eq_false_iff]
      constructor <;> refine decide_eq_false fun he => ?_ <;> rw [he] at hc <;> exact absurd hc (by decide)
  rw [leaves, firstShown_append, leaves]
  cases firstShown as with
  | none => exact hbs
  | some c => rfl

theorem trimmed_cons (cut : Char → Bool) {c : Char} (hc : cut c = false) (cs : List Char) :
    ∃ kept dropped, trimmed cut (c :: cs) = c :: kept ∧ cs = kept ++ dropped ∧ ∀ d ∈ dropped, cut d = true := by
  have hstop : ¬ cut c = true := by rw [hc]; exact Bool.false_ne_true
  have hback : (cs.reverse ++ [c]).dropWhile cut = cs.reverse.dropWhile cut ++ [c] := by
    rw [List.dropWhile_append]
    split
    · next hempty =>
      rw [List.isEmpty_iff.mp hempty, List.dropWhile_cons_of_neg hstop]
      rfl
    · rfl
  refine ⟨(cs.reverse.dropWhile cut).reverse, (cs.reverse.takeWhile cut).reverse, ?_, ?_, fun d hd => ?_⟩
  · rw [trimmed, List.dropWhile_cons_of_neg hstop, List.reverse_cons, hback, List.reverse_append]
    rfl
  · rw [← List.reverse_append, List.takeWhile_append_dropWhile, List.reverse_reverse]
  · exact List.mem_takeWhile_imp (List.mem_reverse.mp hd)

variable {authority : Scheme → List Char → Option (String × Nat)}
  {absolute : Origin → List Char → Option Origin}

/-- Against every base, a reference that starts with a slash resolves to the base's own origin
unless an authority follows. -/
theorem originOf_slash_iff (cs : List Char) :
    (∀ base, originOf authority absolute base ('/' :: cs) = some base) ↔ leaves cs = false := by
  obtain ⟨kept, dropped, hkept, hcs, hdropped⟩ := trimmed_cons isC0OrSpace (c := '/') (by decide) cs
  have hshown : shown ('/' :: cs) = '/' :: kept.filter fun c => !isTabOrNewline c := by
    rw [shown, hkept, List.filter_cons_of_pos (by decide)]
  have hleaves : leaves cs = leaves kept := by rw [hcs, leaves_append_cut hdropped]
  have horigin : ∀ base, originOf authority absolute base ('/' :: cs) =
      match kept.filter fun c => !isTabOrNewline c with
      | [] => some base
      | d :: rest => if isSlash d then withAuthority authority base (rest.dropWhile isSlash) else some base := by
    intro base
    rw [originOf, hshown]
    have hscheme : ∀ rest, hasScheme ('/' :: rest) = false := fun rest => rfl
    rw [hscheme, if_neg Bool.false_ne_true]
    cases kept.filter fun c => !isTabOrNewline c with
    | nil => rfl
    | cons d rest => rfl
  rw [hleaves, leaves, firstShown]
  constructor
  · intro h
    cases hrest : kept.filter fun c => !isTabOrNewline c with
    | nil => rfl
    | cons d rest =>
      rw [List.head?_cons, Option.any_some]
      by_contra hslash
      rw [Bool.not_eq_false] at hslash
      -- the authority says what it says, whatever the host of the base is
      have hsame : ∀ host, ∃ p, authority .http ((rest.dropWhile isSlash).takeWhile
          fun c => !(isSlash c || c = '?' || c = '#')) = some p ∧ p.1 = host := by
        intro host
        have hbase := h ⟨.http, host, 80⟩
        rw [horigin, hrest] at hbase
        dsimp only at hbase
        rw [if_pos hslash, withAuthority] at hbase
        obtain ⟨p, hp, hhost⟩ := Option.map_eq_some_iff.mp hbase
        exact ⟨p, hp, congrArg Origin.host hhost⟩
      obtain ⟨p, hp, ha⟩ := hsame "a"
      obtain ⟨q, hq, hb⟩ := hsame "b"
      rw [hp] at hq
      cases hq
      exact absurd (ha.symm.trans hb) (by decide)
  · intro h base
    rw [horigin]
    cases hrest : kept.filter fun c => !isTabOrNewline c with
    | nil => rfl
    | cons d rest =>
      rw [hrest, List.head?_cons, Option.any_some] at h
      dsimp only
      rw [h, if_neg Bool.false_ne_true]

end WebURL
