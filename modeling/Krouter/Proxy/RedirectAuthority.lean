import Krouter.Lib.NetIP
import Krouter.Proxy.Outbound
import Mathlib.Data.List.TakeWhile

/-! The `Location` that a `RequestRedirect` filter answers with, and what its authority reads as. -/

namespace Krouter.Proxy
open Compiled Http GoString

/-! ## The answer -/

def atoi (s : String) : Option Int :=
  (match s.toList with
    | '+' :: rest => (Decimal.atoiUnsigned rest).map fun n : Nat => (n : Int)
    | cs => Decimal.atoi cs).filter fun n => -(2 ^ 63) ≤ n ∧ n < 2 ^ 63

def requestPort (r : Request) (withTLS : Bool) : Int32 :=
  match (GoNet.splitHostPort r.host).bind fun hostport => atoi hostport.2 with
  | some port => Int32.ofInt port
  | none => if withTLS then 443 else 80

def schemeOf (filter : Filter) (withTLS : Bool) : String :=
  if filter.scheme ≠ "" then filter.scheme else if withTLS then "https" else "http"

def withPort (scheme host : String) (port : Int32) : String :=
  if port ≠ 0 ∧ ¬(scheme = "http" ∧ port = 80) ∧ ¬(scheme = "https" ∧ port = 443) then
    host ++ ":" ++ String.ofList (Decimal.itoa port.toInt)
  else host

structure URL where
  scheme : String
  host : String
  path : String
  rawQuery : String

/-- The status, and the URL that the `Location` header is the text of. -/
def serveRedirect (r : Request) (rawQuery : String) (filter : Filter) (withTLS : Bool) : Int64 × URL :=
  let scheme := schemeOf filter withTLS
  let host := if filter.hostname ≠ "" then filter.hostname else GoNet.hostOnly r.host
  let port := if filter.port = 0 ∧ filter.scheme = "" then requestPort r withTLS else filter.port
  (if filter.statusCode = 0 then 302 else filter.statusCode,
    ⟨scheme, withPort scheme host port, rewrittenPath r.path filter, rawQuery⟩)

/-! ## Reading an authority -/

inductive Host where
  | name (text : List Char)
  | literal (text : List Char)
  deriving DecidableEq

def nameChar (c : Char) : Bool := c.isAlphanum || c = '-' || c = '.' || c = '_'

def literalChar (c : Char) : Bool := (NetIP.hexValue c).isSome || c = ':' || c = '.'

def readPort : List Char → Option (Option Nat)
  | [] => some none
  | ':' :: digits => (Decimal.atoiUnsigned digits).map some
  | _ => none

/-- A DNS name, an IPv4 address or an IPv6 literal in brackets, and the port behind it. -/
def readAuthority : List Char → Option (Host × Option Nat)
  | '[' :: cs =>
    match cs.takeWhile literalChar, cs.dropWhile literalChar with
    | c :: text, ']' :: tail => (readPort tail).map (Host.literal (c :: text), ·)
    | _, _ => none
  | cs =>
    if cs.takeWhile nameChar = [] then none
    else (readPort (cs.dropWhile nameChar)).map (Host.name (cs.takeWhile nameChar), ·)

def wellKnownPort (scheme : String) : Nat := if scheme = "https" then 443 else 80

/-- What the API admits in a filter. -/
structure ApiRedirect (filter : Filter) : Prop where
  scheme : filter.scheme = "" ∨ filter.scheme = "http" ∨ filter.scheme = "https"
  hostname : ∀ c ∈ filter.hostname.toList, nameChar c = true
  port : 0 ≤ filter.port.toInt ∧ filter.port.toInt ≤ 65535

def redirectedHost (filter : Filter) (host : Host) : Host :=
  if filter.hostname ≠ "" then .name filter.hostname.toList else host

def redirectedPort (filter : Filter) (withTLS : Bool) (port : Option Nat) : Nat :=
  if filter.port ≠ 0 then filter.port.toInt.toNat
  else if filter.scheme = "" then port.getD (if withTLS then 443 else 80)
  else wellKnownPort filter.scheme

def shownPort (scheme : String) (port : Nat) : Option Nat :=
  if port = wellKnownPort scheme then none else some port

/-! ## The parts of an authority -/

def Host.text : Host → List Char
  | .name text => text
  | .literal text => '[' :: text ++ [']']

def Host.bare : Host → List Char
  | .name text => text
  | .literal text => text

def Host.Valid : Host → Prop
  | .name text => text ≠ [] ∧ ∀ c ∈ text, nameChar c = true
  | .literal text => text ≠ [] ∧ ∀ c ∈ text, literalChar c = true

variable {port : Option Nat} {digits : List Char} {n : Nat}

theorem readPort_eq_some {tail : List Char} (h : readPort tail = some port) : (tail = [] ∧ port = none) ∨
      ∃ digits n, tail = ':' :: digits ∧ Decimal.atoiUnsigned digits = some n ∧ port = some n := by
  unfold readPort at h
  split at h
  · exact .inl ⟨rfl, (Option.some.inj h).symm⟩
  · obtain ⟨n, hn, hport⟩ := Option.map_eq_some_iff.mp h
    exact .inr ⟨_, n, rfl, hn, hport.symm⟩
  · cases h

theorem readAuthority_text {host : Host} (hvalid : host.Valid) {tail : List Char} (h : readPort tail = some port) :
    readAuthority (host.text ++ tail) = some (host, port) := by
  cases host with
  | name text =>
    obtain ⟨hne, hchars⟩ := hvalid
    have htail : tail.takeWhile nameChar = [] ∧ tail.dropWhile nameChar = tail := by
      rcases readPort_eq_some h with ⟨rfl, -⟩ | ⟨digits, n, rfl, -⟩ <;> simp [nameChar]
    have htext : (text ++ tail).takeWhile nameChar = text ∧ (text ++ tail).dropWhile nameChar = tail := by
      rw [List.takeWhile_append_of_pos hchars, List.dropWhile_append_of_pos hchars, htail.1, htail.2, List.append_nil]
      exact ⟨rfl, rfl⟩
    rw [Host.text, readAuthority, htext.1, htext.2, if_neg hne, h, Option.map_some]
    rintro cs hcs
    obtain ⟨c, text', rfl⟩ := List.exists_cons_of_ne_nil hne
    obtain ⟨rfl, -⟩ := List.cons.inj hcs
    exact absurd (hchars _ (.head _)) (by decide)
  | literal text =>
    obtain ⟨hne, hchars⟩ := hvalid
    obtain ⟨c, text', rfl⟩ := List.exists_cons_of_ne_nil hne
    have hend : (']' :: tail).takeWhile literalChar = [] ∧ (']' :: tail).dropWhile literalChar = ']' :: tail := by
      constructor <;> rfl
    have htext : (c :: text' ++ (']' :: tail)).takeWhile literalChar = c :: text' ∧
        (c :: text' ++ (']' :: tail)).dropWhile literalChar = ']' :: tail := by
      rw [List.takeWhile_append_of_pos hchars, List.dropWhile_append_of_pos hchars, hend.1, hend.2, List.append_nil]
      exact ⟨rfl, rfl⟩
    have hcs : (Host.literal (c :: text')).text ++ tail = '[' :: (c :: text' ++ (']' :: tail)) := by
      simp [Host.text]
    rw [hcs, readAuthority, htext.1, htext.2]
    exact congrArg (Option.map _) h

theorem readAuthority_eq_some {cs : List Char} {host : Host} (h : readAuthority cs = some (host, port)) :
    host.Valid ∧ ∃ tail, cs = host.text ++ tail ∧ readPort tail = some port := by
  unfold readAuthority at h
  split at h
  · rename_i cs
    split at h
    · rename_i c text tail htext htail
      obtain ⟨port', hport, he⟩ := Option.map_eq_some_iff.mp h
      obtain ⟨rfl, rfl⟩ := Prod.mk.inj he
      refine ⟨⟨by simp, fun d hd => List.mem_takeWhile_imp (htext ▸ hd)⟩, tail, ?_, hport⟩
      have hcs := List.takeWhile_append_dropWhile (p := literalChar) (l := cs)
      rw [htext, htail] at hcs
      simp [Host.text, ← hcs]
    · cases h
  · split_ifs at h with hne
    obtain ⟨port', hport, he⟩ := Option.map_eq_some_iff.mp h
    obtain ⟨rfl, rfl⟩ := Prod.mk.inj he
    exact ⟨⟨hne, fun d hd => List.mem_takeWhile_imp hd⟩, _, List.takeWhile_append_dropWhile.symm, hport⟩

/-! ## The port and the host of a redirect -/

theorem digits_chars (h : Decimal.atoiUnsigned digits = some n) :
    digits ≠ [] ∧ ∀ c ∈ digits, Decimal.isDigit c = true := by
  unfold Decimal.atoiUnsigned at h
  split_ifs at h with hdigits
  exact ⟨hdigits.1, List.all_eq_true.mp hdigits.2⟩

theorem splitHostPort_ported {hostport : String} {host : Host} (hvalid : host.Valid)
    (hdigits : ∀ c ∈ digits, Decimal.isDigit c = true) (htext : hostport.toList = host.text ++ ':' :: digits) :
    GoNet.splitHostPort hostport = some (String.ofList host.bare, String.ofList digits) := by
  have hnot : ∀ c, Decimal.isDigit c = false → c ∉ digits := fun c hc hmem => by simp [hdigits c hmem] at hc
  have hcolon : GoNet.lastColon hostport.toList = some (host.text, digits) := by
    rw [htext, GoNet.lastColon_append host.text (hnot ':' (by decide))]
  rw [GoNet.splitHostPort, hcolon]
  cases host with
  | name text =>
    have hfree : ∀ c, nameChar c = false → c ∉ text := fun c hc hmem => by simp [hvalid.2 c hmem] at hc
    dsimp only [Host.text]
    split
    · next heq =>
      cases heq
    · next heq =>
      exact absurd (by simp [(Prod.mk.inj (Option.some.inj heq)).1] : '[' ∈ text) (hfree '[' (by decide))
    · next heq =>
      obtain ⟨rfl, rfl⟩ := Prod.mk.inj (Option.some.inj heq)
      rw [if_pos ⟨hfree ':' (by decide), by simp [hfree '[' (by decide), hnot '[' (by decide)],
        by simp [hfree ']' (by decide), hnot ']' (by decide)]⟩]
      rfl
  | literal text =>
    have hfree : ∀ c, literalChar c = false → c ∉ text := fun c hc hmem => by simp [hvalid.2 c hmem] at hc
    simp [Host.text, Host.bare, hfree '[' (by decide), hfree ']' (by decide), hnot '[' (by decide),
      hnot ']' (by decide)]

theorem splitHostPort_bare {hostport : String} {host : Host} (hvalid : host.Valid) (htext : hostport.toList = host.text) :
    GoNet.splitHostPort hostport = none := by
  cases host with
  | name text =>
    refine GoNet.splitHostPort_of_notMem fun hcolon => ?_
    rw [htext] at hcolon
    exact absurd (hvalid.2 ':' hcolon) (by decide)
  | literal text =>
    refine GoNet.splitHostPort_of_bracket ?_
    rw [htext, Host.text, List.getLast?_append_cons]
    rfl

theorem atoi_digits (h : Decimal.atoiUnsigned digits = some n) (hn : n ≤ 65535) :
    atoi (String.ofList digits) = some (n : Int) := by
  obtain ⟨hne, hdigits⟩ := digits_chars h
  obtain ⟨c, cs, rfl⟩ := List.exists_cons_of_ne_nil hne
  have hplus : Decimal.isDigit '+' = false := by decide
  have hread : Decimal.atoi (c :: cs) = some (n : Int) := by
    rw [Decimal.atoi_of_digit (hdigits c (.head _)), h]
    rfl
  rw [atoi, String.toList_ofList]
  split
  · next heq =>
    obtain ⟨rfl, -⟩ := List.cons.inj heq
    simp [hdigits _ (.head _)] at hplus
  · rw [hread, Option.filter_some, if_pos (by simp; omega)]

def portText (port : Option Nat) : List Char := port.elim [] fun n => ':' :: Nat.toDigits 10 n

theorem readPort_portText (port : Option Nat) : readPort (portText port) = some port := by
  cases port with
  | none => rfl
  | some n => simp [portText, readPort, Decimal.atoiUnsigned_toDigits]

theorem toList_withPort {scheme : String} (hscheme : scheme = "http" ∨ scheme = "https") (host : String)
    {port : Int32} (hn : 0 < n) (hport : port.toInt = n) :
    (withPort scheme host port).toList = host.toList ++ portText (shownPort scheme n) := by
  have heq : ∀ {p : Int32}, port = p ↔ (n : Int) = p.toInt := by
    intro p
    rw [← hport, Int32.toInt_inj]
  have h0 : port ≠ 0 := by
    rw [ne_eq, heq, show (0 : Int32).toInt = 0 from rfl]
    omega
  have h80 : port = 80 ↔ n = 80 := by
    rw [heq, show (80 : Int32).toInt = 80 from rfl]
    omega
  have h443 : port = 443 ↔ n = 443 := by
    rw [heq, show (443 : Int32).toInt = 443 from rfl]
    omega
  have hdigits : Decimal.itoa n = Nat.toDigits 10 n := by
    rw [Decimal.itoa, if_neg (by omega), Int.natAbs_natCast]
  rw [withPort, hport, hdigits, shownPort]
  rcases hscheme with rfl | rfl
  · by_cases hwell : n = 80 <;> simp [h0, h80, hwell, wellKnownPort, portText]
  · by_cases hwell : n = 443 <;> simp [h0, h443, hwell, wellKnownPort, portText]

theorem withPort_zero (scheme host : String) : withPort scheme host 0 = host := if_neg fun h => h.1 rfl

theorem toInt_ofInt (h : n ≤ 65535) : (Int32.ofInt n).toInt = n := by
  rw [Int32.toInt_ofInt, Int32.size]
  exact Int.bmod_eq_of_le (by omega) (by omega)

section
variable {r : Request} {filter : Filter} {withTLS : Bool} {host : Host} {port : Option Nat}

theorem schemeOf_web (h : ApiRedirect filter) :
    schemeOf filter withTLS = "http" ∨ schemeOf filter withTLS = "https" := by
  rcases h.scheme with he | he | he <;> cases withTLS <;> simp [schemeOf, he]

variable (hread : readAuthority r.host.toList = some (host, port)) (hport : ∀ n ∈ port, 1 ≤ n ∧ n ≤ 65535)
include hread hport

theorem requestPort_toInt :
    0 < port.getD (if withTLS then 443 else 80) ∧
      (requestPort r withTLS).toInt = (port.getD (if withTLS then 443 else 80) : Nat) := by
  obtain ⟨hvalid, tail, htext, htail⟩ := readAuthority_eq_some hread
  rcases readPort_eq_some htail with ⟨rfl, rfl⟩ | ⟨digits, n, rfl, hdigits, rfl⟩
  · rw [requestPort, splitHostPort_bare hvalid (by rw [htext, List.append_nil])]
    cases withTLS <;> exact ⟨by decide, rfl⟩
  · obtain ⟨hpos, hle⟩ := hport n rfl
    rw [requestPort, splitHostPort_ported hvalid (digits_chars hdigits).2 htext, Option.bind_some,
      atoi_digits hdigits hle]
    exact ⟨hpos, toInt_ofInt hle⟩

theorem toList_redirected (hfilter : ApiRedirect filter) (text : String) :
    (withPort (schemeOf filter withTLS) text
      (if filter.port = 0 ∧ filter.scheme = "" then requestPort r withTLS else filter.port)).toList =
      text.toList ++ portText (shownPort (schemeOf filter withTLS) (redirectedPort filter withTLS port)) := by
  have hscheme := @schemeOf_web filter withTLS hfilter
  by_cases hzero : filter.port = 0
  · by_cases hnone : filter.scheme = ""
    · obtain ⟨hpos, htoInt⟩ := @requestPort_toInt r withTLS host port hread hport
      rw [if_pos ⟨hzero, hnone⟩, redirectedPort, if_neg (not_not.mpr hzero), if_pos hnone,
        toList_withPort hscheme text hpos htoInt]
    · have hself : schemeOf filter withTLS = filter.scheme := if_pos hnone
      rw [if_neg fun h => hnone h.2, hzero, withPort_zero, redirectedPort, if_neg (not_not.mpr hzero), if_neg hnone,
        hself, shownPort, if_pos rfl, portText, Option.elim_none, List.append_nil]
  · have hne : filter.port.toInt ≠ 0 := fun h => hzero (Int32.toInt_inj.mp h)
    have hrange := hfilter.port
    rw [if_neg fun h => hzero h.1, redirectedPort, if_pos hzero]
    exact toList_withPort hscheme text (by omega) (by omega)

theorem authority_serveRedirect (hfilter : ApiRedirect filter) (rawQuery : String) :
    (serveRedirect r rawQuery filter withTLS).2.host.toList =
      (if filter.hostname ≠ "" then filter.hostname.toList else if port = none then host.text else host.bare) ++
        portText (shownPort (schemeOf filter withTLS) (redirectedPort filter withTLS port)) := by
  obtain ⟨hvalid, tail, htext, htail⟩ := readAuthority_eq_some hread
  have honly : (GoNet.hostOnly r.host).toList = if port = none then host.text else host.bare := by
    rcases readPort_eq_some htail with ⟨rfl, rfl⟩ | ⟨digits, n, rfl, hdigits, rfl⟩
    · rw [List.append_nil] at htext
      rw [GoNet.hostOnly, splitHostPort_bare hvalid htext, if_pos rfl, htext]
    · rw [GoNet.hostOnly, splitHostPort_ported hvalid (digits_chars hdigits).2 htext, if_neg (by simp),
        String.toList_ofList]
  rw [← honly, ← apply_ite String.toList]
  exact toList_redirected hread hport hfilter _

/-- The `Location` names the host and the port that it should unless the brackets of an IPv6 literal were
split off with its port. -/
theorem redirect_authority_iff (hfilter : ApiRedirect filter) (rawQuery : String) :
    readAuthority (serveRedirect r rawQuery filter withTLS).2.host.toList =
        some (redirectedHost filter host, shownPort (schemeOf filter withTLS) (redirectedPort filter withTLS port)) ↔
      filter.hostname ≠ "" ∨ port = none ∨ ∀ text, host ≠ .literal text := by
  rw [authority_serveRedirect hread hport hfilter, redirectedHost]
  obtain ⟨hvalid, -⟩ := readAuthority_eq_some hread
  have hreads := fun {h : Host} (hh : h.Valid) => readAuthority_text hh (readPort_portText
    (shownPort (schemeOf filter withTLS) (redirectedPort filter withTLS port)))
  by_cases hname : filter.hostname ≠ ""
  · have hne : filter.hostname.toList ≠ [] := by simpa using hname
    rw [if_pos hname, if_pos hname]
    exact iff_of_true (@hreads (.name filter.hostname.toList) ⟨hne, hfilter.hostname⟩) (Or.inl hname)
  rw [if_neg hname, if_neg hname]
  by_cases hnone : port = none
  · rw [if_pos hnone]
    exact iff_of_true (hreads hvalid) (Or.inr (Or.inl hnone))
  rw [if_neg hnone]
  cases host with
  | name text => exact iff_of_true (hreads hvalid) (Or.inr (Or.inr fun text' => Host.noConfusion))
  | literal text =>
    refine iff_of_false (fun h => ?_) fun h => (h.resolve_left hname).elim hnone fun h => h text rfl
    -- what is read as a literal starts with a bracket
    obtain ⟨-, tail, htext, -⟩ := readAuthority_eq_some h
    obtain ⟨c, text', rfl⟩ := List.exists_cons_of_ne_nil hvalid.1
    obtain ⟨rfl, -⟩ := List.cons.inj htext
    exact absurd (hvalid.2 _ List.mem_cons_self) (by decide)

end

def requestTo (host : String) : Request := ⟨"GET", host, "/a", "/a", ∅, ∅, [], "", none⟩

def redirectTo (hostname : String) (port : Int32) : Filter :=
  ⟨filterRequestRedirect, ∅, ∅, [], none, "", hostname, port, 0, "", "", "", none, none⟩

theorem redirectTo_api {hostname : String} {port : Int32} (hname : ∀ c ∈ hostname.toList, nameChar c = true)
    (hport : 0 ≤ port.toInt ∧ port.toInt ≤ 65535) : ApiRedirect (redirectTo hostname port) :=
  ⟨.inl rfl, hname, hport⟩

theorem literal_redirected :
    readAuthority (serveRedirect (requestTo "[::1]") "b=1" (redirectTo "" 8443) true).2.host.toList =
      some (.literal "::1".toList, some 8443) :=
  (@redirect_authority_iff (requestTo "[::1]") (redirectTo "" 8443) true (.literal "::1".toList) none (by decide)
    (by simp) (redirectTo_api (by simp) (by decide)) "b=1").mpr (Or.inr (Or.inl rfl))

theorem brackets_split_off :
    readAuthority "[::1]:8080".toList = some (.literal "::1".toList, some 8080) ∧
      ApiRedirect (redirectTo "" 0) ∧
      (serveRedirect (requestTo "[::1]:8080") "" (redirectTo "" 0) false).2.host = "::1:8080" ∧
      readAuthority "::1:8080".toList = none :=
  ⟨by decide, redirectTo_api (by simp) (by decide), by decide, by decide⟩

end Krouter.Proxy
