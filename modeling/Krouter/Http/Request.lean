import Krouter.Lib.GoMap
import Krouter.Lib.GoString

/-! Requests as `net/http` hands them to the data plane: headers under canonical names,
the query and the cookies already parsed. -/

namespace Krouter.Http
open Std GoString

abbrev Header := GoMap String (List String)

def isTokenChar (c : Char) : Bool :=
  (48 ≤ c.toNat && c.toNat ≤ 57) || (65 ≤ c.toNat && c.toNat ≤ 90) ||
    (97 ≤ c.toNat && c.toNat ≤ 122) || "!#$%&'*+-.^_`|~".toList.contains c

def canonicalChars : Bool → List Char → List Char
  | _, [] => []
  | upper, c :: cs => (if upper then upperChar c else lowerChar c) :: canonicalChars (c = '-') cs

/-- `textproto.CanonicalMIMEHeaderKey`: a name with other bytes stays as it is. -/
def canonicalKey (key : String) : String :=
  if key.toList.all isTokenChar then String.ofList (canonicalChars true key.toList) else key

namespace Header

def values (h : Header) (key : String) : List String := GoMap.read h (canonicalKey key) []

def get (h : Header) (key : String) : String := (values h key).headD ""

def set (h : Header) (key value : String) : Header := h.insert (canonicalKey key) [value]

def add (h : Header) (key value : String) : Header :=
  h.insert (canonicalKey key) (values h key ++ [value])

def del (h : Header) (key : String) : Header := h.erase (canonicalKey key)

@[simp] theorem values_empty (key : String) : values ∅ key = [] := by
  rw [values, GoMap.read, GoMap.get_empty]
  rfl

theorem values_set (h : Header) (key value : String) {other : String}
    (he : canonicalKey key = canonicalKey other) : values (set h key value) other = [value] := by
  rw [values, set, he, GoMap.read, GoMap.get_insert_self]
  rfl

theorem values_set_of_ne {h : Header} {key other value : String}
    (hne : canonicalKey key ≠ canonicalKey other) :
    values (set h key value) other = values h other := by
  rw [values, GoMap.read, set, GoMap.get_insert_of_ne _ _ hne]
  rfl

theorem values_del_of_ne {h : Header} {key other : String}
    (hne : canonicalKey key ≠ canonicalKey other) : values (del h key) other = values h other := by
  rw [values, GoMap.read, del, GoMap.get_erase, if_neg hne]
  rfl

end Header

structure Request where
  method : String
  host : String
  path : String
  requestURI : String
  query : GoMap String (List String)
  header : Header
  cookies : List (String × String)
  remoteAddr : String
  /-- The SNI value of the connection when it terminated TLS here. -/
  tls : Option String

def Request.cookie (r : Request) (name : String) : Option String :=
  (r.cookies.find? fun c => c.1 = name).map Prod.snd

inductive SameSite where
  | lax
  | none
  deriving DecidableEq

structure SetCookie where
  name : String
  value : String
  path : String
  maxAge : Int
  httpOnly : Bool
  secure : Bool
  sameSite : SameSite
  deriving DecidableEq

end Krouter.Http
