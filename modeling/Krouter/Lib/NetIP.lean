import Mathlib.Algebra.Group.Nat.Defs
import Krouter.Lib.Decimal
import Krouter.Lib.GoString

/-! Addresses and prefixes of `net/netip`: their texts, IPv4-mapped addresses, zones, and
which addresses a prefix contains. -/

namespace NetIP
open GoString

inductive Addr where
  | v4 (bits : BitVec 32)
  | v6 (bits : BitVec 128) (zone : String)
  deriving DecidableEq

/-! ## Parsing -/

def parseOctet (cs : List Char) : Option Nat :=
  if cs ≠ [] ∧ cs.all Decimal.isDigit ∧ (cs.length = 1 ∨ cs.head? ≠ some '0') then
    let value := cs.foldl (fun acc c => acc * 10 + (c.toNat - 48)) 0
    if value ≤ 255 then some value else none
  else none

def parseIPv4 (cs : List Char) : Option (BitVec 32) :=
  match (cs.splitOn '.').map parseOctet with
  | [some a, some b, some c, some d] => some (BitVec.ofNat 32 (((a * 256 + b) * 256 + c) * 256 + d))
  | _ => none

def hexValue (c : Char) : Option Nat :=
  if Decimal.isDigit c then some (c.toNat - 48)
  else if 97 ≤ c.toNat ∧ c.toNat ≤ 102 then some (c.toNat - 87)
  else if 65 ≤ c.toNat ∧ c.toNat ≤ 70 then some (c.toNat - 55)
  else none

def parseGroup (cs : List Char) : Option Nat :=
  if cs ≠ [] ∧ cs.length ≤ 4 then
    cs.foldlM (fun acc c => (hexValue c).map fun d => acc * 16 + d) 0
  else none

def parseGroups (ipv4 : Bool) : List (List Char) → Option (List Nat)
  | [] => some []
  | [last] =>
    if ipv4 && last.contains '.' then
      (parseIPv4 last).map fun bits => [bits.toNat / 65536, bits.toNat % 65536]
    else (parseGroup last).map fun group => [group]
  | cs :: rest => (parseGroup cs).bind fun group => (parseGroups ipv4 rest).map fun gs => group :: gs

def cutEllipsis : List Char → Option (List Char × List Char)
  | ':' :: ':' :: rest => some ([], rest)
  | c :: rest => (cutEllipsis rest).map fun p => (c :: p.1, p.2)
  | [] => none

def parseSide (ipv4 : Bool) (cs : List Char) : Option (List Nat) :=
  if cs = [] then some [] else parseGroups ipv4 (cs.splitOn ':')

def parseIPv6Groups (cs : List Char) : Option (List Nat) :=
  match cutEllipsis cs with
  | none => (parseGroups true (cs.splitOn ':')).bind fun gs => if gs.length = 8 then some gs else none
  | some (left, right) => (parseSide false left).bind fun ls => (parseSide true right).bind fun rs =>
      if ls.length + rs.length < 8 then
        some (ls ++ List.replicate (8 - ls.length - rs.length) 0 ++ rs)
      else none

def groupsToBits (gs : List Nat) : BitVec 128 :=
  BitVec.ofNat 128 (gs.foldl (fun acc g => acc * 65536 + g) 0)

def parseIPv6 (cs : List Char) : Option Addr :=
  let (text, rest) := cs.span (· ≠ '%')
  match rest with
  | [] => (parseIPv6Groups text).map fun gs => .v6 (groupsToBits gs) ""
  | [_] => none
  | _ :: zone => (parseIPv6Groups text).map fun gs => .v6 (groupsToBits gs) (String.ofList zone)

/-- `netip.ParseAddr`: the first dot, colon or percent sign says what it is. -/
def parseAddr (s : String) : Option Addr :=
  match s.toList.find? fun c => c = '.' || c = ':' || c = '%' with
  | some '.' => (parseIPv4 s.toList).map .v4
  | some ':' => parseIPv6 s.toList
  | _ => none

namespace Addr

def isMapped (bits : BitVec 128) : Bool := bits.toNat / 2 ^ 32 = 0xffff

def unmap : Addr → Addr
  | v4 bits => v4 bits
  | v6 bits zone => if isMapped bits then v4 (bits.setWidth 32) else v6 bits zone

def withoutZone : Addr → Addr
  | v4 bits => v4 bits
  | v6 bits _ => v6 bits ""

/-! ## Printing -/

def octets (bits : BitVec 32) : List Nat :=
  [bits.toNat / 2 ^ 24, bits.toNat / 2 ^ 16 % 256, bits.toNat / 2 ^ 8 % 256, bits.toNat % 256]

def groups (bits : BitVec 128) : List Nat :=
  (List.range 8).map fun i => bits.toNat / 2 ^ (112 - 16 * i) % 65536

def zeroRun (gs : List Nat) (i : Nat) : Nat := ((gs.drop i).takeWhile (· = 0)).length

def ellipsis (gs : List Nat) : Option (Nat × Nat) :=
  (List.range gs.length).foldl (fun best i =>
    let run := zeroRun gs i
    if 2 ≤ run ∧ (best.map Prod.snd).getD 0 < run then some (i, run) else best) none

def groupTexts (gs : List Nat) : String :=
  ":".intercalate (gs.map fun g => String.ofList (Nat.toDigits 16 g))

def ipv4Text (bits : BitVec 32) : String :=
  ".".intercalate ((octets bits).map fun n => String.ofList (Nat.toDigits 10 n))

def ipv6Text (gs : List Nat) : String :=
  match ellipsis gs with
  | none => groupTexts gs
  | some (i, run) => groupTexts (gs.take i) ++ "::" ++ groupTexts (gs.drop (i + run))

def toText : Addr → String
  | v4 bits => ipv4Text bits
  | v6 bits zone =>
    let text := if isMapped bits then "::ffff:" ++ ipv4Text (bits.setWidth 32) else ipv6Text (groups bits)
    if zone = "" then text else text ++ "%" ++ zone

end Addr

/-! ## Prefixes -/

structure Prefix where
  addr : Addr
  bits : Nat
  deriving DecidableEq

/-- `Prefix.Contains`: addresses of the other family and addresses with a zone are outside. -/
def Prefix.contains (p : Prefix) (ip : Addr) : Bool :=
  match p.addr, ip with
  | .v4 a, .v4 b => p.bits ≤ 32 && (a ^^^ b) >>> (32 - p.bits) = 0
  | .v6 a _, .v6 b zone => zone = "" && p.bits ≤ 128 && (a ^^^ b) >>> (128 - p.bits) = 0
  | _, _ => false

example : (parseAddr "::ffff:10.1.2.3").map Addr.unmap = parseAddr "10.1.2.3" := by decide

example : (parseAddr "2001:db8::1%eth0").map (fun a => a.withoutZone.toText) = some "2001:db8::1" := by
  decide

end NetIP
