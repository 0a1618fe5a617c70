import Krouter.Lib.GoNet
import Krouter.Lib.NetIPText
import Krouter.Lib.Utf8

/-! The preamble of the PROXY protocol, which comes before anything else on a connection: a line of text or
a binary header. A reader is what is left to read. -/

namespace Krouter.ProxyProto
open GoString NetIP Utf8

def maxLineLength : Nat := 107

def signature : List UInt8 := [0x0D, 0x0A, 0x0D, 0x0A, 0x00, 0x0D, 0x0A, 0x51, 0x55, 0x49, 0x54, 0x0A]

def cmdLocal : UInt8 := 0x20

def cmdProxy : UInt8 := 0x21

def famUnspec : UInt8 := 0x00

def famTCP4 : UInt8 := 0x11

def famTCP6 : UInt8 := 0x21

structure AddrPort where
  addr : Addr
  port : UInt16
  deriving DecidableEq

inductive ReadError where
  | noPreamble
  | malformed (message : String)
  deriving DecidableEq

/-! ## The text form -/

def trimByte (b : UInt8) (bytes : List UInt8) : List UInt8 :=
  if bytes.getLast? = some b then bytes.dropLast else bytes

def checkTransport (transport source : String) (addr : Addr) : Except ReadError Unit :=
  if transport = "TCP4" then
    match addr with
    | .v4 _ => .ok ()
    | .v6 _ _ => .error (.malformed ("address " ++ quote source ++ " is not IPv4"))
  else if transport = "TCP6" then
    match addr with
    | .v4 _ => .error (.malformed ("address " ++ quote source ++ " is not IPv6"))
    | .v6 bits _ =>
      if Addr.isMapped bits then .error (.malformed ("address " ++ quote source ++ " is not IPv6")) else .ok ()
  else .error (.malformed ("unsupported transport " ++ quote transport))

def parsePort (text : String) : Except ReadError UInt16 :=
  match Decimal.atoiUnsigned text.toList with
  | none => .error (.malformed ("invalid source port " ++ quote text))
  | some n => if n < 65536 then .ok (UInt16.ofNat n) else .error (.malformed ("invalid source port " ++ quote text))

def parseSource (transport source port : String) : Except ReadError (Option AddrPort) :=
  match parseAddr source with
  | none => .error (.malformed ("invalid source address " ++ quote source))
  | some addr => do
    checkTransport transport source addr
    let port ← parsePort port
    return some ⟨addr, port⟩

def parseLine (line : List UInt8) : Except ReadError (Option AddrPort) :=
  if maxLineLength < line.length then .error (.malformed "preamble longer than 107 bytes")
  else
    let words := fields (decode (trimByte 13 (trimByte 10 line)))
    -- this transport carries nothing usable, whatever follows it
    if words[1]? = some "UNKNOWN" then .ok none
    else
      match words with
      | [_, transport, source, _, port, _] => parseSource transport source port
      | _ => .error (.malformed ("malformed preamble " ++ quote (decode line)))

def readV1 (r : List UInt8) : Except ReadError (Option AddrPort) × List UInt8 :=
  match r.span (· ≠ 10) with
  | (_, []) => (.error (.malformed "truncated preamble: EOF"), [])
  | (line, newline :: rest) => (parseLine (line ++ [newline]), rest)

/-! ## The binary form -/

def hexByte (b : UInt8) : String := "0x" ++ String.ofList (Nat.toDigits 16 b.toNat)

def readSource (family : UInt8) (size : Nat) (body : List UInt8) : Except ReadError (Option AddrPort) :=
  if body.length < size * 2 + 4 then
    .error (.malformed ("address block shorter than family " ++ hexByte family))
  else
    match addrFromSlice (body.take size) with
    | none => .error (.malformed "invalid source address")
    | some source => .ok (some ⟨source, UInt16.ofNat (BigEndian.ofBytes ((body.drop (size * 2)).take 2))⟩)

def readBlock (command family : UInt8) (body : List UInt8) : Except ReadError (Option AddrPort) :=
  if command = cmdLocal then .ok none
  else if command ≠ cmdProxy then
    .error (.malformed ("unsupported version or command " ++ hexByte command))
  else if family = famTCP4 then readSource family 4 body
  else if family = famTCP6 then readSource family 16 body
  else if family = famUnspec then .ok none
  else .error (.malformed ("unsupported address family " ++ hexByte family))

/-- The declared block is read as a whole, with the entries that stand after the addresses. -/
def readV2 (r : List UInt8) : Except ReadError (Option AddrPort) × List UInt8 :=
  match r.drop signature.length with
  | command :: family :: high :: low :: rest =>
    let length := BigEndian.ofBytes [high, low]
    if rest.length < length then
      (.error (.malformed ("truncated address block: " ++ if rest = [] then "EOF" else "unexpected EOF")), [])
    else (readBlock command family (rest.take length), rest.drop length)
  | _ => (.error (.malformed "truncated preamble: unexpected EOF"), [])

/-- The client that the preamble names, if it names one, and what is left to read. -/
def read (r : List UInt8) : Except ReadError (Option AddrPort) × List UInt8 :=
  if r.length < signature.length then (.error .noPreamble, r)
  else if r.take signature.length = signature then readV2 r
  else if r.take 6 ≠ asciiBytes "PROXY " then (.error .noPreamble, r)
  else readV1 r

/-! ## What is sent -/

/-- Two addresses of one family; those of the second are not IPv4 addresses in disguise. -/
inductive Endpoints where
  | tcp4 (source destination : BitVec 32)
  | tcp6 (source destination : {bits : BitVec 128 // Addr.isMapped bits = false})

namespace Endpoints

def source : Endpoints → Addr
  | tcp4 source _ => .v4 source
  | tcp6 source _ => .v6 source ""

def destination : Endpoints → Addr
  | tcp4 _ destination => .v4 destination
  | tcp6 _ destination => .v6 destination ""

def transport : Endpoints → String
  | tcp4 _ _ => "TCP4"
  | tcp6 _ _ => "TCP6"

def family : Endpoints → UInt8
  | tcp4 _ _ => famTCP4
  | tcp6 _ _ => famTCP6

end Endpoints

structure Connection where
  endpoints : Endpoints
  sourcePort : UInt16
  destinationPort : UInt16

namespace Connection
variable (c : Connection)

def client : AddrPort := ⟨c.endpoints.source, c.sourcePort⟩

def portText (port : UInt16) : String := String.ofList (Nat.toDigits 10 port.toNat)

def words : String :=
  c.endpoints.transport ++ " " ++ (c.endpoints.source.toText ++ " " ++
    (c.endpoints.destination.toText ++ " " ++ (portText c.sourcePort ++ " " ++ portText c.destinationPort)))

def line : String := "PROXY" ++ " " ++ c.words

def encodeV1 : List UInt8 := asciiBytes c.line ++ [13, 10]

def addressBlock : List UInt8 :=
  c.endpoints.source.asSlice ++ (c.endpoints.destination.asSlice ++
    (BigEndian.toBytes 2 c.sourcePort.toNat ++ BigEndian.toBytes 2 c.destinationPort.toNat))

end Connection

def encodeV2 (command family : UInt8) (body : List UInt8) : List UInt8 :=
  signature ++ command :: family :: BigEndian.toBytes 2 body.length ++ body

/-- A line of text that names no client; what follows is not looked at. -/
structure UnknownLine where
  rest : List UInt8
  one_line : (10 : UInt8) ∉ rest
  apart : rest = [] ∨ rest.head? = some 32
  short : rest.length ≤ 92

def UnknownLine.encode (u : UnknownLine) : List UInt8 := asciiBytes "PROXY UNKNOWN" ++ u.rest ++ [13, 10]

/-! ## Words -/

/-- Characters that bytes of the same number stand for, none of which ends a line. -/
def Plain (s : String) : Prop := ∀ c ∈ s.toList, 32 ≤ c.toNat ∧ c.toNat ≤ 126

variable {s a b : String}

theorem plain_of_all (h : s.toList.all (fun c => 32 ≤ c.toNat && c.toNat ≤ 126) = true) : Plain s := by
  simpa [Plain] using List.all_eq_true.mp h

structure IsWord (s : String) : Prop where
  nonempty : s ≠ ""
  graphic : ∀ c ∈ s.toList, 33 ≤ c.toNat ∧ c.toNat ≤ 126

theorem Plain.append (ha : Plain a) (hb : Plain b) : Plain (a ++ b) := by
  intro c hc
  rw [String.toList_append, List.mem_append] at hc
  exact hc.elim (ha c) (hb c)

theorem Plain.isAscii (h : Plain s) : IsAscii s.toList := fun c hc => by
  have hrange := h c hc
  omega

theorem Plain.one_line (h : Plain s) : (10 : UInt8) ∉ asciiBytes s := by
  intro hnewline
  obtain ⟨c, hc, hten⟩ := List.mem_map.mp hnewline
  have hbyte := congrArg UInt8.toNat hten
  rw [toNat_ofNat_of_ascii (h.isAscii c hc)] at hbyte
  have hrange := h c hc
  have hten : (10 : UInt8).toNat = 10 := rfl
  omega

theorem Plain.decode (h : Plain s) : decode (asciiBytes s) = s := by
  have happend := decode_asciiBytes_append h.isAscii []
  rwa [List.append_nil, show Utf8.decode [] = "" from rfl, String.append_empty] at happend

theorem plain_space : Plain " " := plain_of_all rfl

namespace IsWord
variable {s : String}

theorem plain (h : IsWord s) : Plain s := fun c hc => by
  have hrange := h.graphic c hc
  omega

theorem fields (h : IsWord s) : fields s = [s] := by
  refine fields_word h.nonempty fun c hc => ?_
  have hrange := h.graphic c hc
  have hspace : c ≠ ' ' := by
    rintro rfl
    exact absurd hrange.1 (by decide)
  simp only [isSpace, hspace, decide_false, Bool.false_or, Bool.or_eq_false_iff, Bool.and_eq_false_iff,
    decide_eq_false_iff_not]
  omega

end IsWord

theorem isWord_of_all (hne : s ≠ "")
    (h : s.toList.all (fun c => 33 ≤ c.toNat && c.toNat ≤ 126) = true) : IsWord s :=
  ⟨hne, by simpa using List.all_eq_true.mp h⟩

theorem isWord_digits {b n : Nat} (hchars : ∀ c ∈ Nat.toDigits b n, 33 ≤ c.toNat ∧ c.toNat ≤ 126) :
    IsWord (String.ofList (Nat.toDigits b n)) := by
  refine ⟨fun hempty => ?_, by rwa [String.toList_ofList]⟩
  have hnil := congrArg String.toList hempty
  rw [String.toList_ofList] at hnil
  exact Nat.toDigits_ne_nil hnil

theorem graphic_of_isDigit {c : Char} (h : Decimal.isDigit c = true) : 33 ≤ c.toNat ∧ c.toNat ≤ 126 := by
  simp only [Decimal.isDigit, Bool.and_eq_true, decide_eq_true_eq] at h
  omega

theorem graphic_of_isGroupChar {c : Char} (h : isGroupChar c = true) : 33 ≤ c.toNat ∧ c.toNat ≤ 126 := by
  rw [isGroupChar, Bool.or_eq_true, decide_eq_true_eq] at h
  rcases h with rfl | h
  · decide
  · rw [hexValue] at h
    split_ifs at h with hdigit hlower hupper
    · exact graphic_of_isDigit hdigit
    · omega
    · omega
    · cases h

theorem isWord_portText (port : UInt16) : IsWord (Connection.portText port) :=
  isWord_digits fun c hc => graphic_of_isDigit (Decimal.toDigits_all _ c hc)

theorem isWord_ipv4Text (bits : BitVec 32) : IsWord (Addr.ipv4Text bits) := by
  refine ⟨fun hempty => ?_, fun c hc => ?_⟩
  · have hdot := dot_mem_ipv4Text bits
    rw [hempty] at hdot
    cases hdot
  · rcases ipv4Text_chars bits c hc with rfl | hdigit
    · decide
    · exact graphic_of_isDigit hdigit

theorem isWord_ipv6Text (bits : BitVec 128) : IsWord (Addr.ipv6Text (Addr.groups bits)) := by
  refine ⟨fun hempty => ?_, fun c hc => graphic_of_isGroupChar (ipv6Text_chars _ c hc)⟩
  have hcolon := colon_mem_ipv6Text (groups_length bits)
  rw [hempty] at hcolon
  cases hcolon

theorem fields_six {c d e f : String} (ha : IsWord a) (hb : IsWord b) (hc : IsWord c) (hd : IsWord d)
    (he : IsWord e) (hf : IsWord f) :
    GoString.fields (a ++ " " ++ (b ++ " " ++ (c ++ " " ++ (d ++ " " ++ (e ++ " " ++ f))))) = [a, b, c, d, e, f] := by
  rw [fields_append, fields_append, fields_append, fields_append, fields_append, ha.fields, hb.fields, hc.fields,
    hd.fields, he.fields, hf.fields]
  rfl

theorem isWord_proxy : IsWord "PROXY" := isWord_of_all (by decide) rfl

/-- The text of a source or destination: a word, short, and read back. -/
structure AddressText (addr : Addr) : Prop where
  word : IsWord addr.toText
  short : addr.toText.toList.length ≤ 40
  parse : parseAddr addr.toText = some addr

theorem addressText_v4 (bits : BitVec 32) : AddressText (.v4 bits) :=
  ⟨isWord_ipv4Text bits, Nat.le_trans (length_ipv4Text_le bits) (by decide), parseAddr_v4 bits⟩

theorem addressText_v6 {bits : BitVec 128} (h : Addr.isMapped bits = false) : AddressText (.v6 bits "") := by
  have htext : (Addr.v6 bits "").toText = Addr.ipv6Text (Addr.groups bits) := by
    rw [Addr.toText, h]
    rfl
  refine ⟨?_, ?_, parseAddr_v6 h⟩
  · rw [htext]
    exact isWord_ipv6Text bits
  · rw [htext]
    exact length_ipv6Text_le (groups_length bits) (groups_lt bits)

namespace Endpoints

theorem source_text (e : Endpoints) : AddressText e.source := by
  cases e with
  | tcp4 source destination => exact addressText_v4 source
  | tcp6 source destination => exact addressText_v6 source.2

theorem destination_text (e : Endpoints) : AddressText e.destination := by
  cases e with
  | tcp4 source destination => exact addressText_v4 destination
  | tcp6 source destination => exact addressText_v6 destination.2

theorem transport_eq (e : Endpoints) : e.transport = "TCP4" ∨ e.transport = "TCP6" := by
  cases e with
  | tcp4 source destination => exact .inl rfl
  | tcp6 source destination => exact .inr rfl

theorem transport_word (e : Endpoints) : IsWord e.transport := by
  rcases e.transport_eq with h | h
  · rw [h]
    exact isWord_of_all (by decide) rfl
  · rw [h]
    exact isWord_of_all (by decide) rfl

theorem length_transport (e : Endpoints) : e.transport.toList.length = 4 := by
  rcases e.transport_eq with h | h
  · rw [h]
    decide
  · rw [h]
    decide

theorem transport_ne_unknown (e : Endpoints) : e.transport ≠ "UNKNOWN" := by
  rcases e.transport_eq with h | h
  · rw [h]
    decide
  · rw [h]
    decide

theorem checkTransport_source (e : Endpoints) (text : String) : checkTransport e.transport text e.source = .ok () := by
  cases e with
  | tcp4 source destination => rfl
  | tcp6 source destination =>
    rw [transport, Endpoints.source, checkTransport, if_neg (by decide), if_pos rfl, source.2,
      if_neg Bool.false_ne_true]

end Endpoints

/-! ## Reading the text form -/

theorem readV1_line {line : List UInt8} (h : (10 : UInt8) ∉ line) (rest : List UInt8) :
    readV1 (line ++ 10 :: rest) = (parseLine (line ++ [10]), rest) := by
  have hline : ∀ b ∈ line, decide (b ≠ 10) = true := fun b hb => decide_eq_true fun he => h (he ▸ hb)
  have hspan : (line ++ 10 :: rest).span (· ≠ 10) = (line, 10 :: rest) := by
    rw [List.span_eq_takeWhile_dropWhile, List.takeWhile_append_of_pos hline, List.dropWhile_append_of_pos hline]
    simp
  rw [readV1, hspan]

theorem trimByte_append (b : UInt8) (bytes : List UInt8) : trimByte b (bytes ++ [b]) = bytes := by
  rw [trimByte, List.getLast?_concat, if_pos rfl, List.dropLast_concat]

theorem parseLine_text {text : List UInt8} (hlength : text.length ≤ 105) :
    parseLine (text ++ [13] ++ [10]) =
      let words := fields (decode text)
      if words[1]? = some "UNKNOWN" then .ok none
      else
        match words with
        | [_, transport, source, _, port, _] => parseSource transport source port
        | _ => .error (.malformed ("malformed preamble " ++ quote (decode (text ++ [13] ++ [10])))) := by
  have hshort : ¬ maxLineLength < (text ++ [13] ++ [10]).length := by
    rw [List.length_append, List.length_append, List.length_singleton, List.length_singleton, maxLineLength]
    omega
  rw [parseLine, if_neg hshort, trimByte_append, trimByte_append]

theorem take_asciiBytes_append (rest : List UInt8) :
    (asciiBytes (a ++ b) ++ rest).take a.toList.length = asciiBytes a := by
  rw [asciiBytes, String.toList_append, List.map_append, List.append_assoc]
  exact List.take_left' (List.length_map ..)

theorem read_text (text : String) (h : 6 ≤ text.toList.length) (rest : List UInt8) :
    read (asciiBytes ("PROXY" ++ " " ++ text) ++ rest) = readV1 (asciiBytes ("PROXY" ++ " " ++ text) ++ rest) := by
  have hproxy : "PROXY" ++ " " = "PROXY " := by decide
  have hsix : "PROXY ".toList.length = 6 := rfl
  rw [hproxy]
  have hlength : ¬ (asciiBytes ("PROXY " ++ text) ++ rest).length < signature.length := by
    rw [List.length_append, length_asciiBytes, String.toList_append, List.length_append]
    have htwelve : signature.length = 12 := rfl
    omega
  have hfirst : (asciiBytes ("PROXY " ++ text) ++ rest).head? = some 80 := by
    rw [asciiBytes, String.toList_append]
    rfl
  have hsignature : (asciiBytes ("PROXY " ++ text) ++ rest).take signature.length ≠ signature := by
    intro heq
    have hhead := congrArg List.head? heq
    rw [List.head?_take, hfirst] at hhead
    revert hhead
    decide
  have htake := take_asciiBytes_append (a := "PROXY ") (b := text) rest
  rw [hsix] at htake
  rw [read, if_neg hlength, if_neg hsignature, if_neg (not_not_intro htake)]

namespace Connection
variable (c : Connection)

theorem plain_words : Plain c.words := by
  have hports : Plain (portText c.sourcePort ++ " " ++ portText c.destinationPort) :=
    ((isWord_portText c.sourcePort).plain.append plain_space).append (isWord_portText c.destinationPort).plain
  have hdestination := (c.endpoints.destination_text.word.plain.append plain_space).append hports
  have hsource := (c.endpoints.source_text.word.plain.append plain_space).append hdestination
  exact (c.endpoints.transport_word.plain.append plain_space).append hsource

theorem plain_line : Plain c.line := by
  have hproxy : Plain ("PROXY" ++ " ") := plain_of_all rfl
  exact hproxy.append c.plain_words

theorem length_portText_le (port : UInt16) : (portText port).toList.length ≤ 5 := by
  rw [portText, String.toList_ofList]
  exact (Nat.length_toDigits_le_iff (by decide) (by decide)).mpr (Nat.lt_of_lt_of_le port.toNat_lt (by decide))

theorem length_words : 6 ≤ c.words.toList.length ∧ c.words.toList.length ≤ 99 := by
  have hsource := c.endpoints.source_text.short
  have hdestination := c.endpoints.destination_text.short
  have hsourcePort := length_portText_le c.sourcePort
  have hdestinationPort := length_portText_le c.destinationPort
  have hone : " ".toList.length = 1 := rfl
  simp only [words, String.toList_append, List.length_append, c.endpoints.length_transport, hone]
  omega

theorem fields_line : fields c.line = ["PROXY", c.endpoints.transport, c.endpoints.source.toText,
    c.endpoints.destination.toText, portText c.sourcePort, portText c.destinationPort] :=
  fields_six isWord_proxy c.endpoints.transport_word c.endpoints.source_text.word c.endpoints.destination_text.word
    (isWord_portText c.sourcePort) (isWord_portText c.destinationPort)

theorem parsePort_portText (port : UInt16) : parsePort (portText port) = .ok port := by
  rw [parsePort, portText, String.toList_ofList, Decimal.atoiUnsigned_toDigits]
  dsimp only
  rw [if_pos (show port.toNat < 65536 from port.toNat_lt), UInt16.ofNat_toNat]

theorem read_encodeV1 (payload : List UInt8) : read (c.encodeV1 ++ payload) = (.ok (some c.client), payload) := by
  obtain ⟨hmin, hmax⟩ := c.length_words
  have hstream : c.encodeV1 ++ payload = asciiBytes c.line ++ [13] ++ 10 :: payload := by
    rw [encodeV1]
    simp
  have hone : (10 : UInt8) ∉ asciiBytes c.line ++ [13] := by
    rw [List.mem_append, not_or]
    exact ⟨c.plain_line.one_line, by decide⟩
  have hlength : (asciiBytes c.line).length ≤ 105 := by
    rw [length_asciiBytes, line, String.toList_append, List.length_append]
    have hsix : ("PROXY" ++ " ").toList.length = 6 := by decide
    omega
  have hdecode : decode (asciiBytes c.line) = c.line := c.plain_line.decode
  have hread : read (asciiBytes c.line ++ ([13] ++ 10 :: payload)) =
      readV1 (asciiBytes c.line ++ ([13] ++ 10 :: payload)) := read_text c.words hmin _
  rw [hstream, List.append_assoc, hread, ← List.append_assoc, readV1_line hone, parseLine_text hlength, hdecode,
    c.fields_line]
  dsimp only
  rw [if_neg (by simpa using c.endpoints.transport_ne_unknown), parseSource, c.endpoints.source_text.parse]
  dsimp only
  rw [c.endpoints.checkTransport_source, parsePort_portText]
  rfl

end Connection

namespace UnknownLine
variable (u : UnknownLine)

theorem fields_decode : (fields (decode (asciiBytes ("PROXY" ++ " " ++ "UNKNOWN") ++ u.rest)))[1]? = some "UNKNOWN" := by
  have hunknown : IsWord "UNKNOWN" := isWord_of_all (by decide) rfl
  have hplain : Plain ("PROXY" ++ " " ++ "UNKNOWN") := plain_of_all rfl
  rw [decode_asciiBytes_append hplain.isAscii]
  rcases u.apart with hrest | hrest
  · rw [hrest, show decode [] = "" from rfl, String.append_empty, fields_append, isWord_proxy.fields, hunknown.fields]
    rfl
  · obtain ⟨rest, hcons⟩ := List.head?_eq_some_iff.mp hrest
    have hspace : decode u.rest = " " ++ decode rest := by
      rw [hcons]
      exact decode_asciiBytes_append plain_space.isAscii rest
    have hwords : "PROXY" ++ " " ++ "UNKNOWN" ++ (" " ++ decode rest) =
        "PROXY" ++ " " ++ ("UNKNOWN" ++ " " ++ decode rest) := by
      rw [← String.toList_inj]
      simp
    rw [hspace, hwords, fields_append, fields_append, isWord_proxy.fields, hunknown.fields]
    rfl

theorem read_encode (payload : List UInt8) : read (u.encode ++ payload) = (.ok none, payload) := by
  have hstream : u.encode ++ payload =
      asciiBytes ("PROXY" ++ " " ++ "UNKNOWN") ++ (u.rest ++ [13] ++ 10 :: payload) := by
    rw [encode, show "PROXY UNKNOWN" = "PROXY" ++ " " ++ "UNKNOWN" by decide]
    simp
  have hplain : Plain ("PROXY" ++ " " ++ "UNKNOWN") := plain_of_all rfl
  have hone : (10 : UInt8) ∉ asciiBytes ("PROXY" ++ " " ++ "UNKNOWN") ++ u.rest ++ [13] := by
    rw [List.mem_append, List.mem_append, not_or, not_or]
    exact ⟨⟨hplain.one_line, u.one_line⟩, by decide⟩
  have hlength : (asciiBytes ("PROXY" ++ " " ++ "UNKNOWN") ++ u.rest).length ≤ 105 := by
    rw [List.length_append, length_asciiBytes]
    have hlong : ("PROXY" ++ " " ++ "UNKNOWN").toList.length = 13 := by decide
    have hshort := u.short
    omega
  rw [hstream, read_text "UNKNOWN" (by decide), ← List.append_assoc, ← List.append_assoc, readV1_line hone,
    parseLine_text hlength]
  rw [if_pos u.fields_decode]

end UnknownLine

/-! ## Reading the binary form -/

theorem read_encodeV2 (command family : UInt8) {body : List UInt8} (h : body.length < 65536) (payload : List UInt8) :
    read (encodeV2 command family body ++ payload) = (readBlock command family body, payload) := by
  have hlength : BigEndian.ofBytes (BigEndian.toBytes 2 body.length) = body.length :=
    BigEndian.ofBytes_toBytes_of_lt h
  obtain ⟨high, low, hbytes⟩ : ∃ high low, BigEndian.toBytes 2 body.length = [high, low] :=
    ⟨_, _, rfl⟩
  rw [hbytes] at hlength
  have hstream : encodeV2 command family body ++ payload =
      signature ++ command :: family :: high :: low :: (body ++ payload) := by
    rw [encodeV2, hbytes]
    simp
  rw [hstream, read, if_neg (by rw [List.length_append]; omega), List.take_left, if_pos rfl, readV2, List.drop_left]
  dsimp only
  rw [hlength, if_neg (by rw [List.length_append]; omega), List.take_left, List.drop_left]

theorem readBlock_local (family : UInt8) (body : List UInt8) : readBlock cmdLocal family body = .ok none := rfl

theorem readBlock_unspec (body : List UInt8) : readBlock cmdProxy famUnspec body = .ok none := rfl

theorem readBlock_tcp4 (body : List UInt8) : readBlock cmdProxy famTCP4 body = readSource famTCP4 4 body := rfl

theorem readBlock_tcp6 (body : List UInt8) : readBlock cmdProxy famTCP6 body = readSource famTCP6 16 body := rfl

theorem readSource_block {family : UInt8} {size : Nat} {source destination ports rest : List UInt8} {addr : Addr}
    (hsource : source.length = size) (hdestination : destination.length = size) (hports : ports.length = 2)
    (haddr : addrFromSlice source = some addr) (hrest : 2 ≤ rest.length) :
    readSource family size (source ++ (destination ++ (ports ++ rest))) =
      .ok (some ⟨addr, UInt16.ofNat (BigEndian.ofBytes ports)⟩) := by
  have hlong : ¬ (source ++ (destination ++ (ports ++ rest))).length < size * 2 + 4 := by
    simp only [List.length_append, hsource, hdestination, hports]
    omega
  have hdrop : (source ++ (destination ++ (ports ++ rest))).drop (size * 2) = ports ++ rest := by
    rw [← List.append_assoc]
    exact List.drop_left' (by rw [List.length_append]; omega)
  rw [readSource, if_neg hlong, List.take_left' hsource, haddr, hdrop, List.take_left' hports]

namespace Connection

theorem readBlock_addressBlock (c : Connection) (tlvs : List UInt8) :
    readBlock cmdProxy c.endpoints.family (c.addressBlock ++ tlvs) = .ok (some c.client) := by
  have hports := BigEndian.length_toBytes 2 c.sourcePort.toNat
  have hrest : 2 ≤ (BigEndian.toBytes 2 c.destinationPort.toNat ++ tlvs).length := by
    rw [List.length_append, BigEndian.length_toBytes]
    omega
  have hport : UInt16.ofNat (BigEndian.ofBytes (BigEndian.toBytes 2 c.sourcePort.toNat)) = c.sourcePort := by
    rw [BigEndian.ofBytes_toBytes_of_lt (show c.sourcePort.toNat < 256 ^ 2 from c.sourcePort.toNat_lt),
      UInt16.ofNat_toNat]
  rw [addressBlock, List.append_assoc, List.append_assoc, List.append_assoc, client]
  cases c.endpoints with
  | tcp4 source destination =>
    have hslice : ∀ bits : BitVec 32, (Addr.v4 bits).asSlice.length = 4 := fun bits => BigEndian.length_toBytes 4 _
    rw [Endpoints.family, readBlock_tcp4, Endpoints.source, Endpoints.destination,
      readSource_block (hslice source) (hslice destination) hports (addrFromSlice_v4 source) hrest, hport]
  | tcp6 source destination =>
    have hslice : ∀ bits : BitVec 128, (Addr.v6 bits "").asSlice.length = 16 :=
      fun bits => BigEndian.length_toBytes 16 _
    rw [Endpoints.family, readBlock_tcp6, Endpoints.source, Endpoints.destination,
      readSource_block (hslice source) (hslice destination) hports (addrFromSlice_v6 source "") hrest, hport]

end Connection

end Krouter.ProxyProto
