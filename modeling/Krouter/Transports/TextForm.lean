import Krouter.Lib.Result
import Krouter.Transports.PreambledConn

/-! The text form of a preamble against the grammar: one line that ends in CR LF, with words between single
spaces. The reader takes what `strings.Fields` finds, and looks at neither the destination nor its port. -/

namespace Krouter.ProxyProto
open GoString NetIP Utf8

/-! ## The grammar -/

/-- An address of the family that the transport names, without a zone. An IPv4 address in disguise
is none of IPv6. -/
def AddressFor (transport text : String) : Prop :=
  transport = "TCP4" ∧ (∃ bits, parseAddr text = some (.v4 bits)) ∨
    transport = "TCP6" ∧ ∃ bits, parseAddr text = some (.v6 bits "") ∧ Addr.isMapped bits = false

def PortText (text : String) : Prop := ∃ n, Decimal.atoiUnsigned text.toList = some n ∧ n < 65536

/-- What follows the first word on a line that names a client. -/
structure ClientWords where
  transport : String
  source : String
  destination : String
  sourcePort : String
  destinationPort : String

namespace ClientWords

def list (w : ClientWords) : List String := [w.transport, w.source, w.destination, w.sourcePort, w.destinationPort]

def text (w : ClientWords) : String :=
  "PROXY" ++ " " ++ (w.transport ++ " " ++ (w.source ++ " " ++ (w.destination ++ " " ++
    (w.sourcePort ++ " " ++ w.destinationPort))))

structure Valid (w : ClientWords) : Prop where
  source : AddressFor w.transport w.source
  destination : AddressFor w.transport w.destination
  sourcePort : PortText w.sourcePort
  destinationPort : PortText w.destinationPort

end ClientWords

/-- A line without its end. -/
inductive Line : List UInt8 → Prop
  | unknown (rest : List UInt8) : Line (asciiBytes "PROXY UNKNOWN" ++ rest)
  | client (w : ClientWords) : w.Valid → Line (asciiBytes w.text)

def Grammatical (stream : List UInt8) : Prop :=
  ∃ line rest, stream = line ++ 13 :: 10 :: rest ∧ (10 : UInt8) ∉ line ∧ line.length + 2 ≤ maxLineLength ∧ Line line

/-! ## What the reader looks at -/

def firstLine (stream : List UInt8) : List UInt8 := stream.takeWhile (· ≠ 10)

def lineWords (stream : List UInt8) : List String := fields (decode (trimByte 13 (firstLine stream)))

/-- There is a line feed, soon enough, and as much of the stream as the version is told from. -/
structure InTime (stream : List UInt8) : Prop where
  ended : (10 : UInt8) ∈ stream
  short : (firstLine stream).length < maxLineLength
  peeked : signature.length ≤ stream.length

structure Checked (w : ClientWords) : Prop where
  source : ∃ addr, parseAddr w.source = some addr ∧ checkTransport w.transport w.source addr = .ok ()
  sourcePort : PortText w.sourcePort

/-- The lines on which the reader and the grammar differ. -/
inductive Misread (stream : List UInt8) : Prop
  /-- `UNKNOWN` is only the beginning of a word. -/
  | glued (rest : List UInt8) : InTime stream → firstLine stream = asciiBytes "PROXY UNKNOWN" ++ rest ++ [13] →
      (lineWords stream)[1]? ≠ some "UNKNOWN" → Misread stream
  /-- `UNKNOWN` is the second word, but not after one space, or the line does not end as it has to. -/
  | unknown : InTime stream → (lineWords stream)[1]? = some "UNKNOWN" →
      (∀ rest, firstLine stream ≠ asciiBytes "PROXY UNKNOWN" ++ rest ++ [13]) → Misread stream
  /-- The six words are there, but not between single spaces and the end of the line, or the destination, its
port or the zone of the source is wrong. -/
  | client (first : String) (w : ClientWords) : InTime stream → lineWords stream = first :: w.list → Checked w →
      ¬ (firstLine stream = asciiBytes w.text ++ [13] ∧ w.Valid) → Misread stream

/-! ## Reading -/

theorem exists_readV1 {stream : List UInt8} (h : (10 : UInt8) ∈ stream) :
    ∃ rest, stream = firstLine stream ++ 10 :: rest ∧ readV1 stream = (parseLine (firstLine stream ++ [10]), rest) := by
  obtain ⟨before, rest, hsplit, hbefore⟩ := List.eq_append_cons_of_mem h
  have hline : firstLine stream = before := by
    have hkeep : ∀ b ∈ before, decide (b ≠ 10) = true := fun b hb => decide_eq_true fun he => hbefore (he ▸ hb)
    rw [firstLine, hsplit, List.takeWhile_append_of_pos hkeep]
    simp
  rw [hline]
  refine ⟨rest, hsplit, ?_⟩
  rw [hsplit]
  exact readV1_line hbefore rest

theorem readV1_of_notMem {stream : List UInt8} (h : (10 : UInt8) ∉ stream) :
    readV1 stream = (.error (.malformed "truncated preamble: EOF"), []) := by
  have hkeep : ∀ b ∈ stream, decide (b ≠ 10) = true := fun b hb => decide_eq_true fun he => h (he ▸ hb)
  rw [readV1, List.span_eq_takeWhile_dropWhile, List.dropWhile_eq_nil_iff.mpr hkeep]

theorem parsePort_ok_iff {text : String} : (∃ port, parsePort text = .ok port) ↔ PortText text := by
  rw [parsePort, PortText]
  cases Decimal.atoiUnsigned text.toList with
  | none => simp
  | some n =>
    dsimp only
    split_ifs with hn
    · simp [hn]
    · simp [hn]

theorem parseSource_ok_iff {w : ClientWords} :
    (∃ source, parseSource w.transport w.source w.sourcePort = .ok source) ↔ Checked w := by
  rw [parseSource]
  constructor
  · rintro ⟨source, hok⟩
    split at hok
    · cases hok
    · next addr haddr =>
      obtain ⟨_, hcheck, hok⟩ := Result.bind_eq_ok.mp hok
      obtain ⟨port, hport, -⟩ := Result.bind_eq_ok.mp hok
      exact ⟨⟨addr, haddr, hcheck⟩, parsePort_ok_iff.mp ⟨port, hport⟩⟩
  · rintro ⟨⟨addr, haddr, hcheck⟩, hport⟩
    obtain ⟨port, hport⟩ := parsePort_ok_iff.mpr hport
    refine ⟨some ⟨addr, port⟩, ?_⟩
    rw [haddr]
    dsimp only
    rw [hcheck, hport]
    rfl

theorem Checked.transport {w : ClientWords} (h : Checked w) : w.transport = "TCP4" ∨ w.transport = "TCP6" := by
  obtain ⟨addr, -, hcheck⟩ := h.source
  by_contra hneither
  obtain ⟨hfour, hsix⟩ := not_or.mp hneither
  unfold checkTransport at hcheck
  rw [if_neg hfour, if_neg hsix] at hcheck
  cases hcheck

theorem parseLine_ok_iff {line : List UInt8} (hshort : line.length < maxLineLength) :
    (∃ source, parseLine (line ++ [10]) = .ok source) ↔
      (fields (decode (trimByte 13 line)))[1]? = some "UNKNOWN" ∨
        ∃ first w, fields (decode (trimByte 13 line)) = first :: w.list ∧ Checked w := by
  have hlength : ¬ maxLineLength < (line ++ [10]).length := by
    rw [List.length_append, List.length_singleton]
    omega
  rw [parseLine, if_neg hlength, trimByte_append]
  by_cases hunknown : (fields (decode (trimByte 13 line)))[1]? = some "UNKNOWN"
  · rw [if_pos hunknown]
    exact iff_of_true ⟨none, rfl⟩ (.inl hunknown)
  rw [if_neg hunknown]
  constructor
  · rintro ⟨source, hok⟩
    refine .inr ?_
    split at hok
    · rename_i first transport source destination sourcePort destinationPort heq
      exact ⟨first, ⟨transport, source, destination, sourcePort, destinationPort⟩, heq,
        parseSource_ok_iff.mp ⟨_, hok⟩⟩
    · cases hok
  · rintro (h | ⟨first, w, hwords, hchecked⟩)
    · exact absurd h hunknown
    · obtain ⟨source, hok⟩ := parseSource_ok_iff.mpr hchecked
      refine ⟨source, ?_⟩
      rw [hwords]
      exact hok

section
variable {stream : List UInt8}

theorem take_signature_ne (h : stream.take 6 = asciiBytes "PROXY ") : stream.take signature.length ≠ signature := by
  intro heq
  have hsix := congrArg (List.take 6) heq
  rw [List.take_take, show min 6 signature.length = 6 from rfl, h] at hsix
  revert hsix
  decide

theorem read_ok_iff (h : stream.take 6 = asciiBytes "PROXY ") :
    (∃ source rest, read stream = (.ok source, rest)) ↔ InTime stream ∧
      ((lineWords stream)[1]? = some "UNKNOWN" ∨ ∃ first w, lineWords stream = first :: w.list ∧ Checked w) := by
  by_cases hpeeked : stream.length < signature.length
  · rw [read, if_pos hpeeked]
    exact iff_of_false (by rintro ⟨_, _, h⟩; cases h) fun hin => Nat.not_le.mpr hpeeked hin.1.peeked
  rw [read, if_neg hpeeked, if_neg (take_signature_ne h), if_neg (not_not_intro h)]
  by_cases hended : (10 : UInt8) ∈ stream
  case neg =>
    rw [readV1_of_notMem hended]
    exact iff_of_false (by rintro ⟨_, _, h⟩; cases h) fun hin => hended hin.1.ended
  obtain ⟨rest, -, hread⟩ := exists_readV1 hended
  rw [hread]
  have hpair : (∃ source rest', (parseLine (firstLine stream ++ [10]), rest) = (.ok source, rest')) ↔
      ∃ source, parseLine (firstLine stream ++ [10]) = .ok source := by
    simp
  rw [hpair]
  by_cases hshort : (firstLine stream).length < maxLineLength
  · rw [parseLine_ok_iff hshort]
    exact (and_iff_right ⟨hended, hshort, Nat.not_lt.mp hpeeked⟩).symm
  · have hlong : maxLineLength < (firstLine stream ++ [10]).length := by
      rw [List.length_append, List.length_singleton]
      omega
    rw [parseLine, if_pos hlong]
    exact iff_of_false (by rintro ⟨_, h⟩; cases h) fun hin => hshort hin.1.short

end

/-! ## Lines of the grammar, read -/

theorem isWord_of_parseAddr {text : String} {addr : Addr} (h : parseAddr text = some addr)
    (hzone : addr.withoutZone = addr) : IsWord text := by
  refine ⟨fun hempty => ?_, fun c hc => ?_⟩
  · rw [hempty] at h
    revert h
    exact nofun
  · have hchar := parseAddr_chars h hzone c hc
    rw [isAddressChar, Bool.or_eq_true, decide_eq_true_eq] at hchar
    rcases hchar with rfl | hgroup
    · decide
    · exact graphic_of_isGroupChar hgroup

namespace AddressFor
variable {transport text : String}

theorem transport_eq (h : AddressFor transport text) : transport = "TCP4" ∨ transport = "TCP6" :=
  h.imp And.left And.left

theorem isWord (h : AddressFor transport text) : IsWord text := by
  rcases h with ⟨-, bits, haddr⟩ | ⟨-, bits, haddr, -⟩
  · exact isWord_of_parseAddr haddr rfl
  · exact isWord_of_parseAddr haddr rfl

theorem checked (h : AddressFor transport text) :
    ∃ addr, parseAddr text = some addr ∧ checkTransport transport text addr = .ok () := by
  rcases h with ⟨rfl, bits, haddr⟩ | ⟨rfl, bits, haddr, hmapped⟩
  · exact ⟨.v4 bits, haddr, rfl⟩
  · refine ⟨.v6 bits "", haddr, ?_⟩
    rw [checkTransport, if_neg (by decide), if_pos rfl, hmapped, if_neg Bool.false_ne_true]

end AddressFor

theorem PortText.isWord (h : PortText text) : IsWord text := by
  obtain ⟨n, hn, -⟩ := h
  rw [Decimal.atoiUnsigned] at hn
  split_ifs at hn with hdigits
  refine ⟨fun hempty => hdigits.1 (by rw [hempty]; rfl), fun c hc => ?_⟩
  exact graphic_of_isDigit (List.all_eq_true.mp hdigits.2 c hc)

theorem isWord_transport (h : transport = "TCP4" ∨ transport = "TCP6") : IsWord transport := by
  rcases h with rfl | rfl
  · exact isWord_of_all (by decide) rfl
  · exact isWord_of_all (by decide) rfl

namespace ClientWords
variable {w : ClientWords}

theorem list_injective {w' : ClientWords} (h : w.list = w'.list) : w = w' := by
  cases w
  cases w'
  simpa [list] using h

theorem Valid.checked (h : w.Valid) : Checked w := ⟨h.source.checked, h.sourcePort⟩

theorem Valid.transport (h : w.Valid) : IsWord w.transport := isWord_transport h.source.transport_eq

theorem Valid.fields (h : w.Valid) : fields w.text = "PROXY" :: w.list :=
  fields_six isWord_proxy h.transport h.source.isWord h.destination.isWord h.sourcePort.isWord
    h.destinationPort.isWord

theorem Valid.plain (h : w.Valid) : Plain w.text := by
  have hports := (h.sourcePort.isWord.plain.append plain_space).append h.destinationPort.isWord.plain
  have hdestination := (h.destination.isWord.plain.append plain_space).append hports
  have hsource := (h.source.isWord.plain.append plain_space).append hdestination
  have htransport := (h.transport.plain.append plain_space).append hsource
  exact (isWord_proxy.plain.append plain_space).append htransport

theorem Valid.words (h : w.Valid) : GoString.fields (decode (asciiBytes w.text)) = "PROXY" :: w.list := by
  rw [h.plain.decode, h.fields]

theorem Valid.length (h : w.Valid) : 10 ≤ (asciiBytes w.text).length := by
  have hfour : w.transport.toList.length = 4 := by
    rcases h.source.transport_eq with ht | ht <;> rw [ht] <;> decide
  have hproxy : "PROXY".toList.length = 5 := by decide
  have hone : " ".toList.length = 1 := rfl
  rw [length_asciiBytes]
  simp only [text, String.toList_append, List.length_append, hfour, hproxy, hone]
  omega

end ClientWords

theorem words_unknown (rest : List UInt8) : ∃ word more,
    fields (decode (asciiBytes "PROXY UNKNOWN" ++ rest)) = "PROXY" :: String.ofList ('U' :: word) :: more := by
  have hplain : Plain "PROXY UNKNOWN" := plain_of_all rfl
  have htext : "PROXY UNKNOWN" ++ decode rest =
      "PROXY" ++ " " ++ String.ofList ('U' :: ("NKNOWN".toList ++ (decode rest).toList)) := by
    rw [← String.toList_inj]
    simp
  obtain ⟨word, more, hfields⟩ := fields_cons (c := 'U') (by decide) ("NKNOWN".toList ++ (decode rest).toList)
  refine ⟨word, more, ?_⟩
  rw [decode_asciiBytes_append hplain.isAscii, htext, fields_append, isWord_proxy.fields, hfields]
  rfl

theorem Line.length {line : List UInt8} (h : Line line) : 10 ≤ line.length := by
  cases h with
  | unknown rest =>
    rw [List.length_append]
    have hthirteen : (asciiBytes "PROXY UNKNOWN").length = 13 := by decide
    omega
  | client w hw => exact hw.length

section
variable {stream line : List UInt8}

theorem lineWords_eq (h : firstLine stream = line ++ [13]) : lineWords stream = fields (decode line) := by
  rw [lineWords, h, trimByte_append]

theorem grammatical_iff :
    Grammatical stream ↔ InTime stream ∧ ∃ line, firstLine stream = line ++ [13] ∧ Line line := by
  constructor
  · rintro ⟨line, rest, rfl, hone, hlength, hline⟩
    have hfirst : firstLine (line ++ 13 :: 10 :: rest) = line ++ [13] := by
      have hkeep : ∀ b ∈ line, decide (b ≠ 10) = true := fun b hb => decide_eq_true fun he => hone (he ▸ hb)
      rw [firstLine, List.takeWhile_append_of_pos hkeep]
      simp
    have hten := hline.length
    refine ⟨⟨by simp, ?_, ?_⟩, line, hfirst, hline⟩
    · rw [hfirst, List.length_append, List.length_singleton]
      omega
    · have htwelve : signature.length = 12 := rfl
      rw [List.length_append, List.length_cons, List.length_cons]
      omega
  · rintro ⟨hin, line, hfirst, hline⟩
    obtain ⟨rest, hstream, -⟩ := exists_readV1 hin.ended
    have hone : (10 : UInt8) ∉ firstLine stream := by
      intro hmem
      simpa using List.mem_takeWhile_imp hmem
    have hshort := hin.short
    rw [hfirst, List.length_append, List.length_singleton] at hshort
    refine ⟨line, rest, ?_, fun hmem => hone (hfirst ▸ List.mem_append_left _ hmem), by omega, hline⟩
    rw [hstream, hfirst]
    simp

theorem not_checked_unknown {rest : List UInt8} {first : String}
    (hfirst : firstLine stream = asciiBytes "PROXY UNKNOWN" ++ rest ++ [13])
    (hwords : lineWords stream = first :: w.list) : ¬ Checked w := by
  intro hchecked
  obtain ⟨word, more, hunknown⟩ := words_unknown rest
  have hsecond : w.transport = String.ofList ('U' :: word) := by
    rw [lineWords_eq hfirst, hunknown] at hwords
    exact (List.cons.inj (List.cons.inj hwords).2).1.symm
  have hletter : w.transport.toList.head? = some 'U' := by
    rw [hsecond, String.toList_ofList, List.head?_cons]
  rcases hchecked.transport with ht | ht
  · rw [ht] at hletter
    revert hletter
    decide
  · rw [ht] at hletter
    revert hletter
    decide

theorem Misread.disagrees (h : stream.take 6 = asciiBytes "PROXY ") (hm : Misread stream) :
    ¬ ((∃ source rest, read stream = (.ok source, rest)) ↔ Grammatical stream) := by
  rw [read_ok_iff h, grammatical_iff]
  cases hm with
  | glued rest hin hfirst hword =>
    intro hagree
    rcases (hagree.mpr ⟨hin, _, hfirst, .unknown rest⟩).2 with hunknown | ⟨first, w, hwords, hchecked⟩
    · exact hword hunknown
    · exact not_checked_unknown hfirst hwords hchecked
  | unknown hin hword hloose =>
    intro hagree
    obtain ⟨line, hfirst, hline⟩ := (hagree.mp ⟨hin, .inl hword⟩).2
    cases hline with
    | unknown rest => exact hloose rest hfirst
    | client w hw =>
      rw [lineWords_eq hfirst, hw.words] at hword
      have htransport : w.transport = "UNKNOWN" := Option.some.inj hword
      rcases hw.source.transport_eq with ht | ht
      · exact absurd (ht.symm.trans htransport) (by decide)
      · exact absurd (ht.symm.trans htransport) (by decide)
  | client first w hin hwords hchecked hloose =>
    intro hagree
    obtain ⟨line, hfirst, hline⟩ := (hagree.mp ⟨hin, .inr ⟨first, w, hwords, hchecked⟩⟩).2
    cases hline with
    | unknown rest => exact not_checked_unknown hfirst hwords hchecked
    | client w' hw' =>
      have hsame : w' = w := by
        rw [lineWords_eq hfirst, hw'.words] at hwords
        exact ClientWords.list_injective (List.cons.inj hwords).2
      exact hloose (hsame ▸ ⟨hfirst, hw'⟩)

theorem agrees_of_not_misread (h : stream.take 6 = asciiBytes "PROXY ") (hm : ¬ Misread stream) :
    (∃ source rest, read stream = (.ok source, rest)) ↔ Grammatical stream := by
  rw [read_ok_iff h, grammatical_iff]
  refine and_congr_right fun hin => ⟨?_, ?_⟩
  · rintro (hword | ⟨first, w, hwords, hchecked⟩)
    · by_contra hnone
      exact hm (.unknown hin hword fun rest hfirst => hnone ⟨_, hfirst, .unknown rest⟩)
    · by_contra hnone
      exact hm (.client first w hin hwords hchecked fun hstrict => hnone ⟨_, hstrict.1, .client w hstrict.2⟩)
  · rintro ⟨line, hfirst, hline⟩
    cases hline with
    | unknown rest =>
      refine .inl ?_
      by_contra hword
      exact hm (.glued rest hin hfirst hword)
    | client w hw =>
      refine .inr ⟨"PROXY", w, ?_, hw.checked⟩
      rw [lineWords_eq hfirst, hw.words]

end

/-- The stream is taken exactly if it begins with a line of the protocol, and otherwise its
connection is closed. -/
def TakenAsDocumented (stream : List UInt8) : Prop :=
  ((∃ source rest, read stream = (.ok source, rest)) ↔ Grammatical stream) ∧
    ∀ peer trusted, ¬ Grammatical stream → (accept peer trusted stream).preamble.closed = true

theorem text_form_taken_iff {stream : List UInt8} (h : stream.take 6 = asciiBytes "PROXY ") :
    TakenAsDocumented stream ↔ ¬ Misread stream := by
  refine ⟨fun htaken hm => hm.disagrees h htaken.1, fun hm => ⟨agrees_of_not_misread h hm, ?_⟩⟩
  intro peer trusted hnot
  have hrefused : ¬ (TrustedPeer trusted peer ∧ ∃ source payload, read stream = (.ok source, payload)) :=
    fun hread => hnot ((agrees_of_not_misread h hm).mp hread.2)
  obtain ⟨err, -, -, hclosed⟩ := preamble_rejected hrefused
  exact hclosed

def looseStream : List UInt8 := asciiBytes "PROXY TCP4 203.0.113.7 nowhere 56324 none" ++ [10, 71]

theorem loose_line_taken : looseStream.take 6 = asciiBytes "PROXY " ∧
    read looseStream = (.ok (some ⟨.v4 0xCB007107#32, 56324⟩), [71]) ∧ ¬ Grammatical looseStream := by
  refine ⟨by decide, by decide, fun hgrammatical => ?_⟩
  obtain ⟨-, line, hfirst, -⟩ := grammatical_iff.mp hgrammatical
  have hlast := congrArg List.getLast? hfirst
  rw [List.getLast?_concat] at hlast
  revert hlast
  decide

def strictWords : ClientWords := ⟨"TCP4", "203.0.113.7", "10.0.0.1", "56324", "443"⟩

theorem strict_line_taken : TakenAsDocumented (asciiBytes strictWords.text ++ 13 :: 10 :: [71]) := by
  have hstart : (asciiBytes strictWords.text ++ 13 :: 10 :: [71]).take 6 = asciiBytes "PROXY " := by decide
  have hvalid : strictWords.Valid :=
    ⟨Or.inl ⟨rfl, 0xCB007107#32, by decide⟩, Or.inl ⟨rfl, 0x0A000001#32, by decide⟩, ⟨56324, by decide, by decide⟩,
      443, by decide, by decide⟩
  have hgrammatical : Grammatical (asciiBytes strictWords.text ++ 13 :: 10 :: [71]) :=
    ⟨_, [71], rfl, by decide, by decide, .client strictWords hvalid⟩
  have hread : read (asciiBytes strictWords.text ++ 13 :: 10 :: [71]) =
      (.ok (some ⟨.v4 0xCB007107#32, 56324⟩), [71]) := by
    decide
  exact (text_form_taken_iff hstart).mpr fun hm => hm.disagrees hstart (iff_of_true ⟨_, _, hread⟩ hgrammatical)

end Krouter.ProxyProto
