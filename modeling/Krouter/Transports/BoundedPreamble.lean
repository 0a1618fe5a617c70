import Krouter.Lib.Bufio
import Krouter.Transports.TextForm

/-! How much of a connection is taken while the text form is read. The limit on the line is checked after
`ReadString` has found its end. -/

namespace Krouter.ProxyProto
open Bufio Relation Utf8

def bufferSize : Nat := 4096

def Peeking (stream : List UInt8) (r : Reader UInt8) : Prop :=
  ReflTransGen (PeekStep bufferSize signature.length) (.start stream) r

inductive Searching (stream : List UInt8) : Reader UInt8 → Prop
  | mk {p r : Reader UInt8} : Peeking stream p → signature.length ≤ p.buffered.length →
      p.buffered.take signature.length ≠ signature → p.buffered.take 6 = asciiBytes "PROXY " →
      ReflTransGen (SearchStep bufferSize 10) p r → Searching stream r

def Reading (stream : List UInt8) (r : Reader UInt8) : Prop := Peeking stream r ∨ Searching stream r

def preambleLength (bytes : List UInt8) : Nat := min bytes.length ((firstLine bytes).length + 1)

/-- Outside the buffer there is no more than a line may have, and of the preamble no more was taken
than that and the buffer. -/
structure Bounded (r : Reader UInt8) : Prop where
  gathered : r.aside.length ≤ maxLineLength
  consumed : preambleLength r.taken ≤ bufferSize + maxLineLength

section
variable {stream : List UInt8} {r : Reader UInt8}

theorem Peeking.conserves (h : Peeking stream r) : r.taken ++ r.coming = stream := (conserves_of_peek h).1

theorem Peeking.aside (h : Peeking stream r) : r.aside = [] := (conserves_of_peek h).2

theorem Peeking.fits (h : Peeking stream r) : r.buffered.length ≤ bufferSize :=
  fits_of_peek h (Nat.zero_le bufferSize)

theorem Searching.conserves (h : Searching stream r) : r.taken ++ r.coming = stream := by
  obtain ⟨hpeek, -, -, -, hsearch⟩ := h
  rw [conserves_of_search hsearch, hpeek.conserves]

theorem Searching.fits (h : Searching stream r) : r.buffered.length ≤ bufferSize := by
  obtain ⟨hpeek, -, -, -, hsearch⟩ := h
  exact fits_of_search hsearch hpeek.fits

theorem Searching.notMem_aside (h : Searching stream r) : 10 ∉ r.aside := by
  obtain ⟨hpeek, -, -, -, hsearch⟩ := h
  refine notMem_aside_of_search hsearch ?_
  rw [hpeek.aside]
  exact List.not_mem_nil

theorem Searching.read (h : Searching stream r) : read stream = readV1 stream := by
  obtain ⟨hpeek, hlength, hsignature, hproxy, -⟩ := h
  have hstream := hpeek.conserves
  rw [Reader.taken, hpeek.aside, List.nil_append] at hstream
  have htwelve : signature.length = 12 := rfl
  rw [ProxyProto.read, ← hstream, List.take_append_of_le_length hlength, if_neg hsignature,
    List.take_append_of_le_length (by omega), if_neg (not_not_intro hproxy), if_neg]
  rw [List.length_append]
  omega

/-- However the stream arrives, the search goes on until it has found, and leaves, what the parser of the
whole stream does. -/
theorem chunked_reading_refines (h : Searching stream r) :
    (10 ∈ r.buffered → ∃ line rest, r.buffered = line ++ 10 :: rest ∧
      ProxyProto.read stream = (parseLine (r.aside ++ line ++ [10]), rest ++ r.coming)) ∧
    (10 ∉ r.buffered → r.coming = [] →
      ProxyProto.read stream = (.error (.malformed "truncated preamble: EOF"), [])) ∧
    (10 ∉ r.buffered → r.coming ≠ [] → ∃ r', SearchStep bufferSize 10 r r' ∧ Searching stream r') := by
  have hstream := h.conserves
  have haside := h.notMem_aside
  refine ⟨fun hfound => ?_, fun hnone hend => ?_, fun hnone hmore => ?_⟩
  · obtain ⟨line, rest, hbuffered, hline⟩ := List.eq_append_cons_of_mem hfound
    have hone : (10 : UInt8) ∉ r.aside ++ line := fun hmem => (List.mem_append.mp hmem).elim haside hline
    refine ⟨line, rest, hbuffered, ?_⟩
    rw [h.read, ← hstream, Reader.taken, hbuffered, ← readV1_line hone]
    simp
  · have hone : (10 : UInt8) ∉ stream := by
      rw [← hstream, hend, List.append_nil]
      exact fun hmem => (List.mem_append.mp hmem).elim haside hnone
    rw [h.read, readV1_of_notMem hone]
  · obtain ⟨r', hstep⟩ : ∃ r', SearchStep bufferSize 10 r r' := by
      by_cases hroom : r.buffered.length < bufferSize
      · obtain ⟨aside, buffered, coming⟩ := r
        obtain ⟨b, rest, rfl⟩ := List.exists_cons_of_ne_nil hmore
        exact ⟨_, .fill hnone hroom (.mk aside buffered [b] rest (List.cons_ne_nil b []) hroom)⟩
      · exact ⟨_, .full hnone (Nat.not_lt.mp hroom)⟩
    obtain ⟨hpeek, hlength, hsignature, hproxy, hsearch⟩ := h
    exact ⟨r', hstep, .mk hpeek hlength hsignature hproxy (hsearch.tail hstep)⟩

theorem bounded_of_aside (haside : r.aside = []) (hfits : r.buffered.length ≤ bufferSize) : Bounded r := by
  refine ⟨?_, ?_⟩
  · rw [haside]
    exact Nat.zero_le maxLineLength
  · have htaken : preambleLength r.taken ≤ r.taken.length := Nat.min_le_left ..
    rw [Reader.taken, haside, List.nil_append] at htaken ⊢
    omega

theorem searching_aside (h : stream.take 6 = asciiBytes "PROXY ") (hlong : bufferSize ≤ stream.length)
    (hnone : 10 ∉ stream.take bufferSize) :
    Searching stream ⟨stream.take bufferSize, [], stream.drop bufferSize⟩ := by
  have hlength : (stream.take bufferSize).length = bufferSize := by
    rw [List.length_take]
    omega
  have hbuffer : bufferSize = 4096 := rfl
  have htwelve : signature.length = 12 := rfl
  have hfill : Fill bufferSize (.start stream) ⟨[], stream.take bufferSize, stream.drop bufferSize⟩ := by
    have hne : stream.take bufferSize ≠ [] := by
      intro hnil
      rw [hnil] at hlength
      cases hlength
    have hstep := Fill.mk [] [] _ (stream.drop bufferSize) hne
      (Nat.le_trans (Nat.le_of_eq (Nat.zero_add _)) (Nat.le_of_eq hlength))
    rwa [List.take_append_drop, List.nil_append] at hstep
  refine .mk (.single ⟨?_, hfill⟩) ?_ ?_ ?_ (.single (.full hnone ?_))
  · change 0 < signature.length
    omega
  · change signature.length ≤ (stream.take bufferSize).length
    omega
  · change (stream.take bufferSize).take signature.length ≠ signature
    rw [List.take_take, Nat.min_eq_left (by omega)]
    exact take_signature_ne h
  · change (stream.take bufferSize).take 6 = asciiBytes "PROXY "
    rw [List.take_take, Nat.min_eq_left (by omega), h]
  · exact Nat.le_of_eq hlength.symm

end

/-- Reading the line is bounded for the streams that have its end, or their own, before the buffer
is full. -/
theorem line_bounded_iff {stream : List UInt8} (h : stream.take 6 = asciiBytes "PROXY ") :
    (∀ r, Reading stream r → Bounded r) ↔ 10 ∈ stream.take bufferSize ∨ stream.length < bufferSize := by
  constructor
  · intro hbounded
    by_contra hfar
    obtain ⟨hnone, hlong⟩ := not_or.mp hfar
    have hgathered := (hbounded _ (Or.inr (searching_aside h (Nat.not_lt.mp hlong) hnone))).gathered
    change (stream.take bufferSize).length ≤ maxLineLength at hgathered
    rw [List.length_take, Nat.min_eq_left (Nat.not_lt.mp hlong)] at hgathered
    exact absurd hgathered (by decide)
  · rintro hnear r (hpeek | hsearching)
    · exact bounded_of_aside hpeek.aside hpeek.fits
    · have hfits := hsearching.fits
      obtain ⟨hpeek, -, -, -, hsearch⟩ := hsearching
      exact bounded_of_aside (aside_eq_nil_of_search hnear hsearch hpeek.conserves hpeek.aside) hfits

def endlessStream : List UInt8 := asciiBytes "PROXY " ++ List.replicate 5000 57

theorem take_endlessStream : endlessStream.take 6 = asciiBytes "PROXY " := List.take_left' (by decide)

theorem endless_line_gathered : endlessStream.take 6 = asciiBytes "PROXY " ∧
    ∃ r, Reading endlessStream r ∧ r.aside.length = bufferSize ∧ maxLineLength < bufferSize := by
  have hnone : 10 ∉ endlessStream.take bufferSize := by
    intro hmem
    rcases List.mem_append.mp (List.mem_of_mem_take hmem) with hproxy | hdigit
    · revert hproxy
      decide
    · exact absurd (List.eq_of_mem_replicate hdigit) (by decide)
  have hlength : endlessStream.length = 5006 := by
    rw [endlessStream, List.length_append, List.length_replicate]
    rfl
  have hbuffer : bufferSize = 4096 := rfl
  refine ⟨take_endlessStream, _, Or.inr (searching_aside take_endlessStream (by omega) hnone), ?_, by decide⟩
  change (endlessStream.take bufferSize).length = bufferSize
  rw [List.length_take]
  omega

theorem loose_line_bounded : Reading looseStream ⟨[], looseStream, []⟩ ∧ Bounded ⟨[], looseStream, []⟩ := by
  have hfill : Fill bufferSize (.start looseStream) ⟨[], looseStream, []⟩ := by
    have hfits : ([] : List UInt8).length + looseStream.length ≤ bufferSize := by decide
    have hstep := Fill.mk [] [] looseStream [] (by decide) hfits
    rwa [List.append_nil, List.nil_append] at hstep
  have hreading : Reading looseStream ⟨[], looseStream, []⟩ := Or.inl (.single ⟨by decide, hfill⟩)
  exact ⟨hreading, (line_bounded_iff (by decide)).mpr (Or.inr (by decide)) _ hreading⟩

theorem loose_line_read : ∃ r, Searching looseStream r ∧ ∃ line rest, r.buffered = line ++ 10 :: rest ∧
    read looseStream = (parseLine (r.aside ++ line ++ [10]), rest ++ r.coming) := by
  have hpeek : Peeking looseStream ⟨[], looseStream, []⟩ := by
    have hfits : ([] : List UInt8).length + looseStream.length ≤ bufferSize := by decide
    have hfill := Fill.mk [] [] looseStream [] (by decide) hfits
    rw [List.append_nil] at hfill
    exact .single ⟨by decide, hfill⟩
  have hsearch := Searching.mk hpeek (by decide) (by decide) (by decide) .refl
  exact ⟨_, hsearch, (chunked_reading_refines hsearch).1 (by decide)⟩

end Krouter.ProxyProto
