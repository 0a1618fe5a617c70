import Krouter.Proxy.Connections

/-! The bodies of mirrored requests. A copy has what has been read of the client's body when the copy is
made, up to a limit. -/

namespace Krouter.Proxy
open Compiled Routing

/-! ## Capturing -/

structure CappedBuffer where
  buf : List UInt8
  limit : Nat
  overflowed : Bool

namespace CappedBuffer

def write (c : CappedBuffer) (chunk : List UInt8) : CappedBuffer :=
  if c.limit < c.buf.length + chunk.length then { c with overflowed := true }
  else { c with buf := c.buf ++ chunk }

def capture (limit : Nat) (chunks : List (List UInt8)) : CappedBuffer := chunks.foldl write ⟨[], limit, false⟩

structure Captures (limit : Nat) (chunks : List (List UInt8)) (c : CappedBuffer) : Prop where
  same : c.limit = limit
  fits : c.buf.length ≤ limit
  sublist : c.buf.Sublist chunks.flatten
  overflowed : c.overflowed = true ↔ limit < chunks.flatten.length
  whole : c.overflowed = false → c.buf = chunks.flatten

theorem Captures.write {limit : Nat} {chunks : List (List UInt8)} {c : CappedBuffer} (h : Captures limit chunks c)
    (chunk : List UInt8) : Captures limit (chunks ++ [chunk]) (c.write chunk) := by
  have hflatten : (chunks ++ [chunk]).flatten = chunks.flatten ++ chunk := by simp
  have hlength := h.sublist.length_le
  rw [CappedBuffer.write, h.same]
  split_ifs with hover
  · refine ⟨rfl, h.fits, ?_, iff_of_true rfl ?_, fun hno => by cases hno⟩
    · rw [hflatten]
      exact h.sublist.trans (List.sublist_append_left ..)
    · rw [hflatten, List.length_append]
      omega
  · refine ⟨rfl, ?_, ?_, ?_, fun hno => ?_⟩
    · rw [List.length_append]
      omega
    · rw [hflatten]
      exact h.sublist.append (.refl chunk)
    · rw [hflatten, List.length_append]
      refine h.overflowed.trans ⟨fun hbefore => by omega, fun hnow => ?_⟩
      -- a buffer that has dropped nothing has all of it
      by_contra hfits
      have hwhole := h.whole (Bool.eq_false_iff.mpr fun ho => hfits (h.overflowed.mp ho))
      rw [hwhole] at hover
      omega
    · rw [hflatten, ← h.whole hno]

theorem captures_capture (limit : Nat) (chunks : List (List UInt8)) :
    Captures limit chunks (capture limit chunks) := by
  induction chunks using List.reverseRecOn with
  | nil =>
    exact ⟨rfl, Nat.zero_le limit, .refl [], iff_of_false Bool.false_ne_true (Nat.not_lt_zero limit), fun _ => rfl⟩
  | append_singleton chunks chunk ih =>
    rw [capture, List.foldl_append]
    exact ih.write chunk

theorem buf_capture_eq_iff {limit : Nat} {chunks : List (List UInt8)} {body : List UInt8}
    (hread : chunks.flatten <+: body) :
    (capture limit chunks).buf = body ↔ chunks.flatten = body ∧ body.length ≤ limit := by
  have hcaptures := captures_capture limit chunks
  constructor
  · intro hbuf
    have hle := hcaptures.sublist.length_le
    have hfits := hcaptures.fits
    rw [hbuf] at hle hfits
    exact ⟨hread.eq_of_length_le hle, hfits⟩
  · rintro ⟨hflatten, hfits⟩
    rw [hcaptures.whole ?_, hflatten]
    refine Bool.eq_false_iff.mpr fun hover => ?_
    have hlimit := hcaptures.overflowed.mp hover
    rw [hflatten] at hlimit
    omega

end CappedBuffer

def mirrorBodyLimit : Nat := 1048576

/-! ## Mirroring -/

/-- The body of a client's request, the reads that the request to the backend makes of it, and how many of
them came before the mirrors were looked at and before each copy. -/
structure Upload where
  /-- Negative if it is not known. -/
  contentLength : Int64
  body : List UInt8
  chunks : List (List UInt8)
  checked : Nat
  copied : Nat → Nat
  read : chunks.flatten <+: body
  empty : contentLength = 0 → body = []
  later : ∀ i, checked ≤ copied i

namespace Upload

def readBy (u : Upload) (n : Nat) : List (List UInt8) := u.chunks.take n

theorem flatten_readBy (u : Upload) (n : Nat) : (u.readBy n).flatten <+: u.body := by
  refine List.IsPrefix.trans ?_ u.read
  refine ⟨(u.chunks.drop n).flatten, ?_⟩
  rw [readBy, ← List.flatten_append, List.take_append_drop]

def captured (u : Upload) (n : Nat) : Option CappedBuffer :=
  if u.contentLength = 0 then none else some (.capture mirrorBodyLimit (u.readBy n))

def overflowSeen (u : Upload) : Bool := (u.captured u.checked).any CappedBuffer.overflowed

end Upload

structure MirrorRequest where
  connection : Connection
  body : List UInt8
  /-- The reads made when it was copied. -/
  reads : Nat

def mirrorRequests (x : Exchange) (u : Upload) (transport : Transport) (mirrors : List (MirrorTable × Nat)) :
    List MirrorRequest :=
  if u.overflowSeen then []
  else mirrors.zipIdx.filterMap fun mirror =>
    if mirror.1.1.backend.tlsInvalid then none
    else (mirror.1.1.backend.pick x.mirrorIndex ⟨0, mirror.1.2⟩).map fun endpoint =>
      ⟨⟨⟨mirror.1.1.backend, endpoint⟩, transportOver (cleartext transport) mirror.1.1.backend⟩,
        (u.captured (u.copied mirror.2)).elim [] CappedBuffer.buf, u.copied mirror.2⟩

section
variable {x : Exchange} {u : Upload} {transport : Transport} {mirrors : List (MirrorTable × Nat)}

theorem connections_mirrorRequests :
    (mirrorRequests x u transport mirrors).map MirrorRequest.connection =
      fireMirrors { x with overflowed := u.overflowSeen } transport mirrors := by
  rw [mirrorRequests, fireMirrors]
  split_ifs
  · rfl
  · rw [List.map_filterMap]
    have hfst : mirrors = mirrors.zipIdx.map Prod.fst := (List.zipIdx_map_fst 0 mirrors).symm
    conv_rhs => rw [hfst, List.filterMap_map]
    refine List.filterMap_congr fun mirror _ => ?_
    dsimp only [Function.comp]
    split_ifs
    · rfl
    · rw [Option.map_map]
      rfl

def Reaches (x : Exchange) (mirror : MirrorTable × Nat) : Prop :=
  mirror.1.backend.tlsInvalid = false ∧ (mirror.1.backend.pick x.mirrorIndex ⟨0, mirror.2⟩).isSome = true

def Upload.WholeBy (u : Upload) (n : Nat) : Prop := (u.readBy n).flatten = u.body ∧ u.body.length ≤ mirrorBodyLimit

theorem mem_mirrorRequests {r : MirrorRequest} (h : r ∈ mirrorRequests x u transport mirrors) :
    u.overflowSeen = false ∧ r.body = (u.captured r.reads).elim [] CappedBuffer.buf ∧
      ∃ i mirror, mirrors[i]? = some mirror ∧ Reaches x mirror ∧ r.reads = u.copied i := by
  rw [mirrorRequests] at h
  split_ifs at h with hseen
  · cases h
  · obtain ⟨⟨mirror, i⟩, hmirror, hr⟩ := List.mem_filterMap.mp h
    split_ifs at hr with htls
    obtain ⟨endpoint, hpick, rfl⟩ := Option.map_eq_some_iff.mp hr
    refine ⟨Bool.eq_false_iff.mpr hseen, rfl, i, mirror, List.mem_zipIdx_iff_getElem?.mp hmirror,
      ⟨Bool.eq_false_iff.mpr htls, ?_⟩, rfl⟩
    rw [hpick, Option.isSome_some]

theorem exists_mirrorRequest {i : Nat} {mirror : MirrorTable × Nat} (hseen : u.overflowSeen = false)
    (hmirror : mirrors[i]? = some mirror) (hreaches : Reaches x mirror) :
    ∃ r ∈ mirrorRequests x u transport mirrors, r.reads = u.copied i := by
  obtain ⟨endpoint, hpick⟩ := Option.isSome_iff_exists.mp hreaches.2
  let connection : Connection := ⟨⟨mirror.1.backend, endpoint⟩, transportOver (cleartext transport) mirror.1.backend⟩
  refine ⟨⟨connection, (u.captured (u.copied i)).elim [] CappedBuffer.buf, u.copied i⟩, ?_, rfl⟩
  rw [mirrorRequests, if_neg (Bool.eq_false_iff.mp hseen)]
  refine List.mem_filterMap.mpr ⟨(mirror, i), List.mem_zipIdx_iff_getElem?.mpr hmirror, ?_⟩
  rw [if_neg (Bool.eq_false_iff.mp hreaches.1), hpick]
  rfl

/-- Every copy that is sent carries the body of the client's request, which had been read to its end
and is within the limit. -/
def SendsWholeBodies (x : Exchange) (u : Upload) (transport : Transport) (mirrors : List (MirrorTable × Nat)) : Prop :=
  ∀ r ∈ mirrorRequests x u transport mirrors, r.body = u.body ∧ (u.contentLength ≠ 0 → u.WholeBy r.reads)

theorem body_eq_iff {r : MirrorRequest} (h : r ∈ mirrorRequests x u transport mirrors) (hlength : u.contentLength ≠ 0) :
    r.body = u.body ↔ u.WholeBy r.reads := by
  obtain ⟨-, hbody, -⟩ := mem_mirrorRequests h
  rw [hbody, Upload.captured, if_neg hlength]
  exact CappedBuffer.buf_capture_eq_iff (u.flatten_readBy r.reads)

end

/-- Whole bodies are mirrored exactly if there is none, if too much was read before the mirrors are looked
at, or if each copy is made after the end was read, within the limit. -/
theorem mirrors_whole_iff (x : Exchange) (u : Upload) (transport : Transport) (mirrors : List (MirrorTable × Nat)) :
    SendsWholeBodies x u transport mirrors ↔ u.contentLength = 0 ∨ mirrorBodyLimit < (u.readBy u.checked).flatten.length ∨
      ∀ i mirror, mirrors[i]? = some mirror → Reaches x mirror → u.WholeBy (u.copied i) := by
  by_cases hlength : u.contentLength = 0
  · refine iff_of_true (fun r hr => ⟨?_, fun h => absurd hlength h⟩) (Or.inl hlength)
    obtain ⟨-, hbody, -⟩ := mem_mirrorRequests hr
    rw [hbody, Upload.captured, if_pos hlength, u.empty hlength]
    rfl
  have hseen : u.overflowSeen = true ↔ mirrorBodyLimit < (u.readBy u.checked).flatten.length := by
    rw [Upload.overflowSeen, Upload.captured, if_neg hlength, Option.any_some]
    exact (CappedBuffer.captures_capture mirrorBodyLimit (u.readBy u.checked)).overflowed
  rw [or_iff_right hlength, ← hseen]
  constructor
  · intro hwhole
    refine or_iff_not_imp_left.mpr fun hnone i mirror hmirror hreaches => ?_
    obtain ⟨r, hr, hreads⟩ := exists_mirrorRequest (Bool.eq_false_iff.mpr hnone) hmirror hreaches
    rw [← hreads]
    exact (hwhole r hr).2 hlength
  · intro hcondition r hr
    obtain ⟨hnone, -, i, mirror, hmirror, hreaches, hreads⟩ := mem_mirrorRequests hr
    have hby : u.WholeBy r.reads := by
      rw [hreads]
      rcases hcondition with hover | hall
      · exact absurd (hnone.symm.trans hover) Bool.false_ne_true
      · exact hall i mirror hmirror hreaches
    exact ⟨(body_eq_iff hr hlength).mpr hby, fun _ => hby⟩

/-! A backend that cannot be reached, with a mirror that can. -/

def shadow : BackendTable := ⟨"shop", "shadow", 80, 1, true, false, [], "", none, false⟩

def shadowIndex : EndpointsIndex :=
  ⟨GoMap.setAll ∅ [("shop/shadow", ⟨[⟨"", 80, none⟩]⟩)],
    GoMap.setAll ∅ [("shop/shadow", [⟨"IPv4", [⟨none, some 8080⟩], [⟨["10.0.0.9"], none, none⟩]⟩])]⟩

def shadowExchange : Exchange :=
  ⟨shadowIndex, ⟨0, 0⟩, true, false, shadowIndex, fun _ => ⟨fun _ => true, 0⟩⟩

def unreadUpload : Upload where
  contentLength := 3
  body := [1, 2, 3]
  chunks := []
  checked := 0
  copied := fun _ => 0
  read := ⟨[1, 2, 3], rfl⟩
  empty := by decide
  later := fun _ => Nat.le_refl 0

theorem unread_body_mirrored :
    (mirrorRequests shadowExchange unreadUpload .http [(⟨shadow, defaultPercent⟩, 0)]).map
      (fun r => (r.connection.address, r.body)) = [("10.0.0.9:8080", [])] ∧
    ¬ SendsWholeBodies shadowExchange unreadUpload .http [(⟨shadow, defaultPercent⟩, 0)] := by
  have hreaches : Reaches shadowExchange (⟨shadow, defaultPercent⟩, 0) := ⟨rfl, by decide⟩
  refine ⟨by decide, fun hwhole => ?_⟩
  have hfirst : [((⟨shadow, defaultPercent⟩, 0) : MirrorTable × Nat)][0]? = some (⟨shadow, defaultPercent⟩, 0) := rfl
  have hnone : unreadUpload.overflowSeen = false := by decide
  obtain ⟨r, hr, hreads⟩ := exists_mirrorRequest hnone hfirst hreaches
  have hby := ((hwhole r hr).2 (by decide)).1
  rw [hreads] at hby
  revert hby
  decide

end Krouter.Proxy
