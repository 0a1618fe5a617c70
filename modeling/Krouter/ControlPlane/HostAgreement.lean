import Krouter.ControlPlane.Attach
import Krouter.Routing.HostCase

/-! The hostnames of a route against those of a listener, where the route is attached and where it is
served. -/

namespace Krouter.ControlPlane
open GoString Routing

/-! ## Hostnames -/

def hostnameChar (c : Char) : Bool :=
  97 ≤ c.toNat && c.toNat ≤ 122 || 48 ≤ c.toNat && c.toNat ≤ 57 || c = '-' || c = '.'

/-- The labels of a hostname with the dots between them. Where dashes and dots may stand does not
matter here. -/
structure HostLabels where
  chars : List Char
  nonempty : chars ≠ []
  admitted : ∀ c ∈ chars, hostnameChar c = true

inductive HostPattern where
  | exact (labels : HostLabels)
  | wildcard (labels : HostLabels)

namespace HostPattern

def chars : HostPattern → List Char
  | exact labels => labels.chars
  | wildcard labels => '*' :: '.' :: labels.chars

def text (q : HostPattern) : String := String.ofList q.chars

/-- The hosts a hostname stands for: any case of its letters, or at least one more label in
front of it. -/
def Accepts : HostPattern → List Char → Prop
  | exact labels, host => host.map foldChar = labels.chars
  | wildcard labels, host => ∃ pre, pre ≠ [] ∧ pre ++ '.' :: labels.chars = host

end HostPattern

theorem foldChar_of_hostnameChar {c : Char} (h : hostnameChar c = true) : foldChar c = c := by
  have hcases : (97 ≤ c.toNat ∧ c.toNat ≤ 122 ∨ 48 ≤ c.toNat ∧ c.toNat ≤ 57) ∨ c = '-' ∨ c = '.' := by
    simpa [hostnameChar, or_assoc] using h
  rcases hcases with hrange | rfl | rfl
  · have hkelvin : c ≠ '\u212a' := by
      rintro rfl
      exact absurd hrange (by decide)
    have hlong : c ≠ '\u017f' := by
      rintro rfl
      exact absurd hrange (by decide)
    rw [foldChar, if_neg (by omega), if_neg hkelvin, if_neg hlong]
  · rfl
  · rfl

theorem HostLabels.map_fold (labels : HostLabels) : labels.chars.map foldChar = labels.chars :=
  List.map_congr_left (fun c hc => foldChar_of_hostnameChar (labels.admitted c hc)) |>.trans
    (List.map_id _)

theorem HostLabels.star_ne (labels : HostLabels) {rest : List Char} : labels.chars ≠ '*' :: rest := by
  intro h
  have hstar := labels.admitted '*' (by rw [h]; exact .head _)
  exact absurd hstar (by decide)

namespace HostPattern

variable (q : HostPattern) {labels other : HostLabels}

theorem chars_ne_nil : q.chars ≠ [] := by
  cases q with
  | exact labels => exact labels.nonempty
  | wildcard labels => exact List.cons_ne_nil _ _

@[simp] theorem toList_text : q.text.toList = q.chars := String.toList_ofList

theorem text_ne_empty : q.text ≠ "" := by
  intro h
  apply q.chars_ne_nil
  simpa using congrArg String.toList h

theorem hostnameMatches_iff (host : String) : hostnameMatches q.text host = true ↔ q.Accepts host.toList := by
  cases q with
  | exact labels =>
    have hplain : ¬ hasPrefix (exact labels).text "*." = true := by
      intro h
      obtain ⟨rest, hrest⟩ := hasPrefix_iff.mp h
      refine @HostLabels.star_ne labels ('.' :: rest.toList) ?_
      simpa [chars] using congrArg String.toList hrest
    rw [hostnameMatches, if_neg (text_ne_empty _), if_neg hplain, equalFold, decide_eq_true_eq,
      toList_text, Accepts, chars, labels.map_fold, eq_comm]
  | wildcard labels =>
    rw [text, chars, hostnameMatches_wildcard, afterFirstLabel, suffix_dropWhile_iff,
      suffix_tail_iff (List.cons_ne_nil _ _), Accepts]

theorem wildcardMatches_iff (q r : HostPattern) :
    wildcardMatches q.text r.text = true ↔ q.Accepts r.chars := by
  rw [← toList_text, ← hostnameMatches_iff, hostnameMatches, if_neg q.text_ne_empty]
  rfl

/-! ## Common hosts -/

theorem exists_accepted : ∃ host, q.Accepts host := by
  cases q with
  | exact labels => exact ⟨labels.chars, labels.map_fold⟩
  | wildcard labels => exact ⟨'x' :: '.' :: labels.chars, ['x'], by simp, rfl⟩

theorem accepts_of_fold {host : List Char} (hwild : (wildcard labels).Accepts host)
    (hexact : (exact other).Accepts host) : (wildcard labels).Accepts other.chars := by
  obtain ⟨pre, hpre, rfl⟩ := hwild
  have hfolded : pre.map foldChar ++ '.' :: labels.chars = other.chars := by
    rw [Accepts, List.map_append, List.map_cons, labels.map_fold] at hexact
    exact hexact
  exact ⟨pre.map foldChar, by simpa using hpre, hfolded⟩

theorem not_accepts_wildcard : ¬ (exact labels).Accepts (wildcard other).chars := by
  intro h
  exact labels.star_ne h.symm

theorem wildcard_accepts_wildcard :
    (wildcard labels).Accepts (wildcard other).chars ↔ ('.' :: labels.chars) <:+ '.' :: other.chars :=
  (suffix_tail_iff (List.cons_ne_nil _ _)).symm

theorem common_host_iff (q r : HostPattern) :
    (q.Accepts r.chars ∨ r.Accepts q.chars) ↔ ∃ host, q.Accepts host ∧ r.Accepts host := by
  cases q with
  | exact labels =>
    cases r with
    | exact other =>
      -- both are in lower case, so they share a host only if they are equal
      have hsame : (exact labels).Accepts other.chars ↔ other.chars = labels.chars := by
        rw [Accepts, other.map_fold]
      have hsame' : (exact other).Accepts labels.chars ↔ labels.chars = other.chars := by
        rw [Accepts, labels.map_fold]
      simp only [chars]
      rw [hsame, hsame', eq_comm, or_self]
      constructor
      · intro h
        exact ⟨labels.chars, labels.map_fold, by rw [Accepts, labels.map_fold, h]⟩
      · rintro ⟨host, hq, hr⟩
        exact hq.symm.trans hr
    | wildcard other =>
      rw [or_iff_right not_accepts_wildcard]
      constructor
      · intro h
        exact ⟨labels.chars, labels.map_fold, h⟩
      · rintro ⟨host, hq, hr⟩
        exact accepts_of_fold hr hq
  | wildcard labels =>
    cases r with
    | exact other =>
      rw [or_iff_left not_accepts_wildcard]
      constructor
      · intro h
        exact ⟨other.chars, h, other.map_fold⟩
      · rintro ⟨host, hq, hr⟩
        exact accepts_of_fold hq hr
    | wildcard other =>
      rw [wildcard_accepts_wildcard, wildcard_accepts_wildcard]
      constructor
      · -- one more label in front of the longer one
        rintro (⟨pre, hpre⟩ | ⟨pre, hpre⟩)
        · exact ⟨'x' :: '.' :: other.chars, ⟨'x' :: pre, by simp, by rw [List.cons_append, hpre]⟩,
            ['x'], by simp, rfl⟩
        · exact ⟨'x' :: '.' :: labels.chars, ⟨['x'], by simp, rfl⟩,
            'x' :: pre, by simp, by rw [List.cons_append, hpre]⟩
      · rintro ⟨host, ⟨pre, -, hpre⟩, pre', -, hpre'⟩
        exact List.suffix_or_suffix_of_suffix ⟨pre, hpre⟩ ⟨pre', hpre'⟩

end HostPattern

/-! ## Attachment -/

theorem hostnamesIntersect_iff (listener : Option HostPattern) (route : List HostPattern) :
    hostnamesIntersect (listener.map HostPattern.text) (route.map HostPattern.text) = true ↔
      ∃ host, hostnameMatches ((listener.map HostPattern.text).getD "") host = true ∧
        routeHostnameMatches (route.map HostPattern.text) host = true := by
  have hroute : ∀ host, routeHostnameMatches (route.map HostPattern.text) host = true ↔
      route = [] ∨ ∃ r ∈ route, r.Accepts host.toList := by
    intro host
    simp [routeHostnameMatches, HostPattern.hostnameMatches_iff]
  simp only [hroute]
  cases listener with
  | none =>
    refine ⟨fun _ => ?_, fun _ => rfl⟩
    cases route with
    | nil => exact ⟨"", rfl, Or.inl rfl⟩
    | cons r rest =>
      obtain ⟨host, hhost⟩ := r.exists_accepted
      refine ⟨String.ofList host, rfl, Or.inr ⟨r, List.mem_cons_self .., ?_⟩⟩
      rwa [String.toList_ofList]
  | some q =>
    have hintersect : hostnamesIntersect (some q.text) (route.map HostPattern.text) = true ↔
        route = [] ∨ ∃ r ∈ route, q.Accepts r.chars ∨ r.Accepts q.chars := by
      simp [hostnamesIntersect, q.text_ne_empty, HostPattern.wildcardMatches_iff]
    rw [Option.map_some, Option.getD_some, hintersect]
    simp only [HostPattern.hostnameMatches_iff, HostPattern.common_host_iff]
    constructor
    · rintro (hnil | ⟨r, hr, host, hq, hrhost⟩)
      · obtain ⟨host, hhost⟩ := q.exists_accepted
        exact ⟨String.ofList host, by rwa [String.toList_ofList], Or.inl hnil⟩
      · exact ⟨String.ofList host, by rwa [String.toList_ofList],
          Or.inr ⟨r, hr, by rwa [String.toList_ofList]⟩⟩
    · rintro ⟨host, hq, hnil | ⟨r, hr, hrhost⟩⟩
      · exact Or.inl hnil
      · exact Or.inr ⟨r, hr, host.toList, hq, hrhost⟩

end Krouter.ControlPlane
