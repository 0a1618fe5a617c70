import Krouter.Http.Redirect

/-! The way back after a login. The return URL is kept if it starts with one slash; what matters is
what the redirect and the browser take for the start of an authority. -/

namespace Krouter.Auth
open GoString Http

def sanitizeReturnURL (raw : String) : String :=
  if raw = "" ∨ ¬ hasPrefix raw "/" ∨ hasPrefix raw "//" then "/" else raw

/-- The `Location` of a completed login. The parameter was sanitized when the login began, and is
sanitized again. -/
def returnLocation (rd : String) : List Char :=
  Redirect.location (sanitizeReturnURL (sanitizeReturnURL rd)).toList

theorem sanitizeReturnURL_kept {rd : String} (h : hasPrefix rd "/" = true) (h' : hasPrefix rd "//" = false) :
    sanitizeReturnURL rd = rd := by
  have hne : rd ≠ "" := by
    rintro rfl
    exact absurd h (by decide)
  rw [sanitizeReturnURL, if_neg]
  rintro (he | he | he)
  · exact hne he
  · exact he h
  · rw [h'] at he
    exact Bool.false_ne_true he

theorem sanitizeReturnURL_idem (rd : String) :
    sanitizeReturnURL (sanitizeReturnURL rd) = sanitizeReturnURL rd := by
  by_cases h : rd = "" ∨ ¬ hasPrefix rd "/" ∨ hasPrefix rd "//"
  · rw [sanitizeReturnURL, sanitizeReturnURL, if_pos h]
    decide
  · have hkept : sanitizeReturnURL rd = rd := by rw [sanitizeReturnURL, if_neg h]
    rw [hkept, hkept]

/-- The parameter is dropped, or its text, without dot segments where it parses, goes on after the
first slash, tabs aside, with neither a slash nor a backslash. -/
def StaysLocal (rd : String) : Prop :=
  hasPrefix rd "/" = true → hasPrefix rd "//" = false →
    Redirect.slashFollows (Redirect.redirectURL rd.toList).tail = false

/-- A browser that follows the redirect of a completed login stays on the origin of the request
exactly for the parameters that stay local. -/
theorem return_same_origin_iff (authority : WebURL.Scheme → List Char → Option (String × Nat))
    (absolute : WebURL.Origin → List Char → Option WebURL.Origin) (rd : String) :
    (∀ base, WebURL.originOf authority absolute base (returnLocation rd) = some base) ↔ StaysLocal rd := by
  rw [returnLocation, sanitizeReturnURL_idem]
  by_cases h : hasPrefix rd "/" = true ∧ hasPrefix rd "//" = false
  · obtain ⟨rest, hrest⟩ := hasPrefix_iff.mp h.1
    have hlist : rd.toList = '/' :: rest.toList := by
      rw [hrest, String.toList_append]
      rfl
    rw [sanitizeReturnURL_kept h.1 h.2, hlist, Redirect.location_same_origin_iff, StaysLocal, hlist]
    exact ⟨fun hstays _ _ => hstays, fun hstays => hstays h.1 h.2⟩
  · have hdropped : sanitizeReturnURL rd = "/" := by
      rw [sanitizeReturnURL, if_pos]
      rw [not_and] at h
      by_cases hslash : hasPrefix rd "/" = true
      · exact Or.inr (Or.inr (Bool.not_eq_false _ ▸ h hslash))
      · exact Or.inr (Or.inl hslash)
    have hslash : "/".toList = '/' :: [] := rfl
    rw [hdropped, hslash, Redirect.location_same_origin_iff]
    exact iff_of_true (by decide) fun h1 h2 => absurd ⟨h1, h2⟩ h

/-! ## A backslash -/

def plainAuthority (scheme : WebURL.Scheme) (host : List Char) : Option (String × Nat) :=
  if host = [] then none else some (String.ofList host, if scheme = .https then 443 else 80)

def shop : WebURL.Origin := ⟨.https, "shop.example.com", 443⟩

theorem return_leaves_origin :
    WebURL.originOf plainAuthority (fun _ _ => none) shop (returnLocation "/\\evil.example") =
        some ⟨.https, "evil.example", 443⟩ ∧
      WebURL.originOf plainAuthority (fun _ _ => none) shop (returnLocation "/\t/evil.example") =
        some ⟨.https, "evil.example", 443⟩ ∧
      WebURL.originOf plainAuthority (fun _ _ => none) shop (returnLocation "/a#/../\\evil.example") =
        some ⟨.https, "evil.example", 443⟩ := by
  refine ⟨?_, ?_, ?_⟩ <;> decide

example : StaysLocal "/cart?item=1//2" := by
  intro _ _
  decide

end Krouter.Auth
