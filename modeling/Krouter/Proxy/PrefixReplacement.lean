import Krouter.ControlPlane.RouteCompile
import Krouter.Lib.Joined
import Krouter.Proxy.Outbound

/-! Paths as lists of segments, and what replacing the matched prefix of a path does to them. -/

namespace Krouter.Proxy
open Compiled ControlPlane GoString Routing

def IsPath (path : String) : Prop := path = "" ∨ hasPrefix path "/" = true

def segments (path : String) : List String := (splitChar path '/').tail

def pathOf (segs : List String) : String := String.join (segs.map ("/" ++ ·))

/-- A trailing slash of a prefix or a replacement is not a segment of its own. -/
def prefixSegments (path : String) : List String := segments (trimSuffix path "/")

/-- The segments that a matched prefix leaves; a slash at the end of the path counts as an empty one. -/
def remaining (pre path : String) : List String := (segments path).drop (prefixSegments pre).length

variable {path : String}

theorem isPath_iff : IsPath path ↔ path = "" ∨ ∃ rest, path = "/" ++ rest := by
  rw [IsPath, hasPrefix_iff]

theorem segments_slash (rest : String) : segments ("/" ++ rest) = splitChar rest '/' := by
  have hsplit := splitChar_append "" rest '/'
  have hnil : splitChar "" '/' = [""] := by decide
  have htext : "" ++ String.singleton '/' ++ rest = "/" ++ rest := rfl
  rw [hnil, htext] at hsplit
  rw [segments, hsplit]
  rfl

theorem segments_append (a : String) {b : String} (hb : IsPath b) : segments (a ++ b) = segments a ++ segments b := by
  rcases isPath_iff.mp hb with rfl | ⟨rest, rfl⟩
  · have hnil : segments "" = [] := by decide
    rw [String.append_empty, hnil, List.append_nil]
  · have hne : splitChar a '/' ≠ [] := by
      rw [splitChar, ne_eq, List.map_eq_nil_iff]
      exact List.splitOn_ne_nil _ _
    have hsplit := splitChar_append a rest '/'
    have htext : a ++ String.singleton '/' ++ rest = a ++ ("/" ++ rest) := String.append_assoc
    rw [htext] at hsplit
    rw [segments, hsplit, segments_slash, List.tail_append_of_ne_nil hne, segments]

theorem pathOf_append (a b : List String) : pathOf (a ++ b) = pathOf a ++ pathOf b := by
  rw [pathOf, List.map_append, String.join_append]
  rfl

theorem pathOf_segments (h : IsPath path) : pathOf (segments path) = path := by
  rcases isPath_iff.mp h with rfl | ⟨rest, rfl⟩
  · decide
  · have hslash : "/".toList = ['/'] := rfl
    have hjoin := Joined.append_flatMap_cons (c := '/') [] (rest.toList.splitOn '/')
    rw [segments_slash, pathOf, splitChar, ← String.toList_inj, String.toList_join, List.flatMap_map, List.flatMap_map]
    simp only [String.toList_append, String.toList_ofList, hslash, List.singleton_append]
    rw [List.nil_append, List.intercalate_cons_of_ne_nil (List.splitOn_ne_nil _ _), List.intercalate_splitOn] at hjoin
    exact hjoin

theorem hasPrefix_slash_iff : hasPrefix path "/" = true ↔ path.toList.head? = some '/' := by
  have hslash : "/".toList = ['/'] := rfl
  rw [hasPrefix, hslash]
  cases path.toList with
  | nil => decide
  | cons c cs =>
    rw [List.isPrefixOf_cons_cons, List.head?_cons, Option.some.injEq, Bool.and_eq_true, beq_iff_eq, eq_comm]
    exact and_iff_left List.isPrefixOf_nil_left

theorem hasPrefix_slash_append {a : String} (hne : a ≠ "") (b : String) :
    hasPrefix (a ++ b) "/" = hasPrefix a "/" := by
  have hlist : a.toList ≠ [] := fun h => hne (String.toList_inj.mp h)
  rw [Bool.eq_iff_iff, hasPrefix_slash_iff, hasPrefix_slash_iff, String.toList_append,
    List.head?_append_of_ne_nil _ hlist]

theorem isPath_trimSuffix (h : IsPath path) : IsPath (trimSuffix path "/") := by
  by_cases hs : hasSuffix path "/" = true
  · obtain ⟨t, rfl⟩ := hasSuffix_iff.mp hs
    rw [trimSuffix_append]
    refine or_iff_not_imp_left.mpr fun hne => ?_
    rcases h with hempty | habs
    · exact absurd (String.append_eq_empty_iff.mp hempty).1 hne
    · rwa [hasPrefix_slash_append hne] at habs
  · rw [trimSuffix, if_neg hs]
    exact h

theorem pathOf_prefixSegments (h : IsPath path) : pathOf (prefixSegments path) = trimSuffix path "/" :=
  pathOf_segments (isPath_trimSuffix h)

theorem exists_rest {pre : String} (hpath : IsPath path) (h : pathPrefixMatches pre path = true) :
    ∃ rest, IsPath rest ∧ path = trimSuffix pre "/" ++ rest := by
  unfold pathPrefixMatches at h
  dsimp only at h
  split_ifs at h with hempty hprefix
  · exact ⟨path, hpath, by rw [hempty, String.empty_append]⟩
  · obtain ⟨rest, rfl⟩ := hasPrefix_iff.mp hprefix
    refine ⟨rest, ?_, rfl⟩
    rw [String.toList_append, List.drop_left] at h
    rw [IsPath, hasPrefix_slash_iff, ← String.toList_inj]
    split at h
    case h_1 hnil => exact .inl hnil
    case h_2 c cs hcons =>
      rw [hcons, List.head?_cons, of_decide_eq_true h]
      exact .inr rfl

/-! ## The replacement -/

def replacePrefix (pre replacement path : String) : String :=
  rewrittenPath path { filterOf filterURLRewrite with
    pathRewriteType := "ReplacePrefixMatch", pathRewriteValue := replacement, pathPrefix := pre }

theorem rewrittenPath_compiled {entry filter : Filter} {modifier : HTTPPathModifier}
    {ruleMatches : List HTTPRouteMatch} (htype : modifier.type = "ReplacePrefixMatch")
    (h : compilePathModifier entry modifier ruleMatches = .ok filter) (path : String) :
    ∃ replacement, modifier.replacePrefixMatch = some replacement ∧
      rewrittenPath path filter = replacePrefix (rulePathPrefix ruleMatches) replacement path := by
  rw [compilePathModifier, if_neg (by rw [htype]; decide), if_pos htype] at h
  split at h
  · cases h
  · next replacement hvalue =>
    cases h
    exact ⟨replacement, hvalue, rfl⟩

theorem replacePrefix_append (pre replacement rest : String) :
    replacePrefix pre replacement (trimSuffix pre "/" ++ rest) =
      if rest = "" ∨ rest = "/" then if replacement = "" then "/" else replacement
      else trimSuffix (if replacement = "" then "/" else replacement) "/" ++ rest := by
  have htype : "ReplacePrefixMatch" ≠ "ReplaceFullPath" := by decide
  rw [replacePrefix, rewrittenPath, if_neg htype, if_pos rfl]
  rw [trimPrefix_append]

def NonRoot (path : String) : Prop := hasPrefix path "/" = true ∧ hasSuffix path "/" = false

/-- The segments of the prefix are replaced and the others are kept; the path becomes the replacement where
none are left. A replacement between non-root paths without a trailing slash can be taken back. -/
structure ReplacesPrefix (pre replacement path : String) : Prop where
  matched : segments path = prefixSegments pre ++ remaining pre path
  kept : remaining pre path ≠ [] →
    replacePrefix pre replacement path = pathOf (prefixSegments replacement ++ remaining pre path)
  whole : remaining pre path = [] →
    replacePrefix pre replacement path = if replacement = "" then "/" else replacement
  absolute : hasPrefix (replacePrefix pre replacement path) "/" = true
  back : NonRoot pre → NonRoot replacement → replacePrefix replacement pre (replacePrefix pre replacement path) = path

section
variable {pre replacement rest : String}

theorem segments_rest (hrest : IsPath rest) :
    remaining pre (trimSuffix pre "/" ++ rest) = segments rest ∧
      segments (trimSuffix pre "/" ++ rest) = prefixSegments pre ++ segments rest := by
  have hsegs : segments (trimSuffix pre "/" ++ rest) = prefixSegments pre ++ segments rest :=
    segments_append _ hrest
  exact ⟨by rw [remaining, hsegs, List.drop_left], hsegs⟩

theorem segments_eq_nil_iff (hrest : IsPath rest) : segments rest = [] ↔ rest = "" := by
  constructor
  · intro h
    rw [← pathOf_segments hrest, h]
    rfl
  · rintro rfl
    decide

theorem trimSuffix_replacement (hreplacement : IsPath replacement) :
    trimSuffix (if replacement = "" then "/" else replacement) "/" = pathOf (prefixSegments replacement) := by
  rw [pathOf_prefixSegments hreplacement]
  split_ifs with h
  · rw [h]
    decide
  · rfl

theorem trimSuffix_of_nonRoot (h : NonRoot path) : trimSuffix path "/" = path := by
  rw [trimSuffix, if_neg (by rw [h.2]; exact Bool.false_ne_true)]

theorem NonRoot.ne_empty (h : NonRoot path) : path ≠ "" := by
  rintro rfl
  exact absurd h.1 (by decide)

theorem replacePrefix_nonRoot (hpre : NonRoot pre) (hreplacement : NonRoot replacement) (hrest : rest ≠ "/") :
    replacePrefix pre replacement (pre ++ rest) = replacement ++ rest := by
  have h := replacePrefix_append pre replacement rest
  rw [trimSuffix_of_nonRoot hpre, if_neg hreplacement.ne_empty, trimSuffix_of_nonRoot hreplacement] at h
  rw [h]
  split_ifs with hempty
  · rw [hempty.resolve_right hrest, String.append_empty]
  · rfl

theorem hasPrefix_pathOf {segs : List String} (h : segs ≠ []) : hasPrefix (pathOf segs) "/" = true := by
  obtain ⟨seg, segs, rfl⟩ := List.exists_cons_of_ne_nil h
  rw [pathOf, List.map_cons, String.join_cons, String.append_assoc]
  exact hasPrefix_iff.mpr ⟨_, rfl⟩

theorem isPath_of_trimSuffix (h : hasPrefix (trimSuffix replacement "/" ++ rest) "/" = true)
    (hne : trimSuffix replacement "/" ≠ "") : IsPath replacement := by
  rw [hasPrefix_slash_append hne] at h
  by_cases hs : hasSuffix replacement "/" = true
  · obtain ⟨t, rfl⟩ := hasSuffix_iff.mp hs
    rw [trimSuffix_append] at h hne
    exact .inr (by rw [hasPrefix_slash_append hne]; exact h)
  · rw [trimSuffix, if_neg hs] at h
    exact .inr h

theorem isPath_of_replacesPrefix (h : ReplacesPrefix pre replacement (trimSuffix pre "/" ++ rest)) :
    IsPath replacement := by
  refine or_iff_not_imp_left.mpr fun hne => ?_
  have habs := h.absolute
  rw [replacePrefix_append, if_neg hne] at habs
  split_ifs at habs
  · exact habs
  · by_cases htrimmed : trimSuffix replacement "/" = ""
    · rw [trimSuffix] at htrimmed
      split_ifs at htrimmed with hs
      · obtain ⟨t, rfl⟩ := hasSuffix_iff.mp hs
        have ht := trimSuffix_append t "/"
        rw [trimSuffix, if_pos hs, htrimmed] at ht
        rw [← ht]
        decide
      · exact absurd htrimmed hne
    · exact (isPath_of_trimSuffix habs htrimmed).resolve_left hne

theorem replacesPrefix_rest_iff (hrest : IsPath rest) :
    ReplacesPrefix pre replacement (trimSuffix pre "/" ++ rest) ↔
      IsPath replacement ∧ (rest = "/" → replacement = "" ∨ hasSuffix replacement "/" = true) := by
  obtain ⟨hremaining, hsegs⟩ := @segments_rest pre rest hrest
  have hlast : segments "/" = [""] := by decide
  constructor
  · intro h
    have hpath := isPath_of_replacesPrefix h
    refine ⟨hpath, ?_⟩
    rintro rfl
    refine or_iff_not_imp_left.mpr fun hne => ?_
    have hkept := h.kept (by rw [hremaining, hlast]; exact List.cons_ne_nil _ _)
    rw [hremaining, pathOf_append, pathOf_prefixSegments hpath, replacePrefix_append, if_pos (.inr rfl),
      if_neg hne] at hkept
    exact hasSuffix_iff.mpr ⟨_, hkept⟩
  · rintro ⟨hpath, hslash⟩
    -- where a slash alone is left, the replacement brings it along
    have hresult : rest ≠ "" → replacePrefix pre replacement (trimSuffix pre "/" ++ rest) =
        pathOf (prefixSegments replacement ++ segments rest) := by
      intro hne
      rw [pathOf_append, pathOf_segments hrest, replacePrefix_append]
      by_cases hlone : rest = "/"
      · rw [if_pos (.inr hlone), hlone, pathOf_prefixSegments hpath]
        rcases hslash hlone with rfl | hs
        · decide
        · obtain ⟨t, rfl⟩ := hasSuffix_iff.mp hs
          rw [if_neg (fun h => absurd (String.append_eq_empty_iff.mp h).2 (by decide)), trimSuffix_append]
      · rw [if_neg (not_or.mpr ⟨hne, hlone⟩), trimSuffix_replacement hpath]
    have hwhole : rest = "" → replacePrefix pre replacement (trimSuffix pre "/" ++ rest) =
        if replacement = "" then "/" else replacement := by
      intro h
      rw [replacePrefix_append, if_pos (.inl h)]
    refine ⟨by rw [hsegs, hremaining], ?_, ?_, ?_, ?_⟩
    · rw [hremaining, ne_eq, segments_eq_nil_iff hrest]
      exact hresult
    · rw [hremaining, segments_eq_nil_iff hrest]
      exact hwhole
    · by_cases h : rest = ""
      · rw [hwhole h]
        split_ifs with hempty
        · decide
        · exact hpath.resolve_left hempty
      · rw [hresult h]
        exact hasPrefix_pathOf (List.append_ne_nil_of_right_ne_nil _ (mt (segments_eq_nil_iff hrest).mp h))
    · intro hpre hreplacement
      have hne : rest ≠ "/" := by
        intro h
        rcases hslash h with hempty | hs
        · exact hreplacement.ne_empty hempty
        · exact absurd hs (by rw [hreplacement.2]; exact Bool.false_ne_true)
      rw [trimSuffix_of_nonRoot hpre, replacePrefix_nonRoot hpre hreplacement hne,
        replacePrefix_nonRoot hreplacement hpre hne]

end

end Krouter.Proxy
