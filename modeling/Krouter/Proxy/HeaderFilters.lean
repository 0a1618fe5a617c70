import Krouter.ControlPlane.RouteCompile
import Krouter.Lib.LastSet
import Krouter.Proxy.Outbound

/-! Header filters: what the API asks of a list of headers, and what becomes of it when it is compiled
into a map and replayed in any order. -/

namespace Krouter.Proxy
open Compiled ControlPlane GoString Http

/-! ## Header names -/

theorem toNat_lt_of_isTokenChar {c : Char} (h : isTokenChar c = true) : c.toNat < 128 := by
  have hothers : ∀ c ∈ "!#$%&'*+-.^_`|~".toList, c.toNat < 128 := by simp
  simp only [isTokenChar, Bool.or_eq_true, Bool.and_eq_true, decide_eq_true_eq, List.contains_iff_mem] at h
  rcases h with ((h | h) | h) | h
  · omega
  · omega
  · omega
  · exact hothers c h

theorem ascii_case {c : Char} (h : c.toNat < 128) :
    lowerChar (upperChar c) = lowerChar c ∧ upperChar (lowerChar c) = upperChar c ∧
      lowerChar (lowerChar c) = lowerChar c ∧ (lowerChar c = '-' ↔ c = '-') := by
  have hall : ∀ n, n < 128 → lowerChar (upperChar (Char.ofNat n)) = lowerChar (Char.ofNat n) ∧
      upperChar (lowerChar (Char.ofNat n)) = upperChar (Char.ofNat n) ∧
      lowerChar (lowerChar (Char.ofNat n)) = lowerChar (Char.ofNat n) ∧
      (lowerChar (Char.ofNat n) = '-' ↔ Char.ofNat n = '-') := by decide
  have hc := hall c.toNat h
  rwa [Char.ofNat_toNat] at hc

theorem canonicalChars_map_lowerChar {cs : List Char} (h : ∀ c ∈ cs, c.toNat < 128) (upper : Bool) :
    canonicalChars upper (cs.map lowerChar) = canonicalChars upper cs ∧
      (canonicalChars upper cs).map lowerChar = cs.map lowerChar := by
  induction cs generalizing upper with
  | nil => exact ⟨rfl, rfl⟩
  | cons c cs ih =>
    obtain ⟨hlu, hul, hll, hdash⟩ := ascii_case (h c (.head _))
    obtain ⟨hsame, hlower⟩ := ih (fun d hd => h d (List.mem_cons_of_mem c hd)) (decide (c = '-'))
    constructor
    · rw [List.map_cons, canonicalChars, canonicalChars, decide_eq_decide.mpr hdash, hsame, hul, hll]
    · rw [canonicalChars, List.map_cons, List.map_cons, hlower]
      cases upper
      · exact congrArg (· :: _) hll
      · exact congrArg (· :: _) hlu

theorem canonicalKey_eq_iff {a b : String} (ha : a.toList.all isTokenChar = true)
    (hb : b.toList.all isTokenChar = true) : canonicalKey a = canonicalKey b ↔ toLower a = toLower b := by
  have hascii : ∀ {s : String}, s.toList.all isTokenChar = true → ∀ c ∈ s.toList, c.toNat < 128 :=
    fun hs c hc => toNat_lt_of_isTokenChar (List.all_eq_true.mp hs c hc)
  obtain ⟨ha', hla⟩ := canonicalChars_map_lowerChar (hascii ha) true
  obtain ⟨hb', hlb⟩ := canonicalChars_map_lowerChar (hascii hb) true
  rw [canonicalKey, if_pos ha, canonicalKey, if_pos hb, toLower, toLower]
  constructor
  · intro h
    rw [← hla, ← hlb, String.ofList_injective h]
  · intro h
    rw [← ha', ← hb', String.ofList_injective h]

/-! ## Replaying entries -/

def appended (base : Option (List String)) (more : List String) : Option (List String) :=
  if more = [] then base else some (base.getD [] ++ more)

theorem appended_some (values more : List String) : appended (some values) more = some (values ++ more) := by
  unfold appended
  split_ifs with h
  · rw [h, List.append_nil]
  · rfl

def valueFor (key : String) (entry : String × String) : Option String :=
  if canonicalKey entry.1 = key then some entry.2 else none

theorem get_foldl_set (entries : List (String × String)) (h : Header) (key : String) :
    (entries.foldl (fun h entry => h.set entry.1 entry.2) h)[key]? =
      ((lastSet (valueFor key) entries).map ([·])).or h[key]? := by
  induction entries generalizing h with
  | nil => rfl
  | cons entry entries ih =>
    rw [List.foldl_cons, ih, lastSet, Header.set, GoMap.get_insert, valueFor]
    cases lastSet (valueFor key) entries with
    | some v => rfl
    | none => split_ifs <;> rfl

theorem get_foldl_add (entries : List (String × String)) (h : Header) (key : String) :
    (entries.foldl (fun h entry => h.add entry.1 entry.2) h)[key]? =
      appended h[key]? (entries.filterMap (valueFor key)) := by
  induction entries generalizing h with
  | nil => rfl
  | cons entry entries ih =>
    have hadd : (h.add entry.1 entry.2)[key]? =
        if canonicalKey entry.1 = key then some (h[key]?.getD [] ++ [entry.2]) else h[key]? := by
      rw [Header.add, GoMap.get_insert, Header.values, GoMap.read]
      split_ifs with hkey
      · rw [hkey]
      · rfl
    rw [List.foldl_cons, ih, hadd]
    by_cases hkey : canonicalKey entry.1 = key
    · have hvalue : valueFor key entry = some entry.2 := if_pos hkey
      rw [List.filterMap_cons_some hvalue, if_pos hkey, appended_some, appended, if_neg (List.cons_ne_nil _ _),
        List.append_assoc, List.singleton_append]
    · have hvalue : valueFor key entry = none := if_neg hkey
      rw [List.filterMap_cons_none hvalue, if_neg hkey]

/-! ## Compiled filters -/

def applyResponseFilter (visit : Visit) (h : Header) (filter : Filter) : Header :=
  if filter.type ≠ filterResponseHeaderModifier then h else modifyHeader visit filter h

/-- The value that is compiled under a spelling of a name: that of its last entry. -/
def spelled (l : List HTTPHeader) (name : String) : Option String :=
  lastSet (fun e => if e.name = name then some e.value else none) l

def firstFor (l : List HTTPHeader) (key : String) : Option String :=
  (l.find? fun e => canonicalKey e.name = key).map (·.value)

def modified (modifier : HTTPHeaderFilter) (h : Header) (key : String) : Option (List String) :=
  if ∃ n ∈ modifier.remove, canonicalKey n = key then none
  else appended (((firstFor modifier.set key).map ([·])).or h[key]?) (firstFor modifier.add key).toList

def compiledHeaders (l : List HTTPHeader) : GoMap String String := GoMap.setAll ∅ (l.map fun e => (e.name, e.value))

theorem get_compiledHeaders (l : List HTTPHeader) (name : String) : (compiledHeaders l)[name]? = spelled l name := by
  have hfold := foldl_eq_lastSet (fun (m : GoMap String String) (e : HTTPHeader) => m.insert e.name e.value)
    (fun m => m[name]?) (fun e => if e.name = name then some e.value else none)
    (fun m e => by rw [GoMap.get_insert]; split_ifs <;> rfl) l ∅
  rw [compiledHeaders, GoMap.setAll, List.foldl_map, hfold, GoMap.get_empty, Option.or_none]
  rfl

variable {l : List HTTPHeader} {v : String} {modifier : HTTPHeaderFilter}

theorem exists_spelled {e : HTTPHeader} (h : e ∈ l) : ∃ v, spelled l e.name = some v := by
  refine Option.ne_none_iff_exists'.mp fun hnone => ?_
  have he := lastSet_eq_none.mp hnone e h
  rw [if_pos rfl] at he
  cases he

theorem exists_of_spelled {name : String} (h : spelled l name = some v) : ∃ e ∈ l, e.name = name := by
  obtain ⟨before, e, after, rfl, he, -⟩ := lastSet_eq_some.mp h
  split_ifs at he with hname
  exact ⟨e, by simp, hname⟩

theorem exists_firstFor {e : HTTPHeader} {key : String} (h : e ∈ l)
    (hkey : canonicalKey e.name = key) : ∃ v, firstFor l key = some v := by
  obtain ⟨e', he'⟩ := Option.isSome_iff_exists.mp
    (List.find?_isSome.mpr ⟨e, h, decide_eq_true hkey⟩ : (l.find? fun e => canonicalKey e.name = key).isSome)
  exact ⟨e'.value, by rw [firstFor, he']; rfl⟩

theorem exists_of_firstFor {key : String} (h : firstFor l key = some v) : ∃ e ∈ l, canonicalKey e.name = key := by
  obtain ⟨e, he, -⟩ := Option.map_eq_some_iff.mp h
  have hkey := List.find?_some he
  exact ⟨e, List.mem_of_find?_eq_some he, of_decide_eq_true hkey⟩

def Replays (l : List HTTPHeader) (entries : List (String × String)) : Prop :=
  entries.Perm (compiledHeaders l).toList

section
variable {l : List HTTPHeader} {entries : List (String × String)} (h : Replays l entries)
include h

theorem Replays.mem {name v : String} : (name, v) ∈ entries ↔ spelled l name = some v := by
  rw [h.mem_iff, GoMap.mem_toList, get_compiledHeaders]

theorem Replays.nodup : entries.Nodup := h.nodup_iff.mpr (List.Nodup.of_map Prod.fst (GoMap.toList_keys_nodup _))

theorem Replays.lastSet_eq {key : String}
    (hfirst : ∀ e ∈ l, canonicalKey e.name = key → spelled l e.name = firstFor l key) :
    lastSet (valueFor key) entries = firstFor l key := by
  cases hlast : lastSet (valueFor key) entries with
  | some v =>
    obtain ⟨before, ⟨name, w⟩, after, hentries, hv, -⟩ := lastSet_eq_some.mp hlast
    have hmem : (name, w) ∈ entries := by
      rw [hentries]
      simp
    unfold valueFor at hv
    split_ifs at hv with hkey
    obtain ⟨e, he, rfl⟩ := exists_of_spelled (h.mem.mp hmem)
    rw [← hfirst e he hkey, h.mem.mp hmem, ← hv]
  | none =>
    refine (Option.eq_none_iff_forall_ne_some.mpr fun v hfor => ?_).symm
    obtain ⟨e, he, hkey⟩ := exists_of_firstFor hfor
    obtain ⟨w, hw⟩ := exists_spelled he
    have hnone := lastSet_eq_none.mp hlast (e.name, w) (h.mem.mpr hw)
    rw [valueFor, if_pos hkey] at hnone
    cases hnone

theorem Replays.filterMap_eq {e : HTTPHeader} {v : String} (hv : spelled l e.name = some v)
    (hone : ∀ e' ∈ l, canonicalKey e'.name = canonicalKey e.name → e'.name = e.name) :
    entries.filterMap (valueFor (canonicalKey e.name)) = [v] := by
  have hmem := h.mem.mpr hv
  have hvalue : valueFor (canonicalKey e.name) (e.name, v) = some v := if_pos rfl
  have hothers : (entries.erase (e.name, v)).filterMap (valueFor (canonicalKey e.name)) = [] := by
    rw [List.filterMap_eq_nil_iff]
    rintro ⟨name, w⟩ hentry
    obtain ⟨hne, hentry⟩ := h.nodup.mem_erase_iff.mp hentry
    refine if_neg fun hkey => hne ?_
    have hw := h.mem.mp hentry
    obtain ⟨e', he', rfl⟩ := exists_of_spelled hw
    rw [hone e' he' hkey, hv] at hw
    rw [hone e' he' hkey, Option.some.inj hw]
  have hperm := (List.perm_cons_erase hmem).filterMap (valueFor (canonicalKey e.name))
  rw [List.filterMap_cons_some hvalue, hothers] at hperm
  exact List.perm_singleton.mp hperm

theorem Replays.one_spelling {e e' : HTTPHeader} {w : String} (he : e ∈ l) (he' : e' ∈ l)
    (hkey : canonicalKey e'.name = canonicalKey e.name)
    (hw : entries.filterMap (valueFor (canonicalKey e.name)) = [w]) :
    spelled l e.name = some w ∧ e'.name = e.name := by
  obtain ⟨v, hv⟩ := exists_spelled he
  obtain ⟨v', hv'⟩ := exists_spelled he'
  have hmem := h.mem.mpr hv
  have hvalue : valueFor (canonicalKey e.name) (e.name, v) = some v := if_pos rfl
  have hperm := (List.perm_cons_erase hmem).filterMap (valueFor (canonicalKey e.name))
  rw [List.filterMap_cons_some hvalue, hw] at hperm
  obtain ⟨hwv, hnil⟩ := List.cons.inj (List.perm_singleton.mp hperm.symm)
  refine ⟨by rw [hv, hwv], ?_⟩
  by_contra hne
  have hother : (e'.name, v') ∈ entries.erase (e.name, v) :=
    h.nodup.mem_erase_iff.mpr ⟨fun heq => hne (Prod.mk.inj heq).1, h.mem.mpr hv'⟩
  have hnone := List.filterMap_eq_nil_iff.mp hnil _ hother
  rw [valueFor, if_pos hkey] at hnone
  cases hnone

end

/-! ## The order of the visit -/

def Visit.Fair (visit : Visit) : Prop := ∀ m, (visit m).Perm m.toList

theorem get_modifyHeader (visit : Visit) (type : String) (modifier : HTTPHeaderFilter) (h : Header) (key : String) :
    (modifyHeader visit (compileHeaderModifier type modifier) h)[key]? =
      if ∃ n ∈ modifier.remove, canonicalKey n = key then none
      else appended (((lastSet (valueFor key) (visit (compiledHeaders modifier.set))).map ([·])).or h[key]?)
        ((visit (compiledHeaders modifier.add)).filterMap (valueFor key)) := by
  rw [modifyHeader, getElem_foldl_del, get_foldl_add, get_foldl_set]
  rfl

def visitLast (name : String) : Visit := fun m =>
  match m[name]? with
  | none => m.toList
  | some v => m.toList.erase (name, v) ++ [(name, v)]

theorem fair_visitLast (name : String) : (visitLast name).Fair := by
  intro m
  rw [visitLast]
  split
  case h_1 => exact List.Perm.refl _
  case h_2 v hv =>
    exact List.perm_append_comm.trans (List.perm_cons_erase (GoMap.mem_toList.mpr hv)).symm

theorem lastSet_visitLast {m : GoMap String String} {name : String} (hv : m[name]? = some v) :
    lastSet (valueFor (canonicalKey name)) (visitLast name m) = some v := by
  rw [visitLast, hv]
  rw [lastSet_append, lastSet, valueFor, if_pos rfl]
  rfl

/-- Whatever order the maps are visited in, the headers come out as the API has it. -/
def FollowsHeaderFilter (modifier : HTTPHeaderFilter) : Prop :=
  ∀ visit : Visit, visit.Fair → ∀ key : String,
    (∀ out : Outbound, (applyFilter visit out
      (compileHeaderModifier filterRequestHeaderModifier modifier)).header[key]? = modified modifier out.header key) ∧
    ∀ h : Header, (applyResponseFilter visit h
      (compileHeaderModifier filterResponseHeaderModifier modifier))[key]? = modified modifier h key

/-- Of a header that is not removed, every spelling is set to the value of the first entry, and
only one spelling is added. -/
structure Unambiguous (modifier : HTTPHeaderFilter) : Prop where
  set : ∀ e ∈ modifier.set, (¬ ∃ n ∈ modifier.remove, canonicalKey n = canonicalKey e.name) →
    spelled modifier.set e.name = firstFor modifier.set (canonicalKey e.name)
  add : ∀ e ∈ modifier.add, (¬ ∃ n ∈ modifier.remove, canonicalKey n = canonicalKey e.name) →
    spelled modifier.add e.name = firstFor modifier.add (canonicalKey e.name) ∧
      ∀ e' ∈ modifier.add, canonicalKey e'.name = canonicalKey e.name → e'.name = e.name

theorem Unambiguous.modifyHeader (h : Unambiguous modifier) {visit : Visit}
    (hfair : visit.Fair) (type : String) (header : Header) (key : String) :
    (modifyHeader visit (compileHeaderModifier type modifier) header)[key]? = modified modifier header key := by
  have hset : Replays modifier.set (visit (compiledHeaders modifier.set)) := hfair _
  have hadd : Replays modifier.add (visit (compiledHeaders modifier.add)) := hfair _
  rw [get_modifyHeader, modified]
  by_cases hremoved : ∃ n ∈ modifier.remove, canonicalKey n = key
  · rw [if_pos hremoved, if_pos hremoved]
  have hlast : lastSet (valueFor key) (visit (compiledHeaders modifier.set)) = firstFor modifier.set key := by
    refine hset.lastSet_eq fun e he hkey => ?_
    subst hkey
    exact h.set e he hremoved
  have hmore : (visit (compiledHeaders modifier.add)).filterMap (valueFor key) = (firstFor modifier.add key).toList := by
    cases hfirst : firstFor modifier.add key with
    | none =>
      refine List.filterMap_eq_nil_iff.mpr ?_
      rintro ⟨name, v⟩ hmem
      obtain ⟨e, he, rfl⟩ := exists_of_spelled (hadd.mem.mp hmem)
      refine if_neg fun hkey => ?_
      obtain ⟨w, hw⟩ := exists_firstFor he hkey
      rw [hfirst] at hw
      cases hw
    | some v =>
      obtain ⟨e, he, rfl⟩ := exists_of_firstFor hfirst
      obtain ⟨hspelled, hone⟩ := h.add e he hremoved
      exact hadd.filterMap_eq (hspelled.trans hfirst) hone
  rw [if_neg hremoved, if_neg hremoved, hlast, hmore]

theorem FollowsHeaderFilter.unambiguous (h : FollowsHeaderFilter modifier) : Unambiguous modifier := by
  -- what the two sides come to for a header that is not removed, from no headers at all
  have heq : ∀ (visit : Visit), visit.Fair → ∀ e : HTTPHeader,
      (¬ ∃ n ∈ modifier.remove, canonicalKey n = canonicalKey e.name) →
      appended ((lastSet (valueFor (canonicalKey e.name)) (visit (compiledHeaders modifier.set))).map ([·]))
        ((visit (compiledHeaders modifier.add)).filterMap (valueFor (canonicalKey e.name))) =
      appended ((firstFor modifier.set (canonicalKey e.name)).map ([·]))
        (firstFor modifier.add (canonicalKey e.name)).toList := by
    intro visit hfair e hkept
    have hresponse : (modifyHeader visit (compileHeaderModifier filterResponseHeaderModifier modifier)
        ∅)[canonicalKey e.name]? = modified modifier ∅ (canonicalKey e.name) := (h visit hfair _).2 ∅
    rwa [get_modifyHeader, modified, if_neg hkept, if_neg hkept, GoMap.get_empty, Option.or_none,
      Option.or_none] at hresponse
  have hset : ∀ e ∈ modifier.set, (¬ ∃ n ∈ modifier.remove, canonicalKey n = canonicalKey e.name) →
      spelled modifier.set e.name = firstFor modifier.set (canonicalKey e.name) := by
    intro e he hkept
    obtain ⟨v, hv⟩ := exists_spelled he
    obtain ⟨w, hw⟩ := exists_firstFor he rfl
    have hvalues := heq (visitLast e.name) (fair_visitLast e.name) e hkept
    rw [lastSet_visitLast ((get_compiledHeaders _ _).trans hv), hw, Option.map_some, Option.map_some, appended_some,
      appended_some, Option.some.injEq] at hvalues
    rw [hv, hw, (List.cons.inj hvalues).1]
  refine ⟨hset, fun e he hkept => ?_⟩
  have hfair : Visit.Fair Std.ExtTreeMap.toList := fun _ => List.Perm.refl _
  have hadd : Replays modifier.add (compiledHeaders modifier.add).toList := List.Perm.refl _
  have hlast : lastSet (valueFor (canonicalKey e.name)) (compiledHeaders modifier.set).toList =
      firstFor modifier.set (canonicalKey e.name) := by
    refine Replays.lastSet_eq (List.Perm.refl _) fun e' he' hkey => ?_
    rw [← hkey]
    exact hset e' he' (by rwa [hkey])
  obtain ⟨v, hv⟩ := exists_spelled he
  obtain ⟨w, hw⟩ := exists_firstFor he rfl
  have hmore : v ∈ (compiledHeaders modifier.add).toList.filterMap (valueFor (canonicalKey e.name)) :=
    List.mem_filterMap.mpr ⟨(e.name, v), hadd.mem.mpr hv, if_pos rfl⟩
  have hvalues := heq _ hfair e hkept
  rw [hlast, hw, Option.toList_some, appended, if_neg (List.ne_nil_of_mem hmore), appended, if_neg (List.cons_ne_nil _ _),
    Option.some.injEq] at hvalues
  have hsingle := List.append_cancel_left hvalues
  exact ⟨(hadd.one_spelling he he rfl hsingle).1.trans hw.symm,
    fun e' he' hkey => (hadd.one_spelling he he' hkey hsingle).2⟩

/-- Names are compared up to case. A compiled filter has the meaning of the API, in every order in which
its maps are visited, exactly if it is unambiguous. -/
theorem header_filter_meaning_iff (modifier : HTTPHeaderFilter) :
    (∀ a b : String, a.toList.all isTokenChar = true → b.toList.all isTokenChar = true →
      (canonicalKey a = canonicalKey b ↔ toLower a = toLower b)) ∧
    (FollowsHeaderFilter modifier ↔ Unambiguous modifier) := by
  refine ⟨fun a b ha hb => canonicalKey_eq_iff ha hb,
    FollowsHeaderFilter.unambiguous, fun h visit hfair key => ⟨fun out => ?_, fun header => ?_⟩⟩
  · exact h.modifyHeader hfair filterRequestHeaderModifier out.header key
  · exact h.modifyHeader hfair filterResponseHeaderModifier header key

def twoSpellings : HTTPHeaderFilter := ⟨[⟨"X-Env", "prod"⟩, ⟨"x-env", "test"⟩], [], []⟩

theorem spelling_visited_last_wins :
    (applyResponseFilter (visitLast "X-Env") ∅ (compileHeaderModifier filterResponseHeaderModifier
      twoSpellings))[canonicalKey "X-Env"]? = some ["prod"] ∧
    (applyResponseFilter (visitLast "x-env") ∅ (compileHeaderModifier filterResponseHeaderModifier
      twoSpellings))[canonicalKey "X-Env"]? = some ["test"] ∧
    ¬ FollowsHeaderFilter twoSpellings := by
  refine ⟨by decide, by decide, fun h => ?_⟩
  have hwrong := (h (visitLast "x-env") (fair_visitLast "x-env") (canonicalKey "X-Env")).2 ∅
  exact absurd hwrong (by decide)

end Krouter.Proxy
