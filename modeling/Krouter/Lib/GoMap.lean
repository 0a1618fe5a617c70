import Mathlib.Data.List.Basic

/-! Go maps as extensional finite maps: `toList` is the order in which `encoding/json` and sorted loops
visit them, and any other loop over a map visits a permutation of it. -/

set_option linter.unusedSectionVars false

open Std

abbrev GoMap (K V : Type) [Ord K] := ExtTreeMap K V compare

/-- Headers, and the claims of a token. -/
instance : DecidableEq (GoMap String (List String)) := inferInstance

namespace GoMap
variable {K V W σ : Type} [Ord K] [TransOrd K] [LawfulEqOrd K]

variable (m : GoMap K V) {k : K} {v : V} {l : List (K × V)}

theorem get_insert [DecidableEq K] (k a : K) (v : V) : (m.insert k v)[a]? = if k = a then some v else m[a]? := by
  rw [ExtTreeMap.getElem?_insert]
  by_cases h : k = a
  · rw [if_pos h, if_pos (Std.compare_eq_iff_eq.mpr h)]
  · rw [if_neg h, if_neg (fun hc => h (Std.compare_eq_iff_eq.mp hc))]

@[simp] theorem get_insert_self (k : K) (v : V) : (m.insert k v)[k]? = some v :=
  ExtTreeMap.getElem?_insert_self

theorem get_insert_of_ne {k a : K} (v : V) (h : k ≠ a) : (m.insert k v)[a]? = m[a]? := by
  rw [ExtTreeMap.getElem?_insert, if_neg (fun hc => h (Std.compare_eq_iff_eq.mp hc))]

theorem insert_pair_again (a b : K) (x y x' y' : V) :
    (((m.insert a x).insert b y).insert a x').insert b y' = (m.insert a x').insert b y' := by
  classical
  refine ExtTreeMap.ext_getElem? fun k => ?_
  simp only [get_insert]
  split_ifs <;> rfl

theorem get_erase [DecidableEq K] (k a : K) : (m.erase k)[a]? = if k = a then none else m[a]? := by
  rw [ExtTreeMap.getElem?_erase]
  by_cases h : k = a
  · rw [if_pos h, if_pos (Std.compare_eq_iff_eq.mpr h)]
  · rw [if_neg h, if_neg (fun hc => h (Std.compare_eq_iff_eq.mp hc))]

@[simp] theorem get_empty (k : K) : (∅ : GoMap K V)[k]? = none := ExtTreeMap.getElem?_empty

theorem mem_toList {m : GoMap K V} : (k, v) ∈ m.toList ↔ m[k]? = some v :=
  ExtTreeMap.mem_toList_iff_getElem?_eq_some

theorem toList_keys_nodup : (m.toList.map Prod.fst).Nodup := by
  rw [List.Nodup, List.pairwise_map]
  exact ExtTreeMap.distinct_keys_toList.imp fun h he => h (Std.compare_eq_iff_eq.mpr he)

theorem get_map (f : K → V → W) (k : K) : (m.map f)[k]? = m[k]?.map (f k) :=
  ExtTreeMap.getElem?_map

/-- Reading a missing key of a Go map gives the zero value of its element type. -/
def read (m : GoMap K V) (k : K) (zero : V) : V := m[k]?.getD zero

theorem read_of_get {m : GoMap K V} (h : m[k]? = some v) (zero : V) : m.read k zero = v := by
  rw [read, h, Option.getD_some]

/-- `for k, v := range m { out[k] = v }`, whatever the order of the visit. -/
def setAll (m : GoMap K V) (l : List (K × V)) : GoMap K V := l.foldl (fun acc p => acc.insert p.1 p.2) m

theorem setAll_cons (p : K × V) (l : List (K × V)) : setAll m (p :: l) = setAll (m.insert p.1 p.2) l := rfl

theorem get_setAll_of_notMem (h : k ∉ l.map Prod.fst) : (setAll m l)[k]? = m[k]? := by
  induction l generalizing m with
  | nil => rfl
  | cons p l ih =>
    simp only [List.map_cons, List.mem_cons, not_or] at h
    rw [setAll_cons, ih _ h.2, get_insert_of_ne _ _ (Ne.symm h.1)]

theorem get_setAll_of_mem (hn : (l.map Prod.fst).Nodup) (h : (k, v) ∈ l) : (setAll m l)[k]? = some v := by
  induction l generalizing m with
  | nil => cases h
  | cons p l ih =>
    rw [List.map_cons, List.nodup_cons] at hn
    rw [setAll_cons]
    rcases List.mem_cons.mp h with rfl | h
    · rw [get_setAll_of_notMem _ hn.1, get_insert_self]
    · exact ih _ hn.2 h

theorem get_setAll_mem (h : k ∈ l.map Prod.fst) : ∃ v, (setAll m l)[k]? = some v := by
  induction l generalizing m with
  | nil => cases h
  | cons p l ih =>
    by_cases hk : k ∈ l.map Prod.fst
    · exact ih _ hk
    · obtain rfl : k = p.1 := (List.mem_cons.mp h).resolve_right hk
      exact ⟨p.2, by rw [setAll_cons, get_setAll_of_notMem _ hk, get_insert_self]⟩

theorem get_setAll_iff : (setAll m l)[k]? = some v ↔ (∃ before after, l = before ++ (k, v) :: after ∧
      k ∉ after.map Prod.fst) ∨ k ∉ l.map Prod.fst ∧ m[k]? = some v := by
  constructor
  · induction l generalizing m with
    | nil => exact fun h => .inr ⟨List.not_mem_nil, h⟩
    | cons p l ih =>
      intro h
      rcases ih (m.insert p.1 p.2) h with ⟨before, after, rfl, ha⟩ | ⟨hl, hm⟩
      · exact .inl ⟨p :: before, after, rfl, ha⟩
      · by_cases hk : p.1 = k
        · subst hk
          rw [get_insert_self] at hm
          exact .inl ⟨[], l, by rw [← Option.some.inj hm]; rfl, hl⟩
        · rw [get_insert_of_ne _ _ hk] at hm
          exact .inr ⟨by simpa using ⟨Ne.symm hk, by simpa using hl⟩, hm⟩
  · rintro (⟨before, after, rfl, ha⟩ | ⟨hl, hm⟩)
    · rw [setAll, List.foldl_append, ← setAll, ← setAll, setAll_cons, get_setAll_of_notMem _ ha,
        get_insert_self]
    · rw [get_setAll_of_notMem _ hl, hm]

/-- Assignments that agree on the keys they repeat are the entries of the map they build. -/
theorem get_setAll_empty (h : ∀ v', (k, v) ∈ l → (k, v') ∈ l → v' = v) :
    (setAll ∅ l)[k]? = some v ↔ (k, v) ∈ l := by
  constructor
  · intro hs
    rcases (get_setAll_iff ∅).mp hs with ⟨before, after, rfl, -⟩ | ⟨-, he⟩
    · simp
    · rw [get_empty] at he
      cases he
  · intro hm
    obtain ⟨v', hv'⟩ := get_setAll_mem ∅ (List.mem_map.mpr ⟨(k, v), hm, rfl⟩)
    rcases (get_setAll_iff ∅).mp hv' with ⟨before, after, hl, -⟩ | ⟨-, he⟩
    · rw [hv', h v' hm (by simp [hl])]
    · rw [get_empty] at he
      cases he

theorem setAll_empty_eq {m : GoMap K V} (h : ∀ k v, (k, v) ∈ l ↔ m[k]? = some v) : setAll ∅ l = m := by
  apply ExtTreeMap.ext_getElem?
  intro k
  apply Option.ext
  intro v
  rw [get_setAll_empty, h]
  intro v' h1 h2
  exact Option.some.inj (((h k v').mp h2).symm.trans ((h k v).mp h1))

theorem get_setAll_congr {a b : GoMap K V} (h : a[k]? = b[k]?) (l : List (K × V)) :
    (a.setAll l)[k]? = (b.setAll l)[k]? := by
  apply Option.ext
  intro v
  rw [get_setAll_iff, get_setAll_iff, h]

theorem setAll_empty_toList : setAll ∅ m.toList = m :=
  setAll_empty_eq fun _ _ => mem_toList

theorem setAll_toList (m o : GoMap K V) (k : K) : (setAll m o.toList)[k]? = o[k]?.or m[k]? := by
  cases h : o[k]? with
  | some v => exact get_setAll_of_mem _ (toList_keys_nodup o) (mem_toList.mpr h)
  | none =>
    rw [get_setAll_of_notMem, Option.none_or]
    intro hk
    obtain ⟨⟨k', v⟩, hm, rfl⟩ := List.mem_map.mp hk
    rw [mem_toList.mp hm] at h
    cases h

/-- Of several maps merged into one the last that has a key decides. -/
theorem get_foldl_setAll {ι : Type*} (f : ι → GoMap K V) (ms : List ι) (d : GoMap K V) (k : K) :
    (ms.foldl (fun d m => setAll d (f m).toList) d)[k]? =
      (ms.filterMap fun m => (f m)[k]?).getLast?.or d[k]? := by
  induction ms generalizing d with
  | nil => rfl
  | cons m ms ih =>
    rw [List.foldl_cons, ih, setAll_toList, List.filterMap_cons]
    cases (f m)[k]? with
    | none => rfl
    | some v =>
      rw [List.getLast?_cons, Option.some_or, Option.some_or]
      cases (ms.filterMap fun m => (f m)[k]?).getLast? <;> rfl

end GoMap
