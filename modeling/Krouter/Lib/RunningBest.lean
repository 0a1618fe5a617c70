import Mathlib.Data.List.Induction
import Mathlib.Data.List.Sort
import Mathlib.Order.Lattice

/-! Loops that keep a running best: the first of the greatest elements of a list, and the
greatest value of those that pass a test. -/

namespace RunningBest
variable {α κ : Type} [LinearOrder κ]

def keepBest (beats : α → α → Bool) : Option α → α → Option α
  | none, c => some c
  | some b, c => if beats c b then some c else some b

def FirstMax (key : α → κ) (l : List α) (c : α) : Prop :=
  ∃ before after, l = before ++ c :: after ∧ (∀ d ∈ before, key d < key c) ∧
    ∀ d ∈ after, key d ≤ key c

variable {key : α → κ} {l : List α} {c : α} {beats : α → α → Bool}

theorem FirstMax.mem (h : FirstMax key l c) : c ∈ l := by
  obtain ⟨before, after, rfl, -⟩ := h
  simp

theorem FirstMax.le {d : α} (h : FirstMax key l c) (hd : d ∈ l) : key d ≤ key c := by
  obtain ⟨before, after, rfl, hb, ha⟩ := h
  rcases List.mem_append.mp hd with hd | hd
  · exact (hb d hd).le
  · rcases List.mem_cons.mp hd with rfl | hd
    · exact le_rfl
    · exact ha d hd

theorem FirstMax.unique {d : α} (hc : FirstMax key l c) (hd : FirstMax key l d) : c = d := by
  have hcd := hc.le hd.mem
  have hdc := hd.le hc.mem
  obtain ⟨before, after, rfl, hb, -⟩ := hc
  obtain ⟨before', after', he, hb', -⟩ := hd
  rcases List.append_eq_append_iff.mp he with ⟨t, rfl, ht⟩ | ⟨t, rfl, ht⟩
  · cases t with
    | nil => exact (List.cons.inj ht).1
    | cons x t =>
      obtain ⟨rfl, -⟩ := List.cons.inj ht
      exact absurd (hb' c (by simp)) (not_lt.mpr hcd)
  · cases t with
    | nil => exact (List.cons.inj ht).1.symm
    | cons x t =>
      obtain ⟨rfl, -⟩ := List.cons.inj ht
      exact absurd (hb d (by simp)) (not_lt.mpr hdc)

theorem FirstMax.concat_of_lt {x : α} (hc : FirstMax key l c) (h : key c < key x) : FirstMax key (l ++ [x]) x :=
  ⟨l, [], rfl, fun _ hd => (hc.le hd).trans_lt h, fun _ hd => by cases hd⟩

theorem FirstMax.concat_of_le {x : α} (hc : FirstMax key l c) (h : key x ≤ key c) :
    FirstMax key (l ++ [x]) c := by
  obtain ⟨before, after, rfl, hb, ha⟩ := hc
  refine ⟨before, after ++ [x], by simp, hb, fun d hd => ?_⟩
  rcases List.mem_append.mp hd with hd | hd
  · exact ha d hd
  · rw [List.mem_singleton.mp hd]
    exact h

theorem mem_of_foldl {f : Option α → α → Option α} (hf : ∀ best a, f best a = best ∨ f best a = some a)
    {best : Option α} (h : l.foldl f best = some c) : best = some c ∨ c ∈ l := by
  induction l generalizing best with
  | nil => exact .inl h
  | cons a l ih =>
    rcases ih h with h | h
    · rcases hf best a with hb | hb
      · exact .inl (hb.symm.trans h)
      · cases hb.symm.trans h
        exact .inr (.head _)
    · exact .inr (List.mem_cons_of_mem a h)

theorem keepBest_or (beats : α → α → Bool) (best : Option α) (a : α) :
    keepBest beats best a = best ∨ keepBest beats best a = some a := by
  cases best with
  | none => exact .inr rfl
  | some b =>
    rw [keepBest]
    split_ifs
    · exact .inr rfl
    · exact .inl rfl

theorem mem_of_foldl_keepBest (h : l.foldl (keepBest beats) none = some c) : c ∈ l :=
  (mem_of_foldl (keepBest_or beats) h).resolve_left (by simp)

theorem foldl_keepBest (key : α → κ) (l : List α) (h : ∀ c ∈ l, ∀ b ∈ l, beats c b = true ↔ key b < key c) :
    (l = [] ∧ l.foldl (keepBest beats) none = none) ∨
      ∃ c, FirstMax key l c ∧ l.foldl (keepBest beats) none = some c := by
  induction l using List.reverseRecOn with
  | nil => exact .inl ⟨rfl, rfl⟩
  | append_singleton l x ih =>
    rw [List.foldl_append, List.foldl_cons, List.foldl_nil]
    have hl : ∀ c ∈ l, ∀ b ∈ l, beats c b = true ↔ key b < key c := fun c hc b hb =>
      h c (List.mem_append_left _ hc) b (List.mem_append_left _ hb)
    rcases ih hl with ⟨rfl, hn⟩ | ⟨c, hc, hs⟩
    · rw [hn]
      exact .inr ⟨x, ⟨[], [], rfl, fun _ hd => (by cases hd), fun _ hd => (by cases hd)⟩, rfl⟩
    · have hx := h x (by simp) c (List.mem_append_left _ hc.mem)
      rw [hs, keepBest]
      split_ifs with hb
      · exact .inr ⟨x, hc.concat_of_lt (hx.mp hb), rfl⟩
      · exact .inr ⟨c, hc.concat_of_le (not_lt.mp fun hlt => hb (hx.mpr hlt)), rfl⟩

theorem foldl_keepBest_eq_some_iff (key : α → κ) (h : ∀ c ∈ l, ∀ b ∈ l, beats c b = true ↔ key b < key c) :
    l.foldl (keepBest beats) none = some c ↔ FirstMax key l c := by
  rcases foldl_keepBest key l h with ⟨rfl, hn⟩ | ⟨d, hd, hs⟩
  · rw [hn]
    refine ⟨fun hc => (by cases hc), fun hc => ?_⟩
    cases hc.mem
  · rw [hs]
    refine ⟨fun hc => ?_, fun hc => by rw [hd.unique hc]⟩
    rwa [← Option.some.inj hc]

theorem foldl_keepBest_map {β : Type} (f : α → β) (beats : β → β → Bool) (l : List α)
    (best : Option α) : l.foldl (fun best x => keepBest beats best (f x)) (best.map f) =
      (l.foldl (keepBest fun x y => beats (f x) (f y)) best).map f := by
  induction l generalizing best with
  | nil => rfl
  | cons x l ih =>
    rw [List.foldl_cons, List.foldl_cons, ← ih]
    congr 1
    cases best with
    | none => rfl
    | some b => exact (apply_ite (Option.map f) (beats (f x) (f b) = true) (some x) (some b)).symm

theorem foldl_keepMax (p : α → Bool) (f : α → κ) (l : List α) (b : κ) :
    l.foldl (fun best x => if p x = true ∧ best < f x then f x else best) b =
      ((l.filter p).map f).foldl max b := by
  induction l generalizing b with
  | nil => rfl
  | cons x l ih =>
    rw [List.foldl_cons, ih]
    by_cases hp : p x = true
    · rw [List.filter_cons_of_pos hp, List.map_cons, List.foldl_cons]
      congr 1
      by_cases hlt : b < f x
      · rw [if_pos ⟨hp, hlt⟩, max_eq_right hlt.le]
      · rw [if_neg fun hc => hlt hc.2, max_eq_left (not_lt.mp hlt)]
    · rw [List.filter_cons_of_neg hp, if_neg fun hc => hp hc.1]

theorem foldl_keepPair (p : α → Bool) (f : α → κ) {lo : κ} (hlo : ∀ a, lo < f a) (l : List α)
    (best : Option α) :
    (l.foldl (fun best x => if p x = true ∧ best.2 < f x then (some x, f x) else best)
      (best, best.elim lo f)).1 = (l.filter p).foldl (keepBest fun x b => f b < f x) best := by
  induction l generalizing best with
  | nil => rfl
  | cons x l ih =>
    rw [List.foldl_cons]
    by_cases hp : p x = true
    · rw [List.filter_cons_of_pos hp, List.foldl_cons, ← ih]
      congr 1
      cases best with
      | none => exact congrArg (fun s => l.foldl _ s) (if_pos ⟨hp, hlo x⟩)
      | some b =>
        by_cases hlt : f b < f x
        · simp [keepBest, hp, hlt]
        · simp [keepBest, hlt]
    · rw [List.filter_cons_of_neg hp, if_neg fun hc => hp hc.1]
      exact ih best

theorem le_foldl_max {l : List κ} {b : κ} : b ≤ l.foldl max b ∧ ∀ x ∈ l, x ≤ l.foldl max b := by
  induction l generalizing b with
  | nil => exact ⟨le_rfl, fun x hx => by cases hx⟩
  | cons y l ih =>
    obtain ⟨hb, hl⟩ := ih (b := max b y)
    refine ⟨(le_max_left b y).trans hb, fun x hx => ?_⟩
    rcases List.mem_cons.mp hx with rfl | hx
    · exact (le_max_right b x).trans hb
    · exact hl x hx

theorem foldl_max_mem {l : List κ} {b : κ} : l.foldl max b = b ∨ l.foldl max b ∈ l := by
  induction l generalizing b with
  | nil => exact .inl rfl
  | cons y l ih =>
    rw [List.foldl_cons]
    rcases ih (b := max b y) with h | h
    · rw [h]
      rcases le_total y b with hm | hm
      · exact .inl (max_eq_left hm)
      · exact .inr (by rw [max_eq_right hm]; exact .head _)
    · exact .inr (List.mem_cons_of_mem y h)

theorem FirstMax.map {β : Type} {key : β → κ} {f : α → β} (h : FirstMax (fun a => key (f a)) l c) :
    FirstMax key (l.map f) (f c) := by
  obtain ⟨before, after, rfl, hb, ha⟩ := h
  exact ⟨before.map f, after.map f, by simp, List.forall_mem_map.mpr hb, List.forall_mem_map.mpr ha⟩

theorem FirstMax.foldl_max {b : κ} (h : FirstMax key l c) (hb : ∀ a, b ≤ key a) :
    (l.map key).foldl max b = key c := by
  refine le_antisymm ?_ (le_foldl_max.2 _ (List.mem_map_of_mem h.mem))
  rcases foldl_max_mem (l := l.map key) (b := b) with hm | hm
  · exact hm.trans_le (hb c)
  · obtain ⟨d, hd, he⟩ := List.mem_map.mp hm
    exact he ▸ h.le hd

theorem ite_ne_iff {σ : Type} [DecidableEq σ] {s t : σ} {lt rest : Bool} (h : s = t → lt = false) :
    (if t ≠ s then lt else rest) = true ↔ lt = true ∨ s = t ∧ rest = true := by
  by_cases he : s = t
  · rw [if_neg (not_not_intro he.symm), h he]
    simp [he]
  · rw [if_pos (Ne.symm he)]
    simp [he]

section
variable {σ : Type} [LinearOrder σ] {code : σ → κ → Prop}

/-- The codes compare as the values they stand for. -/
def Encodes (code : σ → κ → Prop) : Prop :=
  ∀ s a t b, code s a → code t b → (s < t ↔ a < b)

theorem Encodes.le_iff (hc : Encodes code) {s t : σ} {a b : κ} (hs : code s a) (ht : code t b) :
    s ≤ t ↔ a ≤ b := by
  rw [← not_lt, ← not_lt, hc t b s a ht hs]

theorem Encodes.eq_iff (hc : Encodes code) {s t : σ} {a b : κ} (hs : code s a) (ht : code t b) :
    s = t ↔ a = b := by
  rw [le_antisymm_iff, le_antisymm_iff, hc.le_iff hs ht, hc.le_iff ht hs]

theorem Encodes.max (hc : Encodes code) {s t : σ} {a b : κ} (hs : code s a) (ht : code t b) :
    code (max s t) (max a b) := by
  rcases le_total s t with hle | hle
  · rw [max_eq_right hle, max_eq_right ((hc.le_iff hs ht).mp hle)]
    exact ht
  · rw [max_eq_left hle, max_eq_left ((hc.le_iff ht hs).mp hle)]
    exact hs

theorem Encodes.foldl_max (hc : Encodes code) {f : α → σ} {g : α → κ}
    (hl : ∀ x ∈ l, code (f x) (g x)) {s : σ} {a : κ} (hs : code s a) :
    code ((l.map f).foldl Max.max s) ((l.map g).foldl Max.max a) := by
  induction l generalizing s a with
  | nil => exact hs
  | cons x l ih =>
    exact ih (fun y hy => hl y (List.mem_cons_of_mem x hy))
      (hc.max hs (hl x (.head _)))

end

/-! ## Stable sorting -/

theorem FirstMax.cons_of_lt {x : α} (hc : FirstMax key l c)
    (h : key x < key c) : FirstMax key (x :: l) c := by
  obtain ⟨before, after, rfl, hb, ha⟩ := hc
  exact ⟨x :: before, after, rfl, List.forall_mem_cons.mpr ⟨h, hb⟩, ha⟩

theorem FirstMax.cons_of_le {x : α} (h : ∀ d ∈ l, key d ≤ key x) :
    FirstMax key (x :: l) x :=
  ⟨[], l, rfl, fun _ hd => (by cases hd), h⟩

theorem firstMax_head_iff {x : α} :
    FirstMax key (x :: l) x ↔ ∀ d ∈ l, key d ≤ key x :=
  ⟨fun h _ hd => h.le (List.mem_cons_of_mem x hd), FirstMax.cons_of_le⟩

/-- Sorting by decreasing key, equal keys in their order. -/
def sortDown (key : α → κ) (l : List α) : List α := l.insertionSort fun a b => key b ≤ key a

variable {key : α → κ} {p : α → Bool}

theorem find?_orderedInsert_of_lt {a : α} (hl : l.Pairwise fun a b => key b ≤ key a)
    (hc : l.find? p = some c) (h : key a < key c) :
    (l.orderedInsert (fun a b => key b ≤ key a) a).find? p = some c := by
  induction l with
  | nil => cases hc
  | cons b l ih =>
    obtain ⟨hb, hl⟩ := List.pairwise_cons.mp hl
    have hcb : key c ≤ key b := by
      rcases List.mem_cons.mp (List.mem_of_find?_eq_some hc) with rfl | hm
      · exact le_rfl
      · exact hb c hm
    rw [List.orderedInsert_cons, if_neg (not_le.mpr (h.trans_le hcb))]
    cases hp : p b with
    | true => rwa [List.find?_cons_of_pos hp] at hc ⊢
    | false =>
      rw [List.find?_cons_of_neg (by simp [hp])] at hc ⊢
      exact ih hl hc

theorem find?_orderedInsert_of_le {a : α} (ha : p a = true)
    (h : ∀ c ∈ l, p c = true → key c ≤ key a) :
    (l.orderedInsert (fun a b => key b ≤ key a) a).find? p = some a := by
  induction l with
  | nil => simp [ha]
  | cons b l ih =>
    rw [List.orderedInsert_cons]
    split_ifs with hb
    · rw [List.find?_cons_of_pos ha]
    · rw [List.find?_cons_of_neg fun hp => hb (h b (.head _) hp)]
      exact ih fun c hc => h c (List.mem_cons_of_mem b hc)

theorem find?_orderedInsert_of_neg {r : α → α → Prop} [DecidableRel r] {a : α}
    (ha : ¬ p a = true) : (l.orderedInsert r a).find? p = l.find? p := by
  induction l with
  | nil => simp [ha]
  | cons b l ih =>
    rw [List.orderedInsert_cons]
    split_ifs
    · rw [List.find?_cons_of_neg ha]
    · rw [List.find?_cons, List.find?_cons, ih]

theorem pairwise_sortDown (key : α → κ) (l : List α) :
    (sortDown key l).Pairwise fun a b => key b ≤ key a := by
  have : Std.Total fun a b : α => key b ≤ key a := ⟨fun a b => le_total (key b) (key a)⟩
  have : IsTrans α fun a b => key b ≤ key a := ⟨fun _ _ _ hab hbc => hbc.trans hab⟩
  exact List.pairwise_insertionSort _ l

theorem find?_sortDown (key : α → κ) (p : α → Bool) (l : List α) :
    (l.filter p = [] ∧ (sortDown key l).find? p = none) ∨
      ∃ c, FirstMax key (l.filter p) c ∧ (sortDown key l).find? p = some c := by
  induction l with
  | nil => exact .inl ⟨rfl, rfl⟩
  | cons a l ih =>
    have hsort : sortDown key (a :: l) = (sortDown key l).orderedInsert (fun a b => key b ≤ key a) a :=
      List.insertionSort_cons ..
    rw [hsort]
    by_cases ha : p a = true
    · rw [List.filter_cons_of_pos ha]
      right
      -- `a` goes before the sorted matches exactly when none of them is greater
      rcases ih with ⟨hnil, hn⟩ | ⟨c, hc, hs⟩
      · refine ⟨a, FirstMax.cons_of_le fun d hd => by simp [hnil] at hd,
          find?_orderedInsert_of_le ha fun d hd hp => ?_⟩
        exact absurd hp (List.find?_eq_none.mp hn d hd)
      · by_cases hac : key a < key c
        · exact ⟨c, hc.cons_of_lt hac, find?_orderedInsert_of_lt (pairwise_sortDown key l) hs hac⟩
        · have hle : ∀ d ∈ l.filter p, key d ≤ key a := fun d hd =>
            (hc.le hd).trans (not_lt.mp hac)
          refine ⟨a, FirstMax.cons_of_le hle, find?_orderedInsert_of_le ha fun d hd hp => ?_⟩
          exact hle d (List.mem_filter.mpr ⟨(List.mem_insertionSort _).mp hd, hp⟩)
    · rw [List.filter_cons_of_neg ha, find?_orderedInsert_of_neg ha]
      exact ih

theorem find?_sortDown_eq_some_iff :
    (sortDown key l).find? p = some c ↔ FirstMax key (l.filter p) c := by
  rcases find?_sortDown key p l with ⟨hnil, hn⟩ | ⟨d, hd, hs⟩
  · rw [hn]
    refine ⟨fun h => (by cases h), fun h => ?_⟩
    have := h.mem
    simp [hnil] at this
  · rw [hs]
    refine ⟨fun h => Option.some.inj h ▸ hd, fun h => by rw [hd.unique h]⟩

end RunningBest
