import Mathlib.Data.List.Forall2

/-! Fallible steps in sequence: when a chain of them succeeds. -/

namespace Result
variable {ε α β : Type}

variable {f : α → Except ε β} {l : List α} {bs : List β}

theorem bind_eq_ok {x : Except ε α} {b : β} : (x >>= f) = .ok b ↔ ∃ a, x = .ok a ∧ f a = .ok b := by
  cases x with
  | error err => exact ⟨fun h => (by cases h), fun ⟨a, h, _⟩ => (by cases h)⟩
  | ok a => exact ⟨fun h => ⟨a, rfl, h⟩, fun ⟨a', ha, h⟩ => by cases ha; exact h⟩

theorem bind_eq_error {x : Except ε α} {err : ε} :
    (x >>= f) = .error err ↔ x = .error err ∨ ∃ a, x = .ok a ∧ f a = .error err := by
  cases x with
  | error e => simp [bind, Except.bind]
  | ok a => simp [bind, Except.bind]

theorem exists_ok_guard {c : Prop} [Decidable c] {err : ε} {x : Except ε α} :
    (∃ a, (if c then .error err else x) = .ok a) ↔ ¬ c ∧ ∃ a, x = .ok a := by
  split_ifs with hc <;> simp [hc]

theorem mapM_cons_eq_ok {a : α} :
    (a :: l).mapM f = .ok bs ↔ ∃ b rest, f a = .ok b ∧ l.mapM f = .ok rest ∧ bs = b :: rest := by
  rw [List.mapM_cons, bind_eq_ok]
  constructor
  · rintro ⟨b, hb, h⟩
    obtain ⟨rest, hrest, h⟩ := bind_eq_ok.mp h
    cases h
    exact ⟨b, rest, hb, hrest, rfl⟩
  · rintro ⟨b, rest, hb, hrest, rfl⟩
    exact ⟨b, hb, bind_eq_ok.mpr ⟨rest, hrest, rfl⟩⟩

theorem exists_mapM_eq_ok (h : ∀ a ∈ l, ∃ b, f a = .ok b) : ∃ bs, l.mapM f = .ok bs := by
  induction l with
  | nil => exact ⟨[], rfl⟩
  | cons a l ih =>
    obtain ⟨b, hb⟩ := h a (.head _)
    obtain ⟨rest, hrest⟩ := ih fun d hd => h d (List.mem_cons_of_mem a hd)
    exact ⟨b :: rest, mapM_cons_eq_ok.mpr ⟨b, rest, hb, hrest, rfl⟩⟩

theorem mapM_cons_eq_error {a : α} {err : ε} :
    (a :: l).mapM f = .error err ↔ f a = .error err ∨ ∃ b, f a = .ok b ∧ l.mapM f = .error err := by
  rw [List.mapM_cons, bind_eq_error]
  simp only [bind_eq_error, reduceCtorEq, and_false, exists_false, or_false, pure, Except.pure]

theorem mapM_eq_error {err : ε} : l.mapM f = .error err ↔ ∃ before a after, l = before ++ a :: after ∧
      (∀ c ∈ before, ∃ b, f c = .ok b) ∧ f a = .error err := by
  induction l with
  | nil =>
    constructor
    · intro h
      cases h
    · rintro ⟨before, a, after, h, -⟩
      exact absurd h (by simp)
  | cons c l ih =>
    rw [mapM_cons_eq_error, ih]
    constructor
    · rintro (hc | ⟨b, hb, before, a, after, rfl, hbefore, ha⟩)
      · exact ⟨[], c, l, rfl, fun _ hm => (by cases hm), hc⟩
      · exact ⟨c :: before, a, after, rfl, List.forall_mem_cons.mpr ⟨⟨b, hb⟩, hbefore⟩, ha⟩
    · rintro ⟨before, a, after, hl, hbefore, ha⟩
      cases before with
      | nil =>
        obtain ⟨rfl, -⟩ := List.cons.inj hl
        exact .inl ha
      | cons d before =>
        obtain ⟨rfl, hrest⟩ := List.cons.inj hl
        obtain ⟨⟨b, hb⟩, hbefore⟩ := List.forall_mem_cons.mp hbefore
        exact .inr ⟨b, hb, before, a, after, hrest, hbefore, ha⟩

theorem forall₂_of_mapM_eq_ok (h : l.mapM f = .ok bs) : List.Forall₂ (fun a b => f a = .ok b) l bs := by
  induction l generalizing bs with
  | nil =>
    cases h
    exact .nil
  | cons a l ih =>
    obtain ⟨b, rest, hb, hrest, rfl⟩ := mapM_cons_eq_ok.mp h
    exact .cons hb (ih hrest)

theorem exists_left_of_mem {R : α → β → Prop} {m : List β} (h : List.Forall₂ R l m) {b : β} (hb : b ∈ m) :
    ∃ a ∈ l, R a b := by
  induction h with
  | nil => cases hb
  | @cons a b' l m hr _ ih =>
    rcases List.mem_cons.mp hb with rfl | hb
    · exact ⟨a, .head _, hr⟩
    · obtain ⟨a', ha', hr'⟩ := ih hb
      exact ⟨a', List.mem_cons_of_mem a ha', hr'⟩

theorem exists_of_mapM_eq_ok (h : l.mapM f = .ok bs) {a : α} (ha : a ∈ l) : ∃ b, f a = .ok b := by
  obtain ⟨b, -, hb⟩ := exists_left_of_mem (forall₂_of_mapM_eq_ok h).flip ha
  exact ⟨b, hb⟩

theorem mem_of_mapM_eq_ok (h : l.mapM f = .ok bs) {b : β} (hb : b ∈ bs) : ∃ a ∈ l, f a = .ok b :=
  exists_left_of_mem (forall₂_of_mapM_eq_ok h) hb

theorem map_of_mapM_eq_ok {γ : Type} {g : β → γ} {g' : α → γ} (h : l.mapM f = .ok bs)
    (hg : ∀ a b, f a = .ok b → g b = g' a) : bs.map g = l.map g' := by
  induction l generalizing bs with
  | nil =>
    cases h
    rfl
  | cons a l ih =>
    obtain ⟨b, rest, hb, hrest, rfl⟩ := mapM_cons_eq_ok.mp h
    rw [List.map_cons, List.map_cons, hg a b hb, ih hrest]

end Result
