import Mathlib.Data.List.Forall2

/-! Fallible steps over a state that keeps its changes when a later step fails. -/

abbrev Attempt (σ ε α : Type) := ExceptT ε (StateM σ) α

namespace Attempt
variable {σ ε α β : Type}

def eval (x : Attempt σ ε α) (s : σ) : Except ε α × σ := x.run.run s

def ofResult (x : Except ε α) : Attempt σ ε α := ExceptT.mk (pure x)

def require (o : Option α) (missing : ε) : Attempt σ ε α :=
  match o with
  | none => throw missing
  | some a => pure a

@[simp] theorem eval_ofResult (x : Except ε α) (s : σ) : eval (ofResult x) s = (x, s) := rfl

@[simp] theorem eval_pure (a : α) (s : σ) : eval (pure a : Attempt σ ε α) s = (.ok a, s) := rfl

@[simp] theorem eval_throw (e : ε) (s : σ) : eval (throw e : Attempt σ ε α) s = (.error e, s) := rfl

@[simp] theorem eval_modify (f : σ → σ) (s : σ) : eval (modify f : Attempt σ ε Unit) s = (.ok (), f s) := rfl

theorem eval_bind (x : Attempt σ ε α) (f : α → Attempt σ ε β) (s : σ) : eval (x >>= f) s =
    match eval x s with
    | (.ok a, t) => eval (f a) t
    | (.error e, t) => (.error e, t) := by
  show (match x.run.run s with | (a, t) => ExceptT.bindCont f a t) = _
  unfold eval
  generalize x.run.run s = r
  obtain ⟨result, t⟩ := r
  cases result <;> rfl

variable {f : α → Attempt σ ε β} {s t : σ} {a : α}

theorem bind_ok {x : Attempt σ ε α} {b : β} :
    eval (x >>= f) s = (.ok b, t) ↔ ∃ a r, eval x s = (.ok a, r) ∧ eval (f a) r = (.ok b, t) := by
  rw [eval_bind]
  generalize eval x s = y
  obtain ⟨result, r⟩ := y
  cases result with
  | error e =>
    constructor
    · intro h
      cases h
    · rintro ⟨a, r', h, -⟩
      cases h
  | ok a =>
    constructor
    · exact fun h => ⟨a, r, rfl, h⟩
    · rintro ⟨a', r', h, h'⟩
      cases h
      exact h'

theorem ofResult_ok {x : Except ε α} : eval (ofResult x) s = (.ok a, t) ↔ x = .ok a ∧ t = s := by
  rw [eval_ofResult, Prod.mk.injEq, eq_comm (b := t)]

theorem require_ok {o : Option α} {missing : ε} : eval (require o missing) s = (.ok a, t) ↔ o = some a ∧ t = s := by
  cases o with
  | none => simp [require]
  | some b => simp [require, eq_comm (b := t)]

def Keeps (R : σ → σ → Prop) (x : Attempt σ ε α) : Prop := ∀ s, R s (eval x s).2

section
variable {R : σ → σ → Prop}

theorem Keeps.of_eval {x : Attempt σ ε α} {r : Except ε α} (h : Keeps R x) (heval : eval x s = (r, t)) : R s t := by
  have hs := h s
  rwa [heval] at hs

theorem Keeps.pure [Std.Refl R] (a : α) : Keeps R (pure a : Attempt σ ε α) := fun s => Std.Refl.refl s

theorem Keeps.throw [Std.Refl R] (e : ε) : Keeps R (throw e : Attempt σ ε α) := fun s => Std.Refl.refl s

theorem Keeps.ofResult [Std.Refl R] (x : Except ε α) : Keeps R (ofResult x) := fun s => Std.Refl.refl s

theorem Keeps.require [Std.Refl R] (o : Option α) (missing : ε) :
    Keeps R (require o missing : Attempt σ ε α) := by
  cases o
  · exact Keeps.throw missing
  · exact Keeps.pure _

theorem Keeps.modify {f : σ → σ} (h : ∀ s, R s (f s)) : Keeps R (modify f : Attempt σ ε Unit) := h

theorem Keeps.bind [IsTrans σ R] {x : Attempt σ ε α} (hx : Keeps R x)
    (hf : ∀ a, Keeps R (f a)) : Keeps R (x >>= f) := by
  intro s
  rw [eval_bind]
  have h := hx s
  generalize eval x s = y at h
  obtain ⟨result, t⟩ := y
  cases result with
  | error e => exact h
  | ok a => exact IsTrans.trans _ _ _ h (hf a t)

theorem Keeps.mapM [Std.Refl R] [IsTrans σ R] (hf : ∀ a, Keeps R (f a))
    (l : List α) : Keeps R (l.mapM f) := by
  induction l with
  | nil => exact Keeps.pure []
  | cons a l ih =>
    rw [List.mapM_cons]
    exact (hf a).bind fun b => ih.bind fun bs => Keeps.pure (b :: bs)

end

theorem mapM_cons_ok {l : List α} {bs : List β} :
    eval ((a :: l).mapM f) s = (.ok bs, t) ↔ ∃ b rest r, eval (f a) s = (.ok b, r) ∧
      eval (l.mapM f) r = (.ok rest, t) ∧ bs = b :: rest := by
  rw [List.mapM_cons, bind_ok]
  constructor
  · rintro ⟨b, r, hb, h⟩
    obtain ⟨rest, r', hrest, h⟩ := bind_ok.mp h
    rw [eval_pure] at h
    cases h
    exact ⟨b, rest, r, hb, hrest, rfl⟩
  · rintro ⟨b, rest, r, hb, hrest, rfl⟩
    exact ⟨b, r, hb, bind_ok.mpr ⟨rest, t, hrest, rfl⟩⟩

/-- What each step shows of its input and result still holds in the last state, if later
steps keep it. -/
theorem forall₂_of_mapM_ok {R : σ → σ → Prop} [Std.Refl R] [IsTrans σ R]
    {P : α → β → σ → Prop} (hstep : ∀ a s b t, eval (f a) s = (.ok b, t) → P a b t)
    (hkeep : ∀ a, Keeps R (f a)) (hmono : ∀ a b s t, R s t → P a b s → P a b t) {l : List α} {bs : List β} (h : eval (l.mapM f) s = (.ok bs, t)) : List.Forall₂ (fun a b => P a b t) l bs := by
  induction l generalizing s bs with
  | nil =>
    rw [List.mapM_nil, eval_pure] at h
    cases h
    exact .nil
  | cons a l ih =>
    obtain ⟨b, rest, r, hb, hrest, rfl⟩ := mapM_cons_ok.mp h
    exact .cons (hmono a b r t ((Keeps.mapM hkeep l).of_eval hrest) (hstep a s b r hb)) (ih hrest)

end Attempt
