import Mathlib.Data.List.Basic

/-! Programs that change a store one call at a time. A call may fail, without effect. A run keeps the
stores its calls went through, so that a statement can be about every moment. -/

namespace Calls

structure Run (σ ε α : Type) where
  result : Except ε α
  store : σ
  /-- The store after each call that changed it, oldest first. -/
  visited : List σ

def Program (κ σ ε α : Type) := (κ → Bool) → σ → Run σ ε α

variable {κ σ ε α β : Type}

namespace Program

def ret (a : α) : Program κ σ ε α := fun _ s => ⟨.ok a, s, []⟩

def fail (e : ε) : Program κ σ ε α := fun _ s => ⟨.error e, s, []⟩

def andThen (m : Program κ σ ε α) (f : α → Program κ σ ε β) : Program κ σ ε β := fun fails s =>
  match m fails s with
  | ⟨.error e, t, visited⟩ => ⟨.error e, t, visited⟩
  | ⟨.ok a, t, visited⟩ =>
    match f a fails t with
    | ⟨result, t', visited'⟩ => ⟨result, t', visited ++ visited'⟩

instance : Monad (Program κ σ ε) where
  pure := ret
  bind := andThen

def attempt (m : Program κ σ ε α) : Program κ σ ε (Except ε α) := fun fails s =>
  match m fails s with
  | ⟨result, t, visited⟩ => ⟨.ok result, t, visited⟩

def query (unavailable : ε) (call : κ) (f : σ → Except ε α) : Program κ σ ε α := fun fails s =>
  if fails call then ⟨.error unavailable, s, []⟩ else ⟨f s, s, []⟩

def perform (unavailable : ε) (call : κ) (f : σ → Except ε σ) : Program κ σ ε Unit := fun fails s =>
  if fails call then ⟨.error unavailable, s, []⟩
  else match f s with
    | .error e => ⟨.error e, s, []⟩
    | .ok t => ⟨.ok (), t, [t]⟩

def forEach (l : List α) (body : α → Program κ σ ε Unit) : Program κ σ ε Unit :=
  match l with
  | [] => pure ()
  | a :: l => do
    body a
    forEach l body

theorem bind_assoc {γ : Type} (m : Program κ σ ε α) (f : α → Program κ σ ε β) (g : β → Program κ σ ε γ) :
    (m >>= f) >>= g = m >>= fun a => f a >>= g := by
  funext fails s
  simp only [Bind.bind, andThen]
  rcases m fails s with ⟨result, t, visited⟩
  cases result with
  | error e => rfl
  | ok a =>
    dsimp only
    rcases f a fails t with ⟨result, t', visited'⟩
    cases result with
    | error e => rfl
    | ok b =>
      dsimp only
      rw [List.append_assoc]

theorem bind_of_read {m : Program κ σ ε α} {fails : κ → Bool} {s : σ} {a : α} (h : m fails s = ⟨.ok a, s, []⟩)
    (f : α → Program κ σ ε β) : (m >>= f) fails s = f a fails s := by
  simp only [Bind.bind, andThen, h, List.nil_append]

end Program

/-! ## Paths -/

def Path (R : σ → σ → Prop) : σ → List σ → σ → Prop
  | s, [], t => s = t
  | s, u :: us, t => R s u ∧ Path R u us t

theorem Path.append {R : σ → σ → Prop} {s t w : σ} {us vs : List σ} (h : Path R s us t)
    (h' : Path R t vs w) : Path R s (us ++ vs) w := by
  induction us generalizing s with
  | nil =>
    obtain rfl : s = t := h
    exact h'
  | cons u us ih => exact ⟨h.1, ih h.2⟩

theorem Path.mono {R Q : σ → σ → Prop} (hRQ : ∀ s t, R s t → Q s t) {s t : σ} {us : List σ}
    (h : Path R s us t) : Path Q s us t := by
  induction us generalizing s with
  | nil => exact h
  | cons u us ih => exact ⟨hRQ _ _ h.1, ih h.2⟩

theorem Path.invariant {R : σ → σ → Prop} (inv : σ → Prop)
    (hstep : ∀ s t, inv s → R s t → inv t) {s t : σ} {us : List σ} (h : Path R s us t)
    (hs : inv s) : (∀ u ∈ us, inv u) ∧ inv t := by
  induction us generalizing s with
  | nil =>
    obtain rfl : s = t := h
    exact ⟨fun u hu => (List.not_mem_nil hu).elim, hs⟩
  | cons u us ih =>
    have hu := hstep _ _ hs h.1
    obtain ⟨hus, ht⟩ := ih h.2 hu
    exact ⟨List.forall_mem_cons.mpr ⟨hu, hus⟩, ht⟩

/-! ## Triples -/

/-- From a store with `pre`, the program moves along `R` and ends with `post` of its result,
or with `err` of its error. -/
def Triple (fails : κ → Bool) (R : σ → σ → Prop) (pre : σ → Prop) (m : Program κ σ ε α)
    (post : α → σ → Prop) (err : ε → σ → Prop) : Prop :=
  ∀ s, pre s → Path R s (m fails s).visited (m fails s).store ∧
    match (m fails s).result with
    | .ok a => post a (m fails s).store
    | .error e => err e (m fails s).store

namespace Triple
variable {fails : κ → Bool} {R : σ → σ → Prop} {pre : σ → Prop} {err : ε → σ → Prop}

variable {post : α → σ → Prop} {m : Program κ σ ε α} {err' : ε → σ → Prop}

theorem ret {a : α} (h : ∀ s, pre s → post a s) : Triple fails R pre (pure a) post err := fun s hs => ⟨rfl, h s hs⟩

theorem consequence {pre' : σ → Prop} {post post' : α → σ → Prop} (h : Triple fails R pre m post err)
    (hpre : ∀ s, pre' s → pre s) (hpost : ∀ a s, post a s → post' a s) (herr : ∀ e s, err e s → err' e s) :
    Triple fails R pre' m post' err' := by
  intro s hs
  obtain ⟨hpath, hend⟩ := h s (hpre s hs)
  refine ⟨hpath, ?_⟩
  cases hr : (m fails s).result with
  | ok a => exact hpost a _ (by simpa only [hr] using hend)
  | error e => exact herr e _ (by simpa only [hr] using hend)

theorem steps_mono {Q : σ → σ → Prop} (hRQ : ∀ s t, R s t → Q s t) (h : Triple fails R pre m post err) :
    Triple fails Q pre m post err :=
  fun s hs => ⟨(h s hs).1.mono hRQ, (h s hs).2⟩

theorem sharpen (h : ∀ s, pre s → ∃ pre' : σ → Prop, pre' s ∧ Triple fails R pre' m post err) :
    Triple fails R pre m post err := by
  intro s hs
  obtain ⟨pre', hpre', hm⟩ := h s hs
  exact hm s hpre'

theorem and {pre' : σ → Prop} {post post' : α → σ → Prop} (h : Triple fails R pre m post err)
    (h' : Triple fails R pre' m post' err') :
    Triple fails R (fun s => pre s ∧ pre' s) m (fun a s => post a s ∧ post' a s) (fun e s => err e s ∧ err' e s) := by
  rintro s ⟨hs, hs'⟩
  obtain ⟨hpath, hend⟩ := h s hs
  obtain ⟨-, hend'⟩ := h' s hs'
  refine ⟨hpath, ?_⟩
  cases hr : (m fails s).result with
  | ok a =>
    rw [hr] at hend hend'
    exact ⟨hend, hend'⟩
  | error e =>
    rw [hr] at hend hend'
    exact ⟨hend, hend'⟩

/-- What a store of the precondition shows about the rest may be used. -/
theorem assuming (h : ∀ s, pre s → Triple fails R pre m post err) : Triple fails R pre m post err :=
  fun s hs => h s hs s hs

theorem bind {f : α → Program κ σ ε β} {mid : α → σ → Prop} {post : β → σ → Prop}
    (hm : Triple fails R pre m mid err) (hf : ∀ a, Triple fails R (mid a) (f a) post err) :
    Triple fails R pre (m >>= f) post err := by
  intro s hs
  obtain ⟨hpath, hend⟩ := hm s hs
  simp only [Bind.bind, Program.andThen]
  rcases hr : m fails s with ⟨result, t, visited⟩
  rw [hr] at hpath hend
  cases result with
  | error e => exact ⟨hpath, hend⟩
  | ok a =>
    obtain ⟨hpath', hend'⟩ := hf a t hend
    exact ⟨hpath.append hpath', hend'⟩

theorem attempt (h : Triple fails R pre m post err') :
    Triple fails R pre m.attempt (fun result s => match result with
      | .ok a => post a s
      | .error e => err' e s) err := h

theorem perform {unavailable : ε} {call : κ} {f : σ → Except ε σ} {post : Unit → σ → Prop}
    (hfail : fails call = true → ∀ s, pre s → err unavailable s)
    (hok : fails call = false → ∀ s t, pre s → f s = .ok t → R s t ∧ post () t)
    (herr : fails call = false → ∀ s e, pre s → f s = .error e → err e s) :
    Triple fails R pre (Program.perform unavailable call f) post err := by
  intro s hs
  cases hc : fails call with
  | true =>
    simp only [Program.perform, hc]
    exact ⟨rfl, hfail hc s hs⟩
  | false =>
    cases hf : f s with
    | ok t =>
      obtain ⟨hR, hpost⟩ := hok hc s t hs hf
      simp only [Program.perform, hc, hf]
      exact ⟨⟨hR, rfl⟩, hpost⟩
    | error e =>
      simp only [Program.perform, hc, hf]
      exact ⟨rfl, herr hc s e hs hf⟩

/-- A loop, with an invariant that knows which elements have been visited. -/
theorem forEach {l : List α} {body : α → Program κ σ ε Unit} (inv : List α → σ → Prop)
    (h : ∀ before a after, l = before ++ a :: after →
      Triple fails R (inv before) (body a) (fun _ => inv (before ++ [a])) err) :
    Triple fails R (inv []) (Program.forEach l body) (fun _ => inv l) err := by
  suffices hs : ∀ before after, l = before ++ after →
      Triple fails R (inv before) (Program.forEach after body) (fun _ => inv l) err from hs [] l rfl
  intro before after
  induction after generalizing before with
  | nil =>
    rintro hl
    rw [hl, List.append_nil]
    exact ret fun _ hs => hs
  | cons a after ih =>
    intro hl
    exact bind (h before a after hl) fun _ => ih (before ++ [a]) (by rw [hl, List.append_assoc]; rfl)

end Triple

/-! ## Calls that are not made -/

/-- The run makes none of the calls: it is the same whether they would fail or not. -/
def Program.Avoids (calls : κ → Prop) (m : Program κ σ ε α) (fails : κ → Bool) (s : σ) : Prop :=
  ∀ fails' : κ → Bool, (∀ call, ¬ calls call → fails' call = fails call) → m fails' s = m fails s

namespace Program.Avoids
variable {calls : κ → Prop} {fails : κ → Bool} {s : σ}

theorem ret (a : α) : Avoids calls (pure a : Program κ σ ε α) fails s := fun _ _ => rfl

theorem bind {m : Program κ σ ε α} {f : α → Program κ σ ε β} (hm : m.Avoids calls fails s)
    (hf : ∀ a, (m fails s).result = .ok a → (f a).Avoids calls fails (m fails s).store) :
    (m >>= f).Avoids calls fails s := by
  intro fails' hsame
  simp only [Bind.bind, andThen]
  rw [hm fails' hsame]
  rcases hr : m fails s with ⟨result, t, visited⟩
  rw [hr] at hf
  cases result with
  | error e => rfl
  | ok a =>
    dsimp only
    rw [hf a rfl fails' hsame]

theorem attempt {m : Program κ σ ε α} (hm : m.Avoids calls fails s) : m.attempt.Avoids calls fails s := by
  intro fails' hsame
  rw [Program.attempt, Program.attempt, hm fails' hsame]

theorem perform {unavailable : ε} {call : κ} {f : σ → Except ε σ} (h : ¬ calls call) :
    (Program.perform unavailable call f).Avoids calls fails s := by
  intro fails' hsame
  rw [Program.perform, Program.perform, hsame call h]

theorem forEach {body : α → Program κ σ ε Unit} (inv : σ → Prop) {l : List α}
    (h : ∀ a ∈ l, ∀ t, inv t → (body a).Avoids calls fails t ∧ inv (body a fails t).store) (hs : inv s) :
    (Program.forEach l body).Avoids calls fails s := by
  induction l generalizing s with
  | nil => exact ret ()
  | cons a l ih =>
    obtain ⟨hbody, hinv⟩ := h a (.head _) s hs
    exact hbody.bind fun _ _ => ih (fun b hb => h b (.tail _ hb)) hinv

end Program.Avoids

end Calls
