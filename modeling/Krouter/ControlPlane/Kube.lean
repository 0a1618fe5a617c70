import Krouter.ControlPlane.Ports
import Krouter.Lib.Calls

/-! The Kubernetes API as the control plane uses it: generated ConfigMaps and Secrets and the Services
of all namespaces, one object at a time. -/

namespace Krouter.Kube
open Calls Compiled

inductive Kind
  | configMap
  | secret
  | service
  deriving DecidableEq

inductive Verb
  | get
  | create
  | update
  | delete
  deriving DecidableEq

structure Call where
  verb : Verb
  kind : Kind
  name : String
  deriving DecidableEq

inductive ApiError
  | notFound
  | alreadyExists
  | unavailable
  deriving DecidableEq

structure ServicePort where
  name : String
  protocol : String
  port : Int32
  targetPort : Int32
  nodePort : Int32
  deriving DecidableEq

structure OwnerReference where
  apiVersion : String
  kind : String
  name : String
  uid : String
  controller : Bool
  deriving DecidableEq

structure FrontendService extends Ports.Service where
  type : String
  externalTrafficPolicy : String
  loadBalancerClass : Option String
  selector : GoMap String String
  ports : List ServicePort
  ownerReferences : List OwnerReference
  deriving DecidableEq

structure Store where
  configMaps : GoMap String ConfigMap
  secrets : GoMap String Secret
  services : GoMap String FrontendService
  deriving DecidableEq

def Store.empty : Store := ⟨∅, ∅, ∅⟩

abbrev Api (α : Type) := Program Call Store ApiError α

structure Resource (α : Type) where
  kind : Kind
  objects : Store → GoMap String α
  put : Store → GoMap String α → Store
  objects_put : ∀ s m, objects (put s m) = m

def configMaps : Resource ConfigMap where
  kind := .configMap
  objects := Store.configMaps
  put s m := { s with configMaps := m }
  objects_put _ _ := rfl

def secrets : Resource Secret where
  kind := .secret
  objects := Store.secrets
  put s m := { s with secrets := m }
  objects_put _ _ := rfl

def services : Resource FrontendService where
  kind := .service
  objects := Store.services
  put s m := { s with services := m }
  objects_put _ _ := rfl

namespace Resource
variable {α : Type} (r : Resource α)

def set (s : Store) (name : String) (object : α) : Store := r.put s ((r.objects s).insert name object)

def remove (s : Store) (name : String) : Store := r.put s ((r.objects s).erase name)

def get (name : String) : Api α :=
  .query .unavailable ⟨.get, r.kind, name⟩ fun s =>
    match (r.objects s)[name]? with
    | some object => .ok object
    | none => .error .notFound

def create (name : String) (object : α) : Api Unit :=
  .perform .unavailable ⟨.create, r.kind, name⟩ fun s =>
    match (r.objects s)[name]? with
    | some _ => .error .alreadyExists
    | none => .ok (r.set s name object)

def update (name : String) (object : α) : Api Unit :=
  .perform .unavailable ⟨.update, r.kind, name⟩ fun s =>
    match (r.objects s)[name]? with
    | some _ => .ok (r.set s name object)
    | none => .error .notFound

def delete (name : String) : Api Unit :=
  .perform .unavailable ⟨.delete, r.kind, name⟩ fun s =>
    match (r.objects s)[name]? with
    | some _ => .ok (r.remove s name)
    | none => .error .notFound

/-- `Get`, and `Create` when there is nothing yet; an object that exists is left alone. -/
def ensureImmutable (name : String) (object : α) : Api Unit := do
  match ← (r.get name).attempt with
  | .ok _ => pure ()
  | .error .notFound =>
    match ← (r.create name object).attempt with
    | .ok _ => pure ()
    | .error .alreadyExists => pure ()
    | .error e => .fail e
  | .error e => .fail e

/-- `Get`, then `Create` when there is nothing yet, or `Update` when what is there calls for a change. -/
def ensure {β : Type} (name : String) (new : α) (change : α → Option α) (value : Option α → β) : Api β := do
  match ← (r.get name).attempt with
  | .error .notFound => do
    r.create name new
    pure (value none)
  | .error e => .fail e
  | .ok object =>
    match change object with
    | none => pure (value (some object))
    | some changed => do
      r.update name changed
      pure (value (some object))

/-- Delete the listed objects that satisfy a condition; failures are ignored. -/
def deleteWhere (name : α → String) (condition : α → Bool) (listing : List α) : Api Unit :=
  .forEach listing fun object =>
    if condition object then do
      let _ ← (r.delete (name object)).attempt
      pure ()
    else pure ()

/-! ## What each call does -/

variable {fails : Call → Bool} {R : Store → Store → Prop} {pre : Store → Prop} {name : String}
  {β : Type} {new : α} {change : α → Option α} {value : Option α → β} {s : Store}

theorem delete_spec {post : Store → Prop} (hpre : ∀ s, pre s → post s)
    (h : ∀ s o, pre s → (r.objects s)[name]? = some o →
      R s (r.remove s name) ∧ post (r.remove s name)) :
    Triple fails R pre (r.delete name) (fun _ => post) (fun _ => post) := by
  apply Triple.perform
  · exact fun _ s hs => hpre s hs
  · intro _ s t hs ht
    split at ht
    next o ho =>
      cases ht
      exact h s o hs ho
    · cases ht
  · exact fun _ s _ hs _ => hpre s hs

variable {err : ApiError → Store → Prop}

theorem deleteWhere_spec {nameOf : α → String} {condition : α → Bool} {listing : List α}
    (h : ∀ o ∈ listing, condition o = true → ∀ s stored, pre s →
      (r.objects s)[nameOf o]? = some stored → R s (r.remove s (nameOf o)) ∧ pre (r.remove s (nameOf o))) :
    Triple fails R pre (r.deleteWhere nameOf condition listing) (fun _ => pre) err := by
  refine Triple.forEach (fun _ => pre) fun before o after hl => ?_
  have ho : o ∈ listing := by
    rw [hl]
    simp
  split
  next hc =>
    refine Triple.bind (r.delete_spec (fun _ hs => hs) (h o ho hc)).attempt fun result => ?_
    cases result with
    | ok _ => exact .ret fun _ hs => hs
    | error _ => exact .ret fun _ hs => hs
  · exact .ret fun _ hs => hs

theorem deleteWhere_removes (hfails : ∀ call, fails call = false) {nameOf : α → String} {condition : α → Bool}
    {listing : List α} :
    Triple fails (fun _ _ => True) (fun _ => True) (r.deleteWhere nameOf condition listing)
      (fun _ s => ∀ o ∈ listing, condition o = true → (r.objects s)[nameOf o]? = none) err := by
  refine (Triple.forEach (fun visited s => ∀ o ∈ visited, condition o = true → (r.objects s)[nameOf o]? = none)
    fun before o after _ => ?_).consequence (fun _ _ _ ho => (List.not_mem_nil ho).elim) (fun _ _ h => h)
      fun _ _ h => h
  have hsnoc : ∀ s, (∀ x ∈ before, condition x = true → (r.objects s)[nameOf x]? = none) →
      (condition o = true → (r.objects s)[nameOf o]? = none) →
      ∀ x ∈ before ++ [o], condition x = true → (r.objects s)[nameOf x]? = none := by
    intro s hbefore ho x hx
    rcases List.mem_append.mp hx with hx | hx
    · exact hbefore x hx
    · rwa [List.mem_singleton.mp hx]
  split
  next hc =>
    have hdelete : Triple fails (fun _ _ => True)
        (fun s => ∀ x ∈ before, condition x = true → (r.objects s)[nameOf x]? = none) (r.delete (nameOf o))
        (fun _ s => ∀ x ∈ before ++ [o], condition x = true → (r.objects s)[nameOf x]? = none)
        (fun _ s => ∀ x ∈ before ++ [o], condition x = true → (r.objects s)[nameOf x]? = none) := by
      apply Triple.perform
      · intro hcall
        rw [hfails] at hcall
        cases hcall
      · intro _ s t hs ht
        split at ht
        next stored hstored =>
          cases ht
          refine ⟨trivial, hsnoc _ (fun x hx hcx => ?_) fun _ => ?_⟩
          · rw [remove, r.objects_put, GoMap.get_erase, hs x hx hcx, ite_self]
          · rw [remove, r.objects_put, GoMap.get_erase, if_pos rfl]
        · cases ht
      · intro _ s e hs ht
        split at ht
        · cases ht
        next hnone => exact hsnoc s hs fun _ => hnone
    refine Triple.bind hdelete.attempt fun result => ?_
    cases result with
    | ok _ => exact .ret fun _ hs => hs
    | error _ => exact .ret fun _ hs => hs
  next hc => exact .ret fun s hs => hsnoc s hs fun h => absurd h hc

theorem ensure_of_none (h : (r.objects s)[name]? = none) : r.ensure name new change value fails s =
    if fails ⟨.get, r.kind, name⟩ || fails ⟨.create, r.kind, name⟩ then ⟨.error .unavailable, s, []⟩
    else ⟨.ok (value none), r.set s name new, [r.set s name new]⟩ := by
  cases hget : fails ⟨.get, r.kind, name⟩ <;> cases hcreate : fails ⟨.create, r.kind, name⟩ <;>
    simp [ensure, Bind.bind, Program.andThen, Program.attempt, get, Program.query, create, Program.perform,
      Program.fail, Pure.pure, Program.ret, h, hget, hcreate]

theorem ensure_of_some {object : α} (h : (r.objects s)[name]? = some object) :
    r.ensure name new change value fails s = if fails ⟨.get, r.kind, name⟩ then ⟨.error .unavailable, s, []⟩
      else match change object with
        | none => ⟨.ok (value (some object)), s, []⟩
        | some changed => if fails ⟨.update, r.kind, name⟩ then ⟨.error .unavailable, s, []⟩
          else ⟨.ok (value (some object)), r.set s name changed, [r.set s name changed]⟩ := by
  cases hget : fails ⟨.get, r.kind, name⟩ <;> cases hchange : change object <;>
    cases hupdate : fails ⟨.update, r.kind, name⟩ <;>
      simp [ensure, Bind.bind, Program.andThen, Program.attempt, get, Program.query, update, Program.perform,
        Program.fail, Pure.pure, Program.ret, h, hget, hchange, hupdate]

theorem ensure_spec {post : β → Store → Prop} (herr : ∀ e s, (∃ call, fails call = true) → pre s → err e s)
    (hnew : fails ⟨.create, r.kind, name⟩ = false → ∀ s, pre s → (r.objects s)[name]? = none →
      R s (r.set s name new) ∧ post (value none) (r.set s name new))
    (hkeep : ∀ s object, pre s → (r.objects s)[name]? = some object → change object = none →
      post (value (some object)) s)
    (hchange : fails ⟨.update, r.kind, name⟩ = false → ∀ s object changed, pre s →
      (r.objects s)[name]? = some object → change object = some changed →
      R s (r.set s name changed) ∧ post (value (some object)) (r.set s name changed)) :
    Triple fails R pre (r.ensure name new change value) post err := by
  intro s hs
  cases hobject : (r.objects s)[name]? with
  | none =>
    rw [r.ensure_of_none hobject]
    cases hget : fails ⟨.get, r.kind, name⟩ with
    | true => exact ⟨rfl, herr _ s ⟨_, hget⟩ hs⟩
    | false =>
      cases hcreate : fails ⟨.create, r.kind, name⟩ with
      | true => exact ⟨rfl, herr _ s ⟨_, hcreate⟩ hs⟩
      | false =>
        obtain ⟨hstep, hpost⟩ := hnew hcreate s hs hobject
        exact ⟨⟨hstep, rfl⟩, hpost⟩
  | some object =>
    rw [r.ensure_of_some hobject]
    cases hget : fails ⟨.get, r.kind, name⟩ with
    | true => exact ⟨rfl, herr _ s ⟨_, hget⟩ hs⟩
    | false =>
      cases hchanged : change object with
      | none => exact ⟨rfl, hkeep s object hs hobject hchanged⟩
      | some changed =>
        cases hupdate : fails ⟨.update, r.kind, name⟩ with
        | true => exact ⟨rfl, herr _ s ⟨_, hupdate⟩ hs⟩
        | false =>
          obtain ⟨hstep, hpost⟩ := hchange hupdate s object changed hs hobject hchanged
          exact ⟨⟨hstep, rfl⟩, hpost⟩

theorem ensureImmutable_eq (object : α) :
    r.ensureImmutable name object = r.ensure name object (fun _ => none) fun _ => () := by
  funext fails s
  cases h : (r.objects s)[name]? with
  | none =>
    rw [r.ensure_of_none h]
    cases hget : fails ⟨.get, r.kind, name⟩ <;> cases hcreate : fails ⟨.create, r.kind, name⟩ <;>
      simp [ensureImmutable, Bind.bind, Program.andThen, Program.attempt, get, Program.query, create,
        Program.perform, Program.fail, Pure.pure, Program.ret, h, hget, hcreate]
  | some stored =>
    rw [r.ensure_of_some h]
    cases hget : fails ⟨.get, r.kind, name⟩ <;>
      simp [ensureImmutable, Bind.bind, Program.andThen, Program.attempt, get, Program.query, Program.fail,
        Pure.pure, Program.ret, h, hget]

theorem ensureImmutable_spec {object : α} {post : Store → Prop}
    (herr : ∀ e s, (∃ call, fails call = true) → pre s → err e s)
    (hkeep : ∀ s stored, pre s → (r.objects s)[name]? = some stored → post s)
    (hnew : fails ⟨.create, r.kind, name⟩ = false → ∀ s, pre s → (r.objects s)[name]? = none →
      R s (r.set s name object) ∧ post (r.set s name object)) :
    Triple fails R pre (r.ensureImmutable name object) (fun _ => post) err := by
  rw [ensureImmutable_eq]
  exact r.ensure_spec herr hnew (fun s stored hs h _ => hkeep s stored hs h) fun _ _ _ _ _ _ h => by cases h

end Resource

end Krouter.Kube
