import Mathlib.Algebra.Group.Int.Defs
import Krouter.Lib.Json
import Krouter.Lib.GoMap
import Krouter.Lib.GoString

/-! Typed JSON codecs in the manner of `encoding/json`: `null` leaves the zero value, a struct reads the
last field that matches a name up to case, and every codec reads back what it printed. -/

namespace Json
open Std Decimal GoString

structure Codec (α : Type) where
  zero : α
  enc : α → Value
  dec : Value → Option α
  wellFormed : ∀ a, WellFormed (enc a)
  dec_enc : ∀ a, dec (enc a) = some a

namespace Codec
variable {α β : Type}

def marshal (c : Codec α) (a : α) : String := Json.marshal (c.enc a)

def unmarshal (c : Codec α) (s : String) : Option α := (parse s).bind c.dec

theorem unmarshal_marshal (c : Codec α) (a : α) : c.unmarshal (c.marshal a) = some a := by
  rw [unmarshal, marshal, parse_marshal (c.wellFormed a), Option.bind_some, c.dec_enc]

theorem marshal_injective (c : Codec α) : Function.Injective c.marshal := fun a b h =>
  Option.some.inj (by rw [← c.unmarshal_marshal a, h, c.unmarshal_marshal])

def string : Codec String where
  zero := ""
  enc s := .string s
  dec
    | .string s => some s
    | .null => some ""
    | _ => none
  wellFormed _ := trivial
  dec_enc _ := rfl

def bool : Codec Bool where
  zero := false
  enc b := .bool b
  dec
    | .bool b => some b
    | .null => some false
    | _ => none
  wellFormed _ := trivial
  dec_enc _ := rfl

def int32 : Codec Int32 where
  zero := 0
  enc n := .number (itoa n.toInt)
  dec
    | .number literal => (atoi literal).bind fun n =>
        if -2 ^ 31 ≤ n ∧ n < 2 ^ 31 then some (Int32.ofInt n) else none
    | .null => some 0
    | _ => none
  wellFormed n := isNumber_itoa n.toInt
  dec_enc n := by
    change (atoi (itoa n.toInt)).bind _ = _
    rw [atoi_itoa, Option.bind_some, if_pos ⟨n.le_toInt, n.toInt_lt⟩, Int32.ofInt_toInt]

def int64 : Codec Int64 where
  zero := 0
  enc n := .number (itoa n.toInt)
  dec
    | .number literal => (atoi literal).bind fun n =>
        if -2 ^ 63 ≤ n ∧ n < 2 ^ 63 then some (Int64.ofInt n) else none
    | .null => some 0
    | _ => none
  wellFormed n := isNumber_itoa n.toInt
  dec_enc n := by
    change (atoi (itoa n.toInt)).bind _ = _
    rw [atoi_itoa, Option.bind_some, if_pos ⟨n.le_toInt, n.toInt_lt⟩, Int64.ofInt_toInt]

def number : Codec Number where
  zero := ⟨['0'], by decide⟩
  enc n := .number n.literal
  dec
    | .number literal =>
      if h : scanNumber literal = some (literal, []) then some ⟨literal, h⟩ else none
    | .null => some ⟨['0'], by decide⟩
    | _ => none
  wellFormed n := isNumber_of_scan n.whole
  dec_enc n := dif_pos n.whole

theorem wellFormedItems_map (c : Codec α) (xs : List α) : WellFormedItems (xs.map c.enc) := by
  induction xs with
  | nil => exact trivial
  | cons x xs ih => exact ⟨c.wellFormed x, ih⟩

theorem mapM_dec_enc (c : Codec α) (xs : List α) : (xs.map c.enc).mapM c.dec = some xs := by
  induction xs with
  | nil => rfl
  | cons x xs ih => simp [List.mapM_cons, c.dec_enc, ih]

def list (c : Codec α) : Codec (List α) where
  zero := []
  enc xs := .array (xs.map c.enc)
  dec
    | .array items => items.mapM c.dec
    | .null => some []
    | _ => none
  wellFormed xs := c.wellFormedItems_map xs
  dec_enc xs := c.mapM_dec_enc xs

theorem wellFormedFields_map (c : Codec α) (l : List (String × α)) :
    WellFormedFields (l.map fun p => (p.1, c.enc p.2)) := by
  induction l with
  | nil => exact trivial
  | cons p l ih => exact ⟨c.wellFormed p.2, ih⟩

def decFields (c : Codec α) : List (String × Value) → Option (List (String × α))
  | [] => some []
  | (k, v) :: fs => (c.dec v).bind fun a => (c.decFields fs).map fun l => (k, a) :: l

theorem decFields_enc (c : Codec α) (l : List (String × α)) :
    c.decFields (l.map fun p => (p.1, c.enc p.2)) = some l := by
  induction l with
  | nil => rfl
  | cons p l ih => rw [List.map_cons, decFields, c.dec_enc, Option.bind_some, ih, Option.map_some]

def map (c : Codec α) : Codec (GoMap String α) where
  zero := ∅
  enc m := .object (m.toList.map fun p => (p.1, c.enc p.2))
  dec
    | .object fields => (c.decFields fields).map (GoMap.setAll ∅)
    | .null => some ∅
    | _ => none
  wellFormed m := c.wellFormedFields_map m.toList
  dec_enc m := by
    change (c.decFields _).map _ = _
    rw [decFields_enc, Option.map_some, GoMap.setAll_empty_toList]

def pointer (c : Codec α) (h : ∀ a, c.enc a ≠ .null) : Codec (Option α) where
  zero := none
  enc
    | none => .null
    | some a => c.enc a
  dec
    | .null => some none
    | v => (c.dec v).map some
  wellFormed
    | none => trivial
    | some a => c.wellFormed a
  dec_enc
    | none => rfl
    | some a => by
      have hd := c.dec_enc a
      have hn := h a
      revert hd hn
      change c.dec (c.enc a) = some a → c.enc a ≠ .null → (match c.enc a with
        | .null => some none
        | v => (c.dec v).map some) = some (some a)
      generalize c.enc a = v
      intro hd hn
      cases v <;> first | exact absurd rfl hn | simp only [hd, Option.map_some]

end Codec

/-! ## Structs -/

def member (name : String) : List (String × Value) → Option Value
  | [] => none
  | (k, v) :: fs => (member name fs).or (if equalFold name k then some v else none)

theorem member_append (name : String) (fs gs : List (String × Value)) :
    member name (fs ++ gs) = (member name gs).or (member name fs) := by
  induction fs with
  | nil => simp [member]
  | cons f fs ih => simp only [List.cons_append, member, ih, Option.or_assoc]

def Avoids (names : List String) (fs : List (String × Value)) : Prop :=
  ∀ f ∈ fs, ∀ n ∈ names, equalFold n f.1 = false

theorem member_of_avoids {name : String} {names : List String} {fs : List (String × Value)}
    (hn : name ∈ names) (h : Avoids names fs) : member name fs = none := by
  induction fs with
  | nil => rfl
  | cons f fs ih =>
    rw [member, ih fun g hg => h g (List.mem_cons_of_mem f hg), h f (.head _) name hn]
    rfl

/-- The fields of a struct, read from and written into an object among others. -/
structure Fields (α : Type) where
  names : List String
  enc : α → List (String × Value)
  dec : List (String × Value) → Option α
  wellFormed : ∀ a, WellFormedFields (enc a)
  enc_names : ∀ a, ∀ f ∈ enc a, f.1 ∈ names
  dec_enc : ∀ a pre post, Avoids names pre → Avoids names post → dec (pre ++ enc a ++ post) = some a

namespace Fields
variable {α β : Type}

theorem member_field {name : String} {v : Value} {pre post : List (String × Value)}
    (h1 : Avoids [name] pre) (h2 : Avoids [name] post) :
    member name (pre ++ [(name, v)] ++ post) = some v := by
  rw [member_append, member_append, member_of_avoids (.head _) h1,
    member_of_avoids (.head _) h2]
  simp [member, equalFold_self]

theorem member_absent {name : String} {pre post : List (String × Value)}
    (h1 : Avoids [name] pre) (h2 : Avoids [name] post) :
    member name (pre ++ [] ++ post) = none := by
  rw [List.append_nil, member_append, member_of_avoids (.head _) h1,
    member_of_avoids (.head _) h2, Option.or_none]

def field (name : String) (c : Codec α) : Fields α where
  names := [name]
  enc a := [(name, c.enc a)]
  dec fs := ((member name fs).map c.dec).getD (some c.zero)
  wellFormed a := ⟨c.wellFormed a, trivial⟩
  enc_names a f hf := by
    rw [List.mem_singleton.mp hf]
    exact List.mem_singleton_self name
  dec_enc a pre post h1 h2 := by
    rw [member_field h1 h2, Option.map_some, Option.getD_some, c.dec_enc]

def omitempty [DecidableEq α] (name : String) (c : Codec α) : Fields α where
  names := [name]
  enc a := if a = c.zero then [] else [(name, c.enc a)]
  dec fs := ((member name fs).map c.dec).getD (some c.zero)
  wellFormed a := by
    split_ifs
    · exact trivial
    · exact ⟨c.wellFormed a, trivial⟩
  enc_names a f hf := by
    split_ifs at hf
    · cases hf
    · rw [List.mem_singleton.mp hf]
      exact List.mem_singleton_self name
  dec_enc a pre post h1 h2 := by
    split_ifs with ha
    · rw [member_absent h1 h2, ha]
      rfl
    · rw [member_field h1 h2, Option.map_some, Option.getD_some, c.dec_enc]

def omitnil [DecidableEq α] (name : String) (c : Codec α) (h : ∀ a, c.enc a ≠ .null) :
    Fields (Option α) := omitempty name (c.pointer h)

theorem avoids_enc {f : Fields α} {names : List String}
    (h : ∀ n ∈ names, ∀ m ∈ f.names, equalFold n m = false) (a : α) : Avoids names (f.enc a) :=
  fun g hg n hn => h n hn g.1 (f.enc_names a g hg)

theorem Avoids.append {names : List String} {fs gs : List (String × Value)}
    (h1 : Avoids names fs) (h2 : Avoids names gs) : Avoids names (fs ++ gs) := fun f hf =>
  (List.mem_append.mp hf).elim (h1 f) (h2 f)

theorem Avoids.mono {names names' : List String} {fs : List (String × Value)}
    (hs : names ⊆ names') (h : Avoids names' fs) : Avoids names fs := fun f hf n hn => h f hf n (hs hn)

theorem wellFormedFields_append : ∀ {fs gs : List (String × Value)}, WellFormedFields fs →
    WellFormedFields gs → WellFormedFields (fs ++ gs)
  | [], _, _, hg => hg
  | _ :: _, _, hf, hg => ⟨hf.1, wellFormedFields_append hf.2 hg⟩

def prod (f : Fields α) (g : Fields β)
    (h : ∀ n ∈ f.names, ∀ m ∈ g.names, equalFold n m = false := by decide +kernel) :
    Fields (α × β) where
  names := f.names ++ g.names
  enc p := f.enc p.1 ++ g.enc p.2
  dec fs := (f.dec fs).bind fun a => (g.dec fs).map fun b => (a, b)
  wellFormed p := wellFormedFields_append (f.wellFormed p.1) (g.wellFormed p.2)
  enc_names p x hx := by
    rcases List.mem_append.mp hx with hx | hx
    · exact List.mem_append_left _ (f.enc_names p.1 x hx)
    · exact List.mem_append_right _ (g.enc_names p.2 x hx)
  dec_enc p pre post h1 h2 := by
    have hf := f.dec_enc p.1 pre (g.enc p.2 ++ post)
      (Avoids.mono (List.subset_append_left ..) h1)
      (Avoids.append (avoids_enc h p.2)
        (Avoids.mono (List.subset_append_left ..) h2))
    have hg := g.dec_enc p.2 (pre ++ f.enc p.1) post
      (Avoids.append (Avoids.mono (List.subset_append_right ..) h1)
        (avoids_enc (fun m hm n hn => equalFold_comm n m ▸ h n hn m hm) p.1))
      (Avoids.mono (List.subset_append_right ..) h2)
    simp only [List.append_assoc] at hf hg ⊢
    rw [hf, Option.bind_some, hg, Option.map_some]

def iso (f : Fields α) (g : α → β) (g' : β → α) (h : ∀ b, g (g' b) = b) : Fields β where
  names := f.names
  enc b := f.enc (g' b)
  dec fs := (f.dec fs).map g
  wellFormed b := f.wellFormed (g' b)
  enc_names b := f.enc_names (g' b)
  dec_enc b pre post h1 h2 := by rw [f.dec_enc (g' b) pre post h1 h2, Option.map_some, h]

end Fields

def Codec.struct {α : Type} (zero : α) (f : Fields α) : Codec α where
  zero := zero
  enc a := .object (f.enc a)
  dec
    | .object fields => f.dec fields
    | .null => some zero
    | _ => none
  wellFormed a := f.wellFormed a
  dec_enc a := by
    have h := f.dec_enc a [] [] (fun _ hf => by cases hf) (fun _ hf => by cases hf)
    rwa [List.nil_append, List.append_nil] at h

theorem Codec.struct_enc_ne_null {α : Type} (zero : α) (f : Fields α) (a : α) :
    (Codec.struct zero f).enc a ≠ .null := Value.noConfusion

end Json
