import Krouter.Auth.Enforcer
import Krouter.Lib.Substitution

/-! Logins at a directory by search and bind. The filter for groups is made in two passes, of which
the second also looks at the name that the first one put in. -/

namespace Krouter.Auth
open Compiled Substitution

structure SearchRequest where
  baseDN : String
  sizeLimit : Nat
  timeLimit : Nat
  filter : String
  attributes : List String
  deriving DecidableEq

structure DirectoryEntry where
  dn : String
  values : String → List String

/-- What a connection meets. The service account binds before and after the user, whose bind fails
for the credentials or for something else. -/
structure Directory where
  connect : Bool
  serviceBind : Bool
  userBind : String → String → Except CredentialError Unit
  serviceRebind : Bool
  search : SearchRequest → Option (List DirectoryEntry)
  escapeFilter : String → String

def ldapTimeout : Nat := 10

def replaceIn (text old new : String) : String := String.ofList (replaceAll old.toList new.toList text.toList)

def userRequest (d : Directory) (cfg : AuthLDAP) (username : String) : SearchRequest where
  baseDN := cfg.userBaseDN
  sizeLimit := 2
  timeLimit := ldapTimeout
  filter := replaceIn cfg.userFilter "{username}" (d.escapeFilter username)
  attributes := "dn" :: cfg.attributes.toList.map Prod.snd

def groupRequest (d : Directory) (search : AuthGroupSearch) (userDN username : String) : SearchRequest where
  baseDN := search.baseDN
  sizeLimit := 0
  timeLimit := ldapTimeout
  filter :=
    let filter := replaceIn search.filter "{dn}" (d.escapeFilter userDN)
    replaceIn filter "{username}" (d.escapeFilter username)
  attributes := [search.attributeName]

def searchGroups (d : Directory) (search : AuthGroupSearch) (userDN username : String) :
    Except CredentialError (List String) :=
  match d.search (groupRequest d search userDN username) with
  | none => .error .unavailable
  | some entries => .ok (entries.flatMap fun entry => entry.values search.attributeName)

def mergeValues (existing extra : List String) : List String :=
  extra.foldl (fun merged value => if value ∈ merged then merged else merged ++ [value]) existing

def authenticate (d : Directory) (cfg : AuthLDAP) (username password : String) : Except CredentialError Identity := do
  if username = "" ∨ password = "" then throw .rejected
  if ¬ d.connect ∨ ¬ d.serviceBind then throw .unavailable
  match d.search (userRequest d cfg username) with
  | none => throw .unavailable
  | some [entry] =>
    d.userBind entry.dn password
    if ¬ d.serviceRebind then throw .unavailable
    let email := GoMap.read cfg.attributes "email" ""
    let groups := GoMap.read cfg.attributes "groups" ""
    let own := if groups = "" then [] else entry.values groups
    let groups ← match cfg.groupSearch with
      | none => pure own
      | some search => (searchGroups d search entry.dn username).map (mergeValues own)
    return ⟨username, if email = "" then "" else (entry.values email).headD "", groups, ∅⟩
  | some _ => throw .rejected

/-! ## One pass -/

/-- Both placeholders of a template replaced where the template has them. -/
def filled (template dn username : String) : String :=
  String.ofList (substitute [("{dn}".toList, dn.toList), ("{username}".toList, username.toList)] (fun c => [c])
    template.toList)

/-- With the name put in, and its own placeholders of the user cut out, the template spells another one. -/
def SpellsUsername (template dn : String) : Prop :=
  "{username}".toList.map some <:+: substitute
    [("{dn}".toList, dn.toList.map some), ("{username}".toList, [none])] (fun c => [some c]) template.toList

instance (template dn : String) : Decidable (SpellsUsername template dn) :=
  inferInstanceAs (Decidable (_ <:+: _))

/-- The filter is the template with its placeholders replaced, exactly if the escaped name makes it
spell no other placeholder, or that one is replaced by itself. -/
theorem group_filter_simultaneous_iff (d : Directory) (search : AuthGroupSearch) (userDN username : String) :
    (groupRequest d search userDN username).filter =
        filled search.filter (d.escapeFilter userDN) (d.escapeFilter username) ↔
      d.escapeFilter username = "{username}" ∨ ¬ SpellsUsername search.filter (d.escapeFilter userDN) := by
  have husername : "{username}".toList = '{' :: "{username}".toList.tail := by decide
  have hdn : "{dn}".toList = '{' :: "{dn}".toList.tail := by decide
  have hiff := replaceAll_replaceAll_iff (by decide : '{' ∉ "{username}".toList.tail) "{dn}".toList.tail
    (d.escapeFilter userDN).toList (d.escapeFilter username).toList search.filter.toList
  rw [← husername, ← hdn, String.toList_inj] at hiff
  rw [groupRequest, filled, SpellsUsername, ← hiff, ← String.toList_inj]
  simp only [replaceIn, String.toList_ofList]

/-! Braces are not special in a filter. -/

def escapeSpecials (text : String) : String :=
  String.ofList (text.toList.flatMap fun c =>
    if c = '*' then "\\2a".toList else if c = '(' then "\\28".toList else if c = ')' then "\\29".toList
    else if c = '\\' then "\\5c".toList else if c.toNat = 0 then "\\00".toList else [c])

def sampleDirectory : Directory where
  connect := true
  serviceBind := true
  userBind := fun _ _ => .ok ()
  serviceRebind := true
  search := fun _ => none
  escapeFilter := escapeSpecials

theorem name_taken_for_placeholder :
    (groupRequest sampleDirectory ⟨"ou=groups", "(member={dn})", "cn"⟩ "cn={username}" "eve").filter =
        "(member=cn=eve)" ∧
      filled "(member={dn})" (escapeSpecials "cn={username}") (escapeSpecials "eve") = "(member=cn={username})" := by
  decide

end Krouter.Auth
