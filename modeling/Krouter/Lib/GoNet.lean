import Mathlib.Data.List.Basic

/-! Addresses as the `net` package splits them. -/

namespace GoNet

def lastColon : List Char → Option (List Char × List Char)
  | [] => none
  | c :: cs =>
    match lastColon cs with
    | some (addr, port) => some (c :: addr, port)
    | none => if c = ':' then some ([], cs) else none

def splitHostPort (hostport : String) : Option (String × String) :=
  match lastColon hostport.toList with
  | none => none
  | some ('[' :: addr, port) =>
    -- the first closing bracket is right before the last colon
    if addr.getLast? = some ']' ∧ ']' ∉ addr.dropLast ∧ '[' ∉ addr ∧ '[' ∉ port ∧ ']' ∉ port then
      some (String.ofList addr.dropLast, String.ofList port)
    else none
  | some (addr, port) =>
    if ':' ∉ addr ∧ '[' ∉ addr ++ port ∧ ']' ∉ addr ++ port then
      some (String.ofList addr, String.ofList port)
    else none

def hostOnly (host : String) : String :=
  match splitHostPort host with
  | some (h, _) => h
  | none => host

theorem lastColon_eq {cs addr port : List Char} (h : lastColon cs = some (addr, port)) :
    cs = addr ++ ':' :: port := by
  induction cs generalizing addr with
  | nil => cases h
  | cons c cs ih =>
    rw [lastColon] at h
    cases hcs : lastColon cs with
    | some p =>
      obtain ⟨addr', port'⟩ := p
      rw [hcs] at h
      cases h
      rw [ih hcs, List.cons_append]
    | none =>
      rw [hcs] at h
      split_ifs at h with hc
      cases h
      rw [hc, List.nil_append]

theorem lastColon_append (addr : List Char) {port : List Char} (h : ':' ∉ port) :
    lastColon (addr ++ ':' :: port) = some (addr, port) := by
  induction addr with
  | nil =>
    have hport : lastColon port = none := by
      cases hp : lastColon port with
      | none => rfl
      | some p => exact absurd (lastColon_eq hp ▸ by simp : ':' ∈ port) h
    rw [List.nil_append, lastColon, hport]
    rfl
  | cons c addr ih => rw [List.cons_append, lastColon, ih]

theorem splitHostPort_of_notMem {hostport : String} (h : ':' ∉ hostport.toList) : splitHostPort hostport = none := by
  cases hp : lastColon hostport.toList with
  | none => rw [splitHostPort, hp]
  | some p => exact absurd (lastColon_eq hp ▸ by simp : ':' ∈ hostport.toList) h

theorem splitHostPort_of_bracket {hostport : String} (h : hostport.toList.getLast? = some ']') :
    splitHostPort hostport = none := by
  have hport : ∀ {addr port}, lastColon hostport.toList = some (addr, port) → ']' ∈ port := by
    intro addr port hcolon
    rw [lastColon_eq hcolon, List.getLast?_append_cons] at h
    exact (List.mem_cons.mp (List.mem_of_getLast? h)).resolve_left (by decide)
  unfold splitHostPort
  split
  · rfl
  · next hcolon => exact if_neg fun hc => hc.2.2.2.2 (hport hcolon)
  · next hcolon => exact if_neg fun hc => hc.2.2 (List.mem_append_right _ (hport hcolon))

theorem splitHostPort_subset {hostport host port : String} (h : splitHostPort hostport = some (host, port)) :
    ∀ c ∈ host.toList, c ∈ hostport.toList := by
  intro c hc
  unfold splitHostPort at h
  split at h
  · cases h
  · rename_i addr p hcolon
    split_ifs at h
    cases h
    rw [String.toList_ofList] at hc
    rw [lastColon_eq hcolon]
    exact List.mem_append_left _ (.tail _ ((List.dropLast_sublist addr).subset hc))
  · rename_i addr p hcolon
    split_ifs at h
    cases h
    rw [String.toList_ofList] at hc
    rw [lastColon_eq hcolon]
    exact List.mem_append_left _ hc

theorem hostOnly_subset (host : String) : ∀ c ∈ (hostOnly host).toList, c ∈ host.toList := by
  rw [hostOnly]
  split
  · rename_i h p hsplit
    exact splitHostPort_subset hsplit
  · exact fun c hc => hc

example : hostOnly "[2001:db8::1]:443" = "2001:db8::1" := by decide

end GoNet
