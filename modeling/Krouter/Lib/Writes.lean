import Krouter.Lib.GoMap

/-! Runs of writes to a map, where a write puts a value or removes the key. A key that no
write names is framed; a key that one write names has what that write left. -/

namespace GoMap
variable {K V : Type} [Ord K] [Std.TransOrd K] [Std.LawfulEqOrd K]

def write (m : GoMap K V) (w : K × Option V) : GoMap K V :=
  match w.2 with
  | none => m.erase w.1
  | some v => m.insert w.1 v

def writeAll (m : GoMap K V) (ws : List (K × Option V)) : GoMap K V := ws.foldl write m

theorem get_write_self (m : GoMap K V) (w : K × Option V) : (m.write w)[w.1]? = w.2 := by
  classical
  obtain ⟨k, v⟩ := w
  cases v with
  | none => rw [write, get_erase, if_pos rfl]
  | some v => rw [write, get_insert_self]

theorem get_write_of_ne (m : GoMap K V) {w : K × Option V} {k : K} (h : w.1 ≠ k) : (m.write w)[k]? = m[k]? := by
  classical
  obtain ⟨k', v⟩ := w
  cases v with
  | none => rw [write, get_erase, if_neg h]
  | some v => rw [write, get_insert_of_ne _ _ h]

theorem get_writeAll_of_notMem (m : GoMap K V) {ws : List (K × Option V)} {k : K} (h : k ∉ ws.map Prod.fst) :
    (m.writeAll ws)[k]? = m[k]? := by
  induction ws generalizing m with
  | nil => rfl
  | cons w ws ih =>
    rw [List.map_cons, List.mem_cons, not_or] at h
    exact (ih (m.write w) h.2).trans (get_write_of_ne m (Ne.symm h.1))

theorem get_writeAll_of_mem (m : GoMap K V) {ws : List (K × Option V)} {w : K × Option V}
    (hn : (ws.map Prod.fst).Nodup) (h : w ∈ ws) : (m.writeAll ws)[w.1]? = w.2 := by
  induction ws generalizing m with
  | nil => cases h
  | cons first ws ih =>
    rw [List.map_cons, List.nodup_cons] at hn
    rcases List.mem_cons.mp h with rfl | h
    · exact (get_writeAll_of_notMem (m.write w) hn.1).trans (get_write_self m w)
    · exact ih (m.write first) hn.2 h

end GoMap
