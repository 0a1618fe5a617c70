import Mathlib.Data.List.Basic

/-! One direction of a connection under `io.Copy`: a sender, what has arrived from it, and a loop that
copies chunks until the sender has closed. -/

namespace CopyLoop
variable {α : Type}

structure Flow (α : Type) where
  /-- What the sender will still send before it closes. -/
  unsent : List α
  closed : Bool
  arrived : List α
  /-- Read and not yet written. -/
  held : List α
  written : List α
  count : Nat
  running : Bool
  deriving DecidableEq

inductive Move where
  | send (n : Nat)
  | close
  | read (n : Nat)
  | write (n : Nat)
  | finish
  deriving DecidableEq

namespace Flow

def start (data : List α) : Flow α := ⟨data, false, [], [], [], 0, true⟩

def move [DecidableEq α] (f : Flow α) : Move → Option (Flow α)
  | .send n =>
    if f.closed = true then none
    else some { f with unsent := f.unsent.drop n, arrived := f.arrived ++ f.unsent.take n }
  | .close => if f.unsent ≠ [] then none else some { f with closed := true }
  | .read n =>
    if f.running = false ∨ f.held ≠ [] then none
    else some { f with arrived := f.arrived.drop n, held := f.arrived.take n }
  | .write n =>
    if f.running = false then none
    else some
      { f with
        held := f.held.drop n
        written := f.written ++ f.held.take n
        count := f.count + (f.held.take n).length }
  | .finish =>
    if f.running = true ∧ f.held = [] ∧ f.arrived = [] ∧ f.closed = true then some { f with running := false }
    else none

/-- Nothing of the data is lost, doubled or out of order, and the loop counts what it writes. -/
structure Accounts (data : List α) (f : Flow α) : Prop where
  conserved : f.written ++ (f.held ++ (f.arrived ++ f.unsent)) = data
  counted : f.count = f.written.length
  closed : f.closed = true → f.unsent = []

theorem accounts_start (data : List α) : Accounts data (start data) := ⟨rfl, rfl, fun h => by cases h⟩

/-- A loop that has come to its end has written everything. -/
structure Sound (data : List α) (f : Flow α) : Prop extends Accounts data f where
  complete : f.running = false → f.written = data

theorem Sound.count_eq {data : List α} {f : Flow α} (h : Sound data f)
    (hstopped : f.running = false) : f.count = data.length := by
  rw [h.counted, h.complete hstopped]

theorem sound_start (data : List α) : Sound data (start data) := ⟨accounts_start data, fun h => by cases h⟩

variable [DecidableEq α] {data : List α} {f f' : Flow α} {m : Move}

theorem Accounts.move (h : Accounts data f) (hm : f.move m = some f') : Accounts data f' := by
  cases m with
  | send n =>
    rw [Flow.move] at hm
    split_ifs at hm with hclosed
    cases hm
    refine ⟨?_, h.counted, fun hc => absurd hc hclosed⟩
    rw [← h.conserved, List.append_assoc, List.take_append_drop]
  | close =>
    rw [Flow.move] at hm
    split_ifs at hm with hunsent
    cases hm
    exact ⟨h.conserved, h.counted, fun _ => not_not.mp hunsent⟩
  | read n =>
    rw [Flow.move] at hm
    split_ifs at hm with hrefused
    cases hm
    have hheld : f.held = [] := not_not.mp (not_or.mp hrefused).2
    refine ⟨?_, h.counted, h.closed⟩
    rw [← h.conserved, hheld, List.nil_append, ← List.append_assoc (f.arrived.take n), List.take_append_drop]
  | write n =>
    rw [Flow.move] at hm
    split_ifs at hm with hstopped
    cases hm
    refine ⟨?_, ?_, h.closed⟩
    · rw [← h.conserved, List.append_assoc, ← List.append_assoc (f.held.take n), List.take_append_drop]
    · rw [h.counted, List.length_append]
  | finish =>
    rw [Flow.move] at hm
    split_ifs at hm with hend
    cases hm
    exact ⟨h.conserved, h.counted, h.closed⟩

theorem Accounts.written_of_finish (h : Accounts data f) (hm : f.move .finish = some f') : f'.written = data := by
  rw [Flow.move] at hm
  split_ifs at hm with hend
  cases hm
  obtain ⟨-, hheld, harrived, hclosed⟩ := hend
  rw [← h.conserved, hheld, harrived, h.closed hclosed]
  simp

theorem move_running (hm : f.move m = some f') :
    m = .finish ∨ f'.running = f.running ∧ (f.running = false → f'.written = f.written) := by
  cases m with
  | finish => exact .inl rfl
  | send n | close | read n =>
    rw [Flow.move] at hm
    split_ifs at hm
    cases hm
    exact .inr ⟨rfl, fun _ => rfl⟩
  | write n =>
    rw [Flow.move] at hm
    split_ifs at hm with hstopped
    cases hm
    exact .inr ⟨rfl, fun h => absurd h hstopped⟩

theorem Sound.move (h : Sound data f) (hm : f.move m = some f') : Sound data f' := by
  refine ⟨h.toAccounts.move hm, fun hstopped => ?_⟩
  rcases move_running hm with rfl | ⟨hrunning, hwritten⟩
  · exact h.written_of_finish hm
  · rw [hrunning] at hstopped
    rw [hwritten hstopped, h.complete hstopped]

end Flow

end CopyLoop
