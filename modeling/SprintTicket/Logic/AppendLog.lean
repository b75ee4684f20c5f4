import Mathlib.Data.List.Induction
import Mathlib.Order.Lattice

/-!
# Append-only logs

A log grows at its end; an entry is only ever replaced by one with its key. The
log is what its history makes of the empty log (`replay`): its keys are those of
the appended entries, in their order.
-/

set_option autoImplicit false

namespace AppendLog

universe u v

variable {α : Type u} {κ : Type v} {key : α → κ}

inductive Event (α : Type u)
  | appended (entry : α)
  | replaced (entry : α)

def Event.appended? : Event α → Option α
  | .appended entry => some entry
  | .replaced _ => none

section Replay

variable [DecidableEq κ]

/-- Every entry with the key of the new one makes way for it. -/
def replace (key : α → κ) (log : List α) (entry : α) : List α :=
  log.map fun old => if key old = key entry then entry else old

def apply (key : α → κ) (log : List α) : Event α → List α
  | .appended entry => log ++ [entry]
  | .replaced entry => replace key log entry

def replay (key : α → κ) (history : List (Event α)) : List α := history.foldl (apply key) []

@[simp] theorem replay_nil : replay key ([] : List (Event α)) = [] := rfl

theorem replay_snoc {history : List (Event α)} {event : Event α} :
    replay key (history ++ [event]) = apply key (replay key history) event := by
  rw [replay, List.foldl_append]
  rfl

/-- A replacement keeps the keys and their order. -/
theorem keys_replace {log : List α} {entry : α} : (replace key log entry).map key = log.map key := by
  rw [replace, List.map_map]
  apply List.map_congr_left
  intro old _
  show key (if key old = key entry then entry else old) = key old
  split
  · rename_i same
    exact same.symm
  · rfl

/-- The entries stand in the order in which they were appended. -/
theorem keys_replay {history : List (Event α)} :
    (replay key history).map key = (history.filterMap Event.appended?).map key := by
  induction history using List.reverseRecOn with
  | nil => rfl
  | append_singleton history event ih =>
    rw [replay_snoc, List.filterMap_append, List.map_append, ← ih]
    cases event with
    | appended entry =>
      rw [apply, List.map_append]
      rfl
    | replaced entry =>
      rw [apply, keys_replace]
      exact (List.append_nil _).symm

theorem mem_replace {log : List α} {entry a : α} :
    a ∈ replace key log entry ↔ (a = entry ∧ ∃ old ∈ log, key old = key entry) ∨ (a ∈ log ∧ key a ≠ key entry) := by
  rw [replace, List.mem_map]
  constructor
  · rintro ⟨old, member, rfl⟩
    split
    · rename_i same
      exact .inl ⟨rfl, old, member, same⟩
    · rename_i other
      exact .inr ⟨member, other⟩
  · rintro (⟨rfl, old, member, same⟩ | ⟨member, other⟩)
    · exact ⟨old, member, if_pos same⟩
    · exact ⟨a, member, if_neg other⟩

end Replay

section Increasing

variable [LinearOrder κ] {log : List α}

theorem increasing_keys : log.Pairwise (fun a b => key a < key b) ↔ (log.map key).Pairwise (· < ·) :=
  List.pairwise_map.symm

theorem increasing_replace {entry : α} (increasing : log.Pairwise fun a b => key a < key b) :
    (replace key log entry).Pairwise fun a b => key a < key b := by
  rw [increasing_keys, keys_replace, ← increasing_keys]
  exact increasing

/-- An entry above all others can be appended. -/
theorem increasing_append {entry : α} (increasing : log.Pairwise fun a b => key a < key b)
    (above : ∀ old ∈ log, key old < key entry) : (log ++ [entry]).Pairwise fun a b => key a < key b := by
  rw [List.pairwise_append]
  refine ⟨increasing, List.pairwise_singleton _ _, fun old member last lastMember => ?_⟩
  rw [List.mem_singleton.mp lastMember]
  exact above old member

end Increasing

end AppendLog
