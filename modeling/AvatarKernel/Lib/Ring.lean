import Mathlib.Data.List.Basic
import Mathlib.Data.Nat.ModEq

namespace Ring

open Function

universe u

variable {α : Type u} {cap : Nat} {place : Nat → α} {first count : Nat}

/-- The elements of a ring of `cap` places, the oldest first: `count` of them from index `first`
on. -/
def contents (cap : Nat) (place : Nat → α) (first count : Nat) : List α :=
  (List.range count).map fun i => place ((first + i) % cap)

theorem length_contents : (contents cap place first count).length = count := by
  rw [contents, List.length_map, List.length_range]

theorem contents_succ :
    contents cap place first (count + 1) = place (first % cap) :: contents cap place
      (first + 1) count := by
  rw [contents, List.range_succ_eq_map, List.map_cons, List.map_map, Nat.add_zero, contents]
  congr 1
  apply List.map_congr_left
  intro i _
  show place ((first + (i + 1)) % cap) = place ((first + 1 + i) % cap)
  rw [Nat.add_right_comm, Nat.add_assoc]

theorem contents_congr (same : first % cap = other % cap) :
    contents cap place first count = contents cap place other count := by
  apply List.map_congr_left
  intro i _
  rw [Nat.add_mod, same, ← Nat.add_mod]

theorem contents_update (room : count < cap) (value : α) :
    contents cap (update place ((first + count) % cap) value) first (count + 1) =
      contents cap place first count ++ [value] := by
  rw [contents, List.range_succ, List.map_append, List.map_singleton, update_self]
  congr 1
  apply List.map_congr_left
  intro i inside
  have below := List.mem_range.mp inside
  apply update_of_ne
  intro same
  -- two places less than the capacity apart
  have whole : Nat.ModEq cap (first + count) (first + i) := same.symm
  have apart : Nat.ModEq cap count i := Nat.ModEq.add_left_cancel' first whole
  have equal := Nat.ModEq.eq_of_lt_of_lt apart room (below.trans room)
  omega

end Ring
