import Mathlib.Algebra.GroupWithZero.Nat
import Mathlib.Data.List.Induction

/-! Paths by their names alone: where a text leads, and the text of a place. -/

namespace PathNames

/-- The directory that a name leads to, given by its names from the root on. -/
def walkName (dir : List (List Char)) (name : List Char) : List (List Char) :=
  if name = [] ∨ name = ['.'] then dir
  else if name = ['.', '.'] then dir.dropLast
  else dir ++ [name]

/-- Where a path leads from a directory, whatever its length. -/
def walk (dir : List (List Char)) (path : List Char) : List (List Char) :=
  (path.splitOn '/').foldl walkName dir

/-- The text of a directory. -/
def render (segs : List (List Char)) : List Char := '/' :: List.intercalate ['/'] segs

theorem render_ne_nil (segs : List (List Char)) : render segs ≠ [] := List.cons_ne_nil _ _

/-- A name that stands for itself. -/
structure Plain (seg : List Char) : Prop where
  filled : seg ≠ []
  slashless : '/' ∉ seg
  notDot : seg ≠ ['.']
  notDots : seg ≠ ['.', '.']

/-- The bytes of the segments, each with a slash before it. -/
def slashed (segs : List (List Char)) : List Char := segs.flatMap ('/' :: ·)

theorem render_eq_slashed : ∀ {segs : List (List Char)}, segs ≠ [] → render segs = slashed segs
  | [seg], _ => by simp [render, slashed]
  | seg :: other :: segs, _ => by
    have rest := render_eq_slashed (List.cons_ne_nil other segs)
    rw [render] at rest
    rw [render, List.intercalate_cons_cons, slashed, List.flatMap_cons, List.append_assoc,
      List.singleton_append, rest]
    rfl

theorem walkName_plain (plain : Plain name) : walkName dir name = dir ++ [name] := by
  rw [walkName, if_neg, if_neg plain.notDots]
  exact not_or.mpr ⟨plain.filled, plain.notDot⟩

theorem foldl_walkName_plain (names : List (List Char)) (plain : ∀ name ∈ names, Plain name) :
    ∀ dir, names.foldl walkName dir = dir ++ names := by
  induction names with
  | nil => exact fun _ => (List.append_nil _).symm
  | cons name names ih =>
    intro dir
    obtain ⟨first, rest⟩ := List.forall_mem_cons.mp plain
    rw [List.foldl_cons, walkName_plain first, ih rest, List.append_assoc, List.singleton_append]

theorem walk_under (dir : List (List Char)) (path name : List Char) :
    walk dir (path ++ '/' :: name) = walk (walk dir path) name := by
  rw [walk, List.splitOn_append_cons_self, List.foldl_append]
  rfl

theorem walk_rooted (path : List Char) : walk [] ('/' :: path) = walk [] path :=
  walk_under [] [] path

theorem walk_slashless (slashless : '/' ∉ name) : walk dir name = walkName dir name := by
  rw [walk, List.splitOn_eq_singleton slashless]
  rfl

/-- A path that was written out is read back as the names it was written from. -/
theorem walk_render (plain : ∀ seg ∈ segs, Plain seg) : walk [] (render segs) = segs := by
  rw [render, walk_rooted]
  by_cases empty : segs = []
  · rw [empty]
    rfl
  · rw [walk, List.splitOn_intercalate _ (fun seg inside => (plain seg inside).slashless) empty]
    exact foldl_walkName_plain segs plain []

theorem length_slashed_dropLast (segs : List (List Char)) :
    (slashed segs.dropLast).length ≤ (slashed segs).length := by
  induction segs using List.reverseRecOn with
  | nil => exact Nat.le_refl _
  | append_singleton segs seg =>
    rw [List.dropLast_concat, slashed, slashed, List.flatMap_append, List.length_append]
    omega

theorem two_mul_length_le_slashed (segs : List (List Char)) (plain : ∀ seg ∈ segs, Plain seg) :
    2 * segs.length ≤ (slashed segs).length := by
  induction segs with
  | nil => exact Nat.le_refl _
  | cons seg segs ih =>
    obtain ⟨first, rest⟩ := List.forall_mem_cons.mp plain
    have filled := List.length_pos_iff.mpr first.filled
    have tail := ih rest
    rw [slashed] at tail
    rw [slashed, List.flatMap_cons, List.length_append, List.length_cons, List.length_cons]
    omega

end PathNames
