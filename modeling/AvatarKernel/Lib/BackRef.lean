import Mathlib.Algebra.GroupWithZero.Nat
import Mathlib.Data.List.Count
import Mathlib.Data.List.Perm.Basic

/- Two families of arrays that refer to each other by index: every owner has an array of rows, every
row names a target, and every target has an array of references (owner, position of the row). Rows
and references are removed by moving the last element into the gap. -/

namespace AvatarKernel.BackRef

open Function

def swapRemove {α : Type*} (l : List α) (i : Nat) : List α :=
  match l.getLast? with
  | none => []
  | some last => (l.set i last).dropLast

section SwapRemove

variable {α : Type*}

theorem swapRemove_last (front : List α) (a : α) :
    swapRemove (front ++ [a]) front.length = front := by
  simp [swapRemove]

theorem swapRemove_inner (front : List α) (a : α) (middle : List α) (last : α) :
    swapRemove (front ++ a :: (middle ++ [last])) front.length = front ++ last :: middle := by
  have ends : (front ++ a :: (middle ++ [last])).getLast? = some last := by
    rw [← List.cons_append, ← List.append_assoc, List.getLast?_concat]
  have placed : (front ++ a :: (middle ++ [last])).set front.length last =
      (front ++ last :: middle) ++ [last] := by simp
  simp only [swapRemove, ends, placed, List.dropLast_concat]

theorem length_swapRemove (l : List α) (i : Nat) : (swapRemove l i).length = l.length - 1 := by
  unfold swapRemove
  cases empty : l.getLast? with
  | none =>
    have : l = [] := List.getLast?_eq_none_iff.mp empty
    simp [this]
  | some => simp

theorem getElem?_swapRemove (inside : i < l.length) (k : Nat) :
    (swapRemove l i)[k]? =
      if k + 1 < l.length then if k = i then l.getLast? else l[k]? else none := by
  cases ends : l.getLast? with
  | none =>
    rw [List.getLast?_eq_none_iff.mp ends] at inside
    simp at inside
  | some =>
    simp only [swapRemove, ends, List.getElem?_dropLast, List.length_set]
    by_cases within : k < l.length - 1
    · rw [if_pos within, if_pos (show k + 1 < l.length by omega), List.getElem?_set]
      by_cases same : k = i
      · rw [if_pos same.symm, if_pos same, if_pos inside]
      · rw [if_neg (fun equal => same equal.symm), if_neg same]
    · rw [if_neg within, if_neg (show ¬ k + 1 < l.length by omega)]

theorem perm_swapRemove (found : l[i]? = some a) : (a :: swapRemove l i).Perm l := by
  obtain ⟨inside, value⟩ := List.getElem?_eq_some_iff.mp found
  obtain ⟨front, rest, split, position⟩ : ∃ front rest, l = front ++ a :: rest ∧
      front.length = i := by
    refine ⟨l.take i, l.drop (i + 1), ?_, by simp [Nat.le_of_lt inside]⟩
    rw [← value, List.getElem_cons_drop, List.take_append_drop]
  subst split position
  rcases List.eq_nil_or_concat rest with rfl | ⟨middle, last, rfl⟩
  · rw [swapRemove_last]
    exact (List.perm_append_singleton a front).symm
  · rw [List.concat_eq_append, swapRemove_inner]
    calc (a :: (front ++ last :: middle)).Perm (front ++ a :: last :: middle) :=
          List.perm_middle.symm
      _ |>.Perm (front ++ a :: (middle ++ [last])) := by
          apply List.Perm.append_left
          apply List.Perm.cons
          exact (List.perm_append_singleton last middle).symm

theorem countP_swapRemove (p : α → Bool) (found : l[i]? = some a) :
    (swapRemove l i).countP p + (if p a then 1 else 0) = l.countP p := by
  rw [← (perm_swapRemove found).countP_eq p, List.countP_cons]

end SwapRemove

section References

variable {α : Type*} [DecidableEq α]

/-- The first occurrence is taken out. -/
def remove (l : List α) (a : α) : List α :=
  if a ∈ l then swapRemove l (l.idxOf a) else l

theorem remove_head (a : α) (rest : List α) : remove (a :: rest) a = swapRemove (a :: rest) 0 := by
  simp [remove]

theorem count_remove (l : List α) (a b : α) :
    (remove l a).count b = l.count b - if b = a then 1 else 0 := by
  unfold remove
  by_cases member : a ∈ l
  · have found : l[l.idxOf a]? = some a := List.getElem?_idxOf member
    rw [if_pos member, ← (perm_swapRemove found).count_eq b, List.count_cons]
    by_cases same : b = a
    · subst same
      simp
    · simp [same, Ne.symm same]
  · rw [if_neg member]
    by_cases same : b = a
    · subst same
      simp [List.count_eq_zero_of_not_mem member]
    · simp [same]

theorem length_remove_le (l : List α) (a : α) : (remove l a).length ≤ l.length := by
  unfold remove
  split
  · rw [length_swapRemove]
    omega
  · exact Nat.le_refl _

theorem length_remove (l : List α) (a : α) (member : a ∈ l) :
    (remove l a).length = l.length - 1 := by
  rw [remove, if_pos member, length_swapRemove]

end References

section Linked

variable {ρ τ ι : Type*} [DecidableEq ρ] [DecidableEq τ]

/-- A reference to a row: its owner and its position. -/
structure Ref (ρ : Type*) where
  owner : ρ
  pos : Nat
  deriving DecidableEq

/-- Every row of a live owner is listed at its target, once, and nothing else is listed. -/
def Linked (live : ρ → Bool) (key : ι → τ) (rows : ρ → List ι) (refs : τ → List (Ref ρ)) : Prop :=
  ∀ t r k, (refs t).count ⟨r, k⟩ = if live r = true ∧ (rows r)[k]?.map key = some t then 1 else 0

def unlist (refs : τ → List (Ref ρ)) (t : τ) (a : Ref ρ) : τ → List (Ref ρ) :=
  update refs t (remove (refs t) a)

def enlist (refs : τ → List (Ref ρ)) (t : τ) (a : Ref ρ) : τ → List (Ref ρ) :=
  update refs t (refs t ++ [a])

/-- The references of an owner's first `n` rows are taken out one by one. -/
def unlistRows (key : ι → τ) (rows : List ι) (r : ρ) (n : Nat) (refs : τ → List (Ref ρ)) :
    τ → List (Ref ρ) :=
  (List.range n).foldl (fun refs k =>
    match rows[k]? with
    | some row => unlist refs (key row) ⟨r, k⟩
    | none => refs) refs

variable (refs : τ → List (Ref ρ))

theorem count_unlist (t u : τ) (a b : Ref ρ) :
    (unlist refs t a u).count b = (refs u).count b - if u = t ∧ b = a then 1 else 0 := by
  by_cases same : u = t
  · subst same
    simp [unlist, count_remove]
  · simp [unlist, same]

theorem count_enlist (t u : τ) (a b : Ref ρ) :
    (enlist refs t a u).count b = (refs u).count b + if u = t ∧ b = a then 1 else 0 := by
  by_cases same : u = t
  · subst same
    by_cases equal : b = a
    · subst equal
      simp [enlist]
    · simp [enlist, equal, Ne.symm equal]
  · simp [enlist, same]

theorem length_unlist_le (t u : τ) (a : Ref ρ) :
    (unlist refs t a u).length ≤ (refs u).length := by
  by_cases same : u = t
  · subst same
    rw [unlist, update_self]
    exact length_remove_le _ _
  · have kept : unlist refs t a u = refs u := update_of_ne same _ _
    exact Nat.le_of_eq (congrArg List.length kept)

theorem length_unlist {refs : τ → List (Ref ρ)} {t : τ} {a : Ref ρ} (member : a ∈ refs t) :
    (unlist refs t a t).length + 1 = (refs t).length := by
  rw [unlist, update_self, length_remove _ _ member]
  have positive := List.length_pos_of_mem member
  omega

theorem length_unlistRows_le (key : ι → τ) (rows : List ι) (r : ρ) (n : Nat)
    (refs : τ → List (Ref ρ)) (t : τ) :
    (unlistRows key rows r n refs t).length ≤ (refs t).length := by
  unfold unlistRows
  induction n with
  | zero => exact Nat.le_refl _
  | succ n ih =>
    rw [List.range_succ, List.foldl_concat]
    cases rows[n]? with
    | none => exact ih
    | some => exact Nat.le_trans (length_unlist_le ..) ih

theorem length_enlist_unlist {refs : τ → List (Ref ρ)} {t : τ} {a : Ref ρ} (member : a ∈ refs t)
    (b : Ref ρ) (u : τ) : (enlist (unlist refs t a) t b u).length = (refs u).length := by
  by_cases same : u = t
  · subst same
    rw [enlist, update_self, List.length_append, List.length_singleton]
    exact length_unlist member
  · rw [enlist, update_of_ne same, unlist, update_of_ne same]

namespace Linked

variable {live : ρ → Bool} {key : ι → τ} {rows : ρ → List ι} {refs : τ → List (Ref ρ)}

theorem listed (linked : Linked live key rows refs) (alive : live r = true)
    (found : (rows r)[k]? = some row) : (refs (key row)).count ⟨r, k⟩ = 1 := by
  rw [linked, if_pos ⟨alive, by rw [found]; rfl⟩]

theorem backed (linked : Linked live key rows refs) (member : a ∈ refs t) :
    live a.owner = true ∧ ∃ row, (rows a.owner)[a.pos]? = some row ∧ key row = t := by
  have positive : 0 < (refs t).count ⟨a.owner, a.pos⟩ := List.count_pos_iff.mpr member
  rw [linked] at positive
  split at positive
  · next watched => exact ⟨watched.1, Option.map_eq_some_iff.mp watched.2⟩
  · exact absurd positive (Nat.lt_irrefl 0)

theorem empty (unused : ∀ r, live r = false) : Linked live key rows fun _ => [] := by
  intro t r k
  simp [unused r]

section

variable (linked : Linked live key rows refs)
include linked

theorem congr (same : ∀ r, (rows' r).map key = (rows r).map key) : Linked live key rows' refs := by
  intro t r k
  rw [linked t r k, ← List.getElem?_map, ← List.getElem?_map, same r]

theorem add (alive : live r = true) (row : ι) :
    Linked live key (update rows r (rows r ++ [row]))
      (enlist refs (key row) ⟨r, (rows r).length⟩) := by
  intro t r' k
  rw [count_enlist, linked t r' k]
  by_cases owner : r' = r
  · subst owner
    rw [update_self]
    rcases Nat.lt_trichotomy k (rows r').length with before | position | after
    · rw [List.getElem?_append_left before]
      have other : k ≠ (rows r').length := Nat.ne_of_lt before
      simp [other]
    · subst position
      simp [alive, eq_comm]
    · have other : k ≠ (rows r').length := Nat.ne_of_gt after
      have outside : (rows r')[k]? = none := List.getElem?_eq_none (Nat.le_of_lt after)
      have beyond : (rows r' ++ [row])[k]? = none :=
        List.getElem?_eq_none (by rw [List.length_append, List.length_singleton]; omega)
      simp [other, outside, beyond]
  · simp [owner]

/-- The row at `k` is removed; the last row, if it is another one, takes its place, and its
reference is entered again under the new position. -/
theorem drop (alive : live r = true) (found : (rows r)[k]? = some row)
    (ends : (rows r).getLast? = some last) :
    Linked live key (update rows r (swapRemove (rows r) k))
      (if k + 1 < (rows r).length then
        enlist (unlist (unlist refs (key row) ⟨r, k⟩) (key last) ⟨r, (rows r).length - 1⟩)
          (key last) ⟨r, k⟩
      else unlist refs (key row) ⟨r, k⟩) := by
  have inside : k < (rows r).length := (List.getElem?_eq_some_iff.mp found).1
  have final : (rows r)[(rows r).length - 1]? = some last := by
    rw [← List.getLast?_eq_getElem?]
    exact ends
  intro t r' k'
  by_cases owner : r' = r
  · subst owner
    rw [update_self, getElem?_swapRemove inside, ends]
    by_cases moved : k + 1 < (rows r').length
    · simp only [moved, if_true, count_enlist, count_unlist, linked t r' k', alive, true_and,
        Ref.mk.injEq]
      by_cases gap : k' = k
      · subst gap
        have other : k' ≠ (rows r').length - 1 := by omega
        simp [moved, found, other, eq_comm]
      · by_cases tail : k' = (rows r').length - 1
        · have beyond : ¬ k' + 1 < (rows r').length := by omega
          subst tail
          simp [final, gap, beyond, eq_comm]
        · by_cases within : k' + 1 < (rows r').length
          · simp [gap, tail, within]
          · have outside : (rows r')[k']? = none := List.getElem?_eq_none (by omega)
            simp [gap, tail, within, outside]
    · simp only [moved, if_false, count_unlist, linked t r' k', alive, true_and, Ref.mk.injEq]
      by_cases gap : k' = k
      · subst gap
        simp [moved, found, eq_comm]
      · by_cases within : k' + 1 < (rows r').length
        · simp [gap, within]
        · have outside : (rows r')[k']? = none := List.getElem?_eq_none (by omega)
          simp [gap, within, outside]
  · split <;> simp [count_enlist, count_unlist, linked t r' k', owner]

theorem count_unlistRows (r : ρ) (n : Nat) (t : τ) (r' : ρ) (k : Nat) :
    (unlistRows key (rows r) r n refs t).count ⟨r', k⟩ =
      if r' = r ∧ k < n then 0 else (refs t).count ⟨r', k⟩ := by
  unfold unlistRows
  induction n generalizing t r' k with
  | zero => simp
  | succ n ih =>
    have earlier (here : ¬ (r' = r ∧ k = n)) : (r' = r ∧ k < n) ↔ (r' = r ∧ k < n + 1) := by
      constructor
      · exact fun both => ⟨both.1, Nat.lt_succ_of_lt both.2⟩
      · intro both
        have distinct : k ≠ n := fun pos => here ⟨both.1, pos⟩
        exact ⟨both.1, Nat.lt_of_le_of_ne (Nat.le_of_lt_succ both.2) distinct⟩
    rw [List.range_succ, List.foldl_concat]
    cases row : (rows r)[n]? with
    | none =>
      rw [ih]
      by_cases here : r' = r ∧ k = n
      · obtain ⟨rfl, rfl⟩ := here
        simp [linked t r' k, row]
      · simp only [earlier here]
    | some row' =>
      rw [count_unlist, ih]
      by_cases here : r' = r ∧ k = n
      · obtain ⟨rfl, rfl⟩ := here
        simp only [Nat.lt_irrefl, and_false, if_false, linked t r' k, row, Option.map_some,
          Option.some.injEq, and_true, Nat.lt_succ_self, if_true]
        split
        · next watched => rw [if_pos watched.2.symm]
        · exact Nat.zero_sub _
      · have other : ¬ (t = key row' ∧ (⟨r', k⟩ : Ref ρ) = ⟨r, n⟩) := by
          intro equal
          exact here ⟨congrArg Ref.owner equal.2, congrArg Ref.pos equal.2⟩
        simp only [earlier here, if_neg other, Nat.sub_zero]

theorem unlistRows (r : ρ) :
    Linked (update live r false) key rows
      (BackRef.unlistRows key (rows r) r (rows r).length refs) := by
  intro t r' k
  rw [linked.count_unlistRows, linked t r' k]
  by_cases owner : r' = r
  · subst owner
    by_cases listed : k < (rows r').length
    · simp [listed]
    · simp [listed]
  · simp [owner]

theorem revive (dead : live r = false) (alive : Bool) :
    Linked (update live r alive) key (update rows r []) refs := by
  intro t r' k
  rw [linked t r' k]
  by_cases owner : r' = r
  · subst owner
    simp [dead]
  · simp [owner]

end

end Linked

end Linked

end AvatarKernel.BackRef
