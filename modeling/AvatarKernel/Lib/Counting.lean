import Mathlib.Algebra.BigOperators.Group.Finset.Piecewise
import Mathlib.Data.Nat.Count
import Mathlib.Order.Interval.Finset.Nat

namespace Counting

open Function

variable {p q : Nat → Prop} [DecidablePred p] [DecidablePred q]

theorem count_window (within : start + width ≤ limit)
    (before : ∀ i, start ≤ i → i < start + width → ¬ p i)
    (after : ∀ i, start ≤ i → i < start + width → q i)
    (outside : ∀ i, i < limit → ¬ (start ≤ i ∧ i < start + width) → (p i ↔ q i)) :
    Nat.count q limit = Nat.count p limit + width := by
  have union : (Finset.range limit).filter q =
      (Finset.range limit).filter p ∪ Finset.Ico start (start + width) := by
    ext i
    simp only [Finset.mem_filter, Finset.mem_range, Finset.mem_union, Finset.mem_Ico]
    by_cases inside : start ≤ i ∧ i < start + width
    · have bound : i < limit := by omega
      simp only [inside, bound, after i inside.1 inside.2, and_self, or_true]
    · constructor
      · rintro ⟨bound, holds⟩
        exact .inl ⟨bound, (outside i bound inside).mpr holds⟩
      · rintro (⟨bound, holds⟩ | window)
        · exact ⟨bound, (outside i bound inside).mp holds⟩
        · exact absurd window inside
  have apart : Disjoint ((Finset.range limit).filter p) (Finset.Ico start (start + width)) := by
    rw [Finset.disjoint_left]
    intro i member window
    rw [Finset.mem_Ico] at window
    exact before i window.1 window.2 (Finset.mem_filter.mp member).2
  rw [Nat.count_eq_card_filter_range, Nat.count_eq_card_filter_range, union,
    Finset.card_union_of_disjoint apart, Nat.card_Ico, Nat.add_sub_cancel_left]

theorem count_disjoint [DecidablePred r] (union : ∀ i, i < limit → (r i ↔ p i ∨ q i))
    (apart : ∀ i, i < limit → ¬ (p i ∧ q i)) :
    Nat.count r limit = Nat.count p limit + Nat.count q limit := by
  induction limit with
  | zero => rfl
  | succ limit ih =>
    have smaller := ih (fun i below => union i (by omega)) (fun i below => apart i (by omega))
    have here := union limit (by omega)
    have once := apart limit (by omega)
    rw [Nat.count_succ, Nat.count_succ, Nat.count_succ, smaller]
    by_cases left : p limit
    · have right : ¬ q limit := fun holds => once ⟨left, holds⟩
      simp only [here, left, right, or_false, ↓reduceIte]
      omega
    · simp only [here, left, false_or, ↓reduceIte]
      omega

theorem card_update [Fintype ι] [DecidableEq ι] (P : β → Prop) [DecidablePred P] (g : ι → β)
    (i : ι) (b : β) :
    (Finset.univ.filter fun j => P (update g i b j)).card + (if P (g i) then 1 else 0) =
      (Finset.univ.filter fun j => P (g j)).card + (if P b then 1 else 0) := by
  rw [Finset.card_filter, Finset.card_filter,
    ← Finset.add_sum_erase _ (fun j => if P (update g i b j) then 1 else 0)
      (Finset.mem_univ i),
    ← Finset.add_sum_erase _ (fun j => if P (g j) then 1 else 0) (Finset.mem_univ i)]
  have rest : ∑ j ∈ Finset.univ.erase i, (if P (update g i b j) then 1 else 0) =
      ∑ j ∈ Finset.univ.erase i, if P (g j) then 1 else 0 := by
    apply Finset.sum_congr rfl
    intro j member
    rw [update_of_ne (Finset.ne_of_mem_erase member)]
  rw [update_self, rest]
  omega

end Counting
