import Mathlib.Algebra.GroupWithZero.Nat
import Mathlib.Data.Nat.Find

/- Loops over the set bits of a mask, lowest bit first. -/
namespace BitScan

universe u

variable {w : Nat} {β : Type u}

/-- The lowest set bit as a mask, `m & (~m + 1)`. -/
def isolate (mask : BitVec w) : BitVec w := mask &&& (~~~mask + 1#w)

/-- The index of the lowest set bit: the isolated bit is shifted down until 1 is left. -/
def lowest (mask : BitVec w) : Nat := (isolate mask).toNat.log2

/-- The mask without its lowest set bit, `m & (m - 1)`. -/
def clearLowest (mask : BitVec w) : BitVec w := mask &&& (mask - 1#w)

/-- `while (mask) { i = lowest(mask); mask &= mask - 1; acc = f(acc, i); }` -/
def foldBits (f : β → Nat → β) : Nat → BitVec w → β → β
  | 0, _, acc => acc
  | fuel + 1, mask, acc =>
    if mask = 0#w then acc else foldBits f fuel (clearLowest mask) (f acc (lowest mask))

theorem getLsbD_isolate (mask : BitVec w) (i : Nat) :
    (isolate mask).getLsbD i = (mask.getLsbD i && !decide (∃ j < i, mask.getLsbD j = true)) := by
  unfold isolate
  rw [← BitVec.neg_eq_not_add, BitVec.getLsbD_and, BitVec.getLsbD_neg]
  by_cases inside : i < w
  · cases bit : mask.getLsbD i <;> simp [inside]
  · simp [BitVec.getLsbD_of_ge mask i (Nat.le_of_not_lt inside)]

theorem getLsbD_clearLowest (mask : BitVec w) (i : Nat) :
    (clearLowest mask).getLsbD i = (mask.getLsbD i && decide (∃ j < i, mask.getLsbD j = true)) := by
  unfold clearLowest
  rw [← BitVec.not_neg, BitVec.getLsbD_and, BitVec.getLsbD_not, BitVec.getLsbD_neg]
  by_cases inside : i < w
  · cases bit : mask.getLsbD i <;> simp [inside]
  · simp [BitVec.getLsbD_of_ge mask i (Nat.le_of_not_lt inside)]

variable {mask : BitVec w}

theorem exists_first (some : mask ≠ 0#w) :
    ∃ i, mask.getLsbD i = true ∧ ∀ j < i, mask.getLsbD j = false := by
  have set : ∃ i, mask.getLsbD i = true := by
    by_contra none
    apply some
    apply BitVec.eq_of_getLsbD_eq
    intro i _
    simp only [not_exists, Bool.not_eq_true] at none
    simp [none i]
  refine ⟨Nat.find set, Nat.find_spec set, ?_⟩
  intro j before
  simpa using Nat.find_min set before

theorem lowest_eq (set : mask.getLsbD i = true) (first : ∀ j < i, mask.getLsbD j = false) :
    lowest mask = i := by
  have inside := BitVec.lt_of_getLsbD set
  have alone : isolate mask = BitVec.twoPow w i := by
    apply BitVec.eq_of_getLsbD_eq
    intro j _
    rw [getLsbD_isolate, BitVec.getLsbD_twoPow]
    by_cases same : i = j
    · subst same
      simpa [inside, set] using first
    · rcases Nat.lt_or_gt_of_ne same with below | above
      · simp [same]
        intro _
        exact ⟨i, below, set⟩
      · simp [same, first j above]
  unfold lowest
  rw [alone, BitVec.toNat_twoPow, Nat.mod_eq_of_lt (Nat.pow_lt_pow_right (by decide) inside),
    Nat.log2_two_pow]

theorem lowest_set (some : mask ≠ 0#w) : mask.getLsbD (lowest mask) = true := by
  obtain ⟨i, set, first⟩ := exists_first some
  rw [lowest_eq set first]
  exact set

theorem lowest_le (set : mask.getLsbD j = true) : lowest mask ≤ j := by
  have some : mask ≠ 0#w := by
    rintro rfl
    simp at set
  obtain ⟨i, setFirst, first⟩ := exists_first some
  rw [lowest_eq setFirst first]
  by_contra before
  rw [first j (by omega)] at set
  cases set

theorem clearLowest_iff (mask : BitVec w) (j : Nat) :
    (clearLowest mask).getLsbD j = true ↔ mask.getLsbD j = true ∧ lowest mask < j := by
  rw [getLsbD_clearLowest]
  simp only [Bool.and_eq_true, decide_eq_true_eq]
  apply and_congr_right
  intro set
  constructor
  · rintro ⟨k, below, bit⟩
    exact Nat.lt_of_le_of_lt (lowest_le bit) below
  · intro above
    refine ⟨lowest mask, above, lowest_set ?_⟩
    rintro rfl
    simp at set

/-- What holds of the whole mask and is kept by each round holds at the end, when no bit is left: a
mask whose bits lie in the last `fuel` places is used up in `fuel` rounds. -/
theorem foldBits_invariant {Inv : BitVec w → β → Prop}
    (keep : ∀ mask acc, mask ≠ 0#w → Inv mask acc → Inv (clearLowest mask) (f acc (lowest mask)))
    (fuel : Nat) (initial : Inv mask acc) (enough : ∀ i, mask.getLsbD i = true → w ≤ i + fuel) :
    Inv 0#w (foldBits f fuel mask acc) := by
  induction fuel generalizing mask acc with
  | zero =>
    have empty : mask = 0#w := by
      apply BitVec.eq_of_getLsbD_eq
      intro i inside
      rw [BitVec.getLsbD_zero]
      by_contra set
      have bound := enough i (by simpa using set)
      omega
    rw [← empty]
    exact initial
  | succ _ ih =>
    unfold foldBits
    by_cases empty : mask = 0#w
    · rw [if_pos empty, ← empty]
      exact initial
    · rw [if_neg empty]
      apply ih (keep mask acc empty initial)
      intro i left
      have above := (clearLowest_iff mask i).mp left
      have bound := enough _ (lowest_set empty)
      omega

end BitScan
