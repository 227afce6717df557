import Mathlib.Algebra.GroupWithZero.Nat
import Mathlib.Data.Nat.Basic

namespace AvatarKernel

/-- A `uint64_t` argument. Inside the model words are natural numbers and every operation that can
leave the range reduces its result. -/
abbrev U64 := Fin (2 ^ 64)

instance u64_neZero : NeZero (2 ^ 64) := ⟨by decide⟩

/-! Numerals name the parties of a run with one or two of them. -/
namespace Numerals

scoped instance one : NeZero 1 := ⟨by decide⟩

scoped instance two : NeZero 2 := ⟨by decide⟩

end Numerals

/-- A `uint32_t` page count that has passed `assert(page_count > 0)`. -/
abbrev PageCount := { n : Nat // 0 < n ∧ n < 2 ^ 32 }

def pageSize : Nat := 4096

def alignDown (x : Nat) : Nat := x / 4096 * 4096

/-- `ALIGN_UP(x, PAGE_SIZE)` in 64-bit arithmetic: the sum wraps for the last 4095 addresses. -/
def alignUp (x : Nat) : Nat := (x + 4095) % 2 ^ 64 / 4096 * 4096

theorem alignDown_le (x : Nat) : alignDown x ≤ x := Nat.div_mul_le_self x 4096

@[simp] theorem alignDown_mod (x : Nat) : alignDown x % 4096 = 0 := Nat.mul_mod_left _ _

@[simp] theorem alignUp_mod (x : Nat) : alignUp x % 4096 = 0 := Nat.mul_mod_left _ _

theorem alignUp_lt (x : Nat) : alignUp x < 2 ^ 64 := by
  unfold alignUp
  omega

theorem alignUp_of_le (small : x ≤ 2 ^ 64 - 4096) : x ≤ alignUp x ∧ alignUp x < x + 4096 := by
  unfold alignUp
  omega

theorem alignUp_of_gt (large : 2 ^ 64 - 4096 < x) (word : x < 2 ^ 64) : alignUp x = 0 := by
  unfold alignUp
  omega

end AvatarKernel
