import Mathlib.Algebra.GroupWithZero.Nat
import Mathlib.Order.Basic

namespace AvatarKernel

/-- The three targets the kernel is built for. -/
inductive Arch where
  | aarch64
  | riscv64
  | x86_64
  deriving DecidableEq, Repr

end AvatarKernel
