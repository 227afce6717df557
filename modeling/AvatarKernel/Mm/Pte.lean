import Mathlib.Data.Nat.Bitwise
import AvatarKernel.Arch
import AvatarKernel.Types

namespace AvatarKernel

abbrev Word := BitVec 64

/-- Physical addresses that fit the address field of an entry on all three targets. -/
abbrev physLimit : Nat := 2 ^ 48

/-- How many table levels lie above the tables that hold the leaf entries. -/
def Arch.upperLevels : Arch → Nat
  | .aarch64 => 3
  | .riscv64 => 2
  | .x86_64 => 3

/-- The virtual page number that a walk uses: the 9-bit indices of all levels. -/
def Arch.key (a : Arch) (vaddr : Nat) : Nat := vaddr / 4096 % 512 ^ (a.upperLevels + 1)

/-- First bit and width of the frame number: `RV_PTE_PPN_SHIFT`, `PTE_ADDR_MASK`, `l3_page.pfn`. -/
def Arch.frameField : Arch → Nat × Nat
  | .aarch64 => (12, 36)
  | .riscv64 => (10, 44)
  | .x86_64 => (12, 40)

/-- `RV_PTE_TO_PA`, `x86_pte_to_pa` and `pfn << 12` -/
def Arch.pteAddr (a : Arch) (e : Word) : Nat :=
  (e.extractLsb' a.frameField.1 a.frameField.2).toNat * 4096

/-- The bit number of `RV_PTE_NOFREE` or `PTE_NOFREE` -/
def Arch.nofreeBit : Arch → Nat
  | .aarch64 => 55
  | .riscv64 => 8
  | .x86_64 => 9

/-- The bit number of `RV_PTE_KEEP` or `PTE_KEEP` -/
def Arch.keepBit : Arch → Nat
  | .aarch64 => 56
  | .riscv64 => 9
  | .x86_64 => 10

/-- `RV_PTE_V`, `PTE_PRESENT` and `PTE_VALID` are all bit 0. -/
def pteValid (e : Word) : Bool := e.getLsbD 0

/-- A valid entry of an upper table at which a walk gives up: `rv_pte_is_leaf` and the `PTE_HUGE`
test of `x86_pte_is_leaf`. `find_pte` of AArch64 makes no such test. -/
def Arch.endsWalk : Arch → Word → Bool
  | .aarch64, _ => false
  | .riscv64, e => e.getLsbD 1 || e.getLsbD 2 || e.getLsbD 3
  | .x86_64, e => e.getLsbD 7

def Arch.leafValid : Arch → Word → Bool
  | .aarch64, e => e.getLsbD 0 && e.getLsbD 1
  | .riscv64, e => e.getLsbD 0 && (e.getLsbD 1 || e.getLsbD 2 || e.getLsbD 3)
  | .x86_64, e => e.getLsbD 0

/-- An entry of an upper table that a teardown follows: AArch64 tests `PTE_TABLE`, the others
repeat the test of their walk. -/
def Arch.descends : Arch → Word → Bool
  | .aarch64, e => e.getLsbD 1
  | .riscv64, e => !Arch.riscv64.endsWalk e
  | .x86_64, e => !Arch.x86_64.endsWalk e

/-- `rv_make_table_pte`, `x86_make_table_pte` and `(phys >> 12) << 12 | 0x3` -/
def Arch.tablePte : Arch → Nat → Word
  | .aarch64, pa => BitVec.ofNat 64 (pa / 4096 * 4096 + 0x3)
  | .riscv64, pa => BitVec.ofNat 64 (pa / 4096 * 1024 + 0x1)
  | .x86_64, pa => BitVec.ofNat 64 (pa / 4096 % 2 ^ 40 * 4096 + 0x7)

/-- The fields of `l3_page` that `memory_create_map` leaves as they are. -/
def untouchedFields : Word := 0xFF9F000000000820

/-- The leaf entry that a mapping with `VM_PERM_USER` writes over the entry `old`. -/
def Arch.leafPte : Arch → Word → Nat → Word
  | .aarch64, old, pa =>
    (old &&& untouchedFields) ||| BitVec.ofNat 64 (pa / 4096 % 2 ^ 36 * 4096 + 0x20000000000747)
  | .riscv64, _, pa => BitVec.ofNat 64 (pa / 4096 * 1024 + 0xDF)
  | .x86_64, _, pa => BitVec.ofNat 64 (pa / 4096 % 2 ^ 40 * 4096 + 0x67)

/-- What a valid leaf entry says: its frame and the two software bits. -/
structure Leaf where
  pa : Nat
  nofree : Bool
  keep : Bool
  deriving DecidableEq, Repr

/-- The leaf entry that a word of a leaf table holds. -/
def Arch.decode (a : Arch) (e : Word) : Option Leaf :=
  if a.leafValid e then some ⟨a.pteAddr e, e.getLsbD a.nofreeBit, e.getLsbD a.keepBit⟩ else none

theorem getLsbD_ofNat_div (x n : Nat) (below : n < 64) :
    (BitVec.ofNat 64 x).getLsbD n = decide (x / 2 ^ n % 2 = 1) := by
  rw [BitVec.getLsbD_ofNat, Nat.testBit_eq_decide_div_mod_eq, decide_eq_true below, Bool.true_and]

variable (a : Arch)

theorem pteAddr_ofNat (x : Nat) :
    a.pteAddr (BitVec.ofNat 64 x) =
      x % 2 ^ 64 / 2 ^ a.frameField.1 % 2 ^ a.frameField.2 * 4096 := by
  rw [Arch.pteAddr, BitVec.extractLsb'_toNat, BitVec.toNat_ofNat, Nat.shiftRight_eq_div_pow]

theorem tablePte_spec (aligned : pa % 4096 = 0) (small : pa < physLimit) :
    pteValid (a.tablePte pa) = true ∧ a.endsWalk (a.tablePte pa) = false ∧
      a.descends (a.tablePte pa) = true ∧ a.pteAddr (a.tablePte pa) = pa := by
  have bound : pa < 2 ^ 48 := small
  cases a <;>
    simp only [pteValid, Arch.endsWalk, Arch.descends, Arch.tablePte, pteAddr_ofNat,
      Arch.frameField, getLsbD_ofNat_div _ 0 (by decide), getLsbD_ofNat_div _ 1 (by decide),
      getLsbD_ofNat_div _ 2 (by decide), getLsbD_ofNat_div _ 3 (by decide),
      getLsbD_ofNat_div _ 7 (by decide), decide_eq_true_eq, decide_eq_false_iff_not,
      Bool.or_eq_false_iff, Bool.not_eq_true', true_and] <;>
    omega

theorem decode_leafPte (aligned : pa % 4096 = 0) (small : pa < physLimit) :
    a.decode (a.leafPte 0#64 pa) = some ⟨pa, false, false⟩ := by
  have bound : pa < 2 ^ 48 := small
  have valid : a.leafValid (a.leafPte 0#64 pa) = true := by
    cases a <;>
      simp only [Arch.leafValid, Arch.leafPte, BitVec.zero_and, BitVec.zero_or,
        getLsbD_ofNat_div _ 0 (by decide), getLsbD_ofNat_div _ 1 (by decide), decide_eq_true_eq,
        Bool.and_eq_true, Bool.or_eq_true] <;>
      omega
  have frame : a.pteAddr (a.leafPte 0#64 pa) = pa := by
    cases a <;>
      simp only [Arch.leafPte, BitVec.zero_and, BitVec.zero_or, pteAddr_ofNat, Arch.frameField] <;>
      omega
  have shared : (a.leafPte 0#64 pa).getLsbD a.nofreeBit = false := by
    cases a <;>
      simp only [Arch.leafPte, BitVec.zero_and, BitVec.zero_or, Arch.nofreeBit,
        getLsbD_ofNat_div _ 55 (by decide), getLsbD_ofNat_div _ 8 (by decide),
        getLsbD_ofNat_div _ 9 (by decide), decide_eq_false_iff_not] <;>
      omega
  have device : (a.leafPte 0#64 pa).getLsbD a.keepBit = false := by
    cases a <;>
      simp only [Arch.leafPte, BitVec.zero_and, BitVec.zero_or, Arch.keepBit,
        getLsbD_ofNat_div _ 56 (by decide), getLsbD_ofNat_div _ 9 (by decide),
        getLsbD_ofNat_div _ 10 (by decide), decide_eq_false_iff_not] <;>
      omega
  rw [Arch.decode, if_pos valid, frame, shared, device]

theorem pteValid_of_leafValid (valid : a.leafValid e = true) : pteValid e = true := by
  cases a <;> simp_all [pteValid, Arch.leafValid]

theorem leafValid_zero : a.leafValid 0#64 = false := by
  cases a <;> rfl

theorem pteValid_zero : pteValid 0#64 = false := rfl

theorem decode_zero : a.decode 0#64 = none := by
  rw [Arch.decode, leafValid_zero]
  rfl

section Soft

variable {a : Arch} {n : Nat}

end Soft

end AvatarKernel
