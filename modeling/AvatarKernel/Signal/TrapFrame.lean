import AvatarKernel.Arch
import AvatarKernel.Lib.Memory
import Mathlib.Data.Fintype.Basic

namespace AvatarKernel

/-- The number of 64-bit words of `trap_frame_t`. -/
def Arch.frameWords : Arch → Nat
  | .aarch64 => 102
  | .riscv64 => 69
  | .x86_64 => 22

def Arch.frameSize (a : Arch) : Nat := 8 * a.frameWords

/-- The saved registers of a trap, word by word in the order of `trap_frame_t`: on AArch64
`r[31]`, `usp`, `elr`, `spsr`, `tpidr`, padding, `q`, `fpcr`, `fpsr`; on RISC-V `x[32]`, `sepc`,
`scause`, `stval`, `sstatus`, `f`, `fcsr`; on x86_64 `r15` down to `rax`, `vector`, `error_code`,
`rip`, `cs`, `rflags`, `rsp`, `ss`. -/
def TrapFrame (a : Arch) : Type := Fin a.frameWords → BitVec 64

namespace TrapFrame

variable {a : Arch}

instance : DecidableEq (TrapFrame a) := inferInstanceAs (DecidableEq (Fin a.frameWords → BitVec 64))

def reg (f : TrapFrame a) (index : Nat) : BitVec 64 :=
  if inside : index < a.frameWords then f ⟨index, inside⟩ else 0

def setReg (f : TrapFrame a) (index : Nat) (value : BitVec 64) : TrapFrame a :=
  fun i => if i.val = index then value else f i

def toBytes (f : TrapFrame a) : Nat → BitVec 8 :=
  fun k => Memory.byteAt (f.reg (k / 8)) (k % 8)

def ofBytes (bytes : Nat → BitVec 8) : TrapFrame a :=
  fun i => Memory.wordOf fun k => bytes (8 * i.val + k)

theorem reg_val (f : TrapFrame a) (i : Fin a.frameWords) : f.reg i.val = f i := by
  simp only [reg, i.isLt, dif_pos]

theorem setReg_self (f : TrapFrame a) (index : Nat) : f.setReg index (f.reg index) = f := by
  funext i
  unfold setReg
  split
  · next same => rw [← same, reg_val]
  · rfl

theorem ofBytes_congr (same : ∀ k, k < a.frameSize → left k = right k) :
    (ofBytes left : TrapFrame a) = ofBytes right := by
  funext i
  apply Memory.wordOf_congr
  intro k below
  have inside := i.isLt
  apply same
  unfold Arch.frameSize
  omega

theorem ofBytes_toBytes (f : TrapFrame a) : ofBytes f.toBytes = f := by
  funext i
  have bytes : ∀ k, k < 8 → f.toBytes (8 * i.val + k) = Memory.byteAt (f i) k := by
    intro k below
    have word : (8 * i.val + k) / 8 = i.val := by omega
    have offset : (8 * i.val + k) % 8 = k := by omega
    rw [toBytes, word, offset, reg_val]
  rw [ofBytes, Memory.wordOf_congr bytes, Memory.wordOf_byteAt]

end TrapFrame

/-- The word that holds the user stack pointer. -/
def Arch.spReg : Arch → Nat
  | .aarch64 => 31
  | .riscv64 => 2
  | .x86_64 => 20

/-- The word a system call's return value is put in. -/
def Arch.retReg : Arch → Nat
  | .aarch64 => 0
  | .riscv64 => 10
  | .x86_64 => 14

/-- The frame describes a user-mode context: `spsr` selects EL0t, `sstatus.SPP` is clear, or `cs`
and `ss` both have privilege level 3. -/
def TrapFrame.UserMode : {a : Arch} → TrapFrame a → Prop
  | .aarch64, f => f.reg 33 &&& 0xf = 0
  | .riscv64, f => f.reg 35 &&& 0x100 = 0
  | .x86_64, f => f.reg 18 &&& 3 = 3 ∧ f.reg 21 &&& 3 = 3

instance : {a : Arch} → (f : TrapFrame a) → Decidable f.UserMode
  | .aarch64, _ | .riscv64, _ => inferInstanceAs (Decidable (_ = _))
  | .x86_64, _ => inferInstanceAs (Decidable (_ ∧ _))

def syscallAbiSetRet {a : Arch} (f : TrapFrame a) (value : BitVec 64) : TrapFrame a :=
  f.setReg a.retReg value

end AvatarKernel
