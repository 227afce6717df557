import AvatarKernel.Signal.Delivery

namespace AvatarKernel

variable {a : Arch}

def UserMemory.frameAt (m : UserMemory) (addr : BitVec 64) : TrapFrame a :=
  TrapFrame.ofBytes (m.bytesAt addr.toNat)

def SigTask.Restores (t : SigTask a) : Prop :=
  t.sigFrameSp ≠ 0 ∧ userRangeAccessible t.mem t.sigFrameSp.toNat a.frameSize = true

theorem sigreturnHandler_of_restores {t : SigTask a} (restores : t.Restores) :
    sigreturnHandler t = ({ t with
        frame := t.mem.frameAt t.sigFrameSp
        sigFrameSp := 0
        blockedSigs := t.sigSavedBlocked },
        (t.mem.frameAt t.sigFrameSp : TrapFrame a).reg a.retReg) := by
  rw [sigreturnHandler, if_pos restores.1, copyFromUserBytes, if_pos restores.2]
  rfl

theorem sigreturnHandler_of_not_restores {t : SigTask a} (kept : ¬ t.Restores) :
    (sigreturnHandler t).1 = t := by
  by_cases frame : t.sigFrameSp = 0
  · rw [sigreturnHandler, if_neg (not_not.mpr frame)]
  · have unreadable : ¬ userRangeAccessible t.mem t.sigFrameSp.toNat a.frameSize = true :=
      fun readable => kept ⟨frame, readable⟩
    rw [sigreturnHandler, if_pos frame, copyFromUserBytes, if_neg unreadable]

theorem rtSigreturn_of_restores {t : SigTask a} (restores : t.Restores) :
    rtSigreturn t = { t with
      frame := t.mem.frameAt t.sigFrameSp
      sigFrameSp := 0
      blockedSigs := t.sigSavedBlocked } := by
  rw [rtSigreturn, sigreturnHandler_of_restores restores]
  simp only [syscallAbiSetRet, TrapFrame.setReg_self]

/-- A return from a handler leaves a user-mode frame exactly when it restores nothing or the image
in user memory is one of a user-mode context: nothing of the image is checked. -/
theorem sigreturn_userMode_iff (t : SigTask a) (entry : t.frame.UserMode) :
    (sigreturnHandler t).1.frame.UserMode ↔
      t.sigFrameSp = 0 ∨ userRangeAccessible t.mem t.sigFrameSp.toNat a.frameSize = false ∨
        (t.mem.frameAt t.sigFrameSp : TrapFrame a).UserMode := by
  by_cases restores : t.Restores
  · rw [sigreturnHandler_of_restores restores]
    constructor
    · intro user
      exact .inr (.inr user)
    · intro cases
      rcases cases with none | unreadable | user
      · exact absurd none restores.1
      · exact absurd restores.2 (Bool.not_eq_true _ ▸ unreadable)
      · exact user
  · rw [sigreturnHandler_of_not_restores restores]
    have nothing : t.sigFrameSp = 0 ∨
        userRangeAccessible t.mem t.sigFrameSp.toNat a.frameSize = false := by
      by_contra both
      rw [not_or, Bool.not_eq_false] at both
      exact restores both
    exact iff_of_true entry (nothing.elim Or.inl fun blocked => Or.inr (Or.inl blocked))

/-- A process in a signal handler: its frame lies in the page at `0x1000`, the only one mapped, and
every byte of memory is `image`. -/
def handlerTask (a : Arch) (image : BitVec 8) (frame : TrapFrame a) : SigTask a where
  pendingSigs := 0
  blockedSigs := 0
  sigSavedBlocked := 0
  sigFrameSp := 0x1000
  sigActions := fun _ => ⟨0, 0, 0⟩
  frame := frame
  mem := ⟨fun page => if page = 0x1000 then 0x80000000 else 0, fun _ => image⟩

theorem sigreturn_userMode_of_ones :
    (sigreturnHandler (handlerTask .x86_64 0xff fun _ => 3)).1.frame.UserMode :=
  (sigreturn_userMode_iff (handlerTask .x86_64 0xff fun _ => 3) (by decide)).mpr
    (.inr (.inr (by decide +kernel)))

/-- Bytes `0x05` over the frame select EL1h on AArch64 and set `SPP` on RISC-V; bytes `0x08` select
the kernel's segments on x86_64. -/
theorem sigreturn_leaves_userMode :
    ((handlerTask .aarch64 0x05 fun _ => 0).frame.UserMode ∧
      ¬ (sigreturnHandler (handlerTask .aarch64 0x05 fun _ => 0)).1.frame.UserMode) ∧
    ((handlerTask .riscv64 0x05 fun _ => 0).frame.UserMode ∧
      ¬ (sigreturnHandler (handlerTask .riscv64 0x05 fun _ => 0)).1.frame.UserMode) ∧
    ((handlerTask .x86_64 0x08 fun _ => 3).frame.UserMode ∧
      ¬ (sigreturnHandler (handlerTask .x86_64 0x08 fun _ => 3)).1.frame.UserMode) := by
  decide +kernel

end AvatarKernel
