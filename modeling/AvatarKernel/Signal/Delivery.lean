import AvatarKernel.Signal.TrapFrame
import AvatarKernel.Syscall.UserCopy

namespace AvatarKernel

def nsig : Nat := 64

def sigDfl : BitVec 64 := 0

def sigIgn : BitVec 64 := 1

def sigkill : Nat := 9

def sigstop : Nat := 19

/-- The signals whose default action is to do nothing: `SIGCHLD`, `SIGCONT`, `SIGURG`, `SIGWINCH`,
`SIGTTIN`, `SIGTTOU` and `SIGTSTP`. -/
def ignoredByDefault : List Nat := [17, 18, 23, 28, 21, 22, 20]

def userSigretPage : BitVec 64 := 0x70001000

def sigBit (sig : Nat) : BitVec 64 := 1#64 <<< (sig - 1)

structure SigAction where
  saHandler : BitVec 64
  saRestorer : BitVec 64
  saMask : BitVec 64

/-- The signal fields of `task_t`, the trap frame the task entered the kernel with, and the memory
of its process. -/
structure SigTask (a : Arch) where
  pendingSigs : BitVec 64
  blockedSigs : BitVec 64
  sigSavedBlocked : BitVec 64
  sigFrameSp : BitVec 64
  sigActions : Fin nsig → SigAction
  frame : TrapFrame a
  mem : UserMemory

/-- The `rt_sigreturn` stub put on the stack when no restorer was given: `mov x8, #139; svc #0`, or
`li a7, 139; ecall`. -/
def Arch.trampoline : Arch → BitVec 64
  | .aarch64 => 0xd4000001#32 ++ 0xd2801168#32
  | .riscv64 => 0x00000073#32 ++ 0x08b00893#32
  | .x86_64 => 0

/-- Where a signal frame was put: the saved trap frame, the handler's stack pointer and its return
address. -/
structure Sigframe where
  frameAddr : BitVec 64
  sp : BitVec 64
  restorer : BitVec 64

/-- The signal frame on x86_64: the trap frame, then the return address below it. The memory is
returned also when the second write fails, since the first has then happened. -/
def pushSigframeX86 (m : UserMemory) (f : TrapFrame .x86_64) : UserMemory × Option Sigframe :=
  let frameAddr := (f.reg Arch.x86_64.spReg &&& ~~~15#64) - BitVec.ofNat 64 Arch.x86_64.frameSize
  match copyToUserBytes m f.toBytes frameAddr.toNat Arch.x86_64.frameSize with
  | none => (m, none)
  | some saved =>
    let usp := frameAddr - 8
    match copyToUserBytes saved (Memory.byteAt userSigretPage) usp.toNat 8 with
    | none => (saved, none)
    | some pushed => (pushed, some ⟨frameAddr, usp, userSigretPage⟩)

def pushFrame {a : Arch} (m : UserMemory) (f : TrapFrame a) (top restorer : BitVec 64) :
    UserMemory × Option Sigframe :=
  let usp := top - BitVec.ofNat 64 a.frameSize
  match copyToUserBytes m f.toBytes usp.toNat a.frameSize with
  | none => (m, none)
  | some saved => (saved, some ⟨usp, usp, restorer⟩)

/-- The signal frame on AArch64 and RISC-V, with the return stub above it if the action has no
restorer. -/
def pushSigframeStub {a : Arch} (m : UserMemory) (f : TrapFrame a) (restorer : BitVec 64) :
    UserMemory × Option Sigframe :=
  let top := f.reg a.spReg &&& ~~~15#64
  if restorer = 0 then
    match copyToUserBytes m (Memory.byteAt a.trampoline) (top - 8).toNat 8 with
    | none => (m, none)
    | some stubbed => pushFrame stubbed f (top - 8) (top - 8)
  else pushFrame m f top restorer

def pushSigframe : {a : Arch} → UserMemory → TrapFrame a → BitVec 64 → UserMemory × Option Sigframe
  | .x86_64, m, f, _ => pushSigframeX86 m f
  | .aarch64, m, f, restorer => pushSigframeStub m f restorer
  | .riscv64, m, f, restorer => pushSigframeStub m f restorer

/-- The trap frame that enters the handler. -/
def enterHandler : {a : Arch} → TrapFrame a → Sigframe → Nat → BitVec 64 → TrapFrame a
  | .x86_64, f, pushed, sig, handler =>
    -- rsp, rip, rdi, and the direction flag of rflags cleared
    (((f.setReg 20 pushed.sp).setReg 17 handler).setReg 9 (BitVec.ofNat 64 sig)).setReg 19
      (f.reg 19 &&& ~~~(1#64 <<< 10))
  | .aarch64, f, pushed, sig, handler =>
    -- usp, x0, lr, elr
    (((f.setReg 31 pushed.sp).setReg 0 (BitVec.ofNat 64 sig)).setReg 30 pushed.restorer).setReg 32
      handler
  | .riscv64, f, pushed, sig, handler =>
    -- sp, a0, ra, sepc
    (((f.setReg 2 pushed.sp).setReg 10 (BitVec.ofNat 64 sig)).setReg 1 pushed.restorer).setReg 32
      handler

inductive Delivery where
  | idle
  | ignored (sig : Nat)
  | exits (sig : Nat)
  | handled (sig : Nat)
  | faulted (sig : Nat)
  deriving DecidableEq

/-- The lowest pending signal that is not blocked. -/
def nextSignal {a : Arch} (t : SigTask a) : Option (Fin nsig) :=
  (List.finRange nsig).find? fun i => (t.pendingSigs &&& ~~~t.blockedSigs).getLsbD i.val

/-- The part of `deliver_pending_signals` that runs a user handler for signal `i + 1`. -/
def deliverToHandler {a : Arch} (t : SigTask a) (i : Fin nsig) : SigTask a × Delivery :=
  let sig := i.val + 1
  let action := t.sigActions i
  let masked := { t with
    sigSavedBlocked := t.blockedSigs
    blockedSigs := t.blockedSigs ||| (sigBit sig |||
      (action.saMask &&& ~~~(sigBit sigkill ||| sigBit sigstop))) }
  let result := pushSigframe t.mem t.frame action.saRestorer
  match result.2 with
  | none =>
    -- sigframe_fault: the signal is pending again and the mask is put back
    ({ masked with
      mem := result.1
      pendingSigs := t.pendingSigs ||| sigBit sig
      blockedSigs := t.blockedSigs }, .faulted sig)
  | some pushed =>
    ({ masked with
      mem := result.1
      sigFrameSp := pushed.frameAddr
      frame := enterHandler t.frame pushed sig action.saHandler }, .handled sig)

def deliverPendingSignals {a : Arch} (t : SigTask a) : SigTask a × Delivery :=
  match nextSignal t with
  | none => (t, .idle)
  | some i =>
    let sig := i.val + 1
    let taken := { t with pendingSigs := t.pendingSigs &&& ~~~sigBit sig }
    if (t.sigActions i).saHandler = sigIgn then (taken, .ignored sig)
    else if (t.sigActions i).saHandler = sigDfl then
      if sig ∈ ignoredByDefault then (taken, .ignored sig) else (taken, .exits sig)
    else deliverToHandler taken i

def efault : BitVec 64 := -14

/-- `sigreturn_handler`: the task and the return value left in `regs[0]`. -/
def sigreturnHandler {a : Arch} (t : SigTask a) : SigTask a × BitVec 64 :=
  if t.sigFrameSp ≠ 0 then
    match copyFromUserBytes t.mem t.sigFrameSp.toNat a.frameSize with
    | none => (t, efault)
    | some bytes =>
      ({ t with
        frame := TrapFrame.ofBytes bytes
        sigFrameSp := 0
        blockedSigs := t.sigSavedBlocked }, (TrapFrame.ofBytes bytes : TrapFrame a).reg a.retReg)
  else (t, 0)

/-- The system call as a whole: the handler, then its return value put into the trap frame. -/
def rtSigreturn {a : Arch} (t : SigTask a) : SigTask a :=
  let result := sigreturnHandler t
  { result.1 with frame := syscallAbiSetRet result.1.frame result.2 }

end AvatarKernel
