import AvatarKernel.Lib.Transition

namespace AvatarKernel

open Transition
open Function (update update_apply)

def vnpuBase : Nat := 0xFDAB0000

def vnpuSize : Nat := 0x30000

def vnpuCores : Nat := 3

def vnpuIsMmuReg (off : Nat) : Bool :=
  off / 0x100 * 0x100 == 0x9000 || off / 0x100 * 0x100 == 0xA000 ||
    off / 0x100 * 0x100 == 0x1A000 || off / 0x100 * 0x100 == 0x2A000

/-- A VM as the NPU knows it: whether the device is on its bus, and the NPU interrupts that are
pending in it, by core. -/
structure NpuVm where
  live : Bool
  vmid : Nat
  onBus : Bool
  irq : Nat → Bool

def NpuVm.zero : NpuVm := ⟨false, 0, false, fun _ => false⟩

/-- An access of a guest that has gone on to the hardware. `owner` records whether its VM owned the
NPU then. -/
structure NpuForward where
  slot : Nat
  off : Nat
  size : Nat
  owner : Bool

/-- The NPU and the VMs. `present` says that the platform has one; `regs` are the bytes of its
register window. The log is not in the code. -/
structure NpuHost where
  present : Bool
  owned : Bool
  ownerVmid : Nat
  regs : Nat → BitVec 8
  vm : Nat → NpuVm
  log : List NpuForward

namespace NpuHost

def owns (s : NpuHost) (slot : Nat) : Bool :=
  (s.vm slot).live && s.owned && s.ownerVmid == (s.vm slot).vmid

def setVm (s : NpuHost) (slot : Nat) (vm : NpuVm) : NpuHost :=
  { s with vm := update s.vm slot vm }

/-- `read32` at an offset of the window. -/
def reg32 (s : NpuHost) (off : Nat) : BitVec 32 :=
  s.regs (off + 3) ++ s.regs (off + 2) ++ s.regs (off + 1) ++ s.regs off

def vnpuDestroy (s : NpuHost) (vmid : Nat) : NpuHost :=
  if !s.owned || s.ownerVmid != vmid then s else { s with owned := false }

/-- Whether `vnpu_init` succeeds; `busOk` is the answer of `mmio_bus_register`. -/
def vnpuInitOk (s : NpuHost) (vmid : Nat) (busOk : Bool) : Bool :=
  !s.present || (!(s.owned && s.ownerVmid != vmid) && busOk)

/-- A VM is allocated and created. When `vnpu_init` fails so does `vm_create`, and `vm_free` takes
the VM back. -/
def create (s : NpuHost) (slot vmid : Nat) (busOk : Bool) : NpuHost :=
  if s.vnpuInitOk vmid busOk then
    if s.present then
      { s.setVm slot ⟨true, vmid, true, fun _ => false⟩ with owned := true, ownerVmid := vmid }
    else s.setVm slot ⟨true, vmid, false, fun _ => false⟩
  else s.vnpuDestroy vmid

def destroy (s : NpuHost) (slot : Nat) : NpuHost :=
  (s.vnpuDestroy (s.vm slot).vmid).setVm slot .zero

def hits (s : NpuHost) (slot gpa : Nat) : Bool :=
  (s.vm slot).onBus && decide (vnpuBase ≤ gpa) && decide (gpa < vnpuBase + vnpuSize)

end NpuHost

def vnpuForwards (off size : Nat) : Bool :=
  decide (off + size ≤ vnpuSize) && !vnpuIsMmuReg off && (size == 1 || size == 2 || size == 4)

def NpuHost.forward (s : NpuHost) (slot off size : Nat) : NpuHost :=
  { s with log := ⟨slot, off, size, s.owns slot⟩ :: s.log }

def storeBytes (regs : Nat → BitVec 8) (off size : Nat) (value : BitVec 64) : Nat → BitVec 8 :=
  fun o => if off ≤ o ∧ o < off + size then (value >>> (8 * (o - off))).setWidth 8 else regs o

def NpuHost.read (s : NpuHost) (slot gpa size : Nat) : NpuHost :=
  if s.hits slot gpa && vnpuForwards (gpa - vnpuBase) size then
    s.forward slot (gpa - vnpuBase) size
  else s

def NpuHost.write (s : NpuHost) (slot gpa size : Nat) (value : BitVec 64) : NpuHost :=
  if s.hits slot gpa && vnpuForwards (gpa - vnpuBase) size then
    { s.forward slot (gpa - vnpuBase) size with
      regs := storeBytes s.regs (gpa - vnpuBase) size value }
  else s

/-- `vnpu_irq_asserted`, which does not look at the VM. -/
def NpuHost.irqAsserted (s : NpuHost) (core : Nat) : Bool :=
  s.owned && s.present && decide (core < vnpuCores) &&
    (s.reg32 (core * 0x10000 + 0x28) &&& s.reg32 (core * 0x10000 + 0x20)) != 0#32

def NpuHost.enter (s : NpuHost) (slot : Nat) : NpuHost :=
  s.setVm slot { s.vm slot with irq := fun core => (s.vm slot).irq core || s.irqAsserted core }

/-- What happens to the NPU. `device` stands for the hardware and the host's own driver, which
change the registers in any way. -/
inductive NpuAction where
  | create (slot vmid : Nat) (busOk : Bool)
  | destroy (slot : Nat)
  | read (slot gpa size : Nat)
  | write (slot gpa size : Nat) (value : BitVec 64)
  | device (regs : Nat → BitVec 8)
  | enter (slot : Nat)
  | acknowledge (slot core : Nat)

def NpuHost.next (s : NpuHost) : NpuAction → NpuHost
  | .create slot vmid busOk =>
    if slot < 32 ∧ (s.vm slot).live = false then s.create slot vmid busOk else s
  | .destroy slot => if (s.vm slot).live then s.destroy slot else s
  | .read slot gpa size => if (s.vm slot).live then s.read slot gpa size else s
  | .write slot gpa size value => if (s.vm slot).live then s.write slot gpa size value else s
  | .device regs => { s with regs := regs }
  | .enter slot => if (s.vm slot).live then s.enter slot else s
  | .acknowledge slot core =>
    s.setVm slot { s.vm slot with irq := update (s.vm slot).irq core false }

def NpuHost.boot (present : Bool) : NpuHost := ⟨present, false, 0, fun _ => 0#8, fun _ => .zero, []⟩

def MmuByte (off : Nat) : Prop :=
  (0x9000 ≤ off ∧ off < 0x9100) ∨ (0xA000 ≤ off ∧ off < 0xA100) ∨
    (0x1A000 ≤ off ∧ off < 0x1A100) ∨ (0x2A000 ≤ off ∧ off < 0x2A100)

def NpuForward.Outside (f : NpuForward) : Prop :=
  ∀ off, f.off ≤ off → off < f.off + f.size → ¬ MmuByte off

/-- No forwarded access has touched a byte of the MMU blocks or came from a VM without the NPU, what
such a VM does changes no register, and NPU interrupts are pending in the owner only. -/
structure NpuHost.Confined (s : NpuHost) : Prop where
  blocks : ∀ f ∈ s.log, f.Outside
  owners : ∀ f ∈ s.log, f.owner = true
  registers : ∀ slot gpa size value, s.owns slot = false →
    (s.next (.read slot gpa size)).regs = s.regs ∧
      (s.next (.write slot gpa size value)).regs = s.regs
  irqs : ∀ slot core, (s.vm slot).irq core = true → s.owns slot = true

theorem vnpuForwards_outside (forwards : vnpuForwards off size = true)
    (within : off % 0x100 + size ≤ 0x100) (after : off ≤ byte) (before : byte < off + size) :
    ¬ MmuByte byte := by
  simp only [vnpuForwards, vnpuIsMmuReg, Bool.and_eq_true, Bool.not_eq_true', Bool.or_eq_false_iff,
    beq_eq_false_iff_ne, ne_eq] at forwards
  unfold MmuByte
  omega

/-- What keeps the NPU confined: every live VM with the device on its bus owns it, no other VM has
an interrupt, and the names of live VMs differ. -/
structure NpuHost.Held (s : NpuHost) : Prop where
  inside : ∀ slot, (s.vm slot).live = true → slot < 32
  bus : ∀ slot, (s.vm slot).onBus = true → s.owns slot = true
  irqs : ∀ slot core, (s.vm slot).irq core = true → s.owns slot = true
  platform : ∀ slot, s.present = true → (s.vm slot).live = true → s.owns slot = true
  absent : s.present = false → s.owned = false
  distinct : ∀ slot other, (s.vm slot).live = true → (s.vm other).live = true →
    (s.vm slot).vmid = (s.vm other).vmid → slot = other

theorem held_boot (present : Bool) : (NpuHost.boot present).Held where
  inside := by simp [NpuHost.boot, NpuVm.zero]
  bus := by simp [NpuHost.boot, NpuVm.zero]
  irqs := by simp [NpuHost.boot, NpuVm.zero]
  platform := by simp [NpuHost.boot, NpuVm.zero]
  absent := by simp [NpuHost.boot]
  distinct := by simp [NpuHost.boot, NpuVm.zero]

theorem owns_iff (s : NpuHost) (slot : Nat) :
    s.owns slot = true ↔
      (s.vm slot).live = true ∧ s.owned = true ∧ s.ownerVmid = (s.vm slot).vmid := by
  simp [NpuHost.owns, and_assoc]

variable {s : NpuHost}

theorem NpuHost.Held.replace {t : NpuHost} (inv : s.Held) (slot : Nat)
    (others : ∀ other, other ≠ slot → t.vm other = s.vm other)
    (kept : ∀ other, other ≠ slot → s.owns other = true → t.owns other = true)
    (present : t.present = s.present) (absent : s.present = false → t.owned = false)
    (small : (t.vm slot).live = true → slot < 32)
    (bus : (t.vm slot).onBus = true → t.owns slot = true)
    (irqs : ∀ core, (t.vm slot).irq core = true → t.owns slot = true)
    (platform : s.present = true → (t.vm slot).live = true → t.owns slot = true)
    (fresh : ∀ other, other ≠ slot → (t.vm slot).live = true → (s.vm other).live = true →
      (t.vm slot).vmid ≠ (s.vm other).vmid) : t.Held where
  inside := by
    intro other live
    by_cases here : other = slot
    · subst here
      exact small live
    · rw [others other here] at live
      exact inv.inside other live
  bus := by
    intro other on
    by_cases here : other = slot
    · subst here
      exact bus on
    · rw [others other here] at on
      exact kept other here (inv.bus other on)
  irqs := by
    intro other core on
    by_cases here : other = slot
    · subst here
      exact irqs core on
    · rw [others other here] at on
      exact kept other here (inv.irqs other core on)
  platform := by
    intro other has live
    rw [present] at has
    by_cases here : other = slot
    · subst here
      exact platform has live
    · rw [others other here] at live
      exact kept other here (inv.platform other has live)
  absent := fun missing => absent (present ▸ missing)
  distinct := by
    intro first second live liveOther same
    by_cases here : first = slot
    · by_cases there : second = slot
      · rw [here, there]
      · subst here
        rw [others second there] at liveOther same
        exact absurd same (fresh second there live liveOther)
    · rw [others first here] at live same
      by_cases there : second = slot
      · subst there
        exact absurd same.symm (fresh first here liveOther live)
      · rw [others second there] at liveOther same
        exact inv.distinct first second live liveOther same

@[simp] theorem npu_setVm_self (s : NpuHost) (slot : Nat) (vm : NpuVm) :
    (s.setVm slot vm).vm slot = vm := by
  simp [NpuHost.setVm]

variable {slot : Nat}

theorem npu_setVm_of_ne (s : NpuHost) (vm : NpuVm) (different : other ≠ slot) :
    (s.setVm slot vm).vm other = s.vm other := by
  simp [NpuHost.setVm, different]

theorem NpuHost.Held.vacant (inv : s.Held) (present : s.present = true)
    (fresh : ∀ other < 32, (s.vm other).live = true → (s.vm other).vmid ≠ vmid)
    (free : s.owned = true → s.ownerVmid = vmid) (slot : Nat) : (s.vm slot).live = false := by
  apply Bool.eq_false_iff.mpr
  intro live
  obtain ⟨-, owned, name⟩ := (owns_iff s slot).mp (inv.platform slot present live)
  exact fresh slot (inv.inside slot live) live (name ▸ free owned)

theorem not_owns_of_dead (dead : (s.vm slot).live = false) : s.owns slot = false := by
  simp [NpuHost.owns, dead]

namespace NpuHost

theorem Held.create (inv : s.Held) (small : slot < 32) (dead : (s.vm slot).live = false)
    (fresh : ∀ other < 32, (s.vm other).live = true → (s.vm other).vmid ≠ vmid) :
    (s.create slot vmid busOk).Held := by
  have named : ∀ other, other ≠ slot → True → (s.vm other).live = true →
      vmid ≠ (s.vm other).vmid := fun other _ _ live same =>
    fresh other (inv.inside other live) live same.symm
  unfold NpuHost.create
  split
  · rename_i ok
    split
    · rename_i present
      have none : ∀ other, (s.vm other).live = false := by
        apply inv.vacant present fresh
        intro owned
        by_contra other
        simp [vnpuInitOk, present, owned, other] at ok
      apply inv.replace slot
      · exact fun other different => npu_setVm_of_ne s _ different
      · intro other _ owner
        rw [not_owns_of_dead (none other)] at owner
        cases owner
      · rfl
      · exact fun absent => absurd present (by simp [absent])
      · exact fun _ => small
      · simp [owns, setVm]
      · simp [setVm]
      · simp [owns, setVm]
      · simpa [setVm] using named
    · rename_i missing
      have absent : s.owned = false := inv.absent (by simpa using missing)
      apply inv.replace slot
      · exact fun other different => npu_setVm_of_ne s _ different
      · intro other _ owner
        rw [owns_iff, absent] at owner
        cases owner.2.1
      · rfl
      · exact inv.absent
      · exact fun _ => small
      · simp
      · simp
      · exact fun present => absurd present missing
      · simpa using named
  · rename_i failed
    unfold vnpuDestroy
    split
    · exact inv
    · rename_i mine
      have present : s.present = true := by
        simp only [vnpuInitOk, Bool.or_eq_true, Bool.not_eq_true', not_or,
          Bool.not_eq_false] at failed
        exact failed.1
      have name : s.ownerVmid = vmid := by
        simp only [Bool.or_eq_true, Bool.not_eq_true', bne_iff_ne, ne_eq, not_or,
          Decidable.not_not] at mine
        exact mine.2
      have none := inv.vacant present fresh fun _ => name
      apply inv.replace slot
      · exact fun _ _ => rfl
      · intro other _ owner
        rw [not_owns_of_dead (none other)] at owner
        cases owner
      · rfl
      · exact fun _ => rfl
      · exact inv.inside slot
      · intro on
        have owner := inv.bus slot on
        rw [not_owns_of_dead dead] at owner
        cases owner
      · intro core on
        have owner := inv.irqs slot core on
        rw [not_owns_of_dead dead] at owner
        cases owner
      · exact fun _ live => absurd live (by simp [dead])
      · exact fun other _ live => absurd live (by simp [dead])

theorem Held.destroy (inv : s.Held) (live : (s.vm slot).live = true) :
    (s.destroy slot).Held := by
  have released : (s.vnpuDestroy (s.vm slot).vmid).vm = s.vm ∧
      (s.vnpuDestroy (s.vm slot).vmid).present = s.present ∧
      (s.vnpuDestroy (s.vm slot).vmid).ownerVmid = s.ownerVmid := by
    unfold vnpuDestroy
    split <;> simp
  have kept : ∀ other, other ≠ slot → s.owns other = true →
      (s.vnpuDestroy (s.vm slot).vmid).owned = true := by
    intro other different owner
    obtain ⟨alive, owned, name⟩ := (owns_iff s other).mp owner
    unfold vnpuDestroy
    rw [if_pos]
    · exact owned
    · have foreign : s.ownerVmid ≠ (s.vm slot).vmid := by
        rw [name]
        exact fun same => different (inv.distinct other slot alive live same)
      simp [foreign]
  have absent : s.owned = false → (s.vnpuDestroy (s.vm slot).vmid).owned = false := by
    intro none
    unfold vnpuDestroy
    simp [none]
  unfold NpuHost.destroy
  apply inv.replace slot
  · intro other different
    rw [npu_setVm_of_ne _ _ different, released.1]
  · intro other different owner
    have parts := (owns_iff s other).mp owner
    rw [owns_iff, npu_setVm_of_ne _ _ different, released.1]
    exact ⟨parts.1, kept other different owner, released.2.2.trans parts.2.2⟩
  · exact released.2.1
  · exact fun missing => absent (inv.absent missing)
  · simp [NpuVm.zero]
  · simp [NpuVm.zero]
  · simp [NpuVm.zero]
  · simp [NpuVm.zero]
  · simp [NpuVm.zero]

theorem Held.setIrq (inv : s.Held) (slot : Nat) {irq : Nat → Bool}
    (owner : ∀ core, irq core = true → s.owns slot = true) :
    (s.setVm slot { s.vm slot with irq := irq }).Held := by
  have same : ∀ other, (s.setVm slot { s.vm slot with irq := irq }).owns other = s.owns other := by
    intro other
    by_cases here : other = slot
    · simp [owns, setVm, here]
    · simp [owns, setVm, here]
  apply inv.replace slot
  · exact fun other different => npu_setVm_of_ne s _ different
  · exact fun other _ owns => (same other).trans owns
  · rfl
  · exact inv.absent
  · simpa using inv.inside slot
  · intro on
    rw [same]
    exact inv.bus slot (by simpa using on)
  · intro core on
    rw [same]
    exact owner core (by simpa using on)
  · intro present live
    rw [same]
    exact inv.platform slot present (by simpa using live)
  · intro other different live alive
    rw [npu_setVm_self] at live ⊢
    exact fun equal => different (inv.distinct slot other live alive equal).symm

theorem Held.traffic (inv : s.Held) (regs : Nat → BitVec 8) (log : List NpuForward) :
    ({ s with regs := regs, log := log } : NpuHost).Held :=
  ⟨inv.inside, inv.bus, inv.irqs, inv.platform, inv.absent, inv.distinct⟩

/-- The condition on a step: a new VM gets an identifier that no live VM has, and an access does not
reach across a multiple of 256. -/
def npuGuard (s : NpuHost) : NpuAction → Prop
  | .create _ vmid _ => ∀ other < 32, (s.vm other).live = true → (s.vm other).vmid ≠ vmid
  | .read _ gpa size => gpa % 0x100 + size ≤ 0x100
  | .write _ gpa size _ => gpa % 0x100 + size ≤ 0x100
  | _ => True

instance npuGuardDecidable (s : NpuHost) (action : NpuAction) :
    Decidable (s.npuGuard action) :=
  match action with
  | .create .. => inferInstanceAs (Decidable (∀ _ < 32, _ → _))
  | .read .. | .write .. => inferInstanceAs (Decidable (_ ≤ _))
  | .destroy _ | .device _ | .enter _ | .acknowledge _ _ => inferInstanceAs (Decidable True)

def Logged (s : NpuHost) : Prop := ∀ f ∈ s.log, f.Outside ∧ f.owner = true

theorem Held.forward (inv : s.Held) (logged : s.Logged)
    (taken : (s.hits slot gpa && vnpuForwards (gpa - vnpuBase) size) = true)
    (within : gpa % 0x100 + size ≤ 0x100) : (s.forward slot (gpa - vnpuBase) size).Logged := by
  simp only [hits, Bool.and_eq_true, decide_eq_true_eq] at taken
  obtain ⟨⟨⟨on, low⟩, high⟩, forwards⟩ := taken
  intro f member
  rcases List.mem_cons.mp member with rfl | before
  · refine ⟨fun off after before => ?_, inv.bus slot on⟩
    apply vnpuForwards_outside forwards _ after before
    unfold vnpuBase at low ⊢
    omega
  · exact logged f before

theorem Held.step (inv : s.Held) (logged : s.Logged) (guard : s.npuGuard action) :
    (s.next action).Held ∧ (s.next action).Logged := by
  cases action with
  | create slot vmid busOk =>
    show (if slot < 32 ∧ (s.vm slot).live = false then s.create slot vmid busOk else s).Held ∧
      (if slot < 32 ∧ (s.vm slot).live = false then s.create slot vmid busOk else s).Logged
    split
    · rename_i free
      refine ⟨inv.create free.1 free.2 guard, ?_⟩
      have same : (s.create slot vmid busOk).log = s.log := by
        unfold NpuHost.create vnpuDestroy
        repeat' split
        all_goals rfl
      unfold Logged
      rw [same]
      exact logged
    · exact ⟨inv, logged⟩
  | destroy slot =>
    show (if (s.vm slot).live = true then s.destroy slot else s).Held ∧
      (if (s.vm slot).live = true then s.destroy slot else s).Logged
    split
    · rename_i live
      refine ⟨inv.destroy live, ?_⟩
      have same : (s.destroy slot).log = s.log := by
        unfold NpuHost.destroy vnpuDestroy setVm
        split <;> rfl
      unfold Logged
      rw [same]
      exact logged
    · exact ⟨inv, logged⟩
  | read slot gpa size =>
    show (if (s.vm slot).live = true then s.read slot gpa size else s).Held ∧
      (if (s.vm slot).live = true then s.read slot gpa size else s).Logged
    split
    · unfold read
      split
      · rename_i taken
        exact ⟨inv.traffic _ _, inv.forward logged taken guard⟩
      · exact ⟨inv, logged⟩
    · exact ⟨inv, logged⟩
  | write slot gpa size value =>
    show (if (s.vm slot).live = true then s.write slot gpa size value else s).Held ∧
      (if (s.vm slot).live = true then s.write slot gpa size value else s).Logged
    split
    · unfold write
      split
      · rename_i taken
        have more := inv.forward logged taken guard
        exact ⟨inv.traffic _ _, fun f member => more f member⟩
      · exact ⟨inv, logged⟩
    · exact ⟨inv, logged⟩
  | device regs => exact ⟨inv.traffic regs s.log, logged⟩
  | enter slot =>
    show (if (s.vm slot).live = true then s.enter slot else s).Held ∧
      (if (s.vm slot).live = true then s.enter slot else s).Logged
    split
    · rename_i live
      refine ⟨inv.setIrq slot fun core on => ?_, logged⟩
      rcases Bool.or_eq_true_iff.mp on with before | now
      · exact inv.irqs slot core before
      · simp only [irqAsserted, Bool.and_eq_true] at now
        exact inv.platform slot now.1.1.2 live
    · exact ⟨inv, logged⟩
  | acknowledge slot =>
    refine ⟨inv.setIrq slot fun other on => ?_, logged⟩
    rw [update_apply] at on
    split at on
    · cases on
    · exact inv.irqs slot other on

theorem Held.unchanged (inv : s.Held) (foreign : s.owns slot = false) (gpa size : Nat)
    (value : BitVec 64) :
    (s.next (.read slot gpa size)).regs = s.regs ∧
      (s.next (.write slot gpa size value)).regs = s.regs := by
  have off : (s.vm slot).onBus = false := by
    apply Bool.eq_false_iff.mpr
    intro on
    rw [inv.bus slot on] at foreign
    cases foreign
  have missed : (s.hits slot gpa && vnpuForwards (gpa - vnpuBase) size) = false := by
    simp [hits, off]
  constructor
  · show (if (s.vm slot).live = true then s.read slot gpa size else s).regs = s.regs
    unfold read
    rw [missed]
    split <;> rfl
  · show (if (s.vm slot).live = true then s.write slot gpa size value else s).regs = s.regs
    unfold write
    rw [missed]
    split <;> rfl

end NpuHost

/-- As long as identifiers of live VMs are not given out again and accesses stay within 256 bytes,
the NPU is confined to its owner and its MMU to the host. -/
theorem npu_confined {present : Bool} {actions : List NpuAction} {s : NpuHost}
    (run : Run (Guarded (graph NpuHost.next) NpuHost.npuGuard)
      (.boot present) actions s) : s.Confined := by
  have inv : s.Held ∧ s.Logged := run.guarded (P := fun s => s.Held ∧ s.Logged)
    (fun _ _ inv guard => inv.1.step inv.2 guard)
      ⟨held_boot present, by simp [NpuHost.Logged, NpuHost.boot]⟩
  exact ⟨fun f member => (inv.2 f member).1, fun f member => (inv.2 f member).2,
    fun slot gpa size value foreign => inv.1.unchanged foreign gpa size value, inv.1.irqs⟩

def npuJob : List NpuAction :=
  [.create 0 1 true, .write 0 0xFDAB0010 4 0x79001000#64, .write 0 0xFDAB0008 4 1#64,
    .device fun off => if off = 0x10020 ∨ off = 0x10028 then 1#8 else 0#8,
    .create 1 2 true, .enter 0]

theorem npuJob_confined :
    (npuJob.foldl NpuHost.next (.boot true)).Confined ∧
      ((npuJob.foldl NpuHost.next (.boot true)).vm 0).irq 1 = true ∧
      ((npuJob.foldl NpuHost.next (.boot true)).vm 1).live = false :=
  ⟨npu_confined (run_of_passes (fun _ _ => of_decide_eq_true) (by decide +kernel)),
    by decide +kernel, by decide +kernel⟩

def acrossBlock : List NpuAction := [.create 0 1 true, .write 0 (0xFDAB0000 + 0x8FFE) 4 0#64]

theorem acrossBlock_forwarded :
    Run (graph NpuHost.next) (.boot true) acrossBlock
        (acrossBlock.foldl NpuHost.next (.boot true)) ∧
      ¬ (acrossBlock.foldl NpuHost.next (.boot true)).Confined := by
  refine ⟨run_foldl _ _ _, fun confined => ?_⟩
  have log : (acrossBlock.foldl NpuHost.next (.boot true)).log = [⟨0, 0x8FFE, 4, true⟩] := by
    rfl
  have outside := confined.blocks ⟨0, 0x8FFE, 4, true⟩ (by rw [log]; exact List.mem_cons_self ..)
  apply outside 0x9000
  · simp
  · simp
  · simp [MmuByte]

end AvatarKernel
