import AvatarKernel.Arch
import AvatarKernel.Lib.Transition

namespace AvatarKernel

open Function Transition

inductive VmLife where
  | free
  | loading
  | running
  | dying
  deriving DecidableEq

/-- The fields of a `vm_t` that the pool works with. `born` is how many VMs had been handed out
before this one, which nothing in the code records. -/
structure Vm where
  state : VmLife
  vmid : Nat
  nrVcpuAlive : Nat
  stopReq : Bool
  born : Nat
  deriving DecidableEq

def Vm.zero : Vm := ⟨.free, 0, 0, false, 0⟩

def Vm.live (vm : Vm) : Bool := vm.state != .free

def maxVms : Nat := 32

/-- `g_vm_pool` and `g_next_vmid`; `allocs` counts the VMs handed out so far. -/
structure VmPool where
  vm : Nat → Vm
  nextVmid : Nat
  allocs : Nat

namespace VmPool

def boot : VmPool := ⟨fun _ => .zero, 1, 0⟩

def set (p : VmPool) (slot : Nat) (vm : Vm) : VmPool :=
  { p with vm := update p.vm slot vm }

/-- The free slot that the loop of `vm_alloc` finds. -/
def freeSlot (p : VmPool) : Option Nat :=
  (List.range maxVms).find? fun i => (p.vm i).state == .free

/-- What `vm_alloc` makes of the slot it has found. -/
def allocAt (p : VmPool) (slot : Nat) : VmPool where
  vm := update p.vm slot ⟨.loading, p.nextVmid, 0, false, p.allocs⟩
  nextVmid := if p.nextVmid ≥ 255 then 1 else p.nextVmid + 1
  allocs := p.allocs + 1

def vmAlloc (p : VmPool) : VmPool × Option Nat :=
  match p.freeSlot with
  | none => (p, none)
  | some slot => (p.allocAt slot, some slot)

def vmGet (p : VmPool) (vmid : Nat) : Option Nat :=
  (List.range maxVms).find? fun i => (p.vm i).live && (p.vm i).vmid == vmid

def vmStateSet (p : VmPool) (slot : Nat) (state : VmLife) : VmPool :=
  if (p.vm slot).state ≠ .free ∧ (p.vm slot).state ≠ .dying then
    p.set slot { p.vm slot with state := state }
  else p

def vmVcpuStarted (p : VmPool) (slot : Nat) : VmPool :=
  if (p.vm slot).state ≠ .free ∧ (p.vm slot).state ≠ .dying then
    p.set slot { p.vm slot with nrVcpuAlive := (p.vm slot).nrVcpuAlive + 1 }
  else p

def vmVcpuStartAbort (p : VmPool) (slot : Nat) : VmPool :=
  p.set slot { p.vm slot with nrVcpuAlive := (p.vm slot).nrVcpuAlive - 1 }

/-- `vm_vcpu_stopped`; the flag is `last`, on which it calls `vm_free`. -/
def vmVcpuStopped (p : VmPool) (slot : Nat) : VmPool × Bool :=
  if (p.vm slot).state ≠ .free then
    (p.set slot { p.vm slot with nrVcpuAlive := (p.vm slot).nrVcpuAlive - 1 },
      (p.vm slot).nrVcpuAlive - 1 == 0)
  else (p, false)

/-- The first locked part of `vm_free`; the flag says that the caller goes on to tear the VM
down. -/
def vmFreeBegin (p : VmPool) (slot : Nat) : VmPool × Bool :=
  if (p.vm slot).state = .free ∨ (p.vm slot).state = .dying ∨ (p.vm slot).nrVcpuAlive ≠ 0 then
    (p, false)
  else (p.set slot { p.vm slot with state := .dying }, true)

/-- The last locked part of `vm_free`. -/
def vmFreeEnd (p : VmPool) (slot : Nat) : VmPool := p.set slot .zero

/-- `vm_request_stop` up to its loop over the vCPUs. -/
def setStopReq (p : VmPool) (slot : Nat) : VmPool :=
  p.set slot { p.vm slot with stopReq := true }

def vmCountUsed (p : VmPool) : Nat :=
  ((List.range maxVms).filter fun i => (p.vm i).live).length

end VmPool

/-- The critical sections of the pool lock. Between the two of `vm_free` the slot is `dying`, which
keeps every other caller out. -/
inductive PoolAction where
  | alloc
  | run (slot : Nat)
  | vcpuStarted (slot : Nat)
  | vcpuStartAbort (slot : Nat)
  | vcpuStopped (slot : Nat)
  | requestStop (slot : Nat)
  | freeBegin (slot : Nat)
  | freeEnd (slot : Nat)
  deriving DecidableEq

def VmPool.next (p : VmPool) : PoolAction → VmPool
  | .alloc => p.vmAlloc.1
  | .run slot => p.vmStateSet slot .running
  | .vcpuStarted slot => p.vmVcpuStarted slot
  | .vcpuStartAbort slot => p.vmVcpuStartAbort slot
  | .vcpuStopped slot => (p.vmVcpuStopped slot).1
  | .requestStop slot => p.setStopReq slot
  | .freeBegin slot => (p.vmFreeBegin slot).1
  | .freeEnd slot => if (p.vm slot).state = .dying then p.vmFreeEnd slot else p

/-- The VMID field of `vttbr` and of `hgatp`. EPT entries carry none: no VPID is ever programmed. -/
def Arch.vmidTag : Arch → Nat → Option Nat
  | .aarch64, vmid => some (vmid % 2 ^ 8)
  | .riscv64, vmid => some (vmid % 2 ^ 14)
  | .x86_64, _ => none

@[simp] theorem set_vm_self (p : VmPool) (slot : Nat) (vm : Vm) : (p.set slot vm).vm slot = vm := by
  simp [VmPool.set]

variable {slot : Nat}

theorem set_vm_of_ne (p : VmPool) (vm : Vm) (different : other ≠ slot) :
    (p.set slot vm).vm other = p.vm other := by
  simp [VmPool.set, different]

variable {p : VmPool}

theorem freeSlot_spec (found : p.freeSlot = some slot) :
    slot < maxVms ∧ (p.vm slot).state = .free := by
  have inside := List.mem_of_find?_eq_some found
  have free := List.find?_some found
  exact ⟨List.mem_range.mp inside, by simpa using free⟩

structure VmPool.Keeps (before after : VmPool) : Prop where
  nextVmid : after.nextVmid = before.nextVmid
  allocs : after.allocs = before.allocs
  named : ∀ slot, (after.vm slot).live = true →
    (before.vm slot).live = true ∧ (after.vm slot).vmid = (before.vm slot).vmid ∧
      (after.vm slot).born = (before.vm slot).born

theorem VmPool.Keeps.refl (p : VmPool) : p.Keeps p := ⟨rfl, rfl, fun _ live => ⟨live, rfl, rfl⟩⟩

variable {q : VmPool}

theorem VmPool.Keeps.trans (first : p.Keeps q) (second : q.Keeps r) : p.Keeps r where
  nextVmid := second.nextVmid.trans first.nextVmid
  allocs := second.allocs.trans first.allocs
  named := by
    intro slot live
    obtain ⟨between, vmid, born⟩ := second.named slot live
    obtain ⟨before, vmid', born'⟩ := first.named slot between
    exact ⟨before, vmid.trans vmid', born.trans born'⟩

theorem VmPool.Keeps.set (p : VmPool) (slot : Nat) {vm : Vm}
    (same : vm.live = true →
      (p.vm slot).live = true ∧ vm.vmid = (p.vm slot).vmid ∧ vm.born = (p.vm slot).born) :
    p.Keeps (p.set slot vm) where
  nextVmid := rfl
  allocs := rfl
  named := by
    intro other live
    by_cases here : other = slot
    · subst here
      rw [set_vm_self] at live ⊢
      exact same live
    · rw [set_vm_of_ne p vm here] at live ⊢
      exact ⟨live, rfl, rfl⟩

theorem Vm.live_iff (vm : Vm) : vm.live = true ↔ vm.state ≠ .free := by
  simp [Vm.live]

section

variable (p : VmPool) (slot : Nat)

theorem vmStateSet_keeps (state : VmLife) :
    p.Keeps (p.vmStateSet slot state) := by
  unfold VmPool.vmStateSet
  split
  · rename_i used
    exact .set p slot fun _ => ⟨(Vm.live_iff _).mpr used.1, rfl, rfl⟩
  · exact .refl p

theorem vmVcpuStarted_keeps : p.Keeps (p.vmVcpuStarted slot) := by
  unfold VmPool.vmVcpuStarted
  split
  · rename_i used
    exact .set p slot fun _ => ⟨(Vm.live_iff _).mpr used.1, rfl, rfl⟩
  · exact .refl p

theorem vmVcpuStopped_keeps : p.Keeps (p.vmVcpuStopped slot).1 := by
  unfold VmPool.vmVcpuStopped
  split
  · rename_i used
    exact .set p slot fun _ => ⟨(Vm.live_iff _).mpr used, rfl, rfl⟩
  · exact .refl p

theorem vmFreeBegin_keeps : p.Keeps (p.vmFreeBegin slot).1 := by
  unfold VmPool.vmFreeBegin
  split
  · exact .refl p
  · rename_i used
    exact .set p slot fun _ => ⟨(Vm.live_iff _).mpr fun free => used (.inl free), rfl, rfl⟩

theorem VmPool.Keeps.edit {vm : Vm} (state : vm.state = (p.vm slot).state)
    (vmid : vm.vmid = (p.vm slot).vmid) (born : vm.born = (p.vm slot).born) :
    p.Keeps (p.set slot vm) := by
  apply Keeps.set
  intro live
  refine ⟨?_, vmid, born⟩
  rw [Vm.live_iff] at live ⊢
  rw [← state]
  exact live

theorem vmFreeEnd_keeps : p.Keeps (p.vmFreeEnd slot) :=
  .set p slot fun live => by simp [Vm.live, Vm.zero] at live

end

theorem VmPool.next_keeps (p : VmPool) (other : action ≠ .alloc) : p.Keeps (p.next action) := by
  cases action with
  | alloc => exact absurd rfl other
  | run slot => exact vmStateSet_keeps p slot .running
  | vcpuStarted slot => exact vmVcpuStarted_keeps p slot
  | vcpuStartAbort slot => exact .edit p slot rfl rfl rfl
  | requestStop slot => exact .edit p slot rfl rfl rfl
  | vcpuStopped slot => exact vmVcpuStopped_keeps p slot
  | freeBegin slot => exact vmFreeBegin_keeps p slot
  | freeEnd slot =>
    show p.Keeps (if (p.vm slot).state = .dying then p.vmFreeEnd slot else p)
    split
    · exact vmFreeEnd_keeps p slot
    · exact .refl p

theorem vmAlloc_cases (p : VmPool) :
    p.vmAlloc.1 = p ∨ ∃ slot, p.freeSlot = some slot ∧ p.vmAlloc.1 = p.allocAt slot := by
  unfold VmPool.vmAlloc
  cases found : p.freeSlot with
  | none => exact .inl rfl
  | some slot => exact .inr ⟨slot, rfl, rfl⟩

@[simp] theorem allocAt_vm_self (p : VmPool) (slot : Nat) :
    (p.allocAt slot).vm slot = ⟨.loading, p.nextVmid, 0, false, p.allocs⟩ := by
  simp [VmPool.allocAt]

theorem allocAt_vm_of_ne (p : VmPool) (different : other ≠ slot) :
    (p.allocAt slot).vm other = p.vm other := by
  simp [VmPool.allocAt, different]

/-- The identifier of a VM is the number of its allocation, counted from 1 modulo 255. -/
structure VmPool.Numbered (p : VmPool) : Prop where
  next : p.nextVmid = p.allocs % 255 + 1
  vmid : ∀ slot, (p.vm slot).live = true → (p.vm slot).vmid = (p.vm slot).born % 255 + 1
  born : ∀ slot, (p.vm slot).live = true → (p.vm slot).born < p.allocs

theorem numbered_boot : VmPool.boot.Numbered where
  next := rfl
  vmid := by simp [VmPool.boot, Vm.zero, Vm.live]
  born := by simp [VmPool.boot, Vm.zero, Vm.live]

namespace VmPool

theorem Numbered.keeps (numbered : p.Numbered) (keeps : p.Keeps q) : q.Numbered where
  next := by rw [keeps.nextVmid, keeps.allocs, numbered.next]
  vmid := by
    intro slot live
    have named := keeps.named slot live
    rw [named.2.1, named.2.2]
    exact numbered.vmid slot named.1
  born := by
    intro slot live
    have named := keeps.named slot live
    rw [named.2.2, keeps.allocs]
    exact numbered.born slot named.1

theorem Numbered.allocAt (numbered : p.Numbered) (slot : Nat) :
    (p.allocAt slot).Numbered where
  next := by
    have value := numbered.next
    simp only [VmPool.allocAt]
    split <;> omega
  vmid := by
    intro other live
    by_cases here : other = slot
    · subst here
      simp only [allocAt_vm_self]
      exact numbered.next
    · rw [allocAt_vm_of_ne p here] at live ⊢
      exact numbered.vmid other live
  born := by
    intro other live
    by_cases here : other = slot
    · subst here
      simp [VmPool.allocAt]
    · rw [allocAt_vm_of_ne p here] at live ⊢
      exact Nat.lt_succ_of_lt (numbered.born other live)

theorem Numbered.step (numbered : p.Numbered) (action : PoolAction) :
    (p.next action).Numbered := by
  by_cases alloc : action = .alloc
  · subst alloc
    show p.vmAlloc.1.Numbered
    rcases vmAlloc_cases p with same | ⟨slot, -, after⟩
    · rw [same]
      exact numbered
    · rw [after]
      exact numbered.allocAt slot
  · exact numbered.keeps (p.next_keeps alloc)

def Distinct (p : VmPool) : Prop :=
  ∀ slot other, (p.vm slot).live = true → (p.vm other).live = true →
    (p.vm slot).vmid = (p.vm other).vmid → slot = other

theorem Distinct.keeps (distinct : p.Distinct) (keeps : p.Keeps q) : q.Distinct := by
  intro slot other live liveOther same
  have named := keeps.named slot live
  have namedOther := keeps.named other liveOther
  apply distinct slot other named.1 namedOther.1
  rw [← named.2.1, ← namedOther.2.1]
  exact same

/-- Every VM in use was handed out a number of allocations ago that is no multiple of 255. -/
def Unworn (p : VmPool) : Prop :=
  ∀ slot < maxVms, (p.vm slot).live = true → (p.allocs - (p.vm slot).born) % 255 ≠ 0

instance unwornDecidable (p : VmPool) : Decidable p.Unworn :=
  inferInstanceAs (Decidable (∀ slot < maxVms, _ → _))

/-- Only the slots of the pool are ever in use. -/
def Inside (p : VmPool) : Prop := ∀ slot, (p.vm slot).live = true → slot < maxVms

theorem Inside.step (inside : p.Inside) (action : PoolAction) : (p.next action).Inside := by
  by_cases alloc : action = .alloc
  · subst alloc
    show p.vmAlloc.1.Inside
    rcases vmAlloc_cases p with same | ⟨slot, found, after⟩
    · rw [same]
      exact inside
    · rw [after]
      intro other live
      by_cases here : other = slot
      · rw [here]
        exact (freeSlot_spec found).1
      · rw [allocAt_vm_of_ne p here] at live
        exact inside other live
  · intro slot live
    exact inside slot ((p.next_keeps alloc).named slot live).1

theorem Numbered.fresh (numbered : p.Numbered) (live : (p.vm slot).live = true) :
    (p.vm slot).vmid = p.nextVmid ↔ (p.allocs - (p.vm slot).born) % 255 = 0 := by
  have vmid := numbered.vmid slot live
  have born := numbered.born slot live
  have next := numbered.next
  omega

theorem Distinct.allocAt (distinct : p.Distinct) (numbered : p.Numbered) (inside : p.Inside)
    (unworn : p.Unworn) (slot : Nat) : (p.allocAt slot).Distinct := by
  have fresh : ∀ other, (p.vm other).live = true → (p.vm other).vmid ≠ p.nextVmid := by
    intro other live taken
    exact unworn other (inside other live) live ((numbered.fresh live).mp taken)
  intro first second liveFirst liveSecond same
  by_cases here : first = slot
  · by_cases there : second = slot
    · rw [here, there]
    · subst here
      rw [allocAt_vm_of_ne p there] at liveSecond same
      rw [allocAt_vm_self] at same
      exact absurd same.symm (fresh second liveSecond)
  · rw [allocAt_vm_of_ne p here] at liveFirst same
    by_cases there : second = slot
    · subst there
      rw [allocAt_vm_self] at same
      exact absurd same (fresh first liveFirst)
    · rw [allocAt_vm_of_ne p there] at liveSecond same
      exact distinct first second liveFirst liveSecond same

def allocGuard (p : VmPool) : PoolAction → Prop
  | .alloc => p.Unworn
  | _ => True

instance allocGuardDecidable (p : VmPool) (action : PoolAction) :
    Decidable (p.allocGuard action) :=
  match action with
  | .alloc => inferInstanceAs (Decidable p.Unworn)
  | .run _ | .vcpuStarted _ | .vcpuStartAbort _ | .vcpuStopped _ | .requestStop _ | .freeBegin _
  | .freeEnd _ => inferInstanceAs (Decidable True)

/-- What the identifiers of a pool are meant to give. -/
structure Identified (p : VmPool) : Prop where
  range : ∀ slot, (p.vm slot).live = true → 1 ≤ (p.vm slot).vmid ∧ (p.vm slot).vmid ≤ 255
  distinct : p.Distinct
  get : ∀ slot, (p.vm slot).live = true → p.vmGet (p.vm slot).vmid = some slot
  tags : ∀ (a : Arch) (slot other tag : Nat), (p.vm slot).live = true → (p.vm other).live = true →
    a.vmidTag (p.vm slot).vmid = some tag → a.vmidTag (p.vm other).vmid = some tag → slot = other

theorem Numbered.range (numbered : p.Numbered) (live : (p.vm slot).live = true) :
    1 ≤ (p.vm slot).vmid ∧ (p.vm slot).vmid ≤ 255 := by
  have vmid := numbered.vmid slot live
  omega

end VmPool

theorem vmidTag_range {a : Arch} (small : vmid ≤ 255) (value : a.vmidTag vmid = some tag) :
    tag = vmid := by
  cases a with
  | aarch64 | riscv64 =>
    simp only [Arch.vmidTag, Option.some.injEq] at value
    omega
  | x86_64 => simp [Arch.vmidTag] at value

theorem VmPool.Distinct.vmGet (distinct : p.Distinct) (inside : p.Inside)
    (live : (p.vm slot).live = true) : p.vmGet (p.vm slot).vmid = some slot := by
  cases found : p.vmGet (p.vm slot).vmid with
  | none =>
    have missing := List.find?_eq_none.mp found slot (List.mem_range.mpr (inside slot live))
    simp [live] at missing
  | some other =>
    have matched := List.find?_some found
    simp only [Bool.and_eq_true, beq_iff_eq] at matched
    rw [distinct other slot matched.1 live matched.2]

theorem VmPool.Numbered.identified (numbered : p.Numbered) (inside : p.Inside)
    (distinct : p.Distinct) : p.Identified where
  range := fun _ live => numbered.range live
  distinct := distinct
  get := fun _ live => distinct.vmGet inside live
  tags := by
    intro a slot other tag live liveOther value valueOther
    have whole := vmidTag_range (numbered.range live).2 value
    have wholeOther := vmidTag_range (numbered.range liveOther).2 valueOther
    exact distinct slot other live liveOther (whole.symm.trans wholeOther)

structure VmPool.Sound (p : VmPool) : Prop where
  numbered : p.Numbered
  inside : p.Inside
  distinct : p.Distinct

theorem sound_boot : VmPool.boot.Sound where
  numbered := numbered_boot
  inside := by simp [VmPool.Inside, VmPool.boot, Vm.zero, Vm.live]
  distinct := by simp [VmPool.Distinct, VmPool.boot, Vm.zero, Vm.live]

theorem VmPool.Sound.keeps (sound : p.Sound) (keeps : p.Keeps q) : q.Sound where
  numbered := sound.numbered.keeps keeps
  inside := fun slot live => sound.inside slot (keeps.named slot live).1
  distinct := sound.distinct.keeps keeps

theorem VmPool.Sound.step (sound : p.Sound) {action : PoolAction} (guard : p.allocGuard action) :
    (p.next action).Sound where
  numbered := sound.numbered.step action
  inside := sound.inside.step action
  distinct := by
    by_cases alloc : action = .alloc
    · subst alloc
      show p.vmAlloc.1.Distinct
      rcases vmAlloc_cases p with same | ⟨slot, -, made⟩
      · rw [same]
        exact sound.distinct
      · rw [made]
        exact sound.distinct.allocAt sound.numbered sound.inside guard slot
    · exact sound.distinct.keeps (p.next_keeps alloc)

/-- As long as no VM is handed out while one of the same number modulo 255 is in use, the VMs in use
have distinct identifiers from 1 to 255: `vm_get` denotes one VM and no TLB tag is shared. -/
theorem vmids_identify {actions : List PoolAction} {p : VmPool}
    (run : Run (Guarded (graph VmPool.next) VmPool.allocGuard)
      VmPool.boot actions p) : p.Identified := by
  have sound : p.Sound := run.guarded (fun _ _ inv guard => inv.step guard) sound_boot
  exact sound.numbered.identified sound.inside sound.distinct

def threeVms : List PoolAction := [.alloc, .alloc, .freeBegin 0, .freeEnd 0, .alloc]

theorem threeVms_identified :
    (threeVms.foldl VmPool.next VmPool.boot).Identified ∧
      (threeVms.foldl VmPool.next VmPool.boot).vmGet 3 = some 0 :=
  ⟨vmids_identify (run_of_passes (fun _ _ => of_decide_eq_true) (by decide +kernel)),
    by decide +kernel⟩

/-- A VM is handed out and released again. -/
def shortLived : List PoolAction := [.alloc, .freeBegin 1, .freeEnd 1]

theorem shortLived_next (live : (p.vm 0).live = true) (free : p.vm 1 = .zero) :
    shortLived.foldl VmPool.next p =
      { p with
        nextVmid := if p.nextVmid ≥ 255 then 1 else p.nextVmid + 1
        allocs := p.allocs + 1 } := by
  have found : p.freeSlot = some 1 := by
    have used : ((p.vm 0).state == .free) = false := by simpa [Vm.live] using live
    unfold VmPool.freeSlot
    rw [show List.range maxVms = 0 :: 1 :: (List.range maxVms).drop 2 from by decide,
      List.find?_cons_of_neg (by simp [used]), List.find?_cons_of_pos (by simp [free, Vm.zero])]
  have first : p.next .alloc = p.allocAt 1 := by
    simp [VmPool.next, VmPool.vmAlloc, found]
  have second : (p.allocAt 1).next (.freeBegin 1) =
      (p.allocAt 1).set 1 ⟨.dying, p.nextVmid, 0, false, p.allocs⟩ := by
    simp [VmPool.next, VmPool.vmFreeBegin]
  have same : update p.vm 1 Vm.zero = p.vm := by
    rw [← free, update_eq_self]
  simp only [shortLived, List.foldl_cons, List.foldl_nil, first, second]
  simp [VmPool.next, VmPool.vmFreeEnd, VmPool.set, VmPool.allocAt, same]

theorem shortLived_rounds (rounds : Nat) (numbered : p.Numbered) (live : (p.vm 0).live = true)
    (free : p.vm 1 = .zero) :
    (List.replicate rounds shortLived).flatten.foldl VmPool.next p =
      { p with nextVmid := (p.allocs + rounds) % 255 + 1, allocs := p.allocs + rounds } := by
  induction rounds generalizing p with
  | zero =>
    have next := numbered.next
    cases p
    simp_all
  | succ _ ih =>
    have next := numbered.next
    rw [List.replicate_succ, List.flatten_cons, List.foldl_append, shortLived_next live free, ih]
    · simp only [VmPool.mk.injEq, true_and]
      omega
    · constructor
      · simp only
        split <;> omega
      · exact numbered.vmid
      · exact fun slot used => Nat.lt_succ_of_lt (numbered.born slot used)
    · exact live
    · exact free

def longLived : List PoolAction :=
  .alloc :: (List.replicate 254 shortLived).flatten ++ [.alloc]

theorem longLived_pool :
    longLived.foldl VmPool.next VmPool.boot =
      (({ vm := update (fun _ => Vm.zero) 0 ⟨.loading, 1, 0, false, 0⟩
          nextVmid := 1, allocs := 255 } : VmPool)).allocAt 1 := by
  have first : VmPool.boot.next .alloc = VmPool.boot.allocAt 0 := by
    simp [VmPool.next, VmPool.vmAlloc, show VmPool.boot.freeSlot = some 0 from by decide]
  rw [longLived, List.cons_append, List.foldl_cons, List.foldl_append, first,
    shortLived_rounds 254 (numbered_boot.allocAt 0) (by decide) (by decide)]
  rfl

/-- Both VMs that are left have the identifier 1. -/
theorem longLived_clash :
    Run (graph VmPool.next) VmPool.boot longLived
        (longLived.foldl VmPool.next VmPool.boot) ∧
      ¬ (longLived.foldl VmPool.next VmPool.boot).Distinct := by
  apply And.intro (run_foldl _ _ _)
  rw [longLived_pool]
  intro distinct
  have same := distinct 0 1 (by decide) (by decide) (by decide)
  omega

end AvatarKernel
