import AvatarKernel.Lib.Transition
import AvatarKernel.Vmm.Vgic3

namespace AvatarKernel

open Function (update)

/-- A `vcpu_t *`: the vCPUs lie in the slots of `g_vm_pool`. -/
structure VcpuPtr where
  slot : Nat
  id : Nat
deriving DecidableEq

/-- The VMM with the hardware its vCPUs run on. `home` is the CPU of the task of a live vCPU,
`guest` the vCPU whose guest a CPU is executing, `owner` the array `g_lr_owner_vcpu`. `gen`, which
is not in the code, counts how often a VM slot was handed out. -/
structure VmmState where
  vgic : Nat → Vgic3
  used : Nat → Bool
  gen : Nat → Nat
  home : VcpuPtr → Option Nat
  guest : Nat → Option VcpuPtr
  owner : Nat → Option VcpuPtr
  iface : Nat → Iface

namespace VmmState

def name (s : VmmState) (v : VcpuPtr) : VcpuName := ⟨v.slot, v.id, s.gen v.slot⟩

def vcpu (s : VmmState) (v : VcpuPtr) : Vgic3Vcpu := (s.vgic v.slot).vcpu v.id

def valid (s : VmmState) (v : VcpuPtr) : Bool :=
  s.used v.slot && (s.vgic v.slot).validVcpu v.id

def view (s : VmmState) (cpu : Nat) (v : VcpuPtr) : LrView := ⟨s.vcpu v, s.iface cpu⟩

def put (s : VmmState) (cpu : Nat) (v : VcpuPtr) (x : LrView) : VmmState :=
  { s with
    vgic := update s.vgic v.slot ((s.vgic v.slot).modify v.id fun _ => x.vcpu)
    iface := update s.iface cpu x.iface }

def setVgic (s : VmmState) (slot : Nat) (vgic : Vgic3) : VmmState :=
  { s with vgic := update s.vgic slot vgic }

def setIface (s : VmmState) (cpu : Nat) (iface : Iface) : VmmState :=
  { s with iface := update s.iface cpu iface }

end VmmState

def Iface.guestLr (iface : Iface) (i : Nat) (value : BitVec 64) : Iface :=
  { iface with lr := update iface.lr i value }

/-- The state of a vCPU in `vmm_vgic3_init`. -/
def vgic3VcpuInit : Vgic3Vcpu where
  enabled0 := 0xffff#32
  pending := fun _ => 0#32
  active := fun _ => 0#32
  sgiSources := fun _ => 0#16
  prio0 := fun _ => 0xA0#8
  lr := fun _ => 0#64
  ichVmcr := 0xff000002#64
  ichAp1r0 := 0#64

def vgic3Init (nrVcpus : Nat) : Vgic3 where
  nrVcpus := if nrVcpus < 1 then 1 else if nrVcpus > 12 then 12 else nrVcpus
  enabled := fun _ => 0#32
  distRegs := fun _ => 0#8
  vcpu := fun _ => vgic3VcpuInit

def vgic3Zero : Vgic3 where
  nrVcpus := 0
  enabled := fun _ => 0#32
  distRegs := fun _ => 0#8
  vcpu := fun _ =>
    { vgic3VcpuInit with enabled0 := 0#32, prio0 := fun _ => 0#8, ichVmcr := 0#64 }

def vmCreate (s : VmmState) (slot nrVcpus : Nat) : VmmState :=
  if 32 ≤ slot ∨ s.used slot then s
  else
    { s with
      vgic := update s.vgic slot (vgic3Init nrVcpus)
      used := update s.used slot true
      gen := update s.gen slot (s.gen slot + 1) }

/-- `vm_free`, which refuses while a vCPU of the VM is alive. It leaves `g_lr_owner_vcpu` alone. -/
def vmFree (s : VmmState) (slot : Nat) : VmmState :=
  if !s.used slot ∨ ∃ id ∈ List.range 12, (s.home ⟨slot, id⟩).isSome then s
  else
    { s with
      vgic := update s.vgic slot vgic3Zero
      used := update s.used slot false }

def takeLrs (s : VmmState) (cpu : Nat) (v : VcpuPtr) : VmmState :=
  { s with
    iface := update s.iface cpu
      { s.iface cpu with vmcr := (s.vcpu v).ichVmcr, ap1r0 := (s.vcpu v).ichAp1r0 }
    owner := update s.owner cpu (some v) }

/-- `vmm_vgic3_lr_switch_in` up to its call of `vmm_vgic3_sync_entry`; `none` where it follows the
NULL `vm` pointer of a vCPU that no longer exists. -/
def lrHandOver (n : Nat) (s : VmmState) (cpu : Nat) (v : VcpuPtr) : Option VmmState :=
  if 8 ≤ cpu ∨ s.owner cpu = some v then some s
  else
    match s.owner cpu with
    | none => some (takeLrs s cpu v)
    | some prev =>
      if s.valid prev then
        some (takeLrs (s.put cpu prev (evacuateLrs n (s.name prev) (s.view cpu prev))) cpu v)
      else none

/-- `vmm_vgic3_lr_switch_in` -/
def lrSwitchIn (n : Nat) (s : VmmState) (cpu : Nat) (v : VcpuPtr) : Option VmmState :=
  (lrHandOver n s cpu v).map fun s =>
    s.put cpu v (vgic3SyncEntry n (s.vgic v.slot) (s.name v) (s.view cpu v))

def enterGuest (n : Nat) (s : VmmState) (v : VcpuPtr) : VmmState :=
  match s.home v with
  | none => s
  | some cpu =>
    if s.guest cpu = none ∧ s.valid v = true then
      match lrSwitchIn n s cpu v with
      | none => s
      | some s => { s with guest := update s.guest cpu (some v) }
    else s

def exitGuest (n : Nat) (s : VmmState) (cpu : Nat) : VmmState :=
  match s.guest cpu with
  | none => s
  | some v =>
    { s.put cpu v (vgic3SyncExit n (s.view cpu v)) with guest := update s.guest cpu none }

def VmmState.inHost (s : VmmState) (v : VcpuPtr) (cpu : Nat) : Prop :=
  s.home v = some cpu ∧ s.guest cpu ≠ some v

instance VmmState.inHostDecidable (s : VmmState) (v : VcpuPtr) (cpu : Nat) :
    Decidable (s.inHost v cpu) :=
  inferInstanceAs (Decidable (_ ∧ _))

def handleDir (n : Nat) (s : VmmState) (v : VcpuPtr) (irq : Nat) : VmmState :=
  match s.home v with
  | none => s
  | some cpu =>
    if s.inHost v cpu ∧ irq < 1024 ∧ s.valid v = true then
      s.put cpu v (vgic3Deactivate n (s.name v) irq (s.view cpu v))
    else s

def guestAck (n : Nat) (iface : Iface) (i : Nat) : Iface :=
  if i < n ∧ lrPending (iface.lr i) = true ∧ lrActive (iface.lr i) = false then
    iface.guestLr i (lrSetState (iface.lr i) lrStActive)
  else iface

/-- The guest writes `ICC_EOIR1_EL1` with EOImode 0: the active register of the INTID is
deactivated. With EOImode 1 the write only drops the running priority. -/
def guestEoi (n : Nat) (iface : Iface) (irq : Nat) : Iface :=
  match (List.range n).find? fun i => lrActive (iface.lr i) && lrVintid (iface.lr i) == irq with
  | none => iface
  | some i =>
    iface.guestLr i
      (lrSetState (iface.lr i) (if lrPending (iface.lr i) then lrStPending else 0#2))

inductive VgicAction where
  | create (slot nrVcpus : Nat)
  | destroy (slot : Nat)
  | start (v : VcpuPtr) (cpu : Nat)
  | stop (v : VcpuPtr)
  | migrate (v : VcpuPtr) (cpu : Nat)
  | raise (v : VcpuPtr) (irq : Nat)
  | raiseSgi (v : VcpuPtr) (source irq : Nat)
  | enable (v : VcpuPtr) (irq : Nat) (on : Bool)
  | enter (v : VcpuPtr)
  | acknowledge (cpu i : Nat)
  | endOfInterrupt (cpu irq : Nat)
  | guestRegisters (cpu : Nat) (vmcr ap1r0 : BitVec 64)
  | exit (cpu : Nat)
  | deactivate (v : VcpuPtr) (irq : Nat)

/-- One step; an action that cannot be taken leaves the state as it is. The CPUs are the
`AVATAR_MAX_CPUS` first ones. -/
def vgicStep (n : Nat) (s : VmmState) : VgicAction → VmmState
  | .create slot nrVcpus => vmCreate s slot nrVcpus
  | .destroy slot => vmFree s slot
  | .start v cpu =>
    if s.valid v = true ∧ s.home v = none ∧ v.id < 12 ∧ cpu < 8 then
      { s with home := update s.home v (some cpu) }
    else s
  | .stop v =>
    match s.home v with
    | none => s
    | some cpu =>
      if s.guest cpu ≠ some v then { s with home := update s.home v none } else s
  | .migrate v target =>
    match s.home v with
    | none => s
    | some cpu =>
      if s.guest cpu ≠ some v ∧ target < 8 then
        { s with home := update s.home v (some target) }
      else s
  | .raise v irq => s.setVgic v.slot (vgic3SetPending (s.vgic v.slot) v.id irq)
  | .raiseSgi v source irq => s.setVgic v.slot (vgic3SetSgiPending (s.vgic v.slot) v.id source irq)
  | .enable v irq on => s.setVgic v.slot (vgic3SetEnabled (s.vgic v.slot) v.id irq on)
  | .enter v => enterGuest n s v
  | .acknowledge cpu i =>
    if (s.guest cpu).isSome then s.setIface cpu (guestAck n (s.iface cpu) i) else s
  | .endOfInterrupt cpu irq =>
    if (s.guest cpu).isSome then s.setIface cpu (guestEoi n (s.iface cpu) irq) else s
  | .guestRegisters cpu vmcr ap1r0 =>
    if (s.guest cpu).isSome then
      s.setIface cpu { s.iface cpu with vmcr := vmcr, ap1r0 := ap1r0 }
    else s
  | .exit cpu => exitGuest n s cpu
  | .deactivate v irq => handleDir n s v irq

def VmmState.boot : VmmState where
  vgic := fun _ => vgic3Zero
  used := fun _ => false
  gen := fun _ => 0
  home := fun _ => none
  guest := fun _ => none
  owner := fun _ => none
  iface := fun _ =>
    { lr := fun _ => 0#64, vmcr := 0#64, ap1r0 := 0#64, holder := fun _ => ⟨0, 0, 0⟩,
                      trespass := false }

def sgi1rTargets (nrVcpus self : Nat) (val : BitVec 64) : List Nat :=
  if val.extractLsb' 16 8 ≠ 0 ∨ val.extractLsb' 32 8 ≠ 0 ∨ val.extractLsb' 48 8 ≠ 0 ∨
      val.extractLsb' 44 4 ≠ 0 then []
  else (List.range nrVcpus).filter fun i =>
    if val.getLsbD 40 then i != self else (val.extractLsb' 0 16).getLsbD i

/-- `handle_sgi1r`: each target in turn, under its own `irq_lock`. -/
def handleSgi1r (s : VmmState) (v : VcpuPtr) (val : BitVec 64) : VmmState :=
  (sgi1rTargets (s.vgic v.slot).nrVcpus v.id val).foldl
    (fun s i => s.setVgic v.slot
      (vgic3SetSgiPending (s.vgic v.slot) i v.id (val.extractLsb' 24 4).toNat)) s

theorem handleSgi1r_eq_foldl (n : Nat) (s : VmmState) (v : VcpuPtr) (val : BitVec 64) :
    handleSgi1r s v val = ((sgi1rTargets (s.vgic v.slot).nrVcpus v.id val).map fun i =>
        VgicAction.raiseSgi ⟨v.slot, i⟩ v.id (val.extractLsb' 24 4).toNat).foldl
          (vgicStep n) s := by
  rw [List.foldl_map]
  rfl

variable (s : VmmState)

@[simp] theorem put_vcpu_self (cpu : Nat) (v : VcpuPtr) (x : LrView) :
    (s.put cpu v x).vcpu v = x.vcpu := by
  simp [VmmState.vcpu, VmmState.put, Vgic3.modify]

theorem put_vcpu_of_ne (cpu : Nat) (x : LrView) (different : w ≠ v) :
    (s.put cpu v x).vcpu w = s.vcpu w := by
  unfold VmmState.vcpu VmmState.put Vgic3.modify
  by_cases slot : w.slot = v.slot
  · have id : w.id ≠ v.id := by
      intro same
      cases v
      cases w
      exact different (VcpuPtr.mk.injEq .. ▸ ⟨slot, same⟩)
    simp [slot, id]
  · simp [slot]

@[simp] theorem put_iface_self (cpu : Nat) (v : VcpuPtr) (x : LrView) :
    (s.put cpu v x).iface cpu = x.iface := by
  simp [VmmState.put]

theorem put_iface_of_ne (v : VcpuPtr) (x : LrView) (different : other ≠ cpu) :
    (s.put cpu v x).iface other = s.iface other := by
  simp [VmmState.put, different]

@[simp] theorem put_valid (cpu : Nat) (v w : VcpuPtr) (x : LrView) :
    (s.put cpu v x).valid w = s.valid w := by
  unfold VmmState.valid VmmState.put Vgic3.modify Vgic3.validVcpu
  by_cases slot : w.slot = v.slot <;> simp [slot]

theorem takeLrs_kept (cpu : Nat) (v : VcpuPtr) (c : Nat) :
    ((takeLrs s cpu v).iface c).lr = (s.iface c).lr ∧
      ((takeLrs s cpu v).iface c).trespass = (s.iface c).trespass := by
  unfold takeLrs
  by_cases here : c = cpu
  · simp [here]
  · simp [here]

theorem takeLrs_iface_of_ne (v : VcpuPtr) (different : c ≠ cpu) :
    (takeLrs s cpu v).iface c = s.iface c := by
  simp [takeLrs, different]

/-- The three ways to the registers: they are still the vCPU's, nobody had them, or their owner is
evacuated. -/
theorem lrHandOver_cases {n : Nat} {s t : VmmState} {cpu : Nat} {v : VcpuPtr} (small : cpu < 8)
    (taken : lrHandOver n s cpu v = some t) :
    (s.owner cpu = some v ∧ t = s) ∨ (s.owner cpu = none ∧ t = takeLrs s cpu v) ∨
      ∃ prev, prev ≠ v ∧ s.owner cpu = some prev ∧
        t = takeLrs (s.put cpu prev (evacuateLrs n (s.name prev) (s.view cpu prev))) cpu v := by
  unfold lrHandOver at taken
  by_cases mine : s.owner cpu = some v
  · rw [if_pos (.inr mine)] at taken
    exact .inl ⟨mine, (Option.some.inj taken).symm⟩
  · rw [if_neg (not_or.mpr ⟨Nat.not_le.mpr small, mine⟩)] at taken
    apply Or.inr
    cases owner : s.owner cpu with
    | none =>
      rw [owner] at taken
      exact .inl ⟨rfl, (Option.some.inj taken).symm⟩
    | some prev =>
      rw [owner] at taken
      dsimp only at taken
      split at taken
      · refine .inr ⟨prev, ?_, rfl, (Option.some.inj taken).symm⟩
        intro same
        exact mine (same ▸ owner)
      · exact absurd taken.symm (Option.some_ne_none t)

theorem enterGuest_cases (n : Nat) (s : VmmState) (v : VcpuPtr) :
    enterGuest n s v = s ∨ ∃ cpu t, s.home v = some cpu ∧ s.guest cpu = none ∧ s.valid v = true ∧
      lrHandOver n s cpu v = some t ∧
      enterGuest n s v =
        { t.put cpu v (vgic3SyncEntry n (t.vgic v.slot) (t.name v) (t.view cpu v)) with
          guest := update t.guest cpu (some v) } := by
  unfold enterGuest
  cases home : s.home v with
  | none => exact .inl rfl
  | some cpu =>
    dsimp only
    split
    · rename_i enterable
      unfold lrSwitchIn
      cases taken : lrHandOver n s cpu v with
      | none => exact .inl rfl
      | some t => exact .inr ⟨cpu, t, rfl, enterable.1, enterable.2, taken, rfl⟩
    · exact .inl rfl

end AvatarKernel
