import AvatarKernel.Lib.BitScan
import AvatarKernel.Vmm.VgicMachine

namespace AvatarKernel

open Function

/-- The per-vCPU part of `vgic_t`. Word 0 of `pending` and `active` is `pending0` and `active0`, the
others are the vCPU's rows of `spi_pending` and `spi_active`. `lr` mirrors the GICH list
registers. -/
structure Vgic2Vcpu where
  enabled0 : BitVec 32
  pending : IrqBank
  active : IrqBank
  sgiSources : Nat → BitVec 16
  giccEoiMode : Bool
  lr : Nat → BitVec 32

structure Vgic2 where
  nrVcpus : Nat
  enabled : IrqBank
  targets : Nat → BitVec 8
  vcpu : Nat → Vgic2Vcpu

def vgicMaxLrs : Nat := 4

def Vgic2.validVcpu (vgic : Vgic2) (vcpuId : Nat) : Bool := vcpuId < vgic.nrVcpus

def Vgic2.modify (vgic : Vgic2) (vcpuId : Nat) (change : Vgic2Vcpu → Vgic2Vcpu) : Vgic2 :=
  { vgic with vcpu := update vgic.vcpu vcpuId (change (vgic.vcpu vcpuId)) }

/-- `vmm_vgic_init` -/
def vgic2Init (nrVcpus : Nat) : Vgic2 where
  nrVcpus := if nrVcpus < 1 then 1 else if nrVcpus > 12 then 12 else nrVcpus
  enabled := fun _ => 0#32
  targets := fun _ => 0#8
  vcpu := fun _ =>
    { enabled0 := 0xffff#32
      pending := fun _ => 0#32
      active := fun _ => 0#32
      sgiSources := fun _ => 0#16
      giccEoiMode := false
      lr := fun _ => 0#32 }

/-- `vmm_vgic_set_sgi_pending` -/
def vgic2SetSgiPending (vgic : Vgic2) (vcpuId sourceVcpu irq : Nat) : Vgic2 :=
  if !vgic.validVcpu vcpuId || 16 ≤ irq then vgic
  else vgic.modify vcpuId fun vcpu =>
    { vcpu with
      sgiSources := update vcpu.sgiSources irq
        (vcpu.sgiSources irq ||| BitVec.twoPow 16 (if 12 ≤ sourceVcpu then 0 else sourceVcpu))
      pending := vcpu.pending.set irq }

/-- `vmm_vgic_set_pending` -/
def vgic2SetPending (vgic : Vgic2) (vcpuId irq : Nat) : Vgic2 :=
  if 1020 ≤ irq then vgic
  else if irq < 16 then vgic2SetSgiPending vgic vcpuId 0 irq
  else if vgic.validVcpu vcpuId then
    vgic.modify vcpuId fun vcpu => { vcpu with pending := vcpu.pending.set irq }
  else vgic

/-- `vmm_vgic_set_enabled` -/
def vgic2SetEnabled (vgic : Vgic2) (vcpuId irq : Nat) (enabled : Bool) : Vgic2 :=
  if 1020 ≤ irq || irq < 16 then vgic
  else if irq < 32 then
    if !vgic.validVcpu vcpuId then vgic
    else vgic.modify vcpuId fun vcpu =>
      { vcpu with enabled0 :=
          if enabled then vcpu.enabled0 ||| irqBit irq else vcpu.enabled0 &&& ~~~ irqBit irq }
  else
    { vgic with enabled :=
        if enabled then IrqBank.set vgic.enabled irq else IrqBank.clear vgic.enabled irq }

/-- `vmm_vgic_clear_pending_word` -/
def vgic2ClearPendingWord (vgic : Vgic2) (vcpuId word : Nat) (bits : BitVec 32) : Vgic2 :=
  if 32 ≤ word || !vgic.validVcpu vcpuId then vgic
  else vgic.modify vcpuId fun vcpu =>
    { vcpu with pending := update vcpu.pending word (vcpu.pending word &&& ~~~ bits) }

/-- `vmm_vgic_clear_active_word` -/
def vgic2ClearActiveWord (vgic : Vgic2) (vcpuId word : Nat) (bits : BitVec 32) : Vgic2 :=
  if 32 ≤ word || !vgic.validVcpu vcpuId then vgic
  else vgic.modify vcpuId fun vcpu =>
    { vcpu with active := update vcpu.active word (vcpu.active word &&& ~~~ bits) }

/-- The interrupts of one word that can be delivered to a vCPU; SGIs are always enabled. -/
def Vgic2.readyWord (vgic : Vgic2) (vcpuId word : Nat) : BitVec 32 :=
  (vgic.vcpu vcpuId).pending word &&&
    (if word = 0 then (vgic.vcpu vcpuId).enabled0 ||| 0xffff#32 else vgic.enabled word) &&&
      ~~~ (vgic.vcpu vcpuId).active word

/-- `vmm_vgic_next_pending` -/
def vgic2NextPending (vgic : Vgic2) (vcpuId : Nat) : Option Nat :=
  if !vgic.validVcpu vcpuId then none
  else ((List.range 32).find? fun word => vgic.readyWord vcpuId word != 0#32).map fun word =>
    word * 32 + BitScan.lowest (vgic.readyWord vcpuId word)

/-- `lr & LR_STATE_MASK` -/
def lr2Used (lr : BitVec 32) : Bool := lr.extractLsb' 28 2 != 0#2

def lr2Pending (lr : BitVec 32) : Bool := lr.extractLsb' 28 2 == 1#2

/-- `lr & LR_VINTID_MASK` -/
def lr2Vintid (lr : BitVec 32) : Nat := (lr.extractLsb' 0 10).toNat

def lr2Value (irq sourceVcpu : Nat) : BitVec 32 :=
  1#32 <<< 30 ||| 1#32 <<< 28 ||| 0x14#32 <<< 23 ||| (BitVec.ofNat 32 irq &&& 0x3ff#32) |||
    (if irq < 16 then (BitVec.ofNat 32 sourceVcpu &&& 7#32) <<< 10 else 0#32)

/-- The mirror of a vCPU and the GICH list registers of the CPU it works on. -/
structure Lr2View where
  vgic : Vgic2
  hw : Nat → BitVec 32

def Vgic2Vcpu.setLr (vcpu : Vgic2Vcpu) (i : Nat) (value : BitVec 32) : Vgic2Vcpu :=
  { vcpu with lr := update vcpu.lr i value }

/-- `vgicc_lr_has_irq` -/
def lr2HasIrq (vcpu : Vgic2Vcpu) (irq : Nat) : Bool :=
  (List.range vgicMaxLrs).any fun i => lr2Used (vcpu.lr i) && lr2Vintid (vcpu.lr i) == irq % 1024

/-- `vgicc_lr_empty_slot` -/
def lr2EmptySlot (vcpu : Vgic2Vcpu) : Option Nat :=
  (List.range vgicMaxLrs).find? fun i => !lr2Used (vcpu.lr i)

/-- `vgicc_write_lr` -/
def writeLr2 (x : Lr2View) (vcpuId slot : Nat) (value : BitVec 32) : Lr2View :=
  if !x.vgic.validVcpu vcpuId || vgicMaxLrs ≤ slot then x
  else
    { vgic := x.vgic.modify vcpuId fun vcpu => vcpu.setLr slot value
      hw := update x.hw slot value }

def clearLr2 (vcpuId irq : Nat) (x : Lr2View) (i : Nat) : Lr2View :=
  if lr2Used ((x.vgic.vcpu vcpuId).lr i) && lr2Vintid ((x.vgic.vcpu vcpuId).lr i) == irq % 1024 then
    { vgic := x.vgic.modify vcpuId fun vcpu => vcpu.setLr i 0#32
      hw := update x.hw i 0#32 }
  else x

/-- `vgicc_clear_lr_irq` -/
def clearLr2Irq (x : Lr2View) (vcpuId irq : Nat) : Lr2View :=
  if !x.vgic.validVcpu vcpuId then x else (List.range vgicMaxLrs).foldl (clearLr2 vcpuId irq) x

/-- `vgicc_save_state_from_hw`: the registers go to the mirror and are cleared. -/
def saveLr2 (x : Lr2View) (vcpuId : Nat) : Lr2View :=
  if !x.vgic.validVcpu vcpuId then x
  else
    { vgic := x.vgic.modify vcpuId fun vcpu =>
        { vcpu with lr := fun i =>
            if i < vgicMaxLrs then (if lr2Used (x.hw i) then x.hw i else 0#32) else vcpu.lr i }
      hw := fun i => if i < vgicMaxLrs then 0#32 else x.hw i }

/-- `vmm_vgic_ack` -/
def vgic2Ack (x : Lr2View) (vcpuId : Nat) : Lr2View × Option Nat :=
  match vgic2NextPending x.vgic vcpuId with
  | none => (x, none)
  | some irq =>
    (clearLr2Irq
      { x with vgic := x.vgic.modify vcpuId fun vcpu =>
          { vcpu with
            pending := vcpu.pending.clear irq
            sgiSources := if irq < 16 then update vcpu.sgiSources irq 0#16
              else vcpu.sgiSources
            active := vcpu.active.set irq } }
      vcpuId irq, some irq)

/-- `vmm_vgic_eoi` -/
def vgic2Eoi (vgic : Vgic2) (vcpuId irq : Nat) : Vgic2 :=
  if !vgic.validVcpu vcpuId || 1020 ≤ irq then vgic
  else vgic.modify vcpuId fun vcpu => { vcpu with active := vcpu.active.clear irq }

def sgiSource (vcpu : Vgic2Vcpu) (irq : Nat) : Nat :=
  if irq < 16 then
    if vcpu.sgiSources irq ≠ 0#16 then BitScan.lowest (vcpu.sgiSources irq) else 0
  else 0

/-- `vmm_vgic_sync_entry`, whose loop runs once. -/
def vgic2SyncEntry (x : Lr2View) (vcpuId : Nat) : Lr2View :=
  if !x.vgic.validVcpu vcpuId then x
  else
    match vgic2NextPending x.vgic vcpuId with
    | none => x
    | some irq =>
      if lr2HasIrq (x.vgic.vcpu vcpuId) irq then x
      else
        match lr2EmptySlot (x.vgic.vcpu vcpuId) with
        | none => x
        | some slot =>
          writeLr2 x vcpuId slot (lr2Value irq (sgiSource (x.vgic.vcpu vcpuId) irq))

/-- `vmm_vgic_sync_exit` -/
def vgic2SyncExit (x : Lr2View) (vcpuId : Nat) : Lr2View :=
  if x.vgic.validVcpu vcpuId then saveLr2 x vcpuId else x

/-- `for (bit = 0; bit < 32; bit++) if (value & (1u << bit)) f(word * 32 + bit)` -/
def forBits (value : BitVec 32) (word : Nat) (f : Vgic2 → Nat → Vgic2) (vgic : Vgic2) : Vgic2 :=
  ((List.range 32).filter fun bit => value.getLsbD bit).foldl
    (fun vgic bit => f vgic (word * 32 + bit)) vgic

def maskVcpus (vgic : Vgic2) (mask : BitVec 32) : List Nat :=
  (List.range vgic.nrVcpus).filter fun cpu => mask.getLsbD cpu

/-- The vCPUs that a write of `GICD_ISPENDR` makes an interrupt pending for; no target at all means
vCPU 0. -/
def ispendrMask (vgic : Vgic2) (vcpuId irq : Nat) : BitVec 32 :=
  let mask := if irq < 32 then 1#32 <<< vcpuId else (vgic.targets irq).setWidth 32
  if mask = 0#32 then 1#32 else mask

def vgicdSetPending (vcpuId : Nat) (vgic : Vgic2) (irq : Nat) : Vgic2 :=
  (maskVcpus vgic (ispendrMask vgic vcpuId irq)).foldl
    (fun vgic cpu => vgic2SetPending vgic cpu irq) vgic

def sgirMask (vgic : Vgic2) (value : BitVec 32) (sourceVcpu : Nat) : BitVec 32 :=
  match (value.extractLsb' 24 2).toNat with
  | 0 => (value.extractLsb' 16 8).setWidth 32
  | 1 => (1#32 <<< vgic.nrVcpus - 1#32) &&& ~~~(1#32 <<< sourceVcpu)
  | 2 => 1#32 <<< sourceVcpu
  | _ => 0#32

def handleSgir (vgic : Vgic2) (value : BitVec 32) (sourceVcpu : Nat) : Vgic2 :=
  (maskVcpus vgic (sgirMask vgic value sourceVcpu)).foldl
    (fun vgic cpu => vgic2SetSgiPending vgic cpu sourceVcpu (value.extractLsb' 0 4).toNat) vgic

def wordIndex (off base : Nat) : Option Nat :=
  if off < base ∨ base + 128 ≤ off then none else some ((off - base) / 4)

def writeTargets (vgic : Vgic2) (index size : Nat) (value : BitVec 64) : Vgic2 :=
  { vgic with targets := fun irq =>
      if index ≤ irq ∧ irq < index + size ∧ irq < 1024 then
        (value >>> (8 * (irq - index))).setWidth 8
      else vgic.targets irq }

/-- `vgicd_write_for_vcpu`, without the bytes it stores in `dist_regs`, which no delivery reads. -/
def vgicdWrite (vgic : Vgic2) (vcpuId off size : Nat) (value : BitVec 64) : Vgic2 :=
  if off = 0 then vgic
  else
    match wordIndex off 0x100 with
    | some word =>
      forBits (value.setWidth 32) word (fun vgic irq => vgic2SetEnabled vgic vcpuId irq true) vgic
    | none =>
    match wordIndex off 0x180 with
    | some word =>
      forBits (value.setWidth 32) word (fun vgic irq => vgic2SetEnabled vgic vcpuId irq false) vgic
    | none =>
    match wordIndex off 0x200 with
    | some word => forBits (value.setWidth 32) word (vgicdSetPending vcpuId) vgic
    | none =>
    match wordIndex off 0x280 with
    | some word => vgic2ClearPendingWord vgic vcpuId word (value.setWidth 32)
    | none =>
    match wordIndex off 0x380 with
    | some word => vgic2ClearActiveWord vgic vcpuId word (value.setWidth 32)
    | none =>
      if off = 0xf00 then handleSgir vgic (value.setWidth 32) vcpuId
      else if 0x820 ≤ off ∧ off < 0xc00 then writeTargets vgic (off - 0x800) size value
      else vgic

/-- `vgicc_read_for_vcpu` at `GICC_IAR`; `none` is the spurious interrupt. -/
def giccIar (x : Lr2View) (vcpuId : Nat) : Lr2View × Option Nat :=
  if x.vgic.validVcpu vcpuId then vgic2Ack x vcpuId else (x, none)

/-- `vgicc_write_for_vcpu`, as far as interrupts depend on it. -/
def vgiccWrite (vgic : Vgic2) (vcpuId off : Nat) (value : BitVec 64) : Vgic2 :=
  if !vgic.validVcpu vcpuId then vgic
  else if off = 0 then vgic.modify vcpuId fun vcpu => { vcpu with giccEoiMode := value.getLsbD 9 }
  else if off = 0x10 then
    if (vgic.vcpu vcpuId).giccEoiMode then vgic
    else vgic2Eoi vgic vcpuId (value.extractLsb' 0 10).toNat
  else if off = 0x1000 then vgic2Eoi vgic vcpuId (value.extractLsb' 0 10).toNat
  else vgic

end AvatarKernel
