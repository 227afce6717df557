import AvatarKernel.Lib.Memory
import AvatarKernel.Vmm.VgicMachine

namespace AvatarKernel

open Function Memory

/-- `redist_cpu`: the vCPU whose frame holds the offset, or else the one that makes the access -/
def redistCpu (vgic : Vgic3) (off vcpuId : Nat) : Nat :=
  if off / 0x20000 < vgic.nrVcpus then off / 0x20000
  else if vcpuId < vgic.nrVcpus then vcpuId else 0

/-- The index of the first of the four priorities of an access. It counts from `RD_base`, so it is
0x10000 too large: the bytes, here `prio0` from 32 on, lie behind the whole `vgic3_t`. -/
def priorityIndex (off : Nat) : Nat := (off % 0x20000 - 0x400) / 4 * 4

/-- `vgic3r_read` of `GICR_IPRIORITYR`. The `switch` has a case for the first byte of each word
only. -/
def vgic3rReadPriority (vgic : Vgic3) (off vcpuId : Nat) : BitVec 64 :=
  if off % 4 ≠ 0 then 0
  else wordOf fun i =>
    if i < 4 then (vgic.vcpu (redistCpu vgic off vcpuId)).prio0 (priorityIndex off + i) else 0

/-- `vgic3r_write` of `GICR_IPRIORITYR`. The size of the access is not looked at. -/
def vgic3rWritePriority (vgic : Vgic3) (off : Nat) (value : BitVec 64) (vcpuId : Nat) : Vgic3 :=
  if off % 4 ≠ 0 then vgic
  else vgic.modify (redistCpu vgic off vcpuId) fun vcpu =>
    { vcpu with prio0 := scatter vcpu.prio0 (priorityIndex off + ·) (byteAt value) 4 }

/-- What a write of `size` bytes to the priorities of a vCPU from INTID `irq` on has to come to. -/
structure PriorityStored (vgic : Vgic3) (cpu irq size : Nat) (value : BitVec 64) (vcpuId : Nat)
    (after : Vgic3) : Prop where
  reads : ∀ k < size,
    byteAt (vgic3rReadPriority after (cpu * 0x20000 + 0x10400 + irq) vcpuId) k = byteAt value k
  carried : ∀ k < size, byteAt (vgic3LrValue after (after.vcpu cpu) (irq + k)) 6 = byteAt value k
  frame : ∃ prio0, after = vgic.modify cpu ({ · with prio0 := prio0 }) ∧
    ∀ j < 32, j < irq ∨ irq + size ≤ j → prio0 j = (vgic.vcpu cpu).prio0 j

theorem byteAt_vgic3LrValue (vgic : Vgic3) (vcpu : Vgic3Vcpu) (banked : irq < 32) :
    byteAt (vgic3LrValue vgic vcpu irq) 6 = vcpu.prio0 irq := by
  have field : ∀ word, byteAt word 6 = (word >>> 48).setWidth 8 := by
    intro word
    apply BitVec.eq_of_toNat_eq
    simp [byteAt, Nat.shiftRight_eq_div_pow]
  rw [field, vgic3LrValue, if_pos banked]
  apply BitVec.eq_of_getLsbD_eq
  intro k below
  have clear : ∀ k < 8, (lrStPending.setWidth 64 <<< 62 ||| 1#64 <<< 60).getLsbD (48 + k) = false ∧
      (0xffffffff#64).getLsbD (48 + k) = false := by decide
  rw [BitVec.getLsbD_setWidth, BitVec.getLsbD_ushiftRight, BitVec.getLsbD_or, BitVec.getLsbD_or,
    BitVec.getLsbD_and, (clear k below).1, (clear k below).2]
  have inside : 48 + k < 64 := by omega
  simp [below, inside]

theorem redistCpu_priority (vgic : Vgic3) (valid : cpu < vgic.nrVcpus) (banked : irq < 32)
    (vcpuId : Nat) :
    redistCpu vgic (cpu * 0x20000 + 0x10400 + irq) vcpuId = cpu := by
  have frame : (cpu * 0x20000 + 0x10400 + irq) / 0x20000 = cpu := by omega
  rw [redistCpu, frame, if_pos valid]

/-- When a write comes to what it should: the INTIDs have the priorities that are written already,
and the bytes that the `switch` does not read back are 0. -/
def PriorityKept (vgic : Vgic3) (cpu irq size : Nat) (value : BitVec 64) : Prop :=
  ∀ k < size, (vgic.vcpu cpu).prio0 (irq + k) = byteAt value k ∧
    (irq % 4 ≠ 0 ∨ 4 ≤ k → byteAt value k = 0)

section Write

variable (vgic : Vgic3) {cpu irq size : Nat} (valid : cpu < vgic.nrVcpus)
  (inside : irq + size ≤ 32) (some_byte : 0 < size) (value : BitVec 64) (vcpuId : Nat)

include inside

/-- No case of the `switch` matches the offset. -/
theorem priority_stored_unaligned (odd : irq % 4 ≠ 0) :
    PriorityStored vgic cpu irq size value vcpuId
        (vgic3rWritePriority vgic (cpu * 0x20000 + 0x10400 + irq) value vcpuId) ↔
      PriorityKept vgic cpu irq size value := by
  have unmatched : (cpu * 0x20000 + 0x10400 + irq) % 4 ≠ 0 := by omega
  rw [vgic3rWritePriority, if_pos unmatched]
  have nothing (k : Nat) :
      byteAt (vgic3rReadPriority vgic (cpu * 0x20000 + 0x10400 + irq) vcpuId) k = 0 := by
    rw [vgic3rReadPriority, if_pos unmatched]
    exact BitVec.eq_of_toNat_eq (by simp [byteAt])
  constructor
  · intro stored k below
    refine ⟨?_, fun _ => ?_⟩
    · rw [← stored.carried k below, byteAt_vgic3LrValue _ _ (by omega)]
    · rw [← stored.reads k below, nothing]
  · intro kept
    refine ⟨fun k below => ?_, fun k below => ?_, (vgic.vcpu cpu).prio0, ?_, fun _ _ _ => rfl⟩
    · rw [nothing, (kept k below).2 (.inl odd)]
    · rw [byteAt_vgic3LrValue _ _ (by omega), (kept k below).1]
    · rw [Vgic3.modify, update_eq_self]

include valid some_byte

/-- The bytes go behind the array, where the same case reads them back and nothing else looks. -/
theorem priority_stored_aligned (aligned : irq % 4 = 0) (short : size ≤ 8) :
    PriorityStored vgic cpu irq size value vcpuId
        (vgic3rWritePriority vgic (cpu * 0x20000 + 0x10400 + irq) value vcpuId) ↔
      PriorityKept vgic cpu irq size value := by
  have word : ¬ (cpu * 0x20000 + 0x10400 + irq) % 4 ≠ 0 := by omega
  have index : priorityIndex (cpu * 0x20000 + 0x10400 + irq) = 0x10000 + irq := by
    unfold priorityIndex
    omega
  have banked : irq < 32 := by omega
  rw [vgic3rWritePriority, if_neg word, redistCpu_priority vgic valid banked, index]
  generalize written : vgic.modify cpu _ = after
  have array : (after.vcpu cpu).prio0 =
      scatter (vgic.vcpu cpu).prio0 (0x10000 + irq + ·) (byteAt value) 4 := by
    rw [← written, Vgic3.modify]
    dsimp only
    rw [update_self]
  have kept : ∀ j < 32, (after.vcpu cpu).prio0 j = (vgic.vcpu cpu).prio0 j := by
    intro j inside
    rw [array]
    exact scatter_of_miss fun i _ => by omega
  have back (k : Nat) (low : k < 8) :
      byteAt (vgic3rReadPriority after (cpu * 0x20000 + 0x10400 + irq) vcpuId) k =
        if k < 4 then byteAt value k else 0 := by
    have same : cpu < after.nrVcpus := by
      rw [← written]
      exact valid
    rw [vgic3rReadPriority, if_neg word, byteAt_wordOf _ low, index,
      redistCpu_priority _ same banked, array]
    split
    next first => exact scatter_of_hit (fun i j _ _ equal => by omega) first
    next => rfl
  constructor
  · intro stored k below
    refine ⟨?_, fun cut => ?_⟩
    · rw [← stored.carried k below, byteAt_vgic3LrValue _ _ (by omega), kept _ (by omega)]
    · rw [← stored.reads k below, back k (by omega), if_neg (by omega)]
  · intro same
    refine ⟨fun k below => ?_, fun k below => ?_, _, written.symm, fun j low _ => ?_⟩
    · rw [back k (by omega)]
      split
      next => rfl
      next cut => rw [(same k below).2 (.inr (by omega))]
    · rw [byteAt_vgic3LrValue _ _ (by omega), kept _ (by omega), (same k below).1]
    · rw [← array]
      exact kept j low

end Write

/-- A guest's write of any size to the priorities comes to what it should exactly if it changes
none. -/
theorem priority_stored (vgic : Vgic3) (cpu irq size : Nat) (valid : cpu < vgic.nrVcpus)
    (inside : irq + size ≤ 32) (sized : 0 < size ∧ size ≤ 8) (value : BitVec 64) (vcpuId : Nat) :
    PriorityStored vgic cpu irq size value vcpuId
        (vgic3rWritePriority vgic (cpu * 0x20000 + 0x10400 + irq) value vcpuId) ↔
      PriorityKept vgic cpu irq size value := by
  by_cases aligned : irq % 4 = 0
  · exact priority_stored_aligned vgic valid inside sized.1 value vcpuId aligned sized.2
  · exact priority_stored_unaligned vgic inside value vcpuId aligned

theorem priority_stored_default :
    PriorityStored (vgic3Init 2) 1 8 4 0xA0A0A0A0 0
      (vgic3rWritePriority (vgic3Init 2) (1 * 0x20000 + 0x10400 + 8) 0xA0A0A0A0 0) :=
  (priority_stored (vgic3Init 2) 1 8 4 (by decide) (by decide) (by decide) 0xA0A0A0A0 0).mpr
    (by unfold PriorityKept; decide)

/-- A guest gives SGI 8 of its vCPU the priority 0x40, and the list register still has 0xA0. -/
theorem priority_write_lost :
    ¬ PriorityStored (vgic3Init 1) 0 8 4 0x40404040 0
      (vgic3rWritePriority (vgic3Init 1) (0 * 0x20000 + 0x10400 + 8) 0x40404040 0) :=
  fun stored => absurd (stored.carried 0 (by decide)) (by decide)

end AvatarKernel
