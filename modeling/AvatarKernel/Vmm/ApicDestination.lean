import Mathlib.Algebra.GroupWithZero.Nat
import Mathlib.Data.List.Basic

namespace AvatarKernel

/-- `icr_collect_targets` in a VM of `nrVcpus` vCPUs, of which each has its own `LDR`. `lo` and `hi`
are the two halves of the ICR of vCPU `src`. -/
def icrCollectTargets (nrVcpus : Nat) (ldr : Nat → BitVec 32) (src : Nat) (lo hi : BitVec 32)
    (max : Nat) : List Nat :=
  let shorthand := lo &&& 0x1c0000#32
  let dest := hi >>> 24 &&& 0xff#32
  if shorthand = 0x40000 then [src]
  else if shorthand = 0x80000 ∨ shorthand = 0xc0000 then
    ((List.range nrVcpus).filter fun i => !(shorthand == 0xc0000 && i == src)).take max
  else if shorthand ≠ 0 then []
  else if lo.getLsbD 11 then
    ((List.range nrVcpus).filter fun i => ldr i >>> 24 &&& dest != 0).take max
  else if dest = 0xff#32 then (List.range nrVcpus).take max
  else if dest.toNat < nrVcpus then [dest.toNat]
  else []

/-- The vCPUs at which a fixed-mode write of `lo` to `ICR_LO` raises its vector. `vlapic_raise_irq`
drops the vectors below 16. -/
def icrRaised (nrVcpus : Nat) (ldr : Nat → BitVec 32) (src : Nat) (lo hi : BitVec 32) : List Nat :=
  if (lo &&& 0xff#32).toNat < 16 then []
  else icrCollectTargets nrVcpus ldr src lo hi 12

/-- `vmm_arch_irq_raise` at a vCPU gets to `vlapic_raise_irq`; `rt` and `rtHi` are the two words of
the line's redirection entry. -/
def ioapicRaises (rt rtHi : BitVec 32) (vcpuId : Nat) : Bool :=
  let dest := rtHi >>> 24 &&& 0xff#32
  if rt.getLsbD 16 ∨ rt &&& 0x700#32 ≠ 0 then false
  else if (rt &&& 0xff#32).toNat < 16 then false
  else if rt.getLsbD 11 then vcpuId < 8 && dest.getLsbD vcpuId
  else dest == 0xff#32 || dest.toNat == vcpuId

/-- Whether the flat model of the xAPIC has a vCPU among the destinations, for the destination
shorthand in bits 18 and 19, the destination mode and the destination byte. -/
def XapicReaches (ldr : Nat → BitVec 32) (src : Nat) (shorthand : BitVec 32) (logical : Bool)
    (dest : BitVec 32) (vcpuId : Nat) : Prop :=
  if shorthand = 0 then
    if logical then ldr vcpuId >>> 24 &&& dest ≠ 0 else dest = 0xff#32 ∨ dest.toNat = vcpuId
  else if shorthand = 0x40000 then vcpuId = src
  else if shorthand = 0x80000 then True
  else vcpuId ≠ src

theorem dest_byte (hi : BitVec 32) : hi >>> 24 &&& 0xff#32 = hi >>> 24 := by
  apply BitVec.eq_of_toNat_eq
  rw [BitVec.toNat_and, BitVec.toNat_ofNat, BitVec.toNat_ushiftRight, Nat.shiftRight_eq_div_pow,
    show 0xff % 2 ^ 32 = 2 ^ 8 - 1 by rfl, Nat.and_two_pow_sub_one_eq_mod]
  omega

theorem shorthand_mask {lo : BitVec 32} (reserved : lo.getLsbD 20 = false) :
    lo &&& 0x1c0000#32 = lo &&& 0xc0000#32 := by
  have mask : 0x1c0000#32 = 0xc0000#32 ||| BitVec.twoPow 32 20 := by decide
  rw [mask, BitVec.and_or_distrib_left, BitVec.and_twoPow, reserved]
  simp

theorem shorthand_cases (lo : BitVec 32) :
    lo &&& 0xc0000#32 = 0 ∨ lo &&& 0xc0000#32 = 0x40000 ∨ lo &&& 0xc0000#32 = 0x80000 ∨
      lo &&& 0xc0000#32 = 0xc0000 := by
  have mask : 0xc0000#32 = BitVec.twoPow 32 18 ||| BitVec.twoPow 32 19 := by decide
  rw [mask, BitVec.and_or_distrib_left, BitVec.and_twoPow, BitVec.and_twoPow]
  cases lo.getLsbD 18 <;> cases lo.getLsbD 19 <;> decide

variable {nr src v : Nat} {ldr : Nat → BitVec 32} {lo hi rt rtHi : BitVec 32}

theorem mem_icrCollectTargets (few : nr ≤ 12) (vcpu : v < nr) (reserved : lo.getLsbD 20 = false) :
    v ∈ icrCollectTargets nr ldr src lo hi 12 ↔
      XapicReaches ldr src (lo &&& 0xc0000#32) (lo.getLsbD 11) (hi >>> 24) v := by
  have all : ∀ p, ((List.range nr).filter p).take 12 = (List.range nr).filter p := fun p =>
    List.take_of_length_le (Nat.le_trans (List.length_filter_le _ _) (by simpa using few))
  have every : (List.range nr).take 12 = List.range nr :=
    List.take_of_length_le (by simpa using few)
  unfold icrCollectTargets XapicReaches
  simp only [all, every, dest_byte, shorthand_mask reserved]
  generalize lo.getLsbD 11 = logical
  generalize hi >>> 24 = dest
  rcases shorthand_cases lo with none | self | all | others
  · rw [none]
    cases logical
    · by_cases broadcast : dest = 0xff#32
      · simp [broadcast, vcpu]
      · by_cases known : dest.toNat < nr
        · simp [broadcast, known, eq_comm]
        · have other : v ≠ dest.toNat := by omega
          simp [broadcast, known, other.symm]
    · simp [vcpu]
  · simp [self]
  · simp [all, vcpu]
  · simp [others, vcpu]

/-- A write with the reserved bit 20 set has no destination. -/
theorem icrCollectTargets_reserved (reserved : lo.getLsbD 20 = true) (max : Nat) :
    icrCollectTargets nr ldr src lo hi max = [] := by
  have bit : (lo &&& 0x1c0000#32).getLsbD 20 = true := by
    rw [BitVec.getLsbD_and, reserved]
    rfl
  have differs (other : BitVec 32) (clear : other.getLsbD 20 = false) :
      lo &&& 0x1c0000#32 ≠ other := by
    rintro rfl
    exact Bool.noConfusion (clear.symm.trans bit)
  unfold icrCollectTargets
  dsimp only
  rw [if_neg (differs _ rfl), if_neg (not_or.mpr ⟨differs _ rfl, differs _ rfl⟩),
    if_pos (differs _ rfl)]

/-- The vCPUs that a fixed-mode ICR write reaches are those of the flat model. -/
def IcrAgrees (nr : Nat) (ldr : Nat → BitVec 32) (src : Nat) (lo hi : BitVec 32) : Prop :=
  ∀ v < nr, v ∈ icrRaised nr ldr src lo hi ↔
    XapicReaches ldr src (lo &&& 0xc0000#32) (lo.getLsbD 11) (hi >>> 24) v

/-- The vCPUs that a line reaches through its redirection entry are those of the flat model, and so
those of an ICR write with the same destination byte and mode. -/
def IoapicAgrees (nr : Nat) (ldr : Nat → BitVec 32) (rt rtHi : BitVec 32) : Prop :=
  ∀ v < nr, ioapicRaises rt rtHi v = true ↔ XapicReaches ldr v 0 (rt.getLsbD 11) (rtHi >>> 24) v

theorem icrAgrees_iff (few : nr ≤ 12) (ldr : Nat → BitVec 32) (src : Nat) (lo hi : BitVec 32) :
    IcrAgrees nr ldr src lo hi ↔
      16 ≤ (lo &&& 0xff#32).toNat ∧ lo.getLsbD 20 = false ∨
        ∀ v < nr, ¬ XapicReaches ldr src (lo &&& 0xc0000#32) (lo.getLsbD 11) (hi >>> 24) v := by
  unfold IcrAgrees icrRaised
  by_cases vector : (lo &&& 0xff#32).toNat < 16
  · simp only [if_pos vector, List.not_mem_nil, false_iff]
    exact ⟨.inr, fun none => none.resolve_left fun usable =>
      absurd usable.1 (Nat.not_le.mpr vector)⟩
  simp only [if_neg vector]
  cases reserved : lo.getLsbD 20 with
  | true =>
    simp only [icrCollectTargets_reserved reserved, List.not_mem_nil, false_iff]
    simp
  | false =>
    have reached : ∀ v < nr, v ∈ icrCollectTargets nr ldr src lo hi 12 ↔ _ := fun v vcpu =>
      mem_icrCollectTargets few vcpu reserved
    exact iff_of_true reached (.inl ⟨Nat.not_lt.mp vector, rfl⟩)

theorem ioapicAgrees_iff (nr : Nat) (ldr : Nat → BitVec 32) {rt : BitVec 32}
    (unmasked : rt.getLsbD 16 = false) (fixed : rt &&& 0x700#32 = 0) (rtHi : BitVec 32) :
    IoapicAgrees nr ldr rt rtHi ↔
      if (rt &&& 0xff#32).toNat < 16 then
        ∀ v < nr, ¬ XapicReaches ldr v 0 (rt.getLsbD 11) (rtHi >>> 24) v
      else rt.getLsbD 11 = true →
        ∀ v < nr, v < 8 ∧ (rtHi >>> 24).getLsbD v = true ↔ ldr v >>> 24 &&& rtHi >>> 24 ≠ 0 := by
  unfold IoapicAgrees ioapicRaises
  have open_entry : ¬ (rt.getLsbD 16 = true ∨ rt &&& 0x700#32 ≠ 0) := by
    rw [unmasked, fixed]
    decide
  simp only [dest_byte, if_neg open_entry]
  by_cases vector : (rt &&& 0xff#32).toNat < 16
  · simp only [if_pos vector, Bool.false_eq_true, false_iff]
  · simp only [if_neg vector, XapicReaches, if_true]
    cases rt.getLsbD 11 <;> simp

/-- When the two ways to send a vector reach the vCPUs that the flat model names. For the ICR: the
vector is usable and the reserved bit clear, or nobody is named. For a redirection entry: its vector
is usable and, in logical mode, every vCPU whose logical id meets the destination byte is one of the
first eight with its own bit there, and conversely. -/
theorem destinations_agree (nr src : Nat) (ldr : Nat → BitVec 32) (lo hi rt rtHi : BitVec 32)
    (few : nr ≤ 12) (unmasked : rt.getLsbD 16 = false) (fixed : rt &&& 0x700#32 = 0) :
    (IcrAgrees nr ldr src lo hi ↔
      16 ≤ (lo &&& 0xff#32).toNat ∧ lo.getLsbD 20 = false ∨
        ∀ v < nr, ¬ XapicReaches ldr src (lo &&& 0xc0000#32) (lo.getLsbD 11) (hi >>> 24) v) ∧
    (IoapicAgrees nr ldr rt rtHi ↔
      if (rt &&& 0xff#32).toNat < 16 then
        ∀ v < nr, ¬ XapicReaches ldr v 0 (rt.getLsbD 11) (rtHi >>> 24) v
      else rt.getLsbD 11 = true →
        ∀ v < nr, v < 8 ∧ (rtHi >>> 24).getLsbD v = true ↔ ldr v >>> 24 &&& rtHi >>> 24 ≠ 0) :=
  ⟨icrAgrees_iff few ldr src lo hi, ioapicAgrees_iff nr ldr unmasked fixed rtHi⟩

theorem destinations_agree_init :
    IcrAgrees 2 (fun v => BitVec.twoPow 32 (24 + v)) 0 0x830 0x2000000 ∧
      IoapicAgrees 2 (fun v => BitVec.twoPow 32 (24 + v)) 0x830 0x2000000 := by
  obtain ⟨icr, ioapic⟩ :=
    destinations_agree 2 0 (fun v => BitVec.twoPow 32 (24 + v)) 0x830 0x2000000
    0x830 0x2000000 (by decide) (by decide) (by decide)
  refine ⟨icr.mpr (.inl (by decide)), ioapic.mpr ?_⟩
  rw [if_neg (by decide)]
  exact fun _ => by decide

def swappedLdr (v : Nat) : BitVec 32 := if v = 0 then 0x2000000 else 0x1000000

/-- A guest that swaps the logical ids of its two vCPUs: logical destination 1 is vCPU 1 in the flat
model and for the ICR, and vCPU 0 for the redirection table. -/
theorem logical_ids_swapped :
    icrRaised 2 swappedLdr 0 0x830 0x1000000 = [1] ∧ ioapicRaises 0x830 0x1000000 0 = true ∧
      ioapicRaises 0x830 0x1000000 1 = false ∧ ¬ XapicReaches swappedLdr 0 0 true 1 0 :=
  ⟨by decide, by decide, by decide, by unfold XapicReaches; decide⟩

end AvatarKernel
