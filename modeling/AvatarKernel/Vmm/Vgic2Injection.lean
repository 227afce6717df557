import AvatarKernel.Vmm.Vgic2

namespace AvatarKernel

open Transition
open Function (update update_apply update_of_ne update_self)

/-- The VMs of a GICv2 host and the GICH list registers of its CPUs. `guest` is the vCPU whose guest
a CPU is executing. -/
structure Vgic2Host where
  vgic : Nat → Vgic2
  hw : Nat → Nat → BitVec 32
  guest : Nat → Option VcpuPtr

def Vgic2Host.view (h : Vgic2Host) (cpu slot : Nat) : Lr2View := ⟨h.vgic slot, h.hw cpu⟩

def Vgic2Host.put (h : Vgic2Host) (cpu slot : Nat) (x : Lr2View) : Vgic2Host :=
  { h with
    vgic := update h.vgic slot x.vgic
    hw := update h.hw cpu x.hw }

def Vgic2Host.setVgic (h : Vgic2Host) (slot : Nat) (vgic : Vgic2) : Vgic2Host :=
  { h with vgic := update h.vgic slot vgic }

def Vgic2Host.setHw (h : Vgic2Host) (cpu i : Nat) (value : BitVec 32) : Vgic2Host :=
  { h with hw := update h.hw cpu (update (h.hw cpu) i value) }

def Vgic2Host.setGuest (h : Vgic2Host) (cpu : Nat) (v : Option VcpuPtr) : Vgic2Host :=
  { h with guest := update h.guest cpu v }

def lr2Ack (lr : BitVec 32) : BitVec 32 :=
  if lr2Pending lr then (lr &&& ~~~(3#32 <<< 28)) ||| 2#32 <<< 28 else lr

def lr2End (lr : BitVec 32) : BitVec 32 := lr &&& ~~~(1#32 <<< 29)

/-- What happens on a GICv2 host. The task of the vCPU that reads `GICC_IAR` is on `cpu`. -/
inductive Vgic2Action where
  | raise (v : VcpuPtr) (irq : Nat)
  | gicd (v : VcpuPtr) (off size : Nat) (value : BitVec 64)
  | iar (cpu : Nat) (v : VcpuPtr)
  | gicc (v : VcpuPtr) (off : Nat) (value : BitVec 64)
  | enter (cpu : Nat) (v : VcpuPtr)
  | acknowledge (cpu i : Nat)
  | endOfInterrupt (cpu i : Nat)
  | exit (cpu : Nat)

def Vgic2Host.enter (h : Vgic2Host) (cpu : Nat) (v : VcpuPtr) : Vgic2Host :=
  (h.put cpu v.slot (vgic2SyncEntry (h.view cpu v.slot) v.id)).setGuest cpu (some v)

def Vgic2Host.next (h : Vgic2Host) : Vgic2Action → Vgic2Host
  | .raise v irq => h.setVgic v.slot (vgic2SetPending (h.vgic v.slot) v.id irq)
  | .gicd v off size value => h.setVgic v.slot (vgicdWrite (h.vgic v.slot) v.id off size value)
  | .iar cpu v =>
    if h.guest cpu = none then h.put cpu v.slot (giccIar (h.view cpu v.slot) v.id).1 else h
  | .gicc v off value => h.setVgic v.slot (vgiccWrite (h.vgic v.slot) v.id off value)
  | .enter cpu v =>
    if h.guest cpu = none ∧ (h.vgic v.slot).validVcpu v.id = true then h.enter cpu v else h
  | .acknowledge cpu i =>
    if (h.guest cpu).isSome then h.setHw cpu i (lr2Ack (h.hw cpu i)) else h
  | .endOfInterrupt cpu i =>
    if (h.guest cpu).isSome then h.setHw cpu i (lr2End (h.hw cpu i)) else h
  | .exit cpu =>
    match h.guest cpu with
    | none => h
    | some v => (h.put cpu v.slot (vgic2SyncExit (h.view cpu v.slot) v.id)).setGuest cpu none

def Vgic2Host.boot (nrVcpus : Nat → Nat) : Vgic2Host where
  vgic := fun slot => vgic2Init (nrVcpus slot)
  hw := fun _ _ => 0#32
  guest := fun _ => none

@[simp] theorem vgic2_modify_nrVcpus (vgic : Vgic2) (vcpuId : Nat)
    (change : Vgic2Vcpu → Vgic2Vcpu) : (vgic.modify vcpuId change).nrVcpus = vgic.nrVcpus := rfl

theorem vgic2SetSgiPending_nrVcpus (vgic : Vgic2) (vcpuId source irq : Nat) :
    (vgic2SetSgiPending vgic vcpuId source irq).nrVcpus = vgic.nrVcpus := by
  unfold vgic2SetSgiPending
  split <;> simp

theorem vgic2SetPending_nrVcpus (vgic : Vgic2) (vcpuId irq : Nat) :
    (vgic2SetPending vgic vcpuId irq).nrVcpus = vgic.nrVcpus := by
  unfold vgic2SetPending
  split
  · rfl
  · split
    · exact vgic2SetSgiPending_nrVcpus vgic vcpuId 0 irq
    · split <;> simp

theorem vgic2SetEnabled_nrVcpus (vgic : Vgic2) (vcpuId irq : Nat) (enabled : Bool) :
    (vgic2SetEnabled vgic vcpuId irq enabled).nrVcpus = vgic.nrVcpus := by
  unfold vgic2SetEnabled
  split
  · rfl
  · split
    · split <;> simp
    · rfl

theorem foldl_nrVcpus (f : Vgic2 → β → Vgic2) (keep : ∀ vgic b, (f vgic b).nrVcpus = vgic.nrVcpus)
    (list : List β) (vgic : Vgic2) : (list.foldl f vgic).nrVcpus = vgic.nrVcpus := by
  induction list generalizing vgic with
  | nil => rfl
  | cons _ _ ih => rw [List.foldl_cons, ih, keep]

theorem vgicdSetPending_nrVcpus (vcpuId : Nat) (vgic : Vgic2) (irq : Nat) :
    (vgicdSetPending vcpuId vgic irq).nrVcpus = vgic.nrVcpus :=
  foldl_nrVcpus _ (fun vgic cpu => vgic2SetPending_nrVcpus vgic cpu irq) _ vgic

theorem forBits_nrVcpus (value : BitVec 32) (word : Nat)
    (keep : ∀ vgic irq, (f vgic irq).nrVcpus = vgic.nrVcpus) (vgic : Vgic2) :
    (forBits value word f vgic).nrVcpus = vgic.nrVcpus :=
  foldl_nrVcpus _ (fun vgic bit => keep vgic (word * 32 + bit)) _ vgic

theorem writeTargets_nrVcpus (vgic : Vgic2) (index size : Nat) (value : BitVec 64) :
    (writeTargets vgic index size value).nrVcpus = vgic.nrVcpus := rfl

theorem vgicdWrite_nrVcpus (vgic : Vgic2) (vcpuId off size : Nat) (value : BitVec 64) :
    (vgicdWrite vgic vcpuId off size value).nrVcpus = vgic.nrVcpus := by
  unfold vgicdWrite
  repeat' split
  · rfl
  · exact forBits_nrVcpus _ _ (fun vgic irq => vgic2SetEnabled_nrVcpus vgic vcpuId irq true) vgic
  · exact forBits_nrVcpus _ _ (fun vgic irq => vgic2SetEnabled_nrVcpus vgic vcpuId irq false) vgic
  · exact forBits_nrVcpus _ _ (vgicdSetPending_nrVcpus vcpuId) vgic
  · unfold vgic2ClearPendingWord
    split <;> simp
  · unfold vgic2ClearActiveWord
    split <;> simp
  · exact foldl_nrVcpus _ (fun vgic cpu => vgic2SetSgiPending_nrVcpus vgic cpu _ _) _ vgic
  · exact writeTargets_nrVcpus vgic _ size value
  · rfl

theorem vgic2Eoi_nrVcpus (vgic : Vgic2) (vcpuId irq : Nat) :
    (vgic2Eoi vgic vcpuId irq).nrVcpus = vgic.nrVcpus := by
  unfold vgic2Eoi
  split <;> simp

theorem vgiccWrite_nrVcpus (vgic : Vgic2) (vcpuId off : Nat) (value : BitVec 64) :
    (vgiccWrite vgic vcpuId off value).nrVcpus = vgic.nrVcpus := by
  unfold vgiccWrite
  split
  · rfl
  · split
    · rfl
    · split
      · split
        · rfl
        · exact vgic2Eoi_nrVcpus vgic vcpuId _
      · split
        · exact vgic2Eoi_nrVcpus vgic vcpuId _
        · rfl

variable (x : Lr2View)

theorem clearLr2_spec (vcpuId irq slot : Nat) (empty : ∀ i < vgicMaxLrs, x.hw i = 0#32) :
    (clearLr2 vcpuId irq x slot).vgic.nrVcpus = x.vgic.nrVcpus ∧
      ∀ i < vgicMaxLrs, (clearLr2 vcpuId irq x slot).hw i = 0#32 := by
  unfold clearLr2
  split
  · refine ⟨rfl, fun i inside => ?_⟩
    dsimp only
    rw [update_apply]
    split
    · rfl
    · exact empty i inside
  · exact ⟨rfl, empty⟩

theorem clearLr2Irq_spec (vcpuId irq : Nat) (empty : ∀ i < vgicMaxLrs, x.hw i = 0#32) :
    (clearLr2Irq x vcpuId irq).vgic.nrVcpus = x.vgic.nrVcpus ∧
      ∀ i < vgicMaxLrs, (clearLr2Irq x vcpuId irq).hw i = 0#32 := by
  have loop : ∀ (slots : List Nat) (y : Lr2View), (∀ i < vgicMaxLrs, y.hw i = 0#32) →
      (slots.foldl (clearLr2 vcpuId irq) y).vgic.nrVcpus = y.vgic.nrVcpus ∧
        ∀ i < vgicMaxLrs, (slots.foldl (clearLr2 vcpuId irq) y).hw i = 0#32 := by
    intro slots
    induction slots with
    | nil => exact fun y clear => ⟨rfl, clear⟩
    | cons slot _ ih =>
      intro y clear
      have step := clearLr2_spec y vcpuId irq slot clear
      have rest := ih (clearLr2 vcpuId irq y slot) step.2
      exact ⟨rest.1.trans step.1, rest.2⟩
  unfold clearLr2Irq
  split
  · exact ⟨rfl, empty⟩
  · exact loop _ x empty

theorem giccIar_spec (vcpuId : Nat) (empty : ∀ i < vgicMaxLrs, x.hw i = 0#32) :
    (giccIar x vcpuId).1.vgic.nrVcpus = x.vgic.nrVcpus ∧
      ∀ i < vgicMaxLrs, (giccIar x vcpuId).1.hw i = 0#32 := by
  unfold giccIar
  split
  · unfold vgic2Ack
    split
    · exact ⟨rfl, empty⟩
    · exact clearLr2Irq_spec _ vcpuId _ empty
  · exact ⟨rfl, empty⟩

theorem vgic2SyncEntry_nrVcpus (vcpuId : Nat) :
    (vgic2SyncEntry x vcpuId).vgic.nrVcpus = x.vgic.nrVcpus := by
  unfold vgic2SyncEntry
  repeat' split
  · rfl
  · rfl
  · rfl
  · rfl
  · unfold writeLr2
    split <;> rfl

variable {vcpuId : Nat}

theorem vgic2SyncExit_spec {x : Lr2View} (valid : x.vgic.validVcpu vcpuId = true) :
    (vgic2SyncExit x vcpuId).vgic.nrVcpus = x.vgic.nrVcpus ∧
      ∀ i < vgicMaxLrs, (vgic2SyncExit x vcpuId).hw i = 0#32 := by
  unfold vgic2SyncExit saveLr2
  rw [if_pos valid, if_neg (by simp [valid])]
  exact ⟨rfl, fun i inside => if_pos inside⟩

/-- What holds of a host at any time: the vCPU in a guest exists, and the list registers of a CPU
outside the guest are empty. -/
structure Vgic2Host.Settled (h : Vgic2Host) : Prop where
  valid : ∀ cpu v, h.guest cpu = some v → v.id < (h.vgic v.slot).nrVcpus
  idle : ∀ cpu, h.guest cpu = none → ∀ i < vgicMaxLrs, h.hw cpu i = 0#32

theorem settled_boot (nrVcpus : Nat → Nat) : (Vgic2Host.boot nrVcpus).Settled where
  valid := by simp [Vgic2Host.boot]
  idle := fun _ _ _ _ => rfl

variable {vgic : Vgic2}

theorem update_nrVcpus {vgics : Nat → Vgic2} {slot : Nat}
    (same : vgic.nrVcpus = (vgics slot).nrVcpus) (other : Nat) :
    (update vgics slot vgic other).nrVcpus = (vgics other).nrVcpus := by
  by_cases here : other = slot
  · rw [here, update_self, same]
  · rw [update_of_ne here]

variable {h : Vgic2Host}

namespace Vgic2Host

theorem Settled.setVgic (inv : h.Settled) (slot : Nat)
    (same : vgic.nrVcpus = (h.vgic slot).nrVcpus) : (h.setVgic slot vgic).Settled where
  valid := by
    intro cpu v here
    show v.id < (update h.vgic slot vgic v.slot).nrVcpus
    rw [update_nrVcpus same]
    exact inv.valid cpu v here
  idle := inv.idle

theorem Settled.put (inv : h.Settled) (cpu slot : Nat) {x : Lr2View}
    (same : x.vgic.nrVcpus = (h.vgic slot).nrVcpus)
    (empty : h.guest cpu = none → ∀ i < vgicMaxLrs, x.hw i = 0#32) :
    (h.put cpu slot x).Settled where
  valid := by
    intro c v here
    show v.id < (update h.vgic slot x.vgic v.slot).nrVcpus
    rw [update_nrVcpus same]
    exact inv.valid c v here
  idle := by
    intro c none i inside
    show update h.hw cpu x.hw c i = 0#32
    by_cases here : c = cpu
    · subst here
      rw [update_self]
      exact empty none i inside
    · rw [update_of_ne here]
      exact inv.idle c none i inside

theorem Settled.setHw (inv : h.Settled) {cpu : Nat} (i : Nat) (value : BitVec 32)
    (busy : (h.guest cpu).isSome = true) : (h.setHw cpu i value).Settled where
  valid := inv.valid
  idle := by
    intro c none j inside
    have other : c ≠ cpu := by
      rintro rfl
      rw [show h.guest c = Option.none from none] at busy
      cases busy
    show update h.hw cpu _ c j = 0#32
    rw [update_of_ne other]
    exact inv.idle c none j inside

theorem Settled.enter (inv : h.Settled) (cpu : Nat) (v : VcpuPtr)
    (valid : v.id < (h.vgic v.slot).nrVcpus) : (h.enter cpu v).Settled where
  valid := by
    intro c w here
    show w.id < (update h.vgic v.slot _ w.slot).nrVcpus
    rw [update_nrVcpus (vgic2SyncEntry_nrVcpus _ v.id)]
    replace here : update h.guest cpu (some v) c = some w := here
    by_cases same : c = cpu
    · rw [same, update_self, Option.some.injEq] at here
      rw [← here]
      exact valid
    · rw [update_of_ne same] at here
      exact inv.valid c w here
  idle := by
    intro c none i inside
    replace none : update h.guest cpu (some v) c = Option.none := none
    have other : c ≠ cpu := by
      rintro rfl
      rw [update_self] at none
      cases none
    rw [update_of_ne other] at none
    show update h.hw cpu _ c i = 0#32
    rw [update_of_ne other]
    exact inv.idle c none i inside

theorem Settled.exit (inv : h.Settled) (inside : h.guest cpu = some v) :
    ((h.put cpu v.slot (vgic2SyncExit (h.view cpu v.slot) v.id)).setGuest cpu none).Settled := by
  have valid := inv.valid cpu v inside
  have spec := @vgic2SyncExit_spec v.id (h.view cpu v.slot)
    (decide_eq_true valid)
  constructor
  · intro c w here
    show w.id < (update h.vgic v.slot _ w.slot).nrVcpus
    rw [update_nrVcpus spec.1]
    replace here : update h.guest cpu none c = some w := here
    by_cases same : c = cpu
    · rw [same, update_self] at here
      cases here
    · rw [update_of_ne same] at here
      exact inv.valid c w here
  · intro c none i below
    show update h.hw cpu _ c i = 0#32
    by_cases same : c = cpu
    · rw [same, update_self]
      exact spec.2 i below
    · rw [update_of_ne same]
      replace none : update h.guest cpu Option.none c = Option.none := none
      rw [update_of_ne same] at none
      exact inv.idle c none i below

theorem Settled.step (inv : h.Settled) (action : Vgic2Action) :
    (h.next action).Settled := by
  cases action with
  | raise v => exact inv.setVgic v.slot (vgic2SetPending_nrVcpus _ _ _)
  | gicd v => exact inv.setVgic v.slot (vgicdWrite_nrVcpus _ _ _ _ _)
  | gicc v => exact inv.setVgic v.slot (vgiccWrite_nrVcpus _ _ _ _)
  | iar cpu v =>
    show (if h.guest cpu = none then _ else h).Settled
    split
    · rename_i idle
      have spec := giccIar_spec (h.view cpu v.slot) v.id (inv.idle cpu idle)
      exact inv.put cpu v.slot spec.1 fun _ => spec.2
    · exact inv
  | enter cpu v =>
    show (if h.guest cpu = none ∧ (h.vgic v.slot).validVcpu v.id = true then _ else h).Settled
    split
    · rename_i ready
      exact inv.enter cpu v (by simpa [Vgic2.validVcpu] using ready.2)
    · exact inv
  | acknowledge cpu i =>
    show (if (h.guest cpu).isSome = true then _ else h).Settled
    split
    · rename_i busy
      exact inv.setHw i _ busy
    · exact inv
  | endOfInterrupt cpu i =>
    show (if (h.guest cpu).isSome = true then _ else h).Settled
    split
    · rename_i busy
      exact inv.setHw i _ busy
    · exact inv
  | exit cpu =>
    cases inside : h.guest cpu with
    | none =>
      have same : h.next (.exit cpu) = h := by simp [next, inside]
      rw [same]
      exact inv
    | some v =>
      have after : h.next (.exit cpu) =
          (h.put cpu v.slot (vgic2SyncExit (h.view cpu v.slot) v.id)).setGuest cpu none := by
        simp [next, inside]
      rw [after]
      exact inv.exit inside

end Vgic2Host

def Vgic2.Ready (vgic : Vgic2) (vcpuId irq : Nat) : Prop :=
  irq < 1024 ∧ (vgic.vcpu vcpuId).pending.has irq = true ∧
    (irq < 16 ∨ (irq < 32 ∧ (vgic.vcpu vcpuId).enabled0.getLsbD irq = true) ∨
      (32 ≤ irq ∧ vgic.enabled.has irq = true)) ∧
    (vgic.vcpu vcpuId).active.has irq = false

theorem readyWord_iff (vgic : Vgic2) (vcpuId irq : Nat) (small : irq < 1024) :
    (vgic.readyWord vcpuId (irq / 32)).getLsbD (irq % 32) = true ↔ vgic.Ready vcpuId irq := by
  have below : irq % 32 < 32 := Nat.mod_lt _ (by decide)
  have sgi : (0xffff#32).getLsbD (irq % 32) = decide (irq % 32 < 16) := by
    have all : ∀ k < 32, (0xffff#32).getLsbD k = decide (k < 16) := by decide
    exact all _ below
  unfold Vgic2.readyWord Vgic2.Ready IrqBank.has
  by_cases zero : irq / 32 = 0
  · have low : irq % 32 = irq := by omega
    simp only [zero, if_true, BitVec.getLsbD_and, BitVec.getLsbD_or, BitVec.getLsbD_not, sgi, below,
      Bool.and_eq_true, Bool.or_eq_true, decide_eq_true_eq, Bool.not_eq_true']
    rw [low]
    constructor
    · rintro ⟨⟨pending, enabled⟩, _, active⟩
      refine ⟨small, pending, ?_, active⟩
      rcases enabled with on | always
      · exact .inr (.inl ⟨by omega, on⟩)
      · exact .inl always
    · rintro ⟨_, pending, enabled, active⟩
      refine ⟨⟨pending, ?_⟩, trivial, active⟩
      rcases enabled with always | on | shared
      · exact .inr always
      · exact .inl on.2
      · omega
  · simp only [zero, if_false, BitVec.getLsbD_and, BitVec.getLsbD_not, below, Bool.and_eq_true,
      decide_eq_true_eq, Bool.not_eq_true']
    constructor
    · rintro ⟨⟨pending, enabled⟩, _, active⟩
      exact ⟨small, pending, .inr (.inr ⟨by omega, enabled⟩), active⟩
    · rintro ⟨_, pending, enabled, active⟩
      refine ⟨⟨pending, ?_⟩, trivial, active⟩
      rcases enabled with always | on | shared
      · omega
      · omega
      · exact shared.2

theorem vgic2NextPending_none (valid : vgic.validVcpu vcpuId = true)
    (none : vgic2NextPending vgic vcpuId = Option.none) (irq : Nat) : ¬ vgic.Ready vcpuId irq := by
  intro ready
  unfold vgic2NextPending at none
  rw [if_neg (by simp [valid]), Option.map_eq_none_iff, List.find?_eq_none] at none
  have inside : irq / 32 ∈ List.range 32 := by
    have small := ready.1
    rw [List.mem_range]
    omega
  have empty := none (irq / 32) inside
  simp only [bne_iff_ne, ne_eq, Decidable.not_not] at empty
  have set := (readyWord_iff vgic vcpuId irq ready.1).mpr ready
  rw [empty] at set
  simp at set

theorem vgic2NextPending_some {irq : Nat} (found : vgic2NextPending vgic vcpuId = some irq) :
    vgic.Ready vcpuId irq := by
  unfold vgic2NextPending at found
  split at found
  · cases found
  · rw [Option.map_eq_some_iff] at found
    obtain ⟨word, first, value⟩ := found
    have inside := List.mem_range.mp (List.mem_of_find?_eq_some first)
    have nonzero := List.find?_some first
    simp only [bne_iff_ne, ne_eq] at nonzero
    have set := BitScan.lowest_set nonzero
    have below := BitVec.lt_of_getLsbD set
    have quotient : irq / 32 = word := by omega
    have remainder : irq % 32 = BitScan.lowest (vgic.readyWord vcpuId word) := by omega
    rw [← readyWord_iff vgic vcpuId irq (by omega), quotient, remainder]
    exact set

theorem lr2Value_state (irq source : Nat) : (lr2Value irq source).extractLsb' 28 2 = 1#2 := by
  unfold lr2Value
  apply BitVec.eq_of_getLsbD_eq
  intro k below
  have cases : k = 0 ∨ k = 1 := by omega
  rcases cases with rfl | rfl
  · simp
  · split <;> simp

theorem lr2Vintid_value {irq : Nat} (source : Nat) (small : irq < 1024) :
    lr2Vintid (lr2Value irq source) = irq := by
  have low : (lr2Value irq source).extractLsb' 0 10 = BitVec.ofNat 10 irq := by
    unfold lr2Value
    apply BitVec.eq_of_getLsbD_eq
    intro k below
    have fields : ∀ k < 10, (0x3ff#32).getLsbD k = true ∧
        (1#32 <<< 30 ||| 1#32 <<< 28 ||| 0x14#32 <<< 23).getLsbD k = false := by decide
    have sources : (if irq < 16 then (BitVec.ofNat 32 source &&& 7#32) <<< 10
        else 0#32).getLsbD k = false := by
      split
      · simp [below]
      · simp
    rw [BitVec.getLsbD_extractLsb', BitVec.getLsbD_or, BitVec.getLsbD_or, Nat.zero_add,
      (fields k below).2, sources, BitVec.getLsbD_and, (fields k below).1, BitVec.getLsbD_ofNat,
      BitVec.getLsbD_ofNat]
    simp [below, Nat.lt_trans below (by decide : 10 < 32)]
  unfold lr2Vintid
  rw [low, BitVec.toNat_ofNat, Nat.mod_eq_of_lt small]

theorem lr2Used_value (irq source : Nat) : lr2Used (lr2Value irq source) = true := by
  unfold lr2Used
  rw [lr2Value_state]
  decide

theorem lr2Pending_value (irq source : Nat) : lr2Pending (lr2Value irq source) = true := by
  unfold lr2Pending
  rw [lr2Value_state]
  decide

theorem vgic2SyncEntry_cases (vcpuId : Nat) :
    vgic2SyncEntry x vcpuId = x ∨ ∃ irq slot source,
      vgic2NextPending x.vgic vcpuId = some irq ∧ slot < vgicMaxLrs ∧
        lr2Used ((x.vgic.vcpu vcpuId).lr slot) = false ∧ vgic2SyncEntry x vcpuId =
            { vgic := x.vgic.modify vcpuId fun vcpu => vcpu.setLr slot (lr2Value irq source)
              hw := update x.hw slot (lr2Value irq source) } := by
  unfold vgic2SyncEntry
  split
  · exact .inl rfl
  · rename_i valid
    split
    · exact .inl rfl
    · rename_i irq found
      split
      · exact .inl rfl
      · split
        · exact .inl rfl
        · rename_i slot empty
          have inside := List.mem_range.mp (List.mem_of_find?_eq_some empty)
          have unused := List.find?_some empty
          refine .inr ⟨irq, slot, sgiSource (x.vgic.vcpu vcpuId) irq, found, inside,
            by simpa using unused, ?_⟩
          unfold writeLr2
          rw [if_neg (by simp [valid, Nat.not_le.mpr inside])]

theorem vgic2SyncEntry_writes {x : Lr2View} {irq : Nat} (valid : x.vgic.validVcpu vcpuId = true)
    (found : vgic2NextPending x.vgic vcpuId = some irq)
    (clear : ∀ i < vgicMaxLrs, lr2Used ((x.vgic.vcpu vcpuId).lr i) = false) :
    vgic2SyncEntry x vcpuId = writeLr2 x vcpuId 0
      (lr2Value irq (sgiSource (x.vgic.vcpu vcpuId) irq)) := by
  have absent : lr2HasIrq (x.vgic.vcpu vcpuId) irq = false := by
    unfold lr2HasIrq
    rw [List.any_eq_false]
    intro i inside
    simp [clear i (List.mem_range.mp inside)]
  have first : lr2EmptySlot (x.vgic.vcpu vcpuId) = some 0 := by
    unfold lr2EmptySlot
    rw [show List.range vgicMaxLrs = [0, 1, 2, 3] from rfl,
      List.find?_cons_of_pos (by simp [clear 0 (by decide)])]
  unfold vgic2SyncEntry
  rw [if_neg (by simp [valid]), found]
  simp only [absent, first]
  rfl

/-- A vCPU's registers after its entry on a CPU: an interrupt that is ready has reached the
hardware, and the mirror marks no register used that the hardware has empty. -/
structure Vgic2Host.Injected (h : Vgic2Host) (cpu : Nat) (v : VcpuPtr) : Prop where
  queued : (∃ irq, (h.vgic v.slot).Ready v.id irq) → ∃ i < vgicMaxLrs,
    lr2Pending (h.hw cpu i) = true ∧ (h.vgic v.slot).Ready v.id (lr2Vintid (h.hw cpu i))
  mirrored : ∀ i < vgicMaxLrs, lr2Used (((h.vgic v.slot).vcpu v.id).lr i) = true →
    lr2Used (h.hw cpu i) = true

@[simp] theorem enter_vgic (h : Vgic2Host) (cpu : Nat) (v : VcpuPtr) :
    (h.enter cpu v).vgic v.slot = (vgic2SyncEntry (h.view cpu v.slot) v.id).vgic := by
  simp [Vgic2Host.enter, Vgic2Host.put, Vgic2Host.setGuest]

@[simp] theorem enter_hw (h : Vgic2Host) (cpu : Nat) (v : VcpuPtr) :
    (h.enter cpu v).hw cpu = (vgic2SyncEntry (h.view cpu v.slot) v.id).hw := by
  simp [Vgic2Host.enter, Vgic2Host.put, Vgic2Host.setGuest]

theorem ready_setLr (vgic : Vgic2) (vcpuId slot irq : Nat) (value : BitVec 32) :
    (vgic.modify vcpuId fun vcpu => vcpu.setLr slot value).Ready vcpuId irq ↔
      vgic.Ready vcpuId irq := by
  simp [Vgic2.Ready, Vgic2.modify, Vgic2Vcpu.setLr]

/-- In every state of every run, an entry brings the registers in order exactly when the mirror of
the entering vCPU marks no register used. -/
theorem entry_injects {nrVcpus : Nat → Nat} {actions : List Vgic2Action} {h : Vgic2Host}
    (run : Run (graph Vgic2Host.next) (.boot nrVcpus) actions h) {cpu : Nat}
    {v : VcpuPtr} (outside : h.guest cpu = none) (valid : (h.vgic v.slot).validVcpu v.id = true) :
    (h.next (.enter cpu v)).Injected cpu v ↔
      ∀ i < vgicMaxLrs, lr2Used (((h.vgic v.slot).vcpu v.id).lr i) = false := by
  have settled : h.Settled := by
    apply run.invariant _ (settled_boot nrVcpus)
    intro before action after inv step
    rw [← step]
    exact inv.step action
  have entry : h.next (.enter cpu v) = h.enter cpu v := if_pos ⟨outside, valid⟩
  have empty := settled.idle cpu outside
  rw [entry]
  constructor
  · intro injected i inside
    by_contra used
    rw [Bool.not_eq_false] at used
    have kept := injected.mirrored i inside
    rw [enter_vgic, enter_hw] at kept
    rcases vgic2SyncEntry_cases (h.view cpu v.slot) v.id with
      same | ⟨irq, slot, source, -, -, free, made⟩
    · rw [same] at kept
      have missing := kept used
      rw [show (h.view cpu v.slot).hw i = 0#32 from empty i inside] at missing
      exact absurd missing (by decide)
    · have other : i ≠ slot := by
        rintro rfl
        rw [show (h.view cpu v.slot).vgic = h.vgic v.slot from rfl, used] at free
        cases free
      rw [made] at kept
      simp only [Vgic2.modify, Vgic2Vcpu.setLr, update_self, update_of_ne other] at kept
      have missing := kept used
      rw [show (h.view cpu v.slot).hw i = 0#32 from empty i inside] at missing
      exact absurd missing (by decide)
  · intro clear
    cases found : vgic2NextPending (h.vgic v.slot) v.id with
    | none =>
      have same : vgic2SyncEntry (h.view cpu v.slot) v.id = h.view cpu v.slot := by
        unfold vgic2SyncEntry
        rw [show (h.view cpu v.slot).vgic = h.vgic v.slot from rfl, if_neg (by simp [valid]), found]
      constructor
      · rintro ⟨irq, ready⟩
        rw [enter_vgic, same] at ready
        exact absurd ready (vgic2NextPending_none valid found irq)
      · intro i inside used
        rw [enter_vgic, same] at used
        rw [show (h.view cpu v.slot).vgic = h.vgic v.slot from rfl, clear i inside] at used
        cases used
    | some irq =>
      have ready := vgic2NextPending_some found
      have made := @vgic2SyncEntry_writes v.id (h.view cpu v.slot) irq valid found clear
      unfold writeLr2 at made
      rw [if_neg (by simp [Vgic2Host.view, valid, vgicMaxLrs])] at made
      constructor
      · intro _
        refine ⟨0, by decide, ?_⟩
        rw [enter_vgic, enter_hw, made]
        dsimp only
        rw [update_self, ready_setLr, lr2Vintid_value _ ready.1]
        exact ⟨lr2Pending_value irq _, ready⟩
      · intro i inside used
        rw [enter_vgic, made] at used
        rw [enter_hw, made]
        by_cases first : i = 0
        · subst first
          dsimp only
          exact lr2Used_value irq _
        · simp only [Vgic2.modify, Vgic2Vcpu.setLr, update_self, update_of_ne first] at used
          rw [show (h.view cpu v.slot).vgic = h.vgic v.slot from rfl, clear i inside] at used
          cases used

def raisedConsole : List Vgic2Action :=
  [.gicd ⟨0, 0⟩ 0x104 4 0x2#64, .raise ⟨0, 0⟩ 33]

theorem raisedConsole_injected :
    ((raisedConsole.foldl Vgic2Host.next (.boot fun _ => 1)).next (.enter 0 ⟨0, 0⟩)).Injected 0
      ⟨0, 0⟩ :=
  (entry_injects (run_foldl _ _ _) (by decide +kernel) (by decide +kernel)).mpr
    (by decide +kernel)

def droppedConsole : List Vgic2Action :=
    raisedConsole ++ [.enter 0 ⟨0, 0⟩, .exit 0, .enter 0 ⟨0, 0⟩]

/-- The interrupt is still ready, but no list register holds it, while the mirror says that one
does. -/
theorem droppedConsole_lost :
    Run (graph Vgic2Host.next) (.boot fun _ => 1) droppedConsole
        (droppedConsole.foldl Vgic2Host.next (.boot fun _ => 1)) ∧
      ((droppedConsole.foldl Vgic2Host.next (.boot fun _ => 1)).vgic 0).Ready 0 33 ∧
      ¬ (droppedConsole.foldl Vgic2Host.next (.boot fun _ => 1)).Injected 0 ⟨0, 0⟩ := by
  refine ⟨run_foldl _ _ _, ?_, ?_⟩
  · refine ⟨by decide, by decide +kernel, ?_, by decide +kernel⟩
    exact .inr (.inr ⟨by decide, by decide +kernel⟩)
  · intro injected
    have empty : ∀ i < vgicMaxLrs,
        lr2Used ((droppedConsole.foldl Vgic2Host.next (.boot fun _ => 1)).hw 0 i) = false := by
      decide +kernel
    have mirrored := injected.mirrored 0 (by decide) (by decide +kernel)
    cases mirrored

end AvatarKernel
