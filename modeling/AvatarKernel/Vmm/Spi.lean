import AvatarKernel.Types
import AvatarKernel.Vmm.Vgic2Injection
import AvatarKernel.Vmm.VgicSyncLine

namespace AvatarKernel

open Transition
open Function (update update_of_ne update_self)

/-! One shared peripheral interrupt over all vCPUs of a guest, in `vgic.c` and in `vgicv3.c`: its
bits in `spi_pending` and `spi_active`, which both files keep for each vCPU, and its list
register. -/

inductive GicVersion where
  | v2
  | v3
  deriving DecidableEq

structure SpiVcpu where
  pending : Bool
  active : Bool
  lr : LineReg
  inGuest : Bool
  deriving DecidableEq

def SpiVcpu.carries (x : SpiVcpu) : Prop := x.pending = true ∨ x.lr = .pending

/-- The interrupt with its bit in `enabled`, its byte in `targets`, and the line of its device. The
last four fields are history of the last assertion: for whom it is pending, who has acknowledged it,
whether `GICD_ICPENDR` was written since, and whether on vGICv2 one that is no target has
acknowledged it. -/
structure SpiHost (nr : Nat) where
  gic : GicVersion
  targets : BitVec 8
  enabled : Bool
  level : Bool
  vcpu : Fin nr → SpiVcpu
  offered : Fin nr → Bool
  acked : Fin nr → Bool
  stray : Bool
  cleared : Bool

variable {nr : Nat}

namespace SpiHost

def init (gic : GicVersion) : SpiHost nr where
  gic := gic
  targets := 0#8
  enabled := false
  level := false
  vcpu := fun _ => ⟨false, false, .absent, false⟩
  offered := fun _ => false
  acked := fun _ => false
  stray := false
  cleared := false

def setVcpu (s : SpiHost nr) (v : Fin nr) (x : SpiVcpu) : SpiHost nr :=
  { s with vcpu := update s.vcpu v x }

def assert (s : SpiHost nr) : SpiHost nr :=
  { s with offered := fun _ => false, acked := fun _ => false, cleared := false }

/-- `vmm_vgic_set_pending` and `vmm_vgic3_set_pending` -/
def setPending (s : SpiHost nr) (v : Fin nr) : SpiHost nr :=
  { s.setVcpu v { s.vcpu v with pending := true } with offered := update s.offered v true }

def ispendrVcpus (s : SpiHost nr) (v : Fin nr) : List (Fin nr) :=
  match s.gic with
  | .v2 =>
    (List.finRange nr).filter fun u => if s.targets = 0#8 then u.val == 0 else s.targets.getLsbD u
  | .v3 => [v]

/-- `vmm_vgic_sync_entry` and `vmm_vgic3_sync_entry`. `room` says that the scan comes to this
interrupt and finds a free register and none that has it already; only vGICv3 puts an active one
back. -/
def syncEntry (s : SpiHost nr) (x : SpiVcpu) (room : Bool) : SpiVcpu :=
  let x := if s.gic = .v3 ∧ x.active = true ∧ x.lr = .absent ∧ room = true
    then { x with lr := .active } else x
  let x := if x.pending = true ∧ s.enabled = true ∧ x.active = false ∧ x.lr = .absent ∧ room = true
    then { x with lr := .pending } else x
  { x with inGuest := true }

/-- `vmm_vgic_sync_exit`, which clears the registers, and `vmm_vgic3_sync_exit`; `ended` says that a
register that had the interrupt is found empty. -/
def syncExit (s : SpiHost nr) (x : SpiVcpu) (ended : Bool) : SpiVcpu :=
  match s.gic with
  | .v2 => { x with lr := .absent, inGuest := false }
  | .v3 =>
    if x.lr = .active then { x with pending := false, active := true, inGuest := false }
    else { x with active := x.active && !(ended && x.lr == .absent), inGuest := false }

def ack (s : SpiHost nr) (v : Fin nr) : SpiHost nr :=
  { s with
    acked := update s.acked v (s.acked v || s.offered v)
    offered := update s.offered v false
    stray := s.stray || (s.gic == .v2 && !s.targets.getLsbD v) }

end SpiHost

/-- `line` is the level of the device, `ispendr` and `icpendr` are writes by a vCPU, `take` is an
acknowledgement through the list register and `iar` a trapped read of `GICC_IAR`, `evict` is the
part of `vmm_vgic3_lr_switch_in` for the vCPU that loses the registers, and `deactivate` stands for
`GICC_EOIR`, `GICC_DIR`, `ICC_DIR_EL1` and `GICD_ICACTIVER`. -/
inductive SpiAction (nr : Nat) where
  | line (up : Bool)
  | ispendr (v : Fin nr)
  | icpendr (v : Fin nr)
  | enable (on : Bool)
  | target (mask : BitVec 8)
  | enter (v : Fin nr) (room : Bool)
  | take (v : Fin nr)
  | iar (v : Fin nr)
  | endOfInterrupt (v : Fin nr)
  | deactivate (v : Fin nr)
  | exit (v : Fin nr) (ended : Bool)
  | evict (v : Fin nr) (ended : Bool)

def SpiHost.next (s : SpiHost nr) : SpiAction nr → SpiHost nr
  | .line up => { (if up && !s.level then s.assert else s) with level := up }
  | .ispendr v => (s.ispendrVcpus v).foldl SpiHost.setPending s.assert
  | .icpendr v => { s.setVcpu v { s.vcpu v with pending := false } with cleared := true }
  | .enable on => { s with enabled := on }
  | .target mask => { s with targets := mask }
  | .enter v room =>
    if (s.vcpu v).inGuest then s
    else
      -- `aarch64_check_vpl011_rx` and `aarch64_check_vnpu` raise what is up for the vCPU that
      -- enters.
      let s := if s.level then s.setPending v else s
      s.setVcpu v (s.syncEntry (s.vcpu v) room)
  | .take v =>
    if (s.vcpu v).inGuest = true ∧ (s.vcpu v).lr = .pending then
      (s.setVcpu v { s.vcpu v with lr := .active }).ack v
    else s
  | .iar v =>
    if s.gic = .v2 ∧ (s.vcpu v).inGuest = false ∧ (s.vcpu v).pending = true ∧ s.enabled = true ∧
        (s.vcpu v).active = false then
      (s.setVcpu v ⟨false, true, .absent, false⟩).ack v
    else s
  | .endOfInterrupt v =>
    if (s.vcpu v).inGuest = true ∧ (s.vcpu v).lr = .active then
      s.setVcpu v { s.vcpu v with lr := .absent }
    else s
  | .deactivate v =>
    if (s.vcpu v).inGuest then s
    else
      s.setVcpu v
        { s.vcpu v with
          active := false, lr := if (s.vcpu v).lr = .active then .absent else (s.vcpu v).lr }
  | .exit v ended =>
    if (s.vcpu v).inGuest then s.setVcpu v (s.syncExit (s.vcpu v) ended) else s
  | .evict v ended =>
    if (s.vcpu v).inGuest then s
    else s.setVcpu v { s.syncExit (s.vcpu v) ended with lr := .absent }

/-! ### The interrupt in the two vGICs

The interrupt of a line of `vgicv3.c`, and of a vCPU of `vgic.c` with the registers of its CPU, goes
through `sync_entry` and `sync_exit` as above. -/

section Projection

variable {s : SpiHost nr} {n irq : Nat}

def Line.spi (l : Line) : SpiVcpu := ⟨l.pend, l.act, l.reg, l.inGuest⟩

namespace SpiHost

variable {x : SpiVcpu}

theorem syncEntry_full : s.syncEntry x false = { x with inGuest := true } := by
  simp [syncEntry]

theorem syncEntry_restored (v3 : s.gic = .v3) (active : x.active = true) (absent : x.lr = .absent) :
    s.syncEntry x true = { x with lr := .active, inGuest := true } := by
  simp [syncEntry, v3, active, absent]

theorem syncEntry_injected (pending : x.pending = true) (enabled : s.enabled = true)
    (inactive : x.active = false) (absent : x.lr = .absent) :
    s.syncEntry x true = { x with lr := .pending, inGuest := true } := by
  simp [syncEntry, pending, enabled, inactive, absent]

theorem syncEntry_absent {room : Bool} (absent : (s.syncEntry x room).lr = .absent) :
    s.syncEntry x room = { x with inGuest := true } := by
  simp only [syncEntry] at absent ⊢
  by_cases restored : s.gic = .v3 ∧ x.active = true ∧ x.lr = .absent ∧ room = true
  · simp [restored] at absent
  · rw [if_neg restored] at absent ⊢
    split at absent
    · cases absent
    · rename_i quiet
      rw [if_neg quiet]

end SpiHost

theorem vgic3Enabled_shared {vgic : Vgic3} (shared : 32 ≤ irq) (left right : Vgic3Vcpu) :
    vgic3Enabled vgic left irq = vgic3Enabled vgic right irq := by
  have word : irq / 32 ≠ 0 := by omega
  unfold vgic3Enabled vgic3EnabledWord
  rw [if_neg word, if_neg word]

section V3

variable {vgic : Vgic3} {x : LrView} (v3 : s.gic = .v3) (shared : 32 ≤ irq)

include v3 shared

/-- `vmm_vgic3_sync_entry` on a shared interrupt, whatever it does to the others. -/
theorem entry_spi (enabled : s.enabled = vgic3Enabled vgic x.vcpu irq)
    (mirrored : Mirrored n (reclaimLrs n x)) (who : VcpuName) (l : Line) :
    ∃ room, ((vgic3SyncEntry n vgic who x).line n irq { l with inGuest := true }).spi =
      s.syncEntry (x.line n irq l).spi room := by
  -- Each write of a register is the whole entry of one interrupt; those before it did not touch it.
  refine (vgic3SyncEntry_invariant (P := fun y => Mirrored n y ∧ ∃ room,
    (y.line n irq { l with inGuest := true }).spi = s.syncEntry (x.line n irq l).spi room)
      ?_ ⟨mirrored, false, ?_⟩).2
  · rintro y z ⟨before, room, seen⟩ queued
    refine ⟨before.queues queued, ?_⟩
    rcases queues_cases before queued irq { l with inGuest := true } with same | ⟨absent, written⟩
    · exact ⟨room, by rw [same, seen]⟩
    · have untouched := seen.trans
        (SpiHost.syncEntry_absent ((congrArg SpiVcpu.lr seen).symm.trans absent))
      have pend : y.vcpu.pending.has irq = (x.line n irq l).spi.pending :=
        congrArg SpiVcpu.pending untouched
      have act : y.vcpu.active.has irq = (x.line n irq l).spi.active :=
        congrArg SpiVcpu.active untouched
      have reg : (x.line n irq l).spi.lr = .absent :=
        (congrArg SpiVcpu.lr untouched).symm.trans absent
      refine ⟨true, ?_⟩
      rcases written with ⟨active, restored⟩ | ⟨pending, on, inactive, injected⟩
      · rw [SpiHost.syncEntry_restored v3 (act.symm.trans active) reg, restored]
        exact congrArg (fun a : SpiVcpu => { a with lr := .active }) untouched
      · have level : isLevel irq = y.vcpu.pending.has irq := by
          rw [pending, isLevel, decide_eq_true (by omega)]
        rw [vgic3Enabled_shared shared _ x.vcpu, ← enabled] at on
        rw [SpiHost.syncEntry_injected (pend.symm.trans pending) on (act.symm.trans inactive) reg,
          injected, level]
        exact congrArg (fun a : SpiVcpu => { a with lr := .pending }) untouched
  · rw [SpiHost.syncEntry_full]
    rfl

theorem exit_spi (mirrored : Mirrored n x) (l : Line) :
    ∃ ended, ((vgic3SyncExit n x).line n irq { l with inGuest := false }).spi =
      s.syncExit (x.line n irq l).spi ended := by
  have bits := exit_bits mirrored irq
  have level : isLevel irq = true := decide_eq_true (by omega)
  have registers : (vgic3SyncExit n x).iface = x.iface := rfl
  unfold SpiHost.syncExit Line.spi LrView.line
  rw [v3, registers]
  cases reg : x.iface.reg n irq with
  | active =>
    refine ⟨false, ?_⟩
    rw [(bits.1 reg).1, (bits.1 reg).2, level, Bool.not_true, Bool.and_false]
    rfl
  | pending =>
    refine ⟨false, ?_⟩
    rw [(bits.2.1 reg).1, (bits.2.1 reg).2]
    simp
  | absent =>
    rw [(bits.2.2 reg).1]
    rcases (bits.2.2 reg).2 with same | cleared
    · exact ⟨false, by rw [same]; simp⟩
    · exact ⟨true, by rw [cleared]; simp⟩

theorem evict_spi (mirrored : Mirrored n x) (who : VcpuName) (l : Line) :
    ∃ ended, ((evacuateLrs n who x).line n irq { l with inGuest := false }).spi =
      { s.syncExit (x.line n irq l).spi ended with lr := .absent } := by
  obtain ⟨ended, left⟩ := exit_spi v3 shared mirrored l
  have pending : (evacuateLrs n who x).vcpu.pending.has irq =
      (vgic3SyncExit n x).vcpu.pending.has irq := returnSgi_level _ _ (by omega)
  refine ⟨ended, ?_⟩
  rw [← left]
  unfold Line.spi LrView.line
  rw [evacuate_reg, evacuate_active, pending]

end V3

section V2

variable {x : Lr2View} {vcpuId : Nat}

/-- The interrupt in the registers of a CPU. -/
def reg2 (hw : Nat → BitVec 32) (irq : Nat) : LineReg :=
  if ∃ i < vgicMaxLrs, lr2Vintid (hw i) = irq ∧ lr2Pending (hw i) = true then .pending
  else if ∃ i < vgicMaxLrs, lr2Vintid (hw i) = irq ∧ lr2Used (hw i) = true then .active
  else .absent

def Lr2View.spi (x : Lr2View) (vcpuId irq : Nat) (inGuest : Bool) : SpiVcpu where
  pending := (x.vgic.vcpu vcpuId).pending.has irq
  active := (x.vgic.vcpu vcpuId).active.has irq
  lr := reg2 x.hw irq
  inGuest := inGuest

variable {hw : Nat → BitVec 32}

theorem reg2_absent (empty : ∀ i < vgicMaxLrs, lr2Vintid (hw i) = irq → hw i = 0#32) :
    reg2 hw irq = .absent := by
  rw [reg2, if_neg, if_neg] <;>
  · rintro ⟨i, below, same, state⟩
    rw [empty i below same] at state
    exact absurd state (by decide)

theorem reg2_queued {slot next : Nat} (idle : ∀ i < vgicMaxLrs, hw i = 0#32)
    (inside : slot < vgicMaxLrs) (small : next < 1024) (source : Nat) :
    reg2 (update hw slot (lr2Value next source)) irq =
      if irq = next then .pending else .absent := by
  split
  · rename_i same
    refine if_pos ⟨slot, inside, ?_⟩
    rw [update_self, same]
    exact ⟨lr2Vintid_value source small, lr2Pending_value next source⟩
  · rename_i different
    refine reg2_absent fun i below same => ?_
    by_cases here : i = slot
    · rw [here, update_self, lr2Vintid_value source small] at same
      exact absurd same.symm different
    · rw [update_of_ne here, idle i below]

/-- `vmm_vgic_sync_entry` on a CPU whose registers are empty, as they are outside the guest. -/
theorem entry2_spi (shared : 32 ≤ irq) (enabled : s.enabled = x.vgic.enabled.has irq)
    (idle : ∀ i < vgicMaxLrs, x.hw i = 0#32) :
    ∃ room, (vgic2SyncEntry x vcpuId).spi vcpuId irq true =
      s.syncEntry (x.spi vcpuId irq false) room := by
  have absent : reg2 x.hw irq = .absent := reg2_absent fun i below _ => idle i below
  rcases vgic2SyncEntry_cases x vcpuId with same | ⟨next, slot, source, found, inside, _, made⟩
  · refine ⟨false, ?_⟩
    rw [same, SpiHost.syncEntry_full]
    rfl
  · have ready := vgic2NextPending_some found
    have queued : (vgic2SyncEntry x vcpuId).spi vcpuId irq true =
        { x.spi vcpuId irq true with lr := if irq = next then .pending else .absent } := by
      unfold Lr2View.spi Vgic2.modify Vgic2Vcpu.setLr at *
      rw [made, ← reg2_queued idle inside ready.1 source]
      dsimp only
      rw [update_self]
    rw [queued]
    by_cases here : irq = next
    · subst here
      have on : s.enabled = true := by
        rw [enabled]
        obtain ⟨_, _, sgi | private_ | ⟨_, on⟩, _⟩ := ready
        · omega
        · omega
        · exact on
      refine ⟨true, ?_⟩
      rw [SpiHost.syncEntry_injected ready.2.1 on ready.2.2.2 absent, if_pos rfl]
      rfl
    · refine ⟨false, ?_⟩
      rw [SpiHost.syncEntry_full, if_neg here, ← absent]
      rfl

theorem exit2_spi (v2 : s.gic = .v2) (valid : x.vgic.validVcpu vcpuId = true) (ended : Bool) :
    (vgic2SyncExit x vcpuId).spi vcpuId irq false = s.syncExit (x.spi vcpuId irq true) ended := by
  have empty : reg2 (vgic2SyncExit x vcpuId).hw irq = .absent :=
    reg2_absent fun i inside _ => (vgic2SyncExit_spec valid).2 i inside
  unfold Lr2View.spi SpiHost.syncExit
  rw [empty, v2]
  unfold vgic2SyncExit saveLr2 Vgic2.modify
  rw [if_pos valid, if_neg (by simp [valid])]
  dsimp only
  rw [update_self]

end V2

end Projection

/-- What is to hold of an interrupt: one vCPU at most acknowledges the last assertion, on vGICv2 a
target, and after `GICD_ICPENDR` nobody has it pending. -/
structure SpiHost.Once (s : SpiHost nr) : Prop where
  once : ∀ u w, s.acked u = true → s.acked w = true → u = w
  target : s.stray = false
  clear : s.cleared = true → ∀ u, ¬ (s.vcpu u).carries

def SpiHost.touched (s : SpiHost nr) (u : Fin nr) : Prop := s.offered u = true ∨ s.acked u = true

/-- The condition on a step: while the line is up only one vCPU enters, and a write of
`GICD_ISPENDR` reaches only one, on vGICv2 a target; `GICD_ICPENDR` is written while the line is
down and only the writer has the interrupt pending, in software; the targets change while nobody has
it pending. -/
def SpiHost.onceGuard (s : SpiHost nr) : SpiAction nr → Prop
  | .enter v _ => s.level = true →
      (s.gic = .v2 → s.targets.getLsbD v = true) ∧ ∀ u, u ≠ v → s.offered u = false ∧
        s.acked u = false
  | .ispendr v => (s.ispendrVcpus v).length ≤ 1 ∧ (s.gic = .v2 → s.targets ≠ 0#8)
  | .icpendr v => s.level = false ∧ (s.vcpu v).lr ≠ .pending ∧
      ∀ u, u ≠ v → (s.vcpu u).pending = false ∧ (s.vcpu u).lr ≠ .pending
  | .target _ => ∀ u, (s.vcpu u).pending = false ∧ (s.vcpu u).lr ≠ .pending
  | _ => True

structure SpiHost.Single (s : SpiHost nr) : Prop where
  one : ∀ u w, s.touched u → s.touched w → u = w
  allowed : s.gic = .v2 → ∀ u, (s.vcpu u).carries → s.targets.getLsbD u = true
  target : s.stray = false
  quiet : s.cleared = true → s.level = false ∧ ∀ u, ¬ (s.vcpu u).carries

section Steps

variable {s : SpiHost nr} (inv : s.Single)

include inv

variable {v : Fin nr} {x : SpiVcpu}

namespace SpiHost

theorem Single.setVcpu (had : x.carries → (s.vcpu v).carries) : (s.setVcpu v x).Single := by
  have had' : ∀ u, ((s.setVcpu v x).vcpu u).carries → (s.vcpu u).carries := by
    intro u carries
    by_cases here : u = v
    · subst here
      exact had (by simpa [SpiHost.setVcpu] using carries)
    · simpa [SpiHost.setVcpu, here] using carries
  constructor
  · exact inv.one
  · exact fun old u carries => inv.allowed old u (had' u carries)
  · exact inv.target
  · exact fun clear =>
      ⟨(inv.quiet clear).1, fun u carries => (inv.quiet clear).2 u (had' u carries)⟩

theorem Single.assert : s.assert.Single := by
  constructor
  · simp [touched, SpiHost.assert]
  · exact inv.allowed
  · exact inv.target
  · simp [SpiHost.assert]

theorem Single.setPending (other : ∀ u, u ≠ v → ¬ s.touched u)
    (allowed : s.gic = .v2 → s.targets.getLsbD v = true) (open_ : s.cleared = false) :
    (s.setPending v).Single := by
  constructor
  · have mine : ∀ u, (s.setPending v).touched u → u = v := by
      intro u touched
      by_contra elsewhere
      exact other u elsewhere (by simpa [SpiHost.touched, SpiHost.setPending, SpiHost.setVcpu,
        elsewhere] using touched)
    exact fun u w first second => (mine u first).trans (mine w second).symm
  · intro old u carries
    by_cases here : u = v
    · rw [here]
      exact allowed old
    · exact inv.allowed old u (by simpa [SpiHost.setPending, SpiHost.setVcpu, here] using carries)
  · exact inv.target
  · intro clear
    rw [show s.cleared = true from clear] at open_
    cases open_

theorem Single.ack (allowed : s.gic = .v2 → s.targets.getLsbD v = true) :
    (s.ack v).Single := by
  constructor
  · have kept : ∀ u, (s.ack v).touched u → s.touched u := by
      intro u touched
      by_cases here : u = v
      · subst here
        simpa [SpiHost.touched, SpiHost.ack, or_comm] using touched
      · simpa [SpiHost.touched, SpiHost.ack, here] using touched
    exact fun u w first second => inv.one u w (kept u first) (kept w second)
  · exact inv.allowed
  · cases gic : s.gic with
    | v2 => simp [SpiHost.ack, inv.target, gic, allowed gic]
    | v3 => simp [SpiHost.ack, inv.target, gic]
  · exact inv.quiet

theorem Single.acks (carries : (s.vcpu v).carries) : ((s.setVcpu v x).ack v).Single :=
  (inv.setVcpu fun _ => carries).ack fun old => inv.allowed old v carries

end SpiHost

omit inv in
theorem syncEntry_carries (carries : (s.syncEntry x room).carries) : x.carries := by
  simp only [SpiHost.syncEntry, SpiVcpu.carries] at carries ⊢
  grind

omit inv in
theorem syncExit_carries (carries : (s.syncExit x ended).carries) : x.carries := by
  simp only [SpiHost.syncExit, SpiVcpu.carries] at carries ⊢
  grind

namespace SpiHost

theorem Single.ispendr (guard : s.onceGuard (.ispendr v)) :
    (s.next (.ispendr v)).Single := by
  have allowed : ∀ u ∈ s.ispendrVcpus v, s.gic = .v2 → s.targets.getLsbD u = true := by
    intro u target old
    simpa [ispendrVcpus, old, guard.2 old] using target
  show ((s.ispendrVcpus v).foldl SpiHost.setPending s.assert).Single
  have short := guard.1
  cases reached : s.ispendrVcpus v with
  | nil => exact inv.assert
  | cons u rest =>
    have last : rest = [] := by simpa [reached] using short
    rw [last]
    apply inv.assert.setPending
    · simp [touched, SpiHost.assert]
    · exact allowed u (by simp [reached])
    · rfl

theorem Single.enter (guard : s.onceGuard (.enter v room)) : (s.next (.enter v room)).Single := by
  simp only [next]
  split
  · exact inv
  · by_cases up : s.level = true
    · obtain ⟨allowed, others⟩ := guard up
      have raised : (s.setPending v).Single := by
        apply inv.setPending _ allowed
        · cases clear : s.cleared with
          | false => rfl
          | true => exact absurd ((inv.quiet clear).1.symm.trans up) Bool.false_ne_true
        · intro u elsewhere
          simp [touched, others u elsewhere]
      rw [if_pos up]
      exact raised.setVcpu syncEntry_carries
    · rw [if_neg up]
      exact inv.setVcpu syncEntry_carries

theorem Single.icpendr (guard : s.onceGuard (.icpendr v)) :
    (s.next (.icpendr v)).Single := by
  obtain ⟨down, register, others⟩ := guard
  have less : ({ s.vcpu v with pending := false } : SpiVcpu).carries → (s.vcpu v).carries := by
    simp [SpiVcpu.carries, register]
  refine { inv.setVcpu less with quiet := fun _ => ⟨down, fun u => ?_⟩ }
  by_cases here : u = v
  · subst here
    simp [next, SpiHost.setVcpu, SpiVcpu.carries, register]
  · simp [next, SpiHost.setVcpu, here, SpiVcpu.carries, others u here]

theorem Single.step (guard : s.onceGuard action) : (s.next action).Single := by
  cases action with
  | line up =>
    cases up with
    | false => exact { inv with quiet := fun clear => ⟨rfl, (inv.quiet clear).2⟩ }
    | true =>
      cases level : s.level with
      | true =>
        have same : s.next (.line true) = s := by
          cases s
          simp_all [next]
        rw [same]
        exact inv
      | false =>
        simp only [next, level, Bool.not_false, Bool.and_self, if_true]
        exact { inv.assert with quiet := by simp [SpiHost.assert] }
  | ispendr => exact inv.ispendr guard
  | icpendr => exact inv.icpendr guard
  | enable => exact ⟨inv.one, inv.allowed, inv.target, inv.quiet⟩
  | target =>
    refine ⟨inv.one, fun _ u carries => ?_, inv.target, inv.quiet⟩
    change (s.vcpu u).carries at carries
    rcases carries with pending | pending
    · rw [(guard u).1] at pending
      cases pending
    · exact absurd pending (guard u).2
  | enter => exact inv.enter guard
  | take =>
    simp only [next]
    split
    · rename_i takes
      exact inv.acks (.inr takes.2)
    · exact inv
  | iar =>
    simp only [next]
    split
    · rename_i takes
      exact inv.acks (.inl takes.2.2.1)
    · exact inv
  | endOfInterrupt =>
    simp only [next]
    split
    · apply inv.setVcpu
      simp [SpiVcpu.carries]
      exact .inl
    · exact inv
  | deactivate =>
    simp only [next]
    split
    · exact inv
    · apply inv.setVcpu
      unfold SpiVcpu.carries
      split <;> simp_all
  | exit =>
    simp only [next]
    split
    · exact inv.setVcpu syncExit_carries
    · exact inv
  | evict _ ended =>
    simp only [next]
    split
    · exact inv
    · apply inv.setVcpu
      intro carries
      apply @syncExit_carries _ s _ ended
      rcases carries with pending | pending
      · exact .inl pending
      · cases pending

end SpiHost

end Steps

/-- As long as each assertion is offered to one vCPU only, that vCPU alone acknowledges it, and
`GICD_ICPENDR` takes it back from everybody. -/
theorem spi_once {gic : GicVersion} {actions : List (SpiAction nr)} {s : SpiHost nr}
    (run : Run (Guarded (graph SpiHost.next) SpiHost.onceGuard)
      (.init gic) actions s) : s.Once := by
  have single : s.Single := by
    refine run.guarded (fun _ _ inv guard => inv.step guard) ?_
    constructor <;> simp [SpiHost.init, SpiHost.touched, SpiVcpu.carries]
  exact ⟨fun u w first second => single.one u w (.inr first) (.inr second), single.target,
    fun clear => (single.quiet clear).2⟩

instance SpiHost.onceGuardDecidable (s : SpiHost nr) :
    (action : SpiAction nr) → Decidable (s.onceGuard action)
  | .enter _ _ => inferInstanceAs (Decidable (_ → _ ∧ ∀ _, _))
  | .ispendr _ => inferInstanceAs (Decidable (_ ∧ _))
  | .icpendr _ => inferInstanceAs (Decidable (_ ∧ _ ∧ ∀ _, _))
  | .target _ => inferInstanceAs (Decidable (∀ _, _ ∧ _))
  | .line _ | .enable _ | .take _ | .iar _ | .endOfInterrupt _ | .deactivate _ | .exit _ _
  | .evict _ _ => inferInstanceAs (Decidable True)

open scoped Numerals

def oneTaker : List (SpiAction 2) := [.enable true, .line true, .enter 0 true, .take 0, .line false]

theorem oneTaker_once :
    (oneTaker.foldl SpiHost.next (.init .v3)).Once ∧
      (oneTaker.foldl SpiHost.next (.init .v3)).acked 0 = true :=
  ⟨spi_once (run_of_passes (fun _ _ => of_decide_eq_true) (by decide +kernel)),
    by decide +kernel⟩

def twoTakers : List (SpiAction 2) :=
  [.enable true, .line true, .enter 0 true, .enter 1 true, .take 0, .take 1]

theorem twoTakers_twice :
    Run (graph SpiHost.next) (.init .v3) twoTakers
        (twoTakers.foldl SpiHost.next (.init .v3)) ∧
      ¬ (twoTakers.foldl SpiHost.next (.init .v3)).Once := by
  apply And.intro (run_foldl _ _ _)
  intro once
  have same := once.once 0 1 (by decide +kernel) (by decide +kernel)
  revert same
  decide

end AvatarKernel
