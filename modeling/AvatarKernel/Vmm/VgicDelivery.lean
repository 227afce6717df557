import AvatarKernel.Vmm.VgicLines

namespace AvatarKernel

open Function (update update_of_ne update_self)
open Transition

structure Delivers (n : Nat) (d : IrqDelivery) : Prop where
  registers : Registers n d.vmm
  settled : AllSettled n d.vmm
  fresh : FreshSlots d.vmm
  good : ∀ v irq, (d.line n v irq).Good (isLevel irq)

theorem vgic3SetEnabled_bits (vgic : Vgic3) (vcpuId irq : Nat) (on : Bool) (id : Nat) :
    ((vgic3SetEnabled vgic vcpuId irq on).vcpu id).pending = (vgic.vcpu id).pending ∧
      ((vgic3SetEnabled vgic vcpuId irq on).vcpu id).active = (vgic.vcpu id).active := by
  unfold vgic3SetEnabled
  split
  · exact ⟨rfl, rfl⟩
  · split
    · split
      · exact ⟨rfl, rfl⟩
      · unfold Vgic3.modify
        dsimp only
        by_cases same : id = vcpuId
        · rw [same, update_self]
          exact ⟨rfl, rfl⟩
        · rw [update_of_ne same]
          exact ⟨rfl, rfl⟩
    · exact ⟨rfl, rfl⟩

variable {n : Nat}

variable {s : VmmState}

theorem SameLine.of_bits
    (bits : (t.vcpu w).pending = (s.vcpu w).pending ∧ (t.vcpu w).active = (s.vcpu w).active)
    (reg : ∀ irq, t.reg n w irq = s.reg n w irq) (inGuest : t.inGuest w = s.inGuest w) :
    SameLine n s t w :=
  ⟨fun _ => by rw [bits.1], fun _ => by rw [bits.2], reg, inGuest⟩

theorem enable_sameLine (s : VmmState) (v : VcpuPtr) (irq : Nat) (on : Bool) (w : VcpuPtr) :
    SameLine n s (s.setVgic v.slot (vgic3SetEnabled (s.vgic v.slot) v.id irq on)) w := by
  refine .of_bits ?_ (fun _ => rfl) rfl
  rw [setVgic_vcpu]
  split
  · rename_i slot
    rw [VmmState.vcpu, slot]
    exact vgic3SetEnabled_bits _ _ _ _ _
  · exact ⟨rfl, rfl⟩

theorem create_sameLine (fresh : FreshSlots s) (slot nrVcpus : Nat) (w : VcpuPtr) :
    SameLine n s (vmCreate s slot nrVcpus) w := by
  unfold vmCreate
  split
  · exact ⟨fun _ => rfl, fun _ => rfl, fun _ => rfl, rfl⟩
  · rename_i free
    have unused : s.used slot = false := by
      rw [← Bool.not_eq_true]
      exact fun used => free (.inr used)
    refine .of_bits ?_ (fun _ => rfl) rfl
    unfold VmmState.vcpu
    dsimp only
    by_cases same : w.slot = slot
    · rw [same, update_self, (fresh slot unused).2]
      exact ⟨rfl, rfl⟩
    · rw [update_of_ne same]
      exact ⟨rfl, rfl⟩

theorem start_sameLine (registers : Registers n s) (home : s.home v = none) (cpu : Nat)
    (w : VcpuPtr) : SameLine n s { s with home := update s.home v (some cpu) } w where
  pending := fun _ => rfl
  active := fun _ => rfl
  reg := by
    intro irq
    unfold VmmState.reg
    dsimp only
    by_cases same : w = v
    · rw [same, update_self, home]
      apply if_neg
      intro owner
      exact Option.some_ne_none cpu ((registers.lives cpu v owner).symm.trans home)
    · rw [update_of_ne same]
  inGuest := by
    unfold VmmState.inGuest
    dsimp only
    by_cases same : w = v
    · rw [same, update_self, home]
      apply decide_eq_false
      intro guest
      exact Option.some_ne_none cpu
        ((registers.lives cpu v (registers.guest cpu v guest)).symm.trans home)
    · rw [update_of_ne same]

theorem Settled.congr {x y : LrView} (settled : Settled n x) (lr : y.vcpu.lr = x.vcpu.lr)
    (hw : y.iface.lr = x.iface.lr) : Settled n y := by
  unfold Settled
  rw [lr, hw]
  exact settled

section

variable (settled : AllSettled n s) (registers : Registers n s)

include settled registers

theorem AllSettled.enter (v : VcpuPtr) :
    AllSettled n (enterGuest n s v) := by
  rcases enterGuest_cases n s v with same | ⟨cpu, t, home, _, _, taken, entered⟩
  · rw [same]
    exact settled
  · have handed := lrHandOver_handedOver registers home taken
    rw [entered]
    intro c w owner outside
    have owner : t.owner c = some w := owner
    have outside : update t.guest cpu (some v) c ≠ some w := outside
    rw [handed.owner] at owner
    rcases update_value owner with ⟨rfl, ⟨⟩⟩ | ⟨here, owner⟩
    · exact absurd (update_self c _ _) outside
    · rw [update_of_ne here, handed.guest] at outside
      have at_home := registers.lives c w owner
      have different : w ≠ v := by
        intro same
        rw [same, home] at at_home
        exact here (Option.some.inj at_home).symm
      apply (settled c w owner outside).congr
      · show ((t.put cpu v _).vcpu w).lr = (s.vcpu w).lr
        rw [put_vcpu_of_ne t cpu _ different, handed.vcpus c w here at_home]
      · show ((t.put cpu v _).iface c).lr = (s.iface c).lr
        rw [put_iface_of_ne t v _ here, handed.ifaces c here]

theorem AllSettled.exit (cpu : Nat) :
    AllSettled n (exitGuest n s cpu) := by
  unfold exitGuest
  cases guest : s.guest cpu with
  | none => exact settled
  | some v =>
    have mine := registers.guest cpu v guest
    intro c w owner outside
    have outside : update s.guest cpu none c ≠ some w := outside
    by_cases here : c = cpu
    · subst here
      cases Option.some.inj (mine.symm.trans owner)
      apply (registers.mirrored c v mine).settled_exit.congr
      · exact congrArg Vgic3Vcpu.lr (put_vcpu_self s c v _)
      · exact congrArg Iface.lr (put_iface_self s c v _)
    · rw [update_of_ne here] at outside
      have different : w ≠ v := by
        intro same
        have at_home := registers.lives c w owner
        rw [same, registers.lives cpu v mine] at at_home
        exact here (Option.some.inj at_home).symm
      apply (settled c w owner outside).congr
      · exact congrArg Vgic3Vcpu.lr (put_vcpu_of_ne s cpu _ different)
      · exact congrArg Iface.lr (put_iface_of_ne s v _ here)

theorem AllSettled.guest (running : (s.guest cpu).isSome = true) (iface : Iface) :
    AllSettled n (s.setIface cpu iface) := by
  obtain ⟨v, guest⟩ := Option.isSome_iff_exists.mp running
  intro c w owner outside
  by_cases here : c = cpu
  · subst here
    have mine := registers.guest c v guest
    cases Option.some.inj (mine.symm.trans owner)
    exact absurd guest outside
  · refine (settled c w owner outside).congr rfl ?_
    exact congrArg Iface.lr (update_of_ne here _ _)

end

theorem Settled.clear {x y : LrView} (settled : Settled n x) {who : VcpuName} {i : Nat}
    (lr : y.vcpu.lr = update x.vcpu.lr i 0#64) (hw : y.iface = writeLr x.iface who i 0#64) :
    Settled n y := by
  intro j below
  rw [lr, hw, writeLr_lr]
  by_cases here : j = i
  · rw [here, update_self, update_self]
    exact fun _ => rfl
  · rw [update_of_ne here, update_of_ne here]
    exact settled j below

theorem AllSettled.deactivate (settled : AllSettled n s) (registers : Registers n s)
    (guard : OwnerGuard n s (.deactivate v irq)) : AllSettled n (handleDir n s v irq) := by
  unfold handleDir
  cases home : s.home v with
  | none => exact settled
  | some cpu =>
    dsimp only
    split
    · have single : (s.view cpu v).vcpu.Single n := registers.single v
      have change := (vgic3Deactivate_cases single (s.name v) irq).2.2
      intro c w owner outside
      have before := settled c w owner outside
      by_cases same : w = v
      · subst same
        have here : c = cpu := Option.some.inj ((registers.lives c w owner).symm.trans home)
        subst here
        cases change with
        | inl kept =>
          apply before.congr
          · exact (congrArg Vgic3Vcpu.lr (put_vcpu_self s c w _)).trans kept.1
          · exact congrArg Iface.lr ((put_iface_self s c w _).trans kept.2.1)
        | inr cleared =>
          obtain ⟨i, _, _, _, lr, hw⟩ := cleared
          refine @Settled.clear n _ _ before (s.name w) i ?_ ?_
          · exact (congrArg Vgic3Vcpu.lr (put_vcpu_self s c w _)).trans lr
          · exact (put_iface_self s c w _).trans hw
      · apply before.congr
        · exact congrArg Vgic3Vcpu.lr (put_vcpu_of_ne s cpu _ same)
        · by_cases here : c = cpu
          · subst here
            have inactive := (guard c (Option.mem_def.mpr home)).resolve_left fun mine =>
              same (Option.some.inj (owner.symm.trans mine))
            exact congrArg Iface.lr
              ((put_iface_self s c v _).trans (vgic3Deactivate_untouched inactive))
          · exact congrArg Iface.lr (put_iface_of_ne s v _ here)
    · exact settled

theorem AllSettled.setVgic (settled : AllSettled n s) (mirrors : (s.vgic slot).SameMirrors vgic) :
    AllSettled n (s.setVgic slot vgic) :=
  fun c w owner outside => (settled c w owner outside).congr (setVgic_lr mirrors w) rfl

theorem AllSettled.create (settled : AllSettled n s) (registers : Registers n s)
    (slot nrVcpus : Nat) : AllSettled n (vmCreate s slot nrVcpus) := by
  unfold vmCreate
  split
  · exact settled
  · rename_i free
    intro c w owner outside
    refine (settled c w owner outside).congr ?_ rfl
    have elsewhere : w.slot ≠ slot := by
      intro same
      have valid := registers.valid w c (registers.lives c w owner)
      rw [VmmState.valid, same, Bool.and_eq_true] at valid
      exact free (.inr valid.1)
    unfold VmmState.view VmmState.vcpu
    dsimp only
    rw [update_of_ne elsewhere]

variable {action : VgicAction}

theorem AllSettled.step (settled : AllSettled n s) (registers : Registers n s)
    (guard : DeliveryGuard n s action) : AllSettled n (vgicStep n s action) := by
  cases action with
  | create slot nrVcpus => exact settled.create registers slot nrVcpus
  | destroy | stop | migrate => exact absurd guard Bool.false_ne_true
  | start =>
    rw [vgicStep]
    split
    · exact settled
    · exact settled
  | raise => exact settled.setVgic (vgic3SetPending_mirrors _ _ _)
  | raiseSgi => exact settled.setVgic (vgic3SetSgiPending_mirrors _ _ _ _)
  | enable => exact settled.setVgic (vgic3SetEnabled_mirrors _ _ _ _)
  | enter v => exact settled.enter registers v
  | acknowledge | endOfInterrupt | guestRegisters =>
    rw [vgicStep]
    split
    · rename_i running
      exact settled.guest registers running _
    · exact settled
  | exit cpu => exact settled.exit registers cpu
  | deactivate => exact settled.deactivate registers guard

theorem FreshSlots.setVgic (fresh : FreshSlots s)
    (kept : (s.vgic slot).nrVcpus = 0 → vgic.nrVcpus = 0 ∧
      ∀ id, vgic.vcpu id = (s.vgic slot).vcpu id) :
    FreshSlots (s.setVgic slot vgic) := by
  intro other unused
  have before := fresh other unused
  unfold VmmState.setVgic
  dsimp only
  by_cases same : other = slot
  · rw [same] at before
    have after := kept before.1
    rw [same, update_self]
    exact ⟨after.1, fun id => (after.2 id).trans (before.2 id)⟩
  · rw [update_of_ne same]
    exact before

theorem FreshSlots.enter (fresh : FreshSlots s) (registers : Registers n s) (v : VcpuPtr) :
    FreshSlots (enterGuest n s v) := by
  rcases enterGuest_cases n s v with same | ⟨cpu, t, home, _, valid, taken, entered⟩
  · rw [same]
    exact fresh
  · have handed := lrHandOver_handedOver registers home taken
    have freshAfter : FreshSlots t := by
      rcases lrHandOver_cases (registers.cpus v cpu home) taken with
        ⟨_, rfl⟩ | ⟨_, rfl⟩ | ⟨prev, _, owner, rfl⟩
      · exact fresh
      · exact fresh
      · exact fresh.put cpu (registers.valid prev cpu (registers.lives cpu prev owner)) _
    rw [entered]
    exact freshAfter.put cpu ((handed.valid v).trans valid) _

theorem not_validVcpu {vgic : Vgic3} (none : vgic.nrVcpus = 0) (vcpuId : Nat) :
    vgic.validVcpu vcpuId = false := by
  unfold Vgic3.validVcpu
  rw [none]
  exact decide_eq_false (Nat.not_lt_zero vcpuId)

theorem FreshSlots.step (fresh : FreshSlots s) (registers : Registers n s)
    (steady : action.steady = true) : FreshSlots (vgicStep n s action) := by
  cases action with
  | create slot =>
    rw [vgicStep, vmCreate]
    split
    · exact fresh
    · intro other unused
      rcases update_value unused with ⟨_, ⟨⟩⟩ | ⟨same, unused⟩
      dsimp only
      rw [update_of_ne same]
      exact fresh other unused
  | destroy | stop | migrate => exact absurd steady Bool.false_ne_true
  | start | acknowledge | endOfInterrupt | guestRegisters =>
    rw [vgicStep]
    split
    · exact fresh
    · exact fresh
  | raise =>
    apply fresh.setVgic
    intro none
    rw [vgic3SetPending_invalid (by rw [not_validVcpu none, Bool.and_false])]
    exact ⟨none, fun _ => rfl⟩
  | raiseSgi =>
    apply fresh.setVgic
    intro none
    rw [vgic3SetSgiPending_invalid (by rw [not_validVcpu none, Bool.and_false])]
    exact ⟨none, fun _ => rfl⟩
  | enable =>
    apply fresh.setVgic
    intro none
    unfold vgic3SetEnabled
    rw [not_validVcpu none]
    split
    · exact ⟨none, fun _ => rfl⟩
    · split
      · exact ⟨none, fun _ => rfl⟩
      · exact ⟨none, fun _ => rfl⟩
  | enter v => exact fresh.enter registers v
  | exit cpu =>
    rw [vgicStep, exitGuest]
    cases guest : s.guest cpu with
    | none => exact fresh
    | some v =>
      have home := registers.lives cpu v (registers.guest cpu v guest)
      exact fresh.put cpu (registers.valid v cpu home) _
  | deactivate v =>
    rw [vgicStep, handleDir]
    cases s.home v with
    | none => exact fresh
    | some cpu =>
      dsimp only
      split
      · rename_i handled
        exact fresh.put cpu handled.2.2 _
      · exact fresh

variable {d : IrqDelivery}

theorem guestRegisters_lines (registers : Registers n d.vmm) (guest : d.vmm.guest cpu = some v)
    (lr : iface.lr = (d.vmm.iface cpu).lr) (w : VcpuPtr) (irq : Nat) :
    { d with vmm := d.vmm.setIface cpu iface }.line n w irq = d.line n w irq := by
  have owner := registers.guest cpu v guest
  have home := registers.lives cpu v owner
  by_cases here : w = v
  · subst here
    have reg : iface.reg n irq = (d.line n w irq).reg := by
      show _ = d.vmm.reg n w irq
      rw [reg_owner home owner]
      unfold Iface.reg Iface.carries
      rw [lr]
    rw [setIface_line_self home owner, reg]
  · rw [setIface_line_other owner here]

theorem delivery_lines (delivers : Delivers n d) (guard : DeliveryGuard n d.vmm action)
    (w : VcpuPtr) (irq : Nat) :
    Line.Steps (isLevel irq) (d.line n w irq) ((deliveryStep n d action).line n w irq) := by
  have registers := delivers.registers
  cases action with
  | create slot nrVcpus =>
    have same := (create_sameLine (n := n) delivers.fresh slot nrVcpus w).line irq
    exact same ▸ .refl
  | destroy | stop | migrate => exact absurd guard Bool.false_ne_true
  | start v cpu =>
    show Line.Steps _ _ ({ d with vmm := vgicStep n d.vmm (.start v cpu) }.line n w irq)
    rw [vgicStep]
    split
    · rename_i startable
      rw [(start_sameLine registers startable.2.1 cpu w).line irq]
    · exact .refl
  | raise v target =>
    rw [deliveryStep, IrqDelivery.count, vgicStep]
    cases valid : decide (target < 1024) && (d.vmm.vgic v.slot).validVcpu v.id with
    | true => exact raise_lines (vgic3SetPending_raises valid) guard w irq
    | false =>
      rw [vgic3SetPending_invalid valid, setVgic_same]
      exact .refl
  | raiseSgi v source target =>
    rw [deliveryStep, IrqDelivery.count, vgicStep]
    cases valid : decide (target < 16) && (d.vmm.vgic v.slot).validVcpu v.id with
    | true =>
      apply raise_lines (vgic3SetSgiPending_raises valid source) _ w irq
      rw [Bool.and_eq_true, decide_eq_true_eq] at valid
      exact fun level => absurd valid.1 (Nat.not_lt.mpr level)
    | false =>
      rw [vgic3SetSgiPending_invalid valid, setVgic_same]
      exact .refl
  | enable v target on =>
    have same := (enable_sameLine (n := n) d.vmm v target on w).line irq
    exact same ▸ .refl
  | enter v => exact enter_lines registers v w irq
  | acknowledge cpu i =>
    rw [deliveryStep, IrqDelivery.count, vgicStep]
    cases guest : d.vmm.guest cpu with
    | none => exact .refl
    | some =>
      rw [if_pos Option.isSome_some]
      dsimp only
      by_cases takes : guestTakes n (d.vmm.iface cpu) i
      · rw [if_pos takes]
        exact ack_lines registers guest takes w irq
      · have unchanged : guestAck n (d.vmm.iface cpu) i = d.vmm.iface cpu := if_neg takes
        rw [if_neg takes, unchanged, guestRegisters_lines registers guest rfl]
  | endOfInterrupt cpu target =>
    show Line.Steps _ _
      ({ d with vmm := vgicStep n d.vmm (.endOfInterrupt cpu target) }.line n w irq)
    rw [vgicStep]
    cases guest : d.vmm.guest cpu with
    | none => exact .refl
    | some =>
      exact eoi_lines registers guard guest w irq
  | guestRegisters cpu vmcr ap1r0 =>
    show Line.Steps _ _
      ({ d with vmm := vgicStep n d.vmm (.guestRegisters cpu vmcr ap1r0) }.line n w irq)
    rw [vgicStep]
    cases guest : d.vmm.guest cpu with
    | none => exact .refl
    | some =>
      have same := guestRegisters_lines (n := n) registers guest
        (show { d.vmm.iface cpu with vmcr := vmcr, ap1r0 := ap1r0 }.lr = _ from rfl) w irq
      exact same ▸ .refl
  | exit cpu => exact exit_lines registers cpu w irq
  | deactivate => exact deactivate_lines registers delivers.settled guard w irq

theorem Delivers.step (delivers : Delivers n d) (guard : DeliveryGuard n d.vmm action) :
    Delivers n (deliveryStep n d action) where
  registers := delivers.registers.step guard.steady
  settled := delivers.settled.step delivers.registers guard
  fresh := delivers.fresh.step delivers.registers guard.steady
  good := fun v irq => (delivers.good v irq).steps (delivery_lines delivers guard v irq)

def IrqDelivery.boot : IrqDelivery where
  vmm := .boot
  raised := fun _ _ => 0
  acked := fun _ _ => 0
  waiting := fun _ _ => false

theorem delivers_boot (n : Nat) : Delivers n .boot where
  registers := registers_boot n
  settled := fun _ v owner => absurd owner.symm (Option.some_ne_none v)
  fresh := fun _ _ => ⟨rfl, fun _ => rfl⟩
  good := by
    intro v irq
    have idle : (IrqDelivery.boot.line n v irq).pend = false := by
      exact BitVec.getLsbD_zero
    have reg : (IrqDelivery.boot.line n v irq).reg = .absent := rfl
    have inactive : (IrqDelivery.boot.line n v irq).act = false := idle
    exact
      { represented := fun waiting => absurd waiting Bool.false_ne_true
        balanced := fun _ =>
          { counted := Nat.le_refl 0
            quiet := fun act => absurd (inactive.symm.trans act) Bool.false_ne_true
            recorded := fun _ active => absurd (reg.symm.trans active) LineReg.absent_ne_active
            owed := fun pend => absurd (idle.symm.trans pend) Bool.false_ne_true
            queued := fun pending => absurd (reg.symm.trans pending) LineReg.absent_ne_pending
            taken := fun active => absurd (reg.symm.trans active) LineReg.absent_ne_active } }

abbrev DeliveryRun (nrLrs : Nat) (actions : List VgicAction) (d : IrqDelivery) : Prop :=
  Run (Guarded (graph (deliveryStep (lrCount nrLrs))) fun d action =>
    DeliveryGuard (lrCount nrLrs) d.vmm action) .boot actions d

/-- In every run that meets the conditions an interrupt of INTID 16 or more is not acknowledged more
often than raised, and one raised and not acknowledged since is pending in software or in a list
register of its vCPU. -/
theorem interrupts_delivered (nrLrs : Nat) {actions : List VgicAction} {d : IrqDelivery}
    (run : DeliveryRun nrLrs actions d) (v : VcpuPtr) (irq : Nat) :
    (16 ≤ irq → d.acked v irq ≤ d.raised v irq) ∧
    (d.waiting v irq = true → (d.vmm.vcpu v).pending.has irq = true ∨
      ∃ cpu, d.vmm.owner cpu = some v ∧ ∃ i < lrCount nrLrs,
        lrPending ((d.vmm.iface cpu).lr i) = true ∧ lrVintid ((d.vmm.iface cpu).lr i) = irq) := by
  have delivers : Delivers (lrCount nrLrs) d :=
    run.guarded (fun _ _ delivers guard => delivers.step guard) (delivers_boot _)
  have good := delivers.good v irq
  constructor
  · intro level
    exact (good.balanced (decide_eq_true level)).counted
  · intro waiting
    cases good.represented waiting with
    | inl pending => exact .inl pending
    | inr reg =>
      have reg : d.vmm.reg (lrCount nrLrs) v irq = .pending := reg
      unfold VmmState.reg at reg
      cases home : d.vmm.home v with
      | none =>
        rw [home] at reg
        cases reg
      | some cpu =>
        rw [home] at reg
        dsimp only at reg
        split at reg
        · rename_i owner
          obtain ⟨i, below, carries, inactive⟩ := reg_pending reg
          have found := carries_iff.mp carries
          have pending : lrPending ((d.vmm.iface cpu).lr i) = true := by
            have valid := found.1
            rw [lrValid, inactive, Bool.or_false] at valid
            exact valid
          exact .inr ⟨cpu, owner, i, below, pending, found.2⟩
        · cases reg

instance deliveryGuardDecidable (n : Nat) (s : VmmState) :
    (action : VgicAction) → Decidable (DeliveryGuard n s action)
  | .destroy _ | .stop _ | .migrate .. => .isFalse Bool.false_ne_true
  | .raise .. => inferInstanceAs (Decidable (_ → _ ∧ _))
  | .endOfInterrupt .. => inferInstanceAs (Decidable (_ → ∀ _ ∈ _, _))
  | .create .. | .start .. | .raiseSgi .. | .enable .. | .enter .. | .acknowledge ..
  | .guestRegisters .. | .exit .. => .isTrue rfl
  | .deactivate v irq => ownerGuardDecidable n s (.deactivate v irq)

def sharedCpu : List VgicAction :=
  [.create 0 1, .create 1 1, .start ⟨0, 0⟩ 0, .start ⟨1, 0⟩ 0, .enable ⟨0, 0⟩ 40 true,
    .raise ⟨0, 0⟩ 40,
    .raiseSgi ⟨0, 0⟩ 0 3, .enter ⟨0, 0⟩, .acknowledge 0 1, .exit 0, .enter ⟨1, 0⟩, .exit 0,
    .enter ⟨0, 0⟩, .endOfInterrupt 0 40, .exit 0]

theorem interrupts_delivered_shared :
    ∃ d, DeliveryRun 4 sharedCpu d ∧ d.acked ⟨0, 0⟩ 40 = 1 ∧ d.waiting ⟨0, 0⟩ 3 = true ∧
      ((d.vmm.vcpu ⟨0, 0⟩).pending.has 3 = true ∨ ∃ cpu, d.vmm.owner cpu = some ⟨0, 0⟩ ∧
        ∃ i < lrCount 4, lrPending ((d.vmm.iface cpu).lr i) = true ∧
          lrVintid ((d.vmm.iface cpu).lr i) = 3) := by
  have run : DeliveryRun 4 sharedCpu (sharedCpu.foldl (deliveryStep (lrCount 4)) .boot) :=
    run_of_passes (fun _ _ => of_decide_eq_true) (by decide +kernel)
  exact ⟨_, run, by decide +kernel, by decide +kernel,
    (interrupts_delivered 4 run ⟨0, 0⟩ 3).2 (by decide +kernel)⟩

def endedAtOnce : List VgicAction :=
  [.create 0 1, .start ⟨0, 0⟩ 0, .enable ⟨0, 0⟩ 40 true, .raise ⟨0, 0⟩ 40, .enter ⟨0, 0⟩,
    .acknowledge 0 0, .endOfInterrupt 0 40, .exit 0, .enter ⟨0, 0⟩, .acknowledge 0 0]

def raisedWhileActive : List VgicAction :=
  [.create 0 1, .start ⟨0, 0⟩ 0, .enable ⟨0, 0⟩ 40 true, .raise ⟨0, 0⟩ 40, .enter ⟨0, 0⟩,
    .acknowledge 0 0, .raise ⟨0, 0⟩ 40, .exit 0]

/-- An SPI raised once is acknowledged twice, and one raised while it is active is lost. -/
theorem interrupts_not_delivered :
    (∃ d, Run (graph (deliveryStep (lrCount 4))) .boot endedAtOnce d ∧ d.raised ⟨0, 0⟩ 40 = 1 ∧
        d.acked ⟨0, 0⟩ 40 = 2) ∧
      ∃ d, Run (graph (deliveryStep (lrCount 4))) .boot raisedWhileActive d ∧
        d.waiting ⟨0, 0⟩ 40 = true ∧ vgic3Enabled (d.vmm.vgic 0) (d.vmm.vcpu ⟨0, 0⟩) 40 = true ∧
        (d.vmm.vcpu ⟨0, 0⟩).pending.has 40 = false ∧
        ∀ i < lrCount 4, lrPending ((d.vmm.iface 0).lr i) = false := by
  refine ⟨⟨_, run_foldl _ _ _, ?_⟩, ⟨_, run_foldl _ _ _, ?_⟩⟩
  · decide +kernel
  · decide +kernel

end AvatarKernel
