import AvatarKernel.Vmm.VgicOwner
import AvatarKernel.Vmm.VgicSyncLine

namespace AvatarKernel

open Function

def VmmState.reg (n : Nat) (s : VmmState) (v : VcpuPtr) (irq : Nat) : LineReg :=
  match s.home v with
  | none => .absent
  | some cpu => if s.owner cpu = some v then (s.iface cpu).reg n irq else .absent

def VmmState.inGuest (s : VmmState) (v : VcpuPtr) : Bool :=
  match s.home v with
  | none => false
  | some cpu => decide (s.guest cpu = some v)

structure IrqDelivery where
  vmm : VmmState
  raised : VcpuPtr → Nat → Nat
  acked : VcpuPtr → Nat → Nat
  waiting : VcpuPtr → Nat → Bool

def IrqDelivery.line (n : Nat) (d : IrqDelivery) (v : VcpuPtr) (irq : Nat) : Line where
  pend := (d.vmm.vcpu v).pending.has irq
  act := (d.vmm.vcpu v).active.has irq
  reg := d.vmm.reg n v irq
  inGuest := d.vmm.inGuest v
  raised := d.raised v irq
  acked := d.acked v irq
  waiting := d.waiting v irq

def setAt {α : Type} (f : VcpuPtr → Nat → α) (v : VcpuPtr) (irq : Nat) (value : α) :
    VcpuPtr → Nat → α :=
  update f v (update (f v) irq value)

def IrqDelivery.noteRaise (d : IrqDelivery) (v : VcpuPtr) (irq : Nat) (raised : Bool) :
    IrqDelivery :=
  if raised then
    { d with
      raised := setAt d.raised v irq (d.raised v irq + 1)
      waiting := setAt d.waiting v irq true }
  else d

def IrqDelivery.noteAck (d : IrqDelivery) (v : VcpuPtr) (irq : Nat) : IrqDelivery :=
  { d with
    acked := setAt d.acked v irq (d.acked v irq + 1)
    waiting := setAt d.waiting v irq false }

def IrqDelivery.count (n : Nat) (d : IrqDelivery) : VgicAction → IrqDelivery
  | .raise v irq => d.noteRaise v irq (decide (irq < 1024) && (d.vmm.vgic v.slot).validVcpu v.id)
  | .raiseSgi v _ irq => d.noteRaise v irq (decide (irq < 16) && (d.vmm.vgic v.slot).validVcpu v.id)
  | .acknowledge cpu i =>
    match d.vmm.guest cpu with
    | none => d
    | some v =>
      if guestTakes n (d.vmm.iface cpu) i then d.noteAck v
        (lrVintid ((d.vmm.iface cpu).lr i)) else d
  | _ => d

def deliveryStep (n : Nat) (d : IrqDelivery) (action : VgicAction) : IrqDelivery :=
  { d.count n action with vmm := vgicStep n d.vmm action }

/-- An interrupt of INTID 16 or more is raised only while it is neither active in software nor in a
list register of its vCPU, and ended only when an exit has recorded it as active. A deactivation is
handled while its vCPU owns the registers, or names an interrupt that is not active in its
mirror. -/
def DeliveryGuard (n : Nat) (s : VmmState) : VgicAction → Prop
  | .raise v irq => 16 ≤ irq → (s.vcpu v).active.has irq = false ∧ s.reg n v irq ≠ .active
  | .endOfInterrupt cpu irq => 16 ≤ irq → ∀ v ∈ s.guest cpu, (s.iface cpu).reg n irq = .active →
      (s.vcpu v).active.has irq = true
  | .deactivate v irq => OwnerGuard n s (.deactivate v irq)
  | action => action.steady = true

variable {n : Nat} {s : VmmState}

theorem DeliveryGuard.steady (guard : DeliveryGuard n s action) : action.steady = true := by
  cases action with
  | raise | endOfInterrupt | deactivate => rfl
  | _ => exact guard

variable {cpu : Nat} {v : VcpuPtr}

theorem reg_owner (home : s.home v = some cpu) (owner : s.owner cpu = some v) (irq : Nat) :
    s.reg n v irq = (s.iface cpu).reg n irq := by
  rw [VmmState.reg, home]
  exact if_pos owner

theorem reg_other (home : s.home v = some cpu) (other : s.owner cpu ≠ some v) (irq : Nat) :
    s.reg n v irq = .absent := by
  rw [VmmState.reg, home]
  exact if_neg other

theorem inGuest_eq (home : s.home v = some cpu) : s.inGuest v = decide (s.guest cpu = some v) := by
  rw [VmmState.inGuest, home]

structure SameLine (n : Nat) (s t : VmmState) (v : VcpuPtr) : Prop where
  pending : ∀ irq, (t.vcpu v).pending.has irq = (s.vcpu v).pending.has irq
  active : ∀ irq, (t.vcpu v).active.has irq = (s.vcpu v).active.has irq
  reg : ∀ irq, t.reg n v irq = s.reg n v irq
  inGuest : t.inGuest v = s.inGuest v

variable {d : IrqDelivery} {t : VmmState}

theorem SameLine.line (same : SameLine n d.vmm t v) (irq : Nat) :
    { d with vmm := t }.line n v irq = d.line n v irq := by
  unfold IrqDelivery.line
  rw [same.pending, same.active, same.reg, same.inGuest]

variable {w : VcpuPtr}

theorem sameLine_elsewhere (vcpu : t.vcpu w = s.vcpu w) (home : t.home = s.home)
    (owner : ∀ c, c ≠ cpu → t.owner c = s.owner c) (iface : ∀ c, c ≠ cpu → t.iface c = s.iface c)
    (guest : ∀ c, c ≠ cpu → t.guest c = s.guest c) (before : s.owner cpu ≠ some w)
    (after : t.owner cpu ≠ some w) (outside : s.guest cpu ≠ some w)
    (outsideAfter : t.guest cpu ≠ some w) : SameLine n s t w where
  pending := fun irq => by rw [vcpu]
  active := fun irq => by rw [vcpu]
  reg := by
    intro irq
    unfold VmmState.reg
    rw [home]
    cases s.home w with
    | none => rfl
    | some c =>
      dsimp only
      by_cases here : c = cpu
      · rw [here, if_neg before, if_neg after]
      · rw [owner c here, iface c here]
  inGuest := by
    unfold VmmState.inGuest
    rw [home]
    cases s.home w with
    | none => rfl
    | some c =>
      dsimp only
      by_cases here : c = cpu
      · rw [here, decide_eq_false outside, decide_eq_false outsideAfter]
      · rw [guest c here]

def FreshSlots (s : VmmState) : Prop :=
  ∀ slot, s.used slot = false → (s.vgic slot).nrVcpus = 0 ∧
    ∀ id, (s.vgic slot).vcpu id = vgic3Zero.vcpu id

def AllSettled (n : Nat) (s : VmmState) : Prop :=
  ∀ cpu v, s.owner cpu = some v → s.guest cpu ≠ some v → Settled n (s.view cpu v)

theorem FreshSlots.put (fresh : FreshSlots s) (cpu : Nat) (valid : s.valid v = true) (x : LrView) :
    FreshSlots (s.put cpu v x) := by
  intro slot unused
  have unused : s.used slot = false := unused
  have elsewhere : slot ≠ v.slot := by
    intro same
    rw [VmmState.valid, ← same, unused] at valid
    exact Bool.false_ne_true valid
  unfold VmmState.put
  dsimp only
  rw [update_of_ne elsewhere]
  exact fresh slot unused

theorem reg_empty {iface : Iface} (empty : ∀ i < n, lrValid (iface.lr i) = false) (irq : Nat) :
    iface.reg n irq = .absent := by
  rw [reg_absent_iff]
  intro i below
  rw [Iface.carries, empty i below, Bool.false_and]

theorem takeLrs_sameLine (home : s.home v = some cpu) (idle : s.guest cpu = none)
    (vcpu : t.vcpu w = s.vcpu w) (homes : t.home = s.home) (guests : t.guest = s.guest)
    (empty : ∀ i < n, lrValid ((t.iface cpu).lr i) = false)
    (owners : ∀ c, c ≠ cpu → t.owner c = s.owner c) (ifaces : ∀ c, c ≠ cpu → t.iface c = s.iface c)
    (other : s.owner cpu ≠ some w) : SameLine n s (takeLrs t cpu v) w := by
  have outside : s.guest cpu ≠ some w := by
    rw [idle]
    exact (Option.some_ne_none w).symm
  by_cases entering : w = v
  · subst entering
    have homeAfter : (takeLrs t cpu w).home w = some cpu := by
      rw [← home, ← homes]
      rfl
    exact
      { pending := fun irq => congrArg (fun vcpu => vcpu.pending.has irq) vcpu
        active := fun irq => congrArg (fun vcpu => vcpu.active.has irq) vcpu
        reg := by
          intro irq
          rw [reg_other home other, reg_owner homeAfter (update_self _ _ _)]
          apply reg_empty
          rw [(takeLrs_kept _ _ _ _).1]
          exact empty
        inGuest := by
          rw [inGuest_eq home, inGuest_eq homeAfter]
          show decide (t.guest cpu = some w) = _
          rw [guests] }
  · refine @sameLine_elsewhere n s cpu _ w vcpu homes ?_ ?_ ?_ other ?_ outside ?_
    · intro c here
      exact (update_of_ne here _ _).trans (owners c here)
    · intro c here
      rw [takeLrs_iface_of_ne t v here, ifaces c here]
    · intro c _
      exact congrFun guests c
    · intro mine
      have mine : update t.owner cpu (some v) cpu = some w := mine
      rw [update_self] at mine
      exact entering (Option.some.inj mine).symm
    · show t.guest cpu ≠ some w
      rw [guests]
      exact outside

theorem handOver_lines (registers : Registers n d.vmm) (home : d.vmm.home v = some cpu)
    (idle : d.vmm.guest cpu = none) (taken : lrHandOver n d.vmm cpu v = some t) (w : VcpuPtr)
    (irq : Nat) : Line.Steps (isLevel irq) (d.line n w irq) ({ d with vmm := t }.line n w irq) := by
  rcases lrHandOver_cases (registers.cpus v cpu home) taken with
    ⟨_, same⟩ | ⟨owner, same⟩ | ⟨prev, different, owner, same⟩
  · rw [same]
  · have line : SameLine n d.vmm (takeLrs d.vmm cpu v) w := by
      apply takeLrs_sameLine home idle rfl rfl rfl (registers.unowned cpu owner) (fun _ _ => rfl)
        fun _ _ => rfl
      rw [owner]
      exact (Option.some_ne_none w).symm
    rw [same, line.line]
  · have prevHome := registers.lives cpu prev owner
    have mirrored := registers.mirrored cpu prev owner
    by_cases evacuated : w = prev
    · subst evacuated
      have before : d.line n w irq = (d.vmm.view cpu w).line n irq (d.line n w irq) := by
        unfold LrView.line IrqDelivery.line
        rw [reg_owner prevHome owner]
        rfl
      have after : { d with vmm := t }.line n w irq =
          (evacuateLrs n (d.vmm.name w) (d.vmm.view cpu w)).line n irq (d.line n w irq) := by
        have homeAfter : t.home w = some cpu := by
          rw [same]
          exact prevHome
        have lost : t.owner cpu ≠ some w := by
          rw [same]
          intro mine
          have mine : update d.vmm.owner cpu (some v) cpu = some w := mine
          rw [update_self] at mine
          exact different (Option.some.inj mine).symm
        have vcpu : t.vcpu w = (evacuateLrs n (d.vmm.name w) (d.vmm.view cpu w)).vcpu := by
          rw [same]
          exact put_vcpu_self d.vmm cpu w _
        have guests : t.guest = d.vmm.guest := by
          rw [same]
          rfl
        have empty : (evacuateLrs n (d.vmm.name w) (d.vmm.view cpu w)).iface.reg n irq =
            .absent := by
          apply reg_empty
          intro i below
          rw [evacuateLrs_empty n _ _ below]
          exact lrZero_invalid
        unfold LrView.line IrqDelivery.line
        rw [vcpu, reg_other homeAfter lost, empty, inGuest_eq homeAfter,
          inGuest_eq prevHome, guests]
      rw [after]
      nth_rewrite 1 [before]
      exact evacuate_line mirrored _ irq _
    · have line : SameLine n d.vmm t w := by
        rw [same]
        apply takeLrs_sameLine home idle (put_vcpu_of_ne _ _ _ evacuated) rfl rfl
        · intro i below
          rw [put_iface_self, evacuateLrs_empty n _ _ below]
          exact lrZero_invalid
        · exact fun _ _ => rfl
        · exact fun c here => put_iface_of_ne _ _ _ here
        · rw [owner]
          exact fun mine => evacuated (Option.some.inj mine).symm
      rw [line.line]

theorem put_line_self (x : LrView) (home : d.vmm.home v = some cpu)
    (owner : d.vmm.owner cpu = some v) (guest : Nat → Option VcpuPtr) (irq : Nat) :
    { d with vmm := { d.vmm.put cpu v x with guest := guest } }.line n v irq =
      { x.line n irq (d.line n v irq) with inGuest := decide (guest cpu = some v) } := by
  have reg : VmmState.reg n { d.vmm.put cpu v x with guest := guest } v irq =
      x.iface.reg n irq := by
    rw [reg_owner (s := { d.vmm.put cpu v x with guest := guest }) home owner]
    rw [put_iface_self]
  unfold LrView.line IrqDelivery.line
  rw [reg, inGuest_eq (s := { d.vmm.put cpu v x with guest := guest }) home]
  show Line.mk (((d.vmm.put cpu v x).vcpu v).pending.has irq)
    (((d.vmm.put cpu v x).vcpu v).active.has irq)
    _ _ _ _ _ = _
  rw [put_vcpu_self]

theorem put_line_other (x : LrView) (owner : d.vmm.owner cpu = some v) (different : w ≠ v)
    (guest : Nat → Option VcpuPtr) (guests : ∀ c, c ≠ cpu → guest c = d.vmm.guest c)
    (outside : d.vmm.guest cpu ≠ some w) (outsideAfter : guest cpu ≠ some w) (irq : Nat) :
    { d with vmm := { d.vmm.put cpu v x with guest := guest } }.line n w irq = d.line n w irq := by
  have other : d.vmm.owner cpu ≠ some w := by
    rw [owner]
    exact fun mine => different (Option.some.inj mine).symm
  apply SameLine.line
  exact @sameLine_elsewhere n d.vmm cpu _ w (put_vcpu_of_ne d.vmm cpu x different) rfl
    (fun _ _ => rfl) (fun c here => put_iface_of_ne d.vmm v x here) guests other other outside
    outsideAfter

theorem view_line (home : d.vmm.home v = some cpu) (owner : d.vmm.owner cpu = some v) (irq : Nat) :
    (d.vmm.view cpu v).line n irq (d.line n v irq) = d.line n v irq := by
  unfold LrView.line IrqDelivery.line
  rw [reg_owner home owner]
  rfl

theorem enter_lines (registers : Registers n d.vmm) (v w : VcpuPtr) (irq : Nat) :
    Line.Steps (isLevel irq) (d.line n w irq)
      ({ d with vmm := enterGuest n d.vmm v }.line n w irq) := by
  rcases enterGuest_cases n d.vmm v with same | ⟨cpu, t, home, idle, _, taken, entered⟩
  · rw [same]
  · have handed := lrHandOver_handedOver registers home taken
    have homeAfter : t.home v = some cpu := by rw [handed.home, home]
    have owner : t.owner cpu = some v := by rw [handed.owner, update_self]
    apply (handOver_lines registers home idle taken w irq).trans
    rw [entered]
    by_cases entering : w = v
    · subst entering
      have after := put_line_self (n := n) (d := { d with vmm := t })
        (vgic3SyncEntry n (t.vgic w.slot) (t.name w) (t.view cpu w)) homeAfter owner
        (update t.guest cpu (some w)) irq
      have filled := entry_line handed.ready (t.vgic w.slot) (t.name w) irq
        ({ d with vmm := t }.line n w irq)
      rw [view_line (d := { d with vmm := t }) homeAfter owner] at filled
      rw [after, update_self, decide_eq_true rfl]
      exact filled.tail .enter
    · have idleAfter : t.guest cpu ≠ some w := by
        rw [handed.guest, idle]
        exact (Option.some_ne_none w).symm
      have after := put_line_other (n := n) (d := { d with vmm := t })
        (vgic3SyncEntry n (t.vgic v.slot) (t.name v) (t.view cpu v)) owner entering
        (update t.guest cpu (some v)) (fun c here => update_of_ne here _ _)
        idleAfter (by
          rw [update_self]
          exact fun mine => entering (Option.some.inj mine).symm) irq
      rw [after]

theorem exit_lines (registers : Registers n d.vmm) (cpu : Nat) (w : VcpuPtr) (irq : Nat) :
    Line.Steps (isLevel irq) (d.line n w irq)
      ({ d with vmm := exitGuest n d.vmm cpu }.line n w irq) := by
  unfold exitGuest
  cases guest : d.vmm.guest cpu with
  | none => exact .refl
  | some v =>
    have owner := registers.guest cpu v guest
    have home := registers.lives cpu v owner
    have mirrored := registers.mirrored cpu v owner
    by_cases leaving : w = v
    · subst leaving
      have after := put_line_self (n := n) (vgic3SyncExit n (d.vmm.view cpu w)) home owner
        (update d.vmm.guest cpu none) irq
      have read := exit_line mirrored irq (d.line n w irq)
      rw [view_line home owner] at read
      rw [after, update_self, decide_eq_false (Option.some_ne_none w).symm]
      refine read.tail (.leave ?_)
      intro reg
      exact ((exit_bits mirrored irq).1 reg).2
    · have outside : d.vmm.guest cpu ≠ some w := by
        rw [guest]
        exact fun mine => leaving (Option.some.inj mine).symm
      have after := put_line_other (n := n) (vgic3SyncExit n (d.vmm.view cpu v)) owner leaving
        (update d.vmm.guest cpu none) (fun c here => update_of_ne here _ _)
        outside (by
          rw [update_self]
          exact (Option.some_ne_none w).symm) irq
      rw [after]

theorem Line.outside {l : Line} (outside : l.inGuest = false) :
    { l with inGuest := false } = l := by
  rw [← outside]

theorem deactivate_owner_lines (registers : Registers n d.vmm) (settled : AllSettled n d.vmm)
    (home : d.vmm.home v = some cpu) (owner : d.vmm.owner cpu = some v)
    (outside : d.vmm.guest cpu ≠ some v) (target : Nat) (w : VcpuPtr) (irq : Nat) :
    Line.Steps (isLevel irq) (d.line n w irq) ({ d with vmm := { d.vmm.put cpu v
      (vgic3Deactivate n (d.vmm.name v) target (d.vmm.view cpu v)) with guest := d.vmm.guest }
        }.line n w irq) := by
  by_cases here : w = v
  · subst here
    have single : (d.vmm.view cpu w).vcpu.Single n := registers.single w
    have idle : (d.line n w irq).inGuest = false := by
      show d.vmm.inGuest w = false
      rw [inGuest_eq home, decide_eq_false outside]
    have change := deactivate_line (registers.mirrored cpu w owner) single
      (settled cpu w owner outside)
      (d.vmm.name w) target irq idle
    rw [view_line home owner] at change
    rw [put_line_self _ home owner, decide_eq_false outside, Line.outside (by exact idle)]
    exact change
  · have elsewhere : d.vmm.guest cpu ≠ some w := by
      intro guest
      exact here (Option.some.inj ((registers.guest cpu w guest).symm.trans owner))
    rw [put_line_other _ owner here d.vmm.guest (fun _ _ => rfl) elsewhere elsewhere]

theorem deactivate_lost_lines (home : d.vmm.home v = some cpu) (lost : d.vmm.owner cpu ≠ some v)
    (pending : x.vcpu.pending = (d.vmm.vcpu v).pending)
    (active : x.vcpu.active = (d.vmm.vcpu v).active.clear target)
    (iface : x.iface = d.vmm.iface cpu) (w : VcpuPtr) (irq : Nat) :
    Line.Steps (isLevel irq) (d.line n w irq)
      ({ d with vmm := d.vmm.put cpu v x }.line n w irq) := by
  have ifaces : (d.vmm.put cpu v x).iface = d.vmm.iface := by
    unfold VmmState.put
    rw [iface, update_eq_self]
  have reg : (d.vmm.put cpu v x).reg n w irq = d.vmm.reg n w irq := by
    unfold VmmState.reg
    rw [ifaces]
    rfl
  by_cases here : w = v
  · subst here
    have cleared : { d with vmm := d.vmm.put cpu w x }.line n w irq =
        { d.line n w irq with act := !decide (irq = target) && (d.line n w irq).act } := by
      unfold IrqDelivery.line
      rw [put_vcpu_self, pending, active, IrqBank.has_clear, reg]
      rfl
    rw [cleared]
    by_cases same : irq = target
    · rw [decide_eq_true same]
      exact .single (.release (reg_other home lost irq))
    · rw [decide_eq_false same]
      exact .refl
  · have line : { d with vmm := d.vmm.put cpu v x }.line n w irq = d.line n w irq := by
      unfold IrqDelivery.line
      rw [put_vcpu_of_ne d.vmm cpu x here, reg]
      rfl
    rw [line]

theorem deactivate_lines (registers : Registers n d.vmm) (settled : AllSettled n d.vmm)
    (guard : OwnerGuard n d.vmm (.deactivate v target)) (w : VcpuPtr) (irq : Nat) :
    Line.Steps (isLevel irq) (d.line n w irq)
      ({ d with vmm := handleDir n d.vmm v target }.line n w irq) := by
  unfold handleDir
  cases home : d.vmm.home v with
  | none => exact .refl
  | some cpu =>
    dsimp only
    split
    · rename_i handled
      by_cases owner : d.vmm.owner cpu = some v
      · exact deactivate_owner_lines registers settled home owner handled.1.2 target w irq
      · have single : (d.vmm.view cpu v).vcpu.Single n := registers.single v
        obtain ⟨pending, active, _⟩ := vgic3Deactivate_cases single (d.vmm.name v) target
        have inactive := (guard cpu (Option.mem_def.mpr home)).resolve_left owner
        exact deactivate_lost_lines home owner pending active
          (vgic3Deactivate_untouched inactive) w irq
    · exact .refl

theorem setIface_line_self (home : d.vmm.home v = some cpu) (owner : d.vmm.owner cpu = some v)
    (iface : Iface) (irq : Nat) :
    { d with vmm := d.vmm.setIface cpu iface }.line n v irq =
      { d.line n v irq with reg := iface.reg n irq } := by
  unfold IrqDelivery.line
  rw [reg_owner (s := d.vmm.setIface cpu iface) home owner]
  unfold VmmState.setIface
  dsimp only
  rw [update_self]
  rfl

theorem setIface_line_other (owner : d.vmm.owner cpu = some v) (different : w ≠ v) (iface : Iface)
    (irq : Nat) : { d with vmm := d.vmm.setIface cpu iface }.line n w irq = d.line n w irq := by
  have other : d.vmm.owner cpu ≠ some w := by
    rw [owner]
    exact fun mine => different (Option.some.inj mine).symm
  have reg : (d.vmm.setIface cpu iface).reg n w irq = d.vmm.reg n w irq := by
    unfold VmmState.reg VmmState.setIface
    cases d.vmm.home w with
    | none => rfl
    | some c =>
      dsimp only
      by_cases here : c = cpu
      · rw [here, if_neg other, if_neg other]
      · rw [update_of_ne here]
  unfold IrqDelivery.line
  rw [reg]
  rfl

theorem eoi_lines (registers : Registers n d.vmm)
    (guard : DeliveryGuard n d.vmm (.endOfInterrupt cpu target))
    (guest : d.vmm.guest cpu = some v) (w : VcpuPtr) (irq : Nat) :
    Line.Steps (isLevel irq) (d.line n w irq)
      ({ d with vmm := d.vmm.setIface cpu (guestEoi n (d.vmm.iface cpu) target) }.line n
        w irq) := by
  have owner := registers.guest cpu v guest
  have home := registers.lives cpu v owner
  have mirrored := registers.mirrored cpu v owner
  by_cases here : w = v
  · subst here
    have own := reg_owner (n := n) home owner irq
    have unique : (d.vmm.iface cpu).Unique n := mirrored.unique
    rw [setIface_line_self home owner, guestEoi_reg unique mirrored.single]
    split
    · rename_i ended
      refine .single (.finish ?_ ?_)
      · exact own.trans ended.2
      · intro level
        have recorded := guard (ended.1 ▸ of_decide_eq_true level) w (Option.mem_def.mpr guest)
        rw [← ended.1] at recorded
        exact recorded ended.2
    · have same : (d.vmm.iface cpu).reg n irq = (d.line n w irq).reg := own.symm
      rw [same]
  · rw [setIface_line_other owner here]

@[simp] theorem setAt_self (f : VcpuPtr → Nat → α) (v : VcpuPtr) (irq : Nat) (value : α) :
    setAt f v irq value v irq = value := by
  simp [setAt]

variable {irq : Nat}

theorem setAt_of_ne (f : VcpuPtr → Nat → α) (value : α) (different : ¬ (w = v ∧ other = irq)) :
    setAt f v irq value w other = f w other := by
  unfold setAt
  by_cases same : w = v
  · have number : other ≠ irq := fun equal => different ⟨same, equal⟩
    rw [same, update_self, update_of_ne number]
  · rw [update_of_ne same]

theorem ack_lines (registers : Registers n d.vmm) (guest : d.vmm.guest cpu = some v)
    (takes : guestTakes n (d.vmm.iface cpu) i) (w : VcpuPtr) (irq : Nat) :
    Line.Steps (isLevel irq) (d.line n w irq)
      ({ d.noteAck v (lrVintid ((d.vmm.iface cpu).lr i)) with
        vmm := d.vmm.setIface cpu (guestAck n (d.vmm.iface cpu) i) }.line n w irq) := by
  have owner := registers.guest cpu v guest
  have home := registers.lives cpu v owner
  have unique : (d.vmm.iface cpu).Unique n := (registers.mirrored cpu v owner).unique
  have taken := guestAck_reg unique takes irq
  by_cases counted : w = v ∧ irq = lrVintid ((d.vmm.iface cpu).lr i)
  · obtain ⟨rfl, target⟩ := counted
    rw [← target]
    have after :
      { d.noteAck w irq with vmm := d.vmm.setIface cpu (guestAck n (d.vmm.iface cpu) i)
        }.line n w irq =
        { d.line n w irq with reg := .active, acked := d.acked w irq + 1, waiting := false } := by
      have line := setIface_line_self (n := n) (d := d.noteAck w irq) home owner
        (guestAck n (d.vmm.iface cpu) i) irq
      rw [(taken.1 target).2] at line
      refine line.trans ?_
      unfold IrqDelivery.line IrqDelivery.noteAck
      dsimp only
      rw [setAt_self, setAt_self]
    rw [after]
    refine .single (.acknowledge ?_ ?_)
    · show d.vmm.inGuest w = true
      rw [inGuest_eq home, guest, decide_eq_true rfl]
    · exact (reg_owner home owner irq).trans (taken.1 target).1
  · have after : { d.noteAck v (lrVintid ((d.vmm.iface cpu).lr i)) with
        vmm := d.vmm.setIface cpu (guestAck n (d.vmm.iface cpu) i) }.line n w irq =
        { d with vmm := d.vmm.setIface cpu (guestAck n (d.vmm.iface cpu) i) }.line n w irq := by
      unfold IrqDelivery.line IrqDelivery.noteAck
      dsimp only
      rw [setAt_of_ne _ _ counted, setAt_of_ne _ _ counted]
    rw [after]
    by_cases here : w = v
    · subst here
      have target : irq ≠ lrVintid ((d.vmm.iface cpu).lr i) := fun same => counted ⟨rfl, same⟩
      have same : (d.vmm.iface cpu).reg n irq = (d.line n w irq).reg :=
        (reg_owner home owner irq).symm
      rw [setIface_line_self home owner, taken.2 target, same]
    · rw [setIface_line_other owner here]

def Raises (vgic raised : Vgic3) (vcpuId irq : Nat) : Prop :=
  ∀ id other, (raised.vcpu id).pending.has other =
      (decide (id = vcpuId ∧ other = irq) || (vgic.vcpu id).pending.has other) ∧
    (raised.vcpu id).active = (vgic.vcpu id).active

theorem modify_raises (vgic : Vgic3) (vcpuId irq : Nat) (change : Vgic3Vcpu → Vgic3Vcpu)
    (pending : (change (vgic.vcpu vcpuId)).pending = (vgic.vcpu vcpuId).pending.set irq)
    (active : (change (vgic.vcpu vcpuId)).active = (vgic.vcpu vcpuId).active) :
    Raises vgic (vgic.modify vcpuId change) vcpuId irq := by
  intro id other
  unfold Vgic3.modify
  dsimp only
  by_cases same : id = vcpuId
  · rw [same, update_self, pending, active, IrqBank.has_set]
    exact ⟨by simp, rfl⟩
  · rw [update_of_ne same, decide_eq_false (fun both => same both.1), Bool.false_or]
    exact ⟨rfl, rfl⟩

variable {vcpuId : Nat} {vgic : Vgic3}

theorem vgic3SetSgiPending_raises (valid : (decide (irq < 16) && vgic.validVcpu vcpuId) = true)
    (source : Nat) : Raises vgic (vgic3SetSgiPending vgic vcpuId source irq) vcpuId irq := by
  rw [Bool.and_eq_true, decide_eq_true_eq] at valid
  unfold vgic3SetSgiPending
  rw [valid.2, decide_eq_false (by omega : ¬ 16 ≤ irq), if_neg (by decide)]
  exact modify_raises vgic vcpuId irq _ rfl rfl

theorem vgic3SetSgiPending_invalid (invalid : (decide (irq < 16) && vgic.validVcpu vcpuId) = false)
    (source : Nat) : vgic3SetSgiPending vgic vcpuId source irq = vgic := by
  apply if_pos
  rw [Bool.and_eq_false_iff, decide_eq_false_iff_not] at invalid
  cases invalid with
  | inl => rw [decide_eq_true (by omega : 16 ≤ irq), Bool.or_true]
  | inr unknown => rw [unknown, Bool.not_false, Bool.true_or]

theorem vgic3SetPending_raises (valid : (decide (irq < 1024) && vgic.validVcpu vcpuId) = true) :
    Raises vgic (vgic3SetPending vgic vcpuId irq) vcpuId irq := by
  rw [Bool.and_eq_true, decide_eq_true_eq] at valid
  unfold vgic3SetPending
  rw [valid.2, decide_eq_false (by omega : ¬ 1024 ≤ irq)]
  by_cases sgi : irq < 16
  · rw [if_neg (by decide), if_pos sgi]
    apply vgic3SetSgiPending_raises
    rw [decide_eq_true sgi, valid.2]
    rfl
  · rw [if_neg (by decide), if_neg sgi]
    exact modify_raises vgic vcpuId irq _ rfl rfl

theorem vgic3SetPending_invalid (invalid : (decide (irq < 1024) && vgic.validVcpu vcpuId) = false) :
    vgic3SetPending vgic vcpuId irq = vgic := by
  apply if_pos
  rw [Bool.and_eq_false_iff, decide_eq_false_iff_not] at invalid
  cases invalid with
  | inl => rw [decide_eq_true (by omega : 1024 ≤ irq), Bool.true_or]
  | inr unknown => rw [unknown, Bool.not_false, Bool.or_true]

theorem setVgic_same (s : VmmState) (slot : Nat) : s.setVgic slot (s.vgic slot) = s := by
  unfold VmmState.setVgic
  rw [update_eq_self]

theorem raise_lines (raises : Raises (d.vmm.vgic v.slot) vgic v.id irq)
    (free : 16 ≤ irq → (d.vmm.vcpu v).active.has irq = false ∧ d.vmm.reg n v irq ≠ .active)
    (w : VcpuPtr) (other : Nat) :
    Line.Steps (isLevel other) (d.line n w other)
      ({ d.noteRaise v irq true with vmm := d.vmm.setVgic v.slot vgic }.line n w other) := by
  have pending : ((d.vmm.setVgic v.slot vgic).vcpu w).pending.has other =
      (decide (w = v ∧ other = irq) || (d.vmm.vcpu w).pending.has other) := by
    rw [setVgic_vcpu]
    split
    · rename_i slot
      rw [(raises w.id other).1, VmmState.vcpu, slot]
      congr 1
      rw [decide_eq_decide]
      constructor
      · intro both
        cases v
        cases w
        exact ⟨VcpuPtr.mk.injEq .. ▸ ⟨slot, both.1⟩, both.2⟩
      · intro both
        exact ⟨congrArg VcpuPtr.id both.1, both.2⟩
    · rename_i slot
      rw [decide_eq_false (fun both => slot (congrArg VcpuPtr.slot both.1)), Bool.false_or]
  have active : ((d.vmm.setVgic v.slot vgic).vcpu w).active = (d.vmm.vcpu w).active := by
    rw [setVgic_vcpu]
    split
    · rename_i slot
      rw [(raises w.id other).2, VmmState.vcpu, slot]
    · rfl
  by_cases here : w = v ∧ other = irq
  · obtain ⟨rfl, rfl⟩ := here
    have after : { d.noteRaise w other true with vmm := d.vmm.setVgic w.slot vgic }.line n w other =
        { d.line n w other with
          pend := true, raised := d.raised w other + 1, waiting := true } := by
      unfold IrqDelivery.line IrqDelivery.noteRaise
      rw [if_pos rfl]
      dsimp only
      rw [pending, active, setAt_self, setAt_self, decide_eq_true ⟨rfl, rfl⟩, Bool.true_or]
      rfl
    rw [after]
    exact .single (.raise fun level => free (of_decide_eq_true level))
  · have same : { d.noteRaise v irq true with vmm := d.vmm.setVgic v.slot vgic }.line n w other =
        d.line n w other := by
      unfold IrqDelivery.line IrqDelivery.noteRaise
      rw [if_pos rfl]
      dsimp only
      rw [pending, active, setAt_of_ne _ _ here, setAt_of_ne _ _ here, decide_eq_false here,
        Bool.false_or]
      rfl
    rw [same]

end AvatarKernel
