import AvatarKernel.Vmm.VgicRegisters

namespace AvatarKernel

open Function (update update_eq_self update_of_ne update_self)
open Transition

/-- At each CPU in a guest the valid list registers hold interrupts of the vCPU that is there, in
this use of its slot, and none was overwritten for another vCPU than its holder. -/
structure Isolated (n : Nat) (s : VmmState) : Prop where
  own : ∀ cpu v, s.guest cpu = some v → ∀ i < n, lrValid ((s.iface cpu).lr i) = true →
    (s.iface cpu).holder i = s.name v
  clean : ∀ cpu, (s.iface cpu).trespass = false

instance Vgic3Vcpu.showsDecidable (vcpu : Vgic3Vcpu) (i irq : Nat) : Decidable (vcpu.Shows i irq) :=
  inferInstanceAs (Decidable (_ ∧ _))

/-- A VM is destroyed when no CPU's `g_lr_owner_vcpu` points to one of its vCPUs any more, and a
trapped `ICC_DIR_EL1` is handled while its vCPU still owns the registers of its CPU, or names an
interrupt that is not active in its mirror. -/
def OwnerGuard (n : Nat) (s : VmmState) : VgicAction → Prop
  | .destroy slot => ∀ cpu ∈ List.range 8, ∀ v ∈ s.owner cpu, v.slot ≠ slot
  | .deactivate v irq => ∀ cpu ∈ s.home v, s.owner cpu = some v ∨
      ∀ i ∈ List.range n, ¬ ((s.vcpu v).Shows i irq ∧ lrActive ((s.vcpu v).lr i) = true)
  | _ => True

instance ownerGuardDecidable (n : Nat) (s : VmmState) :
    (action : VgicAction) → Decidable (OwnerGuard n s action)
  | .destroy _ => inferInstanceAs (Decidable (∀ _ ∈ _, ∀ _ ∈ _, _))
  | .deactivate .. => inferInstanceAs (Decidable (∀ _ ∈ _, _ ∨ ∀ _ ∈ _, ¬ (_ ∧ _)))
  | .create .. | .start .. | .stop .. | .migrate .. | .raise .. | .raiseSgi .. | .enable ..
  | .enter .. | .acknowledge .. | .endOfInterrupt .. | .guestRegisters .. | .exit .. =>
    .isTrue trivial

/-- Every valid register is held by `who`. -/
structure Iface.Held (n : Nat) (who : VcpuName) (iface : Iface) : Prop where
  holder : ∀ i < n, lrValid (iface.lr i) = true → iface.holder i = who
  clean : iface.trespass = false

variable {iface : Iface} {n : Nat} {who : VcpuName}

theorem Iface.Held.write (held : iface.Held n who) (below : i < n) (value : BitVec 64) :
    (writeLr iface who i value).Held n who where
  holder := by
    intro j under
    rw [writeLr_lr, writeLr_holder]
    by_cases here : j = i
    · rw [here, update_self, update_self]
      exact fun _ => rfl
    · rw [update_of_ne here, update_of_ne here]
      exact held.holder j under
  clean := by
    rw [writeLr_trespass iface who i value (held.holder i below)]
    exact held.clean

theorem Iface.Held.of_empty (clean : iface.trespass = false)
    (empty : ∀ i < n, lrValid (iface.lr i) = false) (who : VcpuName) : iface.Held n who where
  holder := fun i below valid => absurd ((empty i below).symm.trans valid) Bool.false_ne_true
  clean := clean

theorem Iface.Held.clear (held : iface.Held n who) : (clearLrs n who iface).trespass = false := by
  rw [clearLrs_trespass n who iface held.holder]
  exact held.clean

theorem Iface.Held.guestChange (held : iface.Held n who) (change : GuestChange n iface changed)
    (holder : changed.holder = iface.holder) (trespass : changed.trespass = iface.trespass) :
    changed.Held n who where
  holder := by
    intro i below valid
    rw [holder]
    exact held.holder i below (change.kept i below valid).1
  clean := trespass.trans held.clean

theorem Iface.Held.entry (held : x.iface.Held n who) (vgic : Vgic3) :
    (vgic3SyncEntry n vgic who x).iface.Held n who := by
  apply vgic3SyncEntry_invariant (P := fun y => y.iface.Held n who) _ held
  intro y z before queued
  cases queued with
  | restore _ _ _ empty => exact before.write (lrEmptySlot_some empty).1 _
  | inject _ _ _ _ _ empty =>
    rw [(consumeSgi_rest _ _).2.2.2]
    exact before.write (lrEmptySlot_some empty).1 _

theorem Iface.Held.deactivate (held : x.iface.Held n who) (irq : Nat) :
    (vgic3Deactivate n who irq x).iface.Held n who := by
  show (deactivateLr who irq (List.range n) x).iface.Held n who
  cases deactivateLr_cases who irq (List.range n) x with
  | inl none =>
    rw [none.1]
    exact held
  | inr some =>
    obtain ⟨i, member, _, _, result⟩ := some
    rw [result]
    split
    · exact held.write (List.mem_range.mp member) _
    · exact held.write (List.mem_range.mp member) _

/-- The registers of a CPU are held by their owner, whose VM exists. -/
structure Owned (n : Nat) (s : VmmState) : Prop where
  held : ∀ cpu v, s.owner cpu = some v → (s.iface cpu).Held n (s.name v)
  unowned : ∀ cpu, s.owner cpu = none → (s.iface cpu).trespass = false ∧
    ∀ i < n, lrValid ((s.iface cpu).lr i) = false
  used : ∀ cpu v, s.owner cpu = some v → s.used v.slot = true
  cpu : ∀ cpu v, s.owner cpu = some v → cpu < 8
  guest : ∀ cpu v, s.guest cpu = some v → s.owner cpu = some v
  cpus : ∀ v cpu, s.home v = some cpu → cpu < 8

variable {s : VmmState}

theorem Owned.isolated (owned : Owned n s) : Isolated n s where
  own := fun cpu v guest => (owned.held cpu v (owned.guest cpu v guest)).holder
  clean := by
    intro cpu
    cases owner : s.owner cpu with
    | none => exact (owned.unowned cpu owner).1
    | some v => exact (owned.held cpu v owner).clean

/-- The parts of the state on which `Owned` rests. -/
structure SameOwners (s t : VmmState) : Prop where
  iface : t.iface = s.iface
  owner : t.owner = s.owner
  guest : t.guest = s.guest
  used : ∀ cpu v, s.owner cpu = some v → t.used v.slot = s.used v.slot
  gen : ∀ cpu v, s.owner cpu = some v → t.gen v.slot = s.gen v.slot

variable {t : VmmState}

theorem Owned.same (owned : Owned n s) (same : SameOwners s t)
    (cpus : ∀ v cpu, t.home v = some cpu → cpu < 8) : Owned n t where
  held := by
    intro cpu v owner
    rw [same.owner] at owner
    rw [same.iface, VmmState.name, same.gen cpu v owner]
    exact owned.held cpu v owner
  unowned := by
    rw [same.owner, same.iface]
    exact owned.unowned
  used := by
    intro cpu v owner
    rw [same.owner] at owner
    rw [same.used cpu v owner]
    exact owned.used cpu v owner
  cpu := by
    rw [same.owner]
    exact owned.cpu
  guest := by
    rw [same.guest, same.owner]
    exact owned.guest
  cpus := cpus

variable {cpu : Nat} {v : VcpuPtr}

section

variable (owned : Owned n s)
include owned

theorem Owned.setIface (ifaces : t.iface = update s.iface cpu iface)
    (owner : t.owner = update s.owner cpu (some v)) (held : iface.Held n (s.name v))
    (small : cpu < 8) (used : s.used v.slot = true) (usedSame : t.used = s.used)
    (gen : t.gen = s.gen) (home : t.home = s.home)
    (guest : ∀ c w, t.guest c = some w → update s.owner cpu (some v) c = some w) : Owned n t where
  held := by
    intro c w mine
    rw [owner] at mine
    rw [ifaces, VmmState.name, gen]
    rcases update_value mine with ⟨rfl, ⟨⟩⟩ | ⟨here, mine⟩
    · rw [update_self]
      exact held
    · rw [update_of_ne here]
      exact owned.held c w mine
  unowned := by
    intro c none
    rw [owner] at none
    rcases update_value none with ⟨_, ⟨⟩⟩ | ⟨here, none⟩
    rw [ifaces, update_of_ne here]
    exact owned.unowned c none
  used := by
    intro c w mine
    rw [owner] at mine
    rw [usedSame]
    rcases update_value mine with ⟨_, ⟨⟩⟩ | ⟨_, mine⟩
    · exact used
    · exact owned.used c w mine
  cpu := by
    intro c w mine
    rw [owner] at mine
    rcases update_value mine with ⟨rfl, _⟩ | ⟨_, mine⟩
    · exact small
    · exact owned.cpu c w mine
  guest := by
    rw [owner]
    exact guest
  cpus := by
    rw [home]
    exact owned.cpus

theorem lrHandOver_held (small : cpu < 8) (taken : lrHandOver n s cpu v = some t) :
    (t.iface cpu).Held n (s.name v) ∧ t.owner = update s.owner cpu (some v) ∧
      (∀ c, c ≠ cpu → t.iface c = s.iface c) ∧ t.used = s.used ∧ t.gen = s.gen ∧ t.home = s.home ∧
      t.guest = s.guest := by
  rcases lrHandOver_cases small taken with ⟨mine, rfl⟩ | ⟨owner, rfl⟩ | ⟨prev, _, owner, rfl⟩
  · exact ⟨owned.held cpu v mine, by rw [← mine, update_eq_self], fun _ _ => rfl, rfl, rfl,
      rfl, rfl⟩
  · have before := owned.unowned cpu owner
    refine ⟨.of_empty ?_ ?_ _, rfl, fun c different => takeLrs_iface_of_ne s v different, rfl, rfl,
      rfl, rfl⟩
    · rw [(takeLrs_kept _ _ _ _).2]
      exact before.1
    · rw [(takeLrs_kept _ _ _ _).1]
      exact before.2
  · refine ⟨.of_empty ?_ ?_ _, rfl, ?_, rfl, rfl, rfl, rfl⟩
    · rw [(takeLrs_kept _ _ _ _).2, put_iface_self]
      exact (owned.held cpu prev owner).clear
    · intro i below
      rw [(takeLrs_kept _ _ _ _).1, put_iface_self, evacuateLrs_empty n _ _ below]
      exact lrZero_invalid
    · intro c different
      rw [takeLrs_iface_of_ne _ v different, put_iface_of_ne s prev _ different]

theorem Owned.enter (v : VcpuPtr) : Owned n (enterGuest n s v) := by
  rcases enterGuest_cases n s v with same | ⟨cpu, t, home, _, valid, taken, entered⟩
  · rw [same]
    exact owned
  · have small := owned.cpus v cpu home
    have used : s.used v.slot = true := (Bool.and_eq_true_iff.mp valid).1
    obtain ⟨held, owner, elsewhere, usedSame, gen, homes, guests⟩ :=
      lrHandOver_held owned small taken
    have name : t.name v = s.name v := by rw [VmmState.name, VmmState.name, gen]
    have filled : (vgic3SyncEntry n (t.vgic v.slot) (t.name v) (t.view cpu v)).iface.Held n
        (s.name v) := by
      rw [name]
      exact Iface.Held.entry held _
    rw [entered]
    refine owned.setIface ?_ owner filled small used usedSame gen homes ?_
    · funext c
      by_cases here : c = cpu
      · rw [here, update_self]
        exact put_iface_self t cpu v _
      · rw [update_of_ne here, ← elsewhere c here]
        exact put_iface_of_ne t v _ here
    · intro c w running
      rcases update_value running with ⟨rfl, same⟩ | ⟨here, running⟩
      · rw [update_self]
        exact same
      · rw [update_of_ne here]
        exact owned.guest c w (guests ▸ running)

theorem Owned.own (mine : s.owner cpu = some v) (held : iface.Held n (s.name v))
    (ifaces : t.iface = update s.iface cpu iface) (owner : t.owner = s.owner)
    (used : t.used = s.used) (gen : t.gen = s.gen) (home : t.home = s.home)
    (guest : ∀ c w, t.guest c = some w → s.guest c = some w) : Owned n t := by
  have unchanged : update s.owner cpu (some v) = s.owner := by
    rw [← mine, update_eq_self]
  refine owned.setIface ifaces (owner.trans unchanged.symm) held (owned.cpu cpu v mine)
    (owned.used cpu v mine) used gen home ?_
  intro c w running
  rw [unchanged]
  exact owned.guest c w (guest c w running)

theorem Owned.exit (cpu : Nat) : Owned n (exitGuest n s cpu) := by
  unfold exitGuest
  cases guest : s.guest cpu with
  | none => exact owned
  | some v =>
    have mine := owned.guest cpu v guest
    refine owned.own mine (owned.held cpu v mine) rfl rfl rfl rfl rfl ?_
    intro c w running
    rcases update_value running with ⟨_, ⟨⟩⟩ | ⟨_, running⟩
    exact running

theorem Owned.guestChange (running : (s.guest cpu).isSome = true)
    (change : GuestChange n (s.iface cpu) iface) (holder : iface.holder = (s.iface cpu).holder)
    (trespass : iface.trespass = (s.iface cpu).trespass) : Owned n (s.setIface cpu iface) := by
  obtain ⟨v, guest⟩ := Option.isSome_iff_exists.mp running
  have mine := owned.guest cpu v guest
  exact owned.own mine ((owned.held cpu v mine).guestChange change holder trespass)
    rfl rfl rfl rfl rfl
    fun _ _ running => running

theorem Owned.deactivate (guard : OwnerGuard n s (.deactivate v irq)) :
    Owned n (handleDir n s v irq) := by
  unfold handleDir
  cases home : s.home v with
  | none => exact owned
  | some cpu =>
    dsimp only
    split
    · cases guard cpu (Option.mem_def.mpr home) with
      | inl mine =>
        exact owned.own mine (Iface.Held.deactivate (owned.held cpu v mine) irq) rfl rfl rfl rfl rfl
          fun _ _ running => running
      | inr inactive =>
        refine owned.same ⟨?_, rfl, rfl, fun _ _ _ => rfl, fun _ _ _ => rfl⟩ owned.cpus
        show update s.iface cpu (vgic3Deactivate n (s.name v) irq (s.view cpu v)).iface = s.iface
        rw [vgic3Deactivate_untouched inactive]
        exact update_eq_self cpu s.iface
    · exact owned

end

theorem guestAck_ghosts (n : Nat) (iface : Iface) (i : Nat) :
    (guestAck n iface i).holder = iface.holder ∧
    (guestAck n iface i).trespass = iface.trespass := by
  unfold guestAck
  split <;> exact ⟨rfl, rfl⟩

theorem guestEoi_ghosts (n : Nat) (iface : Iface) (irq : Nat) :
    (guestEoi n iface irq).holder = iface.holder ∧
    (guestEoi n iface irq).trespass = iface.trespass := by
  unfold guestEoi
  split <;> exact ⟨rfl, rfl⟩

theorem Owned.create (owned : Owned n s) (slot nrVcpus : Nat) :
    Owned n (vmCreate s slot nrVcpus) := by
  unfold vmCreate
  split
  · exact owned
  · rename_i free
    have elsewhere : ∀ cpu v, s.owner cpu = some v → v.slot ≠ slot := by
      intro cpu v owner same
      exact free (.inr (same ▸ owned.used cpu v owner))
    refine owned.same ⟨rfl, rfl, rfl, ?_, ?_⟩ owned.cpus
    · intro cpu v owner
      exact update_of_ne (elsewhere cpu v owner) _ _
    · intro cpu v owner
      exact update_of_ne (elsewhere cpu v owner) _ _

theorem Owned.destroy (owned : Owned n s) (guard : OwnerGuard n s (.destroy slot)) :
    Owned n (vmFree s slot) := by
  unfold vmFree
  split
  · exact owned
  · refine owned.same ⟨rfl, rfl, rfl, ?_, fun _ _ _ => rfl⟩ owned.cpus
    intro cpu v owner
    have member := List.mem_range.mpr (owned.cpu cpu v owner)
    exact update_of_ne (guard cpu member v owner) _ _

theorem Owned.rehome (owned : Owned n s) (v : VcpuPtr) {cpu : Option Nat}
    (small : ∀ c ∈ cpu, c < 8) :
    Owned n { s with home := update s.home v cpu } := by
  refine owned.same ⟨rfl, rfl, rfl, fun _ _ _ => rfl, fun _ _ _ => rfl⟩ ?_
  intro w c home
  rcases update_value home with ⟨_, home⟩ | ⟨_, home⟩
  · exact small c (Option.mem_def.mpr home)
  · exact owned.cpus w c home

theorem Owned.step (owned : Owned n s) (guard : OwnerGuard n s action) :
    Owned n (vgicStep n s action) := by
  have raised : ∀ slot vgic, Owned n (s.setVgic slot vgic) := fun _ _ =>
    owned.same ⟨rfl, rfl, rfl, fun _ _ _ => rfl, fun _ _ _ => rfl⟩ owned.cpus
  cases action with
  | create slot nrVcpus => exact owned.create slot nrVcpus
  | destroy => exact owned.destroy guard
  | start =>
    unfold vgicStep
    dsimp only
    split
    · rename_i startable
      apply owned.rehome
      intro c member
      exact Option.some.inj member ▸ startable.2.2.2
    · exact owned
  | stop v =>
    rw [vgicStep]
    cases s.home v with
    | none => exact owned
    | some =>
      dsimp only
      split
      · exact owned.rehome v fun c member => absurd member.symm (Option.some_ne_none c)
      · exact owned
  | migrate v =>
    rw [vgicStep]
    cases s.home v with
    | none => exact owned
    | some =>
      dsimp only
      split
      · rename_i movable
        apply owned.rehome
        intro c member
        exact Option.some.inj member ▸ movable.2
      · exact owned
  | raise | raiseSgi | enable => exact raised _ _
  | enter v => exact owned.enter v
  | acknowledge cpu i =>
    unfold vgicStep
    dsimp only
    split
    · rename_i running
      have ghosts := guestAck_ghosts n (s.iface cpu) i
      exact owned.guestChange running (guestAck_change n _ i) ghosts.1 ghosts.2
    · exact owned
  | endOfInterrupt cpu irq =>
    unfold vgicStep
    dsimp only
    split
    · rename_i running
      have ghosts := guestEoi_ghosts n (s.iface cpu) irq
      exact owned.guestChange running (guestEoi_change n _ irq) ghosts.1 ghosts.2
    · exact owned
  | guestRegisters =>
    unfold vgicStep
    dsimp only
    split
    · rename_i running
      exact owned.guestChange running ⟨fun _ _ valid => ⟨valid, rfl⟩, fun single => single⟩ rfl rfl
    · exact owned
  | exit cpu => exact owned.exit cpu
  | deactivate => exact owned.deactivate guard

theorem owned_boot (n : Nat) : Owned n .boot where
  held := fun _ v owner => absurd owner.symm (Option.some_ne_none v)
  unowned := fun _ _ => ⟨rfl, fun _ _ => lrZero_invalid⟩
  used := fun _ v owner => absurd owner.symm (Option.some_ne_none v)
  cpu := fun _ v owner => absurd owner.symm (Option.some_ne_none v)
  guest := fun _ v guest => absurd guest.symm (Option.some_ne_none v)
  cpus := fun _ cpu home => absurd home.symm (Option.some_ne_none cpu)

/-- In every run that meets the condition each guest finds its own interrupts in the list registers
and no vCPU overwrites those of another. -/
theorem list_registers_isolated (nrLrs : Nat) {actions : List VgicAction} {s : VmmState}
    (run : Run (Guarded (graph (vgicStep (lrCount nrLrs))) (OwnerGuard (lrCount nrLrs)))
      .boot actions s) :
    Isolated (lrCount nrLrs) s :=
  Owned.isolated (run.guarded (fun _ _ owned guard => owned.step guard) (owned_boot _))

def slotReused : List VgicAction :=
  [.create 0 1, .start ⟨0, 0⟩ 0, .raiseSgi ⟨0, 0⟩ 0 3, .enter ⟨0, 0⟩, .exit 0, .stop ⟨0, 0⟩,
    .create 1 1, .start ⟨1, 0⟩ 0, .enter ⟨1, 0⟩, .exit 0,
    .destroy 0, .create 0 1, .start ⟨0, 0⟩ 0, .enter ⟨0, 0⟩]

theorem list_registers_isolated_reused :
    ∃ s, Run (Guarded (graph (vgicStep (lrCount 4))) (OwnerGuard (lrCount 4))) .boot slotReused s ∧
      s.guest 0 = some ⟨0, 0⟩ ∧ Isolated (lrCount 4) s := by
  have run : Run (Guarded (graph (vgicStep (lrCount 4))) (OwnerGuard (lrCount 4))) .boot slotReused
      (slotReused.foldl (vgicStep (lrCount 4)) .boot) :=
    run_of_passes (fun _ _ => of_decide_eq_true) (by decide +kernel)
  exact ⟨_, run, by decide +kernel, list_registers_isolated 4 run⟩

def destroyedOwner : List VgicAction :=
  [.create 0 1, .start ⟨0, 0⟩ 0, .raiseSgi ⟨0, 0⟩ 0 3, .enter ⟨0, 0⟩, .exit 0, .stop ⟨0, 0⟩,
    .destroy 0, .create 0 1, .start ⟨0, 0⟩ 0, .enter ⟨0, 0⟩]

def lateDeactivation : List VgicAction :=
  [.create 0 1, .start ⟨0, 0⟩ 0, .create 1 1, .start ⟨1, 0⟩ 0, .raiseSgi ⟨0, 0⟩ 0 3, .enter ⟨0, 0⟩,
    .acknowledge 0 0, .exit 0, .raiseSgi ⟨1, 0⟩ 0 5, .enter ⟨1, 0⟩, .exit 0, .deactivate ⟨0, 0⟩ 3]

/-- A new VM is entered with an interrupt of the destroyed one, and a deactivation erases the
pending interrupt of another VM. -/
theorem list_registers_not_isolated :
    (∃ s, Run (graph (vgicStep (lrCount 4))) .boot destroyedOwner s ∧ s.guest 0 = some ⟨0, 0⟩ ∧
        lrPending ((s.iface 0).lr 0) = true ∧ (s.iface 0).holder 0 ≠ s.name ⟨0, 0⟩) ∧
      ∃ s, Run (graph (vgicStep (lrCount 4))) .boot lateDeactivation s ∧
        (s.iface 0).trespass = true ∧ (s.iface 0).lr 0 = 0#64 ∧
        (s.vcpu ⟨1, 0⟩).pending.has 5 = false ∧ lrPending ((s.vcpu ⟨1, 0⟩).lr 0) = true := by
  refine ⟨⟨_, run_foldl _ _ _, ?_⟩, ⟨_, run_foldl _ _ _, ?_⟩⟩
  · decide +kernel
  · decide +kernel

end AvatarKernel
