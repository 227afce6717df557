import AvatarKernel.Vmm.VgicMachine
import AvatarKernel.Vmm.VgicMirror

namespace AvatarKernel

open Function (update update_eq_self update_of_ne update_self)
open Transition

def VgicAction.steady : VgicAction → Bool
  | .destroy _ => false
  | .stop _ => false
  | .migrate _ _ => false
  | _ => true

structure Registers (n : Nat) (s : VmmState) : Prop where
  mirrored : ∀ cpu v, s.owner cpu = some v → Mirrored n (s.view cpu v)
  unowned : ∀ cpu, s.owner cpu = none → ∀ i < n, lrValid ((s.iface cpu).lr i) = false
  lives : ∀ cpu v, s.owner cpu = some v → s.home v = some cpu
  guest : ∀ cpu v, s.guest cpu = some v → s.owner cpu = some v
  cpus : ∀ v cpu, s.home v = some cpu → cpu < 8
  valid : ∀ v cpu, s.home v = some cpu → s.valid v = true
  single : ∀ v, (s.vcpu v).Single n

structure SameRegisters (s t : VmmState) : Prop where
  lr : ∀ v, (t.vcpu v).lr = (s.vcpu v).lr
  hw : ∀ cpu, (t.iface cpu).lr = (s.iface cpu).lr
  owner : t.owner = s.owner
  guest : t.guest = s.guest

variable {n : Nat} {s t : VmmState}

theorem Registers.same (registers : Registers n s) (same : SameRegisters s t)
    (home : ∀ v cpu, s.home v = some cpu → t.home v = some cpu)
    (cpus : ∀ v cpu, t.home v = some cpu → cpu < 8)
    (valid : ∀ v cpu, t.home v = some cpu → t.valid v = true) : Registers n t where
  mirrored := by
    intro cpu v owner
    rw [same.owner] at owner
    exact (registers.mirrored cpu v owner).congr (same.lr v) (same.hw cpu)
  unowned := by
    intro cpu
    rw [same.owner, same.hw]
    exact registers.unowned cpu
  lives := by
    intro cpu v owner
    rw [same.owner] at owner
    exact home v cpu (registers.lives cpu v owner)
  guest := by
    rw [same.guest, same.owner]
    exact registers.guest
  cpus := cpus
  valid := valid
  single := by
    intro v
    unfold Vgic3Vcpu.Single
    rw [same.lr]
    exact registers.single v

variable {cpu : Nat} {v : VcpuPtr} {x : LrView}

theorem Registers.put (registers : Registers n s) (home : s.home v = some cpu)
    (single : x.vcpu.Single n) (own : s.owner cpu = some v → Mirrored n x)
    (other : ∀ w, w ≠ v → s.owner cpu = some w → Mirrored n ⟨s.vcpu w, x.iface⟩)
    (empty : s.owner cpu = none → ∀ i < n, lrValid (x.iface.lr i) = false) :
    Registers n (s.put cpu v x) where
  mirrored := by
    intro c w owner
    unfold VmmState.view
    by_cases same : w = v
    · subst same
      have here : c = cpu := Option.some.inj ((registers.lives c w owner).symm.trans home)
      subst here
      rw [put_vcpu_self, put_iface_self]
      exact own owner
    · rw [put_vcpu_of_ne s cpu x same]
      by_cases here : c = cpu
      · subst here
        rw [put_iface_self]
        exact other w same owner
      · rw [put_iface_of_ne s v x here]
        exact registers.mirrored c w owner
  unowned := by
    intro c owner
    by_cases here : c = cpu
    · subst here
      rw [put_iface_self]
      exact empty owner
    · rw [put_iface_of_ne s v x here]
      exact registers.unowned c owner
  lives := registers.lives
  guest := registers.guest
  cpus := registers.cpus
  valid := by
    intro w c at_home
    rw [put_valid]
    exact registers.valid w c at_home
  single := by
    intro w
    by_cases same : w = v
    · rw [same, put_vcpu_self]
      exact single
    · rw [put_vcpu_of_ne s cpu x same]
      exact registers.single w

theorem setVgic_vcpu (s : VmmState) (slot : Nat) (vgic : Vgic3) (v : VcpuPtr) :
    (s.setVgic slot vgic).vcpu v = if v.slot = slot then vgic.vcpu v.id else s.vcpu v := by
  unfold VmmState.vcpu VmmState.setVgic
  by_cases same : v.slot = slot
  · simp [same]
  · simp [same]

structure Vgic3.SameMirrors (vgic after : Vgic3) : Prop where
  lr : ∀ id, (after.vcpu id).lr = (vgic.vcpu id).lr
  count : after.nrVcpus = vgic.nrVcpus

theorem setVgic_lr (same : (s.vgic slot).SameMirrors vgic) (v : VcpuPtr) :
    ((s.setVgic slot vgic).vcpu v).lr = (s.vcpu v).lr := by
  rw [setVgic_vcpu]
  split
  · rename_i slot
    rw [same.lr, ← slot]
    rfl
  · rfl

theorem Registers.setVgic (registers : Registers n s) (mirrors : (s.vgic slot).SameMirrors vgic) :
    Registers n (s.setVgic slot vgic) := by
  refine registers.same ⟨setVgic_lr mirrors, fun _ => rfl, rfl, rfl⟩ (fun _ _ home => home)
    registers.cpus ?_
  intro v cpu home
  have before := registers.valid v cpu home
  unfold VmmState.valid VmmState.setVgic Vgic3.validVcpu at *
  by_cases same : v.slot = slot
  · rw [same] at before
    simp only [same, update_self, mirrors.count]
    exact before
  · simp only [update_of_ne same]
    exact before

variable (vgic : Vgic3)

theorem Vgic3.SameMirrors.refl : vgic.SameMirrors vgic := ⟨fun _ => rfl, rfl⟩

theorem modify_mirrors (vcpuId : Nat) (change : Vgic3Vcpu → Vgic3Vcpu)
    (kept : (change (vgic.vcpu vcpuId)).lr = (vgic.vcpu vcpuId).lr) :
    vgic.SameMirrors (vgic.modify vcpuId change) where
  lr := by
    intro id
    unfold Vgic3.modify
    by_cases same : id = vcpuId
    · rw [same]
      simp [kept]
    · simp [same]
  count := rfl

theorem vgic3SetSgiPending_mirrors (vcpuId source irq : Nat) :
    vgic.SameMirrors (vgic3SetSgiPending vgic vcpuId source irq) := by
  unfold vgic3SetSgiPending
  split
  · exact .refl vgic
  · exact modify_mirrors vgic vcpuId _ rfl

theorem vgic3SetPending_mirrors (vcpuId irq : Nat) :
    vgic.SameMirrors (vgic3SetPending vgic vcpuId irq) := by
  unfold vgic3SetPending
  split
  · exact .refl vgic
  · split
    · exact vgic3SetSgiPending_mirrors vgic vcpuId 0 irq
    · exact modify_mirrors vgic vcpuId _ rfl

theorem vgic3SetEnabled_mirrors (vcpuId irq : Nat) (on : Bool) :
    vgic.SameMirrors (vgic3SetEnabled vgic vcpuId irq on) := by
  unfold vgic3SetEnabled
  split
  · exact .refl vgic
  · split
    · split
      · exact .refl vgic
      · exact modify_mirrors vgic vcpuId _ rfl
    · exact ⟨fun _ => rfl, rfl⟩

structure GuestChange (n : Nat) (before after : Iface) : Prop where
  kept : ∀ i < n, lrValid (after.lr i) = true →
    lrValid (before.lr i) = true ∧ lrVintid (after.lr i) = lrVintid (before.lr i)
  single : before.Single n → after.Single n

section

variable {before after : Iface}

theorem GuestChange.write (lr : after.lr = update before.lr i value)
    (kept : lrValid value = true →
      lrValid (before.lr i) = true ∧ lrVintid value = lrVintid (before.lr i))
    (single : (lrPending value && lrActive value) = false) : GuestChange n before after where
  kept := by
    intro j _
    rw [lr]
    by_cases here : j = i
    · rw [here, update_self]
      exact kept
    · rw [update_of_ne here]
      exact fun still => ⟨still, rfl⟩
  single := by
    intro one j below
    rw [lr]
    by_cases here : j = i
    · rw [here, update_self]
      exact single
    · rw [update_of_ne here]
      exact one j below

theorem GuestChange.empty (change : GuestChange n before after)
    (empty : ∀ i < n, lrValid (before.lr i) = false) : ∀ i < n, lrValid (after.lr i) = false := by
  intro i below
  cases valid : lrValid (after.lr i) with
  | false => rfl
  | true =>
    exact absurd ((empty i below).symm.trans (change.kept i below valid).1) Bool.false_ne_true

theorem GuestChange.mirrored (change : GuestChange n before after)
    (mirrored : Mirrored n ⟨vcpu, before⟩) : Mirrored n ⟨vcpu, after⟩ :=
  mirrored.weaken (change.single mirrored.single) change.kept

end

theorem guestChange_set (valid : lrValid (iface.lr i) = true) (state : BitVec 2)
    (single : (state.getLsbD 0 && state.getLsbD 1) = false) :
    GuestChange n iface (iface.guestLr i (lrSetState (iface.lr i) state)) := by
  apply GuestChange.write rfl
  · rw [lrVintid_setState]
    exact fun _ => ⟨valid, rfl⟩
  · rw [lrPending_setState, lrActive_setState]
    exact single

theorem guestChange_refl (n : Nat) (iface : Iface) : GuestChange n iface iface :=
  ⟨fun _ _ valid => ⟨valid, rfl⟩, fun single => single⟩

theorem guestAck_change (n : Nat) (iface : Iface) (i : Nat) :
    GuestChange n iface (guestAck n iface i) := by
  unfold guestAck
  split
  · rename_i acked
    apply guestChange_set _ _ (by decide)
    rw [lrValid, acked.2.1, Bool.true_or]
  · exact guestChange_refl n iface

theorem guestEoi_change (n : Nat) (iface : Iface) (irq : Nat) :
    GuestChange n iface (guestEoi n iface irq) := by
  unfold guestEoi
  split
  · exact guestChange_refl n iface
  · rename_i i found
    have active := List.find?_some found
    rw [Bool.and_eq_true] at active
    apply guestChange_set
    · rw [lrValid, active.1, Bool.or_true]
    · split <;> decide

theorem Registers.guestChange (registers : Registers n s)
    (change : GuestChange n (s.iface cpu) iface) : Registers n (s.setIface cpu iface) where
  mirrored := by
    intro c v owner
    have before := registers.mirrored c v owner
    unfold VmmState.view VmmState.setIface VmmState.vcpu at *
    dsimp only at *
    by_cases here : c = cpu
    · subst here
      rw [update_self]
      exact change.mirrored before
    · rw [update_of_ne here]
      exact before
  unowned := by
    intro c owner
    have before := registers.unowned c owner
    unfold VmmState.setIface
    dsimp only
    by_cases here : c = cpu
    · subst here
      rw [update_self]
      exact change.empty before
    · rw [update_of_ne here]
      exact before
  lives := registers.lives
  guest := registers.guest
  cpus := registers.cpus
  valid := registers.valid
  single := registers.single

structure HandedOver (n : Nat) (s : VmmState) (cpu : Nat) (v : VcpuPtr) (t : VmmState) : Prop where
  owner : t.owner = update s.owner cpu (some v)
  home : t.home = s.home
  guest : t.guest = s.guest
  valid : ∀ w, t.valid w = s.valid w
  ready : Mirrored n (reclaimLrs n (t.view cpu v))
  single : ∀ w, (t.vcpu w).Single n
  vcpus : ∀ c w, c ≠ cpu → s.home w = some c → t.vcpu w = s.vcpu w
  ifaces : ∀ c, c ≠ cpu → t.iface c = s.iface c

theorem evacuateLrs_lr (n : Nat) (who : VcpuName) (x : LrView) :
    (evacuateLrs n who x).vcpu.lr = (vgic3SyncExit n x).vcpu.lr := by
  unfold evacuateLrs
  rw [(returnSgi_rest _ _).1]

theorem evacuateLrs_empty (n : Nat) (who : VcpuName) (x : LrView) (below : i < n) :
    (evacuateLrs n who x).iface.lr i = 0#64 := by
  show (clearLrs n who x.iface).lr i = 0#64
  rw [clearLrs_lr, if_pos below]

theorem takeLrs_handedOver (owner : t.owner = s.owner) (home : t.home = s.home)
    (guest : t.guest = s.guest) (valid : ∀ w, t.valid w = s.valid w)
    (empty : ∀ i < n, lrValid ((t.iface cpu).lr i) = false) (single : ∀ w, (t.vcpu w).Single n)
    (vcpus : ∀ c w, c ≠ cpu → s.home w = some c → t.vcpu w = s.vcpu w)
    (ifaces : ∀ c, c ≠ cpu → t.iface c = s.iface c) : HandedOver n s cpu v (takeLrs t cpu v) where
  owner := by rw [← owner]; rfl
  home := home
  guest := guest
  valid := valid
  ready := by
    apply mirrored_reclaim_of_empty
    intro i below
    show lrValid (((takeLrs t cpu v).iface cpu).lr i) = false
    rw [(takeLrs_kept _ _ _ _).1]
    exact empty i below
  single := single
  vcpus := vcpus
  ifaces := by
    intro c different
    rw [takeLrs_iface_of_ne t v different, ifaces c different]

theorem lrHandOver_handedOver (registers : Registers n s) (home : s.home v = some cpu)
    (taken : lrHandOver n s cpu v = some t) : HandedOver n s cpu v t := by
  rcases lrHandOver_cases (registers.cpus v cpu home) taken with
    ⟨mine, rfl⟩ | ⟨owner, rfl⟩ | ⟨prev, different, owner, rfl⟩
  · exact
      { owner := by rw [← mine, update_eq_self]
        home := rfl
        guest := rfl
        valid := fun _ => rfl
        ready := (registers.mirrored cpu v mine).reclaim
        single := registers.single
        vcpus := fun _ _ _ _ => rfl
        ifaces := fun _ _ => rfl }
  · exact takeLrs_handedOver rfl rfl rfl (fun _ => rfl) (registers.unowned cpu owner)
      registers.single (fun _ _ _ _ => rfl) (fun _ _ => rfl)
  · have prevHome := registers.lives cpu prev owner
    have mirrored := registers.mirrored cpu prev owner
    refine takeLrs_handedOver rfl rfl rfl (fun w => put_valid s cpu prev w _) ?_ ?_ ?_ ?_
    · intro i below
      rw [put_iface_self, evacuateLrs_empty n _ _ below]
      exact lrZero_invalid
    · intro w
      by_cases same : w = prev
      · rw [same, put_vcpu_self]
        unfold Vgic3Vcpu.Single
        rw [evacuateLrs_lr]
        exact mirrored.single_exit
      · rw [put_vcpu_of_ne s cpu _ same]
        exact registers.single w
    · intro c w elsewhere at_home
      apply put_vcpu_of_ne
      intro same
      rw [same, prevHome] at at_home
      exact elsewhere (Option.some.inj at_home).symm
    · intro c elsewhere
      exact put_iface_of_ne s prev _ elsewhere

theorem HandedOver.entered (registers : Registers n s) (home : s.home v = some cpu)
    (handed : HandedOver n s cpu v t) (mirrored : Mirrored n x) (single : x.vcpu.Single n) :
    Registers n { t.put cpu v x with guest := update t.guest cpu (some v) } where
  mirrored := by
    intro c w owner
    have owner : t.owner c = some w := owner
    rw [handed.owner] at owner
    show Mirrored n ((t.put cpu v x).view c w)
    unfold VmmState.view
    rcases update_value owner with ⟨rfl, ⟨⟩⟩ | ⟨here, owner⟩
    · rw [put_vcpu_self, put_iface_self]
      exact mirrored
    · have at_home := registers.lives c w owner
      have different : w ≠ v := by
        intro same
        rw [same, home] at at_home
        exact here (Option.some.inj at_home).symm
      rw [put_vcpu_of_ne t cpu _ different, put_iface_of_ne t v _ here,
        handed.vcpus c w here at_home, handed.ifaces c here]
      exact registers.mirrored c w owner
  unowned := by
    intro c owner
    have owner : t.owner c = none := owner
    rw [handed.owner] at owner
    rcases update_value owner with ⟨_, ⟨⟩⟩ | ⟨here, owner⟩
    rw [put_iface_of_ne t v _ here, handed.ifaces c here]
    exact registers.unowned c owner
  lives := by
    intro c w owner
    have owner : t.owner c = some w := owner
    rw [handed.owner] at owner
    show t.home w = some c
    rw [handed.home]
    rcases update_value owner with ⟨rfl, ⟨⟩⟩ | ⟨_, owner⟩
    · exact home
    · exact registers.lives c w owner
  guest := by
    intro c w guest
    show t.owner c = some w
    rw [handed.owner]
    rcases update_value guest with ⟨rfl, same⟩ | ⟨here, guest⟩
    · rw [update_self]
      exact same
    · rw [update_of_ne here]
      exact registers.guest c w (handed.guest ▸ guest)
  cpus := by
    show ∀ w c, t.home w = some c → c < 8
    rw [handed.home]
    exact registers.cpus
  valid := by
    intro w c at_home
    have at_home : t.home w = some c := at_home
    rw [handed.home] at at_home
    show (t.put cpu v x).valid w = true
    rw [put_valid, handed.valid]
    exact registers.valid w c at_home
  single := by
    intro w
    show ((t.put cpu v x).vcpu w).Single n
    by_cases same : w = v
    · rw [same, put_vcpu_self]
      exact single
    · rw [put_vcpu_of_ne t cpu _ same]
      exact handed.single w

theorem Registers.enter (registers : Registers n s) (v : VcpuPtr) :
    Registers n (enterGuest n s v) := by
  rcases enterGuest_cases n s v with same | ⟨cpu, t, home, _, _, taken, entered⟩
  · rw [same]
    exact registers
  · have handed := lrHandOver_handedOver registers home taken
    have single : (t.view cpu v).vcpu.Single n := handed.single v
    rw [entered]
    exact handed.entered registers home (handed.ready.entry (t.vgic v.slot) (t.name v))
      (single_entry single (t.vgic v.slot) (t.name v))

theorem Registers.exit (registers : Registers n s) (cpu : Nat) :
    Registers n (exitGuest n s cpu) := by
  unfold exitGuest
  cases guest : s.guest cpu with
  | none => exact registers
  | some v =>
    have owner := registers.guest cpu v guest
    have mirrored := registers.mirrored cpu v owner
    have step : Registers n (s.put cpu v (vgic3SyncExit n (s.view cpu v))) := by
      apply registers.put (registers.lives cpu v owner) mirrored.single_exit
      · exact fun _ => mirrored.exit
      · intro w different other
        exact absurd (Option.some.inj (other.symm.trans owner)) different
      · intro none
        exact absurd (none.symm.trans owner) (Option.some_ne_none v).symm
    exact
      { mirrored := step.mirrored
        unowned := step.unowned
        lives := step.lives
        guest := by
          intro c w running
          rcases update_value running with ⟨_, ⟨⟩⟩ | ⟨_, running⟩
          exact registers.guest c w running
        cpus := step.cpus
        valid := step.valid
        single := step.single }

theorem vgic3Deactivate_cases (single : x.vcpu.Single n) (who : VcpuName) (irq : Nat) :
    (vgic3Deactivate n who irq x).vcpu.pending = x.vcpu.pending ∧
    (vgic3Deactivate n who irq x).vcpu.active = x.vcpu.active.clear irq ∧
    (((vgic3Deactivate n who irq x).vcpu.lr = x.vcpu.lr ∧
        (vgic3Deactivate n who irq x).iface = x.iface ∧
        ∀ i < n, ¬ (x.vcpu.Shows i irq ∧ lrActive (x.vcpu.lr i) = true)) ∨
      ∃ i < n, x.vcpu.Shows i irq ∧ lrActive (x.vcpu.lr i) = true ∧
        (vgic3Deactivate n who irq x).vcpu.lr = update x.vcpu.lr i 0#64 ∧
        (vgic3Deactivate n who irq x).iface = writeLr x.iface who i 0#64) := by
  unfold vgic3Deactivate
  cases deactivateLr_cases who irq (List.range n) x with
  | inl none =>
    rw [none.1]
    exact ⟨rfl, rfl, .inl ⟨rfl, rfl, fun i below => none.2 i (List.mem_range.mpr below)⟩⟩
  | inr some =>
    obtain ⟨i, member, shows, active, result⟩ := some
    have below := List.mem_range.mp member
    have one := single i below
    rw [active, Bool.and_true] at one
    rw [one, if_neg Bool.false_ne_true] at result
    rw [result]
    exact ⟨rfl, rfl, .inr ⟨i, below, shows, active, rfl, rfl⟩⟩

theorem vgic3Deactivate_untouched
    (inactive : ∀ i ∈ List.range n, ¬ (x.vcpu.Shows i irq ∧ lrActive (x.vcpu.lr i) = true)) :
    (vgic3Deactivate n who irq x).iface = x.iface := by
  show (deactivateLr who irq (List.range n) x).iface = x.iface
  cases deactivateLr_cases who irq (List.range n) x with
  | inl none => rw [none.1]
  | inr some =>
    obtain ⟨i, member, shows, active, _⟩ := some
    exact absurd ⟨shows, active⟩ (inactive i member)

theorem single_clear {vcpu cleared : Vgic3Vcpu} (single : vcpu.Single n)
    (lr : cleared.lr = update vcpu.lr i 0#64) : cleared.Single n := by
  intro j below
  rw [lr]
  by_cases here : j = i
  · rw [here, update_self]
    decide
  · rw [update_of_ne here]
    exact single j below

theorem guestChange_clear (n : Nat) (iface : Iface) (who : VcpuName) (i : Nat) :
    GuestChange n iface (writeLr iface who i 0#64) :=
  .write (writeLr_lr _ _ _ _) (fun valid => absurd valid (by decide)) lrZero_single

theorem Mirrored.clear (mirrored : Mirrored n x) (lr : y.vcpu.lr = update x.vcpu.lr i 0#64)
    (hw : y.iface = writeLr x.iface who i 0#64) :
    Mirrored n y where
  shown := by
    intro j below
    unfold Vgic3Vcpu.Shows
    rw [lr, hw, writeLr_lr]
    by_cases here : j = i
    · rw [here, update_self]
      exact fun valid => absurd valid (by decide)
    · rw [update_of_ne here, update_of_ne here]
      exact mirrored.shown j below
  distinct := by
    have before : ∀ j irq, y.vcpu.Shows j irq → x.vcpu.Shows j irq := by
      intro j irq
      unfold Vgic3Vcpu.Shows
      rw [lr]
      by_cases here : j = i
      · rw [here, update_self]
        exact fun shows => absurd rfl shows.1
      · rw [update_of_ne here]
        exact fun shows => shows
    intro j below k under irq first second
    exact mirrored.distinct j below k under irq (before j irq first) (before k irq second)
  single := by
    rw [hw]
    exact (guestChange_clear n x.iface who i).single mirrored.single

theorem Registers.deactivate (registers : Registers n s) (v : VcpuPtr) (irq : Nat) :
    Registers n (handleDir n s v irq) := by
  unfold handleDir
  cases home : s.home v with
  | none => exact registers
  | some cpu =>
    dsimp only
    split
    · have single : (s.view cpu v).vcpu.Single n := registers.single v
      cases (vgic3Deactivate_cases single (s.name v) irq).2.2 with
      | inl same =>
        apply registers.put home
        · unfold Vgic3Vcpu.Single
          rw [same.1]
          exact single
        · intro mine
          exact (registers.mirrored cpu v mine).congr same.1 (by rw [same.2.1])
        · intro w _ owner
          rw [same.2.1]
          exact registers.mirrored cpu w owner
        · rw [same.2.1]
          exact registers.unowned cpu
      | inr cleared =>
        obtain ⟨i, _, _, _, lr, hw⟩ := cleared
        have change := guestChange_clear n (s.iface cpu) (s.name v) i
        apply registers.put home (single_clear single lr)
        · intro mine
          exact (registers.mirrored cpu v mine).clear lr hw
        · intro w _ owner
          rw [hw]
          exact change.mirrored (registers.mirrored cpu w owner)
        · intro none
          rw [hw]
          exact change.empty (registers.unowned cpu none)
    · exact registers

theorem Registers.create (registers : Registers n s) (slot nrVcpus : Nat) :
    Registers n (vmCreate s slot nrVcpus) := by
  unfold vmCreate
  split
  · exact registers
  · rename_i free
    have unused : s.used slot = false := by
      rw [← Bool.not_eq_true]
      exact fun used => free (.inr used)
    have elsewhere : ∀ v cpu, s.home v = some cpu → v.slot ≠ slot := by
      intro v cpu home same
      have valid := registers.valid v cpu home
      rw [VmmState.valid, same, unused] at valid
      exact Bool.false_ne_true valid
    exact
      { mirrored := by
          intro cpu v owner
          have different := elsewhere v cpu (registers.lives cpu v owner)
          have before := registers.mirrored cpu v owner
          unfold VmmState.view VmmState.vcpu at *
          dsimp only at *
          rw [update_of_ne different]
          exact before
        unowned := registers.unowned
        lives := registers.lives
        guest := registers.guest
        cpus := registers.cpus
        valid := by
          intro v cpu home
          have different := elsewhere v cpu home
          have before := registers.valid v cpu home
          unfold VmmState.valid at *
          dsimp only
          rw [update_of_ne different, update_of_ne different]
          exact before
        single := by
          intro v
          unfold VmmState.vcpu
          dsimp only
          by_cases same : v.slot = slot
          · rw [same, update_self]
            exact fun _ _ => lrZero_single
          · rw [update_of_ne same]
            exact registers.single v }

theorem Registers.start (registers : Registers n s) (valid : s.valid v = true)
    (home : s.home v = none) (small : cpu < 8) :
    Registers n { s with home := update s.home v (some cpu) } := by
  refine registers.same ⟨fun _ => rfl, fun _ => rfl, rfl, rfl⟩ ?_ ?_ ?_
  · intro w c at_home
    have different : w ≠ v := by
      intro same
      rw [same, home] at at_home
      exact absurd at_home.symm (Option.some_ne_none c)
    show update s.home v (some cpu) w = some c
    rw [update_of_ne different]
    exact at_home
  · intro w c at_home
    rcases update_value at_home with ⟨_, ⟨⟩⟩ | ⟨_, at_home⟩
    · exact small
    · exact registers.cpus w c at_home
  · intro w c at_home
    rcases update_value at_home with ⟨rfl, _⟩ | ⟨_, at_home⟩
    · exact valid
    · exact registers.valid w c at_home

theorem Registers.step (registers : Registers n s) (steady : action.steady = true) :
    Registers n (vgicStep n s action) := by
  cases action with
  | create slot nrVcpus => exact registers.create slot nrVcpus
  | destroy | stop | migrate => exact absurd steady Bool.false_ne_true
  | start =>
    unfold vgicStep
    dsimp only
    split
    · rename_i startable
      exact registers.start startable.1 startable.2.1 startable.2.2.2
    · exact registers
  | raise => exact registers.setVgic (vgic3SetPending_mirrors _ _ _)
  | raiseSgi => exact registers.setVgic (vgic3SetSgiPending_mirrors _ _ _ _)
  | enable => exact registers.setVgic (vgic3SetEnabled_mirrors _ _ _ _)
  | enter v => exact registers.enter v
  | acknowledge _ i =>
    unfold vgicStep
    dsimp only
    split
    · exact registers.guestChange (guestAck_change n _ i)
    · exact registers
  | endOfInterrupt _ irq =>
    unfold vgicStep
    dsimp only
    split
    · exact registers.guestChange (guestEoi_change n _ irq)
    · exact registers
  | guestRegisters =>
    unfold vgicStep
    dsimp only
    split
    · exact registers.guestChange ⟨fun _ _ valid => ⟨valid, rfl⟩, fun single => single⟩
    · exact registers
  | exit cpu => exact registers.exit cpu
  | deactivate v irq => exact registers.deactivate v irq

theorem registers_boot (n : Nat) : Registers n .boot where
  mirrored := fun _ v owner => absurd owner.symm (Option.some_ne_none v)
  unowned := fun _ _ _ _ => lrZero_invalid
  lives := fun _ v owner => absurd owner.symm (Option.some_ne_none v)
  guest := fun _ v guest => absurd guest.symm (Option.some_ne_none v)
  cpus := fun _ cpu home => absurd home.symm (Option.some_ne_none cpu)
  valid := fun _ cpu home => absurd home.symm (Option.some_ne_none cpu)
  single := fun _ _ _ => lrZero_single

/-- The runs in which no vCPU is stopped or moved. -/
abbrev SteadyRun (nrLrs : Nat) (actions : List VgicAction) (s : VmmState) : Prop :=
  Run (Guarded (graph (vgicStep (lrCount nrLrs))) fun _ action => action.steady = true)
    .boot actions s

theorem SteadyRun.foldl (more : List VgicAction) {actions : List VgicAction} {s : VmmState}
    (run : SteadyRun nrLrs actions s) (steady : ∀ action ∈ more, action.steady = true) :
    SteadyRun nrLrs (actions ++ more) (more.foldl (vgicStep (lrCount nrLrs)) s) := by
  induction more generalizing actions s with
  | nil =>
    rw [List.append_nil]
    exact run
  | cons action more ih =>
    rw [List.append_cons]
    exact ih (.snoc run ⟨steady action List.mem_cons_self, rfl⟩)
      fun other inside => steady other (List.mem_cons_of_mem _ inside)

/-- A write to `ICC_SGI1R_EL1` is a sequence of steps. -/
theorem SteadyRun.sgi1r (run : SteadyRun nrLrs actions s) (v : VcpuPtr) (val : BitVec 64) :
    ∃ more, SteadyRun nrLrs (actions ++ more) (handleSgi1r s v val) := by
  rw [handleSgi1r_eq_foldl (lrCount nrLrs)]
  refine ⟨_, run.foldl _ fun action inside => ?_⟩
  obtain ⟨_, _, rfl⟩ := List.mem_map.mp inside
  rfl

theorem SteadyRun.registers (run : SteadyRun nrLrs actions s) : Registers (lrCount nrLrs) s :=
  run.guarded (fun _ _ registers steady => registers.step steady) (registers_boot _)

/-- No INTID ever occupies two list registers, and `vmm_vgic3_sync_exit`, for the guest that has
trapped or for the vCPU that loses the registers, leaves a mirror that equals each valid register
and is 0 for each invalid one. -/
theorem list_registers_consistent (nrLrs : Nat) {actions : List VgicAction} {s : VmmState}
    (run : SteadyRun nrLrs actions s) (cpu : Nat) :
    (∀ i < lrCount nrLrs, ∀ j < lrCount nrLrs, lrValid ((s.iface cpu).lr i) = true →
      lrValid ((s.iface cpu).lr j) = true →
      lrVintid ((s.iface cpu).lr i) = lrVintid ((s.iface cpu).lr j) → i = j) ∧
    ∀ v, s.guest cpu = some v ∨ s.owner cpu = some v → ∀ i < lrCount nrLrs,
      (vgic3SyncExit (lrCount nrLrs) (s.view cpu v)).vcpu.lr i =
        if lrValid ((s.iface cpu).lr i) then (s.iface cpu).lr i else 0#64 := by
  have registers := run.registers
  constructor
  · intro i below j under first second same
    cases owner : s.owner cpu with
    | none =>
      exact absurd ((registers.unowned cpu owner i below).symm.trans first) Bool.false_ne_true
    | some v =>
      have mirrored := registers.mirrored cpu v owner
      apply mirrored.distinct i below j under _ (mirrored.shown i below first)
      rw [show lrVintid ((s.view cpu v).iface.lr i) = _ from same]
      exact mirrored.shown j under second
  · intro v synced i below
    have owner : s.owner cpu = some v := by
      cases synced with
      | inl guest => exact registers.guest cpu v guest
      | inr owner => exact owner
    exact (registers.mirrored cpu v owner).settled below

def handledOnce : List VgicAction :=
  [.create 0 1, .start ⟨0, 0⟩ 0, .raiseSgi ⟨0, 0⟩ 0 3, .enter ⟨0, 0⟩, .acknowledge 0 0,
    .endOfInterrupt 0 3, .exit 0]

def pairStarted : VmmState :=
  [VgicAction.create 0 2, .start ⟨0, 0⟩ 0, .start ⟨0, 1⟩ 1].foldl (vgicStep (lrCount 4)) .boot

/-- vCPU 1 sends SGIs 3 and 5 to vCPU 0, which enters, acknowledges the first and traps. -/
def sentTwice : VmmState :=
  [VgicAction.enter ⟨0, 0⟩, .acknowledge 0 0, .exit 0].foldl (vgicStep (lrCount 4))
    (handleSgi1r (handleSgi1r pairStarted ⟨0, 1⟩ 0x3000001) ⟨0, 1⟩ 0x5000001)

theorem list_registers_consistent_handled :
    (lrValid ((sentTwice.iface 0).lr 0) = true ∧ lrValid ((sentTwice.iface 0).lr 1) = true) ∧
    (∀ i < lrCount 4, ∀ j < lrCount 4, lrValid ((sentTwice.iface 0).lr i) = true →
      lrValid ((sentTwice.iface 0).lr j) = true →
      lrVintid ((sentTwice.iface 0).lr i) = lrVintid ((sentTwice.iface 0).lr j) → i = j) ∧
    ∀ i < lrCount 4, (vgic3SyncExit (lrCount 4) (sentTwice.view 0 ⟨0, 0⟩)).vcpu.lr i =
      if lrValid ((sentTwice.iface 0).lr i) then (sentTwice.iface 0).lr i else 0#64 := by
  have booted : SteadyRun 4 [] .boot := .nil
  obtain ⟨_, first⟩ :=
    (booted.foldl [.create 0 2, .start ⟨0, 0⟩ 0, .start ⟨0, 1⟩ 1] (by decide)).sgi1r
    ⟨0, 1⟩ 0x3000001
  obtain ⟨_, second⟩ := first.sgi1r ⟨0, 1⟩ 0x5000001
  have run : SteadyRun 4 _ sentTwice :=
    second.foldl [.enter ⟨0, 0⟩, .acknowledge 0 0, .exit 0] (by decide)
  have consistent := list_registers_consistent 4 run 0
  exact ⟨by decide +kernel, consistent.1, consistent.2 ⟨0, 0⟩ (.inr (by decide +kernel))⟩

/-- The hardware keeps the INTID of a register it has emptied, so the exit of this run leaves mirror
and register different. -/
theorem list_register_left_over :
    ∃ s, SteadyRun 4 handledOnce s ∧ (s.vcpu ⟨0, 0⟩).lr 0 ≠ (s.iface 0).lr 0 := by
  have run : SteadyRun 4 handledOnce (handledOnce.foldl (vgicStep (lrCount 4)) .boot) :=
    run_of_passes (fun _ _ => of_decide_eq_true) (by decide +kernel)
  exact ⟨_, run, by decide +kernel⟩

end AvatarKernel
