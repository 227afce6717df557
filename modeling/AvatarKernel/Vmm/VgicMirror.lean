import AvatarKernel.Vmm.Vgic3

namespace AvatarKernel

open Function

def Vgic3Vcpu.Single (n : Nat) (vcpu : Vgic3Vcpu) : Prop :=
  ∀ i < n, (lrPending (vcpu.lr i) && lrActive (vcpu.lr i)) = false

def Iface.Single (n : Nat) (iface : Iface) : Prop :=
  ∀ i < n, (lrPending (iface.lr i) && lrActive (iface.lr i)) = false

theorem lrZero_invalid : lrValid 0#64 = false := by decide

theorem lrZero_single : (lrPending 0#64 && lrActive 0#64) = false := by decide

/-- The mirror of the vCPU that owns the registers shows every valid one, and each INTID once. It
may still show a register that the guest has emptied since. -/
structure Mirrored (n : Nat) (x : LrView) : Prop where
  shown : ∀ i < n, lrValid (x.iface.lr i) = true → x.vcpu.Shows i (lrVintid (x.iface.lr i))
  distinct : x.vcpu.Distinct n
  single : x.iface.Single n

variable {n : Nat}

theorem Mirrored.weaken (mirrored : Mirrored n ⟨vcpu, iface⟩) (single : changed.Single n)
    (kept : ∀ i < n, lrValid (changed.lr i) = true →
      lrValid (iface.lr i) = true ∧ lrVintid (changed.lr i) = lrVintid (iface.lr i)) :
    Mirrored n ⟨vcpu, changed⟩ where
  shown := by
    intro i below valid
    have before := kept i below valid
    rw [before.2]
    exact mirrored.shown i below before.1
  distinct := mirrored.distinct
  single := single

variable {x : LrView}

theorem Mirrored.congr (mirrored : Mirrored n x) (lr : y.vcpu.lr = x.vcpu.lr)
    (hw : y.iface.lr = x.iface.lr) : Mirrored n y where
  shown := by
    intro i below
    unfold Vgic3Vcpu.Shows
    rw [lr, hw]
    exact mirrored.shown i below
  distinct := by
    intro i below j under irq
    unfold Vgic3Vcpu.Shows
    rw [lr]
    exact mirrored.distinct i below j under irq
  single := by
    unfold Iface.Single
    rw [hw]
    exact mirrored.single

theorem Mirrored.reclaim (mirrored : Mirrored n x) : Mirrored n (reclaimLrs n x) where
  shown := by
    intro i below valid
    unfold Vgic3Vcpu.Shows reclaimLrs elrsr
    dsimp only
    rw [if_neg]
    · exact mirrored.shown i below valid
    · intro empty
      rw [show lrValid (x.iface.lr i) = true from valid] at empty
      exact Bool.false_ne_true empty.2
  distinct := by
    intro i below j under irq first second
    apply mirrored.distinct i below j under irq
    · unfold Vgic3Vcpu.Shows reclaimLrs at first
      dsimp only at first
      split at first
      · exact absurd rfl first.1
      · exact first
    · unfold Vgic3Vcpu.Shows reclaimLrs at second
      dsimp only at second
      split at second
      · exact absurd rfl second.1
      · exact second
  single := mirrored.single

theorem mirrored_reclaim_of_empty (empty : ∀ i < n, lrValid (x.iface.lr i) = false) :
    Mirrored n (reclaimLrs n x) where
  shown := by
    intro i below valid
    exact absurd ((empty i below).symm.trans valid) Bool.false_ne_true
  distinct := by
    intro i below j under irq first
    unfold Vgic3Vcpu.Shows reclaimLrs elrsr at first
    dsimp only at first
    rw [empty i below, if_pos ⟨below, rfl⟩] at first
    exact absurd rfl first.1
  single := by
    intro i below
    have invalid := empty i below
    unfold lrValid at invalid
    rw [Bool.or_eq_false_iff] at invalid
    show (lrPending (x.iface.lr i) && _) = false
    rw [invalid.1, Bool.false_and]

theorem Mirrored.queue (mirrored : Mirrored n x) (who : VcpuName)
    (absent : lrHasIrq n x.vcpu irq = false) (vintid : lrVintid value = irq)
    (valid : lrValid value = true) (single : (lrPending value && lrActive value) = false) :
    Mirrored n (queueLr who slot value x) where
  shown := by
    intro i below
    unfold Vgic3Vcpu.Shows queueLr
    rw [setLr_lr, writeLr_lr]
    by_cases here : i = slot
    · subst here
      rw [update_self, update_self]
      exact fun _ => ⟨lr_ne_zero_of_valid valid, rfl⟩
    · rw [update_of_ne here, update_of_ne here]
      exact mirrored.shown i below
  distinct := by
    have unseen := lrHasIrq_eq_false.mp absent
    intro i below j under other first second
    unfold Vgic3Vcpu.Shows queueLr at first second
    rw [setLr_lr] at first second
    by_cases left : i = slot
    · by_cases right : j = slot
      · rw [left, right]
      · rw [left, update_self, vintid] at first
        rw [update_of_ne right] at second
        exact absurd (second.2.trans first.2.symm) (unseen j under second.1)
    · rw [update_of_ne left] at first
      by_cases right : j = slot
      · rw [right, update_self, vintid] at second
        exact absurd (first.2.trans second.2.symm) (unseen i below first.1)
      · rw [update_of_ne right] at second
        exact mirrored.distinct i below j under other first second
  single := by
    intro i below
    unfold queueLr
    rw [writeLr_lr]
    by_cases here : i = slot
    · rw [here, update_self]
      exact single
    · rw [update_of_ne here]
      exact mirrored.single i below

theorem lrRestored_state (vgic : Vgic3) (vcpu : Vgic3Vcpu) (irq : Nat) :
    lrPending (lrSetState (vgic3LrValue vgic vcpu irq) lrStActive) = false ∧
      lrActive (lrSetState (vgic3LrValue vgic vcpu irq) lrStActive) = true := by
  rw [lrPending_setState, lrActive_setState]
  decide

theorem Mirrored.queues (mirrored : Mirrored n x) (queued : Queues n vgic who x y) :
    Mirrored n y := by
  cases queued with
  | @restore irq slot small active absent empty =>
    have state := lrRestored_state vgic x.vcpu irq
    apply mirrored.queue who absent
    · rw [lrVintid_setState, lrVintid_value vgic x.vcpu small]
    · rw [lrValid, state.2, Bool.or_true]
    · rw [state.1, Bool.false_and]
  | @inject irq slot small pending enabled inactive absent empty =>
    have queue : Mirrored n (queueLr who slot (vgic3LrValue vgic x.vcpu irq) x) := by
      apply mirrored.queue who absent (lrVintid_value vgic x.vcpu small)
      · rw [lrValid, lrPending_value, Bool.true_or]
      · rw [lrActive_value, Bool.and_false]
    obtain ⟨_, _, lr, iface⟩ :=
      consumeSgi_rest irq (queueLr who slot (vgic3LrValue vgic x.vcpu irq) x)
    exact queue.congr lr (by rw [iface])

theorem single_queues (single : x.vcpu.Single n) (queued : Queues n vgic who x y) :
    y.vcpu.Single n := by
  have written : ∀ (slot : Nat) (value : BitVec 64), (lrPending value && lrActive value) = false →
      (x.vcpu.setLr slot value).Single n := by
    intro slot value one i below
    rw [setLr_lr]
    by_cases here : i = slot
    · rw [here, update_self]
      exact one
    · rw [update_of_ne here]
      exact single i below
  cases queued with
  | restore =>
    apply written
    rw [(lrRestored_state vgic x.vcpu _).1, Bool.false_and]
  | inject =>
    unfold Vgic3Vcpu.Single
    rw [(consumeSgi_rest _ _).2.2.1]
    apply written
    rw [lrActive_value, Bool.and_false]

theorem Mirrored.entry (mirrored : Mirrored n (reclaimLrs n x)) (vgic : Vgic3) (who : VcpuName) :
    Mirrored n (vgic3SyncEntry n vgic who x) := by
  apply vgic3SyncEntry_invariant _ mirrored
  intro y z before queued
  exact before.queues queued

theorem single_entry (single : x.vcpu.Single n) (vgic : Vgic3) (who : VcpuName) :
    (vgic3SyncEntry n vgic who x).vcpu.Single n := by
  apply vgic3SyncEntry_invariant (P := fun y => y.vcpu.Single n)
  · intro y z before queued
    exact single_queues before queued
  · intro i below
    unfold reclaimLrs
    dsimp only
    split
    · decide
    · exact single i below

/-- What the mirror should hold for a register. -/
def shownLr (hw : BitVec 64) : BitVec 64 := if lrValid hw then hw else 0#64

theorem Mirrored.settled (mirrored : Mirrored n x) (below : i < n) :
    (vgic3SyncExit n x).vcpu.lr i = shownLr (x.iface.lr i) := by
  unfold vgic3SyncExit shownLr
  rw [syncExit_lr, if_pos below, settledLr]
  by_cases zero : x.vcpu.lr i = 0#64
  · rw [if_pos zero]
    cases valid : lrValid (x.iface.lr i) with
    | false => rfl
    | true => exact absurd zero (mirrored.shown i below valid).1
  · rw [if_neg zero]

theorem Mirrored.exit (mirrored : Mirrored n x) : Mirrored n (vgic3SyncExit n x) where
  shown := by
    intro i below valid
    have valid : lrValid (x.iface.lr i) = true := valid
    unfold Vgic3Vcpu.Shows
    rw [mirrored.settled below, shownLr, if_pos valid]
    exact ⟨lr_ne_zero_of_valid valid, rfl⟩
  distinct := by
    have before : ∀ i < n, ∀ irq, (vgic3SyncExit n x).vcpu.Shows i irq → x.vcpu.Shows i irq := by
      intro i below irq
      unfold Vgic3Vcpu.Shows
      rw [mirrored.settled below, shownLr]
      cases valid : lrValid (x.iface.lr i) with
      | false => exact fun shows => absurd rfl shows.1
      | true =>
        intro shows
        rw [← shows.2]
        exact mirrored.shown i below valid
    intro i below j under irq first second
    exact mirrored.distinct i below j under irq (before i below irq first)
      (before j under irq second)
  single := mirrored.single

theorem Mirrored.single_exit (mirrored : Mirrored n x) : (vgic3SyncExit n x).vcpu.Single n := by
  intro i below
  rw [mirrored.settled below, shownLr]
  split
  · exact mirrored.single i below
  · decide

end AvatarKernel
