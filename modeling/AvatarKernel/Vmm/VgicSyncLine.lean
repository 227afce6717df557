import AvatarKernel.Vmm.VgicLine
import AvatarKernel.Vmm.VgicRegisters

namespace AvatarKernel

open Function

def Iface.carries (iface : Iface) (irq i : Nat) : Bool :=
  lrValid (iface.lr i) && lrVintid (iface.lr i) == irq

def Iface.reg (n : Nat) (iface : Iface) (irq : Nat) : LineReg :=
  match (List.range n).find? (iface.carries irq) with
  | none => .absent
  | some i => if lrActive (iface.lr i) then .active else .pending

/-- No INTID stands in two registers. -/
def Iface.Unique (n : Nat) (iface : Iface) : Prop :=
  ∀ i < n, ∀ j < n, ∀ irq, iface.carries irq i = true → iface.carries irq j = true → i = j

variable {iface : Iface} {irq : Nat}

theorem carries_iff :
    iface.carries irq i = true ↔ lrValid (iface.lr i) = true ∧ lrVintid (iface.lr i) = irq := by
  rw [Iface.carries, Bool.and_eq_true, beq_iff_eq]

variable {n : Nat} {x : LrView}

theorem Mirrored.shows (mirrored : Mirrored n x) (below : i < n)
    (carries : x.iface.carries irq i = true) : x.vcpu.Shows i irq := by
  have found := carries_iff.mp carries
  rw [← found.2]
  exact mirrored.shown i below found.1

theorem Mirrored.unique (mirrored : Mirrored n x) : x.iface.Unique n := by
  intro i below j under irq first second
  exact mirrored.distinct i below j under irq (mirrored.shows below first)
    (mirrored.shows under second)

theorem reg_absent_iff : iface.reg n irq = .absent ↔ ∀ i < n, iface.carries irq i = false := by
  unfold Iface.reg
  cases found : (List.range n).find? (iface.carries irq) with
  | none =>
    have all := List.find?_eq_none.mp found
    simp only [true_iff]
    intro i below
    rw [← Bool.not_eq_true]
    exact all i (List.mem_range.mpr below)
  | some i =>
    have carries := List.find?_some found
    have below := List.mem_range.mp (List.mem_of_find?_eq_some found)
    constructor
    · intro absent
      dsimp only at absent
      split at absent <;> cases absent
    · intro none
      exact absurd ((none i below).symm.trans carries) Bool.false_ne_true

theorem Iface.Unique.reg (unique : iface.Unique n) (below : i < n)
    (carries : iface.carries irq i = true) :
    iface.reg n irq = if lrActive (iface.lr i) then .active else .pending := by
  unfold Iface.reg
  cases found : (List.range n).find? (iface.carries irq) with
  | none => exact absurd carries (List.find?_eq_none.mp found i (List.mem_range.mpr below))
  | some j =>
    have under := List.mem_range.mp (List.mem_of_find?_eq_some found)
    rw [unique i below j under irq carries (List.find?_some found)]

theorem reg_cases (n irq : Nat) (iface : Iface) :
    iface.reg n irq = .absent ∨ ∃ i < n, iface.carries irq i = true ∧
      iface.reg n irq = if lrActive (iface.lr i) then .active else .pending := by
  unfold Iface.reg
  cases found : (List.range n).find? (iface.carries irq) with
  | none => exact .inl rfl
  | some i =>
    exact .inr ⟨i, List.mem_range.mp (List.mem_of_find?_eq_some found), List.find?_some found, rfl⟩

theorem reg_there (there : iface.reg n irq = if active then .active else .pending) :
    ∃ i < n, iface.carries irq i = true ∧ lrActive (iface.lr i) = active := by
  rcases reg_cases n irq iface with absent | ⟨i, below, carries, value⟩
  · rw [absent] at there
    cases active <;> cases there
  · refine ⟨i, below, carries, ?_⟩
    rw [value] at there
    cases active <;> cases hw : lrActive (iface.lr i) <;> simp [hw] at there ⊢

theorem reg_active (active : iface.reg n irq = .active) :
    ∃ i < n, iface.carries irq i = true ∧ lrActive (iface.lr i) = true :=
  reg_there active

theorem reg_pending (pending : iface.reg n irq = .pending) :
    ∃ i < n, iface.carries irq i = true ∧ lrActive (iface.lr i) = false :=
  reg_there pending

theorem reg_update {changed : Iface} {value : BitVec 64}
    (lr : changed.lr = update iface.lr slot value) (before : iface.carries irq slot = false)
    (after : changed.carries irq slot = false) : changed.reg n irq = iface.reg n irq := by
  have same : changed.carries irq = iface.carries irq := by
    funext i
    by_cases here : i = slot
    · rw [here, before, after]
    · unfold Iface.carries
      rw [lr, update_of_ne here]
  unfold Iface.reg
  rw [same]
  cases found : (List.range n).find? (iface.carries irq) with
  | none => rfl
  | some i =>
    have carries := List.find?_some found
    have elsewhere : i ≠ slot := by
      intro here
      rw [here, before] at carries
      exact Bool.false_ne_true carries
    show (if lrActive (changed.lr i) then LineReg.active else .pending) = _
    rw [lr, update_of_ne elsewhere]

def LrView.line (n : Nat) (x : LrView) (irq : Nat) (l : Line) : Line :=
  { l with
    pend := x.vcpu.pending.has irq
    act := x.vcpu.active.has irq
    reg := x.iface.reg n irq }

/-- INTIDs from 16 on. -/
def isLevel (irq : Nat) : Bool := decide (16 ≤ irq)

theorem Mirrored.slot_empty (mirrored : Mirrored n x) (below : slot < n)
    (zero : x.vcpu.lr slot = 0#64) (irq : Nat) : x.iface.carries irq slot = false := by
  rw [← Bool.not_eq_true]
  intro carries
  exact (mirrored.shows below carries).1 zero

theorem Mirrored.absent (mirrored : Mirrored n x) (absent : lrHasIrq n x.vcpu irq = false) :
    x.iface.reg n irq = .absent := by
  rw [reg_absent_iff]
  intro i below
  rw [← Bool.not_eq_true]
  intro carries
  have shows := mirrored.shows below carries
  exact lrHasIrq_eq_false.mp absent i below shows.1 shows.2

theorem Mirrored.queue_reg (mirrored : Mirrored n x)
    (after : Mirrored n (queueLr who slot value x)) (empty : lrEmptySlot n x.vcpu = some slot)
    (vintid : lrVintid value = target) (valid : lrValid value = true) (irq : Nat) :
    (queueLr who slot value x).iface.reg n irq =
      if irq = target then if lrActive value then .active else .pending else x.iface.reg n irq := by
  have room := lrEmptySlot_some empty
  have written : (queueLr who slot value x).iface.lr slot = value := update_self _ _ _
  split
  · rename_i same
    have carries : (queueLr who slot value x).iface.carries irq slot = true := by
      rw [carries_iff, written, same]
      exact ⟨valid, vintid⟩
    rw [after.unique.reg room.1 carries, written]
  · rename_i different
    apply reg_update rfl (mirrored.slot_empty room.1 room.2 irq)
    rw [← Bool.not_eq_true, carries_iff, written, vintid]
    exact fun found => different found.2.symm

/-- What one write of a list register on entry does to a line: nothing, or the register gets the
line's own interrupt, which was in none. -/
theorem queues_cases (mirrored : Mirrored n x) (queued : Queues n vgic who x y) (irq : Nat)
    (l : Line) :
    y.line n irq l = x.line n irq l ∨
      x.iface.reg n irq = .absent ∧
        (x.vcpu.active.has irq = true ∧ y.line n irq l = { x.line n irq l with reg := .active } ∨
          x.vcpu.pending.has irq = true ∧ vgic3Enabled vgic x.vcpu irq = true ∧
            x.vcpu.active.has irq = false ∧
            y.line n irq l = { x.line n irq l with pend := isLevel irq, reg := .pending }) := by
  have after := mirrored.queues queued
  cases queued with
  | @restore target slot small active absent empty =>
    have state := lrRestored_state vgic x.vcpu target
    have vintid : lrVintid (lrSetState (vgic3LrValue vgic x.vcpu target) lrStActive) = target := by
      rw [lrVintid_setState, lrVintid_value vgic x.vcpu small]
    have reg := mirrored.queue_reg after empty vintid (by rw [lrValid, state.2, Bool.or_true]) irq
    rw [state.2] at reg
    unfold LrView.line
    rw [reg]
    split
    · rename_i same
      subst same
      exact .inr ⟨mirrored.absent absent, .inl ⟨active, rfl⟩⟩
    · exact .inl rfl
  | @inject target slot small pending enabled inactive absent empty =>
    obtain ⟨kept, _, lr, iface⟩ :=
      consumeSgi_rest target (queueLr who slot (vgic3LrValue vgic x.vcpu target) x)
    have queue : Mirrored n (queueLr who slot (vgic3LrValue vgic x.vcpu target) x) :=
      after.congr lr.symm (by rw [iface])
    have reg := mirrored.queue_reg queue empty (lrVintid_value vgic x.vcpu small)
      (by rw [lrValid, lrPending_value, Bool.true_or]) irq
    rw [lrActive_value] at reg
    unfold LrView.line
    rw [iface, kept, reg]
    split
    · rename_i same
      subst same
      have consumed : (consumeSgi irq
          (queueLr who slot (vgic3LrValue vgic x.vcpu irq) x)).vcpu.pending.has irq =
            isLevel irq := by
        unfold consumeSgi isLevel
        split
        · show (x.vcpu.pending.clear irq).has irq = _
          rw [IrqBank.has_clear, decide_eq_true rfl, decide_eq_false (by omega)]
          rfl
        · rw [decide_eq_true (by omega)]
          exact pending
      rw [consumed]
      exact .inr ⟨mirrored.absent absent, .inr ⟨pending, enabled, inactive, rfl⟩⟩
    · rename_i different
      rw [consumeSgi_pending target irq _ different]
      exact .inl rfl

theorem queues_line (mirrored : Mirrored n x) (queued : Queues n vgic who x y) (irq : Nat)
    (l : Line) : Line.Steps (isLevel irq) (x.line n irq l) (y.line n irq l) := by
  rcases queues_cases mirrored queued irq l with
    same | ⟨absent, ⟨active, restored⟩ | ⟨pending, _, inactive, injected⟩⟩
  · rw [same]
  · rw [restored]
    exact .single (.restore active absent)
  · rw [injected]
    exact .single (.inject pending inactive absent)

theorem entry_line (mirrored : Mirrored n (reclaimLrs n x)) (vgic : Vgic3) (who : VcpuName)
    (irq : Nat) (l : Line) :
    Line.Steps (isLevel irq) (x.line n irq l) ((vgic3SyncEntry n vgic who x).line n irq l) := by
  have both : Mirrored n (vgic3SyncEntry n vgic who x) ∧
      Line.Steps (isLevel irq) (x.line n irq l) ((vgic3SyncEntry n vgic who x).line n irq l) := by
    apply vgic3SyncEntry_invariant (P := fun y => Mirrored n y ∧
      Line.Steps (isLevel irq) (x.line n irq l) (y.line n irq l)) _ ⟨mirrored, .refl⟩
    intro y z before queued
    exact ⟨before.1.queues queued, before.2.trans (queues_line before.1 queued irq l)⟩
  exact both.2

theorem exit_bits (mirrored : Mirrored n x) (irq : Nat) :
    (x.iface.reg n irq = .active →
      (vgic3SyncExit n x).vcpu.pending.has irq = (x.vcpu.pending.has irq && !isLevel irq) ∧
      (vgic3SyncExit n x).vcpu.active.has irq = true) ∧
    (x.iface.reg n irq = .pending →
      (vgic3SyncExit n x).vcpu.pending.has irq = x.vcpu.pending.has irq ∧
      (vgic3SyncExit n x).vcpu.active.has irq = x.vcpu.active.has irq) ∧
    (x.iface.reg n irq = .absent →
      (vgic3SyncExit n x).vcpu.pending.has irq = x.vcpu.pending.has irq ∧
      ((vgic3SyncExit n x).vcpu.active.has irq = x.vcpu.active.has irq ∨
        (vgic3SyncExit n x).vcpu.active.has irq = false)) := by
  have shownAt : ∀ i < n, x.vcpu.Shows i irq →
      ((vgic3SyncExit n x).vcpu.pending.has irq, (vgic3SyncExit n x).vcpu.active.has irq) =
        settledBits (x.iface.lr i) irq (x.vcpu.pending.has irq) (x.vcpu.active.has irq) :=
    fun i below shows => syncExit_present x.iface x.vcpu mirrored.distinct below shows
  refine ⟨?_, ?_, ?_⟩
  · intro active
    obtain ⟨i, below, carries, hw⟩ := reg_active active
    have bits := shownAt i below (mirrored.shows below carries)
    rw [settledBits_active hw, Prod.mk.injEq] at bits
    have sgi : decide (irq < 16) = !isLevel irq := by
      rw [isLevel, ← decide_not, decide_eq_decide]
      omega
    rw [bits.1, bits.2, sgi]
    exact ⟨rfl, rfl⟩
  · intro pending
    obtain ⟨i, below, carries, hw⟩ := reg_pending pending
    have bits := shownAt i below (mirrored.shows below carries)
    rw [settledBits_pending (carries_iff.mp carries).1 hw, Prod.mk.injEq] at bits
    exact bits
  · intro absent
    by_cases shown : ∃ i < n, x.vcpu.Shows i irq
    · obtain ⟨i, below, shows⟩ := shown
      have invalid : lrValid (x.iface.lr i) = false := by
        rw [← Bool.not_eq_true]
        intro valid
        have carries := carries_iff.mpr ⟨valid, (mirrored.shown i below valid).2.symm.trans shows.2⟩
        exact Bool.false_ne_true ((reg_absent_iff.mp absent i below).symm.trans carries)
      have bits := shownAt i below shows
      rw [settledBits_invalid invalid, Prod.mk.injEq] at bits
      exact ⟨bits.1, .inr bits.2⟩
    · have bits := @syncExit_absent irq x.iface x.vcpu n fun i below shows =>
        shown ⟨i, below, shows⟩
      exact ⟨bits.1, .inl bits.2⟩

theorem exit_line (mirrored : Mirrored n x) (irq : Nat) (l : Line) :
    Line.Steps (isLevel irq) (x.line n irq l) ((vgic3SyncExit n x).line n irq l) := by
  have bits := exit_bits mirrored irq
  have registers : (vgic3SyncExit n x).iface = x.iface := rfl
  unfold LrView.line
  rw [registers]
  cases reg : x.iface.reg n irq with
  | active =>
    rw [(bits.1 reg).1, (bits.1 reg).2]
    exact .single (.record rfl)
  | pending =>
    rw [(bits.2.1 reg).1, (bits.2.1 reg).2]
  | absent =>
    rw [(bits.2.2 reg).1]
    cases (bits.2.2 reg).2 with
    | inl same =>
      rw [same]
    | inr cleared =>
      rw [cleared]
      exact .single (.release rfl)

theorem evacuate_reg (who : VcpuName) (irq : Nat) :
    (evacuateLrs n who x).iface.reg n irq = .absent := by
  rw [reg_absent_iff]
  intro i below
  unfold Iface.carries
  rw [evacuateLrs_empty n who x below, lrZero_invalid, Bool.false_and]

theorem evacuate_active (who : VcpuName) (irq : Nat) :
    (evacuateLrs n who x).vcpu.active.has irq = (vgic3SyncExit n x).vcpu.active.has irq := by
  unfold evacuateLrs
  rw [(returnSgi_rest _ _).2]

theorem evacuate_line (mirrored : Mirrored n x) (who : VcpuName) (irq : Nat) (l : Line) :
    Line.Steps (isLevel irq) (x.line n irq l) ((evacuateLrs n who x).line n irq l) := by
  apply (exit_line mirrored irq l).trans
  unfold LrView.line
  rw [evacuate_reg, evacuate_active]
  apply Relation.ReflTransGen.single
  refine Line.Step.evict (l := (vgic3SyncExit n x).line n irq l) _ ?_ ?_ ?_ ?_
  · intro reg
    exact ((exit_bits mirrored irq).1 reg).2
  · intro level
    exact returnSgi_level _ _ (of_decide_eq_true level)
  · intro pending
    exact returnSgi_mono _ _ pending
  · intro sgi pending
    have pending : x.iface.reg n irq = .pending := pending
    obtain ⟨i, below, carries, hw⟩ := reg_pending pending
    have found := carries_iff.mp carries
    have lr : (vgic3SyncExit n x).vcpu.lr i = x.iface.lr i := by
      rw [mirrored.settled below, shownLr, if_pos found.1]
    have queued : lrPending (x.iface.lr i) = true := by
      have valid := found.1
      rw [lrValid, hw, Bool.or_false] at valid
      exact valid
    apply returnSgi_returned _ _ (List.mem_range.mpr below)
    · show (vgic3SyncExit n x).vcpu.lr i ≠ 0#64 ∧ lrVintid ((vgic3SyncExit n x).vcpu.lr i) = irq
      rw [lr]
      exact ⟨lr_ne_zero_of_valid found.1, found.2⟩
    · have := of_decide_eq_false sgi
      omega
    · rw [lr]
      exact queued
    · rw [lr]
      exact hw

def Settled (n : Nat) (x : LrView) : Prop :=
  ∀ i < n, lrValid (x.iface.lr i) = true → x.vcpu.lr i = x.iface.lr i

theorem Mirrored.settled_exit (mirrored : Mirrored n x) : Settled n (vgic3SyncExit n x) := by
  intro i below valid
  have valid : lrValid (x.iface.lr i) = true := valid
  rw [mirrored.settled below, shownLr, if_pos valid]
  rfl

theorem deactivate_line (mirrored : Mirrored n x) (single : x.vcpu.Single n)
    (settled : Settled n x) (who : VcpuName) (target irq : Nat) (outside : l.inGuest = false) :
    Line.Steps (isLevel irq) (x.line n irq l) ((vgic3Deactivate n who target x).line n irq l) := by
  obtain ⟨pending, active, change⟩ := vgic3Deactivate_cases single who target
  have hwActive : ∀ i < n, x.iface.carries irq i = true → lrActive (x.iface.lr i) = true →
      x.vcpu.Shows i irq ∧ lrActive (x.vcpu.lr i) = true := by
    intro i below carries hw
    refine ⟨mirrored.shows below carries, ?_⟩
    rw [settled i below (carries_iff.mp carries).1]
    exact hw
  unfold LrView.line
  rw [pending, active, IrqBank.has_clear]
  by_cases same : irq = target
  · subst same
    have reg : (vgic3Deactivate n who irq x).iface.reg n irq =
        if x.iface.reg n irq = .active then .absent else x.iface.reg n irq := by
      cases change with
      | inl kept =>
        rw [kept.2.1, if_neg]
        intro reg
        obtain ⟨i, below, carries, hw⟩ := reg_active reg
        exact kept.2.2 i below (hwActive i below carries hw)
      | inr cleared =>
        obtain ⟨i, below, shows, mirrorActive, _, iface⟩ := cleared
        have elsewhere : ∀ j < n, j ≠ i → x.iface.carries irq j = false := by
          intro j under different
          rw [← Bool.not_eq_true]
          intro carries
          exact different
            (mirrored.distinct j under i below irq (mirrored.shows under carries) shows)
        have absent : (vgic3Deactivate n who irq x).iface.reg n irq = .absent := by
          rw [reg_absent_iff, iface]
          intro j under
          unfold Iface.carries
          rw [writeLr_lr]
          by_cases here : j = i
          · rw [here, update_self, lrZero_invalid, Bool.false_and]
          · rw [update_of_ne here]
            exact elsewhere j under here
        rw [absent]
        cases reg : x.iface.reg n irq with
        | absent | active => rfl
        | pending =>
          obtain ⟨j, under, carries, hw⟩ := reg_pending reg
          by_cases here : j = i
          · rw [here] at carries hw
            rw [settled i below (carries_iff.mp carries).1, hw] at mirrorActive
            exact absurd mirrorActive Bool.false_ne_true
          · exact absurd ((elsewhere j under here).symm.trans carries) Bool.false_ne_true
    rw [reg, decide_eq_true rfl]
    exact .single (.deactivate outside)
  · have reg : (vgic3Deactivate n who target x).iface.reg n irq = x.iface.reg n irq := by
      cases change with
      | inl kept => rw [kept.2.1]
      | inr cleared =>
        obtain ⟨i, below, shows, _, _, iface⟩ := cleared
        apply @reg_update x.iface irq n i _ 0#64
        · rw [iface, writeLr_lr]
        · rw [← Bool.not_eq_true]
          intro carries
          exact same ((mirrored.shows below carries).2.symm.trans shows.2)
        · rw [iface, Iface.carries, writeLr_lr, update_self, lrZero_invalid, Bool.false_and]
    rw [reg, decide_eq_false same]
    exact .refl

theorem GuestChange.unique (change : GuestChange n before after) (unique : before.Unique n) :
    after.Unique n := by
  have carried : ∀ i < n, ∀ irq, after.carries irq i = true → before.carries irq i = true := by
    intro i below irq carries
    have found := carries_iff.mp carries
    have kept := change.kept i below found.1
    exact carries_iff.mpr ⟨kept.1, kept.2.symm.trans found.2⟩
  intro i below j under irq first second
  exact unique i below j under irq (carried i below irq first) (carried j under irq second)

/-- The guest takes the interrupt of register `i`. -/
def guestTakes (n : Nat) (iface : Iface) (i : Nat) : Prop :=
  i < n ∧ lrPending (iface.lr i) = true ∧ lrActive (iface.lr i) = false

instance guestTakesDecidable (n : Nat) (iface : Iface) (i : Nat) :
    Decidable (guestTakes n iface i) :=
  inferInstanceAs (Decidable (_ ∧ _))

theorem guestAck_reg (unique : iface.Unique n) (takes : guestTakes n iface i) (irq : Nat) :
    (irq = lrVintid (iface.lr i) → iface.reg n irq = .pending ∧
      (guestAck n iface i).reg n irq = .active) ∧
    (irq ≠ lrVintid (iface.lr i) → (guestAck n iface i).reg n irq = iface.reg n irq) := by
  have valid : lrValid (iface.lr i) = true := by rw [lrValid, takes.2.1, Bool.true_or]
  have acked : guestAck n iface i = iface.guestLr i (lrSetState (iface.lr i) lrStActive) :=
    if_pos takes
  have lr : (guestAck n iface i).lr = update iface.lr i (lrSetState (iface.lr i) lrStActive) := by
    rw [acked]
    rfl
  have now : (guestAck n iface i).lr i = lrSetState (iface.lr i) lrStActive := by
    rw [lr, update_self]
  have active : lrActive ((guestAck n iface i).lr i) = true := by
    rw [now, lrActive_setState]
    decide
  have nowValid : lrValid ((guestAck n iface i).lr i) = true := by
    rw [lrValid, active, Bool.or_true]
  constructor
  · intro same
    have carries := carries_iff.mpr ⟨valid, same.symm⟩
    refine ⟨by rw [unique.reg takes.1 carries, takes.2.2]; rfl, ?_⟩
    have uniqueAfter := (guestAck_change n iface i).unique unique
    have carriesAfter : (guestAck n iface i).carries irq i = true := by
      rw [carries_iff]
      exact ⟨nowValid, by rw [now, lrVintid_setState, same]⟩
    rw [uniqueAfter.reg takes.1 carriesAfter, active]
    rfl
  · intro different
    apply reg_update lr
    · rw [← Bool.not_eq_true, carries_iff]
      exact fun found => different found.2.symm
    · rw [← Bool.not_eq_true, carries_iff, now, lrVintid_setState]
      exact fun found => different found.2.symm

theorem guestEoi_reg (unique : iface.Unique n) (single : iface.Single n) (target irq : Nat) :
    (guestEoi n iface target).reg n irq =
      if irq = target ∧ iface.reg n irq = .active then .absent else iface.reg n irq := by
  unfold guestEoi
  cases found : (List.range n).find? fun i =>
    lrActive (iface.lr i) && lrVintid (iface.lr i) == target with
  | none =>
    have all := List.find?_eq_none.mp found
    rw [if_neg]
    intro ended
    obtain ⟨i, below, carries, hw⟩ := reg_active ended.2
    apply all i (List.mem_range.mpr below)
    rw [hw, Bool.true_and, beq_iff_eq, ← ended.1]
    exact (carries_iff.mp carries).2
  | some i =>
    have below := List.mem_range.mp (List.mem_of_find?_eq_some found)
    have match_ := List.find?_some found
    rw [Bool.and_eq_true, beq_iff_eq] at match_
    obtain ⟨active, vintid⟩ := match_
    have idle : lrPending (iface.lr i) = false := by
      have one := single i below
      rw [active, Bool.and_true] at one
      exact one
    have invalid : lrValid (lrSetState (iface.lr i) 0#2) = false := by
      rw [lrValid, lrPending_setState, lrActive_setState]
      decide
    have carries : iface.carries target i = true :=
      carries_iff.mpr ⟨by rw [lrValid, active, Bool.or_true], vintid⟩
    dsimp only
    rw [idle, if_neg Bool.false_ne_true]
    by_cases same : irq = target
    · subst same
      rw [unique.reg below carries, active, if_pos rfl, if_pos ⟨rfl, rfl⟩, reg_absent_iff]
      intro j under
      unfold Iface.carries Iface.guestLr
      dsimp only
      by_cases here : j = i
      · rw [here, update_self, invalid, Bool.false_and]
      · rw [update_of_ne here, ← Bool.not_eq_true]
        intro other
        exact here (unique j under i below irq other carries)
    · rw [if_neg (fun both => same both.1)]
      apply @reg_update iface irq n i _ (lrSetState (iface.lr i) 0#2) rfl
      · rw [← Bool.not_eq_true, carries_iff]
        exact fun other => same (other.2.symm.trans vintid)
      · unfold Iface.carries Iface.guestLr
        dsimp only
        rw [update_self, invalid, Bool.false_and]

end AvatarKernel
