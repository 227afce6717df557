import Mathlib.Algebra.GroupWithZero.Nat
import Mathlib.Data.List.Nodup
import Mathlib.Data.List.Range

namespace AvatarKernel

open Function

/-- One bit for each INTID, 32 to a word. -/
abbrev IrqBank := Nat → BitVec 32

def irqBit (irq : Nat) : BitVec 32 := BitVec.twoPow 32 (irq % 32)

def IrqBank.has (bank : IrqBank) (irq : Nat) : Bool := (bank (irq / 32)).getLsbD (irq % 32)

def IrqBank.set (bank : IrqBank) (irq : Nat) : IrqBank :=
  update bank (irq / 32) (bank (irq / 32) ||| irqBit irq)

def IrqBank.clear (bank : IrqBank) (irq : Nat) : IrqBank :=
  update bank (irq / 32) (bank (irq / 32) &&& ~~~ irqBit irq)

theorem irqBit_getLsbD (irq k : Nat) (below : k < 32) :
    (irqBit irq).getLsbD k = decide (irq % 32 = k) := by
  simp [irqBit, below, eq_comm]

theorem IrqBank.has_set (bank : IrqBank) (irq other : Nat) :
    (bank.set irq).has other = (decide (other = irq) || bank.has other) := by
  unfold IrqBank.has IrqBank.set
  have below : other % 32 < 32 := Nat.mod_lt _ (by decide)
  by_cases word : other / 32 = irq / 32
  · rw [word, update_self, BitVec.getLsbD_or, irqBit_getLsbD _ _ below, Bool.or_comm]
    congr 1
    rw [decide_eq_decide]
    omega
  · have different : other ≠ irq := fun same => word (congrArg (· / 32) same)
    rw [update_of_ne word, decide_eq_false different, Bool.false_or]

theorem IrqBank.has_clear (bank : IrqBank) (irq other : Nat) :
    (bank.clear irq).has other = (!decide (other = irq) && bank.has other) := by
  unfold IrqBank.has IrqBank.clear
  have below : other % 32 < 32 := Nat.mod_lt _ (by decide)
  by_cases word : other / 32 = irq / 32
  · rw [word, update_self, BitVec.getLsbD_and, BitVec.getLsbD_not,
      irqBit_getLsbD _ _ below, decide_eq_true below, Bool.true_and, Bool.and_comm]
    congr 2
    rw [decide_eq_decide]
    omega
  · have different : other ≠ irq := fun same => word (congrArg (· / 32) same)
    rw [update_of_ne word, decide_eq_false different, Bool.not_false, Bool.true_and]

def irqsOf (word : Nat) (bits : BitVec 32) : List Nat :=
  ((List.range 32).filter fun k => bits.getLsbD k).map (word * 32 + ·)

variable {irq : Nat}

theorem mem_irqsOf {word : Nat} :
    irq ∈ irqsOf word bits ↔ irq / 32 = word ∧ bits.getLsbD (irq % 32) = true := by
  simp only [irqsOf, List.mem_map, List.mem_filter, List.mem_range]
  constructor
  · intro found
    obtain ⟨k, ⟨below, set⟩, same⟩ := found
    have quotient : irq / 32 = word := by omega
    have remainder : irq % 32 = k := by omega
    exact ⟨quotient, remainder ▸ set⟩
  · intro found
    exact ⟨irq % 32, ⟨Nat.mod_lt _ (by decide), found.2⟩, by omega⟩

def lrVintid (lr : BitVec 64) : Nat := (lr.setWidth 32).toNat

/-- `lr_state(lr) & ICH_LR_ST_PENDING` -/
def lrPending (lr : BitVec 64) : Bool := lr.getLsbD 62

/-- `lr_state(lr) & ICH_LR_ST_ACTIVE` -/
def lrActive (lr : BitVec 64) : Bool := lr.getLsbD 63

/-- The State field is not `ICH_LR_ST_INVALID`. -/
def lrValid (lr : BitVec 64) : Bool := lrPending lr || lrActive lr

def lrSetState (lr : BitVec 64) (state : BitVec 2) : BitVec 64 :=
  (lr &&& ~~~ (3#64 <<< 62)) ||| (state.setWidth 64 <<< 62)

def lrStPending : BitVec 2 := 1
def lrStActive : BitVec 2 := 2

theorem lrVintid_setState (lr : BitVec 64) (state : BitVec 2) :
    lrVintid (lrSetState lr state) = lrVintid lr := by
  unfold lrVintid lrSetState
  congr 1
  have low : (~~~ (3#64 <<< 62)).setWidth 32 = BitVec.allOnes 32 := by decide
  apply BitVec.eq_of_getLsbD_eq
  intro k below
  rw [BitVec.setWidth_or, BitVec.setWidth_and, low, BitVec.and_allOnes]
  simp [below]

theorem lrPending_setState (lr : BitVec 64) (state : BitVec 2) :
    lrPending (lrSetState lr state) = state.getLsbD 0 := by
  simp [lrPending, lrSetState]

theorem lrActive_setState (lr : BitVec 64) (state : BitVec 2) :
    lrActive (lrSetState lr state) = state.getLsbD 1 := by
  simp [lrActive, lrSetState]

theorem lr_ne_zero_of_valid (valid : lrValid lr = true) : lr ≠ 0#64 := by
  intro zero
  rw [zero] at valid
  exact absurd valid (by decide)

/-- The per-vCPU part of `vgic3_t`. Word 0 of `pending` and `active` is `pending0` and `active0`,
the others are the vCPU's rows of `spi_pending` and `spi_active`. `lr` mirrors the list registers, 0
for an empty one. -/
structure Vgic3Vcpu where
  enabled0 : BitVec 32
  pending : IrqBank
  active : IrqBank
  sgiSources : Nat → BitVec 16
  prio0 : Nat → BitVec 8
  lr : Nat → BitVec 64
  ichVmcr : BitVec 64
  ichAp1r0 : BitVec 64

structure Vgic3 where
  nrVcpus : Nat
  enabled : Nat → BitVec 32
  distRegs : Nat → BitVec 8
  vcpu : Nat → Vgic3Vcpu

/-- A vCPU in one use of its VM slot: the slots are reused, and `gen` counts the uses. -/
structure VcpuName where
  slot : Nat
  id : Nat
  gen : Nat
deriving DecidableEq

/-- The virtual CPU interface of a physical CPU. `holder` and `trespass` are history: for whom each
list register was written last, and whether a valid one was overwritten for another vCPU. -/
structure Iface where
  lr : Nat → BitVec 64
  vmcr : BitVec 64
  ap1r0 : BitVec 64
  holder : Nat → VcpuName
  trespass : Bool

/-- `gicv3_write_lr`, for the vCPU `who`. -/
def writeLr (iface : Iface) (who : VcpuName) (i : Nat) (value : BitVec 64) : Iface :=
  { iface with
    lr := update iface.lr i value
    holder := update iface.holder i who
    trespass := iface.trespass || (lrValid (iface.lr i) && decide (iface.holder i ≠ who)) }

def elrsr (iface : Iface) (i : Nat) : Bool := !lrValid (iface.lr i)

/-- `_gicv3.nr_lrs` cut off at `VGIC3_MAX_LRS`. -/
def lrCount (nrLrs : Nat) : Nat := if nrLrs > 16 then 16 else nrLrs

def vgic3LrValue (vgic : Vgic3) (vcpu : Vgic3Vcpu) (irq : Nat) : BitVec 64 :=
  let prio := if irq < 32 then vcpu.prio0 irq
    else if irq < 0x10000 - 0x400 then vgic.distRegs (0x400 + irq) else 0xA0
  lrStPending.setWidth 64 <<< 62 ||| 1#64 <<< 60 ||| prio.setWidth 64 <<< 48 |||
    (BitVec.ofNat 64 irq &&& 0xffffffff#64)

variable (n : Nat) (vgic : Vgic3)

theorem lrVintid_value (vcpu : Vgic3Vcpu) (small : irq < 1024) :
    lrVintid (vgic3LrValue vgic vcpu irq) = irq := by
  unfold lrVintid vgic3LrValue
  generalize (if irq < 32 then vcpu.prio0 irq
    else if irq < 0x10000 - 0x400 then vgic.distRegs (0x400 + irq) else 0xA0) = prio
  have word : (lrStPending.setWidth 64 <<< 62 ||| 1#64 <<< 60 ||| prio.setWidth 64 <<< 48 |||
      (BitVec.ofNat 64 irq &&& 0xffffffff#64)).setWidth 32 = BitVec.ofNat 32 irq := by
    have low : (0xffffffff#64).setWidth 32 = BitVec.allOnes 32 := by decide
    rw [BitVec.setWidth_or, BitVec.setWidth_and, low, BitVec.and_allOnes]
    apply BitVec.eq_of_getLsbD_eq
    intro k below
    simp [below]
  rw [word, BitVec.toNat_ofNat, Nat.mod_eq_of_lt (by omega)]

theorem lrPending_value (vcpu : Vgic3Vcpu) (irq : Nat) :
    lrPending (vgic3LrValue vgic vcpu irq) = true := by
  unfold lrPending vgic3LrValue
  simp [lrStPending]

theorem lrActive_value (vcpu : Vgic3Vcpu) (irq : Nat) :
    lrActive (vgic3LrValue vgic vcpu irq) = false := by
  unfold lrActive vgic3LrValue
  simp [lrStPending]

def lrHasIrq (n : Nat) (vcpu : Vgic3Vcpu) (irq : Nat) : Bool :=
  (List.range n).any fun i => vcpu.lr i != 0#64 && lrVintid (vcpu.lr i) == irq

def lrEmptySlot (n : Nat) (vcpu : Vgic3Vcpu) : Option Nat :=
  (List.range n).find? fun i => vcpu.lr i == 0#64

def Vgic3.validVcpu (vgic : Vgic3) (vcpuId : Nat) : Bool := vcpuId < vgic.nrVcpus

def Vgic3.modify (vgic : Vgic3) (vcpuId : Nat) (change : Vgic3Vcpu → Vgic3Vcpu) : Vgic3 :=
  { vgic with vcpu := update vgic.vcpu vcpuId (change (vgic.vcpu vcpuId)) }

/-- `vmm_vgic3_set_sgi_pending` -/
def vgic3SetSgiPending (vgic : Vgic3) (vcpuId sourceVcpu irq : Nat) : Vgic3 :=
  if !vgic.validVcpu vcpuId || 16 ≤ irq then vgic
  else
    let sourceVcpu := if 12 ≤ sourceVcpu then 0 else sourceVcpu
    vgic.modify vcpuId fun vcpu =>
      { vcpu with
        sgiSources := update vcpu.sgiSources irq
          (vcpu.sgiSources irq ||| BitVec.twoPow 16 sourceVcpu)
        pending := vcpu.pending.set irq }

def vgic3SetPending (vgic : Vgic3) (vcpuId irq : Nat) : Vgic3 :=
  if 1024 ≤ irq || !vgic.validVcpu vcpuId then vgic
  else if irq < 16 then vgic3SetSgiPending vgic vcpuId 0 irq
  else vgic.modify vcpuId fun vcpu => { vcpu with pending := vcpu.pending.set irq }

def vgic3SetEnabled (vgic : Vgic3) (vcpuId irq : Nat) (enabled : Bool) : Vgic3 :=
  if 1024 ≤ irq || irq < 16 then vgic
  else if irq < 32 then
    if !vgic.validVcpu vcpuId then vgic
    else vgic.modify vcpuId fun vcpu =>
      { vcpu with enabled0 :=
          if enabled then vcpu.enabled0 ||| irqBit irq else vcpu.enabled0 &&& ~~~ irqBit irq }
  else
    { vgic with enabled :=
        if enabled then IrqBank.set vgic.enabled irq else IrqBank.clear vgic.enabled irq }

/-- `vmm_vgic3_enabled_word`, for a valid vCPU. -/
def vgic3EnabledWord (vgic : Vgic3) (vcpu : Vgic3Vcpu) (word : Nat) : BitVec 32 :=
  if word = 0 then vcpu.enabled0 ||| 0xffff#32 else vgic.enabled word

def clearPending (vcpu : Vgic3Vcpu) (irq : Nat) : Vgic3Vcpu :=
  { vcpu with
    pending := vcpu.pending.clear irq
    sgiSources := if irq < 16 then update vcpu.sgiSources irq 0 else vcpu.sgiSources }

def Vgic3Vcpu.setLr (vcpu : Vgic3Vcpu) (i : Nat) (value : BitVec 64) : Vgic3Vcpu :=
  { vcpu with lr := update vcpu.lr i value }

/-- A vCPU's software state with the interface of the CPU it works on. -/
structure LrView where
  vcpu : Vgic3Vcpu
  iface : Iface

def deactivateLr (who : VcpuName) (irq : Nat) : List Nat → LrView → LrView
  | [], x => x
  | i :: rest, x =>
    let lr := x.vcpu.lr i
    if lr = 0#64 ∨ lrVintid lr ≠ irq ∨ !lrActive lr then deactivateLr who irq rest x
    else if lrPending lr then
      let lr := lrSetState lr lrStPending
      { vcpu := { x.vcpu with pending := x.vcpu.pending.set irq }.setLr i lr
        iface := writeLr x.iface who i lr }
    else
      { vcpu := x.vcpu.setLr i 0#64
        iface := writeLr x.iface who i 0#64 }

/-- `vmm_vgic3_deactivate`, for a valid vCPU and INTID: `clear_active` ends both of its ways. -/
def vgic3Deactivate (n : Nat) (who : VcpuName) (irq : Nat) (x : LrView) : LrView :=
  let x := deactivateLr who irq (List.range n) x
  { x with vcpu := { x.vcpu with active := x.vcpu.active.clear irq } }

def recordAck (vcpu : Vgic3Vcpu) (irq : Nat) : Vgic3Vcpu :=
  let vcpu := if 16 ≤ irq then clearPending vcpu irq else vcpu
  { vcpu with active := vcpu.active.set irq }

/-- One register in `vmm_vgic3_sync_exit`. -/
def syncExitLr (iface : Iface) (vcpu : Vgic3Vcpu) (i : Nat) : Vgic3Vcpu :=
  let prev := vcpu.lr i
  let irq := lrVintid prev
  if prev = 0#64 then vcpu
  else if elrsr iface i then { vcpu with active := vcpu.active.clear irq }.setLr i 0#64
  else (if lrActive (iface.lr i) then recordAck vcpu irq else vcpu).setLr i (iface.lr i)

/-- `vmm_vgic3_sync_exit`, for a valid vCPU. -/
def vgic3SyncExit (n : Nat) (x : LrView) : LrView :=
  { x with vcpu := (List.range n).foldl (syncExitLr x.iface) x.vcpu }

def reclaimLrs (n : Nat) (x : LrView) : LrView :=
  { x with
    vcpu := { x.vcpu with
      lr := fun i => if i < n ∧ elrsr x.iface i then 0#64 else x.vcpu.lr i } }

def queueLr (who : VcpuName) (slot : Nat) (value : BitVec 64) (x : LrView) : LrView :=
  { vcpu := x.vcpu.setLr slot value
    iface := writeLr x.iface who slot value }

/-- The inner loop of step 1b. Without a slot it ends for this word only. -/
def restoreActive (n : Nat) (vgic : Vgic3) (who : VcpuName) : List Nat → LrView → LrView
  | [], x => x
  | irq :: rest, x =>
    if lrHasIrq n x.vcpu irq then restoreActive n vgic who rest x
    else
      match lrEmptySlot n x.vcpu with
      | none => x
      | some slot =>
        restoreActive n vgic who rest
          (queueLr who slot (lrSetState (vgic3LrValue vgic x.vcpu irq) lrStActive) x)

/-- Step 1b: the active interrupts that the registers have lost. -/
def restoreWords (n : Nat) (vgic : Vgic3) (who : VcpuName) (words : List Nat) (x : LrView) :
    LrView :=
  words.foldl (fun x word => restoreActive n vgic who (irqsOf word (x.vcpu.active word)) x) x

def consumeSgi (irq : Nat) (x : LrView) : LrView :=
  if irq < 16 then { x with vcpu := clearPending x.vcpu irq } else x

def injectReady (n : Nat) (vgic : Vgic3) (who : VcpuName) : List Nat → LrView → LrView × Bool
  | [], x => (x, true)
  | irq :: rest, x =>
    if lrHasIrq n x.vcpu irq then injectReady n vgic who rest x
    else
      match lrEmptySlot n x.vcpu with
      | none => (x, false)
      | some slot =>
        injectReady n vgic who rest
          (consumeSgi irq (queueLr who slot (vgic3LrValue vgic x.vcpu irq) x))

/-- `pending & enabled & ~active` of one word -/
def readyWord (vgic : Vgic3) (vcpu : Vgic3Vcpu) (word : Nat) : BitVec 32 :=
  vcpu.pending word &&& vgic3EnabledWord vgic vcpu word &&& ~~~ vcpu.active word

/-- Step 2: the interrupts that can be delivered. -/
def injectWords (n : Nat) (vgic : Vgic3) (who : VcpuName) : List Nat → LrView → LrView
  | [], x => x
  | word :: words, x =>
    let r := injectReady n vgic who (irqsOf word (readyWord vgic x.vcpu word)) x
    if r.2 then injectWords n vgic who words r.1 else r.1

/-- `vmm_vgic3_sync_entry`, for a valid vCPU. -/
def vgic3SyncEntry (n : Nat) (vgic : Vgic3) (who : VcpuName) (x : LrView) : LrView :=
  injectWords n vgic who (List.range 32) (restoreWords n vgic who (List.range 32) (reclaimLrs n x))

theorem lrHasIrq_eq_false {n : Nat} {vcpu : Vgic3Vcpu} :
    lrHasIrq n vcpu irq = false ↔ ∀ i < n, vcpu.lr i ≠ 0#64 → lrVintid (vcpu.lr i) ≠ irq := by
  simp [lrHasIrq]

theorem lrEmptySlot_some {n slot : Nat} {vcpu : Vgic3Vcpu}
    (found : lrEmptySlot n vcpu = some slot) :
    slot < n ∧ vcpu.lr slot = 0#64 := by
  have member := List.mem_of_find?_eq_some found
  have empty := List.find?_some found
  exact ⟨List.mem_range.mp member, by simpa using empty⟩

def vgic3Enabled (vgic : Vgic3) (vcpu : Vgic3Vcpu) (irq : Nat) : Bool :=
  (vgic3EnabledWord vgic vcpu (irq / 32)).getLsbD (irq % 32)

inductive Queues (n : Nat) (vgic : Vgic3) (who : VcpuName) : LrView → LrView → Prop
  | restore {x : LrView} {irq slot : Nat} (small : irq < 1024)
      (active : x.vcpu.active.has irq = true) (absent : lrHasIrq n x.vcpu irq = false)
      (empty : lrEmptySlot n x.vcpu = some slot) :
      Queues n vgic who x
        (queueLr who slot (lrSetState (vgic3LrValue vgic x.vcpu irq) lrStActive) x)
  | inject {x : LrView} {irq slot : Nat} (small : irq < 1024)
      (pending : x.vcpu.pending.has irq = true) (enabled : vgic3Enabled vgic x.vcpu irq = true)
      (inactive : x.vcpu.active.has irq = false) (absent : lrHasIrq n x.vcpu irq = false)
      (empty : lrEmptySlot n x.vcpu = some slot) :
      Queues n vgic who x (consumeSgi irq (queueLr who slot (vgic3LrValue vgic x.vcpu irq) x))

abbrev QueuesAll (n : Nat) (vgic : Vgic3) (who : VcpuName) : LrView → LrView → Prop :=
  Relation.ReflTransGen (Queues n vgic who)

theorem restoreActive_queues (who : VcpuName) (irqs : List Nat) (x : LrView)
    (active : ∀ irq ∈ irqs, irq < 1024 ∧ x.vcpu.active.has irq = true) :
    QueuesAll n vgic who x (restoreActive n vgic who irqs x) := by
  induction irqs generalizing x with
  | nil => exact .refl
  | cons irq _ ih =>
    rw [restoreActive]
    have first := active irq List.mem_cons_self
    have others := fun other member => active other (List.mem_cons_of_mem irq member)
    cases absent : lrHasIrq n x.vcpu irq with
    | true => exact ih x others
    | false =>
      cases empty : lrEmptySlot n x.vcpu with
      | none => exact .refl
      | some => exact .head (.restore first.1 first.2 absent empty) (ih _ others)

theorem restoreWords_queues (who : VcpuName) (words : List Nat) (x : LrView)
    (below : ∀ word ∈ words, word < 32) :
    QueuesAll n vgic who x (restoreWords n vgic who words x) := by
  induction words generalizing x with
  | nil => exact .refl
  | cons word _ ih =>
    have small := below word List.mem_cons_self
    have first := restoreActive_queues n vgic who (irqsOf word (x.vcpu.active word)) x (by
      intro irq member
      have found := mem_irqsOf.mp member
      exact ⟨by omega, by rw [IrqBank.has, found.1]; exact found.2⟩)
    exact first.trans (ih _ fun other member => below other (List.mem_cons_of_mem word member))

theorem irqsOf_nodup (word : Nat) (bits : BitVec 32) : (irqsOf word bits).Nodup := by
  apply List.Nodup.map
  · intro a b same
    exact Nat.add_left_cancel same
  · exact List.nodup_range.filter _

theorem consumeSgi_pending (irq other : Nat) (x : LrView) (different : other ≠ irq) :
    (consumeSgi irq x).vcpu.pending.has other = x.vcpu.pending.has other := by
  unfold consumeSgi
  split
  · show (x.vcpu.pending.clear irq).has other = _
    rw [IrqBank.has_clear, decide_eq_false different, Bool.not_false, Bool.true_and]
  · rfl

theorem consumeSgi_rest (irq : Nat) (x : LrView) :
    (consumeSgi irq x).vcpu.active = x.vcpu.active ∧
    (consumeSgi irq x).vcpu.enabled0 = x.vcpu.enabled0 ∧
      (consumeSgi irq x).vcpu.lr = x.vcpu.lr ∧ (consumeSgi irq x).iface = x.iface := by
  unfold consumeSgi
  split <;> exact ⟨rfl, rfl, rfl, rfl⟩

def Deliverable (vgic : Vgic3) (x : LrView) (irq : Nat) : Prop :=
  irq < 1024 ∧ x.vcpu.pending.has irq = true ∧ vgic3Enabled vgic x.vcpu irq = true ∧
    x.vcpu.active.has irq = false

theorem Deliverable.after (ready : Deliverable vgic x other) (who : VcpuName) (slot : Nat)
    (value : BitVec 64) (different : other ≠ irq) :
    Deliverable vgic (consumeSgi irq (queueLr who slot value x)) other := by
  unfold Deliverable vgic3Enabled vgic3EnabledWord
  obtain ⟨active, enabled0, _⟩ := consumeSgi_rest irq (queueLr who slot value x)
  rw [consumeSgi_pending _ _ _ different, enabled0, active]
  exact ready

theorem injectReady_queues (who : VcpuName) (irqs : List Nat) (x : LrView)
    (ready : ∀ irq ∈ irqs, Deliverable vgic x irq) (nodup : irqs.Nodup) :
    QueuesAll n vgic who x (injectReady n vgic who irqs x).1 := by
  induction irqs generalizing x with
  | nil => exact .refl
  | cons irq _ ih =>
    rw [injectReady]
    obtain ⟨small, pending, enabled, inactive⟩ := ready irq List.mem_cons_self
    have apart := (List.nodup_cons.mp nodup).1
    have others := fun other member => ready other (List.mem_cons_of_mem irq member)
    cases absent : lrHasIrq n x.vcpu irq with
    | true => exact ih x others (List.nodup_cons.mp nodup).2
    | false =>
      cases empty : lrEmptySlot n x.vcpu with
      | none => exact .refl
      | some =>
        apply Relation.ReflTransGen.head (.inject small pending enabled inactive absent empty)
        apply ih _ _ (List.nodup_cons.mp nodup).2
        intro other member
        apply (others other member).after
        intro same
        exact apart (same ▸ member)

theorem injectWords_queues (who : VcpuName) (words : List Nat) (x : LrView)
    (below : ∀ word ∈ words, word < 32) :
    QueuesAll n vgic who x (injectWords n vgic who words x) := by
  induction words generalizing x with
  | nil => exact .refl
  | cons word _ ih =>
    have small := below word List.mem_cons_self
    have first := injectReady_queues n vgic who (irqsOf word (readyWord vgic x.vcpu word)) x (by
      intro irq member
      have found := mem_irqsOf.mp member
      have ready := found.2
      rw [readyWord, BitVec.getLsbD_and, BitVec.getLsbD_and, BitVec.getLsbD_not, ← found.1,
        Bool.and_eq_true, Bool.and_eq_true, Bool.and_eq_true, Bool.not_eq_true'] at ready
      exact ⟨by omega, ready.1.1, ready.1.2, ready.2.2⟩) (irqsOf_nodup _ _)
    rw [injectWords]
    split
    · exact first.trans (ih _ fun other member => below other (List.mem_cons_of_mem word member))
    · exact first

theorem vgic3SyncEntry_queues (who : VcpuName) (x : LrView) :
    QueuesAll n vgic who (reclaimLrs n x) (vgic3SyncEntry n vgic who x) :=
  (restoreWords_queues n vgic who _ _ fun _ member => List.mem_range.mp member).trans
    (injectWords_queues n vgic who _ _ fun _ member => List.mem_range.mp member)

theorem vgic3SyncEntry_invariant {n : Nat} {vgic : Vgic3} {who : VcpuName} {x : LrView}
    {P : LrView → Prop} (keep : ∀ y z, P y → Queues n vgic who y z → P z)
    (start : P (reclaimLrs n x)) :
    P (vgic3SyncEntry n vgic who x) := by
  have queues := vgic3SyncEntry_queues n vgic who x
  generalize vgic3SyncEntry n vgic who x = y at queues
  induction queues with
  | refl => exact start
  | tail _ queued ih => exact keep _ _ ih queued

def returnSgi (vcpu : Vgic3Vcpu) (i : Nat) : Vgic3Vcpu :=
  let lr := vcpu.lr i
  let irq := lrVintid lr
  if lr ≠ 0#64 ∧ irq < 16 ∧ lrPending lr ∧ !lrActive lr then
    { vcpu with pending := vcpu.pending.set irq }
  else vcpu

/-- `gicv3_write_lr(i, 0)` for every register -/
def clearLrs (n : Nat) (who : VcpuName) (iface : Iface) : Iface :=
  (List.range n).foldl (fun iface i => writeLr iface who i 0#64) iface

/-- What `vmm_vgic3_lr_switch_in` does for the vCPU that owned the registers before. -/
def evacuateLrs (n : Nat) (who : VcpuName) (x : LrView) : LrView :=
  let x := vgic3SyncExit n x
  let vcpu := { x.vcpu with ichVmcr := x.iface.vmcr, ichAp1r0 := x.iface.ap1r0 }
  { vcpu := (List.range n).foldl returnSgi vcpu
    iface := clearLrs n who x.iface }

def Vgic3Vcpu.Shows (vcpu : Vgic3Vcpu) (i irq : Nat) : Prop :=
  vcpu.lr i ≠ 0#64 ∧ lrVintid (vcpu.lr i) = irq

/-- No INTID stands in two registers of the mirror. -/
def Vgic3Vcpu.Distinct (n : Nat) (vcpu : Vgic3Vcpu) : Prop :=
  ∀ i < n, ∀ j < n, ∀ irq, vcpu.Shows i irq → vcpu.Shows j irq → i = j

/-- A mirror slot after `vmm_vgic3_sync_exit`. -/
def settledLr (mirror hw : BitVec 64) : BitVec 64 :=
  if mirror = 0#64 then 0#64 else if lrValid hw then hw else 0#64

variable (vcpu : Vgic3Vcpu)

@[simp] theorem setLr_lr (i : Nat) (value : BitVec 64) :
    (vcpu.setLr i value).lr = update vcpu.lr i value := rfl

@[simp] theorem setLr_pending (i : Nat) (value : BitVec 64) :
    (vcpu.setLr i value).pending = vcpu.pending := rfl

@[simp] theorem setLr_active (i : Nat) (value : BitVec 64) :
    (vcpu.setLr i value).active = vcpu.active := rfl

@[simp] theorem recordAck_fields (irq : Nat) :
    (recordAck vcpu irq).lr = vcpu.lr ∧ (recordAck vcpu irq).active = vcpu.active.set irq ∧
      (recordAck vcpu irq).pending = if 16 ≤ irq then vcpu.pending.clear irq else vcpu.pending := by
  unfold recordAck
  split <;> exact ⟨rfl, rfl, rfl⟩

theorem foldl_rewrites {step : σ → Nat → σ} {slot : σ → Nat → α} (value : Nat → α → α)
    (rewrites : ∀ s k, slot (step s k) = update (slot s) k (value k (slot s k))) (s : σ)
    (k i : Nat) :
    slot ((List.range k).foldl step s) i = if i < k then value i (slot s i) else slot s i := by
  induction k with
  | zero => rfl
  | succ k ih =>
    rw [List.range_succ, List.foldl_concat, rewrites]
    by_cases last : i = k
    · subst last
      simp [ih]
    · have same : i < k + 1 ↔ i < k := by omega
      simp only [update_of_ne last, ih, same]

variable (iface : Iface)

theorem syncExitLr_lr (vcpu : Vgic3Vcpu) (i : Nat) :
    (syncExitLr iface vcpu i).lr = update vcpu.lr i (settledLr (vcpu.lr i) (iface.lr i)) := by
  unfold syncExitLr settledLr elrsr
  by_cases zero : vcpu.lr i = 0#64
  · rw [if_pos zero, if_pos zero, ← zero, update_eq_self]
  · rw [if_neg zero, if_neg zero]
    cases lrValid (iface.lr i) with
    | false => rfl
    | true => cases lrActive (iface.lr i) <;> simp

theorem syncExit_lr (vcpu : Vgic3Vcpu) (k i : Nat) :
    ((List.range k).foldl (syncExitLr iface) vcpu).lr i =
      if i < k then settledLr (vcpu.lr i) (iface.lr i) else vcpu.lr i :=
  foldl_rewrites (fun j mirror => settledLr mirror (iface.lr j)) (syncExitLr_lr iface) vcpu k i

/-- The pending and the active bit of an INTID after `vmm_vgic3_sync_exit`, from the register in
which the mirror shows it. -/
def settledBits (hw : BitVec 64) (irq : Nat) (pending active : Bool) : Bool × Bool :=
  if !lrValid hw then (pending, false)
  else if lrActive hw then (pending && decide (irq < 16), true)
  else (pending, active)

theorem settledBits_invalid (invalid : lrValid hw = false) (irq : Nat) (pending active : Bool) :
    settledBits hw irq pending active = (pending, false) := by
  rw [settledBits, invalid]
  rfl

theorem settledBits_active (acked : lrActive hw = true) (irq : Nat) (pending active : Bool) :
    settledBits hw irq pending active = (pending && decide (irq < 16), true) := by
  rw [settledBits, lrValid, acked, Bool.or_true]
  rfl

theorem settledBits_pending (valid : lrValid hw = true) (idle : lrActive hw = false) (irq : Nat)
    (pending active : Bool) : settledBits hw irq pending active = (pending, active) := by
  rw [settledBits, valid, idle]
  rfl

theorem syncExitLr_other (vcpu : Vgic3Vcpu) {i : Nat} (absent : ¬ vcpu.Shows i irq) :
    (syncExitLr iface vcpu i).pending.has irq = vcpu.pending.has irq ∧
      (syncExitLr iface vcpu i).active.has irq = vcpu.active.has irq := by
  unfold syncExitLr
  by_cases zero : vcpu.lr i = 0#64
  · rw [if_pos zero]
    exact ⟨rfl, rfl⟩
  · have different : irq ≠ lrVintid (vcpu.lr i) := fun same => absent ⟨zero, same.symm⟩
    rw [if_neg zero]
    cases elrsr iface i with
    | true => simp [IrqBank.has_clear, different]
    | false =>
      cases lrActive (iface.lr i) with
      | false => simp
      | true =>
        by_cases level : 16 ≤ lrVintid (vcpu.lr i) <;>
          simp [level, IrqBank.has_clear, IrqBank.has_set, different]

theorem syncExitLr_same (vcpu : Vgic3Vcpu) {i : Nat} (shows : vcpu.Shows i irq) :
    ((syncExitLr iface vcpu i).pending.has irq, (syncExitLr iface vcpu i).active.has irq) =
      settledBits (iface.lr i) irq (vcpu.pending.has irq) (vcpu.active.has irq) := by
  unfold syncExitLr settledBits elrsr
  rw [if_neg shows.1, shows.2]
  cases lrValid (iface.lr i) with
  | false => simp [IrqBank.has_clear]
  | true =>
    cases lrActive (iface.lr i) with
    | false => simp
    | true =>
      by_cases level : 16 ≤ irq
      · simp [level, IrqBank.has_clear, IrqBank.has_set]
      · simp [level, IrqBank.has_set, show irq < 16 by omega]

theorem syncExit_absent (vcpu : Vgic3Vcpu) {k : Nat} (absent : ∀ i < k, ¬ vcpu.Shows i irq) :
    ((List.range k).foldl (syncExitLr iface) vcpu).pending.has irq = vcpu.pending.has irq ∧
      ((List.range k).foldl (syncExitLr iface) vcpu).active.has irq = vcpu.active.has irq := by
  induction k with
  | zero => exact ⟨rfl, rfl⟩
  | succ k ih =>
    rw [List.range_succ, List.foldl_concat]
    have before := ih fun i below => absent i (by omega)
    have untouched : ¬ ((List.range k).foldl (syncExitLr iface) vcpu).Shows k irq := by
      unfold Vgic3Vcpu.Shows
      rw [syncExit_lr, if_neg (Nat.lt_irrefl k)]
      exact absent k (Nat.lt_succ_self k)
    have step := syncExitLr_other iface _ untouched
    exact ⟨step.1.trans before.1, step.2.trans before.2⟩

theorem syncExit_present (vcpu : Vgic3Vcpu) {k i : Nat} (distinct : vcpu.Distinct k) (below : i < k)
    (shows : vcpu.Shows i irq) :
    (((List.range k).foldl (syncExitLr iface) vcpu).pending.has irq,
        ((List.range k).foldl (syncExitLr iface) vcpu).active.has irq) =
      settledBits (iface.lr i) irq (vcpu.pending.has irq) (vcpu.active.has irq) := by
  induction k with
  | zero => omega
  | succ k ih =>
    rw [List.range_succ, List.foldl_concat]
    have lastLr : ((List.range k).foldl (syncExitLr iface) vcpu).lr k = vcpu.lr k := by
      rw [syncExit_lr, if_neg (Nat.lt_irrefl k)]
    by_cases last : i = k
    · subst last
      have before := @syncExit_absent irq iface vcpu i fun j lower shown =>
        absurd (distinct j (by omega) i below irq shown shows) (by omega)
      rw [syncExitLr_same iface _ (by unfold Vgic3Vcpu.Shows; rw [lastLr]; exact shows), before.1,
        before.2]
    · have lower : i < k := by omega
      have restricted : vcpu.Distinct k := fun a la b lb => distinct a (by omega) b (by omega)
      have other : ¬ ((List.range k).foldl (syncExitLr iface) vcpu).Shows k irq := by
        unfold Vgic3Vcpu.Shows
        rw [lastLr]
        intro shown
        exact last (distinct i below k (Nat.lt_succ_self k) irq shows shown)
      have step := syncExitLr_other iface _ other
      rw [step.1, step.2]
      exact ih restricted lower

variable (who : VcpuName)

@[simp] theorem writeLr_lr (i : Nat) (value : BitVec 64) :
    (writeLr iface who i value).lr = update iface.lr i value := rfl

@[simp] theorem writeLr_holder (i : Nat) (value : BitVec 64) :
    (writeLr iface who i value).holder = update iface.holder i who := rfl

theorem clearLrs_succ (iface : Iface) :
    clearLrs (n + 1) who iface = writeLr (clearLrs n who iface) who n 0#64 := by
  rw [clearLrs, List.range_succ, List.foldl_append]
  rfl

theorem clearLrs_lr (iface : Iface) (i : Nat) :
    (clearLrs n who iface).lr i = if i < n then 0#64 else iface.lr i :=
  foldl_rewrites (fun _ _ => 0#64) (fun iface k => writeLr_lr iface who k 0#64) iface n i

theorem clearLrs_holder (iface : Iface) (i : Nat) :
    (clearLrs n who iface).holder i = if i < n then who else iface.holder i :=
  foldl_rewrites (fun _ _ => who) (fun iface k => writeLr_holder iface who k 0#64) iface n i

theorem writeLr_trespass (i : Nat) (value : BitVec 64)
    (held : lrValid (iface.lr i) = true → iface.holder i = who) :
    (writeLr iface who i value).trespass = iface.trespass := by
  show (iface.trespass || _) = _
  cases valid : lrValid (iface.lr i) with
  | false => rw [Bool.false_and, Bool.or_false]
  | true => rw [held valid, decide_eq_false (fun different => different rfl), Bool.and_false,
      Bool.or_false]

theorem clearLrs_trespass (iface : Iface)
    (held : ∀ i < n, lrValid (iface.lr i) = true → iface.holder i = who) :
    (clearLrs n who iface).trespass = iface.trespass := by
  induction n with
  | zero => rfl
  | succ n ih =>
    rw [clearLrs_succ, writeLr_trespass, ih fun i below => held i (by omega)]
    rw [clearLrs_lr, clearLrs_holder, if_neg (Nat.lt_irrefl n), if_neg (Nat.lt_irrefl n)]
    exact held n (Nat.lt_succ_self n)

variable (slots : List Nat)

theorem returnSgi_rest :
    (slots.foldl returnSgi vcpu).lr = vcpu.lr ∧
    (slots.foldl returnSgi vcpu).active = vcpu.active := by
  induction slots generalizing vcpu with
  | nil => exact ⟨rfl, rfl⟩
  | cons _ _ ih =>
    rw [List.foldl_cons, (ih _).1, (ih _).2]
    unfold returnSgi
    dsimp only
    split <;> exact ⟨rfl, rfl⟩

theorem returnSgi_mono (pending : vcpu.pending.has irq = true) :
    (slots.foldl returnSgi vcpu).pending.has irq = true := by
  induction slots generalizing vcpu with
  | nil => exact pending
  | cons _ _ ih =>
    apply ih
    unfold returnSgi
    dsimp only
    split
    · rw [IrqBank.has_set, pending, Bool.or_true]
    · exact pending

theorem returnSgi_level (level : 16 ≤ irq) :
    (slots.foldl returnSgi vcpu).pending.has irq = vcpu.pending.has irq := by
  induction slots generalizing vcpu with
  | nil => rfl
  | cons i _ ih =>
    rw [List.foldl_cons, ih]
    unfold returnSgi
    dsimp only
    split
    · have different : irq ≠ lrVintid (vcpu.lr i) := by omega
      rw [IrqBank.has_set, decide_eq_false different, Bool.false_or]
    · rfl

theorem returnSgi_returned (member : i ∈ slots) (shows : vcpu.Shows i irq) (sgi : irq < 16)
    (pending : lrPending (vcpu.lr i) = true) (inactive : lrActive (vcpu.lr i) = false) :
    (slots.foldl returnSgi vcpu).pending.has irq = true := by
  induction slots generalizing vcpu with
  | nil => exact absurd member List.not_mem_nil
  | cons first _ ih =>
    rw [List.foldl_cons]
    have lr : (returnSgi vcpu first).lr = vcpu.lr := (returnSgi_rest vcpu [first]).1
    cases List.mem_cons.mp member with
    | inl here =>
      apply returnSgi_mono
      subst here
      unfold returnSgi
      rw [if_pos ⟨shows.1, shows.2 ▸ sgi, pending, by rw [inactive]; rfl⟩]
      rw [shows.2, IrqBank.has_set, decide_eq_true rfl, Bool.true_or]
    | inr later =>
      apply ih _ later
      · unfold Vgic3Vcpu.Shows
        rw [lr]
        exact shows
      · rw [lr]
        exact pending
      · rw [lr]
        exact inactive

theorem deactivateLr_cases (irq : Nat) (slots : List Nat) (x : LrView) :
    (deactivateLr who irq slots x = x ∧
        ∀ i ∈ slots, ¬ (x.vcpu.Shows i irq ∧ lrActive (x.vcpu.lr i) = true)) ∨
      ∃ i ∈ slots, x.vcpu.Shows i irq ∧ lrActive (x.vcpu.lr i) = true ∧
        deactivateLr who irq slots x =
          if lrPending (x.vcpu.lr i) then
            { vcpu := { x.vcpu with pending := x.vcpu.pending.set irq }.setLr i
                (lrSetState (x.vcpu.lr i) lrStPending)
              iface := writeLr x.iface who i (lrSetState (x.vcpu.lr i) lrStPending) }
          else { vcpu := x.vcpu.setLr i 0#64, iface := writeLr x.iface who i 0#64 } := by
  induction slots with
  | nil => exact .inl ⟨rfl, fun _ member => absurd member List.not_mem_nil⟩
  | cons first _ ih =>
    rw [deactivateLr]
    by_cases here : x.vcpu.Shows first irq ∧ lrActive (x.vcpu.lr first) = true
    · apply Or.inr
      refine ⟨first, List.mem_cons_self, here.1, here.2, ?_⟩
      rw [if_neg]
      intro other
      rcases other with zero | different | inactive
      · exact here.1.1 zero
      · exact different here.1.2
      · rw [here.2] at inactive
        exact absurd inactive (by decide)
    · have passed : x.vcpu.lr first = 0#64 ∨ lrVintid (x.vcpu.lr first) ≠ irq ∨
          (!lrActive (x.vcpu.lr first)) = true := by
        by_contra none
        apply here
        refine ⟨⟨fun zero => none (.inl zero), ?_⟩, ?_⟩
        · by_contra different
          exact none (.inr (.inl different))
        · by_contra inactive
          exact none (.inr (.inr (by simpa using inactive)))
      rw [if_pos passed]
      cases ih with
      | inl all =>
        refine .inl ⟨all.1, ?_⟩
        intro i member
        cases List.mem_cons.mp member with
        | inl same => exact same ▸ here
        | inr later => exact all.2 i later
      | inr some =>
        obtain ⟨i, member, rest⟩ := some
        exact .inr ⟨i, List.mem_cons_of_mem first member, rest⟩

end AvatarKernel
