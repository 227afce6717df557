import AvatarKernel.Lib.Transition
import Mathlib.Logic.Function.Iterate

namespace AvatarKernel

open Function Transition

/-- Where the task of a hart is. `trapped` lies between the guest's exit and the locked part of
`vmm_arch_save_guest_ctx`; `checking` and `rechecking` are the two calls of `vcpu_wfi_has_work`, by
the number of conditions read. -/
inductive HartPc where
  | offline
  | host
  | guest
  | trapped
  | saved
  | checking (read : Nat)
  | resetting
  | marking
  | rechecking (read : Nat)
  | backing
  | sleeping
  | woken
  deriving DecidableEq

/-- A RISC-V `vcpu_t` with `hvip.VSSIP` of its CPU and `done` of its `wfi_wake`. `toKick` counts the
tasks that have set a flag for the hart and not yet read `in_wfi`, `toWake` those that read it set
and have not completed `wfi_wake`. The rest is history: an IPI from before the last entry is not
cleared yet (`seen`), one was sent since (`fresh`), and how many (`sends`). -/
structure RvHart where
  pc : HartPc
  bsp : Bool
  ipiPending : Bool
  ipiSeq : Nat
  ipiSeqAtEntry : Nat
  ipiInjected : Bool
  remoteFence : BitVec 32
  inWfi : Bool
  done : Bool
  vssip : Bool
  toKick : Nat
  toWake : Nat
  seen : Bool
  fresh : Bool
  sends : Nat

/-- Whether the condition number `read` of `vcpu_wfi_has_work` holds. What the timer, the console
and the vPLIC say comes from outside. -/
def RvHart.workAt (x : RvHart) (stop : Bool) (read : Nat) (external : Bool) : Bool :=
  match read with
  | 1 => x.ipiPending
  | 2 => x.remoteFence != 0#32
  | 3 => stop
  | _ => external

def wfiConditions : Nat := 5

inductive HartAction where
  | sendIpi
  | requestFence (req : BitVec 32)
  | kickRead
  | kickComplete
  | tick
  | enter
  | guestClear
  | guestSet
  | trap
  | save
  | handle (wfi : Bool)
  | wfiRead (external : Bool)
  | wfiReset
  | wfiMark
  | wfiUnmark
  | wake
  | leave

/-- The locked part of `sbi_send_ipi_to`. -/
def RvHart.sendIpi (x : RvHart) : RvHart :=
  { x with
    ipiPending := true
    ipiSeq := (x.ipiSeq + 1) % 2 ^ 64
    toKick := x.toKick + 1
    fresh := true
    sends := x.sends + 1 }

/-- `vmm_arch_restore_guest_ctx` with `vcpu_remote_fence_on_entry` and
`vcpu_software_irq_on_entry`. -/
def RvHart.enter (x : RvHart) : RvHart :=
  { x with
    pc := .guest
    remoteFence := 0#32
    vssip := x.ipiPending
    ipiSeqAtEntry := x.ipiSeq
    ipiInjected := x.ipiPending
    seen := x.seen || x.fresh
    fresh := false
    sends := 0 }

/-- `vmm_arch_save_guest_ctx` -/
def RvHart.save (x : RvHart) : RvHart :=
  { x with
    pc := .saved
    ipiPending :=
      if x.ipiInjected && x.ipiSeq == x.ipiSeqAtEntry && !x.vssip then false else x.ipiPending
    ipiInjected := false }

/-- One condition of `vcpu_wfi_has_work` is read. -/
def RvHart.wfiRead (x : RvHart) (stop external : Bool) : RvHart :=
  match x.pc with
  | .checking read =>
    if x.workAt stop read external then { x with pc := .host }
    else if read + 1 < wfiConditions then { x with pc := .checking (read + 1) }
    else { x with pc := .resetting }
  | .rechecking read =>
    if x.workAt stop read external then { x with pc := .backing }
    else if read + 1 < wfiConditions then { x with pc := .rechecking (read + 1) }
    else { x with pc := .sleeping }
  | _ => x

/-- One step of a hart, of its guest or of another task on its fields. An action that cannot be
taken leaves the hart as it is. -/
def RvHart.next (stop : Bool) (x : RvHart) : HartAction → RvHart
  | .sendIpi => x.sendIpi
  | .requestFence req => { x with remoteFence := x.remoteFence ||| req, toKick := x.toKick + 1 }
  | .kickRead =>
    if x.toKick = 0 then x
    else { x with toKick := x.toKick - 1, toWake := if x.inWfi then x.toWake + 1 else x.toWake }
  | .kickComplete => if x.toWake = 0 then x else { x with toWake := x.toWake - 1, done := true }
  | .tick => { x with toWake := if x.inWfi then x.toWake + 1 else x.toWake }
  | .enter => if x.pc = .host then x.enter else x
  | .guestClear => if x.pc = .guest then { x with vssip := false, seen := false } else x
  | .guestSet => if x.pc = .guest then { x with vssip := true } else x
  | .trap => if x.pc = .guest then { x with pc := .trapped } else x
  | .save => if x.pc = .trapped then x.save else x
  | .handle wfi =>
    if x.pc = .saved then { x with vssip := false, pc := if wfi then .checking 0 else .host } else x
  | .wfiRead external => x.wfiRead stop external
  | .wfiReset => if x.pc = .resetting then { x with done := false, pc := .marking } else x
  | .wfiMark => if x.pc = .marking then { x with inWfi := true, pc := .rechecking 0 } else x
  | .wfiUnmark =>
    if x.pc = .backing then { x with inWfi := false, pc := .host }
    else if x.pc = .woken then
      { x with inWfi := false, pc := if x.bsp then .host else .checking 0 }
    else x
  | .wake => if x.pc = .sleeping ∧ x.done = true then { x with pc := .woken } else x
  | .leave => if x.pc = .host ∧ stop = true then { x with pc := .offline } else x

/-- The harts of a guest and `stop_req`. -/
structure RvVm where
  nr : Nat
  stopReq : Bool
  hart : Nat → RvHart

inductive RvAction where
  | hart (h : Nat) (action : HartAction)
  | requestStop

def RvVm.next (vm : RvVm) : RvAction → RvVm
  | .hart h action =>
    if h < vm.nr then
      { vm with hart := update vm.hart h ((vm.hart h).next vm.stopReq action) }
    else vm
  | .requestStop =>
    { vm with
      stopReq := true
      hart := fun h => { vm.hart h with toKick := (vm.hart h).toKick + 1 } }

def RvHart.start (online bsp : Bool) : RvHart where
  pc := if online then .host else .offline
  bsp := bsp
  ipiPending := false
  ipiSeq := 0
  ipiSeqAtEntry := 0
  ipiInjected := false
  remoteFence := 0#32
  inWfi := false
  done := false
  vssip := false
  toKick := 0
  toWake := 0
  seen := false
  fresh := false
  sends := 0

def RvVm.start (nr : Nat) (online : Nat → Bool) : RvVm :=
  ⟨nr, false, fun h => .start (online h) (h == 0)⟩

/-- An IPI that the guest has not cleared, in a run entered after it was sent, is on record. -/
def RvHart.Recorded (x : RvHart) : Prop :=
  (x.seen = true ∨ x.fresh = true) →
    x.ipiPending = true ∨ ((x.pc = .guest ∨ x.pc = .trapped) ∧ x.vssip = true)

/-- A hart that sleeps on a completion that is not done, with something to do, is about to be woken:
it shows `in_wfi`, and some task has set a flag for it and has not finished its kick. -/
def RvHart.Attended (x : RvHart) (stop : Bool) : Prop :=
  x.pc = .sleeping → x.done = false → (x.ipiPending = true ∨ x.remoteFence ≠ 0#32 ∨ stop = true) →
      x.inWfi = true ∧ 0 < x.toKick + x.toWake

def HartPc.inRun (pc : HartPc) : Prop := pc = .guest ∨ pc = .trapped

/-- The fields in and out of a guest run. During a run nothing takes the record away, and the
sequence number has moved on by the IPIs sent. -/
structure RvHart.Ledger (x : RvHart) : Prop where
  fresh : x.fresh = true → x.ipiPending = true ∧ (x.pc.inRun → 0 < x.sends)
  seen : x.seen = true → x.ipiPending = true ∧ (x.pc.inRun → x.vssip = true)
  seq : x.pc.inRun → x.ipiSeq = (x.ipiSeqAtEntry + x.sends) % 2 ^ 64
  few : x.pc.inRun → x.sends < 2 ^ 64
  word : x.ipiSeq < 2 ^ 64 ∧ x.ipiSeqAtEntry < 2 ^ 64

def RvHart.sendGuard (x : RvHart) : HartAction → Prop
  | .sendIpi => x.pc.inRun → x.sends + 1 < 2 ^ 64
  | _ => True

variable {x : RvHart}

theorem RvHart.Ledger.recorded (inv : x.Ledger) : x.Recorded := by
  intro owed
  rcases owed with seen | fresh
  · exact .inl (inv.seen seen).1
  · exact .inl (inv.fresh fresh).1

theorem ledger_start (online bsp : Bool) : (RvHart.start online bsp).Ledger := by
  have outside : ¬ (RvHart.start online bsp).pc.inRun := by
    cases online <;> simp [RvHart.start, HartPc.inRun]
  exact ⟨by simp [RvHart.start], by simp [RvHart.start], fun run => absurd run outside,
    fun run => absurd run outside, by simp [RvHart.start]⟩

namespace RvHart

theorem Ledger.keep {y : RvHart} (inv : x.Ledger)
    (run : y.pc.inRun → x.pc.inRun ∧ (x.vssip = true → y.vssip = true)) (fresh : y.fresh = x.fresh)
    (seen : y.seen = x.seen) (pending : y.ipiPending = x.ipiPending) (sends : y.sends = x.sends)
    (seq : y.ipiSeq = x.ipiSeq) (entry : y.ipiSeqAtEntry = x.ipiSeqAtEntry) : y.Ledger where
  fresh := by
    rw [fresh, pending, sends]
    exact fun owed => ⟨(inv.fresh owed).1, fun inside => (inv.fresh owed).2 (run inside).1⟩
  seen := by
    rw [seen, pending]
    intro owed
    exact ⟨(inv.seen owed).1, fun inside => (run inside).2 ((inv.seen owed).2 (run inside).1)⟩
  seq := by
    rw [seq, entry, sends]
    exact fun inside => inv.seq (run inside).1
  few := by
    rw [sends]
    exact fun inside => inv.few (run inside).1
  word := by
    rw [seq, entry]
    exact inv.word

theorem Ledger.sendIpi (inv : x.Ledger) (few : x.pc.inRun → x.sends + 1 < 2 ^ 64) :
    x.sendIpi.Ledger where
  fresh := fun _ => ⟨rfl, fun _ => Nat.succ_pos _⟩
  seen := fun owed => ⟨rfl, (inv.seen owed).2⟩
  seq := by
    intro inside
    have before := inv.seq inside
    simp only [RvHart.sendIpi]
    omega
  few := few
  word := ⟨Nat.mod_lt _ (by decide), inv.word.2⟩

theorem Ledger.enter (inv : x.Ledger) : x.enter.Ledger where
  fresh := fun owed => by cases owed
  seen := by
    intro owed
    have pending : x.ipiPending = true := by
      rcases Bool.or_eq_true_iff.mp owed with seen | fresh
      · exact (inv.seen seen).1
      · exact (inv.fresh fresh).1
    exact ⟨pending, fun _ => pending⟩
  seq := by
    intro _
    have word := inv.word.1
    simp only [RvHart.enter, Nat.add_zero]
    omega
  few := fun _ => Nat.two_pow_pos 64
  word := ⟨inv.word.1, inv.word.1⟩

theorem Ledger.save (inv : x.Ledger) (trapped : x.pc = .trapped) : x.save.Ledger := by
  have inside : x.pc.inRun := .inr trapped
  have outside : ¬ x.save.pc.inRun := by simp [RvHart.save, HartPc.inRun]
  have kept : x.seen = true ∨ x.fresh = true → x.save.ipiPending = true := by
    intro owed
    show (if x.ipiInjected && x.ipiSeq == x.ipiSeqAtEntry && !x.vssip then false
      else x.ipiPending) = true
    rcases owed with seen | fresh
    · have visible := (inv.seen seen).2 inside
      rw [if_neg (by simp [visible])]
      exact (inv.seen seen).1
    · have sent := (inv.fresh fresh).2 inside
      have seq := inv.seq inside
      have few := inv.few inside
      have moved : (x.ipiSeq == x.ipiSeqAtEntry) = false := by
        simp only [beq_eq_false_iff_ne, ne_eq]
        omega
      rw [if_neg (by simp [moved])]
      exact (inv.fresh fresh).1
  exact ⟨fun owed => ⟨kept (.inr owed), fun run => absurd run outside⟩,
    fun owed => ⟨kept (.inl owed), fun run => absurd run outside⟩, fun run => absurd run outside,
    fun run => absurd run outside, inv.word⟩

theorem Ledger.wfiRead (inv : x.Ledger) (stop external : Bool) :
    (x.wfiRead stop external).Ledger := by
  unfold RvHart.wfiRead
  split
  · repeat' split
    all_goals exact inv.keep (by simp [HartPc.inRun]) rfl rfl rfl rfl rfl rfl
  · repeat' split
    all_goals exact inv.keep (by simp [HartPc.inRun]) rfl rfl rfl rfl rfl rfl
  · exact inv

theorem Ledger.step (inv : x.Ledger) (stop : Bool) {action : HartAction}
    (guard : x.sendGuard action) : (x.next stop action).Ledger := by
  have same : x.pc.inRun → x.pc.inRun ∧ (x.vssip = true → x.vssip = true) := fun run => ⟨run, id⟩
  cases action with
  | sendIpi => exact inv.sendIpi guard
  | requestFence | tick => exact inv.keep same rfl rfl rfl rfl rfl rfl
  | kickRead | kickComplete =>
    simp only [next]
    split
    · exact inv
    · exact inv.keep same rfl rfl rfl rfl rfl rfl
  | enter =>
    simp only [next]
    split
    · exact inv.enter
    · exact inv
  | guestClear =>
    simp only [next]
    split
    · exact ⟨inv.fresh, by simp, inv.seq, inv.few, inv.word⟩
    · exact inv
  | guestSet =>
    simp only [next]
    split
    · exact inv.keep (fun run => ⟨run, fun _ => rfl⟩) rfl rfl rfl rfl rfl rfl
    · exact inv
  | trap =>
    simp only [next]
    split
    · rename_i guest
      exact inv.keep (fun _ => ⟨.inl guest, id⟩) rfl rfl rfl rfl rfl rfl
    · exact inv
  | save =>
    simp only [next]
    split
    · rename_i trapped
      exact inv.save trapped
    · exact inv
  | handle wfi =>
    simp only [next]
    split
    · refine inv.keep ?_ rfl rfl rfl rfl rfl rfl
      cases wfi <;> simp [HartPc.inRun]
    · exact inv
  | wfiRead external => exact inv.wfiRead stop external
  | wfiReset | wfiMark | wake | leave =>
    simp only [next]
    split
    · exact inv.keep (by simp [HartPc.inRun]) rfl rfl rfl rfl rfl rfl
    · exact inv
  | wfiUnmark =>
    simp only [next]
    split
    · exact inv.keep (by simp [HartPc.inRun]) rfl rfl rfl rfl rfl rfl
    · split
      · refine inv.keep ?_ rfl rfl rfl rfl rfl rfl
        cases x.bsp <;> simp [HartPc.inRun]
      · exact inv

end RvHart

def HartPc.passed : HartPc → Nat
  | .rechecking read => read
  | .sleeping => wfiConditions
  | _ => 0

/-- From the second call on `in_wfi` is set, and a flag that it has already read as clear cannot be
set without a kick that is still to come or has completed `wfi_wake`. -/
structure RvHart.Watch (x : RvHart) (stop : Bool) : Prop where
  marked : (∃ read, x.pc = .rechecking read) ∨ x.pc = .sleeping → x.inWfi = true
  missed : (1 < x.pc.passed ∧ x.ipiPending = true) ∨ (2 < x.pc.passed ∧ x.remoteFence ≠ 0#32) ∨
      (3 < x.pc.passed ∧ stop = true) → x.done = true ∨ 0 < x.toKick + x.toWake

variable {stop : Bool}

theorem RvHart.Watch.attended (inv : x.Watch stop) : x.Attended stop := by
  intro asleep notDone work
  have passed : x.pc.passed = 5 := by rw [asleep]; rfl
  have woken := inv.missed (by rw [passed]; simpa using work)
  rw [notDone] at woken
  exact ⟨inv.marked (.inr asleep), by simpa using woken⟩

theorem watch_start (online bsp : Bool) : (RvHart.start online bsp).Watch false := by
  cases online <;> constructor <;> simp [RvHart.start, HartPc.passed]

namespace RvHart

theorem Watch.idle (rechecking : ∀ read, x.pc ≠ .rechecking read)
    (sleeping : x.pc ≠ .sleeping) : x.Watch stop := by
  have none : x.pc.passed = 0 := by
    unfold HartPc.passed
    split
    · rename_i read at_
      exact absurd at_ (rechecking read)
    · rename_i asleep
      exact absurd asleep sleeping
    · rfl
  constructor
  · rintro (⟨read, here⟩ | here)
    · exact absurd here (rechecking read)
    · exact absurd here sleeping
  · rw [none]
    simp

theorem Watch.kicked {y : RvHart} (inv : x.Watch stop) (pc : y.pc = x.pc)
    (wfi : y.inWfi = x.inWfi) (more : 0 < y.toKick + y.toWake) : y.Watch stop' := by
  constructor
  · rw [pc, wfi]
    exact inv.marked
  · exact fun _ => .inr more

theorem Watch.kickRead (inv : x.Watch stop) : (x.next stop .kickRead).Watch stop := by
  simp only [next]
  split
  · exact inv
  · -- With `in_wfi` clear the second call has not begun; with it set the kick goes on to complete.
    cases wfi : x.inWfi with
    | false =>
      apply Watch.idle
      · intro read here
        have marked := inv.marked (.inl ⟨read, here⟩)
        rw [wfi] at marked
        cases marked
      · intro here
        have marked := inv.marked (.inr here)
        rw [wfi] at marked
        cases marked
    | true =>
      refine inv.kicked rfl wfi.symm ?_
      simp only [if_true]
      omega

theorem Watch.wfiRead (inv : x.Watch stop) (external : Bool) :
    (x.wfiRead stop external).Watch stop := by
  unfold RvHart.wfiRead
  split
  · repeat' split
    all_goals exact Watch.idle (by simp) (by simp)
  · rename_i read here
    have missed := inv.missed
    rw [here] at missed
    simp only [HartPc.passed] at missed
    have marked : x.inWfi = true := inv.marked (.inl ⟨read, here⟩)
    split
    · exact Watch.idle (by simp) (by simp)
    · rename_i nothing
      -- The condition just read was false, so a flag that is set now is one read before.
      have now : ¬ (read = 1 ∧ x.ipiPending = true) ∧ ¬ (read = 2 ∧ x.remoteFence ≠ 0#32) ∧
          ¬ (read = 3 ∧ stop = true) := by
        refine ⟨?_, ?_, ?_⟩
        all_goals
          rintro ⟨rfl, work⟩
          apply nothing
          simp [workAt, work]
      split
      · constructor
        · exact fun _ => marked
        · rintro (⟨passed, flag⟩ | ⟨passed, flag⟩ | ⟨passed, flag⟩)
          · have before : 1 < read := by
              have : read ≠ 1 := fun eq => now.1 ⟨eq, flag⟩
              simp only [HartPc.passed] at passed
              omega
            exact missed (.inl ⟨before, flag⟩)
          · have before : 2 < read := by
              have : read ≠ 2 := fun eq => now.2.1 ⟨eq, flag⟩
              simp only [HartPc.passed] at passed
              omega
            exact missed (.inr (.inl ⟨before, flag⟩))
          · have before : 3 < read := by
              have : read ≠ 3 := fun eq => now.2.2 ⟨eq, flag⟩
              simp only [HartPc.passed] at passed
              omega
            exact missed (.inr (.inr ⟨before, flag⟩))
      · rename_i last
        have all : 3 < read := by
          simp only [wfiConditions] at last
          omega
        constructor
        · exact fun _ => marked
        · rintro (⟨-, flag⟩ | ⟨-, flag⟩ | ⟨-, flag⟩)
          · exact missed (.inl ⟨by omega, flag⟩)
          · exact missed (.inr (.inl ⟨by omega, flag⟩))
          · exact missed (.inr (.inr ⟨all, flag⟩))
  · exact inv

theorem Watch.step (inv : x.Watch stop) (action : HartAction) :
    (x.next stop action).Watch stop := by
  cases action with
  | sendIpi | requestFence =>
    refine inv.kicked rfl rfl ?_
    show 0 < x.toKick + 1 + x.toWake
    omega
  | kickRead => exact inv.kickRead
  | kickComplete =>
    simp only [next]
    split
    · exact inv
    · exact ⟨inv.marked, fun _ => .inl rfl⟩
  | tick =>
    refine ⟨inv.marked, fun flag => (inv.missed flag).imp id fun more => ?_⟩
    simp only [next]
    split <;> omega
  | wfiRead external => exact inv.wfiRead external
  | wfiMark =>
    simp only [next]
    split
    · constructor <;> simp [HartPc.passed]
    · exact inv
  | enter =>
    simp only [next]
    split
    · exact Watch.idle (by simp [enter]) (by simp [enter])
    · exact inv
  | guestClear | guestSet =>
    simp only [next]
    split
    · exact ⟨inv.marked, inv.missed⟩
    · exact inv
  | save =>
    simp only [next]
    split
    · exact Watch.idle (by simp [save]) (by simp [save])
    · exact inv
  | handle wfi =>
    simp only [next]
    split
    · cases wfi <;> exact Watch.idle (by simp) (by simp)
    · exact inv
  | wfiUnmark =>
    simp only [next]
    split
    · exact Watch.idle (by simp) (by simp)
    · split
      · cases x.bsp <;> exact Watch.idle (by simp) (by simp)
      · exact inv
  | trap | wfiReset | wake | leave =>
    simp only [next]
    split
    · exact Watch.idle (by simp) (by simp)
    · exact inv

end RvHart

def RvVm.Sound (vm : RvVm) : Prop :=
  ∀ h, (vm.hart h).Ledger ∧ (vm.hart h).Watch vm.stopReq

def RvVm.sendGuard (vm : RvVm) : RvAction → Prop
  | .hart h action => (vm.hart h).sendGuard action
  | .requestStop => True

instance HartPc.decidableInRun (pc : HartPc) : Decidable pc.inRun :=
  inferInstanceAs (Decidable (_ ∨ _))

instance RvVm.decidableSendGuard (vm : RvVm) : (action : RvAction) → Decidable (vm.sendGuard action)
  | .hart _ .sendIpi => inferInstanceAs (Decidable (_ → _))
  | .hart _ (.requestFence _) | .hart _ .kickRead | .hart _ .kickComplete | .hart _ .tick
  | .hart _ .enter | .hart _ .guestClear | .hart _ .guestSet | .hart _ .trap | .hart _ .save
  | .hart _ (.handle _) | .hart _ (.wfiRead _) | .hart _ .wfiReset | .hart _ .wfiMark
  | .hart _ .wfiUnmark | .hart _ .wake | .hart _ .leave | .requestStop =>
    inferInstanceAs (Decidable True)

theorem RvVm.sound_start (nr : Nat) (online : Nat → Bool) : (RvVm.start nr online).Sound :=
  fun h => ⟨ledger_start (online h) (h == 0), watch_start (online h) (h == 0)⟩

theorem RvVm.Sound.step {vm : RvVm} (inv : vm.Sound) (guard : vm.sendGuard action) :
    (vm.next action).Sound := by
  intro k
  cases action with
  | hart h action =>
    simp only [RvVm.next]
    split
    · by_cases eq : k = h
      · subst eq
        simp only [update_self]
        exact ⟨(inv k).1.step vm.stopReq guard, (inv k).2.step action⟩
      · simp only [update_of_ne eq]
        exact inv k
    · exact inv k
  | requestStop =>
    constructor
    · exact (inv k).1.keep (fun run => ⟨run, id⟩) rfl rfl rfl rfl rfl rfl
    · refine (inv k).2.kicked rfl rfl ?_
      show 0 < (vm.hart k).toKick + 1 + (vm.hart k).toWake
      omega

/-- Over any interleaving an IPI that the guest has not cleared stays on record, and no hart sleeps
on with a flag set for it. -/
theorem harts_attended {nr : Nat} {online : Nat → Bool} {actions : List RvAction} {vm : RvVm}
    (run : Run (Guarded (graph RvVm.next) RvVm.sendGuard)
      (RvVm.start nr online) actions vm) :
    ∀ h, h < nr → (vm.hart h).Recorded ∧ (vm.hart h).Attended vm.stopReq := by
  intro h _
  have sound : vm.Sound :=
    run.guarded (fun _ _ inv guard => inv.step guard) (RvVm.sound_start nr online)
  exact ⟨(sound h).1.recorded, (sound h).2.attended⟩

/-- Hart 0 finds nothing to do and goes to sleep in `handle_wfi`; an IPI is sent, the kick is to
come. -/
def oneIpi : List RvAction :=
  [.hart 0 .enter, .hart 0 .trap, .hart 0 .save, .hart 0 (.handle true)] ++
    List.replicate 5 (.hart 0 (.wfiRead false)) ++ [.hart 0 .wfiReset, .hart 0 .wfiMark] ++
    List.replicate 5 (.hart 0 (.wfiRead false)) ++ [.hart 1 .enter, .hart 0 .sendIpi]

def oneIpiSent : RvHart := (oneIpi.foldl RvVm.next (RvVm.start 2 fun _ => true)).hart 0

theorem oneIpi_attended :
    (oneIpiSent.fresh = true ∧ oneIpiSent.pc = .sleeping ∧ oneIpiSent.done = false) ∧
      oneIpiSent.Recorded ∧ oneIpiSent.Attended false :=
  ⟨by decide +kernel,
    harts_attended (run_of_passes (fun _ _ => of_decide_eq_true) (by decide +kernel))
    0 (by decide)⟩

theorem RvVm.foldl_sends (vm : RvVm) (h : Nat) (valid : h < vm.nr) (n : Nat) :
    (List.replicate n (.hart h .sendIpi)).foldl RvVm.next vm =
      { vm with hart := update vm.hart h (RvHart.sendIpi^[n] (vm.hart h)) } := by
  induction n generalizing vm with
  | zero => simp
  | succ _ ih =>
    rw [List.replicate_succ, List.foldl_cons, ih _ (by simp [RvVm.next, valid])]
    simp [RvVm.next, valid, RvHart.next]

namespace RvHart

theorem sends_same (x : RvHart) (n : Nat) :
    (sendIpi^[n] x).pc = x.pc ∧ (sendIpi^[n] x).vssip = x.vssip ∧
      (sendIpi^[n] x).ipiInjected = x.ipiInjected ∧
      (sendIpi^[n] x).ipiSeqAtEntry = x.ipiSeqAtEntry := by
  induction n with
  | zero => exact ⟨rfl, rfl, rfl, rfl⟩
  | succ _ ih =>
    rw [iterate_succ_apply']
    exact ih

theorem sends_seq (x : RvHart) (word : x.ipiSeq < 2 ^ 64) (n : Nat) :
    (sendIpi^[n] x).ipiSeq = (x.ipiSeq + n) % 2 ^ 64 := by
  induction n with
  | zero => exact (Nat.mod_eq_of_lt word).symm
  | succ _ ih =>
    rw [iterate_succ_apply']
    simp only [sendIpi, ih]
    omega

theorem sends_dropped (stop : Bool) (guest : x.pc = .guest) (clear : x.vssip = false)
    (injected : x.ipiInjected = true) (word : x.ipiSeq < 2 ^ 64)
    (entry : x.ipiSeqAtEntry = x.ipiSeq) (n : Nat) (round : (n + 1) % 2 ^ 64 = 0) :
    ¬ (((sendIpi^[n + 1] x).next stop .trap).next stop .save).Recorded := by
  have same := x.sends_same (n + 1)
  have seq : (sendIpi^[n + 1] x).ipiSeq = (sendIpi^[n + 1] x).ipiSeqAtEntry := by
    rw [x.sends_seq word, same.2.2.2, entry]
    omega
  have fresh : (sendIpi^[n + 1] x).fresh = true := by
    rw [iterate_succ_apply']
    rfl
  generalize sendIpi^[n + 1] x = y at same seq fresh
  have trapped : (y.next stop .trap).next stop .save = { y with pc := .trapped }.save := by
    simp [next, same.1, guest]
  rw [trapped]
  intro recorded
  have kept := recorded (.inr fresh)
  simp [save, same.2.1, same.2.2.1, seq, clear, injected] at kept

end RvHart

def manySends (n : Nat) : List RvAction :=
  [.hart 0 .sendIpi, .hart 0 .enter, .hart 0 .guestClear] ++
    List.replicate (n + 1) (.hart 0 .sendIpi) ++ [.hart 0 .trap, .hart 0 .save]

theorem manySends_round (n : Nat) (round : (n + 1) % 2 ^ 64 = 0) :
    ¬ (((manySends n).foldl RvVm.next (RvVm.start 1 fun _ => true)).hart 0).Recorded := by
  rw [manySends, List.foldl_append, List.foldl_append, RvVm.foldl_sends _ 0 (by decide)]
  let cleared := (((RvHart.start true true).next false .sendIpi).next false .enter).next false
    .guestClear
  exact @RvHart.sends_dropped cleared false rfl rfl rfl (by decide) rfl n round

/-- With `2 ^ 64` IPIs in one guest run the record is lost; and between the two steps of a sender a
hart is asleep with `ipi_pending` set and its completion not done. -/
theorem manySends_dropped :
    (¬ (((manySends (2 ^ 64 - 1)).foldl RvVm.next (RvVm.start 1 fun _ => true)).hart 0).Recorded) ∧
      oneIpiSent.pc = .sleeping ∧ oneIpiSent.done = false ∧ oneIpiSent.ipiPending = true :=
  ⟨manySends_round (2 ^ 64 - 1) (by decide),
    by decide +kernel, by decide +kernel, by decide +kernel⟩

end AvatarKernel
