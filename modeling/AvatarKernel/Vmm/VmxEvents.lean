import AvatarKernel.Lib.Transition
import AvatarKernel.Types

namespace AvatarKernel

open Function Transition

/-- A bitmap over the vectors, such as `irr` and `isr` of `vlapic_state_t`. -/
abbrev VecBits := Fin 256 → Bool

/-- `vec_highest`, with `none` for -1 -/
def vecHighest (bits : VecBits) : Option (Fin 256) := (List.finRange 256).reverse.find? bits

/-- `pending_event` and the entry field: an external interrupt, or a hardware exception. -/
inductive VmxEvent where
  | extInt (vector : Fin 256)
  | hwExc (vector : Fin 256) (errcode : Option Nat)
  deriving DecidableEq

/-- A vCPU with its local APIC, as `vlapic_init` and `vmx_vcpu_setup` leave it. `rflagsIf` and
`blocked` are `RFLAGS.IF` and the interruptibility state in the VMCS. The last four fields are
history: how often a bit of `irr` was set and the guest sent to a vector, and what the guest has in
service. -/
structure VmxVcpu where
  svr : Nat
  irr : VecBits
  isr : VecBits
  pendingEvent : Option VmxEvent
  intrWindow : Bool
  rflagsIf : Bool
  blocked : Bool
  inGuest : Bool
  raised : Fin 256 → Nat
  delivered : Fin 256 → Nat
  inService : VecBits

namespace VmxVcpu

def init : VmxVcpu where
  svr := 0
  irr := fun _ => false
  isr := fun _ => false
  pendingEvent := none
  intrWindow := false
  rflagsIf := false
  blocked := false
  inGuest := false
  raised := fun _ => 0
  delivered := fun _ => 0
  inService := fun _ => false

def swEnabled (s : VmxVcpu) : Bool := s.svr / 256 % 2 == 1

/-- `vlapic_raise_irq`. A vector that waits in `irr` already is raised only once. -/
def raiseIrq (s : VmxVcpu) (vector : Fin 256) : VmxVcpu :=
  if vector.val < 16 ∨ s.swEnabled = false then s
  else
    { s with
      irr := update s.irr vector true
      raised := update s.raised vector
        (s.raised vector + if s.irr vector then 0 else 1) }

def takePending (s : VmxVcpu) : Option (Fin 256) := vecHighest fun v => s.irr v && !s.isr v

def fetch (s : VmxVcpu) : VmxVcpu :=
  if s.pendingEvent.isSome ∨ s.swEnabled = false then s
  else
    match s.takePending with
    | none => s
    | some v =>
      { s with irr := update s.irr v false, pendingEvent := some (.extInt v) }

/-- `vmx_inject_pending`, with what it writes to the entry field; `isr` is set by
`vlapic_accept_interrupt`. -/
def injectPending (s : VmxVcpu) : VmxVcpu × Option VmxEvent :=
  match s.pendingEvent with
  | none => ({ s with intrWindow := false }, none)
  | some (.extInt v) =>
    if s.rflagsIf = false ∨ s.blocked = true then ({ s with intrWindow := true }, none)
    else
      ({ s with isr := update s.isr v true, pendingEvent := none, intrWindow := false },
        some (.extInt v))
  | some (.hwExc v errcode) =>
    ({ s with pendingEvent := none, intrWindow := false }, some (.hwExc v errcode))

/-- The processor enters the guest and sends it to the event of the entry field, unless an exit
comes while it does so: then the event is in the IDT-vectoring field, which nothing reads. -/
def vmEntry (s : VmxVcpu) (hit : Bool) : Option VmxEvent → VmxVcpu
  | some (.extInt v) =>
    if hit then { s with inGuest := true }
    else
      { s with
        inGuest := true
        delivered := update s.delivered v (s.delivered v + 1)
        inService := update s.inService v true }
  | _ => { s with inGuest := true }

end VmxVcpu

def processEoi (bits : VecBits) : VecBits :=
  match vecHighest bits with
  | none => bits
  | some top => update bits top false

/-- The registers whose write concerns interrupts; the interrupt command register raises vectors. -/
inductive LapicWrite where
  | eoi
  | svr (val : Nat)
  | other

/-- The exits with something to do for interrupts. `other` are VMCALL, CPUID, CR, I/O and MSR
accesses and EPT violations outside the APIC. -/
inductive VmxExit where
  | hlt
  | lapic (write : LapicWrite)
  | excNmi (vector : Fin 256) (errcode : Option Nat)
  | extInt
  | intrWindow
  | other

/-- `reg_write` -/
def VmxVcpu.lapicWrite (s : VmxVcpu) : LapicWrite → VmxVcpu
  | .eoi => { s with isr := processEoi s.isr, inService := processEoi s.inService }
  | .svr val => { s with svr := val, irr := if val / 256 % 2 = 1 then s.irr else fun _ => false }
  | .other => s

/-- `vmx_exit_handler`. An exception with vector 0 ends the vCPU. -/
def VmxVcpu.exitHandler (s : VmxVcpu) : VmxExit → VmxVcpu
  | .hlt => { s with blocked := false }
  | .lapic write => s.lapicWrite write
  | .excNmi vector errcode =>
    if vector.val ≠ 0 then { s with pendingEvent := some (.hwExc vector errcode) } else s
  | .extInt => s
  | .intrWindow => s
  | .other => s

/-- A vector is raised by the timer, a device or another vCPU; the vCPU enters its guest; or it
leaves it, with the flags that the processor saves. -/
inductive VmxAction where
  | raise (vector : Fin 256)
  | enter (hit : Bool)
  | exit (reason : VmxExit) (rflagsIf blocked : Bool)

namespace VmxVcpu

def next (s : VmxVcpu) : VmxAction → VmxVcpu
  | .raise vector => s.raiseIrq vector
  | .enter hit =>
    if s.inGuest then s else s.fetch.injectPending.1.vmEntry hit s.fetch.injectPending.2
  | .exit reason rflagsIf blocked =>
    if s.inGuest then
      { s with inGuest := false, rflagsIf := rflagsIf, blocked := blocked }.exitHandler reason
    else s

def held (s : VmxVcpu) (v : Fin 256) : Nat := if s.pendingEvent = some (.extInt v) then 1 else 0

/-- Every vector raised was delivered once or is still recorded, and what the APIC has in service
the guest has. -/
structure Conserved (s : VmxVcpu) : Prop where
  kept : ∀ v, s.raised v = s.delivered v + (s.irr v).toNat + s.held v
  served : s.isr = s.inService

def holdsExtInt (s : VmxVcpu) : Bool :=
  match s.pendingEvent with
  | some (.extInt _) => true
  | _ => false

/-- The condition on a step: the delivery of an external interrupt is not interrupted by an exit, an
exception comes only while no external interrupt is held, and the APIC is disabled only with an
empty `irr`. -/
def eventGuard (s : VmxVcpu) : VmxAction → Prop
  | .enter hit => hit = true → s.pendingEvent.isSome = true ∧ s.holdsExtInt = false
  | .exit (.excNmi _ _) _ _ => s.holdsExtInt = false
  | .exit (.lapic (.svr val)) _ _ => val / 256 % 2 ≠ 1 → ∀ v, s.irr v = false
  | _ => True

section Steps

variable {s : VmxVcpu} (inv : s.Conserved)

include inv

theorem Conserved.raiseIrq (vector : Fin 256) : (s.raiseIrq vector).Conserved := by
  unfold VmxVcpu.raiseIrq
  split
  · exact inv
  · refine ⟨fun v => ?_, inv.served⟩
    have kept := inv.kept v
    simp only [held] at kept ⊢
    by_cases here : v = vector
    · subst here
      cases waiting : s.irr v <;> simp [waiting] at kept ⊢ <;> omega
    · rw [update_of_ne here, update_of_ne here]
      exact kept

theorem Conserved.fetch : s.fetch.Conserved := by
  unfold VmxVcpu.fetch
  split
  · exact inv
  · cases taken : s.takePending with
    | none => exact inv
    | some v =>
      have waits : s.irr v = true := by
        have found := List.find?_some taken
        simp only [Bool.and_eq_true] at found
        exact found.1
      have empty : s.pendingEvent = none := by
        cases held : s.pendingEvent <;> simp_all
      refine ⟨fun w => ?_, inv.served⟩
      have kept := inv.kept w
      simp only [held, empty] at kept ⊢
      by_cases here : w = v
      · subst here
        simp [waits] at kept ⊢
        omega
      · have other : ¬ v = w := fun same => here same.symm
        simpa [update_of_ne here, other] using kept

theorem Conserved.enters (clean : hit = true → s.holdsExtInt = false) :
    (s.injectPending.1.vmEntry hit s.injectPending.2).Conserved := by
  unfold injectPending
  cases held : s.pendingEvent with
  | none =>
    refine ⟨fun v => ?_, inv.served⟩
    simpa [VmxVcpu.held, vmEntry, held] using inv.kept v
  | some event =>
    cases event with
    | hwExc =>
      refine ⟨fun v => ?_, inv.served⟩
      simpa [VmxVcpu.held, vmEntry, held] using inv.kept v
    | extInt vector =>
      simp only
      split
      · refine ⟨fun v => ?_, inv.served⟩
        simpa [VmxVcpu.held, vmEntry, held] using inv.kept v
      · have unhit : hit = false := by
          cases hit with
          | false => rfl
          | true => exact absurd (clean rfl) (by simp [holdsExtInt, held])
        subst unhit
        refine ⟨fun v => ?_, ?_⟩
        · have kept := inv.kept v
          simp only [VmxVcpu.held, vmEntry, held] at kept ⊢
          by_cases here : v = vector
          · subst here
            simp at kept ⊢
            omega
          · have other : ¬ vector = v := fun same => here same.symm
            simpa [update_of_ne here, other] using kept
        · simp [vmEntry, inv.served]

theorem Conserved.exits {rflagsIf blocked : Bool}
    (guard : s.eventGuard (.exit reason rflagsIf blocked)) :
    ({ s with inGuest := false, rflagsIf := rflagsIf, blocked := blocked }.exitHandler
      reason).Conserved := by
  cases reason with
  | lapic write =>
    cases write with
    | eoi => exact ⟨inv.kept, congrArg processEoi inv.served⟩
    | svr val =>
      refine ⟨fun v => ?_, inv.served⟩
      have kept := inv.kept v
      by_cases enabled : val / 256 % 2 = 1
      · simpa [exitHandler, lapicWrite, held, enabled] using kept
      · have empty := guard enabled v
        simpa [exitHandler, lapicWrite, held, enabled, empty] using kept
    | other => exact ⟨inv.kept, inv.served⟩
  | excNmi =>
    simp only [exitHandler]
    split
    · refine ⟨fun v => ?_, inv.served⟩
      have free : s.pendingEvent ≠ some (.extInt v) := by
        intro held
        simp [eventGuard, holdsExtInt, held] at guard
      simpa [held, free] using inv.kept v
    · exact ⟨inv.kept, inv.served⟩
  | hlt | extInt | intrWindow | other => exact ⟨inv.kept, inv.served⟩

theorem Conserved.step (guard : s.eventGuard action) : (s.next action).Conserved := by
  cases action with
  | raise vector => exact inv.raiseIrq vector
  | enter =>
    simp only [next]
    split
    · exact inv
    · apply inv.fetch.enters
      intro interrupted
      obtain ⟨some_, exception⟩ := guard interrupted
      simpa [VmxVcpu.fetch, some_] using exception
  | exit =>
    simp only [next]
    split
    · exact inv.exits guard
    · exact inv

end Steps

end VmxVcpu

/-- In every run that meets the condition no vector is lost or delivered twice, and the APIC has in
service only what the guest services. -/
theorem vectors_conserved {actions : List VmxAction} {s : VmxVcpu}
    (run : Run (Guarded (graph VmxVcpu.next) VmxVcpu.eventGuard)
      .init actions s) : s.Conserved :=
  run.guarded (fun _ _ inv guard => inv.step guard) ⟨fun _ => rfl, rfl⟩

instance VmxVcpu.eventGuardDecidable (s : VmxVcpu) :
    (action : VmxAction) → Decidable (s.eventGuard action)
  | .enter _ => inferInstanceAs (Decidable (_ → _ ∧ _))
  | .exit (.excNmi _ _) _ _ => inferInstanceAs (Decidable (_ = false))
  | .exit (.lapic (.svr _)) _ _ => inferInstanceAs (Decidable (_ → ∀ _, _))
  | .raise _ | .exit .hlt _ _ | .exit .extInt _ _ | .exit .intrWindow _ _ | .exit .other _ _
  | .exit (.lapic .eoi) _ _ | .exit (.lapic .other) _ _ => inferInstanceAs (Decidable True)

def timerRaised : List VmxAction :=
  [.enter false, .exit (.lapic (.svr 0x1FF)) true false, .raise ⟨0xEC, by decide⟩]

def timerServed : List VmxAction :=
  timerRaised ++ [.enter false, .exit (.lapic .eoi) true false, .enter false]

theorem timerServed_conserved :
    (timerServed.foldl VmxVcpu.next .init).Conserved ∧
      (timerServed.foldl VmxVcpu.next .init).delivered ⟨0xEC, by decide⟩ = 1 :=
  ⟨vectors_conserved (run_of_passes (fun _ _ => of_decide_eq_true) (by decide +kernel)),
    by decide +kernel⟩

def timerHit : List VmxAction := timerRaised ++ [.enter true, .exit .other true false]

/-- The vector is nowhere any more, and its bit in `isr` keeps every later one from the guest. -/
theorem timerHit_lost :
    Run (graph VmxVcpu.next) .init timerHit (timerHit.foldl VmxVcpu.next .init) ∧
      ¬ (timerHit.foldl VmxVcpu.next .init).Conserved := by
  apply And.intro (run_foldl _ _ _)
  intro conserved
  have kept := conserved.kept ⟨0xEC, by decide⟩
  revert kept
  decide +kernel

end AvatarKernel
