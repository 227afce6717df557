import AvatarKernel.Lib.Counting
import AvatarKernel.Types
import AvatarKernel.Vmm.VmPool

namespace AvatarKernel

open Function Transition

inductive VcpuOnline where
  | offline
  | running
  | stopped
  deriving DecidableEq

/-- Where the task of a vCPU is in `vcpu_task_fn`. `created` has not run yet, `woken` is past the
start gate, `marking` to `sleeping` lie in `handle_wfi`, `stopping` is the call of `vm_request_stop`
at the end and `reporting` that of `vm_vcpu_stopped`. -/
inductive TaskPc where
  | absent
  | created
  | waiting
  | woken
  | running
  | marking
  | rechecking
  | sleeping
  | stopping
  | reporting
  | gone
  deriving DecidableEq

def TaskPc.active : TaskPc → Bool
  | .absent => false
  | .gone => false
  | _ => true

/-- A `vcpu_t` with its task: `task` says that the pointer is published, `start` and `wake` are
`done` of the two completions, `starting` is a `vmm_vcpu_start` between its two writes. `swept` and
`kicked` are history: a `vm_request_stop` has looked at the gate, or has kicked the vCPU. -/
structure VcpuTask where
  pc : TaskPc
  online : VcpuOnline
  task : Bool
  start : Bool
  starting : Bool
  inWfi : Bool
  wake : Bool
  swept : Bool
  kicked : Bool

def VcpuTask.zeroed (v : VcpuTask) : VcpuTask :=
  { v with online := .offline, task := false, start := false, starting := false, inWfi := false,
           wake := false }

/-- The task that loads a VM and creates its vCPUs: before, and within, the `vcpu_task_create` of
the `k`-th one, in `vm_request_stop` after a failure, and afterwards. -/
inductive CreatorPc (nr : Nat) where
  | create (k : Fin nr)
  | counted (k : Fin nr)
  | stopping
  | done
  deriving DecidableEq

variable {nr : Nat}

def CreatorPc.early : CreatorPc nr → Bool
  | .create _ => true
  | .counted _ => true
  | _ => false

def CreatorPc.counting : CreatorPc nr → Bool
  | .counted _ => true
  | _ => false

def creationOrder (k : Fin nr) : Fin nr :=
  if more : k.val + 1 < nr then ⟨k.val + 1, more⟩ else ⟨0, Nat.zero_lt_of_lt k.isLt⟩

def CreatorPc.after (k : Fin nr) : CreatorPc nr :=
  if more : k.val + 1 < nr then .create ⟨k.val + 1, more⟩ else .done

inductive StopCaller (nr : Nat) where
  | vcpu (i : Fin nr)
  | creator
  | outside (k : Nat)
  deriving DecidableEq

/-- What the loop of `vm_request_stop` does for a vCPU, in two parts. -/
inductive StopVisit (nr : Nat) where
  | gate (i : Fin nr)
  | kick (i : Fin nr)

def stopVisits (nr : Nat) : List (StopVisit nr) :=
  (List.finRange nr).flatMap fun i => [.gate i, .kick i]

/-- A call of `vm_free`: not made, before its first locked part, or between the two. -/
inductive Release where
  | idle
  | begun
  | tearing
  deriving DecidableEq

/-- A VM with its tasks. `call` holds what a `vm_request_stop` has still to visit. `returned` says
that one has returned, and `frees` counts how often the slot was freed. -/
structure VmHost (nr : Nat) where
  pool : VmPool
  slot : Nat
  vcpu : Fin nr → VcpuTask
  creator : CreatorPc nr
  call : StopCaller nr → Option (List (StopVisit nr))
  release : StopCaller nr → Release
  returned : Bool
  frees : Nat

def VmHost.vm (s : VmHost nr) : Vm := s.pool.vm s.slot

def VmHost.setVcpu (s : VmHost nr) (i : Fin nr) (v : VcpuTask) : VmHost nr :=
  { s with vcpu := update s.vcpu i v }

/-- Steps on one vCPU: those of its own task, the two of `vmm_vcpu_start`, and kicks. -/
inductive VcpuAction where
  | begin
  | passGate
  | enter
  | leave
  | wfiReset
  | wfiMark
  | wfiRecheck (work : Bool)
  | wfiWake
  | kick
  | cpuOn
  | cpuOnDone
  deriving DecidableEq

/-- `vmm_vcpu_kick`, as far as the completions go. -/
def VcpuTask.kick (v : VcpuTask) : VcpuTask :=
  { v with wake := v.wake || (v.online == .running && v.inWfi) }

/-- The end of `vcpu_task_fn` up to its `vm_request_stop`. -/
def VcpuTask.out (v : VcpuTask) : VcpuTask :=
  { v with pc := .stopping, online := .stopped, task := false }

def VcpuTask.next (bsp stop : Bool) (v : VcpuTask) : VcpuAction → VcpuTask
  | .begin =>
    if v.pc = .created then { v with task := true, pc := if bsp then .woken else .waiting } else v
  | .passGate => if v.pc = .waiting ∧ v.start = true then { v with pc := .woken } else v
  | .enter =>
    if v.pc = .woken then
      if stop && !bsp then v.out else { v with pc := .running, online := .running }
    else v
  | .leave => if v.pc = .running then v.out else v
  | .wfiReset => if v.pc = .running then { v with pc := .marking, wake := false } else v
  | .wfiMark => if v.pc = .marking then { v with pc := .rechecking, inWfi := true } else v
  | .wfiRecheck work =>
    if v.pc = .rechecking then
      if stop || work then { v with pc := .running, inWfi := false } else { v with pc := .sleeping }
    else v
  | .wfiWake =>
    if v.pc = .sleeping ∧ v.wake = true then { v with pc := .running, inWfi := false } else v
  | .kick => v.kick
  | .cpuOn => if v.online = .offline then { v with online := .running, starting := true } else v
  | .cpuOnDone => if v.starting = true then { v with start := true, starting := false } else v

/-- `vm_request_stop` completes `start` of a vCPU that it finds offline with its task published. -/
def VcpuTask.openGate (v : VcpuTask) : VcpuTask :=
  { v with start := v.start || (v.online == .offline && v.task), swept := true }

inductive StopAction (nr : Nat) where
  | started
  | setRunning
  | taskCreate (ok : Bool)
  | loadFails
  | vcpu (i : Fin nr) (action : VcpuAction)
  | stop (t : StopCaller nr)
  | visit (t : StopCaller nr)
  | report (i : Fin nr)
  | free (t : StopCaller nr)

def mayStop (vcpu : Fin nr → VcpuTask) (creator : CreatorPc nr) : StopCaller nr → Prop
  | .vcpu i => (vcpu i).pc = .stopping
  | .creator => creator = .stopping
  | .outside _ => True

def VmHost.guestRuns (s : VmHost nr) : Prop := ∃ i, (s.vcpu i).pc = .running

instance mayStopDecidable (vcpu : Fin nr → VcpuTask) (creator : CreatorPc nr) :
    (t : StopCaller nr) → Decidable (mayStop vcpu creator t)
  | .vcpu _ => inferInstanceAs (Decidable (_ = _))
  | .creator => inferInstanceAs (Decidable (_ = _))
  | .outside _ => inferInstanceAs (Decidable True)

instance VmHost.guestRunsDecidable (s : VmHost nr) : Decidable s.guestRuns :=
  inferInstanceAs (Decidable (∃ _, _))

def VmHost.stopReturns (s : VmHost nr) : StopCaller nr → VmHost nr
  | .vcpu i => s.setVcpu i { s.vcpu i with pc := .reporting }
  | .creator => { s with creator := .done, release := update s.release .creator .begun }
  | .outside _ => s

def VmHost.next (s : VmHost nr) : StopAction nr → VmHost nr
  | .started => match s.creator with
      | .create k => { s with pool := s.pool.vmVcpuStarted s.slot, creator := .counted k }
      | _ => s
  | .setRunning => match s.creator with
      | .counted _ => { s with pool := s.pool.vmStateSet s.slot .running }
      | _ => s
  | .taskCreate ok => match s.creator with
      | .counted k =>
        if ok then
          { s.setVcpu (creationOrder k) { s.vcpu (creationOrder k) with pc := .created } with
            creator := .after k }
        else { s with pool := s.pool.vmVcpuStartAbort s.slot, creator := .stopping }
      | _ => s
  | .loadFails => match s.creator with
      | .create k =>
        if k.val = 0 then
          { s with creator := .done, release := update s.release .creator .begun }
        else s
      | _ => s
  | .vcpu i action =>
    if action = .cpuOn ∧ ¬ s.guestRuns then s
    else s.setVcpu i ((s.vcpu i).next (i.val == 0) s.vm.stopReq action)
  | .stop t =>
    if mayStop s.vcpu s.creator t ∧ s.call t = none then
      { s with pool := s.pool.setStopReq s.slot
               call := update s.call t (some (stopVisits nr)) }
    else s
  | .visit t => match s.call t with
      | none => s
      | some [] =>
        { s with call := update s.call t none, returned := true }.stopReturns t
      | some (.gate i :: rest) =>
        { s.setVcpu i (s.vcpu i).openGate with call := update s.call t (some rest) }
      | some (.kick i :: rest) =>
        { s.setVcpu i { (s.vcpu i).kick with kicked := true } with
          call := update s.call t (some rest) }
  | .report i =>
    if (s.vcpu i).pc = .reporting then
      { s.setVcpu i { s.vcpu i with pc := .gone } with
        pool := (s.pool.vmVcpuStopped s.slot).1
        release := update s.release (.vcpu i)
          (if (s.pool.vmVcpuStopped s.slot).2 then .begun else .idle) }
    else s
  | .free t => match s.release t with
      | .idle => s
      | .begun =>
        { s with
          pool := (s.pool.vmFreeBegin s.slot).1
          release := update s.release t
            (if (s.pool.vmFreeBegin s.slot).2 then .tearing else .idle) }
      | .tearing =>
        { s with
          pool := s.pool.vmFreeEnd s.slot
          vcpu := fun i => (s.vcpu i).zeroed
          release := update s.release t .idle
          frees := s.frees + 1 }

def VmHost.start (pool : VmPool) (slot : Nat) (first : Fin nr) : VmHost nr where
  pool := pool.allocAt slot
  slot := slot
  vcpu := fun _ => ⟨.absent, .offline, false, false, false, false, false, false, false⟩
  creator := .create ⟨0, Nat.zero_lt_of_lt first.isLt⟩
  call := fun _ => none
  release := fun _ => .idle
  returned := false
  frees := 0

namespace VcpuTask

/-- What holds of a vCPU, given whether it is the BSP, `stop_req`, and whether vCPUs are still being
created. -/
structure Ok (v : VcpuTask) (bsp stop early : Bool) : Prop where
  gate : v.pc = .created ∨ v.pc = .waiting →
    v.start = true ∨ v.starting = true ∨ v.online = .offline
  task : v.pc = .waiting → v.task = true
  swept : v.swept = true → (v.pc = .waiting → v.start = true) ∧ (stop = true ∨ v.pc.active = false)
  kicked : v.kicked = true →
    (v.pc = .sleeping → v.wake = true) ∧ (stop = true ∨ v.pc.active = false)
  asleep : v.pc = .rechecking ∨ v.pc = .sleeping → v.inWfi = true
  runs : v.pc = .running ∨ v.pc = .marking ∨ v.pc = .rechecking ∨ v.pc = .sleeping →
    v.online = .running
  settled : stop = true → v.starting = false ∧ (bsp = false → v.pc ≠ .created)
  early : early = true → stop = false ∧ v.start = false ∧ v.starting = false ∧
    v.online = .offline ∧ v.swept = false ∧ v.kicked = false ∧
    (v.pc = .absent ∨ bsp = false ∧ (v.pc = .created ∨ v.pc = .waiting))

section VcpuTask

variable {bsp early stop : Bool} {v : VcpuTask}

theorem Ok.next (ok : v.Ok bsp stop early)
    (guard : action = .cpuOn → stop = false ∧ early = false) :
    (v.next bsp stop action).Ok bsp stop early := by
  have same := ok
  obtain ⟨gate, task, swept, kicked, asleep, runs, settled, earlier⟩ := ok
  cases action
  all_goals
    simp only [VcpuTask.next, out, kick]
    repeat' split
    -- A step that is not open leaves the vCPU as it is.
    all_goals first
      | exact same
      | clear same; constructor <;> simp_all [TaskPc.active]

theorem Ok.visit (ok : v.Ok bsp stop early) (late : early = false)
    (stops : stop = true ∨ v.pc.active = false) :
    v.openGate.Ok bsp stop early ∧ { v.kick with kicked := true }.Ok bsp stop early := by
  obtain ⟨gate, task, swept, kicked, asleep, runs, settled, earlier⟩ := ok
  simp only [VcpuTask.openGate, kick]
  constructor <;> constructor <;> grind -linarith [TaskPc.active]

theorem Ok.late (ok : v.Ok bsp stop early) (before : later = true → early = true) :
    v.Ok bsp stop later :=
  { ok with early := fun still => ok.early (before still) }

end VcpuTask

end VcpuTask

theorem creationOrder_injective (same : creationOrder j = creationOrder k) : j = k := by
  unfold creationOrder at same
  apply Fin.ext
  split at same <;> split at same <;> simp only [Fin.mk.injEq] at same <;> omega

def activeCount (vcpu : Fin nr → VcpuTask) : Nat :=
  (Finset.univ.filter fun i => (vcpu i).pc.active = true).card

/-- What holds of a VM with its tasks. The counter is the number of tasks that have not reported,
and it is 0 once the slot is being released; whoever brought it there is in `vm_free`. -/
structure StopInv (vm : Vm) (vcpu : Fin nr → VcpuTask) (creator : CreatorPc nr)
    (call : StopCaller nr → Option (List (StopVisit nr))) (release : StopCaller nr → Release)
    (returned : Bool) (frees : Nat) : Prop where
  each : ∀ i, (vcpu i).Ok (i.val == 0) vm.stopReq creator.early
  caller : ∀ t rest, call t = some rest → mayStop vcpu creator t ∧ creator.early = false ∧
    (vm.stopReq = true ∨ ∀ i, (vcpu i).pc.active = false)
  visits : ∀ t rest, call t = some rest → ∀ i,
    (.gate i ∈ rest ∨ (vcpu i).swept = true) ∧ (.kick i ∈ rest ∨ (vcpu i).kicked = true)
  returned : returned = true → ∀ i, (vcpu i).swept = true ∧ (vcpu i).kicked = true
  count : vm.state = .loading ∨ vm.state = .running →
    vm.nrVcpuAlive = activeCount vcpu + if creator.counting then 1 else 0
  ended : vm.state = .dying ∨ vm.state = .free →
    (∀ i, (vcpu i).pc.active = false) ∧ creator.early = false
  later : ∀ k, creator = .create k ∨ creator = .counted k →
    ∀ j, k ≤ j → (vcpu (creationOrder j)).pc = .absent
  owed : vm.state = .loading ∨ vm.state = .running → creator = .done →
    (∀ i, (vcpu i).pc.active = false) → ∃ t, release t = .begun
  dying : vm.state = .dying ↔ ∃ t, release t = .tearing
  unique : ∀ t t', release t = .tearing → release t' = .tearing → t = t'
  released : ∀ t, release t ≠ .idle → creator.early = false
  quiet : creator ≠ .done → release .creator = .idle
  reported : ∀ i, release (.vcpu i) ≠ .idle → (vcpu i).pc = .gone
  frees : frees = if vm.state = .free then 1 else 0

def VmHost.Good (s : VmHost nr) : Prop :=
  StopInv s.vm s.vcpu s.creator s.call s.release s.returned s.frees

section

variable {vm : Vm} {vcpu : Fin nr → VcpuTask} {creator : CreatorPc nr}
  {call : StopCaller nr → Option (List (StopVisit nr))} {release : StopCaller nr → Release}
  {returned : Bool} {frees : Nat}

theorem activeCount_update (vcpu : Fin nr → VcpuTask) (i : Fin nr) (v : VcpuTask) :
    activeCount (update vcpu i v) + (if (vcpu i).pc.active = true then 1 else 0) =
      activeCount vcpu + if v.pc.active = true then 1 else 0 :=
  Counting.card_update (fun w : VcpuTask => w.pc.active = true) vcpu i v

theorem activeCount_eq_zero : activeCount vcpu = 0 ↔ ∀ i, (vcpu i).pc.active = false := by
  simp [activeCount, Finset.filter_eq_empty_iff]

namespace StopInv

variable (inv : StopInv vm vcpu creator call release returned frees)
include inv

theorem lives (busy : creator.early = true ∨ ∃ i, (vcpu i).pc.active = true) :
    vm.state = .loading ∨ vm.state = .running := by
  have ended := inv.ended
  cases state : vm.state <;> grind -linarith

theorem alone (early : creator.early = true) :
    (∀ t, call t = none) ∧ (∀ t, release t = .idle) ∧ (returned = true → ∀ _ : Fin nr, False) := by
  refine ⟨fun t => ?_, fun t => ?_, fun back i => ?_⟩
  · have caller := inv.caller t
    cases calls : call t <;> grind -linarith
  · have released := inv.released t
    grind -linarith
  · have swept := inv.returned back i
    have unswept := (inv.each i).early early
    grind -linarith

theorem set (ok : v.Ok (i.val == 0) vm.stopReq creator.early)
    (kept : v.pc = (vcpu i).pc ∨ v.pc.active = true ∧ (vcpu i).pc.active = true ∧
      ((vcpu i).pc ≠ .stopping ∨ call (.vcpu i) = none))
    (swept : (vcpu i).swept = true → v.swept = true)
    (kicked : (vcpu i).kicked = true → v.kicked = true) :
    StopInv vm (update vcpu i v) creator call release returned frees := by
  have active : ∀ j, (update vcpu i v j).pc.active = (vcpu j).pc.active := by
    grind -linarith [update_apply]
  obtain ⟨each, caller, visits, returned, count, ended, later, owed, dying, unique, released, quiet,
    reported, frees⟩ := inv
  constructor
  case count => simpa only [activeCount, active] using count
  case caller =>
    intro t rest calls
    cases t <;> grind -linarith [mayStop, update_apply]
  all_goals grind -linarith [update_apply, TaskPc.active]

theorem account (early : creator.early = true) (stop : vm'.stopReq = vm.stopReq)
    (lives : vm'.state = .loading ∨ vm'.state = .running)
    (count : vm'.nrVcpuAlive = activeCount vcpu + if creator'.counting then 1 else 0)
    (later : ∀ k, creator' = .create k ∨ creator' = .counted k →
      creator = .create k ∨ creator = .counted k) (going : creator' ≠ .done) :
    StopInv vm' vcpu creator' call release returned frees := by
  have each : ∀ i, (vcpu i).Ok (i.val == 0) vm'.stopReq creator'.early :=
    fun i => stop ▸ (inv.each i).late fun _ => early
  obtain ⟨-, caller, visits, returned, -, ended, absent, owed, dying, unique, released, quiet,
    reported, frees⟩ := inv
  constructor <;> grind -linarith

theorem taskCreated (here : creator = .counted k) :
    StopInv vm (update vcpu (creationOrder k) { vcpu (creationOrder k) with pc := .created })
      (.after k) call release returned frees := by
  have early : creator.early = true := by rw [here]; rfl
  have idle := (inv.each (creationOrder k)).early early
  have more :=
    activeCount_update vcpu (creationOrder k) { vcpu (creationOrder k) with pc := .created }
  have counting : creator.counting = true := by rw [here]; rfl
  have settled : (CreatorPc.after k).counting = false ∧
      ((CreatorPc.after k).early = true → (creationOrder k).val ≠ 0) := by
    unfold CreatorPc.after creationOrder
    split <;> simp [CreatorPc.early, CreatorPc.counting]
  have ok : ({ vcpu (creationOrder k) with pc := .created } : VcpuTask).Ok
      ((creationOrder k).val == 0) vm.stopReq (CreatorPc.after k).early := by
    constructor <;> grind -linarith [TaskPc.active]
  have each := fun j => (inv.each j).late fun _ : (CreatorPc.after k).early = true => early
  have beyond : ∀ next, CreatorPc.after k = .create next ∨ CreatorPc.after k = .counted next →
      ∀ j, next ≤ j → creationOrder j ≠ creationOrder k ∧ k ≤ j := by
    intro next after j later
    have apart : k < j := by
      unfold CreatorPc.after at after
      split at after <;> grind -linarith
    exact ⟨fun same => absurd (creationOrder_injective same) (ne_of_gt apart), le_of_lt apart⟩
  obtain ⟨-, caller, visits, returned, count, ended, later, owed, dying, unique, released, quiet,
    reported, frees⟩ := inv
  constructor
  case owed =>
    intro _ _ nobody
    have active := nobody (creationOrder k)
    grind -linarith [TaskPc.active]
  case count => grind -linarith [TaskPc.active]
  all_goals grind -linarith [update_apply]

theorem creatorFrees (idle : release .creator = .idle) (silent : call .creator = none)
    (counting : creator.counting = false) :
    StopInv vm vcpu .done call (update release .creator .begun) returned frees := by
  have each := fun i =>
    (inv.each i).late fun early : CreatorPc.early (.done : CreatorPc nr) = true =>
    absurd early (by simp [CreatorPc.early])
  obtain ⟨-, caller, visits, returned, count, ended, later, owed, dying, unique, released, quiet,
    reported, frees⟩ := inv
  constructor
  case caller =>
    intro t rest calls
    cases t <;> grind -linarith [mayStop, CreatorPc.early]
  case owed => exact fun _ _ _ => ⟨.creator, by simp⟩
  case dying =>
    refine dying.trans (exists_congr fun u => ?_)
    grind -linarith [update_apply]
  all_goals grind -linarith [update_apply, CreatorPc.early, CreatorPc.counting]

variable {t : StopCaller nr}

theorem stop (may : mayStop vcpu creator t) (late : creator.early = false)
    (settled : ∀ i, (vcpu i).starting = false ∧ (i.val ≠ 0 → (vcpu i).pc ≠ .created)) :
    StopInv { vm with stopReq := true } vcpu creator
      (update call t (some (stopVisits nr))) release returned frees := by
  have all : ∀ i : Fin nr, .gate i ∈ stopVisits nr ∧ .kick i ∈ stopVisits nr := by
    simp [stopVisits]
  have each : ∀ i, (vcpu i).Ok (i.val == 0) true creator.early := by
    intro i
    obtain ⟨gate, task, swept, kicked, asleep, runs, settled, earlier⟩ := inv.each i
    constructor <;> grind -linarith
  refine { inv with each := each, caller := ?_, visits := ?_ }
  · have caller := inv.caller
    grind -linarith [update_apply]
  · have visits := inv.visits
    grind -linarith [update_apply]

theorem visited (calls : call t = some (first :: rest))
    (ok : v.Ok (i.val == 0) vm.stopReq creator.early) (pc : v.pc = (vcpu i).pc)
    (swept : (vcpu i).swept = true → v.swept = true)
    (kicked : (vcpu i).kicked = true → v.kicked = true)
    (gate : ∀ j, first = .gate j → (update vcpu i v j).swept = true)
    (kick : ∀ j, first = .kick j → (update vcpu i v j).kicked = true) :
    StopInv vm (update vcpu i v) creator (update call t (some rest)) release returned
      frees := by
  have after := inv.set ok (.inl pc) swept kicked
  have caller := after.caller
  have visits := after.visits
  refine { after with caller := ?_, visits := ?_ }
  · grind -linarith [update_apply]
  · intro u left calls' j
    grind -linarith [update_apply]

theorem returns (calls : call t = some []) :
    StopInv vm vcpu creator (update call t none) release true frees := by
  have caller := inv.caller
  have visits := inv.visits
  have all := visits t _ calls
  refine { inv with caller := ?_, visits := ?_, returned := fun _ j => by simpa using all j } <;>
    grind -linarith [update_apply]

theorem report (here : (vcpu i).pc = .reporting) :
    StopInv { vm with nrVcpuAlive := vm.nrVcpuAlive - 1 }
      (update vcpu i { vcpu i with pc := .gone }) creator call
      (update release (.vcpu i) (if vm.nrVcpuAlive - 1 == 0 then .begun else .idle))
      returned frees := by
  have active : (vcpu i).pc.active = true := by rw [here]; rfl
  have fewer := activeCount_update vcpu i { vcpu i with pc := .gone }
  have ok : ({ vcpu i with pc := .gone } : VcpuTask).Ok (i.val == 0) vm.stopReq creator.early := by
    obtain ⟨gate, task, swept, kicked, asleep, runs, settled, earlier⟩ := inv.each i
    constructor <;> grind -linarith [TaskPc.active]
  have late : creator.early = false := by
    have early := (inv.each i).early
    grind -linarith
  obtain ⟨each, caller, visits, returned, count, ended, later, owed, dying, unique, released, quiet,
    reported, frees⟩ := inv
  constructor
  case caller =>
    intro t rest calls
    cases t <;> grind -linarith [mayStop, update_apply]
  case count => grind -linarith [TaskPc.active, CreatorPc.counting, CreatorPc.early]
  case owed =>
    intro _ done nobody
    have zero := activeCount_eq_zero.mpr nobody
    exact ⟨.vcpu i, by grind -linarith [TaskPc.active, CreatorPc.counting]⟩
  all_goals grind -linarith [update_apply, TaskPc.active]

theorem freeRefused (begun : release t = .begun)
    (refused : vm.state = .free ∨ vm.state = .dying ∨ vm.nrVcpuAlive ≠ 0) :
    StopInv vm vcpu creator call (update release t .idle) returned frees := by
  obtain ⟨each, caller, visits, returned, count, ended, later, owed, dying, unique, released, quiet,
    reported, frees⟩ := inv
  constructor
  case owed =>
    intro lives done nobody
    have zero := activeCount_eq_zero.mpr nobody
    grind -linarith [CreatorPc.counting]
  case dying =>
    refine dying.trans (exists_congr fun u => ?_)
    grind -linarith [update_apply]
  all_goals grind -linarith [update_apply]

theorem freeBegins (begun : release t = .begun)
    (going : ¬ (vm.state = .free ∨ vm.state = .dying ∨ vm.nrVcpuAlive ≠ 0)) :
    StopInv { vm with state := .dying } vcpu creator call (update release t .tearing) returned
      frees := by
  obtain ⟨each, caller, visits, returned, count, ended, later, owed, dying, unique, released, quiet,
    reported, frees⟩ := inv
  have lives : vm.state = .loading ∨ vm.state = .running := by
    cases state : vm.state <;> grind -linarith
  have nobody := activeCount_eq_zero.mp (by grind : activeCount vcpu = 0)
  constructor
  case dying => exact ⟨fun _ => ⟨t, by simp⟩, fun _ => rfl⟩
  all_goals grind -linarith [update_apply]

theorem freeEnds (tears : release t = .tearing) :
    StopInv .zero (fun i => (vcpu i).zeroed) creator call (update release t .idle) returned
      (frees + 1) := by
  have ended := inv.ended (.inl (inv.dying.mpr ⟨t, tears⟩))
  have ok : ∀ i, (vcpu i).zeroed.Ok (i.val == 0) false creator.early := by
    intro i
    constructor <;> grind -linarith [VcpuTask.zeroed, TaskPc.active]
  obtain ⟨each, caller, visits, returned, count, -, later, owed, dying, unique, released, quiet,
    reported, frees⟩ := inv
  constructor
  case caller =>
    intro u rest calls
    cases u <;> grind -linarith [mayStop, VcpuTask.zeroed]
  all_goals grind -linarith [update_apply, VcpuTask.zeroed, Vm.zero]

end StopInv

end

/-- The condition on a step: `vm_request_stop` is called only after the last vCPU was created, while
no AP is created and not yet at its gate and no `vmm_vcpu_start` is between its two writes; and
`vmm_vcpu_start` is called only while no stop is requested. -/
def VmHost.stopGuard (s : VmHost nr) : StopAction nr → Prop
  | .stop _ => s.creator.early = false ∧
      ∀ i, (s.vcpu i).starting = false ∧ (i.val ≠ 0 → (s.vcpu i).pc ≠ .created)
  | .vcpu _ action => action = .cpuOn → s.vm.stopReq = false
  | _ => True

theorem next_kept (v : VcpuTask) (bsp stop : Bool) (action : VcpuAction) :
    ((v.next bsp stop action).pc = v.pc ∨
      (v.next bsp stop action).pc.active = true ∧ v.pc.active = true ∧ v.pc ≠ .stopping) ∧
      (v.next bsp stop action).swept = v.swept ∧ (v.next bsp stop action).kicked = v.kicked := by
  cases action
  all_goals
    simp only [VcpuTask.next, VcpuTask.out, VcpuTask.kick]
    grind -linarith [TaskPc.active]

variable {s : VmHost nr}

namespace VmHost

theorem Good.vcpu (inv : s.Good) (guard : s.stopGuard (.vcpu i action)) :
    (s.next (.vcpu i action)).Good := by
  simp only [next]
  split
  · exact inv
  · rename_i allowed
    have kept := next_kept (s.vcpu i) (i.val == 0) s.vm.stopReq action
    apply StopInv.set inv _ (kept.1.imp id fun both => ⟨both.1, both.2.1, .inl both.2.2⟩)
    · rw [kept.2.1]
      exact id
    · rw [kept.2.2]
      exact id
    · apply (inv.each i).next
      intro cpuOn
      refine ⟨guard cpuOn, ?_⟩
      -- Guest code runs only once every vCPU was created.
      by_contra early
      rw [Bool.not_eq_false] at early
      apply allowed
      refine ⟨cpuOn, fun ⟨j, runs⟩ => ?_⟩
      have still := ((inv.each j).early early).2.2.2.2.2.2
      rw [runs] at still
      simp at still

theorem Good.creates (inv : s.Good)
    (creates : action = .started ∨ action = .setRunning ∨ (∃ ok, action = .taskCreate ok) ∨
      action = .loadFails) : (s.next action).Good := by
  cases here : s.creator with
  | create k =>
    have early : s.creator.early = true := by rw [here]; rfl
    have lives := inv.lives (.inl early)
    have count := inv.count lives
    have alone := inv.alone early
    rcases creates with rfl | rfl | ⟨ok, rfl⟩ | rfl
    · have started : (s.pool.vmVcpuStarted s.slot).vm s.slot =
          { s.vm with nrVcpuAlive := s.vm.nrVcpuAlive + 1 } := by
        unfold vm at lives ⊢
        rcases lives with state | state <;> simp [VmPool.vmVcpuStarted, state]
      simp only [next, here]
      show StopInv ((s.pool.vmVcpuStarted s.slot).vm s.slot) s.vcpu (.counted k) s.call s.release
        s.returned s.frees
      rw [started]
      refine StopInv.account inv early rfl lives ?_ (by simp [here]) (by simp)
      simpa [here, CreatorPc.counting] using count
    · simpa [next, here] using inv
    · simpa [next, here] using inv
    · simp only [next, here]
      split
      · exact StopInv.creatorFrees inv (alone.2.1 _) (alone.1 _) (by rw [here]; rfl)
      · exact inv
  | counted k =>
    have early : s.creator.early = true := by rw [here]; rfl
    have lives := inv.lives (.inl early)
    have count := inv.count lives
    rcases creates with rfl | rfl | ⟨ok, rfl⟩ | rfl
    · simpa [next, here] using inv
    · have running : (s.pool.vmStateSet s.slot .running).vm s.slot =
          { s.vm with state := .running } := by
        unfold vm at lives ⊢
        rcases lives with state | state <;> simp [VmPool.vmStateSet, state]
      simp only [next, here]
      show StopInv ((s.pool.vmStateSet s.slot .running).vm s.slot) s.vcpu
        (.counted k) s.call s.release
        s.returned s.frees
      rw [running]
      rw [here] at count
      exact StopInv.account inv early rfl (.inr rfl) count (by simp [here]) (by simp)
    · cases ok with
      | true =>
        simp only [next, here, if_true]
        exact StopInv.taskCreated inv here
      | false =>
        have aborted : (s.pool.vmVcpuStartAbort s.slot).vm s.slot =
            { s.vm with nrVcpuAlive := s.vm.nrVcpuAlive - 1 } := by
          simp [VmPool.vmVcpuStartAbort, vm]
        simp only [next, here]
        show StopInv ((s.pool.vmVcpuStartAbort s.slot).vm s.slot) s.vcpu .stopping s.call s.release
          s.returned s.frees
        rw [aborted]
        refine StopInv.account inv early rfl lives ?_ (by simp) (by simp)
        simp [here, CreatorPc.counting] at count
        simp [CreatorPc.counting, count]
    · simpa [next, here] using inv
  | _ => rcases creates with rfl | rfl | ⟨ok, rfl⟩ | rfl <;> simpa [next, here] using inv

theorem Good.visit (inv : s.Good) (t : StopCaller nr) : (s.next (.visit t)).Good := by
  simp only [next]
  split
  · exact inv
  · rename_i calls
    have may := (inv.caller t _ calls).1
    have after := StopInv.returns inv calls
    cases t with
    | vcpu i =>
      have stopping : (s.vcpu i).pc = .stopping := may
      refine StopInv.set after ?_ (.inr ⟨rfl, ?_, .inr ?_⟩) id id
      · obtain ⟨gate, task, swept, kicked, asleep, runs, settled, earlier⟩ := after.each i
        constructor <;> grind -linarith [TaskPc.active]
      · simp [stopping, TaskPc.active]
      · simp
    | creator =>
      have stopping : s.creator = .stopping := may
      have free := inv.quiet (by rw [stopping]; simp)
      exact after.creatorFrees free (update_self _ _ _) (by rw [stopping]; rfl)
    | outside => exact after
  · rename_i i rest calls
    have caller := inv.caller t _ calls
    apply StopInv.visited inv calls
      ((inv.each i).visit caller.2.1 (caller.2.2.imp id fun none => none i)).1 rfl (fun _ => rfl) id
    · rintro j ⟨⟩
      rw [update_self]
      rfl
    · simp
  · rename_i i rest calls
    have caller := inv.caller t _ calls
    apply StopInv.visited inv calls
      ((inv.each i).visit caller.2.1 (caller.2.2.imp id fun none => none i)).2 rfl id (fun _ => rfl)
    · simp
    · rintro j ⟨⟩
      rw [update_self]

theorem Good.free (inv : s.Good) (t : StopCaller nr) : (s.next (.free t)).Good := by
  simp only [next]
  split
  · exact inv
  · rename_i begun
    show StopInv ((s.pool.vmFreeBegin s.slot).1.vm s.slot) s.vcpu s.creator s.call
      (update s.release t _) s.returned s.frees
    unfold VmPool.vmFreeBegin
    split
    · rename_i refused
      exact StopInv.freeRefused inv begun refused
    · rename_i going
      rw [set_vm_self]
      exact StopInv.freeBegins inv begun going
  · rename_i tears
    show StopInv ((s.pool.vmFreeEnd s.slot).vm s.slot) _ s.creator s.call _ s.returned (s.frees + 1)
    rw [VmPool.vmFreeEnd, set_vm_self]
    exact StopInv.freeEnds inv tears

theorem Good.step (inv : s.Good) (guard : s.stopGuard action) : (s.next action).Good := by
  cases action with
  | started => exact inv.creates (.inl rfl)
  | setRunning => exact inv.creates (.inr (.inl rfl))
  | taskCreate ok => exact inv.creates (.inr (.inr (.inl ⟨ok, rfl⟩)))
  | loadFails => exact inv.creates (.inr (.inr (.inr rfl)))
  | vcpu => exact inv.vcpu guard
  | stop =>
    simp only [next]
    split
    · rename_i may
      show StopInv ((s.pool.setStopReq s.slot).vm s.slot)
        s.vcpu s.creator _ s.release s.returned s.frees
      rw [VmPool.setStopReq, set_vm_self]
      exact StopInv.stop inv may.1 guard.1 guard.2
    · exact inv
  | visit t => exact inv.visit t
  | report i =>
    simp only [next]
    split
    · rename_i here
      have lives := inv.lives (.inr ⟨i, by rw [here]; rfl⟩)
      have stopped : s.pool.vmVcpuStopped s.slot =
          (s.pool.set s.slot { s.vm with nrVcpuAlive := s.vm.nrVcpuAlive - 1 },
            s.vm.nrVcpuAlive - 1 == 0) := by
        unfold vm at lives ⊢
        rcases lives with state | state <;> simp [VmPool.vmVcpuStopped, state]
      rw [stopped]
      show StopInv ((s.pool.set s.slot _).vm s.slot) _ s.creator s.call _ s.returned s.frees
      rw [set_vm_self]
      exact StopInv.report inv here
    · exact inv
  | free t => exact inv.free t

structure Safe (s : VmHost nr) : Prop where
  woken : s.returned = true → ∀ i, ((s.vcpu i).pc = .waiting → (s.vcpu i).start = true) ∧
    ((s.vcpu i).pc = .sleeping → (s.vcpu i).wake = true)
  last : s.vm.state = .dying ∨ s.vm.state = .free → ∀ i, (s.vcpu i).pc.active = false
  once : s.frees ≤ 1
  freed : s.creator = .done → (∀ i, (s.vcpu i).pc.active = false) → (∀ t, s.release t = .idle) →
    s.frees = 1

theorem Good.safe (inv : s.Good) : s.Safe where
  woken := fun back i =>
    ⟨((inv.each i).swept (inv.returned back i).1).1,
      ((inv.each i).kicked (inv.returned back i).2).1⟩
  last := fun ends => (inv.ended ends).1
  once := by
    rw [inv.frees]
    split <;> omega
  freed := by
    intro done nobody idle
    have free : s.vm.state = .free := by
      have owed := fun lives => inv.owed lives done nobody
      have dying := inv.dying
      cases state : s.vm.state <;> simp [state, idle] at owed dying ⊢
    rw [inv.frees, if_pos free]

end VmHost

theorem good_start (pool : VmPool) (slot : Nat) (first : Fin nr) :
    (VmHost.start pool slot first).Good := by
  have vm : (VmHost.start pool slot first).vm =
      ⟨.loading, pool.nextVmid, 0, false, pool.allocs⟩ := by
    simp [VmHost.start, VmHost.vm, VmPool.allocAt]
  unfold VmHost.Good
  rw [vm]
  constructor <;> simp [VmHost.start, TaskPc.active, activeCount, CreatorPc.counting]
  intro i
  constructor <;> simp [TaskPc.active]

/-- As long as no stop is requested too early, one that has returned has woken every vCPU, and the
slot is freed once, after the last vCPU has reported. -/
theorem vm_stops {pool : VmPool} {slot : Nat} {first : Fin nr} {actions : List (StopAction nr)}
    {s : VmHost nr} (run : Run (Guarded (graph VmHost.next)
      VmHost.stopGuard) (.start pool slot first) actions s) : s.Safe := by
  have good : s.Good :=
    run.guarded (fun _ _ inv guard => inv.step guard) (good_start pool slot first)
  exact good.safe

open scoped Numerals

def twoVcpus : List (StopAction 2) :=
  [.started, .setRunning, .taskCreate true, .started, .taskCreate true, .vcpu 1 .begin,
    .vcpu 0 .begin, .vcpu 0 .enter]

def stopsTwo : List (StopAction 2) :=
  twoVcpus ++ [.vcpu 0 .leave, .stop (.vcpu 0), .visit (.vcpu 0), .visit (.vcpu 0),
    .visit (.vcpu 0),
    .visit (.vcpu 0), .visit (.vcpu 0), .report 0, .vcpu 1 .passGate, .vcpu 1 .enter,
    .stop (.vcpu 1),
    .visit (.vcpu 1), .visit (.vcpu 1), .visit (.vcpu 1), .visit (.vcpu 1),
    .visit (.vcpu 1), .report 1, .free (.vcpu 1), .free (.vcpu 1)]

instance VmHost.stopGuardDecidable (s : VmHost nr) :
    (action : StopAction nr) → Decidable (s.stopGuard action)
  | .stop _ => inferInstanceAs (Decidable (_ ∧ ∀ _, _))
  | .vcpu _ _ => inferInstanceAs (Decidable (_ → _))
  | .started | .setRunning | .taskCreate _ | .loadFails | .visit _ | .report _ | .free _ =>
    inferInstanceAs (Decidable True)

theorem stopsTwo_safe :
    (stopsTwo.foldl VmHost.next (.start .boot 0 0)).Safe ∧
      (stopsTwo.foldl VmHost.next (.start .boot 0 0)).frees = 1 :=
  ⟨vm_stops (run_of_passes (fun _ _ => of_decide_eq_true) (by decide +kernel)),
    by decide +kernel⟩

def earlyStop : List (StopAction 2) :=
  [.started, .setRunning, .taskCreate true, .started, .taskCreate true, .vcpu 0 .begin,
    .vcpu 0 .enter, .vcpu 0 .leave, .stop (.vcpu 0), .visit (.vcpu 0), .visit (.vcpu 0),
    .visit (.vcpu 0), .visit (.vcpu 0), .visit (.vcpu 0), .report 0, .vcpu 1 .begin]

/-- The AP waits at its gate, which nobody opens any more. -/
theorem earlyStop_waits :
    Run (graph VmHost.next) (.start .boot 0 0) earlyStop
        (earlyStop.foldl VmHost.next (.start .boot 0 0)) ∧
      ¬ (earlyStop.foldl VmHost.next (.start .boot 0 0)).Safe := by
  refine ⟨run_foldl _ _ _, fun safe => ?_⟩
  have woken := (safe.woken (by decide +kernel) 1).1 (by decide +kernel)
  revert woken
  decide +kernel

end AvatarKernel
