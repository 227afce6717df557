import AvatarKernel.Task.Kernel
import AvatarKernel.Lib.Transition

namespace AvatarKernel

open Function

namespace Kernel

variable {n : Nat} [NeZero n]

/-- The CPU whose `rq_lock` `sched_unblock` takes:
`(task->cpu_affinity < n) ? task->cpu_affinity : 0`. -/
def home (s : Kernel n) (i : Slot) : Fin n :=
  match (s.tcb i).cpuAffinity with
  | some cpu => if inside : cpu < n then ⟨cpu, inside⟩ else 0
  | none => 0

def requeue (s : Kernel n) (c : Fin n) : Kernel n :=
  match s.current c with
  | some prev =>
    if (s.tcb prev).state = .running then (s.setState prev .ready).insertLast c prev else s
  | none => s

/-- `pick_next`; `none` is the idle task. -/
def pickNext (s : Kernel n) (c : Fin n) : Kernel n × Option Slot :=
  match s.queue c with
  | [] => (s, none)
  | next :: rest => (s.setQueue c rest, some next)

/-- The current task leaves the CPU; a wake-up that came in the meantime puts it into the queue. -/
def switchOut (s : Kernel n) (c : Fin n) : Kernel n :=
  match s.current c with
  | some prev =>
    if (s.tcb prev).wakePending then
      (s.modify prev fun t =>
        { t with onCpu := false, wakePending := false, state := .ready }).insertLast c prev
    else s.modify prev fun t => { t with onCpu := false }
  | none => s

def switchIn (s : Kernel n) (next : Option Slot) : Kernel n :=
  match next with
  | some i => s.modify i fun t => { t with state := .running, onCpu := true }
  | none => s

/-- `sched_schedule` up to the release of `rq_lock`. -/
def schedSection (s : Kernel n) (c : Fin n) : Kernel n :=
  let picked := (s.requeue c).pickNext c
  if picked.2 = s.current c then picked.1.setPhase c .resuming
  else ((picked.1.switchOut c).switchIn picked.2).setPhase c (.switching picked.2)

def markRunning (s : Kernel n) (c : Fin n) : Kernel n :=
  match s.current c with
  | some i => (s.setState i .running).setPhase c .running
  | none => s.setPhase c .running

/-- `sched_schedule` after the release: `c->current_task = next` and the switch of the stack. -/
def publish (s : Kernel n) (c : Fin n) (next : Option Slot) : Kernel n :=
  (s.setCurrent c next).setPhase c .running

def schedUnblock (s : Kernel n) (i : Slot) : Kernel n :=
  if (s.tcb i).state ≠ .blocked then s
  else if (s.tcb i).onCpu then s.modify i fun t => { t with state := .ready, wakePending := true }
  else (s.setState i .ready).insertLast (s.home i) i

def enqueueTarget (s : Kernel n) (affinity : Option Nat) : Fin n × Nat :=
  if n = 1 then (0, s.rrCounter)
  else
    match affinity with
    | none => (Fin.ofNat n s.rrCounter, (s.rrCounter + 1) % 2 ^ 32)
    | some cpu => (if inside : cpu < n then ⟨cpu, inside⟩ else 0, s.rrCounter)

def allSlots : List Slot := List.finRange taskMax

def reapableOrphan (s : Kernel n) (i : Slot) : Bool :=
  s.used i && (s.tcb i).state = .dead &&
    ((s.tcb i).parentId = 0 ||
      match allSlots.find? fun j => s.used j && (s.tcb j).id = (s.tcb i).parentId with
      | some parent => (s.tcb parent).state = .dead
      | none => true)

def orphan (s : Kernel n) : Option Slot :=
  allSlots.find? fun i => s.reapableOrphan i

/-- The slot that `task_alloc_slot` claims. -/
def freeSlot? (s : Kernel n) : Option Slot :=
  allSlots.find? fun i => !s.used i

def groupOf (s : Kernel n) (i : Slot) : Pid :=
  if (s.tcb i).tgid ≠ 0 then (s.tcb i).tgid else (s.tcb i).id

def newTcb (s : Kernel n) (creator : Slot) (birth : Birth) : Tcb :=
  let fresh : Tcb :=
    { Tcb.zero with
      state := .allocating
      id := s.idCnt
      tgid := s.idCnt
      waitPid := -1
      cpuAffinity := none }
  match birth with
  | .kernelTask _ => fresh
  | .thread ctid =>
    { fresh with
      isUserProcess := true
      isThread := true
      sharesPgd := true
      tgid := s.groupOf creator
      pgd := (s.tcb creator).pgd
      parentId := (s.tcb creator).id
      ctidPtr := ctid }
  | .fork pgd =>
    { fresh with
      isUserProcess := true
      pgd := pgd.getD 0
      parentId := (s.tcb creator).id }
  | .exec pgd =>
    { fresh with
      isUserProcess := true
      pgd := pgd
      parentId := (s.tcb creator).id }

def started (s : Kernel n) (i : Slot) : Birth → List (Op n)
  | .exec _ =>
    [.setWaiting, .setWaitPid (s.tcb i).id, .block, .scan (.execFind (s.tcb i).id) allSlots]
  | _ => []

/-- The page table that `slot_take_and_free` destroys. -/
def ownedPgd (s : Kernel n) (i : Slot) : Option Nat :=
  if (s.tcb i).isUserProcess && !(s.tcb i).sharesPgd && (s.tcb i).pgd != 0 then some (s.tcb i).pgd
  else none

def futexWaiters (s : Kernel n) (uaddr : Nat) (count : Int) : List (Fin futexTableSize) :=
  ((List.finRange futexTableSize).filter fun k =>
    (s.futex k).uaddr = uaddr && (s.futex k).waiter.isSome).take count.toNat

def clearFutex (s : Kernel n) (entries : List (Fin futexTableSize)) : Kernel n :=
  { s with futex := fun k => if k ∈ entries then ⟨0, none⟩ else s.futex k }

def freeFutex? (s : Kernel n) : Option (Fin futexTableSize) :=
  (List.finRange futexTableSize).find? fun k => (s.futex k).waiter.isNone

def waitStatus (s : Kernel n) (i : Slot) : BitVec 32 :=
  if (s.tcb i).exitSignal ≠ 0 then (s.tcb i).exitSignal &&& 0x7f
  else ((s.tcb i).exitStatus &&& 0xff) <<< 8

def matchesChild (s : Kernel n) (me j : Slot) (args : WaitArgs) : Bool :=
  s.used j && !(s.tcb j).isThread && (s.tcb j).parentId = (s.tcb me).id &&
    (!BitVec.slt 0 args.pid || (s.tcb j).id = args.pid)

def scanHit (s : Kernel n) (me j : Slot) : Scan → Bool
  | .notify =>
    s.used j && (s.tcb j).isWaiting && (s.tcb j).id = (s.tcb me).parentId &&
      ((s.tcb j).waitPid = -1 || (s.tcb j).waitPid = (s.tcb me).id)
  | .waitHas args => s.matchesChild me j args
  | .waitFind _ args => s.matchesChild me j args && (s.tcb j).state = .dead
  | .execFind child => s.used j && (s.tcb j).id = child
  | .group tgid _ =>
    s.used j && j ≠ me && (s.tcb j).state ≠ .dead && (s.tcb j).state ≠ .allocating &&
      (s.tcb j).isUserProcess && s.groupOf j = tgid

/-- What follows when the loop acts on slot `j`. -/
def scanFound (j : Slot) (rest : List Slot) : Scan → List (Op n)
  | .notify => [.unblock j]
  | .waitHas args => [.scan (.waitFind false args) allSlots]
  | .waitFind _ args => [.waitReport j args]
  | .execFind _ => [.execCollect j]
  | .group tgid status => [.groupMark j status, .dequeueStart j, .scan (.group tgid status) rest]

/-- What follows when the loop is through. -/
def scanDone : Scan → List (Op n)
  | .notify => []
  | .waitHas _ => []
  | .waitFind again args =>
    if again || args.noHang then []
    else [.setWaiting, .setWaitPid (if BitVec.slt 0 args.pid then args.pid else -1), .block,
      .waitResume args]
  | .execFind _ => [.exitMark]
  | .group _ status => [.exitStart status]

/-- One atomic piece of code run by task `me` on CPU `c`: the state after it and what it puts in
front of the code that is left. -/
def exec (s : Kernel n) (c : Fin n) (me : Slot) : Op n → Kernel n × List (Op n)
  | .schedule => (s.schedSection c, [])
  | .block => (s.setState me .blocked, [.schedule])
  | .unblock i => (s.schedUnblock i, [])
  | .orphanScan birth =>
    match s.orphan with
    | some i => (s.take i, [.destroyPgd i, .orphanScan birth])
    | none => (s, [.claimSlot birth])
  | .claimSlot birth =>
    match s.freeSlot? with
    | some i =>
      ({ (s.setState i .allocating).setUsed i true with
          born := update s.born i (s.born i + 1) }, [.clearTcb i birth])
    | none => (s, [])
  | .clearTcb i birth => (s.modify i fun _ => Tcb.zero, [.initTcb i birth])
  | .initTcb i birth =>
    let filled := { (s.modify i fun _ => s.newTcb me birth).setCode i [] with idCnt := s.idCnt + 1 }
    match birth with
    | .fork none => (filled.setUsed i false, [])
    | _ => (filled, [.setReady i birth])
  | .setReady i birth => (s.setState i .ready, .place i birth :: s.started i birth)
  | .place i birth =>
    if (s.tcb i).state = .running then (s, [])
    else
      let affinity := match birth with
        | .kernelTask affinity => affinity
        | _ => (s.tcb i).cpuAffinity
      let target := s.enqueueTarget affinity
      ({ s.modify i fun t => { t with cpuAffinity := some target.1.val } with
          rrCounter := target.2 }, [.insert i target.1])
  | .insert i cpu => (s.insertLast cpu i, [])
  | .reap i => if (s.tcb i).state = .dead then (s.take i, [.destroyPgd i]) else (s, [])
  | .destroyPgd i =>
    match s.ownedPgd i with
    | some _ => (s.modify i fun t => { t with pgd := 0 }, [.freeSlot i])
    | none => (s, [.freeSlot i])
  | .freeSlot i => ({ s.setUsed i false with freed := (i, s.born i) :: s.freed }, [])
  | .signalExit signal =>
    (s.modify me fun t => { t with exitSignal := signal }, [.exitStart (128 + signal)])
  | .exitStart status =>
    let s' := s.modify me fun t => { t with exitStatus := status }
    if (s.tcb me).ctidPtr ≠ 0 then
      (s'.setWord (s.tcb me).pgd (s.tcb me).ctidPtr 0,
        [.futexWake (s.tcb me).ctidPtr 0x7fffffff, .exitMark])
    else (s', [.exitMark])
  | .exitMark => (s.setState me .dead, [.scan .notify allSlots, .dequeueStart me, .schedule])
  | .dequeueStart i =>
    (s, [.dequeue i (match (s.tcb i).cpuAffinity with
      | some cpu => if cpu < n then s.home i :: List.finRange n else List.finRange n
      | none => List.finRange n)])
  | .dequeue i cpus =>
    match cpus with
    | [] => (s, [])
    | cpu :: rest =>
      if i ∈ s.queue cpu then (s.setQueue cpu ((s.queue cpu).erase i), [])
      else (s, [.dequeue i rest])
  | .groupMark i status => (s.modify i fun t => { t with exitStatus := status, state := .dead }, [])
  | .futexRead uaddr val =>
    match s.word (s.tcb me).pgd uaddr with
    | some curVal => (s, [.futexQueue uaddr val curVal])
    | none => (s, [])
  | .futexQueue uaddr val curVal =>
    if curVal ≠ val then (s, [])
    else
      match s.freeFutex? with
      | some k =>
        ({ s.setState me .blocked with futex := update s.futex k ⟨uaddr, some me⟩ },
          [.schedule, .futexReturn uaddr])
      | none => (s, [])
  | .futexReturn _ => (s, [])
  | .futexWake uaddr count =>
    let entries := s.futexWaiters uaddr count
    (s.clearFutex entries, entries.filterMap fun k => (s.futex k).waiter.map .wakeWaiter)
  | .wakeWaiter i => (s.schedUnblock i, [])
  | .setWaiting => (s.modify me fun t => { t with isWaiting := true }, [])
  | .setWaitPid pid => (s.modify me fun t => { t with waitPid := pid }, [])
  | .waitResume args =>
    (s.modify me fun t => { t with isWaiting := false }, [.scan (.waitFind true args) allSlots])
  | .waitReport i args =>
    if args.writable then
      ({ s with reported := (i, s.born i, s.waitStatus i) :: s.reported }, [.reap i])
    else (s, [])
  | .execCollect i =>
    (s.modify me fun t => { t with exitStatus := (s.tcb i).exitStatus }, [.reap i, .exitMark])
  | .scan kind rest =>
    match rest with
    | [] => (s, scanDone kind)
    | j :: rest =>
      if s.scanHit me j kind then
        (match kind with
          | .notify => s.modify j fun t => { t with isWaiting := false }
          | _ => s, scanFound j rest kind)
      else (s, [.scan kind rest])
  | .store uaddr val => (s.setWord (s.tcb me).pgd uaddr val, [])

/-- A CPU runs: it finishes `sched_schedule`, or executes the next piece of code of its current
task; the idle task calls `task_yield`. -/
def runCpu (s : Kernel n) (c : Fin n) : Kernel n :=
  match s.phase c with
  | .resuming => s.markRunning c
  | .switching next => s.publish c next
  | .running =>
    match s.current c with
    | none => s.schedSection c
    | some me =>
      match s.code me with
      | [] => s
      | op :: rest =>
        let result := (s.setCode me rest).exec c me op
        result.1.setCode me (result.2 ++ result.1.code me)

end Kernel

/-- What a task in user mode, or a kernel thread between two pieces of kernel code, can call. -/
inductive Call where
  | yield
  | block
  | create (birth : Birth)
  | taskExit
  | exit (status : BitVec 32)
  | killed (signal : BitVec 32)
  | exitGroup (status : BitVec 32)
  | wait (args : WaitArgs)
  | futexWait (uaddr : Nat) (val : BitVec 32)
  | futexWake (uaddr : Nat) (count : Int)
  | store (uaddr : Nat) (val : BitVec 32)

namespace Call

variable {n : Nat} [NeZero n]

/-- The kernel code of a call made by task `me`. -/
def code (s : Kernel n) (me : Slot) : Call → List (Op n)
  | .yield => [.schedule]
  | .block => [.block]
  | .create birth => [.orphanScan birth]
  | .taskExit => [.exitMark]
  | .exit status => [.exitStart status]
  | .killed signal => [.signalExit signal]
  | .exitGroup status => [.scan (.group (s.groupOf me) status) Kernel.allSlots]
  | .wait args => [.scan (.waitHas args) Kernel.allSlots]
  | .futexWait uaddr val => [.futexRead uaddr val]
  | .futexWake uaddr count => [.futexWake uaddr count]
  | .store uaddr val => [.store uaddr val]

end Call

/-- The steps of the machine: a CPU runs, its current task makes a call, a timer interrupt preempts
it, or an interrupt handler or other kernel code wakes a task up. -/
inductive Action (n : Nat) where
  | run (c : Fin n)
  | call (c : Fin n) (request : Call)
  | preempt (c : Fin n)
  | wake (i : Slot)

namespace Kernel

variable {n : Nat} [NeZero n]

/-- A call needs the CPU outside of `sched_schedule` and a task with nothing left to do. The kernel
side of a user process is not preempted, see `trap_preempt_kernel_side`. -/
def step (s : Kernel n) : Action n → Kernel n
  | .run c => s.runCpu c
  | .call c request =>
    match s.phase c, s.current c with
    | .running, some me => if (s.code me).isEmpty then s.setCode me (request.code s me) else s
    | _, _ => s
  | .preempt c =>
    match s.phase c, s.current c with
    | .running, some me =>
      if (s.code me).isEmpty || !(s.tcb me).isUserProcess then
        s.setCode me (.schedule :: s.code me)
      else s
    | _, _ => s
  | .wake i => s.schedUnblock i

/-- Numerals name the CPUs of a machine with two. -/
scoped instance twoCpus : NeZero 2 := ⟨by decide⟩

/-- The other CPUs start: `kernel_main` has created one kernel task, which waits in the queue of CPU
0, and every CPU runs its idle task. -/
def boot (n : Nat) [NeZero n] : Kernel n where
  tcb i :=
    if i = 0 then { Tcb.zero with id := 1, tgid := 1, waitPid := -1 }
    else { Tcb.zero with state := .dead }
  used i := decide (i = 0)
  queue c := if c = 0 then [0] else []
  current _ := none
  phase _ := .running
  code _ := []
  rrCounter := 1
  idCnt := 2
  futex _ := ⟨0, none⟩
  word _ _ := none
  born i := if i = 0 then 1 else 0
  taken := []
  freed := []
  reported := []

end Kernel

end AvatarKernel
