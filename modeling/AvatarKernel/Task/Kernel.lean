import Mathlib.Algebra.GroupWithZero.Nat
import Mathlib.Data.List.FinRange

namespace AvatarKernel

open Function

abbrev taskMax : Nat := 64

instance taskMax_neZero : NeZero taskMax := ⟨by decide⟩

/-- An index of `g_task_pool`. -/
abbrev Slot : Type := Fin taskMax

/-- The task identifiers and `wait_pid`: `uint32_t`. -/
abbrev Pid : Type := BitVec 32

inductive TaskState where
  | allocating
  | ready
  | running
  | blocked
  | dead
  deriving DecidableEq, Repr

/-- The fields of `task_t` that the functions below read or write. `cpuAffinity` is `none` for
`CPU_AFFINITY_ANY`, `pgd` is 0 for `NULL`. -/
structure Tcb where
  state : TaskState
  id : Pid
  parentId : Pid
  tgid : Pid
  isUserProcess : Bool
  isThread : Bool
  sharesPgd : Bool
  pgd : Nat
  ctidPtr : Nat
  exitStatus : BitVec 32
  exitSignal : BitVec 32
  isWaiting : Bool
  waitPid : Pid
  cpuAffinity : Option Nat
  onCpu : Bool
  wakePending : Bool

/-- `memset(task, 0, sizeof(*task))`: `TASK_READY` is 0, and the affinity 0 is that of CPU 0. -/
def Tcb.zero : Tcb where
  state := .ready
  id := 0
  parentId := 0
  tgid := 0
  isUserProcess := false
  isThread := false
  sharesPgd := false
  pgd := 0
  ctidPtr := 0
  exitStatus := 0
  exitSignal := 0
  isWaiting := false
  waitPid := 0
  cpuAffinity := some 0
  onCpu := false
  wakePending := false

/-- Who the slot claimed by `task_alloc_slot` is for: `task_create_affinity`, the thread and the
fork path of `clone_handler`, or `task_execve`, with the page table that was built. -/
inductive Birth where
  | kernelTask (affinity : Option Nat)
  | thread (ctid : Nat)
  | fork (pgd : Option Nat)
  | exec (pgd : Nat)
  deriving DecidableEq

/-- The arguments of `wait_handler`, and whether the user pointers can be written. -/
structure WaitArgs where
  pid : Pid
  noHang : Bool
  writable : Bool
  deriving DecidableEq

/-- The loops over `g_task_pool` that hold no lock: one slot is looked at in each step. -/
inductive Scan where
  /-- the first loop of `notify_parent_wait` -/
  | notify
  /-- the loop of `wait_handler` that looks for any matching child -/
  | waitHas (args : WaitArgs)
  /-- its two loops that look for a dead child, before and after blocking -/
  | waitFind (again : Bool) (args : WaitArgs)
  /-- the loop of `task_execve` that looks for the new process -/
  | execFind (child : Pid)
  /-- the loop of `exit_group_handler` -/
  | group (tgid : Pid) (status : BitVec 32)
  deriving DecidableEq

/-- The atomic pieces of kernel code: one critical section, or one unlocked access to data that
other CPUs use. -/
inductive Op (n : Nat) where
  /-- `sched_schedule`, up to the release of `rq_lock` -/
  | schedule
  /-- `state = TASK_BLOCKED` of the current task; `sched_schedule` follows -/
  | block
  /-- `sched_unblock` -/
  | unblock (i : Slot)
  /-- `task_alloc_slot`: the section that takes a reapable orphan -/
  | orphanScan (birth : Birth)
  /-- `task_alloc_slot`: the section that takes a free slot -/
  | claimSlot (birth : Birth)
  | clearTcb (i : Slot) (birth : Birth)
  | initTcb (i : Slot) (birth : Birth)
  /-- `state = TASK_READY` of a new task -/
  | setReady (i : Slot) (birth : Birth)
  /-- `sched_enqueue`: the choice of the CPU -/
  | place (i : Slot) (birth : Birth)
  /-- `sched_enqueue`: the section that inserts the task -/
  | insert (i : Slot) (cpu : Fin n)
  /-- `task_reap_dead`, the section -/
  | reap (i : Slot)
  /-- `slot_take_and_free`: the user page table -/
  | destroyPgd (i : Slot)
  /-- `slot_take_and_free`: the section -/
  | freeSlot (i : Slot)
  /-- the fatal signal of `deliver_pending_signals` -/
  | signalExit (signal : BitVec 32)
  /-- `sys_exit` up to the store through `ctid_ptr` -/
  | exitStart (status : BitVec 32)
  /-- `task_exit`: the section that sets `TASK_DEAD` -/
  | exitMark
  | dequeueStart (i : Slot)
  /-- `sched_dequeue`: the queues that are still to be searched -/
  | dequeue (i : Slot) (cpus : List (Fin n))
  /-- `exit_group_handler`: the writes to one thread -/
  | groupMark (i : Slot) (status : BitVec 32)
  /-- `sys_futex_wait`: `copy_from_user_bytes` -/
  | futexRead (uaddr : Nat) (val : BitVec 32)
  /-- `sys_futex_wait`: the section -/
  | futexQueue (uaddr : Nat) (val curVal : BitVec 32)
  /-- `sys_futex_wait` after `sched_schedule` -/
  | futexReturn (uaddr : Nat)
  /-- `futex_do_wake`: the section -/
  | futexWake (uaddr : Nat) (count : Int)
  /-- `futex_do_wake`: `sched_unblock` of one of the collected waiters -/
  | wakeWaiter (i : Slot)
  | setWaiting
  | setWaitPid (pid : Pid)
  /-- `wait_handler` after `task_block` -/
  | waitResume (args : WaitArgs)
  /-- `wait_write_result` for the child that was found -/
  | waitReport (i : Slot) (args : WaitArgs)
  /-- `task_execve`: the exit status of the new process is taken over -/
  | execCollect (i : Slot)
  | scan (kind : Scan) (rest : List Slot)
  /-- a store of the user program -/
  | store (uaddr : Nat) (val : BitVec 32)

/-- Where a CPU stands in `sched_schedule`: outside of it, past the release of `rq_lock` with
nothing to switch to, or past it with the next task (`none` is the idle task) not yet published. -/
inductive Phase where
  | running
  | resuming
  | switching (next : Option Slot)
  deriving DecidableEq

structure FutexEntry where
  uaddr : Nat
  waiter : Option Slot

abbrev futexTableSize : Nat := 64

/-- The kernel with `n` CPUs. `current` is `none` while a CPU runs its idle task; `code` is what a
task has still to execute in the kernel. The last four fields are history: how often a slot was
claimed, which occupancies were taken and freed, and what `wait4` returned. -/
structure Kernel (n : Nat) where
  tcb : Slot → Tcb
  used : Slot → Bool
  queue : Fin n → List Slot
  current : Fin n → Option Slot
  phase : Fin n → Phase
  code : Slot → List (Op n)
  rrCounter : Nat
  idCnt : Pid
  futex : Fin futexTableSize → FutexEntry
  word : Nat → Nat → Option (BitVec 32)
  born : Slot → Nat
  taken : List (Slot × Nat)
  freed : List (Slot × Nat)
  reported : List (Slot × Nat × BitVec 32)

namespace Kernel

variable {n : Nat}

def modify (s : Kernel n) (i : Slot) (change : Tcb → Tcb) : Kernel n :=
  { s with tcb := update s.tcb i (change (s.tcb i)) }

def setState (s : Kernel n) (i : Slot) (state : TaskState) : Kernel n :=
  s.modify i fun t => { t with state := state }

def setQueue (s : Kernel n) (c : Fin n) (queue : List Slot) : Kernel n :=
  { s with queue := update s.queue c queue }

/-- `list_insert_last(&c->run_queue, &task->run_node)`. -/
def insertLast (s : Kernel n) (c : Fin n) (i : Slot) : Kernel n :=
  s.setQueue c (s.queue c ++ [i])

def setPhase (s : Kernel n) (c : Fin n) (phase : Phase) : Kernel n :=
  { s with phase := update s.phase c phase }

def setCurrent (s : Kernel n) (c : Fin n) (task : Option Slot) : Kernel n :=
  { s with current := update s.current c task }

def setCode (s : Kernel n) (i : Slot) (code : List (Op n)) : Kernel n :=
  { s with code := update s.code i code }

def setUsed (s : Kernel n) (i : Slot) (used : Bool) : Kernel n :=
  { s with used := update s.used i used }

def setWord (s : Kernel n) (pgd uaddr : Nat) (val : BitVec 32) : Kernel n :=
  { s with word := update s.word pgd (update (s.word pgd) uaddr (some val)) }

def take (s : Kernel n) (i : Slot) : Kernel n :=
  { s.setState i .allocating with taken := (i, s.born i) :: s.taken }

end Kernel

end AvatarKernel
