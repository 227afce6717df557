import Mathlib.Algebra.GroupWithZero.Nat
import Mathlib.Data.Fintype.Basic

namespace AvatarKernel

open Function

def fdPoolSize : Nat := 128

def taskMaxFd : Nat := 256

def epollMaxInstances : Nat := 16

instance : NeZero fdPoolSize := ⟨by decide⟩

instance : NeZero taskMaxFd := ⟨by decide⟩

inductive FdType where
  | free
  | allocated
  | vfs
  | ion
  | epoll
  | dmabuf
  deriving DecidableEq

/-- A slot of `g_fd_pool`. `ops` says whether the slot has a device's operation table. `created`
is history: the number of the `epoll_create1` call the object goes back to. -/
structure FdObj where
  type : FdType
  vfsFile : Option Nat
  ops : Bool
  epIdx : Fin epollMaxInstances
  created : Nat

/-- The descriptor fields of `task_t`; `none` is the table entry -1. -/
structure FdTask where
  isUserProcess : Bool
  fdTable : Fin taskMaxFd → Option (Fin fdPoolSize)
  fdCloexec : Fin taskMaxFd → Bool

/-- The descriptor state of the kernel. A `vfs_file_t` is named by a number that is never used
again; `files` holds the reference counts. `openLog` and `closeLog` are history: the files handed
out, and those closed. -/
structure FdState where
  pool : Fin fdPoolSize → FdObj
  files : Nat → Option Int
  epollInUse : Fin epollMaxInstances → Bool
  tasks : Nat → Option FdTask
  nextFile : Nat
  nextCreated : Nat
  openLog : List Nat
  closeLog : List Nat

namespace FdState

def setObj (s : FdState) (i : Fin fdPoolSize) (obj : FdObj) : FdState :=
  { s with pool := update s.pool i obj }

def setTask (s : FdState) (pid : Nat) (task : Option FdTask) : FdState :=
  { s with tasks := update s.tasks pid task }

def table (s : FdState) (pid : Nat) (fd : Fin taskMaxFd) : Option (Fin fdPoolSize) :=
  (s.tasks pid).bind fun task => task.fdTable fd

def setFd (s : FdState) (pid : Nat) (fd : Fin taskMaxFd) (entry : Option (Fin fdPoolSize)) :
    FdState :=
  s.setTask pid ((s.tasks pid).map fun task =>
    { task with fdTable := update task.fdTable fd entry })

def setCloexec (s : FdState) (pid : Nat) (fd : Fin taskMaxFd) (flag : Bool) : FdState :=
  s.setTask pid ((s.tasks pid).map fun task =>
    { task with fdCloexec := update task.fdCloexec fd flag })

end FdState

/-- `vfs_alloc_file`: a file with one reference, and its number. -/
def vfsAllocFile (s : FdState) : FdState × Nat :=
  ({ s with files := update s.files s.nextFile (some 1), nextFile := s.nextFile + 1 }, s.nextFile)

def vfsRef (s : FdState) (file : Nat) : FdState :=
  { s with files := update s.files file ((s.files file).map (· + 1)) }

def vfsClose (s : FdState) (file : Nat) : FdState :=
  match s.files file with
  | none => s
  | some refcnt =>
    if 0 < refcnt - 1 then { s with files := update s.files file (some (refcnt - 1)) }
    else { s with files := update s.files file none, closeLog := file :: s.closeLog }

def vfsDiscardUnopened (s : FdState) (file : Nat) : FdState :=
  { s with files := update s.files file none }

def epollInstanceAlloc (s : FdState) : FdState × Option (Fin epollMaxInstances) :=
  match (List.finRange epollMaxInstances).find? fun e => !s.epollInUse e with
  | none => (s, none)
  | some e => ({ s with epollInUse := update s.epollInUse e true }, some e)

def epollInstanceFree (s : FdState) (e : Fin epollMaxInstances) : FdState :=
  { s with epollInUse := update s.epollInUse e false }

def epollDestroy (s : FdState) (e : Fin epollMaxInstances) : FdState :=
  if s.epollInUse e then epollInstanceFree s e else s

def epollObject (s : FdState) (i : Fin fdPoolSize) (e : Fin epollMaxInstances) : FdState :=
  { s.setObj i { s.pool i with type := .epoll, epIdx := e, created := s.nextCreated } with
    nextCreated := s.nextCreated + 1 }

def fdPoolAlloc (s : FdState) : FdState × Option (Fin fdPoolSize) :=
  match (List.finRange fdPoolSize).find? fun i => (s.pool i).type = .free with
  | none => (s, none)
  | some i => (s.setObj i { s.pool i with type := .allocated, vfsFile := none }, some i)

def fdPoolFree (s : FdState) (i : Fin fdPoolSize) : FdState :=
  s.setObj i { s.pool i with type := .free, vfsFile := none, ops := false }

/-- `fd_obj_ref`: whether it returned 0. `dupOk` is the answer of the device's `dup` operation. -/
def fdObjRef (s : FdState) (i : Fin fdPoolSize) (dupOk : Bool) : FdState × Bool :=
  if (s.pool i).type = .free then (s, false)
  else
    match (s.pool i).vfsFile with
    | some file => (vfsRef s file, true)
    | none => (s, if (s.pool i).ops then dupOk else true)

/-- `fd_obj_close`; the close operation of a device keeps no state here. -/
def fdObjClose (s : FdState) (i : Fin fdPoolSize) : FdState :=
  if (s.pool i).type = .free then s
  else
    match (s.pool i).vfsFile with
    | some file => (vfsClose s file).setObj i { s.pool i with vfsFile := none }
    | none => if (s.pool i).type = .epoll then epollDestroy s (s.pool i).epIdx else s

def fdObjAttachVfs (s : FdState) (i : Fin fdPoolSize) (file : Nat) : FdState :=
  s.setObj i { s.pool i with type := .vfs, vfsFile := some file, ops := false }

def freeFd (s : FdState) (pid : Nat) (first : Nat) : Option (Fin taskMaxFd) :=
  (List.finRange taskMaxFd).find? fun fd => decide (first ≤ fd.val) && (s.table pid fd).isNone

def taskAllocFd (s : FdState) (pid : Nat) (i : Fin fdPoolSize) : FdState × Option (Fin taskMaxFd) :=
  match freeFd s pid 3 with
  | none => (s, none)
  | some fd => (s.setFd pid fd (some i), some fd)

def taskGetFd (s : FdState) (pid : Nat) (fd : Fin taskMaxFd) : Option (Fin fdPoolSize) :=
  (s.table pid fd).filter fun i => (s.pool i).type ≠ .free

/-- The sequence of `close`, `dup_to_fd`, `execve` and `exit` for one descriptor: `task_take_fd`,
`fd_obj_close`, `fd_pool_free`. -/
def dropFd (s : FdState) (pid : Nat) (fd : Fin taskMaxFd) : FdState :=
  match s.table pid fd with
  | none => s
  | some i => fdPoolFree (fdObjClose (s.setFd pid fd none) i) i

end AvatarKernel
