import AvatarKernel.Fd.Pool

namespace AvatarKernel

def ebadf : Int := 9
def einval : Int := 22
def enfile : Int := 23
def emfile : Int := 24

/-- A system call's `int` argument as an index into the descriptor table. -/
def toFd (fd : Int) : Option (Fin taskMaxFd) :=
  if inside : 0 ≤ fd ∧ fd < taskMaxFd then some ⟨fd.toNat, by omega⟩ else none

/-- What opening a path comes to: a file of a mounted file system, opened before the slot is taken,
or a pty end, created after it. `false` is a failure of that step. -/
inductive OpenTarget where
  | vfs (opened : Bool)
  | pty (found created : Bool)

/-- The end of `openat_handler` for a file that `vfs_open` returned. -/
def openVfs (s : FdState) (pid : Nat) : FdState × Int :=
  let (opened, file) := vfsAllocFile s
  match fdPoolAlloc opened with
  | (full, none) => (vfsClose full file, -emfile)
  | (alloc, some i) =>
    match taskAllocFd (fdObjAttachVfs alloc i file) pid i with
    | (full, none) => (fdPoolFree (vfsClose full file) i, -emfile)
    | (done, some fd) => ({ done with openLog := file :: done.openLog }, fd.val)

/-- `pty_alloc_master` and `pty_open_slave`: the slot first, then the file. -/
def openPty (s : FdState) (pid : Nat) (created : Bool) : FdState × Int :=
  match fdPoolAlloc s with
  | (full, none) => (full, -emfile)
  | (alloc, some i) =>
    if created then
      let (opened, file) := vfsAllocFile alloc
      match taskAllocFd (fdObjAttachVfs opened i file) pid i with
      | (full, none) => (fdPoolFree (vfsDiscardUnopened full file) i, -emfile)
      | (done, some fd) => ({ done with openLog := file :: done.openLog }, fd.val)
    else (fdPoolFree alloc i, -emfile)

/-- `openat_handler`; an error of the path or the file system is returned as `error`. -/
def openatHandler (s : FdState) (pid : Nat) (target : OpenTarget) (error : Int) : FdState × Int :=
  match target with
  | .vfs true => openVfs s pid
  | .vfs false => (s, error)
  | .pty true created => openPty s pid created
  | .pty false _ => (s, error)

def closeHandler (s : FdState) (pid : Nat) (fd : Int) : FdState × Int :=
  match toFd fd with
  | none => (s, -ebadf)
  | some fd => (dropFd s pid fd, 0)

def copySlot (s : FdState) (i j : Fin fdPoolSize) (dupOk : Bool) : FdState × Bool :=
  fdObjRef (s.setObj j (s.pool i)) j dupOk

/-- `dup_to_fd`: what was open at `newfd` is closed first. -/
def dupToFd (s : FdState) (pid : Nat) (oldfd newfd : Int) (cloexec dupOk : Bool) :
    FdState × Int :=
  match toFd oldfd, toFd newfd with
  | some old, some new =>
    let src := taskGetFd s pid old
    if 2 < oldfd ∧ src = none then (s, -ebadf)
    else
      match fdPoolAlloc (dropFd s pid new), src with
      | (full, none), _ => (full, -emfile)
      | (alloc, some j), none =>
        ((alloc.setFd pid new (some j)).setCloexec pid new cloexec, newfd)
      | (alloc, some j), some i =>
        match copySlot alloc i j dupOk with
        | (copied, false) => (fdPoolFree copied j, -ebadf)
        | (copied, true) =>
          ((copied.setFd pid new (some j)).setCloexec pid new cloexec, newfd)
  | _, _ => (s, -ebadf)

def dupHandler (s : FdState) (pid : Nat) (oldfd : Int) (dupOk : Bool) : FdState × Int :=
  match toFd oldfd with
  | none => (s, -ebadf)
  | some old =>
    if 2 < oldfd ∧ taskGetFd s pid old = none then (s, -ebadf)
    else
      match freeFd s pid 3 with
      | none => (s, -emfile)
      | some new => dupToFd s pid oldfd new.val false dupOk

def dup3Handler (s : FdState) (pid : Nat) (oldfd newfd : Int) (cloexec dupOk : Bool) :
    FdState × Int :=
  if oldfd = newfd then (s, -einval) else dupToFd s pid oldfd newfd cloexec dupOk

def dupFloor (minfd : Int) : Nat := max 3 minfd.toNat

/-- `fcntl_handler` with `F_DUPFD` or `F_DUPFD_CLOEXEC`. The slot is copied and referenced before
a descriptor is looked for, and given back without a close if there is none. -/
def fcntlDupfd (s : FdState) (pid : Nat) (fd minfd : Int) (cloexec dupOk : Bool) : FdState × Int :=
  match toFd fd with
  | none => (s, -ebadf)
  | some old =>
    match taskGetFd s pid old with
    | none =>
      if 3 ≤ fd then (s, -ebadf)
      else
        match freeFd s pid (dupFloor minfd), fdPoolAlloc s with
        | none, _ => (s, -emfile)
        | some _, (full, none) => (full, -emfile)
        | some new, (alloc, some j) =>
          ((alloc.setFd pid new (some j)).setCloexec pid new cloexec, new.val)
    | some i =>
      match fdPoolAlloc s with
      | (full, none) => (full, -emfile)
      | (alloc, some j) =>
        let copied := (copySlot alloc i j dupOk).1
        match freeFd copied pid (dupFloor minfd) with
        | none => (fdPoolFree copied j, -emfile)
        | some new => ((copied.setFd pid new (some j)).setCloexec pid new cloexec, new.val)

def fcntlSetfd (s : FdState) (pid : Nat) (fd : Int) (cloexec : Bool) : FdState × Int :=
  match toFd fd with
  | none => (s, -ebadf)
  | some old =>
    if taskGetFd s pid old = none ∧ 3 ≤ fd then (s, -ebadf)
    else (s.setCloexec pid old cloexec, 0)

/-- The second half of `pipe_alloc`, with both slots taken: the files and the descriptors. `read`
and `write` say whether the two files could be allocated. -/
def pipeFiles (s : FdState) (pid : Nat) (rd wr : Fin fdPoolSize) (read write : Bool) :
    FdState × Int :=
  if read then
    let (opened, rdFile) := vfsAllocFile s
    let reading := fdObjAttachVfs opened rd rdFile
    if write then
      let (both, wrFile) := vfsAllocFile reading
      let writing := fdObjAttachVfs both wr wrFile
      match taskAllocFd writing pid rd with
      | (full, none) =>
        (fdPoolFree (fdPoolFree
          (vfsDiscardUnopened (vfsDiscardUnopened full rdFile) wrFile) rd) wr, -emfile)
      | (half, some rdFd) =>
        match taskAllocFd half pid wr with
        | (full, none) =>
          (fdPoolFree (fdPoolFree (vfsDiscardUnopened (vfsDiscardUnopened
            (full.setFd pid rdFd none) rdFile) wrFile) rd) wr, -emfile)
        | (done, some _) => ({ done with openLog := wrFile :: rdFile :: done.openLog }, 0)
    else (fdPoolFree (fdPoolFree (vfsDiscardUnopened reading rdFile) rd) wr, -emfile)
  else (fdPoolFree (fdPoolFree s rd) wr, -emfile)

/-- `pipe2_handler`: `pipe_alloc`, where `slot` says whether there is an unused pipe. -/
def pipe2Handler (s : FdState) (pid : Nat) (slot read write : Bool) : FdState × Int :=
  if slot then
    match fdPoolAlloc s with
    | (full, none) => (full, -emfile)
    | (first, some rd) =>
      match fdPoolAlloc first with
      | (full, none) => (fdPoolFree full rd, -emfile)
      | (second, some wr) => pipeFiles second pid rd wr read write
  else (s, -emfile)

/-- One round of the table copy in `clone_handler`; the answer of `fd_obj_ref` is not looked at. -/
def forkFd (parent child : Nat) (dupOk : Fin taskMaxFd → Bool) (s : FdState)
    (fd : Fin taskMaxFd) : FdState :=
  match taskGetFd s parent fd with
  | none => s
  | some i =>
    match fdPoolAlloc s with
    | (full, none) => full
    | (alloc, some j) => ((copySlot alloc i j (dupOk fd)).1).setFd child fd (some j)

/-- The fork path of `clone_handler`. `ready` says whether a task slot and the address space of the
child could be had. The child's table starts out empty. -/
def forkHandler (s : FdState) (parent child : Nat) (ready : Bool)
    (dupOk : Fin taskMaxFd → Bool) : FdState :=
  match s.tasks parent, s.tasks child with
  | some task, none =>
    if ready then
      (List.finRange taskMaxFd).foldl (forkFd parent child dupOk)
        (s.setTask child (some ⟨true, fun _ => none, task.fdCloexec⟩))
    else s
  | _, _ => s

def inheritFd (parent child : Nat) (dupOk : Fin taskMaxFd → Bool) (s : FdState)
    (fd : Fin taskMaxFd) : FdState :=
  if ((s.tasks parent).map fun task => task.fdCloexec fd) = some true then s
  else
    match taskGetFd s parent fd with
    | none => s
    | some i =>
      if (s.pool i).type = .epoll then s
      else
        match fdPoolAlloc s with
        | (full, none) => full
        | (alloc, some j) =>
          match copySlot alloc i j (dupOk fd) with
          | (copied, false) => fdPoolFree copied j
          | (copied, true) => copied.setFd child fd (some j)

def fdTableInherit (s : FdState) (child parent : Nat) (dupOk : Fin taskMaxFd → Bool) : FdState :=
  if (s.tasks parent).any fun task => task.isUserProcess then
    (List.finRange taskMaxFd).foldl (inheritFd parent child dupOk) s
  else s

/-- `exec_wrapper_close_fds`, and the same loop in `sys_exit`. -/
def closeAllFds (s : FdState) (pid : Nat) : FdState :=
  (List.finRange taskMaxFd).foldl (fun s fd => dropFd s pid fd) s

/-- `task_execve`: the program runs as a new task that inherits the descriptors, and the caller
waits for it with an empty table. `ready` says whether the image was loaded and the task created. -/
def execHandler (s : FdState) (pid new : Nat) (ready : Bool) (dupOk : Fin taskMaxFd → Bool) :
    FdState :=
  match s.tasks pid, s.tasks new with
  | some _, none =>
    if ready then
      closeAllFds (fdTableInherit
        (s.setTask new (some ⟨true, fun _ => none, fun _ => false⟩)) new pid dupOk) pid
    else s
  | _, _ => s

def sysExit (s : FdState) (pid : Nat) : FdState :=
  (closeAllFds s pid).setTask pid none

def epollCreate1Handler (s : FdState) (pid : Nat) (cloexec : Bool) : FdState × Int :=
  match epollInstanceAlloc s with
  | (full, none) => (full, -enfile)
  | (inst, some e) =>
    match fdPoolAlloc inst with
    | (full, none) => (epollInstanceFree full e, -enfile)
    | (alloc, some i) =>
      match taskAllocFd (epollObject alloc i e) pid i with
      | (full, none) => (epollInstanceFree (fdPoolFree full i) e, -emfile)
      | (done, some fd) => (if cloexec then done.setCloexec pid fd true else done, fd.val)

/-- `task_alloc_ion_fd` and `task_alloc_dmabuf_fd`. -/
def taskAllocDeviceFd (s : FdState) (pid : Nat) (dmabuf : Bool) : FdState × Int :=
  match fdPoolAlloc s with
  | (full, none) => (full, -1)
  | (alloc, some i) =>
    let made := alloc.setObj i
      { alloc.pool i with type := if dmabuf then .dmabuf else .ion, ops := true }
    match taskAllocFd made pid i with
    | (full, none) => (fdPoolFree full i, -1)
    | (done, some fd) => (done, fd.val)

/-- The calls, each with the answers of the parts of the kernel that are not modelled here. -/
inductive FdCall where
  | openat (pid : Nat) (target : OpenTarget) (error : Int)
  | close (pid : Nat) (fd : Int)
  | dup (pid : Nat) (oldfd : Int) (dupOk : Bool)
  | dup3 (pid : Nat) (oldfd newfd : Int) (cloexec dupOk : Bool)
  | fcntlDup (pid : Nat) (fd minfd : Int) (cloexec dupOk : Bool)
  | fcntlSet (pid : Nat) (fd : Int) (cloexec : Bool)
  | pipe2 (pid : Nat) (slot read write : Bool)
  | fork (parent child : Nat) (ready : Bool) (dupOk : Fin taskMaxFd → Bool)
  | execve (pid new : Nat) (ready : Bool) (dupOk : Fin taskMaxFd → Bool)
  | exit (pid : Nat)
  | epollCreate (pid : Nat) (cloexec : Bool)
  | device (pid : Nat) (dmabuf : Bool)

def fdCall (s : FdState) : FdCall → FdState
  | .openat pid target error => (openatHandler s pid target error).1
  | .close pid fd => (closeHandler s pid fd).1
  | .dup pid oldfd dupOk => (dupHandler s pid oldfd dupOk).1
  | .dup3 pid oldfd newfd cloexec dupOk => (dup3Handler s pid oldfd newfd cloexec dupOk).1
  | .fcntlDup pid fd minfd cloexec dupOk => (fcntlDupfd s pid fd minfd cloexec dupOk).1
  | .fcntlSet pid fd cloexec => (fcntlSetfd s pid fd cloexec).1
  | .pipe2 pid slot read write => (pipe2Handler s pid slot read write).1
  | .fork parent child ready dupOk => forkHandler s parent child ready dupOk
  | .execve pid new ready dupOk => execHandler s pid new ready dupOk
  | .exit pid => sysExit s pid
  | .epollCreate pid cloexec => (epollCreate1Handler s pid cloexec).1
  | .device pid dmabuf => (taskAllocDeviceFd s pid dmabuf).1

def fdBoot : FdState where
  pool := fun _ => ⟨.free, none, false, ⟨0, by decide⟩, 0⟩
  files := fun _ => none
  epollInUse := fun _ => false
  tasks := fun pid => if pid = 0 then some ⟨false, fun _ => none, fun _ => false⟩ else none
  nextFile := 0
  nextCreated := 0
  openLog := []
  closeLog := []

end AvatarKernel
