import AvatarKernel.Fd.Handlers
import AvatarKernel.Lib.BackRef

/- `io/epoll.c`: the items of the epoll instances and the wait queues of the pool objects, next to
the descriptor state of `Fd.Pool`. -/

namespace AvatarKernel

open Function
open BackRef

def epollMaxItems : Nat := 64

def fdWaitMax : Nat := 4

def epollErrHup : BitVec 32 := 0x018

structure EpollItem where
  fd : Fin taskMaxFd
  poolIdx : Fin fdPoolSize
  events : BitVec 32
  data : BitVec 64
  ready : Bool

/-- An item is told about an event if it asked for it, or if the event is an error or a hang-up. -/
def EpollItem.hears (item : EpollItem) (events : BitVec 32) : Bool :=
  item.events &&& events ≠ 0 || events &&& epollErrHup ≠ 0

/-- What `epoll_pwait` reports for an item, given the answers of `fd_poll`. -/
def EpollItem.matched (item : EpollItem) (poll : Fin taskMaxFd → BitVec 32) : BitVec 32 :=
  poll item.fd &&& item.events ||| poll item.fd &&& epollErrHup

/-- `epoll_instance_t`; `items` is the array up to `item_count`. -/
structure EpollInstance where
  items : List EpollItem
  readyCount : Int

/-- `fd_waiter_t`: an instance and the position of the item. -/
abbrev FdWaiter := Ref (Fin epollMaxInstances)

/-- The descriptor state with the wait queues and the instances. `home` is the pool object that a
pipe notifies for one of its ends (`rd_pool_idx`, `wr_pool_idx`); other files are looked up in the
pool. -/
structure EpollState where
  fd : FdState
  wq : Fin fdPoolSize → List FdWaiter
  inst : Fin epollMaxInstances → EpollInstance
  home : Nat → Option (Fin fdPoolSize)

namespace EpollState

def enoent : Int := 2
def enomem : Int := 12
def efault : Int := 14

def setInst (s : EpollState) (e : Fin epollMaxInstances) (inst : EpollInstance) : EpollState :=
  { s with inst := update s.inst e inst }

/-- `wq_register`, and whether there was room. -/
def wqRegister (s : EpollState) (o : Fin fdPoolSize) (w : FdWaiter) : EpollState × Bool :=
  if fdWaitMax ≤ (s.wq o).length then (s, false) else ({ s with wq := enlist s.wq o w }, true)

def wqUnregister (s : EpollState) (o : Fin fdPoolSize) (w : FdWaiter) : EpollState :=
  { s with wq := unlist s.wq o w }

def notifyWaiter (o : Fin fdPoolSize) (events : BitVec 32) (s : EpollState) (w : FdWaiter) :
    EpollState :=
  match (s.inst w.owner).items[w.pos]? with
  | none => s
  | some item =>
    if s.fd.epollInUse w.owner ∧ item.poolIdx = o ∧ item.hears events ∧ item.ready = false then
      s.setInst w.owner ⟨(s.inst w.owner).items.set w.pos { item with ready := true },
        (s.inst w.owner).readyCount + 1⟩
    else s

/-- `fd_notify_waiters`, without the task it wakes. -/
def fdNotifyWaiters (s : EpollState) (o : Fin fdPoolSize) (events : BitVec 32) : EpollState :=
  (s.wq o).foldl (notifyWaiter o events) s

/-- The item at `k`, whose waiter has been taken out, leaves the array: the last item takes its
place and is registered again under its new position. Common to `fd_close_notify` and
`EPOLL_CTL_DEL`. -/
def removeItem (s : EpollState) (e : Fin epollMaxInstances) (k : Nat) : EpollState :=
  let items := (s.inst e).items
  match items[k]?, items.getLast? with
  | some item, some last =>
    let moved :=
      if k + 1 < items.length then
        ((s.wqUnregister last.poolIdx ⟨e, items.length - 1⟩).wqRegister last.poolIdx ⟨e, k⟩).1
      else s
    moved.setInst e ⟨swapRemove items k, (s.inst e).readyCount - if item.ready then 1 else 0⟩
  | _, _ => s

def closeNotifyLoop : Nat → EpollState → Fin fdPoolSize → EpollState
  | 0, s, _ => s
  | n + 1, s, o =>
    match s.wq o with
    | [] => s
    | w :: _ =>
      let popped := { s with wq := update s.wq o (swapRemove (s.wq o) 0) }
      match (s.inst w.owner).items[w.pos]? with
      | none => closeNotifyLoop n popped o
      | some item =>
        if s.fd.epollInUse w.owner ∧ item.poolIdx = o then
          closeNotifyLoop n (popped.removeItem w.owner w.pos) o
        else closeNotifyLoop n popped o

/-- `fd_close_notify`. A round takes one waiter out of the queue. -/
def fdCloseNotify (s : EpollState) (o : Fin fdPoolSize) : EpollState :=
  closeNotifyLoop (s.wq o).length s o

/-- The part of `epoll_destroy` before the instance is freed. -/
def epollUnregister (s : EpollState) (e : Fin epollMaxInstances) : EpollState :=
  if s.fd.epollInUse e then
    { s with wq := (List.range (s.inst e).items.length).foldl (fun wq k =>
        match (s.inst e).items[k]? with
        | none => wq
        | some item =>
          if (s.fd.pool item.poolIdx).type = .free then wq
          else unlist wq item.poolIdx ⟨e, k⟩) s.wq }
  else s

/-- What `fd_close_notify` and then `fd_obj_close` do to queues and instances. -/
def closeObject (s : EpollState) (i : Fin fdPoolSize) : EpollState :=
  let told := s.fdCloseNotify i
  if (s.fd.pool i).type = .epoll ∧ (s.fd.pool i).vfsFile = none then
    told.epollUnregister (s.fd.pool i).epIdx
  else told

/-- A call changes the descriptor state. A slot that is free before or after it has an empty queue,
since `fd_pool_free` empties it; `dup`, `fork` and `epoll_create1` also reset it. -/
def withFd (s : EpollState) (after : FdState) : EpollState :=
  { s with
    fd := after
    wq := fun i => if (s.fd.pool i).type = .free ∨ (after.pool i).type = .free then [] else s.wq i }

/-- `close_handler`. -/
def close (s : EpollState) (pid : Nat) (fd : Int) : EpollState :=
  match (toFd fd).bind (s.fd.table pid) with
  | none => s
  | some i => (s.closeObject i).withFd (closeHandler s.fd pid fd).1

def dupCloses (s : EpollState) (pid : Nat) (oldfd newfd : Int) : Option (Fin fdPoolSize) :=
  match toFd oldfd, toFd newfd with
  | some old, some new =>
    if 2 < oldfd ∧ taskGetFd s.fd pid old = none then none else s.fd.table pid new
  | _, _ => none

/-- `dup3_handler`. -/
def dup3 (s : EpollState) (pid : Nat) (oldfd newfd : Int) (cloexec dupOk : Bool) : EpollState :=
  if oldfd = newfd then s
  else
    match s.dupCloses pid oldfd newfd with
    | none => s.withFd (dup3Handler s.fd pid oldfd newfd cloexec dupOk).1
    | some i => (s.closeObject i).withFd (dup3Handler s.fd pid oldfd newfd cloexec dupOk).1

/-- `pipe2_handler`; `pipe_alloc` notes the slots of the two new files. -/
def pipe2 (s : EpollState) (pid : Nat) (slot read write : Bool) : EpollState :=
  let after := (pipe2Handler s.fd pid slot read write).1
  { s.withFd after with
    home := fun file =>
      if file < s.fd.nextFile then s.home file
      else (List.finRange fdPoolSize).find? fun i => (after.pool i).vfsFile = some file }

/-- `epoll_create1_handler`: the instance found is cleared at once. -/
def epollCreate1 (s : EpollState) (pid : Nat) (cloexec : Bool) : EpollState :=
  match (epollInstanceAlloc s.fd).2 with
  | none => s
  | some e => (s.setInst e ⟨[], 0⟩).withFd (epollCreate1Handler s.fd pid cloexec).1

def epollOf (s : EpollState) (pid : Nat) (epfd : Int) : Option (Fin epollMaxInstances) :=
  ((toFd epfd).bind (taskGetFd s.fd pid)).bind fun i =>
    if (s.fd.pool i).type = .epoll ∧
      s.fd.epollInUse (s.fd.pool i).epIdx then some (s.fd.pool i).epIdx
    else none

/-- `EPOLL_CTL_ADD`, for an instance and an open descriptor with its pool object. -/
def ctlAdd (s : EpollState) (e : Fin epollMaxInstances) (fd : Fin taskMaxFd) (o : Fin fdPoolSize)
    (event : Option (BitVec 32 × BitVec 64)) (poll : Fin taskMaxFd → BitVec 32) :
    EpollState × Int :=
  let items := (s.inst e).items
  if items.any fun item => item.fd = fd then (s, -einval)
  else if epollMaxItems ≤ items.length then (s, -enomem)
  else
    match event with
    | none => (s, -efault)
    | some (events, data) =>
      match s.wqRegister o ⟨e, items.length⟩ with
      | (_, false) => (s, -enomem)
      | (listed, true) =>
        let ready := poll fd &&& events ≠ 0
        (listed.setInst e ⟨items ++ [⟨fd, o, events, data, ready⟩],
          (s.inst e).readyCount + if ready then 1 else 0⟩, 0)

/-- `EPOLL_CTL_DEL`; the waiter is looked for in the queue of the object the descriptor denotes. -/
def ctlDel (s : EpollState) (e : Fin epollMaxInstances) (fd : Fin taskMaxFd) (o : Fin fdPoolSize) :
    EpollState × Int :=
  match (s.inst e).items.findIdx? fun item => item.fd = fd with
  | none => (s, -enoent)
  | some found => ((s.wqUnregister o ⟨e, found⟩).removeItem e found, 0)

def ctlMod (s : EpollState) (e : Fin epollMaxInstances) (fd : Fin taskMaxFd)
    (event : Option (BitVec 32 × BitVec 64)) (poll : Fin taskMaxFd → BitVec 32) :
    EpollState × Int :=
  let items := (s.inst e).items
  match items.findIdx? fun item => item.fd = fd with
  | none => (s, -enoent)
  | some found =>
    match event, items[found]? with
    | some (events, data), some item =>
      let ready : Bool := poll fd &&& events ≠ 0
      let change : Int :=
        if !item.ready && ready then 1 else if item.ready && !ready then -1 else 0
      (s.setInst e ⟨items.set found { item with events := events, data := data, ready := ready },
        (s.inst e).readyCount + change⟩, 0)
    | _, _ => (s, -efault)

/-- `epoll_ctl_handler`. -/
def epollCtl (s : EpollState) (pid : Nat) (epfd op fd : Int)
    (event : Option (BitVec 32 × BitVec 64))
    (poll : Fin taskMaxFd → BitVec 32) : EpollState × Int :=
  match s.epollOf pid epfd with
  | none => (s, -ebadf)
  | some e =>
    if fd = epfd then (s, -einval)
    else
      match toFd fd with
      | none => (s, -ebadf)
      | some fd =>
        match taskGetFd s.fd pid fd with
        | none => (s, -ebadf)
        | some o =>
          if op = 1 then s.ctlAdd e fd o event poll
          else if op = 2 then s.ctlDel e fd o
          else if op = 3 then s.ctlMod e fd event poll
          else (s, -einval)

/-- The collection loop of `epoll_pwait`: the items afterwards and the events stored. -/
def collect (poll : Fin taskMaxFd → BitVec 32) :
    Nat → List EpollItem → List EpollItem × List (BitVec 32 × BitVec 64)
  | _, [] => ([], [])
  | 0, items => (items, [])
  | room + 1, item :: rest =>
    if item.ready then
      let (after, events) := collect poll room rest
      ({ item with ready := false } :: after, (item.matched poll, item.data) :: events)
    else
      let (after, events) := collect poll (room + 1) rest
      (item :: after, events)

/-- A round of `epoll_pwait_handler`: every item is polled again, and the ready ones are reported up
to `maxevents`. `none` is a round that ends with a time-out or goes to sleep. -/
def epollPwait (s : EpollState) (pid : Nat) (epfd maxevents : Int)
    (poll : Fin taskMaxFd → BitVec 32) :
    EpollState × Option (List (BitVec 32 × BitVec 64)) :=
  match s.epollOf pid epfd with
  | none => (s, none)
  | some e =>
    if maxevents ≤ 0 then (s, none)
    else
      let scanned := (s.inst e).items.map fun item => { item with ready := item.matched poll ≠ 0 }
      if scanned.any EpollItem.ready then
        let (after, events) := collect poll maxevents.toNat scanned
        (s.setInst e ⟨after, 0⟩, some events)
      else (s.setInst e ⟨scanned, 0⟩, none)

/-- The two ways in which the code raises an event on an open file: a pipe notifies the slot it has
noted for the end, a socket or a pty notifies every slot whose file is one of its own. -/
inductive FdNote where
  | pipe (file : Nat) (events : BitVec 32)
  | search (own : Nat → Bool) (events : BitVec 32)

def notify (s : EpollState) : FdNote → EpollState
  | .pipe file events =>
    match s.home file with
    | some i => s.fdNotifyWaiters i events
    | none => s
  | .search own events =>
    (List.finRange fdPoolSize).foldl (fun s i =>
      if (s.fd.pool i).vfsFile.any own then s.fdNotifyWaiters i events else s) s

end EpollState

/-- The operations on descriptors and epoll instances, each with the answers of the parts of the
kernel that are not modelled here. -/
inductive EpollCall where
  | openat (pid : Nat) (target : OpenTarget) (error : Int)
  | device (pid : Nat) (dmabuf : Bool)
  | pipe2 (pid : Nat) (slot read write : Bool)
  | epollCreate (pid : Nat) (cloexec : Bool)
  | dup (pid : Nat) (oldfd : Int) (dupOk : Bool)
  | dup3 (pid : Nat) (oldfd newfd : Int) (cloexec dupOk : Bool)
  | fcntlDup (pid : Nat) (fd minfd : Int) (cloexec dupOk : Bool)
  | fork (parent child : Nat) (ready : Bool) (dupOk : Fin taskMaxFd → Bool)
  | close (pid : Nat) (fd : Int)
  | ctl (pid : Nat) (epfd op fd : Int) (event : Option (BitVec 32 × BitVec 64))
      (poll : Fin taskMaxFd → BitVec 32)
  | pwait (pid : Nat) (epfd maxevents : Int) (poll : Fin taskMaxFd → BitVec 32)
  | note (note : EpollState.FdNote)

def EpollState.next (s : EpollState) : EpollCall → EpollState
  | .openat pid target error => s.withFd (openatHandler s.fd pid target error).1
  | .device pid dmabuf => s.withFd (taskAllocDeviceFd s.fd pid dmabuf).1
  | .pipe2 pid slot read write => s.pipe2 pid slot read write
  | .epollCreate pid cloexec => s.epollCreate1 pid cloexec
  | .dup pid oldfd dupOk => s.withFd (dupHandler s.fd pid oldfd dupOk).1
  | .dup3 pid oldfd newfd cloexec dupOk => s.dup3 pid oldfd newfd cloexec dupOk
  | .fcntlDup pid fd minfd cloexec dupOk => s.withFd (fcntlDupfd s.fd pid fd minfd cloexec dupOk).1
  | .fork parent child ready dupOk => s.withFd (forkHandler s.fd parent child ready dupOk)
  | .close pid fd => s.close pid fd
  | .ctl pid epfd op fd event poll => (s.epollCtl pid epfd op fd event poll).1
  | .pwait pid epfd maxevents poll => (s.epollPwait pid epfd maxevents poll).1
  | .note note => s.notify note

def EpollState.boot : EpollState := ⟨fdBoot, fun _ => [], fun _ => ⟨[], 0⟩, fun _ => none⟩

end AvatarKernel
