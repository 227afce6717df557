import AvatarKernel.Fd.Ledger
import AvatarKernel.Lib.Transition

namespace AvatarKernel

open Function
open Transition

theorem takeSlot_empty (s : FdState) (i : Fin fdPoolSize) :
    ((s.takeSlot i).pool i).vfsFile = none := by
  rw [FdState.takeSlot, FdState.setObj_pool_self]

theorem attachVfs_file (s : FdState) (i : Fin fdPoolSize) (file : Nat) :
    ((fdObjAttachVfs s i file).pool i).vfsFile = some file := by
  rw [fdObjAttachVfs, FdState.setObj_pool_self]

namespace Ledger

variable {s t : FdState} {owed : Nat → Nat} {file pid : Nat} {i j : Fin fdPoolSize}

theorem attach (led : Ledger s (alsoOwed owed file)) (empty : (s.pool i).vfsFile = none) :
    Ledger (fdObjAttachVfs s i file) owed := by
  apply led.setObj i _ (fun used => by cases used)
  intro f
  simp [alsoOwed, empty, pointsTo]

theorem slots_of_pointer (target : (s.pool i).vfsFile = some file) : s.slots file ≠ 0 := by
  have member : i ∈ Finset.univ.filter fun k => (s.pool k).vfsFile = some file := by
    simp [target]
  exact (Finset.card_pos.mpr ⟨i, member⟩).ne'

section

variable (led : Ledger s owed)
include led

theorem opened (target : (s.pool i).vfsFile = some file) :
    Ledger { s with openLog := file :: s.openLog } owed := by
  have alive : s.slots file + owed file ≠ 0 := by
    have slots := slots_of_pointer target
    omega
  constructor
  · exact led.files
  · exact led.free
  · intro f bound
    have before := led.fresh f bound
    have other : f ≠ file := fun same => alive (same ▸ before.1)
    exact ⟨before.1, before.2.1, by simpa [other] using before.2.2⟩
  · exact led.unclosed
  · intro f member gone
    have other : f ≠ file := fun same => alive (same ▸ gone)
    exact led.once f (by simpa [other] using member) gone

theorem undone (undone : Undone s t) : Ledger t owed := by
  have target : ∀ i, (t.pool i).vfsFile = (s.pool i).vfsFile := by
    intro i
    rcases undone.pool i with same | ⟨free, _, none⟩
    · rw [same]
    · rw [none, led.free i free]
  have slots : ∀ f, t.slots f = s.slots f := by
    intro f
    simp only [FdState.slots, target]
  have old : ∀ f, s.slots f + owed f ≠ 0 ∨ f ∈ s.openLog → f < s.nextFile := by
    intro f known
    by_contra above
    obtain ⟨unused, _, unopened⟩ := led.fresh f (Nat.le_of_not_lt above)
    exact known.elim (fun used => used unused) unopened
  constructor
  · intro f
    rw [slots]
    rcases undone.files f with same | ⟨above, none⟩
    · rw [same]
      exact led.files f
    · rw [none, if_pos (led.fresh f above).1]
  · intro i free
    rcases undone.pool i with same | ⟨_, _, none⟩
    · rw [same] at free ⊢
      exact led.free i free
    · exact none
  · intro f bound
    obtain ⟨unused, unclosed, unopened⟩ := led.fresh f (undone.next.trans bound)
    rw [slots, undone.opened]
    refine ⟨unused, ?_, unopened⟩
    rcases undone.closed with same | ⟨same, new⟩
    · rwa [same]
    · rw [same, List.mem_cons, not_or]
      exact ⟨by omega, unclosed⟩
  · intro f used
    rw [slots] at used
    have before := old f (.inl used)
    rcases undone.closed with same | ⟨same, _⟩
    · rw [same]
      exact led.unclosed f used
    · rw [same, List.mem_cons, not_or]
      exact ⟨by omega, led.unclosed f used⟩
  · intro f listed gone
    rw [slots] at gone
    rw [undone.opened] at listed
    have before := old f (.inr listed)
    rcases undone.closed with same | ⟨same, _⟩
    · rw [same]
      exact led.once f listed gone
    · rw [same, List.count_cons_of_ne (by omega)]
      exact led.once f listed gone

theorem ofOpened (opens : Opened s pid t) : Ledger t owed := by
  cases opens with
  | undone undone => exact led.undone undone
  | @file i fd free unused =>
    have attached := (led.takeSlot free).vfsAllocFile.attach (takeSlot_empty s i)
    exact (attached.setFd pid fd (some i)).opened (attachVfs_file _ i _)
  | @device i fd obj free unused type file =>
    refine (led.setObj_same i obj (fun _ => file) ?_).setFd pid fd (some i)
    rw [file, led.free i free]

theorem pipe2Handler (pid : Nat) (slot read write : Bool) :
    Ledger (pipe2Handler s pid slot read write).1 owed := by
  rcases pipe2Handler_cases s pid slot read write with
    undone | ⟨rd, wr, rdFd, wrFd, apart, freeRd, freeWr, _, _, made⟩
  · exact led.undone undone
  have taken := (led.takeSlot freeRd).takeSlot (by rwa [takeSlot_others s rd wr apart.symm])
  have reading := taken.vfsAllocFile.attach (i := rd)
    ((congrArg FdObj.vfsFile (takeSlot_others _ wr rd apart)).trans (takeSlot_empty s rd))
  have writing := reading.vfsAllocFile.attach (i := wr)
    ((congrArg FdObj.vfsFile (FdState.setObj_pool_of_ne _ _ apart.symm)).trans
      (takeSlot_empty _ wr))
  have entered := (writing.setFd pid rdFd (some rd)).setFd pid wrFd (some wr)
  have read : ((s.piped rd wr).pool rd).vfsFile = some s.nextFile :=
    (congrArg FdObj.vfsFile (FdState.setObj_pool_of_ne _ _ apart)).trans (attachVfs_file ..)
  rw [made]
  exact (entered.opened (i := rd) read).opened (attachVfs_file _ wr _)

theorem epollCreate1Handler (pid : Nat) (cloexec : Bool) :
    Ledger (epollCreate1Handler s pid cloexec).1 owed := by
  rcases epollCreate1Handler_cases s pid cloexec with undone | ⟨e, i, fd, _, _, free, _, made⟩
  · exact led.undone undone
  have object := ((led.setEpoll (update s.epollInUse e true)).takeSlot free).setObj_same i
    { (s.takeSlot i).pool i with type := .epoll, epIdx := e, created := s.nextCreated }
    (fun free => by cases free) rfl
  have entered : Ledger ((s.withEpoll i e).setFd pid fd (some i)) owed :=
    ⟨object.files, object.free, object.fresh, object.unclosed, object.once⟩
  rw [made]
  split
  · exact entered.setCloexec pid fd true
  · exact entered

theorem copied (free : (s.pool j).type = .free) (src : Option (Fin fdPoolSize)) (dupOk : Bool) :
    Ledger (s.copied src j dupOk) owed := by
  have taken := led.takeSlot free
  cases src with
  | none => exact taken
  | some i => exact (taken.copySlot i j dupOk (takeSlot_empty s j)).1

protected theorem dupToFd (pid : Nat) (oldfd newfd : Int) (cloexec dupOk : Bool) :
    Ledger (dupToFd s pid oldfd newfd cloexec dupOk).1 owed := by
  generalize call : dupToFd s pid oldfd newfd cloexec dupOk = r
  rcases dupToFd_cases call with ⟨same, _⟩ | ⟨old, new, _, _, _, undone | ⟨j, free, rfl⟩⟩
  · rw [same]
    exact led
  · exact (led.dropFd pid new).undone undone.1
  · exact (((led.dropFd pid new).copied free _ dupOk).setFd pid new (some j)).setCloexec
      pid new cloexec

protected theorem dupHandler (pid : Nat) (oldfd : Int) (dupOk : Bool) :
    Ledger (dupHandler s pid oldfd dupOk).1 owed := by
  unfold dupHandler
  split
  · exact led
  · split
    · exact led
    · split
      · exact led
      · exact led.dupToFd pid oldfd _ false dupOk

theorem dup3Handler (pid : Nat) (oldfd newfd : Int) (cloexec dupOk : Bool) :
    Ledger (dup3Handler s pid oldfd newfd cloexec dupOk).1 owed := by
  unfold AvatarKernel.dup3Handler
  split
  · exact led
  · exact led.dupToFd pid oldfd newfd cloexec dupOk

theorem forkHandler (parent child : Nat) (ready : Bool) (dupOk : Fin taskMaxFd → Bool) :
    Ledger (forkHandler s parent child ready dupOk) owed :=
  forkHandler_keeps (motive := fun s => Ledger s owed) parent child ready dupOk led
    (fun _ => led.setTask child _)
    fun _ _ j fd ledger free => (ledger.copied free _ _).setFd child fd (some j)

theorem inheritFd (parent child : Nat) (dupOk : Fin taskMaxFd → Bool) (fd : Fin taskMaxFd) :
    Ledger (inheritFd parent child dupOk s fd) owed := by
  rcases inheritFd_cases parent child dupOk s fd with undone | ⟨i, j, _, _, _, free, made⟩
  · exact led.undone undone
  · rw [made]
    exact (led.copied free _ _).setFd child fd (some j)

protected theorem fdTableInherit (child parent : Nat) (dupOk : Fin taskMaxFd → Bool) :
    Ledger (fdTableInherit s child parent dupOk) owed := by
  unfold fdTableInherit
  split
  · apply List.foldlRecOn (motive := fun s => Ledger s owed)
    · exact led
    · intro before ledger fd _
      exact ledger.inheritFd parent child dupOk fd
  · exact led

theorem closeAllFds (pid : Nat) : Ledger (closeAllFds s pid) owed := by
  apply List.foldlRecOn (motive := fun s => Ledger s owed)
  · exact led
  · intro before ledger fd _
    exact ledger.dropFd pid fd

protected theorem execHandler (pid new : Nat) (ready : Bool) (dupOk : Fin taskMaxFd → Bool) :
    Ledger (execHandler s pid new ready dupOk) owed := by
  unfold execHandler
  split
  · split
    · exact ((led.setTask new _).fdTableInherit new pid dupOk).closeAllFds pid
    · exact led
  · exact led

end

end Ledger

variable {s : FdState}

/-- A `fcntl(F_DUPFD)` that copies a slot with a file and then finds no descriptor for it. -/
def DupfdLeaks (s : FdState) : FdCall → Prop
  | .fcntlDup pid fd minfd _ _ => ∃ old i, toFd fd = some old ∧ taskGetFd s pid old = some i ∧
      (s.pool i).vfsFile ≠ none ∧ (∃ j, (s.pool j).type = .free) ∧
      freeFd s pid (dupFloor minfd) = none
  | _ => False

theorem copySlot_pool (s : FdState) (i j : Fin fdPoolSize) (dupOk : Bool) :
    (copySlot s i j dupOk).1.pool j = s.pool i := by
  rw [copySlot, (fdObjRef_same ..).1, FdState.setObj_pool_self]

protected theorem Ledger.fcntlDupfd (led : Ledger s owed)
    (kept : ¬ DupfdLeaks s (.fcntlDup pid fd minfd cloexec dupOk)) :
    Ledger (fcntlDupfd s pid fd minfd cloexec dupOk).1 owed := by
  generalize call : (fcntlDupfd s pid fd minfd cloexec dupOk).1 = t
  rcases fcntlDupfd_cases call with
    rfl | ⟨old, src, j, argument, source, free, ⟨found, full, rfl⟩ | ⟨new, _, rfl⟩⟩
  · exact led
  · obtain ⟨i, rfl⟩ := Option.isSome_iff_exists.mp found
    have noFile : (s.pool i).vfsFile = none := by
      by_contra file
      exact kept ⟨old, i, argument, source, file, ⟨j, free⟩, full⟩
    have other : i ≠ j := by
      rintro rfl
      exact (taskGetFd_used source).2 free
    apply (led.copied free (some i) dupOk).fdPoolFree
    rw [FdState.copied, copySlot_pool, takeSlot_others s j i other, noFile]
  · exact ((led.copied free src dupOk).setFd pid new (some j)).setCloexec pid new cloexec

protected theorem Ledger.fdCall (led : Ledger s owed) (call : FdCall) (kept : ¬ DupfdLeaks s call) :
    Ledger (fdCall s call) owed := by
  cases call with
  | openat => exact led.ofOpened (openatHandler_opened ..)
  | close pid =>
    unfold fdCall closeHandler
    dsimp only
    split
    · exact led
    · exact led.dropFd pid _
  | dup pid oldfd dupOk => exact led.dupHandler pid oldfd dupOk
  | dup3 pid oldfd newfd cloexec dupOk => exact led.dup3Handler pid oldfd newfd cloexec dupOk
  | fcntlDup => exact led.fcntlDupfd kept
  | fcntlSet pid _ cloexec =>
    unfold fdCall fcntlSetfd
    dsimp only
    split
    · exact led
    · split
      · exact led
      · exact led.setCloexec pid _ cloexec
  | pipe2 pid slot read write => exact led.pipe2Handler pid slot read write
  | fork parent child ready dupOk => exact led.forkHandler parent child ready dupOk
  | execve pid new ready dupOk => exact led.execHandler pid new ready dupOk
  | exit pid => exact (led.closeAllFds pid).setTask pid none
  | epollCreate pid cloexec => exact led.epollCreate1Handler pid cloexec
  | device => exact led.ofOpened (taskAllocDeviceFd_opened ..)

theorem fdBoot_ledger : Ledger fdBoot fun _ => 0 := by
  have slots : ∀ f, fdBoot.slots f = 0 := by
    intro f
    simp [FdState.slots, fdBoot]
  constructor
  · intro f
    rfl
  · intro i _
    rfl
  · intro f _
    exact ⟨rfl, List.not_mem_nil, List.not_mem_nil⟩
  · intro f _
    exact List.not_mem_nil
  · intro f opened
    cases opened

/-- What the reference counts promise: a file in memory has as many references as slots point to it,
at least one; a slot points to a file in memory; a file handed out has been closed, once, exactly if
no slot points to it. -/
structure FileContract (s : FdState) : Prop where
  counted : ∀ f refcnt, s.files f = some refcnt → refcnt = s.slots f ∧ 0 < s.slots f
  alive : ∀ i f, (s.pool i).vfsFile = some f → s.files f ≠ none
  closedOnce : ∀ f ∈ s.openLog, s.closeLog.count f = if s.slots f = 0 then 1 else 0

theorem Ledger.contract (led : Ledger s fun _ => 0) : FileContract s := by
  constructor
  · intro f refcnt count
    have entry := led.files f
    rw [count, Nat.add_zero] at entry
    split at entry
    · cases entry
    · next some => exact ⟨Option.some.inj entry, Nat.pos_of_ne_zero some⟩
  · intro i f target
    have slots := Ledger.slots_of_pointer target
    rw [led.files f, Nat.add_zero, if_neg slots]
    exact Option.some_ne_none _
  · intro f opened
    split
    · next gone => exact led.once f opened gone
    · next held => exact List.count_eq_zero.mpr (led.unclosed f held)

/-- In every run without a leaking `F_DUPFD` the reference counts are those of the pool, and every
file is closed once, when its last slot is released. -/
theorem fileContract_of_no_leak (calls : List FdCall) (s : FdState)
    (run : Run (Guarded (graph fdCall) fun s call => ¬ DupfdLeaks s call) fdBoot calls s) :
    FileContract s := by
  have ledger : Ledger s fun _ => 0 :=
    run.guarded (P := fun s => Ledger s fun _ => 0)
      (fun _ call ledger sound => ledger.fdCall call sound) fdBoot_ledger
  exact ledger.contract

def oneOpenFile : FdState :=
  fdCall (fdCall fdBoot (.execve 0 1 true fun _ => true)) (.openat 1 (.vfs true) 0)

theorem fileContract_after_dup : FileContract (fdCall oneOpenFile (.dup 1 3 true)) :=
  fileContract_of_no_leak [.execve 0 1 true fun _ => true, .openat 1 (.vfs true) 0, .dup 1 3 true] _
    (.snoc (.snoc (.snoc .nil ⟨id, rfl⟩) ⟨id, rfl⟩) ⟨id, rfl⟩)

/-- `fcntl(3, F_DUPFD, 256)` leaves a reference that no slot has. -/
theorem fileContract_broken_by_dupfd :
    ¬ FileContract (fdCall oneOpenFile (.fcntlDup 1 3 256 false true)) := by
  intro contract
  have count : (fdCall oneOpenFile (.fcntlDup 1 3 256 false true)).files 0 = some 2 := by
    decide +kernel
  have slots : (fdCall oneOpenFile (.fcntlDup 1 3 256 false true)).slots 0 = 1 := by
    decide +kernel
  have same := (contract.counted 0 2 count).1
  rw [slots] at same
  cases same

end AvatarKernel
