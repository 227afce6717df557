import AvatarKernel.Fd.SlotUse

namespace AvatarKernel

open Function (update update_eq_self_iff update_idem update_of_ne update_self)
open Transition

def FdState.cloexec (s : FdState) (pid : Nat) (fd : Fin taskMaxFd) : Bool :=
  (s.tasks pid).any fun task => task.fdCloexec fd

def fcntlGetfd (s : FdState) (pid : Nat) (fd : Int) : Int :=
  match toFd fd with
  | none => -ebadf
  | some old =>
    if taskGetFd s pid old = none ∧ 3 ≤ fd then -ebadf
    else if s.cloexec pid old then 1 else 0

/-- The part that `socket_handler` and `accept_handler` have in common: a slot, a file for the
socket, a descriptor. `created` says whether `vfs_create_socket_file` succeeded. -/
def sockFd (s : FdState) (pid : Nat) (created : Bool) : FdState × Int :=
  match fdPoolAlloc s with
  | (full, none) => (full, -emfile)
  | (alloc, some i) =>
    if created then
      let (opened, file) := vfsAllocFile alloc
      match taskAllocFd (fdObjAttachVfs opened i file) pid i with
      | (full, none) => (fdPoolFree (vfsClose full file) i, -emfile)
      | (done, some fd) => ({ done with openLog := file :: done.openLog }, fd.val)
    else (fdPoolFree alloc i, -emfile)

/-- `socket_handler`; `si` is what `ksock_create` returned. `SOCK_CLOEXEC` in the type is not looked
at. -/
def socketHandler (s : FdState) (pid : Nat) (si : Int) (created : Bool) : FdState × Int :=
  if si < 0 then (s, si) else sockFd s pid created

/-- `accept_handler`; `listening` says whether the descriptor's file is a socket and `newSi` is what
`ksock_accept` returned. -/
def acceptHandler (s : FdState) (pid : Nat) (fd : Int) (listening : Bool) (newSi : Int)
    (created : Bool) : FdState × Int :=
  match (toFd fd).bind (taskGetFd s pid) with
  | none => (s, -ebadf)
  | some _ =>
    if listening then if newSi < 0 then (s, newSi) else sockFd s pid created
    else (s, -ebadf)

/-- The calls that create, mark, copy and close descriptors. `cloexec` is the flag the caller asks
for; `openat`, `pipe2`, `socket` and `accept` ignore it. -/
inductive CloexecCall where
  | openat (pid : Nat) (target : OpenTarget) (error : Int) (cloexec : Bool)
  | pipe2 (pid : Nat) (slot read write : Bool) (cloexec : Bool)
  | epollCreate (pid : Nat) (cloexec : Bool)
  | socket (pid : Nat) (si : Int) (created : Bool) (cloexec : Bool)
  | accept (pid : Nat) (fd : Int) (listening : Bool) (newSi : Int) (created : Bool) (cloexec : Bool)
  | dup (pid : Nat) (oldfd : Int) (dupOk : Bool)
  | dup3 (pid : Nat) (oldfd newfd : Int) (cloexec dupOk : Bool)
  | fcntlDup (pid : Nat) (fd minfd : Int) (cloexec dupOk : Bool)
  | fcntlSet (pid : Nat) (fd : Int) (cloexec : Bool)
  | close (pid : Nat) (fd : Int)
  | fork (parent child : Nat) (ready : Bool) (dupOk : Fin taskMaxFd → Bool)
  | execve (pid new : Nat) (ready : Bool) (dupOk : Fin taskMaxFd → Bool)
  | exit (pid : Nat)

def cloexecCall (s : FdState) : CloexecCall → FdState × Int
  | .openat pid target error _ => openatHandler s pid target error
  | .pipe2 pid slot read write _ => pipe2Handler s pid slot read write
  | .epollCreate pid cloexec => epollCreate1Handler s pid cloexec
  | .socket pid si created _ => socketHandler s pid si created
  | .accept pid fd listening newSi created _ => acceptHandler s pid fd listening newSi created
  | .dup pid oldfd dupOk => dupHandler s pid oldfd dupOk
  | .dup3 pid oldfd newfd cloexec dupOk => dup3Handler s pid oldfd newfd cloexec dupOk
  | .fcntlDup pid fd minfd cloexec dupOk => fcntlDupfd s pid fd minfd cloexec dupOk
  | .fcntlSet pid fd cloexec => fcntlSetfd s pid fd cloexec
  | .close pid fd => closeHandler s pid fd
  | .fork parent child ready dupOk => (forkHandler s parent child ready dupOk, 0)
  | .execve pid new ready dupOk => (execHandler s pid new ready dupOk, 0)
  | .exit pid => (sysExit s pid, 0)

/-- The descriptor state with its history: the close-on-exec value that was asked for when a
descriptor was created, or by a later `F_SETFD`. -/
structure Descriptors where
  fd : FdState
  wanted : Nat → Fin taskMaxFd → Bool

def CloexecCall.creates : CloexecCall → Option (Nat × Bool)
  | .openat pid _ _ cloexec => some (pid, cloexec)
  | .pipe2 pid _ _ _ cloexec => some (pid, cloexec)
  | .epollCreate pid cloexec => some (pid, cloexec)
  | .socket pid _ _ cloexec => some (pid, cloexec)
  | .accept pid _ _ _ _ cloexec => some (pid, cloexec)
  | .dup pid _ _ => some (pid, false)
  | .fcntlDup pid _ _ cloexec _ => some (pid, cloexec)
  | _ => none

/-- The descriptors that are open after a call and were not before it get the flag the call asks
for; `dup3` and `F_SETFD` name theirs; a new task starts with what its creator has. -/
def Descriptors.wants (x : Descriptors) (call : CloexecCall) (after : FdState) (result : Int)
    (p : Nat) (f : Fin taskMaxFd) : Bool :=
  match call with
  | .dup3 pid _ newfd cloexec _ =>
    if p = pid ∧ toFd newfd = some f ∧ 0 ≤ result then cloexec else x.wanted p f
  | .fcntlSet pid fd cloexec =>
    if p = pid ∧ toFd fd = some f ∧ result = 0 then cloexec else x.wanted p f
  | .fork parent child _ _ =>
    if p = child ∧ (x.fd.tasks p).isNone then x.wanted parent f else x.wanted p f
  | .execve pid new _ _ =>
    if p = new ∧ (x.fd.tasks p).isNone then x.wanted pid f else x.wanted p f
  | call =>
    match call.creates with
    | none => x.wanted p f
    | some (pid, cloexec) =>
      if p = pid ∧ (x.fd.table p f).isNone ∧ (after.table p f).isSome then cloexec
      else x.wanted p f

def Descriptors.next (x : Descriptors) (call : CloexecCall) : Descriptors where
  fd := (cloexecCall x.fd call).1
  wanted := x.wants call (cloexecCall x.fd call).1 (cloexecCall x.fd call).2

def Descriptors.boot : Descriptors := ⟨fdBoot, fun _ _ => false⟩

/-- The bit of every open descriptor is the one asked for, and `F_GETFD` reports it. -/
structure CloexecContract (x : Descriptors) : Prop where
  bit : ∀ pid fd, (x.fd.table pid fd).isSome → x.fd.cloexec pid fd = x.wanted pid fd
  reported : ∀ pid fd, taskGetFd x.fd pid fd ≠ none →
    fcntlGetfd x.fd pid fd.val = if x.wanted pid fd then 1 else 0

def Stays (s : FdState) (pid : Nat) (fd : Fin taskMaxFd) : Prop :=
  (s.table pid fd).isSome = true ∧ s.cloexec pid fd = false

instance stays_decidable (s : FdState) (pid : Nat) : DecidablePred (Stays s pid) :=
  fun _ => inferInstanceAs (Decidable (_ ∧ _))

/-- An `execve` that succeeds closes the open descriptors whose bit is set, and no other: those with
a clear bit are open in the new program. -/
def ClosesMarked (s : FdState) : CloexecCall → Prop
  | .execve pid new ready dupOk =>
    ready = true → s.tasks pid ≠ none → s.tasks new = none → ∀ fd,
      ((execHandler s pid new ready dupOk).table new fd).isSome ↔ Stays s pid fd
  | _ => True

def unusedFds (s : FdState) (pid : Nat) : List (Fin taskMaxFd) :=
  (List.finRange taskMaxFd).filter fun fd => decide (3 ≤ fd.val) && (s.table pid fd).isNone

def freeSlots (s : FdState) : Nat :=
  (Finset.univ.filter fun i => (s.pool i).type = .free).card

/-- What `fd_table_inherit` needs to pass on every unmarked descriptor: a caller that is a user
process, objects in use that are no `epoll` instances, `dup` operations that succeed, and slots. -/
structure Inheritable (s : FdState) (pid : Nat) (dupOk : Fin taskMaxFd → Bool) : Prop where
  user : (s.tasks pid).any (fun task => task.isUserProcess) = true
  plain : ∀ fd, Stays s pid fd → ∀ i, s.table pid fd = some i →
    (s.pool i).type ≠ .free ∧ (s.pool i).type ≠ .epoll ∧
      ((s.pool i).vfsFile = none → (s.pool i).ops = true → dupOk fd = true)
  room : (List.finRange taskMaxFd).countP (fun fd => Stays s pid fd) ≤ freeSlots s

/-- The condition: the bit left behind at the lowest unused descriptor is the one asked for, since
nothing writes it there (`epoll_create1` can set it), and an `execve` can inherit. -/
def Fresh (s : FdState) : CloexecCall → Prop
  | .openat pid _ _ cloexec => ∀ fd ∈ (unusedFds s pid).take 1, s.cloexec pid fd = cloexec
  | .pipe2 pid _ _ _ cloexec => ∀ fd ∈ (unusedFds s pid).take 2, s.cloexec pid fd = cloexec
  | .socket pid _ _ cloexec => ∀ fd ∈ (unusedFds s pid).take 1, s.cloexec pid fd = cloexec
  | .accept pid _ _ _ _ cloexec => ∀ fd ∈ (unusedFds s pid).take 1, s.cloexec pid fd = cloexec
  | .epollCreate pid cloexec =>
    cloexec = true ∨ ∀ fd ∈ (unusedFds s pid).take 1, s.cloexec pid fd = false
  | .execve pid _ ready dupOk => ready = true → Inheritable s pid dupOk
  | _ => True

instance inheritable_decidable (s : FdState) (pid : Nat) (dupOk : Fin taskMaxFd → Bool) :
    Decidable (Inheritable s pid dupOk) :=
  decidable_of_iff (_ ∧ _ ∧ _)
    ⟨fun both => ⟨both.1, both.2.1, both.2.2⟩, fun all => ⟨all.user, all.plain, all.room⟩⟩

instance fresh_decidable (s : FdState) : (call : CloexecCall) → Decidable (Fresh s call)
  | .openat .. | .pipe2 .. | .socket .. | .accept .. => inferInstanceAs (Decidable (∀ _ ∈ _, _ = _))
  | .epollCreate .. => inferInstanceAs (Decidable (_ ∨ ∀ _ ∈ _, _ = _))
  | .execve .. => inferInstanceAs (Decidable (_ → _))
  | .dup .. | .dup3 .. | .fcntlDup .. | .fcntlSet .. | .close .. | .fork .. | .exit .. =>
    inferInstanceAs (Decidable True)

variable {s : FdState}

variable {t : FdState}

theorem FdState.cloexec_congr (same : t.tasks = s.tasks) (p : Nat) (f : Fin taskMaxFd) :
    t.cloexec p f = s.cloexec p f := by
  rw [cloexec, cloexec, same]

section

variable (s : FdState) (pid : Nat) (fd : Fin taskMaxFd)

theorem FdState.setFd_cloexec (entry : Option (Fin fdPoolSize)) (p : Nat) (f : Fin taskMaxFd) :
    (s.setFd pid fd entry).cloexec p f = s.cloexec p f := by
  unfold cloexec setFd setTask
  by_cases same : p = pid
  · rw [same]
    cases s.tasks pid <;> simp
  · simp [update_of_ne same]

theorem FdState.setCloexec_cloexec (flag : Bool) (p : Nat) (f : Fin taskMaxFd) :
    (s.setCloexec pid fd flag).cloexec p f =
      if p = pid ∧ f = fd then (s.tasks pid).isSome && flag else s.cloexec p f := by
  unfold cloexec setCloexec setTask
  by_cases same : p = pid
  · subst same
    by_cases here : f = fd
    · subst here
      cases s.tasks p <;> simp
    · cases s.tasks p <;> simp [here]
  · simp [same]

theorem FdState.setCloexec_table (flag : Bool) (p : Nat) (f : Fin taskMaxFd) :
    (s.setCloexec pid fd flag).table p f = s.table p f := by
  unfold table setCloexec setTask
  by_cases same : p = pid
  · rw [same]
    cases s.tasks pid <;> simp
  · simp [update_of_ne same]

end

structure Opens (pid : Nat) (new : Fin taskMaxFd → Prop) (s t : FdState) : Prop where
  entry : ∀ p fd, (t.table p fd).isSome → (s.table p fd).isSome ∨ (p = pid ∧ new fd)
  bit : ∀ p fd, t.cloexec p fd = s.cloexec p fd

namespace Opens

variable {pid : Nat} {new : Fin taskMaxFd → Prop} {s t u : FdState}

theorem ofTasks (same : t.tasks = s.tasks) : Opens pid new s t where
  entry p fd opened := .inl (FdState.table_congr same p fd ▸ opened)
  bit := FdState.cloexec_congr same

theorem congr (opens : Opens pid new s t) (same : u.tasks = t.tasks) : Opens pid new s u where
  entry p fd opened := opens.entry p fd (FdState.table_congr same p fd ▸ opened)
  bit p fd := (FdState.cloexec_congr same p fd).trans (opens.bit p fd)

theorem setFd (opens : Opens pid new s t) (fresh : new fd) (entry : Option (Fin fdPoolSize)) :
    Opens pid new s (t.setFd pid fd entry) where
  entry p f opened := by
    rw [FdState.setFd_table] at opened
    by_cases here : p = pid ∧ f = fd
    · exact .inr ⟨here.1, here.2 ▸ fresh⟩
    · rw [if_neg here] at opened
      exact opens.entry p f opened
  bit p f := (t.setFd_cloexec pid fd entry p f).trans (opens.bit p f)

theorem clearFd (opens : Opens pid new s t) (q : Nat) (fd : Fin taskMaxFd) :
    Opens pid new s (t.setFd q fd none) where
  entry p f opened := by
    rw [FdState.setFd_table] at opened
    by_cases here : p = q ∧ f = fd
    · rw [if_pos here, Option.bind_fun_none] at opened
      cases opened
    · rw [if_neg here] at opened
      exact opens.entry p f opened
  bit p f := (t.setFd_cloexec q fd none p f).trans (opens.bit p f)

theorem dropFd (opens : Opens pid new s t) (q : Nat) (fd : Fin taskMaxFd) :
    Opens pid new s (dropFd t q fd) := by
  rcases dropFd_cases t q fd with ⟨_, same⟩ | ⟨i, _, closed⟩
  · rw [same]
    exact opens
  · exact (opens.clearFd q fd).congr closed.tasks

end Opens

theorem freeFd_head (s : FdState) (pid : Nat) : freeFd s pid 3 = (unusedFds s pid).head? :=
  (List.head?_filter ..).symm

variable {i : Fin fdPoolSize} {pid : Nat}

theorem mem_unused_of_freeFd (unused : freeFd s pid 3 = some fd) (count : Nat) :
    fd ∈ (unusedFds s pid).take (count + 1) := by
  rw [freeFd_head] at unused
  cases all : unusedFds s pid with
  | nil => rw [all] at unused; cases unused
  | cons =>
    rw [all] at unused
    cases unused
    exact List.mem_cons_self

theorem Opens.enter (unused : freeFd s pid 3 = some fd) {entry : Option (Fin fdPoolSize)}
    (same : t.tasks = (s.setFd pid fd entry).tasks) :
    Opens pid (· ∈ (unusedFds s pid).take 1) s t :=
  ((Opens.ofTasks rfl).setFd (mem_unused_of_freeFd unused 0) entry).congr same

theorem Opened.opens (opened : Opened s pid t) : Opens pid (· ∈ (unusedFds s pid).take 1) s t := by
  cases opened with
  | undone back => exact .ofTasks back.tasks
  | file free unused => exact .enter unused rfl
  | device free unused => exact .enter unused rfl

theorem sockFd_opens (s : FdState) (pid : Nat) (created : Bool) :
    Opens pid (· ∈ (unusedFds s pid).take 1) s (sockFd s pid created).1 := by
  unfold sockFd
  rcases fdPoolAlloc_cases s with ⟨_, full⟩ | ⟨i, free, taken⟩
  · rw [full]
    exact .ofTasks rfl
  · rw [taken]
    cases created with
    | false => exact .ofTasks rfl
    | true =>
      exact (attached_opened free pid (vfsClose · s.nextFile) (.vfsClose rfl rfl rfl rfl rfl rfl)
        (vfsClose_pool ..)).opens

theorem socketHandler_opens (s : FdState) (pid : Nat) (si : Int) (created : Bool) :
    Opens pid (· ∈ (unusedFds s pid).take 1) s (socketHandler s pid si created).1 := by
  unfold socketHandler
  split
  · exact .ofTasks rfl
  · exact sockFd_opens s pid created

theorem acceptHandler_opens (s : FdState) (pid : Nat) (fd : Int) (listening : Bool) (newSi : Int)
    (created : Bool) : Opens pid (· ∈ (unusedFds s pid).take 1) s
      (acceptHandler s pid fd listening newSi created).1 := by
  unfold acceptHandler
  cases (toFd fd).bind (taskGetFd s pid) with
  | none => exact .ofTasks rfl
  | some =>
    cases listening with
    | false => exact .ofTasks rfl
    | true =>
      dsimp only
      rw [if_pos rfl]
      split
      · exact .ofTasks rfl
      · exact sockFd_opens s pid created

theorem freeFd_second (task : (s.tasks pid).isSome) (found : freeFd s pid 3 = some first) :
    freeFd (s.setFd pid first (some i)) pid 3 = (unusedFds s pid).tail.head? := by
  rw [freeFd_head] at found ⊢
  have rest : unusedFds (s.setFd pid first (some i)) pid =
      (unusedFds s pid).filter fun fd => decide (fd ≠ first) := by
    unfold unusedFds
    rw [List.filter_filter]
    apply List.filter_congr
    intro fd _
    rw [FdState.setFd_table]
    by_cases here : fd = first
    · cases present : s.tasks pid with
      | none => rw [present] at task; cases task
      | some => simp [here]
    · simp [here]
  have distinct : (unusedFds s pid).Nodup := (List.nodup_finRange taskMaxFd).filter _
  rw [rest]
  cases unused : unusedFds s pid with
  | nil => rw [unused] at found; cases found
  | cons =>
    rw [unused] at found distinct
    cases found
    have apart := List.nodup_cons.mp distinct
    rw [List.filter_cons_of_neg (by simp), List.tail_cons, List.filter_eq_self.mpr]
    intro fd member
    apply decide_eq_true
    intro same
    exact apart.1 (same ▸ member)

theorem Opens.enterTwo (unused : freeFd s pid 3 = some first)
    (again : freeFd (s.setFd pid first (some i)) pid 3 = some second)
    (entry : Option (Fin fdPoolSize)) :
    Opens pid (· ∈ (unusedFds s pid).take 2) s
      ((s.setFd pid first (some i)).setFd pid second entry) := by
  refine ((Opens.ofTasks rfl).setFd (mem_unused_of_freeFd unused 1) _).setFd ?_ entry
  cases present : s.tasks pid with
  | none =>
    have still : (s.setFd pid first (some i)).tasks = s.tasks := by
      rw [FdState.setFd, FdState.setTask, present]
      exact update_eq_self_iff.mpr present.symm
    rw [freeFd_congr still] at again
    exact mem_unused_of_freeFd again 1
  | some =>
    rw [freeFd_second (by rw [present]; rfl) unused] at again
    cases split : unusedFds s pid with
    | nil => rw [split] at again; cases again
    | cons =>
      rw [split, List.tail_cons] at again
      apply List.mem_cons_of_mem
      rw [List.take_one, again]
      exact List.mem_singleton_self second

theorem pipe2Handler_opens (s : FdState) (pid : Nat) (slot read write : Bool) :
    Opens pid (· ∈ (unusedFds s pid).take 2) s (pipe2Handler s pid slot read write).1 := by
  rcases pipe2Handler_cases s pid slot read write with
    back | ⟨rd, wr, rdFd, wrFd, _, _, _, unused, again, made⟩
  · exact .ofTasks back.tasks
  · rw [made]
    exact (Opens.enterTwo unused again (some wr)).congr rfl

/-- A call that fails writes no bit and opens nothing; one that succeeds writes the bit of the
descriptor `new`. -/
def Marks (pid : Nat) (new : Fin taskMaxFd) (flag : Bool) (s t : FdState) : Prop :=
  ∃ middle, Opens pid (· = new) s middle ∧ t.tasks = (middle.setCloexec pid new flag).tasks

theorem Marks.enter (opens : Opens pid (· = new) s t) (entry : Option (Fin fdPoolSize)) :
    Marks pid new flag s ((t.setFd pid new entry).setCloexec pid new flag) :=
  ⟨t.setFd pid new entry, opens.setFd rfl entry, rfl⟩

theorem Marks.copied (opens : Opens pid (· = new) s t) (src : Option (Fin fdPoolSize))
    (j : Fin fdPoolSize) (dupOk : Bool) :
    Marks pid new flag s
      (((t.copied src j dupOk).setFd pid new (some j)).setCloexec pid new flag) :=
  .enter (opens.congr (copied_same t src j dupOk).1) _

theorem dupToFd_marks (s : FdState) (pid : Nat) (oldfd newfd : Int) (cloexec dupOk : Bool) :
    (Opens pid (fun _ => False) s (dupToFd s pid oldfd newfd cloexec dupOk).1 ∧
        (dupToFd s pid oldfd newfd cloexec dupOk).2 < 0) ∨
      ∃ new, toFd newfd = some new ∧ (dupToFd s pid oldfd newfd cloexec dupOk).2 = newfd ∧
        Marks pid new cloexec s (dupToFd s pid oldfd newfd cloexec dupOk).1 := by
  generalize call : dupToFd s pid oldfd newfd cloexec dupOk = r
  rcases dupToFd_cases call with
    ⟨same, negative⟩ | ⟨old, new, _, target, _, ⟨back, negative⟩ | ⟨j, _, rfl⟩⟩
  · exact .inl ⟨.ofTasks (congrArg FdState.tasks same), negative⟩
  · exact .inl ⟨((Opens.ofTasks rfl).dropFd pid new).congr back.tasks, negative⟩
  · exact .inr ⟨new, target, rfl, .copied ((Opens.ofTasks rfl).dropFd pid new) _ j dupOk⟩

def Creates (pid : Nat) (flag : Bool) (s t : FdState) : Prop :=
  Opens pid (fun _ => False) s t ∨ ∃ new, s.table pid new = none ∧ Marks pid new flag s t

theorem dupHandler_creates (s : FdState) (pid : Nat) (oldfd : Int) (dupOk : Bool) :
    Creates pid false s (dupHandler s pid oldfd dupOk).1 := by
  unfold dupHandler
  cases toFd oldfd with
  | none => exact .inl (.ofTasks rfl)
  | some =>
    dsimp only
    split
    · exact .inl (.ofTasks rfl)
    · cases found : freeFd s pid 3 with
      | none => exact .inl (.ofTasks rfl)
      | some new =>
        rcases dupToFd_marks s pid oldfd new.val false dupOk with failed | ⟨other, named, _, marks⟩
        · exact .inl failed.1
        · rw [toFd_val] at named
          cases named
          exact .inr ⟨new, freeFd_unused found, marks⟩

theorem fcntlDupfd_creates (s : FdState) (pid : Nat) (fd minfd : Int) (cloexec dupOk : Bool) :
    Creates pid cloexec s (fcntlDupfd s pid fd minfd cloexec dupOk).1 := by
  generalize call : (fcntlDupfd s pid fd minfd cloexec dupOk).1 = t
  rcases fcntlDupfd_cases call with
    rfl | ⟨old, src, j, _, _, _, ⟨_, _, rfl⟩ | ⟨new, unused, rfl⟩⟩
  · exact .inl (.ofTasks rfl)
  · exact .inl (.ofTasks (copied_same s src j dupOk).1)
  · exact .inr ⟨new, freeFd_unused unused, .copied (.ofTasks rfl) src j dupOk⟩

theorem epollCreate1Handler_bit (s : FdState) (pid : Nat) (cloexec : Bool) :
    (cloexec = false →
        Opens pid (· ∈ (unusedFds s pid).take 1) s (epollCreate1Handler s pid cloexec).1) ∧
      (cloexec = true → Creates pid true s (epollCreate1Handler s pid cloexec).1) := by
  rcases epollCreate1Handler_cases s pid cloexec with back | ⟨e, i, fd, _, _, _, unused, made⟩
  · exact ⟨fun _ => .ofTasks back.tasks, fun _ => .inl (.ofTasks back.tasks)⟩
  rw [made]
  constructor
  · intro plain
    rw [plain]
    exact .enter unused rfl
  · intro asked
    rw [asked]
    exact .inr ⟨fd, freeFd_unused unused, .enter (.ofTasks rfl) _⟩

theorem fdCloexec_eq (s : FdState) (pid : Nat) (fd : Fin taskMaxFd) :
    (((s.tasks pid).map fun task => task.fdCloexec fd) = some true) ↔ s.cloexec pid fd = true := by
  unfold FdState.cloexec
  cases s.tasks pid <;> simp

theorem Opens.forkFd (dupOk : Fin taskMaxFd → Bool)
    (opens : Opens child (fun fd => (s.table parent fd).isSome) s t) (fd : Fin taskMaxFd) :
    Opens child (fun fd => (s.table parent fd).isSome) s (forkFd parent child dupOk t fd) := by
  rcases forkFd_cases parent child dupOk t fd with same | ⟨i, j, source, _, made⟩
  · rw [same]
    exact opens
  rw [made]
  have there : (t.table parent fd).isSome := by rw [(taskGetFd_used source).1]; rfl
  exact (opens.congr (copied_same t (some i) j (dupOk fd)).1).setFd
    ((opens.entry parent fd there).elim id And.right) _

theorem Opens.inheritFd (dupOk : Fin taskMaxFd → Bool)
    (opens : Opens child (fun fd => (s.table parent fd).isSome ∧ s.cloexec parent fd = false) s t)
    (fd : Fin taskMaxFd) :
    Opens child (fun fd => (s.table parent fd).isSome ∧ s.cloexec parent fd = false) s
      (inheritFd parent child dupOk t fd) := by
  rcases inheritFd_cases parent child dupOk t fd with back | ⟨i, j, clear, source, _, _, made⟩
  · exact opens.congr back.tasks
  rw [ne_eq, fdCloexec_eq, Bool.not_eq_true, opens.bit] at clear
  rw [made]
  have there : (t.table parent fd).isSome := by rw [(taskGetFd_used source).1]; rfl
  have held : (s.table parent fd).isSome :=
    (opens.entry parent fd there).elim id fun inherited => inherited.2.1
  exact (opens.congr (copied_same t (some i) j (dupOk fd)).1).setFd ⟨held, clear⟩ _

theorem Opens.foldl {step : FdState → Fin taskMaxFd → FdState}
    (keep : ∀ t fd, Opens pid new s t → Opens pid new s (step t fd)) (opens : Opens pid new s t)
    (fds : List (Fin taskMaxFd)) : Opens pid new s (fds.foldl step t) := by
  induction fds generalizing t with
  | nil => exact opens
  | cons first _ ih => exact ih (keep t first opens)

theorem forkFds_opens (s : FdState) (parent child : Nat) (dupOk : Fin taskMaxFd → Bool) :
    Opens child (fun fd => (s.table parent fd).isSome) s
      ((List.finRange taskMaxFd).foldl (forkFd parent child dupOk) s) :=
  Opens.foldl (fun _ fd opens => opens.forkFd dupOk fd) (.ofTasks rfl) _

theorem fdTableInherit_opens (s : FdState) (child parent : Nat) (dupOk : Fin taskMaxFd → Bool) :
    Opens child (fun fd => (s.table parent fd).isSome ∧ s.cloexec parent fd = false) s
      (fdTableInherit s child parent dupOk) := by
  unfold fdTableInherit
  split
  · exact Opens.foldl (fun _ fd opens => opens.inheritFd dupOk fd) (.ofTasks rfl) _
  · exact .ofTasks rfl

theorem Opens.closeAllFds (opens : Opens pid new s t) (q : Nat) :
    Opens pid new s (closeAllFds t q) :=
  Opens.foldl (fun _ fd opens => opens.dropFd q fd) opens _

def Descriptors.Marked (x : Descriptors) : Prop :=
  ∀ p f, (x.fd.table p f).isSome → x.fd.cloexec p f = x.wanted p f

namespace Descriptors

variable {x : Descriptors} {t : FdState} {pid : Nat} {flag : Bool}

theorem Marked.opens (marked : x.Marked) (opens : Opens pid new x.fd t)
    (stale : ∀ fd, new fd → x.fd.cloexec pid fd = flag) :
    Marked ⟨t, fun p f => if p = pid ∧ (x.fd.table p f).isNone ∧ (t.table p f).isSome then flag
      else x.wanted p f⟩ := by
  intro p f opened
  show t.cloexec p f = if _ then _ else _
  rw [opens.bit p f]
  cases before : x.fd.table p f with
  | some =>
    rw [if_neg (by simp)]
    exact marked p f (by rw [before]; rfl)
  | none =>
    have fresh := opens.entry p f opened
    rw [before] at fresh
    obtain ⟨rfl, member⟩ := fresh.resolve_left Bool.false_ne_true
    rw [if_pos ⟨rfl, rfl, opened⟩]
    exact stale f member

theorem Marked.kept (marked : x.Marked) (opens : Opens pid (fun _ => False) x.fd t) :
    Marked ⟨t, x.wanted⟩ := by
  intro p f opened
  have before := (opens.entry p f opened).resolve_right And.right
  exact (opens.bit p f).trans (marked p f before)

theorem Marked.reaped (marked : x.Marked) (pid : Nat) :
    Marked ⟨x.fd.setTask pid none, x.wanted⟩ := by
  intro p f opened
  by_cases here : p = pid
  · have gone : (x.fd.setTask pid none).tasks p = none := by
      rw [here]
      exact update_self ..
    unfold FdState.table at opened
    rw [gone] at opened
    cases opened
  · have other : (x.fd.setTask pid none).tasks p = x.fd.tasks p := update_of_ne here _ _
    unfold FdState.table at opened
    unfold FdState.cloexec
    rw [other] at opened ⊢
    exact marked p f opened

theorem bit_of_marks (marks : Marks pid new flag x.fd t) (p : Nat) (f : Fin taskMaxFd)
    (opened : (t.table p f).isSome) :
    t.cloexec p f = (if p = pid ∧ f = new then flag else x.fd.cloexec p f) ∧
      (¬ (p = pid ∧ f = new) → (x.fd.table p f).isSome) := by
  obtain ⟨middle, opens, tasks⟩ := marks
  rw [FdState.table_congr tasks, FdState.setCloexec_table] at opened
  rw [FdState.cloexec_congr tasks, FdState.setCloexec_cloexec]
  by_cases here : p = pid ∧ f = new
  · have present : (middle.tasks pid).isSome := by
      rw [here.1] at opened
      exact Option.isSome_of_isSome_bind opened
    rw [if_pos here, if_pos here, present, Bool.true_and]
    exact ⟨rfl, fun other => absurd here other⟩
  · rw [if_neg here, if_neg here]
    exact ⟨opens.bit p f, fun _ => (opens.entry p f opened).resolve_right here⟩

namespace Marked

section

variable (marked : x.Marked)
include marked

theorem creates (creates : Creates pid flag x.fd t) :
    Marked ⟨t, fun p f => if p = pid ∧ (x.fd.table p f).isNone ∧ (t.table p f).isSome then flag
      else x.wanted p f⟩ := by
  rcases creates with opens | ⟨new, unused, marks⟩
  · exact marked.opens opens fun _ impossible => impossible.elim
  · intro p f opened
    obtain ⟨bit, before⟩ := bit_of_marks marks p f opened
    show t.cloexec p f = if _ then _ else _
    rw [bit]
    by_cases here : p = pid ∧ f = new
    · rw [if_pos here, if_pos ⟨here.1, by rw [here.1, here.2, unused]; rfl, opened⟩]
    · have some := before here
      rw [if_neg here, if_neg]
      · exact marked p f some
      · intro condition
        rw [Option.isNone_iff_eq_none.mp condition.2.1] at some
        cases some

theorem refused (opens : Opens pid (fun _ => False) x.fd t) [Decidable done] (failed : ¬ done) :
    Marked ⟨t, fun p f => if p = pid ∧ target = some f ∧ done then flag else x.wanted p f⟩ := by
  intro p f opened
  show t.cloexec p f = if _ then _ else _
  rw [if_neg fun both => failed both.2.2]
  exact marked.kept opens p f opened

theorem named (marks : Marks pid new flag x.fd t) (named : target = some new) [Decidable done]
    (succeeds : done) :
    Marked ⟨t, fun p f => if p = pid ∧ target = some f ∧ done then flag else x.wanted p f⟩ := by
  intro p f opened
  obtain ⟨bit, before⟩ := bit_of_marks marks p f opened
  show t.cloexec p f = if _ then _ else _
  rw [bit, named]
  by_cases here : p = pid ∧ f = new
  · rw [if_pos here, if_pos ⟨here.1, by rw [here.2], succeeds⟩]
  · rw [if_neg here, if_neg]
    · exact marked p f (before here)
    · intro both
      exact here ⟨both.1, (Option.some.inj both.2.1).symm⟩

theorem started (kind : t = x.fd ∨ ∃ (task : FdTask) (passed : Fin taskMaxFd → Prop),
      x.fd.tasks child = none ∧ (∀ f, task.fdTable f = none) ∧
      Opens child passed (x.fd.setTask child (some task)) t ∧
      ∀ f, passed f → (x.fd.table parent f).isSome ∧ task.fdCloexec f = x.fd.cloexec parent f) :
    Marked ⟨t, fun p f => if p = child ∧ (x.fd.tasks p).isNone then x.wanted parent f
      else x.wanted p f⟩ := by
  intro p f opened
  show t.cloexec p f = if _ then _ else _
  rcases kind with rfl | ⟨task, passed, absent, empty, opens, same⟩
  · rw [if_neg]
    · exact marked p f opened
    · intro both
      unfold FdState.table at opened
      rw [Option.isNone_iff_eq_none.mp both.2] at opened
      cases opened
  · rw [opens.bit p f]
    by_cases here : p = child
    · subst here
      have none : (x.fd.setTask p (some task)).table p f = none := by
        simp [FdState.table, FdState.setTask, empty]
      have inherited :=
        (opens.entry p f opened).resolve_left (by rw [none]; exact Bool.false_ne_true)
      obtain ⟨held, bit⟩ := same f inherited.2
      rw [if_pos ⟨rfl, by rw [absent]; rfl⟩, ← marked parent f held, ← bit]
      simp [FdState.cloexec, FdState.setTask]
    · have other : (x.fd.setTask child (some task)).tasks p = x.fd.tasks p :=
        update_of_ne here _ _
      rw [if_neg fun both => here both.1]
      have before := (opens.entry p f opened).resolve_right fun both => here both.1
      unfold FdState.table at before
      rw [other] at before
      unfold FdState.cloexec
      rw [other]
      exact marked p f before

theorem fork (parent child : Nat) (ready : Bool) (dupOk : Fin taskMaxFd → Bool) :
    (x.next (.fork parent child ready dupOk)).Marked := by
  change Marked ⟨forkHandler x.fd parent child ready dupOk, _⟩
  apply marked.started
  unfold forkHandler
  split
  · rename_i task source absent
    split
    · have copied := forkFds_opens
        (x.fd.setTask child (some ⟨true, fun _ => none, task.fdCloexec⟩)) parent child dupOk
      refine .inr ⟨_, _, absent, ?_, copied, fun f held => ⟨?_, ?_⟩⟩
      · exact fun _ => rfl
      · simpa [FdState.table, FdState.setTask, update_of_ne (FdState.distinct_tasks source absent)]
          using held
      · rw [FdState.cloexec, source]
        rfl
    · exact .inl rfl
  · exact .inl rfl

theorem execve (pid new : Nat) (ready : Bool) (dupOk : Fin taskMaxFd → Bool) :
    (x.next (.execve pid new ready dupOk)).Marked := by
  change Marked ⟨execHandler x.fd pid new ready dupOk, _⟩
  apply marked.started
  unfold execHandler
  split
  · rename_i task source absent
    split
    · have closed := (fdTableInherit_opens
        (x.fd.setTask new (some ⟨true, fun _ => none, fun _ => false⟩))
          new pid dupOk).closeAllFds pid
      refine .inr ⟨_, _, absent, ?_, closed, fun f held => ?_⟩
      · exact fun _ => rfl
      have other : (x.fd.setTask new (some ⟨true, fun _ => none, fun _ => false⟩)).tasks pid =
          x.fd.tasks pid := update_of_ne (FdState.distinct_tasks source absent) _ _
      unfold FdState.table FdState.cloexec at held
      rw [other] at held
      exact ⟨held.1, held.2.symm⟩
    · exact .inl rfl
  · exact .inl rfl

theorem next (call : CloexecCall) (fresh : Fresh x.fd call) :
    (x.next call).Marked := by
  cases call with
  | openat => exact marked.opens (openatHandler_opened ..).opens fresh
  | pipe2 => exact marked.opens (pipe2Handler_opens ..) fresh
  | socket => exact marked.opens (socketHandler_opens ..) fresh
  | accept =>
    exact marked.opens (acceptHandler_opens ..) fresh
  | epollCreate pid cloexec =>
    obtain ⟨plain, asked⟩ := epollCreate1Handler_bit x.fd pid cloexec
    cases cloexec with
    | true => exact marked.creates (asked rfl)
    | false => exact marked.opens (plain rfl) (fresh.resolve_left Bool.false_ne_true)
  | dup => exact marked.creates (dupHandler_creates ..)
  | fcntlDup => exact marked.creates (fcntlDupfd_creates ..)
  | dup3 pid oldfd newfd cloexec dupOk =>
    show Marked ⟨(dup3Handler x.fd pid oldfd newfd cloexec dupOk).1, fun p f =>
      if p = pid ∧ toFd newfd = some f ∧ 0 ≤ (dup3Handler x.fd pid oldfd newfd cloexec dupOk).2
      then cloexec else x.wanted p f⟩
    unfold dup3Handler
    split
    · exact marked.refused (.ofTasks rfl) (by decide : ¬ 0 ≤ -einval)
    · rcases dupToFd_marks x.fd pid oldfd newfd cloexec dupOk with
        failed | ⟨new, named, result, marks⟩
      · exact marked.refused failed.1 (by omega)
      · refine marked.named marks named ?_
        rw [result]
        unfold toFd at named
        split at named
        · next inside => exact inside.1
        · cases named
  | fcntlSet pid fd cloexec =>
    show Marked ⟨(fcntlSetfd x.fd pid fd cloexec).1, fun p f =>
      if p = pid ∧ toFd fd = some f ∧ (fcntlSetfd x.fd pid fd cloexec).2 = 0 then cloexec
      else x.wanted p f⟩
    unfold fcntlSetfd
    cases named : toFd fd with
    | none => exact marked.refused (.ofTasks rfl) (by decide : ¬ -ebadf = 0)
    | some =>
      dsimp only
      split
      · exact marked.refused (.ofTasks rfl) (by decide : ¬ -ebadf = 0)
      · exact marked.named ⟨x.fd, .ofTasks rfl, rfl⟩ rfl rfl
  | close pid fd =>
    show Marked ⟨(closeHandler x.fd pid fd).1, x.wanted⟩
    unfold closeHandler
    cases toFd fd with
    | none => exact marked
    | some old =>
      have dropped : Opens pid (fun _ => False) x.fd (dropFd x.fd pid old) :=
        (Opens.ofTasks rfl).dropFd pid old
      exact marked.kept dropped
  | fork parent child ready dupOk => exact marked.fork parent child ready dupOk
  | execve pid new ready dupOk => exact marked.execve pid new ready dupOk
  | exit pid =>
    show Marked ⟨sysExit x.fd pid, x.wanted⟩
    have dropped : Opens pid (fun _ => False) x.fd (closeAllFds x.fd pid) :=
      (Opens.ofTasks rfl).closeAllFds pid
    unfold sysExit
    generalize closeAllFds x.fd pid = closed at dropped
    exact (marked.kept dropped).reaped pid

end

end Marked

theorem boot_marked : boot.Marked := by
  intro p f opened
  have empty : fdBoot.table p f = none := by
    show (if p = 0 then _ else _ : Option FdTask).bind _ = none
    split <;> rfl
  have opened : (fdBoot.table p f).isSome := opened
  rw [empty] at opened
  cases opened

theorem Marked.contract (marked : x.Marked) : CloexecContract x where
  bit := marked
  reported pid fd opened := by
    have held : (x.fd.table pid fd).isSome := by
      obtain ⟨i, source⟩ := Option.ne_none_iff_exists'.mp opened
      rw [(taskGetFd_used source).1]
      rfl
    unfold fcntlGetfd
    rw [toFd_val]
    dsimp only
    rw [if_neg fun both => opened both.1, marked pid fd held]

end Descriptors

theorem closeAllFds_table_other (s : FdState) (other : p ≠ pid) (f : Fin taskMaxFd) :
    (closeAllFds s pid).table p f = s.table p f := by
  unfold closeAllFds
  generalize List.finRange taskMaxFd = fds
  induction fds generalizing s with
  | nil => rfl
  | cons first _ ih =>
    exact (ih (dropFd s pid first)).trans (dropFd_table_of_ne s fun both => other both.1)

structure Inheriting (s t : FdState) (parent child : Nat) : Prop where
  parent : t.tasks parent = s.tasks parent
  child : (t.tasks child).isSome
  pool : ∀ i, (s.pool i).type ≠ .free → t.pool i = s.pool i

theorem freeSlots_take (free : (s.pool i).type = .free) (used : obj.type ≠ .free) :
    freeSlots (s.setObj i obj) + 1 = freeSlots s := by
  have count := Counting.card_update (fun o : FdObj => o.type = .free) s.pool i obj
  rw [if_pos free, if_neg used] at count
  exact count

theorem fdPoolAlloc_of_room (room : 1 ≤ freeSlots s) :
    ∃ j, (s.pool j).type = .free ∧ fdPoolAlloc s = (s.takeSlot j, some j) := by
  rcases fdPoolAlloc_cases s with ⟨full, _⟩ | found
  · have none : freeSlots s = 0 := by
      apply Finset.card_eq_zero.mpr
      apply Finset.filter_eq_empty_iff.mpr
      intro i _
      exact full i
    omega
  · exact found

theorem copySlot_ok (used : (s.pool i).type ≠ .free)
    (ok : (s.pool i).vfsFile = none → (s.pool i).ops = true → dupOk = true) :
    (copySlot s i j dupOk).2 = true := by
  unfold copySlot fdObjRef
  rw [FdState.setObj_pool_self, if_neg used]
  cases file : (s.pool i).vfsFile with
  | some => rfl
  | none =>
    dsimp only
    split
    · next device => exact ok file device
    · rfl

namespace Inheriting

variable {s t : FdState} {parent child : Nat}

theorem cloexec (on : Inheriting s t parent child) (fd : Fin taskMaxFd) :
    t.cloexec parent fd = s.cloexec parent fd := by
  rw [FdState.cloexec, FdState.cloexec, on.parent]

variable {fd : Fin taskMaxFd}

section

variable (on : Inheriting s t parent child)
include on

protected theorem taskGetFd (entry : s.table parent fd = some i) (used : (s.pool i).type ≠ .free) :
    taskGetFd t parent fd = some i := by
  have same : t.table parent fd = some i := by
    rw [FdState.table, on.parent]
    exact entry
  unfold taskGetFd
  rw [same]
  apply Option.filter_eq_some_iff.mpr
  exact ⟨rfl, by rw [on.pool i used]; exact decide_eq_true used⟩

theorem pass (apart : parent ≠ child) (able : Inheritable s parent dupOk)
    (stays : Stays s parent fd) (room : 1 ≤ freeSlots t) :
    Inheriting s (inheritFd parent child dupOk t fd) parent child ∧
      freeSlots (inheritFd parent child dupOk t fd) + 1 = freeSlots t ∧
      ∀ f, ((inheritFd parent child dupOk t fd).table child f).isSome ↔
        f = fd ∨ (t.table child f).isSome := by
  obtain ⟨i, entry⟩ := Option.isSome_iff_exists.mp stays.1
  obtain ⟨used, plain, device⟩ := able.plain fd stays i entry
  obtain ⟨j, free, taken⟩ := fdPoolAlloc_of_room room
  have idle : (s.pool j).type = .free := by
    by_contra busy
    rw [on.pool j busy] at free
    exact busy free
  have other : i ≠ j := by
    intro same
    rw [same] at used
    exact used idle
  have slot : t.pool i = s.pool i := on.pool i used
  have kept : (t.takeSlot j).pool i = s.pool i := (takeSlot_others t j i other).trans slot
  have ok : (copySlot (t.takeSlot j) i j (dupOk fd)).2 = true := by
    apply copySlot_ok <;> rw [kept]
    · exact used
    · exact device
  have shape : inheritFd parent child dupOk t fd =
      (t.copied (some i) j (dupOk fd)).setFd child fd (some j) := by
    have clear : ¬ ((t.tasks parent).map fun task => task.fdCloexec fd) = some true := by
      rw [fdCloexec_eq, on.cloexec, stays.2]
      exact Bool.false_ne_true
    unfold inheritFd
    rw [if_neg clear, on.taskGetFd entry used]
    dsimp only
    rw [slot, if_neg plain, taken]
    dsimp only
    rw [show copySlot (t.takeSlot j) i j (dupOk fd) = (_, true) from Prod.ext rfl ok]
    rfl
  obtain ⟨tasks, _, others⟩ := copied_same t (some i) j (dupOk fd)
  have pool : (t.copied (some i) j (dupOk fd)).pool = (t.setObj j (s.pool i)).pool := by
    funext k
    by_cases here : k = j
    · rw [here, FdState.copied, copySlot_pool, kept, FdState.setObj_pool_self]
    · rw [others k here, FdState.setObj_pool_of_ne _ _ here]
  rw [shape]
  refine ⟨⟨?_, ?_, ?_⟩, ?_, ?_⟩
  · exact (update_of_ne apart _ _).trans ((congrFun tasks parent).trans on.parent)
  · have entered : ((t.copied (some i) j (dupOk fd)).setFd child fd (some j)).tasks child =
        (t.tasks child).map fun task =>
          { task with fdTable := update task.fdTable fd (some j) } := by
      rw [← tasks]
      exact update_self ..
    rw [entered, Option.isSome_map]
    exact on.child
  · intro k busy
    have apart : k ≠ j := by
      rintro rfl
      exact busy idle
    exact (others k apart).trans (on.pool k busy)
  · have counted := freeSlots_take free used
    unfold freeSlots at counted ⊢
    rw [← pool] at counted
    exact counted
  · intro f
    rw [FdState.setFd_table, FdState.table_congr tasks, tasks]
    by_cases here : f = fd
    · obtain ⟨task, present⟩ := Option.isSome_iff_exists.mp on.child
      rw [if_pos ⟨rfl, here⟩, present]
      exact ⟨fun _ => .inl here, fun _ => rfl⟩
    · rw [if_neg fun both => here both.2]
      exact ⟨.inr, fun opened => opened.resolve_left here⟩

theorem skip (dupOk : Fin taskMaxFd → Bool) (goes : ¬ Stays s parent fd) :
    inheritFd parent child dupOk t fd = t := by
  unfold inheritFd
  split
  · rfl
  · next clear =>
    rw [fdCloexec_eq, on.cloexec, Bool.not_eq_true] at clear
    have entry : t.table parent fd = none := by
      rw [FdState.table, on.parent, ← Option.not_isSome_iff_eq_none]
      intro opened
      exact goes ⟨opened, clear⟩
    have closed : taskGetFd t parent fd = none := by
      unfold taskGetFd
      rw [entry]
      rfl
    rw [closed]

theorem all (apart : parent ≠ child) (able : Inheritable s parent dupOk)
    (fds : List (Fin taskMaxFd)) (room : fds.countP (fun fd => Stays s parent fd) ≤ freeSlots t)
    (f : Fin taskMaxFd) :
    ((fds.foldl (inheritFd parent child dupOk) t).table child f).isSome ↔
      (f ∈ fds ∧ Stays s parent f) ∨ (t.table child f).isSome := by
  induction fds generalizing t with
  | nil => simp
  | cons first _ ih =>
    rw [List.foldl_cons]
    by_cases stays : Stays s parent first
    · rw [List.countP_cons, if_pos (decide_eq_true stays)] at room
      obtain ⟨after, left, entries⟩ := on.pass apart able stays (by omega)
      rw [ih after (by omega), entries, List.mem_cons]
      constructor
      · intro cases
        rcases cases with ⟨member, keeps⟩ | here | before
        · exact .inl ⟨.inr member, keeps⟩
        · exact .inl ⟨.inl here, here ▸ stays⟩
        · exact .inr before
      · intro cases
        rcases cases with ⟨here | member, keeps⟩ | before
        · exact .inr (.inl here)
        · exact .inl ⟨member, keeps⟩
        · exact .inr (.inr before)
    · rw [List.countP_cons, if_neg (by simpa using stays)] at room
      rw [on.skip dupOk stays, ih on room, List.mem_cons]
      constructor
      · intro cases
        exact cases.imp_left fun both => ⟨.inr both.1, both.2⟩
      · intro cases
        rcases cases with ⟨here | member, keeps⟩ | before
        · exact absurd (here ▸ keeps) stays
        · exact .inl ⟨member, keeps⟩
        · exact .inr before

end

end Inheriting

theorem closesMarked_of_fresh (fresh : Fresh s call) : ClosesMarked s call := by
  cases call with
  | execve pid new ready dupOk =>
    intro loaded present absent fd
    obtain ⟨task, source⟩ := Option.ne_none_iff_exists'.mp present
    have apart := FdState.distinct_tasks source absent
    have able := fresh loaded
    generalize made : s.setTask new (some ⟨true, fun _ => none, fun _ => false⟩) = base
    have caller : base.tasks pid = s.tasks pid := by
      rw [← made]
      exact update_of_ne apart _ _
    have created : base.tasks new = some ⟨true, fun _ => none, fun _ => false⟩ := by
      rw [← made]
      exact update_self ..
    have pool : base.pool = s.pool := by rw [← made]; rfl
    have stays : ∀ f, Stays base pid f ↔ Stays s pid f := by
      intro f
      unfold Stays FdState.table FdState.cloexec
      rw [caller]
    have ableBase : Inheritable base pid dupOk := by
      refine ⟨caller ▸ able.user, ?_, ?_⟩
      · intro f keeps i entry
        rw [pool]
        apply able.plain f ((stays f).mp keeps) i
        rw [FdState.table, ← caller]
        exact entry
      · simp only [stays, freeSlots, pool]
        exact able.room
    have on : Inheriting base base pid new := ⟨rfl, by rw [created]; rfl, fun _ _ => rfl⟩
    have empty : base.table new fd = none := by
      rw [FdState.table, created]
      rfl
    have result : execHandler s pid new ready dupOk =
        closeAllFds ((List.finRange taskMaxFd).foldl (inheritFd pid new dupOk) base) pid := by
      unfold execHandler fdTableInherit
      rw [source, absent, loaded]
      rw [if_pos rfl, made, if_pos ableBase.user]
    rw [result, closeAllFds_table_other _ apart.symm,
      on.all apart ableBase _ ableBase.room fd, empty, stays]
    constructor
    · intro cases
      exact (cases.resolve_right Bool.false_ne_true).2
    · intro keeps
      exact .inl ⟨List.mem_finRange fd, keeps⟩
  | _ => trivial

/-- In every run whose calls meet the condition, the close-on-exec bits are those asked for, and an
`execve` that meets it too closes exactly the descriptors whose bit is set. -/
theorem cloexec_as_requested {calls : List CloexecCall} {x : Descriptors}
    (run : Run (Guarded (graph Descriptors.next) fun x call => Fresh x.fd call) .boot calls x) :
    CloexecContract x ∧ ∀ call, Fresh x.fd call → ClosesMarked x.fd call := by
  have marked : x.Marked :=
    run.guarded (fun _ call holds fresh => holds.next call fresh) Descriptors.boot_marked
  exact ⟨marked.contract, fun _ => closesMarked_of_fresh⟩

def markedCalls : List CloexecCall :=
  [.fork 0 1 true fun _ => true, .openat 1 (.vfs true) 0 false, .fcntlDup 1 3 3 true true,
    .pipe2 1 true true true false, .fcntlSet 1 5 true, .close 1 3, .dup3 1 6 3 false true]

theorem cloexec_as_requested_marked :
    CloexecContract (markedCalls.foldl Descriptors.next .boot) ∧
      ClosesMarked (markedCalls.foldl Descriptors.next .boot).fd
        (.execve 1 2 true fun _ => true) := by
  have all := @cloexec_as_requested markedCalls _
    (run_of_passes (fun _ _ => of_decide_eq_true) (by decide +kernel))
  exact ⟨all.1, all.2 _ (by decide +kernel)⟩

def openedMarked : List CloexecCall :=
  [.fork 0 1 true fun _ => true, .openat 1 (.vfs true) 0 true]

def reopened : List CloexecCall :=
  [.fork 0 1 true fun _ => true, .openat 1 (.vfs true) 0 false, .fcntlSet 1 3 true, .close 1 3,
    .openat 1 (.vfs true) 0 false]

/-- A file opened with `O_CLOEXEC` is not marked; a descriptor number used again keeps its last bit,
so `execve` closes a file that nobody marked; and it closes an `epoll` instance whose bit is
clear. -/
theorem cloexec_not_as_requested :
    ¬ CloexecContract (openedMarked.foldl Descriptors.next .boot) ∧
      ¬ CloexecContract (reopened.foldl Descriptors.next .boot) ∧
      ¬ ClosesMarked ([.fork 0 1 true fun _ => true, .epollCreate 1 false].foldl
        Descriptors.next .boot).fd (.execve 1 2 true fun _ => true) := by
  refine ⟨?_, ?_, ?_⟩
  · intro contract
    have bit := contract.bit 1 3 (by decide +kernel)
    revert bit
    decide +kernel
  · intro contract
    have bit := contract.bit 1 3 (by decide +kernel)
    revert bit
    decide +kernel
  · intro closes
    have kept := (closes rfl (by decide +kernel) (by decide +kernel) 3).mpr (by decide +kernel)
    revert kept
    decide +kernel

end AvatarKernel
