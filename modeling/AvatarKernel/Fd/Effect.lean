import AvatarKernel.Fd.Handlers

namespace AvatarKernel

open Function

section Parts

variable {s t : FdState} {i : Fin fdPoolSize} {pid : Nat} {fd : Fin taskMaxFd}

@[simp] theorem FdState.setObj_pool_self (s : FdState) (i : Fin fdPoolSize) (obj : FdObj) :
    (s.setObj i obj).pool i = obj := by
  simp [FdState.setObj]

theorem FdState.setObj_pool_of_ne (s : FdState) (obj : FdObj) (other : j ≠ i) :
    (s.setObj i obj).pool j = s.pool j := by
  simp [FdState.setObj, other]

def FdState.takeSlot (s : FdState) (i : Fin fdPoolSize) : FdState :=
  s.setObj i { s.pool i with type := .allocated, vfsFile := none }

theorem fdPoolAlloc_cases (s : FdState) :
    ((∀ i, (s.pool i).type ≠ .free) ∧ fdPoolAlloc s = (s, none)) ∨
      ∃ i, (s.pool i).type = .free ∧ fdPoolAlloc s = (s.takeSlot i, some i) := by
  unfold fdPoolAlloc
  cases found : (List.finRange fdPoolSize).find? fun i => (s.pool i).type = .free with
  | none =>
    left
    have taken := List.find?_eq_none.mp found
    exact ⟨fun i => by simpa using taken i (List.mem_finRange i), rfl⟩
  | some i =>
    right
    exact ⟨i, by simpa using List.find?_some found, rfl⟩

theorem taskAllocFd_cases (s : FdState) (pid : Nat) (i : Fin fdPoolSize) :
    (freeFd s pid 3 = none ∧ taskAllocFd s pid i = (s, none)) ∨
      ∃ fd, freeFd s pid 3 = some fd ∧
        taskAllocFd s pid i = (s.setFd pid fd (some i), some fd) := by
  unfold taskAllocFd
  cases freeFd s pid 3 with
  | none => exact .inl ⟨rfl, rfl⟩
  | some fd => exact .inr ⟨fd, rfl, rfl⟩

theorem taskAllocFd_none (entered : taskAllocFd s pid i = (t, none)) : t = s := by
  rcases taskAllocFd_cases s pid i with ⟨_, full⟩ | ⟨fd, _, done⟩
  · exact congrArg Prod.fst (entered.symm.trans full)
  · cases done.symm.trans entered

theorem taskAllocFd_some (entered : taskAllocFd s pid i = (t, some fd)) :
    freeFd s pid 3 = some fd ∧ t = s.setFd pid fd (some i) := by
  rcases taskAllocFd_cases s pid i with ⟨_, full⟩ | ⟨fd', unused, done⟩
  · cases full.symm.trans entered
  · cases done.symm.trans entered
    exact ⟨unused, rfl⟩

theorem vfsClose_pool (s : FdState) (file : Nat) : (vfsClose s file).pool = s.pool := by
  unfold vfsClose
  split
  · rfl
  · split <;> rfl

theorem fdObjRef_same (s : FdState) (i : Fin fdPoolSize) (dupOk : Bool) :
    (fdObjRef s i dupOk).1.pool = s.pool ∧ (fdObjRef s i dupOk).1.tasks = s.tasks ∧
      (fdObjRef s i dupOk).1.epollInUse = s.epollInUse := by
  unfold fdObjRef
  split
  · exact ⟨rfl, rfl, rfl⟩
  · split <;> exact ⟨rfl, rfl, rfl⟩

theorem freeFd_congr (same : t.tasks = s.tasks) (pid first : Nat) :
    freeFd t pid first = freeFd s pid first := by
  simp only [freeFd, FdState.table, same]

theorem freeFd_unused (found : freeFd s pid first = some fd) : s.table pid fd = none := by
  have tests := List.find?_some found
  simpa using (Bool.and_eq_true_iff.mp tests).2

theorem taskGetFd_used (found : taskGetFd s pid fd = some i) :
    s.table pid fd = some i ∧ (s.pool i).type ≠ .free := by
  have both := Option.filter_eq_some_iff.mp found
  exact ⟨both.1, by simpa using both.2⟩

theorem toFd_val (fd : Fin taskMaxFd) : toFd (fd.val : Int) = some fd := by
  unfold toFd
  simp

theorem ebadf_neg : -ebadf < 0 := by decide

theorem emfile_neg : -emfile < 0 := by decide

end Parts

structure Restored (s t : FdState) : Prop where
  tasks : t.tasks = s.tasks
  instances : t.epollInUse = s.epollInUse
  files : ∀ f, t.files f = s.files f ∨ s.nextFile ≤ f ∧ t.files f = none
  next : s.nextFile ≤ t.nextFile
  opened : t.openLog = s.openLog
  closed : t.closeLog = s.closeLog ∨ t.closeLog = s.nextFile :: s.closeLog ∧ s.nextFile < t.nextFile

structure Undone (s t : FdState) : Prop extends Restored s t where
  pool : ∀ i, t.pool i = s.pool i ∨
    (s.pool i).type = .free ∧ (t.pool i).type = .free ∧ (t.pool i).vfsFile = none

section Undone

variable {s t : FdState} {i : Fin fdPoolSize}

theorem Restored.refl (s : FdState) : Restored s s :=
  ⟨rfl, rfl, fun _ => .inl rfl, Nat.le_refl _, rfl, .inl rfl⟩

theorem Undone.refl (s : FdState) : Undone s s := ⟨.refl s, fun _ => .inl rfl⟩

theorem Restored.setObj (restored : Restored s t) (i : Fin fdPoolSize) (obj : FdObj) :
    Restored s (t.setObj i obj) :=
  ⟨restored.tasks, restored.instances, restored.files, restored.next, restored.opened,
    restored.closed⟩

theorem files_discard (s : FdState) (f : Nat) :
    update (update s.files s.nextFile (some 1)) s.nextFile none f = s.files f ∨
      s.nextFile ≤ f ∧ update (update s.files s.nextFile (some 1)) s.nextFile none f = none := by
  rw [update_idem]
  by_cases new : f = s.nextFile
  · exact .inr ⟨new.ge, by rw [new, update_self]⟩
  · exact .inl (update_of_ne new ..)

protected theorem Restored.vfsClose (tasks : t.tasks = s.tasks)
    (instances : t.epollInUse = s.epollInUse)
    (files : t.files = update s.files s.nextFile (some 1)) (next : t.nextFile = s.nextFile + 1)
    (opened : t.openLog = s.openLog) (closed : t.closeLog = s.closeLog) :
    Restored s (vfsClose t s.nextFile) := by
  have shape : vfsClose t s.nextFile =
      { t with files := update s.files s.nextFile none, closeLog := s.nextFile :: s.closeLog } := by
    unfold vfsClose
    rw [files, update_self, closed]
    simp
  rw [shape]
  refine ⟨tasks, instances, ?_, by simp [next], opened, .inr ⟨rfl, by simp [next]⟩⟩
  have gone := files_discard s
  simp only [update_idem] at gone
  exact gone

theorem Undone.giveBack (restored : Restored s t) (free : (s.pool i).type = .free)
    (others : ∀ j, j ≠ i → t.pool j = s.pool j ∨
      (s.pool j).type = .free ∧ (t.pool j).type = .free ∧ (t.pool j).vfsFile = none) :
    Undone s (fdPoolFree t i) := by
  refine ⟨restored.setObj i _, fun j => ?_⟩
  unfold fdPoolFree
  by_cases this : j = i
  · rw [this, FdState.setObj_pool_self]
    exact .inr ⟨free, rfl, rfl⟩
  · rw [FdState.setObj_pool_of_ne _ _ this]
    exact others j this

theorem Undone.giveBoth (restored : Restored s t) (freeRd : (s.pool rd).type = .free)
    (freeWr : (s.pool wr).type = .free) (others : ∀ j, j ≠ rd → j ≠ wr → t.pool j = s.pool j) :
    Undone s (fdPoolFree (fdPoolFree t rd) wr) := by
  refine .giveBack (restored.setObj rd _) freeWr fun j this => ?_
  unfold fdPoolFree
  by_cases read : j = rd
  · rw [read, FdState.setObj_pool_self]
    exact .inr ⟨freeRd, rfl, rfl⟩
  · rw [FdState.setObj_pool_of_ne _ _ read]
    exact .inl (others j read this)

theorem takeSlot_others (s : FdState) (i j : Fin fdPoolSize) (other : j ≠ i) :
    (s.takeSlot i).pool j = s.pool j :=
  FdState.setObj_pool_of_ne _ _ other

end Undone

def FdState.attached (s : FdState) (i : Fin fdPoolSize) : FdState :=
  fdObjAttachVfs (vfsAllocFile (s.takeSlot i)).1 i s.nextFile

inductive Opened (s : FdState) (pid : Nat) : FdState → Prop
  | undone {t : FdState} (undone : Undone s t) : Opened s pid t
  | file {i : Fin fdPoolSize} {fd : Fin taskMaxFd} (free : (s.pool i).type = .free)
      (unused : freeFd s pid 3 = some fd) :
      Opened s pid
        { (s.attached i).setFd pid fd (some i) with openLog := s.nextFile :: s.openLog }
  | device {i : Fin fdPoolSize} {fd : Fin taskMaxFd} {obj : FdObj}
      (free : (s.pool i).type = .free) (unused : freeFd s pid 3 = some fd)
      (type : obj.type = .ion ∨ obj.type = .dmabuf) (file : obj.vfsFile = none) :
      Opened s pid ((s.setObj i obj).setFd pid fd (some i))

section Opens

variable {s : FdState} {i : Fin fdPoolSize}

theorem attached_others (s : FdState) (i j : Fin fdPoolSize) (other : j ≠ i) :
    (s.attached i).pool j = s.pool j :=
  (FdState.setObj_pool_of_ne _ _ other).trans (takeSlot_others s i j other)

theorem openVfs_opened (s : FdState) (pid : Nat) : Opened s pid (openVfs s pid).1 := by
  unfold openVfs
  dsimp only
  rcases fdPoolAlloc_cases (vfsAllocFile s).1 with ⟨_, full⟩ | ⟨i, free, taken⟩
  · rw [full]
    exact .undone ⟨.vfsClose rfl rfl rfl rfl rfl rfl, fun j => .inl (by rw [vfsClose_pool]; rfl)⟩
  · rw [taken]
    dsimp only
    rcases taskAllocFd_cases (fdObjAttachVfs ((vfsAllocFile s).1.takeSlot i) i (vfsAllocFile s).2)
      pid i with ⟨_, none⟩ | ⟨fd, unused, entered⟩
    · rw [none]
      refine .undone (.giveBack (.vfsClose rfl rfl rfl rfl rfl rfl) free fun j other => .inl ?_)
      rw [vfsClose_pool]
      exact attached_others s i j other
    · rw [entered]
      exact .file free unused

theorem attached_opened (free : (s.pool i).type = .free) (pid : Nat) (close : FdState → FdState)
    (back : Restored s (close (s.attached i)))
    (pool : (close (s.attached i)).pool = (s.attached i).pool) :
    Opened s pid (match taskAllocFd (s.attached i) pid i with
      | (full, none) => (fdPoolFree (close full) i, -emfile)
      | (done, some fd) =>
        ({ done with openLog := s.nextFile :: done.openLog }, (fd.val : Int))).1 := by
  rcases taskAllocFd_cases (s.attached i) pid i with ⟨_, none⟩ | ⟨fd, unused, entered⟩
  · rw [none]
    refine .undone (.giveBack back free fun j other => .inl ?_)
    rw [pool]
    exact attached_others s i j other
  · rw [entered]
    exact .file free unused

theorem attached_discard (s : FdState) (i : Fin fdPoolSize) :
    Restored s (vfsDiscardUnopened (s.attached i) s.nextFile) :=
  ⟨rfl, rfl, files_discard s, Nat.le_succ _, rfl, .inl rfl⟩

theorem openPty_opened (s : FdState) (pid : Nat) (created : Bool) :
    Opened s pid (openPty s pid created).1 := by
  unfold openPty
  rcases fdPoolAlloc_cases s with ⟨_, full⟩ | ⟨i, free, taken⟩
  · rw [full]
    exact .undone (.refl s)
  · rw [taken]
    cases created with
    | false =>
      exact .undone (.giveBack ((Restored.refl s).setObj i _) free fun j other =>
        .inl (takeSlot_others s i j other))
    | true =>
      exact attached_opened free pid (vfsDiscardUnopened · s.nextFile) (attached_discard s i) rfl

theorem openatHandler_opened (s : FdState) (pid : Nat) (target : OpenTarget) (error : Int) :
    Opened s pid (openatHandler s pid target error).1 := by
  rcases target with (_ | _) | ⟨_ | _, created⟩
  · exact .undone (.refl s)
  · exact openVfs_opened s pid
  · exact .undone (.refl s)
  · exact openPty_opened s pid created

theorem taskAllocDeviceFd_opened (s : FdState) (pid : Nat) (dmabuf : Bool) :
    Opened s pid (taskAllocDeviceFd s pid dmabuf).1 := by
  unfold taskAllocDeviceFd
  rcases fdPoolAlloc_cases s with ⟨_, full⟩ | ⟨i, free, taken⟩
  · rw [full]
    exact .undone (.refl s)
  · rw [taken]
    dsimp only
    have shape : (s.takeSlot i).setObj i { (s.takeSlot i).pool i with
        type := if dmabuf then .dmabuf else .ion, ops := true } = s.setObj i { s.pool i with
        type := if dmabuf then .dmabuf else .ion, ops := true, vfsFile := none } := by
      simp [FdState.takeSlot, FdState.setObj]
    rw [shape]
    generalize kind : ({ s.pool i with
      type := if dmabuf then .dmabuf else .ion, ops := true, vfsFile := none } : FdObj) = obj
    rcases taskAllocFd_cases (s.setObj i obj) pid i with ⟨_, none⟩ | ⟨fd, unused, entered⟩
    · rw [none]
      exact .undone (.giveBack ((Restored.refl s).setObj i _) free fun j other =>
        .inl (FdState.setObj_pool_of_ne _ _ other))
    · rw [entered]
      refine .device free unused ?_ ?_ <;> rw [← kind]
      cases dmabuf
      · exact .inl rfl
      · exact .inr rfl

end Opens

def FdState.piped (s : FdState) (rd wr : Fin fdPoolSize) : FdState :=
  fdObjAttachVfs (vfsAllocFile (fdObjAttachVfs (vfsAllocFile ((s.takeSlot rd).takeSlot wr)).1 rd
    s.nextFile)).1 wr (s.nextFile + 1)

section Pipes

variable {s : FdState} {rd wr : Fin fdPoolSize}

theorem piped_others (s : FdState) (j : Fin fdPoolSize) (read : j ≠ rd) (write : j ≠ wr) :
    (s.piped rd wr).pool j = s.pool j :=
  (FdState.setObj_pool_of_ne _ _ write).trans ((FdState.setObj_pool_of_ne _ _ read).trans
    ((takeSlot_others _ wr j write).trans (takeSlot_others s rd j read)))

theorem piped_slot (s : FdState) (rd wr j : Fin fdPoolSize) :
    (s.piped rd wr).pool j = s.pool j ∨ ((s.piped rd wr).pool j).type = .vfs := by
  by_cases write : j = wr
  · subst write
    exact .inr (congrArg FdObj.type (FdState.setObj_pool_self ..))
  by_cases read : j = rd
  · subst read
    exact .inr (congrArg FdObj.type
      ((FdState.setObj_pool_of_ne _ _ write).trans (FdState.setObj_pool_self ..)))
  · exact .inl (piped_others s j read write)

theorem discard_restored (same : tasks = s.tasks) :
    Restored s (vfsDiscardUnopened (vfsDiscardUnopened { s.piped rd wr with tasks := tasks }
      s.nextFile) (s.nextFile + 1)) := by
  refine ⟨same, rfl, fun f => ?_, Nat.le_add_right _ 2, rfl, .inl rfl⟩
  simp only [vfsDiscardUnopened, FdState.piped, fdObjAttachVfs, FdState.setObj, vfsAllocFile,
    FdState.takeSlot]
  by_cases read : f = s.nextFile
  · simp [read]
  · by_cases write : f = s.nextFile + 1
    · simp [write]
    · simp [read, write]

theorem setFd_clear (unused : s.table pid fd = none) (entry : Option (Fin fdPoolSize)) :
    ((s.setFd pid fd entry).setFd pid fd none).tasks = s.tasks := by
  funext p
  unfold FdState.table at unused
  by_cases here : p = pid
  · subst here
    cases task : s.tasks p with
    | none => simp [FdState.setFd, FdState.setTask, task]
    | some task' =>
      rw [task] at unused
      simp [FdState.setFd, FdState.setTask, task, ← show task'.fdTable fd = none from unused]
  · simp [FdState.setFd, FdState.setTask, here]

theorem pipeFiles_cases (freeRd : (s.pool rd).type = .free) (freeWr : (s.pool wr).type = .free)
    {read write : Bool}
    (call : (pipeFiles ((s.takeSlot rd).takeSlot wr) pid rd wr read write).1 = t) :
    Undone s t ∨ ∃ rdFd wrFd, freeFd s pid 3 = some rdFd ∧
      freeFd (s.setFd pid rdFd (some rd)) pid 3 = some wrFd ∧
      t = { ((s.piped rd wr).setFd pid rdFd (some rd)).setFd pid wrFd (some wr) with
        openLog := (s.nextFile + 1) :: s.nextFile :: s.openLog } := by
  have taken (j : Fin fdPoolSize) (first : j ≠ rd) (second : j ≠ wr) :
      ((s.takeSlot rd).takeSlot wr).pool j = s.pool j :=
    (takeSlot_others _ wr j second).trans (takeSlot_others s rd j first)
  unfold pipeFiles at call
  cases read with
  | false =>
    cases call
    exact .inl (.giveBoth (((Restored.refl s).setObj rd _).setObj wr _) freeRd freeWr taken)
  | true =>
    cases write with
    | false =>
      cases call
      refine .inl (.giveBoth ⟨rfl, rfl, files_discard s, Nat.le_succ _, rfl, .inl rfl⟩ freeRd freeWr
        fun j first second => ?_)
      exact (FdState.setObj_pool_of_ne _ _ first).trans (taken j first second)
    | true =>
      simp only [if_true] at call
      split at call
      · next full entered =>
        cases call
        rw [taskAllocFd_none entered]
        exact .inl (.giveBoth (discard_restored rfl) freeRd freeWr (piped_others s))
      · next half rdFd entered =>
        obtain ⟨unused, same⟩ := taskAllocFd_some entered
        subst same
        split at call
        · next full refused =>
          cases call
          rw [taskAllocFd_none refused]
          exact .inl (.giveBoth (discard_restored (setFd_clear (freeFd_unused unused) _)) freeRd
            freeWr (piped_others s))
        · next done wrFd both =>
          obtain ⟨again, same⟩ := taskAllocFd_some both
          subst same
          exact .inr ⟨rdFd, wrFd, unused, again, call.symm⟩

theorem pipe2Handler_cases (s : FdState) (pid : Nat) (slot read write : Bool) :
    Undone s (pipe2Handler s pid slot read write).1 ∨
      ∃ rd wr rdFd wrFd, rd ≠ wr ∧ (s.pool rd).type = .free ∧ (s.pool wr).type = .free ∧
        freeFd s pid 3 = some rdFd ∧ freeFd (s.setFd pid rdFd (some rd)) pid 3 = some wrFd ∧
        (pipe2Handler s pid slot read write).1 =
          { ((s.piped rd wr).setFd pid rdFd (some rd)).setFd pid wrFd (some wr) with
            openLog := (s.nextFile + 1) :: s.nextFile :: s.openLog } := by
  unfold pipe2Handler
  cases slot with
  | false => exact .inl (.refl s)
  | true =>
    rcases fdPoolAlloc_cases s with ⟨_, full⟩ | ⟨rd, freeRd, taken⟩
    · rw [full]
      exact .inl (.refl s)
    rw [taken]
    dsimp only
    rcases fdPoolAlloc_cases (s.takeSlot rd) with ⟨_, full⟩ | ⟨wr, freeWr, second⟩
    · rw [full]
      exact .inl (.giveBack ((Restored.refl s).setObj rd _) freeRd fun j other =>
        .inl (takeSlot_others s rd j other))
    have apart : rd ≠ wr := by
      rintro rfl
      rw [FdState.takeSlot, FdState.setObj_pool_self] at freeWr
      cases freeWr
    rw [takeSlot_others s rd wr apart.symm] at freeWr
    rw [second]
    rcases pipeFiles_cases freeRd freeWr rfl with undone | ⟨rdFd, wrFd, made⟩
    · exact .inl undone
    · exact .inr ⟨rd, wr, rdFd, wrFd, apart, freeRd, freeWr, made⟩

end Pipes

def FdState.withEpoll (s : FdState) (i : Fin fdPoolSize) (e : Fin epollMaxInstances) : FdState :=
  epollObject ({ s with epollInUse := update s.epollInUse e true }.takeSlot i) i e

theorem epollInstanceAlloc_cases (s : FdState) : epollInstanceAlloc s = (s, none) ∨
    ∃ e, s.epollInUse e = false ∧
      epollInstanceAlloc s = ({ s with epollInUse := update s.epollInUse e true }, some e) := by
  unfold epollInstanceAlloc
  cases found : (List.finRange epollMaxInstances).find? fun e => !s.epollInUse e with
  | none => exact .inl rfl
  | some e => exact .inr ⟨e, by simpa using List.find?_some found, rfl⟩

theorem epollCreate1Handler_cases (s : FdState) (pid : Nat) (cloexec : Bool) :
    Undone s (epollCreate1Handler s pid cloexec).1 ∨
      ∃ e i fd, (epollInstanceAlloc s).2 = some e ∧ s.epollInUse e = false ∧
        (s.pool i).type = .free ∧ freeFd s pid 3 = some fd ∧
        (epollCreate1Handler s pid cloexec).1 =
          if cloexec then ((s.withEpoll i e).setFd pid fd (some i)).setCloexec pid fd true
          else (s.withEpoll i e).setFd pid fd (some i) := by
  unfold epollCreate1Handler
  rcases epollInstanceAlloc_cases s with none | ⟨e, dead, found⟩
  · rw [none]
    exact .inl (.refl s)
  rw [found]
  dsimp only
  have instances : update (update s.epollInUse e true) e false = s.epollInUse := by
    rw [update_idem]
    exact update_eq_self_iff.mpr dead.symm
  rcases fdPoolAlloc_cases { s with epollInUse := update s.epollInUse e true } with
    ⟨_, full⟩ | ⟨i, free, taken⟩
  · rw [full]
    exact .inl ⟨⟨rfl, instances, fun _ => .inl rfl, Nat.le_refl _, rfl, .inl rfl⟩,
      fun _ => .inl rfl⟩
  rw [taken]
  dsimp only
  rw [show epollObject _ i e = s.withEpoll i e from rfl]
  rcases taskAllocFd_cases (s.withEpoll i e) pid i with ⟨_, none⟩ | ⟨fd, unused, entered⟩
  · rw [none]
    have back : Undone s (fdPoolFree { s.withEpoll i e with epollInUse := s.epollInUse } i) := by
      refine .giveBack ⟨rfl, rfl, fun _ => .inl rfl, Nat.le_refl _, rfl, .inl rfl⟩ free ?_
      exact fun j other =>
        .inl ((FdState.setObj_pool_of_ne _ _ other).trans (takeSlot_others s i j other))
    refine .inl ⟨⟨rfl, instances, back.files, back.next, rfl, .inl rfl⟩, back.pool⟩
  · rw [entered]
    exact .inr ⟨e, i, fd, rfl, dead, free, unused, rfl⟩

def FdState.copied (s : FdState) (src : Option (Fin fdPoolSize)) (j : Fin fdPoolSize)
    (dupOk : Bool) : FdState :=
  match src with
  | none => s.takeSlot j
  | some i => (copySlot (s.takeSlot j) i j dupOk).1

section Copies

variable {s : FdState} {i j : Fin fdPoolSize} {dupOk : Bool}

theorem copied_same (s : FdState) (src : Option (Fin fdPoolSize)) (j : Fin fdPoolSize)
    (dupOk : Bool) : (s.copied src j dupOk).tasks = s.tasks ∧
      (s.copied src j dupOk).epollInUse = s.epollInUse ∧
      ∀ k, k ≠ j → (s.copied src j dupOk).pool k = s.pool k := by
  cases src with
  | none => exact ⟨rfl, rfl, takeSlot_others s j⟩
  | some i =>
    obtain ⟨pool, tasks, instances⟩ := fdObjRef_same
      ((s.takeSlot j).setObj j ((s.takeSlot j).pool i)) j dupOk
    refine ⟨tasks, instances, fun k other => ?_⟩
    rw [FdState.copied, copySlot, pool, FdState.setObj_pool_of_ne _ _ other]
    exact takeSlot_others s j k other

theorem copySlot_refused (free : (s.pool j).type = .free)
    (refused : copySlot (s.takeSlot j) i j dupOk = (t, false)) : Undone s (fdPoolFree t j) := by
  have shape : t = (s.takeSlot j).setObj j ((s.takeSlot j).pool i) := by
    unfold copySlot fdObjRef at refused
    split at refused
    · exact (congrArg Prod.fst refused).symm
    · split at refused
      · cases congrArg Prod.snd refused
      · exact (congrArg Prod.fst refused).symm
  rw [shape]
  refine .giveBack (((Restored.refl s).setObj j _).setObj j _) free fun k other => .inl ?_
  exact (FdState.setObj_pool_of_ne _ _ other).trans (takeSlot_others s j k other)

theorem dupToFd_cases (call : dupToFd s pid oldfd newfd cloexec dupOk = r) :
    (r.1 = s ∧ r.2 < 0) ∨ ∃ old new, toFd oldfd = some old ∧ toFd newfd = some new ∧
      ¬ (2 < oldfd ∧ taskGetFd s pid old = none) ∧
      ((Undone (dropFd s pid new) r.1 ∧ r.2 < 0) ∨ ∃ j, ((dropFd s pid new).pool j).type = .free ∧
        r = ((((dropFd s pid new).copied (taskGetFd s pid old) j dupOk).setFd pid new
          (some j)).setCloexec pid new cloexec, newfd)) := by
  unfold dupToFd at call
  split at call
  · next old new source target =>
    dsimp only at call
    split at call
    · cases call
      exact .inl ⟨rfl, ebadf_neg⟩
    · next valid =>
      refine .inr ⟨old, new, source, target, valid, ?_⟩
      rcases fdPoolAlloc_cases (dropFd s pid new) with ⟨_, full⟩ | ⟨j, free, taken⟩
      · rw [full] at call
        cases call
        exact .inl ⟨.refl _, emfile_neg⟩
      rw [taken] at call
      cases found : taskGetFd s pid old with
      | none =>
        rw [found] at call
        exact .inr ⟨j, free, call.symm⟩
      | some =>
        rw [found] at call
        dsimp only at call
        split at call
        · next copy refused =>
          cases call
          exact .inl ⟨copySlot_refused free refused, ebadf_neg⟩
        · next copy done =>
          refine .inr ⟨j, free, ?_⟩
          rw [FdState.copied, done]
          exact call.symm
  · cases call
    exact .inl ⟨rfl, ebadf_neg⟩

theorem fcntlDupfd_cases (call : (fcntlDupfd s pid fd minfd cloexec dupOk).1 = t) :
    t = s ∨ ∃ old src j, toFd fd = some old ∧ taskGetFd s pid old = src ∧ (s.pool j).type = .free ∧
      ((src.isSome ∧ freeFd s pid (dupFloor minfd) = none ∧
        t = fdPoolFree (s.copied src j dupOk) j) ∨
        ∃ new, freeFd s pid (dupFloor minfd) = some new ∧
          t = ((s.copied src j dupOk).setFd pid new (some j)).setCloexec pid new cloexec) := by
  unfold fcntlDupfd at call
  cases argument : toFd fd with
  | none =>
    rw [argument] at call
    exact .inl call.symm
  | some old =>
    rw [argument] at call
    dsimp only at call
    cases source : taskGetFd s pid old with
    | none =>
      rw [source] at call
      dsimp only at call
      split at call
      · exact .inl call.symm
      cases found : freeFd s pid (dupFloor minfd) with
      | none =>
        rw [found] at call
        exact .inl call.symm
      | some new =>
        rw [found] at call
        rcases fdPoolAlloc_cases s with ⟨_, full⟩ | ⟨j, free, taken⟩
        · rw [full] at call
          exact .inl call.symm
        · rw [taken] at call
          exact .inr ⟨old, none, j, rfl, source, free, .inr ⟨new, rfl, call.symm⟩⟩
    | some i =>
      rw [source] at call
      rcases fdPoolAlloc_cases s with ⟨_, full⟩ | ⟨j, free, taken⟩
      · rw [full] at call
        exact .inl call.symm
      rw [taken] at call
      dsimp only at call
      refine .inr ⟨old, some i, j, rfl, source, free, ?_⟩
      have tables := (copied_same s (some i) j dupOk).1
      rw [show freeFd (copySlot (s.takeSlot j) i j dupOk).1 pid (dupFloor minfd) =
        freeFd s pid (dupFloor minfd) from freeFd_congr tables ..] at call
      cases found : freeFd s pid (dupFloor minfd) with
      | none =>
        rw [found] at call
        exact .inl ⟨rfl, rfl, call.symm⟩
      | some new =>
        rw [found] at call
        exact .inr ⟨new, rfl, call.symm⟩

theorem forkFd_cases (parent child : Nat) (dupOk : Fin taskMaxFd → Bool) (s : FdState)
    (fd : Fin taskMaxFd) : forkFd parent child dupOk s fd = s ∨
      ∃ i j, taskGetFd s parent fd = some i ∧ (s.pool j).type = .free ∧
        forkFd parent child dupOk s fd =
          (s.copied (some i) j (dupOk fd)).setFd child fd (some j) := by
  unfold forkFd
  cases found : taskGetFd s parent fd with
  | none => exact .inl rfl
  | some i =>
    rcases fdPoolAlloc_cases s with ⟨_, full⟩ | ⟨j, free, taken⟩
    · rw [full]
      exact .inl rfl
    · rw [taken]
      exact .inr ⟨i, j, rfl, free, rfl⟩

theorem forkHandler_keeps {motive : FdState → Prop} (parent child : Nat) (ready : Bool)
    (dupOk : Fin taskMaxFd → Bool) (start : motive s)
    (made : ∀ task, motive (s.setTask child task))
    (copy : ∀ t i j fd, motive t → (t.pool j).type = .free →
      motive ((t.copied (some i) j (dupOk fd)).setFd child fd (some j))) :
    motive (forkHandler s parent child ready dupOk) := by
  unfold forkHandler
  split
  · split
    · apply List.foldlRecOn (motive := motive)
      · exact made _
      · intro t before fd _
        rcases forkFd_cases parent child dupOk t fd with same | ⟨i, j, _, free, after⟩
        · rw [same]
          exact before
        · rw [after]
          exact copy t i j fd before free
    · exact start
  · exact start

theorem inheritFd_cases (parent child : Nat) (dupOk : Fin taskMaxFd → Bool) (s : FdState)
    (fd : Fin taskMaxFd) : Undone s (inheritFd parent child dupOk s fd) ∨
      ∃ i j, ((s.tasks parent).map fun task => task.fdCloexec fd) ≠ some true ∧
        taskGetFd s parent fd = some i ∧ (s.pool i).type ≠ .epoll ∧ (s.pool j).type = .free ∧
        inheritFd parent child dupOk s fd =
          (s.copied (some i) j (dupOk fd)).setFd child fd (some j) := by
  unfold inheritFd
  split
  · exact .inl (.refl s)
  · next clear =>
    cases found : taskGetFd s parent fd with
    | none => exact .inl (.refl s)
    | some i =>
      dsimp only
      split
      · exact .inl (.refl s)
      · next plain =>
        rcases fdPoolAlloc_cases s with ⟨_, full⟩ | ⟨j, free, taken⟩
        · rw [full]
          exact .inl (.refl s)
        rw [taken]
        dsimp only
        split
        · next copy refused => exact .inl (copySlot_refused free refused)
        · next copy done =>
          refine .inr ⟨i, j, clear, rfl, plain, free, ?_⟩
          rw [FdState.copied, done]

end Copies

end AvatarKernel
