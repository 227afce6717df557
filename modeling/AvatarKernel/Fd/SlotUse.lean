import AvatarKernel.Fd.EpollLifetime

namespace AvatarKernel

open Function

structure Steady (s t : FdState) : Prop where
  used : ∀ i, (s.pool i).type ≠ .free → (t.pool i).type ≠ .free
  instances : t.epollInUse = s.epollInUse

namespace Steady

variable {s t u : FdState}

theorem refl (s : FdState) : Steady s s := ⟨fun _ used => used, rfl⟩

theorem ofSlots (slots : ∀ i, (s.pool i).type ≠ .free → t.pool i = s.pool i)
    (instances : t.epollInUse = s.epollInUse) : Steady s t :=
  ⟨fun i used => by rwa [slots i used], instances⟩

theorem trans (first : Steady s t) (second : Steady t u) : Steady s u :=
  ⟨fun i used => second.used i (first.used i used), second.instances.trans first.instances⟩

theorem undone (undone : Undone s t) : Steady s t :=
  ofSlots (fun i used => (undone.pool i).resolve_right fun gone => used gone.1) undone.instances

theorem opened (opens : Opened s pid t) : Steady s t := by
  cases opens with
  | undone back => exact undone back
  | @file i fd free unused =>
    exact ofSlots (fun j used => attached_others s i j fun here => used (here ▸ free)) rfl
  | @device i fd obj free unused type file =>
    exact ofSlots (fun j used => FdState.setObj_pool_of_ne _ _ fun here => used (here ▸ free)) rfl

theorem copied (free : (s.pool j).type = .free) (src : Option (Fin fdPoolSize)) (dupOk : Bool) :
    Steady s (s.copied src j dupOk) := by
  obtain ⟨_, instances, others⟩ := copied_same s src j dupOk
  exact ofSlots (fun k used => others k fun here => used (here ▸ free)) instances

theorem ofEq (steady : Steady s t) (pool : u.pool = t.pool)
    (instances : u.epollInUse = t.epollInUse) :
    Steady s u :=
  steady.trans (ofSlots (fun i _ => by rw [pool]) instances)

theorem pipe2Handler (s : FdState) (pid : Nat) (slot read write : Bool) :
    Steady s (pipe2Handler s pid slot read write).1 := by
  rcases pipe2Handler_cases s pid slot read write with
    back | ⟨rd, wr, rdFd, wrFd, _, freeRd, freeWr, _, _, made⟩
  · exact undone back
  rw [made]
  exact ofSlots (fun j used => piped_others s j (fun here => used (here ▸ freeRd))
    fun here => used (here ▸ freeWr)) rfl

protected theorem dupToFd (s : FdState) (pid : Nat) (oldfd newfd : Int) (cloexec dupOk : Bool)
    (old new : Fin taskMaxFd) (source : toFd oldfd = some old) (target : toFd newfd = some new)
    (valid : ¬ (2 < oldfd ∧ taskGetFd s pid old = none)) :
    Steady (dropFd s pid new) (dupToFd s pid oldfd newfd cloexec dupOk).1 := by
  simp only [dupToFd, source, target, if_neg valid]
  rcases fdPoolAlloc_cases (dropFd s pid new) with ⟨_, full⟩ | ⟨j, free, taken⟩
  · rw [full]
    exact refl _
  rw [taken]
  cases taskGetFd s pid old with
  | none => exact (copied free none dupOk).ofEq rfl rfl
  | some i =>
    dsimp only
    split
    · next copy result => exact undone (copySlot_refused free result)
    · next copy result =>
      have copy := copied free (some i) dupOk
      rw [FdState.copied, result] at copy
      exact copy.ofEq rfl rfl

protected theorem dupHandler (s : FdState) (pid : Nat) (oldfd : Int) (dupOk : Bool) :
    Steady s (dupHandler s pid oldfd dupOk).1 := by
  unfold dupHandler
  cases source : toFd oldfd with
  | none => exact refl s
  | some old =>
    dsimp only
    split
    · exact refl s
    · next valid =>
      cases unused : freeFd s pid 3 with
      | none => exact refl s
      | some new =>
        have after := Steady.dupToFd s pid oldfd new.val false dupOk old new source
          (toFd_val new) valid
        -- nothing is open at the descriptor that was found
        rwa [dropFd, freeFd_unused unused] at after

protected theorem fcntlDupfd (s : FdState) (pid : Nat) (fd minfd : Int) (cloexec dupOk : Bool) :
    Steady s (fcntlDupfd s pid fd minfd cloexec dupOk).1 := by
  generalize call : (fcntlDupfd s pid fd minfd cloexec dupOk).1 = t
  rcases fcntlDupfd_cases call with
    rfl | ⟨old, src, j, _, _, free, ⟨_, _, rfl⟩ | ⟨new, _, rfl⟩⟩
  · exact refl _
  · obtain ⟨_, instances, others⟩ := copied_same s src j dupOk
    refine ofSlots (fun k used => ?_) instances
    have other : k ≠ j := fun here => used (here ▸ free)
    exact (FdState.setObj_pool_of_ne _ _ other).trans (others k other)
  · exact (copied free src dupOk).ofEq rfl rfl

theorem forkHandler (s : FdState) (parent child : Nat) (ready : Bool)
    (dupOk : Fin taskMaxFd → Bool) : Steady s (forkHandler s parent child ready dupOk) :=
  forkHandler_keeps (motive := Steady s) parent child ready dupOk (refl s)
    (fun _ => (refl s).ofEq rfl rfl)
    fun _ i _ fd steady free => steady.trans ((copied free (some i) (dupOk fd)).ofEq rfl rfl)

end Steady

theorem epollCreate1Handler_effect (s : FdState) (pid : Nat) (cloexec : Bool)
    (found : (epollInstanceAlloc s).2 = some e) :
    s.epollInUse e = false ∧
      (∀ i, (s.pool i).type ≠ .free → ((epollCreate1Handler s pid cloexec).1.pool i).type ≠ .free) ∧
      ∃ flag, (epollCreate1Handler s pid cloexec).1.epollInUse = update s.epollInUse e flag := by
  have dead : s.epollInUse e = false := by
    rcases epollInstanceAlloc_cases s with none | ⟨e', dead, some⟩
    · cases (congrArg Prod.snd none).symm.trans found
    · cases (congrArg Prod.snd some).symm.trans found
      exact dead
  refine ⟨dead, ?_⟩
  rcases epollCreate1Handler_cases s pid cloexec with back | ⟨e', i, fd, same, _, free, _, made⟩
  · refine ⟨(Steady.undone back).used, false, ?_⟩
    rw [back.instances]
    exact (update_eq_self_iff.mpr dead.symm).symm
  · cases same.symm.trans found
    rw [made]
    refine ⟨fun j used => ?_, true, by split <;> rfl⟩
    have other : j ≠ i := fun here => used (here ▸ free)
    have kept : (s.withEpoll i e).pool j = s.pool j :=
      (FdState.setObj_pool_of_ne _ _ other).trans (takeSlot_others _ i j other)
    split <;> exact kept ▸ used

theorem dropFd_epollInUse (s : FdState) (pid : Nat) (fd : Fin taskMaxFd) (i : Fin fdPoolSize)
    (entry : s.table pid fd = some i) : (dropFd s pid fd).epollInUse =
      if (s.pool i).type = .epoll ∧ (s.pool i).vfsFile = none then
        update s.epollInUse (s.pool i).epIdx false
      else s.epollInUse := by
  simp only [dropFd, entry]
  show (fdObjClose (s.setFd pid fd none) i).epollInUse = _
  have pool : (s.setFd pid fd none).pool = s.pool := rfl
  unfold fdObjClose
  rw [pool]
  split
  · next free =>
    simp only [free, reduceCtorEq, false_and, if_false]
    rfl
  · cases target : (s.pool i).vfsFile with
    | some file =>
      simp only [reduceCtorEq, and_false, if_false]
      exact (FewerEpolls.vfsClose _ file).instances
    | none =>
      simp only [and_true]
      split
      · next epoll =>
        unfold epollDestroy
        split
        · rfl
        · next unused =>
          show s.epollInUse = _
          rw [eq_comm, update_eq_self_iff]
          exact (Bool.eq_false_of_not_eq_true unused).symm
      · rfl

end AvatarKernel
