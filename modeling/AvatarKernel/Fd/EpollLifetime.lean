import AvatarKernel.Fd.RefCount

namespace AvatarKernel

open Function
open Transition

/-- Every epoll object denotes an instance in use, and objects that denote the same instance go back
to the same `epoll_create1`. -/
structure EpollInv (s : FdState) : Prop where
  inUse : ∀ i, (s.pool i).type = .epoll → s.epollInUse (s.pool i).epIdx = true
  origin : ∀ i j, (s.pool i).type = .epoll → (s.pool j).type = .epoll →
    (s.pool i).epIdx = (s.pool j).epIdx → (s.pool i).created = (s.pool j).created

structure FewerEpolls (s t : FdState) : Prop where
  objects : ∀ i, (t.pool i).type = .epoll → t.pool i = s.pool i
  instances : t.epollInUse = s.epollInUse

namespace EpollInv

variable {s t : FdState}

theorem fewer (inv : EpollInv s) (fewer : FewerEpolls s t) : EpollInv t := by
  constructor
  · intro i epoll
    rw [fewer.objects i epoll, fewer.instances]
    exact inv.inUse i (fewer.objects i epoll ▸ epoll)
  · intro i j left right
    rw [fewer.objects i left, fewer.objects j right]
    exact inv.origin i j (fewer.objects i left ▸ left) (fewer.objects j right ▸ right)

theorem copied (inv : EpollInv s) (i j : Fin fdPoolSize) : EpollInv (s.setObj j (s.pool i)) := by
  -- every slot of the new pool holds an object of the old one
  have source : ∀ k, ∃ k', (s.setObj j (s.pool i)).pool k = s.pool k' := by
    intro k
    by_cases same : k = j
    · exact ⟨i, by rw [same, FdState.setObj_pool_self]⟩
    · exact ⟨k, FdState.setObj_pool_of_ne s _ same⟩
  constructor
  · intro k epoll
    obtain ⟨k', from'⟩ := source k
    rw [from'] at epoll ⊢
    exact inv.inUse k' epoll
  · intro k l left right
    obtain ⟨k', fromLeft⟩ := source k
    obtain ⟨l', fromRight⟩ := source l
    rw [fromLeft] at left ⊢
    rw [fromRight] at right ⊢
    exact inv.origin k' l' left right

end EpollInv

namespace FewerEpolls

variable {s t u : FdState}

theorem refl (s : FdState) : FewerEpolls s s := ⟨fun _ _ => rfl, rfl⟩

theorem trans (first : FewerEpolls s t) (second : FewerEpolls t u) : FewerEpolls s u := by
  constructor
  · intro i epoll
    have middle := second.objects i epoll
    rw [middle]
    exact first.objects i (middle ▸ epoll)
  · exact second.instances.trans first.instances

theorem ofEq (pool : t.pool = s.pool) (instances : t.epollInUse = s.epollInUse) :
    FewerEpolls s t := ⟨fun i _ => by rw [pool], instances⟩

theorem setObj (s : FdState) (i : Fin fdPoolSize) (other : obj.type ≠ .epoll) :
    FewerEpolls s (s.setObj i obj) := by
  constructor
  · intro j epoll
    by_cases same : j = i
    · rw [same, FdState.setObj_pool_self] at epoll
      exact absurd epoll other
    · exact FdState.setObj_pool_of_ne s _ same
  · rfl

theorem ofSlots (slots : ∀ i, t.pool i = s.pool i ∨ (t.pool i).type ≠ .epoll)
    (instances : t.epollInUse = s.epollInUse) : FewerEpolls s t :=
  ⟨fun i epoll => (slots i).resolve_right fun other => other epoll, instances⟩

theorem undone (undone : Undone s t) : FewerEpolls s t := by
  refine ofSlots (fun i => (undone.pool i).imp_right fun gone => ?_) undone.instances
  rw [gone.2.1]
  decide

theorem opened (opens : Opened s pid t) : FewerEpolls s t := by
  cases opens with
  | undone back => exact undone back
  | @file i fd free unused =>
    refine ofSlots (fun j => ?_) rfl
    by_cases here : j = i
    · subst here
      exact .inr (by simp [FdState.attached, FdState.setFd, FdState.setTask, fdObjAttachVfs])
    · exact .inl (attached_others s i j here)
  | @device i fd obj free unused type file =>
    refine (setObj s i ?_).trans (ofEq rfl rfl)
    rcases type with ion | dmabuf <;> simp [*]

protected theorem vfsClose (s : FdState) (file : Nat) : FewerEpolls s (vfsClose s file) := by
  apply ofEq (vfsClose_pool s file)
  unfold vfsClose
  split
  · rfl
  · split <;> rfl

end FewerEpolls

structure ClosedSlot (s t : FdState) (i : Fin fdPoolSize) : Prop where
  gone : (t.pool i).type = .free
  others : ∀ j, j ≠ i → t.pool j = s.pool j
  instances : ∀ e, ((s.pool i).type = .epoll → e ≠ (s.pool i).epIdx) →
    t.epollInUse e = s.epollInUse e
  tasks : t.tasks = s.tasks

theorem vfsClose_tasks (s : FdState) (file : Nat) : (vfsClose s file).tasks = s.tasks := by
  unfold vfsClose
  split
  · rfl
  · split <;> rfl

theorem fdObjClose_effect (s : FdState) (i : Fin fdPoolSize) :
    (∀ j, j ≠ i → (fdObjClose s i).pool j = s.pool j) ∧ (fdObjClose s i).tasks = s.tasks ∧
      ∀ e, ((s.pool i).type = .epoll → e ≠ (s.pool i).epIdx) →
        (fdObjClose s i).epollInUse e = s.epollInUse e := by
  unfold fdObjClose
  split
  · exact ⟨fun _ _ => rfl, rfl, fun _ _ => rfl⟩
  · cases (s.pool i).vfsFile with
    | some file =>
      refine ⟨fun j other => ?_, vfsClose_tasks s file, fun e _ => ?_⟩
      · rw [FdState.setObj_pool_of_ne _ _ other, vfsClose_pool]
      · exact congrFun (FewerEpolls.vfsClose s file).instances e
    | none =>
      dsimp only
      split
      · next epoll =>
          unfold epollDestroy epollInstanceFree
          split
          · refine ⟨fun _ _ => rfl, rfl, fun e other => ?_⟩
            exact update_of_ne (other epoll) ..
          · exact ⟨fun _ _ => rfl, rfl, fun _ _ => rfl⟩
      · exact ⟨fun _ _ => rfl, rfl, fun _ _ => rfl⟩

theorem closedSlot (s : FdState) (i : Fin fdPoolSize) :
    ClosedSlot s (fdPoolFree (fdObjClose s i) i) i := by
  obtain ⟨others, tasks, instances⟩ := fdObjClose_effect s i
  constructor
  · simp [fdPoolFree]
  · intro j other
    rw [fdPoolFree, FdState.setObj_pool_of_ne _ _ other]
    exact others j other
  · exact instances
  · exact tasks

def EpollShared (s : FdState) (i : Fin fdPoolSize) : Prop :=
  (s.pool i).type = .epoll ∧
    ∃ j, j ≠ i ∧ (s.pool j).type = .epoll ∧ (s.pool j).epIdx = (s.pool i).epIdx

variable {s t : FdState}

theorem ClosedSlot.remaining (closed : ClosedSlot s t i) (epoll : (t.pool j).type = .epoll) :
    j ≠ i ∧ t.pool j = s.pool j := by
  have other : j ≠ i := by
    intro same
    rw [same, closed.gone] at epoll
    cases epoll
  exact ⟨other, closed.others j other⟩

theorem EpollInv.closed (inv : EpollInv s) (closed : ClosedSlot s t i) (alone : ¬ EpollShared s i) :
    EpollInv t := by
  constructor
  · intro j epoll
    obtain ⟨other, same⟩ := closed.remaining epoll
    rw [same] at epoll ⊢
    rw [closed.instances]
    · exact inv.inUse j epoll
    · intro source equal
      exact alone ⟨source, j, other, epoll, equal⟩
  · intro j k left right
    obtain ⟨_, sameLeft⟩ := closed.remaining left
    obtain ⟨_, sameRight⟩ := closed.remaining right
    rw [sameLeft] at left ⊢
    rw [sameRight] at right ⊢
    exact inv.origin j k left right

theorem FdState.setFd_table (s : FdState) (pid : Nat) (fd : Fin taskMaxFd)
    (entry : Option (Fin fdPoolSize)) (p : Nat) (f : Fin taskMaxFd) :
    (s.setFd pid fd entry).table p f =
      if p = pid ∧ f = fd then (s.tasks pid).bind fun _ => entry else s.table p f := by
  unfold table setFd setTask
  by_cases same : p = pid
  · subst same
    by_cases here : f = fd
    · subst here
      cases s.tasks p <;> simp
    · cases s.tasks p <;> simp [here]
  · simp [same]

variable {fd : Fin taskMaxFd}

theorem FdState.table_congr (same : t.tasks = s.tasks) (pid : Nat) (fd : Fin taskMaxFd) :
    t.table pid fd = s.table pid fd := by
  simp only [FdState.table, same]

theorem FdState.distinct_tasks (present : s.tasks p = some task) (absent : s.tasks q = none) :
    p ≠ q := by
  rintro rfl
  exact Option.some_ne_none _ (present.symm.trans absent)

theorem dropFd_cases (s : FdState) (pid : Nat) (fd : Fin taskMaxFd) :
    (s.table pid fd = none ∧ dropFd s pid fd = s) ∨
      ∃ i, s.table pid fd = some i ∧ ClosedSlot (s.setFd pid fd none) (dropFd s pid fd) i := by
  unfold dropFd
  cases entry : s.table pid fd with
  | none => exact .inl ⟨rfl, rfl⟩
  | some i => exact .inr ⟨i, rfl, closedSlot _ i⟩

theorem dropFd_table_self (s : FdState) (pid : Nat) (fd : Fin taskMaxFd) :
    (dropFd s pid fd).table pid fd = none := by
  rcases dropFd_cases s pid fd with ⟨entry, same⟩ | ⟨i, _, closed⟩
  · rw [same, entry]
  · rw [FdState.table_congr closed.tasks, FdState.setFd_table, if_pos ⟨rfl, rfl⟩,
      Option.bind_fun_none]

theorem dropFd_table_of_ne (s : FdState) (distinct : ¬ (p = pid ∧ f = fd)) :
    (dropFd s pid fd).table p f = s.table p f := by
  rcases dropFd_cases s pid fd with ⟨_, same⟩ | ⟨i, _, closed⟩
  · rw [same]
  · rw [FdState.table_congr closed.tasks, FdState.setFd_table, if_neg distinct]

protected theorem EpollInv.dropFd (inv : EpollInv s) (pid : Nat) (fd : Fin taskMaxFd)
    (alone : ∀ i, s.table pid fd = some i → ¬ EpollShared s i) : EpollInv (dropFd s pid fd) := by
  rcases dropFd_cases s pid fd with ⟨_, same⟩ | ⟨i, entry, closed⟩
  · rw [same]
    exact inv
  · have taken : EpollInv (s.setFd pid fd none) := inv.fewer (.ofEq rfl rfl)
    exact taken.closed closed (alone i entry)

def SharesOutside (s : FdState) (pid : Nat) : Prop :=
  ∃ fd i j, s.table pid fd = some i ∧ (s.pool i).type = .epoll ∧ (s.pool j).type = .epoll ∧
    (s.pool j).epIdx = (s.pool i).epIdx ∧ ∀ other, s.table pid other ≠ some j

structure Closing (s : FdState) (pid : Nat) : Prop where
  inUse : ∀ i, (s.pool i).type = .epoll →
    s.epollInUse (s.pool i).epIdx = true ∨ ∃ fd, s.table pid fd = some i
  origin : ∀ i j, (s.pool i).type = .epoll → (s.pool j).type = .epoll →
    (s.pool i).epIdx = (s.pool j).epIdx → (s.pool i).created = (s.pool j).created
  inside : ¬ SharesOutside s pid

variable {pid : Nat}

theorem EpollInv.closing (inv : EpollInv s) (inside : ¬ SharesOutside s pid) : Closing s pid :=
  ⟨fun i epoll => .inl (inv.inUse i epoll), inv.origin, inside⟩

protected theorem Closing.dropFd (closing : Closing s pid) (fd : Fin taskMaxFd) :
    Closing (dropFd s pid fd) pid := by
  rcases dropFd_cases s pid fd with ⟨_, same⟩ | ⟨i, entry, closed⟩
  · rw [same]
    exact closing
  -- an entry for an object that remains is not the one that was dropped
  have stays : ∀ j, j ≠ i → (∃ other, s.table pid other = some j) →
      ∃ other, (dropFd s pid fd).table pid other = some j := by
    rintro j distinct ⟨other, found⟩
    have elsewhere : other ≠ fd := by
      intro same
      rw [same, entry] at found
      exact distinct (Option.some.inj found).symm
    exact ⟨other, (dropFd_table_of_ne s fun both => elsewhere both.2).trans found⟩
  have partner : ∀ fd' k j, s.table pid fd' = some k → (s.pool k).type = .epoll →
      (s.pool j).type = .epoll → (s.pool j).epIdx = (s.pool k).epIdx →
      ∃ other, s.table pid other = some j := by
    intro fd' k j found left right same
    by_contra outside
    exact closing.inside ⟨fd', k, j, found, left, right, same,
      fun other entry => outside ⟨other, entry⟩⟩
  constructor
  · intro j epoll
    obtain ⟨distinct, same⟩ := closed.remaining epoll
    rw [same] at epoll ⊢
    by_cases denotes : (s.pool i).type = .epoll ∧ (s.pool j).epIdx = (s.pool i).epIdx
    · exact .inr (stays j distinct (partner fd i j entry denotes.1 epoll denotes.2))
    · have kept := closed.instances ((s.pool j).epIdx) fun source equal => denotes ⟨source, equal⟩
      rcases closing.inUse j epoll with used | listed
      · exact .inl (kept.trans used)
      · exact .inr (stays j distinct listed)
  · intro j k left right
    obtain ⟨_, sameLeft⟩ := closed.remaining left
    obtain ⟨_, sameRight⟩ := closed.remaining right
    rw [sameLeft] at left ⊢
    rw [sameRight] at right ⊢
    exact closing.origin j k left right
  · rintro ⟨fd', k, j, found, left, right, same, outside⟩
    obtain ⟨_, sameLeft⟩ := closed.remaining left
    obtain ⟨distinct, sameRight⟩ := closed.remaining right
    rw [sameLeft] at left same
    rw [sameRight] at right same
    have elsewhere : fd' ≠ fd := by
      intro equal
      rw [equal, dropFd_table_self] at found
      cases found
    rw [dropFd_table_of_ne s fun both => elsewhere both.2] at found
    obtain ⟨other, listed⟩ := stays j distinct (partner fd' k j found left right same)
    exact outside other listed

theorem closeAllFds_closing (closing : Closing s pid) (fds : List (Fin taskMaxFd)) :
    Closing (fds.foldl (fun s fd => dropFd s pid fd) s) pid ∧
      ∀ fd, fd ∈ fds ∨ s.table pid fd = none →
        (fds.foldl (fun s fd => dropFd s pid fd) s).table pid fd = none := by
  induction fds generalizing s with
  | nil => exact ⟨closing, fun fd cases => cases.resolve_left List.not_mem_nil⟩
  | cons first _ ih =>
    obtain ⟨after, empty⟩ := ih (closing.dropFd first)
    refine ⟨after, fun fd cases => empty fd ?_⟩
    by_cases same : fd = first
    · exact .inr (same ▸ dropFd_table_self s pid first)
    · rw [dropFd_table_of_ne s fun both => same both.2]
      exact cases.imp_left fun member => (List.mem_cons.mp member).resolve_left same

protected theorem EpollInv.closeAllFds (inv : EpollInv s) (inside : ¬ SharesOutside s pid) :
    EpollInv (closeAllFds s pid) := by
  have all : ∀ fd, fd ∈ List.finRange taskMaxFd := List.mem_finRange
  unfold closeAllFds
  generalize List.finRange taskMaxFd = fds at all ⊢
  obtain ⟨closing, empty⟩ := closeAllFds_closing (inv.closing inside) fds
  constructor
  · intro i epoll
    rcases closing.inUse i epoll with used | ⟨fd, listed⟩
    · exact used
    · have none := empty fd (.inl (all fd))
      rw [none] at listed
      cases listed
  · exact closing.origin

namespace EpollInv

variable {s : FdState}

section

variable (inv : EpollInv s)
include inv

protected theorem copySlot (i j : Fin fdPoolSize) (dupOk : Bool) :
    EpollInv (copySlot s i j dupOk).1 := by
  exact (inv.copied i j).fewer (.ofEq (fdObjRef_same ..).1 (fdObjRef_same ..).2.2)

theorem setTask (pid : Nat) (task : Option FdTask) :
    EpollInv (s.setTask pid task) := inv.fewer (.ofEq rfl rfl)

theorem copiedSlot (src : Option (Fin fdPoolSize)) (j : Fin fdPoolSize) (dupOk : Bool) :
    EpollInv (s.copied src j dupOk) := by
  have taken : EpollInv (s.takeSlot j) := inv.fewer (.setObj s j (by simp))
  cases src with
  | none => exact taken
  | some i => exact taken.copySlot i j dupOk

protected theorem dupToFd (pid : Nat) (oldfd newfd : Int) (cloexec dupOk : Bool)
    (alone : ∀ old new i, toFd oldfd = some old → toFd newfd = some new →
      (2 < oldfd → taskGetFd s pid old ≠ none) → s.table pid new = some i → ¬ EpollShared s i) :
    EpollInv (dupToFd s pid oldfd newfd cloexec dupOk).1 := by
  generalize call : dupToFd s pid oldfd newfd cloexec dupOk = r
  rcases dupToFd_cases call with ⟨same, _⟩ | ⟨old, new, source, target, valid, result⟩
  · rw [same]
    exact inv
  have dropped : EpollInv (dropFd s pid new) := by
    apply inv.dropFd pid new
    intro i entry
    exact alone old new i source target (fun high none => valid ⟨high, none⟩) entry
  rcases result with ⟨undone, _⟩ | ⟨j, _, rfl⟩
  · exact dropped.fewer (.undone undone)
  · exact ((dropped.copiedSlot _ j dupOk).setTask pid _).setTask pid _

protected theorem fcntlDupfd (pid : Nat) (fd minfd : Int) (cloexec dupOk : Bool) :
    EpollInv (fcntlDupfd s pid fd minfd cloexec dupOk).1 := by
  generalize call : (fcntlDupfd s pid fd minfd cloexec dupOk).1 = t
  rcases fcntlDupfd_cases call with
    rfl | ⟨old, src, j, _, _, _, ⟨_, _, rfl⟩ | ⟨new, _, rfl⟩⟩
  · exact inv
  · exact (inv.copiedSlot src j dupOk).fewer (.setObj _ j (by simp))
  · exact ((inv.copiedSlot src j dupOk).setTask pid _).setTask pid _

theorem pipe2Handler (pid : Nat) (slot read write : Bool) :
    EpollInv (pipe2Handler s pid slot read write).1 := by
  rcases pipe2Handler_cases s pid slot read write with
    undone | ⟨rd, wr, rdFd, wrFd, _, _, _, _, _, made⟩
  · exact inv.fewer (.undone undone)
  rw [made]
  refine inv.fewer (.ofSlots (fun j => (piped_slot s rd wr j).imp_right fun vfs epoll => ?_) rfl)
  cases vfs.symm.trans epoll

theorem forkHandler (parent child : Nat) (ready : Bool) (dupOk : Fin taskMaxFd → Bool) :
    EpollInv (forkHandler s parent child ready dupOk) :=
  forkHandler_keeps (motive := EpollInv) parent child ready dupOk inv (fun _ => inv.setTask child _)
    fun _ i j fd kept _ => (kept.copiedSlot (some i) j (dupOk fd)).setTask child _

theorem setInstance (flag : Bool) (unused : ∀ i, (s.pool i).type = .epoll → (s.pool i).epIdx ≠ e) :
    EpollInv { s with epollInUse := update s.epollInUse e flag } := by
  constructor
  · intro i epoll
    exact (update_of_ne (unused i epoll) ..).trans (inv.inUse i epoll)
  · exact inv.origin

theorem created (i : Fin fdPoolSize) (denotes : obj.epIdx = e) (used : s.epollInUse e = true)
    (unused : ∀ j, (s.pool j).type = .epoll → (s.pool j).epIdx ≠ e) :
    EpollInv (s.setObj i obj) := by
  have slots : ∀ j, ((s.setObj i obj).pool j).type = .epoll →
      (s.setObj i obj).pool j = obj ∧ j = i ∨ (s.setObj i obj).pool j = s.pool j := by
    intro j _
    by_cases same : j = i
    · exact .inl ⟨by rw [same, FdState.setObj_pool_self], same⟩
    · exact .inr (FdState.setObj_pool_of_ne s obj same)
  constructor
  · intro j epoll
    rcases slots j epoll with ⟨new, _⟩ | old
    · rw [new, denotes]
      exact used
    · rw [old] at epoll ⊢
      exact inv.inUse j epoll
  · intro j k left right same
    rcases slots j left with ⟨newLeft, _⟩ | oldLeft <;>
      rcases slots k right with ⟨newRight, _⟩ | oldRight
    · rw [newLeft, newRight]
    · rw [newLeft, oldRight, denotes] at same
      exact absurd same.symm (unused k (oldRight ▸ right))
    · rw [oldLeft, newRight, denotes] at same
      exact absurd same (unused j (oldLeft ▸ left))
    · rw [oldLeft, oldRight] at same ⊢
      exact inv.origin j k (oldLeft ▸ left) (oldRight ▸ right) same

theorem epollCreate1Handler (pid : Nat) (cloexec : Bool) :
    EpollInv (epollCreate1Handler s pid cloexec).1 := by
  rcases epollCreate1Handler_cases s pid cloexec with undone | ⟨e, i, fd, _, dead, _, _, made⟩
  · exact inv.fewer (.undone undone)
  have unused : ∀ i, (s.pool i).type = .epoll → (s.pool i).epIdx ≠ e := by
    intro i epoll same
    have used := inv.inUse i epoll
    rw [same, dead] at used
    cases used
  have fewer : FewerEpolls { s with epollInUse := update s.epollInUse e true }
      ({ s with epollInUse := update s.epollInUse e true }.takeSlot i) := .setObj _ i (by simp)
  have object : EpollInv (s.withEpoll i e) := by
    refine (((inv.setInstance true unused).fewer fewer).created i rfl ?_ ?_).fewer (.ofEq rfl rfl)
    · exact update_self ..
    · exact fun j epoll => fewer.objects j epoll ▸ unused j (fewer.objects j epoll ▸ epoll)
  rw [made]
  split
  · exact (object.setTask pid _).setTask pid _
  · exact object.setTask pid _

end

end EpollInv

theorem inheritFd_effect (distinct : parent ≠ child) (dupOk : Fin taskMaxFd → Bool) (s : FdState)
    (fd : Fin taskMaxFd) :
    FewerEpolls s (inheritFd parent child dupOk s fd) ∧
      (inheritFd parent child dupOk s fd).tasks parent = s.tasks parent := by
  rcases inheritFd_cases parent child dupOk s fd with undone | ⟨i, j, _, found, plain, free, made⟩
  · exact ⟨.undone undone, congrFun undone.tasks parent⟩
  obtain ⟨tasks, instances, others⟩ := copied_same s (some i) j (dupOk fd)
  have elsewhere : i ≠ j := by
    rintro rfl
    exact (taskGetFd_used found).2 free
  rw [made]
  refine ⟨.ofSlots (fun k => ?_) instances, ?_⟩
  · by_cases here : k = j
    · right
      subst here
      show ((copySlot (s.takeSlot k) i k (dupOk fd)).1.pool k).type ≠ .epoll
      rw [copySlot_pool, takeSlot_others s k i elsewhere]
      exact plain
    · exact .inl (others k here)
  · exact (update_of_ne distinct ..).trans (congrFun tasks parent)

theorem fdTableInherit_effect (distinct : parent ≠ child) (dupOk : Fin taskMaxFd → Bool)
    (s : FdState) :
    FewerEpolls s (fdTableInherit s child parent dupOk) ∧
      (fdTableInherit s child parent dupOk).tasks parent = s.tasks parent := by
  unfold fdTableInherit
  split
  · apply List.foldlRecOn
      (motive := fun t : FdState => FewerEpolls s t ∧ t.tasks parent = s.tasks parent)
    · exact ⟨.refl s, rfl⟩
    · intro before kept fd _
      have step := inheritFd_effect distinct dupOk before fd
      exact ⟨kept.1.trans step.1, step.2.trans kept.2⟩
  · exact ⟨.refl s, rfl⟩

theorem FewerEpolls.sharesOutside (fewer : FewerEpolls s t) (tables : t.tasks pid = s.tasks pid)
    (shares : SharesOutside t pid) : SharesOutside s pid := by
  have table : ∀ fd, t.table pid fd = s.table pid fd := by
    intro fd
    simp only [FdState.table, tables]
  obtain ⟨fd, i, j, entry, left, right, same, outside⟩ := shares
  have objectLeft := fewer.objects i left
  have objectRight := fewer.objects j right
  refine ⟨fd, i, j, (table fd).symm.trans entry, objectLeft ▸ left, objectRight ▸ right, ?_, ?_⟩
  · rw [← objectLeft, ← objectRight]
    exact same
  · intro other found
    exact outside other ((table other).trans found)

/-- The call closes an epoll object while another object that it does not close denotes the same
instance. -/
def DropsShared (s : FdState) : FdCall → Prop
  | .close pid fd => ∃ fd' i, toFd fd = some fd' ∧ s.table pid fd' = some i ∧ EpollShared s i
  | .dup3 pid oldfd newfd _ _ => oldfd ≠ newfd ∧ ∃ old new i, toFd oldfd = some old ∧
      toFd newfd = some new ∧ (2 < oldfd → taskGetFd s pid old ≠ none) ∧
      s.table pid new = some i ∧ EpollShared s i
  | .execve pid new ready _ => ready = true ∧ s.tasks pid ≠ none ∧ s.tasks new = none ∧
      SharesOutside s pid
  | .exit pid => SharesOutside s pid
  | _ => False

protected theorem EpollInv.fdCall (inv : EpollInv s) (call : FdCall) (kept : ¬ DropsShared s call) :
    EpollInv (fdCall s call) := by
  cases call with
  | openat => exact inv.fewer (.opened (openatHandler_opened ..))
  | close pid =>
    unfold fdCall closeHandler
    dsimp only
    split
    · exact inv
    · next fd' argument =>
        exact inv.dropFd pid fd' fun i entry shared => kept ⟨fd', i, argument, entry, shared⟩
  | dup =>
    unfold fdCall dupHandler
    dsimp only
    split
    · exact inv
    · split
      · exact inv
      · split
        · exact inv
        · next new unused =>
            -- the new descriptor is unused, so nothing is closed
            apply inv.dupToFd
            intro _ target i _ argument _ entry
            rw [toFd_val] at argument
            rw [← Option.some.inj argument, freeFd_unused unused] at entry
            cases entry
  | dup3 =>
    unfold fdCall dup3Handler
    dsimp only
    split
    · exact inv
    · next distinct =>
        apply inv.dupToFd
        intro old new i source target valid entry shared
        exact kept ⟨distinct, old, new, i, source, target, valid, entry, shared⟩
  | fcntlDup pid fd minfd cloexec dupOk => exact inv.fcntlDupfd pid fd minfd cloexec dupOk
  | fcntlSet pid =>
    unfold fdCall fcntlSetfd
    dsimp only
    split
    · exact inv
    · split
      · exact inv
      · exact inv.setTask pid _
  | pipe2 pid slot read write => exact inv.pipe2Handler pid slot read write
  | fork parent child ready dupOk => exact inv.forkHandler parent child ready dupOk
  | execve pid new _ dupOk =>
    unfold fdCall execHandler
    dsimp only
    split
    · next task caller unused =>
        split
        · next loaded =>
            have distinct := FdState.distinct_tasks caller unused
            have inherited := fdTableInherit_effect distinct dupOk
              (s.setTask new (some ⟨true, fun _ => none, fun _ => false⟩))
            have started : FewerEpolls s
                (s.setTask new (some ⟨true, fun _ => none, fun _ => false⟩)) := .ofEq rfl rfl
            have fewer := started.trans inherited.1
            apply (inv.fewer fewer).closeAllFds
            intro shares
            have tables := inherited.2.trans (update_of_ne distinct ..)
            exact kept ⟨loaded, by rw [caller]; exact Option.some_ne_none _, unused,
              fewer.sharesOutside tables shares⟩
        · exact inv
    · exact inv
  | exit pid => exact (inv.closeAllFds kept).setTask pid none
  | epollCreate pid cloexec => exact inv.epollCreate1Handler pid cloexec
  | device => exact inv.fewer (.opened (taskAllocDeviceFd_opened ..))

structure EpollContract (s : FdState) : Prop where
  stays : ∀ pid task fd i, s.tasks pid = some task → task.fdTable fd = some i →
    (s.pool i).type = .epoll → s.epollInUse (s.pool i).epIdx = true
  apart : ∀ i j, (s.pool i).type = .epoll → (s.pool j).type = .epoll →
    (s.pool i).created ≠ (s.pool j).created → (s.pool i).epIdx = (s.pool j).epIdx →
      s.epollInUse (s.pool i).epIdx = false

/-- In every run that closes no epoll object while another denotes the same instance, an instance is
in use as long as a descriptor refers to it, and different `epoll_create1` calls give different
ones. -/
theorem epollContract_of_unshared (calls : List FdCall) (s : FdState)
    (run : Run (Guarded (graph fdCall) fun s call => ¬ DropsShared s call) fdBoot calls s) :
    EpollContract s := by
  have boot : EpollInv fdBoot := by
    constructor
    · intro i epoll
      cases epoll
    · intro i j epoll
      cases epoll
  have inv : EpollInv s := run.guarded (fun _ call inv apart => inv.fdCall call apart) boot
  constructor
  · intro pid task fd i _ _ epoll
    exact inv.inUse i epoll
  · intro i j left right distinct same
    exact absurd (inv.origin i j left right same) distinct

def dupedEpoll : FdState :=
  fdCall (fdCall (fdCall fdBoot (.execve 0 1 true fun _ => true)) (.epollCreate 1 false))
    (.dup 1 3 true)

theorem epollContract_after_dup : EpollContract dupedEpoll := by
  have idle : ¬ SharesOutside fdBoot 0 := by
    rintro ⟨fd, i, j, _, epoll, _⟩
    cases epoll
  exact epollContract_of_unshared
    [.execve 0 1 true fun _ => true, .epollCreate 1 false, .dup 1 3 true] _
    (.snoc (.snoc (.snoc .nil ⟨fun drops => idle drops.2.2.2, rfl⟩) ⟨id, rfl⟩) ⟨id, rfl⟩)

/-- `close` of one of two duplicates destroys the instance of the other, and the next
`epoll_create1` hands that instance out again. -/
theorem epollContract_broken_by_close :
    ¬ EpollContract (fdCall dupedEpoll (.close 1 3)) ∧
      ¬ EpollContract (fdCall (fdCall dupedEpoll (.close 1 3)) (.epollCreate 1 false)) := by
  constructor
  · intro contract
    have entry : (fdCall dupedEpoll (.close 1 3)).table 1 4 = some 1 := by decide +kernel
    obtain ⟨task, live, listed⟩ := Option.bind_eq_some_iff.mp entry
    have used := contract.stays 1 task 4 1 live listed (by decide +kernel)
    have destroyed : (fdCall dupedEpoll (.close 1 3)).epollInUse
        ((fdCall dupedEpoll (.close 1 3)).pool 1).epIdx = false := by decide +kernel
    exact Bool.noConfusion (used.symm.trans destroyed)
  · intro contract
    have unused := contract.apart 0 1 (by decide +kernel) (by decide +kernel) (by decide +kernel)
      (by decide +kernel)
    have used : (fdCall (fdCall dupedEpoll (.close 1 3)) (.epollCreate 1 false)).epollInUse
        ((fdCall (fdCall dupedEpoll (.close 1 3)) (.epollCreate 1 false)).pool 0).epIdx = true := by
      decide +kernel
    exact Bool.noConfusion (used.symm.trans unused)

end AvatarKernel
