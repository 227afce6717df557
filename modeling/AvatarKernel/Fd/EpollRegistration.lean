import AvatarKernel.Fd.Epoll
import AvatarKernel.Fd.SlotUse

namespace AvatarKernel

open Function
open BackRef Transition

namespace EpollState

abbrev rows (s : EpollState) (e : Fin epollMaxInstances) : List EpollItem := (s.inst e).items

/-- Queues and items refer to each other under the given instances, free slots have empty queues, no
queue is longer than its array, and the ready items are counted. -/
structure WiredFor (live : Fin epollMaxInstances → Bool) (s : EpollState) : Prop where
  linked : Linked live EpollItem.poolIdx s.rows s.wq
  idle : ∀ i, (s.fd.pool i).type = .free → s.wq i = []
  room : ∀ i, (s.wq i).length ≤ fdWaitMax
  counted : ∀ e, (s.inst e).readyCount = ((s.inst e).items.countP EpollItem.ready : Int)

abbrev Wired (s : EpollState) : Prop := s.WiredFor s.fd.epollInUse

theorem rows_setInst (s : EpollState) (e : Fin epollMaxInstances) (inst : EpollInstance) :
    (s.setInst e inst).rows = update s.rows e inst.items := by
  funext e'
  by_cases same : e' = e
  · subst same
    simp [rows, setInst]
  · simp [rows, setInst, same]

namespace WiredFor

variable {s : EpollState} {live : Fin epollMaxInstances → Bool}

theorem setInst (wired : s.WiredFor live) (e : Fin epollMaxInstances) {inst : EpollInstance}
    (objects : inst.items.map EpollItem.poolIdx = (s.rows e).map EpollItem.poolIdx)
    (count : inst.readyCount = (inst.items.countP EpollItem.ready : Int)) :
    (s.setInst e inst).WiredFor live := by
  constructor
  · apply wired.linked.congr
    intro e'
    rw [rows_setInst]
    by_cases same : e' = e
    · subst same
      rw [update_self]
      exact objects
    · rw [update_of_ne same]
  · exact wired.idle
  · exact wired.room
  · intro e'
    by_cases same : e' = e
    · subst same
      simp only [EpollState.setInst, update_self]
      exact count
    · simp only [EpollState.setInst, update_of_ne same]
      exact wired.counted e'

theorem setItem (wired : s.WiredFor live) (found : (s.rows e)[k]? = some item) (item' : EpollItem)
    (object : item'.poolIdx = item.poolIdx)
    (counts : change + (if item.ready then 1 else 0) = if item'.ready then 1 else 0) :
    (s.setInst e ⟨(s.rows e).set k item', (s.inst e).readyCount + change⟩).WiredFor live := by
  obtain ⟨inside, value⟩ := List.getElem?_eq_some_iff.mp found
  apply wired.setInst e
  · rw [List.map_set, object]
    apply List.ext_getElem?
    intro j
    by_cases same : k = j
    · subst same
      simp [inside, value]
    · simp [same]
  · have positive : item.ready = true → 0 < (s.rows e).countP EpollItem.ready := by
      intro ready
      exact List.countP_pos_iff.mpr ⟨item, List.mem_of_getElem? found, ready⟩
    rw [List.countP_set inside, value, wired.counted e]
    generalize (s.rows e).countP EpollItem.ready = ready at positive
    cases was : item.ready <;> cases now : item'.ready <;>
      simp only [was, now, if_true, if_false, Bool.false_eq_true, forall_const]
        at counts positive ⊢ <;> omega

theorem notifyWaiter (wired : s.WiredFor live) (o : Fin fdPoolSize) (events : BitVec 32)
    (w : FdWaiter) : (s.notifyWaiter o events w).WiredFor live := by
  unfold EpollState.notifyWaiter
  cases found : (s.inst w.owner).items[w.pos]? with
  | none => exact wired
  | some item =>
    dsimp only
    split
    · next told =>
      apply wired.setItem found { item with ready := true } rfl
      simp [told.2.2.2]
    · exact wired

theorem fdNotifyWaiters (wired : s.WiredFor live) (o : Fin fdPoolSize) (events : BitVec 32) :
    (s.fdNotifyWaiters o events).WiredFor live := by
  have loop : ∀ (waiters : List FdWaiter) (t : EpollState), t.WiredFor live →
      (waiters.foldl (EpollState.notifyWaiter o events) t).WiredFor live := by
    intro waiters
    induction waiters with
    | nil => exact fun _ wired => wired
    | cons w _ ih => exact fun t wired => ih _ (wired.notifyWaiter o events w)
  exact loop _ s wired

end WiredFor

section Remove

variable {s : EpollState} {live : Fin epollMaxInstances → Bool}

variable {e : Fin epollMaxInstances}

theorem last_listed (wired : s.WiredFor live) (o : Fin fdPoolSize) (alive : live e = true)
    (ends : (s.rows e).getLast? = some last) (moved : k + 1 < (s.rows e).length) :
    (⟨e, (s.rows e).length - 1⟩ : FdWaiter) ∈ unlist s.wq o ⟨e, k⟩ last.poolIdx := by
  have final : (s.rows e)[(s.rows e).length - 1]? = some last := by
    rw [← List.getLast?_eq_getElem?]
    exact ends
  have other : ¬ (s.rows e).length - 1 = k := by omega
  apply List.count_pos_iff.mp
  rw [count_unlist, wired.linked.listed alive final]
  simp [other]

variable {item : EpollItem}

theorem removeItem_eq (wired : s.WiredFor live) (alive : live e = true)
    (found : (s.rows e)[k]? = some item) (ends : (s.rows e).getLast? = some last) :
    (s.wqUnregister item.poolIdx ⟨e, k⟩).removeItem e k =
      { s.setInst e
        ⟨swapRemove (s.rows e) k, (s.inst e).readyCount - if item.ready then 1 else 0⟩ with
        wq := if k + 1 < (s.rows e).length then
            enlist
              (unlist (unlist s.wq item.poolIdx ⟨e, k⟩) last.poolIdx ⟨e, (s.rows e).length - 1⟩)
              last.poolIdx ⟨e, k⟩
          else unlist s.wq item.poolIdx ⟨e, k⟩ } := by
  have here : ((s.wqUnregister item.poolIdx ⟨e, k⟩).inst e).items = s.rows e := rfl
  unfold removeItem
  simp only [here, found, ends]
  by_cases moved : k + 1 < (s.rows e).length
  · have shorter := length_unlist (last_listed wired item.poolIdx alive ends moved)
    have bound := length_unlist_le s.wq item.poolIdx last.poolIdx ⟨e, k⟩
    have full := wired.room last.poolIdx
    have fits : ¬ fdWaitMax ≤ (unlist (unlist s.wq item.poolIdx ⟨e, k⟩) last.poolIdx
        ⟨e, (s.rows e).length - 1⟩ last.poolIdx).length := by omega
    simp only [moved, if_true, wqRegister, wqUnregister, fits, if_false, EpollState.setInst]
  · simp only [moved, if_false, wqUnregister, EpollState.setInst]

theorem removeItem_shrinks (wired : s.WiredFor live) (alive : live e = true)
    (found : (s.rows e)[k]? = some item) (i : Fin fdPoolSize) :
    (((s.wqUnregister item.poolIdx ⟨e, k⟩).removeItem e k).wq i).length ≤
      (unlist s.wq item.poolIdx ⟨e, k⟩ i).length := by
  cases ends : (s.rows e).getLast? with
  | none =>
    rw [List.getLast?_eq_none_iff.mp ends] at found
    cases found
  | some =>
    rw [removeItem_eq wired alive found ends]
    by_cases moved : k + 1 < (s.rows e).length
    · simp only [moved, if_true]
      exact Nat.le_of_eq
        (length_enlist_unlist (last_listed wired item.poolIdx alive ends moved) _ i)
    · simp only [moved, if_false]
      exact Nat.le_refl _

theorem WiredFor.remove (wired : s.WiredFor live) (alive : live e = true)
    (found : (s.rows e)[k]? = some item) :
    ((s.wqUnregister item.poolIdx ⟨e, k⟩).removeItem e k).WiredFor live := by
  have shrinks : ∀ i, (((s.wqUnregister item.poolIdx ⟨e, k⟩).removeItem e k).wq i).length ≤
      (s.wq i).length := by
    intro i
    exact Nat.le_trans (removeItem_shrinks wired alive found i) (length_unlist_le ..)
  cases ends : (s.rows e).getLast? with
  | none =>
    rw [List.getLast?_eq_none_iff.mp ends] at found
    cases found
  | some =>
    have shape := removeItem_eq wired alive found ends
    constructor
    · rw [shape]
      rw [rows_setInst]
      exact wired.linked.drop alive found ends
    · intro i free
      apply List.eq_nil_of_length_eq_zero
      have before := shrinks i
      rw [shape] at free
      rw [wired.idle i free] at before
      exact Nat.le_zero.mp before
    · exact fun i => Nat.le_trans (shrinks i) (wired.room i)
    · intro e'
      rw [shape]
      by_cases same : e' = e
      · subst same
        simp only [EpollState.setInst, update_self]
        have count := countP_swapRemove EpollItem.ready found
        rw [wired.counted e']
        change ((s.rows e').countP EpollItem.ready : Int) - _ = _
        cases was : item.ready <;>
          simp only [was, if_true, if_false, Bool.false_eq_true] at count ⊢ <;>
          omega
      · simp only [EpollState.setInst, update_of_ne same]
        exact wired.counted e'

theorem wqRegister_fd (s : EpollState) (o : Fin fdPoolSize) (w : FdWaiter) :
    (s.wqRegister o w).1.fd = s.fd := by
  unfold wqRegister
  split <;> rfl

theorem removeItem_fd (s : EpollState) (e : Fin epollMaxInstances) (k : Nat) :
    (s.removeItem e k).fd = s.fd := by
  unfold removeItem
  dsimp only
  split
  · split
    · exact wqRegister_fd ..
    · rfl
  · rfl

theorem closeNotifyLoop_spec (n : Nat) (wired : s.Wired) (o : Fin fdPoolSize)
    (enough : (s.wq o).length ≤ n) : (closeNotifyLoop n s o).Wired ∧
      (closeNotifyLoop n s o).wq o = [] ∧ (closeNotifyLoop n s o).fd = s.fd := by
  induction n generalizing s with
  | zero => exact ⟨wired, List.eq_nil_of_length_eq_zero (Nat.le_zero.mp enough), rfl⟩
  | succ n ih =>
    unfold closeNotifyLoop
    cases queue : s.wq o with
    | nil => exact ⟨wired, queue, rfl⟩
    | cons w rest =>
      have member : w ∈ s.wq o := by
        rw [queue]
        exact List.mem_cons_self
      -- by the invariant the waiter belongs to an item of a live instance that watches this object
      obtain ⟨alive, item, found, rfl⟩ := wired.linked.backed member
      have popped : { s with wq := update s.wq item.poolIdx (swapRemove (w :: rest) 0) } =
          s.wqUnregister item.poolIdx w := by
        rw [wqUnregister, unlist, queue, remove_head]
      have shorter := length_unlist member
      have shrinks := removeItem_shrinks wired alive found item.poolIdx
      have fewer :
        (((s.wqUnregister item.poolIdx w).removeItem w.owner w.pos).wq item.poolIdx).length ≤
          n := by
        have bound : (unlist s.wq item.poolIdx w item.poolIdx).length + 1 ≤ n + 1 :=
          shorter ▸ enough
        exact Nat.le_trans shrinks (Nat.le_of_succ_le_succ bound)
      have same : ((s.wqUnregister item.poolIdx w).removeItem w.owner w.pos).fd = s.fd :=
        removeItem_fd ..
      have after : ((s.wqUnregister item.poolIdx w).removeItem w.owner w.pos).Wired := by
        have kept := wired.remove alive found
        rw [Wired, same]
        exact kept
      simp only [popped, found, alive, true_and, if_true]
      obtain ⟨done, empty, fixed⟩ := ih after fewer
      exact ⟨done, empty, fixed.trans same⟩

theorem epollUnregister_eq (idle : ∀ i, (s.fd.pool i).type = .free → s.wq i = [])
    (e : Fin epollMaxInstances) (alive : s.fd.epollInUse e = true) :
    s.epollUnregister e =
      { s with wq := unlistRows EpollItem.poolIdx (s.rows e) e (s.rows e).length s.wq } := by
  rw [epollUnregister, if_pos alive]
  unfold unlistRows
  generalize List.range (s.rows e).length = ks
  -- the two rounds agree on queues where those of free slots are empty
  generalize s.wq = wq at idle ⊢
  induction ks generalizing wq with
  | nil => rfl
  | cons k _ ih =>
    rw [List.foldl_cons, List.foldl_cons]
    cases found : (s.rows e)[k]? with
    | none => exact ih wq idle
    | some item =>
      dsimp only
      by_cases free : (s.fd.pool item.poolIdx).type = .free
      · have nothing : unlist wq item.poolIdx ⟨e, k⟩ = wq := by
          rw [unlist, idle _ free, remove, if_neg List.not_mem_nil]
          exact update_eq_self_iff.mpr (idle _ free).symm
        rw [if_pos free, nothing]
        exact ih wq idle
      · rw [if_neg free]
        apply ih
        intro i other
        apply List.eq_nil_of_length_eq_zero
        have shorter := length_unlist_le wq item.poolIdx i ⟨e, k⟩
        rw [idle i other] at shorter
        exact Nat.le_zero.mp shorter

def liveAfter (s : EpollState) (i : Fin fdPoolSize) : Fin epollMaxInstances → Bool :=
  if (s.fd.pool i).type = .epoll ∧ (s.fd.pool i).vfsFile = none then
    update s.fd.epollInUse (s.fd.pool i).epIdx false
  else s.fd.epollInUse

theorem WiredFor.epollUnregister (wired : s.Wired) (e : Fin epollMaxInstances) :
    (s.epollUnregister e).WiredFor (update s.fd.epollInUse e false) ∧
      (∀ i, ((s.epollUnregister e).wq i).length ≤ (s.wq i).length) ∧
      (s.epollUnregister e).fd = s.fd := by
  cases alive : s.fd.epollInUse e with
  | false =>
    have same : s.epollUnregister e = s := by
      rw [EpollState.epollUnregister, alive]
      rfl
    rw [same, update_eq_self_iff.mpr alive.symm]
    exact ⟨wired, fun _ => Nat.le_refl _, rfl⟩
  | true =>
    rw [epollUnregister_eq wired.idle e alive]
    have shorter := length_unlistRows_le EpollItem.poolIdx (s.rows e) e (s.rows e).length s.wq
    refine ⟨⟨wired.linked.unlistRows e, ?_, ?_, wired.counted⟩, shorter, rfl⟩
    · intro i free
      apply List.eq_nil_of_length_eq_zero
      have before := shorter i
      rw [wired.idle i free] at before
      exact Nat.le_zero.mp before
    · exact fun i => Nat.le_trans (shorter i) (wired.room i)

theorem WiredFor.closeObject (wired : s.Wired) (i : Fin fdPoolSize) :
    (s.closeObject i).WiredFor (s.liveAfter i) ∧ (s.closeObject i).wq i = [] ∧
      (s.closeObject i).fd = s.fd := by
  obtain ⟨told, empty, same⟩ := closeNotifyLoop_spec (s.wq i).length wired i (Nat.le_refl _)
  unfold EpollState.closeObject liveAfter
  by_cases epoll : (s.fd.pool i).type = .epoll ∧ (s.fd.pool i).vfsFile = none
  · rw [if_pos epoll, if_pos epoll]
    obtain ⟨after, shorter, fixed⟩ := WiredFor.epollUnregister told (s.fd.pool i).epIdx
    refine ⟨?_, ?_, fixed.trans same⟩
    · rw [same] at after
      exact after
    · apply List.eq_nil_of_length_eq_zero
      have before := shorter i
      rw [empty] at before
      exact Nat.le_zero.mp before
  · rw [if_neg epoll, if_neg epoll]
    rw [Wired, same] at told
    exact ⟨told, empty, same⟩

end Remove

section Calls

variable {s : EpollState}

variable {after : FdState}

namespace WiredFor

theorem withFd (wired : s.WiredFor after.epollInUse)
    (gone : ∀ i, (after.pool i).type = .free → s.wq i = []) : (s.withFd after).Wired := by
  have same : (s.withFd after).wq = s.wq := by
    funext i
    show (if _ then [] else s.wq i) = s.wq i
    split
    · next free =>
      rcases free with before | later
      · exact (wired.idle i before).symm
      · exact (gone i later).symm
    · rfl
  constructor
  · rw [same]
    exact wired.linked
  · intro i free
    rw [same]
    exact gone i free
  · rw [same]
    exact wired.room
  · exact wired.counted

theorem steady (wired : s.Wired) (steady : Steady s.fd after) :
    (s.withFd after).Wired := by
  apply withFd
  · rw [steady.instances]
    exact wired
  · intro i free
    apply wired.idle i
    by_contra used
    exact steady.used i used free

theorem closing (wired : s.Wired) {fd : Fin taskMaxFd} (entry : s.fd.table pid fd = some i)
    (steady : Steady (dropFd s.fd pid fd) after) : ((s.closeObject i).withFd after).Wired := by
  obtain ⟨closed, empty, same⟩ := wired.closeObject i
  have live : after.epollInUse = s.liveAfter i :=
    steady.instances.trans (dropFd_epollInUse s.fd pid fd i entry)
  apply withFd
  · rw [live]
    exact closed
  · intro j free
    by_cases this : j = i
    · rw [this]
      exact empty
    · have dropped : ((dropFd s.fd pid fd).pool j).type = .free := by
        by_contra used
        exact steady.used j used free
      rcases dropFd_cases s.fd pid fd with ⟨none, _⟩ | ⟨i', entry', slot⟩
      · rw [entry] at none
        cases none
      · rw [entry] at entry'
        cases entry'
        have before : (s.fd.pool j).type = .free := by
          rw [slot.others j this] at dropped
          exact dropped
        apply closed.idle j
        rw [same]
        exact before

theorem close (wired : s.Wired) (pid : Nat) (fd : Int) : (s.close pid fd).Wired := by
  unfold EpollState.close
  cases argument : toFd fd with
  | none => exact wired
  | some fd' =>
    simp only [Option.bind_some]
    cases entry : s.fd.table pid fd' with
    | none => exact wired
    | some =>
      have drop : (closeHandler s.fd pid fd).1 = dropFd s.fd pid fd' := by
        rw [closeHandler, argument]
      simp only [drop]
      exact wired.closing entry (Steady.refl _)

theorem dup3 (wired : s.Wired) (pid : Nat) (oldfd newfd : Int) (cloexec dupOk : Bool) :
    (s.dup3 pid oldfd newfd cloexec dupOk).Wired := by
  unfold EpollState.dup3
  split
  · exact wired
  · next distinct =>
    have handler : dup3Handler s.fd pid oldfd newfd cloexec dupOk =
        dupToFd s.fd pid oldfd newfd cloexec dupOk := by rw [dup3Handler, if_neg distinct]
    rw [handler]
    cases source : toFd oldfd with
    | none =>
      have refused : (dupToFd s.fd pid oldfd newfd cloexec dupOk).1 = s.fd := by
        simp only [dupToFd, source]
      simp only [dupCloses, source, refused]
      exact wired.steady (Steady.refl _)
    | some old =>
      cases target : toFd newfd with
      | none =>
        have refused : (dupToFd s.fd pid oldfd newfd cloexec dupOk).1 = s.fd := by
          simp only [dupToFd, source, target]
        simp only [dupCloses, source, target, refused]
        exact wired.steady (Steady.refl _)
      | some new =>
        by_cases invalid : 2 < oldfd ∧ taskGetFd s.fd pid old = none
        · have refused : (dupToFd s.fd pid oldfd newfd cloexec dupOk).1 = s.fd := by
            simp only [dupToFd, source, target, if_pos invalid]
          simp only [dupCloses, source, target, if_pos invalid, refused]
          exact wired.steady (Steady.refl _)
        · have steady :=
            Steady.dupToFd s.fd pid oldfd newfd cloexec dupOk old new source target invalid
          simp only [dupCloses, source, target, if_neg invalid]
          cases entry : s.fd.table pid new with
          | some => exact wired.closing entry steady
          | none =>
            have unchanged : dropFd s.fd pid new = s.fd := by rw [dropFd, entry]
            rw [unchanged] at steady
            exact wired.steady steady

theorem epollCreate1 (wired : s.Wired) (pid : Nat) (cloexec : Bool) :
    (s.epollCreate1 pid cloexec).Wired := by
  unfold EpollState.epollCreate1
  cases found : (epollInstanceAlloc s.fd).2 with
  | none => exact wired
  | some e =>
    obtain ⟨dead, used, flag, live⟩ := epollCreate1Handler_effect s.fd pid cloexec found
    apply withFd
    · constructor
      · rw [live, rows_setInst]
        exact wired.linked.revive dead flag
      · exact wired.idle
      · exact wired.room
      · intro e'
        by_cases same : e' = e
        · subst same
          simp [EpollState.setInst]
        · simp only [EpollState.setInst, update_of_ne same]
          exact wired.counted e'
    · intro i free
      apply wired.idle i
      by_contra taken
      exact used i taken free

end WiredFor

variable {e : Fin epollMaxInstances}

theorem WiredFor.ctlAdd (wired : s.Wired) (alive : s.fd.epollInUse e = true)
    (used : (s.fd.pool o).type ≠ .free) (fd : Fin taskMaxFd)
    (event : Option (BitVec 32 × BitVec 64)) (poll : Fin taskMaxFd → BitVec 32) :
    (s.ctlAdd e fd o event poll).1.Wired := by
  unfold EpollState.ctlAdd
  dsimp only
  split
  · exact wired
  · split
    · exact wired
    · match event with
      | none => exact wired
      | some (events, data) =>
        by_cases full : fdWaitMax ≤ (s.wq o).length
        · simp only [wqRegister, if_pos full]
          exact wired
        · simp only [wqRegister, if_neg full]
          constructor
          · rw [rows_setInst]
            exact wired.linked.add alive ⟨fd, o, events, data, _⟩
          · intro i free
            have other : i ≠ o := by
              intro same
              rw [same] at free
              exact used free
            show enlist s.wq o _ i = []
            rw [enlist, update_of_ne other]
            exact wired.idle i free
          · intro i
            show (enlist s.wq o _ i).length ≤ fdWaitMax
            by_cases same : i = o
            · subst same
              rw [enlist, update_self, List.length_append, List.length_singleton]
              omega
            · rw [enlist, update_of_ne same]
              exact wired.room i
          · intro e'
            by_cases same : e' = e
            · subst same
              simp only [EpollState.setInst, update_self, List.countP_append,
                List.countP_singleton, wired.counted e', decide_eq_true_eq]
              split <;> rfl
            · simp only [EpollState.setInst, update_of_ne same]
              exact wired.counted e'

theorem findIdx?_item {items : List EpollItem} {fd : Fin taskMaxFd}
    (search : items.findIdx? (fun item => item.fd = fd) = some found) :
    ∃ item, items[found]? = some item ∧ items.find? (fun item => item.fd = fd) = some item := by
  obtain ⟨inside, is, first⟩ := List.findIdx?_eq_some_iff_getElem.mp search
  refine ⟨items[found], List.getElem?_eq_getElem inside, ?_⟩
  rw [List.find?_eq_some_iff_getElem]
  exact ⟨is, found, inside, rfl, fun j before => by simpa using first j before⟩

theorem WiredFor.ctlDel (wired : s.Wired) (alive : s.fd.epollInUse e = true) (fd : Fin taskMaxFd)
    (o : Fin fdPoolSize)
    (registered : ∀ item, (s.rows e).find? (fun item => item.fd = fd) = some item →
      item.poolIdx = o) :
    (s.ctlDel e fd o).1.Wired := by
  unfold EpollState.ctlDel
  cases search : (s.inst e).items.findIdx? fun item => item.fd = fd with
  | none => exact wired
  | some =>
    obtain ⟨item, place, first⟩ := findIdx?_item search
    rw [← registered item first, Wired, removeItem_fd]
    exact wired.remove alive place

theorem WiredFor.ctlMod (wired : s.Wired) (e : Fin epollMaxInstances) (fd : Fin taskMaxFd)
    (event : Option (BitVec 32 × BitVec 64)) (poll : Fin taskMaxFd → BitVec 32) :
    (s.ctlMod e fd event poll).1.Wired := by
  unfold EpollState.ctlMod
  dsimp only
  cases (s.inst e).items.findIdx? fun item => item.fd = fd with
  | none => exact wired
  | some =>
    dsimp only
    split
    · next events data item place =>
      apply wired.setItem place
        { item with events := events, data := data, ready := decide (poll fd &&& events ≠ 0) } rfl
      cases item.ready <;> cases decide (poll fd &&& events ≠ 0) <;> rfl
    · exact wired

theorem epollOf_alive (denotes : s.epollOf pid epfd = some e) : s.fd.epollInUse e = true := by
  obtain ⟨i, _, object⟩ := Option.bind_eq_some_iff.mp denotes
  split at object
  · next epoll =>
    cases object
    exact epoll.2
  · cases object

def delHere (s : EpollState) (pid : Nat) (epfd fd : Int) : Bool :=
  match s.epollOf pid epfd, toFd fd with
  | some e, some fd =>
    ((s.rows e).find? fun item => item.fd = fd).all fun item =>
      s.fd.table pid fd = some item.poolIdx
  | _, _ => true

theorem WiredFor.epollCtl (wired : s.Wired) (pid : Nat) (epfd op fd : Int)
    (event : Option (BitVec 32 × BitVec 64)) (poll : Fin taskMaxFd → BitVec 32)
    (here : op = 2 → s.delHere pid epfd fd = true) :
    (s.epollCtl pid epfd op fd event poll).1.Wired := by
  unfold EpollState.epollCtl
  cases denotes : s.epollOf pid epfd with
  | none => exact wired
  | some e =>
    have alive := epollOf_alive denotes
    dsimp only
    split
    · exact wired
    · cases argument : toFd fd with
      | none => exact wired
      | some fd' =>
        dsimp only
        cases object : taskGetFd s.fd pid fd' with
        | none => exact wired
        | some o =>
          obtain ⟨entry, used⟩ := taskGetFd_used object
          dsimp only
          split
          · exact wired.ctlAdd alive used fd' event poll
          · split
            · next del =>
              apply wired.ctlDel alive fd' o
              intro item first
              have same := here del
              simp only [delHere, denotes, argument, first, entry, Option.all_some,
                decide_eq_true_eq, Option.some.injEq] at same
              exact same.symm
            · split
              · exact wired.ctlMod e fd' event poll
              · exact wired

theorem collect_poolIdx (poll : Fin taskMaxFd → BitVec 32) (room : Nat) (items : List EpollItem) :
    (collect poll room items).1.map EpollItem.poolIdx = items.map EpollItem.poolIdx := by
  induction items generalizing room with
  | nil => cases room <;> rfl
  | cons item _ ih =>
    cases room with
    | zero => rfl
    | succ room =>
      unfold collect
      split
      · exact congrArg (item.poolIdx :: ·) (ih room)
      · exact congrArg (item.poolIdx :: ·) (ih (room + 1))

theorem collect_ready (poll : Fin taskMaxFd → BitVec 32) (room : Nat) (items : List EpollItem)
    (enough : items.countP EpollItem.ready ≤ room) :
    (collect poll room items).1.countP EpollItem.ready = 0 := by
  induction items generalizing room with
  | nil => cases room <;> rfl
  | cons item rest ih =>
    rw [List.countP_cons] at enough
    cases room with
    | zero =>
      show (item :: rest).countP EpollItem.ready = 0
      rw [List.countP_cons]
      exact Nat.le_zero.mp enough
    | succ room =>
      unfold collect
      cases ready : item.ready with
      | true =>
        simp only [ready, if_true] at enough ⊢
        exact ih room (Nat.le_of_succ_le_succ enough)
      | false =>
        simp only [ready, Bool.false_eq_true, if_false, Nat.add_zero] at enough ⊢
        rw [List.countP_cons_of_neg (by simp [ready])]
        exact ih (room + 1) enough

def pwaitFits (s : EpollState) (pid : Nat) (epfd maxevents : Int)
    (poll : Fin taskMaxFd → BitVec 32) :
    Bool :=
  (s.epollOf pid epfd).all fun e =>
    ((s.rows e).countP fun item => item.matched poll ≠ 0) ≤ maxevents.toNat

theorem WiredFor.epollPwait (wired : s.Wired) (pid : Nat) (epfd maxevents : Int)
    (poll : Fin taskMaxFd → BitVec 32) (fits : s.pwaitFits pid epfd maxevents poll = true) :
    (s.epollPwait pid epfd maxevents poll).1.Wired := by
  unfold EpollState.epollPwait
  cases denotes : s.epollOf pid epfd with
  | none => exact wired
  | some e =>
    dsimp only
    split
    · exact wired
    · have objects : ((s.rows e).map fun item =>
          { item with ready := item.matched poll ≠ 0 }).map EpollItem.poolIdx =
            (s.rows e).map EpollItem.poolIdx := by
        rw [List.map_map]
        rfl
      have count : ((s.rows e).map fun item =>
          { item with ready := item.matched poll ≠ 0 }).countP EpollItem.ready =
            (s.rows e).countP fun item => item.matched poll ≠ 0 := by
        rw [List.countP_map]
        rfl
      split
      · apply wired.setInst e
        · rw [← objects]
          exact collect_poolIdx ..
        · simp only [pwaitFits, denotes, Option.all_some, decide_eq_true_eq] at fits
          have none := collect_ready poll maxevents.toNat _ (Nat.le_of_eq count |>.trans fits)
          exact (congrArg Int.ofNat none).symm
      · next quiet =>
        apply wired.setInst e objects
        rw [List.countP_eq_zero.mpr]
        · rfl
        · intro item member ready
          exact quiet (List.any_eq_true.mpr ⟨item, member, ready⟩)

end Calls

structure Told (s t : EpollState) : Prop where
  fd : t.fd = s.fd
  wq : t.wq = s.wq
  items : ∀ (e : Fin epollMaxInstances) (k : Nat) (item : EpollItem), (s.rows e)[k]? = some item →
    ∃ item' : EpollItem, (t.rows e)[k]? = some item' ∧ item'.poolIdx = item.poolIdx ∧
      item'.events = item.events ∧ (item.ready = true → item'.ready = true)

namespace Told

variable {s t u : EpollState}

theorem refl (s : EpollState) : Told s s :=
  ⟨rfl, rfl, fun _ _ item found => ⟨item, found, rfl, rfl, id⟩⟩

theorem trans (first : Told s t) (second : Told t u) : Told s u := by
  refine ⟨second.fd.trans first.fd, second.wq.trans first.wq, ?_⟩
  intro e k item found
  obtain ⟨item', found', object, events, ready⟩ := first.items e k item found
  obtain ⟨item'', found'', object', events', ready'⟩ := second.items e k item' found'
  exact ⟨item'', found'', object'.trans object, events'.trans events, fun is => ready' (ready is)⟩

theorem notifyWaiter (s : EpollState) (o : Fin fdPoolSize) (events : BitVec 32) (w : FdWaiter) :
    Told s (s.notifyWaiter o events w) := by
  unfold EpollState.notifyWaiter
  cases found : (s.inst w.owner).items[w.pos]? with
  | none => exact refl s
  | some =>
    dsimp only
    split
    · refine ⟨rfl, rfl, ?_⟩
      intro e k before place
      rw [rows_setInst]
      by_cases owner : e = w.owner
      · subst owner
        rw [update_self]
        by_cases pos : w.pos = k
        · subst pos
          have inside := (List.getElem?_eq_some_iff.mp place).1
          cases found.symm.trans place
          exact ⟨_, List.getElem?_set_self inside, rfl, rfl, fun _ => rfl⟩
        · exact ⟨before, (List.getElem?_set_ne pos).trans place, rfl, rfl, id⟩
      · rw [update_of_ne owner]
        exact ⟨before, place, rfl, rfl, id⟩
    · exact refl s

end Told

theorem notifyWaiter_ready (s : EpollState) (alive : s.fd.epollInUse w.owner = true)
    (found : (s.rows w.owner)[w.pos]? = some item) (object : item.poolIdx = o)
    (hears : item.hears events = true) :
    ∃ item', ((s.notifyWaiter o events w).rows w.owner)[w.pos]? = some item' ∧
      item'.ready = true := by
  have inside := (List.getElem?_eq_some_iff.mp found).1
  unfold EpollState.notifyWaiter
  have place : (s.inst w.owner).items[w.pos]? = some item := found
  simp only [place, alive, object, hears, true_and]
  by_cases ready : item.ready = true
  · simp only [ready, Bool.true_eq_false, if_false]
    exact ⟨item, found, ready⟩
  · rw [if_pos (Bool.eq_false_of_not_eq_true ready), rows_setInst, update_self]
    exact ⟨_, List.getElem?_set_self inside, rfl⟩

theorem notifyWaiters_told (o : Fin fdPoolSize) (events : BitVec 32) (waiters : List FdWaiter)
    (s : EpollState) : Told s (waiters.foldl (notifyWaiter o events) s) := by
  induction waiters generalizing s with
  | nil => exact Told.refl s
  | cons w _ ih => exact (Told.notifyWaiter s o events w).trans (ih _)

theorem fdNotifyWaiters_ready (s : EpollState) (listed : (⟨e, k⟩ : FdWaiter) ∈ s.wq o)
    (alive : s.fd.epollInUse e = true) (found : (s.rows e)[k]? = some item)
    (object : item.poolIdx = o) (hears : item.hears events = true) :
    ∃ item', ((s.fdNotifyWaiters o events).rows e)[k]? = some item' ∧ item'.ready = true := by
  -- the queue before and after the waiter of this item
  obtain ⟨before, after, queue⟩ := List.append_of_mem listed
  unfold fdNotifyWaiters
  rw [queue, List.foldl_append, List.foldl_cons]
  have earlier := notifyWaiters_told o events before s
  obtain ⟨item', found', object', events', _⟩ := earlier.items e k item found
  have hears' : item'.hears events = true := by
    unfold EpollItem.hears at hears ⊢
    rw [events']
    exact hears
  obtain ⟨marked, place, ready⟩ := notifyWaiter_ready (before.foldl (notifyWaiter o events) s)
    (w := ⟨e, k⟩) (by rw [earlier.fd]; exact alive) found' (object'.trans object) hears'
  obtain ⟨last, place', _, _, stays⟩ := (notifyWaiters_told o events after _).items e k marked place
  exact ⟨last, place', stays ready⟩

def FdNote.about : FdNote → Nat → Bool
  | .pipe file _, other => other = file
  | .search own _, other => own other

def FdNote.events : FdNote → BitVec 32
  | .pipe _ events => events
  | .search _ events => events

/-- Every item that watches an open file the notification is about, through whichever pool object,
and asked for its events is ready afterwards. -/
def Reaches (s : EpollState) (note : FdNote) : Prop :=
  ∀ (e : Fin epollMaxInstances) (k : Nat) (item : EpollItem) (file : Nat),
    s.fd.epollInUse e = true → (s.rows e)[k]? = some item →
    (s.fd.pool item.poolIdx).vfsFile = some file → note.about file = true →
    item.hears note.events = true →
    ∃ item' : EpollItem, ((s.notify note).rows e)[k]? = some item' ∧ item'.ready = true

/-- The pool object a pipe notifies is the only one through which its file is watched. -/
def FdNote.Direct (s : EpollState) : FdNote → Prop
  | .pipe file _ => ∀ e item, s.fd.epollInUse e = true → item ∈ s.rows e →
      (s.fd.pool item.poolIdx).vfsFile = some file → s.home file = some item.poolIdx
  | .search _ _ => True

theorem search_told (own : Nat → Bool) (events : BitVec 32) (slots : List (Fin fdPoolSize))
    (s : EpollState) : Told s (slots.foldl (fun s i =>
      if (s.fd.pool i).vfsFile.any own then s.fdNotifyWaiters i events else s) s) := by
  induction slots generalizing s with
  | nil => exact Told.refl s
  | cons i _ ih =>
    rw [List.foldl_cons]
    apply Told.trans _ (ih _)
    split
    · exact notifyWaiters_told i events (s.wq i) s
    · exact Told.refl s

variable {s : EpollState}

theorem Wired.reaches (wired : s.Wired) (direct : note.Direct s) : s.Reaches note := by
  intro e k item file alive found opened about hears
  have listed : (⟨e, k⟩ : FdWaiter) ∈ s.wq item.poolIdx := by
    apply List.count_pos_iff.mp
    rw [wired.linked.listed alive found]
    exact Nat.one_pos
  cases note with
  | pipe file' =>
    have same : file = file' := of_decide_eq_true about
    subst same
    have home := direct e item alive (List.mem_of_getElem? found) opened
    rw [notify, home]
    exact fdNotifyWaiters_ready s listed alive found rfl hears
  | search own events =>
    -- the round of the slot the item watches
    obtain ⟨before, after, slots⟩ := List.append_of_mem (List.mem_finRange item.poolIdx)
    rw [notify, slots, List.foldl_append, List.foldl_cons]
    have earlier := search_told own events before s
    obtain ⟨item', found', object', events', _⟩ := earlier.items e k item found
    have hears' : item'.hears events = true := by
      unfold EpollItem.hears at hears ⊢
      rw [events']
      exact hears
    generalize before.foldl _ s = middle at earlier found' ⊢
    have matched : (middle.fd.pool item.poolIdx).vfsFile.any own = true := by
      rw [earlier.fd, opened]
      exact about
    rw [if_pos matched]
    obtain ⟨marked, place, ready⟩ := fdNotifyWaiters_ready middle (by rw [earlier.wq]; exact listed)
      (by rw [earlier.fd]; exact alive) found' object' hears'
    obtain ⟨last, place', _, _, stays⟩ := (search_told own events after _).items e k marked place
    exact ⟨last, place', stays ready⟩

theorem WiredFor.notify (wired : s.WiredFor live) (note : FdNote) :
    (s.notify note).WiredFor live := by
  cases note with
  | pipe file events =>
    rw [EpollState.notify]
    cases s.home file with
    | none => exact wired
    | some i => exact wired.fdNotifyWaiters i events
  | search own events =>
    have loop : ∀ (slots : List (Fin fdPoolSize)) (t : EpollState), t.WiredFor live →
        (slots.foldl (fun s i =>
          if (s.fd.pool i).vfsFile.any own then s.fdNotifyWaiters i events else s)
            t).WiredFor live := by
      intro slots
      induction slots with
      | nil => exact fun _ wired => wired
      | cons i _ ih =>
        intro t wired
        apply ih
        dsimp only
        split
        · exact wired.fdNotifyWaiters i events
        · exact wired
    exact loop _ s wired

theorem notify_fd (s : EpollState) (note : FdNote) : (s.notify note).fd = s.fd := by
  cases note with
  | pipe file events =>
    rw [EpollState.notify]
    cases s.home file with
    | none => rfl
    | some i => exact (notifyWaiters_told i events (s.wq i) s).fd
  | search own events => exact (search_told own events _ s).fd

/-- Items and wait queues refer to each other, only instances in use are waiting anywhere, and the
ready items are counted. -/
structure Registered (s : EpollState) : Prop where
  watches : ∀ (e : Fin epollMaxInstances) (k : Nat) (item : EpollItem), s.fd.epollInUse e = true →
    (s.rows e)[k]? = some item →
    (s.wq item.poolIdx).count ⟨e, k⟩ = 1
  waits : ∀ o, ∀ w ∈ s.wq o, s.fd.epollInUse w.owner = true ∧
    ∃ item, (s.rows w.owner)[w.pos]? = some item ∧ item.poolIdx = o
  counted : ∀ e, (s.inst e).readyCount = ((s.inst e).items.countP EpollItem.ready : Int)

theorem Wired.registered (wired : s.Wired) : s.Registered :=
  ⟨fun _ _ _ => wired.linked.listed, fun _ _ => wired.linked.backed, wired.counted⟩

/-- The calls that keep the tables in order: a DEL through a descriptor that still denotes the
object the item was added for, and an `epoll_pwait` with room for all ready items. -/
def Orderly (s : EpollState) : EpollCall → Prop
  | .ctl pid epfd op fd _ _ => op = 2 → s.delHere pid epfd fd = true
  | .pwait pid epfd maxevents poll => s.pwaitFits pid epfd maxevents poll = true
  | _ => True

theorem Wired.next (wired : s.Wired) (call : EpollCall) (orderly : s.Orderly call) :
    (s.next call).Wired := by
  cases call with
  | openat => exact wired.steady (.opened (openatHandler_opened ..))
  | device => exact wired.steady (.opened (taskAllocDeviceFd_opened ..))
  | pipe2 pid slot read write =>
    have after := wired.steady (Steady.pipe2Handler s.fd pid slot read write)
    exact ⟨after.linked, after.idle, after.room, after.counted⟩
  | epollCreate pid cloexec => exact wired.epollCreate1 pid cloexec
  | dup => exact wired.steady (Steady.dupHandler ..)
  | dup3 pid oldfd newfd cloexec dupOk => exact wired.dup3 pid oldfd newfd cloexec dupOk
  | fcntlDup => exact wired.steady (Steady.fcntlDupfd ..)
  | fork => exact wired.steady (Steady.forkHandler ..)
  | close pid fd => exact wired.close pid fd
  | ctl pid epfd op fd event poll => exact wired.epollCtl pid epfd op fd event poll orderly
  | pwait pid epfd maxevents poll => exact wired.epollPwait pid epfd maxevents poll orderly
  | note note =>
    show (s.notify note).Wired
    rw [Wired, notify_fd]
    exact wired.notify note

theorem boot_wired : boot.Wired :=
  ⟨Linked.empty fun _ => rfl, fun _ _ => rfl, fun _ => Nat.zero_le _, fun _ => rfl⟩

end EpollState

/-- In every state reached by orderly calls a notification reaches every item that watches the file,
provided a pipe's file is watched through the noted object only. -/
theorem epoll_registered {calls : List EpollCall} {s : EpollState}
    (run : Run (Guarded (graph EpollState.next) EpollState.Orderly) .boot calls s) :
    s.Registered ∧ ∀ note : EpollState.FdNote, note.Direct s → s.Reaches note := by
  have wired : s.Wired :=
    run.guarded (fun _ call wired orderly => wired.next call orderly) EpollState.boot_wired
  exact ⟨wired.registered, fun note direct => wired.reaches direct⟩

instance (s : EpollState) (call : EpollCall) : Decidable (s.Orderly call) := by
  cases call <;> unfold EpollState.Orderly <;> infer_instance

def watchedPipe : List EpollCall :=
  [.pipe2 0 true true true, .epollCreate 0 false, .ctl 0 5 1 3 (some (1, 7)) (fun _ => 0),
   .ctl 0 5 1 4 (some (4, 8)) (fun _ => 4), .dup 0 3 true,
   .ctl 0 5 2 3 none (fun _ => 0), .close 0 4]

theorem epoll_registered_pipe : (watchedPipe.foldl EpollState.next .boot).Registered ∧
    ∀ note : EpollState.FdNote, note.Direct (watchedPipe.foldl EpollState.next .boot) →
      (watchedPipe.foldl EpollState.next .boot).Reaches note := by
  apply epoll_registered
  exact run_of_passes (fun _ _ => of_decide_eq_true) (by decide +kernel)

instance : NeZero epollMaxInstances := ⟨by decide⟩

def forkedEpoll : List EpollCall :=
  [.pipe2 0 true true true, .epollCreate 0 false, .ctl 0 5 1 3 (some (1, 7)) (fun _ => 0),
   .fork 0 1 true (fun _ => true), .ctl 1 5 2 3 none (fun _ => 0)]

def twoReady : List EpollCall :=
  [.pipe2 0 true true true, .epollCreate 0 false, .ctl 0 5 1 3 (some (1, 7)) (fun _ => 1),
   .ctl 0 5 1 4 (some (4, 8)) (fun _ => 4), .pwait 0 5 1 (fun _ => 5)]

def dupedPipe : List EpollCall :=
  [.pipe2 0 true true true, .epollCreate 0 false, .dup 0 3 true,
   .ctl 0 5 1 6 (some (1, 7)) (fun _ => 0)]

/-- The child's DEL looks in the queue of its own copy and leaves the waiter behind; the cut
`epoll_pwait` forgets a ready item; the pipe's notification does not reach the copy. -/
theorem epoll_registration_lost : ¬ (forkedEpoll.foldl EpollState.next .boot).Registered ∧
    ¬ (twoReady.foldl EpollState.next .boot).Registered ∧
    ¬ (dupedPipe.foldl EpollState.next .boot).Reaches (.pipe 0 1) := by
  refine ⟨fun registered => ?_, fun registered => ?_, fun reaches => ?_⟩
  · have left : (⟨0, 0⟩ : FdWaiter) ∈ (forkedEpoll.foldl EpollState.next .boot).wq 0 := by
      decide +kernel
    have empty : ((forkedEpoll.foldl EpollState.next .boot).rows 0).length = 0 := by decide +kernel
    generalize forkedEpoll.foldl EpollState.next .boot = s at registered left empty
    obtain ⟨_, item, found, _⟩ := registered.waits 0 ⟨0, 0⟩ left
    rw [List.eq_nil_of_length_eq_zero empty] at found
    cases found
  · have wrong : ((twoReady.foldl EpollState.next .boot).inst 0).readyCount ≠
        (((twoReady.foldl EpollState.next .boot).inst 0).items.countP EpollItem.ready : Int) := by
      decide +kernel
    exact wrong (registered.counted 0)
  · have found : ((dupedPipe.foldl EpollState.next .boot).rows 0)[0]? = some
      ⟨6, 3, 1, 7, false⟩ := by rfl
    obtain ⟨item, after, ready⟩ := reaches 0 0 ⟨6, 3, 1, 7, false⟩ 0 (by decide +kernel) found
      (by decide +kernel) rfl (by decide +kernel)
    have quiet : (((dupedPipe.foldl EpollState.next .boot).notify (.pipe 0 1)).rows 0).all
        (fun item => !item.ready) = true := by decide +kernel
    have wrong := List.all_eq_true.mp quiet item (List.mem_of_getElem? after)
    rw [ready] at wrong
    cases wrong

end AvatarKernel
