import AvatarKernel.Task.Reclaim

namespace AvatarKernel

open Function
open Transition

namespace SchedView

variable {n : Nat}

/-- Where a ready task is to be found: in a queue, on its CPU with a wake-up pending, in the hands
of its creator, or on a CPU that has found nothing to switch to. -/
def Found (v : SchedView n) (i : Slot) : Prop :=
  (∃ c, i ∈ v.queue c) ∨ (v.onCpu i = true ∧ v.wake i = true) ∨ (∃ j, i ∈ owned (v.code j)) ∨
    ∃ c, v.phase c = .resuming ∧ v.current c = some i

def NoneLost (v : SchedView n) : Prop :=
  ∀ i, v.used i = true → v.state i = .ready → v.Found i

variable {v v' : SchedView n}

section Step

variable (none : v.NoneLost)
  (queue : ∀ c i, i ∈ v.queue c → v'.state i = .ready → ∃ d, i ∈ v'.queue d)
  (awake : ∀ i, v.onCpu i = true → v.wake i = true →
    (v'.onCpu i = true ∧ v'.wake i = true) ∨ ∃ d, i ∈ v'.queue d)
  (resuming : ∀ c i, v.phase c = .resuming → v.current c = some i → v'.state i = .ready →
    v'.phase c = .resuming ∧ v'.current c = some i)

include none queue awake resuming

theorem NoneLost.step
    (ready : ∀ i, v'.used i = true → v'.state i = .ready →
      v.used i = true ∧ v.state i = .ready ∨ v'.Found i)
    (hands : ∀ i j, i ∈ owned (v.code j) → v'.used i = true → v'.Found i) : v'.NoneLost := by
  intro i used state
  rcases ready i used state with ⟨was, before⟩ | found
  · rcases none i was before with ⟨c, inside⟩ | ⟨seat, pending⟩ | ⟨j, mine⟩ | ⟨c, phase, here⟩
    · exact .inl (queue c i inside state)
    · rcases awake i seat pending with both | inside
      · exact .inr (.inl both)
      · exact .inl inside
    · exact hands i j mine used
    · exact .inr (.inr (.inr ⟨c, resuming c i phase here state⟩))
  · exact found

theorem NoneLost.move (code : v'.code = v.code) (used : v'.used = v.used)
    (ready : ∀ i, v'.state i = .ready → v.state i = .ready ∨ v'.Found i) : v'.NoneLost := by
  apply none.step queue awake resuming
  · intro i was state
    rw [used] at was
    exact (ready i state).imp_left fun before => ⟨was, before⟩
  · intro i j mine _
    exact .inr (.inr (.inl ⟨j, code ▸ mine⟩))

end Step

theorem mem_update_append {queue : Fin n → List Slot} (inside : i ∈ queue d) :
    i ∈ update queue c (queue c ++ [j]) d := by
  by_cases it : d = c
  · subst it
    simp [inside]
  · simp [it, inside]

/-- A move is on a CPU where no task is resuming. -/
theorem Moved.resuming (move : Moved c v v') (d : Fin n) (i : Slot)
    (resuming : v.phase d = .resuming) (here : v.current d = some i) (_ : v'.state i = .ready) :
    v'.phase d = .resuming ∧ v'.current d = some i := by
  have other : d ≠ c := by
    rintro rfl
    cases move with
    | stayIdle phase | stay _ phase | departQueued _ phase | departParked _ phase =>
      cases phase.symm.trans resuming
    | arrive _ _ empty =>
      rw [holder, resuming] at empty
      cases empty.symm.trans here
  cases move <;> exact ⟨(update_of_ne other ..).trans resuming, here⟩

theorem Moved.noneLost (move : Moved c v v') (none : v.NoneLost) : v'.NoneLost := by
  have resuming := move.resuming
  cases move with
  | stayIdle =>
    exact none.move (fun d i inside _ => ⟨d, inside⟩) (fun i seat pending => .inl ⟨seat, pending⟩)
      resuming rfl rfl fun i state => .inl state
  | stay j _ current =>
    refine none.move (fun d i inside _ => ⟨d, inside⟩)
      (fun i seat pending => .inl ⟨seat, pending⟩) resuming rfl rfl fun i state => ?_
    by_cases it : i = j
    · subst it
      exact .inr (.inr (.inr (.inr ⟨c, by simp, current⟩)))
    · exact .inl (by simpa [it] using state)
  | departQueued j =>
    have here : j ∈ update v.queue c (v.queue c ++ [j]) c := by simp
    refine none.move (fun d i inside _ => ⟨d, mem_update_append inside⟩) ?_ resuming rfl rfl ?_
    · intro i seat pending
      by_cases it : i = j
      · exact .inr ⟨c, it ▸ here⟩
      · exact .inl (by simpa [it] using ⟨seat, pending⟩)
    · intro i state
      by_cases it : i = j
      · exact .inr (.inl ⟨c, it ▸ here⟩)
      · exact .inl (by simpa [it] using state)
  | departParked j _ _ _ asleep =>
    refine none.move (fun d i inside _ => ⟨d, inside⟩) (fun i seat pending => ?_) resuming rfl rfl
      fun i state => .inl state
    have other : i ≠ j := by
      rintro rfl
      cases asleep.symm.trans pending
    exact .inl ⟨(update_of_ne other ..).trans seat, pending⟩
  | arrive j _ _ queue =>
    refine none.move ?_ ?_ resuming rfl rfl ?_
    · intro d i inside state
      have distinct : i ≠ j := by
        rintro rfl
        simp at state
      refine ⟨d, ?_⟩
      by_cases it : d = c
      · subst it
        simpa [queue, distinct] using inside
      · simpa [it] using inside
    · intro i seat pending
      by_cases it : i = j
      · exact .inl (by simpa [it] using pending)
      · exact .inl (by simpa [it] using ⟨seat, pending⟩)
    · intro i state
      by_cases it : i = j
      · simp [it] at state
      · exact .inl (by simpa [it] using state)

end SchedView

/-- The pieces of `task_exit` and `exit_group_handler` that mark a task dead and take it out of the
queues. -/
def Op.mortal {n : Nat} : Op n → Bool
  | .exitMark => true
  | .groupMark _ _ => true
  | .dequeueStart _ => true
  | .dequeue _ _ => true
  | _ => false

namespace Kernel

open SchedView

variable {n : Nat} [NeZero n]

/-- The steps of a kernel in which no task exits. -/
def Immortal (s : Kernel n) (action : Action n) : Prop :=
  ∀ c op, action = .run c → s.nextOp c = some op → op.mortal = false

section Exec

variable {s : Kernel n} {c : Fin n} {me : Slot} {op : Op n} {rest : List (Op n)}

theorem owned_after (code : s.code me = op :: rest) (s' : Kernel n) (ops : List (Op n))
    (ahead : s'.code = (s.setCode me rest).code) (mine : i ∈ owned (s.code j)) :
    op.owns = some i ∨ i ∈ owned ((s'.setCode me (ops ++ s'.code me)).code j) := by
  by_cases same : j = me
  · subst same
    rw [code] at mine
    obtain ⟨other, inside, it⟩ := List.mem_filterMap.mp mine
    rcases List.mem_cons.mp inside with rfl | later
    · exact .inl it
    · refine .inr (List.mem_filterMap.mpr ⟨other, ?_, it⟩)
      simp [setCode, ahead, later]
  · exact .inr (by simpa [setCode, ahead, same] using mine)

variable {result : Kernel n × List (Op n)}

section

variable (none : s.view.NoneLost)
include none

theorem noneLost_exec (code : s.code me = op :: rest)
    (ahead : result.1.code = (s.setCode me rest).code) (queue : result.1.queue = s.queue)
    (phase : result.1.phase = s.phase) (current : result.1.current = s.current)
    (awake : ∀ i, (s.tcb i).onCpu = true → (s.tcb i).wakePending = true →
      (result.1.tcb i).onCpu = true ∧ (result.1.tcb i).wakePending = true)
    (ready : ∀ i, result.1.used i = true → (result.1.tcb i).state = .ready →
      s.used i = true ∧ (s.tcb i).state = .ready ∨ i ∈ owned result.2)
    (keeps : ∀ i, op.owns = some i → result.1.used i = true → i ∈ owned result.2) :
    (result.1.setCode me (result.2 ++ result.1.code me)).view.NoneLost := by
  have mine : ∀ i, i ∈ owned result.2 →
      (result.1.setCode me (result.2 ++ result.1.code me)).view.Found i := by
    intro i inside
    refine .inr (.inr (.inl ⟨me, ?_⟩))
    simp [view, setCode, owned_append, inside]
  refine none.step ?_ ?_ ?_ ?_ ?_
  · exact fun d i inside _ => ⟨d, by simpa [view, setCode, queue] using inside⟩
  · exact fun i seat pending => .inl (awake i seat pending)
  · intro d i resuming here _
    exact ⟨by simpa [view, setCode, phase] using resuming,
      by simpa [view, setCode, current] using here⟩
  · exact fun i used state => (ready i used state).imp_right (mine i)
  · intro i j hand used
    rcases owned_after code _ _ ahead hand with it | later
    · exact mine i (keeps i it used)
    · exact .inr (.inr (.inl ⟨j, later⟩))

theorem modify_noneLost (code : s.code me = op :: rest) (i : Slot) (change : Tcb → Tcb)
    (tcb : result.1.tcb = (s.modify i change).tcb) (used : result.1.used = s.used)
    (ahead : result.1.code = (s.setCode me rest).code) (queue : result.1.queue = s.queue)
    (phase : result.1.phase = s.phase) (current : result.1.current = s.current)
    (awake : (s.tcb i).onCpu = true → (s.tcb i).wakePending = true →
      (change (s.tcb i)).onCpu = true ∧ (change (s.tcb i)).wakePending = true)
    (ready : (change (s.tcb i)).state = .ready → (s.tcb i).state = .ready ∨ i ∈ owned result.2)
    (keeps : ∀ i, op.owns = some i → i ∈ owned result.2) :
    (result.1.setCode me (result.2 ++ result.1.code me)).view.NoneLost := by
  refine noneLost_exec none code ahead queue phase current ?_ ?_ fun j it _ => keeps j it
  · intro j
    rw [tcb]
    by_cases it : j = i
    · subst it
      simpa [modify] using awake
    · simpa [modify, it] using And.intro
  · intro j was
    rw [used] at was
    rw [tcb]
    by_cases it : j = i
    · subst it
      simpa [modify, was] using ready
    · simp +contextual [modify, it, was]

theorem plain_noneLost (code : s.code me = op :: rest)
    (same : result.1.view = (s.setCode me rest).view) (nothing : op.owns = .none) :
    (result.1.setCode me (result.2 ++ result.1.code me)).view.NoneLost := by
  have state := fun i => congrFun (congrArg SchedView.state same) i
  have onCpu := fun i => congrFun (congrArg SchedView.onCpu same) i
  have wake := fun i => congrFun (congrArg SchedView.wake same) i
  refine noneLost_exec none code (congrArg SchedView.code same) (congrArg SchedView.queue same)
    (congrArg SchedView.phase same) (congrArg SchedView.current same) ?_ ?_ ?_
  · exact fun i seat pending => ⟨(onCpu i).trans seat, (wake i).trans pending⟩
  · intro i used ready
    exact .inl ⟨(congrFun (congrArg SchedView.used same) i).symm.trans used,
      (state i).symm.trans ready⟩
  · simp [nothing]

theorem schedUnblock_noneLost (i : Slot) :
    (s.schedUnblock i).view.NoneLost := by
  unfold schedUnblock
  split
  case isTrue => exact none
  case isFalse =>
    split
    case isTrue seat =>
      rw [view_modify _ _ _ (by rfl)]
      refine none.move (fun d j inside _ => ⟨d, inside⟩) ?_
        (fun _ _ phase here _ => ⟨phase, here⟩) rfl rfl ?_
      · intro j onCpu wake
        by_cases it : j = i
        · exact .inl (by simp [it, seat])
        · exact .inl (by simpa [it] using ⟨onCpu, wake⟩)
      · intro j ready
        by_cases it : j = i
        · exact .inr (.inr (.inl (by simp [it, seat])))
        · exact .inl (by simpa [it] using ready)
    case isFalse =>
      have here : i ∈ update s.view.queue (s.home i) (s.view.queue (s.home i) ++ [i])
          (s.home i) := by simp
      rw [view_insertLast, view_setState]
      refine none.move (fun d j inside _ => ⟨d, mem_update_append inside⟩)
        (fun _ onCpu wake => .inl ⟨onCpu, wake⟩) (fun _ _ phase seat _ => ⟨phase, seat⟩) rfl rfl ?_
      intro j ready
      by_cases it : j = i
      · exact .inr (.inl ⟨s.home i, it ▸ here⟩)
      · exact .inl (by simpa [it] using ready)

theorem setCode_noneLost (me : Slot) (owns : ∀ i, i ∈ owned (s.code me) → i ∈ owned ops) :
    (s.setCode me ops).view.NoneLost := by
  refine none.step (fun d i inside _ => ⟨d, inside⟩) (fun _ seat pending => .inl ⟨seat, pending⟩)
    (fun _ _ phase here _ => ⟨phase, here⟩) (fun _ used ready => .inl ⟨used, ready⟩) ?_
  intro i j mine _
  refine .inr (.inr (.inl ⟨j, ?_⟩))
  by_cases it : j = me
  · subst it
    simpa [view, setCode] using owns i mine
  · simpa [view, setCode, it] using mine

theorem initTcb_noneLost (code : s.code me = .initTcb i birth :: rest)
    (off : (s.tcb i).onCpu = false) (other : me ≠ i) (blank : s.code i = [])
    (done : (s.setCode me rest).exec c me (.initTcb i birth) = result) :
    (result.1.setCode me (result.2 ++ result.1.code me)).view.NoneLost := by
  have ahead : ((s.setCode me rest).filled me i birth).code = (s.setCode me rest).code := by
    have same : (s.setCode me rest).code i = [] := by simp [setCode, other.symm, blank]
    exact (congrArg (update (s.setCode me rest).code i) same.symm).trans
      (update_eq_self i _)
  have awake : ∀ j, (s.tcb j).onCpu = true → (s.tcb j).wakePending = true →
      (((s.setCode me rest).filled me i birth).tcb j).onCpu = true ∧
        (((s.setCode me rest).filled me i birth).tcb j).wakePending = true := by
    intro j
    by_cases it : j = i
    · simp [it, off]
    · simpa [filled, setCode, modify, it] using And.intro
  have ready : ∀ j, (((s.setCode me rest).filled me i birth).tcb j).state = .ready →
      j ≠ i ∧ (s.tcb j).state = .ready := by
    intro j
    by_cases it : j = i
    · simp [filled, setCode, modify, it, newTcb_state]
    · simp [filled, setCode, modify, it]
  rcases initTcb_cases (s.setCode me rest) c me i birth with
    after | after <;> rw [after] at done <;>
    subst done
  · refine noneLost_exec none code ahead rfl rfl rfl awake ?_ ?_
    · intro j used state
      obtain ⟨it, before⟩ := ready j state
      exact .inl ⟨by simpa [setUsed, filled, setCode, modify, it] using used, before⟩
    · intro j it
      cases it
      simp [setUsed]
  · exact noneLost_exec none code ahead rfl rfl rfl awake
      (fun j used state => .inl ⟨used, (ready j state).2⟩) (by simp [owned, Op.owns])

end

theorem exec_noneLost (inv : s.view.Inv) (none : s.view.NoneLost) (phase : s.phase c = .running)
    (current : s.current c = some me) (code : s.code me = op :: rest) (alive : op.mortal = false)
    (blank : ∀ i, op.fills = some i → s.code i = [])
    (done : (s.setCode me rest).exec c me op = result) :
    (result.1.setCode me (result.2 ++ result.1.code me)).view.NoneLost := by
  cases exec_cases done with
  | idle _ free idles => exact plain_noneLost none code idles.view free
  | schedule =>
    have after := (schedSection_moves inv phase).keep (P := NoneLost) inv none
      fun _ none move => move.noneLost none
    have same : (s.schedSection c).code me = .schedule :: rest :=
      (congrFun (schedSection_moves inv phase).frame.1.code me).trans code
    simp only [schedSection_setCode, setCode_self]
    apply setCode_noneLost after me
    intro i mine
    rw [same] at mine
    simpa [owned, Op.owns] using mine
  | wake i kind =>
    have popped : (s.setCode me rest).view.NoneLost := by
      apply setCode_noneLost none me
      rcases kind with rfl | rfl <;> simp [code, owned, Op.owns]
    rw [setCode_self]
    exact schedUnblock_noneLost popped i
  | sleep _ _ kind =>
    rcases kind with ⟨rfl, _⟩ | ⟨_, _, _, rfl⟩ <;>
      exact modify_noneLost none code me (fun t => { t with state := .blocked }) rfl rfl rfl rfl
        rfl rfl And.intro (by simp) (by simp [Op.owns])
  | take i it =>
    exact modify_noneLost none code i (fun t => { t with state := .allocating }) rfl rfl rfl rfl rfl
      rfl And.intro (by simp) fun j owns => by cases op <;> first | cases it | cases owns
  | claim i =>
    refine noneLost_exec none code rfl rfl rfl rfl ?_ ?_ (by simp [Op.owns])
    · intro j
      by_cases it : j = i <;> simpa [setUsed, setState, modify, setCode, it] using And.intro
    · intro j
      by_cases it : j = i <;> simp +contextual [setUsed, setState, modify, setCode, it]
  | clear i =>
    have off : (s.tcb i).onCpu = false := (aside_of_next inv code rfl).onCpu
    exact modify_noneLost none code i (fun _ => Tcb.zero) rfl rfl rfl rfl rfl rfl
      (by simp [off]) (fun _ => .inr (by simp [owned, Op.owns])) (by simp [owned, Op.owns])
  | abort i | init i birth =>
    have aside := aside_of_next inv code rfl
    exact initTcb_noneLost none code aside.onCpu
      (fun same => aside.current c (same ▸ current)) (blank i rfl) done
  | ready i =>
    exact modify_noneLost none code i (fun t => { t with state := .ready }) rfl rfl rfl rfl
      rfl rfl And.intro (fun _ => .inr (by simp [owned, Op.owns])) (by simp [owned, Op.owns])
  | place i _ cpu =>
    exact modify_noneLost none code i (fun t => { t with cpuAffinity := some cpu.val }) rfl rfl
      rfl rfl rfl rfl And.intro .inl (by simp [owned, Op.owns])
  | placed i _ running =>
    have ready : (s.tcb i).state = .ready :=
      inv.published i me (by simp [view, code, published, Op.publishes])
    simp [setCode, ready] at running
  | insert i cpu =>
    have here : i ∈ update s.queue cpu (s.queue cpu ++ [i]) cpu := by simp
    rw [setCode_self, view_insertLast]
    refine none.step (fun d j inside _ => ⟨d, mem_update_append inside⟩)
      (fun _ seat pending => .inl ⟨seat, pending⟩) (fun _ _ phase seat _ => ⟨phase, seat⟩)
      (fun _ used ready => .inl ⟨used, ready⟩) ?_
    intro j k mine _
    rcases owned_after code (s.setCode me rest) [] rfl mine with it | later
    · cases it
      exact .inl ⟨cpu, here⟩
    · rw [setCode_self] at later
      exact .inr (.inr (.inl ⟨k, later⟩))
  | destroy i pgd =>
    exact modify_noneLost none code i (fun t => { t with pgd := pgd }) rfl rfl rfl rfl
      rfl rfl And.intro .inl (by simp [owned, Op.owns])
  | free i =>
    refine noneLost_exec none code rfl rfl rfl rfl (fun _ => And.intro) ?_ ?_
    · intro j
      by_cases it : j = i
      · simp [setUsed, it]
      · intro used ready
        exact .inl ⟨by simpa [setUsed, setCode, it] using used, ready⟩
    · intro j it
      cases it
      simp [setUsed]
  | die | mark | dequeue => simp [Op.mortal] at alive

end Exec

variable {s : Kernel n}

theorem runCpu_noneLost (inv : s.view.Inv) (none : s.view.NoneLost) (alive : s.Immortal (.run c))
    (blank : ∀ i j, i ∈ filling (s.code j) → s.code i = []) : (s.runCpu c).view.NoneLost := by
  cases runCpu_cases s c with
  | resume _ after =>
    rw [after]
    unfold markRunning
    cases current : s.current c with
    | none =>
      refine none.move (fun d i inside _ => ⟨d, inside⟩)
        (fun _ seat pending => .inl ⟨seat, pending⟩) ?_ rfl rfl (fun _ ready => .inl ready)
      intro d i resuming here _
      have other : d ≠ c := by
        rintro rfl
        simp [view, current] at here
      exact ⟨by simpa [view, setPhase, other] using resuming, here⟩
    | some j =>
      rw [view_setPhase, view_setState]
      refine none.move (fun d i inside _ => ⟨d, inside⟩)
        (fun _ seat pending => .inl ⟨seat, pending⟩) ?_ rfl rfl ?_
      · intro d i resuming here state
        have other : d ≠ c := by
          rintro rfl
          have it : i = j := Option.some.inj (here.symm.trans current)
          simp [it] at state
        exact ⟨by simpa [other] using resuming, here⟩
      · intro i state
        by_cases it : i = j
        · simp [it] at state
        · exact .inl (by simpa [it] using state)
  | switch _ phase after =>
    rw [after]
    refine none.move (fun d i inside _ => ⟨d, inside⟩)
      (fun _ seat pending => .inl ⟨seat, pending⟩) ?_ rfl rfl (fun _ ready => .inl ready)
    intro d i resuming here _
    have other : d ≠ c := by
      rintro rfl
      simp [view, phase] at resuming
    exact ⟨by simpa [view, publish, setPhase, setCurrent, other] using resuming,
      by simpa [view, publish, setPhase, setCurrent, other] using here⟩
  | idle phase _ after =>
    rw [after]
    exact (schedSection_moves inv phase).keep (P := NoneLost) inv none fun _ none move =>
      move.noneLost none
  | rest _ _ _ _ after =>
    rw [after]
    exact none
  | exec me op _ phase current code next after =>
    rw [after]
    exact exec_noneLost inv none phase current code (alive c op rfl next)
      (fun i it => blank i me (mem_filterMap_next Op.fills code it)) rfl

variable {action : Action n}

theorem step_noneLost (inv : s.view.Inv) (none : s.view.NoneLost) (alive : s.Immortal action)
    (blank : ∀ i j, i ∈ filling (s.code j) → s.code i = []) : (s.step action).view.NoneLost := by
  cases action with
  | run => exact runCpu_noneLost inv none alive blank
  | call c request =>
    rcases step_call s c request with same | ⟨me, _, _, code, after⟩
    · rwa [same]
    · rw [after]
      apply setCode_noneLost none me
      simp [code, owned]
  | preempt c =>
    rcases step_preempt s c with same | ⟨me, _, _, after⟩
    · rwa [same]
    · rw [after]
      apply setCode_noneLost none me
      simp [owned, Op.owns]
  | wake i => exact schedUnblock_noneLost none i

structure Peaceful (s : Kernel n) : Prop where
  inv : s.view.Inv
  books : s.Books
  alive : ∀ i, s.used i = true → (s.tcb i).state ≠ .dead
  untaken : s.taken = []
  blank : ∀ i, (s.used i = false ∨ ∃ j, i ∈ filling (s.code j)) → s.code i = []
  noneLost : s.view.NoneLost

theorem Peaceful.careful (calm : s.Peaceful) (alive : s.Immortal action) : s.Careful action := by
  constructor
  · intro c op i run next it
    obtain ⟨used, dead⟩ := takes_spec calm.inv next it
    exact absurd dead (calm.alive i used)
  · intro c i status run next
    have mortal := alive c _ run next
    simp [Op.mortal] at mortal

theorem Peaceful.step (calm : s.Peaceful) (alive : s.Immortal action) :
    (s.step action).Peaceful := by
  have careful := calm.careful alive
  have change := step_slots calm.inv careful.2
  have inv := calm.inv
  have still : ∀ i, (s.used i = false ∨ ∃ j, i ∈ filling (s.code j)) →
      (s.step action).code i = [] := by
    intro i early
    have away : ∀ c, s.current c ≠ some i := by
      rcases early with unused | ⟨j, mine⟩
      · exact (inv.unused i unused).2.2
      · exact (inv.claim i j (mem_owned_of_filling mine)).current
    have kept := step_code s action away
    rw [calm.blank i early] at kept
    exact List.sublist_nil.mp kept
  have nobody : ∀ i j, i ∉ freeing (s.code j) := by
    intro i j inside
    have taken := (calm.books.pending i j inside).1
    simp [calm.untaken] at taken
  have spared : ∀ i, s.victim action ≠ some i := by
    intro i it
    cases action with
    | run c =>
      simp only [victim] at it
      split at it
      case h_1 next => exact absurd (alive c _ rfl next) (by simp [Op.mortal])
      case h_2 next => exact absurd (alive c _ rfl next) (by simp [Op.mortal])
      case h_3 => cases it
    | _ => cases it
  have rest : (∀ i, (s.step action).used i = true → ((s.step action).tcb i).state ≠ .dead) ∧
      (s.step action).taken = [] ∧
      ∀ i, ((s.step action).used i = false ∨ ∃ j, i ∈ filling ((s.step action).code j)) →
        (s.step action).code i = [] := by
    obtain ⟨_, _, alive, untaken, _, _⟩ := calm
    cases change with
    | quiet quiet state =>
      obtain ⟨slots, fills, _⟩ := quiet
      simp only [Kernel.slots, Prod.mk.injEq] at slots
      have living : ∀ i, ((s.step action).tcb i).state = .dead → (s.tcb i).state = .dead := by
        intro i dead
        rcases state i with same | ⟨_, lives⟩
        · rw [← same, dead]
        · simp [dead, TaskState.live] at lives
      grind
    | die i it => exact absurd it (spared i)
    | fill _ quiet =>
      obtain ⟨slots, fills, _⟩ := quiet
      simp only [Kernel.slots, Prod.mk.injEq] at slots
      grind
    | take i used dead => exact absurd dead (alive i used)
    | claim i _ slots _ _ fills | abort i _ slots _ _ fills =>
      simp only [Kernel.slots, Prod.mk.injEq] at slots
      obtain ⟨used, _, taken, _⟩ := slots
      have same : ∀ j, j ≠ i → (s.step action).used j = s.used j := by
        intro j other
        simp [used, other]
      grind
    | free i mine =>
      obtain ⟨j, mine⟩ := mine
      exact absurd mine (nobody i j)
  exact ⟨step_inv inv careful, calm.books.step inv change, rest.1, rest.2.1, rest.2.2,
    step_noneLost inv calm.noneLost alive fun i j mine => calm.blank i (.inr ⟨j, mine⟩)⟩

theorem boot_peaceful : (boot n).Peaceful := by
  refine ⟨boot_inv, boot_books, ?_, rfl, fun _ _ => rfl, ?_⟩
  · intro i used
    have it : i = 0 := by simpa [boot] using used
    simp [boot, it, Tcb.zero]
  · intro i used _
    have it : i = 0 := by simpa [view, boot] using used
    exact .inl ⟨0, by simp [view, boot, it]⟩

theorem peaceful_of_immortal (run : Reaches Immortal actions s) : s.Peaceful := by
  induction run with
  | nil => exact boot_peaceful
  | snoc _ taken calm =>
    obtain ⟨alive, rfl⟩ := taken
    exact calm.step alive

/-- A task is current and queued only while its CPU is between the release of `rq_lock` and the
publication of the next task. A ready task is in a queue, on its CPU with a wake-up pending, in the
hands of its creator, or current on a CPU that found nothing else and has not yet set it to
`TASK_RUNNING`. -/
structure Schedules (s : Kernel n) : Prop where
  once : ∀ c, (s.queue c).Nodup
  oneQueue : ∀ c d i, i ∈ s.queue c → i ∈ s.queue d → c = d
  oneCpu : ∀ c d i, s.current c = some i → s.current d = some i → c = d
  currentQueued : ∀ c d i, s.current c = some i → i ∈ s.queue d →
    d = c ∧ ∃ next, s.phase c = .switching next
  ready : ∀ i, s.used i = true → (s.tcb i).state = .ready →
    (∃ c, i ∈ s.queue c) ∨ ((s.tcb i).onCpu = true ∧ (s.tcb i).wakePending = true) ∨
      (∃ creator, i ∈ owned (s.code creator)) ∨ ∃ c, s.phase c = .resuming ∧ s.current c = some i

/-- The scheduler's invariant holds in every state of every run in which no task exits. -/
theorem schedules_of_immortal {actions : List (Action n)} {s : Kernel n}
    (run : Reaches Immortal actions s) : s.Schedules := by
  have calm := peaceful_of_immortal run
  have inv := calm.inv
  constructor
  · exact inv.nodup
  · exact fun c d i here there => (inv.queued c i here).1.symm.trans (inv.queued d i there).1
  · exact fun c d i here there => (inv.currentHome c i here).symm.trans (inv.currentHome d i there)
  · intro c d i here there
    obtain ⟨home, _, off, _⟩ := inv.queued d i there
    refine ⟨home.symm.trans (inv.currentHome c i here), ?_⟩
    by_contra still
    have seat := inv.seated c i (fun next phase => still ⟨next, phase⟩) here
    simp [off] at seat
  · exact calm.noneLost

def immortally (s : Kernel n) : Action n → Bool
  | .run c =>
    match s.nextOp c with
    | some op => !op.mortal
    | none => true
  | _ => true

omit [NeZero n] in
theorem immortal_of_immortally (ok : s.immortally action = true) : s.Immortal action := by
  rintro c op rfl next
  simpa [immortally, next] using ok

theorem schedules_after_fork : ((startChild ++ [Action.wake 0]).foldl step (boot 2)).Schedules :=
  schedules_of_immortal (run_of_passes (fun _ _ => immortal_of_immortally) (by decide +kernel))

def preemptAlone : List (Action 1) := runs 2 0 ++ [.preempt 0] ++ runs 1 0

def createTask : List (Action 1) := runs 2 0 ++ [.call 0 (.create (.kernelTask none))]

/-- In the middle of `sched_schedule` a ready task can be in no queue without a pending wake-up, and
a current task can be in the queue; and a new task is ready before its creator inserts it. -/
theorem schedule_windows :
    (∃ actions : List (Action 1), ∃ s, Reaches Immortal actions s ∧ s.used 0 = true ∧
      (s.tcb 0).state = .ready ∧ (∀ c, 0 ∉ s.queue c) ∧ (s.tcb 0).wakePending = false) ∧
    (∃ actions : List (Action 1), ∃ s, Reaches Immortal actions s ∧ s.current 0 = some 0 ∧
      0 ∈ s.queue 0) ∧
    ∃ actions : List (Action 1), ∃ s, Reaches Immortal actions s ∧ s.used 1 = true ∧
      (s.tcb 1).state = .ready ∧ (∀ c, 1 ∉ s.queue c) ∧ (s.tcb 1).onCpu = false ∧
        (∀ c, s.current c ≠ some 1) :=
  ⟨⟨preemptAlone, _, run_of_passes (fun _ _ => immortal_of_immortally) (by decide +kernel),
      by decide +kernel, by decide +kernel, by decide +kernel, by decide +kernel⟩,
    ⟨createTask ++ runs 7 0 ++ [.preempt 0] ++ runs 1 0, _,
      run_of_passes (fun _ _ => immortal_of_immortally) (by decide +kernel), by decide +kernel,
      by decide +kernel⟩,
    createTask ++ runs 5 0, _, run_of_passes (fun _ _ => immortal_of_immortally)
      (by decide +kernel),
      by decide +kernel, by decide +kernel, by decide +kernel, by decide +kernel, by decide +kernel⟩

end Kernel

end AvatarKernel
