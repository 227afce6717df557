import AvatarKernel.Task.Frames

namespace AvatarKernel

open Function
open Transition

section Code

variable {n : Nat}

def Op.wakes : Op n → Option Slot
  | .wakeWaiter i => some i
  | _ => none

def wakers (code : List (Op n)) : List Slot := code.filterMap Op.wakes

def WakesFirst : List (Op n) → Prop
  | [] => True
  | op :: rest =>
    if op.isSchedule = true ∨ op.wakes.isSome = true then WakesFirst rest else wakers rest = []

theorem wakers_append (code more : List (Op n)) :
    wakers (code ++ more) = wakers code ++ wakers more :=
  List.filterMap_append ..

theorem mem_wakers {code : List (Op n)} : i ∈ wakers code ↔ .wakeWaiter i ∈ code := by
  constructor
  · intro inside
    obtain ⟨op, mem, it⟩ := List.mem_filterMap.mp inside
    cases op <;> first | exact Option.some.inj it ▸ mem | cases it
  · intro inside
    exact List.mem_filterMap.mpr ⟨_, inside, rfl⟩

theorem wakesFirst_of_nil {code : List (Op n)} (none : wakers code = []) : WakesFirst code := by
  induction code with
  | nil => trivial
  | cons op rest ih =>
    have both : wakers [op] ++ wakers rest = [] := by
      rw [← wakers_append]
      exact none
    have later := (List.append_eq_nil_iff.mp both).2
    unfold WakesFirst
    split
    case isTrue => exact ih later
    case isFalse => exact later

theorem wakesFirst_append {ops rest : List (Op n)} (wake : ∀ op ∈ ops, op.wakes.isSome = true)
    (first : WakesFirst rest) : WakesFirst (ops ++ rest) := by
  induction ops with
  | nil => exact first
  | cons op _ ih =>
    have here : op.wakes.isSome = true := wake op List.mem_cons_self
    simp only [List.cons_append, WakesFirst, here, or_true, if_true]
    exact ih fun other inside => wake other (List.mem_cons_of_mem op inside)

theorem wakers_of_other (first : WakesFirst (op :: rest)) (schedules : op.isSchedule = false)
    (wakes : op.wakes = none) : wakers rest = [] := by
  simpa [WakesFirst, schedules, wakes] using first

end Code

namespace Kernel

variable {n : Nat} [NeZero n]

def collected (s : Kernel n) (uaddr : Nat) (count : Int) : List Slot :=
  (s.futexWaiters uaddr count).filterMap fun k => (s.futex k).waiter

section Step

variable {s : Kernel n} {action : Action n}

theorem wakers_futexWake (s : Kernel n) (c : Fin n) (me : Slot) (uaddr : Nat) (count : Int) :
    wakers (s.exec c me (.futexWake uaddr count)).2 = s.collected uaddr count := by
  simp only [wakers, exec, collected, List.filterMap_filterMap]
  congr 1
  funext k
  cases (s.futex k).waiter <;> rfl

variable {me : Slot}

theorem wakers_exec (other : ∀ uaddr count, op ≠ .futexWake uaddr count) :
    wakers (s.exec c me op).2 = [] := by
  cases op with
  | futexWake uaddr count => exact absurd rfl (other uaddr count)
  | initTcb i birth =>
    rcases initTcb_cases s c me i birth with after | after <;> rw [after] <;> rfl
  | setReady i birth => cases birth <;> rfl
  | dequeue i cpus =>
    cases cpus with
    | nil => rfl
    | cons =>
      simp only [exec]
      split <;> rfl
  | scan kind slots =>
    cases slots with
    | nil => cases kind <;> simp only [exec, scanDone] <;> (try split) <;> rfl
    | cons =>
      simp only [exec]
      split
      case isTrue => cases kind <;> rfl
      case isFalse => rfl
  | orphanScan birth | claimSlot birth | place i birth | reap i | destroyPgd i | exitStart status
  | futexRead uaddr val | waitReport i args =>
    simp only [exec]
    split <;> rfl
  | futexQueue uaddr val curVal =>
    simp only [exec]
    split
    case isTrue => rfl
    case isFalse => split <;> rfl
  | _ => rfl

inductive Wakes (s : Kernel n) (action : Action n) (j : Slot) : Prop where
  | none (nothing : wakers ((s.step action).code j) = [])
  | same (same : wakers ((s.step action).code j) = wakers (s.code j))
      (idle : ∀ op, s.Executes action j op → op = .schedule)
  | woke (i : Slot) (runs : s.Executes action j (.wakeWaiter i))
      (before : wakers (s.code j) = i :: wakers ((s.step action).code j))
  | collect (uaddr : Nat) (count : Int) (runs : s.Executes action j (.futexWake uaddr count))
      (after : wakers ((s.step action).code j) = s.collected uaddr count)

theorem exec_ahead (inv : s.view.Inv) (current : s.current c = some me)
    (code : s.code me = op :: rest) : ((s.setCode me rest).exec c me op).1.code me = rest := by
  rw [exec_code_same (s.setCode me rest) c me, code_setCode]
  rintro birth rfl
  exact (inv.claim me me (mem_filterMap_next Op.owns code rfl)).current c current

theorem step_wakes (action : Action n) (inv : s.view.Inv) {j : Slot}
    (first : WakesFirst (s.code j)) :
    Wakes s action j ∧ WakesFirst ((s.step action).code j) := by
  have rests : ∀ {code : List (Op n)}, (s.step action).code j = code → wakers code = [] →
      Wakes s action j ∧ WakesFirst ((s.step action).code j) := by
    intro code same nothing
    rw [← same] at nothing
    exact ⟨.none nothing, wakesFirst_of_nil nothing⟩
  have stays : (s.step action).code j = s.code j → (∀ op, s.Executes action j op → op = .schedule) →
      Wakes s action j ∧ WakesFirst ((s.step action).code j) := by
    intro same idle
    exact ⟨.same (by rw [same]) idle, by rwa [same]⟩
  cases step_cases s action with
  | scheduler idle same =>
    exact stays (congrFun (code_of_unscheduled same) j) fun op runs => absurd runs (idle j op)
  | call idle me request _ after =>
    by_cases it : j = me
    · subst it
      exact rests (after ▸ code_setCode s j _) (by cases request <;> rfl)
    · exact stays (after ▸ code_setCode_of_ne it) fun op runs => absurd runs (idle j op)
  | preempt idle me after =>
    by_cases it : j = me
    · subst it
      have code : (s.step action).code j = .schedule :: s.code j := after ▸ code_setCode s j _
      refine ⟨.same (by rw [code]; rfl) fun op runs => absurd runs (idle j op), ?_⟩
      rw [code]
      simpa [WakesFirst, Op.isSchedule] using first
    · exact stays (after ▸ code_setCode_of_ne it) fun op runs => absurd runs (idle j op)
  | exec c me op rest run _ current code ahead only after =>
    have runs : s.Executes action me op := ⟨c, run, current, ahead⟩
    by_cases it : j = me
    · subst it
      have next : (s.step action).code j = ((s.setCode j rest).exec c j op).2 ++ rest := by
        rw [after, code_setCode, exec_ahead inv current code]
      rw [code] at first
      by_cases schedules : op.isSchedule = true
      · have it : op = .schedule := by cases op <;> first | rfl | cases schedules
        subst it
        have here : (s.step action).code j = rest := next
        refine ⟨.same (by rw [here, code]; rfl) fun op' too => (only j op' too).2, ?_⟩
        rw [here]
        simpa [WakesFirst, Op.isSchedule] using first
      by_cases wakes : ∃ i, op = .wakeWaiter i
      · obtain ⟨i, rfl⟩ := wakes
        have here : (s.step action).code j = rest := next
        refine ⟨.woke i runs (by rw [here, code]; rfl), ?_⟩
        rw [here]
        simpa [WakesFirst, Op.wakes] using first
      have nothing : wakers rest = [] := by
        apply wakers_of_other first (Bool.eq_false_iff.mpr schedules)
        cases op <;> first | rfl | exact absurd ⟨_, rfl⟩ wakes
      by_cases collects : ∃ uaddr count, op = .futexWake uaddr count
      · obtain ⟨uaddr, count, rfl⟩ := collects
        have found : wakers ((s.step action).code j) = s.collected uaddr count := by
          rw [next, wakers_append, nothing, List.append_nil, wakers_futexWake]
          rfl
        refine ⟨.collect uaddr count runs found, ?_⟩
        rw [next]
        apply wakesFirst_append _ (wakesFirst_of_nil nothing)
        intro op' inside
        obtain ⟨i, rfl⟩ := futexWake_only inside
        rfl
      · apply rests next
        rw [wakers_append, nothing, List.append_nil]
        exact wakers_exec fun uaddr count same => collects ⟨uaddr, count, same⟩
    · have idle : ∀ op', s.Executes action j op' → op' = .schedule :=
        fun op' too => absurd (only j op' too).1 it
      by_cases clears : ∃ birth, op = .initTcb j birth
      · obtain ⟨birth, rfl⟩ := clears
        have cleared : (s.step action).code j = [] := by
          rw [after, code_setCode_of_ne it]
          rcases initTcb_cases (s.setCode me rest) c me j birth with done | done <;> rw [done] <;>
            simp [filled, setUsed, setCode]
        exact rests cleared rfl
      · apply stays _ idle
        rw [after, code_setCode_of_ne it, exec_code_same (s.setCode me rest) c me fun birth same =>
          clears ⟨birth, same⟩, code_setCode_of_ne it]

/-- What a step does to `g_futex_table`. -/
inductive TableStep (s : Kernel n) (action : Action n) : Prop where
  | same (table : (s.step action).futex = s.futex)
  | queue (me : Slot) (uaddr : Nat) (k : Fin futexTableSize)
      (runs : ∃ val curVal, s.Executes action me (.futexQueue uaddr val curVal))
      (table : (s.step action).futex = update s.futex k ⟨uaddr, some me⟩)
      (blocked : ((s.step action).tcb me).state = .blocked)
      (returns : .futexReturn uaddr ∈ (s.step action).code me)
  | wake (me : Slot) (uaddr : Nat) (count : Int)
    (runs : s.Executes action me (.futexWake uaddr count))
      (table : (s.step action).futex = (s.clearFutex (s.futexWaiters uaddr count)).futex)

theorem exec_futex (queues : ∀ uaddr val curVal, op ≠ .futexQueue uaddr val curVal)
    (wakes : ∀ uaddr count, op ≠ .futexWake uaddr count) : (s.exec c me op).1.futex = s.futex := by
  generalize done : s.exec c me op = result
  cases exec_cases done with
  | idle _ _ idles => exact idles.futex wakes
  | schedule => exact (congrArg Kernel.futex (unscheduled_schedSection s c) :)
  | wake i => exact (congrArg Kernel.futex (unscheduled_schedUnblock s i) :)
  | sleep _ _ kind =>
    rcases kind with ⟨_, same⟩ | ⟨uaddr, val, curVal, rfl⟩
    · exact same
    · exact absurd rfl (queues uaddr val curVal)
  | _ => rfl

theorem step_table (s : Kernel n) (action : Action n) : TableStep s action := by
  cases step_cases s action with
  | scheduler _ same => exact .same (congrArg Kernel.futex same :)
  | call _ me request code after | preempt _ me after =>
    apply TableStep.same
    rw [after]
    rfl
  | exec c me op rest run _ current _ ahead only after =>
    have runs : s.Executes action me op := ⟨c, run, current, ahead⟩
    by_cases queues : ∃ uaddr val curVal, op = .futexQueue uaddr val curVal
    · obtain ⟨uaddr, val, curVal, rfl⟩ := queues
      by_cases asks : curVal ≠ val
      · apply TableStep.same
        rw [after]
        simp [exec, asks, setCode]
      cases found : s.freeFutex? with
      | none =>
        have done : (s.setCode me rest).exec c me (.futexQueue uaddr val curVal) =
            (s.setCode me rest, []) := by
          simp only [exec, asks, if_false, show (s.setCode me rest).freeFutex? = none from found]
        rw [done] at after
        apply TableStep.same
        rw [after]
        rfl
      | some k =>
        have done : (s.setCode me rest).exec c me (.futexQueue uaddr val curVal) =
            ({ (s.setCode me rest).setState me .blocked with
                futex := update s.futex k ⟨uaddr, some me⟩ },
              [.schedule, .futexReturn uaddr]) := by
          simp only [exec, asks, if_false, show (s.setCode me rest).freeFutex? = some k from found]
          rfl
        rw [done] at after
        refine .queue me uaddr k ⟨val, curVal, runs⟩ (by rw [after]; rfl) ?_ ?_
        · rw [after]
          simp [setCode, setState, modify]
        · rw [after, code_setCode]
          simp
    by_cases wakes : ∃ uaddr count, op = .futexWake uaddr count
    · obtain ⟨uaddr, count, rfl⟩ := wakes
      refine .wake me uaddr count runs ?_
      rw [after]
      rfl
    · apply TableStep.same
      rw [after]
      exact exec_futex (fun uaddr val curVal same => queues ⟨uaddr, val, curVal, same⟩)
        fun uaddr count same => wakes ⟨uaddr, count, same⟩

theorem futexWake_after (runs : s.Executes action me (.futexWake uaddr count)) :
    (s.step action).futex = (s.clearFutex (s.futexWaiters uaddr count)).futex := by
  cases step_cases s action with
  | scheduler idle | call idle | preempt idle => exact absurd runs (idle me _)
  | exec _ _ _ _ _ _ _ _ _ only after =>
    obtain ⟨rfl, rfl⟩ := only me _ runs
    rw [after]
    rfl

end Step

structure AsleepOn (s : Kernel n) (i : Slot) (uaddr : Nat) : Prop where
  used : s.used i = true
  blocked : (s.tcb i).state = .blocked
  returns : .futexReturn uaddr ∈ s.code i

structure Awake (s : Kernel n) (j : Slot) : Prop where
  used : s.used j = true
  state : (s.tcb j).state = .ready ∨ (s.tcb j).state = .running
  nobody : ∀ k, j ∉ owned (s.code k)

/-- The entries of `g_futex_table` and the waiters that tasks have collected: each waiter is blocked
in `sys_futex_wait` and is known at one place only. -/
structure FutexBooks (s : Kernel n) : Prop where
  entry : ∀ k uaddr i, s.futex k = ⟨uaddr, some i⟩ → s.AsleepOn i uaddr
  once : ∀ k l i, (s.futex k).waiter = some i → (s.futex l).waiter = some i → k = l
  first : ∀ j, WakesFirst (s.code j)
  waking : ∀ i j, i ∈ wakers (s.code j) →
    (∃ uaddr, s.AsleepOn i uaddr) ∧ (s.tcb i).pgd = (s.tcb j).pgd ∧ ∀ k, (s.futex k).waiter ≠ some i
  waker : ∀ i j, i ∈ wakers (s.code j) → s.Awake j
  distinct : ∀ j, (wakers (s.code j)).Nodup
  apart : ∀ i j k, i ∈ wakers (s.code j) → i ∈ wakers (s.code k) → j = k

/-- A futex wake finds at its address only waiters with the page table of the caller, and nobody but
`futex_do_wake` wakes up or kills a task that is blocked in `sys_futex_wait`. -/
structure Considerate (s : Kernel n) (action : Action n) : Prop where
  careful : s.Careful action
  sameSpace : ∀ me uaddr count, s.Executes action me (.futexWake uaddr count) →
    ∀ k i, s.futex k = ⟨uaddr, some i⟩ → (s.tcb i).pgd = (s.tcb me).pgd
  unwoken : ∀ i uaddr, action = .wake i ∨ (∃ me, s.Executes action me (.unblock i)) →
    ¬ s.AsleepOn i uaddr
  unkilled : ∀ me i status uaddr, s.Executes action me (.groupMark i status) → ¬ s.AsleepOn i uaddr

section Books

variable {s : Kernel n} {action : Action n} {i j : Slot} {uaddr : Nat}

theorem AsleepOn.nobody (asleep : s.AsleepOn i uaddr) (inv : s.view.Inv)
    (runs : s.Executes action me op) : op.owns ≠ some i := by
  intro it
  have aside := inv.claim i me (List.mem_filterMap.mpr ⟨op, mem_code_of_executes runs, it⟩)
  rcases aside.state with state | state <;> simp [view, asleep.blocked] at state

theorem AsleepOn.step (asleep : s.AsleepOn i uaddr) (inv : s.view.Inv)
    (considerate : s.Considerate action) (unwoken : ∀ me, ¬ s.Executes action me (.wakeWaiter i)) :
    (s.step action).AsleepOn i uaddr ∧ ((s.step action).tcb i).pgd = (s.tcb i).pgd := by
  have away : ∀ me op, s.Executes action me op → op.owns ≠ some i := fun me op runs =>
    asleep.nobody inv runs
  refine ⟨⟨?_, ?_, ?_⟩, congrArg Identity.pgd (step_identity s action away)⟩
  · cases step_slotFrame inv action away with
    | lives used | dies _ used | taken used => rw [used, asleep.used]
    | claimed free => simp [asleep.used] at free
  · rcases step_sleeps inv action asleep.blocked with still | woken | ⟨me, op, runs, kind⟩
    · exact still
    · exact absurd asleep (considerate.unwoken i uaddr (.inl woken))
    · rcases kind with rfl | rfl | ⟨status, rfl⟩
      · exact absurd asleep (considerate.unwoken i uaddr (.inr ⟨me, runs⟩))
      · exact absurd runs (unwoken me)
      · exact absurd asleep (considerate.unkilled me i status uaddr runs)
  · rcases step_keeps action asleep.returns with ahead | runs | ⟨me, birth, runs⟩
    · exact ahead
    · -- a blocked task executes nothing but the call of `sched_schedule`
      have running := running_of_executes inv runs rfl rfl
      simp [asleep.blocked] at running
    · exact absurd rfl (asleep.nobody inv runs)

theorem Awake.step (awake : s.Awake j) (inv : s.view.Inv) (careful : s.Careful action)
    (busy : ∀ op, s.Executes action j op → op ≠ .block ∧ op ≠ .exitMark ∧
      ∀ uaddr val curVal, op ≠ .futexQueue uaddr val curVal) :
    (s.step action).Awake j ∧ ((s.step action).tcb j).pgd = (s.tcb j).pgd := by
  have away : ∀ me op, s.Executes action me op → op.owns ≠ some j := by
    intro me op runs it
    exact awake.nobody me (List.mem_filterMap.mpr ⟨op, mem_code_of_executes runs, it⟩)
  have up : ((s.step action).tcb j).state ≠ .blocked := by
    intro blocked
    rcases step_blocks action blocked with was | ⟨op, runs, rfl | ⟨uaddr, val, curVal, rfl⟩⟩
    · rcases awake.state with state | state <;> simp [was] at state
    · exact (busy _ runs).1 rfl
    · exact (busy _ runs).2.2 _ _ _ rfl
  have undead : (s.tcb j).state ≠ .dead := by
    intro dead
    rcases awake.state with state | state <;> simp [dead] at state
  have frame : (s.step action).used j = s.used j ∧
      TaskState.Glides (s.tcb j).state ((s.step action).tcb j).state := by
    cases step_slotFrame inv action away with
    | lives used state => exact ⟨used, state⟩
    | dies it =>
      rcases victim_spec it with runs | ⟨me, status, c, rfl, _, next⟩
      · exact absurd rfl (busy _ runs).2.1
      · have blocked := (careful.2 c j status rfl next).1
        rcases awake.state with state | state <;> simp [blocked] at state
    | taken _ dead => exact absurd dead undead
    | claimed free => simp [awake.used] at free
  refine ⟨⟨frame.1.trans awake.used, ?_, ?_⟩, congrArg Identity.pgd (step_identity s action away)⟩
  · rcases frame.2 with same | ⟨_, alive⟩
    · rw [same]
      exact awake.state
    · cases after : ((s.step action).tcb j).state <;> simp_all [TaskState.live]
  · intro k inside
    obtain ⟨next, mem, it⟩ := List.mem_filterMap.mp inside
    rcases step_follows inv action mem it with ⟨old, _⟩ | ⟨op, runs, follows⟩
    · exact awake.nobody k (List.mem_filterMap.mpr ⟨next, old, it⟩)
    · cases follows with
      | take took =>
        cases it
        obtain ⟨c, _, _, next⟩ := runs
        exact undead (takes_spec inv next took).2
      | claim free =>
        cases it
        simp [awake.used] at free
      | clear | init | ready | place | destroy => exact away k _ runs it

theorem mem_collected (inside : i ∈ s.collected uaddr count) :
    ∃ k, k ∈ s.futexWaiters uaddr count ∧ s.futex k = ⟨uaddr, some i⟩ := by
  obtain ⟨k, mem, waits⟩ := List.mem_filterMap.mp inside
  have found := (List.mem_filter.mp (List.mem_of_mem_take mem)).2
  refine ⟨k, mem, ?_⟩
  cases entry : s.futex k
  simp_all

theorem awake_of_executes (inv : s.view.Inv) (runs : s.Executes action me op)
    (schedules : op.isSchedule = false) (alive : op.afterDeath = false) : s.Awake me :=
  ⟨used_of_executes inv runs, .inr (running_of_executes inv runs schedules alive),
    unowned_of_executes inv runs⟩

namespace FutexBooks

variable (books : s.FutexBooks)
include books

theorem origin (inv : s.view.Inv) (inside : i ∈ wakers ((s.step action).code j)) :
    i ∈ wakers (s.code j) ∨
      ∃ uaddr count, s.Executes action j (.futexWake uaddr count) ∧
        i ∈ s.collected uaddr count := by
  cases (step_wakes action inv (books.first j)).1 with
  | none nothing => simp [nothing] at inside
  | same same => exact .inl (same ▸ inside)
  | woke k _ before => exact .inl (before ▸ List.mem_cons_of_mem k inside)
  | collect uaddr count runs after => exact .inr ⟨uaddr, count, runs, after ▸ inside⟩

theorem awake (inv : s.view.Inv) (careful : s.Careful action)
    (inside : i ∈ wakers ((s.step action).code j)) :
    (s.step action).Awake j ∧ ((s.step action).tcb j).pgd = (s.tcb j).pgd := by
  cases (step_wakes action inv (books.first j)).1 with
  | none nothing => simp [nothing] at inside
  | same same idle =>
    apply (books.waker i j (same ▸ inside)).step inv careful
    intro op runs
    rw [idle op runs]
    simp
  | woke k runs before =>
    apply (books.waker k j (by simp [before])).step inv careful
    intro op too
    rw [← (executes_unique runs too).2]
    simp
  | collect _ _ runs =>
    apply (awake_of_executes inv runs rfl rfl).step inv careful
    intro op too
    rw [← (executes_unique runs too).2]
    simp

variable {k : Fin futexTableSize}

theorem unwoken (entry : (s.futex k).waiter = some i) (me : Slot) :
    ¬ s.Executes action me (.wakeWaiter i) := by
  intro runs
  exact (books.waking i me (mem_wakers.mpr (mem_code_of_executes runs))).2.2 k entry

theorem unwokenYet (inv : s.view.Inv) (before : i ∈ wakers (s.code j))
    (inside : i ∈ wakers ((s.step action).code j)) (me : Slot) :
    ¬ s.Executes action me (.wakeWaiter i) := by
  intro runs
  cases books.apart i j me before (mem_wakers.mpr (mem_code_of_executes runs))
  cases (step_wakes action inv (books.first j)).1 with
  | none nothing => simp [nothing] at inside
  | same _ idle => cases idle _ runs
  | woke _ too same =>
    cases (executes_unique runs too).2
    have distinct := books.distinct j
    rw [same] at distinct
    exact (List.nodup_cons.mp distinct).1 inside
  | collect _ _ too => cases (executes_unique runs too).2

omit books in
theorem stays_out (inv : s.view.Inv) (asleep : s.AsleepOn i uaddr)
    (out : ∀ k, (s.futex k).waiter ≠ some i) (k : Fin futexTableSize) :
    ((s.step action).futex k).waiter ≠ some i := by
  cases step_table s action with
  | same table =>
    rw [table]
    exact out k
  | queue _ _ l runs table =>
    obtain ⟨val, curVal, runs⟩ := runs
    have running := running_of_executes inv runs rfl rfl
    rw [table]
    by_cases it : k = l
    · subst it
      simp only [update_self, ne_eq, Option.some.injEq]
      rintro rfl
      simp [asleep.blocked] at running
    · rw [update_of_ne it]
      exact out k
  | wake _ addr count _ table =>
    rw [table]
    by_cases cleared : k ∈ s.futexWaiters addr count
    · simp [clearFutex, cleared]
    · simpa [clearFutex, cleared] using out k

theorem entry_step (inv : s.view.Inv) (considerate : s.Considerate action)
    (entry : (s.step action).futex k = ⟨uaddr, some i⟩) : (s.step action).AsleepOn i uaddr := by
  have stays : s.futex k = ⟨uaddr, some i⟩ → (s.step action).AsleepOn i uaddr := by
    intro was
    exact ((books.entry k uaddr i was).step inv considerate (books.unwoken (by rw [was]))).1
  cases step_table s action with
  | same table => exact stays (table ▸ entry)
  | queue me _ l runs table blocked returns =>
    rw [table] at entry
    by_cases it : k = l
    · subst it
      rw [update_self] at entry
      cases entry
      obtain ⟨val, curVal, runs⟩ := runs
      refine ⟨?_, blocked, returns⟩
      cases step_slotFrame (i := i) inv action fun me op too it =>
          unowned_of_executes inv runs me
            (List.mem_filterMap.mpr ⟨op, mem_code_of_executes too, it⟩) with
      | lives used | dies _ used | taken used => rw [used, used_of_executes inv runs]
      | claimed free => simp [used_of_executes inv runs] at free
    · rw [update_of_ne it] at entry
      exact stays entry
  | wake _ addr count _ table =>
    rw [table] at entry
    apply stays
    by_cases cleared : k ∈ s.futexWaiters addr count
    · simp [clearFutex, cleared] at entry
    · simpa [clearFutex, cleared] using entry

theorem once_step (inv : s.view.Inv) (here : ((s.step action).futex k).waiter = some i)
    (there : ((s.step action).futex l).waiter = some i) : k = l := by
  cases step_table s action with
  | same table => exact books.once k l i (table ▸ here) (table ▸ there)
  | queue me _ _ runs table =>
    obtain ⟨val, curVal, runs⟩ := runs
    have running := running_of_executes inv runs rfl rfl
    have absent : ∀ k, (s.futex k).waiter ≠ some me := by
      intro k waits
      have asleep := books.entry k (s.futex k).uaddr me (by rw [← waits])
      simp [asleep.blocked] at running
    have once := books.once
    rw [table] at here there
    grind
  | wake _ addr count _ table =>
    have kept : ∀ k, ((s.step action).futex k).waiter = some i → (s.futex k).waiter = some i := by
      intro k waits
      rw [table] at waits
      by_cases cleared : k ∈ s.futexWaiters addr count
      · simp [clearFutex, cleared] at waits
      · simpa [clearFutex, cleared] using waits
    exact books.once k l i (kept k here) (kept l there)

theorem collected_nodup (addr : Nat) (count : Int) : (s.collected addr count).Nodup := by
  apply List.Nodup.filterMap
  · intro k l i here there
    exact books.once k l i here there
  · exact ((List.nodup_finRange _).filter _).sublist (List.take_sublist _ _)

theorem waking_step (inv : s.view.Inv) (considerate : s.Considerate action)
    (inside : i ∈ wakers ((s.step action).code j)) :
    (∃ uaddr, (s.step action).AsleepOn i uaddr) ∧
      ((s.step action).tcb i).pgd = ((s.step action).tcb j).pgd ∧
      ∀ k, ((s.step action).futex k).waiter ≠ some i := by
  have pgd := (books.awake inv considerate.careful inside).2
  rcases books.origin inv inside with before | ⟨addr, count, runs, found⟩
  · obtain ⟨⟨uaddr, asleep⟩, same, out⟩ := books.waking i j before
    have still := asleep.step inv considerate (books.unwokenYet inv before inside)
    refine ⟨⟨uaddr, still.1⟩, ?_, stays_out inv asleep out⟩
    rw [still.2, pgd, same]
  · obtain ⟨k, collects, entry⟩ := mem_collected found
    have asleep := books.entry k addr i entry
    have still := asleep.step inv considerate (books.unwoken (by rw [entry]))
    refine ⟨⟨addr, still.1⟩, ?_, ?_⟩
    · rw [still.2, pgd, considerate.sameSpace j addr count runs k i entry]
    · intro l waits
      rw [futexWake_after runs] at waits
      by_cases cleared : l ∈ s.futexWaiters addr count
      · simp [clearFutex, cleared] at waits
      · have same := books.once k l i (by rw [entry]) (by simpa [clearFutex, cleared] using waits)
        exact cleared (same ▸ collects)

theorem distinct_step (inv : s.view.Inv) (j : Slot) :
    (wakers ((s.step action).code j)).Nodup := by
  cases (step_wakes action inv (books.first j)).1 with
  | none nothing =>
    rw [nothing]
    exact List.nodup_nil
  | same same =>
    rw [same]
    exact books.distinct j
  | woke _ _ before =>
    have distinct := books.distinct j
    rw [before] at distinct
    exact (List.nodup_cons.mp distinct).2
  | collect uaddr count _ after =>
    rw [after]
    exact books.collected_nodup uaddr count

theorem uncollected (found : i ∈ s.collected addr count) (j : Slot) : i ∉ wakers (s.code j) := by
  obtain ⟨k, _, entry⟩ := mem_collected found
  intro inside
  exact (books.waking i j inside).2.2 k (by rw [entry])

theorem apart_step (inv : s.view.Inv) (here : i ∈ wakers ((s.step action).code j))
    (there : i ∈ wakers ((s.step action).code k)) : j = k := by
  rcases books.origin inv here with old | ⟨_, _, runs, found⟩
  · rcases books.origin inv there with too | ⟨_, _, _, found⟩
    · exact books.apart i j k old too
    · exact absurd old (books.uncollected found j)
  · rcases books.origin inv there with old | ⟨_, _, too, _⟩
    · exact absurd old (books.uncollected found k)
    · exact (executes_unique runs too).1

theorem step (inv : s.view.Inv) (considerate : s.Considerate action) :
    (s.step action).FutexBooks where
  entry _ _ _ entry := books.entry_step inv considerate entry
  once _ _ _ here there := books.once_step inv here there
  first j := (step_wakes action inv (books.first j)).2
  waking _ _ inside := books.waking_step inv considerate inside
  waker _ _ inside := (books.awake inv considerate.careful inside).1
  distinct := books.distinct_step inv
  apart _ _ _ here there := books.apart_step inv here there

end FutexBooks

theorem boot_futexBooks : (boot n).FutexBooks := by
  constructor <;> simp [boot, wakers, WakesFirst]

theorem futexBooks_of_considerate (run : Reaches Considerate actions s) :
    s.view.Inv ∧ s.FutexBooks := by
  induction run with
  | nil => exact ⟨boot_inv, boot_futexBooks⟩
  | snoc _ taken ih =>
    obtain ⟨considerate, rfl⟩ := taken
    exact ⟨step_inv ih.1 considerate.careful, ih.2.step ih.1 considerate⟩

end Books

def waking (s : Kernel n) (c : Fin n) : Option (Slot × Slot) :=
  match s.current c, (s.nextOp c).bind Op.wakes with
  | some me, some i => some (i, me)
  | _, _ => none

/-- Every used entry of the table belongs to a live task inside `sys_futex_wait` on exactly that
address, and a futex wake is only for tasks with the page table of the caller. -/
structure FutexIsolated (s : Kernel n) : Prop where
  entry : ∀ k uaddr i, s.futex k = ⟨uaddr, some i⟩ →
    s.used i = true ∧ (s.tcb i).state.live = true ∧ .futexReturn uaddr ∈ s.code i
  wake : ∀ c i me, s.waking c = some (i, me) → (s.tcb i).pgd = (s.tcb me).pgd

/-- Futexes are isolated in every run in which a wake meets only entries of the caller's own address
space, and nothing else wakes or marks dead a task that waits in the table. -/
theorem futexIsolated_of_considerate {actions : List (Action n)} {s : Kernel n}
    (run : Reaches Considerate actions s) : s.FutexIsolated := by
  obtain ⟨_, books⟩ := futexBooks_of_considerate run
  constructor
  · intro k uaddr i entry
    obtain ⟨used, blocked, returns⟩ := books.entry k uaddr i entry
    exact ⟨used, by simp [blocked, TaskState.live], returns⟩
  · intro c i me wakes
    unfold waking at wakes
    split at wakes
    case h_1 you j current next =>
      cases wakes
      obtain ⟨op, ahead, it⟩ := Option.bind_eq_some_iff.mp next
      have runs : s.Executes (.run c) me op := ⟨c, rfl, current, ahead⟩
      exact (books.waking i me (List.mem_filterMap.mpr ⟨op, mem_code_of_executes runs, it⟩)).2.1
    case h_2 => cases wakes

def waitsInFutex (s : Kernel n) (i : Slot) : Bool :=
  (s.tcb i).state = .blocked && (s.code i).any fun op =>
    match op with
    | .futexReturn _ => true
    | _ => false

def considerately (s : Kernel n) (action : Action n) : Bool :=
  s.carefully action &&
  match action with
  | .run c =>
    match s.current c, s.nextOp c with
    | some _, some (.unblock i) => !s.waitsInFutex i
    | some _, some (.groupMark i _) => !s.waitsInFutex i
    | some me, some (.futexWake uaddr _) => (List.finRange futexTableSize).all fun k =>
      (s.futex k).uaddr ≠ uaddr || (s.futex k).waiter.all fun i => (s.tcb i).pgd = (s.tcb me).pgd
    | _, _ => true
  | .wake i => !s.waitsInFutex i
  | _ => true

theorem waitsInFutex_of_asleep {s : Kernel n} (asleep : s.AsleepOn i uaddr) :
    s.waitsInFutex i = true := by
  simp only [waitsInFutex, asleep.blocked, decide_true, Bool.true_and, List.any_eq_true]
  exact ⟨_, asleep.returns, rfl⟩

theorem considerate_of_considerately {s : Kernel n} (ok : s.considerately action = true) :
    s.Considerate action := by
  simp only [considerately, Bool.and_eq_true] at ok
  obtain ⟨careful, rest⟩ := ok
  refine ⟨careful_of_carefully careful, ?_, ?_, ?_⟩
  · rintro me uaddr count ⟨c, rfl, current, next⟩ k i entry
    simp only [current, next, List.all_eq_true, List.mem_finRange, true_imp_iff] at rest
    have checked := rest k
    simpa [entry] using checked
  · rintro i uaddr (rfl | ⟨me, c, rfl, current, next⟩) asleep
    · simp [waitsInFutex_of_asleep asleep] at rest
    · simp [current, next, waitsInFutex_of_asleep asleep] at rest
  · rintro me i status uaddr ⟨c, rfl, current, next⟩ asleep
    simp [current, next, waitsInFutex_of_asleep asleep] at rest

def wakeWithin : List (Action 2) :=
  startThread ++ [.call 1 (.store 100 7)] ++ runs 1 1 ++ [.call 1 (.futexWait 100 7)] ++ runs 4 1 ++
    [.call 0 (.futexWake 100 1)] ++ runs 1 0

theorem futexIsolated_within : (wakeWithin.foldl step (boot 2)).waking 0 = some (1, 2) ∧
    (wakeWithin.foldl step (boot 2)).FutexIsolated :=
  ⟨by decide +kernel, futexIsolated_of_considerate
    (run_of_passes (fun _ _ => considerate_of_considerately) (by decide +kernel))⟩

def childWaits : List (Action 2) :=
  startChild ++ [.call 0 (.store 100 7)] ++ runs 1 0 ++ [.call 0 (.futexWait 100 7)] ++ runs 4 0

/-- A wake of the parent at the same virtual address is for the child; and when something else wakes
the child up, its entry stays in the table while it is back in user mode. -/
theorem futex_crosses :
    (∃ actions : List (Action 2), ∃ s, Run (graph step) (boot 2) actions s ∧
      s.waking 1 = some (2, 1) ∧ (s.tcb 2).state = .blocked ∧ (s.tcb 2).pgd ≠ (s.tcb 1).pgd) ∧
    ∃ actions : List (Action 2), ∃ s, Run (graph step) (boot 2) actions s ∧
      (s.futex 0).waiter = some 2 ∧ (s.code 2).isEmpty = true ∧ (s.tcb 2).state = .running :=
  ⟨⟨childWaits ++ [.call 1 (.futexWake 100 1)] ++ runs 1 1, _, run_foldl _ _ _, by decide +kernel,
      by decide +kernel, by decide +kernel⟩,
    ⟨childWaits ++ [.wake 2] ++ runs 4 0, _, run_foldl _ _ _, by decide +kernel, by decide +kernel,
      by decide +kernel⟩⟩

end Kernel

end AvatarKernel
