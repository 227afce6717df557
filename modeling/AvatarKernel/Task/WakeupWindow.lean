import AvatarKernel.Task.Frames

namespace AvatarKernel

open Function
open Transition

/-- The kernel with `sched_unblock` in two pieces. `tested` are the tasks that a call has found
`TASK_BLOCKED` and for which it has still to write `TASK_READY`. -/
structure SplitKernel (n : Nat) where
  kernel : Kernel n
  tested : Slot → Bool

inductive SplitAction (n : Nat) where
  | act (action : Action n)
  /-- an interrupt handler calls `sched_unblock`: up to the test of the state -/
  | test (i : Slot)
  /-- a CPU executes the `sched_unblock` that comes next in its code, up to the test -/
  | testNext (c : Fin n)
  /-- the rest of the call -/
  | write (i : Slot)

namespace Kernel

variable {n : Nat} [NeZero n]

/-- The task that a step of CPU `c` would pass to `sched_unblock`. -/
def unblocksNext (s : Kernel n) (c : Fin n) : Option Slot :=
  match s.nextOp c with
  | some (.unblock i) => some i
  | some (.wakeWaiter i) => some i
  | _ => none

def unblocks (s : Kernel n) : Action n → Option Slot
  | .run c => s.unblocksNext c
  | .wake i => some i
  | _ => none

/-- `sched_unblock` after the test. -/
def writeReady (s : Kernel n) (i : Slot) : Kernel n :=
  if (s.tcb i).onCpu then s.modify i fun t => { t with state := .ready, wakePending := true }
  else (s.setState i .ready).insertLast (s.home i) i

def popOp (s : Kernel n) (c : Fin n) : Kernel n :=
  match s.current c with
  | some me => s.setCode me (s.code me).tail
  | none => s

theorem schedUnblock_of_blocked {s : Kernel n} (blocked : (s.tcb i).state = .blocked) :
    s.schedUnblock i = s.writeReady i := by
  rw [schedUnblock, if_neg (not_not.mpr blocked), writeReady]

theorem popOp_spec {s : Kernel n} (inv : s.view.Inv) (it : s.unblocksNext c = some i) :
    (s.popOp c).view.Inv ∧ SlotStep s (.run c) (s.popOp c) ∧ (s.popOp c).tcb = s.tcb := by
  obtain ⟨op, next, kind⟩ : ∃ op, s.nextOp c = some op ∧
      (op = .unblock i ∨ op = .wakeWaiter i) := by
    unfold unblocksNext at it
    split at it <;> cases it
    · exact ⟨_, ‹_›, .inl rfl⟩
    · exact ⟨_, ‹_›, .inr rfl⟩
  obtain ⟨me, rest, _, current, code⟩ := nextOp_some next
  have popped : s.popOp c = s.setCode me rest := by
    rw [popOp, current]
    simp only [code, List.tail_cons]
  rw [popped]
  refine ⟨pop_inv inv code (by rcases kind with rfl | rfl <;> rfl), ?_, rfl⟩
  refine .quiet ⟨rfl, fun j i inside => ?_, fun j i inside => ?_⟩ fun _ => .inl rfl
  all_goals
    by_cases here : j = me
    · subst here
      simp only [setCode, update_self] at inside
      rw [code]
      exact List.Sublist.subset ((List.sublist_cons_self op rest).filterMap _) inside
    · simpa [setCode, here] using inside

end Kernel

namespace SplitKernel

open Kernel

variable {n : Nat} [NeZero n]

def boot (n : Nat) [NeZero n] : SplitKernel n := ⟨Kernel.boot n, fun _ => false⟩

/-- The state of the task is tested. A task that is not `TASK_BLOCKED` is left alone. -/
def look (w : SplitKernel n) (i : Slot) : SplitKernel n :=
  { w with tested := update w.tested i (decide ((w.kernel.tcb i).state = .blocked)) }

/-- A call between its two pieces holds the `rq_lock`, so a second `sched_unblock` of the task
waits. No other step is held back, not even one of the CPU that makes the call. -/
def step (w : SplitKernel n) : SplitAction n → SplitKernel n
  | .act action =>
    if (w.kernel.unblocks action).any w.tested then w
    else { w with kernel := w.kernel.step action }
  | .test i => if w.tested i then w else w.look i
  | .testNext c =>
    match w.kernel.unblocksNext c with
    | some i => if w.tested i then w else { w with kernel := w.kernel.popOp c }.look i
    | none => w
  | .write i =>
    if w.tested i then ⟨w.kernel.writeReady i, update w.tested i false⟩ else w

/-- Besides the conditions on the kernel's steps: `exit_group` marks no thread between the test and
the write of a `sched_unblock` of that thread. -/
def Careful (w : SplitKernel n) : SplitAction n → Prop
  | .act action => w.kernel.Careful action ∧ ∀ c i status, action = .run c →
      w.kernel.nextOp c = some (.groupMark i status) → w.tested i = false
  | _ => True

structure Sound (w : SplitKernel n) : Prop where
  inv : w.kernel.view.Inv
  blocked : ∀ i, w.tested i = true → (w.kernel.tcb i).state = .blocked

variable {w : SplitKernel n}

theorem Sound.look (sound : w.Sound) (i : Slot) : (w.look i).Sound := by
  refine ⟨sound.inv, fun j tested => ?_⟩
  by_cases here : j = i
  · subst here
    simpa [SplitKernel.look] using tested
  · exact sound.blocked j (by simpa [SplitKernel.look, here] using tested)

/-- A task that has been tested stays `TASK_BLOCKED` up to the write: a step that wakes it waits for
the lock, and `exit_group` does not come in between. -/
theorem Sound.act (sound : w.Sound) {action : Action n} (careful : w.Careful (.act action))
    (free : ¬ (w.kernel.unblocks action).any w.tested = true) :
    ({ w with kernel := w.kernel.step action } : SplitKernel n).Sound := by
  refine ⟨step_inv sound.inv careful.1, fun i tested => ?_⟩
  have held : w.kernel.unblocks action ≠ some i := by
    intro it
    rw [it] at free
    exact free tested
  rcases step_sleeps sound.inv action (sound.blocked i tested) with
    still | rfl | ⟨me, op, runs, kind⟩
  · exact still
  · exact absurd rfl held
  · obtain ⟨c, rfl, _, next⟩ := runs
    rcases kind with rfl | rfl | ⟨status, rfl⟩
    · exact absurd (by simp only [unblocks, unblocksNext, next]) held
    · exact absurd (by simp only [unblocks, unblocksNext, next]) held
    · have marked := careful.2 c i status rfl next
      rw [show w.tested i = true from tested] at marked
      cases marked

/-- Every step keeps the machine sound, and does to the slots what a step of the kernel does. -/
theorem Sound.step (sound : w.Sound) {action : SplitAction n} (careful : w.Careful action) :
    (w.step action).Sound ∧ ∃ taken, SlotStep w.kernel taken (w.step action).kernel := by
  have idle (i : Slot) : SlotStep w.kernel (.wake i) w.kernel :=
    .quiet ⟨rfl, fun _ _ inside => inside, fun _ _ inside => inside⟩ fun _ => .inl rfl
  cases action with
  | act action =>
    simp only [SplitKernel.step]
    split
    case isTrue => exact ⟨sound, _, idle 0⟩
    case isFalse free => exact ⟨sound.act careful free, action, step_slots sound.inv careful.1.2⟩
  | test i =>
    simp only [SplitKernel.step]
    split
    · exact ⟨sound, _, idle i⟩
    · exact ⟨sound.look i, _, idle i⟩
  | testNext c =>
    simp only [SplitKernel.step]
    split
    case h_2 => exact ⟨sound, _, idle 0⟩
    case h_1 i next =>
      split
      case isTrue => exact ⟨sound, _, idle 0⟩
      case isFalse =>
        obtain ⟨inv, slots, tcb⟩ := popOp_spec sound.inv next
        have popped : ({ w with kernel := w.kernel.popOp c } : SplitKernel n).Sound :=
          ⟨inv, fun j tested => by
            show ((w.kernel.popOp c).tcb j).state = .blocked
            rw [tcb]
            exact sound.blocked j tested⟩
        exact ⟨popped.look i, _, slots⟩
  | write i =>
    simp only [SplitKernel.step]
    split
    case isFalse => exact ⟨sound, _, idle i⟩
    case isTrue tested =>
      have marks : w.kernel.MarksBlocked (.wake i) := by
        intro c j status it
        cases it
      rw [← schedUnblock_of_blocked (sound.blocked i tested)]
      refine ⟨⟨schedUnblock_inv sound.inv i, fun j other => ?_⟩, .wake i,
        step_slots sound.inv marks⟩
      by_cases here : j = i
      · simp [here] at other
      · exact schedUnblock_sleeps here (sound.blocked j (by simpa [here] using other))

theorem boot_sound : (boot n).Sound := ⟨boot_inv, nofun⟩

def StillDead (s : Kernel n) (i : Slot) (t : Kernel n) : Prop :=
  (i, s.born i) ∈ t.taken ∨ t.born i = s.born i ∧ t.used i = true ∧ (t.tcb i).state = .dead

/-- `TASK_DEAD` is absorbing up to the reclamation of the slot, in every run that takes no task for
reclamation while a CPU still runs it, and in which `exit_group` marks only blocked threads that
have left their CPU and that no `sched_unblock` is about to wake up. -/
theorem dead_until_reclaimed {actions more : List (SplitAction n)} {w w' : SplitKernel n}
    (run : Run (Guarded (graph SplitKernel.step) Careful) (boot n) actions w)
    (later : Run (Guarded (graph SplitKernel.step) Careful) w more w') {i : Slot}
    (used : w.kernel.used i = true) (dead : (w.kernel.tcb i).state = .dead)
    (unreclaimed : (i, w.kernel.born i) ∉ w'.kernel.taken) :
    (w'.kernel.tcb i).state = .dead ∧ ∀ c, i ∉ w'.kernel.queue c := by
  have sound : w.Sound :=
    run.guarded (fun _ _ sound careful => (sound.step careful).1) boot_sound
  have keep : ∀ (before : SplitKernel n) action, before.Sound ∧ StillDead w.kernel i before.kernel →
      before.Careful action →
        (before.step action).Sound ∧ StillDead w.kernel i (before.step action).kernel := by
    rintro before action ⟨sound, was⟩ careful
    obtain ⟨next, _, change⟩ := sound.step careful
    refine ⟨next, ?_⟩
    rcases was with taken | ⟨born, used, dead⟩
    · exact .inl (step_taken change taken)
    · obtain ⟨same, taken | still⟩ := step_dead sound.inv change used dead
      · exact .inl (born ▸ taken)
      · exact .inr ⟨same.trans born, still⟩
  have kept := later.guarded keep ⟨sound, .inr ⟨rfl, used, dead⟩⟩
  have still := (kept.2.resolve_left unreclaimed).2.2
  refine ⟨still, fun c inside => ?_⟩
  have ready : (w'.kernel.tcb i).state = .ready := (kept.1.inv.queued c i inside).2.1
  simp [still] at ready

def carefully (w : SplitKernel n) : SplitAction n → Bool
  | .act (.run c) => w.kernel.carefully (.run c) &&
      match w.kernel.nextOp c with
      | some (.groupMark i _) => !w.tested i
      | _ => true
  | _ => true

theorem careful_of_carefully {action : SplitAction n} (ok : w.carefully action = true) :
    w.Careful action := by
  cases action with
  | act action =>
    cases action with
    | run c =>
      rw [carefully, Bool.and_eq_true] at ok
      refine ⟨Kernel.careful_of_carefully ok.1, ?_⟩
      rintro _ i status ⟨⟩ next
      simpa [next] using ok.2
    | call | preempt | wake =>
      exact ⟨Kernel.careful_of_carefully rfl, nofun⟩
  | test | testNext | write => trivial

theorem child_dead_until_reclaimed :
    let dead := (exitChild.map .act).foldl SplitKernel.step (boot 2)
    (dead.kernel.tcb 2).state = .dead ∧
      ((((runs 88 0).map .act).foldl SplitKernel.step dead).kernel.tcb 2).state = .dead :=
  ⟨by decide +kernel, (dead_until_reclaimed (i := 2)
    (run_of_passes (fun _ _ => careful_of_carefully) (by decide +kernel))
    (run_of_passes (fun _ _ => careful_of_carefully) (by decide +kernel))
    (by decide +kernel) (by decide +kernel) (by decide +kernel)).1⟩

/-- `exit_group` marks the thread dead while it runs on the other CPU; `task_block` there makes it
`TASK_BLOCKED` again. If the thread is asleep and the mark falls between the test and the write of a
`sched_unblock`, the dead thread is `TASK_READY` and in a run queue. -/
theorem dead_then_blocked :
    (∃ actions more : List (Action 2), ∃ s s',
      Run (graph Kernel.step) (Kernel.boot 2) actions s ∧ Run (graph Kernel.step) s more s' ∧
        s.used 2 = true ∧ (s.tcb 2).state = .dead ∧ (2, s.born 2) ∉ s'.taken ∧
          (s'.tcb 2).state = .blocked) ∧
    ∃ (actions : List (SplitAction 2)) (w w' : SplitKernel 2),
      Run (graph SplitKernel.step) (boot 2) actions w ∧ w.step (.write 2) = w' ∧
        w.kernel.used 2 = true ∧ (w.kernel.tcb 2).state = .dead ∧
          (2, w.kernel.born 2) ∉ w'.kernel.taken ∧ (w'.kernel.tcb 2).state = .ready ∧
            2 ∈ w'.kernel.queue 0 := by
  refine ⟨⟨startThread ++ [.call 1 (.exitGroup 0)] ++ runs 4 1, [.call 0 .block] ++ runs 1 0, _, _,
    run_foldl _ _ _, run_foldl _ _ _, by decide +kernel, by decide +kernel, by decide +kernel,
    by decide +kernel⟩, ?_⟩
  exact ⟨(startThread ++ [Action.call 0 .block] ++ runs 4 0).map .act ++ [.test 2] ++
    (Action.call 1 (.exitGroup 0) :: runs 4 1).map .act, _, _, run_foldl _ _ _, rfl,
    by decide +kernel, by decide +kernel, by decide +kernel, by decide +kernel, by decide +kernel⟩

end SplitKernel

end AvatarKernel
