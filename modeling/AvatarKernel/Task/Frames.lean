import AvatarKernel.Task.Reclaim

namespace AvatarKernel

open Function

namespace Kernel

variable {n : Nat} [NeZero n]

/-- Task `me` executes `op` in this step. -/
def Executes (s : Kernel n) (action : Action n) (me : Slot) (op : Op n) : Prop :=
  ∃ c, action = .run c ∧ s.current c = some me ∧ s.nextOp c = some op

/-- The kinds of steps: the scheduler alone, a call, a timer interrupt, or a piece of the code of
the current task. -/
inductive StepCase (s : Kernel n) (action : Action n) : Prop where
  | scheduler (idle : ∀ me op, ¬ s.Executes action me op)
      (same : (s.step action).unscheduled = s.unscheduled)
  | call (idle : ∀ me op, ¬ s.Executes action me op) (me : Slot) (request : Call)
      (code : s.code me = []) (after : s.step action = s.setCode me (request.code s me))
  | preempt (idle : ∀ me op, ¬ s.Executes action me op) (me : Slot)
      (after : s.step action = s.setCode me (.schedule :: s.code me))
  | exec (c : Fin n) (me : Slot) (op : Op n) (rest : List (Op n)) (run : action = .run c)
      (phase : s.phase c = .running) (current : s.current c = some me)
        (code : s.code me = op :: rest)
      (next : s.nextOp c = some op)
      (only : ∀ other op', s.Executes action other op' → other = me ∧ op' = op)
      (after : s.step action = ((s.setCode me rest).exec c me op).1.setCode me
        (((s.setCode me rest).exec c me op).2 ++ ((s.setCode me rest).exec c me op).1.code me))

theorem step_cases (s : Kernel n) (action : Action n) : StepCase s action := by
  cases action with
  | run c =>
    have idle : s.nextOp c = none → ∀ me op, ¬ s.Executes (.run c) me op := by
      rintro nothing me op ⟨d, same, _, next⟩
      cases same
      simp [nothing] at next
    cases runCpu_cases s c with
    | resume phase after =>
      exact .scheduler (idle (by simp [nextOp, phase]))
        ((congrArg _ after).trans (unscheduled_markRunning s c))
    | switch next phase after =>
      exact .scheduler (idle (by simp [nextOp, phase]))
        (show _ = (s.publish c next).unscheduled from congrArg _ after)
    | idle _ current after =>
      exact .scheduler (idle (by simp [nextOp, current]))
        ((congrArg _ after).trans (unscheduled_schedSection s c))
    | rest _ phase current code after =>
      exact .scheduler (idle (by simp [nextOp, phase, current, code])) (congrArg _ after)
    | exec me op rest phase current code next after =>
      refine .exec c me op rest rfl phase current code next ?_ after
      rintro other op' ⟨d, same, seat, ahead⟩
      cases same
      exact ⟨Option.some.inj (seat.symm.trans current), Option.some.inj (ahead.symm.trans next)⟩
  | call c request =>
    have idle : ∀ me op, ¬ s.Executes (.call c request) me op := by
      intro me op executes
      obtain ⟨_, same, _⟩ := executes
      cases same
    rcases step_call s c request with same | ⟨me, _, _, code, after⟩
    · exact .scheduler idle (congrArg _ same)
    · exact .call idle me request code after
  | preempt c =>
    have idle : ∀ me op, ¬ s.Executes (.preempt c) me op := by
      intro me op executes
      obtain ⟨_, same, _⟩ := executes
      cases same
    rcases step_preempt s c with same | ⟨me, _, _, after⟩
    · exact .scheduler idle (congrArg _ same)
    · exact .preempt idle me after
  | wake i =>
    have idle : ∀ me op, ¬ s.Executes (.wake i) me op := by
      intro me op executes
      obtain ⟨_, same, _⟩ := executes
      cases same
    exact .scheduler idle (unscheduled_schedUnblock s i)

section Executes

variable {s : Kernel n} {action : Action n} {me : Slot}

variable {op : Op n}

theorem tcb_after (runs : s.Executes action me op) (j : Slot) :
    ∃ c rest, s.code me = op :: rest ∧
      (s.step action).tcb j = ((s.setCode me rest).exec c me op).1.tcb j ∧
      (s.step action).used j = ((s.setCode me rest).exec c me op).1.used j := by
  cases step_cases s action with
  | scheduler idle | call idle | preempt idle => exact absurd runs (idle me op)
  | exec c _ _ rest _ _ _ code _ only after =>
    obtain ⟨rfl, rfl⟩ := only me op runs
    rw [after]
    exact ⟨c, rest, code, rfl, rfl⟩

theorem mem_code_of_executes (runs : s.Executes action me op) : op ∈ s.code me := by
  obtain ⟨c, rest, code, _⟩ := tcb_after runs me
  simp [code]

theorem executes_unique (runs : s.Executes action me op) (too : s.Executes action you other) :
    me = you ∧ op = other := by
  obtain ⟨c, rfl, current, next⟩ := runs
  obtain ⟨d, same, seat, ahead⟩ := too
  cases same
  exact ⟨Option.some.inj (current.symm.trans seat), Option.some.inj (next.symm.trans ahead)⟩

section

variable (inv : s.view.Inv) (runs : s.Executes action me op)

include inv runs

theorem running_of_executes (schedules : op.isSchedule = false) (alive : op.afterDeath = false) :
    (s.tcb me).state = .running := by
  obtain ⟨c, rfl, current, next⟩ := runs
  obtain ⟨you, rest, phase, seat, code⟩ := nextOp_some next
  cases Option.some.inj (current.symm.trans seat)
  exact running_of_next inv phase current code schedules alive

theorem used_of_executes :
    s.used me = true := by
  obtain ⟨c, _, current, _⟩ := runs
  by_contra unused
  exact (inv.unused me (Bool.eq_false_iff.mpr unused)).2.2 c current

theorem unowned_of_executes (j : Slot) :
    me ∉ owned (s.code j) := by
  intro inside
  obtain ⟨c, _, current, _⟩ := runs
  exact (inv.claim me j inside).current c current

end

theorem victim_spec (it : s.victim action = some i) :
    s.Executes action i .exitMark ∨ ∃ me status, s.Executes action me (.groupMark i status) := by
  cases action with
  | run c =>
    cases next : s.nextOp c with
    | none => simp [victim, next] at it
    | some op =>
      obtain ⟨me, _, _, current, _⟩ := nextOp_some next
      cases op with
      | exitMark => exact .inl ⟨c, rfl, by simpa [victim, next] using it, next⟩
      | groupMark j status =>
        have same : j = i := by simpa [victim, next] using it
        exact .inr ⟨me, status, c, rfl, current, same ▸ next⟩
      | _ => simp [victim, next] at it
  | call | preempt | wake => simp [victim] at it

theorem code_setCode (s : Kernel n) (me : Slot) (code : List (Op n)) :
    (s.setCode me code).code me = code := by
  simp [setCode]

theorem code_setCode_of_ne {code : List (Op n)} (other : j ≠ me) :
    (s.setCode me code).code j = s.code j := by
  simp [setCode, other]

theorem step_keeps (action : Action n) (inside : next ∈ s.code j) :
    next ∈ (s.step action).code j ∨ s.Executes action j next ∨
      ∃ me birth, s.Executes action me (.initTcb j birth) := by
  cases step_cases s action with
  | scheduler _ same =>
    rw [code_of_unscheduled same]
    exact .inl inside
  | call _ me _ code after =>
    left
    have other : j ≠ me := by
      rintro rfl
      simp [code] at inside
    rw [after]
    simpa [setCode, other] using inside
  | preempt _ me after =>
    left
    rw [after]
    by_cases it : j = me
    · subst it
      simp [setCode, inside]
    · simpa [setCode, it] using inside
  | exec c me op rest run _ current code ahead _ after =>
    by_cases clears : ∃ birth, op = .initTcb j birth
    · obtain ⟨birth, rfl⟩ := clears
      exact .inr (.inr ⟨me, birth, c, run, current, ahead⟩)
    have kept := exec_code_same (s.setCode me rest) c me (j := j) fun birth it => clears ⟨birth, it⟩
    rw [after]
    by_cases it : j = me
    · subst it
      rw [code, List.mem_cons] at inside
      rcases inside with rfl | later
      · exact .inr (.inl ⟨c, run, current, ahead⟩)
      · rw [kept, code_setCode, code_setCode]
        exact .inl (List.mem_append_right _ later)
    · rw [code_setCode_of_ne it, kept, code_setCode_of_ne it]
      exact .inl inside

end Executes

section Identity

variable {s : Kernel n} {i : Slot}

theorem identity_of_unscheduled {s' : Kernel n} (same : s'.unscheduled = s.unscheduled) (i : Slot) :
    (s'.tcb i).identity = (s.tcb i).identity :=
  congrArg (fun t => (t.tcb i).identity) same

theorem identity_modify (s : Kernel n) (j : Slot) (change : Tcb → Tcb)
    (same : (change (s.tcb j)).identity = (s.tcb j).identity) (i : Slot) :
    ((s.modify j change).tcb i).identity = (s.tcb i).identity := by
  by_cases it : i = j
  · subst it
    simpa [modify] using same
  · simp [modify, it]

theorem identity_modify_of_ne (s : Kernel n) (change : Tcb → Tcb) (other : i ≠ j) :
    ((s.modify j change).tcb i).identity = (s.tcb i).identity := by
  simp [modify, other]

theorem exec_identity (s : Kernel n) (c : Fin n) (me : Slot) (op : Op n)
    (other : op.owns ≠ some i) : ((s.exec c me op).1.tcb i).identity = (s.tcb i).identity := by
  have away (j : Slot) (it : op.owns = some j) : i ≠ j := by
    rintro rfl
    exact other it
  generalize done : s.exec c me op = result
  cases exec_cases done with
  | idle _ _ idles => exact idles.identity i
  | schedule => exact identity_of_unscheduled (unscheduled_schedSection s c) i
  | wake j => exact identity_of_unscheduled (unscheduled_schedUnblock s j) i
  | sleep => exact identity_modify s me (fun t => { t with state := .blocked }) rfl i
  | take j | claim j => exact identity_modify s j (fun t => { t with state := .allocating }) rfl i
  | clear j => exact identity_modify_of_ne s (fun _ => Tcb.zero) (away j rfl)
  | abort j | init j => exact identity_modify_of_ne s (fun _ => s.newTcb me _) (away j rfl)
  | ready j => exact identity_modify s j (fun t => { t with state := .ready }) rfl i
  | place j _ cpu =>
    exact identity_modify s j (fun t => { t with cpuAffinity := some cpu.val }) rfl i
  | destroy j pgd => exact identity_modify_of_ne s (fun t => { t with pgd := pgd }) (away j rfl)
  | die => exact identity_modify s me (fun t => { t with state := .dead }) rfl i
  | mark j status =>
    exact identity_modify s j (fun t => { t with exitStatus := status, state := .dead }) rfl i
  | placed | insert | free | dequeue => rfl

theorem step_identity (s : Kernel n) (action : Action n)
    (other : ∀ me op, s.Executes action me op → op.owns ≠ some i) :
    ((s.step action).tcb i).identity = (s.tcb i).identity := by
  cases step_cases s action with
  | scheduler _ same => exact identity_of_unscheduled same i
  | call _ me request code after | preempt _ me after =>
    rw [after]
    rfl
  | exec c me op rest run _ current _ next _ after =>
    rw [after]
    exact exec_identity (s.setCode me rest) c me op (other me op ⟨c, run, current, next⟩)

end Identity

section Blocked

variable {s : Kernel n} {i : Slot}

theorem modify_blocked (j : Slot) (change : Tcb → Tcb)
    (awake : (change (s.tcb j)).state = .blocked → (s.tcb j).state = .blocked)
    (blocked : ((s.modify j change).tcb i).state = .blocked) : (s.tcb i).state = .blocked := by
  by_cases it : i = j
  · subst it
    exact awake (by simpa [modify] using blocked)
  · simpa [modify, it] using blocked

variable {c : Fin n}

theorem requeue_blocked (blocked : ((s.requeue c).tcb i).state = .blocked) :
    (s.tcb i).state = .blocked := by
  unfold requeue at blocked
  split at blocked
  case h_1 prev _ =>
    split at blocked
    case isTrue => exact modify_blocked prev (fun t => { t with state := .ready }) (by simp) blocked
    case isFalse => exact blocked
  case h_2 => exact blocked

theorem switchOut_blocked (blocked : ((s.switchOut c).tcb i).state = .blocked) :
    (s.tcb i).state = .blocked := by
  unfold switchOut at blocked
  split at blocked
  case h_1 prev _ =>
    split at blocked
    case isTrue =>
      exact modify_blocked prev
        (fun t => { t with onCpu := false, wakePending := false, state := .ready })
          (by simp) blocked
    case isFalse => exact modify_blocked prev _ id blocked
  case h_2 => exact blocked

theorem switchIn_blocked (blocked : ((s.switchIn next).tcb i).state = .blocked) :
    (s.tcb i).state = .blocked := by
  cases next with
  | none => exact blocked
  | some j =>
    exact modify_blocked j (fun t => { t with state := .running, onCpu := true }) (by simp) blocked

theorem schedSection_blocked (blocked : ((s.schedSection c).tcb i).state = .blocked) :
    (s.tcb i).state = .blocked := by
  have picked : ((((s.requeue c).pickNext c).1).tcb i).state = ((s.requeue c).tcb i).state := by
    unfold pickNext
    split <;> rfl
  apply requeue_blocked (c := c)
  rw [← picked]
  simp only [schedSection] at blocked
  split at blocked
  case isTrue => exact blocked
  case isFalse => exact switchOut_blocked (switchIn_blocked blocked)

theorem schedUnblock_blocked (blocked : ((s.schedUnblock j).tcb i).state = .blocked) :
    (s.tcb i).state = .blocked := by
  unfold schedUnblock at blocked
  split at blocked
  case isTrue => exact blocked
  case isFalse asleep =>
    split at blocked
    case isTrue =>
      exact modify_blocked j _ (by simp)
        blocked
    case isFalse => exact modify_blocked j (fun t => { t with state := .ready }) (by simp) blocked

theorem markRunning_blocked (blocked : ((s.markRunning c).tcb i).state = .blocked) :
    (s.tcb i).state = .blocked := by
  unfold markRunning at blocked
  split at blocked
  case h_1 j _ => exact modify_blocked j (fun t => { t with state := .running }) (by simp) blocked
  case h_2 => exact blocked

theorem schedUnblock_awake (s : Kernel n) (i : Slot) :
    ((s.schedUnblock i).tcb i).state ≠ .blocked := by
  unfold schedUnblock
  split
  case isTrue asleep => exact asleep
  case isFalse => split <;> simp [insertLast, setQueue, setState, modify]

theorem schedSection_sleeps (inv : s.view.Inv) (phase : s.phase c = .running)
    (blocked : (s.tcb i).state = .blocked) : ((s.schedSection c).tcb i).state = .blocked := by
  have asleep : ∀ {v v' : SchedView n}, v.Inv → v.state i = .blocked → SchedView.Moved c v v' →
      v'.state i = .blocked := by
    intro v v' inv before move
    have woken := inv.wake
    have ready := inv.queued
    cases move with
    | stayIdle | departParked => exact before
    | stay | departQueued | arrive => grind
  exact (schedSection_moves inv phase).keep (P := fun v => v.state i = .blocked) inv blocked
    fun inv before move => asleep inv before move

theorem schedUnblock_sleeps (other : i ≠ j) (blocked : (s.tcb i).state = .blocked) :
    ((s.schedUnblock j).tcb i).state = .blocked := by
  unfold schedUnblock
  split
  case isTrue => exact blocked
  case isFalse => split <;> simpa [insertLast, setQueue, setState, modify, other] using blocked

theorem markRunning_sleeps (inv : s.view.Inv) (phase : s.phase c = .resuming)
    (blocked : (s.tcb i).state = .blocked) : ((s.markRunning c).tcb i).state = .blocked := by
  unfold markRunning
  split
  case h_1 j current =>
    have other : i ≠ j := by
      rintro rfl
      have ready : (s.tcb i).state = .ready := (inv.resuming c i phase current).1
      simp [blocked] at ready
    simpa [setState, modify, setPhase, other] using blocked
  case h_2 => exact blocked

section Exec

variable {c : Fin n} {me : Slot} {op : Op n} {rest : List (Op n)}

theorem exec_sleeps (inv : s.view.Inv) (phase : s.phase c = .running)
    (current : s.current c = some me)
    (code : s.code me = op :: rest) (blocked : (s.tcb i).state = .blocked) :
    ((((s.setCode me rest).exec c me op).1).tcb i).state = .blocked ∨ op = .unblock i ∨
      op = .wakeWaiter i ∨ ∃ status, op = .groupMark i status := by
  have wrote : ∀ (j : Slot) (change : Tcb → Tcb), i ≠ j →
      (((s.setCode me rest).modify j change).tcb i).state = .blocked := by
    intro j change other
    simpa [modify, setCode, other] using blocked
  have held : ∀ j, op.owns = some j → i ≠ j := by
    rintro j it rfl
    rcases (aside_of_next inv code it).state with state | state <;>
      simp [view, setCode, blocked] at state
  generalize done : (s.setCode me rest).exec c me op = result
  cases exec_cases done with
  | idle _ _ idles => exact .inl ((congrFun (congrArg SchedView.state idles.view) i).trans blocked)
  | schedule =>
    left
    rw [schedSection_setCode]
    exact schedSection_sleeps inv phase blocked
  | sleep =>
    left
    by_cases it : i = me
    · simp [setState, modify, it]
    · exact wrote me (fun t => { t with state := .blocked }) it
  | wake j kind =>
    by_cases it : i = j
    · subst it
      exact .inr (kind.imp_right .inl)
    · exact .inl (schedUnblock_sleeps it blocked)
  | take j it =>
    left
    apply wrote j (fun t => { t with state := .allocating })
    rintro rfl
    have dead := (takes_dead inv code it).2
    simp [blocked] at dead
  | claim j _ free =>
    left
    apply wrote j (fun t => { t with state := .allocating })
    rintro rfl
    exact (inv.unused i free).1 blocked
  | clear j => exact .inl (wrote j (fun _ => Tcb.zero) (held j rfl))
  | abort j | init j => exact .inl (wrote j (fun _ => (s.setCode me rest).newTcb me _) (held j rfl))
  | ready j => exact .inl (wrote j (fun t => { t with state := .ready }) (held j rfl))
  | place j _ cpu =>
    exact .inl (wrote j (fun t => { t with cpuAffinity := some cpu.val }) (held j rfl))
  | destroy j pgd => exact .inl (wrote j (fun t => { t with pgd := pgd }) (held j rfl))
  | die =>
    left
    apply wrote me (fun t => { t with state := .dead })
    rintro rfl
    have running := running_of_next inv phase current code rfl rfl
    simp [blocked] at running
  | mark j status =>
    by_cases it : i = j
    · simp [it]
    · exact .inl (wrote j (fun t => { t with exitStatus := status, state := .dead }) it)
  | placed | insert | free | dequeue => exact .inl blocked

theorem exec_blocks (s : Kernel n) (c : Fin n) (me : Slot) (op : Op n)
    (blocked : (((s.exec c me op).1).tcb i).state = .blocked) :
    (s.tcb i).state = .blocked ∨
      i = me ∧ (op = .block ∨ ∃ uaddr val curVal, op = .futexQueue uaddr val curVal) := by
  generalize done : s.exec c me op = result at blocked
  cases exec_cases done with
  | idle _ _ idles =>
    exact .inl ((congrFun (congrArg SchedView.state idles.view) i).symm.trans blocked)
  | schedule => exact .inl (schedSection_blocked blocked)
  | wake => exact .inl (schedUnblock_blocked blocked)
  | sleep _ _ kind =>
    by_cases it : i = me
    · exact .inr ⟨it, kind.imp_left And.left⟩
    · exact .inl (by simpa [setState, modify, it] using blocked)
  | take j | claim j =>
    exact .inl (modify_blocked j (fun t => { t with state := .allocating }) (by simp) blocked)
  | clear j => exact .inl (modify_blocked j (fun _ => Tcb.zero) (by simp [Tcb.zero]) blocked)
  | abort j | init j =>
    exact .inl (modify_blocked j (fun _ => s.newTcb me _) (by simp [newTcb_state]) blocked)
  | ready j => exact .inl (modify_blocked j (fun t => { t with state := .ready }) (by simp) blocked)
  | place j _ cpu =>
    exact .inl (modify_blocked j (fun t => { t with cpuAffinity := some cpu.val }) id blocked)
  | destroy j pgd => exact .inl (modify_blocked j (fun t => { t with pgd := pgd }) id blocked)
  | die => exact .inl (modify_blocked me (fun t => { t with state := .dead }) (by simp) blocked)
  | mark j status =>
    exact .inl
      (modify_blocked j (fun t => { t with exitStatus := status, state := .dead }) (by simp)
      blocked)
  | placed | insert | free | dequeue => exact .inl blocked

end Exec

theorem step_sleeps (inv : s.view.Inv) (action : Action n) (blocked : (s.tcb i).state = .blocked) :
    ((s.step action).tcb i).state = .blocked ∨ action = .wake i ∨ ∃ me op, s.Executes action me op ∧
      (op = .unblock i ∨ op = .wakeWaiter i ∨ ∃ status, op = .groupMark i status) := by
  cases action with
  | run c =>
    simp only [step]
    cases runCpu_cases s c with
    | resume phase after =>
      rw [after]
      exact .inl (markRunning_sleeps inv phase blocked)
    | switch next phase after =>
      rw [after]
      exact .inl blocked
    | rest me phase current code after =>
      rw [after]
      exact .inl blocked
    | idle phase _ after =>
      rw [after]
      exact .inl (schedSection_sleeps inv phase blocked)
    | exec me op _ phase current code next after =>
      rw [after]
      rcases exec_sleeps inv phase current code blocked with still | woken
      · exact .inl still
      · exact .inr (.inr ⟨me, op, ⟨c, rfl, current, next⟩, woken⟩)
  | call c request =>
    left
    rcases step_call s c request with same | ⟨me, _, _, _, after⟩
    · rwa [same]
    · rw [after]
      exact blocked
  | preempt c =>
    left
    rcases step_preempt s c with same | ⟨me, _, _, after⟩
    · rwa [same]
    · rw [after]
      exact blocked
  | wake j =>
    by_cases it : i = j
    · exact .inr (.inl (by rw [it]))
    · exact .inl (schedUnblock_sleeps it blocked)

theorem step_blocks (action : Action n) (blocked : ((s.step action).tcb i).state = .blocked) :
    (s.tcb i).state = .blocked ∨ ∃ op, s.Executes action i op ∧
      (op = .block ∨ ∃ uaddr val curVal, op = .futexQueue uaddr val curVal) := by
  cases action with
  | run c =>
    simp only [step] at blocked
    cases runCpu_cases s c with
    | resume _ after => exact .inl (markRunning_blocked (after ▸ blocked))
    | switch _ _ after =>
      rw [after] at blocked
      exact .inl blocked
    | idle _ _ after => exact .inl (schedSection_blocked (after ▸ blocked))
    | rest _ _ _ _ after => exact .inl (after ▸ blocked)
    | exec me op rest _ current _ next after =>
      rw [after] at blocked
      rcases exec_blocks (s.setCode me rest) c me op blocked with still | ⟨it, kind⟩
      · exact .inl still
      · exact .inr ⟨op, ⟨c, rfl, it ▸ current, next⟩, kind⟩
  | call c request =>
    left
    rcases step_call s c request with same | ⟨me, _, _, _, after⟩
    · rwa [same] at blocked
    · rw [after] at blocked
      exact blocked
  | preempt c =>
    left
    rcases step_preempt s c with same | ⟨me, _, _, after⟩
    · rwa [same] at blocked
    · rw [after] at blocked
      exact blocked
  | wake => exact .inl (schedUnblock_blocked blocked)

end Blocked

section Slots

variable {s : Kernel n} {i : Slot}

inductive SlotFrame (s : Kernel n) (action : Action n) (s' : Kernel n) (i : Slot) : Prop where
  | lives (used : s'.used i = s.used i) (state : TaskState.Glides (s.tcb i).state (s'.tcb i).state)
  | dies (it : s.victim action = some i) (used : s'.used i = s.used i)
      (dead : (s'.tcb i).state = .dead)
  | taken (used : s'.used i = s.used i) (dead : (s.tcb i).state = .dead)
      (state : (s'.tcb i).state = .allocating)
  | claimed (free : s.used i = false) (state : (s'.tcb i).state = .allocating)

theorem SlotFrame.untouched (tcb : s'.tcb i = s.tcb i) (used : s'.used i = s.used i) :
    SlotFrame s action s' i :=
  .lives used (.inl (congrArg Tcb.state tcb))

theorem SlotFrame.setCode (frame : SlotFrame s action s' i) (me : Slot) (code : List (Op n)) :
    SlotFrame s action (s'.setCode me code) i := by
  cases frame with
  | lives used state => exact .lives used state
  | dies it used dead => exact .dies it used dead
  | taken used dead state => exact .taken used dead state
  | claimed free state => exact .claimed free state

theorem exec_slotFrame (inv : s.view.Inv) (phase : s.phase c = .running)
    (current : s.current c = some me) (code : s.code me = op :: rest) (other : op.owns ≠ some i) :
    SlotFrame s (.run c) (((s.setCode me rest).exec c me op).1) i := by
  have runs := live_of_next inv phase current code
  have away : ∀ j, op.owns = some j → i ≠ j := by
    rintro j it rfl
    exact other it
  generalize done : (s.setCode me rest).exec c me op = result
  cases exec_cases done with
  | idle _ _ idles =>
    exact .lives (congrFun (congrArg SchedView.used idles.view) i)
      (.inl (congrFun (congrArg SchedView.state idles.view) i))
  | schedule =>
    have frame := unscheduled_schedSection (s.setCode me rest) c
    refine .lives (congrFun (congrArg Kernel.used frame) i :) ?_
    simp only [schedSection_setCode]
    exact schedSection_glides inv phase i
  | sleep _ _ kind =>
    rcases kind with ⟨rfl, _⟩ | ⟨_, _, _, rfl⟩ <;>
      exact .lives rfl (setState_glides (s := s) (runs rfl rfl) rfl i)
  | wake j =>
    have frame := unscheduled_schedUnblock (s.setCode me rest) j
    exact .lives (congrFun (congrArg Kernel.used frame) i)
      (schedUnblock_glides (s.setCode me rest) j i)
  | take j found =>
    by_cases it : i = j
    · subst it
      exact .taken rfl (takes_dead inv code found).2 (by simp [take, setState, modify])
    · exact .untouched (by simp [take, setState, modify, setCode, it]) rfl
  | claim j _ free =>
    by_cases it : i = j
    · subst it
      exact .claimed free (by simp [setUsed, setState, modify])
    · exact .untouched (by simp [setUsed, setState, modify, setCode, it])
        (by simp [setUsed, setState, modify, setCode, it])
  | clear j => exact .untouched (by simp [modify, setCode, away j rfl]) rfl
  | abort j =>
    exact .untouched (by simp [filled, setUsed, setCode, modify, away j rfl])
      (by simp [filled, setUsed, setCode, modify, away j rfl])
  | init j => exact .untouched (by simp [filled, setCode, modify, away j rfl]) rfl
  | ready j => exact .untouched (by simp [setState, modify, setCode, away j rfl]) rfl
  | place j | destroy j => exact .untouched (by simp [modify, setCode, away j rfl]) rfl
  | free j => exact .untouched rfl (by simp [setUsed, setCode, away j rfl])
  | die =>
    by_cases it : i = me
    · subst it
      exact .dies (by simp [victim, nextOp, phase, current, code]) rfl (by simp [setState, modify])
    · exact .untouched (by simp [setState, modify, setCode, it]) rfl
  | mark j =>
    by_cases it : i = j
    · subst it
      exact .dies (by simp [victim, nextOp, phase, current, code]) rfl (by simp [modify])
    · exact .untouched (by simp [modify, setCode, it]) rfl
  | placed | insert | dequeue => exact .untouched rfl rfl

/-- Outside of the hands of the task that executes something, a slot is claimed, or its task lives
on, dies, or is taken for reclamation. -/
theorem step_slotFrame (inv : s.view.Inv) (action : Action n)
    (other : ∀ me op, s.Executes action me op → op.owns ≠ some i) :
    SlotFrame s action (s.step action) i := by
  have rests : ∀ {s' : Kernel n}, s'.unscheduled = s.unscheduled →
      TaskState.Glides (s.tcb i).state (s'.tcb i).state → SlotFrame s action s' i := by
    intro s' same state
    exact .lives (congrFun (congrArg Kernel.used same) i) state
  cases action with
  | run c =>
    simp only [step]
    cases runCpu_cases s c with
    | resume phase after =>
      rw [after]
      exact rests (unscheduled_markRunning s c) (markRunning_glides inv phase i)
    | switch next phase after =>
      rw [after]
      exact .untouched rfl rfl
    | rest me phase current code after =>
      rw [after]
      exact .untouched rfl rfl
    | idle phase _ after =>
      rw [after]
      exact rests (unscheduled_schedSection s c) (schedSection_glides inv phase i)
    | exec me op _ phase current code next after =>
      rw [after]
      exact (exec_slotFrame inv phase current code
        (other me op ⟨c, rfl, current, next⟩)).setCode me _
  | call c request =>
    rcases step_call s c request with same | ⟨me, _, _, _, after⟩
    · rw [same]
      exact .untouched rfl rfl
    · rw [after]
      exact .untouched rfl rfl
  | preempt c =>
    rcases step_preempt s c with same | ⟨me, _, _, after⟩
    · rw [same]
      exact .untouched rfl rfl
    · rw [after]
      exact .untouched rfl rfl
  | wake j => exact rests (unscheduled_schedUnblock s j) (schedUnblock_glides s j i)

end Slots

section Hands

variable {s : Kernel n} {i : Slot}

/-- How the work on a slot goes from hand to hand: what the pieces of code that have a slot in their
hands follow. -/
inductive Follows (s : Kernel n) : Op n → Op n → Prop where
  | take {op : Op n} {i : Slot} (it : s.takes op = some i) : Follows s op (.destroyPgd i)
  | claim {i : Slot} {birth : Birth} (free : s.used i = false) :
      Follows s (.claimSlot birth) (.clearTcb i birth)
  | clear {i : Slot} {birth : Birth} : Follows s (.clearTcb i birth) (.initTcb i birth)
  | init {i : Slot} {birth : Birth} (built : birth ≠ .fork none) :
      Follows s (.initTcb i birth) (.setReady i birth)
  | ready {i : Slot} {birth : Birth} : Follows s (.setReady i birth) (.place i birth)
  | place {i : Slot} {birth : Birth} {c : Fin n} : Follows s (.place i birth) (.insert i c)
  | destroy {i : Slot} : Follows s (.destroyPgd i) (.freeSlot i)

theorem exec_follows (inside : next ∈ ((s.setCode me rest).exec c me op).2)
    (it : next.owns = some i) : Follows s op next := by
  have nothing : ∀ ops : List (Op n), owned ops = [] → next ∉ ops := by
    intro ops none inside
    have mine : i ∈ owned ops := List.mem_filterMap.mpr ⟨next, inside, it⟩
    simp [none] at mine
  generalize done : (s.setCode me rest).exec c me op = result at inside
  cases exec_cases done with
  | idle _ _ idles => exact absurd inside (nothing _ idles.nothing)
  | sleep _ _ _ none => exact absurd inside (nothing _ none)
  | take _ found _ none =>
    rcases List.mem_cons.mp inside with rfl | later
    · exact .take found
    · exact absurd later (nothing _ none)
  | claim _ _ free =>
    cases List.mem_singleton.mp inside
    exact .claim free
  | clear =>
    cases List.mem_singleton.mp inside
    exact .clear
  | init _ _ built =>
    cases List.mem_singleton.mp inside
    exact .init built
  | ready _ birth =>
    rcases List.mem_cons.mp inside with rfl | more
    · exact .ready
    · cases birth <;> exact absurd more (nothing _ rfl)
  | place =>
    cases List.mem_singleton.mp inside
    exact .place
  | destroy =>
    cases List.mem_singleton.mp inside
    exact .destroy
  | die | schedule | wake | abort | placed | insert | free | dequeue | mark =>
    exact absurd inside (nothing _ rfl)

/-- Work on a slot that is ahead after a step was ahead before it, and the step did none of it; or
it follows what the step did. -/
theorem step_follows (inv : s.view.Inv) (action : Action n)
    (inside : next ∈ (s.step action).code j) (it : next.owns = some i) :
    (next ∈ s.code j ∧ ∀ me op, s.Executes action me op → op.owns ≠ some i) ∨
      ∃ op, s.Executes action j op ∧ s.Follows op next := by
  have idle : ∀ (me : Slot) (ops : List (Op n)), owned ops = [] →
      next ∈ (s.setCode me (ops ++ s.code me)).code j → next ∈ s.code j := by
    intro me ops nothing inside
    by_cases same : j = me
    · subst same
      rcases List.mem_append.mp (by simpa [setCode] using inside) with new | old
      · have mine : i ∈ owned ops := List.mem_filterMap.mpr ⟨next, new, it⟩
        simp [nothing] at mine
      · exact old
    · simpa [setCode, same] using inside
  cases step_cases s action with
  | scheduler none same =>
    rw [code_of_unscheduled same] at inside
    exact .inl ⟨inside, fun me op runs => absurd runs (none me op)⟩
  | call none me request code after =>
    have before : next ∈ s.code j := by
      apply idle me (request.code s me) (by cases request <;> rfl)
      rwa [code, List.append_nil, ← after]
    exact .inl ⟨before, fun me op runs => absurd runs (none me op)⟩
  | preempt none me after =>
    rw [after] at inside
    exact .inl ⟨idle me [.schedule] rfl inside, fun me op runs => absurd runs (none me op)⟩
  | exec c me op rest run _ current code ahead only after =>
    rw [after] at inside
    have kept := exec_code (s.setCode me rest) c me op
    rcases mem_code_after code kept inside with ⟨same, new⟩ | old
    · exact .inr ⟨op, ⟨c, run, same ▸ current, ahead⟩, exec_follows new it⟩
    · by_cases owns : op.owns = some i
      · -- the executed piece was the only one with the slot in its hands
        right
        have nobody := released inv code owns j
        by_cases same : j = me
        · subst same
          simp only [setCode, update_self, List.mem_append] at inside
          rcases inside with new | rests
          · exact ⟨op, ⟨c, run, current, ahead⟩, exec_follows new it⟩
          · exact absurd (List.mem_filterMap.mpr ⟨next, (kept j).subset rests, it⟩) nobody
        · simp only [setCode, update_of_ne same] at inside
          exact absurd (List.mem_filterMap.mpr ⟨next, (kept j).subset inside, it⟩) nobody
      · left
        refine ⟨old, fun other op' runs => ?_⟩
        rw [(only other op' runs).2]
        exact owns

end Hands

end Kernel

end AvatarKernel
