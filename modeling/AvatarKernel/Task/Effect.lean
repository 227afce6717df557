import AvatarKernel.Task.InvariantRun

namespace AvatarKernel

open Function

def TaskState.live : TaskState → Bool
  | .ready => true
  | .running => true
  | .blocked => true
  | _ => false

def TaskState.Glides (before after : TaskState) : Prop :=
  after = before ∨ before.live = true ∧ after.live = true

theorem TaskState.Glides.trans {a b c : TaskState} (first : a.Glides b) (second : b.Glides c) :
    a.Glides c := by
  rcases first with rfl | ⟨alive, _⟩
  · exact second
  · rcases second with rfl | ⟨_, lives⟩
    · exact .inr ⟨alive, ‹_›⟩
    · exact .inr ⟨alive, lives⟩

theorem SchedView.Moved.glides (move : Moved c v v') (inv : v.Inv) (i : Slot) :
    TaskState.Glides (v.state i) (v'.state i) := by
  have change : ∀ (j : Slot) (state : TaskState), (v.state j).live = true → state.live = true →
      TaskState.Glides (v.state i) (update v.state j state i) := by
    intro j state alive lives
    by_cases it : i = j
    · subst it
      exact .inr ⟨alive, by simpa using lives⟩
    · exact .inl (by simp [it])
  cases move with
  | stayIdle | departParked => exact .inl rfl
  | stay j _ _ running => exact change j .ready (by simp [running, TaskState.live]) rfl
  | departQueued j _ _ moves =>
    refine change j .ready ?_ rfl
    rcases moves with running | awake
    · simp [running, TaskState.live]
    · simp [(inv.wake j awake).2, TaskState.live]
  | arrive j _ _ queue =>
    have ready := (inv.queued c j (by simp [queue])).2.1
    exact change j .running (by simp [ready, TaskState.live]) rfl

def Tcb.unscheduled (t : Tcb) : Tcb :=
  { t with state := .ready, onCpu := false, wakePending := false }

namespace Op

variable {n : Nat}

/-- The slot that is being filled in for a new task. -/
def fills : Op n → Option Slot
  | .clearTcb i _ => some i
  | .initTcb i _ => some i
  | .setReady i _ => some i
  | _ => none

/-- The slot that is being reclaimed. -/
def frees : Op n → Option Slot
  | .destroyPgd i => some i
  | .freeSlot i => some i
  | _ => none

theorem owns_of_fills {op : Op n} (it : op.fills = some i) : op.owns = some i := by
  cases op <;> first | exact it | simp [fills] at it

theorem owns_of_frees {op : Op n} (it : op.frees = some i) : op.owns = some i := by
  cases op <;> first | exact it | simp [frees] at it

end Op

section Code

variable {n : Nat}

def filling (code : List (Op n)) : List Slot := code.filterMap Op.fills

def freeing (code : List (Op n)) : List Slot := code.filterMap Op.frees

theorem mem_owned_of_filling {code : List (Op n)} (inside : i ∈ filling code) : i ∈ owned code := by
  obtain ⟨op, mem, it⟩ := List.mem_filterMap.mp inside
  exact List.mem_filterMap.mpr ⟨op, mem, Op.owns_of_fills it⟩

theorem mem_owned_of_freeing {code : List (Op n)} (inside : i ∈ freeing code) : i ∈ owned code := by
  obtain ⟨op, mem, it⟩ := List.mem_filterMap.mp inside
  exact List.mem_filterMap.mpr ⟨op, mem, Op.owns_of_frees it⟩

end Code

namespace Kernel

variable {n : Nat} [NeZero n]

def unscheduled (s : Kernel n) : Kernel n :=
  { s with
    tcb := fun i => (s.tcb i).unscheduled
    queue := fun _ => []
    current := fun _ => none
    phase := fun _ => .running }

section Schedule

variable (s : Kernel n)

theorem unscheduled_modify (i : Slot) (change : Tcb → Tcb)
    (same : (change (s.tcb i)).unscheduled = (s.tcb i).unscheduled) :
    (s.modify i change).unscheduled = s.unscheduled := by
  have all : (fun j => ((s.modify i change).tcb j).unscheduled) = fun j =>
      (s.tcb j).unscheduled := by
    funext j
    by_cases it : j = i
    · subst it
      simpa [modify] using same
    · simp [modify, it]
  unfold unscheduled
  rw [all]
  rfl

theorem unscheduled_requeue (c : Fin n) : (s.requeue c).unscheduled = s.unscheduled := by
  unfold requeue
  split
  case h_1 prev _ =>
    split
    case isTrue => exact unscheduled_modify s prev (fun t => { t with state := .ready }) rfl
    case isFalse => rfl
  case h_2 => rfl

theorem unscheduled_pickNext (c : Fin n) : (s.pickNext c).1.unscheduled = s.unscheduled := by
  unfold pickNext
  split <;> rfl

theorem unscheduled_switchOut (c : Fin n) : (s.switchOut c).unscheduled = s.unscheduled := by
  unfold switchOut
  split
  case h_1 prev _ =>
    split
    case isTrue =>
      exact unscheduled_modify s prev
        (fun t => { t with onCpu := false, wakePending := false, state := .ready }) rfl
    case isFalse => exact unscheduled_modify s prev (fun t => { t with onCpu := false }) rfl
  case h_2 => rfl

theorem unscheduled_switchIn (next : Option Slot) :
    (s.switchIn next).unscheduled = s.unscheduled := by
  cases next with
  | none => rfl
  | some i =>
    exact unscheduled_modify s i (fun t => { t with state := .running, onCpu := true }) rfl

theorem unscheduled_schedSection (c : Fin n) : (s.schedSection c).unscheduled = s.unscheduled := by
  have picked : ((s.requeue c).pickNext c).1.unscheduled = s.unscheduled :=
    (unscheduled_pickNext _ c).trans (unscheduled_requeue s c)
  simp only [schedSection]
  split
  case isTrue => exact picked
  case isFalse =>
    exact ((unscheduled_switchIn _ _).trans (unscheduled_switchOut _ c)).trans picked

theorem unscheduled_schedUnblock (i : Slot) : (s.schedUnblock i).unscheduled = s.unscheduled := by
  unfold schedUnblock
  split
  case isTrue => rfl
  case isFalse =>
    split
    case isTrue =>
      exact unscheduled_modify s i (fun t => { t with state := .ready, wakePending := true }) rfl
    case isFalse => exact unscheduled_modify s i (fun t => { t with state := .ready }) rfl

theorem unscheduled_markRunning (c : Fin n) : (s.markRunning c).unscheduled = s.unscheduled := by
  unfold markRunning
  split
  case h_1 i _ => exact unscheduled_modify s i (fun t => { t with state := .running }) rfl
  case h_2 => rfl

theorem schedSection_glides {s : Kernel n} (inv : s.view.Inv) (phase : s.phase c = .running)
    (i : Slot) : TaskState.Glides (s.tcb i).state ((s.schedSection c).tcb i).state := by
  have all := (schedSection_moves inv phase).keep
    (P := fun v => ∀ i, TaskState.Glides (s.tcb i).state (v.state i)) inv (fun _ => .inl rfl)
    fun inv glides move i => (glides i).trans (move.glides inv i)
  exact all i

theorem schedUnblock_glides (i j : Slot) :
    TaskState.Glides (s.tcb j).state ((s.schedUnblock i).tcb j).state := by
  unfold schedUnblock
  split
  case isTrue => exact .inl rfl
  case isFalse asleep =>
    have blocked : (s.tcb i).state = .blocked := not_not.mp asleep
    by_cases same : j = i
    · subst same
      refine .inr ⟨by simp [blocked, TaskState.live], ?_⟩
      split <;> simp [insertLast, setQueue, setState, modify, TaskState.live]
    · refine .inl ?_
      split <;> simp [insertLast, setQueue, setState, modify, same]

end Schedule

def slots (s : Kernel n) : (Slot → Bool) × (Slot → Nat) × List (Slot × Nat) × List (Slot × Nat) :=
  (s.used, s.born, s.taken, s.freed)

theorem slots_of_unscheduled {s s' : Kernel n} (same : s'.unscheduled = s.unscheduled) :
    s'.slots = s.slots :=
  show s'.unscheduled.slots = s.unscheduled.slots from congrArg slots same

theorem code_of_unscheduled {s s' : Kernel n} (same : s'.unscheduled = s.unscheduled) :
    s'.code = s.code :=
  show s'.unscheduled.code = s.unscheduled.code from congrArg code same

structure Quiet (s s' : Kernel n) : Prop where
  slots : s'.slots = s.slots
  filling : ∀ j i, i ∈ filling (s'.code j) → i ∈ filling (s.code j)
  freeing : ∀ j i, i ∈ freeing (s'.code j) → i ∈ freeing (s.code j)

/-- The task that a step marks dead. -/
def victim (s : Kernel n) : Action n → Option Slot
  | .run c =>
    match s.nextOp c with
    | some .exitMark => s.current c
    | some (.groupMark i _) => some i
    | _ => none
  | _ => none

/-- What one step can do to the slots. -/
inductive SlotStep (s : Kernel n) (action : Action n) (s' : Kernel n) : Prop where
  /-- the tasks live on -/
  | quiet (quiet : Quiet s s') (state : ∀ i, TaskState.Glides (s.tcb i).state (s'.tcb i).state)
  /-- a task dies -/
  | die (i : Slot) (it : s.victim action = some i) (quiet : Quiet s s')
      (alive : (s.tcb i).state.live = true) (dead : (s'.tcb i).state = .dead)
      (others : ∀ j, j ≠ i → (s'.tcb j).state = (s.tcb j).state)
  /-- the control block of a new task is written -/
  | fill (i : Slot) (quiet : Quiet s s') (mine : ∃ j, i ∈ filling (s.code j))
      (state : (s'.tcb i).state = .allocating ∨ (s'.tcb i).state = .ready)
      (others : ∀ j, j ≠ i → (s'.tcb j).state = (s.tcb j).state)
  /-- a dead task is taken for reclamation -/
  | take (i : Slot) (used : s.used i = true) (dead : (s.tcb i).state = .dead)
      (slots : s'.slots = (s.used, s.born, (i, s.born i) :: s.taken, s.freed))
      (state : (s'.tcb i).state = .allocating)
      (others : ∀ j, j ≠ i → (s'.tcb j).state = (s.tcb j).state)
      (filling : ∀ j k, k ∈ filling (s'.code j) → k ∈ filling (s.code j))
      (freeing : ∀ j k, k ∈ freeing (s'.code j) → k = i ∨ k ∈ freeing (s.code j))
  /-- a free slot is claimed -/
  | claim (i : Slot) (free : s.used i = false)
      (slots : s'.slots = (update s.used i true, update s.born i (s.born i + 1), s.taken, s.freed))
      (state : (s'.tcb i).state = .allocating)
      (others : ∀ j, j ≠ i → (s'.tcb j).state = (s.tcb j).state)
      (filling : ∀ j k, k ∈ filling (s'.code j) → k = i ∨ k ∈ filling (s.code j))
      (freeing : ∀ j k, k ∈ freeing (s'.code j) → k ∈ freeing (s.code j))
  /-- a claimed slot is given back unused -/
  | abort (i : Slot) (mine : ∃ j, i ∈ filling (s.code j))
      (slots : s'.slots = (update s.used i false, s.born, s.taken, s.freed))
      (state : (s'.tcb i).state = .allocating)
      (others : ∀ j, j ≠ i → (s'.tcb j).state = (s.tcb j).state)
      (filling : ∀ j k, k ∈ filling (s'.code j) → k ∈ filling (s.code j))
      (freeing : ∀ j k, k ∈ freeing (s'.code j) → k ∈ freeing (s.code j))
  /-- a reclaimed slot becomes free -/
  | free (i : Slot) (mine : ∃ j, i ∈ freeing (s.code j))
      (slots : s'.slots = (update s.used i false, s.born, s.taken, (i, s.born i) :: s.freed))
      (state : ∀ j, (s'.tcb j).state = (s.tcb j).state)
      (filling : ∀ j k, k ∈ filling (s'.code j) → k ∈ filling (s.code j))
      (freeing : ∀ j k, k ∈ freeing (s'.code j) → k ≠ i ∧ k ∈ freeing (s.code j))

theorem exec_code_same (s : Kernel n) (c : Fin n) (me : Slot)
    (other : ∀ birth, op ≠ .initTcb j birth) : (s.exec c me op).1.code j = s.code j := by
  generalize done : s.exec c me op = result
  cases exec_cases done with
  | idle _ _ idles => exact congrFun (congrArg SchedView.code idles.view) j
  | schedule => exact congrFun (code_of_unscheduled (unscheduled_schedSection s c)) j
  | wake i => exact congrFun (code_of_unscheduled (unscheduled_schedUnblock s i)) j
  | abort i | init i birth =>
    have away : j ≠ i := by
      rintro rfl
      exact other _ rfl
    simp [filled, setUsed, setCode, modify, away]
  | _ => rfl

theorem exec_code (s : Kernel n) (c : Fin n) (me : Slot) (op : Op n) (j : Slot) :
    ((s.exec c me op).1.code j).Sublist (s.code j) := by
  by_cases clears : ∃ birth, op = .initTcb j birth
  · obtain ⟨birth, rfl⟩ := clears
    rcases initTcb_cases s c me j birth with after | after <;> rw [after] <;>
      simp [filled, setUsed, setCode]
  · rw [exec_code_same s c me fun birth it => clears ⟨birth, it⟩]

section Exec

variable {s : Kernel n} {c : Fin n} {me : Slot} {op : Op n} {rest : List (Op n)}

variable {ops : List (Op n)} {s' : Kernel n}

theorem mem_code_after (code : s.code me = op :: rest)
    (ahead : ∀ j, (s'.code j).Sublist ((s.setCode me rest).code j))
    (inside : other ∈ (s'.setCode me (ops ++ s'.code me)).code j) :
    j = me ∧ other ∈ ops ∨ other ∈ s.code j := by
  by_cases same : j = me
  · subst same
    simp only [setCode, update_self, List.mem_append] at inside
    rcases inside with new | old
    · exact .inl ⟨rfl, new⟩
    · have before := (ahead j).subset old
      simp only [setCode, update_self] at before
      exact .inr (code ▸ List.mem_cons_of_mem op before)
  · simp only [setCode, update_of_ne same] at inside
    have before := (ahead j).subset inside
    simp only [setCode, update_of_ne same] at before
    exact .inr before

variable {i : Slot} (pick : Op n → Option Slot)

theorem mem_filterMap_after (code : s.code me = op :: rest)
    (ahead : ∀ j, (s'.code j).Sublist ((s.setCode me rest).code j))
    (inside : i ∈ ((s'.setCode me (ops ++ s'.code me)).code j).filterMap pick) :
    j = me ∧ i ∈ ops.filterMap pick ∨ i ∈ (s.code j).filterMap pick := by
  obtain ⟨other, mem, it⟩ := List.mem_filterMap.mp inside
  rcases mem_code_after code ahead mem with ⟨here, new⟩ | old
  · exact .inl ⟨here, List.mem_filterMap.mpr ⟨other, new, it⟩⟩
  · exact .inr (List.mem_filterMap.mpr ⟨other, old, it⟩)

theorem mem_filterMap_next (code : s.code me = op :: rest) (it : pick op = some i) :
    i ∈ (s.code me).filterMap pick :=
  List.mem_filterMap.mpr ⟨op, by simp [code], it⟩

theorem mem_filterMap_kept (code : s.code me = op :: rest)
    (ahead : ∀ j, (s'.code j).Sublist ((s.setCode me rest).code j))
    (only : ∀ i, i ∈ ops.filterMap pick → pick op = some i)
    (inside : i ∈ ((s'.setCode me (ops ++ s'.code me)).code j).filterMap pick) :
    i ∈ (s.code j).filterMap pick := by
  rcases mem_filterMap_after pick code ahead inside with ⟨here, new⟩ | old
  · rw [here]
    exact mem_filterMap_next pick code (only i new)
  · exact old

theorem quiet_exec (code : s.code me = op :: rest) (same : s'.slots = s.slots)
    (ahead : ∀ j, (s'.code j).Sublist ((s.setCode me rest).code j))
    (fills : ∀ i, i ∈ filling ops → op.fills = some i)
    (frees : ∀ i, i ∈ freeing ops → op.frees = some i) :
    Quiet s (s'.setCode me (ops ++ s'.code me)) where
  slots := same
  filling _ _ inside := mem_filterMap_kept Op.fills code ahead fills inside
  freeing _ _ inside := mem_filterMap_kept Op.frees code ahead frees inside

theorem quiet_unowned (code : s.code me = op :: rest) (same : s'.slots = s.slots)
    (ahead : s'.code = (s.setCode me rest).code) (nothing : owned ops = []) :
    Quiet s (s'.setCode me (ops ++ s'.code me)) := by
  apply quiet_exec code same (fun j => by rw [ahead])
  · intro i inside
    have mine := mem_owned_of_filling inside
    simp [nothing] at mine
  · intro i inside
    have mine := mem_owned_of_freeing inside
    simp [nothing] at mine

variable {result : Kernel n × List (Op n)}

theorem plain_slots (code : s.code me = op :: rest) (same : result.1.slots = s.slots)
    (ahead : result.1.code = (s.setCode me rest).code)
    (state : ∀ i, (result.1.tcb i).state = (s.tcb i).state) (nothing : owned result.2 = []) :
    SlotStep s (.run c) (result.1.setCode me (result.2 ++ result.1.code me)) :=
  .quiet (quiet_unowned code same ahead nothing) fun i => .inl (state i)

theorem modify_state_same (s : Kernel n) (i : Slot) (change : Tcb → Tcb)
    (same : (change (s.tcb i)).state = (s.tcb i).state) (j : Slot) :
    ((s.modify i change).tcb j).state = (s.tcb j).state := by
  by_cases it : j = i
  · subst it
    simpa [modify] using same
  · simp [modify, it]

theorem setState_glides {state : TaskState} (alive : (s.tcb i).state.live = true)
    (lives : state.live = true) (j : Slot) :
    TaskState.Glides (s.tcb j).state ((s.setState i state).tcb j).state := by
  by_cases it : j = i
  · subst it
    exact .inr ⟨alive, by simpa [setState, modify] using lives⟩
  · exact .inl (setState_state_of_ne state it)

theorem take_slots (code : s.code me = op :: rest) (used : s.used i = true)
    (dead : (s.tcb i).state = .dead) (more : List (Op n)) (nothing : owned more = [])
    (taken : s' = (s.setCode me rest).take i) :
    SlotStep s (.run c) (s'.setCode me (.destroyPgd i :: more ++ s'.code me)) := by
  subst taken
  apply SlotStep.take i used dead rfl (by simp [take, setState, modify, setCode])
  · intro j other
    exact setState_state_of_ne _ other
  · intro j k inside
    rcases mem_filterMap_after Op.fills code (fun _ => .refl _) inside with ⟨_, new⟩ | old
    · have mine : k ∈ owned more := mem_owned_of_filling new
      simp [nothing] at mine
    · exact old
  · intro j k inside
    rcases mem_filterMap_after Op.frees code (fun _ => .refl _) inside with ⟨_, new⟩ | old
    · simp only [List.filterMap_cons, Op.frees, List.mem_cons] at new
      rcases new with it | new
      · exact .inl it
      · have mine : k ∈ owned more := mem_owned_of_freeing new
        simp [nothing] at mine
    · exact .inr old

theorem fill_slots (code : s.code me = op :: rest) (it : op.fills = some i)
    (same : result.1.slots = s.slots)
    (ahead : ∀ j, (result.1.code j).Sublist ((s.setCode me rest).code j))
    (state : (result.1.tcb i).state = .allocating ∨ (result.1.tcb i).state = .ready)
    (others : ∀ j, j ≠ i → (result.1.tcb j).state = (s.tcb j).state)
    (fills : ∀ k, k ∈ filling result.2 → k = i) (frees : freeing result.2 = []) :
    SlotStep s (.run c) (result.1.setCode me (result.2 ++ result.1.code me)) := by
  have quiet : Quiet s (result.1.setCode me (result.2 ++ result.1.code me)) := by
    apply quiet_exec code same ahead
    · intro k inside
      rw [fills k inside]
      exact it
    · simp [frees]
  exact .fill i quiet ⟨me, mem_filterMap_next Op.fills code it⟩ state others

theorem initTcb_slots (code : s.code me = .initTcb i birth :: rest)
    (done : (s.setCode me rest).exec c me (.initTcb i birth) = result) :
    SlotStep s (.run c) (result.1.setCode me (result.2 ++ result.1.code me)) := by
  have ahead : ∀ j, (((s.setCode me rest).filled me i birth).code j).Sublist
      ((s.setCode me rest).code j) := by
    intro j
    by_cases it : j = i
    · simp [filled, setCode, it]
    · simp [filled, setCode, modify, it]
  have state : (((s.setCode me rest).filled me i birth).tcb i).state = .allocating := by
    simp [filled, setCode, modify, newTcb_state]
  have others : ∀ j, j ≠ i →
      (((s.setCode me rest).filled me i birth).tcb j).state = (s.tcb j).state := by
    intro j other
    simp [filled, setCode, modify, other]
  rcases initTcb_cases (s.setCode me rest) c me i birth with
    after | after <;> rw [after] at done <;>
    subst done
  · refine .abort i ⟨me, mem_filterMap_next Op.fills code rfl⟩ rfl state others ?_ ?_
    · exact fun _ _ inside => mem_filterMap_kept Op.fills code ahead (by simp) inside
    · exact fun _ _ inside => mem_filterMap_kept Op.frees code ahead (by simp) inside
  · exact fill_slots code rfl rfl ahead (.inl state) others (by simp [filling, Op.fills]) rfl

theorem nextOp_some (next : s.nextOp c = some op) :
    ∃ me rest, s.phase c = .running ∧ s.current c = some me ∧ s.code me = op :: rest := by
  unfold nextOp at next
  split at next
  case h_1 me phase current =>
    obtain ⟨rest, code⟩ := List.head?_eq_some_iff.mp next
    exact ⟨me, rest, phase, current, code⟩
  case h_2 => cases next

theorem takes_spec (inv : s.view.Inv) (next : s.nextOp c = some op) (it : s.takes op = some i) :
    s.used i = true ∧ (s.tcb i).state = .dead := by
  obtain ⟨me, rest, _, _, code⟩ := nextOp_some next
  exact takes_dead inv code it

theorem Idles.slots (idles : Idles s op result) : result.1.slots = s.slots :=
  Prod.ext (congrArg SchedView.used idles.view)
    (Prod.ext (congrArg SchedView.born idles.view) (Prod.ext idles.logs.1 idles.logs.2))

theorem live_of_next (inv : s.view.Inv) (phase : s.phase c = .running)
    (current : s.current c = some me) (code : s.code me = op :: rest)
    (other : op.isSchedule = false)
    (alive : op.afterDeath = false) : (s.tcb me).state.live = true := by
  rw [running_of_next inv phase current code other alive]
  rfl

theorem exec_slots (inv : s.view.Inv) (phase : s.phase c = .running)
    (current : s.current c = some me) (code : s.code me = op :: rest)
    (marks : ∀ i status, op = .groupMark i status → (s.tcb i).state = .blocked)
    (done : (s.setCode me rest).exec c me op = result) :
    SlotStep s (.run c) (result.1.setCode me (result.2 ++ result.1.code me)) := by
  have runs := live_of_next inv phase current code
  cases exec_cases done with
  | idle _ _ idles =>
    exact plain_slots code idles.slots (congrArg SchedView.code idles.view)
      (congrFun (congrArg SchedView.state idles.view)) idles.nothing
  | schedule =>
    have frame := unscheduled_schedSection (s.setCode me rest) c
    refine .quiet
      (quiet_unowned code (slots_of_unscheduled frame :) (code_of_unscheduled frame) rfl) ?_
    intro i
    simp only [schedSection_setCode]
    exact schedSection_glides inv phase i
  | sleep _ _ kind nothing =>
    rcases kind with ⟨rfl, _⟩ | ⟨_, _, _, rfl⟩ <;>
      exact .quiet (quiet_unowned code rfl rfl nothing) fun i =>
        setState_glides (s := s) (runs rfl rfl) rfl i
  | wake i =>
    have frame := unscheduled_schedUnblock (s.setCode me rest) i
    exact .quiet (quiet_unowned code (slots_of_unscheduled frame :) (code_of_unscheduled frame) rfl)
      fun j => schedUnblock_glides (s.setCode me rest) i j
  | take _ it more nothing =>
    obtain ⟨used, dead⟩ := takes_dead inv code it
    exact take_slots code used dead more nothing rfl
  | claim i _ free =>
    apply SlotStep.claim (s := s) i free rfl (by simp [setUsed, setState, modify, setCode])
    · intro j other
      exact setState_state_of_ne _ other
    · intro j k inside
      rcases mem_filterMap_after Op.fills code (fun _ => .refl _) inside with ⟨_, new⟩ | old
      · exact .inl (by simpa [Op.fills] using new)
      · exact .inr old
    · intro j k inside
      rcases mem_filterMap_after Op.frees code (fun _ => .refl _) inside with ⟨_, new⟩ | old
      · simp [Op.frees] at new
      · exact old
  | clear =>
    exact fill_slots code rfl rfl (fun _ => .refl _) (.inr (by simp [modify, Tcb.zero]))
      (fun j other => by simp [modify, setCode, other]) (by simp [filling, Op.fills]) rfl
  | abort i | init i birth => exact initTcb_slots code done
  | ready _ birth =>
    refine fill_slots code rfl rfl (fun _ => .refl _) (.inr (by simp [setState, modify]))
      (fun j other => setState_state_of_ne _ other) ?_ ?_ <;>
      cases birth <;> simp [started, filling, freeing, Op.fills, Op.frees]
  | place i _ cpu =>
    exact .quiet (quiet_exec code rfl (fun _ => .refl _) (by simp [filling, Op.fills])
      (by simp [freeing, Op.frees])) fun j =>
        .inl (modify_state_same s i (fun t => { t with cpuAffinity := some cpu.val }) rfl j)
  | destroy i pgd =>
    exact .quiet (quiet_exec code rfl (fun _ => .refl _) (by simp [filling, Op.fills])
      (by simp [freeing, Op.frees])) fun j =>
        .inl (modify_state_same s i (fun t => { t with pgd := pgd }) rfl j)
  | free i =>
    refine SlotStep.free i ⟨me, mem_filterMap_next Op.frees code rfl⟩ rfl (fun _ => rfl) ?_ ?_
    · intro j k inside
      exact mem_filterMap_kept Op.fills code (fun _ => .refl _) (by simp) inside
    · intro j k inside
      refine ⟨?_, mem_filterMap_kept Op.frees code (fun _ => .refl _) (by simp) inside⟩
      rintro rfl
      apply released inv code rfl j
      apply mem_owned_of_freeing
      by_cases same : j = me
      · simpa [setCode, setUsed] using inside
      · simpa [setCode, setUsed, same] using inside
  | die =>
    exact .die me (by simp [victim, nextOp, phase, current, code]) (quiet_unowned code rfl rfl rfl)
      (runs rfl rfl) (by simp [setState, modify, setCode]) fun j other =>
        setState_state_of_ne (s := s) .dead other
  | placed | insert | dequeue => exact plain_slots code rfl rfl (fun _ => rfl) rfl
  | mark i status =>
    exact .die i (by simp [victim, nextOp, phase, current, code]) (quiet_unowned code rfl rfl rfl)
      (by simp [marks i status rfl, TaskState.live]) (by simp [modify, setCode])
      fun j other => by simp [modify, setCode, other]

end Exec

section Step

variable {s : Kernel n}

theorem quiet_of_unscheduled {s' : Kernel n} (same : s'.unscheduled = s.unscheduled) :
    Quiet s s' := by
  have code := code_of_unscheduled same
  exact ⟨slots_of_unscheduled same, fun j i inside => code ▸ inside, fun j i inside =>
    code ▸ inside⟩

theorem quiet_setCode (nothing : owned more = []) : Quiet s (s.setCode me (more ++ s.code me)) := by
  have kept : ∀ (pick : Op n → Option Slot), more.filterMap pick = [] → ∀ j i,
      i ∈ ((s.setCode me (more ++ s.code me)).code j).filterMap pick →
        i ∈ (s.code j).filterMap pick := by
    intro pick none j i inside
    by_cases same : j = me
    · subst same
      simpa only [setCode, update_self, List.filterMap_append, none, List.nil_append] using
        inside
    · simpa only [setCode, update_of_ne same] using inside
  refine ⟨rfl, kept Op.fills ?_, kept Op.frees ?_⟩
  · apply List.eq_nil_iff_forall_not_mem.mpr
    intro i inside
    have mine : i ∈ owned more := mem_owned_of_filling inside
    simp [nothing] at mine
  · apply List.eq_nil_iff_forall_not_mem.mpr
    intro i inside
    have mine : i ∈ owned more := mem_owned_of_freeing inside
    simp [nothing] at mine

theorem markRunning_glides (inv : s.view.Inv) (phase : s.phase c = .resuming) (i : Slot) :
    TaskState.Glides (s.tcb i).state ((s.markRunning c).tcb i).state := by
  cases current : s.current c with
  | none => exact .inl (by simp [markRunning, current, setPhase])
  | some j =>
    have ready : (s.tcb j).state = .ready := (inv.resuming c j phase current).1
    have glides : TaskState.Glides (s.tcb i).state ((s.setState j .running).tcb i).state :=
      setState_glides (by simp [ready, TaskState.live]) rfl i
    simpa [markRunning, current, setPhase] using glides

theorem runCpu_slots (inv : s.view.Inv) {c : Fin n}
    (marks : ∀ i status, s.nextOp c = some (.groupMark i status) → (s.tcb i).state = .blocked) :
    SlotStep s (.run c) (s.runCpu c) := by
  have idle : Quiet s s := ⟨rfl, fun _ _ inside => inside, fun _ _ inside => inside⟩
  cases runCpu_cases s c with
  | resume phase after =>
    rw [after]
    exact .quiet (quiet_of_unscheduled (unscheduled_markRunning s c)) fun i =>
      markRunning_glides inv phase i
  | switch _ _ after =>
    rw [after]
    exact .quiet (quiet_of_unscheduled rfl) fun i => .inl rfl
  | idle phase _ after =>
    rw [after]
    exact .quiet (quiet_of_unscheduled (unscheduled_schedSection s c)) fun i =>
      schedSection_glides inv phase i
  | rest _ _ _ _ after =>
    rw [after]
    exact .quiet idle fun i => .inl rfl
  | exec _ _ _ phase current code next after =>
    rw [after]
    exact exec_slots inv phase current code (fun i status it => marks i status (it ▸ next)) rfl

theorem step_slots (inv : s.view.Inv) (marks : s.MarksBlocked action) :
    SlotStep s action (s.step action) := by
  have idle : SlotStep s action s :=
    .quiet ⟨rfl, fun _ _ inside => inside, fun _ _ inside => inside⟩ fun i => .inl rfl
  cases action with
  | run c => exact runCpu_slots inv fun i status next => (marks c i status rfl next).1
  | call c request =>
    rcases step_call s c request with same | ⟨me, _, _, code, after⟩
    · rwa [same]
    · have quiet : Quiet s (s.setCode me (request.code s me ++ s.code me)) :=
        quiet_setCode (by cases request <;> rfl)
      rw [code, List.append_nil] at quiet
      rw [after]
      exact .quiet quiet fun i => .inl rfl
  | preempt c =>
    rcases step_preempt s c with same | ⟨me, _, _, after⟩
    · rwa [same]
    · have quiet : Quiet s (s.setCode me ([.schedule] ++ s.code me)) := quiet_setCode rfl
      rw [after]
      exact .quiet quiet fun i => .inl rfl
  | wake i =>
    exact .quiet (quiet_of_unscheduled (unscheduled_schedUnblock s i)) fun j =>
      schedUnblock_glides s i j

theorem step_code (s : Kernel n) (action : Action n) {j : Slot} (away : ∀ c, s.current c ≠ some j) :
    ((s.step action).code j).Sublist (s.code j) := by
  have same : ∀ {s' : Kernel n}, s'.code = s.code → (s'.code j).Sublist (s.code j) := by
    intro s' code
    rw [code]
  cases action with
  | run c =>
    simp only [step]
    cases runCpu_cases s c with
    | resume _ after =>
      rw [after]
      exact same (code_of_unscheduled (unscheduled_markRunning s c))
    | switch _ _ after =>
      rw [after]
      exact same rfl
    | idle _ _ after =>
      rw [after]
      exact same (code_of_unscheduled (unscheduled_schedSection s c))
    | rest _ _ _ _ after =>
      rw [after]
    | exec me op rest _ current _ _ after =>
      have other : j ≠ me := by
        rintro rfl
        exact away c current
      have kept := exec_code (s.setCode me rest) c me op j
      rw [after]
      simpa [setCode, other] using kept
  | call c request =>
    rcases step_call s c request with still | ⟨me, _, current, _, after⟩
    · rw [still]
    · have other : j ≠ me := by
        rintro rfl
        exact away c current
      rw [after]
      simp [setCode, other]
  | preempt c =>
    rcases step_preempt s c with still | ⟨me, _, current, after⟩
    · rw [still]
    · have other : j ≠ me := by
        rintro rfl
        exact away c current
      rw [after]
      simp [setCode, other]
  | wake i => exact same (code_of_unscheduled (unscheduled_schedUnblock s i))

end Step

end Kernel

end AvatarKernel
