import AvatarKernel.Task.Invariant

namespace AvatarKernel

open Function

structure Identity where
  id : Pid
  parentId : Pid
  tgid : Pid
  isUserProcess : Bool
  isThread : Bool
  sharesPgd : Bool
  pgd : Nat
  ctidPtr : Nat

def Tcb.identity (t : Tcb) : Identity where
  id := t.id
  parentId := t.parentId
  tgid := t.tgid
  isUserProcess := t.isUserProcess
  isThread := t.isThread
  sharesPgd := t.sharesPgd
  pgd := t.pgd
  ctidPtr := t.ctidPtr

namespace Kernel

variable {n : Nat} [NeZero n]

def view (s : Kernel n) : SchedView n where
  state i := (s.tcb i).state
  onCpu i := (s.tcb i).onCpu
  wake i := (s.tcb i).wakePending
  home := s.home
  used := s.used
  born := s.born
  queue := s.queue
  current := s.current
  phase := s.phase
  code := s.code

section View

variable (s : Kernel n) (i : Slot) (c : Fin n)

theorem home_modify (j : Slot) (change : Tcb → Tcb)
    (same : (change (s.tcb i)).cpuAffinity = (s.tcb i).cpuAffinity) :
    (s.modify i change).home j = s.home j := by
  by_cases it : j = i <;> simp [home, modify, it, same]

theorem view_modify (change : Tcb → Tcb)
    (same : (change (s.tcb i)).cpuAffinity = (s.tcb i).cpuAffinity) :
    (s.modify i change).view =
      { s.view with
        state := update s.view.state i (change (s.tcb i)).state
        onCpu := update s.view.onCpu i (change (s.tcb i)).onCpu
        wake := update s.view.wake i (change (s.tcb i)).wakePending } := by
  have home : (s.modify i change).home = s.home := funext fun j => home_modify s i j change same
  unfold view
  rw [home]
  congr 1 <;> funext j <;> by_cases it : j = i <;> simp [modify, it]

theorem view_modify_other (change : Tcb → Tcb) (state : (change (s.tcb i)).state = (s.tcb i).state)
    (onCpu : (change (s.tcb i)).onCpu = (s.tcb i).onCpu)
    (wakePending : (change (s.tcb i)).wakePending = (s.tcb i).wakePending)
    (affinity : (change (s.tcb i)).cpuAffinity = (s.tcb i).cpuAffinity) :
    (s.modify i change).view = s.view := by
  rw [view_modify s i change affinity, state, onCpu, wakePending]
  simp [view]

theorem view_setState (state : TaskState) :
    (s.setState i state).view =
      { s.view with state := update s.view.state i state } := by
  rw [setState, view_modify _ _ _ (by rfl)]
  simp [view]

theorem view_setCode (code : List (Op n)) :
    (s.setCode i code).view = { s.view with code := update s.view.code i code } := rfl

theorem view_setQueue (queue : List Slot) :
    (s.setQueue c queue).view = { s.view with queue := update s.view.queue c queue } := rfl

theorem view_insertLast :
    (s.insertLast c i).view =
      { s.view with queue := update s.view.queue c (s.view.queue c ++ [i]) } := rfl

theorem view_setPhase (phase : Phase) :
    (s.setPhase c phase).view = { s.view with phase := update s.view.phase c phase } := rfl

end View

theorem schedUnblock_inv {s : Kernel n} (inv : s.view.Inv) (i : Slot) :
    (s.schedUnblock i).view.Inv := by
  unfold schedUnblock
  split
  case isTrue => exact inv
  case isFalse asleep =>
    have blocked : (s.tcb i).state = .blocked := not_not.mp asleep
    split
    case isTrue seat =>
      rw [view_modify _ _ _ (by rfl)]
      simpa [view] using inv.wakeSeated blocked seat
    case isFalse off =>
      rw [view_insertLast, view_setState]
      exact inv.wakeQueued blocked (Bool.eq_false_iff.mpr off)

end Kernel

inductive SchedView.Moved {n : Nat} (c : Fin n) (v : SchedView n) : SchedView n → Prop where
  /-- there is nothing to switch to from the idle task -/
  | stayIdle (phase : v.phase c = .running) (current : v.current c = none) :
      Moved c v { v with phase := update v.phase c .resuming }
  /-- there is nothing to switch to from a running task -/
  | stay (i : Slot) (phase : v.phase c = .running) (current : v.current c = some i)
      (running : v.state i = .running) :
      Moved c v { v with
        state := update v.state i .ready
        phase := update v.phase c .resuming }
  /-- the current task leaves the CPU for its queue -/
  | departQueued (i : Slot) (phase : v.phase c = .running) (current : v.current c = some i)
      (moves : v.state i = .running ∨ v.wake i = true) :
      Moved c v { v with
        state := update v.state i .ready
        onCpu := update v.onCpu i false
        wake := update v.wake i false
        queue := update v.queue c (v.queue c ++ [i])
        phase := update v.phase c (.switching none) }
  /-- the current task leaves the CPU, blocked or dead -/
  | departParked (i : Slot) (phase : v.phase c = .running) (current : v.current c = some i)
      (rests : v.state i ≠ .running) (asleep : v.wake i = false) :
      Moved c v { v with
        onCpu := update v.onCpu i false
        phase := update v.phase c (.switching none) }
  /-- the first task of the queue comes to the CPU -/
  | arrive (i : Slot) (rest : List Slot) (empty : v.holder c = none) (queue : v.queue c = i :: rest)
      (other : v.current c ≠ some i) :
      Moved c v { v with
        state := update v.state i .running
        onCpu := update v.onCpu i true
        queue := update v.queue c rest
        phase := update v.phase c (.switching (some i)) }

/-- One or two moves. -/
inductive SchedView.Scheduled {n : Nat} (c : Fin n) (v v' : SchedView n) : Prop where
  | one (move : Moved c v v')
  | two (middle : SchedView n) (first : Moved c v middle) (second : Moved c middle v')

namespace SchedView

variable {n : Nat} {c : Fin n} {v v' : SchedView n}

theorem Moved.inv (move : Moved c v v') (inv : v.Inv) : v'.Inv := by
  cases move with
  | stayIdle phase current => exact inv.stayIdle phase current
  | stay _ phase current running => exact inv.stay phase current running
  | departQueued _ phase current => exact inv.departQueued phase current
  | departParked _ phase current rests asleep => exact inv.departParked phase current rests asleep
  | arrive _ _ empty queue other => exact inv.arrive empty queue other

theorem Scheduled.keep {P : SchedView n → Prop} (moves : Scheduled c v v') (inv : v.Inv)
    (holds : P v)
    (move : ∀ {v v' : SchedView n}, v.Inv → P v → Moved c v v' → P v') : P v' := by
  cases moves with
  | one only => exact move inv holds only
  | two _ first second => exact move (first.inv inv) (move inv holds first) second

theorem Scheduled.inv (moves : Scheduled c v v') (inv : v.Inv) : v'.Inv :=
  moves.keep inv inv fun inv _ move => move.inv inv

structure Frame (c : Fin n) (v v' : SchedView n) : Prop where
  code : v'.code = v.code
  current : v'.current = v.current
  used : v'.used = v.used
  home : v'.home = v.home
  phases : ∀ d, d ≠ c → v'.phase d = v.phase d

theorem Moved.frame (move : Moved c v v') : Frame c v v' ∧ v'.phase c ≠ .running := by
  cases move <;>
    exact ⟨⟨rfl, rfl, rfl, rfl, fun d other => update_of_ne other ..⟩, by simp⟩

theorem Scheduled.frame (moves : Scheduled c v v') : Frame c v v' ∧ v'.phase c ≠ .running := by
  cases moves with
  | one only => exact only.frame
  | two _ first second =>
    obtain ⟨code, current, used, home, phases⟩ := first.frame.1
    obtain ⟨code', current', used', home', phases'⟩ := second.frame.1
    exact ⟨⟨code'.trans code, current'.trans current, used'.trans used, home'.trans home,
      fun d other => (phases' d other).trans (phases d other)⟩, second.frame.2⟩

end SchedView

namespace Kernel

open SchedView

variable {n : Nat} [NeZero n]

variable {c : Fin n} {s : Kernel n}

theorem schedSection_idle (phase : s.phase c = .running) (current : s.current c = none) :
    Moved c s.view (s.schedSection c).view := by
  cases queue : s.queue c with
  | nil =>
    have section' : s.schedSection c = s.setPhase c .resuming := by
      simp [schedSection, requeue, pickNext, current, queue]
    rw [section']
    exact .stayIdle phase current
  | cons i rest =>
    have section' : s.schedSection c =
        ((s.setQueue c rest).modify i fun t => { t with state := .running, onCpu := true }).setPhase
          c (.switching (some i)) := by
      simp [schedSection, requeue, pickNext, current, queue, switchOut, switchIn, setQueue]
    have holder : s.view.holder c = none := by
      simp [holder, view, phase, current]
    have arrived := Moved.arrive i rest holder queue (by simp [view, current])
    rw [section', view_setPhase, view_modify _ _ _ (by rfl), view_setQueue]
    simpa [view, setQueue] using arrived

variable {prev : Slot}

theorem schedSection_stay (phase : s.phase c = .running) (current : s.current c = some prev)
    (running : (s.tcb prev).state = .running) (queue : s.queue c = []) :
    Moved c s.view (s.schedSection c).view := by
  have section' : s.schedSection c =
      (((s.setState prev .ready).insertLast c prev).setQueue c []).setPhase c .resuming := by
    simp [schedSection, requeue, pickNext, current, running, queue, insertLast, setQueue, setState,
      modify]
  have same : update s.view.queue c [] = s.view.queue := by
    rw [← queue]
    exact update_eq_self c s.queue
  rw [section', view_setPhase, view_setQueue, view_insertLast, view_setState]
  simpa [same] using Moved.stay (v := s.view) prev phase current running

def departed (s : Kernel n) (c : Fin n) (prev : Slot) : Kernel n :=
  if (s.tcb prev).state = .running ∨ (s.tcb prev).wakePending = true then
    ((s.modify prev fun t =>
      { t with onCpu := false, wakePending := false, state := .ready }).insertLast c
        prev).setPhase c
        (.switching none)
  else (s.modify prev fun t => { t with onCpu := false }).setPhase c (.switching none)

theorem departed_moved (phase : s.phase c = .running) (current : s.current c = some prev) :
    Moved c s.view (s.departed c prev).view := by
  unfold departed
  split
  case isTrue moves =>
    rw [view_setPhase, view_insertLast, view_modify _ _ _ (by rfl)]
    simpa [view] using Moved.departQueued (v := s.view) prev phase current moves
  case isFalse rests =>
    obtain ⟨still, awake⟩ := not_or.mp rests
    rw [view_setPhase, view_modify _ _ _ (by rfl)]
    simpa [view] using Moved.departParked (v := s.view) prev phase current still
      (Bool.eq_false_iff.mpr awake)

theorem departed_queue (s : Kernel n) (c : Fin n) (prev : Slot) :
    (s.departed c prev).phase c = .switching none ∧
      ∃ more, (s.departed c prev).queue c = s.queue c ++ more := by
  unfold departed
  split
  case isTrue =>
    exact ⟨by simp [setPhase], [prev], by simp [setPhase, insertLast, setQueue, modify]⟩
  case isFalse => exact ⟨by simp [setPhase], [], by simp [setPhase, modify]⟩

theorem schedSection_nil (current : s.current c = some prev) (rests : (s.tcb prev).state ≠ .running)
    (queue : s.queue c = []) : s.schedSection c = s.departed c prev := by
  by_cases awake : (s.tcb prev).wakePending = true <;>
    simp [schedSection, requeue, pickNext, current, rests, queue, switchOut, switchIn,
      departed, awake]

theorem schedSection_cons (inv : s.view.Inv) (current : s.current c = some prev)
    (queue : s.queue c = i :: rest) (other : prev ≠ i) :
    (s.schedSection c).view =
      { (s.departed c prev).view with
        state := update (s.departed c prev).view.state i .running
        onCpu := update (s.departed c prev).view.onCpu i true
        queue := update (s.departed c prev).view.queue c
          ((s.departed c prev).queue c).tail
        phase := update (s.departed c prev).view.phase c (.switching (some i)) } := by
  by_cases running : (s.tcb prev).state = .running
  · have calm : (s.tcb prev).wakePending = false := by
      apply Bool.eq_false_iff.mpr
      intro awake
      have ready := (inv.wake prev awake).2
      simp only [view, running] at ready
      contradiction
    have section' : s.schedSection c =
        ((((((s.setState prev .ready).insertLast c prev).setQueue c (rest ++ [prev])).modify prev
          fun t => { t with onCpu := false }).modify i fun t =>
            { t with state := .running, onCpu := true }).setPhase c (.switching (some i))) := by
      simp [schedSection, requeue, pickNext, current, running, queue, switchOut,
        switchIn, insertLast, setQueue, setState, modify, calm, other.symm]
    rw [section', departed, if_pos (.inl running)]
    rw [view_setPhase, view_modify _ _ _ (by rfl), view_modify _ _ _ (by rfl), view_setQueue,
      view_insertLast, view_setState, view_setPhase, view_insertLast, view_modify _ _ _ (by rfl)]
    simp [view, queue, insertLast, setQueue, setState, modify, other.symm, setPhase, calm]
  · by_cases awake : (s.tcb prev).wakePending = true
    · have section' : s.schedSection c = (((((s.setQueue c rest).modify prev fun t =>
          { t with onCpu := false, wakePending := false, state := .ready }).insertLast c
            prev).modify i
            fun t => { t with state := .running, onCpu := true }).setPhase c
              (.switching (some i))) := by
        simp [schedSection, requeue, pickNext, current, running, queue, switchOut,
          switchIn, insertLast, setQueue, modify, awake, other.symm]
      rw [section', departed, if_pos (.inr awake)]
      rw [view_setPhase, view_modify _ _ _ (by rfl), view_insertLast, view_modify _ _ _ (by rfl),
        view_setQueue, view_setPhase, view_insertLast, view_modify _ _ _ (by rfl)]
      simp [view, queue, insertLast, setQueue, modify, other.symm, setPhase]
    · have section' : s.schedSection c =
        ((((s.setQueue c rest).modify prev fun t => { t with onCpu := false }).modify i
            fun t => { t with state := .running, onCpu := true }).setPhase c
              (.switching (some i))) := by
        simp [schedSection, requeue, pickNext, current, running, queue, switchOut, switchIn,
          setQueue, modify, awake, other.symm]
      rw [section', departed, if_neg (not_or.mpr ⟨running, awake⟩)]
      rw [view_setPhase, view_modify _ _ _ (by rfl), view_modify _ _ _ (by rfl),
        view_setQueue, view_setPhase, view_modify _ _ _ (by rfl)]
      simp [view, queue, setQueue, modify, other.symm, setPhase]

theorem schedSection_moves (inv : s.view.Inv) (phase : s.phase c = .running) :
    Scheduled c s.view (s.schedSection c).view := by
  cases current : s.current c with
  | none => exact .one (schedSection_idle phase current)
  | some prev =>
    have left := departed_moved phase current
    cases queue : s.queue c with
    | nil =>
      by_cases running : (s.tcb prev).state = .running
      · exact .one (schedSection_stay phase current running queue)
      · rw [schedSection_nil current running queue]
        exact .one left
    | cons i =>
      have seat : (s.tcb prev).onCpu = true := inv.seated c prev (by simp [view, phase]) current
      have off := (inv.queued c i (by simp [view, queue])).2.2.1
      have other : prev ≠ i := by
        rintro rfl
        simp [view, seat] at off
      obtain ⟨switching, more, after⟩ := departed_queue s c prev
      have first : (s.departed c prev).view.queue c = i :: ((s.departed c prev).queue c).tail := by
        simp [view, after, queue]
      have still : (s.departed c prev).view.current c = some prev :=
        (congrFun left.frame.1.current c).trans current
      rw [schedSection_cons inv current queue other]
      exact .two _ left (.arrive i _ (by simp [holder, view, switching]) first
        (by simp [still, other]))

def nextOp (s : Kernel n) (c : Fin n) : Option (Op n) :=
  match s.phase c, s.current c with
  | .running, some me => (s.code me).head?
  | _, _ => none

def takes (s : Kernel n) : Op n → Option Slot
  | .reap i => if (s.tcb i).state = .dead then some i else none
  | .orphanScan _ => s.orphan
  | _ => none

def ReapsIdle (s : Kernel n) (action : Action n) : Prop :=
  ∀ c op i, action = .run c → s.nextOp c = some op → s.takes op = some i →
    (s.tcb i).onCpu = false ∧ ∀ d, s.current d ≠ some i

/-- A step of `exit_group_handler` marks no thread dead but one that is blocked and has left its
CPU. -/
def MarksBlocked (s : Kernel n) (action : Action n) : Prop :=
  ∀ c i status, action = .run c → s.nextOp c = some (.groupMark i status) →
    (s.tcb i).state = .blocked ∧ (s.tcb i).onCpu = false

section Exec

variable {s : Kernel n} {c : Fin n} {me : Slot} {op : Op n} {rest : List (Op n)}

theorem plain_inv (inv : s.view.Inv) (phase : s.phase c = .running)
    (current : s.current c = some me) (code : s.code me = op :: rest)
    (other : op.isSchedule = false) {s' : Kernel n} (same : s'.view = (s.setCode me rest).view)
    (nothing : owned ops = []) (reaps : ∀ i, i ∈ reaped ops → s.born i ≠ 0)
    (dies : op.afterDeath = true → ∀ op ∈ ops, op.afterDeath = true) :
    (s'.setCode me (ops ++ s'.code me)).view.Inv := by
  have popped := inv.pop code other
  have ahead : s'.code me = rest := by
    have all := congrFun (congrArg SchedView.code same) me
    simpa [view, setCode] using all
  have free : s.view.state me = .running ∨
      (s.view.state me = .dead ∧ dying (ops ++ rest) = true) := by
    rcases inv.active phase current code other with running | ⟨dead, after, rest⟩
    · exact .inl running
    · exact .inr ⟨dead, dying_append (dies after) rest⟩
  rw [view_setCode, same, ahead, view_setCode]
  simpa using popped.push me ops nothing reaps (by simpa using free)

theorem schedule_inv (inv : s.view.Inv) (phase : s.phase c = .running)
    (current : s.current c = some me) (code : s.code me = .schedule :: rest) :
    ((s.schedSection c).setCode me rest).view.Inv := by
  have moves := schedSection_moves inv phase
  obtain ⟨frame, left⟩ := moves.frame
  have same : (s.schedSection c).view.code me = .schedule :: rest :=
    (congrFun frame.code me).trans code
  rw [view_setCode]
  apply (moves.inv inv).drop me rest
  · rw [same]
    exact List.sublist_cons_self _ rest
  · -- the task is current nowhere else, and this CPU is in the middle of the switch
    intro d running seat
    have here : d = c := by
      have there : s.current d = some me := by
        rw [← show (s.schedSection c).current = s.current from frame.current]
        exact seat
      exact (inv.currentHome d me there).symm.trans (inv.currentHome c me current)
    exact absurd (here ▸ running) left

variable {i : Slot}

section

variable (inv : s.view.Inv)

include inv

theorem released (code : s.code me = op :: rest) (it : op.owns = some i) (j : Slot) :
    i ∉ owned ((s.setCode me rest).code j) := by
  have mine : i ∈ owned (s.view.code me) := by
    simp [view, code, owned_cons_some it]
  have once := inv.claimNodup me
  by_cases same : j = me
  · subst same
    simp only [view, code, owned_cons_some it, List.nodup_cons] at once
    simpa [setCode] using once.1
  · intro theirs
    simp only [setCode, update_of_ne same] at theirs
    exact same (inv.claimOne i j me theirs mine)

theorem aside_of_next (code : s.code me = op :: rest) (it : op.owns = some i) :
    (s.setCode me rest).view.Aside i := by
  have aside : s.view.Aside i := by
    apply inv.claim i me
    simp [view, code, owned_cons_some it]
  exact ⟨aside.used, aside.state, aside.onCpu, aside.current, aside.queued⟩

theorem asleep_of_aside {i : Slot} (aside : s.view.Aside i) :
    (s.tcb i).wakePending = false := by
  apply Bool.eq_false_iff.mpr
  intro awake
  have seat := (inv.wake i awake).1
  simp [aside.onCpu] at seat

theorem rewrite_inv (aside : s.view.Aside i) (nobody : ∀ j, i ∉ owned (s.code j))
    (change : Tcb → Tcb) (off : (change (s.tcb i)).onCpu = false)
    (calm : (change (s.tcb i)).wakePending = false)
    (stays : (change (s.tcb i)).state = .allocating ∨ (change (s.tcb i)).state = .ready) :
    (s.modify i change).view.Inv ∧ (s.modify i change).view.Aside i := by
  have asleep := asleep_of_aside inv aside
  have same : (s.modify i change).view =
      { s.view with
        state := update s.view.state i (change (s.tcb i)).state
        home := update s.view.home i ((s.modify i change).home i) } := by
    have off' : (s.tcb i).onCpu = false := aside.onCpu
    ext j
    · by_cases it : j = i <;> simp [view, modify, it]
    · by_cases it : j = i <;> simp [view, modify, it, off, off']
    · by_cases it : j = i <;> simp [view, modify, it, calm, asleep]
    · by_cases it : j = i <;> simp [view, modify, home, it]
    all_goals rfl
  have stay : (s.modify i change).view.Aside i := by
    rw [same]
    exact ⟨aside.used, by simpa using stays, aside.onCpu, aside.current, aside.queued⟩
  refine ⟨?_, stay⟩
  rw [same]
  exact inv.rewrite aside nobody stays

theorem hold_inv (more : List (Op n)) (it : op.owns = some i) (aside : s.view.Aside i)
    (nobody : ∀ j, i ∉ owned (s.code j)) (ready : op.publishes = some i → (s.tcb i).state = .ready)
    (place : ∀ d, op = .insert i d → s.home i = d) (running : (s.tcb me).state = .running)
    (nothing : owned more = []) (reaps : reaped more = []) :
    (s.setCode me (op :: more ++ s.code me)).view.Inv := by
  have pushed := inv.push me more nothing (by simp [reaps]) (.inl running)
  have unowned : ∀ j, i ∉ owned ((s.setCode me (more ++ s.code me)).code j) := by
    intro j
    by_cases same : j = me
    · subst same
      simpa [setCode, owned_append, nothing] using nobody j
    · simpa [setCode, same] using nobody j
  have held := SchedView.Inv.own (v := (s.setCode me (more ++ s.code me)).view) pushed it
    ⟨aside.used, aside.state, aside.onCpu, aside.current, aside.queued⟩ unowned ready place running
  simpa [view_setCode] using held

theorem leave_inv (phase : s.phase c = .running) (current : s.current c = some me)
    (running : (s.tcb me).state = .running) {state : TaskState}
    (rests : state = .blocked ∨ state = .dead) (ops : List (Op n)) (nothing : owned ops = [])
    (reaps : reaped ops = []) (keeps : Disciplined state false (ops ++ s.code me)) :
    ((s.setState me state).setCode me (ops ++ s.code me)).view.Inv := by
  have pushed := inv.push me ops nothing (by simp [reaps]) (.inl running)
  have left :=
    SchedView.Inv.leave (v := (s.setCode me (ops ++ s.code me)).view) pushed phase current
    running rests (by simpa [view, setCode] using keeps)
  rw [view_setCode, view_setState]
  exact left

theorem take_inv (dead : (s.tcb i).state = .dead) (used : s.used i = true)
    (off : (s.tcb i).onCpu = false) (away : ∀ d, s.current d ≠ some i) :
    (s.take i).view.Inv ∧ (s.take i).view.Aside i ∧ ∀ j, i ∉ owned ((s.take i).code j) := by
  have same : (s.take i).view = { s.view with state := update s.view.state i .allocating } :=
    view_setState s i .allocating
  have unqueued : ∀ d, i ∉ s.queue d := by
    intro d inside
    have ready := (inv.queued d i inside).2.1
    simp [view, dead] at ready
  refine ⟨?_, ?_, ?_⟩
  · rw [same]
    exact inv.take dead off away
  · rw [same]
    exact ⟨used, by simp, off, away, unqueued⟩
  · intro j mine
    have state := (inv.claim i j mine).state
    simp [view, dead] at state

end

theorem orphan_spec (found : s.orphan = some i) : s.used i = true ∧ (s.tcb i).state = .dead := by
  have reapable := List.find?_some found
  simp only [reapableOrphan, Bool.and_eq_true, decide_eq_true_eq] at reapable
  exact reapable.1

theorem modify_state_of_ne (change : Tcb → Tcb) (other : j ≠ i) :
    ((s.modify i change).tcb j).state = (s.tcb j).state := by
  simp [modify, other]

theorem setState_state_of_ne (state : TaskState) (other : j ≠ i) :
    ((s.setState i state).tcb j).state = (s.tcb j).state := modify_state_of_ne _ other

theorem setCode_self (s : Kernel n) (i : Slot) : s.setCode i ([] ++ s.code i) = s := by
  simp [setCode]

theorem pop_inv (inv : s.view.Inv) (code : s.code me = op :: rest) (other : op.isSchedule = false) :
    (s.setCode me rest).view.Inv := inv.pop code other

theorem takeHeld_inv (inv : s.view.Inv) (current : s.current c = some me)
    (running : (s.tcb me).state = .running) (dead : (s.tcb i).state = .dead)
    (used : s.used i = true)
    (idle : (s.tcb i).onCpu = false ∧ ∀ d, s.current d ≠ some i) (more : List (Op n))
    (nothing : owned more = []) (reaps : reaped more = []) :
    ((s.take i).setCode me (.destroyPgd i :: more ++ (s.take i).code me)).view.Inv := by
  have distinct : me ≠ i := by
    rintro rfl
    exact idle.2 c current
  obtain ⟨taken, aside, nobody⟩ := take_inv inv dead used idle.1 idle.2
  apply hold_inv taken more rfl aside nobody
  · simp [Op.publishes]
  · simp
  · exact (setState_state_of_ne _ distinct).trans running
  · exact nothing
  · exact reaps

theorem claimSlot_inv (inv : s.view.Inv) (running : (s.tcb me).state = .running)
    (free : s.used i = false) (birth : Birth) {s' : Kernel n}
    (claimed : s' = { (s.setState i .allocating).setUsed i true with
      born := update s.born i (s.born i + 1) }) :
    (s'.setCode me (.clearTcb i birth :: [] ++ s'.code me)).view.Inv := by
  have distinct : me ≠ i := by
    rintro rfl
    have seat := inv.running me running
    simp [(inv.unused me free).2.1] at seat
  have same : s'.view = { s.view with
      state := update s.view.state i .allocating
      used := update s.view.used i true
      born := update s.view.born i (s.view.born i + 1) } := by
    have state := congrArg SchedView.state (view_setState s i .allocating)
    have home := congrArg SchedView.home (view_setState s i .allocating)
    have onCpu := congrArg SchedView.onCpu (view_setState s i .allocating)
    have wake := congrArg SchedView.wake (view_setState s i .allocating)
    subst claimed
    ext1
    · exact state
    · exact onCpu
    · exact wake
    · exact home
    all_goals rfl
  have unqueued : ∀ d, i ∉ s.queue d := by
    intro d inside
    have used := (inv.queued d i inside).2.2.2
    simp [view, free] at used
  have unowned : ∀ j, i ∉ owned (s.code j) := by
    intro j mine
    have used := (inv.claim i j mine).used
    simp [view, free] at used
  have after : s'.view.Inv := by
    rw [same]
    exact inv.claimFresh free
  apply hold_inv after [] rfl
  · rw [same]
    exact ⟨by simp, by simp, (inv.unused i free).2.1, (inv.unused i free).2.2, unqueued⟩
  · subst claimed
    exact unowned
  · simp [Op.publishes]
  · simp
  · subst claimed
    exact (setState_state_of_ne .allocating distinct).trans running
  · rfl
  · rfl

theorem rewriteHeld_inv (inv : s.view.Inv) (current : s.current c = some me)
    (running : (s.tcb me).state = .running) (code : s.code me = op :: rest)
    (other : op.isSchedule = false) (it : op.owns = some i) (change : Tcb → Tcb)
    (off : (change (s.tcb i)).onCpu = false) (calm : (change (s.tcb i)).wakePending = false)
    (stays : (change (s.tcb i)).state = .allocating ∨ (change (s.tcb i)).state = .ready)
    (next : Op n) (more : List (Op n)) (keeps : next.owns = some i)
    (ready : next.publishes = some i → (change (s.tcb i)).state = .ready)
    (place : ∀ d, next = .insert i d → (s.modify i change).home i = d) (nothing : owned more = [])
    (reaps : reaped more = []) :
    (((s.setCode me rest).modify i change).setCode me (next :: more ++
      ((s.setCode me rest).modify i change).code me)).view.Inv := by
  have aside := aside_of_next inv code it
  have distinct : me ≠ i := by
    rintro rfl
    exact aside.current c current
  obtain ⟨after, still⟩ := rewrite_inv (pop_inv inv code other) aside (released inv code it) change
    off calm stays
  apply hold_inv after more keeps still (released inv code it)
  · intro publishes
    simpa [modify, setCode] using ready publishes
  · exact place
  · exact (modify_state_of_ne change distinct).trans running
  · exact nothing
  · exact reaps

def filled (s : Kernel n) (me i : Slot) (birth : Birth) : Kernel n :=
  { (s.modify i fun _ => s.newTcb me birth).setCode i [] with idCnt := s.idCnt + 1 }

theorem initTcb_cases (s : Kernel n) (c : Fin n) (me i : Slot) (birth : Birth) :
    s.exec c me (.initTcb i birth) = ((s.filled me i birth).setUsed i false, []) ∨
      s.exec c me (.initTcb i birth) = (s.filled me i birth, [.setReady i birth]) := by
  cases birth with
  | fork pgd => cases pgd with
    | none => exact .inl rfl
    | some => exact .inr rfl
  | _ => exact .inr rfl

theorem newTcb_state (s : Kernel n) (me : Slot) (birth : Birth) :
    (s.newTcb me birth).state = .allocating ∧ (s.newTcb me birth).onCpu = false ∧
      (s.newTcb me birth).wakePending = false := by
  cases birth <;> exact ⟨rfl, rfl, rfl⟩

variable {result : Kernel n × List (Op n)}

theorem initTcb_inv (inv : s.view.Inv) (current : s.current c = some me)
    (running : (s.tcb me).state = .running) {birth : Birth}
    (code : s.code me = .initTcb i birth :: rest)
    (done : (s.setCode me rest).exec c me (.initTcb i birth) = result) :
    (result.1.setCode me (result.2 ++ result.1.code me)).view.Inv := by
  have aside := aside_of_next inv code rfl
  have distinct : me ≠ i := by
    rintro rfl
    exact aside.current c current
  have nobody := released inv code rfl
  have fresh := newTcb_state (s.setCode me rest) me birth
  obtain ⟨filled, still⟩ := rewrite_inv (pop_inv inv code rfl) aside nobody
    (fun _ => (s.setCode me rest).newTcb me birth) fresh.2.1 fresh.2.2 (.inl fresh.1)
  have cleared : ((s.setCode me rest).filled me i birth).view.Inv :=
    filled.drop i [] (List.nil_sublist _) fun d _ seat => absurd seat (still.current d)
  have aside' : ((s.setCode me rest).filled me i birth).view.Aside i :=
    ⟨still.used, still.state, still.onCpu, still.current, still.queued⟩
  have nobody' : ∀ j, i ∉ owned (((s.setCode me rest).filled me i birth).code j) := by
    intro j
    by_cases same : j = i
    · simp [Kernel.filled, setCode, same, owned]
    · simpa [Kernel.filled, setCode, modify, same] using nobody j
  have running' : (((s.setCode me rest).filled me i birth).tcb me).state = .running := by
    simpa [Kernel.filled, setCode, modify, distinct] using running
  rcases initTcb_cases (s.setCode me rest) c me i birth with
    after | after <;> rw [after] at done <;>
    subst done
  · rw [setCode_self]
    exact cleared.free aside' nobody'
  · exact hold_inv cleared [] rfl aside' nobody' (by simp [Op.publishes]) (by simp) running' rfl rfl

theorem insert_inv (inv : s.view.Inv) {cpu : Fin n} (code : s.code me = .insert i cpu :: rest) :
    ((s.setCode me rest).insertLast cpu i).view.Inv := by
  have aside := aside_of_next inv code rfl
  have home : s.home i = cpu := inv.placed i me cpu (by simp [view, code])
  have ready : (s.tcb i).state = .ready :=
    inv.published i me (by simp [view, code, published, Op.publishes])
  have entered := (pop_inv inv code rfl).enqueue aside ready (released inv code rfl)
  rw [view_insertLast]
  subst home
  exact entered

theorem freeSlot_inv (inv : s.view.Inv) (code : s.code me = .freeSlot i :: rest) :
    ((s.setCode me rest).setUsed i false).view.Inv :=
  (pop_inv inv code rfl).free (aside_of_next inv code rfl) (released inv code rfl)

theorem requeue_setCode (s : Kernel n) (me : Slot) (ops : List (Op n)) (c : Fin n) :
    (s.setCode me ops).requeue c = (s.requeue c).setCode me ops := by
  cases current : s.current c with
  | none => simp [requeue, setCode, current]
  | some prev =>
    by_cases running : (s.tcb prev).state = .running <;>
      simp [requeue, setCode, current, running, setState, modify, insertLast, setQueue]

theorem pickNext_setCode (s : Kernel n) (me : Slot) (ops : List (Op n)) (c : Fin n) :
    (s.setCode me ops).pickNext c = ((s.pickNext c).1.setCode me ops, (s.pickNext c).2) := by
  cases queue : s.queue c <;> simp [pickNext, setCode, queue, setQueue]

theorem switchOut_setCode (s : Kernel n) (me : Slot) (ops : List (Op n)) (c : Fin n) :
    (s.setCode me ops).switchOut c = (s.switchOut c).setCode me ops := by
  cases current : s.current c with
  | none => simp [switchOut, setCode, current]
  | some prev =>
    by_cases awake : (s.tcb prev).wakePending = true <;>
      simp [switchOut, setCode, current, awake, modify, insertLast, setQueue]

theorem switchIn_setCode (s : Kernel n) (me : Slot) (ops : List (Op n)) (next : Option Slot) :
    (s.setCode me ops).switchIn next = (s.switchIn next).setCode me ops := by
  cases next <;> rfl

theorem schedSection_setCode (s : Kernel n) (me : Slot) (ops : List (Op n)) (c : Fin n) :
    (s.setCode me ops).schedSection c = (s.schedSection c).setCode me ops := by
  have same : (s.setCode me ops).current c = s.current c := rfl
  simp only [schedSection, requeue_setCode, pickNext_setCode, switchOut_setCode, switchIn_setCode,
    same]
  by_cases stays : ((s.requeue c).pickNext c).2 = s.current c
  · rw [if_pos stays, if_pos stays]
    rfl
  · rw [if_neg stays, if_neg stays]
    rfl

theorem owned_scanDone (kind : Scan) : owned (scanDone kind : List (Op n)) = [] := by
  cases kind <;> simp only [scanDone] <;> (try split) <;> rfl

theorem reaped_scanDone (kind : Scan) : reaped (scanDone kind : List (Op n)) = [] := by
  cases kind <;> simp only [scanDone] <;> (try split) <;> rfl

theorem reaped_scanFound (hit : s.scanHit me j kind = true)
    (inside : i ∈ reaped (scanFound j more kind : List (Op n))) : s.used i = true := by
  cases kind <;> simp [scanFound, reaped, Op.reaps] at inside
  · subst inside
    simp only [scanHit, matchesChild, Bool.and_eq_true] at hit
    exact hit.1.1.1.1
  · subst inside
    simp only [scanHit, Bool.and_eq_true] at hit
    exact hit.1

theorem futexWake_only (inside : op ∈ (s.exec c me (.futexWake uaddr count)).2) :
    ∃ i, op = .wakeWaiter i := by
  obtain ⟨k, _, it⟩ := List.mem_filterMap.mp inside
  obtain ⟨i, _, rfl⟩ := Option.map_eq_some_iff.mp it
  exact ⟨i, rfl⟩

theorem owned_futexWake (s : Kernel n) (c : Fin n) (me : Slot) (uaddr : Nat) (count : Int) :
    owned (s.exec c me (.futexWake uaddr count)).2 = [] := by
  apply List.filterMap_eq_nil_iff.mpr
  intro op inside
  obtain ⟨i, rfl⟩ := futexWake_only inside
  rfl

theorem place_inv (inv : s.view.Inv) (current : s.current c = some me)
    (running : (s.tcb me).state = .running) {birth : Birth}
    (code : s.code me = .place i birth :: rest) (cpu : Fin n) :
    (((s.setCode me rest).modify i fun t => { t with cpuAffinity := some cpu.val }).setCode me
      (.insert i cpu :: [] ++ ((s.setCode me rest).modify i fun t =>
        { t with cpuAffinity := some cpu.val }).code me)).view.Inv := by
  have aside := aside_of_next inv code rfl
  have ready : (s.tcb i).state = .ready :=
    inv.published i me (by simp [view, code, published, Op.publishes])
  apply rewriteHeld_inv inv current running code rfl rfl
    (fun t => { t with cpuAffinity := some cpu.val }) aside.onCpu
    (asleep_of_aside (pop_inv inv code rfl) aside) (.inr ready) (.insert i cpu) [] rfl
      (fun _ => ready)
    _ rfl rfl
  intro d same
  cases same
  simp [home, modify]

theorem takes_dead (inv : s.view.Inv) (code : s.code me = op :: rest) (it : s.takes op = some i) :
    s.used i = true ∧ (s.tcb i).state = .dead := by
  cases op with
  | reap j =>
    simp only [takes, Option.ite_none_right_eq_some, Option.some.injEq] at it
    obtain ⟨dead, rfl⟩ := it
    have born : s.born j ≠ 0 :=
      inv.seen j me (List.mem_filterMap.mpr ⟨.reap j, by simp [view, code], rfl⟩)
    refine ⟨?_, dead⟩
    by_contra unused
    exact born (inv.fresh j (Bool.eq_false_iff.mpr unused) dead)
  | orphanScan => exact orphan_spec it
  | _ => cases it

structure Idles (s : Kernel n) (op : Op n) (result : Kernel n × List (Op n)) : Prop where
  view : result.1.view = s.view
  logs : result.1.taken = s.taken ∧ result.1.freed = s.freed
  identity : ∀ i, (result.1.tcb i).identity = (s.tcb i).identity
  futex : (∀ uaddr count, op ≠ .futexWake uaddr count) → result.1.futex = s.futex
  nothing : owned result.2 = []
  reaps : ∀ i ∈ reaped result.2, op.reaps = some i ∨ s.used i = true
  late : op.afterDeath = true → ∀ next ∈ result.2, next.afterDeath = true

variable {ops : List (Op n)}

theorem Idles.same (nothing : owned ops = [])
    (reaps : ∀ i ∈ reaped ops, op.reaps = some i ∨ s.used i = true)
    (late : op.afterDeath = true → ∀ next ∈ ops, next.afterDeath = true) : Idles s op (s, ops) :=
  ⟨rfl, ⟨rfl, rfl⟩, fun _ => rfl, fun _ => rfl, nothing, reaps, late⟩

theorem Idles.modify (i : Slot) (change : Tcb → Tcb) (word : Nat → Nat → Option (BitVec 32))
    (kept : ((change (s.tcb i)).state, (change (s.tcb i)).onCpu, (change (s.tcb i)).wakePending,
        (change (s.tcb i)).cpuAffinity, (change (s.tcb i)).identity) =
      ((s.tcb i).state, (s.tcb i).onCpu, (s.tcb i).wakePending, (s.tcb i).cpuAffinity,
        (s.tcb i).identity))
    (nothing : owned ops = []) (reaps : ∀ i ∈ reaped ops, op.reaps = some i ∨ s.used i = true)
    (late : op.afterDeath = true → ∀ next ∈ ops, next.afterDeath = true) :
    Idles s op ({ s.modify i change with word := word }, ops) := by
  simp only [Prod.mk.injEq] at kept
  obtain ⟨state, onCpu, wake, affinity, identity⟩ := kept
  refine ⟨view_modify_other s i change state onCpu wake affinity, ⟨rfl, rfl⟩, fun j => ?_,
    fun _ => rfl, nothing, reaps, late⟩
  by_cases it : j = i
  · subst it
    simpa [Kernel.modify] using identity
  · simp [Kernel.modify, it]

inductive ExecCase (s : Kernel n) (c : Fin n) (me : Slot) :
    Op n → Kernel n × List (Op n) → Prop where
  | idle {op : Op n} {result : Kernel n × List (Op n)} (other : op.isSchedule = false)
      (free : op.owns = none) (idles : Idles s op result) : ExecCase s c me op result
  | schedule : ExecCase s c me .schedule (s.schedSection c, [])
  | sleep {op : Op n} (futex : Fin futexTableSize → FutexEntry) (more : List (Op n))
      (kind : op = .block ∧ futex = s.futex ∨ ∃ uaddr val curVal, op = .futexQueue uaddr val curVal)
      (nothing : owned more = []) (reaps : reaped more = []) :
      ExecCase s c me op ({ s.setState me .blocked with futex := futex }, .schedule :: more)
  | wake {op : Op n} (i : Slot) (kind : op = .unblock i ∨ op = .wakeWaiter i) :
      ExecCase s c me op (s.schedUnblock i, [])
  | take {op : Op n} (i : Slot) (it : s.takes op = some i) (more : List (Op n))
      (nothing : owned more = []) (reaps : reaped more = []) :
      ExecCase s c me op (s.take i, .destroyPgd i :: more)
  | claim (i : Slot) (birth : Birth) (free : s.used i = false) :
      ExecCase s c me (.claimSlot birth) ({ (s.setState i .allocating).setUsed i true with
        born := update s.born i (s.born i + 1) }, [.clearTcb i birth])
  | clear (i : Slot) (birth : Birth) :
      ExecCase s c me (.clearTcb i birth) (s.modify i fun _ => Tcb.zero, [.initTcb i birth])
  | abort (i : Slot) :
      ExecCase s c me (.initTcb i (.fork none)) ((s.filled me i (.fork none)).setUsed i false, [])
  | init (i : Slot) (birth : Birth) (built : birth ≠ .fork none) :
      ExecCase s c me (.initTcb i birth) (s.filled me i birth, [.setReady i birth])
  | ready (i : Slot) (birth : Birth) :
      ExecCase s c me (.setReady i birth) (s.setState i .ready, .place i birth :: s.started i birth)
  | place (i : Slot) (birth : Birth) (cpu : Fin n) (counter : Nat) :
      ExecCase s c me (.place i birth)
        ({ s.modify i fun t => { t with cpuAffinity := some cpu.val } with rrCounter := counter },
          [.insert i cpu])
  | placed (i : Slot) (birth : Birth) (running : (s.tcb i).state = .running) :
      ExecCase s c me (.place i birth) (s, [])
  | insert (i : Slot) (cpu : Fin n) : ExecCase s c me (.insert i cpu) (s.insertLast cpu i, [])
  | destroy (i : Slot) (pgd : Nat) :
      ExecCase s c me (.destroyPgd i) (s.modify i fun t => { t with pgd := pgd }, [.freeSlot i])
  | free (i : Slot) :
      ExecCase s c me (.freeSlot i)
        ({ s.setUsed i false with freed := (i, s.born i) :: s.freed }, [])
  | die : ExecCase s c me .exitMark
      (s.setState me .dead, [.scan .notify allSlots, .dequeueStart me, .schedule])
  | dequeue (i : Slot) (cpus : List (Fin n)) (cpu : Fin n) :
      ExecCase s c me (.dequeue i cpus) (s.setQueue cpu ((s.queue cpu).erase i), [])
  | mark (i : Slot) (status : BitVec 32) :
      ExecCase s c me (.groupMark i status)
        (s.modify i fun t => { t with exitStatus := status, state := .dead }, [])

theorem scan_idles (s : Kernel n) (c : Fin n) (me : Slot) (kind : Scan) (slots : List Slot) :
    Idles s (.scan kind slots) (s.exec c me (.scan kind slots)) := by
  cases slots with
  | nil =>
    exact .same (owned_scanDone kind) (by simp [reaped_scanDone])
      (by cases kind <;> simp [Op.afterDeath, scanDone])
  | cons j more =>
    simp only [exec]
    split
    case isTrue hit =>
      have reaps : ∀ i ∈ reaped (scanFound j more kind : List (Op n)),
          (Op.scan kind (j :: more) : Op n).reaps = some i ∨ s.used i = true :=
        fun i inside => .inr (reaped_scanFound hit inside)
      cases kind with
      | notify =>
        exact .modify j (fun t => { t with isWaiting := false }) s.word rfl rfl reaps
          (by simp [Op.afterDeath, scanFound])
      | _ => exact .same rfl reaps (by simp [Op.afterDeath])
    case isFalse =>
      exact .same rfl (by simp [reaped, Op.reaps]) (by cases kind <;> simp [Op.afterDeath])

theorem exec_cases (done : s.exec c me op = result) : ExecCase s c me op result := by
  have rests (op : Op n) (other : op.isSchedule = false) (free : op.owns = none) :
      ExecCase s c me op (s, []) :=
    .idle other free (.same rfl (by simp [reaped]) (by simp))
  subst done
  cases op with
  | schedule => exact .schedule
  | block => exact .sleep s.futex [] (.inl ⟨rfl, rfl⟩) rfl rfl
  | unblock i => exact .wake i (.inl rfl)
  | wakeWaiter i => exact .wake i (.inr rfl)
  | orphanScan birth =>
    simp only [exec]
    split
    case h_1 i found =>
      exact .take i (show s.takes (.orphanScan birth) = some i from found)
        [.orphanScan birth] rfl rfl
    case h_2 =>
      exact .idle rfl rfl (.same rfl (by simp [reaped, Op.reaps]) (by simp [Op.afterDeath]))
  | claimSlot birth =>
    simp only [exec]
    split
    case h_1 i found => exact .claim i birth (by simpa using List.find?_some found)
    case h_2 => exact rests _ rfl rfl
  | clearTcb i birth => exact .clear i birth
  | initTcb i birth =>
    cases birth with
    | fork pgd =>
      cases pgd with
      | none => exact .abort i
      | some => exact .init i _ (by simp)
    | _ => exact .init i _ (by simp)
  | setReady i birth => exact .ready i birth
  | place i birth =>
    simp only [exec]
    split
    case isTrue running => exact .placed i birth running
    case isFalse => exact .place i birth _ _
  | insert i cpu => exact .insert i cpu
  | reap i =>
    simp only [exec]
    split
    case isTrue dead => exact .take i (show s.takes (.reap i) = some i from if_pos dead) [] rfl rfl
    case isFalse => exact rests _ rfl rfl
  | destroyPgd i =>
    have same : (s.modify i fun t => { t with pgd := (s.tcb i).pgd }) = s :=
      congrArg (fun tcb => { s with tcb := tcb }) (update_eq_self i s.tcb)
    have kept : ExecCase s c me (.destroyPgd i)
        (s.modify i fun t => { t with pgd := (s.tcb i).pgd }, [.freeSlot i]) := .destroy i _
    rw [same] at kept
    simp only [exec]
    split
    case h_1 => exact .destroy i 0
    case h_2 => exact kept
  | freeSlot i => exact .free i
  | signalExit signal =>
    refine .idle rfl rfl
      (.modify me (fun t => { t with exitSignal := signal }) s.word rfl rfl ?_ ?_) <;>
      simp [reaped, Op.reaps, Op.afterDeath]
  | exitStart status =>
    simp only [exec]
    split <;>
      refine .idle rfl rfl
        (.modify me (fun t => { t with exitStatus := status }) _ rfl rfl ?_ ?_) <;>
        simp [reaped, Op.reaps, Op.afterDeath]
  | exitMark => exact .die
  | dequeueStart =>
    exact .idle rfl rfl (.same rfl (by simp [reaped, Op.reaps]) (by simp [Op.afterDeath]))
  | dequeue i cpus =>
    cases cpus with
    | nil => exact rests _ rfl rfl
    | cons cpu more =>
      simp only [exec]
      split
      case isTrue => exact .dequeue i (cpu :: more) cpu
      case isFalse =>
        exact .idle rfl rfl (.same rfl (by simp [reaped, Op.reaps]) (by simp [Op.afterDeath]))
  | groupMark i status => exact .mark i status
  | futexRead =>
    simp only [exec]
    split
    case h_1 =>
      exact .idle rfl rfl (.same rfl (by simp [reaped, Op.reaps]) (by simp [Op.afterDeath]))
    case h_2 => exact rests _ rfl rfl
  | futexQueue uaddr val curVal =>
    simp only [exec]
    split
    case isTrue => exact rests _ rfl rfl
    case isFalse =>
      split
      case h_1 => exact .sleep _ _ (.inr ⟨uaddr, val, curVal, rfl⟩) rfl rfl
      case h_2 => exact rests _ rfl rfl
  | futexReturn => exact rests _ rfl rfl
  | futexWake uaddr count =>
    refine .idle rfl rfl ⟨rfl, ⟨rfl, rfl⟩, fun _ => rfl, fun other =>
      absurd rfl (other uaddr count),
      owned_futexWake .., fun i inside => ?_, by simp [Op.afterDeath]⟩
    obtain ⟨op, mem, it⟩ := List.mem_filterMap.mp inside
    obtain ⟨j, rfl⟩ := futexWake_only mem
    cases it
  | setWaiting =>
    refine .idle rfl rfl
      (.modify me (fun t => { t with isWaiting := true }) s.word rfl rfl ?_ ?_) <;>
      simp [reaped]
  | setWaitPid pid =>
    refine .idle rfl rfl (.modify me (fun t => { t with waitPid := pid }) s.word rfl rfl ?_ ?_) <;>
      simp [reaped]
  | waitResume =>
    refine .idle rfl rfl
      (.modify me (fun t => { t with isWaiting := false }) s.word rfl rfl ?_ ?_) <;>
      simp [reaped, Op.reaps, Op.afterDeath]
  | waitReport =>
    simp only [exec]
    split
    case isTrue =>
      exact .idle rfl rfl ⟨rfl, ⟨rfl, rfl⟩, fun _ => rfl, fun _ => rfl,
        rfl, by simp [reaped, Op.reaps], by simp [Op.afterDeath]⟩
    case isFalse => exact rests _ rfl rfl
  | execCollect i =>
    refine .idle rfl rfl
      (.modify me (fun t => { t with exitStatus := (s.tcb i).exitStatus }) s.word rfl
      rfl ?_ ?_) <;> simp [reaped, Op.reaps, Op.afterDeath]
  | scan kind slots => exact .idle rfl rfl (scan_idles s c me kind slots)
  | store =>
    exact .idle rfl rfl ⟨rfl, ⟨rfl, rfl⟩, fun _ => rfl, fun _ =>
      rfl, rfl, by simp [exec, reaped], by simp [exec]⟩

theorem isSchedule_of_takes (it : s.takes op = some i) :
    op.isSchedule = false ∧ op.afterDeath = false := by
  cases op <;> first | exact ⟨rfl, rfl⟩ | cases it

theorem running_of_next (inv : s.view.Inv) (phase : s.phase c = .running)
    (current : s.current c = some me) (code : s.code me = op :: rest)
    (other : op.isSchedule = false)
    (alive : op.afterDeath = false) : (s.tcb me).state = .running := by
  rcases inv.active phase current code other with running | ⟨_, after, _⟩
  · exact running
  · simp [alive] at after

/-- Every piece of code keeps the invariant, if it takes no task for reclamation that a CPU still
runs and marks no thread dead but a blocked one. -/
theorem exec_inv (inv : s.view.Inv) (phase : s.phase c = .running) (current : s.current c = some me)
    (code : s.code me = op :: rest)
    (idle : ∀ i, s.takes op = some i → (s.tcb i).onCpu = false ∧ ∀ d, s.current d ≠ some i)
    (marks : ∀ i status, op = .groupMark i status →
      (s.tcb i).state = .blocked ∧ (s.tcb i).onCpu = false)
    (done : (s.setCode me rest).exec c me op = result) :
    (result.1.setCode me (result.2 ++ result.1.code me)).view.Inv := by
  have runs := running_of_next inv phase current code
  cases exec_cases done with
  | placed =>
    exact plain_inv inv phase current code rfl rfl rfl (by simp [reaped]) (by simp)
  | idle other _ idles =>
    refine plain_inv inv phase current code other idles.view idles.nothing
      (fun i inside => ?_) idles.late
    rcases idles.reaps i inside with it | used
    · exact inv.seen i me (List.mem_filterMap.mpr ⟨op, by simp [view, code], it⟩)
    · exact inv.born i used
  | schedule =>
    simp only [schedSection_setCode, setCode_self]
    exact schedule_inv inv phase current code
  | sleep _ _ kind nothing reaps =>
    rcases kind with ⟨rfl, _⟩ | ⟨_, _, _, rfl⟩ <;>
      exact leave_inv (pop_inv inv code rfl) phase current (runs rfl rfl) (.inl rfl) _ nothing reaps
        (.inr (.inl ⟨.inl rfl, rfl⟩))
  | wake i kind =>
    rw [setCode_self]
    exact schedUnblock_inv (pop_inv inv code (by rcases kind with rfl | rfl <;> rfl)) i
  | take i it more nothing reaps =>
    obtain ⟨other, alive⟩ := isSchedule_of_takes it
    obtain ⟨used, dead⟩ := takes_dead inv code it
    exact takeHeld_inv (pop_inv inv code other) current (runs other alive) dead used
      (idle i it) more nothing reaps
  | claim _ birth free => exact claimSlot_inv (pop_inv inv code rfl) (runs rfl rfl) free birth rfl
  | clear i birth =>
    exact rewriteHeld_inv inv current (runs rfl rfl) code rfl rfl (fun _ => Tcb.zero) rfl rfl
      (.inr rfl) (.initTcb i birth) [] rfl (by simp [Op.publishes]) (by simp) rfl rfl
  | abort i | init i birth => exact initTcb_inv inv current (runs rfl rfl) code done
  | ready i birth =>
    have aside := aside_of_next inv code rfl
    exact rewriteHeld_inv inv current (runs rfl rfl) code rfl rfl
      (fun t => { t with state := .ready })
      aside.onCpu (asleep_of_aside (pop_inv inv code rfl) aside) (.inr rfl) (.place i birth) _ rfl
      (fun _ => rfl) (by simp) (by cases birth <;> rfl) (by cases birth <;> rfl)
  | place _ _ cpu => exact place_inv inv current (runs rfl rfl) code cpu
  | insert =>
    rw [setCode_self]
    exact insert_inv inv code
  | destroy i pgd =>
    have aside := aside_of_next inv code rfl
    exact rewriteHeld_inv inv current (runs rfl rfl) code rfl rfl (fun t => { t with pgd := pgd })
      aside.onCpu (asleep_of_aside (pop_inv inv code rfl) aside) aside.state (.freeSlot i) [] rfl
      (by simp [Op.publishes]) (by simp) rfl rfl
  | free =>
    rw [setCode_self]
    exact freeSlot_inv inv code
  | die =>
    exact leave_inv (pop_inv inv code rfl) phase current (runs rfl rfl) (.inr rfl) _ rfl rfl
      (.inr (.inr ⟨rfl, rfl⟩))
  | dequeue i _ cpu =>
    rw [setCode_self]
    exact (pop_inv inv code rfl).dequeue cpu i
  | mark i status =>
    obtain ⟨blocked, off⟩ := marks i status rfl
    have killed := (pop_inv inv code rfl).kill blocked off
    rw [setCode_self, view_modify _ _ _ (by rfl)]
    simpa [view] using killed

end Exec

/-- The steps that neither reclaim a task under a CPU nor mark a thread dead that is not asleep. -/
def Careful (s : Kernel n) (action : Action n) : Prop :=
  s.ReapsIdle action ∧ s.MarksBlocked action

section Step

variable {s : Kernel n}

theorem markRunning_inv (inv : s.view.Inv) (phase : s.phase c = .resuming) :
    (s.markRunning c).view.Inv := by
  unfold markRunning
  cases current : s.current c with
  | none => exact inv.markIdle phase current
  | some =>
    simp only
    rw [view_setPhase, view_setState]
    exact inv.markRunning phase current

theorem runCpu_op (phase : s.phase c = .running) (current : s.current c = some me)
    (code : s.code me = op :: rest) :
    s.runCpu c = ((s.setCode me rest).exec c me op).1.setCode me
      (((s.setCode me rest).exec c me op).2 ++ ((s.setCode me rest).exec c me op).1.code me) := by
  simp [runCpu, phase, current, code]

inductive RunCase (s : Kernel n) (c : Fin n) : Prop where
  | resume (phase : s.phase c = .resuming) (after : s.runCpu c = s.markRunning c)
  | switch (next : Option Slot) (phase : s.phase c = .switching next)
      (after : s.runCpu c = s.publish c next)
  | idle (phase : s.phase c = .running) (current : s.current c = none)
      (after : s.runCpu c = s.schedSection c)
  | rest (me : Slot) (phase : s.phase c = .running) (current : s.current c = some me)
      (code : s.code me = []) (after : s.runCpu c = s)
  | exec (me : Slot) (op : Op n) (rest : List (Op n)) (phase : s.phase c = .running)
      (current : s.current c = some me) (code : s.code me = op :: rest)
      (next : s.nextOp c = some op)
      (after : s.runCpu c = ((s.setCode me rest).exec c me op).1.setCode me
        (((s.setCode me rest).exec c me op).2 ++ ((s.setCode me rest).exec c me op).1.code me))

theorem runCpu_cases (s : Kernel n) (c : Fin n) : RunCase s c := by
  cases phase : s.phase c with
  | resuming => exact .resume phase (by simp [runCpu, phase])
  | switching next => exact .switch next phase (by simp [runCpu, phase])
  | running =>
    cases current : s.current c with
    | none => exact .idle phase current (by simp [runCpu, phase, current])
    | some me =>
      cases code : s.code me with
      | nil => exact .rest me phase current code (by simp [runCpu, phase, current, code])
      | cons op rest =>
        exact .exec me op rest phase current code (by simp [nextOp, phase, current, code])
          (runCpu_op phase current code)

theorem step_call (s : Kernel n) (c : Fin n) (request : Call) :
    s.step (.call c request) = s ∨ ∃ me, s.phase c = .running ∧ s.current c = some me ∧
      s.code me = [] ∧ s.step (.call c request) = s.setCode me (request.code s me) := by
  simp only [step]
  split
  case h_1 me phase current =>
    split
    case isTrue nothing => exact .inr ⟨me, phase, current, List.isEmpty_iff.mp nothing, rfl⟩
    case isFalse => exact .inl rfl
  case h_2 => exact .inl rfl

theorem step_preempt (s : Kernel n) (c : Fin n) :
    s.step (.preempt c) = s ∨ ∃ me, s.phase c = .running ∧ s.current c = some me ∧
      s.step (.preempt c) = s.setCode me (.schedule :: s.code me) := by
  simp only [step]
  split
  case h_1 me phase current =>
    split
    case isTrue => exact .inr ⟨me, phase, current, rfl⟩
    case isFalse => exact .inl rfl
  case h_2 => exact .inl rfl

theorem runCpu_inv (inv : s.view.Inv) (careful : s.Careful (.run c)) : (s.runCpu c).view.Inv := by
  cases runCpu_cases s c with
  | resume phase after =>
    rw [after]
    exact markRunning_inv inv phase
  | switch _ phase after =>
    rw [after]
    exact inv.publish phase
  | idle phase _ after =>
    rw [after]
    exact (schedSection_moves inv phase).inv inv
  | rest _ _ _ _ after =>
    rw [after]
    exact inv
  | exec _ op _ phase current code next after =>
    rw [after]
    exact exec_inv inv phase current code (fun i takes => careful.1 c op i rfl next takes)
      (fun i status it => careful.2 c i status rfl (it ▸ next)) rfl

theorem step_inv (inv : s.view.Inv) (careful : s.Careful action) : (s.step action).view.Inv := by
  cases action with
  | run => exact runCpu_inv inv careful
  | call c request =>
    rcases step_call s c request with same | ⟨me, phase, current, code, after⟩
    · rwa [same]
    · have running : s.view.state me = .running := by
        have keeps := inv.discipline c me phase current
        simpa [Disciplined, view, code, parked, dying] using keeps
      have pushed := inv.push me (request.code s me) (by cases request <;> rfl)
        (by cases request <;> simp [Call.code, reaped, Op.reaps]) (.inl running)
      have whole : request.code s me ++ s.view.code me = request.code s me := by
        simp [view, code]
      rw [whole] at pushed
      rw [after]
      exact pushed
  | preempt c =>
    rcases step_preempt s c with same | ⟨me, phase, current, after⟩
    · rwa [same]
    · rw [after, view_setCode]
      apply inv.setCode me
      · exact List.Sublist.refl _
      · exact fun i inside => inv.seen i me inside
      · exact fun i inside => inv.published i me inside
      · intro i d inside
        rcases List.mem_cons.mp inside with new | old
        · cases new
        · exact inv.placed i me d old
      · intro d running seat
        have keeps := inv.discipline d me running seat
        rcases keeps with runs | ⟨rests, _⟩ | ⟨dead, _⟩
        · exact .inl runs
        · exact .inr (.inl ⟨rests, rfl⟩)
        · exact .inr (.inr ⟨dead, rfl⟩)
  | wake i => exact schedUnblock_inv inv i

end Step

theorem boot_inv : (boot n).view.Inv := by
  have home : ∀ i, (boot n).view.home i = 0 := by
    intro i
    by_cases it : i = 0 <;> simp [view, home, boot, it, Tcb.zero, Nat.pos_of_neZero]
  have holder : ∀ c, (boot n).view.holder c = none := fun _ => rfl
  constructor
  case nodup =>
    intro c
    by_cases it : c = 0 <;> simp [view, boot, it]
  case queued =>
    intro c i inside
    by_cases first : c = 0
    · have it : i = 0 := by simpa [view, boot, first] using inside
      subst it
      exact ⟨by rw [home, first], rfl, rfl, rfl⟩
    · simp [view, boot, first] at inside
  case onCpu =>
    intro i
    rw [holder]
    by_cases it : i = 0 <;> simp [view, boot, it, Tcb.zero]
  case running | wake =>
    intro i
    by_cases it : i = 0 <;> simp [view, boot, it, Tcb.zero]
  case unused | born | fresh =>
    intro i
    by_cases it : i = 0 <;> simp [view, boot, it, Tcb.zero]
  case holderHome =>
    intro c i seated
    rw [holder] at seated
    cases seated
  all_goals simp [view, boot, owned, reaped, published]

end Kernel

end AvatarKernel
