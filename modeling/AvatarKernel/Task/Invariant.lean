import AvatarKernel.Task.Machine

namespace AvatarKernel

open Function

namespace Op

variable {n : Nat}

/-- The slot that is in the hands of the task with this piece of code ahead: it is being filled in
for a new task, or reclaimed. -/
def owns : Op n → Option Slot
  | .clearTcb i _ => some i
  | .initTcb i _ => some i
  | .setReady i _ => some i
  | .place i _ => some i
  | .insert i _ => some i
  | .destroyPgd i => some i
  | .freeSlot i => some i
  | _ => none

def publishes : Op n → Option Slot
  | .place i _ => some i
  | .insert i _ => some i
  | _ => none

def reaps : Op n → Option Slot
  | .reap i => some i
  | .waitReport i _ => some i
  | .execCollect i => some i
  | _ => none

def isSchedule : Op n → Bool
  | .schedule => true
  | _ => false

def afterDeath : Op n → Bool
  | .scan .notify _ => true
  | .unblock _ => true
  | .dequeueStart _ => true
  | .dequeue _ _ => true
  | _ => false

end Op

section Code

variable {n : Nat}

def owned (code : List (Op n)) : List Slot := code.filterMap Op.owns

def published (code : List (Op n)) : List Slot := code.filterMap Op.publishes

def reaped (code : List (Op n)) : List Slot := code.filterMap Op.reaps

/-- The task is about to call `sched_schedule`. -/
def parked : List (Op n) → Bool
  | [] => false
  | op :: _ => op.isSchedule

def dying : List (Op n) → Bool
  | [] => false
  | op :: rest => op.isSchedule || op.afterDeath && dying rest

theorem owned_append (code more : List (Op n)) : owned (code ++ more) = owned code ++ owned more :=
  List.filterMap_append ..

theorem owned_cons_some (it : op.owns = some i) (rest : List (Op n)) :
    owned (op :: rest) = i :: owned rest := List.filterMap_cons_some it

variable {code : List (Op n)}

@[grind →]
theorem mem_owned_of_published (inside : i ∈ published code) : i ∈ owned code := by
  obtain ⟨op, mem, it⟩ := List.mem_filterMap.mp inside
  refine List.mem_filterMap.mpr ⟨op, mem, ?_⟩
  cases op <;> first | exact it | simp [Op.publishes] at it

@[grind →]
theorem mem_published_of_insert (inside : Op.insert i c ∈ code) : i ∈ published code :=
  List.mem_filterMap.mpr ⟨_, inside, rfl⟩

theorem dying_append (after : ∀ op ∈ ops, op.afterDeath = true) (dies : dying code = true) :
    dying (ops ++ code) = true := by
  induction ops with
  | nil => exact dies
  | cons op _ ih =>
    have rest := ih fun other inside => after other (List.mem_cons_of_mem op inside)
    simp [dying, after op List.mem_cons_self, rest]

/-- What the code of a current task has to be, by its state: only a running task is free in what it
does next. -/
def Disciplined (state : TaskState) (wakePending : Bool) (code : List (Op n)) : Prop :=
  state = .running ∨
    ((state = .blocked ∨ state = .ready ∧ wakePending = true) ∧ parked code = true) ∨
    (state = .dead ∧ dying code = true)

end Code

/-- The scheduler's part of the kernel state: the fields of the control blocks that `sched.c` uses,
the slot map, the CPUs, and the code that the tasks have ahead. -/
@[ext]
structure SchedView (n : Nat) where
  state : Slot → TaskState
  onCpu : Slot → Bool
  wake : Slot → Bool
  home : Slot → Fin n
  used : Slot → Bool
  born : Slot → Nat
  queue : Fin n → List Slot
  current : Fin n → Option Slot
  phase : Fin n → Phase
  code : Slot → List (Op n)

namespace SchedView

variable {n : Nat}

def holder (v : SchedView n) (c : Fin n) : Option Slot :=
  match v.phase c with
  | .switching next => next
  | _ => v.current c

/-- A used slot that no CPU and no queue knows of. -/
structure Aside (v : SchedView n) (i : Slot) : Prop where
  used : v.used i = true
  state : v.state i = .allocating ∨ v.state i = .ready
  onCpu : v.onCpu i = false
  current : ∀ c, v.current c ≠ some i
  queued : ∀ c, i ∉ v.queue c

@[grind =]
theorem aside_iff (v : SchedView n) (i : Slot) : v.Aside i ↔
    v.used i = true ∧ (v.state i = .allocating ∨ v.state i = .ready) ∧ v.onCpu i = false ∧
      (∀ c, v.current c ≠ some i) ∧ ∀ c, i ∉ v.queue c :=
  ⟨fun aside => ⟨aside.used, aside.state, aside.onCpu, aside.current, aside.queued⟩,
    fun ⟨used, state, onCpu, current, queued⟩ => ⟨used, state, onCpu, current, queued⟩⟩

/-- How the scheduler's data hang together: queues, current tasks, states and the two flags of the
wake-up protocol, and the slots that are in somebody's hands. -/
structure Inv (v : SchedView n) : Prop where
  nodup : ∀ c, (v.queue c).Nodup
  queued : ∀ c i, i ∈ v.queue c →
    v.home i = c ∧ v.state i = .ready ∧ v.onCpu i = false ∧ v.used i = true
  currentHome : ∀ c i, v.current c = some i → v.home i = c
  holderHome : ∀ c i, v.holder c = some i → v.home i = c
  onCpu : ∀ i, v.onCpu i = true ↔ v.holder (v.home i) = some i
  next : ∀ c next, v.phase c = .switching next → next ≠ v.current c
  incoming : ∀ c i, v.phase c = .switching (some i) → v.state i = .running
  resuming : ∀ c i, v.phase c = .resuming → v.current c = some i →
    v.state i = .ready ∧ v.wake i = false
  discipline : ∀ c i, v.phase c = .running → v.current c = some i →
    Disciplined (v.state i) (v.wake i) (v.code i)
  running : ∀ i, v.state i = .running → v.onCpu i = true
  wake : ∀ i, v.wake i = true → v.onCpu i = true ∧ v.state i = .ready
  claim : ∀ i j, i ∈ owned (v.code j) → v.Aside i
  claimOne : ∀ i j k, i ∈ owned (v.code j) → i ∈ owned (v.code k) → j = k
  claimNodup : ∀ j, (owned (v.code j)).Nodup
  unused : ∀ i, v.used i = false →
    v.state i ≠ .blocked ∧ v.onCpu i = false ∧ ∀ c, v.current c ≠ some i
  born : ∀ i, v.used i = true → v.born i ≠ 0
  fresh : ∀ i, v.used i = false → v.state i = .dead → v.born i = 0
  seen : ∀ i j, i ∈ reaped (v.code j) → v.born i ≠ 0
  published : ∀ i j, i ∈ published (v.code j) → v.state i = .ready
  placed : ∀ i j c, .insert i c ∈ v.code j → v.home i = c

namespace Inv

variable {v : SchedView n}

theorem seated (inv : v.Inv) (c : Fin n) (i : Slot) (still : ∀ next, v.phase c ≠ .switching next)
    (current : v.current c = some i) : v.onCpu i = true := by
  apply (inv.onCpu i).mpr
  rw [inv.currentHome c i current]
  unfold holder
  split
  case h_1 next phase => exact absurd phase (still next)
  case h_2 => exact current

theorem coming (inv : v.Inv) (c : Fin n) (i : Slot) (phase : v.phase c = .switching (some i)) :
    v.home i = c := by
  apply inv.holderHome c i
  simp only [holder, phase]

theorem setCode (inv : v.Inv) (me : Slot) (code : List (Op n))
    (owns : (owned code).Sublist (owned (v.code me)))
    (reaps : ∀ i, i ∈ reaped code → v.born i ≠ 0)
    (publishes : ∀ i, i ∈ AvatarKernel.published code → v.state i = .ready)
    (places : ∀ i c, .insert i c ∈ code → v.home i = c)
    (keeps : ∀ c, v.phase c = .running → v.current c = some me →
      Disciplined (v.state me) (v.wake me) code) :
    Inv { v with code := update v.code me code } := by
  have fewer : ∀ i, i ∈ owned code → i ∈ owned (v.code me) := fun _ inside => owns.subset inside
  have nodup := owns.nodup (inv.claimNodup me)
  obtain ⟨_, _, _, _, _, _, _, _, discipline, _, _, claim, claimOne, claimNodup, _, _, _,
    seen, ready, placed⟩ := inv
  constructor
  case discipline | claim | claimOne | claimNodup | seen | published | placed =>
    grind -linarith [Disciplined]
  all_goals assumption

variable {c : Fin n} {me : Slot}

theorem active (inv : v.Inv) (phase : v.phase c = .running) (current : v.current c = some me)
    (code : v.code me = op :: rest) (other : op.isSchedule = false) :
    v.state me = .running ∨ (v.state me = .dead ∧ op.afterDeath = true ∧ dying rest = true) := by
  have keeps := inv.discipline c me phase current
  simp only [Disciplined, code, parked, dying, other, Bool.false_eq_true, and_false, false_or,
    Bool.false_or, Bool.and_eq_true] at keeps
  exact keeps

theorem drop (inv : v.Inv) (me : Slot) (code : List (Op n)) (fewer : code.Sublist (v.code me))
    (keeps : ∀ c, v.phase c = .running → v.current c = some me →
      Disciplined (v.state me) (v.wake me) code) :
    Inv { v with code := update v.code me code } := by
  apply inv.setCode me code (fewer.filterMap _)
  · exact fun i inside => inv.seen i me ((fewer.filterMap _).subset inside)
  · exact fun i inside => inv.published i me ((fewer.filterMap _).subset inside)
  · exact fun i c inside => inv.placed i me c (fewer.subset inside)
  · exact keeps

theorem pop (inv : v.Inv) (code : v.code me = op :: rest) (other : op.isSchedule = false) :
    Inv { v with code := update v.code me rest } := by
  apply inv.drop me rest
  · rw [code]
    exact List.sublist_cons_self op rest
  · intro c phase current
    rcases inv.active phase current code other with running | ⟨dead, _, dies⟩
    · exact .inl running
    · exact .inr (.inr ⟨dead, dies⟩)

theorem push (inv : v.Inv) (me : Slot) (ops : List (Op n)) (nothing : owned ops = [])
    (reaps : ∀ i, i ∈ reaped ops → v.born i ≠ 0)
    (free : v.state me = .running ∨ (v.state me = .dead ∧ dying (ops ++ v.code me) = true)) :
    Inv { v with code := update v.code me (ops ++ v.code me) } := by
  have unpublished : ∀ i, i ∉ AvatarKernel.published ops := by
    intro i inside
    have mine := mem_owned_of_published inside
    simp [nothing] at mine
  apply inv.setCode me
  · rw [owned_append, nothing, List.nil_append]
  · intro i inside
    rcases List.mem_append.mp (by simpa only [reaped, List.filterMap_append] using inside) with
      new | old
    · exact reaps i new
    · exact inv.seen i me old
  · intro i inside
    rcases List.mem_append.mp
      (by simpa only [AvatarKernel.published, List.filterMap_append] using inside) with new | old
    · exact absurd new (unpublished i)
    · exact inv.published i me old
  · intro i c inside
    rcases List.mem_append.mp inside with new | old
    · exact absurd (mem_published_of_insert new) (unpublished i)
    · exact inv.placed i me c old
  · intro _ _ _
    exact free.imp_right .inr

variable {i : Slot}

section

variable (inv : v.Inv)
include inv

theorem own (it : op.owns = some i) (aside : v.Aside i) (nobody : ∀ j, i ∉ owned (v.code j))
    (ready : op.publishes = some i → v.state i = .ready)
    (place : ∀ c, op = .insert i c → v.home i = c) (running : v.state me = .running) :
    Inv { v with code := update v.code me (op :: v.code me) } := by
  have nodup := inv.claimNodup me
  have all := owned_cons_some it (v.code me)
  have reaps : reaped (op :: v.code me) = reaped (v.code me) := by
    cases op <;> first | rfl | simp [Op.owns] at it
  have publishes : ∀ k, k ∈ AvatarKernel.published (op :: v.code me) → v.state k = .ready := by
    intro k inside
    have both : k ∈ AvatarKernel.published [op] ∨ k ∈ AvatarKernel.published (v.code me) := by
      simpa only [AvatarKernel.published, ← List.filterMap_append, ← List.mem_append,
        List.singleton_append] using inside
    rcases both with new | old
    · obtain ⟨other, mem, itself⟩ := List.mem_filterMap.mp new
      cases List.mem_singleton.mp mem
      have same : k = i := by
        cases op <;> simp_all [Op.publishes, Op.owns]
      exact same ▸ ready (same ▸ itself)
    · exact inv.published k me old
  have places : ∀ k c, .insert k c ∈ op :: v.code me → v.home k = c := by
    intro k c inside
    rcases List.mem_cons.mp inside with new | old
    · subst new
      cases it
      exact place c rfl
    · exact inv.placed k me c old
  obtain ⟨_, _, _, _, _, _, _, _, discipline, _, _, claim, claimOne, claimNodup, _, _, _,
    seen, ready, placed⟩ := inv
  constructor
  case discipline | claim | claimOne | claimNodup | seen | published | placed =>
    grind -linarith [Disciplined]
  all_goals assumption

theorem wakeSeated (blocked : v.state i = .blocked) (seat : v.onCpu i = true) :
    Inv { v with
      state := update v.state i .ready
      wake := update v.wake i true } := by
  have coming := inv.coming
  cases inv
  constructor <;> first | assumption | grind -linarith [Disciplined, SchedView.holder]

theorem wakeQueued (blocked : v.state i = .blocked) (off : v.onCpu i = false) :
    Inv { v with
      state := update v.state i .ready
      queue := update v.queue (v.home i) (v.queue (v.home i) ++ [i]) } := by
  have seated := inv.seated
  have coming := inv.coming
  cases inv
  constructor <;> first | assumption | grind -linarith [Disciplined, SchedView.holder]

theorem stay (phase : v.phase c = .running) (current : v.current c = some i)
    (running : v.state i = .running) :
    Inv { v with
      state := update v.state i .ready
      phase := update v.phase c .resuming } := by
  have seated := inv.seated
  have coming := inv.coming
  cases inv
  constructor <;> first | assumption | grind -linarith [Disciplined, SchedView.holder]

theorem stayIdle (phase : v.phase c = .running) (current : v.current c = none) :
    Inv { v with phase := update v.phase c .resuming } := by
  have coming := inv.coming
  cases inv
  constructor <;> first | assumption | grind -linarith [SchedView.holder]

theorem departQueued (phase : v.phase c = .running) (current : v.current c = some i) :
    Inv { v with
      state := update v.state i .ready
      onCpu := update v.onCpu i false
      wake := update v.wake i false
      queue := update v.queue c (v.queue c ++ [i])
      phase := update v.phase c (.switching none) } := by
  have seat := inv.seated c i (by simp [phase]) current
  have coming := inv.coming
  cases inv
  constructor <;> first | assumption | grind -linarith [Disciplined, SchedView.holder]

theorem departParked (phase : v.phase c = .running) (current : v.current c = some i)
    (rests : v.state i ≠ .running) (asleep : v.wake i = false) :
    Inv { v with
      onCpu := update v.onCpu i false
      phase := update v.phase c (.switching none) } := by
  have seat := inv.seated c i (by simp [phase]) current
  have coming := inv.coming
  cases inv
  constructor <;> first | assumption | grind -linarith [Disciplined, SchedView.holder]

theorem arrive (empty : v.holder c = none) (queue : v.queue c = i :: rest)
    (other : v.current c ≠ some i) :
    Inv { v with
      state := update v.state i .running
      onCpu := update v.onCpu i true
      queue := update v.queue c rest
      phase := update v.phase c (.switching (some i)) } := by
  have inside : i ∈ v.queue c := by simp [queue]
  have off := inv.queued c i inside
  have seated := inv.seated
  have waiting := inv.currentHome
  have coming := inv.coming
  cases inv
  constructor <;> first | assumption | grind -linarith [Disciplined, SchedView.holder]

theorem publish {next : Option Slot} (phase : v.phase c = .switching next) :
    Inv { v with
      current := update v.current c next
      phase := update v.phase c .running } := by
  have holds : v.holder c = next := by simp [SchedView.holder, phase]
  have coming := inv.coming
  cases inv
  constructor <;> first | assumption | grind -linarith [Disciplined, SchedView.holder]

theorem markRunning (phase : v.phase c = .resuming) (current : v.current c = some i) :
    Inv { v with
      state := update v.state i .running
      phase := update v.phase c .running } := by
  have seat := inv.seated c i (by simp [phase]) current
  have coming := inv.coming
  cases inv
  constructor <;> first | assumption | grind -linarith [Disciplined, SchedView.holder]

theorem markIdle (phase : v.phase c = .resuming) (current : v.current c = none) :
    Inv { v with phase := update v.phase c .running } := by
  have coming := inv.coming
  cases inv
  constructor <;> first | assumption | grind -linarith [SchedView.holder]

theorem leave {state : TaskState} (phase : v.phase c = .running) (current : v.current c = some me)
    (running : v.state me = .running) (rests : state = .blocked ∨ state = .dead)
    (keeps : Disciplined state false (v.code me)) :
    Inv { v with state := update v.state me state } := by
  have seat := inv.seated c me (by simp [phase]) current
  have coming := inv.coming
  cases inv
  constructor <;> first | assumption | grind -linarith [Disciplined, SchedView.holder]

theorem kill (blocked : v.state i = .blocked) (off : v.onCpu i = false) :
    Inv { v with state := update v.state i .dead } := by
  have seated := inv.seated
  have coming := inv.coming
  cases inv
  constructor <;> first | assumption | grind -linarith [Disciplined, SchedView.holder]

theorem take (dead : v.state i = .dead) (off : v.onCpu i = false)
    (away : ∀ c, v.current c ≠ some i) :
    Inv { v with state := update v.state i .allocating } := by
  have coming := inv.coming
  cases inv
  constructor <;> first | assumption | grind -linarith [Disciplined, SchedView.holder]

theorem rewrite {state : TaskState} {home : Fin n} (aside : v.Aside i)
    (nobody : ∀ j, i ∉ owned (v.code j)) (stays : state = .allocating ∨ state = .ready) :
    Inv { v with
      state := update v.state i state
      home := update v.home i home } := by
  have nowhere : ∀ c, v.holder c ≠ some i := by
    intro c holds
    have seat := (inv.onCpu i).mpr (inv.holderHome c i holds ▸ holds)
    simp [aside.onCpu] at seat
  have coming := inv.coming
  cases inv
  constructor <;> first | assumption | grind -linarith [Disciplined, SchedView.holder]

theorem enqueue (aside : v.Aside i) (ready : v.state i = .ready)
    (nobody : ∀ j, i ∉ owned (v.code j)) :
    Inv { v with queue := update v.queue (v.home i) (v.queue (v.home i) ++ [i]) } := by
  have coming := inv.coming
  cases inv
  constructor <;> first | assumption | grind -linarith [Disciplined, SchedView.holder]

theorem free (aside : v.Aside i) (nobody : ∀ j, i ∉ owned (v.code j)) :
    Inv { v with used := update v.used i false } := by
  have coming := inv.coming
  cases inv
  constructor <;> first | assumption | grind -linarith [Disciplined, SchedView.holder]

theorem claimFresh (free : v.used i = false) :
    Inv { v with
      state := update v.state i .allocating
      used := update v.used i true
      born := update v.born i (v.born i + 1) } := by
  have coming := inv.coming
  cases inv
  constructor <;> first | assumption | grind -linarith [Disciplined, SchedView.holder]

theorem dequeue (c : Fin n) (i : Slot) :
    Inv { v with queue := update v.queue c ((v.queue c).erase i) } := by
  have fewer : ∀ j, j ∈ (v.queue c).erase i → j ∈ v.queue c := fun _ => List.mem_of_mem_erase
  have nodup := (inv.nodup c).erase i
  have coming := inv.coming
  cases inv
  constructor <;> first | assumption | grind -linarith [Disciplined, SchedView.holder]

end

end Inv

end SchedView

end AvatarKernel
