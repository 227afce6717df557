import AvatarKernel.Task.Frames

namespace AvatarKernel

open Function
open Transition

section Code

variable {n : Nat}

def program (code : List (Op n)) : List (Op n) := code.filter fun op => !op.isSchedule

theorem program_schedule (rest : List (Op n)) : program (.schedule :: rest) = program rest := rfl

theorem program_cons (other : op.isSchedule = false) (rest : List (Op n)) :
    program (op :: rest) = op :: program rest := by
  simp [program, other]

theorem program_append (ops rest : List (Op n)) :
    program (ops ++ rest) = program ops ++ program rest :=
  List.filter_append ..

end Code

/-- `sys_futex_wait(uaddr, val)` of one task against a store of another value and
`futex_do_wake(uaddr, count)` of a second one. -/
structure FutexRace where
  waiter : Slot
  waker : Slot
  uaddr : Nat
  val : BitVec 32
  new : BitVec 32
  count : Int
  apart : waiter ≠ waker
  changed : new ≠ val
  positive : 1 ≤ count

namespace Kernel

variable {n : Nat} [NeZero n]

/-- The section of `sys_futex_wait` finds the user word as `copy_from_user_bytes` has read it. -/
def QueuesFresh (s : Kernel n) (action : Action n) : Prop :=
  ∀ c me uaddr val curVal, action = .run c → s.current c = some me →
    s.nextOp c = some (.futexQueue uaddr val curVal) → s.word (s.tcb me).pgd uaddr = some curVal

/-- The used entries of the table for an address that stand before entry `k`. -/
def entriesBefore (s : Kernel n) (uaddr : Nat) (k : Fin futexTableSize) :
    List (Fin futexTableSize) :=
  ((List.finRange futexTableSize).take k).filter fun j =>
    (s.futex j).uaddr = uaddr && (s.futex j).waiter.isSome

theorem mem_futexWaiters {s : Kernel n} (entry : s.futex k = ⟨uaddr, some i⟩)
    (few : ((s.entriesBefore uaddr k).length : Int) < count) : k ∈ s.futexWaiters uaddr count := by
  have split : List.finRange futexTableSize = (List.finRange futexTableSize).take k ++
      k :: (List.finRange futexTableSize).drop (k + 1) := by
    conv_lhs => rw [← List.take_append_drop k (List.finRange futexTableSize)]
    rw [List.drop_eq_getElem_cons (by simp)]
    simp
  rw [futexWaiters, split, List.filter_append, List.filter_cons_of_pos (by simp [entry]),
    List.take_append]
  apply List.mem_append_right
  obtain ⟨more, it⟩ : ∃ more, count.toNat - (s.entriesBefore uaddr k).length = more + 1 :=
    ⟨count.toNat - (s.entriesBefore uaddr k).length - 1, by omega⟩
  rw [entriesBefore] at it
  rw [it]
  exact List.mem_cons_self

end Kernel

namespace FutexRace

open Kernel

variable {n : Nat} [NeZero n] (d : FutexRace)

/-- The interleavings of the two tasks: any CPU runs, the timer interrupt comes, or a task is woken
up by something else. No task makes a new call, and what the other tasks execute in the kernel is
the scheduler or the end of a `sys_futex_wait`. -/
def Underway (s : Kernel n) : Action n → Prop
  | .run c => ∀ me op, s.current c = some me → s.nextOp c = some op →
      me = d.waiter ∨ me = d.waker ∨ op = .schedule ∨ ∃ uaddr, op = .futexReturn uaddr
  | .call _ _ => False
  | _ => True

/-- If the waiter is in the table when the section of the waker's `futex_do_wake` runs, fewer than
`count` entries with the address stand before an entry of it. -/
def WakeReaches (s : Kernel n) (action : Action n) : Prop :=
  ∀ c, action = .run c → s.current c = some d.waker →
    s.nextOp c = some (.futexWake d.uaddr d.count) →
      (∃ k, s.futex k = ⟨d.uaddr, some d.waiter⟩) →
        ∃ k, s.futex k = ⟨d.uaddr, some d.waiter⟩ ∧
          ((s.entriesBefore d.uaddr k).length : Int) < d.count

/-- The two tasks of one process are about to begin. -/
structure Start (s : Kernel n) : Prop where
  inv : s.view.Inv
  waits : s.code d.waiter = [.futexRead d.uaddr d.val]
  wakes : s.code d.waker = [.store d.uaddr d.new, .futexWake d.uaddr d.count]
  process : (s.tcb d.waker).pgd = (s.tcb d.waiter).pgd
  awake : (s.tcb d.waiter).state ≠ .blocked

def Early (code : List (Op n)) : Prop :=
  program code = [.store d.uaddr d.new, .futexWake d.uaddr d.count] ∨
    program code = [.futexWake d.uaddr d.count]

/-- How far the two tasks are. If the waiter is blocked, the waker has still to look into the table
and will find it there, or has found it and has still to wake it up. -/
structure Holds (s : Kernel n) : Prop where
  process : (s.tcb d.waker).pgd = (s.tcb d.waiter).pgd
  waits : program (s.code d.waiter) = [.futexRead d.uaddr d.val] ∨
    (∃ curVal, program (s.code d.waiter) = [.futexQueue d.uaddr d.val curVal]) ∨
    program (s.code d.waiter) = [.futexReturn d.uaddr] ∨ program (s.code d.waiter) = []
  wakes : program (s.code d.waker) = [.store d.uaddr d.new, .futexWake d.uaddr d.count] ∨
    (program (s.code d.waker) = [.futexWake d.uaddr d.count] ∨
      ∃ woken : List Slot, program (s.code d.waker) = woken.map .wakeWaiter) ∧
        s.word (s.tcb d.waiter).pgd d.uaddr = some d.new
  blocked : (s.tcb d.waiter).state = .blocked →
    (∃ k, s.futex k = ⟨d.uaddr, some d.waiter⟩) ∧ d.Early (s.code d.waker) ∨
      ∃ woken : List Slot, program (s.code d.waker) = woken.map .wakeWaiter ∧ d.waiter ∈ woken

variable {d} {s : Kernel n}

theorem Start.holds (start : d.Start s) : d.Holds s := by
  obtain ⟨_, waits, wakes, process, awake⟩ := start
  exact ⟨process, .inl (by rw [waits]; rfl), .inl (by rw [wakes]; rfl),
    fun blocked => absurd blocked awake⟩

variable {s' : Kernel n}

theorem Holds.unscheduled (holds : d.Holds s) (same : s'.unscheduled = s.unscheduled)
    (rests : (s'.tcb d.waiter).state = .blocked → (s.tcb d.waiter).state = .blocked) :
    d.Holds s' := by
  have code := code_of_unscheduled same
  have word : s'.word = s.word := congrArg (fun t => t.word) same
  have futex : s'.futex = s.futex := congrArg (fun t => t.futex) same
  have pgd : ∀ i, (s'.tcb i).pgd = (s.tcb i).pgd := fun i => congrArg (fun t => (t.tcb i).pgd) same
  obtain ⟨process, waits, wakes, blocked⟩ := holds
  constructor
  · rwa [pgd, pgd]
  · rwa [code]
  · rwa [code, word, pgd]
  · rw [code, futex]
    exact fun asleep => blocked (rests asleep)

variable {me : Slot}

/-- What matters of the code is the program of the two tasks. -/
theorem Holds.setCode (holds : d.Holds s)
    (same : me = d.waiter ∨ me = d.waker → program ops = program (s.code me)) :
    d.Holds (s.setCode me ops) := by
  have code : ∀ i, i = d.waiter ∨ i = d.waker →
      program ((s.setCode me ops).code i) = program (s.code i) := by
    intro i mine
    by_cases it : i = me
    · subst it
      simp [Kernel.setCode, same mine]
    · simp [Kernel.setCode, it]
  obtain ⟨process, waits, wakes, blocked⟩ := holds
  refine ⟨process, ?_, ?_, ?_⟩
  · rwa [code _ (.inl rfl)]
  · rw [code _ (.inr rfl)]
    exact wakes
  · rw [Early, code _ (.inr rfl)]
    exact blocked

theorem Holds.waiterCode (holds : d.Holds s) (waits : program ops = [.futexRead d.uaddr d.val] ∨
      (∃ curVal, program ops = [.futexQueue d.uaddr d.val curVal]) ∨
      program ops = [.futexReturn d.uaddr] ∨ program ops = []) :
    d.Holds (s.setCode d.waiter ops) := by
  have waker : (s.setCode d.waiter ops).code d.waker = s.code d.waker := by
    simp [Kernel.setCode, d.apart.symm]
  obtain ⟨process, _, wakes, blocked⟩ := holds
  refine ⟨process, ?_, ?_, ?_⟩
  · simpa [Kernel.setCode] using waits
  · rw [waker]
    exact wakes
  · rw [waker]
    exact blocked

theorem setCode_twice (s : Kernel n) (me : Slot) (ops rest : List (Op n)) :
    (s.setCode me rest).setCode me (ops ++ (s.setCode me rest).code me) = s.setCode me
    (ops ++ rest) := by
  simp [Kernel.setCode]

theorem Holds.sleep (holds : d.Holds s)
    (early : program (s.code d.waker) = [.store d.uaddr d.new, .futexWake d.uaddr d.count])
    (waker : s'.code d.waker = s.code d.waker)
    (futex : s'.futex = update s.futex k ⟨d.uaddr, some d.waiter⟩)
    (pgd : ∀ i, (s'.tcb i).pgd = (s.tcb i).pgd)
    (returns : program (s'.code d.waiter) = [.futexReturn d.uaddr]) : d.Holds s' := by
  refine ⟨?_, .inr (.inr (.inl returns)), .inl (by rw [waker, early]), ?_⟩
  · rw [pgd, pgd]
    exact holds.process
  · intro _
    exact .inl ⟨⟨k, by simp [futex]⟩, .inl (by rw [waker, early])⟩

variable {c : Fin n} {op : Op n} {rest : List (Op n)} {result : Kernel n × List (Op n)}

theorem Holds.waiterStep (holds : d.Holds s) (code : s.code d.waiter = op :: rest)
    (other : op.isSchedule = false) (fresh : ∀ uaddr val curVal, op = .futexQueue uaddr val curVal →
      s.word (s.tcb d.waiter).pgd uaddr = some curVal)
    (done : (s.setCode d.waiter rest).exec c d.waiter op = result) :
    d.Holds (result.1.setCode d.waiter (result.2 ++ result.1.code d.waiter)) := by
  have waits := holds.waits
  simp only [code, program_cons other, List.cons.injEq, reduceCtorEq, or_false] at waits
  rcases waits with ⟨rfl, nothing⟩ | ⟨curVal, rfl, nothing⟩ | ⟨rfl, nothing⟩
  · -- the user word is read
    simp only [exec] at done
    split at done <;> subst done <;> rw [setCode_twice] <;> apply holds.waiterCode <;>
      rw [program_append, nothing]
    · exact .inr (.inl ⟨_, rfl⟩)
    · exact .inr (.inr (.inr rfl))
  · simp only [exec] at done
    split at done
    case isTrue =>
      subst done
      rw [setCode_twice]
      apply holds.waiterCode
      rw [program_append, nothing]
      exact .inr (.inr (.inr rfl))
    case isFalse same =>
      have same : curVal = d.val := not_not.mp same
      split at done
      case h_2 =>
        subst done
        rw [setCode_twice]
        apply holds.waiterCode
        rw [program_append, nothing]
        exact .inr (.inr (.inr rfl))
      case h_1 k found =>
        -- the word still holds the old value, so the waker is at its beginning
        have early : program (s.code d.waker) =
            [.store d.uaddr d.new, .futexWake d.uaddr d.count] := by
          rcases holds.wakes with early | ⟨_, word⟩
          · exact early
          · have old := fresh _ _ _ rfl
            rw [word, same] at old
            exact absurd (Option.some.inj old) d.changed
        subst done
        apply holds.sleep early (k := k)
        · simp [Kernel.setCode, setState, Kernel.modify, d.apart.symm]
        · rfl
        · intro i
          by_cases it : i = d.waiter <;> simp [Kernel.setCode, setState, Kernel.modify, it]
        · simp only [Kernel.setCode, setState, Kernel.modify, update_self, List.cons_append,
            List.nil_append, program_schedule]
          rw [program_cons rfl, nothing]
  · subst done
    simp only [exec]
    rw [setCode_twice]
    apply holds.waiterCode
    rw [program_append, nothing]
    exact .inr (.inr (.inr rfl))

/-- The section collects the waiters of the entries that it clears, in the order of the table. -/
theorem collects (s : Kernel n) (uaddr : Nat) (count : Int) :
    ∃ woken : List Slot, ((s.futexWaiters uaddr count).filterMap fun k =>
      ((s.futex k).waiter.map Op.wakeWaiter : Option (Op n))) = woken.map .wakeWaiter ∧
        ∀ k i, k ∈ s.futexWaiters uaddr count → (s.futex k).waiter = some i → i ∈ woken := by
  refine ⟨(s.futexWaiters uaddr count).filterMap fun k => (s.futex k).waiter, ?_, ?_⟩
  · rw [List.map_filterMap]
  · exact fun k i inside waiter => List.mem_filterMap.mpr ⟨k, inside, waiter⟩

theorem Holds.wakerCode (holds : d.Holds s) (waiter : s'.code d.waiter = s.code d.waiter)
    (pgd : ∀ i, (s'.tcb i).pgd = (s.tcb i).pgd)
    (wakes : program (s'.code d.waker) = [.futexWake d.uaddr d.count] ∨
      ∃ woken : List Slot, program (s'.code d.waker) = woken.map .wakeWaiter)
    (word : s'.word (s.tcb d.waiter).pgd d.uaddr = some d.new)
    (blocked : (s'.tcb d.waiter).state = .blocked →
      (∃ k, s'.futex k = ⟨d.uaddr, some d.waiter⟩) ∧ d.Early (s'.code d.waker) ∨
        ∃ woken : List Slot, program (s'.code d.waker) = woken.map .wakeWaiter ∧ d.waiter ∈ woken) :
    d.Holds s' := by
  refine ⟨?_, ?_, .inr ⟨wakes, by rw [pgd]; exact word⟩, blocked⟩
  · rw [pgd, pgd]
    exact holds.process
  · rw [waiter]
    exact holds.waits

theorem map_wakeWaiter_ne {op : Op n} {rest : List (Op n)} (other : ∀ i, op ≠ .wakeWaiter i)
    (woken : List Slot) : op :: rest ≠ woken.map .wakeWaiter := by
  cases woken with
  | nil => exact List.cons_ne_nil _ _
  | cons i => exact fun same => other i (List.cons.inj same).1

/-- The waker wakes up the next of the waiters that it has collected. -/
theorem Holds.wakeNext (holds : d.Holds s) {i : Slot} {later : List Slot}
    (ahead : program (s.code d.waker) = (i :: later).map .wakeWaiter)
    (next : program rest = later.map .wakeWaiter)
    (word : s.word (s.tcb d.waiter).pgd d.uaddr = some d.new) :
    d.Holds ((s.setCode d.waker rest).schedUnblock i) := by
  have frame := unscheduled_schedUnblock (s.setCode d.waker rest) i
  have code := code_of_unscheduled frame
  have after : program (((s.setCode d.waker rest).schedUnblock i).code d.waker) =
      later.map .wakeWaiter := by
    rw [code, code_setCode, next]
  apply holds.wakerCode
  · rw [code, code_setCode_of_ne d.apart]
  · exact fun i => congrArg (fun t => (t.tcb i).pgd) frame
  · exact .inr ⟨later, after⟩
  · exact (congrFun (congrFun (congrArg (fun t => t.word) frame) _) _).trans word
  · intro blocked
    have other : d.waiter ≠ i := by
      rintro rfl
      exact schedUnblock_awake _ _ blocked
    have asleep : ((s.setCode d.waker rest).tcb d.waiter).state = .blocked :=
      schedUnblock_blocked (j := i) blocked
    rcases holds.blocked asleep with ⟨_, early⟩ | ⟨woken, all, mine⟩
    · rcases early with early | early <;> rw [ahead] at early <;> cases early
    · have same : woken = i :: later :=
        List.map_injective_iff.mpr (fun _ _ => Op.wakeWaiter.inj) (all.symm.trans ahead)
      rw [same] at mine
      exact .inr ⟨later, after, (List.mem_cons.mp mine).resolve_left other⟩

theorem Holds.wakerStep (holds : d.Holds s) (code : s.code d.waker = op :: rest)
    (other : op.isSchedule = false)
    (reaches : op = .futexWake d.uaddr d.count → (∃ k, s.futex k = ⟨d.uaddr, some d.waiter⟩) →
      ∃ k, s.futex k = ⟨d.uaddr, some d.waiter⟩ ∧
        ((s.entriesBefore d.uaddr k).length : Int) < d.count)
    (done : (s.setCode d.waker rest).exec c d.waker op = result) :
    d.Holds (result.1.setCode d.waker (result.2 ++ result.1.code d.waker)) := by
  have ahead : program (s.code d.waker) = op :: program rest := by rw [code, program_cons other]
  have wakes := holds.wakes
  rw [ahead] at wakes
  simp only [List.cons.injEq] at wakes
  rcases wakes with ⟨rfl, next⟩ | ⟨⟨rfl, nothing⟩ | ⟨woken, several⟩, word⟩
  · -- the store
    subst done
    apply holds.wakerCode
    · simp [exec, setWord, Kernel.setCode, d.apart]
    · exact fun _ => rfl
    · left
      simpa [exec, setWord, Kernel.setCode] using next
    · simp [exec, setWord, Kernel.setCode, holds.process]
    · intro blocked
      rcases holds.blocked blocked with ⟨entry, _⟩ | ⟨woken, later, _⟩
      · exact .inl ⟨entry, .inr (by simpa [exec, setWord, Kernel.setCode] using next)⟩
      · exact absurd (ahead.symm.trans later) (map_wakeWaiter_ne (by simp) woken)
  · -- the section of `futex_do_wake`
    obtain ⟨woken, collected, every⟩ := collects s d.uaddr d.count
    have after : program (result.2 ++ rest) = woken.map .wakeWaiter := by
      have all : result.2 = woken.map .wakeWaiter := by
        subst done
        exact collected
      rw [program_append, nothing, List.append_nil, all]
      exact List.filter_eq_self.mpr (by simp [Op.isSchedule])
    have left : result.1.code d.waker = rest := by
      subst done
      simp [exec, clearFutex, Kernel.setCode]
    have waker : program
      ((result.1.setCode d.waker (result.2 ++ result.1.code d.waker)).code d.waker) =
        woken.map .wakeWaiter := by
      rw [left, ← after]
      simp [Kernel.setCode]
    apply holds.wakerCode
    · subst done
      simp [exec, clearFutex, Kernel.setCode, d.apart]
    · subst done
      exact fun _ => rfl
    · exact .inr ⟨woken, waker⟩
    · subst done
      exact word
    · intro blocked
      have entry : ∃ k, s.futex k = ⟨d.uaddr, some d.waiter⟩ := by
        have asleep : (s.tcb d.waiter).state = .blocked := by
          subst done
          exact blocked
        rcases holds.blocked asleep with ⟨entry, _⟩ | ⟨woken, later, _⟩
        · exact entry
        · exact absurd (ahead.symm.trans later) (map_wakeWaiter_ne (by simp) woken)
      obtain ⟨k, mine, few⟩ := reaches rfl entry
      exact .inr ⟨woken, waker, every k d.waiter (mem_futexWaiters mine few) (by rw [mine])⟩
  · cases woken with
    | nil => cases several
    | cons i later =>
      obtain ⟨rfl, next⟩ := List.cons.inj several
      subst done
      simp only [exec, setCode_self]
      exact holds.wakeNext (by rw [ahead, next, List.map_cons]) next word

/-- The pieces of code that are executed. -/
def Races : Op n → Prop
  | .schedule => True
  | .futexRead _ _ => True
  | .futexQueue _ _ _ => True
  | .futexReturn _ => True
  | .store _ _ => True
  | .futexWake _ _ => True
  | .wakeWaiter _ => True
  | _ => False

theorem Holds.races (holds : d.Holds s) (mine : me = d.waiter ∨ me = d.waker)
    (code : s.code me = op :: rest) : Races op := by
  by_cases schedules : op.isSchedule = true
  · cases op <;> trivial
  · have other : op.isSchedule = false := by simpa using schedules
    rcases mine with rfl | rfl
    · have waits := holds.waits
      simp only [code, program_cons other, List.cons.injEq, reduceCtorEq, or_false] at waits
      rcases waits with ⟨rfl, _⟩ | ⟨_, rfl, _⟩ | ⟨rfl, _⟩ <;> trivial
    · have wakes := holds.wakes
      rw [code, program_cons other] at wakes
      simp only [List.cons.injEq] at wakes
      rcases wakes with ⟨rfl, _⟩ | ⟨⟨rfl, _⟩ | ⟨woken, several⟩, _⟩
      · trivial
      · trivial
      · cases woken with
        | nil => cases several
        | cons =>
          rw [List.map_cons, List.cons.injEq] at several
          rw [several.1]
          trivial

theorem Holds.races_of_underway (holds : d.Holds s) (underway : d.Underway s (.run c))
    (next : s.nextOp c = some op) : Races op := by
  obtain ⟨me, rest, _, current, code⟩ := nextOp_some next
  rcases underway me op current next with mine | mine | rfl | ⟨uaddr, rfl⟩
  · exact holds.races (.inl mine) code
  · exact holds.races (.inr mine) code
  · trivial
  · trivial

theorem Holds.careful (holds : d.Holds s) (underway : d.Underway s action) : s.Careful action := by
  constructor
  · rintro c op i rfl next it
    have races := holds.races_of_underway underway next
    cases op <;> first | cases it | exact absurd races id
  · rintro c i status rfl next
    exact absurd (holds.races_of_underway underway next) id

theorem exec_holds (holds : d.Holds s) (underway : d.Underway s (.run c))
    (current : s.current c = some me) (code : s.code me = op :: rest) (next : s.nextOp c = some op)
    (fresh : s.QueuesFresh (.run c)) (reaches : d.WakeReaches s (.run c))
    (done : (s.setCode me rest).exec c me op = result) :
    d.Holds (result.1.setCode me (result.2 ++ result.1.code me)) := by
  by_cases it : op = .schedule
  · subst it done
    have popped : d.Holds (s.setCode me rest) :=
      holds.setCode fun _ => by rw [code, program_schedule]
    simp only [exec, Kernel.setCode_self]
    exact popped.unscheduled (unscheduled_schedSection _ c) schedSection_blocked
  · have other : op.isSchedule = false := by
      cases op <;> first | rfl | exact absurd rfl it
    by_cases waits : me = d.waiter
    · subst waits
      exact holds.waiterStep code other
        (fun uaddr val curVal it => fresh c _ uaddr val curVal rfl current (it ▸ next)) done
    by_cases wakes : me = d.waker
    · subst wakes
      exact holds.wakerStep code other (fun it => reaches c rfl current (it ▸ next)) done
    -- another task returns from `sys_futex_wait`
    obtain ⟨uaddr, rfl⟩ :=
      ((underway me op current next).resolve_left waits |>.resolve_left wakes).resolve_left it
    subst done
    simp only [exec]
    rw [setCode_twice]
    exact holds.setCode fun mine => absurd mine (not_or.mpr ⟨waits, wakes⟩)

theorem step_holds (holds : d.Holds s) (underway : d.Underway s action)
    (fresh : s.QueuesFresh action) (reaches : d.WakeReaches s action) : d.Holds
    (s.step action) := by
  cases action with
  | run c =>
    simp only [Kernel.step]
    cases runCpu_cases s c with
    | resume _ after =>
      rw [after]
      exact holds.unscheduled (unscheduled_markRunning s c) markRunning_blocked
    | switch _ _ after =>
      rw [after]
      exact holds.unscheduled rfl id
    | idle _ _ after =>
      rw [after]
      exact holds.unscheduled (unscheduled_schedSection s c) schedSection_blocked
    | rest _ _ _ _ after =>
      rw [after]
      exact holds
    | exec me _ _ _ current code next after =>
      rw [after]
      exact exec_holds holds underway current code next fresh reaches rfl
  | call => exact absurd underway id
  | preempt c =>
    rcases step_preempt s c with same | ⟨me, _, _, after⟩
    · rw [same]
      exact holds
    · rw [after]
      exact holds.setCode fun _ => program_schedule _
  | wake i => exact holds.unscheduled (unscheduled_schedUnblock s i) schedUnblock_blocked

/-- In every interleaving of the two tasks in which the section of `sys_futex_wait` finds the word
unchanged since it was read, and that of `futex_do_wake` has not yet collected `count` others when
it comes to the waiter's entry, the waiter is not blocked once the waker is through. -/
theorem not_lost_of_fresh {s₀ : Kernel n} {actions : List (Action n)} (start : d.Start s₀)
    (run : Run (Guarded (graph step) fun s action =>
      d.Underway s action ∧ s.QueuesFresh action ∧ d.WakeReaches s action) s₀ actions s)
    (through : program (s.code d.waker) = []) : (s.tcb d.waiter).state ≠ .blocked := by
  have both : s.view.Inv ∧ d.Holds s := by
    clear through
    induction run with
    | nil => exact ⟨start.inv, start.holds⟩
    | snoc _ taken before =>
      obtain ⟨⟨underway, fresh, reaches⟩, rfl⟩ := taken
      exact ⟨step_inv before.1 (before.2.careful underway),
        step_holds before.2 underway fresh reaches⟩
  intro blocked
  rcases both.2.blocked blocked with ⟨_, early⟩ | ⟨woken, later, mine⟩
  · simp [Early, through] at early
  · rw [through] at later
    rw [List.map_eq_nil_iff.mp later.symm] at mine
    cases mine

def underway (d : FutexRace) (s : Kernel n) : Action n → Bool
  | .run c =>
    match s.current c, s.nextOp c with
    | some me, some op => me = d.waiter || me = d.waker || op.isSchedule
    | _, _ => true
  | .call _ _ => false
  | _ => true

def queuesFresh (s : Kernel n) : Action n → Bool
  | .run c =>
    match s.current c, s.nextOp c with
    | some me, some (.futexQueue uaddr _ curVal) => s.word (s.tcb me).pgd uaddr = some curVal
    | _, _ => true
  | _ => true

/-- Nobody but the waiter is in the table. -/
def wakeReaches (d : FutexRace) (s : Kernel n) (_ : Action n) : Bool :=
  (List.finRange futexTableSize).all fun k =>
    (s.futex k).waiter = none || (s.futex k).waiter = some d.waiter && k.val = 0

theorem sound_underway (ok : underway d s action = true) : d.Underway s action := by
  cases action with
  | run c =>
    intro me op current next
    simp only [underway, current, next, Bool.or_eq_true, decide_eq_true_eq] at ok
    rcases ok with (mine | mine) | schedules
    · exact .inl mine
    · exact .inr (.inl mine)
    · cases op <;> first | exact .inr (.inr (.inl rfl)) | cases schedules
  | call => cases ok
  | preempt | wake => trivial

theorem sound_wakeReaches (ok : wakeReaches d s action = true) : d.WakeReaches s action := by
  rintro c - - - ⟨k, entry⟩
  have only := List.all_eq_true.mp ok k (List.mem_finRange k)
  simp only [entry, reduceCtorEq, decide_false, Bool.false_or, decide_true, Bool.true_and,
    decide_eq_true_eq] at only
  refine ⟨k, entry, ?_⟩
  have positive := d.positive
  rw [entriesBefore, only, List.take_zero, List.filter_nil, List.length_nil]
  omega

theorem sound_queuesFresh (ok : queuesFresh s action = true) : s.QueuesFresh action := by
  rintro c me uaddr val curVal rfl current next
  simpa [queuesFresh, current, next] using ok

def begin (d : FutexRace) (s : Kernel n) : Kernel n :=
  (s.setCode d.waiter [.futexRead d.uaddr d.val]).setCode d.waker
    [.store d.uaddr d.new, .futexWake d.uaddr d.count]

theorem start_begin (inv : s.view.Inv) (waiter : s.code d.waiter = []) (waker : s.code d.waker = [])
    (waits : (s.tcb d.waiter).state = .running) (wakes : (s.tcb d.waker).state = .running)
    (process : (s.tcb d.waker).pgd = (s.tcb d.waiter).pgd) : d.Start (begin d s) := by
  constructor
  · have first := inv.push d.waiter [.futexRead d.uaddr d.val] rfl (by simp [reaped, Op.reaps])
      (.inl waits)
    rw [show s.view.code d.waiter = [] from waiter, List.append_nil] at first
    have second := first.push d.waker [.store d.uaddr d.new, .futexWake d.uaddr d.count] rfl
      (by simp [reaped, Op.reaps]) (.inl wakes)
    simpa [begin, view_setCode, d.apart.symm, show s.view.code d.waker = [] from waker] using second
  · simp [begin, Kernel.setCode, d.apart]
  · simp [begin, Kernel.setCode]
  · exact process
  · simp [begin, Kernel.setCode, waits]

def sampleRace : FutexRace where
  waiter := 1
  waker := 2
  uaddr := 100
  val := 7
  new := 8
  count := 1
  apart := by decide
  changed := by decide
  positive := by decide

def wordSet : Kernel 2 :=
  (startThread ++ [Action.call 0 (.store 100 7)] ++ runs 1 0).foldl step (boot 2)

theorem start_wordSet : sampleRace.Start (begin sampleRace wordSet) := by
  apply start_begin
  · exact inv_of_careful (run_of_passes (fun _ _ => careful_of_carefully) (by decide +kernel))
  · exact List.isEmpty_iff.mp (by decide +kernel)
  · exact List.isEmpty_iff.mp (by decide +kernel)
  · decide +kernel
  · decide +kernel
  · decide +kernel

/-- The conditions of the run as a program. -/
def checks (s : Kernel 2) (action : Action 2) : Bool :=
  underway sampleRace s action && (queuesFresh s action && wakeReaches sampleRace s action)

theorem sound_checks (s : Kernel 2) (action : Action 2) (ok : checks s action = true) :
    sampleRace.Underway s action ∧ s.QueuesFresh action ∧ sampleRace.WakeReaches s action := by
  rw [checks, Bool.and_eq_true, Bool.and_eq_true] at ok
  exact ⟨sound_underway ok.1, sound_queuesFresh ok.2.1, sound_wakeReaches ok.2.2⟩

theorem not_lost_when_first :
    (((runs 2 1 ++ runs 3 0).foldl step (begin sampleRace wordSet)).tcb sampleRace.waiter).state ≠
      .blocked :=
  not_lost_of_fresh start_wordSet (run_of_passes sound_checks (by decide +kernel))
    (List.isEmpty_iff.mp (by decide +kernel))

/-- The store and the whole wake-up fall between the read of the word and the section: the waiter is
left blocked in the table. -/
theorem lost_between : ∃ (d : FutexRace) (s₀ s : Kernel 2) (actions : List (Action 2)), d.Start s₀ ∧
    Run (Guarded (graph step) d.Underway) s₀ actions s ∧ s.code d.waker = [] ∧
      (s.tcb d.waiter).state = .blocked ∧ s.word (s.tcb d.waiter).pgd d.uaddr = some d.new :=
  ⟨sampleRace, begin sampleRace wordSet, _, runs 1 1 ++ runs 2 0 ++ runs 1 1,
    start_wordSet, run_of_passes (fun _ _ => sound_underway) (by decide +kernel),
    List.isEmpty_iff.mp (by decide +kernel), by decide +kernel, by decide +kernel⟩

end FutexRace

end AvatarKernel
