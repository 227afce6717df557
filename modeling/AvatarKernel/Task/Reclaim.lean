import AvatarKernel.Task.Effect

namespace AvatarKernel

open Transition

namespace Kernel

variable {n : Nat} [NeZero n]

/-- Runs of the machine from boot whose steps all meet a condition. -/
abbrev Reaches (guard : Kernel n → Action n → Prop) (actions : List (Action n)) (s : Kernel n) :
    Prop :=
  Run (Guarded (graph step) guard) (boot n) actions s

def carefully (s : Kernel n) : Action n → Bool
  | .run c =>
    match s.nextOp c with
    | none => true
    | some op =>
      (match s.takes op with
        | some i => !(s.tcb i).onCpu && (List.finRange n).all fun d => s.current d ≠ some i
        | none => true) &&
      match op with
      | .groupMark i _ => (s.tcb i).state = .blocked && !(s.tcb i).onCpu
      | _ => true
  | _ => true

variable {action : Action n} {s : Kernel n}

theorem careful_of_carefully (ok : s.carefully action = true) : s.Careful action := by
  constructor
  · rintro c op i rfl next it
    simp only [carefully, next, it, Bool.and_eq_true, Bool.not_eq_true', List.all_eq_true,
      List.mem_finRange, decide_eq_true_eq, true_imp_iff] at ok
    exact ok.1
  · rintro c i status rfl next
    simp only [carefully, next, Bool.and_eq_true, Bool.not_eq_true', decide_eq_true_eq] at ok
    exact ok.2

theorem inv_of_careful (run : Reaches Careful actions s) : s.view.Inv := by
  induction run with
  | nil => exact boot_inv
  | snoc _ taken inv =>
    obtain ⟨careful, rfl⟩ := taken
    exact step_inv inv careful

/-- The occupancies of the slots, by the number of times the slot has been claimed: the logs, and
what the slots in somebody's hands say about them. -/
structure Books (s : Kernel n) : Prop where
  takenOnce : s.taken.Nodup
  freedOnce : s.freed.Nodup
  freedTaken : ∀ x, x ∈ s.freed → x ∈ s.taken
  past : ∀ i born, (i, born) ∈ s.taken → born ≤ s.born i
  gone : ∀ i, (i, s.born i) ∈ s.taken → (s.tcb i).state = .allocating ∨ s.used i = false
  pending : ∀ i j, i ∈ freeing (s.code j) → (i, s.born i) ∈ s.taken ∧ (i, s.born i) ∉ s.freed
  new : ∀ i j, i ∈ filling (s.code j) → (i, s.born i) ∉ s.taken

section Books

variable {s s' : Kernel n}

/-- Every kind of step keeps the books. A slot is only taken while it is dead, so its occupancy is
not in the log yet; the slots in somebody's hands are neither dead nor free. -/
theorem Books.step (books : s.Books) (inv : s.view.Inv) (change : SlotStep s action s') :
    s'.Books := by
  have held : ∀ i j, i ∈ filling (s.code j) ∨ i ∈ freeing (s.code j) →
      s.used i = true ∧ (s.tcb i).state ≠ .dead := by
    intro i j mine
    have aside := inv.claim i j (mine.elim mem_owned_of_filling mem_owned_of_freeing)
    refine ⟨aside.used, ?_⟩
    rcases aside.state with state | state <;> simp [show (s.tcb i).state = _ from state]
  obtain ⟨takenOnce, freedOnce, freedTaken, past, gone, pending, new⟩ := books
  cases change with
  | quiet quiet state =>
    obtain ⟨slots, fills, frees⟩ := quiet
    simp only [Kernel.slots, Prod.mk.injEq] at slots
    obtain ⟨used, born, taken, freed⟩ := slots
    have stays : ∀ i, (s.tcb i).state = .allocating → (s'.tcb i).state = .allocating := by
      intro i it
      rcases state i with same | ⟨alive, _⟩
      · rw [same, it]
      · simp [it, TaskState.live] at alive
    constructor <;> grind
  | die i it quiet alive =>
    obtain ⟨slots, fills, frees⟩ := quiet
    simp only [Kernel.slots, Prod.mk.injEq] at slots
    have stays : (s.tcb i).state ≠ .allocating := by
      intro it
      simp [it, TaskState.live] at alive
    constructor <;> grind
  | fill _ quiet =>
    obtain ⟨slots, fills, frees⟩ := quiet
    simp only [Kernel.slots, Prod.mk.injEq] at slots
    constructor <;> grind
  | take i used dead slots state =>
    simp only [Kernel.slots, Prod.mk.injEq] at slots
    have untaken : (i, s.born i) ∉ s.taken := by
      intro inside
      rcases gone i inside with state | unused
      · simp [dead] at state
      · simp [used] at unused
    constructor <;> grind
  | claim i _ slots =>
    simp only [Kernel.slots, Prod.mk.injEq] at slots
    obtain ⟨used, born, taken, freed⟩ := slots
    have again : s'.born i = s.born i + 1 := by simp [born]
    have same : ∀ j, j ≠ i → s'.born j = s.born j ∧ s'.used j = s.used j := by
      intro j other
      simp [born, used, other]
    constructor <;> grind
  | abort i _ slots =>
    simp only [Kernel.slots, Prod.mk.injEq] at slots
    obtain ⟨used, born, taken, freed⟩ := slots
    have same : ∀ j, j ≠ i → s'.used j = s.used j := by
      intro j other
      simp [used, other]
    constructor <;> grind
  | free i _ slots =>
    simp only [Kernel.slots, Prod.mk.injEq] at slots
    obtain ⟨used, born, taken, freed⟩ := slots
    have unused : s'.used i = false := by simp [used]
    have same : ∀ j, j ≠ i → s'.used j = s.used j := by
      intro j other
      simp [used, other]
    constructor <;> grind

theorem boot_books : (boot n).Books := by
  constructor <;> simp [boot, freeing, filling]

theorem books_of_careful (run : Reaches Careful actions s) : s.Books := by
  induction run with
  | nil => exact boot_books
  | snoc before taken books =>
    obtain ⟨careful, rfl⟩ := taken
    have inv := inv_of_careful before
    exact books.step inv (step_slots inv careful.2)

end Books

/-- Some CPU still runs on the stack of the task. -/
def OnStack (s : Kernel n) (i : Slot) : Prop :=
  (s.tcb i).onCpu = true ∨ ∃ c, s.current c = some i

/-- No occupancy of a slot is taken or freed twice, or freed without being taken, and no CPU runs on
the stack of a slot that is free, being reclaimed or being filled in. -/
structure ReclaimsSafely (s : Kernel n) : Prop where
  takenOnce : s.taken.Nodup
  freedOnce : s.freed.Nodup
  freedTaken : ∀ occupancy, occupancy ∈ s.freed → occupancy ∈ s.taken
  free : ∀ i, s.used i = false → ¬ s.OnStack i
  held : ∀ i j, i ∈ owned (s.code j) → ¬ s.OnStack i

/-- Task slots are reclaimed once and off the CPU, in every run that takes no task for reclamation
while a CPU still runs it, and in which `exit_group` marks only blocked threads. -/
theorem reclaimsSafely_of_careful {actions : List (Action n)} {s : Kernel n}
    (run : Reaches Careful actions s) : s.ReclaimsSafely := by
  have inv := inv_of_careful run
  have books := books_of_careful run
  refine ⟨books.takenOnce, books.freedOnce, books.freedTaken, ?_, ?_⟩
  · rintro i free (seat | ⟨c, current⟩)
    · have off : (s.tcb i).onCpu = false := (inv.unused i free).2.1
      simp [off] at seat
    · exact (inv.unused i free).2.2 c current
  · rintro i j mine (seat | ⟨c, current⟩)
    · have off : (s.tcb i).onCpu = false := (inv.claim i j mine).onCpu
      simp [off] at seat
    · exact (inv.claim i j mine).current c current

/-- CPU `c` takes `k` steps. -/
def runs (k : Nat) (c : Fin n) : List (Action n) := List.replicate k (.run c)

def startProcess : List (Action 2) :=
  runs 2 0 ++ [.call 0 (.create (.exec 5))] ++ runs 12 0 ++ runs 2 1

def startChild : List (Action 2) :=
  startProcess ++ [.call 1 (.create (.fork (some 9)))] ++ runs 7 1 ++ runs 2 0

def exitChild : List (Action 2) := startChild ++ [.call 0 (.exit 3)] ++ runs 2 0

def exitThenWait : List (Action 2) :=
  exitChild ++ runs 88 0 ++ [.call 1 (.wait ⟨0, false, true⟩)] ++ runs 10 1

theorem reclaimsSafely_after_wait :
    (exitThenWait.foldl step (boot 2)).freed = [(2, 1)] ∧
      (exitThenWait.foldl step (boot 2)).ReclaimsSafely :=
  ⟨by decide +kernel, reclaimsSafely_of_careful
    (run_of_passes (fun _ _ => careful_of_carefully) (by decide +kernel))⟩

/-- The parent reaps the child as soon as it is `TASK_DEAD`: its slot is free while CPU 0 still runs
`task_exit` on its stack. -/
theorem freed_on_cpu : ∃ actions : List (Action 2), ∃ s, Run (graph step) (boot 2) actions s ∧
    s.used 2 = false ∧ (2, 1) ∈ s.freed ∧ s.OnStack 2 :=
  ⟨exitChild ++ [.call 1 (.wait ⟨0, false, true⟩)] ++ runs 10 1,
    _, run_foldl _ _ _, by decide +kernel, by decide +kernel, .inl (by decide +kernel)⟩

theorem step_taken (change : SlotStep s action s') (taken : occupancy ∈ s.taken) :
    occupancy ∈ s'.taken := by
  have logs : ∀ {used born freed log}, s'.slots = (used, born, log, freed) → s'.taken = log :=
    fun same => congrArg (fun slots => slots.2.2.1) same
  cases change with
  | quiet quiet | die _ _ quiet | fill _ quiet =>
    rw [show s'.taken = s.taken from logs quiet.slots]
    exact taken
  | take _ _ _ slots =>
    rw [logs slots]
    exact List.mem_cons_of_mem _ taken
  | claim _ _ slots | abort _ _ slots | free _ _ slots =>
    rw [logs slots]
    exact taken

theorem step_dead (inv : s.view.Inv) (change : SlotStep s action s') (used : s.used i = true)
    (dead : (s.tcb i).state = .dead) :
    s'.born i = s.born i ∧
      ((i, s.born i) ∈ s'.taken ∨ s'.used i = true ∧ (s'.tcb i).state = .dead) := by
  have held : ∀ k j, k ∈ filling (s.code j) ∨ k ∈ freeing (s.code j) → i ≠ k := by
    rintro k j mine rfl
    have aside := inv.claim i j (mine.elim mem_owned_of_filling mem_owned_of_freeing)
    rcases aside.state with state | state <;> simp [view, dead] at state
  cases change with
  | quiet quiet state =>
    have slots := quiet.slots
    simp only [Kernel.slots, Prod.mk.injEq] at slots
    refine ⟨by rw [slots.2.1], .inr ⟨by rw [slots.1, used], ?_⟩⟩
    rcases state i with same | ⟨alive, _⟩
    · rw [same, dead]
    · simp [dead, TaskState.live] at alive
  | die k _ quiet alive _ others =>
    have slots := quiet.slots
    simp only [Kernel.slots, Prod.mk.injEq] at slots
    have other : i ≠ k := by
      rintro rfl
      simp [dead, TaskState.live] at alive
    exact ⟨by rw [slots.2.1], .inr ⟨by rw [slots.1, used], (others i other).trans dead⟩⟩
  | fill k quiet mine _ others =>
    have slots := quiet.slots
    simp only [Kernel.slots, Prod.mk.injEq] at slots
    obtain ⟨j, mine⟩ := mine
    exact ⟨by rw [slots.2.1], .inr ⟨by rw [slots.1, used],
      (others i (held k j (.inl mine))).trans dead⟩⟩
  | take k _ _ slots _ others =>
    simp only [Kernel.slots, Prod.mk.injEq] at slots
    obtain ⟨sameUsed, sameBorn, taken, _⟩ := slots
    refine ⟨by rw [sameBorn], ?_⟩
    by_cases it : i = k
    · exact .inl (by simp [taken, it])
    · exact .inr ⟨by rw [sameUsed, used], (others i it).trans dead⟩
  | claim k free slots _ others =>
    simp only [Kernel.slots, Prod.mk.injEq] at slots
    obtain ⟨sameUsed, sameBorn, _⟩ := slots
    have other : i ≠ k := by
      rintro rfl
      simp [used] at free
    exact ⟨by simp [sameBorn, other], .inr ⟨by simp [sameUsed, other, used],
      (others i other).trans dead⟩⟩
  | abort k mine slots _ others =>
    simp only [Kernel.slots, Prod.mk.injEq] at slots
    obtain ⟨sameUsed, sameBorn, _⟩ := slots
    obtain ⟨j, mine⟩ := mine
    have other := held k j (.inl mine)
    exact ⟨by rw [sameBorn], .inr ⟨by simp [sameUsed, other, used], (others i other).trans dead⟩⟩
  | free k mine slots state =>
    simp only [Kernel.slots, Prod.mk.injEq] at slots
    obtain ⟨sameUsed, sameBorn, _⟩ := slots
    obtain ⟨j, mine⟩ := mine
    have other := held k j (.inr mine)
    exact ⟨by rw [sameBorn], .inr ⟨by simp [sameUsed, other, used], (state i).trans dead⟩⟩

/-- The process has a thread on CPU 0. -/
def startThread : List (Action 2) :=
  startProcess ++ [.call 1 (.create (.thread 0))] ++ runs 7 1 ++ runs 2 0

end Kernel

end AvatarKernel
