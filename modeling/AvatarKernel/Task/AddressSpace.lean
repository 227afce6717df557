import AvatarKernel.Task.Frames

namespace AvatarKernel

open Transition

namespace Kernel

variable {n : Nat} [NeZero n]

/-- The slot holds a task that has not died. A new task counts from the moment its control block is
filled in, when it is still `TASK_ALLOCATING`. -/
def Lives (s : Kernel n) (t : Slot) : Prop :=
  (s.tcb t).state.live = true ∨ ∃ j birth, .setReady t birth ∈ s.code j

def Mourned (s : Kernel n) (i : Slot) : Prop :=
  (s.tcb i).state = .dead ∨ ∃ j, i ∈ freeing (s.code j)

/-- A task that owns its page table dies after all other tasks that have it. -/
def OwnerLast (s : Kernel n) (action : Action n) : Prop :=
  ∀ i p, s.victim action = some i → s.ownedPgd i = some p →
    ∀ t, t ≠ i → s.used t = true → (s.tcb t).pgd = p → ¬ s.Lives t

/-- The page table that a new process brings with it is not owned by any other task: its root is a
page that `vm_create_user_space` has taken from the page allocator. -/
def BringsFresh (s : Kernel n) (action : Action n) : Prop :=
  ∀ me i birth p, s.Executes action me (.initTcb i birth) → birth = .fork (some p) ∨
    birth = .exec p →
    ∀ k, s.used k = true → s.ownedPgd k ≠ some p

structure Orderly (s : Kernel n) (action : Action n) : Prop where
  careful : s.Careful action
  ownerLast : s.OwnerLast action
  fresh : s.BringsFresh action

section Step

variable {s : Kernel n} {action : Action n} {i me : Slot}

theorem ownedPgd_of_identity {s' : Kernel n} (same : (s'.tcb i).identity = (s.tcb i).identity) :
    s'.ownedPgd i = s.ownedPgd i := by
  simp only [Tcb.identity, Identity.mk.injEq] at same
  obtain ⟨_, _, _, user, _, shares, pgd, _⟩ := same
  simp only [ownedPgd, user, shares, pgd]

theorem pgd_of_ownedPgd (owned : s.ownedPgd i = some p) : (s.tcb i).pgd = p ∧ p ≠ 0 := by
  simp only [ownedPgd, Option.ite_none_right_eq_some, Bool.and_eq_true, Bool.not_eq_true',
    bne_iff_ne, Option.some.injEq] at owned
  exact ⟨owned.2, owned.2 ▸ owned.1.2⟩

variable {birth : Birth}

theorem clearTcb_after (runs : s.Executes action me (.clearTcb i birth)) :
    (s.step action).tcb i = Tcb.zero := by
  obtain ⟨c, rest, _, tcb, _⟩ := tcb_after runs i
  rw [tcb]
  simp [exec, modify]

theorem initTcb_after (runs : s.Executes action me (.initTcb i birth)) :
    (s.step action).tcb i = s.newTcb me birth := by
  obtain ⟨c, rest, _, tcb, _⟩ := tcb_after runs i
  rw [tcb]
  rcases initTcb_cases (s.setCode me rest) c me i birth with after | after <;> rw [after] <;>
    simp [filled, setUsed, setCode, modify] <;> rfl

theorem initTcb_used (runs : s.Executes action me (.initTcb i birth)) (built : birth ≠ .fork none) :
    (s.step action).used i = s.used i := by
  obtain ⟨c, rest, _, _, used⟩ := tcb_after runs i
  rw [used]
  cases birth with
  | fork pgd =>
    cases pgd with
    | none => exact absurd rfl built
    | some => rfl
  | _ => rfl

theorem setReady_after (runs : s.Executes action me (.setReady i birth)) :
    (s.step action).tcb i = { s.tcb i with state := .ready } ∧
      (s.step action).used i = s.used i := by
  obtain ⟨c, rest, _, tcb, used⟩ := tcb_after runs i
  rw [tcb, used]
  exact ⟨by simp [exec, setState, modify, setCode], rfl⟩

theorem place_after (runs : s.Executes action me op) (it : op.publishes = some i) :
    ((s.step action).tcb i).identity = (s.tcb i).identity ∧
      ((s.step action).tcb i).state = (s.tcb i).state ∧ (s.step action).used i = s.used i := by
  obtain ⟨c, rest, _, tcb, used⟩ := tcb_after runs i
  rw [tcb, used]
  cases op with
  | place =>
    cases it
    simp only [exec]
    split
    case isTrue => exact ⟨rfl, rfl, rfl⟩
    case isFalse => simp [modify, setCode, Tcb.identity]
  | insert => exact ⟨rfl, rfl, rfl⟩
  | _ => cases it

theorem destroyPgd_after (runs : s.Executes action me (.destroyPgd i)) :
    (s.step action).ownedPgd i = none ∧ ((s.step action).tcb i).state = (s.tcb i).state ∧
      (s.step action).used i = s.used i := by
  obtain ⟨c, rest, _, tcb, used⟩ := tcb_after runs i
  cases owned : s.ownedPgd i with
  | none =>
    have same : (s.setCode me rest).exec c me (.destroyPgd i) =
        (s.setCode me rest, [.freeSlot i]) := by
      simp only [exec, show (s.setCode me rest).ownedPgd i = none from owned]
    rw [same] at tcb used
    rw [ownedPgd, tcb, used]
    exact ⟨owned, rfl, rfl⟩
  | some p =>
    have cleared : (s.setCode me rest).exec c me (.destroyPgd i) =
        ((s.setCode me rest).modify i fun t => { t with pgd := 0 }, [.freeSlot i]) := by
      simp only [exec, show (s.setCode me rest).ownedPgd i = some p from owned]
    rw [cleared] at tcb used
    rw [ownedPgd, tcb, used]
    simp [modify, setCode]

theorem freeSlot_after (runs : s.Executes action me (.freeSlot i)) :
    (s.step action).tcb i = s.tcb i := by
  obtain ⟨c, rest, _, tcb, _⟩ := tcb_after runs i
  rw [tcb]
  rfl

inductive Touch (s : Kernel n) (action : Action n) (i : Slot) : Prop where
  | away (other : ∀ me op, s.Executes action me op → op.owns ≠ some i)
  | clear (me : Slot) (birth : Birth) (runs : s.Executes action me (.clearTcb i birth))
  | init (me : Slot) (birth : Birth) (runs : s.Executes action me (.initTcb i birth))
  | ready (me : Slot) (birth : Birth) (runs : s.Executes action me (.setReady i birth))
  | place (me : Slot) (op : Op n) (runs : s.Executes action me op) (it : op.publishes = some i)
  | destroy (me : Slot) (runs : s.Executes action me (.destroyPgd i))
  | free (me : Slot) (runs : s.Executes action me (.freeSlot i))

theorem touch_cases (s : Kernel n) (action : Action n) (i : Slot) : Touch s action i := by
  by_cases touched : ∃ me op, s.Executes action me op ∧ op.owns = some i
  · obtain ⟨me, op, runs, it⟩ := touched
    cases op with
    | clearTcb _ birth => cases it; exact .clear me birth runs
    | initTcb _ birth => cases it; exact .init me birth runs
    | setReady _ birth => cases it; exact .ready me birth runs
    | place | insert => exact .place me _ runs it
    | destroyPgd => cases it; exact .destroy me runs
    | freeSlot => cases it; exact .free me runs
    | _ => cases it
  · exact .away fun me op runs it => touched ⟨me, op, runs, it⟩

theorem step_pgd (pgd : ((s.step action).tcb i).pgd = p) (real : p ≠ 0) :
    (s.tcb i).pgd = p ∨
      ∃ me birth, s.Executes action me (.initTcb i birth) ∧ (s.newTcb me birth).pgd = p := by
  cases touch_cases s action i with
  | away other =>
    left
    rw [← pgd]
    exact (congrArg Identity.pgd (step_identity s action other)).symm
  | clear _ _ runs =>
    rw [clearTcb_after runs] at pgd
    exact absurd pgd.symm real
  | init me birth runs =>
    rw [initTcb_after runs] at pgd
    exact .inr ⟨me, birth, runs, pgd⟩
  | ready _ _ runs =>
    rw [(setReady_after runs).1] at pgd
    exact .inl pgd
  | place _ _ runs it =>
    left
    rw [← pgd]
    exact (congrArg Identity.pgd (place_after runs it).1).symm
  | destroy _ runs =>
    left
    obtain ⟨c, rest, _, tcb, _⟩ := tcb_after runs i
    rw [tcb] at pgd
    simp only [exec] at pgd
    split at pgd
    case h_1 => exact absurd (by simpa [modify] using pgd.symm) real
    case h_2 => exact pgd
  | free _ runs =>
    rw [freeSlot_after runs] at pgd
    exact .inl pgd

theorem step_ownedPgd (owned : (s.step action).ownedPgd i = some p) :
    s.ownedPgd i = some p ∨ ∃ me birth, s.Executes action me (.initTcb i birth) ∧
      (birth = .fork (some p) ∨ birth = .exec p) := by
  cases touch_cases s action i with
  | away other => exact .inl (ownedPgd_of_identity (step_identity s action other) ▸ owned)
  | clear _ _ runs =>
    rw [ownedPgd, clearTcb_after runs] at owned
    simp [Tcb.zero] at owned
  | init me birth runs =>
    refine .inr ⟨me, birth, runs, ?_⟩
    rw [ownedPgd, initTcb_after runs] at owned
    cases birth with
    | fork pgd => cases pgd <;> simp_all [newTcb, Tcb.zero]
    | _ => simp_all [newTcb, Tcb.zero]
  | ready _ _ runs =>
    rw [ownedPgd, (setReady_after runs).1] at owned
    exact .inl owned
  | place _ _ runs it => exact .inl (ownedPgd_of_identity (place_after runs it).1 ▸ owned)
  | destroy _ runs => simp [(destroyPgd_after runs).1] at owned
  | free _ runs =>
    rw [ownedPgd, freeSlot_after runs] at owned
    exact .inl owned

theorem step_unused (inv : s.view.Inv) (used : s.used i = true)
    (free : (s.step action).used i = false) :
    (∃ me, s.Executes action me (.freeSlot i)) ∨
      ∃ me, s.Executes action me (.initTcb i (.fork none)) := by
  have still : (s.step action).used i = s.used i → False := by
    intro same
    simp [same, used] at free
  cases touch_cases s action i with
  | away other =>
    cases step_slotFrame inv action other with
    | lives same | dies _ same | taken same => exact (still same).elim
    | claimed unused => simp [used] at unused
  | clear _ _ runs =>
    obtain ⟨c, rest, _, _, same⟩ := tcb_after runs i
    exact (still same).elim
  | init me birth runs =>
    by_cases built : birth = .fork none
    · exact .inr ⟨me, built ▸ runs⟩
    · exact (still (initTcb_used runs built)).elim
  | ready _ _ runs => exact (still (setReady_after runs).2).elim
  | place _ _ runs it => exact (still (place_after runs it).2.2).elim
  | destroy _ runs => exact (still (destroyPgd_after runs).2.2).elim
  | free me runs => exact .inl ⟨me, runs⟩

theorem step_mourned (inv : s.view.Inv) (mourned : (s.step action).Mourned i) :
    s.Mourned i ∨ s.victim action = some i := by
  rcases mourned with dead | ⟨j, frees⟩
  · cases touch_cases s action i with
    | away other =>
      cases step_slotFrame inv action other with
      | lives _ state =>
        rcases state with same | ⟨_, alive⟩
        · exact .inl (.inl (same ▸ dead))
        · simp [dead, TaskState.live] at alive
      | dies it => exact .inr it
      | taken _ _ state | claimed _ state => simp [dead] at state
    | clear _ _ runs => simp [clearTcb_after runs, Tcb.zero] at dead
    | init _ _ runs => simp [initTcb_after runs, newTcb_state] at dead
    | ready _ _ runs => simp [(setReady_after runs).1] at dead
    | place _ _ runs it =>
      rw [(place_after runs it).2.1] at dead
      exact .inl (.inl dead)
    | destroy _ runs =>
      rw [(destroyPgd_after runs).2.1] at dead
      exact .inl (.inl dead)
    | free _ runs =>
      rw [freeSlot_after runs] at dead
      exact .inl (.inl dead)
  · left
    obtain ⟨next, inside, it⟩ := List.mem_filterMap.mp frees
    rcases step_follows inv action inside (Op.owns_of_frees it) with ⟨old, _⟩ | ⟨op, runs, follows⟩
    · exact .inr ⟨j, List.mem_filterMap.mpr ⟨next, old, it⟩⟩
    · cases follows with
      | take took =>
        cases it
        obtain ⟨c, _, _, next⟩ := runs
        exact .inl (takes_spec inv next took).2
      | destroy =>
        cases it
        exact .inr ⟨j, List.mem_filterMap.mpr ⟨_, mem_code_of_executes runs, rfl⟩⟩
      | _ => cases it

theorem step_lives (inv : s.view.Inv) (lives : (s.step action).Lives i)
    (pgd : ((s.step action).tcb i).pgd = p) (real : p ≠ 0) :
    s.Lives i ∧ (s.tcb i).pgd = p ∨
      ∃ me birth, s.Executes action me (.initTcb i birth) ∧ (s.newTcb me birth).pgd = p := by
  rcases step_pgd pgd real with before | filled
  case inr => exact .inr filled
  by_cases init : ∃ me birth, s.Executes action me (.initTcb i birth)
  · obtain ⟨me, birth, runs⟩ := init
    exact .inr ⟨me, birth, runs, by rw [← pgd, initTcb_after runs]⟩
  refine .inl ⟨?_, before⟩
  rcases lives with alive | ⟨j, birth, inside⟩
  · cases touch_cases s action i with
    | away other =>
      cases step_slotFrame inv action other with
      | lives _ state =>
        rcases state with same | ⟨was, _⟩
        · exact .inl (same ▸ alive)
        · exact .inl was
      | dies _ _ state | taken _ _ state | claimed _ state => simp [state, TaskState.live] at alive
    | clear _ _ runs =>
      rw [clearTcb_after runs] at pgd
      exact absurd pgd.symm real
    | init me birth runs => exact absurd ⟨me, birth, runs⟩ init
    | ready me birth runs => exact .inr ⟨me, birth, mem_code_of_executes runs⟩
    | place _ _ runs it =>
      rw [(place_after runs it).2.1] at alive
      exact .inl alive
    | destroy _ runs =>
      rw [(destroyPgd_after runs).2.1] at alive
      exact .inl alive
    | free _ runs =>
      rw [freeSlot_after runs] at alive
      exact .inl alive
  · rcases step_follows inv action inside rfl with ⟨old, _⟩ | ⟨op, runs, follows⟩
    · exact .inr ⟨j, birth, old⟩
    · cases follows
      exact absurd ⟨j, birth, runs⟩ init

theorem step_claimed (inv : s.view.Inv) (free : s.used i = false)
    (used : (s.step action).used i = true) : ¬ (s.step action).Lives i := by
  have nobody : ∀ {j : Slot} {op : Op n}, op ∈ s.code j → op.owns ≠ some i := by
    intro j op inside it
    have taken := (inv.claim i j (List.mem_filterMap.mpr ⟨op, inside, it⟩)).used
    simp [view, free] at taken
  rintro (alive | ⟨j, birth, inside⟩)
  · cases step_slotFrame (i := i) inv action fun me op runs =>
      nobody (mem_code_of_executes runs) with
    | lives same | dies _ same | taken same => simp [same, free] at used
    | claimed _ state => simp [state, TaskState.live] at alive
  · rcases step_follows inv action inside rfl with ⟨old, _⟩ | ⟨op, runs, follows⟩
    · exact nobody old rfl
    · cases follows
      exact nobody (mem_code_of_executes runs) rfl

theorem step_filled (inv : s.view.Inv) (runs : s.Executes action me (.initTcb i birth)) :
    ¬ (s.step action).Mourned i := by
  rintro (dead | ⟨j, frees⟩)
  · simp [initTcb_after runs, newTcb_state] at dead
  · obtain ⟨next, inside, it⟩ := List.mem_filterMap.mp frees
    rcases step_follows inv action inside (Op.owns_of_frees it) with ⟨_, away⟩ | ⟨op, too, follows⟩
    · exact away me _ runs rfl
    · cases (executes_unique runs too).2
      cases follows with
      | take took => cases took
      | init => cases it

end Step

structure Spaces (s : Kernel n) : Prop where
  orphaned : ∀ i p, s.used i = true → s.ownedPgd i = some p → s.Mourned i →
    ∀ t, t ≠ i → s.used t = true → (s.tcb t).pgd = p → ¬ s.Lives t
  free : ∀ i, s.used i = false → s.ownedPgd i = none
  blank : ∀ i j birth, .clearTcb i birth ∈ s.code j ∨ .initTcb i birth ∈ s.code j →
    s.ownedPgd i = none
  destroyed : ∀ i j, .freeSlot i ∈ s.code j → s.ownedPgd i = none

section Spaces

variable {s : Kernel n} {action : Action n}

theorem Spaces.used (spaces : s.Spaces) (owned : s.ownedPgd i = some p) : s.used i = true := by
  by_contra unused
  simp [spaces.free i (Bool.eq_false_iff.mpr unused)] at owned

theorem Spaces.fill (spaces : s.Spaces) (inv : s.view.Inv) (fresh : s.BringsFresh action)
    (runs : s.Executes action me (.initTcb t birth)) (pgd : (s.newTcb me birth).pgd = p)
    (owned : s.ownedPgd i = some p) (mourned : s.Mourned i) : False := by
  have running := running_of_executes inv runs rfl rfl
  obtain ⟨_, real⟩ := pgd_of_ownedPgd owned
  cases birth with
  | kernelTask => exact real pgd.symm
  | thread =>
    by_cases same : me = i
    · subst same
      rcases mourned with dead | ⟨j, frees⟩
      · simp [running] at dead
      · exact unowned_of_executes inv runs j (mem_owned_of_freeing frees)
    · exact spaces.orphaned i p (spaces.used owned) owned mourned me same
        (used_of_executes inv runs) pgd
        (.inl (by simp [running, TaskState.live]))
  | fork pgd' =>
    cases pgd' with
    | none => exact real pgd.symm
    | some q =>
      cases pgd
      exact fresh me t _ q runs (.inl rfl) i (spaces.used owned) owned
  | exec q =>
    cases pgd
    exact fresh me t _ q runs (.inr rfl) i (spaces.used owned) owned

theorem Spaces.step (spaces : s.Spaces) (inv : s.view.Inv) (orderly : s.Orderly action) :
    (s.step action).Spaces where
  orphaned := by
    intro i p used owned mourned t other usedT pgd lives
    obtain ⟨_, real⟩ := pgd_of_ownedPgd owned
    have before : s.ownedPgd i = some p := by
      rcases step_ownedPgd owned with before | ⟨me, birth, runs, _⟩
      · exact before
      · exact absurd mourned (step_filled inv runs)
    have was : s.used t = true := by
      by_contra unused
      exact step_claimed inv (Bool.eq_false_iff.mpr unused) usedT lives
    rcases step_mourned inv mourned with mourns | dies
    · rcases step_lives inv lives pgd real with ⟨lived, had⟩ | ⟨me, birth, runs, had⟩
      · exact spaces.orphaned i p (spaces.used before) before mourns t other was had lived
      · exact spaces.fill inv orderly.fresh runs had before mourns
    · rcases step_lives inv lives pgd real with ⟨lived, had⟩ | ⟨me, birth, ⟨c, rfl, _, next⟩, _⟩
      · exact orderly.ownerLast i p dies before t other was had lived
      · simp [victim, next] at dies
  free := by
    intro i unused
    cases owned : (s.step action).ownedPgd i with
    | none => rfl
    | some =>
      rcases step_ownedPgd owned with before | ⟨me, birth, runs, brings⟩
      · rcases step_unused inv (spaces.used before) unused with ⟨me, runs⟩ | ⟨me, runs⟩
        · simp [spaces.destroyed i me (mem_code_of_executes runs)] at before
        · simp [spaces.blank i me _ (.inr (mem_code_of_executes runs))] at before
      · have aside := inv.claim i me (List.mem_filterMap.mpr ⟨_, mem_code_of_executes runs, rfl⟩)
        have used := initTcb_used runs (by rcases brings with rfl | rfl <;> simp)
        simp [used, show s.used i = true from aside.used] at unused
  blank := by
    intro i j birth ahead
    have kept : (∀ me op, s.Executes action me op → op.owns ≠ some i) → s.ownedPgd i = none →
        (s.step action).ownedPgd i = none := fun away before =>
      (ownedPgd_of_identity (step_identity s action away)).trans before
    rcases ahead with clears | fills
    · rcases step_follows inv action clears rfl with ⟨old, away⟩ | ⟨op, runs, follows⟩
      · exact kept away (spaces.blank i j birth (.inl old))
      · cases follows with
        | claim free =>
          refine kept (fun me op too => ?_) (spaces.free i free)
          rw [← (executes_unique runs too).2]
          simp [Op.owns]
    · rcases step_follows inv action fills rfl with ⟨old, away⟩ | ⟨op, runs, follows⟩
      · exact kept away (spaces.blank i j birth (.inr old))
      · cases follows with
        | clear =>
          rw [ownedPgd, clearTcb_after runs]
          rfl
  destroyed := by
    intro i j ahead
    rcases step_follows inv action ahead rfl with ⟨old, away⟩ | ⟨op, runs, follows⟩
    · exact (ownedPgd_of_identity (step_identity s action away)).trans (spaces.destroyed i j old)
    · cases follows with
      | destroy => exact (destroyPgd_after runs).1

theorem boot_spaces : (boot n).Spaces := by
  have nothing : ∀ i, (boot n).ownedPgd i = none := by
    intro i
    by_cases first : i = 0 <;> simp [ownedPgd, boot, Tcb.zero, first]
  constructor
  · intro i p _ owned
    simp [nothing] at owned
  · exact fun i _ => nothing i
  · exact fun i _ _ _ => nothing i
  · exact fun i _ _ => nothing i

theorem spaces_of_orderly (run : Reaches Orderly actions s) : s.view.Inv ∧ s.Spaces := by
  induction run with
  | nil => exact ⟨boot_inv, boot_spaces⟩
  | snoc _ taken ih =>
    obtain ⟨orderly, rfl⟩ := taken
    exact ⟨step_inv ih.1 orderly.careful, ih.2.step ih.1 orderly⟩

end Spaces

def destroying (s : Kernel n) (c : Fin n) : Option (Slot × Nat) :=
  match s.nextOp c with
  | some (.destroyPgd i) => (s.ownedPgd i).map fun p => (i, p)
  | _ => none

/-- When the page table of a process is destroyed, no other task that lives has it, in every run in
which the owner of a page table dies after the other tasks that have it. -/
theorem pgd_destroyed_last {actions : List (Action n)} {s : Kernel n}
    (run : Reaches Orderly actions s) {c : Fin n} {i t : Slot} {p : Nat}
    (destroys : s.destroying c = some (i, p)) (other : t ≠ i) (used : s.used t = true)
    (same : (s.tcb t).pgd = p) : ¬ s.Lives t := by
  obtain ⟨_, spaces⟩ := spaces_of_orderly run
  unfold destroying at destroys
  split at destroys
  case h_1 j next =>
    obtain ⟨q, owned, pair⟩ := Option.map_eq_some_iff.mp destroys
    cases pair
    obtain ⟨me, rest, _, _, code⟩ := nextOp_some next
    exact spaces.orphaned i p (spaces.used owned) owned
      (.inr ⟨me, mem_filterMap_next Op.frees code rfl⟩) t other used same
  case h_2 => cases destroys

def alive (s : Kernel n) (t : Slot) : Bool :=
  (s.tcb t).state.live || allSlots.any fun j => (s.code j).any fun op =>
    match op with
    | .setReady i _ => i = t
    | _ => false

def inOrder (s : Kernel n) (action : Action n) : Bool :=
  s.carefully action &&
  (match s.victim action with
    | none => true
    | some i => (s.ownedPgd i).all fun p =>
      allSlots.all fun t => t = i || !s.used t || (s.tcb t).pgd ≠ p || !s.alive t) &&
  match action with
  | .run c =>
    match s.nextOp c with
    | some (.initTcb _ (.fork (some p))) | some (.initTcb _ (.exec p)) =>
      allSlots.all fun k => !s.used k || s.ownedPgd k ≠ some p
    | _ => true
  | _ => true

theorem alive_of_lives {s : Kernel n} (lives : s.Lives t) : s.alive t = true := by
  rcases lives with state | ⟨j, birth, inside⟩
  · simp [alive, state]
  · simp only [alive, Bool.or_eq_true, List.any_eq_true]
    exact .inr ⟨j, List.mem_finRange j, _, inside, by simp⟩

theorem orderly_of_inOrder {s : Kernel n} (ok : s.inOrder action = true) : s.Orderly action := by
  simp only [inOrder, Bool.and_eq_true] at ok
  obtain ⟨⟨careful, last⟩, fresh⟩ := ok
  refine ⟨careful_of_carefully careful, ?_, ?_⟩
  · intro i p dies owned t other used same lives
    simp only [dies, owned, Option.all_some, List.all_eq_true, allSlots, List.mem_finRange,
      true_imp_iff] at last
    have checked := last t
    simp [other, used, same, alive_of_lives lives] at checked
  · rintro me i birth p ⟨c, rfl, _, next⟩ brings k used owned
    have checked : allSlots.all (fun k => !s.used k || s.ownedPgd k ≠ some p) = true := by
      rcases brings with rfl | rfl <;> simpa only [next] using fresh
    have at' := List.all_eq_true.mp checked k (List.mem_finRange k)
    simp [used, owned] at at'

def threadFirst : List (Action 2) :=
  startThread ++ [.call 0 (.exit 0)] ++ runs 100 0 ++ [.call 1 (.exit 0)] ++ runs 100 1 ++ runs 6 0

theorem pgd_destroyed_after_thread :
    (threadFirst.foldl step (boot 2)).destroying 0 = some (1, 5) ∧
      ((threadFirst.foldl step (boot 2)).tcb 2).pgd = 5 ∧
      ¬ (threadFirst.foldl step (boot 2)).Lives 2 :=
  ⟨by decide +kernel, by decide +kernel, pgd_destroyed_last (c := 0) (i := 1) (p := 5)
    (run_of_passes (fun _ _ => orderly_of_inOrder) (by decide +kernel)) (by decide +kernel)
    (by decide) (by decide +kernel) (by decide +kernel)⟩

/-- The process exits and is collected while its thread is in a queue: the page table that the
thread has is destroyed. -/
theorem pgd_destroyed_under_thread : ∃ actions : List (Action 2), ∃ s,
    Run (graph step) (boot 2) actions s ∧
    s.destroying 0 = some (1, 5) ∧ s.used 2 = true ∧ (s.tcb 2).pgd = 5 ∧ (s.tcb 2).state = .ready ∧
      2 ∈ s.queue 0 :=
  ⟨startThread ++ [.call 1 (.exit 0)] ++ runs 90 1 ++ [.preempt 0] ++ runs 6 0, _, run_foldl _ _ _,
    by decide +kernel, by decide +kernel, by decide +kernel, by decide +kernel, by decide +kernel⟩

end Kernel

end AvatarKernel
