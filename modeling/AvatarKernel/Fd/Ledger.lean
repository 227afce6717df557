import AvatarKernel.Fd.Effect
import AvatarKernel.Lib.Counting

namespace AvatarKernel

open Function

def FdState.slots (s : FdState) (file : Nat) : Nat :=
  (Finset.univ.filter fun i => (s.pool i).vfsFile = some file).card

def pointsTo (target : Option Nat) (file : Nat) : Nat := if target = some file then 1 else 0

def alsoOwed (owed : Nat → Nat) (file : Nat) : Nat → Nat :=
  fun f => owed f + pointsTo (some file) f

/-- The books of the open files. A file has one reference for each slot that points to it and one
for each reference the running call still owes; without any it is not in memory. -/
structure Ledger (s : FdState) (owed : Nat → Nat) : Prop where
  files : ∀ f, s.files f = if s.slots f + owed f = 0 then none else some ↑(s.slots f + owed f)
  free : ∀ i, (s.pool i).type = .free → (s.pool i).vfsFile = none
  fresh : ∀ f, s.nextFile ≤ f → s.slots f + owed f = 0 ∧ f ∉ s.closeLog ∧ f ∉ s.openLog
  unclosed : ∀ f, s.slots f + owed f ≠ 0 → f ∉ s.closeLog
  once : ∀ f ∈ s.openLog, s.slots f + owed f = 0 → s.closeLog.count f = 1

theorem FdState.slots_setObj (s : FdState) (i : Fin fdPoolSize) (obj : FdObj) (f : Nat) :
    (s.setObj i obj).slots f + pointsTo (s.pool i).vfsFile f = s.slots f + pointsTo obj.vfsFile f :=
  Counting.card_update (fun obj : FdObj => obj.vfsFile = some f) s.pool i obj

namespace Ledger

variable {s : FdState} {owed owed' : Nat → Nat}

section

variable (led : Ledger s owed)
include led

theorem setTask (pid : Nat) (task : Option FdTask) :
    Ledger (s.setTask pid task) owed :=
  ⟨led.files, led.free, led.fresh, led.unclosed, led.once⟩

theorem setFd (pid : Nat) (fd : Fin taskMaxFd) (entry : Option (Fin fdPoolSize)) :
    Ledger (s.setFd pid fd entry) owed :=
  led.setTask pid _

theorem setCloexec (pid : Nat) (fd : Fin taskMaxFd) (flag : Bool) :
    Ledger (s.setCloexec pid fd flag) owed :=
  led.setTask pid _

theorem setEpoll (inUse : Fin epollMaxInstances → Bool) :
    Ledger { s with epollInUse := inUse } owed :=
  ⟨led.files, led.free, led.fresh, led.unclosed, led.once⟩

theorem setObj (i : Fin fdPoolSize) (obj : FdObj) (free : obj.type = .free → obj.vfsFile = none)
    (balance : ∀ f, owed' f + pointsTo obj.vfsFile f = owed f + pointsTo (s.pool i).vfsFile f) :
    Ledger (s.setObj i obj) owed' := by
  have total : ∀ f, (s.setObj i obj).slots f + owed' f = s.slots f + owed f := by
    intro f
    have slots := s.slots_setObj i obj f
    have owes := balance f
    omega
  constructor
  · intro f
    rw [total]
    exact led.files f
  · intro j
    by_cases same : j = i
    · subst same
      simpa [FdState.setObj] using free
    · simpa [FdState.setObj, same] using led.free j
  · intro f bound
    rw [total]
    exact led.fresh f bound
  · intro f
    rw [total]
    exact led.unclosed f
  · intro f
    rw [total]
    exact led.once f

theorem setObj_same (i : Fin fdPoolSize) (obj : FdObj)
    (free : obj.type = .free → obj.vfsFile = none) (same : obj.vfsFile = (s.pool i).vfsFile) :
    Ledger (s.setObj i obj) owed :=
  led.setObj i obj free fun f => by rw [same]

theorem setFile (value : Option Int) (others : ∀ f, f ≠ file → owed' f = owed f)
    (here : value = if s.slots file + owed' file = 0 then none
      else some ↑(s.slots file + owed' file))
    (alive : s.slots file + owed file ≠ 0) (still : s.slots file + owed' file ≠ 0) :
    Ledger { s with files := update s.files file value } owed' := by
  have old : file < s.nextFile := by
    by_contra above
    exact alive (led.fresh file (Nat.le_of_not_lt above)).1
  constructor
  · intro f
    by_cases same : f = file
    · subst same
      exact (update_self ..).trans here
    · exact (update_of_ne same ..).trans ((others f same).symm ▸ led.files f)
  · exact led.free
  · intro f bound
    have other : f ≠ file := by
      intro same
      exact absurd (same ▸ bound) (Nat.not_le_of_lt old)
    exact (others f other).symm ▸ led.fresh f bound
  · intro f
    by_cases same : f = file
    · exact fun _ => same ▸ led.unclosed file alive
    · exact (others f same).symm ▸ led.unclosed f
  · intro f opened
    by_cases same : f = file
    · exact fun gone => absurd (same ▸ gone) still
    · exact (others f same).symm ▸ led.once f opened

protected theorem vfsRef (alive : s.slots file + owed file ≠ 0) :
    Ledger (vfsRef s file) (alsoOwed owed file) := by
  have more : alsoOwed owed file file = owed file + 1 := by simp [alsoOwed, pointsTo]
  apply led.setFile _ _ _ alive
  · omega
  · intro f other
    simp [alsoOwed, pointsTo, Ne.symm other]
  · rw [led.files file, if_neg alive, more, if_neg (by omega)]
    exact congrArg some (by push_cast; omega)

end

protected theorem vfsClose (led : Ledger s (alsoOwed owed file)) :
    Ledger (vfsClose s file) owed := by
  have more : alsoOwed owed file file = owed file + 1 := by simp [alsoOwed, pointsTo]
  have others : ∀ f, f ≠ file → alsoOwed owed file f = owed f := by
    intro f other
    simp [alsoOwed, pointsTo, Ne.symm other]
  have alive : s.slots file + alsoOwed owed file file ≠ 0 := by omega
  have count := led.files file
  rw [if_neg alive] at count
  simp only [vfsClose, count]
  by_cases last : s.slots file + owed file = 0
  · rw [if_neg (by push_cast [more]; omega)]
    have old : file < s.nextFile := by
      by_contra above
      exact alive (led.fresh file (Nat.le_of_not_lt above)).1
    have unclosed := led.unclosed file alive
    constructor
    · intro f
      by_cases same : f = file
      · subst same
        exact (update_self ..).trans (if_pos last).symm
      · exact (update_of_ne same ..).trans ((others f same) ▸ led.files f)
    · exact led.free
    · intro f bound
      have other : f ≠ file := by
        intro same
        exact absurd (same ▸ bound) (Nat.not_le_of_lt old)
      have before := led.fresh f bound
      rw [others f other] at before
      exact ⟨before.1, by simpa [other] using before.2.1, before.2.2⟩
    · intro f remains
      have other : f ≠ file := by
        intro same
        exact remains (same ▸ last)
      have before := led.unclosed f (by rw [others f other]; exact remains)
      simpa [other] using before
    · intro f opened gone
      by_cases same : f = file
      · subst same
        rw [List.count_cons_self, List.count_eq_zero.mpr unclosed]
      · rw [List.count_cons_of_ne (Ne.symm same)]
        exact led.once f opened (by rw [others f same]; exact gone)
  · rw [if_pos (by push_cast [more]; omega)]
    apply led.setFile _ (fun f other => (others f other).symm) _ alive last
    rw [if_neg last]
    exact congrArg some (by push_cast [more]; omega)

protected theorem vfsAllocFile (led : Ledger s owed) :
    Ledger (vfsAllocFile s).1 (alsoOwed owed s.nextFile) := by
  have new := led.fresh s.nextFile le_rfl
  have unused : s.slots s.nextFile + owed s.nextFile = 0 := new.1
  have others : ∀ f, f ≠ s.nextFile → alsoOwed owed s.nextFile f = owed f := by
    intro f other
    simp [alsoOwed, pointsTo, Ne.symm other]
  have one : alsoOwed owed s.nextFile s.nextFile = owed s.nextFile + 1 := by
    simp [alsoOwed, pointsTo]
  constructor
  · intro f
    by_cases same : f = s.nextFile
    · subst same
      have slots : (vfsAllocFile s).1.slots s.nextFile = s.slots s.nextFile := rfl
      apply (update_self ..).trans
      rw [slots, one, ← Nat.add_assoc, unused]
      rfl
    · exact (update_of_ne same ..).trans ((others f same).symm ▸ led.files f)
  · exact led.free
  · intro f bound
    have other : f ≠ s.nextFile := Nat.ne_of_gt bound
    exact (others f other).symm ▸ led.fresh f (Nat.le_of_succ_le bound)
  · intro f remains
    by_cases same : f = s.nextFile
    · exact same ▸ new.2.1
    · exact led.unclosed f ((others f same) ▸ remains)
  · intro f opened gone
    have other : f ≠ s.nextFile := fun same => new.2.2 (same ▸ opened)
    exact led.once f opened ((others f other) ▸ gone)

theorem fdPoolFree (led : Ledger s owed) (empty : (s.pool i).vfsFile = none) :
    Ledger (fdPoolFree s i) owed :=
  led.setObj_same i _ (fun _ => rfl) empty.symm

end Ledger

theorem vfsClose_setObj (s : FdState) (file : Nat) (i : Fin fdPoolSize) (obj : FdObj) :
    (vfsClose s file).setObj i obj = vfsClose (s.setObj i obj) file := by
  simp only [vfsClose, FdState.setObj]
  split
  · rfl
  · split <;> rfl

namespace Ledger

variable {s : FdState} {owed : Nat → Nat}

theorem takeSlot (led : Ledger s owed) (free : (s.pool i).type = .free) :
    Ledger (s.takeSlot i) owed :=
  led.setObj_same i _ (fun _ => rfl) (led.free i free).symm

protected theorem fdObjClose (led : Ledger s owed) (i : Fin fdPoolSize) :
    Ledger (fdObjClose s i) owed ∧ ((fdObjClose s i).pool i).vfsFile = none := by
  unfold fdObjClose
  split
  · next free => exact ⟨led, led.free i free⟩
  · next used =>
      cases target : (s.pool i).vfsFile with
      | some file =>
        -- the slot gives up its reference before the file is closed
        have released : Ledger (s.setObj i { s.pool i with vfsFile := none })
            (alsoOwed owed file) := by
          apply led.setObj i _ (fun _ => rfl)
          intro f
          simp [alsoOwed, target, pointsTo]
        dsimp only
        rw [vfsClose_setObj]
        exact ⟨released.vfsClose, by rw [vfsClose_pool, FdState.setObj_pool_self]⟩
      | none =>
        dsimp only
        split
        · unfold epollDestroy epollInstanceFree
          split
          · exact ⟨led.setEpoll _, target⟩
          · exact ⟨led, target⟩
        · exact ⟨led, target⟩

protected theorem dropFd (led : Ledger s owed) (pid : Nat) (fd : Fin taskMaxFd) :
    Ledger (dropFd s pid fd) owed := by
  unfold dropFd
  split
  · exact led
  · next i _ =>
      have closed := (led.setFd pid fd none).fdObjClose i
      exact closed.1.fdPoolFree closed.2

protected theorem copySlot (led : Ledger s owed) (i j : Fin fdPoolSize) (dupOk : Bool)
    (empty : (s.pool j).vfsFile = none) :
    Ledger (copySlot s i j dupOk).1 owed ∧ ((copySlot s i j dupOk).2 = false →
      ((copySlot s i j dupOk).1.pool j).vfsFile = none) := by
  have plain : (s.pool i).vfsFile = none → Ledger (s.setObj j (s.pool i)) owed := by
    intro target
    exact led.setObj_same j _ (led.free i) (target.trans empty.symm)
  unfold copySlot fdObjRef
  rw [FdState.setObj_pool_self]
  split
  · next free => exact ⟨plain (led.free i free), fun _ => by simpa using led.free i free⟩
  · cases target : (s.pool i).vfsFile with
    | some file =>
      have alive : s.slots file + owed file ≠ 0 := by
        have member : i ∈ Finset.univ.filter fun k => (s.pool k).vfsFile = some file := by
          simp [target]
        have positive : 0 < s.slots file := Finset.card_pos.mpr ⟨i, member⟩
        omega
      have copied : Ledger ((vfsRef s file).setObj j (s.pool i)) owed := by
        apply (led.vfsRef alive).setObj j _ (led.free i)
        intro f
        have none : ((vfsRef s file).pool j).vfsFile = none := empty
        simp [alsoOwed, pointsTo, target, none]
      exact ⟨copied, fun refused => by cases refused⟩
    | none => exact ⟨plain target, fun _ => by simpa using target⟩

end Ledger

end AvatarKernel
