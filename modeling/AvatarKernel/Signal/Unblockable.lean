import AvatarKernel.Signal.Interruption

namespace AvatarKernel

open Transition
open scoped Numerals

variable {a : Arch}

/-- `rt_sigaction` with what `act` points to. The old action goes to user memory. -/
def sigactionHandler (t : SigTask a) (sig : Int) (act : Option SigAction)
    (sigsetsize : BitVec 64) : SigTask a × BitVec 64 :=
  if sigsetsize ≠ 8 then (t, -22)
  else if sig < 1 ∨ sig > nsig ∨ sig = sigkill ∨ sig = sigstop then (t, -22)
  else
    match act with
    | none => (t, 0)
    | some action =>
      let actions := Function.update t.sigActions (Fin.ofNat 64 (sig.toNat - 1)) action
      ({ t with sigActions := actions }, 0)

def SigTask.changeMask (t : SigTask a) (how : Int) (m : BitVec 64) : SigTask a × BitVec 64 :=
  if how = 0 then ({ t with blockedSigs := t.blockedSigs ||| m }, 0)
  else if how = 1 then ({ t with blockedSigs := t.blockedSigs &&& ~~~m }, 0)
  else if how = 2 then ({ t with blockedSigs := m }, 0)
  else (t, -22)

def sigprocmaskHandler (t : SigTask a) (how : Int) (nset oset : BitVec 64) :
    SigTask a × BitVec 64 :=
  let stored := if oset = 0 then some t.mem
    else copyToUserBytes t.mem (Memory.byteAt t.blockedSigs) oset.toNat 8
  match stored with
  | none => (t, efault)
  | some mem =>
    let t := { t with mem := mem }
    if nset = 0 then (t, 0)
    else
      match copyFromUserBytes mem nset.toNat 8 with
      | none => (t, efault)
      | some set =>
        t.changeMask how (Memory.wordOf set &&& ~~~(sigBit sigkill ||| sigBit sigstop))

def clearedTask (frame : TrapFrame a) (mem : UserMemory) : SigTask a :=
  ⟨0, 0, 0, 0, fun _ => ⟨sigDfl, 0, 0⟩, frame, mem⟩

/-- The signals a child inherits. -/
def forkSignals (parent : SigTask a) : SigTask a :=
  { parent with pendingSigs := 0, sigFrameSp := 0, sigSavedBlocked := 0 }

abbrev SigTable (a : Arch) := Nat → SigTask a

/-- What happens to the signal state of the tasks, by slot of the task pool. -/
inductive SigCall (a : Arch) where
  /-- `spill` is what the tasks are if `old`, which is not checked, leads into kernel memory. -/
  | sigaction (slot : Nat) (sig : Int) (act : Option SigAction) (old sigsetsize : BitVec 64)
      (spill : SigTable a)
  | sigprocmask (slot : Nat) (how : Int) (nset oset : BitVec 64)
  | deliver (slot : Nat)
  | sigreturn (slot : Nat)
  | fork (slot child : Nat)
  | execve (slot new : Nat) (frame : TrapFrame a) (mem : UserMemory)
  | create (slot : Nat) (frame : TrapFrame a) (mem : UserMemory)
  /-- User code runs and signals are sent. -/
  | outside (slot : Nat) (pending : BitVec 64) (frame : TrapFrame a) (mem : UserMemory)

/-- The old action, `sa_handler` to `sa_mask`, is stored below the limit of user pointers. -/
def OldInUser (old : BitVec 64) : Prop := old.toNat + 32 ≤ userPtrLimit

instance OldInUser.decidable (old : BitVec 64) : Decidable (OldInUser old) :=
  inferInstanceAs (Decidable (_ ≤ _))

def SigTable.next (s : SigTable a) : SigCall a → SigTable a
  | .sigaction slot sig act old sigsetsize spill =>
    if OldInUser old then
      Function.update s slot (sigactionHandler (s slot) sig act sigsetsize).1
    else spill
  | .sigprocmask slot how nset oset =>
    Function.update s slot (sigprocmaskHandler (s slot) how nset oset).1
  | .deliver slot => Function.update s slot (deliverPendingSignals (s slot)).1
  | .sigreturn slot => Function.update s slot (rtSigreturn (s slot))
  | .fork slot child => Function.update s child (forkSignals (s slot))
  | .execve slot new frame mem =>
    Function.update s new { clearedTask frame mem with blockedSigs := (s slot).blockedSigs }
  | .create slot frame mem => Function.update s slot (clearedTask frame mem)
  | .outside slot pending frame mem =>
    Function.update s slot { s slot with pendingSigs := pending, frame := frame, mem := mem }

def SigCall.Plain (_ : SigTable a) : SigCall a → Prop
  | .sigaction _ _ _ old _ _ => OldInUser old
  | _ => True

/-- The bits of `SIGKILL` and `SIGSTOP`. -/
def unblockable : List (Fin nsig) := [⟨8, by decide⟩, ⟨18, by decide⟩]

/-- No field that ever becomes the mask holds an unblockable signal. -/
structure SigTask.Exposed (t : SigTask a) : Prop where
  blocked : ∀ i ∈ unblockable, t.blockedSigs.getLsbD i = false
  saved : ∀ i ∈ unblockable, t.sigSavedBlocked.getLsbD i = false
  default : ∀ i ∈ unblockable, (t.sigActions i).saHandler = sigDfl

theorem unblockable_val : ∀ i ∈ unblockable, i.val = 8 ∨ i.val = 18 := by decide

theorem masked_clear (mask : BitVec 64) (mem : i ∈ unblockable) :
    (mask &&& ~~~(sigBit sigkill ||| sigBit sigstop)).getLsbD i = false := by
  have set : ∀ i ∈ unblockable, (sigBit sigkill ||| sigBit sigstop).getLsbD i = true := by decide
  rw [BitVec.getLsbD_and, BitVec.getLsbD_not, set i mem]
  simp

namespace SigTask.Exposed

variable {t : SigTask a} (exposed : t.Exposed)

include exposed

theorem sigaction (sig : Int) (act : Option SigAction) (sigsetsize : BitVec 64) :
    (sigactionHandler t sig act sigsetsize).1.Exposed := by
  unfold sigactionHandler
  by_cases size : sigsetsize ≠ 8
  · rwa [if_pos size]
  rw [if_neg size]
  by_cases refused : sig < 1 ∨ sig > nsig ∨ sig = sigkill ∨ sig = sigstop
  · rwa [if_pos refused]
  rw [if_neg refused]
  cases act with
  | none => exact exposed
  | some action =>
    refine ⟨exposed.blocked, exposed.saved, fun i mem => ?_⟩
    have other : i ≠ Fin.ofNat 64 (sig.toNat - 1) := by
      intro same
      have place := unblockable_val i mem
      rw [same, Fin.val_ofNat] at place
      simp only [nsig, sigkill, sigstop] at refused
      omega
    dsimp only
    rw [Function.update_of_ne other]
    exact exposed.default i mem

theorem changeMask (how : Int) (clear : ∀ i ∈ unblockable, m.getLsbD i = false) :
    (t.changeMask how m).1.Exposed := by
  unfold SigTask.changeMask
  split
  · refine ⟨fun i mem => ?_, exposed.saved, exposed.default⟩
    rw [BitVec.getLsbD_or, exposed.blocked i mem, clear i mem, Bool.or_false]
  split
  · refine ⟨fun i mem => ?_, exposed.saved, exposed.default⟩
    rw [BitVec.getLsbD_and, exposed.blocked i mem, Bool.false_and]
  split
  · exact ⟨clear, exposed.saved, exposed.default⟩
  · exact exposed

theorem sigprocmask (how : Int) (nset oset : BitVec 64) :
    (sigprocmaskHandler t how nset oset).1.Exposed := by
  unfold sigprocmaskHandler
  generalize (if oset = 0 then some t.mem else _) = stored
  cases stored with
  | none => exact exposed
  | some memory =>
    have written : SigTask.Exposed { t with mem := memory } :=
      ⟨exposed.blocked, exposed.saved, exposed.default⟩
    by_cases null : nset = 0
    · simpa only [if_pos null] using written
    simp only [if_neg null]
    generalize copyFromUserBytes memory nset.toNat 8 = copied
    cases copied with
    | none => exact written
    | some set => exact written.changeMask how fun i mem => masked_clear _ mem

theorem deliverToHandler (other : i ∉ unblockable) : (deliverToHandler t i).1.Exposed := by
  have masked : ∀ j ∈ unblockable, (t.blockedSigs ||| (sigBit (i.val + 1) |||
      ((t.sigActions i).saMask &&& ~~~(sigBit sigkill ||| sigBit sigstop)))).getLsbD j = false := by
    intro j mem
    have apart : i.val ≠ j := fun same => other (Fin.ext same ▸ mem)
    rw [BitVec.getLsbD_or, BitVec.getLsbD_or, exposed.blocked j mem, masked_clear _ mem,
      sigBit_getLsbD, decide_eq_false apart]
    rfl
  unfold AvatarKernel.deliverToHandler
  dsimp only
  split
  · exact ⟨exposed.blocked, exposed.blocked, exposed.default⟩
  · exact ⟨masked, exposed.blocked, exposed.default⟩

theorem deliver : (deliverPendingSignals t).1.Exposed := by
  have taken (sig : Nat) :
      SigTask.Exposed { t with pendingSigs := t.pendingSigs &&& ~~~sigBit sig } :=
    ⟨exposed.blocked, exposed.saved, exposed.default⟩
  unfold deliverPendingSignals
  split
  · exact exposed
  next i next =>
    dsimp only
    by_cases ignored : (t.sigActions i).saHandler = sigIgn
    · rw [if_pos ignored]
      exact taken _
    rw [if_neg ignored]
    by_cases default : (t.sigActions i).saHandler = sigDfl
    · rw [if_pos default]
      split <;> exact taken _
    · rw [if_neg default]
      exact (taken _).deliverToHandler fun mem => default (exposed.default i mem)

theorem sigreturn : (rtSigreturn t).Exposed := by
  by_cases restores : t.Restores
  · rw [rtSigreturn_of_restores restores]
    exact ⟨exposed.saved, exposed.saved, exposed.default⟩
  · rw [rtSigreturn, sigreturnHandler_of_not_restores restores]
    exact ⟨exposed.blocked, exposed.saved, exposed.default⟩

theorem kills (pending : t.pendingSigs.getLsbD 8 = true)
    (first : ∀ i : Fin nsig, i.val < 8 → t.Unblocked i → (t.sigActions i).saHandler = sigDfl) :
    ∃ sig, (deliverPendingSignals t).2 = .exits sig := by
  have kill : (⟨8, by decide⟩ : Fin nsig) ∈ unblockable := List.mem_cons_self
  have unblocked : t.Unblocked 8 := by
    rw [SigTask.Unblocked, BitVec.getLsbD_and, BitVec.getLsbD_not, pending, exposed.blocked _ kill]
    rfl
  cases next : nextSignal t with
  | none => exact absurd unblocked (nextSignal_none next 8)
  | some i =>
    have least : i.val ≤ 8 := (nextSignal_some next).2 8 unblocked
    have default : (t.sigActions i).saHandler = sigDfl := by
      rcases lt_or_eq_of_le least with below | here
      · exact first i below (nextSignal_some next).1
      · rw [show i = ⟨8, by decide⟩ from Fin.ext here]
        exact exposed.default _ kill
    have ends : i.val + 1 ∉ ignoredByDefault := by
      simp only [ignoredByDefault, List.mem_cons, List.not_mem_nil, or_false]
      omega
    refine ⟨i.val + 1, ?_⟩
    rw [deliverPendingSignals, next]
    simp only [default, if_neg ends, if_true, show sigDfl ≠ sigIgn by decide, if_false]

end SigTask.Exposed

theorem SigTable.next_exposed (exposed : ∀ i, (s i).Exposed) {event : SigCall a}
    (plain : event.Plain s) (i : Nat) : (s.next event i).Exposed := by
  have cleared (frame : TrapFrame a) (mem : UserMemory) : (clearedTask frame mem).Exposed :=
    ⟨fun _ _ => BitVec.getLsbD_zero, fun _ _ => BitVec.getLsbD_zero, fun _ _ => rfl⟩
  have updated {slot : Nat} {t : SigTask a} (task : t.Exposed) :
      (Function.update s slot t i).Exposed := by
    rw [Function.update_apply]
    split
    · exact task
    · exact exposed i
  cases event with
  | sigaction slot sig act old sigsetsize spill =>
    have inUser : OldInUser old := plain
    rw [SigTable.next, if_pos inUser]
    exact updated ((exposed slot).sigaction sig act sigsetsize)
  | sigprocmask slot how nset oset => exact updated ((exposed slot).sigprocmask how nset oset)
  | deliver slot => exact updated (exposed slot).deliver
  | sigreturn slot => exact updated (exposed slot).sigreturn
  | fork slot =>
    exact updated ⟨(exposed slot).blocked, fun _ _ => BitVec.getLsbD_zero, (exposed slot).default⟩
  | execve slot _ frame mem =>
    exact updated ⟨(exposed slot).blocked, fun _ _ => BitVec.getLsbD_zero, fun _ _ => rfl⟩
  | create _ frame mem => exact updated (cleared frame mem)
  | outside slot =>
    exact updated ⟨(exposed slot).blocked, (exposed slot).saved, (exposed slot).default⟩

/-- In every run in which the old actions go to user memory, no task blocks `SIGKILL` or `SIGSTOP`
or changes their action, and a pending `SIGKILL` ends the task at the next delivery, unless a signal
with a lower number and another action is pending and not blocked. -/
theorem unblockable_signals (frames : Nat → TrapFrame a) (mems : Nat → UserMemory)
    (events : List (SigCall a)) (s : SigTable a)
    (run : Run (Guarded (graph SigTable.next) SigCall.Plain)
      (fun i => clearedTask (frames i) (mems i)) events s) (slot : Nat) :
    (∀ i ∈ unblockable, (s slot).blockedSigs.getLsbD i = false ∧
      ((s slot).sigActions i).saHandler = sigDfl) ∧
    ((s slot).pendingSigs.getLsbD 8 = true →
      (∀ i : Fin nsig, i.val < 8 → (s slot).Unblocked i →
        ((s slot).sigActions i).saHandler = sigDfl) →
      ∃ sig, (deliverPendingSignals (s slot)).2 = .exits sig) := by
  have exposed : ∀ i, (s i).Exposed := by
    refine run.guarded (fun before _ exposed plain => before.next_exposed exposed plain) fun i => ?_
    exact ⟨fun _ _ => BitVec.getLsbD_zero, fun _ _ => BitVec.getLsbD_zero, fun _ _ => rfl⟩
  exact ⟨fun i mem => ⟨(exposed slot).blocked i mem, (exposed slot).default i mem⟩,
    (exposed slot).kills⟩

def killedWith (other : Nat) : List (SigCall .x86_64) :=
  [.sigaction 0 1 (some ⟨0x400000, 0, 0⟩) 0 8 fun _ => twoSignals,
    .outside 0 (sigBit other ||| sigBit sigkill) twoSignals.frame twoSignals.mem]

def bootTable : SigTable .x86_64 := fun _ => clearedTask twoSignals.frame twoSignals.mem

theorem killedWith_run (other : Nat) :
    Run (Guarded (graph SigTable.next) SigCall.Plain) bootTable (killedWith other)
      ((killedWith other).foldl SigTable.next bootTable) :=
  .snoc (.snoc .nil ⟨show OldInUser 0 by decide, rfl⟩) ⟨trivial, rfl⟩

theorem sigkill_before_sigusr1 : ∃ sig, (deliverPendingSignals
    ((killedWith 10).foldl SigTable.next bootTable 0)).2 = .exits sig :=
  (unblockable_signals _ _ _ _ (killedWith_run 10) 0).2 (by decide +kernel)
    (by unfold SigTask.Unblocked; decide +kernel)

/-- What `rt_sigaction` leaves of a task if `old` is the address of the task's `blocked_sigs`: the
handler address is stored there, and `sa_flags` in `sig_saved_blocked` behind it. -/
def SigTask.oldOverMask (t : SigTask a) (sig : Nat) (saFlags : BitVec 64) : SigTask a :=
  { t with
    blockedSigs := (t.sigActions (Fin.ofNat 64 (sig - 1))).saHandler
    sigSavedBlocked := saFlags }

/-- `SIGUSR1` gets the handler address `0x100`, whose one bit is that of `SIGKILL`, and the second
`rt_sigaction` asks for the old action at the kernel address of `blocked_sigs`. -/
def maskedThroughOld : List (SigCall .x86_64) :=
  let first : SigCall .x86_64 := .sigaction 0 10 (some ⟨0x100, 0, 0⟩) 0 8 bootTable
  let installed := bootTable.next first
  [first,
    .sigaction 0 10 none 0xffff800000200000 8
      (Function.update installed 0 ((installed 0).oldOverMask 10 0)),
    .outside 0 (sigBit sigkill) twoSignals.frame twoSignals.mem]

/-- A task blocks `SIGKILL` through the unchecked `old` of `rt_sigaction`, and the pending signal is
not delivered. Apart from that, the handler of a pending `SIGHUP` runs first and `SIGKILL` stays
pending. -/
theorem sigkill_blocked_through_old :
    (∃ s : SigTable .x86_64, Run (graph SigTable.next) bootTable maskedThroughOld s ∧
      (s 0).blockedSigs.getLsbD 8 = true ∧ (s 0).pendingSigs.getLsbD 8 = true ∧
        (deliverPendingSignals (s 0)).2 = .idle) ∧
    ∃ s : SigTable .x86_64,
      Run (Guarded (graph SigTable.next) SigCall.Plain) bootTable (killedWith 1) s ∧
        (s 0).pendingSigs.getLsbD 8 = true ∧ (deliverPendingSignals (s 0)).2 = .handled 1 :=
  ⟨⟨_, run_foldl _ _ _, by decide +kernel, by decide +kernel, by decide +kernel⟩,
    _, killedWith_run 1, by decide +kernel, by decide +kernel⟩

end AvatarKernel
