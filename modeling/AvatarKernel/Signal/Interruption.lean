import AvatarKernel.Fs.Pipe
import AvatarKernel.Lib.BitScan
import AvatarKernel.Signal.Nesting

namespace AvatarKernel

namespace Numerals

scoped instance signals : NeZero 64 := ⟨by decide⟩

end Numerals

open scoped Numerals

variable {a : Arch}

def SigAction.interrupts (action : SigAction) (sig : Nat) : Bool :=
  action.saHandler != sigIgn && (action.saHandler != sigDfl || !ignoredByDefault.contains sig)

def pipeRound (t : SigTask a) (found : Bool) (i : Nat) : Bool :=
  found || (t.sigActions (Fin.ofNat 64 i)).interrupts (i + 1)

/-- `pipe_interrupts`: the loop over the bits of the mask, lowest first. -/
def pipeInterruptsLoop (t : SigTask a) : Bool :=
  BitScan.foldBits (pipeRound t) 64 (t.pendingSigs &&& ~~~t.blockedSigs) false

def SigTask.Unblocked (t : SigTask a) (i : Nat) : Prop :=
  (t.pendingSigs &&& ~~~t.blockedSigs).getLsbD i = true

def SigTask.Interrupted (t : SigTask a) (i : Nat) : Prop :=
  t.Unblocked i ∧ (t.sigActions (Fin.ofNat 64 i)).interrupts (i + 1) = true

structure SigTask.Scanned (t : SigTask a) (rest : BitVec 64) (found : Bool) : Prop where
  within : ∀ i, rest.getLsbD i = true → t.Unblocked i
  seen : found = true ↔ ∃ i, rest.getLsbD i = false ∧ t.Interrupted i

theorem SigTask.Scanned.round {t : SigTask a} (more : rest ≠ 0#64)
    (scanned : t.Scanned rest found) :
    t.Scanned (BitScan.clearLowest rest) (pipeRound t found (BitScan.lowest rest)) := by
  have set := BitScan.lowest_set more
  have left := BitScan.clearLowest_iff rest
  refine ⟨fun i bit => scanned.within i ((left i).mp bit).1, ?_⟩
  rw [pipeRound, Bool.or_eq_true, scanned.seen]
  constructor
  · rintro (⟨i, clear, here⟩ | acts)
    · exact ⟨i, Bool.eq_false_iff.mpr fun bit => by simp [((left i).mp bit).1] at clear, here⟩
    · exact ⟨_, Bool.eq_false_iff.mpr fun bit => lt_irrefl _ ((left _).mp bit).2,
        scanned.within _ set, acts⟩
  · rintro ⟨i, clear, here⟩
    cases bit : rest.getLsbD i with
    | false => exact .inl ⟨i, bit, here⟩
    | true =>
      have last : ¬ BitScan.lowest rest < i := fun above =>
        by simp [(left i).mpr ⟨bit, above⟩] at clear
      exact .inr (le_antisymm (BitScan.lowest_le bit) (not_lt.mp last) ▸ here.2)

theorem pipeInterruptsLoop_iff (t : SigTask a) :
    pipeInterruptsLoop t = true ↔ ∃ i, t.Interrupted i := by
  have start : t.Scanned (t.pendingSigs &&& ~~~t.blockedSigs) false := by
    refine ⟨fun i bit => bit, by simp, ?_⟩
    rintro ⟨i, clear, here⟩
    exact absurd (here.1.symm.trans clear) Bool.noConfusion
  have scanned := BitScan.foldBits_invariant (fun _ _ more => SigTask.Scanned.round more) 64 start
    (by omega)
  exact scanned.seen.trans ⟨fun ⟨i, _, here⟩ => ⟨i, here⟩,
    fun ⟨i, here⟩ => ⟨i, BitVec.getLsbD_zero, here⟩⟩

theorem interrupts_at (i : Fin nsig) : Fin.ofNat 64 i.val = i := Fin.ext (Nat.mod_eq_of_lt i.isLt)

/-- The loop over the bits finds what the search over all signals finds. -/
theorem pipeInterruptsLoop_eq (t : SigTask a) : pipeInterruptsLoop t =
    pipeInterrupts t.pendingSigs t.blockedSigs fun i => (t.sigActions i).saHandler := by
  have each : ∀ i : Fin nsig, t.Interrupted i ↔ ((t.pendingSigs &&& ~~~t.blockedSigs).getLsbD i &&
      (t.sigActions i).saHandler != sigIgn && ((t.sigActions i).saHandler != sigDfl ||
        !ignoredByDefault.contains (i.val + 1))) = true := fun i => by
    rw [SigTask.Interrupted, interrupts_at, Bool.and_assoc, Bool.and_eq_true]
    rfl
  rw [Bool.eq_iff_iff, pipeInterruptsLoop_iff, pipeInterrupts, List.any_eq_true]
  constructor
  · rintro ⟨i, here⟩
    exact ⟨⟨i, BitVec.lt_of_getLsbD here.1⟩, List.mem_finRange _, (each ⟨i, _⟩).mp here⟩
  · rintro ⟨i, -, here⟩
    exact ⟨i, (each i).mpr here⟩

def SigTask.Writable (t : SigTask a) : Prop :=
  ∀ restorer, (pushSigframe t.mem t.frame restorer).2 ≠ none

def delivered (t : SigTask a) (n : Nat) : SigTask a :=
  (fun t => (deliverPendingSignals t).1)^[n] t

/-- A call that enters a handler or ends the task. -/
def Delivery.Acts : Delivery → Prop
  | .handled _ | .exits _ => True
  | _ => False

variable {t : SigTask a} {i : Fin nsig}

theorem nextSignal_some (next : nextSignal t = some i) :
    t.Unblocked i ∧ ∀ j, t.Unblocked j → i.val ≤ j := by
  rw [nextSignal, ← Fin.find?_eq_find?_finRange, Fin.find?_eq_some_iff] at next
  refine ⟨next.1, fun j bit => not_lt.mp fun below => ?_⟩
  exact Bool.noConfusion (bit.symm.trans (next.2 ⟨j, below.trans i.isLt⟩ below))

theorem nextSignal_none (none : nextSignal t = none) (j : Nat) : ¬ t.Unblocked j := fun bit =>
  List.find?_eq_none.mp none ⟨j, BitVec.lt_of_getLsbD bit⟩ (List.mem_finRange _) bit

theorem deliver_quiet (next : nextSignal t = some i)
    (quiet : (t.sigActions i).interrupts (i + 1) = false) :
    deliverPendingSignals t =
      ({ t with pendingSigs := t.pendingSigs &&& ~~~sigBit (i + 1) }, .ignored (i + 1)) := by
  rw [deliverPendingSignals, next]
  by_cases ignored : (t.sigActions i).saHandler = sigIgn
  · exact if_pos ignored
  · simp only [SigAction.interrupts, bne, beq_false_of_ne ignored] at quiet
    by_cases default : (t.sigActions i).saHandler = sigDfl
    · simp [default] at quiet
      simp [default, quiet, sigDfl, sigIgn]
    · simp [default] at quiet

theorem deliver_acts (writable : t.Writable) (next : nextSignal t = some i)
    (acts : (t.sigActions i).interrupts (i + 1) = true) : (deliverPendingSignals t).2.Acts := by
  simp only [SigAction.interrupts, bne_iff_ne, Bool.and_eq_true] at acts
  obtain ⟨ignored, acts⟩ := acts
  rw [deliverPendingSignals, next]
  simp only [if_neg ignored]
  by_cases default : (t.sigActions i).saHandler = sigDfl
  · simp [default] at acts
    simp [default, acts, Delivery.Acts]
  · rw [if_neg default]
    cases pushed : (pushSigframe t.mem t.frame (t.sigActions i).saRestorer).2 with
    | none => exact absurd pushed (writable _)
    | some => simp [deliverToHandler, pushed, Delivery.Acts]

theorem sigBit_getLsbD (i : Fin nsig) (j : Nat) :
    (sigBit (i + 1)).getLsbD j = decide (i.val = j) := by
  rw [sigBit, Nat.add_sub_cancel, ← BitVec.twoPow_eq, BitVec.getLsbD_twoPow]
  exact Bool.and_eq_right_iff_imp.mpr fun _ => decide_eq_true i.isLt

theorem unblocked_cleared (t : SigTask a) (i : Fin nsig) (j : Nat) :
    SigTask.Unblocked { t with pendingSigs := t.pendingSigs &&& ~~~sigBit (i + 1) } j ↔
      t.Unblocked j ∧ j ≠ i := by
  simp only [SigTask.Unblocked, BitVec.getLsbD_and, BitVec.getLsbD_not, sigBit_getLsbD]
  by_cases here : i.val = j
  · simp [here]
  · have inside : t.pendingSigs.getLsbD j = true → j < 64 := BitVec.lt_of_getLsbD
    simp [here, Ne.symm here]
    tauto

theorem deliver_next (next : nextSignal t = some i)
    (quiet : (t.sigActions i).interrupts (i + 1) = false) (j : Nat) :
    (deliverPendingSignals t).1.Interrupted j ↔ t.Interrupted j := by
  rw [deliver_quiet next quiet]
  unfold SigTask.Interrupted
  rw [unblocked_cleared]
  constructor
  · rintro ⟨⟨bit, _⟩, acts⟩
    exact ⟨bit, acts⟩
  · rintro ⟨bit, acts⟩
    refine ⟨⟨bit, ?_⟩, acts⟩
    rintro rfl
    rw [interrupts_at, quiet] at acts
    cases acts

theorem acts_eventually : ∀ {steps : Nat} {t : SigTask a} {i : Nat}, t.Writable → t.Interrupted i →
    (∀ j, t.Unblocked j → i ≤ j + steps) → ∃ n, (deliverPendingSignals (delivered t n)).2.Acts
  | steps, t, i, writable, here, bound => by
    cases next : nextSignal t with
    | none => exact absurd here.1 (nextSignal_none next i)
    | some j =>
      obtain ⟨bit, least⟩ := nextSignal_some next
      cases acts : (t.sigActions j).interrupts (j + 1) with
      | true => exact ⟨0, deliver_acts writable next acts⟩
      | false =>
        have below : j.val ≠ i := by
          rintro rfl
          have acting := here.2
          rw [interrupts_at, acts] at acting
          cases acting
        have after := deliver_quiet next acts
        cases steps with
        | zero => exact absurd (le_antisymm (least i here.1) (bound j bit)) below
        | succ steps =>
          have left : ∀ k, (deliverPendingSignals t).1.Unblocked k → i ≤ k + steps := by
            rw [after]
            intro k unblocked
            obtain ⟨pending, other⟩ := (unblocked_cleared t j k).mp unblocked
            have first := bound j bit
            have above := least k pending
            omega
          have same : (deliverPendingSignals t).1.Writable := by
            rw [after]
            exact writable
          obtain ⟨n, done⟩ := acts_eventually same ((deliver_next next acts i).mpr here) left
          exact ⟨n + 1, done⟩

theorem quiet_step (quiet : ∀ i, ¬ t.Interrupted i) :
    ¬ (deliverPendingSignals t).2.Acts ∧ ∀ i, ¬ (deliverPendingSignals t).1.Interrupted i := by
  cases next : nextSignal t with
  | none =>
    rw [deliverPendingSignals, next]
    exact ⟨id, quiet⟩
  | some i =>
    have ignored : (t.sigActions i).interrupts (i + 1) = false :=
      Bool.eq_false_iff.mpr fun acts => quiet i ⟨(nextSignal_some next).1, by rwa [interrupts_at]⟩
    refine ⟨?_, fun j here => quiet j ((deliver_next next ignored j).mp here)⟩
    rw [deliver_quiet next ignored]
    exact id

theorem quiet_forever : ∀ {n : Nat} {t : SigTask a}, (∀ i, ¬ t.Interrupted i) →
    ¬ (deliverPendingSignals (delivered t n)).2.Acts
  | 0, _, quiet => (quiet_step quiet).1
  | n + 1, t, quiet =>
    quiet_forever (n := n) (t := (deliverPendingSignals t).1) (quiet_step quiet).2

/-- `pipe_interrupts` is true exactly if deliveries, repeated with no new signal, come to enter a
handler or to end the task. -/
theorem pipeInterrupts_iff_delivers (t : SigTask a) (writable : t.Writable) :
    pipeInterruptsLoop t = true ↔ ∃ n, (deliverPendingSignals (delivered t n)).2.Acts := by
  rw [pipeInterruptsLoop_iff]
  constructor
  · rintro ⟨i, here⟩
    have inside := BitVec.lt_of_getLsbD here.1
    exact acts_eventually writable here fun j _ => (inside.trans_le (Nat.le_add_left 64 j)).le
  · rintro ⟨n, acts⟩
    by_contra quiet
    exact quiet_forever (not_exists.mp quiet) acts

theorem twoSignals_interrupted : pipeInterruptsLoop twoSignals = true ∧
    ∃ n, (deliverPendingSignals (delivered twoSignals n)).2.Acts := by
  have pushed : (pushSigframeX86 twoSignals.mem twoSignals.frame).2.isSome = true := by
    decide +kernel
  have found : pipeInterruptsLoop twoSignals = true := by decide +kernel
  exact ⟨found, (pipeInterrupts_iff_delivers twoSignals
    fun _ => Option.isSome_iff_ne_none.mp pushed).mp found⟩

/-- Taking a signal out of the pending ones and putting it back. -/
theorem pendingSigs_again (next : nextSignal t = some i) :
    t.pendingSigs &&& ~~~sigBit (i + 1) ||| sigBit (i + 1) = t.pendingSigs := by
  apply BitVec.eq_of_getLsbD_eq
  intro j inside
  simp only [BitVec.getLsbD_or, BitVec.getLsbD_and, BitVec.getLsbD_not, sigBit_getLsbD]
  by_cases here : i.val = j
  · have pending : t.pendingSigs.getLsbD i = true := by
      have bit := (nextSignal_some next).1
      simp only [SigTask.Unblocked, BitVec.getLsbD_and, Bool.and_eq_true] at bit
      exact bit.1
    simp [← here, pending]
  · simp [here, inside]

/-- A delivery whose signal frame cannot be written changes nothing but user memory, exactly if the
mask that is saved for `rt_sigreturn` is the current one. -/
theorem sigframe_fault_restores (t : SigTask a) (i : Fin nsig) (next : nextSignal t = some i)
    (handler : (t.sigActions i).saHandler ≠ sigIgn ∧ (t.sigActions i).saHandler ≠ sigDfl)
    (fault : (pushSigframe t.mem t.frame (t.sigActions i).saRestorer).2 = none) :
    (deliverPendingSignals t).1 =
        { t with mem := (pushSigframe t.mem t.frame (t.sigActions i).saRestorer).1 } ↔
      t.sigSavedBlocked = t.blockedSigs := by
  -- the roll-back takes the mask from the saved one, which the delivery has overwritten with it
  have after : (deliverPendingSignals t).1 =
      { t with
        mem := (pushSigframe t.mem t.frame (t.sigActions i).saRestorer).1
        sigSavedBlocked := t.blockedSigs } := by
    rw [deliverPendingSignals, next]
    simp only [if_neg handler.1, if_neg handler.2, deliverToHandler, fault, pendingSigs_again next]
  rw [after]
  constructor
  · intro same
    exact (congrArg SigTask.sigSavedBlocked same).symm
  · intro saved
    rw [← saved]

/-- A process that has moved its stack pointer to zero. -/
def stackLost (t : SigTask .x86_64) : SigTask .x86_64 := { t with frame := fun _ => 0 }

theorem sigframe_fault_first_signal : (deliverPendingSignals (stackLost twoSignals)).1 =
    { stackLost twoSignals with mem := (pushSigframeX86 twoSignals.mem fun _ => 0).1 } :=
  (sigframe_fault_restores (stackLost twoSignals) ⟨9, by decide⟩ (by decide +kernel)
    (by decide +kernel) (Option.isNone_iff_eq_none.mp (by decide +kernel))).mpr rfl

/-- `SIGUSR2` cannot be delivered in the handler of `SIGUSR1`, and the mask that this handler is to
restore is lost. -/
theorem sigframe_fault_loses_mask :
    (deliverPendingSignals (stackLost inHandler.task)).2 = .faulted 12 ∧
      (deliverPendingSignals (stackLost inHandler.task)).1.sigSavedBlocked ≠
        (stackLost inHandler.task).sigSavedBlocked := by
  decide +kernel

end AvatarKernel
