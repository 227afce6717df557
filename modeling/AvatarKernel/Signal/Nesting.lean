import AvatarKernel.Lib.Transition
import AvatarKernel.Signal.Sigreturn

namespace AvatarKernel

open Transition

variable {a : Arch}

/-! What a delivery to a user handler leaves behind. -/

theorem Arch.frameSize_lt (a : Arch) : a.frameSize < 2 ^ 32 := by
  cases a <;> decide

/-- A signal frame was pushed: it can be read back, and nothing outside the frame and the eight
bytes on either side of it was touched. -/
structure SigframePushed (m : UserMemory) (f : TrapFrame a) (addr : BitVec 64)
    (after : UserMemory) : Prop where
  getPaddr : after.getPaddr = m.getPaddr
  accessible : userRangeAccessible m addr.toNat a.frameSize = true
  saved : m.Unaliased → after.frameAt addr = f
  other : m.Unaliased → ∀ base k, base + k < userPtrLimit →
    base + k + 8 < addr.toNat ∨ addr.toNat + a.frameSize + 8 ≤ base + k →
      after.bytesAt base k = m.bytesAt base k

variable {after m : UserMemory}

theorem UserMemory.Unaliased.congr (unaliased : m.Unaliased) (same : after.getPaddr = m.getPaddr) :
    after.Unaliased := by
  intro x y left right place
  rw [place_congr same, place_congr same] at place
  exact unaliased x y left right place

variable {addr : BitVec 64} {f : TrapFrame a}

theorem copyToUserBytes_pushed
    (copied : copyToUserBytes m f.toBytes addr.toNat a.frameSize = some after) :
    SigframePushed m f addr after where
  getPaddr := copyToUserBytes_getPaddr copied
  accessible := (copyToUserBytes_some copied).1
  saved unaliased := by
    have bytes : ∀ k, k < a.frameSize → after.bytesAt addr.toNat k = f.toBytes k :=
      fun k below => copyToUserBytes_bytesAt copied unaliased a.frameSize_lt below
    rw [UserMemory.frameAt, TrapFrame.ofBytes_congr bytes, TrapFrame.ofBytes_toBytes]
  other unaliased base k inside apart :=
    copyToUserBytes_other copied unaliased a.frameSize_lt inside (by omega)

variable {pushed : Sigframe} {restorer : BitVec 64}

theorem pushFrame_pushed (written : (pushFrame m f top restorer).2 = some pushed) :
    SigframePushed m f pushed.frameAddr (pushFrame m f top restorer).1 ∧
      pushed.frameAddr = top - BitVec.ofNat 64 a.frameSize := by
  unfold pushFrame at written ⊢
  dsimp only at written ⊢
  split at written
  · cases written
  · next saved copied =>
      cases written
      exact ⟨copyToUserBytes_pushed copied, rfl⟩

theorem SigframePushed.above (frame : SigframePushed stubbed f addr after)
    (below : addr = top - BitVec.ofNat 64 a.frameSize)
    (copied : copyToUserBytes m source top.toNat 8 = some stubbed) :
    SigframePushed m f addr after := by
  have same := copyToUserBytes_getPaddr copied
  have room := userRangeAccessible_bound frame.accessible a.frameSize_lt
  have above : top.toNat = addr.toNat + a.frameSize := by
    have sum : top = addr + BitVec.ofNat 64 a.frameSize := by rw [below, BitVec.sub_add_cancel]
    rw [sum, BitVec.toNat_add, BitVec.toNat_ofNat]
    unfold userPtrLimit at room
    omega
  constructor
  · exact frame.getPaddr.trans same
  · rw [← userRangeAccessible_congr same]
    exact frame.accessible
  · intro unaliased
    exact frame.saved (unaliased.congr same)
  · intro unaliased base k inside apart
    rw [frame.other (unaliased.congr same) base k inside apart]
    exact copyToUserBytes_other copied unaliased (by decide) inside (by omega)

theorem SigframePushed.below {saved : UserMemory} (frame : SigframePushed m f addr saved)
    (copied : copyToUserBytes saved source (addr - 8).toNat 8 = some after) :
    SigframePushed m f addr after := by
  have same := copyToUserBytes_getPaddr copied
  have room := userRangeAccessible_bound frame.accessible a.frameSize_lt
  have slot := userRangeAccessible_bound (copyToUserBytes_some copied).1 (by decide)
  have below : (addr - 8).toNat + 8 = addr.toNat := by
    have eight : (8 : BitVec 64).toNat = 8 := rfl
    rw [BitVec.toNat_sub, eight] at slot ⊢
    unfold userPtrLimit at slot
    omega
  constructor
  · exact same.trans frame.getPaddr
  · exact frame.accessible
  · intro unaliased
    rw [← frame.saved unaliased]
    apply TrapFrame.ofBytes_congr
    intro k inside
    exact copyToUserBytes_other copied (unaliased.congr frame.getPaddr) (by decide) (by omega)
      (by omega)
  · intro unaliased base k inside apart
    rw [← frame.other unaliased base k inside apart]
    exact copyToUserBytes_other copied (unaliased.congr frame.getPaddr) (by decide) inside
      (by omega)

theorem pushSigframeStub_pushed (written : (pushSigframeStub m f restorer).2 = some pushed) :
    SigframePushed m f pushed.frameAddr (pushSigframeStub m f restorer).1 := by
  unfold pushSigframeStub at written ⊢
  dsimp only at written ⊢
  split at written
  · next none =>
      rw [if_pos none]
      split at written
      · cases written
      · next stubbed copied =>
          have frame := pushFrame_pushed written
          exact frame.1.above frame.2 copied
  · next given =>
      rw [if_neg given]
      exact (pushFrame_pushed written).1

theorem pushSigframeX86_pushed {f : TrapFrame .x86_64}
    (written : (pushSigframeX86 m f).2 = some pushed) :
    SigframePushed m f pushed.frameAddr (pushSigframeX86 m f).1 := by
  unfold pushSigframeX86 at written ⊢
  dsimp only at written ⊢
  split at written
  · cases written
  · next saved copied =>
      split at written
      · cases written
      · next returned address =>
          cases written
          exact (copyToUserBytes_pushed copied).below address

theorem pushSigframe_pushed (written : (pushSigframe m f restorer).2 = some pushed) :
    SigframePushed m f pushed.frameAddr (pushSigframe m f restorer).1 := by
  cases a with
  | aarch64 | riscv64 => exact pushSigframeStub_pushed written
  | x86_64 => exact pushSigframeX86_pushed written

theorem deliverPendingSignals_handled (handled : (deliverPendingSignals t).2 = .handled sig) :
    (deliverPendingSignals t).1.sigSavedBlocked = t.blockedSigs ∧
      SigframePushed t.mem t.frame (deliverPendingSignals t).1.sigFrameSp
        (deliverPendingSignals t).1.mem := by
  unfold deliverPendingSignals at handled ⊢
  split at handled
  · cases handled
  · next i found =>
      dsimp only at handled ⊢
      split at handled
      · cases handled
      · split at handled
        · split at handled <;> cases handled
        · next ignored default =>
            rw [if_neg ignored, if_neg default]
            simp only [deliverToHandler] at handled ⊢
            split at handled
            · cases handled
            · next pushed written => exact ⟨rfl, pushSigframe_pushed written⟩

/-- The context a delivery interrupts, and where the kernel saved its trap frame. -/
structure SavedContext (a : Arch) where
  addr : BitVec 64
  frame : TrapFrame a
  blocked : BitVec 64

def SavedContext.Intact (e : SavedContext a) (m : UserMemory) : Prop :=
  userRangeAccessible m e.addr.toNat a.frameSize = true ∧ m.frameAt e.addr = e.frame

/-- A task together with the contexts its unfinished handlers interrupted, innermost first. -/
structure SigRun (a : Arch) where
  task : SigTask a
  stack : List (SavedContext a)

def SigRun.FramesIntact (s : SigRun a) : Prop :=
  ∀ e ∈ s.stack, e.Intact s.task.mem

/-- The context that a delivery saves. -/
def SigRun.ownContext (s : SigRun a) : SavedContext a :=
  ⟨(deliverPendingSignals s.task).1.sigFrameSp, s.task.frame, s.task.blockedSigs⟩

def SigRun.delivered (s : SigRun a) : SigRun a :=
  ⟨(deliverPendingSignals s.task).1, s.ownContext :: s.stack⟩

inductive SigEvent where
  | deliver
  | sigreturn
  | user
  deriving DecidableEq

/-- The frame that the kernel pushes can be read back as the frame it interrupted. -/
theorem SigRun.ownContext_intact {s : SigRun a} {sig : Nat}
    (handled : (deliverPendingSignals s.task).2 = .handled sig) (unaliased : s.task.mem.Unaliased) :
    s.ownContext.Intact s.delivered.task.mem := by
  have pushed := (deliverPendingSignals_handled handled).2
  exact ⟨(userRangeAccessible_congr pushed.getPaddr _ _).trans pushed.accessible,
    pushed.saved unaliased⟩

/-- A frame that lies above the pushed one stays as it was. -/
theorem SavedContext.Intact.delivered {s : SigRun a} {sig : Nat} {e : SavedContext a}
    (kept : e.Intact s.task.mem) (handled : (deliverPendingSignals s.task).2 = .handled sig)
    (unaliased : s.task.mem.Unaliased)
    (above : s.delivered.task.sigFrameSp.toNat + a.frameSize + 8 ≤ e.addr.toNat) :
    e.Intact s.delivered.task.mem := by
  have pushed := (deliverPendingSignals_handled handled).2
  have room := userRangeAccessible_bound kept.1 a.frameSize_lt
  refine ⟨(userRangeAccessible_congr pushed.getPaddr _ _).trans kept.1, ?_⟩
  rw [← kept.2]
  apply TrapFrame.ofBytes_congr
  intro k inside
  exact pushed.other unaliased _ _ (by omega) (.inr (Nat.le_add_right_of_le above))

/-- Well-nested interleavings in which user code leaves the saved frames intact. A delivery is asked
only not to be aimed at the older frames, and not to find one physical page at two user addresses;
that the new frame holds what was interrupted is the kernel's part. A `user` step may change
registers, memory, pending signals, the mask and the actions, but not the two fields of the
kernel. -/
inductive SigStep : SigRun a → SigEvent → SigRun a → Prop
  | deliver {s : SigRun a} {sig : Nat} : (deliverPendingSignals s.task).2 = .handled sig →
      s.task.mem.Unaliased → (∀ e ∈ s.stack, e.Intact s.delivered.task.mem) →
      SigStep s .deliver s.delivered
  | sigreturn {s : SigRun a} {top : SavedContext a} {rest : List (SavedContext a)} :
      s.stack = top :: rest → SigStep s .sigreturn ⟨rtSigreturn s.task, rest⟩
  | user {s : SigRun a} {task : SigTask a} : task.sigFrameSp = s.task.sigFrameSp →
      task.sigSavedBlocked = s.task.sigSavedBlocked →
      SigRun.FramesIntact ⟨task, s.stack⟩ → SigStep s .user ⟨task, s.stack⟩

def Unnested (s : SigRun a) (event : SigEvent) : Prop :=
  event = .deliver → s.task.sigFrameSp = 0

/-- The kernel's two fields describe the one context that is saved. -/
inductive SigRun.Matched : SigRun a → Prop
  | outside {task : SigTask a} : task.sigFrameSp = 0 → Matched ⟨task, []⟩
  | inside {task : SigTask a} {e : SavedContext a} : e.addr ≠ 0 → task.sigFrameSp = e.addr →
      task.sigSavedBlocked = e.blocked → e.Intact task.mem → Matched ⟨task, [e]⟩

theorem SigRun.Matched.restores {s : SigRun a} (matched : s.Matched)
    (stack : s.stack = top :: rest) :
    rest = [] ∧ s.task.Restores ∧ s.task.mem.frameAt s.task.sigFrameSp = top.frame ∧
      s.task.sigSavedBlocked = top.blocked := by
  cases matched with
  | outside => cases stack
  | inside _ addr blocked intact =>
    cases stack
    refine ⟨rfl, ⟨?_, ?_⟩, ?_, blocked⟩
    · rwa [addr]
    · rw [addr]
      exact intact.1
    · rw [addr]
      exact intact.2

theorem SigRun.Matched.step {s after : SigRun a} (matched : s.Matched)
    (unnested : Unnested s event) (taken : SigStep s event after) : after.Matched := by
  cases taken with
  | deliver handled unaliased _ =>
    have fields := deliverPendingSignals_handled handled
    have outside : s.task.sigFrameSp = 0 := unnested rfl
    have empty : s.stack = [] := by
      cases matched with
      | outside => rfl
      | inside saved addr => exact absurd (addr.symm.trans outside) saved
    have shape : s.delivered = ⟨s.delivered.task, [s.ownContext]⟩ := by
      rw [SigRun.delivered, empty]
    rw [shape]
    have nonzero := userRangeAccessible_pos fields.2.accessible
    have addr : (deliverPendingSignals s.task).1.sigFrameSp ≠ 0 := by
      intro zero
      exact nonzero (by rw [zero]; rfl)
    exact .inside addr rfl fields.1 (SigRun.ownContext_intact handled unaliased)
  | sigreturn stack =>
    have found := matched.restores stack
    rw [found.1, rtSigreturn_of_restores found.2.1]
    exact .outside rfl
  | user frame blocked intact =>
    cases matched with
    | outside zero => exact .outside (frame.trans zero)
    | inside saved addr kept _ =>
      exact .inside saved (frame.trans addr) (blocked.trans kept)
        (intact _ (List.mem_singleton_self _))

/-- An x86_64 process with `SIGUSR1` and `SIGUSR2` pending, a handler for each with an empty mask,
and identically mapped memory. -/
def twoSignals : SigTask .x86_64 where
  pendingSigs := sigBit 10 ||| sigBit 12
  blockedSigs := 0
  sigSavedBlocked := 0
  sigFrameSp := 0
  sigActions := fun _ => ⟨0x400000, 0, 0⟩
  frame := fun i => if i.val = 20 then 0x5000 else if i.val = 17 then 0x401234 else 0x2b
  mem := ⟨fun page => page, fun _ => 0⟩

/-- The process in the handler of `SIGUSR1`. -/
def inHandler : SigRun .x86_64 := SigRun.delivered ⟨twoSignals, []⟩

end AvatarKernel
