import AvatarKernel.Fs.PipeStream
import AvatarKernel.Lib.Transition
import AvatarKernel.Lib.WaitSlot

namespace AvatarKernel

open Function
open Transition WaitSlot

section Model

variable {τ : Type} [DecidableEq τ]

/-- Where a task stands in `pipe_read_endpoint` or, with `total` bytes written, in
`pipe_write_endpoint`. -/
inductive PipeWaiter where
  | none
  | reader (phase : WaitSlot.Phase) (count : Nat)
  | writer (phase : WaitSlot.Phase) (src : List (BitVec 8)) (total : Nat)

def PipeWaiter.readPhase : PipeWaiter → WaitSlot.Phase
  | .reader phase _ => phase
  | _ => .out

def PipeWaiter.writePhase : PipeWaiter → WaitSlot.Phase
  | .writer phase _ _ => phase
  | _ => .out

/-- `sched_unblock` has an effect on a task that is `TASK_BLOCKED` only. -/
def PipeWaiter.rouse : PipeWaiter → PipeWaiter
  | .none => .none
  | .reader phase count => .reader phase.rouse count
  | .writer phase src total => .writer phase.rouse src total

structure PipeTasks (τ : Type) where
  pipe : Pipe τ
  waiter : τ → PipeWaiter

def PipeTasks.unblock (s : PipeTasks τ) (t : Option τ) : PipeTasks τ :=
  match t with
  | some t => { s with waiter := update s.waiter t (s.waiter t).rouse }
  | none => s

/-- The steps of the tasks on one pipe. A round of an endpoint is one step; a task that has found
nothing to do writes its name into the slot, and becomes `TASK_BLOCKED`, in steps of their own.
`timer` is the wake-up of `itimer_tick`; other signals only make `pipe_interrupts` true. -/
inductive PipeMove (τ : Type) where
  | read (t : τ) (count : Nat) (nonblock interrupts : Bool)
  | write (t : τ) (src : List (BitVec 8)) (nonblock : Bool)
  | list (t : τ)
  | block (t : τ)
  | timer (t : τ)
  | resume (t : τ) (interrupts : Bool)
  | ref (isWriteEnd : Bool)
  | close (isWriteEnd : Bool)

namespace PipeTasks

def afterRound (s : PipeTasks τ) (t : τ) (sleeper : PipeWaiter) (r : PipeRound τ) :
    PipeTasks τ :=
  unblock
    ⟨r.pipe, update s.waiter t (if r.result = none then sleeper else .none)⟩ r.woken

def readRound (s : PipeTasks τ) (t : τ) (count : Nat) (r : PipeRound τ) : PipeTasks τ :=
  s.afterRound t (.reader .decided count) r

def writeRound (s : PipeTasks τ) (t : τ) (src : List (BitVec 8)) (total : Nat)
    (r : PipeRound τ) : PipeTasks τ :=
  s.afterRound t (.writer .decided src (total + r.bytes.length)) r

/-- A step. `read_handler` returns without a call of the endpoint when `count` is 0. -/
def next (s : PipeTasks τ) : PipeMove τ → PipeTasks τ
  | .read t count nonblock interrupts =>
    match s.waiter t with
    | .none =>
      if count = 0 then s else s.readRound t count
        (pipeReadEndpoint s.pipe count nonblock interrupts)
    | _ => s
  | .write t src nonblock =>
    match s.waiter t with
    | .none => s.writeRound t src 0 (pipeWriteEndpoint s.pipe src nonblock)
    | _ => s
  | .list t =>
    match s.waiter t with
    | .reader .decided count =>
      ⟨{ s.pipe with blockedReader := some t }, update s.waiter t (.reader .listed count)⟩
    | .writer .decided src total =>
      ⟨{ s.pipe with blockedWriter := some t }, update s.waiter t (.writer .listed src total)⟩
    | _ => s
  | .block t =>
    match s.waiter t with
    | .reader .listed count => { s with waiter := update s.waiter t (.reader .blocked count) }
    | .writer .listed src total =>
      { s with waiter := update s.waiter t (.writer .blocked src total) }
    | _ => s
  | .timer t => s.unblock (some t)
  | .resume t interrupts =>
    match s.waiter t with
    | .reader .woken count =>
      s.readRound t count
        (pipeReadRound { s.pipe with blockedReader := none } count false interrupts)
    | .writer .woken src total =>
      s.writeRound t src total
        (pipeWriteRound { s.pipe with blockedWriter := none } src total false)
    | _ => s
  | .ref isWriteEnd => { s with pipe := pipeRefEndpoint s.pipe isWriteEnd }
  | .close isWriteEnd =>
    unblock { s with pipe := (pipeCloseEndpoint s.pipe isWriteEnd).1 }
      (pipeCloseEndpoint s.pipe isWriteEnd).2

def start : PipeTasks τ := ⟨.alloc, fun _ => .none⟩

end PipeTasks

def Pipe.Drained (p : Pipe τ) : Prop := p.count = 0 ∧ 0 < p.wrRefcount

def Pipe.Stuffed (p : Pipe τ) : Prop := pipeBufSize ≤ p.count.toNat ∧ 0 < p.rdRefcount

def PipeTasks.NoneForgotten (s : PipeTasks τ) : Prop :=
  ∀ t, ((s.waiter t).readPhase = .blocked → s.pipe.Drained) ∧
    ((s.waiter t).writePhase = .blocked → s.pipe.Stuffed)

def PipeTasks.ReadersSettled (s : PipeTasks τ) : Prop := ∀ t, (s.waiter t).readPhase.window = false

def PipeTasks.WritersSettled (s : PipeTasks τ) : Prop := ∀ t, (s.waiter t).writePhase.window = false

/-- No step of the other direction falls between the check of a task and its sleep, and a task goes
to sleep only when nobody else waits in its direction. -/
def PipeTasks.Orderly (s : PipeTasks τ) : PipeMove τ → Prop
  | .read .. => s.WritersSettled
  | .write .. => s.ReadersSettled
  | .list t => ∀ u, u ≠ t →
      ((s.waiter t).readPhase = .decided → (s.waiter u).readPhase.waits = false) ∧
      ((s.waiter t).writePhase = .decided → (s.waiter u).writePhase.waits = false)
  | .resume t _ =>
    ((s.waiter t).readPhase = .woken → s.WritersSettled) ∧
    ((s.waiter t).writePhase = .woken → s.ReadersSettled)
  | .close isWriteEnd => if isWriteEnd then s.ReadersSettled else s.WritersSettled
  | .block _ | .timer _ | .ref _ => True

end Model

section Rounds

variable {τ : Type} {p : Pipe τ}

theorem Pipe.take_slots : ∀ (room : Nat) (p : Pipe τ),
    (p.take room).1.blockedReader = p.blockedReader ∧
    (p.take room).1.blockedWriter = p.blockedWriter
  | 0, _ => ⟨rfl, rfl⟩
  | room + 1, p => by
    rw [Pipe.take]
    split
    · exact Pipe.take_slots room _
    · exact ⟨rfl, rfl⟩

theorem Pipe.put_keeps : ∀ (src : List (BitVec 8)) (p : Pipe τ),
    (p.put src).1.blockedReader = p.blockedReader ∧ (p.put src).1.blockedWriter = p.blockedWriter ∧
      (p.put src).1.rdRefcount = p.rdRefcount ∧
      (pipeBufSize ≤ p.count.toNat → p.put src = (p, 0)) ∧
      ((p.put src).2 < src.length → pipeBufSize ≤ (p.put src).1.count.toNat)
  | [], _ => ⟨rfl, rfl, rfl, fun _ => rfl, nofun⟩
  | byte :: src, p => by
    rw [Pipe.put]
    split
    case isTrue room =>
      obtain ⟨reader, writer, refs, _, full⟩ := Pipe.put_keeps src { p with
        buf := update p.buf (p.wr.toNat % pipeBufSize) byte
        wr := p.wr + 1
        count := p.count + 1 }
      exact ⟨reader, writer, refs, fun stuffed => absurd room (by omega),
        fun early => full (Nat.lt_of_succ_lt_succ early)⟩
    case isFalse full => exact ⟨rfl, rfl, rfl, fun _ => rfl, fun _ => by dsimp only; omega⟩

/-- A round of a read finds the pipe empty and leaves it alone, or takes bytes and wakes the writer
in the slot. -/
def Pipe.ReadBy (p : Pipe τ) (round : PipeRound τ) : Prop :=
  (∃ result, round = ⟨p, [], none, false, result⟩ ∧ (result = none → p.Drained)) ∨
    (p.count ≠ 0 ∧ ∃ q bytes rc, round = ⟨q, bytes, p.blockedWriter, false, some rc⟩ ∧
      q.blockedReader = p.blockedReader ∧ q.blockedWriter = none)

theorem pipeReadRound_cases (p : Pipe τ) (some : count ≠ 0) (nonblock interrupts : Bool) :
    p.ReadBy (pipeReadRound p count nonblock interrupts) := by
  obtain ⟨reader, writer⟩ := Pipe.take_slots count p
  obtain ⟨room, rfl⟩ := Nat.exists_eq_succ_of_ne_zero some
  by_cases empty : p.count = 0
  · have nothing : p.take (room + 1) = (p, []) := by rw [Pipe.take, if_neg (not_not.mpr empty)]
    refine .inl ⟨_, by rw [pipeReadRound, nothing]; rfl, fun sleeps => ⟨empty, ?_⟩⟩
    dsimp only at sleeps
    split at sleeps
    · cases sleeps
    · omega
  · have bytes : (p.take (room + 1)).2.length > 0 := by
      rw [Pipe.take, if_pos empty]
      exact Nat.succ_pos _
    refine .inr ⟨empty, { (p.take (room + 1)).1 with blockedWriter := none }, (p.take (room + 1)).2,
      intOf (p.take (room + 1)).2.length, ?_, reader, rfl⟩
    rw [pipeReadRound, if_pos bytes, writer]

/-- A round of a write wakes the reader in the slot; it adds nothing to a full pipe, and sleeps only
on a full one. -/
def Pipe.WrittenBy (p : Pipe τ) (round : PipeRound τ) : Prop :=
  round.woken = p.blockedReader ∧ round.pipe.blockedReader = none ∧
    round.pipe.blockedWriter = p.blockedWriter ∧ (p.Stuffed → round.pipe.Stuffed) ∧
    (round.result = none → round.pipe.Stuffed)

theorem pipeWriteRound_cases (p : Pipe τ) (src : List (BitVec 8)) (total : Nat) (nonblock : Bool) :
    p.WrittenBy (pipeWriteRound p src total nonblock) := by
  obtain ⟨reader, writer, refs, stays, full⟩ := Pipe.put_keeps (src.drop total) p
  refine ⟨reader, rfl, writer, fun stuffed => ?_, fun sleeps => ?_⟩
  · show pipeBufSize ≤ (p.put (src.drop total)).1.count.toNat ∧
      0 < (p.put (src.drop total)).1.rdRefcount
    rw [stays stuffed.1]
    exact stuffed
  · simp only [pipeWriteRound] at sleeps
    split at sleeps
    · rw [List.length_drop] at full
      split at sleeps
      · cases sleeps
      · rename_i closed
        rw [decide_eq_true_iff] at closed
        refine ⟨full (by omega), ?_⟩
        show 0 < (p.put (src.drop total)).1.rdRefcount
        omega
    · cases sleeps

theorem pipeReadEndpoint_cases (p : Pipe τ) (some : count ≠ 0) (nonblock interrupts : Bool) :
    p.ReadBy (pipeReadEndpoint p count nonblock interrupts) := by
  rw [pipeReadEndpoint]
  split
  · exact .inl ⟨_, rfl, fun sleeps => absurd sleeps (Option.some_ne_none _)⟩
  · exact pipeReadRound_cases p some nonblock interrupts

theorem pipeWriteEndpoint_cases (p : Pipe τ) (src : List (BitVec 8)) (nonblock : Bool) :
    ((pipeWriteEndpoint p src nonblock).pipe = p ∧ (pipeWriteEndpoint p src nonblock).woken = none ∧
        (pipeWriteEndpoint p src nonblock).result ≠ none) ∨
      p.WrittenBy (pipeWriteEndpoint p src nonblock) := by
  rw [pipeWriteEndpoint]
  split
  · exact .inl ⟨rfl, rfl, fun sleeps => absurd sleeps (Option.some_ne_none _)⟩
  · split
    · exact .inl ⟨rfl, rfl, fun sleeps => absurd sleeps (Option.some_ne_none _)⟩
    · split
      · exact .inl ⟨rfl, rfl, fun sleeps => absurd sleeps (Option.some_ne_none _)⟩
      · exact .inr (pipeWriteRound_cases p src 0 nonblock)

end Rounds

section Invariant

variable {τ : Type} [DecidableEq τ]

structure PipeTasks.Kept (s : PipeTasks τ) : Prop where
  readers : Safe s.pipe.blockedReader (fun t => (s.waiter t).readPhase) s.pipe.Drained
  writers : Safe s.pipe.blockedWriter (fun t => (s.waiter t).writePhase) s.pipe.Stuffed

theorem phase_update (f : PipeWaiter → WaitSlot.Phase) (waiter : τ → PipeWaiter) (t : τ)
    (w : PipeWaiter) : (fun u => f (update waiter t w u)) = update
    (fun u => f (waiter u)) t (f w) :=
  comp_update f waiter t w

theorem readPhase_rouse (w : PipeWaiter) : w.rouse.readPhase = w.readPhase.rouse := by
  cases w <;> rfl

theorem writePhase_rouse (w : PipeWaiter) : w.rouse.writePhase = w.writePhase.rouse := by
  cases w <;> rfl

theorem PipeTasks.unblock_pipe (s : PipeTasks τ) (who : Option τ) :
    (s.unblock who).pipe = s.pipe := by
  cases who <;> rfl

theorem PipeTasks.unblock_phases {f : PipeWaiter → WaitSlot.Phase}
    (rouse : ∀ w, f w.rouse = (f w).rouse) (s : PipeTasks τ) (who : Option τ) :
    (fun t => f ((s.unblock who).waiter t)) = notify who fun t => f (s.waiter t) := by
  cases who with
  | none => rfl
  | some t =>
    show (fun u => f (update s.waiter t (s.waiter t).rouse u)) = _
    rw [phase_update, rouse]
    rfl

variable {s : PipeTasks τ}

namespace PipeTasks

theorem Kept.of_update
    (readers : Safe p.blockedReader
      (update (fun u => (s.waiter u).readPhase) t w.readPhase) p.Drained)
    (writers : Safe p.blockedWriter (update (fun u => (s.waiter u).writePhase) t w.writePhase)
      p.Stuffed) :
    Kept ⟨p, update s.waiter t w⟩ := by
  constructor
  · rw [phase_update PipeWaiter.readPhase]
    exact readers
  · rw [phase_update PipeWaiter.writePhase]
    exact writers

theorem Kept.of_unblock {who : Option τ}
    (readers : Safe s.pipe.blockedReader (notify who fun t => (s.waiter t).readPhase)
      s.pipe.Drained)
    (writers : Safe s.pipe.blockedWriter (notify who fun t => (s.waiter t).writePhase)
      s.pipe.Stuffed) :
    (s.unblock who).Kept := by
  constructor
  · rw [unblock_pipe, unblock_phases readPhase_rouse]
    exact readers
  · rw [unblock_pipe, unblock_phases writePhase_rouse]
    exact writers

theorem Kept.unblock (kept : s.Kept) (who : Option τ) : (s.unblock who).Kept :=
  .of_unblock (kept.readers.notify who) (kept.writers.notify who)

theorem Kept.readRound {q : Pipe τ}
    (readers : Safe q.blockedReader (update (fun u => (s.waiter u).readPhase) t .out) q.Drained)
    (writers : Safe q.blockedWriter (fun u => (s.waiter u).writePhase) q.Stuffed)
    (mine : (s.waiter t).writePhase = .out) (calm : s.WritersSettled) (round : q.ReadBy r)
    (count : Nat) : (s.readRound t count r).Kept := by
  have same : update (fun u => (s.waiter u).writePhase) t .out =
      fun u => (s.waiter u).writePhase := by
    rw [← mine]
    exact update_eq_self ..
  rcases round with ⟨result, rfl, drained⟩ | ⟨some, p, bytes, rc, rfl, reader, writer⟩
  · apply Kept.of_update
    · rw [apply_ite PipeWaiter.readPhase]
      exact readers.settle drained fun _ _ holds => holds
    · have out : (if result = none then PipeWaiter.reader .decided count else .none).writePhase =
          .out := by
        split <;> rfl
      rw [out, same]
      exact writers
  · rw [PipeTasks.readRound, afterRound, if_neg nofun]
    constructor
    · rw [unblock_pipe, unblock_phases readPhase_rouse, phase_update PipeWaiter.readPhase, reader]
      exact (readers.weaken fun _ _ drained => absurd drained.1 some).notify _
    · rw [unblock_pipe, unblock_phases writePhase_rouse, phase_update PipeWaiter.writePhase, writer]
      show Safe none (notify q.blockedWriter (update _ t .out)) p.Stuffed
      rw [same]
      exact writers.signal calm

theorem Kept.writeRound {q : Pipe τ}
    (readers : Safe q.blockedReader (fun u => (s.waiter u).readPhase) q.Drained)
    (writers : Safe q.blockedWriter (update (fun u => (s.waiter u).writePhase) t .out) q.Stuffed)
    (mine : (s.waiter t).readPhase = .out) (calm : s.ReadersSettled)
    (round : (r.pipe = q ∧ r.woken = none ∧ r.result ≠ none) ∨ q.WrittenBy r)
    (src : List (BitVec 8)) (total : Nat) : (s.writeRound t src total r).Kept := by
  have same : update (fun u => (s.waiter u).readPhase) t .out =
      fun u => (s.waiter u).readPhase := by
    rw [← mine]
    exact update_eq_self ..
  rw [PipeTasks.writeRound, afterRound]
  rcases round with ⟨rfl, woken, ends⟩ | ⟨woken, reader, writer, stays, sleeps⟩
  · rw [woken, if_neg ends]
    refine Kept.of_update ?_ writers
    show Safe _ (update _ t .out) _
    rw [same]
    exact readers
  · constructor
    · rw [unblock_pipe, unblock_phases readPhase_rouse, phase_update PipeWaiter.readPhase,
        reader, woken]
      have out : (if r.result = none then
          PipeWaiter.writer .decided src (total + r.bytes.length) else .none).readPhase = .out := by
        split <;> rfl
      rw [out, same]
      exact readers.signal calm
    · rw [unblock_pipe, unblock_phases writePhase_rouse, phase_update PipeWaiter.writePhase, writer]
      apply SafeEach.notify
      rw [apply_ite PipeWaiter.writePhase]
      exact writers.settle sleeps fun _ _ => stays

theorem Kept.list (kept : s.Kept) (t : τ) (orderly : s.Orderly (.list t)) :
    (s.next (.list t)).Kept := by
  rw [PipeTasks.next]
  split
  · rename_i count here
    have read : (s.waiter t).readPhase = .decided := by rw [here]; rfl
    exact .of_update (kept.readers.list read fun u away => (orderly u away).1 read)
      (kept.writers.move rfl nofun fun _ _ holds => holds)
  · rename_i src total here
    have write : (s.waiter t).writePhase = .decided := by rw [here]; rfl
    exact .of_update (kept.readers.move rfl nofun fun _ _ holds => holds)
      (kept.writers.list write fun u away => (orderly u away).2 write)
  · exact kept

theorem Kept.block (kept : s.Kept) (t : τ) : (s.next (.block t)).Kept := by
  rw [PipeTasks.next]
  split
  · rename_i count here
    have read : (s.waiter t).readPhase = .listed := by rw [here]; rfl
    exact .of_update (kept.readers.block read) (kept.writers.move rfl nofun fun _ _ holds => holds)
  · rename_i src total here
    have write : (s.waiter t).writePhase = .listed := by rw [here]; rfl
    exact .of_update (kept.readers.move rfl nofun fun _ _ holds => holds) (kept.writers.block write)
  · exact kept

theorem Kept.resume (kept : s.Kept) (t : τ) (interrupts : Bool)
    (orderly : s.Orderly (.resume t interrupts))
    (some : ∀ count, s.waiter t = .reader .woken count → count ≠ 0) :
    (s.next (.resume t interrupts)).Kept := by
  rw [PipeTasks.next]
  split
  · rename_i count here
    have read : (s.waiter t).readPhase = .woken := by rw [here]; rfl
    have write : (s.waiter t).writePhase = .out := by rw [here]; rfl
    refine Kept.readRound ?_ ?_ write (orderly.1 read)
      (pipeReadRound_cases { s.pipe with blockedReader := none }
        (some count here) false interrupts) count
    · exact kept.readers.resume read
    · exact kept.writers
  · rename_i src total here
    have read : (s.waiter t).readPhase = .out := by rw [here]; rfl
    have write : (s.waiter t).writePhase = .woken := by rw [here]; rfl
    refine Kept.writeRound ?_ ?_ read (orderly.2 write)
      (.inr (pipeWriteRound_cases { s.pipe with blockedWriter := none } src total false)) src total
    · exact kept.readers
    · exact kept.writers.resume write
  · exact kept

theorem Kept.close (kept : s.Kept) (isWriteEnd : Bool)
    (orderly : s.Orderly (.close isWriteEnd)) : (s.next (.close isWriteEnd)).Kept := by
  rw [PipeTasks.next, pipeCloseEndpoint]
  split
  · exact kept
  · split
    case isTrue write =>
      subst write
      split
      · -- the last write end: the reader in the slot is woken
        exact .of_unblock (kept.readers.signal orderly) (kept.writers.notify _)
      · refine ⟨kept.readers.weaken fun _ _ drained => ⟨drained.1, ?_⟩, kept.writers⟩
        show 0 < s.pipe.wrRefcount - 1
        omega
    case isFalse read =>
      rw [Bool.not_eq_true] at read
      subst read
      split
      · exact .of_unblock (kept.readers.notify _) (kept.writers.signal orderly)
      · refine ⟨kept.readers, kept.writers.weaken fun _ _ stuffed => ⟨stuffed.1, ?_⟩⟩
        show 0 < s.pipe.rdRefcount - 1
        omega

theorem Kept.ref (kept : s.Kept) (isWriteEnd : Bool) :
    (s.next (.ref isWriteEnd)).Kept := by
  rw [PipeTasks.next, pipeRefEndpoint]
  split
  · exact kept
  · split
    · refine ⟨kept.readers.weaken fun _ _ drained => ⟨drained.1, ?_⟩, kept.writers⟩
      have before := drained.2
      dsimp only
      omega
    · refine ⟨kept.readers, kept.writers.weaken fun _ _ stuffed => ⟨stuffed.1, ?_⟩⟩
      have before := stuffed.2
      dsimp only
      omega

/-- No reader waits for 0 bytes: `read_handler` has refused such a call. -/
def Asks (s : PipeTasks τ) : Prop := ∀ t phase count, s.waiter t = .reader phase count → count ≠ 0

theorem Asks.update (asks : s.Asks) (new : ∀ phase count, w = .reader phase count → count ≠ 0) :
    Asks ⟨p, update s.waiter t w⟩ := by
  intro u phase count here
  dsimp only at here
  by_cases same : u = t
  · subst same
    rw [update_self] at here
    exact new phase count here
  · rw [update_of_ne same] at here
    exact asks u phase count here

theorem Asks.unblock (asks : s.Asks) (who : Option τ) : (s.unblock who).Asks := by
  cases who with
  | none => exact asks
  | some t =>
    apply asks.update
    intro phase count here
    cases old : s.waiter t <;> rw [old] at here <;> cases here
    exact asks t _ _ old

theorem Asks.afterRound (asks : s.Asks)
    (new : ∀ phase count, sleeper = .reader phase count → count ≠ 0) (r : PipeRound τ) :
    (s.afterRound t sleeper r).Asks := by
  apply Asks.unblock
  apply asks.update
  intro phase count here
  split at here
  · exact new phase count here
  · cases here

theorem Asks.next (asks : s.Asks) (move : PipeMove τ) : (s.next move).Asks := by
  cases move with
  | read =>
    rw [PipeTasks.next]
    split
    · split
      · exact asks
      · rename_i some
        apply asks.afterRound
        intro _ _ here
        cases here
        exact some
    · exact asks
  | write =>
    rw [PipeTasks.next]
    split
    · apply asks.afterRound
      intro _ _ impossible
      cases impossible
    · exact asks
  | list t | block t =>
    rw [PipeTasks.next]
    split
    · rename_i count here
      apply asks.update
      intro _ _ same
      cases same
      exact asks t _ _ here
    · exact asks.update fun _ _ impossible => nomatch impossible
    · exact asks
  | timer t => exact asks.unblock (some t)
  | resume t =>
    rw [PipeTasks.next]
    split
    · rename_i count here
      apply asks.afterRound
      intro _ _ same
      cases same
      exact asks t _ _ here
    · apply asks.afterRound
      intro _ _ impossible
      cases impossible
    · exact asks
  | ref => exact asks
  | close isWriteEnd =>
    have same : Asks ⟨(pipeCloseEndpoint s.pipe isWriteEnd).1, s.waiter⟩ := asks
    exact same.unblock (pipeCloseEndpoint s.pipe isWriteEnd).2

theorem Kept.next (kept : s.Kept) (asks : s.Asks) {move : PipeMove τ}
    (orderly : s.Orderly move) : (s.next move).Kept := by
  cases move with
  | read t count nonblock interrupts =>
    rw [PipeTasks.next]
    split
    · rename_i here
      split
      · exact kept
      · rename_i some
        have write : (s.waiter t).writePhase = .out := by rw [here]; rfl
        exact Kept.readRound (kept.readers.move rfl nofun fun _ _ holds => holds)
          kept.writers write orderly
          (pipeReadEndpoint_cases s.pipe some nonblock interrupts) count
    · exact kept
  | write t src nonblock =>
    rw [PipeTasks.next]
    split
    · rename_i here
      have read : (s.waiter t).readPhase = .out := by rw [here]; rfl
      exact Kept.writeRound kept.readers (kept.writers.move rfl nofun fun _ _ holds => holds)
        read orderly
        (pipeWriteEndpoint_cases s.pipe src nonblock) src 0
    · exact kept
  | list t => exact kept.list t orderly
  | block t => exact kept.block t
  | timer t => exact kept.unblock (some t)
  | resume t interrupts =>
    exact kept.resume t interrupts orderly fun count here => asks t _ count here
  | ref isWriteEnd => exact kept.ref isWriteEnd
  | close isWriteEnd => exact kept.close isWriteEnd orderly

end PipeTasks

/-- In a run of orderly steps nobody sleeps in an endpoint that could go on. -/
theorem pipe_none_forgotten {moves : List (PipeMove τ)} {last : PipeTasks τ}
    (run : Run (Guarded (graph PipeTasks.next) PipeTasks.Orderly) .start moves last) :
    last.NoneForgotten := by
  have inv : last.Kept ∧ last.Asks :=
    run.guarded (P := fun s => s.Kept ∧ s.Asks)
      (fun _ move inv orderly => ⟨inv.1.next inv.2 orderly, inv.2.next move⟩)
      ⟨⟨.start fun _ => rfl, .start fun _ => rfl⟩, nofun⟩
  intro t
  exact ⟨fun asleep => (inv.1.readers.blocked t asleep).1, fun asleep =>
    (inv.1.writers.blocked t asleep).1⟩

end Invariant

instance {τ : Type} [Fintype τ] [DecidableEq τ] (s : PipeTasks τ) (move : PipeMove τ) :
    Decidable (s.Orderly move) := by
  cases move <;> unfold PipeTasks.Orderly PipeTasks.ReadersSettled PipeTasks.WritersSettled <;>
    infer_instance

/-- A reader sleeps on the empty pipe, is woken by a write and reads its byte. -/
theorem pipe_none_forgotten_once :
    (([.read 0 4 false false, .list 0, .block 0, .write 1 [7] false, .resume 0 false] :
      List (PipeMove (Fin 2))).foldl PipeTasks.next .start).NoneForgotten := by
  apply pipe_none_forgotten
  exact run_of_passes (fun _ _ => of_decide_eq_true) (by decide +kernel)

/-- Two readers sleep on the empty pipe, the second in the slot. A write of two bytes wakes it; it
reads one of them, and the first reader sleeps on while the other byte is there. -/
theorem pipe_forgets_second_reader :
    let last :=
      ([.read 0 1 false false, .list 0, .block 0, .read 1 1 false false, .list 1, .block 1,
      .write 2 [7, 8] false, .resume 1 false] : List (PipeMove (Fin 3))).foldl PipeTasks.next .start
    (last.waiter 0).readPhase = .blocked ∧ last.pipe.count = 1 ∧ ¬ last.NoneForgotten := by
  intro last
  have asleep : (last.waiter 0).readPhase = .blocked := by decide +kernel
  have count : last.pipe.count = 1 := by decide +kernel
  refine ⟨asleep, count, fun none => ?_⟩
  have drained := ((none 0).1 asleep).1
  exact absurd drained (by decide)

end AvatarKernel
