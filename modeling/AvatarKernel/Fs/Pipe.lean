import AvatarKernel.Lib.Ring
import AvatarKernel.Signal.Delivery

namespace AvatarKernel

def pipeBufSize : Nat := 4096

def writeUserChunk : Nat := 2048

def intOf (total : Nat) : Int := (BitVec.ofNat 32 total).toInt

/-- `pipe_t` without the pool indices that epoll is notified through; `τ` is the type of tasks. -/
structure Pipe (τ : Type) where
  buf : Nat → BitVec 8
  rd : BitVec 32
  wr : BitVec 32
  count : BitVec 32
  rdRefcount : Int
  wrRefcount : Int
  blockedReader : Option τ
  blockedWriter : Option τ

section Endpoints

variable {τ : Type}

def Pipe.alloc : Pipe τ where
  buf := fun _ => 0
  rd := 0
  wr := 0
  count := 0
  rdRefcount := 1
  wrRefcount := 1
  blockedReader := none
  blockedWriter := none

/-- What `pipe_interrupts` looks for: a pending, unblocked signal whose action is not to ignore it.
Its loop over the bits of the mask is `pipeInterruptsLoop`. -/
def pipeInterrupts (pendingSigs blockedSigs : BitVec 64) (saHandler : Fin nsig → BitVec 64) :
    Bool :=
  (List.finRange nsig).any fun i =>
    (pendingSigs &&& ~~~blockedSigs).getLsbD i && saHandler i != sigIgn &&
      (saHandler i != sigDfl || !ignoredByDefault.contains (i + 1))

/-- The inner loop of `pipe_read_endpoint`; `room` is `count - total`. -/
def Pipe.take : (room : Nat) → Pipe τ → Pipe τ × List (BitVec 8)
  | 0, p => (p, [])
  | room + 1, p =>
    if p.count ≠ 0 then
      let r := take room { p with rd := p.rd + 1, count := p.count - 1 }
      (r.1, p.buf (p.rd.toNat % pipeBufSize) :: r.2)
    else (p, [])

/-- The inner loop of `pipe_write_endpoint` over the bytes still to be written, with the number of
bytes that fit. -/
def Pipe.put : (src : List (BitVec 8)) → Pipe τ → Pipe τ × Nat
  | [], p => (p, 0)
  | byte :: src, p =>
    if p.count.toNat < pipeBufSize then
      let r := put src { p with
        buf := Function.update p.buf (p.wr.toNat % pipeBufSize) byte
        wr := p.wr + 1
        count := p.count + 1 }
      (r.1, r.2 + 1)
    else (p, 0)

/-- One round of an endpoint's outer loop, up to its return or its sleep (`result` is `none`): the
bytes it moved, the task it passed to `task_unblock`, and whether it raised `SIGPIPE`. -/
structure PipeRound (τ : Type) where
  pipe : Pipe τ
  bytes : List (BitVec 8)
  woken : Option τ
  sigpipe : Bool
  result : Option Int

def PipeRound.refuse (p : Pipe τ) (rc : Int) : PipeRound τ := ⟨p, [], none, false, some rc⟩

def pipeReadRound (p : Pipe τ) (count : Nat) (nonblock interrupts : Bool) : PipeRound τ :=
  let r := p.take count
  if r.2.length > 0 then
    ⟨{ r.1 with blockedWriter := none }, r.2, r.1.blockedWriter, false, some (intOf r.2.length)⟩
  else
    ⟨r.1, [], none, false,
      if r.1.wrRefcount ≤ 0 then some 0
      else if nonblock then some (-11)
      else if interrupts then some (-4)
      else none⟩

def pipeReadEndpoint (p : Pipe τ) (count : Nat) (nonblock interrupts : Bool) : PipeRound τ :=
  if (p.rdRefcount = 0 ∧ p.wrRefcount = 0) ∨ p.rdRefcount ≤ 0 then .refuse p (-1)
  else pipeReadRound p count nonblock interrupts

/-- A round of the outer loop of `pipe_write_endpoint`, when `total` bytes have been written. -/
def pipeWriteRound (p : Pipe τ) (src : List (BitVec 8)) (total : Nat) (nonblock : Bool) :
    PipeRound τ :=
  let r := p.put (src.drop total)
  let written := total + r.2
  let closed := decide (written < src.length ∧ r.1.rdRefcount ≤ 0)
  ⟨{ r.1 with blockedReader := none }, (src.drop total).take r.2, r.1.blockedReader, closed,
    if written < src.length then
      if closed then some (if written > 0 then intOf written else -32)
      else if nonblock then some (if written > 0 then intOf written else -11)
      else none
    else some (intOf written)⟩

def pipeWriteEndpoint (p : Pipe τ) (src : List (BitVec 8)) (nonblock : Bool) : PipeRound τ :=
  if (p.rdRefcount = 0 ∧ p.wrRefcount = 0) ∨ p.wrRefcount ≤ 0 then .refuse p (-1)
  else if p.rdRefcount ≤ 0 then ⟨p, [], none, true, some (-32)⟩
  else if src.length = 0 then .refuse p 0
  else pipeWriteRound p src 0 nonblock

def pipeRefEndpoint (p : Pipe τ) (isWriteEnd : Bool) : Pipe τ :=
  if p.rdRefcount = 0 ∧ p.wrRefcount = 0 then p
  else if isWriteEnd then { p with wrRefcount := p.wrRefcount + 1 }
  else { p with rdRefcount := p.rdRefcount + 1 }

/-- `pipe_close_endpoint`, with the task it passes to `task_unblock`. -/
def pipeCloseEndpoint (p : Pipe τ) (isWriteEnd : Bool) : Pipe τ × Option τ :=
  if p.rdRefcount = 0 ∧ p.wrRefcount = 0 then (p, none)
  else if isWriteEnd then
    if p.wrRefcount - 1 ≤ 0 then ({ p with wrRefcount := 0, blockedReader := none },
      p.blockedReader)
    else ({ p with wrRefcount := p.wrRefcount - 1 }, none)
  else if p.rdRefcount - 1 ≤ 0 then ({ p with rdRefcount := 0, blockedWriter := none },
    p.blockedWriter)
  else ({ p with rdRefcount := p.rdRefcount - 1 }, none)

def pipePollReadableEndpoint (p : Pipe τ) : Bool :=
  if p.rdRefcount = 0 ∧ p.wrRefcount = 0 then false
  else decide (p.count ≠ 0 ∨ p.wrRefcount ≤ 0)

def pipePollWritableEndpoint (p : Pipe τ) : Bool :=
  if p.rdRefcount = 0 ∧ p.wrRefcount = 0 then false
  else decide (p.count.toNat < pipeBufSize ∨ p.rdRefcount ≤ 0)

end Endpoints

section Handlers

variable {τ : Type}

/-- What a stretch of a call finds outside the pipe: the caller's signals, the flags of the open
file and the user's buffer. -/
structure PipeEnv where
  pendingSigs : BitVec 64
  blockedSigs : BitVec 64
  saHandler : Fin nsig → BitVec 64
  isWriteEnd : Bool
  nonblock : Bool
  null : Bool
  byte : Nat → BitVec 8
  accessible : (offset len : Nat) → Bool

def PipeEnv.interrupts (env : PipeEnv) : Bool :=
  pipeInterrupts env.pendingSigs env.blockedSigs env.saHandler

/-- Where a task sleeps: in `pipe_read_endpoint`, or in `pipe_write_endpoint` with `total` bytes of
a chunk written and `done` bytes of the chunks before it. -/
inductive PipeCall where
  | none
  | read (count : Nat)
  | write (chunk : List (BitVec 8)) (total done count : Nat)

def PipeCall.isNone : PipeCall → Bool
  | .none => true
  | _ => false

def PipeCall.isWrite : PipeCall → Bool
  | .write .. => true
  | _ => false

inductive Progress where
  | returned (value : Int)
  | asleep (call : PipeCall)

/-- A stretch of a call: the pipe after it, the bytes moved, and how it ended. -/
structure Stretch (τ : Type) where
  pipe : Pipe τ
  bytes : List (BitVec 8)
  progress : Progress

def afterRead (me : τ) (count : Nat) (r : PipeRound τ) : Stretch τ :=
  match r.result with
  | some rc => ⟨r.pipe, r.bytes, .returned rc⟩
  | none => ⟨{ r.pipe with blockedReader := some me }, r.bytes, .asleep (.read count)⟩

def readHandler (p : Pipe τ) (me : τ) (count : Nat) (env : PipeEnv) : Stretch τ :=
  if env.null ∨ count = 0 then ⟨p, [], .returned 0⟩
  else if !env.accessible 0 count then ⟨p, [], .returned (-14)⟩
  else if env.isWriteEnd then ⟨p, [], .returned (-9)⟩
  else afterRead me count (pipeReadEndpoint p count env.nonblock env.interrupts)

def pipeFileWrite (p : Pipe τ) (src : List (BitVec 8)) (env : PipeEnv) : PipeRound τ :=
  if !env.isWriteEnd then .refuse p (-9) else pipeWriteEndpoint p src env.nonblock

/-- What `write_handler` does after a round of `pipe_write_endpoint`; `more` is the rest of its
loop. -/
def afterWrite (me : τ) (more : Pipe τ → Nat → Stretch τ) (chunk : List (BitVec 8))
    (total done count : Nat) (r : PipeRound τ) : Stretch τ :=
  match r.result with
  | none =>
    ⟨{ r.pipe with blockedWriter := some me }, r.bytes,
      .asleep (.write chunk (total + r.bytes.length) done count)⟩
  | some rc =>
    if rc < 0 then ⟨r.pipe, r.bytes, .returned (if done ≠ 0 then done else rc)⟩
    else if rc.toNat < chunk.length then
      ⟨r.pipe, r.bytes, .returned ((done + rc.toNat : Nat) : Int)⟩
    else
      let rest := more r.pipe (done + rc.toNat)
      ⟨rest.pipe, r.bytes ++ rest.bytes, rest.progress⟩

/-- The chunk that `copy_from_user_bytes` brings into the kernel. -/
def PipeEnv.chunk (env : PipeEnv) (done len : Nat) : List (BitVec 8) :=
  (List.range len).map fun i => env.byte (done + i)

/-- The loop of `write_handler`. Every chunk but the last one moves `done` on, so that `count -
done` rounds are enough. -/
def writeChunks (env : PipeEnv) (me : τ) (count : Nat) :
    (rounds : Nat) → Pipe τ → (done : Nat) → Stretch τ
  | 0, p, done => ⟨p, [], .returned done⟩
  | rounds + 1, p, done =>
    if done < count then
      let len := min (count - done) writeUserChunk
      if !env.accessible done len then ⟨p, [], .returned (if done ≠ 0 then done else -14)⟩
      else
        afterWrite me (writeChunks env me count rounds) (env.chunk done len) 0 done count
          (pipeFileWrite p (env.chunk done len) env)
    else ⟨p, [], .returned done⟩

def writeHandler (p : Pipe τ) (me : τ) (count : Nat) (env : PipeEnv) : Stretch τ :=
  if env.null then ⟨p, [], .returned 0⟩ else writeChunks env me count count p 0

/-- A sleeping call goes on: the endpoint clears its slot and begins its next round. -/
def resumeCall (p : Pipe τ) (me : τ) (env : PipeEnv) : PipeCall → Stretch τ
  | .none => ⟨p, [], .asleep .none⟩
  | .read count =>
    afterRead me count (pipeReadRound { p with blockedReader := none } count false env.interrupts)
  | .write chunk total done count =>
    afterWrite me (writeChunks env me count (count - done)) chunk total done count
      (pipeWriteRound { p with blockedWriter := none } chunk total false)

end Handlers

end AvatarKernel
