import AvatarKernel.Fs.Pipe

namespace AvatarKernel

open Function

section Ring

variable {τ : Type} {p : Pipe τ}

def Pipe.content (p : Pipe τ) : List (BitVec 8) :=
  Ring.contents pipeBufSize p.buf p.rd.toNat p.count.toNat

theorem Pipe.content_length (p : Pipe τ) : p.content.length = p.count.toNat := Ring.length_contents

/-- The indices of the ring agree with its count. -/
structure Pipe.Sound (p : Pipe τ) : Prop where
  bound : p.count.toNat ≤ pipeBufSize
  indices : p.wr = p.rd + p.count

theorem Pipe.alloc_sound : (Pipe.alloc : Pipe τ).Sound := ⟨Nat.zero_le _, rfl⟩

theorem index_succ (index : BitVec 32) :
    (index + 1).toNat % pipeBufSize = (index.toNat + 1) % pipeBufSize := by
  rw [BitVec.toNat_add, pipeBufSize]
  show (index.toNat + 1) % 4294967296 % 4096 = _
  omega

namespace Pipe

theorem Sound.wr_index (sound : p.Sound) :
    p.wr.toNat % pipeBufSize = (p.rd.toNat + p.count.toNat) % pipeBufSize := by
  rw [sound.indices, BitVec.toNat_add, pipeBufSize]
  omega

theorem Sound.take : ∀ (room : Nat) {p : Pipe τ}, p.Sound →
    (p.take room).1.Sound ∧ p.content = (p.take room).2 ++ (p.take room).1.content := by
  intro room
  induction room with
  | zero => exact fun sound => ⟨sound, rfl⟩
  | succ _ ih =>
    intro p sound
    rw [Pipe.take]
    split
    case isFalse => exact ⟨sound, rfl⟩
    case isTrue some =>
      have one : p.count.toNat = (p.count - 1).toNat + 1 := by
        bv_omega
      have bound := sound.bound
      have indices := sound.indices
      have shorter : Sound { p with rd := p.rd + 1, count := p.count - 1 } :=
        ⟨by dsimp only; omega, by dsimp only; bv_omega⟩
      obtain ⟨after, rest⟩ := ih shorter
      refine ⟨after, ?_⟩
      rw [List.cons_append, ← rest, content, one, Ring.contents_succ]
      congr 1
      exact Ring.contents_congr (index_succ p.rd).symm

theorem Sound.put : ∀ (src : List (BitVec 8)) {p : Pipe τ}, p.Sound →
    (p.put src).1.Sound ∧ (p.put src).1.content = p.content ++ src.take (p.put src).2 ∧
      (p.put src).2 ≤ src.length := by
  intro src
  induction src with
  | nil => exact fun sound => ⟨sound, (List.append_nil _).symm, le_refl _⟩
  | cons byte _ ih =>
    intro p sound
    rw [Pipe.put]
    split
    case isFalse => exact ⟨sound, (List.append_nil _).symm, Nat.zero_le _⟩
    case isTrue room =>
      have small : p.count.toNat < 4096 := room
      have one : (p.count + 1).toNat = p.count.toNat + 1 := by bv_omega
      have indices := sound.indices
      have longer : Sound { p with
          buf := update p.buf (p.wr.toNat % pipeBufSize) byte
          wr := p.wr + 1
          count := p.count + 1 } :=
        ⟨by dsimp only; rw [one]; exact room, by dsimp only; rw [indices]; bv_omega⟩
      obtain ⟨after, rest, length⟩ := ih longer
      refine ⟨after, ?_, Nat.succ_le_succ length⟩
      rw [rest, List.take_succ_cons, ← List.singleton_append, ← List.append_assoc]
      congr 1
      rw [content, content, one, sound.wr_index]
      exact Ring.contents_update room byte

end Pipe

end Ring

theorem intOf_eq (small : total ≤ pipeBufSize) : intOf total = total := by
  have bound : total ≤ 4096 := small
  have value : (BitVec.ofNat 32 total).toNat = total := by
    exact Nat.mod_eq_of_lt (by omega)
  rw [intOf, BitVec.toInt_eq_toNat_of_lt (by omega), value]

section Rounds

variable {τ : Type} {p : Pipe τ}

/-- A call that has moved this many bytes may return this value: their number, or an error if there
are none. -/
def Reports (moved : Nat) (value : Int) : Prop := value = moved ∨ (value < 0 ∧ moved = 0)

namespace PipeRound

structure Reads (p : Pipe τ) (r : PipeRound τ) : Prop where
  sound : r.pipe.Sound
  fifo : p.content = r.bytes ++ r.pipe.content
  reports : ∀ rc, r.result = some rc → Reports r.bytes.length rc
  sleeps : r.result = none → r.bytes = []

structure Writes (p : Pipe τ) (total : Nat) (r : PipeRound τ) : Prop where
  sound : r.pipe.Sound
  fifo : r.pipe.content = p.content ++ r.bytes
  reports : ∀ rc, r.result = some rc → Reports (total + r.bytes.length) rc

theorem Reads.refuse (sound : p.Sound) (error : rc < 0) :
    (PipeRound.refuse p rc).Reads p where
  sound := sound
  fifo := rfl
  reports := fun _ same => by
    cases same
    exact .inr ⟨error, rfl⟩
  sleeps := nofun

theorem Writes.refuse (sound : p.Sound) (error : rc ≤ 0) :
    (PipeRound.refuse p rc).Writes p 0 where
  sound := sound
  fifo := (List.append_nil _).symm
  reports := fun _ same => by
    cases same
    rcases Int.lt_or_eq_of_le error with error | rfl
    · exact .inr ⟨error, rfl⟩
    · exact .inl rfl

end PipeRound

theorem pipeReadRound_reads (sound : p.Sound) (count : Nat) (nonblock interrupts : Bool) :
    (pipeReadRound p count nonblock interrupts).Reads p := by
  obtain ⟨after, fifo⟩ := sound.take count
  have short : (p.take count).2.length ≤ pipeBufSize := by
    have length := congrArg List.length fifo
    rw [List.length_append, Pipe.content_length] at length
    have bound := sound.bound
    omega
  rw [pipeReadRound]
  split
  case isTrue some =>
    refine ⟨⟨after.bound, after.indices⟩, fifo, fun rc same => ?_, nofun⟩
    cases same
    exact .inl (intOf_eq short)
  case isFalse none =>
    have empty : (p.take count).2 = [] := List.eq_nil_of_length_eq_zero (by omega)
    rw [empty] at fifo
    refine ⟨after, fifo, fun rc same => ?_, fun _ => rfl⟩
    split at same
    · cases same
      exact .inl rfl
    · split at same
      · cases same
        exact .inr ⟨by decide, rfl⟩
      · split at same
        · cases same
          exact .inr ⟨by decide, rfl⟩
        · cases same

theorem pipeReadEndpoint_reads (sound : p.Sound) (count : Nat) (nonblock interrupts : Bool) :
    (pipeReadEndpoint p count nonblock interrupts).Reads p := by
  rw [pipeReadEndpoint]
  split
  · exact .refuse sound (by decide)
  · exact pipeReadRound_reads sound count nonblock interrupts

theorem pipeWriteRound_writes (sound : p.Sound) (short : src.length ≤ writeUserChunk)
    (within : total ≤ src.length) (nonblock : Bool) :
    (pipeWriteRound p src total nonblock).Writes p total := by
  obtain ⟨after, fifo, length⟩ := sound.put (src.drop total)
  rw [List.length_drop] at length
  have moved : ((src.drop total).take (p.put (src.drop total)).2).length =
      (p.put (src.drop total)).2 := by
    rw [List.length_take, List.length_drop]
    omega
  have exact : intOf (total + (p.put (src.drop total)).2) =
      ((total + (p.put (src.drop total)).2 : Nat) : Int) := by
    apply intOf_eq
    have small : writeUserChunk ≤ pipeBufSize := by decide
    omega
  refine ⟨⟨after.bound, after.indices⟩, fifo, fun rc result => ?_⟩
  -- a partial write is reported by its length, an error only if nothing was written
  have partially (error : Int) (negative : error < 0)
      (same : some (if total + (p.put (src.drop total)).2 > 0 then
        intOf (total + (p.put (src.drop total)).2) else error) = some rc) :
      Reports (total + (p.put (src.drop total)).2) rc := by
    cases same
    split
    · exact .inl exact
    · exact .inr ⟨negative, by omega⟩
  show Reports (total + ((src.drop total).take (p.put (src.drop total)).2).length) rc
  rw [moved]
  simp only [pipeWriteRound] at result
  split at result
  · split at result
    · exact partially _ (by decide) result
    · split at result
      · exact partially _ (by decide) result
      · cases result
  · cases result
    exact .inl exact

theorem pipeFileWrite_writes (sound : p.Sound) (short : src.length ≤ writeUserChunk)
    (env : PipeEnv) : (pipeFileWrite p src env).Writes p 0 := by
  rw [pipeFileWrite]
  split
  · exact .refuse sound (by decide)
  · rw [pipeWriteEndpoint]
    split
    · exact .refuse sound (by decide)
    · split
      · refine ⟨sound, (List.append_nil _).symm, fun rc same => ?_⟩
        cases same
        exact .inr ⟨by decide, rfl⟩
      · split
        · exact .refuse sound (le_refl _)
        · exact pipeWriteRound_writes sound short (Nat.zero_le _) env.nonblock

end Rounds

section Stretches

variable {τ : Type} {p : Pipe τ}

def PipeCall.Knows (moved : Nat) : PipeCall → Prop
  | .none => True
  | .read _ => moved = 0
  | .write chunk total done _ =>
    moved = done + total ∧ chunk.length ≤ writeUserChunk ∧ total ≤ chunk.length

def Progress.Fits (moved : Nat) : Progress → Prop
  | .returned value => Reports moved value
  | .asleep call => call.Knows moved

structure Stretch.Moves (p : Pipe τ) (before : Nat) (taken given : List (BitVec 8))
    (r : Stretch τ) :
    Prop where
  sound : r.pipe.Sound
  fifo : p.content ++ given = taken ++ r.pipe.content
  fits : r.progress.Fits (before + taken.length + given.length)

theorem Stretch.Moves.idle (sound : p.Sound) {progress : Progress} (fits : progress.Fits before) :
    (⟨p, [], progress⟩ : Stretch τ).Moves p before [] [] where
  sound := sound
  fifo := List.append_nil _
  fits := fits

theorem afterRead_moves (reads : r.Reads p) :
    (afterRead me count r).Moves p 0 (afterRead me count r).bytes [] := by
  rw [afterRead]
  cases result : r.result with
  | some rc =>
    refine ⟨reads.sound, (List.append_nil _).trans reads.fifo, ?_⟩
    rw [Nat.zero_add]
    exact reads.reports rc result
  | none =>
    refine ⟨⟨reads.sound.bound, reads.sound.indices⟩, (List.append_nil _).trans reads.fifo, ?_⟩
    show 0 + r.bytes.length = 0
    rw [reads.sleeps result, List.length_nil]

theorem readHandler_moves (sound : p.Sound) (me : τ) (count : Nat) (env : PipeEnv) :
    (readHandler p me count env).Moves p 0 (readHandler p me count env).bytes [] := by
  rw [readHandler]
  split
  · exact .idle sound (.inl rfl)
  · split
    · exact .idle sound (.inr ⟨by decide, rfl⟩)
    · split
      · exact .idle sound (.inr ⟨by decide, rfl⟩)
      · exact afterRead_moves (pipeReadEndpoint_reads sound count env.nonblock env.interrupts)

theorem afterWrite_moves (writes : r.Writes p total) (short : chunk.length ≤ writeUserChunk)
    (within : total + r.bytes.length ≤ chunk.length)
    (rest : ∀ {q : Pipe τ} (further : Nat), q.Sound →
      (more q further).Moves q further [] (more q further).bytes) :
    (afterWrite me more chunk total done count r).Moves p (done + total) []
      (afterWrite me more chunk total done count r).bytes := by
  rw [afterWrite]
  cases result : r.result with
  | none =>
    refine ⟨⟨writes.sound.bound, writes.sound.indices⟩, writes.fifo.symm, ?_⟩
    refine ⟨?_, short, within⟩
    show done + total + 0 + r.bytes.length = done + (total + r.bytes.length)
    omega
  | some rc =>
    have reports := writes.reports rc result
    dsimp only
    split
    case isTrue negative =>
      rcases reports with same | ⟨_, none⟩
      · omega
      · refine ⟨writes.sound, writes.fifo.symm, ?_⟩
        show Reports (done + total + 0 + r.bytes.length) _
        rw [show done + total + 0 + r.bytes.length = done by omega]
        split
        · exact .inl rfl
        · exact .inr ⟨negative, by omega⟩
    case isFalse positive =>
      have moved : rc.toNat = total + r.bytes.length := by
        rcases reports with same | ⟨error, _⟩ <;> omega
      split
      · refine ⟨writes.sound, writes.fifo.symm, .inl ?_⟩
        rw [moved]
        show ((done + (total + r.bytes.length) : Nat) : Int) =
          ((done + total + 0 + r.bytes.length : Nat) : Int)
        omega
      · have further := rest (done + rc.toNat) writes.sound
        refine ⟨further.sound, ?_, ?_⟩
        · rw [← List.append_assoc, ← writes.fifo]
          exact further.fifo
        · have fits := further.fits
          rw [List.length_append]
          rw [show done + total + ([] : List (BitVec 8)).length +
            (r.bytes.length + (more r.pipe (done + rc.toNat)).bytes.length) =
            done + rc.toNat + ([] : List (BitVec 8)).length +
              (more r.pipe (done + rc.toNat)).bytes.length by rw [moved]; omega]
          exact fits

theorem pipeWriteRound_bytes (p : Pipe τ) (src : List (BitVec 8)) (total : Nat) (nonblock : Bool)
    (within : total ≤ src.length) :
    total + (pipeWriteRound p src total nonblock).bytes.length ≤ src.length := by
  show total + ((src.drop total).take _).length ≤ _
  rw [List.length_take, List.length_drop]
  omega

theorem pipeFileWrite_bytes (p : Pipe τ) (src : List (BitVec 8)) (env : PipeEnv) :
    0 + (pipeFileWrite p src env).bytes.length ≤ src.length := by
  rw [pipeFileWrite]
  split
  · exact Nat.zero_le _
  · rw [pipeWriteEndpoint]
    split
    · exact Nat.zero_le _
    · split
      · exact Nat.zero_le _
      · split
        · exact Nat.zero_le _
        · exact pipeWriteRound_bytes p src 0 env.nonblock (Nat.zero_le _)

theorem PipeEnv.chunk_length (env : PipeEnv) (done len : Nat) :
    (env.chunk done len).length = len := by
  rw [PipeEnv.chunk, List.length_map, List.length_range]

theorem writeChunks_moves (env : PipeEnv) (me : τ) (count : Nat) :
    ∀ (rounds : Nat) {p : Pipe τ} (done : Nat),
    p.Sound → (writeChunks env me count rounds p done).Moves p done []
      (writeChunks env me count rounds p done).bytes := by
  intro rounds
  induction rounds with
  | zero => exact fun done sound => .idle sound (.inl rfl)
  | succ _ ih =>
    intro p done sound
    rw [writeChunks]
    split
    · dsimp only
      split
      · refine .idle sound ?_
        split
        · exact .inl rfl
        · exact .inr ⟨by decide, by omega⟩
      · have short : (env.chunk done (min (count - done) writeUserChunk)).length ≤
            writeUserChunk := by
          rw [PipeEnv.chunk_length]
          exact Nat.min_le_right _ _
        exact afterWrite_moves (pipeFileWrite_writes sound short env) short
          (pipeFileWrite_bytes p _ env) ih
    · exact .idle sound (.inl rfl)

theorem writeHandler_moves (sound : p.Sound) (me : τ) (count : Nat) (env : PipeEnv) :
    (writeHandler p me count env).Moves p 0 [] (writeHandler p me count env).bytes := by
  rw [writeHandler]
  split
  · exact .idle sound (.inl rfl)
  · exact writeChunks_moves env me count count 0 sound

theorem resumeCall_moves (sound : p.Sound) (me : τ) (env : PipeEnv) (knows : call.Knows before) :
    (resumeCall p me env call).Moves p before
      (if call.isWrite then [] else (resumeCall p me env call).bytes)
      (if call.isWrite then (resumeCall p me env call).bytes else []) := by
  cases call with
  | none => exact .idle sound trivial
  | read count =>
    subst knows
    have cleared : Pipe.Sound { p with blockedReader := none } := ⟨sound.bound, sound.indices⟩
    have reads := pipeReadRound_reads cleared count false env.interrupts
    exact afterRead_moves ⟨reads.sound, reads.fifo, reads.reports, reads.sleeps⟩
  | write chunk total done count =>
    obtain ⟨rfl, short, within⟩ := knows
    have cleared : Pipe.Sound { p with blockedWriter := none } := ⟨sound.bound, sound.indices⟩
    have writes := pipeWriteRound_writes cleared short within false
    exact afterWrite_moves ⟨writes.sound, writes.fifo, writes.reports⟩ short
      (pipeWriteRound_bytes _ chunk total false within)
        (writeChunks_moves env me count (count - done))

/-- The caller's buffer as a stretch of the call sees it: a sleeping writer still has the chunk that
it copied before. -/
def PipeCall.byte (env : PipeEnv) : PipeCall → Nat → BitVec 8
  | .write chunk _ done _, k => if done ≤ k then chunk.getD (k - done) (env.byte k) else env.byte k
  | _, k => env.byte k

def PipeCall.Keeps (source : Nat → BitVec 8) : PipeCall → Prop
  | .write chunk _ done _ => ∀ k byte, chunk[k]? = some byte → byte = source (done + k)
  | _ => True

/-- A stretch of a write accepts the bytes of the buffer from an offset on, and a chunk that it
sleeps with is part of the buffer. -/
structure Stretch.Copies (source : Nat → BitVec 8) (start : Nat) (r : Stretch τ) : Prop where
  bytes : ∀ j byte, r.bytes[j]? = some byte → byte = source (start + j)
  keeps : ∀ call, r.progress = .asleep call → call.Keeps source

theorem Stretch.Copies.none (source : Nat → BitVec 8) (start : Nat) (p : Pipe τ) (value : Int) :
    (⟨p, [], .returned value⟩ : Stretch τ).Copies source start :=
  ⟨nofun, nofun⟩

theorem afterWrite_copies {source : Nat → BitVec 8} (writes : r.Writes p total)
    (within : total + r.bytes.length ≤ chunk.length)
    (part : ∃ len, r.bytes = (chunk.drop total).take len)
    (copied : ∀ k byte, chunk[k]? = some byte → byte = source (done + k))
    (rest : (more r.pipe (done + chunk.length)).Copies source (done + chunk.length)) :
    (afterWrite me more chunk total done count r).Copies source (done + total) := by
  have bytes : ∀ j byte, r.bytes[j]? = some byte → byte = source (done + total + j) := by
    obtain ⟨len, same⟩ := part
    intro j byte here
    rw [same, List.getElem?_take] at here
    split at here
    · rw [List.getElem?_drop] at here
      rw [Nat.add_assoc]
      exact copied _ byte here
    · cases here
  rw [afterWrite]
  cases result : r.result with
  | none =>
    refine ⟨bytes, fun call asleep => ?_⟩
    cases asleep
    exact copied
  | some rc =>
    have reports := writes.reports rc result
    dsimp only
    split
    · exact ⟨bytes, nofun⟩
    · have moved : rc.toNat = total + r.bytes.length := by
        rcases reports with same | ⟨error, _⟩ <;> omega
      split
      · exact ⟨bytes, nofun⟩
      · -- the chunk is written, so the rest goes on where it ends
        have whole : rc.toNat = chunk.length := by omega
        rw [whole]
        refine ⟨fun j byte here => ?_, rest.keeps⟩
        rw [List.getElem?_append] at here
        split at here
        · exact bytes j byte here
        · rw [rest.bytes _ byte here]
          congr 1
          omega

theorem pipeFileWrite_part (p : Pipe τ) (src : List (BitVec 8)) (env : PipeEnv) :
    ∃ len, (pipeFileWrite p src env).bytes = (src.drop 0).take len := by
  rw [pipeFileWrite]
  split
  · exact ⟨0, rfl⟩
  · rw [pipeWriteEndpoint]
    split
    · exact ⟨0, rfl⟩
    · split
      · exact ⟨0, rfl⟩
      · split
        · exact ⟨0, rfl⟩
        · exact ⟨_, rfl⟩

theorem PipeEnv.chunk_byte (env : PipeEnv) (done len : Nat) {byte : BitVec 8}
    (here : (env.chunk done len)[k]? = some byte) : byte = env.byte (done + k) := by
  rw [PipeEnv.chunk, List.getElem?_map, Option.map_eq_some_iff] at here
  obtain ⟨i, inside, rfl⟩ := here
  rw [(List.getElem?_eq_some_iff.mp inside).2.symm, List.getElem_range]

theorem writeChunks_copies (env : PipeEnv) (me : τ) (count : Nat) {source : Nat → BitVec 8} :
    ∀ (rounds : Nat) {p : Pipe τ} (done : Nat), p.Sound →
      (∀ k, done ≤ k → source k = env.byte k) →
        (writeChunks env me count rounds p done).Copies source done := by
  intro rounds
  induction rounds with
  | zero => exact fun done _ _ => .none source done _ _
  | succ _ ih =>
    intro p done sound same
    rw [writeChunks]
    split
    · dsimp only
      split
      · exact .none source done _ _
      · have short : (env.chunk done (min (count - done) writeUserChunk)).length ≤
            writeUserChunk := by
          rw [PipeEnv.chunk_length]
          exact Nat.min_le_right _ _
        have writes := pipeFileWrite_writes sound short env
        refine afterWrite_copies writes (pipeFileWrite_bytes p _ env)
          (pipeFileWrite_part p _ env) ?_ ?_
        · intro k byte here
          rw [same _ (Nat.le_add_right _ _)]
          exact env.chunk_byte done _ here
        · exact ih _ writes.sound fun k above => same k (by omega)
    · exact .none source done _ _

theorem writeHandler_copies (sound : p.Sound) (me : τ) (count : Nat) (env : PipeEnv) :
    (writeHandler p me count env).Copies env.byte 0 := by
  rw [writeHandler]
  split
  · exact .none env.byte 0 _ _
  · exact writeChunks_copies env me count count 0 sound fun _ _ => rfl

theorem resumeCall_copies (sound : p.Sound) (me : τ) (env : PipeEnv)
    (knows : (PipeCall.write chunk total done count).Knows before) :
    (resumeCall p me env (.write chunk total done count)).Copies
      ((PipeCall.write chunk total done count).byte env) before := by
  obtain ⟨rfl, short, within⟩ := knows
  have cleared : Pipe.Sound { p with blockedWriter := none } := ⟨sound.bound, sound.indices⟩
  have writes := pipeWriteRound_writes cleared short within false
  refine afterWrite_copies ⟨writes.sound, writes.fifo, writes.reports⟩
    (pipeWriteRound_bytes _ chunk total false within) ⟨_, rfl⟩ ?_ ?_
  · intro k byte here
    rw [PipeCall.byte, if_pos (Nat.le_add_right _ _), Nat.add_sub_cancel_left,
      List.getD_eq_getElem?_getD, here]
    rfl
  · refine writeChunks_copies env me count (count - done) _ writes.sound fun k above => ?_
    rw [PipeCall.byte, if_pos (by omega), List.getD_eq_getElem?_getD,
      List.getElem?_eq_none (by omega)]
    rfl

theorem afterRead_keeps {call : PipeCall}
    (asleep : (afterRead me count r).progress = .asleep call) :
    call.Keeps source := by
  rw [afterRead] at asleep
  split at asleep <;> cases asleep
  trivial

theorem pipeRefEndpoint_content (p : Pipe τ) (isWriteEnd : Bool) :
    (pipeRefEndpoint p isWriteEnd).content = p.content ∧
    (p.Sound → (pipeRefEndpoint p isWriteEnd).Sound) := by
  unfold pipeRefEndpoint
  split
  · exact ⟨rfl, id⟩
  · split <;> exact ⟨rfl, fun sound => ⟨sound.bound, sound.indices⟩⟩

theorem pipeCloseEndpoint_content (p : Pipe τ) (isWriteEnd : Bool) :
    (pipeCloseEndpoint p isWriteEnd).1.content = p.content ∧
      (p.Sound → (pipeCloseEndpoint p isWriteEnd).1.Sound) := by
  unfold pipeCloseEndpoint
  split
  · exact ⟨rfl, id⟩
  · split <;> split <;> exact ⟨rfl, fun sound => ⟨sound.bound, sound.indices⟩⟩

end Stretches

section System

variable {τ : Type} [DecidableEq τ]

structure PipeSystem (τ : Type) where
  pipe : Pipe τ
  call : τ → PipeCall

/-- The steps on one pipe: a task enters `read_handler` or `write_handler`, a sleeping task goes on,
or an endpoint is referenced or closed. -/
inductive PipeAction (τ : Type) where
  | read (t : τ) (count : Nat) (env : PipeEnv)
  | write (t : τ) (count : Nat) (env : PipeEnv)
  | resume (t : τ) (env : PipeEnv)
  | ref (isWriteEnd : Bool)
  | close (isWriteEnd : Bool)

/-- What a step shows: the bytes accepted from writers, those handed to readers, and the value that
a call returned. -/
structure PipeEvent where
  accepted : List (BitVec 8)
  returned : List (BitVec 8)
  result : Option Int

/-- The observations of a run; `moved` counts the bytes of the latest call of each task. -/
structure PipeHistory (τ : Type) where
  accepted : List (BitVec 8)
  returned : List (BitVec 8)
  moved : τ → Nat

/-- A task that sleeps enters no other call, and no other task goes on. -/
def PipeSystem.enabled (s : PipeSystem τ) : PipeAction τ → Bool
  | .read t _ _ | .write t _ _ => (s.call t).isNone
  | .resume t _ => !(s.call t).isNone
  | .ref _ | .close _ => true

def PipeSystem.land (s : PipeSystem τ) (t : τ) (writes : Bool) (r : Stretch τ) :
    PipeSystem τ × PipeEvent :=
  let bytes := fun given : Bool => if given then r.bytes else []
  match r.progress with
  | .returned value =>
    (⟨r.pipe, update s.call t .none⟩, ⟨bytes writes, bytes !writes, some value⟩)
  | .asleep call => (⟨r.pipe, update s.call t call⟩, ⟨bytes writes, bytes !writes, none⟩)

def PipeSystem.step (s : PipeSystem τ) : PipeAction τ → PipeSystem τ × PipeEvent
  | .read t count env => s.land t false (readHandler s.pipe t count env)
  | .write t count env => s.land t true (writeHandler s.pipe t count env)
  | .resume t env => s.land t (s.call t).isWrite (resumeCall s.pipe t env (s.call t))
  | .ref isWriteEnd => (⟨pipeRefEndpoint s.pipe isWriteEnd, s.call⟩, ⟨[], [], none⟩)
  | .close isWriteEnd => (⟨(pipeCloseEndpoint s.pipe isWriteEnd).1, s.call⟩, ⟨[], [], none⟩)

def PipeHistory.record (h : PipeHistory τ) (action : PipeAction τ) (e : PipeEvent) :
    PipeHistory τ where
  accepted := h.accepted ++ e.accepted
  returned := h.returned ++ e.returned
  moved :=
    match action with
    | .read t _ _ | .write t _ _ => update h.moved t (e.returned.length + e.accepted.length)
    | .resume t _ =>
      update h.moved t (h.moved t + e.returned.length + e.accepted.length)
    | .ref _ | .close _ => h.moved

def PipeSystem.observe (x : PipeSystem τ × PipeHistory τ) (action : PipeAction τ) :
    PipeSystem τ × PipeHistory τ :=
  if x.1.enabled action then ((x.1.step action).1, x.2.record action (x.1.step action).2) else x

def PipeSystem.start : PipeSystem τ × PipeHistory τ :=
  (⟨.alloc, fun _ => .none⟩, ⟨[], [], fun _ => 0⟩)

/-- The invariant of the stream: what was accepted is what was returned, then what is in the
pipe. -/
structure PipeSystem.Streams (x : PipeSystem τ × PipeHistory τ) : Prop where
  sound : x.1.pipe.Sound
  fifo : x.2.accepted = x.2.returned ++ x.1.pipe.content
  knows : ∀ t, (x.1.call t).Knows (x.2.moved t)

def PipeAction.caller : PipeAction τ → Option τ
  | .read t _ _ | .write t _ _ | .resume t _ => some t
  | .ref _ | .close _ => none

variable (s : PipeSystem τ)

section

variable (t : τ) (writes : Bool) (r : Stretch τ)

theorem PipeSystem.land_pipe :
    (s.land t writes r).1.pipe = r.pipe := by
  unfold land
  split <;> rfl

theorem PipeSystem.land_bytes :
    (s.land t writes r).2.accepted = (if writes then r.bytes else []) ∧
      (s.land t writes r).2.returned = if writes then [] else r.bytes := by
  unfold land
  cases writes <;> split <;> exact ⟨rfl, rfl⟩

theorem PipeSystem.land_result (result : (s.land t writes r).2.result = some value) :
    r.progress = .returned value := by
  unfold land at result
  split at result
  · rename_i same
    cases result
    exact same
  · cases result

end

theorem PipeSystem.land_knows (t : τ) (writes : Bool) {moved : τ → Nat}
    (fits : r.progress.Fits total) (knows : ∀ u, (s.call u).Knows (moved u)) (u : τ) :
    ((s.land t writes r).1.call u).Knows (update moved t total u) := by
  by_cases here : u = t
  · subst here
    rw [update_self]
    unfold land
    split
    · dsimp only
      rw [update_self]
      trivial
    · rename_i same
      dsimp only
      rw [update_self]
      rw [same] at fits
      exact fits
  · have kept : (s.land t writes r).1.call u = s.call u := by
      unfold land
      split <;> exact update_of_ne here ..
    rw [kept, update_of_ne here]
    exact knows u

variable {x : PipeSystem τ × PipeHistory τ}

namespace PipeSystem

theorem Streams.extend (streams : Streams x)
    (moves : r.Moves x.1.pipe before (if writes then [] else r.bytes)
      (if writes then r.bytes else [])) :
    Streams ((x.1.land t writes r).1,
      ⟨x.2.accepted ++ (x.1.land t writes r).2.accepted,
        x.2.returned ++ (x.1.land t writes r).2.returned,
        update x.2.moved t (before + (x.1.land t writes r).2.returned.length +
          (x.1.land t writes r).2.accepted.length)⟩) := by
  obtain ⟨accepted, returned⟩ := x.1.land_bytes t writes r
  refine ⟨?_, ?_, ?_⟩
  · rw [land_pipe]
    exact moves.sound
  · rw [land_pipe, accepted, returned, streams.fifo, List.append_assoc, moves.fifo,
      List.append_assoc]
  · rw [accepted, returned]
    exact x.1.land_knows t writes moves.fits streams.knows

theorem Streams.stretch (streams : Streams x) (mine : action.caller = some t) :
    ∃ writes r before, x.1.step action = x.1.land t writes r ∧
      r.Moves x.1.pipe before (if writes then [] else r.bytes) (if writes then r.bytes else []) ∧
      (x.2.record action (x.1.step action).2).moved = update x.2.moved t
        (before + (x.1.step action).2.returned.length + (x.1.step action).2.accepted.length) := by
  cases action with
  | read _ count env =>
    cases mine
    refine ⟨false, _, 0, rfl, readHandler_moves streams.sound t count env, ?_⟩
    rw [Nat.zero_add]
    rfl
  | write _ count env =>
    cases mine
    refine ⟨true, _, 0, rfl, writeHandler_moves streams.sound t count env, ?_⟩
    rw [Nat.zero_add]
    rfl
  | resume _ env =>
    cases mine
    exact ⟨_, _, _, rfl, resumeCall_moves streams.sound t env (streams.knows t), rfl⟩
  | ref | close => cases mine

theorem Streams.observe (streams : Streams x) (action : PipeAction τ) :
    Streams (PipeSystem.observe x action) := by
  unfold PipeSystem.observe
  split
  case isFalse => exact streams
  case isTrue =>
    cases mine : action.caller with
    | some t =>
      obtain ⟨writes, r, before, step, moves, moved⟩ := streams.stretch mine
      have after := streams.extend (t := t) moves
      rw [← step, ← moved] at after
      exact after
    | none =>
      cases action with
      | ref isWriteEnd =>
        obtain ⟨same, kept⟩ := pipeRefEndpoint_content x.1.pipe isWriteEnd
        refine ⟨kept streams.sound, ?_, streams.knows⟩
        show x.2.accepted ++ [] = x.2.returned ++ [] ++
          (pipeRefEndpoint x.1.pipe isWriteEnd).content
        rw [same, List.append_nil, List.append_nil]
        exact streams.fifo
      | close isWriteEnd =>
        obtain ⟨same, kept⟩ := pipeCloseEndpoint_content x.1.pipe isWriteEnd
        refine ⟨kept streams.sound, ?_, streams.knows⟩
        show x.2.accepted ++ [] =
          x.2.returned ++ [] ++ (pipeCloseEndpoint x.1.pipe isWriteEnd).1.content
        rw [same, List.append_nil, List.append_nil]
        exact streams.fifo
      | read | write | resume => cases mine

theorem streams_of_run (actions : List (PipeAction τ)) :
    Streams (actions.foldl observe start) := by
  induction actions using List.reverseRecOn with
  | nil => exact ⟨Pipe.alloc_sound, rfl, fun _ => trivial⟩
  | append_singleton _ action ih =>
    rw [List.foldl_append]
    exact ih.observe action

end PipeSystem

namespace PipeSystem

/-- What a step accepts from task `t` are bytes of its buffer from an offset on, and so is the chunk
that the task then sleeps with. -/
structure Accepts (s : PipeSystem τ) (action : PipeAction τ) (t : τ) (source : Nat → BitVec 8)
    (offset : Nat) : Prop where
  accepted : ∀ j byte, (s.step action).2.accepted[j]? = some byte → byte = source (offset + j)
  keeps : ((s.step action).1.call t).Keeps source

theorem land_keeps (writes : Bool) (keeps : ∀ call, r.progress = .asleep call → call.Keeps source) :
    ((s.land t writes r).1.call t).Keeps source := by
  rw [land]
  split
  · dsimp only
    rw [update_self]
    trivial
  next call asleep =>
    dsimp only
    rw [update_self]
    exact keeps call asleep

theorem accepts_of_copies {offset : Nat} (same : s.step action = s.land t true r)
    (copies : r.Copies source offset) : s.Accepts action t source offset := by
  constructor
  · rw [same, (s.land_bytes t true r).1]
    exact copies.bytes
  · rw [same]
    exact s.land_keeps true copies.keeps

theorem Streams.accepts_write (streams : Streams x) (t : τ) (count : Nat) (env : PipeEnv) :
    x.1.Accepts (.write t count env) t env.byte 0 :=
  accepts_of_copies x.1 rfl (writeHandler_copies streams.sound t count env)

theorem Streams.accepts_resume (streams : Streams x) (t : τ) (env : PipeEnv) :
    x.1.Accepts (.resume t env) t ((x.1.call t).byte env) (x.2.moved t) := by
  have knows := streams.knows t
  have step : x.1.step (.resume t env) =
      x.1.land t (x.1.call t).isWrite (resumeCall x.1.pipe t env (x.1.call t)) := rfl
  cases call : x.1.call t with
  | write =>
    rw [call] at knows step
    exact accepts_of_copies x.1 step (resumeCall_copies streams.sound t env knows)
  | none =>
    rw [call] at step
    constructor
    · rw [step, (x.1.land_bytes t _ _).1]
      exact nofun
    · rw [step]
      exact x.1.land_keeps _ fun _ asleep => by
        cases asleep
        trivial
  | read =>
    rw [call] at step
    constructor
    · rw [step, (x.1.land_bytes t _ _).1]
      exact nofun
    · rw [step]
      exact x.1.land_keeps _ fun _ asleep => afterRead_keeps asleep

end PipeSystem

/-- The pipe is a stream: reads return a prefix of what was accepted, the rest is in the pipe, every
call returns the number of bytes it has moved, or an error if there are none, and what a writer's
call has accepted is its buffer from the start, each chunk as it was when it was copied. -/
theorem pipe_stream (actions : List (PipeAction τ)) :
    let x := actions.foldl PipeSystem.observe PipeSystem.start
    x.2.returned <+: x.2.accepted ∧
      x.1.pipe.count.toNat = x.2.accepted.length - x.2.returned.length ∧
      x.1.pipe.count.toNat ≤ 4096 ∧ x.1.pipe.count = x.1.pipe.wr - x.1.pipe.rd ∧
      (∀ (action : PipeAction τ) (t : τ) (value : Int), x.1.enabled action = true →
        action.caller = some t → (x.1.step action).2.result = some value →
          Reports ((x.2.record action (x.1.step action).2).moved t) value) ∧
      (∀ t count env, x.1.Accepts (.write t count env) t env.byte 0) ∧
      ∀ t env, x.1.Accepts (.resume t env) t ((x.1.call t).byte env) (x.2.moved t) := by
  have streams := PipeSystem.streams_of_run actions
  intro x
  have indices := streams.sound.indices
  refine ⟨⟨_, streams.fifo.symm⟩, ?_, streams.sound.bound, ?_, ?_, streams.accepts_write,
    streams.accepts_resume⟩
  · rw [streams.fifo, List.length_append, Pipe.content_length, Nat.add_sub_cancel_left]
  · rw [show x.1.pipe.wr = x.1.pipe.rd + x.1.pipe.count from indices, BitVec.add_comm,
      BitVec.add_sub_cancel]
  · intro action t value _ mine result
    obtain ⟨writes, r, before, step, moves, moved⟩ := streams.stretch mine
    obtain ⟨accepted, returned⟩ := x.1.land_bytes t writes r
    rw [step] at result
    have fits := moves.fits
    rw [x.1.land_result t writes r result] at fits
    rw [moved, update_self, step, accepted, returned]
    exact fits

end System

end AvatarKernel
