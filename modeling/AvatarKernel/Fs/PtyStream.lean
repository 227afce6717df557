import AvatarKernel.Fs.PipeStream
import AvatarKernel.Fs.Pty

namespace AvatarKernel

namespace PtyRing

variable {r : PtyRing}

/-- The bytes in the ring, the oldest first. -/
def content (r : PtyRing) : List (BitVec 8) := Ring.contents ptyBufSize r.buf r.rd.toNat r.count

/-- The write index stands `count` places after the read index. -/
def Aligned (r : PtyRing) : Prop := r.wr.toNat % ptyBufSize = (r.rd.toNat + r.count) % ptyBufSize

theorem Aligned.push (aligned : r.Aligned) (c : BitVec 8) (room : r.count < ptyBufSize) :
    (r.push c room).Aligned ∧ (r.push c room).content = r.content ++ [c] := by
  constructor
  · have next : (r.wr + 1).toNat % 4096 = (r.wr.toNat + 1) % 4096 := index_succ r.wr
    unfold Aligned ptyBufSize at aligned
    show (r.wr + 1).toNat % 4096 = (r.rd.toNat + (r.count + 1)) % 4096
    omega
  · rw [content, PtyRing.push, aligned]
    exact Ring.contents_update room c

theorem Aligned.read (count : Nat) : ∀ {r : PtyRing}, r.Aligned →
    (r.read count).1.Aligned ∧ r.content = (r.read count).2 ++ (r.read count).1.content := by
  induction count with
  | zero => exact fun aligned => ⟨aligned, rfl⟩
  | succ count ih =>
    intro r aligned
    rw [PtyRing.read]
    split
    case isFalse => exact ⟨aligned, rfl⟩
    case isTrue filled =>
      have next : (r.rd + 1).toNat % 4096 = (r.rd.toNat + 1) % 4096 := index_succ r.rd
      have shorter : Aligned
          ⟨r.buf, r.rd + 1, r.wr, r.count - 1, Nat.le_trans (Nat.sub_le ..) r.bounded⟩ := by
        unfold Aligned ptyBufSize at aligned ⊢
        dsimp only
        omega
      obtain ⟨after, rest⟩ := ih shorter
      have one : r.count = r.count - 1 + 1 := by omega
      have first : r.content = r.buf (r.rd.toNat % ptyBufSize) ::
          Ring.contents ptyBufSize r.buf (r.rd.toNat + 1) (r.count - 1) := by
        rw [content, one, Ring.contents_succ, Nat.add_sub_cancel]
      exact ⟨after, first.trans (congrArg _ ((Ring.contents_congr next.symm).trans rest))⟩

theorem Aligned.write (translate : BitVec 8 → BitVec 8) (src : List (BitVec 8)) :
    ∀ {r : PtyRing}, r.Aligned → (r.write translate src).1.Aligned ∧
      (r.write translate src).1.content =
        r.content ++ (src.take (r.write translate src).2).map translate := by
  induction src with
  | nil => exact fun aligned => ⟨aligned, (List.append_nil _).symm⟩
  | cons c src ih =>
    intro r aligned
    rw [PtyRing.write]
    split
    case isFalse => exact ⟨aligned, (List.append_nil _).symm⟩
    case isTrue room =>
      obtain ⟨stored, longer⟩ := aligned.push (translate c) room
      obtain ⟨after, rest⟩ := ih stored
      rw [longer, List.append_assoc] at rest
      exact ⟨after, rest⟩

/-- What `ONLCR` makes of a byte. -/
def crlf (c : BitVec 8) : List (BitVec 8) := if c = 0x0a then [0x0d, c] else [c]

/-- A line feed goes in with its carriage return or not at all. -/
theorem Aligned.writeOnlcr (src : List (BitVec 8)) :
    ∀ {r : PtyRing}, r.Aligned → (r.writeOnlcr src).1.Aligned ∧
      (r.writeOnlcr src).1.content = r.content ++ (src.take (r.writeOnlcr src).2).flatMap crlf := by
  induction src with
  | nil => exact fun aligned => ⟨aligned, (List.append_nil _).symm⟩
  | cons c src ih =>
    intro r aligned
    have full : r.Aligned ∧ r.content = r.content ++ ((c :: src).take 0).flatMap crlf :=
      ⟨aligned, (List.append_nil _).symm⟩
    rw [PtyRing.writeOnlcr]
    split
    case isFalse => exact full
    case isTrue room =>
      split
      case isTrue feed =>
        split
        case isFalse => exact full
        case isTrue both =>
          obtain ⟨stored, longer⟩ := aligned.push 0x0d room
          obtain ⟨stored, longest⟩ := stored.push c both
          obtain ⟨after, rest⟩ := ih stored
          rw [longest, longer, List.append_assoc, List.append_assoc] at rest
          refine ⟨after, rest.trans ?_⟩
          rw [List.take_succ_cons, List.flatMap_cons, crlf, if_pos feed]
          rfl
      case isFalse plain =>
        obtain ⟨stored, longer⟩ := aligned.push c room
        obtain ⟨after, rest⟩ := ih stored
        rw [longer, List.append_assoc] at rest
        refine ⟨after, rest.trans ?_⟩
        rw [List.take_succ_cons, List.flatMap_cons, crlf, if_neg plain]

/-- What was put into a ring is what has been taken out, then what it holds. -/
structure Flow (r : PtyRing) (sent got : List (BitVec 8)) : Prop where
  aligned : r.Aligned
  kept : sent = got ++ r.content

theorem Flow.read (flow : r.Flow sent got) (count : Nat) :
    (r.read count).1.Flow sent (got ++ (r.read count).2) := by
  obtain ⟨after, split⟩ := flow.aligned.read count
  exact ⟨after, by rw [flow.kept, split, List.append_assoc]⟩

theorem Flow.write {after : PtyRing} (flow : r.Flow sent got)
    (stored : after.Aligned ∧ after.content = r.content ++ more) : after.Flow (sent ++ more) got :=
  ⟨stored.1, by rw [flow.kept, stored.2, List.append_assoc]⟩

end PtyRing

/-- A read or a write on one end, from its call or wake-up to its return or sleep. A write has
stored `total` bytes of `src` in its earlier rounds. -/
inductive PtyCall
  | masterRead (count : Nat) (nonblock : Bool)
  | slaveRead (count : Nat) (nonblock : Bool)
  | masterWrite (src : List (BitVec 8)) (total : Nat) (nonblock : Bool)
  | slaveWrite (src : List (BitVec 8)) (total : Nat) (nonblock : Bool)

/-- A pair with what has gone through it: the bytes taken from the master's writes and from the
slave's, and the bytes handed to the reads of either end. -/
structure PtyTrace (τ : Type) where
  pty : Pty τ
  typed : List (BitVec 8) := []
  printed : List (BitVec 8) := []
  masterGot : List (BitVec 8) := []
  slaveGot : List (BitVec 8) := []

section Stream

variable {τ : Type}

/-- What `pty_slave_write` stores for a byte. -/
def Pty.output (p : Pty τ) (c : BitVec 8) : List (BitVec 8) :=
  if p.onlcr then PtyRing.crlf c else [c]

/-- The number of bytes of `src` that a round of `pty_slave_write` stores. -/
def Pty.slaveStores (p : Pty τ) (src : List (BitVec 8)) : Nat :=
  (if p.onlcr then p.s2m.writeOnlcr src else p.s2m.write id src).2

def PtyTrace.step (t : PtyTrace τ) : PtyCall → PtyTrace τ
  | .masterRead count nonblock =>
    let round := t.pty.masterRead count nonblock
    { t with pty := round.pty, masterGot := t.masterGot ++ round.bytes }
  | .slaveRead count nonblock =>
    let round := t.pty.slaveRead count nonblock
    { t with pty := round.pty, slaveGot := t.slaveGot ++ round.bytes }
  | .masterWrite src total nonblock =>
    let rest := src.drop total
    { t with
      pty := (t.pty.masterWriteRound src total nonblock).pty
      typed := t.typed ++ rest.take (t.pty.m2s.write t.pty.icrnl rest).2 }
  | .slaveWrite src total nonblock =>
    let rest := src.drop total
    { t with
      pty := (t.pty.slaveWriteRound src total nonblock).pty
      printed := t.printed ++ rest.take (t.pty.slaveStores rest) }

structure PtyTrace.Kept (p : Pty τ) (t : PtyTrace τ) : Prop where
  icrnl : t.pty.icrnl = p.icrnl
  onlcr : t.pty.onlcr = p.onlcr
  input : t.pty.m2s.Flow (t.typed.map p.icrnl) t.slaveGot
  output : t.pty.s2m.Flow (t.printed.flatMap p.output) t.masterGot

variable {p : Pty τ} {t : PtyTrace τ}

theorem PtyTrace.Kept.masterRead (kept : t.Kept p) (count : Nat) (nonblock : Bool) :
    (t.step (.masterRead count nonblock)).Kept p := by
  simp only [PtyTrace.step, Pty.masterRead]
  split
  · rw [List.append_nil]
    exact kept
  · exact { kept with output := kept.output.read count }

theorem PtyTrace.Kept.slaveRead (kept : t.Kept p) (count : Nat) (nonblock : Bool) :
    (t.step (.slaveRead count nonblock)).Kept p := by
  simp only [PtyTrace.step, Pty.slaveRead]
  split
  · rw [List.append_nil]
    exact kept
  · exact { kept with input := kept.input.read count }

theorem PtyTrace.Kept.masterWrite (kept : t.Kept p) (src : List (BitVec 8)) (total : Nat)
    (nonblock : Bool) : (t.step (.masterWrite src total nonblock)).Kept p := by
  have stored := kept.input.aligned.write t.pty.icrnl (src.drop total)
  refine { kept with input := ?_ }
  rw [PtyTrace.step, List.map_append, ← kept.icrnl]
  exact (kept.icrnl ▸ kept.input).write stored

theorem PtyTrace.Kept.slaveWrite (kept : t.Kept p) (src : List (BitVec 8)) (total : Nat)
    (nonblock : Bool) : (t.step (.slaveWrite src total nonblock)).Kept p := by
  refine { kept with output := ?_ }
  have output : p.output = fun c => if t.pty.onlcr then PtyRing.crlf c else [c] := by
    rw [kept.onlcr]
    rfl
  have flow := kept.output
  rw [PtyTrace.step, Pty.slaveWriteRound, Pty.slaveStores, List.flatMap_append]
  rw [output] at flow ⊢
  cases mode : t.pty.onlcr with
  | true =>
    rw [mode] at flow
    exact flow.write (flow.aligned.writeOnlcr (src.drop total))
  | false =>
    rw [mode] at flow
    have stored := flow.aligned.write id (src.drop total)
    rw [List.map_id, ← List.flatMap_singleton' (List.take ..)] at stored
    exact flow.write stored

theorem PtyTrace.Kept.step (kept : t.Kept p) (call : PtyCall) : (t.step call).Kept p := by
  cases call with
  | masterRead count nonblock => exact kept.masterRead count nonblock
  | slaveRead count nonblock => exact kept.slaveRead count nonblock
  | masterWrite src total nonblock => exact kept.masterWrite src total nonblock
  | slaveWrite src total nonblock => exact kept.slaveWrite src total nonblock

theorem PtyTrace.Kept.run (kept : t.Kept p) (calls : List PtyCall) :
    (calls.foldl PtyTrace.step t).Kept p := by
  induction calls generalizing t with
  | nil => exact kept
  | cons call _ ih => exact ih (kept.step call)

/-- Whatever the two ends do to a new pair, the slave reads what the master wrote, with line feeds
for carriage returns under `ICRNL`, and the master reads what the slave wrote, with a carriage
return before each line feed under `ONLCR`; what has not been read is in the ring. -/
theorem pty_streams_kept (iflag oflag : BitVec 32) (calls : List PtyCall) :
    let p : Pty τ := { Pty.allocMaster with cIflag := iflag, cOflag := oflag }
    let last := calls.foldl PtyTrace.step { pty := p }
    last.typed.map p.icrnl = last.slaveGot ++ last.pty.m2s.content ∧
      last.printed.flatMap p.output = last.masterGot ++ last.pty.s2m.content := by
  intro p last
  have start : PtyTrace.Kept p { pty := p } := ⟨rfl, rfl, ⟨rfl, rfl⟩, ⟨rfl, rfl⟩⟩
  have kept := start.run calls
  exact ⟨kept.input.kept, kept.output.kept⟩

end Stream

end AvatarKernel
