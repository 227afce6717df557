import AvatarKernel.Fs.Pipe

namespace AvatarKernel

def ptyBufSize : Nat := 4096

/-- `pty_ring_t`; the count never exceeds the buffer. -/
structure PtyRing where
  buf : Nat → BitVec 8
  rd : BitVec 32
  wr : BitVec 32
  count : Nat
  bounded : count ≤ ptyBufSize

namespace PtyRing

def empty : PtyRing := ⟨fun _ => 0, 0, 0, 0, Nat.zero_le _⟩

def push (r : PtyRing) (c : BitVec 8) (room : r.count < ptyBufSize) : PtyRing :=
  ⟨Function.update r.buf (r.wr.toNat % ptyBufSize) c, r.rd, r.wr + 1, r.count + 1, room⟩

/-- `ring_read` -/
def read : (count : Nat) → PtyRing → PtyRing × List (BitVec 8)
  | 0, r => (r, [])
  | count + 1, r =>
    if 0 < r.count then
      let rest := read count
        ⟨r.buf, r.rd + 1, r.wr, r.count - 1, Nat.le_trans (Nat.sub_le ..) r.bounded⟩
      (rest.1, r.buf (r.rd.toNat % ptyBufSize) :: rest.2)
    else (r, [])

/-- The loop of `pty_master_write`, and `ring_write` without the translation: the bytes that fit. -/
def write (translate : BitVec 8 → BitVec 8) : (src : List (BitVec 8)) → PtyRing → PtyRing × Nat
  | [], r => (r, 0)
  | c :: src, r =>
    if room : r.count < ptyBufSize then
      let rest := write translate src (r.push (translate c) room)
      (rest.1, rest.2 + 1)
    else (r, 0)

/-- The loop of `pty_slave_write` with `OPOST` and `ONLCR`: a line feed is stored as carriage return
and line feed, and left for later if there is no room for both. -/
def writeOnlcr : (src : List (BitVec 8)) → PtyRing → PtyRing × Nat
  | [], r => (r, 0)
  | c :: src, r =>
    if room : r.count < ptyBufSize then
      if c = 0x0a then
        if both : r.count + 2 ≤ ptyBufSize then
          let rest := writeOnlcr src ((r.push 0x0d room).push c both)
          (rest.1, rest.2 + 1)
        else (r, 0)
      else
        let rest := writeOnlcr src (r.push c room)
        (rest.1, rest.2 + 1)
    else (r, 0)

end PtyRing

/-- The fields of `pty_pair_t` that reading, writing, closing and polling use. -/
structure Pty (τ : Type) where
  inUse : Bool
  masterOpen : Bool
  slaveOpen : Bool
  masterRefcnt : Int
  slaveRefcnt : Int
  m2s : PtyRing
  s2m : PtyRing
  blockedMaster : Option τ
  blockedSlave : Option τ
  cIflag : BitVec 32
  cOflag : BitVec 32

/-- A round of a read or write on a pty, up to its return or to the point where it goes to sleep
(`result` is `none`): the bytes it read and the task it passed to `task_unblock`. -/
structure PtyRound (τ : Type) where
  pty : Pty τ
  bytes : List (BitVec 8)
  woken : Option τ
  result : Option Int

namespace Pty

variable {τ : Type}

/-- What `pty_alloc_master` makes of an unused entry. -/
def allocMaster : Pty τ where
  inUse := true
  masterOpen := true
  slaveOpen := false
  masterRefcnt := 1
  slaveRefcnt := 0
  m2s := .empty
  s2m := .empty
  blockedMaster := none
  blockedSlave := none
  cIflag := 0x0500
  cOflag := 0x0005

def openSlave (p : Pty τ) : Pty τ := { p with slaveOpen := true, slaveRefcnt := p.slaveRefcnt + 1 }

/-- `pty_master_read` up to its first return or sleep. -/
def masterRead (p : Pty τ) (count : Nat) (nonblock : Bool) : PtyRound τ :=
  if p.s2m.count = 0 then
    ⟨p, [], none, if !p.slaveOpen then some 0 else if nonblock then some (-11) else none⟩
  else
    let r := p.s2m.read count
    ⟨{ p with s2m := r.1, blockedSlave := none }, r.2, p.blockedSlave, some (intOf r.2.length)⟩

/-- `pty_slave_read` up to its first return or sleep. -/
def slaveRead (p : Pty τ) (count : Nat) (nonblock : Bool) : PtyRound τ :=
  if p.m2s.count = 0 then
    ⟨p, [], none, if !p.masterOpen then some 0 else if nonblock then some (-11) else none⟩
  else
    let r := p.m2s.read count
    ⟨{ p with m2s := r.1, blockedMaster := none }, r.2, p.blockedMaster, some (intOf r.2.length)⟩

def icrnl (p : Pty τ) (c : BitVec 8) : BitVec 8 :=
  if p.cIflag &&& 0x0100 ≠ 0 ∧ c = 0x0d then 0x0a else c

def writeResult (peerOpen nonblock : Bool) (written count : Nat) : Option Int :=
  if written < count then
    if !peerOpen then some (if written > 0 then intOf written else -32)
    else if nonblock then some (if written > 0 then intOf written else -11)
    else none
  else some (intOf count)

/-- A round of the outer loop of `pty_master_write`, when `total` bytes have been written. -/
def masterWriteRound (p : Pty τ) (src : List (BitVec 8)) (total : Nat) (nonblock : Bool) :
    PtyRound τ :=
  let r := p.m2s.write p.icrnl (src.drop total)
  ⟨{ p with m2s := r.1, blockedSlave := none }, [], p.blockedSlave,
    writeResult p.slaveOpen nonblock (total + r.2) src.length⟩

/-- `pty_master_write` up to its first return or sleep. -/
def masterWrite (p : Pty τ) (src : List (BitVec 8)) (nonblock : Bool) : PtyRound τ :=
  if src.length = 0 then ⟨p, [], none, some 0⟩ else p.masterWriteRound src 0 nonblock

def onlcr (p : Pty τ) : Bool := p.cOflag &&& 0x0001 ≠ 0 && p.cOflag &&& 0x0004 ≠ 0

/-- A round of the outer loop of `pty_slave_write`, when `total` bytes have been written. -/
def slaveWriteRound (p : Pty τ) (src : List (BitVec 8)) (total : Nat) (nonblock : Bool) :
    PtyRound τ :=
  let r := if p.onlcr then p.s2m.writeOnlcr (src.drop total) else p.s2m.write id (src.drop total)
  ⟨{ p with s2m := r.1, blockedMaster := none }, [], p.blockedMaster,
    writeResult p.masterOpen nonblock (total + r.2) src.length⟩

/-- `pty_slave_write` up to its first return or sleep. -/
def slaveWrite (p : Pty τ) (src : List (BitVec 8)) (nonblock : Bool) : PtyRound τ :=
  if src.length = 0 then ⟨p, [], none, some 0⟩ else p.slaveWriteRound src 0 nonblock

def pollReadableMaster (p : Pty τ) : Bool := p.s2m.count > 0 || !p.slaveOpen

def pollReadableSlave (p : Pty τ) : Bool := p.m2s.count > 0 || !p.masterOpen

/-- `pty_poll_writable` does not look at the pair. -/
def pollWritable (_ : Pty τ) : Bool := true

end Pty

end AvatarKernel
