import AvatarKernel.Fs.PipeStream
import AvatarKernel.Fs.Pty
import AvatarKernel.Lib.Transition
import AvatarKernel.Net.Ksock

/- What `vfs_poll` reports for pipes, ptys and sockets, compared with what a non-blocking read or
write returns. -/

namespace AvatarKernel

open Transition

def ksockErrors : List Int := [0, -5, -103, -104, -111]

/-- What holds of a socket that a descriptor refers to. -/
structure Ksock.Valid (sk : Ksock) : Prop where
  used : sk.state ≠ .free
  errors : sk.lastErr ∈ ksockErrors
  udp : sk.proto = .udp → sk.recvEof = false ∧ sk.lastErr = 0 ∧ sk.state ≠ .listening

/-- What happens to a socket between `ksock_create` and the last `ksock_close`: callbacks of lwIP,
an acknowledgement that changes the free send buffer, and calls. -/
inductive KsockEvent where
  | tcpRecv (p : Option Nat) (ok : Bool)
  | tcpErr (err : TcpError)
  | tcpConnected (ok : Bool)
  | tcpAccept (newSi : Nat)
  | tcpSent (sndbuf : BitVec 16)
  | udpRecv (p : Option Nat) (addr : BitVec 32) (port : BitVec 16)
  | bind (rc : Option Int)
  | listen (backlog : Int) (lpcb : Except Int (BitVec 16))
  | connect (started : Bool)
  | accept (live : Nat → Bool)
  | send (len : Nat) (nonblock : Bool) (wrote : Nat → Bool) (sentUdp : Bool)
  | recv (len : Nat) (nonblock : Bool)

/-- The callbacks of a protocol are registered on sockets of that protocol only. -/
def ksockEvent (x : Ksock × PbufHeap) : KsockEvent → Ksock × PbufHeap
  | .tcpRecv p ok =>
    if x.1.proto = .tcp then
      let r := ksockTcpRecvCb x.1 x.2 p ok
      (r.1, r.2.1)
    else x
  | .tcpErr err => if x.1.proto = .tcp then (ksockTcpErrCb x.1 err, x.2) else x
  | .tcpConnected ok => if x.1.proto = .tcp then (ksockTcpConnectedCb x.1 ok, x.2) else x
  | .tcpAccept newSi => if x.1.proto = .tcp then ((ksockTcpAcceptCb x.1 newSi).1, x.2) else x
  | .tcpSent sndbuf => ({ x.1 with tcpPcb := x.1.tcpPcb.map fun _ => sndbuf }, x.2)
  | .udpRecv p addr port => if x.1.proto = .udp then ksockUdpRecvCb x.1 x.2 p addr port else x
  | .bind rc => ((ksockBind x.1 rc).1, x.2)
  | .listen backlog lpcb => ((ksockListen x.1 backlog lpcb).1, x.2)
  | .connect started => ((ksockConnect x.1 started).1, x.2)
  | .accept live => ((ksockAccept x.1 true live).1, x.2)
  | .send len nonblock wrote sentUdp => ((ksockSend x.1 len nonblock wrote sentUdp).1, x.2)
  | .recv len nonblock =>
    let r := ksockRecv x.1 x.2 len nonblock
    (r.sk, r.heap)

namespace Ksock.Valid

variable {sk : Ksock}

theorem frame (valid : sk.Valid) {after : Ksock} (proto : after.proto = sk.proto)
    (state : after.state = sk.state) (err : after.lastErr = sk.lastErr)
    (eof : after.recvEof = sk.recvEof) : after.Valid := by
  constructor
  · rw [state]
    exact valid.used
  · rw [err]
    exact valid.errors
  · rw [proto, eof, err, state]
    exact valid.udp

theorem ofTcp {after : Ksock} (tcp : after.proto = .tcp) (used : after.state ≠ .free)
    (errors : after.lastErr ∈ ksockErrors) : after.Valid := by
  refine ⟨used, errors, fun udp => ?_⟩
  rw [tcp] at udp
  cases udp

theorem sendLoop (len : Nat) (nonblock : Bool) (wrote : Nat → Bool) (rounds : Nat) :
    ∀ (sk : Ksock) (sent : Nat), sk.Valid →
      (ksockSendLoop len nonblock wrote rounds sk sent).1.Valid := by
  induction rounds with
  | zero => exact fun _ _ valid => valid
  | succ _ ih =>
    intro sk sent valid
    unfold ksockSendLoop
    split
    · split
      · exact valid
      · split
        · exact valid
        · split
          · exact valid
          · split
            · exact ih _ _ (valid.frame rfl rfl rfl rfl)
            · exact valid
    · exact valid

section

variable (valid : sk.Valid)
include valid

theorem send (len : Nat) (nonblock : Bool) (wrote : Nat → Bool) (sentUdp : Bool) :
    (ksockSend sk len nonblock wrote sentUdp).1.Valid := by
  unfold ksockSend
  split
  · exact valid
  · split
    · split
      · exact valid
      · exact sendLoop len nonblock wrote len sk 0 valid
    · exact valid

theorem recv (h : PbufHeap) (len : Nat) (nonblock : Bool) :
    (ksockRecv sk h len nonblock).sk.Valid := by
  unfold ksockRecv
  split
  · exact valid
  · split
    · unfold ksockRecvTcp
      split
      · exact valid
      · dsimp only
        generalize (if len < _ then _ else _) = toCopy
        split
        · exact valid.frame rfl rfl rfl rfl
        · exact valid.frame rfl rfl rfl rfl
    · unfold ksockRecvfromUdp
      split
      · exact valid
      · exact valid.frame rfl rfl rfl rfl

theorem udpRecv (h : PbufHeap) (p : Option Nat) (addr : BitVec 32) (port : BitVec 16) :
    (ksockUdpRecvCb sk h p addr port).1.Valid := by
  unfold ksockUdpRecvCb
  split
  · exact valid
  · split
    · exact valid
    · exact valid.frame rfl rfl rfl rfl

theorem tcpRecv (tcp : sk.proto = .tcp) (h : PbufHeap) (p : Option Nat) (ok : Bool) :
    (ksockTcpRecvCb sk h p ok).1.Valid := by
  unfold ksockTcpRecvCb
  split
  · exact ofTcp tcp valid.used (show (-5 : Int) ∈ ksockErrors by decide)
  · split
    · exact ofTcp tcp valid.used valid.errors
    · split
      · exact valid
      · exact valid.frame rfl rfl rfl rfl

theorem tcpErr (tcp : sk.proto = .tcp) (err : TcpError) :
    (ksockTcpErrCb sk err).Valid := by
  refine ofTcp tcp valid.used ?_
  cases err with
  | rst => exact show (-104 : Int) ∈ ksockErrors by decide
  | abrt => exact show (-103 : Int) ∈ ksockErrors by decide
  | other => exact show (-5 : Int) ∈ ksockErrors by decide

theorem tcpConnected (tcp : sk.proto = .tcp) (ok : Bool) :
    (ksockTcpConnectedCb sk ok).Valid := by
  unfold ksockTcpConnectedCb
  split
  · exact ofTcp tcp KsockState.noConfusion valid.errors
  · exact ofTcp tcp valid.used (show (-111 : Int) ∈ ksockErrors by decide)

theorem listen (backlog : Int) (lpcb : Except Int (BitVec 16)) :
    (ksockListen sk backlog lpcb).1.Valid := by
  unfold ksockListen
  split
  · exact valid
  · next tcp =>
    split
    · exact valid
    · split
      · exact valid
      · split
        · exact valid
        · exact ofTcp (not_not.mp tcp) KsockState.noConfusion valid.errors

theorem connect (started : Bool) : (ksockConnect sk started).1.Valid := by
  unfold ksockConnect
  split
  · next tcp => exact ofTcp tcp KsockState.noConfusion (show (0 : Int) ∈ ksockErrors by decide)
  · exact ⟨KsockState.noConfusion, valid.errors,
      fun udp => ⟨(valid.udp udp).1, (valid.udp udp).2.1, KsockState.noConfusion⟩⟩

end

theorem event (valid : x.1.Valid) (event : KsockEvent) : (ksockEvent x event).1.Valid := by
  cases event with
  | tcpRecv p ok =>
    rw [ksockEvent]
    split
    · next tcp => exact valid.tcpRecv tcp x.2 p ok
    · exact valid
  | tcpErr err =>
    rw [ksockEvent]
    split
    · next tcp => exact valid.tcpErr tcp err
    · exact valid
  | tcpConnected ok =>
    rw [ksockEvent]
    split
    · next tcp => exact valid.tcpConnected tcp ok
    · exact valid
  | tcpAccept =>
    rw [ksockEvent]
    split
    · unfold ksockTcpAcceptCb
      split
      · exact valid
      · exact valid.frame rfl rfl rfl rfl
    · exact valid
  | tcpSent => exact valid.frame rfl rfl rfl rfl
  | udpRecv p addr port =>
    rw [ksockEvent]
    split
    · exact valid.udpRecv x.2 p addr port
    · exact valid
  | bind rc =>
    cases rc with
    | some => exact valid
    | none =>
      exact ⟨KsockState.noConfusion, valid.errors,
        fun udp => ⟨(valid.udp udp).1, (valid.udp udp).2.1, KsockState.noConfusion⟩⟩
  | listen backlog lpcb => exact valid.listen backlog lpcb
  | connect started => exact valid.connect started
  | accept live =>
    show (ksockAccept x.1 true live).1.Valid
    unfold ksockAccept
    split
    · exact valid
    · split
      · exact valid
      · exact valid.frame rfl rfl rfl rfl
  | send len nonblock wrote sentUdp => exact valid.send len nonblock wrote sentUdp
  | recv len nonblock => exact valid.recv x.2 len nonblock

theorem create (proto : KsockProto) (tcpPcb : Option (BitVec 16)) :
    (Ksock.create proto tcpPcb).Valid :=
  ⟨KsockState.noConfusion, show (0 : Int) ∈ ksockErrors by decide,
    fun _ => ⟨rfl, rfl, KsockState.noConfusion⟩⟩

end Ksock.Valid

/-- What happens to an entry of `g_ksocks`: an event, and the references that `dup` and `fork` take
and descriptors give back. -/
inductive KsockCall where
  | event (event : KsockEvent)
  | ref
  | close

/-- Calls on a free entry fail in `ksock_get`, and lwIP has no callback for it. -/
def ksockCall (e : KsockEntry) : KsockCall → KsockEntry
  | .event event =>
    if e.sk.state = .free then e
    else
      let x := ksockEvent (e.sk, e.heap) event
      { e with sk := x.1, heap := x.2 }
  | .ref => ksockRef e
  | .close => (ksockClose e).1

/-- The references that are left of `held` ones. After the last close there are none to take. -/
def referencesLeft : (held : Nat) → List KsockCall → Nat
  | 0, _ => 0
  | held, [] => held
  | held + 1, .event _ :: calls => referencesLeft (held + 1) calls
  | held + 1, .ref :: calls => referencesLeft (held + 2) calls
  | held + 1, .close :: calls => referencesLeft held calls

theorem referencesLeft_zero (calls : List KsockCall) : referencesLeft 0 calls = 0 := by
  cases calls <;> rfl

/-- An entry with so many references: in use, or blank. -/
structure KsockEntry.Held (e : KsockEntry) (held : Nat) : Prop where
  count : e.refcount = held
  inUse : 0 < held → e.sk.Valid
  gone : held = 0 → e.sk = .blank

namespace KsockEntry.Held

variable {e : KsockEntry} {held : Nat}

/-- Nothing happens to a blank entry. -/
theorem blank (entry : e.Held 0) (call : KsockCall) : ksockCall e call = e := by
  have free : e.sk.state = .free := by rw [entry.gone rfl]; rfl
  cases call with
  | event => exact if_pos free
  | ref => exact if_pos free
  | close => exact congrArg Prod.fst (if_pos free)

theorem event (entry : e.Held (held + 1)) (event : KsockEvent) :
    (ksockCall e (.event event)).Held (held + 1) := by
  have valid := entry.inUse (Nat.succ_pos held)
  rw [ksockCall, if_neg valid.used]
  exact ⟨entry.count, fun _ => valid.event event, fun none => by contradiction⟩

theorem ref (entry : e.Held (held + 1)) : (ksockCall e .ref).Held (held + 2) := by
  have valid := entry.inUse (Nat.succ_pos held)
  rw [ksockCall, ksockRef, if_neg valid.used]
  refine ⟨?_, fun _ => valid, fun none => by contradiction⟩
  show e.refcount + 1 = _
  rw [entry.count]
  rfl

theorem close (entry : e.Held (held + 1)) : (ksockCall e .close).Held held := by
  have valid := entry.inUse (Nat.succ_pos held)
  have count := entry.count
  rw [ksockCall, ksockClose, if_neg valid.used]
  cases held with
  | zero =>
    rw [if_neg (by omega)]
    exact ⟨rfl, fun more => absurd more (Nat.lt_irrefl 0), fun _ => rfl⟩
  | succ held =>
    rw [if_pos (by omega)]
    refine ⟨?_, fun _ => valid, fun none => by contradiction⟩
    show e.refcount - 1 = _
    omega

theorem calls (calls : List KsockCall) : ∀ {e : KsockEntry} {held : Nat}, e.Held held →
    (calls.foldl ksockCall e).Held (referencesLeft held calls) := by
  induction calls with
  | nil =>
    intro e held entry
    cases held <;> exact entry
  | cons call calls ih =>
    intro e held entry
    rw [List.foldl_cons]
    cases held with
    | zero =>
      have rest := ih entry
      rw [referencesLeft_zero] at rest
      rw [entry.blank call, referencesLeft_zero]
      exact rest
    | succ held =>
      cases call with
      | event event => exact ih (entry.event event)
      | ref => exact ih entry.ref
      | close => exact ih entry.close

end KsockEntry.Held

/-- Whatever lwIP and its callers do to a new socket: until its last close it is in use, with a
count of its references, and keeps to its protocol (its error is one that the code stores, and a UDP
socket has none, sees no end of the stream and does not listen); from then on its entry is blank. -/
theorem ksock_keeps_to_protocol (proto : KsockProto) (tcpPcb : Option (BitVec 16)) (heap : PbufHeap)
    (calls : List KsockCall) :
    (calls.foldl ksockCall ⟨Ksock.create proto tcpPcb, heap, 1⟩).Held (referencesLeft 1 calls) :=
  KsockEntry.Held.calls calls
    ⟨rfl, fun _ => .create proto tcpPcb, fun none => by contradiction⟩

/-- An open file that can be polled, in a state its object can be in: the reference of a pipe end is
counted while the end is open. -/
inductive IoFile (τ : Type) where
  | pipeRead (p : Pipe τ) (sound : p.Sound) (opened : 0 < p.rdRefcount)
  | pipeWrite (p : Pipe τ) (sound : p.Sound) (opened : 0 < p.wrRefcount)
  | ptyMaster (p : Pty τ)
  | ptySlave (p : Pty τ)
  | socket (sk : Ksock) (h : PbufHeap) (valid : sk.Valid)

/-- The answers a read or write gets from outside: of `tcp_write`, of `udp_sendto`, and which
sockets of the accept queue are still in use. -/
structure IoAnswers where
  wrote : Nat → Bool
  sentUdp : Bool
  live : Nat → Bool

namespace IoFile

variable {τ : Type}

def pollIn : IoFile τ → Bool
  | .pipeRead p _ _ => pipePollReadableEndpoint p
  | .pipeWrite _ _ _ => false
  | .ptyMaster p => p.pollReadableMaster
  | .ptySlave p => p.pollReadableSlave
  | .socket sk _ _ => ksockPollReadable sk

def pollOut : IoFile τ → Bool
  | .pipeRead _ _ _ => false
  | .pipeWrite p _ _ => pipePollWritableEndpoint p
  | .ptyMaster p => p.pollWritable
  | .ptySlave p => p.pollWritable
  | .socket sk _ _ => ksockPollWritable sk

/-- A non-blocking `vfs_read`, or `ksock_accept` on a listening socket. -/
def read (f : IoFile τ) (len : Nat) (interrupts : Bool) (answers : IoAnswers) : Option Int :=
  match f with
  | .pipeRead p _ _ => (pipeReadEndpoint p len true interrupts).result
  | .pipeWrite _ _ _ => some (-9)
  | .ptyMaster p => (p.masterRead len true).result
  | .ptySlave p => (p.slaveRead len true).result
  | .socket sk h _ =>
    if sk.state = .listening then (ksockAccept sk true answers.live).2
    else (ksockRecv sk h len true).result

/-- A non-blocking `vfs_write` of one byte. -/
def write (f : IoFile τ) (byte : BitVec 8) (answers : IoAnswers) : Option Int :=
  match f with
  | .pipeRead _ _ _ => some (-9)
  | .pipeWrite p _ _ => (pipeWriteEndpoint p [byte] true).result
  | .ptyMaster p => (p.masterWrite [byte] true).result
  | .ptySlave p => (p.slaveWrite [byte] true).result
  | .socket sk _ _ => (ksockSend sk 1 true answers.wrote answers.sentUdp).2

def reads : IoFile τ → Bool
  | .pipeWrite _ _ _ => false
  | _ => true

def writes : IoFile τ → Bool
  | .pipeRead _ _ _ => false
  | _ => true

end IoFile

/-- An event is reported exactly if the call returns something else than `-EAGAIN`. -/
def Foretells (reported : Bool) (result : Option Int) : Prop :=
  if reported then ∃ rc, result = some rc ∧ rc ≠ -11 else result = some (-11)

/-- Readiness agrees with what reads of `len` bytes and writes of this byte do. -/
structure IoFile.Agrees {τ : Type} (f : IoFile τ) (len : Nat) (byte : BitVec 8) (interrupts : Bool)
    (answers : IoAnswers) : Prop where
  readable : f.reads = true → Foretells f.pollIn (f.read len interrupts answers)
  writable : f.writes = true → Foretells f.pollOut (f.write byte answers)

variable {reported : Bool} {result : Option Int}

theorem Foretells.yes (rc : Int) (is : reported = true) (returned : result = some rc)
    (other : rc ≠ -11) : Foretells reported result := by
  rw [Foretells, is, if_pos rfl]
  exact ⟨rc, returned, other⟩

theorem Foretells.no (is : reported = false) (returned : result = some (-11)) :
    Foretells reported result := by
  rw [Foretells, is, if_neg Bool.false_ne_true]
  exact returned

theorem Foretells.not_eager (is : reported = true) (returned : result = some (-11)) :
    ¬ Foretells reported result := by
  rw [Foretells, is, if_pos rfl]
  rintro ⟨rc, same, other⟩
  rw [returned] at same
  exact other (Option.some.inj same).symm

theorem Foretells.not_silent (is : reported = false) (returned : result = some rc)
    (other : rc ≠ -11) : ¬ Foretells reported result := by
  rw [Foretells, is, if_neg Bool.false_ne_true, returned]
  exact fun same => other (Option.some.inj same)

section Pipes

variable {τ : Type} {p : Pipe τ}

theorem Pipe.take_length_pos (some : p.count ≠ 0) (len : Nat) :
    0 < (p.take (len + 1)).2.length := by
  rw [Pipe.take, if_pos some]
  exact Nat.succ_pos _

theorem Pipe.take_length_le (sound : p.Sound) (len : Nat) :
    (p.take len).2.length ≤ pipeBufSize := by
  have content := congrArg List.length (sound.take len).2
  rw [Pipe.content_length, List.length_append] at content
  have bound := sound.bound
  omega

theorem pipeRead_foretold (sound : p.Sound) (opened : 0 < p.rdRefcount) (len : Nat)
    (interrupts : Bool) :
    Foretells (pipePollReadableEndpoint p)
      (pipeReadEndpoint p (len + 1) true interrupts).result := by
  have used : ¬ (p.rdRefcount = 0 ∧ p.wrRefcount = 0) := by omega
  have valid : ¬ ((p.rdRefcount = 0 ∧ p.wrRefcount = 0) ∨ p.rdRefcount ≤ 0) := by omega
  rw [pipeReadEndpoint, if_neg valid, pipePollReadableEndpoint, if_neg used]
  by_cases empty : p.count = 0
  · have nothing : p.take (len + 1) = (p, []) := by rw [Pipe.take, if_neg (not_not.mpr empty)]
    simp only [pipeReadRound, nothing, List.length_nil, gt_iff_lt, Nat.lt_irrefl, if_false]
    by_cases hangUp : p.wrRefcount ≤ 0
    · exact .yes (0) (by simp [hangUp]) (by simp [hangUp]) (by decide)
    · exact .no (by simp [hangUp, empty]) (by simp [hangUp])
  · have positive := Pipe.take_length_pos empty len
    have bound := Pipe.take_length_le sound (len + 1)
    simp only [pipeReadRound, gt_iff_lt, positive, if_true]
    refine .yes _ (decide_eq_true (.inl empty)) rfl ?_
    rw [intOf_eq bound]
    omega

theorem pipeWrite_foretold (opened : 0 < p.wrRefcount) (byte : BitVec 8) :
    Foretells (pipePollWritableEndpoint p) (pipeWriteEndpoint p [byte] true).result := by
  have used : ¬ (p.rdRefcount = 0 ∧ p.wrRefcount = 0) := by omega
  have valid : ¬ ((p.rdRefcount = 0 ∧ p.wrRefcount = 0) ∨ p.wrRefcount ≤ 0) := by omega
  rw [pipeWriteEndpoint, if_neg valid, pipePollWritableEndpoint, if_neg used]
  by_cases broken : p.rdRefcount ≤ 0
  · rw [if_pos broken]
    exact .yes _ (by simp [broken]) rfl (by decide)
  · rw [if_neg broken, if_neg (by simp : ¬ [byte].length = 0)]
    by_cases room : p.count.toNat < pipeBufSize
    · refine .yes (1) (by simp [room]) ?_ (by decide)
      simp [pipeWriteRound, Pipe.put, room]
      rfl
    · refine .no (by simp [room, broken]) ?_
      simp [pipeWriteRound, Pipe.put, room, broken]

end Pipes

section Ptys

variable {τ : Type} {p : Pty τ}

theorem PtyRing.read_length (count : Nat) :
    ∀ r : PtyRing, (r.read count).2.length = min r.count count := by
  induction count with
  | zero =>
    intro r
    rw [Nat.min_zero]
    rfl
  | succ count ih =>
    intro r
    unfold PtyRing.read
    split
    · next filled =>
      rw [List.length_cons, ih]
      show min (r.count - 1) count + 1 = min r.count (count + 1)
      omega
    · next empty =>
      show 0 = min r.count (count + 1)
      omega

theorem PtyRing.read_result (r : PtyRing) (len : Nat) : intOf (r.read len).2.length ≠ -11 := by
  have small : (r.read len).2.length ≤ pipeBufSize := by
    rw [r.read_length]
    exact Nat.le_trans (Nat.min_le_left ..) r.bounded
  rw [intOf_eq small]
  omega

theorem ptyMasterRead_foretold (p : Pty τ) (len : Nat) :
    Foretells p.pollReadableMaster (p.masterRead (len + 1) true).result := by
  unfold Pty.pollReadableMaster Pty.masterRead
  by_cases empty : p.s2m.count = 0
  · rw [if_pos empty]
    cases opened : p.slaveOpen with
    | false => exact .yes _ (by simp) rfl (by decide)
    | true => exact .no (by simp [empty]) rfl
  · rw [if_neg empty]
    exact .yes _ (by simp [Nat.pos_of_ne_zero empty]) rfl (p.s2m.read_result _)

theorem ptySlaveRead_foretold (p : Pty τ) (len : Nat) :
    Foretells p.pollReadableSlave (p.slaveRead (len + 1) true).result := by
  unfold Pty.pollReadableSlave Pty.slaveRead
  by_cases empty : p.m2s.count = 0
  · rw [if_pos empty]
    cases opened : p.masterOpen with
    | false => exact .yes _ (by simp) rfl (by decide)
    | true => exact .no (by simp [empty]) rfl
  · rw [if_neg empty]
    exact .yes _ (by simp [Nat.pos_of_ne_zero empty]) rfl (p.m2s.read_result _)

theorem Pty.writeResult_one (peerOpen : Bool) (written : Nat) :
    Pty.writeResult peerOpen true written 1
      = some (if written = 0 then if peerOpen then -11 else -32 else 1) := by
  unfold Pty.writeResult
  cases written with
  | zero => cases peerOpen <;> rfl
  | succ => rw [if_neg (by omega), if_neg (by omega)]; rfl

theorem ptyWrite_foretold (p : Pty τ) (peerOpen : Bool) (written : Nat) :
    Foretells p.pollWritable (Pty.writeResult peerOpen true written 1)
      ↔ written ≠ 0 ∨ peerOpen = false := by
  rw [Pty.writeResult_one]
  by_cases nothing : written = 0
  · rw [if_pos nothing]
    cases peerOpen with
    | true =>
      exact ⟨fun foretold => absurd foretold (Foretells.not_eager rfl rfl), by simp [nothing]⟩
    | false => exact ⟨fun _ => .inr rfl, fun _ => .yes _ rfl rfl (by decide)⟩
  · rw [if_neg nothing]
    exact ⟨fun _ => .inl nothing, fun _ => .yes _ rfl rfl (by decide)⟩

theorem PtyRing.write_one (r : PtyRing) (translate : BitVec 8 → BitVec 8) (c : BitVec 8) :
    (r.write translate [c]).2 ≠ 0 ↔ r.count < ptyBufSize := by
  unfold PtyRing.write
  split
  · next room => exact iff_of_true (Nat.succ_ne_zero _) room
  · next full => exact iff_of_false (not_not.mpr rfl) full

theorem PtyRing.writeOnlcr_one (r : PtyRing) (c : BitVec 8) :
    (r.writeOnlcr [c]).2 ≠ 0 ↔ r.count < ptyBufSize ∧ (c = 0x0a → r.count + 2 ≤ ptyBufSize) := by
  unfold PtyRing.writeOnlcr
  split
  · next room =>
    split
    · next feed =>
      split
      · next both => exact iff_of_true (Nat.succ_ne_zero _) ⟨room, fun _ => both⟩
      · next tight => exact iff_of_false (not_not.mpr rfl) fun fits => tight (fits.2 feed)
    · next other => exact iff_of_true (Nat.succ_ne_zero _) ⟨room, fun feed => absurd feed other⟩
  · next full => exact iff_of_false (not_not.mpr rfl) fun fits => full fits.1

theorem ptyMasterWrite_foretold (p : Pty τ) (byte : BitVec 8) :
    Foretells p.pollWritable (p.masterWrite [byte] true).result
      ↔ p.m2s.count < ptyBufSize ∨ p.slaveOpen = false := by
  show Foretells p.pollWritable
    (Pty.writeResult p.slaveOpen true (0 + (p.m2s.write p.icrnl [byte]).2) 1) ↔ _
  rw [ptyWrite_foretold, Nat.zero_add, PtyRing.write_one]

/-- There is room for the byte as `pty_slave_write` stores it. -/
def Pty.SlaveRoom (p : Pty τ) (byte : BitVec 8) : Prop :=
  p.s2m.count < ptyBufSize ∧ (p.onlcr = true ∧ byte = 0x0a → p.s2m.count + 2 ≤ ptyBufSize)

theorem ptySlaveWrite_foretold (p : Pty τ) (byte : BitVec 8) :
    Foretells p.pollWritable (p.slaveWrite [byte] true).result
      ↔ p.SlaveRoom byte ∨ p.masterOpen = false := by
  show Foretells p.pollWritable
    (Pty.writeResult p.masterOpen true
      (0 + (if p.onlcr then p.s2m.writeOnlcr [byte] else p.s2m.write id [byte]).2) 1) ↔ _
  rw [ptyWrite_foretold, Nat.zero_add, Pty.SlaveRoom]
  cases translated : p.onlcr with
  | true => rw [if_pos rfl, PtyRing.writeOnlcr_one]; simp
  | false => rw [if_neg Bool.false_ne_true, PtyRing.write_one]; simp

end Ptys

section Sockets

variable {sk : Ksock}

theorem Ksock.Valid.lastErr_ne (valid : sk.Valid) : sk.lastErr ≠ -11 := by
  intro same
  have listed := valid.errors
  rw [same] at listed
  exact absurd listed (by decide)

/-- Data, the end of the stream, a pending connection or no error. -/
def Ksock.ReadSettled (sk : Ksock) : Prop :=
  sk.state = .listening ∨ sk.recvHead.isSome ∨ sk.recvEof ∨ sk.lastErr = 0

theorem ksockAccept_foretold (listening : sk.state = .listening) (live : Nat → Bool) :
    Foretells (ksockPollReadable sk) (ksockAccept sk true live).2 := by
  have used : sk.state ≠ .free := by rw [listening]; exact KsockState.noConfusion
  rw [ksockPollReadable, if_neg used, if_pos listening, ksockAccept, if_neg (not_not.mpr listening)]
  by_cases nothing : sk.acceptCount = 0
  · rw [if_pos nothing]
    exact .no (by simp [nothing]) rfl
  · rw [if_neg nothing]
    refine .yes _ (by simp [Nat.pos_of_ne_zero nothing]) rfl ?_
    split <;> omega

def Ksock.emptyResult (sk : Ksock) : Int :=
  if sk.recvEof then 0 else if sk.lastErr ≠ 0 then sk.lastErr else -11

theorem ksockRecv_empty (valid : sk.Valid) (h : PbufHeap) (len : Nat)
    (nothing : sk.recvHead = none) :
    (ksockRecv sk h len true).result = some sk.emptyResult := by
  unfold ksockRecv Ksock.emptyResult
  rw [if_neg valid.used]
  cases proto : sk.proto with
  | tcp =>
    simp only [ksockRecvTcp, nothing]
    split
    · rfl
    · split <;> rfl
  | udp =>
    have quiet := valid.udp proto
    simp only [ksockRecvfromUdp, nothing, quiet.1, quiet.2.1]
    rfl

theorem ksockRecv_data (valid : sk.Valid) (h : PbufHeap) (len head : Nat)
    (queued : sk.recvHead = some head) :
    ∃ count : Nat, (ksockRecv sk h len true).result = some (count : Int) := by
  unfold ksockRecv
  rw [if_neg valid.used]
  cases sk.proto with
  | tcp =>
    simp only [ksockRecvTcp, queued]
    generalize (if len < _ then _ else _) = toCopy
    split
    · exact ⟨_, rfl⟩
    · exact ⟨_, rfl⟩
  | udp =>
    simp only [ksockRecvfromUdp, queued]
    exact ⟨_, rfl⟩

theorem ksockRecv_foretold (valid : sk.Valid) (h : PbufHeap) (len : Nat)
    (other : sk.state ≠ .listening) :
    Foretells (ksockPollReadable sk) (ksockRecv sk h len true).result ↔ sk.ReadSettled := by
  rw [ksockPollReadable, if_neg valid.used, if_neg other, Ksock.ReadSettled]
  cases queued : sk.recvHead with
  | some head =>
    obtain ⟨count, returned⟩ := ksockRecv_data valid h len head queued
    refine iff_of_true (.yes _ (by simp) returned (by omega)) (by simp)
  | none =>
    have returned := ksockRecv_empty valid h len queued
    cases eof : sk.recvEof with
    | true =>
      rw [Ksock.emptyResult, eof, if_pos rfl] at returned
      exact iff_of_true (.yes _ (by simp) returned (by decide)) (by simp)
    | false =>
      rw [Ksock.emptyResult, eof, if_neg Bool.false_ne_true] at returned
      by_cases quiet : sk.lastErr = 0
      · rw [if_neg (not_not.mpr quiet)] at returned
        exact iff_of_true (.no (by simp) returned) (by simp [quiet])
      · rw [if_pos quiet] at returned
        exact iff_of_false (Foretells.not_silent (by simp) returned valid.lastErr_ne)
          (by simp [quiet, other])

/-- A TCP socket whose send buffer is full is connected and has no error. -/
def Ksock.WriteSettled (sk : Ksock) : Prop :=
  sk.proto = .tcp → sk.tcpPcb = some 0 → sk.state = .connected ∧ sk.lastErr = 0

theorem ksockSendLoop_one (wrote : Nat → Bool) (sk : Ksock) :
    (ksockSendLoop 1 true wrote 1 sk 0).2
      = some (if sk.lastErr ≠ 0 then sk.lastErr else
          match sk.tcpPcb with
          | none => -104
          | some sndbuf => if sndbuf = 0 then -11 else if wrote 0 then 1 else -105) := by
  unfold ksockSendLoop
  rw [if_pos Nat.one_pos]
  split
  · rfl
  · cases sk.tcpPcb with
    | none => rfl
    | some sndbuf =>
      dsimp only
      split
      · rfl
      · next room =>
        split
        · have chunk : min (1 - 0) sndbuf.toNat = 1 := by
            have positive : sndbuf.toNat ≠ 0 := fun zero => room (BitVec.eq_of_toNat_eq zero)
            omega
          rw [chunk]
          rfl
        · rfl

theorem ksockSend_tcp (valid : sk.Valid) (wrote : Nat → Bool) (sentUdp : Bool)
    (tcp : sk.proto = .tcp) (pcb : sk.tcpPcb = some sndbuf) :
    (ksockSend sk 1 true wrote sentUdp).2
      = some (if sk.state ≠ .connected then -107 else if sk.lastErr ≠ 0 then sk.lastErr
          else if sndbuf = 0 then -11 else if wrote 0 then 1 else -105) := by
  simp only [ksockSend, if_neg valid.used, tcp, pcb, reduceCtorEq, or_false]
  by_cases connected : sk.state = .connected
  · rw [if_neg (not_not.mpr connected), if_neg (not_not.mpr connected), ksockSendLoop_one]
    simp only [pcb]
  · rw [if_pos connected, if_pos connected]

theorem ksockSend_foretold (valid : sk.Valid) (wrote : Nat → Bool) (sentUdp : Bool) :
    Foretells (ksockPollWritable sk) (ksockSend sk 1 true wrote sentUdp).2 ↔ sk.WriteSettled := by
  rw [ksockPollWritable, if_neg valid.used, Ksock.WriteSettled]
  cases proto : sk.proto with
  | udp =>
    refine iff_of_true (.yes (if sentUdp then 1 else -105) rfl ?_ ?_)
      (fun tcp => KsockProto.noConfusion tcp)
    · simp only [ksockSend, if_neg valid.used, proto]
      rfl
    · cases sentUdp <;> decide
  | tcp =>
    cases pcb : sk.tcpPcb with
    | none =>
      refine iff_of_true (.yes (-107) rfl ?_ (by decide)) (fun _ => nofun)
      simp only [ksockSend, if_neg valid.used, proto, pcb, or_true, if_true]
    | some sndbuf =>
      have returned := ksockSend_tcp valid wrote sentUdp proto pcb
      by_cases full : sndbuf = 0
      · rw [full] at returned ⊢
        by_cases connected : sk.state = .connected
        · rw [if_neg (not_not.mpr connected)] at returned
          by_cases quiet : sk.lastErr = 0
          · rw [if_neg (not_not.mpr quiet), if_pos rfl] at returned
            exact iff_of_true (.no rfl returned) (fun _ _ => ⟨connected, quiet⟩)
          · rw [if_pos quiet] at returned
            exact iff_of_false (Foretells.not_silent rfl returned valid.lastErr_ne)
              fun settled => quiet (settled rfl rfl).2
        · rw [if_pos connected] at returned
          exact iff_of_false (Foretells.not_silent rfl returned (by decide))
            fun settled => connected (settled rfl rfl).1
      · refine iff_of_true (.yes _ ?_ returned ?_)
          (fun _ same => absurd (Option.some.inj same) full)
        · simp only [gt_iff_lt, decide_eq_true_eq]
          bv_omega
        · have errors := valid.lastErr_ne
          split
          · decide
          · split
            · exact errors
            · split <;> decide

end Sockets

namespace IoFile

variable {τ : Type}

/-- The states of a file in which readiness agrees with the calls: the ring a pty end writes to has
room for the byte or nobody reads it, and no socket is in error or reconnecting unnoticed. -/
def Settled (byte : BitVec 8) : IoFile τ → Prop
  | .pipeRead _ _ _ | .pipeWrite _ _ _ => True
  | .ptyMaster p => p.m2s.count < ptyBufSize ∨ p.slaveOpen = false
  | .ptySlave p => p.SlaveRoom byte ∨ p.masterOpen = false
  | .socket sk _ _ => sk.ReadSettled ∧ sk.WriteSettled

end IoFile

/-- An open file is reported readable exactly if a non-blocking read does not return `-EAGAIN`, and
writable exactly if a non-blocking write of a byte does not, as long as it is settled. -/
theorem poll_agrees_with_calls {τ : Type} (f : IoFile τ) (len : Nat) (byte : BitVec 8)
    (interrupts : Bool) (answers : IoAnswers) :
    f.Agrees (len + 1) byte interrupts answers ↔ f.Settled byte := by
  cases f with
  | pipeRead _ sound opened =>
    exact iff_of_true ⟨fun _ => pipeRead_foretold sound opened len interrupts, nofun⟩ trivial
  | pipeWrite _ _ opened =>
    exact iff_of_true ⟨nofun, fun _ => pipeWrite_foretold opened byte⟩ trivial
  | ptyMaster p =>
    have write := ptyMasterWrite_foretold p byte
    exact ⟨fun agrees => write.mp (agrees.writable rfl),
      fun settled => ⟨fun _ => ptyMasterRead_foretold p len, fun _ => write.mpr settled⟩⟩
  | ptySlave p =>
    have write := ptySlaveWrite_foretold p byte
    exact ⟨fun agrees => write.mp (agrees.writable rfl),
      fun settled => ⟨fun _ => ptySlaveRead_foretold p len, fun _ => write.mpr settled⟩⟩
  | socket sk h valid =>
    have write := ksockSend_foretold valid answers.wrote answers.sentUdp
    have read : Foretells (ksockPollReadable sk)
        ((IoFile.socket sk h valid : IoFile τ).read (len + 1) interrupts answers) ↔
          sk.ReadSettled := by
      by_cases listening : sk.state = .listening
      · rw [IoFile.read, if_pos listening]
        exact iff_of_true (ksockAccept_foretold listening answers.live) (.inl listening)
      · rw [IoFile.read, if_neg listening]
        exact ksockRecv_foretold valid h (len + 1) listening
    exact ⟨fun agrees => ⟨read.mp (agrees.readable rfl), write.mp (agrees.writable rfl)⟩,
      fun settled => ⟨fun _ => read.mpr settled.1, fun _ => write.mpr settled.2⟩⟩

theorem PtyRing.count_write (translate : BitVec 8 → BitVec 8) (src : List (BitVec 8)) :
    ∀ r : PtyRing, (r.write translate src).1.count = min ptyBufSize (r.count + src.length) := by
  induction src with
  | nil =>
    intro r
    have bounded := r.bounded
    show r.count = min ptyBufSize (r.count + 0)
    omega
  | cons _ src ih =>
    intro r
    have bounded := r.bounded
    unfold PtyRing.write
    rw [List.length_cons]
    split
    · rw [ih]
      show min ptyBufSize (r.count + 1 + src.length) = _
      omega
    · show r.count = _
      omega

theorem Pty.masterWrite_pty (p : Pty τ) (src : List (BitVec 8)) (nonblock : Bool) :
    (p.masterWrite src nonblock).pty.m2s.count = min ptyBufSize (p.m2s.count + src.length)
      ∧ (p.masterWrite src nonblock).pty.slaveOpen = p.slaveOpen := by
  unfold Pty.masterWrite
  split
  · next empty =>
    have bounded := p.m2s.bounded
    refine ⟨?_, rfl⟩
    show p.m2s.count = _
    omega
  · exact ⟨PtyRing.count_write p.icrnl src p.m2s, rfl⟩

theorem Pty.masterWrite_full {p : Pty τ} (full : p.m2s.count = ptyBufSize)
    (opened : p.slaveOpen = true) (byte : BitVec 8) :
    (p.masterWrite [byte] true).result = some (-11) := by
  have nothing : (p.m2s.write p.icrnl [byte]).2 = 0 := by
    by_contra stored
    have room := (p.m2s.write_one p.icrnl byte).mp stored
    omega
  show Pty.writeResult p.slaveOpen true (0 + (p.m2s.write p.icrnl [byte]).2) 1 = some (-11)
  rw [nothing, opened]
  rfl

theorem Pty.full_disagrees (refused : (p.masterWrite [byte] true).result = some (-11)) (len : Nat)
    (interrupts : Bool) (answers : IoAnswers) :
    ¬ (IoFile.ptyMaster p).Agrees len byte interrupts answers := by
  intro agrees
  exact Foretells.not_eager (show p.pollWritable = true from rfl) refused (agrees.writable rfl)

def filledPty : Pty Nat :=
    ((Pty.allocMaster.openSlave).masterWrite (List.replicate 4096 0x41) true).pty

def reconnectedSocket : Ksock :=
  ([.tcpConnected true, .send 5840 true (fun _ => true) true, .connect false].foldl ksockEvent
    (Ksock.create .tcp (some 5840), ⟨fun _ => ⟨[], 0, none, 0, true⟩, 0⟩)).1

/-- A pty is reported writable and cannot be written to; a socket is not, and a write reports an
error. -/
theorem poll_disagrees :
    (filledPty.pollWritable = true ∧ (filledPty.masterWrite [0x41] true).result = some (-11)
      ∧ ¬ (IoFile.ptyMaster filledPty).Agrees 1 0x41 true ⟨fun _ => true, true, fun _ => true⟩)
    ∧ ksockPollWritable reconnectedSocket = false
      ∧ (ksockSend reconnectedSocket 1 true (fun _ => true) true).2 = some (-107) := by
  obtain ⟨count, opened⟩ :=
    Pty.masterWrite_pty (Pty.allocMaster.openSlave : Pty Nat) (List.replicate 4096 0x41) true
  rw [List.length_replicate, Nat.min_eq_left (by decide +kernel)] at count
  have refused : (filledPty.masterWrite [0x41] true).result = some (-11) :=
    Pty.masterWrite_full count opened 0x41
  refine ⟨⟨rfl, refused, ?_⟩, by decide +kernel⟩
  exact Pty.full_disagrees refused 1 true _

end AvatarKernel
