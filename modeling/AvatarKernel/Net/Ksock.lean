import AvatarKernel.Fs.Pipe
import AvatarKernel.Net.Pbuf

namespace AvatarKernel

inductive KsockState where
  | free
  | created
  | bound
  | listening
  | connecting
  | connected
  | closed
  deriving DecidableEq

inductive KsockProto where
  | tcp
  | udp
  deriving DecidableEq

def ksockRecvQmax : Nat := 16

def ksockBacklogMax : Nat := 32

/-- The fields of `ksock_t` that sending, receiving, accepting and polling use. Of a `tcp_pcb` they
see its free send buffer, `tcp_sndbuf`. -/
structure Ksock where
  state : KsockState
  proto : KsockProto
  tcpPcb : Option (BitVec 16)
  recvHead : Option Nat
  recvTail : Option Nat
  recvCount : BitVec 32
  recvOffset : BitVec 16
  recvEof : Bool
  acceptQueue : Nat → Nat
  acceptHead : Nat
  acceptTail : Nat
  acceptCount : Nat
  udpRecvAddr : BitVec 32
  udpRecvPort : BitVec 16
  lastErr : Int

/-- What `ksock_create` makes of a free entry. -/
def Ksock.create (proto : KsockProto) (tcpPcb : Option (BitVec 16)) : Ksock where
  state := .created
  proto := proto
  tcpPcb := tcpPcb
  recvHead := none
  recvTail := none
  recvCount := 0
  recvOffset := 0
  recvEof := false
  acceptQueue := fun _ => 0
  acceptHead := 0
  acceptTail := 0
  acceptCount := 0
  udpRecvAddr := 0
  udpRecvPort := 0
  lastErr := 0

/-- A stretch of a receiving call: the bytes and the source it hands out, and the value returned,
`none` if the task sleeps. -/
structure KsockRecv where
  sk : Ksock
  heap : PbufHeap
  bytes : List (BitVec 8)
  addr : BitVec 32
  port : BitVec 16
  result : Option Int

def ksockUdpRecvCb (sk : Ksock) (h : PbufHeap) (p : Option Nat) (addr : BitVec 32)
    (port : BitVec 16) :
    Ksock × PbufHeap :=
  match p with
  | none => (sk, h)
  | some p =>
    if sk.recvCount.toNat ≥ ksockRecvQmax then (sk, h.pbufFree p)
    else
      let sk := { sk with udpRecvAddr := addr, udpRecvPort := port }
      let h := match sk.recvTail with
        | some tail => h.pbufChain tail p
        | none => h
      let head := match sk.recvTail with
        | some _ => sk.recvHead
        | none => some p
      ({ sk with recvHead := head, recvTail := some p, recvCount := sk.recvCount + 1 }, h)

/-- `ksock_recvfrom` for a UDP socket, with the `while` loop up to its first sleep. -/
def ksockRecvfromUdp (sk : Ksock) (h : PbufHeap) (len : Nat) (nonblock : Bool) : KsockRecv :=
  match sk.recvHead with
  | none =>
    ⟨sk, h, [], 0, 0, if sk.lastErr ≠ 0 then some sk.lastErr else if nonblock then some
      (-11) else none⟩
  | some p =>
    let bytes := h.pbufCopyPartial p (BitVec.ofNat 16 len) 0
    let next := (h.cell p).next
    let referred := match next with
      | some q => h.pbufRef q
      | none => h
    let tail := match next with
      | some _ => sk.recvTail
      | none => none
    ⟨{ sk with recvHead := next, recvTail := tail, recvCount := sk.recvCount - 1 },
      referred.pbufFree p, bytes, sk.udpRecvAddr, sk.udpRecvPort, some bytes.length⟩

/-- `ksock_tcp_recv_cb`: an error, the end of the stream (`p` is `none`) or data; whether the data
was taken. -/
def ksockTcpRecvCb (sk : Ksock) (h : PbufHeap) (p : Option Nat) (ok : Bool) :
    Ksock × PbufHeap × Bool :=
  if !ok then
    ({ sk with lastErr := -5 }, match p with | some p => h.pbufFree p | none => h, true)
  else
    match p with
    | none => ({ sk with recvEof := true }, h, true)
    | some p =>
      if sk.recvCount.toNat ≥ ksockRecvQmax then (sk, h, false)
      else
        let after := match sk.recvHead with
          | some head => h.pbufCat head p
          | none => h
        ({ sk with
            recvHead := some (sk.recvHead.getD p)
            recvTail := some (after.lastOf p)
            recvCount := sk.recvCount + 1 }, after, true)

/-- `err_t` as `ksock_tcp_err_cb` tells it apart. -/
inductive TcpError where
  | rst
  | abrt
  | other

def ksockTcpErrCb (sk : Ksock) (err : TcpError) : Ksock :=
  { sk with
    tcpPcb := none
    lastErr := match err with
      | .rst => -104
      | .abrt => -103
      | .other => -5
    recvEof := true }

def ksockTcpConnectedCb (sk : Ksock) (ok : Bool) : Ksock :=
  if ok then { sk with state := .connected } else { sk with lastErr := -111 }

/-- The end of `ksock_tcp_accept_cb`: the new socket is queued; whether there was room. -/
def ksockTcpAcceptCb (sk : Ksock) (newSi : Nat) : Ksock × Bool :=
  if sk.acceptCount ≥ ksockBacklogMax then (sk, false)
  else
    ({ sk with
        acceptQueue := Function.update sk.acceptQueue sk.acceptTail newSi
        acceptTail := (sk.acceptTail + 1) % ksockBacklogMax
        acceptCount := sk.acceptCount + 1 }, true)

/-- `ksock_bind`; `rc` is the error for what lwIP answered, if any. -/
def ksockBind (sk : Ksock) (rc : Option Int) : Ksock × Int :=
  match rc with
  | some rc => (sk, rc)
  | none => ({ sk with state := .bound }, 0)

/-- `ksock_listen`; lwIP answers with an error or with a pcb, given by what `tcp_sndbuf` reads from
it. -/
def ksockListen (sk : Ksock) (backlog : Int) (lpcb : Except Int (BitVec 16)) : Ksock × Int :=
  if sk.proto ≠ .tcp then (sk, -9)
  else if sk.state = .listening then (sk, 0)
  else if backlog < 0 then (sk, -22)
  else
    match lpcb with
    | .error rc => (sk, rc)
    | .ok sndbuf => ({ sk with tcpPcb := some sndbuf, state := .listening }, 0)

/-- `ksock_connect` up to its sleep; `started` is the answer of `tcp_connect`. -/
def ksockConnect (sk : Ksock) (started : Bool) : Ksock × Option Int :=
  match sk.proto with
  | .tcp => ({ sk with state := .connecting, lastErr := 0 }, if started then none else some (-101))
  | .udp => ({ sk with state := .connected }, some 0)

/-- `ksock_accept` up to its first return or sleep; `live` says which entries are in use. -/
def ksockAccept (sk : Ksock) (nonblock : Bool) (live : Nat → Bool) : Ksock × Option Int :=
  if sk.state ≠ .listening then (sk, some (-9))
  else if sk.acceptCount = 0 then (sk, if nonblock then some (-11) else none)
  else
    let newSi := sk.acceptQueue sk.acceptHead
    ({ sk with
        acceptHead := (sk.acceptHead + 1) % ksockBacklogMax
        acceptCount := sk.acceptCount - 1 },
      some (if live newSi then newSi else -9))

/-- The loop of `ksock_send`; `wrote` gives the answers of `tcp_write`. Every round moves `sent` on,
so that `len` rounds are enough. -/
def ksockSendLoop (len : Nat) (nonblock : Bool) (wrote : Nat → Bool) :
    (rounds : Nat) → Ksock → (sent : Nat) → Ksock × Option Int
  | 0, sk, sent => (sk, some (intOf sent))
  | rounds + 1, sk, sent =>
    if sent < len then
      if sk.lastErr ≠ 0 then (sk, some sk.lastErr)
      else
        match sk.tcpPcb with
        | none => (sk, some (-104))
        | some sndbuf =>
          if sndbuf = 0 then
            (sk, if nonblock then some (if sent > 0 then intOf sent else -11) else none)
          else
            let chunk := min (len - sent) sndbuf.toNat
            if wrote sent then
              ksockSendLoop len nonblock wrote rounds
                { sk with tcpPcb := some (sndbuf - BitVec.ofNat 16 chunk) } (sent + chunk)
            else (sk, some (if sent > 0 then intOf sent else -105))
    else (sk, some (intOf sent))

/-- `ksock_send` up to its first return or sleep; `sentUdp` is the answer of `udp_sendto` with the
buffer for it. -/
def ksockSend (sk : Ksock) (len : Nat) (nonblock : Bool) (wrote : Nat → Bool) (sentUdp : Bool) :
    Ksock × Option Int :=
  if sk.state = .free then (sk, some (-9))
  else match sk.proto with
  | .tcp =>
    if sk.state ≠ .connected ∨ sk.tcpPcb = none then (sk, some (-107))
    else ksockSendLoop len nonblock wrote len sk 0
  | .udp => (sk, some (if sentUdp then intOf len else -105))

/-- `ksock_recv` for a TCP socket, with the `while` loop up to its first sleep. -/
def ksockRecvTcp (sk : Ksock) (h : PbufHeap) (len : Nat) (nonblock : Bool) : KsockRecv :=
  match sk.recvHead with
  | none =>
    ⟨sk, h, [], 0, 0,
      if sk.recvEof then some 0
      else if sk.lastErr ≠ 0 then some sk.lastErr
      else if nonblock then some (-11)
      else none⟩
  | some head =>
    let total := (h.cell head).totLen
    let avail := total - sk.recvOffset
    let toCopy := if len < avail.toNat then BitVec.ofNat 16 len else avail
    let bytes := h.pbufCopyPartial head toCopy sk.recvOffset
    let offset := sk.recvOffset + BitVec.ofNat 16 bytes.length
    if offset ≥ total then
      ⟨{ sk with recvHead := none, recvTail := none, recvCount := 0, recvOffset := 0 },
        h.pbufFree head, bytes, 0, 0, some bytes.length⟩
    else ⟨{ sk with recvOffset := offset }, h, bytes, 0, 0, some bytes.length⟩

def ksockRecv (sk : Ksock) (h : PbufHeap) (len : Nat) (nonblock : Bool) : KsockRecv :=
  if sk.state = .free then ⟨sk, h, [], 0, 0, some (-9)⟩
  else match sk.proto with
  | .tcp => ksockRecvTcp sk h len nonblock
  | .udp => ksockRecvfromUdp sk h len nonblock

/-- The loop of `ksock_close` over the receive queue. -/
def freeRecvQueue : (fuel : Nat) → PbufHeap → Option Nat → PbufHeap
  | 0, h, _ => h
  | _, h, none => h
  | fuel + 1, h, some p =>
    let next := (h.cell p).next
    let referred := match next with
      | some q => h.pbufRef q
      | none => h
    freeRecvQueue fuel (referred.pbufFree p) next

/-- An entry of `g_ksocks` after the `memset` of `ksock_close`. -/
def Ksock.blank : Ksock := { Ksock.create .tcp none with state := .free }

/-- An entry of `g_ksocks` with its reference count, and the packet buffers. -/
structure KsockEntry where
  sk : Ksock
  heap : PbufHeap
  refcount : Int

/-- The sockets in the accept queue of a listening one. -/
def Ksock.pendingChildren (sk : Ksock) : List Nat :=
  if sk.state = .listening then
    (List.range sk.acceptCount).map fun k => sk.acceptQueue ((sk.acceptHead + k) % ksockBacklogMax)
  else []

/-- `ksock_ref` -/
def ksockRef (e : KsockEntry) : KsockEntry :=
  if e.sk.state = .free then e else { e with refcount := e.refcount + 1 }

/-- `ksock_close`: the entry, the sockets it closes in turn and the result. -/
def ksockClose (e : KsockEntry) : KsockEntry × List Nat × Int :=
  if e.sk.state = .free then (e, [], -9)
  else if e.refcount - 1 > 0 then ({ e with refcount := e.refcount - 1 }, [], 0)
  else
    ({ sk := .blank
       heap := freeRecvQueue e.heap.size e.heap e.sk.recvHead
       refcount := 0 }, e.sk.pendingChildren, 0)

def ksockPollReadable (sk : Ksock) : Bool :=
  if sk.state = .free then false
  else if sk.state = .listening then sk.acceptCount > 0
  else sk.recvHead.isSome || sk.recvEof

def ksockPollWritable (sk : Ksock) : Bool :=
  if sk.state = .free then false
  else match sk.proto, sk.tcpPcb with
  | .tcp, some sndbuf => sndbuf > 0
  | _, _ => true

end AvatarKernel
