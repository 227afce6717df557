import AvatarKernel.Lib.Transition
import AvatarKernel.Lib.WaitSlot
import AvatarKernel.Net.Ksock

namespace AvatarKernel

open Function
open Transition WaitSlot

/-- The loop of `ksock_accept` with what follows it. -/
def ksockAcceptRound (sk : Ksock) (nonblock : Bool) (live : Nat → Bool) : Ksock × Option Int :=
  if sk.acceptCount = 0 then (sk, if nonblock then some (-11) else none)
  else
    let newSi := sk.acceptQueue sk.acceptHead
    ({ sk with
        acceptHead := (sk.acceptHead + 1) % ksockBacklogMax
        acceptCount := sk.acceptCount - 1 },
      some (if live newSi then newSi else -9))

theorem ksockAccept_eq (sk : Ksock) (nonblock : Bool) (live : Nat → Bool) :
    ksockAccept sk nonblock live =
      if sk.state ≠ .listening then (sk, some (-9)) else ksockAcceptRound sk nonblock live := rfl

def ksockAcceptWoken (sk : Ksock) (live : Nat → Bool) : Ksock × Option Int :=
  if sk.lastErr ≠ 0 then (sk, some sk.lastErr) else ksockAcceptRound sk false live

/-- `ksock_recv` and `ksock_recvfrom` after a wake-up. -/
def ksockRecvWoken (sk : Ksock) (h : PbufHeap) (len : Nat) : KsockRecv :=
  match sk.proto with
  | .tcp => ksockRecvTcp sk h len false
  | .udp => ksockRecvfromUdp sk h len false

/-- The loop of `ksock_send`, with the number of bytes sent when it ends or its task sleeps. -/
def ksockSendRound (len : Nat) (nonblock : Bool) (wrote : Nat → Bool) :
    (rounds : Nat) → Ksock → (sent : Nat) → Ksock × Nat × Option Int
  | 0, sk, sent => (sk, sent, some (intOf sent))
  | rounds + 1, sk, sent =>
    if sent < len then
      if sk.lastErr ≠ 0 then (sk, sent, some sk.lastErr)
      else
        match sk.tcpPcb with
        | none => (sk, sent, some (-104))
        | some sndbuf =>
          if sndbuf = 0 then
            (sk, sent, if nonblock then some (if sent > 0 then intOf sent else -11) else none)
          else
            let chunk := min (len - sent) sndbuf.toNat
            if wrote sent then
              ksockSendRound len nonblock wrote rounds
                { sk with tcpPcb := some (sndbuf - BitVec.ofNat 16 chunk) } (sent + chunk)
            else (sk, sent, some (if sent > 0 then intOf sent else -105))
    else (sk, sent, some (intOf sent))

theorem ksockSendLoop_eq (len : Nat) (nonblock : Bool) (wrote : Nat → Bool) (rounds : Nat)
    (sk : Ksock)
    (sent : Nat) : ksockSendLoop len nonblock wrote rounds sk sent =
      ((ksockSendRound len nonblock wrote rounds sk sent).1,
        (ksockSendRound len nonblock wrote rounds sk sent).2.2) := by
  induction rounds generalizing sk sent with
  | zero => rfl
  | succ _ ih =>
    rw [ksockSendLoop, ksockSendRound]
    split
    · split
      · rfl
      · cases sk.tcpPcb with
        | none => rfl
        | some =>
          dsimp only
          split
          · rfl
          · split
            · exact ih _ _
            · rfl
    · rfl

def ksockSendSent (sk : Ksock) (len : Nat) (nonblock : Bool) (wrote : Nat → Bool) : Nat :=
  (ksockSendRound len nonblock wrote len sk 0).2.1

def ksockConnectWoken (sk : Ksock) : Int := if sk.lastErr ≠ 0 then sk.lastErr else 0

/-- A call that sleeps, with what it needs to go on. -/
inductive KsockOp where
  | accept
  | recv (len : Nat)
  | send (len sent : Nat)
  | connect
  deriving DecidableEq

/-- What a call waits for: a queued connection, received data or the end of the stream, room to
send, or the connection; and an error in every case. -/
def KsockOp.Ready (sk : Ksock) : KsockOp → Prop
  | .accept => sk.acceptCount ≠ 0 ∨ sk.lastErr ≠ 0
  | .recv _ => sk.recvHead ≠ none ∨ sk.lastErr ≠ 0 ∨ (sk.proto = .tcp ∧ sk.recvEof = true)
  | .send _ _ => sk.tcpPcb ≠ some 0 ∨ sk.lastErr ≠ 0
  | .connect => sk.state = .connected ∨ sk.lastErr ≠ 0

def KsockOp.isConnect : KsockOp → Bool
  | .connect => true
  | _ => false

def KsockOp.isSend : KsockOp → Bool
  | .send _ _ => true
  | _ => false

/-- A socket with `blocked_task` and the tasks in a call on it. -/
structure KsockTasks (τ : Type) where
  sk : Ksock
  heap : PbufHeap
  blockedTask : Option τ
  waiter : τ → Option (KsockOp × WaitSlot.Phase)

/-- The steps. A call up to its first sleep is one step; the store to `blocked_task` and
`task_block` are steps of their own; a callback of lwIP is one step. `timer` is the wake-up that
`itimer_tick` sends with `SIGALRM`. -/
inductive KsockMove (τ : Type) where
  | accept (t : τ) (nonblock : Bool) (live : Nat → Bool)
  | recv (t : τ) (len : Nat) (nonblock : Bool)
  | send (t : τ) (len : Nat) (nonblock : Bool) (wrote : Nat → Bool) (sentUdp : Bool)
  | connect (t : τ) (started : Bool)
  | bind (rc : Option Int)
  | listen (backlog : Int) (lpcb : Except Int (BitVec 16))
  | list (t : τ)
  | block (t : τ)
  | timer (t : τ)
  | resume (t : τ) (live wrote : Nat → Bool)
  | tcpRecv (payloads : List (List (BitVec 8))) (ok : Bool)
  | error (err : TcpError)
  | connected (ok : Bool)
  | incoming (newSi : Nat)
  | sent (sndbuf : BitVec 16)
  | datagram (payloads : List (List (BitVec 8))) (addr : BitVec 32) (port : BitVec 16)

namespace KsockTasks

variable {τ : Type} [DecidableEq τ]

def phase (s : KsockTasks τ) (t : τ) : WaitSlot.Phase := (s.waiter t).elim .out Prod.snd

/-- A task leaves its call, or is about to sleep in it. -/
def settle (s : KsockTasks τ) (t : τ) (op : KsockOp) (sk : Ksock) (heap : PbufHeap)
    (sleeps : Bool) :
    KsockTasks τ :=
  { s with
    sk := sk, heap := heap
    waiter := update s.waiter t (if sleeps then some (op, .decided) else none) }

def setPhase (s : KsockTasks τ) (t : τ) (phase : WaitSlot.Phase) : KsockTasks τ :=
  { s with waiter := update s.waiter t ((s.waiter t).map fun w => (w.1, phase)) }

def rouse (s : KsockTasks τ) (t : τ) : KsockTasks τ := s.setPhase t (s.phase t).rouse

def unblock (s : KsockTasks τ) : KsockTasks τ :=
  match s.blockedTask with
  | some t => KsockTasks.rouse { s with blockedTask := none } t
  | none => s

def goOn (s : KsockTasks τ) (t : τ) (op : KsockOp) (live wrote : Nat → Bool) : KsockTasks τ :=
  let s := { s with blockedTask := none }
  match op with
  | .accept =>
    let r := ksockAcceptWoken s.sk live
    s.settle t op r.1 s.heap r.2.isNone
  | .recv len =>
    let r := ksockRecvWoken s.sk s.heap len
    s.settle t op r.sk r.heap r.result.isNone
  | .send len sent =>
    let r := ksockSendRound len false wrote len s.sk sent
    s.settle t (.send len r.2.1) r.1 s.heap r.2.2.isNone
  | .connect => s.settle t op s.sk s.heap false

def next (s : KsockTasks τ) : KsockMove τ → KsockTasks τ
  | .accept t nonblock live =>
    if s.waiter t = none then
      let r := ksockAccept s.sk nonblock live
      s.settle t .accept r.1 s.heap r.2.isNone
    else s
  | .recv t len nonblock =>
    if s.waiter t = none then
      let r := ksockRecv s.sk s.heap len nonblock
      s.settle t (.recv len) r.sk r.heap r.result.isNone
    else s
  | .send t len nonblock wrote sentUdp =>
    if s.waiter t = none then
      let r := ksockSend s.sk len nonblock wrote sentUdp
      s.settle t (.send len (ksockSendSent s.sk len nonblock wrote)) r.1 s.heap r.2.isNone
    else s
  | .connect t started =>
    if s.waiter t = none then
      let r := ksockConnect s.sk started
      s.settle t .connect r.1 s.heap r.2.isNone
    else s
  | .bind rc => { s with sk := (ksockBind s.sk rc).1 }
  | .listen backlog lpcb => { s with sk := (ksockListen s.sk backlog lpcb).1 }
  | .list t =>
    if s.phase t = .decided then { s.setPhase t .listed with blockedTask := some t } else s
  | .block t => if s.phase t = .listed then s.setPhase t .blocked else s
  | .timer t => s.rouse t
  | .resume t live wrote =>
    match s.waiter t with
    | some (op, .woken) => s.goOn t op live wrote
    | _ => s
  | .tcpRecv payloads ok =>
    let arrival := s.heap.allocChain payloads
    let r := ksockTcpRecvCb s.sk arrival.1 arrival.2 ok
    if r.2.2 then KsockTasks.unblock { s with sk := r.1, heap := r.2.1 }
    else { s with sk := r.1, heap := r.2.1 }
  | .error err => KsockTasks.unblock { s with sk := ksockTcpErrCb s.sk err }
  | .connected ok => KsockTasks.unblock { s with sk := ksockTcpConnectedCb s.sk ok }
  | .incoming newSi =>
    let r := ksockTcpAcceptCb s.sk newSi
    if r.2 then KsockTasks.unblock { s with sk := r.1 } else s
  | .sent sndbuf =>
    KsockTasks.unblock { s with sk := { s.sk with tcpPcb := s.sk.tcpPcb.map fun _ => sndbuf } }
  | .datagram payloads addr port =>
    let arrival := s.heap.allocChain payloads
    let r := ksockUdpRecvCb s.sk arrival.1 arrival.2 addr port
    if arrival.2.isSome ∧ s.sk.recvCount.toNat < ksockRecvQmax then
      KsockTasks.unblock { s with sk := r.1, heap := r.2 }
    else { s with sk := r.1, heap := r.2 }

def start (proto : KsockProto) (tcpPcb : Option (BitVec 16)) : KsockTasks τ where
  sk := .create proto tcpPcb
  heap := ⟨fun _ => ⟨[], 0, none, 0, true⟩, 0⟩
  blockedTask := none
  waiter := fun _ => none

/-- Nobody sleeps in a call that could go on, and `ksock_connect` returns 0 only on a connected
socket: when it goes on after its sleep, and at once for UDP. -/
structure Attended (s : KsockTasks τ) : Prop where
  awake : ∀ t op, s.waiter t = some (op, .blocked) → ¬ op.Ready s.sk
  connects : ∀ t, s.waiter t = some (.connect, .woken) → ksockConnectWoken s.sk = 0 →
    s.sk.state = .connected
  atOnce : ∀ started, (ksockConnect s.sk started).2 = some 0 →
    (ksockConnect s.sk started).1.state = .connected

/-- Nobody is between its check and its sleep. -/
def Calm (s : KsockTasks τ) : Prop := ∀ t, (s.phase t).window = false

def NoneIn (s : KsockTasks τ) (op : KsockOp → Bool) : Prop :=
  ∀ t, (s.waiter t).any (fun w => op w.1) = false

/-- The condition. No callback falls between the check of a task and its sleep, and nobody else
waits on the socket then. While a task is in `ksock_connect`, only the connection or an error wakes
it, and the socket is not connected again, bound or listened on; `ksock_listen` comes under no
sender, and `ksock_accept` on no error. -/
def Orderly (s : KsockTasks τ) : KsockMove τ → Prop
  | .accept _ nonblock _ => s.sk.state = .listening → nonblock = false → s.sk.acceptCount = 0 →
      s.sk.lastErr = 0
  | .connect _ _ | .bind _ => s.NoneIn KsockOp.isConnect
  | .listen _ _ => s.NoneIn KsockOp.isConnect ∧ s.NoneIn KsockOp.isSend
  | .list t => ∀ u, u ≠ t → (s.phase u).waits = false
  | .timer t => s.waiter t ≠ some (.connect, .blocked)
  | .tcpRecv _ ok => s.Calm ∧ (ok = true → s.NoneIn KsockOp.isConnect)
  | .error _ | .connected _ => s.Calm
  | .incoming _ | .sent _ | .datagram _ _ _ => s.Calm ∧ s.NoneIn KsockOp.isConnect
  | .recv _ _ _ | .send _ _ _ _ _ | .block _ | .resume _ _ _ => True

end KsockTasks

structure Ksock.Calmer (sk after : Ksock) : Prop where
  state : after.state = sk.state
  lastErr : after.lastErr = sk.lastErr
  ready : ∀ op : KsockOp, op.Ready after → op.Ready sk

theorem Ksock.Calmer.refl (sk : Ksock) : sk.Calmer sk := ⟨rfl, rfl, fun _ ready => ready⟩

/-- A round of a call: other calls do not get ready, and its task sleeps only where it is not
ready. -/
def Ksock.Round (sk : Ksock) (op : KsockOp) (after : Ksock) (result : Option Int) : Prop :=
  sk.Calmer after ∧ (result = none → ¬ op.Ready after)

variable {sk : Ksock}

theorem Ksock.Calmer.returns (calmer : sk.Calmer after) (op : KsockOp) (rc : Int) :
    sk.Round op after (some rc) :=
  ⟨calmer, fun sleeps => absurd sleeps (Option.some_ne_none rc)⟩

theorem ksockAcceptRound_round (live : Nat → Bool)
    (fine : nonblock = false → sk.acceptCount = 0 → sk.lastErr = 0) :
    sk.Round .accept (ksockAcceptRound sk nonblock live).1
      (ksockAcceptRound sk nonblock live).2 := by
  unfold ksockAcceptRound
  split
  · next empty =>
    cases nonblock with
    | false =>
      refine ⟨.refl sk, fun _ ready => ?_⟩
      rcases ready with queued | error
      · exact queued empty
      · exact error (fine rfl empty)
    | true => exact (Ksock.Calmer.refl sk).returns _ _
  · next queued =>
    apply Ksock.Calmer.returns
    refine ⟨rfl, rfl, fun op ready => ?_⟩
    cases op with
    | accept => exact .inl queued
    | recv | send | connect => exact ready

theorem Ksock.Calmer.received (some : sk.recvHead ≠ none) (state : after.state = sk.state)
    (lastErr : after.lastErr = sk.lastErr) (accepts : after.acceptCount = sk.acceptCount)
    (pcb : after.tcpPcb = sk.tcpPcb) : sk.Calmer after := by
  refine ⟨state, lastErr, fun op ready => ?_⟩
  cases op with
  | recv => exact .inl some
  | accept => rw [KsockOp.Ready, accepts, lastErr] at ready; exact ready
  | send => rw [KsockOp.Ready, pcb, lastErr] at ready; exact ready
  | connect => rw [KsockOp.Ready, state, lastErr] at ready; exact ready

theorem ksockRecvTcp_round (sk : Ksock) (h : PbufHeap) (len : Nat) (nonblock : Bool) :
    sk.Round (.recv len) (ksockRecvTcp sk h len nonblock).sk
      (ksockRecvTcp sk h len nonblock).result := by
  unfold ksockRecvTcp
  cases head : sk.recvHead with
  | none =>
    refine ⟨.refl sk, fun sleeps ready => ?_⟩
    dsimp only at sleeps
    split at sleeps
    · cases sleeps
    · next open_ =>
      split at sleeps
      · cases sleeps
      · next fine =>
        rcases ready with some | error | eof
        · exact some head
        · exact fine error
        · exact open_ eof.2
  | some p =>
    have some : sk.recvHead ≠ none := by rw [head]; exact Option.some_ne_none p
    dsimp only
    generalize (if len < ((h.cell p).totLen - sk.recvOffset).toNat then BitVec.ofNat 16 len
      else (h.cell p).totLen - sk.recvOffset) = toCopy
    split
    all_goals
      apply Ksock.Calmer.returns
      exact .received some rfl rfl rfl rfl

theorem ksockRecvfromUdp_round (udp : sk.proto = .udp) (h : PbufHeap) (len : Nat)
    (nonblock : Bool) :
    sk.Round (.recv len) (ksockRecvfromUdp sk h len nonblock).sk
      (ksockRecvfromUdp sk h len nonblock).result := by
  unfold ksockRecvfromUdp
  cases head : sk.recvHead with
  | none =>
    refine ⟨.refl sk, fun sleeps ready => ?_⟩
    dsimp only at sleeps
    split at sleeps
    · cases sleeps
    · next fine =>
      rcases ready with some | error | eof
      · exact some head
      · exact fine error
      · cases udp.symm.trans eof.1
  | some p =>
    have some : sk.recvHead ≠ none := by rw [head]; exact Option.some_ne_none p
    apply Ksock.Calmer.returns
    exact .received some rfl rfl rfl rfl

theorem ksockRecvWoken_round (sk : Ksock) (h : PbufHeap) (len : Nat) :
    sk.Round (.recv len) (ksockRecvWoken sk h len).sk (ksockRecvWoken sk h len).result := by
  unfold ksockRecvWoken
  cases proto : sk.proto with
  | tcp => exact ksockRecvTcp_round sk h len false
  | udp => exact ksockRecvfromUdp_round proto h len false

theorem ksockSendRound_round (len : Nat) (nonblock : Bool) (wrote : Nat → Bool) (rounds : Nat)
    (sk : Ksock) (sent total done : Nat) :
    sk.Round (.send total done) (ksockSendRound len nonblock wrote rounds sk sent).1
      (ksockSendRound len nonblock wrote rounds sk sent).2.2 := by
  induction rounds generalizing sk sent with
  | zero => exact (Ksock.Calmer.refl sk).returns _ _
  | succ _ ih =>
    rw [ksockSendRound]
    split
    · split
      · exact (Ksock.Calmer.refl sk).returns _ _
      · next fine =>
        cases pcb : sk.tcpPcb with
        | none => exact (Ksock.Calmer.refl sk).returns _ _
        | some sndbuf =>
          dsimp only
          split
          · next full =>
            refine ⟨.refl sk, fun _ ready => ready.elim (fun room => room ?_) fine⟩
            rw [pcb, full]
          · next room =>
            split
            · generalize min (len - sent) sndbuf.toNat = chunk
              obtain ⟨calmer, asleep⟩ := ih { sk with
                tcpPcb := some (sndbuf - BitVec.ofNat 16 chunk) } (sent + chunk)
              refine ⟨⟨calmer.state, calmer.lastErr, fun op ready => ?_⟩, asleep⟩
              cases op with
              | send =>
                left
                rw [pcb]
                intro zero
                exact room (Option.some.inj zero)
              | accept => exact calmer.ready .accept ready
              | recv len => exact calmer.ready (.recv len) ready
              | connect => exact calmer.ready .connect ready
            · exact (Ksock.Calmer.refl sk).returns _ _
    · exact (Ksock.Calmer.refl sk).returns _ _

theorem ksockConnect_tcp (proto : sk.proto = .tcp) (started : Bool) :
    ksockConnect sk started =
      ({ sk with state := .connecting, lastErr := 0 }, if started then none else some (-101)) := by
  unfold ksockConnect
  split
  · rfl
  · next other => rw [proto] at other; cases other

theorem ksockConnect_udp (proto : sk.proto = .udp) (started : Bool) :
    ksockConnect sk started = ({ sk with state := .connected }, some 0) := by
  unfold ksockConnect
  split
  · next other => rw [proto] at other; cases other
  · rfl

theorem ksockTcpErrCb_lastErr (sk : Ksock) (err : TcpError) :
    (ksockTcpErrCb sk err).lastErr ≠ 0 := by
  cases err
  · exact (show (-104 : Int) ≠ 0 by decide)
  · exact (show (-103 : Int) ≠ 0 by decide)
  · exact (show (-5 : Int) ≠ 0 by decide)

namespace KsockTasks

variable {τ : Type} [DecidableEq τ] {s : KsockTasks τ}

/-- What the call of a task waits for is not there. -/
def Idle (s : KsockTasks τ) (t : τ) : Prop :=
  ∀ op phase, s.waiter t = some (op, phase) → ¬ op.Ready s.sk

structure Kept (s : KsockTasks τ) : Prop where
  safe : SafeEach s.blockedTask s.phase s.Idle
  connects : ∀ t, s.waiter t = some (.connect, .woken) → KsockOp.connect.Ready s.sk

theorem setPhase_self (s : KsockTasks τ) (t : τ) (phase : WaitSlot.Phase) :
    (s.setPhase t phase).waiter t = (s.waiter t).map fun w => (w.1, phase) :=
  update_self ..

variable {t : τ}

theorem setPhase_of_ne (s : KsockTasks τ) (phase : WaitSlot.Phase) (away : u ≠ t) :
    (s.setPhase t phase).waiter u = s.waiter u :=
  update_of_ne away ..

variable {op : KsockOp}

omit [DecidableEq τ] in
theorem phase_of_waiter {phase : WaitSlot.Phase} (waiter : s.waiter t = some (op, phase)) :
    s.phase t = phase := by
  rw [KsockTasks.phase, waiter]
  rfl

theorem phase_setPhase (s : KsockTasks τ) (inside : s.waiter t ≠ none) (phase : WaitSlot.Phase) :
    (s.setPhase t phase).phase = update s.phase t phase := by
  funext u
  by_cases here : u = t
  · subst here
    obtain ⟨w, waiter⟩ := Option.ne_none_iff_exists'.mp inside
    rw [update_self, KsockTasks.phase, setPhase_self, waiter]
    rfl
  · rw [update_of_ne here, KsockTasks.phase, setPhase_of_ne s phase here]
    rfl

theorem phase_rouse (s : KsockTasks τ) (t : τ) :
    (s.rouse t).phase = update s.phase t (s.phase t).rouse := by
  cases waiter : s.waiter t with
  | some w =>
    apply phase_setPhase
    rw [waiter]
    exact Option.some_ne_none w
  | none =>
    have out : s.phase t = .out := by rw [KsockTasks.phase, waiter]; rfl
    have same : s.rouse t = s := by
      have unchanged : update s.waiter t ((s.waiter t).map fun w => (w.1, (s.phase t).rouse)) =
          s.waiter := by
        rw [waiter]
        exact update_eq_self_iff.mpr waiter.symm
      unfold rouse setPhase
      rw [unchanged]
    rw [same, out]
    exact (update_eq_self_iff.mpr out.symm).symm

theorem idle_setPhase (s : KsockTasks τ) (t : τ) (phase : WaitSlot.Phase) :
    (s.setPhase t phase).Idle = s.Idle := by
  funext u
  apply propext
  unfold Idle
  by_cases here : u = t
  · subst here
    rw [setPhase_self]
    cases waiter : s.waiter u with
    | none => simp
    | some => simp [Prod.ext_iff, setPhase]
  · rw [setPhase_of_ne s phase here]
    rfl

theorem setPhase_cases {next phase : WaitSlot.Phase}
    (after : (s.setPhase t next).waiter u = some (op, phase)) :
    s.waiter u = some (op, phase) ∨
      (next = phase ∧ u = t ∧ ∃ old, s.waiter u = some (op, old)) := by
  by_cases here : u = t
  · subst here
    rw [setPhase_self] at after
    obtain ⟨w, waiter, shape⟩ := Option.map_eq_some_iff.mp after
    cases shape
    exact .inr ⟨rfl, rfl, w.2, waiter⟩
  · rw [setPhase_of_ne s next here] at after
    exact .inl after

theorem Kept.rouse (kept : s.Kept) (t : τ)
    (connect : s.waiter t = some (.connect, .blocked) → KsockOp.connect.Ready s.sk) :
    (s.rouse t).Kept := by
  constructor
  · rw [phase_rouse]
    have idle : (s.rouse t).Idle = s.Idle := idle_setPhase s t _
    rw [idle]
    exact kept.safe.rouse t
  · intro u woken
    rcases setPhase_cases woken with before | ⟨phase, rfl, old, waiter⟩
    · exact kept.connects u before
    · rw [phase_of_waiter waiter] at phase
      cases old with
      | blocked => exact connect waiter
      | woken => exact kept.connects u waiter
      | out | decided | listed => cases phase

theorem phase_settle (s : KsockTasks τ) (t : τ) (op : KsockOp) (sk : Ksock) (heap : PbufHeap)
    (sleeps : Bool) : (s.settle t op sk heap sleeps).phase =
      update s.phase t (if sleeps then .decided else .out) := by
  funext u
  unfold KsockTasks.phase settle
  by_cases here : u = t
  · subst here
    dsimp only
    rw [update_self, update_self]
    cases sleeps <;> rfl
  · dsimp only
    rw [update_of_ne here, update_of_ne here]

variable {sk : Ksock}

theorem settled (safe : SafeEach s.blockedTask (update s.phase t .out) s.Idle)
    (connects : ∀ u, s.waiter u = some (.connect, .woken) → KsockOp.connect.Ready sk)
    (calmer : ∀ u other phase, s.waiter u = some (other, phase) → other.Ready sk → other.Ready s.sk)
    (asleep : result = none → ¬ op.Ready sk) (heap : PbufHeap) :
    (s.settle t op sk heap result.isNone).Kept := by
  have self : (s.settle t op sk heap result.isNone).waiter t =
      if result.isNone then some (op, .decided) else none :=
    update_self ..
  have away : ∀ u, u ≠ t → (s.settle t op sk heap result.isNone).waiter u = s.waiter u :=
    fun u here => update_of_ne here ..
  constructor
  · rw [phase_settle]
    refine safe.settle (fun sleeps other phase here => ?_)
      fun u here idle other phase waiter ready => ?_
    · rw [self, if_pos sleeps] at here
      cases here
      exact asleep (Option.isNone_iff_eq_none.mp sleeps)
    · rw [away u here] at waiter
      exact idle other phase waiter (calmer u other phase waiter ready)
  · intro u woken
    by_cases here : u = t
    · subst here
      rw [self] at woken
      cases result <;> cases woken
    · rw [away u here] at woken
      exact connects u woken

theorem Kept.round (kept : s.Kept) (safe : SafeEach slot (update s.phase t .out) s.Idle)
    (round : s.sk.Round op sk result) (heap : PbufHeap) :
    (KsockTasks.settle { s with blockedTask := slot } t op sk heap result.isNone).Kept := by
  refine settled (s := { s with blockedTask := slot }) safe (fun u woken => ?_)
    (fun _ other _ _ => round.1.ready other) round.2 heap
  have ready := kept.connects u woken
  rwa [KsockOp.Ready, round.1.state, round.1.lastErr]

theorem Kept.out (kept : s.Kept) (free : s.waiter t = none) :
    SafeEach s.blockedTask (update s.phase t .out) s.Idle := by
  have out : s.phase t = .out := by rw [KsockTasks.phase, free]; rfl
  rw [update_eq_self_iff.mpr out.symm]
  exact kept.safe

theorem Kept.called (kept : s.Kept) (free : s.waiter t = none) (round : s.sk.Round op sk result)
    (heap : PbufHeap) : (s.settle t op sk heap result.isNone).Kept :=
  kept.round (kept.out free) round heap

theorem Kept.returned (kept : s.Kept) (free : s.waiter t = none) (rc : Int) (op : KsockOp) :
    (s.settle t op s.sk s.heap (some rc).isNone).Kept :=
  kept.called free ((Ksock.Calmer.refl _).returns _ rc) _

theorem Kept.woken (kept : s.Kept) (waiter : s.waiter t = some (before, .woken))
    (round : s.sk.Round op sk result) (heap : PbufHeap) :
    (KsockTasks.settle { s with blockedTask := none } t op sk heap result.isNone).Kept :=
  kept.round (kept.safe.resume (phase_of_waiter waiter)) round heap

omit [DecidableEq τ] in
theorem Kept.quiet (kept : s.Kept) (heap : PbufHeap)
    (calmer : ∀ t op phase, s.waiter t = some (op, phase) → op.Ready sk → op.Ready s.sk)
    (connects : ∀ t, s.waiter t = some (.connect, .woken) → KsockOp.connect.Ready sk) :
    Kept { s with sk := sk, heap := heap } where
  safe := kept.safe.weaken fun t _ idle op phase waiter ready =>
    idle op phase waiter (calmer t op phase waiter ready)
  connects := connects

theorem Kept.event (kept : s.Kept) (calm : s.Calm) (sk : Ksock) (heap : PbufHeap)
    (connects : ∀ t phase, s.waiter t = some (.connect, phase) → KsockOp.connect.Ready sk) :
    (KsockTasks.unblock { s with sk := sk, heap := heap }).Kept := by
  have signal : ∀ idle, SafeEach none (notify s.blockedTask s.phase) idle :=
    fun _ => kept.safe.signal calm
  unfold KsockTasks.unblock
  cases slot : s.blockedTask with
  | none =>
    rw [slot] at signal
    exact ⟨signal _, fun t woken => connects t _ woken⟩
  | some t =>
    rw [slot] at signal
    constructor
    · rw [phase_rouse]
      exact signal _
    · intro u woken
      rcases setPhase_cases woken with before | ⟨_, _, old, before⟩
      · exact connects u _ before
      · exact connects u old before

omit [DecidableEq τ] in
theorem noneIn_connect (none : s.NoneIn KsockOp.isConnect) (t : τ) (phase : WaitSlot.Phase) :
    s.waiter t ≠ some (.connect, phase) := by
  intro waiter
  have absent := none t
  rw [waiter] at absent
  cases absent

omit [DecidableEq τ] in
theorem inside_of_phase (inside : s.phase t ≠ .out) : s.waiter t ≠ none := by
  intro none
  rw [KsockTasks.phase, none] at inside
  exact inside rfl

namespace Kept

section

variable (kept : s.Kept)
include kept

theorem connects_setPhase {next : WaitSlot.Phase} (early : next ≠ .woken) (u : τ)
    (woken : (s.setPhase t next).waiter u = some (.connect, .woken)) :
    KsockOp.connect.Ready s.sk := by
  rcases setPhase_cases woken with before | ⟨phase, _⟩
  · exact kept.connects u before
  · exact absurd phase early

theorem list (t : τ) (alone : ∀ u, u ≠ t → (s.phase u).waits = false) :
    (s.next (.list t)).Kept := by
  rw [next]
  split
  · next decided =>
    refine ⟨?_, kept.connects_setPhase (by decide)⟩
    show SafeEach (some t) (s.setPhase t .listed).phase (s.setPhase t .listed).Idle
    rw [phase_setPhase s (inside_of_phase (by rw [decided]; decide)), idle_setPhase]
    exact kept.safe.list decided alone
  · exact kept

theorem block (t : τ) : (s.next (.block t)).Kept := by
  rw [next]
  split
  · next listed =>
    refine ⟨?_, kept.connects_setPhase (by decide)⟩
    rw [phase_setPhase s (inside_of_phase (by rw [listed]; decide)), idle_setPhase]
    exact kept.safe.block listed
  · exact kept

theorem accept (t : τ) (nonblock : Bool) (live : Nat → Bool)
    (orderly : s.Orderly (.accept t nonblock live)) : (s.next (.accept t nonblock live)).Kept := by
  rw [next]
  split
  · next free =>
    rw [ksockAccept_eq]
    split
    · exact kept.returned free _ _
    · next listening =>
      exact kept.called free (ksockAcceptRound_round live (orderly (not_not.mp listening))) _
  · exact kept

theorem recv (t : τ) (len : Nat) (nonblock : Bool) :
    (s.next (.recv t len nonblock)).Kept := by
  rw [next]
  split
  · next free =>
    unfold ksockRecv
    split
    · exact kept.returned free _ _
    · cases proto : s.sk.proto with
      | tcp => exact kept.called free (ksockRecvTcp_round s.sk s.heap len nonblock) _
      | udp => exact kept.called free (ksockRecvfromUdp_round proto s.heap len nonblock) _
  · exact kept

theorem send (t : τ) (len : Nat) (nonblock : Bool) (wrote : Nat → Bool) (sentUdp : Bool) :
    (s.next (.send t len nonblock wrote sentUdp)).Kept := by
  rw [next]
  split
  · next free =>
    unfold ksockSend
    split
    · exact kept.returned free _ _
    · cases s.sk.proto with
      | udp => exact kept.returned free _ _
      | tcp =>
        dsimp only
        split
        · exact kept.returned free _ _
        · rw [ksockSendLoop_eq]
          exact kept.called free (ksockSendRound_round len nonblock wrote len s.sk 0 _ _) _
  · exact kept

theorem connect (t : τ) (started : Bool) (none : s.NoneIn KsockOp.isConnect) :
    (s.next (.connect t started)).Kept := by
  rw [next]
  split
  · next free =>
    apply settled (kept.out free)
    · intro u woken
      exact absurd woken (noneIn_connect none u _)
    · intro u op phase waiter ready
      cases proto : s.sk.proto with
      | tcp =>
        rw [ksockConnect_tcp proto] at ready
        cases op with
        | connect => exact absurd waiter (noneIn_connect none u _)
        | accept | send => exact ready.imp_right fun error => absurd rfl error
        | recv =>
          rcases ready with some | error | eof
          · exact .inl some
          · exact absurd rfl error
          · exact .inr (.inr eof)
      | udp =>
        rw [ksockConnect_udp proto] at ready
        cases op with
        | connect => exact absurd waiter (noneIn_connect none u _)
        | accept | recv | send => exact ready
    · intro sleeps ready
      cases proto : s.sk.proto with
      | udp => rw [ksockConnect_udp proto] at sleeps; cases sleeps
      | tcp =>
        rw [ksockConnect_tcp proto] at ready
        rcases ready with connected | error
        · cases connected
        · exact error rfl
  · exact kept

theorem resume (t : τ) (live wrote : Nat → Bool) :
    (s.next (.resume t live wrote)).Kept := by
  rw [next]
  split
  · next op waiter =>
    cases op with
    | accept =>
      show (KsockTasks.settle { s with blockedTask := none } t _ _ _ _).Kept
      unfold ksockAcceptWoken
      split
      · exact kept.woken waiter ((Ksock.Calmer.refl _).returns _ _) _
      · next fine =>
        exact kept.woken waiter (ksockAcceptRound_round live fun _ _ => not_not.mp fine) _
    | recv len => exact kept.woken waiter (ksockRecvWoken_round s.sk s.heap len) _
    | send len sent =>
      exact kept.woken waiter (ksockSendRound_round len false wrote len s.sk sent _ _) _
    | connect => exact kept.woken waiter ((Ksock.Calmer.refl _).returns .connect 0) _
  · exact kept

theorem listen (backlog : Int) (lpcb : Except Int (BitVec 16))
    (orderly : s.Orderly (.listen backlog lpcb)) : (s.next (.listen backlog lpcb)).Kept := by
  obtain ⟨noConnect, noSend⟩ := orderly
  apply kept.quiet s.heap
  · intro t op phase waiter ready
    unfold ksockListen at ready
    cases op with
    | connect => exact absurd waiter (noneIn_connect noConnect t _)
    | send =>
      have absent := noSend t
      rw [waiter] at absent
      cases absent
    | accept | recv =>
      split at ready
      · exact ready
      · split at ready
        · exact ready
        · split at ready
          · exact ready
          · cases lpcb <;> exact ready
  · intro t woken
    exact absurd woken (noneIn_connect noConnect t _)

theorem tcpRecv (payloads : List (List (BitVec 8))) (ok : Bool)
    (orderly : s.Orderly (.tcpRecv payloads ok)) : (s.next (.tcpRecv payloads ok)).Kept := by
  obtain ⟨calm, noConnect⟩ := orderly
  rw [KsockTasks.next]
  cases ok with
  | false =>
    have taken : (ksockTcpRecvCb s.sk (s.heap.allocChain payloads).1 (s.heap.allocChain payloads).2
        false).2.2 = true := rfl
    apply kept.event calm
    intro t phase _
    exact .inr (show (-5 : Int) ≠ 0 by decide)
  | true =>
    have absent := fun t phase => noneIn_connect (noConnect rfl) t phase
    split
    · apply kept.event calm
      intro t phase waiter
      exact absurd waiter (absent t phase)
    · next refused =>
      have same : (ksockTcpRecvCb s.sk (s.heap.allocChain payloads).1 (s.heap.allocChain payloads).2
          true).1 = s.sk := by
        unfold ksockTcpRecvCb at refused ⊢
        rw [if_neg (by decide)] at refused ⊢
        cases arrival : (s.heap.allocChain payloads).2 with
        | none => rw [arrival] at refused; exact absurd rfl refused
        | some =>
          rw [arrival] at refused
          dsimp only at refused ⊢
          split
          · rfl
          · next room => rw [if_neg room] at refused; exact absurd rfl refused
      rw [same]
      apply kept.quiet
      · intro _ _ _ _ ready
        exact ready
      · exact kept.connects

theorem datagram (payloads : List (List (BitVec 8))) (addr : BitVec 32) (port : BitVec 16)
    (orderly : s.Orderly (.datagram payloads addr port)) :
    (s.next (.datagram payloads addr port)).Kept := by
  obtain ⟨calm, noConnect⟩ := orderly
  rw [KsockTasks.next]
  split
  · apply kept.event calm
    intro t phase waiter
    exact absurd waiter (noneIn_connect noConnect t phase)
  · next refused =>
    have same : (ksockUdpRecvCb s.sk (s.heap.allocChain payloads).1 (s.heap.allocChain payloads).2
        addr port).1 = s.sk := by
      unfold ksockUdpRecvCb
      cases arrival : (s.heap.allocChain payloads).2 with
      | none => rfl
      | some =>
        rw [arrival] at refused
        dsimp only
        rw [if_pos (Nat.le_of_not_lt fun room => refused ⟨rfl, room⟩)]
    rw [same]
    apply kept.quiet
    · intro _ _ _ _ ready
      exact ready
    · exact kept.connects

theorem next (orderly : s.Orderly move) : (s.next move).Kept := by
  cases move with
  | accept t nonblock live => exact kept.accept t nonblock live orderly
  | recv t len nonblock => exact kept.recv t len nonblock
  | send t len nonblock wrote sentUdp => exact kept.send t len nonblock wrote sentUdp
  | connect t started => exact kept.connect t started orderly
  | bind rc =>
    apply kept.quiet s.heap
    · intro t op phase waiter ready
      cases rc with
      | some => exact ready
      | none =>
        cases op with
        | connect => exact absurd waiter (noneIn_connect orderly t _)
        | accept | recv | send => exact ready
    · intro t woken
      exact absurd woken (noneIn_connect orderly t _)
  | listen backlog lpcb => exact kept.listen backlog lpcb orderly
  | list t => exact kept.list t orderly
  | block t => exact kept.block t
  | timer t => exact kept.rouse t fun asleep => absurd asleep orderly
  | resume t live wrote => exact kept.resume t live wrote
  | tcpRecv payloads ok => exact kept.tcpRecv payloads ok orderly
  | error err =>
    apply kept.event orderly
    intro t phase _
    exact .inr (ksockTcpErrCb_lastErr s.sk err)
  | connected ok =>
    apply kept.event orderly
    intro t phase _
    cases ok with
    | true => exact .inl rfl
    | false => exact .inr (show (-111 : Int) ≠ 0 by decide)
  | incoming =>
    rw [KsockTasks.next]
    split
    · apply kept.event orderly.1
      intro t phase waiter
      exact absurd waiter (noneIn_connect orderly.2 t phase)
    · exact kept
  | sent =>
    apply kept.event orderly.1
    intro t phase waiter
    exact absurd waiter (noneIn_connect orderly.2 t phase)
  | datagram payloads addr port => exact kept.datagram payloads addr port orderly

omit [DecidableEq τ] in
theorem attended : s.Attended where
  awake t op waiter := (kept.safe.blocked t (phase_of_waiter waiter)).1 op _ waiter
  connects t woken zero := by
    rcases kept.connects t woken with connected | error
    · exact connected
    · unfold ksockConnectWoken at zero
      rw [if_pos error] at zero
      exact absurd zero error
  atOnce started zero := by
    cases proto : s.sk.proto with
    | tcp =>
      rw [ksockConnect_tcp proto] at zero
      cases started <;> cases zero
    | udp => rw [ksockConnect_udp proto]

end

end Kept

end KsockTasks

/-- In a run of orderly steps nobody sleeps in a call that could go on, and `ksock_connect` returns
0 only on a connected socket. -/
theorem ksock_attended {τ : Type} [DecidableEq τ] {proto : KsockProto} {tcpPcb : Option (BitVec 16)}
    {moves : List (KsockMove τ)} {s : KsockTasks τ}
    (run : Run (Guarded (graph KsockTasks.next) KsockTasks.Orderly) (.start proto tcpPcb) moves s) :
    s.Attended := by
  have kept : (KsockTasks.start proto tcpPcb : KsockTasks τ).Kept :=
    ⟨.start fun _ => rfl, fun _ woken => absurd woken.symm (Option.some_ne_none _)⟩
  exact (run.guarded (fun _ _ kept orderly => kept.next orderly) kept).attended

section Decide

variable {τ : Type} [Fintype τ] [DecidableEq τ] (s : KsockTasks τ)

instance ksockCalm_decidable : Decidable s.Calm :=
  inferInstanceAs (Decidable (∀ _, _))

instance ksockNoneIn_decidable (op : KsockOp → Bool) : Decidable (s.NoneIn op) :=
  inferInstanceAs (Decidable (∀ _, _))

instance ksockOrderly_decidable : (move : KsockMove τ) → Decidable (s.Orderly move)
  | .accept .. => inferInstanceAs (Decidable (_ → _ → _ → _))
  | .connect .. | .bind _ => inferInstanceAs (Decidable (s.NoneIn _))
  | .listen .. | .incoming _ | .sent _ | .datagram .. | .tcpRecv .. =>
    inferInstanceAs (Decidable (_ ∧ _))
  | .list _ => inferInstanceAs (Decidable (∀ _, _ → _))
  | .timer _ => inferInstanceAs (Decidable (_ ≠ _))
  | .error _ | .connected _ => inferInstanceAs (Decidable s.Calm)
  | .recv .. | .send .. | .block _ | .resume .. => inferInstanceAs (Decidable True)

end Decide

open scoped Numerals

def oneClient : List (KsockMove (Fin 2)) :=
  [.connect 0 true, .list 0, .block 0, .connected true, .resume 0 (fun _ => true) (fun _ => true),
    .recv 1 4 false, .list 1, .block 1, .tcpRecv [[7]] true, .resume 1 (fun _ => true)
    (fun _ => true)]

theorem ksock_attended_once :
    (oneClient.foldl KsockTasks.next (.start .tcp (some 5840))).Attended := by
  apply ksock_attended
  exact run_of_passes (fun _ _ => of_decide_eq_true) (by decide +kernel)

def lostData : List (KsockMove (Fin 2)) :=
  [.recv 0 4 false, .tcpRecv [[7]] true, .list 0, .block 0]

def alarmedConnect : List (KsockMove (Fin 2)) :=
  [.connect 0 true, .list 0, .block 0, .timer 0]

/-- The receiver sleeps while its data is there, and `ksock_connect` returns 0 while the socket is
still connecting. -/
theorem ksock_unattended :
    ¬ (lostData.foldl KsockTasks.next (.start .tcp (some 5840))).Attended ∧
      ¬ (alarmedConnect.foldl KsockTasks.next (.start .tcp (some 5840))).Attended := by
  constructor
  · intro attended
    refine attended.awake 0 (.recv 4) (by decide +kernel) (.inl ?_)
    decide +kernel
  · intro attended
    have connected := attended.connects 0 (by decide +kernel) (by decide +kernel)
    revert connected
    decide +kernel

end AvatarKernel
