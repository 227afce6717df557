import AvatarKernel.Lib.Transition
import AvatarKernel.Net.Ksock

namespace AvatarKernel

open Function
open Transition

structure UdpSocket where
  sk : Ksock
  heap : PbufHeap

structure Datagram where
  data : List (BitVec 8)
  addr : BitVec 32
  port : BitVec 16

/-- A successful `ksock_recvfrom`: its buffer length, what it handed out and returned, and whether
the packet buffer that it took off the queue has been given back. -/
structure UdpReceipt where
  len : Nat
  bytes : List (BitVec 8)
  addr : BitVec 32
  port : BitVec 16
  value : Int
  released : Bool

structure UdpHistory where
  accepted : List Datagram
  received : List UdpReceipt

/-- A datagram comes in as a chain of packet buffers, or a task calls `ksock_recvfrom` (or goes on
with it after a sleep). -/
inductive UdpAction where
  | arrive (segments : List (List (BitVec 8))) (addr : BitVec 32) (port : BitVec 16)
  | receive (len : Nat) (nonblock : Bool)

def UdpSocket.observe (x : UdpSocket × UdpHistory) : UdpAction → UdpSocket × UdpHistory
  | .arrive segments addr port =>
    let arrival := x.1.heap.allocChain segments
    let after := ksockUdpRecvCb x.1.sk arrival.1 arrival.2 addr port
    (⟨after.1, after.2⟩,
      if arrival.2.isSome ∧ x.1.sk.recvCount.toNat < ksockRecvQmax then
        { x.2 with accepted := x.2.accepted ++ [⟨segments.flatten, addr, port⟩] }
      else x.2)
  | .receive len nonblock =>
    let r := ksockRecvfromUdp x.1.sk x.1.heap len nonblock
    (⟨r.sk, r.heap⟩,
      match x.1.sk.recvHead, r.result with
      | some p, some value =>
        { x.2 with received := x.2.received ++
          [⟨len, r.bytes, r.addr, r.port, value, (r.heap.cell p).freed⟩] }
      | _, _ => x.2)

def UdpSocket.start : UdpSocket × UdpHistory :=
  (⟨.create .udp none, ⟨fun _ => ⟨[], 0, none, 0, true⟩, 0⟩⟩, ⟨[], []⟩)

/-- A receive gives the beginning of this datagram and its source, and the buffer is released. -/
structure UdpReceipt.Of (r : UdpReceipt) (d : Datagram) : Prop where
  bytes : r.bytes = d.data.take (min r.len d.data.length)
  addr : r.addr = d.addr
  port : r.port = d.port
  value : r.value = min r.len d.data.length
  released : r.released = true

/-- The `k`-th receive is of the `k`-th datagram. -/
def UdpHistory.Faithful (h : UdpHistory) : Prop :=
  ∀ (k : Nat) (r : UdpReceipt), h.received[k]? = some r → ∃ d, h.accepted[k]? = some d ∧ r.Of d

/-- A datagram that is accepted comes in one packet buffer and finds the queue empty, and the length
of the user's buffer survives its conversion to 16 bits or still covers the datagram. -/
def UdpSocket.Sparse (x : UdpSocket × UdpHistory) : UdpAction → Prop
  | .arrive segments _ _ =>
    x.1.sk.recvCount.toNat < ksockRecvQmax → x.1.sk.recvHead = none ∧ segments.length ≤ 1
  | .receive len _ =>
    ∀ p ∈ x.1.sk.recvHead, len < 2 ^ 16 ∨ (x.1.heap.cell p).payload.length ≤ len % 2 ^ 16

section Pbufs

variable {h : PbufHeap} {p : Nat}

theorem copyFrom_none (fuel len offset : Nat) : h.copyFrom fuel none len offset = [] := by
  cases fuel <;> rfl

theorem pbufCopyPartial_single (inside : p < h.size) (last : (h.cell p).next = none)
    (len : BitVec 16) :
    h.pbufCopyPartial p len 0 = (h.cell p).payload.take len.toNat := by
  obtain ⟨fuel, size⟩ := Nat.exists_eq_succ_of_ne_zero (Nat.ne_of_gt (Nat.zero_lt_of_lt inside))
  rw [PbufHeap.pbufCopyPartial, size, PbufHeap.copyFrom, last]
  dsimp only
  split
  case isTrue zero => rw [zero, List.take_zero]
  case isFalse =>
    rw [if_neg fun both => both.1 rfl, copyFrom_none, List.append_nil]
    rfl

theorem pbufFree_single (inside : p < h.size) (last : (h.cell p).next = none)
    (once : (h.cell p).ref = 1) :
    ((h.pbufFree p).cell p).freed = true := by
  obtain ⟨fuel, size⟩ := Nat.exists_eq_succ_of_ne_zero (Nat.ne_of_gt (Nat.zero_lt_of_lt inside))
  have rest (fuel : Nat) (g : PbufHeap) : PbufHeap.freeFrom fuel g none = g := by cases fuel <;> rfl
  rw [PbufHeap.pbufFree, size, PbufHeap.freeFrom, once, last]
  rw [if_pos (by decide), rest]
  show (update h.cell p _ p).freed = true
  rw [update_self]
  exact Bool.or_true _

end Pbufs

inductive UdpSocket.Waiting (x : UdpSocket × UdpHistory) : Prop
  | empty (head : x.1.sk.recvHead = none) (tail : x.1.sk.recvTail = none)
    (count : x.1.sk.recvCount = 0)
      (even : x.2.accepted.length = x.2.received.length)
  | one (p : Nat) (head : x.1.sk.recvHead = some p) (tail : x.1.sk.recvTail = some p)
      (count : x.1.sk.recvCount = 1) (inside : p < x.1.heap.size)
      (last : (x.1.heap.cell p).next = none) (once : (x.1.heap.cell p).ref = 1)
      (next : x.2.accepted[x.2.received.length]? =
        some ⟨(x.1.heap.cell p).payload, x.1.sk.udpRecvAddr, x.1.sk.udpRecvPort⟩)
      (odd : x.2.accepted.length = x.2.received.length + 1)

section Steps

variable {x : UdpSocket × UdpHistory}

theorem UdpHistory.Faithful.accept {h : UdpHistory} (faithful : h.Faithful) (d : Datagram) :
    UdpHistory.Faithful { h with accepted := h.accepted ++ [d] } := by
  intro k r there
  obtain ⟨old, found, right⟩ := faithful k r there
  refine ⟨old, ?_, right⟩
  rw [List.getElem?_append_left]
  · exact found
  · exact (List.getElem?_eq_some_iff.mp found).1

theorem UdpHistory.Faithful.receive {h : UdpHistory} (faithful : h.Faithful)
    (next : h.accepted[h.received.length]? = some d) (right : r.Of d) :
    UdpHistory.Faithful { h with received := h.received ++ [r] } := by
  intro k other there
  rcases Nat.lt_trichotomy k h.received.length with before | rfl | after
  · rw [List.getElem?_append_left before] at there
    exact faithful k other there
  · rw [List.getElem?_concat_length] at there
    cases there
    exact ⟨d, next, right⟩
  · rw [List.getElem?_eq_none (by rw [List.length_append, List.length_singleton]; omega)] at there
    cases there

theorem UdpSocket.arrive_keeps (waiting : Waiting x) (faithful : x.2.Faithful)
    (sparse : Sparse x (.arrive segments addr port)) :
    Waiting (observe x (.arrive segments addr port)) ∧
      (observe x (.arrive segments addr port)).2.Faithful := by
  have room : x.1.sk.recvCount.toNat < ksockRecvQmax := by
    cases waiting with
    | empty _ _ count => rw [count]; decide
    | one _ _ _ count => rw [count]; decide
  obtain ⟨vacant, short⟩ := sparse room
  cases waiting with
  | one _ head => rw [head] at vacant; cases vacant
  | empty head tail count even =>
    match segments, short with
    | [], _ =>
      exact ⟨.empty head tail count even, faithful⟩
    | [payload], _ =>
      have accepted : (x.1.heap.allocChain [payload]).2.isSome ∧
          x.1.sk.recvCount.toNat < ksockRecvQmax := ⟨rfl, room⟩
      have queued : ksockUdpRecvCb x.1.sk (x.1.heap.allocChain [payload]).1
          (x.1.heap.allocChain [payload]).2 addr port =
          ({ x.1.sk with
            udpRecvAddr := addr
            udpRecvPort := port
            recvHead := some x.1.heap.size
            recvTail := some x.1.heap.size
            recvCount := x.1.sk.recvCount + 1 }, (x.1.heap.allocChain [payload]).1) := by
        show (if x.1.sk.recvCount.toNat ≥ ksockRecvQmax then _ else _) = _
        rw [if_neg (by omega), tail]
        rfl
      have cell : (x.1.heap.allocChain [payload]).1.cell x.1.heap.size =
          ⟨payload, BitVec.ofNat 16 payload.length, none, 1, false⟩ := update_self ..
      rw [observe]
      rw [if_pos accepted, queued, List.flatten_singleton]
      refine ⟨.one x.1.heap.size rfl rfl ?_ (Nat.lt_succ_self _) ?_ ?_ ?_ ?_, faithful.accept _⟩
      · rw [count]
        rfl
      · rw [cell]
      · rw [cell]
      · rw [← even, List.getElem?_concat_length, cell]
      · rw [List.length_append, even]
        rfl

theorem UdpSocket.receive_keeps (waiting : Waiting x) (faithful : x.2.Faithful) {len : Nat}
    (sparse : Sparse x (.receive len nonblock)) :
    Waiting (observe x (.receive len nonblock)) ∧
      (observe x (.receive len nonblock)).2.Faithful := by
  cases waiting with
  | empty head tail count even =>
    rw [observe, ksockRecvfromUdp, head]
    exact ⟨.empty head tail count even, faithful⟩
  | one p head _ count inside last once next odd =>
    -- the conversion of the length to 16 bits makes no difference to this datagram
    have cut : (x.1.heap.cell p).payload.take (len % 2 ^ 16) =
        (x.1.heap.cell p).payload.take (min len (x.1.heap.cell p).payload.length) := by
      rcases sparse p head with small | covers
      · rw [Nat.mod_eq_of_lt small, List.take_eq_take_min]
      · rw [List.take_of_length_le covers, List.take_of_length_le]
        omega
    have bytes : x.1.heap.pbufCopyPartial p (BitVec.ofNat 16 len) 0 =
        (x.1.heap.cell p).payload.take (min len (x.1.heap.cell p).payload.length) := by
      rw [pbufCopyPartial_single inside last, BitVec.toNat_ofNat, cut]
    have length :
      ((x.1.heap.cell p).payload.take (min len (x.1.heap.cell p).payload.length)).length =
        min len (x.1.heap.cell p).payload.length := by
      rw [List.length_take]
      omega
    rw [observe, ksockRecvfromUdp, head]
    dsimp only
    rw [last, bytes, length]
    refine ⟨.empty rfl rfl ?_ ?_, faithful.receive next ⟨rfl, rfl, rfl, ?_, ?_⟩⟩
    · rw [count]
      rfl
    · rw [List.length_append, odd]
      rfl
    · rfl
    · exact pbufFree_single inside last once

end Steps

/-- As long as no datagram has to queue behind another, the `k`-th receive is of the `k`-th
datagram. -/
theorem udp_receives_in_order {actions : List UdpAction} {last : UdpSocket × UdpHistory}
    (run : Run (Guarded (graph UdpSocket.observe) UdpSocket.Sparse) UdpSocket.start actions last) :
    last.2.Faithful := by
  have kept : UdpSocket.Waiting last ∧ last.2.Faithful := by
    refine run.guarded (P := fun x => UdpSocket.Waiting x ∧ x.2.Faithful)
      (fun before action inv sparse => ?_) ⟨.empty rfl rfl rfl rfl, nofun⟩
    cases action with
    | arrive => exact UdpSocket.arrive_keeps inv.1 inv.2 sparse
    | receive => exact UdpSocket.receive_keeps inv.1 inv.2 sparse
  exact kept.2

instance (x : UdpSocket × UdpHistory) (action : UdpAction) :
    Decidable (UdpSocket.Sparse x action) := by
  cases action <;> unfold UdpSocket.Sparse <;> infer_instance

theorem udp_receives_in_order_twice :
    (([.arrive [[1, 2, 3]] 0x0a000001 53, .receive 2 true, .arrive [[]] 0x0a000002 54,
      .receive 65536 true] :
      List UdpAction).foldl UdpSocket.observe UdpSocket.start).2.Faithful := by
  apply udp_receives_in_order
  exact run_of_passes (fun _ _ => of_decide_eq_true) (by decide +kernel)

/-- Two datagrams are queued before the first receive: it returns the bytes of both with the source
of the second one, and the buffer of the second one is never released. -/
theorem udp_receives_run_together :
    let last := (([.arrive [[65]] 1 53, .arrive [[66]] 2 54, .receive 10 true, .receive 10 true] :
      List UdpAction).foldl UdpSocket.observe UdpSocket.start).2
    last.received.map UdpReceipt.bytes = [[65, 66], [66]] ∧
      last.received.map UdpReceipt.addr = [2, 2] ∧
      last.received.map UdpReceipt.released = [true, false] ∧ ¬ last.Faithful := by
  intro last
  have bytes : last.received.map UdpReceipt.bytes = [[65, 66], [66]] := by decide +kernel
  have data : last.accepted.map Datagram.data = [[65], [66]] := by decide +kernel
  refine ⟨bytes, by decide +kernel, by decide +kernel, fun faithful => ?_⟩
  match received : last.received, accepted : last.accepted with
  | r :: _, d :: _ =>
    rw [received] at bytes
    rw [accepted] at data
    obtain ⟨other, found, right⟩ := faithful 0 r (by rw [received]; rfl)
    rw [accepted] at found
    cases found
    have more := congrArg List.length right.bytes
    have first : r.bytes = [65, 66] := (List.cons.inj bytes).1
    have short : d.data = [65] := (List.cons.inj data).1
    rw [first, short, List.length_take] at more
    simp only [List.length_cons, List.length_nil] at more
    omega
  | [], _ => rw [received] at bytes; cases bytes
  | _, [] => rw [accepted] at data; cases data

end AvatarKernel
