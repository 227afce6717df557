import AvatarKernel.Lib.Chain
import AvatarKernel.Lib.Transition
import AvatarKernel.Net.Ksock

namespace AvatarKernel

open Function
open Transition Chain

structure Pbuf.Alike (a b : Pbuf) : Prop where
  payload : a.payload = b.payload
  totLen : a.totLen = b.totLen
  next : a.next = b.next

namespace PbufHeap

/-- The buffers of a chain, from its head on. -/
structure Chained (h : PbufHeap) (head : Option Nat) (cells : List Nat) : Prop where
  chain : IsChain (fun p => (h.cell p).next) head cells
  inside : ∀ p ∈ cells, p < h.size

def bytesOf (h : PbufHeap) (cells : List Nat) : List (BitVec 8) :=
  cells.flatMap fun p => (h.cell p).payload

variable {h : PbufHeap} {head : Option Nat} {cells : List Nat}

theorem Chained.length_le (chained : h.Chained head cells) : cells.length ≤ h.size := by
  have subset : cells ⊆ List.range h.size := by
    intro p member
    exact List.mem_range.mpr (chained.inside p member)
  have bound := (chained.chain.nodup.subperm subset).length_le
  rwa [List.length_range] at bound

theorem bytesOf_cons (h : PbufHeap) (p : Nat) (cells : List Nat) :
    h.bytesOf (p :: cells) = (h.cell p).payload ++ h.bytesOf cells := rfl

theorem bytesOf_append (h : PbufHeap) (front back : List Nat) :
    h.bytesOf (front ++ back) = h.bytesOf front ++ h.bytesOf back :=
  List.flatMap_append

theorem bytesOf_congr {g : PbufHeap} (same : ∀ p ∈ cells, (g.cell p).payload = (h.cell p).payload) :
    g.bytesOf cells = h.bytesOf cells :=
  List.flatMap_congr same

theorem copyFrom_chain (chain : IsChain (fun p => (h.cell p).next) head cells)
    (enough : cells.length ≤ fuel) (len offset : Nat) :
    h.copyFrom fuel head len offset = ((h.bytesOf cells).drop offset).take len := by
  induction cells generalizing head fuel len offset with
  | nil =>
    rw [chain.head_nil]
    cases fuel <;> simp [copyFrom, bytesOf]
  | cons p rest ih =>
    rw [chain.head_cons]
    obtain ⟨fuel, rfl⟩ := Nat.exists_eq_succ_of_ne_zero
      (Nat.ne_of_gt (Nat.lt_of_lt_of_le (Nat.zero_lt_succ rest.length) enough))
    have short : rest.length ≤ fuel := Nat.le_of_succ_le_succ enough
    rw [copyFrom, bytesOf_cons]
    dsimp only
    split
    case isTrue zero => rw [zero, List.take_zero]
    case isFalse =>
      split
      case isTrue past =>
        rw [ih chain.tail short, List.drop_append, List.drop_eq_nil_of_le past.2, List.nil_append]
      case isFalse within =>
        have inside : offset ≤ (h.cell p).payload.length := by omega
        rw [ih chain.tail short, List.drop_zero, List.drop_append_of_le_length inside,
          List.take_append, List.length_take]
        congr 2
        omega

theorem pbufCopyPartial_chain (chained : h.Chained (some p) cells) (len offset : BitVec 16) :
    h.pbufCopyPartial p len offset = ((h.bytesOf cells).drop offset.toNat).take len.toNat :=
  copyFrom_chain chained.chain chained.length_le _ _

theorem set_cell_self (h : PbufHeap) (p : Nat) (x : Pbuf) : (h.set p x).cell p = x :=
  update_self ..

theorem set_cell_of_ne (h : PbufHeap) (x : Pbuf) (distinct : q ≠ p) :
    (h.set p x).cell q = h.cell q :=
  update_of_ne distinct ..

structure Joined (h g : PbufHeap) (p t : Nat) (cells tail : List Nat) : Prop where
  chain : IsChain (fun q => (g.cell q).next) (some p) (cells ++ tail)
  total : (g.cell p).totLen = (h.cell p).totLen + (h.cell t).totLen
  payload : ∀ q, (g.cell q).payload = (h.cell q).payload
  other : ∀ q, q ∉ cells → g.cell q = h.cell q
  size : g.size = h.size

theorem catFrom_chain (chain : IsChain (fun q => (h.cell q).next) (some p) cells)
    (added : IsChain (fun q => (h.cell q).next) (some t) tail) (apart : ∀ q ∈ tail, q ∉ cells)
    (enough : cells.length ≤ fuel) : Joined h (catFrom t fuel h p) p t cells tail := by
  induction cells generalizing h p fuel with
  | nil => cases chain
  | cons first rest ih =>
    obtain rfl : p = first := Option.some.inj chain.head_cons
    obtain ⟨fuel, rfl⟩ := Nat.exists_eq_succ_of_ne_zero
      (Nat.ne_of_gt (Nat.lt_of_lt_of_le (Nat.zero_lt_succ rest.length) enough))
    have fresh : p ∉ rest := (List.nodup_cons.mp chain.nodup).1
    have outside : ∀ q ∈ tail, q ≠ p := by
      intro q member same
      exact apart q member (same ▸ List.mem_cons_self)
    rw [catFrom]
    dsimp only
    cases link : (h.cell p).next with
    | none =>
      have last : rest = [] := by
        have empty := chain.tail
        rw [link] at empty
        cases empty
        rfl
      subst last
      refine ⟨?_, ?_, ?_, ?_, rfl⟩
      · apply IsChain.cons
        rw [set_cell_self]
        apply added.congr
        intro q member
        rw [set_cell_of_ne _ _ (outside q member)]
      · rw [set_cell_self]
      · intro q
        by_cases here : q = p
        · rw [here, set_cell_self]
        · rw [set_cell_of_ne _ _ here]
      · intro q missing
        exact set_cell_of_ne _ _ fun same => missing (same ▸ List.mem_cons_self)
    | some next =>
      generalize made : h.set p ⟨(h.cell p).payload, (h.cell p).totLen + (h.cell t).totLen,
        some next, (h.cell p).ref, (h.cell p).freed⟩ = g
      have self : g.cell p = ⟨(h.cell p).payload, (h.cell p).totLen + (h.cell t).totLen,
          some next, (h.cell p).ref, (h.cell p).freed⟩ := by
        rw [← made, set_cell_self]
      have others : ∀ q, q ≠ p → g.cell q = h.cell q := by
        intro q distinct
        rw [← made, set_cell_of_ne _ _ distinct]
      have links : ∀ q, (g.cell q).next = (h.cell q).next := by
        intro q
        by_cases here : q = p
        · rw [here, self, link]
        · rw [others q here]
      have rested : IsChain (fun q => (g.cell q).next) (some next) rest := by
        have tail := chain.tail
        rw [link] at tail
        exact tail.congr fun q _ => links q
      have joined := ih rested (added.congr fun q _ => links q)
        (fun q member => fun again => apart q member (List.mem_cons_of_mem p again))
        (Nat.le_of_succ_le_succ enough)
      have kept : (catFrom t fuel g next).cell p = g.cell p := joined.other p fresh
      refine ⟨?_, ?_, ?_, ?_, ?_⟩
      · apply IsChain.cons
        rw [kept, links, link]
        exact joined.chain
      · rw [kept, self]
      · intro q
        rw [joined.payload]
        by_cases here : q = p
        · rw [here, self]
        · rw [others q here]
      · intro q missing
        rw [joined.other q fun member => missing (List.mem_cons_of_mem p member)]
        exact others q fun same => missing (same ▸ List.mem_cons_self)
      · rw [joined.size, ← made]
        rfl

/-- A chain that the network interface hands up: new buffers, whose head has the total length. -/
structure Handed (h g : PbufHeap) (head : Option Nat) (payloads : List (List (BitVec 8)))
    (cells : List Nat) : Prop where
  chained : g.Chained head cells
  fresh : ∀ q ∈ cells, h.size ≤ q
  bytes : g.bytesOf cells = payloads.flatten
  total : ∀ p, head = some p → (g.cell p).totLen = BitVec.ofNat 16 payloads.flatten.length
  other : ∀ q, q < h.size → g.cell q = h.cell q
  size : h.size ≤ g.size

theorem allocChain_handed (h : PbufHeap) (payloads : List (List (BitVec 8))) :
    ∃ cells, Handed h (h.allocChain payloads).1 (h.allocChain payloads).2 payloads cells := by
  induction payloads with
  | nil =>
    exact ⟨[], ⟨.nil, fun _ member => absurd member List.not_mem_nil⟩,
      fun _ member => absurd member List.not_mem_nil, rfl,
      fun _ head => absurd head.symm (Option.some_ne_none _), fun _ _ => rfl, Nat.le_refl _⟩
  | cons payload rest ih =>
    obtain ⟨cells, handed⟩ := ih
    generalize sub : h.allocChain rest = r at handed
    have shape : h.allocChain (payload :: rest) = (⟨update r.1.cell r.1.size ⟨payload,
          BitVec.ofNat 16 (payload.length + (rest.map List.length).sum), r.2, 1, false⟩,
            r.1.size + 1⟩, some r.1.size) := by
      rw [allocChain, sub]
    have distinct : ∀ q ∈ cells, q ≠ r.1.size := by
      intro q member same
      have bound := handed.chained.inside q member
      omega
    rw [shape]
    refine ⟨r.1.size :: cells, ⟨?_, ?_⟩, ?_, ?_, ?_, ?_, ?_⟩
    · apply IsChain.cons
      dsimp only
      rw [update_self]
      apply handed.chained.chain.congr
      intro q member
      rw [update_of_ne (distinct q member)]
    · intro q member
      rcases List.mem_cons.mp member with same | old
      · show q < r.1.size + 1
        omega
      · have bound := handed.chained.inside q old
        show q < r.1.size + 1
        omega
    · intro q member
      have grown := handed.size
      rcases List.mem_cons.mp member with same | old
      · omega
      · exact handed.fresh q old
    · rw [bytesOf_cons, List.flatten_cons, ← handed.bytes]
      dsimp only
      rw [update_self]
      congr 1
      apply bytesOf_congr
      intro q member
      dsimp only
      rw [update_of_ne (distinct q member)]
    · intro p head
      cases head
      dsimp only
      rw [update_self, List.flatten_cons, List.length_append, List.length_flatten]
    · intro q old
      have grown := handed.size
      dsimp only
      rw [update_of_ne (by omega)]
      exact handed.other q old
    · have grown := handed.size
      show h.size ≤ r.1.size + 1
      omega

theorem freeFrom_alike (fuel : Nat) (h : PbufHeap) (head : Option Nat) :
    (∀ q, ((freeFrom fuel h head).cell q).Alike (h.cell q)) ∧
    (freeFrom fuel h head).size = h.size := by
  induction fuel generalizing h head with
  | zero => exact ⟨fun _ => ⟨rfl, rfl, rfl⟩, rfl⟩
  | succ _ ih =>
    cases head with
    | none => exact ⟨fun _ => ⟨rfl, rfl, rfl⟩, rfl⟩
    | some p =>
      rw [freeFrom]
      generalize made : h.set p _ = g
      have counted : ∀ q, (g.cell q).Alike (h.cell q) := by
        intro q
        rw [← made]
        by_cases here : q = p
        · rw [here, set_cell_self]
          exact ⟨rfl, rfl, rfl⟩
        · rw [set_cell_of_ne _ _ here]
          exact ⟨rfl, rfl, rfl⟩
      have size : g.size = h.size := by rw [← made]; rfl
      split
      · obtain ⟨alike, same⟩ := ih g (h.cell p).next
        refine ⟨fun q => ?_, same.trans size⟩
        exact ⟨(alike q).payload.trans (counted q).payload,
          (alike q).totLen.trans (counted q).totLen, (alike q).next.trans (counted q).next⟩
      · exact ⟨counted, size⟩

end PbufHeap

/-- A connected TCP socket with its history: the bytes of the segments it took, the bytes that
receives returned, whether the peer closed, and the error code of a connection that was reset. -/
structure TcpStream where
  sk : Ksock
  heap : PbufHeap
  accepted : List (BitVec 8)
  returned : List (BitVec 8)
  closed : Bool
  reset : Option Int

/-- lwIP hands up a segment as a chain of packet buffers (again, if it was refused before), the end
of the stream, an error with or without data, or a fatal error; or a task receives. -/
inductive TcpAction where
  | segment (first : List (BitVec 8)) (rest : List (List (BitVec 8)))
  | fin
  | bad (payloads : List (List (BitVec 8)))
  | error (err : TcpError)
  | receive (len : Nat) (nonblock : Bool)

namespace TcpStream

def next (x : TcpStream) : TcpAction → TcpStream
  | .segment first rest =>
    let arrival := x.heap.allocChain (first :: rest)
    let r := ksockTcpRecvCb x.sk arrival.1 arrival.2 true
    { x with
      sk := r.1, heap := r.2.1
      accepted := if r.2.2 then x.accepted ++ (first :: rest).flatten else x.accepted }
  | .fin =>
    let r := ksockTcpRecvCb x.sk x.heap none true
    { x with sk := r.1, heap := r.2.1, closed := true }
  | .bad payloads =>
    let arrival := x.heap.allocChain payloads
    let r := ksockTcpRecvCb x.sk arrival.1 arrival.2 false
    { x with sk := r.1, heap := r.2.1 }
  | .error err =>
    { x with sk := ksockTcpErrCb x.sk err, reset := some (ksockTcpErrCb x.sk err).lastErr }
  | .receive len nonblock =>
    let r := ksockRecv x.sk x.heap len nonblock
    { x with sk := r.sk, heap := r.heap, returned := x.returned ++ r.bytes }

def start (sndbuf : BitVec 16) : TcpStream where
  sk := { Ksock.create .tcp (some sndbuf) with state := .connected }
  heap := ⟨fun _ => ⟨[], 0, none, 0, true⟩, 0⟩
  accepted := []
  returned := []
  closed := false
  reset := none

def pending (x : TcpStream) : List (BitVec 8) := x.accepted.drop x.returned.length

/-- What a receive may do: it returns the next bytes, at least one if it can; it returns 0 only when
there are none and the peer has closed; and a reset connection gives its error code. -/
structure Honest (x : TcpStream) (len : Nat) (nonblock : Bool) : Prop where
  bytes : (ksockRecv x.sk x.heap len nonblock).bytes <+: x.pending
  count : (ksockRecv x.sk x.heap len nonblock).bytes ≠ [] →
    (ksockRecv x.sk x.heap len nonblock).result =
      some (ksockRecv x.sk x.heap len nonblock).bytes.length
  progress : 0 < len → x.pending ≠ [] → (ksockRecv x.sk x.heap len nonblock).bytes ≠ []
  eof : 0 < len → (ksockRecv x.sk x.heap len nonblock).result = some 0 →
    x.pending = [] ∧ x.closed = true ∧ x.reset = none
  error : ∀ code, x.reset = some code → x.pending = [] →
    (ksockRecv x.sk x.heap len nonblock).result = some code

/-- The condition: a segment that is taken is not empty and the lengths of all segments queued since
the queue was last empty, read or not, fit the 16 bits of `tot_len`; nothing is received from an
empty queue after a fatal error. -/
def Intact (x : TcpStream) : TcpAction → Prop
  | .segment first rest => x.sk.recvCount.toNat < ksockRecvQmax →
      0 < (first :: rest).flatten.length ∧
        (x.sk.recvHead.elim 0 fun p => (x.heap.cell p).totLen.toNat) +
          (first :: rest).flatten.length <
          2 ^ 16
  | .receive _ _ => x.sk.recvHead = none → x.reset = none
  | _ => True

/-- The receive queue holds, from `recv_offset` on, the bytes that are still to be returned. -/
structure Queue (x : TcpStream) (cells : List Nat) : Prop where
  live : x.sk.state ≠ .free
  proto : x.sk.proto = .tcp
  chained : x.heap.Chained x.sk.recvHead cells
  data : x.accepted = x.returned ++ (x.heap.bytesOf cells).drop x.sk.recvOffset.toNat
  total : ∀ p, x.sk.recvHead = some p → (x.heap.cell p).totLen.toNat = (x.heap.bytesOf cells).length
  ahead : x.sk.recvHead ≠ none → x.sk.recvOffset.toNat < (x.heap.bytesOf cells).length
  drained : x.sk.recvHead = none → x.sk.recvOffset = 0
  eof : x.sk.recvEof = (x.closed || x.reset.isSome)

end TcpStream

namespace TcpStream

variable {x : TcpStream} {cells : List Nat}

namespace Queue

section

variable (queue : x.Queue cells)
include queue

theorem pending :
    x.pending = (x.heap.bytesOf cells).drop x.sk.recvOffset.toNat := by
  rw [TcpStream.pending, queue.data, List.drop_left]

theorem cells_nil (none : x.sk.recvHead = none) : cells = [] := by
  have chain := queue.chained.chain
  rw [none] at chain
  cases chain
  rfl

theorem pending_nil_iff : x.pending = [] ↔ x.sk.recvHead = none := by
  rw [queue.pending]
  constructor
  · intro empty
    by_contra head
    have ahead := queue.ahead head
    have short := List.drop_eq_nil_iff.mp empty
    omega
  · intro none
    rw [queue.cells_nil none]
    exact List.drop_nil

theorem recv_some (head : x.sk.recvHead = some p) (len : Nat) (nonblock : Bool) :
    (ksockRecv x.sk x.heap len nonblock).bytes = x.pending.take len ∧
      (ksockRecv x.sk x.heap len nonblock).result = some (x.pending.take len).length ∧
      if x.pending.length ≤ len then
        (ksockRecv x.sk x.heap len nonblock).sk = { x.sk with
          recvHead := none, recvTail := none, recvCount := 0, recvOffset := 0 }
      else (ksockRecv x.sk x.heap len nonblock).heap = x.heap ∧
        (ksockRecv x.sk x.heap len nonblock).sk =
          { x.sk with recvOffset := BitVec.ofNat 16 (x.sk.recvOffset.toNat + len) } := by
  have total := queue.total p head
  have ahead := queue.ahead (by rw [head]; exact Option.some_ne_none p)
  have pending := queue.pending
  have left : x.pending.length = (x.heap.bytesOf cells).length - x.sk.recvOffset.toNat := by
    rw [pending, List.length_drop]
  have avail : ((x.heap.cell p).totLen - x.sk.recvOffset).toNat = x.pending.length := by
    rw [BitVec.toNat_sub_of_le (by rw [BitVec.le_def]; omega)]
    omega
  have chained := queue.chained
  rw [head] at chained
  generalize copy :
    (if len < ((x.heap.cell p).totLen - x.sk.recvOffset).toNat then BitVec.ofNat 16 len
    else (x.heap.cell p).totLen - x.sk.recvOffset) = toCopy
  have copied : toCopy.toNat = min len x.pending.length := by
    rw [← copy, avail]
    split
    case isTrue less => rw [BitVec.toNat_ofNat, Nat.mod_eq_of_lt (by omega)]; omega
    case isFalse => rw [avail]; omega
  have bytes : x.heap.pbufCopyPartial p toCopy x.sk.recvOffset = x.pending.take len := by
    rw [PbufHeap.pbufCopyPartial_chain chained, ← pending, copied, ← List.take_eq_take_min]
  have shape : ksockRecv x.sk x.heap len nonblock = ksockRecvTcp x.sk x.heap len nonblock := by
    rw [ksockRecv, if_neg queue.live, queue.proto]
  have length : (x.pending.take len).length = min len x.pending.length := List.length_take
  have moved : (x.sk.recvOffset + BitVec.ofNat 16 (x.pending.take len).length).toNat =
      x.sk.recvOffset.toNat + min len x.pending.length := by
    rw [BitVec.toNat_add, BitVec.toNat_ofNat, length]
    omega
  rw [shape, ksockRecvTcp, head]
  dsimp only
  rw [copy, bytes]
  by_cases done : x.pending.length ≤ len
  · have past : x.sk.recvOffset + BitVec.ofNat 16 (x.pending.take len).length ≥
        (x.heap.cell p).totLen := by
      rw [ge_iff_le, BitVec.le_def, moved]
      omega
    rw [if_pos past, if_pos done]
    exact ⟨rfl, rfl, rfl⟩
  · have before : ¬ x.sk.recvOffset + BitVec.ofNat 16 (x.pending.take len).length ≥
        (x.heap.cell p).totLen := by
      rw [ge_iff_le, BitVec.le_def, moved]
      omega
    rw [if_neg before, if_neg done]
    refine ⟨rfl, rfl, rfl, ?_⟩
    have same : x.sk.recvOffset + BitVec.ofNat 16 (x.pending.take len).length =
        BitVec.ofNat 16 (x.sk.recvOffset.toNat + len) := by
      apply BitVec.eq_of_toNat_eq
      rw [moved, BitVec.toNat_ofNat]
      omega
    rw [same, head]

theorem recv_none (none : x.sk.recvHead = none) (len : Nat) (nonblock : Bool) :
    ksockRecv x.sk x.heap len nonblock = ⟨x.sk, x.heap, [], 0, 0, if x.sk.recvEof then some 0
        else if x.sk.lastErr ≠ 0 then some x.sk.lastErr
        else if nonblock then some (-11) else Option.none⟩ := by
  rw [ksockRecv, if_neg queue.live, queue.proto]
  rw [ksockRecvTcp, none]

theorem honest (intact : x.Intact (.receive len nonblock)) : x.Honest len nonblock := by
  cases head : x.sk.recvHead with
  | none =>
    have empty := queue.pending_nil_iff.mpr head
    have result := queue.recv_none head len nonblock
    have alive : x.reset = none := intact head
    refine ⟨?_, ?_, ?_, ?_, ?_⟩
    · rw [result]
      exact List.nil_prefix
    · intro some
      rw [result] at some
      exact absurd rfl some
    · intro _ some
      exact absurd empty some
    · intro _ zero
      refine ⟨empty, ?_, alive⟩
      have eof := queue.eof
      rw [alive, Option.isSome_none, Bool.or_false] at eof
      rw [result] at zero
      rw [← eof]
      split at zero
      · assumption
      · split at zero
        · next error => exact absurd (Option.some.inj zero) error
        · split at zero <;> cases zero
    · intro code was
      rw [alive] at was
      cases was
  | some =>
    obtain ⟨bytes, value, _⟩ := queue.recv_some head len nonblock
    have more : x.pending ≠ [] := by
      intro empty
      rw [queue.pending_nil_iff.mp empty] at head
      cases head
    have got : 0 < len → x.pending.take len ≠ [] := by
      intro positive none
      rcases List.take_eq_nil_iff.mp none with zero | empty
      · omega
      · exact more empty
    refine ⟨?_, ?_, ?_, ?_, ?_⟩
    · rw [bytes]
      exact List.take_prefix len _
    · intro _
      rw [value, bytes]
    · intro positive _
      rw [bytes]
      exact got positive
    · intro positive zero
      rw [value] at zero
      have length : (x.pending.take len).length = 0 := by
        have same := Option.some.inj zero
        omega
      exact absurd (List.length_eq_zero_iff.mp length) (got positive)
    · intro _ _ empty
      exact absurd empty more

theorem receive (len : Nat) (nonblock : Bool) :
    ∃ cells, (x.next (.receive len nonblock)).Queue cells := by
  have split : x.accepted = x.returned ++ x.pending := by rw [queue.pending, ← queue.data]
  cases head : x.sk.recvHead with
  | none =>
    refine ⟨cells, ?_⟩
    rw [next, queue.recv_none head]
    exact ⟨queue.live, queue.proto, queue.chained, by rw [List.append_nil]; exact queue.data,
      queue.total, queue.ahead, queue.drained, queue.eof⟩
  | some p =>
    obtain ⟨bytes, _, after⟩ := queue.recv_some head len nonblock
    rw [next, bytes]
    by_cases done : x.pending.length ≤ len
    · rw [if_pos done] at after
      refine ⟨[], ?_⟩
      rw [after, List.take_of_length_le done, ← split]
      exact ⟨queue.live, queue.proto, ⟨.nil, fun _ member => absurd member List.not_mem_nil⟩,
        by simp [PbufHeap.bytesOf], fun _ none => absurd none.symm (Option.some_ne_none _),
        fun some => absurd rfl some, fun _ => rfl, queue.eof⟩
    · rw [if_neg done] at after
      refine ⟨cells, ?_⟩
      rw [after.1, after.2]
      have total := queue.total p head
      have left := congrArg List.length queue.pending
      rw [List.length_drop] at left
      have moved : (BitVec.ofNat 16 (x.sk.recvOffset.toNat + len)).toNat =
          x.sk.recvOffset.toNat + len := by
        rw [BitVec.toNat_ofNat]
        omega
      refine ⟨queue.live, queue.proto, queue.chained, ?_, queue.total, ?_, ?_, queue.eof⟩
      · rw [moved, ← List.drop_drop, ← queue.pending, List.append_assoc, List.take_append_drop]
        exact split
      · intro _
        dsimp only
        omega
      · intro none
        rw [show x.sk.recvHead = Option.none from none] at head
        cases head

theorem frame (size : x.heap.size ≤ g.size) (same : ∀ q ∈ cells, (g.cell q).Alike (x.heap.cell q)) :
    Queue { x with heap := g } cells := by
  have bytes : g.bytesOf cells = x.heap.bytesOf cells :=
    PbufHeap.bytesOf_congr fun q member => (same q member).payload
  refine ⟨queue.live, queue.proto, ⟨?_, ?_⟩, ?_, ?_, ?_, queue.drained, queue.eof⟩
  · exact queue.chained.chain.congr fun q member => (same q member).next
  · intro q member
    exact Nat.lt_of_lt_of_le (queue.chained.inside q member) size
  · rw [bytes]
    exact queue.data
  · intro p head
    have member : p ∈ cells := by
      have chain := queue.chained.chain
      rw [show x.sk.recvHead = some p from head] at chain
      cases chain
      exact List.mem_cons_self
    rw [(same p member).totLen, bytes]
    exact queue.total p head
  · intro head
    rw [bytes]
    exact queue.ahead head

theorem segment (intact : x.Intact (.segment first rest)) :
    ∃ cells, (x.next (.segment first rest)).Queue cells := by
  obtain ⟨added, handed⟩ := x.heap.allocChain_handed (first :: rest)
  obtain ⟨t, target⟩ : ∃ t, (x.heap.allocChain (first :: rest)).2 = some t := ⟨_, rfl⟩
  unfold TcpStream.next ksockTcpRecvCb
  have room : x.sk.recvCount.toNat < ksockRecvQmax → 0 < (first :: rest).flatten.length ∧
      (x.sk.recvHead.elim 0 fun p => (x.heap.cell p).totLen.toNat) +
        (first :: rest).flatten.length <
        2 ^ 16 := intact
  dsimp only
  rw [target]
  rw [target] at handed
  generalize (x.heap.allocChain (first :: rest)).1 = g at handed
  have old : ∀ q ∈ cells, g.cell q = x.heap.cell q :=
    fun q member => handed.other q (queue.chained.inside q member)
  have framed := queue.frame handed.size fun q member => by rw [old q member]; exact ⟨rfl, rfl, rfl⟩
  have total := handed.total t rfl
  have bytes := handed.bytes
  generalize (first :: rest).flatten = data at room total bytes
  dsimp only
  rw [if_neg (by simp)]
  by_cases full : x.sk.recvCount.toNat ≥ ksockRecvQmax
  · rw [if_pos full]
    exact ⟨cells, framed⟩
  · rw [if_neg full, if_pos rfl]
    obtain ⟨positive, short⟩ := room (Nat.lt_of_not_le full)
    cases head : x.sk.recvHead with
    | none =>
      have none : x.pending = [] := queue.pending_nil_iff.mpr head
      have offset := queue.drained head
      have even : x.accepted = x.returned := by
        have split := queue.data
        rw [← queue.pending, none, List.append_nil] at split
        exact split
      rw [head] at short
      refine ⟨added, queue.live, queue.proto, handed.chained, ?_, ?_, ?_, ?_, queue.eof⟩
      · rw [even, offset, bytes]
        rfl
      · intro p other
        cases other
        show (g.cell t).totLen.toNat = _
        rw [total, bytes, BitVec.toNat_ofNat]
        exact Nat.mod_eq_of_lt (by simpa using short)
      · intro _
        rw [offset, bytes]
        exact positive
      · intro absent
        cases absent
    | some p =>
      have chained : g.Chained (some p) cells := head ▸ framed.chained
      have apart : ∀ q ∈ added, q ∉ cells := by
        intro q member again
        have above := handed.fresh q member
        have below := queue.chained.inside q again
        omega
      have joined :=
        PbufHeap.catFrom_chain chained.chain handed.chained.chain apart chained.length_le
      rw [show PbufHeap.catFrom t g.size g p = g.pbufCat p t from rfl] at joined
      dsimp only
      generalize g.pbufCat p t = cat at joined
      have whole : cat.bytesOf (cells ++ added) = x.heap.bytesOf cells ++ data := by
        have kept : g.bytesOf cells = x.heap.bytesOf cells :=
          PbufHeap.bytesOf_congr fun q member => by rw [old q member]
        rw [PbufHeap.bytesOf_congr fun q _ => joined.payload q, PbufHeap.bytesOf_append,
          bytes, kept]
      have oldTotal := queue.total p head
      have ahead := queue.ahead (by rw [head]; exact Option.some_ne_none p)
      have here : p ∈ cells := by
        have chain := chained.chain
        cases chain
        exact List.mem_cons_self
      rw [head, Option.elim_some] at short
      refine ⟨cells ++ added, queue.live, queue.proto, ⟨joined.chain, ?_⟩, ?_, ?_, ?_,
        ?_, queue.eof⟩
      · intro q member
        rw [joined.size]
        rcases List.mem_append.mp member with left | right
        · exact chained.inside q left
        · exact handed.chained.inside q right
      · rw [whole, List.drop_append_of_le_length (Nat.le_of_lt ahead), ← List.append_assoc,
          ← queue.data]
      · intro other same
        cases same
        show (cat.cell p).totLen.toNat = _
        rw [joined.total, total, whole, List.length_append, BitVec.toNat_add, BitVec.toNat_ofNat,
          old p here]
        omega
      · intro _
        dsimp only
        rw [whole, List.length_append]
        omega
      · intro absent
        cases absent

theorem next (intact : x.Intact action) : ∃ cells, (x.next action).Queue cells := by
  cases action with
  | segment => exact queue.segment intact
  | receive len nonblock => exact queue.receive len nonblock
  | fin =>
    exact ⟨cells, queue.live, queue.proto, queue.chained, queue.data, queue.total, queue.ahead,
      queue.drained, rfl⟩
  | error =>
    refine ⟨cells, queue.live, queue.proto, queue.chained, queue.data, queue.total, queue.ahead,
      queue.drained, ?_⟩
    exact (Bool.or_true _).symm
  | bad payloads =>
    obtain ⟨added, handed⟩ := x.heap.allocChain_handed payloads
    have framed := queue.frame handed.size fun q member => by
      rw [handed.other q (queue.chained.inside q member)]
      exact ⟨rfl, rfl, rfl⟩
    unfold TcpStream.next ksockTcpRecvCb
    dsimp only
    cases (x.heap.allocChain payloads).2 with
    | none =>
      exact ⟨cells, framed.live, framed.proto, framed.chained, framed.data, framed.total,
        framed.ahead, framed.drained, framed.eof⟩
    | some p =>
      generalize (x.heap.allocChain payloads).1 = g at framed
      obtain ⟨alike, size⟩ := PbufHeap.freeFrom_alike g.size g (some p)
      have freed := framed.frame (Nat.le_of_eq size.symm) fun q _ => alike q
      exact ⟨cells, freed.live, freed.proto, freed.chained, freed.data, freed.total,
        freed.ahead, freed.drained, freed.eof⟩

end

end Queue

theorem start_queue (sndbuf : BitVec 16) : (start sndbuf).Queue [] where
  live := fun free => by cases free
  proto := rfl
  chained := ⟨.nil, fun _ member => absurd member List.not_mem_nil⟩
  data := rfl
  total := fun _ some => by cases some
  ahead := fun some => absurd rfl some
  drained := fun _ => rfl
  eof := rfl

end TcpStream

/-- In every run that meets the condition, what receives returned is the beginning of what was
taken, and every further receive is honest. -/
theorem tcp_stream_intact {sndbuf : BitVec 16} {actions : List TcpAction} {x : TcpStream}
    (run : Run (Guarded (graph TcpStream.next) TcpStream.Intact)
      (TcpStream.start sndbuf) actions x) :
    x.returned <+: x.accepted ∧
      ∀ len nonblock, x.Intact (.receive len nonblock) → x.Honest len nonblock := by
  have queued : ∃ cells, x.Queue cells := by
    refine run.guarded (P := fun x => ∃ cells, x.Queue cells) (fun before action inv intact => ?_)
      ⟨[], TcpStream.start_queue sndbuf⟩
    obtain ⟨cells, queue⟩ := inv
    exact queue.next intact
  obtain ⟨cells, queue⟩ := queued
  exact ⟨⟨_, queue.data.symm⟩, fun _ _ => queue.honest⟩

instance tcpIntact_decidable (x : TcpStream) : (action : TcpAction) → Decidable (x.Intact action)
  | .segment .. | .receive .. => inferInstanceAs (Decidable (_ → _))
  | .fin | .bad _ | .error _ => inferInstanceAs (Decidable True)

def threeReceives : List TcpAction :=
  [.segment [1, 2, 3] [[4]], .receive 2 true, .segment [5] [], .receive 2 true, .fin,
    .receive 9 true]

theorem tcp_stream_intact_three :
    let x := threeReceives.foldl TcpStream.next (.start 0)
    x.returned = [1, 2, 3, 4, 5] ∧ x.returned <+: x.accepted ∧ x.Honest 1 true := by
  have all := @tcp_stream_intact 0 threeReceives _
    (run_of_passes (fun _ _ => of_decide_eq_true) (by decide +kernel))
  exact ⟨by decide +kernel, all.1, all.2 1 true (by decide +kernel)⟩

def TcpStream.overfull (a b : List (BitVec 8)) : TcpStream :=
  ((start 0).next (.segment a [])).next (.segment b [])

theorem TcpStream.overfull_recv (wraps : a.length + b.length = 2 ^ 16) :
    (ksockRecv (overfull a b).sk (overfull a b).heap 1 true).result = some 0 := by
  have head : (overfull a b).sk.recvHead = some 0 := rfl
  have total : ((overfull a b).heap.cell 0).totLen = 0 := by
    show BitVec.ofNat 16 (a.length + 0) + BitVec.ofNat 16 (b.length + 0) = 0
    rw [← BitVec.ofNat_add, Nat.add_zero, Nat.add_zero, wraps]
    rfl
  have shape : ksockRecv (overfull a b).sk (overfull a b).heap 1 true =
      ksockRecvTcp (overfull a b).sk (overfull a b).heap 1 true := rfl
  have offset : (overfull a b).sk.recvOffset = 0 := rfl
  have nothing : (overfull a b).heap.pbufCopyPartial 0 (if 1 < ((0 : BitVec 16) - 0).toNat then 1#16
      else 0 - 0) 0 = [] := rfl
  rw [shape, ksockRecvTcp, head]
  dsimp only
  rw [total, offset, nothing, if_pos (by decide)]
  rfl

/-- A connection that is reset gives end of file, and so does one with 65536 bytes queued. -/
theorem tcp_stream_broken : ¬ ((TcpStream.start 0).next (.error .rst)).Honest 1 true ∧
    ¬ (TcpStream.overfull (List.replicate 32768 1) (List.replicate 32768 2)).Honest 1 true := by
  constructor
  · intro honest
    have code := honest.error (-104) (by decide) (by decide)
    revert code
    decide
  · intro honest
    have zero : (List.replicate 32768 (1 : BitVec 8)).length +
        (List.replicate 32768 (2 : BitVec 8)).length = 2 ^ 16 :=
      (congrArg₂ (· + ·) List.length_replicate List.length_replicate).trans (by decide)
    exact absurd (honest.eof (Nat.zero_lt_one) (TcpStream.overfull_recv zero)).2.1
      Bool.false_ne_true

end AvatarKernel
