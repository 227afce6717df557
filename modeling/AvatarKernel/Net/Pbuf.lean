import Mathlib.Algebra.GroupWithZero.Nat
import Mathlib.Logic.Function.Basic

namespace AvatarKernel

open Function

/-- `struct pbuf`; the payload stands for `payload` and `len`. -/
structure Pbuf where
  payload : List (BitVec 8)
  totLen : BitVec 16
  next : Option Nat
  ref : BitVec 8
  freed : Bool

/-- The packet buffers. Every allocation has a number of its own, below `size`, so that no chain of
buffers is longer than `size`. -/
structure PbufHeap where
  cell : Nat → Pbuf
  size : Nat

namespace PbufHeap

def set (h : PbufHeap) (p : Nat) (x : Pbuf) : PbufHeap := { h with cell := update h.cell p x }

def allocChain (h : PbufHeap) : List (List (BitVec 8)) → PbufHeap × Option Nat
  | [] => (h, none)
  | payload :: rest =>
    let r := h.allocChain rest
    let total := (payload.length + (rest.map List.length).sum)
    (⟨update r.1.cell r.1.size ⟨payload, BitVec.ofNat 16 total, r.2, 1, false⟩, r.1.size + 1⟩,
      some r.1.size)

def pbufRef (h : PbufHeap) (p : Nat) : PbufHeap :=
    h.set p { h.cell p with ref := (h.cell p).ref + 1 }

/-- The loop of `pbuf_free`. -/
def freeFrom : (fuel : Nat) → PbufHeap → Option Nat → PbufHeap
  | 0, h, _ => h
  | _, h, none => h
  | fuel + 1, h, some p =>
    let ref := (h.cell p).ref - 1
    let after := h.set p { h.cell p with ref := ref, freed := (h.cell p).freed || ref == 0 }
    if ref = 0 then freeFrom fuel after (h.cell p).next else after

def pbufFree (h : PbufHeap) (p : Nat) : PbufHeap := freeFrom h.size h (some p)

/-- The loop of `pbuf_cat` to the last buffer of the first chain. -/
def catFrom (t : Nat) : (fuel : Nat) → PbufHeap → Nat → PbufHeap
  | 0, h, _ => h
  | fuel + 1, h, p =>
    let x := { h.cell p with totLen := (h.cell p).totLen + (h.cell t).totLen }
    match x.next with
    | some q => catFrom t fuel (h.set p x) q
    | none => h.set p { x with next := some t }

def pbufCat (h : PbufHeap) (p t : Nat) : PbufHeap := catFrom t h.size h p

def pbufChain (h : PbufHeap) (p t : Nat) : PbufHeap := (h.pbufCat p t).pbufRef t

/-- The loop of `pbuf_copy_partial`. -/
def copyFrom (h : PbufHeap) : (fuel : Nat) → Option Nat → (len offset : Nat) → List (BitVec 8)
  | 0, _, _, _ => []
  | _, none, _, _ => []
  | fuel + 1, some p, len, offset =>
    let x := h.cell p
    if len = 0 then []
    else if offset ≠ 0 ∧ offset ≥ x.payload.length then
      copyFrom h fuel x.next len (offset - x.payload.length)
    else
      let bytes := (x.payload.drop offset).take len
      bytes ++ copyFrom h fuel x.next (len - bytes.length) 0

def pbufCopyPartial (h : PbufHeap) (p : Nat) (len offset : BitVec 16) : List (BitVec 8) :=
  h.copyFrom h.size (some p) len.toNat offset.toNat

/-- The loop of `ksock_tcp_recv_cb` to the last buffer of a chain. -/
def lastFrom (h : PbufHeap) : (fuel : Nat) → Nat → Nat
  | 0, p => p
  | fuel + 1, p =>
    match (h.cell p).next with
    | some q => h.lastFrom fuel q
    | none => p

def lastOf (h : PbufHeap) (p : Nat) : Nat := h.lastFrom h.size p

end PbufHeap

end AvatarKernel
