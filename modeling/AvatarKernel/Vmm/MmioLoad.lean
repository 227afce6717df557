import Mathlib.Algebra.GroupWithZero.Nat
import Mathlib.Logic.Function.Basic

namespace AvatarKernel

open Function

/-- The general registers of a `vcpu_t` and its program counter. -/
structure GuestRegs where
  r : Nat → BitVec 64
  pc : BitVec 64

/-- `handle_dabt` on a read outside RAM, with what `mmio_bus_handle` gives; `none` is no device. -/
def handleDabt (esr : BitVec 64) (device : Option (BitVec 64)) (c : GuestRegs) : GuestRegs :=
  let srt := (esr >>> 16 &&& 0x1f#64).toNat
  { r := if srt = 31 then c.r else update c.r srt (device.getD 0)
    pc := c.pc + if esr.getLsbD 25 then 4 else 2 }

/-- What the prefix scan of `decode_mmio_access` collects. -/
structure X86Prefixes where
  rexW : Bool
  rexR : Bool
  opsize16 : Bool

def isLegacyPrefix (b : BitVec 8) : Bool :=
  [0x66, 0x67, 0xF0, 0xF2, 0xF3, 0x2E, 0x36, 0x3E, 0x26, 0x64, 0x65].contains b

def isRex (b : BitVec 8) : Bool := 0x40#8 ≤ b && b ≤ 0x4F#8

/-- One round of the scan; `none` at the opcode. -/
def X86Prefixes.scan (p : X86Prefixes) (b : BitVec 8) : Option X86Prefixes :=
  if isLegacyPrefix b then some { p with opsize16 := p.opsize16 || b == 0x66 }
  else if isRex b then some { p with rexW := b.getLsbD 3, rexR := b.getLsbD 2 }
  else none

inductive X86Answer where
  | ioapic (v32 : BitVec 32)
  | vlapic (lval : BitVec 64)
  | bus (out : BitVec 64)

def X86Answer.value : X86Answer → BitVec 64
  | ioapic v32 => v32.setWidth 64
  | vlapic lval => lval
  | bus out => out

/-- The low bits of a value as a load brings them into a register of the given width. -/
def isaLoad (bits width : Nat) (signed : Bool) (v : BitVec 64) : BitVec 64 :=
  if signed then ((v.setWidth bits).signExtend width).setWidth 64 else (v.setWidth bits).setWidth 64

/-- On x86 a result of less than 32 bits leaves the other bits of the register. -/
def isaMerge (bits : Nat) (old v : BitVec 64) : BitVec 64 :=
  if bits < 32 then old >>> bits <<< bits ||| isaLoad bits 64 false v else isaLoad bits 64 false v

/-- The destination of a load: a register, or its second byte. -/
structure X86Dest where
  reg : Nat
  high : Bool
  bits : Nat
deriving DecidableEq

def X86Dest.load (d : X86Dest) (old v : BitVec 64) : BitVec 64 :=
  if d.high then old &&& ~~~0xff00#64 ||| (v &&& 0xff#64) <<< 8 else isaMerge d.bits old v

section Registers

variable {r : Nat → BitVec 64} {i j : Nat} {v w : BitVec 64}

end Registers

section Decoder

variable {buf : Nat → BitVec 8}

end Decoder

def GuestRegs.zero : GuestRegs := ⟨fun _ => 0, 0⟩

end AvatarKernel
