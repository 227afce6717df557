import AvatarKernel.Lib.Transition

namespace AvatarKernel

open Function Transition

/-- A channel of the 8254, `x86_pit_ch_t`. -/
structure PitCh where
  reload : BitVec 16 := 0
  baseNs : BitVec 64 := 0
  running : Bool := false
  readHi : Bool := false
  rw : BitVec 2 := 0
  wstate : Bool := false
  wlo : BitVec 8 := 0
  latched : BitVec 16 := 0
  latValid : Bool := false

def pitHalf (high : Bool) (count : BitVec 16) : BitVec 8 :=
  if high then (count >>> 8).setWidth 8 else count.setWidth 8

namespace PitCh

variable (p : PitCh) (ns : BitVec 64)

def pitNow : BitVec 16 :=
  if !p.running then p.reload
  else if ns ≤ p.baseNs then p.reload
  else
    let ticks := (ns - p.baseNs) * 1193182#64 / 1000000000#64
    if p.reload.setWidth 64 ≤ ticks then 0 else (p.reload.setWidth 64 - ticks).setWidth 16

def pitRead : BitVec 8 × PitCh :=
  if p.latValid then
    (pitHalf p.readHi p.latched, { p with latValid := !p.readHi, readHi := !p.readHi })
  else (pitHalf p.readHi (p.pitNow ns), { p with readHi := !p.readHi })

def loads (v : BitVec 8) : Option (BitVec 16) :=
  if p.rw = 1 then some (v.setWidth 16)
  else if p.rw = 2 then some (v.setWidth 16 <<< 8)
  else if p.wstate then some (v.setWidth 16 <<< 8 ||| p.wlo.setWidth 16)
  else none

def pitWriteData (v : BitVec 8) : PitCh :=
  match p.loads v with
  | none => { p with wlo := v, wstate := true }
  | some reload => { p with
      reload, wstate := p.wstate && (p.rw = 1 || p.rw = 2), running := true, baseNs := ns,
      readHi := false, latValid := false }

end PitCh

/-- A counter as the guest may expect it: the last value loaded and when, which byte of two is read
next, and a count that is latched. -/
structure PitCounter where
  loaded : Option (Nat × Nat) := none
  msb : Bool := false
  latch : Option Nat := none

namespace PitCounter

variable (c : PitCounter) (ns : Nat)

@[irreducible] def count : Nat :=
  match c.loaded with
  | none => 0
  | some (value, since) => value - (ns - since) * 1193182 / 1000000000

/-- The RW bits select the low byte, the high byte or the one after the other. A latched count is
there until all of them have been read. -/
def read (rw : BitVec 2) : Nat × PitCounter :=
  let value := c.latch.getD (c.count ns)
  if rw = 1 then (value % 256, { c with latch := none })
  else if rw = 2 then (value / 256 % 256, { c with latch := none })
  else if c.msb then (value / 256 % 256, { c with msb := false, latch := none })
  else (value % 256, { c with msb := true })

/-- The value 0 means 65536. -/
def load : Option (BitVec 16) → PitCounter
  | none => c
  | some value => { c with loaded := some (if value = 0 then 65536 else value.toNat, ns) }

end PitCounter

inductive PitOp where
  | ctrl (v : BitVec 8)
  | data (ch : Fin 3) (v : BitVec 8)
  | read (ch : Fin 3)

/-- The ports 0x40 to 0x43 with the counters the guest may expect beside them: `clock` is the time
of the last access, and `answers` pairs the bytes read with those expected. -/
structure PitPorts where
  pit : Fin 3 → PitCh := fun _ => {}
  counters : Fin 3 → PitCounter := fun _ => {}
  clock : BitVec 64 := 0
  answers : List (BitVec 8 × Nat) := []

/-- The channel of a control word. 3 is the read-back command, which is ignored. -/
def pitSelect (v : BitVec 8) : Option (Fin 3) :=
  if below : (v >>> 6).toNat < 3 then some ⟨_, below⟩ else none

namespace PitPorts

end PitPorts

/-- The product of the time since the load and the frequency fits in 64 bits. -/
def PitCh.Recent (p : PitCh) (ns : BitVec 64) : Prop :=
  p.running = true → (ns.toNat - p.baseNs.toNat) * 1193182 < 0x10000000000000000

/-- The time does not go back. A count is latched or loaded only between two whole readings and
while none is latched, 0 is not loaded, reads are of channels that are read in two bytes, and a
count is looked at within 2^64 / 1193182 ns of its load. -/
def PitPorts.Calm (s : PitPorts) (at_ : BitVec 64 × PitOp) : Prop :=
  s.clock ≤ at_.1 ∧
    match at_.2 with
    | .ctrl v => (v >>> 4).setWidth 2 = 0#2 → ∀ ch ∈ pitSelect v,
        (s.pit ch).latValid = false ∧ (s.pit ch).readHi = false ∧ (s.pit ch).Recent at_.1
    | .data ch v => ∀ value ∈ (s.pit ch).loads v,
        value ≠ 0 ∧ (s.pit ch).latValid = false ∧ (s.pit ch).readHi = false
    | .read ch => (s.pit ch).rw ≠ 1 ∧ (s.pit ch).rw ≠ 2 ∧
        ((s.pit ch).latValid = false → (s.pit ch).Recent at_.1)

/-- The channel is the counter. -/
structure PitCh.Is (p : PitCh) (c : PitCounter) (clock : BitVec 64) : Prop where
  loaded : c.loaded = if p.running then some (p.reload.toNat, p.baseNs.toNat) else none
  unloaded : p.running = false → p.reload = 0
  past : p.baseNs ≤ clock
  msb : c.msb = p.readHi
  latch : c.latch = if p.latValid then some p.latched.toNat else none

theorem toNat_pitHalf (high : Bool) (count : BitVec 16) :
    (pitHalf high count).toNat = if high then count.toNat / 256 % 256 else count.toNat % 256 := by
  unfold pitHalf
  cases high with
  | false => exact BitVec.toNat_setWidth 8 count
  | true =>
    have shifted : (count >>> 8).toNat = count.toNat / 256 :=
      Nat.shiftRight_eq_div_pow count.toNat 8
    rw [if_pos rfl, if_pos rfl, BitVec.toNat_setWidth, shifted]

namespace PitCh.Is

variable {p : PitCh} {c : PitCounter} {clock ns : BitVec 64} {v : BitVec 8}

theorem later (same : p.Is c clock) (after : clock ≤ ns) : p.Is c ns :=
  { same with past := BitVec.le_trans same.past after }

theorem count (same : p.Is c ns) (recent : p.Recent ns) :
    (p.pitNow ns).toNat = c.count ns.toNat := by
  have past : p.baseNs.toNat ≤ ns.toNat := same.past
  unfold pitNow PitCounter.count
  rw [same.loaded]
  cases runs : p.running with
  | false => simp [same.unloaded runs]
  | true =>
    have fits := recent runs
    have elapsed : (ns - p.baseNs).toNat = ns.toNat - p.baseNs.toNat :=
      BitVec.toNat_sub_of_le same.past
    -- no digit of the product is lost
    have ticks : ((ns - p.baseNs) * 1193182#64 / 1000000000#64).toNat =
        (ns.toNat - p.baseNs.toNat) * 1193182 / 1000000000 := by
      rw [BitVec.toNat_udiv, BitVec.toNat_mul, elapsed]
      exact congrArg (· / _) (Nat.mod_eq_of_lt fits)
    have small := p.reload.isLt
    simp only [Bool.not_true, Bool.false_eq_true, if_false, if_true]
    split
    · rename_i atOnce
      have now : ns.toNat - p.baseNs.toNat = 0 := Nat.sub_eq_zero_of_le atOnce
      rw [now, Nat.zero_mul, Nat.zero_div, Nat.sub_zero]
    · have wide : (p.reload.setWidth 64).toNat = p.reload.toNat :=
        BitVec.toNat_setWidth_of_le (by decide)
      split
      · rename_i over_
        rw [BitVec.le_def, wide, ticks] at over_
        exact (Nat.sub_eq_zero_of_le over_).symm
      · rename_i left
        have below := BitVec.le_of_lt (BitVec.not_le.mp left)
        rw [BitVec.toNat_setWidth, BitVec.toNat_sub_of_le below, ticks, wide]
        exact Nat.mod_eq_of_lt (by omega)

theorem data (same : p.Is c ns)
    (calm : ∀ value ∈ p.loads v, value ≠ 0 ∧ p.latValid = false ∧ p.readHi = false) :
    (p.pitWriteData ns v).Is (c.load ns.toNat (p.loads v)) ns := by
  unfold pitWriteData
  cases loads : p.loads v with
  | none => exact { same with }
  | some value =>
    obtain ⟨nonzero, free, whole⟩ := calm value loads
    refine ⟨?_, nofun, BitVec.le_refl ns, same.msb.trans whole, ?_⟩
    · show some (if value = 0 then 65536 else value.toNat, ns.toNat) = _
      rw [if_neg nonzero]
      rfl
    · show c.latch = none
      rw [same.latch, free]
      rfl

theorem read (same : p.Is c ns) (low : p.rw ≠ 1) (high : p.rw ≠ 2)
    (recent : p.latValid = false → p.Recent ns) :
    (p.pitRead ns).1.toNat = (c.read ns.toNat p.rw).1 ∧
      (p.pitRead ns).2.Is (c.read ns.toNat p.rw).2 ns := by
  have value : c.latch.getD (c.count ns.toNat) =
      (if p.latValid then p.latched else p.pitNow ns).toNat := by
    rw [same.latch]
    cases holds : p.latValid with
    | true => rw [if_pos rfl, if_pos rfl, Option.getD_some]
    | false =>
      rw [if_neg Bool.false_ne_true, if_neg Bool.false_ne_true, Option.getD_none]
      exact (same.count (recent holds)).symm
  unfold pitRead PitCounter.read
  rw [if_neg low, if_neg high, value, same.msb]
  cases holds : p.latValid <;> cases side : p.readHi
  all_goals
    refine ⟨?_, { same with msb := rfl, latch := ?_ }⟩
    · simp only [toNat_pitHalf, Bool.false_eq_true, if_false, if_true]
    · simp [same.latch, holds]

end PitCh.Is

instance pitRecentDecidable (p : PitCh) (ns : BitVec 64) : Decidable (p.Recent ns) :=
  inferInstanceAs (Decidable (_ → _ < _))

instance pitLoadsDecidable (o : Option (BitVec 16)) (p : BitVec 16 → Prop) [DecidablePred p] :
    Decidable (∀ v ∈ o, p v) :=
  Option.decidableForallMem o

instance pitCalmDecidable (s : PitPorts) : (at_ : BitVec 64 × PitOp) → Decidable (s.Calm at_)
  | (_, .ctrl _) =>
    inferInstanceAs (Decidable (_ ∧ (_ → ∀ _ ∈ _, _ = _ ∧ _ = _ ∧ PitCh.Recent _ _)))
  | (_, .data ..) => inferInstanceAs (Decidable (_ ∧ ∀ _ ∈ _, _ ≠ _ ∧ _ = _ ∧ _ = _))
  | (_, .read _) => inferInstanceAs (Decidable (_ ∧ _ ≠ _ ∧ _ ≠ _ ∧ (_ → PitCh.Recent _ _)))

end AvatarKernel
