import Mathlib.Data.Nat.Bitwise
import AvatarKernel.Lib.Counting

namespace AvatarKernel

/-- `bitmap_t`. The byte buffer is read as one little-endian number, so that bit `i % 8` of byte
`i / 8` is bit `i`; `size` counts bits. -/
structure Bitmap where
  bits : Nat
  size : Nat
  deriving DecidableEq, Repr

def bitmapInit (size : Nat) : Bitmap := ⟨0, size⟩

def bitmapSet (b : Bitmap) (index : Nat) : Bitmap :=
  if index < b.size then { b with bits := b.bits ||| 2 ^ index } else b

/-- `bits &= ~mask`, written without a complement. -/
def bitmapClear (b : Bitmap) (index : Nat) : Bitmap :=
  if index < b.size then { b with bits := b.bits ^^^ (b.bits &&& 2 ^ index) } else b

def bitmapTest (b : Bitmap) (index : Nat) : Bool :=
  if index < b.size then b.bits.testBit index else false

def bitmapSetLoop (b : Bitmap) (start : Nat) : Nat → Bitmap
  | 0 => b
  | count + 1 => bitmapSetLoop (bitmapSet b start) (start + 1) count

def bitmapSetRange (b : Bitmap) (start count : Nat) : Bitmap :=
  if start + count > b.size then b else bitmapSetLoop b start count

def bitmapClearLoop (b : Bitmap) (start : Nat) : Nat → Bitmap
  | 0 => b
  | count + 1 => bitmapClearLoop (bitmapClear b start) (start + 1) count

/-- The inner loop of both searches: the offset of the first set bit from `i` on, or `j` plus the
remaining count when there is none. -/
def bitmapScan (b : Bitmap) (i : Nat) : (remaining j : Nat) → Nat
  | 0, j => j
  | remaining + 1, j => if bitmapTest b (i + j) then j else bitmapScan b i remaining (j + 1)

/-- The outer loop of `bitmap_find_contiguous_free_from`; after an occupied bit at offset `j` the
search goes on behind it. Every round moves `i`, so `b.size + 1` rounds are enough. -/
def bitmapFindFromLoop (b : Bitmap) (count : Nat) : (rounds i : Nat) → Option Nat
  | 0, _ => none
  | rounds + 1, i =>
    if i + count ≤ b.size then
      if bitmapScan b i count 0 = count then some i
      else bitmapFindFromLoop b count rounds (i + bitmapScan b i count 0 + 1)
    else none

def bitmapFindContiguousFreeFrom (b : Bitmap) (count start : Nat) : Option Nat :=
  if count = 0 ∨ count > b.size then none
  else if start + count > b.size then none
  else bitmapFindFromLoop b count (b.size + 1) start

/-- The outer loop of `bitmap_find_contiguous_free`, which advances bit by bit. -/
def bitmapFindLoop (b : Bitmap) (count : Nat) : (rounds i : Nat) → Option Nat
  | 0, _ => none
  | rounds + 1, i =>
    if i + count ≤ b.size then
      if bitmapScan b i count 0 = count then some i
      else bitmapFindLoop b count rounds (i + 1)
    else none

def bitmapFindContiguousFree (b : Bitmap) (count : Nat) : Option Nat :=
  if count = 0 ∨ count > b.size then none else bitmapFindLoop b count (b.size + 1) 0

section SingleBit

variable (b : Bitmap) (i j : Nat)

@[simp] theorem bitmapInit_size (size : Nat) : (bitmapInit size).size = size := rfl

@[simp] theorem bitmapInit_test (size : Nat) : bitmapTest (bitmapInit size) i = false := by
  simp [bitmapTest, bitmapInit]

@[simp] theorem bitmapSet_size : (bitmapSet b i).size = b.size := by
  unfold bitmapSet
  split <;> rfl

@[simp] theorem bitmapClear_size : (bitmapClear b i).size = b.size := by
  unfold bitmapClear
  split <;> rfl

theorem bitmapTest_lt (occupied : bitmapTest b i = true) : i < b.size := by
  unfold bitmapTest at occupied
  split at occupied
  · assumption
  · contradiction

theorem bitmapSet_test :
    bitmapTest (bitmapSet b i) j = (bitmapTest b j || (decide (j = i) && decide (i < b.size))) := by
  by_cases inside : i < b.size
  · by_cases same : j = i
    · subst same
      simp [bitmapTest, bitmapSet, inside]
    · have other : Nat.testBit (2 ^ i) j = false := Nat.testBit_two_pow_of_ne (Ne.symm same)
      simp [bitmapTest, bitmapSet, inside, same, other]
  · simp [bitmapSet, inside]

theorem bitmapClear_test :
    bitmapTest (bitmapClear b i) j = (bitmapTest b j && !(decide (j = i))) := by
  by_cases inside : i < b.size
  · by_cases same : j = i
    · subst same
      simp [bitmapTest, bitmapClear, inside]
    · have other : Nat.testBit (2 ^ i) j = false := Nat.testBit_two_pow_of_ne (Ne.symm same)
      simp [bitmapTest, bitmapClear, inside, same, other]
  · by_cases same : j = i
    · subst same
      simp [bitmapTest, bitmapClear, inside]
    · simp [bitmapClear, inside, same]

end SingleBit

section Ranges

variable (b : Bitmap) (start : Nat) (count : Nat)

@[simp] theorem bitmapSetLoop_size :
    (bitmapSetLoop b start count).size = b.size := by
  induction count generalizing b start with
  | zero => rfl
  | succ _ ih => simp only [bitmapSetLoop, ih, bitmapSet_size]

@[simp] theorem bitmapClearLoop_size :
    (bitmapClearLoop b start count).size = b.size := by
  induction count generalizing b start with
  | zero => rfl
  | succ _ ih => simp only [bitmapClearLoop, ih, bitmapClear_size]

@[simp] theorem bitmapSetRange_size :
    (bitmapSetRange b start count).size = b.size := by
  unfold bitmapSetRange
  split
  · rfl
  · exact bitmapSetLoop_size b start count

theorem bitmapSetLoop_test (i : Nat) (fits : start + count ≤ b.size) :
    bitmapTest (bitmapSetLoop b start count) i = true ↔
      bitmapTest b i = true ∨ start ≤ i ∧ i < start + count := by
  induction count generalizing b start with
  | zero =>
    constructor
    · exact .inl
    · rintro (old | empty)
      · exact old
      · omega
  | succ _ ih =>
    have inside : start < b.size := by omega
    rw [bitmapSetLoop, ih (bitmapSet b start) (start + 1) (by simp; omega), bitmapSet_test]
    simp only [inside, decide_true, Bool.and_true, Bool.or_eq_true, decide_eq_true_eq]
    constructor
    · rintro ((old | rfl) | later)
      · exact .inl old
      · exact .inr (by omega)
      · exact .inr (by omega)
    · rintro (old | window)
      · exact .inl (.inl old)
      · by_cases first : i = start
        · exact .inl (.inr first)
        · exact .inr (by omega)

theorem bitmapSetRange_test (i : Nat) (fits : start + count ≤ b.size) :
    bitmapTest (bitmapSetRange b start count) i = true ↔
      bitmapTest b i = true ∨ start ≤ i ∧ i < start + count := by
  rw [bitmapSetRange, if_neg (by omega)]
  exact bitmapSetLoop_test b start count i fits

theorem bitmapClearLoop_test (i : Nat) :
    bitmapTest (bitmapClearLoop b start count) i = true ↔
      bitmapTest b i = true ∧ ¬ (start ≤ i ∧ i < start + count) := by
  induction count generalizing b start with
  | zero =>
    constructor
    · exact fun old => ⟨old, by omega⟩
    · exact And.left
  | succ _ ih =>
    rw [bitmapClearLoop, ih (bitmapClear b start) (start + 1), bitmapClear_test]
    simp only [Bool.and_eq_true, Bool.not_eq_true', decide_eq_false_iff_not]
    constructor
    · rintro ⟨⟨old, apart⟩, later⟩
      exact ⟨old, by omega⟩
    · rintro ⟨old, apart⟩
      exact ⟨⟨old, by omega⟩, by omega⟩

end Ranges

def clearBits (b : Bitmap) : Nat := Nat.count (fun i => bitmapTest b i = false) b.size

theorem clearBits_le (b : Bitmap) : clearBits b ≤ b.size := Nat.count_le _

@[simp] theorem clearBits_init (size : Nat) : clearBits (bitmapInit size) = size := by
  simp [clearBits]

theorem clearBits_of_set (b c : Bitmap) (start count : Nat) (same : c.size = b.size)
    (fits : start + count ≤ b.size)
    (clear : ∀ i, start ≤ i → i < start + count → bitmapTest b i = false)
    (test : ∀ i, bitmapTest c i = true ↔ bitmapTest b i = true ∨ start ≤ i ∧ i < start + count) :
    clearBits b = clearBits c + count := by
  unfold clearBits
  rw [same]
  apply Counting.count_window fits
  · intro i lower upper free
    simp [(test i).mpr (.inr ⟨lower, upper⟩)] at free
  · exact clear
  · intro i _ outside
    rw [← Bool.not_eq_true, ← Bool.not_eq_true, test i]
    tauto

end AvatarKernel
