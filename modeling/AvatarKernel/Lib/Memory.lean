import Mathlib.Tactic.IntervalCases

namespace Memory

open Function

universe u

variable {β : Type u}

/-- The store after a copy of `count` cells: cell `k` of the source goes to `place k`, in order, so
a later cell wins where two places coincide. -/
def scatter (store : Nat → β) (place : Nat → Nat) (source : Nat → β) : Nat → Nat → β
  | 0 => store
  | count + 1 => update (scatter store place source count) (place count) (source count)

variable {store : Nat → β} {place : Nat → Nat} {source : Nat → β}

/-- Frame rule: a cell that is no target of the copy keeps its content. -/
theorem scatter_of_miss :
    ∀ {count : Nat}, (∀ k, k < count → place k ≠ address) →
      scatter store place source count address = store address
  | 0, _ => rfl
  | count + 1, miss => by
    have other : address ≠ place count := (miss count (Nat.lt_succ_self count)).symm
    rw [scatter, update_of_ne other]
    exact scatter_of_miss fun k below => miss k (Nat.lt_succ_of_lt below)

theorem scatter_of_hit :
    ∀ {count : Nat}, (∀ i j, i < count → j < count → place i = place j → i = j) → k < count →
      scatter store place source count (place k) = source k
  | count + 1, apart, below => by
    rcases Nat.lt_succ_iff_lt_or_eq.mp below with earlier | rfl
    · have other : place k ≠ place count := fun same =>
        earlier.ne (apart k count below (Nat.lt_succ_self count) same)
      rw [scatter, update_of_ne other]
      exact scatter_of_hit (fun i j hi hj => apart i j (hi.trans (Nat.lt_succ_self _))
        (hj.trans (Nat.lt_succ_self _))) earlier
    · rw [scatter, update_self]

/-- Byte `index` of a word in little-endian order. -/
def byteAt (word : BitVec 64) (index : Nat) : BitVec 8 :=
  BitVec.ofNat 8 (word.toNat / 256 ^ index)

/-- The word that eight bytes hold in little-endian order. -/
def wordOf (bytes : Nat → BitVec 8) : BitVec 64 :=
  BitVec.ofNat 64 ((bytes 0).toNat + (bytes 1).toNat * 256 + (bytes 2).toNat * 256 ^ 2 +
    (bytes 3).toNat * 256 ^ 3 + (bytes 4).toNat * 256 ^ 4 + (bytes 5).toNat * 256 ^ 5 +
    (bytes 6).toNat * 256 ^ 6 + (bytes 7).toNat * 256 ^ 7)

theorem wordOf_byteAt (word : BitVec 64) : wordOf (byteAt word) = word := by
  apply BitVec.eq_of_toNat_eq
  have bound := word.isLt
  simp only [wordOf, byteAt, BitVec.toNat_ofNat]
  omega

theorem wordOf_congr (same : ∀ k, k < 8 → left k = right k) : wordOf left = wordOf right := by
  simp only [wordOf, same 0 (by decide), same 1 (by decide), same 2 (by decide),
    same 3 (by decide), same 4 (by decide), same 5 (by decide), same 6 (by decide),
    same 7 (by decide)]

theorem byteAt_wordOf (bytes : Nat → BitVec 8) (below : k < 8) :
    byteAt (wordOf bytes) k = bytes k := by
  apply BitVec.eq_of_toNat_eq
  have bounds := fun i => (bytes i).isLt
  have := bounds 0; have := bounds 1; have := bounds 2; have := bounds 3
  have := bounds 4; have := bounds 5; have := bounds 6; have := bounds 7
  simp only [wordOf, byteAt, BitVec.toNat_ofNat]
  interval_cases k <;> omega

end Memory
