import Mathlib.Data.Finsupp.Order
import AvatarKernel.Mm.SharedPageCount

namespace AvatarKernel

open Chain

noncomputable def SharedTable.counts (t : SharedTable) : ℕ →₀ ℕ :=
  Finsupp.onFinset (Finset.univ.image fun i => ((sharedPagesInitLocked t).entries i).paddr)
    (sharedCount t) (by
      intro paddr tracked
      unfold sharedCount at tracked
      cases hit : sharedPageFindLocked (sharedPagesInitLocked t) paddr with
      | none =>
        rw [hit] at tracked
        exact absurd rfl tracked
      | some i => exact Finset.mem_image.mpr ⟨i, Finset.mem_univ i, by simpa using walk_found hit⟩)

@[simp] theorem SharedTable.counts_apply (t : SharedTable) (paddr : Nat) :
    t.counts paddr = sharedCount t paddr := rfl

/-- A reference can be taken to an aligned non-zero address that is tracked with a count below the
largest one, or untracked while fewer than 4096 pages are tracked. -/
def RefAllowed (m : ℕ →₀ ℕ) (paddr : Nat) : Prop :=
  paddr ≠ 0 ∧ paddr % 4096 = 0 ∧
    if m paddr = 0 then m.support.card < 4096 else m paddr < 2 ^ 32 - 1

open Classical in
/-- Abstractly, taking a reference adds one to the page's count where that is allowed. -/
noncomputable def refCounts (m : ℕ →₀ ℕ) (paddr : Nat) : (ℕ →₀ ℕ) × Bool :=
  if RefAllowed m paddr then (m + Finsupp.single paddr 1, true) else (m, false)

/-- Abstractly, dropping a reference subtracts one from a tracked page's count, and the page is
free when it was the last one. -/
noncomputable def unrefCounts (m : ℕ →₀ ℕ) (paddr : Nat) : (ℕ →₀ ℕ) × Bool :=
  if m paddr = 0 ∨ paddr % 4096 ≠ 0 then (m, false)
  else (m - Finsupp.single paddr 1, decide (m paddr = 1))

namespace SharedTable

/-- Every entry is on exactly one list, the free list or the chain of its page's bucket; the lists
end, and the addresses on a chain are distinct. -/
def Partitioned (t : SharedTable) : Prop :=
  ∃ lists : Option (Fin sharedPageBuckets) → List (Fin sharedPageMax),
    (∀ k, IsChain t.next (t.heads k) (lists k) ∧ (lists k).Nodup) ∧ (∀ i, ∃! k, i ∈ lists k) ∧
      ∀ b, (∀ i ∈ lists (some b), sharedPageBucket (t.entries i).paddr = b) ∧
        ((lists (some b)).map fun i => (t.entries i).paddr).Nodup

theorem Layout.partitioned {t : SharedTable} (layout : t.Layout lists) : t.Partitioned := by
  refine ⟨lists, fun k => ⟨layout.forest.chain k, (layout.forest.chain k).nodup⟩, fun i => ?_,
    fun b => ⟨layout.bucket b, ?_⟩⟩
  · obtain ⟨k, member⟩ := layout.forest.cover i
    exact ⟨k, member, fun m other => layout.forest.apart i m k other member⟩
  · apply List.Nodup.map_on _ (layout.forest.chain (some b)).nodup
    intro i left j right same
    have usedI := (layout.count b i left).1
    have usedJ := (layout.count b j right).1
    exact layout.distinct i j (by omega) (by omega) same

theorem Valid.support_card (valid : t.Valid) : t.counts.support.card = trackedPages t := by
  obtain ⟨lists, layout⟩ := valid
  rw [trackedPages]
  symm
  apply Finset.card_bij fun i _ => ((sharedPagesInitLocked t).entries i).paddr
  · intro i member
    have used := (Finset.mem_filter.mp member).2
    rw [Finsupp.mem_support_iff, counts_apply, ← sharedCount_init, layout.count_of_entry used]
    exact used
  · intro i left j right same
    exact layout.distinct i j (Finset.mem_filter.mp left).2 (Finset.mem_filter.mp right).2 same
  · intro paddr member
    rw [Finsupp.mem_support_iff, counts_apply, ← sharedCount_init] at member
    obtain ⟨i, place, count⟩ := layout.entry_of_count member
    exact ⟨i, Finset.mem_filter.mpr ⟨Finset.mem_univ i, count ▸ member⟩, place⟩

section Simulation

variable {t : SharedTable}

theorem Valid.refAllowed_iff (valid : t.Valid) (paddr : Nat) :
    RefAllowed t.counts paddr ↔ CanRef t paddr := by
  rw [RefAllowed, CanRef, valid.support_card, counts_apply]

theorem Valid.ref_refines (valid : t.Valid) (paddr : Nat) :
    ((sharedPageRef t paddr).1.counts, (sharedPageRef t paddr).2) = refCounts t.counts paddr := by
  obtain ⟨-, can, counts⟩ := valid.ref paddr
  by_cases allowed : RefAllowed t.counts paddr
  · have done : (sharedPageRef t paddr).2 = true :=
      can.mpr ((valid.refAllowed_iff paddr).mp allowed)
    rw [refCounts, if_pos allowed, done, Prod.mk.injEq]
    refine ⟨?_, rfl⟩
    ext p
    rw [counts_apply, counts, done, Finsupp.add_apply, counts_apply]
    by_cases same : p = paddr
    · simp [same]
    · simp [same]
  · have failed : (sharedPageRef t paddr).2 = false :=
      Bool.eq_false_iff.mpr fun done => allowed ((valid.refAllowed_iff paddr).mpr (can.mp done))
    rw [refCounts, if_neg allowed, failed, Prod.mk.injEq]
    refine ⟨?_, rfl⟩
    ext p
    simp [counts, failed]

theorem Valid.unref_refines (valid : t.Valid) (pmm : Pmm) (paddr : Nat) :
    (sharedPageUnref t pmm paddr).1.counts = (unrefCounts t.counts paddr).1 ∧
      (sharedPageUnref t pmm paddr).2 =
        if (unrefCounts t.counts paddr).2 then (pmmFreePages pmm paddr 1).1 else pmm := by
  obtain ⟨-, counts, freed, -⟩ := valid.unref pmm paddr
  unfold unrefCounts
  split
  · rename_i ignored
    have zero : sharedCount t paddr = 0 := by
      rcases ignored with zero | odd
      · exact zero
      · by_contra tracked
        exact odd (valid.tracked tracked).2.1
    refine ⟨?_, ?_⟩
    · ext p
      simp only [counts_apply, counts]
      split
      · rename_i same
        rw [same, zero]
      · rfl
    · rw [freed, if_neg (by omega)]
      rfl
  · refine ⟨?_, ?_⟩
    · ext p
      rw [counts_apply, counts, Finsupp.tsub_apply, counts_apply]
      by_cases same : p = paddr
      · simp [same]
      · simp [same]
    · rw [freed]
      by_cases last : sharedCount t paddr = 1
      · simp [last]
      · simp [last]

end Simulation

end SharedTable

inductive SharedCall
  | ref (paddr : U64)
  | unref (paddr : U64)

structure SharedState where
  table : SharedTable
  pmm : Pmm

def sharedCall (s : SharedState) : SharedCall → SharedState
  | .ref paddr => ⟨(sharedPageRef s.table paddr).1, s.pmm⟩
  | .unref paddr =>
    let result := sharedPageUnref s.table s.pmm paddr
    ⟨result.1, result.2⟩

/-- What the table has to do on every call: its lists share out the entries, and both operations
act on the map it stands for as the abstract ones do. -/
structure SharedContract (s : SharedState) : Prop where
  lists : (sharedPagesInitLocked s.table).Partitioned
  ref : ∀ paddr : U64, ((sharedPageRef s.table paddr).1.counts, (sharedPageRef s.table paddr).2) =
      refCounts s.table.counts paddr
  unref : ∀ paddr : U64,
    (sharedPageUnref s.table s.pmm paddr).1.counts = (unrefCounts s.table.counts paddr).1 ∧
      (sharedPageUnref s.table s.pmm paddr).2 =
        if (unrefCounts s.table.counts paddr).2 then (pmmFreePages s.pmm paddr 1).1 else s.pmm
  ignored : ∀ paddr : U64, s.table.counts paddr = 0 ∨ paddr.val % 4096 ≠ 0 →
    sharedPagesInitLocked (sharedPageUnref s.table s.pmm paddr).1 = sharedPagesInitLocked s.table ∧
      (sharedPageUnref s.table s.pmm paddr).2 = s.pmm

theorem sharedCall_valid (valid : s.table.Valid) (c : SharedCall) :
    (sharedCall s c).table.Valid := by
  cases c with
  | ref paddr => exact (valid.ref paddr).1
  | unref paddr => exact (valid.unref s.pmm paddr).1

theorem SharedTable.Valid.contract {s : SharedState} (valid : s.table.Valid) :
    SharedContract s := by
  refine ⟨?_, fun paddr => valid.ref_refines paddr, fun paddr =>
    valid.unref_refines s.pmm paddr, ?_⟩
  · obtain ⟨lists, layout⟩ := valid
    exact layout.partitioned
  · intro paddr ignored
    have zero : sharedCount s.table paddr = 0 := by
      rcases ignored with zero | odd
      · exact zero
      · by_contra tracked
        exact odd (valid.tracked tracked).2.1
    obtain ⟨-, -, freed, same⟩ := valid.unref s.pmm paddr
    exact ⟨same zero, by rw [freed, if_neg (by omega)]⟩

/-- After every sequence of calls the table refines the finite map of counts. -/
theorem sharedPages_refine_counts (pmm : Pmm) (calls : List SharedCall) :
    SharedContract (calls.foldl sharedCall ⟨sharedBoot, pmm⟩) := by
  have keep : ∀ before call after, before.table.Valid →
      Transition.graph sharedCall before call after → after.table.Valid := by
    intro before call after valid taken
    have same : sharedCall before call = after := taken
    exact same ▸ sharedCall_valid valid call
  have valid := (Transition.run_foldl sharedCall ⟨sharedBoot, pmm⟩ calls).invariant keep
    sharedBoot_valid
  exact SharedTable.Valid.contract valid

end AvatarKernel
