import AvatarKernel.Mm.SharedPageTable

namespace AvatarKernel

open Function
open Chain

namespace SharedTable.Layout

variable {t u : SharedTable}
variable {lists others : Option (Fin sharedPageBuckets) → List (Fin sharedPageMax)}

theorem count_eq_iff (layout : t.Layout lists) (positive : c ≠ 0) :
    sharedCount t paddr = c ↔ ∃ i, (t.entries i).paddr = paddr ∧ (t.entries i).refcount = c := by
  constructor
  · intro same
    obtain ⟨i, place, count⟩ := layout.entry_of_count (same ▸ positive)
    exact ⟨i, place, count.trans same⟩
  · rintro ⟨i, place, count⟩
    rw [← place, layout.count_of_entry (count ▸ positive), count]

theorem count_congr (layout : t.Layout lists) (after : u.Layout others)
    (same : ∀ i, (u.entries i).refcount ≠ 0 ∧ (u.entries i).paddr = paddr ↔
      (t.entries i).refcount ≠ 0 ∧ (t.entries i).paddr = paddr)
    (counts : ∀ i, (t.entries i).refcount ≠ 0 → (t.entries i).paddr = paddr →
      (u.entries i).refcount = (t.entries i).refcount) :
    sharedCount u paddr = sharedCount t paddr := by
  by_cases tracked : sharedCount t paddr = 0
  · rw [tracked]
    apply after.count_eq_zero
    intro i used place
    have old := (same i).mp ⟨used, place⟩
    rw [← old.2, layout.count_of_entry old.1] at tracked
    exact old.1 tracked
  · obtain ⟨i, place, count⟩ := layout.entry_of_count tracked
    rw [after.count_eq_iff tracked]
    have used : (t.entries i).refcount ≠ 0 := count ▸ tracked
    exact ⟨i, ((same i).mpr ⟨used, place⟩).2, (counts i used place).trans count⟩

variable {i : Fin sharedPageMax}

theorem count_setCount (layout : t.Layout lists) (used : (t.entries i).refcount ≠ 0)
    (positive : 0 < c) (small : c < 2 ^ 32) (paddr : Nat) :
    sharedCount (t.setCount i c) paddr =
      if paddr = (t.entries i).paddr then c else sharedCount t paddr := by
  have after := layout.setCount used positive small
  have self : (t.setCount i c).entries i = { t.entries i with refcount := c } :=
    update_self ..
  have keep : ∀ j, j ≠ i → (t.setCount i c).entries j = t.entries j :=
    fun j away => update_of_ne away _ _
  split
  · rename_i here
    exact (after.count_eq_iff (Nat.pos_iff_ne_zero.mp positive)).mpr
      ⟨i, by rw [self, here], by rw [self]⟩
  · rename_i away
    apply layout.count_congr after
    · intro j
      by_cases same : j = i
      · subst same
        rw [self]
        exact ⟨fun h => absurd h.2.symm away, fun h => absurd h.2.symm away⟩
      · rw [keep j same]
    · intro j _ place
      rw [keep j fun same => away (by rw [← place, same])]

theorem count_insert (layout : t.Layout lists) (unused : (t.entries i).refcount = 0)
    (after : (t.insert b i paddr).Layout others) (p : Nat) :
    sharedCount (t.insert b i paddr) p = if p = paddr then 1 else sharedCount t p := by
  have self := t.insert_entries_self b i paddr
  split
  · rename_i here
    exact (after.count_eq_iff one_ne_zero).mpr ⟨i, by rw [self, here], by rw [self]⟩
  · rename_i away
    apply layout.count_congr after
    · intro j
      by_cases same : j = i
      · subst same
        rw [self]
        exact ⟨fun h => absurd h.2.symm away, fun h => absurd unused h.1⟩
      · rw [t.insert_entries_of_ne b i paddr same]
    · intro j used _
      have apart : j ≠ i := fun same => used (by rw [same, unused])
      rw [t.insert_entries_of_ne b i paddr apart]

theorem count_unlink (layout : t.Layout lists) (used : (t.entries i).refcount ≠ 0)
    (after : (t.unlink b prev i).Layout others) (p : Nat) :
    sharedCount (t.unlink b prev i) p = if p = (t.entries i).paddr then 0 else sharedCount t p := by
  have self := t.unlink_entries_self b prev i
  have keep : ∀ j, j ≠ i → ((t.unlink b prev i).entries j).paddr = (t.entries j).paddr ∧
      ((t.unlink b prev i).entries j).refcount = (t.entries j).refcount := by
    intro j away
    rw [t.unlink_entries_of_ne b prev i away]
    split <;> exact ⟨rfl, rfl⟩
  split
  · rename_i here
    apply after.count_eq_zero
    intro j usedJ place
    have away : j ≠ i := fun same => usedJ (by rw [same, self])
    rw [(keep j away).2] at usedJ
    rw [(keep j away).1] at place
    exact away (layout.distinct j i usedJ used (place.trans here))
  · rename_i away
    apply layout.count_congr after
    · intro j
      by_cases same : j = i
      · subst same
        rw [self]
        exact ⟨fun h => absurd rfl h.1, fun h => absurd h.2.symm away⟩
      · rw [(keep j same).1, (keep j same).2]
    · intro j _ place
      exact (keep j fun same => away (by rw [← place, same])).2

end SharedTable.Layout

def trackedPages (t : SharedTable) : Nat :=
  (Finset.univ.filter fun i => ((sharedPagesInitLocked t).entries i).refcount ≠ 0).card

theorem SharedTable.Layout.freeHead_eq_none (layout : t.Layout lists) :
    t.freeHead = none ↔ ¬ trackedPages t < sharedPageMax := by
  have chain : IsChain t.next t.freeHead (lists none) := layout.forest.chain none
  have empty : t.freeHead = none ↔ lists none = [] := by
    constructor
    · intro none'
      rw [none'] at chain
      cases shape : lists none with
      | nil => rfl
      | cons =>
        rw [shape] at chain
        exact absurd chain.head_cons (by simp)
    · intro nil
      rw [nil] at chain
      exact chain.head_nil
  have full : lists none = [] ↔ ∀ i, (t.entries i).refcount ≠ 0 := by
    rw [List.eq_nil_iff_forall_not_mem]
    exact forall_congr' fun i => not_congr (layout.mem_free i)
  rw [empty, full, trackedPages, sharedPagesInitLocked_of_ready layout.ready, Nat.not_lt]
  constructor
  · intro all
    rw [Finset.filter_true_of_mem fun i _ => all i]
    simp
  · intro many i
    have whole : (Finset.univ.filter fun i => (t.entries i).refcount ≠ 0) = Finset.univ :=
      Finset.eq_univ_of_card _ (le_antisymm (Finset.card_le_univ _) (by simpa using many))
    have member : i ∈ Finset.univ.filter fun i => (t.entries i).refcount ≠ 0 := by
      rw [whole]
      exact Finset.mem_univ i
    exact (Finset.mem_filter.mp member).2

section Operations

variable {t : SharedTable} {lists : Option (Fin sharedPageBuckets) → List (Fin sharedPageMax)}

theorem SharedTable.Valid.tracked (valid : t.Valid) (some' : sharedCount t paddr ≠ 0) :
    paddr ≠ 0 ∧ paddr % 4096 = 0 ∧ sharedCount t paddr < 2 ^ 32 := by
  obtain ⟨lists, layout⟩ := valid
  have same : sharedCount (sharedPagesInitLocked t) paddr = sharedCount t paddr := by
    rw [sharedCount, sharedPagesInitLocked_of_ready layout.ready, sharedCount]
  obtain ⟨i, place, count⟩ := layout.entry_of_count (same ▸ some')
  have member := (layout.mem_bucket i).mpr (by rw [count, same]; exact some')
  have addr := layout.addr _ i member
  have bound := (layout.count _ i member).2
  rw [place] at addr
  rw [count, same] at bound
  exact ⟨addr.1, addr.2, bound⟩

def CanRef (t : SharedTable) (paddr : Nat) : Prop :=
  paddr ≠ 0 ∧ paddr % 4096 = 0 ∧
    if sharedCount t paddr = 0 then trackedPages t < sharedPageMax
    else sharedCount t paddr < 2 ^ 32 - 1

theorem sharedPageRef_cases (ready : t.initialized = true) (paddr : Nat) :
    ((paddr = 0 ∨ paddr % 4096 ≠ 0) ∧ sharedPageRef t paddr = (t, false)) ∨
      (paddr ≠ 0 ∧ paddr % 4096 = 0 ∧
        ((∃ i, sharedPageFindLocked t paddr = some i ∧ (t.entries i).refcount = 0xFFFFFFFF ∧
            sharedPageRef t paddr = (t, false)) ∨
          (∃ i, sharedPageFindLocked t paddr = some i ∧ (t.entries i).refcount ≠ 0xFFFFFFFF ∧
            sharedPageRef t paddr = (t.setCount i ((t.entries i).refcount + 1), true)) ∨
          (sharedPageFindLocked t paddr = none ∧ t.freeHead = none ∧
            sharedPageRef t paddr = (t, false)) ∨
          ∃ i, sharedPageFindLocked t paddr = none ∧ t.freeHead = some i ∧
            sharedPageRef t paddr = (t.insert (sharedPageBucket paddr) i paddr, true))) := by
  unfold sharedPageRef
  split
  · rename_i bad
    exact .inl ⟨bad, rfl⟩
  rw [sharedPagesInitLocked_of_ready ready]
  refine .inr ⟨by omega, by omega, ?_⟩
  dsimp only
  cases sharedPageFindLocked t paddr with
  | some i =>
    by_cases full : (t.entries i).refcount = 0xFFFFFFFF
    · exact .inl ⟨i, rfl, full, if_pos full⟩
    · exact .inr (.inl ⟨i, rfl, full, if_neg full⟩)
  | none =>
    cases t.freeHead with
    | none => exact .inr (.inr (.inl ⟨rfl, rfl, rfl⟩))
    | some i => exact .inr (.inr (.inr ⟨i, rfl, rfl, rfl⟩))

namespace SharedTable

section

variable (layout : t.Layout lists)
include layout

theorem Layout.freeHead_unused (first : t.freeHead = some i) : (t.entries i).refcount = 0 := by
  have chain : IsChain t.next t.freeHead (lists none) := layout.forest.chain none
  cases shape : lists none with
  | nil =>
    rw [shape] at chain
    exact absurd (first.symm.trans chain.head_nil) (by simp)
  | cons j =>
    rw [shape] at chain
    have same : i = j := Option.some.inj (first.symm.trans chain.head_cons)
    apply (layout.mem_free i).mp
    rw [shape, same]
    exact List.mem_cons_self ..

theorem Layout.count_of_find (hit : sharedPageFindLocked t paddr = some i) :
    (t.entries i).paddr = paddr ∧ (t.entries i).refcount ≠ 0 ∧ (t.entries i).refcount < 2 ^ 32 ∧
      sharedCount t paddr = (t.entries i).refcount := by
  obtain ⟨used, place⟩ := (layout.find_eq_some paddr i).mp hit
  have bound := (layout.count _ i ((layout.mem_bucket i).mpr used)).2
  exact ⟨place, used, bound, by rw [← place, layout.count_of_entry used]⟩

theorem Layout.count_of_miss (miss : sharedPageFindLocked t paddr = none) :
    sharedCount t paddr = 0 := by
  rw [sharedCount, sharedPagesInitLocked_of_ready layout.ready, miss]

theorem Layout.ref (paddr : Nat) :
    (sharedPageRef t paddr).1.Valid ∧ ((sharedPageRef t paddr).2 = true ↔ CanRef t paddr) ∧
      ∀ p, sharedCount (sharedPageRef t paddr).1 p =
        if (sharedPageRef t paddr).2 = true ∧ p = paddr then sharedCount t p + 1
        else sharedCount t p := by
  have refused : ¬ CanRef t paddr → sharedPageRef t paddr = (t, false) →
      (sharedPageRef t paddr).1.Valid ∧ ((sharedPageRef t paddr).2 = true ↔ CanRef t paddr) ∧
        ∀ p, sharedCount (sharedPageRef t paddr).1 p =
          if (sharedPageRef t paddr).2 = true ∧ p = paddr then sharedCount t p + 1
          else sharedCount t p := by
    intro cannot result
    rw [result]
    exact ⟨layout.valid, by simpa using cannot, fun p => by simp⟩
  rcases sharedPageRef_cases layout.ready paddr with ⟨bad, result⟩ | ⟨nonzero, aligned, rest⟩
  · exact refused (fun can => bad.elim can.1 fun odd => odd can.2.1) result
  rcases rest with ⟨i, hit, full, result⟩ | ⟨i, hit, room, result⟩ | ⟨miss, empty, result⟩ |
    ⟨i, miss, first, result⟩
  · obtain ⟨place, used, bound, count⟩ := layout.count_of_find hit
    refine refused (fun can => ?_) result
    have room := can.2.2
    rw [count, if_neg used] at room
    omega
  · obtain ⟨place, used, bound, count⟩ := layout.count_of_find hit
    rw [result]
    refine ⟨(layout.setCount used (by omega) (by omega)).valid, ?_, fun p => ?_⟩
    · refine ⟨fun _ => ⟨nonzero, aligned, ?_⟩, fun _ => rfl⟩
      rw [count, if_neg used]
      omega
    · rw [layout.count_setCount used (by omega) (by omega), place]
      by_cases same : p = paddr
      · simp only [same, count, and_self, ↓reduceIte]
      · simp only [same, and_false, ↓reduceIte]
  · refine refused (fun can => ?_) result
    have room := can.2.2
    rw [if_pos (layout.count_of_miss miss)] at room
    exact layout.freeHead_eq_none.mp empty room
  · have untracked := layout.count_of_miss miss
    obtain ⟨post, after⟩ := layout.insert rfl first untracked nonzero aligned
    rw [result]
    refine ⟨after.valid, ⟨fun _ => ⟨nonzero, aligned, ?_⟩, fun _ => rfl⟩, fun p => ?_⟩
    · rw [if_pos untracked]
      by_contra full
      rw [layout.freeHead_eq_none.mpr full] at first
      exact absurd first (by simp)
    · rw [layout.count_insert (layout.freeHead_unused first) after]
      by_cases same : p = paddr
      · simp only [same, untracked, and_self, ↓reduceIte]
      · simp only [same, and_false, ↓reduceIte]

theorem Layout.unref_cases (pmm : Pmm) (paddr : Nat) :
    (sharedCount t paddr = 0 ∧ sharedPageUnref t pmm paddr = (t, pmm)) ∨
      (∃ i, (t.entries i).paddr = paddr ∧ (t.entries i).refcount = sharedCount t paddr ∧
        1 < sharedCount t paddr ∧ sharedCount t paddr < 2 ^ 32 ∧
        sharedPageUnref t pmm paddr = (t.setCount i (sharedCount t paddr - 1), pmm)) ∨
      ∃ i pre post, lists (some (sharedPageBucket paddr)) = pre ++ i :: post ∧
        (t.entries i).paddr = paddr ∧ (t.entries i).refcount = 1 ∧ sharedCount t paddr = 1 ∧
        sharedPageUnref t pmm paddr =
          (t.unlink (sharedPageBucket paddr) pre.getLast? i, (pmmFreePages pmm paddr 1).1) := by
  have ignored : (paddr = 0 ∨ paddr % 4096 ≠ 0) → sharedCount t paddr = 0 := by
    intro bad
    by_contra tracked
    have facts := layout.valid.tracked tracked
    omega
  unfold sharedPageUnref
  split
  · rename_i zero
    exact .inl ⟨ignored (.inl zero), rfl⟩
  split
  · rename_i odd
    exact .inl ⟨ignored (.inr odd), rfl⟩
  rw [sharedPagesInitLocked_of_ready layout.ready]
  dsimp only
  have walk := walkPrev_spec (fun i => (t.entries i).paddr == paddr) sharedPageMax none
    (layout.forest.chain (some (sharedPageBucket paddr))) (layout.chain_length _)
  rcases walk with ⟨none', stop⟩ | ⟨pre, i, post, place, hit, stop⟩
  · left
    refine ⟨layout.count_eq_zero fun i used same => ?_, ?_⟩
    · have member := (layout.mem_bucket i).mpr used
      rw [same] at member
      have miss := none' i member
      simp [same] at miss
    · change (walkPrev t.next _ sharedPageMax none (t.buckets (sharedPageBucket paddr))).2 =
        none at stop
      rw [stop]
  · change walkPrev t.next _ sharedPageMax none (t.buckets (sharedPageBucket paddr)) = _ at stop
    rw [stop, Option.or_none]
    have same : (t.entries i).paddr = paddr := by simpa using hit
    have member : i ∈ lists (some (sharedPageBucket paddr)) := by simp [place]
    have bounds := layout.count _ i member
    have count : sharedCount t paddr = (t.entries i).refcount := by
      rw [← same, layout.count_of_entry (by omega)]
    right
    by_cases last : (t.entries i).refcount > 1
    · left
      refine ⟨i, same, count.symm, by omega, by omega, ?_⟩
      rw [count]
      exact if_pos last
    · right
      exact ⟨i, pre, post, place, same, by omega, by omega, if_neg last⟩

theorem Layout.unref (pmm : Pmm) (paddr : Nat) :
    (sharedPageUnref t pmm paddr).1.Valid ∧ (∀ p, sharedCount (sharedPageUnref t pmm paddr).1 p =
        if p = paddr then sharedCount t p - 1 else sharedCount t p) ∧
      (sharedPageUnref t pmm paddr).2 =
        (if sharedCount t paddr = 1 then (pmmFreePages pmm paddr 1).1 else pmm) ∧
      (sharedCount t paddr = 0 → (sharedPageUnref t pmm paddr).1 = t) := by
  rcases layout.unref_cases pmm paddr with ⟨zero, result⟩ | ⟨i, place, count, more, small, result⟩ |
    ⟨i, pre, post, list, place, one, count, result⟩
  · rw [result]
    refine ⟨layout.valid, fun p => ?_, ?_, fun _ => rfl⟩
    · split
      · rename_i same
        rw [same, zero]
      · rfl
    · rw [if_neg (by omega)]
  · rw [result]
    refine ⟨(layout.setCount (by omega) (by omega) (by omega)).valid, fun p => ?_, ?_,
      fun zero => absurd zero (by omega)⟩
    · rw [layout.count_setCount (by omega) (by omega) (by omega), place]
      split
      · rename_i same
        rw [same]
      · rfl
    · rw [if_neg (by omega)]
  · have after := layout.unlink list
    rw [result]
    refine ⟨after.valid, fun p => ?_, by rw [if_pos count], fun zero => absurd zero (by omega)⟩
    rw [layout.count_unlink (by omega) after, place]
    split
    · rename_i same
      rw [same, count]
    · rfl

end

end SharedTable

end Operations

section LazyInit

variable {t : SharedTable}

section

variable (t : SharedTable)

theorem sharedPagesInitLocked_ready :
    (sharedPagesInitLocked t).initialized = true := by
  unfold sharedPagesInitLocked
  split
  · assumption
  · rfl

@[simp] theorem sharedPagesInitLocked_idem :
    sharedPagesInitLocked (sharedPagesInitLocked t) = sharedPagesInitLocked t :=
  sharedPagesInitLocked_of_ready (sharedPagesInitLocked_ready t)

@[simp] theorem sharedCount_init (paddr : Nat) :
    sharedCount (sharedPagesInitLocked t) paddr = sharedCount t paddr := by
  rw [sharedCount, sharedPagesInitLocked_idem, sharedCount]

@[simp] theorem trackedPages_init :
    trackedPages (sharedPagesInitLocked t) = trackedPages t := by
  rw [trackedPages, sharedPagesInitLocked_idem, trackedPages]

theorem sharedPageRef_init (paddr : Nat) :
    sharedPagesInitLocked (sharedPageRef t paddr).1 =
        sharedPagesInitLocked (sharedPageRef (sharedPagesInitLocked t) paddr).1 ∧
      (sharedPageRef t paddr).2 = (sharedPageRef (sharedPagesInitLocked t) paddr).2 := by
  unfold sharedPageRef
  split
  · exact ⟨(sharedPagesInitLocked_idem t).symm, rfl⟩
  · rw [sharedPagesInitLocked_idem]
    exact ⟨rfl, rfl⟩

theorem sharedPageUnref_init (pmm : Pmm) (paddr : Nat) :
    sharedPagesInitLocked (sharedPageUnref t pmm paddr).1 =
        sharedPagesInitLocked (sharedPageUnref (sharedPagesInitLocked t) pmm paddr).1 ∧
      (sharedPageUnref t pmm paddr).2 =
        (sharedPageUnref (sharedPagesInitLocked t) pmm paddr).2 := by
  unfold sharedPageUnref
  split
  · exact ⟨(sharedPagesInitLocked_idem t).symm, rfl⟩
  split
  · exact ⟨(sharedPagesInitLocked_idem t).symm, rfl⟩
  · rw [sharedPagesInitLocked_idem]
    exact ⟨rfl, rfl⟩

end

theorem valid_of_init_eq (valid : u.Valid)
    (same : sharedPagesInitLocked t = sharedPagesInitLocked u) : t.Valid := by
  rw [SharedTable.Valid, same]
  exact valid

theorem sharedCount_of_init_eq (same : sharedPagesInitLocked t = sharedPagesInitLocked u)
    (paddr : Nat) : sharedCount t paddr = sharedCount u paddr := by
  rw [← sharedCount_init t, same, sharedCount_init]

theorem SharedTable.Valid.ref (valid : t.Valid) (paddr : Nat) :
    (sharedPageRef t paddr).1.Valid ∧ ((sharedPageRef t paddr).2 = true ↔ CanRef t paddr) ∧
      ∀ p, sharedCount (sharedPageRef t paddr).1 p =
        if (sharedPageRef t paddr).2 = true ∧ p = paddr then sharedCount t p + 1
        else sharedCount t p := by
  obtain ⟨lists, layout⟩ := valid
  obtain ⟨after, can, counts⟩ := layout.ref paddr
  obtain ⟨table, result⟩ := sharedPageRef_init t paddr
  refine ⟨valid_of_init_eq after table, ?_, fun p => ?_⟩
  · rw [result, can, CanRef, CanRef, sharedCount_init, trackedPages_init]
  · rw [sharedCount_of_init_eq table, counts, result, sharedCount_init]

theorem SharedTable.Valid.unref (valid : t.Valid) (pmm : Pmm) (paddr : Nat) :
    (sharedPageUnref t pmm paddr).1.Valid ∧ (∀ p, sharedCount (sharedPageUnref t pmm paddr).1 p =
        if p = paddr then sharedCount t p - 1 else sharedCount t p) ∧
      (sharedPageUnref t pmm paddr).2 =
        (if sharedCount t paddr = 1 then (pmmFreePages pmm paddr 1).1 else pmm) ∧
      (sharedCount t paddr = 0 →
        sharedPagesInitLocked (sharedPageUnref t pmm paddr).1 = sharedPagesInitLocked t) := by
  obtain ⟨lists, layout⟩ := valid
  obtain ⟨after, counts, freed, ignored⟩ := layout.unref pmm paddr
  obtain ⟨table, result⟩ := sharedPageUnref_init t pmm paddr
  refine ⟨valid_of_init_eq after table, fun p => ?_, ?_, fun zero => ?_⟩
  · rw [sharedCount_of_init_eq table, counts, sharedCount_init]
  · rw [result, freed, sharedCount_init]
  · rw [table, ignored (by rwa [sharedCount_init]), sharedPagesInitLocked_idem]

end LazyInit

end AvatarKernel
