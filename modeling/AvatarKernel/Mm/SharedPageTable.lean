import AvatarKernel.Mm.SharedPage

namespace AvatarKernel

open Function
open Chain

def SharedTable.heads (t : SharedTable) :
    Option (Fin sharedPageBuckets) → Option (Fin sharedPageMax)
  | none => t.freeHead
  | some b => t.buckets b

/-- An initialised table whose entries are shared out to the free list and the chains of their
buckets, with distinct tracked addresses. -/
structure SharedTable.Layout (t : SharedTable)
    (lists : Option (Fin sharedPageBuckets) → List (Fin sharedPageMax)) : Prop where
  ready : t.initialized = true
  forest : Forest t.next t.heads lists
  free : ∀ i ∈ lists none, (t.entries i).paddr = 0 ∧ (t.entries i).refcount = 0
  bucket : ∀ b, ∀ i ∈ lists (some b), sharedPageBucket (t.entries i).paddr = b
  addr : ∀ b, ∀ i ∈ lists (some b), (t.entries i).paddr ≠ 0 ∧ (t.entries i).paddr % 4096 = 0
  count : ∀ b, ∀ i ∈ lists (some b), 0 < (t.entries i).refcount ∧ (t.entries i).refcount < 2 ^ 32
  distinct : ∀ i j, (t.entries i).refcount ≠ 0 → (t.entries j).refcount ≠ 0 →
    (t.entries i).paddr = (t.entries j).paddr → i = j

def SharedTable.Valid (t : SharedTable) : Prop := ∃ lists, (sharedPagesInitLocked t).Layout lists

theorem sharedPagesInitLocked_of_ready (ready : t.initialized = true) :
    sharedPagesInitLocked t = t := by
  rw [sharedPagesInitLocked, if_pos ready]

theorem SharedTable.Layout.valid {t : SharedTable} (layout : t.Layout lists) : t.Valid := by
  refine ⟨lists, ?_⟩
  rw [sharedPagesInitLocked_of_ready layout.ready]
  exact layout

def bootLists : Option (Fin sharedPageBuckets) → List (Fin sharedPageMax)
  | none => List.finRange sharedPageMax
  | some _ => []

theorem sharedBoot_valid : sharedBoot.Valid := by
  refine ⟨bootLists, rfl, ⟨?_, ?_, ?_⟩, ?_, ?_, ?_, ?_, ?_⟩
  · intro k
    cases k with
    | none =>
      exact isChain_finRange fun _ => rfl
    | some => exact .nil
  · exact fun i => ⟨none, List.mem_finRange i⟩
  · intro i k m left right
    cases k with
    | none =>
      cases m with
      | none => rfl
      | some => exact absurd right List.not_mem_nil
    | some => exact absurd left List.not_mem_nil
  · exact fun i _ => ⟨rfl, rfl⟩
  · exact fun b i member => absurd member List.not_mem_nil
  · exact fun b i member => absurd member List.not_mem_nil
  · exact fun b i member => absurd member List.not_mem_nil
  · exact fun i j tracked => absurd rfl tracked

namespace SharedTable.Layout

variable {t : SharedTable} {lists : Option (Fin sharedPageBuckets) → List (Fin sharedPageMax)}

section

variable (layout : t.Layout lists)
include layout

theorem chain_length (k : Option (Fin sharedPageBuckets)) :
    (lists k).length ≤ sharedPageMax := by
  simpa using (layout.forest.chain k).nodup.length_le_card

theorem mem_bucket (i : Fin sharedPageMax) :
    i ∈ lists (some (sharedPageBucket (t.entries i).paddr)) ↔ (t.entries i).refcount ≠ 0 := by
  constructor
  · intro member
    exact Nat.pos_iff_ne_zero.mp (layout.count _ i member).1
  · intro used
    obtain ⟨k, member⟩ := layout.forest.cover i
    cases k with
    | none => exact absurd (layout.free i member).2 used
    | some b =>
      rw [layout.bucket b i member]
      exact member

theorem mem_free (i : Fin sharedPageMax) :
    i ∈ lists none ↔ (t.entries i).refcount = 0 := by
  constructor
  · exact fun member => (layout.free i member).2
  · intro unused
    obtain ⟨k, member⟩ := layout.forest.cover i
    cases k with
    | none => exact member
    | some b => exact absurd unused (Nat.pos_iff_ne_zero.mp (layout.count b i member).1)

theorem find_eq_some (paddr : Nat) (i : Fin sharedPageMax) :
    sharedPageFindLocked t paddr = some i ↔
      (t.entries i).refcount ≠ 0 ∧ (t.entries i).paddr = paddr := by
  have found : sharedPageFindLocked t paddr =
      (lists (some (sharedPageBucket paddr))).find? fun i => (t.entries i).paddr == paddr :=
    walk_eq_find _ _ (layout.forest.chain (some (sharedPageBucket paddr))) (layout.chain_length _)
  rw [found]
  constructor
  · intro hit
    have same : (t.entries i).paddr = paddr := by simpa using List.find?_some hit
    have member := List.mem_of_find?_eq_some hit
    rw [← same] at member
    exact ⟨(layout.mem_bucket i).mp member, same⟩
  · rintro ⟨used, same⟩
    have member := (layout.mem_bucket i).mpr used
    rw [same] at member
    cases hit : (lists (some (sharedPageBucket paddr))).find? fun i =>
      (t.entries i).paddr == paddr with
    | none =>
      have miss := List.find?_eq_none.mp hit i member
      simp [same] at miss
    | some j =>
      have other : (t.entries j).paddr = paddr := by simpa using List.find?_some hit
      have memberJ := List.mem_of_find?_eq_some hit
      rw [← other] at memberJ
      have usedJ := (layout.mem_bucket j).mp memberJ
      rw [layout.distinct i j used usedJ (same.trans other.symm)]

theorem count_of_entry (used : (t.entries i).refcount ≠ 0) :
    sharedCount t (t.entries i).paddr = (t.entries i).refcount := by
  have hit := (layout.find_eq_some _ i).mpr ⟨used, rfl⟩
  rw [sharedCount, sharedPagesInitLocked_of_ready layout.ready, hit]

theorem count_eq_zero (none' : ∀ i, (t.entries i).refcount ≠ 0 → (t.entries i).paddr ≠ paddr) :
    sharedCount t paddr = 0 := by
  rw [sharedCount, sharedPagesInitLocked_of_ready layout.ready]
  cases hit : sharedPageFindLocked t paddr with
  | none => rfl
  | some i =>
    have entry := (layout.find_eq_some paddr i).mp hit
    exact absurd entry.2 (none' i entry.1)

theorem entry_of_count (tracked : sharedCount t paddr ≠ 0) :
    ∃ i, (t.entries i).paddr = paddr ∧ (t.entries i).refcount = sharedCount t paddr := by
  by_cases used : ∃ i, (t.entries i).refcount ≠ 0 ∧ (t.entries i).paddr = paddr
  · obtain ⟨i, nonzero, same⟩ := used
    refine ⟨i, same, ?_⟩
    rw [← same, layout.count_of_entry nonzero]
  · exact absurd (layout.count_eq_zero fun i nonzero same => used ⟨i, nonzero, same⟩) tracked

theorem setCount (used : (t.entries i).refcount ≠ 0) (positive : 0 < c) (small : c < 2 ^ 32) :
    (t.setCount i c).Layout lists := by
  have entry : ∀ j, ((t.setCount i c).entries j).paddr = (t.entries j).paddr ∧
      ((t.setCount i c).entries j).next = (t.entries j).next := by
    intro j
    by_cases same : j = i
    · subst same
      simp [SharedTable.setCount, SharedTable.setEntry]
    · simp [SharedTable.setCount, SharedTable.setEntry, update_of_ne same]
  have counts : ∀ j, ((t.setCount i c).entries j).refcount =
      if j = i then c else (t.entries j).refcount := by
    intro j
    by_cases same : j = i
    · subst same
      simp [SharedTable.setCount, SharedTable.setEntry]
    · simp [SharedTable.setCount, SharedTable.setEntry, same]
  have inUse : ∀ j, ((t.setCount i c).entries j).refcount ≠ 0 → (t.entries j).refcount ≠ 0 := by
    intro j nonzero
    rw [counts j] at nonzero
    by_cases same : j = i
    · exact same ▸ used
    · rwa [if_neg same] at nonzero
  refine ⟨layout.ready, ⟨fun k => ?_, layout.forest.cover, layout.forest.apart⟩, ?_, ?_, ?_, ?_, ?_⟩
  · exact (layout.forest.chain k).congr fun j _ => (entry j).2
  · intro j member
    have notI : j ≠ i := fun same => used (same ▸ (layout.free j member).2)
    rw [(entry j).1, counts j, if_neg notI]
    exact layout.free j member
  · intro b j member
    rw [(entry j).1]
    exact layout.bucket b j member
  · intro b j member
    rw [(entry j).1]
    exact layout.addr b j member
  · intro b j member
    rw [counts j]
    split
    · exact ⟨positive, small⟩
    · exact layout.count b j member
  · intro j k usedJ usedK same
    rw [(entry j).1, (entry k).1] at same
    exact layout.distinct j k (inUse j usedJ) (inUse k usedK) same

end

end SharedTable.Layout

namespace SharedTable

section Insert

variable (t : SharedTable) (b : Fin sharedPageBuckets) (i : Fin sharedPageMax) (paddr : Nat)

theorem insert_entries_self :
    (t.insert b i paddr).entries i = ⟨paddr, 1, t.buckets b⟩ :=
  update_self ..

theorem insert_entries_of_ne (away : j ≠ i) : (t.insert b i paddr).entries j = t.entries j :=
  update_of_ne away _ _

theorem insert_heads_none : (t.insert b i paddr).heads none = t.next i := rfl

theorem insert_heads_self : (t.insert b i paddr).heads (some b) = some i :=
  update_self ..

theorem insert_heads_of_ne (away : c ≠ b) :
    (t.insert b i paddr).heads (some c) = t.heads (some c) :=
  update_of_ne away _ _

end Insert

end SharedTable

namespace SharedTable.Layout

variable {t : SharedTable} {lists : Option (Fin sharedPageBuckets) → List (Fin sharedPageMax)}

theorem insert (layout : t.Layout lists) (hashed : sharedPageBucket paddr = b)
    (first : t.freeHead = some i) (fresh : sharedCount t paddr = 0) (nonzero : paddr ≠ 0)
    (aligned : paddr % 4096 = 0) :
    ∃ post, (t.insert b i paddr).Layout (moved lists none (some b) [] post i) := by
  -- the entry comes off the front of the free list
  have chain := layout.forest.chain none
  obtain ⟨post, place⟩ : ∃ post, lists none = [] ++ i :: post := by
    cases shape : lists none with
    | nil =>
      rw [shape] at chain
      exact absurd (chain.head_nil.symm.trans first) (by simp)
    | cons j post =>
      rw [shape] at chain
      have same : j = i := Option.some.inj (chain.head_cons.symm.trans first)
      exact ⟨post, by rw [same]; rfl⟩
  have self := t.insert_entries_self b i paddr
  have others : ∀ j, j ≠ i → (t.insert b i paddr).entries j = t.entries j :=
    fun j away => t.insert_entries_of_ne b i paddr away
  have untracked : ∀ j, (t.entries j).refcount ≠ 0 → (t.entries j).paddr ≠ paddr := by
    intro j used same
    rw [← same, layout.count_of_entry used] at fresh
    exact used fresh
  refine ⟨post, layout.ready, ?_, ?_, ?_, ?_, ?_, ?_⟩
  · refine layout.forest.move (by simp) place ?_ (t.insert_heads_self b i paddr) ?_
      (.inl ⟨rfl, t.insert_heads_none b i paddr, ?_⟩)
    · rw [SharedTable.next, self, SharedTable.heads]
    · intro k notFree notBucket
      cases k with
      | none => exact absurd rfl notFree
      | some => exact t.insert_heads_of_ne b i paddr fun same => notBucket (by rw [same])
    · intro j away
      rw [SharedTable.next, SharedTable.next, others j away]
  · intro j member
    have notI : j ≠ i := fun same => by
      rw [same, mem_moved_self layout.forest place] at member
      cases member
    rw [mem_moved place (by simp) j none notI] at member
    rw [others j notI]
    exact layout.free j member
  · intro c j member
    by_cases same : j = i
    · rw [same, mem_moved_self layout.forest place] at member
      rw [same, self]
      exact hashed.trans (Option.some.inj member).symm
    · rw [mem_moved place (by simp) j _ same] at member
      rw [others j same]
      exact layout.bucket c j member
  · intro b j member
    by_cases same : j = i
    · rw [same, self]
      exact ⟨nonzero, aligned⟩
    · rw [mem_moved place (by simp) j _ same] at member
      rw [others j same]
      exact layout.addr b j member
  · intro b j member
    by_cases same : j = i
    · rw [same, self]
      exact ⟨Nat.one_pos, by simp⟩
    · rw [mem_moved place (by simp) j _ same] at member
      rw [others j same]
      exact layout.count b j member
  · intro j k usedJ usedK equal
    by_cases sameJ : j = i
    · by_cases sameK : k = i
      · rw [sameJ, sameK]
      · rw [sameJ, self, others k sameK] at equal
        rw [others k sameK] at usedK
        exact absurd equal.symm (untracked k usedK)
    · rw [others j sameJ] at equal usedJ
      by_cases sameK : k = i
      · rw [sameK, self] at equal
        exact absurd equal (untracked j usedJ)
      · rw [others k sameK] at equal usedK
        exact layout.distinct j k usedJ usedK equal

end SharedTable.Layout

namespace SharedTable

section Unlink

variable (t : SharedTable) (b : Fin sharedPageBuckets) (prev : Option (Fin sharedPageMax))
variable (i : Fin sharedPageMax)

theorem unlink_entries_self : (t.unlink b prev i).entries i = ⟨0, 0, t.freeHead⟩ := by
  cases prev <;> exact update_self ..

theorem unlink_entries_of_ne (away : j ≠ i) :
    (t.unlink b prev i).entries j =
      if prev = some j then { t.entries j with next := t.next i } else t.entries j := by
  cases prev with
  | none =>
    exact update_of_ne away _ _
  | some p =>
    refine (update_of_ne away _ _).trans ?_
    by_cases same : j = p
    · subst same
      rw [if_pos rfl]
      exact update_self ..
    · rw [if_neg (by simpa using Ne.symm same)]
      exact update_of_ne same _ _

theorem unlink_heads_none : (t.unlink b prev i).heads none = some i := rfl

theorem unlink_heads_self :
    (t.unlink b prev i).heads (some b) = if prev = none then t.next i else t.heads (some b) := by
  cases prev with
  | none => exact update_self ..
  | some => rfl

theorem unlink_heads_of_ne (away : c ≠ b) :
    (t.unlink b prev i).heads (some c) = t.heads (some c) := by
  cases prev with
  | none => exact update_of_ne away _ _
  | some => rfl

end Unlink

end SharedTable

namespace SharedTable.Layout

variable {t : SharedTable} {lists : Option (Fin sharedPageBuckets) → List (Fin sharedPageMax)}

theorem unlink (layout : t.Layout lists) (place : lists (some b) = pre ++ i :: post) :
    (t.unlink b pre.getLast? i).Layout (moved lists (some b) none pre post i) := by
  have self := t.unlink_entries_self b pre.getLast? i
  have others : ∀ j, j ≠ i → ((t.unlink b pre.getLast? i).entries j).paddr = (t.entries j).paddr ∧
      ((t.unlink b pre.getLast? i).entries j).refcount = (t.entries j).refcount := by
    intro j away
    rw [t.unlink_entries_of_ne b _ i away]
    split <;> exact ⟨rfl, rfl⟩
  have nodup : (pre ++ i :: post).Nodup := by
    rw [← place]
    exact (layout.forest.chain _).nodup
  have kept : ∀ c j, j ∈ moved lists (some b) none pre post i (some c) →
      j ≠ i ∧ j ∈ lists (some c) := by
    intro c j member
    have away : j ≠ i := by
      intro same
      rw [same, mem_moved_self layout.forest place] at member
      cases member
    exact ⟨away, (mem_moved place (by simp) j _ away).mp member⟩
  refine ⟨?_, ?_, ?_, ?_, ?_, ?_, ?_⟩
  · have ready := layout.ready
    cases pre.getLast? <;> exact ready
  · refine layout.forest.move (by simp) place ?_ (t.unlink_heads_none b _ i) ?_ ?_
    · rw [SharedTable.next, self, SharedTable.heads]
    · intro k notBucket notFree
      cases k with
      | none => exact absurd rfl notFree
      | some => exact t.unlink_heads_of_ne b _ i fun same => notBucket (by rw [same])
    · rcases List.eq_nil_or_concat pre with empty | ⟨before, p, shape⟩
      · left
        refine ⟨empty, ?_, fun j away => ?_⟩
        · rw [t.unlink_heads_self, empty]
          rfl
        · rw [SharedTable.next, SharedTable.next, t.unlink_entries_of_ne b _ i away, empty]
          rfl
      · right
        have last : pre.getLast? = some p := by rw [shape]; simp
        have apart : p ≠ i := by
          rw [shape, List.concat_append] at nodup
          have pair := (List.nodup_append.mp nodup).2.1
          exact fun same => (List.nodup_cons.mp pair).1 (same ▸ List.mem_cons_self ..)
        refine ⟨before, p, by simpa using shape, ?_, ?_, fun j away notP => ?_⟩
        · rw [t.unlink_heads_self, last, if_neg (by simp)]
        · rw [SharedTable.next, t.unlink_entries_of_ne b _ i apart, if_pos last]
        · rw [SharedTable.next, SharedTable.next, t.unlink_entries_of_ne b _ i away, last,
            if_neg (by simpa using Ne.symm notP)]
  · intro j member
    by_cases same : j = i
    · rw [same, self]
      exact ⟨rfl, rfl⟩
    · rw [mem_moved place (by simp) j none same] at member
      rw [(others j same).1, (others j same).2]
      exact layout.free j member
  · intro c j member
    obtain ⟨away, old⟩ := kept c j member
    rw [(others j away).1]
    exact layout.bucket c j old
  · intro c j member
    obtain ⟨away, old⟩ := kept c j member
    rw [(others j away).1]
    exact layout.addr c j old
  · intro c j member
    obtain ⟨away, old⟩ := kept c j member
    rw [(others j away).2]
    exact layout.count c j old
  · intro j k usedJ usedK same
    have awayJ : j ≠ i := fun equal => usedJ (by rw [equal, self])
    have awayK : k ≠ i := fun equal => usedK (by rw [equal, self])
    rw [(others j awayJ).1, (others k awayK).1] at same
    rw [(others j awayJ).2] at usedJ
    rw [(others k awayK).2] at usedK
    exact layout.distinct j k usedJ usedK same

end SharedTable.Layout

end AvatarKernel
