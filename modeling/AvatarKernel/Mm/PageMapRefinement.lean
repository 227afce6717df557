import AvatarKernel.Mm.Frames
import AvatarKernel.Mm.Space

namespace AvatarKernel

open Function
open Transition

/-- The end of the user half: `TTBR0_EL1` covers 48 bits, the root entries from 256 on are the
kernel's on the other two targets. -/
def Arch.userLimit : Arch → Nat
  | .aarch64 => 2 ^ 48
  | .riscv64 => 2 ^ 38
  | .x86_64 => 2 ^ 47

/-- The partial map from virtual pages to physical pages that a page table stands for. -/
def pageMap (a : Arch) (mem : PhysMem) (pgd page : Nat) : Option Nat :=
  (leafOf a mem pgd page).map Leaf.pa

def lackingTables (a : Arch) (mem : PhysMem) : (level table key : Nat) → Nat
  | 0, _, _ => 0
  | level + 1, table, key =>
    let e := mem table (key / 512 ^ (level + 1) % 512)
    if pteValid e then
      if a.endsWalk e then 0 else lackingTables a mem level (a.pteAddr e) key
    else level + 1

def Pmm.canAlloc : (count : Nat) → Pmm → Prop
  | 0, _ => True
  | count + 1, p => (pmmAllocPages p 1).2 ≠ 0 ∧ Pmm.canAlloc count (pmmAllocPages p 1).1

/-- The tables that the walks to the pages of a range lack, by level and number, each of them
once. -/
def lackingOver (a : Arch) (mem : PhysMem) (pgd page count : Nat) : Finset (Nat × Nat) :=
  (Finset.range count).biUnion fun i =>
    (Finset.range (lackingTables a mem a.upperLevels pgd (page + i))).image fun level =>
      (level, tableNumber level (page + i))

/-- The pages of a range are unmapped and the tables they lack can be allocated. -/
def CanMap (a : Arch) (m : Mm) (pgd page count : Nat) : Prop :=
  (∀ i, i < count → pageMap a m.mem pgd (page + i) = none) ∧
    m.pmm.canAlloc (lackingOver a m.mem pgd page count).card

theorem Pmm.canAlloc_of_le {p : Pmm} (le : few ≤ many) (room : p.canAlloc many) :
    p.canAlloc few := by
  induction few generalizing many p with
  | zero => trivial
  | succ few ih =>
    obtain ⟨many, rfl⟩ : ∃ rest, many = rest + 1 := ⟨many - 1, by omega⟩
    exact ⟨room.1, ih (by omega) room.2⟩

theorem key_of_user (a : Arch) (user : vaddr < a.userLimit) : a.key vaddr = vaddr / 4096 := by
  apply Nat.mod_eq_of_lt
  cases a <;> simp only [Arch.userLimit, Arch.upperLevels] at user ⊢ <;> omega

theorem root_of_user (a : Arch) (user : page < a.userLimit / 4096) :
    page < 512 ^ (a.upperLevels + 1) ∧ (page / 512 ^ a.upperLevels % 512 < 256 ∨ a = .aarch64) := by
  cases a <;> simp only [Arch.userLimit, Arch.upperLevels] at user ⊢
  · exact ⟨by omega, .inr trivial⟩
  · exact ⟨by omega, .inl (by omega)⟩
  · exact ⟨by omega, .inl (by omega)⟩

/-- A page table of a process: memory holds the address space under its root, the allocator has
marked the table pages, and no entry has a software bit. -/
structure Serves (a : Arch) (m : Mm) (pgd : Nat) (s : Space) : Prop where
  fits : m.pmm.Fits
  rep : s.Represents a m.mem
  root : s.table a.upperLevels 0 = some pgd
  marked : ∀ level number page, s.table level number = some page → m.pmm.Busy page
  plain : ∀ key x, s.leaf key = some x → x.nofree = false ∧ x.keep = false
  nonzero : a = .aarch64 → ∀ key x, s.leaf key = some x → x.pa ≠ 0

namespace Serves

variable {a : Arch} {m : Mm} {pgd : Nat} {s : Space}

theorem top (serves : Serves a m pgd s) (user : page < a.userLimit / 4096) :
    s.table a.upperLevels (tableNumber a.upperLevels page) = some pgd := by
  rw [tableNumber, Nat.div_eq_of_lt (root_of_user a user).1]
  exact serves.root

protected theorem pageMap (serves : Serves a m pgd s) (user : page < a.userLimit / 4096) :
    pageMap a m.mem pgd page = (s.leaf page).map Leaf.pa := by
  rw [pageMap, serves.rep.leafOf serves.root (root_of_user a user).1]

theorem vacant (serves : Serves a m pgd s) (user : key < a.userLimit / 4096)
    (bound : level < a.upperLevels)
    (present : s.table (level + 1) (tableNumber (level + 1) key) = some table)
    (missing : s.table level (tableNumber level key) = none) :
    m.mem table (key / 512 ^ (level + 1) % 512) = 0#64 := by
  rw [← tableNumber_index] at missing
  rcases serves.rep.vacant present (Nat.mod_lt _ (by decide)) missing with
    zero | ⟨top, high, _, ends⟩
  · exact zero
  · rcases (root_of_user a user).2 with low | rfl
    · rw [← top] at low
      omega
    · cases ends

end Serves

structure Extends (a : Arch) (pgd : Nat) (s : Space) (after : Mm) (s' : Space) : Prop where
  serves : Serves a after pgd s'
  leaf : s'.leaf = s.leaf

/-- What a walk with `alloc` that arrives has added: the tables below `level` that the key lacked,
each with one page of the allocator. -/
structure Grown (a : Arch) (m after : Mm) (s s' : Space) (level table key : Nat) : Prop where
  tables : ∀ low number, s'.table low number = none ↔
    s.table low number = none ∧ ¬ (low < level ∧ number = tableNumber low key)
  room : ∀ more, m.pmm.canAlloc (lackingTables a m.mem level table key + more) ↔
    after.pmm.canAlloc more

theorem lackingTables_blank (a : Arch) (blank : ∀ i, mem table i = 0#64) (level key : Nat) :
    lackingTables a mem level table key = level := by
  cases level with
  | zero => rfl
  | succ => rw [lackingTables, blank, pteValid_zero, if_neg (by decide)]

namespace Serves

variable {a : Arch} {m : Mm} {pgd : Nat} {s : Space}

theorem addTable (serves : Serves a m pgd s) (bound : level < a.upperLevels)
    (present : s.table (level + 1) (tableNumber (level + 1) key) = some table)
    (missing : s.table level (tableNumber level key) = none) (got : (m.allocPages 1).2 ≠ 0) :
    Extends a pgd s
      (((m.allocPages 1).1.fillPage (m.allocPages 1).2 fun _ => 0#64).setWord table
        (key / 512 ^ (level + 1) % 512) (a.tablePte (m.allocPages 1).2))
      (s.setTable level (tableNumber level key) (some (m.allocPages 1).2)) ∧
    a.pteAddr (a.tablePte (m.allocPages 1).2) = (m.allocPages 1).2 ∧
    ∀ i, (((m.allocPages 1).1.fillPage (m.allocPages 1).2 fun _ => 0#64).setWord table
      (key / 512 ^ (level + 1) % 512) (a.tablePte (m.allocPages 1).2)).mem (m.allocPages 1).2 i =
        0#64 := by
  have alloc := serves.fits.alloc
  obtain ⟨free, used, aligned, small⟩ := alloc.fresh got
  have new : ∀ other place, s.table other place ≠ some (pmmAllocPages m.pmm 1).2 :=
    fun other place held => free (serves.marked other place _ held)
  refine ⟨⟨⟨alloc.fits, ?_, ?_, ?_, serves.plain, serves.nonzero⟩, rfl⟩,
    (tablePte_spec a aligned small).2.2.2, ?_⟩
  · exact serves.rep.addTable bound present missing new aligned small
  · rw [Space.setTable_table_of_ne _ (by omega)]
    exact serves.root
  · intro other place page held
    rcases Space.setTable_cases held with ⟨_, _, same⟩ | ⟨_, old⟩
    · cases same
      exact used
    · exact alloc.busy (serves.marked other place page old)
  · intro i
    have apart : (pmmAllocPages m.pmm 1).2 ≠ table := fun same => new _ _ (same ▸ present)
    show putWord (update m.mem (pmmAllocPages m.pmm 1).2 fun _ => 0#64) table _ _
      (pmmAllocPages m.pmm 1).2 i = 0#64
    rw [putWord_page_of_ne _ apart, update_self]

theorem lacking_child (serves : Serves a m pgd s)
    (present : s.table (level + 1) (tableNumber (level + 1) key) = some table)
    (below : s.table level (tableNumber level key) = some child) :
    lackingTables a m.mem (level + 1) table key = lackingTables a m.mem level child key := by
  rw [← tableNumber_index] at below
  obtain ⟨valid, goes, _, leads⟩ := serves.rep.upper present (Nat.mod_lt _ (by decide)) below
  rw [lackingTables]
  simp only [valid, goes, leads, if_true, Bool.false_eq_true, if_false]

theorem lacking_all (zero : m.mem table (key / 512 ^ (level + 1) % 512) = 0#64) :
    lackingTables a m.mem (level + 1) table key = level + 1 := by
  rw [lackingTables, zero, pteValid_zero, if_neg (by decide)]

theorem lacking_iff (user : key < a.userLimit / 4096) (serves : Serves a m pgd s) :
    ∀ (level : Nat) {table : Nat}, level ≤ a.upperLevels →
      s.table level (tableNumber level key) = some table →
        lackingTables a m.mem level table key ≤ level ∧
          ∀ low, low < level → (low < lackingTables a m.mem level table key ↔
            s.table low (tableNumber low key) = none) := by
  intro level
  induction level with
  | zero => exact fun _ _ => ⟨le_refl _, fun low below => absurd below (Nat.not_lt_zero low)⟩
  | succ level ih =>
    intro table bound present
    cases below : s.table level (tableNumber level key) with
    | some child =>
      obtain ⟨le, lacks⟩ := ih (by omega) below
      rw [serves.lacking_child present below]
      refine ⟨by omega, fun low inside => ?_⟩
      rcases Nat.lt_succ_iff_lt_or_eq.mp inside with lower | rfl
      · exact lacks low lower
      · rw [below]
        exact iff_of_false (by omega) (Option.some_ne_none _)
    | none =>
      have zero := serves.vacant user (by omega) present below
      rw [lacking_all zero]
      refine ⟨le_refl _, fun low inside => iff_of_true inside ?_⟩
      -- a table on the walk has every table above it
      by_contra there
      obtain ⟨page, here⟩ := Option.ne_none_iff_exists'.mp there
      obtain ⟨up, above⟩ := serves.rep.above here level (by omega) (by omega)
      rw [below] at above
      cases above

/-- The walk with `alloc` finds the leaf table, or makes it if the tables that are lacking can be
allocated. The mappings stay as they are in either case. -/
theorem walk (user : key < a.userLimit / 4096) :
    ∀ (level : Nat) {m : Mm} {s : Space} {table : Nat}, Serves a m pgd s → level ≤ a.upperLevels →
      s.table level (tableNumber level key) = some table →
        ∃ s', Extends a pgd s (walkPt a level m table key).1 s' ∧
          (∀ page index, (walkPt a level m table key).2 = some (page, index) →
            index = key % 512 ∧ s'.table 0 (key / 512) = some page ∧
              Grown a m (walkPt a level m table key).1 s s' level table key) ∧
          ((walkPt a level m table key).2.isSome = true ↔
            m.pmm.canAlloc (lackingTables a m.mem level table key)) := by
  intro level
  induction level with
  | zero =>
    intro m s table serves _ present
    refine ⟨s, ⟨serves, rfl⟩, ?_, ?_⟩
    · intro page index found
      cases found
      refine ⟨rfl, present, ⟨?_, ?_⟩⟩
      · exact fun low _ => (and_iff_left fun inside => Nat.not_lt_zero low inside.1).symm
      · intro more
        rw [lackingTables, Nat.zero_add]
        rfl
    · exact iff_of_true rfl trivial
  | succ level ih =>
    intro m s table serves bound present
    cases below : s.table level (tableNumber level key) with
    | some child =>
      have link := below
      rw [← tableNumber_index] at link
      obtain ⟨valid, goes, _, leads⟩ := serves.rep.upper present (Nat.mod_lt _ (by decide)) link
      have next : walkPt a (level + 1) m table key = walkPt a level m child key := by
        rw [walkPt]
        simp only [valid, goes, leads, if_true, Bool.false_eq_true, if_false]
      have same := serves.lacking_child present below
      rw [next, same]
      obtain ⟨s', more, found, room⟩ := ih serves (by omega) below
      refine ⟨s', more, fun page index spot => ?_, room⟩
      obtain ⟨place, bottom, grown⟩ := found page index spot
      refine ⟨place, bottom, ⟨fun low number => ?_, same ▸ grown.room⟩⟩
      rw [grown.tables]
      refine and_congr_right fun missing => not_congr (and_congr_left fun here => ?_)
      -- the table of the next level is there already
      subst here
      refine ⟨fun inside => by omega, fun inside => ?_⟩
      rcases Nat.lt_succ_iff_lt_or_eq.mp inside with lower | rfl
      · exact lower
      · rw [below] at missing
        cases missing
    | none =>
      have zero := serves.vacant user (by omega) present below
      have lacks := lacking_all (a := a) zero
      rw [lacks]
      by_cases got : (m.allocPages 1).2 = 0
      · have fails : walkPt a (level + 1) m table key = ((m.allocPages 1).1, none) := by
          rw [walkPt]
          simp only [zero, pteValid_zero, Bool.false_eq_true, if_false, got, if_true]
        rw [fails]
        refine ⟨s,
          ⟨⟨serves.fits.alloc.fits, serves.rep, serves.root, ?_, serves.plain,
            serves.nonzero⟩, rfl⟩,
          nofun, iff_of_false (by simp) fun room => room.1 got⟩
        exact fun other place page held =>
          serves.fits.alloc.busy (serves.marked other place page held)
      · obtain ⟨extended, leads, blank⟩ := serves.addTable (by omega) present below got
        have next : walkPt a (level + 1) m table key = walkPt a level
            (((m.allocPages 1).1.fillPage (m.allocPages 1).2 fun _ => 0#64).setWord table
              (key / 512 ^ (level + 1) % 512) (a.tablePte (m.allocPages 1).2))
            (m.allocPages 1).2 key := by
          rw [walkPt]
          simp only [zero, pteValid_zero, Bool.false_eq_true, if_false, got, leads]
        rw [next]
        obtain ⟨s', more, found, room⟩ :=
          ih extended.serves (by omega) (Space.setTable_table_self ..)
        refine ⟨s', ⟨more.serves, more.leaf.trans extended.leaf⟩, fun page index spot => ?_,
          room.trans ?_⟩
        · obtain ⟨place, bottom, grown⟩ := found page index spot
          refine ⟨place, bottom, ⟨fun low number => ?_, fun further => ?_⟩⟩
          · rw [grown.tables, Space.setTable_none_iff]
            constructor
            · rintro ⟨⟨missing, other⟩, outside⟩
              refine ⟨missing, fun ⟨inside, here⟩ => ?_⟩
              rcases Nat.lt_succ_iff_lt_or_eq.mp inside with lower | rfl
              · exact outside ⟨lower, here⟩
              · exact other ⟨rfl, here⟩
            · rintro ⟨missing, outside⟩
              refine ⟨⟨missing, ?_⟩, fun inside => outside ⟨by omega, inside.2⟩⟩
              rintro ⟨rfl, here⟩
              exact outside ⟨by omega, here⟩
          · rw [← grown.room further, lackingTables_blank a blank, lacks, Nat.add_right_comm]
            exact and_iff_right got
        · rw [lackingTables_blank a blank]
          exact (and_iff_right got).symm

theorem extend (serves : Serves a m pgd s) (more : Extends a pgd s after s')
    (user : page < a.userLimit / 4096) :
    pageMap a after.mem pgd page = pageMap a m.mem pgd page := by
  rw [more.serves.pageMap user, serves.pageMap user, more.leaf]

theorem setLeaf (serves : Serves a m pgd s) (bottom : s.table 0 (key / 512) = some page)
    (blank : x = none → w = 0#64) (holds : a.decode w = x)
    (plain : ∀ y, x = some y → y.nofree = false ∧ y.keep = false ∧ (a = .aarch64 → y.pa ≠ 0)) :
    Serves a (m.setWord page (key % 512) w) pgd (s.setLeaf key x) where
  fits := serves.fits
  rep := by
    subst holds
    exact serves.rep.setLeaf bottom blank
  root := serves.root
  marked := serves.marked
  plain := by
    intro other y present
    rcases Space.setLeaf_cases present with ⟨_, new⟩ | ⟨_, old⟩
    · exact ⟨(plain y new).1, (plain y new).2.1⟩
    · exact serves.plain other y old
  nonzero := by
    intro arch other y present
    rcases Space.setLeaf_cases present with ⟨_, new⟩ | ⟨_, old⟩
    · exact (plain y new).2.2 arch
    · exact serves.nonzero arch other y old

end Serves

/-- What one round of `mm_vm_map_pages` has to do: it succeeds iff the page is unmapped and the
tables it lacks can be allocated, and then changes exactly that page. -/
structure MapsOne (a : Arch) (m : Mm) (pgd vaddr paddr : Nat) : Prop where
  succeeds : (mapPage a m pgd vaddr paddr).2 = true ↔ pageMap a m.mem pgd (vaddr / 4096) = none ∧
      m.pmm.canAlloc (lackingTables a m.mem a.upperLevels pgd (vaddr / 4096))
  changes : ∀ page, page < a.userLimit / 4096 →
    pageMap a (mapPage a m pgd vaddr paddr).1.mem pgd page =
      if (mapPage a m pgd vaddr paddr).2 = true ∧ page = vaddr / 4096 then some paddr
      else pageMap a m.mem pgd page

section MapPage

variable {a : Arch} {m : Mm} {pgd vaddr paddr : Nat} {s : Space}

protected theorem Serves.mapPage (serves : Serves a m pgd s) (user : vaddr < a.userLimit)
    (aligned : paddr % 4096 = 0) (small : paddr < physLimit) (real : a = .aarch64 → paddr ≠ 0) :
    MapsOne a m pgd vaddr paddr ∧ ∃ s', Serves a (mapPage a m pgd vaddr paddr).1 pgd s' ∧
      ((mapPage a m pgd vaddr paddr).2 = true →
        Grown a m (mapPage a m pgd vaddr paddr).1 s s' a.upperLevels pgd (vaddr / 4096)) := by
  have low : vaddr / 4096 < a.userLimit / 4096 := by
    cases a <;> simp only [Arch.userLimit] at user ⊢ <;> omega
  have key := key_of_user a user
  obtain ⟨s', more, found, room⟩ :=
    Serves.walk low a.upperLevels serves (le_refl _) (serves.top low)
  have same : ∀ page, page < a.userLimit / 4096 →
      pageMap a (walkPt a a.upperLevels m pgd (vaddr / 4096)).1.mem pgd page =
        pageMap a m.mem pgd page := fun page user => serves.extend more user
  cases walked : walkPt a a.upperLevels m pgd (vaddr / 4096) with
  | mk after spot =>
    rw [walked] at more found room same
    dsimp only at more found room same
    cases spot with
    | none =>
      have fails : mapPage a m pgd vaddr paddr = (after, false) := by
        rw [mapPage, key, walked]
      refine ⟨⟨?_, ?_⟩, s', ?_⟩ <;> rw [fails]
      · exact iff_of_false (by simp) fun both => absurd (room.mpr both.2) (by simp)
      · intro page user
        exact same page user
      · exact ⟨more.serves, nofun⟩
    | some place =>
      obtain ⟨page, index⟩ := place
      obtain ⟨rfl, bottom, grown⟩ := found page index rfl
      have free := room.mp rfl
      have reads := more.serves.rep.lower bottom (Nat.mod_lt (vaddr / 4096) (by decide))
      rw [Nat.div_add_mod'] at reads
      have before : pageMap a m.mem pgd (vaddr / 4096) = (s'.leaf (vaddr / 4096)).map Leaf.pa := by
        rw [← same _ low]
        exact more.serves.pageMap low
      cases leaf : s'.leaf (vaddr / 4096) with
      | some =>
        rw [leaf] at reads before
        have valid : pteValid (after.mem page (vaddr / 4096 % 512)) = true := by
          apply pteValid_of_leafValid a
          by_contra invalid
          rw [Arch.decode, if_neg invalid] at reads
          cases reads
        have fails : mapPage a m pgd vaddr paddr = (after, false) := by
          rw [mapPage, key, walked]
          simp only [valid, if_true]
        refine ⟨⟨?_, ?_⟩, s', ?_⟩ <;> rw [fails]
        · exact iff_of_false (by simp) fun both => by simp [before] at both
        · intro page user
          exact same page user
        · exact ⟨more.serves, nofun⟩
      | none =>
        rw [leaf] at before
        have clear := more.serves.rep.clear bottom (Nat.mod_lt (vaddr / 4096) (by decide))
        rw [Nat.div_add_mod'] at clear
        have zero := clear leaf
        have holds := decode_leafPte a aligned small
        have done : mapPage a m pgd vaddr paddr =
            (after.setWord page (vaddr / 4096 % 512) (a.leafPte 0#64 paddr), true) := by
          rw [mapPage, key, walked]
          simp only [zero, pteValid_zero, Bool.false_eq_true, if_false]
        have mapped : Serves a (after.setWord page (vaddr / 4096 % 512) (a.leafPte 0#64 paddr)) pgd
            (s'.setLeaf (vaddr / 4096) (some ⟨paddr, false, false⟩)) := by
          apply more.serves.setLeaf (x := some ⟨paddr, false, false⟩) bottom
            (fun gone => absurd gone (Option.some_ne_none _)) holds
          intro y same
          cases same
          exact ⟨rfl, rfl, real⟩
        refine ⟨⟨?_, ?_⟩, s'.setLeaf (vaddr / 4096) (some ⟨paddr, false, false⟩), ?_⟩ <;> rw [done]
        · exact iff_of_true rfl ⟨before, free⟩
        · intro other user
          rw [mapped.pageMap user]
          by_cases here : other = vaddr / 4096
          · rw [if_pos ⟨rfl, here⟩, here, Space.setLeaf_leaf_self]
            rfl
          · rw [if_neg fun both => here both.2, Space.setLeaf_leaf_of_ne _ here, ← same other user]
            exact (more.serves.pageMap user).symm
        · exact ⟨mapped, fun _ => ⟨grown.tables, grown.room⟩⟩

end MapPage

section MapPages

variable {a : Arch} {m : Mm} {pgd vaddr paddr : Nat} {s : Space}

theorem Serves.mem_lackingOver (serves : Serves a m pgd s)
    (user : page + count ≤ a.userLimit / 4096)
    (level number : Nat) : (level, number) ∈ lackingOver a m.mem pgd page count ↔
      level < a.upperLevels ∧ s.table level number = none ∧
        ∃ i, i < count ∧ number = tableNumber level (page + i) := by
  have lacking (i : Nat) (inside : i < count) :=
    have low : page + i < a.userLimit / 4096 := by omega
    serves.lacking_iff low a.upperLevels (le_refl _) (serves.top low)
  simp only [lackingOver, Finset.mem_biUnion, Finset.mem_range, Finset.mem_image, Prod.mk.injEq]
  constructor
  · rintro ⟨i, inside, _, below, rfl, rfl⟩
    obtain ⟨le, lacks⟩ := lacking i inside
    exact ⟨by omega, (lacks _ (by omega)).mp below, i, inside, rfl⟩
  · rintro ⟨upper, missing, i, inside, rfl⟩
    exact ⟨i, inside, level, ((lacking i inside).2 level upper).mpr missing, rfl, rfl⟩

theorem card_lackingOver_one (a : Arch) (mem : PhysMem) (pgd page : Nat) :
    (lackingOver a mem pgd page 1).card = lackingTables a mem a.upperLevels pgd page := by
  rw [lackingOver, Finset.range_one, Finset.singleton_biUnion, Finset.card_image_of_injective,
    Finset.card_range, Nat.add_zero]
  exact fun first second same => congrArg Prod.fst same

theorem canMap_zero (a : Arch) (m : Mm) (pgd page : Nat) : CanMap a m pgd page 0 :=
  ⟨fun i below => absurd below (Nat.not_lt_zero i), trivial⟩

theorem lackingOver_succ (a : Arch) (mem : PhysMem) (pgd page count : Nat) :
    lackingOver a mem pgd page (count + 1) =
      lackingOver a mem pgd (page + 1) count ∪ lackingOver a mem pgd page 1 := by
  ext lacking
  simp only [lackingOver, Finset.mem_union, Finset.mem_biUnion, Finset.mem_range,
    Nat.exists_lt_succ_left, Nat.lt_one_iff, exists_eq_left, Nat.add_zero, Nat.add_assoc,
    Nat.add_comm 1]
  exact or_comm

/-- A range can be mapped iff its first page can be mapped and, after that, the others. -/
theorem Serves.canMap_succ (serves : Serves a m pgd s) (one : MapsOne a m pgd vaddr paddr)
    (next : Serves a (mapPage a m pgd vaddr paddr).1 pgd s')
    (grown : (mapPage a m pgd vaddr paddr).2 = true →
      Grown a m (mapPage a m pgd vaddr paddr).1 s s' a.upperLevels pgd (vaddr / 4096))
    (user : vaddr / 4096 + (count + 1) ≤ a.userLimit / 4096) :
    CanMap a m pgd (vaddr / 4096) (count + 1) ↔ (mapPage a m pgd vaddr paddr).2 = true ∧
      CanMap a (mapPage a m pgd vaddr paddr).1 pgd (vaddr / 4096 + 1) count := by
  have pages : (∀ i, i < count + 1 → pageMap a m.mem pgd (vaddr / 4096 + i) = none) ↔
      pageMap a m.mem pgd (vaddr / 4096) = none ∧
        ∀ i, i < count → pageMap a m.mem pgd (vaddr / 4096 + 1 + i) = none := by
    simp only [Nat.forall_lt_succ_left, Nat.add_zero, Nat.add_assoc, Nat.add_comm 1]
  have total : (lackingOver a m.mem pgd (vaddr / 4096) (count + 1)).card =
      lackingTables a m.mem a.upperLevels pgd (vaddr / 4096) +
        (lackingOver a m.mem pgd (vaddr / 4096 + 1) count \
          lackingOver a m.mem pgd (vaddr / 4096) 1).card := by
    rw [lackingOver_succ, ← Finset.card_sdiff_add_card, card_lackingOver_one, Nat.add_comm]
  unfold CanMap
  rw [pages, total]
  by_cases done : (mapPage a m pgd vaddr paddr).2 = true
  · obtain ⟨free, _⟩ := one.succeeds.mp done
    have rest : lackingOver a (mapPage a m pgd vaddr paddr).1.mem pgd (vaddr / 4096 + 1) count =
        lackingOver a m.mem pgd (vaddr / 4096 + 1) count \
          lackingOver a m.mem pgd (vaddr / 4096) 1 := by
      ext ⟨level, number⟩
      rw [Finset.mem_sdiff, next.mem_lackingOver (by omega), serves.mem_lackingOver (by omega),
        serves.mem_lackingOver (by omega), (grown done).tables]
      constructor
      · rintro ⟨upper, ⟨missing, outside⟩, there⟩
        refine ⟨⟨upper, missing, there⟩, ?_⟩
        rintro ⟨_, _, i, zero, here⟩
        obtain rfl : i = 0 := by omega
        exact outside ⟨upper, here⟩
      · rintro ⟨⟨upper, missing, there⟩, outside⟩
        exact ⟨upper, ⟨missing, fun here => outside ⟨upper, missing, 0, by omega, here.2⟩⟩, there⟩
    have unmapped (i : Nat) (inside : i < count) :
        pageMap a (mapPage a m pgd vaddr paddr).1.mem pgd (vaddr / 4096 + 1 + i) =
          pageMap a m.mem pgd (vaddr / 4096 + 1 + i) := by
      rw [one.changes _ (by omega), if_neg (by omega)]
    have others : (∀ i, i < count →
        pageMap a (mapPage a m pgd vaddr paddr).1.mem pgd (vaddr / 4096 + 1 + i) = none) ↔
          ∀ i, i < count → pageMap a m.mem pgd (vaddr / 4096 + 1 + i) = none :=
      forall₂_congr fun i inside => by rw [unmapped i inside]
    rw [rest, ← (grown done).room, others]
    exact ⟨fun both => ⟨done, both.1.2, both.2⟩, fun both => ⟨⟨free, both.2.1⟩, both.2.2⟩⟩
  · refine iff_of_false (fun both => done (one.succeeds.mpr ⟨both.1.1, ?_⟩)) fun both => done both.1
    exact Pmm.canAlloc_of_le (by omega) both.2

/-- What `mm_vm_map_pages` has to do: it succeeds iff all its pages can be mapped, and it maps a
page of its range iff the pages up to that one can be mapped. -/
structure MapsAll (a : Arch) (m : Mm) (pgd vaddr paddr count : Nat) : Prop where
  succeeds : (mapPages a count m pgd vaddr paddr).2 = true ↔ CanMap a m pgd (vaddr / 4096) count
  changes : ∀ page, page < a.userLimit / 4096 →
    (vaddr / 4096 ≤ page → page < vaddr / 4096 + count →
      CanMap a m pgd (vaddr / 4096) (page - vaddr / 4096 + 1) →
        pageMap a (mapPages a count m pgd vaddr paddr).1.mem pgd page =
          some (paddr + (page - vaddr / 4096) * 4096)) ∧
    (¬ (vaddr / 4096 ≤ page ∧ page < vaddr / 4096 + count ∧
      CanMap a m pgd (vaddr / 4096) (page - vaddr / 4096 + 1)) →
        pageMap a (mapPages a count m pgd vaddr paddr).1.mem pgd page = pageMap a m.mem pgd page)

protected theorem Serves.mapPages : ∀ (count : Nat) {m : Mm} {s : Space} {vaddr paddr : Nat},
    Serves a m pgd s → vaddr + count * 4096 ≤ a.userLimit → paddr % 4096 = 0 →
      paddr + count * 4096 ≤ 2 ^ 44 → (a = .aarch64 → paddr ≠ 0) →
      MapsAll a m pgd vaddr paddr count ∧
        ∃ s', Serves a (mapPages a count m pgd vaddr paddr).1 pgd s' := by
  intro count
  induction count with
  | zero =>
    intro m s vaddr paddr serves _ _ _ _
    refine ⟨⟨iff_of_true rfl (canMap_zero ..), ?_⟩, s, serves⟩
    exact fun page _ => ⟨fun _ _ => by omega, fun _ => rfl⟩
  | succ count ih =>
    intro m s vaddr paddr serves user aligned small real
    have low : vaddr < a.userLimit := by omega
    have pages (more : Nat) (within : more ≤ count) :
        vaddr / 4096 + (more + 1) ≤ a.userLimit / 4096 := by
      rw [Nat.le_div_iff_mul_le (by decide)]
      omega
    obtain ⟨one, s', next, grown⟩ := serves.mapPage low aligned (show paddr < 2 ^ 48 by omega) real
    have can (more : Nat) (within : more ≤ count) :=
      serves.canMap_succ one next grown (pages more within)
    cases done : (mapPage a m pgd vaddr paddr).2 with
    | false =>
      have stops : mapPages a (count + 1) m pgd vaddr paddr =
          ((mapPage a m pgd vaddr paddr).1, false) := by
        rw [mapPages]
        split <;> simp_all
      rw [done] at can
      refine ⟨⟨?_, fun page inUser => ⟨fun above below fits => ?_, fun _ => ?_⟩⟩, s', ?_⟩
      · rw [stops, can count (le_refl _)]
        simp
      · rw [can _ (by omega)] at fits
        exact absurd fits.1 (by simp)
      · rw [stops, one.changes page inUser, done, if_neg (by simp)]
      · rw [stops]
        exact next
    | true =>
      have goes : mapPages a (count + 1) m pgd vaddr paddr =
          mapPages a count (mapPage a m pgd vaddr paddr).1 pgd (vaddr + 4096) (paddr + 4096) := by
        rw [mapPages]
        split <;> simp_all
      have after : (vaddr + 4096) / 4096 = vaddr / 4096 + 1 := by omega
      obtain ⟨⟨succeeds, changes⟩, served⟩ := ih next
        (show vaddr + 4096 + count * 4096 ≤ a.userLimit by omega)
        (show (paddr + 4096) % 4096 = 0 by omega) (by omega) fun _ => by omega
      rw [after] at succeeds changes
      refine ⟨⟨?_, fun page inUser => ?_⟩, goes ▸ served⟩
      · rw [goes, succeeds, can count (le_refl _)]
        exact (and_iff_right done).symm
      · obtain ⟨maps, keeps⟩ := changes page inUser
        have before := one.changes page inUser
        rw [goes]
        constructor
        · intro above below fits
          rcases Nat.lt_or_eq_of_le above with later | rfl
          · rw [can _ (by omega), show page - vaddr / 4096 = page - (vaddr / 4096 + 1) + 1 by omega]
              at fits
            rw [maps later (by omega) fits.2, Nat.add_assoc]
            congr 2
            omega
          · rw [keeps fun inside =>
              by omega, before, if_pos ⟨done, rfl⟩, Nat.sub_self, Nat.zero_mul,
              Nat.add_zero]
        · intro outside
          have first : page ≠ vaddr / 4096 := by
            rintro rfl
            refine outside ⟨le_refl _, by omega, ?_⟩
            rw [can _ (by omega), Nat.sub_self]
            exact ⟨done, canMap_zero ..⟩
          rw [keeps fun inside => outside ⟨by omega, by omega, ?_⟩, before,
            if_neg fun here => first here.2]
          rw [can _ (by omega), show page - vaddr / 4096 = page - (vaddr / 4096 + 1) + 1 by omega]
          exact ⟨done, inside.2.2⟩

end MapPages

/-- What `mm_vm_unmap_page` has to do: it removes exactly that page and reports whether it
existed. -/
structure UnmapsOne (a : Arch) (m : Mm) (pgd vaddr : Nat) : Prop where
  reports : (unmapPage a m pgd vaddr).2 = (pageMap a m.mem pgd (vaddr / 4096)).isSome
  changes : ∀ page, page < a.userLimit / 4096 → pageMap a (unmapPage a m pgd vaddr).1.mem pgd page =
      if page = vaddr / 4096 then none else pageMap a m.mem pgd page

section UnmapPage

variable {a : Arch} {m : Mm} {pgd vaddr : Nat} {s : Space}

theorem Serves.spot (serves : Serves a m pgd s) (user : page < a.userLimit / 4096)
    (leaf : s.leaf page = some x) :
    ∃ table, s.table 0 (page / 512) = some table ∧
      findPte a m.mem a.upperLevels pgd page = some (table, page % 512) ∧
      a.decode (m.mem table (page % 512)) = some x := by
  obtain ⟨table, bottom⟩ := serves.rep.leafTable leaf
  have reads := serves.rep.lower bottom (Nat.mod_lt page (by decide))
  rw [Nat.div_add_mod', leaf] at reads
  refine ⟨table, bottom, ?_, reads⟩
  rw [serves.rep.findPte page (le_refl _) (serves.top user), bottom]
  rfl

theorem decode_some (holds : a.decode e = some x) :
    a.leafValid e = true ∧ a.pteAddr e = x.pa ∧ e.getLsbD a.nofreeBit = x.nofree ∧
      e.getLsbD a.keepBit = x.keep := by
  rw [Arch.decode] at holds
  split at holds
  case isTrue valid =>
    cases holds
    exact ⟨valid, rfl, rfl, rfl⟩
  case isFalse => cases holds

theorem getPaddr_user (mem : PhysMem) (pgd : Nat) (user : vaddr < a.userLimit)
    (aligned : vaddr % 4096 = 0) :
    getPaddr a mem pgd vaddr = (pageMap a mem pgd (vaddr / 4096)).getD 0 := by
  rw [getPaddr_of_aligned a mem pgd aligned, key_of_user a user]
  rfl

protected theorem Serves.unmapPage (serves : Serves a m pgd s) (user : vaddr < a.userLimit)
    (aligned : vaddr % 4096 = 0)
    (foreign : ∀ paddr, pageMap a m.mem pgd (vaddr / 4096) = some paddr →
      ∀ level number, s.table level number ≠ some paddr) :
    UnmapsOne a m pgd vaddr ∧ ∃ s', Serves a (unmapPage a m pgd vaddr).1 pgd s' := by
  have low : vaddr / 4096 < a.userLimit / 4096 := by
    cases a <;> simp only [Arch.userLimit] at user ⊢ <;> omega
  have address := getPaddr_user m.mem pgd user aligned
  have before := serves.pageMap low
  cases leaf : s.leaf (vaddr / 4096) with
  | none =>
    rw [leaf] at before
    have stays : unmapPage a m pgd vaddr = (m, false) := by
      rw [unmapPage, key_of_user a user,
        serves.rep.findPte (vaddr / 4096) (le_refl _) (serves.top low)]
      cases bottom : s.table 0 (vaddr / 4096 / 512) with
      | none => rfl
      | some =>
        have clear := serves.rep.clear bottom (Nat.mod_lt (vaddr / 4096) (by decide))
        rw [Nat.div_add_mod'] at clear
        simp only [Option.map_some, clear leaf, leafValid_zero, Bool.not_false,
          Bool.true_or, if_true]
    refine ⟨⟨?_, ?_⟩, s, ?_⟩ <;> rw [stays]
    · rw [before]
      rfl
    · intro page _
      by_cases here : page = vaddr / 4096
      · rw [if_pos here, here, before]
        rfl
      · rw [if_neg here]
    · exact serves
  | some x =>
    rw [leaf] at before
    obtain ⟨table, bottom, found, holds⟩ := serves.spot low leaf
    obtain ⟨valid, frame, nofree, keep⟩ := decode_some holds
    obtain ⟨unshared, private'⟩ := serves.plain _ x leaf
    have finds : (decide (a = .aarch64) && getPaddr a m.mem pgd vaddr == 0) = false := by
      rw [address, before]
      by_cases arch : a = .aarch64
      · have real := serves.nonzero arch _ x leaf
        simpa [arch] using real
      · simp [arch]
    have done : unmapPage a m pgd vaddr =
        ((m.freePages x.pa 1).setWord table (vaddr / 4096 % 512) 0#64, true) := by
      rw [unmapPage, key_of_user a user, found]
      simp only [valid, Bool.not_true, Bool.false_or, finds, Bool.false_eq_true, if_false,
        releaseLeaf, keep, private', nofree, unshared, frame]
    obtain ⟨fits, keeps⟩ := serves.fits.free x.pa
    have freed : Serves a (m.freePages x.pa 1) pgd s := by
      refine ⟨fits, serves.rep, serves.root, ?_, serves.plain, serves.nonzero⟩
      intro level number page present
      apply keeps page _ (serves.marked level number page present)
      rintro rfl
      exact foreign x.pa before level number present
    have cleared := freed.setLeaf (w := 0#64) bottom (fun _ => rfl) (decode_zero a) nofun
    refine ⟨⟨?_, ?_⟩, s.setLeaf (vaddr / 4096) none, ?_⟩ <;> rw [done]
    · rw [before]
      rfl
    · intro page user
      rw [cleared.pageMap user]
      by_cases here : page = vaddr / 4096
      · rw [if_pos here, here, Space.setLeaf_leaf_self]
        rfl
      · rw [if_neg here, Space.setLeaf_leaf_of_ne _ here, serves.pageMap user]
    · exact cleared

end UnmapPage

/-- The calls on a user page table: `mm_vm_map_pages` with `VM_PERM_USER`, `mm_vm_unmap_page` and
`mm_vm_get_paddr`. -/
inductive VmCall where
  | map (vaddr paddr count : Nat)
  | unmap (vaddr : Nat)
  | lookup (vaddr : Nat)

namespace VmCall

def next (a : Arch) (pgd : Nat) (m : Mm) : VmCall → Mm
  | .map vaddr paddr count => (mapPages a count m pgd vaddr paddr).1
  | .unmap vaddr => (unmapPage a m pgd vaddr).1
  | .lookup _ => m

/-- The calls are on page-aligned user addresses and physical pages below `2 ^ 44`. -/
def InRange (a : Arch) : VmCall → Prop
  | .map vaddr paddr count => vaddr % 4096 = 0 ∧ vaddr + count * 4096 ≤ a.userLimit ∧
      paddr % 4096 = 0 ∧ paddr + count * 4096 ≤ 2 ^ 44
  | .unmap vaddr | .lookup vaddr => vaddr % 4096 = 0 ∧ vaddr < a.userLimit

instance (a : Arch) (call : VmCall) : Decidable (call.InRange a) := by
  cases call <;> unfold InRange <;> infer_instance

/-- No AArch64 mapping has frame 0, and the frame of a mapping that is removed is not one of the
page table's own pages, which `mm_vm_unmap_page` would free. -/
def Sane (a : Arch) (pgd : Nat) (m : Mm) : VmCall → Prop
  | .map _ paddr _ => a = .aarch64 → paddr ≠ 0
  | .unmap vaddr => ∀ paddr, pageMap a m.mem pgd (vaddr / 4096) = some paddr →
      ∀ key, paddr ∉ walkTables a m.mem a.upperLevels pgd key
  | .lookup _ => True

/-- What a call has to do to the partial map and to return. -/
def Meets (a : Arch) (pgd : Nat) (m : Mm) : VmCall → Prop
  | .map vaddr paddr count => MapsAll a m pgd vaddr paddr count
  | .unmap vaddr => UnmapsOne a m pgd vaddr
  | .lookup vaddr => getPaddr a m.mem pgd vaddr = (pageMap a m.mem pgd (vaddr / 4096)).getD 0

end VmCall

section Calls

variable {a : Arch} {m : Mm} {pgd vaddr paddr : Nat} {s : Space}

theorem Space.Represents.on_walk (rep : s.Represents a mem)
    (here : s.table base (tableNumber base key) = some page) :
    ∀ (level : Nat) {table : Nat}, base ≤ level → level ≤ a.upperLevels →
      s.table level (tableNumber level key) = some table →
        page ∈ walkTables a mem level table key := by
  intro level
  induction level with
  | zero =>
    intro table low _ present
    obtain rfl : base = 0 := by omega
    rw [here] at present
    cases present
    exact List.mem_singleton_self _
  | succ level ih =>
    intro table low bound present
    by_cases same : base = level + 1
    · subst same
      rw [here] at present
      cases present
      exact List.mem_cons_self
    · obtain ⟨child, below⟩ := rep.above here level (by omega) (by omega)
      have link := below
      rw [← tableNumber_index] at link
      obtain ⟨valid, goes, _, leads⟩ := rep.upper present (Nat.mod_lt _ (by decide)) link
      apply List.mem_cons_of_mem
      simp only [valid, goes, leads, Bool.not_false, Bool.and_self, if_true]
      exact ih (by omega) (by omega) below

theorem Serves.foreign (serves : Serves a m pgd s)
    (outside : ∀ key, page ∉ walkTables a m.mem a.upperLevels pgd key) (level number : Nat) :
    s.table level number ≠ some page := by
  intro present
  have place : tableNumber level (number * 512 ^ (level + 1)) = number := by
    rw [tableNumber, Nat.mul_div_cancel _ (by positivity)]
  have bound : level ≤ a.upperLevels := by
    rcases serves.rep.parent present with ⟨rfl, _⟩ | ⟨below, _⟩
    · exact le_refl _
    · omega
  rw [← place] at present
  obtain ⟨up, top⟩ := serves.rep.above present a.upperLevels bound (le_refl _)
  have root : up = pgd := by
    rcases serves.rep.parent top with ⟨_, zero⟩ | ⟨impossible, _⟩
    · rw [zero, serves.root] at top
      exact (Option.some.inj top).symm
    · omega
  subst root
  exact outside _ (serves.rep.on_walk present a.upperLevels bound (le_refl _) top)

theorem Serves.call (serves : Serves a m pgd s) {call : VmCall} (inRange : call.InRange a)
    (sane : call.Sane a pgd m) : call.Meets a pgd m ∧
      ∃ s', Serves a (call.next a pgd m) pgd s' := by
  cases call with
  | map _ _ count =>
    obtain ⟨_, user, aligned, small⟩ := inRange
    exact serves.mapPages count user aligned small sane
  | unmap =>
    apply serves.unmapPage inRange.2 inRange.1
    exact fun paddr mapped => serves.foreign (sane paddr mapped)
  | lookup => exact ⟨getPaddr_user m.mem pgd inRange.2 inRange.1, s, serves⟩

end Calls

section Fresh

variable {pl : Platform} {m : Mm}

end Fresh

end AvatarKernel
